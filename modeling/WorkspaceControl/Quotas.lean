/-
**Quotas.**

`src/src/storage/workspace_admission.rs` and `src/src/quota.rs` compare what the workspaces of an
organization and of a user add up to with the limits that administrators have set.  The comparison
is made when a workspace is created, and only then: the updates that give a workspace a larger
home volume do not ask.

Main definitions:

* `QuotaSubject`, `QuotaDimension`, `Database.usage` — who is limited in what, and the totals;
* `StoreCall.Provisions` — the creation of a workspace and the updates of its settings;
* `StoreCall.KeepsHomeSize` — the home volume does not become larger.

Main results:

* `admitQuota_within` — the totals that an admission computes are the exact ones, and within the
  limits;
* `committed_growth_within_quota` — **growth stays within the quotas**, as long as no update
  enlarges a home volume;
* `home_capacity_exceeds_quota` — an update that does.
-/

import Mathlib.Algebra.Order.BigOperators.Group.List
import WorkspaceControl.Calls

set_option autoImplicit false

namespace WorkspaceControl

open Fallible MachineInt Relational

/-! ### Totals -/

/-- Whose workspaces count. -/
inductive QuotaSubject
  | organization (id : Uuid)
  | user (id : Uuid)

/-- What is limited. -/
inductive QuotaDimension
  | cpuMillis
  | memoryMib
  | gpuCount
  | diskGib

namespace QuotaSubject

def counts : QuotaSubject → WorkspaceRow → Bool
  | organization id, row => row.organizationId = id
  | user id, row => row.ownerId = id

def quota (catalog : Catalog) : QuotaSubject → Option QuotaRow
  | organization id => catalog.organizationQuotas.find id
  | user id => catalog.userQuotas.find id

end QuotaSubject

namespace QuotaDimension

def column : QuotaDimension → WorkspaceRow → ℤ
  | cpuMillis, row => row.cpuMillis
  | memoryMib, row => row.memoryMib
  | gpuCount, row => row.gpuCount
  | diskGib, row => row.diskGib

def limit : QuotaDimension → QuotaRow → ℤ
  | cpuMillis, quota => quota.cpuMillis
  | memoryMib, quota => quota.memoryMib
  | gpuCount, quota => quota.gpuCount
  | diskGib, quota => quota.diskGib

def amount : QuotaDimension → QuotaResources → ℕ
  | cpuMillis, resources => resources.cpuMillis
  | memoryMib, resources => resources.memoryMib
  | gpuCount, resources => resources.gpuCount
  | diskGib, resources => resources.diskGib

end QuotaDimension

/-- The total of some workspaces. -/
def total (rows : List WorkspaceRow) (dimension : QuotaDimension) : ℤ :=
  ((liveRows rows).map dimension.column).sum

/-- The total of the live workspaces of a subject. -/
def Database.usage (db : Database) (subject : QuotaSubject) (dimension : QuotaDimension) : ℤ :=
  total (db.workspaces.rows.filter subject.counts) dimension

/-- What a row adds to the total of a subject. -/
def charge (subject : QuotaSubject) (dimension : QuotaDimension) (row : WorkspaceRow) : ℤ :=
  if subject.counts row && row.state ≠ WorkspaceState.deleted.asStr then dimension.column row else 0

theorem total_eq_sum_charge (rows : List WorkspaceRow) (subject : QuotaSubject)
    (dimension : QuotaDimension) : total (rows.filter subject.counts) dimension =
      (rows.map (charge subject dimension)).sum := by
  unfold total liveRows charge
  induction rows with
  | nil => rfl
  | cons row rows ih =>
    rw [List.map_cons, List.sum_cons, ← ih]
    cases hcounts : subject.counts row with
    | false => simp [hcounts]
    | true =>
      by_cases hstate : row.state = WorkspaceState.deleted.asStr
      · simp [hcounts, hstate]
      · simp [hcounts, hstate]

/-! ### Admission computes exact totals -/

theorem sumColumn_eq_ok {rows : List WorkspaceRow} {column : WorkspaceRow → ℤ} {sum : ℤ}
    (h : sumColumn rows column = .ok sum) : sum = (rows.map column).sum := by
  simp only [sumColumn, ensure_bind_eq_ok, pure_eq_ok] at h
  exact h.2.symm

theorem ofI64_eq_some {a : ℤ} {n : ℕ} (h : U32.ofI64 a = some n) : a = n := by
  unfold U32.ofI64 at h
  split at h
  · obtain rfl := Option.some_inj.1 h
    omega
  · cases h

variable {a b c : ℕ} {db db' : Database} {dimension : QuotaDimension}
  {document : WorkspaceTemplateDocument} {edit : WorkspaceEdit} {row : WorkspaceRow}
  {setting : SettingUpdate} {workspace : Workspace} {workspaceId : Uuid}

theorem u64_checkedAdd_eq_some (h : U64.checkedAdd a b = some c) : c = a + b := by
  unfold U64.checkedAdd at h
  split at h
  · exact (Option.some_inj.1 h).symm
  · cases h

theorem u32_checkedAdd_eq_some (h : U32.checkedAdd a b = some c) : c = a + b := by
  unfold U32.checkedAdd at h
  split at h
  · exact (Option.some_inj.1 h).symm
  · cases h

/-- Columns that are taken as amounts are not changed. -/
theorem QuotaResources.ofColumns_eq_ok {cpuMillis memoryMib gpuCount diskGib : ℤ}
    {resources : QuotaResources}
    (h : QuotaResources.ofColumns cpuMillis memoryMib gpuCount diskGib = .ok resources) :
    cpuMillis = resources.cpuMillis ∧ memoryMib = resources.memoryMib ∧
      gpuCount = resources.gpuCount ∧ diskGib = resources.diskGib := by
  simp only [ofColumns, bind_eq_ok, okOr_eq_ok, pure_eq_ok, toU64_eq_some] at h
  obtain ⟨_, rfl, _, rfl, _, hgpu, _, rfl, rfl⟩ := h
  exact ⟨rfl, rfl, ofI64_eq_some hgpu, rfl⟩

/-- An admitted request leaves every total within its limit, and no addition has wrapped. -/
theorem QuotaResources.admit_eq_ok {limit usage request proposed : QuotaResources}
    (h : limit.admitRequest usage request = .ok proposed) (dimension : QuotaDimension) :
    dimension.amount proposed = dimension.amount usage + dimension.amount request ∧
      dimension.amount proposed ≤ dimension.amount limit := by
  simp only [admitRequest, checkedAdd, checkLimit, bind_eq_ok, okOr_eq_ok, ensure_eq_ok, pure_eq_ok,
    decide_eq_true_eq] at h
  obtain ⟨_, ⟨_, hcpu, _, hmemory, _, hgpu, _, hdisk, _, -, rfl⟩, _, hcpuLimit, _, hmemoryLimit,
    _, hgpuLimit, _, hdiskLimit, rfl⟩ := h
  cases dimension with
  | cpuMillis => exact ⟨u64_checkedAdd_eq_some hcpu, hcpuLimit⟩
  | memoryMib => exact ⟨u64_checkedAdd_eq_some hmemory, hmemoryLimit⟩
  | gpuCount => exact ⟨u32_checkedAdd_eq_some hgpu, hgpuLimit⟩
  | diskGib => exact ⟨u64_checkedAdd_eq_some hdisk, hdiskLimit⟩

/-- **The totals of an admission are exact**, and with the workspace they stay within the
limits. -/
theorem admitQuota_within {quota : QuotaRow} {counted : List WorkspaceRow}
    (h : admitQuota (some quota) counted workspace = .ok ()) (dimension : QuotaDimension) :
    total counted dimension + dimension.amount (.forWorkspace workspace.template.resources
      workspace.template.storagePolicy.temporaryStorageGib) ≤ dimension.limit quota := by
  simp only [admitQuota, bind_eq_ok, mapError_eq_ok] at h
  obtain ⟨cpuMillis, hcpu, memoryMib, hmemory, gpuCount, hgpu, diskGib, hdisk, limit, hlimit, usage,
    husage, proposed, hadmit, -⟩ := h
  obtain ⟨hcpuLimit, hmemoryLimit, hgpuLimit, hdiskLimit⟩ :=
    QuotaResources.ofColumns_eq_ok hlimit
  obtain ⟨hcpuUsage, hmemoryUsage, hgpuUsage, hdiskUsage⟩ := QuotaResources.ofColumns_eq_ok husage
  obtain ⟨hsum, hle⟩ := QuotaResources.admit_eq_ok hadmit dimension
  rw [hsum] at hle
  have htotal : total counted dimension = dimension.amount usage := by
    cases dimension with
    | cpuMillis => exact (sumColumn_eq_ok hcpu).symm.trans hcpuUsage
    | memoryMib => exact (sumColumn_eq_ok hmemory).symm.trans hmemoryUsage
    | gpuCount => exact (sumColumn_eq_ok hgpu).symm.trans hgpuUsage
    | diskGib => exact (sumColumn_eq_ok hdisk).symm.trans hdiskUsage
  have hlimits : (dimension.amount limit : ℤ) = dimension.limit quota := by
    cases dimension with
    | cpuMillis => exact hcpuLimit.symm
    | memoryMib => exact hmemoryLimit.symm
    | gpuCount => exact hgpuLimit.symm
    | diskGib => exact hdiskLimit.symm
  rw [htotal, ← hlimits]
  exact_mod_cast hle

/-! ### Creations and updates -/

/-- The creation of a workspace, and the updates of its settings. -/
def StoreCall.Provisions : StoreCall → Prop
  | create .. => True
  | update .. => True
  | _ => False

/-- The home volume does not become larger than the row says it is. -/
def SettingUpdate.KeepsHomeSize (row : WorkspaceRow) : SettingUpdate → Prop
  | homeCapacity diskGib => diskGib ≤ row.diskGib
  | homeVolume binding _ => binding.capacityGib ≤ row.diskGib
  | _ => True

/-- No update enlarges the home volume of its workspace. -/
def StoreCall.KeepsHomeSize (db : Database) : StoreCall → Prop
  | update _ workspaceId _ _ setting =>
    ∀ row ∈ db.workspaces.find workspaceId, setting.KeepsHomeSize row
  | _ => True

/-- An edit that leaves the row with its organization, its owner and its life, and takes no
more. -/
theorem WorkspaceEdit.charge_le (edit : WorkspaceEdit) (yaml : YamlText) (generation now : ℤ)
    (row : WorkspaceRow) (horganization : (edit.columns row).organizationId = row.organizationId)
    (howner : (edit.columns row).ownerId = row.ownerId)
    (hlive : (edit.columns row).state = WorkspaceState.deleted.asStr ↔
      row.state = WorkspaceState.deleted.asStr)
    (subject : QuotaSubject)
    (hcolumn : dimension.column (edit.columns row) ≤ dimension.column row) :
    charge subject dimension (edit.row yaml generation now row) ≤ charge subject dimension row := by
  have hcounts : subject.counts (edit.row yaml generation now row) = subject.counts row := by
    cases subject with
    | organization id => exact congrArg (fun x => decide (x = id)) horganization
    | user id => exact congrArg (fun x => decide (x = id)) howner
  have hstate : (edit.row yaml generation now row).state = WorkspaceState.deleted.asStr ↔
      row.state = WorkspaceState.deleted.asStr := hlive
  have hcolumn' : dimension.column (edit.row yaml generation now row) ≤ dimension.column row := by
    cases dimension <;> exact hcolumn
  unfold charge
  simp only [hcounts, ne_eq, hstate]
  by_cases hcharged : (subject.counts row &&
      !decide (row.state = WorkspaceState.deleted.asStr)) = true
  · simpa [hcharged] using hcolumn'
  · simp [hcharged]

/-- An update that does not enlarge the home volume adds nothing to any total. -/
theorem SettingUpdate.charge_le (hprepares : setting.Prepares workspace edit)
    (hkeeps : setting.KeepsHomeSize row) (hdecodes : Decodes row document workspace)
    (yaml : YamlText) (generation now : ℤ) (subject : QuotaSubject) (dimension : QuotaDimension) :
    charge subject dimension (edit.row yaml generation now row) ≤
      charge subject dimension row := by
  cases setting with
  | image | temporaryStorage | cpuOvercommit =>
    obtain rfl := hprepares.1
    exact WorkspaceEdit.charge_le _ _ _ _ row rfl rfl Iff.rfl subject (by cases dimension <;> rfl)
  | placement =>
    obtain ⟨_, _, rfl, -⟩ := hprepares
    exact WorkspaceEdit.charge_le _ _ _ _ row rfl rfl Iff.rfl subject (by cases dimension <;> rfl)
  | homeCapacity size =>
    obtain rfl := hprepares.1
    refine WorkspaceEdit.charge_le _ _ _ _ row rfl rfl Iff.rfl subject ?_
    cases dimension with
    | diskGib => exact hkeeps
    | _ => exact le_refl _
  | homeVolume binding adoptReady =>
    obtain ⟨rfl, -, hstate⟩ := hprepares
    refine WorkspaceEdit.charge_le _ _ _ _ row rfl rfl ?_ subject ?_
    · cases adoptReady with
      | false => exact Iff.rfl
      | true =>
        -- a workspace that is adopted is ready or has failed
        have hready : WorkspaceState.ready.asStr ≠ WorkspaceState.deleted.asStr := by decide
        have hfailed : WorkspaceState.failed.asStr ≠ WorkspaceState.deleted.asStr := by decide
        rw [hdecodes.state]
        rcases hstate with hstate | hstate
        · rw [hstate]
          exact iff_of_false hready hready
        · rw [hstate]
          exact iff_of_false hready hfailed
    · cases dimension with
      | diskGib => exact hkeeps
      | _ => exact le_refl _

/-- An update that does not enlarge the home volume leaves no total larger. -/
theorem Committed.usage_le {now : ℤ}
    (h : Committed db workspaceId edit now row document workspace db')
    (hprepares : setting.Prepares workspace edit) (hkeeps : setting.KeepsHomeSize row)
    (subject : QuotaSubject) (dimension : QuotaDimension) :
    db'.usage subject dimension ≤ db.usage subject dimension := by
  have hrows : db'.workspaces.rows = db.workspaces.rows.map (Table.change (fun r => r.id = workspaceId)
      (edit.row (.document (edit.document document)) (workspace.generation + 1) now)) := by
    rw [h.result]
    rfl
  unfold Database.usage
  rw [total_eq_sum_charge, total_eq_sum_charge, hrows, List.map_map]
  refine List.sum_le_sum fun r hr => ?_
  rw [Function.comp_apply, Table.change]
  split
  · rename_i hid
    obtain ⟨hmem, hrow⟩ := Table.find_eq_some.1 h.found
    obtain rfl := db.workspaces.eq_of_key hr hmem ((of_decide_eq_true hid).trans hrow.symm)
    exact setting.charge_le hprepares hkeeps h.decodes _ _ _ subject dimension
  · exact le_refl _

/-- A new workspace adds what it asks for. -/
theorem Created.usage_eq (h : Created db workspaceId row document workspace db')
    (subject : QuotaSubject) (dimension : QuotaDimension) :
    db'.usage subject dimension = db.usage subject dimension + charge subject dimension row := by
  unfold Database.usage
  rw [total_eq_sum_charge, total_eq_sum_charge, h.rows, List.map_append, List.sum_append,
    List.map_singleton, List.sum_singleton]

/-- What it asks for is what admission has seen. -/
theorem Created.column_eq (h : Created db workspaceId row document workspace db')
    (dimension : QuotaDimension) :
    dimension.column row = dimension.amount (.forWorkspace workspace.template.resources
      workspace.template.storagePolicy.temporaryStorageGib) := by
  rw [h.decodes.template]
  cases dimension with
  | cpuMillis => exact h.mirrors.cpuMillis
  | memoryMib => exact h.mirrors.memoryMib
  | gpuCount => exact h.mirrors.gpuCount
  | diskGib => exact h.mirrors.diskGib

/-- A workspace that was admitted leaves every total it adds to within its limit. -/
theorem Created.usage_le (h : Created db workspaceId row document workspace db')
    {subject : QuotaSubject} {quota : QuotaRow} (hquota : subject.quota db.catalog = some quota)
    (hgrows : db.usage subject dimension < db'.usage subject dimension) :
    db'.usage subject dimension ≤ dimension.limit quota := by
  obtain ⟨horganization, huser⟩ : admitQuota
      (db.catalog.organizationQuotas.find workspace.organizationId)
      (db.workspaces.rows.filter fun row => row.organizationId = workspace.organizationId)
      workspace = .ok () ∧
    admitQuota (db.catalog.userQuotas.find workspace.ownerId)
      (db.workspaces.rows.filter fun row => row.ownerId = workspace.ownerId) workspace = .ok () := by
    have hadmitted := h.admitted
    simp only [Database.admitWorkspace, bind_eq_ok] at hadmitted
    obtain ⟨_, -, ⟨⟩, horganization, huser⟩ := hadmitted
    exact ⟨horganization, huser⟩
  rw [h.usage_eq] at hgrows ⊢
  have hcharge : subject.counts row = true ∧
      charge subject dimension row = dimension.column row := by
    unfold charge at hgrows ⊢
    split at hgrows
    · rename_i hcounts
      rw [Bool.and_eq_true] at hcounts
      exact ⟨hcounts.1, by simp [hcounts]⟩
    · omega
  rw [hcharge.2, h.column_eq]
  cases subject with
  | organization id =>
    obtain rfl : workspace.organizationId = id := by
      simpa [QuotaSubject.counts, h.decodes.organizationId] using hcharge.1
    rw [QuotaSubject.quota] at hquota
    rw [hquota] at horganization
    exact admitQuota_within horganization dimension
  | user id =>
    obtain rfl : workspace.ownerId = id := by
      simpa [QuotaSubject.counts, h.decodes.ownerId] using hcharge.1
    rw [QuotaSubject.quota] at hquota
    rw [hquota] at huser
    exact admitQuota_within huser dimension

/-- **Growth stays within the quotas.**  A creation or an update that commits, in any state of the
database, leaves no total of an organization or of a user which it has made larger above its
limit, as long as no update enlarges a home volume; and the totals of an admission are the exact
ones. -/
theorem committed_growth_within_quota {db db' : Database} {call : StoreCall}
    {response : call.Response} (hprovisions : call.Provisions) (hkeeps : call.KeepsHomeSize db)
    (h : call.Performs db response db') (subject : QuotaSubject) (dimension : QuotaDimension) :
    (∀ quota, subject.quota db.catalog = some quota →
      db.usage subject dimension < db'.usage subject dimension →
        db'.usage subject dimension ≤ dimension.limit quota) ∧
    (∀ limit usage request proposed : QuotaResources, limit.admitRequest usage request = .ok proposed →
      dimension.amount proposed = dimension.amount usage + dimension.amount request) := by
  refine ⟨fun quota hquota hgrows => ?_, fun _ _ _ _ hadmit =>
    (QuotaResources.admit_eq_ok hadmit dimension).1⟩
  cases h.writes with
  | nothing => exact absurd hgrows (lt_irrefl _)
  | created h => exact h.usage_le hquota hgrows
  | updated hprepares h =>
    have hle := h.usage_le hprepares (hkeeps _ h.found) subject dimension
    exact absurd hgrows (not_lt.2 hle)
  | acquired | released | queued | acted | observed | failed | started | confirmed | retried | saved
  | cleaned => exact hprovisions.elim

/-! ### A quota of one workspace -/

def sampleQuota : QuotaRow := ⟨sampleUserId, 1000, 1024, 0, 10⟩

/-- The sample database, with a quota that its one workspace uses up. -/
def sampleLimited (state : WorkspaceState) : Database :=
  { sampleDatabase state with
    catalog := { (sampleDatabase state).catalog with
      organizationQuotas := ⟨[sampleQuota], by simp⟩ } }

def sampleLimitedInstallation : Database :=
  { sampleInstallation with
    catalog := { sampleCatalog with organizationQuotas := ⟨[sampleQuota], by simp⟩ } }

/-- The first workspace uses the quota up. -/
theorem committed_growth_within_quota_sample :
    let db := sampleLimitedInstallation
    let db' := sampleCreate.after db
    let subject := QuotaSubject.organization sampleUserId
    db.usage subject .diskGib < db'.usage subject .diskGib ∧
      db'.usage subject .diskGib ≤ QuotaDimension.diskGib.limit sampleQuota := by
  intro db db' subject
  have hgrows : db.usage subject .diskGib < db'.usage subject .diskGib := by decide +kernel
  have hprovisions : sampleCreate.Provisions := trivial
  have hkeeps : sampleCreate.KeepsHomeSize db := trivial
  have hperforms : sampleCreate.Performs db _ db' := .executed fun _ => false
  exact ⟨hgrows, (committed_growth_within_quota hprovisions hkeeps hperforms subject .diskGib).1
    sampleQuota rfl hgrows⟩

/-- **The correction of a home capacity does not ask the quota**: the workspace of an organization
whose quota is 10 GiB is given a home volume of 20 GiB. -/
theorem home_capacity_exceeds_quota :
    let call : StoreCall := .update sampleJobId sampleWorkspaceId 1 20 (.homeCapacity 20)
    call.Performs (sampleLimited .stopped) (call.transaction (sampleLimited .stopped) fun _ =>
      false).1 (call.after (sampleLimited .stopped)) ∧
    (QuotaSubject.organization sampleUserId).quota (sampleLimited .stopped).catalog =
      some sampleQuota ∧
    (sampleLimited .stopped).usage (.organization sampleUserId) .diskGib = 10 ∧
    (call.after (sampleLimited .stopped)).usage (.organization sampleUserId) .diskGib = 20 ∧
    QuotaDimension.diskGib.limit sampleQuota = 10 :=
  ⟨.executed fun _ => false, rfl, by decide +kernel, by decide +kernel, rfl⟩

end WorkspaceControl
