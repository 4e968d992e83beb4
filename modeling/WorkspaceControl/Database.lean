/-
**The database.**

The tables that the modelled transactions read and write, and the steps that many of them share:
reading a workspace, the guard against an active storage migration, inserting a job, and reading
the catalogue of templates, node pools, images and quotas.

A transaction is a function of the database it sees, because transactions are serializable; it
fails with an error and then leaves the database as it was.

Main definitions:

* `ShrinkRow`, `LeaseRow`, `Catalog`, `Database` — the tables;
* `Database.latestShrink` — the operation that the queries take for the current one;
* `resolveTemplate`, `selectNodePool`, `Catalog.ensureImageAllowed`, `Database.admitWorkspace` — the
  catalogue.

Main results:

* `Database.fetchWorkspace_eq_ok`, `Database.guardStorageShrink_eq_ok`,
  `Database.insertJob_eq_ok` — what the shared steps establish;
* `resolveTemplate_eq_ok`, `mem_of_selectNodePool` — what the catalogue answers.
-/

import WorkspaceControl.JobStore
import WorkspaceControl.ShrinkOperation

set_option autoImplicit false

namespace WorkspaceControl

open Fallible MachineInt Relational

/-! ### Tables -/

abbrev WorkspaceTable : Type := Table WorkspaceRow.id

/-- A row of `workspace_storage_shrinks`; the operation is kept as JSON. -/
structure ShrinkRow where
  id : Uuid
  workspaceId : Uuid
  operation : StorageShrinkOperation
  active : Bool
  createdAt : ℤ
  updatedAt : ℤ

abbrev ShrinkTable : Type := Table ShrinkRow.id

/-- A row of `workspace_leases`. -/
structure LeaseRow where
  workspaceId : Uuid
  owner : String
  expiresAt : ℤ

structure TemplateRow where
  id : Uuid
  organizationId : Option Uuid
  enabled : Bool
  templateYaml : YamlText

/-- Where the Pods of a node pool are scheduled. -/
structure ResolvedPlacement where
  selector : List (String × String)
  requiredHosts : List String
  preferredHosts : List String
deriving DecidableEq

structure NodePoolRow where
  name : String
  displayName : String
  placement : ResolvedPlacement
  enabled : Bool
  createdAt : ℤ
  updatedAt : ℤ

structure ImagePolicyRow where
  image : String
  contractVersion : ℤ
  enabled : Bool

/-- The limits of an organization or of a user. -/
structure QuotaRow where
  subject : Uuid
  cpuMillis : ℤ
  memoryMib : ℤ
  gpuCount : ℤ
  diskGib : ℤ

/-- The tables that administrators edit and that the transactions only read. -/
structure Catalog where
  templates : Table TemplateRow.id
  nodePools : Table NodePoolRow.name
  imagePolicies : Table ImagePolicyRow.image
  organizationQuotas : Table QuotaRow.subject
  userQuotas : Table QuotaRow.subject
  cpuOvercommitRatio : ℕ

structure Database where
  workspaces : WorkspaceTable
  tombstones : List Uuid
  shrinks : ShrinkTable
  jobs : JobTable
  leases : Table LeaseRow.workspaceId
  catalog : Catalog

/-! ### Shared steps -/

/-- `i64::try_from`, with the error that the module of the caller reports. -/
def asI64 (value : ℕ) (e : StorageError) : Except StorageError ℤ := okOr (U64.toI64 value) e

theorem asI64_eq_ok {value : ℕ} {e : StorageError} {i : ℤ} :
    asI64 value e = .ok i ↔ i = value ∧ (value : ℤ) ≤ I64.max := by
  simp only [asI64, okOr_eq_ok, U64.toI64_eq_some]

namespace Database

/-- Read and decode the row of a workspace. -/
def fetchWorkspace (db : Database) (id : Uuid) :
    Except StorageError (WorkspaceRow × Workspace) := do
  let row ← okOr (db.workspaces.find id) .workspaceNotFound
  let workspace ← decodeWorkspace row
  pure (row, workspace)

variable {db : Database} {f : ShrinkRow → ShrinkRow} {id workspaceId : Uuid} {row : ShrinkRow}
  {workspace : Workspace}

theorem fetchWorkspace_eq_ok {row : WorkspaceRow} : db.fetchWorkspace id = .ok (row, workspace) ↔
      db.workspaces.find id = some row ∧ ∃ document, Decodes row document workspace := by
  simp only [fetchWorkspace, bind_eq_ok, okOr_eq_ok, pure_eq_ok, Prod.mk.injEq,
    ← decodeWorkspace_eq_ok]
  constructor
  · rintro ⟨_, hrow, _, hdecode, rfl, rfl⟩
    exact ⟨hrow, hdecode⟩
  · rintro ⟨hrow, hdecode⟩
    exact ⟨row, hrow, workspace, hdecode, rfl, rfl⟩

/-- `get_workspace`. -/
def getWorkspace (db : Database) (id : Uuid) : Except StorageError Workspace := do
  let (_, workspace) ← db.fetchWorkspace id
  pure workspace

/-- The workspace that is read is the one that was asked for. -/
theorem id_of_getWorkspace (h : db.getWorkspace id = .ok workspace) : workspace.id = id := by
  simp only [getWorkspace, bind_eq_ok, pure_eq_ok, Prod.exists] at h
  obtain ⟨row, _, hfetch, rfl⟩ := h
  obtain ⟨hfound, document, hdecodes⟩ := fetchWorkspace_eq_ok.1 hfetch
  exact hdecodes.id.trans (Table.find_eq_some.1 hfound).2

/-- The active operations of a workspace. -/
def activeShrinks (db : Database) (workspaceId : Uuid) : List ShrinkRow :=
  db.shrinks.rows.filter fun row => row.workspaceId = workspaceId && row.active

/-- `storage_shrink_active`. -/
def storageShrinkActive (db : Database) (workspaceId : Uuid) : Bool :=
  (db.activeShrinks workspaceId).length ≠ 0

/-- `guard_sqlite`, `guard_postgres`. -/
def guardStorageShrink (db : Database) (workspaceId : Uuid) : Except StorageError Unit :=
  ensure (!db.storageShrinkActive workspaceId) .workspaceStorageShrinkConflict

/-- The workspace has no active operation. -/
def Idle (db : Database) (workspaceId : Uuid) : Prop :=
  ∀ row ∈ db.shrinks.rows, row.workspaceId = workspaceId → row.active = false

theorem activeShrinks_eq_nil :
    db.activeShrinks workspaceId = [] ↔ db.Idle workspaceId := by
  simp [activeShrinks, Idle, List.filter_eq_nil_iff]

theorem storageShrinkActive_eq_false :
    db.storageShrinkActive workspaceId = false ↔ db.Idle workspaceId := by
  rw [← activeShrinks_eq_nil]
  simp [storageShrinkActive]

theorem guardStorageShrink_eq_ok {u : Unit} :
    db.guardStorageShrink workspaceId = .ok u ↔ db.Idle workspaceId := by
  rw [guardStorageShrink, ensure_eq_ok, Bool.not_eq_true', storageShrinkActive_eq_false]

/-- `SELECT ... WHERE workspace_id = .. ORDER BY created_at DESC, id DESC LIMIT 1`. -/
def latestShrink (db : Database) (workspaceId : Uuid) : Option ShrinkRow :=
  db.shrinks.latest (fun row => row.workspaceId = workspaceId) fun row =>
    toLex (row.createdAt, row.id)

/-- `latest_storage_shrink`. -/
def latestStorageShrink (db : Database) (workspaceId : Uuid) : Option StorageShrinkOperation :=
  (db.latestShrink workspaceId).map ShrinkRow.operation

theorem mem_latestShrink (h : db.latestShrink workspaceId = some row) :
    row ∈ db.shrinks.rows ∧ row.workspaceId = workspaceId ∧
      ∀ other ∈ db.shrinks.rows, other.workspaceId = workspaceId →
        toLex (other.createdAt, other.id) ≤ toLex (row.createdAt, row.id) := by
  obtain ⟨⟨hrow, hworkspace⟩, hmax⟩ := Table.mem_latest h
  exact ⟨hrow, by simpa using hworkspace, fun other hother hw => hmax other hother (by simpa using hw)⟩

/-- `INSERT INTO jobs`. -/
def insertJob (db : Database) (id : Uuid) (newJob : NewJob) (now : ℤ) :
    Except StorageError Database := do
  let jobs ← enqueueJob db.jobs id newJob now
  pure { db with jobs }

theorem insertJob_eq_ok {db db' : Database} {newJob : NewJob} {now : ℤ}
    (h : db.insertJob id newJob now = .ok db') :
    ∃ jobs, enqueueJob db.jobs id newJob now = .ok jobs ∧ db' = { db with jobs } := by
  simp only [insertJob, bind_eq_ok, pure_eq_ok] at h
  obtain ⟨jobs, hjobs, rfl⟩ := h
  exact ⟨jobs, hjobs, rfl⟩

/-- Write the row of a workspace. -/
def writeWorkspace (db : Database) (id : Uuid) (f : WorkspaceRow → WorkspaceRow)
    (hf : ∀ row, (f row).id = row.id) : Database :=
  { db with workspaces := db.workspaces.update (fun row => row.id = id) f hf }

theorem find_writeWorkspace {id other : Uuid} {f : WorkspaceRow → WorkspaceRow}
    {hf : ∀ row, (f row).id = row.id} : (db.writeWorkspace id f hf).workspaces.find other =
      if other = id then (db.workspaces.find other).map f else db.workspaces.find other := by
  unfold writeWorkspace
  rw [Table.find_update]
  cases h : db.workspaces.find other with
  | none => simp
  | some row =>
    obtain ⟨-, rfl⟩ := Table.find_eq_some.1 h
    by_cases hid : row.id = id
    · simp [hid, Table.change]
    · simp [hid, Table.change]

/-- Write the row of an operation. -/
def writeShrink (db : Database) (id : Uuid) (f : ShrinkRow → ShrinkRow)
    (hf : ∀ row, (f row).id = row.id) : Database :=
  { db with shrinks := db.shrinks.update (fun row => row.id = id) f hf }

variable {hf : ∀ row, (f row).id = row.id}

theorem mem_writeShrink_of_ne (hrow : row ∈ db.shrinks.rows) (hne : row.id ≠ id) :
    row ∈ (db.writeShrink id f hf).shrinks.rows := by
  change row ∈ (db.shrinks.update (fun row => row.id = id) f hf).rows
  exact Table.mem_update_of_not hrow (decide_eq_false hne)

theorem mem_writeShrink_self (hrow : row ∈ db.shrinks.rows) :
    f row ∈ (db.writeShrink row.id f hf).shrinks.rows := by
  change f row ∈ (db.shrinks.update (fun r => r.id = row.id) f hf).rows
  exact Table.mem_update_of_pos hrow (decide_eq_true rfl)

theorem mem_writeShrink (h : row ∈ (db.writeShrink id f hf).shrinks.rows) :
    (row ∈ db.shrinks.rows ∧ row.id ≠ id) ∨ ∃ old ∈ db.shrinks.rows, old.id = id ∧ row = f old := by
  have h : row ∈ (db.shrinks.update (fun row => row.id = id) f hf).rows := h
  rcases Table.mem_update_cases h with ⟨hrow, hid⟩ | ⟨old, hold, hid, rfl⟩
  · exact .inl ⟨hrow, by simpa using hid⟩
  · exact .inr ⟨old, hold, by simpa using hid, rfl⟩

end Database

/-! ### The catalogue -/

/-- `IMAGE_CONTRACT_VERSION`. -/
def imageContractVersion : ℤ := 1

namespace Catalog

/-- The image is enabled for the present contract. -/
def ensureImageAllowed (catalog : Catalog) (image : String) : Except StorageError Unit :=
  ensure ((catalog.imagePolicies.rows.filter fun row => row.image = image && row.enabled &&
    row.contractVersion = imageContractVersion).length = 1) .imageNotAllowed

end Catalog

structure ResolvedTemplateSnapshot where
  yaml : YamlText
  spec : WorkspaceTemplateSpec

/-- An enabled template of the organization, or of no organization. -/
def resolveTemplate (catalog : Catalog) (templateId organizationId : Uuid)
    (allowClusterAccess : Bool) : Except StorageError ResolvedTemplateSnapshot := do
  let row ← okOr ((catalog.templates.find templateId).filter fun row =>
    row.enabled && row.organizationId.all (· = organizationId)) .templateNotFound
  let document ← (WorkspaceTemplateDocument.parse row.templateYaml).mapError
    fun _ => .invalidTemplate
  ensure (!document.spec.clusterAccess || allowClusterAccess) .privilegedTemplateForbidden
  pure ⟨row.templateYaml, document.spec⟩

/-- The node pool asked for, or the default one; it must be allowed and enabled. -/
def selectNodePool (catalog : Catalog) (placement : WorkspacePlacement)
    (requested : Option String) : Except StorageError String := do
  let name := requested.getD placement.defaultNodePool
  ensure (placement.allowedNodePools.contains name) .nodePoolNotAllowed
  ensure ((catalog.nodePools.rows.filter fun row => row.name = name && row.enabled).length = 1)
    .nodePoolUnavailable
  pure name

theorem mem_of_selectNodePool {catalog : Catalog} {placement : WorkspacePlacement}
    {requested : Option String} {name : String}
    (h : selectNodePool catalog placement requested = .ok name) :
    name ∈ placement.allowedNodePools := by
  simp only [selectNodePool, ensure_bind_eq_ok, pure_eq_ok] at h
  obtain ⟨hallowed, -, rfl⟩ := h
  exact List.contains_iff_mem.1 hallowed

/-! ### Quotas -/

structure QuotaResources where
  cpuMillis : ℕ
  memoryMib : ℕ
  gpuCount : ℕ
  diskGib : ℕ
  temporaryStorageGib : ℕ

namespace QuotaResources

def forWorkspace (resources : Resources) (temporaryStorageGib : ℕ) : QuotaResources where
  cpuMillis := resources.cpuMillis
  memoryMib := resources.memoryMib
  gpuCount := resources.gpuCount
  diskGib := resources.diskGib
  temporaryStorageGib := temporaryStorageGib

def checkedAdd (a b : QuotaResources) : Except QuotaError QuotaResources := do
  let cpuMillis ← okOr (U64.checkedAdd a.cpuMillis b.cpuMillis) .overflow
  let memoryMib ← okOr (U64.checkedAdd a.memoryMib b.memoryMib) .overflow
  let gpuCount ← okOr (U32.checkedAdd a.gpuCount b.gpuCount) .overflow
  let diskGib ← okOr (U64.checkedAdd a.diskGib b.diskGib) .overflow
  let temporaryStorageGib ← okOr (U64.checkedAdd a.temporaryStorageGib b.temporaryStorageGib)
    .overflow
  pure { cpuMillis, memoryMib, gpuCount, diskGib, temporaryStorageGib }

/-- `check_limit`. -/
def checkLimit (resource : String) (requested limit : ℕ) : Except QuotaError Unit :=
  ensure (requested ≤ limit) (.exceeded resource requested limit)

/-- `ResourceQuota::admit`; temporary storage has no limit. -/
def admitRequest (limit usage request : QuotaResources) : Except QuotaError QuotaResources := do
  let proposed ← usage.checkedAdd request
  checkLimit "cpu_millis" proposed.cpuMillis limit.cpuMillis
  checkLimit "memory_mib" proposed.memoryMib limit.memoryMib
  checkLimit "gpu_count" proposed.gpuCount limit.gpuCount
  checkLimit "disk_gib" proposed.diskGib limit.diskGib
  pure proposed

/-- Four columns of a quota, or of the sums over the workspaces it limits. -/
def ofColumns (cpuMillis memoryMib gpuCount diskGib : ℤ) : Except StorageError QuotaResources := do
  let cpuMillis ← okOr (I64.toU64 cpuMillis) .invalidWorkspace
  let memoryMib ← okOr (I64.toU64 memoryMib) .invalidWorkspace
  let gpuCount ← okOr (U32.ofI64 gpuCount) .invalidWorkspace
  let diskGib ← okOr (I64.toU64 diskGib) .invalidWorkspace
  pure { cpuMillis, memoryMib, gpuCount, diskGib, temporaryStorageGib := 0 }

end QuotaResources

/-- `SUM`: the database refuses a sum that is not an `i64`. -/
def sumColumn (rows : List WorkspaceRow) (column : WorkspaceRow → ℤ) : Except StorageError ℤ := do
  let sum := (rows.map column).sum
  ensure (I64.min ≤ sum && sum ≤ I64.max) (.database "integer overflow")
  pure sum

/-- The workspaces that count towards a quota. -/
def liveRows (rows : List WorkspaceRow) : List WorkspaceRow :=
  rows.filter fun row => row.state ≠ WorkspaceState.deleted.asStr

/-- The quota of a subject, if there is one, admits the workspace on top of the live workspaces
that count towards it. -/
def admitQuota (quota : Option QuotaRow) (counted : List WorkspaceRow) (workspace : Workspace) :
    Except StorageError Unit :=
  match quota with
  | none => pure ()
  | some quota => do
    let cpuMillis ← sumColumn (liveRows counted) (·.cpuMillis)
    let memoryMib ← sumColumn (liveRows counted) (·.memoryMib)
    let gpuCount ← sumColumn (liveRows counted) (·.gpuCount)
    let diskGib ← sumColumn (liveRows counted) (·.diskGib)
    let limit ← QuotaResources.ofColumns quota.cpuMillis quota.memoryMib quota.gpuCount
      quota.diskGib
    let usage ← QuotaResources.ofColumns cpuMillis memoryMib gpuCount diskGib
    let _ ← (limit.admitRequest usage (.forWorkspace workspace.template.resources
      workspace.template.storagePolicy.temporaryStorageGib)).mapError .quota
    pure ()

/-- `workspace_admission::admit`. -/
def Database.admitWorkspace (db : Database) (workspace : Workspace) : Except StorageError Unit := do
  db.catalog.ensureImageAllowed workspace.template.image
  admitQuota (db.catalog.organizationQuotas.find workspace.organizationId)
    (db.workspaces.rows.filter fun row => row.organizationId = workspace.organizationId) workspace
  admitQuota (db.catalog.userQuotas.find workspace.ownerId)
    (db.workspaces.rows.filter fun row => row.ownerId = workspace.ownerId) workspace

end WorkspaceControl
