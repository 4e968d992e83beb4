/-
**Updates of workspaces.**

The transactions that create a workspace and that change one setting of it:
`src/src/storage/workspace_store/creation.rs`, `workspace_image_update.rs`,
`workspace_placement_update.rs`, `workspace_scratch_resize.rs`, `workspace_home_capacity.rs`,
`workspace_home_pvc.rs` and `workspace_cpu_overcommit.rs` (the modules of the same folder).

The six updates have one shape: read the row, refuse while a storage migration is active, check
the state and the generation, edit the snapshot and the columns that mirror it, and compare the
state and the generation once more in the statement that writes the row.  `commitEdit` is that
shape; an update is its checks and its edit.

Main definitions:

* `WorkspaceEdit`, `commitEdit` — an edit of a row, and the transaction that writes it;
* `createWorkspace` — the creation of a workspace;
* `SettingUpdate` — the updates as one type; `Committed`, `Created` — what they have done when they
  succeed.

Main results:

* `SettingUpdate.perform_eq_ok` — **every update that succeeds found no active migration and has
  committed its edit under the next generation**;
* `createWorkspace_eq_ok` — the row of a new workspace decodes and agrees with its snapshot.
-/

import WorkspaceControl.Database

set_option autoImplicit false

namespace WorkspaceControl

open Fallible MachineInt Relational

/-! ### Edits -/

/-- What an update makes of the snapshot, of the decoded workspace and of the columns. -/
structure WorkspaceEdit where
  spec : WorkspaceTemplateSpec → WorkspaceTemplateSpec
  workspace : Workspace → Workspace
  columns : WorkspaceRow → WorkspaceRow
  /-- a size that goes into a column -/
  size : Option ℕ
  id_columns : ∀ row, (columns row).id = row.id

/-- The values in which the updates differ: the error of a lost race, the error of a value that
does not fit its column, and the reason given to the reconcile job. -/
structure UpdateKind where
  conflict : StorageError
  range : StorageError
  reason : Option String

/-- The edited snapshot. -/
def WorkspaceEdit.document (edit : WorkspaceEdit) (document : WorkspaceTemplateDocument) :
    WorkspaceTemplateDocument :=
  { document with spec := edit.spec document.spec }

/-- The edited row. -/
def WorkspaceEdit.row (edit : WorkspaceEdit) (yaml : YamlText) (generation now : ℤ)
    (row : WorkspaceRow) : WorkspaceRow :=
  { edit.columns row with templateSnapshotYaml := yaml, generation, updatedAt := now }

/-- The payload of a reconcile job. -/
def reconcilePayload (generation : ℕ) (fields : List (String × JsonValue)) : Payload :=
  (Payload.object fields).insert "generation" (.scalar (.int generation))

/-- The reconcile job of a workspace, due now. -/
def reconcileJob (workspaceId : Uuid) (payload : Payload) (now : ℤ) : NewJob where
  kind := .reconcileWorkspace
  workspaceId := some workspaceId
  payload := payload
  availableAt := now

/-- The job of an update, unless the update needs none. -/
def insertUpdateJob (db : Database) (jobId workspaceId : Uuid) (generation : ℕ) (now : ℤ) :
    Option String → Except StorageError Database
  | none => pure db
  | some reason =>
    db.insertJob jobId (reconcileJob workspaceId
      (reconcilePayload generation [("reason", .scalar (.str reason))]) now) now

/-- A size that goes into a column must fit it. -/
def checkSize (e : StorageError) : Option ℕ → Except StorageError Unit
  | none => pure ()
  | some size => do
    let _ ← asI64 size e
    pure ()

/-- The transaction of an update after its checks: `selected` is what the statement requires of
the row besides the state and the generation. -/
def commitEdit (db : Database) (jobId : Uuid) (kind : UpdateKind) (row : WorkspaceRow)
    (workspace : Workspace) (expectedGeneration : ℕ) (now : ℤ) (selected : WorkspaceRow → Bool)
    (edit : WorkspaceEdit) : Except StorageError (Workspace × Database) := do
  let document ← (WorkspaceTemplateDocument.parse row.templateSnapshotYaml).mapError
    fun _ => .invalidWorkspace
  let generation ← okOr (U64.checkedAdd workspace.generation 1) .invalidWorkspace
  let yaml ← ((edit.document document).toYaml).mapError fun _ => .invalidWorkspace
  checkSize kind.range edit.size
  let column ← asI64 generation kind.range
  let expected ← asI64 expectedGeneration kind.range
  ensure (row.state = workspace.state.asStr && row.generation = expected && selected row)
    kind.conflict
  let db ← insertUpdateJob
    (db.writeWorkspace row.id (edit.row yaml column now) edit.id_columns) jobId row.id generation
    now kind.reason
  pure ({ edit.workspace workspace with
      template := edit.spec workspace.template
      generation
      updatedAt := now },
    db)

/-! ### The six updates -/

/-- A stopped workspace at the generation the caller has seen. -/
def ensureStoppedAtGeneration (workspace : Workspace) (expectedGeneration : ℕ)
    (conflict : StorageError) : Except StorageError Unit :=
  ensure (workspace.state = .stopped && workspace.generation = expectedGeneration) conflict

/-- An exact image reference, pinned to a lowercase digest. -/
def validPinnedImage (image : List Char) : Bool :=
  !image.isEmpty && image = Text.trim image && Text.len image ≤ 512 &&
    !image.any Text.isWhitespace &&
    (Text.splitOnce "@sha256:".toList image).any fun (repository, digest) =>
      !repository.isEmpty && !repository.contains '@' && Text.len digest = 64 &&
        digest.all Text.isHexDigit

def imageEdit (image : String) : WorkspaceEdit where
  spec spec := { spec with image }
  workspace workspace := workspace
  columns row := { row with image }
  size := none
  id_columns _ := rfl

def updateStoppedWorkspaceImage (db : Database) (jobId workspaceId : Uuid) (image : String)
    (expectedGeneration : ℕ) (now : ℤ) : Except StorageError (Workspace × Database) := do
  ensure (validPinnedImage image.toList) .invalidWorkspaceImageUpdate
  let (row, workspace) ← db.fetchWorkspace workspaceId
  db.guardStorageShrink workspaceId
  ensureStoppedAtGeneration workspace expectedGeneration .workspaceImageUpdateConflict
  db.catalog.ensureImageAllowed image
  commitEdit db jobId ⟨.workspaceImageUpdateConflict, .invalidWorkspace, some "image_updated"⟩ row
    workspace expectedGeneration now (fun _ => true) (imageEdit image)

def placementEdit (placement : WorkspacePlacement) (nodePool : String) : WorkspaceEdit where
  spec spec := { spec with placement }
  workspace workspace := { workspace with nodePool }
  columns row := { row with nodePool }
  size := none
  id_columns _ := rfl

/-- The placement is taken from the template as it is now. -/
def updateStoppedWorkspacePlacement (db : Database) (jobId workspaceId : Uuid) (nodePool : String)
    (expectedGeneration : ℕ) (now : ℤ) : Except StorageError (Workspace × Database) := do
  let (row, workspace) ← db.fetchWorkspace workspaceId
  db.guardStorageShrink workspaceId
  ensureStoppedAtGeneration workspace expectedGeneration .workspacePlacementUpdateConflict
  let templateId ← okOr workspace.templateId .templateNotFound
  let snapshot ← resolveTemplate db.catalog templateId workspace.organizationId true
  let selected ← selectNodePool db.catalog snapshot.spec.placement (some nodePool)
  commitEdit db jobId
    ⟨.workspacePlacementUpdateConflict, .invalidWorkspace, some "placement_updated"⟩ row workspace
    expectedGeneration now (fun _ => true) (placementEdit snapshot.spec.placement selected)

def temporaryStorageEdit (temporaryStorageGib : ℕ) : WorkspaceEdit where
  spec spec := { spec with storagePolicy := { spec.storagePolicy with temporaryStorageGib } }
  workspace workspace := workspace
  columns row := { row with temporaryStorageGib }
  size := some temporaryStorageGib
  id_columns _ := rfl

/-- A scratch volume that is bound cannot be resized. -/
def updateStoppedWorkspaceTemporaryStorage (db : Database) (jobId workspaceId : Uuid)
    (temporaryStorageGib expectedGeneration : ℕ) (now : ℤ) :
    Except StorageError (Workspace × Database) := do
  ensure (1 ≤ temporaryStorageGib && temporaryStorageGib ≤ 2048) .invalidWorkspaceTemporaryStorage
  let (row, workspace) ← db.fetchWorkspace workspaceId
  db.guardStorageShrink workspaceId
  ensureStoppedAtGeneration workspace expectedGeneration .workspaceTemporaryStorageUpdateConflict
  ensure (workspace.scratchVolumeBinding.all (·.capacityGib = temporaryStorageGib))
    .workspaceTemporaryStorageUpdateConflict
  commitEdit db jobId ⟨.workspaceTemporaryStorageUpdateConflict, .invalidWorkspaceTemporaryStorage,
    some "temporary_storage_updated"⟩ row workspace expectedGeneration now (fun _ => true)
    (temporaryStorageEdit temporaryStorageGib)

def diskEdit (diskGib : ℕ) : WorkspaceEdit where
  spec spec := { spec with resources := { spec.resources with diskGib } }
  workspace workspace := workspace
  columns row := { row with diskGib }
  size := some diskGib
  id_columns _ := rfl

/-- Only a home volume that is not bound can be given another size. -/
def correctStoppedWorkspaceHomeCapacity (db : Database) (jobId workspaceId : Uuid)
    (diskGib expectedGeneration : ℕ) (now : ℤ) : Except StorageError (Workspace × Database) := do
  ensure (WorkspaceHomeVolumeBinding.validCapacity diskGib) .invalidWorkspaceHomePvc
  let (row, workspace) ← db.fetchWorkspace workspaceId
  db.guardStorageShrink workspaceId
  ensure (workspace.state = .stopped && workspace.homeVolumeBinding.isNone &&
    workspace.generation = expectedGeneration) .workspaceHomePvcUpdateConflict
  commitEdit db jobId ⟨.workspaceHomePvcUpdateConflict, .invalidWorkspaceHomePvc,
    some "home_capacity_corrected"⟩ row workspace expectedGeneration now
    (fun row => row.homePvcName.isNone) (diskEdit diskGib)

/-- The workspace is stopped; or, for a volume that is adopted, running or failed. -/
def ensureBindState (workspace : Workspace) (expectedGeneration : ℕ) (adoptReady : Bool) :
    Except StorageError Unit :=
  ensure ((if adoptReady then workspace.state = .ready || workspace.state = .failed
    else workspace.state = .stopped) && workspace.generation = expectedGeneration)
    .workspaceHomePvcUpdateConflict

/-- Another live workspace has the claim, or will make it. -/
def homePvcInUse (db : Database) (workspaceId : Uuid) (binding : WorkspaceHomeVolumeBinding) :
    Bool :=
  db.workspaces.rows.any fun row => row.id ≠ workspaceId &&
    row.state ≠ WorkspaceState.deleted.asStr &&
    (row.homePvcName = some binding.claimName || row.homePvcUid = some binding.claimUid ||
      dataPvcOrdinalZero row.shortId = binding.claimName)

/-- A reconcile job of the workspace is running. -/
def reconcileRunning (db : Database) (workspaceId : Uuid) : Bool :=
  db.jobs.rows.any fun row => row.workspaceId = some workspaceId &&
    row.kind = .reconcileWorkspace && row.status = .running

def bindEdit (binding : WorkspaceHomeVolumeBinding) (adoptReady : Bool) : WorkspaceEdit where
  spec spec := { spec with resources := { spec.resources with diskGib := binding.capacityGib } }
  workspace workspace := { workspace with
    homeVolumeBinding := some binding
    state := if adoptReady then .ready else workspace.state }
  columns row := { row.withHome (HomeColumns.of (fun n => n) (some binding)) with
    diskGib := binding.capacityGib
    state := if adoptReady then WorkspaceState.ready.asStr else row.state }
  size := some binding.capacityGib
  id_columns _ := rfl

/-- A bind under read committed.  The transaction locks the row of its own workspace, and with it the
storage operations of the workspace; the jobs and the rows of the other workspaces are read as they
were committed when each query ran. -/
def bindReadCommitted (jobs homes db : Database) (jobId workspaceId : Uuid)
    (binding : WorkspaceHomeVolumeBinding) (expectedGeneration : ℕ) (now : ℤ)
    (adoptReady : Bool) : Except StorageError (Workspace × Database) := do
  ensure binding.isValid .invalidWorkspaceHomePvc
  let (row, workspace) ← db.fetchWorkspace workspaceId
  db.guardStorageShrink workspaceId
  ensureBindState workspace expectedGeneration adoptReady
  ensure (!(adoptReady && reconcileRunning jobs workspaceId)) .workspaceHomePvcUpdateConflict
  ensure (!homePvcInUse homes workspaceId binding) .workspaceHomePvcInUse
  commitEdit db jobId ⟨.workspaceHomePvcUpdateConflict, .invalidWorkspaceHomePvc,
    if adoptReady then none else some "home_volume_bound"⟩ row workspace expectedGeneration now
    (fun _ => true) (bindEdit binding adoptReady)

def bindWorkspaceHomeVolume (db : Database) (jobId workspaceId : Uuid)
    (binding : WorkspaceHomeVolumeBinding) (expectedGeneration : ℕ) (now : ℤ)
    (adoptReady : Bool) : Except StorageError (Workspace × Database) :=
  bindReadCommitted db db db jobId workspaceId binding expectedGeneration now adoptReady

def cpuOvercommitEdit (ratio : ℕ) : WorkspaceEdit where
  spec spec := { spec with cpuOvercommitRatio := some ratio }
  workspace workspace := workspace
  columns row := row
  size := none
  id_columns _ := rfl

def updateStoppedWorkspaceCpuOvercommit (db : Database) (jobId workspaceId : Uuid)
    (cpuOvercommitRatio expectedGeneration : ℕ) (now : ℤ) :
    Except StorageError (Workspace × Database) := do
  ensure (1 ≤ cpuOvercommitRatio && cpuOvercommitRatio ≤ 1000) .invalidCpuOvercommitRatio
  let (row, workspace) ← db.fetchWorkspace workspaceId
  db.guardStorageShrink workspaceId
  ensureStoppedAtGeneration workspace expectedGeneration .workspaceCpuOvercommitUpdateConflict
  commitEdit db jobId ⟨.workspaceCpuOvercommitUpdateConflict, .invalidWorkspace,
    some "cpu_overcommit_updated"⟩ row workspace expectedGeneration now (fun _ => true)
    (cpuOvercommitEdit cpuOvercommitRatio)

/-! ### What an update does -/

/-- The jobs after a transaction that inserts at most one reconcile job of a workspace. -/
def ReconcileInserted (jobs : JobTable) (workspaceId : Uuid) (jobs' : JobTable) : Prop :=
  jobs' = jobs ∨ ∃ id payload now, enqueueJob jobs id (reconcileJob workspaceId payload now) now =
    .ok jobs'

/-- **A committed update**: the row it found, the snapshot and the workspace the row stood for,
and the database it left. -/
structure Committed (db : Database) (workspaceId : Uuid) (edit : WorkspaceEdit) (now : ℤ)
    (row : WorkspaceRow) (document : WorkspaceTemplateDocument) (workspace : Workspace)
    (db' : Database) : Prop where
  found : db.workspaces.find workspaceId = some row
  decodes : Decodes row document workspace
  idle : db.Idle workspaceId
  valid : (edit.document document).validate = .ok ()
  size : ∀ size ∈ edit.size, (size : ℤ) ≤ I64.max
  range : (workspace.generation : ℤ) + 1 ≤ I64.max
  jobs : ReconcileInserted db.jobs workspaceId db'.jobs
  result : db' = { db.writeWorkspace workspaceId
      (edit.row (.document (edit.document document)) (workspace.generation + 1) now)
      edit.id_columns with jobs := db'.jobs }

variable {db db' : Database} {expectedGeneration : ℕ} {id jobId workspaceId : Uuid} {now : ℤ}
  {workspace workspace' : Workspace}

theorem insertUpdateJob_eq_ok {generation : ℕ} {reason : Option String}
    (h : insertUpdateJob db jobId workspaceId generation now reason = .ok db') :
    ReconcileInserted db.jobs workspaceId db'.jobs ∧ db' = { db with jobs := db'.jobs } := by
  cases reason with
  | none =>
    obtain rfl := pure_eq_ok.1 h
    exact ⟨.inl rfl, rfl⟩
  | some reason =>
    obtain ⟨jobs, hjobs, rfl⟩ := Database.insertJob_eq_ok h
    exact ⟨.inr ⟨_, _, _, hjobs⟩, rfl⟩

theorem checkedAdd_one_eq_some {n m : ℕ} (h : U64.checkedAdd n 1 = some m) : m = n + 1 := by
  unfold U64.checkedAdd at h
  split at h
  · exact (Option.some_inj.1 h).symm
  · cases h

/-- What the shared part of the updates writes. -/
theorem commitEdit_eq_ok {kind : UpdateKind}
    {row : WorkspaceRow}
    {selected : WorkspaceRow → Bool} {edit : WorkspaceEdit}
    (hfetch : db.fetchWorkspace workspaceId = .ok (row, workspace))
    (hguard : db.guardStorageShrink workspaceId = .ok ())
    (h : commitEdit db jobId kind row workspace expectedGeneration now selected edit =
      .ok (workspace', db')) :
    ∃ document, Committed db workspaceId edit now row document workspace db' := by
  obtain ⟨hfound, document, hdecodes⟩ := Database.fetchWorkspace_eq_ok.1 hfetch
  obtain ⟨-, hid⟩ := Table.find_eq_some.1 hfound
  simp only [commitEdit, bind_eq_ok, mapError_eq_ok, WorkspaceTemplateDocument.parse_eq_ok,
    WorkspaceTemplateDocument.toYaml_eq_ok, okOr_eq_ok, asI64_eq_ok, ensure_eq_ok, pure_eq_ok] at h
  obtain ⟨parsed, ⟨hyaml, -⟩, generation, hgeneration, yaml, ⟨hvalid, rfl⟩, _, hsize, column,
    ⟨rfl, hrange⟩, expected, -, _, -, db₁, hjob, hresult⟩ := h
  obtain rfl : parsed = document := by
    rw [hdecodes.yaml] at hyaml
    exact (YamlText.document.inj hyaml).symm
  obtain rfl := checkedAdd_one_eq_some hgeneration
  obtain ⟨-, rfl⟩ := Prod.mk.inj hresult
  obtain ⟨hinserted, hdb⟩ := insertUpdateJob_eq_ok hjob
  refine ⟨parsed, hfound, hdecodes, Database.guardStorageShrink_eq_ok.1 hguard, hvalid, ?_, ?_, ?_,
    ?_⟩
  · intro size hmem
    rw [Option.mem_def.1 hmem] at hsize
    simp only [checkSize, bind_eq_ok, asI64_eq_ok] at hsize
    obtain ⟨_, ⟨-, hle⟩, -⟩ := hsize
    exact hle
  · exact_mod_cast hrange
  · rwa [hid] at hinserted
  · rw [hid] at hdb
    exact_mod_cast hdb

/-- The updates of one setting, with what the caller asks for. -/
inductive SettingUpdate
  | image (image : String)
  | placement (nodePool : String)
  | temporaryStorage (temporaryStorageGib : ℕ)
  | homeCapacity (diskGib : ℕ)
  | homeVolume (binding : WorkspaceHomeVolumeBinding) (adoptReady : Bool)
  | cpuOvercommit (ratio : ℕ)

def SettingUpdate.perform (db : Database) (jobId workspaceId : Uuid) (expectedGeneration : ℕ)
    (now : ℤ) : SettingUpdate → Except StorageError (Workspace × Database)
  | image reference =>
    updateStoppedWorkspaceImage db jobId workspaceId reference expectedGeneration now
  | placement nodePool =>
    updateStoppedWorkspacePlacement db jobId workspaceId nodePool expectedGeneration now
  | temporaryStorage gib =>
    updateStoppedWorkspaceTemporaryStorage db jobId workspaceId gib expectedGeneration now
  | homeCapacity gib =>
    correctStoppedWorkspaceHomeCapacity db jobId workspaceId gib expectedGeneration now
  | homeVolume binding adoptReady =>
    bindWorkspaceHomeVolume db jobId workspaceId binding expectedGeneration now adoptReady
  | cpuOvercommit ratio =>
    updateStoppedWorkspaceCpuOvercommit db jobId workspaceId ratio expectedGeneration now

/-- The edit of an update that has passed its checks on a workspace. -/
def SettingUpdate.Prepares (workspace : Workspace) (edit : WorkspaceEdit) : SettingUpdate → Prop
  | image reference => edit = imageEdit reference ∧ workspace.state = .stopped
  | placement _ => ∃ placement selected, edit = placementEdit placement selected ∧
      selected ∈ placement.allowedNodePools ∧ workspace.state = .stopped
  | temporaryStorage gib => edit = temporaryStorageEdit gib ∧ workspace.state = .stopped
  | homeCapacity gib => edit = diskEdit gib ∧ workspace.homeVolumeBinding = none ∧
      workspace.state = .stopped
  | homeVolume binding adoptReady => edit = bindEdit binding adoptReady ∧
      binding.isValid = true ∧
      (if adoptReady then workspace.state = .ready ∨ workspace.state = .failed
        else workspace.state = .stopped)
  | cpuOvercommit ratio => edit = cpuOvercommitEdit ratio ∧ workspace.state = .stopped

/-- A bind found the claim unused, and does what an update does. -/
theorem bindReadCommitted_eq_ok {jobs homes : Database} {binding : WorkspaceHomeVolumeBinding}
    {adoptReady : Bool}
    (h : bindReadCommitted jobs homes db jobId workspaceId binding expectedGeneration now
      adoptReady = .ok (workspace', db')) :
    homePvcInUse homes workspaceId binding = false ∧ ∃ edit row document workspace,
      (SettingUpdate.homeVolume binding adoptReady).Prepares workspace edit ∧
      Committed db workspaceId edit now row document workspace db' ∧
      workspace.generation = expectedGeneration := by
  simp only [bindReadCommitted, ensureBindState, bind_eq_ok, Prod.exists, ensure_eq_ok,
    Bool.not_eq_true'] at h
  obtain ⟨_, hvalid, row, workspace, hfetch, ⟨⟩, hguard, _, hstate, _, -, _, hunused, h⟩ := h
  obtain ⟨document, hcommitted⟩ := commitEdit_eq_ok hfetch hguard h
  simp only [Bool.and_eq_true, decide_eq_true_eq] at hstate
  refine ⟨hunused, _, row, document, workspace, ⟨rfl, hvalid, ?_⟩, hcommitted, hstate.2⟩
  cases adoptReady with
  | true | false => simpa using hstate.1

/-- **Every update that succeeds found no active migration, and has committed its edit under the
next generation.** -/
theorem SettingUpdate.perform_eq_ok {update : SettingUpdate}
    (h : update.perform db jobId workspaceId expectedGeneration now = .ok (workspace', db')) :
    ∃ edit row document workspace, update.Prepares workspace edit ∧
      Committed db workspaceId edit now row document workspace db' ∧
      workspace.generation = expectedGeneration := by
  cases update with
  | image | temporaryStorage =>
    simp only [perform, updateStoppedWorkspaceImage, updateStoppedWorkspaceTemporaryStorage,
      ensureStoppedAtGeneration, bind_eq_ok, Prod.exists, ensure_eq_ok, Bool.and_eq_true,
      decide_eq_true_eq] at h
    obtain ⟨_, -, row, workspace, hfetch, ⟨⟩, hguard, _, hstopped, _, -, h⟩ := h
    obtain ⟨document, hcommitted⟩ := commitEdit_eq_ok hfetch hguard h
    exact ⟨_, row, document, workspace, ⟨rfl, hstopped.1⟩, hcommitted, hstopped.2⟩
  | placement nodePool =>
    simp only [perform, updateStoppedWorkspacePlacement, ensureStoppedAtGeneration,
      bind_eq_ok, Prod.exists, ensure_eq_ok, Bool.and_eq_true, decide_eq_true_eq] at h
    obtain ⟨row, workspace, hfetch, ⟨⟩, hguard, _, hstopped, templateId, -, snapshot, -, selected,
      hselected, h⟩ := h
    obtain ⟨document, hcommitted⟩ := commitEdit_eq_ok hfetch hguard h
    exact ⟨_, row, document, workspace,
      ⟨_, _, rfl, mem_of_selectNodePool hselected, hstopped.1⟩, hcommitted, hstopped.2⟩
  | homeCapacity gib =>
    simp only [perform, correctStoppedWorkspaceHomeCapacity, bind_eq_ok, Prod.exists] at h
    obtain ⟨_, -, row, workspace, hfetch, ⟨⟩, hguard, _, hstopped, h⟩ := h
    simp only [ensure_eq_ok, Bool.and_eq_true, decide_eq_true_eq, Option.isNone_iff_eq_none]
      at hstopped
    obtain ⟨document, hcommitted⟩ := commitEdit_eq_ok hfetch hguard h
    exact ⟨_, row, document, workspace, ⟨rfl, hstopped.1.2, hstopped.1.1⟩, hcommitted,
      hstopped.2⟩
  | homeVolume binding adoptReady =>
    exact (bindReadCommitted_eq_ok h).2
  | cpuOvercommit ratio =>
    simp only [perform, updateStoppedWorkspaceCpuOvercommit, ensureStoppedAtGeneration,
      bind_eq_ok, Prod.exists, ensure_eq_ok, Bool.and_eq_true, decide_eq_true_eq] at h
    obtain ⟨_, -, row, workspace, hfetch, ⟨⟩, hguard, _, hstopped, h⟩ := h
    obtain ⟨document, hcommitted⟩ := commitEdit_eq_ok hfetch hguard h
    exact ⟨_, row, document, workspace, ⟨rfl, hstopped.1⟩, hcommitted, hstopped.2⟩

/-! ### Creation -/

structure CreateWorkspace where
  organizationId : Uuid
  ownerId : Uuid
  name : String
  templateId : Uuid
  resources : Option Resources
  temporaryStorageGib : Option ℕ
  useLonghorn : Bool

structure WorkspaceCreationOptions where
  nodePool : Option String
  admittedTemplateYaml : Option YamlText
  cpuOvercommitRatio : Option ℕ
  allowClusterAccess : Bool
  now : ℤ

/-- The template is the one that was admitted, and so is its ratio. -/
def verifyAdmittedTemplate (admitted : Option YamlText) (cpuOvercommitRatio : ℕ)
    (snapshot : ResolvedTemplateSnapshot) : Except StorageError Unit :=
  match admitted with
  | none => pure ()
  | some expected => do
    ensure (expected = snapshot.yaml) .templateNotFound
    ensure (snapshot.spec.cpuOvercommitRatio.all (· = cpuOvercommitRatio)) .invalidWorkspace

/-- The template with the settings of the request. -/
def CreateWorkspace.override (command : CreateWorkspace) (cpuOvercommitRatio : ℕ)
    (spec : WorkspaceTemplateSpec) : WorkspaceTemplateSpec :=
  { spec with
    resources := command.resources.getD spec.resources
    storagePolicy :=
      { temporaryStorageGib :=
          command.temporaryStorageGib.getD spec.storagePolicy.temporaryStorageGib
        useLonghorn := command.useLonghorn }
    cpuOvercommitRatio := some (spec.cpuOvercommitRatio.getD cpuOvercommitRatio) }

def applyResourceOverride (command : CreateWorkspace) (snapshot : ResolvedTemplateSnapshot)
    (cpuOvercommitRatio : ℕ) : Except StorageError (WorkspaceTemplateSpec × YamlText) := do
  let spec := command.override cpuOvercommitRatio snapshot.spec
  spec.validate.mapError fun _ => .invalidWorkspace
  let document ← (WorkspaceTemplateDocument.parse snapshot.yaml).mapError fun _ => .invalidTemplate
  let yaml ← ({ document with spec }.toYaml).mapError fun _ => .invalidWorkspace
  pure (spec, yaml)

/-- The identifier is drawn by the caller. -/
def buildWorkspace (id : Uuid) (command : CreateWorkspace) (spec : WorkspaceTemplateSpec)
    (nodePool : String) (now : ℤ) : Workspace where
  id := id
  shortId := workspaceShortIdFor id
  organizationId := command.organizationId
  ownerId := command.ownerId
  name := String.ofList (Text.trim command.name.toList)
  templateId := some command.templateId
  nodePool := nodePool
  homeVolumeBinding := none
  scratchVolumeBinding := none
  template := spec
  state := .provisioning
  generation := 1
  createdAt := now
  updatedAt := now

/-- The row of a new workspace. -/
def newWorkspaceRow (workspace : Workspace) (yaml : YamlText) (now : ℤ) :
    Except StorageError WorkspaceRow := do
  let cpuMillis ← asI64 workspace.template.resources.cpuMillis .invalidWorkspace
  let memoryMib ← asI64 workspace.template.resources.memoryMib .invalidWorkspace
  let diskGib ← asI64 workspace.template.resources.diskGib .invalidWorkspace
  let temporaryStorageGib ← asI64 workspace.template.storagePolicy.temporaryStorageGib
    .invalidWorkspace
  pure
    { id := workspace.id
      shortId := workspace.shortId
      organizationId := workspace.organizationId
      ownerId := workspace.ownerId
      name := workspace.name
      templateId := workspace.templateId
      image := workspace.template.image
      accessMode := workspace.template.accessMode
      state := workspace.state.asStr
      cpuMillis := cpuMillis
      memoryMib := memoryMib
      gpuCount := workspace.template.resources.gpuCount
      diskGib := diskGib
      temporaryStorageGib := temporaryStorageGib
      nodePool := workspace.nodePool
      generation := 1
      createdAt := now
      updatedAt := now
      templateSnapshotYaml := yaml
      homePvcNamespace := none
      homePvcName := none
      homePvcUid := none
      homePvcCapacityGib := none
      scratchVolumeBindingJson := none }

/-- `INSERT INTO workspaces`: the id, the short id, and the name within an organization are
unique. -/
def insertWorkspace (db : Database) (row : WorkspaceRow) : Except StorageError Database := do
  ensure (!db.workspaces.rows.any fun r => r.shortId = row.shortId)
    (.database "UNIQUE constraint failed: workspaces.installation_id, workspaces.short_id")
  ensure (!db.workspaces.rows.any fun r =>
      r.organizationId = row.organizationId && r.name = row.name)
    (.database "UNIQUE constraint failed: workspaces.organization_id, workspaces.name")
  let workspaces ← okOr (db.workspaces.insertNew row)
    (.database "UNIQUE constraint failed: workspaces.id")
  pure { db with workspaces }

def createWorkspace (db : Database) (id jobId : Uuid) (command : CreateWorkspace)
    (options : WorkspaceCreationOptions) : Except StorageError (Workspace × Database) := do
  ensure (!(Text.trim command.name.toList).isEmpty && Text.len command.name.toList ≤ 120)
    .invalidWorkspace
  let ratio := options.cpuOvercommitRatio.getD db.catalog.cpuOvercommitRatio
  ensure (1 ≤ ratio && ratio ≤ 1000) .invalidWorkspace
  let snapshot ← resolveTemplate db.catalog command.templateId command.organizationId
    options.allowClusterAccess
  verifyAdmittedTemplate options.admittedTemplateYaml ratio snapshot
  let nodePool ← selectNodePool db.catalog snapshot.spec.placement options.nodePool
  let (spec, yaml) ← applyResourceOverride command snapshot ratio
  let workspace := buildWorkspace id command spec nodePool options.now
  db.admitWorkspace workspace
  let row ← newWorkspaceRow workspace yaml options.now
  let db ← insertWorkspace db row
  let db ← db.insertJob jobId (reconcileJob id (reconcilePayload 1 []) options.now) options.now
  pure (workspace, db)

variable {command : CreateWorkspace}

theorem applyResourceOverride_eq_ok {snapshot ratio spec yaml}
    (h : applyResourceOverride command snapshot ratio = .ok (spec, yaml)) :
    spec = command.override ratio snapshot.spec ∧
      ∃ document, yaml = .document document ∧ document.validate = .ok () ∧ document.spec = spec := by
  simp only [applyResourceOverride, bind_eq_ok, mapError_eq_ok,
    WorkspaceTemplateDocument.toYaml_eq_ok, pure_eq_ok, Prod.mk.injEq] at h
  obtain ⟨_, -, document, -, _, ⟨hvalid, rfl⟩, rfl, rfl⟩ := h
  exact ⟨rfl, _, rfl, hvalid, rfl⟩

/-- The row of a new workspace decodes to it. -/
theorem decodes_newWorkspaceRow
    {document : WorkspaceTemplateDocument} {nodePool : String} {row : WorkspaceRow}
    (hvalid : document.validate = .ok ())
    (hpool : nodePool ∈ document.spec.placement.allowedNodePools)
    (h : newWorkspaceRow (buildWorkspace id command document.spec nodePool now)
      (.document document) now = .ok row) :
    row.id = id ∧ Decodes row document (buildWorkspace id command document.spec nodePool now) ∧
      MirrorsSnapshot row document := by
  simp only [newWorkspaceRow, bind_eq_ok, asI64_eq_ok, pure_eq_ok] at h
  obtain ⟨_, ⟨rfl, -⟩, _, ⟨rfl, -⟩, _, ⟨rfl, hrange⟩, _, ⟨rfl, -⟩, rfl⟩ := h
  refine ⟨rfl, ?_, ⟨rfl, rfl, rfl, rfl, rfl, rfl, hpool, hrange⟩⟩
  have hnone : ∀ binding ∈ (buildWorkspace id command document.spec nodePool now).homeVolumeBinding,
      binding.isValid = true ∧ binding.capacityGib = document.spec.resources.diskGib := by
    intro binding hbinding
    cases hbinding
  exact ⟨rfl, hvalid, rfl, rfl, hnone, rfl, rfl, rfl, rfl, ⟨rfl, rfl⟩, rfl, rfl, rfl, rfl, rfl,
    rfl, rfl⟩

/-- **A created workspace**: one new row, which decodes and agrees with its snapshot, and one
job. -/
structure Created (db : Database) (workspaceId : Uuid) (row : WorkspaceRow)
    (document : WorkspaceTemplateDocument) (workspace : Workspace) (db' : Database) : Prop where
  new : ∀ r ∈ db.workspaces.rows, r.id ≠ workspaceId
  rows : db'.workspaces.rows = db.workspaces.rows ++ [row]
  id : row.id = workspaceId
  decodes : Decodes row document workspace
  mirrors : MirrorsSnapshot row document
  state : workspace.state = .provisioning
  generation : workspace.generation = 1
  unbound : workspace.scratchVolumeBinding = none
  admitted : db.admitWorkspace workspace = .ok ()
  jobs : ReconcileInserted db.jobs workspaceId db'.jobs
  result : db' = { db with workspaces := db'.workspaces, jobs := db'.jobs }

theorem createWorkspace_eq_ok {options : WorkspaceCreationOptions}
    (h : createWorkspace db id jobId command options = .ok (workspace, db')) :
    ∃ row document, Created db id row document workspace db' := by
  simp only [createWorkspace, insertWorkspace, bind_eq_ok, Prod.exists, okOr_eq_ok,
    ensure_eq_ok, pure_eq_ok, Prod.mk.injEq] at h
  obtain ⟨_, -, _, -, snapshot, -, _, -, nodePool, hpool, spec, yaml, hoverride, ⟨⟩, hadmitted, row,
    hrow, db₁, ⟨_, -, _, -, workspaces, hinsert, rfl⟩, db₂, hjob, rfl, rfl⟩ := h
  obtain ⟨hspec, document, rfl, hvalid, rfl⟩ := applyResourceOverride_eq_ok hoverride
  have hallowed : nodePool ∈ document.spec.placement.allowedNodePools := by
    rw [hspec]
    exact mem_of_selectNodePool hpool
  obtain ⟨hid, hdecodes, hmirrors⟩ := decodes_newWorkspaceRow hvalid hallowed hrow
  obtain ⟨hnew, hrows⟩ := Table.rows_of_insertNew hinsert
  obtain ⟨jobs, hjobs, rfl⟩ := Database.insertJob_eq_ok hjob
  exact ⟨row, document, hid ▸ hnew, hrows, hid, hdecodes, hmirrors, rfl, rfl,
    rfl, hadmitted, .inr ⟨_, _, _, hjobs⟩, rfl⟩

end WorkspaceControl
