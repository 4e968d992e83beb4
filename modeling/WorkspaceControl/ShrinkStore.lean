/-
**The store of storage operations.**

The transactions of `src/src/storage/workspace_storage_shrink.rs`: a request becomes an active
operation with a job, the phases of the operation are saved while it is active, and a finished
operation can be made active again, to reclaim its sources or to retry its last phase.  Each
transaction that is an intent takes the next generation of the workspace.

Main definitions:

* `enqueueStorageShrink`, `confirmStorageShrink`, `retryStorageShrinkResume` — the three ways in
  which an operation becomes active;
* `saveStorageShrink` — the save of a phase, with an update of the workspace;
* `Started`, `Activated`, `Saved` — what these transactions have done when they commit.

Main results:

* `enqueueStorageShrink_eq_ok`, `confirmStorageShrink_eq_ok`, `retryStorageShrinkResume_eq_ok`,
  `saveStorageShrink_eq_ok`, `saveStorageShrinkCleanupIdentity_eq_ok` — what each of them requires
  and leaves when it succeeds.
-/

import WorkspaceControl.Updates

set_option autoImplicit false

namespace WorkspaceControl

open Fallible MachineInt Relational

/-! ### Shared steps -/

/-- The job that advances an operation. -/
def shrinkJob (workspaceId operationId : Uuid) (availableAt : ℤ) : NewJob where
  kind := .workspaceStorageShrink
  workspaceId := some workspaceId
  payload := StorageShrinkOperation.payload operationId
  availableAt := availableAt

/-- `UPDATE workspaces SET generation = generation + 1, updated_at = ..`. -/
def WorkspaceRow.bumpGeneration (now : ℤ) (row : WorkspaceRow) : WorkspaceRow :=
  { row with generation := row.generation + 1, updatedAt := now }

/-- The row of an operation that is made active. -/
def ShrinkRow.activate (operation : StorageShrinkOperation) (now : ℤ) (row : ShrinkRow) :
    ShrinkRow :=
  { row with active := true, operation, updatedAt := now }

/-- A new job for the operation, and the next generation for its workspace. -/
def dispatchShrink (db : Database) (jobId workspaceId operationId : Uuid) (now : ℤ) :
    Except StorageError Database := do
  let db ← db.insertJob jobId (shrinkJob workspaceId operationId now) now
  pure (db.writeWorkspace workspaceId (WorkspaceRow.bumpGeneration now) fun _ => rfl)

variable {db db' : Database} {document : WorkspaceTemplateDocument}
  {jobId operationId workspaceId : Uuid} {now : ℤ} {operation : StorageShrinkOperation}
  {row : WorkspaceRow} {update : ShrinkWorkspaceUpdate} {workspace : Workspace}

theorem dispatchShrink_eq_ok (h : dispatchShrink db jobId workspaceId operationId now = .ok db') :
    ∃ jobs, enqueueJob db.jobs jobId (shrinkJob workspaceId operationId now) now = .ok jobs ∧
      db' = { db.writeWorkspace workspaceId (WorkspaceRow.bumpGeneration now) fun _ => rfl with
        jobs } := by
  simp only [dispatchShrink, bind_eq_ok, pure_eq_ok] at h
  obtain ⟨db₁, hjob, rfl⟩ := h
  obtain ⟨jobs, hjobs, rfl⟩ := Database.insertJob_eq_ok hjob
  exact ⟨jobs, hjobs, rfl⟩

theorem dispatchShrink_of_new (hjob : ∀ r ∈ db.jobs.rows, r.id ≠ jobId)
    (workspaceId operationId : Uuid) (now : ℤ) :
    ∃ db', dispatchShrink db jobId workspaceId operationId now = .ok db' := by
  refine ⟨_, bind_eq_ok.2 ⟨_, bind_eq_ok.2 ⟨_, okOr_eq_ok.2 (Table.insertNew_of_new hjob), rfl⟩, rfl⟩⟩

/-! ### Requests -/

/-- The operation of a request, with what is known of the workspace. -/
def startedOperation (operationId : Uuid) (workspace : Workspace) (request : StorageShrinkRequest)
    (actorUserId : Uuid) (now : ℤ) : StorageShrinkOperation :=
  { StorageShrinkOperation.new operationId workspace.id request actorUserId now with
    resume := workspace.state = .ready
    originalHomeGib := workspace.template.resources.diskGib
    originalTemporaryStorageGib := workspace.template.storagePolicy.temporaryStorageGib
    home := { StorageShrinkVolume.new request.homeGib with source := workspace.homeVolumeBinding }
    temporary := { StorageShrinkVolume.new request.temporaryStorageGib with
      source := workspace.scratchVolumeBinding } }

/-- The row of a new operation. -/
def newShrinkRow (operation : StorageShrinkOperation) (now : ℤ) : ShrinkRow where
  id := operation.id
  workspaceId := operation.workspaceId
  operation := operation
  active := true
  createdAt := now
  updatedAt := now

/-- A request on a workspace that has no active operation. -/
def startStorageShrink (db : Database) (operationId jobId : Uuid) (workspace : Workspace)
    (request : StorageShrinkRequest) (actorUserId : Uuid) (now : ℤ) :
    Except StorageError (StorageShrinkOperation × Database) := do
  ensure (!(db.latestStorageShrink workspace.id).any (·.reclaimable))
    .workspaceStorageShrinkConflict
  request.validate workspace
  let operation := startedOperation operationId workspace request actorUserId now
  let shrinks ← okOr (db.shrinks.insertNew (newShrinkRow operation now))
    (.database "UNIQUE constraint failed: workspace_storage_shrinks.id")
  let db ← dispatchShrink { db with shrinks } jobId workspace.id operationId now
  pure (operation, db)

/-- A repeated request of the same user is answered with the operation it has started. -/
def enqueueStorageShrink (db : Database) (operationId jobId workspaceId : Uuid)
    (request : StorageShrinkRequest) (actorUserId : Uuid) (now : ℤ) :
    Except StorageError (StorageShrinkOperation × Database) := do
  let (_, workspace) ← db.fetchWorkspace workspaceId
  match (db.activeShrinks workspaceId).head? with
  | some row => do
    ensure (row.operation.request = request && row.operation.actorUserId = actorUserId)
      .workspaceStorageShrinkConflict
    pure (row.operation, db)
  | none => startStorageShrink db operationId jobId workspace request actorUserId now

/-- **A request that has started an operation**: no operation was active, the latest one had
nothing left to reclaim, and the request is valid for the workspace. -/
structure Started (db : Database) (operationId jobId workspaceId : Uuid)
    (request : StorageShrinkRequest) (actorUserId : Uuid) (now : ℤ) (row : WorkspaceRow)
    (document : WorkspaceTemplateDocument) (workspace : Workspace) (db' : Database) : Prop where
  found : db.workspaces.find workspaceId = some row
  decodes : Decodes row document workspace
  idle : db.Idle workspaceId
  latest : ∀ operation ∈ db.latestStorageShrink workspaceId, operation.reclaimable = false
  valid : request.validate workspace = .ok ()
  new : ∀ r ∈ db.shrinks.rows, r.id ≠ operationId
  rows : db'.shrinks.rows = db.shrinks.rows ++
    [newShrinkRow (startedOperation operationId workspace request actorUserId now) now]
  jobs : enqueueJob db.jobs jobId (shrinkJob workspaceId operationId now) now = .ok db'.jobs
  result : db' = { db.writeWorkspace workspaceId (WorkspaceRow.bumpGeneration now) fun _ => rfl with
    shrinks := db'.shrinks, jobs := db'.jobs }

variable {actorUserId : Uuid} {request : StorageShrinkRequest} {saved : ShrinkRow}

theorem Started.mem_rows {r : ShrinkRow}
    (h : Started db operationId jobId workspaceId request actorUserId now row document workspace
      db') : r ∈ db'.shrinks.rows ↔ r ∈ db.shrinks.rows ∨
      r = newShrinkRow (startedOperation operationId workspace request actorUserId now) now := by
  rw [h.rows, List.mem_append, List.mem_singleton]

theorem enqueueStorageShrink_eq_ok
    (h : enqueueStorageShrink db operationId jobId workspaceId request actorUserId now =
      .ok (operation, db')) :
    db' = db ∨ ∃ row document workspace,
      Started db operationId jobId workspaceId request actorUserId now row document workspace
        db' := by
  simp only [enqueueStorageShrink, bind_eq_ok, Prod.exists] at h
  obtain ⟨row, workspace, hfetch, h⟩ := h
  obtain ⟨hfound, document, hdecodes⟩ := Database.fetchWorkspace_eq_ok.1 hfetch
  have hid : workspace.id = workspaceId := hdecodes.id.trans (Table.find_eq_some.1 hfound).2
  split at h
  · simp only [ensure_bind_eq_ok, pure_eq_ok, Prod.mk.injEq] at h
    exact .inl h.2.2.symm
  · rename_i hnone
    simp only [startStorageShrink, bind_eq_ok, ensure_eq_ok, okOr_eq_ok, pure_eq_ok,
      Prod.mk.injEq] at h
    obtain ⟨_, hlatest, _, hvalidate, shrinks, hinsert, db₁, hdispatch, rfl, rfl⟩ := h
    obtain ⟨hnew, hrows⟩ := Table.rows_of_insertNew hinsert
    obtain ⟨jobs, hjobs, rfl⟩ := dispatchShrink_eq_ok hdispatch
    rw [hid] at hlatest hjobs ⊢
    refine .inr ⟨row, document, workspace, hfound, hdecodes, ?_, ?_, hvalidate, hnew, hrows, hjobs,
      rfl⟩
    · rw [← Database.activeShrinks_eq_nil]
      exact List.head?_eq_none_iff.1 hnone
    · intro latest hmem
      simpa [Option.mem_def.1 hmem] using hlatest

/-- **A finished operation that has been made active again**, with a new job. -/
structure Activated (db : Database) (jobId workspaceId operationId : Uuid)
    (operation : StorageShrinkOperation) (now : ℤ) (row : WorkspaceRow)
    (document : WorkspaceTemplateDocument) (workspace : Workspace) (db' : Database) : Prop where
  found : db.workspaces.find workspaceId = some row
  decodes : Decodes row document workspace
  idle : db.Idle workspaceId
  jobs : enqueueJob db.jobs jobId (shrinkJob workspaceId operationId now) now = .ok db'.jobs
  result : db' = { (db.writeShrink operationId (ShrinkRow.activate operation now) fun _ =>
      rfl).writeWorkspace workspaceId (WorkspaceRow.bumpGeneration now) fun _ => rfl with
    jobs := db'.jobs }

theorem Activated.shrinks_eq
    (h : Activated db jobId workspaceId operationId operation now row document workspace db') :
    db'.shrinks = (db.writeShrink operationId (ShrinkRow.activate operation now) fun _ =>
      rfl).shrinks := by
  rw [h.result]
  rfl

/-! ### Confirmation -/

/-- The operation that a confirmation makes active. -/
def StorageShrinkOperation.reclaim (operation : StorageShrinkOperation) (now : ℤ) :
    StorageShrinkOperation :=
  { operation with phase := .reclaiming, updatedAt := now, error := none }

/-- The operation has sources to reclaim, and the workspace runs, or rests, on the new volumes. -/
def StorageShrinkOperation.confirmable (operation : StorageShrinkOperation)
    (workspace : Workspace) : Bool :=
  operation.phase = .completed && operation.reclaimable &&
    (if operation.resume then workspace.state = .ready else workspace.state = .stopped)

theorem StorageShrinkOperation.of_confirmable (h : operation.confirmable workspace = true) :
    operation.phase = .completed ∧ operation.reclaimable = true ∧
      (workspace.state = .ready ∨ workspace.state = .stopped) := by
  simp only [confirmable, Bool.and_eq_true, decide_eq_true_eq] at h
  obtain ⟨⟨hphase, hreclaimable⟩, hstate⟩ := h
  refine ⟨hphase, hreclaimable, ?_⟩
  split at hstate
  · exact .inl (by simpa using hstate)
  · exact .inr (by simpa using hstate)

/-- A confirmation is idempotent once the sources are being reclaimed. -/
def confirmStorageShrink (db : Database) (jobId workspaceId operationId : Uuid) (now : ℤ) :
    Except StorageError (StorageShrinkOperation × Database) := do
  let (_, workspace) ← db.fetchWorkspace workspaceId
  let operation ← okOr (db.latestStorageShrink workspaceId) .workspaceStorageShrinkConflict
  ensure (operation.id = operationId) .workspaceStorageShrinkConflict
  if operation.phase = .reclaiming ∨ operation.phase = .reclaimed then pure (operation, db)
  else do
    ensure (operation.confirmable workspace) .workspaceStorageShrinkConflict
    ensure (!db.storageShrinkActive workspaceId) .workspaceStorageShrinkConflict
    let operation := operation.reclaim now
    let db := db.writeShrink operation.id (ShrinkRow.activate operation now) fun _ => rfl
    let db ← dispatchShrink db jobId workspaceId operation.id now
    pure (operation, db)

/-- A confirmation has nothing to do, or it has made a completed operation active. -/
theorem confirmStorageShrink_eq_ok
    (h : confirmStorageShrink db jobId workspaceId operationId now = .ok (operation, db')) :
    db' = db ∨ ∃ row document workspace previous,
      Activated db jobId workspaceId operationId (previous.reclaim now) now row document workspace
        db' ∧
      db.latestStorageShrink workspaceId = some previous ∧ previous.id = operationId ∧
      previous.confirmable workspace = true := by
  simp only [confirmStorageShrink, bind_eq_ok, Prod.exists, okOr_eq_ok, ensure_eq_ok] at h
  obtain ⟨row, workspace, hfetch, previous, hlatest, _, hid, h⟩ := h
  obtain ⟨hfound, document, hdecodes⟩ := Database.fetchWorkspace_eq_ok.1 hfetch
  split at h
  · exact .inl (Prod.mk.inj (pure_eq_ok.1 h)).2.symm
  · simp only [bind_eq_ok, ensure_eq_ok, pure_eq_ok, Prod.mk.injEq, Bool.not_eq_true',
      Database.storageShrinkActive_eq_false] at h
    obtain ⟨_, hconfirmable, _, hidle, db₁, hdispatch, rfl, rfl⟩ := h
    obtain ⟨jobs, hjobs, rfl⟩ := dispatchShrink_eq_ok hdispatch
    obtain rfl : previous.id = operationId := by simpa using hid
    exact .inr ⟨row, document, workspace, previous, ⟨hfound, hdecodes, hidle, hjobs, rfl⟩, hlatest,
      rfl, hconfirmable⟩

/-! ### Retries -/

/-- The operation that a retry makes active. -/
def StorageShrinkOperation.retry (operation : StorageShrinkOperation) (now : ℤ) :
    StorageShrinkOperation :=
  { operation with phase := .resuming, updatedAt := now, error := none }

/-- The number of jobs of a workspace that are pending or running. -/
def Database.unfinishedJobs (db : Database) (workspaceId : Uuid) : ℕ :=
  (db.jobs.rows.filter fun row => row.workspaceId = some workspaceId &&
    (row.status = .pending || row.status = .running)).length

def retryStorageShrinkResume (db : Database) (jobId workspaceId operationId : Uuid) (now : ℤ) :
    Except StorageError (StorageShrinkOperation × Database) := do
  let (_, workspace) ← db.fetchWorkspace workspaceId
  let latest ← okOr (db.latestShrink workspaceId) .workspaceStorageShrinkConflict
  let operation := latest.operation
  validateRetryOperation latest.id operationId operation workspace
  validateRetryVolume operation.home operation.request.homeGib workspace.homeVolumeBinding
    workspace.template.resources.diskGib operation.originalHomeGib
  validateRetryVolume operation.temporary operation.request.temporaryStorageGib
    workspace.scratchVolumeBinding workspace.template.storagePolicy.temporaryStorageGib
    operation.originalTemporaryStorageGib
  validateRetryIdle (db.activeShrinks workspaceId).length (db.unfinishedJobs workspaceId)
  let operation := operation.retry now
  -- `UPDATE ... WHERE workspace_id = .. AND id = .. AND active = 0` must write one row
  ensure (db.shrinks.rows.any fun row =>
    row.workspaceId = workspaceId && row.id = operation.id && !row.active)
    .workspaceStorageShrinkConflict
  let db := db.writeShrink operation.id (ShrinkRow.activate operation now) fun _ => rfl
  let db ← dispatchShrink db jobId workspaceId operation.id now
  pure (operation, db)

/-- What a retry requires of the latest operation and of its two volumes. -/
structure Retryable (operationId : Uuid) (latest : ShrinkRow) (workspace : Workspace) : Prop where
  operation : validateRetryOperation latest.id operationId latest.operation workspace = .ok ()
  home : validateRetryVolume latest.operation.home latest.operation.request.homeGib
    workspace.homeVolumeBinding workspace.template.resources.diskGib
    latest.operation.originalHomeGib = .ok ()
  temporary : validateRetryVolume latest.operation.temporary
    latest.operation.request.temporaryStorageGib workspace.scratchVolumeBinding
    workspace.template.storagePolicy.temporaryStorageGib
    latest.operation.originalTemporaryStorageGib = .ok ()

theorem validateRetryOperation_eq_ok {storedId operationId : Uuid} {u : Unit}
    (h : validateRetryOperation storedId operationId operation workspace = .ok u) :
    storedId = operationId ∧ operation.id = operationId ∧ operation.phase = .failed ∧
      operation.switched = true ∧ operation.reclaimable = false ∧ workspace.state = .ready := by
  simp only [validateRetryOperation, ensure_eq_ok, Bool.and_eq_true, decide_eq_true_eq,
    Bool.not_eq_true'] at h
  obtain ⟨⟨⟨⟨⟨⟨⟨⟨⟨⟨hstored, hid⟩, -⟩, hphase⟩, hswitched⟩, -⟩, hreclaimable⟩, -⟩, -⟩, hready⟩,
    -⟩ := h
  exact ⟨hstored, hid, hphase, hswitched, hreclaimable, hready⟩

theorem Retryable.ready {latest : ShrinkRow} (h : Retryable operationId latest workspace) :
    workspace.state = .ready :=
  (validateRetryOperation_eq_ok h.operation).2.2.2.2.2

theorem retryStorageShrinkResume_eq_ok
    (h : retryStorageShrinkResume db jobId workspaceId operationId now = .ok (operation, db')) :
    ∃ row document workspace latest,
      Activated db jobId workspaceId operationId (latest.operation.retry now) now row document
        workspace db' ∧
      db.latestShrink workspaceId = some latest ∧ Retryable operationId latest workspace := by
  simp only [retryStorageShrinkResume, bind_eq_ok, Prod.exists, okOr_eq_ok, ensure_eq_ok,
    pure_eq_ok, Prod.mk.injEq] at h
  obtain ⟨row, workspace, hfetch, latest, hlatest, ⟨⟩, hoperation, ⟨⟩, hhome, ⟨⟩, htemporary, _,
    hidle, _, -, db₁, hdispatch, rfl, rfl⟩ := h
  obtain ⟨hfound, document, hdecodes⟩ := Database.fetchWorkspace_eq_ok.1 hfetch
  obtain ⟨jobs, hjobs, rfl⟩ := dispatchShrink_eq_ok hdispatch
  obtain ⟨-, hid, -⟩ := validateRetryOperation_eq_ok hoperation
  have hid' : (latest.operation.retry now).id = operationId := hid
  rw [hid'] at hjobs ⊢
  simp only [validateRetryIdle, ensure_eq_ok, Bool.and_eq_true, decide_eq_true_eq] at hidle
  refine ⟨row, document, workspace, latest, ⟨hfound, hdecodes, ?_, hjobs, rfl⟩, hlatest,
    ⟨hoperation, hhome, htemporary⟩⟩
  rw [← Database.activeShrinks_eq_nil]
  exact List.length_eq_zero_iff.1 hidle.1

/-! ### Saves -/

/-- The columns of a workspace that an update of an operation writes.  The snapshot is printed
without being validated, and the sizes are cast to their columns. -/
def WorkspaceRow.shrunk (workspace : Workspace) (document : WorkspaceTemplateDocument)
    (updatedAt : ℤ) (row : WorkspaceRow) : WorkspaceRow :=
  { row.withHome (HomeColumns.of U64.castI64 workspace.homeVolumeBinding) with
    state := workspace.state.asStr
    scratchVolumeBindingJson := workspace.scratchVolumeBinding.map .binding
    diskGib := U64.castI64 document.spec.resources.diskGib
    temporaryStorageGib := U64.castI64 document.spec.storagePolicy.temporaryStorageGib
    templateSnapshotYaml := .document document
    generation := row.generation + 1
    updatedAt }

/-- The row of an operation whose phase is saved. -/
def ShrinkRow.save (operation : StorageShrinkOperation) (row : ShrinkRow) : ShrinkRow :=
  { row with operation, active := operation.phase.active, updatedAt := operation.updatedAt }

/-- The update of the workspace that goes with a save. -/
def saveShrinkWorkspace (db : Database) (row : WorkspaceRow) (workspace : Workspace)
    (operation : StorageShrinkOperation) (update : ShrinkWorkspaceUpdate) :
    Except StorageError Database :=
  if update = .none then pure db
  else do
    let document ← okOr row.templateSnapshotYaml.fromStr .invalidWorkspace
    let (workspace, document) ← applyShrinkWorkspaceUpdate workspace document operation update
    pure (db.writeWorkspace row.id (WorkspaceRow.shrunk workspace document operation.updatedAt)
      fun _ => rfl)

/-- Only an active operation is saved. -/
def saveStorageShrink (db : Database) (operation : StorageShrinkOperation)
    (update : ShrinkWorkspaceUpdate) : Except StorageError Database := do
  let (row, workspace) ← db.fetchWorkspace operation.workspaceId
  ensure (db.shrinks.rows.any fun r =>
    r.id = operation.id && r.workspaceId = operation.workspaceId && r.active)
    .workspaceStorageShrinkConflict
  let db ← saveShrinkWorkspace db row workspace operation update
  pure (db.writeShrink operation.id (ShrinkRow.save operation) fun _ => rfl)

/-- What a save does to the workspaces: nothing, or the update it names. -/
def ShrinkUpdated (workspaces : WorkspaceTable) (operation : StorageShrinkOperation)
    (update : ShrinkWorkspaceUpdate) (document : WorkspaceTemplateDocument)
    (workspace : Workspace) (workspaces' : WorkspaceTable) : Prop :=
  (update = .none ∧ workspaces' = workspaces) ∨
    ∃ workspace' document', update ≠ .none ∧
      applyShrinkWorkspaceUpdate workspace document operation update =
        .ok (workspace', document') ∧
      workspaces' = workspaces.update (fun r => r.id = operation.workspaceId)
        (WorkspaceRow.shrunk workspace' document' operation.updatedAt) fun _ => rfl

/-- **A committed save**: an active operation was written, and its workspace as the update
says. -/
structure Saved (db : Database) (operation : StorageShrinkOperation)
    (update : ShrinkWorkspaceUpdate) (row : WorkspaceRow) (document : WorkspaceTemplateDocument)
    (workspace : Workspace) (saved : ShrinkRow) (db' : Database) : Prop where
  found : db.workspaces.find operation.workspaceId = some row
  decodes : Decodes row document workspace
  mem : saved ∈ db.shrinks.rows
  id : saved.id = operation.id
  workspaceId : saved.workspaceId = operation.workspaceId
  active : saved.active = true
  updated : ShrinkUpdated db.workspaces operation update document workspace db'.workspaces
  result : db' = { db.writeShrink operation.id (ShrinkRow.save operation) fun _ => rfl with
    workspaces := db'.workspaces }

theorem Saved.shrinks_eq (h : Saved db operation update row document workspace saved db') :
    db'.shrinks = (db.writeShrink saved.id (ShrinkRow.save operation) fun _ => rfl).shrinks := by
  rw [h.result, h.id]

theorem saveStorageShrink_eq_ok (h : saveStorageShrink db operation update = .ok db') :
    ∃ row document workspace saved,
      Saved db operation update row document workspace saved db' := by
  simp only [saveStorageShrink, bind_eq_ok, Prod.exists, ensure_eq_ok, pure_eq_ok,
    List.any_eq_true, Bool.and_eq_true, decide_eq_true_eq] at h
  obtain ⟨row, workspace, hfetch, _, ⟨saved, hsaved, ⟨hid, hworkspace⟩, hactive⟩, db₁, hupdate,
    rfl⟩ := h
  obtain ⟨hfound, document, hdecodes⟩ := Database.fetchWorkspace_eq_ok.1 hfetch
  have hrow : row.id = operation.workspaceId := (Table.find_eq_some.1 hfound).2
  refine ⟨row, document, workspace, saved, ?_⟩
  unfold saveShrinkWorkspace at hupdate
  split at hupdate
  · rename_i hnone
    obtain rfl := pure_eq_ok.1 hupdate
    exact ⟨hfound, hdecodes, hsaved, hid, hworkspace, hactive, .inl ⟨hnone, rfl⟩, rfl⟩
  · rename_i hsome
    simp only [bind_eq_ok, Prod.exists, okOr_eq_ok, pure_eq_ok, hdecodes.yaml, YamlText.fromStr,
      Option.some_inj, exists_eq_left'] at hupdate
    obtain ⟨workspace', document', happly, rfl⟩ := hupdate
    rw [hrow]
    exact ⟨hfound, hdecodes, hsaved, hid, hworkspace, hactive,
      .inr ⟨workspace', document', hsome, happly, rfl⟩, rfl⟩

/-! ### Deletion -/

/-- The claim name that the destination of a volume is made under. -/
def shrinkClaimName (operationId : Uuid) (role : ShrinkRole) : String :=
  "shrink-" ++ String.ofList operationId.simple ++ "-" ++ role.asStr

/-- A destination that deletion has found in the cluster. -/
def cleanupDestination (operationId : Uuid) (role : ShrinkRole)
    (existing captured : StorageShrinkVolume) :
    Except StorageError (Option WorkspaceHomeVolumeBinding) :=
  match existing.destination, captured.destination with
  | none, some binding => do
    ensure (binding.isValid && binding.namespace = workspaceNamespace &&
      binding.claimName = shrinkClaimName operationId role &&
      some binding.capacityGib = existing.targetGib) .workspaceStorageShrinkConflict
    pure (some binding)
  | destination, _ => pure destination

/-- What deletion adds to the record of a volume. -/
def cleanupVolume (operationId : Uuid) (role : ShrinkRole)
    (existing captured : StorageShrinkVolume) : Except StorageError StorageShrinkVolume := do
  ensure (existing.source = captured.source &&
    (existing.destination.isNone || existing.destination = captured.destination))
    .workspaceStorageShrinkConflict
  let destination ← cleanupDestination operationId role existing captured
  pure { existing with
    destination
    sourceVolume := existing.sourceVolume.or captured.sourceVolume
    destinationVolume := existing.destinationVolume.or captured.destinationVolume }

/-- A finished operation of a workspace that is being deleted. -/
def saveStorageShrinkCleanupIdentity (db : Database) (operation : StorageShrinkOperation) :
    Except StorageError Database := do
  let (_, workspace) ← db.fetchWorkspace operation.workspaceId
  ensure (workspace.state = .deleting && !operation.phase.active) .workspaceStorageShrinkConflict
  let row ← okOr ((db.shrinks.find operation.id).filter fun r =>
    r.workspaceId = operation.workspaceId && !r.active) .workspaceStorageShrinkConflict
  let home ← cleanupVolume operation.id .home row.operation.home operation.home
  let temporary ← cleanupVolume operation.id .temporary row.operation.temporary operation.temporary
  pure (db.writeShrink operation.id
    (fun r => { r with operation := { row.operation with home, temporary } }) fun _ => rfl)

/-- **What deletion adds to a volume**: a destination and identities, where there were none. -/
structure VolumeCleaned (existing volume : StorageShrinkVolume) : Prop where
  target : volume.targetGib = existing.targetGib
  source : volume.source = existing.source
  verified : volume.verified = existing.verified
  usage : volume.usedBytes = existing.usedBytes ∧ volume.usedInodes = existing.usedInodes
  destination : existing.destination.isSome = true → volume.destination = existing.destination
  untargeted : existing.targetGib = none → volume.destination = existing.destination
  sourceVolume : existing.sourceVolume.isSome = true → volume.sourceVolume = existing.sourceVolume
  destinationVolume : existing.destinationVolume.isSome = true →
    volume.destinationVolume = existing.destinationVolume

theorem VolumeCleaned.refl (volume : StorageShrinkVolume) : VolumeCleaned volume volume :=
  ⟨rfl, rfl, rfl, ⟨rfl, rfl⟩, fun _ => rfl, fun _ => rfl, fun _ => rfl, fun _ => rfl⟩

theorem cleanupVolume_eq_ok {role : ShrinkRole} {existing captured volume : StorageShrinkVolume}
    (h : cleanupVolume operationId role existing captured = .ok volume) :
    VolumeCleaned existing volume := by
  simp only [cleanupVolume, bind_eq_ok, pure_eq_ok] at h
  obtain ⟨_, -, destination, hdestination, rfl⟩ := h
  refine ⟨rfl, rfl, rfl, ⟨rfl, rfl⟩, fun hsome => ?_, fun hnone => ?_, fun hsome => ?_,
    fun hsome => ?_⟩
  · unfold cleanupDestination at hdestination
    split at hdestination
    · rename_i hnone _
      rw [hnone] at hsome
      cases hsome
    · exact (pure_eq_ok.1 hdestination).symm
  · unfold cleanupDestination at hdestination
    split at hdestination
    · simp only [ensure_bind_eq_ok, Bool.and_eq_true, decide_eq_true_eq, hnone] at hdestination
      cases hdestination.1.2
    · exact (pure_eq_ok.1 hdestination).symm
  · exact Option.or_of_isSome hsome
  · exact Option.or_of_isSome hsome

/-- **A committed record of the volumes of a finished operation.** -/
structure Cleaned (db : Database) (operation : StorageShrinkOperation) (saved : ShrinkRow)
    (home temporary : StorageShrinkVolume) (db' : Database) : Prop where
  mem : saved ∈ db.shrinks.rows
  id : saved.id = operation.id
  workspaceId : saved.workspaceId = operation.workspaceId
  inactive : saved.active = false
  homeVolume : cleanupVolume operation.id .home saved.operation.home operation.home = .ok home
  temporaryVolume : cleanupVolume operation.id .temporary saved.operation.temporary
    operation.temporary = .ok temporary
  result : db' = db.writeShrink operation.id
    (fun r => { r with operation := { saved.operation with home, temporary } }) fun _ => rfl

theorem Cleaned.shrinks_eq {home temporary : StorageShrinkVolume}
    (h : Cleaned db operation saved home temporary db') :
    db'.shrinks = (db.writeShrink saved.id (fun r => { r with
      operation := { saved.operation with home, temporary } }) fun _ => rfl).shrinks := by
  rw [h.result, h.id]

theorem saveStorageShrinkCleanupIdentity_eq_ok
    (h : saveStorageShrinkCleanupIdentity db operation = .ok db') :
    ∃ saved home temporary, Cleaned db operation saved home temporary db' := by
  simp only [saveStorageShrinkCleanupIdentity, bind_eq_ok, Prod.exists, okOr_eq_ok, pure_eq_ok,
    Option.filter_eq_some_iff, Table.find_eq_some, Bool.and_eq_true, decide_eq_true_eq,
    Bool.not_eq_true'] at h
  obtain ⟨_, _, -, _, -, saved, ⟨⟨hmem, hid⟩, hworkspace, hactive⟩, home, hhome, temporary,
    htemporary, rfl⟩ := h
  exact ⟨saved, home, temporary, hmem, hid, hworkspace, hactive, hhome, htemporary, rfl⟩

end WorkspaceControl
