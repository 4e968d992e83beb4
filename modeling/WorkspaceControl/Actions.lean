/-
**Intents and observations.**

`src/src/storage/workspace_actions.rs`.  A user's action is an intent: it moves the state, takes the
next generation and leaves a job.  An observation of the reconciler, or the report that a job has
failed for good, moves the state under the generation it was made at, and is dropped when that
generation is over.  An observation that the runtime is gone removes the row, and with it the
storage operations of the workspace.

Main definitions:

* `StoredTransition`, `applyTransition` — the transaction behind all three;
* `requestWorkspaceAction`, `recordWorkspaceObservation`, `markWorkspaceFailedIfGeneration` — the
  three callers;
* `Transitioned` — what a transition that was committed has done.

Main results:

* `applyTransition_eq_ok`, `requestWorkspaceAction_eq_ok`, `recordWorkspaceObservation_eq_ok`,
  `markWorkspaceFailedIfGeneration_eq_ok` — **an action is committed under the next generation and
  without an active migration; an observation under the generation it names**.
-/

import WorkspaceControl.Updates

set_option autoImplicit false

namespace WorkspaceControl

open Fallible MachineInt Relational

/-! ### Transitions -/

inductive StoredTransition
  | action (action : WorkspaceAction)
  | observation (observation : WorkspaceObservation)
deriving DecidableEq

namespace StoredTransition

def nextState (state : WorkspaceState) : StoredTransition → Except StorageError WorkspaceState
  | action a => (state.request a).mapError .transition
  | observation o => (state.observe o).mapError .transition

def enqueuesReconcile : StoredTransition → Bool
  | action _ => true
  | observation _ => false

def confirmsDeletion (transition : StoredTransition) : Bool :=
  transition = observation .deleted

/-- An intent takes the next generation. -/
def nextGeneration (generation : ℕ) : StoredTransition → Except StorageError ℕ
  | action _ => okOr (U64.checkedAdd generation 1) .invalidWorkspace
  | observation _ => pure generation

/-- Only an intent is refused while a storage migration is active. -/
def guard (db : Database) (workspaceId : Uuid) : StoredTransition → Except StorageError Unit
  | action _ => db.guardStorageShrink workspaceId
  | observation _ => pure ()

/-- `job_and_audit`: only an intent leaves a job. -/
def insertJob (db : Database) (jobId workspaceId : Uuid) (generation : ℕ) (now : ℤ) :
    StoredTransition → Except StorageError Database
  | action a => db.insertJob jobId (reconcileJob workspaceId
      (reconcilePayload generation [("action", .scalar (.str a.asStr))]) now) now
  | observation _ => pure db

end StoredTransition

/-- The row after a transition. -/
def WorkspaceRow.transition (state : WorkspaceState) (generation now : ℤ) (row : WorkspaceRow) :
    WorkspaceRow :=
  { row with state := state.asStr, generation, updatedAt := now }

/-- `scrub_deleted`: the row goes, and the operations of the workspace with it. -/
def Database.scrubDeleted (db : Database) (workspaceId : Uuid) : Database :=
  { db with
    tombstones := workspaceId :: db.tombstones
    workspaces := db.workspaces.delete fun row =>
      row.id = workspaceId && row.state = WorkspaceState.deleted.asStr
    shrinks := db.shrinks.delete fun row => row.workspaceId = workspaceId }

/-- `apply_sqlite`, `apply_postgres`. -/
def applyTransition (db : Database) (jobId : Uuid) (row : WorkspaceRow) (workspace : Workspace)
    (transition : StoredTransition) (now : ℤ) : Except StorageError (Workspace × Database) := do
  transition.guard db row.id
  let state ← transition.nextState workspace.state
  let generation ← transition.nextGeneration workspace.generation
  let column ← asI64 generation .invalidWorkspace
  let prior ← asI64 workspace.generation .invalidWorkspace
  ensure (row.state = workspace.state.asStr && row.generation = prior) .workspaceNotFound
  let db ← transition.insertJob
    (db.writeWorkspace row.id (WorkspaceRow.transition state column now) fun _ => rfl) jobId row.id
    generation now
  pure ({ workspace with state, generation, updatedAt := now },
    if transition.confirmsDeletion then db.scrubDeleted row.id else db)

/-- `transition_workspace`: without the row, or past the generation, an observation is dropped. -/
def transitionWorkspace (db : Database) (jobId workspaceId : Uuid)
    (expectedGeneration : Option ℕ) (transition : StoredTransition) (now : ℤ) :
    Except StorageError (Option Workspace × Database) :=
  match db.workspaces.find workspaceId with
  | none => if expectedGeneration.isSome then pure (none, db) else throw .workspaceNotFound
  | some row => do
    let workspace ← decodeWorkspace row
    if expectedGeneration.any (workspace.generation ≠ ·) then pure (none, db)
    else
      let (workspace, db) ← applyTransition db jobId row workspace transition now
      pure (some workspace, db)

def requestWorkspaceAction (db : Database) (jobId workspaceId : Uuid) (action : WorkspaceAction)
    (now : ℤ) : Except StorageError (Workspace × Database) := do
  let (workspace, db) ← transitionWorkspace db jobId workspaceId none (.action action) now
  let workspace ← okOr workspace .workspaceNotFound
  pure (workspace, db)

def recordWorkspaceObservation (db : Database) (workspaceId : Uuid) (expectedGeneration : ℕ)
    (observation : WorkspaceObservation) (now : ℤ) :
    Except StorageError (Option Workspace × Database) :=
  -- no job is inserted for an observation, so its id does not matter
  transitionWorkspace db workspaceId workspaceId (some expectedGeneration)
    (.observation observation) now

def markWorkspaceFailedIfGeneration (db : Database) (workspaceId : Uuid)
    (expectedGeneration : ℕ) (now : ℤ) : Except StorageError (Bool × Database) :=
  match db.workspaces.find workspaceId with
  | none => pure (false, db)
  | some row => do
    let workspace ← decodeWorkspace row
    if workspace.generation ≠ expectedGeneration ∨
        (workspace.state.observe .failed).toOption.isNone then pure (false, db)
    else
      let (_, db) ← applyTransition db workspaceId row workspace (.observation .failed) now
      pure (true, db)

/-! ### What a transition does -/

/-- **A committed transition**: the row it found, the snapshot and the workspace the row stood for,
the next state and generation, and the database it left. -/
structure Transitioned (db : Database) (workspaceId : Uuid) (transition : StoredTransition)
    (now : ℤ) (row : WorkspaceRow) (document : WorkspaceTemplateDocument) (workspace : Workspace)
    (next : WorkspaceState) (newGeneration : ℕ) (db' : Database) : Prop where
  found : db.workspaces.find workspaceId = some row
  decodes : Decodes row document workspace
  idle : transition.enqueuesReconcile = true → db.Idle workspaceId
  state : transition.nextState workspace.state = .ok next
  generation : newGeneration = if transition.enqueuesReconcile then workspace.generation + 1
    else workspace.generation
  jobs : ReconcileInserted db.jobs workspaceId db'.jobs
  silent : transition.enqueuesReconcile = false → db'.jobs = db.jobs
  result : db' =
    let written := { db.writeWorkspace workspaceId
      (WorkspaceRow.transition next newGeneration now) fun _ => rfl with jobs := db'.jobs }
    if transition.confirmsDeletion then written.scrubDeleted workspaceId else written

variable {db db' : Database} {expectedGeneration : ℕ} {jobId workspaceId : Uuid} {now : ℤ}

theorem StoredTransition.insertJob_eq_ok {transition : StoredTransition} {generation : ℕ}
    (h : transition.insertJob db jobId workspaceId generation now = .ok db') :
    ReconcileInserted db.jobs workspaceId db'.jobs ∧ db' = { db with jobs := db'.jobs } ∧
      (transition.enqueuesReconcile = false → db'.jobs = db.jobs) := by
  cases transition with
  | action a =>
    obtain ⟨jobs, hjobs, rfl⟩ := Database.insertJob_eq_ok h
    exact ⟨.inr ⟨_, _, _, hjobs⟩, rfl, fun hsilent => nomatch hsilent⟩
  | observation o =>
    obtain rfl := pure_eq_ok.1 h
    exact ⟨.inl rfl, rfl, fun _ => rfl⟩

theorem StoredTransition.nextGeneration_eq_ok {transition : StoredTransition}
    {generation generation' : ℕ} (h : transition.nextGeneration generation = .ok generation') :
    generation' = if transition.enqueuesReconcile then generation + 1 else generation := by
  cases transition with
  | action a => exact checkedAdd_one_eq_some (okOr_eq_ok.1 h)
  | observation o => exact (pure_eq_ok.1 h).symm

theorem applyTransition_eq_ok {row : WorkspaceRow} {workspace workspace' : Workspace}
    {transition : StoredTransition} (hfound : db.workspaces.find workspaceId = some row)
    (hdecode : decodeWorkspace row = .ok workspace)
    (h : applyTransition db jobId row workspace transition now = .ok (workspace', db')) :
    ∃ document, Transitioned db workspaceId transition now row document workspace workspace'.state
      workspace'.generation db' := by
  obtain ⟨document, hdecodes⟩ := decodeWorkspace_eq_ok.1 hdecode
  obtain ⟨-, hid⟩ := Table.find_eq_some.1 hfound
  simp only [applyTransition, bind_eq_ok, asI64_eq_ok, ensure_eq_ok, pure_eq_ok] at h
  obtain ⟨⟨⟩, hguard, state, hstate, generation, hgeneration, column, ⟨rfl, -⟩, prior, -, _, -, db₁,
    hjob, hresult⟩ := h
  obtain ⟨rfl, rfl⟩ := Prod.mk.inj hresult
  rw [hid] at hguard hjob
  obtain ⟨hinserted, hdb₁, hsilent⟩ := StoredTransition.insertJob_eq_ok hjob
  refine ⟨document, hfound, hdecodes, fun haction => ?_, hstate,
    StoredTransition.nextGeneration_eq_ok hgeneration, ?_, ?_, ?_⟩
  · cases transition with
    | action a => exact Database.guardStorageShrink_eq_ok.1 hguard
    | observation o => cases haction
  · split
    · exact hinserted
    · exact hinserted
  · split
    · exact hsilent
    · exact hsilent
  · rw [hid]
    split
    · rw [hdb₁]
      rfl
    · exact hdb₁

/-- **An action is an intent**: it found no active migration. -/
theorem requestWorkspaceAction_eq_ok {action : WorkspaceAction} {workspace' : Workspace}
    (h : requestWorkspaceAction db jobId workspaceId action now = .ok (workspace', db')) :
    ∃ row document workspace, Transitioned db workspaceId (.action action) now row document
      workspace workspace'.state workspace'.generation db' := by
  simp only [requestWorkspaceAction, transitionWorkspace, bind_eq_ok, Prod.exists, okOr_eq_ok,
    pure_eq_ok, Prod.mk.injEq] at h
  obtain ⟨_, db₁, h, _, rfl, rfl, rfl⟩ := h
  split at h
  · simp at h
  · rename_i row hrow
    simp only [Option.any_none, Bool.false_eq_true, if_false, bind_eq_ok, Prod.exists, pure_eq_ok,
      Prod.mk.injEq, Option.some_inj] at h
    obtain ⟨workspace, hdecode, _, _, happly, rfl, rfl⟩ := h
    obtain ⟨document, htransitioned⟩ := applyTransition_eq_ok hrow hdecode happly
    exact ⟨row, document, workspace, htransitioned⟩

/-- **An observation is dropped, or committed under the generation it names.** -/
theorem recordWorkspaceObservation_eq_ok
    {observation : WorkspaceObservation}
    {result : Option Workspace}
    (h : recordWorkspaceObservation db workspaceId expectedGeneration observation now =
      .ok (result, db')) :
    (result = none ∧ db' = db) ∨ ∃ row document workspace workspace', result = some workspace' ∧
      workspace.generation = expectedGeneration ∧
      Transitioned db workspaceId (.observation observation) now row document workspace
        workspace'.state workspace'.generation db' := by
  simp only [recordWorkspaceObservation, transitionWorkspace] at h
  split at h
  · simp only [Option.isSome_some, if_true, pure_eq_ok, Prod.mk.injEq] at h
    exact .inl ⟨h.1.symm, h.2.symm⟩
  · rename_i row hrow
    simp only [bind_eq_ok] at h
    obtain ⟨workspace, hdecode, h⟩ := h
    split at h
    · obtain ⟨rfl, rfl⟩ := Prod.mk.inj (pure_eq_ok.1 h)
      exact .inl ⟨rfl, rfl⟩
    · rename_i hexpected
      simp only [bind_eq_ok, Prod.exists, pure_eq_ok, Prod.mk.injEq] at h
      obtain ⟨workspace', _, happly, rfl, rfl⟩ := h
      obtain ⟨document, htransitioned⟩ := applyTransition_eq_ok hrow hdecode happly
      exact .inr ⟨row, document, workspace, workspace', rfl, by simpa using hexpected,
        htransitioned⟩

/-- A failure is dropped, or committed under the generation it names. -/
theorem markWorkspaceFailedIfGeneration_eq_ok
    {marked : Bool}
    (h : markWorkspaceFailedIfGeneration db workspaceId expectedGeneration now =
      .ok (marked, db')) :
    (marked = false ∧ db' = db) ∨ ∃ row document workspace state generation, marked = true ∧
      workspace.generation = expectedGeneration ∧
      Transitioned db workspaceId (.observation .failed) now row document workspace state
        generation db' := by
  simp only [markWorkspaceFailedIfGeneration] at h
  split at h
  · obtain ⟨rfl, rfl⟩ := Prod.mk.inj (pure_eq_ok.1 h)
    exact .inl ⟨rfl, rfl⟩
  · rename_i row hrow
    simp only [bind_eq_ok] at h
    obtain ⟨workspace, hdecode, h⟩ := h
    split at h
    · obtain ⟨rfl, rfl⟩ := Prod.mk.inj (pure_eq_ok.1 h)
      exact .inl ⟨rfl, rfl⟩
    · rename_i hexpected
      simp only [bind_eq_ok, Prod.exists, pure_eq_ok, Prod.mk.injEq] at h
      obtain ⟨workspace', _, happly, rfl, rfl⟩ := h
      obtain ⟨document, htransitioned⟩ := applyTransition_eq_ok hrow hdecode happly
      rw [not_or, not_not] at hexpected
      exact .inr ⟨row, document, workspace, _, _, rfl, hexpected.1, htransitioned⟩

end WorkspaceControl
