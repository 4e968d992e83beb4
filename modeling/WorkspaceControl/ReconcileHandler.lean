/-
**The reconciler.**

`src/src/jobs/kubernetes.rs`: the handler of reconcile jobs.  It reads the workspace once, brings
the cluster to the state that the workspace asks for, and records what it observes under the
generation it has read.

Main definitions:

* `JobHandlerError` — how a handler leaves a job: failed, waiting, or waiting with a checkpoint;
* `reconcileWorkspace`, `observeWorkspace`, `reconcileDeletion` — the reconciler;
* `handleReconcile`, `reconcileTerminalFailure` — the handler of a job, and of its last failure.

Main results:

* `reconcileWorkspace_yields` — **the reconciler records observations only under the generation of
  the workspace it was given**, and a checkpoint keeps the payload of its job.
-/

import WorkspaceControl.Calls

set_option autoImplicit false

namespace WorkspaceControl

open Fallible MachineInt Interaction Routine

/-! ### Errors and checkpoints -/

inductive JobHandlerError
  | failed (text : String)
  | pending (text : String)
  | pendingWithCheckpoint (message : String) (payload : Payload)

/-- An error of the database fails the job. -/
def jobError (e : StorageError) : JobHandlerError := .failed e.message

def reconcileError : ReconcileError → JobHandlerError
  | .waiting text => .pending text
  | .failed text => .failed text

/-- The payload of a job that is parked: which generation was applied, and when. -/
def checkpointPayload (payload : Payload) (generation : ℕ) : Option ℤ → Payload
  | none => payload.remove "runtime_wait"
  | some reconciledAt =>
    ((payload.remove "runtime_wait").setIndex "reconciled_generation"
      (.scalar (.int generation))).setIndex "reconciled_at" (.scalar (.int reconciledAt))

def checkpointError (job : ClaimedJob) (workspace : Workspace) (reconciledAt : Option ℤ) :
    JobHandlerError → JobHandlerError
  | .pending message =>
    .pendingWithCheckpoint message
      (checkpointPayload job.payload workspace.generation reconciledAt)
  | error => error

/-- A failure to observe is a reason to wait. -/
def failedToPending : JobHandlerError → JobHandlerError
  | .failed message => .pending message
  | error => error

/-- The generation was applied less than a minute ago, and the cluster is still at work. -/
def startupCheckpointMatches (workspace : Workspace) (job : ClaimedJob) (now : ℤ) : Bool :=
  [WorkspaceState.provisioning, .starting, .restarting, .stopping].contains workspace.state &&
    (job.payload.get "reconciled_generation").bind JsonValue.asU64 = some workspace.generation &&
    ((job.payload.get "reconciled_at").bind JsonValue.asI64).any fun reconciledAt =>
      0 ≤ I64.saturatingSub now reconciledAt && I64.saturatingSub now reconciledAt < 60

/-! ### Reconciliation -/

/-- The handlers of reconcile jobs have no local variable. -/
abbrev Reconciler (α : Type) : Type := Routine signature Unit JobHandlerError α

def recordObservation (workspace : Workspace) (observation : WorkspaceObservation) :
    Reconciler Unit := do
  let now ← unixTimestamp .failed
  let _ ← transact jobError (.observe workspace.id workspace.generation observation now)
  pure ()

/-- The Pod is not there yet: help the scheduler, and wait. -/
def waitForPod (workspace : Workspace) (message : String) : Reconciler Unit := do
  attempt .pending (← request (.recoverScratchScheduling workspace.id))
  throw (.pending message)

/-- The Pod is gone, and the scratch volume with it. -/
def observeStopped (workspace : Workspace) : Reconciler Unit := do
  if ← attempt .failed (← request (.deleteStoppedScratch workspace.id)) then
    recordObservation workspace .stopped
  else throw (.pending "waiting for temporary scratch PVC removal")

/-- The Pod has been asked for. -/
def observeStarting (workspace : Workspace) : Reconciler Unit := do
  if ← attempt .failed (← request (.hasObservedReplicas workspace.id 1)) then
    recordObservation workspace .ready
  else waitForPod workspace "workspace StatefulSet is not ready yet"

/-- The Pod was ready and is not: this is recorded before anything is done about it. -/
def observeNotReady (workspace : Workspace) : Reconciler Unit := do
  recordObservation workspace .notReady
  waitForPod workspace "workspace Pod is recovering readiness"

/-- A workspace that is being deleted is never observed. -/
def observeWorkspace (workspace : Workspace) : Reconciler Unit :=
  match workspace.state with
  | .provisioning | .starting | .restarting => observeStarting workspace
  | .ready => do
    if ← attempt .pending (← request (.hasObservedReplicas workspace.id 1)) then pure ()
    else observeNotReady workspace
  | .stopping => do
    if ← attempt .failed (← request (.hasObservedReplicas workspace.id 0)) then
      observeStopped workspace
    else throw (.pending "workspace StatefulSet has not scaled to zero yet")
  | .stopped | .failed | .deleting | .deleted => pure ()

/-- The volumes of the finished operations are recorded before the namespace goes. -/
def captureCleanup :
    List StorageShrinkOperation → Reconciler (List StorageShrinkOperation)
  | [] => pure []
  | operation :: operations => do
    let (home, temporary) ← attempt .failed (← request (.captureCleanup operation))
    let captured := { operation with home, temporary }
    transact jobError (.saveShrinkCleanup captured)
    let rest ← captureCleanup operations
    pure (captured :: rest)

/-- Everything is gone but the volumes of the storage operations. -/
def confirmDeletion (workspace : Workspace) (operations : List StorageShrinkOperation) :
    Reconciler Unit := do
  if ← attempt .failed (← request (.deleteShrinkStorage operations)) then
    recordObservation workspace .deleted
  else throw (.pending "waiting for storage-shrink bindings and backups to be deleted")

def reconcileDeletion (workspace : Workspace) : Reconciler Unit := do
  let operations ← transact jobError (.listShrinks workspace.id)
  let operations ← captureCleanup operations
  match ← attempt .failed (← request (.deleteOrConfirm workspace.id)) with
  | .gone => confirmDeletion workspace operations
  | .deletionRequested | .terminating =>
    throw (.pending "workspace namespace deletion is still in progress")

/-- Everything that the cluster needs is applied, and then observed. -/
def applyWorkspace (workspace : Workspace) (job : ClaimedJob) : Reconciler Unit := do
  attempt .failed (← request (.prepareRuntime workspace))
  attempt reconcileError (← request (.reconcileResources workspace))
  attempt .failed (← request (.reconcilePortMappings workspace))
  let reconciledAt ← unixTimestamp .failed
  mapError (checkpointError job workspace (some reconciledAt)) (observeWorkspace workspace)

/-- A hint of the watch: it is about the present generation, or about nothing. -/
def observeHint (workspace : Workspace) (job : ClaimedJob) : Reconciler Unit :=
  if (job.payload.get "generation").bind JsonValue.asU64 = some workspace.generation ∧
      (workspace.state = .ready ∨ workspace.state = .starting) then do
    let now ← unixTimestamp .failed
    mapError (fun e => checkpointError job workspace (some now) (failedToPending e))
      (observeWorkspace workspace)
  else pure ()

/-- A workspace that was applied a moment ago is only observed. -/
def applyOrObserve (workspace : Workspace) (job : ClaimedJob) : Reconciler Unit := do
  let now ← unixTimestamp .failed
  if startupCheckpointMatches workspace job now then
    mapError (checkpointError job workspace none) (observeWorkspace workspace)
  else applyWorkspace workspace job

def ClaimedJob.isRuntimeObservation (job : ClaimedJob) : Bool :=
  (job.payload.get "runtime_observation").bind JsonValue.asBool = some true

def ClaimedJob.isInjectionChange (job : ClaimedJob) : Bool :=
  (job.payload.get "reason").bind JsonValue.asStr = some "injection_changed"

def reconcileWorkspace (workspace : Workspace) (job : ClaimedJob) : Reconciler Unit :=
  if job.isRuntimeObservation then observeHint workspace job
  else
    match workspace.state with
    | .deleted => pure ()
    | .deleting => reconcileDeletion workspace
    | _ => applyOrObserve workspace job

/-! ### Jobs -/

/-- A change of the injections needs no reconciliation of the rest. -/
def reconcileInjections (workspace : Workspace) : Reconciler Unit :=
  if workspace.state = .deleting ∨ workspace.state = .deleted then pure ()
  else do
    attempt .failed (← request (.prepareRuntime workspace))
    attempt reconcileError (← request (.reconcileInjections workspace))

/-- Nothing is done while a storage operation is active. -/
def reconcileUnlessShrinking (workspace : Workspace) (job : ClaimedJob) : Reconciler Unit := do
  if ← transact jobError (.shrinkActive workspace.id) then pure ()
  else if job.isInjectionChange then reconcileInjections workspace
  else reconcileWorkspace workspace job

/-- The job of a workspace that is gone is obsolete. -/
def reconcileRead (job : ClaimedJob) : Except StorageError Workspace → Reconciler Unit
  | .ok workspace => reconcileUnlessShrinking workspace job
  | .error .workspaceNotFound => pure ()
  | .error e => throw (jobError e)

def handleReconcile (job : ClaimedJob) : Reconciler Unit := do
  let workspaceId ← attempt .failed (okOr job.workspaceId "workspace job has no workspace id")
  let read ← result (transact id (.getWorkspace workspaceId))
  reconcileRead job read

/-- The last failure of a reconcile job is reported under the generation the job was made for. -/
def reconcileTerminalFailure (job : ClaimedJob) (now : ℤ) :
    Routine signature Unit StorageError Unit :=
  if job.isInjectionChange || job.isRuntimeObservation then pure ()
  else
    match job.workspaceId, (job.payload.get "generation").bind JsonValue.asU64 with
    | some workspaceId, some generation => do
      let _ ← transact id (.markFailed workspaceId generation now)
      pure ()
    | _, _ => pure ()

theorem reconcileTerminalFailure_yields {job : ClaimedJob} {now : ℤ} {P : Call → Prop}
    (h : ∀ id generation, job.workspaceId = some id →
      (job.payload.get "generation").bind JsonValue.asU64 = some generation →
      P (.store (.markFailed id generation now))) :
    Yields P (fun _ => True) (reconcileTerminalFailure job now) := by
  unfold reconcileTerminalFailure
  split
  · exact yields_pure trivial
  · split
    · rename_i id generation hid hgeneration
      exact yields_bind (Q := fun _ => True)
        (yields_transact (h id generation hid hgeneration) fun _ => trivial)
        (fun _ _ => yields_pure trivial) fun _ _ => trivial
    · exact yields_pure trivial

/-! ### What the reconciler may do -/

/-- The transactions of the reconciler on a workspace: observations under its generation, and the
records of its finished operations. -/
def ReconcilerCall (workspace : Workspace) : Call → Prop
  | .store (.observe id generation _ _) => id = workspace.id ∧ generation = workspace.generation
  | .store (.listShrinks _) => True
  | .store (.saveShrinkCleanup _) => True
  | .store _ => False
  | _ => True

/-- A result without a checkpoint. -/
def Plain {α : Type} : Except JobHandlerError α → Prop
  | .error (.pendingWithCheckpoint ..) => False
  | _ => True

/-- A checkpoint, if there is one, is made from the payload of the job. -/
def Checkpoints (job : ClaimedJob) : Except JobHandlerError Unit → Prop
  | .error (.pendingWithCheckpoint _ payload) => ∃ generation reconciledAt,
      payload = checkpointPayload job.payload generation reconciledAt
  | _ => True

theorem Plain.checkpoints {job : ClaimedJob} {r : Except JobHandlerError Unit} (h : Plain r) :
    Checkpoints job r := by
  match r, h with
  | .ok _, _ => trivial
  | .error (.failed _), _ => trivial
  | .error (.pending _), _ => trivial

section Yields

variable {α β : Type} {workspace : Workspace} {job : ClaimedJob}

/-- The routines of the reconciler that leave no checkpoint. -/
abbrev Quiet (workspace : Workspace) (x : Reconciler α) : Prop :=
  Yields (ReconcilerCall workspace) Plain x

theorem quiet_bind {x : Reconciler α} {f : α → Reconciler β} (hx : Quiet workspace x)
    (hf : ∀ a, Quiet workspace (f a)) : Quiet workspace (x >>= f) := by
  refine yields_bind hx (fun a _ => hf a) fun e he => ?_
  match e, he with
  | .failed _, _ => trivial
  | .pending _, _ => trivial

/-- An answer of the cluster whose error fails the job, or makes it wait. -/
theorem quiet_attempt {ε : Type} {f : ε → JobHandlerError} (r : Except ε α)
    (hf : ∀ e, Plain (.error (f e) : Except JobHandlerError α)) :
    Quiet workspace (attempt f r) := by
  refine yields_attempt ?_
  cases r with
  | ok a => trivial
  | error e => exact hf e

theorem quiet_failed (r : Except String α) : Quiet workspace (attempt .failed r) :=
  quiet_attempt r fun _ => trivial

theorem quiet_pending (r : Except String α) : Quiet workspace (attempt .pending r) :=
  quiet_attempt r fun _ => trivial

theorem quiet_reconcile (r : Except ReconcileError α) :
    Quiet workspace (attempt reconcileError r) :=
  quiet_attempt r fun e => by cases e <;> trivial

theorem quiet_request (call : ClusterCall) : Quiet workspace (request call) :=
  yields_request trivial fun _ => trivial

theorem quiet_clock : Quiet workspace (unixTimestamp .failed) :=
  yields_unixTimestamp trivial fun r => by cases r <;> trivial

theorem quiet_transact {call : StoreCall} (hcall : ReconcilerCall workspace (.store call)) :
    Quiet workspace (transact jobError call) :=
  yields_transact hcall fun r => by cases r <;> trivial

theorem quiet_pure (a : α) : Quiet workspace (pure a) := yields_pure trivial

theorem quiet_wait (message : String) :
    Quiet workspace (throw (.pending message) : Reconciler α) := yields_throw trivial

theorem quiet_recordObservation (observation : WorkspaceObservation) :
    Quiet workspace (recordObservation workspace observation) :=
  quiet_bind quiet_clock fun _ => quiet_bind (quiet_transact ⟨rfl, rfl⟩) fun _ => quiet_pure ()

theorem quiet_waitForPod (message : String) : Quiet workspace (waitForPod workspace message) :=
  quiet_bind (quiet_request _) fun _ => quiet_bind (quiet_pending _) fun _ => quiet_wait message

theorem quiet_observeStarting : Quiet workspace (observeStarting workspace) := by
  refine quiet_bind (quiet_request _) fun r => quiet_bind (quiet_failed r) fun ready => ?_
  cases ready with
  | true => exact quiet_recordObservation _
  | false => exact quiet_waitForPod _

theorem quiet_observeWorkspace : Quiet workspace (observeWorkspace workspace) := by
  unfold observeWorkspace
  split
  · exact quiet_observeStarting
  · exact quiet_observeStarting
  · exact quiet_observeStarting
  · refine quiet_bind (quiet_request _) fun r => quiet_bind (quiet_pending r) fun ready => ?_
    cases ready with
    | true => exact quiet_pure ()
    | false => exact quiet_bind (quiet_recordObservation _) fun _ => quiet_waitForPod _
  · refine quiet_bind (quiet_request _) fun r => quiet_bind (quiet_failed r) fun gone => ?_
    cases gone with
    | true =>
      refine quiet_bind (quiet_request _) fun r => quiet_bind (quiet_failed r) fun removed => ?_
      cases removed with
      | true => exact quiet_recordObservation _
      | false => exact quiet_wait _
    | false => exact quiet_wait _
  all_goals exact quiet_pure ()

theorem quiet_captureCleanup (operations : List StorageShrinkOperation) :
    Quiet workspace (captureCleanup operations) := by
  induction operations with
  | nil => exact quiet_pure []
  | cons operation operations ih =>
    refine quiet_bind (quiet_request _) fun r => quiet_bind (quiet_failed r) fun volumes => ?_
    refine quiet_bind (quiet_transact trivial) fun _ => ?_
    exact quiet_bind ih fun rest => quiet_pure _

theorem quiet_reconcileDeletion : Quiet workspace (reconcileDeletion workspace) := by
  refine quiet_bind (quiet_transact trivial) fun operations => ?_
  refine quiet_bind (quiet_captureCleanup operations) fun captured => ?_
  refine quiet_bind (quiet_request _) fun r => quiet_bind (quiet_failed r) fun progress => ?_
  cases progress with
  | gone =>
    refine quiet_bind (quiet_request _) fun r => quiet_bind (quiet_failed r) fun removed => ?_
    cases removed with
    | true => exact quiet_recordObservation _
    | false => exact quiet_wait _
  | deletionRequested | terminating => exact quiet_wait _

/-- A routine without a checkpoint, before one that may leave one. -/
theorem checkpoints_bind {P : Call → Prop} {x : Reconciler α} {f : α → Reconciler Unit}
    (hx : Yields P Plain x) (hf : ∀ a, Yields P (Checkpoints job) (f a)) :
    Yields P (Checkpoints job) (x >>= f) := by
  refine yields_bind hx (fun a _ => hf a) fun e he => ?_
  match e, he with
  | .failed _, _ => trivial
  | .pending _, _ => trivial

/-- The observation of a workspace under a checkpoint. -/
theorem checkpoints_observe {f : JobHandlerError → JobHandlerError}
    (hf : ∀ e, Plain (.error e : Except JobHandlerError Unit) →
      Checkpoints job (.error (f e))) :
    Yields (ReconcilerCall workspace) (Checkpoints job)
      (mapError f (observeWorkspace workspace)) := by
  refine yields_mapError (quiet_observeWorkspace.mono fun r hr => ?_)
  cases r with
  | ok _ => trivial
  | error e => exact hf e hr

/-- A waiting job keeps its payload, up to the checkpoint. -/
theorem checkpoints_checkpointError (reconciledAt : Option ℤ) {e : JobHandlerError}
    (he : Plain (.error e : Except JobHandlerError Unit)) :
    Checkpoints job (.error (checkpointError job workspace reconciledAt e)) := by
  match e, he with
  | .failed _, _ => trivial
  | .pending _, _ => exact ⟨_, _, rfl⟩

theorem checkpoints_observeHint :
    Yields (ReconcilerCall workspace) (Checkpoints job) (observeHint workspace job) := by
  unfold observeHint
  split
  · refine checkpoints_bind quiet_clock fun now => checkpoints_observe fun e he => ?_
    refine checkpoints_checkpointError (some now) ?_
    match e, he with
    | .failed _, _ => trivial
    | .pending _, _ => trivial
  · exact yields_pure trivial

theorem checkpoints_applyOrObserve :
    Yields (ReconcilerCall workspace) (Checkpoints job) (applyOrObserve workspace job) := by
  refine checkpoints_bind quiet_clock fun now => ?_
  split
  · exact checkpoints_observe fun e he => checkpoints_checkpointError none he
  · refine checkpoints_bind (quiet_request _) fun r => checkpoints_bind (quiet_failed r) fun _ => ?_
    refine checkpoints_bind (quiet_request _) fun r =>
      checkpoints_bind (quiet_reconcile r) fun _ => ?_
    refine checkpoints_bind (quiet_request _) fun r => checkpoints_bind (quiet_failed r) fun _ => ?_
    exact checkpoints_bind quiet_clock fun at' =>
      checkpoints_observe fun e he => checkpoints_checkpointError (some at') he

/-- **The reconciler records observations only under the generation of the workspace it was given,
and leaves only checkpoints of its job.** -/
theorem reconcileWorkspace_yields (workspace : Workspace) (job : ClaimedJob) :
    Yields (ReconcilerCall workspace) (Checkpoints job) (reconcileWorkspace workspace job) := by
  unfold reconcileWorkspace
  split
  · exact checkpoints_observeHint
  · split
    · exact yields_pure trivial
    · exact quiet_reconcileDeletion.mono fun _ => Plain.checkpoints
    · exact checkpoints_applyOrObserve

theorem quiet_reconcileInjections : Quiet workspace (reconcileInjections workspace) := by
  unfold reconcileInjections
  split
  · exact quiet_pure ()
  · refine quiet_bind (quiet_request _) fun r => quiet_bind (quiet_failed r) fun _ => ?_
    exact quiet_bind (quiet_request _) fun r => quiet_reconcile r

end Yields

end WorkspaceControl
