/-
**The workers.**

`src/src/jobs.rs` and the handler of `src/src/jobs/webhook.rs`: a worker claims a job, takes the
lease of its workspace, runs the handler of the job and records the outcome.

The heartbeat of a run, which renews both leases while the handler is at work, is left to the
surroundings: there any lease may be renewed at any time, and a run whose heartbeat fails is one
that stops.  What a run reads off the monotonic clock is a parameter of the run.

Main definitions:

* `Worker`, `Worker.handle`, `Worker.onTerminalFailure` — the handler of all kinds of jobs;
* `Worker.persistJobResult`, `Worker.runOnce` — the outcome of a job, and one run of a worker;
* `Attendance` — the transactions of a run that are not about the job it has claimed.

Main results:

* `Worker.handle_attends`, `Worker.onTerminalFailure_attends` — **a handler decides nothing about
  the job it was given**: it claims none, and ends none.
-/

import WorkspaceControl.ShrinkProgress

set_option autoImplicit false

namespace WorkspaceControl

open Fallible MachineInt Interaction Routine

def maxJobAttempts : ℤ := 10
def pendingJobDelaySeconds : ℤ := 5
def checkpointRepairSeconds : ℤ := 60
def jobLeaseSeconds : ℕ := 60
def workspaceLeaseSeconds : ℕ := 60

/-- A worker: the name under which it holds leases, its installation, and whether it coordinates
workspaces in Kubernetes. -/
structure Worker where
  leaseOwner : String
  installation : Uuid
  kubernetes : Bool

namespace Worker

/-! ### Handlers -/

/-- `ControlPlaneJobHandler::handle`. -/
def handle (worker : Worker) (job : ClaimedJob) : Reconciler Unit :=
  match job.kind with
  | .reconcileWorkspace =>
    if worker.kubernetes then handleReconcile job
    else throw (.failed "Kubernetes coordination is disabled")
  | .workspaceStorageShrink =>
    if worker.kubernetes then handleStorageShrink worker.installation job
    else throw (.failed "Kubernetes coordination is disabled")
  | .deliverWebhook => do attempt .failed (← request (.deliverWebhook job.payload))
  | .other name => throw (.failed ("unsupported background job kind " ++ name))

/-- `ControlPlaneJobHandler::on_terminal_failure`. -/
def onTerminalFailure (worker : Worker) (job : ClaimedJob) (now : ℤ) :
    Routine signature Unit StorageError Unit :=
  match job.kind with
  | .reconcileWorkspace =>
    if worker.kubernetes then reconcileTerminalFailure job now else pure ()
  | .workspaceStorageShrink =>
    if worker.kubernetes then storageShrinkTerminalFailure job now else pure ()
  | _ => pure ()

/-! ### Outcomes -/

/-- `execution_finished_at`: the clock of the caller, moved on by the time that has passed. -/
def executionFinishedAt (startedAt : ℤ) (elapsed : ℕ) : ℤ :=
  I64.saturatingAdd startedAt ((U64.toI64 elapsed).getD I64.max)

def retryDelay (attempts : ℤ) : ℤ := min (2 ^ (max 0 (min attempts 8)).toNat) 300

/-- Routines that record an outcome report errors of the database. -/
abbrev OutcomeRoutine : Type := Routine signature Unit StorageError Unit

/-- The checks of a readiness share the deadline of the apply. -/
def parkWorkspaceForReadiness (worker : Worker) (job : ClaimedJob) (payload : Payload) (now : ℤ) :
    OutcomeRoutine := do
  let repairAt := I64.saturatingAdd
    (((payload.get "reconciled_at").bind JsonValue.asI64).getD now) checkpointRepairSeconds
  let nonce ← newId
  let _ ← transact id (.job (.park job.id worker.leaseOwner payload repairAt now nonce))
  pure ()

def persistFailedJob (worker : Worker) (job : ClaimedJob) (now : ℤ) : OutcomeRoutine :=
  if maxJobAttempts ≤ job.attempts then do
    worker.onTerminalFailure job now
    transact id (.job (.fail job.id worker.leaseOwner now))
  else
    transact id (.job (.defer job.id worker.leaseOwner
      (I64.saturatingAdd now (retryDelay job.attempts)) now))

def persistJobResult (worker : Worker) (job : ClaimedJob) (now : ℤ) :
    Except JobHandlerError Unit → OutcomeRoutine
  | .ok () => transact id (.job (.complete job.id worker.leaseOwner now))
  | .error (.pendingWithCheckpoint _ payload) =>
    worker.parkWorkspaceForReadiness job payload now
  | .error (.pending _) =>
    transact id (.job (.deferWithoutAttempt job.id worker.leaseOwner
      (I64.saturatingAdd now pendingJobDelaySeconds) now))
  | .error (.failed _) => worker.persistFailedJob job now

/-! ### Runs -/

/-- A job without a workspace needs no lease of one. -/
def acquireLease (worker : Worker) (job : ClaimedJob) (now : ℤ) :
    Routine signature Unit StorageError Bool :=
  match job.workspaceId with
  | none => pure true
  | some workspaceId =>
    transact id (.acquireLease workspaceId worker.leaseOwner now workspaceLeaseSeconds)

def releaseLease (worker : Worker) (job : ClaimedJob) : OutcomeRoutine :=
  match job.workspaceId with
  | none => pure ()
  | some workspaceId => transact id (.releaseLease workspaceId worker.leaseOwner)

/-- A job that was claimed, with the lease of its workspace; the lease is given back even if the
outcome could not be recorded. -/
def runClaimed (worker : Worker) (job : ClaimedJob) (finishedAt : ℤ) : OutcomeRoutine := do
  let outcome ← result (worker.handle job)
  let persisted ← result (worker.persistJobResult job finishedAt outcome)
  worker.releaseLease job
  attempt id persisted

/-- A job whose workspace somebody else is at work on is given back. -/
def runJob (worker : Worker) (now : ℤ) (elapsed : ℕ) (job : ClaimedJob) : OutcomeRoutine := do
  if ← worker.acquireLease job now then
    worker.runClaimed job (executionFinishedAt now elapsed)
  else
    transact id (.job (.deferWithoutAttempt job.id worker.leaseOwner
      (I64.saturatingAdd (executionFinishedAt now elapsed) pendingJobDelaySeconds)
      (executionFinishedAt now elapsed)))

/-- `run_once`: whether there was a job. -/
def runOnce (worker : Worker) (now : ℤ) (elapsed : ℕ) : Routine signature Unit StorageError Bool := do
  match ← transact id (.job (.claim worker.leaseOwner now jobLeaseSeconds)) with
  | none => pure false
  | some job => do
    worker.runJob now elapsed job
    pure true

end Worker

/-! ### What a handler may do -/

/-- The transactions on a job that only the worker which has claimed it makes. -/
def JobCall.Decides : JobCall → Prop
  | claim .. => True
  | complete .. => True
  | fail .. => True
  | defer .. => True
  | deferWithoutAttempt .. => True
  | park .. => True
  | _ => False

/-- Everything but those. -/
def StoreCall.Attendance : StoreCall → Prop
  | job call => ¬ call.Decides
  | _ => True

def Attendance : Call → Prop
  | .store call => call.Attendance
  | _ => True

/-- The calls of the handler of a reconciliation: it reads the workspace and whether an operation
is active, and makes the calls of the reconciler. -/
def ReconcileJobCall : Call → Prop
  | .store (.getWorkspace _) => True
  | .store (.shrinkActive _) => True
  | .store (.observe ..) => True
  | .store (.listShrinks _) => True
  | .store (.saveShrinkCleanup _) => True
  | .store _ => False
  | _ => True

theorem ReconcilerCall.reconcileJobCall {workspace : Workspace} {c : Call}
    (h : ReconcilerCall workspace c) : ReconcileJobCall c := by
  cases c with
  | store call =>
    cases call with
    | observe | listShrinks | saveShrinkCleanup => trivial
    | _ => exact h.elim
  | _ => trivial

theorem ReconcileJobCall.attendance {c : Call} (h : ReconcileJobCall c) : Attendance c := by
  cases c with
  | store call =>
    cases call with
    | job call => exact h.elim
    | _ => trivial
  | _ => trivial

theorem Proper.attendance {S g g' c r} (h : Proper S g c r g') : Attendance c := by
  cases c with
  | store call =>
    cases call with
    | job call =>
      cases call with
      | enqueue => exact id
      | _ => exact h.elim
    | _ => trivial
  | _ => trivial

section Attends

variable {σ : Type} {sem : Semantics signature σ} {rely : σ → σ → Prop} {s : σ}

/-- The calls of a routine are not about the job of the run. -/
def Attends {ε α : Type} (sem : Semantics signature σ) (rely : σ → σ → Prop)
    (x : Routine signature Unit ε α) : Prop :=
  ∀ s, x.Holds sem rely (fun _ c _ _ => Attendance c) (fun _ _ _ => True) () s

/-- A routine that keeps a ledger, over a store that answers like the database. -/
theorem attends_of_proper {ε α : Type} {x : Routine signature Unit ε α}
    {post : Except ε α → Unit → Ledger → Prop}
    (h : x.Holds (Ledger.semantics .any) Eq (Proper .any) post () .blank)
    (hsem : ∀ s c r s', sem s c r s' → ∃ db db', Performs db c r db') : Attends sem rely x := by
  intro s
  refine Program.Meets.of_link (L := fun (_ : σ) (g : Ledger) => g.spoiled = false)
    (Ledger.after .any) h rfl
    (fun _ _ _ h _ => h) ?_ fun _ _ _ _ _ => trivial
  intro s c r s' g hspoiled hcall
  obtain ⟨db, db', hperforms⟩ := hsem s c r s' hcall
  obtain ⟨hadmits, hspoiled'⟩ := hperforms.admits hspoiled
  exact ⟨⟨hadmits, rfl⟩, fun hproper => ⟨hproper.attendance, hspoiled'⟩⟩

end Attends

section Handlers

variable {job : ClaimedJob}

theorem reconcileUnlessShrinking_yields (workspace : Workspace) :
    Yields ReconcileJobCall (Checkpoints job) (reconcileUnlessShrinking workspace job) := by
  refine checkpoints_bind (yields_transact trivial fun r => by cases r <;> trivial) fun active => ?_
  split
  · exact yields_pure trivial
  · split
    · exact (quiet_reconcileInjections.mono fun _ => Plain.checkpoints).mono_calls fun _ =>
        ReconcilerCall.reconcileJobCall
    · exact (reconcileWorkspace_yields workspace job).mono_calls fun _ =>
        ReconcilerCall.reconcileJobCall

/-- The handler of a reconciliation keeps to its calls, and to the payload of its job. -/
theorem handleReconcile_yields (job : ClaimedJob) :
    Yields ReconcileJobCall (Checkpoints job) (handleReconcile job) := by
  refine checkpoints_bind (yields_attempt ?_) fun workspaceId => ?_
  · cases job.workspaceId <;> trivial
  refine checkpoints_bind (yields_result (yields_transact trivial fun _ => trivial)) fun read => ?_
  unfold reconcileRead
  split
  · exact reconcileUnlessShrinking_yields _
  · exact yields_pure trivial
  · exact yields_throw trivial

variable {σ : Type} {sem guar : Semantics signature σ} {rely : σ → σ → Prop}

/-- **The rule of a handler**: what its calls do, and what storage operations do, it does. -/
theorem Worker.handle_always (worker : Worker) (job : ClaimedJob)
    (hcalls : ∀ s c r s', ReconcileJobCall c → sem s c r s' → guar s c r s')
    (hshrink : Always sem rely guar (handleStorageShrink worker.installation job)) :
    Always sem rely guar (worker.handle job) := by
  unfold Worker.handle
  split
  · split
    · exact (handleReconcile_yields job).always hcalls
    · exact always_throw _
  · split
    · exact hshrink
    · exact always_throw _
  · refine Yields.always (P := ReconcileJobCall) (Q := fun _ => True) ?_ hcalls
    exact yields_bind (Q := fun _ => True) (yields_request trivial fun _ => trivial)
      (fun _ _ => yields_attempt trivial) fun _ _ => trivial
  · exact always_throw _

theorem Worker.onTerminalFailure_always (worker : Worker) (job : ClaimedJob) (now : ℤ)
    {P : Call → Prop} (hmark : ∀ id generation, P (.store (.markFailed id generation now)))
    (hcalls : ∀ s c r s', P c → sem s c r s' → guar s c r s')
    (hshrink : Always sem rely guar (storageShrinkTerminalFailure job now)) :
    Always sem rely guar (worker.onTerminalFailure job now) := by
  unfold Worker.onTerminalFailure
  split
  · split
    · exact (reconcileTerminalFailure_yields fun id generation _ _ =>
        hmark id generation).always hcalls
    · exact always_pure ()
  · split
    · exact hshrink
    · exact always_pure ()
  · exact always_pure ()

/-- **A handler decides nothing about the job it was given.** -/
theorem Worker.handle_attends (worker : Worker) (job : ClaimedJob)
    (hsem : ∀ s c r s', sem s c r s' → ∃ db db', Performs db c r db') :
    Attends sem rely (worker.handle job) := by
  refine worker.handle_always job (fun _ _ _ _ hc _ => hc.attendance) ?_ ()
  exact fun _ => attends_of_proper (handleStorageShrink_proper .any worker.installation job) hsem

theorem Worker.onTerminalFailure_attends (worker : Worker) (job : ClaimedJob) (now : ℤ)
    (hsem : ∀ s c r s', sem s c r s' → ∃ db db', Performs db c r db') :
    Attends sem rely (worker.onTerminalFailure job now) := by
  refine worker.onTerminalFailure_always job now (P := Attendance) (fun _ _ => trivial)
    (fun _ _ _ _ hc _ => hc) ?_ ()
  exact fun _ => attends_of_proper (storageShrinkTerminalFailure_proper .any job now) hsem

end Handlers

end WorkspaceControl
