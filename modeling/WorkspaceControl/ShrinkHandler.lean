/-
**The handler of storage operations.**

`src/src/jobs/storage_shrink.rs`: one run of the handler advances an operation by at most one
durable phase.  The operation is a local variable that is changed in memory and then saved; the
error paths of the driver save whatever the variable holds by then.

Main definitions:

* `advanceQueued`, `advanceStopping`, `advanceMeasuring`, `advanceCopyingOrVerifying`,
  `advanceSwitching`, `advanceResuming`, `advanceRollingBack`, `advanceReclaiming` — the phases;
* `finishPreflightFailure`, `settleAdvance` — the error paths;
* `handleStorageShrink`, `storageShrinkTerminalFailure` — the handler of a job, and of its last
  failure.
-/

import WorkspaceControl.Coordinator
import WorkspaceControl.ReconcileHandler

set_option autoImplicit false

namespace WorkspaceControl

open Fallible MachineInt Interaction Routine

/-- A routine of the handler. -/
abbrev ShrinkRoutine : Type → Type := OperationRoutine JobHandlerError

/-! ### Shared steps -/

/-- `save_storage_shrink` of the operation as it is in memory. -/
def saveOperation {ε : Type} (f : StorageError → ε) (update : ShrinkWorkspaceUpdate) :
    OperationRoutine ε Unit :=
  fun operation => transact f (.saveShrink operation update) operation

/-- Change the operation in memory, and save it. -/
def saveAs (change : StorageShrinkOperation → StorageShrinkOperation)
    (update : ShrinkWorkspaceUpdate) : ShrinkRoutine Unit := do
  modify change
  saveOperation jobError update

def StorageShrinkOperation.touch (now : ℤ) (operation : StorageShrinkOperation) :
    StorageShrinkOperation :=
  { operation with updatedAt := now }

def StorageShrinkOperation.enter (phase : StorageShrinkPhase) (now : ℤ)
    (operation : StorageShrinkOperation) : StorageShrinkOperation :=
  { operation with phase, updatedAt := now }

/-- The next phase is saved; the rest is for the next run. -/
def enterPhase (phase : StorageShrinkPhase) (now : ℤ) (update : ShrinkWorkspaceUpdate) :
    ShrinkRoutine Unit := do
  saveAs (StorageShrinkOperation.enter phase now) update
  throw (.pending "storage migration advanced to its next durable phase")

/-- The cluster has done something, or the job waits for it. -/
def awaitCluster (message : String) (answer : Except String Bool) : ShrinkRoutine Unit := do
  if ← attempt .failed answer then pure () else throw (.pending message)

def removeHelpers (message : String) : ShrinkRoutine Unit := do
  let operation ← read
  awaitCluster message (← request (.removeShrinkHelpers operation))

def stopWorkspace (message : String) : ShrinkRoutine Unit := do
  let operation ← read
  awaitCluster message (← request (.stopForStorageShrink operation))

/-- A helper Pod that was met for the first time is saved. -/
def saveHelpers (previous : List (String × String)) (now : ℤ) : ShrinkRoutine Unit := do
  let operation ← read
  if previous ≠ operation.helperPodUids then saveAs (StorageShrinkOperation.touch now) .none
  else pure ()

section Handler

variable (installation : Uuid) (workspace : Workspace) (now : ℤ)

def runShrinkPod (role : ShrinkRole) (stage : ShrinkPodStage) :
    ShrinkRoutine (Option ShrinkUsage) := do
  let previous ← read
  let answer ← result (shrinkPod installation workspace role stage)
  saveHelpers previous.helperPodUids now
  attempt .failed answer

/-- The answer of a helper Pod that has finished. -/
def awaitPod (message : String) : Option ShrinkUsage → ShrinkRoutine ShrinkUsage
  | some usage => pure usage
  | none => throw (.pending message)

/-! ### Phases -/

def advanceQueued : ShrinkRoutine Unit := do
  mapError .failed (discoverShrinkSources installation workspace)
  saveOperation jobError .none
  let usage ← runShrinkPod installation workspace now .home .preflight
  let _ ← awaitPod "checking migration tools before stopping the workspace" usage
  let operation ← read
  awaitCluster
    "waiting for the StatefulSet controller to observe Retain before removing GC owners"
    (← request (.retainShrinkSources operation))
  enterPhase .stopping now .stopping

def advanceStopping : ShrinkRoutine Unit := do
  stopWorkspace "waiting for workspace Pod termination and volume exclusivity"
  enterPhase .measuring now .stopped

/-- What was measured, if the target leaves room for it. -/
def recordUsage (role : ShrinkRole) (usage : ShrinkUsage) : ShrinkRoutine Unit := do
  modify fun operation => operation.updateVolume role fun volume =>
    { volume with usedBytes := some usage.usedBytes, usedInodes := some usage.usedInodes }
  let operation ← read
  attempt .failed (ensure
    (((operation.volume role).targetGib.bind fun target => U64.checkedMul target gib).any
      fun (bytes : ℕ) => usage.usedBytes < bytes)
    (role.asStr ++ " target must be strictly larger than offline used bytes (" ++
      toString usage.usedBytes ++ ")"))
  saveAs (StorageShrinkOperation.touch now) .none

def measureVolume (role : ShrinkRole) : ShrinkRoutine Unit := do
  let operation ← read
  if (operation.volume role).targetGib.isNone || (operation.volume role).usedBytes.isSome then
    pure ()
  else do
    let usage ← runShrinkPod installation workspace now role .measure
    let usage ← awaitPod "measuring offline storage usage" usage
    recordUsage now role usage

/-- The destination of a volume that has a target. -/
def destinationFor (role : ShrinkRole) (operation : StorageShrinkOperation) :
    ShrinkRoutine Unit :=
  match (operation.volume role).targetGib, (operation.volume role).destination with
  | some target, none => do
    let source ← attempt .failed (okOr (operation.volume role).source "source claim is missing")
    let destination ← mapError .failed
      (createShrinkDestination installation workspace operation.id role source target)
    modify fun operation => operation.updateVolume role fun volume =>
      { volume with destination := some destination }
  | _, _ => pure ()

def advanceMeasuring : ShrinkRoutine Unit := do
  measureVolume installation workspace now .home
  measureVolume installation workspace now .temporary
  let operation ← read
  destinationFor installation workspace .home operation
  let operation ← read
  destinationFor installation workspace .temporary operation
  enterPhase .copying now .none

/-- A verified destination is recorded with its volume. -/
def recordVerified (role : ShrinkRole) : ShrinkRoutine Unit := do
  let operation ← read
  let destination ← attempt .failed
    (okOr (operation.volume role).destination "destination binding is missing")
  let identity ← mapError .failed (shrinkVolumeIdentity installation workspace destination)
  modify fun operation => operation.updateVolume role fun volume =>
    { volume with destinationVolume := some identity, verified := true }

/-- The usage is what was measured. -/
def checkCopied (role : ShrinkRole) (usage : ShrinkUsage) : ShrinkRoutine Unit := do
  let operation ← read
  attempt .failed (ensure ((operation.volume role).usedBytes = some usage.usedBytes &&
    (operation.volume role).usedInodes = some usage.usedInodes)
    "source usage changed while the workspace was offline")
  if operation.phase = .verifying then recordVerified installation workspace role else pure ()

def copyVolume (stage : ShrinkPodStage) (role : ShrinkRole) : ShrinkRoutine Unit := do
  let operation ← read
  if (operation.volume role).targetGib.isNone then pure ()
  else do
    let usage ← runShrinkPod installation workspace now role stage
    let usage ← awaitPod "offline copy/checksum verification is running" usage
    checkCopied installation workspace role usage

def advanceCopyingOrVerifying : ShrinkRoutine Unit := do
  let operation ← read
  let stage := if operation.phase = .copying then ShrinkPodStage.copy else .verify
  copyVolume installation workspace now stage .home
  copyVolume installation workspace now stage .temporary
  enterPhase (if operation.phase = .copying then .verifying else .switching) now .none

def StorageShrinkOperation.switch (now : ℤ) (operation : StorageShrinkOperation) :
    StorageShrinkOperation :=
  { operation with switched := true, phase := .resuming, updatedAt := now }

def advanceSwitching : ShrinkRoutine Unit := do
  removeHelpers "unmounting copy/verification Pods before the atomic binding exchange"
  stopWorkspace "waiting for exclusive offline claims before switching"
  saveAs (StorageShrinkOperation.switch now) .switch
  throw (.pending "storage migration advanced to its next durable phase")

/-- The sources may be reclaimed from now on; with the consent of the request they are. -/
def StorageShrinkOperation.complete (now : ℤ) (operation : StorageShrinkOperation) :
    StorageShrinkOperation :=
  { operation with
    phase := if operation.request.reclaimSource then .reclaiming else .completed
    reclaimable := true
    updatedAt := now }

def completeOperation : ShrinkRoutine Unit := do
  saveAs (StorageShrinkOperation.complete now) .none
  let operation ← read
  if operation.phase = .reclaiming then
    throw (.pending
      "recovered workspace is ready; reclaiming sources under the original explicit consent")
  else pure ()

/-- The workspace is started on the new volumes, if it ran before. -/
def resumeWorkspace (job : ClaimedJob) : ShrinkRoutine Unit :=
  match workspace.state with
  | .stopped => do
    saveAs (StorageShrinkOperation.touch now) .resume
    throw (.pending "starting workspace with verified replacement volumes")
  | .ready => completeOperation now
  | _ => do
    scope () (reconcileWorkspace workspace job)
    throw (.pending "waiting for workspace recovery readiness")

def advanceResuming (job : ClaimedJob) : ShrinkRoutine Unit := do
  let operation ← read
  if operation.resume then resumeWorkspace workspace now job
  else do
    scope () (reconcileWorkspace workspace job)
    completeOperation now

def advanceRollingBack : ShrinkRoutine Unit := do
  removeHelpers "removing migration Pods before recovery"
  stopWorkspace "waiting for offline recovery; source and destination claims are retained"
  let operation ← read
  saveAs (StorageShrinkOperation.enter .failed now)
    (if operation.switched then .stopped else .rollback)

def StorageShrinkOperation.reclaimed (now : ℤ) (operation : StorageShrinkOperation) :
    StorageShrinkOperation :=
  { operation with
    phase := .reclaimed
    sourcesRetained := false
    reclaimable := false
    updatedAt := now }

def advanceReclaiming : ShrinkRoutine Unit := do
  let operation ← read
  attempt .failed (ensure (!(operation.resume && workspace.state ≠ .ready))
    "workspace must be Ready before confirmed source reclamation")
  let reclaimed ← mapError .failed (reclaimShrinkSources installation workspace)
  awaitCluster "waiting for UID-verified source PVC reclamation" (.ok reclaimed)
  saveAs (StorageShrinkOperation.reclaimed now) .none

def finishPreflightFailure : ShrinkRoutine Unit := do
  removeHelpers "cleaning preflight helpers; the workspace remains in its original state"
  saveAs (StorageShrinkOperation.enter .failed now) .none

/-! ### The driver -/

def advanceStorageShrink (job : ClaimedJob) : ShrinkRoutine Unit := do
  let operation ← read
  match operation.phase with
  | .queued => advanceQueued installation workspace now
  | .stopping => advanceStopping now
  | .measuring => advanceMeasuring installation workspace now
  | .copying | .verifying => advanceCopyingOrVerifying installation workspace now
  | .switching => advanceSwitching now
  | .resuming => advanceResuming workspace now job
  | .rollingBack => advanceRollingBack now
  | .reclaiming => advanceReclaiming installation workspace now
  | .completed | .failed | .reclaimed => pure ()

/-- A phase has a day, except the recovery. -/
def advanceWithDeadline (job : ClaimedJob) : ShrinkRoutine Unit := do
  let operation ← read
  if 86400 < I64.saturatingSub now operation.updatedAt ∧ operation.phase ≠ .rollingBack then
    throw (.failed "storage migration phase exceeded its 24-hour deadline")
  else advanceStorageShrink installation workspace now job

/-- The operation of a failure, and the phase it goes to. -/
def StorageShrinkOperation.failInto (phase : StorageShrinkPhase) (text : String) (now : ℤ)
    (operation : StorageShrinkOperation) : StorageShrinkOperation :=
  { operation with error := some text, phase, updatedAt := now }

/-- The driver looks at the phase that is in memory when the failure arrives. -/
def failInPhase (text : String) (operation : StorageShrinkOperation) : ShrinkRoutine Unit :=
  match operation.phase with
  | .reclaiming => saveAs (StorageShrinkOperation.failInto .completed text now) .none
  | .rollingBack => throw (.failed text)
  | .queued => do
    saveAs (StorageShrinkOperation.failInto .queued text now) .none
    finishPreflightFailure now
  | _ => do
    saveAs (StorageShrinkOperation.failInto .rollingBack text now) .stopping
    throw (.pending "migration failed; stopping and preserving recovery volumes")

def settleAdvance : Except JobHandlerError Unit → ShrinkRoutine Unit
  | .error (.failed text) => do
    let operation ← read
    failInPhase now text operation
  | .error e => throw e
  | .ok () => pure ()

/-- An operation whose preflight has failed is only cleaned up. -/
def driveOperation (job : ClaimedJob) : ShrinkRoutine Unit := do
  let operation ← read
  if operation.phase = .queued ∧ operation.error.isSome then finishPreflightFailure now
  else do
    let outcome ← result (advanceWithDeadline installation workspace now job)
    settleAdvance now outcome

end Handler

/-- A job is about the latest operation of its workspace if it names it. -/
def ClaimedJob.concerns (job : ClaimedJob) (operation : StorageShrinkOperation) : Bool :=
  operation.phase.active && job.payload.namesOperation operation.id

/-- An operation that is not active, or that the job does not name, is left alone. -/
def driveLatest (installation workspaceId : Uuid) (job : ClaimedJob) :
    Option StorageShrinkOperation → Reconciler Unit
  | none => pure ()
  | some operation =>
    if job.concerns operation then do
      let workspace ← transact jobError (.getWorkspace workspaceId)
      let now ← unixTimestamp .failed
      scope operation (driveOperation installation workspace now job)
    else pure ()

def handleStorageShrink (installation : Uuid) (job : ClaimedJob) : Reconciler Unit := do
  let workspaceId ← attempt .failed (okOr job.workspaceId "storage shrink job has no workspace")
  let latest ← transact jobError (.latestShrink workspaceId)
  driveLatest installation workspaceId job latest

/-! ### The last failure of a job -/

/-- An operation whose job has failed too often. -/
def StorageShrinkOperation.exhaust (now : ℤ) (operation : StorageShrinkOperation) :
    StorageShrinkOperation :=
  { operation with
    error := some (operation.error.getD
      "background migration exhausted retries; recovery is preserving all volumes")
    updatedAt := now }

/-- Routines of the terminal failure report errors of the database. -/
abbrev TerminalRoutine : Type := OperationRoutine StorageError Unit

/-- A new job for the operation, due in a minute. -/
def enqueueSuccessor (workspaceId : Uuid) (now : ℤ) : TerminalRoutine := do
  let operation ← read
  let jobId ← newId
  transact id (.job (.enqueue jobId
    (shrinkJob workspaceId operation.id (I64.saturatingAdd now 60)) now))

def exhaustInPhase (workspaceId : Uuid) (now : ℤ) (operation : StorageShrinkOperation) :
    TerminalRoutine :=
  match operation.phase with
  | .queued => do
    saveOperation id .none
    enqueueSuccessor workspaceId now
  | .reclaiming => do
    modify fun operation => { operation with phase := .completed }
    saveOperation id .none
  | _ => do
    modify fun operation => { operation with phase := .rollingBack }
    saveOperation id .stopping
    enqueueSuccessor workspaceId now

def exhaustOperation (workspaceId : Uuid) (now : ℤ) : TerminalRoutine := do
  modify (StorageShrinkOperation.exhaust now)
  let operation ← read
  exhaustInPhase workspaceId now operation

def exhaustLatest (workspaceId : Uuid) (job : ClaimedJob) (now : ℤ) :
    Option StorageShrinkOperation → Routine signature Unit StorageError Unit
  | none => pure ()
  | some operation =>
    if job.concerns operation then scope operation (exhaustOperation workspaceId now)
    else pure ()

def storageShrinkTerminalFailure (job : ClaimedJob) (now : ℤ) :
    Routine signature Unit StorageError Unit :=
  match job.workspaceId with
  | none => pure ()
  | some workspaceId => do
    let latest ← transact id (.latestShrink workspaceId)
    exhaustLatest workspaceId job now latest

end WorkspaceControl
