/-
**The storage side of the Kubernetes coordinator.**

The functions of `src/src/kubernetes/client_storage_shrink.rs` that read claims and helper Pods and
that change an operation while they do.  A function that borrows the operation mutably is a
routine whose local variable is the operation: what it has changed before it fails stays changed.

Main definitions:

* `shrinkOwned`, `shrinkClaim`, `bindingFromClaim` — the checks on a claim;
* `discoverShrinkSources` — the discovery of the two source volumes;
* `createShrinkDestination`, `shrinkVolumeIdentity`, `shrinkPod`, `reclaimShrinkSources` — the
  steps of the later phases.
-/

import WorkspaceControl.Calls

set_option autoImplicit false

namespace WorkspaceControl

open Fallible MachineInt Interaction Routine

/-! ### Claims -/

def workspaceIdLabel : String := "workspace.memeloop.dev/workspace-id"
def ownerInstallationLabel : String := "workspace.memeloop.dev/owner-installation"
def operationLabel : String := "workspace.memeloop.dev/storage-shrink"

/-- A routine on an operation. -/
abbrev OperationRoutine : Type → Type → Type := Routine signature StorageShrinkOperation

/-- An object of this installation and workspace which is not going away. -/
def shrinkOwned (installation : Uuid) (metadata : ObjectMeta) (workspace : Workspace) :
    Except String Unit := do
  let labels ← okOr metadata.labels "storage migration requires ownership labels"
  ensure (metadata.namespace = some workspaceNamespace &&
    labels.lookup workspaceIdLabel = some workspace.id.text &&
    labels.lookup ownerInstallationLabel = some installation.text && metadata.uid.isSome &&
    !metadata.deleting) "storage migration resource ownership/UID validation failed"

/-- The claim is the one of the binding, with the size of the binding. -/
def matchesBinding (binding : WorkspaceHomeVolumeBinding) (bound : Bool) (bytes : ℕ)
    (claim : PersistentVolumeClaim) (spec : ClaimSpec) : Bool :=
  claim.metadata.uid = some binding.claimUid && spec.volumeMode.all (· = "Filesystem") &&
    spec.requested = some bytes &&
    (!bound || (claim.phase = some "Bound" && claim.capacity = some bytes))

def validateClaim (installation : Uuid) (workspace : Workspace)
    (binding : WorkspaceHomeVolumeBinding) (bound : Bool) (claim : PersistentVolumeClaim) :
    Except String Unit := do
  shrinkOwned installation claim.metadata workspace
  let spec ← okOr claim.spec "claim spec is missing"
  let bytes ← okOr (U64.checkedMul binding.capacityGib gib) "claim capacity overflow"
  ensure (matchesBinding binding bound bytes claim spec)
    "claim UID, filesystem mode or capacity changed during migration"

/-- The binding that a claim is recorded as: its size is a whole number of GiB. -/
def bindingFromClaim (claim : PersistentVolumeClaim) :
    Except String WorkspaceHomeVolumeBinding := do
  let bytes ← okOr claim.capacity "source claim capacity is unavailable"
  ensure (bytes ≠ 0 && bytes % gib = 0)
    "source claim capacity must be an exact positive GiB quantity"
  let claimName ← okOr claim.metadata.name "source claim name is unavailable"
  let claimUid ← okOr claim.metadata.uid "source claim UID is unavailable"
  pure { «namespace» := workspaceNamespace, claimName, claimUid, capacityGib := bytes / gib }

section Routines

variable {ω : Type} (installation : Uuid) (workspace : Workspace)

def shrinkClaim (binding : WorkspaceHomeVolumeBinding) (bound : Bool) :
    Routine signature ω String PersistentVolumeClaim := do
  attempt id (ensure (binding.isValid && binding.namespace = workspaceNamespace)
    "invalid storage migration claim namespace or binding")
  let claim ← attempt id (← request (.requireClaim binding.claimName))
  attempt id (validateClaim installation workspace binding bound claim)
  pure claim

def shrinkVolumeIdentity (binding : WorkspaceHomeVolumeBinding) :
    Routine signature ω String StorageVolumeIdentity := do
  let claim ← shrinkClaim installation workspace binding true
  attempt id (← request (.volumeIdentity claim binding))

end Routines

/-! ### Discovery -/

section Discovery

variable (installation : Uuid) (workspace : Workspace)

/-- Write one of the volumes. -/
def StorageShrinkOperation.updateVolume (operation : StorageShrinkOperation) (role : ShrinkRole)
    (f : StorageShrinkVolume → StorageShrinkVolume) : StorageShrinkOperation :=
  operation.setVolume role (f (operation.volume role))

def StorageShrinkOperation.setOriginalGib (operation : StorageShrinkOperation) (role : ShrinkRole)
    (gib : ℕ) : StorageShrinkOperation :=
  match role with
  | .home => { operation with originalHomeGib := gib }
  | .temporary => { operation with originalTemporaryStorageGib := gib }

/-- A claim that was found becomes the source of a volume. -/
def adoptSource (role : ShrinkRole) (claim : PersistentVolumeClaim) :
    OperationRoutine String Unit := do
  attempt id (shrinkOwned installation claim.metadata workspace)
  let binding ← attempt id (bindingFromClaim claim)
  modify fun operation =>
    operation.updateVolume role fun volume => { volume with source := some binding }

/-- The home claim of the StatefulSet, unless the source is known. -/
def discoverHomeSource : Option WorkspaceHomeVolumeBinding →
    OperationRoutine String Unit
  | some _ => pure ()
  | none => do
    let claim ← attempt id (← request (.requireClaim (dataPvcOrdinalZero workspace.shortId)))
    adoptSource installation workspace .home claim

/-- The name of the scratch claim. -/
def scratchClaimName : String :=
  match workspace.scratchVolumeBinding with
  | some binding => binding.claimName
  | none => scratchPvc workspace.shortId

/-- A scratch claim that does not exist is an error only when it is to be shrunk. -/
def adoptScratch (targeted : Bool) : Option PersistentVolumeClaim →
    OperationRoutine String Unit
  | some claim => adoptSource installation workspace .temporary claim
  | none => attempt id (ensure (!targeted)
      "workspace has no scratch claim; start it before requesting a scratch shrink")

/-- `discover_scratch_source`, unless the source is known. -/
def discoverScratchSource : Option WorkspaceHomeVolumeBinding →
    OperationRoutine String Unit
  | some _ => pure ()
  | none => do
    attempt id (← request (.runtimeNames workspace.id))
    let claim ← attempt id (← request (.scratchClaim (scratchClaimName workspace)))
    let operation ← read
    adoptScratch installation workspace operation.temporary.targetGib.isSome claim

/-- The volume behind the source, unless it is known. -/
def recordSourceVolume (role : ShrinkRole) (source : WorkspaceHomeVolumeBinding) :
    Option StorageVolumeIdentity → OperationRoutine String Unit
  | some _ => pure ()
  | none => do
    let identity ← shrinkVolumeIdentity installation workspace source
    modify fun operation =>
      operation.updateVolume role fun volume => { volume with sourceVolume := some identity }

def targetMessage : ShrinkRole → String
  | .home => "Home target is not smaller than actual source capacity"
  | .temporary => "temporary target is not smaller than actual source capacity"

/-- Check a source, and record its size and its volume; the target must be smaller. -/
def recordSource (role : ShrinkRole) (source : WorkspaceHomeVolumeBinding) :
    OperationRoutine String Unit := do
  let _ ← shrinkClaim installation workspace source true
  modify fun operation => operation.setOriginalGib role source.capacityGib
  let operation ← read
  recordSourceVolume installation workspace role source (operation.volume role).sourceVolume
  attempt id (ensure ((operation.volume role).targetGib.all (· < source.capacityGib))
    (targetMessage role))

/-- A workspace need not have a scratch volume. -/
def recordScratch : Option WorkspaceHomeVolumeBinding →
    OperationRoutine String Unit
  | some source => recordSource installation workspace .temporary source
  | none => pure ()

def discoverShrinkSources : OperationRoutine String Unit := do
  attempt id (← request (.runtimeNames workspace.id))
  let operation ← read
  discoverHomeSource installation workspace operation.home.source
  let operation ← read
  let home ← attempt id (okOr operation.home.source "Home source claim was not found")
  recordSource installation workspace .home home
  let operation ← read
  discoverScratchSource installation workspace operation.temporary.source
  let operation ← read
  recordScratch installation workspace operation.temporary.source

end Discovery

/-! ### Later phases -/

section Phases

variable (installation : Uuid) (workspace : Workspace)

/-- The destination claim belongs to the operation alone. -/
def ownedByOperation (operationId : Uuid) (claim : PersistentVolumeClaim) : Bool :=
  (claim.metadata.labels.bind fun labels => labels.lookup operationLabel) =
    some operationId.text && !claim.metadata.hasOwners

/-- The destination claim, made if it does not exist. -/
def obtainDestination (name : String) (operationId : Uuid) (source : PersistentVolumeClaim)
    (targetGib : ℕ) : Option PersistentVolumeClaim →
      OperationRoutine String PersistentVolumeClaim
  | some claim => pure claim
  | none => do attempt id (← request (.createClaim name operationId source targetGib))

def createShrinkDestination (operationId : Uuid) (role : ShrinkRole)
    (source : WorkspaceHomeVolumeBinding) (targetGib : ℕ) :
    OperationRoutine String WorkspaceHomeVolumeBinding := do
  let sourceClaim ← shrinkClaim installation workspace source true
  let name := shrinkClaimName operationId role
  let found ← attempt id (← request (.getClaim name))
  let claim ← obtainDestination name operationId sourceClaim targetGib found
  attempt id (shrinkOwned installation claim.metadata workspace)
  attempt id (ensure (ownedByOperation operationId claim)
    "destination claim is not exclusive to this migration")
  let claimUid ← attempt id (okOr claim.metadata.uid "destination claim has no UID")
  let binding : WorkspaceHomeVolumeBinding :=
    { «namespace» := workspaceNamespace, claimName := name, claimUid, capacityGib := targetGib }
  let _ ← shrinkClaim installation workspace binding false
  pure binding

/-- The destination, once there is one, is checked along with the source. -/
def checkDestination (stage : ShrinkPodStage) (volume : StorageShrinkVolume) (bound : Bool) :
    OperationRoutine String Unit :=
  match stage, volume.destination with
  | .preflight, _ => pure ()
  | _, none => pure ()
  | _, some destination => do
    let _ ← shrinkClaim installation workspace destination bound
    pure ()

/-- The name of a helper Pod. -/
def helperPodName (operationId : Uuid) (role : ShrinkRole) (stage : ShrinkPodStage) : String :=
  shrinkClaimName operationId role ++ "-" ++ stage.name

/-- The UID that is recorded for a helper Pod, and the records after it was looked up: an unknown
Pod is recorded. -/
def recordHelper (name uid : String) (operation : StorageShrinkOperation) :
    StorageShrinkOperation :=
  match operation.helperPodUids.lookup name with
  | some _ => operation
  | none => { operation with helperPodUids := operation.helperPodUids ++ [(name, uid)] }

def helperPodResult (role : ShrinkRole) (stage : ShrinkPodStage) (volume : StorageShrinkVolume)
    (name : String) (pod : HelperPod) :
    OperationRoutine String (Option ShrinkUsage) := do
  let uid ← attempt id (okOr pod.uid "helper Pod UID is missing")
  modify (recordHelper name uid)
  let operation ← read
  attempt id (ensure (operation.helperPodUids.lookup name = some uid)
    "helper Pod UID changed; refusing its verification evidence")
  match pod.phase with
  | some "Succeeded" => do
    let usage ← attempt id pod.evidence
    checkDestination installation workspace stage volume true
    pure (some usage)
  | some "Failed" => throw (role.asStr ++ " " ++ stage.name ++ " helper failed; check approved " ++
      "image tools, source readability and destination capacity")
  | _ => pure none

def shrinkPod (role : ShrinkRole) (stage : ShrinkPodStage) :
    OperationRoutine String (Option ShrinkUsage) := do
  let operation ← read
  let volume := operation.volume role
  let source ← attempt id (okOr volume.source "migration source is missing")
  let _ ← shrinkClaim installation workspace source true
  checkDestination installation workspace stage volume false
  let name := helperPodName operation.id role stage
  let pod ← attempt id (← request (.helperPod name volume stage))
  helperPodResult installation workspace role stage volume name pod

/-- One source is deleted only while the workspace uses the verified destination. -/
def reclaimVolume (volume : StorageShrinkVolume) (current : Option WorkspaceHomeVolumeBinding) :
    OperationRoutine String Bool :=
  if volume.targetGib.isNone then pure true
  else do
    attempt id (ensure (volume.verified && volume.destination.isSome)
      "reclamation requires checksum-verified destination bindings")
    let destination ← attempt id (okOr volume.destination "destination is missing")
    attempt id (ensure (current = some destination)
      "workspace no longer references the verified destination; refusing reclamation")
    let _ ← shrinkClaim installation workspace destination true
    let source ← attempt id (okOr volume.source "source is missing")
    attempt id (ensure (source.claimUid ≠ destination.claimUid)
      "source and destination UID must differ")
    let identity ← attempt id (okOr volume.sourceVolume "source PV/CSI identity was not recorded")
    attempt id (← request (.deleteClaim source identity))

def reclaimShrinkSources : OperationRoutine String Bool := do
  let operation ← read
  let home ← reclaimVolume installation workspace operation.home workspace.homeVolumeBinding
  let temporary ← reclaimVolume installation workspace operation.temporary
    workspace.scratchVolumeBinding
  pure (home && temporary)

end Phases

end WorkspaceControl
