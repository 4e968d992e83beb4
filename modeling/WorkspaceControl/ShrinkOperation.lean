/-
**Storage-shrink operations.**

The data of `src/src/storage/workspace_storage_shrink.rs` and the checks that are made on it: the
request, the phases, what is known of the two volumes, and what each kind of update does to a
workspace.

Main definitions:

* `StorageShrinkRequest.validate` — the request that is accepted for a workspace;
* `StorageShrinkPhase`, `StorageShrinkOperation` — an operation and its phases;
* `validateVerifiedDestination` — what a switch requires of a volume that has a target;
* `applyShrinkWorkspaceUpdate` — the update of the workspace and of its snapshot.

Main results:

* `validateVerifiedDestination_eq_ok` — a verified volume with a target has a valid source and a
  valid destination of the size asked for;
* `applyShrinkWorkspaceUpdate_eq_ok` — what an update writes.
-/

import WorkspaceControl.Payload
import WorkspaceControl.Row

set_option autoImplicit false

namespace WorkspaceControl

open Fallible MachineInt

/-! ### Requests -/

structure StorageShrinkRequest where
  homeGib : Option ℕ
  temporaryStorageGib : Option ℕ
  expectedGeneration : ℕ
  reclaimSource : Bool
deriving DecidableEq

/-- The size the home volume has now. -/
def Workspace.homeGib (workspace : Workspace) : ℕ :=
  match workspace.homeVolumeBinding with
  | some binding => binding.capacityGib
  | none => workspace.template.resources.diskGib

/-- Some target is given; each is positive and below the present size; both fit their columns. -/
def StorageShrinkRequest.validTargets (request : StorageShrinkRequest) (home temporary : ℕ) :
    Bool :=
  (request.homeGib.isSome || request.temporaryStorageGib.isSome) &&
    request.homeGib.all (fun target => target ≠ 0 && target < home) &&
    request.temporaryStorageGib.all (fun target =>
      target ≠ 0 && target < temporary && target ≤ 2048) &&
    request.homeGib.all fun target =>
      (U64.checkedMul target gib).any fun (bytes : ℕ) => (bytes : ℤ) ≤ I64.max

def StorageShrinkRequest.validate (request : StorageShrinkRequest) (workspace : Workspace) :
    Except StorageError Unit := do
  ensure (request.validTargets workspace.homeGib
    workspace.template.storagePolicy.temporaryStorageGib) .invalidWorkspaceStorageShrink
  ensure (workspace.generation = request.expectedGeneration &&
    (workspace.state = .ready || workspace.state = .stopped)) .workspaceStorageShrinkConflict

variable {target : ℕ} {u : Unit}

theorem StorageShrinkRequest.validate_eq_ok {request : StorageShrinkRequest}
    {workspace : Workspace} : request.validate workspace = .ok u ↔
      request.validTargets workspace.homeGib
          workspace.template.storagePolicy.temporaryStorageGib = true ∧
        workspace.generation = request.expectedGeneration ∧
        (workspace.state = .ready ∨ workspace.state = .stopped) := by
  simp [validate, ensure_bind_eq_ok]

/-! ### Operations -/

inductive StorageShrinkPhase
  | queued
  | stopping
  | measuring
  | copying
  | verifying
  | switching
  | resuming
  | rollingBack
  | completed
  | failed
  | reclaiming
  | reclaimed
deriving DecidableEq

/-- All phases but the three in which an operation rests. -/
def StorageShrinkPhase.active : StorageShrinkPhase → Bool
  | completed | failed | reclaimed => false
  | _ => true

/-- What Kubernetes says of the volume behind a claim. -/
structure StorageVolumeIdentity where
  pvName : String
  pvUid : String
  csiDriver : String
  csiVolumeHandle : String
  storageClassName : String
  longhornNamespace : Option String
  longhornVolumeUid : Option String
deriving DecidableEq

structure StorageShrinkVolume where
  targetGib : Option ℕ
  source : Option WorkspaceHomeVolumeBinding
  destination : Option WorkspaceHomeVolumeBinding
  usedBytes : Option ℕ
  usedInodes : Option ℕ
  verified : Bool
  sourceVolume : Option StorageVolumeIdentity
  destinationVolume : Option StorageVolumeIdentity
deriving DecidableEq

structure StorageShrinkOperation where
  id : Uuid
  workspaceId : Uuid
  phase : StorageShrinkPhase
  error : Option String
  home : StorageShrinkVolume
  temporary : StorageShrinkVolume
  resume : Bool
  createdAt : ℤ
  updatedAt : ℤ
  actorUserId : Uuid
  request : StorageShrinkRequest
  originalHomeGib : ℕ
  originalTemporaryStorageGib : ℕ
  switched : Bool
  sourcesRetained : Bool
  reclaimable : Bool
  helperPodUids : List (String × String)
deriving DecidableEq

/-- A volume of which only the target is known. -/
def StorageShrinkVolume.new (targetGib : Option ℕ) : StorageShrinkVolume where
  targetGib := targetGib
  source := none
  destination := none
  usedBytes := none
  usedInodes := none
  verified := false
  sourceVolume := none
  destinationVolume := none

/-- The identifier is drawn by the caller. -/
def StorageShrinkOperation.new (id workspaceId : Uuid) (request : StorageShrinkRequest)
    (actorUserId : Uuid) (now : ℤ) : StorageShrinkOperation where
  id := id
  workspaceId := workspaceId
  phase := .queued
  error := none
  home := .new request.homeGib
  temporary := .new request.temporaryStorageGib
  resume := false
  createdAt := now
  updatedAt := now
  actorUserId := actorUserId
  request := request
  originalHomeGib := 0
  originalTemporaryStorageGib := 0
  switched := false
  sourcesRetained := true
  reclaimable := false
  helperPodUids := []

/-- The two volumes of a workspace. -/
inductive ShrinkRole
  | home
  | temporary
deriving DecidableEq

def ShrinkRole.asStr : ShrinkRole → String
  | home => "home"
  | temporary => "temporary"

namespace StorageShrinkOperation

def volume (operation : StorageShrinkOperation) : ShrinkRole → StorageShrinkVolume
  | .home => operation.home
  | .temporary => operation.temporary

def setVolume (operation : StorageShrinkOperation) (role : ShrinkRole)
    (volume : StorageShrinkVolume) : StorageShrinkOperation :=
  match role with
  | .home => { operation with home := volume }
  | .temporary => { operation with temporary := volume }

/-- The job payload that names an operation. -/
def payload (operationId : Uuid) : Payload :=
  .object [("operation_id", .scalar (.str operationId.text))]

end StorageShrinkOperation

/-- A payload names an operation. -/
def Payload.namesOperation (payload : Payload) (operationId : Uuid) : Bool :=
  (payload.get "operation_id").bind JsonValue.asStr = some operationId.text

theorem namesOperation_payload (id operationId : Uuid) :
    (StorageShrinkOperation.payload id).namesOperation operationId = true ↔ id = operationId := by
  simp only [Payload.namesOperation, StorageShrinkOperation.payload, Payload.get,
    List.lookup_cons, beq_self_eq_true, Option.bind_some, JsonValue.asStr, JsonValue.toScalar,
    JsonScalar.asStr, Option.some_inj, decide_eq_true_eq]
  exact ⟨fun h => Uuid.text_injective h, fun h => h ▸ rfl⟩

/-! ### Verified volumes -/

/-- The source and the destination are different volumes of the same kind. -/
def StorageVolumeIdentity.separate (source destination : StorageVolumeIdentity) : Bool :=
  source.pvUid ≠ destination.pvUid && source.csiDriver = destination.csiDriver &&
    source.storageClassName = destination.storageClassName &&
    source.csiVolumeHandle ≠ destination.csiVolumeHandle

/-- A volume that was copied to a verified, smaller destination with room for what is used. -/
def StorageShrinkVolume.verifiedDestination (volume : StorageShrinkVolume) (target : ℕ) : Bool :=
  volume.verified &&
    volume.source.any (fun source => source.isValid && target < source.capacityGib) &&
    volume.destination.any (fun destination =>
      destination.isValid && destination.capacityGib = target &&
        volume.source.any fun source => source.claimUid ≠ destination.claimUid) &&
    (U64.checkedMul target gib).any (fun (bytes : ℕ) => volume.usedBytes.any (· < bytes)) &&
    volume.usedInodes.isSome &&
    volume.destinationVolume.any fun destination =>
      volume.sourceVolume.any fun source => source.separate destination

def validateVerifiedDestination (volume : StorageShrinkVolume) : Except StorageError Unit :=
  match volume.targetGib with
  | none => pure ()
  | some target => ensure (volume.verifiedDestination target) .invalidWorkspaceStorageShrink

/-- What a verified destination says of the two claims. -/
theorem claims_of_verifiedDestination {volume : StorageShrinkVolume}
    (h : volume.verifiedDestination target = true) :
    ∃ source destination, volume.source = some source ∧ volume.destination = some destination ∧
      source.isValid = true ∧ target < source.capacityGib ∧ destination.isValid = true ∧
      destination.capacityGib = target := by
  simp only [StorageShrinkVolume.verifiedDestination, Bool.and_eq_true, Option.any_eq_true,
    decide_eq_true_eq] at h
  obtain ⟨⟨⟨⟨⟨-, source, hsource, hvalid, hlt⟩, destination, hdestination, ⟨hvalid', hsize⟩, -⟩,
    -⟩, -⟩, -⟩ := h
  exact ⟨source, destination, hsource, hdestination, hvalid, hlt, hvalid', hsize⟩

/-- What a verified destination says of the two volumes. -/
theorem volumes_of_verifiedDestination {volume : StorageShrinkVolume}
    (h : volume.verifiedDestination target = true) :
    ∃ source destination, volume.sourceVolume = some source ∧
      volume.destinationVolume = some destination ∧ source.separate destination = true := by
  simp only [StorageShrinkVolume.verifiedDestination, Bool.and_eq_true, Option.any_eq_true] at h
  obtain ⟨-, destination, hdestination, source, hsource, hseparate⟩ := h
  exact ⟨source, destination, hsource, hdestination, hseparate⟩

theorem validateVerifiedDestination_eq_ok {volume : StorageShrinkVolume} :
    validateVerifiedDestination volume = .ok u ↔
      ∀ target ∈ volume.targetGib, volume.verifiedDestination target = true := by
  unfold validateVerifiedDestination
  cases volume.targetGib with
  | none | some => simp

/-! ### Updates of the workspace -/

inductive ShrinkWorkspaceUpdate
  | none
  | stopping
  | stopped
  | switch
  | resume
  | rollback
deriving DecidableEq

/-- The bindings and the sizes that a switch, or a rollback, leaves. -/
def replaceVolumes (workspace : Workspace) (document : WorkspaceTemplateDocument)
    (home scratch : Option WorkspaceHomeVolumeBinding) (diskGib temporaryStorageGib : ℕ) :
    Workspace × WorkspaceTemplateDocument :=
  ({ workspace with
      homeVolumeBinding := home
      scratchVolumeBinding := scratch
      state := .stopped },
    document.withSizes diskGib temporaryStorageGib)

/-- `apply_shrink_workspace_update`; it is never called for `none`. -/
def applyShrinkWorkspaceUpdate (workspace : Workspace) (document : WorkspaceTemplateDocument)
    (operation : StorageShrinkOperation) :
    ShrinkWorkspaceUpdate → Except StorageError (Workspace × WorkspaceTemplateDocument)
  | .none => pure (workspace, document)
  | .stopping =>
    pure ({ workspace with
        state := .stopping
        scratchVolumeBinding :=
          if operation.switched then workspace.scratchVolumeBinding
          else operation.temporary.source },
      document)
  | .stopped => pure ({ workspace with state := .stopped }, document)
  | .switch => do
    ensure ((operation.home.targetGib.isNone || operation.home.verified) &&
      (operation.temporary.targetGib.isNone || operation.temporary.verified))
      .invalidWorkspaceStorageShrink
    validateVerifiedDestination operation.home
    validateVerifiedDestination operation.temporary
    pure (replaceVolumes workspace document
      (operation.home.destination.or operation.home.source)
      (operation.temporary.destination.or operation.temporary.source)
      (operation.home.targetGib.getD operation.originalHomeGib)
      (operation.temporary.targetGib.getD operation.originalTemporaryStorageGib))
  | .rollback =>
    pure (replaceVolumes workspace document operation.home.source operation.temporary.source
      operation.originalHomeGib operation.originalTemporaryStorageGib)
  | .resume => pure ({ workspace with state := .starting }, document)

/-- **What an update writes**: a switch only with verified destinations. -/
theorem applyShrinkWorkspaceUpdate_eq_ok {workspace workspace' document document' operation update}
    (h : applyShrinkWorkspaceUpdate workspace document operation update =
      .ok (workspace', document')) :
    match update with
    | .none => workspace' = workspace ∧ document' = document
    | .stopping => document' = document ∧ workspace' = { workspace with
          state := .stopping
          scratchVolumeBinding :=
            if operation.switched then workspace.scratchVolumeBinding
            else operation.temporary.source }
    | .stopped => document' = document ∧ workspace' = { workspace with state := .stopped }
    | .switch =>
      (∀ target ∈ operation.home.targetGib,
        operation.home.verifiedDestination target = true) ∧
      (∀ target ∈ operation.temporary.targetGib,
        operation.temporary.verifiedDestination target = true) ∧
      (workspace', document') = replaceVolumes workspace document
        (operation.home.destination.or operation.home.source)
        (operation.temporary.destination.or operation.temporary.source)
        (operation.home.targetGib.getD operation.originalHomeGib)
        (operation.temporary.targetGib.getD operation.originalTemporaryStorageGib)
    | .rollback =>
      (workspace', document') = replaceVolumes workspace document operation.home.source
        operation.temporary.source operation.originalHomeGib
        operation.originalTemporaryStorageGib
    | .resume => document' = document ∧ workspace' = { workspace with state := .starting } := by
  cases update with
  | none | stopping | stopped | resume =>
    simp only [applyShrinkWorkspaceUpdate, pure_eq_ok, Prod.mk.injEq] at h
    exact ⟨by simp [h], by simp [h]⟩
  | rollback => exact (pure_eq_ok.1 h).symm
  | switch =>
    simp only [applyShrinkWorkspaceUpdate, ensure_bind_eq_ok] at h
    simp only [bind_eq_ok, validateVerifiedDestination_eq_ok, pure_eq_ok] at h
    obtain ⟨-, _, hhome, _, htemporary, h⟩ := h
    exact ⟨hhome, htemporary, h.symm⟩

/-! ### Retries of the last phase -/

def validateRetryOperation (storedId operationId : Uuid) (operation : StorageShrinkOperation)
    (workspace : Workspace) : Except StorageError Unit :=
  ensure (storedId = operationId && operation.id = operationId &&
    operation.workspaceId = workspace.id && operation.phase = .failed && operation.switched &&
    operation.sourcesRetained && !operation.reclaimable && !operation.request.reclaimSource &&
    operation.resume && workspace.state = .ready &&
    (operation.request.homeGib.isSome || operation.request.temporaryStorageGib.isSome))
    .workspaceStorageShrinkConflict

/-- No field of the identity is blank. -/
def StorageVolumeIdentity.recorded (identity : StorageVolumeIdentity) : Bool :=
  [identity.pvName, identity.pvUid, identity.csiDriver, identity.csiVolumeHandle,
    identity.storageClassName].all fun value => !(Text.trim value.toList).isEmpty

/-- The destination is what the workspace uses now, and the source is still known. -/
def StorageShrinkVolume.retryable (volume : StorageShrinkVolume) (target : ℕ)
    (current : Option WorkspaceHomeVolumeBinding) (currentGib originalGib : ℕ) : Bool :=
  volume.destination = current && currentGib = target &&
    volume.source.any (fun source =>
      source.namespace = workspaceNamespace && source.capacityGib = originalGib &&
        volume.destination.any fun destination =>
          destination.namespace = workspaceNamespace &&
            source.claimName ≠ destination.claimName) &&
    volume.sourceVolume.any fun source =>
      source.recorded && volume.destinationVolume.any fun destination =>
        destination.recorded && source.pvName ≠ destination.pvName

def validateRetryVolume (volume : StorageShrinkVolume) (requestedTarget : Option ℕ)
    (current : Option WorkspaceHomeVolumeBinding) (currentGib originalGib : ℕ) :
    Except StorageError Unit := do
  ensure (volume.targetGib = requestedTarget) .workspaceStorageShrinkConflict
  match requestedTarget with
  | none =>
    ensure (volume.source = current && volume.destination.isNone && currentGib = originalGib)
      .workspaceStorageShrinkConflict
  | some target =>
    (validateVerifiedDestination volume).mapError fun _ => .workspaceStorageShrinkConflict
    ensure (volume.retryable target current currentGib originalGib)
      .workspaceStorageShrinkConflict

def validateRetryIdle (activeOperations activeJobs : ℕ) : Except StorageError Unit :=
  ensure (activeOperations = 0 && activeJobs = 0) .workspaceStorageShrinkConflict

end WorkspaceControl
