/-
**The cluster.**

What the processes read of Kubernetes objects, and the requests they make.  The answers are data
that the cluster is free to choose; a request may also fail with any text.  Requests whose answer
is only a yes, a no or an error stand for a whole function of
`src/src/kubernetes/client_storage_shrink.rs` or of the reconciler; claims and helper Pods are read
object by object, because the functions that read them decide on their fields.

Main definitions:

* `ObjectMeta`, `PersistentVolumeClaim`, `HelperPod`, `ShrinkUsage` — the objects;
* `ClusterCall`, `ClusterCall.Response` — the requests and their answers.
-/

import WorkspaceControl.ShrinkOperation

set_option autoImplicit false

namespace WorkspaceControl

/-- The metadata of an object. -/
structure ObjectMeta where
  name : Option String
  «namespace» : Option String
  uid : Option String
  labels : Option (List (String × String))
  deleting : Bool
  hasOwners : Bool

structure ClaimSpec where
  volumeMode : Option String
  /-- the requested storage in bytes, if it can be read -/
  requested : Option ℕ

structure PersistentVolumeClaim where
  metadata : ObjectMeta
  spec : Option ClaimSpec
  phase : Option String
  /-- the provisioned storage in bytes, if it can be read -/
  capacity : Option ℕ

inductive ShrinkPodStage
  | preflight
  | measure
  | copy
  | verify
deriving DecidableEq

def ShrinkPodStage.name : ShrinkPodStage → String
  | preflight => "preflight"
  | measure => "measure"
  | copy => "copy"
  | verify => "verify"

structure ShrinkUsage where
  usedBytes : ℕ
  usedInodes : ℕ

/-- A helper Pod that was found, or made, and whose labels, policy and specification are right. -/
structure HelperPod where
  uid : Option String
  phase : Option String
  evidence : Except String ShrinkUsage

/-- An error of the reconciler: some mean that the cluster is still at work. -/
inductive ReconcileError
  | waiting (text : String)
  | failed (text : String)

inductive DeleteProgress
  | deletionRequested
  | terminating
  | gone

/-- Requests to the cluster; `scratchClaim` is the lookup of the scratch claim by its name. -/
inductive ClusterCall
  | runtimeNames (workspaceId : Uuid)
  | requireClaim (name : String)
  | scratchClaim (name : String)
  | getClaim (name : String)
  | createClaim (name : String) (operationId : Uuid) (source : PersistentVolumeClaim)
      (targetGib : ℕ)
  | volumeIdentity (claim : PersistentVolumeClaim) (binding : WorkspaceHomeVolumeBinding)
  | retainShrinkSources (operation : StorageShrinkOperation)
  | stopForStorageShrink (operation : StorageShrinkOperation)
  | removeShrinkHelpers (operation : StorageShrinkOperation)
  | helperPod (name : String) (volume : StorageShrinkVolume) (stage : ShrinkPodStage)
  | deleteClaim (source : WorkspaceHomeVolumeBinding) (identity : StorageVolumeIdentity)
  | captureCleanup (operation : StorageShrinkOperation)
  | prepareRuntime (workspace : Workspace)
  | reconcileInjections (workspace : Workspace)
  | reconcileResources (workspace : Workspace)
  | reconcilePortMappings (workspace : Workspace)
  | hasObservedReplicas (workspaceId : Uuid) (replicas : ℕ)
  | recoverScratchScheduling (workspaceId : Uuid)
  | deleteStoppedScratch (workspaceId : Uuid)
  | deleteOrConfirm (workspaceId : Uuid)
  | deleteShrinkStorage (operations : List StorageShrinkOperation)
  | deliverWebhook (payload : Payload)

/-- The answers. -/
abbrev ClusterCall.Response : ClusterCall → Type
  | requireClaim _ => Except String PersistentVolumeClaim
  | scratchClaim _ | getClaim _ => Except String (Option PersistentVolumeClaim)
  | createClaim .. => Except String PersistentVolumeClaim
  | volumeIdentity .. => Except String StorageVolumeIdentity
  | retainShrinkSources _ => Except String Bool
  | stopForStorageShrink _ => Except String Bool
  | removeShrinkHelpers _ => Except String Bool
  | helperPod .. => Except String HelperPod
  | deleteClaim .. => Except String Bool
  | captureCleanup _ => Except String (StorageShrinkVolume × StorageShrinkVolume)
  | reconcileInjections _ => Except ReconcileError Unit
  | reconcileResources _ => Except ReconcileError Unit
  | hasObservedReplicas .. => Except String Bool
  | deleteStoppedScratch _ => Except String Bool
  | deleteOrConfirm _ => Except String DeleteProgress
  | deleteShrinkStorage _ => Except String Bool
  | _ => Except String Unit

end WorkspaceControl
