/-
**Rows of the table of workspaces.**

`src/src/storage/workspace_store/row.rs`.  A row stores some facts twice: in columns that queries
read, and in the snapshot of the template.  Decoding reads the snapshot; it refuses a row whose
home volume does not have the size the snapshot says.

Main definitions:

* `WorkspaceRow`, `Workspace` — the columns, and what a row is decoded to;
* `decodeWorkspace` — the decoding, in the order of the source;
* `MirrorsSnapshot` — the agreement of the columns with the snapshot.

Main results:

* `decodeWorkspace_eq_ok` — **decoding succeeds exactly on the rows that are described by
  `Decodes`**: the snapshot is valid, the home columns are a valid binding of its size, and the
  other columns can be read.
-/

import WorkspaceControl.Template

set_option autoImplicit false

namespace WorkspaceControl

open Fallible MachineInt

/-! ### Rows -/

/-- A JSON text of a volume binding, up to what `serde_json::from_str` makes of it. -/
inductive BindingText
  | binding (binding : WorkspaceHomeVolumeBinding)
  | unreadable (text : String)
deriving DecidableEq

/-- `serde_json::from_str`. -/
def BindingText.fromStr : BindingText → Option WorkspaceHomeVolumeBinding
  | binding b => some b
  | unreadable _ => none

/-- The columns of the table `workspaces` for one installation. -/
structure WorkspaceRow where
  id : Uuid
  shortId : String
  organizationId : Uuid
  ownerId : Uuid
  name : String
  templateId : Option Uuid
  image : String
  accessMode : AccessMode
  state : String
  cpuMillis : ℤ
  memoryMib : ℤ
  gpuCount : ℤ
  diskGib : ℤ
  temporaryStorageGib : ℤ
  nodePool : String
  generation : ℤ
  createdAt : ℤ
  updatedAt : ℤ
  templateSnapshotYaml : YamlText
  homePvcNamespace : Option String
  homePvcName : Option String
  homePvcUid : Option String
  homePvcCapacityGib : Option ℤ
  scratchVolumeBindingJson : Option BindingText
deriving DecidableEq

/-- A decoded workspace. -/
structure Workspace where
  id : Uuid
  shortId : String
  organizationId : Uuid
  ownerId : Uuid
  name : String
  templateId : Option Uuid
  nodePool : String
  homeVolumeBinding : Option WorkspaceHomeVolumeBinding
  scratchVolumeBinding : Option WorkspaceHomeVolumeBinding
  template : WorkspaceTemplateSpec
  state : WorkspaceState
  generation : ℕ
  createdAt : ℤ
  updatedAt : ℤ

/-! ### Home volumes -/

/-- The four columns of the home volume. -/
structure HomeColumns where
  «namespace» : Option String
  claimName : Option String
  claimUid : Option String
  capacityGib : Option ℤ
deriving DecidableEq

def WorkspaceRow.home (row : WorkspaceRow) : HomeColumns where
  «namespace» := row.homePvcNamespace
  claimName := row.homePvcName
  claimUid := row.homePvcUid
  capacityGib := row.homePvcCapacityGib

/-- The columns that a binding is written to. -/
def HomeColumns.of (capacity : ℕ → ℤ) (binding : Option WorkspaceHomeVolumeBinding) :
    HomeColumns where
  «namespace» := binding.map (·.namespace)
  claimName := binding.map (·.claimName)
  claimUid := binding.map (·.claimUid)
  capacityGib := binding.map fun b => capacity b.capacityGib

/-- `UPDATE workspaces SET home_pvc_namespace = .., home_pvc_name = .., ..`. -/
def WorkspaceRow.withHome (row : WorkspaceRow) (home : HomeColumns) : WorkspaceRow :=
  { row with
    homePvcNamespace := home.namespace
    homePvcName := home.claimName
    homePvcUid := home.claimUid
    homePvcCapacityGib := home.capacityGib }

/-- The home binding: all four columns are set, or none is. -/
def HomeColumns.decode (diskGib : ℕ) :
    HomeColumns → Except StorageError (Option WorkspaceHomeVolumeBinding)
  | ⟨none, none, none, none⟩ => pure none
  | ⟨some «namespace», some claimName, some claimUid, some capacity⟩ => do
    let capacityGib ← okOr (I64.toU64 capacity) .invalidWorkspace
    let binding : WorkspaceHomeVolumeBinding := ⟨«namespace», claimName, claimUid, capacityGib⟩
    ensure (binding.isValid && binding.capacityGib = diskGib) .invalidWorkspace
    pure (some binding)
  | _ => throw .invalidWorkspace

variable {binding : Option WorkspaceHomeVolumeBinding}

/-- A binding that was decoded stands in the columns; it is valid and has the size that the
snapshot says. -/
theorem HomeColumns.decode_eq_ok {diskGib : ℕ} {home : HomeColumns} :
    home.decode diskGib = .ok binding ↔ home = HomeColumns.of (fun n => n) binding ∧
      ∀ b ∈ binding, b.isValid = true ∧ b.capacityGib = diskGib := by
  constructor
  · intro h
    unfold decode at h
    split at h
    · obtain rfl := pure_eq_ok.1 h
      exact ⟨rfl, fun b hb => nomatch hb⟩
    · simp only [bind_eq_ok, okOr_eq_ok, ensure_eq_ok, pure_eq_ok, Bool.and_eq_true,
        decide_eq_true_eq, toU64_eq_some] at h
      obtain ⟨capacity, rfl, _, ⟨hvalid, hsize⟩, rfl⟩ := h
      refine ⟨rfl, fun b hb => ?_⟩
      obtain rfl := Option.mem_some_iff.1 hb
      exact ⟨hvalid, hsize⟩
    · cases h
  · rintro ⟨rfl, hbinding⟩
    cases binding with
    | none => rfl
    | some b =>
      obtain ⟨hvalid, hsize⟩ := hbinding b rfl
      obtain ⟨«namespace», claimName, claimUid, capacity⟩ := b
      simp only [of, Option.map_some, decode, bind_eq_ok, okOr_eq_ok, ensure_eq_ok, pure_eq_ok,
        Bool.and_eq_true, decide_eq_true_eq, toU64_ofNat, Option.some_inj, exists_eq_left']
      exact ⟨(), ⟨hvalid, hsize⟩, trivial⟩

/-! ### Decoding -/

/-- The scratch binding is kept as JSON. -/
def decodeScratch :
    Option BindingText → Except StorageError (Option WorkspaceHomeVolumeBinding)
  | none => pure none
  | some text => do
    let binding ← okOr text.fromStr .json
    pure (some binding)

theorem decodeScratch_eq_ok {text : Option BindingText} :
    decodeScratch text = .ok binding ↔ text = binding.map .binding := by
  cases text with
  | none => cases binding <;> simp [decodeScratch]
  | some text =>
    simp only [decodeScratch, bind_eq_ok, okOr_eq_ok, pure_eq_ok]
    cases text with
    | binding | unreadable => cases binding <;> simp [BindingText.fromStr]

/-- `decode_workspace`. -/
def decodeWorkspace (row : WorkspaceRow) : Except StorageError Workspace := do
  let document ← (WorkspaceTemplateDocument.parse row.templateSnapshotYaml).mapError
    fun _ => .invalidWorkspace
  let home ← row.home.decode document.spec.resources.diskGib
  ensure (row.shortId = workspaceShortIdFor row.id) .invalidWorkspace
  let scratch ← decodeScratch row.scratchVolumeBindingJson
  let state ← okOr (WorkspaceState.fromDatabase row.state) (.unknownWorkspaceState row.state)
  let generation ← okOr (I64.toU64 row.generation) .invalidWorkspace
  pure
    { id := row.id
      shortId := row.shortId
      organizationId := row.organizationId
      ownerId := row.ownerId
      name := row.name
      templateId := row.templateId
      nodePool := row.nodePool
      homeVolumeBinding := home
      scratchVolumeBinding := scratch
      template := document.spec
      state := state
      generation := generation
      createdAt := row.createdAt
      updatedAt := row.updatedAt }

/-- A row, its snapshot and the workspace it is decoded to. -/
structure Decodes (row : WorkspaceRow) (document : WorkspaceTemplateDocument)
    (workspace : Workspace) : Prop where
  yaml : row.templateSnapshotYaml = .document document
  valid : document.validate = .ok ()
  template : workspace.template = document.spec
  home : row.home = HomeColumns.of (fun n => n) workspace.homeVolumeBinding
  homeValid : ∀ binding ∈ workspace.homeVolumeBinding, binding.isValid = true ∧
    binding.capacityGib = document.spec.resources.diskGib
  scratch : row.scratchVolumeBindingJson = workspace.scratchVolumeBinding.map .binding
  state : row.state = workspace.state.asStr
  generation : row.generation = workspace.generation
  id : workspace.id = row.id
  shortId : workspace.shortId = row.shortId ∧ row.shortId = workspaceShortIdFor row.id
  organizationId : workspace.organizationId = row.organizationId
  ownerId : workspace.ownerId = row.ownerId
  name : workspace.name = row.name
  templateId : workspace.templateId = row.templateId
  nodePool : workspace.nodePool = row.nodePool
  createdAt : workspace.createdAt = row.createdAt
  updatedAt : workspace.updatedAt = row.updatedAt

theorem decodeWorkspace_eq_ok {row : WorkspaceRow} {workspace : Workspace} :
    decodeWorkspace row = .ok workspace ↔ ∃ document, Decodes row document workspace := by
  simp only [decodeWorkspace, bind_eq_ok, mapError_eq_ok, WorkspaceTemplateDocument.parse_eq_ok,
    HomeColumns.decode_eq_ok, ensure_eq_ok, decide_eq_true_eq, decodeScratch_eq_ok, okOr_eq_ok,
    WorkspaceState.fromDatabase_eq_some, toU64_eq_some, pure_eq_ok]
  constructor
  · rintro ⟨document, ⟨hyaml, hvalid⟩, home, ⟨hhome, hhomeValid⟩, _, hshort, scratch, hscratch,
      state, hstate, generation, hgeneration, rfl⟩
    exact ⟨document, hyaml, hvalid, rfl, hhome, hhomeValid, hscratch, hstate, hgeneration, rfl,
      ⟨rfl, hshort⟩, rfl, rfl, rfl, rfl, rfl, rfl, rfl⟩
  · rintro ⟨document, h⟩
    refine ⟨document, ⟨h.yaml, h.valid⟩, _, ⟨h.home, h.homeValid⟩, (), h.shortId.2, _, h.scratch,
      _, h.state, _, h.generation, ?_⟩
    rw [← h.template, ← h.id, ← h.shortId.1, ← h.organizationId, ← h.ownerId, ← h.name,
      ← h.templateId, ← h.nodePool, ← h.createdAt, ← h.updatedAt]

/-! ### Facts that are stored twice -/

/-- The columns repeat what the snapshot says, and the node pool is one the snapshot allows. -/
structure MirrorsSnapshot (row : WorkspaceRow) (document : WorkspaceTemplateDocument) : Prop where
  image : row.image = document.spec.image
  cpuMillis : row.cpuMillis = document.spec.resources.cpuMillis
  memoryMib : row.memoryMib = document.spec.resources.memoryMib
  gpuCount : row.gpuCount = document.spec.resources.gpuCount
  diskGib : row.diskGib = document.spec.resources.diskGib
  temporaryStorageGib :
    row.temporaryStorageGib = document.spec.storagePolicy.temporaryStorageGib
  nodePool : row.nodePool ∈ document.spec.placement.allowedNodePools
  range : (document.spec.resources.diskGib : ℤ) ≤ I64.max

end WorkspaceControl
