/-
**Template snapshots.**

`src/src/templates.rs`: the document that a workspace keeps of the template it was created from,
and its validation.  YAML is a parameter of the source, not part of it; a text is represented by
what `serde_yaml_ng` reads from it, so that reading back a printed document gives that document.

Main definitions:

* `WorkspaceTemplateDocument`, `WorkspaceTemplateSpec` — the snapshot;
* `WorkspaceTemplateDocument.validate` — the checks, in the order of the source;
* `YamlText`, `WorkspaceTemplateDocument.parse`, `WorkspaceTemplateDocument.toYaml` — reading and
  writing a snapshot, both validated.

Main results:

* `WorkspaceTemplateSpec.validate_eq_ok` — what a valid snapshot satisfies;
* `WorkspaceTemplateDocument.validate_withSizes` — a valid snapshot stays valid when its two sizes
  are replaced by sizes in range.
-/
import WorkspaceControl.Fallible
import WorkspaceControl.Workspace

set_option autoImplicit false

namespace WorkspaceControl

open Fallible

/-! ### Documents -/

inductive AccessMode
  | internal
  | «public»
deriving DecidableEq

inductive EgressPolicy
  | unrestricted
  | internetOnly
deriving DecidableEq

/-- `quota::Resources`. -/
structure Resources where
  cpuMillis : ℕ
  memoryMib : ℕ
  gpuCount : ℕ
  diskGib : ℕ
deriving DecidableEq

structure PodResourceRequest where
  cpuMillis : ℕ
  memoryMib : ℕ
deriving DecidableEq

structure WorkspaceStoragePolicy where
  temporaryStorageGib : ℕ
  useLonghorn : Bool
deriving DecidableEq

structure WorkspacePlacement where
  allowedNodePools : List String
  defaultNodePool : String
deriving DecidableEq

structure DesktopEndpoint where
  internalPort : ℕ
  displayName : Option String
deriving DecidableEq

/-- Everything that the Pod of a workspace is rendered from. -/
structure WorkspaceTemplateSpec where
  image : String
  accessMode : AccessMode
  resources : Resources
  podRequests : PodResourceRequest
  cpuOvercommitRatio : Option ℕ
  workspaceUser : String
  workspaceHome : String
  buildkit : Bool
  storagePolicy : WorkspaceStoragePolicy
  clusterAccess : Bool
  egressPolicy : EgressPolicy
  runtimeClassName : Option String
  placement : WorkspacePlacement
  desktop : Option DesktopEndpoint
deriving DecidableEq

structure WorkspaceTemplateDocument where
  apiVersion : String
  kind : String
  name : String
  spec : WorkspaceTemplateSpec
deriving DecidableEq

inductive TemplateError
  | yaml
  | header
  | name
  | image
  | resources
  | podResources
  | cpuOvercommitRatio
  | workspaceIdentity
  | runtimeClass
  | placement
  | storagePolicy
  | desktop

def templateApiVersion : String := "workspace.memeloop.dev/v1"

def templateKind : String := "WorkspaceTemplate"

/-! ### Validation -/

def Resources.validWorkspaceRequest (resources : Resources) : Bool :=
  0 < resources.cpuMillis && 0 < resources.memoryMib && 0 < resources.diskGib

/-- Ports of the platform's own listeners. -/
def isPlatformReservedPort (port : ℕ) : Bool :=
  [22, 2222, 7681, 8080, 8081, 8443, 3389].contains port

/-- A display name is trimmed, short and printable. -/
def validDisplayName (value : List Char) : Bool :=
  !(Text.trim value).isEmpty && Text.trim value = value && Text.len value ≤ 80 &&
    !value.any Text.isControl

def DesktopEndpoint.validate (desktop : DesktopEndpoint) : Except TemplateError Unit := do
  ensure (1024 ≤ desktop.internalPort && desktop.internalPort ≤ 65535 &&
    !isPlatformReservedPort desktop.internalPort) .desktop
  ensure (desktop.displayName.all fun name => validDisplayName name.toList) .desktop

/-- The desktop endpoint is optional. -/
def validateDesktop : Option DesktopEndpoint → Except TemplateError Unit
  | some desktop => desktop.validate
  | none => pure ()

def WorkspaceStoragePolicy.validate (policy : WorkspaceStoragePolicy) :
    Except TemplateError Unit :=
  ensure (1 ≤ policy.temporaryStorageGib && policy.temporaryStorageGib ≤ 2048) .storagePolicy

/-- Lowercase letters, digits and hyphens between a first and a last character. -/
def validDashedName (validFirst : Char → Bool) (value : List Char) : Bool :=
  Text.len value ≤ 63 && !value.isEmpty && value.head?.any validFirst &&
    value.getLast?.any Text.isAlphanumeric &&
    value.all fun c => Text.isLowercaseOrDigit c || c = '-'

def validNodePoolName (value : String) : Bool :=
  validDashedName (fun c => 'a' ≤ c && c ≤ 'z') value.toList

def validRuntimeClassName (value : String) : Bool :=
  validDashedName Text.isAlphanumeric value.toList

/-- The source finds a repeated pool by sorting and comparing lengths. -/
def WorkspacePlacement.validate (placement : WorkspacePlacement) : Except TemplateError Unit := do
  ensure (!placement.allowedNodePools.isEmpty && placement.allowedNodePools.length ≤ 32 &&
    validNodePoolName placement.defaultNodePool &&
    placement.allowedNodePools.contains placement.defaultNodePool) .placement
  ensure (placement.allowedNodePools.all validNodePoolName) .placement
  ensure (decide placement.allowedNodePools.Nodup) .placement

def validWorkspaceUser (value : List Char) : Bool :=
  Text.len value ≤ 32 &&
    match value with
    | [] => false
    | first :: rest => (first = '_' || ('a' ≤ first && first ≤ 'z')) &&
        rest.all fun c => Text.isLowercaseOrDigit c || c = '_' || c = '-'

def validWorkspaceHome (value : List Char) : Bool :=
  value.head? = some '/' && Text.len value ≤ 256 && value ≠ ['/'] &&
    value.getLast? ≠ some '/' && !value.any Text.isWhitespace &&
    ((Text.split '/' value).drop 1).all fun part =>
      !part.isEmpty && part ≠ ['.'] && part ≠ ['.', '.']

/-- An image reference is not empty, has no blanks and at most 512 bytes. -/
def validImage (image : List Char) : Bool :=
  !(Text.trim image).isEmpty && image = Text.trim image && Text.len image ≤ 512 &&
    !image.any Text.isWhitespace

def WorkspaceTemplateSpec.validate (spec : WorkspaceTemplateSpec) : Except TemplateError Unit := do
  ensure (validImage spec.image.toList) .image
  ensure spec.resources.validWorkspaceRequest .resources
  ensure (spec.podRequests.cpuMillis ≠ 0 && spec.podRequests.memoryMib ≠ 0 &&
    spec.podRequests.cpuMillis ≤ spec.resources.cpuMillis &&
    spec.podRequests.memoryMib ≤ spec.resources.memoryMib) .podResources
  ensure (spec.cpuOvercommitRatio.all fun ratio => 1 ≤ ratio && ratio ≤ 1000) .cpuOvercommitRatio
  ensure (validWorkspaceUser spec.workspaceUser.toList &&
    validWorkspaceHome spec.workspaceHome.toList) .workspaceIdentity
  ensure (spec.runtimeClassName.all validRuntimeClassName) .runtimeClass
  spec.placement.validate
  validateDesktop spec.desktop
  spec.storagePolicy.validate

def validDocumentName (name : List Char) : Bool :=
  !(Text.trim name).isEmpty && Text.len (Text.trim name) ≤ 120 && Text.trim name = name &&
    !(Text.trim name).any Text.isControl

namespace WorkspaceTemplateDocument

def validate (document : WorkspaceTemplateDocument) : Except TemplateError Unit := do
  ensure (document.apiVersion = templateApiVersion && document.kind = templateKind) .header
  ensure (validDocumentName document.name.toList) .name
  document.spec.validate

end WorkspaceTemplateDocument

/-! ### What validity says -/

/-- The two sizes that the storage operations write into a snapshot. -/
def WorkspaceTemplateSpec.withSizes (spec : WorkspaceTemplateSpec)
    (diskGib temporaryStorageGib : ℕ) : WorkspaceTemplateSpec :=
  { spec with
    resources := { spec.resources with diskGib }
    storagePolicy := { spec.storagePolicy with temporaryStorageGib } }

/-- The same for a document. -/
def WorkspaceTemplateDocument.withSizes (document : WorkspaceTemplateDocument)
    (diskGib temporaryStorageGib : ℕ) : WorkspaceTemplateDocument :=
  { document with spec := document.spec.withSizes diskGib temporaryStorageGib }

variable {u : Unit} {spec : WorkspaceTemplateSpec}

theorem WorkspaceStoragePolicy.validate_eq_ok {policy : WorkspaceStoragePolicy} :
    policy.validate = .ok u ↔
      1 ≤ policy.temporaryStorageGib ∧ policy.temporaryStorageGib ≤ 2048 := by
  simp [WorkspaceStoragePolicy.validate]

theorem Resources.validWorkspaceRequest_iff {resources : Resources} :
    resources.validWorkspaceRequest = true ↔
      0 < resources.cpuMillis ∧ 0 < resources.memoryMib ∧ 0 < resources.diskGib := by
  simp [Resources.validWorkspaceRequest, and_assoc]

namespace WorkspaceTemplateSpec

/-- The sizes of a valid snapshot are in range. -/
theorem sizes_of_validate (h : spec.validate = .ok u) :
    0 < spec.resources.diskGib ∧ 1 ≤ spec.storagePolicy.temporaryStorageGib ∧
      spec.storagePolicy.temporaryStorageGib ≤ 2048 := by
  simp only [validate, ensure_bind_eq_ok] at h
  simp only [bind_eq_ok] at h
  obtain ⟨-, hresources, -, -, -, -, -, -, -, -, hpolicy⟩ := h
  exact ⟨(Resources.validWorkspaceRequest_iff.1 hresources).2.2,
    WorkspaceStoragePolicy.validate_eq_ok.1 hpolicy⟩

/-- Replacing the sizes of a valid snapshot by sizes in range keeps it valid. -/
theorem validate_withSizes {disk temporary : ℕ} (h : spec.validate = .ok u) (hdisk : 0 < disk)
    (hlow : 1 ≤ temporary) (hhigh : temporary ≤ 2048) :
    (spec.withSizes disk temporary).validate = .ok () := by
  simp only [validate, ensure_bind_eq_ok] at h ⊢
  simp only [bind_eq_ok] at h ⊢
  obtain ⟨himage, hresources, hpods, hratio, huser, hclass, p, hplacement, d, hdesktop, -⟩ := h
  have hrequest := Resources.validWorkspaceRequest_iff.1 hresources
  refine ⟨himage, ?_, hpods, hratio, huser, hclass, p, hplacement, d, hdesktop, ?_⟩
  · exact Resources.validWorkspaceRequest_iff.2 ⟨hrequest.1, hrequest.2.1, hdisk⟩
  · exact WorkspaceStoragePolicy.validate_eq_ok.2 ⟨hlow, hhigh⟩

end WorkspaceTemplateSpec

/-! ### Reading and writing -/

/-- A YAML text, up to what `serde_yaml_ng::from_str` makes of it: a document, or an error. -/
inductive YamlText
  | document (document : WorkspaceTemplateDocument)
  | unreadable (text : String)
deriving DecidableEq

/-- `serde_yaml_ng::from_str`. -/
def YamlText.fromStr : YamlText → Option WorkspaceTemplateDocument
  | document d => some d
  | unreadable _ => none

namespace WorkspaceTemplateDocument

def parse (yaml : YamlText) : Except TemplateError WorkspaceTemplateDocument := do
  let document ← okOr yaml.fromStr .yaml
  document.validate
  pure document

def toYaml (document : WorkspaceTemplateDocument) : Except TemplateError YamlText := do
  document.validate
  pure (.document document)

variable {document : WorkspaceTemplateDocument} {yaml : YamlText}

theorem parse_eq_ok :
    parse yaml = .ok document ↔ yaml = .document document ∧ document.validate = .ok () := by
  cases yaml with
  | document d =>
    simp only [parse, YamlText.fromStr, bind_eq_ok, okOr_eq_ok, Option.some_inj, pure_eq_ok,
      exists_eq_left', YamlText.document.injEq]
    constructor
    · rintro ⟨_, hvalid, rfl⟩
      exact ⟨rfl, hvalid⟩
    · rintro ⟨rfl, hvalid⟩
      exact ⟨(), hvalid, rfl⟩
  | unreadable text => simp [parse, YamlText.fromStr, bind_eq_ok]

theorem toYaml_eq_ok :
    document.toYaml = .ok yaml ↔ document.validate = .ok () ∧ yaml = .document document := by
  simp only [toYaml, bind_eq_ok, pure_eq_ok]
  constructor
  · rintro ⟨_, hvalid, rfl⟩
    exact ⟨hvalid, rfl⟩
  · rintro ⟨hvalid, rfl⟩
    exact ⟨(), hvalid, rfl⟩

theorem validate_eq_ok :
    document.validate = .ok u ↔
      (decide (document.apiVersion = templateApiVersion) && decide (document.kind = templateKind))
          = true ∧
        validDocumentName document.name.toList = true ∧ document.spec.validate = .ok u := by
  simp only [validate, ensure_bind_eq_ok]

/-- A valid document stays valid when its sizes are replaced by sizes in range. -/
theorem validate_withSizes {disk temporary : ℕ} (h : document.validate = .ok ()) (hdisk : 0 < disk)
    (hlow : 1 ≤ temporary) (hhigh : temporary ≤ 2048) :
    (document.withSizes disk temporary).validate = .ok () := by
  obtain ⟨hheader, hname, hspec⟩ := validate_eq_ok.1 h
  exact validate_eq_ok.2
    ⟨hheader, hname, WorkspaceTemplateSpec.validate_withSizes hspec hdisk hlow hhigh⟩

end WorkspaceTemplateDocument

/-- A small template, from which the samples of the development start. -/
def sampleDocument : WorkspaceTemplateDocument where
  apiVersion := templateApiVersion
  kind := templateKind
  name := "small"
  spec :=
    { image := "workspace"
      accessMode := .internal
      resources := ⟨1000, 1024, 0, 10⟩
      podRequests := ⟨1000, 1024⟩
      cpuOvercommitRatio := none
      workspaceUser := "user"
      workspaceHome := "/home"
      buildkit := false
      storagePolicy := ⟨4, false⟩
      clusterAccess := false
      egressPolicy := .unrestricted
      runtimeClassName := none
      placement := ⟨["pool"], "pool"⟩
      desktop := none }

end WorkspaceControl
