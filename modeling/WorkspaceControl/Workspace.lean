/-
**Workspaces: identities, lifecycle states and volume bindings.**

The value types of `src/src/workspaces.rs` and `src/src/workspace_runtime.rs`.

Main definitions:

* `Uuid` — an identifier in its canonical text form, ordered as its text column is;
* `WorkspaceState.request`, `WorkspaceState.observe` — the two halves of the lifecycle: what a
  user may ask for and what the reconciler may report;
* `WorkspaceHomeVolumeBinding.isValid` — when a recorded volume claim is well formed;
* `workspaceShortIdFor` — the short identifier of a workspace.

Main results:

* `WorkspaceState.fromDatabase_asStr` — a state is read back from its column;
* `WorkspaceHomeVolumeBinding.capacity_of_isValid` — the capacity of a valid claim is positive and
  fits a signed column.
-/
import Mathlib.Order.Lex
import Mathlib.Data.Prod.Lex
import Mathlib.Data.String.Basic
import WorkspaceControl.MachineInt

set_option autoImplicit false

namespace WorkspaceControl

open MachineInt

/-! ### Text -/

namespace Text

/-- `char::is_ascii_lowercase` or `char::is_ascii_digit`. -/
def isLowercaseOrDigit (c : Char) : Bool :=
  ('a' ≤ c && c ≤ 'z') || ('0' ≤ c && c ≤ '9')

/-- `char::is_ascii_alphanumeric`. -/
def isAlphanumeric (c : Char) : Bool := isLowercaseOrDigit c || ('A' ≤ c && c ≤ 'Z')

/-- A lowercase hexadecimal digit. -/
def isHexDigit (c : Char) : Bool := ('0' ≤ c && c ≤ '9') || ('a' ≤ c && c ≤ 'f')

/-- `char::is_whitespace`: the Unicode property `White_Space`. -/
def isWhitespace (c : Char) : Bool :=
  (9 ≤ c.toNat && c.toNat ≤ 13) || c.toNat = 0x20 || c.toNat = 0x85 || c.toNat = 0xa0 ||
    c.toNat = 0x1680 || (0x2000 ≤ c.toNat && c.toNat ≤ 0x200a) || c.toNat = 0x2028 ||
    c.toNat = 0x2029 || c.toNat = 0x202f || c.toNat = 0x205f || c.toNat = 0x3000

/-- `char::is_control`. -/
def isControl (c : Char) : Bool := c.toNat ≤ 0x1f || (0x7f ≤ c.toNat && c.toNat ≤ 0x9f)

/-- `str::len`: the length in bytes. -/
def len (s : List Char) : ℕ := (s.map Char.utf8Size).sum

/-- `str::trim`. -/
def trim (s : List Char) : List Char :=
  ((s.dropWhile isWhitespace).reverse.dropWhile isWhitespace).reverse

/-- `str::split` at a character. -/
def split (separator : Char) : List Char → List (List Char)
  | [] => [[]]
  | c :: rest =>
    if c = separator then [] :: split separator rest
    else
      match split separator rest with
      | [] => [[c]]
      | part :: parts => (c :: part) :: parts

@[simp] theorem split_nil (separator : Char) : split separator [] = [[]] := rfl

theorem split_cons (separator c : Char) (rest : List Char) :
    split separator (c :: rest) =
      if c = separator then [] :: split separator rest
      else
        match split separator rest with
        | [] => [[c]]
        | part :: parts => (c :: part) :: parts := rfl

theorem split_ne_nil (separator : Char) (s : List Char) : split separator s ≠ [] := by
  cases s with
  | nil => simp
  | cons c rest =>
    rw [split_cons]
    split
    · simp
    · split <;> simp

/-- The parts of a text, joined again. -/
theorem intercalate_split (separator : Char) (s : List Char) :
    List.intercalate [separator] (split separator s) = s := by
  induction s with
  | nil => rfl
  | cons c rest ih =>
    rw [split_cons]
    cases hrest : split separator rest with
    | nil => exact absurd hrest (split_ne_nil separator rest)
    | cons part parts =>
      rw [hrest] at ih
      split
      · rename_i hc
        rw [List.intercalate_cons_cons, ih, hc]
        rfl
      · cases parts with
        | nil => simpa using ih
        | cons next parts =>
          rw [List.intercalate_cons_cons] at ih ⊢
          simpa using ih

/-- The parts of a text are what is left of it without the separators. -/
theorem flatten_split (separator : Char) (s : List Char) :
    (split separator s).flatten = s.filter fun c => c ≠ separator := by
  induction s with
  | nil => rfl
  | cons c rest ih =>
    rw [split_cons]
    by_cases hc : c = separator
    · simp [hc, ih]
    · rw [if_neg hc]
      cases hrest : split separator rest with
      | nil => exact absurd hrest (split_ne_nil separator rest)
      | cons part parts =>
        rw [hrest] at ih
        rw [List.filter_cons_of_pos (by simpa using hc), ← ih]
        rfl

theorem split_injective (separator : Char) : Function.Injective (split separator) := by
  intro s t h
  rw [← intercalate_split separator s, h, intercalate_split]

/-- A separator between two texts separates their parts. -/
theorem split_append_cons (separator : Char) (s t : List Char) :
    split separator (s ++ separator :: t) = split separator s ++ split separator t := by
  induction s with
  | nil => simp [split_cons]
  | cons c rest ih =>
    rw [List.cons_append, split_cons, split_cons, ih]
    split
    · rfl
    · cases hrest : split separator rest with
      | nil => exact absurd hrest (split_ne_nil separator rest)
      | cons part parts => rfl

/-- A text without the separator is its only part. -/
theorem split_eq_singleton {separator : Char} {s : List Char} (h : separator ∉ s) :
    split separator s = [s] := by
  induction s with
  | nil => rfl
  | cons c rest ih =>
    rw [List.mem_cons, not_or] at h
    rw [split_cons, if_neg (Ne.symm h.1), ih h.2]

/-- `str::split_once` at a text. -/
def splitOnce (separator : List Char) : List Char → Option (List Char × List Char)
  | [] => if separator = [] then some ([], []) else none
  | c :: rest =>
    if separator.isPrefixOf (c :: rest) then some ([], (c :: rest).drop separator.length)
    else (splitOnce separator rest).map fun (before, after) => (c :: before, after)

end Text

/-! ### Identifiers -/

/-- The canonical form of a UUID: groups of 8, 4, 4, 4 and 12 hexadecimal digits. -/
def canonicalUuid (text : String) : Bool :=
  let groups := Text.split '-' text.toList
  groups.map List.length = [8, 4, 4, 4, 12] && groups.all fun group => group.all Text.isHexDigit

/-- A UUID, kept as the text that columns and payloads hold. -/
structure Uuid where
  text : String
  canonical : canonicalUuid text = true
deriving DecidableEq

namespace Uuid

theorem text_injective : Function.Injective Uuid.text := by
  rintro ⟨a, ha⟩ ⟨b, hb⟩ h
  simpa using h

instance : LinearOrder Uuid := LinearOrder.lift' Uuid.text text_injective

/-- `Uuid::parse_str` on the form that the database and the payloads use. -/
def parse (text : String) : Option Uuid :=
  if h : canonicalUuid text = true then some ⟨text, h⟩ else none

@[simp] theorem parse_text (id : Uuid) : parse id.text = some id := by
  simp [parse, id.canonical]

/-- `Uuid::simple`: the digits alone. -/
def simple (id : Uuid) : List Char := id.text.toList.filter fun c => c ≠ '-'

theorem simple_eq_flatten (id : Uuid) : id.simple = (Text.split '-' id.text.toList).flatten :=
  (Text.flatten_split _ _).symm

@[simp] theorem length_simple (id : Uuid) : id.simple.length = 32 := by
  have hcanonical := id.canonical
  simp only [canonicalUuid, Bool.and_eq_true, decide_eq_true_eq] at hcanonical
  rw [simple_eq_flatten, List.length_flatten, hcanonical.1]
  rfl

theorem isHexDigit_of_mem_simple {id : Uuid} {c : Char} (hc : c ∈ id.simple) :
    Text.isHexDigit c = true := by
  have hcanonical := id.canonical
  simp only [canonicalUuid, Bool.and_eq_true, List.all_eq_true] at hcanonical
  rw [simple_eq_flatten, List.mem_flatten] at hc
  obtain ⟨group, hgroup, hc⟩ := hc
  exact hcanonical.2 group hgroup c hc

end Uuid

/-- The namespace of every workspace runtime. -/
def workspaceNamespace : String := "memeloop-workspace-control"

/-- The last sixteen digits: the leading ones of a version 7 UUID only encode time. -/
def workspaceShortIdFor (id : Uuid) : String :=
  String.ofList (id.simple.drop (id.simple.length - 16))

@[simp] theorem length_workspaceShortIdFor (id : Uuid) :
    (workspaceShortIdFor id).toList.length = 16 := by
  simp [workspaceShortIdFor]

theorem isHexDigit_of_mem_workspaceShortIdFor {id : Uuid} {c : Char}
    (hc : c ∈ (workspaceShortIdFor id).toList) : Text.isHexDigit c = true := by
  rw [workspaceShortIdFor, String.toList_ofList] at hc
  exact Uuid.isHexDigit_of_mem_simple (List.mem_of_mem_drop hc)

/-- `WorkspaceResourceNames::data_pvc_ordinal_zero`: the claim a StatefulSet makes for Home. -/
def dataPvcOrdinalZero (shortId : String) : String := "workspace-data-w-" ++ shortId ++ "-0"

/-- `WorkspaceResourceNames::scratch_pvc`. -/
def scratchPvc (shortId : String) : String := "w-" ++ shortId ++ "-scratch"

/-! ### The lifecycle -/

inductive WorkspaceState
  | provisioning
  | ready
  | stopping
  | stopped
  | starting
  | restarting
  | deleting
  | deleted
  | failed
deriving DecidableEq, Repr

/-- What a user asks for. -/
inductive WorkspaceAction
  | start
  | stop
  | restart
  | delete
deriving DecidableEq, Repr

/-- What the reconciler reports after looking at the cluster. -/
inductive WorkspaceObservation
  | ready
  | notReady
  | stopped
  | deleted
  | failed
deriving DecidableEq, Repr

namespace WorkspaceAction

def asStr : WorkspaceAction → String
  | start => "start"
  | stop => "stop"
  | restart => "restart"
  | delete => "delete"

end WorkspaceAction

namespace WorkspaceObservation

def asStr : WorkspaceObservation → String
  | ready => "mark_ready"
  | notReady => "mark_not_ready"
  | stopped => "mark_stopped"
  | deleted => "mark_deleted"
  | failed => "mark_failed"

end WorkspaceObservation

/-- The operation that the state does not allow. -/
structure TransitionError where
  state : WorkspaceState
  operation : String
deriving DecidableEq, Repr

namespace WorkspaceState

def asStr : WorkspaceState → String
  | provisioning => "provisioning"
  | ready => "ready"
  | stopping => "stopping"
  | stopped => "stopped"
  | starting => "starting"
  | restarting => "restarting"
  | deleting => "deleting"
  | deleted => "deleted"
  | failed => "failed"

/-- The name of the state in messages (`{:?}`). -/
def debug : WorkspaceState → String
  | provisioning => "Provisioning"
  | ready => "Ready"
  | stopping => "Stopping"
  | stopped => "Stopped"
  | starting => "Starting"
  | restarting => "Restarting"
  | deleting => "Deleting"
  | deleted => "Deleted"
  | failed => "Failed"

def fromDatabase (value : String) : Option WorkspaceState :=
  if value = "provisioning" then some provisioning
  else if value = "ready" then some ready
  else if value = "stopping" then some stopping
  else if value = "stopped" then some stopped
  else if value = "starting" then some starting
  else if value = "restarting" then some restarting
  else if value = "deleting" then some deleting
  else if value = "deleted" then some deleted
  else if value = "failed" then some failed
  else none

@[simp] theorem fromDatabase_asStr (state : WorkspaceState) :
    fromDatabase state.asStr = some state := by
  cases state <;> decide

theorem asStr_injective : Function.Injective asStr := by
  intro s t h
  simpa using congrArg fromDatabase h

variable {observation : WorkspaceObservation} {state : WorkspaceState}

theorem fromDatabase_eq_some {value : String} :
    fromDatabase value = some state ↔ value = state.asStr := by
  constructor
  · intro h
    unfold fromDatabase at h
    split_ifs at h <;> (obtain rfl := Option.some_inj.1 h; assumption)
  · rintro rfl
    exact fromDatabase_asStr state

/-- The state an action leads to. -/
def request (state : WorkspaceState) (action : WorkspaceAction) :
    Except TransitionError WorkspaceState :=
  match state, action with
  | stopped, .start | failed, .start => .ok starting
  | provisioning, .stop | ready, .stop | starting, .stop | restarting, .stop | failed, .stop =>
    .ok stopping
  | provisioning, .restart | ready, .restart | starting, .restart | failed, .restart =>
    .ok restarting
  | provisioning, .delete | ready, .delete | stopped, .delete | starting, .delete
  | stopping, .delete | restarting, .delete | failed, .delete => .ok deleting
  | _, _ => .error ⟨state, action.asStr⟩

/-- The state an observation leads to. -/
def observe (state : WorkspaceState) (observation : WorkspaceObservation) :
    Except TransitionError WorkspaceState :=
  match state, observation with
  | provisioning, .ready | starting, .ready | restarting, .ready => .ok ready
  | ready, .notReady => .ok starting
  | stopping, .stopped => .ok stopped
  | deleting, .deleted => .ok deleted
  | provisioning, .failed | ready, .failed | starting, .failed | stopping, .failed
  | restarting, .failed | deleting, .failed => .ok failed
  | _, _ => .error ⟨state, observation.asStr⟩

/-- Only a user can ask for deletion. -/
theorem observe_ne_deleting {state next : WorkspaceState}
    (h : state.observe observation = .ok next) : next ≠ deleting := by
  rintro rfl
  cases state <;> cases observation <;> simp [observe] at h

/-- A workspace is gone only after it was `deleting`. -/
theorem eq_deleting_of_observe_deleted (h : state.observe observation = .ok deleted) :
    state = deleting := by
  cases state <;> cases observation <;> simp_all [observe]

end WorkspaceState

/-! ### Volume bindings -/

/-- The number of bytes of a GiB. -/
def gib : ℕ := 1073741824

theorem gib_pos : 0 < gib := by decide

/-- A volume claim recorded for a workspace, with its capacity. -/
structure WorkspaceHomeVolumeBinding where
  «namespace» : String
  claimName : String
  claimUid : String
  capacityGib : ℕ
deriving DecidableEq

namespace WorkspaceHomeVolumeBinding

/-- A label of a claim name. -/
def validLabel (label : List Char) : Bool :=
  !label.isEmpty && Text.len label ≤ 63 && label.head?.any Text.isAlphanumeric &&
    label.getLast?.any Text.isAlphanumeric &&
    label.all fun c => Text.isLowercaseOrDigit c || c = '-'

/-- The capacity in bytes is a positive `i64`. -/
def validCapacity (capacityGib : ℕ) : Bool :=
  0 < capacityGib &&
    (U64.checkedMul capacityGib gib).any fun (bytes : ℕ) => (bytes : ℤ) ≤ I64.max

def isValid (binding : WorkspaceHomeVolumeBinding) : Bool :=
  binding.namespace = workspaceNamespace &&
    !binding.claimName.toList.isEmpty && Text.len binding.claimName.toList ≤ 253 &&
    (Text.split '.' binding.claimName.toList).all validLabel &&
    !binding.claimUid.toList.isEmpty && Text.len binding.claimUid.toList ≤ 128 &&
    binding.claimUid.toList.all (fun c => Text.isAlphanumeric c || c = '-') &&
    validCapacity binding.capacityGib

theorem validCapacity_iff {capacityGib : ℕ} :
    validCapacity capacityGib = true ↔
      0 < capacityGib ∧ ((capacityGib * gib : ℕ) : ℤ) ≤ I64.max := by
  unfold validCapacity
  rw [U64.any_checkedMul _ _ _ fun h => U64.lt_size_of_le (of_decide_eq_true h)]
  simp only [Bool.and_eq_true, decide_eq_true_eq]

/-- A valid claim has a positive capacity which fits a signed column. -/
theorem capacity_of_isValid {binding : WorkspaceHomeVolumeBinding}
    (h : binding.isValid = true) :
    0 < binding.capacityGib ∧ (binding.capacityGib : ℤ) ≤ I64.max := by
  have hcap : validCapacity binding.capacityGib = true := by
    simp only [isValid, Bool.and_eq_true] at h
    exact h.2
  obtain ⟨hpos, hle⟩ := validCapacity_iff.1 hcap
  refine ⟨hpos, le_trans ?_ hle⟩
  have : binding.capacityGib ≤ binding.capacityGib * gib :=
    Nat.le_mul_of_pos_right _ gib_pos
  exact_mod_cast this

end WorkspaceHomeVolumeBinding

/-! ### Errors of the store -/

/-- `quota::QuotaError`. -/
inductive QuotaError
  | overflow
  | exceeded (resource : String) (requested limit : ℕ)
deriving DecidableEq

/-- The errors of the modelled store functions; `database` is a failing statement or connection. -/
inductive StorageError
  | database (text : String)
  | json
  | emptyLeaseOwner
  | leaseDurationOverflow
  | leaseNotOwned (job : Uuid)
  | unknownWorkspaceState (state : String)
  | workspaceNotFound
  | workspaceStorageShrinkConflict
  | invalidWorkspaceStorageShrink
  | invalidWorkspace
  | invalidCpuOvercommitRatio
  | workspaceCpuOvercommitUpdateConflict
  | invalidWorkspaceHomePvc
  | workspaceHomePvcUpdateConflict
  | workspaceHomePvcInUse
  | imageNotAllowed
  | invalidWorkspaceImageUpdate
  | workspaceImageUpdateConflict
  | invalidWorkspaceTemporaryStorage
  | workspaceTemporaryStorageUpdateConflict
  | invalidNodePool
  | nodePoolNotFound
  | nodePoolUnavailable
  | nodePoolNotAllowed
  | nodePoolInUse
  | workspacePlacementUpdateConflict
  | templateNotFound
  | invalidTemplate
  | privilegedTemplateForbidden
  | templateMustBeDisabled
  | templateInUse
  | invalidWorkspaceInjectionRefs
  | invalidEncryptedInjection
  | invalidInjectionLock
  | tokenTooShort
  | userNotFound
  | invalidUserProfile
  | organizationNotFound
  | invalidOrganizationMembership
  | organizationInUse
  | invalidTicketTtl
  | randomSource
  | invalidApiKey
  | invalidApiKeyQuery
  | invalidEvent
  | invalidWebhook
  | invalidPortMappingPort
  | invalidPortMappingDisplayName
  | portMappingNotFound
  | invalidIdempotencyKey
  | idempotencyReservationLost
  | invalidPluginConfiguration
  | pluginConfigurationVersionConflict
  | pluginInspectionNotFound
  | pluginInspectionExpired
  | pluginDigestMismatch
  | pluginPackageVersionConflict
  | pluginCapabilityNotApproved
  | pluginCapacityExceeded
  | apiKeyNotFound
  | lastApiKey
  | tooManyApiKeys
  | lastSystemAdmin
  | lastOrganizationAdmin
  | quota (error : QuotaError)
  | transition (error : TransitionError)
deriving DecidableEq

/-- The text of an error, which is what a failed job records of it. -/
def StorageError.message : StorageError → String
  | database text => text
  | json => "invalid type, expected a map"
  | emptyLeaseOwner => "lease owner must not be empty"
  | leaseDurationOverflow => "lease duration overflowed"
  | leaseNotOwned job => "job " ++ job.text ++ " is not leased by this owner"
  | unknownWorkspaceState state => "database contains unknown workspace state " ++ state
  | workspaceNotFound => "workspace was not found"
  | workspaceStorageShrinkConflict =>
    "workspace has an active storage migration; retry after it finishes"
  | invalidWorkspaceStorageShrink =>
    "at least one storage target must be positive, smaller than the current capacity, " ++
      "and larger than measured usage"
  | invalidWorkspace => "workspace name and image must not be empty"
  | invalidCpuOvercommitRatio => "CPU overcommit ratio must be between 1 and 1000"
  | workspaceCpuOvercommitUpdateConflict =>
    "workspace must be stopped at the expected generation before CPU overcommit can change"
  | invalidWorkspaceHomePvc => "Home PVC binding name, UID, or capacity is invalid"
  | workspaceHomePvcUpdateConflict =>
    "Home PVC binding requires a stopped workspace or verified Ready adoption at the " ++
      "expected generation"
  | workspaceHomePvcInUse => "Home PVC is already reserved or referenced by another workspace"
  | imageNotAllowed => "workspace image is not enabled by the image allowlist"
  | invalidWorkspaceImageUpdate =>
    "workspace image must be an exact image reference pinned to a lowercase sha256 digest"
  | workspaceImageUpdateConflict =>
    "workspace image can only be changed while stopped and at the expected generation"
  | invalidWorkspaceTemporaryStorage =>
    "workspace temporary storage must be between 1 and 2048 GiB"
  | workspaceTemporaryStorageUpdateConflict =>
    "workspace temporary storage can only be changed while stopped and at the expected " ++
      "generation"
  | invalidNodePool => "node pool is invalid"
  | nodePoolNotFound => "node pool was not found"
  | nodePoolUnavailable => "node pool is disabled or unavailable"
  | nodePoolNotAllowed => "node pool is not allowed by the workspace template"
  | nodePoolInUse => "node pool is enabled or still referenced"
  | workspacePlacementUpdateConflict =>
    "workspace placement can only be changed while stopped and at the expected generation"
  | templateNotFound => "workspace template was not found or is disabled"
  | invalidTemplate => "workspace template is invalid"
  | privilegedTemplateForbidden => "cluster-access templates require a system administrator"
  | templateMustBeDisabled => "workspace template must be disabled before deletion"
  | templateInUse => "workspace template is referenced by one or more workspaces"
  | invalidWorkspaceInjectionRefs => "workspace injection references are invalid or duplicated"
  | invalidEncryptedInjection => "database contains invalid encrypted injection data"
  | invalidInjectionLock => "only organization-scoped injections may be locked"
  | tokenTooShort => "API tokens must contain at least 32 bytes"
  | invalidUserProfile => "display name or avatar upload is invalid"
  | organizationNotFound => "organization was not found"
  | invalidOrganizationMembership => "organization membership role is invalid"
  | organizationInUse => "organization still has dependent workspaces or templates"
  | invalidTicketTtl => "web shell ticket lifetime must be between 1 and 300 seconds"
  | randomSource => "secure random number generation failed"
  | userNotFound => "authenticated user was not found"
  | invalidApiKey => "API key name, scopes, or expiration is invalid"
  | invalidApiKeyQuery => "API key pagination query is invalid"
  | invalidEvent => "event is invalid"
  | invalidWebhook => "webhook URL, event prefix, or signing secret is invalid"
  | invalidPortMappingPort => "workspace HTTP port must be allowed and between 1 and 65535"
  | invalidPortMappingDisplayName => "workspace port mapping display name is invalid"
  | portMappingNotFound => "workspace port mapping was not found"
  | invalidIdempotencyKey => "idempotency scope and key must be non-empty and at most 255 bytes"
  | idempotencyReservationLost => "idempotency reservation is no longer owned by this request"
  | invalidPluginConfiguration => "plugin configuration is invalid"
  | pluginConfigurationVersionConflict => "plugin configuration version changed"
  | pluginInspectionNotFound => "plugin install inspection was not found"
  | pluginInspectionExpired => "plugin install inspection expired"
  | pluginDigestMismatch => "plugin package digest does not match"
  | pluginPackageVersionConflict => "plugin package version changed"
  | pluginCapabilityNotApproved => "plugin capability was not declared or approved"
  | pluginCapacityExceeded => "plugin storage capacity was reached"
  | apiKeyNotFound => "API key was not found"
  | lastApiKey => "the last active API key cannot be revoked"
  | tooManyApiKeys => "a user may have at most 20 active API keys"
  | lastSystemAdmin => "the last active system administrator cannot be disabled or demoted"
  | lastOrganizationAdmin => "the last organization administrator cannot be demoted or removed"
  | quota .overflow => "resource total overflowed"
  | quota (.exceeded resource requested limit) => "quota exceeded for " ++ resource ++
      ": requested " ++ toString requested ++ ", limit " ++ toString limit
  | transition error => "workspace operation " ++ error.operation ++
      " is invalid while state is " ++ error.state.debug

/-! ### Databases -/

/-- The databases that the program runs on. -/
inductive Backend
  | sqlite
  | postgres

end WorkspaceControl
