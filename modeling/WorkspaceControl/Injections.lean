/-
**Injections: items, selection and the cascade of scopes.**

`src/src/injections/`: an injection puts an environment variable or a file into a workspace.  Items
belong to an organization, to a user or to a workspace.  The items that match a workspace are
selected, the optional references narrow the first two scopes, and the three lists are resolved so
that a more specific scope replaces a less specific one at the same destination, except where an
organization has locked it.

Main definitions:

* `InjectionItem`, `validateInjectionItem` — an item, and the checks of one item.  The Unicode
  table, the parser of public keys and the parser of UUID texts are not part of the source:
  `InjectionChecks` stands for them;
* `selectInjections`, `filterInjectionRefs` — the selection;
* `applyScope`, `resolveInjections` — the cascade;
* `InjectionSources` — the three lists together; `InjectionSources.Conflict` — when they cannot be
  resolved.

Main results:

* `applyScope_eq_ok` — a scope is applied when its items are admissible, and then it overlays them;
* `resolution_characterised` — **which sources have a resolution, what it contains, that it does
  not depend on an order, and that no reference removes a locked item**;
* `locked_file_kept` — **a locked file stays the only item at its path exactly if no other item
  spells that path in another way**.
-/
import Mathlib.Data.Option.Basic
import Mathlib.Data.List.Perm.Lattice
import WorkspaceControl.ByteText
import WorkspaceControl.Overlay
import WorkspaceControl.Template

set_option autoImplicit false

namespace WorkspaceControl

open ByteText Fallible Std

/-! ### Items -/

inductive InjectionScope
  | organization
  | user
  | workspace
deriving DecidableEq, Repr

inductive InjectionKind
  | environmentVariable
  | secretFile
  | configFile
  | sshPublicKey
deriving DecidableEq, Repr

inductive InjectionValue
  | utf8 (text : String)
  | base64 (text : String)
deriving DecidableEq

structure InjectionItem where
  key : String
  kind : InjectionKind
  target : String
  value : InjectionValue
  sensitive : Bool
  locked : Bool
  version : ℕ
  fileMode : Option ℕ
  owner : Option String
  group : Option String
  templateSelector : Option String
  labels : List (String × String)
deriving DecidableEq

/-- An item with the scope it comes from. -/
structure ResolvedInjection where
  source : InjectionScope
  item : InjectionItem
deriving DecidableEq

inductive InjectionError
  | emptyKey
  | invalidKey
  | invalidTarget
  | invalidFileMode
  | invalidOwnerOrGroup
  | invalidTemplateSelector
  | invalidLabelSelector
  | invalidBase64
  | invalidEnvironmentValue
  | invalidSshPublicKey
  | duplicateInScope (key : String) (scope : InjectionScope)
  | duplicateDestinationInScope (kind : InjectionKind) (target : String) (scope : InjectionScope)
  | lockOutsideOrganization (key : String) (scope : InjectionScope)
  | lockedOverride (key : String) (kind : InjectionKind) (target : String)
      (attemptedScope : InjectionScope)
deriving DecidableEq

namespace InjectionScope

def fromDatabase (value : String) : Option InjectionScope :=
  if value = "organization" then some organization
  else if value = "user" then some user
  else if value = "workspace" then some workspace
  else none

/-- The order of the declaration: a later scope is more specific. -/
def rank : InjectionScope → ℕ
  | organization => 0
  | user => 1
  | workspace => 2

end InjectionScope

/-- The bytes of a value. -/
def InjectionValue.bytes : InjectionValue → Option Bytes
  | utf8 text => some (Utf8.encode text)
  | base64 text => Base64.decode text

/-! ### Validation -/

/-- The checks that are made outside the source: `char::is_alphanumeric`, an OpenSSH public key
and `Uuid::parse_str`. -/
structure InjectionChecks where
  alphanumeric : Char → Bool
  alphanumeric_slash : alphanumeric '/' = false
  publicKey : List Char → Bool
  uuidText : String → Bool

def isAlphabetic (c : Char) : Bool := ('a' ≤ c && c ≤ 'z') || ('A' ≤ c && c ≤ 'Z')

/-- A safe local account name. -/
def validAccountName (name : List Char) : Bool :=
  !name.isEmpty && Text.len name ≤ 64 && name.head? ≠ some '-' &&
    name.all fun c => Text.isAlphanumeric c || c = '_' || c = '-'

def validLabelSelector (label : String × String) : Bool :=
  !label.1.toList.isEmpty && Text.len label.1.toList ≤ 128 && !label.2.toList.isEmpty &&
    Text.len label.2.toList ≤ 512 && !label.1.toList.any Text.isWhitespace

def validateInjectionKey (checks : InjectionChecks) (key : String) : Except InjectionError Unit :=
  ensure (Text.trim key.toList = key.toList && !key.toList.isEmpty && key.toList.length ≤ 128 &&
    key.toList.all fun c => checks.alphanumeric c || " ._-".toList.contains c) .invalidKey

def validateEnvironmentTarget (target : String) : Except InjectionError Unit :=
  match target.toList with
  | [] => .error .invalidTarget
  | first :: rest =>
    ensure ((first = '_' || isAlphabetic first) &&
      rest.all fun c => c = '_' || Text.isAlphanumeric c) .invalidTarget

def validateEnvironmentValue (value : InjectionValue) : Except InjectionError Unit := do
  let bytes ← okOr value.bytes .invalidBase64
  let text ← okOr (Utf8.decode bytes) .invalidEnvironmentValue
  ensure (!text.toList.any Text.isControl) .invalidEnvironmentValue

def validateFileTarget (target : String) : Except InjectionError Unit :=
  ensure (target.toList.head? = some '/' && !target.toList.contains (Char.ofNat 0) &&
    !(Text.split '/' target.toList).contains ['.', '.']) .invalidTarget

/-- What the kind of an item asks of its target and value. -/
def validateKind (checks : InjectionChecks) (item : InjectionItem) : Except InjectionError Unit :=
  match item.kind with
  | .environmentVariable => do
    validateEnvironmentTarget item.target
    validateEnvironmentValue item.value
  | .secretFile | .configFile => validateFileTarget item.target
  | .sshPublicKey => do
    validateFileTarget item.target
    match item.value with
    | .utf8 text => ensure (checks.publicKey (Text.trim text.toList)) .invalidSshPublicKey
    | .base64 _ => throw .invalidSshPublicKey

def validateInjectionItem (checks : InjectionChecks) (item : InjectionItem) :
    Except InjectionError Unit := do
  validateInjectionKey checks item.key
  ensure (item.fileMode.all fun mode => mode ≤ 0o777) .invalidFileMode
  ensure ([item.owner, item.group].all fun name => name.all fun n => validAccountName n.toList)
    .invalidOwnerOrGroup
  ensure (item.templateSelector.all fun selector => selector = "*" || checks.uuidText selector)
    .invalidTemplateSelector
  ensure (item.labels.all validLabelSelector) .invalidLabelSelector
  validateKind checks item
  match item.value with
  | .utf8 _ => pure ()
  | .base64 text => ensure (Base64.decode text).isSome .invalidBase64

/-! ### Selection -/

def AccessMode.asStr : AccessMode → String
  | internal => "internal"
  | «public» => "public"

/-- The workspace that items are selected for. -/
structure InjectionSelection where
  workspaceId : Option Uuid
  organizationId : Uuid
  ownerId : Uuid
  templateId : Option Uuid
  image : String
  accessMode : AccessMode

/-- `selection_label`. -/
def InjectionSelection.label (selection : InjectionSelection) (key : String) : Option String :=
  if key = "workspace_id" then selection.workspaceId.map Uuid.text
  else if key = "organization_id" then some selection.organizationId.text
  else if key = "owner_id" then some selection.ownerId.text
  else if key = "template_id" then selection.templateId.map Uuid.text
  else if key = "image" then some selection.image
  else if key = "access_mode" then some selection.accessMode.asStr
  else none

def injectionMatches (item : InjectionItem) (selection : InjectionSelection) : Bool :=
  (item.templateSelector.all fun selector =>
    selector = "*" || selection.templateId.any fun id => selector = id.text) &&
  item.labels.all fun (key, expected) => selection.label key = some expected

def selectInjections (items : List InjectionItem) (selection : InjectionSelection) :
    List InjectionItem :=
  items.filter fun item => injectionMatches item selection

def filterInjectionRefs (items : List InjectionItem) (refs : Option (List String))
    (includeLocked : Bool) : List InjectionItem :=
  match refs with
  | none => items
  | some refs => items.filter fun item => includeLocked && item.locked || refs.contains item.key

/-- `storage::WorkspaceInjectionRefs`: the items that a workspace refers to; all of them when a
list is absent. -/
structure WorkspaceInjectionRefs where
  organization : Option (List String)
  user : Option (List String)

/-! ### The cascade -/

inductive InjectionDestinationKind
  | environment
  | file
deriving DecidableEq, Ord

/-- Where an item ends up. -/
structure InjectionDestination where
  kind : InjectionDestinationKind
  target : String
deriving DecidableEq

def destinationKind : InjectionKind → InjectionDestinationKind
  | .environmentVariable => .environment
  | .secretFile | .configFile | .sshPublicKey => .file

def InjectionItem.destination (item : InjectionItem) : InjectionDestination :=
  ⟨destinationKind item.kind, item.target⟩

def ResolvedInjection.destination (resolved : ResolvedInjection) : InjectionDestination :=
  resolved.item.destination

instance : TransOrd InjectionDestinationKind where
  eq_swap {a b} := by cases a <;> cases b <;> decide
  isLE_trans {a b c} := by cases a <;> cases b <;> cases c <;> decide

instance : LawfulEqOrd InjectionDestinationKind where
  compare_self {a} := by cases a <;> decide
  eq_of_compare {a b} := by cases a <;> cases b <;> decide

/-- The order of the pair of kind and target. -/
instance : Ord InjectionDestination where
  compare := compareLex (compareOn InjectionDestination.kind)
    (compareOn InjectionDestination.target)

instance : TransOrd InjectionDestination :=
  inferInstanceAs (TransCmp (compareLex (compareOn InjectionDestination.kind)
    (compareOn InjectionDestination.target)))

instance : LawfulEqOrd InjectionDestination where
  compare_self := ReflCmp.compare_self
  eq_of_compare {a b} h := by
    obtain ⟨hkind, htarget⟩ := compareLex_eq_eq.1 h
    cases a
    cases b
    cases LawfulEqOrd.eq_of_compare hkind
    cases LawfulEqOrd.eq_of_compare htarget
    rfl

/-- The items resolved so far, by destination. -/
abbrev ResolvedMap : Type := ExtTreeMap InjectionDestination ResolvedInjection

/-- A locked item is not overridden. -/
def checkOverride (scope : InjectionScope) (item : InjectionItem) :
    Option ResolvedInjection → Except InjectionError Unit
  | some existing =>
    ensure (!existing.item.locked)
      (.lockedOverride existing.item.key item.kind item.target scope)
  | none => pure ()

/-- The checks of one item against what its scope and the scopes before it hold. -/
def checkScopeItem (scope : InjectionScope) (seenKeys : List String)
    (seenDestinations : List InjectionDestination) (resolved : ResolvedMap)
    (item : InjectionItem) : Except InjectionError Unit := do
  ensure (item.key ≠ "") .emptyKey
  ensure (!(item.locked && scope ≠ .organization)) (.lockOutsideOrganization item.key scope)
  ensure (!seenKeys.contains item.key) (.duplicateInScope item.key scope)
  ensure (!seenDestinations.contains item.destination)
    (.duplicateDestinationInScope item.kind item.target scope)
  checkOverride scope item resolved[item.destination]?

def applyScope (scope : InjectionScope) (seenKeys : List String)
    (seenDestinations : List InjectionDestination) (resolved : ResolvedMap) :
    List InjectionItem → Except InjectionError ResolvedMap
  | [] => pure resolved
  | item :: rest => do
    checkScopeItem scope seenKeys seenDestinations resolved item
    applyScope scope (item.key :: seenKeys) (item.destination :: seenDestinations)
      (resolved.insert item.destination ⟨scope, item⟩) rest

def resolveInjections (organization user workspace : List InjectionItem) :
    Except InjectionError (List ResolvedInjection) := do
  let resolved ← applyScope .organization [] [] ∅ organization
  let resolved ← applyScope .user [] [] resolved user
  let resolved ← applyScope .workspace [] [] resolved workspace
  pure (Overlay.values resolved)

/-! ### One scope -/

/-- A scope written over the map. -/
def overlay (scope : InjectionScope) (items : List InjectionItem) (resolved : ResolvedMap) :
    ResolvedMap :=
  Overlay.write ResolvedInjection.destination (items.map (ResolvedInjection.mk scope)) resolved

variable {item : InjectionItem} {resolved : ResolvedMap} {scope : InjectionScope}
  {seenDestinations : List InjectionDestination} {seenKeys : List String}

theorem overlay_cons {items : List InjectionItem} :
    overlay scope (item :: items) resolved
      = overlay scope items (resolved.insert item.destination ⟨scope, item⟩) := rfl

theorem map_destination_mk (scope : InjectionScope) (items : List InjectionItem) :
    (items.map (ResolvedInjection.mk scope)).map ResolvedInjection.destination
      = items.map InjectionItem.destination := by
  rw [List.map_map]
  rfl

/-- What an item must satisfy on its own and against the scopes before its own. -/
structure Admissible (scope : InjectionScope) (resolved : ResolvedMap) (item : InjectionItem) :
    Prop where
  key : item.key ≠ ""
  lock : item.locked = true → scope = .organization
  unlocked : ∀ x, resolved[item.destination]? = some x → x.item.locked = false

theorem checkOverride_eq_ok {existing : Option ResolvedInjection} {u : Unit} :
    checkOverride scope item existing = .ok u ↔
      ∀ x, existing = some x → x.item.locked = false := by
  cases existing <;> simp [checkOverride]

theorem checkScopeItem_eq_ok :
    checkScopeItem scope seenKeys seenDestinations resolved item = .ok () ↔
      Admissible scope resolved item ∧ item.key ∉ seenKeys ∧
        item.destination ∉ seenDestinations := by
  simp only [checkScopeItem, ensure_bind_eq_ok, checkOverride_eq_ok]
  simp only [ne_eq, decide_eq_true_eq, decide_not, Bool.not_eq_true', List.contains_eq_mem,
    decide_eq_false_iff_not, Bool.and_eq_false_iff, Bool.not_eq_false']
  constructor
  · rintro ⟨hkey, hlock, hkeys, hdestinations, hunlocked⟩
    refine ⟨⟨hkey, fun hlocked => ?_, hunlocked⟩, hkeys, hdestinations⟩
    exact hlock.resolve_left (by simp [hlocked])
  · rintro ⟨hitem, hkeys, hdestinations⟩
    refine ⟨hitem.key, ?_, hkeys, hdestinations, hitem.unlocked⟩
    cases hlocked : item.locked with
    | true => exact .inr (hitem.lock hlocked)
    | false => exact .inl rfl

/-- A scope is applied when its items are admissible and distinct, and then it overlays them. -/
theorem applyScope_eq_ok {items : List InjectionItem} {resolved' : ResolvedMap} :
    applyScope scope seenKeys seenDestinations resolved items = .ok resolved' ↔
      (∀ item ∈ items, Admissible scope resolved item ∧ item.key ∉ seenKeys ∧
          item.destination ∉ seenDestinations) ∧
        (items.map InjectionItem.key).Nodup ∧ (items.map InjectionItem.destination).Nodup ∧
        resolved' = overlay scope items resolved := by
  induction items generalizing seenKeys seenDestinations resolved with
  | nil =>
    simp only [applyScope, pure_eq_ok, overlay, List.map_nil, Overlay.write_nil,
      List.not_mem_nil, false_implies, implies_true, List.nodup_nil, true_and]
    exact eq_comm
  | cons item rest ih =>
    rw [applyScope, bind_eq_ok, overlay_cons]
    simp only [List.forall_mem_cons, List.map_cons, List.nodup_cons]
    -- the items after `item` are elsewhere, so that its insertion does not change their check
    have hmoved : ∀ other : InjectionItem, other.destination ≠ item.destination →
        (Admissible scope (resolved.insert item.destination ⟨scope, item⟩) other ↔
          Admissible scope resolved other) := by
      intro other hne
      have hget : (resolved.insert item.destination ⟨scope, item⟩)[other.destination]?
          = resolved[other.destination]? := by
        rw [ExtTreeMap.getElem?_insert, if_neg]
        exact fun heq => hne (LawfulEqOrd.eq_of_compare heq).symm
      constructor
      · exact fun h => ⟨h.key, h.lock, fun x hx => h.unlocked x (hget.trans hx)⟩
      · exact fun h => ⟨h.key, h.lock, fun x hx => h.unlocked x (hget.symm.trans hx)⟩
    constructor
    · rintro ⟨⟨⟩, hitem, hrest⟩
      obtain ⟨hothers, hkeys, hdestinations, rfl⟩ := ih.1 hrest
      refine ⟨⟨checkScopeItem_eq_ok.1 hitem, fun other hother => ?_⟩, ⟨?_, hkeys⟩,
        ⟨?_, hdestinations⟩, rfl⟩
      · obtain ⟨hadmissible, hkey, hdestination⟩ := hothers other hother
        rw [List.mem_cons, not_or] at hkey hdestination
        exact ⟨(hmoved other hdestination.1).1 hadmissible, hkey.2, hdestination.2⟩
      · intro hmem
        obtain ⟨other, hother, heq⟩ := List.mem_map.1 hmem
        exact (hothers other hother).2.1 (heq ▸ List.mem_cons_self)
      · intro hmem
        obtain ⟨other, hother, heq⟩ := List.mem_map.1 hmem
        exact (hothers other hother).2.2 (heq ▸ List.mem_cons_self)
    · rintro ⟨⟨hitem, hothers⟩, ⟨hkey, hkeys⟩, ⟨hdestination, hdestinations⟩, rfl⟩
      refine ⟨(), checkScopeItem_eq_ok.2 hitem, ih.2 ⟨fun other hother => ?_, hkeys,
        hdestinations, rfl⟩⟩
      obtain ⟨hadmissible, hfreshKey, hfreshDestination⟩ := hothers other hother
      have hne : other.destination ≠ item.destination :=
        fun heq => hdestination (heq ▸ List.mem_map_of_mem hother)
      have hneKey : other.key ≠ item.key := fun heq => hkey (heq ▸ List.mem_map_of_mem hother)
      refine ⟨(hmoved other hne).2 hadmissible, ?_, ?_⟩
      · simp [hneKey, hfreshKey]
      · simp [hne, hfreshDestination]

theorem wellKeyed_overlay {items : List InjectionItem}
    (h : Overlay.WellKeyed ResolvedInjection.destination resolved) :
    Overlay.WellKeyed ResolvedInjection.destination (overlay scope items resolved) := h.write

theorem getElem?_overlay_eq_some {items : List InjectionItem}
    (hnodup : (items.map InjectionItem.destination).Nodup) {x : ResolvedInjection} :
    (overlay scope items resolved)[x.destination]? = some x ↔
      x.source = scope ∧ x.item ∈ items ∨
        (∀ i ∈ items, i.destination ≠ x.destination) ∧ resolved[x.destination]? = some x := by
  rw [overlay, Overlay.getElem?_write_eq_some (by rw [map_destination_mk]; exact hnodup)]
  have hmem : x ∈ items.map (ResolvedInjection.mk scope) ↔ x.source = scope ∧ x.item ∈ items := by
    rw [List.mem_map]
    constructor
    · rintro ⟨i, hi, rfl⟩
      exact ⟨rfl, hi⟩
    · rintro ⟨rfl, hi⟩
      exact ⟨x.item, hi, rfl⟩
  rw [hmem, List.forall_mem_map]
  rfl

/-! ### The three scopes -/

/-- The items of the three scopes. -/
structure InjectionSources where
  organization : List InjectionItem
  user : List InjectionItem
  workspace : List InjectionItem

namespace InjectionSources

def items (sources : InjectionSources) : InjectionScope → List InjectionItem
  | .organization => sources.organization
  | .user => sources.user
  | .workspace => sources.workspace

def resolve (sources : InjectionSources) : Except InjectionError (List ResolvedInjection) :=
  resolveInjections sources.organization sources.user sources.workspace

/-- The selection of `resolve_workspace_injections`: references never leave out a locked item of
the organization, and they do not concern the workspace's own items. -/
def select (sources : InjectionSources) (selection : InjectionSelection)
    (refs : WorkspaceInjectionRefs) : InjectionSources where
  organization :=
    filterInjectionRefs (selectInjections sources.organization selection) refs.organization true
  user := filterInjectionRefs (selectInjections sources.user selection) refs.user false
  workspace := selectInjections sources.workspace selection

/-- What the store guarantees: keys are distinct and not empty, and only an organization locks. -/
structure Stored (sources : InjectionSources) : Prop where
  keys : ∀ scope, ((sources.items scope).map InjectionItem.key).Nodup
  nonempty : ∀ scope, ∀ item ∈ sources.items scope, item.key ≠ ""
  locks : ∀ scope, ∀ item ∈ sources.items scope, item.locked = true → scope = .organization

/-- Two items of one scope have the same destination, or an item of a more specific scope has the
destination of a locked one. -/
def Conflict (sources : InjectionSources) : Prop :=
  (∃ scope, ∃ i ∈ sources.items scope, ∃ j ∈ sources.items scope,
      i ≠ j ∧ i.destination = j.destination) ∨
    ∃ scope, scope ≠ .organization ∧ ∃ i ∈ sources.items scope, ∃ o ∈ sources.organization,
      o.locked = true ∧ o.destination = i.destination

/-- No two items of one scope have the same destination. -/
def Separate (sources : InjectionSources) : Prop :=
  ∀ scope, ((sources.items scope).map InjectionItem.destination).Nodup

/-- No item of a more specific scope has the destination of a locked one. -/
def RespectsLocks (sources : InjectionSources) : Prop :=
  ∀ scope, scope ≠ .organization → ∀ i ∈ sources.items scope, ∀ o ∈ sources.organization,
    o.destination = i.destination → o.locked = false

/-- The scopes written over each other. -/
def cascade (sources : InjectionSources) : ResolvedMap :=
  overlay .workspace sources.workspace
    (overlay .user sources.user (overlay .organization sources.organization ∅))

variable {sources : InjectionSources}

theorem wellKeyed_cascade (sources : InjectionSources) :
    Overlay.WellKeyed ResolvedInjection.destination sources.cascade :=
  wellKeyed_overlay (wellKeyed_overlay (wellKeyed_overlay Overlay.WellKeyed.empty))

variable {d : InjectionDestination} {o : InjectionItem} {r : List ResolvedInjection}
  {scope : InjectionScope} {x : ResolvedInjection}

/-- The items of the organization that are found at a destination. -/
theorem getElem?_organization (hsep : sources.Separate) :
    (overlay .organization sources.organization ∅)[x.destination]? = some x ↔
      x.source = .organization ∧ x.item ∈ sources.organization := by
  refine (getElem?_overlay_eq_some (hsep .organization)).trans ?_
  simp [items]

theorem getElem?_user (hsep : sources.Separate) :
    (overlay .user sources.user resolved)[x.destination]? = some x ↔
      x.source = .user ∧ x.item ∈ sources.user ∨
        (∀ i ∈ sources.user, i.destination ≠ x.destination) ∧
          resolved[x.destination]? = some x := getElem?_overlay_eq_some (hsep .user)

theorem getElem?_workspace (hsep : sources.Separate) :
    (overlay .workspace sources.workspace resolved)[x.destination]? = some x ↔
      x.source = .workspace ∧ x.item ∈ sources.workspace ∨
        (∀ i ∈ sources.workspace, i.destination ≠ x.destination) ∧
          resolved[x.destination]? = some x := getElem?_overlay_eq_some (hsep .workspace)

/-- No locked item is found where the items of a scope go. -/
theorem unlocked_organization_iff (hsep : sources.Separate) :
    (∀ x, (overlay .organization sources.organization ∅)[d]? = some x → x.item.locked = false) ↔
      ∀ o ∈ sources.organization, o.destination = d → o.locked = false := by
  constructor
  · rintro h o ho rfl
    exact h _ ((getElem?_organization (x := ⟨.organization, o⟩) hsep).2 ⟨rfl, ho⟩)
  · intro h x hx
    have hkey := wellKeyed_overlay Overlay.WellKeyed.empty d x hx
    subst hkey
    exact h x.item ((getElem?_organization hsep).1 hx).2 rfl

/-- The same after the user's items were written, which are not locked. -/
theorem unlocked_user_iff (hsep : sources.Separate)
    (hunlocked : ∀ i ∈ sources.user, i.locked = false)
    (hrespect : ∀ i ∈ sources.user, ∀ o ∈ sources.organization, o.destination = i.destination →
      o.locked = false) :
    (∀ x, (overlay .user sources.user (overlay .organization sources.organization ∅))[d]?
        = some x → x.item.locked = false) ↔
      ∀ o ∈ sources.organization, o.destination = d → o.locked = false := by
  constructor
  · rintro h o ho rfl
    -- either a user's item already stands there, or the organization's item is found
    by_cases hany : ∃ i ∈ sources.user, i.destination = o.destination
    · obtain ⟨i, hi, hdest⟩ := hany
      exact hrespect i hi o ho hdest.symm
    · refine h _ ((getElem?_user (x := ⟨.organization, o⟩) hsep).2 (.inr ⟨?_, ?_⟩))
      · exact fun i hi hdest => hany ⟨i, hi, hdest⟩
      · exact (getElem?_organization hsep).2 ⟨rfl, ho⟩
  · intro h x hx
    have hkey := wellKeyed_overlay (wellKeyed_overlay Overlay.WellKeyed.empty) d x hx
    subst hkey
    rcases (getElem?_user hsep).1 hx with ⟨-, hmem⟩ | ⟨-, hget⟩
    · exact hunlocked x.item hmem
    · exact h x.item ((getElem?_organization hsep).1 hget).2 rfl

theorem Stored.unlocked (h : sources.Stored) (scope : InjectionScope)
    (hscope : scope ≠ .organization) {item : InjectionItem} (hitem : item ∈ sources.items scope) :
    item.locked = false := by
  cases hlocked : item.locked with
  | true => exact absurd (h.locks scope item hitem hlocked) hscope
  | false => rfl

/-- The cascade of stored items succeeds when they are separate and respect the locks. -/
theorem resolve_eq_ok (h : sources.Stored) :
    sources.resolve = .ok r ↔
      sources.Separate ∧ sources.RespectsLocks ∧ r = Overlay.values sources.cascade := by
  simp only [resolve, resolveInjections, bind_eq_ok, pure_eq_ok, applyScope_eq_ok,
    List.not_mem_nil, not_false_eq_true, and_true]
  constructor
  · rintro ⟨_, ⟨-, -, hdest₁, rfl⟩, _, ⟨huser, -, hdest₂, rfl⟩, _, ⟨hworkspace, -, hdest₃, rfl⟩,
      rfl⟩
    have hsep : sources.Separate := by
      intro scope
      cases scope with
      | organization => exact hdest₁
      | user => exact hdest₂
      | workspace => exact hdest₃
    have hrespectUser : ∀ i ∈ sources.user, ∀ o ∈ sources.organization,
        o.destination = i.destination → o.locked = false :=
      fun i hi => (unlocked_organization_iff hsep).1 (huser i hi).unlocked
    have hunlocked : ∀ i ∈ sources.user, i.locked = false :=
      fun i hi => h.unlocked .user (by decide) hi
    refine ⟨hsep, fun scope hscope => ?_, rfl⟩
    cases scope with
    | organization => exact absurd rfl hscope
    | user => exact hrespectUser
    | workspace =>
      exact fun i hi =>
        (unlocked_user_iff hsep hunlocked hrespectUser).1 (hworkspace i hi).unlocked
  · rintro ⟨hsep, hrespect, rfl⟩
    have hunlocked : ∀ i ∈ sources.user, i.locked = false :=
      fun i hi => h.unlocked .user (by decide) hi
    have hadmissible : ∀ (scope : InjectionScope) (resolved : ResolvedMap),
        (∀ i ∈ sources.items scope, ∀ x, resolved[i.destination]? = some x →
          x.item.locked = false) → ∀ i ∈ sources.items scope, Admissible scope resolved i :=
      fun scope resolved hfound i hi =>
        ⟨h.nonempty scope i hi, h.locks scope i hi, hfound i hi⟩
    refine ⟨_, ⟨hadmissible .organization ∅ ?_, h.keys .organization, hsep .organization, rfl⟩,
      _, ⟨hadmissible .user _ ?_, h.keys .user, hsep .user, rfl⟩,
      _, ⟨hadmissible .workspace _ ?_, h.keys .workspace, hsep .workspace, rfl⟩, rfl⟩
    · intro i _ x hx
      simp at hx
    · exact fun i hi => (unlocked_organization_iff hsep).2 (hrespect .user (by decide) i hi)
    · exact fun i hi => (unlocked_user_iff hsep hunlocked (hrespect .user (by decide))).2
        (hrespect .workspace (by decide) i hi)

/-- An item of the result is an item of its scope that no more specific scope replaces. -/
theorem mem_values_cascade (hsep : sources.Separate) :
    x ∈ Overlay.values sources.cascade ↔
      x.item ∈ sources.items x.source ∧
        ∀ scope, x.source.rank < scope.rank → ∀ i ∈ sources.items scope,
          i.destination ≠ x.destination := by
  rw [Overlay.mem_values (wellKeyed_cascade _), cascade, getElem?_workspace hsep, getElem?_user hsep,
    getElem?_organization hsep]
  obtain ⟨source, item⟩ := x
  constructor
  · rintro (⟨rfl, hitem⟩ | ⟨hworkspace, ⟨rfl, hitem⟩ | ⟨huser, rfl, hitem⟩⟩)
    · refine ⟨hitem, fun scope hrank => ?_⟩
      cases scope <;> simp [InjectionScope.rank] at hrank
    · refine ⟨hitem, fun scope hrank => ?_⟩
      cases scope with
      | workspace => exact hworkspace
      | organization | user => simp [InjectionScope.rank] at hrank
    · refine ⟨hitem, fun scope hrank => ?_⟩
      cases scope with
      | workspace => exact hworkspace
      | user => exact huser
      | organization => simp [InjectionScope.rank] at hrank
  · rintro ⟨hitem, hmore⟩
    cases source with
    | workspace => exact .inl ⟨rfl, hitem⟩
    | user =>
      exact .inr ⟨hmore .workspace (by simp [InjectionScope.rank]), .inl ⟨rfl, hitem⟩⟩
    | organization =>
      exact .inr ⟨hmore .workspace (by simp [InjectionScope.rank]),
        .inr ⟨hmore .user (by simp [InjectionScope.rank]), rfl, hitem⟩⟩

/-- A destination that some item uses is used in the result. -/
theorem exists_mem_values_cascade (hsep : sources.Separate) {i : InjectionItem}
    (hi : i ∈ sources.items scope) :
    ∃ x ∈ Overlay.values sources.cascade, x.destination = i.destination := by
  -- the item itself, unless a more specific scope has one there
  have hstep : ∀ n scope (i : InjectionItem), i ∈ sources.items scope → 2 - scope.rank ≤ n →
      ∃ x ∈ Overlay.values sources.cascade, x.destination = i.destination := by
    intro n
    induction n with
    | zero =>
      intro scope i hi hn
      refine ⟨⟨scope, i⟩, (mem_values_cascade hsep).2 ⟨hi, fun other hrank => ?_⟩, rfl⟩
      cases scope <;> cases other <;> simp [InjectionScope.rank] at hrank hn
    | succ n ih =>
      intro scope i hi hn
      by_cases hmore : ∃ other, scope.rank < other.rank ∧
          ∃ j ∈ sources.items other, j.destination = i.destination
      · obtain ⟨other, hrank, j, hj, hdest⟩ := hmore
        obtain ⟨x, hx, hxdest⟩ := ih other j hj (by omega)
        exact ⟨x, hx, hxdest.trans hdest⟩
      · refine ⟨⟨scope, i⟩, (mem_values_cascade hsep).2 ⟨hi, fun other hrank j hj => ?_⟩, rfl⟩
        exact fun hdest => hmore ⟨other, hrank, j, hj, hdest⟩
  exact hstep _ scope i hi le_rfl

theorem locked_mem_of_resolve (h : sources.Stored) (hr : sources.resolve = .ok r)
    (ho : o ∈ sources.organization) (hlocked : o.locked = true) : ⟨.organization, o⟩ ∈ r := by
  obtain ⟨hsep, hrespect, rfl⟩ := (resolve_eq_ok h).1 hr
  refine (mem_values_cascade hsep).2 ⟨ho, fun scope hrank i hi hdest => ?_⟩
  have hscope : scope ≠ .organization := by
    rintro rfl
    exact absurd hrank (lt_irrefl _)
  rw [hrespect scope hscope i hi o ho hdest.symm] at hlocked
  exact Bool.noConfusion hlocked

/-- Sources without a conflict are those that are separate and respect the locks. -/
theorem not_conflict_iff (h : sources.Stored) :
    ¬ sources.Conflict ↔ sources.Separate ∧ sources.RespectsLocks := by
  have hitems : ∀ scope, (sources.items scope).Nodup := fun scope => (h.keys scope).of_map
  constructor
  · intro hno
    refine ⟨fun scope => (List.nodup_map_iff_inj_on (hitems scope)).2 ?_, ?_⟩
    · intro i hi j hj heq
      by_contra hne
      exact hno (.inl ⟨scope, i, hi, j, hj, hne, heq⟩)
    · intro scope hscope i hi o ho heq
      cases hlocked : o.locked with
      | true => exact absurd (.inr ⟨scope, hscope, i, hi, o, ho, hlocked, heq⟩) hno
      | false => rfl
  · rintro ⟨hsep, hrespect⟩ (⟨scope, i, hi, j, hj, hne, heq⟩ | ⟨scope, hscope, i, hi, o, ho,
      hlocked, heq⟩)
    · exact hne ((List.nodup_map_iff_inj_on (hitems scope)).1 (hsep scope) i hi j hj heq)
    · rw [hrespect scope hscope i hi o ho heq] at hlocked
      exact Bool.noConfusion hlocked

/-! ### Orders and selections -/

/-- The same items in another order. -/
def Permuted (sources sources' : InjectionSources) : Prop :=
  ∀ scope, (sources.items scope).Perm (sources'.items scope)

variable {sources' : InjectionSources}

theorem Permuted.symm (h : sources.Permuted sources') : sources'.Permuted sources :=
  fun scope => (h scope).symm

theorem Stored.permuted (h : sources.Stored) (hp : sources.Permuted sources') :
    sources'.Stored where
  keys scope := ((hp scope).map _).nodup (h.keys scope)
  nonempty scope item hitem := h.nonempty scope item ((hp scope).mem_iff.2 hitem)
  locks scope item hitem := h.locks scope item ((hp scope).mem_iff.2 hitem)

theorem overlay_perm {items items' : List InjectionItem} (h : items.Perm items')
    (hnodup : (items.map InjectionItem.destination).Nodup) :
    overlay scope items resolved = overlay scope items' resolved := by
  refine Overlay.write_perm ?_ (h.map _)
  rw [map_destination_mk]
  exact hnodup

theorem cascade_permuted (hsep : sources.Separate) (hp : sources.Permuted sources') :
    sources.cascade = sources'.cascade := by
  have horganization : sources.organization.Perm sources'.organization := hp .organization
  have huser : sources.user.Perm sources'.user := hp .user
  have hworkspace : sources.workspace.Perm sources'.workspace := hp .workspace
  rw [cascade, cascade, overlay_perm horganization (hsep .organization),
    overlay_perm huser (hsep .user), overlay_perm hworkspace (hsep .workspace)]

theorem resolve_of_permuted (h : sources.Stored) (hp : sources.Permuted sources')
    (hr : sources.resolve = .ok r) : sources'.resolve = .ok r := by
  obtain ⟨hsep, hrespect, rfl⟩ := (resolve_eq_ok h).1 hr
  refine (resolve_eq_ok (h.permuted hp)).2 ⟨?_, ?_, ?_⟩
  · exact fun scope => ((hp scope).map _).nodup (hsep scope)
  · intro scope hscope i hi o ho
    exact hrespect scope hscope i ((hp scope).mem_iff.2 hi) o
      ((hp .organization).mem_iff.2 ho)
  · rw [cascade_permuted hsep hp]

theorem filterInjectionRefs_sublist (items : List InjectionItem) (refs : Option (List String))
    (includeLocked : Bool) : (filterInjectionRefs items refs includeLocked).Sublist items := by
  cases refs with
  | none => exact List.Sublist.refl _
  | some refs => exact List.filter_sublist

theorem select_sublist (selection : InjectionSelection) (refs : WorkspaceInjectionRefs)
    (scope : InjectionScope) :
    ((sources.select selection refs).items scope).Sublist (sources.items scope) := by
  cases scope with
  | organization | user =>
    exact (filterInjectionRefs_sublist _ _ _).trans List.filter_sublist
  | workspace => exact List.filter_sublist

theorem Stored.select (h : sources.Stored) (selection : InjectionSelection)
    (refs : WorkspaceInjectionRefs) : (sources.select selection refs).Stored where
  keys scope := ((select_sublist selection refs scope).map _).nodup (h.keys scope)
  nonempty scope item hitem :=
    h.nonempty scope item ((select_sublist selection refs scope).subset hitem)
  locks scope item hitem :=
    h.locks scope item ((select_sublist selection refs scope).subset hitem)

theorem filterInjectionRefs_perm {items items' : List InjectionItem}
    {refs refs' : Option (List String)} (includeLocked : Bool) (hitems : items.Perm items')
    (hrefs : Option.Rel List.Perm refs refs') :
    (filterInjectionRefs items refs includeLocked).Perm
      (filterInjectionRefs items' refs' includeLocked) := by
  cases hrefs with
  | none => exact hitems
  | @some l l' hperm =>
    have hcontains : ∀ key : String, l.contains key = l'.contains key := by
      intro key
      simp only [List.contains_eq_mem, hperm.mem_iff]
    simp only [filterInjectionRefs, hcontains]
    exact hitems.filter _

theorem Permuted.select (hp : sources.Permuted sources') (selection : InjectionSelection)
    {refs refs' : WorkspaceInjectionRefs}
    (horganization : Option.Rel List.Perm refs.organization refs'.organization)
    (huser : Option.Rel List.Perm refs.user refs'.user) :
    (sources.select selection refs).Permuted (sources'.select selection refs') := by
  intro scope
  cases scope with
  | organization =>
    exact filterInjectionRefs_perm true ((hp .organization).filter _) horganization
  | user => exact filterInjectionRefs_perm false ((hp .user).filter _) huser
  | workspace => exact (hp .workspace).filter _

/-- References never leave out a locked item of the organization that matches. -/
theorem mem_select_of_locked {selection : InjectionSelection} (ho : o ∈ sources.organization)
    (hlocked : o.locked = true) (hmatch : injectionMatches o selection = true)
    (refs : WorkspaceInjectionRefs) :
    o ∈ (sources.select selection refs).organization := by
  have hselected : o ∈ selectInjections sources.organization selection :=
    List.mem_filter.2 ⟨ho, hmatch⟩
  simp only [InjectionSources.select]
  cases refs.organization with
  | none => exact hselected
  | some keys => exact List.mem_filter.2 ⟨hselected, by simp [hlocked]⟩

end InjectionSources

open InjectionSources in
/-- **Resolution of stored items.**  It fails exactly when the selected items conflict.  Otherwise
each used destination has one item, that of the most specific scope; the order of the items and of
the references does not matter; and a locked item of the organization that matches stays, whatever
the references are. -/
theorem resolution_characterised (sources : InjectionSources) (h : sources.Stored)
    (selection : InjectionSelection) (refs : WorkspaceInjectionRefs) :
    ((∃ e, (sources.select selection refs).resolve = .error e) ↔
        (sources.select selection refs).Conflict) ∧
      (∀ r, (sources.select selection refs).resolve = .ok r →
        (r.map ResolvedInjection.destination).Nodup ∧
          (∀ x, x ∈ r ↔ x.item ∈ (sources.select selection refs).items x.source ∧
            ∀ scope, x.source.rank < scope.rank →
              ∀ i ∈ (sources.select selection refs).items scope,
                i.destination ≠ x.destination) ∧
          ∀ d, (∃ scope, ∃ i ∈ (sources.select selection refs).items scope, i.destination = d) →
            ∃! x, x ∈ r ∧ x.destination = d) ∧
      (∀ sources' refs', sources.Permuted sources' →
        Option.Rel List.Perm refs.organization refs'.organization →
        Option.Rel List.Perm refs.user refs'.user →
        ∀ r, (sources.select selection refs).resolve = .ok r ↔
          (sources'.select selection refs').resolve = .ok r) ∧
      ∀ refs' r, (sources.select selection refs').resolve = .ok r →
        ∀ o ∈ sources.organization, o.locked = true → injectionMatches o selection = true →
          ⟨.organization, o⟩ ∈ r := by
  have hselect := h.select selection refs
  refine ⟨?_, ?_, ?_, ?_⟩
  · -- failure is the absence of a result
    constructor
    · rintro ⟨e, he⟩
      by_contra hno
      obtain ⟨hsep, hrespect⟩ := (not_conflict_iff hselect).1 hno
      rw [(resolve_eq_ok hselect).2 ⟨hsep, hrespect, rfl⟩] at he
      cases he
    · intro hconflict
      cases hr : (sources.select selection refs).resolve with
      | error e => exact ⟨e, rfl⟩
      | ok r =>
        obtain ⟨hsep, hrespect, -⟩ := (resolve_eq_ok hselect).1 hr
        exact absurd hconflict ((not_conflict_iff hselect).2 ⟨hsep, hrespect⟩)
  · intro r hr
    obtain ⟨hsep, -, rfl⟩ := (resolve_eq_ok hselect).1 hr
    refine ⟨Overlay.nodup_keys_values (wellKeyed_cascade _), fun x => mem_values_cascade hsep, ?_⟩
    rintro d ⟨scope, i, hi, rfl⟩
    obtain ⟨x, hx, hdest⟩ := exists_mem_values_cascade hsep hi
    refine ⟨x, ⟨hx, hdest⟩, ?_⟩
    rintro y ⟨hy, hydest⟩
    exact List.inj_on_of_nodup_map (Overlay.nodup_keys_values (wellKeyed_cascade _)) hy hx
      (hydest.trans hdest.symm)
  · intro sources' refs' hp horganization huser r
    have hperm := hp.select selection horganization huser
    exact ⟨resolve_of_permuted hselect hperm,
      resolve_of_permuted (hselect.permuted hperm) hperm.symm⟩
  · intro refs' r hr o ho hlocked hmatch
    exact locked_mem_of_resolve (h.select selection refs') hr
      (mem_select_of_locked ho hlocked hmatch refs') hlocked

/-! ### A sample -/

def samplePolicy : InjectionItem where
  key := "npmrc"
  kind := .configFile
  target := "/home/dev/.npmrc"
  value := .utf8 "strict-ssl=true"
  sensitive := false
  locked := true
  version := 1
  fileMode := none
  owner := none
  group := none
  templateSelector := none
  labels := []

def sampleEditor : InjectionItem :=
  { samplePolicy with
    key := "editor", kind := .environmentVariable, target := "EDITOR", value := .utf8 "vi",
    locked := false }

/-- An organization with a locked file, and a variable that the user overrides. -/
def sampleSources : InjectionSources where
  organization := [samplePolicy, sampleEditor]
  user := [{ sampleEditor with key := "my editor", value := .utf8 "ed" }]
  workspace := []

def sampleSelection : InjectionSelection where
  workspaceId := none
  organizationId := ⟨"00000000-0000-0000-0000-000000000001", @rfl _ true⟩
  ownerId := ⟨"00000000-0000-0000-0000-000000000002", @rfl _ true⟩
  templateId := none
  image := "registry.example/workspace:1"
  accessMode := .internal

theorem sampleSources_stored : sampleSources.Stored where
  keys scope := by cases scope <;> decide
  nonempty scope := by cases scope <;> decide
  locks scope := by cases scope <;> decide

theorem resolution_characterised_sample :
    (∃! x, x ∈ [⟨.user, { sampleEditor with key := "my editor", value := .utf8 "ed" }⟩,
        (⟨.organization, samplePolicy⟩ : ResolvedInjection)] ∧
      x.destination = ⟨.environment, "EDITOR"⟩) := by
  have hresolve : (sampleSources.select sampleSelection ⟨none, none⟩).resolve
      = .ok [⟨.user, { sampleEditor with key := "my editor", value := .utf8 "ed" }⟩,
        ⟨.organization, samplePolicy⟩] := by decide +kernel
  have hmain := resolution_characterised sampleSources sampleSources_stored sampleSelection
    ⟨none, none⟩
  exact (hmain.2.1 _ hresolve).2.2 _ ⟨.user, _, List.mem_singleton_self _, rfl⟩

/-! ### Paths -/

/-- The components of a path without the empty ones and the dots: two targets with the same
components denote the same file. -/
def pathComponents (target : String) : List (List Char) :=
  (Text.split '/' target.toList).filter fun part => !part.isEmpty && part ≠ ['.']

namespace InjectionSources

/-- The cascade itself checks what the store guarantees. -/
theorem stored_of_resolve {sources : InjectionSources} {r : List ResolvedInjection}
    (hr : sources.resolve = .ok r) : sources.Stored := by
  simp only [resolve, resolveInjections, bind_eq_ok, applyScope_eq_ok] at hr
  obtain ⟨_, ⟨horganization, hkeys₁, -, -⟩, _, ⟨huser, hkeys₂, -, -⟩, _,
    ⟨hworkspace, hkeys₃, -, -⟩, -⟩ := hr
  refine ⟨fun scope => ?_, fun scope item hitem => ?_, fun scope item hitem => ?_⟩
  · cases scope with
    | organization => exact hkeys₁
    | user => exact hkeys₂
    | workspace => exact hkeys₃
  · cases scope with
    | organization => exact (horganization item hitem).1.key
    | user => exact (huser item hitem).1.key
    | workspace => exact (hworkspace item hitem).1.key
  · cases scope with
    | organization => exact (horganization item hitem).1.lock
    | user => exact (huser item hitem).1.lock
    | workspace => exact (hworkspace item hitem).1.lock

/-- No file of a scope has a locked file's path in another spelling. -/
def SpellsLocks (sources : InjectionSources) : Prop :=
  ∀ o ∈ sources.organization, o.locked = true → destinationKind o.kind = .file →
    ∀ scope, ∀ i ∈ sources.items scope, destinationKind i.kind = .file →
      pathComponents i.target = pathComponents o.target → i.target = o.target

end InjectionSources

open InjectionSources in
/-- **When a locked file is kept.**  That stored items have no resolution, or one in which each locked
file is the only item at its path, is the same as that they conflict, or spell the paths of locked
files in one way. -/
theorem locked_file_kept (sources : InjectionSources) (h : sources.Stored) :
    (∀ r, sources.resolve = .ok r →
      ∀ o ∈ sources.organization, o.locked = true → destinationKind o.kind = .file →
        ⟨.organization, o⟩ ∈ r ∧
          ∀ x ∈ r, destinationKind x.item.kind = .file →
            pathComponents x.item.target = pathComponents o.target → x = ⟨.organization, o⟩) ↔
      sources.Conflict ∨ sources.SpellsLocks := by
  constructor
  · intro hkept
    refine or_iff_not_imp_left.2 fun hno o ho hlocked hfile scope i hi hifile hpath => ?_
    obtain ⟨hsep, hrespect⟩ := (not_conflict_iff h).1 hno
    -- the item, or the one that replaces it, is in the result
    obtain ⟨x, hx, hdest⟩ := exists_mem_values_cascade hsep hi
    obtain ⟨hkind, htarget⟩ := InjectionDestination.mk.inj hdest
    have hsame := (hkept _ ((resolve_eq_ok h).2 ⟨hsep, hrespect, rfl⟩) o ho hlocked hfile).2 x hx
      (hkind.trans hifile) (htarget ▸ hpath)
    rw [← htarget, hsame]
  · intro hcondition r hr o ho hlocked hfile
    obtain ⟨hsep, hrespect, hvalues⟩ := (resolve_eq_ok h).1 hr
    have hspells := hcondition.resolve_left ((not_conflict_iff h).2 ⟨hsep, hrespect⟩)
    have hmem := locked_mem_of_resolve h hr ho hlocked
    refine ⟨hmem, fun x hx hxfile hpath => ?_⟩
    subst hvalues
    have htarget := hspells o ho hlocked hfile x.source x.item ((mem_values_cascade hsep).1 hx).1
      hxfile hpath
    have hdestination : x.destination = ResolvedInjection.destination ⟨.organization, o⟩ := by
      simp only [ResolvedInjection.destination, InjectionItem.destination, htarget, hxfile, hfile]
    exact List.inj_on_of_nodup_map (Overlay.nodup_keys_values (wellKeyed_cascade _)) hx hmem
      hdestination

theorem locked_file_kept_sample :
    (⟨.organization, samplePolicy⟩ : ResolvedInjection) ∈
      [⟨.user, { sampleEditor with key := "my editor", value := .utf8 "ed" }⟩,
        (⟨.organization, samplePolicy⟩ : ResolvedInjection)] ∧
    ∀ x ∈ [⟨.user, { sampleEditor with key := "my editor", value := .utf8 "ed" }⟩,
        (⟨.organization, samplePolicy⟩ : ResolvedInjection)],
      destinationKind x.item.kind = .file →
        pathComponents x.item.target = pathComponents samplePolicy.target →
          x = ⟨.organization, samplePolicy⟩ := by
  have hspells : sampleSources.SpellsLocks := by
    intro o ho hlocked hfile scope
    revert o
    cases scope <;> decide
  exact (locked_file_kept sampleSources sampleSources_stored).2 (.inr hspells) _ (by decide +kernel)
    samplePolicy List.mem_cons_self rfl rfl

/-- The checks of an item, with the ASCII part of the Unicode table. -/
def asciiChecks : InjectionChecks where
  alphanumeric := Text.isAlphanumeric
  alphanumeric_slash := by decide
  publicKey key := "ssh-ed25519 ".toList.isPrefixOf key
  uuidText text := (Uuid.parse text).isSome

/-- The locked file under another spelling of its path. -/
def shadowingItem : InjectionItem :=
  { samplePolicy with
    key := "mine", target := "/home/dev//.npmrc", value := .utf8 "strict-ssl=false",
    locked := false }

/-- The user's file has a second slash in its path: the cascade keeps both items, and the user's
comes after the locked one, so that it is written over it. -/
theorem locked_file_shadowed :
    ∃ (sources : InjectionSources) (o i : InjectionItem) (r : List ResolvedInjection),
      (∀ scope, ∀ item ∈ sources.items scope, validateInjectionItem asciiChecks item = .ok ()) ∧
        sources.Stored ∧ sources.resolve = .ok r ∧
        o ∈ sources.organization ∧ o.locked = true ∧ destinationKind o.kind = .file ∧
        ⟨.user, i⟩ ∈ r ∧ destinationKind i.kind = .file ∧
        pathComponents i.target = pathComponents o.target := by
  refine ⟨⟨[samplePolicy], [shadowingItem], []⟩, samplePolicy, shadowingItem,
    [⟨.organization, samplePolicy⟩, ⟨.user, shadowingItem⟩], ?_, ⟨?_, ?_, ?_⟩, ?_⟩
  · intro scope
    cases scope <;> decide +kernel
  · intro scope
    cases scope <;> decide
  · intro scope
    cases scope <;> decide
  · intro scope
    cases scope <;> decide
  · exact ⟨by decide +kernel, by decide +kernel⟩

end WorkspaceControl
