/-
**The injection endpoints.**

`src/src/api/injections.rs`, `src/src/api/injections/delete.rs` and
`src/src/api/injections/batch.rs`.  An item of an organization can be locked; creating, changing and
deleting locked items needs a permission of its own.  A replacement asks for the permission when
the item of the *request* is locked; a deletion when the *stored* one is.

Main definitions:

* `authorizeInjections` — who may read and write which scope;
* `InjectionRequest`, `InjectionRequest.handle` — the endpoints that write.

Main results:

* `locked_items_kept` — **requests by actors without the permission keep the locked items of the
  organization, when none of their replacements is aimed at one**;
* `locked_item_unlocked` — an administrator without the permission unlocks an item.
-/
import WorkspaceControl.InjectionStore

set_option autoImplicit false

namespace WorkspaceControl

open Fallible Relational

/-! ### Checks -/

def parseScope (scope : String) (scopeId : Uuid) : Except ApiError InjectionScopeRef := do
  let scope ← okOr (InjectionScope.fromDatabase scope)
    (.badRequest "scope must be organization, user, or workspace")
  pure ⟨scope, scopeId⟩

/-- `authorize`. -/
def authorizeInjections (t : Tenancy) (actor : Principal) (scopeRef : InjectionScopeRef)
    (write locked : Bool) : Except ApiError Unit :=
  match scopeRef.scope with
  | .organization => do
    ensure (!(write && actor.hasTemplateRestriction)) .forbidden
    ensure (actor.allows (if write then .manageOrganization else .readWorkspace)
        scopeRef.scopeId &&
      (!locked || actor.allows .manageLockedInjections scopeRef.scopeId)) .forbidden
  | .user =>
    let permission := if write then Permission.changeWorkspaceState else .readWorkspace
    ensure ((!write || !actor.hasTemplateRestriction) && (actor.mayManageSystem ||
      (actor.userId = scopeRef.scopeId &&
        actor.apiKeyScopes.any fun scope => scope.permits permission))) .forbidden
  | .workspace => do
    let workspace ← (t.database.getWorkspace scopeRef.scopeId).mapError .storage
    ensure (actor.allows (if write then .changeWorkspaceState else .readWorkspace)
        workspace.organizationId &&
      actor.mayAccessWorkspaceTemplate workspace.templateId) .forbidden

/-- The item that a replacement stores, before it gets its version. -/
def replacementItem (checks : InjectionChecks) (key : String) (item : InjectionItem) :
    Except ApiError InjectionItem := do
  ensure (item.key = key) (.badRequest "path key must exactly match the injection body key")
  let item := if item.kind = .secretFile then { item with sensitive := true } else item
  (validateInjectionItem checks item).mapError .injection
  pure { item with version := 0 }

/-- `normalized_keys`. -/
def normalizedKeys (checks : InjectionChecks) (keys : List String) :
    Except ApiError (List String) := do
  ensure (!keys.isEmpty && keys.length ≤ 100)
    (.badRequest "injection batch must contain between 1 and 100 keys")
  let _ ← keys.mapM fun key => (validateInjectionKey checks key).mapError .injection
  ensure keys.Nodup (.badRequest "injection batch keys must be unique")
  pure (keys.insertionSort (· ≤ ·))

/-! ### Endpoints -/

inductive InjectionCall
  | replace (scope : String) (scopeId : Uuid) (key : String) (item : InjectionItem)
  | delete (scope : String) (scopeId : Uuid) (key : String)
  | batchDelete (scope : String) (scopeId : Uuid) (keys : List String)

/-- A call, with whether the installation has a cipher, the identifiers that are drawn, and what
the completion of the idempotency key answers within a deletion.  `followUp` says whether a
replacement gets beyond its commit. -/
structure InjectionRequest extends Request where
  call : InjectionCall
  cipher : Bool
  jobIds : Uuid → Uuid
  finish : Except StorageError Unit

namespace InjectionRequest

/-- The second transaction of a replacement. -/
def enqueueAfter (request : InjectionRequest) (scopeRef : InjectionScopeRef) :
    Except ApiError (Option InjectionItem) × Tenancy →
      Except ApiError (Option InjectionItem) × Tenancy
  | (.ok (some item), t) =>
    match t.enqueueInjectionReconciles scopeRef request.jobIds request.now with
    | .ok (_, t') => (.ok (some item), t')
    | .error e => (.error (.storage e), t)
  | other => other

def replace (request : InjectionRequest) (checks : InjectionChecks) (t : Tenancy)
    (scope : String) (scopeId : Uuid) (key : String) (item : InjectionItem) :
    Except ApiError (Option InjectionItem) × Tenancy :=
  match replacementItem checks key item, parseScope scope scopeId with
  | .error e, _ => (.error e, t)
  | .ok _, .error e => (.error e, t)
  | .ok item, .ok scopeRef =>
    request.enqueueAfter scopeRef (request.perform
      (do
        authorizeInjections t request.actor scopeRef true item.locked
        ensure request.cipher .encryptionUnavailable)
      request.reserve
      (t.replaceInjection scopeRef item request.actor.userId request.now) t)

/-- The common part of `delete` and `batch_delete`. -/
def deleteKeys (request : InjectionRequest) (t : Tenancy) (scope : String) (scopeId : Uuid)
    (keys : List String) : Except ApiError (Option ℕ) × Tenancy :=
  match parseScope scope scopeId with
  | .error e => (.error e, t)
  | .ok scopeRef =>
    let allowLocked := scopeRef.scope = .organization &&
      request.actor.allows .manageLockedInjections scopeRef.scopeId
    let result := request.perform (authorizeInjections t request.actor scopeRef true false)
      request.reserve
      (t.deleteInjectionsAndEnqueueReconciles scopeRef keys allowLocked request.jobIds
        request.now request.finish) t
    (result.1.mapError fun e =>
      if e = .storage .invalidInjectionLock then .forbidden else e, result.2)

/-- The tables after a call. -/
def handle (checks : InjectionChecks) (request : InjectionRequest) (t : Tenancy) : Tenancy :=
  match request.call with
  | .replace scope scopeId key item => (request.replace checks t scope scopeId key item).2
  | .delete scope scopeId key => (request.deleteKeys t scope scopeId [key]).2
  | .batchDelete scope scopeId keys =>
    match normalizedKeys checks keys with
    | .error _ => t
    | .ok keys => (request.deleteKeys t scope scopeId keys).2

/-- The request does not replace an item that is stored as locked by one that is not. -/
def SparesLocks (request : InjectionRequest) (t : Tenancy) : Prop :=
  ∀ scope scopeId key item, request.call = .replace scope scopeId key item →
    item.locked = false → ∀ row ∈ t.items.rows, parseScope scope scopeId = .ok row.scopeRef →
      row.scopeRef.scope = .organization → row.item.key = key → row.item.locked = false

end InjectionRequest

/-! ### What the calls check -/

variable {key scope : String} {scopeId : Uuid} {scopeRef : InjectionScopeRef}

/-- The key is that of the path and the lock is that of the body. -/
theorem replacementItem_eq_ok {checks : InjectionChecks} {item item' : InjectionItem}
    (h : replacementItem checks key item = .ok item') :
    item'.key = key ∧ item'.locked = item.locked := by
  simp only [replacementItem, ensure_bind_eq_ok, decide_eq_true_eq] at h
  simp only [bind_eq_ok, pure_eq_ok] at h
  obtain ⟨rfl, _, -, rfl⟩ := h
  split <;> exact ⟨rfl, rfl⟩

/-- A write to an organization's items has passed the check of the lock. -/
theorem authorizeInjections_organization {t : Tenancy} {actor : Principal} {locked : Bool}
    (hscope : scopeRef.scope = .organization)
    (h : authorizeInjections t actor scopeRef true locked = .ok ()) (hlocked : locked = true) :
    actor.allows .manageLockedInjections scopeRef.scopeId = true := by
  simp only [authorizeInjections, hscope, ensure_bind_eq_ok, ensure_eq_ok, hlocked,
    Bool.and_eq_true, Bool.or_eq_true, Bool.not_true, Bool.false_eq_true, false_or] at h
  exact h.2.2

/-! ### Locked items -/

section Locks

variable {request : InjectionRequest} {t : Tenancy} {row : InjectionRow}

/-- Enqueuing the jobs does not write the items. -/
theorem InjectionRequest.items_enqueueAfter (scopeRef : InjectionScopeRef)
    (result : Except ApiError (Option InjectionItem) × Tenancy) :
    (request.enqueueAfter scopeRef result).2.items = result.2.items := by
  obtain ⟨answer, t⟩ := result
  rcases answer with e | (_ | item)
  · rfl
  · rfl
  · simp only [enqueueAfter]
    split
    · rename_i henqueue
      exact (Tenancy.enqueueInjectionReconciles_eq_ok henqueue).1
    · rfl

theorem Tenancy.items_replaceInjection {item stored : InjectionItem} {actorUserId : Uuid} {now : ℤ}
    {t' : Tenancy} (hrow : row ∈ t.items.rows) (haddress : row.address ≠ (scopeRef, item.key))
    (h : t.replaceInjection scopeRef item actorUserId now = .ok (stored, t')) :
    row ∈ t'.items.rows := by
  simp only [Tenancy.replaceInjection, bind_eq_ok, pure_eq_ok, Prod.mk.injEq] at h
  obtain ⟨_, -, version, -, items, hsave, -, rfl⟩ := h
  rw [Tenancy.saveInjection_eq_ok hsave]
  exact Table.mem_put_of_ne hrow haddress

theorem InjectionRequest.mem_replace {checks : InjectionChecks} {item : InjectionItem}
    (hrow : row ∈ t.items.rows) (hscope : row.scopeRef.scope = .organization)
    (hlocked : row.item.locked = true)
    (hactor : request.actor.allows .manageLockedInjections row.scopeRef.scopeId = false)
    (hspares : request.SparesLocks t) (hcall : request.call = .replace scope scopeId key item) :
    row ∈ (request.replace checks t scope scopeId key item).2.items.rows := by
  simp only [replace]
  cases hitem : replacementItem checks key item with
  | error e => exact hrow
  | ok item' =>
    cases hparse : parseScope scope scopeId with
    | error e => exact hrow
    | ok scopeRef =>
      rw [request.items_enqueueAfter]
      refine Request.perform_elim (P := fun s : Tenancy => row ∈ s.items.rows) hrow ?_
      intro stored t' hchecks htransaction
      obtain ⟨hkey, hlock⟩ := replacementItem_eq_ok hitem
      refine Tenancy.items_replaceInjection hrow (fun haddress => ?_) htransaction
      -- the replacement is aimed at the locked row: it keeps the lock, or it does not
      have hscopeRef : row.scopeRef = scopeRef := congrArg Prod.fst haddress
      have hrowKey : row.item.key = key := (congrArg Prod.snd haddress).trans hkey
      obtain ⟨u, hauthorize, -⟩ := bind_eq_ok.1 hchecks
      cases hrequested : item.locked with
      | true =>
        have hholds := authorizeInjections_organization (hscopeRef ▸ hscope) hauthorize
          (hlock.trans hrequested)
        rw [← hscopeRef, hactor] at hholds
        cases hholds
      | false =>
        have hplain := hspares scope scopeId key item hcall hrequested row hrow
          (hscopeRef ▸ hparse) hscope hrowKey
        rw [hplain] at hlocked
        cases hlocked

theorem InjectionRequest.mem_deleteKeys {keys : List String} (hrow : row ∈ t.items.rows)
    (hlocked : row.item.locked = true)
    (hactor : request.actor.allows .manageLockedInjections row.scopeRef.scopeId = false) :
    row ∈ (request.deleteKeys t scope scopeId keys).2.items.rows := by
  simp only [deleteKeys]
  cases hparse : parseScope scope scopeId with
  | error e => exact hrow
  | ok scopeRef =>
    refine Request.perform_elim (P := fun s : Tenancy => row ∈ s.items.rows) hrow ?_
    intro n t' _ htransaction
    obtain ⟨-, hkeeps, hscopes, -⟩ :=
      Tenancy.deleteInjectionsAndEnqueueReconciles_eq_ok htransaction
    by_cases hsame : row.scopeRef = scopeRef
    · refine hkeeps row hrow hlocked ?_
      rw [← hsame, hactor, Bool.and_false]
    · -- the rows of another scope are not touched
      have hmem : row ∈ t.items.rows.filter fun r => r.scopeRef = row.scopeRef :=
        List.mem_filter.2 ⟨hrow, decide_eq_true rfl⟩
      rw [← hscopes _ hsame] at hmem
      exact (List.mem_filter.1 hmem).1

/-- What a request without the permission does to a locked item. -/
theorem InjectionRequest.mem_handle (checks : InjectionChecks) (hrow : row ∈ t.items.rows)
    (hscope : row.scopeRef.scope = .organization) (hlocked : row.item.locked = true)
    (hactor : request.actor.allows .manageLockedInjections row.scopeRef.scopeId = false)
    (hspares : request.SparesLocks t) : row ∈ (request.handle checks t).items.rows := by
  unfold handle
  cases hcall : request.call with
  | replace scope scopeId key item =>
    exact request.mem_replace hrow hscope hlocked hactor hspares hcall
  | delete scope scopeId key => exact request.mem_deleteKeys hrow hlocked hactor
  | batchDelete scope scopeId keys =>
    simp only
    split
    · exact hrow
    · exact request.mem_deleteKeys hrow hlocked hactor

end Locks

/-- **Locked items.**  Along every sequence of replace and delete requests by actors that do not
hold the permission for an organization, each of which spares the locks, the items that the
organization has locked stay as they are. -/
theorem locked_items_kept (checks : InjectionChecks) (organizationId : Uuid) {t t' : Tenancy}
    (h : Relation.ReflTransGen (RequestStep (InjectionRequest.handle checks) fun request s =>
      request.actor.allows .manageLockedInjections organizationId = false ∧
        request.SparesLocks s) t t') {row : InjectionRow} (hrow : row ∈ t.items.rows)
    (hscope : row.scopeRef = ⟨.organization, organizationId⟩)
    (hlocked : row.item.locked = true) : row ∈ t'.items.rows := by
  induction h with
  | refl => exact hrow
  | tail _ hstep ih =>
    obtain ⟨request, ⟨hactor, hspares⟩, rfl⟩ := hstep
    refine InjectionRequest.mem_handle checks ih ?_ hlocked ?_ hspares
    · rw [hscope]
    · rw [hscope]
      exact hactor

def sampleInjectionRow (item : InjectionItem) : InjectionRow :=
  ⟨⟨.organization, sampleUserId⟩, item, sampleUserId, 0, 0⟩

def sampleTenancy : Tenancy where
  database := sampleDatabase .stopped
  directory :=
    { organizations := ⟨[⟨sampleUserId, "organization", 0⟩], by simp⟩
      users := ⟨[⟨sampleUserId, "user", false, false, 0⟩], by simp⟩
      memberships := ⟨[⟨sampleUserId, sampleUserId, .organizationAdmin, 0⟩], by simp⟩ }
  items := ⟨[sampleInjectionRow samplePolicy, sampleInjectionRow sampleEditor], by decide⟩
  refs := []

def sampleInjectionRequest (call : InjectionCall) : InjectionRequest where
  toRequest := .smooth (organizationAdministrator sampleUserId sampleUserId [.manageOrganization]) 1
  call := call
  cipher := true
  jobIds := fun _ => sampleJobId
  finish := .ok ()

/-- The variable is deleted; the locked file stays. -/
theorem locked_items_kept_sample :
    let request := sampleInjectionRequest (.delete "organization" sampleUserId "editor")
    (request.handle asciiChecks sampleTenancy).items.rows = [sampleInjectionRow samplePolicy] ∧
      sampleInjectionRow samplePolicy ∈ (request.handle asciiChecks sampleTenancy).items.rows := by
  refine ⟨by decide +kernel, locked_items_kept asciiChecks sampleUserId
    (.single ⟨_, ⟨?_, ?_⟩, rfl⟩) List.mem_cons_self rfl rfl⟩
  · decide +kernel
  · intro scope scopeId key item hcall
    cases hcall

/-- The administrator stores the locked file again without the lock. -/
theorem locked_item_unlocked :
    ∃ (request : InjectionRequest) (t : Tenancy) (row : InjectionRow),
      row ∈ t.items.rows ∧ row.scopeRef.scope = .organization ∧ row.item.locked = true ∧
        request.actor.allows .manageLockedInjections row.scopeRef.scopeId = false ∧
        row ∉ (request.handle asciiChecks t).items.rows :=
  ⟨sampleInjectionRequest (.replace "organization" sampleUserId "npmrc"
      { samplePolicy with locked := false }), sampleTenancy, sampleInjectionRow samplePolicy,
    List.mem_cons_self, rfl, rfl, by decide +kernel, by decide +kernel⟩

end WorkspaceControl
