/-
**API keys.**

`src/src/storage/user_settings/api_keys` and `src/src/storage/identity.rs` store the keys of the
users; `src/src/api/admin` has the requests that create a key (for oneself, for somebody else, and
with a new user) and those that read tokens back (one's own, and as an administrator those of any
user).  A key carries scopes, a restriction to templates and an expiry.  The requests that create
keys compare what is asked for with the key that asks; the requests that read tokens do not.

Main definitions:

* `KeyGrants` — what a key permits, with its order;
* `ApiKeyRow`, `KeyStore` — the table of the keys, with the people and the templates;
* `KeyStore.authenticate` — the principal of a token;
* `KeyRequest.handle` — the requests;
* `KeyRun`, `KeyRun.Step` — a holder of tokens who makes requests, among others who do so too.

Main results:

* `KeyRequest.new_key_within` — a key that a contained request creates grants no more than the key
  the request was made with;
* `obtained_tokens_within` — **along every run of contained requests, every token obtained grants no
  more than the first**;
* `KeyRun.revoked_token_stays_out` — a revoked token is of no use ever after;
* `tokens_escalate` — a token read back, a listing and an administrator's new key that grant more.
-/
import Mathlib.Data.List.Destutter
import WorkspaceControl.Directory

set_option autoImplicit false

namespace WorkspaceControl

open Fallible Relational

/-! ### Grants -/

/-- What a key permits: its scopes, the templates it is restricted to, and until when. -/
structure KeyGrants where
  scopes : List ApiKeyScope
  allowedTemplateIds : Option (List Uuid)
  expiresAt : Option ℤ

variable {bound : KeyGrants} {token : String} {newId userId : Uuid} {actor : Principal}
  {hashToken : String → String}

namespace KeyGrants

/-- No other scopes, a restriction that is at least as narrow, and no later expiry. -/
structure Within (g bound : KeyGrants) : Prop where
  scopes : g.scopes ⊆ bound.scopes
  templates : ∀ allowed ∈ bound.allowedTemplateIds,
    ∃ narrower ∈ g.allowedTemplateIds, narrower ⊆ allowed
  lifetime : ∀ limit ∈ bound.expiresAt, ∃ expiry ∈ g.expiresAt, expiry ≤ limit

theorem within_iff {g : KeyGrants} : g.Within bound ↔
    (∀ scope ∈ g.scopes, scope ∈ bound.scopes) ∧
      (∀ allowed ∈ bound.allowedTemplateIds,
        ∃ narrower ∈ g.allowedTemplateIds, ∀ id ∈ narrower, id ∈ allowed) ∧
      ∀ limit ∈ bound.expiresAt, ∃ expiry ∈ g.expiresAt, expiry ≤ limit :=
  ⟨fun h => ⟨fun _ hscope => h.scopes hscope, fun _ hallowed =>
      let ⟨narrower, hnarrower, hsub⟩ := h.templates _ hallowed
      ⟨narrower, hnarrower, fun _ hid => hsub hid⟩, h.lifetime⟩,
    fun h => ⟨fun _ hscope => h.1 _ hscope, fun _ hallowed =>
      let ⟨narrower, hnarrower, hsub⟩ := h.2.1 _ hallowed
      ⟨narrower, hnarrower, fun _ hid => hsub _ hid⟩, h.2.2⟩⟩

instance (g bound : KeyGrants) : Decidable (g.Within bound) := decidable_of_iff _ within_iff.symm

instance : Preorder KeyGrants where
  le := Within
  le_refl g := ⟨fun _ h => h, fun allowed h => ⟨allowed, h, fun _ h => h⟩,
    fun limit h => ⟨limit, h, le_rfl⟩⟩
  le_trans a b c hab hbc := by
    refine ⟨fun _ h => hbc.scopes (hab.scopes h), fun allowed h => ?_, fun limit h => ?_⟩
    · obtain ⟨middle, hmiddle, hsub⟩ := hbc.templates allowed h
      obtain ⟨narrower, hnarrower, hsub'⟩ := hab.templates middle hmiddle
      exact ⟨narrower, hnarrower, fun _ h => hsub (hsub' h)⟩
    · obtain ⟨middle, hmiddle, hle⟩ := hbc.lifetime limit h
      obtain ⟨expiry, hexpiry, hle'⟩ := hab.lifetime middle hmiddle
      exact ⟨expiry, hexpiry, hle'.trans hle⟩

instance (g bound : KeyGrants) : Decidable (g ≤ bound) :=
  inferInstanceAs (Decidable (g.Within bound))

end KeyGrants

/-- The grants of the key that a request is made with. -/
def Principal.grants (actor : Principal) : KeyGrants :=
  ⟨actor.apiKeyScopes, actor.allowedTemplateIds, actor.apiKeyExpiresAt⟩

def ApiKeyScope.initialKeyDefaults (systemAdmin : Bool) : List ApiKeyScope :=
  if systemAdmin then
    [.manageApiKeys, .manageSystem, .manageOrganization, .manageMembers, .manageLockedInjections,
      .createWorkspace, .readWorkspace, .connectWorkspace, .changeWorkspaceState, .deleteWorkspace]
  else
    [.manageApiKeys, .createWorkspace, .readWorkspace, .connectWorkspace, .changeWorkspaceState]

/-! ### Tables -/

/-- `scopes_json`: the scopes, or the wildcard of old keys, which is no scope any more. -/
inductive StoredScopes
  | granted (scopes : List ApiKeyScope)
  | wildcard
deriving DecidableEq

def StoredScopes.scopes : StoredScopes → List ApiKeyScope
  | granted scopes => scopes
  | wildcard => []

/-- A row of `user_api_keys`; old rows have the hash of their token only. -/
structure ApiKeyRow where
  id : Uuid
  userId : Uuid
  name : String
  tokenPrefix : String
  tokenHash : String
  token : Option String
  createdAt : ℤ
  revokedAt : Option ℤ
  scopes : StoredScopes
  expiresAt : Option ℤ
  allowedTemplateIds : Option (List Uuid)
deriving DecidableEq

def ApiKeyRow.grants (key : ApiKeyRow) : KeyGrants :=
  ⟨key.scopes.scopes, key.allowedTemplateIds, key.expiresAt⟩

/-- The tables that the requests read, with the uniqueness of the hashes; a token is stored with
its hash. -/
structure KeyStore (hashToken : String → String) where
  directory : Directory
  templates : TemplateTable
  keys : Table ApiKeyRow.tokenHash
  hashed : ∀ key ∈ keys.rows, ∀ token ∈ key.token, key.tokenHash = hashToken token

/-- The token is that of the key. -/
def ApiKeyRow.opens (hashToken : String → String) (key : ApiKeyRow) (token : String) : Bool :=
  key.token = some token || (key.token.isNone && key.tokenHash = hashToken token)

/-! ### The policy of new keys -/

def ApiKeyScope.index : ApiKeyScope → ℕ
  | manageApiKeys => 0
  | manageSystem => 1
  | manageOrganization => 2
  | manageMembers => 3
  | manageLockedInjections => 4
  | createWorkspace => 5
  | readWorkspace => 6
  | connectWorkspace => 7
  | changeWorkspaceState => 8
  | deleteWorkspace => 9

def validateScopes (scopes : List ApiKeyScope) : Except StorageError (List ApiKeyScope) := do
  ensure (scopes ≠ []) .invalidApiKey
  pure ((scopes.insertionSort fun a b => a.index ≤ b.index).destutter (· ≠ ·))

def maxApiKeyLifetimeSeconds : ℤ := 365 * 24 * 60 * 60

def validateExpiration (expiresAt : Option ℤ) (now : ℤ) : Except StorageError Unit := do
  let expiresAt ← okOr expiresAt .invalidApiKey
  ensure (now < expiresAt && expiresAt - now ≤ maxApiKeyLifetimeSeconds) .invalidApiKey

def validateApiKeyPolicy (scopes : List ApiKeyScope) (expiresAt : Option ℤ) (now : ℤ) :
    Except StorageError (List ApiKeyScope) := do
  let scopes ← validateScopes scopes
  validateExpiration expiresAt now
  pure scopes

def validateApiKeyName (name : String) : Except StorageError String := do
  let name := Text.trim name.toList
  ensure (!name.isEmpty && name.length ≤ 80 && !name.any Text.isControl) .invalidApiKey
  pure (String.ofList name)

/-- The first characters of a token, which summaries show. -/
def tokenPrefix (token : String) : String := String.ofList (token.toList.take 12) ++ "…"

theorem validateScopes_eq_ok {scopes sorted : List ApiKeyScope}
    (h : validateScopes scopes = .ok sorted) : sorted ⊆ scopes := by
  simp only [validateScopes, ensure_bind_eq_ok, pure_eq_ok] at h
  obtain ⟨-, rfl⟩ := h
  intro scope hscope
  exact (List.mem_insertionSort _).1 ((List.destutter_sublist _ _).subset hscope)

/-! ### Transactions -/

structure ApiKeySummary where
  id : Uuid
  name : String
  tokenPrefix : String
  createdAt : ℤ
  scopes : List ApiKeyScope
  expiresAt : Option ℤ
  allowedTemplateIds : Option (List Uuid)
  revokedAt : Option ℤ

def maxActiveApiKeys : ℕ := 20

namespace KeyStore

/-- The row of a new key. -/
def newKey (hashToken : String → String) (summary : ApiKeySummary) (userId : Uuid)
    (token : String) : ApiKeyRow where
  id := summary.id
  userId := userId
  name := summary.name
  tokenPrefix := summary.tokenPrefix
  tokenHash := hashToken token
  token := some token
  createdAt := summary.createdAt
  revokedAt := none
  scopes := .granted summary.scopes
  expiresAt := summary.expiresAt
  allowedTemplateIds := summary.allowedTemplateIds

def insertKey (s : KeyStore hashToken) (userId : Uuid) (summary : ApiKeySummary) (token : String) :
    Except StorageError (KeyStore hashToken) :=
  if s.keys.rows.any fun key => key.id = summary.id then
    .error (.database "UNIQUE constraint failed: user_api_keys.id")
  else
    match h : s.keys.insertNew (newKey hashToken summary userId token) with
    | none => .error (.database "UNIQUE constraint failed: user_api_keys.token_hash")
    | some keys => .ok
        { s with
          keys
          hashed := by
            intro key hkey t ht
            rw [(Table.rows_of_insertNew h).2] at hkey
            rcases List.mem_append.1 hkey with hold | hnew
            · exact s.hashed key hold t ht
            · obtain rfl := List.mem_singleton.1 hnew
              obtain rfl := Option.some_inj.1 ht
              rfl }

/-- The key that is created and its token. -/
structure CreatedApiKey where
  summary : ApiKeySummary
  token : String

/-- The identifier and the token are drawn by the caller. -/
def createApiKey (s : KeyStore hashToken) (newId : Uuid) (drawn : Except StorageError String)
    (userId : Uuid) (name : String) (scopes : List ApiKeyScope) (expiresAt : Option ℤ)
    (allowedTemplateIds : Option (List Uuid)) (now : ℤ) :
    Except StorageError (CreatedApiKey × KeyStore hashToken) := do
  let name ← validateApiKeyName name
  let scopes ← validateScopes scopes
  validateExpiration expiresAt now
  let token ← drawn
  let summary : ApiKeySummary :=
    ⟨newId, name, WorkspaceControl.tokenPrefix token, now, scopes, expiresAt, allowedTemplateIds,
      none⟩
  ensure (s.directory.enabledUser userId) .userNotFound
  ensure ((s.keys.rows.filter fun key => key.userId = userId && key.revokedAt.isNone).length
    < maxActiveApiKeys) .tooManyApiKeys
  let s ← s.insertKey userId summary token
  pure (⟨summary, token⟩, s)

/-- `InitialUserCommand`. -/
structure InitialUserCommand where
  displayName : String
  token : String
  systemAdmin : Bool
  scopes : List ApiKeyScope
  expiresAt : ℤ
  membership : Option (Uuid × Role)

/-- `create_user_with_initial_key_and_membership`: the token is that of the caller. -/
def createUser (s : KeyStore hashToken) (newUserId newId : Uuid) (command : InitialUserCommand)
    (now : ℤ) : Except StorageError (Unit × KeyStore hashToken) := do
  ensure (command.membership.all fun m => m.2 ≠ .systemAdmin) .invalidOrganizationMembership
  let scopes ← validateApiKeyPolicy command.scopes (some command.expiresAt) now
  ensure (32 ≤ command.token.utf8ByteSize) .tokenTooShort
  let directory ← s.directory.createUser newUserId command.displayName command.systemAdmin
    command.membership now
  let s ← { s with directory }.insertKey newUserId
    ⟨newId, "Initial key", WorkspaceControl.tokenPrefix command.token, now, scopes,
      some command.expiresAt, none, none⟩ command.token
  pure ((), s)

/-- `decode_scopes`. -/
def decodeScopes (stored : StoredScopes) : Except StorageError (List ApiKeyScope) :=
  match stored with
  | .wildcard => .error .json
  | .granted scopes => do
    ensure (scopes ≠ []) .invalidApiKey
    pure scopes

/-- The principal of a token: it must be that of a key that is neither revoked nor expired, and the
user must be enabled. -/
def authenticate (s : KeyStore hashToken) (token : String) (now : ℤ) :
    Except StorageError (Option Principal) :=
  if token.utf8ByteSize < 32 then pure none
  else
    match s.keys.rows.find? fun key => key.opens hashToken token && key.revokedAt.isNone &&
        key.scopes ≠ .wildcard && key.expiresAt.any (now < ·) &&
        s.directory.enabledUser key.userId with
    | none => pure none
    | some key => do
      let scopes ← decodeScopes key.scopes
      pure (some
        { userId := key.userId
          systemAdmin := (s.directory.users.find key.userId).any UserRow.systemAdmin
          memberships := (s.directory.memberships.rows.filter fun row =>
            row.userId = key.userId).map fun row => ⟨row.organizationId, row.role⟩
          apiKeyScopes := scopes
          apiKeyExpiresAt := key.expiresAt
          allowedTemplateIds := key.allowedTemplateIds })

/-! ### Reading tokens -/

/-- The token of an active key; none, if only its hash is stored. -/
def getApiKeyToken (s : KeyStore hashToken) (userId keyId : Uuid) (now : ℤ) :
    Except StorageError (Option String) := do
  let key ← okOr (s.keys.rows.find? fun key => key.userId = userId && key.id = keyId &&
    key.revokedAt.isNone && key.expiresAt.any (now < ·)) .apiKeyNotFound
  pure key.token

inductive ApiKeyListStatus
  | active
  | revoked
  | all
deriving DecidableEq

def ApiKeyListStatus.selects (status : ApiKeyListStatus) (key : ApiKeyRow) : Bool :=
  match status with
  | active => key.revokedAt.isNone
  | revoked => key.revokedAt.isSome
  | all => true

structure ApiKeyCursor where
  createdAt : ℤ
  id : Uuid
  targetUserId : Uuid
  status : ApiKeyListStatus

/-- A cursor of a request, as what its text decodes to; it is bound to the user and the filter. -/
def decodeCursor (cursor : Option (Option ApiKeyCursor)) (targetUserId : Uuid)
    (status : ApiKeyListStatus) : Except StorageError (Option ApiKeyCursor) :=
  match cursor with
  | none => pure none
  | some text => do
    let decoded ← okOr text .invalidApiKeyQuery
    ensure (decoded.targetUserId = targetUserId && decoded.status = status) .invalidApiKeyQuery
    pure (some decoded)

structure ApiKeyWithToken where
  summary : ApiKeySummary
  token : Option String

structure ApiKeyPage where
  items : List ApiKeyWithToken
  nextCursor : Option ApiKeyCursor

def decodeWithToken (key : ApiKeyRow) : Except StorageError ApiKeyWithToken :=
  match key.scopes with
  | .wildcard => .error .json
  | .granted scopes => .ok
      ⟨⟨key.id, key.name, key.tokenPrefix, key.createdAt, scopes, key.expiresAt,
        key.allowedTemplateIds, key.revokedAt⟩, key.token⟩

/-- One row more than asked for is read, to see whether there is a next page. -/
def page (items : List ApiKeyWithToken) (limit : ℕ) (targetUserId : Uuid)
    (status : ApiKeyListStatus) : ApiKeyPage :=
  if limit < items.length then
    let items := items.dropLast
    ⟨items, items.getLast?.map fun tail =>
      ⟨tail.summary.createdAt, tail.summary.id, targetUserId, status⟩⟩
  else ⟨items, none⟩

/-- `ORDER BY created_at, id`. -/
def before (a b : ApiKeyRow) : Bool :=
  a.createdAt < b.createdAt || (a.createdAt = b.createdAt && a.id ≤ b.id)

def listApiKeysPage (s : KeyStore hashToken) (targetUserId : Uuid) (status : ApiKeyListStatus)
    (limit : Option ℕ) (cursor : Option (Option ApiKeyCursor)) :
    Except StorageError ApiKeyPage := do
  let limit := min (max (limit.getD 50) 1) 200
  let cursor ← decodeCursor cursor targetUserId status
  let selected := s.keys.rows.filter fun key =>
    key.userId = targetUserId && status.selects key && cursor.all fun tail =>
      tail.createdAt < key.createdAt || (key.createdAt = tail.createdAt && tail.id < key.id)
  let items ← ((selected.insertionSort fun a b => before a b).take (limit + 1)).mapM
    decodeWithToken
  pure (page items limit targetUserId status)

end KeyStore

/-! ### Requests -/

def actorMayGrant (actorScopes requested : List ApiKeyScope) : Bool :=
  requested.all fun scope => actorScopes.contains scope

def actorMayGrantTemplates : Option (List Uuid) → Option (List Uuid) → Bool
  | actorAllowed, none => actorAllowed.isNone
  | none, some _ => true
  | some actorAllowed, some requested => requested.all fun id => actorAllowed.contains id

/-- `CreateApiKeyRequest` and `AdminCreateApiKeyRequest`. -/
structure CreateApiKeyRequest where
  name : String
  scopes : List ApiKeyScope
  expiresAt : Option ℤ
  allowedTemplateIds : Option (List Uuid)

structure CreateUserRequest where
  displayName : String
  token : String
  systemAdmin : Bool
  scopes : Option (List ApiKeyScope)
  expiresAt : Option ℤ
  organizationId : Option Uuid
  organizationRole : Option Role

inductive KeyCall
  | createApiKey (body : CreateApiKeyRequest)
  | adminCreateApiKey (userId : Uuid) (body : CreateApiKeyRequest)
  | createUser (body : CreateUserRequest)
  | getApiKeyToken (keyId : Uuid)
  | listUserApiKeys (userId : Uuid) (status : Option KeyStore.ApiKeyListStatus) (limit : Option ℕ)
      (cursor : Option (Option KeyStore.ApiKeyCursor))

structure UserSummary where
  id : Uuid
  displayName : String
  systemAdmin : Bool
  disabled : Bool
  createdAt : ℤ
  membershipRole : Option Role

inductive KeyResponse
  | created (key : KeyStore.CreatedApiKey)
  | user (summary : UserSummary)
  | token (text : String)
  | page (keys : KeyStore.ApiKeyPage)
  | replayed

/-- The tokens that stand in a response. -/
def KeyResponse.tokens : KeyResponse → List String
  | created key => [key.token]
  | .token text => [text]
  | .page keys => keys.items.filterMap KeyStore.ApiKeyWithToken.token
  | user _ | replayed => []

/-- A request with the token of its header, the clocks of the database and of the server, and what
the server draws for it. -/
structure KeyRequest where
  bearer : Option String
  clock : ℤ
  now : ℤ
  call : KeyCall
  newUserId : Uuid
  newId : Uuid
  drawn : Except StorageError String
  idempotencyKey : Bool
  decision : Except StorageError IdempotencyDecision
  followUp : Except ApiError Unit

def initialKeyLifetimeSeconds : ℤ := 30 * 24 * 60 * 60

namespace KeyRequest

variable (request : KeyRequest) (s : KeyStore hashToken)

/-- `auth::principal`. -/
def principal : Except ApiError Principal := do
  let token ← okOr request.bearer .unauthorized
  let actor ← (s.authenticate token request.clock).mapError .storage
  okOr actor .unauthorized

def requireSystemAdmin (actor : Principal) : Except ApiError Unit :=
  ensure (actor.mayManageSystem && !actor.hasTemplateRestriction) .forbidden

/-- The request of an actor; the handlers that create a key do nothing after the commit. -/
def madeBy (actor : Principal) : Request :=
  ⟨actor, request.now, request.idempotencyKey, request.decision, pure ()⟩

/-- The templates that a key is to be restricted to are distinct and exist. -/
def checkTemplates (allowedTemplateIds : Option (List Uuid)) : Except ApiError Unit :=
  match allowedTemplateIds with
  | none => pure ()
  | some ids => do
    ensure (decide ids.Nodup) (.badRequest "allowed_template_ids must be unique")
    ids.forM fun id => do
      let _ ← (getWorkspaceTemplate s.templates id).mapError .storage
      pure ()

/-- What both requests for a new key check of it. -/
def mayGrant (actor : Principal) (body : CreateApiKeyRequest) : Bool :=
  actor.mayManageApiKeys && actorMayGrant actor.apiKeyScopes body.scopes &&
    actorMayGrantTemplates actor.allowedTemplateIds body.allowedTemplateIds

/-- The transaction of both requests for a new key. -/
def create (userId : Uuid) (body : CreateApiKeyRequest) :
    Except StorageError (KeyStore.CreatedApiKey × KeyStore hashToken) :=
  s.createApiKey request.newId request.drawn userId body.name body.scopes body.expiresAt
    body.allowedTemplateIds request.now

def createApiKeyChecks (actor : Principal) (body : CreateApiKeyRequest) : Except ApiError Unit := do
  ensure (mayGrant actor body && actor.apiKeyExpiresAt.all fun limit =>
    body.expiresAt.any (· ≤ limit)) .forbidden
  checkTemplates s body.allowedTemplateIds

def createApiKey (actor : Principal) (body : CreateApiKeyRequest) :
    Except ApiError (Option KeyStore.CreatedApiKey) × KeyStore hashToken :=
  (request.madeBy actor).perform (createApiKeyChecks s actor body) (pure true)
    (request.create s actor.userId body) s

/-- The expiry is not compared with that of the administrator's key. -/
def adminCreateApiKeyChecks (actor : Principal) (body : CreateApiKeyRequest) :
    Except ApiError Unit := do
  requireSystemAdmin actor
  ensure (mayGrant actor body) .forbidden
  checkTemplates s body.allowedTemplateIds

def adminCreateApiKey (actor : Principal) (userId : Uuid) (body : CreateApiKeyRequest) :
    Except ApiError (Option KeyStore.CreatedApiKey) × KeyStore hashToken :=
  (request.madeBy actor).perform (adminCreateApiKeyChecks s actor body) (pure true)
    (request.create s userId body) s

def requestedMembership (actor : Principal) (body : CreateUserRequest) :
    Except ApiError (Option (Uuid × Role)) :=
  match body.organizationId, body.organizationRole with
  | some _, some .systemAdmin =>
    .error (.badRequest "organization membership cannot grant system_admin")
  | some organizationId, some role => do
    ensure (actor.allows .manageMembers organizationId) .forbidden
    pure (some (organizationId, role))
  | none, none => pure none
  | _, _ => .error (.badRequest "organization_id and organization_role must be supplied together")

def initialUserCommand (actor : Principal) (body : CreateUserRequest) :
    Except ApiError KeyStore.InitialUserCommand := do
  let membership ← requestedMembership actor body
  let scopes := body.scopes.getD (ApiKeyScope.initialKeyDefaults body.systemAdmin)
  let expiresAt := body.expiresAt.getD
    ((actor.apiKeyExpiresAt.map (min (request.now + initialKeyLifetimeSeconds))).getD
      (request.now + initialKeyLifetimeSeconds))
  ensure (actorMayGrant actor.apiKeyScopes scopes &&
    actor.apiKeyExpiresAt.all fun limit => expiresAt ≤ limit) .forbidden
  let _ ← (validateApiKeyPolicy scopes (some expiresAt) request.now).mapError .storage
  pure ⟨body.displayName, body.token, body.systemAdmin, scopes, expiresAt, membership⟩

/-- The transaction of a new user, once the command is formed. -/
def createUserCommand (command : Except ApiError KeyStore.InitialUserCommand) :
    Except StorageError (Unit × KeyStore hashToken) :=
  match command with
  | .ok command => s.createUser request.newUserId request.newId command request.now
  | .error _ => pure ((), s)

def createUserChecks (actor : Principal) (body : CreateUserRequest) : Except ApiError Unit := do
  requireSystemAdmin actor
  ensure request.idempotencyKey .missingIdempotencyKey
  let _ ← request.initialUserCommand actor body
  pure ()

def createUser (actor : Principal) (body : CreateUserRequest) :
    Except ApiError (Option Unit) × KeyStore hashToken :=
  let made : Request := { request.madeBy actor with followUp := request.followUp }
  made.perform (request.createUserChecks actor body) made.reserve
    (request.createUserCommand s (request.initialUserCommand actor body)) s

/-- Any active key of the same user; the grants of the two keys are not compared. -/
def getApiKeyToken (actor : Principal) (keyId : Uuid) : Except ApiError String := do
  ensure actor.mayManageApiKeys .forbidden
  let token ← (s.getApiKeyToken actor.userId keyId request.now).mapError .storage
  let token ← okOr token .apiKeyTokenUnavailable
  request.followUp
  pure token

def listUserApiKeys (actor : Principal) (userId : Uuid)
    (status : Option KeyStore.ApiKeyListStatus) (limit : Option ℕ)
    (cursor : Option (Option KeyStore.ApiKeyCursor)) : Except ApiError KeyStore.ApiKeyPage := do
  requireSystemAdmin actor
  ensure actor.mayManageApiKeys .forbidden
  (s.listApiKeysPage userId (status.getD .active) limit cursor).mapError .storage

def summary (body : CreateUserRequest) : UserSummary where
  id := request.newUserId
  displayName := body.displayName
  systemAdmin := body.systemAdmin
  disabled := false
  createdAt := request.now
  membershipRole := body.organizationRole

/-- The response and the store of an authenticated request. -/
def answer (actor : Principal) : Except ApiError KeyResponse × KeyStore hashToken :=
  match request.call with
  | .createApiKey body =>
    let (result, s) := request.createApiKey s actor body
    (result.map fun key => (key.map .created).getD .replayed, s)
  | .adminCreateApiKey userId body =>
    let (result, s) := request.adminCreateApiKey s actor userId body
    (result.map fun key => (key.map .created).getD .replayed, s)
  | .createUser body =>
    let (result, s) := request.createUser s actor body
    (result.map fun user => (user.map fun _ => .user (request.summary body)).getD .replayed, s)
  | .getApiKeyToken keyId => ((request.getApiKeyToken s actor keyId).map .token, s)
  | .listUserApiKeys userId status limit cursor =>
    ((listUserApiKeys s actor userId status limit cursor).map .page, s)

def handle : Except ApiError KeyResponse × KeyStore hashToken :=
  match request.principal s with
  | .error e => (.error e, s)
  | .ok actor => request.answer s actor

/-- The tokens that the caller knows after the request: those of the response, and those of the keys
that it has created, whatever the response (the token of a new user is chosen by the caller). -/
def obtains : List String :=
  (match (request.handle s).1 with
    | .ok response => response.tokens
    | .error _ => []) ++
  ((request.handle s).2.keys.rows.filter fun key => key ∉ s.keys.rows).filterMap ApiKeyRow.token

end KeyRequest

/-! ### What the store does -/

variable {request : KeyRequest}

namespace KeyStore

variable {s s' : KeyStore hashToken}

/-- The hashes are unique, so a token is that of one key at most. -/
theorem eq_of_opens {key other : ApiKeyRow} (hkey : key ∈ s.keys.rows)
    (hother : other ∈ s.keys.rows) (hopens : key.opens hashToken token = true)
    (hopens' : other.opens hashToken token = true) : key = other := by
  have hhash : ∀ row ∈ s.keys.rows, row.opens hashToken token = true →
      row.tokenHash = hashToken token := by
    intro row hrow h
    simp only [ApiKeyRow.opens, Bool.or_eq_true, Bool.and_eq_true, decide_eq_true_eq] at h
    rcases h with htoken | ⟨-, h⟩
    · exact s.hashed row hrow token htoken
    · exact h
  exact s.keys.eq_of_key hkey hother
    ((hhash key hkey hopens).trans (hhash other hother hopens').symm)

theorem opens_of_token {key : ApiKeyRow} (h : key.token = some token) :
    key.opens hashToken token = true := by
  simp [ApiKeyRow.opens, h]

variable {now : ℤ}

theorem insertKey_eq_ok {summary : ApiKeySummary} (h : s.insertKey userId summary token = .ok s') :
    s'.keys.rows = s.keys.rows ++ [newKey hashToken summary userId token] := by
  unfold insertKey at h
  split at h
  · cases h
  · split at h
    · cases h
    · rename_i keys hinsert
      obtain rfl := Except.ok.inj h
      exact (Table.rows_of_insertNew hinsert).2

/-- A new key grants what was asked for. -/
theorem createApiKey_eq_ok {drawn name scopes expiresAt allowedTemplateIds created}
    (h : s.createApiKey newId drawn userId name scopes expiresAt allowedTemplateIds now
      = .ok (created, s')) :
    ∃ key, s'.keys.rows = s.keys.rows ++ [key] ∧ key.token = some created.token ∧
      key.grants ≤ ⟨scopes, allowedTemplateIds, expiresAt⟩ := by
  simp only [createApiKey, bind_eq_ok, pure_eq_ok, Prod.mk.injEq] at h
  obtain ⟨name, -, sorted, hsorted, _, -, token, -, _, -, _, -, s₁, hinsert, rfl, rfl⟩ := h
  exact ⟨_, insertKey_eq_ok hinsert, rfl, validateScopes_eq_ok hsorted,
    (le_refl (KeyGrants.mk sorted allowedTemplateIds expiresAt)).templates,
    (le_refl (KeyGrants.mk sorted allowedTemplateIds expiresAt)).lifetime⟩

/-- The first key of a new user grants what the command says. -/
theorem createUser_eq_ok {newUserId : Uuid} {command : InitialUserCommand} {u : Unit}
    (h : s.createUser newUserId newId command now = .ok (u, s')) :
    ∃ key, s'.keys.rows = s.keys.rows ++ [key] ∧ key.token = some command.token ∧
      key.grants ≤ ⟨command.scopes, none, some command.expiresAt⟩ := by
  simp only [createUser, validateApiKeyPolicy, bind_eq_ok, pure_eq_ok, Prod.mk.injEq] at h
  obtain ⟨_, -, sorted, ⟨_, hsorted, _, -, rfl⟩, _, -, directory, -, s₁, hinsert, -, rfl⟩ := h
  have hrows := insertKey_eq_ok hinsert
  exact ⟨_, hrows, rfl, validateScopes_eq_ok hsorted,
    (le_refl (KeyGrants.mk [] none (some command.expiresAt))).templates,
    (le_refl (KeyGrants.mk [] none (some command.expiresAt))).lifetime⟩

/-- A principal has the grants of the key of its token. -/
theorem grants_of_authenticate (h : s.authenticate token now = .ok (some actor)) :
    ∃ key ∈ s.keys.rows, key.opens hashToken token = true ∧ key.grants = actor.grants := by
  unfold authenticate at h
  split at h
  · cases h
  · split at h
    · cases h
    · rename_i key hfind
      have hopens := List.find?_some hfind
      simp only [Bool.and_eq_true] at hopens
      simp only [bind_eq_ok, pure_eq_ok, Option.some_inj] at h
      obtain ⟨scopes, hscopes, rfl⟩ := h
      refine ⟨key, List.mem_of_find?_eq_some hfind, hopens.1.1.1.1, ?_⟩
      cases hstored : key.scopes with
      | wildcard =>
        rw [hstored] at hscopes
        cases hscopes
      | granted stored =>
        simp only [hstored, decodeScopes, ensure_bind_eq_ok, pure_eq_ok] at hscopes
        simp only [ApiKeyRow.grants, Principal.grants, hstored, StoredScopes.scopes, hscopes.2]

theorem getApiKeyToken_eq_ok {keyId : Uuid} {token : Option String}
    (h : s.getApiKeyToken userId keyId now = .ok token) :
    ∃ key ∈ s.keys.rows, key.userId = userId ∧ key.id = keyId ∧ key.token = token := by
  simp only [getApiKeyToken, okOr_bind_eq_ok, pure_eq_ok] at h
  obtain ⟨key, hfind, rfl⟩ := h
  have hselected := List.find?_some hfind
  simp only [Bool.and_eq_true, decide_eq_true_eq] at hselected
  exact ⟨key, List.mem_of_find?_eq_some hfind, hselected.1.1.1, hselected.1.1.2, rfl⟩

/-- A page shows tokens of keys of the user. -/
theorem token_of_page {status limit cursor keys}
    (h : s.listApiKeysPage userId status limit cursor = .ok keys) {item : ApiKeyWithToken}
    (hitem : item ∈ keys.items) :
    ∃ key ∈ s.keys.rows, key.userId = userId ∧ key.token = item.token := by
  simp only [listApiKeysPage, bind_eq_ok, pure_eq_ok] at h
  obtain ⟨cursor, -, items, hitems, rfl⟩ := h
  have hmem : item ∈ items := by
    unfold page at hitem
    split at hitem
    · exact List.dropLast_subset _ hitem
    · exact hitem
  obtain ⟨key, hkey, hdecode⟩ := exists_of_mem_mapM hitems hmem
  have hselected := List.mem_filter.1 ((List.mem_insertionSort _).1 (List.mem_of_mem_take hkey))
  simp only [Bool.and_eq_true, decide_eq_true_eq] at hselected
  refine ⟨key, hselected.1, hselected.2.1.1, ?_⟩
  unfold decodeWithToken at hdecode
  split at hdecode
  · cases hdecode
  · obtain rfl := Except.ok.inj hdecode
    rfl

end KeyStore

/-! ### What a request does -/

namespace KeyRequest

variable {s : KeyStore hashToken}

/-- The request stays within the key that it is made with, where the handler does not see to it: the
tokens that the response shows grant no more than that key, and a key that an administrator makes
does not outlive it. -/
def Contained (request : KeyRequest) (s : KeyStore hashToken) : Prop :=
  ∀ actor, request.principal s = .ok actor →
    match request.call with
    | .createApiKey _ | .createUser _ => True
    | .adminCreateApiKey userId body => adminCreateApiKeyChecks s actor body = .ok () →
        ∀ result, request.create s userId body = .ok result →
          ∀ limit ∈ actor.apiKeyExpiresAt, ∃ expiry ∈ body.expiresAt, expiry ≤ limit
    | .getApiKeyToken _ | .listUserApiKeys .. => ∀ response, (request.handle s).1 = .ok response →
        ∀ token ∈ response.tokens, ∀ key ∈ s.keys.rows,
          key.token = some token → key.grants ≤ actor.grants

variable {body : CreateApiKeyRequest} {created : KeyStore.CreatedApiKey} {response : KeyResponse}
  {s' : KeyStore hashToken}

/-- What the checks of a new key compare. -/
theorem within_of_mayGrant (h : mayGrant actor body = true)
    (hexpiry : ∀ limit ∈ actor.apiKeyExpiresAt, ∃ expiry ∈ body.expiresAt, expiry ≤ limit) :
    KeyGrants.mk body.scopes body.allowedTemplateIds body.expiresAt ≤ actor.grants := by
  simp only [mayGrant, actorMayGrant, Bool.and_eq_true, List.all_eq_true,
    List.contains_iff_mem] at h
  refine ⟨fun scope hscope => h.1.2 scope hscope, fun allowed hallowed => ?_, hexpiry⟩
  have hactor : actor.allowedTemplateIds = some allowed := hallowed
  cases hbody : body.allowedTemplateIds with
  | none => simp [hactor, hbody, actorMayGrantTemplates] at h
  | some requested =>
    refine ⟨requested, rfl, fun id hid => ?_⟩
    have hgrant := h.2
    simp only [hactor, hbody, actorMayGrantTemplates, List.all_eq_true,
      List.contains_iff_mem] at hgrant
    exact hgrant id hid

/-- The initial key of a user is within the key of the administrator, who is not restricted. -/
theorem within_of_initialUserCommand {body : CreateUserRequest}
    {command : KeyStore.InitialUserCommand}
    (h : request.initialUserCommand actor body = .ok command)
    (hadmin : requireSystemAdmin actor = .ok ()) :
    KeyGrants.mk command.scopes none (some command.expiresAt) ≤ actor.grants := by
  simp only [initialUserCommand, bind_eq_ok, pure_eq_ok, ensure_eq_ok, Bool.and_eq_true,
    actorMayGrant, List.all_eq_true, List.contains_iff_mem] at h
  obtain ⟨membership, -, _, ⟨hscopes, hexpiry⟩, _, -, rfl⟩ := h
  simp only [requireSystemAdmin, ensure_eq_ok, Principal.hasTemplateRestriction, Bool.and_eq_true,
    Bool.not_eq_true', Option.isSome_eq_false_iff, Option.isNone_iff_eq_none] at hadmin
  refine ⟨fun scope hscope => hscopes scope hscope, fun allowed hallowed => ?_,
    fun limit hlimit => ⟨_, rfl, ?_⟩⟩
  · have hnone : actor.allowedTemplateIds = some allowed := hallowed
    rw [hadmin.2] at hnone
    cases hnone
  · exact of_decide_eq_true ((Option.all_eq_true _ _).1 hexpiry limit hlimit)

/-- The request has added one key, with this token; it is within the key that the request was made
with. -/
def Makes (request : KeyRequest) (s s' : KeyStore hashToken) (actor : Principal) (token : String) :
    Prop :=
  ∃ key, s'.keys.rows = s.keys.rows ++ [key] ∧ key.token = some token ∧
    (request.Contained s → key.grants ≤ actor.grants)

theorem makes_createApiKey (hchecks : createApiKeyChecks s actor body = .ok ())
    (hcommit : request.create s actor.userId body = .ok (created, s')) :
    request.Makes s s' actor created.token := by
  obtain ⟨key, hrows, htoken, hgrants⟩ := KeyStore.createApiKey_eq_ok hcommit
  simp only [createApiKeyChecks, ensure_bind_eq_ok, Bool.and_eq_true] at hchecks
  obtain ⟨⟨hmay, hexpiry⟩, -⟩ := hchecks
  refine ⟨key, hrows, htoken, fun _ => hgrants.trans (within_of_mayGrant hmay ?_)⟩
  intro limit hlimit
  obtain ⟨expiry, hbody, hle⟩ :=
    (Option.any_eq_true _ _).1 ((Option.all_eq_true _ _).1 hexpiry limit hlimit)
  exact ⟨expiry, hbody, of_decide_eq_true hle⟩

theorem makes_adminCreateApiKey (hcall : request.call = .adminCreateApiKey userId body)
    (hactor : request.principal s = .ok actor)
    (hchecks : adminCreateApiKeyChecks s actor body = .ok ())
    (hcommit : request.create s userId body = .ok (created, s')) :
    request.Makes s s' actor created.token := by
  obtain ⟨key, hrows, htoken, hgrants⟩ := KeyStore.createApiKey_eq_ok hcommit
  have hmay : mayGrant actor body = true := by
    simp only [adminCreateApiKeyChecks, bind_eq_ok, ensure_eq_ok] at hchecks
    obtain ⟨_, -, _, hmay, -⟩ := hchecks
    exact hmay
  refine ⟨key, hrows, htoken, fun hcontained => hgrants.trans (within_of_mayGrant hmay ?_)⟩
  have hexpiry := hcontained actor hactor
  simp only [hcall] at hexpiry
  exact hexpiry hchecks _ hcommit

theorem makes_createUser {body : CreateUserRequest}
    (hchecks : request.createUserChecks actor body = .ok ())
    (hcommit : request.createUserCommand s (request.initialUserCommand actor body) = .ok ((), s')) :
    ∃ token, request.Makes s s' actor token := by
  simp only [createUserChecks, bind_eq_ok] at hchecks
  obtain ⟨_, hadmin, _, -, command, hcommand, -⟩ := hchecks
  rw [hcommand] at hcommit
  obtain ⟨key, hrows, htoken, hgrants⟩ := KeyStore.createUser_eq_ok hcommit
  exact ⟨command.token, key, hrows, htoken,
    fun _ => hgrants.trans (within_of_initialUserCommand hcommand hadmin)⟩

/-- The keys after a request: those before, and at most one more, which is within the key that the
request was made with. -/
theorem new_key_within (hactor : request.principal s = .ok actor) :
    (request.handle s).2.keys.rows = s.keys.rows ∨
      ∃ token, request.Makes s (request.handle s).2 actor token := by
  have hanswer : request.handle s = request.answer s actor := by rw [handle, hactor]
  rw [hanswer, answer]
  cases hcall : request.call with
  | createApiKey body =>
    exact Request.perform_elim (P := fun s' : KeyStore hashToken =>
        s'.keys.rows = s.keys.rows ∨ ∃ token, request.Makes s s' actor token)
      (.inl rfl) fun created s' hchecks hcommit =>
        .inr ⟨created.token, makes_createApiKey hchecks hcommit⟩
  | adminCreateApiKey userId body =>
    exact Request.perform_elim (P := fun s' : KeyStore hashToken =>
        s'.keys.rows = s.keys.rows ∨ ∃ token, request.Makes s s' actor token)
      (.inl rfl) fun created s' hchecks hcommit =>
        .inr ⟨created.token, makes_adminCreateApiKey hcall hactor hchecks hcommit⟩
  | createUser body =>
    exact Request.perform_elim (P := fun s' : KeyStore hashToken =>
        s'.keys.rows = s.keys.rows ∨ ∃ token, request.Makes s s' actor token)
      (.inl rfl) fun _ s' hchecks hcommit => .inr (makes_createUser hchecks hcommit)
  | getApiKeyToken | listUserApiKeys => exact .inl rfl

/-- The token of the response is that of a key of the store, which is within the key that the
request was made with. -/
def Shows (request : KeyRequest) (s s' : KeyStore hashToken) (actor : Principal) (token : String) :
    Prop :=
  ∃ key ∈ s'.keys.rows, key.token = some token ∧ (request.Contained s → key.grants ≤ actor.grants)

theorem Makes.shows (h : request.Makes s s' actor token) : request.Shows s s' actor token := by
  obtain ⟨key, hrows, htoken, hgrants⟩ := h
  refine ⟨key, ?_, htoken, hgrants⟩
  rw [hrows]
  exact List.mem_append_right _ (List.mem_singleton_self key)

/-- The response to a request for a new key shows the token of that key. -/
theorem shows_created {result : Except ApiError (Option KeyStore.CreatedApiKey)}
    (hmakes : ∀ created, result = .ok (some created) → request.Makes s s' actor created.token)
    (h : (result.map fun key => (key.map KeyResponse.created).getD .replayed) = .ok response)
    (htoken : token ∈ response.tokens) : request.Shows s s' actor token := by
  obtain ⟨key, hresult, rfl⟩ := map_eq_ok.1 h
  cases key with
  | none => cases htoken
  | some created =>
    obtain rfl := List.mem_singleton.1 htoken
    exact (hmakes created hresult).shows

theorem token_shown (hactor : request.principal s = .ok actor)
    (hresponse : (request.handle s).1 = .ok response) (htoken : token ∈ response.tokens) :
    request.Shows s (request.handle s).2 actor token := by
  have hshown := hresponse
  have hmem := htoken
  have hanswer : request.handle s = request.answer s actor := by rw [handle, hactor]
  rw [hanswer, answer] at hresponse ⊢
  cases hcall : request.call with
  | createApiKey body =>
    rw [hcall] at hresponse
    refine shows_created (fun created hcreated => ?_) hresponse htoken
    obtain ⟨hchecks, hcommit⟩ := Request.perform_eq_some hcreated
    exact makes_createApiKey hchecks hcommit
  | adminCreateApiKey userId body =>
    rw [hcall] at hresponse
    refine shows_created (fun created hcreated => ?_) hresponse htoken
    obtain ⟨hchecks, hcommit⟩ := Request.perform_eq_some hcreated
    exact makes_adminCreateApiKey hcall hactor hchecks hcommit
  | createUser body =>
    rw [hcall] at hresponse
    obtain ⟨user, -, rfl⟩ := map_eq_ok.1 hresponse
    cases user with
    | none | some => cases htoken
  | getApiKeyToken keyId =>
    rw [hcall] at hresponse
    obtain ⟨text, hread, rfl⟩ := map_eq_ok.1 hresponse
    obtain rfl := List.mem_singleton.1 htoken
    simp only [getApiKeyToken, bind_eq_ok, mapError_eq_ok, okOr_eq_ok, pure_eq_ok] at hread
    obtain ⟨_, -, stored, hstored, _, rfl, _, -, rfl⟩ := hread
    obtain ⟨key, hkey, -, -, htext⟩ := KeyStore.getApiKeyToken_eq_ok hstored
    refine ⟨key, hkey, htext, fun hcontained => ?_⟩
    have hwithin := hcontained actor hactor
    simp only [hcall] at hwithin
    exact hwithin _ hshown _ hmem key hkey htext
  | listUserApiKeys userId status limit cursor =>
    rw [hcall] at hresponse
    obtain ⟨keys, hlist, rfl⟩ := map_eq_ok.1 hresponse
    obtain ⟨item, hitem, htext⟩ := List.mem_filterMap.1 htoken
    simp only [listUserApiKeys, bind_eq_ok, mapError_eq_ok] at hlist
    obtain ⟨_, -, _, -, hpage⟩ := hlist
    obtain ⟨key, hkey, -, hkeyText⟩ := KeyStore.token_of_page hpage hitem
    refine ⟨key, hkey, hkeyText.trans htext, fun hcontained => ?_⟩
    have hwithin := hcontained actor hactor
    simp only [hcall] at hwithin
    exact hwithin _ hshown _ hmem key hkey (hkeyText.trans htext)

/-- Every token that the caller knows after the request is that of a key within theirs. -/
theorem shows_of_mem_obtains (hactor : request.principal s = .ok actor)
    (h : token ∈ request.obtains s) : request.Shows s (request.handle s).2 actor token := by
  rcases List.mem_append.1 h with hresponse | hmade
  · cases hanswer : (request.handle s).1 with
    | error e =>
      rw [hanswer] at hresponse
      cases hresponse
    | ok response =>
      rw [hanswer] at hresponse
      exact token_shown hactor hanswer hresponse
  · obtain ⟨key, hkey, htoken⟩ := List.mem_filterMap.1 hmade
    obtain ⟨hkey, hnew⟩ := List.mem_filter.1 hkey
    have hnew := of_decide_eq_true hnew
    rcases new_key_within hactor with hrows | ⟨_, other, hrows, -, hgrants⟩
    · exact absurd (hrows ▸ hkey) hnew
    · have hother : key = other := by
        rw [hrows] at hkey
        rcases List.mem_append.1 hkey with hold | hadded
        · exact absurd hold hnew
        · exact List.mem_singleton.1 hadded
      exact ⟨key, hkey, htoken, hother ▸ hgrants⟩

end KeyRequest

/-! ### Runs -/

/-- The store, and the tokens that somebody holds. -/
structure KeyRun (hashToken : String → String) where
  store : KeyStore hashToken
  tokens : List String

namespace KeyRun

variable {run run' : KeyRun hashToken}

/-- The request is made with a token that is held. -/
def holds (run : KeyRun hashToken) (request : KeyRequest) : Bool :=
  request.bearer.any fun token => token ∈ run.tokens

/-- After a request of the holder more tokens may be held; after a request of somebody else not. -/
def after (run : KeyRun hashToken) (request : KeyRequest) : KeyRun hashToken where
  store := (request.handle run.store).2
  tokens := if run.holds request then request.obtains run.store ++ run.tokens else run.tokens

/-- `SET revoked_at`. -/
def revoke (now : ℤ) (key : ApiKeyRow) : ApiKeyRow := { key with revokedAt := some now }

/-- Keys that were revoked, and whatever has become of the people and the templates. -/
def elsewhere (run : KeyRun hashToken) (directory : Directory) (templates : TemplateTable)
    (revoked : ApiKeyRow → Bool) (now : ℤ) : KeyRun hashToken where
  store :=
    { directory
      templates
      keys := run.store.keys.update revoked (revoke now) fun _ => rfl
      hashed := by
        intro key hkey token htoken
        obtain ⟨old, hold, rfl⟩ := Table.mem_update.1 hkey
        rw [Table.apply_change (f := revoke now) ApiKeyRow.token fun _ _ => rfl] at htoken
        rw [Table.apply_change (f := revoke now) ApiKeyRow.tokenHash fun _ _ => rfl]
        exact run.store.hashed old hold token htoken }
  tokens := run.tokens

/-- A request, which is contained if the holder makes it, or something else. -/
inductive Step : KeyRun hashToken → KeyRun hashToken → Prop
  | request {run : KeyRun hashToken} (request : KeyRequest)
      (hcontained : run.holds request = true → request.Contained run.store) :
      Step run (run.after request)
  | elsewhere {run : KeyRun hashToken} (directory : Directory) (templates : TemplateTable)
      (revoked : ApiKeyRow → Bool) (now : ℤ) :
      Step run (run.elsewhere directory templates revoked now)

/-- Every token that is held is that of a key within the bound. -/
def Bounded (bound : KeyGrants) (run : KeyRun hashToken) : Prop :=
  ∀ token ∈ run.tokens, ∃ key ∈ run.store.keys.rows,
    key.opens hashToken token = true ∧ key.grants ≤ bound

theorem mem_keys_after {key : ApiKeyRow} (h : key ∈ run.store.keys.rows) :
    key ∈ (run.after request).store.keys.rows := by
  change key ∈ (request.handle run.store).2.keys.rows
  cases hactor : request.principal run.store with
  | error e =>
    rw [KeyRequest.handle, hactor]
    exact h
  | ok actor =>
    rcases KeyRequest.new_key_within hactor with hrows | ⟨_, _, hrows, -⟩
    · rw [hrows]
      exact h
    · rw [hrows]
      exact List.mem_append_left _ h

theorem Bounded.principal (h : run.Bounded bound) (hholds : run.holds request = true)
    (hactor : request.principal run.store = .ok actor) : actor.grants ≤ bound := by
  obtain ⟨token, hbearer, hheld⟩ := (Option.any_eq_true _ _).1 hholds
  simp only [KeyRequest.principal, hbearer, bind_eq_ok, okOr_eq_ok, mapError_eq_ok,
    Option.some_inj, exists_eq_left'] at hactor
  obtain ⟨_, hauthenticate, rfl⟩ := hactor
  obtain ⟨key, hkey, hopens, hgrants⟩ := KeyStore.grants_of_authenticate hauthenticate
  obtain ⟨other, hother, hopens', hbound⟩ := h token (of_decide_eq_true hheld)
  -- the two rows have the same token
  rw [← hgrants, KeyStore.eq_of_opens hkey hother hopens hopens']
  exact hbound

theorem Bounded.after (h : run.Bounded bound)
    (hcontained : run.holds request = true → request.Contained run.store) :
    (run.after request).Bounded bound := by
  intro token htoken
  have hold : token ∈ run.tokens → ∃ key ∈ (run.after request).store.keys.rows,
      key.opens hashToken token = true ∧ key.grants ≤ bound := by
    intro hheld
    obtain ⟨key, hkey, hkeys⟩ := h token hheld
    exact ⟨key, mem_keys_after hkey, hkeys⟩
  simp only [KeyRun.after] at htoken
  split at htoken
  · rename_i hholds
    rcases List.mem_append.1 htoken with hobtained | hheld
    · cases hactor : request.principal run.store with
      | error e =>
        simp [KeyRequest.obtains, KeyRequest.handle, hactor] at hobtained
      | ok actor =>
        obtain ⟨key, hkey, htext, hgrants⟩ := KeyRequest.shows_of_mem_obtains hactor hobtained
        exact ⟨key, hkey, KeyStore.opens_of_token htext,
          (hgrants (hcontained hholds)).trans (h.principal hholds hactor)⟩
    · exact hold hheld
  · exact hold htoken

theorem Bounded.elsewhere (h : run.Bounded bound) (directory : Directory)
    (templates : TemplateTable) (revoked : ApiKeyRow → Bool) (now : ℤ) :
    (run.elsewhere directory templates revoked now).Bounded bound := by
  intro token htoken
  obtain ⟨key, hkey, hopens, hgrants⟩ := h token htoken
  refine ⟨Table.change revoked (revoke now) key,
    (@Table.mem_update _ _ _ _ _ (revoke now) (fun _ => rfl) _).2 ⟨key, hkey, rfl⟩, ?_, ?_⟩
  · rw [Table.apply_change (f := revoke now) (fun key => key.opens hashToken token) fun _ _ => rfl]
    exact hopens
  · rw [Table.apply_change (f := revoke now) ApiKeyRow.grants fun _ _ => rfl]
    exact hgrants

/-- **A token whose key was revoked never opens the store again**, whatever is done. -/
theorem revoked_token_stays_out (h : Relation.ReflTransGen Step run run') {key : ApiKeyRow}
    (hkey : key ∈ run.store.keys.rows) (hopens : key.opens hashToken token = true)
    (hrevoked : key.revokedAt ≠ none) (now : ℤ) :
    run'.store.authenticate token now = .ok none := by
  have hstays : ∃ key ∈ run'.store.keys.rows, key.opens hashToken token = true ∧
      key.revokedAt ≠ none := by
    induction h with
    | refl => exact ⟨key, hkey, hopens, hrevoked⟩
    | tail _ hstep ih =>
      obtain ⟨key, hkey, hopens, hrevoked⟩ := ih
      cases hstep with
      | request => exact ⟨key, mem_keys_after hkey, hopens, hrevoked⟩
      | elsewhere _ _ revoked at' =>
        refine ⟨_, List.mem_map_of_mem hkey, ?_⟩
        cases hchosen : revoked key with
        | true =>
          rw [Table.change_of_pos hchosen]
          exact ⟨hopens, nofun⟩
        | false =>
          rw [Table.change_of_neg hchosen]
          exact ⟨hopens, hrevoked⟩
  obtain ⟨key, hkey, hopens, hrevoked⟩ := hstays
  unfold KeyStore.authenticate
  split
  · rfl
  · split
    · rfl
    · rename_i other hfind
      have hother := List.find?_some hfind
      simp only [Bool.and_eq_true, Option.isNone_iff_eq_none] at hother
      rw [KeyStore.eq_of_opens hkey (List.mem_of_find?_eq_some hfind) hopens hother.1.1.1.1]
        at hrevoked
      exact absurd hother.1.1.1.2 hrevoked

end KeyRun

/-- **No escalation.**  Whoever holds the token of a key and makes contained requests with it and
with the tokens so obtained, while others make any requests, revoke keys and change the people and
the templates, holds in the end only tokens of keys that have no other scopes than the first key, a
template restriction at least as narrow, and no later expiry. -/
theorem obtained_tokens_within {hashToken : String → String} {run run' : KeyRun hashToken}
    (h : Relation.ReflTransGen KeyRun.Step run run') {first : ApiKeyRow} {token : String}
    (hfirst : first ∈ run.store.keys.rows) (hopens : first.opens hashToken token = true)
    (hheld : run.tokens = [token]) :
    ∀ t ∈ run'.tokens, (∃ key ∈ run'.store.keys.rows, key.opens hashToken t = true) ∧
      ∀ key ∈ run'.store.keys.rows, key.opens hashToken t = true → key.grants ≤ first.grants := by
  have hbounded : run'.Bounded first.grants := by
    induction h with
    | refl =>
      intro t ht
      rw [hheld, List.mem_singleton] at ht
      exact ⟨first, hfirst, ht ▸ hopens, le_rfl⟩
    | tail _ hstep ih =>
      cases hstep with
      | request request hcontained => exact ih.after hcontained
      | elsewhere directory templates revoked now =>
        exact ih.elsewhere directory templates revoked now
  intro t ht
  obtain ⟨key, hkey, hopens, hgrants⟩ := hbounded t ht
  refine ⟨⟨key, hkey, hopens⟩, fun other hother hopens' => ?_⟩
  rw [KeyStore.eq_of_opens hother hkey hopens' hopens]
  exact hgrants

/-! ### A sample -/

def sampleApiKey (id : Uuid) (token : String) (scopes : List ApiKeyScope) (expiresAt : ℤ) :
    ApiKeyRow where
  id := id
  userId := sampleUserId
  name := "key"
  tokenPrefix := tokenPrefix token
  tokenHash := token
  token := some token
  createdAt := 0
  revokedAt := none
  scopes := .granted scopes
  expiresAt := some expiresAt
  allowedTemplateIds := none

def sampleToken : String := "mwc_00000000000000000000000000000000000000000001"

def sampleFullToken : String := "mwc_00000000000000000000000000000000000000000002"

def sampleNarrowKey : ApiKeyRow :=
  sampleApiKey sampleWorkspaceId sampleToken [.manageApiKeys, .manageSystem] 100

def sampleFullKey : ApiKeyRow :=
  sampleApiKey sampleOperationId sampleFullToken (ApiKeyScope.initialKeyDefaults true) 1000

/-- A system administrator with two keys; a token is its own hash. -/
def sampleKeyStore : KeyStore id where
  directory :=
    { organizations := .empty _
      users := ⟨[⟨sampleUserId, "user", true, false, 0⟩], by simp⟩
      memberships := .empty _ }
  templates := .empty _
  keys := ⟨[sampleNarrowKey, sampleFullKey], by decide⟩
  hashed := by
    intro key hkey token htoken
    simp only [List.mem_cons, List.not_mem_nil, or_false] at hkey
    rcases hkey with rfl | rfl
    · exact Option.some_inj.1 htoken
    · exact Option.some_inj.1 htoken

def sampleKeyRequest (call : KeyCall) : KeyRequest where
  bearer := some sampleToken
  clock := 10
  now := 10
  call := call
  newUserId := sampleJobId
  newId := sampleJobId
  drawn := .ok "mwc_00000000000000000000000000000000000000000003"
  idempotencyKey := true
  decision := .ok .reserved
  followUp := .ok ()

/-- A request for a key with one of the scopes of the narrow key. -/
def sampleCreation : KeyRequest :=
  sampleKeyRequest (.createApiKey ⟨"ci", [.manageApiKeys], some 50, none⟩)

def sampleKeyRun : KeyRun id := ⟨sampleKeyStore, [sampleToken]⟩

theorem obtained_tokens_within_sample :
    (sampleKeyRun.after sampleCreation).tokens
        = ["mwc_00000000000000000000000000000000000000000003",
          "mwc_00000000000000000000000000000000000000000003", sampleToken] ∧
      ∀ t ∈ (sampleKeyRun.after sampleCreation).tokens,
        (∃ key ∈ (sampleKeyRun.after sampleCreation).store.keys.rows, key.opens id t = true) ∧
        ∀ key ∈ (sampleKeyRun.after sampleCreation).store.keys.rows,
          key.opens id t = true → key.grants ≤ sampleNarrowKey.grants :=
  ⟨by decide +kernel,
    obtained_tokens_within (.single (.request sampleCreation fun _ _ _ => trivial))
      List.mem_cons_self (by decide) rfl⟩

/-- The narrow key is revoked, and used. -/
theorem revoked_token_stays_out_sample :
    ((sampleKeyRun.elsewhere sampleKeyStore.directory (.empty _) (fun _ => true) 5).after
      sampleCreation).store.authenticate sampleToken 20 = .ok none :=
  KeyRun.revoked_token_stays_out (.single (.request sampleCreation fun _ _ _ => trivial))
    List.mem_cons_self (by decide) (by decide) 20

/-- The request is made with the narrow key, and afterwards its holder holds the token of a key that
is not within it. -/
def Escalates (request : KeyRequest) : Prop :=
  ∃ token ∈ (sampleKeyRun.after request).tokens,
    ∃ key ∈ (sampleKeyRun.after request).store.keys.rows,
      key.opens id token = true ∧ ¬ key.grants ≤ sampleNarrowKey.grants

instance (request : KeyRequest) : Decidable (Escalates request) :=
  inferInstanceAs (Decidable (∃ token ∈ (sampleKeyRun.after request).tokens,
    ∃ key ∈ (sampleKeyRun.after request).store.keys.rows,
      key.opens id token = true ∧ ¬ key.grants ≤ sampleNarrowKey.grants))

/-- The narrow key reads the token of the other key of its user; it lists the tokens of a user; and
it makes a key that outlives it. -/
theorem tokens_escalate :
    Escalates (sampleKeyRequest (.getApiKeyToken sampleOperationId)) ∧
      Escalates (sampleKeyRequest (.listUserApiKeys sampleUserId none none none)) ∧
      Escalates (sampleKeyRequest (.adminCreateApiKey sampleUserId
        ⟨"ci", [.manageApiKeys], some 2000, none⟩)) :=
  ⟨by decide +kernel, by decide +kernel, by decide +kernel⟩

end WorkspaceControl
