/-
**Revoking one's own keys.**

`src/src/storage/user_settings/api_keys/revocation.rs`: a user who revokes a key must keep another
one to manage keys with, and as a system administrator another one to manage the system with.  The
checks and the update are several statements; on PostgreSQL they run under the lock of the user's
row, which new keys and account updates of the same user take too, and on SQLite they run alone.

Main definitions:

* `KeyStore.revokeApiKey` — the revocation, as it runs alone;
* `revokeApiKeyPostgres`, `createApiKeyPostgres` — the statements on PostgreSQL;
* `KeyChange`, `keyPool` — revocations, new keys, new users and account updates, interleaved;
* `RecoveryKeysRemain` — what is left after a revocation.

Main results:

* `revocation_leaves_recovery_key` — **a committed revocation leaves another key with the scope**.
-/
import WorkspaceControl.ApiKeys
import WorkspaceControl.DirectoryTransactions

set_option autoImplicit false

namespace WorkspaceControl

open Fallible Relational Transactions Transaction

/-! ### The checks -/

/-- `serde_json::from_str` of the scopes: the wildcard of old keys is no scope. -/
def StoredScopes.parse : StoredScopes → Except StorageError (List ApiKeyScope)
  | granted scopes => .ok scopes
  | wildcard => .error .json

variable {other userId : Uuid} {hashToken : String → String}

theorem StoredScopes.parse_eq_ok {stored : StoredScopes} {scopes : List ApiKeyScope}
    (h : stored.parse = .ok scopes) : stored.scopes = scopes := by
  cases stored with
  | granted granted => exact Except.ok.inj h
  | wildcard => cases h

/-- `expires_at IS NULL OR expires_at > now`. -/
def unexpired (expiresAt : Option ℤ) (now : ℤ) : Bool := expiresAt.all (now < ·)

def countKeysWithScope (keys : List (List ApiKeyScope)) (required : ApiKeyScope) : ℕ :=
  (keys.filter fun scopes => scopes.contains required).length

def ensureRecoveryKeyRemains (revoked : List ApiKeyScope) (active : List (List ApiKeyScope))
    (systemAdmin : Bool) : Except StorageError Unit := do
  ensure (!(revoked.contains .manageApiKeys && countKeysWithScope active .manageApiKeys ≤ 1))
    .lastApiKey
  ensure (!(systemAdmin && revoked.contains .manageSystem &&
    countKeysWithScope active .manageSystem ≤ 1)) .lastApiKey

structure ActiveKeyDetails where
  scopes : List ApiKeyScope
  expiresAt : Option ℤ

/-- A key that has expired is nobody's recovery key. -/
def guardRevocation (key : ActiveKeyDetails) (active : List (List ApiKeyScope))
    (systemAdmin : Bool) (now : ℤ) : Except StorageError Unit :=
  if unexpired key.expiresAt now then ensureRecoveryKeyRemains key.scopes active systemAdmin
  else pure ()

structure ApiKeyRevokeResult where
  changed : Bool
  remainingActive : ℕ

namespace KeyStore

/-- The unrevoked row of a key. -/
def isActiveKey (userId keyId : Uuid) (key : ApiKeyRow) : Bool :=
  key.userId = userId && key.id = keyId && key.revokedAt.isNone

def activeKeyDetails (s : KeyStore hashToken) (userId keyId : Uuid) :
    Except StorageError ActiveKeyDetails := do
  let key ← okOr (s.keys.rows.find? (isActiveKey userId keyId)) .apiKeyNotFound
  let scopes ← key.scopes.parse
  pure ⟨scopes, key.expiresAt⟩

/-- The keys that a user can still use. -/
def usableKeys (s : KeyStore hashToken) (userId : Uuid) (now : ℤ) : List ApiKeyRow :=
  s.keys.rows.filter fun key =>
    key.userId = userId && key.revokedAt.isNone && unexpired key.expiresAt now

def allActiveKeyScopes (s : KeyStore hashToken) (userId : Uuid) (now : ℤ) :
    Except StorageError (List (List ApiKeyScope)) :=
  (s.usableKeys userId now).mapM fun key => key.scopes.parse

def userIsSystemAdmin (s : KeyStore hashToken) (userId : Uuid) : Except StorageError Bool := do
  let user ← okOr (s.directory.users.find userId)
    (.database "no rows returned by a query that expected to return at least one row")
  pure user.systemAdmin

/-- `UPDATE user_api_keys SET revoked_at`. -/
def revokeKey (s : KeyStore hashToken) (userId keyId : Uuid) (now : ℤ) : KeyStore hashToken :=
  { s with
    keys := s.keys.update (isActiveKey userId keyId)
      (fun key => { key with revokedAt := some now }) fun _ => rfl
    hashed := by
      intro key hkey token htoken
      rcases Table.mem_update_cases hkey with ⟨hold, -⟩ | ⟨old, hold, -, rfl⟩
      · exact s.hashed key hold token htoken
      · exact s.hashed old hold token htoken }

/-- How many rows an update of the key finds. -/
def revocable (s : KeyStore hashToken) (userId keyId : Uuid) : ℕ :=
  (s.keys.rows.filter (isActiveKey userId keyId)).length

def revokeApiKey (s : KeyStore hashToken) (userId keyId : Uuid) (now : ℤ) :
    Except StorageError (ApiKeyRevokeResult × KeyStore hashToken) := do
  ensure (s.directory.enabledUser userId) .userNotFound
  let key ← s.activeKeyDetails userId keyId
  let active ← s.allActiveKeyScopes userId now
  let systemAdmin ← s.userIsSystemAdmin userId
  guardRevocation key active systemAdmin now
  ensure (s.revocable userId keyId = 1) .apiKeyNotFound
  let s := s.revokeKey userId keyId now
  pure (⟨true, (s.usableKeys userId now).length⟩, s)

/-! ### What is left -/

/-- The identifiers are a primary key. -/
def IdsDistinct (s : KeyStore hashToken) : Prop := (s.keys.rows.map ApiKeyRow.id).Nodup

theorem IdsDistinct.eq_of_id {s : KeyStore hashToken} (h : s.IdsDistinct) {key other : ApiKeyRow}
    (hkey : key ∈ s.keys.rows) (hother : other ∈ s.keys.rows) (hid : key.id = other.id) :
    key = other :=
  List.inj_on_of_nodup_map h hkey hother hid

/-- The scopes that a user must not lose. -/
def RequiresRecovery (s : KeyStore hashToken) (userId : Uuid) (scope : ApiKeyScope) : Prop :=
  scope = .manageApiKeys ∨
    scope = .manageSystem ∧ (s.directory.users.find userId).any UserRow.systemAdmin = true

end KeyStore

/-- **What a revocation leaves**: if a key is revoked between `s` and `s'` at `now`, when it had not
expired, then its user has another key with each scope that must not be lost, which is neither
revoked nor expired. -/
def RecoveryKeysRemain {hashToken : String → String} (s s' : KeyStore hashToken) : Prop :=
  ∀ key ∈ s.keys.rows, ∀ key' ∈ s'.keys.rows, key'.id = key.id →
    key.revokedAt = none → ∀ now, key'.revokedAt = some now → unexpired key.expiresAt now = true →
    ∀ scope ∈ key.scopes.scopes, s.RequiresRecovery key.userId scope →
      ∃ other ∈ s'.keys.rows, other.id ≠ key.id ∧ other.userId = key.userId ∧
        other.revokedAt = none ∧ unexpired other.expiresAt now = true ∧
        scope ∈ other.scopes.scopes

namespace KeyStore

variable {s s' : KeyStore hashToken} {keyId : Uuid} {now : ℤ}

theorem recoveryKeysRemain_of_new (hids : s.IdsDistinct)
    (h : ∀ key ∈ s'.keys.rows, key ∈ s.keys.rows ∨ key.revokedAt = none) :
    RecoveryKeysRemain s s' := by
  intro key hkey key' hkey' hid hactive now hrevoked
  rcases h key' hkey' with hold | hnew
  · rw [hids.eq_of_id hold hkey hid, hactive] at hrevoked
    cases hrevoked
  · rw [hnew] at hrevoked
    cases hrevoked

variable {active : List (List ApiKeyScope)} {details : ActiveKeyDetails} {key : ApiKeyRow}
  {scope : ApiKeyScope} {summary : ApiKeySummary} {systemAdmin : Bool} {token : String} {u : Unit}

theorem activeKeyDetails_eq_ok (h : s.activeKeyDetails userId keyId = .ok details) :
    ∃ key ∈ s.keys.rows, isActiveKey userId keyId key = true ∧
      key.scopes.scopes = details.scopes ∧ key.expiresAt = details.expiresAt := by
  simp only [activeKeyDetails, bind_eq_ok, okOr_eq_ok, pure_eq_ok] at h
  obtain ⟨key, hfind, scopes, hscopes, rfl⟩ := h
  exact ⟨key, List.mem_of_find?_eq_some hfind, List.find?_some hfind,
    StoredScopes.parse_eq_ok hscopes, rfl⟩

/-- What is counted are the usable keys with the scope. -/
theorem countKeysWithScope_of_mapM {rows : List ApiKeyRow}
    (h : rows.mapM (fun key => key.scopes.parse) = .ok active) (scope : ApiKeyScope) :
    countKeysWithScope active scope =
      (rows.filter fun key => key.scopes.scopes.contains scope).length := by
  have hall := mapM_eq_ok.1 h
  clear h
  induction hall with
  | nil => rfl
  | @cons key scopes rows active hkey _ ih =>
    rw [countKeysWithScope] at ih ⊢
    rw [List.filter_cons, List.filter_cons, StoredScopes.parse_eq_ok hkey]
    split
    · rw [List.length_cons, List.length_cons, ih]
    · exact ih

theorem mem_usableKeys : key ∈ s.usableKeys userId now ↔ key ∈ s.keys.rows ∧
    key.userId = userId ∧ key.revokedAt = none ∧ unexpired key.expiresAt now = true := by
  simp [usableKeys, List.mem_filter, and_assoc]

/-- Where two usable keys with the scope are counted, one is another key. -/
theorem exists_other_usable (hids : s.IdsDistinct)
    (h : s.allActiveKeyScopes userId now = .ok active)
    (hcount : ¬countKeysWithScope active scope ≤ 1) (keyId : Uuid) :
    ∃ other ∈ s.keys.rows, other.id ≠ keyId ∧ other.userId = userId ∧ other.revokedAt = none ∧
      unexpired other.expiresAt now = true ∧ scope ∈ other.scopes.scopes := by
  rw [countKeysWithScope_of_mapM h, not_le] at hcount
  have hnodup : (((s.usableKeys userId now).filter fun key =>
      key.scopes.scopes.contains scope).map ApiKeyRow.id).Nodup :=
    (List.Sublist.map ApiKeyRow.id (List.filter_sublist.trans List.filter_sublist)).nodup hids
  obtain ⟨other, hother, hne⟩ := Directory.exists_key_ne hnodup hcount keyId
  obtain ⟨husable, hscope⟩ := List.mem_filter.1 hother
  obtain ⟨hmem, huser, hactive, hunexpired⟩ := mem_usableKeys.1 husable
  exact ⟨other, hmem, hne, huser, hactive, hunexpired, List.contains_iff_mem.1 hscope⟩

theorem guardRevocation_eq_ok (h : guardRevocation details active systemAdmin now = .ok u)
    (hunexpired : unexpired details.expiresAt now = true) (hscope : scope ∈ details.scopes)
    (hrequired : scope = .manageApiKeys ∨ scope = .manageSystem ∧ systemAdmin = true) :
    ¬countKeysWithScope active scope ≤ 1 := by
  rw [guardRevocation, if_pos hunexpired, ensureRecoveryKeyRemains, ensure_bind_eq_ok,
    ensure_eq_ok, Bool.not_eq_true', Bool.not_eq_true'] at h
  obtain ⟨hkeys, hsystem⟩ := h
  intro hcount
  rcases hrequired with rfl | ⟨rfl, rfl⟩
  · simp [hscope, hcount] at hkeys
  · simp [hscope, hcount] at hsystem

theorem keys_revokeKey : (s.revokeKey userId keyId now).keys =
    s.keys.update (isActiveKey userId keyId) (fun key => { key with revokedAt := some now })
      fun _ => rfl := rfl

theorem mem_revokeKey_of_ne (h : key ∈ s.keys.rows) (hne : key.id ≠ keyId) :
    key ∈ (s.revokeKey userId keyId now).keys.rows := by
  rw [keys_revokeKey]
  exact Table.mem_update_of_not h (by simp [isActiveKey, hne])

/-- The keys of a user are the same in both. -/
def SameKeys (userId : Uuid) (s s' : KeyStore hashToken) : Prop :=
  ∀ key : ApiKeyRow, key.userId = userId → (key ∈ s'.keys.rows ↔ key ∈ s.keys.rows)

/-- A revocation is of a key of its user. -/
theorem sameKeys_revokeKey (h : other ≠ userId) :
    SameKeys other s (s.revokeKey userId keyId now) := by
  rintro key rfl
  rw [keys_revokeKey]
  constructor
  · intro hkey
    rcases Table.mem_update_cases hkey with ⟨hold, -⟩ | ⟨row, -, hmatches, rfl⟩
    · exact hold
    · simp only [isActiveKey, Bool.and_eq_true, decide_eq_true_eq] at hmatches
      exact absurd hmatches.1.1 h
  · intro hkey
    exact Table.mem_update_of_not hkey (by simp [isActiveKey, h])

/-- **What the checks of a revocation give**, when the keys of the user are still those that each
check has seen. -/
theorem recoveryKeysRemain_of_checks {s₁ s₂ : KeyStore hashToken} (hids : s.IdsDistinct)
    (hids₂ : s₂.IdsDistinct) (hsame₁ : SameKeys userId s₁ s) (hsame₂ : SameKeys userId s₂ s)
    (hdetails : s₁.activeKeyDetails userId keyId = .ok details)
    (hactive : s₂.allActiveKeyScopes userId now = .ok active)
    (hadmin : (s.directory.users.find userId).any UserRow.systemAdmin = true → systemAdmin = true)
    (hguard : guardRevocation details active systemAdmin now = .ok u) :
    RecoveryKeysRemain s (s.revokeKey userId keyId now) := by
  intro key hkey key' hkey' hid hunrevoked t hrevoked hunexpired scope hscope hrequired
  rw [keys_revokeKey] at hkey'
  rcases Table.mem_update_cases hkey' with ⟨hold, -⟩ | ⟨row, hrow, hmatches, rfl⟩
  · -- a row that the update leaves
    rw [hids.eq_of_id hold hkey hid, hunrevoked] at hrevoked
    cases hrevoked
  · obtain rfl : now = t := Option.some_inj.1 hrevoked
    obtain rfl : row = key := hids.eq_of_id hrow hkey hid
    obtain ⟨seen, hseen, hseenActive, hscopes, hexpires⟩ := activeKeyDetails_eq_ok hdetails
    simp only [isActiveKey, Bool.and_eq_true, decide_eq_true_eq] at hmatches hseenActive
    obtain ⟨⟨rfl, rfl⟩, -⟩ := hmatches
    obtain rfl : seen = row := hids.eq_of_id ((hsame₁ seen hseenActive.1.1).2 hseen) hrow
      hseenActive.1.2
    have hcount := guardRevocation_eq_ok hguard (hexpires ▸ hunexpired) (hscopes ▸ hscope)
      (hrequired.imp_right fun h => ⟨h.1, hadmin h.2⟩)
    obtain ⟨other, hother, hne, huser, hfacts⟩ := exists_other_usable hids₂ hactive hcount seen.id
    exact ⟨other, mem_revokeKey_of_ne ((hsame₂ other huser).2 hother) hne, hne, huser, hfacts⟩

theorem revokeApiKey_eq_ok {result : ApiKeyRevokeResult}
    (h : s.revokeApiKey userId keyId now = .ok (result, s')) (hids : s.IdsDistinct) :
    RecoveryKeysRemain s s' ∧ s' = s.revokeKey userId keyId now := by
  simp only [revokeApiKey, bind_eq_ok, pure_eq_ok, Prod.mk.injEq] at h
  obtain ⟨_, -, details, hdetails, active, hactive, systemAdmin, hadmin, _, hguard, _, -, -, rfl⟩ := h
  refine ⟨recoveryKeysRemain_of_checks hids hids (fun _ _ => Iff.rfl) (fun _ _ => Iff.rfl) hdetails
    hactive ?_ hguard, rfl⟩
  simp only [userIsSystemAdmin, bind_eq_ok, okOr_eq_ok, pure_eq_ok] at hadmin
  obtain ⟨user, huser, rfl⟩ := hadmin
  simp [huser]

theorem idsDistinct_revokeKey (h : s.IdsDistinct) : (s.revokeKey userId keyId now).IdsDistinct := by
  rw [IdsDistinct, keys_revokeKey, Table.map_rows_update ApiKeyRow.id (by simp)]
  exact h

theorem insertKey_inserts (h : s.insertKey userId summary token = .ok s') :
    s'.directory = s.directory ∧
      (∀ key ∈ s.keys.rows, key.id ≠ summary.id) ∧
      s'.keys.rows = s.keys.rows ++ [newKey hashToken summary userId token] := by
  refine ⟨?_, ?_, insertKey_eq_ok h⟩ <;> unfold insertKey at h <;> split at h
  · cases h
  · split at h
    · cases h
    · obtain rfl := Except.ok.inj h
      rfl
  · cases h
  · rename_i hnew
    intro key hkey hid
    exact hnew (List.any_eq_true.2 ⟨key, hkey, by simpa using hid⟩)

theorem idsDistinct_insertKey (h : s.insertKey userId summary token = .ok s')
    (hids : s.IdsDistinct) : s'.IdsDistinct := by
  obtain ⟨-, hnew, hrows⟩ := insertKey_inserts h
  rw [IdsDistinct, hrows, List.map_append, List.nodup_append']
  refine ⟨hids, List.nodup_singleton _, ?_⟩
  intro id hid hid'
  obtain ⟨key, hkey, rfl⟩ := List.mem_map.1 hid
  exact hnew key hkey (List.mem_singleton.1 hid')

theorem sameKeys_insertKey (h : s.insertKey userId summary token = .ok s') {other : Uuid}
    (hother : other ≠ userId) : SameKeys other s s' := by
  rintro key rfl
  rw [(insertKey_inserts h).2.2, List.mem_append]
  refine ⟨fun hkey => hkey.resolve_right fun hnew => hother ?_, .inl⟩
  rw [List.mem_singleton.1 hnew]
  rfl

theorem unrevoked_insertKey (h : s.insertKey userId summary token = .ok s') :
    ∀ key ∈ s'.keys.rows, key ∈ s.keys.rows ∨ key.revokedAt = none := by
  intro key hkey
  rw [(insertKey_inserts h).2.2] at hkey
  exact (List.mem_append.1 hkey).imp_right fun hnew => by rw [List.mem_singleton.1 hnew]; rfl

end KeyStore

/-! ### Statements -/

section Statements

abbrev KeyTransaction (hashToken : String → String) (α : Type) : Type :=
  Transaction DirectoryLock (KeyStore hashToken) StorageError α

/-- `SELECT id FROM users WHERE .. AND disabled = 0 FOR UPDATE`. -/
def lockUser (userId : Uuid) : KeyTransaction hashToken Unit := do
  let snapshot ← query
  require (snapshot.directory.enabledUser userId) .userNotFound
  lockRow snapshot (.user userId) .exclusive
  let s ← query
  require (s.directory.enabledUser userId) .userNotFound

/-- Each check is a query of its own. -/
def revokeApiKeyPostgres (userId keyId : Uuid) (now : ℤ) :
    KeyTransaction hashToken ApiKeyRevokeResult := do
  lockUser userId
  let s₁ ← query
  let key ← lift (s₁.activeKeyDetails userId keyId)
  let s₂ ← query
  let active ← lift (s₂.allActiveKeyScopes userId now)
  let s₃ ← query
  let systemAdmin ← lift (s₃.userIsSystemAdmin userId)
  lift (guardRevocation key active systemAdmin now)
  let s₄ ← query
  require (s₄.revocable userId keyId = 1) .apiKeyNotFound
  commit fun s => some (s.revokeKey userId keyId now)
  pure ⟨true, ((s₄.revokeKey userId keyId now).usableKeys userId now).length⟩

def createApiKeyPostgres (newId : Uuid) (drawn : Except StorageError String) (userId : Uuid)
    (name : String) (scopes : List ApiKeyScope) (expiresAt : Option ℤ)
    (allowedTemplateIds : Option (List Uuid)) (now : ℤ) :
    KeyTransaction hashToken KeyStore.CreatedApiKey := do
  let name ← lift (validateApiKeyName name)
  let scopes ← lift (validateScopes scopes)
  lift (validateExpiration expiresAt now)
  let token ← lift drawn
  lockUser userId
  let s ← query
  require ((s.keys.rows.filter fun key => key.userId = userId && key.revokedAt.isNone).length
    < maxActiveApiKeys) .tooManyApiKeys
  commit fun s => (s.insertKey userId ⟨newId, name, tokenPrefix token, now, scopes, expiresAt,
    allowedTemplateIds, none⟩ token).toOption
  pure ⟨⟨newId, name, tokenPrefix token, now, scopes, expiresAt, allowedTemplateIds, none⟩, token⟩

/-- The organization of a new user is locked while it is referred to. -/
def createUserWithKeyPostgres (newUserId newId : Uuid) (command : KeyStore.InitialUserCommand)
    (now : ℤ) : KeyTransaction hashToken Unit := do
  let snapshot ← query
  require (command.membership.all fun m => (snapshot.directory.organizations.find m.1).isSome)
    .organizationNotFound
  lockAll .shared (command.membership.toList.map fun m => .organization m.1)
  commit fun s => (s.createUser newUserId newId command now).toOption.map Prod.snd

inductive KeyChange
  | revoke (userId keyId : Uuid) (now : ℤ)
  | create (newId : Uuid) (drawn : Except StorageError String) (userId : Uuid) (name : String)
      (scopes : List ApiKeyScope) (expiresAt : Option ℤ) (allowedTemplateIds : Option (List Uuid))
      (now : ℤ)
  | createUser (newUserId newId : Uuid) (command : KeyStore.InitialUserCommand) (now : ℤ)
  | account (request : DirectoryRequest)

namespace KeyChange

/-- What the request does when it runs alone. -/
def apply (s : KeyStore hashToken) : KeyChange → Except StorageError (KeyStore hashToken)
  | revoke userId keyId now => do
    let (_, s) ← s.revokeApiKey userId keyId now
    pure s
  | create newId drawn userId name scopes expiresAt allowedTemplateIds now => do
    let (_, s) ← s.createApiKey newId drawn userId name scopes expiresAt allowedTemplateIds now
    pure s
  | createUser newUserId newId command now => do
    let (_, s) ← s.createUser newUserId newId command now
    pure s
  | account request => do
    let directory ← request.apply s.directory
    pure { s with directory }

/-- Replace the accounts and memberships. -/
def withDirectory (s : KeyStore hashToken) (directory : Directory) : KeyStore hashToken :=
  { s with directory }

def transaction : Backend → KeyChange → KeyTransaction hashToken Unit
  | .sqlite, request => serialized .writer fun s => request.apply s
  | .postgres, revoke userId keyId now =>
    revokeApiKeyPostgres userId keyId now >>= fun _ => pure ()
  | .postgres, create newId drawn userId name scopes expiresAt allowedTemplateIds now =>
    createApiKeyPostgres newId drawn userId name scopes expiresAt allowedTemplateIds now >>=
      fun _ => pure ()
  | .postgres, createUser newUserId newId command now =>
    createUserWithKeyPostgres newUserId newId command now
  | .postgres, account request =>
    (request.transaction .postgres).focus KeyStore.directory withDirectory

end KeyChange

/-- All interleavings of the requests, on connections `ι`. -/
def keyPool {ι : Type} [DecidableEq ι] (hashToken : String → String) (backend : Backend) :
    Interaction.System (statements DirectoryLock (KeyStore hashToken))
      (Store ι DirectoryLock (KeyStore hashToken)) ι :=
  pool (fun _ _ _ => True) fun x => ∃ request : KeyChange, x = request.transaction backend

end Statements

/-! ### The lock of a user -/

section Lock

open Discipline

/-- The account stays, with the same rights. -/
def KeepsRights (userId : Uuid) (d d' : Directory) : Prop :=
  ∀ user, d.users.find userId = some user →
    ∃ user', d'.users.find userId = some user' ∧ user'.systemAdmin = user.systemAdmin

theorem AccountsUnchanged.keepsRights {d d' : Directory} (h : AccountsUnchanged d d')
    (userId : Uuid) : KeepsRights userId d d' := by
  intro user huser
  obtain ⟨user', huser', hadmin, -⟩ := h userId user huser
  exact ⟨user', huser', hadmin⟩

theorem KeepsRights.trans {d₁ d₂ d₃ : Directory} (h : KeepsRights userId d₁ d₂)
    (h' : KeepsRights userId d₂ d₃) : KeepsRights userId d₁ d₃ := by
  intro user huser
  obtain ⟨user₂, huser₂, hadmin₂⟩ := h user huser
  obtain ⟨user₃, huser₃, hadmin₃⟩ := h' user₂ huser₂
  exact ⟨user₃, huser₃, hadmin₃.trans hadmin₂⟩

/-- Nobody else changes the rights of a user whose row is locked. -/
def accountDiscipline (ι : Type) : Discipline ι DirectoryLock Directory where
  allowed := fun _ _ _ => True
  guard key mode d d' := ∀ userId, key = .user userId → mode = .exclusive → KeepsRights userId d d'
  invariant := fun _ => True
  ensures := fun _ _ => True
  guard_refl := fun _ _ _ userId _ _ => (AccountsUnchanged.of_users_eq rfl).keepsRights userId
  guard_trans := fun _ _ _ _ _ h h' userId hkey hmode =>
    (h userId hkey hmode).trans (h' userId hkey hmode)

variable {ι : Type} [DecidableEq ι] {i : ι}

theorem keeps_updateUser_accounts (i : ι) (userId : Uuid) (displayName : Option String)
    (systemAdmin disabled : Option Bool) : (accountDiscipline ι).Respects i
      (updateUserPostgres userId displayName systemAdmin disabled) := by
  refine keeps_updateUser userId fun current next s hchecked hs => ?_
  refine ⟨trivial, trivial, fun g hg hne other hkey _ user huser => ⟨user, ?_, rfl⟩⟩
  have hother : other ≠ userId := by
    rintro rfl
    exact hchecked.1.not_exclusive hs List.mem_cons_self hg hne hkey
  rwa [Directory.find_persistUserUpdate_of_ne hother]

theorem governs_accounts : (accountDiscipline ι).Governs fun x =>
    ∃ request : DirectoryRequest, True ∧ x = request.transaction .postgres :=
  governs_of_accountsOnly
    (fun _ _ h _ => ⟨trivial, trivial, fun _ _ userId _ _ => h.keepsRights userId⟩)
    keeps_updateUser_accounts

end Lock

/-! ### All interleavings -/

section Recovery

open Discipline

variable {ι : Type} {hashToken : String → String} {userId : Uuid}

/-- The user is there. -/
def KeyStore.HasUser (userId : Uuid) (s : KeyStore hashToken) : Prop :=
  (s.directory.users.find userId).isSome = true

/-- A user who is there keeps the account and the keys. -/
def UserKept (userId : Uuid) (s s' : KeyStore hashToken) : Prop :=
  s.HasUser userId → KeepsRights userId s.directory s'.directory ∧ s.SameKeys userId s'

variable {s s' : KeyStore hashToken}

theorem UserKept.hasUser (h : UserKept userId s s') (hs : s.HasUser userId) :
    s'.HasUser userId := by
  obtain ⟨user, huser⟩ := Option.isSome_iff_exists.1 hs
  obtain ⟨user', huser', -⟩ := (h hs).1 user huser
  exact Option.isSome_iff_exists.2 ⟨user', huser'⟩

theorem UserKept.trans {s₁ s₂ s₃ : KeyStore hashToken} (h : UserKept userId s₁ s₂)
    (h' : UserKept userId s₂ s₃) : UserKept userId s₁ s₃ := by
  intro hs
  have hs₂ := h.hasUser hs
  exact ⟨(h hs).1.trans (h' hs₂).1,
    fun key hkey => ((h' hs₂).2 key hkey).trans ((h hs).2 key hkey)⟩

/-- A user with the lock of the row is kept, and a revocation leaves another key. -/
def recoveryDiscipline (ι : Type) (hashToken : String → String) :
    Discipline ι DirectoryLock (KeyStore hashToken) where
  allowed := fun _ _ _ => True
  guard key mode s s' := ∀ userId, key = .user userId → mode = .exclusive → UserKept userId s s'
  invariant := KeyStore.IdsDistinct
  ensures := RecoveryKeysRemain
  guard_refl := fun _ _ _ userId _ _ _ =>
    ⟨(AccountsUnchanged.of_users_eq rfl).keepsRights userId, fun _ _ => Iff.rfl⟩
  guard_trans := fun _ _ _ _ _ h h' userId hkey hmode =>
    (h userId hkey hmode).trans (h' userId hkey hmode)

def userLocks (userId : Uuid) : List (DirectoryLock × Mode) := [(.user userId, .exclusive)]

theorem userKept_of_since (h : (recoveryDiscipline ι hashToken).Since (userLocks userId) s s') :
    UserKept userId s s' :=
  h _ List.mem_cons_self userId rfl rfl

theorem stable_hasUser : (recoveryDiscipline ι hashToken).Stable (userLocks userId)
    (KeyStore.HasUser userId) :=
  fun _ _ hs _ hsince => (userKept_of_since hsince).hasUser hs

variable [DecidableEq ι] {i : ι}

theorem keeps_lockUser : (recoveryDiscipline ι hashToken).Keeps i (Under i [] fun _ => True)
    (lockUser userId) fun _ => Under i (userLocks userId) (KeyStore.HasUser userId) := by
  refine keeps_query_bind stable_true fun snapshot _ _ => keeps_require_bind fun _ => ?_
  refine Keeps.forget ?_
  refine (keeps_lockRow stable_true).bind fun _ => keeps_query_bind stable_true fun s _ _ => ?_
  refine keeps_require.post fun _ s' _ h => ⟨h.1.1, ?_⟩
  refine (userKept_of_since h.1.2.2).hasUser ?_
  have henabled := h.2
  rw [Directory.enabledUser_eq] at henabled
  obtain ⟨user, huser, -⟩ := (Option.any_eq_true _ _).1 henabled
  exact Option.isSome_iff_exists.2 ⟨user, huser⟩

/-- The row lock keeps what each check has seen until the revocation is committed. -/
theorem keeps_revoke (keyId : Uuid) (now : ℤ) :
    (recoveryDiscipline ι hashToken).Respects i
      (revokeApiKeyPostgres userId keyId now >>= fun _ => pure ()) := by
  refine Keeps.start (Keeps.bind (B := fun _ _ => True) ?_
    fun _ => Discipline.keeps_pure fun _ _ _ => trivial)
  have hsince : ∀ s, (recoveryDiscipline ι hashToken).Stable (userLocks userId)
      ((recoveryDiscipline ι hashToken).Since (userLocks userId) s) :=
    fun s => stable_since s (List.Subset.refl _)
  refine keeps_lockUser.bind fun _ => keeps_query_bind stable_hasUser fun s₁ hs₁ _ => ?_
  refine keeps_lift_bind fun details hdetails => ?_
  refine keeps_query_bind (stable_hasUser.and (hsince s₁)) fun s₂ hs₂ hids₂ => ?_
  refine keeps_lift_bind fun active hactive => ?_
  refine keeps_query_bind ((stable_hasUser.and (hsince s₁)).and (hsince s₂)) fun s₃ hs₃ _ => ?_
  refine keeps_lift_bind fun systemAdmin hadmin => keeps_lift_bind fun _ hguard => ?_
  refine keeps_query_bind (((stable_hasUser.and (hsince s₁)).and (hsince s₂)).and (hsince s₃))
    fun s₄ _ _ => keeps_require_bind fun _ => ?_
  refine Keeps.bind (B := fun _ _ => True) ?_ fun _ => Discipline.keeps_pure fun _ _ _ => trivial
  refine keeps_commit ((((stable_hasUser.and (hsince s₁)).and (hsince s₂)).and (hsince s₃)).and
    (hsince s₄)) ?_
  rintro s _ hunder hs ⟨⟩ -
  obtain ⟨⟨⟨⟨-, hsince₁⟩, hsince₂⟩, hsince₃⟩, -⟩ := hunder.2
  refine ⟨KeyStore.idsDistinct_revokeKey hs.2, ?_, fun g hg hne other hkey _ _ => ?_⟩
  · refine KeyStore.recoveryKeysRemain_of_checks hs.2 hids₂ (userKept_of_since hsince₁ hs₁).2
      (userKept_of_since hsince₂ hs₂.1).2 hdetails hactive ?_ hguard
    -- the account has the rights that were read
    simp only [KeyStore.userIsSystemAdmin, bind_eq_ok, okOr_eq_ok, pure_eq_ok] at hadmin
    obtain ⟨user, huser, rfl⟩ := hadmin
    obtain ⟨user', huser', hrights⟩ := (userKept_of_since hsince₃ hs₃.1.1).1 user huser
    simp [huser', hrights]
  · -- others hold the rows of other users
    have hother : other ≠ userId := by
      rintro rfl
      exact hunder.not_exclusive hs List.mem_cons_self hg hne hkey
    exact ⟨(AccountsUnchanged.of_users_eq rfl).keepsRights other,
      KeyStore.sameKeys_revokeKey hother⟩

theorem keeps_create (newId : Uuid) (drawn : Except StorageError String) (name : String)
    (scopes : List ApiKeyScope) (expiresAt : Option ℤ) (allowedTemplateIds : Option (List Uuid))
    (now : ℤ) :
    (recoveryDiscipline ι hashToken).Respects i
      (createApiKeyPostgres newId drawn userId name scopes expiresAt allowedTemplateIds now >>=
        fun _ => pure ()) := by
  refine Keeps.start (Keeps.bind (B := fun _ _ => True) ?_
    fun _ => Discipline.keeps_pure fun _ _ _ => trivial)
  refine keeps_lift_bind fun name _ => keeps_lift_bind fun scopes _ => ?_
  refine keeps_lift_bind fun _ _ => keeps_lift_bind fun token _ => ?_
  refine keeps_lockUser.bind fun _ => keeps_query_bind stable_hasUser fun s₁ _ _ => ?_
  refine keeps_require_bind fun _ => ?_
  refine Keeps.bind (B := fun _ _ => True) ?_ fun _ => Discipline.keeps_pure fun _ _ _ => trivial
  refine Keeps.pre (keeps_commit stable_hasUser ?_) fun s _ h => ⟨h.1, h.2.1⟩
  intro s s' hunder hs hchange _
  have hinsert := toOption_eq_some.1 hchange
  obtain ⟨hdirectory, -⟩ := KeyStore.insertKey_inserts hinsert
  refine ⟨KeyStore.idsDistinct_insertKey hinsert hs.2,
    KeyStore.recoveryKeysRemain_of_new hs.2 (KeyStore.unrevoked_insertKey hinsert),
    fun g hg hne other hkey _ _ => ?_⟩
  have hother : other ≠ userId := by
    rintro rfl
    exact hunder.not_exclusive hs List.mem_cons_self hg hne hkey
  exact ⟨(AccountsUnchanged.of_users_eq (congrArg Directory.users hdirectory)).keepsRights other,
    KeyStore.sameKeys_insertKey hinsert hother⟩

theorem createUser_adds {newUserId newId : Uuid} {command : KeyStore.InitialUserCommand} {now : ℤ}
    {u : Unit} (h : s.createUser newUserId newId command now = .ok (u, s')) (hids : s.IdsDistinct) :
    s'.IdsDistinct ∧ RecoveryKeysRemain s s' ∧ ∀ other, UserKept other s s' := by
  simp only [KeyStore.createUser, bind_eq_ok, pure_eq_ok, Prod.mk.injEq] at h
  obtain ⟨_, -, scopes, -, _, -, directory, hdirectory, s₁, hinsert, -, rfl⟩ := h
  obtain ⟨hsame, -⟩ := KeyStore.insertKey_inserts hinsert
  have hkeys := KeyStore.unrevoked_insertKey hinsert
  refine ⟨KeyStore.idsDistinct_insertKey hinsert hids,
    KeyStore.recoveryKeysRemain_of_new hids hkeys, fun other hother => ⟨?_, ?_⟩⟩
  · rw [hsame]
    exact (AccountsUnchanged.createUser hdirectory).keepsRights other
  · refine KeyStore.sameKeys_insertKey hinsert ?_
    rintro rfl
    simp [KeyStore.HasUser, Directory.find_newUser hdirectory] at hother

theorem keeps_createUser (newUserId newId : Uuid) (command : KeyStore.InitialUserCommand)
    (now : ℤ) : (recoveryDiscipline ι hashToken).Respects i
      (createUserWithKeyPostgres newUserId newId command now) := by
  refine Keeps.start (keeps_query_bind stable_true fun snapshot _ _ => ?_)
  refine keeps_require_bind fun _ => ?_
  refine Keeps.forget ?_
  refine (keeps_lockAll fun _ => stable_true).bind fun _ => keeps_commit stable_true ?_
  intro s s' _ hs hchange _
  obtain ⟨⟨u, _⟩, hcreate, rfl⟩ := Option.map_eq_some_iff.1 hchange
  obtain ⟨hids, hremain, hkept⟩ := createUser_adds (toOption_eq_some.1 hcreate) hs.2
  exact ⟨hids, hremain, fun g _ _ other _ _ => hkept other⟩

omit [DecidableEq ι] in
/-- Account updates and membership changes leave the keys. -/
theorem focuses_accounts : Focuses (accountDiscipline ι) (recoveryDiscipline ι hashToken)
    KeyStore.directory KeyChange.withDirectory where
  put_get := fun _ => rfl
  allowed := fun _ _ _ => trivial
  invariant_get := fun _ _ => trivial
  guard_get := fun _ _ _ _ h userId hkey hmode user huser =>
    (h userId hkey hmode (Option.isSome_iff_exists.2 ⟨user, huser⟩)).1 user huser
  invariant_put := fun _ _ h _ => h
  guard_put := fun _ _ _ _ h userId hkey hmode _ => ⟨h userId hkey hmode, fun _ _ => Iff.rfl⟩
  ensures_put := fun _ _ h _ => KeyStore.recoveryKeysRemain_of_new h fun _ hkey => .inl hkey
  get_put := fun _ _ => rfl

theorem governs_recovery : (recoveryDiscipline ι hashToken).Governs fun x =>
    ∃ request : KeyChange, x = request.transaction .postgres := by
  rintro _ ⟨request, rfl⟩ i
  cases request with
  | revoke userId keyId now => exact keeps_revoke keyId now
  | create newId drawn userId name scopes expiresAt allowedTemplateIds now =>
    exact keeps_create newId drawn name scopes expiresAt allowedTemplateIds now
  | createUser newUserId newId command now => exact keeps_createUser newUserId newId command now
  | account request => exact focuses_accounts.keeps (governs_accounts _ ⟨request, trivial, rfl⟩ i)

theorem recoveryKeysRemain_of_apply {request : KeyChange} (h : request.apply s = .ok s')
    (hids : s.IdsDistinct) :
    s'.IdsDistinct ∧ RecoveryKeysRemain s s' := by
  cases request with
  | revoke userId keyId now =>
    obtain ⟨⟨result, _⟩, hrevoke, hpure⟩ := bind_eq_ok.1 h
    obtain rfl := pure_eq_ok.1 hpure
    obtain ⟨hremain, rfl⟩ := KeyStore.revokeApiKey_eq_ok hrevoke hids
    exact ⟨KeyStore.idsDistinct_revokeKey hids, hremain⟩
  | create newId drawn userId name scopes expiresAt allowedTemplateIds now =>
    obtain ⟨⟨created, _⟩, hcreate, hpure⟩ := bind_eq_ok.1 h
    obtain rfl := pure_eq_ok.1 hpure
    simp only [KeyStore.createApiKey, bind_eq_ok, pure_eq_ok, Prod.mk.injEq] at hcreate
    obtain ⟨_, -, _, -, _, -, _, -, _, -, _, -, _, hinsert, -, rfl⟩ := hcreate
    exact ⟨KeyStore.idsDistinct_insertKey hinsert hids,
      KeyStore.recoveryKeysRemain_of_new hids (KeyStore.unrevoked_insertKey hinsert)⟩
  | createUser newUserId newId command now =>
    obtain ⟨⟨u, _⟩, hcreate, hpure⟩ := bind_eq_ok.1 h
    obtain rfl := pure_eq_ok.1 hpure
    obtain ⟨hids', hremain, -⟩ := createUser_adds hcreate hids
    exact ⟨hids', hremain⟩
  | account request =>
    obtain ⟨directory, -, hpure⟩ := bind_eq_ok.1 h
    obtain rfl := pure_eq_ok.1 hpure
    exact ⟨hids, KeyStore.recoveryKeysRemain_of_new hids fun _ hkey => .inl hkey⟩

/-- **A committed revocation leaves another key with the scope**: whatever revocations, new keys,
new users and account updates run next to each other, if a step revokes a key that has not expired
and that manages keys (or the system, of a system administrator), then after the step the user has
another such key, neither revoked nor expired. -/
theorem revocation_leaves_recovery_key (backend : Backend) {s : KeyStore hashToken}
    (hids : s.IdsDistinct)
    {C C' : Interaction.Configuration (statements DirectoryLock (KeyStore hashToken))
      (Store ι DirectoryLock (KeyStore hashToken)) ι}
    (hrun : (keyPool hashToken backend).Steps (idle ι DirectoryLock s) C)
    (hstep : (keyPool hashToken backend).Step C C') :
    RecoveryKeysRemain C.store.committed C'.store.committed := by
  have hsame : C.store.committed.IdsDistinct → C'.store.committed = C.store.committed →
      RecoveryKeysRemain C.store.committed C'.store.committed := by
    intro hids heq
    rw [heq]
    exact KeyStore.recoveryKeysRemain_of_new hids fun _ hkey => .inl hkey
  cases backend with
  | postgres =>
    have hC := governs_recovery.invariant_of_steps hids hrun
    exact (governs_recovery.ensures_of_step hids hrun hstep).elim (hsame hC) id
  | sqlite =>
    have hgoverns : (serial .writer KeyStore.IdsDistinct RecoveryKeysRemain :
        Discipline ι DirectoryLock (KeyStore hashToken)).Governs fun x =>
          ∃ request : KeyChange, x = request.transaction .sqlite := by
      rintro _ ⟨request, rfl⟩ i
      exact keeps_serialized fun _ _ hids happly => recoveryKeysRemain_of_apply happly hids
    have hC := hgoverns.invariant_of_steps hids hrun
    exact (hgoverns.ensures_of_step hids hrun hstep).elim (hsame hC) id

end Recovery

/-- Both keys of the sample are revoked next to each other: the second revocation waits for the row
of the user, the first is about to commit. -/
def sampleRevocations : List (Move Bool KeyChange) :=
  [.start false (.revoke sampleUserId sampleNarrowKey.id 10),
   .start true (.revoke sampleUserId sampleFullKey.id 10),
   .proceed false 2, .proceed true 1, .proceed false 5]

def sampleRevocationStart : Interaction.Configuration (statements DirectoryLock (KeyStore id))
    (Store Bool DirectoryLock (KeyStore id)) Bool :=
  scheduled (fun _ _ _ => true) (KeyChange.transaction .postgres)
    (idle Bool DirectoryLock sampleKeyStore)
    sampleRevocations

def sampleRevocationEnd : Interaction.Configuration (statements DirectoryLock (KeyStore id))
    (Store Bool DirectoryLock (KeyStore id)) Bool :=
  (Move.proceed false 1).perform (fun _ _ _ => true) (KeyChange.transaction .postgres)
    sampleRevocationStart

theorem revocation_leaves_recovery_key_sample :
    (sampleRevocationStart.store.committed.keys.rows.map ApiKeyRow.revokedAt = [none, none] ∧
      sampleRevocationEnd.store.committed.keys.rows.map ApiKeyRow.revokedAt = [some 10, none]) ∧
    RecoveryKeysRemain sampleRevocationStart.store.committed
      sampleRevocationEnd.store.committed := by
  have hrevoked : sampleRevocationStart.store.committed.keys.rows.map ApiKeyRow.revokedAt =
        [none, none] ∧
      sampleRevocationEnd.store.committed.keys.rows.map ApiKeyRow.revokedAt = [some 10, none] := by
    decide +kernel
  refine ⟨hrevoked, ?_⟩
  have hstart : (keyPool id .postgres).Steps (idle Bool DirectoryLock sampleKeyStore)
      sampleRevocationStart :=
    steps_scheduled (fun _ _ _ _ => trivial) _ sampleRevocations fun _ request _ => ⟨request, rfl⟩
  have hids : sampleKeyStore.IdsDistinct := by
    rw [KeyStore.IdsDistinct]
    decide +kernel
  rcases Move.step_or_eq (fun _ _ _ _ => trivial) sampleRevocationStart false with hstep | hsame
  · exact revocation_leaves_recovery_key .postgres hids hstart hstep
  · have hkeys := hrevoked.2
    rw [sampleRevocationEnd, hsame, hrevoked.1] at hkeys
    cases hkeys

end WorkspaceControl
