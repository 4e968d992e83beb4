/-
**Accounts and memberships next to each other.**

The transactions of `src/src/storage/admin_store` as sequences of statements, for both backends.
SQLite has one writer.  PostgreSQL has advisory locks: an account update takes the one of the system
administrators and, when it disables a user, those of the organizations which the user administers
as far as its query has seen; a membership change takes the one of its organization.  A new
membership also locks the row of its user, as its foreign key does; the change of a role does not.

Main definitions:

* `DirectoryLock` — the locks;
* `updateUserPostgres`, `upsertMembershipPostgres`, `removeMembershipPostgres`,
  `createUserPostgres` — the transactions;
* `DirectoryRequest`, `directoryPool` — the requests, and all interleavings of them;
* `PromotesApart` — no promotion is committed while the row of its user is locked.

Main results:

* `installation_keeps_system_administrator` — **an enabled system administrator remains**;
* `organizations_keep_administrators` — **so does one of every organization**, when promotions are
  committed apart from account updates of the same user;
* `late_promotion_strands_organization` — a promotion between the queries of an account update.
-/
import WorkspaceControl.Directory
import WorkspaceControl.Transactions

set_option autoImplicit false

namespace WorkspaceControl

open Fallible Relational Transactions Transaction

/-! ### Administrators -/

variable {ι : Type} {newId organizationId other userId : Uuid} {next : UserRow}
  {membership : Option (Uuid × Role)} {d d' : Directory} {now : ℤ}

namespace Directory

/-- The user has the role of an administrator in the organization. -/
def administers (d : Directory) (organizationId userId : Uuid) : Bool :=
  (d.memberships.find (organizationId, userId)).any fun row => row.role = .organizationAdmin

/-- An enabled system administrator of this id. -/
def activeSystemAdmin (d : Directory) (userId : Uuid) : Bool :=
  (d.users.find userId).any fun user => user.systemAdmin && !user.disabled

/-- `SELECT COUNT(*) FROM users WHERE system_admin = 1 AND disabled = 0`. -/
def countActiveSystemAdmins (d : Directory) : ℕ :=
  (d.users.rows.filter fun user => user.systemAdmin && !user.disabled).length

/-- The organizations that a user administers, `ORDER BY organization_id`. -/
def administeredOrganizations (d : Directory) (userId : Uuid) : List Uuid :=
  ((d.memberships.rows.filter fun row =>
    row.userId = userId && row.role = .organizationAdmin).map
      MembershipRow.organizationId).insertionSort (· ≤ ·)

/-- `UPDATE users SET display_name, system_admin, disabled`. -/
def persistUserUpdate (d : Directory) (userId : Uuid) (next : UserRow) : Directory :=
  { d with
    users := d.users.update (fun user => user.id = userId)
      (fun user => { user with
        displayName := next.displayName, systemAdmin := next.systemAdmin,
        disabled := next.disabled }) fun _ => rfl }

/-- `INSERT INTO organization_memberships ... ON CONFLICT DO UPDATE SET role`. -/
def putMembership (d : Directory) (organizationId userId : Uuid) (role : Role) (now : ℤ) :
    Directory :=
  { d with
    memberships := d.memberships.put ⟨organizationId, userId, role, now⟩
      (fun row => { row with role }) fun row => Eq.refl row.key }

/-- `DELETE FROM organization_memberships`. -/
def deleteMembership (d : Directory) (organizationId userId : Uuid) : Directory :=
  { d with
    memberships := d.memberships.delete fun row => row.key = (organizationId, userId) }

/-- The foreign keys of a membership. -/
def referencesHold (d : Directory) (organizationId userId : Uuid) : Bool :=
  (d.organizations.find organizationId).isSome && (d.users.find userId).isSome

theorem enabledUser_eq (d : Directory) (userId : Uuid) :
    d.enabledUser userId = (d.users.find userId).any fun user => !user.disabled := by
  rw [Bool.eq_iff_iff]
  simp only [enabledUser, List.any_eq_true, Bool.and_eq_true, decide_eq_true_eq, Option.any_eq_true]
  constructor
  · rintro ⟨user, huser, hid, henabled⟩
    exact ⟨user, Table.find_eq_some.2 ⟨huser, hid⟩, henabled⟩
  · rintro ⟨user, hfind, henabled⟩
    exact ⟨user, (Table.find_eq_some.1 hfind).1, (Table.find_eq_some.1 hfind).2, henabled⟩

variable {u : Unit}

theorem administers_eq_true :
    d.administers organizationId userId = true ↔ ∃ row ∈ d.memberships.rows,
      row.organizationId = organizationId ∧ row.userId = userId ∧
        row.role = .organizationAdmin := by
  simp only [administers, Option.any_eq_true, decide_eq_true_eq, Table.find_eq_some,
    MembershipRow.key, Prod.mk.injEq]
  constructor
  · rintro ⟨row, ⟨hrow, horganization, huser⟩, hrole⟩
    exact ⟨row, hrow, horganization, huser, hrole⟩
  · rintro ⟨row, hrow, horganization, huser, hrole⟩
    exact ⟨row, ⟨hrow, horganization, huser⟩, hrole⟩

theorem mem_activeAdministrators {row : MembershipRow} :
    row ∈ d.activeAdministrators organizationId ↔ row ∈ d.memberships.rows ∧
      row.organizationId = organizationId ∧ row.role = .organizationAdmin ∧
        d.enabledUser row.userId = true := by
  simp [activeAdministrators, List.mem_filter, and_assoc]

/-- Somebody administers the organization and is enabled. -/
theorem activeAdministrators_ne_nil :
    d.activeAdministrators organizationId ≠ [] ↔
      ∃ userId, d.administers organizationId userId = true ∧ d.enabledUser userId = true := by
  constructor
  · intro hne
    obtain ⟨row, hactive⟩ := List.exists_mem_of_ne_nil _ hne
    obtain ⟨hrow, horganization, hrole, henabled⟩ := mem_activeAdministrators.1 hactive
    exact ⟨row.userId, administers_eq_true.2 ⟨row, hrow, horganization, rfl, hrole⟩, henabled⟩
  · rintro ⟨userId, hadministers, henabled⟩
    obtain ⟨row, hrow, horganization, rfl, hrole⟩ := administers_eq_true.1 hadministers
    exact List.ne_nil_of_mem
      (mem_activeAdministrators.2 ⟨hrow, horganization, hrole, henabled⟩)

theorem exists_key_ne {α β : Type} {key : α → β} {rows : List α} (hnodup : (rows.map key).Nodup)
    (h : 1 < rows.length) (k : β) : ∃ row ∈ rows, key row ≠ k := by
  match rows with
  | [] | [_] => simp at h
  | a :: b :: rest =>
    by_cases ha : key a = k
    · refine ⟨b, by simp, fun hb => ?_⟩
      simp [ha, hb] at hnodup
    · exact ⟨a, by simp, ha⟩

/-- Of two administrators one is another user. -/
theorem exists_other_of_ensureAnother (h : d.ensureAnotherOrganizationAdmin organizationId = .ok u)
    (userId : Uuid) :
    ∃ other, other ≠ userId ∧ d.administers organizationId other = true ∧
      d.enabledUser other = true := by
  rw [ensureAnotherOrganizationAdmin, ensure_eq_ok, decide_eq_true_eq] at h
  have hnodup : ((d.activeAdministrators organizationId).map MembershipRow.key).Nodup :=
    (List.Sublist.map MembershipRow.key List.filter_sublist).nodup d.memberships.nodup
  obtain ⟨row, hrow, hkey⟩ := exists_key_ne hnodup h (organizationId, userId)
  obtain ⟨hmem, horganization, hrole, henabled⟩ := mem_activeAdministrators.1 hrow
  refine ⟨row.userId, fun huser => hkey (Prod.ext horganization huser), ?_, henabled⟩
  exact administers_eq_true.2 ⟨row, hmem, horganization, rfl, hrole⟩

/-- Of two system administrators one is another user. -/
theorem exists_other_systemAdmin (h : 1 < d.countActiveSystemAdmins) (userId : Uuid) :
    ∃ other, other ≠ userId ∧ d.activeSystemAdmin other = true := by
  have hnodup := (List.Sublist.map UserRow.id (List.filter_sublist
    (p := fun user => user.systemAdmin && !user.disabled))).nodup d.users.nodup
  obtain ⟨user, huser, hne⟩ := exists_key_ne hnodup h userId
  obtain ⟨hmem, hactive⟩ := List.mem_filter.1 huser
  refine ⟨user.id, hne, ?_⟩
  rwa [activeSystemAdmin, Table.find_key_of_mem hmem, Option.any_some]

theorem mem_administeredOrganizations :
    organizationId ∈ d.administeredOrganizations userId ↔
      d.administers organizationId userId = true := by
  simp only [administeredOrganizations, List.mem_insertionSort, List.mem_map, List.mem_filter,
    Bool.and_eq_true, decide_eq_true_eq, administers_eq_true]
  constructor
  · rintro ⟨row, ⟨hrow, huser, hrole⟩, horganization⟩
    exact ⟨row, hrow, horganization, huser, hrole⟩
  · rintro ⟨row, hrow, horganization, huser, hrole⟩
    exact ⟨row, ⟨hrow, huser, hrole⟩, horganization⟩

theorem exists_other_of_ensureKeeps
    (h : d.ensureUserKeepsActiveOrganizationAdministrator userId = .ok u)
    (hadministers : d.administers organizationId userId = true) :
    ∃ other, other ≠ userId ∧ d.administers organizationId other = true ∧
      d.enabledUser other = true := by
  obtain ⟨row, hrow, rfl, rfl, hrole⟩ := administers_eq_true.1 hadministers
  rw [ensureUserKeepsActiveOrganizationAdministrator, ensure_eq_ok, List.all_eq_true] at h
  have hrow' := h row hrow
  simp only [hrole, decide_true, Bool.and_self, Bool.not_true, Bool.false_or, List.any_eq_true,
    decide_eq_true_eq] at hrow'
  obtain ⟨other, hother, hne⟩ := hrow'
  obtain ⟨hmem, horganization, hadmin, henabled⟩ := mem_activeAdministrators.1 hother
  exact ⟨other.userId, hne,
    administers_eq_true.2 ⟨other, hmem, horganization, rfl, hadmin⟩, henabled⟩

/-! ### What the writes change -/

theorem find_persistUserUpdate (d : Directory) (userId : Uuid) (next : UserRow) (other : Uuid) :
    (d.persistUserUpdate userId next).users.find other =
      (d.users.find other).map fun user =>
        if user.id = userId then
          { user with
            displayName := next.displayName, systemAdmin := next.systemAdmin,
            disabled := next.disabled }
        else user := by
  rw [persistUserUpdate, Table.find_update]
  congr 1
  funext user
  simp [Table.change]

theorem find_persistUserUpdate_of_ne (h : other ≠ userId) :
    (d.persistUserUpdate userId next).users.find other = d.users.find other := by
  rw [find_persistUserUpdate]
  cases hfind : d.users.find other with
  | none => rfl
  | some user =>
    have hid : user.id ≠ userId := (Table.find_eq_some.1 hfind).2 ▸ h
    simp [hid]

theorem find_persistUserUpdate_self {user : UserRow} (h : d.users.find userId = some user) :
    (d.persistUserUpdate userId next).users.find userId = some { user with
      displayName := next.displayName, systemAdmin := next.systemAdmin,
      disabled := next.disabled } := by
  rw [find_persistUserUpdate, h, Option.map_some, if_pos (Table.find_eq_some.1 h).2]

@[simp] theorem users_putMembership (d : Directory) (organizationId userId : Uuid) (role : Role)
    (now : ℤ) : (d.putMembership organizationId userId role now).users = d.users := rfl

@[simp] theorem users_deleteMembership (d : Directory) (organizationId userId : Uuid) :
    (d.deleteMembership organizationId userId).users = d.users := rfl

theorem find_putMembership (d : Directory) (organizationId userId : Uuid) (role : Role) (now : ℤ)
    (key : Uuid × Uuid) :
    (d.putMembership organizationId userId role now).memberships.find key =
      if (organizationId, userId) = key then
        some ((d.memberships.find key).elim ⟨organizationId, userId, role, now⟩
          fun row => { row with role })
      else d.memberships.find key := Table.find_put key

theorem administers_putMembership (d : Directory) (organizationId userId : Uuid) (role : Role)
    (now : ℤ) (organization other : Uuid) :
    (d.putMembership organizationId userId role now).administers organization other =
      if (organization, other) = (organizationId, userId) then decide (role = .organizationAdmin)
      else d.administers organization other := by
  unfold administers
  rw [find_putMembership]
  by_cases hkey : (organization, other) = (organizationId, userId)
  · rw [if_pos hkey, hkey, if_pos rfl]
    cases d.memberships.find (organizationId, userId) with
    | none | some => rfl
  · rw [if_neg hkey, if_neg fun h => hkey h.symm]

theorem find_deleteMembership_of_ne {key : Uuid × Uuid} (h : key ≠ (organizationId, userId)) :
    (d.deleteMembership organizationId userId).memberships.find key = d.memberships.find key := by
  rw [deleteMembership, Table.find_delete]
  cases hfind : d.memberships.find key with
  | none => rfl
  | some row =>
    have hkey : row.key ≠ (organizationId, userId) := (Table.find_eq_some.1 hfind).2 ▸ h
    simp [hkey]

theorem administers_deleteMembership (d : Directory) (organizationId userId organization
    other : Uuid) :
    (d.deleteMembership organizationId userId).administers organization other =
      (d.administers organization other &&
        decide ((organization, other) ≠ (organizationId, userId))) := by
  unfold administers deleteMembership
  rw [Table.find_delete]
  cases hfind : d.memberships.find (organization, other) with
  | none => rfl
  | some row =>
    have hkey : row.key = (organization, other) := (Table.find_eq_some.1 hfind).2
    by_cases hsame : (organization, other) = (organizationId, userId)
    · simp [hkey, hsame]
    · simp [hkey, hsame]

end Directory

/-! ### Statements -/

/-- The locks: that of SQLite's writer, the two advisory locks of PostgreSQL, and rows. -/
inductive DirectoryLock
  | writer
  | activeSystemAdmins
  | organizationMembership (organizationId : Uuid)
  | organization (id : Uuid)
  | user (id : Uuid)
  | membership (organizationId userId : Uuid)
deriving DecidableEq

abbrev DirectoryTransaction (α : Type) : Type := Transaction DirectoryLock Directory StorageError α

/-- `SELECT ... FROM users WHERE id = .. FOR UPDATE`. -/
def selectUserForUpdate (userId : Uuid) : DirectoryTransaction UserRow := do
  let snapshot ← query
  let _ ← lift (okOr (snapshot.users.find userId) .userNotFound)
  lockRow snapshot (.user userId) .exclusive
  let d ← query
  lift (okOr (d.users.find userId) .userNotFound)

/-- `SELECT role FROM organization_memberships .. FOR UPDATE`; a row that is not there is not
locked. -/
def selectRoleForUpdate (organizationId userId : Uuid) : DirectoryTransaction (Option Role) := do
  let snapshot ← query
  if (snapshot.memberships.find (organizationId, userId)).isSome then do
    lockRow snapshot (.membership organizationId userId) .exclusive
    let d ← query
    pure ((d.memberships.find (organizationId, userId)).map MembershipRow.role)
  else pure none

/-- The last system administrator is not demoted or disabled. -/
def guardSystemAdmins (current next : UserRow) : DirectoryTransaction Unit :=
  if current.systemAdmin && !current.disabled && (!next.systemAdmin || next.disabled) then do
    let d ← query
    require (1 < d.countActiveSystemAdmins) .lastSystemAdmin
  else pure ()

/-- Nobody is disabled who is the last administrator of an organization. -/
def guardOrganizations (userId : Uuid) (current next : UserRow) : DirectoryTransaction Unit :=
  if !current.disabled && next.disabled then do
    let seen ← query
    lockAll .exclusive ((seen.administeredOrganizations userId).map .organizationMembership)
    let d ← query
    lift (d.ensureUserKeepsActiveOrganizationAdministrator userId)
  else pure ()

def updateUserPostgres (userId : Uuid) (displayName : Option String)
    (systemAdmin disabled : Option Bool) : DirectoryTransaction Unit := do
  require (displayName.all fun name =>
    !(Text.trim name.toList).isEmpty && Text.len name.toList ≤ 120) .invalidUserProfile
  lock .activeSystemAdmins .exclusive
  let current ← selectUserForUpdate userId
  guardSystemAdmins current (Directory.updatedUser current displayName systemAdmin disabled)
  guardOrganizations userId current (Directory.updatedUser current displayName systemAdmin disabled)
  commit fun d =>
    some (d.persistUserUpdate userId (Directory.updatedUser current displayName systemAdmin disabled))

/-- An administrator is only taken away when there is another one. -/
def guardAnotherAdmin (organizationId : Uuid) (losesAdmin : Bool) : DirectoryTransaction Unit :=
  if losesAdmin then do
    let d ← query
    lift (d.ensureAnotherOrganizationAdmin organizationId)
  else pure ()

/-- An insert locks the rows that its foreign keys refer to. -/
def lockReferences (organizationId userId : Uuid) (current : Option Role) :
    DirectoryTransaction Unit :=
  if current.isNone then do
    lock (.organization organizationId) .shared
    lock (.user userId) .shared
  else pure ()

def upsertMembershipPostgres (organizationId userId : Uuid) (role : Role) (now : ℤ) :
    DirectoryTransaction Unit := do
  lock (.organizationMembership organizationId) .exclusive
  let current ← selectRoleForUpdate organizationId userId
  guardAnotherAdmin organizationId (current = some .organizationAdmin && role ≠ .organizationAdmin)
  lockReferences organizationId userId current
  commit fun d =>
    if d.referencesHold organizationId userId then
      some (d.putMembership organizationId userId role now)
    else none

def removeMembershipPostgres (organizationId userId : Uuid) : DirectoryTransaction Unit := do
  lock (.organizationMembership organizationId) .exclusive
  let current ← selectRoleForUpdate organizationId userId
  guardAnotherAdmin organizationId (current = some .organizationAdmin)
  commit fun d => some (d.deleteMembership organizationId userId)

/-- The organization of a new user is locked while it is referred to. -/
def createUserPostgres (newId : Uuid) (displayName : String) (systemAdmin : Bool)
    (membership : Option (Uuid × Role)) (now : ℤ) : DirectoryTransaction Unit := do
  let snapshot ← query
  require (membership.all fun m => (snapshot.organizations.find m.1).isSome) .organizationNotFound
  lockAll .shared (membership.toList.map fun m => .organization m.1)
  commit fun d => (d.createUser newId displayName systemAdmin membership now).toOption

/-! ### Requests -/

inductive DirectoryRequest
  | createUser (newId : Uuid) (displayName : String) (systemAdmin : Bool)
      (membership : Option (Uuid × Role)) (now : ℤ)
  | updateUser (userId : Uuid) (displayName : Option String) (systemAdmin disabled : Option Bool)
  | upsertMembership (organizationId userId : Uuid) (role : Role) (now : ℤ)
  | removeMembership (organizationId userId : Uuid)

namespace DirectoryRequest

/-- What the request does when it runs alone. -/
def apply (d : Directory) : DirectoryRequest → Except StorageError Directory
  | createUser newId displayName systemAdmin membership now =>
    d.createUser newId displayName systemAdmin membership now
  | updateUser userId displayName systemAdmin disabled =>
    d.updateUser userId displayName systemAdmin disabled
  | upsertMembership organizationId userId role now =>
    d.upsertMembership organizationId userId role now
  | removeMembership organizationId userId => d.removeMembership organizationId userId

/-- The transaction of a request.  SQLite lets one transaction write at a time, and one that has
read before somebody else wrote fails. -/
def transaction : Backend → DirectoryRequest → DirectoryTransaction Unit
  | .sqlite, request => serialized .writer fun d => request.apply d
  | .postgres, createUser newId displayName systemAdmin membership now =>
    createUserPostgres newId displayName systemAdmin membership now
  | .postgres, updateUser userId displayName systemAdmin disabled =>
    updateUserPostgres userId displayName systemAdmin disabled
  | .postgres, upsertMembership organizationId userId role now =>
    upsertMembershipPostgres organizationId userId role now
  | .postgres, removeMembership organizationId userId =>
    removeMembershipPostgres organizationId userId

/-- A request that changes accounts and memberships that exist. -/
def isChange : DirectoryRequest → Bool
  | createUser .. => false
  | _ => true

end DirectoryRequest

/-- All interleavings of the requests, on connections `ι`. -/
def directoryPool {ι : Type} [DecidableEq ι]
    (allowed : ι → Store ι DirectoryLock Directory → Statement DirectoryLock Directory → Prop)
    (backend : Backend) (requests : DirectoryRequest → Prop) :
    Interaction.System (statements DirectoryLock Directory) (Store ι DirectoryLock Directory) ι :=
  pool allowed fun x => ∃ request, requests request ∧ x = request.transaction backend

/-! ### What the statements establish -/

variable {held : List (DirectoryLock × Mode)} {displayName : Option String}
  {systemAdmin disabled : Option Bool}

section Statements

variable [DecidableEq ι] {T : Discipline ι DirectoryLock Directory} {i : ι} {P : Directory → Prop}

open Discipline

theorem keeps_selectUserForUpdate (hP : T.Stable held P) (userId : Uuid) :
    T.Keeps i (Under i held P) (selectUserForUpdate userId) fun current =>
      Under i ((.user userId, .exclusive) :: held) fun d' => P d' ∧
        ∃ d, T.Since ((.user userId, .exclusive) :: held) d d' ∧
          d.users.find userId = some current := by
  have hP' : T.Stable ((.user userId, .exclusive) :: held) P :=
    hP.mono (List.subset_cons_self _ _)
  refine (keeps_read hP).bind fun snapshot => keeps_lift.bind fun _ => ?_
  refine Keeps.pre ?_ fun s _ h => (⟨h.1.1, h.1.2.1⟩ : Under i held P s)
  refine (keeps_lockRow hP).bind fun _ => (keeps_read hP').bind fun d => ?_
  refine keeps_lift.post fun current s _ h => ?_
  exact ⟨h.1.1, h.1.2.1, d, h.1.2.2, okOr_eq_ok.1 h.2⟩

theorem keeps_selectRoleForUpdate (hP : T.Stable held P) (organizationId userId : Uuid) :
    T.Keeps i (Under i held P) (selectRoleForUpdate organizationId userId) fun current =>
      Under i held fun d' => P d' ∧ ∃ d, T.Since held d d' ∧
        current = (d.memberships.find (organizationId, userId)).map MembershipRow.role := by
  have hP' : T.Stable ((.membership organizationId userId, .exclusive) :: held) P :=
    hP.mono (List.subset_cons_self _ _)
  refine (keeps_read hP).bind fun snapshot => keeps_ite (fun _ => ?_) fun hnone => ?_
  · refine Keeps.left ?_
    refine (keeps_lockRow hP).bind fun _ => (keeps_read hP').bind fun d => ?_
    refine Discipline.keeps_pure fun s _ h => ?_
    exact ⟨fun lock hlock => h.1 lock (List.mem_cons_of_mem _ hlock), h.2.1, d,
      h.2.2.mono (List.subset_cons_self _ _), rfl⟩
  · refine Discipline.keeps_pure fun s _ h => ⟨h.1, h.2.1, snapshot, h.2.2, ?_⟩
    rw [Option.not_isSome_iff_eq_none.1 hnone]
    rfl

theorem keeps_guardSystemAdmins (hP : T.Stable held P) (current next : UserRow) :
    T.Keeps i (Under i held P) (guardSystemAdmins current next) fun _ =>
      Under i held fun d' => P d' ∧
        (current.systemAdmin = true → current.disabled = false →
          (next.systemAdmin = false ∨ next.disabled = true) →
            ∃ d, T.Since held d d' ∧ 1 < d.countActiveSystemAdmins) := by
  refine keeps_ite (fun _ => ?_) fun hnot => Discipline.keeps_pure fun s _ h => ⟨h.1, h.2, ?_⟩
  · refine (keeps_read hP).bind fun d => keeps_require.post fun _ s _ h => ?_
    exact ⟨h.1.1, h.1.2.1, fun _ _ _ => ⟨d, h.1.2.2, of_decide_eq_true h.2⟩⟩
  · intro hadmin henabled hloses
    exact absurd (by simpa [hadmin, henabled] using hloses) hnot

/-- The locks of the organizations that were seen. -/
def organizationLocks (seen : Directory) (userId : Uuid) : List (DirectoryLock × Mode) :=
  ((seen.administeredOrganizations userId).map DirectoryLock.organizationMembership).map
    fun key => (key, .exclusive)

/-- What an account update knows when it disables a user. -/
def DisablingChecked (T : Discipline ι DirectoryLock Directory) (held : List (DirectoryLock × Mode))
    (userId : Uuid) (seen d' : Directory) : Prop :=
  T.Since held seen d' ∧ ∃ d, T.Since (organizationLocks seen userId ++ held) d d' ∧
    d.ensureUserKeepsActiveOrganizationAdministrator userId = .ok ()

theorem keeps_guardOrganizations (hP : ∀ more, T.Stable (more ++ held) P) (userId : Uuid)
    (current next : UserRow) :
    T.Keeps i (Under i held P) (guardOrganizations userId current next) fun _ s =>
      Under i held P s ∧ (current.disabled = false → next.disabled = true →
        ∃ seen, Under i (organizationLocks seen userId ++ held)
          (fun d' => P d' ∧ DisablingChecked T held userId seen d') s) := by
  refine keeps_ite (fun _ => ?_) fun hnot => Discipline.keeps_pure fun s _ h => ⟨h, ?_⟩
  · have hseen : ∀ seen more, T.Stable (more ++ held) fun d' => P d' ∧ T.Since held seen d' :=
      fun seen more => (hP more).and (stable_since seen (List.subset_append_right _ _))
    refine (keeps_read (hP [])).bind fun seen => (keeps_lockAll (hseen seen)).bind fun _ => ?_
    refine (keeps_read (hseen seen (organizationLocks seen userId))).bind fun d => ?_
    refine keeps_lift.post fun _ s _ h => ?_
    exact ⟨⟨fun lock hlock => h.1.1 lock (List.mem_append_right _ hlock), h.1.2.1.1⟩,
      fun _ _ => ⟨seen, h.1.1, h.1.2.1.1, h.1.2.1.2, d, h.1.2.2, h.2⟩⟩
  · intro henabled hdisables
    exact absurd (by simp [henabled, hdisables]) hnot

/-- The locks of an account update once it has read the account. -/
def accountLocks (userId : Uuid) : List (DirectoryLock × Mode) :=
  [(.user userId, .exclusive), (.activeSystemAdmins, .exclusive)]

/-- What an account update knows of the account. -/
def AccountRead (T : Discipline ι DirectoryLock Directory) (userId : Uuid) (current : UserRow)
    (d' : Directory) : Prop :=
  ∃ d, T.Since (accountLocks userId) d d' ∧ d.users.find userId = some current

/-- What an account update knows when it commits. -/
def AccountChecked (T : Discipline ι DirectoryLock Directory) (i : ι) (userId : Uuid)
    (current next : UserRow) (s : Store ι DirectoryLock Directory) : Prop :=
  Under i (accountLocks userId) (fun d' => AccountRead T userId current d' ∧
    (current.systemAdmin = true → current.disabled = false →
      (next.systemAdmin = false ∨ next.disabled = true) →
        ∃ d, T.Since (accountLocks userId) d d' ∧ 1 < d.countActiveSystemAdmins)) s ∧
  (current.disabled = false → next.disabled = true → ∃ seen,
    Under i (organizationLocks seen userId ++ accountLocks userId)
      (DisablingChecked T (accountLocks userId) userId seen) s)

/-- **An account update** keeps what its commit keeps. -/
theorem keeps_updateUser (userId : Uuid) (h : ∀ current next s,
      AccountChecked T i userId current next s → T.Invariant s →
      T.invariant (s.committed.persistUserUpdate userId next) ∧
      T.ensures s.committed (s.committed.persistUserUpdate userId next) ∧
      ∀ g ∈ s.grants, g.owner ≠ i →
        T.guard g.key g.mode s.committed (s.committed.persistUserUpdate userId next)) :
    T.Respects i (updateUserPostgres userId displayName systemAdmin disabled) := by
  refine Keeps.start (keeps_require.bind fun _ => Keeps.pre ?_ fun s _ h => h.1)
  refine (keeps_lock stable_true).bind fun _ => ?_
  refine (keeps_selectUserForUpdate stable_true userId).bind fun current => Keeps.right ?_
  generalize Directory.updatedUser current displayName systemAdmin disabled = next
  have hread : ∀ more, T.Stable (more ++ accountLocks userId) (AccountRead T userId current) :=
    fun more => stable_exists_since (List.subset_append_right _ _)
  refine (keeps_guardSystemAdmins (hread []) current _).bind fun _ => ?_
  have hguarded := fun more => (hread more).and (stable_imp (p := current.systemAdmin = true)
    (stable_imp (p := current.disabled = false) (stable_imp
      (p := next.systemAdmin = false ∨ next.disabled = true)
      (stable_exists_since (Q := fun d => 1 < d.countActiveSystemAdmins)
        (List.subset_append_right more _)))))
  refine (keeps_guardOrganizations hguarded userId current _).bind fun _ => ?_
  by_cases hdisables : current.disabled = false ∧ next.disabled = true
  · refine Keeps.pre (keeps_exists fun seen => keeps_commit ((hguarded _).and
      ((stable_since seen (List.subset_append_right _ _)).and
        (stable_exists_since (List.Subset.refl _)))) ?_) fun s _ h => h.2 hdisables.1 hdisables.2
    rintro s _ hunder hs ⟨⟩ -
    have hlocked := fun lock hlock => hunder.1 lock (List.mem_append_right _ hlock)
    exact h _ _ s ⟨⟨hlocked, hunder.2.1⟩, fun _ _ => ⟨seen, hunder.1, hunder.2.2⟩⟩ hs
  · refine Keeps.pre (keeps_commit (hguarded []) ?_) fun s _ h => h.1
    rintro s _ hunder hs ⟨⟩ -
    exact h _ _ s ⟨hunder, fun henabled hnext => absurd ⟨henabled, hnext⟩ hdisables⟩ hs

theorem keeps_guardAnotherAdmin (hP : T.Stable held P) (organizationId : Uuid) (losesAdmin : Bool) :
    T.Keeps i (Under i held P) (guardAnotherAdmin organizationId losesAdmin) fun _ =>
      Under i held fun d' => P d' ∧ (losesAdmin = true →
        ∃ d, T.Since held d d' ∧ d.ensureAnotherOrganizationAdmin organizationId = .ok ()) := by
  refine keeps_ite (fun _ => ?_) fun hnot => Discipline.keeps_pure fun s _ h => ⟨h.1, h.2, ?_⟩
  · refine (keeps_read hP).bind fun d => keeps_lift.post fun _ s _ h => ?_
    exact ⟨h.1.1, h.1.2.1, fun _ => ⟨d, h.1.2.2, h.2⟩⟩
  · exact fun hloses => absurd hloses hnot

theorem keeps_lockReferences (hP : ∀ more, T.Stable (more ++ held) P) (organizationId userId : Uuid)
    (current : Option Role) :
    T.Keeps i (Under i held P) (lockReferences organizationId userId current) fun _ s =>
      Under i held P s ∧ (current = none → Under i ((.user userId, .shared) :: held) P s) := by
  refine keeps_ite (fun _ => ?_) fun hnot => Discipline.keeps_pure fun s _ h => ⟨h, ?_⟩
  · refine (keeps_lock (hP [])).bind fun _ => (keeps_lock (hP [_])).post fun _ s _ h => ?_
    have hlocks : ∀ lock ∈ (.user userId, .shared) :: held, ⟨i, lock.1, lock.2⟩ ∈ s.grants := by
      intro lock hlock
      refine h.1 lock ?_
      rcases List.mem_cons.1 hlock with rfl | hlock
      · exact List.mem_cons_self
      · exact List.mem_cons_of_mem _ (List.mem_cons_of_mem _ hlock)
    exact ⟨⟨fun lock hlock => hlocks lock (List.mem_cons_of_mem _ hlock), h.2⟩, fun _ => ⟨hlocks, h.2⟩⟩
  · intro hnone
    exact absurd (by simp [hnone]) hnot

/-- What a membership change knows of the membership. -/
def MembershipRead (T : Discipline ι DirectoryLock Directory) (organizationId userId : Uuid)
    (current : Option Role) (d' : Directory) : Prop :=
  ∃ d, T.Since [(.organizationMembership organizationId, .exclusive)] d d' ∧
    current = (d.memberships.find (organizationId, userId)).map MembershipRow.role

/-- What a membership change knows when it writes. -/
def MembershipChecked (T : Discipline ι DirectoryLock Directory) (organizationId userId : Uuid)
    (current : Option Role) (losesAdmin : Bool) (d' : Directory) : Prop :=
  MembershipRead T organizationId userId current d' ∧ (losesAdmin = true →
    ∃ d, T.Since [(.organizationMembership organizationId, .exclusive)] d d' ∧
      d.ensureAnotherOrganizationAdmin organizationId = .ok ())

omit [DecidableEq ι] in
theorem MembershipChecked.stable {current : Option Role} {losesAdmin : Bool}
    (more : List (DirectoryLock × Mode)) :
    T.Stable (more ++ [(.organizationMembership organizationId, .exclusive)])
      (MembershipChecked T organizationId userId current losesAdmin) :=
  (stable_exists_since (List.subset_append_right _ _)).and
    (stable_imp (stable_exists_since (List.subset_append_right _ _)))

/-- **Membership changes** begin alike. -/
theorem respects_membershipChange {losesAdmin : Option Role → Bool}
    {change : Option Role → DirectoryTransaction Unit}
    (h : ∀ current, T.Keeps i (Under i [(.organizationMembership organizationId, .exclusive)]
      (MembershipChecked T organizationId userId current (losesAdmin current))) (change current)
      fun _ _ => True) :
    T.Respects i (do
      lock (.organizationMembership organizationId) .exclusive
      let current ← selectRoleForUpdate organizationId userId
      guardAnotherAdmin organizationId (losesAdmin current)
      change current : DirectoryTransaction Unit) := by
  refine Keeps.start ((keeps_lock stable_true).bind fun _ => ?_)
  refine (keeps_selectRoleForUpdate stable_true organizationId userId).bind fun current => ?_
  refine Keeps.right ((keeps_guardAnotherAdmin ?_ _ _).bind fun _ => h current)
  exact stable_exists_since (List.Subset.refl _)

end Statements

/-! ### Requests that run alone -/

namespace Directory

theorem persistUserUpdate_eq {current : UserRow} (h : d.users.find userId = some current)
    (displayName : Option String) (systemAdmin disabled : Option Bool) :
    d.persistUserUpdate userId (updatedUser current displayName systemAdmin disabled) = { d with
      users := d.users.update (fun user => user.id = userId)
        (fun user => updatedUser user displayName systemAdmin disabled) fun _ => rfl } := by
  obtain ⟨hmem, hid⟩ := Table.find_eq_some.1 h
  simp only [persistUserUpdate, Table.update, mk.injEq, Table.mk.injEq, true_and, and_true]
  refine List.map_congr_left fun user huser => ?_
  by_cases hsame : user.id = userId
  · obtain rfl := d.users.eq_of_key huser hmem (hsame.trans hid.symm)
    simp [Table.change, hsame, updatedUser]
  · simp [Table.change, hsame]

theorem find_newUser {displayName : String} {systemAdmin : Bool}
    (h : d.createUser newId displayName systemAdmin membership now = .ok d') :
    d.users.find newId = none := by
  simp only [createUser, bind_eq_ok, okOr_eq_ok] at h
  obtain ⟨_, -, _, -, users, husers, -⟩ := h
  exact Table.find_eq_none.2 (Table.rows_of_insertNew husers).1

/-- What an account update has checked, and what it writes. -/
theorem updateUser_eq_ok
    (h : d.updateUser userId displayName systemAdmin disabled = .ok d') :
    ∃ current next, d.users.find userId = some current ∧
      (current.systemAdmin = true → current.disabled = false →
        (next.systemAdmin = false ∨ next.disabled = true) → 1 < d.countActiveSystemAdmins) ∧
      (current.disabled = false → next.disabled = true →
        d.ensureUserKeepsActiveOrganizationAdministrator userId = .ok ()) ∧
      d' = d.persistUserUpdate userId next := by
  simp only [updateUser, bind_eq_ok, okOr_eq_ok, ensure_eq_ok] at h
  obtain ⟨_, -, current, hcurrent, _, hlast, h⟩ := h
  refine ⟨current, updatedUser current displayName systemAdmin disabled, hcurrent,
    fun hadmin henabled hloses => ?_, ?_⟩
  · rcases hloses with hloses | hloses <;>
      simpa [hadmin, henabled, hloses, countActiveSystemAdmins] using hlast
  · rw [persistUserUpdate_eq hcurrent]
    split at h
    · obtain ⟨_, hkeeps, h⟩ := bind_eq_ok.1 h
      exact ⟨fun _ _ => hkeeps, (pure_eq_ok.1 h).symm⟩
    · rename_i hnot
      exact ⟨fun henabled hdisables => absurd (by simp [henabled, hdisables]) hnot,
        (pure_eq_ok.1 h).symm⟩

theorem upsertMembership_eq_ok {role : Role}
    (h : d.upsertMembership organizationId userId role now = .ok d') :
    (d.administers organizationId userId = true → role ≠ .organizationAdmin →
      d.ensureAnotherOrganizationAdmin organizationId = .ok ()) ∧
      d' = d.putMembership organizationId userId role now := by
  simp only [upsertMembership] at h
  split at h
  · simp only [bind_eq_ok, pure_eq_ok] at h
    obtain ⟨_, hanother, _, -, rfl⟩ := h
    exact ⟨fun _ _ => hanother, rfl⟩
  · rename_i hnot
    simp only [bind_eq_ok, pure_eq_ok] at h
    obtain ⟨_, -, rfl⟩ := h
    refine ⟨fun hadministers hrole => absurd ?_ hnot, rfl⟩
    rw [administers] at hadministers
    simp [hadministers, hrole]

theorem removeMembership_eq_ok (h : d.removeMembership organizationId userId = .ok d') :
    (d.administers organizationId userId = true →
      d.ensureAnotherOrganizationAdmin organizationId = .ok ()) ∧
      d' = d.deleteMembership organizationId userId := by
  simp only [removeMembership] at h
  split at h
  · simp only [bind_eq_ok, pure_eq_ok] at h
    obtain ⟨_, hanother, rfl⟩ := h
    exact ⟨fun _ => hanother, rfl⟩
  · rename_i hnot
    obtain rfl := pure_eq_ok.1 h
    exact ⟨fun hadministers => absurd hadministers hnot, rfl⟩

end Directory

/-! ### The system administrators -/

/-- Nobody changes the rights of a user who is there. -/
def AccountsUnchanged (d d' : Directory) : Prop :=
  ∀ id user, d.users.find id = some user → ∃ user', d'.users.find id = some user' ∧
    user'.systemAdmin = user.systemAdmin ∧ user'.disabled = user.disabled

namespace AccountsUnchanged

theorem of_users_eq (h : d'.users = d.users) : AccountsUnchanged d d' :=
  fun _ user huser => ⟨user, by rw [h, huser], rfl, rfl⟩

theorem trans {d₁ d₂ d₃ : Directory} (h : AccountsUnchanged d₁ d₂)
    (h' : AccountsUnchanged d₂ d₃) : AccountsUnchanged d₁ d₃ := by
  intro id user huser
  obtain ⟨user₂, huser₂, hadmin₂, hdisabled₂⟩ := h id user huser
  obtain ⟨user₃, huser₃, hadmin₃, hdisabled₃⟩ := h' id user₂ huser₂
  exact ⟨user₃, huser₃, hadmin₃.trans hadmin₂, hdisabled₃.trans hdisabled₂⟩

theorem activeSystemAdmin (h : AccountsUnchanged d d') {id : Uuid}
    (hactive : d.activeSystemAdmin id = true) : d'.activeSystemAdmin id = true := by
  obtain ⟨user, huser, hrights⟩ := (Option.any_eq_true _ _).1 hactive
  obtain ⟨user', huser', hadmin, hdisabled⟩ := h id user huser
  rw [Directory.activeSystemAdmin, huser', Option.any_some, hadmin, hdisabled]
  exact hrights

theorem createUser {displayName : String} {systemAdmin : Bool}
    (h : d.createUser newId displayName systemAdmin membership now = .ok d') :
    AccountsUnchanged d d' := by
  obtain ⟨⟨new, -, hrows⟩, -⟩ := Directory.createUser_eq_ok h
  intro id user huser
  obtain ⟨hmem, hid⟩ := Table.find_eq_some.1 huser
  exact ⟨user, Table.find_eq_some.2 ⟨hrows ▸ List.mem_append_left _ hmem, hid⟩, rfl, rfl⟩

end AccountsUnchanged

section AccountsOnly

variable {T : Discipline ι DirectoryLock Directory} {i : ι}

open Discipline

/-- The discipline is about rights only. -/
def AccountsOnly (T : Discipline ι DirectoryLock Directory) : Prop :=
  ∀ d d', AccountsUnchanged d d' → T.invariant d →
    T.invariant d' ∧ T.ensures d d' ∧ ∀ key mode, T.guard key mode d d'

variable [DecidableEq ι]

/-- A commit that leaves the accounts as they are needs no lock. -/
theorem keeps_commit_accounts (hT : AccountsOnly T) {change : Directory → Option Directory}
    (h : ∀ d d', change d = some d' → AccountsUnchanged d d') :
    T.Keeps i (Under i held fun _ => True) (commit change : DirectoryTransaction Unit)
      fun _ _ => True := by
  refine keeps_commit stable_true fun s d _ hs hchange _ => ?_
  obtain ⟨hinvariant, hensures, hguard⟩ := hT _ _ (h _ _ hchange) hs.2
  exact ⟨hinvariant, hensures, fun g _ _ => hguard g.key g.mode⟩

/-- Only account updates change rights. -/
theorem governs_of_accountsOnly (hT : AccountsOnly T)
    (hupdate : ∀ i userId displayName systemAdmin disabled,
      T.Respects i (updateUserPostgres userId displayName systemAdmin disabled)) :
    T.Governs fun x => ∃ request : DirectoryRequest, True ∧ x = request.transaction .postgres := by
  rintro _ ⟨request, -, rfl⟩ i
  cases request with
  | createUser newId displayName systemAdmin membership now =>
    refine Keeps.start ((keeps_read stable_true).bind fun snapshot => keeps_require.bind fun _ => ?_)
    refine Keeps.pre ?_ fun s _ h => (⟨h.1.1, trivial⟩ : Under i [] (fun _ => True) s)
    refine (keeps_lockAll fun _ => stable_true).bind fun _ => keeps_commit_accounts hT ?_
    exact fun d d' hchange => .createUser (toOption_eq_some.1 hchange)
  | updateUser userId displayName systemAdmin disabled =>
    exact hupdate i userId displayName systemAdmin disabled
  | upsertMembership organizationId userId role now =>
    refine respects_membershipChange fun current => Keeps.forget ?_
    refine (keeps_lockReferences (fun _ => stable_true) _ _ _).bind fun _ => ?_
    refine Keeps.pre (keeps_commit_accounts hT ?_) fun s _ h => h.1
    intro d d' hchange
    obtain ⟨-, hput⟩ := Option.ite_none_right_eq_some.1 hchange
    obtain rfl := Option.some_inj.1 hput
    exact .of_users_eq rfl
  | removeMembership organizationId userId =>
    refine respects_membershipChange fun current => Keeps.forget (keeps_commit_accounts hT ?_)
    rintro d _ ⟨⟩
    exact .of_users_eq rfl

end AccountsOnly

/-- Somebody is an enabled system administrator. -/
def Directory.HasSystemAdmin (d : Directory) : Prop := ∃ id, d.activeSystemAdmin id = true

theorem AccountsUnchanged.hasSystemAdmin (h : AccountsUnchanged d d') (hd : d.HasSystemAdmin) :
    d'.HasSystemAdmin :=
  let ⟨id, hactive⟩ := hd
  ⟨id, h.activeSystemAdmin hactive⟩

/-- An account update leaves an administrator when it leaves the user one, or there is another. -/
theorem Directory.HasSystemAdmin.persistUserUpdate (hd : d.HasSystemAdmin)
    (hother : d.activeSystemAdmin userId = true →
      (next.systemAdmin = false ∨ next.disabled = true) →
        ∃ other, other ≠ userId ∧ d.activeSystemAdmin other = true) :
    (d.persistUserUpdate userId next).HasSystemAdmin := by
  have hkept : ∀ other, other ≠ userId → d.activeSystemAdmin other = true →
      (d.persistUserUpdate userId next).HasSystemAdmin := by
    intro other hne hactive
    refine ⟨other, ?_⟩
    rwa [activeSystemAdmin, find_persistUserUpdate_of_ne hne]
  obtain ⟨id, hactive⟩ := hd
  by_cases hid : id = userId
  · subst hid
    by_cases hloses : next.systemAdmin = false ∨ next.disabled = true
    · obtain ⟨other, hne, hother⟩ := hother hactive hloses
      exact hkept other hne hother
    · obtain ⟨user, huser, -⟩ := (Option.any_eq_true _ _).1 hactive
      push Not at hloses
      refine ⟨id, ?_⟩
      rw [activeSystemAdmin, find_persistUserUpdate_self huser]
      simp [hloses]
  · exact hkept id hid hactive

/-- Rights are changed by account updates, which all take one lock. -/
def systemAdminDiscipline (ι : Type) : Discipline ι DirectoryLock Directory where
  allowed := fun _ _ _ => True
  guard key _ d d' := key = .activeSystemAdmins → AccountsUnchanged d d'
  invariant := fun _ => True
  ensures d d' := d.HasSystemAdmin → d'.HasSystemAdmin
  guard_refl := fun _ _ _ _ => .of_users_eq rfl
  guard_trans := fun _ _ _ _ _ h h' hkey => (h hkey).trans (h' hkey)

section SystemAdmins

variable [DecidableEq ι] {i : ι}

open Discipline

theorem keeps_updateUser_systemAdmin (userId : Uuid) :
    (systemAdminDiscipline ι).Respects i
      (updateUserPostgres userId displayName systemAdmin disabled) := by
  refine keeps_updateUser userId fun current next s hchecked hs => ?_
  have hunder := hchecked.1
  obtain ⟨⟨d₁, hsince, hfind⟩, hguard⟩ := hunder.2
  have hheld : (.activeSystemAdmins, .exclusive) ∈ accountLocks userId := by simp [accountLocks]
  refine ⟨trivial, fun hd => hd.persistUserUpdate fun hactive hloses => ?_,
    fun g hg hne hkey => absurd hkey (hunder.not_exclusive hs hheld hg hne)⟩
  obtain ⟨user, huser, hrights⟩ := (Option.any_eq_true _ _).1 hactive
  obtain ⟨user', huser', hadmin, hdisabled⟩ := hsince _ hheld rfl userId current hfind
  obtain rfl := Option.some_inj.1 (huser.symm.trans huser')
  rw [hadmin, hdisabled, Bool.and_eq_true, Bool.not_eq_true'] at hrights
  obtain ⟨d₂, hsince₂, hcount⟩ := hguard hrights.1 hrights.2 hloses
  obtain ⟨other, hne, hother⟩ := Directory.exists_other_systemAdmin hcount userId
  exact ⟨other, hne, (hsince₂ _ hheld rfl).activeSystemAdmin hother⟩

theorem governs_systemAdmin : (systemAdminDiscipline ι).Governs fun x =>
    ∃ request : DirectoryRequest, True ∧ x = request.transaction .postgres :=
  governs_of_accountsOnly
    (fun _ _ hunchanged _ => ⟨trivial, hunchanged.hasSystemAdmin, fun _ _ _ => hunchanged⟩)
    fun _ userId _ _ _ => keeps_updateUser_systemAdmin userId

/-- A request that runs alone leaves an administrator. -/
theorem hasSystemAdmin_of_apply {request : DirectoryRequest} (h : request.apply d = .ok d')
    (hd : d.HasSystemAdmin) : d'.HasSystemAdmin := by
  cases request with
  | createUser newId displayName systemAdmin membership now =>
    exact (AccountsUnchanged.createUser h).hasSystemAdmin hd
  | updateUser userId displayName systemAdmin disabled =>
    obtain ⟨current, next, hfind, hcount, -, rfl⟩ := Directory.updateUser_eq_ok h
    refine hd.persistUserUpdate fun hactive hloses => ?_
    rw [Directory.activeSystemAdmin, hfind, Option.any_some, Bool.and_eq_true,
      Bool.not_eq_true'] at hactive
    exact Directory.exists_other_systemAdmin (hcount hactive.1 hactive.2 hloses) userId
  | upsertMembership organizationId userId role now =>
    obtain ⟨-, rfl⟩ := Directory.upsertMembership_eq_ok h
    exact hd
  | removeMembership organizationId userId =>
    obtain ⟨-, rfl⟩ := Directory.removeMembership_eq_ok h
    exact hd

/-- **An installation that has an enabled system administrator always keeps one**, whatever
requests run next to each other. -/
theorem installation_keeps_system_administrator (backend : Backend) {d : Directory}
    {C C' : Interaction.Configuration (statements DirectoryLock Directory)
      (Store ι DirectoryLock Directory) ι}
    (hbefore : (directoryPool (fun _ _ _ => True) backend fun _ => True).Steps
      (idle ι DirectoryLock d) C)
    (hC : C.store.committed.HasSystemAdmin)
    (hafter : (directoryPool (fun _ _ _ => True) backend fun _ => True).Steps C C') :
    C'.store.committed.HasSystemAdmin := by
  cases backend with
  | postgres =>
    exact governs_systemAdmin.kept_of_steps trivial (fun _ _ h => h) hbefore hC hafter
  | sqlite =>
    have hgoverns : (serial .writer (fun _ => True) fun d d' =>
        d.HasSystemAdmin → d'.HasSystemAdmin : Discipline ι DirectoryLock Directory).Governs
        fun x => ∃ request : DirectoryRequest, True ∧ x = request.transaction .sqlite := by
      rintro _ ⟨request, -, rfl⟩ i
      exact keeps_serialized fun d d' _ happly => ⟨trivial, hasSystemAdmin_of_apply happly⟩
    exact hgoverns.kept_of_steps trivial (fun _ _ h => h) hbefore hC hafter

end SystemAdmins

def sampleMemberId : Uuid := ⟨"00000000-0000-0000-0000-000000000007", by decide⟩
def sampleOrganizationId : Uuid := ⟨"00000000-0000-0000-0000-000000000008", by decide⟩

/-- Two users with these rights; the first administers an organization whose member the second
is. -/
def sampleMembers (systemAdmin : Bool) : Directory where
  organizations := ⟨[⟨sampleOrganizationId, "team", 0⟩], by simp⟩
  users := ⟨[⟨sampleUserId, "first", systemAdmin, false, 0⟩,
    ⟨sampleMemberId, "second", systemAdmin, false, 0⟩], by
      revert systemAdmin
      decide⟩
  memberships := ⟨[⟨sampleOrganizationId, sampleUserId, .organizationAdmin, 0⟩,
    ⟨sampleOrganizationId, sampleMemberId, .member, 0⟩], by decide⟩

def sampleDirectoryRun {ι : Type} [DecidableEq ι] (systemAdmin : Bool)
    (moves : List (Move ι DirectoryRequest)) : Directory :=
  (scheduled (fun _ _ _ => true) (DirectoryRequest.transaction .postgres)
    (idle ι DirectoryLock (sampleMembers systemAdmin)) moves).store.committed

/-- Two system administrators are demoted next to each other. -/
def sampleDemotions : List (Move Bool DirectoryRequest) :=
  [.start false (.updateUser sampleUserId none (some false) none),
   .start true (.updateUser sampleMemberId none (some false) none),
   .proceed false 4, .proceed true 1, .proceed false 4,
   .start true (.updateUser sampleMemberId none (some false) none), .proceed true 9]

/-- One of them stays. -/
theorem installation_keeps_system_administrator_sample :
    (sampleDirectoryRun true sampleDemotions).activeSystemAdmin sampleUserId = false ∧
      (sampleDirectoryRun true sampleDemotions).HasSystemAdmin :=
  ⟨by decide +kernel,
    installation_keeps_system_administrator (d := sampleMembers true) .postgres .refl
      ⟨sampleUserId, by decide +kernel⟩ (steps_scheduled (fun _ _ _ _ => trivial) _ sampleDemotions
        fun _ request _ => ⟨request, trivial, rfl⟩)⟩

/-! ### The administrators of an organization -/

namespace Directory

/-- Somebody who is enabled administers the organization. -/
def Managed (d : Directory) (organizationId : Uuid) : Prop :=
  ∃ userId, d.administers organizationId userId = true ∧ d.enabledUser userId = true

/-- Somebody else does. -/
def ManagedWithout (d : Directory) (organizationId userId : Uuid) : Prop :=
  ∃ other, other ≠ userId ∧ d.administers organizationId other = true ∧ d.enabledUser other = true

variable {organization : Uuid}

theorem enabledUser_persistUserUpdate_of_ne (h : other ≠ userId) :
    (d.persistUserUpdate userId next).enabledUser other = d.enabledUser other := by
  rw [enabledUser_eq, enabledUser_eq, find_persistUserUpdate_of_ne h]

theorem enabledUser_persistUserUpdate_self (h : d.enabledUser userId = true)
    (hnext : next.disabled = false) :
    (d.persistUserUpdate userId next).enabledUser userId = true := by
  rw [enabledUser_eq] at h ⊢
  obtain ⟨user, huser, -⟩ := (Option.any_eq_true _ _).1 h
  rw [find_persistUserUpdate_self huser]
  simp [hnext]

theorem enabledUser_persistUserUpdate (h : d.enabledUser other = true)
    (hkept : other = userId → next.disabled = false) :
    (d.persistUserUpdate userId next).enabledUser other = true := by
  by_cases hother : other = userId
  · subst hother
    exact enabledUser_persistUserUpdate_self h (hkept rfl)
  · rwa [enabledUser_persistUserUpdate_of_ne hother]

theorem Managed.persistUserUpdate
    (hd : d.Managed organizationId)
    (hother : d.administers organizationId userId = true → d.enabledUser userId = true →
      next.disabled = true → d.ManagedWithout organizationId userId) :
    (d.persistUserUpdate userId next).Managed organizationId := by
  obtain ⟨id, hadministers, henabled⟩ := hd
  by_cases hkept : id = userId → next.disabled = false
  · exact ⟨id, hadministers, enabledUser_persistUserUpdate henabled hkept⟩
  · push Not at hkept
    obtain ⟨rfl, hdisables⟩ := hkept
    obtain ⟨other, hne, hadmin, hother⟩ :=
      hother hadministers henabled (Bool.eq_true_of_not_eq_false hdisables)
    exact ⟨other, hadmin, (enabledUser_persistUserUpdate_of_ne hne).trans hother⟩

theorem Managed.putMembership {role : Role} (hd : d.Managed organization)
    (hother : d.administers organizationId userId = true → role ≠ .organizationAdmin →
      d.ManagedWithout organizationId userId) :
    (d.putMembership organizationId userId role now).Managed organization := by
  obtain ⟨id, hadministers, henabled⟩ := hd
  by_cases hkey : (organization, id) = (organizationId, userId)
  · obtain ⟨rfl, rfl⟩ := Prod.mk.inj hkey
    by_cases hrole : role = .organizationAdmin
    · exact ⟨id, by rw [administers_putMembership, if_pos rfl, hrole]; rfl, henabled⟩
    · obtain ⟨other, hne, hadmin, hother⟩ := hother hadministers hrole
      refine ⟨other, ?_, hother⟩
      rwa [administers_putMembership, if_neg fun h => hne (Prod.mk.inj h).2]
  · exact ⟨id, by rwa [administers_putMembership, if_neg hkey], henabled⟩

theorem Managed.deleteMembership
    (hd : d.Managed organization)
    (hother : d.administers organizationId userId = true →
      d.ManagedWithout organizationId userId) :
    (d.deleteMembership organizationId userId).Managed organization := by
  obtain ⟨id, hadministers, henabled⟩ := hd
  by_cases hkey : (organization, id) = (organizationId, userId)
  · obtain ⟨rfl, rfl⟩ := Prod.mk.inj hkey
    obtain ⟨other, hne, hadmin, hother⟩ := hother hadministers
    refine ⟨other, ?_, hother⟩
    rw [administers_deleteMembership, hadmin, Bool.true_and, decide_eq_true_eq]
    exact fun h => hne (Prod.mk.inj h).2
  · refine ⟨id, ?_, henabled⟩
    rw [administers_deleteMembership, hadministers, Bool.true_and, decide_eq_true_eq]
    exact hkey

end Directory

/-- What nobody else does under the locks: change rights, change the memberships of an organization
or disable one of its administrators, and give a user more organizations to administer. -/
def organizationGuard : DirectoryLock → Mode → Directory → Directory → Prop
  | .activeSystemAdmins, _, d, d' => AccountsUnchanged d d'
  | .organizationMembership organizationId, _, d, d' =>
    (∀ userId, d'.memberships.find (organizationId, userId) =
      d.memberships.find (organizationId, userId)) ∧
    ∀ userId, d.administers organizationId userId = true → d.enabledUser userId = true →
      d'.enabledUser userId = true
  | .user userId, .exclusive, d, d' => ∀ organizationId,
      d'.administers organizationId userId = true → d.administers organizationId userId = true
  | _, _, _, _ => True

theorem administers_congr (h : d'.memberships.find (organizationId, userId) =
      d.memberships.find (organizationId, userId)) :
    d'.administers organizationId userId = d.administers organizationId userId := by
  rw [Directory.administers, Directory.administers, h]

theorem organizationGuard_refl (key : DirectoryLock) (mode : Mode) (d : Directory) :
    organizationGuard key mode d d := by
  cases key with
  | activeSystemAdmins => exact .of_users_eq rfl
  | organizationMembership organizationId => exact ⟨fun _ => rfl, fun _ _ h => h⟩
  | user userId =>
    cases mode with
    | exclusive => exact fun _ h => h
    | shared => trivial
  | writer | organization | membership => trivial

theorem organizationGuard_trans (key : DirectoryLock) (mode : Mode) (d₁ d₂ d₃ : Directory)
    (h : organizationGuard key mode d₁ d₂) (h' : organizationGuard key mode d₂ d₃) :
    organizationGuard key mode d₁ d₃ := by
  cases key with
  | activeSystemAdmins => exact AccountsUnchanged.trans h h'
  | organizationMembership organizationId =>
    refine ⟨fun userId => (h'.1 userId).trans (h.1 userId), fun userId hadmin henabled => ?_⟩
    exact h'.2 userId ((administers_congr (h.1 userId)).trans hadmin) (h.2 userId hadmin henabled)
  | user userId =>
    cases mode with
    | exclusive => exact fun organizationId hadmin => h organizationId (h' organizationId hadmin)
    | shared => trivial
  | writer | organization | membership => trivial

/-- **No promotion next to an account update**: when a member becomes an administrator, nobody else
has locked the row of that user. -/
def PromotesApart {ι : Type} (i : ι) (s : Store ι DirectoryLock Directory) :
    Statement DirectoryLock Directory → Prop
  | .commit change => ∀ d, change s.committed = some d → ∀ organizationId userId,
      (s.committed.memberships.find (organizationId, userId)).isSome = true →
      s.committed.administers organizationId userId = false →
      d.administers organizationId userId = true →
        ∀ g ∈ s.grants, g.key = .user userId → g.mode = .exclusive → g.owner = i
  | _ => True

def organizationDiscipline (ι : Type) : Discipline ι DirectoryLock Directory where
  allowed := PromotesApart
  guard := organizationGuard
  invariant := fun _ => True
  ensures d d' := ∀ organizationId, d.Managed organizationId → d'.Managed organizationId
  guard_refl := organizationGuard_refl
  guard_trans := organizationGuard_trans

section Organizations

variable {i : ι}

open Discipline

variable {seen : Directory}

theorem enabled_of_current {current : UserRow}
    (hheld : (DirectoryLock.activeSystemAdmins, Mode.exclusive) ∈ held)
    (hsince : (organizationDiscipline ι).Since held d d')
    (hfind : d.users.find userId = some current) (henabled : d'.enabledUser userId = true) :
    current.disabled = false := by
  obtain ⟨user, huser, -, hdisabled⟩ := hsince _ hheld userId current hfind
  rw [Directory.enabledUser_eq, huser, Option.any_some, Bool.not_eq_true'] at henabled
  exact hdisabled ▸ henabled

/-- An organization that a user administers was locked before the user is disabled. -/
theorem DisablingChecked.locked (h : DisablingChecked (organizationDiscipline ι) held userId seen d)
    (hheld : (DirectoryLock.user userId, Mode.exclusive) ∈ held)
    (hadmin : d.administers organizationId userId = true) :
    (DirectoryLock.organizationMembership organizationId, Mode.exclusive) ∈
      organizationLocks seen userId ++ held := by
  have hseen : seen.administers organizationId userId = true := h.1 _ hheld organizationId hadmin
  refine List.mem_append_left _ (List.mem_map.2 ⟨_, List.mem_map.2 ⟨organizationId, ?_, rfl⟩, rfl⟩)
  exact Directory.mem_administeredOrganizations.2 hseen

theorem DisablingChecked.managedWithout
    (h : DisablingChecked (organizationDiscipline ι) held userId seen d)
    (hheld : (DirectoryLock.user userId, Mode.exclusive) ∈ held)
    (hadmin : d.administers organizationId userId = true) :
    d.ManagedWithout organizationId userId := by
  have hlocked := h.locked hheld hadmin
  obtain ⟨-, d₂, hsince, hkeeps⟩ := h
  obtain ⟨hrows, henabled⟩ := hsince _ hlocked
  obtain ⟨other, hne, hother, hactive⟩ := Directory.exists_other_of_ensureKeeps hkeeps
    ((administers_congr (hrows userId)).symm.trans hadmin)
  exact ⟨other, hne, (administers_congr (hrows other)).trans hother,
    henabled other hother hactive⟩

variable [DecidableEq ι]

theorem keeps_updateUser_organizations (userId : Uuid) :
    (organizationDiscipline ι).Respects i
      (updateUserPostgres userId displayName systemAdmin disabled) := by
  refine keeps_updateUser userId fun current next s ⟨hunder, hdisabling⟩ hs => ?_
  obtain ⟨⟨d₁, hsince, hfind⟩, -⟩ := hunder.2
  have hheld : (.activeSystemAdmins, .exclusive) ∈ accountLocks userId := by simp [accountLocks]
  -- who is disabled was enabled before, so that the organizations have been checked
  have hseen : s.committed.enabledUser userId = true → next.disabled = true → ∃ seen,
      Under i (organizationLocks seen userId ++ accountLocks userId)
        (DisablingChecked _ (accountLocks userId) userId seen) s :=
    fun henabled => hdisabling (enabled_of_current hheld hsince hfind henabled)
  refine ⟨trivial, fun organizationId hmanaged => hmanaged.persistUserUpdate
    fun hadmin henabled hnext => ?_, fun g hg hne => ?_⟩
  · obtain ⟨seen, -, hchecked⟩ := hseen henabled hnext
    exact hchecked.managedWithout List.mem_cons_self hadmin
  obtain ⟨owner, key, mode⟩ := g
  cases key with
  | activeSystemAdmins => exact absurd rfl (hunder.not_exclusive hs hheld hg hne)
  | organizationMembership organizationId =>
    refine ⟨fun _ => rfl, fun other hadmin henabled => ?_⟩
    refine Directory.enabledUser_persistUserUpdate henabled fun hother => ?_
    subst hother
    by_contra hnext
    obtain ⟨seen, hlocked, hchecked⟩ := hseen henabled (Bool.eq_true_of_not_eq_false hnext)
    have hmembership := hchecked.locked List.mem_cons_self hadmin
    exact Under.not_exclusive ⟨hlocked, hchecked⟩ hs hmembership hg hne rfl
  | user other => cases mode with
    | exclusive => exact fun _ h => h
    | shared => trivial
  | writer | organization | membership => trivial

omit [DecidableEq ι] in
theorem MembershipRead.current {current : Option Role}
    (h : MembershipRead (organizationDiscipline ι) organizationId userId current d) :
    (d.memberships.find (organizationId, userId)).map MembershipRow.role = current := by
  obtain ⟨d₁, hsince, rfl⟩ := h
  rw [(hsince _ List.mem_cons_self).1 userId]

omit [DecidableEq ι] in
theorem MembershipRead.administers {current : Option Role}
    (h : MembershipRead (organizationDiscipline ι) organizationId userId current d) :
    d.administers organizationId userId = true ↔ current = some .organizationAdmin := by
  rw [← h.current, Directory.administers]
  cases d.memberships.find (organizationId, userId) with
  | none | some => simp

omit [DecidableEq ι] in
/-- The other administrator whom the guard has seen is there until the change is committed. -/
theorem MembershipChecked.managedWithout {current : Option Role}
    (h : MembershipChecked (organizationDiscipline ι) organizationId userId current true d') :
    d'.ManagedWithout organizationId userId := by
  obtain ⟨d, hsince, hanother⟩ := h.2 rfl
  obtain ⟨other, hne, hadmin, hactive⟩ := Directory.exists_other_of_ensureAnother hanother userId
  obtain ⟨hrows, henabled⟩ := hsince _ List.mem_cons_self
  exact ⟨other, hne, (administers_congr (hrows other)).trans hadmin,
    henabled other hadmin hactive⟩

/-- A change of one membership respects the locks of the others, apart from that of its user when it
is a promotion. -/
theorem organizationGuard_of_membership (husers : d'.users = d.users)
    (hrows : ∀ key, key ≠ (organizationId, userId) →
      d'.memberships.find key = d.memberships.find key) {key : DirectoryLock} {mode : Mode}
    (hkey : key ≠ .organizationMembership organizationId)
    (hgrows : key = .user userId → mode = .exclusive →
      d'.administers organizationId userId = true → d.administers organizationId userId = true) :
    organizationGuard key mode d d' := by
  cases key with
  | activeSystemAdmins => exact .of_users_eq husers
  | organizationMembership other =>
    have hne : other ≠ organizationId := fun h => hkey (h ▸ rfl)
    refine ⟨fun id => hrows _ fun h => hne (Prod.mk.inj h).1, fun id _ henabled => ?_⟩
    rwa [Directory.enabledUser, husers]
  | user id => cases mode with
    | shared => trivial
    | exclusive =>
      intro other hadmin
      by_cases hsame : (other, id) = (organizationId, userId)
      · obtain ⟨rfl, rfl⟩ := Prod.mk.inj hsame
        exact hgrows rfl rfl hadmin
      · exact (administers_congr (hrows _ hsame)).symm.trans hadmin
  | writer | organization | membership => trivial

omit [DecidableEq ι] in
/-- What the commit of a membership does, once a promotion is known to respect the lock of the
user. -/
theorem respects_putMembership {s : Store ι DirectoryLock Directory} {role : Role}
    {current : Option Role}
    (hchecked : MembershipChecked (organizationDiscipline ι) organizationId userId current
      (current = some .organizationAdmin && role ≠ .organizationAdmin) s.committed)
    (hlocked : ∀ g ∈ s.grants, g.owner ≠ i → g.key ≠ .organizationMembership organizationId)
    (hgrows : ∀ g ∈ s.grants, g.owner ≠ i → g.key = .user userId → g.mode = .exclusive →
      (s.committed.putMembership organizationId userId role now).administers
        organizationId userId = true →
      s.committed.administers organizationId userId = true) :
    (∀ organization, s.committed.Managed organization →
      (s.committed.putMembership organizationId userId role now).Managed organization) ∧
    ∀ g ∈ s.grants, g.owner ≠ i → organizationGuard g.key g.mode s.committed
      (s.committed.putMembership organizationId userId role now) := by
  refine ⟨fun _ hmanaged => hmanaged.putMembership fun hadmin hrole => ?_, fun g hg hne => ?_⟩
  · rw [hchecked.1.administers.1 hadmin, decide_eq_true rfl, decide_eq_true hrole] at hchecked
    exact hchecked.managedWithout
  · have hrows : ∀ key, key ≠ (organizationId, userId) →
        (s.committed.putMembership organizationId userId role now).memberships.find key =
          s.committed.memberships.find key := fun key hkey => by
      rw [Directory.find_putMembership, if_neg (Ne.symm hkey)]
    exact organizationGuard_of_membership (Directory.users_putMembership ..) hrows
      (hlocked g hg hne) (hgrows g hg hne)

theorem keeps_upsertMembership_organizations (organizationId userId : Uuid) (role : Role) (now : ℤ) :
    (organizationDiscipline ι).Respects i
      (upsertMembershipPostgres organizationId userId role now) := by
  refine respects_membershipChange fun current => ?_
  refine (keeps_lockReferences MembershipChecked.stable _ _ _).bind fun _ => ?_
  by_cases hnew : current = none
  · refine Keeps.pre (keeps_commit (MembershipChecked.stable [_]) ?_) fun s _ h => h.2 hnew
    intro s d hunder hs hchange _
    obtain ⟨-, hput⟩ := Option.ite_none_right_eq_some.1 hchange
    obtain rfl := Option.some_inj.1 hput
    refine ⟨trivial, respects_putMembership hunder.2 (fun g => hunder.not_exclusive hs (by simp))
      fun g hg hne hkey hmode _ => ?_⟩
    -- the row of the user is locked for the foreign key
    have hcompatible : g.mode.compatible .shared = true :=
      hunder.excludes hs (show (DirectoryLock.user userId, Mode.shared) ∈ _ by simp) hg hne hkey
    rw [hmode] at hcompatible
    cases hcompatible
  · refine Keeps.pre (keeps_commit (MembershipChecked.stable []) ?_) fun s _ h => h.1
    intro s d hunder hs hchange hallowed
    obtain ⟨-, hput⟩ := Option.ite_none_right_eq_some.1 hchange
    obtain rfl := Option.some_inj.1 hput
    refine ⟨trivial, respects_putMembership hunder.2 (fun g => hunder.not_exclusive hs (by simp))
      fun g hg hne hkey hmode hadmin => ?_⟩
    by_contra hnot
    have hmember : (s.committed.memberships.find (organizationId, userId)).isSome = true := by
      rw [← Option.isSome_map (f := MembershipRow.role), hunder.2.1.current]
      exact Option.isSome_iff_ne_none.2 hnew
    exact hne (hallowed _ hchange organizationId userId hmember
      (Bool.eq_false_of_not_eq_true hnot) hadmin g hg hkey hmode)

theorem keeps_removeMembership_organizations (organizationId userId : Uuid) :
    (organizationDiscipline ι).Respects i (removeMembershipPostgres organizationId userId) := by
  refine respects_membershipChange fun current => keeps_commit (MembershipChecked.stable []) ?_
  rintro s _ hunder hs ⟨⟩ -
  refine ⟨trivial, fun _ hmanaged => hmanaged.deleteMembership fun hadmin => ?_,
    fun g hg hne => ?_⟩
  · have hchecked := hunder.2
    rw [hchecked.1.administers.1 hadmin, decide_eq_true rfl] at hchecked
    exact hchecked.managedWithout
  · have hrows : ∀ key, key ≠ (organizationId, userId) →
        (s.committed.deleteMembership organizationId userId).memberships.find key =
          s.committed.memberships.find key :=
      fun key hkey => Directory.find_deleteMembership_of_ne hkey
    refine organizationGuard_of_membership (Directory.users_deleteMembership ..) hrows
      (hunder.not_exclusive hs List.mem_cons_self hg hne) fun _ _ hadmin => ?_
    rw [Directory.administers_deleteMembership, Bool.and_eq_true] at hadmin
    exact hadmin.1

theorem governs_organizations : (organizationDiscipline ι).Governs fun x =>
    ∃ request : DirectoryRequest, request.isChange = true ∧ x = request.transaction .postgres := by
  rintro _ ⟨request, hchange, rfl⟩ i
  cases request with
  | createUser newId displayName systemAdmin membership now => cases hchange
  | updateUser userId displayName systemAdmin disabled =>
    exact keeps_updateUser_organizations userId
  | upsertMembership organizationId userId role now =>
    exact keeps_upsertMembership_organizations organizationId userId role now
  | removeMembership organizationId userId =>
    exact keeps_removeMembership_organizations organizationId userId

/-- A change that runs alone leaves every organization an administrator. -/
theorem managed_of_apply {request : DirectoryRequest} (hchange : request.isChange = true)
    (h : request.apply d = .ok d') (hd : d.Managed organizationId) : d'.Managed organizationId := by
  cases request with
  | createUser newId displayName systemAdmin membership now => cases hchange
  | updateUser userId displayName systemAdmin disabled =>
    obtain ⟨current, next, hfind, -, hkeeps, rfl⟩ := Directory.updateUser_eq_ok h
    refine hd.persistUserUpdate fun hadmin henabled hdisables => ?_
    rw [Directory.enabledUser_eq, hfind, Option.any_some, Bool.not_eq_true'] at henabled
    exact Directory.exists_other_of_ensureKeeps (hkeeps henabled hdisables) hadmin
  | upsertMembership organization userId role now =>
    obtain ⟨hanother, rfl⟩ := Directory.upsertMembership_eq_ok h
    exact hd.putMembership fun hadmin hrole =>
      Directory.exists_other_of_ensureAnother (hanother hadmin hrole) userId
  | removeMembership organization userId =>
    obtain ⟨hanother, rfl⟩ := Directory.removeMembership_eq_ok h
    exact hd.deleteMembership fun hadmin =>
      Directory.exists_other_of_ensureAnother (hanother hadmin) userId

/-- Only PostgreSQL lets transactions run next to each other. -/
def Backend.PromotesApart : Backend → ι → Store ι DirectoryLock Directory →
    Statement DirectoryLock Directory → Prop
  | .sqlite => fun _ _ _ => True
  | .postgres => WorkspaceControl.PromotesApart

/-- **Every organization that has members keeps an enabled administrator**, whatever changes of
memberships and accounts run next to each other, when no member is promoted while an account update
of the same user is under way. -/
theorem organizations_keep_administrators (backend : Backend) {d : Directory}
    {C : Interaction.Configuration (statements DirectoryLock Directory)
      (Store ι DirectoryLock Directory) ι}
    (hstart : ∀ row ∈ d.memberships.rows, d.activeAdministrators row.organizationId ≠ [])
    (hrun : (directoryPool backend.PromotesApart backend fun request =>
      request.isChange = true).Steps (idle ι DirectoryLock d) C) :
    ∀ row ∈ d.memberships.rows, C.store.committed.activeAdministrators row.organizationId ≠ [] := by
  intro row hrow
  have hmanaged : d.Managed row.organizationId :=
    Directory.activeAdministrators_ne_nil.1 (hstart row hrow)
  refine Directory.activeAdministrators_ne_nil.2 ?_
  cases backend with
  | postgres =>
    exact governs_organizations.kept_of_steps trivial
      (fun _ _ hensures => hensures row.organizationId) .refl hmanaged hrun
  | sqlite =>
    have hgoverns : (serial .writer (fun _ => True) fun d d' =>
        d.Managed row.organizationId → d'.Managed row.organizationId :
          Discipline ι DirectoryLock Directory).Governs fun x => ∃ request : DirectoryRequest,
            request.isChange = true ∧ x = request.transaction .sqlite := by
      rintro _ ⟨request, hchange, rfl⟩ i
      exact keeps_serialized fun d d' _ happly => ⟨trivial, managed_of_apply hchange happly⟩
    exact hgoverns.kept_of_steps trivial (fun _ _ hensures => hensures) .refl hmanaged hrun

end Organizations

/-- Nobody commits while another connection has locked the row of a user. -/
def accountsUnlocked (i : Bool) (s : Store Bool DirectoryLock Directory) :
    Statement DirectoryLock Directory → Bool
  | .commit _ => s.grants.all fun g => g.owner = i || !(g.key matches .user _)
  | _ => true

/-- The member becomes an administrator while an account update begins, which disables the first. -/
def sampleSuccession : List (Move Bool DirectoryRequest) :=
  [.start false (.upsertMembership sampleOrganizationId sampleMemberId .organizationAdmin 0),
   .proceed false 4, .start true (.updateUser sampleUserId none none (some true)), .proceed true 2,
   .proceed false 9, .proceed true 12]

def sampleSucceeded : Directory :=
  (scheduled accountsUnlocked (DirectoryRequest.transaction .postgres)
    (idle Bool DirectoryLock (sampleMembers false)) sampleSuccession).store.committed

theorem organizations_keep_administrators_sample :
    (sampleSucceeded.activeAdministrators sampleOrganizationId).map MembershipRow.userId
        = [sampleMemberId] ∧
    ∀ row ∈ (sampleMembers false).memberships.rows,
      sampleSucceeded.activeAdministrators row.organizationId ≠ [] := by
  refine ⟨by decide +kernel, organizations_keep_administrators (d := sampleMembers false) .postgres
    (by decide +kernel) (steps_scheduled ?_ _ sampleSuccession ?_)⟩
  · rintro i s (_ | _ | change) hpermits
    · trivial
    · trivial
    · intro _ _ _ userId _ _ _ g hg hkey _
      have howner := List.all_eq_true.1 hpermits g hg
      rw [hkey] at howner
      simpa using howner
  · intro i request hmem
    refine ⟨request, ?_, rfl⟩
    simp only [sampleSuccession, List.mem_cons, List.not_mem_nil, Move.start.injEq, reduceCtorEq,
      or_false, false_or] at hmem
    rcases hmem with ⟨-, rfl⟩ | ⟨-, rfl⟩ <;> rfl

/-- An account update disables the member and has found no organization to lock; then the member is
promoted, the first administrator is removed, and the account update commits. -/
def sampleLatePromotion : List (Move Bool DirectoryRequest) :=
  [.start false (.updateUser sampleMemberId none none (some true)), .proceed false 6,
   .start true (.upsertMembership sampleOrganizationId sampleMemberId .organizationAdmin 0),
   .proceed true 9,
   .start true (.removeMembership sampleOrganizationId sampleUserId), .proceed true 9,
   .proceed false 1]

/-- **A promotion that falls between the queries of an account update** leaves an organization with
a member and without an enabled administrator. -/
theorem late_promotion_strands_organization :
    (∀ row ∈ (sampleMembers false).memberships.rows,
      (sampleMembers false).activeAdministrators row.organizationId ≠ []) ∧
    ∃ C, (directoryPool (fun _ _ _ => True) .postgres fun request =>
        request.isChange = true).Steps (idle Bool DirectoryLock (sampleMembers false)) C ∧
      (C.store.committed.memberships.find (sampleOrganizationId, sampleMemberId)).isSome = true ∧
      C.store.committed.activeAdministrators sampleOrganizationId = [] := by
  have hend : (∀ row ∈ (sampleMembers false).memberships.rows,
        (sampleMembers false).activeAdministrators row.organizationId ≠ []) ∧
      ((sampleDirectoryRun false sampleLatePromotion).memberships.find
        (sampleOrganizationId, sampleMemberId)).isSome = true ∧
      (sampleDirectoryRun false sampleLatePromotion).activeAdministrators sampleOrganizationId = []
        := by
    decide +kernel
  refine ⟨hend.1, _, steps_scheduled (fun _ _ _ _ => trivial) _ sampleLatePromotion ?_, hend.2⟩
  intro i request hmem
  refine ⟨request, ?_, rfl⟩
  simp only [sampleLatePromotion, List.mem_cons, List.not_mem_nil, Move.start.injEq, reduceCtorEq,
    or_false, false_or] at hmem
  rcases hmem with ⟨-, rfl⟩ | ⟨-, rfl⟩ | ⟨-, rfl⟩ <;> rfl

end WorkspaceControl
