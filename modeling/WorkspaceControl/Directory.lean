/-
**Organizations, users and memberships.**

`src/src/storage/admin_store` and `src/src/storage/identity`: the tables of the people of an
installation, and the transactions that write them.  An installation keeps an enabled system
administrator and an organization an enabled administrator: the transactions refuse to take the
last one away.

Main definitions:

* `Directory` — the tables;
* `Directory.createUser`, `Directory.updateUser`, `Directory.createOrganization`,
  `Directory.deleteOrganizationIfEmpty`, `Directory.upsertMembership`,
  `Directory.removeMembership` — the transactions;
* `Directory.sshAccessCandidateIds` — the users whose public keys are shared with an organization.

Main results:

* `Directory.mem_sshAccessCandidateIds` — who a candidate is.
-/
import Mathlib.Data.List.Sort
import WorkspaceControl.TemplateApi

set_option autoImplicit false

namespace WorkspaceControl

open Fallible Relational

/-! ### Tables -/

structure OrganizationRow where
  id : Uuid
  name : String
  createdAt : ℤ

structure UserRow where
  id : Uuid
  displayName : String
  systemAdmin : Bool
  disabled : Bool
  createdAt : ℤ

structure MembershipRow where
  organizationId : Uuid
  userId : Uuid
  role : Role
  createdAt : ℤ

/-- The primary key of `organization_memberships`. -/
def MembershipRow.key (row : MembershipRow) : Uuid × Uuid := (row.organizationId, row.userId)

structure Directory where
  organizations : Table OrganizationRow.id
  users : Table UserRow.id
  memberships : Table MembershipRow.key

namespace Directory

/-- An enabled user of this id. -/
def enabledUser (d : Directory) (userId : Uuid) : Bool :=
  d.users.rows.any fun user => user.id = userId && !user.disabled

/-- The memberships of the enabled administrators of an organization. -/
def activeAdministrators (d : Directory) (organizationId : Uuid) : List MembershipRow :=
  d.memberships.rows.filter fun row => row.organizationId = organizationId &&
    row.role = .organizationAdmin && d.enabledUser row.userId

def ensureAnotherOrganizationAdmin (d : Directory) (organizationId : Uuid) :
    Except StorageError Unit :=
  ensure (1 < (d.activeAdministrators organizationId).length) .lastOrganizationAdmin

/-- In every organization that the user administers somebody else does so too. -/
def ensureUserKeepsActiveOrganizationAdministrator (d : Directory) (userId : Uuid) :
    Except StorageError Unit :=
  ensure (d.memberships.rows.all fun row =>
      !(row.userId = userId && row.role = .organizationAdmin) ||
        (d.activeAdministrators row.organizationId).any fun other => other.userId ≠ userId)
    .lastOrganizationAdmin

/-! ### Transactions -/

/-- A new membership; the foreign keys must hold. -/
def insertMembership (d : Directory) (row : MembershipRow) : Except StorageError Directory := do
  ensure ((d.organizations.find row.organizationId).isSome && (d.users.find row.userId).isSome)
    (.database "FOREIGN KEY constraint failed")
  let memberships ← okOr (d.memberships.insertNew row)
    (.database "UNIQUE constraint failed: organization_memberships")
  pure { d with memberships }

/-- The identifier is drawn by the caller. -/
def createUser (d : Directory) (newId : Uuid) (displayName : String) (systemAdmin : Bool)
    (membership : Option (Uuid × Role)) (now : ℤ) : Except StorageError Directory := do
  ensure (membership.all fun m => m.2 ≠ .systemAdmin) .invalidOrganizationMembership
  ensure (membership.all fun m => (d.organizations.find m.1).isSome) .organizationNotFound
  let users ← okOr (d.users.insertNew ⟨newId, displayName, systemAdmin, false, now⟩)
    (.database "UNIQUE constraint failed: users.id")
  match membership with
  | none => pure { d with users }
  | some m => insertMembership { d with users } ⟨m.1, newId, m.2, now⟩

/-- The row after an update. -/
def updatedUser (user : UserRow) (displayName : Option String) (systemAdmin disabled : Option Bool) :
    UserRow :=
  { user with
    displayName := String.ofList (Text.trim (displayName.getD user.displayName).toList)
    systemAdmin := systemAdmin.getD user.systemAdmin
    disabled := disabled.getD user.disabled }

def updateUser (d : Directory) (userId : Uuid) (displayName : Option String)
    (systemAdmin disabled : Option Bool) : Except StorageError Directory := do
  ensure (displayName.all fun name =>
    !(Text.trim name.toList).isEmpty && Text.len name.toList ≤ 120) .invalidUserProfile
  let current ← okOr (d.users.find userId) .userNotFound
  let next := updatedUser current displayName systemAdmin disabled
  ensure (!(current.systemAdmin && !current.disabled && (!next.systemAdmin || next.disabled)) ||
      1 < (d.users.rows.filter fun user => user.systemAdmin && !user.disabled).length)
    .lastSystemAdmin
  if !current.disabled && next.disabled then
    d.ensureUserKeepsActiveOrganizationAdministrator userId
  pure { d with
    users := d.users.update (fun user => user.id = userId)
      (fun user => updatedUser user displayName systemAdmin disabled) fun _ => rfl }

/-- The owner of a new organization administers it. -/
def createOrganization (d : Directory) (newId : Uuid) (name : String) (ownerUserId : Uuid)
    (now : ℤ) : Except StorageError Directory := do
  let name := String.ofList (Text.trim name.toList)
  ensure (name ≠ "") .organizationNotFound
  ensure (!d.organizations.rows.any fun row => row.name = name)
    (.database "UNIQUE constraint failed: organizations.name")
  let organizations ← okOr (d.organizations.insertNew ⟨newId, name, now⟩)
    (.database "UNIQUE constraint failed: organizations.id")
  insertMembership { d with organizations } ⟨newId, ownerUserId, .organizationAdmin, now⟩

/-- An organization without workspaces and templates is deleted with its memberships. -/
def deleteOrganizationIfEmpty (d : Directory) (workspaces : WorkspaceTable)
    (templates : TemplateTable) (organizationId : Uuid) : Except StorageError Directory := do
  ensure (!(workspaces.rows.any fun row => row.organizationId = organizationId &&
      row.state ≠ WorkspaceState.deleted.asStr) &&
    !(templates.rows.any fun row => row.organizationId = some organizationId)) .organizationInUse
  ensure (d.organizations.find organizationId).isSome .organizationNotFound
  pure { d with
    organizations := d.organizations.delete fun row => row.id = organizationId
    memberships := d.memberships.delete fun row => row.organizationId = organizationId }

def upsertMembership (d : Directory) (organizationId userId : Uuid) (role : Role) (now : ℤ) :
    Except StorageError Directory := do
  let current := d.memberships.find (organizationId, userId)
  if (current.any fun row => row.role = .organizationAdmin) && role ≠ .organizationAdmin then
    d.ensureAnotherOrganizationAdmin organizationId
  ensure ((d.organizations.find organizationId).isSome && (d.users.find userId).isSome)
    (.database "FOREIGN KEY constraint failed")
  pure { d with
    memberships := d.memberships.put ⟨organizationId, userId, role, now⟩
      (fun row => { row with role }) fun _ => rfl }

def removeMembership (d : Directory) (organizationId userId : Uuid) :
    Except StorageError Directory := do
  let current := d.memberships.find (organizationId, userId)
  if current.any fun row => row.role = .organizationAdmin then
    d.ensureAnotherOrganizationAdmin organizationId
  pure { d with
    memberships := d.memberships.delete fun row => row.key = (organizationId, userId) }

/-! ### Shared public keys -/

def isMember (d : Directory) (organizationId userId : Uuid) : Bool :=
  d.memberships.rows.any fun row => row.key = (organizationId, userId)

/-- The enabled users who are members of the organization or system administrators. -/
def sshAccessCandidateIds (d : Directory) (organizationId : Uuid) : List Uuid :=
  ((d.users.rows.filter fun user =>
    !user.disabled && (user.systemAdmin || d.isMember organizationId user.id)).map
      UserRow.id).insertionSort (· ≤ ·)

variable {d d' : Directory} {newId : Uuid} {now : ℤ}

theorem mem_sshAccessCandidateIds {organizationId userId : Uuid} :
    userId ∈ d.sshAccessCandidateIds organizationId ↔ ∃ user ∈ d.users.rows, user.id = userId ∧
      user.disabled = false ∧ (user.systemAdmin = true ∨ d.isMember organizationId userId = true) := by
  simp only [sshAccessCandidateIds, List.mem_insertionSort, List.mem_map, List.mem_filter,
    Bool.and_eq_true, Bool.not_eq_true', Bool.or_eq_true]
  constructor
  · rintro ⟨user, ⟨huser, hdisabled, hright⟩, rfl⟩
    exact ⟨user, huser, rfl, hdisabled, hright⟩
  · rintro ⟨user, huser, rfl, hdisabled, hright⟩
    exact ⟨user, ⟨huser, hdisabled, hright⟩, rfl⟩

/-! ### What the transactions write -/

theorem insertMembership_eq_ok {row : MembershipRow} (h : d.insertMembership row = .ok d') :
    d'.users = d.users ∧ d'.memberships.rows = d.memberships.rows ++ [row] := by
  simp only [insertMembership, bind_eq_ok, okOr_eq_ok, pure_eq_ok] at h
  obtain ⟨_, -, memberships, hinsert, rfl⟩ := h
  exact ⟨rfl, (Table.rows_of_insertNew hinsert).2⟩

/-- One new user, and memberships of that user only. -/
theorem createUser_eq_ok {displayName : String} {systemAdmin : Bool}
    {membership : Option (Uuid × Role)}
    (h : d.createUser newId displayName systemAdmin membership now = .ok d') :
    (∃ user, user.id = newId ∧ d'.users.rows = d.users.rows ++ [user]) ∧
      ∃ added, d'.memberships.rows = d.memberships.rows ++ added ∧
        ∀ row ∈ added, row.userId = newId := by
  simp only [createUser, bind_eq_ok, okOr_eq_ok] at h
  obtain ⟨_, -, _, -, users, husers, h⟩ := h
  have hrows := (Table.rows_of_insertNew husers).2
  cases membership with
  | none =>
    obtain rfl := pure_eq_ok.1 h
    exact ⟨⟨_, rfl, hrows⟩, [], (List.append_nil _).symm, by simp⟩
  | some m =>
    obtain ⟨hsame, hmemberships⟩ := insertMembership_eq_ok h
    have husers' : d'.users.rows = users.rows := congrArg Table.rows hsame
    exact ⟨⟨_, rfl, husers'.trans hrows⟩, _, hmemberships, by simp⟩

/-- One new membership, of the new organization. -/
theorem createOrganization_eq_ok {name : String} {ownerUserId : Uuid}
    (h : d.createOrganization newId name ownerUserId now = .ok d') :
    d'.users = d.users ∧ ∃ row : MembershipRow, row.organizationId = newId ∧
      d'.memberships.rows = d.memberships.rows ++ [row] := by
  simp only [createOrganization, bind_eq_ok, okOr_eq_ok] at h
  obtain ⟨_, -, _, -, organizations, -, h⟩ := h
  obtain ⟨hsame, hmemberships⟩ := insertMembership_eq_ok h
  exact ⟨hsame, _, rfl, hmemberships⟩

/-- Only memberships of an organization without live workspaces go. -/
theorem deleteOrganizationIfEmpty_eq_ok {workspaces : WorkspaceTable} {templates : TemplateTable}
    {organizationId : Uuid}
    (h : d.deleteOrganizationIfEmpty workspaces templates organizationId = .ok d') :
    (∀ row ∈ workspaces.rows, row.organizationId = organizationId →
      row.state = WorkspaceState.deleted.asStr) ∧ d'.users = d.users ∧
      d'.memberships = d.memberships.delete fun row => row.organizationId = organizationId := by
  simp only [deleteOrganizationIfEmpty, bind_eq_ok, ensure_eq_ok, pure_eq_ok, Bool.and_eq_true,
    Bool.not_eq_true', List.any_eq_false] at h
  obtain ⟨_, ⟨hworkspaces, -⟩, _, -, rfl⟩ := h
  refine ⟨fun row hrow horganization => ?_, rfl, rfl⟩
  simpa [horganization] using hworkspaces row hrow

end Directory

end WorkspaceControl
