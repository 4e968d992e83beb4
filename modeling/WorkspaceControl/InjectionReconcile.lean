/-
**Changes of the resolved injections.**

What is materialized in a workspace depends on five tables: the items, the references, the
memberships, the users, and the workspace itself.  `src/src/storage/injection_reconcile.rs` finds
the workspaces that a change concerns and enqueues a job for each.  Some writers of the tables do
so in their own transaction, some in a later one, and some not at all.

Main definitions:

* `TenancyCommit`, `TenancyCommit.apply` — the transactions that write one of the tables;
* `TenancyCommit.Enqueues` — those that enqueue the jobs themselves or need none.

Main results:

* `Tenancy.resolved_congr` — what the resolved set depends on;
* `change_leaves_pending_job` — **a commit that changes the resolved set of a live workspace leaves a
  pending reconcile job for it exactly if it is of the second kind or one was pending before**;
* `changes_without_job` — replacing an item, removing a member and disabling a user leave none.
-/
import WorkspaceControl.InjectionApi

set_option autoImplicit false

namespace WorkspaceControl

open Fallible Relational

/-! ### Commits -/

/-- The call creates a workspace. -/
def StoreCall.creates : StoreCall → Bool
  | create .. => true
  | _ => false

/-- The transactions that write one of the tables; each is one commit. -/
inductive TenancyCommit
  | replaceInjection (scopeRef : InjectionScopeRef) (item : InjectionItem) (actorUserId : Uuid)
      (now : ℤ)
  | deleteInjections (scopeRef : InjectionScopeRef) (keys : List String) (allowLocked : Bool)
      (jobIds : Uuid → Uuid) (now : ℤ) (finish : Except StorageError Unit)
  | enqueueReconciles (scopeRef : InjectionScopeRef) (jobIds : Uuid → Uuid) (now : ℤ)
  | createWorkspace (id jobId : Uuid) (command : CreateWorkspace)
      (options : WorkspaceCreationOptions) (refs : WorkspaceInjectionRefs)
      (inline : List InjectionItem) (actorUserId : Uuid)
  | store (call : StoreCall) (hcall : call.creates = false) (locked : Uuid → Bool)
  | createUser (newId : Uuid) (displayName : String) (systemAdmin : Bool)
      (membership : Option (Uuid × Role)) (now : ℤ)
  | updateUser (userId : Uuid) (displayName : Option String) (systemAdmin disabled : Option Bool)
  | createOrganization (newId : Uuid) (name : String) (ownerUserId : Uuid) (now : ℤ)
  | deleteOrganization (templates : TemplateTable) (organizationId : Uuid)
  | upsertMembership (organizationId userId : Uuid) (role : Role) (now : ℤ)
  | removeMembership (organizationId userId : Uuid)

namespace Tenancy

/-- A workspace that the transaction has removed. -/
def vanished (db db' : Database) (id : Uuid) : Bool :=
  (db.workspaces.find id).isSome && (db'.workspaces.find id).isNone

/-- The other tables after a transaction on the workspaces: `scrub_deleted` removes the items of a
deleted workspace, and its references go with its row. -/
def withDatabase (t : Tenancy) (database : Database) : Tenancy where
  database := database
  directory := t.directory
  items := t.items.delete fun row =>
    row.scopeRef.scope = .workspace && vanished t.database database row.scopeRef.scopeId
  refs := t.refs.filter fun row => !vanished t.database database row.workspaceId

end Tenancy

namespace TenancyCommit

def apply (t : Tenancy) : TenancyCommit → Except StorageError Tenancy
  | replaceInjection scopeRef item actorUserId now =>
    (t.replaceInjection scopeRef item actorUserId now).map Prod.snd
  | deleteInjections scopeRef keys allowLocked jobIds now finish =>
    (t.deleteInjectionsAndEnqueueReconciles scopeRef keys allowLocked jobIds now finish).map
      Prod.snd
  | enqueueReconciles scopeRef jobIds now =>
    (t.enqueueInjectionReconciles scopeRef jobIds now).map Prod.snd
  | createWorkspace id jobId command options refs inline actorUserId =>
    (t.createWorkspace id jobId command options refs inline actorUserId).map Prod.snd
  | store call _ locked => pure (t.withDatabase (call.transaction t.database locked).2)
  | createUser newId displayName systemAdmin membership now =>
    (t.directory.createUser newId displayName systemAdmin membership now).map fun directory =>
      { t with directory }
  | updateUser userId displayName systemAdmin disabled =>
    (t.directory.updateUser userId displayName systemAdmin disabled).map fun directory =>
      { t with directory }
  | createOrganization newId name ownerUserId now =>
    (t.directory.createOrganization newId name ownerUserId now).map fun directory =>
      { t with directory }
  | deleteOrganization templates organizationId =>
    (t.directory.deleteOrganizationIfEmpty t.database.workspaces templates organizationId).map
      fun directory => { t with directory }
  | upsertMembership organizationId userId role now =>
    (t.directory.upsertMembership organizationId userId role now).map fun directory =>
      { t with directory }
  | removeMembership organizationId userId =>
    (t.directory.removeMembership organizationId userId).map fun directory =>
      { t with directory }

/-- The commit enqueues its jobs itself, or can concern no workspace. -/
def Enqueues : TenancyCommit → Prop
  | replaceInjection .. => False
  | updateUser _ _ systemAdmin disabled => systemAdmin = none ∧ disabled = none
  | upsertMembership .. => False
  | removeMembership .. => False
  | _ => True

/-- Drawn identifiers are new: nothing refers to them. -/
def Fresh (t : Tenancy) : TenancyCommit → Prop
  | createUser newId .. => ∀ row ∈ t.items.rows, row.scopeRef ≠ ⟨.user, newId⟩
  | createOrganization newId .. =>
    ∀ row ∈ t.database.workspaces.rows, row.organizationId ≠ newId
  | _ => True

end TenancyCommit

/-! ### What the resolved set depends on -/

variable {scopeRef : InjectionScopeRef} {actorUserId id jobId organizationId workspaceId : Uuid}
  {options : WorkspaceCreationOptions} {t t' : Tenancy} {row : WorkspaceRow}

namespace Tenancy

theorem loadInjections_congr (h : t'.items.rows.filter (fun row => row.scopeRef = scopeRef)
      = t.items.rows.filter fun row => row.scopeRef = scopeRef) :
    t'.loadInjections scopeRef = t.loadInjections scopeRef := by
  rw [loadInjections, loadInjections, h]

theorem workspaceInjectionRefs_congr (h : t'.refs.filter (fun row => row.workspaceId = workspaceId)
      = t.refs.filter fun row => row.workspaceId = workspaceId) :
    t'.workspaceInjectionRefs workspaceId = t.workspaceInjectionRefs workspaceId := by
  simp only [workspaceInjectionRefs, h]

/-- The public keys that the candidates share, one candidate at a time. -/
def sharedBy (t : Tenancy) (template : WorkspaceTemplateSpec) (selection : InjectionSelection)
    (userId : Uuid) : List ResolvedInjection :=
  if userId = selection.ownerId then []
  else candidateKeys template selection ⟨userId, t.loadInjections ⟨.user, userId⟩⟩

theorem sharedSshKeys_eq_flatMap (template : WorkspaceTemplateSpec)
    (selection : InjectionSelection) (userIds : List Uuid) :
    sharedSshKeys template selection
        (userIds.map fun userId => ⟨userId, t.loadInjections ⟨.user, userId⟩⟩)
      = userIds.flatMap (t.sharedBy template selection) := by
  induction userIds with
  | nil => rfl
  | cons userId rest ih =>
    rw [sharedSshKeys, List.map_cons, List.flatMap_cons, ← ih, sharedBy, List.filter_cons]
    by_cases hid : userId = selection.ownerId
    · simp [hid, sharedSshKeys]
    · simp [hid, sharedSshKeys]

/-- The resolved set depends on the items of the three scopes, on the references of the workspace,
and on what the candidates share. -/
theorem resolved_congr
    (horganization : t'.loadInjections ⟨.organization, row.organizationId⟩
      = t.loadInjections ⟨.organization, row.organizationId⟩)
    (howner : t'.loadInjections ⟨.user, row.ownerId⟩ = t.loadInjections ⟨.user, row.ownerId⟩)
    (hworkspace : t'.loadInjections ⟨.workspace, row.id⟩ = t.loadInjections ⟨.workspace, row.id⟩)
    (hrefs : t'.workspaceInjectionRefs row.id = t.workspaceInjectionRefs row.id)
    (hshared : ∀ template selection,
      (t'.directory.sshAccessCandidateIds row.organizationId).flatMap
          (t'.sharedBy template selection)
        = (t.directory.sshAccessCandidateIds row.organizationId).flatMap
          (t.sharedBy template selection)) : t'.resolved row = t.resolved row := by
  simp only [resolved, resolveWorkspaceInjections, sharedSshKeys_eq_flatMap, horganization, howner,
    hworkspace, hrefs, hshared]

theorem shared_congr {template : WorkspaceTemplateSpec} {selection : InjectionSelection}
    (hids : t'.directory.sshAccessCandidateIds row.organizationId
      = t.directory.sshAccessCandidateIds row.organizationId)
    (hitems : ∀ userId ∈ t.directory.sshAccessCandidateIds row.organizationId,
      t'.loadInjections ⟨.user, userId⟩ = t.loadInjections ⟨.user, userId⟩) :
    (t'.directory.sshAccessCandidateIds row.organizationId).flatMap
        (t'.sharedBy template selection)
      = (t.directory.sshAccessCandidateIds row.organizationId).flatMap
        (t.sharedBy template selection) := by
  rw [hids, List.flatMap_def, List.flatMap_def]
  refine congrArg List.flatten (List.map_congr_left fun userId hid => ?_)
  rw [sharedBy, sharedBy, hitems userId hid]

theorem resolved_of_directory {directory : Directory}
    (hids : directory.sshAccessCandidateIds row.organizationId
      = t.directory.sshAccessCandidateIds row.organizationId) :
    { t with directory }.resolved row = t.resolved row :=
  resolved_congr rfl rfl rfl rfl fun _ _ => shared_congr hids fun _ _ => rfl

/-- Where the items of a scope change what is resolved, the scope concerns the workspace. -/
theorem concerns_of_changed (hsame : t'.refs = t.refs ∧ t'.directory = t.directory)
    (hscopes : ∀ other, other ≠ scopeRef → t'.items.rows.filter (fun row => row.scopeRef = other)
      = t.items.rows.filter fun row => row.scopeRef = other)
    (hchanged : t'.resolved row ≠ t.resolved row) :
    concerns t.directory scopeRef row = true := by
  by_contra hconcerns
  refine hchanged ?_
  have hload : ∀ other, concerns t.directory other row = true →
      t'.loadInjections other = t.loadInjections other := by
    intro other hother
    refine loadInjections_congr (hscopes other ?_)
    rintro rfl
    exact hconcerns hother
  refine resolved_congr (hload _ (by simp [concerns])) (hload _ (by simp [concerns]))
    (hload _ (by simp [concerns])) (workspaceInjectionRefs_congr (by rw [hsame.1]))
    fun _ _ => shared_congr (by rw [hsame.2]) fun userId hid => hload _ ?_
  obtain ⟨user, huser, rfl, hdisabled, hright⟩ := Directory.mem_sshAccessCandidateIds.1 hid
  rcases hright with hadmin | hmember
  · simp only [concerns, Bool.or_eq_true, List.any_eq_true, Bool.and_eq_true, decide_eq_true_eq]
    exact .inr ⟨user, huser, ⟨rfl, hadmin⟩, by simp [hdisabled]⟩
  · simp [concerns, hmember]

end Tenancy

/-! ### Candidates -/

namespace Directory

variable {d d' : Directory}

theorem sshAccessCandidateIds_congr (husers : d'.users = d.users)
    (hmembers : ∀ userId, d'.isMember organizationId userId = d.isMember organizationId userId) :
    d'.sshAccessCandidateIds organizationId = d.sshAccessCandidateIds organizationId := by
  simp only [sshAccessCandidateIds, husers, hmembers]

/-- A new display name changes no candidate. -/
theorem sshAccessCandidateIds_updateUser {userId : Uuid} {displayName : Option String}
    (h : d.updateUser userId displayName none none = .ok d') :
    d'.sshAccessCandidateIds organizationId = d.sshAccessCandidateIds organizationId := by
  simp only [updateUser, bind_eq_ok] at h
  obtain ⟨_, -, current, -, _, -, h⟩ := h
  rw [if_neg (by simp [updatedUser]), pure_eq_ok] at h
  subst h
  set next := Table.change (fun user : UserRow => decide (user.id = userId))
    fun user => updatedUser user displayName none none with hnext
  have hid : UserRow.id ∘ next = UserRow.id := funext (Table.apply_change _ fun _ _ => rfl)
  have hadmin : ∀ user, (next user).systemAdmin = user.systemAdmin :=
    Table.apply_change _ fun _ _ => rfl
  have hdisabled : ∀ user, (next user).disabled = user.disabled := Table.apply_change _ fun _ _ => rfl
  have hkeeps : ∀ user, (next user).id = user.id := congrFun hid
  simp only [sshAccessCandidateIds, Table.update, ← hnext, List.filter_map, List.map_map, hid]
  simp only [Function.comp_def, hadmin, hdisabled, hkeeps]
  rfl

/-- Sorting commutes with leaving out. -/
theorem filter_insertionSort (l : List Uuid) (p : Uuid → Bool) :
    (l.insertionSort (· ≤ ·)).filter p = (l.filter p).insertionSort (· ≤ ·) := by
  have hperm : ((l.insertionSort (· ≤ ·)).filter p).Perm ((l.filter p).insertionSort (· ≤ ·)) :=
    ((List.perm_insertionSort (· ≤ ·) l).filter p).trans (List.perm_insertionSort _ _).symm
  exact hperm.eq_of_pairwise' ((List.pairwise_insertionSort (· ≤ ·) l).filter p)
    (List.pairwise_insertionSort (· ≤ ·) _)

/-- A new user is at most one more candidate. -/
theorem filter_sshAccessCandidateIds {newId : Uuid} {user : UserRow} {added : List MembershipRow}
    (hid : user.id = newId) (husers : d'.users.rows = d.users.rows ++ [user])
    (hmemberships : d'.memberships.rows = d.memberships.rows ++ added)
    (hadded : ∀ row ∈ added, row.userId = newId) :
    (d'.sshAccessCandidateIds organizationId).filter (fun userId => userId ≠ newId)
      = d.sshAccessCandidateIds organizationId := by
  have hnew : ∀ other ∈ d.users.rows, other.id ≠ newId := by
    intro other hother heq
    have hnodup := d'.users.nodup
    rw [husers, List.map_append] at hnodup
    exact (List.nodup_append.1 hnodup).2.2 other.id (List.mem_map_of_mem hother) user.id
      (by simp) (heq.trans hid.symm)
  have hmember : ∀ other ∈ d.users.rows,
      d'.isMember organizationId other.id = d.isMember organizationId other.id := by
    intro other hother
    rw [isMember, isMember, hmemberships, List.any_append]
    have hnone : (added.any fun row => row.key = (organizationId, other.id)) = false := by
      rw [List.any_eq_false]
      intro row hrow hkey
      have huser : row.userId = other.id := congrArg Prod.snd (of_decide_eq_true hkey)
      exact hnew other hother (huser.symm.trans (hadded row hrow))
    rw [hnone, Bool.or_false]
  have hold : d.users.rows.filter (fun other => !other.disabled &&
        (other.systemAdmin || d'.isMember organizationId other.id))
      = d.users.rows.filter fun other => !other.disabled &&
        (other.systemAdmin || d.isMember organizationId other.id) :=
    List.filter_congr fun other hother => by rw [hmember other hother]
  have hkeep : ((d.users.rows.filter fun other => !other.disabled &&
        (other.systemAdmin || d.isMember organizationId other.id)).map UserRow.id).filter
        (fun userId => userId ≠ newId)
      = (d.users.rows.filter fun other => !other.disabled &&
        (other.systemAdmin || d.isMember organizationId other.id)).map UserRow.id := by
    refine List.filter_eq_self.2 fun userId hmem => ?_
    obtain ⟨other, hother, rfl⟩ := List.mem_map.1 hmem
    exact decide_eq_true (hnew other (List.mem_filter.1 hother).1)
  have hlast : ∀ p : UserRow → Bool,
      (([user].filter p).map UserRow.id).filter (fun userId => userId ≠ newId) = [] := by
    intro p
    refine List.filter_eq_nil_iff.2 fun userId hmem => ?_
    obtain ⟨other, hother, rfl⟩ := List.mem_map.1 hmem
    rw [List.mem_singleton.1 (List.mem_filter.1 hother).1, hid]
    simp
  rw [sshAccessCandidateIds, sshAccessCandidateIds, filter_insertionSort, husers, List.filter_append,
    hold, List.map_append, List.filter_append, hkeep, hlast, List.append_nil]

end Directory

/-! ### Commits that enqueue -/

namespace Tenancy

variable {command : CreateWorkspace} {workspace : Workspace}

theorem pending_of_createWorkspace {db db' : Database}
    (h : WorkspaceControl.createWorkspace db id jobId command options = .ok (workspace, db')) :
    ∃ job ∈ db'.jobs.rows, job.kind = .reconcileWorkspace ∧ job.workspaceId = some id ∧
      job.status = .pending := by
  simp only [WorkspaceControl.createWorkspace, bind_eq_ok, pure_eq_ok, Prod.exists,
    Prod.mk.injEq] at h
  obtain ⟨_, -, _, -, _, -, _, -, _, -, _, _, -, _, -, _, -, db₁, -, db₂, hjob, -, rfl⟩ := h
  obtain ⟨jobs, hjobs, rfl⟩ := Database.insertJob_eq_ok hjob
  refine ⟨newJobRow jobId (reconcileJob id (reconcilePayload 1 []) options.now) options.now, ?_,
    rfl, rfl, rfl⟩
  rw [(enqueueJob_eq_ok hjobs).2]
  exact List.mem_append_right _ (List.mem_singleton_self _)

variable {directory : Directory} {inline : List InjectionItem} {newId : Uuid} {now : ℤ}

/-- The items of a new workspace are in its own scope. -/
theorem filter_insertInitial {items items' : Table InjectionRow.address}
    (h : insertInitial workspaceId actorUserId now inline items = .ok items')
    {other : InjectionScopeRef} (hother : other ≠ ⟨.workspace, workspaceId⟩) :
    items'.rows.filter (fun row => row.scopeRef = other)
      = items.rows.filter fun row => row.scopeRef = other := by
  induction inline generalizing items with
  | nil =>
    obtain rfl := pure_eq_ok.1 h
    rfl
  | cons item rest ih =>
    obtain ⟨items₁, hsave, hrest⟩ := bind_eq_ok.1 h
    rw [ih hrest, saveInjection_eq_ok hsave]
    refine Table.filter_rows_put fun row hkey => decide_eq_false fun heq => hother ?_
    exact heq.symm.trans (congrArg Prod.fst hkey)

theorem pending_or_same_of_createWorkspace
    {refs : WorkspaceInjectionRefs}
    (h : t.createWorkspace id jobId command options refs inline actorUserId
      = .ok (workspace, t')) (hrow : row ∈ t'.database.workspaces.rows) :
    t'.PendingReconcile row.id ∨ t'.resolved row = t.resolved row := by
  simp only [createWorkspace, bind_eq_ok, pure_eq_ok, Prod.exists, Prod.mk.injEq] at h
  obtain ⟨workspace, database, hcreate, _, -, items, hitems, -, rfl⟩ := h
  by_cases hid : row.id = id
  · rw [hid]
    exact .inl (pending_of_createWorkspace hcreate)
  · have hload : ∀ other : InjectionScopeRef, other ≠ ⟨.workspace, id⟩ →
        loadInjections ⟨database, t.directory, items, t.refs ++ refRows id refs⟩ other
          = t.loadInjections other :=
      fun other hother => loadInjections_congr (filter_insertInitial hitems hother)
    refine .inr (resolved_congr (hload _ (by simp)) (hload _ (by simp)) (hload _ (by simp [hid]))
      (workspaceInjectionRefs_congr ?_) fun _ _ => shared_congr rfl fun _ _ => hload _ (by simp))
    -- the new references are those of the new workspace
    have hnone : (refRows id refs).filter (fun ref => ref.workspaceId = row.id) = [] := by
      refine List.filter_eq_nil_iff.2 fun ref href => ?_
      have hworkspace : ref.workspaceId = id := by
        simp only [refRows, List.mem_append, List.mem_map] at href
        rcases href with ⟨_, -, rfl⟩ | ⟨_, -, rfl⟩ <;> rfl
      simp [hworkspace, Ne.symm hid]
    rw [List.filter_append, hnone, List.append_nil]

/-- A workspace that is still there keeps its items and its references. -/
theorem resolved_withDatabase {database : Database} (hrow : row ∈ database.workspaces.rows) :
    (t.withDatabase database).resolved row = t.resolved row := by
  have hthere : vanished t.database database row.id = false := by
    rw [vanished, Table.find_key_of_mem hrow]
    simp
  have hload : ∀ other : InjectionScopeRef, other.scope ≠ .workspace ∨ other.scopeId = row.id →
      (t.withDatabase database).loadInjections other = t.loadInjections other := by
    intro other hother
    refine loadInjections_congr (Table.filter_rows_delete fun item hitem =>
      decide_eq_false ?_)
    rintro rfl
    simp only [Bool.and_eq_true, decide_eq_true_eq] at hitem
    rcases hother with hscope | hid
    · exact hscope hitem.1
    · rw [hid, hthere] at hitem
      cases hitem.2
  refine resolved_congr (hload _ (.inl (by simp))) (hload _ (.inl (by simp))) (hload _ (.inr rfl))
    (workspaceInjectionRefs_congr ?_)
    fun _ _ => shared_congr rfl fun _ _ => hload _ (.inl (by simp))
  rw [withDatabase, List.filter_filter]
  refine List.filter_congr fun ref _ => ?_
  by_cases hid : ref.workspaceId = row.id
  · simp [hid, hthere]
  · simp [hid]

theorem resolved_of_createUser {displayName : String} {systemAdmin : Bool}
    {membership : Option (Uuid × Role)}
    (h : t.directory.createUser newId displayName systemAdmin membership now = .ok directory)
    (hfresh : ∀ row ∈ t.items.rows, row.scopeRef ≠ ⟨.user, newId⟩) :
    { t with directory }.resolved row = t.resolved row := by
  obtain ⟨⟨user, hid, husers⟩, added, hmemberships, hadded⟩ := Directory.createUser_eq_ok h
  have hids := @Directory.filter_sshAccessCandidateIds row.organizationId t.directory directory
    newId user added hid husers hmemberships hadded
  refine resolved_congr rfl rfl rfl rfl fun template selection => ?_
  have hempty : t.loadInjections ⟨.user, newId⟩ = [] := by
    rw [loadInjections, List.filter_eq_nil_iff.2 fun item hitem => by simpa using hfresh item hitem]
    rfl
  have hnothing : sharedBy { t with directory } template selection newId = [] := by
    have hsame : loadInjections { t with directory } ⟨.user, newId⟩ = [] := hempty
    rw [sharedBy, hsame]
    split
    · rfl
    · rfl
  -- the new candidate, if there is one, shares nothing
  rw [← hids]
  generalize directory.sshAccessCandidateIds row.organizationId = userIds
  induction userIds with
  | nil => rfl
  | cons userId rest ih =>
    rw [List.flatMap_cons, List.filter_cons, ih]
    by_cases hnew : userId = newId
    · rw [hnew, hnothing]
      simp
    · simp only [ne_eq, hnew, not_false_eq_true, decide_true, if_true, List.flatMap_cons]
      rfl

theorem resolved_of_createOrganization {name : String} {ownerUserId : Uuid}
    (h : t.directory.createOrganization newId name ownerUserId now = .ok directory)
    (hne : row.organizationId ≠ newId) : { t with directory }.resolved row = t.resolved row := by
  obtain ⟨husers, membership, horganization, hmemberships⟩ := Directory.createOrganization_eq_ok h
  refine resolved_of_directory (Directory.sshAccessCandidateIds_congr husers fun userId => ?_)
  rw [Directory.isMember, Directory.isMember, hmemberships, List.any_append]
  have hother : membership.key ≠ (row.organizationId, userId) := fun hkey =>
    hne ((congrArg Prod.fst hkey).symm.trans horganization)
  simp [hother]

theorem resolved_of_deleteOrganization {templates : TemplateTable}
    (h : t.directory.deleteOrganizationIfEmpty t.database.workspaces
      templates organizationId = .ok directory) (hrow : row ∈ t.database.workspaces.rows)
    (hlive : live row = true) : { t with directory }.resolved row = t.resolved row := by
  obtain ⟨hempty, husers, hmemberships⟩ := Directory.deleteOrganizationIfEmpty_eq_ok h
  have hne : row.organizationId ≠ organizationId := by
    intro heq
    simp [live, hempty row hrow heq] at hlive
  refine resolved_of_directory (Directory.sshAccessCandidateIds_congr husers fun userId => ?_)
  rw [Directory.isMember, Directory.isMember, hmemberships, Bool.eq_iff_iff, List.any_eq_true,
    List.any_eq_true]
  constructor
  · rintro ⟨membership, hmem, hkey⟩
    exact ⟨membership, (Table.mem_delete.1 hmem).1, hkey⟩
  · rintro ⟨membership, hmem, hkey⟩
    refine ⟨membership, Table.mem_delete.2 ⟨hmem, decide_eq_false fun heq => hne ?_⟩, hkey⟩
    exact (congrArg Prod.fst (of_decide_eq_true hkey)).symm.trans heq

variable {commit : TenancyCommit}

/-- A commit that enqueues its jobs itself, or that can concern no workspace, leaves a job for a live
workspace whose resolved set it changes. -/
theorem pendingReconcile_of_enqueues (hcommit : commit.apply t = .ok t')
    (henqueues : commit.Enqueues) (hfresh : commit.Fresh t)
    (hrow : row ∈ t'.database.workspaces.rows) (hlive : live row = true)
    (hchanged : t'.resolved row ≠ t.resolved row) : t'.PendingReconcile row.id := by
  cases commit with
  | replaceInjection | upsertMembership | removeMembership => exact henqueues.elim
  | deleteInjections scopeRef keys allowLocked jobIds now finish =>
    obtain ⟨⟨n, t'⟩, hdelete, rfl⟩ := map_eq_ok.1 hcommit
    obtain ⟨⟨hrefs, hdirectory, hworkspaces⟩, -, hscopes, hpending⟩ :=
      deleteInjectionsAndEnqueueReconciles_eq_ok hdelete
    rw [hworkspaces] at hrow
    rcases hpending with hitems | hpending
    · -- no item was deleted
      refine absurd ?_ hchanged
      refine resolved_congr ?_ ?_ ?_ (workspaceInjectionRefs_congr (by rw [hrefs]))
        fun _ _ => shared_congr (by rw [hdirectory]) fun _ _ => ?_
      all_goals exact loadInjections_congr (by rw [hitems])
    · exact hpending row hrow hlive (concerns_of_changed ⟨hrefs, hdirectory⟩ hscopes hchanged)
  | enqueueReconciles scopeRef jobIds now =>
    obtain ⟨⟨n, t'⟩, henqueue, rfl⟩ := map_eq_ok.1 hcommit
    obtain ⟨hitems, hrefs, hdirectory, hworkspaces, hpending⟩ :=
      enqueueInjectionReconciles_eq_ok henqueue
    rw [hworkspaces] at hrow
    exact hpending row hrow hlive
      (concerns_of_changed ⟨hrefs, hdirectory⟩ (fun _ _ => by rw [hitems]) hchanged)
  | createWorkspace id jobId command options refs inline actorUserId =>
    obtain ⟨⟨workspace, t'⟩, hcreate, rfl⟩ := map_eq_ok.1 hcommit
    exact (pending_or_same_of_createWorkspace hcreate hrow).resolve_right hchanged
  | store call hcall locked =>
    obtain rfl := pure_eq_ok.1 hcommit
    exact absurd (resolved_withDatabase hrow) hchanged
  | createUser newId displayName systemAdmin membership now =>
    obtain ⟨directory, hcreate, rfl⟩ := map_eq_ok.1 hcommit
    exact absurd (resolved_of_createUser hcreate hfresh) hchanged
  | updateUser userId displayName systemAdmin disabled =>
    obtain ⟨rfl, rfl⟩ := henqueues
    obtain ⟨directory, hupdate, rfl⟩ := map_eq_ok.1 hcommit
    exact absurd (resolved_of_directory (Directory.sshAccessCandidateIds_updateUser hupdate))
      hchanged
  | createOrganization newId name ownerUserId now =>
    obtain ⟨directory, hcreate, rfl⟩ := map_eq_ok.1 hcommit
    exact absurd (resolved_of_createOrganization hcreate (hfresh row hrow)) hchanged
  | deleteOrganization templates organizationId =>
    obtain ⟨directory, hdelete, rfl⟩ := map_eq_ok.1 hcommit
    exact absurd (resolved_of_deleteOrganization hdelete hrow hlive) hchanged

/-- The other commits leave the jobs as they were. -/
theorem database_of_not_enqueues (hcommit : commit.apply t = .ok t')
    (henqueues : ¬ commit.Enqueues) : t'.database = t.database := by
  cases commit with
  | replaceInjection =>
    obtain ⟨⟨item, t'⟩, hreplace, rfl⟩ := map_eq_ok.1 hcommit
    simp only [replaceInjection, bind_eq_ok, pure_eq_ok, Prod.mk.injEq] at hreplace
    obtain ⟨_, -, _, -, _, -, -, rfl⟩ := hreplace
    rfl
  | updateUser | upsertMembership | removeMembership =>
    obtain ⟨directory, -, rfl⟩ := map_eq_ok.1 hcommit
    rfl
  | deleteInjections | enqueueReconciles | createWorkspace | store | createUser
  | createOrganization | deleteOrganization => exact absurd trivial henqueues

end Tenancy

open Tenancy in
/-- **Which changes have their job.**  For a live workspace whose resolved injection set a commit
changes, a reconcile job is pending after the commit if and only if the commit enqueues its jobs
itself, or such a job was pending before. -/
theorem change_leaves_pending_job {t t' : Tenancy} {commit : TenancyCommit}
    (hcommit : commit.apply t = .ok t') (hfresh : commit.Fresh t) {row : WorkspaceRow}
    (hrow : row ∈ t'.database.workspaces.rows) (hlive : live row = true)
    (hchanged : t'.resolved row ≠ t.resolved row) :
    t'.PendingReconcile row.id ↔ commit.Enqueues ∨ t.PendingReconcile row.id := by
  by_cases henqueues : commit.Enqueues
  · exact iff_of_true (pendingReconcile_of_enqueues hcommit henqueues hfresh hrow hlive hchanged)
      (.inl henqueues)
  · rw [PendingReconcile, database_of_not_enqueues hcommit henqueues]
    exact (or_iff_right henqueues).symm

/-! ### Commits that do not enqueue -/

instance (t : Tenancy) (workspaceId : Uuid) : Decidable (t.PendingReconcile workspaceId) :=
  inferInstanceAs (Decidable (∃ job ∈ t.database.jobs.rows, job.kind = .reconcileWorkspace ∧
    job.workspaceId = some workspaceId ∧ job.status = .pending))

def sampleColleagueId : Uuid := ⟨"00000000-0000-0000-0000-000000000005", by decide⟩

def sampleSharing : Tenancy :=
  { sampleTenancy with
    directory :=
      { sampleTenancy.directory with
        users := ⟨[⟨sampleUserId, "user", false, false, 0⟩,
          ⟨sampleColleagueId, "colleague", false, false, 0⟩], by decide⟩
        memberships := ⟨[⟨sampleUserId, sampleUserId, .organizationAdmin, 0⟩,
          ⟨sampleUserId, sampleColleagueId, .member, 0⟩], by decide⟩ }
    items := ⟨[sampleInjectionRow sampleEditor,
      ⟨⟨.user, sampleColleagueId⟩, sampleKey, sampleColleagueId, 0, 0⟩], by decide⟩ }

/-- The organization deletes its variable; the workspace gets its job. -/
def sampleDeletion : TenancyCommit :=
  .deleteInjections ⟨.organization, sampleUserId⟩ ["editor"] false (fun _ => sampleJobId) 1 (.ok ())

/-- The number of items that resolve for a row. -/
def Tenancy.resolvedCount (t : Tenancy) (row : WorkspaceRow) : Except ResolutionError ℕ :=
  (t.resolved row).map List.length

theorem Tenancy.resolved_ne_of_count (h : t'.resolvedCount row ≠ t.resolvedCount row) :
    t'.resolved row ≠ t.resolved row :=
  fun heq => h (congrArg (Except.map List.length) heq)

theorem change_leaves_pending_job_sample :
    ∃ t', sampleDeletion.apply sampleSharing = .ok t' ∧
      t'.PendingReconcile (sampleRow .stopped).id := by
  cases happly : sampleDeletion.apply sampleSharing with
  | error e =>
    have hok : (sampleDeletion.apply sampleSharing).isOk = true := by decide +kernel
    rw [happly] at hok
    cases hok
  | ok t' =>
    have hchecks : (sampleDeletion.apply sampleSharing).toOption.all (fun t' =>
        sampleRow .stopped ∈ t'.database.workspaces.rows ∧
          t'.resolvedCount (sampleRow .stopped) ≠ sampleSharing.resolvedCount (sampleRow .stopped))
        = true := by decide +kernel
    rw [happly] at hchecks
    obtain ⟨hrow, hcount⟩ := of_decide_eq_true hchecks
    exact ⟨t', rfl, (change_leaves_pending_job happly trivial hrow rfl
      (Tenancy.resolved_ne_of_count hcount)).2 (.inl trivial)⟩

/-- The commit succeeds, changes the resolved set of the row, and leaves no job for it. -/
def TenancyCommit.LeavesNoJob (commit : TenancyCommit) (t : Tenancy) (row : WorkspaceRow) : Prop :=
  ∃ t', commit.apply t = .ok t' ∧ row ∈ t'.database.workspaces.rows ∧
    t'.resolved row ≠ t.resolved row ∧ ¬ t'.PendingReconcile row.id

theorem TenancyCommit.leavesNoJob_of_count {commit : TenancyCommit}
    (h : (commit.apply t).toOption.any (fun t' =>
      row ∈ t'.database.workspaces.rows ∧ t'.resolvedCount row ≠ t.resolvedCount row ∧
        ¬ t'.PendingReconcile row.id) = true) : commit.LeavesNoJob t row := by
  cases happly : commit.apply t with
  | error e =>
    rw [happly] at h
    cases h
  | ok t' =>
    rw [happly] at h
    obtain ⟨hrow, hcount, hnone⟩ := of_decide_eq_true h
    exact ⟨t', happly, hrow, Tenancy.resolved_ne_of_count hcount, hnone⟩

/-- Replacing an item, removing a member and disabling a user leave no job. -/
theorem changes_without_job :
    ∃ (t : Tenancy) (row : WorkspaceRow), Tenancy.live row = true ∧
      (TenancyCommit.replaceInjection ⟨.organization, sampleUserId⟩
        { sampleEditor with key := "pager", target := "PAGER" } sampleUserId 1).LeavesNoJob t row ∧
      (TenancyCommit.removeMembership sampleUserId sampleColleagueId).LeavesNoJob t row ∧
      (TenancyCommit.updateUser sampleColleagueId none none (some true)).LeavesNoJob t row :=
  ⟨sampleSharing, sampleRow .stopped, rfl,
    TenancyCommit.leavesNoJob_of_count (by decide +kernel),
    TenancyCommit.leavesNoJob_of_count (by decide +kernel),
    TenancyCommit.leavesNoJob_of_count (by decide +kernel)⟩

end WorkspaceControl
