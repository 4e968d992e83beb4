/-
**Stored injection items.**

`src/src/storage/injection_store.rs`, `src/src/storage/injection_store/deletion.rs`,
`src/src/storage/workspace_injection_refs.rs` and `src/src/storage/injection_reconcile.rs`: the
items of organizations, users and workspaces, the references of a workspace, and the jobs that
bring a change to the workspaces.

An item is kept as it is decrypted to.  Replacing an item and enqueuing the jobs are two
transactions; deleting items and enqueuing the jobs are one.

Main definitions:

* `InjectionRow`, `InjectionRefRow`, `Tenancy` — the rows, next to the other tables;
* `Tenancy.affected` — the workspaces that a change of a scope concerns;
* `Tenancy.resolved` — the resolved injection set of a workspace.

Main results:

* `Tenancy.enqueueInjectionReconciles_eq_ok` — every affected workspace gets a pending job;
* `Tenancy.deleteInjectionsAndEnqueueReconciles_eq_ok` — a deletion without the right to locked
  items takes none of them, and comes with the jobs.
-/
import WorkspaceControl.Directory
import WorkspaceControl.Materialization

set_option autoImplicit false

namespace WorkspaceControl

open Fallible MachineInt Relational

/-! ### Tables -/

/-- Whose items are meant. -/
structure InjectionScopeRef where
  scope : InjectionScope
  scopeId : Uuid
deriving DecidableEq

/-- A row of `injection_items`, with the value decrypted. -/
structure InjectionRow where
  scopeRef : InjectionScopeRef
  item : InjectionItem
  createdBy : Uuid
  createdAt : ℤ
  updatedAt : ℤ
deriving DecidableEq

/-- The unique columns: the scope, whose it is, and the key. -/
def InjectionRow.address (row : InjectionRow) : InjectionScopeRef × String :=
  (row.scopeRef, row.item.key)

/-- A row of `workspace_injection_refs`. -/
structure InjectionRefRow where
  workspaceId : Uuid
  scope : InjectionScope
  injectionKey : String

/-- The tables on which the resolved injections of the workspaces depend. -/
structure Tenancy where
  database : Database
  directory : Directory
  items : Table InjectionRow.address
  refs : List InjectionRefRow

namespace Tenancy

/-! ### Items -/

/-- `load_injections`: the items of a scope, by key. -/
def loadInjections (t : Tenancy) (scopeRef : InjectionScopeRef) : List InjectionItem :=
  ((t.items.rows.filter fun row => row.scopeRef = scopeRef).map InjectionRow.item).insertionSort
    fun a b => a.key ≤ b.key

def nextVersion (current : Option ℕ) : Except StorageError ℕ :=
  okOr (U64.checkedAdd (current.getD 0) 1) .invalidEncryptedInjection

/-- `encrypt_item` and `save`: the statement does not write the key columns of a row that is
there. -/
def saveInjection (items : Table InjectionRow.address) (scopeRef : InjectionScopeRef)
    (item : InjectionItem) (actorUserId : Uuid) (now : ℤ) :
    Except StorageError (Table InjectionRow.address) := do
  let _ ← okOr item.value.bytes .invalidEncryptedInjection
  let _ ← asI64 item.version .invalidEncryptedInjection
  pure (items.put ⟨scopeRef, item, actorUserId, now, now⟩
    (fun row => { row with item := { item with key := row.item.key }, updatedAt := now })
    fun _ => rfl)

/-- Whether the stored item is locked is not looked at. -/
def replaceInjection (t : Tenancy) (scopeRef : InjectionScopeRef) (item : InjectionItem)
    (actorUserId : Uuid) (now : ℤ) : Except StorageError (InjectionItem × Tenancy) := do
  ensure (!item.locked || scopeRef.scope = .organization) .invalidInjectionLock
  let version ← nextVersion ((t.items.find (scopeRef, item.key)).map fun row => row.item.version)
  let items ← saveInjection t.items scopeRef { item with version } actorUserId now
  pure ({ item with version }, { t with items })

/-- `delete_sqlite`, `delete_postgres`: the stored item decides whether the right to locked items
is needed. -/
def deleteOne (items : Table InjectionRow.address) (scopeRef : InjectionScopeRef) (key : String)
    (allowLocked : Bool) : Except StorageError (ℕ × Table InjectionRow.address) :=
  match items.find (scopeRef, key) with
  | none => pure (0, items)
  | some row => do
    ensure (!row.item.locked || allowLocked) .invalidInjectionLock
    pure (1, items.delete fun row => row.address = (scopeRef, key))

/-- The loop over the keys of a batch. -/
def deleteMany (scopeRef : InjectionScopeRef) (allowLocked : Bool) :
    List String → Table InjectionRow.address →
      Except StorageError (ℕ × Table InjectionRow.address)
  | [], items => pure (0, items)
  | key :: keys, items => do
    let (first, items) ← deleteOne items scopeRef key allowLocked
    let (others, items) ← deleteMany scopeRef allowLocked keys items
    pure (first + others, items)

/-! ### Reconcile jobs -/

/-- The condition on the state in `affected_sql`. -/
def live (row : WorkspaceRow) : Bool :=
  row.state ≠ WorkspaceState.deleting.asStr && row.state ≠ WorkspaceState.deleted.asStr

/-- The condition on the scope in `affected_sql`. -/
def concerns (d : Directory) (scopeRef : InjectionScopeRef) (row : WorkspaceRow) : Bool :=
  match scopeRef.scope with
  | .organization => row.organizationId = scopeRef.scopeId
  | .workspace => row.id = scopeRef.scopeId
  | .user => row.ownerId = scopeRef.scopeId || d.isMember row.organizationId scopeRef.scopeId ||
      d.users.rows.any fun user => user.id = scopeRef.scopeId && user.systemAdmin && !user.disabled

def affected (t : Tenancy) (scopeRef : InjectionScopeRef) : List Uuid :=
  ((t.database.workspaces.rows.filter fun row =>
    live row && concerns t.directory scopeRef row).map WorkspaceRow.id).insertionSort (· ≤ ·)

def injectionChangedJob (workspaceId : Uuid) (now : ℤ) : NewJob :=
  reconcileJob workspaceId (.object [("reason", .scalar (.str "injection_changed"))]) now

/-- One job for each workspace; `jobIds` draws the identifiers. -/
def enqueueJobs (jobIds : Uuid → Uuid) (now : ℤ) :
    List Uuid → Database → Except StorageError Database
  | [], db => pure db
  | workspaceId :: rest, db => do
    let db ← db.insertJob (jobIds workspaceId) (injectionChangedJob workspaceId now) now
    enqueueJobs jobIds now rest db

def enqueueInjectionReconciles (t : Tenancy) (scopeRef : InjectionScopeRef)
    (jobIds : Uuid → Uuid) (now : ℤ) : Except StorageError (ℕ × Tenancy) := do
  let database ← enqueueJobs jobIds now (t.affected scopeRef) t.database
  pure ((t.affected scopeRef).length, { t with database })

/-- A deletion that found nothing needs no jobs. -/
def reconcileDeleted (t : Tenancy) (deleted : ℕ) (scopeRef : InjectionScopeRef)
    (jobIds : Uuid → Uuid) (now : ℤ) : Except StorageError Tenancy :=
  if 0 < deleted then (t.enqueueInjectionReconciles scopeRef jobIds now).map Prod.snd else pure t

/-- The deletion of a batch of keys with its jobs; `finish` is what `finish_idempotency` answers
within the transaction. -/
def deleteInjectionsAndEnqueueReconciles (t : Tenancy) (scopeRef : InjectionScopeRef)
    (keys : List String) (allowLocked : Bool) (jobIds : Uuid → Uuid) (now : ℤ)
    (finish : Except StorageError Unit) : Except StorageError (ℕ × Tenancy) := do
  let (deleted, items) ← deleteMany scopeRef allowLocked
    (keys.dedup.insertionSort (· ≤ ·)) t.items
  let t ← reconcileDeleted { t with items } deleted scopeRef jobIds now
  finish
  pure (deleted, t)

/-! ### References -/

/-- `WorkspaceInjectionRefs::validate`. -/
def validateRefs (refs : WorkspaceInjectionRefs) : Except StorageError Unit :=
  ensure ([refs.organization, refs.user].all fun keys => keys.all fun keys =>
    decide keys.Nodup && keys.all fun key =>
      !key.toList.isEmpty && Text.len key.toList ≤ 128 && key.toList.all fun c =>
        Text.isAlphanumeric c || "._-".toList.contains c) .invalidWorkspaceInjectionRefs

/-- `encode_scope`: `*` stands for every item, `!` for none. -/
def encodeScope : Option (List String) → List String
  | none => ["*"]
  | some [] => ["!"]
  | some keys => keys

def decodeScope (keys : List String) : Except StorageError (Option (List String)) :=
  if keys = [] || keys = ["*"] then pure none
  else if keys = ["!"] then pure (some [])
  else do
    ensure (!keys.any fun key => key = "*" || key = "!") .invalidWorkspaceInjectionRefs
    pure (some (keys.insertionSort (· ≤ ·)))

/-- The rows that creation inserts. -/
def refRows (workspaceId : Uuid) (refs : WorkspaceInjectionRefs) : List InjectionRefRow :=
  (encodeScope refs.organization).map (⟨workspaceId, .organization, ·⟩) ++
    (encodeScope refs.user).map (⟨workspaceId, .user, ·⟩)

/-- `workspace_injection_refs`. -/
def workspaceInjectionRefs (t : Tenancy) (workspaceId : Uuid) :
    Except StorageError WorkspaceInjectionRefs := do
  let rows := t.refs.filter fun row => row.workspaceId = workspaceId
  ensure (!rows.any fun row => row.scope = .workspace) .invalidWorkspaceInjectionRefs
  let organization ← decodeScope ((rows.filter fun row => row.scope = .organization).map
    InjectionRefRow.injectionKey)
  let user ← decodeScope ((rows.filter fun row => row.scope = .user).map
    InjectionRefRow.injectionKey)
  pure ⟨organization, user⟩

/-! ### Creation -/

/-- The items that come with a new workspace. -/
def insertInitial (workspaceId actorUserId : Uuid) (now : ℤ) :
    List InjectionItem → Table InjectionRow.address →
      Except StorageError (Table InjectionRow.address)
  | [], items => pure items
  | item :: rest, items => do
    let items ← saveInjection items ⟨.workspace, workspaceId⟩ { item with version := 1 }
      actorUserId now
    insertInitial workspaceId actorUserId now rest items

/-- A workspace with its references and its own items, in one transaction. -/
def createWorkspace (t : Tenancy) (id jobId : Uuid) (command : CreateWorkspace)
    (options : WorkspaceCreationOptions) (refs : WorkspaceInjectionRefs)
    (inline : List InjectionItem) (actorUserId : Uuid) :
    Except StorageError (Workspace × Tenancy) := do
  let (workspace, database) ← WorkspaceControl.createWorkspace t.database id jobId command options
  validateRefs refs
  let items ← insertInitial id actorUserId options.now inline t.items
  pure (workspace, { t with database, items, refs := t.refs ++ refRows id refs })

/-! ### The resolved set -/

/-- Why a resolution fails. -/
inductive ResolutionError
  | storage (error : StorageError)
  | injection (error : InjectionError)
deriving DecidableEq

/-- `resolve_workspace_injections` of the job handler, for the row of a workspace. -/
def resolved (t : Tenancy) (row : WorkspaceRow) :
    Except ResolutionError (List ResolvedInjection) := do
  let workspace ← (decodeWorkspace row).mapError .storage
  let sources : InjectionSources :=
    { organization := t.loadInjections ⟨.organization, row.organizationId⟩
      user := t.loadInjections ⟨.user, row.ownerId⟩
      workspace := t.loadInjections ⟨.workspace, row.id⟩ }
  let selection : InjectionSelection :=
    { workspaceId := some row.id
      organizationId := row.organizationId
      ownerId := row.ownerId
      templateId := row.templateId
      image := workspace.template.image
      accessMode := workspace.template.accessMode }
  let refs ← (t.workspaceInjectionRefs row.id).mapError .storage
  let candidates := (t.directory.sshAccessCandidateIds row.organizationId).map fun userId =>
    ⟨userId, t.loadInjections ⟨.user, userId⟩⟩
  (resolveWorkspaceInjections sources selection refs workspace.template candidates).mapError
    .injection

/-! ### What the transactions do -/

variable {allowLocked : Bool} {items items' : Table InjectionRow.address} {jobIds : Uuid → Uuid}
  {keys : List String} {n : ℕ} {now : ℤ} {scopeRef : InjectionScopeRef} {t t' : Tenancy}

theorem saveInjection_eq_ok {item : InjectionItem} {actorUserId : Uuid}
    (h : saveInjection items scopeRef item actorUserId now = .ok items') :
    items' = items.put ⟨scopeRef, item, actorUserId, now, now⟩
      (fun row => { row with item := { item with key := row.item.key }, updatedAt := now })
      fun _ => rfl := by
  simp only [saveInjection, bind_eq_ok, pure_eq_ok] at h
  obtain ⟨_, -, _, -, rfl⟩ := h
  rfl

theorem deleteOne_eq_ok {key : String}
    (h : deleteOne items scopeRef key allowLocked = .ok (n, items')) :
    (n = 0 ∧ items' = items) ∨
      n = 1 ∧ items' = items.delete (fun row => row.address = (scopeRef, key)) ∧
        ∀ row ∈ items.rows, row.address = (scopeRef, key) → row.item.locked = true →
          allowLocked = true := by
  unfold deleteOne at h
  cases hfind : items.find (scopeRef, key) with
  | none =>
    simp only [hfind, pure_eq_ok, Prod.mk.injEq] at h
    exact .inl ⟨h.1.symm, h.2.symm⟩
  | some row =>
    simp only [hfind, ensure_bind_eq_ok, pure_eq_ok, Prod.mk.injEq] at h
    obtain ⟨hlock, rfl, rfl⟩ := h
    obtain ⟨hrow, haddress⟩ := Table.find_eq_some.1 hfind
    refine .inr ⟨rfl, rfl, fun other hother hkey hlocked => ?_⟩
    obtain rfl := items.eq_of_key hother hrow (hkey.trans haddress.symm)
    simpa [hlocked] using hlock

/-- Rows of other scopes stay, and so do locked rows without the right to them. -/
theorem deleteMany_eq_ok (h : deleteMany scopeRef allowLocked keys items = .ok (n, items')) :
    (n = 0 → items' = items) ∧
      (∀ row ∈ items.rows, row.item.locked = true → allowLocked = false → row ∈ items'.rows) ∧
      ∀ other, other ≠ scopeRef → items'.rows.filter (fun row => row.scopeRef = other)
        = items.rows.filter fun row => row.scopeRef = other := by
  induction keys generalizing items n with
  | nil =>
    simp only [deleteMany, pure_eq_ok, Prod.mk.injEq] at h
    obtain ⟨rfl, rfl⟩ := h
    exact ⟨fun _ => rfl, fun _ hrow _ _ => hrow, fun _ _ => rfl⟩
  | cons key keys ih =>
    simp only [deleteMany, bind_eq_ok, pure_eq_ok, Prod.exists, Prod.mk.injEq] at h
    obtain ⟨first, items₁, hfirst, others, items₂, hothers, rfl, rfl⟩ := h
    obtain ⟨hzero, hlocked, hscopes⟩ := ih hothers
    rcases deleteOne_eq_ok hfirst with ⟨rfl, rfl⟩ | ⟨rfl, rfl, hright⟩
    · exact ⟨fun hn => hzero (by omega), hlocked, hscopes⟩
    · refine ⟨fun hn => by omega, fun row hrow hlock hallow => ?_, fun other hother => ?_⟩
      · refine hlocked row (Table.mem_delete.2 ⟨hrow, decide_eq_false fun haddress => ?_⟩) hlock
          hallow
        rw [hright row hrow haddress hlock] at hallow
        cases hallow
      · refine (hscopes other hother).trans (Table.filter_rows_delete fun row haddress => ?_)
        have hscope : row.scopeRef = scopeRef :=
          congrArg Prod.fst (of_decide_eq_true haddress : row.address = _)
        exact decide_eq_false fun heq => hother (heq.symm.trans hscope)

/-- A pending reconcile job of a workspace. -/
def PendingReconcile (t : Tenancy) (workspaceId : Uuid) : Prop :=
  ∃ job ∈ t.database.jobs.rows, job.kind = .reconcileWorkspace ∧
    job.workspaceId = some workspaceId ∧ job.status = .pending

/-- The loop adds jobs, one for each workspace of the list, and writes nothing else. -/
theorem enqueueJobs_eq_ok {workspaceIds : List Uuid} {db db' : Database}
    (h : enqueueJobs jobIds now workspaceIds db = .ok db') :
    db'.workspaces = db.workspaces ∧ (∀ job ∈ db.jobs.rows, job ∈ db'.jobs.rows) ∧
      ∀ workspaceId ∈ workspaceIds, ∃ job ∈ db'.jobs.rows, job.kind = .reconcileWorkspace ∧
        job.workspaceId = some workspaceId ∧ job.status = .pending := by
  induction workspaceIds generalizing db with
  | nil =>
    obtain rfl := pure_eq_ok.1 h
    exact ⟨rfl, fun _ hjob => hjob, by simp⟩
  | cons workspaceId rest ih =>
    obtain ⟨db₁, hinsert, hrest⟩ := bind_eq_ok.1 h
    obtain ⟨jobs, hjobs, rfl⟩ := Database.insertJob_eq_ok hinsert
    obtain ⟨hworkspaces, hkeep, hnew⟩ := ih hrest
    have hrows := (enqueueJob_eq_ok hjobs).2
    refine ⟨hworkspaces, fun job hjob => hkeep job ?_, fun id hid => ?_⟩
    · rw [hrows]
      exact List.mem_append_left _ hjob
    · rcases List.mem_cons.1 hid with rfl | hid
      · have hmem : newJobRow (jobIds id) (injectionChangedJob id now) now ∈ jobs.rows := by
          rw [hrows]
          exact List.mem_append_right _ (List.mem_singleton_self _)
        exact ⟨_, hkeep _ hmem, rfl, rfl, rfl⟩
      · exact hnew id hid

theorem mem_affected {row : WorkspaceRow} (hrow : row ∈ t.database.workspaces.rows)
    (hlive : live row = true) (hconcerns : concerns t.directory scopeRef row = true) :
    row.id ∈ t.affected scopeRef := by
  simp only [affected, List.mem_insertionSort, List.mem_map, List.mem_filter, Bool.and_eq_true]
  exact ⟨row, ⟨hrow, hlive, hconcerns⟩, rfl⟩

/-- Every affected workspace gets a pending job; only the jobs change. -/
theorem enqueueInjectionReconciles_eq_ok
    (h : t.enqueueInjectionReconciles scopeRef jobIds now = .ok (n, t')) :
    t'.items = t.items ∧ t'.refs = t.refs ∧ t'.directory = t.directory ∧
      t'.database.workspaces = t.database.workspaces ∧
      ∀ row ∈ t.database.workspaces.rows, live row = true →
        concerns t.directory scopeRef row = true → t'.PendingReconcile row.id := by
  simp only [enqueueInjectionReconciles, bind_eq_ok, pure_eq_ok, Prod.mk.injEq] at h
  obtain ⟨db, hjobs, -, rfl⟩ := h
  obtain ⟨hworkspaces, -, hnew⟩ := enqueueJobs_eq_ok hjobs
  exact ⟨rfl, rfl, rfl, hworkspaces, fun row hrow hlive hconcerns =>
    hnew row.id (mem_affected hrow hlive hconcerns)⟩

/-- A deletion takes items of one scope, none of them locked without the right to it, and every
workspace that it concerns gets a pending job. -/
theorem deleteInjectionsAndEnqueueReconciles_eq_ok
    {finish : Except StorageError Unit}
    (h : t.deleteInjectionsAndEnqueueReconciles scopeRef keys allowLocked jobIds now finish
      = .ok (n, t')) :
    (t'.refs = t.refs ∧ t'.directory = t.directory ∧
      t'.database.workspaces = t.database.workspaces) ∧
      (∀ row ∈ t.items.rows, row.item.locked = true → allowLocked = false →
        row ∈ t'.items.rows) ∧
      (∀ other, other ≠ scopeRef → t'.items.rows.filter (fun row => row.scopeRef = other)
        = t.items.rows.filter fun row => row.scopeRef = other) ∧
      (t'.items = t.items ∨ ∀ row ∈ t.database.workspaces.rows, live row = true →
        concerns t.directory scopeRef row = true → t'.PendingReconcile row.id) := by
  simp only [deleteInjectionsAndEnqueueReconciles, bind_eq_ok, pure_eq_ok, Prod.exists,
    Prod.mk.injEq] at h
  obtain ⟨deleted, items, hdelete, t₁, henqueue, _, -, -, rfl⟩ := h
  obtain ⟨hzero, hkeeps, hscopes⟩ := deleteMany_eq_ok hdelete
  unfold reconcileDeleted at henqueue
  split at henqueue
  · obtain ⟨⟨m, t₂⟩, hjobs, rfl⟩ := map_eq_ok.1 henqueue
    obtain ⟨hitems, hrefs, hdirectory, hworkspaces, hpending⟩ :=
      enqueueInjectionReconciles_eq_ok hjobs
    refine ⟨⟨hrefs, hdirectory, hworkspaces⟩, ?_, ?_, .inr hpending⟩
    · rw [hitems]
      exact hkeeps
    · rw [hitems]
      exact hscopes
  · obtain rfl := pure_eq_ok.1 henqueue
    exact ⟨⟨rfl, rfl, rfl⟩, hkeeps, hscopes, .inl (hzero (by omega))⟩

end Tenancy

end WorkspaceControl
