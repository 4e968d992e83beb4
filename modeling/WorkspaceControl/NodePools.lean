/-
**Node pools next to the workspaces that refer to them.**

`src/src/storage/node_pool_store.rs`: a workspace has the name of a node pool, without a foreign
key.  Whoever puts a workspace into a pool reads the row of the pool as enabled and keeps it locked;
whoever deletes a pool locks its row and asks in the same statement whether a workspace or a
template refers to it.  On PostgreSQL the statement that has waited for the lock reads the row
again, but its subqueries still have the snapshot from before.

Main definitions:

* `PlacementStore` — the database with the templates and the pools they allow;
* `createWorkspacePostgres`, `updatePlacementPostgres`, `deleteNodePoolPostgres` and the
  transactions of templates — the statements on PostgreSQL;
* `PlacementRequest`, `placementPool` — the requests, and all interleavings of them;
* `subqueriesCurrent` — the subquery of a deletion that has its lock is not out of date.

Main results:

* `workspaces_keep_node_pools` — **the placement of every workspace can be resolved**, when no
  deletion has an outdated subquery;
* `outdated_subquery_deletes_pool` — a pool is deleted below a new workspace.
-/
import WorkspaceControl.TemplateApi
import WorkspaceControl.Transactions

set_option autoImplicit false

namespace WorkspaceControl

open Fallible Relational Transactions Transaction

/-! ### Tables -/

/-- A row of `workspace_template_node_pools`. -/
structure TemplateNodePoolRow where
  templateId : Uuid
  nodePool : String
  isDefault : Bool

/-- The columns of a template that a creation reads. -/
def StoredTemplate.offer (template : StoredTemplate) : TemplateRow :=
  ⟨template.id, template.organizationId, template.enabled, template.templateYaml⟩

/-- The templates, the pools that they allow, and the rest of the database (whose catalogue has no
templates of its own). -/
structure PlacementStore where
  base : Database
  templates : TemplateTable
  templateNodePools : List TemplateNodePoolRow

namespace PlacementStore

/-- The catalogue with the templates. -/
def catalog (d : PlacementStore) : Catalog :=
  { d.base.catalog with
    templates := ⟨d.templates.rows.map StoredTemplate.offer, by
      rw [List.map_map]
      exact d.templates.nodup⟩ }

def database (d : PlacementStore) : Database := { d.base with catalog := d.catalog }

/-- Nothing but the workspaces and the jobs is written by a workspace's transaction. -/
def withWorkspaces (d : PlacementStore) (database : Database) : PlacementStore :=
  { d with base := { database with catalog := d.base.catalog } }

def withNodePools (d : PlacementStore) (nodePools : Table NodePoolRow.name) : PlacementStore :=
  { d with base := { d.base with catalog := { d.base.catalog with nodePools } } }

def hasPool (d : PlacementStore) (name : String) : Bool :=
  (d.base.catalog.nodePools.find name).isSome

/-- `EXISTS(SELECT 1 FROM workspaces WHERE node_pool = .. AND state <> 'deleted')`. -/
def workspaceInUse (d : PlacementStore) (name : String) : Bool :=
  (liveRows d.base.workspaces.rows).any fun row => row.nodePool = name

/-- `EXISTS(SELECT 1 FROM workspace_template_node_pools WHERE node_pool = ..)`. -/
def templateInUse (d : PlacementStore) (name : String) : Bool :=
  d.templateNodePools.any fun row => row.nodePool = name

end PlacementStore

/-! ### Pools -/

structure PutNodePool where
  displayName : String
  placement : ResolvedPlacement
  enabled : Bool

def validLabelKey (value : String) : Bool :=
  !value.toList.isEmpty && Text.len value.toList ≤ 253 && value.toList.all fun c =>
    Text.isAlphanumeric c || c = '-' || c = '_' || c = '.' || c = '/'

def validLabelValue (value : String) : Bool :=
  Text.len value.toList ≤ 63 && value.toList.all fun c =>
    Text.isAlphanumeric c || c = '-' || c = '_' || c = '.'

def validateNodePool (name : String) (command : PutNodePool) : Except StorageError Unit :=
  ensure (validNodePoolName name &&
    !(Text.trim command.displayName.toList).isEmpty &&
    command.displayName.toList = Text.trim command.displayName.toList &&
    Text.len command.displayName.toList ≤ 80 &&
    !command.displayName.toList.any Text.isControl &&
    command.placement.selector.length ≤ 32 &&
    command.placement.requiredHosts.length ≤ 128 &&
    command.placement.preferredHosts.length ≤ 128 &&
    (command.placement.selector.all fun (key, value) =>
      validLabelKey key && validLabelValue value) &&
    (command.placement.requiredHosts ++ command.placement.preferredHosts).all fun host =>
      validLabelValue host && !host.toList.isEmpty) .invalidNodePool

/-- `INSERT INTO node_pools ... ON CONFLICT DO UPDATE`. -/
def upsertNodePool (d : PlacementStore) (name : String) (command : PutNodePool) (now : ℤ) :
    PlacementStore :=
  d.withNodePools (d.base.catalog.nodePools.put
    ⟨name, command.displayName, command.placement, command.enabled, now, now⟩
    (fun row => { row with
      displayName := command.displayName, placement := command.placement,
      enabled := command.enabled, updatedAt := now }) fun _ => rfl)

def putNodePool (d : PlacementStore) (name : String) (command : PutNodePool) (now : ℤ) :
    Except StorageError PlacementStore := do
  validateNodePool name command
  pure (upsertNodePool d name command now)

/-- `DELETE FROM node_pools`: the pools of templates refer to the row. -/
def removeNodePool (d : PlacementStore) (name : String) : Option PlacementStore :=
  if d.templateInUse name then none
  else some (d.withNodePools (d.base.catalog.nodePools.delete fun row => row.name = name))

def deleteNodePool (d : PlacementStore) (name : String) : Except StorageError PlacementStore := do
  ensure (name ≠ "default") .nodePoolInUse
  let row ← okOr (d.base.catalog.nodePools.find name) .nodePoolNotFound
  ensure (!row.enabled && !d.workspaceInUse name && !d.templateInUse name) .nodePoolInUse
  okOr (removeNodePool d name) (.database "FOREIGN KEY constraint failed")

def resolveWorkspacePlacement (d : PlacementStore) (nodePool : String) :
    Except StorageError ResolvedPlacement := do
  let row ← okOr (d.base.catalog.nodePools.find nodePool) .nodePoolNotFound
  pure row.placement

/-! ### Templates -/

/-- The rows that `sync_template_placement` leaves. -/
def syncedPools (d : PlacementStore) (templateId : Uuid) (placement : WorkspacePlacement) :
    List TemplateNodePoolRow :=
  (d.templateNodePools.filter fun row => row.templateId ≠ templateId) ++
    placement.allowedNodePools.map fun pool =>
      ⟨templateId, pool, pool = placement.defaultNodePool⟩

inductive TemplateEdit
  | create (newId : Uuid) (organizationId : Option Uuid) (upload : TemplateUpload)
  | replace (id : Uuid) (upload : TemplateUpload)
  | setEnabled (id : Uuid) (enabled : Bool)
  | delete (id : Uuid)

/-- What the edit does when it runs alone. -/
def TemplateEdit.apply (d : PlacementStore) (allowClusterAccess : Bool) (now : ℤ) :
    TemplateEdit → Except StorageError PlacementStore
  | create newId organizationId upload => do
    let (_, document) ← acceptUpload upload allowClusterAccess
    let (_, templates) ← createWorkspaceTemplate d.templates d.catalog newId organizationId upload
      allowClusterAccess now
    pure { d with
      templates, templateNodePools := syncedPools d newId document.spec.placement }
  | replace id upload => do
    let (_, document) ← acceptUpload upload allowClusterAccess
    let (_, templates) ← replaceWorkspaceTemplate d.templates d.catalog id upload
      allowClusterAccess now
    pure { d with templates, templateNodePools := syncedPools d id document.spec.placement }
  | setEnabled id enabled => do
    let (_, templates) ← setWorkspaceTemplateEnabled d.templates id enabled allowClusterAccess now
    pure { d with templates }
  | delete id => do
    let (_, templates) ← deleteWorkspaceTemplate d.templates d.base.workspaces id
      allowClusterAccess
    pure { d with
      templates
      templateNodePools := d.templateNodePools.filter fun row => row.templateId ≠ id }

/-! ### Statements -/

inductive PlacementLock
  | writer
  | nodePool (name : String)
  | template (id : Uuid)
  | workspace (id : Uuid)
  | organizationQuota (id : Uuid)
  | userQuota (id : Uuid)
deriving DecidableEq

abbrev PlacementTransaction (α : Type) : Type :=
  Transaction PlacementLock PlacementStore StorageError α

/-- `SELECT template_yaml FROM workspace_templates .. FOR SHARE`. -/
def resolveTemplatePostgres (templateId organizationId : Uuid) (allowClusterAccess : Bool) :
    PlacementTransaction ResolvedTemplateSnapshot := do
  let snapshot ← query
  require ((snapshot.templates.find templateId).any fun row =>
    row.enabled && row.organizationId.all (· = organizationId)) .templateNotFound
  lockRow snapshot (.template templateId) .shared
  let d ← query
  lift (resolveTemplate d.catalog templateId organizationId allowClusterAccess)

/-- `SELECT name FROM node_pools WHERE name = .. AND enabled = 1 FOR SHARE`. -/
def selectNodePoolPostgres (placement : WorkspacePlacement) (requested : Option String) :
    PlacementTransaction String := do
  let snapshot ← query
  let name ← lift (selectNodePool snapshot.catalog placement requested)
  lockRow snapshot (.nodePool name) .shared
  let d ← query
  let _ ← lift (selectNodePool d.catalog placement requested)
  pure name

/-- The row of a quota is locked where there is one. -/
def admitQuotaPostgres (key : PlacementLock) (quota : PlacementStore → Option QuotaRow)
    (counted : WorkspaceRow → Bool) (workspace : Workspace) : PlacementTransaction Unit := do
  let snapshot ← query
  lockAll .exclusive ((quota snapshot).toList.map fun _ => key)
  let d ← query
  lift (admitQuota (quota d) (d.base.workspaces.rows.filter counted) workspace)

def admitWorkspacePostgres (workspace : Workspace) : PlacementTransaction Unit := do
  let d ← query
  lift (d.catalog.ensureImageAllowed workspace.template.image)
  admitQuotaPostgres (.organizationQuota workspace.organizationId)
    (fun d => d.catalog.organizationQuotas.find workspace.organizationId)
    (fun row => row.organizationId = workspace.organizationId) workspace
  admitQuotaPostgres (.userQuota workspace.ownerId)
    (fun d => d.catalog.userQuotas.find workspace.ownerId)
    (fun row => row.ownerId = workspace.ownerId) workspace

/-- The rows that a creation inserts. -/
def insertCreated (d : PlacementStore) (jobId : Uuid) (row : WorkspaceRow) (now : ℤ) :
    Except StorageError PlacementStore := do
  let database ← insertWorkspace d.base row
  let database ← database.insertJob jobId (reconcileJob row.id (reconcilePayload 1 []) now) now
  pure (d.withWorkspaces database)

def createWorkspacePostgres (id jobId : Uuid) (command : CreateWorkspace)
    (options : WorkspaceCreationOptions) : PlacementTransaction Unit := do
  require (!(Text.trim command.name.toList).isEmpty && Text.len command.name.toList ≤ 120)
    .invalidWorkspace
  let d ← query
  require (1 ≤ options.cpuOvercommitRatio.getD d.catalog.cpuOvercommitRatio &&
    options.cpuOvercommitRatio.getD d.catalog.cpuOvercommitRatio ≤ 1000) .invalidWorkspace
  let snapshot ← resolveTemplatePostgres command.templateId command.organizationId
    options.allowClusterAccess
  lift (verifyAdmittedTemplate options.admittedTemplateYaml
    (options.cpuOvercommitRatio.getD d.catalog.cpuOvercommitRatio) snapshot)
  let nodePool ← selectNodePoolPostgres snapshot.spec.placement options.nodePool
  let edited ← lift (applyResourceOverride command snapshot
    (options.cpuOvercommitRatio.getD d.catalog.cpuOvercommitRatio))
  admitWorkspacePostgres (buildWorkspace id command edited.1 nodePool options.now)
  let row ← lift (newWorkspaceRow (buildWorkspace id command edited.1 nodePool options.now) edited.2
    options.now)
  commit fun d => (insertCreated d jobId row options.now).toOption

/-- `SELECT .. FROM workspaces .. FOR UPDATE`. -/
def selectWorkspaceForUpdate (workspaceId : Uuid) :
    PlacementTransaction (WorkspaceRow × Workspace) := do
  let snapshot ← query
  let _ ← lift (okOr (snapshot.base.workspaces.find workspaceId) .workspaceNotFound)
  lockRow snapshot (.workspace workspaceId) .exclusive
  let d ← query
  lift (d.base.fetchWorkspace workspaceId)

def updatePlacementPostgres (jobId workspaceId : Uuid) (nodePool : String) (expectedGeneration : ℕ)
    (now : ℤ) : PlacementTransaction Unit := do
  let current ← selectWorkspaceForUpdate workspaceId
  let d ← query
  lift (d.base.guardStorageShrink workspaceId)
  lift (ensureStoppedAtGeneration current.2 expectedGeneration .workspacePlacementUpdateConflict)
  let templateId ← lift (okOr current.2.templateId .templateNotFound)
  let snapshot ← resolveTemplatePostgres templateId current.2.organizationId true
  let selected ← selectNodePoolPostgres snapshot.spec.placement (some nodePool)
  commit fun d => ((commitEdit d.base jobId
    ⟨.workspacePlacementUpdateConflict, .invalidWorkspace, some "placement_updated"⟩ current.1
    current.2 expectedGeneration now (fun _ => true)
    (placementEdit snapshot.spec.placement selected)).map fun r => d.withWorkspaces r.2).toOption

/-- `SELECT name FROM node_pools WHERE name = ANY(..) FOR SHARE`: every allowed pool must be
found. -/
def lockTemplatePools (placement : WorkspacePlacement) : PlacementTransaction Unit := do
  let snapshot ← query
  lockAll .shared ((placement.allowedNodePools.filter snapshot.hasPool).map .nodePool)
  let d ← query
  require (((placement.allowedNodePools.filter snapshot.hasPool).filter d.hasPool).length =
    placement.allowedNodePools.length) .nodePoolNotFound

/-- `SELECT .. FROM workspace_templates .. FOR UPDATE`, or an `UPDATE` of the row. -/
def lockTemplate (id : Uuid) : PlacementTransaction Unit := do
  let snapshot ← query
  let _ ← lift (okOr (snapshot.templates.find id) .templateNotFound)
  lockRow snapshot (.template id) .exclusive

def TemplateEdit.postgres (allowClusterAccess : Bool) (now : ℤ) :
    TemplateEdit → PlacementTransaction Unit
  | create newId organizationId upload => do
    let accepted ← lift (acceptUpload upload allowClusterAccess)
    lockTemplatePools accepted.2.spec.placement
    commit fun d => ((create newId organizationId upload).apply d allowClusterAccess now).toOption
  | replace id upload => do
    let accepted ← lift (acceptUpload upload allowClusterAccess)
    lockTemplate id
    lockTemplatePools accepted.2.spec.placement
    commit fun d => ((replace id upload).apply d allowClusterAccess now).toOption
  | setEnabled id enabled => do
    lockTemplate id
    let d ← query
    let _ ← lift (ensureTemplateAccess d.templates id allowClusterAccess)
    commit fun d => ((setEnabled id enabled).apply d allowClusterAccess now).toOption
  | delete id => do
    lockTemplate id
    let d ← query
    let row ← lift (ensureTemplateAccess d.templates id allowClusterAccess)
    let d ← query
    lift (ensureTemplateDeletable row.enabled
      (d.base.workspaces.rows.any fun w => w.templateId = some id))
    commit fun d => some { d with
      templates := d.templates.delete fun r => r.id = id
      templateNodePools := d.templateNodePools.filter fun row => row.templateId ≠ id }

def putNodePoolPostgres (name : String) (command : PutNodePool) (now : ℤ) :
    PlacementTransaction Unit := do
  lift (validateNodePool name command)
  lock (.nodePool name) .exclusive
  commit fun d => some (upsertNodePool d name command now)

/-- `SELECT enabled, EXISTS(..), EXISTS(..) FROM node_pools .. FOR UPDATE`: after the wait for the
lock the row is read again, the subqueries have the snapshot. -/
def deleteNodePoolPostgres (name : String) : PlacementTransaction Unit := do
  require (name ≠ "default") .nodePoolInUse
  let snapshot ← query
  let _ ← lift (okOr (snapshot.base.catalog.nodePools.find name) .nodePoolNotFound)
  lockRow snapshot (.nodePool name) .exclusive
  let d ← query
  let row ← lift (okOr (d.base.catalog.nodePools.find name) .nodePoolNotFound)
  require (!row.enabled && !snapshot.workspaceInUse name && !snapshot.templateInUse name)
    .nodePoolInUse
  commit fun d => removeNodePool d name

/-! ### Requests -/

inductive PlacementRequest
  | createWorkspace (id jobId : Uuid) (command : CreateWorkspace)
      (options : WorkspaceCreationOptions)
  | updatePlacement (jobId workspaceId : Uuid) (nodePool : String) (expectedGeneration : ℕ)
      (now : ℤ)
  | editTemplate (edit : TemplateEdit) (allowClusterAccess : Bool) (now : ℤ)
  | putNodePool (name : String) (command : PutNodePool) (now : ℤ)
  | deleteNodePool (name : String)

namespace PlacementRequest

/-- What the request does when it runs alone. -/
def apply (d : PlacementStore) : PlacementRequest → Except StorageError PlacementStore
  | createWorkspace id jobId command options => do
    let (_, database) ← WorkspaceControl.createWorkspace d.database id jobId command options
    pure (d.withWorkspaces database)
  | updatePlacement jobId workspaceId nodePool expectedGeneration now => do
    let (_, database) ← updateStoppedWorkspacePlacement d.database jobId workspaceId nodePool
      expectedGeneration now
    pure (d.withWorkspaces database)
  | editTemplate edit allowClusterAccess now => edit.apply d allowClusterAccess now
  | putNodePool name command now => WorkspaceControl.putNodePool d name command now
  | deleteNodePool name => WorkspaceControl.deleteNodePool d name

def transaction : Backend → PlacementRequest → PlacementTransaction Unit
  | .sqlite, request => serialized .writer fun d => request.apply d
  | .postgres, createWorkspace id jobId command options =>
    createWorkspacePostgres id jobId command options
  | .postgres, updatePlacement jobId workspaceId nodePool expectedGeneration now =>
    updatePlacementPostgres jobId workspaceId nodePool expectedGeneration now
  | .postgres, editTemplate edit allowClusterAccess now => edit.postgres allowClusterAccess now
  | .postgres, putNodePool name command now => putNodePoolPostgres name command now
  | .postgres, deleteNodePool name => deleteNodePoolPostgres name

end PlacementRequest

/-- All interleavings of the requests, on connections `ι`. -/
def placementPool {ι : Type} [DecidableEq ι]
    (allowed : ι → Store ι PlacementLock PlacementStore → Statement PlacementLock PlacementStore →
      Prop) (backend : Backend) :
    Interaction.System (statements PlacementLock PlacementStore)
      (Store ι PlacementLock PlacementStore) ι :=
  pool allowed fun x => ∃ request : PlacementRequest, x = request.transaction backend

/-! ### What the writes do to the references -/

namespace PlacementStore

/-- Every pool that a live workspace refers to is there. -/
def Placed (d : PlacementStore) : Prop :=
  ∀ name, d.workspaceInUse name = true → d.hasPool name = true

variable {d d' : PlacementStore} {new : String → Prop}

theorem workspaceInUse_eq_true {name : String} :
    d.workspaceInUse name = true ↔ ∃ row ∈ d.base.workspaces.rows,
      row.state ≠ WorkspaceState.deleted.asStr ∧ row.nodePool = name := by
  simp [workspaceInUse, liveRows]

/-- The pools that are there stay, and new references are to pools in `new`. -/
structure Extends (new : String → Prop) (d d' : PlacementStore) : Prop where
  pools : ∀ name, d'.hasPool name = d.hasPool name
  references : ∀ name, d'.workspaceInUse name = true → d.workspaceInUse name = true ∨ new name

theorem Extends.placed (h : Extends new d d') (hd : d.Placed)
    (hnew : ∀ name, new name → d.hasPool name = true) : d'.Placed := by
  intro name hname
  rw [h.pools]
  exact (h.references name hname).elim (hd name) (hnew name)

theorem extends_of_base_eq (h : d'.base = d.base) :
    Extends (fun _ => False) d d' :=
  ⟨fun _ => by rw [hasPool, hasPool, h], fun _ hname => .inl (by rwa [workspaceInUse, h] at hname)⟩

/-- Each row refers to a pool as before or to a new one. -/
theorem extends_withWorkspaces {database : Database}
    (h : ∀ row ∈ database.workspaces.rows, (∃ old ∈ d.base.workspaces.rows,
      old.state = row.state ∧ old.nodePool = row.nodePool) ∨ new row.nodePool) :
    Extends new d (d.withWorkspaces database) := by
  refine ⟨fun _ => rfl, fun name hname => ?_⟩
  obtain ⟨row, hrow, hlive, rfl⟩ := workspaceInUse_eq_true.1 hname
  refine (h row hrow).imp_left ?_
  rintro ⟨old, hold, hstate, hpool⟩
  exact workspaceInUse_eq_true.2 ⟨old, hold, hstate ▸ hlive, hpool⟩

end PlacementStore

open PlacementStore

variable {d d' : PlacementStore} {jobId : Uuid} {name : String} {now : ℤ}
  {placement : WorkspacePlacement} {row : WorkspaceRow}

/-- What `selectNodePool` has found. -/
theorem selectNodePool_eq_ok {requested : Option String}
    (h : selectNodePool d.catalog placement requested = .ok name) :
    name = requested.getD placement.defaultNodePool ∧ d.hasPool name = true := by
  simp only [selectNodePool, ensure_bind_eq_ok, pure_eq_ok, decide_eq_true_eq] at h
  obtain ⟨-, hcount, rfl⟩ := h
  refine ⟨rfl, ?_⟩
  obtain ⟨row, hrow⟩ := List.exists_mem_of_length_pos (hcount ▸ Nat.one_pos)
  obtain ⟨hmem, hname⟩ := List.mem_filter.1 hrow
  simp only [Bool.and_eq_true, decide_eq_true_eq] at hname
  exact Option.isSome_iff_exists.2 ⟨row, Table.find_eq_some.2 ⟨hmem, hname.1⟩⟩

theorem nodePool_of_newWorkspaceRow {workspace : Workspace} {yaml : YamlText}
    (h : newWorkspaceRow workspace yaml now = .ok row) :
    row.nodePool = workspace.nodePool := by
  simp only [newWorkspaceRow, bind_eq_ok, pure_eq_ok] at h
  obtain ⟨_, -, _, -, _, -, _, -, rfl⟩ := h
  rfl

theorem extends_insertWorkspace {job : NewJob} {database database' : Database}
    (hinsert : insertWorkspace database row = .ok database')
    (hrows : database.workspaces = d.base.workspaces) {database'' : Database}
    (hjob : database'.insertJob jobId job now = .ok database'') :
    Extends (· = row.nodePool) d (d.withWorkspaces database'') := by
  simp only [insertWorkspace, bind_eq_ok, okOr_eq_ok, pure_eq_ok] at hinsert
  obtain ⟨_, -, _, -, workspaces, hnew, rfl⟩ := hinsert
  obtain ⟨jobs, -, rfl⟩ := Database.insertJob_eq_ok hjob
  refine extends_withWorkspaces fun r hr => ?_
  rw [show r ∈ workspaces.rows ↔ r ∈ database.workspaces.rows ++ [row] by
    rw [(Table.rows_of_insertNew hnew).2], List.mem_append, hrows] at hr
  rcases hr with hold | hrow
  · exact .inl ⟨r, hold, rfl, rfl⟩
  · exact .inr (List.mem_singleton.1 hrow ▸ rfl)

theorem extends_insertCreated (h : insertCreated d jobId row now = .ok d') :
    Extends (· = row.nodePool) d d' := by
  simp only [insertCreated, bind_eq_ok, pure_eq_ok] at h
  obtain ⟨database, hinsert, database', hjob, rfl⟩ := h
  exact extends_insertWorkspace hinsert rfl hjob

/-- A placement update writes the pool that was selected. -/
theorem extends_commitEdit {database database' : Database}
    {kind : UpdateKind} {workspace workspace' : Workspace}
    {expectedGeneration : ℕ} {nodePool : String}
    (h : commitEdit database jobId kind row workspace expectedGeneration now (fun _ => true)
      (placementEdit placement nodePool) = .ok (workspace', database'))
    (hrows : database.workspaces = d.base.workspaces) :
    Extends (· = nodePool) d (d.withWorkspaces database') := by
  simp only [commitEdit, bind_eq_ok, pure_eq_ok, Prod.mk.injEq] at h
  obtain ⟨_, -, _, -, yaml, -, _, -, column, -, _, -, _, -, db, hjob, -, rfl⟩ := h
  have hworkspaces : db.workspaces = (database.writeWorkspace row.id
      ((placementEdit placement nodePool).row yaml column now)
      (placementEdit placement nodePool).id_columns).workspaces := by
    rw [insertUpdateJob.eq_def] at hjob
    split at hjob
    · rw [pure_eq_ok.1 hjob]
    · obtain ⟨jobs, -, rfl⟩ := Database.insertJob_eq_ok hjob
      rfl
  refine extends_withWorkspaces fun r hr => ?_
  have hr : r ∈ (database.workspaces.update (fun w => w.id = row.id)
      ((placementEdit placement nodePool).row yaml column now)
      (placementEdit placement nodePool).id_columns).rows := by
    change r ∈ db.workspaces.rows at hr
    rwa [hworkspaces] at hr
  rcases Table.mem_update_cases hr with ⟨hold, -⟩ | ⟨old, hold, -, rfl⟩
  · exact .inl ⟨r, hrows ▸ hold, rfl, rfl⟩
  · exact .inr rfl

theorem extends_templateEdit {edit : TemplateEdit} {allowClusterAccess : Bool}
    (h : edit.apply d allowClusterAccess now = .ok d') :
    Extends (fun _ => False) d d' := by
  refine extends_of_base_eq ?_
  cases edit with
  | create | replace =>
    simp only [TemplateEdit.apply, bind_eq_ok, pure_eq_ok] at h
    obtain ⟨_, -, _, -, rfl⟩ := h
    rfl
  | setEnabled | delete =>
    simp only [TemplateEdit.apply, bind_eq_ok, pure_eq_ok] at h
    obtain ⟨_, -, rfl⟩ := h
    rfl

theorem hasPool_upsertNodePool (d : PlacementStore) (name : String) (command : PutNodePool)
    (now : ℤ) {other : String} (h : d.hasPool other = true) :
    (upsertNodePool d name command now).hasPool other = true := by
  rw [hasPool] at h ⊢
  change ((d.base.catalog.nodePools.put _ _ _).find other).isSome = true
  rw [Table.find_put]
  split
  · rfl
  · exact h

theorem removeNodePool_eq_some (h : removeNodePool d name = some d') :
    (∀ other, d'.workspaceInUse other = d.workspaceInUse other) ∧
      ∀ other, other ≠ name → d.hasPool other = true → d'.hasPool other = true := by
  rw [removeNodePool, Option.ite_none_left_eq_some] at h
  obtain ⟨-, hd⟩ := h
  obtain rfl := Option.some_inj.1 hd
  refine ⟨fun _ => rfl, fun other hne hpool => ?_⟩
  obtain ⟨row, hrow⟩ := Option.isSome_iff_exists.1 hpool
  have hname : row.name ≠ name := (Table.find_eq_some.1 hrow).2 ▸ hne
  change ((d.base.catalog.nodePools.delete fun row => row.name = name).find other).isSome = true
  rw [Table.find_delete, hrow]
  simp [hname]

/-- A pool that nothing refers to can go. -/
theorem placed_removeNodePool (h : removeNodePool d name = some d') (hd : d.Placed)
    (hunused : d.workspaceInUse name = false) : d'.Placed := by
  obtain ⟨hreferences, hpools⟩ := removeNodePool_eq_some h
  intro other hother
  rw [hreferences] at hother
  refine hpools other ?_ (hd other hother)
  rintro rfl
  rw [hunused] at hother
  cases hother

theorem placed_of_apply {request : PlacementRequest} (h : request.apply d = .ok d')
    (hd : d.Placed) : d'.Placed := by
  cases request with
  | createWorkspace id jobId command options =>
    obtain ⟨⟨workspace, database⟩, hcreate, hpure⟩ := bind_eq_ok.1 h
    obtain rfl := pure_eq_ok.1 hpure
    simp only [createWorkspace, bind_eq_ok, pure_eq_ok, Prod.exists, Prod.mk.injEq] at hcreate
    obtain ⟨_, -, _, -, snapshot, -, _, -, nodePool, hpool, spec, yaml, -, _, -, row, hrow, db₁,
      hinsert, db₂, hjob, -, rfl⟩ := hcreate
    refine (extends_insertWorkspace hinsert rfl hjob).placed hd ?_
    rintro _ rfl
    rw [nodePool_of_newWorkspaceRow hrow]
    exact (selectNodePool_eq_ok hpool).2
  | updatePlacement jobId workspaceId nodePool expectedGeneration now =>
    obtain ⟨⟨workspace, database⟩, hupdate, hpure⟩ := bind_eq_ok.1 h
    obtain rfl := pure_eq_ok.1 hpure
    simp only [updateStoppedWorkspacePlacement, bind_eq_ok, Prod.exists] at hupdate
    obtain ⟨row, current, -, _, -, _, -, templateId, -, snapshot, -, selected, hselected,
      hedit⟩ := hupdate
    refine (extends_commitEdit hedit rfl).placed hd ?_
    rintro _ rfl
    exact (selectNodePool_eq_ok hselected).2
  | editTemplate edit allowClusterAccess now =>
    exact (extends_templateEdit h).placed hd fun _ hfalse => hfalse.elim
  | putNodePool name command now =>
    obtain ⟨_, -, hpure⟩ := bind_eq_ok.1 h
    obtain rfl := pure_eq_ok.1 hpure
    exact fun other hother => hasPool_upsertNodePool d name command now (hd other hother)
  | deleteNodePool name =>
    simp only [PlacementRequest.apply, deleteNodePool, bind_eq_ok, ensure_eq_ok, okOr_eq_ok] at h
    obtain ⟨_, -, row, -, _, hunused, hremove⟩ := h
    simp only [Bool.and_eq_true, Bool.not_eq_true'] at hunused
    exact placed_removeNodePool hremove hd hunused.1.2

/-! ### All interleavings -/

/-- **No outdated subquery**: when a deletion gets the lock of a pool, a live workspace refers to
the pool only if one did in the snapshot of the statement. -/
def subqueriesCurrent {ι : Type} (s : Store ι PlacementLock PlacementStore) :
    Statement PlacementLock PlacementStore → Bool
  | .lock (.nodePool name) .exclusive (some snapshot) =>
    !s.committed.workspaceInUse name || snapshot.workspaceInUse name
  | _ => true

/-- A pool that is locked stays, and with the exclusive lock nothing new refers to it. -/
def poolGuard (name : String) (mode : Mode) (d d' : PlacementStore) : Prop :=
  (d.hasPool name = true → d'.hasPool name = true) ∧
    (mode = .exclusive → d.workspaceInUse name = false → d'.workspaceInUse name = false)

def placementDiscipline (ι : Type) : Discipline ι PlacementLock PlacementStore where
  allowed _ s c := subqueriesCurrent s c = true
  guard key mode d d' := ∀ name, key = .nodePool name → poolGuard name mode d d'
  invariant := PlacementStore.Placed
  ensures := fun _ _ => True
  guard_refl := fun _ _ _ _ _ => ⟨id, fun _ => id⟩
  guard_trans := fun _ _ _ _ _ h h' name hkey =>
    ⟨(h' name hkey).1 ∘ (h name hkey).1,
      fun hmode => (h' name hkey).2 hmode ∘ (h name hkey).2 hmode⟩

section Interleavings

open Discipline

variable {ι : Type} {i : ι} {held : List (PlacementLock × Mode)} {P : PlacementStore → Prop}

variable {s : Store ι PlacementLock PlacementStore}

/-- Writes that put workspaces only into pools whose lock is shared by the writer. -/
theorem PlacementStore.Extends.respects {new : String → Prop} {d : PlacementStore}
    (h : Extends new s.committed d)
    (hs : (placementDiscipline ι).Invariant s)
    (hnew : ∀ name, new name → s.committed.hasPool name = true ∧
      ⟨i, .nodePool name, .shared⟩ ∈ s.grants) :
    d.Placed ∧ True ∧ ∀ g ∈ s.grants, g.owner ≠ i →
      (placementDiscipline ι).guard g.key g.mode s.committed d := by
  refine ⟨h.placed hs.2 fun name hname => (hnew name hname).1, trivial, ?_⟩
  intro g hg hne name hkey
  refine ⟨fun hpool => (h.pools name).trans hpool, fun hmode hunused => ?_⟩
  by_contra hused
  rcases h.references name (Bool.eq_true_of_not_eq_false hused) with hold | hname
  · rw [hunused] at hold
    cases hold
  · -- somebody else would hold the lock that excludes that of the writer
    have hcompatible := hs.1 g hg _ (hnew name hname).2 hne hkey
    rw [hmode] at hcompatible
    cases hcompatible

variable {change : PlacementStore → Option PlacementStore} {name : String}

theorem stable_hasPool {mode : Mode} (h : (.nodePool name, mode) ∈ held) :
    (placementDiscipline ι).Stable held fun d => d.hasPool name = true :=
  fun _ _ hpool _ hsince => (hsince _ h name rfl).1 hpool

theorem stable_unused (h : (.nodePool name, .exclusive) ∈ held) :
    (placementDiscipline ι).Stable held fun d => d.workspaceInUse name = false :=
  fun _ _ hunused _ hsince => (hsince _ h name rfl).2 rfl hunused

theorem under_of_cons {lock : PlacementLock × Mode} (h : Under i (lock :: held) P s) :
    Under i held P s :=
  ⟨fun l hl => h.1 l (List.mem_cons_of_mem _ hl), h.2⟩

variable [DecidableEq ι]

theorem keeps_resolveTemplate (hP : (placementDiscipline ι).Stable held P)
    (templateId organizationId : Uuid) (allowClusterAccess : Bool) :
    (placementDiscipline ι).Keeps i (Under i held P)
      (resolveTemplatePostgres templateId organizationId allowClusterAccess)
      fun _ => Under i held P := by
  refine keeps_query_bind hP fun snapshot _ _ => keeps_require_bind fun _ => ?_
  refine Keeps.left ?_
  refine (keeps_lockRow hP).bind fun _ => Keeps.pre ?_ fun s _ h => under_of_cons h
  refine keeps_query_bind hP fun d _ _ => keeps_lift.post fun _ s _ h => ⟨h.1.1, h.1.2.1⟩

/-- The pool that is selected is locked, and there. -/
theorem keeps_selectNodePool (hP : ∀ more, (placementDiscipline ι).Stable (more ++ held) P)
    (placement : WorkspacePlacement) (requested : Option String) :
    (placementDiscipline ι).Keeps i (Under i held P) (selectNodePoolPostgres placement requested)
      fun name => Under i ((.nodePool name, .shared) :: held)
        fun d => P d ∧ d.hasPool name = true := by
  refine keeps_query_bind (hP []) fun snapshot _ _ => keeps_lift_bind fun name hname => ?_
  refine Keeps.left ?_
  refine (keeps_lockRow (hP [])).bind fun _ => keeps_query_bind (hP [_]) fun d _ _ => ?_
  refine keeps_lift_bind fun name' hname' => Discipline.keeps_pure fun s _ h => ⟨h.1, h.2.1, ?_⟩
  obtain ⟨hsame', hpool⟩ := selectNodePool_eq_ok hname'
  rw [hsame', ← (selectNodePool_eq_ok hname).1] at hpool
  exact (h.2.2 _ List.mem_cons_self name rfl).1 hpool

theorem keeps_admitQuota (hP : ∀ more, (placementDiscipline ι).Stable (more ++ held) P)
    (key : PlacementLock) (quota : PlacementStore → Option QuotaRow)
    (counted : WorkspaceRow → Bool) (workspace : Workspace) :
    (placementDiscipline ι).Keeps i (Under i held P)
      (admitQuotaPostgres key quota counted workspace) fun _ => Under i held P := by
  refine keeps_query_bind (hP []) fun snapshot _ _ => ?_
  refine Keeps.left ?_
  refine (keeps_lockAll hP).bind fun _ => ?_
  refine Keeps.pre ?_ fun s _ h =>
    (⟨fun lock hlock => h.1 lock (List.mem_append_right _ hlock), h.2⟩ : Under i held P s)
  exact keeps_query_bind (hP []) fun d _ _ => keeps_lift.post fun _ s _ h => ⟨h.1.1, h.1.2.1⟩

theorem keeps_admitWorkspace (hP : ∀ more, (placementDiscipline ι).Stable (more ++ held) P)
    (workspace : Workspace) :
    (placementDiscipline ι).Keeps i (Under i held P) (admitWorkspacePostgres workspace)
      fun _ => Under i held P := by
  refine keeps_query_bind (hP []) fun d _ _ => keeps_lift_bind fun _ _ => ?_
  refine Keeps.left ?_
  exact (keeps_admitQuota hP _ _ _ _).bind fun _ => keeps_admitQuota hP _ _ _ _

/-- The commit of a workspace in a pool whose lock is held. -/
theorem keeps_commit_placed (hchange : ∀ d d', change d = some d' → Extends (· = name) d d') :
    (placementDiscipline ι).Keeps i
      (Under i [(.nodePool name, .shared)] fun d => d.hasPool name = true)
      (commit change : PlacementTransaction Unit) fun _ _ => True := by
  refine keeps_commit (stable_hasPool List.mem_cons_self) fun s d hunder hs hd _ => ?_
  refine (hchange _ _ hd).respects hs ?_
  rintro _ rfl
  exact ⟨hunder.2, hunder.1 _ List.mem_cons_self⟩

theorem keeps_createWorkspace (id jobId : Uuid) (command : CreateWorkspace)
    (options : WorkspaceCreationOptions) :
    (placementDiscipline ι).Respects i (createWorkspacePostgres id jobId command options) := by
  refine Keeps.start (keeps_require_bind fun _ => keeps_query_bind stable_true fun d _ _ => ?_)
  refine keeps_require_bind fun _ => ?_
  refine Keeps.forget ?_
  refine (keeps_resolveTemplate stable_true _ _ _).bind fun snapshot => ?_
  refine keeps_lift_bind fun _ _ => ?_
  refine (keeps_selectNodePool (fun _ => stable_true) _ _).bind fun nodePool => ?_
  refine keeps_lift_bind fun edited _ => ?_
  refine Keeps.right ?_
  refine (keeps_admitWorkspace (fun more => stable_hasPool
    (List.mem_append_right more List.mem_cons_self)) _).bind fun _ => ?_
  refine keeps_lift_bind fun row hrow => keeps_commit_placed fun d d' hd => ?_
  have hpool : row.nodePool = nodePool := nodePool_of_newWorkspaceRow hrow
  exact hpool ▸ extends_insertCreated (toOption_eq_some.1 hd)

theorem keeps_updatePlacement (jobId workspaceId : Uuid) (nodePool : String)
    (expectedGeneration : ℕ) (now : ℤ) :
    (placementDiscipline ι).Respects i
      (updatePlacementPostgres jobId workspaceId nodePool expectedGeneration now) := by
  refine Keeps.start (Keeps.bind (B := fun _ => Under i [] fun _ => True) ?_ fun current => ?_)
  · refine keeps_query_bind stable_true fun snapshot _ _ => keeps_lift_bind fun _ _ => ?_
    refine Keeps.forget ?_
    refine (keeps_lockRow stable_true).bind fun _ => Keeps.pre ?_ fun s _ h => under_of_cons h
    exact keeps_query_bind stable_true fun d _ _ =>
      keeps_lift.post fun _ s _ h => ⟨h.1.1, trivial⟩
  · refine keeps_query_bind stable_true fun d _ _ => keeps_lift_bind fun _ _ => ?_
    refine keeps_lift_bind fun _ _ => keeps_lift_bind fun templateId _ => ?_
    refine Keeps.forget ?_
    refine (keeps_resolveTemplate stable_true _ _ _).bind fun snapshot => ?_
    refine (keeps_selectNodePool (fun _ => stable_true) _ _).bind fun selected => ?_
    refine Keeps.right (keeps_commit_placed fun d d' hd => ?_)
    obtain ⟨r, hedit, rfl⟩ := map_eq_ok.1 (toOption_eq_some.1 hd)
    exact extends_commitEdit hedit rfl

/-- A commit that concerns no reference needs no lock. -/
theorem keeps_commit_extends
    (hchange : ∀ d d', change d = some d' → Extends (fun _ => False) d d') :
    (placementDiscipline ι).Keeps i (Under i held fun _ => True)
      (commit change : PlacementTransaction Unit) fun _ _ => True :=
  keeps_commit stable_true fun _ _ _ hs hd _ => (hchange _ _ hd).respects hs fun _ hnew => hnew.elim

theorem keeps_lockTemplatePools (placement : WorkspacePlacement) :
    (placementDiscipline ι).Keeps i (Under i held fun _ => True) (lockTemplatePools placement)
      fun _ => Under i held fun _ => True := by
  refine keeps_query_bind stable_true fun snapshot _ _ => ?_
  refine Keeps.forget ?_
  refine (keeps_lockAll fun _ => stable_true).bind fun _ => ?_
  refine Keeps.pre ?_ fun s _ h => (⟨fun lock hlock => h.1 lock (List.mem_append_right _ hlock),
    trivial⟩ : Under i held (fun _ => True) s)
  exact keeps_query_bind stable_true fun d _ _ =>
    keeps_require.post fun _ s _ h => ⟨h.1.1, trivial⟩

theorem keeps_lockTemplate (id : Uuid) :
    (placementDiscipline ι).Keeps i (Under i held fun _ => True) (lockTemplate id)
      fun _ => Under i held fun _ => True := by
  refine keeps_query_bind stable_true fun snapshot _ _ => keeps_lift_bind fun _ _ => ?_
  refine Keeps.forget ?_
  exact (keeps_lockRow stable_true).post fun _ s _ h => under_of_cons h

theorem keeps_editTemplate (edit : TemplateEdit) (allowClusterAccess : Bool) (now : ℤ) :
    (placementDiscipline ι).Respects i (edit.postgres allowClusterAccess now) := by
  refine Keeps.start ?_
  cases edit with
  | create newId organizationId upload =>
    refine keeps_lift_bind fun accepted _ => (keeps_lockTemplatePools _).bind fun _ => ?_
    exact keeps_commit_extends fun d d' hd => extends_templateEdit (toOption_eq_some.1 hd)
  | replace id upload =>
    refine keeps_lift_bind fun accepted _ => (keeps_lockTemplate id).bind fun _ => ?_
    refine (keeps_lockTemplatePools _).bind fun _ => ?_
    exact keeps_commit_extends fun d d' hd => extends_templateEdit (toOption_eq_some.1 hd)
  | setEnabled id enabled =>
    refine (keeps_lockTemplate id).bind fun _ => keeps_query_bind stable_true fun d _ _ => ?_
    refine keeps_lift_bind fun _ _ => ?_
    refine Keeps.forget (keeps_commit_extends fun d d' hd => ?_)
    exact extends_templateEdit (toOption_eq_some.1 hd)
  | delete id =>
    refine (keeps_lockTemplate id).bind fun _ => keeps_query_bind stable_true fun d _ _ => ?_
    refine keeps_lift_bind fun row _ => ?_
    refine Keeps.forget ?_
    refine keeps_query_bind stable_true fun d _ _ => keeps_lift_bind fun _ _ => ?_
    refine Keeps.forget (keeps_commit_extends fun d d' hd => ?_)
    exact extends_of_base_eq (by cases hd; rfl)

theorem keeps_putNodePool (name : String) (command : PutNodePool) (now : ℤ) :
    (placementDiscipline ι).Respects i (putNodePoolPostgres name command now) := by
  refine Keeps.start (keeps_lift_bind fun _ _ => (keeps_lock stable_true).bind fun _ => ?_)
  refine keeps_commit stable_true ?_
  rintro s _ hunder hs ⟨⟩ -
  refine ⟨fun other hother => hasPool_upsertNodePool _ name command now (hs.2 other hother),
    trivial, fun g hg hne other hkey => ⟨hasPool_upsertNodePool _ name command now, fun _ => id⟩⟩

/-- A deletion whose subquery is current knows that nothing refers to the pool, and the lock keeps
it so. -/
theorem keeps_deleteNodePool (name : String) :
    (placementDiscipline ι).Respects i (deleteNodePoolPostgres name) := by
  refine Keeps.start (keeps_require_bind fun _ => ?_)
  refine keeps_query_bind stable_true fun snapshot _ _ => keeps_lift_bind fun _ _ => ?_
  refine Keeps.forget ?_
  refine (keeps_lockRow_allowed
    (Q := fun d => (!d.workspaceInUse name || snapshot.workspaceInUse name) = true) stable_true
    fun s _ hallowed => hallowed).bind fun _ => ?_
  by_cases hsnapshot : snapshot.workspaceInUse name = true
  · -- the deletion is refused
    refine Keeps.forget ?_
    refine keeps_query_bind stable_true fun d _ _ => keeps_lift_bind fun row _ => ?_
    refine keeps_require_bind fun hunused => ?_
    simp [hsnapshot] at hunused
  · refine Keeps.pre ?_ fun s _ h => (⟨h.1, by simpa [hsnapshot] using h.2.2⟩ :
      Under i [(.nodePool name, .exclusive)] (fun d => d.workspaceInUse name = false) s)
    refine keeps_query_bind (stable_unused List.mem_cons_self) fun d _ _ => ?_
    refine keeps_lift_bind fun row _ => keeps_require_bind fun _ => ?_
    refine Keeps.pre (keeps_commit (stable_unused List.mem_cons_self) ?_)
      fun s _ h => (⟨h.1, h.2.1⟩ : Under i _ (fun d => d.workspaceInUse name = false) s)
    intro s d' hunder hs hremove _
    obtain ⟨hreferences, hpools⟩ := removeNodePool_eq_some hremove
    refine ⟨placed_removeNodePool hremove hs.2 hunder.2, trivial, fun g hg hne other hkey => ?_⟩
    have hother : other ≠ name := by
      rintro rfl
      exact hunder.not_exclusive hs List.mem_cons_self hg hne hkey
    exact ⟨hpools other hother, fun _ hunused => (hreferences other).trans hunused⟩

theorem governs_placement : (placementDiscipline ι).Governs fun x =>
    ∃ request : PlacementRequest, x = request.transaction .postgres := by
  rintro _ ⟨request, rfl⟩ i
  cases request with
  | createWorkspace id jobId command options => exact keeps_createWorkspace id jobId command options
  | updatePlacement jobId workspaceId nodePool expectedGeneration now =>
    exact keeps_updatePlacement jobId workspaceId nodePool expectedGeneration now
  | editTemplate edit allowClusterAccess now => exact keeps_editTemplate edit allowClusterAccess now
  | putNodePool name command now => exact keeps_putNodePool name command now
  | deleteNodePool name => exact keeps_deleteNodePool name

/-- Only PostgreSQL lets a statement wait for a lock with an old snapshot. -/
def Backend.SubqueriesCurrent : Backend → ι → Store ι PlacementLock PlacementStore →
    Statement PlacementLock PlacementStore → Prop
  | .sqlite => fun _ _ _ => True
  | .postgres => fun _ s c => subqueriesCurrent s c = true

/-- **The placement of every live workspace can be resolved**, whatever creations, placement
updates, template edits and pool changes run next to each other, when no deletion of a pool decides
by an outdated subquery. -/
theorem workspaces_keep_node_pools (backend : Backend) {d : PlacementStore}
    {C : Interaction.Configuration (statements PlacementLock PlacementStore)
      (Store ι PlacementLock PlacementStore) ι}
    (hstart : ∀ row ∈ liveRows d.base.workspaces.rows, d.hasPool row.nodePool = true)
    (hrun : (placementPool backend.SubqueriesCurrent backend).Steps (idle ι PlacementLock d) C) :
    ∀ row ∈ liveRows C.store.committed.base.workspaces.rows,
      ∃ placement, resolveWorkspacePlacement C.store.committed row.nodePool = .ok placement := by
  have hplaced : d.Placed := by
    intro name hname
    obtain ⟨row, hrow, hpool⟩ := List.any_eq_true.1 hname
    exact of_decide_eq_true hpool ▸ hstart row hrow
  have hC : C.store.committed.Placed := by
    cases backend with
    | postgres => exact governs_placement.invariant_of_steps hplaced hrun
    | sqlite =>
      have hgoverns : (serial .writer PlacementStore.Placed fun _ _ => True :
          Discipline ι PlacementLock PlacementStore).Governs fun x =>
            ∃ request : PlacementRequest, x = request.transaction .sqlite := by
        rintro _ ⟨request, rfl⟩ i
        exact keeps_serialized fun _ _ hd happly => ⟨placed_of_apply happly hd, trivial⟩
      exact hgoverns.invariant_of_steps hplaced hrun
  intro row hrow
  have hpool := hC row.nodePool (List.any_eq_true.2 ⟨row, hrow, decide_eq_true rfl⟩)
  obtain ⟨pool, hpool⟩ := Option.isSome_iff_exists.1 hpool
  exact ⟨pool.placement, by simp [resolveWorkspacePlacement, hpool, okOr, bind, Except.bind]⟩

end Interleavings

/-! ### Runs -/

/-- A template of this name that allows these pools, the first as the default. -/
def samplePoolUpload (name defaultPool : String) (pools : List String) : TemplateUpload :=
  ⟨.document { sampleDocument with
    name := name
    spec := { sampleDocument.spec with placement := ⟨defaultPool :: pools, defaultPool⟩ } },
    false, 400⟩

/-- One template for the pool, and a spare pool that nothing refers to. -/
def samplePlacementStore : PlacementStore where
  base :=
    { sampleDatabase .stopped with
      workspaces := .empty _
      catalog :=
        { templates := .empty _
          nodePools := ⟨[⟨"pool", "Pool", ⟨[], [], []⟩, true, 0, 0⟩,
            ⟨"spare", "Spare", ⟨[], [], []⟩, true, 0, 0⟩], by decide⟩
          imagePolicies := ⟨[⟨"workspace", imageContractVersion, true⟩], by simp⟩
          organizationQuotas := .empty _
          userQuotas := .empty _
          cpuOvercommitRatio := 1 } }
  templates := ⟨[⟨sampleUserId, none, "small", .document sampleDocument, true, 0, 0⟩], by simp⟩
  templateNodePools := [⟨sampleUserId, "pool", true⟩]

def samplePlacementRun {ι : Type} [DecidableEq ι]
    (permits : ι → Store ι PlacementLock PlacementStore → Statement PlacementLock PlacementStore →
      Bool) (moves : List (Move ι PlacementRequest)) : PlacementStore :=
  (scheduled permits (PlacementRequest.transaction .postgres)
    (idle ι PlacementLock samplePlacementStore) moves).store.committed

def sampleOffer (pools : List String) : PlacementRequest :=
  .editTemplate (.replace sampleUserId (samplePoolUpload "small" "pool" pools)) false 0

def samplePlacedCreation (nodePool : String) : PlacementRequest :=
  .createWorkspace sampleWorkspaceId sampleJobId
    ⟨sampleUserId, sampleUserId, "workspace", sampleUserId, none, none, false⟩
    ⟨some nodePool, none, none, true, 0⟩

def sampleDisabledSpare : PlacementRequest :=
  .putNodePool "spare" ⟨"Spare", ⟨[], [], []⟩, false⟩ 0

/-- While the workspace of the pool is being created, the spare pool is disabled and goes. -/
def samplePoolRemoval : List (Move Bool PlacementRequest) :=
  [.start false (samplePlacedCreation "pool"), .proceed false 3, .start true sampleDisabledSpare,
   .proceed true 9, .start true (.deleteNodePool "spare"), .proceed true 2, .proceed false 20,
   .proceed true 9]

/-- Another template for the spare pool is being created while the deletion of that pool begins and
waits for the lock.  Meanwhile the first template allows the pool, a workspace is created there, and
no template allows the pool any longer.  The pool is disabled, and the deletion goes on. -/
def sampleOutdatedDeletion : List (Move (Fin 3) PlacementRequest) :=
  [.start 0 (.editTemplate (.create sampleOperationId none
     (samplePoolUpload "other" "spare" [])) false 0), .proceed 0 2,
   .start 1 (.deleteNodePool "spare"), .proceed 1 1,
   .start 2 (sampleOffer ["spare"]), .proceed 2 9,
   .start 2 (samplePlacedCreation "spare"), .proceed 2 20,
   .start 2 (sampleOffer []), .proceed 2 9,
   .proceed 0 2,
   .start 2 (.editTemplate (.replace sampleOperationId
     (samplePoolUpload "other" "pool" [])) false 0),
   .proceed 2 9,
   .start 2 sampleDisabledSpare, .proceed 2 9,
   .proceed 1 9]

theorem workspaces_keep_node_pools_sample :
    let d := samplePlacementRun (fun _ => subqueriesCurrent) samplePoolRemoval
    (d.hasPool "spare" = false ∧ (liveRows d.base.workspaces.rows).length = 1) ∧
      ∀ row ∈ liveRows d.base.workspaces.rows,
        ∃ placement, resolveWorkspacePlacement d row.nodePool = .ok placement := by
  refine ⟨by decide +kernel, workspaces_keep_node_pools (d := samplePlacementStore) .postgres ?_
    (steps_scheduled (fun _ _ _ => id) _ samplePoolRemoval fun _ request _ => ⟨request, rfl⟩)⟩
  decide +kernel

/-- **The outdated subquery of a deletion** lets it delete a pool that a new workspace is in. -/
theorem outdated_subquery_deletes_pool :
    (∀ row ∈ liveRows samplePlacementStore.base.workspaces.rows,
      samplePlacementStore.hasPool row.nodePool = true) ∧
    ∃ C, (placementPool (fun _ _ _ => True) .postgres).Steps
        (idle (Fin 3) PlacementLock samplePlacementStore) C ∧
      ∃ row ∈ liveRows C.store.committed.base.workspaces.rows,
        resolveWorkspacePlacement C.store.committed row.nodePool = .error .nodePoolNotFound := by
  have hend : ∃ row ∈ liveRows
      (samplePlacementRun (fun _ _ _ => true) sampleOutdatedDeletion).base.workspaces.rows,
        resolveWorkspacePlacement (samplePlacementRun (fun _ _ _ => true) sampleOutdatedDeletion)
          row.nodePool = .error .nodePoolNotFound := by
    decide +kernel
  exact ⟨by decide +kernel, _, steps_scheduled (fun _ _ _ _ => trivial) _ sampleOutdatedDeletion
    fun _ request _ => ⟨request, rfl⟩, hend⟩

end WorkspaceControl
