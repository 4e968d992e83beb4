/-
**The template endpoints.**

`src/src/api/catalog.rs` and `src/src/storage/template_store.rs`: creating, replacing, enabling and
deleting a template.  A template whose specification grants cluster access is for those who may
manage the system.  Creating one checks the new document; enabling and deleting check the stored
one, in the handler and once more in the transaction; replacing checks the new document only.

Main definitions:

* `StoredTemplate`, `TemplateTable` — the rows; a text is kept as what it is parsed to;
* `createWorkspaceTemplate`, `replaceWorkspaceTemplate`, `setWorkspaceTemplateEnabled`,
  `deleteWorkspaceTemplate` — the transactions;
* `TemplateRequest`, `TemplateRequest.handle` — the endpoints.

Main results:

* `TemplateRequest.effect_of_handle` — everything a call can do to the table, with what was checked;
* `cluster_access_templates_unchanged` — **calls by actors that may not manage the system leave the
  templates that grant cluster access as they are, when no replacement is aimed at one**;
* `cluster_access_template_replaced` — an organization administrator replaces such a template.
-/
import WorkspaceControl.Access
import WorkspaceControl.Calls

set_option autoImplicit false

namespace WorkspaceControl

open Fallible Relational

/-! ### Rows -/

/-- A row of `workspace_templates`, with the columns that are read back. -/
structure StoredTemplate where
  id : Uuid
  organizationId : Option Uuid
  name : String
  templateYaml : YamlText
  enabled : Bool
  createdAt : ℤ
  updatedAt : ℤ
deriving DecidableEq

abbrev TemplateTable : Type := Table StoredTemplate.id

/-- A YAML text of a request: what it is parsed to, whether it is blank, and its length. -/
structure TemplateUpload where
  yaml : YamlText
  blank : Bool
  bytes : ℕ

def parseDocument (yaml : YamlText) : Except StorageError WorkspaceTemplateDocument :=
  (WorkspaceTemplateDocument.parse yaml).mapError fun _ => .invalidTemplate

/-- `decode_template`: a stored text that does not parse is an error. -/
def StoredTemplate.decode (row : StoredTemplate) :
    Except StorageError (StoredTemplate × WorkspaceTemplateDocument) := do
  let document ← parseDocument row.templateYaml
  pure (row, document)

def StoredTemplate.grantsClusterAccess (row : StoredTemplate) : Bool :=
  match parseDocument row.templateYaml with
  | .ok document => document.spec.clusterAccess
  | .error _ => false

/-- `normalize_yaml`; the newline that it adds does not change what the text is parsed to. -/
def normalizeYaml (upload : TemplateUpload) : Except StorageError YamlText := do
  ensure (!upload.blank && upload.bytes ≤ 128 * 1024) .invalidTemplate
  pure upload.yaml

def ensureClusterAccess (spec : WorkspaceTemplateSpec) (allowClusterAccess : Bool) :
    Except StorageError Unit :=
  ensure (!spec.clusterAccess || allowClusterAccess) .privilegedTemplateForbidden

def validateImage (image : String) : Except StorageError Unit :=
  let image := Text.trim image.toList
  ensure (!image.isEmpty && Text.len image ≤ 512 && !image.any Text.isWhitespace) .invalidTemplate

/-- The numbers of a specification go into `BIGINT` columns. -/
def checkColumns (spec : WorkspaceTemplateSpec) : Except StorageError Unit := do
  let _ ← asI64 spec.resources.cpuMillis .invalidTemplate
  let _ ← asI64 spec.resources.memoryMib .invalidTemplate
  let _ ← asI64 spec.resources.diskGib .invalidTemplate
  let _ ← asI64 spec.storagePolicy.temporaryStorageGib .invalidTemplate
  pure ()

/-- `validate_template_pools`: every allowed node pool exists. -/
def validateTemplatePools (catalog : Catalog) (placement : WorkspacePlacement) :
    Except StorageError Unit :=
  ensure (placement.allowedNodePools.all fun name => (catalog.nodePools.find name).isSome)
    .nodePoolNotFound

/-- The unique index on organization and name; a template of no organization is not in it. -/
def nameTaken (templates : TemplateTable) (row : StoredTemplate) : Bool :=
  templates.rows.any fun other => other.id ≠ row.id && other.organizationId.isSome &&
    other.organizationId = row.organizationId && other.name = row.name

/-! ### Transactions -/

def getWorkspaceTemplate (templates : TemplateTable) (id : Uuid) :
    Except StorageError (StoredTemplate × WorkspaceTemplateDocument) := do
  let row ← okOr (templates.find id) .templateNotFound
  row.decode

/-- What creating and replacing check of the new text. -/
def acceptUpload (upload : TemplateUpload) (allowClusterAccess : Bool) :
    Except StorageError (YamlText × WorkspaceTemplateDocument) := do
  let yaml ← normalizeYaml upload
  let document ← parseDocument yaml
  ensureClusterAccess document.spec allowClusterAccess
  validateImage document.spec.image
  checkColumns document.spec
  pure (yaml, document)

def createWorkspaceTemplate (templates : TemplateTable) (catalog : Catalog) (newId : Uuid)
    (organizationId : Option Uuid) (upload : TemplateUpload) (allowClusterAccess : Bool) (now : ℤ) :
    Except StorageError (StoredTemplate × TemplateTable) := do
  let (yaml, document) ← acceptUpload upload allowClusterAccess
  let row : StoredTemplate := ⟨newId, organizationId, document.name, yaml, true, now, now⟩
  ensure (!nameTaken templates row) (.database "UNIQUE constraint failed: workspace_templates")
  let templates' ← okOr (templates.insertNew row)
    (.database "UNIQUE constraint failed: workspace_templates.id")
  validateTemplatePools catalog document.spec.placement
  pure (row, templates')

/-- The row after a replacement. -/
def StoredTemplate.replaced (row : StoredTemplate) (yaml : YamlText)
    (document : WorkspaceTemplateDocument) (now : ℤ) : StoredTemplate :=
  { row with
    name := String.ofList (Text.trim document.name.toList)
    templateYaml := yaml
    updatedAt := now }

/-- The stored text is not looked at. -/
def replaceWorkspaceTemplate (templates : TemplateTable) (catalog : Catalog) (id : Uuid)
    (upload : TemplateUpload) (allowClusterAccess : Bool) (now : ℤ) :
    Except StorageError (StoredTemplate × TemplateTable) := do
  let (yaml, document) ← acceptUpload upload allowClusterAccess
  let row ← okOr (templates.find id) .templateNotFound
  ensure (!nameTaken templates (row.replaced yaml document now))
    (.database "UNIQUE constraint failed: workspace_templates")
  validateTemplatePools catalog document.spec.placement
  pure (row.replaced yaml document now,
    templates.update (fun r => r.id = id) (fun r => r.replaced yaml document now) fun _ => rfl)

def ensureTemplateAccess (templates : TemplateTable) (id : Uuid) (allowClusterAccess : Bool) :
    Except StorageError StoredTemplate := do
  let (row, document) ← getWorkspaceTemplate templates id
  ensureClusterAccess document.spec allowClusterAccess
  pure row

def setWorkspaceTemplateEnabled (templates : TemplateTable) (id : Uuid)
    (enabled allowClusterAccess : Bool) (now : ℤ) :
    Except StorageError (StoredTemplate × TemplateTable) := do
  let row ← ensureTemplateAccess templates id allowClusterAccess
  pure ({ row with enabled, updatedAt := now },
    templates.update (fun r => r.id = id) (fun r => { r with enabled, updatedAt := now })
      fun _ => rfl)

def ensureTemplateDeletable (enabled referenced : Bool) : Except StorageError Unit := do
  ensure (!enabled) .templateMustBeDisabled
  ensure (!referenced) .templateInUse

def deleteWorkspaceTemplate (templates : TemplateTable) (workspaces : WorkspaceTable) (id : Uuid)
    (allowClusterAccess : Bool) : Except StorageError (StoredTemplate × TemplateTable) := do
  let row ← ensureTemplateAccess templates id allowClusterAccess
  ensureTemplateDeletable row.enabled (workspaces.rows.any fun w => w.templateId = some id)
  pure (row, templates.delete fun r => r.id = id)

/-! ### Endpoints -/

/-- The right to edit the templates of an organization, or those of no organization. -/
def mayEditTemplates (actor : Principal) (organizationId : Option Uuid) : Bool :=
  (match organizationId with
    | none => actor.mayManageSystem
    | some organizationId => actor.allows .manageOrganization organizationId) &&
    !actor.hasTemplateRestriction

/-- `parse_template_yaml` and the check of the new document. -/
def checkUpload (actor : Principal) (upload : TemplateUpload) : Except ApiError Unit := do
  let document ← (parseDocument upload.yaml).mapError .storage
  ensure (!document.spec.clusterAccess || actor.mayManageSystem) .forbidden

def checkCreate (actor : Principal) (organizationId : Option Uuid) (upload : TemplateUpload) :
    Except ApiError Unit := do
  ensure (mayEditTemplates actor organizationId) .forbidden
  checkUpload actor upload

/-- Of the stored template only the organization is looked at. -/
def checkReplace (actor : Principal) (templates : TemplateTable) (id : Uuid)
    (upload : TemplateUpload) : Except ApiError Unit := do
  let (current, _) ← (getWorkspaceTemplate templates id).mapError .storage
  ensure (mayEditTemplates actor current.organizationId) .forbidden
  checkUpload actor upload

/-- The check of `set_template_enabled` and of `delete_template`. -/
def checkStored (actor : Principal) (templates : TemplateTable) (id : Uuid) :
    Except ApiError Unit := do
  let (current, document) ← (getWorkspaceTemplate templates id).mapError .storage
  ensure (mayEditTemplates actor current.organizationId) .forbidden
  ensure (!document.spec.clusterAccess || actor.mayManageSystem) .forbidden

inductive TemplateCall
  | create (organizationId : Option Uuid) (upload : TemplateUpload) (newId : Uuid)
  | replace (id : Uuid) (upload : TemplateUpload)
  | setEnabled (id : Uuid) (enabled : Bool)
  | delete (id : Uuid)

/-- A call, with the rest of the database that its transaction sees. -/
structure TemplateRequest extends Request where
  call : TemplateCall
  database : Database

namespace TemplateRequest

def handle (request : TemplateRequest) (templates : TemplateTable) :
    Except ApiError (Option StoredTemplate) × TemplateTable :=
  let actor := request.actor
  let allow := actor.mayManageSystem
  match request.call with
  | .create organizationId upload newId =>
    request.perform (checkCreate actor organizationId upload) request.reserve
      (createWorkspaceTemplate templates request.database.catalog newId organizationId upload
        allow request.now) templates
  | .replace id upload =>
    request.perform (checkReplace actor templates id upload) request.reserve
      (replaceWorkspaceTemplate templates request.database.catalog id upload allow request.now)
      templates
  | .setEnabled id enabled =>
    request.perform (checkStored actor templates id) request.reserve
      (setWorkspaceTemplateEnabled templates id enabled allow request.now) templates
  | .delete id =>
    request.perform (checkStored actor templates id) (pure true)
      (deleteWorkspaceTemplate templates request.database.workspaces id allow) templates

/-- The replacement is not aimed at a template that grants cluster access. -/
def SparesClusterAccess (request : TemplateRequest) (templates : TemplateTable) : Prop :=
  ∀ id upload, request.call = .replace id upload →
    ∀ row ∈ templates.rows, row.id = id → row.grantsClusterAccess = false

end TemplateRequest

/-! ### What a call does -/

theorem grantsClusterAccess_of_decode {row : StoredTemplate}
    {document : WorkspaceTemplateDocument} (h : parseDocument row.templateYaml = .ok document) :
    row.grantsClusterAccess = document.spec.clusterAccess := by
  simp only [StoredTemplate.grantsClusterAccess, h]

variable {allow : Bool} {catalog : Catalog} {id : Uuid} {now : ℤ} {row : StoredTemplate}
  {templates templates' : TemplateTable} {upload : TemplateUpload}

theorem acceptUpload_eq_ok {yaml : YamlText} {document : WorkspaceTemplateDocument}
    (h : acceptUpload upload allow = .ok (yaml, document)) :
    parseDocument yaml = .ok document ∧ (document.spec.clusterAccess = true → allow = true) := by
  simp only [acceptUpload, ensureClusterAccess, bind_eq_ok, ensure_eq_ok, pure_eq_ok,
    Prod.mk.injEq] at h
  obtain ⟨_, -, _, hparse, _, haccess, _, -, _, -, rfl, rfl⟩ := h
  exact ⟨hparse, fun h => by simpa [h] using haccess⟩

theorem ensureTemplateAccess_eq_ok (h : ensureTemplateAccess templates id allow = .ok row) :
    templates.find id = some row ∧ (row.grantsClusterAccess = true → allow = true) := by
  simp only [ensureTemplateAccess, getWorkspaceTemplate, StoredTemplate.decode,
    ensureClusterAccess, bind_eq_ok, ensure_eq_ok, okOr_eq_ok, pure_eq_ok, Prod.exists,
    Prod.mk.injEq] at h
  obtain ⟨_, document, ⟨_, hfind, _, hparse, rfl, rfl⟩, _, haccess, rfl⟩ := h
  refine ⟨hfind, fun hgrants => ?_⟩
  rw [grantsClusterAccess_of_decode hparse] at hgrants
  simpa [hgrants] using haccess

/-- Everything a call can do to the table, with what was checked of the documents. -/
inductive TemplateEffect (allow : Bool) (templates : TemplateTable) (call : TemplateCall) :
    TemplateTable → Prop
  | nothing : TemplateEffect allow templates call templates
  | created {templates' : TemplateTable} (row : StoredTemplate)
      (haccess : row.grantsClusterAccess = true → allow = true)
      (hrows : templates'.rows = templates.rows ++ [row]) :
      TemplateEffect allow templates call templates'
  | changed (row : StoredTemplate) (f : StoredTemplate → StoredTemplate)
      (hf : ∀ r, (f r).id = r.id) (hfind : templates.find row.id = some row)
      (hbefore : row.grantsClusterAccess = true →
        allow = true ∨ ∃ upload, call = .replace row.id upload)
      (hafter : (f row).grantsClusterAccess = true → allow = true) :
      TemplateEffect allow templates call (templates.update (fun r => r.id = row.id) f hf)
  | deleted (row : StoredTemplate) (hfind : templates.find row.id = some row)
      (hbefore : row.grantsClusterAccess = true → allow = true) :
      TemplateEffect allow templates call (templates.delete fun r => r.id = row.id)

theorem effect_of_create {newId : Uuid}
    {organizationId : Option Uuid}
    (h : createWorkspaceTemplate templates catalog newId organizationId
      upload allow now = .ok (row, templates')) (call : TemplateCall) :
    TemplateEffect allow templates call templates' := by
  simp only [createWorkspaceTemplate, bind_eq_ok, ensure_eq_ok, okOr_eq_ok, pure_eq_ok,
    Prod.exists, Prod.mk.injEq] at h
  obtain ⟨yaml, document, hupload, _, -, _, hinsert, _, -, rfl, rfl⟩ := h
  obtain ⟨hparse, haccess⟩ := acceptUpload_eq_ok hupload
  refine .created _ (fun hgrants => haccess ?_) (Table.rows_of_insertNew hinsert).2
  rwa [grantsClusterAccess_of_decode hparse] at hgrants

theorem effect_of_replace
    (h : replaceWorkspaceTemplate templates catalog id upload allow now = .ok (row, templates')) :
    TemplateEffect allow templates (.replace id upload) templates' := by
  simp only [replaceWorkspaceTemplate, bind_eq_ok, ensure_eq_ok, okOr_eq_ok, pure_eq_ok,
    Prod.exists, Prod.mk.injEq] at h
  obtain ⟨yaml, document, hupload, current, hfind, _, -, _, -, rfl, rfl⟩ := h
  obtain ⟨hparse, haccess⟩ := acceptUpload_eq_ok hupload
  obtain rfl : current.id = id := (Table.find_eq_some.1 hfind).2
  refine .changed current _ _ hfind (fun _ => .inr ⟨upload, rfl⟩) fun hgrants => haccess ?_
  rwa [@grantsClusterAccess_of_decode (current.replaced yaml document now) document hparse]
    at hgrants

theorem effect_of_setEnabled {enabled allow : Bool}
    (h : setWorkspaceTemplateEnabled templates id enabled allow now = .ok (row, templates'))
    (call : TemplateCall) : TemplateEffect allow templates call templates' := by
  simp only [setWorkspaceTemplateEnabled, bind_eq_ok, pure_eq_ok, Prod.mk.injEq] at h
  obtain ⟨current, haccess, rfl, rfl⟩ := h
  obtain ⟨hfind, hgrants⟩ := ensureTemplateAccess_eq_ok haccess
  obtain rfl : current.id = id := (Table.find_eq_some.1 hfind).2
  exact .changed current _ _ hfind (fun h => .inl (hgrants h)) hgrants

theorem effect_of_delete {workspaces : WorkspaceTable}
    (h : deleteWorkspaceTemplate templates workspaces id allow = .ok (row, templates'))
    (call : TemplateCall) : TemplateEffect allow templates call templates' := by
  simp only [deleteWorkspaceTemplate, bind_eq_ok, pure_eq_ok, Prod.mk.injEq] at h
  obtain ⟨current, haccess, _, -, rfl, rfl⟩ := h
  obtain ⟨hfind, hgrants⟩ := ensureTemplateAccess_eq_ok haccess
  obtain rfl : current.id = id := (Table.find_eq_some.1 hfind).2
  exact .deleted current hfind hgrants

theorem TemplateRequest.effect_of_handle (request : TemplateRequest) (templates : TemplateTable) :
    TemplateEffect request.actor.mayManageSystem templates request.call
      (request.handle templates).2 := by
  simp only [handle]
  generalize request.call = call
  cases call with
  | create =>
    exact Request.perform_elim (P := TemplateEffect _ _ _) .nothing fun _ _ _ h =>
      effect_of_create h _
  | replace =>
    exact Request.perform_elim (P := TemplateEffect _ _ _) .nothing fun _ _ _ h =>
      effect_of_replace h
  | setEnabled =>
    exact Request.perform_elim (P := TemplateEffect _ _ _) .nothing fun _ _ _ h =>
      effect_of_setEnabled h _
  | delete =>
    exact Request.perform_elim (P := TemplateEffect _ _ _) .nothing fun _ _ _ h =>
      effect_of_delete h _

/-! ### Templates that grant cluster access -/

/-- The same rows that grant cluster access. -/
def SameClusterAccess (templates templates' : TemplateTable) : Prop :=
  ∀ row : StoredTemplate, row.grantsClusterAccess = true →
    (row ∈ templates.rows ↔ row ∈ templates'.rows)

/-- An update of a row that grants no cluster access, to one that grants none. -/
theorem sameClusterAccess_update {f : StoredTemplate → StoredTemplate} {hf : ∀ r, (f r).id = r.id}
    (hfind : templates.find row.id = some row) (hbefore : row.grantsClusterAccess = false)
    (hafter : (f row).grantsClusterAccess = false) :
    SameClusterAccess templates (templates.update (fun r => r.id = row.id) f hf) := by
  have hrow := (Table.find_eq_some.1 hfind).1
  intro other hgrants
  constructor
  · intro hother
    refine Table.mem_update_of_not hother (decide_eq_false fun hid => ?_)
    obtain rfl := templates.eq_of_key hother hrow hid
    rw [hbefore] at hgrants
    cases hgrants
  · intro hother
    rcases Table.mem_update_cases hother with ⟨hother, -⟩ | ⟨before, hmem, hid, rfl⟩
    · exact hother
    · obtain rfl := templates.eq_of_key hmem hrow (of_decide_eq_true hid)
      rw [hafter] at hgrants
      cases hgrants

/-- What a call of somebody who may not manage the system does. -/
theorem TemplateRequest.sameClusterAccess_handle {request : TemplateRequest}
    (hactor : request.actor.mayManageSystem = false)
    (hspares : request.SparesClusterAccess templates) :
    SameClusterAccess templates (request.handle templates).2 := by
  have heffect := request.effect_of_handle templates
  rw [hactor] at heffect
  generalize (request.handle templates).2 = templates' at heffect ⊢
  cases heffect with
  | nothing => exact fun _ _ => Iff.rfl
  | created row haccess hrows =>
    intro other hgrants
    rw [hrows, List.mem_append, List.mem_singleton]
    refine ⟨.inl, fun hother => hother.resolve_right ?_⟩
    rintro rfl
    cases haccess hgrants
  | changed row f hf hfind hbefore hafter =>
    refine sameClusterAccess_update hfind (Bool.eq_false_iff.2 fun hgrants => ?_)
      (Bool.eq_false_iff.2 fun hgrants => nomatch hafter hgrants)
    rcases hbefore hgrants with hallow | ⟨upload, hcall⟩
    · cases hallow
    · have hplain := hspares row.id upload hcall row (Table.find_eq_some.1 hfind).1 rfl
      rw [hplain] at hgrants
      cases hgrants
  | deleted row hfind hbefore =>
    intro other hgrants
    rw [Table.mem_delete]
    refine ⟨fun hother => ⟨hother, decide_eq_false fun hid => ?_⟩, And.left⟩
    obtain rfl := templates.eq_of_key hother (Table.find_eq_some.1 hfind).1 hid
    cases hbefore hgrants

/-- **Calls by actors that may not manage the system.**  If none of their replacements is aimed at
a template that grants cluster access, the templates that grant it stay the same, row by row: none
is modified, enabled or deleted, and none is created or results from a call. -/
theorem cluster_access_templates_unchanged {templates templates' : TemplateTable}
    (h : Relation.ReflTransGen (RequestStep (fun request s => (TemplateRequest.handle request s).2)
      fun request s => request.actor.mayManageSystem = false ∧ request.SparesClusterAccess s)
      templates templates') : SameClusterAccess templates templates' := by
  induction h with
  | refl => exact fun _ _ => Iff.rfl
  | tail _ hstep ih =>
    obtain ⟨request, ⟨hactor, hspares⟩, rfl⟩ := hstep
    exact fun row hgrants => (ih row hgrants).trans
      (TemplateRequest.sameClusterAccess_handle hactor hspares row hgrants)

/-- A template of the organization that grants cluster access, as the system's administrators
store one. -/
def sampleStoredTemplate : StoredTemplate where
  id := sampleOperationId
  organizationId := some sampleUserId
  name := "privileged"
  templateYaml := .document
    { sampleDocument with
      name := "privileged", spec := { sampleDocument.spec with clusterAccess := true } }
  enabled := true
  createdAt := 0
  updatedAt := 0

def sampleTemplates : TemplateTable := ⟨[sampleStoredTemplate], by simp⟩

/-- A call by an administrator of the organization, with a plain document. -/
def sampleTemplateRequest (call : TemplateCall) : TemplateRequest where
  toRequest := .smooth (organizationAdministrator sampleUserId sampleUserId [.manageOrganization]) 1
  call := call
  database :=
    { sampleDatabase .stopped with
      catalog := ⟨.empty _, ⟨[⟨"pool", "Pool", ⟨[], [], []⟩, true, 0, 0⟩], by simp⟩, .empty _,
        .empty _, .empty _, 1⟩ }

def sampleUpload : TemplateUpload := ⟨.document sampleDocument, false, 400⟩

/-- The organization's administrator adds a template: the call succeeds and the other one stays. -/
theorem cluster_access_templates_unchanged_sample :
    let request := sampleTemplateRequest (.create (some sampleUserId) sampleUpload sampleJobId)
    (request.handle sampleTemplates).2.rows.length = 2 ∧
      SameClusterAccess sampleTemplates (request.handle sampleTemplates).2 := by
  refine ⟨by decide +kernel, cluster_access_templates_unchanged (.single ⟨_, ⟨?_, ?_⟩, rfl⟩)⟩
  · decide +kernel
  · intro id upload hcall
    cases hcall

/-- The organization's administrator replaces the template that grants cluster access. -/
theorem cluster_access_template_replaced :
    ∃ (request : TemplateRequest) (templates : TemplateTable) (row : StoredTemplate),
      request.actor.mayManageSystem = false ∧ row ∈ templates.rows ∧
        row.grantsClusterAccess = true ∧ row ∉ (request.handle templates).2.rows :=
  ⟨sampleTemplateRequest (.replace sampleOperationId sampleUpload), sampleTemplates,
    sampleStoredTemplate, by decide +kernel, by decide +kernel, by decide +kernel,
    by decide +kernel⟩

end WorkspaceControl
