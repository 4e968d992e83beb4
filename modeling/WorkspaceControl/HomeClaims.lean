/-
**Whose home claim is it.**

A workspace lives on the claim it is bound to, or else on the claim that is derived from its short
id.  Bindings are written by two paths: a bind of the API, which asks the database whether another
workspace has the claim or derives it, and the switch and the rollback of a storage operation,
which ask nothing.  Below both of them are the unique indexes of the schema, which know the
bindings and nothing of derived names.

`Scene` is the database together with the claim names that have been taken so far.  A name is
`FreeFor` a workspace when no other workspace derives it, and none will: a derived name that is
taken is never derived again.  All that is written as a binding of a workspace, now or in a storage
operation, is free for it, and that is what a transaction keeps.

Main definitions:

* `WorkspaceRow.homeClaimName`, `Database.HomeIndexes` — the claim of a workspace, and the indexes;
* `Scene`, `Scene.FreeFor`, `Scene.Extends` — who may be bound to a name;
* `Scene.Sound` — the invariant;
* `Scene.Admits` — what is asked of a transaction.

Main results:

* `Scene.Sound.writes` — **every admitted transaction keeps the invariant**;
* `Scene.Sound.created` — so does the creation of a workspace with a new short id;
* `Scene.Sound.apart` — no two workspaces have one claim.
-/

import WorkspaceControl.ShrinkRuns

set_option autoImplicit false

namespace WorkspaceControl

open Fallible MachineInt Relational

/-! ### Claims of a workspace -/

/-- The home claim: the one that is bound, or the one that is derived. -/
def WorkspaceRow.homeClaimName (row : WorkspaceRow) : String :=
  row.homePvcName.getD (dataPvcOrdinalZero row.shortId)

variable {binding : WorkspaceHomeVolumeBinding} {document : WorkspaceTemplateDocument}
  {next state : WorkspaceState} {row : WorkspaceRow} {workspace workspace' : Workspace}
  {workspaceId : Uuid}

variable {db db' : Database} {id jobId : Uuid} {operation : StorageShrinkOperation}
  {row' : WorkspaceRow} {options : WorkspaceCreationOptions}

theorem Text.eq_of_surround {start stop a b : String}
    (h : start ++ a ++ stop = start ++ b ++ stop) : a = b := by
  have hlist := congrArg String.toList h
  simp only [String.toList_append, List.append_assoc] at hlist
  exact String.toList_inj.1 (List.append_cancel_right (List.append_cancel_left hlist))

theorem Text.head_append {start rest : String} {c : Char} (h : start.toList.head? = some c) :
    (start ++ rest).toList.head? = some c := by
  rw [String.toList_append, List.head?_append, h]
  rfl

theorem dataPvcOrdinalZero_injective : Function.Injective dataPvcOrdinalZero :=
  fun _ _ => Text.eq_of_surround

/-- The destination of a storage operation has no derived name. -/
theorem dataPvcOrdinalZero_ne_shrinkClaimName (shortId : String) (operationId : Uuid)
    (role : ShrinkRole) : dataPvcOrdinalZero shortId ≠ shrinkClaimName operationId role := by
  have hderived : (dataPvcOrdinalZero shortId).toList.head? = some 'w' := by
    unfold dataPvcOrdinalZero
    exact Text.head_append (Text.head_append (by decide))
  have hshrink : (shrinkClaimName operationId role).toList.head? = some 's' := by
    unfold shrinkClaimName
    exact Text.head_append (Text.head_append (Text.head_append (by decide)))
  intro h
  rw [h, hshrink] at hderived
  exact absurd (Option.some_inj.1 hderived) (by decide)

/-! ### Indexes -/

/-- Two rows have one key in `workspace_home_pvc_name_idx` or in `workspace_home_pvc_uid_idx`; a
key with a `NULL` is none. -/
def WorkspaceRow.sharesHome (row other : WorkspaceRow) : Bool :=
  (row.homePvcNamespace.isSome && row.homePvcName.isSome &&
    row.homePvcNamespace = other.homePvcNamespace && row.homePvcName = other.homePvcName) ||
    (row.homePvcUid.isSome && row.homePvcUid = other.homePvcUid)

/-- The row of a deleted workspace, which the indexes and the queries leave out. -/
def WorkspaceRow.deleted (row : WorkspaceRow) : Bool := row.state = WorkspaceState.deleted.asStr

/-- **The unique indexes on home claims.** -/
def Database.HomeIndexes (db : Database) : Prop :=
  ∀ row ∈ db.workspaces.rows, ∀ other ∈ db.workspaces.rows, row.id ≠ other.id →
    row.deleted = false → other.deleted = false → row.sharesHome other = false

instance (db : Database) : Decidable db.HomeIndexes :=
  inferInstanceAs (Decidable (∀ row ∈ db.workspaces.rows, ∀ other ∈ db.workspaces.rows,
    row.id ≠ other.id → row.deleted = false → other.deleted = false →
      row.sharesHome other = false))

/-! ### Names that are free for a workspace -/

/-- The database, and the claim names that have been taken: those of claims that exist or have
existed in the cluster, and those that are derived from the short id of a workspace. -/
structure Scene where
  database : Database
  taken : List String

variable {s : Scene}

namespace Scene

abbrev rows (s : Scene) : List WorkspaceRow := s.database.workspaces.rows

/-- **No other workspace derives the name, and none will.** -/
def FreeFor (s : Scene) (workspaceId : Uuid) (name : String) : Prop :=
  ∀ shortId, dataPvcOrdinalZero shortId = name →
    name ∈ s.taken ∧ ∀ row ∈ s.rows, row.shortId = shortId → row.id = workspaceId

/-- What was free for a workspace still is. -/
def Extends (s s' : Scene) : Prop :=
  ∀ workspaceId name, s.FreeFor workspaceId name → s'.FreeFor workspaceId name

theorem Extends.refl (s : Scene) : s.Extends s := fun _ _ => id

theorem Extends.trans {s₁ s₂ : Scene} (h : s.Extends s₁) (h' : s₁.Extends s₂) : s.Extends s₂ :=
  fun workspaceId name hfree => h' workspaceId name (h workspaceId name hfree)

/-- The home volumes of an operation are in the namespace of the workspaces, and free for the
workspace of the operation. -/
def Holds (s : Scene) (operation : StorageShrinkOperation) : Prop :=
  ∀ binding, operation.home.source = some binding ∨ operation.home.destination = some binding →
    binding.namespace = workspaceNamespace ∧ s.FreeFor operation.workspaceId binding.claimName

theorem Holds.extends {s' : Scene} (h : s.Holds operation) (hextends : s.Extends s') :
    s'.Holds operation :=
  fun binding hbinding => ⟨(h binding hbinding).1, hextends _ _ (h binding hbinding).2⟩

/-- Another version of an operation that has the same home volumes. -/
theorem Holds.of_eq {operation' : StorageShrinkOperation} (h : s.Holds operation)
    (hworkspace : operation'.workspaceId = operation.workspaceId)
    (hsource : operation'.home.source = operation.home.source)
    (hdestination : operation'.home.destination = operation.home.destination) :
    s.Holds operation' := by
  intro binding hbinding
  rw [hsource, hdestination] at hbinding
  rw [hworkspace]
  exact h binding hbinding

/-- The name of a destination is free for everybody. -/
theorem freeFor_shrinkClaimName (s : Scene) (workspaceId operationId : Uuid) (role : ShrinkRole) :
    s.FreeFor workspaceId (shrinkClaimName operationId role) :=
  fun shortId h => absurd h (dataPvcOrdinalZero_ne_shrinkClaimName shortId operationId role)

/-! ### The invariant -/

/-- **The invariant.**  What a workspace derives and what it is bound to is free for it, and so
are the home volumes of its storage operations. -/
structure Sound (s : Scene) : Prop where
  operations : ShrinkInvariant s.database
  indexes : s.database.HomeIndexes
  undeleted : ∀ row ∈ s.rows, row.deleted = false
  derived : ∀ row ∈ s.rows, s.FreeFor row.id (dataPvcOrdinalZero row.shortId)
  bound : ∀ row ∈ s.rows, ∀ name, row.homePvcName = some name →
    row.homePvcNamespace = some workspaceNamespace ∧ s.FreeFor row.id name
  recorded : ∀ row ∈ s.database.shrinks.rows, s.Holds row.operation

/-- **No two workspaces have one claim.** -/
theorem Sound.apart (h : s.Sound) {other : WorkspaceRow} (hrow : row ∈ s.rows)
    (hother : other ∈ s.rows) (hne : row.id ≠ other.id) :
    row.homeClaimName ≠ other.homeClaimName := by
  -- a name that is free for one of them is not what the other one derives
  have hderives : ∀ {row other : WorkspaceRow} {name : String}, other ∈ s.rows →
      row.id ≠ other.id → s.FreeFor row.id name → name ≠ dataPvcOrdinalZero other.shortId := by
    intro row other name hother hne hfree heq
    exact hne ((hfree other.shortId heq.symm).2 other hother rfl).symm
  unfold WorkspaceRow.homeClaimName
  cases hname : row.homePvcName with
  | none =>
    cases hname' : other.homePvcName with
    | none => exact hderives hother hne (h.derived row hrow)
    | some name' =>
      exact (hderives hrow hne.symm (h.bound other hother name' hname').2).symm
  | some name =>
    cases hname' : other.homePvcName with
    | none => exact hderives hother hne (h.bound row hrow name hname).2
    | some name' =>
      -- both are bound: the index on names
      rintro rfl
      have hindex := h.indexes row hrow other hother hne (h.undeleted row hrow)
        (h.undeleted other hother)
      have hspace := (h.bound row hrow _ hname).1
      have hspace' := (h.bound other hother _ hname').1
      simp [WorkspaceRow.sharesHome, hspace, hspace', hname, hname'] at hindex

theorem Sound.of_empty (hrows : s.rows = []) (hshrinks : s.database.shrinks.rows = []) :
    s.Sound := by
  refine ⟨.of_no_shrinks hshrinks, ?_, ?_, ?_, ?_, ?_⟩
  · intro row hrow
    rw [show s.database.workspaces.rows = [] from hrows] at hrow
    cases hrow
  · simp [hrows]
  · simp [hrows]
  · simp [hrows]
  · simp [hshrinks]

/-! ### One step -/

/-- **A row after a transaction**: a workspace that was there, bound to what is free for it if it
is bound, or the one that was created, with a new short id. -/
inductive Leaves (s s' : Scene) (created : Option Uuid) (row' : WorkspaceRow) : Prop
  | kept {row : WorkspaceRow} (hrow : row ∈ s.rows) (hid : row'.id = row.id)
      (hshort : row'.shortId = row.shortId) (hdeleted : row'.deleted = false)
      (hbound : ∀ name, row'.homePvcName = some name →
        row'.homePvcNamespace = some workspaceNamespace ∧ s.FreeFor row.id name) :
      Leaves s s' created row'
  | created (hid : created = some row'.id) (hfresh : dataPvcOrdinalZero row'.shortId ∉ s.taken)
      (htaken : dataPvcOrdinalZero row'.shortId ∈ s'.taken) (hdeleted : row'.deleted = false)
      (hunbound : row'.homePvcName = none) : Leaves s s' created row'

/-- **What is free stays free**, and the invariant holds after a step that leaves such rows. -/
theorem Sound.step {s s' : Scene} (h : s.Sound) (created : Option Uuid)
    (htaken : ∀ name ∈ s.taken, name ∈ s'.taken)
    (hrows : ∀ row ∈ s'.rows, s.Leaves s' created row) (hindexes : s'.database.HomeIndexes)
    (hoperations : ShrinkInvariant s'.database)
    (hrecorded : ∀ row ∈ s'.database.shrinks.rows, s.Holds row.operation) :
    s'.Sound ∧ s.Extends s' := by
  have hextends : s.Extends s' := by
    intro workspaceId name hfree shortId hshortId
    obtain ⟨hmem, hsole⟩ := hfree shortId hshortId
    refine ⟨htaken name hmem, fun row' hrow' hshort' => ?_⟩
    cases hrows row' hrow' with
    | kept hrow hid hshort =>
      exact hid.trans (hsole _ hrow (hshort.symm.trans hshort'))
    | created _ hfresh =>
      rw [hshort', hshortId] at hfresh
      exact absurd hmem hfresh
  refine ⟨⟨hoperations, hindexes, ?_, ?_, ?_, ?_⟩, hextends⟩
  · intro row' hrow'
    cases hrows row' hrow' with
    | kept _ _ _ hdeleted => exact hdeleted
    | created _ _ _ hdeleted => exact hdeleted
  · intro row' hrow'
    cases hrows row' hrow' with
    | kept hrow hid hshort =>
      rw [hid, hshort]
      exact hextends _ _ (h.derived _ hrow)
    | created hid hfresh hmem =>
      intro shortId hshortId
      refine ⟨hmem, fun row hrow hshort => ?_⟩
      obtain rfl : shortId = row'.shortId := dataPvcOrdinalZero_injective hshortId
      -- an old workspace with this short id would have taken its name
      cases hrows row hrow with
      | kept hold _ hshort' =>
        have hold := (h.derived _ hold _ rfl).1
        rw [← hshort', hshort] at hold
        exact absurd hold hfresh
      | created hid' => exact Option.some_inj.1 (hid'.symm.trans hid)
  · intro row' hrow' name hname
    cases hrows row' hrow' with
    | kept _ hid _ _ hbound =>
      rw [hid]
      exact ⟨(hbound name hname).1, hextends _ _ (hbound name hname).2⟩
    | created _ _ _ _ hunbound => cases hunbound.symm.trans hname
  · exact fun row' hrow' => (hrecorded row' hrow').extends hextends

end Scene

/-! ### Rows after a transaction -/

/-- The transactions that write neither the claim of a workspace nor its short id. -/
def StoreCall.LeavesHomes : StoreCall → Prop
  | create .. => False
  | update _ _ _ _ (.homeVolume ..) => False
  | saveShrink .. => False
  | _ => True

/-- The columns that say where a workspace lives. -/
structure WorkspaceRow.SameHome (row row' : WorkspaceRow) : Prop where
  shortId : row'.shortId = row.shortId
  «namespace» : row'.homePvcNamespace = row.homePvcNamespace
  name : row'.homePvcName = row.homePvcName
  deleted : row.deleted = false → row'.deleted = false

theorem WorkspaceRow.deleted_eq_false {row : WorkspaceRow} {state : WorkspaceState}
    (hstate : row.state = state.asStr) (hne : state ≠ .deleted) : row.deleted = false := by
  simp only [WorkspaceRow.deleted, hstate, decide_eq_false_iff_not]
  exact fun h => hne (WorkspaceState.asStr_injective h)

theorem WorkspaceState.request_ne_deleted {action : WorkspaceAction}
    (h : state.request action = .ok next) : next ≠ .deleted := by
  rintro rfl
  cases state <;> cases action <;> cases h

theorem WorkspaceState.observe_ne_deleted {observation : WorkspaceObservation}
    (h : state.observe observation = .ok next) (hkept : observation ≠ .deleted) :
    next ≠ .deleted := by
  rintro rfl
  cases state <;> cases observation <;> first | exact hkept rfl | cases h

theorem SettingUpdate.Prepares.sameHome {setting : SettingUpdate} {edit : WorkspaceEdit}
    (h : setting.Prepares workspace edit)
    (hsetting : ∀ binding adoptReady, setting ≠ .homeVolume binding adoptReady) (yaml : YamlText)
    (generation now : ℤ) (row : WorkspaceRow) :
    row.SameHome (edit.row yaml generation now row) := by
  cases setting with
  | homeVolume binding adoptReady => exact absurd rfl (hsetting binding adoptReady)
  | placement nodePool =>
    obtain ⟨_, _, rfl, -⟩ := h
    exact ⟨rfl, rfl, rfl, id⟩
  | image | temporaryStorage | homeCapacity | cpuOvercommit =>
    obtain ⟨rfl, -⟩ := h
    exact ⟨rfl, rfl, rfl, id⟩

theorem RowWrites.sameHome {call : StoreCall} {before : Option WorkspaceRow}
    (h : RowWrites workspaceId call before (some row')) (hcall : call.LeavesHomes) :
    ∃ row, before = some row ∧ row.SameHome row' := by
  cases h with
  | same => exact ⟨row', rfl, rfl, rfl, rfl, id⟩
  | created | saved => exact hcall.elim
  | @acted _ _ _ row _ _ _ hdecodes hnext =>
    exact ⟨row, rfl, rfl, rfl, rfl, fun _ =>
      WorkspaceRow.deleted_eq_false rfl (WorkspaceState.request_ne_deleted hnext)⟩
  | @observed _ _ _ row _ _ _ hdecodes _ hnext hkept =>
    exact ⟨row, rfl, rfl, rfl, rfl, fun _ =>
      WorkspaceRow.deleted_eq_false rfl (WorkspaceState.observe_ne_deleted hnext hkept)⟩
  | @updated _ _ setting _ row _ _ hdecodes hprepares =>
    refine ⟨row, rfl, hprepares.sameHome ?_ _ _ _ row⟩
    rintro binding adoptReady rfl
    exact hcall
  | @dispatched _ _ row => exact ⟨row, rfl, rfl, rfl, rfl, id⟩

/-- The home volume that an update of a storage operation leaves. -/
theorem home_of_applyShrinkWorkspaceUpdate {document' : WorkspaceTemplateDocument}
    {change : ShrinkWorkspaceUpdate}
    (h : applyShrinkWorkspaceUpdate workspace document operation change =
      .ok (workspace', document')) (hbinding : workspace'.homeVolumeBinding = some binding) :
    workspace.homeVolumeBinding = some binding ∨ operation.home.source = some binding ∨
      operation.home.destination = some binding := by
  have happly := applyShrinkWorkspaceUpdate_eq_ok h
  cases change with
  | none =>
    rw [happly.1] at hbinding
    exact .inl hbinding
  | stopping | stopped | resume =>
    rw [happly.2] at hbinding
    exact .inl hbinding
  | switch =>
    rw [(Prod.mk.inj happly.2.2).1] at hbinding
    rcases Option.or_eq_some_iff.1 hbinding with hdestination | ⟨-, hsource⟩
    · exact .inr (.inr hdestination)
    · exact .inr (.inl hsource)
  | rollback =>
    rw [(Prod.mk.inj happly).1] at hbinding
    exact .inr (.inl hbinding)

namespace Scene

/-- **What is asked of a transaction**: a new workspace has a short id that was never used, a
workspace is bound to a claim that is free for it, and a storage operation holds such claims. -/
def Admits (s : Scene) : StoreCall → Prop
  | .create id .. => dataPvcOrdinalZero (workspaceShortIdFor id) ∉ s.taken
  | .update _ workspaceId _ _ (.homeVolume binding _) => s.FreeFor workspaceId binding.claimName
  | .saveShrink operation _ => s.Holds operation
  | _ => True

section Writes

variable {call : StoreCall}

/-- A binding of a workspace is in the namespace of the workspaces, and free for it. -/
theorem Sound.bound_of_decodes (h : s.Sound) (hrow : row ∈ s.rows) {workspace : Workspace}
    (hdecodes : Decodes row document workspace)
    (hbinding : workspace.homeVolumeBinding = some binding) :
    binding.namespace = workspaceNamespace ∧ s.FreeFor row.id binding.claimName := by
  have hname : row.homePvcName = some binding.claimName := by
    rw [show row.homePvcName = workspace.homeVolumeBinding.map (·.claimName) from
      congrArg HomeColumns.claimName hdecodes.home, hbinding]
    rfl
  have hspace : row.homePvcNamespace = some binding.namespace := by
    rw [show row.homePvcNamespace = workspace.homeVolumeBinding.map (·.namespace) from
      congrArg HomeColumns.namespace hdecodes.home, hbinding]
    rfl
  obtain ⟨hspace', hfree⟩ := h.bound row hrow _ hname
  exact ⟨Option.some_inj.1 (hspace.symm.trans hspace'), hfree⟩

/-- The rows after a transaction that creates no workspace. -/
theorem Sound.leaves (h : s.Sound) (hadmits : s.Admits call)
    (hcall : ∀ id jobId command options, call ≠ .create id jobId command options)
    (hwrites : call.Writes s.database db') (hrow' : row' ∈ db'.workspaces.rows)
    (taken : List String) :
    s.Leaves ⟨db', taken⟩ none row' := by
  have hwritten := hwrites.row row'.id
  rw [Table.find_key_of_mem hrow'] at hwritten
  by_cases hleaves : call.LeavesHomes
  · obtain ⟨row, hfound, hsame⟩ := hwritten.sameHome hleaves
    obtain ⟨hrow, hid⟩ := Table.find_eq_some.1 hfound
    refine .kept hrow hid.symm hsame.shortId (hsame.deleted (h.undeleted row hrow)) ?_
    intro name hname
    rw [hsame.namespace]
    exact h.bound row hrow name (hsame.name.symm.trans hname)
  · generalize hbefore : s.database.workspaces.find row'.id = before at hwritten
    cases hwritten with
    | same =>
      obtain ⟨hrow, -⟩ := Table.find_eq_some.1 hbefore
      exact .kept hrow rfl rfl (h.undeleted row' hrow) (h.bound row' hrow)
    | created => exact absurd rfl (hcall _ _ _ _)
    | acted => exact absurd trivial hleaves
    | observed _ hreports =>
      rcases hreports with rfl | ⟨-, rfl⟩
      · exact absurd trivial hleaves
      · exact absurd trivial hleaves
    | dispatched _ hdispatches =>
      cases call with
      | enqueueShrink | confirmShrink | retryShrink => exact absurd trivial hleaves
      | _ => exact hdispatches.elim
    | @updated _ _ setting _ row _ _ hdecodes hprepares =>
      obtain ⟨hrow, hid⟩ := Table.find_eq_some.1 hbefore
      cases setting with
      | homeVolume binding adoptReady =>
        obtain ⟨rfl, hvalid, hstate⟩ := hprepares
        have hspace : binding.namespace = workspaceNamespace := by
          simp only [WorkspaceHomeVolumeBinding.isValid, Bool.and_eq_true,
            decide_eq_true_eq] at hvalid
          exact hvalid.1.1.1.1.1.1.1
        refine .kept hrow rfl rfl ?_ ?_
        · cases adoptReady with
          | true => exact @WorkspaceRow.deleted_eq_false _ .ready rfl (by decide)
          | false => exact h.undeleted row hrow
        · intro name hname
          obtain rfl : binding.claimName = name := Option.some_inj.1 hname
          exact ⟨congrArg some hspace, hid ▸ hadmits⟩
      | _ => exact absurd trivial hleaves
    | @saved operation change row _ _ _ workspace' hid hdecodes hchange happly =>
      obtain ⟨hrow, hrowId⟩ := Table.find_eq_some.1 hbefore
      refine .kept hrow rfl rfl ?_ ?_
      · refine WorkspaceRow.deleted_eq_false rfl ?_
        rcases state_of_applyShrinkWorkspaceUpdate hchange happly with hs | hs | hs <;>
          simp [hs]
      · intro name hname
        obtain ⟨binding, hbinding, rfl⟩ := Option.map_eq_some_iff.1
          (show workspace'.homeVolumeBinding.map (·.claimName) = some name from hname)
        have hheld : binding.namespace = workspaceNamespace ∧
            s.FreeFor row.id binding.claimName := by
          rcases home_of_applyShrinkWorkspaceUpdate happly hbinding with hkept | hvolume
          · exact h.bound_of_decodes hrow hdecodes hkept
          · rw [show row.id = operation.workspaceId from hrowId.trans hid.symm]
            exact hadmits binding hvolume
        refine ⟨?_, hheld.2⟩
        show workspace'.homeVolumeBinding.map (·.namespace) = some workspaceNamespace
        rw [hbinding, ← hheld.1]
        rfl

/-- What deletion records of a home volume: a destination with the name of its operation. -/
theorem Holds.cleaned {operation : StorageShrinkOperation} (h : s.Holds operation)
    {operationId : Uuid} {captured home temporary : StorageShrinkVolume}
    (hhome : cleanupVolume operationId .home operation.home captured = .ok home) :
    s.Holds { operation with home, temporary } := by
  simp only [cleanupVolume, bind_eq_ok, pure_eq_ok] at hhome
  obtain ⟨_, -, destination, hdestination, rfl⟩ := hhome
  rintro binding (hsource | hfound)
  · exact h binding (.inl hsource)
  · change destination = some binding at hfound
    unfold cleanupDestination at hdestination
    split at hdestination
    · simp only [ensure_bind_eq_ok, Bool.and_eq_true, decide_eq_true_eq, pure_eq_ok]
        at hdestination
      obtain ⟨⟨⟨⟨-, hspace⟩, hname⟩, -⟩, rfl⟩ := hdestination
      obtain rfl := Option.some_inj.1 hfound
      rw [hname]
      exact ⟨hspace, s.freeFor_shrinkClaimName _ _ _⟩
    · obtain rfl := pure_eq_ok.1 hdestination
      exact h binding (.inr hfound)

/-- The operations after a transaction. -/
theorem Sound.records (h : s.Sound) (hadmits : s.Admits call)
    (hwrites : call.Writes s.database db') {row : ShrinkRow} (hrow : row ∈ db'.shrinks.rows) :
    s.Holds row.operation := by
  cases hwrites.operation h.operations hrow with
  | kept hold => exact h.recorded row hold
  | started hstarted =>
    obtain ⟨hfound, -⟩ := Table.find_eq_some.1 hstarted.found
    rintro binding (hsource | hdestination)
    · have hbound := h.bound_of_decodes hfound hstarted.decodes hsource
      rw [← hstarted.decodes.id] at hbound
      exact hbound
    · cases hdestination
  | confirmed hold | retried hold => exact (h.recorded _ hold).of_eq rfl rfl rfl
  | saved => exact hadmits
  | cleaned hcleaned => exact (h.recorded _ hcleaned.mem).cleaned hcleaned.homeVolume

/-- **Every admitted transaction keeps the invariant**, the creation of a workspace apart. -/
theorem Sound.writes (h : s.Sound) (hadmits : s.Admits call)
    (hcall : ∀ id jobId command options, call ≠ .create id jobId command options)
    (hwrites : call.Writes s.database db') (hindexes : db'.HomeIndexes) :
    Sound ⟨db', s.taken⟩ ∧ s.Extends ⟨db', s.taken⟩ :=
  h.step none (fun _ => id) (fun _ hrow => h.leaves hadmits hcall hwrites hrow _) hindexes
    (h.operations.writes hwrites) fun _ hrow => h.records hadmits hwrites hrow

end Writes

end Scene

/-! ### Creation -/

theorem createWorkspace_unbound {command : CreateWorkspace}
    (h : createWorkspace db id jobId command options = .ok (workspace, db'))
    (hcreated : Created db id row document workspace' db') : row.homePvcName = none := by
  simp only [createWorkspace, insertWorkspace, newWorkspaceRow, bind_eq_ok, Prod.exists,
    okOr_eq_ok, ensure_eq_ok, pure_eq_ok, Prod.mk.injEq] at h
  obtain ⟨_, -, _, -, snapshot, -, _, -, nodePool, -, spec, yaml, -, ⟨⟩, -, inserted,
    ⟨_, -, _, -, _, -, _, -, rfl⟩, db₁, ⟨_, -, _, -, workspaces, hinsert, rfl⟩, db₂, hjob, -,
    rfl⟩ := h
  obtain ⟨jobs, -, rfl⟩ := Database.insertJob_eq_ok hjob
  have hrows := (Table.rows_of_insertNew hinsert).2
  have hlast := List.append_cancel_left (hcreated.rows.symm.trans hrows)
  rw [(List.cons.inj hlast).1]

namespace Scene

/-- **The creation of a workspace** with a short id that was never used. -/
theorem Sound.created (h : s.Sound) {command response}
    (hfresh : dataPvcOrdinalZero (workspaceShortIdFor id) ∉ s.taken)
    (hperforms : (StoreCall.create id jobId command options).Performs s.database response db')
    (hindexes : db'.HomeIndexes) :
    Sound ⟨db', dataPvcOrdinalZero (workspaceShortIdFor id) :: s.taken⟩ ∧
      s.Extends ⟨db', dataPvcOrdinalZero (workspaceShortIdFor id) :: s.taken⟩ := by
  have hwrites := hperforms.writes
  have hadmits : s.Admits (.create id jobId command options) := hfresh
  refine h.step (some id) (fun _ => List.mem_cons_of_mem _) ?_ hindexes
    (h.operations.writes hwrites) fun _ hrow => h.records hadmits hwrites hrow
  intro row' hrow'
  have hkept : ∀ row ∈ s.rows, s.Leaves
      ⟨db', dataPvcOrdinalZero (workspaceShortIdFor id) :: s.taken⟩ (some id) row :=
    fun row hrow => .kept hrow rfl rfl (h.undeleted row hrow) (h.bound row hrow)
  cases response with
  | error e =>
    obtain rfl := hperforms.eq_of_error
    exact hkept row' hrow'
  | ok workspace =>
    obtain ⟨locked, htransaction⟩ := hperforms.transaction_of_ok
    have hcreate := settle_eq_ok.1 htransaction
    obtain ⟨row, document, hcreated⟩ := createWorkspace_eq_ok hcreate
    rw [show (Scene.mk db' _).rows = s.rows ++ [row] from hcreated.rows, List.mem_append,
      List.mem_singleton] at hrow'
    rcases hrow' with hrow' | rfl
    · exact hkept row' hrow'
    · have hshort : row'.shortId = workspaceShortIdFor id := by
        rw [hcreated.decodes.shortId.2, hcreated.id]
      refine .created (congrArg some hcreated.id.symm) ?_ ?_ ?_
        (createWorkspace_unbound hcreate hcreated)
      · rwa [hshort]
      · rw [hshort]
        exact List.mem_cons_self
      · refine WorkspaceRow.deleted_eq_false hcreated.decodes.state ?_
        rw [hcreated.state]
        decide

/-! ### The query of a bind -/

/-- **What the query of a bind shows**: a claim that was there, and that no other workspace had or
derived, is free. -/
theorem FreeFor.of_not_inUse (h : s.Sound) (hclaim : binding.claimName ∈ s.taken)
    (hunused : homePvcInUse s.database workspaceId binding = false) :
    s.FreeFor workspaceId binding.claimName := by
  intro shortId hshortId
  refine ⟨hclaim, fun row hrow hshort => ?_⟩
  by_contra hne
  have hdeleted : row.state ≠ WorkspaceState.deleted.asStr := by
    simpa [WorkspaceRow.deleted] using h.undeleted row hrow
  have hquery := List.any_eq_false.1 hunused row hrow
  refine hquery ?_
  simp [hne, hdeleted, hshort, hshortId]

end Scene

end WorkspaceControl
