/-
**An active storage operation excludes the other writers.**

Mutual exclusion is not a lock: every transaction that is an intent asks whether an operation of
the workspace is active, and what makes an operation active asks the same.  The invariant ties the
table of operations to the table of workspaces; every transaction keeps it, whoever makes it, so
that it holds after every interleaving of transactions.

Main definitions:

* `Database.Alive` — a workspace that is not being deleted;
* `ShrinkInvariant` — at most one active operation of a workspace, which is alive.

Main results:

* `ShrinkInvariant.writes` — every transaction keeps the invariant;
* `StoreCall.Writes.eq_or_idle` — an intent commits nothing while an operation is active;
* `active_shrink_excludes` — **both, for every interleaving**.
-/

import WorkspaceControl.Effects

set_option autoImplicit false

namespace WorkspaceControl

open Fallible Relational

/-! ### The invariant -/

/-- The workspace exists and is not being deleted. -/
def Database.Alive (db : Database) (workspaceId : Uuid) : Prop :=
  ∃ row, db.workspaces.find workspaceId = some row ∧
    row.state ≠ WorkspaceState.deleting.asStr ∧ row.state ≠ WorkspaceState.deleted.asStr

/-- A row of the table of operations agrees with the operation it holds. -/
structure ShrinkRow.Agrees (row : ShrinkRow) : Prop where
  id : row.operation.id = row.id
  workspaceId : row.operation.workspaceId = row.workspaceId
  active : row.active = row.operation.phase.active

/-- **The invariant of the table of operations.** -/
structure ShrinkInvariant (db : Database) : Prop where
  agrees : ∀ row ∈ db.shrinks.rows, row.Agrees
  unique : ∀ row ∈ db.shrinks.rows, ∀ other ∈ db.shrinks.rows,
    row.workspaceId = other.workspaceId → row.active = true → other.active = true → row = other
  alive : ∀ row ∈ db.shrinks.rows, row.active = true → db.Alive row.workspaceId

section Invariant

variable {db db' : Database}

theorem ShrinkInvariant.of_no_shrinks (h : db.shrinks.rows = []) : ShrinkInvariant db := by
  constructor <;> simp [h]

variable {document : WorkspaceTemplateDocument} {old : ShrinkRow}
  {operation : StorageShrinkOperation} {row : WorkspaceRow} {workspace : Workspace}
  {workspaceId : Uuid}

theorem Database.Alive.of_find_eq (h : db.Alive workspaceId)
    (hfind : db'.workspaces.find workspaceId = db.workspaces.find workspaceId) :
    db'.Alive workspaceId := by
  obtain ⟨row, hrow, hstate⟩ := h
  exact ⟨row, hfind.trans hrow, hstate⟩

theorem Database.Alive.of_find {state : WorkspaceState}
    (hfind : db'.workspaces.find workspaceId = some row) (hstate : row.state = state.asStr)
    (hdeleting : state ≠ .deleting) (hdeleted : state ≠ .deleted) : db'.Alive workspaceId := by
  refine ⟨row, hfind, ?_, ?_⟩
  · rw [hstate]
    exact fun h => hdeleting (WorkspaceState.asStr_injective h)
  · rw [hstate]
    exact fun h => hdeleted (WorkspaceState.asStr_injective h)

/-- A transaction that leaves the operations alone, and the workspaces of active operations
alive. -/
theorem ShrinkInvariant.of_shrinks_eq (h : ShrinkInvariant db) (hshrinks : db'.shrinks = db.shrinks)
    (halive : ∀ row ∈ db.shrinks.rows, row.active = true → db'.Alive row.workspaceId) :
    ShrinkInvariant db' := by
  refine ⟨?_, ?_, ?_⟩
  · rw [hshrinks]
    exact h.agrees
  · rw [hshrinks]
    exact h.unique
  · rw [hshrinks]
    exact halive

/-- A transaction on one workspace that has no active operation. -/
theorem ShrinkInvariant.of_idle (h : ShrinkInvariant db)
    (hidle : db.Idle workspaceId) (hshrinks : db'.shrinks = db.shrinks)
    (hother : ∀ other, other ≠ workspaceId →
      db'.workspaces.find other = db.workspaces.find other) : ShrinkInvariant db' := by
  refine h.of_shrinks_eq hshrinks fun row hrow hactive => ?_
  have hne : row.workspaceId ≠ workspaceId := by
    intro heq
    rw [hidle row hrow heq] at hactive
    cases hactive
  exact (h.alive row hrow hactive).of_find_eq (hother _ hne)

/-- A transaction that writes the row of one operation.  The write may make the operation active
only when no other one of the workspace is. -/
theorem ShrinkInvariant.of_write (h : ShrinkInvariant db)
    {f : ShrinkRow → ShrinkRow} {hf : ∀ row, (f row).id = row.id} (hold : old ∈ db.shrinks.rows)
    (hshrinks : db'.shrinks = (db.writeShrink old.id f hf).shrinks)
    (hagrees : (f old).Agrees) (hworkspace : (f old).workspaceId = old.workspaceId)
    (hsole : (f old).active = true → ∀ row ∈ db.shrinks.rows, row.workspaceId = old.workspaceId →
      row.active = true → row = old)
    (halive : (f old).active = true → db'.Alive old.workspaceId)
    (hother : ∀ row ∈ db.shrinks.rows, row ≠ old → row.active = true →
      db'.Alive row.workspaceId) : ShrinkInvariant db' := by
  -- every row is `f old`, or an old row with another id
  have hcases : ∀ row ∈ db'.shrinks.rows,
      row = f old ∨ (row ∈ db.shrinks.rows ∧ row ≠ old) := by
    intro row hrow
    rw [hshrinks] at hrow
    rcases Database.mem_writeShrink hrow with ⟨hrow, hid⟩ | ⟨r, hr, hid, rfl⟩
    · exact .inr ⟨hrow, fun heq => hid (heq ▸ rfl)⟩
    · obtain rfl := db.shrinks.eq_of_key hr hold hid
      exact .inl rfl
  refine ⟨?_, ?_, ?_⟩
  · intro row hrow
    rcases hcases row hrow with rfl | ⟨hrow, -⟩
    · exact hagrees
    · exact h.agrees row hrow
  · intro row hrow other hother' heq hactive hactive'
    rcases hcases row hrow with rfl | ⟨hrow, hne⟩
    · rcases hcases other hother' with rfl | ⟨hother', hne'⟩
      · rfl
      · exact absurd (hsole hactive other hother' (heq.symm.trans hworkspace) hactive') hne'
    · rcases hcases other hother' with rfl | ⟨hother', -⟩
      · exact absurd (hsole hactive' row hrow (heq.trans hworkspace) hactive) hne
      · exact h.unique row hrow other hother' heq hactive hactive'
  · intro row hrow hactive
    rcases hcases row hrow with rfl | ⟨hrow, hne⟩
    · rw [hworkspace]
      exact halive hactive
    · exact hother row hrow hne hactive

/-- The row of the latest operation: an operation that the queries take for the current one. -/
theorem ShrinkInvariant.latest (h : ShrinkInvariant db)
    (hlatest : db.latestStorageShrink workspaceId = some operation) :
    ∃ row ∈ db.shrinks.rows, row.operation = operation ∧ row.id = operation.id ∧
      row.workspaceId = workspaceId := by
  obtain ⟨row, hrow, rfl⟩ := Option.map_eq_some_iff.1 hlatest
  obtain ⟨hmem, hworkspace, -⟩ := Database.mem_latestShrink hrow
  exact ⟨row, hmem, rfl, (h.agrees row hmem).id.symm, hworkspace⟩

/-- An operation that is made active again keeps the invariant: none is active before. -/
theorem ShrinkInvariant.activated (h : ShrinkInvariant db) {jobId workspaceId operationId : Uuid}
    {now : ℤ}
    (hactivated : Activated db jobId workspaceId operationId operation now row document workspace
      db') (hold : old ∈ db.shrinks.rows) (hid : old.id = operationId)
    (hworkspace : old.workspaceId = workspaceId) (hoperation : operation.id = operationId)
    (hoperation' : operation.workspaceId = workspaceId) (hphase : operation.phase.active = true)
    (hstate : workspace.state = .ready ∨ workspace.state = .stopped) : ShrinkInvariant db' := by
  have hshrinks : db'.shrinks = (db.writeShrink old.id (ShrinkRow.activate operation now)
      fun _ => rfl).shrinks := by
    rw [hactivated.shrinks_eq, hid]
  refine h.of_write hold hshrinks ⟨hoperation.trans hid.symm, hoperation'.trans hworkspace.symm,
    hphase.symm⟩ rfl ?_ ?_ ?_
  · intro _ other hother heq hactive
    rw [hactivated.idle other hother (heq.trans hworkspace)] at hactive
    cases hactive
  · intro _
    rw [hworkspace]
    have hfind := hactivated.find_eq workspaceId
    rw [if_pos rfl] at hfind
    refine .of_find hfind hactivated.decodes.state ?_ ?_ <;>
      rcases hstate with hstate | hstate <;> simp [hstate]
  · intro other hother _ hactive
    have hne : other.workspaceId ≠ workspaceId := by
      intro heq
      rw [hactivated.idle other hother heq] at hactive
      cases hactive
    refine (h.alive other hother hactive).of_find_eq ?_
    rw [hactivated.find_eq, if_neg hne]

/-- A new operation keeps the invariant: none is active before, and the request was accepted in a
state in which the workspace rests. -/
theorem ShrinkInvariant.started (h : ShrinkInvariant db) {operationId jobId actorUserId : Uuid}
    {request : StorageShrinkRequest} {now : ℤ}
    (hstarted : Started db operationId jobId workspaceId request actorUserId now row document
      workspace db') : ShrinkInvariant db' := by
  have hid : workspace.id = workspaceId :=
    hstarted.decodes.id.trans (Table.find_eq_some.1 hstarted.found).2
  have hcases := fun r => (hstarted.mem_rows (r := r)).1
  have hinactive : ∀ r ∈ db.shrinks.rows, r.active = true → r.workspaceId ≠ workspaceId := by
    intro r hr hactive heq
    rw [hstarted.idle r hr heq] at hactive
    cases hactive
  have hself := hstarted.find_eq workspaceId
  rw [if_pos rfl] at hself
  refine ⟨?_, ?_, ?_⟩
  · intro r hr
    rcases hcases r hr with hr | rfl
    · exact h.agrees r hr
    · exact ⟨rfl, rfl, rfl⟩
  · intro r hr other hother heq hactive hactive'
    rcases hcases r hr with hr | rfl
    · rcases hcases other hother with hother | rfl
      · exact h.unique r hr other hother heq hactive hactive'
      · exact absurd (heq.trans hid) (hinactive r hr hactive)
    · rcases hcases other hother with hother | rfl
      · exact absurd (heq.symm.trans hid) (hinactive other hother hactive')
      · rfl
  · intro r hr hactive
    rcases hcases r hr with hr | rfl
    · refine (h.alive r hr hactive).of_find_eq ?_
      rw [hstarted.find_eq, if_neg (hinactive r hr hactive)]
    · obtain ⟨-, -, hstate⟩ := StorageShrinkRequest.validate_eq_ok.1 hstarted.valid
      have halive : db'.Alive workspaceId := by
        refine .of_find hself hstarted.decodes.state ?_ ?_ <;>
          rcases hstate with hstate | hstate <;> simp [hstate]
      rw [← hid] at halive
      exact halive

/-- An update of the workspace never leaves it being deleted. -/
theorem state_of_applyShrinkWorkspaceUpdate {workspace workspace' document document' change}
    (hchange : change ≠ .none)
    (h : applyShrinkWorkspaceUpdate workspace document operation change =
      .ok (workspace', document')) :
    workspace'.state = .stopping ∨ workspace'.state = .stopped ∨ workspace'.state = .starting := by
  have happly := applyShrinkWorkspaceUpdate_eq_ok h
  cases change with
  | none => exact absurd rfl hchange
  | stopping => exact .inl (by rw [happly.2])
  | stopped => exact .inr (.inl (by rw [happly.2]))
  | switch => exact .inr (.inl (by rw [(Prod.mk.inj happly.2.2).1]))
  | rollback => exact .inr (.inl (by rw [(Prod.mk.inj happly).1]))
  | resume => exact .inr (.inr (by rw [happly.2]))

/-- A save keeps the invariant: the operation was active, and so was no other one. -/
theorem ShrinkInvariant.saved (h : ShrinkInvariant db) {change : ShrinkWorkspaceUpdate}
    {saved : ShrinkRow}
    (hsaved : Saved db operation change row document workspace saved db') :
    ShrinkInvariant db' := by
  have hsole : ∀ r ∈ db.shrinks.rows, r.workspaceId = saved.workspaceId → r.active = true →
      r = saved :=
    fun r hr heq hactive => h.unique r hr saved hsaved.mem heq hactive hsaved.active
  have halive : db'.Alive saved.workspaceId := by
    rw [hsaved.workspaceId]
    rcases hsaved.find_eq with ⟨-, hsame⟩ | ⟨workspace', document', hchange, happly, hwritten⟩
    · exact (hsaved.workspaceId ▸ h.alive saved hsaved.mem hsaved.active).of_find_eq (hsame _)
    · have hstate := state_of_applyShrinkWorkspaceUpdate hchange happly
      refine .of_find ((hwritten _).trans (if_pos rfl)) rfl ?_ ?_ <;>
        rcases hstate with hs | hs | hs <;> simp [hs]
  refine h.of_write hsaved.mem hsaved.shrinks_eq ⟨hsaved.id.symm, hsaved.workspaceId.symm, rfl⟩ rfl
    (fun _ => hsole) (fun _ => halive) ?_
  intro r hr hne hactive
  refine (h.alive r hr hactive).of_find_eq ?_
  rcases hsaved.find_eq with ⟨-, hsame⟩ | ⟨_, _, -, -, hwritten⟩
  · exact hsame _
  · rw [hwritten, if_neg]
    exact fun heq => hne (hsole r hr (heq.trans hsaved.workspaceId.symm) hactive)

/-- A workspace that is being deleted has no active operation. -/
theorem ShrinkInvariant.idle_of_deleting (h : ShrinkInvariant db)
    (hfound : db.workspaces.find workspaceId = some row) (hdecodes : Decodes row document workspace)
    (hdeleting : workspace.state = .deleting) : db.Idle workspaceId := by
  intro r hr heq
  by_contra hactive
  obtain ⟨row', hrow', hstate, -⟩ := h.alive r hr (by simpa using hactive)
  rw [heq, hfound] at hrow'
  obtain rfl := Option.some_inj.1 hrow'
  exact hstate (by rw [hdecodes.state, hdeleting])

/-- An observation keeps the invariant: it never asks for a deletion, and confirms one only of a
workspace that has no active operation. -/
theorem ShrinkInvariant.observed (h : ShrinkInvariant db) {observation now next generation}
    (hobserved : Transitioned db workspaceId (.observation observation) now row document workspace
      next generation db') : ShrinkInvariant db' := by
  have hnext := mapError_eq_ok.1 hobserved.state
  by_cases hdeleted : observation = .deleted
  · subst hdeleted
    -- the workspace is `deleting`, so none of its operations is active
    have hdeleting : workspace.state = .deleting := by
      cases hworkspace : workspace.state <;>
        simp [hworkspace, WorkspaceState.observe] at hnext ⊢
    have hidle : db.Idle workspaceId :=
      h.idle_of_deleting hobserved.found hobserved.decodes hdeleting
    have hshrinks : ∀ r ∈ db'.shrinks.rows, r ∈ db.shrinks.rows :=
      fun r hr => hobserved.mem_shrinks hr
    refine ⟨fun r hr => h.agrees r (hshrinks r hr), fun r hr other hother => h.unique r
      (hshrinks r hr) other (hshrinks other hother), fun r hr hactive => ?_⟩
    refine (h.alive r (hshrinks r hr) hactive).of_find_eq ?_
    rw [hobserved.find_eq_deleted, if_neg]
    intro heq
    rw [hidle r (hshrinks r hr) heq] at hactive
    cases hactive
  · have hkept : (StoredTransition.observation observation).confirmsDeletion = false := by
      simpa [StoredTransition.confirmsDeletion] using hdeleted
    refine h.of_shrinks_eq ?_ ?_
    · rw [hobserved.result]
      simp [hkept, Database.writeWorkspace]
    · intro r hr hactive
      by_cases heq : r.workspaceId = workspaceId
      · have hself := hobserved.find_eq hkept r.workspaceId
        rw [if_pos heq] at hself
        refine .of_find hself rfl (WorkspaceState.observe_ne_deleting hnext) ?_
        rintro rfl
        -- only a workspace that is `deleting` can be found `deleted`
        have hdeleting := WorkspaceState.eq_deleting_of_observe_deleted hnext
        obtain ⟨row', hrow', hstate, -⟩ := h.alive r hr hactive
        rw [heq, hobserved.found] at hrow'
        obtain rfl := Option.some_inj.1 hrow'
        exact hstate (by rw [hobserved.decodes.state, hdeleting])
      · refine (h.alive r hr hactive).of_find_eq ?_
        rw [hobserved.find_eq hkept, if_neg heq]

/-- **Every transaction keeps the invariant.** -/
theorem ShrinkInvariant.writes (h : ShrinkInvariant db) {call : StoreCall}
    (hwrites : call.Writes db db') : ShrinkInvariant db' := by
  cases hwrites with
  | nothing => exact h
  | acquired | released | queued => exact h.of_shrinks_eq rfl h.alive
  | created hcreated =>
    refine h.of_shrinks_eq (by rw [hcreated.result]) fun row hrow hactive => ?_
    obtain ⟨found, hfound, -⟩ := h.alive row hrow hactive
    refine (h.alive row hrow hactive).of_find_eq ?_
    rw [hcreated.find_eq, if_neg]
    intro heq
    rw [heq, hcreated.find_self] at hfound
    cases hfound
  | acted hacted =>
    refine h.of_idle (hacted.idle rfl) (by rw [hacted.result]; rfl) fun other hne => ?_
    rw [hacted.find_eq rfl, if_neg hne]
  | observed hobserved => exact h.observed hobserved
  | failed hfailed => exact h.observed hfailed
  | updated _ hcommitted =>
    refine h.of_idle hcommitted.idle (by rw [hcommitted.result]; rfl) fun other hne => ?_
    rw [hcommitted.find_eq, if_neg hne]
  | started hstarted => exact h.started hstarted
  | confirmed hactivated hlatest hconfirmable =>
    obtain ⟨old, hold, rfl, hid, hworkspace⟩ := h.latest hlatest
    obtain ⟨-, -, hstate⟩ := StorageShrinkOperation.of_confirmable hconfirmable
    exact h.activated hactivated hold hid hworkspace rfl
      ((h.agrees old hold).workspaceId.trans hworkspace) rfl hstate
  | retried hactivated hlatest hretryable =>
    obtain ⟨hmem, hworkspace, -⟩ := Database.mem_latestShrink hlatest
    obtain ⟨hstored, hid, -⟩ := validateRetryOperation_eq_ok hretryable.operation
    exact h.activated hactivated hmem hstored hworkspace hid
      ((h.agrees _ hmem).workspaceId.trans hworkspace) rfl
      (.inl hretryable.ready)
  | saved hsaved => exact h.saved hsaved
  | @cleaned operation saved home temporary db' hcleaned =>
    have hagrees := h.agrees saved hcleaned.mem
    have hworkspaces : db'.workspaces = db.workspaces := by
      rw [hcleaned.result]
      rfl
    refine h.of_write hcleaned.mem hcleaned.shrinks_eq
      ⟨hagrees.id, hagrees.workspaceId, hagrees.active⟩ rfl ?_ ?_
      fun row hrow _ hactive => (h.alive row hrow hactive).of_find_eq (by rw [hworkspaces])
    all_goals
      intro hactive
      rw [hcleaned.inactive] at hactive
      cases hactive

end Invariant

/-! ### Intents -/

/-- The transactions on a workspace that the guard is for: actions, updates of settings, and what
makes an operation active. -/
def StoreCall.Intends (workspaceId : Uuid) : StoreCall → Prop
  | act _ id .. => id = workspaceId
  | update _ id .. => id = workspaceId
  | enqueueShrink _ _ id .. => id = workspaceId
  | confirmShrink _ id .. => id = workspaceId
  | retryShrink _ id .. => id = workspaceId
  | _ => False

/-- An intent commits only when no operation of the workspace is active. -/
theorem StoreCall.Writes.eq_or_idle {db db' : Database} {call : StoreCall} {workspaceId : Uuid}
    (h : call.Writes db db') (hcall : call.Intends workspaceId) :
    db' = db ∨ db.Idle workspaceId := by
  cases h with
  | nothing => exact .inl rfl
  | acted h => exact .inr (hcall ▸ h.idle rfl)
  | updated _ h | started h | confirmed h | retried h => exact .inr (hcall ▸ h.idle)
  | _ => exact hcall.elim

/-- **While a storage operation is active it has its workspace for itself.**  After every
interleaving of transactions, whichever processes make them, a workspace has at most one active
operation; while it has one the workspace is not being deleted, and no action, update or request
for another operation changes anything. -/
theorem active_shrink_excludes {db₀ db : Database} {steps : List StoreStep}
    (hstart : db₀.shrinks.rows = []) (hrun : StoreRun db₀ steps db) (workspaceId : Uuid) :
    (∀ row ∈ db.shrinks.rows, ∀ other ∈ db.shrinks.rows,
      row.workspaceId = workspaceId → other.workspaceId = workspaceId →
      row.operation.phase.active = true → other.operation.phase.active = true → row = other) ∧
    ∀ row ∈ db.shrinks.rows, row.workspaceId = workspaceId →
      row.operation.phase.active = true →
      db.Alive workspaceId ∧
        ∀ (call : StoreCall) (response : call.Response) (db' : Database),
          call.Intends workspaceId → call.Performs db response db' → db' = db := by
  have hinvariant : ShrinkInvariant db :=
    hrun.invariant (fun _ _ _ h hwrites => h.writes hwrites) (.of_no_shrinks hstart)
  have hactive : ∀ row ∈ db.shrinks.rows, row.operation.phase.active = true →
      row.active = true := fun row hrow h => (hinvariant.agrees row hrow).active.trans h
  refine ⟨?_, ?_⟩
  · intro row hrow other hother hw hw' hphase hphase'
    exact hinvariant.unique row hrow other hother (hw.trans hw'.symm) (hactive row hrow hphase)
      (hactive other hother hphase')
  · intro row hrow hw hphase
    have hrow' := hactive row hrow hphase
    refine ⟨hw ▸ hinvariant.alive row hrow hrow', fun call response db' hcall hperforms => ?_⟩
    rcases hperforms.writes.eq_or_idle hcall with heq | hidle
    · exact heq
    · rw [hidle row hrow hw] at hrow'
      cases hrow'

/-- A stopped workspace with a queued operation cannot be deleted. -/
theorem active_shrink_excludes_delete :
    (StoreCall.act sampleJobId sampleWorkspaceId .delete 20).after
        ((sampleEnqueue false 10).after (sampleDatabase .stopped)) =
      (sampleEnqueue false 10).after (sampleDatabase .stopped) := by
  have hrun : StoreRun (sampleDatabase .stopped) [⟨sampleEnqueue false 10, _⟩]
      ((sampleEnqueue false 10).after (sampleDatabase .stopped)) :=
    .cons _ (.executed fun _ => false) (.nil _)
  obtain ⟨-, hexcludes⟩ := active_shrink_excludes rfl hrun sampleWorkspaceId
  have hactive : ((sampleEnqueue false 10).after (sampleDatabase .stopped)).shrinks.rows.any
      (fun row => row.workspaceId = sampleWorkspaceId && row.operation.phase.active) = true := by
    decide +kernel
  obtain ⟨row, hrow, hmatch⟩ := List.any_eq_true.1 hactive
  simp only [Bool.and_eq_true, decide_eq_true_eq] at hmatch
  exact (hexcludes row hrow hmatch.1 hmatch.2).2 (.act sampleJobId sampleWorkspaceId .delete 20) _
    _ rfl (.executed fun _ => false)

end WorkspaceControl
