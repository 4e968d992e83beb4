/-
**What transactions do to the row of a workspace.**

A transaction is about one workspace.  This module reads off `StoreCall.Writes` what happens to the
row of each workspace, so that facts about rows can be shown without looking at tables.

Main definitions:

* `StoreCall.Concerns` — the calls that name a workspace;
* `RowWrites` — what a call may do to the row of a workspace.

Main results:

* `StoreCall.Writes.row` — **every transaction does to every row what `RowWrites` says**.
-/

import WorkspaceControl.Calls

set_option autoImplicit false

namespace WorkspaceControl

open Fallible MachineInt Relational

/-- The calls that make an operation of a workspace active. -/
def StoreCall.Dispatches (workspaceId : Uuid) : StoreCall → Prop
  | enqueueShrink _ _ id .. => id = workspaceId
  | confirmShrink _ id .. => id = workspaceId
  | retryShrink _ id .. => id = workspaceId
  | _ => False

/-- The calls that report an observation of a workspace which was made at a generation. -/
def StoreCall.Reports (workspaceId : Uuid) (generation : ℕ) (observation : WorkspaceObservation)
    (now : ℤ) (call : StoreCall) : Prop :=
  call = .observe workspaceId generation observation now ∨
    observation = .failed ∧ call = .markFailed workspaceId generation now

/-- **What a call may do to the row of a workspace**: the row before and after. -/
inductive RowWrites (workspaceId : Uuid) :
    StoreCall → Option WorkspaceRow → Option WorkspaceRow → Prop
  | same (call : StoreCall) (row : Option WorkspaceRow) : RowWrites workspaceId call row row
  | created {jobId command options row document workspace}
      (hdecodes : Decodes row document workspace) (hmirrors : MirrorsSnapshot row document)
      (hstate : workspace.state = .provisioning)
      (hunbound : workspace.scratchVolumeBinding = none) :
      RowWrites workspaceId (.create workspaceId jobId command options) none (some row)
  | acted {jobId action now row document workspace next} (hdecodes : Decodes row document workspace)
      (hnext : workspace.state.request action = .ok next) :
      RowWrites workspaceId (.act jobId workspaceId action now) (some row)
        (some (row.transition next (workspace.generation + 1) now))
  | observed {call observation now row document workspace next}
      (hdecodes : Decodes row document workspace)
      (hcall : call.Reports workspaceId workspace.generation observation now)
      (hnext : workspace.state.observe observation = .ok next) (hkept : observation ≠ .deleted) :
      RowWrites workspaceId call (some row)
        (some (row.transition next workspace.generation now))
  | deleted {now row document workspace} (hdecodes : Decodes row document workspace)
      (hstate : workspace.state = .deleting) :
      RowWrites workspaceId (.observe workspaceId workspace.generation .deleted now) (some row) none
  | updated {jobId now setting} {edit : WorkspaceEdit} {row document workspace}
      (hdecodes : Decodes row document workspace) (hprepares : setting.Prepares workspace edit)
      (hvalid : (edit.document document).validate = .ok ())
      (hsize : ∀ size ∈ edit.size, (size : ℤ) ≤ I64.max) :
      RowWrites workspaceId (.update jobId workspaceId workspace.generation now setting) (some row)
        (some (edit.row (.document (edit.document document)) (workspace.generation + 1) now row))
  | dispatched {call now row document workspace}
      (hdecodes : Decodes row document workspace) (hcall : call.Dispatches workspaceId) :
      RowWrites workspaceId call (some row) (some (row.bumpGeneration now))
  | saved {operation change row document document' workspace workspace'}
      (hid : operation.workspaceId = workspaceId)
      (hdecodes : Decodes row document workspace) (hchange : change ≠ .none)
      (happly : applyShrinkWorkspaceUpdate workspace document operation change =
        .ok (workspace', document')) :
      RowWrites workspaceId (.saveShrink operation change) (some row)
        (some (row.shrunk workspace' document' operation.updatedAt))

/-- The calls that name a workspace and may write its row. -/
def StoreCall.Concerns (workspaceId : Uuid) : StoreCall → Prop
  | create id .. => id = workspaceId
  | act _ id .. => id = workspaceId
  | observe id .. => id = workspaceId
  | markFailed id .. => id = workspaceId
  | update _ id .. => id = workspaceId
  | enqueueShrink _ _ id .. => id = workspaceId
  | confirmShrink _ id .. => id = workspaceId
  | retryShrink _ id .. => id = workspaceId
  | saveShrink operation _ => operation.workspaceId = workspaceId
  | _ => False

variable {call : StoreCall} {workspaceId : Uuid}

theorem StoreCall.Dispatches.concerns (h : call.Dispatches workspaceId) :
    call.Concerns workspaceId := by
  cases call with
  | enqueueShrink | confirmShrink | retryShrink => exact h
  | _ => exact h.elim

theorem RowWrites.eq_of_not_concerns {before after : Option WorkspaceRow}
    (h : RowWrites workspaceId call before after) (hcall : ¬ call.Concerns workspaceId) :
    after = before := by
  cases h with
  | same => rfl
  | observed _ hreports =>
    rcases hreports with rfl | ⟨-, rfl⟩
    · exact absurd rfl hcall
    · exact absurd rfl hcall
  | dispatched _ hdispatches => exact absurd hdispatches.concerns hcall
  | saved hid => exact absurd hid hcall
  | _ => exact absurd rfl hcall

/-! ### One lemma for each kind of transaction -/

section Kinds

variable {db db' : Database} {workspaceId : Uuid} {row : WorkspaceRow}
  {document : WorkspaceTemplateDocument} {workspace : Workspace} {now : ℤ}

theorem Created.find_eq (h : Created db workspaceId row document workspace db') (other : Uuid) :
    db'.workspaces.find other = if other = workspaceId then some row
      else db.workspaces.find other := by
  cases hfind : db'.workspaces.find other with
  | none =>
    have hnone := Table.find_eq_none.1 hfind
    simp only [h.rows, List.mem_append, List.mem_singleton] at hnone
    rw [if_neg fun heq => hnone row (.inr rfl) (h.id.trans heq.symm)]
    exact (Table.find_eq_none.2 fun r hr => hnone r (.inl hr)).symm
  | some found =>
    obtain ⟨hmem, rfl⟩ := Table.find_eq_some.1 hfind
    simp only [h.rows, List.mem_append, List.mem_singleton] at hmem
    rcases hmem with hmem | rfl
    · rw [if_neg (h.new found hmem), Table.find_key_of_mem hmem]
    · rw [if_pos h.id]

theorem Created.find_self (h : Created db workspaceId row document workspace db') :
    db.workspaces.find workspaceId = none :=
  Table.find_eq_none.2 h.new

/-- The rows after one row was written. -/
theorem find_of_written {f : WorkspaceRow → WorkspaceRow} (hf : ∀ row, (f row).id = row.id)
    (hfound : db.workspaces.find workspaceId = some row)
    (hresult : db'.workspaces = (db.writeWorkspace workspaceId f hf).workspaces) (other : Uuid) :
    db'.workspaces.find other = if other = workspaceId then some (f row)
      else db.workspaces.find other := by
  rw [hresult, Database.find_writeWorkspace]
  split
  · rename_i heq
    rw [heq, hfound]
    rfl
  · rfl

variable {call : StoreCall} {generation : ℕ} {jobId operationId : Uuid} {next : WorkspaceState}
  {operation : StorageShrinkOperation} {saved : ShrinkRow} {transition : StoredTransition}

/-- A transaction that writes one row does to every row what it does to that one, or nothing. -/
theorem rowWrites_of_find_eq {written : Option WorkspaceRow}
    (hfound : db.workspaces.find workspaceId = some row)
    (hfind : ∀ other, db'.workspaces.find other = if other = workspaceId then written
      else db.workspaces.find other)
    (hself : RowWrites workspaceId call (some row) written) (other : Uuid) :
    RowWrites other call (db.workspaces.find other) (db'.workspaces.find other) := by
  rw [hfind]
  split
  · rename_i heq
    rw [heq, hfound]
    exact hself
  · exact .same _ _

theorem Committed.find_eq {edit : WorkspaceEdit}
    (h : Committed db workspaceId edit now row document workspace db') (other : Uuid) :
    db'.workspaces.find other = if other = workspaceId then
        some (edit.row (.document (edit.document document)) (workspace.generation + 1) now row)
      else db.workspaces.find other := by
  refine find_of_written (f := edit.row _ _ now) edit.id_columns h.found ?_ other
  rw [h.result]

theorem Started.find_eq {request : StorageShrinkRequest}
    {actorUserId : Uuid} (h : Started db operationId jobId workspaceId request actorUserId now row
      document workspace db') (other : Uuid) :
    db'.workspaces.find other = if other = workspaceId then some (row.bumpGeneration now)
      else db.workspaces.find other := by
  exact find_of_written (f := .bumpGeneration now) (fun _ => rfl) h.found (by rw [h.result]) other

theorem Activated.find_eq
    (h : Activated db jobId workspaceId operationId operation now row document workspace db')
    (other : Uuid) :
    db'.workspaces.find other = if other = workspaceId then some (row.bumpGeneration now)
      else db.workspaces.find other := by
  refine find_of_written (f := .bumpGeneration now) (fun _ => rfl) h.found ?_ other
  rw [h.result]
  rfl

/-- The rows after a transition that does not confirm a deletion. -/
theorem Transitioned.find_eq
    (h : Transitioned db workspaceId transition now row document workspace next generation db')
    (hkept : transition.confirmsDeletion = false) (other : Uuid) :
    db'.workspaces.find other = if other = workspaceId then
        some (row.transition next generation now)
      else db.workspaces.find other := by
  refine find_of_written (f := .transition next generation now) (fun _ => rfl) h.found ?_ other
  rw [h.result]
  simp [hkept]

/-- The rows after the confirmation of a deletion: the row is gone. -/
theorem Transitioned.find_eq_deleted
    (h : Transitioned db workspaceId (.observation .deleted) now row document workspace next
      generation db') (other : Uuid) :
    db'.workspaces.find other = if other = workspaceId then none
      else db.workspaces.find other := by
  have hnext : next = .deleted := by
    have hstate := mapError_eq_ok.1 h.state
    cases hworkspace : workspace.state <;>
      simp only [hworkspace, WorkspaceState.observe, reduceCtorEq] at hstate
    exact (Except.ok.inj hstate).symm
  let written : Database := db.writeWorkspace workspaceId
    (WorkspaceRow.transition next generation now) fun _ => rfl
  have hresult : db'.workspaces = written.workspaces.delete fun r =>
      r.id = workspaceId && r.state = WorkspaceState.deleted.asStr := by
    rw [h.result]
    rfl
  rw [hresult, Table.find_delete, find_of_written _ h.found (rfl : written.workspaces = _) other]
  split
  · rw [hnext]
    simp [WorkspaceRow.transition, (Table.find_eq_some.1 h.found).2]
  · rename_i hne
    cases hfind : db.workspaces.find other with
    | none => rfl
    | some r =>
      have hid : r.id ≠ workspaceId := (Table.find_eq_some.1 hfind).2 ▸ hne
      simp [hid]

/-- No transition adds an operation; the confirmation of a deletion removes those of the
workspace. -/
theorem Transitioned.mem_shrinks
    (h : Transitioned db workspaceId transition now row document workspace next generation db')
    (hsaved : saved ∈ db'.shrinks.rows) :
    saved ∈ db.shrinks.rows := by
  rw [h.result] at hsaved
  split at hsaved
  · exact (Table.mem_delete.1 hsaved).1
  · exact hsaved

/-- What an observation does to the rows. -/
theorem Transitioned.rowWrites_observation {observation : WorkspaceObservation}
    (h : Transitioned db workspaceId (.observation observation) now row document workspace next
      generation db') (hcall : call.Reports workspaceId workspace.generation observation now)
    (other : Uuid) :
    RowWrites other call (db.workspaces.find other) (db'.workspaces.find other) := by
  obtain rfl : generation = workspace.generation := h.generation
  by_cases hdeleted : observation = .deleted
  · subst hdeleted
    have hstate : workspace.state = .deleting := by
      have hnext := mapError_eq_ok.1 h.state
      cases hworkspace : workspace.state <;>
        simp [hworkspace, WorkspaceState.observe] at hnext ⊢
    rcases hcall with rfl | ⟨hfailed, -⟩
    · exact rowWrites_of_find_eq h.found h.find_eq_deleted (.deleted h.decodes hstate) other
    · cases hfailed
  · have hkept : (StoredTransition.observation observation).confirmsDeletion = false := by
      simpa [StoredTransition.confirmsDeletion] using hdeleted
    exact rowWrites_of_find_eq h.found (h.find_eq hkept)
      (.observed h.decodes hcall (mapError_eq_ok.1 h.state) hdeleted) other

/-- The rows after a save: none was written, or that of the workspace as the update says. -/
theorem Saved.find_eq {change : ShrinkWorkspaceUpdate}
    (h : Saved db operation change row document workspace saved db') :
    (change = .none ∧ ∀ other, db'.workspaces.find other = db.workspaces.find other) ∨
      ∃ workspace' document', change ≠ .none ∧
        applyShrinkWorkspaceUpdate workspace document operation change =
          .ok (workspace', document') ∧
        ∀ other, db'.workspaces.find other = if other = operation.workspaceId then
            some (row.shrunk workspace' document' operation.updatedAt)
          else db.workspaces.find other := by
  rcases h.updated with ⟨hnone, hsame⟩ | ⟨workspace', document', hchange, happly, hwritten⟩
  · exact .inl ⟨hnone, fun other => by rw [hsame]⟩
  · exact .inr ⟨workspace', document', hchange, happly,
      find_of_written (f := .shrunk workspace' document' _) (fun _ => rfl) h.found hwritten⟩

end Kinds

/-- **Every transaction does to every row what `RowWrites` says.** -/
theorem StoreCall.Writes.row {db db' : Database} (h : call.Writes db db') (other : Uuid) :
    RowWrites other call (db.workspaces.find other) (db'.workspaces.find other) := by
  cases h with
  | nothing | acquired | released | queued => exact .same _ _
  | cleaned h =>
    rw [h.result]
    exact .same _ _
  | created h =>
    rw [h.find_eq]
    split
    · rename_i heq
      rw [heq, h.find_self]
      exact .created h.decodes h.mirrors h.state h.unbound
    · exact .same _ _
  | acted h =>
    obtain rfl := h.generation
    exact rowWrites_of_find_eq h.found (h.find_eq rfl)
      (.acted h.decodes (mapError_eq_ok.1 h.state)) other
  | observed h => exact h.rowWrites_observation (.inl rfl) other
  | failed h => exact h.rowWrites_observation (.inr ⟨rfl, rfl⟩) other
  | updated hprepares h =>
    exact rowWrites_of_find_eq h.found h.find_eq (.updated h.decodes hprepares h.valid h.size)
      other
  | started h | confirmed h | retried h =>
    refine rowWrites_of_find_eq h.found h.find_eq (.dispatched h.decodes ?_) other
    rfl
  | saved h =>
    rcases h.find_eq with ⟨-, hsame⟩ | ⟨_, _, hchange, happly, hwritten⟩
    · rw [hsame]
      exact .same _ _
    · exact rowWrites_of_find_eq h.found hwritten (.saved rfl h.decodes hchange happly) other

end WorkspaceControl
