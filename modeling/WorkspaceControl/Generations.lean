/-
**Generations: no intent is overwritten by an older observation.**

Every intent takes the next generation of its workspace.  An observation, and the report of a
failure, names the generation it was made at; its transaction compares the two and drops the
report when an intent has come in between.

Main definitions:

* `StoreCall.Changes` — the transactions that are intents of a workspace.

Main results:

* `StoreCall.Writes.generation_lt` — a committed intent takes the next generation;
* `StoreRun.generation_le` — no transaction takes a generation back;
* `stale_reports_are_dropped` — **an observation or a failure changes nothing once an intent has
  committed after the generation it was made at**.
-/

import WorkspaceControl.Effects
import WorkspaceControl.ReconcileHandler

set_option autoImplicit false

namespace WorkspaceControl

open Fallible Relational Interaction Routine

/-! ### Intents -/

/-- The intents of a workspace: actions, updates of settings, requests for a storage operation,
and what a storage operation itself wants of the workspace. -/
def StoreCall.Changes (workspaceId : Uuid) : StoreCall → Prop
  | act _ id .. => id = workspaceId
  | update _ id .. => id = workspaceId
  | enqueueShrink _ _ id .. => id = workspaceId
  | confirmShrink _ id .. => id = workspaceId
  | retryShrink _ id .. => id = workspaceId
  | saveShrink operation change => operation.workspaceId = workspaceId ∧ change ≠ .none
  | _ => False

variable {call : StoreCall} {db db' : Database} {row' : WorkspaceRow} {workspaceId : Uuid}

/-- **A committed intent takes the next generation.** -/
theorem StoreCall.Writes.generation_lt (h : call.Writes db db') (hcall : call.Changes workspaceId)
    (hcommitted : db' ≠ db) :
    ∃ row row', db.workspaces.find workspaceId = some row ∧
      db'.workspaces.find workspaceId = some row' ∧ row.generation < row'.generation := by
  cases h with
  | nothing => exact absurd rfl hcommitted
  | acted h =>
    obtain rfl : _ = workspaceId := hcall
    refine ⟨_, _, h.found, (h.find_eq rfl _).trans (if_pos rfl), ?_⟩
    have hgeneration := h.generation
    simp only [StoredTransition.enqueuesReconcile, if_true] at hgeneration
    rw [h.decodes.generation, hgeneration]
    simp [WorkspaceRow.transition]
  | updated _ h =>
    obtain rfl : _ = workspaceId := hcall
    refine ⟨_, _, h.found, (h.find_eq _).trans (if_pos rfl), ?_⟩
    rw [h.decodes.generation]
    exact lt_add_one _
  | started h | confirmed h | retried h =>
    obtain rfl : _ = workspaceId := hcall
    exact ⟨_, _, h.found, (h.find_eq _).trans (if_pos rfl), lt_add_one _⟩
  | saved h =>
    obtain ⟨rfl, hchange⟩ := hcall
    rcases h.find_eq with ⟨hnone, -⟩ | ⟨_, _, -, -, hwritten⟩
    · exact absurd hnone hchange
    · exact ⟨_, _, h.found, (hwritten _).trans (if_pos rfl), lt_add_one _⟩
  | _ => exact hcall.elim

/-! ### Runs -/

/-- No workspace is created under the identifier. -/
def StoreStep.Spares (workspaceId : Uuid) (step : StoreStep) : Prop :=
  ∀ jobId command options, step.call ≠ .create workspaceId jobId command options

/-- No transaction takes a generation back. -/
theorem RowWrites.generation_le {before after : Option WorkspaceRow}
    (h : RowWrites workspaceId call before after) (hafter : after = some row')
    (hspares : ∀ jobId command options, call ≠ .create workspaceId jobId command options) :
    ∃ row, before = some row ∧ row.generation ≤ row'.generation := by
  cases h with
  | same => exact ⟨row', hafter, le_rfl⟩
  | created => exact absurd rfl (hspares _ _ _)
  | acted hdecodes | updated hdecodes =>
    obtain rfl := Option.some_inj.1 hafter
    refine ⟨_, rfl, ?_⟩
    rw [hdecodes.generation]
    exact (lt_add_one _).le
  | observed hdecodes _ _ _ =>
    obtain rfl := Option.some_inj.1 hafter
    exact ⟨_, rfl, hdecodes.generation.le⟩
  | deleted => cases hafter
  | dispatched | saved =>
    obtain rfl := Option.some_inj.1 hafter
    exact ⟨_, rfl, (lt_add_one _).le⟩

/-- A workspace that is there at the end of a run was there at its start, with a generation that
is no later. -/
theorem StoreRun.generation_le {steps : List StoreStep} (hrun : StoreRun db steps db')
    (hspares : ∀ step ∈ steps, step.Spares workspaceId)
    (hfind : db'.workspaces.find workspaceId = some row') :
    ∃ row, db.workspaces.find workspaceId = some row ∧ row.generation ≤ row'.generation := by
  induction hrun with
  | nil db => exact ⟨row', hfind, le_rfl⟩
  | cons step hstep hrest ih =>
    obtain ⟨row₁, hfind₁, hle₁⟩ := ih (fun s hs => hspares s (List.mem_cons_of_mem _ hs)) hfind
    obtain ⟨row, hrow, hle⟩ := (hstep.writes.row workspaceId).generation_le hfind₁
      (hspares step List.mem_cons_self)
    exact ⟨row, hrow, hle.trans hle₁⟩

/-! ### Reports -/

/-- A report that writes anything was made at the present generation. -/
theorem StoreCall.Writes.eq_or_generation {generation : ℕ} {observation : WorkspaceObservation}
    {now : ℤ} (h : call.Writes db db')
    (hcall : call.Reports workspaceId generation observation now) :
    db' = db ∨ ∃ row, db.workspaces.find workspaceId = some row ∧ row.generation = generation := by
  rcases hcall with rfl | ⟨-, rfl⟩
  · cases h with
    | nothing => exact .inl rfl
    | observed h => exact .inr ⟨_, h.found, h.decodes.generation⟩
  · cases h with
    | nothing => exact .inl rfl
    | failed h => exact .inr ⟨_, h.found, h.decodes.generation⟩

/-- **No intent is overwritten by an older observation.**  Whatever the processes do:

* a committed intent takes a later generation;
* an observation or a failure that names the generation a workspace had when it was read changes
  nothing, once an intent of the workspace has committed since;
* the reconciler names the generation of the workspace it has read, and the report of a terminal
  failure the generation its job was made for.

Identifiers are not used twice: no step creates the workspace anew. -/
theorem stale_reports_are_dropped (workspaceId : Uuid) :
    (∀ (db db' : Database) (call : StoreCall) (response : call.Response),
      call.Changes workspaceId → call.Performs db response db' → db' ≠ db →
      ∃ row row', db.workspaces.find workspaceId = some row ∧
        db'.workspaces.find workspaceId = some row' ∧ row.generation < row'.generation) ∧
    (∀ (db₀ db₁ db₂ db₃ db₄ : Database) (before after : List StoreStep) (row : WorkspaceRow)
      (generation : ℕ) (intent : StoreStep) (report : StoreStep)
      (observation : WorkspaceObservation) (now : ℤ),
      db₀.workspaces.find workspaceId = some row → row.generation = generation →
      StoreRun db₀ before db₁ → (∀ step ∈ before, step.Spares workspaceId) →
      intent.call.Changes workspaceId → intent.call.Performs db₁ intent.response db₂ → db₂ ≠ db₁ →
      StoreRun db₂ after db₃ → (∀ step ∈ after, step.Spares workspaceId) →
      report.call.Reports workspaceId generation observation now →
      report.call.Performs db₃ report.response db₄ → db₄ = db₃) ∧
    (∀ (workspace : Workspace) (job : ClaimedJob) (now : ℤ),
      Yields (ReconcilerCall workspace) (Checkpoints job) (reconcileWorkspace workspace job) ∧
      Yields (fun c => ∃ id generation, job.workspaceId = some id ∧
          (job.payload.get "generation").bind JsonValue.asU64 = some generation ∧
          c = Call.store (.markFailed id generation now)) (fun _ => True)
        (reconcileTerminalFailure job now)) := by
  refine ⟨?_, ?_, ?_⟩
  · intro db db' call response hcall hperforms hne
    exact hperforms.writes.generation_lt hcall hne
  · intro db₀ db₁ db₂ db₃ db₄ before after row generation intent report observation now hrow
      hgeneration hbefore hspares hintent hcommits hne hafter hspares' hreport hreported
    obtain ⟨row₁, row₂, hrow₁, hrow₂, hlt⟩ := hcommits.writes.generation_lt hintent hne
    rcases hreported.writes.eq_or_generation hreport with heq | ⟨row₃, hrow₃, heq⟩
    · exact heq
    · -- the generation of the report would have to be both old and present
      obtain ⟨row₀, hrow₀, hle₀⟩ := hbefore.generation_le hspares hrow₁
      obtain ⟨row₂', hrow₂', hle₂⟩ := hafter.generation_le hspares' hrow₃
      obtain rfl := Option.some_inj.1 (hrow.symm.trans hrow₀)
      obtain rfl := Option.some_inj.1 (hrow₂.symm.trans hrow₂')
      omega
  · intro workspace job now
    refine ⟨reconcileWorkspace_yields workspace job, reconcileTerminalFailure_yields ?_⟩
    intro id generation hid hgeneration
    exact ⟨id, generation, hid, hgeneration, rfl⟩

/-- A workspace is read while it is ready; its user stops it; that it was not ready is reported
too late. -/
theorem stale_reports_are_dropped_after_stop :
    (StoreCall.observe sampleWorkspaceId 1 .notReady 30).after
        ((StoreCall.act sampleJobId sampleWorkspaceId .stop 20).after (sampleDatabase .ready)) =
      (StoreCall.act sampleJobId sampleWorkspaceId .stop 20).after (sampleDatabase .ready) := by
  have hstops : ((StoreCall.act sampleJobId sampleWorkspaceId .stop 20).after
      (sampleDatabase .ready)).jobs.rows.length = 1 := by
    decide +kernel
  refine (stale_reports_are_dropped sampleWorkspaceId).2.1 (sampleDatabase .ready) _ _ _ _ [] []
    (sampleRow .ready) 1 ⟨.act sampleJobId sampleWorkspaceId .stop 20, _⟩
    ⟨.observe sampleWorkspaceId 1 .notReady 30, _⟩ .notReady 30 rfl rfl (.nil _)
    (fun _ h => nomatch h) rfl (.executed fun _ => false) ?_ (.nil _) (fun _ h => nomatch h)
    (.inl rfl) (.executed fun _ => false)
  intro hsame
  rw [show (StoreCall.act sampleJobId sampleWorkspaceId .stop 20).after (sampleDatabase .ready) =
    sampleDatabase .ready from hsame] at hstops
  cases hstops

end WorkspaceControl
