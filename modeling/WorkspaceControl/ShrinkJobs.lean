/-
**The jobs of the storage operations.**

An active storage operation blocks its workspace, so a job has to be there that advances it.  Which
operation a job advances is decided by the order of their creation, and a job that finds nothing to
do ends well.  Several jobs may name one operation, as the last failure of a job inserts another
one; of these the one that was inserted last is what an active operation can count on.

A run may end its job when the operation is not active, or when its job is not the last one for
the operation.  Either stays true whatever the others do: an operation that becomes active again
does so with a new job.

Main definitions:

* `Errand`, `lastJob`, `QueueMoves` — what a job is for, the last job for an operation, and how the
  queue moves on;
* `Attended` — active operations are the latest of their workspaces, and their last jobs are not
  finished;
* `Ages`, `Settled` — what every step does, and what allows a job to end;
* `Conditions.orderly` — requests come in the order of their times.

Main results:

* `Attended.foreign`, `Attended.saved` — every transaction keeps active operations attended;
* `Tends.settled`, `Tends.settled_of_exhausted` — a run that ends has settled its job;
* `active_shrinks_have_jobs` — **no active operation is left without a job**;
* `earlier_request_is_stuck` — unless a request is given an earlier time than an older one.
-/

import WorkspaceControl.Installation

set_option autoImplicit false

namespace WorkspaceControl

open Fallible MachineInt Relational Interaction Routine

/-! ### Jobs for an operation -/

/-- An operation, and its workspace. -/
structure JobTarget where
  operation : Uuid
  workspace : Uuid

def ShrinkRow.target (row : ShrinkRow) : JobTarget := ⟨row.id, row.workspaceId⟩

/-- What a job is for: its kind, its workspace, and the operations that its payload names. -/
structure Errand where
  kind : JobKind
  workspaceId : Option Uuid
  names : Uuid → Bool

/-- A job with this errand is for the operation. -/
def Errand.serves (errand : Errand) (target : JobTarget) : Bool :=
  errand.kind = .workspaceStorageShrink && errand.workspaceId = some target.workspace &&
    errand.names target.operation

theorem Errand.serves_iff {errand : Errand} {target : JobTarget} :
    errand.serves target = true ↔ errand.kind = .workspaceStorageShrink ∧
      errand.workspaceId = some target.workspace ∧ errand.names target.operation = true := by
  simp [Errand.serves, and_assoc]

def JobRow.errand (row : JobRow) : Errand :=
  ⟨row.kind, row.workspaceId, row.payload.namesOperation⟩

def ClaimedJob.errand (job : ClaimedJob) : Errand :=
  ⟨job.kind, job.workspaceId, job.payload.namesOperation⟩

/-- A job that is still to be run, or is being run. -/
def JobStatus.unfinished : JobStatus → Bool
  | pending | running => true
  | completed | failed => false

/-- The last job for an operation. -/
def lastJob (jobs : JobTable) (target : JobTarget) : Option JobRow :=
  jobs.last fun row => row.errand.serves target

/-! ### Payloads that name the same operations -/

variable {owner : String} {t : JobTransition} {jobId nonce operationId workspaceId : Uuid}
  {jobs jobs' jobs₁ : JobTable} {availableAt now : ℤ} {db db' : Database}

theorem Payload.namesOperation_eq {payload payload' : Payload}
    (h : payload.get "operation_id" = payload'.get "operation_id") :
    payload.namesOperation = payload'.namesOperation := by
  funext operationId
  rw [namesOperation, namesOperation, h]

theorem Payload.get_setIndex_of_ne {key other : String} (hne : other ≠ key) (payload : Payload)
    (value : JsonValue) : (payload.setIndex key value).get other = payload.get other := by
  match payload with
  | .other .null => simp [setIndex, get, List.lookup_cons, beq_eq_false_iff_ne.2 hne]
  | .object fields => exact Payload.get_insert_of_ne hne (.object fields) value
  | .other (.bool _) | .other (.int _) | .other (.str _) | .other (.raw _) => rfl

/-- What a park stores names what the job names. -/
theorem namesOperation_parkedPayload {payload : Payload} {generation : ℕ} {reconciledAt : Option ℤ}
    {t : ℤ} :
    (parkedPayload (checkpointPayload payload generation reconciledAt) t nonce).namesOperation =
      payload.namesOperation := by
  refine Payload.namesOperation_eq ?_
  rw [parkedPayload, Payload.get_insert_of_ne (by decide)]
  cases reconciledAt with
  | none => exact Payload.get_remove_of_ne (by decide) payload
  | some at' =>
    rw [checkpointPayload, Payload.get_setIndex_of_ne (by decide),
      Payload.get_setIndex_of_ne (by decide), Payload.get_remove_of_ne (by decide)]

/-- The transitions that leave the name of an operation alone. -/
def JobTransition.keepsNames : JobTransition → Bool
  | park .. => false
  | _ => true

theorem JobTransition.errand_apply (h : t.keepsNames = true) (row : JobRow) :
    (t.apply row).errand = row.errand := by
  cases t with
  | park => cases h
  | defer | deferWithoutAttempt =>
    exact congrArg (Errand.mk row.kind row.workspaceId)
      (Payload.namesOperation_eq (Payload.get_remove_of_ne (by decide) row.payload))
  | claim | renew | complete | fail | wake => rfl

/-- The transitions that do not end a job. -/
theorem JobTransition.unfinished_apply {row : JobRow} (hunfinished : row.status.unfinished = true) :
    (t.apply row).status.unfinished = true ∨ (∃ owner, t.event row = .completed owner) ∨
      ∃ owner, t.event row = .failed owner := by
  cases t with
  | complete owner => exact .inr (.inl ⟨owner, rfl⟩)
  | fail owner => exact .inr (.inr ⟨owner, rfl⟩)
  | renew | wake => exact .inl hunfinished
  | claim | defer | deferWithoutAttempt | park => exact .inl rfl

/-! ### The queue moves on -/

/-- **The queue grows older**: jobs stay for what they were for, and the last job for an operation
is the one from before, or a new one. -/
structure QueueAges (jobs jobs' : JobTable) : Prop where
  keeps : ∀ row ∈ jobs.rows, ∃ row' ∈ jobs'.rows, row'.id = row.id ∧ row'.errand = row.errand
  last : ∀ target job', lastJob jobs' target = some job' →
    (∃ job, lastJob jobs target = some job ∧ job.id = job'.id) ∨ ∀ row ∈ jobs.rows, row.id ≠ job'.id

/-- The last jobs do not end, except for some. -/
structure QueueMoves (ended : Uuid → Prop) (jobs jobs' : JobTable) : Prop
    extends QueueAges jobs jobs' where
  unfinished : ∀ target job, lastJob jobs target = some job → job.status.unfinished = true →
    ¬ ended job.id → ∃ job', lastJob jobs' target = some job' ∧ job'.status.unfinished = true

section Queue

variable {ended : Uuid → Prop}

theorem QueueAges.refl (jobs : JobTable) : QueueAges jobs jobs :=
  ⟨fun row hrow => ⟨row, hrow, rfl, rfl⟩, fun _ job' hlast => .inl ⟨job', hlast, rfl⟩⟩

variable {id : Uuid} {newJob : NewJob}

/-- What is new later is new now. -/
theorem QueueAges.fresh (h : QueueAges jobs jobs₁) (hfresh : ∀ row ∈ jobs₁.rows, row.id ≠ id) :
    ∀ row ∈ jobs.rows, row.id ≠ id := by
  intro row hrow heq
  obtain ⟨row', hrow', hid, -⟩ := h.keeps row hrow
  exact hfresh row' hrow' (hid.trans heq)

theorem QueueAges.trans (h : QueueAges jobs jobs₁) (h' : QueueAges jobs₁ jobs') :
    QueueAges jobs jobs' := by
  constructor
  · intro row hrow
    obtain ⟨row₁, hrow₁, hid₁, herrand₁⟩ := h.keeps row hrow
    obtain ⟨row', hrow', hid', herrand'⟩ := h'.keeps row₁ hrow₁
    exact ⟨row', hrow', hid'.trans hid₁, herrand'.trans herrand₁⟩
  · intro target job' hlast'
    rcases h'.last target job' hlast' with ⟨job₁, hlast₁, hid₁⟩ | hfresh
    · rw [← hid₁]
      exact h.last target job₁ hlast₁
    · exact .inr (h.fresh hfresh)

theorem QueueMoves.refl (jobs : JobTable) : QueueMoves ended jobs jobs :=
  ⟨.refl jobs, fun _ job hlast hunfinished _ => ⟨job, hlast, hunfinished⟩⟩

theorem QueueMoves.trans (h : QueueMoves (fun _ => False) jobs jobs₁)
    (h' : QueueMoves (fun _ => False) jobs₁ jobs') : QueueMoves (fun _ => False) jobs jobs' := by
  refine ⟨h.toQueueAges.trans h'.toQueueAges, fun target job hlast hunfinished hended => ?_⟩
  obtain ⟨job₁, hlast₁, hunfinished₁⟩ := h.unfinished target job hlast hunfinished hended
  exact h'.unfinished target job₁ hlast₁ hunfinished₁ id

/-- A new job is the last one for what it is for. -/
theorem lastJob_insert (hrows : jobs'.rows = jobs.rows ++ [newJobRow id newJob now])
    (target : JobTarget) :
    lastJob jobs' target = if (newJobRow id newJob now).errand.serves target then
      some (newJobRow id newJob now) else lastJob jobs target :=
  Table.last_of_append hrows

theorem QueueMoves.of_insert (hnew : ∀ row ∈ jobs.rows, row.id ≠ id)
    (hrows : jobs'.rows = jobs.rows ++ [newJobRow id newJob now]) :
    QueueMoves ended jobs jobs' := by
  refine ⟨⟨fun row hrow => ⟨row, ?_, rfl, rfl⟩, fun target job' hlast => ?_⟩,
    fun target job hlast hunfinished _ => ?_⟩
  · rw [hrows]
    exact List.mem_append_left _ hrow
  · rw [lastJob_insert hrows] at hlast
    split at hlast
    · obtain rfl := Option.some_inj.1 hlast
      exact .inr hnew
    · exact .inl ⟨job', hlast, rfl⟩
  · rw [lastJob_insert hrows]
    split
    · exact ⟨_, rfl, rfl⟩
    · exact ⟨job, hlast, hunfinished⟩

/-- A transition of one job that leaves alone what it is for. -/
theorem QueueMoves.of_write {row : JobRow} (hrow : row ∈ jobs.rows)
    (herrand : (t.apply row).errand = row.errand)
    (hends : row.status.unfinished = true → (t.apply row).status.unfinished = true ∨ ended row.id) :
    QueueMoves ended jobs (writeJob jobs row.id t) := by
  have hsole : ∀ r ∈ jobs.rows, r.id = row.id → r = row := fun r hr hid =>
    jobs.eq_of_key hr hrow hid
  have hlast : ∀ target, lastJob (writeJob jobs row.id t) target =
      (lastJob jobs target).map (Table.change (fun r => r.id = row.id) t.apply) := by
    intro target
    refine Table.last_update fun r hr hid => ?_
    rw [hsole r hr (by simpa using hid), herrand]
  have hid : ∀ r, (Table.change (fun r : JobRow => r.id = row.id) t.apply r).id = r.id :=
    Table.apply_change JobRow.id fun r _ => t.id_apply r
  refine ⟨⟨fun r hr => ⟨_, Table.mem_update.2 ⟨r, hr, rfl⟩, hid r, ?_⟩,
    fun target job' hjob' => ?_⟩, fun target job hjob hunfinished hended => ?_⟩
  · by_cases hwritten : r.id = row.id
    · obtain rfl := hsole r hr hwritten
      rw [Table.change_of_pos (by simp), herrand]
    · rw [Table.change_of_neg (by simpa using hwritten)]
  · rw [hlast] at hjob'
    obtain ⟨job, hjob, rfl⟩ := Option.map_eq_some_iff.1 hjob'
    exact .inl ⟨job, hjob, (hid job).symm⟩
  · rw [hlast, hjob]
    refine ⟨_, rfl, ?_⟩
    by_cases hwritten : job.id = row.id
    · obtain rfl := hsole job (Table.mem_last hjob).1 hwritten
      rw [Table.change_of_pos (by simp)]
      exact (hends hunfinished).resolve_right hended
    · rw [Table.change_of_neg (by simpa using hwritten)]
      exact hunfinished

/-- Calls that end and park no job move the queue on. -/
theorem Moves.queueMoves {accepts : NewJob → Prop} {events : List JobRecord}
    (h : Moves accepts jobs events jobs')
    (hparks : ∀ record ∈ events, ∀ owner nonce payload t, record.2 ≠ .parked owner nonce payload t)
    (hends : ∀ record ∈ events, ∀ owner, record.2 ≠ .completed owner ∧ record.2 ≠ .failed owner) :
    QueueMoves (fun _ => False) jobs jobs' := by
  induction h with
  | same jobs => exact .refl jobs
  | insert id newJob now _ hnew hrows _ ih => exact .trans (.of_insert hnew hrows) (ih hparks hends)
  | write row t hrow _ _ ih =>
    have hkeeps : t.keepsNames = true := by
      cases t with
      | park => exact absurd rfl (hparks _ List.mem_cons_self _ _ _ _)
      | _ => rfl
    refine .trans (.of_write hrow (t.errand_apply hkeeps row) fun hunfinished => .inl ?_)
      (ih (fun record hrecord => hparks record (List.mem_cons_of_mem _ hrecord))
        fun record hrecord => hends record (List.mem_cons_of_mem _ hrecord))
    rcases t.unfinished_apply hunfinished with hkept | ⟨owner, hevent⟩ | ⟨owner, hevent⟩
    · exact hkept
    · exact absurd hevent (hends _ List.mem_cons_self owner).1
    · exact absurd hevent (hends _ List.mem_cons_self owner).2

/-- A transition of a job by its holder. -/
theorem QueueMoves.of_updateHeld (h : updateHeld jobs jobId owner t = .ok jobs')
    (herrand : ∀ row ∈ jobs.rows, row.id = jobId → (t.apply row).errand = row.errand)
    (hends : ∀ row : JobRow, (t.apply row).status.unfinished = true ∨ ended jobId) :
    QueueMoves ended jobs jobs' := by
  obtain ⟨⟨row, hrow, rfl, -⟩, rfl⟩ := updateHeld_eq_ok.1 h
  exact .of_write hrow (herrand row hrow rfl) fun _ => hends row

end Queue

/-! ### Attended operations -/

/-- The order in which the latest operation of a workspace is found. -/
def ShrinkRow.rank (row : ShrinkRow) : ℤ ×ₗ Uuid := toLex (row.createdAt, row.id)

/-- **Active operations are attended**: each is the latest of its workspace, and its last job is
not finished. -/
structure Attended (db : Database) : Prop where
  invariant : ShrinkInvariant db
  latest : ∀ row ∈ db.shrinks.rows, row.active = true → ∀ other ∈ db.shrinks.rows,
    other.workspaceId = row.workspaceId → other.rank ≤ row.rank
  served : ∀ row ∈ db.shrinks.rows, row.active = true →
    ∃ job, lastJob db.jobs row.target = some job ∧ job.status.unfinished = true

/-- **What every step does**: the queue grows older, and an operation that becomes active does so
with a new job. -/
structure Ages (db db' : Database) : Prop where
  queue : QueueAges db.jobs db'.jobs
  active : ∀ row' ∈ db'.shrinks.rows, row'.active = true →
    (∃ row ∈ db.shrinks.rows, row.target = row'.target ∧ row.active = true) ∨
      ∀ job', lastJob db'.jobs row'.target = some job' → ∀ row ∈ db.jobs.rows, row.id ≠ job'.id

/-- The job is not what an active operation counts on. -/
def Settled (job : Uuid) (db : Database) : Prop :=
  ∀ row ∈ db.shrinks.rows, row.active = true →
    ∀ last, lastJob db.jobs row.target = some last → last.id ≠ job

section Steps

variable {db₁ : Database} {operation : StorageShrinkOperation} {row : WorkspaceRow}
  {document : WorkspaceTemplateDocument} {workspace : Workspace}

theorem Ages.refl (db : Database) : Ages db db :=
  ⟨.refl _, fun row hrow hactive => .inl ⟨row, hrow, rfl, hactive⟩⟩

/-- The last job for an operation that was new before is still new. -/
theorem QueueAges.fresh_last (h : QueueAges jobs jobs₁) (h' : QueueAges jobs₁ jobs')
    {target : JobTarget}
    (hfresh : ∀ job, lastJob jobs₁ target = some job → ∀ row ∈ jobs.rows, row.id ≠ job.id)
    {job' : JobRow} (hlast : lastJob jobs' target = some job') :
    ∀ row ∈ jobs.rows, row.id ≠ job'.id := by
  rcases h'.last target job' hlast with ⟨job, hjob, hid⟩ | hnew
  · rw [← hid]
    exact hfresh job hjob
  · exact h.fresh hnew

theorem Ages.trans (h : Ages db db₁) (h' : Ages db₁ db') : Ages db db' := by
  refine ⟨h.queue.trans h'.queue, fun row' hrow' hactive' => ?_⟩
  rcases h'.active row' hrow' hactive' with ⟨row₁, hrow₁, htarget₁, hactive₁⟩ | hfresh
  · rcases h.active row₁ hrow₁ hactive₁ with ⟨row, hrow, htarget, hactive⟩ | hfresh
    · exact .inl ⟨row, hrow, htarget.trans htarget₁, hactive⟩
    · rw [htarget₁] at hfresh
      exact .inr fun job' hlast => h.queue.fresh_last h'.queue hfresh hlast
  · exact .inr fun job' hlast => h.queue.fresh (hfresh job' hlast)

/-- **A settled job stays settled.** -/
theorem Settled.ages {job : Uuid} (h : Settled job db) (hpresent : ∃ row ∈ db.jobs.rows, row.id = job)
    (hages : Ages db db') : Settled job db' := by
  intro row' hrow' hactive' last' hlast' heq
  obtain ⟨row, hrow, hid⟩ := hpresent
  rcases hages.active row' hrow' hactive' with ⟨old, hold, htarget, hactive⟩ | hfresh
  · rw [← htarget] at hlast'
    rcases hages.queue.last _ last' hlast' with ⟨last, hlast, hsame⟩ | hfresh
    · exact h old hold hactive last hlast (hsame.trans heq)
    · exact hfresh row hrow (hid.trans heq.symm)
  · exact hfresh last' hlast' row hrow (hid.trans heq.symm)

/-- **The rule for a step**: what is active was active before or has a new job, and no job that is
counted on has ended. -/
theorem Attended.of_rows {ended : Uuid → Prop} (h : Attended db)
    (hqueue : QueueMoves ended db.jobs db'.jobs)
    (hended : ∀ job, ended job → Settled job db) (hinvariant : ShrinkInvariant db')
    (hlatest : ∀ row ∈ db'.shrinks.rows, row.active = true → ∀ other ∈ db'.shrinks.rows,
      other.workspaceId = row.workspaceId → other.rank ≤ row.rank)
    (hrows : ∀ row' ∈ db'.shrinks.rows, row'.active = true →
      (∃ row ∈ db.shrinks.rows, row.target = row'.target ∧ row.active = true) ∨
        ∃ job', lastJob db'.jobs row'.target = some job' ∧ job'.status.unfinished = true ∧
          ∀ row ∈ db.jobs.rows, row.id ≠ job'.id) : Attended db' ∧ Ages db db' := by
  refine ⟨⟨hinvariant, hlatest, fun row' hrow' hactive' => ?_⟩, hqueue.toQueueAges,
    fun row' hrow' hactive' => (hrows row' hrow' hactive').imp_right ?_⟩
  · rcases hrows row' hrow' hactive' with ⟨row, hrow, htarget, hactive⟩ | ⟨job', hlast, hjob, -⟩
    · obtain ⟨job, hlast, hunfinished⟩ := h.served row hrow hactive
      rw [← htarget]
      refine hqueue.unfinished _ job hlast hunfinished fun hjob => ?_
      exact hended job.id hjob row hrow hactive job hlast rfl
    · exact ⟨job', hlast, hjob⟩
  · rintro ⟨job', hlast, -, hfresh⟩ job'' hlast'
    obtain rfl := Option.some_inj.1 (hlast.symm.trans hlast')
    exact hfresh

/-- A row of an operation is a later version of another one. -/
structure ShrinkRow.Succeeds (row row' : ShrinkRow) : Prop where
  target : row.target = row'.target
  rank : row.rank = row'.rank
  active : row'.active = true → row.active = true

theorem Attended.of_succeeds {ended : Uuid → Prop} (h : Attended db)
    (hqueue : QueueMoves ended db.jobs db'.jobs) (hended : ∀ job, ended job → Settled job db)
    (hinvariant : ShrinkInvariant db')
    (hrows : ∀ row' ∈ db'.shrinks.rows, ∃ row ∈ db.shrinks.rows, row.Succeeds row') :
    Attended db' ∧ Ages db db' := by
  refine h.of_rows hqueue hended hinvariant ?_ fun row' hrow' hactive' => ?_
  · intro row' hrow' hactive' other' hother' hworkspace
    obtain ⟨row, hrow, hsucceeds⟩ := hrows row' hrow'
    obtain ⟨other, hother, hsucceeds'⟩ := hrows other' hother'
    rw [← hsucceeds.rank, ← hsucceeds'.rank]
    refine h.latest row hrow (hsucceeds.active hactive') other hother ?_
    exact (congrArg JobTarget.workspace hsucceeds'.target).trans
      (hworkspace.trans (congrArg JobTarget.workspace hsucceeds.target).symm)
  · obtain ⟨row, hrow, hsucceeds⟩ := hrows row' hrow'
    exact .inl ⟨row, hrow, hsucceeds.target, hsucceeds.active hactive'⟩

/-- An active operation is the one that is found. -/
theorem Attended.latestStorageShrink (h : Attended db) {row : ShrinkRow}
    (hrow : row ∈ db.shrinks.rows) (hactive : row.active = true) :
    db.latestStorageShrink row.workspaceId = some row.operation := by
  have hfound : db.latestShrink row.workspaceId = some row := by
    cases hlatest : db.latestShrink row.workspaceId with
    | none =>
      have hnone := Table.latest_eq_none.1 hlatest row hrow
      simp at hnone
    | some found =>
      obtain ⟨hmem, hworkspace, hgreatest⟩ := Database.mem_latestShrink hlatest
      have hrank : found.rank = row.rank :=
        le_antisymm (h.latest row hrow hactive found hmem hworkspace) (hgreatest row hrow rfl)
      have hid : found.id = row.id := congrArg (fun rank => (ofLex rank).2) hrank
      rw [db.shrinks.eq_of_key hmem hrow hid]
  rw [Database.latestStorageShrink, hfound, Option.map_some]

theorem ShrinkRow.Succeeds.refl (row : ShrinkRow) : row.Succeeds row :=
  ⟨rfl, rfl, fun hactive => hactive⟩

/-- A job for an operation is its last one when it is new. -/
theorem lastJob_of_enqueue {id : Uuid}
    (h : enqueueJob jobs id (shrinkJob workspaceId operationId availableAt) now = .ok jobs') :
    ∃ job', lastJob jobs' ⟨operationId, workspaceId⟩ = some job' ∧
      job'.status.unfinished = true ∧ ∀ row ∈ jobs.rows, row.id ≠ job'.id := by
  obtain ⟨hnew, hrows⟩ := enqueueJob_eq_ok h
  refine ⟨newJobRow id (shrinkJob workspaceId operationId availableAt) now, ?_, rfl, hnew⟩
  rw [lastJob_insert hrows, if_pos]
  exact Errand.serves_iff.2 ⟨rfl, rfl, (namesOperation_payload operationId operationId).2 rfl⟩

/-- **Requests come in order**: a new operation comes after the older ones of its workspace. -/
def Ordered (db : Database) : StoreCall → Prop
  | .enqueueShrink operationId _ workspaceId _ _ now => ∀ row ∈ db.shrinks.rows,
      row.workspaceId = workspaceId → row.rank < toLex (now, operationId)
  | _ => True

theorem Attended.started (h : Attended db) {request : StorageShrinkRequest} {actorUserId : Uuid}
    (hstarted : Started db operationId jobId workspaceId request actorUserId now row document
      workspace db')
    (hordered : Ordered db (.enqueueShrink operationId jobId workspaceId request actorUserId now))
    (hqueue : QueueMoves (fun _ => False) db.jobs db'.jobs) : Attended db' ∧ Ages db db' := by
  have hid : workspace.id = workspaceId :=
    hstarted.decodes.id.trans (Table.find_eq_some.1 hstarted.found).2
  have hcases := fun r => (hstarted.mem_rows (r := r)).1
  refine h.of_rows hqueue (fun _ => False.elim) (h.invariant.started hstarted) ?_ ?_
  · intro r hr hactive other hother hworkspace
    rcases hcases r hr with hr | rfl
    · rcases hcases other hother with hother | rfl
      · exact h.latest r hr hactive other hother hworkspace
      · -- no operation of the workspace was active
        rw [hstarted.idle r hr (hworkspace.symm.trans hid)] at hactive
        cases hactive
    · rcases hcases other hother with hother | rfl
      · exact le_of_lt (hordered other hother (hworkspace.trans hid))
      · exact le_refl _
  · intro r hr hactive
    rcases hcases r hr with hr | rfl
    · exact .inl ⟨r, hr, rfl, hactive⟩
    · have htarget : (newShrinkRow (startedOperation operationId workspace request actorUserId now)
          now).target = ⟨operationId, workspaceId⟩ := by rw [← hid]; rfl
      rw [htarget]
      exact .inr (lastJob_of_enqueue hstarted.jobs)

/-- An operation that becomes active again is the latest of its workspace. -/
theorem Attended.activated (h : Attended db) {old : ShrinkRow}
    (hactivated : Activated db jobId workspaceId old.id operation now row document workspace db')
    (hlatest : db.latestShrink workspaceId = some old) (hinvariant : ShrinkInvariant db')
    (hqueue : QueueMoves (fun _ => False) db.jobs db'.jobs) : Attended db' ∧ Ages db db' := by
  obtain ⟨hold, hworkspace, hgreatest⟩ := Database.mem_latestShrink hlatest
  have hcases : ∀ r ∈ db'.shrinks.rows, r ∈ db.shrinks.rows ∨ r = old.activate operation now := by
    intro r hr
    rw [hactivated.shrinks_eq] at hr
    rcases Database.mem_writeShrink hr with ⟨hr, -⟩ | ⟨r', hr', hid, rfl⟩
    · exact .inl hr
    · rw [db.shrinks.eq_of_key hr' hold hid]
      exact .inr rfl
  have hrank : ∀ other ∈ db'.shrinks.rows, other.workspaceId = workspaceId →
      other.rank ≤ old.rank := by
    intro other hother hother'
    rcases hcases other hother with hother | rfl
    · exact hgreatest other hother hother'
    · exact le_refl _
  refine h.of_rows hqueue (fun _ => False.elim) hinvariant ?_ ?_
  · intro r hr hactive other hother hsame
    by_cases hr' : r.workspaceId = workspaceId
    · rcases hcases r hr with hr | rfl
      · rw [hactivated.idle r hr hr'] at hactive
        cases hactive
      · exact hrank other hother (hsame.trans hr')
    · have hmem : ∀ x ∈ db'.shrinks.rows, x.workspaceId = r.workspaceId → x ∈ db.shrinks.rows := by
        intro x hx hx'
        rcases hcases x hx with hx | rfl
        · exact hx
        · exact absurd (hx'.symm.trans hworkspace) hr'
      exact h.latest r (hmem r hr rfl) hactive other (hmem other hother hsame) hsame
  · intro r hr hactive
    rcases hcases r hr with hr | rfl
    · exact .inl ⟨r, hr, rfl, hactive⟩
    · have htarget : (old.activate operation now).target = ⟨old.id, workspaceId⟩ := by
        rw [← hworkspace]; rfl
      rw [htarget]
      exact .inr (lastJob_of_enqueue hactivated.jobs)

/-- The rows of a table in which one operation was written. -/
theorem succeeds_of_write {old : ShrinkRow} {f : ShrinkRow → ShrinkRow}
    {hf : ∀ row, (f row).id = row.id} (hold : old ∈ db.shrinks.rows)
    (hshrinks : db'.shrinks = (db.writeShrink old.id f hf).shrinks)
    (hwritten : old.Succeeds (f old)) :
    ∀ row' ∈ db'.shrinks.rows, ∃ row ∈ db.shrinks.rows, row.Succeeds row' := by
  intro row' hrow'
  rw [hshrinks] at hrow'
  rcases Database.mem_writeShrink hrow' with ⟨hrow', -⟩ | ⟨row, hrow, hid, rfl⟩
  · exact ⟨row', hrow', .refl row'⟩
  · obtain rfl := db.shrinks.eq_of_key hrow hold hid
    exact ⟨row, hrow, hwritten⟩

/-- **A save keeps active operations attended**, whoever makes it and however late. -/
theorem Attended.saved (h : Attended db) {update : ShrinkWorkspaceUpdate} {saved : ShrinkRow}
    (hsaved : Saved db operation update row document workspace saved db') :
    Attended db' ∧ Ages db db' := by
  have hqueue : QueueMoves (fun _ => False) db.jobs db'.jobs := by
    rw [hsaved.result]
    exact .refl _
  refine h.of_succeeds hqueue (fun _ => False.elim) (h.invariant.saved hsaved) ?_
  exact succeeds_of_write hsaved.mem hsaved.shrinks_eq ⟨rfl, rfl, fun _ => hsaved.active⟩

/-- **Every other transaction keeps active operations attended**, if requests come in order. -/
theorem Attended.foreign (h : Attended db) {call : StoreCall} (hwrites : call.Writes db db')
    (hcall : call.Foreign) (hjob : ∀ jobCall, call ≠ .job jobCall) (hordered : Ordered db call) :
    Attended db' ∧ Ages db db' := by
  have hqueue : QueueMoves (fun _ => False) db.jobs db'.jobs :=
    (hwrites.moves hjob).queueMoves (fun _ hrecord => nomatch hrecord)
      fun _ hrecord => nomatch hrecord
  have hinvariant := h.invariant.writes hwrites
  have hkept : (∀ row' ∈ db'.shrinks.rows, row' ∈ db.shrinks.rows) → Attended db' ∧ Ages db db' :=
    fun hrows => h.of_succeeds hqueue (fun _ => False.elim) hinvariant fun row' hrow' =>
      ⟨row', hrows row' hrow', .refl row'⟩
  cases hwrites with
  | nothing | acquired | released => exact hkept fun _ hrow => hrow
  | queued => exact absurd rfl (hjob _)
  | created h' | updated _ h' =>
    refine hkept fun row hrow => ?_
    rwa [h'.result] at hrow
  | acted h' | observed h' | failed h' => exact hkept fun row hrow => h'.mem_shrinks hrow
  | started h' => exact h.started h' hordered hqueue
  | confirmed h' hlatest hconfirmable =>
    obtain ⟨old, hold, rfl⟩ := Option.map_eq_some_iff.1 hlatest
    have hid := (h.invariant.agrees old (Database.mem_latestShrink hold).1).id
    rw [hid] at h'
    exact h.activated h' hold hinvariant hqueue
  | retried h' hlatest hretryable =>
    obtain ⟨rfl, -⟩ := validateRetryOperation_eq_ok hretryable.operation
    exact h.activated h' hlatest hinvariant hqueue
  | saved => exact hcall.elim
  | cleaned h' =>
    exact h.of_succeeds hqueue (fun _ => False.elim) hinvariant
      (succeeds_of_write h'.mem h'.shrinks_eq ⟨rfl, rfl, fun hactive => hactive⟩)

/-- A call on the queue keeps them attended when it ends no job that is counted on. -/
theorem Attended.queued {ended : Uuid → Prop} (h : Attended db)
    (hqueue : QueueMoves ended db.jobs jobs) (hended : ∀ job, ended job → Settled job db) :
    Attended { db with jobs } ∧ Ages db { db with jobs } := by
  have hinvariant : ShrinkInvariant { db with jobs } :=
    h.invariant.of_shrinks_eq rfl h.invariant.alive
  exact h.of_succeeds hqueue hended hinvariant fun row hrow => ⟨row, hrow, .refl row⟩

end Steps

/-! ### Calls -/

/-- The calls on the queue that neither end nor park a job. -/
def JobCall.Spares : JobCall → Prop
  | complete .. => False
  | fail .. => False
  | park .. => False
  | _ => True

theorem JobCall.Performs.queueMoves {call : JobCall} {response : call.Response}
    (h : call.Performs jobs response jobs') (hcall : call.Spares) :
    QueueMoves (fun _ => False) jobs jobs' := by
  have hevents : ∀ record ∈ call.events response,
      (∀ owner nonce payload t, record.2 ≠ .parked owner nonce payload t) ∧
        ∀ owner, record.2 ≠ .completed owner ∧ record.2 ≠ .failed owner := by
    intro record hrecord
    cases call with
    | complete | fail | park => exact hcall.elim
    | enqueue => cases hrecord
    | claim owner now seconds =>
      match response with
      | .error e | .ok none => cases hrecord
      | .ok (some job) => simp [List.mem_singleton.1 hrecord]
    | wake parked now =>
      match response with
      | .error e => cases hrecord
      | .ok woken =>
        obtain ⟨id, -, rfl⟩ := List.mem_map.1 hrecord
        simp
    | renew | defer | deferWithoutAttempt =>
      match response with
      | .error e => cases hrecord
      | .ok _ => simp [List.mem_singleton.1 hrecord]
  exact (h.moves call.accepted_anyJob).queueMoves (fun record hrecord => (hevents record hrecord).1)
    fun record hrecord => (hevents record hrecord).2

/-- The calls after which active operations are attended, whoever makes them. -/
def Spares (db : Database) : Call → Prop
  | .store (.job call) => call.Spares
  | .store call => call.Foreign ∧ Ordered db call
  | _ => True

theorem ReconcileJobCall.spares {c : Call} (h : ReconcileJobCall c) (db : Database) :
    Spares db c := by
  cases c with
  | store call =>
    cases call with
    | getWorkspace | shrinkActive | observe | listShrinks | saveShrinkCleanup =>
      exact ⟨trivial, trivial⟩
    | _ => exact h.elim
  | _ => trivial

theorem Attended.performs (h : Attended db) {c r}
    (hperforms : Performs db c r db') (hspares : Spares db c) :
    Attended db' ∧ Ages db db' := by
  cases hperforms with
  | cluster | clock | newId => exact ⟨h, .refl db⟩
  | @store call response db' hcall =>
    have hwrites := hcall.writes
    cases call with
    | job call =>
      cases hwrites with
      | nothing => exact ⟨h, .refl db⟩
      | queued hjob => exact h.queued (hjob.queueMoves hspares) fun _ => False.elim
    | _ => exact h.foreign hwrites hspares.1 (fun _ => StoreCall.noConfusion) hspares.2

/-- The row of a job that was claimed is still for what the job is for. -/
def Bears (job : ClaimedJob) (db : Database) : Prop :=
  ∃ row ∈ db.jobs.rows, row.id = job.id ∧ row.errand = job.errand

section Job

variable {job : ClaimedJob}

theorem Bears.ages (h : Bears job db) (hages : Ages db db') : Bears job db' := by
  obtain ⟨row, hrow, hid, herrand⟩ := h
  obtain ⟨row', hrow', hid', herrand'⟩ := hages.queue.keeps row hrow
  exact ⟨row', hrow', hid'.trans hid, herrand'.trans herrand⟩

theorem Bears.present (h : Bears job db) : ∃ row ∈ db.jobs.rows, row.id = job.id := by
  obtain ⟨row, hrow, hid, -⟩ := h
  exact ⟨row, hrow, hid⟩

/-- When the job is the last one for an operation, it is for that operation. -/
theorem Bears.serves (h : Bears job db) {target : JobTarget} {last : JobRow}
    (hlast : lastJob db.jobs target = some last) (hid : last.id = job.id) :
    job.errand.serves target = true := by
  obtain ⟨row, hrow, hrow', herrand⟩ := h
  obtain ⟨hmem, hlast⟩ := Table.mem_last hlast
  rw [← herrand, ← db.jobs.eq_of_key hmem hrow (hid.trans hrow'.symm)]
  exact hlast

theorem Bears.settled (h : Bears job db) (hjob : ∀ target, job.errand.serves target = false) :
    Settled job.id db := by
  intro row _ _ last hlast hid
  cases (hjob row.target).symm.trans (h.serves hlast hid)

theorem ClaimedJob.serves_of_kind (hkind : job.kind ≠ .workspaceStorageShrink)
    (target : JobTarget) : job.errand.serves target = false := by
  simp [ClaimedJob.errand, Errand.serves, hkind]

/-- A claim tells what the job is for. -/
theorem bears_of_claim {seconds : ℕ}
    (h : (StoreCall.job (.claim owner now seconds)).Performs db (.ok (some job)) db') :
    Bears job db' := by
  obtain ⟨locked, hstatement, -⟩ := h.statement_of_ok
  rcases claimJob_eq_ok (settle_eq_ok.1 hstatement) with ⟨hnone, -⟩ | ⟨row, hrow, e, -, -, hjob, hjobs⟩
  · cases hnone
  · obtain rfl := Option.some_inj.1 hjob
    refine ⟨(JobTransition.claim owner e now).apply row, ?_, rfl, rfl⟩
    rw [hjobs]
    exact Table.mem_update_of_pos hrow (by simp)

/-- The job may end when it is settled. -/
theorem Attended.ended {call : JobCall} {response : call.Response} (h : Attended db)
    (hcall : call = .complete job.id owner now ∨ call = .fail job.id owner now)
    (hsettled : Settled job.id db) (hperforms : (StoreCall.job call).Performs db response db') :
    Attended db' ∧ Ages db db' := by
  have hended : ∀ other, other = job.id → Settled other db := fun other hother => hother ▸ hsettled
  cases response with
  | error e =>
    rw [hperforms.eq_of_error]
    exact ⟨h, .refl db⟩
  | ok value =>
    obtain ⟨locked, hstatement, hdb⟩ := hperforms.statement_of_ok
    have hqueue : QueueMoves (· = job.id) db.jobs db'.jobs := by
      rcases hcall with rfl | rfl <;>
        exact .of_updateHeld (settleUnit_eq_ok.1 hstatement)
          (fun row _ _ => JobTransition.errand_apply rfl row) fun _ => .inr rfl
    rw [← hdb]
    exact h.queued hqueue hended

/-- It may be parked with a payload that was made from its own. -/
theorem Attended.parked {generation reconciledAt t response}
    (h : Attended db) (hbears : Bears job db) (hperforms : (StoreCall.job (.park job.id owner
      (checkpointPayload job.payload generation reconciledAt) t now nonce)).Performs db response
      db') : Attended db' ∧ Ages db db' := by
  cases response with
  | error e =>
    rw [hperforms.eq_of_error]
    exact ⟨h, .refl db⟩
  | ok stored =>
    obtain ⟨locked, hstatement, hdb⟩ := hperforms.statement_of_ok
    obtain ⟨-, -, hupdate⟩ := parkWorkspaceJob_eq_ok.1 (settle_eq_ok.1 hstatement)
    have hqueue : QueueMoves (fun _ => False) db.jobs db'.jobs := by
      refine .of_updateHeld hupdate (fun row hrow hid => ?_) fun _ => .inl rfl
      obtain ⟨row', hrow', hid', herrand⟩ := hbears
      obtain rfl := db.jobs.eq_of_key hrow hrow' (hid.trans hid'.symm)
      exact congrArg (Errand.mk row.kind row.workspaceId)
        (namesOperation_parkedPayload.trans (congrArg Errand.names herrand).symm)
    rw [← hdb]
    exact h.queued hqueue fun _ => False.elim

end Job

/-! ### A run of the handler -/

/-- **What a run of the handler knows of its job**: an active operation of the workspace that it has
read is the one it is at work on, or does not count on the job; nor does an operation for which the
run has inserted another job. -/
structure Tends (job : Uuid) (db : Database) (g : Ledger) : Prop where
  attended : Attended db
  present : ∃ row ∈ db.jobs.rows, row.id = job
  unspoiled : g.spoiled = false
  reads : ∀ workspaceId, g.reads = some workspaceId → ∀ row ∈ db.shrinks.rows,
    row.workspaceId = workspaceId → row.active = true →
      (∃ o, g.base = some o ∧ o.id = row.id ∧ o.phase.active = true) ∨
        ∀ last, lastJob db.jobs row.target = some last → last.id ≠ job
  enqueued : ∀ workspaceId operationId availableAt,
    shrinkJob workspaceId operationId availableAt ∈ g.enqueued → g.reads = some workspaceId ∧
      ∀ last, lastJob db.jobs ⟨operationId, workspaceId⟩ = some last → last.id ≠ job

section Tends

variable {g : Ledger} {job : Uuid}

/-- A job that is not the last one for an operation does not become it. -/
theorem QueueAges.not_last (h : QueueAges jobs jobs') (hpresent : ∃ row ∈ jobs.rows, row.id = job)
    {target : JobTarget} (hnot : ∀ last, lastJob jobs target = some last → last.id ≠ job)
    {last' : JobRow} (hlast : lastJob jobs' target = some last') : last'.id ≠ job := by
  intro heq
  rcases h.last target last' hlast with ⟨last, hlast, hid⟩ | hfresh
  · exact hnot last hlast (hid.trans heq)
  · obtain ⟨row, hrow, hid⟩ := hpresent
    exact hfresh row hrow (hid.trans heq.symm)

/-- What a run knows stays true whatever the others do. -/
theorem Tends.ages (h : Tends job db g) (hages : Ages db db') (hattended : Attended db') :
    Tends job db' g := by
  obtain ⟨row, hrow, hid⟩ := h.present
  have hpresent : ∃ row ∈ db'.jobs.rows, row.id = job := by
    obtain ⟨row', hrow', hid', -⟩ := hages.queue.keeps row hrow
    exact ⟨row', hrow', hid'.trans hid⟩
  refine ⟨hattended, hpresent, h.unspoiled, ?_, ?_⟩
  · intro workspaceId hreads row' hrow' hworkspace hactive'
    rcases hages.active row' hrow' hactive' with ⟨old, hold, htarget, hactive⟩ | hfresh
    · rw [← htarget]
      have hworkspace' : old.workspaceId = workspaceId :=
        (congrArg JobTarget.workspace htarget).trans hworkspace
      refine (h.reads workspaceId hreads old hold hworkspace' hactive).imp ?_ fun hnot last hlast =>
        hages.queue.not_last h.present hnot hlast
      rintro ⟨o, hbase, hsame, hphase⟩
      exact ⟨o, hbase, hsame.trans (congrArg JobTarget.operation htarget), hphase⟩
    · exact .inr fun last hlast heq => hfresh last hlast row hrow (hid.trans heq.symm)
  · intro workspaceId operationId availableAt hmem
    obtain ⟨hreads, hnot⟩ := h.enqueued workspaceId operationId availableAt hmem
    exact ⟨hreads, fun last hlast => hages.queue.not_last h.present hnot hlast⟩

theorem Tends.read (h : Tends job db g) (workspaceId : Uuid) :
    Tends job db ⟨some workspaceId, db.latestStorageShrink workspaceId, false, []⟩ := by
  refine ⟨h.attended, h.present, rfl, ?_, fun _ _ _ hmem => nomatch hmem⟩
  intro id hreads row hrow hworkspace hactive
  obtain rfl := Option.some_inj.1 hreads
  have hlatest := h.attended.latestStorageShrink hrow hactive
  rw [hworkspace] at hlatest
  have hagrees := h.attended.invariant.agrees row hrow
  exact .inl ⟨row.operation, hlatest, hagrees.id, hagrees.active.symm.trans hactive⟩

theorem Tends.saved (h : Tends job db g) {o operation update row document workspace saved}
    (hsaved : Saved db operation update row document workspace saved db')
    (hbase : g.base = some o) (hid : operation.id = o.id) :
    Tends job db' { g with base := some operation } := by
  obtain ⟨hattended, hages⟩ := h.attended.saved hsaved
  have hlater := h.ages hages hattended
  refine ⟨hattended, hlater.present, hlater.unspoiled, ?_, hlater.enqueued⟩
  intro workspaceId hreads row' hrow' hworkspace hactive'
  rcases hlater.reads workspaceId hreads row' hrow' hworkspace hactive' with
    ⟨o', hbase', hsame, -⟩ | hnot
  · -- the row that is at work is the one that was written
    obtain rfl := Option.some_inj.1 (hbase.symm.trans hbase')
    refine .inl ⟨operation, rfl, hid.trans hsame, ?_⟩
    rw [hsaved.shrinks_eq] at hrow'
    rcases Database.mem_writeShrink hrow' with ⟨-, hne⟩ | ⟨old, -, -, rfl⟩
    · exact absurd (hsame.symm.trans (hid.symm.trans hsaved.id.symm)) hne
    · exact hactive'
  · exact .inr hnot

theorem Tends.inserted (h : Tends job db g) {id : Uuid} (hreads : g.reads = some workspaceId)
    (henqueue : enqueueJob db.jobs id (shrinkJob workspaceId operationId availableAt) now =
      .ok jobs) (hattended : Attended { db with jobs }) (hages : Ages db { db with jobs }) :
    Tends job { db with jobs }
      { g with enqueued := shrinkJob workspaceId operationId availableAt :: g.enqueued } := by
  have hlater := h.ages hages hattended
  refine ⟨hattended, hlater.present, hlater.unspoiled, hlater.reads, ?_⟩
  intro workspaceId' operationId' availableAt' hmem
  rcases List.mem_cons.1 hmem with heq | hmem
  · obtain ⟨job', hlast', -, hfresh⟩ := lastJob_of_enqueue henqueue
    obtain ⟨row, hrow, hid⟩ := h.present
    have hworkspace : workspaceId' = workspaceId := Option.some_inj.1 (congrArg NewJob.workspaceId heq)
    have hoperation : operationId' = operationId := by
      have hpayload := congrArg NewJob.payload heq
      refine (namesOperation_payload operationId' operationId).1 ?_
      change (NewJob.payload (shrinkJob workspaceId' operationId' availableAt')).namesOperation
        operationId = true
      rw [hpayload]
      exact (namesOperation_payload operationId operationId).2 rfl
    rw [hworkspace, hoperation]
    refine ⟨hreads, fun last hlast heq => ?_⟩
    obtain rfl := Option.some_inj.1 (hlast'.symm.trans hlast)
    exact hfresh row hrow (hid.trans heq.symm)
  · exact hlater.enqueued workspaceId' operationId' availableAt' hmem

theorem Tends.spared (h : Tends job db g) {c r}
    (hperforms : Performs db c r db') (hspares : Spares db c) :
    (Attended db' ∧ Ages db db') ∧ Tends job db' g := by
  obtain ⟨hattended, hages⟩ := h.attended.performs hperforms hspares
  exact ⟨⟨hattended, hages⟩, h.ages hages hattended⟩

/-- **One call of a run of the handler.** -/
theorem Tends.step (h : Tends job db g) {c r}
    (hperforms : Performs db c r db') (hproper : Proper .any g c r (g.after .any c r)) :
    (Attended db' ∧ Ages db db') ∧ Tends job db' (g.after .any c r) := by
  cases c with
  | cluster | clock | newId => exact h.spared hperforms trivial
  | store call =>
    have hcall := hperforms.of_store
    cases call with
    | getWorkspace | observe | listShrinks | saveShrinkCleanup =>
      exact h.spared hperforms ⟨trivial, trivial⟩
    | latestShrink workspaceId =>
      cases r with
      | error e => exact h.spared hperforms ⟨trivial, trivial⟩
      | ok latest =>
        obtain ⟨locked, htransaction⟩ := hcall.transaction_of_ok
        obtain ⟨hlatest, rfl⟩ := Prod.mk.inj htransaction
        obtain rfl := Except.ok.inj hlatest
        exact ⟨⟨h.attended, .refl _⟩, h.read workspaceId⟩
    | saveShrink operation update =>
      cases r with
      | error e =>
        obtain rfl := hcall.eq_of_error
        have hspoiled : (g.spoiled || Surroundings.any.critical operation update) = false := by
          rw [h.unspoiled]
          rfl
        exact ⟨⟨h.attended, .refl _⟩, h.attended, h.present, hspoiled, h.reads, h.enqueued⟩
      | ok _ =>
        obtain ⟨o, hbase, hevolves⟩ := hproper
        obtain ⟨locked, htransaction⟩ := hcall.transaction_of_ok
        obtain ⟨_, _, _, saved, hsaved⟩ :=
          saveStorageShrink_eq_ok (settleUnit_eq_ok.1 htransaction)
        exact ⟨h.attended.saved hsaved, h.saved hsaved hbase hevolves.drifts.id⟩
    | job call =>
      cases call with
      | enqueue id newJob now =>
        have hspares : Spares db (.store (.job (.enqueue id newJob now))) := trivial
        have hspared := h.spared hperforms hspares
        obtain ⟨o, workspaceId, hbase, hreads, rfl⟩ := hproper
        cases r with
        | error e => exact hspared
        | ok _ =>
          obtain ⟨locked, hstatement, hdb⟩ := hcall.statement_of_ok
          rw [← hdb] at hspared ⊢
          exact ⟨hspared.1, h.inserted hreads (settleUnit_eq_ok.1 hstatement) hspared.1.1
            hspared.1.2⟩
      | _ => exact hproper.elim
    | _ => exact hproper.elim

/-- The last failure of a job has settled it: it has inserted another one. -/
theorem Tends.settled_of_exhausted {job : ClaimedJob} (h : Tends job.id db g)
    (hbears : Bears job db) (hexhausted : job.workspaceId = none ∨ Exhausted job g) :
    Settled job.id db := by
  intro row hrow hactive last hlast hid
  obtain ⟨-, hworkspace, hnames⟩ := Errand.serves_iff.1 (hbears.serves hlast hid)
  rcases hexhausted with hnone | ⟨hreads, hexhausted⟩
  · cases hnone.symm.trans hworkspace
  · have hreads' : g.reads = some row.workspaceId := hreads.trans hworkspace
    rcases h.reads row.workspaceId hreads' row hrow rfl hactive with
      ⟨o, hbase, hsame, hphase⟩ | hnot
    · rcases hexhausted o hbase with hconcerns | ⟨workspaceId, availableAt, hmem⟩
      · have hconcerns' : job.concerns o = true := by
          rw [ClaimedJob.concerns, hphase, hsame, Bool.true_and]
          exact hnames
        cases hconcerns'.symm.trans hconcerns
      · obtain ⟨hreads'', hnot⟩ := h.enqueued workspaceId o.id availableAt hmem
        obtain rfl := Option.some_inj.1 (hreads'.symm.trans hreads'')
        rw [hsame] at hnot
        exact hnot last hlast hid
    · exact hnot last hlast hid

theorem Tends.settled {job : ClaimedJob} (h : Tends job.id db g) (hbears : Bears job db)
    (hfinished : Finished job g) : Settled job.id db :=
  h.settled_of_exhausted hbears (.inr ⟨hfinished.1, fun o ho => .inl (hfinished.2 o ho)⟩)

end Tends

/-! ### A run of a worker -/

/-- Workers coordinate workspaces in Kubernetes, and requests for operations come in order. -/
def Conditions.orderly : Conditions where
  workers worker := worker.kubernetes = true
  calls _ _ _ _ := True
  others := Ordered

/-- The calls of a worker under these conditions. -/
abbrev orderlyCalls (owner : String) : Semantics signature Readers :=
  (installation .orderly).semantics owner

section Run

variable {worker : Worker} {job : ClaimedJob}

/-- What a worker relies on. -/
abbrev AttendedRely : Readers → Readers → Prop :=
  fun s s' => Ages s.database s'.database ∧ Attended s'.database

/-- What it guarantees. -/
abbrev AttendedGuarantee (owner : String) : Semantics signature Readers :=
  fun s _ _ s' => Attended s'.database ∧ ∀ other, other ≠ owner → Ages s.database s'.database

/-- The worker has claimed the job. -/
def OnDuty (job : ClaimedJob) (s : Readers) : Prop := Attended s.database ∧ Bears job s.database

/-- A routine of a worker on duty, from one state. -/
abbrev Worker.Tends {ε α : Type} (worker : Worker) (x : Routine signature Unit ε α)
    (post : Except ε α → Readers → Prop) (s : Readers) : Prop :=
  x.Holds (orderlyCalls worker.leaseOwner) AttendedRely
    (AttendedGuarantee worker.leaseOwner) (fun r _ s' => post r s') () s

theorem OnDuty.rely {s s' : Readers} (h : OnDuty job s) (hrely : AttendedRely s s') :
    OnDuty job s' := ⟨hrely.2, h.2.ages hrely.1⟩

variable {call : StoreCall} {s : Readers} {α β ε : Type}

variable {f : α → Routine signature Unit ε β} {x : Routine signature Unit ε α}

theorem Worker.tends_of_yields {P : Call → Prop} {Q : Except ε α → Prop} (h : Yields P Q x)
    (hP : ∀ c, P c → ∀ db, Spares db c) (hs : OnDuty job s) :
    worker.Tends x (fun r s' => OnDuty job s' ∧ Q r) s := by
  have hyields : x.Holds (orderlyCalls worker.leaseOwner) AttendedRely (fun _ c _ _ => P c)
      (fun r _ _ => Q r) () s := h.holds () s
  have hstep : ∀ s₁ c r s₂, OnDuty job s₁ →
      orderlyCalls worker.leaseOwner s₁ c r s₂ → P c →
      Attended s₂.database ∧ Ages s₁.database s₂.database :=
    fun s₁ c r s₂ hs₁ hsem hc => hs₁.1.performs hsem.2.1.1 (hP c hc s₁.database)
  have hkept := hyields.with_semantics.and_invariant (I := OnDuty job) hs (fun _ _ => OnDuty.rely) ?_
  · refine (hkept.mono fun _ _ hpost => ⟨hpost.2, hpost.1⟩).mono_guar ?_
    rintro s₁ c r s₂ ⟨⟨hc, hsem⟩, hs₁, -⟩
    obtain ⟨hattended, hages⟩ := hstep s₁ c r s₂ hs₁ hsem hc
    exact ⟨hattended, fun _ _ => hages⟩
  · intro s₁ c r s₂ hs₁ hsem hguar
    obtain ⟨hattended, hages⟩ := hstep s₁ c r s₂ hs₁ hsem hguar.1
    exact ⟨hattended, hs₁.2.ages hages⟩

theorem Worker.tends_of_proper {post : Except ε α → Unit → Ledger → Prop}
    (h : x.Holds (Ledger.semantics .any) Eq (Proper .any) post () .blank) (hs : OnDuty job s) :
    worker.Tends x (fun r s' => OnDuty job s' ∧
      ∃ g, WorkspaceControl.Tends job.id s'.database g ∧ post r () g) s := by
  refine Program.Meets.of_link (L := fun s g => OnDuty job s ∧
    WorkspaceControl.Tends job.id s.database g) (Ledger.after .any) h ⟨hs, hs.1, hs.2.present, rfl,
      fun _ hreads => (nomatch hreads), fun _ _ _ hmem => nomatch hmem⟩ ?_ ?_ ?_
  · rintro s s₁ g ⟨hs, htends⟩ hrely
    exact ⟨hs.rely hrely, htends.ages hrely.1 hrely.2⟩
  · rintro s c r s₁ g ⟨hs, htends⟩ hsem
    refine ⟨⟨(hsem.2.1.1.admits htends.unspoiled).1, rfl⟩, fun hproper => ?_⟩
    obtain ⟨⟨hattended, hages⟩, htends'⟩ := htends.step hsem.2.1.1 hproper
    exact ⟨⟨hattended, fun _ _ => hages⟩, ⟨hattended, hs.2.ages hages⟩, htends'⟩
  · rintro ⟨r, w⟩ s g ⟨hs, htends⟩ hpost
    exact ⟨hs, g, htends, hpost⟩

/-- What is left after a handler: its job may end if it ended well, and a checkpoint is made from
the payload of the job. -/
def Concludes (job : ClaimedJob) (r : Except JobHandlerError Unit) (s : Readers) : Prop :=
  (r = .ok () → Settled job.id s.database) ∧ Checkpoints job r

theorem OnDuty.settled_of_kind (h : OnDuty job s) (hkind : job.kind ≠ .workspaceStorageShrink) :
    Settled job.id s.database :=
  h.2.settled (job.serves_of_kind hkind)

/-- **A handler that ends well has settled its job.** -/
theorem Worker.handle_tends (hworker : worker.kubernetes = true) (hs : OnDuty job s) :
    worker.Tends (worker.handle job) (fun r s' => OnDuty job s' ∧ Concludes job r s') s := by
  unfold Worker.handle
  rw [if_pos hworker, if_pos hworker]
  split
  · rename_i hkind
    refine (Worker.tends_of_yields (handleReconcile_yields job)
      (fun _ => ReconcileJobCall.spares) hs).mono fun r _ s' hpost => ?_
    exact ⟨hpost.1, fun _ => hpost.1.settled_of_kind (by rw [hkind]; decide), hpost.2⟩
  · refine (Worker.tends_of_proper (handleStorageShrink_proper .any worker.installation job)
      hs).mono fun r _ s' hpost => ?_
    obtain ⟨hduty, g, htends, houtcome⟩ := hpost
    cases r with
    | ok _ => exact ⟨hduty, fun _ => htends.settled hduty.2 houtcome, trivial⟩
    | error e => exact ⟨hduty, fun herror => (nomatch herror), houtcome⟩
  · rename_i hkind
    have hdeliver : Yields ReconcileJobCall (Checkpoints job)
        (request (.deliverWebhook job.payload) >>= fun r => attempt .failed r :
          Reconciler Unit) :=
      checkpoints_bind (yields_request trivial fun _ => trivial) fun r =>
        yields_attempt (by cases r <;> trivial)
    refine (Worker.tends_of_yields hdeliver (fun _ => ReconcileJobCall.spares) hs).mono
      fun r _ s' hpost => ?_
    exact ⟨hpost.1, fun _ => hpost.1.settled_of_kind (by rw [hkind]; decide), hpost.2⟩
  · exact ⟨hs, fun herror => (nomatch herror), trivial⟩

/-- **So does the last failure of a job.** -/
theorem Worker.onTerminalFailure_tends (hworker : worker.kubernetes = true) (now : ℤ)
    (hs : OnDuty job s) : worker.Tends (worker.onTerminalFailure job now)
      (fun r s' => OnDuty job s' ∧ (r = .ok () → Settled job.id s'.database)) s := by
  unfold Worker.onTerminalFailure
  rw [if_pos hworker, if_pos hworker]
  split
  · rename_i hkind
    have hmark : Yields (fun c => ∀ db, Spares db c) (fun _ => True)
        (reconcileTerminalFailure job now) :=
      reconcileTerminalFailure_yields fun _ _ _ _ _ => ⟨trivial, trivial⟩
    refine (Worker.tends_of_yields hmark (fun _ => id) hs).mono fun r _ s' hpost => ?_
    exact ⟨hpost.1, fun _ => hpost.1.settled_of_kind (by rw [hkind]; decide)⟩
  · refine (Worker.tends_of_proper (storageShrinkTerminalFailure_proper .any job now) hs).mono
      fun r _ s' hpost => ?_
    obtain ⟨hduty, g, htends, houtcome⟩ := hpost
    cases r with
    | ok _ => exact ⟨hduty, fun _ => htends.settled_of_exhausted hduty.2 houtcome⟩
    | error e => exact ⟨hduty, fun herror => nomatch herror⟩
  · rename_i hreconcile hshrink
    exact ⟨hs, fun _ => hs.settled_of_kind hshrink⟩

theorem Worker.tends_transact (hs : OnDuty job s)
    (hstep : ∀ (s₁ s₂ : Readers) (r : call.Response), AttendedRely s s₁ → OnDuty job s₁ →
      call.Performs s₁.database r s₂.database →
      Attended s₂.database ∧ Ages s₁.database s₂.database) :
    worker.Tends (transact id call : Routine signature Unit StorageError call.Value)
      (fun _ s' => OnDuty job s') s := by
  refine (holds_transact id call _).2 fun s₁ hrely r s₂ hsem => ?_
  have hs₁ := hs.rely hrely
  obtain ⟨hattended, hages⟩ := hstep s₁ s₂ r hrely hs₁ hsem.2.1.1.of_store
  exact ⟨⟨hattended, fun _ _ => hages⟩, hattended, hs₁.2.ages hages⟩

theorem Worker.tends_spare {call : JobCall} (hcall : call.Spares) (hs : OnDuty job s) :
    worker.Tends (transact id (.job call) : Routine signature Unit StorageError call.Value)
      (fun _ s' => OnDuty job s') s :=
  Worker.tends_transact hs fun _ _ _ _ hs₁ hperforms => hs₁.1.performs (.store hperforms) hcall

theorem Worker.tends_end {call : JobCall}
    (hcall : call = .complete job.id worker.leaseOwner now ∨ call = .fail job.id worker.leaseOwner now)
    (hs : OnDuty job s) (hsettled : Settled job.id s.database) :
    worker.Tends (transact id (.job call) : Routine signature Unit StorageError _)
      (fun _ s' => OnDuty job s') s :=
  Worker.tends_transact hs fun _ _ _ hrely hs₁ hperforms =>
    hs₁.1.ended hcall (hsettled.ages hs.2.present hrely.1) hperforms

theorem Worker.tends_bind
    {post : Except ε α → Readers → Prop}
    (hx : worker.Tends x (fun r s' => OnDuty job s' ∧ post r s') s)
    (hf : ∀ a s', OnDuty job s' → post (.ok a) s' →
      worker.Tends (f a) (fun _ s' => OnDuty job s') s') :
    worker.Tends (x >>= f) (fun _ s' => OnDuty job s') s := by
  refine (holds_bind _ _ _).2 (Holds.mono hx fun r _ s' hpost => ?_)
  cases r with
  | ok a => exact hf a s' hpost.1 hpost.2
  | error e => exact hpost.1

theorem Worker.tends_seq (hx : worker.Tends x (fun _ s' => OnDuty job s') s)
    (hf : ∀ a s', OnDuty job s' → worker.Tends (f a) (fun _ s' => OnDuty job s') s') :
    worker.Tends (x >>= f) (fun _ s' => OnDuty job s') s := by
  have hx' : worker.Tends x (fun _ s' => OnDuty job s' ∧ True) s :=
    Holds.mono hx fun _ _ _ hpost => ⟨hpost, trivial⟩
  exact Worker.tends_bind hx' fun a s' hs' _ => hf a s' hs'

theorem Worker.persistFailedJob_tends (hworker : worker.kubernetes = true) (now : ℤ)
    (hs : OnDuty job s) :
    worker.Tends (worker.persistFailedJob job now) (fun _ s' => OnDuty job s') s := by
  unfold Worker.persistFailedJob
  split
  · exact Worker.tends_bind (Worker.onTerminalFailure_tends hworker now hs) fun _ s' hs' hsettled =>
      Worker.tends_end (.inr rfl) hs' (hsettled rfl)
  · refine Worker.tends_spare ?_ hs
    trivial

theorem Worker.persistJobResult_tends (hworker : worker.kubernetes = true) (now : ℤ)
    {outcome : Except JobHandlerError Unit} (hs : OnDuty job s)
    (houtcome : Concludes job outcome s) :
    worker.Tends (worker.persistJobResult job now outcome) (fun _ s' => OnDuty job s') s := by
  unfold Worker.persistJobResult
  split
  · exact Worker.tends_end (.inl rfl) hs (houtcome.1 rfl)
  · obtain ⟨generation, reconciledAt, rfl⟩ := houtcome.2
    have hnonce : Yields (fun c => ∀ db, Spares db c) (fun _ => True)
        (newId : Routine signature Unit StorageError Uuid) :=
      fun _ => ⟨fun _ => trivial, fun _ => trivial⟩
    refine Worker.tends_bind (Worker.tends_of_yields hnonce (fun _ => id) hs) fun nonce s' hs' _ => ?_
    refine Worker.tends_seq (Worker.tends_transact hs' fun _ _ _ _ hs₁ hperforms => ?_)
      fun _ s'' hs'' => hs''
    exact hs₁.1.parked hs₁.2 hperforms
  · refine Worker.tends_spare ?_ hs
    trivial
  · exact Worker.persistFailedJob_tends hworker now hs

theorem Worker.tends_lease (hcall : ∀ jobCall, call ≠ .job jobCall) (hforeign : call.Foreign)
    (hordered : ∀ db, Ordered db call) (hs : OnDuty job s) :
    worker.Tends (transact id call : Routine signature Unit StorageError call.Value)
      (fun _ s' => OnDuty job s') s :=
  Worker.tends_transact hs fun _ _ _ _ hs₁ hperforms =>
    hs₁.1.foreign hperforms.writes hforeign hcall (hordered _)

/-- **A run keeps active operations attended**, next to all others. -/
theorem Worker.runJob_tends (hworker : worker.kubernetes = true) (now : ℤ) (elapsed : ℕ)
    (hs : OnDuty job s) :
    worker.Tends (worker.runJob now elapsed job) (fun _ s' => OnDuty job s') s := by
  have hacquire : worker.Tends (worker.acquireLease job now) (fun _ s' => OnDuty job s') s := by
    unfold Worker.acquireLease
    split
    · exact hs
    · refine Worker.tends_lease (fun _ => StoreCall.noConfusion) ?_ (fun _ => ?_) hs <;> trivial
  have hrelease : ∀ s', OnDuty job s' →
      worker.Tends (worker.releaseLease job) (fun _ s' => OnDuty job s') s' := by
    intro s' hs'
    unfold Worker.releaseLease
    split
    · exact hs'
    · refine Worker.tends_lease (fun _ => StoreCall.noConfusion) ?_ (fun _ => ?_) hs' <;> trivial
  refine Worker.tends_seq hacquire fun acquired s₁ hs₁ => ?_
  split
  · have hhandle : worker.Tends (result (worker.handle job) :
        Routine signature Unit StorageError (Except JobHandlerError Unit))
        (fun r s' => OnDuty job s' ∧ ∀ outcome, r = .ok outcome → Concludes job outcome s') s₁ := by
      refine (holds_result _ _).2 (Holds.mono (Worker.handle_tends hworker hs₁) ?_)
      rintro outcome _ s' ⟨hs', hconcludes⟩
      refine ⟨hs', fun outcome' heq => ?_⟩
      obtain rfl := Except.ok.inj heq
      exact hconcludes
    refine Worker.tends_bind hhandle fun outcome s₂ hs₂ hconcludes => ?_
    refine Worker.tends_seq ((holds_result _ _).2 (Worker.persistJobResult_tends hworker _ hs₂
      (hconcludes outcome rfl))) fun persisted s₃ hs₃ => ?_
    refine Worker.tends_seq (hrelease s₃ hs₃) fun _ s₄ hs₄ => ?_
    cases persisted <;> exact hs₄
  · refine Worker.tends_spare ?_ hs₁
    trivial

/-- Every program of an orderly installation keeps active operations attended. -/
theorem orderly_attended : (installation .orderly).RelyGuarantee (fun s => Attended s.database)
    fun _ s s' => Ages s.database s'.database where
  refl _ s := .refl _
  trans _ _ _ _ := .trans
  environment s s' hs henv := by
    obtain ⟨-, call, response, hattendance, hforeign, hordered, hperforms⟩ := henv
    have hspares : Spares s.database (.store call) := by
      cases call with
      | job call =>
        cases call with
        | complete | fail | park => exact hattendance trivial
        | _ => trivial
      | _ => exact ⟨hforeign, hordered⟩
    obtain ⟨hattended, hages⟩ := hs.performs hperforms.1 hspares
    exact ⟨hattended, fun _ => hages⟩
  start owner p s hs hstart := by
    obtain ⟨worker, now, elapsed, rfl, hworker, rfl⟩ := hstart
    refine (Program.meets_bind _ _ _ _).2 ?_
    intro s₁ hrely r s₂ hsem
    have hspares : Spares s₁.database
        (.store (.job (.claim worker.leaseOwner now jobLeaseSeconds))) := trivial
    obtain ⟨hattended, hages⟩ := hrely.2.performs hsem.2.1.1 hspares
    refine ⟨⟨hattended, fun _ _ => hages⟩, ?_⟩
    match r with
    | .error e => trivial
    | .ok none => trivial
    | .ok (some job) =>
      have hduty : OnDuty job s₂ := ⟨hattended, bears_of_claim hsem.2.1.1.of_store⟩
      have hrun := Worker.tends_seq (f := fun _ => pure true)
        (Worker.runJob_tends hworker now elapsed hduty) fun _ _ hs' => hs'
      exact Program.Meets.mono hrun fun _ _ _ => trivial

end Run

/-! ### No operation is left without a job -/

/-- **No active operation is left without a job.**  Over every interleaving of any number of
workers and of other processes, from a database without operations on, as long as the workers
coordinate Kubernetes and requests come in the order of their times: an active operation is the
one that is found for its workspace, and a job that names it is pending or running. -/
theorem active_shrinks_have_jobs {s : Readers} (hempty : s.database.shrinks.rows = [])
    {C : Configuration signature Readers String}
    (hreached : (installation .orderly).Steps ⟨s, idle⟩ C) {row : ShrinkRow}
    (hrow : row ∈ C.store.database.shrinks.rows) (hactive : row.active = true) :
    C.store.database.latestStorageShrink row.workspaceId = some row.operation ∧
      ∃ job ∈ C.store.database.jobs.rows, job.kind = .workspaceStorageShrink ∧
        job.payload.namesOperation row.id = true ∧
        (job.status = .pending ∨ job.status = .running) := by
  have hstart : Attended s.database := by
    refine ⟨.of_no_shrinks hempty, fun row hrow => ?_, fun row hrow => ?_⟩
    · rw [hempty] at hrow
      cases hrow
    · rw [hempty] at hrow
      cases hrow
  have hattended := orderly_attended.invariant_of_steps hstart hreached
  obtain ⟨job, hlast, hunfinished⟩ := hattended.served row hrow hactive
  obtain ⟨hmem, hserves⟩ := Table.mem_last hlast
  obtain ⟨hkind, -, hnames⟩ := Errand.serves_iff.1 hserves
  refine ⟨hattended.latestStorageShrink hrow hactive, job, hmem, hkind, hnames, ?_⟩
  generalize job.status = status at hunfinished
  cases status with
  | pending => exact .inl rfl
  | running => exact .inr rfl
  | completed | failed => cases hunfinished

def sampleAttended : Readers := sampleRequested.advanced (sampleAnswering 100) sampleWorker 100 40

/-- A run has taken the sample operation on, and its job is still there. -/
theorem active_shrinks_have_jobs_sample :
    ∃ row ∈ sampleAttended.database.shrinks.rows, row.operation.phase = .stopping ∧
      sampleAttended.database.latestStorageShrink row.workspaceId = some row.operation ∧
      ∃ job ∈ sampleAttended.database.jobs.rows, job.kind = .workspaceStorageShrink ∧
        job.payload.namesOperation row.id = true ∧
        (job.status = .pending ∨ job.status = .running) := by
  have hordered : Ordered (sampleDatabase .stopped) (sampleEnqueue false 10) :=
    fun _ hrow => nomatch hrow
  have hmeets : (sampleAnswering 100).Meets .orderly sampleWorker.leaseOwner :=
    fun s c => ⟨sampleReply_performs sampleAnswer 100 s.database c, trivial⟩
  have hsteps : (installation .orderly).Steps ⟨Readers.fresh (sampleDatabase .stopped), idle⟩
      ⟨sampleAttended, idle⟩ :=
    (steps_sampleRequested hordered).trans (steps_advanced rfl hmeets 100 40 _ rfl)
  have hrow : ∃ row ∈ sampleAttended.database.shrinks.rows,
      row.operation.phase = .stopping ∧ row.active = true := by decide +kernel
  generalize sampleAttended = s at hsteps hrow ⊢
  obtain ⟨row, hrow, hphase, hactive⟩ := hrow
  exact ⟨row, hrow, hphase, active_shrinks_have_jobs rfl hsteps hrow hactive⟩

/-! ### A request with an earlier time -/

/-- The small cluster without the home claim. -/
def unclaimedAnswer : (call : ClusterCall) → call.Response
  | .requireClaim _ => .error "no claim"
  | call => sampleAnswer call

/-- A request for another operation, whose caller has an earlier time. -/
def earlierEnqueue : StoreCall :=
  .enqueueShrink sampleUserId sampleUserId sampleWorkspaceId ⟨some 5, none, 2, false⟩ sampleUserId 5

/-- The first operation has failed; then comes the request, and its job is run. -/
def earlierRequested : Readers :=
  ((sampleRequested.advanced (fun s => sampleReply unclaimedAnswer 100 s.1) sampleWorker 100
    40).requested earlierEnqueue).advanced (sampleAnswering 200) sampleWorker 200 40

/-- **An operation that was requested with an earlier time is stuck**: it is active, another
operation is found for its workspace, and both jobs are completed. -/
theorem earlier_request_is_stuck :
    (installation .none).Steps ⟨Readers.fresh (sampleDatabase .stopped), idle⟩
        ⟨earlierRequested, idle⟩ ∧
      earlierRequested.database.shrinks.rows.map
          (fun row => (row.id, row.operation.phase, row.active)) =
        [(sampleOperationId, .failed, false), (sampleUserId, .queued, true)] ∧
      (earlierRequested.database.latestStorageShrink sampleWorkspaceId).map (·.id) =
        some sampleOperationId ∧
      earlierRequested.database.jobs.rows.map (·.status) = [.completed, .completed] := by
  have hcall : earlierEnqueue.Attendance := trivial
  have hforeign : earlierEnqueue.Foreign := trivial
  refine ⟨?_, by decide +kernel, by decide +kernel, by decide +kernel⟩
  refine (steps_sampleRequested trivial).trans ((steps_advanced trivial ?_ _ _ _ rfl).trans
    (.head (step_requested _ hcall hforeign trivial _)
      (steps_advanced trivial (sampleAnswering_meets _ _) _ _ _ rfl)))
  exact fun s c => ⟨sampleReply_performs unclaimedAnswer 100 s.database c, trivial⟩

end WorkspaceControl
