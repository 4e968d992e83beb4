/-
**Workers next to each other.**

The control plane as a system of programs: any number of workers, each with a lease owner of its
own, over one database.  Around them the API, the watcher and the heartbeats make transactions of
their own at any time.  The journal is a record of what happened to the jobs; no program reads it.

Main definitions:

* `ControlPlane`, `ControlPlane.Performs`, `workers` — the database with its journal, and the
  system of the workers;
* `JobsSound` — what holds of the queue: rows agree with the journal, and no job has failed before
  its last attempt;
* `KeepsHeld` — the jobs that an owner holds were held before.

Main results:

* `workers_sound` — a run of a worker keeps the queue sound next to the others;
* `jobs_agree_with_journal` — **the queue over all interleavings**: leases, attempts, finished
  jobs and failures.
-/

import WorkspaceControl.ShrinkRuns
import WorkspaceControl.Worker

set_option autoImplicit false

namespace WorkspaceControl

open Fallible MachineInt Relational Interaction Routine

/-! ### Transactions move the queue -/

/-- The events of a transaction. -/
def StoreCall.records : (call : StoreCall) → call.Response → List JobRecord
  | job call, response => call.events response
  | _, _ => []

/-- The events of a call. -/
def records : (c : signature.Call) → signature.Response c → List JobRecord
  | .store call, response => call.records response
  | _, _ => []

/-- Any job may be enqueued. -/
abbrev AnyJob : NewJob → Prop := fun _ => True

variable {accepts : NewJob → Prop} {c : signature.Call} {call : StoreCall} {db db' : Database}
  {events : List JobRecord} {jobs jobs' : JobTable} {owner : String} {row : JobRow}
  {t : JobTransition}

theorem Moves.of_enqueueJob {id : Uuid} {newJob : NewJob} {now : ℤ}
    (h : enqueueJob jobs id newJob now = .ok jobs') (haccepts : accepts newJob) :
    Moves accepts jobs [] jobs' := by
  obtain ⟨hnew, hrows⟩ := enqueueJob_eq_ok h
  exact .insert id newJob now haccepts hnew hrows (.same _)

theorem ReconcileInserted.moves {workspaceId : Uuid}
    (h : ReconcileInserted jobs workspaceId jobs') : Moves AnyJob jobs [] jobs' := by
  rcases h with rfl | ⟨_, _, _, henqueue⟩
  · exact .same _
  · exact .of_enqueueJob henqueue trivial

/-- A transaction that is not about the queue enqueues at most a job. -/
theorem StoreCall.Writes.moves (h : call.Writes db db') (hcall : ∀ jobCall, call ≠ .job jobCall) :
    Moves AnyJob db.jobs [] db'.jobs := by
  cases h with
  | nothing | acquired | released => exact .same _
  | queued => exact absurd rfl (hcall _)
  | created h | acted h | observed h | failed h => exact h.jobs.moves
  | updated _ h => exact h.jobs.moves
  | started h | confirmed h | retried h => exact .of_enqueueJob h.jobs trivial
  | saved h | cleaned h =>
    rw [h.result]
    exact .same _

theorem JobCall.accepted_anyJob (call : JobCall) : call.Accepted AnyJob := by
  cases call <;> trivial

/-- **Every transaction moves the queue along its events.** -/
theorem StoreCall.Performs.moves {response : call.Response} (h : call.Performs db response db') :
    Moves AnyJob db.jobs (call.records response) db'.jobs := by
  cases call with
  | job call =>
    cases h with
    | executed locked =>
      exact JobCall.statement_moves db.jobs locked call.accepted_anyJob
    | unavailable text =>
      exact (JobCall.Performs.unavailable text).moves call.accepted_anyJob
  | _ => exact h.writes.moves fun _ => StoreCall.noConfusion

theorem Performs.moves {r : signature.Response c} (h : Performs db c r db') :
    Moves AnyJob db.jobs (records c r) db'.jobs := by
  cases h with
  | store h => exact h.moves
  | cluster | clock | newId => exact .same _

/-! ### Who holds a job, and who makes it fail -/

/-- The jobs that an owner holds were held before, with the same number of attempts. -/
def KeepsHeld (owner : String) (jobs jobs' : JobTable) : Prop :=
  ∀ row' ∈ jobs'.rows, row'.heldBy owner = true →
    ∃ row ∈ jobs.rows, row.id = row'.id ∧ row.heldBy owner = true ∧ row.attempts = row'.attempts

theorem KeepsHeld.refl (owner : String) (jobs : JobTable) : KeepsHeld owner jobs jobs :=
  fun row hrow hheld => ⟨row, hrow, rfl, hheld, rfl⟩

theorem KeepsHeld.trans {jobs jobs₁ jobs₂ : JobTable} (h : KeepsHeld owner jobs jobs₁)
    (h' : KeepsHeld owner jobs₁ jobs₂) :
    KeepsHeld owner jobs jobs₂ := by
  intro row₂ hrow₂ hheld₂
  obtain ⟨row₁, hrow₁, hid₁, hheld₁, hattempts₁⟩ := h' row₂ hrow₂ hheld₂
  obtain ⟨row, hrow, hid, hheld, hattempts⟩ := h row₁ hrow₁ hheld₁
  exact ⟨row, hrow, hid.trans hid₁, hheld, hattempts.trans hattempts₁⟩

/-- Whoever holds a job after a transition has claimed it, or has held it before. -/
theorem JobTransition.held_of_apply (h : (t.apply row).heldBy owner = true) :
    t.event row = .claimed owner (row.attempts + 1) ∨
      row.heldBy owner = true ∧ (t.apply row).attempts = row.attempts := by
  obtain ⟨hrunning, howner⟩ := JobRow.heldBy_iff.1 h
  cases t with
  | claim other expiresAt now =>
    obtain rfl := Option.some_inj.1 howner
    exact .inl rfl
  | renew | wake => exact .inr ⟨JobRow.heldBy_iff.2 ⟨hrunning, howner⟩, rfl⟩
  | complete | fail | defer | deferWithoutAttempt | park => cases howner

/-- **Only a claim makes an owner hold a job.** -/
theorem Moves.keepsHeld (h : Moves accepts jobs events jobs')
    (hclaims : ∀ record ∈ events, ∀ attempts, record.2 ≠ .claimed owner attempts) :
    KeepsHeld owner jobs jobs' := by
  induction h with
  | same jobs => exact .refl _ _
  | insert id newJob now _ _ hrows _ ih =>
    refine .trans (fun row hrow hheld => ?_) (ih hclaims)
    rcases List.mem_append.1 (hrows ▸ hrow) with hrow | hrow
    · exact ⟨row, hrow, rfl, hheld, rfl⟩
    · rw [List.mem_singleton.1 hrow] at hheld
      cases hheld
  | @write jobs _ _ row t hrow _ _ ih =>
    refine .trans (fun row' hrow' hheld => ?_)
      (ih fun record hrecord => hclaims record (List.mem_cons_of_mem _ hrecord))
    rcases mem_writeJob hrow' with ⟨hmem, -⟩ | ⟨old, hold, hid, rfl⟩
    · exact ⟨row', hmem, rfl, hheld, rfl⟩
    · obtain rfl := jobs.eq_of_key hold hrow hid
      rcases t.held_of_apply hheld with hclaimed | ⟨hbefore, hattempts⟩
      · exact absurd hclaimed (hclaims _ List.mem_cons_self _)
      · exact ⟨old, hold, (t.id_apply old).symm, hbefore, hattempts.symm⟩

/-- A job that failed in a transition was failed by it. -/
theorem JobTransition.failed_of_apply (henabled : t.enabled row = true)
    (h : (t.apply row).status = .failed) :
    ∃ owner, t.event row = .failed owner := by
  cases t with
  | fail owner now => exact ⟨owner, rfl⟩
  | renew owner expiresAt now =>
    rw [JobTransition.apply, (JobRow.heldBy_iff.1 henabled).1] at h
    cases h
  | wake now =>
    simp only [JobTransition.enabled, Bool.and_eq_true, decide_eq_true_eq] at henabled
    rw [JobTransition.apply, henabled.1.2] at h
    cases h
  | claim | complete | defer | deferWithoutAttempt | park => cases h

/-- **Only its holder makes a job fail.** -/
theorem Moves.failed_of_failed (h : Moves accepts jobs events jobs')
    (hfails : ∀ record ∈ events, ∀ owner, record.2 ≠ .failed owner) {row' : JobRow}
    (hrow' : row' ∈ jobs'.rows) (hfailed : row'.status = .failed) : row' ∈ jobs.rows := by
  induction h with
  | same jobs => exact hrow'
  | insert id newJob now _ _ hrows _ ih =>
    rcases List.mem_append.1 (hrows ▸ ih hfails hrow') with hrow | hrow
    · exact hrow
    · rw [List.mem_singleton.1 hrow] at hfailed
      cases hfailed
  | @write jobs _ _ row t hrow henabled _ ih =>
    have hwritten := ih (fun record hrecord => hfails record (List.mem_cons_of_mem _ hrecord))
      hrow'
    rcases mem_writeJob hwritten with ⟨hmem, -⟩ | ⟨old, hold, hid, rfl⟩
    · exact hmem
    · obtain rfl := jobs.eq_of_key hold hrow hid
      obtain ⟨owner, hevent⟩ := t.failed_of_apply henabled hfailed
      exact absurd hevent (hfails _ List.mem_cons_self owner)

/-! ### The system -/

/-- The database, and a record of all that has happened to its jobs. -/
structure ControlPlane where
  database : Database
  journal : List JobRecord

/-- A call is recorded. -/
def ControlPlane.Performs : Semantics signature ControlPlane := fun s c r s' =>
  WorkspaceControl.Performs s.database c r s'.database ∧ s'.journal = s.journal ++ records c r

/-- **The workers of an installation**, each of which runs one job at a time under a name of its
own; around them anybody may make any other transaction. -/
def workers : System signature ControlPlane String where
  semantics _ := ControlPlane.Performs
  environment s s' := ∃ (call : StoreCall) (response : call.Response), call.Attendance ∧
    ControlPlane.Performs s (.store call) response s'
  start owner p := ∃ (worker : Worker) (now : ℤ) (elapsed : ℕ), worker.leaseOwner = owner ∧
    p = (worker.runOnce now elapsed) () >>= fun _ => .done ()

/-- Nothing is running. -/
def idle : String → Option (Program signature Unit) := fun _ => none

/-- Every job that has failed had no attempt left, and rows agree with the journal. -/
structure JobsSound (s : ControlPlane) : Prop where
  history : Tracked RowHistory s.database.jobs s.journal
  exhausted : ∀ row ∈ s.database.jobs.rows, row.status = .failed → maxJobAttempts ≤ row.attempts

/-- What a worker relies on. -/
def Undisturbed (owner : String) (s s' : ControlPlane) : Prop :=
  KeepsHeld owner s.database.jobs s'.database.jobs

/-- The attempts of a job that the owner holds are those it was told with the claim. -/
def Knows (owner : String) (job : ClaimedJob) (s : ControlPlane) : Prop :=
  ∀ row ∈ s.database.jobs.rows, row.id = job.id → row.heldBy owner = true →
    row.attempts = job.attempts

variable {s s' : ControlPlane}

theorem Knows.undisturbed {job : ClaimedJob} (h : Knows owner job s)
    (hrely : Undisturbed owner s s') : Knows owner job s' := by
  intro row' hrow' hid' hheld'
  obtain ⟨row, hrow, hid, hheld, hattempts⟩ := hrely row' hrow' hheld'
  rw [← hattempts]
  exact h row hrow (hid.trans hid') hheld

/-- The calls that neither claim a job nor let one fail. -/
def JobCall.Calm : JobCall → Prop
  | claim .. => False
  | fail .. => False
  | _ => True

def StoreCall.Calm : StoreCall → Prop
  | job call => call.Calm
  | _ => True

def Calm : Call → Prop
  | .store call => call.Calm
  | _ => True

theorem StoreCall.Attendance.calm (h : call.Attendance) : call.Calm := by
  cases call with
  | job call =>
    cases call with
    | claim | fail => exact h trivial
    | _ => trivial
  | _ => trivial

theorem Attendance.calm {c : Call} (h : Attendance c) : Calm c := by
  cases c with
  | store call => exact StoreCall.Attendance.calm h
  | _ => trivial

theorem Calm.records (h : Calm c) (r : signature.Response c) {record : JobRecord}
    (hrecord : record ∈ records c r) (owner : String) :
    (∀ attempts, record.2 ≠ .claimed owner attempts) ∧ record.2 ≠ .failed owner := by
  cases c with
  | cluster | clock | newId => cases hrecord
  | store call =>
    cases call with
    | job call =>
      cases call with
      | claim | fail => exact h.elim
      | enqueue => cases hrecord
      | wake parked now =>
        cases r with
        | error e => cases hrecord
        | ok woken =>
          obtain ⟨id, -, rfl⟩ := List.mem_map.1 hrecord
          exact ⟨fun _ => JobEvent.noConfusion, JobEvent.noConfusion⟩
      | renew | complete | defer | deferWithoutAttempt | park =>
        cases r with
        | error e => cases hrecord
        | ok value =>
          obtain rfl := List.mem_singleton.1 hrecord
          exact ⟨fun _ => JobEvent.noConfusion, JobEvent.noConfusion⟩
    | _ => cases hrecord

section Steps

variable {r : signature.Response c}

theorem ControlPlane.Performs.tracked (h : ControlPlane.Performs s c r s')
    (hs : Tracked RowHistory s.database.jobs s.journal) :
    Tracked RowHistory s'.database.jobs s'.journal := by
  rw [h.2]
  exact hs.moves (tracks_rowHistory _) h.1.moves

/-- A calm call disturbs nobody. -/
theorem ControlPlane.Performs.calm (h : ControlPlane.Performs s c r s') (hc : Calm c)
    (hs : JobsSound s) : JobsSound s' ∧ ∀ owner, Undisturbed owner s s' := by
  refine ⟨⟨h.tracked hs.history, fun row hrow hfailed => ?_⟩, fun owner => ?_⟩
  · refine hs.exhausted row ?_ hfailed
    exact h.1.moves.failed_of_failed (fun record hrecord owner =>
      (hc.records r hrecord owner).2) hrow hfailed
  · exact h.1.moves.keepsHeld fun record hrecord => (hc.records r hrecord owner).1

/-- A claim disturbs nobody but its caller, who knows the attempts of the job. -/
theorem ControlPlane.Performs.claim {now : ℤ} {seconds : ℕ}
    {r : (JobCall.claim owner now seconds).Response}
    (h : ControlPlane.Performs s (.store (.job (.claim owner now seconds))) r s')
    (hs : JobsSound s) : JobsSound s' ∧ (∀ other, other ≠ owner → Undisturbed other s s') ∧
      ∀ job, r = .ok (some job) → Knows owner job s' := by
  have hrecords : ∀ record ∈ WorkspaceControl.records (.store (.job (.claim owner now seconds))) r,
      ∃ attempts, record.2 = .claimed owner attempts := by
    intro record hrecord
    match r with
    | .error e => cases hrecord
    | .ok none => cases hrecord
    | .ok (some job) => exact ⟨job.attempts, by rw [List.mem_singleton.1 hrecord]⟩
  refine ⟨⟨h.tracked hs.history, fun row hrow hfailed => ?_⟩, fun other hne => ?_, ?_⟩
  · refine hs.exhausted row (h.1.moves.failed_of_failed (fun record hrecord other => ?_) hrow
      hfailed) hfailed
    obtain ⟨attempts, hevent⟩ := hrecords record hrecord
    rw [hevent]
    exact JobEvent.noConfusion
  · refine h.1.moves.keepsHeld fun record hrecord attempts => ?_
    obtain ⟨attempts', hevent⟩ := hrecords record hrecord
    rw [hevent]
    exact fun heq => hne (JobEvent.claimed.inj heq).1.symm
  · rintro job rfl row' hrow' hid' -
    -- the row of the job is the one the claim has written
    obtain ⟨hperforms, -⟩ := h
    cases hperforms with
    | store hperforms =>
      obtain ⟨locked, hstatement, -⟩ := hperforms.statement_of_ok
      rcases claimJob_eq_ok (settle_eq_ok.1 hstatement) with
        ⟨hnone, -⟩ | ⟨row, hrow, e, -, -, hjob, hjobs⟩
      · cases hnone
      · obtain rfl := Option.some_inj.1 hjob
        rw [hjobs] at hrow'
        rcases mem_writeJob hrow' with ⟨-, hne⟩ | ⟨old, hold, hid, rfl⟩
        · exact absurd hid' hne
        · rw [s.database.jobs.eq_of_key hold hrow hid]
          rfl

/-- A job whose attempts are used up may fail. -/
theorem ControlPlane.Performs.fail {job : ClaimedJob} {now : ℤ}
    {r : (JobCall.fail job.id owner now).Response}
    (h : ControlPlane.Performs s (.store (.job (.fail job.id owner now))) r s') (hs : JobsSound s)
    (hknows : Knows owner job s) (hlast : maxJobAttempts ≤ job.attempts) :
    JobsSound s' ∧ ∀ other, Undisturbed other s s' := by
  have hrecords : ∀ record ∈ WorkspaceControl.records (.store (.job (.fail job.id owner now))) r,
      record.2 = .failed owner := by
    intro record hrecord
    match r with
    | .error e => cases hrecord
    | .ok () => rw [List.mem_singleton.1 hrecord]
  refine ⟨⟨h.tracked hs.history, fun row' hrow' hfailed => ?_⟩, fun other => ?_⟩
  · obtain ⟨hperforms, -⟩ := h
    cases hperforms with
    | store hperforms =>
      match r with
      | .error e =>
        rw [hperforms.eq_of_error] at hrow'
        exact hs.exhausted row' hrow' hfailed
      | .ok () =>
        obtain ⟨locked, hstatement, -⟩ := hperforms.statement_of_ok
        obtain ⟨⟨row, hrow, hid, hheld⟩, hjobs⟩ :=
          updateHeld_eq_ok.1 (settleUnit_eq_ok.1 hstatement)
        rw [hjobs] at hrow'
        rcases mem_writeJob hrow' with ⟨hmem, -⟩ | ⟨old, hold, hid', rfl⟩
        · exact hs.exhausted row' hmem hfailed
        · obtain rfl := s.database.jobs.eq_of_key hold hrow (hid'.trans hid.symm)
          exact hlast.trans (hknows old hold hid hheld).ge
  · refine h.1.moves.keepsHeld fun record hrecord attempts => ?_
    rw [hrecords record hrecord]
    exact JobEvent.noConfusion

end Steps

/-! ### A run of a worker -/

section Run

variable {worker : Worker} {job : ClaimedJob}

/-- What a worker guarantees to the others. -/
abbrev Worker.Guarantees (worker : Worker) : Semantics signature ControlPlane :=
  fun s _ _ s' => JobsSound s' ∧ ∀ other, other ≠ worker.leaseOwner → Undisturbed other s s'

/-- What it relies on. -/
abbrev Worker.Relies (worker : Worker) : ControlPlane → ControlPlane → Prop :=
  fun s s' => Undisturbed worker.leaseOwner s s' ∧ JobsSound s'

/-- A routine of a worker, from a state where it knows the job. -/
def Worker.Runs {ε α : Type} (worker : Worker) (job : ClaimedJob)
    (x : Routine signature Unit ε α) : Prop :=
  ∀ s, JobsSound s ∧ Knows worker.leaseOwner job s →
    x.Holds ControlPlane.Performs worker.Relies worker.Guarantees
      (fun _ _ s' => JobsSound s' ∧ Knows worker.leaseOwner job s') () s

theorem ControlPlane.Performs.exists_performs {r : signature.Response c}
    (h : ControlPlane.Performs s c r s') :
    ∃ db db', WorkspaceControl.Performs db c r db' := ⟨_, _, h.1⟩

variable {α ε ε' : Type}

variable {x : Routine signature Unit ε α}

theorem Worker.runs_of_calm
    (h : ∀ s, x.Holds ControlPlane.Performs worker.Relies (fun _ c _ _ => Calm c)
      (fun _ _ _ => True) () s) : worker.Runs job x := by
  intro s hs
  have hkept := (Program.Meets.with_semantics (h s)).and_invariant
    (I := fun s => JobsSound s ∧ Knows worker.leaseOwner job s) hs ?_ ?_
  · refine (hkept.mono fun _ _ hpost => hpost.2).mono_guar ?_
    intro s₁ c r s₂ hguar
    obtain ⟨⟨hcalm, hperforms⟩, hs₁, hs₂⟩ := hguar
    exact ⟨hs₂.1, fun other _ => (hperforms.calm hcalm hs₁.1).2 other⟩
  · exact fun s₁ s₂ hs₁ hrely => ⟨hrely.2, hs₁.2.undisturbed hrely.1⟩
  · intro s₁ c r s₂ hs₁ hperforms hguar
    obtain ⟨hsound, hothers⟩ := hperforms.calm hguar.1 hs₁.1
    exact ⟨hsound, hs₁.2.undisturbed (hothers _)⟩

theorem Worker.runs_of_attends (h : Attends ControlPlane.Performs worker.Relies x) :
    worker.Runs job x :=
  runs_of_calm fun s => Program.Meets.mono_guar (h s) fun _ _ _ _ => Attendance.calm

theorem Worker.runs_pure (a : α) :
    worker.Runs job (pure a : Routine signature Unit ε α) := fun _ hs => hs

theorem Worker.runs_bind {ε α β : Type} {x : Routine signature Unit ε α}
    {f : α → Routine signature Unit ε β} (hx : worker.Runs job x)
    (hf : ∀ a, worker.Runs job (f a)) : worker.Runs job (x >>= f) := by
  intro s hs
  refine (holds_bind _ _ _).2 ((hx s hs).mono fun a _ s' hs' => ?_)
  cases a with
  | ok a => exact hf a s' hs'
  | error e => exact hs'

theorem Worker.runs_result (hx : worker.Runs job x) :
    worker.Runs job (result x : Routine signature Unit ε' (Except ε α)) :=
  fun s hs => (holds_result _ _).2 (hx s hs)

theorem Worker.runs_attempt {f : ε' → ε} (r : Except ε' α) :
    worker.Runs job (attempt f r : Routine signature Unit ε α) := by
  cases r with
  | ok | error => exact fun _ hs => hs

theorem Worker.runs_transact {call : StoreCall} (hcall : call.Calm) :
    worker.Runs job (transact id call : Routine signature Unit StorageError call.Value) :=
  runs_of_calm fun _ _ _ _ _ _ => ⟨hcall, trivial⟩

theorem Worker.parkWorkspaceForReadiness_runs (payload : Payload) (now : ℤ) :
    worker.Runs job (worker.parkWorkspaceForReadiness job payload now) := by
  refine runs_bind (runs_of_calm fun _ _ _ _ _ _ => ⟨trivial, trivial⟩) fun nonce => ?_
  exact runs_bind (runs_transact trivial) fun _ => runs_pure ()

/-- The only routine that lets a job fail, and it does so on the last attempt only. -/
theorem Worker.persistFailedJob_runs (now : ℤ) :
    worker.Runs job (worker.persistFailedJob job now) := by
  unfold Worker.persistFailedJob
  split
  · rename_i hlast
    refine runs_bind (runs_of_attends (worker.onTerminalFailure_attends job now
      fun _ _ _ _ h => h.exists_performs)) fun _ s hs => ?_
    intro s₁ hrely r s₂ hperforms
    have hknows := hs.2.undisturbed hrely.1
    obtain ⟨hsound, hothers⟩ := ControlPlane.Performs.fail hperforms hrely.2 hknows hlast
    exact ⟨⟨hsound, fun other _ => hothers other⟩, hsound, hknows.undisturbed (hothers _)⟩
  · exact runs_transact trivial

theorem Worker.persistJobResult_runs (now : ℤ) (outcome : Except JobHandlerError Unit) :
    worker.Runs job (worker.persistJobResult job now outcome) := by
  unfold Worker.persistJobResult
  split
  · exact runs_transact trivial
  · exact parkWorkspaceForReadiness_runs _ now
  · exact runs_transact trivial
  · exact persistFailedJob_runs now

theorem Worker.runJob_runs (now : ℤ) (elapsed : ℕ) :
    worker.Runs job (worker.runJob now elapsed job) := by
  have hacquire : worker.Runs job (worker.acquireLease job now) := by
    unfold Worker.acquireLease
    split
    · exact runs_pure true
    · exact runs_transact trivial
  have hrelease : worker.Runs job (worker.releaseLease job) := by
    unfold Worker.releaseLease
    split
    · exact runs_pure ()
    · exact runs_transact trivial
  refine runs_bind hacquire fun acquired => ?_
  split
  · refine runs_bind (runs_result (runs_of_attends (worker.handle_attends job
      fun _ _ _ _ h => h.exists_performs))) fun outcome => ?_
    refine runs_bind (runs_result (persistJobResult_runs _ outcome)) fun persisted => ?_
    exact runs_bind hrelease fun _ => runs_attempt persisted
  · exact runs_transact trivial

/-- **A run of a worker keeps the queue sound next to the others.** -/
theorem workers_sound : workers.RelyGuarantee JobsSound Undisturbed where
  refl owner s := .refl owner _
  trans owner s₁ s₂ s₃ := .trans
  environment s s' hs henv := by
    obtain ⟨call, response, hcall, hperforms⟩ := henv
    exact hperforms.calm (c := .store call) hcall.calm hs
  start owner p s hs hstart := by
    obtain ⟨worker, now, elapsed, rfl, rfl⟩ := hstart
    refine (Program.meets_bind _ _ _ _).2 ?_
    intro s₁ hrely r s₂ hperforms
    obtain ⟨hsound, hothers, hknows⟩ := ControlPlane.Performs.claim hperforms hrely.2
    refine ⟨⟨hsound, hothers⟩, ?_⟩
    match r with
    | .error e => trivial
    | .ok none => trivial
    | .ok (some job) =>
      have hrun := Worker.runs_bind (Worker.runJob_runs now elapsed)
        (fun _ => Worker.runs_pure true) s₂ ⟨hsound, hknows job rfl⟩
      exact Program.Meets.mono hrun fun _ _ _ => trivial

end Run

/-! ### The queue over all interleavings -/

variable {C C' : Configuration signature ControlPlane String}

theorem workers_moves (h : workers.Step C C') :
    ∃ events, Moves AnyJob C.store.database.jobs events C'.store.database.jobs := by
  cases h with
  | environment henv =>
    obtain ⟨call, response, -, hperforms⟩ := henv
    exact ⟨_, hperforms.1.moves⟩
  | call i c next r _ hcall => exact ⟨_, hcall.1.moves⟩
  | start | stop => exact ⟨_, .same _⟩

/-- What a job has become is final once it is finished. -/
theorem mem_of_steps_of_finished (h : workers.Steps C C') (hrow : row ∈ C.store.database.jobs.rows)
    (hfinished : row.status = .completed ∨ row.status = .failed) :
    row ∈ C'.store.database.jobs.rows := by
  induction h with
  | refl => exact hrow
  | tail _ hstep ih =>
    obtain ⟨events, hmoves⟩ := workers_moves hstep
    exact mem_of_moves_of_finished hmoves ih hfinished

/-- **The queue over all interleavings** of any number of workers, from an empty queue on: a job
is running exactly while both lease columns are set; its attempts are its claims less its parks
and deferrals without an attempt; a finished job does not change again; and a job fails only on a
claim that was its last attempt. -/
theorem jobs_agree_with_journal {db : Database} (hempty : db.jobs = .empty _)
    {C C' : Configuration signature ControlPlane String}
    (hreached : workers.Steps ⟨⟨db, []⟩, idle⟩ C) (hlater : workers.Steps C C') {row : JobRow}
    (hrow : row ∈ C.store.database.jobs.rows) :
    (row.status = .running ↔
      row.leaseOwner.isSome = true ∧ row.leaseExpiresAt.isSome = true) ∧
    (row.status = .completed ∨ row.status = .failed → row ∈ C'.store.database.jobs.rows) ∧
    row.attempts = eventCount C.store.journal row.id JobEvent.isClaim -
      eventCount C.store.journal row.id JobEvent.isPark -
      eventCount C.store.journal row.id JobEvent.isDeferralWithoutAttempt ∧
    0 ≤ row.attempts ∧
    (row.status = .failed → lastClaim C.store.journal row.id = some row.attempts ∧
      maxJobAttempts ≤ row.attempts) := by
  have hstart : JobsSound ⟨db, []⟩ := by
    refine ⟨?_, fun row hrow => ?_⟩
    · rw [hempty]
      exact .empty _
    · rw [hempty] at hrow
      cases hrow
  have hsound := workers_sound.invariant_of_steps hstart hreached
  have hhistory := hsound.history.rows row hrow
  refine ⟨hhistory.running_iff, mem_of_steps_of_finished hlater hrow, ?_, hhistory.nonneg, ?_⟩
  · rw [hhistory.attempts, attemptBalance_eq]
  · intro hfailed
    exact ⟨(hhistory.claimed (by simp [hfailed])).2, hsound.exhausted row hrow hfailed⟩

/-! ### Small runs

Workers whose transactions all commit, over the small cluster. -/

/-- Every transaction is executed, and the cluster and the clock answer. -/
def sampleReply (answers : (call : ClusterCall) → call.Response) (now : ℤ) (db : Database) :
    (c : signature.Call) → signature.Response c × Database
  | .store call => call.transaction db fun _ => false
  | .cluster call => (answers call, db)
  | .clock => (.ok now, db)
  | .newId => (sampleJobId, db)

theorem sampleReply_performs (answers : (call : ClusterCall) → call.Response) (now : ℤ)
    (db : Database) (c : signature.Call) :
    Performs db c (sampleReply answers now db c).1 (sampleReply answers now db c).2 := by
  cases c with
  | store call => exact .store (.executed fun _ => false)
  | cluster call => exact .cluster _ _
  | clock => exact .clock _
  | newId => exact .newId _

/-- The reply to a call, with its record. -/
def ControlPlane.reply (answers : (call : ClusterCall) → call.Response) (now : ℤ)
    (s : ControlPlane) (c : signature.Call) : signature.Response c × ControlPlane :=
  ((sampleReply answers now s.database c).1,
    ⟨(sampleReply answers now s.database c).2,
      s.journal ++ records c (sampleReply answers now s.database c).1⟩)

theorem ControlPlane.performs_reply (answers : (call : ClusterCall) → call.Response) (now : ℤ)
    (s : ControlPlane) (c : signature.Call) :
    ControlPlane.Performs s c (s.reply answers now c).1 (s.reply answers now c).2 :=
  ⟨sampleReply_performs answers now s.database c, rfl⟩

/-- A transaction around the workers that is executed. -/
def ControlPlane.after (s : ControlPlane) (call : StoreCall) : ControlPlane :=
  ⟨call.after s.database, s.journal ++ call.records (call.transaction s.database fun _ => false).1⟩

theorem workers_step_after (s : ControlPlane) (hcall : call.Attendance)
    (running : String → Option (Program signature Unit)) :
    workers.Step ⟨s, running⟩ ⟨s.after call, running⟩ :=
  .environment ⟨call, _, hcall, .store (.executed fun _ => false), rfl⟩

def sampleWorker : Worker := ⟨"worker", sampleUserId, true⟩

/-- One run of a worker, up to some call. -/
def Worker.program (worker : Worker) (now : ℤ) : Program signature Unit :=
  (worker.runOnce now 0) () >>= fun _ => .done ()

theorem Worker.start_program (worker : Worker) (now : ℤ) :
    workers.start worker.leaseOwner (worker.program now) := ⟨worker, now, 0, rfl, rfl⟩

def sampleWebhook : NewJob := ⟨.deliverWebhook, none, .object [], 10⟩

/-- A webhook in the queue, which the sample worker has claimed. -/
def sampleClaimed : ControlPlane :=
  ((sampleWorker.program 20).advance (ControlPlane.reply sampleAnswer 20) 1
    (ControlPlane.after ⟨sampleDatabase .ready, []⟩
      (.job (.enqueue sampleJobId sampleWebhook 10)))).2

theorem steps_sampleClaimed :
    workers.Steps ⟨⟨sampleDatabase .ready, []⟩, idle⟩ ⟨sampleClaimed, idle⟩ :=
  have hcall : StoreCall.Attendance (.job (.enqueue sampleJobId sampleWebhook 10)) := id
  .head (workers_step_after _ hcall _)
    (System.steps_run (M := workers) (i := sampleWorker.leaseOwner)
      (ControlPlane.performs_reply _ _) 1 (sampleWorker.start_program 20) _ rfl)

/-- The claim is the first attempt. -/
theorem jobs_agree_with_journal_sample : ∃ row ∈ sampleClaimed.database.jobs.rows,
    row.status = .running ∧ row.attempts =
      eventCount sampleClaimed.journal row.id JobEvent.isClaim -
      eventCount sampleClaimed.journal row.id JobEvent.isPark -
      eventCount sampleClaimed.journal row.id JobEvent.isDeferralWithoutAttempt ∧
    (row.leaseOwner.isSome = true ∧ row.leaseExpiresAt.isSome = true) := by
  have hrow : ∃ row ∈ sampleClaimed.database.jobs.rows, row.status = .running := by decide +kernel
  obtain ⟨row, hrow, hrunning⟩ := hrow
  obtain ⟨hlease, -, hattempts, -⟩ :=
    jobs_agree_with_journal rfl steps_sampleClaimed .refl hrow
  exact ⟨row, hrow, hrunning, hattempts, hlease.1 hrunning⟩

end WorkspaceControl
