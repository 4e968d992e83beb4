/-
**Histories of the job queue.**

The calls that processes make on the queue, what each may answer, and the events a history of
calls consists of.  A call may always fail with a database error and then leaves the table alone.

Main definitions:

* `JobCall`, `JobCall.Response`, `JobCall.Performs` — the calls, their responses and their effect;
* `Moves` — a sequence of enabled transitions, or one new row, with its events;
* `JobRun`, `replay` — calls one after the other, by anyone and in any order;
* `RowHistory` — the agreement of a row with the events of its job.

Main results:

* `JobCall.Performs.moves` — every call is a sequence of enabled transitions, with its events;
* `Tracked.moves` — what one transition keeps, any sequence of moves keeps;
* `tracks_rowHistory` — **rows agree with their history**: the lease columns are set exactly
  while the job is running, and `attempts` counts the claims that were not given back;
* `mem_of_moves_of_finished` — a completed or failed row is never written again.
-/
import Mathlib.Algebra.BigOperators.Group.List.Basic
import WorkspaceControl.JobStore

set_option autoImplicit false

namespace WorkspaceControl

open Fallible Relational

/-! ### Calls -/

/-- A call on the queue, with the values its caller supplies. -/
inductive JobCall
  | enqueue (id : Uuid) (newJob : NewJob) (now : ℤ)
  | claim (owner : String) (now : ℤ) (seconds : ℕ)
  | renew (job : Uuid) (owner : String) (now : ℤ) (seconds : ℕ)
  | complete (job : Uuid) (owner : String) (now : ℤ)
  | fail (job : Uuid) (owner : String) (now : ℤ)
  | defer (job : Uuid) (owner : String) (availableAt now : ℤ)
  | deferWithoutAttempt (job : Uuid) (owner : String) (availableAt now : ℤ)
  | park (job : Uuid) (owner : String) (payload : Payload) («until» now : ℤ) (nonce : Uuid)
  | wake (parked : List ParkedWorkspaceJob) (now : ℤ)

variable {jobs₁ jobs₂ : JobTable} {call : JobCall}

namespace JobCall

/-- What a call returns when it succeeds. -/
abbrev Value : JobCall → Type
  | claim .. => Option ClaimedJob
  | park .. => Payload
  | wake .. => List Uuid
  | _ => Unit

/-- What a call returns. -/
abbrev Response (call : JobCall) : Type := Except StorageError call.Value

/-- The statements behind the calls; `locked` is what a claim has to skip. -/
def statement (jobs : JobTable) (locked : Uuid → Bool) :
    (call : JobCall) → call.Response × JobTable
  | enqueue id newJob now => settleUnit (enqueueJob jobs id newJob now) jobs
  | claim owner now seconds => settle (claimJob jobs locked owner now seconds) jobs
  | renew job owner now seconds => settleUnit (renewJobLease jobs job owner now seconds) jobs
  | complete job owner now => settleUnit (completeJob jobs job owner now) jobs
  | fail job owner now => settleUnit (failJob jobs job owner now) jobs
  | defer job owner availableAt now => settleUnit (deferJob jobs job owner availableAt now) jobs
  | deferWithoutAttempt job owner availableAt now =>
    settleUnit (deferJobWithoutAttempt jobs job owner availableAt now) jobs
  | park job owner payload t now nonce =>
    settle (parkWorkspaceJob jobs job owner payload t now nonce) jobs
  | wake parked now => settle (.ok (wakeParkedWorkspaceJobs jobs parked now)) jobs

variable {jobs jobs' : JobTable}

theorem statement_error {locked : Uuid → Bool} {e : StorageError}
    (h : call.statement jobs locked = (.error e, jobs')) : jobs' = jobs := by
  cases call with
  | claim | park => exact (settle_eq_error.1 h).2
  | wake parked now => cases (Prod.mk.inj h).1
  | _ => exact (settleUnit_eq_error.1 h).2

/-- The effect of a call: the statement is executed, or the database is not available. -/
inductive Performs (jobs : JobTable) (call : JobCall) : call.Response → JobTable → Prop
  | executed (locked : Uuid → Bool) :
      Performs jobs call (call.statement jobs locked).1 (call.statement jobs locked).2
  | unavailable (text : String) : Performs jobs call (.error (.database text)) jobs

theorem Performs.statement_of_ok {value : call.Value} (h : call.Performs jobs (.ok value) jobs') :
    ∃ locked, call.statement jobs locked = (.ok value, jobs') := by
  generalize hresponse : (Except.ok value : call.Response) = response at h
  cases h with
  | executed locked => exact ⟨locked, rfl⟩
  | unavailable text => cases hresponse

theorem Performs.claimJob_of_ok {owner : String} {now : ℤ} {seconds : ℕ}
    {claimed : Option ClaimedJob}
    (h : (JobCall.claim owner now seconds).Performs jobs (.ok claimed) jobs') :
    ∃ locked, claimJob jobs locked owner now seconds = .ok (claimed, jobs') := by
  obtain ⟨locked, hstatement⟩ := h.statement_of_ok
  exact ⟨locked, settle_eq_ok.1 hstatement⟩

end JobCall

/-! ### Events -/

/-- What happened to a job, and on whose lease. -/
inductive JobEvent
  | claimed (owner : String) (attempts : ℤ)
  | renewed (owner : String)
  | completed (owner : String)
  | failed (owner : String)
  | deferred (owner : String)
  | deferredWithoutAttempt (owner : String)
  | parked (owner : String) (nonce : Uuid) (payload : Payload) («until» : ℤ)
  | woken

/-- An event of a job. -/
abbrev JobRecord : Type := Uuid × JobEvent

/-- The event of a transition of a row. -/
def JobTransition.event (row : JobRow) : JobTransition → JobEvent
  | claim owner .. => .claimed owner (row.attempts + 1)
  | renew owner .. => .renewed owner
  | complete owner _ => .completed owner
  | fail owner _ => .failed owner
  | defer owner .. => .deferred owner
  | deferWithoutAttempt owner .. => .deferredWithoutAttempt owner
  | park owner payload t _ nonce => .parked owner nonce (parkedPayload payload t nonce) t
  | wake .. => .woken

/-- The events of a call, read off its answer. -/
def JobCall.events : (call : JobCall) → call.Response → List JobRecord
  | claim owner .., .ok (some job) => [(job.id, .claimed owner job.attempts)]
  | renew job owner .., .ok () => [(job, .renewed owner)]
  | complete job owner _, .ok () => [(job, .completed owner)]
  | fail job owner _, .ok () => [(job, .failed owner)]
  | defer job owner .., .ok () => [(job, .deferred owner)]
  | deferWithoutAttempt job owner .., .ok () => [(job, .deferredWithoutAttempt owner)]
  | park job owner _ t _ nonce, .ok stored => [(job, .parked owner nonce stored t)]
  | wake .., .ok woken => woken.map fun id => (id, .woken)
  | _, _ => []

/-- A table moves along events: each is an enabled transition of a row; new jobs, all of which
`accepts` holds for, may appear in between. -/
inductive Moves (accepts : NewJob → Prop) : JobTable → List JobRecord → JobTable → Prop
  | same (jobs : JobTable) : Moves accepts jobs [] jobs
  | insert {jobs jobs₁ jobs' events} (id : Uuid) (newJob : NewJob)
      (now : ℤ) (haccepts : accepts newJob) (hnew : ∀ row ∈ jobs.rows, row.id ≠ id)
      (hrows : jobs₁.rows = jobs.rows ++ [newJobRow id newJob now])
      (hrest : Moves accepts jobs₁ events jobs') : Moves accepts jobs events jobs'
  | write {jobs jobs' events} (row : JobRow) (t : JobTransition)
      (hrow : row ∈ jobs.rows) (henabled : t.enabled row = true)
      (hrest : Moves accepts (writeJob jobs row.id t) events jobs') :
      Moves accepts jobs ((row.id, t.event row) :: events) jobs'

/-- What `accepts` has to say of the job of a call. -/
def JobCall.Accepted (accepts : NewJob → Prop) : JobCall → Prop
  | enqueue _ newJob _ => accepts newJob
  | _ => True

/-! ### Every call moves the table -/

section Moves

variable {accepts : NewJob → Prop}

theorem Moves.of_updateHeld {jobs jobs' : JobTable} {job : Uuid} {owner : String}
    {t : JobTransition} {event : JobEvent} (h : updateHeld jobs job owner t = .ok jobs')
    (henabled : ∀ row : JobRow, row.heldBy owner = true → t.enabled row = true)
    (hevent : ∀ row : JobRow, t.event row = event) : Moves accepts jobs [(job, event)] jobs' := by
  obtain ⟨⟨row, hrow, rfl, hheld⟩, rfl⟩ := updateHeld_eq_ok.1 h
  rw [← hevent row]
  exact .write row t hrow (henabled row hheld) (.same _)

/-- Waking is one transition after the other: a row that was woken is not pending in the future
any more, so no row is woken twice. -/
theorem Moves.of_wake (jobs : JobTable) (now : ℤ) (ids : List Uuid) (hnodup : ids.Nodup)
    (h : ∀ id ∈ ids, ∃ row ∈ jobs.rows, row.id = id ∧ (JobTransition.wake now).enabled row = true) :
    Moves accepts jobs (ids.map fun id => (id, .woken))
      (ids.foldl (fun jobs id => writeJob jobs id (.wake now)) jobs) := by
  induction ids generalizing jobs with
  | nil => exact .same _
  | cons id ids ih =>
    obtain ⟨hid, hnodup'⟩ := List.nodup_cons.1 hnodup
    obtain ⟨row, hrow, rfl, henabled⟩ := h id List.mem_cons_self
    refine .write row (.wake now) hrow henabled (ih _ hnodup' fun other hother => ?_)
    obtain ⟨row', hrow', rfl, henabled'⟩ := h other (List.mem_cons_of_mem _ hother)
    refine ⟨row', Table.mem_update_of_not hrow' ?_, rfl, henabled'⟩
    simpa using fun heq : row'.id = row.id => hid (heq ▸ hother)

theorem Moves.of_settle {α : Type} {jobs jobs' : JobTable}
    {result : Except StorageError (α × JobTable)} {response : Except StorageError α}
    {events : Except StorageError α → List JobRecord}
    (h : settle result jobs = (response, jobs')) (herror : ∀ e, events (.error e) = [])
    (hok : ∀ a, result = .ok (a, jobs') → Moves accepts jobs (events (.ok a)) jobs') :
    Moves accepts jobs (events response) jobs' := by
  rcases settle_cases h with ⟨a, rfl, hresult⟩ | ⟨e, rfl, -, rfl⟩
  · exact hok a hresult
  · rw [herror e]
    exact .same _

theorem Moves.of_settleUnit {jobs jobs' : JobTable} {result : Except StorageError JobTable}
    {response : Except StorageError Unit} {events : Except StorageError Unit → List JobRecord}
    (h : settleUnit result jobs = (response, jobs')) (herror : ∀ e, events (.error e) = [])
    (hok : result = .ok jobs' → Moves accepts jobs (events (.ok ())) jobs') :
    Moves accepts jobs (events response) jobs' := by
  refine Moves.of_settle h herror fun _ hmap => hok ?_
  obtain ⟨_, hresult, hpair⟩ := map_eq_ok.1 hmap
  exact (Prod.mk.inj hpair).2 ▸ hresult

/-- **Every call moves the table along its events.** -/
theorem JobCall.statement_moves (jobs : JobTable) (locked : Uuid → Bool)
    (haccepted : call.Accepted accepts) : Moves accepts jobs
      (call.events (call.statement jobs locked).1) (call.statement jobs locked).2 := by
  cases call with
  | enqueue id newJob now =>
    refine Moves.of_settleUnit rfl (fun _ => rfl) fun h => ?_
    obtain ⟨hnew, hrows⟩ := enqueueJob_eq_ok h
    exact .insert id newJob now haccepted hnew hrows (.same _)
  | claim owner now seconds =>
    refine Moves.of_settle rfl (fun _ => rfl) fun claimed h => ?_
    rcases claimJob_eq_ok h with ⟨rfl, hjobs⟩ | ⟨row, hrow, e, hclaim, -, rfl, hjobs⟩
    · rw [hjobs]
      exact .same _
    · rw [hjobs]
      exact .write row (.claim owner e now) hrow hclaim (.same _)
  | renew job owner now seconds =>
    refine Moves.of_settleUnit rfl (fun _ => rfl) fun h => ?_
    obtain ⟨e, -, h⟩ := bind_eq_ok.1 h
    exact Moves.of_updateHeld h (fun _ hheld => hheld) fun _ => rfl
  | complete | fail | defer | deferWithoutAttempt =>
    exact Moves.of_settleUnit rfl (fun _ => rfl) fun h =>
      Moves.of_updateHeld h (fun _ hheld => hheld) fun _ => rfl
  | park job owner payload t now nonce =>
    refine Moves.of_settle rfl (fun _ => rfl) fun stored h => ?_
    obtain ⟨hobject, rfl, hheld⟩ := parkWorkspaceJob_eq_ok.1 h
    refine Moves.of_updateHeld hheld (fun row hrow => ?_) fun _ => rfl
    simp [JobTransition.enabled, hobject, hrow]
  | wake parked now =>
    change Moves accepts jobs ((wakeParkedWorkspaceJobs jobs parked now).1.map fun id => (id, .woken))
      (wakeParkedWorkspaceJobs jobs parked now).2
    rw [wakeParkedWorkspaceJobs_eq]
    refine Moves.of_wake jobs now _ ?_ fun id hid => ?_
    · exact (List.Sublist.map JobRow.id List.filter_sublist).nodup jobs.nodup
    · obtain ⟨row, hrow, rfl⟩ := List.mem_map.1 hid
      obtain ⟨hmem, hmatched⟩ := List.mem_filter.1 hrow
      obtain ⟨descriptor, -, hmatches⟩ := List.any_eq_true.1 hmatched
      obtain ⟨-, hkind, hpending, hfuture, -⟩ := ParkedWorkspaceJob.matches_iff.1 hmatches
      exact ⟨row, hmem, rfl, by simp [JobTransition.enabled, hkind, hpending, hfuture]⟩

theorem JobCall.Performs.moves {jobs jobs' : JobTable} {response : call.Response}
    (h : call.Performs jobs response jobs') (haccepted : call.Accepted accepts) :
    Moves accepts jobs (call.events response) jobs' := by
  cases h with
  | executed locked => exact statement_moves jobs locked haccepted
  | unavailable text =>
    have hnone : call.events (.error (.database text)) = [] := by cases call <;> rfl
    rw [hnone]
    exact .same _

theorem Moves.trans {jobs : JobTable} {events events' : List JobRecord}
    (h : Moves accepts jobs events jobs₁) (h' : Moves accepts jobs₁ events' jobs₂) :
    Moves accepts jobs (events ++ events') jobs₂ := by
  induction h with
  | same jobs => exact h'
  | insert id newJob now haccepts hnew hrows hrest ih =>
    exact .insert id newJob now haccepts hnew hrows (ih h')
  | write row t hrow henabled hrest ih => exact .write row t hrow henabled (ih h')

end Moves

/-! ### Runs -/

/-- A call with its answer. -/
structure JobStep where
  call : JobCall
  response : call.Response

def JobStep.events (step : JobStep) : List JobRecord := step.call.events step.response

/-- Calls of any processes, one after the other. -/
inductive JobRun : JobTable → List JobStep → JobTable → Prop
  | nil (jobs : JobTable) : JobRun jobs [] jobs
  | cons {jobs jobs₁ jobs' : JobTable} {steps : List JobStep} (step : JobStep)
      (hstep : step.call.Performs jobs step.response jobs₁) (hrest : JobRun jobs₁ steps jobs') :
      JobRun jobs (step :: steps) jobs'

/-- The events of a run. -/
def journal (steps : List JobStep) : List JobRecord := steps.flatMap JobStep.events

variable {accepts : NewJob → Prop} {jobs jobs' : JobTable} {row : JobRow} {steps : List JobStep}

theorem JobRun.moves (h : JobRun jobs steps jobs')
    (haccepted : ∀ step ∈ steps, step.call.Accepted accepts) :
    Moves accepts jobs (journal steps) jobs' := by
  induction h with
  | nil jobs => exact .same jobs
  | cons step hstep hrest ih =>
    exact (hstep.moves (haccepted step List.mem_cons_self)).trans
      (ih fun step hmem => haccepted step (List.mem_cons_of_mem _ hmem))

/-- Nothing is required of the jobs that a run enqueues. -/
theorem JobRun.moves' (h : JobRun jobs steps jobs') :
    Moves (fun _ => True) jobs (journal steps) jobs' :=
  h.moves fun step _ => by cases step.call <;> trivial

theorem JobRun.append {steps steps' : List JobStep} (h : JobRun jobs steps jobs₁)
    (h' : JobRun jobs₁ steps' jobs₂) :
    JobRun jobs (steps ++ steps') jobs₂ := by
  induction h with
  | nil jobs => exact h'
  | cons step hstep hrest ih => exact .cons step hstep (ih h')

/-- The run of calls that find the database available and nothing locked. -/
def replay (jobs : JobTable) : List JobCall → List JobStep × JobTable
  | [] => ([], jobs)
  | call :: calls =>
    let (response, jobs₁) := call.statement jobs fun _ => false
    let (steps, jobs') := replay jobs₁ calls
    (⟨call, response⟩ :: steps, jobs')

theorem replay_run (jobs : JobTable) (calls : List JobCall) :
    JobRun jobs (replay jobs calls).1 (replay jobs calls).2 := by
  induction calls generalizing jobs with
  | nil => exact .nil jobs
  | cons call calls ih => exact .cons _ (.executed fun _ => false) (ih _)

/-! ### Properties of a row and its history -/

/-- A property of the events and the row of a job that transitions keep: it does not look at the
events of other jobs, and it holds of a new job. -/
structure Tracks (accepts : NewJob → Prop) (P : List JobRecord → JobRow → Prop) : Prop where
  other : ∀ {events : List JobRecord} {row : JobRow} {record : JobRecord}, P events row →
    record.1 ≠ row.id → P (events ++ [record]) row
  apply : ∀ {events : List JobRecord} {row : JobRow} {t : JobTransition}, P events row →
    t.enabled row = true → P (events ++ [(row.id, t.event row)]) (t.apply row)
  new : ∀ {events : List JobRecord} {id : Uuid} {newJob : NewJob} (now : ℤ),
    (∀ record ∈ events, record.1 ≠ id) → accepts newJob → P events (newJobRow id newJob now)

/-- The property holds of all rows, and all events are events of jobs of the table. -/
structure Tracked (P : List JobRecord → JobRow → Prop) (jobs : JobTable)
    (events : List JobRecord) : Prop where
  known : ∀ record ∈ events, ∃ row ∈ jobs.rows, row.id = record.1
  rows : ∀ row ∈ jobs.rows, P events row

theorem Tracked.empty (P : List JobRecord → JobRow → Prop) :
    Tracked P (Table.empty JobRow.id) [] where
  known _ hrecord := nomatch hrecord
  rows _ hrow := nomatch hrow

section Tracked

variable {accepts : NewJob → Prop} {P : List JobRecord → JobRow → Prop}
  {events events' : List JobRecord}

theorem Tracked.write (hP : Tracks accepts P) (h : Tracked P jobs events) {row : JobRow}
    (hrow : row ∈ jobs.rows) {t : JobTransition} (henabled : t.enabled row = true) :
    Tracked P (writeJob jobs row.id t) (events ++ [(row.id, t.event row)]) where
  known record hrecord := by
    have hold : ∃ old ∈ jobs.rows, old.id = record.1 := by
      rcases List.mem_append.1 hrecord with hrecord | hrecord
      · exact h.known record hrecord
      · rw [List.mem_singleton.1 hrecord]
        exact ⟨row, hrow, rfl⟩
    obtain ⟨old, hold, hid⟩ := hold
    refine ⟨_, Table.mem_update.2 ⟨old, hold, rfl⟩, ?_⟩
    rw [Table.apply_change JobRow.id fun r _ => t.id_apply r, hid]
  rows new hnew := by
    rcases mem_writeJob hnew with ⟨hmem, hne⟩ | ⟨old, hold, hid, rfl⟩
    · exact hP.other (h.rows new hmem) hne.symm
    · obtain rfl := jobs.eq_of_key hold hrow hid
      exact hP.apply (h.rows old hold) henabled

theorem Tracked.insert (hP : Tracks accepts P) (h : Tracked P jobs events) {id : Uuid}
    {newJob : NewJob} {now : ℤ} (haccepts : accepts newJob)
    (hnew : ∀ row ∈ jobs.rows, row.id ≠ id)
    (hrows : jobs'.rows = jobs.rows ++ [newJobRow id newJob now]) : Tracked P jobs' events where
  known record hrecord := by
    obtain ⟨row, hrow, hid⟩ := h.known record hrecord
    exact ⟨row, hrows ▸ List.mem_append_left _ hrow, hid⟩
  rows row hrow := by
    rcases List.mem_append.1 (hrows ▸ hrow) with hrow | hrow
    · exact h.rows row hrow
    · rw [List.mem_singleton.1 hrow]
      refine hP.new now (fun record hrecord heq => ?_) haccepts
      obtain ⟨row, hrow, hid⟩ := h.known record hrecord
      exact hnew row hrow (hid.trans heq)

/-- **A tracked property holds along any sequence of moves.** -/
theorem Tracked.moves (hP : Tracks accepts P) (h : Tracked P jobs events)
    (hmoves : Moves accepts jobs events' jobs') : Tracked P jobs' (events ++ events') := by
  induction hmoves generalizing events with
  | same jobs => rwa [List.append_nil]
  | insert id newJob now haccepts hnew hrows hrest ih =>
    exact ih (h.insert hP haccepts hnew hrows)
  | write row t hrow henabled hrest ih =>
    have := ih (h.write hP hrow henabled)
    rwa [List.append_assoc, List.singleton_append] at this

end Tracked

/-- No job goes away, and none changes its kind or its workspace. -/
theorem exists_of_moves {events : List JobRecord} (hmoves : Moves accepts jobs events jobs')
    (hrow : row ∈ jobs.rows) :
    ∃ row' ∈ jobs'.rows, row'.id = row.id ∧ row'.kind = row.kind ∧
      row'.workspaceId = row.workspaceId := by
  induction hmoves generalizing row with
  | same jobs => exact ⟨row, hrow, rfl, rfl, rfl⟩
  | insert id newJob now haccepts hnew hrows hrest ih =>
    exact ih (hrows ▸ List.mem_append_left _ hrow)
  | @write jobs _ _ written t hwritten henabled hrest ih =>
    obtain ⟨row', hrow', hid, hkind, hworkspace⟩ := ih (Table.mem_update.2 ⟨row, hrow, rfl⟩)
    refine ⟨row', hrow', ?_, ?_, ?_⟩
    · rw [hid, Table.apply_change JobRow.id fun r _ => t.id_apply r]
    · rw [hkind, Table.apply_change JobRow.kind fun r _ => t.kind_apply r]
    · rw [hworkspace, Table.apply_change JobRow.workspaceId fun r _ => t.workspaceId_apply r]

/-! ### Rows agree with their history -/

namespace JobEvent

/-- The attempt number of a claim. -/
def claimNumber : JobEvent → Option ℤ
  | claimed _ attempts => some attempts
  | _ => none

def isClaim : JobEvent → Bool
  | claimed .. => true
  | _ => false

def isPark : JobEvent → Bool
  | parked .. => true
  | _ => false

def isDeferralWithoutAttempt : JobEvent → Bool
  | deferredWithoutAttempt _ => true
  | _ => false

/-- What an event adds to the attempts of its job. -/
def balance : JobEvent → ℤ
  | claimed .. => 1
  | parked .. => -1
  | deferredWithoutAttempt _ => -1
  | _ => 0

end JobEvent

/-- The number of events of a job of some kind. -/
def eventCount (journal : List JobRecord) (id : Uuid) (kind : JobEvent → Bool) : ℕ :=
  journal.countP fun record => record.1 = id && kind record.2

/-- What the events of a job add up to. -/
def attemptBalance (journal : List JobRecord) (id : Uuid) : ℤ :=
  (journal.map fun record => if record.1 = id then record.2.balance else 0).sum

/-- The attempt number of the last claim of a job. -/
def lastClaim (journal : List JobRecord) (id : Uuid) : Option ℤ :=
  (journal.filterMap fun record => if record.1 = id then record.2.claimNumber else none).getLast?

theorem attemptBalance_eq (journal : List JobRecord) (id : Uuid) :
    attemptBalance journal id = eventCount journal id JobEvent.isClaim -
      eventCount journal id JobEvent.isPark -
      eventCount journal id JobEvent.isDeferralWithoutAttempt := by
  induction journal with
  | nil => rfl
  | cons record journal ih =>
    obtain ⟨job, event⟩ := record
    unfold attemptBalance eventCount at ih ⊢
    simp only [List.map_cons, List.sum_cons, List.countP_cons, ih]
    by_cases hid : job = id
    · cases event <;> simp [hid, JobEvent.balance, JobEvent.isClaim, JobEvent.isPark,
        JobEvent.isDeferralWithoutAttempt] <;> omega
    · simp [hid]

theorem attemptBalance_concat (journal : List JobRecord) (record : JobRecord) (id : Uuid) :
    attemptBalance (journal ++ [record]) id =
      attemptBalance journal id + if record.1 = id then record.2.balance else 0 := by
  simp [attemptBalance]

theorem lastClaim_concat (journal : List JobRecord) (record : JobRecord) (id : Uuid) :
    lastClaim (journal ++ [record]) id =
      if record.1 = id then record.2.claimNumber.or (lastClaim journal id)
      else lastClaim journal id := by
  unfold lastClaim
  rw [List.filterMap_append]
  by_cases hid : record.1 = id
  · cases hclaim : record.2.claimNumber <;> simp [hid, hclaim]
  · simp [hid]

/-- What the events of a job say about its row. -/
structure RowHistory (journal : List JobRecord) (row : JobRow) : Prop where
  held : row.status = .running → row.leaseOwner.isSome = true ∧ row.leaseExpiresAt.isSome = true
  released : row.status ≠ .running → row.leaseOwner = none ∧ row.leaseExpiresAt = none
  attempts : row.attempts = attemptBalance journal row.id
  nonneg : 0 ≤ row.attempts
  claimed : row.status ≠ .pending → 1 ≤ row.attempts ∧ lastClaim journal row.id = some row.attempts

namespace RowHistory

variable {journal : List JobRecord} {row row' : JobRow}

/-- The lease columns are set together, exactly while the job is running. -/
theorem running_iff (h : RowHistory journal row) :
    row.status = .running ↔ row.leaseOwner.isSome = true ∧ row.leaseExpiresAt.isSome = true := by
  refine ⟨h.held, fun ⟨howner, _⟩ => ?_⟩
  by_contra hstatus
  rw [(h.released hstatus).1] at howner
  cases howner

theorem of_other (h : RowHistory journal row) {record : JobRecord} (hne : record.1 ≠ row.id) :
    RowHistory (journal ++ [record]) row where
  held := h.held
  released := h.released
  attempts := by simpa [attemptBalance_concat, hne] using h.attempts
  nonneg := h.nonneg
  claimed hstatus := by simpa [lastClaim_concat, hne] using h.claimed hstatus

/-- A write that leaves the job without a lease and is not a claim. -/
theorem of_release (h : RowHistory journal row) {event : JobEvent} (hid : row'.id = row.id)
    (hstatus : row'.status ≠ .running)
    (hlease : row'.leaseOwner = none ∧ row'.leaseExpiresAt = none)
    (hbalance : row'.attempts = row.attempts + event.balance) (hnonneg : 0 ≤ row'.attempts)
    (hclaim : event.claimNumber = none)
    (hfinished : row'.status ≠ .pending → row.status ≠ .pending ∧ event.balance = 0) :
    RowHistory (journal ++ [(row.id, event)]) row' where
  held hrunning := absurd hrunning hstatus
  released _ := hlease
  attempts := by rw [attemptBalance_concat, hid, if_pos rfl, hbalance, h.attempts]
  nonneg := hnonneg
  claimed hpending := by
    obtain ⟨hpending', hzero⟩ := hfinished hpending
    obtain ⟨hone, hlast⟩ := h.claimed hpending'
    rw [lastClaim_concat, hid, if_pos rfl, hclaim, Option.none_or, hlast, hbalance, hzero,
      add_zero]
    exact ⟨hone, rfl⟩

theorem returnAttempt_eq (h : RowHistory journal row) (hpending : row.status ≠ .pending) :
    returnAttempt row.attempts = row.attempts + -1 ∧ 0 ≤ returnAttempt row.attempts := by
  have hone := (h.claimed hpending).1
  unfold returnAttempt
  split <;> omega

/-- A transition of a row and its event keep their agreement. -/
theorem apply (h : RowHistory journal row) {t : JobTransition} (henabled : t.enabled row = true) :
    RowHistory (journal ++ [(row.id, t.event row)]) (t.apply row) := by
  have hpending : ∀ owner, row.heldBy owner = true → row.status ≠ .pending := by
    intro owner hheld
    simp [(JobRow.heldBy_iff.1 hheld).1]
  cases t with
  | claim owner expiresAt now =>
    have hattempts : row.attempts + 1 =
        attemptBalance (journal ++ [(row.id, .claimed owner (row.attempts + 1))]) row.id := by
      rw [attemptBalance_concat, if_pos rfl, JobEvent.balance, h.attempts]
    have hnonneg := h.nonneg
    exact ⟨fun _ => ⟨rfl, rfl⟩, fun hrunning => absurd rfl hrunning, hattempts,
      by simp only [JobTransition.apply]; omega,
      fun _ => ⟨by simp only [JobTransition.apply]; omega, by
        rw [lastClaim_concat]
        simp [JobTransition.event, JobTransition.apply, JobEvent.claimNumber]⟩⟩
  | renew owner expiresAt now =>
    obtain ⟨hrunning, howner⟩ := JobRow.heldBy_iff.1 henabled
    refine ⟨fun _ => ⟨by simp [JobTransition.apply, howner], rfl⟩,
      fun hstatus => absurd hrunning hstatus, ?_, h.nonneg, fun hstatus => ?_⟩
    · simpa [attemptBalance_concat, JobTransition.event, JobEvent.balance,
        JobTransition.apply] using h.attempts
    · simpa [lastClaim_concat, JobTransition.event, JobEvent.claimNumber,
        JobTransition.apply] using h.claimed hstatus
  | complete owner now | fail owner now =>
    exact h.of_release rfl (by simp [JobTransition.apply, JobRow.release]) ⟨rfl, rfl⟩
      (add_zero _).symm h.nonneg rfl fun _ => ⟨hpending owner henabled, rfl⟩
  | defer owner availableAt now =>
    exact h.of_release rfl (by simp [JobTransition.apply, JobRow.release]) ⟨rfl, rfl⟩
      (add_zero _).symm h.nonneg rfl fun hstatus => absurd rfl hstatus
  | deferWithoutAttempt owner availableAt now =>
    obtain ⟨hreturn, hnonneg⟩ := h.returnAttempt_eq (hpending owner henabled)
    exact h.of_release rfl (by simp [JobTransition.apply, JobRow.release]) ⟨rfl, rfl⟩
      hreturn hnonneg rfl fun hstatus => absurd rfl hstatus
  | park owner payload t now nonce =>
    simp only [JobTransition.enabled, Bool.and_eq_true] at henabled
    obtain ⟨hreturn, hnonneg⟩ := h.returnAttempt_eq (hpending owner henabled.2)
    exact h.of_release rfl (by simp [JobTransition.apply, JobRow.release]) ⟨rfl, rfl⟩
      hreturn hnonneg rfl fun hstatus => absurd rfl hstatus
  | wake now =>
    have hstatus : row.status = .pending := by
      simp only [JobTransition.enabled, Bool.and_eq_true, decide_eq_true_eq] at henabled
      exact henabled.1.2
    exact h.of_release rfl (by simp [JobTransition.apply, hstatus])
      (h.released (by simp [hstatus])) (add_zero _).symm h.nonneg rfl
      fun hne => absurd hstatus hne

end RowHistory

theorem RowHistory.newJobRow {journal : List JobRecord} {id : Uuid}
    (h : ∀ record ∈ journal, record.1 ≠ id) (newJob : NewJob) (now : ℤ) :
    RowHistory journal (newJobRow id newJob now) where
  held hrunning := nomatch hrunning
  released _ := ⟨rfl, rfl⟩
  attempts := by
    refine (List.sum_eq_zero fun x hx => ?_).symm
    obtain ⟨record, hrecord, rfl⟩ := List.mem_map.1 hx
    exact if_neg (h record hrecord)
  nonneg := le_refl _
  claimed hstatus := absurd rfl hstatus

/-- **Rows agree with their history along any sequence of moves.** -/
theorem tracks_rowHistory (accepts : NewJob → Prop) : Tracks accepts RowHistory where
  other h hne := h.of_other hne
  apply h henabled := h.apply henabled
  new now hnew _ := RowHistory.newJobRow hnew _ now

/-- **A completed or failed row is never written again.** -/
theorem mem_of_moves_of_finished {events : List JobRecord}
    (hmoves : Moves accepts jobs events jobs') (hrow : row ∈ jobs.rows)
    (hfinished : row.status = .completed ∨ row.status = .failed) : row ∈ jobs'.rows := by
  induction hmoves with
  | same jobs => exact hrow
  | insert id newJob now haccepts hnew hrows hrest ih =>
    exact ih (hrows ▸ List.mem_append_left _ hrow)
  | @write jobs _ _ written t hwritten henabled hrest ih =>
    refine ih (Table.mem_update_of_not hrow ?_)
    -- no transition is enabled in a finished row
    simp only [decide_eq_false_iff_not]
    intro hid
    obtain rfl := jobs.eq_of_key hrow hwritten hid
    cases t <;> rcases hfinished with hstatus | hstatus <;>
      simp [JobTransition.enabled, JobRow.heldBy, JobRow.claimable, hstatus] at henabled

end WorkspaceControl
