/-
**Exclusivity of job leases.**

Ownership of a job is not a lock: it is a name and an expiry in its row, compared by every
statement that settles the job.  Whatever clocks the callers use, a lease that has not run out at
the clock of a claimer is not taken over, and once another worker has claimed the job the previous
holder can do nothing to it.

Main definitions:

* `JobCall.holder` — the calls that are made under a lease, with the job and the owner.

Main results:

* `not_heldBy_of_moves` — only a claim of its own makes a worker the holder;
* `outcomes_of_moves` — between two claims at most one outcome is recorded, by the holder;
* `lease_exclusive` — **the exclusivity of leases over any interleaving**.
-/
import WorkspaceControl.JobHistory

set_option autoImplicit false

namespace WorkspaceControl

open Fallible Relational MachineInt

/-! ### Calls under a lease -/

/-- The job and the owner of a call that is made under a lease. -/
def JobCall.holder : JobCall → Option (Uuid × String)
  | renew job owner .. => some (job, owner)
  | complete job owner _ => some (job, owner)
  | fail job owner _ => some (job, owner)
  | defer job owner .. => some (job, owner)
  | deferWithoutAttempt job owner .. => some (job, owner)
  | park job owner .. => some (job, owner)
  | enqueue .. | claim .. | wake .. => none

/-- The error of arguments that are refused before any row is looked at: an expiry beyond `i64`,
a payload that is not an object. -/
def JobCall.argumentError : JobCall → Option StorageError
  | renew _ _ now seconds =>
    match leaseExpiry now seconds with
    | .ok _ => none
    | .error e => some e
  | park _ _ payload .. => if payload.isObject then none else some .json
  | _ => none

variable {accepts : NewJob → Prop} {events : List JobRecord} {job : Uuid} {jobs jobs' : JobTable}
  {owner : String} {row : JobRow} {t : JobTransition}

/-- Without the lease, a call is refused and changes nothing. -/
theorem JobCall.statement_of_not_held {call : JobCall} (hholder : call.holder = some (job, owner))
    (h : ∀ row ∈ jobs.rows, row.id = job → row.heldBy owner = false) (locked : Uuid → Bool) :
    call.statement jobs locked =
      (.error (call.argumentError.getD (.leaseNotOwned job)), jobs) := by
  cases call with
  | enqueue | claim | wake => cases hholder
  | renew _ _ now seconds =>
    cases hholder
    simp only [statement, renewJobLease, argumentError]
    cases hexpiry : leaseExpiry now seconds with
    | ok e =>
      simp [bind, Except.bind, updateHeld_error h, settleUnit, Except.map, settle]
    | error e => simp [bind, Except.bind, settleUnit, Except.map, settle]
  | complete | fail | defer | deferWithoutAttempt =>
    cases hholder
    simp [statement, completeJob, failJob, deferJob, deferJobWithoutAttempt, updateHeld_error h,
      settleUnit, Except.map, settle, argumentError]
  | park _ _ payload =>
    cases hholder
    cases hobject : payload.isObject with
    | true =>
      simp [statement, parkWorkspaceJob, argumentError, hobject, ensure, bind, Except.bind,
        updateHeld_error h, settle]
    | false =>
      simp [statement, parkWorkspaceJob, argumentError, hobject, ensure, bind, Except.bind,
        settle]

/-! ### Who holds a job -/

/-- A transition makes a worker the holder only when it is a claim of that worker. -/
theorem JobTransition.heldBy_apply (h : (t.apply row).heldBy owner = true) :
    row.heldBy owner = true ∨ ∃ attempts, t.event row = .claimed owner attempts := by
  rw [JobRow.heldBy_iff] at h
  cases t with
  | claim owner' expiresAt now =>
    obtain rfl : owner' = owner := by simpa [apply] using h.2
    exact .inr ⟨_, rfl⟩
  | renew | wake => exact .inl (JobRow.heldBy_iff.2 h)
  | complete | fail | defer | deferWithoutAttempt | park => simp [apply, JobRow.release] at h

/-- **Only a claim of its own makes a worker the holder.** -/
theorem not_heldBy_of_moves (hmoves : Moves accepts jobs events jobs')
    (hclaim : ∀ attempts, (job, .claimed owner attempts) ∉ events)
    (h : ∀ row ∈ jobs.rows, row.id = job → row.heldBy owner = false) :
    ∀ row ∈ jobs'.rows, row.id = job → row.heldBy owner = false := by
  induction hmoves with
  | same jobs => exact h
  | insert id newJob now haccepts hnew hrows hrest ih =>
    refine ih hclaim fun row hrow hid => ?_
    rcases List.mem_append.1 (hrows ▸ hrow) with hrow | hrow
    · exact h row hrow hid
    · rw [List.mem_singleton.1 hrow]
      rfl
  | write written t hwritten henabled hrest ih =>
    refine ih (fun a ha => hclaim a (List.mem_cons_of_mem _ ha)) fun row hrow hid => ?_
    rcases mem_writeJob hrow with ⟨hrow, _⟩ | ⟨old, hold, hold', rfl⟩
    · exact h row hrow hid
    · obtain rfl := Table.eq_of_key _ hold hwritten hold'
      have hjob : old.id = job := by simpa using hid
      by_contra hheld
      rw [Bool.not_eq_false] at hheld
      rcases JobTransition.heldBy_apply hheld with hheld | ⟨attempts, hevent⟩
      · rw [h old hold hjob] at hheld
        cases hheld
      · refine hclaim attempts ?_
        rw [← hjob, ← hevent]
        exact List.mem_cons_self

/-! ### Outcomes -/

/-- The owner whose claim an event ends. -/
def JobEvent.outcome : JobEvent → Option String
  | completed owner => some owner
  | failed owner => some owner
  | deferred owner => some owner
  | deferredWithoutAttempt owner => some owner
  | parked owner .. => some owner
  | claimed .. | renewed _ | woken => none

/-- The owners who decided an outcome of a job, in order. -/
def outcomes (events : List JobRecord) (job : Uuid) : List String :=
  events.filterMap fun record => if record.1 = job then record.2.outcome else none

theorem outcomes_cons (record : JobRecord) (events : List JobRecord) (job : Uuid) :
    outcomes (record :: events) job =
      (if record.1 = job then record.2.outcome else none).toList ++ outcomes events job := by
  unfold outcomes
  rw [List.filterMap_cons]
  split <;> simp_all

/-- A transition that ends a claim is made by the holder and releases the job. -/
theorem JobTransition.outcome_event (henabled : t.enabled row = true)
    (h : (t.event row).outcome = some owner) :
    row.heldBy owner = true ∧ (t.apply row).status ≠ .running := by
  cases t with
  | claim | renew | wake => cases h
  | complete | fail | defer | deferWithoutAttempt =>
    cases h
    exact ⟨henabled, by simp [apply, JobRow.release]⟩
  | park owner' payload t now nonce =>
    cases h
    simp only [enabled, Bool.and_eq_true] at henabled
    exact ⟨henabled.2, by simp [apply, JobRow.release]⟩

/-- A transition that is neither a claim nor an outcome keeps the status and the owner. -/
theorem JobTransition.held_of_no_outcome (houtcome : (t.event row).outcome = none)
    (hclaim : ∀ owner attempts, t.event row ≠ .claimed owner attempts) :
    (t.apply row).status = row.status ∧ (t.apply row).leaseOwner = row.leaseOwner := by
  cases t with
  | claim owner expiresAt now => exact absurd rfl (hclaim _ _)
  | renew | wake => exact ⟨rfl, rfl⟩
  | complete | fail | defer | deferWithoutAttempt | park => cases houtcome

/-- Without a claim, a job that is not running has no outcome, and a running one has at most one,
decided by its holder. -/
theorem outcomes_of_moves (hmoves : Moves accepts jobs events jobs')
    (hclaim : ∀ owner attempts, (job, .claimed owner attempts) ∉ events) (hrow : row ∈ jobs.rows)
    (hid : row.id = job) :
    (row.status ≠ .running → outcomes events job = []) ∧
      ∀ owner, row.heldBy owner = true → outcomes events job = [] ∨ outcomes events job = [owner] := by
  induction hmoves generalizing row with
  | same jobs => exact ⟨fun _ => rfl, fun _ _ => .inl rfl⟩
  | insert id newJob now haccepts hnew hrows hrest ih =>
    exact ih hclaim (hrows ▸ List.mem_append_left _ hrow) hid
  | @write jobs _ events written t hwritten henabled hrest ih =>
    have hclaim' : ∀ owner attempts, (job, .claimed owner attempts) ∉ events :=
      fun owner attempts h => hclaim owner attempts (List.mem_cons_of_mem _ h)
    by_cases hjob : written.id = job
    · -- the written row is the row of the job
      obtain rfl := jobs.eq_of_key hrow hwritten (hid.trans hjob.symm)
      have hnext := ih hclaim'
        (Table.mem_update_of_pos hrow (by simp) : t.apply row ∈ (writeJob jobs row.id t).rows)
        (by simpa using hjob)
      rw [outcomes_cons, if_pos hjob]
      cases houtcome : (t.event row).outcome with
      | some owner' =>
        obtain ⟨hheld, hreleased⟩ := JobTransition.outcome_event henabled houtcome
        have hrunning := (JobRow.heldBy_iff.1 hheld)
        rw [hnext.1 hreleased]
        refine ⟨fun hstatus => absurd hrunning.1 hstatus, fun owner howner => .inr ?_⟩
        have : some owner' = some owner :=
          hrunning.2.symm.trans (JobRow.heldBy_iff.1 howner).2
        simpa using this
      | none =>
        obtain ⟨hstatus, howner⟩ := JobTransition.held_of_no_outcome houtcome
          fun owner attempts hevent => hclaim owner attempts (by
            rw [← hevent, ← hjob]
            exact List.mem_cons_self)
        refine ⟨fun h => hnext.1 (hstatus ▸ h), fun owner h => hnext.2 owner ?_⟩
        rw [JobRow.heldBy_iff] at h ⊢
        rwa [hstatus, howner]
    · rw [outcomes_cons, if_neg hjob]
      refine ih hclaim' (Table.mem_update_of_not hrow ?_) hid
      simpa using fun h : row.id = written.id => hjob (h ▸ hid)

/-! ### Exclusivity -/

/-- A claim that returns a job has made its owner the holder. -/
theorem JobCall.Performs.of_claim {now : ℤ} {seconds : ℕ} {claimed : ClaimedJob}
    (h : (JobCall.claim owner now seconds).Performs jobs (.ok (some claimed)) jobs') :
    ∃ row ∈ jobs'.rows, row.id = claimed.id ∧ row.heldBy owner = true := by
  obtain ⟨locked, hclaim⟩ := h.claimJob_of_ok
  rcases claimJob_eq_ok hclaim with ⟨hnone, _⟩ | ⟨row, hrow, e, -, -, hsome, rfl⟩
  · cases hnone
  · obtain rfl := Option.some_inj.1 hsome
    refine ⟨_, Table.mem_update_of_pos hrow (by simp), rfl, ?_⟩
    simp [JobTransition.apply, JobRow.heldBy]

/-- **Leases are exclusive over any interleaving.**  A lease that has not run out at the claimer's
clock is not taken over; after another worker's claim the previous holder is refused with
`leaseNotOwned` and changes nothing, unless its arguments are refused first; and a claim has at
most one outcome, decided by the worker who made it. -/
theorem lease_exclusive :
    (∀ (jobs jobs' : JobTable) (locked : Uuid → Bool) (claimer : String) (now : ℤ) (seconds : ℕ)
        (claimed : ClaimedJob) (row : JobRow) (expiresAt : ℤ),
      claimJob jobs locked claimer now seconds = .ok (some claimed, jobs') →
      row ∈ jobs.rows → row.status = .running → row.leaseExpiresAt = some expiresAt →
      now ≤ expiresAt → claimed.id ≠ row.id ∧ row ∈ jobs'.rows) ∧
    (∀ (jobs jobs₁ jobs₂ : JobTable) (previous claimer : String) (now : ℤ) (seconds : ℕ)
        (claimed : ClaimedJob) (steps : List JobStep),
      previous ≠ claimer →
      (JobCall.claim claimer now seconds).Performs jobs (.ok (some claimed)) jobs₁ →
      JobRun jobs₁ steps jobs₂ →
      (∀ attempts, (claimed.id, .claimed previous attempts) ∉ journal steps) →
      ∀ (call : JobCall) (locked : Uuid → Bool), call.holder = some (claimed.id, previous) →
        call.statement jobs₂ locked =
          (.error (call.argumentError.getD (.leaseNotOwned claimed.id)), jobs₂)) ∧
    (∀ (jobs jobs₁ jobs₂ : JobTable) (claimer : String) (now : ℤ) (seconds : ℕ)
        (claimed : ClaimedJob) (steps : List JobStep),
      (JobCall.claim claimer now seconds).Performs jobs (.ok (some claimed)) jobs₁ →
      JobRun jobs₁ steps jobs₂ →
      (∀ owner attempts, (claimed.id, .claimed owner attempts) ∉ journal steps) →
      outcomes (journal steps) claimed.id = [] ∨
        outcomes (journal steps) claimed.id = [claimer]) := by
  refine ⟨?_, ?_, ?_⟩
  · intro jobs jobs' locked claimer now seconds claimed row expiresAt hclaim hrow hrunning
      hexpires hnow
    rcases claimJob_eq_ok hclaim with ⟨hnone, _⟩ | ⟨taken, htaken, e, hclaimable, -, hsome, rfl⟩
    · cases hnone
    · have hne : row.id ≠ taken.id := by
        intro hid
        obtain rfl := jobs.eq_of_key hrow htaken hid
        rcases JobRow.claimable_iff.1 hclaimable with ⟨hpending, _⟩ | ⟨_, e', he', hlt⟩
        · rw [hrunning] at hpending
          cases hpending
        · rw [hexpires, Option.some_inj] at he'
          omega
      obtain rfl := Option.some_inj.1 hsome
      exact ⟨hne.symm, Table.mem_update_of_not hrow (by simpa using hne)⟩
  · intro jobs jobs₁ jobs₂ previous claimer now seconds claimed steps hne hclaim hrun hnever call
      locked hholder
    obtain ⟨held, hheld, hid, howner⟩ := hclaim.of_claim
    refine JobCall.statement_of_not_held hholder ?_ locked
    refine not_heldBy_of_moves hrun.moves' hnever fun row hrow hrow' => ?_
    obtain rfl := jobs₁.eq_of_key hrow hheld (hrow'.trans hid.symm)
    have := (JobRow.heldBy_iff.1 howner).2
    simpa [JobRow.heldBy, this] using fun _ => hne.symm
  · intro jobs jobs₁ jobs₂ claimer now seconds claimed steps hclaim hrun hnever
    obtain ⟨held, hheld, hid, howner⟩ := hclaim.of_claim
    exact (outcomes_of_moves hrun.moves' hnever hheld hid).2 claimer howner

/-! ### A take-over -/

def sampleJob : Uuid := ⟨"01990f5d-6e80-7000-8000-000000000001", by decide⟩

/-- A reconcile job that is due at time 0. -/
def dueRow : JobRow := newJobRow sampleJob ⟨.reconcileWorkspace, none, .object [], 0⟩ 0

/-- The queue after worker `a` has claimed the job at time 0 for a minute. -/
def heldJobs : JobTable :=
  writeJob ⟨[dueRow], List.nodup_singleton _⟩ sampleJob (.claim "a" 60 0)

/-- What worker `b` is given when it takes the job over at time 100. -/
def takenOver : ClaimedJob :=
  ((JobTransition.claim "b" 160 100).apply ((JobTransition.claim "a" 60 0).apply dueRow)).toClaimed
    160

theorem takeOver_performs : (JobCall.claim "b" 100 60).Performs heldJobs (.ok (some takenOver))
    (writeJob heldJobs sampleJob (.claim "b" 160 100)) :=
  .executed fun _ => false

/-- After the take-over, worker `a` cannot complete the job. -/
theorem lease_exclusive_takeOver :
    ((JobCall.complete sampleJob "a" 101).statement
        (writeJob heldJobs sampleJob (.claim "b" 160 100)) fun _ => false) =
      (.error (.leaseNotOwned sampleJob),
        writeJob heldJobs sampleJob (.claim "b" 160 100)) :=
  lease_exclusive.2.1 heldJobs _ _ "a" "b" 100 60 takenOver [] (by decide) takeOver_performs
    (.nil _) (fun _ => List.not_mem_nil) (.complete sampleJob "a" 101) (fun _ => false) rfl

/-- The previous holder is not always told that it lost the lease: a renewal whose expiry is
beyond `i64` is refused before the row is looked at. -/
theorem previous_holder_renewal_overflows :
    ¬ ∀ (jobs jobs₁ jobs₂ : JobTable) (previous claimer : String) (now : ℤ) (seconds : ℕ)
        (claimed : ClaimedJob) (steps : List JobStep),
      previous ≠ claimer →
      (JobCall.claim claimer now seconds).Performs jobs (.ok (some claimed)) jobs₁ →
      JobRun jobs₁ steps jobs₂ →
      (∀ attempts, (claimed.id, .claimed previous attempts) ∉ journal steps) →
      ∀ (call : JobCall) (locked : Uuid → Bool), call.holder = some (claimed.id, previous) →
        call.statement jobs₂ locked = (.error (.leaseNotOwned claimed.id), jobs₂) := by
  intro h
  have hrenew := congrArg Prod.fst (h heldJobs _ _ "a" "b" 100 60 takenOver [] (by decide)
    takeOver_performs (.nil _) (fun _ => List.not_mem_nil) (.renew sampleJob "a" I64.max 60)
    (fun _ => false) rfl)
  have hoverflow : ((JobCall.renew sampleJob "a" I64.max 60).statement
      (writeJob heldJobs sampleJob (.claim "b" 160 100)) fun _ => false).1 =
      .error .leaseDurationOverflow := rfl
  rw [hoverflow] at hrenew
  cases hrenew

end WorkspaceControl
