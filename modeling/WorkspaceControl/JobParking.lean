/-
**Parks and wakes.**

A job that waits for its runtime is parked: it is pending until a deadline and carries a marker
with a nonce of its own.  Whoever sees the runtime change wakes the park it has read before, by
presenting the descriptor.  Between the reading and the wake the job may have been claimed and
parked again any number of times.

Main definitions:

* `Park`, `currentPark` — the park a history has left a job in, if any;
* `RowPark` — the agreement of a row with the park of its job;
* `wakeOneByOne` — waking a batch one descriptor after the other.

Main results:

* `tracks_rowPark` — rows agree with the parks of their jobs;
* `matches_iff_currentPark` — a descriptor matches in its own park only;
* `wake_exact` — **a wake accelerates exactly the park its descriptor was read from**.
-/
import WorkspaceControl.JobHistory

set_option autoImplicit false

namespace WorkspaceControl

open Fallible Relational MachineInt

/-! ### The park of a job -/

/-- A park: its nonce, the payload it stored and its end. -/
structure Park where
  nonce : Uuid
  payload : Payload
  «until» : ℤ
deriving DecidableEq

def JobEvent.park : JobEvent → Option Park
  | parked _ nonce payload t => some ⟨nonce, payload, t⟩
  | _ => none

/-- The park a job is in: its last event was a park.  A claim, a wake or anything else that has
happened since means that the job is not in a park. -/
def currentPark (events : List JobRecord) (job : Uuid) : Option Park :=
  (events.filter fun record => record.1 = job).getLast?.bind fun record => record.2.park

/-- All parks of a history. -/
def parks (events : List JobRecord) : List Park := events.filterMap fun record => record.2.park

theorem currentPark_concat (events : List JobRecord) (record : JobRecord) (job : Uuid) :
    currentPark (events ++ [record]) job =
      if record.1 = job then record.2.park else currentPark events job := by
  unfold currentPark
  by_cases h : record.1 = job
  · simp [h]
  · simp [h]

variable {events : List JobRecord} {id job : Uuid} {jobs : JobTable} {now : ℤ}
  {parked : ParkedWorkspaceJob} {row : JobRow}

theorem currentPark_eq_none (h : ∀ record ∈ events, record.1 ≠ job) :
    currentPark events job = none := by
  have hfilter : (events.filter fun record => decide (record.1 = job)) = [] := by
    simpa [List.filter_eq_nil_iff] using h
  simp [currentPark, hfilter]

theorem mem_parks_of_currentPark {park : Park} (h : currentPark events job = some park) :
    park ∈ parks events := by
  obtain ⟨record, hrecord, hpark⟩ := Option.bind_eq_some_iff.1 h
  exact List.mem_filterMap.2 ⟨record, (List.mem_filter.1 (List.mem_of_getLast? hrecord)).1, hpark⟩

/-! ### Rows agree with their park -/

/-- The marker of a row was written by a park, and no wake has moved its job beyond the park; the
job is in a park exactly when it is pending until the end of the park its marker names. -/
structure RowPark (events : List JobRecord) (row : JobRow) : Prop where
  marker : ∀ value, row.payload.get "runtime_wait" = some value → ∃ nonce t,
    value = runtimeWait nonce t ∧ (row.status = .pending → row.availableAt ≤ t)
  current : ∀ park, currentPark events row.id = some park ↔
    row.status = .pending ∧ row.payload = park.payload ∧ row.availableAt = park.until ∧
      row.payload.get "runtime_wait" = some (runtimeWait park.nonce park.until)

namespace RowPark

variable {events : List JobRecord} {row row' : JobRow}

theorem of_other (h : RowPark events row) {record : JobRecord} (hne : record.1 ≠ row.id) :
    RowPark (events ++ [record]) row where
  marker := h.marker
  current park := by
    rw [currentPark_concat, if_neg hne]
    exact h.current park

/-- A transition out of the park: the job is not pending, or its marker is gone. -/
theorem of_unparked {event : JobEvent} (hid : row'.id = row.id) (hpark : event.park = none)
    (hmarker : ∀ value, row'.payload.get "runtime_wait" = some value → row'.status ≠ .pending ∧
      ∃ nonce t, value = runtimeWait nonce t) : RowPark (events ++ [(row.id, event)]) row' where
  marker value hvalue := by
    obtain ⟨hstatus, nonce, t, rfl⟩ := hmarker value hvalue
    exact ⟨nonce, t, rfl, fun hpending => absurd hpending hstatus⟩
  current park := by
    rw [currentPark_concat, hid, if_pos rfl, hpark]
    constructor
    · intro h
      cases h
    · rintro ⟨hpending, -, -, hvalue⟩
      exact absurd hpending (hmarker _ hvalue).1

/-- A transition of a row and its event keep their agreement. -/
theorem apply (h : RowPark events row) {t : JobTransition} (henabled : t.enabled row = true) :
    RowPark (events ++ [(row.id, t.event row)]) (t.apply row) := by
  have hmarker : ∀ value, row.payload.get "runtime_wait" = some value →
      ∃ nonce t, value = runtimeWait nonce t := by
    intro value hvalue
    obtain ⟨nonce, t, hvalue, -⟩ := h.marker value hvalue
    exact ⟨nonce, t, hvalue⟩
  cases t with
  | claim owner expiresAt now =>
    exact of_unparked rfl rfl fun value hvalue =>
      ⟨by simp [JobTransition.apply], hmarker value hvalue⟩
  | renew owner expiresAt now =>
    refine of_unparked rfl rfl fun value hvalue => ⟨?_, hmarker value hvalue⟩
    simp [JobTransition.apply, (JobRow.heldBy_iff.1 henabled).1]
  | complete | fail =>
    exact of_unparked rfl rfl fun value hvalue =>
      ⟨by simp [JobTransition.apply, JobRow.release], hmarker value hvalue⟩
  | defer | deferWithoutAttempt =>
    refine of_unparked rfl rfl fun value hvalue => ?_
    simp [JobTransition.apply] at hvalue
  | park owner payload t now nonce =>
    simp only [JobTransition.enabled, Bool.and_eq_true] at henabled
    have hget : (parkedPayload payload t nonce).get "runtime_wait" =
        some (runtimeWait nonce t) := Payload.get_insert_self henabled.1 _ _
    constructor
    · intro value hvalue
      obtain rfl := Option.some_inj.1 (hget.symm.trans hvalue)
      exact ⟨nonce, t, rfl, fun _ => le_refl _⟩
    · intro park
      rw [JobTransition.id_apply, currentPark_concat, if_pos rfl]
      constructor
      · intro hpark
        obtain rfl := Option.some_inj.1 hpark
        exact ⟨rfl, rfl, rfl, hget⟩
      · rintro ⟨-, hpayload, huntil, hvalue⟩
        obtain ⟨hnonce, -⟩ := runtimeWait_injective (Option.some_inj.1 (hget.symm.trans hvalue))
        obtain ⟨nonce', payload', t'⟩ := park
        simp only [JobTransition.apply] at hpayload huntil hnonce
        rw [← hpayload, ← huntil, ← hnonce]
        rfl
  | wake now =>
    simp only [JobTransition.enabled, Bool.and_eq_true, decide_eq_true_eq] at henabled
    obtain ⟨⟨-, hpending⟩, hfuture⟩ := henabled
    constructor
    · intro value hvalue
      obtain ⟨nonce, t, hvalue, hle⟩ := h.marker value hvalue
      exact ⟨nonce, t, hvalue, fun _ => le_trans (le_of_lt hfuture) (hle hpending)⟩
    · intro park
      rw [JobTransition.id_apply, currentPark_concat, if_pos rfl]
      constructor
      · intro hpark
        cases hpark
      · -- the job was woken before the end its marker names
        rintro ⟨-, -, huntil, hvalue⟩
        obtain ⟨nonce, t, hwait, hle⟩ := h.marker _ hvalue
        obtain ⟨-, rfl⟩ := runtimeWait_injective hwait
        have hnow : now = park.until := huntil
        have := hle hpending
        omega

end RowPark

/-- A job that carries no marker yet. -/
def unmarked (newJob : NewJob) : Prop := newJob.payload.get "runtime_wait" = none

/-- **Rows agree with the parks of their jobs.** -/
theorem tracks_rowPark : Tracks unmarked RowPark where
  other h hne := h.of_other hne
  apply h henabled := h.apply henabled
  new := by
    intro events id newJob now hnew hunmarked
    have hnone : (newJobRow id newJob now).payload.get "runtime_wait" = none := hunmarked
    refine ⟨fun value hvalue => ?_, fun park => ?_⟩
    · rw [hnone] at hvalue
      cases hvalue
    · rw [hnone, show currentPark events (newJobRow id newJob now).id = none from
        currentPark_eq_none hnew]
      simp

/-! ### Batches -/

/-- Waking one descriptor after the other; the result is the set of jobs that were woken. -/
def wakeOneByOne (jobs : JobTable) (now : ℤ) : List ParkedWorkspaceJob → List Uuid × JobTable
  | [] => ([], jobs)
  | parked :: rest =>
    let (woken, jobs) := wakeParkedWorkspaceJob jobs parked now
    let (ids, jobs) := wakeOneByOne jobs now rest
    (if woken then parked.id :: ids else ids, jobs)

/-- The rows that a batch selects. -/
def anyMatches (parked : List ParkedWorkspaceJob) (now : ℤ) (row : JobRow) : Bool :=
  parked.any fun job => job.matches now row

theorem anyMatches_cons (job : ParkedWorkspaceJob) (rest : List ParkedWorkspaceJob) (now : ℤ)
    (row : JobRow) :
    anyMatches (job :: rest) now row = (job.matches now row || anyMatches rest now row) :=
  List.any_cons

theorem wakeParkedWorkspaceJobs_snd (jobs : JobTable) (parked : List ParkedWorkspaceJob)
    (now : ℤ) : (wakeParkedWorkspaceJobs jobs parked now).2 =
      jobs.update (anyMatches parked now) (JobTransition.wake now).apply
        (JobTransition.wake now).id_apply := rfl

theorem mem_wakeParkedWorkspaceJobs {parked : List ParkedWorkspaceJob} :
    id ∈ (wakeParkedWorkspaceJobs jobs parked now).1 ↔
      ∃ row ∈ jobs.rows, row.id = id ∧ anyMatches parked now row = true := by
  change id ∈ ((jobs.rows.filter (anyMatches parked now)).map JobRow.id) ↔ _
  simp only [List.mem_map, List.mem_filter]
  constructor
  · rintro ⟨row, ⟨hrow, hany⟩, rfl⟩
    exact ⟨row, hrow, rfl, hany⟩
  · rintro ⟨row, hrow, rfl, hany⟩
    exact ⟨row, ⟨hrow, hany⟩, rfl⟩

/-- A descriptor wakes its own job and no other. -/
theorem wakeParkedWorkspaceJob_fst :
    (wakeParkedWorkspaceJob jobs parked now).1 = true ↔
      ∃ row ∈ jobs.rows, parked.matches now row = true := by
  change (wakeParkedWorkspaceJobs jobs [parked] now).1.contains parked.id = true ↔ _
  rw [List.contains_iff_mem, mem_wakeParkedWorkspaceJobs]
  constructor
  · rintro ⟨row, hrow, -, hany⟩
    exact ⟨row, hrow, by simpa [anyMatches] using hany⟩
  · rintro ⟨row, hrow, hmatches⟩
    exact ⟨row, hrow, (ParkedWorkspaceJob.matches_iff.1 hmatches).1,
      by simpa [anyMatches] using hmatches⟩

theorem wakeParkedWorkspaceJob_snd (jobs : JobTable) (parked : ParkedWorkspaceJob) (now : ℤ) :
    (wakeParkedWorkspaceJob jobs parked now).2 =
      jobs.update (parked.matches now) (JobTransition.wake now).apply
        (JobTransition.wake now).id_apply := by
  change (wakeParkedWorkspaceJobs jobs [parked] now).2 = _
  rw [wakeParkedWorkspaceJobs_snd]
  exact Table.update_congr fun row _ => by simp [anyMatches]

/-- A row that was woken is due: no descriptor describes it any more. -/
theorem anyMatches_change_wake (parked : ParkedWorkspaceJob) (rest : List ParkedWorkspaceJob)
    (now : ℤ) (row : JobRow) :
    anyMatches rest now
        (Table.change (parked.matches now) (JobTransition.wake now).apply row) =
      (!parked.matches now row && anyMatches rest now row) := by
  cases hmatches : parked.matches now row with
  | true =>
    rw [Table.change_of_pos hmatches]
    simp only [anyMatches, Bool.not_true, Bool.false_and, List.any_eq_false]
    intro job _ hjob
    have hfuture := (ParkedWorkspaceJob.matches_iff.1 hjob).2.2.2.1
    exact lt_irrefl now hfuture
  | false =>
    rw [Table.change_of_neg hmatches]
    simp

theorem wakeOneByOne_snd (jobs : JobTable) (now : ℤ) (parked : List ParkedWorkspaceJob) :
    (wakeOneByOne jobs now parked).2 = (wakeParkedWorkspaceJobs jobs parked now).2 := by
  induction parked generalizing jobs with
  | nil =>
    have hnone : ∀ row ∈ jobs.rows, anyMatches [] now row = false := fun _ _ => rfl
    rw [wakeParkedWorkspaceJobs_snd, Table.update_eq_self hnone]
    rfl
  | cons job rest ih =>
    change (wakeOneByOne (wakeParkedWorkspaceJob jobs job now).2 now rest).2 = _
    rw [ih, wakeParkedWorkspaceJob_snd, wakeParkedWorkspaceJobs_snd,
      wakeParkedWorkspaceJobs_snd]
    simp only [Table.update, Table.mk.injEq, List.map_map]
    refine List.map_congr_left fun row _ => ?_
    have hchange := anyMatches_change_wake job rest now row
    cases hmatches : job.matches now row with
    | true =>
      rw [Table.change_of_pos hmatches, hmatches, Bool.not_true, Bool.false_and] at hchange
      simp [Table.change, hmatches, hchange, anyMatches_cons]
    | false => simp [Table.change, hmatches, anyMatches_cons]

theorem mem_wakeOneByOne {parked : List ParkedWorkspaceJob} :
    id ∈ (wakeOneByOne jobs now parked).1 ↔
      id ∈ (wakeParkedWorkspaceJobs jobs parked now).1 := by
  rw [mem_wakeParkedWorkspaceJobs]
  induction parked generalizing jobs with
  | nil => simp [wakeOneByOne, anyMatches]
  | cons job rest ih =>
    have hrest : id ∈ (wakeOneByOne (wakeParkedWorkspaceJob jobs job now).2 now rest).1 ↔
        ∃ row ∈ jobs.rows, row.id = id ∧ job.matches now row = false ∧
          anyMatches rest now row = true := by
      have hid : ∀ row, (Table.change (job.matches now) (JobTransition.wake now).apply row).id =
          row.id := Table.apply_change JobRow.id fun row _ => JobTransition.id_apply _ row
      rw [ih, wakeParkedWorkspaceJob_snd]
      constructor
      · rintro ⟨_, hrow, hrow', hany⟩
        obtain ⟨row, hmem, rfl⟩ := Table.mem_update.1 hrow
        rw [anyMatches_change_wake, Bool.and_eq_true, Bool.not_eq_true'] at hany
        exact ⟨row, hmem, (hid row).symm.trans hrow', hany⟩
      · rintro ⟨row, hrow, hrow', hany⟩
        refine ⟨_, Table.mem_update.2 ⟨row, hrow, rfl⟩, (hid row).trans hrow', ?_⟩
        rw [anyMatches_change_wake, Bool.and_eq_true, Bool.not_eq_true']
        exact hany
    have hcons : id ∈ (wakeOneByOne jobs now (job :: rest)).1 ↔
        ((wakeParkedWorkspaceJob jobs job now).1 = true ∧ id = job.id) ∨
          id ∈ (wakeOneByOne (wakeParkedWorkspaceJob jobs job now).2 now rest).1 := by
      simp only [wakeOneByOne]
      split <;> simp_all
    rw [hcons, hrest, wakeParkedWorkspaceJob_fst]
    constructor
    · rintro (⟨⟨row, hrow, hmatches⟩, rfl⟩ | ⟨row, hrow, hrow', -, hany⟩)
      · exact ⟨row, hrow, (ParkedWorkspaceJob.matches_iff.1 hmatches).1,
          by rw [anyMatches_cons, hmatches, Bool.true_or]⟩
      · refine ⟨row, hrow, hrow', ?_⟩
        rw [anyMatches_cons, hany, Bool.or_true]
    · rintro ⟨row, hrow, rfl, hany⟩
      cases hmatches : job.matches now row with
      | true => exact .inl ⟨⟨row, hrow, hmatches⟩, (ParkedWorkspaceJob.matches_iff.1 hmatches).1⟩
      | false =>
        rw [anyMatches_cons, hmatches, Bool.false_or] at hany
        exact .inr ⟨row, hrow, rfl, hmatches, hany⟩

/-- **A batch is as good as its members, in any order.** -/
theorem wakeOneByOne_perm (jobs : JobTable) (now : ℤ) {parked order : List ParkedWorkspaceJob}
    (h : order.Perm parked) :
    (wakeOneByOne jobs now order).2 = (wakeParkedWorkspaceJobs jobs parked now).2 ∧
      ∀ id, id ∈ (wakeOneByOne jobs now order).1 ↔
        id ∈ (wakeParkedWorkspaceJobs jobs parked now).1 := by
  have hany : ∀ row, anyMatches order now row = anyMatches parked now row := fun row => by
    rw [Bool.eq_iff_iff]
    simp only [anyMatches, List.any_eq_true, h.mem_iff]
  constructor
  · rw [wakeOneByOne_snd, wakeParkedWorkspaceJobs_snd, wakeParkedWorkspaceJobs_snd]
    exact Table.update_congr fun row _ => hany row
  · intro id
    rw [mem_wakeOneByOne, mem_wakeParkedWorkspaceJobs, mem_wakeParkedWorkspaceJobs]
    simp only [hany]

/-! ### Descriptors -/

/-- A descriptor was read from a park, and names its payload and its end. -/
theorem currentPark_of_decode (h : RowPark events row)
    {workspaces : Uuid → Option (ℤ × WorkspaceState)} {readAt : ℤ}
    (hread : decodeParkedJob workspaces readAt row = some parked) :
    ∃ park, currentPark events row.id = some park ∧ park.payload = parked.payload ∧
      park.until = parked.until := by
  obtain ⟨-, hpayload, huntil, -, hpending, wait, hwait, hlookup⟩ := decodeParkedJob_eq_some hread
  obtain ⟨nonce, t, hmarker, -⟩ := h.marker _ hwait
  have ht : t = row.availableAt := by
    obtain rfl := JsonValue.object.inj hmarker
    simp only [List.lookup_cons, JsonScalar.asI64, beq_self_eq_true, Option.bind_some,
      show ("until" == "nonce") = false from rfl] at hlookup
    split at hlookup
    · exact Option.some_inj.1 hlookup
    · cases hlookup
  refine ⟨⟨nonce, row.payload, t⟩, (h.current _).2 ⟨hpending, rfl, ht.symm, ?_⟩, hpayload.symm, ?_⟩
  · rw [hwait, hmarker]
  · rw [huntil, ht]

/-- A row matches a descriptor exactly when its job is still in the park the descriptor was read
from and that park has not ended. -/
theorem matches_iff_currentPark (h : RowPark events row)
    {park : Park} (hid : row.id = parked.id)
    (hkind : row.kind = .reconcileWorkspace) (hpayload : park.payload = parked.payload)
    (huntil : park.until = parked.until)
    (hmarker : park.payload.get "runtime_wait" = some (runtimeWait park.nonce park.until)) :
    parked.matches now row = true ↔
      currentPark events row.id = some park ∧ now < park.until := by
  rw [ParkedWorkspaceJob.matches_iff]
  constructor
  · rintro ⟨-, -, hpending, hfuture, hpayload', huntil'⟩
    refine ⟨(h.current park).2 ⟨hpending, hpayload'.trans hpayload.symm,
      huntil'.trans huntil.symm, ?_⟩, ?_⟩
    · rw [hpayload', ← hpayload, hmarker]
    · rwa [huntil, ← huntil']
  · rintro ⟨hcurrent, hfuture⟩
    obtain ⟨hpending, hpayload', huntil', -⟩ := (h.current park).1 hcurrent
    exact ⟨hid, hkind, hpending, huntil' ▸ hfuture, hpayload'.trans hpayload,
      huntil'.trans huntil⟩

/-- What a wake does to the row of its descriptor, and to no other. -/
theorem find_wakeParkedWorkspaceJob (hrow : row ∈ jobs.rows) (hid : row.id = parked.id) (now : ℤ) :
    (wakeParkedWorkspaceJob jobs parked now).1 = parked.matches now row ∧
      (wakeParkedWorkspaceJob jobs parked now).2.find parked.id =
        some (if parked.matches now row = true then
          { row with availableAt := now, updatedAt := now } else row) ∧
      ∀ other ≠ parked.id,
        (wakeParkedWorkspaceJob jobs parked now).2.find other = jobs.find other := by
  have hfind : jobs.find parked.id = some row := hid ▸ Table.find_key_of_mem hrow
  refine ⟨?_, ?_, fun other hother => ?_⟩
  · rw [Bool.eq_iff_iff, wakeParkedWorkspaceJob_fst]
    constructor
    · rintro ⟨row', hrow', hmatches⟩
      have hid' := (ParkedWorkspaceJob.matches_iff.1 hmatches).1
      rwa [jobs.eq_of_key hrow hrow' (hid.trans hid'.symm)]
    · exact fun hmatches => ⟨row, hrow, hmatches⟩
  · rw [wakeParkedWorkspaceJob_snd, Table.find_update, hfind]
    rfl
  · rw [wakeParkedWorkspaceJob_snd, Table.find_update]
    cases hfound : jobs.find other with
    | none => rfl
    | some row' =>
      obtain ⟨-, hkey⟩ := Table.find_eq_some.1 hfound
      have hmatches : parked.matches now row' = false := by
        rw [Bool.eq_false_iff]
        exact fun h => hother (hkey.symm.trans (ParkedWorkspaceJob.matches_iff.1 h).1)
      rw [Option.map_some, Table.change_of_neg hmatches]

/-- **A wake accelerates exactly the park its descriptor was read from.**  The descriptor `parked`
was read from the queue `jobs₁`, and by now the queue is `jobs₂`.  Every park draws a nonce of its
own.  Then there was one park at the time of the reading, and the wake writes the row exactly when
the job is still in it and it has not ended; it writes two columns of that row and nothing else, and
in any later park of the job it writes nothing.  A batch does what its members do, in any order. -/
theorem wake_exact {steps₁ steps₂ : List JobStep} {jobs₁ jobs₂ : JobTable}
    (hrun₁ : JobRun (Table.empty JobRow.id) steps₁ jobs₁) (hrun₂ : JobRun jobs₁ steps₂ jobs₂)
    (hunmarked : ∀ step ∈ steps₁ ++ steps₂, step.call.Accepted unmarked)
    (hfresh : ((parks (journal (steps₁ ++ steps₂))).map Park.nonce).Nodup)
    {workspaces : Uuid → Option (ℤ × WorkspaceState)} {readAt : ℤ} {parked : ParkedWorkspaceJob}
    (hread : getParkedWorkspaceJob jobs₁ workspaces parked.id readAt = some parked) (now : ℤ) :
    (∃ park row, currentPark (journal steps₁) parked.id = some park ∧
      (parks (journal (steps₁ ++ steps₂))).count park = 1 ∧
      jobs₂.find parked.id = some row ∧
      ((wakeParkedWorkspaceJob jobs₂ parked now).2.find parked.id ≠ some row ↔
        currentPark (journal (steps₁ ++ steps₂)) parked.id = some park ∧ now < park.until) ∧
      ((wakeParkedWorkspaceJob jobs₂ parked now).1 = true ↔
        currentPark (journal (steps₁ ++ steps₂)) parked.id = some park ∧ now < park.until) ∧
      ((wakeParkedWorkspaceJob jobs₂ parked now).1 = true →
        (wakeParkedWorkspaceJob jobs₂ parked now).2.find parked.id =
          some { row with availableAt := now, updatedAt := now }) ∧
      (∀ other ≠ parked.id,
        (wakeParkedWorkspaceJob jobs₂ parked now).2.find other = jobs₂.find other) ∧
      ∀ later, currentPark (journal (steps₁ ++ steps₂)) parked.id = some later →
        later.nonce ≠ park.nonce →
        (wakeParkedWorkspaceJob jobs₂ parked now).2.find parked.id = some row) ∧
    ∀ batch order : List ParkedWorkspaceJob, order.Perm batch →
      (wakeOneByOne jobs₂ now order).2 = (wakeParkedWorkspaceJobs jobs₂ batch now).2 ∧
        ∀ id, id ∈ (wakeOneByOne jobs₂ now order).1 ↔
          id ∈ (wakeParkedWorkspaceJobs jobs₂ batch now).1 := by
  refine ⟨?_, fun batch order horder => wakeOneByOne_perm jobs₂ now horder⟩
  have hmoves₁ := hrun₁.moves fun step hstep => hunmarked step (List.mem_append_left _ hstep)
  have hmoves := (hrun₁.append hrun₂).moves hunmarked
  have hrows₁ := ((Tracked.empty RowPark).moves tracks_rowPark hmoves₁).rows
  have hrows₂ := ((Tracked.empty RowPark).moves tracks_rowPark hmoves).rows
  rw [List.nil_append] at hrows₁ hrows₂
  -- the row the descriptor was read from, and its park
  obtain ⟨read, hfind, hdecode⟩ := Option.bind_eq_some_iff.1 hread
  obtain ⟨hmem, hkey⟩ := Table.find_eq_some.1 hfind
  obtain ⟨park, hcurrent, hpayload, huntil⟩ := currentPark_of_decode (hrows₁ read hmem) hdecode
  have hmarker := ((hrows₁ read hmem).current park).1 hcurrent
  rw [hmarker.2.1] at hmarker
  rw [hkey] at hcurrent
  have hpark : park ∈ parks (journal (steps₁ ++ steps₂)) := by
    rw [journal, List.flatMap_append, parks, List.filterMap_append]
    exact List.mem_append_left _ (mem_parks_of_currentPark hcurrent)
  -- the row of the job at the time of the wake
  obtain ⟨row, hrow, hid, hkind, -⟩ := exists_of_moves hrun₂.moves' hmem
  have hid' : row.id = parked.id := hid.trans hkey
  have hiff : parked.matches now row = true ↔
      currentPark (journal (steps₁ ++ steps₂)) parked.id = some park ∧ now < park.until := by
    rw [← hid']
    exact matches_iff_currentPark (hrows₂ row hrow) hid'
      (hkind.trans (decodeParkedJob_eq_some hdecode).2.2.2.1) hpayload huntil hmarker.2.2.2
  obtain ⟨hwoken, hwritten, hothers⟩ := find_wakeParkedWorkspaceJob hrow hid' now
  refine ⟨park, row, hcurrent, ?_, hid' ▸ Table.find_key_of_mem hrow, ?_, ?_, ?_, hothers, ?_⟩
  · exact List.count_eq_one_of_mem (hfresh.of_map _) hpark
  · rw [hwritten, ← hiff]
    split
    · rename_i hmatches
      simp only [hmatches, iff_true, ne_eq, Option.some_inj]
      intro hsame
      have hfuture := (ParkedWorkspaceJob.matches_iff.1 hmatches).2.2.2.1
      rw [← hsame] at hfuture
      exact lt_irrefl now hfuture
    · rename_i hmatches
      simp [hmatches]
  · rw [hwoken, hiff]
  · intro h
    rw [hwritten, if_pos (hwoken ▸ h)]
  · intro later hlater hne
    have hmatches : ¬ parked.matches now row = true := by
      rw [hiff, hlater, Option.some_inj]
      rintro ⟨rfl, -⟩
      exact hne rfl
    rw [hwritten, if_neg hmatches]

/-! ### A park and its wake -/

/-- A reconcile job that has run once and waits for its Pod, until time 60. -/
def parkingRun : List JobStep × JobTable :=
  replay (Table.empty JobRow.id)
    [.enqueue ⟨"01990f5d-6e80-7000-8000-000000000011", by decide⟩
      ⟨.reconcileWorkspace, some ⟨"01990f5d-6e80-7000-8000-000000000012", by decide⟩, .object [], 0⟩ 0,
    .claim "a" 0 60,
    .park ⟨"01990f5d-6e80-7000-8000-000000000011", by decide⟩ "a"
      (.object [("reconciled_generation", .scalar (.int 1)), ("reconciled_at", .scalar (.int 0))])
      60 0 ⟨"01990f5d-6e80-7000-8000-000000000013", by decide⟩]

/-- The descriptor of the waiting job. -/
def waitingDescriptor : ParkedWorkspaceJob where
  id := ⟨"01990f5d-6e80-7000-8000-000000000011", by decide⟩
  workspaceId := ⟨"01990f5d-6e80-7000-8000-000000000012", by decide⟩
  payload := parkedPayload
    (.object [("reconciled_generation", .scalar (.int 1)), ("reconciled_at", .scalar (.int 0))]) 60
    ⟨"01990f5d-6e80-7000-8000-000000000013", by decide⟩
  «until» := 60
  generation := 1
  reconciledAt := 0
  desiredReplicas := 1

/-- At time 10 the descriptor wakes the job. -/
theorem wake_exact_waiting :
    (wakeParkedWorkspaceJob parkingRun.2 waitingDescriptor 10).1 = true ∧
      ∀ other ≠ waitingDescriptor.id,
        (wakeParkedWorkspaceJob parkingRun.2 waitingDescriptor 10).2.find other =
          parkingRun.2.find other := by
  have hread : getParkedWorkspaceJob parkingRun.2 (fun _ => some (1, .starting))
      waitingDescriptor.id 1 = some waitingDescriptor := by decide
  have hunmarked : ∀ step ∈ parkingRun.1 ++ [], step.call.Accepted unmarked := by
    intro step hstep
    simp only [List.append_nil, parkingRun, replay, List.mem_cons, List.not_mem_nil,
      or_false] at hstep
    rcases hstep with rfl | rfl | rfl <;> simp [JobCall.Accepted, unmarked, Payload.get]
  obtain ⟨⟨park, row, hcurrent, -, -, -, hwoken, -, hothers, -⟩, -⟩ :=
    wake_exact (replay_run _ _) (.nil parkingRun.2) hunmarked (by decide) hread 10
  have hpark : currentPark (journal parkingRun.1) waitingDescriptor.id =
      some ⟨⟨"01990f5d-6e80-7000-8000-000000000013", by decide⟩, waitingDescriptor.payload, 60⟩ := by
    decide
  refine ⟨hwoken.2 ⟨?_, ?_⟩, hothers⟩
  · rw [List.append_nil]
    exact hcurrent
  · obtain rfl := Option.some_inj.1 (hcurrent.symm.trans hpark)
    decide

end WorkspaceControl
