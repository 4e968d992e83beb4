/-
**Reservations of idempotency keys.**

`src/src/storage/idempotency.rs`: a request with a key first removes an expired row under its scope
and key, then inserts its own, and reads the row that is there when the insertion finds one.  The
one whose row was inserted goes on, and later finishes its row with the response or abandons it.
These are single statements with those of any number of other callers between them, and each may
fail, also after it was carried out.

A row does not say whose it is: it is finished and removed by its scope, key and hash.  The model
keeps the caller that inserted a row beside it, and a record of the rows that were settled.  A
caller whose row was removed as expired while it was still at work settles the row of another one
with the same hash.

Main definitions:

* `deleteExpired`, `readIdempotency`, `finishRow`, `abandonRow` — the statements;
* `IdempotencyStep` — one statement of one caller;
* `IdempotencyState.Holds` — the caller has a reservation and has not ended;
* `Timely` — what is removed as expired is not the row of a caller at work.

Main results:

* `reservation_exclusive` — **there is one caller at work on a key, and what it settles is its own
  row**, in every run that is timely;
* `expired_reservation_shared` — two callers at work on a key, one of which settles the row of the
  other.
-/
import Mathlib.Logic.Function.Basic
import Mathlib.Logic.Relation
import WorkspaceControl.Fallible
import WorkspaceControl.Table
import WorkspaceControl.Workspace

set_option autoImplicit false

namespace WorkspaceControl

open Fallible Relational

/-! ### Rows -/

/-- What a reservation is for. -/
structure IdempotencySlot where
  scope : String
  key : String
deriving DecidableEq

/-- A row of `idempotency_keys`.  The caller that inserted it is not a column. -/
structure IdempotencyRow (ι : Type) where
  slot : IdempotencySlot
  requestHash : String
  responseJson : String
  statusCode : ℤ
  createdAt : ℤ
  expiresAt : ℤ
  holder : ι

abbrev IdempotencyTable (ι : Type) : Type := Table (IdempotencyRow.slot (ι := ι))

structure IdempotencyReplay where
  statusCode : UInt16
  responseJson : String

/-- `IdempotencyDecision`, with the response that is replayed. -/
inductive StoredDecision
  | reserved
  | inProgress
  | conflict
  | replay (response : IdempotencyReplay)

/-- The arguments of `begin_idempotency`. -/
structure BeginCall where
  slot : IdempotencySlot
  requestHash : String
  now : ℤ
  expiresAt : ℤ

variable {call : BeginCall} {response : IdempotencyReplay} {ι : Type}

section Statements

def BeginCall.validate (call : BeginCall) : Except StorageError Unit :=
  ensure (!(call.slot.scope.isEmpty || call.slot.key.isEmpty ||
    255 < Text.len call.slot.scope.toList || 255 < Text.len call.slot.key.toList))
    .invalidIdempotencyKey

/-- The row that the caller inserts. -/
def BeginCall.row (call : BeginCall) (i : ι) : IdempotencyRow ι :=
  ⟨call.slot, call.requestHash, "", 0, call.now, call.expiresAt, i⟩

def deleteExpired (rows : IdempotencyTable ι) (call : BeginCall) : IdempotencyTable ι :=
  rows.delete fun row => row.slot = call.slot && row.expiresAt ≤ call.now

/-- `u16::try_from`. -/
def statusCodeOf (code : ℤ) : Except StorageError UInt16 :=
  if 0 ≤ code ∧ code < 65536 then .ok (.ofNat code.toNat) else .error .idempotencyReservationLost

def readIdempotency (rows : IdempotencyTable ι) (call : BeginCall) :
    Except StorageError StoredDecision :=
  match rows.find call.slot with
  | none => .error (.database
      "no rows returned by a query that expected to return at least one row")
  | some row =>
    if row.requestHash ≠ call.requestHash then .ok .conflict
    else if row.statusCode = 0 then .ok .inProgress
    else do
      let code ← statusCodeOf row.statusCode
      pure (.replay ⟨code, row.responseJson⟩)

/-- The rows that a finish or an abandonment is about. -/
def unfinished (call : BeginCall) (row : IdempotencyRow ι) : Bool :=
  row.slot = call.slot && row.requestHash = call.requestHash && row.statusCode = 0

def IdempotencyRow.complete (row : IdempotencyRow ι) (response : IdempotencyReplay) :
    IdempotencyRow ι :=
  { row with statusCode := response.statusCode.toNat, responseJson := response.responseJson }

def finishRow (rows : IdempotencyTable ι) (call : BeginCall) (response : IdempotencyReplay) :
    IdempotencyTable ι :=
  rows.update (unfinished call) (·.complete response) fun _ => rfl

def abandonRow (rows : IdempotencyTable ι) (call : BeginCall) : IdempotencyTable ι :=
  rows.delete (unfinished call)

/-- `rows_affected` of either. -/
def affectedRows (rows : IdempotencyTable ι) (call : BeginCall) : ℕ :=
  (rows.rows.filter (unfinished call)).length

def ensureFinished (affected : ℕ) : Except StorageError Unit :=
  ensure (affected = 1) .idempotencyReservationLost

end Statements

/-! ### Callers -/

/-- How far a caller is: before one of the three statements of `begin_idempotency`, at work with a
reservation, at work after a finish that failed, or at its end. -/
inductive CallerPhase
  | idle
  | deleting (call : BeginCall)
  | inserting (call : BeginCall)
  | reading (call : BeginCall)
  | reserved (call : BeginCall)
  | retracting (call : BeginCall)
  | ended (call : BeginCall) (result : Except StorageError StoredDecision)

/-- The reservation that the caller may still finish or abandon. -/
def CallerPhase.pending : CallerPhase → Option BeginCall
  | reserved call | retracting call => some call
  | idle | deleting _ | inserting _ | reading _ | ended .. => none

/-- The call that a caller has not ended. -/
def CallerPhase.current : CallerPhase → Option BeginCall
  | deleting call | inserting call | reading call | reserved call | retracting call => some call
  | idle | ended .. => none

/-- A row that was finished, with the response, or abandoned: who did it, and whose row it was. -/
structure Settlement (ι : Type) where
  caller : ι
  holder : ι
  slot : IdempotencySlot
  requestHash : String
  response : Option IdempotencyReplay

/-- The table, the callers, and the record of what was settled. -/
structure IdempotencyState (ι : Type) where
  rows : IdempotencyTable ι
  phase : ι → CallerPhase
  settled : List (Settlement ι)

namespace IdempotencyState

def initial (ι : Type) : IdempotencyState ι := ⟨.empty _, fun _ => .idle, []⟩

def Holds (s : IdempotencyState ι) (i : ι) (slot : IdempotencySlot) : Prop :=
  ∃ call, (s.phase i).pending = some call ∧ call.slot = slot

/-- What the caller settles now. -/
def settlements (s : IdempotencyState ι) (i : ι) (call : BeginCall)
    (response : Option IdempotencyReplay) : List (Settlement ι) :=
  (s.rows.rows.filter (unfinished call)).map fun row =>
    ⟨i, row.holder, row.slot, row.requestHash, response⟩

variable [DecidableEq ι]

def goto (s : IdempotencyState ι) (i : ι) (phase : CallerPhase) : IdempotencyState ι :=
  { s with phase := Function.update s.phase i phase }

@[simp] theorem phase_goto_self (s : IdempotencyState ι) (i : ι) (phase : CallerPhase) :
    (s.goto i phase).phase i = phase := by simp [goto]

theorem goto_goto (s : IdempotencyState ι) (i : ι) (phase phase' : CallerPhase)
    (rows : IdempotencyTable ι) :
    { s.goto i phase with rows := rows }.goto i phase' = { s with rows := rows }.goto i phase' := by
  simp [goto]

end IdempotencyState

/-! ### Records and owners -/

section Records

variable {s s' : IdempotencyState ι} {i : ι}

theorem mem_settlements {s : IdempotencyState ι} {i : ι} {response : Option IdempotencyReplay}
    {e : Settlement ι} :
    e ∈ s.settlements i call response ↔ ∃ row ∈ s.rows.rows, unfinished call row = true ∧
      e = ⟨i, row.holder, row.slot, row.requestHash, response⟩ := by
  simp only [IdempotencyState.settlements, List.mem_map, List.mem_filter, and_assoc]
  exact ⟨fun ⟨row, hrow, hsel, he⟩ => ⟨row, hrow, hsel, he.symm⟩,
    fun ⟨row, hrow, hsel, he⟩ => ⟨row, hrow, hsel, he.symm⟩⟩

/-- The response was stored by a finish of a reservation of the slot with this hash. -/
def StoredBy (s : IdempotencyState ι) (slot : IdempotencySlot) (requestHash : String)
    (response : IdempotencyReplay) : Prop :=
  ∃ e ∈ s.settled, e.slot = slot ∧ e.requestHash = requestHash ∧ e.response = some response

/-- **What is stored and what is replayed comes from a finish.** -/
structure FinishesRecorded (s : IdempotencyState ι) : Prop where
  stored : ∀ row ∈ s.rows.rows, row.statusCode ≠ 0 → ∃ code : UInt16, row.statusCode = code.toNat ∧
    StoredBy s row.slot row.requestHash ⟨code, row.responseJson⟩
  replayed : ∀ i call response, s.phase i = .ended call (.ok (.replay response)) →
    StoredBy s call.slot call.requestHash response

theorem StoredBy.mono {slot : IdempotencySlot} {requestHash : String}
    (h : StoredBy s slot requestHash response) (hsettled : s.settled ⊆ s'.settled) :
    StoredBy s' slot requestHash response := by
  obtain ⟨e, he, hfields⟩ := h
  exact ⟨e, hsettled he, hfields⟩

variable {rows : IdempotencyTable ι}

/-- The rows after a finish: those that it is not about, and those that it completes. -/
theorem mem_finishRow {row : IdempotencyRow ι} (h : row ∈ (finishRow rows call response).rows) :
    row ∈ rows.rows ∨ ∃ old ∈ rows.rows, unfinished call old = true ∧ row = old.complete response :=
  (Table.mem_update_cases (t := rows) (f := (IdempotencyRow.complete · response)) h).imp_left
    And.left

/-- A finish keeps each row, with its slot and its holder. -/
theorem exists_mem_finishRow {row : IdempotencyRow ι} (h : row ∈ rows.rows)
    (response : IdempotencyReplay) :
    ∃ row' ∈ (finishRow rows call response).rows, row'.slot = row.slot ∧ row'.holder = row.holder :=
  ⟨_, Table.mem_update.2 ⟨row, h, rfl⟩,
    Table.apply_change (f := (IdempotencyRow.complete · response)) IdempotencyRow.slot
      (fun _ _ => rfl) row,
    Table.apply_change (f := (IdempotencyRow.complete · response)) IdempotencyRow.holder
      (fun _ _ => rfl) row⟩

theorem statusCodeOf_toNat (code : UInt16) : statusCodeOf code.toNat = .ok code := by
  have hlt : code.toNat < 65536 := code.toNat_lt
  unfold statusCodeOf
  rw [if_pos ⟨by omega, by omega⟩]
  simp

theorem FinishesRecorded.of_read (h : FinishesRecorded s)
    (hread : readIdempotency s.rows call = .ok (.replay response)) :
    StoredBy s call.slot call.requestHash response := by
  unfold readIdempotency at hread
  split at hread
  · cases hread
  · rename_i row hfind
    obtain ⟨hrow, hslot⟩ := Table.find_eq_some.1 hfind
    split at hread
    · cases hread
    · rename_i hhash
      split at hread
      · cases hread
      · rename_i hcode
        obtain ⟨code, hcode, hstored⟩ := h.stored row hrow hcode
        rw [hcode, statusCodeOf_toNat] at hread
        obtain rfl : (⟨code, row.responseJson⟩ : IdempotencyReplay) = response := by
          simpa using hread
        rw [not_not] at hhash
        rwa [← hslot, ← hhash]

/-- **A caller at work has a row, and what was settled was settled by its holder.** -/
structure Owned (s : IdempotencyState ι) : Prop where
  held : ∀ i call, (s.phase i).pending = some call →
    ∃ row ∈ s.rows.rows, row.slot = call.slot ∧ row.holder = i
  settled : ∀ e ∈ s.settled, e.caller = e.holder

theorem Owned.holder_eq (h : Owned s) (hpending : (s.phase i).pending = some call)
    {row : IdempotencyRow ι} (hrow : row ∈ s.rows.rows) (hslot : row.slot = call.slot) :
    row.holder = i := by
  obtain ⟨own, hown, hownSlot, rfl⟩ := h.held i call hpending
  rw [s.rows.eq_of_key hrow hown (hslot.trans hownSlot.symm)]

theorem slot_of_unfinished {row : IdempotencyRow ι} (h : unfinished call row = true) :
    row.slot = call.slot := by
  simp only [unfinished, Bool.and_eq_true, decide_eq_true_eq] at h
  exact h.1.1

theorem Owned.settlements (h : Owned s) (hpending : (s.phase i).pending = some call)
    {response : Option IdempotencyReplay} :
    ∀ e ∈ s.settled ++ s.settlements i call response, e.caller = e.holder := by
  intro e he
  rcases List.mem_append.1 he with hold | hnew
  · exact h.settled e hold
  · obtain ⟨row, hrow, hselected, rfl⟩ := mem_settlements.1 hnew
    exact (h.holder_eq hpending hrow (slot_of_unfinished hselected)).symm

theorem Owned.abandon (h : Owned s) (hpending : (s.phase i).pending = some call)
    {row : IdempotencyRow ι} (hrow : row ∈ s.rows.rows) (hholder : row.holder ≠ i) :
    row ∈ (abandonRow s.rows call).rows := by
  refine Table.mem_delete.2 ⟨hrow, Bool.eq_false_iff.2 fun hselected => hholder ?_⟩
  exact h.holder_eq hpending hrow (slot_of_unfinished hselected)

end Records

section Steps

variable [DecidableEq ι]

/-- **One statement of one caller.**  A statement whose answer is lost ends the caller, or lets it
abandon what it may not have finished; a caller may also stop at any point.  `allowed` restricts the
removals of expired rows. -/
inductive IdempotencyStep (allowed : IdempotencyState ι → ι → Prop) :
    IdempotencyState ι → IdempotencyState ι → Prop
  | begins {s i} (call : BeginCall) (h : s.phase i = .idle)
      (hvalid : call.validate = .ok ()) : IdempotencyStep allowed s (s.goto i (.deleting call))
  | rejected {s i} (call : BeginCall) {e : StorageError}
      (h : s.phase i = .idle) (hvalid : call.validate = .error e) :
      IdempotencyStep allowed s (s.goto i (.ended call (.error e)))
  | deletes {s i call next} (h : s.phase i = .deleting call) (hallowed : allowed s i)
      (hnext : next = .inserting call ∨ ∃ text, next = .ended call (.error (.database text))) :
      IdempotencyStep allowed s ({ s with rows := deleteExpired s.rows call }.goto i next)
  | inserts {s i call rows next} (h : s.phase i = .inserting call)
      (hrows : s.rows.insertNew (call.row i) = some rows)
      (hnext : next = .reserved call ∨ ∃ text, next = .ended call (.error (.database text))) :
      IdempotencyStep allowed s ({ s with rows := rows }.goto i next)
  | finds {s i call} (h : s.phase i = .inserting call)
      (hrows : s.rows.insertNew (call.row i) = none) :
      IdempotencyStep allowed s (s.goto i (.reading call))
  | reads {s i call} (h : s.phase i = .reading call) :
      IdempotencyStep allowed s (s.goto i (.ended call (readIdempotency s.rows call)))
  | finishes {s i call next} (response : IdempotencyReplay) (h : s.phase i = .reserved call)
      (hnext : ensureFinished (affectedRows s.rows call) = .ok () ∧
        next = .ended call (.ok .reserved) ∨ next = .retracting call) :
      IdempotencyStep allowed s ({ s with
        rows := finishRow s.rows call response
        settled := s.settled ++ s.settlements i call (some response) }.goto i next)
  | finishFails {s i call}
      (h : s.phase i = .reserved call) : IdempotencyStep allowed s (s.goto i (.retracting call))
  | abandons {s i call} (h : (s.phase i).pending = some call) :
      IdempotencyStep allowed s ({ s with
        rows := abandonRow s.rows call
        settled := s.settled ++ s.settlements i call none }.goto i (.ended call (.ok .reserved)))
  | stops {s i call} (text : String)
      (h : (s.phase i).current = some call) :
      IdempotencyStep allowed s (s.goto i (.ended call (.error (.database text))))

/-- The states that are reached. -/
def IdempotencyRun (allowed : IdempotencyState ι → ι → Prop) (s : IdempotencyState ι) : Prop :=
  Relation.ReflTransGen (IdempotencyStep allowed) (.initial ι) s

/-- What the caller is about to remove as expired is not the row of a caller that is at work. -/
def Timely (s : IdempotencyState ι) (i : ι) : Prop :=
  ∀ call, s.phase i = .deleting call → ∀ row ∈ s.rows.rows, row.slot = call.slot →
    row.expiresAt ≤ call.now → (s.phase row.holder).pending = none

/-! ### What is replayed -/

section Recording

variable {s s' : IdempotencyState ι} {i : ι} {next : CallerPhase}

/-- A step in which the caller is not replayed anything, and rows that are new are unfinished or
recorded. -/
theorem FinishesRecorded.of_rows (h : FinishesRecorded s)
    (hphase : s'.phase = Function.update s.phase i next)
    (hsettled : s.settled ⊆ s'.settled)
    (hrows : ∀ row ∈ s'.rows.rows, row.statusCode ≠ 0 → row ∈ s.rows.rows ∨
      ∃ code : UInt16, row.statusCode = code.toNat ∧
        StoredBy s' row.slot row.requestHash ⟨code, row.responseJson⟩)
    (hnext : ∀ call response, next = .ended call (.ok (.replay response)) →
      StoredBy s call.slot call.requestHash response) : FinishesRecorded s' where
  stored row hrow hcode := by
    rcases hrows row hrow hcode with hold | hnew
    · obtain ⟨code, hcode, hstored⟩ := h.stored row hold hcode
      exact ⟨code, hcode, hstored.mono hsettled⟩
    · exact hnew
  replayed j call response hj := by
    rw [hphase, Function.update_apply] at hj
    split at hj
    · exact (hnext call response hj).mono hsettled
    · exact (h.replayed j call response hj).mono hsettled

theorem FinishesRecorded.goto (h : FinishesRecorded s) (hnext : ∀ call response,
    next = .ended call (.ok (.replay response)) →
      StoredBy s call.slot call.requestHash response) : FinishesRecorded (s.goto i next) :=
  h.of_rows rfl (List.Subset.refl _) (fun _ hrow _ => .inl hrow) hnext

theorem FinishesRecorded.step {allowed : IdempotencyState ι → ι → Prop} (h : FinishesRecorded s)
    (hstep : IdempotencyStep allowed s s') : FinishesRecorded s' := by
  cases hstep with
  | begins | rejected | finds | finishFails | stops => exact h.goto (by rintro _ _ ⟨⟩)
  | deletes _ _ hnext =>
    refine h.of_rows rfl (List.Subset.refl _) (fun row hrow _ => .inl ?_) ?_
    · exact (Table.mem_delete.1 hrow).1
    · rcases hnext with rfl | ⟨text, rfl⟩ <;> rintro _ _ ⟨⟩
  | inserts _ hrows hnext =>
    refine h.of_rows rfl (List.Subset.refl _) (fun row hrow hcode => .inl ?_) ?_
    · have hrow : row ∈ s.rows.rows ++ [BeginCall.row _ _] :=
        (Table.rows_of_insertNew hrows).2 ▸ hrow
      rcases List.mem_append.1 hrow with hold | hnew
      · exact hold
      · obtain rfl := List.mem_singleton.1 hnew
        exact absurd rfl hcode
    · rcases hnext with rfl | ⟨text, rfl⟩ <;> rintro _ _ ⟨⟩
  | reads _ =>
    refine h.goto fun call response hread => ?_
    rw [CallerPhase.ended.injEq] at hread
    obtain ⟨rfl, hread⟩ := hread
    exact h.of_read hread
  | finishes response _ hnext =>
    refine h.of_rows rfl (List.subset_append_left _ _) (fun row hrow _ => ?_) ?_
    · rcases mem_finishRow hrow with hold | ⟨old, hold, hselected, rfl⟩
      · exact .inl hold
      · refine .inr ⟨response.statusCode, rfl, _, List.mem_append_right _
          (mem_settlements.2 ⟨old, hold, hselected, rfl⟩), rfl, rfl, rfl⟩
    · rcases hnext with ⟨-, rfl⟩ | rfl <;> rintro _ _ ⟨⟩
  | abandons _ =>
    refine h.of_rows rfl (List.subset_append_left _ _) (fun row hrow _ => .inl ?_)
      (by rintro _ _ ⟨⟩)
    exact (Table.mem_delete.1 hrow).1

theorem FinishesRecorded.of_run {allowed : IdempotencyState ι → ι → Prop}
    (h : IdempotencyRun allowed s) : FinishesRecorded s := by
  induction h with
  | refl => exact ⟨fun _ hrow => (List.not_mem_nil hrow).elim, fun _ _ _ h => nomatch h⟩
  | tail _ hstep ih => exact ih.step hstep

end Recording

/-! ### Whose row it is -/

section Ownership

variable {s s' : IdempotencyState ι} {i : ι} {next : CallerPhase}

/-- A step of a caller that leaves the rows of the others at work. -/
theorem Owned.of_rows (h : Owned s) (hphase : s'.phase = Function.update s.phase i next)
    (hsettled : ∀ e ∈ s'.settled, e.caller = e.holder)
    (hrows : ∀ row ∈ s.rows.rows, row.holder ≠ i → (s.phase row.holder).pending ≠ none →
      ∃ row' ∈ s'.rows.rows, row'.slot = row.slot ∧ row'.holder = row.holder)
    (hnext : ∀ call, next.pending = some call →
      ∃ row ∈ s'.rows.rows, row.slot = call.slot ∧ row.holder = i) : Owned s' := by
  refine ⟨fun j call hj => ?_, hsettled⟩
  rw [hphase, Function.update_apply] at hj
  split at hj
  · rename_i heq
    exact heq ▸ hnext call hj
  · rename_i hne
    obtain ⟨row, hrow, hslot, rfl⟩ := h.held j call hj
    obtain ⟨row', hrow', hslot', hholder'⟩ := hrows row hrow hne (by rw [hj]; rintro ⟨⟩)
    exact ⟨row', hrow', hslot'.trans hslot, hholder'⟩

theorem Owned.goto (h : Owned s)
    (hnext : ∀ call, next.pending = some call → (s.phase i).pending = some call) :
    Owned (s.goto i next) :=
  h.of_rows rfl h.settled (fun row hrow _ _ => ⟨row, hrow, rfl, rfl⟩)
    fun call hcall => h.held i call (hnext call hcall)

theorem Owned.step (h : Owned s) (hstep : IdempotencyStep Timely s s') : Owned s' := by
  cases hstep with
  | begins | rejected | finds | reads | stops => exact h.goto (by rintro _ ⟨⟩)
  | @deletes i call next hphase htimely hnext =>
    refine h.of_rows rfl h.settled (fun row hrow _ hpending => ⟨row, ?_, rfl, rfl⟩) ?_
    · refine Table.mem_delete.2 ⟨hrow, Bool.eq_false_iff.2 fun hexpired => hpending ?_⟩
      simp only [Bool.and_eq_true, decide_eq_true_eq] at hexpired
      exact htimely call hphase row hrow hexpired.1 hexpired.2
    · rcases hnext with rfl | ⟨text, rfl⟩ <;> rintro _ ⟨⟩
  | @inserts i call rows next _ hrows hnext =>
    have hrows := (Table.rows_of_insertNew hrows).2
    have hkept : ∀ row ∈ s.rows.rows, row ∈ rows.rows := fun row hrow => by
      rw [hrows]
      exact List.mem_append_left _ hrow
    refine h.of_rows rfl h.settled (fun row hrow _ _ => ⟨row, hkept row hrow, rfl, rfl⟩) ?_
    rcases hnext with rfl | ⟨text, rfl⟩
    · rintro _ ⟨⟩
      refine ⟨call.row i, ?_, rfl, rfl⟩
      show call.row i ∈ rows.rows
      rw [hrows]
      exact List.mem_append_right _ (List.mem_singleton_self _)
    · rintro _ ⟨⟩
  | @finishes i call next response hphase hnext =>
    have hpending : (s.phase i).pending = some call := by rw [hphase]; rfl
    refine h.of_rows rfl (h.settlements hpending)
      (fun row hrow _ _ => exists_mem_finishRow hrow response) ?_
    rcases hnext with ⟨-, rfl⟩ | rfl
    · rintro _ ⟨⟩
    · rintro _ ⟨⟩
      obtain ⟨row, hrow, hslot, hholder⟩ := h.held i call hpending
      obtain ⟨row', hrow', hslot', hholder'⟩ := exists_mem_finishRow hrow response
      exact ⟨row', hrow', hslot'.trans hslot, hholder'.trans hholder⟩
  | finishFails hphase =>
    refine h.goto ?_
    rintro _ ⟨⟩
    rw [hphase]
    rfl
  | abandons hpending =>
    exact h.of_rows rfl (h.settlements hpending)
      (fun row hrow hholder _ => ⟨row, h.abandon hpending hrow hholder, rfl, rfl⟩) (by rintro _ ⟨⟩)

theorem Owned.of_run (h : IdempotencyRun Timely s) : Owned s := by
  induction h with
  | refl => exact ⟨fun _ _ h => (nomatch h), fun _ he => (List.not_mem_nil he).elim⟩
  | tail _ hstep ih => exact ih.step hstep

end Ownership

/-! ### A reservation that expires -/

section Samples

variable {allowed : IdempotencyState ι → ι → Prop} {s : IdempotencyState ι} {i : ι}

theorem IdempotencyRun.finish (h : IdempotencyRun allowed s) (response : IdempotencyReplay)
    (hphase : s.phase i = .reserved call) (haffected : affectedRows s.rows call = 1) :
    IdempotencyRun allowed ({ s with
      rows := finishRow s.rows call response
      settled := s.settled ++ s.settlements i call (some response) }.goto i
        (.ended call (.ok .reserved))) :=
  h.tail (.finishes response hphase (.inl ⟨by rw [haffected]; rfl, rfl⟩))

variable (h : IdempotencyRun allowed s) (call) (hidle : s.phase i = .idle)
  (hvalid : call.validate = .ok ()) (hallowed : allowed (s.goto i (.deleting call)) i)

include h hidle hvalid hallowed

theorem IdempotencyRun.delete :
    IdempotencyRun allowed
      ({ s with rows := deleteExpired s.rows call }.goto i (.inserting call)) := by
  have hbegun := h.tail (.begins call hidle hvalid)
  have hdeleted := hbegun.tail (.deletes (s.phase_goto_self i _) hallowed (.inl rfl))
  rwa [IdempotencyState.goto_goto] at hdeleted

theorem IdempotencyRun.reserve {rows : IdempotencyTable ι}
    (hrows : (deleteExpired s.rows call).insertNew (call.row i) = some rows) :
    IdempotencyRun allowed ({ s with rows := rows }.goto i (.reserved call)) := by
  have hdeleted := h.delete call hidle hvalid hallowed
  have hinserted := hdeleted.tail
    (.inserts (IdempotencyState.phase_goto_self _ i _) hrows (.inl rfl))
  rwa [IdempotencyState.goto_goto] at hinserted

theorem IdempotencyRun.read (hrows : (deleteExpired s.rows call).insertNew (call.row i) = none) :
    IdempotencyRun allowed ({ s with rows := deleteExpired s.rows call }.goto i
      (.ended call (readIdempotency (deleteExpired s.rows call) call))) := by
  have hdeleted := h.delete call hidle hvalid hallowed
  have hfound := hdeleted.tail (.finds (IdempotencyState.phase_goto_self _ i _) hrows)
  have hread := hfound.tail (.reads (IdempotencyState.phase_goto_self _ i _))
  simpa [IdempotencyRun, IdempotencyState.goto] using hread

end Samples

end Steps

def sampleSlot : IdempotencySlot := ⟨"user:create-workspace", "key"⟩

def sampleCall (now : ℤ) : BeginCall := ⟨sampleSlot, "hash", now, now + 10⟩

def sampleReplay : IdempotencyReplay := ⟨201, "created"⟩

/-- The row of the caller is the only one. -/
def reservedRows (i : Bool) (now : ℤ) : IdempotencyTable Bool :=
  ⟨[(sampleCall now).row i], List.nodup_singleton _⟩

/-- The first caller has a reservation. -/
def firstReserved : IdempotencyState Bool :=
  { IdempotencyState.initial Bool with rows := reservedRows false 0 }.goto false
    (.reserved (sampleCall 0))

/-- So has the second, after the first one's has expired. -/
def bothReserved : IdempotencyState Bool :=
  { firstReserved with rows := reservedRows true 10 }.goto true (.reserved (sampleCall 10))

theorem firstReserved_run (allowed : IdempotencyState Bool → Bool → Prop)
    (hallowed : allowed ((IdempotencyState.initial Bool).goto false (.deleting (sampleCall 0)))
      false) : IdempotencyRun allowed firstReserved :=
  IdempotencyRun.reserve (sampleCall 0) .refl rfl (by decide +kernel) hallowed rfl

/-- **Two callers are at work on one key, and the first one finishes the row of the second.** -/
theorem expired_reservation_shared : ∃ s s' : IdempotencyState Bool,
    IdempotencyRun (fun _ _ => True) s ∧ IdempotencyRun (fun _ _ => True) s' ∧
      (∃ slot, s.Holds false slot ∧ s.Holds true slot) ∧
      ∃ e ∈ s'.settled, e.caller = false ∧ e.holder = true ∧ e.response = some sampleReplay := by
  have hboth : IdempotencyRun (fun _ _ => True) bothReserved :=
    (firstReserved_run _ trivial).reserve (sampleCall 10) rfl (by decide +kernel) trivial rfl
  refine ⟨bothReserved, _, hboth, hboth.finish (i := false) sampleReplay rfl rfl,
    ⟨sampleSlot, ⟨sampleCall 0, rfl, rfl⟩, ⟨sampleCall 10, rfl, rfl⟩⟩, ?_⟩
  exact ⟨⟨false, true, sampleSlot, "hash", some sampleReplay⟩, by
    exact List.mem_singleton_self _, rfl, rfl, rfl⟩

section Exclusive

variable [DecidableEq ι]

/-- **One caller is at work on a key, what it settles is its own row, and what is replayed is what
the holder of a reservation with the same hash finished it with**, when no row of a caller at work
is removed as expired. -/
theorem reservation_exclusive (s : IdempotencyState ι) (h : IdempotencyRun Timely s) :
    (∀ i j slot, s.Holds i slot → s.Holds j slot → i = j) ∧
      (∀ e ∈ s.settled, e.caller = e.holder) ∧
      ∀ i call response, s.phase i = .ended call (.ok (.replay response)) →
        ∃ e ∈ s.settled, e.caller = e.holder ∧ e.slot = call.slot ∧
          e.requestHash = call.requestHash ∧ e.response = some response := by
  have howned : Owned s := .of_run h
  refine ⟨?_, howned.settled, fun i call response hphase => ?_⟩
  · rintro i j slot ⟨call, hi, rfl⟩ ⟨call', hj, hslot⟩
    obtain ⟨row, hrow, hrowSlot, rfl⟩ := howned.held i call hi
    exact howned.holder_eq hj hrow (hrowSlot.trans hslot.symm)
  · obtain ⟨e, he, hslot, hhash, hresponse⟩ :=
      (FinishesRecorded.of_run h).replayed i call response hphase
    exact ⟨e, he, howned.settled e he, hslot, hhash, hresponse⟩


end Exclusive

/-- A reservation that is finished, and replayed to the second caller. -/
theorem reservation_exclusive_sample : ∃ s : IdempotencyState Bool, IdempotencyRun Timely s ∧
    s.phase true = .ended (sampleCall 5) (.ok (.replay sampleReplay)) ∧
      ∃ e ∈ s.settled, e.caller = e.holder ∧ e.slot = sampleSlot ∧ e.requestHash = "hash" ∧
        e.response = some sampleReplay := by
  have hfirst : IdempotencyRun Timely firstReserved :=
    firstReserved_run Timely fun _ _ row hrow => (List.not_mem_nil hrow).elim
  have hfinished := hfirst.finish (i := false) sampleReplay rfl rfl
  have hread := hfinished.read (i := true) (sampleCall 5) rfl (by decide +kernel)
    (by
      rintro _ ⟨⟩ row hrow - hexpired
      obtain rfl := List.mem_singleton.1 hrow
      cases hexpired) rfl
  exact ⟨_, hread, rfl, (reservation_exclusive _ hread).2.2 true (sampleCall 5) sampleReplay rfl⟩

end WorkspaceControl
