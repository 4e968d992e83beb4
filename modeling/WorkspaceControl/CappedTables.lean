/-
**Tables with caps that are checked by counting first.**

A request that adds a row deletes the rows that are out of date, counts the rows that share a group
with the new one, once for each cap, and inserts its row when every count was below its limit.  The
statements of different requests may come in any order, and rows may be removed at any time.  The
counts are then those of an earlier table: the caps are kept when no request begins to count while
another one stands between its first count and its insertion.

Main definitions:

* `Policy` — the caps of a table, and which rows are out of date;
* `State`, `Event`, `apply` — the table with its requests, and the statements;
* `Alone` — no other request has counted and not yet inserted.

Main results:

* `Guarded.step` — one statement keeps the caps, and the counts of a request that is alone;
* `within_of_run` — **the caps are kept in every run of requests that count alone**.
-/
import Mathlib.Data.Int.Notation
import Mathlib.Data.Fintype.Defs

set_option autoImplicit false

namespace Capped

/-- At most `limit` rows of each group. -/
structure Cap (α γ : Type) where
  group : α → γ
  limit : ℕ

/-- When a row is up to date, and the caps in the order in which they are counted. -/
structure Policy (α γ : Type) where
  live : ℤ → α → Bool
  caps : List (Cap α γ)

/-- Where a request stands: what it has counted for its row, and the caps that it still counts
for. -/
inductive Phase (α γ : Type)
  | idle
  | counting (row : α) (counted : List (Cap α γ × ℕ)) (pending : List (Cap α γ))
  | finished

structure State (ι α γ : Type) where
  rows : List α
  phase : ι → Phase α γ

def State.empty (ι α γ : Type) : State ι α γ := ⟨[], fun _ => .idle⟩

inductive Event (ι α : Type)
  /-- The request begins with the deletion of what is out of date. -/
  | expire (request : ι) (row : α) (now : ℤ)
  /-- It counts for the next cap. -/
  | count (request : ι)
  /-- It inserts its row. -/
  | insert (request : ι)
  /-- It is refused, or fails, or is cancelled. -/
  | stop (request : ι)
  /-- Rows are removed for another reason. -/
  | remove (keep : α → Bool)

variable {ι α γ : Type} [DecidableEq ι] [DecidableEq γ]

/-- The number of rows of one group. -/
def Cap.count (cap : Cap α γ) (rows : List α) (g : γ) : ℕ :=
  rows.countP fun row => cap.group row = g

def State.setPhase (s : State ι α γ) (request : ι) (phase : Phase α γ) : State ι α γ :=
  { s with phase := Function.update s.phase request phase }

def apply (policy : Policy α γ) (s : State ι α γ) : Event ι α → Option (State ι α γ)
  | .expire request row now =>
    match s.phase request with
    | .idle => some (State.setPhase { s with rows := s.rows.filter (policy.live now) } request
        (.counting row [] policy.caps))
    | _ => none
  | .count request =>
    match s.phase request with
    | .counting row counted (cap :: pending) =>
      some (s.setPhase request
        (.counting row (counted ++ [(cap, cap.count s.rows (cap.group row))]) pending))
    | _ => none
  | .insert request =>
    match s.phase request with
    | .counting row counted [] =>
      if counted.all fun (cap, count) => count < cap.limit then
        some (State.setPhase { s with rows := s.rows ++ [row] } request .finished)
      else none
    | _ => none
  | .stop request => some (s.setPhase request .finished)
  | .remove keep => some { s with rows := s.rows.filter keep }

/-- The states that allowed statements lead to. -/
inductive Run (policy : Policy α γ) (allowed : State ι α γ → Event ι α → Prop) :
    State ι α γ → State ι α γ → Prop
  | refl (s : State ι α γ) : Run policy allowed s s
  | tail {s t u : State ι α γ} (event : Event ι α) : Run policy allowed s t → allowed t event →
      apply policy t event = some u → Run policy allowed s u

/-- Some allowed statements, one after the other. -/
def applyAll (policy : Policy α γ) (allowed : State ι α γ → Event ι α → Prop)
    [∀ s event, Decidable (allowed s event)] :
    State ι α γ → List (Event ι α) → Option (State ι α γ)
  | s, [] => some s
  | s, event :: events =>
    if allowed s event then (apply policy s event).bind fun t => applyAll policy allowed t events
    else none

theorem Run.of_applyAll {policy : Policy α γ} {allowed : State ι α γ → Event ι α → Prop}
    [∀ s event, Decidable (allowed s event)] {events : List (Event ι α)} {s₀ s t : State ι α γ}
    (hrun : Run policy allowed s₀ s) (h : applyAll policy allowed s events = some t) :
    Run policy allowed s₀ t := by
  induction events generalizing s with
  | nil =>
    cases h
    exact hrun
  | cons event events ih =>
    rw [applyAll] at h
    split at h
    · rename_i hallowed
      obtain ⟨u, hstep, h⟩ := Option.bind_eq_some_iff.1 h
      exact ih (.tail event hrun hallowed hstep) h
    · cases h

/-- The request has counted, and neither inserted nor stopped. -/
def State.Counted (s : State ι α γ) (request : ι) : Prop :=
  ∃ row counted pending, s.phase request = .counting row counted pending ∧ counted ≠ []

/-- A request counts when no other one has counted. -/
def Alone (s : State ι α γ) : Event ι α → Prop
  | .count request => ∀ other, s.Counted other → other = request
  | _ => True

instance (s : State ι α γ) : DecidablePred s.Counted := fun request =>
  match h : s.phase request with
  | .counting row (count :: counted) pending => .isTrue ⟨row, count :: counted, pending, h, nofun⟩
  | .counting _ [] _ => .isFalse (by simp [State.Counted, h])
  | .idle | .finished => .isFalse (by simp [State.Counted, h])

instance [Fintype ι] (s : State ι α γ) : DecidablePred (Alone s)
  | .count request => inferInstanceAs (Decidable (∀ other, s.Counted other → other = request))
  | .expire .. | .insert _ | .stop _ | .remove _ => .isTrue trivial

/-! ### The caps -/

variable {policy : Policy α γ} {s t : State ι α γ} {rows : List α}

/-- Every group has at most as many rows as its cap says. -/
def Policy.Within (policy : Policy α γ) (rows : List α) : Prop :=
  ∀ cap ∈ policy.caps, ∀ g, cap.count rows g ≤ cap.limit

theorem Cap.count_filter_le (cap : Cap α γ) (keep : α → Bool) (rows : List α) (g : γ) :
    cap.count (rows.filter keep) g ≤ cap.count rows g :=
  List.filter_sublist.countP_le

theorem Policy.Within.filter (h : policy.Within rows) (keep : α → Bool) :
    policy.Within (rows.filter keep) := by
  intro cap hcap g
  exact Nat.le_trans (cap.count_filter_le keep rows g) (h cap hcap g)

/-- What a request has counted is not below what is there, and it counts for every cap. -/
structure Covers (policy : Policy α γ) (rows : List α) (row : α) (counted : List (Cap α γ × ℕ))
    (pending : List (Cap α γ)) : Prop where
  counts : ∀ p ∈ counted, p.1.count rows (p.1.group row) ≤ p.2
  caps : counted.map Prod.fst ++ pending = policy.caps

variable {row : α} {counted : List (Cap α γ × ℕ)} {pending : List (Cap α γ)} {cap : Cap α γ}

theorem Covers.filter (h : Covers policy rows row counted pending) (keep : α → Bool) :
    Covers policy (rows.filter keep) row counted pending where
  counts p hp := Nat.le_trans (p.1.count_filter_le keep rows _) (h.counts p hp)
  caps := h.caps

theorem Covers.count (h : Covers policy rows row counted (cap :: pending)) :
    Covers policy rows row (counted ++ [(cap, cap.count rows (cap.group row))]) pending where
  counts p hp := by
    rcases List.mem_append.1 hp with hp | hp
    · exact h.counts p hp
    · cases List.mem_singleton.1 hp
      exact Nat.le_refl _
  caps := by simpa using h.caps

/-- **A row that is admitted by counts that are not out of date keeps the caps.** -/
theorem Policy.Within.insert (h : policy.Within rows) (hcovers : Covers policy rows row counted [])
    (hadmits : ∀ p ∈ counted, p.2 < p.1.limit) : policy.Within (rows ++ [row]) := by
  intro cap hcap g
  have hold := h cap hcap g
  simp only [Cap.count, List.countP_append, List.countP_singleton] at hold ⊢
  by_cases hg : cap.group row = g
  · -- the group of the new row: its count was below the limit
    subst hg
    rw [← hcovers.caps, List.append_nil] at hcap
    obtain ⟨p, hp, rfl⟩ := List.mem_map.1 hcap
    have hcount := hcovers.counts p hp
    have hbelow := hadmits p hp
    simp only [Cap.count] at hcount
    simp only [decide_true, if_true]
    omega
  · simpa [hg] using hold

/-- The caps are kept, at most one request has counted, and no counts are out of date. -/
structure Guarded (policy : Policy α γ) (s : State ι α γ) : Prop where
  within : policy.Within s.rows
  unique : ∀ r r', s.Counted r → s.Counted r' → r = r'
  covers : ∀ r row counted pending, s.phase r = .counting row counted pending →
    Covers policy s.rows row counted pending

omit [DecidableEq γ] in
theorem phase_setPhase (s : State ι α γ) (request r : ι) (phase : Phase α γ) :
    (s.setPhase request phase).phase r = if r = request then phase else s.phase r := by
  simp [State.setPhase, Function.update_apply]

omit [DecidableEq γ] in
theorem counted_setPhase {request r : ι} {phase : Phase α γ}
    (h : (s.setPhase request phase).Counted r) :
    (r = request ∧ ∃ row counted pending, phase = .counting row counted pending ∧ counted ≠ []) ∨
      s.Counted r := by
  obtain ⟨row, counted, pending, hphase, hne⟩ := h
  rw [phase_setPhase] at hphase
  split at hphase
  · rename_i hr
    exact .inl ⟨hr, row, counted, pending, hphase, hne⟩
  · exact .inr ⟨row, counted, pending, hphase, hne⟩

omit [DecidableEq ι] in
/-- Removals keep everything, and counts may only become too high. -/
theorem Guarded.filter (h : Guarded policy s) (keep : α → Bool) :
    Guarded policy { s with rows := s.rows.filter keep } where
  within := h.within.filter keep
  unique := h.unique
  covers r row counted pending hphase := (h.covers r row counted pending hphase).filter keep

/-- A phase in which nothing is counted yet, or any more. -/
theorem Guarded.setPhase (h : Guarded policy s) (request : ι) {phase : Phase α γ}
    (hphase : phase = .finished ∨ ∃ row, phase = .counting row [] policy.caps) :
    Guarded policy (s.setPhase request phase) where
  within := h.within
  unique r r' hr hr' := by
    have hkept : ∀ {x}, (s.setPhase request phase).Counted x → s.Counted x := by
      intro x hx
      refine (counted_setPhase hx).resolve_left ?_
      rintro ⟨-, row, counted, pending, rfl, hne⟩
      rcases hphase with hphase | ⟨_, hphase⟩ <;> simp_all
    exact h.unique r r' (hkept hr) (hkept hr')
  covers r row counted pending hr := by
    rw [phase_setPhase] at hr
    split at hr
    · rcases hphase with rfl | ⟨_, rfl⟩
      · cases hr
      · cases hr
        exact ⟨by simp, by simp⟩
    · exact h.covers r row counted pending hr

/-- An insertion: no other request has counts that it could make too low. -/
theorem Guarded.insert {request : ι} (h : Guarded policy s)
    (hphase : s.phase request = .counting row counted [])
    (hadmits : ∀ p ∈ counted, p.2 < p.1.limit) :
    Guarded policy (State.setPhase { s with rows := s.rows ++ [row] } request .finished) := by
  have hcovers := h.covers request row counted [] hphase
  have hothers : ∀ r row' counted' pending', r ≠ request →
      s.phase r = .counting row' counted' pending' → counted' = [] := by
    intro r row' counted' pending' hr hother
    by_contra hne
    cases counted with
    | nil =>
      -- there are no caps at all
      have hcaps := (h.covers r row' counted' pending' hother).caps
      rw [← hcovers.caps] at hcaps
      simp_all
    | cons p counted =>
      exact hr (h.unique r request ⟨row', counted', pending', hother, hne⟩
        ⟨row, p :: counted, [], hphase, by simp⟩)
  refine ⟨h.within.insert hcovers hadmits, ?_, ?_⟩
  · intro r r' hr hr'
    have hkept := (h.setPhase request (.inl rfl)).unique r r'
    exact hkept hr hr'
  · intro r row' counted' pending' hr
    rw [phase_setPhase] at hr
    split at hr
    · cases hr
    · rename_i hne
      obtain rfl := hothers r row' counted' pending' hne hr
      exact ⟨by simp, (h.covers r row' [] pending' hr).caps⟩

/-- **One statement of requests that count alone.** -/
theorem Guarded.step {event : Event ι α} (h : Guarded policy s) (halone : Alone s event)
    (hstep : apply policy s event = some t) : Guarded policy t := by
  cases event with
  | expire request row now =>
    simp only [apply] at hstep
    split at hstep
    · cases hstep
      exact (h.filter _).setPhase request (.inr ⟨row, rfl⟩)
    · cases hstep
  | count request =>
    simp only [apply] at hstep
    split at hstep
    · rename_i row counted cap pending hphase
      cases hstep
      refine ⟨h.within, ?_, ?_⟩
      · -- whoever has counted now is this request
        have hself : ∀ {x}, (s.setPhase request (.counting row
            (counted ++ [(cap, cap.count s.rows (cap.group row))]) pending)).Counted x →
            x = request := by
          intro x hx
          rcases counted_setPhase hx with ⟨hx, -⟩ | hx
          · exact hx
          · exact halone x hx
        intro r r' hr hr'
        rw [hself hr, hself hr']
      · intro r row' counted' pending' hr
        rw [phase_setPhase] at hr
        split at hr
        · cases hr
          exact (h.covers request _ _ _ hphase).count
        · exact h.covers r row' counted' pending' hr
    · cases hstep
  | insert request =>
    simp only [apply] at hstep
    split at hstep
    · rename_i row counted hphase
      split at hstep
      · rename_i hadmits
        cases hstep
        exact h.insert hphase (by simpa using hadmits)
      · cases hstep
    · cases hstep
  | stop request =>
    cases hstep
    exact h.setPhase request (.inl rfl)
  | remove keep =>
    cases hstep
    exact h.filter keep

/-- **The caps are kept in every run of requests that count alone.** -/
theorem within_of_run (hrun : Run policy Alone (State.empty ι α γ) s) : policy.Within s.rows := by
  have hguarded : Guarded policy s := by
    induction hrun with
    | refl => exact ⟨fun _ _ _ => Nat.zero_le _, fun _ _ ⟨_, _, _, h, _⟩ => (nomatch h), nofun⟩
    | tail event _ halone hstep ih => exact ih.step halone hstep
  exact hguarded.within

end Capped
