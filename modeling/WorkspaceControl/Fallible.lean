/-
**Fallible computations.**

How to take an `Except` computation written with `do` apart: each of its checks and each of its
fallible steps becomes a fact about the arguments.

Main definitions: `ensure` (a check with its error), `okOr` (`Option::ok_or`) and `settle` (a
transaction, which keeps the old state when it fails).

Main results: `bind_eq_ok`, `ensure_eq_ok`, `okOr_eq_ok`, `mapError_eq_ok`, which together with
`pure_eq_ok` reduce the success of a computation to the success of its steps, and `bind_eq_error`
with its companions an error to the step it comes from;
`ensure_bind_eq_ok` and `okOr_bind_eq_ok`, for a check in front of the rest; `mapM_eq_ok`, for the
steps of a loop over a list; `settle_cases`.
-/
import Mathlib.Data.List.Forall2
import Mathlib.Logic.Basic

set_option autoImplicit false

namespace Fallible

variable {ε ε' α β : Type}

/-- Fail with `e` unless the check passes. -/
def ensure (check : Bool) (e : ε) : Except ε Unit := if check then .ok () else .error e

/-- `Option::ok_or`. -/
def okOr : Option α → ε → Except ε α
  | some a, _ => .ok a
  | none, e => .error e

variable {a : α} {b : β} {f : α → Except ε β} {l : List α} {l' : List β} {o : Option α} {u : Unit}
  {x : Except ε α} {σ : Type}

theorem bind_eq_ok :
    (x >>= f) = .ok b ↔ ∃ a, x = .ok a ∧ f a = .ok b := by
  cases x with
  | ok | error => simp [bind, Except.bind]

variable {check : Bool} {e e' : ε}

theorem bind_eq_error :
    (x >>= f) = .error e ↔ x = .error e ∨ ∃ a, x = .ok a ∧ f a = .error e := by
  cases x <;> simp [bind, Except.bind]

@[simp] theorem pure_ne_error : (pure a : Except ε α) ≠ .error e := nofun

@[simp] theorem pure_eq_ok {a b : α} : (pure a : Except ε α) = .ok b ↔ a = b := by
  simp [pure, Except.pure]

@[simp] theorem throw_ne_ok : (throw e : Except ε α) ≠ .ok a := by
  simp [throw, throwThe, MonadExceptOf.throw]

@[simp] theorem ensure_eq_ok :
    ensure check e = .ok u ↔ check = true := by
  cases check <;> simp [ensure]

@[simp] theorem okOr_eq_ok : okOr o e = .ok a ↔ o = some a := by
  cases o <;> simp [okOr]

@[simp] theorem ensure_eq_error :
    ensure check e = .error e' ↔ check = false ∧ e = e' := by
  cases check <;> simp [ensure]

@[simp] theorem okOr_eq_error : okOr o e = .error e' ↔ o = none ∧ e = e' := by
  cases o <;> simp [okOr]

@[simp] theorem mapError_eq_ok {f : ε → ε'} :
    x.mapError f = .ok a ↔ x = .ok a := by
  cases x <;> simp [Except.mapError]

theorem map_eq_ok {f : α → β} :
    x.map f = .ok b ↔ ∃ a, x = .ok a ∧ f a = b := by
  cases x <;> simp [Except.map]

theorem toOption_eq_some : x.toOption = some a ↔ x = .ok a := by
  cases x <;> simp [Except.toOption]

/-- A check followed by the rest of a computation. -/
theorem ensure_bind_eq_ok {f : Unit → Except ε β} :
    (ensure check e >>= f) = .ok b ↔ check = true ∧ f () = .ok b := by
  rw [bind_eq_ok]
  constructor
  · rintro ⟨⟨⟩, hcheck, hrest⟩
    exact ⟨ensure_eq_ok.1 hcheck, hrest⟩
  · rintro ⟨hcheck, hrest⟩
    exact ⟨(), ensure_eq_ok.2 hcheck, hrest⟩

/-- An optional value followed by the rest of a computation. -/
theorem okOr_bind_eq_ok :
    (okOr o e >>= f) = .ok b ↔ ∃ a, o = some a ∧ f a = .ok b := by
  rw [bind_eq_ok]
  simp only [okOr_eq_ok]

/-- A loop that maps a list succeeds when each of its steps does. -/
theorem mapM_eq_ok :
    l.mapM f = .ok l' ↔ List.Forall₂ (fun a b => f a = .ok b) l l' := by
  induction l generalizing l' with
  | nil =>
    rw [List.forall₂_nil_left_iff, List.mapM_nil, pure_eq_ok, eq_comm]
  | cons a l ih =>
    rw [List.mapM_cons, bind_eq_ok, List.forall₂_cons_left_iff]
    constructor
    · rintro ⟨b, hb, htail⟩
      obtain ⟨bs, hbs, hpure⟩ := bind_eq_ok.1 htail
      exact ⟨b, bs, hb, ih.1 hbs, (pure_eq_ok.1 hpure).symm⟩
    · rintro ⟨b, bs, hb, hbs, rfl⟩
      exact ⟨b, hb, bind_eq_ok.2 ⟨bs, ih.2 hbs, rfl⟩⟩

/-- What a loop returns comes from an element of the list. -/
theorem exists_of_mem_mapM (h : l.mapM f = .ok l') (hb : b ∈ l') : ∃ a ∈ l, f a = .ok b := by
  have hall := mapM_eq_ok.1 h
  induction hall with
  | nil => cases hb
  | cons hhead _ ih =>
    rcases List.mem_cons.1 hb with rfl | htail
    · exact ⟨_, List.mem_cons_self, hhead⟩
    · obtain ⟨a, ha, hf⟩ := ih (mapM_eq_ok.2 ‹_›) htail
      exact ⟨a, List.mem_cons_of_mem _ ha, hf⟩

/-- What a transaction answers and leaves: an error rolls it back. -/
def settle {σ : Type} (result : Except ε (α × σ)) (s : σ) : Except ε α × σ :=
  match result with
  | .ok (a, s') => (.ok a, s')
  | .error e => (.error e, s)

variable {result : Except ε (α × σ)} {s s' : σ}

theorem settle_cases {r : Except ε α} (h : settle result s = (r, s')) :
    (∃ a, r = .ok a ∧ result = .ok (a, s')) ∨ (∃ e, r = .error e ∧ result = .error e ∧ s' = s) := by
  cases result with
  | ok p =>
    obtain ⟨a, s₁⟩ := p
    simp only [settle, Prod.mk.injEq] at h
    exact .inl ⟨a, h.1.symm, by rw [h.2]⟩
  | error e =>
    simp only [settle, Prod.mk.injEq] at h
    exact .inr ⟨e, h.1.symm, rfl, h.2.symm⟩

theorem settle_eq_ok :
    settle result s = (.ok a, s') ↔ result = .ok (a, s') := by
  cases result <;> simp [settle, Prod.ext_iff]

theorem settle_eq_error :
    settle result s = (.error e, s') ↔ result = .error e ∧ s' = s := by
  cases result <;> simp [settle, eq_comm]

/-- A transaction without a result. -/
def settleUnit {σ : Type} (result : Except ε σ) (s : σ) : Except ε Unit × σ :=
  settle (result.map fun s' => ((), s')) s

theorem settleUnit_eq_ok {result : Except ε σ} :
    settleUnit result s = (.ok u, s') ↔ result = .ok s' := by
  cases result <;> simp [settleUnit, settle, Except.map]

theorem settleUnit_eq_error {result : Except ε σ} :
    settleUnit result s = (.error e, s') ↔ result = .error e ∧ s' = s := by
  cases result <;> simp [settleUnit, settle, Except.map, eq_comm]

end Fallible
