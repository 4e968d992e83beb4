/-
**Rows with versions.**

A row that is inserted has a version, and every update raises it.  A statement that is guarded by
the version that its caller has read (`compareAndSet`, `compareAndDelete`) takes effect on a row
with that version only.  As long as a row is not deleted, a version stands for the whole row: a
guarded statement then finds the row as its caller has read it.  A row that is deleted and inserted
again starts over, and may have a version that was read before.

Main definitions:

* `Table.compareAndSet`, `Table.compareAndDelete` — guarded statements;
* `Advances` — what is under a key changes only with a higher version.

Main results:

* `Table.find_of_compareAndSet`, `Table.find_of_compareAndDelete` — what such a statement finds;
* `Advances.of_run` — **along a run in which a row is not deleted, it is the same row or has a
  higher version**.
-/
import Mathlib.Logic.Relation
import WorkspaceControl.Table

set_option autoImplicit false

namespace Relational

/-- What is there afterwards is what was there, or has a higher version. -/
def Advances {ρ : Type} (version : ρ → ℤ) (before after : Option ρ) : Prop :=
  ∀ r r', before = some r → after = some r' → r' = r ∨ version r < version r'

namespace Advances

variable {ρ τ σ : Type} {version : ρ → ℤ}

theorem refl (o : Option ρ) : Advances version o o := by
  rintro r r' rfl h
  exact .inl (Option.some.inj h).symm

theorem map {o o' : Option ρ} (h : Advances version o o') {f : ρ → τ} {version' : τ → ℤ}
    (hf : ∀ r, version' (f r) = version r) : Advances version' (o.map f) (o'.map f) := by
  intro x x' hx hx'
  obtain ⟨r, hr, rfl⟩ := Option.map_eq_some_iff.1 hx
  obtain ⟨r', hr', rfl⟩ := Option.map_eq_some_iff.1 hx'
  rw [hf, hf]
  exact (h r r' hr hr').imp_left (congrArg f)

/-- **A row that is not deleted along a run is the same one, or has a higher version.** -/
theorem of_run {step : σ → σ → Prop} {row : σ → Option ρ}
    (hstep : ∀ s s', step s s' → Advances version (row s) (row s') ∧ (row s' = none → row s = none))
    {s₀ s : σ} (hrun : Relation.ReflTransGen step s₀ s) {r : ρ} (hread : row s₀ = some r) :
    ∃ r', row s = some r' ∧ (r' = r ∨ version r < version r') := by
  induction hrun with
  | refl => exact ⟨r, hread, .inl rfl⟩
  | @tail s s' _ hlast ih =>
    obtain ⟨r₁, hr₁, hcases⟩ := ih
    obtain ⟨hadvances, hkept⟩ := hstep s s' hlast
    cases hr' : row s' with
    | none => rw [hkept hr'] at hr₁; cases hr₁
    | some r' =>
      refine ⟨r', rfl, ?_⟩
      rcases hadvances r₁ r' hr₁ hr' with rfl | hlt
      · exact hcases
      · rcases hcases with rfl | hlt'
        · exact .inr hlt
        · exact .inr (hlt'.trans hlt)

end Advances

namespace Table

variable {ρ κ : Type} [DecidableEq κ] {key : ρ → κ} {t t' : Table key} {version : ρ → ℤ} {k : κ}
  {expected : ℤ}

/-- `WHERE key = k AND version = expected`. -/
def guarded (key : ρ → κ) (version : ρ → ℤ) (k : κ) (expected : ℤ) (r : ρ) : Bool :=
  key r = k && version r = expected

/-- A guarded update, which fails unless it affects one row. -/
def compareAndSet (t : Table key) (version : ρ → ℤ) (k : κ) (expected : ℤ) (f : ρ → ρ)
    (hf : ∀ r, key (f r) = key r) : Option (Table key) :=
  if (t.rows.filter (guarded key version k expected)).length = 1 then
    some (t.update (guarded key version k expected) f hf)
  else none

/-- A guarded deletion, which fails unless it affects one row. -/
def compareAndDelete (t : Table key) (version : ρ → ℤ) (k : κ) (expected : ℤ) :
    Option (Table key) :=
  if (t.rows.filter (guarded key version k expected)).length = 1 then
    some (t.delete (guarded key version k expected))
  else none

/-- A guarded statement that affects a row finds the version under the key. -/
theorem find_of_guarded (h : (t.rows.filter (guarded key version k expected)).length = 1) :
    ∃ r, t.find k = some r ∧ version r = expected := by
  have hpos : 0 < (t.rows.filter (guarded key version k expected)).length := by
    rw [h]
    exact Nat.one_pos
  obtain ⟨r, hr⟩ := List.exists_mem_of_length_pos hpos
  obtain ⟨hmem, hguarded⟩ := List.mem_filter.1 hr
  simp only [guarded, Bool.and_eq_true, decide_eq_true_eq] at hguarded
  exact ⟨r, find_eq_some.2 ⟨hmem, hguarded.1⟩, hguarded.2⟩

variable {f : ρ → ρ} {p : ρ → Bool}

variable {hf : ∀ r, key (f r) = key r}

theorem find_of_compareAndSet (h : t.compareAndSet version k expected f hf = some t') :
    (∃ r, t.find k = some r ∧ version r = expected) ∧
      t' = t.update (guarded key version k expected) f hf := by
  unfold compareAndSet at h
  split at h
  · rename_i hone
    exact ⟨find_of_guarded hone, (Option.some.inj h).symm⟩
  · cases h

theorem find_of_compareAndDelete (h : t.compareAndDelete version k expected = some t') :
    (∃ r, t.find k = some r ∧ version r = expected) ∧
      t' = t.delete (guarded key version k expected) := by
  unfold compareAndDelete at h
  split at h
  · rename_i hone
    exact ⟨find_of_guarded hone, (Option.some.inj h).symm⟩
  · cases h

theorem advances_update (hversion : ∀ r, version r < version (f r)) (k : κ) :
    Advances version (t.find k) ((t.update p f hf).find k) := by
  intro r r' hr hr'
  rw [find_update, hr, Option.map_some, Option.some.injEq] at hr'
  subst hr'
  unfold change
  split
  · exact .inr (hversion r)
  · exact .inl rfl

theorem advances_delete (k : κ) :
    Advances version (t.find k) ((t.delete p).find k) := by
  intro r r' hr hr'
  rw [find_delete, hr] at hr'
  exact .inl (Option.some.inj (Option.filter_eq_some_iff.1 hr').1).symm

theorem advances_insertNew {new : ρ} (h : t.insertNew new = some t') (k : κ) :
    Advances version (t.find k) (t'.find k) := by
  intro r r' hr hr'
  obtain ⟨hmem, hkey⟩ := find_eq_some.1 hr
  have hmem' : r ∈ t'.rows := by
    rw [(rows_of_insertNew h).2]
    exact List.mem_append_left _ hmem
  rw [find_eq_some.2 ⟨hmem', hkey⟩] at hr'
  exact .inl (Option.some.inj hr').symm

theorem advances_of_compareAndSet (h : t.compareAndSet version k expected f hf = some t')
    (hversion : ∀ r, version r < version (f r)) (k' : κ) :
    Advances version (t.find k') (t'.find k') := by
  rw [(find_of_compareAndSet h).2]
  exact advances_update hversion k'

theorem advances_of_compareAndDelete (h : t.compareAndDelete version k expected = some t')
    (k' : κ) : Advances version (t.find k') (t'.find k') := by
  rw [(find_of_compareAndDelete h).2]
  exact advances_delete k'

end Table

end Relational
