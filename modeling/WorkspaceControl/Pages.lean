/-
**Pages of a table.**

A reader who follows a table asks for the rows whose key lies beyond the last one it has seen, in
the order of the keys and no more than so many of them at a time.

Main definitions:

* `Table.beyond` — the rows of a query that lie beyond a key, in order;
* `Table.page` — the first of them;
* `Table.Follows`, `Table.Closed` — rows that were read page by page, without a gap.

Main results:

* `Table.Follows.append_page`, `Table.Closed.append_page` — the next page is read;
* `Table.Closed.beyond_eq_append` — the rows that were read, and those beyond the last of them, are
  all rows of the query.
-/
import Mathlib.Data.List.Sort
import WorkspaceControl.Table

set_option autoImplicit false

namespace Relational

namespace Table

variable {ρ κ : Type} [LinearOrder κ] {key : ρ → κ} {t : Table key} {p : ρ → Bool}
  {after : Option κ} {limit : ℕ}

/-- `SELECT ... WHERE p AND key > after ORDER BY key`. -/
def beyond (t : Table key) (p : ρ → Bool) (after : Option κ) : List ρ :=
  (t.rows.filter fun r => p r && after.all (· < key r)).insertionSort fun a b => key a ≤ key b

/-- `SELECT ... WHERE p AND key > after ORDER BY key LIMIT limit`. -/
def page (t : Table key) (p : ρ → Bool) (after : Option κ) (limit : ℕ) : List ρ :=
  (t.beyond p after).take limit

variable {r : ρ}

theorem mem_beyond : r ∈ t.beyond p after ↔
    (r ∈ t.rows ∧ p r = true) ∧ ∀ k ∈ after, k < key r := by
  simp [beyond, Option.all_eq_true, and_assoc]

/-- The order is strict, since the keys differ. -/
theorem pairwise_beyond (t : Table key) (p : ρ → Bool) (after : Option κ) :
    (t.beyond p after).Pairwise fun a b => key a < key b := by
  have : Std.Total fun a b : ρ => key a ≤ key b := ⟨fun a b => le_total (key a) (key b)⟩
  have : IsTrans ρ fun a b => key a ≤ key b := ⟨fun _ _ _ => le_trans⟩
  have hsorted : (t.beyond p after).Pairwise fun a b => key a ≤ key b :=
    List.pairwise_insertionSort _ _
  have hkeys : ((t.beyond p after).map key).Nodup := by
    refine ((List.perm_insertionSort _ _).map key).nodup_iff.2 ?_
    exact t.nodup.sublist (List.filter_sublist.map key)
  exact (hsorted.and (List.pairwise_map.1 hkeys)).imp fun h => lt_of_le_of_ne h.1 h.2

theorem mem_beyond_of_mem_page (h : r ∈ t.page p after limit) : r ∈ t.beyond p after :=
  List.mem_of_mem_take h

theorem pairwise_page (t : Table key) (p : ρ → Bool) (after : Option κ) (limit : ℕ) :
    (t.page p after limit).Pairwise fun a b => key a < key b :=
  (t.pairwise_beyond p after).take

/-- A page leaves no row out below one of its own. -/
theorem mem_page_of_le {r r' : ρ} (hr : r ∈ t.beyond p after) (hr' : r' ∈ t.page p after limit)
    (hle : key r ≤ key r') : r ∈ t.page p after limit := by
  have hsplit := List.take_append_drop limit (t.beyond p after)
  rw [← hsplit, List.mem_append] at hr
  refine hr.resolve_right fun hdrop => ?_
  have hpairwise := t.pairwise_beyond p after
  rw [← hsplit, List.pairwise_append] at hpairwise
  exact absurd hle (not_le.2 (hpairwise.2.2 r' hr' r hdrop))

/-- A page that is large enough has all rows. -/
theorem page_eq_beyond (h : (t.beyond p after).length ≤ limit) :
    t.page p after limit = t.beyond p after :=
  List.take_of_length_le h

/-- A page that is too small leaves a row out. -/
theorem exists_mem_beyond_of_lt (h : limit < (t.beyond p after).length) :
    ∃ r ∈ t.beyond p after, ∀ x ∈ t.page p after limit, key x < key r := by
  obtain ⟨r, hr⟩ : ∃ r, r ∈ (t.beyond p after).drop limit :=
    List.exists_mem_of_length_pos (by rw [List.length_drop]; omega)
  have hpairwise := t.pairwise_beyond p after
  rw [← List.take_append_drop limit (t.beyond p after), List.pairwise_append] at hpairwise
  exact ⟨r, List.mem_of_mem_drop hr, fun x hx => hpairwise.2.2 x hx r hr⟩

/-! ### Reading page by page -/

/-- The key of the last row that was read, or the one before the first. -/
def lastKey (key : ρ → κ) (start : Option κ) (read : List ρ) : Option κ :=
  (read.getLast?.map key).or start

omit [LinearOrder κ] in
@[simp] theorem lastKey_nil (start : Option κ) : lastKey key start [] = start := rfl

omit [LinearOrder κ] in
@[simp] theorem lastKey_concat (start : Option κ) (read : List ρ) (r : ρ) :
    lastKey key start (read ++ [r]) = some (key r) := by
  simp [lastKey]

/-- The rows were read from `start` on: they are in order, and are rows of the query. -/
structure Follows (t : Table key) (p : ρ → Bool) (start : Option κ) (read : List ρ) : Prop where
  pairwise : read.Pairwise fun a b => key a < key b
  sound : ∀ r ∈ read, r ∈ t.beyond p start

/-- No row below one that was read is missing. -/
def Closed (t : Table key) (p : ρ → Bool) (start : Option κ) (read : List ρ) : Prop :=
  ∀ r ∈ t.beyond p start, ∀ r' ∈ read, key r ≤ key r' → r ∈ read

variable {start : Option κ} {read : List ρ} {t' : Table key}

theorem follows_nil : t.Follows p start [] :=
  ⟨.nil, fun _ hr => absurd hr List.not_mem_nil⟩

theorem closed_nil : t.Closed p start [] := fun _ _ _ hr => absurd hr List.not_mem_nil

/-- What lies beyond the last row lies beyond every row, and beyond the start. -/
theorem Follows.lt_of_lastKey (h : t.Follows p start read)
    (hr : ∀ k ∈ lastKey key start read, k < key r) :
    (∀ x ∈ read, key x < key r) ∧ ∀ k ∈ start, k < key r := by
  rcases List.eq_nil_or_concat' read with rfl | ⟨init, last, rfl⟩
  · exact ⟨fun _ hx => absurd hx List.not_mem_nil, hr⟩
  · have hlast : key last < key r := hr _ (by simp)
    refine ⟨fun x hx => ?_, fun k hk => ?_⟩
    · rcases List.mem_append.1 hx with hx | hx
      · exact lt_trans ((List.pairwise_append.1 h.pairwise).2.2 x hx last List.mem_cons_self) hlast
      · rwa [List.mem_singleton.1 hx]
    · exact lt_trans ((mem_beyond.1 (h.sound last (by simp))).2 k hk) hlast

/-- Conversely, what lies beyond all rows and beyond the start lies beyond the last row. -/
theorem lt_of_mem_lastKey (hread : ∀ x ∈ read, key x < key r) (hstart : ∀ k ∈ start, k < key r) :
    ∀ k ∈ lastKey key start read, k < key r := by
  rcases List.eq_nil_or_concat' read with rfl | ⟨init, last, rfl⟩
  · exact hstart
  · intro k hk
    rw [lastKey_concat, Option.mem_some_iff] at hk
    exact hk ▸ hread last (by simp)

/-- The rows beyond the last one are also beyond the start. -/
theorem Follows.mem_beyond_start (h : t.Follows p start read)
    (hr : r ∈ t.beyond p (lastKey key start read)) : r ∈ t.beyond p start :=
  mem_beyond.2 ⟨(mem_beyond.1 hr).1, (h.lt_of_lastKey (mem_beyond.1 hr).2).2⟩

theorem Follows.append_page (h : t.Follows p start read) (limit : ℕ) :
    t.Follows p start (read ++ t.page p (lastKey key start read) limit) := by
  refine ⟨List.pairwise_append.2 ⟨h.pairwise, t.pairwise_page _ _ _, fun x hx r hr => ?_⟩,
    fun r hr => ?_⟩
  · exact (h.lt_of_lastKey (mem_beyond.1 (mem_beyond_of_mem_page hr)).2).1 x hx
  · rcases List.mem_append.1 hr with hr | hr
    · exact h.sound r hr
    · exact h.mem_beyond_start (mem_beyond_of_mem_page hr)

/-- A row is read already, or lies beyond the last one that was. -/
theorem Closed.mem_or_beyond (h : t.Closed p start read) (hr : r ∈ t.beyond p start) :
    r ∈ read ∨ r ∈ t.beyond p (lastKey key start read) := by
  rcases List.eq_nil_or_concat' read with rfl | ⟨init, last, rfl⟩
  · exact .inr hr
  · rcases le_or_gt (key r) (key last) with hle | hlt
    · exact .inl (h r hr last (by simp) hle)
    · refine .inr (mem_beyond.2 ⟨(mem_beyond.1 hr).1, fun k hk => ?_⟩)
      rw [lastKey_concat, Option.mem_some_iff] at hk
      exact hk ▸ hlt

theorem Closed.append_page (h : t.Closed p start read) (hread : t.Follows p start read)
    (limit : ℕ) : t.Closed p start (read ++ t.page p (lastKey key start read) limit) := by
  intro r hr r' hr' hle
  rw [List.mem_append] at hr' ⊢
  rcases h.mem_or_beyond hr with hmem | hbeyond
  · exact .inl hmem
  · rcases hr' with hr' | hr'
    · exact absurd hle (not_le.2 ((hread.lt_of_lastKey (mem_beyond.1 hbeyond).2).1 r' hr'))
    · exact .inr (mem_page_of_le hbeyond hr' hle)

theorem Follows.mono (h : t.Follows p start read) (hrows : t.rows ⊆ t'.rows) :
    t'.Follows p start read :=
  ⟨h.pairwise, fun r hr => by
    have hr := mem_beyond.1 (h.sound r hr)
    exact mem_beyond.2 ⟨⟨hrows hr.1.1, hr.1.2⟩, hr.2⟩⟩

/-- New rows leave no gap when they lie beyond what was read. -/
theorem Closed.grow (h : t.Closed p start read)
    (hrows : ∀ r ∈ t'.rows, r ∈ t.rows ∨ (p r = true → ∀ x ∈ read, key x < key r)) :
    t'.Closed p start read := by
  intro r hr x hx hle
  obtain ⟨⟨hmem, hp⟩, hstart⟩ := mem_beyond.1 hr
  rcases hrows r hmem with hold | hnew
  · exact h r (mem_beyond.2 ⟨⟨hold, hp⟩, hstart⟩) x hx hle
  · exact absurd hle (not_le.2 (hnew hp x hx))

/-- **What was read and what lies beyond it are all rows of the query**, in order. -/
theorem Closed.beyond_eq_append (h : t.Closed p start read) (hread : t.Follows p start read) :
    t.beyond p start = read ++ t.beyond p (lastKey key start read) := by
  have : Std.Irrefl fun a b : ρ => key a < key b := ⟨fun a => lt_irrefl (key a)⟩
  have : Std.Antisymm fun a b : ρ => key a < key b := ⟨fun _ _ h h' => absurd h (lt_asymm h')⟩
  refine (t.pairwise_beyond p start).eq_of_mem_iff (List.pairwise_append.2
    ⟨hread.pairwise, t.pairwise_beyond _ _, fun x hx r hr => ?_⟩) fun r => ?_
  · exact (hread.lt_of_lastKey (mem_beyond.1 hr).2).1 x hx
  · rw [List.mem_append]
    exact ⟨h.mem_or_beyond, fun hr => hr.elim (hread.sound r) hread.mem_beyond_start⟩

end Table

end Relational
