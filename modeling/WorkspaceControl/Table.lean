/-
**Tables with a primary key.**

A table is a finite list of rows no two of which have the same key.  The key condition is part of
the type, so that every operation carries the proof that it keeps the key unique, and no invariant
of a database has to say it again.  Rows stay in the order in which they were inserted.

Main definitions:

* `Table` — the rows, with the proof that their keys differ;
* `Table.find`, `Table.update`, `Table.insert`, `Table.insertNew`, `Table.put`, `Table.delete` — the
  statements `SELECT`, `UPDATE`, `INSERT` (with a conflict clause or without) and `DELETE`;
* `Table.latest` — `ORDER BY ... DESC LIMIT 1`.

Main results:

* `Table.eq_of_key`, `Table.find_eq_some` — a key selects at most one row;
* `Table.find_update`, `Table.find_insert`, `Table.find_delete` — what a statement leaves under
  a key;
* `Table.mem_latest` — the selected row is a maximal one.
-/
import Mathlib.Data.List.MinMax
import Mathlib.Data.List.Nodup

set_option autoImplicit false

namespace Relational

/-- A table of rows of type `ρ` whose `key` is unique. -/
structure Table {ρ κ : Type} (key : ρ → κ) where
  rows : List ρ
  nodup : (rows.map key).Nodup

namespace Table

variable {ρ κ : Type} {key : ρ → κ}

/-- The table without rows. -/
def empty (key : ρ → κ) : Table key := ⟨[], List.nodup_nil⟩

@[simp] theorem rows_empty : (empty key).rows = [] := rfl

/-- A key selects at most one row. -/
theorem eq_of_key (t : Table key) {r r' : ρ} (hr : r ∈ t.rows) (hr' : r' ∈ t.rows)
    (hkey : key r = key r') : r = r' :=
  List.inj_on_of_nodup_map t.nodup hr hr' hkey

/-! ### Updates -/

/-- The effect of an update on one row. -/
def change (p : ρ → Bool) (f : ρ → ρ) (r : ρ) : ρ := if p r then f r else r

variable {f : ρ → ρ} {p q : ρ → Bool} {r : ρ} {t : Table key}

@[simp] theorem change_of_pos (h : p r = true) :
    change p f r = f r := by simp [change, h]

@[simp] theorem change_of_neg (h : p r = false) :
    change p f r = r := by simp [change, h]

/-- A projection that the update does not write. -/
theorem apply_change {τ : Type} (g : ρ → τ) (hg : ∀ r, p r = true → g (f r) = g r) (r : ρ) :
    g (change p f r) = g r := by
  cases h : p r with
  | true => rw [change_of_pos h, hg r h]
  | false => rw [change_of_neg h]

/-- `UPDATE ... SET f WHERE p`; the key is not written. -/
def update (t : Table key) (p : ρ → Bool) (f : ρ → ρ) (hf : ∀ r, key (f r) = key r) :
    Table key where
  rows := t.rows.map (change p f)
  nodup := by
    rw [List.map_map, show key ∘ change p f = key from funext (apply_change key fun r _ => hf r)]
    exact t.nodup

section Update

variable {t : Table key} {p : ρ → Bool} {f : ρ → ρ} {hf : ∀ r, key (f r) = key r}

@[simp] theorem rows_update : (t.update p f hf).rows = t.rows.map (change p f) := rfl

theorem mem_update {x : ρ} :
    x ∈ (t.update p f hf).rows ↔ ∃ r ∈ t.rows, change p f r = x := List.mem_map

/-- A row of the updated table is an old row that was not selected, or a changed one. -/
theorem mem_update_cases {x : ρ} (h : x ∈ (t.update p f hf).rows) :
    (x ∈ t.rows ∧ p x = false) ∨ ∃ r ∈ t.rows, p r = true ∧ x = f r := by
  obtain ⟨r, hr, rfl⟩ := mem_update.1 h
  cases hp : p r with
  | true => exact .inr ⟨r, hr, hp, change_of_pos hp⟩
  | false =>
    rw [change_of_neg hp]
    exact .inl ⟨hr, hp⟩

theorem mem_update_of_not {x : ρ} (hx : x ∈ t.rows) (hp : p x = false) :
    x ∈ (t.update p f hf).rows := mem_update.2 ⟨x, hx, change_of_neg hp⟩

theorem mem_update_of_pos {x : ρ} (hx : x ∈ t.rows) (hp : p x = true) :
    f x ∈ (t.update p f hf).rows := mem_update.2 ⟨x, hx, change_of_pos hp⟩

/-- An update that selects no row changes nothing. -/
theorem update_eq_self (h : ∀ r ∈ t.rows, p r = false) : t.update p f hf = t := by
  have hrows : t.rows.map (change p f) = t.rows := by
    rw [List.map_congr_left fun r hr => change_of_neg (h r hr), List.map_id']
  cases t
  simp only [update, mk.injEq]
  exact hrows

/-- Only the rows of the table matter to the selection. -/
theorem update_congr {q : ρ → Bool} (h : ∀ r ∈ t.rows, p r = q r) :
    t.update p f hf = t.update q f hf := by
  simp only [update, mk.injEq]
  exact List.map_congr_left fun r hr => by simp only [change, h r hr]

/-- Columns that the update does not write. -/
theorem map_rows_update {τ : Type} (g : ρ → τ) (hg : ∀ r, p r = true → g (f r) = g r) :
    (t.update p f hf).rows.map g = t.rows.map g := by
  rw [rows_update, List.map_map]
  exact List.map_congr_left fun r _ => apply_change g hg r

end Update

/-! ### Insertion and deletion -/

/-- Insertion of a row whose key is new. -/
def insert (t : Table key) (r : ρ) (h : ∀ x ∈ t.rows, key x ≠ key r) : Table key where
  rows := t.rows ++ [r]
  nodup := by
    rw [List.map_append, List.map_singleton]
    refine t.nodup.append (List.nodup_singleton _) ?_
    intro k hk hk'
    obtain ⟨x, hx, rfl⟩ := List.mem_map.1 hk
    exact h x hx (List.mem_singleton.1 hk')

@[simp] theorem rows_insert {h : ∀ x ∈ t.rows, key x ≠ key r} :
    (t.insert r h).rows = t.rows ++ [r] := rfl

/-- `DELETE ... WHERE p`. -/
def delete (t : Table key) (p : ρ → Bool) : Table key where
  rows := t.rows.filter fun r => !p r
  nodup := (List.Sublist.map key List.filter_sublist).nodup t.nodup

theorem mem_delete {x : ρ} :
    x ∈ (t.delete p).rows ↔ x ∈ t.rows ∧ p x = false := by
  simp [delete]

/-! ### Queries that do not see a statement -/

/-- An update of rows that the query does not select, before and after. -/
theorem filter_rows_update {hf : ∀ r, key (f r) = key r}
    (h : ∀ r, q r = true → p r = false ∧ p (f r) = false) :
    (t.update q f hf).rows.filter p = t.rows.filter p := by
  rw [rows_update]
  induction t.rows with
  | nil => rfl
  | cons r rest ih =>
    rw [List.map_cons, List.filter_cons, List.filter_cons, ih]
    cases hq : q r with
    | true => simp only [change_of_pos hq, h r hq, Bool.false_eq_true, if_false]
    | false => rw [change_of_neg hq]

theorem filter_rows_delete (h : ∀ r, q r = true → p r = false) :
    (t.delete q).rows.filter p = t.rows.filter p := by
  rw [delete, List.filter_filter]
  refine List.filter_congr fun r _ => ?_
  cases hq : q r with
  | true => rw [h r hq, Bool.false_and]
  | false => rw [Bool.not_false, Bool.and_true]

section Find

variable [DecidableEq κ]

/-- `INSERT ... ON CONFLICT DO UPDATE SET f`. -/
def put (t : Table key) (r : ρ) (f : ρ → ρ) (hf : ∀ r, key (f r) = key r) : Table key :=
  if h : ∀ x ∈ t.rows, key x ≠ key r then t.insert r h
  else t.update (fun x => key x = key r) f hf

theorem mem_put_of_ne {t : Table key} {r x : ρ} {f : ρ → ρ} {hf : ∀ r, key (f r) = key r}
    (hx : x ∈ t.rows) (hkey : key x ≠ key r) : x ∈ (t.put r f hf).rows := by
  unfold put
  split
  · exact List.mem_append_left _ hx
  · exact mem_update_of_not hx (decide_eq_false hkey)

/-- A query that does not select the key. -/
theorem filter_rows_put {t : Table key} {r : ρ} {f : ρ → ρ} {hf : ∀ r, key (f r) = key r}
    {p : ρ → Bool} (h : ∀ x, key x = key r → p x = false) :
    (t.put r f hf).rows.filter p = t.rows.filter p := by
  unfold put
  split
  · rw [rows_insert, List.filter_append, List.filter_singleton, h r rfl]
    exact List.append_nil _
  · refine filter_rows_update fun x hx => ?_
    have hkey := of_decide_eq_true hx
    exact ⟨h x hkey, h (f x) ((hf x).trans hkey)⟩

/-- `INSERT`, which is refused on a key that is taken. -/
def insertNew (t : Table key) (r : ρ) : Option (Table key) :=
  if h : ∀ x ∈ t.rows, key x ≠ key r then some (t.insert r h) else none

theorem insertNew_of_new {t : Table key} {r : ρ} (h : ∀ x ∈ t.rows, key x ≠ key r) :
    t.insertNew r = some (t.insert r h) := dif_pos h

theorem rows_of_insertNew {t t' : Table key} {r : ρ} (h : t.insertNew r = some t') :
    (∀ x ∈ t.rows, key x ≠ key r) ∧ t'.rows = t.rows ++ [r] := by
  unfold insertNew at h
  split at h
  · rename_i hnew
    obtain rfl := Option.some_inj.1 h
    exact ⟨hnew, rfl⟩
  · cases h

/-- The row under a key. -/
def find (t : Table key) (k : κ) : Option ρ := t.rows.find? fun r => key r = k

theorem find_eq_some {t : Table key} {k : κ} {r : ρ} :
    t.find k = some r ↔ r ∈ t.rows ∧ key r = k := by
  constructor
  · intro h
    exact ⟨List.mem_of_find?_eq_some h, by simpa using List.find?_some h⟩
  · rintro ⟨hr, rfl⟩
    cases h : t.find (key r) with
    | none => simpa using List.find?_eq_none.1 h r hr
    | some r' =>
      have hkey : key r' = key r := by simpa using List.find?_some h
      rw [t.eq_of_key (List.mem_of_find?_eq_some h) hr hkey]

theorem find_eq_none {t : Table key} {k : κ} : t.find k = none ↔ ∀ r ∈ t.rows, key r ≠ k := by
  simp [find, List.find?_eq_none]

theorem find_key_of_mem {t : Table key} {r : ρ} (hr : r ∈ t.rows) : t.find (key r) = some r :=
  find_eq_some.2 ⟨hr, rfl⟩

theorem find_update {t : Table key} {p : ρ → Bool} {f : ρ → ρ} {hf : ∀ r, key (f r) = key r}
    (k : κ) : (t.update p f hf).find k = (t.find k).map (change p f) := by
  have hkey : ∀ r, key (change p f r) = key r := apply_change key fun r _ => hf r
  unfold find
  rw [rows_update, List.find?_map]
  simp only [Function.comp_def, hkey]

theorem find_insert {t : Table key} {r : ρ} {h : ∀ x ∈ t.rows, key x ≠ key r} (k : κ) :
    (t.insert r h).find k = if key r = k then some r else t.find k := by
  unfold find
  rw [rows_insert, List.find?_append]
  by_cases hk : key r = k
  · have hnone : t.rows.find? (fun x => decide (key x = k)) = none := by
      rw [List.find?_eq_none]
      intro x hx
      simpa [← hk] using h x hx
    simp [hk, hnone]
  · simp [hk]

theorem find_put {t : Table key} {r : ρ} {f : ρ → ρ} {hf : ∀ r, key (f r) = key r} (k : κ) :
    (t.put r f hf).find k =
      if key r = k then some ((t.find k).elim r f) else t.find k := by
  unfold put
  split
  · rename_i hnew
    rw [find_insert]
    split
    · rename_i hk
      rw [find_eq_none.2 fun x hx => hk ▸ hnew x hx]
      rfl
    · rfl
  · rename_i hold
    push Not at hold
    obtain ⟨x, hx, hkey⟩ := hold
    rw [find_update]
    split
    · rename_i hk
      rw [find_eq_some.2 ⟨hx, hkey.trans hk⟩]
      simp [change, hkey]
    · rename_i hk
      cases hfind : t.find k with
      | none => rfl
      | some y =>
        have hy : key y ≠ key r := fun h => hk (h.symm.trans (find_eq_some.1 hfind).2)
        simp [change, hy]

theorem find_delete {t : Table key} {p : ρ → Bool} (k : κ) :
    (t.delete p).find k = (t.find k).filter fun r => !p r := by
  cases h : t.find k with
  | none =>
    rw [find_eq_none] at h
    rw [Option.filter_none, find_eq_none]
    exact fun r hr => h r (mem_delete.1 hr).1
  | some r =>
    obtain ⟨hr, hk⟩ := find_eq_some.1 h
    cases hp : p r with
    | true =>
      simp only [Option.filter_some, hp, Bool.not_true, Bool.false_eq_true, if_false]
      rw [find_eq_none]
      intro x hx hxk
      obtain rfl := t.eq_of_key (mem_delete.1 hx).1 hr (hxk.trans hk.symm)
      exact absurd (mem_delete.1 hx).2 (by simp [hp])
    | false =>
      simp only [Option.filter_some, hp, Bool.not_false, if_true]
      exact find_eq_some.2 ⟨mem_delete.2 ⟨hr, hp⟩, hk⟩

end Find

/-! ### Writing one row at a time -/

section Write

variable [DecidableEq κ] {t : Table key} {f : ρ → ρ} {hf : ∀ r, key (f r) = key r}

/-- Writing the rows of a list of keys, one after the other. -/
def writeAll (t : Table key) (f : ρ → ρ) (hf : ∀ r, key (f r) = key r) (keys : List κ) :
    Table key :=
  keys.foldl (fun t k => t.update (fun r => key r = k) f hf) t

theorem writeAll_eq_update {keys : List κ} (hnodup : keys.Nodup) (t : Table key) :
    t.writeAll f hf keys = t.update (fun r => keys.contains (key r)) f hf := by
  induction keys generalizing t with
  | nil => exact (update_eq_self fun r _ => by simp).symm
  | cons k keys ih =>
    obtain ⟨hk, hnodup⟩ := List.nodup_cons.1 hnodup
    rw [writeAll, List.foldl_cons, ← writeAll, ih hnodup]
    simp only [update, mk.injEq, List.map_map]
    refine List.map_congr_left fun r _ => ?_
    -- a row is written for `k` or for a later key, never for both
    by_cases hr : key r = k
    · have hlater : key (f r) ∉ keys := by rwa [hf, hr]
      simp [change, hr, hlater]
    · simp [change, hr]

/-- An update is a sequence of writes to the rows it selects. -/
theorem update_eq_writeAll {p : ρ → Bool} (t : Table key) :
    t.update p f hf = t.writeAll f hf ((t.rows.filter p).map key) := by
  rw [writeAll_eq_update ((List.Sublist.map key List.filter_sublist).nodup t.nodup)]
  refine update_congr fun r hr => ?_
  rw [Bool.eq_iff_iff, List.contains_iff_mem, List.mem_map]
  constructor
  · intro hp
    exact ⟨r, List.mem_filter.2 ⟨hr, hp⟩, rfl⟩
  · rintro ⟨r', hr', hkey⟩
    obtain ⟨hmem, hp⟩ := List.mem_filter.1 hr'
    exact t.eq_of_key hmem hr hkey ▸ hp

end Write

/-! ### The last row in an order -/

section Latest

variable {τ : Type} [LinearOrder τ]

/-- `SELECT ... WHERE p ORDER BY rank DESC LIMIT 1`. -/
def latest (t : Table key) (p : ρ → Bool) (rank : ρ → τ) : Option ρ :=
  (t.rows.filter p).argmax rank

/-- `SELECT ... WHERE p ORDER BY rank LIMIT 1`. -/
def first (t : Table key) (p : ρ → Bool) (rank : ρ → τ) : Option ρ :=
  (t.rows.filter p).argmin rank

variable {rank : ρ → τ}

theorem mem_latest {t : Table key} {p : ρ → Bool} {r : ρ} (h : t.latest p rank = some r) :
    (r ∈ t.rows ∧ p r = true) ∧ ∀ x ∈ t.rows, p x = true → rank x ≤ rank r := by
  refine ⟨List.mem_filter.1 (List.argmax_mem h), fun x hx hp => ?_⟩
  exact List.le_of_mem_argmax (List.mem_filter.2 ⟨hx, hp⟩) h

theorem latest_eq_none {t : Table key} {p : ρ → Bool} :
    t.latest p rank = none ↔ ∀ r ∈ t.rows, p r = false := by
  simp [latest, List.argmax_eq_none, List.filter_eq_nil_iff]

theorem mem_first {t : Table key} {p : ρ → Bool} {r : ρ} (h : t.first p rank = some r) :
    r ∈ t.rows ∧ p r = true :=
  List.mem_filter.1 (List.argmin_mem h)

end Latest

/-! ### The row that was inserted last -/

section Last

variable {t : Table key} {p : ρ → Bool}

/-- Among the rows that satisfy `p`, the one that was inserted last. -/
def last (t : Table key) (p : ρ → Bool) : Option ρ := (t.rows.filter p).getLast?

theorem mem_last {r : ρ} (h : t.last p = some r) : r ∈ t.rows ∧ p r = true :=
  List.mem_filter.1 (List.mem_of_getLast? h)

theorem last_of_append {t' : Table key} {new : ρ} (h : t'.rows = t.rows ++ [new]) :
    t'.last p = if p new then some new else t.last p := by
  rw [last, h, List.filter_append]
  cases hp : p new <;> simp [last, hp]

/-- An update that does not change which rows satisfy `p`. -/
theorem last_update {m : ρ → Bool} {f : ρ → ρ} {hf : ∀ r, key (f r) = key r}
    (hp : ∀ r ∈ t.rows, m r = true → p (f r) = p r) :
    (t.update m f hf).last p = (t.last p).map (change m f) := by
  have hfilter : t.rows.filter (p ∘ change m f) = t.rows.filter p := by
    refine List.filter_congr fun r hr => ?_
    cases hm : m r with
    | true => rw [Function.comp_apply, change_of_pos hm, hp r hr hm]
    | false => rw [Function.comp_apply, change_of_neg hm]
  rw [last, rows_update, List.filter_map, hfilter, List.getLast?_map, last]

end Last

end Table

end Relational
