/-
**Interning a list.**

A list of values is written as a table of its distinct values and a list of positions in it.  New
values are appended to the table, so that a position never changes its meaning.  For texts, a list
of values comes from cutting the text after each occurrence of a pattern.

Main definitions: `Interning.pack`, `Interning.unpack`, `Interning.splitInclusive`.

Main results: `Interning.unpack_pack` — the positions give the list back;
`Interning.flatten_splitInclusive` — the pieces give the text back.
-/
import Mathlib.Data.Nat.Notation
import Mathlib.Data.List.Basic

set_option autoImplicit false

namespace Interning

variable {α : Type} [DecidableEq α]

/-- The position of a value in the table, which grows when the value is new. -/
def intern (table : List α) (a : α) : List α × ℕ :=
  match table.idxOf? a with
  | some i => (table, i)
  | none => (table ++ [a], table.length)

/-- The table after a list, and the positions of its values. -/
def pack (table : List α) : List α → List α × List ℕ
  | [] => (table, [])
  | a :: rest =>
    let first := intern table a
    let others := pack first.1 rest
    (others.1, first.2 :: others.2)

/-- The values at the positions; a position outside the table is an error. -/
def unpack (table : List α) (order : List ℕ) : Option (List α) :=
  order.mapM fun i => table[i]?

theorem intern_spec (table : List α) (a : α) :
    (∃ added, (intern table a).1 = table ++ added) ∧
      (intern table a).1[(intern table a).2]? = some a := by
  unfold intern
  cases h : table.idxOf? a with
  | some i =>
    refine ⟨⟨[], (List.append_nil _).symm⟩, ?_⟩
    obtain ⟨hlt, hget, -⟩ := List.idxOf?_eq_some_iff.1 h
    simp [hlt, hget]
  | none => exact ⟨⟨[a], rfl⟩, by simp⟩

theorem pack_grows (table : List α) (l : List α) : ∃ added, (pack table l).1 = table ++ added := by
  induction l generalizing table with
  | nil => exact ⟨[], (List.append_nil _).symm⟩
  | cons a rest ih =>
    obtain ⟨added, hadded⟩ := (intern_spec table a).1
    obtain ⟨more, hmore⟩ := ih (intern table a).1
    exact ⟨added ++ more, by rw [pack, hmore, hadded, List.append_assoc]⟩

theorem unpack_pack (table : List α) (l : List α) :
    unpack (pack table l).1 (pack table l).2 = some l := by
  induction l generalizing table with
  | nil => rfl
  | cons a rest ih =>
    obtain ⟨added, hadded⟩ := pack_grows (intern table a).1 rest
    have hfirst : (pack (intern table a).1 rest).1[(intern table a).2]? = some a := by
      have hget := (intern_spec table a).2
      obtain ⟨hlt, -⟩ := List.getElem?_eq_some_iff.1 hget
      rw [hadded, List.getElem?_append_left hlt, hget]
    have hrest := ih (intern table a).1
    rw [unpack] at hrest ⊢
    rw [pack, List.mapM_cons, hfirst, hrest]
    rfl

/-! ### Pieces of a text -/

/-- Cut a text after each occurrence of a pattern; `piece` is the current piece, reversed. -/
def splitAfter (pattern : List α) (piece : List α) : List α → List (List α)
  | [] => if piece.isEmpty then [] else [piece.reverse]
  | a :: rest =>
    if pattern.reverse.isPrefixOf (a :: piece) then
      (a :: piece).reverse :: splitAfter pattern [] rest
    else splitAfter pattern (a :: piece) rest

/-- `str::split_inclusive`. -/
def splitInclusive (pattern : List α) (l : List α) : List (List α) := splitAfter pattern [] l

theorem flatten_splitAfter (pattern piece l : List α) :
    (splitAfter pattern piece l).flatten = piece.reverse ++ l := by
  induction l generalizing piece with
  | nil =>
    unfold splitAfter
    split
    · rename_i hempty
      simp [List.isEmpty_iff.1 hempty]
    · simp
  | cons a rest ih =>
    unfold splitAfter
    split
    · simp [ih]
    · simp [ih]

theorem flatten_splitInclusive (pattern l : List α) : (splitInclusive pattern l).flatten = l := by
  rw [splitInclusive, flatten_splitAfter]
  rfl

end Interning
