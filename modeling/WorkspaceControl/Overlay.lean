/-
**Overlays of keyed values.**

An ordered map whose values know their own key, filled by writing lists of values over it: a value
replaces the one that was stored under its key.  This is how a cascade of settings is resolved,
from the least specific list to the most specific one.

Main definitions:

* `Overlay.write` — write a list of values over a map;
* `Overlay.values` — the values in the order of their keys;
* `Overlay.WellKeyed` — every value is stored under its own key.

Main results:

* `Overlay.getElem?_write_of_mem`, `Overlay.getElem?_write_of_notMem`,
  `Overlay.getElem?_write_eq_some` — what is stored under a key after a list without repeated keys
  was written;
* `Overlay.write_perm` — the order of such a list does not matter.
-/
import Mathlib.Data.List.Perm.Basic
import Mathlib.Data.List.Nodup
import Std.Data.ExtTreeMap

set_option autoImplicit false

namespace Overlay

open Std

variable {κ α : Type} [Ord κ] [TransOrd κ]

/-- Write the values in their order, each under its key. -/
def write (key : α → κ) (items : List α) (m : ExtTreeMap κ α) : ExtTreeMap κ α :=
  items.foldl (fun m a => m.insert (key a) a) m

variable {key : α → κ} {items : List α} {m : ExtTreeMap κ α}

@[simp] theorem write_nil : write key [] m = m := rfl

theorem write_cons {a : α} : write key (a :: items) m = write key items (m.insert (key a) a) := rfl

section Write

variable [LawfulEqOrd κ]

/-- A key that no value has keeps what it had. -/
theorem getElem?_write_of_notMem {k : κ} (h : ∀ a ∈ items, key a ≠ k) :
    (write key items m)[k]? = m[k]? := by
  induction items generalizing m with
  | nil => rfl
  | cons a items ih =>
    rw [write_cons, ih fun b hb => h b (List.mem_cons_of_mem a hb), ExtTreeMap.getElem?_insert,
      if_neg]
    intro heq
    exact h a List.mem_cons_self (LawfulEqOrd.eq_of_compare heq)

variable {a : α} {items' : List α}

/-- A value of a list without repeated keys is stored under its key. -/
theorem getElem?_write_of_mem (hnodup : (items.map key).Nodup) (ha : a ∈ items) :
    (write key items m)[key a]? = some a := by
  induction items generalizing m with
  | nil => cases ha
  | cons b items ih =>
    rw [List.map_cons, List.nodup_cons] at hnodup
    rw [write_cons]
    rcases List.mem_cons.1 ha with rfl | hmem
    · rw [getElem?_write_of_notMem, ExtTreeMap.getElem?_insert_self]
      intro c hc heq
      exact hnodup.1 (heq ▸ List.mem_map_of_mem hc)
    · exact ih hnodup.2 hmem

/-- What is found under its own key: a value of the list, or one that the list left alone. -/
theorem getElem?_write_eq_some (hnodup : (items.map key).Nodup) :
    (write key items m)[key a]? = some a ↔
      a ∈ items ∨ (∀ b ∈ items, key b ≠ key a) ∧ m[key a]? = some a := by
  by_cases h : ∃ b ∈ items, key b = key a
  · obtain ⟨b, hb, hkey⟩ := h
    rw [← hkey, getElem?_write_of_mem hnodup hb, Option.some_inj]
    constructor
    · rintro rfl
      exact .inl hb
    · rintro (ha | ⟨hnone, -⟩)
      · exact List.inj_on_of_nodup_map hnodup hb ha hkey
      · exact absurd rfl (hnone b hb)
  · have hnone : ∀ b ∈ items, key b ≠ key a := fun b hb hkey => h ⟨b, hb, hkey⟩
    rw [getElem?_write_of_notMem hnone]
    constructor
    · exact fun hget => .inr ⟨hnone, hget⟩
    · rintro (ha | ⟨-, hget⟩)
      · exact absurd rfl (hnone a ha)
      · exact hget

/-- Two lists with the same values and no repeated key have the same effect. -/
theorem write_congr (hnodup : (items.map key).Nodup) (hnodup' : (items'.map key).Nodup)
    (hmem : ∀ a, a ∈ items ↔ a ∈ items') :
    write key items m = write key items' m := by
  refine ExtTreeMap.ext_getElem? fun k => ?_
  by_cases h : ∃ a ∈ items, key a = k
  · obtain ⟨a, ha, rfl⟩ := h
    rw [getElem?_write_of_mem hnodup ha, getElem?_write_of_mem hnodup' ((hmem a).1 ha)]
  · rw [not_exists] at h
    rw [getElem?_write_of_notMem fun a ha hk => h a ⟨ha, hk⟩,
      getElem?_write_of_notMem fun a ha hk => h a ⟨(hmem a).2 ha, hk⟩]

theorem write_perm (hnodup : (items.map key).Nodup) (h : items.Perm items') :
    write key items m = write key items' m :=
  write_congr hnodup ((h.map key).nodup hnodup) fun _ => h.mem_iff

end Write

/-! ### Values -/

/-- The values, in the order of their keys. -/
def values (m : ExtTreeMap κ α) : List α := m.toList.map Prod.snd

/-- Every value is stored under its own key. -/
def WellKeyed (key : α → κ) (m : ExtTreeMap κ α) : Prop := ∀ k a, m[k]? = some a → key a = k

theorem WellKeyed.empty : WellKeyed key (∅ : ExtTreeMap κ α) := by
  intro k a h
  simp at h

variable [LawfulEqOrd κ]

theorem WellKeyed.insert (h : WellKeyed key m) (a : α) : WellKeyed key (m.insert (key a) a) := by
  intro k b hb
  rw [ExtTreeMap.getElem?_insert] at hb
  split at hb
  · rename_i heq
    obtain rfl := Option.some_inj.1 hb
    exact LawfulEqOrd.eq_of_compare heq
  · exact h k b hb

theorem WellKeyed.write (h : WellKeyed key m) : WellKeyed key (write key items m) := by
  induction items generalizing m with
  | nil => exact h
  | cons a items ih => exact ih (h.insert a)

theorem mem_values (h : WellKeyed key m) {a : α} : a ∈ values m ↔ m[key a]? = some a := by
  rw [values, List.mem_map]
  constructor
  · rintro ⟨⟨k, b⟩, hmem, rfl⟩
    have hget := ExtTreeMap.mem_toList_iff_getElem?_eq_some.1 hmem
    rw [h k b hget, hget]
  · intro hget
    exact ⟨(key a, a), ExtTreeMap.mem_toList_iff_getElem?_eq_some.2 hget, rfl⟩

theorem nodup_keys_values (h : WellKeyed key m) : ((values m).map key).Nodup := by
  have hkeys : (values m).map key = m.toList.map Prod.fst := by
    rw [values, List.map_map]
    refine List.map_congr_left ?_
    rintro ⟨k, a⟩ hmem
    exact h k a (ExtTreeMap.mem_toList_iff_getElem?_eq_some.1 hmem)
  rw [hkeys, List.Nodup, List.pairwise_map]
  refine (ExtTreeMap.distinct_keys_toList (t := m)).imp ?_
  intro p q hne heq
  exact hne (heq ▸ ReflOrd.compare_self)

end Overlay
