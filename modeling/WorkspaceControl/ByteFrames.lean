/-
**Numbers and frames of bytes.**

Numbers are written big-endian in a fixed number of bytes, and byte strings one after the other,
each behind its length.  A reader takes a number of bytes from the beginning of what is left.

Main definitions: `value`, `ofNat`, `takeBytes`, `takeNat`, `frames`.

Main results:

* `ofNat_value`, `value_ofNat` — numbers and their bytes determine each other;
* `takeNat_eq_some` — what a reader has taken stands at the beginning;
* `frames_injective` — **frames determine the byte strings**.
-/
import Mathlib.Data.List.Induction
import Mathlib.Tactic.Ring
import WorkspaceControl.ByteText

set_option autoImplicit false

namespace ByteFrames

open ByteText

/-- The number that the bytes stand for. -/
def value (bytes : Bytes) : ℕ := bytes.foldl (fun n b => n * 256 + b.toNat) 0

/-- A number in `w` bytes; what does not fit is left out. -/
def ofNat : ℕ → ℕ → Bytes
  | 0, _ => []
  | w + 1, n => ofNat w (n / 256) ++ [UInt8.ofNat (n % 256)]

theorem value_concat (bytes : Bytes) (b : UInt8) :
    value (bytes ++ [b]) = value bytes * 256 + b.toNat := by
  simp [value, List.foldl_append]

@[simp] theorem length_ofNat (w n : ℕ) : (ofNat w n).length = w := by
  induction w generalizing n with
  | zero => rfl
  | succ w ih => rw [ofNat, List.length_append, ih, List.length_singleton]

theorem value_lt (bytes : Bytes) : value bytes < 256 ^ bytes.length := by
  induction bytes using List.reverseRecOn with
  | nil => decide
  | append_singleton bytes b ih =>
    have hb := b.toNat_lt
    rw [value_concat, List.length_append, List.length_singleton, pow_succ]
    omega

theorem value_ofNat {w n : ℕ} (h : n < 256 ^ w) : value (ofNat w n) = n := by
  induction w generalizing n with
  | zero =>
    rw [pow_zero, Nat.lt_one_iff] at h
    rw [h]
    rfl
  | succ w ih =>
    have hdiv : n / 256 < 256 ^ w := by
      rw [pow_succ] at h
      exact Nat.div_lt_of_lt_mul (by rwa [mul_comm])
    have hlast : (UInt8.ofNat (n % 256)).toNat = n % 256 := by
      simp
    rw [ofNat, value_concat, ih hdiv, hlast, Nat.div_add_mod']

theorem ofNat_value (bytes : Bytes) : ofNat bytes.length (value bytes) = bytes := by
  induction bytes using List.reverseRecOn with
  | nil => rfl
  | append_singleton bytes b ih =>
    have hb := b.toNat_lt
    have hdiv : (value bytes * 256 + b.toNat) / 256 = value bytes := by omega
    have hmod : (value bytes * 256 + b.toNat) % 256 = b.toNat := by omega
    rw [value_concat, List.length_append, List.length_singleton, ofNat, hdiv, hmod, ih,
      UInt8.ofNat_toNat]

/-! ### Reading -/

def takeBytes (n : ℕ) (bytes : Bytes) : Option (Bytes × Bytes) :=
  if n ≤ bytes.length then some (bytes.take n, bytes.drop n) else none

def takeNat (w : ℕ) (bytes : Bytes) : Option (ℕ × Bytes) := do
  let (number, rest) ← takeBytes w bytes
  some (value number, rest)

variable {w n : ℕ} {bytes part rest : Bytes}

theorem takeBytes_eq_some (h : takeBytes n bytes = some (part, rest)) :
    bytes = part ++ rest ∧ part.length = n := by
  unfold takeBytes at h
  split at h
  · cases h
    exact ⟨(List.take_append_drop n bytes).symm, by simpa using ‹n ≤ bytes.length›⟩
  · cases h

theorem takeNat_eq_some (h : takeNat w bytes = some (n, rest)) :
    bytes = ofNat w n ++ rest ∧ n < 256 ^ w := by
  obtain ⟨⟨number, rest'⟩, htake, h⟩ := Option.bind_eq_some_iff.1 h
  cases h
  obtain ⟨rfl, rfl⟩ := takeBytes_eq_some htake
  exact ⟨by rw [ofNat_value], value_lt number⟩

/-! ### Frames -/

/-- Byte strings, each behind its length in eight bytes. -/
def frames (parts : List Bytes) : Bytes := parts.flatMap fun part => ofNat 8 part.length ++ part

/-- **Frames determine the byte strings**, of which none is longer than a length can say. -/
theorem frames_injective {parts parts' : List Bytes}
    (hparts : ∀ part ∈ parts, part.length < 256 ^ 8)
    (hparts' : ∀ part ∈ parts', part.length < 256 ^ 8) (h : frames parts = frames parts') :
    parts = parts' := by
  have hne : ∀ part parts, frames (part :: parts) ≠ [] := by
    intro part parts h
    have hlength := congrArg List.length h
    simp [frames] at hlength
  induction parts generalizing parts' with
  | nil =>
    cases parts' with
    | nil => rfl
    | cons part' parts' => exact absurd h.symm (hne part' parts')
  | cons part parts ih =>
    cases parts' with
    | nil => exact absurd h (hne part parts)
    | cons part' parts' =>
      simp only [frames, List.flatMap_cons, List.append_assoc] at h
      -- the lengths come first, then as many bytes as they say
      obtain ⟨hnumber, h⟩ := List.append_inj h (by simp)
      have hlength : part.length = part'.length := by
        rw [← value_ofNat (hparts part List.mem_cons_self), hnumber,
          value_ofNat (hparts' part' List.mem_cons_self)]
      obtain ⟨hpart, h⟩ := List.append_inj h hlength
      rw [hpart, ih (fun x hx => hparts x (List.mem_cons_of_mem _ hx))
        (fun x hx => hparts' x (List.mem_cons_of_mem _ hx)) h]

end ByteFrames
