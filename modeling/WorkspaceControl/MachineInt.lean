/-
**Machine integers.**

Signed and unsigned 64-bit values are kept as `Int` and `ℕ`; what the width matters for is written
out where a program asks for it: checked and saturating operations, and the conversions between
the two types.

Main definitions: `I64.checkedAdd`, `I64.saturatingAdd`, `I64.saturatingSub`, `U64.checkedMul`,
`U64.toI64` (a conversion that fails), `U64.castI64` (a cast that wraps), `I64.toU64`.
-/
import Mathlib.Data.Int.Notation
import Mathlib.Tactic.Linarith

set_option autoImplicit false

namespace MachineInt

namespace I64

/-- The largest signed 64-bit value. -/
def max : ℤ := 9223372036854775807

/-- The smallest signed 64-bit value. -/
def min : ℤ := -9223372036854775808

/-- `checked_add`. -/
def checkedAdd (a b : ℤ) : Option ℤ := if min ≤ a + b ∧ a + b ≤ max then some (a + b) else none

/-- `saturating_add`. -/
def saturatingAdd (a b : ℤ) : ℤ := if a + b < min then min else if max < a + b then max else a + b

/-- `saturating_sub`. -/
def saturatingSub (a b : ℤ) : ℤ := saturatingAdd a (-b)

/-- `u64::try_from`. -/
def toU64 (a : ℤ) : Option ℕ := if 0 ≤ a then some a.toNat else none

end I64

namespace U64

/-- The number of unsigned 64-bit values. -/
def size : ℕ := 18446744073709551616

/-- `checked_mul`. -/
def checkedMul (a b : ℕ) : Option ℕ := if a * b < size then some (a * b) else none

/-- `checked_add`. -/
def checkedAdd (a b : ℕ) : Option ℕ := if a + b < size then some (a + b) else none

/-- `i64::try_from`. -/
def toI64 (a : ℕ) : Option ℤ := if (a : ℤ) ≤ I64.max then some a else none

/-- `as i64`: the cast wraps around. -/
def castI64 (a : ℕ) : ℤ := Int.bmod a size

end U64

namespace U32

/-- The number of unsigned 32-bit values. -/
def size : ℕ := 4294967296

/-- `checked_add`. -/
def checkedAdd (a b : ℕ) : Option ℕ := if a + b < size then some (a + b) else none

/-- `u32::try_from`. -/
def ofI64 (a : ℤ) : Option ℕ := if 0 ≤ a ∧ a < size then some a.toNat else none

end U32

namespace U64

/-- A test that only values in range pass sees the exact product. -/
theorem any_checkedMul (a b : ℕ) (p : ℕ → Bool) (hp : p (a * b) = true → a * b < size) :
    (checkedMul a b).any p = p (a * b) := by
  unfold checkedMul
  by_cases hmul : a * b < size
  · rw [if_pos hmul, Option.any_some]
  · rw [if_neg hmul, Option.any_none]
    cases h : p (a * b) with
    | true => exact absurd (hp h) hmul
    | false => rfl

theorem checkedMul_eq_some {a b c : ℕ} : checkedMul a b = some c ↔ c = a * b ∧ a * b < size := by
  unfold checkedMul
  split <;> grind

theorem lt_size_of_le {n : ℕ} (h : (n : ℤ) ≤ I64.max) : n < size := by
  unfold I64.max at h
  unfold size
  omega

theorem castI64_of_le {a : ℕ} (h : (a : ℤ) ≤ I64.max) : castI64 a = a := by
  unfold castI64 size
  unfold I64.max at h
  rw [Int.bmod_eq_of_le] <;> omega

theorem toI64_eq_some {a : ℕ} {i : ℤ} : toI64 a = some i ↔ i = a ∧ (a : ℤ) ≤ I64.max := by
  unfold toI64
  split <;> grind

end U64

theorem toU64_ofNat (n : ℕ) : I64.toU64 n = some n := by
  simp [I64.toU64]

theorem toU64_eq_some {a : ℤ} {n : ℕ} : I64.toU64 a = some n ↔ a = n := by
  unfold I64.toU64
  split <;> simp <;> omega

end MachineInt
