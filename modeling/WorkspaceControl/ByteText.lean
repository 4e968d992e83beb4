/-
**Bytes written as text.**

The encoding in which a byte string travels through a text field: base64 with the standard alphabet
and canonical padding, whose decoder refuses every other text.  In the other direction, the bytes of
a text are its UTF-8 form.

Main definitions: `Base64.decode`, `Utf8.encode`, `Utf8.decode`.

Main results: `Utf8.decode_eq_some`.
-/
import Mathlib.Data.Nat.Notation
import Mathlib.Tactic.SplitIfs

set_option autoImplicit false

namespace ByteText

abbrev Bytes : Type := List UInt8

/-- The value of a character in an alphabet: its position there. -/
def valueIn (alphabet : List Char) (c : Char) : Option ℕ := alphabet.idxOf? c

namespace Base64

/-- The standard alphabet. -/
def alphabet : List Char :=
  "ABCDEFGHIJKLMNOPQRSTUVWXYZabcdefghijklmnopqrstuvwxyz0123456789+/".toList

def value (c : Char) : Option ℕ := valueIn alphabet c

/-- The bytes of a last group with two pads; the bits that no byte holds must be zero. -/
def decodeOne (w x : Char) : Option Bytes := do
  let w ← value w
  let x ← value x
  if x % 16 = 0 then some [.ofNat (w * 4 + x / 16)] else none

/-- The bytes of a last group with one pad. -/
def decodeTwo (w x y : Char) : Option Bytes := do
  let w ← value w
  let x ← value x
  let y ← value y
  if y % 4 = 0 then some [.ofNat (w * 4 + x / 16), .ofNat (x % 16 * 16 + y / 4)] else none

def decodeThree (w x y z : Char) : Option Bytes := do
  let w ← value w
  let x ← value x
  let y ← value y
  let z ← value z
  some [.ofNat (w * 4 + x / 16), .ofNat (x % 16 * 16 + y / 4), .ofNat (y % 4 * 64 + z)]

def decodeList : List Char → Option Bytes
  | [] => some []
  | w :: x :: y :: z :: rest =>
    if z = '=' then
      if rest ≠ [] then none
      else if y = '=' then decodeOne w x
      else decodeTwo w x y
    else do
      let head ← decodeThree w x y z
      let tail ← decodeList rest
      some (head ++ tail)
  | _ => none

def decode (text : String) : Option Bytes := decodeList text.toList

end Base64

namespace Utf8

/-- `str::as_bytes`. -/
def encode (text : String) : Bytes := text.toByteArray.data.toList

/-- `str::from_utf8`. -/
def decode (bytes : Bytes) : Option String := String.fromUTF8? ⟨bytes.toArray⟩

/-- Exactly the bytes of a text are read as that text. -/
theorem decode_eq_some {bytes : Bytes} {text : String} :
    decode bytes = some text ↔ bytes = encode text := by
  constructor
  · intro h
    simp only [decode, String.fromUTF8?, Option.dite_none_right_eq_some, Option.some_inj] at h
    obtain ⟨_, rfl⟩ := h
    simp [encode, String.fromUTF8]
  · rintro rfl
    simp only [decode, encode, String.fromUTF8?, Array.toArray_toList]
    exact dif_pos text.isValidUTF8

theorem encode_eq_flatMap (text : String) :
    encode text = text.toList.flatMap String.utf8EncodeChar := by
  have h : text.toByteArray = text.toList.utf8Encode := by
    rw [← String.toByteArray_ofList, String.ofList_toList]
  rw [encode, h, List.utf8Encode, List.data_toByteArray]

/-- A byte below 128 is a character of the text. -/
theorem exists_mem_of_mem_encode {text : String} {b : UInt8} (hb : b ∈ encode text)
    (hlt : b.toNat < 128) : ∃ c ∈ text.toList, c.toNat = b.toNat := by
  rw [encode_eq_flatMap, List.mem_flatMap] at hb
  obtain ⟨c, hc, hmem⟩ := hb
  refine ⟨c, hc, ?_⟩
  -- only a single byte is below 128
  simp only [String.utf8EncodeChar] at hmem
  have hval : c.toNat = c.val.toNat := rfl
  split_ifs at hmem
  all_goals
    simp only [List.mem_cons, List.not_mem_nil, or_false] at hmem
  · subst hmem
    rw [UInt8.toNat_ofNat', Nat.mod_eq_of_lt (by omega), hval]
  · rcases hmem with rfl | rfl <;> rw [UInt8.toNat_ofNat'] at hlt <;> omega
  · rcases hmem with rfl | rfl | rfl <;> rw [UInt8.toNat_ofNat'] at hlt <;> omega
  · rcases hmem with rfl | rfl | rfl | rfl <;> rw [UInt8.toNat_ofNat'] at hlt <;> omega

end Utf8

end ByteText
