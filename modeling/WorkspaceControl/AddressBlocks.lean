/-
**Address blocks.**

The addresses of a family are the bit vectors of its width.  A block is an address with the length
of a prefix, whose other bits do not matter; it reaches from its network to its broadcast address.
Two blocks are apart, or one of them lies in the other.

Main definitions:

* `Block` — an address and the length of its prefix;
* `Block.covers`, `Block.contains` — an address, or another block, lies in the block.

Main results:

* `Block.covers_iff` — **a block has the addresses that agree with it on the prefix**;
* `Block.contains_iff` — a block lies in another exactly when all its addresses do;
* `Block.contains_or_contains` — blocks with a common address are nested.
-/
import Mathlib.Data.BitVec
import Mathlib.Tactic.Linarith

set_option autoImplicit false

namespace AddressBlocks

/-- An address of `w` bits and the length of its prefix. -/
structure Block (w : ℕ) where
  address : BitVec w
  length : ℕ
  length_le : length ≤ w
deriving DecidableEq

namespace Block

variable {w : ℕ} {b c : Block w} {a : BitVec w}

/-- The bits that do not belong to the prefix. -/
def hostBits (b : Block w) : ℕ := w - b.length

def netmask (b : Block w) : BitVec w := BitVec.allOnes w <<< b.hostBits

def hostmask (b : Block w) : BitVec w := BitVec.allOnes w >>> b.length

def network (b : Block w) : BitVec w := b.address &&& b.netmask

def broadcast (b : Block w) : BitVec w := b.address ||| b.hostmask

/-- The address lies between the ends of the block. -/
def covers (b : Block w) (a : BitVec w) : Bool := b.network ≤ a && a ≤ b.broadcast

/-- The other block lies between the ends of the block. -/
def contains (b c : Block w) : Bool := b.network ≤ c.network && c.broadcast ≤ b.broadcast

/-- A single address. -/
def single (a : BitVec w) : Block w := ⟨a, w, le_refl w⟩

/-- The prefix of an address, as a number. -/
def lead (b : Block w) (a : BitVec w) : ℕ := a.toNat / 2 ^ b.hostBits

/-- The mask clears the bits after the prefix. -/
theorem toNat_network (b : Block w) :
    b.network.toNat = 2 ^ b.hostBits * b.lead b.address := by
  refine Nat.eq_of_testBit_eq fun i => ?_
  rw [lead, network, netmask, BitVec.toNat_and, Nat.testBit_and, BitVec.toNat_shiftLeft,
    Nat.testBit_mod_two_pow, Nat.testBit_shiftLeft, BitVec.toNat_allOnes,
    Nat.testBit_two_pow_sub_one, mul_comm, Nat.testBit_mul_two_pow, Nat.testBit_div_two_pow]
  by_cases hle : b.hostBits ≤ i
  · rw [Nat.sub_add_cancel hle]
    by_cases hi : i < w
    · simp [hle, hi, Nat.lt_of_le_of_lt (Nat.sub_le i _) hi]
    · have hbit : b.address.toNat.testBit i = false :=
        Nat.testBit_lt_two_pow (b.address.isLt.trans_le (Nat.pow_le_pow_right (by omega)
          (not_lt.1 hi)))
      simp [hbit]
  · simp [hle]

/-- The mask sets the bits after the prefix. -/
theorem toNat_broadcast (b : Block w) :
    b.broadcast.toNat = 2 ^ b.hostBits * b.lead b.address + (2 ^ b.hostBits - 1) := by
  have hlt : 2 ^ b.hostBits - 1 < 2 ^ b.hostBits := Nat.sub_lt (Nat.two_pow_pos _) Nat.one_pos
  refine Nat.eq_of_testBit_eq fun i => ?_
  rw [Nat.two_pow_add_eq_or_of_lt hlt, lead, broadcast, hostmask, BitVec.toNat_or, Nat.testBit_or,
    Nat.testBit_or, BitVec.toNat_ushiftRight, Nat.testBit_shiftRight, BitVec.toNat_allOnes,
    Nat.testBit_two_pow_sub_one, Nat.testBit_two_pow_sub_one, mul_comm, Nat.testBit_mul_two_pow,
    Nat.testBit_div_two_pow]
  have hbits : b.length + i < w ↔ i < b.hostBits := by
    unfold hostBits
    omega
  by_cases hle : b.hostBits ≤ i
  · simp [Nat.sub_add_cancel hle, hbits, hle]
  · simp [hbits, not_le.1 hle]

/-- **A block has the addresses that agree with it on the prefix.** -/
theorem covers_iff : b.covers a = true ↔ b.lead a = b.lead b.address := by
  have hpos : 0 < 2 ^ b.hostBits := Nat.two_pow_pos _
  simp only [covers, Bool.and_eq_true, decide_eq_true_eq, BitVec.le_def, toNat_network,
    toNat_broadcast]
  generalize b.lead b.address = l
  rw [lead]
  generalize 2 ^ b.hostBits = size at hpos
  rw [Nat.div_eq_iff hpos]
  have hmul : l * size = size * l := mul_comm _ _
  omega

theorem covers_address (b : Block w) : b.covers b.address = true := covers_iff.2 rfl

@[simp] theorem covers_single {a a' : BitVec w} : (single a).covers a' = true ↔ a' = a := by
  rw [covers_iff, lead, lead]
  simp [single, hostBits, BitVec.toNat_inj]

/-- With a longer prefix, agreement on it is more. -/
theorem lead_eq_of_length_le (h : b.length ≤ c.length) {a a' : BitVec w}
    (hlead : c.lead a = c.lead a') : b.lead a = b.lead a' := by
  have hsplit : 2 ^ b.hostBits = 2 ^ c.hostBits * 2 ^ (c.length - b.length) := by
    rw [← pow_add]
    have := b.length_le
    have := c.length_le
    congr 1
    unfold hostBits
    omega
  unfold lead at hlead ⊢
  rw [hsplit, ← Nat.div_div_eq_div_mul, ← Nat.div_div_eq_div_mul, hlead]

/-- Of blocks with a common address, the one with the longer prefix lies in the other. -/
theorem covers_of_covers (h : b.length ≤ c.length) {common : BitVec w}
    (hb : b.covers common = true) (hc : c.covers common = true) (ha : c.covers a = true) :
    b.covers a = true := by
  rw [covers_iff] at *
  rw [← hb]
  exact lead_eq_of_length_le h (ha.trans hc.symm)

theorem network_le_broadcast (b : Block w) : b.network ≤ b.broadcast := by
  rw [BitVec.le_def, toNat_network, toNat_broadcast]
  exact Nat.le_add_right _ _

/-- The ends of a block belong to it. -/
theorem covers_ends (b : Block w) :
    b.covers b.network = true ∧ b.covers b.broadcast = true := by
  simp [covers, network_le_broadcast]

/-- A block lies in another when the other has its address and a prefix that is no longer. -/
theorem contains_iff : b.contains c = true ↔ b.length ≤ c.length ∧ b.covers c.address = true := by
  rw [contains, Bool.and_eq_true, decide_eq_true_eq, decide_eq_true_eq]
  constructor
  · rintro ⟨hlow, hhigh⟩
    have haddress := c.covers_address
    rw [covers, Bool.and_eq_true, decide_eq_true_eq, decide_eq_true_eq] at haddress
    refine ⟨?_, ?_⟩
    · -- the distance between the ends of a block tells the length of its prefix
      rw [BitVec.le_def, toNat_network, toNat_network] at hlow
      rw [BitVec.le_def, toNat_broadcast, toNat_broadcast] at hhigh
      have hb : 0 < 2 ^ b.hostBits := Nat.two_pow_pos _
      have hc : 0 < 2 ^ c.hostBits := Nat.two_pow_pos _
      have hsize : 2 ^ c.hostBits ≤ 2 ^ b.hostBits := by omega
      have hbits := (Nat.pow_le_pow_iff_right Nat.one_lt_two).1 hsize
      have := b.length_le
      have := c.length_le
      unfold hostBits at hbits
      omega
    · rw [covers, Bool.and_eq_true, decide_eq_true_eq, decide_eq_true_eq]
      exact ⟨BitVec.le_trans hlow haddress.1, BitVec.le_trans haddress.2 hhigh⟩
  · rintro ⟨hlength, hcovers⟩
    have hlow := covers_of_covers hlength hcovers c.covers_address c.covers_ends.1
    have hhigh := covers_of_covers hlength hcovers c.covers_address c.covers_ends.2
    rw [covers, Bool.and_eq_true, decide_eq_true_eq, decide_eq_true_eq] at hlow hhigh
    exact ⟨hlow.1, hhigh.2⟩

theorem covers_of_contains (h : b.contains c = true) (ha : c.covers a = true) :
    b.covers a = true :=
  covers_of_covers (contains_iff.1 h).1 (contains_iff.1 h).2 c.covers_address ha

/-- **Blocks with a common address are nested.** -/
theorem contains_or_contains (hb : b.covers a = true) (hc : c.covers a = true) :
    b.contains c = true ∨ c.contains b = true := by
  rcases le_total b.length c.length with hle | hle
  · exact .inl (contains_iff.2 ⟨hle, covers_of_covers hle hb hc c.covers_address⟩)
  · exact .inr (contains_iff.2 ⟨hle, covers_of_covers hle hc hb b.covers_address⟩)

end Block

/-! ### Both families -/

inductive IpAddr
  | v4 (address : BitVec 32)
  | v6 (address : BitVec 128)
deriving DecidableEq

inductive IpNet
  | v4 (block : Block 32)
  | v6 (block : Block 128)
deriving DecidableEq

namespace IpNet

/-- `IpNet::from`: the address alone. -/
def ofAddress : IpAddr → IpNet
  | .v4 address => .v4 (.single address)
  | .v6 address => .v6 (.single address)

def isIpv4 : IpNet → Bool
  | v4 _ => true
  | v6 _ => false

/-- Networks of different families are not compared. -/
def contains : IpNet → IpNet → Bool
  | v4 b, v4 c => b.contains c
  | v6 b, v6 c => b.contains c
  | _, _ => false

def covers : IpNet → IpAddr → Bool
  | v4 b, .v4 a => b.covers a
  | v6 b, .v6 a => b.covers a
  | _, _ => false

theorem covers_ofAddress {a a' : IpAddr} : (ofAddress a).covers a' = true ↔ a' = a := by
  cases a <;> cases a' <;> simp [ofAddress, covers]

variable {a : IpAddr} {m n : IpNet}

theorem covers_of_contains (h : n.contains m = true) (ha : m.covers a = true) :
    n.covers a = true := by
  cases n <;> cases m <;> cases a <;>
    first
    | exact Block.covers_of_contains h ha
    | simp [contains, covers] at h ha

theorem contains_or_contains (hn : n.covers a = true) (hm : m.covers a = true) :
    n.contains m = true ∨ m.contains n = true := by
  cases n <;> cases m <;> cases a <;>
    first
    | exact Block.contains_or_contains hn hm
    | simp [covers] at hn hm

theorem isIpv4_eq_of_contains (h : n.contains m = true) : m.isIpv4 = n.isIpv4 := by
  cases n <;> cases m <;> simp [contains, isIpv4] at h ⊢

end IpNet

/-- The IPv4 address `a.b.c.d`. -/
def ipv4 (a b c d : ℕ) : BitVec 32 := BitVec.ofNat 32 (((a * 256 + b) * 256 + c) * 256 + d)

end AddressBlocks
