/-
**The egress of workspaces that may reach the internet only.**

`src/src/kubernetes/internet_egress.rs` keeps the CIDRs that an operator blocks and the addresses
that were observed since; `src/src/kubernetes/network_policy.rs` builds the egress rules of a
workspace from them: the DNS of the cluster, all of IPv4, and the public part of IPv6, the last two
with exceptions.

Main definitions:

* `InternetEgressConfig.rememberBlockedAddresses`, `InternetEgressConfig.blockedCidrs` — what is
  blocked;
* `publicEgressRule`, `internetEgressRules` — the rules;
* `EgressRule.admits` — the addresses that a rule admits.

Main results:

* `egress_admits_public_addresses` — **the rules admit exactly the public addresses that nobody
  blocks**, and fewer when more are remembered.
-/
import Mathlib.Data.List.Sort
import WorkspaceControl.AddressBlocks
import WorkspaceControl.Template

set_option autoImplicit false

namespace WorkspaceControl

open Fallible AddressBlocks

/-! ### Ranges -/

/-- `a.b.c.d/length`. -/
def cidr4 (a b c d : ℕ) (length : Fin 33) : IpNet :=
  .v4 ⟨ipv4 a b c d, length, Nat.le_of_lt_succ length.2⟩

/-- `first:second::/length`. -/
def cidr6 (first second : ℕ) (length : Fin 129) : IpNet :=
  .v6 ⟨BitVec.ofNat 128 ((first * 2 ^ 16 + second) * 2 ^ 96), length, Nat.le_of_lt_succ length.2⟩

def privateOrReservedIpv4 : List IpNet :=
  [cidr4 0 0 0 0 8, cidr4 10 0 0 0 8, cidr4 100 64 0 0 10, cidr4 127 0 0 0 8, cidr4 169 254 0 0 16,
    cidr4 172 16 0 0 12, cidr4 192 0 0 0 24, cidr4 192 0 2 0 24, cidr4 192 31 196 0 24,
    cidr4 192 52 193 0 24, cidr4 192 88 99 0 24, cidr4 192 175 48 0 24, cidr4 192 168 0 0 16,
    cidr4 198 18 0 0 15, cidr4 198 51 100 0 24, cidr4 203 0 113 0 24, cidr4 224 0 0 0 4,
    cidr4 240 0 0 0 4]

def privateOrReservedIpv6 : List IpNet :=
  [cidr6 0x2001 0 23, cidr6 0x2001 0xdb8 32, cidr6 0x2002 0 16, cidr6 0x3fff 0 20]

/-! ### What is blocked -/

structure InternetEgressConfig where
  dnsNamespace : String
  dnsPodLabels : List (String × String)
  additionalBlockedCidrs : List IpNet
  observedBlockedCidrs : List IpNet

namespace InternetEgressConfig

/-- The configuration of an operator, before anything is observed. -/
def fresh (dnsNamespace : String) (dnsPodLabels : List (String × String))
    (additionalBlockedCidrs : List IpNet) : InternetEgressConfig :=
  ⟨dnsNamespace, dnsPodLabels, additionalBlockedCidrs, []⟩

/-- The loop of `remember_blocked_addresses`. -/
def observe (config : InternetEgressConfig) (observed : List IpNet) : List IpAddr → List IpNet
  | [] => observed
  | address :: addresses =>
    let cidr := IpNet.ofAddress address
    if cidr ∈ config.additionalBlockedCidrs ∨ cidr ∈ observed then
      config.observe observed addresses
    else config.observe (observed ++ [cidr]) addresses

/-- The observed addresses are kept in the order of their texts; the number of new ones is
returned. -/
def rememberBlockedAddresses (config : InternetEgressConfig) (text : IpNet → String)
    (addresses : List IpAddr) : InternetEgressConfig × ℕ :=
  let observed := config.observe config.observedBlockedCidrs addresses
  ({ config with observedBlockedCidrs := observed.insertionSort fun a b => text a ≤ text b },
    observed.length - config.observedBlockedCidrs.length)

def blockedCidrs (config : InternetEgressConfig) : List IpNet :=
  config.additionalBlockedCidrs ++ config.observedBlockedCidrs

/-- The configuration after these calls. -/
def remembered (config : InternetEgressConfig) (text : IpNet → String)
    (batches : List (List IpAddr)) : InternetEgressConfig :=
  batches.foldl (fun config addresses => (config.rememberBlockedAddresses text addresses).1) config

end InternetEgressConfig

/-! ### Rules -/

structure IpBlock where
  cidr : IpNet
  except : List IpNet

/-- A peer is a block of addresses, or the Pods with these labels in a namespace. -/
inductive PolicyPeer
  | ipBlock (block : IpBlock)
  | pods («namespace» : String) (labels : List (String × String))

structure PolicyPort where
  protocol : String
  port : ℕ

/-- A rule without ports holds for all of them. -/
structure EgressRule where
  «to» : List PolicyPeer
  ports : List PolicyPort

def dnsEgressRule («namespace» : String) (podLabels : List (String × String)) : EgressRule :=
  ⟨[.pods «namespace» podLabels], [⟨"UDP", 53⟩, ⟨"TCP", 53⟩]⟩

def publicEgressRule (allowed : IpNet) (defaultExcept blockedCidrs : List IpNet) :
    Option EgressRule :=
  if blockedCidrs.any fun blocked => blocked.contains allowed then none
  else some
    ⟨[.ipBlock ⟨allowed, defaultExcept ++ blockedCidrs.filter fun blocked =>
      blocked.isIpv4 = allowed.isIpv4 && allowed.contains blocked⟩], []⟩

/-- All of IPv4, and the addresses of IPv6 that are handed out. -/
def publicIpv4 : IpNet := cidr4 0 0 0 0 0

def publicIpv6 : IpNet := cidr6 0x2000 0 3

def internetEgressRules (config : InternetEgressConfig) : List EgressRule :=
  dnsEgressRule config.dnsNamespace config.dnsPodLabels ::
    (publicEgressRule publicIpv4 privateOrReservedIpv4 config.blockedCidrs).toList ++
    (publicEgressRule publicIpv6 privateOrReservedIpv6 config.blockedCidrs).toList

/-! ### Admission by address -/

def IpBlock.admits (block : IpBlock) (address : IpAddr) : Bool :=
  block.cidr.covers address && !block.except.any fun cidr => cidr.covers address

def PolicyPeer.admits (address : IpAddr) : PolicyPeer → Bool
  | ipBlock block => block.admits address
  | pods _ _ => false

/-- The rule admits the address as an address, whoever has it. -/
def EgressRule.admits (rule : EgressRule) (address : IpAddr) : Bool :=
  rule.«to».any (PolicyPeer.admits address)

def admitsByAddress (rules : List EgressRule) (address : IpAddr) : Bool :=
  rules.any fun rule => rule.admits address

section Rules

variable {allowed cidr : IpNet} {defaultExcept blocked : List IpNet} {address : IpAddr}

/-- **The exceptions of a rule are set subtraction**: a block around the allowed one takes the whole
rule away, those inside it are exceptions, and the others have no address in common with it. -/
theorem admits_publicEgressRule :
    ((publicEgressRule allowed defaultExcept blocked).toList.any fun rule => rule.admits address)
      = true ↔ allowed.covers address = true ∧ (∀ cidr ∈ defaultExcept, cidr.covers address = false)
        ∧ ∀ cidr ∈ blocked, cidr.covers address = false := by
  by_cases hwide : (blocked.any fun cidr => cidr.contains allowed) = true
  · have hnone : publicEgressRule allowed defaultExcept blocked = none := if_pos hwide
    obtain ⟨cidr, hcidr, hcontains⟩ := List.any_eq_true.1 hwide
    simp only [hnone, Option.toList_none, List.any_nil, Bool.false_eq_true, false_iff, not_and]
    intro hallowed _ hblocked
    have hcovers := IpNet.covers_of_contains hcontains hallowed
    simp [hblocked cidr hcidr] at hcovers
  · have hinside : ∀ cidr ∈ blocked, allowed.covers address = true → cidr.covers address = true →
        allowed.contains cidr = true := by
      intro cidr hcidr hallowed hcovers
      refine (IpNet.contains_or_contains hallowed hcovers).resolve_right fun hcontains => ?_
      exact hwide (List.any_eq_true.2 ⟨cidr, hcidr, hcontains⟩)
    simp only [publicEgressRule, if_neg hwide, Option.toList_some, List.any_cons, List.any_nil,
      Bool.or_false, EgressRule.admits, PolicyPeer.admits, IpBlock.admits, Bool.and_eq_true,
      Bool.not_eq_true', List.any_eq_false, List.mem_append, List.mem_filter, decide_eq_true_eq,
      Bool.not_eq_true]
    refine and_congr_right fun hallowed => ⟨fun hexcept => ⟨?_, ?_⟩, ?_⟩
    · exact fun cidr hcidr => hexcept cidr (Or.inl hcidr)
    · intro cidr hcidr
      by_contra hcovers
      have hcontains := hinside cidr hcidr hallowed (Bool.eq_true_of_not_eq_false hcovers)
      have hfamily := IpNet.isIpv4_eq_of_contains hcontains
      exact hcovers (hexcept cidr (Or.inr ⟨hcidr, hfamily, hcontains⟩))
    · rintro ⟨hdefault, hblocked⟩ cidr (hcidr | ⟨hcidr, -⟩)
      exacts [hdefault cidr hcidr, hblocked cidr hcidr]

theorem covers_publicIpv4 : publicIpv4.covers address = true ↔ ∃ a, address = .v4 a := by
  cases address with
  | v4 a => simp [publicIpv4, cidr4, ipv4, IpNet.covers, Block.covers_iff, Block.lead, Block.hostBits,
      Nat.div_eq_of_lt a.isLt]
  | v6 a => simp [publicIpv4, cidr4, IpNet.covers]

/-- The ranges of one family do not cover an address of the other. -/
theorem covers_privateOrReservedIpv6 (h : ∃ a, address = .v4 a)
    (hcidr : cidr ∈ privateOrReservedIpv6) : cidr.covers address = false := by
  obtain ⟨a, rfl⟩ := h
  revert hcidr
  simp only [privateOrReservedIpv6, List.mem_cons, List.not_mem_nil, or_false]
  rintro (rfl | rfl | rfl | rfl) <;> rfl

theorem covers_privateOrReservedIpv4 (h : ¬ ∃ a, address = .v4 a)
    (hcidr : cidr ∈ privateOrReservedIpv4) : cidr.covers address = false := by
  cases address with
  | v4 a => exact absurd ⟨a, rfl⟩ h
  | v6 a =>
    cases cidr with
    | v4 block => rfl
    | v6 block => simp [privateOrReservedIpv4, cidr4] at hcidr

/-- The rules admit what is public and not blocked. -/
theorem admits_internetEgressRules {config : InternetEgressConfig} :
    admitsByAddress (internetEgressRules config) address = true ↔
      ((∃ a, address = .v4 a) ∨ publicIpv6.covers address = true) ∧
        (∀ cidr ∈ privateOrReservedIpv4 ++ privateOrReservedIpv6, cidr.covers address = false) ∧
        ∀ cidr ∈ config.blockedCidrs, cidr.covers address = false := by
  have hdns : (dnsEgressRule config.dnsNamespace config.dnsPodLabels).admits address = false := rfl
  simp only [admitsByAddress, internetEgressRules, List.cons_append, List.any_cons, hdns,
    Bool.false_or, List.any_append, Bool.or_eq_true, admits_publicEgressRule, covers_publicIpv4,
    List.mem_append]
  by_cases h : ∃ a, address = .v4 a
  · have hother : publicIpv6.covers address = false := by
      obtain ⟨a, rfl⟩ := h
      rfl
    simp only [h, hother, true_and, Bool.false_eq_true, false_and, or_false]
    refine and_congr_left fun _ => ⟨fun hreserved cidr hcidr => ?_, fun hreserved cidr hcidr => ?_⟩
    · exact hcidr.elim (hreserved cidr) (covers_privateOrReservedIpv6 h)
    · exact hreserved cidr (Or.inl hcidr)
  · simp only [h, false_and, false_or]
    refine and_congr_right fun _ => and_congr_left fun _ =>
      ⟨fun hreserved cidr hcidr => ?_, fun hreserved cidr hcidr => hreserved cidr (Or.inr hcidr)⟩
    exact hcidr.elim (covers_privateOrReservedIpv4 h) (hreserved cidr)

end Rules

/-! ### Remembered addresses -/

section Remembered

variable {config : InternetEgressConfig} {text : IpNet → String} {observed : List IpNet}
  {addresses : List IpAddr} {batches further : List (List IpAddr)} {cidr : IpNet}

/-- The loop adds the addresses that are not blocked yet. -/
theorem mem_observe : cidr ∈ config.observe observed addresses ↔ cidr ∈ observed ∨
    cidr ∉ config.additionalBlockedCidrs ∧ ∃ address ∈ addresses, cidr = .ofAddress address := by
  induction addresses generalizing observed with
  | nil => simp [InternetEgressConfig.observe]
  | cons address addresses ih =>
    rw [InternetEgressConfig.observe]
    split_ifs with h
    · rw [ih]
      grind
    · rw [ih]
      grind

/-- After a call, its addresses are blocked with those from before. -/
theorem mem_blockedCidrs_remember :
    cidr ∈ (config.rememberBlockedAddresses text addresses).1.blockedCidrs ↔
      cidr ∈ config.blockedCidrs ∨ ∃ address ∈ addresses, cidr = .ofAddress address := by
  simp only [InternetEgressConfig.blockedCidrs, InternetEgressConfig.rememberBlockedAddresses,
    List.mem_append, List.mem_insertionSort, mem_observe]
  tauto

theorem mem_blockedCidrs_remembered :
    cidr ∈ (config.remembered text batches).blockedCidrs ↔
      cidr ∈ config.blockedCidrs ∨ ∃ addresses ∈ batches, ∃ address ∈ addresses,
        cidr = .ofAddress address := by
  induction batches generalizing config with
  | nil => simp [InternetEgressConfig.remembered]
  | cons addresses batches ih =>
    have hcons : config.remembered text (addresses :: batches) =
        (config.rememberBlockedAddresses text addresses).1.remembered text batches := rfl
    rw [hcons, ih, mem_blockedCidrs_remember]
    simp only [List.mem_cons, exists_eq_or_imp, or_assoc]

end Remembered

/-- **The rules admit exactly the public addresses that nobody blocks**: those of IPv4 and those in
`2000::/3` that no reserved range, no CIDR of the operator and no remembered address covers.  With
further addresses remembered they admit no more. -/
theorem egress_admits_public_addresses (dnsNamespace : String)
    (dnsPodLabels : List (String × String)) (additional : List IpNet) (text : IpNet → String)
    (batches further : List (List IpAddr)) (address : IpAddr) :
    let config := InternetEgressConfig.fresh dnsNamespace dnsPodLabels additional
    (admitsByAddress (internetEgressRules (config.remembered text batches)) address = true ↔
      ((∃ a, address = .v4 a) ∨ publicIpv6.covers address = true) ∧
        (∀ cidr ∈ privateOrReservedIpv4 ++ privateOrReservedIpv6, cidr.covers address = false) ∧
        (∀ cidr ∈ additional, cidr.covers address = false) ∧
        ∀ addresses ∈ batches, address ∉ addresses) ∧
    (admitsByAddress (internetEgressRules (config.remembered text (batches ++ further))) address
        = true →
      admitsByAddress (internetEgressRules (config.remembered text batches)) address = true) := by
  intro config
  have hadditional : config.blockedCidrs = additional := List.append_nil additional
  constructor
  · rw [admits_internetEgressRules]
    refine and_congr_right fun _ => and_congr_right fun _ => ?_
    simp only [mem_blockedCidrs_remembered, hadditional]
    constructor
    · intro h
      refine ⟨fun cidr hcidr => h cidr (Or.inl hcidr), fun addresses hmem haddress => ?_⟩
      have hcovers := h _ (Or.inr ⟨addresses, hmem, address, haddress, rfl⟩)
      simp [IpNet.covers_ofAddress.2 rfl] at hcovers
    · rintro ⟨hblocked, hremembered⟩ cidr (hcidr | ⟨addresses, hmem, a, ha, rfl⟩)
      · exact hblocked cidr hcidr
      · rw [← Bool.not_eq_true, IpNet.covers_ofAddress]
        rintro rfl
        exact hremembered addresses hmem ha
  · simp only [admits_internetEgressRules, mem_blockedCidrs_remembered, List.mem_append]
    rintro ⟨hpublic, hreserved, hblocked⟩
    refine ⟨hpublic, hreserved, fun cidr hcidr => hblocked cidr ?_⟩
    exact hcidr.imp_right fun ⟨addresses, hmem, h⟩ => ⟨addresses, Or.inl hmem, h⟩

end WorkspaceControl
