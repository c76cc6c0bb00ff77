import Mathlib.Data.List.Basic
import Mathlib.Tactic.Ring

/-!
# Identity of IP addresses

`operator==` and `get_hash` of `GY_IP_ADDR`, through the IPv4 address that is embedded in some
IPv6 addresses.  An address in memory is a number with its first byte the lowest.
-/

namespace Gyeeta.Misc

/-- The words that `GY_IP_ADDR` compares. -/
structure GyIpAddr where
  ip128Be : BitVec 128
  ip32Be : BitVec 32
  deriving DecidableEq

namespace GyIpAddr

/-- `pipbuf[place]`. -/
def pipbuf (ip : BitVec 128) (place : Nat) : BitVec 8 := ip.extractLsb' (8 * place) 8

/-- `embedded_ipv4_` as `get_ipv6_type_flags` sets it. -/
def embeddedIpv4 (ip : BitVec 128) : BitVec 32 :=
  if ip = 0 then 0
  else if ip.extractLsb' 0 64 = 0 ∧ ip.extractLsb' 64 64 = 1 <<< 56 then 0
  else if pipbuf ip 0 &&& 0xF0 = 0x20 then
    if pipbuf ip 0 = 0x20 ∧ pipbuf ip 1 = 0x02 then ip.extractLsb' 16 32 else 0
  else if ip.extractLsb' 0 64 = 0 ∧ pipbuf ip 8 = 0 ∧ pipbuf ip 9 = 0 ∧ pipbuf ip 10 = 0xFF ∧
      pipbuf ip 11 = 0xFF then
    ip.extractLsb' 96 32
  else if pipbuf ip 0 = 0 ∧ pipbuf ip 1 = 0x64 ∧ pipbuf ip 2 = 0xFF ∧ pipbuf ip 3 = 0x9B then
    ip.extractLsb' 96 32
  else 0

/-- `set_ip` with an IPv4 address. -/
def ofIpv4 (ip32Be : BitVec 32) : GyIpAddr := ⟨0, ip32Be⟩

/-- `set_ip` with an IPv6 address. -/
def ofIpv6 (ip128Be : BitVec 128) : GyIpAddr := ⟨ip128Be, embeddedIpv4 ip128Be⟩

/-- `operator==`. -/
def isEqual (lhs rhs : GyIpAddr) : Bool :=
  if lhs.ip32Be ≠ 0 ∨ rhs.ip32Be ≠ 0 then lhs.ip32Be = rhs.ip32Be else lhs.ip128Be = rhs.ip128Be

/-- `get_as_inaddr`, as words. -/
def getAsInaddr (addr : GyIpAddr) : List (BitVec 32) :=
  if addr.ip32Be ≠ 0 then [addr.ip32Be]
  else [0, 32, 64, 96].map fun start => addr.ip128Be.extractLsb' start 32

/-- `get_hash`, for any `jhash2`. -/
def getHash (jhash2 : List (BitVec 32) → BitVec 32 → BitVec 32) (addr : GyIpAddr) : BitVec 32 :=
  jhash2 addr.getAsInaddr 0xceedfead

/-! ## Prefixes -/

/-- `::ffff:0:0/96`. -/
def mappedPrefix : BitVec 96 := 0xFFFF <<< 80

/-- `64:ff9b::/96`. -/
def nat64Prefix : BitVec 96 := 0x9BFF6400

/-- Neither IPv4-mapped nor NAT64. -/
def Ordinary (ip : BitVec 128) : Prop :=
  ip.extractLsb' 0 96 ≠ mappedPrefix ∧ ip.extractLsb' 0 96 ≠ nat64Prefix

/-- The mapped or the NAT64 form of an IPv4 address. -/
def FormOf (ip32 : BitVec 32) (ip : BitVec 128) : Prop :=
  ¬Ordinary ip ∧ ip.extractLsb' 96 32 = ip32

/-- Another address that embeds an IPv4 address: one of 6to4, `2002::/16`, or of the rest of
`64:ff9b::/32`. -/
def Tunnel (ip32 : BitVec 32) (ip : BitVec 128) : Prop :=
  Ordinary ip ∧ (ip.extractLsb' 0 16 = 0x0220 ∧ ip.extractLsb' 16 32 = ip32 ∨
    ip.extractLsb' 0 32 = 0x9BFF6400 ∧ ip.extractLsb' 96 32 = ip32)

lemma extract_eq_iff {ip : BitVec 128} {start len : Nat} {value : BitVec len} :
    ip.extractLsb' start len = value ↔ ip.toNat / 2 ^ start % 2 ^ len = value.toNat := by
  rw [← BitVec.toNat_inj, BitVec.extractLsb'_toNat, Nat.shiftRight_eq_div_pow]

lemma and_high_iff : ∀ byte : BitVec 8, byte &&& 0xF0 = 0x20 ↔ byte.toNat / 16 = 2 := by
  decide

variable {ip other : BitVec 128} {ip32 : BitVec 32}

lemma embedded_iff (some : ip32 ≠ 0) :
    embeddedIpv4 ip = ip32 ↔ FormOf ip32 ip ∨ Tunnel ip32 ip := by
  have noZero : ¬0 = ip32 := Ne.symm some
  have isSome : ip32.toNat ≠ 0 := fun zero => some (BitVec.eq_of_toNat_eq zero)
  have forms : FormOf ip32 ip ∨ Tunnel ip32 ip ↔
      (ip.toNat % 2 ^ 96 = 0xFFFF * 2 ^ 80 ∨ ip.toNat % 2 ^ 96 = 0x9BFF6400) ∧
          ip.toNat / 2 ^ 96 = ip32.toNat ∨
        ip.toNat % 2 ^ 16 = 0x0220 ∧ ip.toNat / 2 ^ 16 % 2 ^ 32 = ip32.toNat ∨
        ip.toNat % 2 ^ 32 = 0x9BFF6400 ∧ ip.toNat / 2 ^ 96 = ip32.toNat := by
    have := ip.isLt
    simp [FormOf, Tunnel, Ordinary, extract_eq_iff, mappedPrefix, nat64Prefix]
    omega
  rw [embeddedIpv4, forms]
  have := ip.isLt
  split
  next zero =>
    rw [iff_false_left noZero, zero]
    simp
  split
  next loop =>
    rw [iff_false_left noZero]
    simp [extract_eq_iff] at loop
    omega
  split
  next site =>
    rw [and_high_iff] at site
    split
    next tunnel =>
      simp [pipbuf, extract_eq_iff] at tunnel site ⊢
      omega
    next tunnel =>
      rw [iff_false_left noZero]
      simp [pipbuf, extract_eq_iff] at tunnel site
      omega
  next site =>
  rw [and_high_iff] at site
  split
  next mapped =>
    simp [pipbuf, extract_eq_iff] at mapped ⊢
    omega
  next mapped =>
  split
  next nat64 =>
    simp [pipbuf, extract_eq_iff] at nat64 ⊢
    omega
  next nat64 =>
    rw [iff_false_left noZero]
    simp [pipbuf, extract_eq_iff] at mapped nat64 site
    omega

lemma isEqual_cases (lhs rhs : GyIpAddr) : lhs.isEqual rhs = true ↔
    lhs.ip32Be = rhs.ip32Be ∧ (lhs.ip32Be ≠ 0 ∨ lhs.ip128Be = rhs.ip128Be) := by
  rw [isEqual]
  by_cases some : lhs.ip32Be ≠ 0 ∨ rhs.ip32Be ≠ 0
  · rw [if_pos some, decide_eq_true_eq]
    refine ⟨fun same => ⟨same, .inl ?_⟩, And.left⟩
    rw [← same, or_self] at some
    exact some
  · rw [if_neg some, decide_eq_true_eq]
    rw [not_or, not_not, not_not] at some
    refine ⟨fun same => ⟨some.1.trans some.2.symm, .inr same⟩, fun same => ?_⟩
    exact same.2.resolve_left (not_not_intro some.1)

/-- Addresses are equal when the words that are hashed are. -/
lemma isEqual_iff (lhs rhs : GyIpAddr) :
    lhs.isEqual rhs = true ↔ lhs.getAsInaddr = rhs.getAsInaddr := by
  rw [isEqual, getAsInaddr, getAsInaddr]
  by_cases left : lhs.ip32Be = 0#32
  · by_cases right : rhs.ip32Be = 0#32
    · have words : lhs.ip128Be = rhs.ip128Be ↔ ∀ start ∈ [0, 32, 64, 96],
          lhs.ip128Be.extractLsb' start 32 = rhs.ip128Be.extractLsb' start 32 := by
        have small := lhs.ip128Be.isLt
        have other := rhs.ip128Be.isLt
        refine ⟨fun same _ _ => by rw [same], fun same => ?_⟩
        simp [extract_eq_iff, Nat.shiftRight_eq_div_pow] at same
        apply BitVec.eq_of_toNat_eq
        omega
      simpa [left, right] using words
    · simp [left, right, Ne.symm right]
  · by_cases right : rhs.ip32Be = 0#32
    · simp [left, right]
    · simp [left, right]

/-- Two IPv6 addresses that are neither mapped nor NAT64 are compared right exactly if they are
not two addresses of a tunnel to the same IPv4 address; an IPv6 address equals an IPv4 address
only as its mapped or NAT64 form exactly if it is not another tunnel to it; equality is an
equivalence, and equal addresses have equal hashes. -/
theorem ip_identity (jhash2 : List (BitVec 32) → BitVec 32 → BitVec 32) :
    (∀ ip other, Ordinary ip → Ordinary other →
        (((ofIpv6 ip).isEqual (ofIpv6 other) = true ↔ ip = other) ↔
          ¬(ip ≠ other ∧ ∃ ip32 ≠ 0, Tunnel ip32 ip ∧ Tunnel ip32 other))) ∧
      (∀ ip ip32, ip ≠ 0 →
        (((ofIpv6 ip).isEqual (ofIpv4 ip32) = true → FormOf ip32 ip) ↔
          ¬(ip32 ≠ 0 ∧ Tunnel ip32 ip))) ∧
      Equivalence (fun lhs rhs : GyIpAddr => lhs.isEqual rhs = true) ∧
      ∀ lhs rhs : GyIpAddr, lhs.isEqual rhs = true → lhs.getHash jhash2 = rhs.getHash jhash2 := by
  refine ⟨fun ip other ordinary otherOrdinary => ?_, fun ip ip32 nonzero => ?_, ?_, ?_⟩
  · simp only [isEqual_cases, ofIpv6]
    constructor
    · rintro right ⟨differ, ip32, some, tunnel, otherTunnel⟩
      have embeds := (embedded_iff some).mpr (.inr tunnel)
      have embedsOther := (embedded_iff some).mpr (.inr otherTunnel)
      exact differ (right.mp ⟨embeds.trans embedsOther.symm, .inl (embeds ▸ some)⟩)
    · intro noTunnels
      refine ⟨?_, fun same => ⟨congrArg _ same, .inr same⟩⟩
      rintro ⟨same, or⟩
      by_contra differ
      have some := or.resolve_right differ
      refine noTunnels ⟨differ, _, some, ?_, ?_⟩
      · exact ((embedded_iff some).mp rfl).resolve_left fun form => form.1 ordinary
      · exact ((embedded_iff some).mp same.symm).resolve_left fun form => form.1 otherOrdinary
  · simp only [isEqual_cases, ofIpv6, ofIpv4]
    constructor
    · rintro isForm ⟨some, tunnel⟩
      have embeds := (embedded_iff some).mpr (.inr tunnel)
      exact (isForm ⟨embeds, .inl (embeds ▸ some)⟩).1 tunnel.1
    · rintro noTunnel ⟨embeds, or⟩
      have some : ip32 ≠ 0 := embeds ▸ or.resolve_right nonzero
      exact ((embedded_iff some).mp embeds).resolve_right fun tunnel => noTunnel ⟨some, tunnel⟩
  · simp only [isEqual_iff]
    exact ⟨fun _ => rfl, Eq.symm, Eq.trans⟩
  · intro lhs rhs same
    rw [getHash, getHash, (isEqual_iff lhs rhs).mp same]

/-- Two addresses of the 6to4 prefix `2002:102:304::/48` are equal, and equal to `1.2.3.4`. -/
theorem tunnels_equal : (ofIpv6 0x040302010220).isEqual (ofIpv6 (0x040302010220 ||| 1 <<< 127)) ∧
    (ofIpv6 0x040302010220).isEqual (ofIpv4 0x04030201) := by
  decide

end GyIpAddr

end Gyeeta.Misc
