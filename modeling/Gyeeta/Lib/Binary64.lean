import Mathlib.Data.Int.Log

/-!
# Integers in the binary64 format

The 64 bits of a floating point number: a sign, eleven bits of exponent biased by 1023 and 52
bits of fraction.  Every integer below `2 ^ 53` in magnitude has an encoding that is read back
exactly; a larger one loses its low bits.
-/

namespace Gyeeta.Binary64

def exponent (bits : BitVec 64) : Nat :=
  bits.toNat / 2 ^ 52 % 2048

/-- The fraction with its leading one, `2 ^ 52` times the number between 1 and 2. -/
def significand (bits : BitVec 64) : Nat :=
  2 ^ 52 + bits.toNat % 2 ^ 52

/-- The magnitude without its part behind the point. -/
def magnitude (bits : BitVec 64) : Nat :=
  if exponent bits < 1023 then 0
  else significand bits * 2 ^ (exponent bits - 1023) / 2 ^ 52

/-- The number without its part behind the point. -/
def truncate (bits : BitVec 64) : Int :=
  if bits.msb then -(magnitude bits : Int) else magnitude bits

/-- Nothing stands behind the point. -/
def isIntegral (bits : BitVec 64) : Bool :=
  if exponent bits < 1023 then bits.toNat % 2 ^ 63 = 0
  else significand bits * 2 ^ (exponent bits - 1023) % 2 ^ 52 = 0

/-- The bits of a magnitude: the sign, the exponent and the fraction. -/
def encodeNat (negative : Bool) (magnitude : Nat) : BitVec 64 :=
  BitVec.ofNat 64 (negative.toNat * 2 ^ 63 + (1023 + magnitude.log2) * 2 ^ 52 +
    (magnitude * 2 ^ 52 / 2 ^ magnitude.log2 - 2 ^ 52))

/-- The bits of an integer. -/
def encode (number : Int) : BitVec 64 :=
  if number = 0 then 0 else encodeNat (decide (number < 0)) number.natAbs

section

variable (negative : Bool) {number : Nat} (pos : number ≠ 0) (small : number < 2 ^ 53)

include pos small

lemma scaled_bounds : number.log2 ≤ 52 ∧ 2 ^ 52 ≤ number * 2 ^ 52 / 2 ^ number.log2 ∧
      number * 2 ^ 52 / 2 ^ number.log2 < 2 ^ 53 ∧
      number * 2 ^ 52 / 2 ^ number.log2 * 2 ^ number.log2 = number * 2 ^ 52 := by
  have lower : 2 ^ number.log2 ≤ number := Nat.log2_self_le pos
  have upper : number < 2 ^ (number.log2 + 1) := Nat.lt_log2_self
  have logLe : number.log2 ≤ 52 := by
    have := (Nat.log2_lt pos).mpr small
    omega
  have split : (2 : Nat) ^ 52 = 2 ^ (52 - number.log2) * 2 ^ number.log2 := by
    rw [← Nat.pow_add]
    congr 1
    omega
  have positive : 0 < 2 ^ number.log2 := Nat.two_pow_pos _
  have scaled : number * 2 ^ 52 / 2 ^ number.log2 = number * 2 ^ (52 - number.log2) := by
    rw [split, ← Nat.mul_assoc, Nat.mul_div_cancel _ positive]
  have positive' : 0 < 2 ^ (52 - number.log2) := Nat.two_pow_pos _
  refine ⟨logLe, ?_, ?_, ?_⟩
  · rw [scaled, split, Nat.mul_comm]
    exact Nat.mul_le_mul_right _ lower
  · have double : (2 : Nat) ^ 53 = 2 ^ (number.log2 + 1) * 2 ^ (52 - number.log2) := by
      rw [← Nat.pow_add]
      congr 1
      omega
    rw [scaled, double]
    exact Nat.mul_lt_mul_of_pos_right upper positive'
  · rw [scaled, Nat.mul_assoc, ← split]

lemma fields_encodeNat : exponent (encodeNat negative number) = 1023 + number.log2 ∧
      significand (encodeNat negative number) = number * 2 ^ 52 / 2 ^ number.log2 ∧
      (encodeNat negative number).msb = negative := by
  obtain ⟨logLe, lower, upper, -⟩ := scaled_bounds pos small
  have sign : negative.toNat ≤ 1 := Bool.toNat_le negative
  have bits : (encodeNat negative number).toNat = negative.toNat * 2 ^ 63 +
      (1023 + number.log2) * 2 ^ 52 + (number * 2 ^ 52 / 2 ^ number.log2 - 2 ^ 52) := by
    rw [encodeNat, BitVec.toNat_ofNat]
    apply Nat.mod_eq_of_lt
    omega
  refine ⟨?_, ?_, ?_⟩
  · rw [exponent, bits]
    omega
  · rw [significand, bits]
    omega
  rw [BitVec.msb_eq_decide, bits]
  cases negative with
  | false =>
    rw [Bool.toNat_false]
    exact decide_eq_false (by omega)
  | true =>
    rw [Bool.toNat_true]
    exact decide_eq_true (by omega)

lemma magnitude_encodeNat : magnitude (encodeNat negative number) = number ∧
      isIntegral (encodeNat negative number) = true := by
  obtain ⟨exponentEq, significandEq, -⟩ := fields_encodeNat negative pos small
  obtain ⟨-, -, -, exact⟩ := scaled_bounds pos small
  have large : ¬1023 + number.log2 < 1023 := by omega
  have shift : 1023 + number.log2 - 1023 = number.log2 := by omega
  constructor
  · rw [magnitude, exponentEq, significandEq, if_neg large, shift, exact]
    exact Nat.mul_div_cancel _ (Nat.two_pow_pos 52)
  · rw [isIntegral, exponentEq, significandEq, if_neg large, shift, exact]
    exact decide_eq_true (Nat.mul_mod_left _ _)

end

lemma truncate_encode {number : Int} (small : number.natAbs < 2 ^ 53) :
    truncate (encode number) = number ∧ isIntegral (encode number) = true := by
  by_cases zero : number = 0
  · subst zero
    exact ⟨by decide, by decide⟩
  have pos : number.natAbs ≠ 0 := Int.natAbs_ne_zero.mpr zero
  have fields := fields_encodeNat (decide (number < 0)) pos small
  have value := magnitude_encodeNat (decide (number < 0)) pos small
  rw [encode, if_neg zero]
  refine ⟨?_, value.2⟩
  rw [truncate, fields.2.2, value.1]
  by_cases negative : number < 0
  · simp only [negative, decide_true, if_true]
    omega
  · simp only [negative, decide_false, Bool.false_eq_true, if_false]
    omega

end Gyeeta.Binary64
