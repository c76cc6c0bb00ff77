import Mathlib.Data.Int.Bitwise

/-!
# Two's complement words

An integer wrapped to a width, and the operations on words as wrapped operations on integers.  An
operation that is carried out in a wide word and stored in a narrow one wraps its exact result
once.
-/

namespace Gyeeta.Words

variable {narrow wide : Nat}

lemma setWidth_ofInt (le : narrow ≤ wide) (value : Int) :
    (BitVec.ofInt wide value).setWidth narrow = BitVec.ofInt narrow value := by
  apply BitVec.eq_of_toNat_eq
  rw [BitVec.toNat_setWidth, BitVec.toNat_ofInt, BitVec.toNat_ofInt]
  have divides : ((2 ^ narrow : Nat) : Int) ∣ ((2 ^ wide : Nat) : Int) :=
    Int.natCast_dvd_natCast.mpr (Nat.pow_dvd_pow 2 le)
  have nonneg : 0 ≤ value % ((2 ^ wide : Nat) : Int) :=
    Int.emod_nonneg _ (Int.natCast_ne_zero.mpr (Nat.pos_iff_ne_zero.mp (Nat.two_pow_pos wide)))
  rw [← Int.emod_emod_of_dvd value divides, Int.toNat_emod nonneg (Int.natCast_nonneg _),
    Int.toNat_natCast]

lemma getLsbD_ofInt (width : Nat) (value : Int) (index : Nat) :
    (BitVec.ofInt width value).getLsbD index = (decide (index < width) && value.testBit index) := by
  cases value with
  | ofNat number =>
    rw [Int.ofNat_eq_natCast, BitVec.ofInt_natCast, BitVec.getLsbD_ofNat]
    rfl
  | negSucc number =>
    rw [BitVec.ofInt_negSucc_eq_not_ofNat, BitVec.getLsbD_not, BitVec.getLsbD_ofNat]
    by_cases inside : index < width
    · simp [inside, Int.testBit]
    · simp [inside]

lemma ofInt_land (width : Nat) (left right : Int) :
    BitVec.ofInt width (left.land right) =
      BitVec.ofInt width left &&& BitVec.ofInt width right := by
  apply BitVec.eq_of_getLsbD_eq
  intro index inside
  simp only [BitVec.getLsbD_and, getLsbD_ofInt, Int.testBit_land, inside, decide_true,
    Bool.true_and]

lemma ofInt_lor (width : Nat) (left right : Int) :
    BitVec.ofInt width (left.lor right) = BitVec.ofInt width left ||| BitVec.ofInt width right := by
  apply BitVec.eq_of_getLsbD_eq
  intro index inside
  simp only [BitVec.getLsbD_or, getLsbD_ofInt, Int.testBit_lor, inside, decide_true, Bool.true_and]

lemma sdiv_eq_ofInt {width : Nat} (left right : BitVec width) :
    left.sdiv right = BitVec.ofInt width (left.toInt.tdiv right.toInt) := by
  apply BitVec.eq_of_toInt_eq
  rw [BitVec.toInt_sdiv, BitVec.toInt_ofInt]

lemma srem_eq_ofInt {width : Nat} (left right : BitVec width) :
    left.srem right = BitVec.ofInt width (left.toInt.tmod right.toInt) := by
  rw [← BitVec.toInt_srem, BitVec.ofInt_toInt]

/-- A wider word whose low bits are replaced. -/
def store {wide narrow : Nat} (word : BitVec wide) (value : BitVec narrow) : BitVec wide :=
  word >>> narrow <<< narrow ||| value.setWidth wide

lemma getLsbD_store (word : BitVec wide) (value : BitVec narrow)
    (index : Nat) (inside : index < wide) : (store word value).getLsbD index =
      if index < narrow then value.getLsbD index else word.getLsbD index := by
  by_cases low : index < narrow
  · simp [store, low, inside]
  · have high : narrow + (index - narrow) = index := by omega
    simp [store, low, inside, high, BitVec.getLsbD_of_ge value index (by omega)]

lemma setWidth_store (le : narrow ≤ wide) (word : BitVec wide)
    (value : BitVec narrow) : (store word value).setWidth narrow = value := by
  apply BitVec.eq_of_getLsbD_eq
  intro index inside
  rw [BitVec.getLsbD_setWidth, getLsbD_store word value index (by omega), if_pos inside]
  simp [inside]

end Gyeeta.Words
