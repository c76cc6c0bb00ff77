import Mathlib.Data.List.Basic
import Mathlib.Tactic.Ring

/-!
# 32-bit serial number arithmetic

Sequence numbers wrap around at `2 ^ 32`.  Ordering them by the sign of a 32-bit difference is
right as long as they lie within half of the range of each other.  The difference is given for
offsets from one base.
-/

namespace Gyeeta.Serial

/-- Signed distance from `right` to `left`, as `(int)(left - right)` computes it
for two unsigned 32-bit numbers. -/
def diff (left right : BitVec 32) : Int :=
  (left - right).toInt

@[simp] lemma diff_self (value : BitVec 32) : diff value value = 0 := by
  simp [diff]

variable {right left : BitVec 32}

lemma diff_eq_zero_iff : diff left right = 0 ↔ left = right := by
  constructor
  · intro zero
    have subZero : left - right = 0#32 := by
      apply BitVec.eq_of_toInt_eq
      simpa [diff] using zero
    have restored := congrArg (· + right) subZero
    simpa [BitVec.sub_add_cancel] using restored
  · rintro rfl
    exact diff_self left

lemma toInt_ofNat_small {value : Nat} (small : value < 2 ^ 31) :
    (BitVec.ofNat 32 value).toInt = (value : Int) := by
  rw [BitVec.toInt_eq_toNat_of_lt]
  · rw [BitVec.toNat_ofNat, Nat.mod_eq_of_lt (by omega)]
  · rw [BitVec.toNat_ofNat, Nat.mod_eq_of_lt (by omega)]
    omega

lemma diff_add_ofNat (base : BitVec 32) {left right : Nat}
    (leftSmall : left < 2 ^ 31) (rightSmall : right < 2 ^ 31) :
    diff (base + BitVec.ofNat 32 left) (base + BitVec.ofNat 32 right) =
      (left : Int) - (right : Int) := by
  have cancel : base + BitVec.ofNat 32 left - (base + BitVec.ofNat 32 right) =
      BitVec.ofNat 32 left - BitVec.ofNat 32 right := by
    bv_omega
  rw [diff, cancel, BitVec.toInt_sub, toInt_ofNat_small leftSmall, toInt_ofNat_small rightSmall]
  apply Int.bmod_eq_of_le <;> omega

lemma diff_swap (apart : diff left right ≠ -2 ^ 31) :
    diff right left = -diff left right := by
  have negated : right - left = -(left - right) := by bv_omega
  have notMin : left - right ≠ BitVec.intMin 32 := by
    intro isMin
    apply apart
    rw [diff, isMin]
    decide
  rw [diff, negated, BitVec.toInt_neg_of_ne_intMin notMin, diff]

lemma diff_add_of_nonneg {steps : Nat}
    (ahead : 0 ≤ diff left right) (small : diff left right + steps < 2 ^ 31) :
    diff (left + BitVec.ofNat 32 steps) right = diff left right + steps := by
  have moved : left + BitVec.ofNat 32 steps - right =
      left - right + BitVec.ofNat 32 steps := by bv_omega
  rw [diff] at ahead small ⊢
  rw [moved, BitVec.toInt_add, toInt_ofNat_small (by omega), diff]
  apply Int.bmod_eq_of_le <;> omega

lemma diff_add_right (left right offset : BitVec 32) :
    diff (left + offset) (right + offset) = diff left right := by
  have cancel : left + offset - (right + offset) = left - right := by bv_omega
  rw [diff, cancel, diff]

end Gyeeta.Serial
