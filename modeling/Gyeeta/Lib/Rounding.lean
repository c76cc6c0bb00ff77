import Mathlib.Tactic.Ring

/-!
# Division rounded up

How many parts of a given size a number of units needs: enough parts, and not one part more.
-/

namespace Gyeeta

/-- The quotient, rounded up. -/
def divRoundUp (val div : Nat) : Nat :=
  val / div + if val % div = 0 then 0 else 1

lemma le_divRoundUp_mul (val : Nat) {div : Nat} (pos : 0 < div) :
    val ≤ divRoundUp val div * div := by
  have split := Nat.div_add_mod val div
  have small := Nat.mod_lt val pos
  rw [divRoundUp, Nat.add_mul, Nat.mul_comm (val / div)]
  by_cases exact : val % div = 0
  · rw [if_pos exact]
    omega
  · rw [if_neg exact, Nat.one_mul]
    omega

lemma lt_of_lt_divRoundUp {val div parts : Nat} (pos : 0 < div)
    (fewer : parts < divRoundUp val div) : parts * div < val := by
  have split := Nat.div_add_mod val div
  rw [divRoundUp] at fewer
  by_cases exact : val % div = 0
  · rw [if_pos exact, Nat.add_zero] at fewer
    rw [exact, Nat.add_zero] at split
    rw [← split, Nat.mul_comm div]
    exact Nat.mul_lt_mul_of_pos_right fewer pos
  · rw [if_neg exact] at fewer
    have le : parts * div ≤ val / div * div := Nat.mul_le_mul_right div (by omega)
    rw [Nat.mul_comm (val / div)] at le
    omega

lemma divRoundUp_le {val more div : Nat} (pos : 0 < div) (le : val ≤ more) :
    divRoundUp val div ≤ divRoundUp more div := by
  by_contra fewer
  have needed := lt_of_lt_divRoundUp pos (Nat.not_le.mp fewer)
  have enough := le_divRoundUp_mul more pos
  omega

end Gyeeta
