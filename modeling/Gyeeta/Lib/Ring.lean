import Mathlib.Data.List.Basic

/-!
# Rings of cells

A ring of `size` cells is used from a start cell on, and goes on with its first cell after
its last one.  `Holds` says which contents the cells have, in that order; the cells behind
the contents are empty.
-/

namespace Gyeeta.Ring

open List

/-- The cell after a cell. -/
def next (size cell : Nat) : Nat :=
  if cell + 1 = size then 0 else cell + 1

/-- The cell at a distance from the start cell. -/
def index (size start offset : Nat) : Nat :=
  if start + offset < size then start + offset else start + offset - size

variable {size start offset : Nat}

@[simp] lemma index_zero (inside : start < size) : index size start 0 = start := by
  rw [index, Nat.add_zero, if_pos inside]

lemma next_lt (inside : start < size) : next size start < size := by
  rw [next]
  split <;> omega

lemma index_injective {other : Nat} (near : offset < size) (otherNear : other < size)
    (same : index size start offset = index size start other) : offset = other := by
  simp only [index] at same
  split at same <;> split at same <;> omega

lemma next_index (inside : start < size) (near : offset + 1 < size) :
    next size (index size start offset) = index size start (offset + 1) := by
  simp only [next, index]
  split_ifs <;> omega

lemma index_next (near : offset + 1 < size) :
    index size (next size start) offset = index size start (offset + 1) := by
  simp only [next, index]
  split_ifs <;> omega

lemma index_next_last (inside : start < size) :
    index size (next size start) (size - 1) = start := by
  simp only [next, index]
  split_ifs <;> omega

variable {α : Type}

/-- The cells from the start on have the contents, and are empty behind them. -/
def Holds (cells : Nat → α) (size start : Nat) (empty : α) (contents : List α) : Prop :=
  ∀ offset < size, cells (index size start offset) = contents.getD offset empty

variable {cells : Nat → α} {empty : α} {contents : List α}

lemma Holds.set (holds : Holds cells size start empty contents)
    (near : offset < size) (present : offset < contents.length) (value : α) :
    Holds (fun cell => if cell = index size start offset then value else cells cell) size start
      empty (contents.set offset value) := by
  intro other otherNear
  dsimp only
  by_cases isOffset : other = offset
  · rw [isOffset, if_pos rfl, getD_eq_getElem?_getD, List.getElem?_set_self present]
    rfl
  · rw [if_neg fun same => isOffset (index_injective otherNear near same),
      holds other otherNear, getD_eq_getElem?_getD, getD_eq_getElem?_getD,
      List.getElem?_set_ne (Ne.symm isOffset)]

lemma Holds.push_empty (holds : Holds cells size start empty contents) :
    Holds cells size start empty (contents ++ [empty]) := by
  intro offset near
  rw [holds offset near, getD_eq_getElem?_getD, getD_eq_getElem?_getD]
  rcases Nat.lt_trichotomy offset contents.length with inside | isEnd | beyond
  · rw [List.getElem?_append_left inside]
  · rw [isEnd, List.getElem?_concat_length, List.getElem?_eq_none (Nat.le_refl _)]
    rfl
  · rw [List.getElem?_eq_none (by omega), List.getElem?_eq_none]
    rw [length_append, length_singleton]
    omega

lemma Holds.advance (holds : Holds cells size start empty (empty :: contents))
    (inside : start < size) (short : contents.length < size) :
    Holds cells size (next size start) empty contents := by
  intro offset near
  by_cases isLast : offset + 1 = size
  · have last : offset = size - 1 := by omega
    have first := holds 0 (by omega)
    rw [index_zero inside] at first
    rw [last, index_next_last inside, first, getD_cons_zero,
      getD_eq_getElem?_getD, List.getElem?_eq_none (by omega), Option.getD_none]
  · rw [index_next (by omega), holds (offset + 1) (by omega)]
    rfl

lemma Holds.flatMap {β : Type} (holds : Holds cells size start empty contents)
    (short : contents.length ≤ size) {walk : α → List β} (skips : walk empty = []) :
    (List.range size).flatMap (fun offset => walk (cells (index size start offset))) =
      contents.flatMap walk := by
  have atOffset : ∀ contents : List α, ∀ size, contents.length ≤ size →
      (List.range size).flatMap (fun offset => walk (contents.getD offset empty)) =
        contents.flatMap walk := by
    intro contents
    induction contents with
    | nil =>
      intro size _
      rw [flatMap_nil, flatMap_eq_nil_iff]
      exact fun _ _ => skips
    | cons value contents ih =>
      intro size short
      rw [length_cons] at short
      obtain ⟨rest, rfl⟩ : ∃ rest, size = rest + 1 := ⟨size - 1, by omega⟩
      rw [range_succ_eq_map, flatMap_cons, flatMap_cons, flatMap_map, ← ih rest (by omega)]
      rfl
  rw [← atOffset contents size short, flatMap_def, flatMap_def]
  congr 1
  apply map_congr_left
  intro offset mem
  rw [holds offset (mem_range.mp mem)]

end Gyeeta.Ring
