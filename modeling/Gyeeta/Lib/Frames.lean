import Mathlib.Data.List.TakeDrop

/-!
# Framed streams

A sender writes one frame after the other; the receiver has got the first bytes of that
stream.  `complete` and `rest` say what these are: the frames that are complete, and the
first part of the next one.
-/

namespace Gyeeta.Frames

open List

variable {Byte : Type}

/-- The frames that lie in the first `count` bytes. -/
def complete : List (List Byte) → Nat → List (List Byte)
  | [], _ => []
  | frame :: frames, count =>
    if frame.length ≤ count then frame :: complete frames (count - frame.length) else []

/-- The part of the next frame in the first `count` bytes. -/
def rest : List (List Byte) → Nat → List Byte
  | [], _ => []
  | frame :: frames, count =>
    if frame.length ≤ count then rest frames (count - frame.length) else frame.take count

/-- A part of the frames to come that is shorter than the next one. -/
structure IsRest (todo : List (List Byte)) (part : List Byte) : Prop where
  isFront : part <+: todo.flatten
  isShort : ∀ frame frames, todo = frame :: frames → part.length < frame.length

lemma append_spec {done todo : List (List Byte)} {part : List Byte} (isRest : IsRest todo part) :
    complete (done ++ todo) (done.flatten.length + part.length) = done ∧
      rest (done ++ todo) (done.flatten.length + part.length) = part := by
  induction done with
  | nil =>
    cases todo with
    | nil => exact ⟨rfl, (prefix_nil.mp isRest.isFront).symm⟩
    | cons frame frames =>
      have short := isRest.isShort frame frames rfl
      have front := prefix_iff_eq_take.mp isRest.isFront
      rw [flatten_cons, take_append_of_le_length (Nat.le_of_lt short)] at front
      simp only [nil_append, complete, rest, flatten_nil, length_nil, Nat.zero_add]
      rw [if_neg (by omega), if_neg (by omega)]
      exact ⟨rfl, front.symm⟩
  | cons frame done ih =>
    simp only [cons_append, complete, rest, flatten_cons, length_append]
    rw [if_pos (by omega), if_pos (by omega), Nat.add_assoc, Nat.add_sub_cancel_left, ih.1]
    exact ⟨rfl, ih.2⟩

end Gyeeta.Frames
