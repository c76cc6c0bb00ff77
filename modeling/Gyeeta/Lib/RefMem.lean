import Mathlib.Logic.Function.Basic
import Gyeeta.Lib.Heap

/-!
# Reference-counted memory

Memory blocks that several owners share.  A block is freed when its last reference is
given back; reading a freed block returns nothing.  Block names are not reused.
-/

namespace Gyeeta

open List Function Bytes Ptr

/-- A block and the number of references to it. -/
structure CountedBlock where
  bytes : Bytes
  refs : Nat
  deriving DecidableEq, Repr

/-- The blocks by name; names below `next` have been allocated. -/
structure RefMem where
  blocks : Nat → CountedBlock
  next : Nat

namespace RefMem

def empty : RefMem where
  blocks := fun _ => ⟨[], 0⟩
  next := 0

/-- The bytes of a block, none for the null pointer. -/
def bytesOf (mem : RefMem) (block : Option Nat) : Bytes :=
  match block with
  | none => []
  | some name => (mem.blocks name).bytes

/-- The bytes at a pointer. -/
def read (mem : RefMem) (ptr : Ptr) (length : Nat) : Bytes :=
  (mem.bytesOf ptr.block).slice ptr.off length

/-- A new block with one reference. -/
def alloc (mem : RefMem) (content : Bytes) : RefMem where
  blocks := update mem.blocks mem.next ⟨content, 1⟩
  next := mem.next + 1

/-- One more reference; nothing happens at the null pointer. -/
def addRef (mem : RefMem) (block : Option Nat) : RefMem :=
  match block with
  | none => mem
  | some name =>
    { mem with
      blocks := update mem.blocks name
        { mem.blocks name with refs := (mem.blocks name).refs + 1 } }

/-- One reference less; the block is freed with its last reference. -/
def subRef (mem : RefMem) (block : Option Nat) : RefMem :=
  match block with
  | none => mem
  | some name =>
    { mem with
      blocks := update mem.blocks name
        { bytes := if (mem.blocks name).refs ≤ 1 then [] else (mem.blocks name).bytes
          refs := (mem.blocks name).refs - 1 } }

/-- Moves the `length` bytes that lie `skipped` bytes behind a pointer to the pointer. -/
def move (mem : RefMem) (ptr : Ptr) (skipped length : Nat) : RefMem :=
  match ptr.block with
  | none => mem
  | some name =>
    { mem with
      blocks := update mem.blocks name
        { mem.blocks name with
          bytes := (mem.blocks name).bytes.write ptr.off
            (mem.read (ptr.add skipped) length) } }

/-- A pointer and a length that lie inside a block. -/
def Inside (mem : RefMem) (ptr : Ptr) (length : Nat) : Prop :=
  ptr.off + length ≤ (mem.bytesOf ptr.block).length

instance (mem : RefMem) (ptr : Ptr) (length : Nat) : Decidable (mem.Inside ptr length) :=
  inferInstanceAs (Decidable (_ ≤ _))

variable {mem : RefMem} {ptr : Ptr} {length : Nat}

lemma length_read (inside : mem.Inside ptr length) : (mem.read ptr length).length = length := by
  rw [Inside] at inside
  rw [read, length_slice]
  omega

@[simp] lemma read_zero (mem : RefMem) (ptr : Ptr) : mem.read ptr 0 = [] :=
  slice_none _ _

lemma read_add (mem : RefMem) (ptr : Ptr) {first length : Nat} (within : first ≤ length) :
    mem.read ptr length = mem.read ptr first ++ mem.read (ptr.add first) (length - first) := by
  obtain ⟨second, rfl⟩ := Nat.exists_eq_add_of_le within
  rw [read, read, read, slice, slice, slice, add_off, add_block,
    Nat.add_sub_cancel_left, ← drop_drop, take_add]

/-! ## References -/

@[simp] lemma bytesOf_addRef (mem : RefMem) (block other : Option Nat) :
    (mem.addRef block).bytesOf other = mem.bytesOf other := by
  cases block with
  | none => rfl
  | some name =>
    cases other with
    | none => rfl
    | some other =>
      simp only [addRef, bytesOf, update_apply]
      split
      · next same => rw [same]
      · rfl

section

variable (mem) (block : Option Nat)
include mem block

@[simp] lemma next_addRef : (mem.addRef block).next = mem.next := by
  cases block <;> rfl

@[simp] lemma next_subRef : (mem.subRef block).next = mem.next := by
  cases block <;> rfl

lemma refs_addRef (name : Nat) : ((mem.addRef block).blocks name).refs =
      (mem.blocks name).refs + if block = some name then 1 else 0 := by
  cases block with
  | none => rfl
  | some other =>
    simp only [addRef, update_apply, Option.some.injEq, eq_comm (a := other)]
    split
    · next same => rw [same]
    · rfl

lemma refs_subRef (name : Nat) : ((mem.subRef block).blocks name).refs =
      (mem.blocks name).refs - if block = some name then 1 else 0 := by
  cases block with
  | none => rfl
  | some other =>
    simp only [subRef, update_apply, Option.some.injEq, eq_comm (a := other)]
    split
    · next same => rw [same]
    · rfl

lemma bytesOf_subRef {name : Nat} (left : 0 < ((mem.subRef block).blocks name).refs) :
    (mem.subRef block).bytesOf (some name) = mem.bytesOf (some name) := by
  cases block with
  | none => rfl
  | some other =>
    by_cases same : name = other
    · subst same
      simp only [subRef, update_self] at left
      have shared : ¬ (mem.blocks name).refs ≤ 1 := by omega
      simp only [subRef, bytesOf, update_self, if_neg shared]
    · simp only [subRef, bytesOf, update_of_ne same]

end

/-! ## Allocation -/

lemma refs_alloc (mem : RefMem) (content : Bytes) (name : Nat) :
    ((mem.alloc content).blocks name).refs =
      if name = mem.next then 1 else (mem.blocks name).refs := by
  simp only [alloc, update_apply]
  split <;> rfl

lemma bytesOf_alloc (mem : RefMem) (content : Bytes) {name : Nat} (other : name ≠ mem.next) :
    (mem.alloc content).bytesOf (some name) = mem.bytesOf (some name) := by
  simp only [alloc, bytesOf, update_of_ne other]

/-! ## Moves -/

@[simp] lemma next_move (mem : RefMem) (ptr : Ptr) (skipped length : Nat) :
    (mem.move ptr skipped length).next = mem.next := by
  rw [move]
  split <;> rfl

@[simp] lemma refs_move (mem : RefMem) (ptr : Ptr) (skipped length name : Nat) :
    ((mem.move ptr skipped length).blocks name).refs = (mem.blocks name).refs := by
  rw [move]
  split
  · rfl
  · simp only [update_apply]
    split
    · next same => rw [same]
    · rfl

lemma bytesOf_move_ne {other : Option Nat} (ne : other ≠ ptr.block)
    (skipped length : Nat) : (mem.move ptr skipped length).bytesOf other = mem.bytesOf other := by
  rw [move]
  split
  · rfl
  next name named =>
  cases other with
  | none => rfl
  | some other =>
    rw [named] at ne
    simp only [bytesOf, update_of_ne (fun same => ne (congrArg some same))]

lemma bytesOf_move (named : ptr.block ≠ none) (skipped length : Nat) :
    (mem.move ptr skipped length).bytesOf ptr.block =
      (mem.bytesOf ptr.block).write ptr.off (mem.read (ptr.add skipped) length) := by
  cases block : ptr.block with
  | none => exact absurd block named
  | some name => simp only [move, block, bytesOf, update_self]

variable {skipped : Nat}

section

variable (inside : mem.Inside ptr (skipped + length))
include inside

lemma length_move (other : Option Nat) :
    ((mem.move ptr skipped length).bytesOf other).length = (mem.bytesOf other).length := by
  by_cases same : other = ptr.block
  · subst same
    cases block : ptr.block with
    | none => rfl
    | some name =>
      have read : (mem.read (ptr.add skipped) length).length = length :=
        length_read (by rw [Inside, add_off, add_block]; rw [Inside] at inside; omega)
      rw [Inside] at inside
      rw [← block, bytesOf_move (by rw [block]; exact Option.some_ne_none _), write,
        length_append, length_append, length_take, length_drop, read]
      omega
  · rw [bytesOf_move_ne same]

lemma read_move_self :
    (mem.move ptr skipped length).read ptr length = mem.read (ptr.add skipped) length := by
  cases block : ptr.block with
  | none =>
    rw [Inside, block, bytesOf, length_nil] at inside
    obtain rfl : length = 0 := by omega
    rw [read_zero, read_zero]
  | some name =>
    have moved : (mem.read (ptr.add skipped) length).length = length :=
      length_read (by rw [Inside, add_off, add_block]; rw [Inside] at inside; omega)
    rw [Inside] at inside
    have front : ((mem.bytesOf ptr.block).take ptr.off).length = ptr.off := by
      rw [length_take]
      omega
    rw [read, bytesOf_move (by rw [block]; exact Option.some_ne_none _), write,
      slice, append_assoc, drop_left' front]
    exact take_left' moved

lemma read_move_apart {other : Ptr} {room : Nat}
    (apart : other.block = ptr.block →
      room = 0 ∨ ptr.off + length ≤ other.off ∨ other.off + room ≤ ptr.off) :
    (mem.move ptr skipped length).read other room = mem.read other room := by
  by_cases same : other.block = ptr.block
  · cases block : ptr.block with
    | none => simp only [move, block]
    | some name =>
      have moved : (mem.read (ptr.add skipped) length).length = length :=
        length_read (by rw [Inside, add_off, add_block]; rw [Inside] at inside; omega)
      rw [Inside] at inside
      rw [read, read, same, bytesOf_move (by rw [block]; exact Option.some_ne_none _)]
      rcases apart same with rfl | behind | before
      · rw [slice_none, slice_none]
      · obtain ⟨skip, offset⟩ := Nat.exists_eq_add_of_le behind
        rw [offset, Nat.add_assoc, slice_write_before _ _ (by omega) (by omega)]
      · exact slice_write_after _ before (by omega)
  · rw [read, read, bytesOf_move_ne same]

end

end RefMem

end Gyeeta
