import Gyeeta.Lib.Bytes

/-!
# Heap blocks

A heap of byte blocks.  A block is named by its place in the order of allocation and is
never reused, so a name that a program keeps after it gave the block away is visible as
such.
-/

namespace Gyeeta

open List

/-- A block: its usable size and the bytes written to it so far. -/
structure Block where
  cap : Nat
  bytes : Bytes
  deriving DecidableEq, Repr

/-- A pointer into a block; no block is the null pointer. -/
structure Ptr where
  block : Option Nat
  off : Nat
  deriving DecidableEq, Repr

/-- Pointer arithmetic. -/
def Ptr.add (ptr : Ptr) (count : Nat) : Ptr where
  block := ptr.block
  off := ptr.off + count

@[simp] lemma Ptr.add_block (ptr : Ptr) (count : Nat) : (ptr.add count).block = ptr.block :=
  rfl

@[simp] lemma Ptr.add_off (ptr : Ptr) (count : Nat) : (ptr.add count).off = ptr.off + count := rfl

namespace Bytes

/-- Overwrites the bytes at an offset. -/
def write (bytes : Bytes) (offset : Nat) (content : Bytes) : Bytes :=
  bytes.take offset ++ content ++ bytes.drop (offset + content.length)

variable {bytes : Bytes} {offset : Nat}

variable (content : Bytes)

lemma slice_write_behind {length : Nat} (inside : offset + length ≤ bytes.length) :
    slice (write bytes (offset + length) content) offset (length + content.length) =
      slice bytes offset length ++ content := by
  have front : (bytes.take (offset + length)).length = offset + length := by
    rw [length_take]
    omega
  rw [write, slice, slice, append_assoc, drop_append_of_le_length (by omega), drop_take]
  have rest : (List.take (offset + length - offset) (List.drop offset bytes)).length = length := by
    rw [length_take, length_drop]
    omega
  rw [take_append, rest, take_of_length_le (by omega), Nat.add_sub_cancel_left,
    Nat.add_sub_cancel_left, take_left]

lemma take_write (inside : offset ≤ bytes.length) :
    (write bytes offset content).take (offset + content.length) =
      bytes.take offset ++ content := by
  have read := slice_write_behind content (show 0 + offset ≤ bytes.length by omega)
  rw [slice_zero, slice_zero, Nat.zero_add] at read
  exact read

lemma length_write (inside : offset + content.length ≤ bytes.length) :
    (write bytes offset content).length = bytes.length := by
  simp only [write, length_append, length_take, length_drop]
  omega

lemma slice_write_before {skipped : Nat} (length : Nat)
    (inside : offset + content.length ≤ bytes.length) (behind : content.length ≤ skipped) :
    slice (write bytes offset content) (offset + skipped) length =
      slice bytes (offset + skipped) length := by
  have front : (bytes.take offset ++ content).length = offset + content.length := by
    rw [length_append, length_take]
    omega
  obtain ⟨extra, rfl⟩ := Nat.exists_eq_add_of_le behind
  rw [write, slice, slice, ← Nat.add_assoc, ← front, drop_length_add_append, front, drop_drop]

lemma slice_write_after {start length : Nat} (before : start + length ≤ offset)
    (inside : offset ≤ bytes.length) :
    slice (write bytes offset content) start length = slice bytes start length := by
  have front : (bytes.take offset).length = offset := by
    rw [length_take]
    omega
  rw [write, append_assoc, slice_append_left _ (by omega), slice, slice, drop_take,
    take_take, Nat.min_eq_left (by omega)]

end Bytes

/-- The blocks in the order of their allocation. -/
abbrev Heap := List Block

namespace Heap

/-- The bytes of a block, none for a name that was not allocated. -/
def bytesOf (heap : Heap) (block : Option Nat) : Bytes :=
  match block with
  | none => []
  | some name => (heap[name]?.map Block.bytes).getD []

/-- The usable size of a block, `0` for a name that was not allocated. -/
def capOf (heap : Heap) (name : Nat) : Nat :=
  (heap[name]?.map Block.cap).getD 0

/-- The bytes at a pointer. -/
def read (heap : Heap) (ptr : Ptr) (length : Nat) : Bytes :=
  (heap.bytesOf ptr.block).slice ptr.off length

/-- Writes bytes at a pointer; nothing happens at the null pointer. -/
def write (heap : Heap) (ptr : Ptr) (content : Bytes) : Heap :=
  match ptr.block with
  | none => heap
  | some name =>
    heap.modify name fun block => { block with bytes := block.bytes.write ptr.off content }

/-- A new block, whose name is the number of blocks before it. -/
def alloc (heap : Heap) (cap : Nat) (content : Bytes) : Heap :=
  heap ++ [⟨cap, content⟩]

@[simp] lemma length_write (heap : Heap) (ptr : Ptr) (content : Bytes) :
    (heap.write ptr content).length = heap.length := by
  rw [write]
  split
  · rfl
  · rw [length_modify]

@[simp] lemma length_alloc (heap : Heap) (cap : Nat) (content : Bytes) :
    (heap.alloc cap content).length = heap.length + 1 := by
  rw [alloc, length_append, length_singleton]

@[simp] lemma capOf_write (heap : Heap) (ptr : Ptr) (content : Bytes) (name : Nat) :
    (heap.write ptr content).capOf name = heap.capOf name := by
  rw [write]
  split
  · rfl
  rw [capOf, capOf, List.getElem?_modify]
  cases heap[name]? with
  | none => rfl
  | some block =>
    simp only [Option.map_some, Option.getD_some]
    split <;> rfl

variable {heap : Heap} {name : Nat}

lemma capOf_alloc (known : name < heap.length) (cap : Nat)
    (content : Bytes) : (heap.alloc cap content).capOf name = heap.capOf name := by
  rw [capOf, capOf, alloc, List.getElem?_append_left known]

@[simp] lemma capOf_alloc_new (heap : Heap) (cap : Nat) (content : Bytes) :
    (heap.alloc cap content).capOf heap.length = cap := by
  rw [capOf, alloc, List.getElem?_concat_length]
  rfl

@[simp] lemma bytesOf_alloc_new (heap : Heap) (cap : Nat) (content : Bytes) :
    (heap.alloc cap content).bytesOf (some heap.length) = content := by
  rw [bytesOf, alloc, List.getElem?_concat_length]
  rfl

lemma bytesOf_write {ptr : Ptr} (block : ptr.block = some name)
    (known : name < heap.length) (content : Bytes) : (heap.write ptr content).bytesOf (some name) =
      (heap.bytesOf (some name)).write ptr.off content := by
  simp only [write, block, bytesOf, List.getElem?_modify, List.getElem?_eq_getElem known,
    if_true, Option.map_some, Option.getD_some]
  rfl

/-! ## Reading what was written -/

lemma length_read (heap : Heap) (ptr : Ptr) (length : Nat) :
    (heap.read ptr length).length = min length ((heap.bytesOf ptr.block).length - ptr.off) :=
  Bytes.length_slice _ _ _

variable {length : Nat}

lemma inside_of_read {ptr : Ptr}
    (full : (heap.read ptr length).length = length) (some : 0 < length) :
    ptr.off + length ≤ (heap.bytesOf ptr.block).length := by
  rw [length_read] at full
  omega

lemma read_take (heap : Heap) (ptr : Ptr) {first : Nat} (inside : first ≤ length) :
    heap.read ptr first = (heap.read ptr length).take first := by
  rw [read, read, Bytes.slice, Bytes.slice, take_take, Nat.min_eq_left inside]

lemma read_add (heap : Heap) (ptr : Ptr) {first : Nat} (inside : first ≤ length) :
    heap.read ptr length = heap.read ptr first ++ heap.read (ptr.add first) (length - first) := by
  obtain ⟨second, rfl⟩ := Nat.exists_eq_add_of_le inside
  rw [read, read, read, Bytes.slice, Bytes.slice, Bytes.slice, Ptr.add_off, Ptr.add_block,
    Nat.add_sub_cancel_left, ← drop_drop, take_add]

variable {heap : Heap} {ptr : Ptr} {name : Nat}

lemma read_write_behind (block : ptr.block = some name) (known : name < heap.length)
    (inside : ptr.off + length ≤ (heap.bytesOf ptr.block).length) (content : Bytes) :
    (heap.write (ptr.add length) content).read ptr (length + content.length) =
      heap.read ptr length ++ content := by
  have addBlock : (ptr.add length).block = some name := block
  rw [block] at inside
  rw [read, read, block, bytesOf_write addBlock known]
  exact Bytes.slice_write_behind content inside

lemma read_write_over (block : ptr.block = some name) (known : name < heap.length)
    {content : Bytes} (fits : content.length ≤ length)
    (inside : ptr.off + length ≤ (heap.bytesOf ptr.block).length) :
    (heap.write ptr content).read ptr length =
      content ++ heap.read (ptr.add content.length) (length - content.length) := by
  rw [block] at inside
  rw [read_add _ _ fits]
  congr 1
  · rw [read, block, bytesOf_write block known]
    have written := Bytes.slice_write_behind content
      (show ptr.off + 0 ≤ (heap.bytesOf (some name)).length by omega)
    rwa [Nat.zero_add, Nat.add_zero, Bytes.slice_none, nil_append] at written
  · rw [read, read, Ptr.add_block, Ptr.add_off, block, bytesOf_write block known]
    exact Bytes.slice_write_before content _ (by omega) (Nat.le_refl _)

end Heap

end Gyeeta
