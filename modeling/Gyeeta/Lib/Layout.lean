import Gyeeta.Lib.Bytes

/-!
# Records with variable parts

A record is a structure of fixed size, whose fields hold the numbers of entries of the parts that
follow it.  A reader finds the next record behind the last part of the current one, and may
terminate the strings of a record in place.
-/

namespace Gyeeta

open List

namespace Bytes

/-- The string with zeros at the given positions. -/
def zeroAt (bytes : Bytes) (positions : List Nat) : Bytes :=
  positions.foldl (fun bytes position => bytes.set position 0) bytes

@[simp] lemma length_zeroAt (bytes : Bytes) (positions : List Nat) :
    (bytes.zeroAt positions).length = bytes.length := by
  induction positions generalizing bytes with
  | nil => rfl
  | cons position positions ih =>
    exact (ih _).trans length_set

variable {positions : List Nat}

variable {bytes : Bytes} {stop : Nat}

lemma take_zeroAt (behind : ∀ position ∈ positions, stop ≤ position) :
    (bytes.zeroAt positions).take stop = bytes.take stop := by
  induction positions generalizing bytes with
  | nil => rfl
  | cons position positions ih =>
    rw [forall_mem_cons] at behind
    exact (ih behind.2).trans (take_set_of_le behind.1)

lemma drop_zeroAt {start : Nat} (before : ∀ position ∈ positions, position < start) :
    (bytes.zeroAt positions).drop start = bytes.drop start := by
  induction positions generalizing bytes with
  | nil => rfl
  | cons position positions ih =>
    rw [forall_mem_cons] at before
    exact (ih before.2).trans (drop_set_of_lt before.1)

variable {offset length : Nat}

lemma slice_zeroAt
    (outside : ∀ position ∈ positions, position < offset ∨ offset + length ≤ position) :
    (bytes.zeroAt positions).slice offset length = bytes.slice offset length := by
  induction positions generalizing bytes with
  | nil => rfl
  | cons position positions ih =>
    rw [forall_mem_cons] at outside
    refine (ih outside.2).trans ?_
    rcases outside.1 with before | behind
    · rw [slice, slice, drop_set_of_lt before]
    · rw [slice, slice, drop_set, if_neg (by omega), take_set_of_le (by omega)]

lemma zeroAt_append (front back : Bytes) {middle : Bytes}
    (inside : ∀ position ∈ positions, position < middle.length) :
    zeroAt (front ++ (middle ++ back)) (positions.map (front.length + ·)) =
      front ++ (middle.zeroAt positions ++ back) := by
  induction positions generalizing middle with
  | nil => rfl
  | cons position positions ih =>
    rw [forall_mem_cons] at inside
    have one : (front ++ (middle ++ back)).set (front.length + position) 0 =
        front ++ (middle.set position 0 ++ back) := by
      rw [set_append_right _ _ (Nat.le_add_right _ _), Nat.add_sub_cancel_left,
        set_append_left _ _ inside.1]
    have rest : ∀ other ∈ positions, other < (middle.set position 0).length := by
      rw [length_set]
      exact inside.2
    rw [zeroAt, map_cons, foldl_cons, one]
    exact ih rest

lemma slice_of_take {first second : Bytes}
    (same : first.take stop = second.take stop) (inside : offset + length ≤ stop) :
    first.slice offset length = second.slice offset length := by
  have cut (bytes : Bytes) : bytes.slice offset length = slice (bytes.take stop) offset length := by
    rw [slice, slice, drop_take, take_take]
    congr 1
    omega
  rw [cut first, cut second, same]

end Bytes

/-- An integer field or a character array of a structure. -/
structure Field where
  offset : Nat
  width : Nat
  deriving DecidableEq, Repr

/-- The value of a field, from the bytes of its structure. -/
def Field.get (field : Field) (one : Bytes) : Nat :=
  one.field field.offset field.width

/-- A part behind a structure: the field with the number of its entries, the size of an
entry, and whether it is a string that readers terminate. -/
structure Part where
  count : Field
  unit : Nat
  isString : Bool
  deriving DecidableEq, Repr

namespace Part

def string (offset width : Nat) : Part :=
  ⟨⟨offset, width⟩, 1, true⟩

def array (offset width unit : Nat) : Part :=
  ⟨⟨offset, width⟩, unit, false⟩

def padding (offset width : Nat) : Part :=
  ⟨⟨offset, width⟩, 1, false⟩

/-- The size of the part. -/
def length (part : Part) (one : Bytes) : Nat :=
  part.count.get one * part.unit

end Part

/-- The layout of a record: the size of its structure, the character arrays in it that
readers terminate, and the parts in their order. -/
structure Layout where
  size : Nat
  arrays : List Field
  parts : List Part
  size_pos : 0 < size := by decide
  arrays_fit : ∀ array ∈ arrays, 0 < array.width ∧ array.offset + array.width ≤ size := by decide
  counts_fit : ∀ part ∈ parts, part.count.offset + part.count.width ≤ size := by decide
  /-- No array overlaps a field with a number of entries. -/
  apart : ∀ array ∈ arrays, ∀ part ∈ parts,
    array.offset + array.width ≤ part.count.offset ∨
      part.count.offset + part.count.width ≤ array.offset := by decide

/-- The place of a part in its record. -/
structure Placed where
  start : Nat
  length : Nat
  isString : Bool
  deriving DecidableEq, Repr

namespace Layout

/-- The numbers of entries of the parts. -/
def counts (layout : Layout) (one : Bytes) : List Nat :=
  layout.parts.map fun part => part.count.get one

/-- The size of the record with a structure. -/
def extent (layout : Layout) (one : Bytes) : Nat :=
  layout.size + (layout.parts.map fun part => part.length one).sum

/-- The parts with the places they take, from an offset on. -/
def placeFrom (one : Bytes) : Nat → List Part → List Placed
  | _, [] => []
  | offset, part :: parts =>
    ⟨offset, part.length one, part.isString⟩ :: placeFrom one (offset + part.length one) parts

/-- The places of the parts of the record with a structure. -/
def places (layout : Layout) (one : Bytes) : List Placed :=
  placeFrom one layout.size layout.parts

/-- The last bytes of the strings of a record: of the arrays in its structure and of those
parts that are not empty. -/
def terminators (layout : Layout) (one : Bytes) : List Nat :=
  layout.arrays.map (fun array => array.offset + array.width - 1) ++
    ((layout.places one).filter fun placed => placed.isString && placed.length ≠ 0).map
      fun placed => placed.start + placed.length - 1

/-- The structure at an offset. -/
def structAt (layout : Layout) (bytes : Bytes) (start : Nat) : Bytes :=
  bytes.slice start layout.size

/-- A byte is the last one of a string of the record at an offset. -/
def Terminates (layout : Layout) (bytes : Bytes) (start position : Nat) : Prop :=
  (∃ array ∈ layout.arrays, position + 1 = start + array.offset + array.width) ∨
    ∃ placed ∈ layout.places (layout.structAt bytes start), placed.isString = true ∧
      start + placed.start ≤ position ∧ position + 1 = start + placed.start + placed.length

section Places

variable {layout : Layout} {one other : Bytes}

variable {parts : List Part} {placed : Placed}

lemma le_of_placeFrom {offset : Nat}
    (mem : placed ∈ placeFrom one offset parts) : offset ≤ placed.start ∧
      placed.start + placed.length ≤ offset + (parts.map fun part => part.length one).sum := by
  induction parts generalizing offset with
  | nil => cases mem
  | cons part parts ih =>
    rw [map_cons, sum_cons]
    cases mem with
    | head =>
      constructor
      · exact Nat.le_refl offset
      · dsimp only
        omega
    | tail _ inRest =>
      have bounds := ih inRest
      constructor
      · omega
      · omega

lemma le_of_places (mem : placed ∈ layout.places one) :
    layout.size ≤ placed.start ∧ placed.start + placed.length ≤ layout.extent one :=
  le_of_placeFrom mem

lemma terminators_lt {position : Nat} (mem : position ∈ layout.terminators one) :
    position < layout.extent one := by
  rw [terminators, mem_append, mem_map, mem_map] at mem
  rcases mem with ⟨array, inArrays, rfl⟩ | ⟨placed, inPlaced, rfl⟩
  · have fits := layout.arrays_fit array inArrays
    rw [extent]
    omega
  · have bounds := le_of_places (mem_filter.mp inPlaced).1
    have positive := layout.size_pos
    omega

lemma terminators_outside {position : Nat} (mem : position ∈ layout.terminators one)
    {part : Part} (inParts : part ∈ layout.parts) :
    position < part.count.offset ∨ part.count.offset + part.count.width ≤ position := by
  rw [terminators, mem_append, mem_map, mem_map] at mem
  have fits := layout.counts_fit part inParts
  rcases mem with ⟨array, inArrays, rfl⟩ | ⟨placed, inPlaced, rfl⟩
  · have arrayFits := layout.arrays_fit array inArrays
    have apart := layout.apart array inArrays part inParts
    omega
  obtain ⟨isPlaced, isString⟩ := mem_filter.mp inPlaced
  have bounds := le_of_places isPlaced
  simp only [ne_eq, Bool.and_eq_true, decide_not, Bool.not_eq_true', decide_eq_false_iff_not]
    at isString
  omega

lemma same_parts (same : ∀ part ∈ parts, part.length other = part.length one) (offset : Nat) :
    (parts.map fun part => part.length other) = (parts.map fun part => part.length one) ∧
      placeFrom other offset parts = placeFrom one offset parts := by
  induction parts generalizing offset with
  | nil => exact ⟨rfl, rfl⟩
  | cons part parts ih =>
    rw [forall_mem_cons] at same
    have rest := ih same.2 (offset + part.length one)
    constructor
    · rw [map_cons, map_cons, same.1, rest.1]
    · rw [placeFrom, placeFrom, same.1, rest.2]

end Places

end Layout

/-! ## Memory -/

/-- Bytes that a reader changes, with the positions it wrote to. -/
structure Memory where
  bytes : Bytes
  written : List Nat
  deriving DecidableEq, Repr

namespace Memory

/-- Write zeros. -/
def zeroAt (memory : Memory) (positions : List Nat) : Memory where
  bytes := memory.bytes.zeroAt positions
  written := memory.written ++ positions

end Memory

namespace Layout

variable {layout : Layout} {memory : Memory} {bytes : Bytes} {start : Nat}

/-- Terminate the strings of the record at an offset. -/
def terminate (layout : Layout) (memory : Memory) (start : Nat) : Memory :=
  memory.zeroAt ((layout.terminators (layout.structAt memory.bytes start)).map (start + ·))

/-- The size of the record at an offset. -/
def extentAt (layout : Layout) (bytes : Bytes) (start : Nat) : Nat :=
  layout.extent (layout.structAt bytes start)

lemma field_structAt {field : Field} (fits : field.offset + field.width ≤ layout.size) :
    field.get (layout.structAt bytes start) = bytes.field (start + field.offset) field.width := by
  rw [Field.get, Bytes.field, structAt, Bytes.slice_slice bytes fits, ← Bytes.field]

/-- What terminating the strings of a record does: it stays inside the record and keeps the
numbers of entries. -/
structure Terminated (layout : Layout) (start : Nat) (before after : Memory) : Prop where
  length_eq : after.bytes.length = before.bytes.length
  take_eq : after.bytes.take start = before.bytes.take start
  drop_eq : after.bytes.drop (start + layout.extentAt before.bytes start) =
    before.bytes.drop (start + layout.extentAt before.bytes start)
  count_part : ∀ part ∈ layout.parts,
    part.count.get (layout.structAt after.bytes start) =
      part.count.get (layout.structAt before.bytes start)
  written_eq : after.written = before.written ++
    (layout.terminators (layout.structAt before.bytes start)).map (start + ·)

lemma terminate_terminated (layout : Layout) (memory : Memory) (start : Nat) :
    Terminated layout start memory (layout.terminate memory start) where
  length_eq := Bytes.length_zeroAt _ _
  take_eq := by
    apply Bytes.take_zeroAt
    intro position mem
    obtain ⟨relative, -, rfl⟩ := mem_map.mp mem
    exact Nat.le_add_right start relative
  drop_eq := by
    apply Bytes.drop_zeroAt
    intro position mem
    obtain ⟨relative, isTerminator, rfl⟩ := mem_map.mp mem
    exact Nat.add_lt_add_left (terminators_lt isTerminator) start
  count_part := by
    intro part inParts
    have fits := layout.counts_fit part inParts
    rw [field_structAt fits, field_structAt fits, Bytes.field, Bytes.field]
    refine congrArg Bytes.toNat (Bytes.slice_zeroAt ?_)
    intro position mem
    obtain ⟨relative, isTerminator, rfl⟩ := mem_map.mp mem
    have outside := terminators_outside isTerminator inParts
    omega
  written_eq := rfl

variable {before after : Memory}

lemma Terminated.counts_eq (terminated : Terminated layout start before after) :
    layout.counts (layout.structAt after.bytes start) =
      layout.counts (layout.structAt before.bytes start) :=
  map_congr_left terminated.count_part

lemma Terminated.length_part (terminated : Terminated layout start before after) :
    ∀ part ∈ layout.parts, part.length (layout.structAt after.bytes start) =
      part.length (layout.structAt before.bytes start) :=
  fun part mem => congrArg (· * part.unit) (terminated.count_part part mem)

lemma Terminated.extentAt_eq (terminated : Terminated layout start before after) :
    layout.extentAt after.bytes start = layout.extentAt before.bytes start := by
  rw [extentAt, extentAt, extent, extent, (same_parts terminated.length_part 0).1]

lemma Terminated.terminates (terminated : Terminated layout start before after) {position : Nat}
    (mem : position ∈ (layout.terminators (layout.structAt before.bytes start)).map (start + ·)) :
    layout.Terminates after.bytes start position := by
  obtain ⟨relative, isTerminator, rfl⟩ := mem_map.mp mem
  rw [terminators, mem_append, mem_map, mem_map] at isTerminator
  rcases isTerminator with ⟨array, inArrays, rfl⟩ | ⟨placed, inPlaced, rfl⟩
  · have fits := layout.arrays_fit array inArrays
    refine .inl ⟨array, inArrays, ?_⟩
    omega
  obtain ⟨isPlaced, isString⟩ := mem_filter.mp inPlaced
  simp only [ne_eq, Bool.and_eq_true, decide_not, Bool.not_eq_true', decide_eq_false_iff_not]
    at isString
  have samePlaces := (same_parts terminated.length_part layout.size).2
  refine .inr ⟨placed, ?_, isString.1, ?_, ?_⟩
  · rw [places, samePlaces]
    exact isPlaced
  · omega
  · omega

end Layout

/-! ## Walks -/

/-- The starts of a number of records that follow one another. -/
def starts (sizeAt : Nat → Nat) : (start count : Nat) → List Nat
  | _, 0 => []
  | start, count + 1 => start :: starts sizeAt (start + sizeAt start) count

namespace Layout

/-- What a walk over a number of records leaves: the records it finds end before `stop`, and
the positions it has written to are the last bytes of their strings. -/
structure Walked (layout : Layout) (start stop count : Nat) (before after : Memory) : Prop where
  length_eq : after.bytes.length = before.bytes.length
  take_eq : after.bytes.take start = before.bytes.take start
  fits : ∀ offset ∈ starts (layout.extentAt after.bytes) start count,
    offset + layout.extentAt after.bytes offset ≤ stop
  written : ∀ position ∈ after.written, position ∈ before.written ∨
    ∃ offset ∈ starts (layout.extentAt after.bytes) start count,
      layout.Terminates after.bytes offset position

section Walked

variable {layout : Layout} {start stop count : Nat} {before middle after : Memory}

lemma Walked.nil (memory : Memory) : Walked layout start stop 0 memory memory where
  length_eq := rfl
  take_eq := rfl
  fits := by
    intro offset mem
    cases mem
  written := by
    intro position mem
    exact .inl mem

lemma size_le_extent (layout : Layout) (one : Bytes) : layout.size ≤ layout.extent one :=
  Nat.le_add_right _ _

lemma structAt_of_take {first second : Bytes} {reach : Nat}
    (same : first.take reach = second.take reach) (inside : start + layout.size ≤ reach) :
    layout.structAt first start = layout.structAt second start :=
  Bytes.slice_of_take same inside

lemma Walked.cons (terminated : Terminated layout start before middle)
    (inside : start + layout.extentAt before.bytes start ≤ stop)
    (walked : Walked layout (start + layout.extentAt before.bytes start) stop count middle after) :
    Walked layout start stop (count + 1) before after := by
  have sameStruct : layout.structAt after.bytes start = layout.structAt middle.bytes start := by
    apply structAt_of_take walked.take_eq
    exact Nat.add_le_add_left (size_le_extent layout _) start
  have sameExtent : layout.extentAt after.bytes start = layout.extentAt before.bytes start := by
    rw [extentAt, sameStruct, ← extentAt, terminated.extentAt_eq]
  have walk : starts (layout.extentAt after.bytes) start (count + 1) =
      start :: starts (layout.extentAt after.bytes)
        (start + layout.extentAt before.bytes start) count := by
    rw [starts, sameExtent]
  constructor
  · exact walked.length_eq.trans terminated.length_eq
  · have shorter := congrArg (List.take start) walked.take_eq
    rw [take_take, take_take, Nat.min_eq_left (Nat.le_add_right _ _)] at shorter
    exact shorter.trans terminated.take_eq
  · intro offset mem
    rw [walk] at mem
    cases mem with
    | head => rwa [sameExtent]
    | tail _ inRest => exact walked.fits offset inRest
  · intro position mem
    rw [walk]
    rcases walked.written position mem with early | ⟨offset, inRest, terminates⟩
    · rw [terminated.written_eq, mem_append] at early
      rcases early with earlier | here
      · exact .inl earlier
      · refine .inr ⟨start, mem_cons_self, ?_⟩
        have terminates := terminated.terminates here
        rw [Terminates] at terminates ⊢
        rwa [sameStruct]
    · exact .inr ⟨offset, mem_cons_of_mem _ inRest, terminates⟩

end Walked

end Layout

end Gyeeta
