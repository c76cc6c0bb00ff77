import Gyeeta.Lib.Bytes

/-!
# Batches in a single buffer

`DATA_BUFFER` collects elements of variable size in one buffer, behind a reserved header, and
hands the buffer on when it is nearly full or has many elements.
-/

namespace Gyeeta.Misc

open List

/-- The limits of a `DATA_BUFFER`. -/
structure DataBufferLimits where
  maxElemSz : Nat
  minCacheElem : Nat
  maxCacheElem : Nat
  initReserveSz : Nat
  maxTotalSz : Nat
  deriving DecidableEq, Repr

/-- The memory of a `DATA_BUFFER`: the size that was allocated, and the bytes behind the
reserved header, up to `pcur_`. -/
structure DataBufferAlloc where
  actSize : Nat
  data : Bytes
  deriving DecidableEq, Repr

structure DataBuffer where
  alloc : Option DataBufferAlloc
  ncurr : Nat
  deriving DecidableEq, Repr

/-- What a `DATA_BUFFER` hands on: the bytes behind the reserved header and the number of
elements. -/
structure Flushed where
  data : Bytes
  nelems : Nat
  deriving DecidableEq, Repr

namespace DataBuffer

/-- `reset_elems`, and the state at the start. -/
def empty : DataBuffer where
  alloc := none
  ncurr := 0

variable (limits : DataBufferLimits)

/-- `get_buffer_chked`: the buffer has memory for an element, if it had or if the allocator
returns some of the given size. -/
def getBufferChked (buffer : DataBuffer) (allocated : Option Nat) : DataBuffer :=
  match buffer.alloc with
  | some _ => buffer
  | none => ⟨allocated.map fun actSize => ⟨actSize, []⟩, 0⟩

/-- `pcur_ - palloc_`. -/
def used (alloc : DataBufferAlloc) : Nat :=
  limits.initReserveSz + alloc.data.length

/-- `szpend` of `set_buffer_sz`, a `size_t`. -/
def szpend (alloc : DataBufferAlloc) (ncurr : Nat) : Nat :=
  if 0 < ncurr ∧ alloc.data.length ≠ 0 then
    (alloc.actSize + (2 ^ 64 - used limits alloc)) % 2 ^ 64
  else limits.maxElemSz

/-- The buffer is handed on. -/
def Full (alloc : DataBufferAlloc) (ncurr : Nat) (forceFlush : Bool) : Prop :=
  0 < ncurr ∧ (forceFlush = true ∨ szpend limits alloc ncurr < limits.maxElemSz ∨
    limits.maxCacheElem ≤ ncurr ∨ limits.maxTotalSz < used limits alloc)

instance (alloc : DataBufferAlloc) (ncurr : Nat) (forceFlush : Bool) :
    Decidable (Full limits alloc ncurr forceFlush) :=
  inferInstanceAs (Decidable (_ ∧ _))

/-- `set_buffer_sz`, after an element was written at `pcur_`; with no element its size is
zero.  The result has what is handed on. -/
def setBufferSz (buffer : DataBuffer) (elem : Bytes) (forceFlush : Bool) :
    DataBuffer × Option Flushed :=
  match buffer.alloc with
  | none => (buffer, none)
  | some alloc =>
    let (alloc, ncurr) : DataBufferAlloc × Nat :=
      if 0 < elem.length then ({ alloc with data := alloc.data ++ elem }, buffer.ncurr + 1)
      else (alloc, buffer.ncurr)
    if Full limits alloc ncurr forceFlush then (empty, some ⟨alloc.data, ncurr⟩)
    else (⟨some alloc, ncurr⟩, none)

/-! ## What the buffer holds -/

/-- The elements in the buffer. -/
structure Stores (buffer : DataBuffer) (elems : List Bytes) : Prop where
  ncurr_eq : buffer.ncurr = elems.length
  data_eq : ∀ alloc ∈ buffer.alloc, alloc.data = elems.flatten
  unallocated : buffer.alloc = none → elems = []

/-- A buffer that is kept is below its limits. -/
structure Holds (buffer : DataBuffer) (elems : List Bytes) : Prop extends Stores buffer elems where
  total_le : limits.initReserveSz + elems.flatten.length ≤ limits.maxTotalSz
  count_lt : elems.length < limits.maxCacheElem

/-- What is handed on: all elements, of which the buffer held all but the last one. -/
structure Batch (flushed : Flushed) (elems : List Bytes) : Prop where
  nelems_eq : flushed.nelems = elems.length
  data_eq : flushed.data = elems.flatten

variable {limits} {buffer : DataBuffer} {elems : List Bytes}

lemma Stores.empty : Stores .empty [] where
  ncurr_eq := rfl
  data_eq := by
    intro alloc mem
    cases mem
  unallocated _ := rfl

lemma Stores.getBufferChked (stores : Stores buffer elems) (allocated : Option Nat) :
    Stores (buffer.getBufferChked allocated) elems := by
  rw [DataBuffer.getBufferChked]
  cases isAlloc : buffer.alloc with
  | some alloc => exact stores
  | none =>
    have nothing := stores.unallocated isAlloc
    subst nothing
    refine ⟨rfl, ?_, fun _ => rfl⟩
    intro alloc mem
    obtain ⟨actSize, -, rfl⟩ := Option.map_eq_some_iff.mp mem
    rfl

lemma Holds.empty (reserve : limits.initReserveSz ≤ limits.maxTotalSz)
    (room : 0 < limits.maxCacheElem) : Holds limits DataBuffer.empty [] :=
  ⟨.empty, reserve, room⟩

lemma Holds.getBufferChked (holds : Holds limits buffer elems) (allocated : Option Nat) :
    Holds limits (buffer.getBufferChked allocated) elems :=
  ⟨holds.toStores.getBufferChked allocated, holds.total_le, holds.count_lt⟩

section

variable {alloc : DataBufferAlloc} (isAlloc : buffer.alloc = some alloc)
include isAlloc

lemma setBufferSz_of_ne_nil {elem : Bytes} (nonempty : elem ≠ []) (forceFlush : Bool) :
    buffer.setBufferSz limits elem forceFlush =
      if Full limits { alloc with data := alloc.data ++ elem } (buffer.ncurr + 1) forceFlush then
        (empty, some ⟨alloc.data ++ elem, buffer.ncurr + 1⟩)
      else (⟨some { alloc with data := alloc.data ++ elem }, buffer.ncurr + 1⟩, none) := by
  rw [DataBuffer.setBufferSz, isAlloc]
  dsimp only
  rw [if_pos (length_pos_iff.mpr nonempty)]

lemma setBufferSz_nil (forceFlush : Bool) : buffer.setBufferSz limits [] forceFlush =
      if Full limits alloc buffer.ncurr forceFlush then (empty, some ⟨alloc.data, buffer.ncurr⟩)
      else (buffer, none) := by
  obtain ⟨_, ncurr⟩ := buffer
  cases isAlloc
  rfl

lemma setBufferSz_force (some : 0 < buffer.ncurr) :
    buffer.setBufferSz limits [] true = (empty, Option.some ⟨alloc.data, buffer.ncurr⟩) := by
  rw [setBufferSz_nil isAlloc, if_pos ⟨some, .inl rfl⟩]

lemma Stores.batch (stores : Stores buffer elems) : Batch ⟨alloc.data, buffer.ncurr⟩ elems :=
  ⟨stores.ncurr_eq, stores.data_eq alloc isAlloc⟩

lemma Stores.add (stores : Stores buffer elems) (elem : Bytes) :
    Stores ⟨some { alloc with data := alloc.data ++ elem }, buffer.ncurr + 1⟩
      (elems ++ [elem]) where
  ncurr_eq := by rw [length_append, length_singleton, stores.ncurr_eq]
  data_eq := by
    intro other mem
    cases mem
    rw [flatten_append, flatten_singleton, stores.data_eq alloc isAlloc]
  unallocated := by
    intro isNone
    cases isNone

end

section

variable (holds : Holds limits buffer elems) (reserve : limits.initReserveSz ≤ limits.maxTotalSz)
include holds reserve

lemma Holds.setBufferSz {alloc : DataBufferAlloc} (isAlloc : buffer.alloc = some alloc)
    {elem : Bytes} (nonempty : elem ≠ []) (forceFlush : Bool) :
    ((buffer.setBufferSz limits elem forceFlush).2 = none ∧
      Holds limits (buffer.setBufferSz limits elem forceFlush).1 (elems ++ [elem])) ∨
    ∃ flushed, (buffer.setBufferSz limits elem forceFlush).2 = some flushed ∧
      Batch flushed (elems ++ [elem]) ∧
      Holds limits (buffer.setBufferSz limits elem forceFlush).1 [] := by
  have added := holds.toStores.add isAlloc elem
  by_cases full : Full limits { alloc with data := alloc.data ++ elem } (buffer.ncurr + 1)
      forceFlush
  · rw [setBufferSz_of_ne_nil isAlloc nonempty, if_pos full]
    refine .inr ⟨_, rfl, added.batch rfl, Holds.empty reserve ?_⟩
    exact lt_of_le_of_lt (Nat.zero_le _) holds.count_lt
  rw [setBufferSz_of_ne_nil isAlloc nonempty, if_neg full]
  refine .inl ⟨rfl, added, ?_, ?_⟩
  · rw [← added.data_eq _ rfl]
    exact Nat.not_lt.mp fun large => full ⟨Nat.succ_pos _, .inr (.inr (.inr large))⟩
  · rw [← added.ncurr_eq]
    exact Nat.not_le.mp fun many => full ⟨Nat.succ_pos _, .inr (.inr (.inl many))⟩

lemma Holds.flush (forceFlush : Bool) : ((buffer.setBufferSz limits [] forceFlush).2 = none ∧
      Holds limits (buffer.setBufferSz limits [] forceFlush).1 elems) ∨
    ∃ flushed, (buffer.setBufferSz limits [] forceFlush).2 = some flushed ∧
      Batch flushed elems ∧ Holds limits (buffer.setBufferSz limits [] forceFlush).1 [] := by
  cases isAlloc : buffer.alloc with
  | none =>
    rw [DataBuffer.setBufferSz, isAlloc]
    exact .inl ⟨rfl, holds⟩
  | some alloc =>
    rw [setBufferSz_nil isAlloc]
    split
    · refine .inr ⟨_, rfl, holds.toStores.batch isAlloc, Holds.empty reserve ?_⟩
      exact lt_of_le_of_lt (Nat.zero_le _) holds.count_lt
    · exact .inl ⟨rfl, holds⟩

end

end DataBuffer

end Gyeeta.Misc
