import Gyeeta.Lib.Rounding
import Gyeeta.Lib.Run
import Gyeeta.Misc.DataBuffer
import Mathlib.Data.List.Forall2

/-!
# Runs of a single buffer

`get_next_buffer` asks for memory for `min_cache_elem_` elements and the reserved header, a size
computed in 32 bits.  Where that does not wrap around, every buffer it returns has room for one
more element, and the batches hold all elements once and in order.
-/

namespace Gyeeta.Misc

open List

namespace DataBuffer

section

variable (limits : DataBufferLimits) (pool : Bool)

/-- `ncachelem` of `get_next_buffer`, a `uint32_t`. -/
def ncachelem : Nat :=
  (limits.minCacheElem + divRoundUp limits.initReserveSz limits.maxElemSz) % 2 ^ 32

/-- The size `get_next_buffer` asks for, with a memory pool or from `malloc`.  A pool refuses to
return nothing or more than 2 GB. -/
def requested : Option Nat :=
  if pool then
    if ncachelem limits = 0 ∨ 2 ^ 31 < ncachelem limits * limits.maxElemSz then none
    else some (ncachelem limits * limits.maxElemSz)
  else some (ncachelem limits * limits.maxElemSz % 2 ^ 32)

/-- `get_next_buffer`, where the allocator returns `surplus` bytes more than it was asked for. -/
def getNextBuffer (buffer : DataBuffer) (surplus : Nat) : DataBuffer :=
  buffer.getBufferChked ((requested limits pool).map (· + surplus))

end

def flushCache (buffer : DataBuffer) : DataBuffer × Option Flushed :=
  if 0 < buffer.ncurr then
    (empty, buffer.alloc.map fun alloc => ⟨alloc.data, buffer.ncurr⟩)
  else (buffer, none)

end DataBuffer

/-- The calls of a user of a `DATA_BUFFER`. -/
inductive BufferCall where
  | getNextBuffer (surplus : Nat)
  | setBufferSz (elem : Bytes) (forceFlush : Bool)
  | flushCache
  deriving DecidableEq, Repr

/-- A `DATA_BUFFER`, what it handed on, and the elements it was given. -/
structure BufferRun where
  buffer : DataBuffer
  flushed : List Flushed
  given : List Bytes
  deriving DecidableEq, Repr

namespace BufferRun

def start : BufferRun where
  buffer := .empty
  flushed := []
  given := []

/-- The outcome of a call that may have handed on a batch. -/
def record (run : BufferRun) (outcome : DataBuffer × Option Flushed) (elems : List Bytes) :
    BufferRun where
  buffer := outcome.1
  flushed := run.flushed ++ outcome.2.toList
  given := run.given ++ elems

section

variable (limits : DataBufferLimits) (pool : Bool)

def step (run : BufferRun) : BufferCall → BufferRun
  | .getNextBuffer surplus => { run with buffer := run.buffer.getNextBuffer limits pool surplus }
  | .setBufferSz elem forceFlush =>
    run.record (run.buffer.setBufferSz limits elem forceFlush) (if elem = [] then [] else [elem])
  | .flushCache => run.record run.buffer.flushCache []

/-- What the calls assume: the size that was allocated is a `uint32_t`; an element is of at most
the maximal size and was written to a buffer. -/
def Allowed (run : BufferRun) : BufferCall → Prop
  | .getNextBuffer surplus => ∀ size ∈ DataBuffer.requested limits pool, size + surplus < 2 ^ 32
  | .setBufferSz elem _ =>
    elem.length ≤ limits.maxElemSz ∧ (elem ≠ [] → run.buffer.alloc.isSome = true)
  | .flushCache => True

end

/-- A buffer has room for one more element behind the others. -/
def Roomy (limits : DataBufferLimits) (buffer : DataBuffer) : Prop :=
  ∀ alloc ∈ buffer.alloc,
    DataBuffer.used limits alloc + limits.maxElemSz ≤ alloc.actSize ∧ alloc.actSize < 2 ^ 32

/-- The elements in the buffer are those that were written. -/
structure Holding (buffer : DataBuffer) (elems : List Bytes) : Prop
    extends DataBuffer.Stores buffer elems where
  nonempty : ∀ elem ∈ elems, elem ≠ []

/-- The batches that were handed on and what the buffer holds are all elements, in order. -/
def Collected (run : BufferRun) : Prop :=
  ∃ (batches : List (List Bytes)) (elems : List Bytes),
    List.Forall₂ DataBuffer.Batch run.flushed batches ∧ Holding run.buffer elems ∧
      batches.flatten ++ elems = run.given

/-- The size for `min_cache_elem_` elements and the header does not wrap around. -/
structure Fits (limits : DataBufferLimits) : Prop where
  maxElemSz_pos : 0 < limits.maxElemSz
  size_lt : (limits.minCacheElem + divRoundUp limits.initReserveSz limits.maxElemSz) *
    limits.maxElemSz < 2 ^ 32

section

variable {limits : DataBufferLimits} {pool : Bool}

lemma Fits.requested (fits : Fits limits) (several : 1 < limits.minCacheElem) {size : Nat}
    (isSize : size ∈ DataBuffer.requested limits pool) :
    limits.initReserveSz + 2 * limits.maxElemSz ≤ size := by
  have pos := fits.maxElemSz_pos
  have count : DataBuffer.ncachelem limits =
      limits.minCacheElem + divRoundUp limits.initReserveSz limits.maxElemSz :=
    Nat.mod_eq_of_lt (Nat.lt_of_le_of_lt (Nat.le_mul_of_pos_right _ pos) fits.size_lt)
  have reserve := le_divRoundUp_mul limits.initReserveSz pos
  have elements : 2 * limits.maxElemSz ≤ limits.minCacheElem * limits.maxElemSz :=
    Nat.mul_le_mul_right _ several
  have size_eq : size = (limits.minCacheElem +
      divRoundUp limits.initReserveSz limits.maxElemSz) * limits.maxElemSz := by
    rw [DataBuffer.requested, count, Nat.mod_eq_of_lt fits.size_lt] at isSize
    split at isSize
    · split at isSize
      · cases isSize
      · exact (Option.mem_some.mp isSize).symm
    · exact (Option.mem_some.mp isSize).symm
  rw [size_eq, Nat.add_mul]
  omega

lemma Holding.empty : Holding .empty [] :=
  ⟨.empty, forall_mem_nil _⟩

lemma Roomy.empty : Roomy limits .empty :=
  fun _ mem => nomatch mem

variable {buffer : DataBuffer} {elems : List Bytes}

lemma Roomy.getNextBuffer (fits : Fits limits) (several : 1 < limits.minCacheElem) {surplus : Nat}
    (small : ∀ size ∈ DataBuffer.requested limits pool, size + surplus < 2 ^ 32)
    (roomy : Roomy limits buffer) : Roomy limits (buffer.getNextBuffer limits pool surplus) := by
  rw [DataBuffer.getNextBuffer, DataBuffer.getBufferChked]
  cases isAlloc : buffer.alloc with
  | some alloc => exact roomy
  | none =>
    intro alloc mem
    simp only [Option.map_map, Option.mem_def, Option.map_eq_some_iff] at mem
    obtain ⟨size, isSize, rfl⟩ := mem
    have enough := fits.requested several isSize
    have := small size isSize
    simp only [Function.comp, DataBuffer.used, length_nil] at *
    omega

lemma Holding.getNextBuffer (holding : Holding buffer elems) (surplus : Nat) :
    Holding (buffer.getNextBuffer limits pool surplus) elems :=
  ⟨holding.toStores.getBufferChked _, holding.nonempty⟩

/-- What a call does to the elements: the buffer keeps them and has room, or hands them on. -/
def Outcome (limits : DataBufferLimits) (outcome : DataBuffer × Option Flushed)
    (elems : List Bytes) : Prop :=
  (outcome.2 = none ∧ Holding outcome.1 elems ∧ Roomy limits outcome.1) ∨
    ∃ flushed, outcome = (.empty, some flushed) ∧ DataBuffer.Batch flushed elems

lemma szpend_of_roomy {alloc : DataBufferAlloc} {ncurr : Nat}
    (within : DataBuffer.used limits alloc ≤ alloc.actSize) (small : alloc.actSize < 2 ^ 32)
    (some : 0 < ncurr) (nonempty : alloc.data.length ≠ 0) :
    DataBuffer.szpend limits alloc ncurr = alloc.actSize - DataBuffer.used limits alloc := by
  rw [DataBuffer.szpend, if_pos ⟨some, nonempty⟩]
  omega

lemma Outcome.setBufferSz (holding : Holding buffer elems) (roomy : Roomy limits buffer)
    {elem : Bytes} (fitting : elem.length ≤ limits.maxElemSz)
    (written : elem ≠ [] → buffer.alloc.isSome = true) (forceFlush : Bool) :
    Outcome limits (buffer.setBufferSz limits elem forceFlush)
      (elems ++ if elem = [] then [] else [elem]) := by
  cases isAlloc : buffer.alloc with
  | none =>
    have nothing : elem = [] := by
      by_contra nonempty
      have := written nonempty
      simp [isAlloc] at this
    subst nothing
    rw [DataBuffer.setBufferSz, isAlloc]
    exact .inl ⟨rfl, by simpa using holding, roomy⟩
  | some alloc =>
    obtain ⟨room, small⟩ := roomy alloc isAlloc
    by_cases nothing : elem = []
    · subst nothing
      rw [DataBuffer.setBufferSz_nil isAlloc, if_pos rfl, append_nil]
      split
      · exact .inr ⟨_, rfl, holding.toStores.batch isAlloc⟩
      · exact .inl ⟨rfl, holding, roomy⟩
    have added := holding.toStores.add isAlloc elem
    rw [if_neg nothing]
    by_cases full : DataBuffer.Full limits { alloc with data := alloc.data ++ elem }
        (buffer.ncurr + 1) forceFlush
    · rw [DataBuffer.setBufferSz_of_ne_nil isAlloc nothing, if_pos full]
      exact .inr ⟨_, rfl, added.batch rfl⟩
    rw [DataBuffer.setBufferSz_of_ne_nil isAlloc nothing, if_neg full]
    refine .inl ⟨rfl, ⟨added, ?_⟩, ?_⟩
    · rw [forall_mem_append, forall_mem_singleton]
      exact ⟨holding.nonempty, nothing⟩
    rintro _ ⟨⟩
    -- The buffer would have been handed on with less room than for an element.
    have longer : (alloc.data ++ elem).length = alloc.data.length + elem.length :=
      length_append
    have pos := length_pos_iff.mpr nothing
    have enough : ¬DataBuffer.szpend limits { alloc with data := alloc.data ++ elem }
        (buffer.ncurr + 1) < limits.maxElemSz :=
      fun little => full ⟨Nat.succ_pos _, .inr (.inl little)⟩
    have pending : DataBuffer.szpend limits { alloc with data := alloc.data ++ elem }
        (buffer.ncurr + 1) =
          alloc.actSize - (limits.initReserveSz + (alloc.data ++ elem).length) := by
      refine szpend_of_roomy ?_ small (Nat.succ_pos _) ?_
      · simp only [DataBuffer.used] at room ⊢
        omega
      · dsimp only
        omega
    rw [pending] at enough
    simp only [DataBuffer.used] at room ⊢
    omega

lemma Outcome.flushCache (holding : Holding buffer elems) (roomy : Roomy limits buffer) :
    Outcome limits buffer.flushCache elems := by
  rw [DataBuffer.flushCache]
  split
  next some =>
    cases isAlloc : buffer.alloc with
    | none =>
      have nothing := holding.unallocated isAlloc
      rw [holding.ncurr_eq, nothing] at some
      exact absurd some (Nat.lt_irrefl 0)
    | some alloc => exact .inr ⟨_, rfl, holding.toStores.batch isAlloc⟩
  · exact .inl ⟨rfl, holding, roomy⟩

lemma Outcome.collected {run : BufferRun} {batches : List (List Bytes)} {elems more : List Bytes}
    {outcome : DataBuffer × Option Flushed} (isOutcome : Outcome limits outcome (elems ++ more))
    (handedOn : List.Forall₂ DataBuffer.Batch run.flushed batches)
    (all : batches.flatten ++ elems = run.given) :
    Roomy limits (run.record outcome more).buffer ∧ Collected (run.record outcome more) := by
  rcases isOutcome with ⟨kept, holding, roomy⟩ | ⟨flushed, rfl, batch⟩
  · refine ⟨roomy, batches, elems ++ more, ?_, holding, ?_⟩
    · simpa [record, kept] using handedOn
    · rw [← append_assoc, all]
      rfl
  · refine ⟨.empty, batches ++ [elems ++ more], [], ?_, .empty, ?_⟩
    · exact rel_append handedOn (.cons batch .nil)
    · simp [record, ← all]

/-- Every call keeps all elements in the batches and the buffer, in order. -/
lemma step_collected (fits : Fits limits) (several : 1 < limits.minCacheElem) {run : BufferRun}
    {call : BufferCall} (before : Roomy limits run.buffer ∧ Collected run)
    (allowed : run.Allowed limits pool call) :
    Roomy limits (run.step limits pool call).buffer ∧ Collected (run.step limits pool call) := by
  obtain ⟨roomy, batches, elems, handedOn, holding, all⟩ := before
  cases call with
  | getNextBuffer surplus =>
    exact ⟨.getNextBuffer fits several allowed roomy, batches, elems, handedOn,
      holding.getNextBuffer surplus, all⟩
  | setBufferSz elem forceFlush =>
    exact (Outcome.setBufferSz holding roomy allowed.1 allowed.2 forceFlush).collected handedOn all
  | flushCache =>
    have outcome := Outcome.flushCache holding roomy
    rw [← append_nil elems] at outcome
    exact outcome.collected handedOn all

end

/-- In every run a returned buffer has room for one more element, and the batches with what the
buffer still holds are all elements in order, where the size asked for does not wrap around. -/
theorem run_collected {limits : DataBufferLimits} (pool : Bool) (fits : Fits limits)
    (several : 1 < limits.minCacheElem) {calls : List BufferCall}
    (allowed : Machine.Guarded (step limits pool) (Allowed limits pool) start calls) :
    Roomy limits (Machine.run (step limits pool) start calls).buffer ∧
      Collected (Machine.run (step limits pool) start calls) := by
  have keeps : ∀ (run : BufferRun) (call : BufferCall), Roomy limits run.buffer ∧ Collected run →
      run.Allowed limits pool call → Roomy limits (run.step limits pool call).buffer ∧
        Collected (run.step limits pool call) :=
    fun _ _ => step_collected fits several
  exact allowed.invariant keeps ⟨.empty, [], [], .nil, .empty, rfl⟩

/-- Elements of up to 8 bytes behind a header of 4 bytes, at least 2 in a buffer. -/
def smallLimits : DataBufferLimits where
  maxElemSz := 8
  minCacheElem := 2
  maxCacheElem := 3
  initReserveSz := 4
  maxTotalSz := 2 ^ 64 - 1

theorem run_collected_small : Roomy smallLimits (Machine.run (step smallLimits false) start
        [.getNextBuffer 0, .setBufferSz [1, 2] false, .flushCache]).buffer ∧
      Collected (Machine.run (step smallLimits false) start
        [.getNextBuffer 0, .setBufferSz [1, 2] false, .flushCache]) :=
  run_collected false ⟨by decide, by decide⟩ (by decide)
    ⟨by rintro _ ⟨⟩; decide, ⟨by decide, by decide⟩, trivial, trivial⟩

/-- Elements of up to `2 ^ 31` bytes. -/
def largeLimits : DataBufferLimits where
  maxElemSz := 2 ^ 31
  minCacheElem := 2
  maxCacheElem := 2
  initReserveSz := 0
  maxTotalSz := 2 ^ 64 - 1

/-- For two elements of `2 ^ 31` bytes no memory at all is asked for. -/
theorem getNextBuffer_wraps : Allowed largeLimits false start (.getNextBuffer 0) ∧
      (start.step largeLimits false (.getNextBuffer 0)).buffer.alloc = some ⟨0, []⟩ ∧
      ¬Roomy largeLimits (start.step largeLimits false (.getNextBuffer 0)).buffer := by
  refine ⟨by rintro _ ⟨⟩; decide, by decide, fun roomy => ?_⟩
  exact absurd (roomy ⟨0, []⟩ (by decide)).1 (by decide)

end BufferRun

end Gyeeta.Misc
