import Gyeeta.Lib.Rounding
import Mathlib.Data.List.Pairwise
import Mathlib.Data.List.TakeDrop
import Mathlib.Tactic.Ring

/-!
# Arrays of memory pools

The usable size that the allocators of `POOL_ALLOC_ARRAY` report with a buffer.  A request of
several chunks that are larger than all buckets adds the buckets of one chunk to the number of
chunks where it should multiply.
-/

namespace Gyeeta.Misc

open List

/-- `sizeof(TPOOL_ELEM)`, the header of each chunk -/
def tpoolElemSize : Nat := 24

/-- `THR_POOL_ALLOC`: the size of its bucket, and how many chunks it has and has given out. -/
structure ThrPool where
  fixReqsz : Nat
  maxElem : Nat
  currsz : Nat
  deriving DecidableEq

namespace ThrPool

/-- `get_elem_combined_size`: the pool rounds up to eight bytes. -/
def combinedSize (pool : ThrPool) : Nat := (pool.fixReqsz + tpoolElemSize + 7) / 8 * 8

/-- `get_elem_fixed_size`. -/
def fixedSize (pool : ThrPool) : Nat := pool.combinedSize - tpoolElemSize

/-- The size of contiguous chunks without their first header. -/
def chunksSize (pool : ThrPool) (nchunks : Nat) : Nat :=
  (pool.combinedSize * nchunks - tpoolElemSize) % 2 ^ 32

lemma combinedSize_bounds (pool : ThrPool) : pool.fixReqsz + 24 ≤ pool.combinedSize ∧
    pool.combinedSize ≤ pool.fixReqsz + 31 := by
  rw [combinedSize, tpoolElemSize]
  omega

end ThrPool

/-- `POOL_ALLOC_ARRAY` with the pools in the order of their sizes. -/
structure PoolArray where
  pools : List ThrPool
  lastFreeCnt : Int
  sorted : pools.Pairwise fun first second => first.fixReqsz ≤ second.fixReqsz
  limited : ∀ pool ∈ pools, pool.fixReqsz ≤ 2 ^ 30

/-- What is outside of the array in a call: whether the calling thread may use the pools, whether
a pool gets memory for chunks, and the usable size of a block of the heap. -/
structure AllocEnv where
  isAllocThread : Bool
  hasMemory : ThrPool → Bool
  usableSize : Nat → Nat
  usable : ∀ size ≤ 2 ^ 31 + tpoolElemSize, size ≤ usableSize size ∧ usableSize size < 2 ^ 32

/-- A buffer: its `act_size`, and whether it is from a pool. -/
structure PoolBuffer where
  actSize : Nat
  fromPool : Bool
  deriving DecidableEq

namespace PoolArray

variable (array : PoolArray) (env : AllocEnv)

/-- `malloc` of a pool. -/
def takesOne (pool : ThrPool) : Bool := pool.currsz < pool.maxElem && env.hasMemory pool

/-- `ordered_malloc` of a pool. -/
def takesChunks (pool : ThrPool) (nchunks : Nat) : Bool :=
  pool.currsz + nchunks < pool.maxElem && env.hasMemory pool

def freeCount (pool : ThrPool) : Int := pool.maxElem - pool.currsz

/-- The end of `safe_malloc`, a block of the heap. -/
def heapBuffer (sz : Nat) (useMallocHdr : Bool) : PoolBuffer :=
  let header := if useMallocHdr then tpoolElemSize else 0
  ⟨env.usableSize (sz + header) - header, false⟩

/-- A call without a result throws, or divides by the size zero of the largest bucket. -/
def safeMalloc (sz : Nat) (tryOtherPools useMallocHdr : Bool) : Option PoolBuffer :=
  let heap := heapBuffer env sz useMallocHdr
  if sz = 0 ∨ sz > 2 ^ 31 then none
  else
    match array.pools.getLast?, array.pools.dropWhile (·.fixReqsz < sz) with
    | none, _ => some heap
    | some maxPool, pools =>
      if env.isAllocThread = false then some heap
      else
        match pools with
        | pool :: higher =>
          if takesOne env pool then some ⟨pool.fixedSize, true⟩
          else
            match higher with
            | next :: _ =>
              if tryOtherPools && next.fixReqsz ≤ pool.fixReqsz * 16 && freeCount next > 64 &&
                  takesOne env next then
                some ⟨next.fixedSize, true⟩
              else some heap
            | [] => some heap
        | [] =>
          let nchunks := divRoundUp sz maxPool.fixReqsz
          if tryOtherPools = false then some heap
          else if maxPool.fixReqsz = 0 then none
          else if nchunks < 512 && array.lastFreeCnt > nchunks + 16 &&
              freeCount maxPool > nchunks + 16 && takesChunks env maxPool nchunks then
            some ⟨maxPool.chunksSize nchunks, true⟩
          else some heap

/-- The pool and the number of chunks for an ordered request. -/
def orderedPool (sz nchunks : Nat) : Option (ThrPool × Nat) :=
  match array.pools.find? (sz ≤ ·.fixReqsz) with
  | some pool => some (pool, nchunks)
  | none => array.pools.getLast?.map fun pool => (pool, nchunks + divRoundUp sz pool.fixReqsz)

/-- The chunks of the pool, or a block of the heap. -/
def orderedFrom (pool : ThrPool) (chunks reqsz : Nat) : Option PoolBuffer :=
  if env.isAllocThread = false then some ⟨reqsz, false⟩
  else if pool.fixReqsz = 0 then none
  else if takesChunks env pool chunks then some ⟨pool.chunksSize chunks, true⟩
  else some ⟨reqsz, false⟩

def safeOrderedMalloc (sz nchunks : Nat) : Option PoolBuffer :=
  let reqsz := sz * nchunks % 2 ^ 32
  if reqsz = 0 ∨ sz > 2 ^ 31 then none
  else
    match array.orderedPool sz nchunks with
    | none => some ⟨reqsz, false⟩
    | some (pool, chunks) => orderedFrom env pool chunks reqsz

/-! ## The sizes -/

variable {array env}

lemma le_heapBuffer {sz : Nat} (small : sz ≤ 2 ^ 31) (useMallocHdr : Bool) :
    sz ≤ (heapBuffer env sz useMallocHdr).actSize := by
  rw [heapBuffer]
  have usable := env.usable (sz + if useMallocHdr then tpoolElemSize else 0) (by split <;> omega)
  dsimp only
  omega

lemma le_fixedSize {pool : ThrPool} {sz : Nat} (enough : sz ≤ pool.fixReqsz) :
    sz ≤ pool.fixedSize := by
  have := pool.combinedSize_bounds
  rw [ThrPool.fixedSize, tpoolElemSize]
  omega

/-- Fewer than 512 chunks of the largest bucket have room for a request that needs them. -/
lemma le_chunksSize {pool : ThrPool} {sz : Nat} (small : sz ≤ 2 ^ 31)
    (limited : pool.fixReqsz ≤ 2 ^ 30) (positive : pool.fixReqsz ≠ 0)
    (few : divRoundUp sz pool.fixReqsz < 512) :
    sz ≤ pool.chunksSize (divRoundUp sz pool.fixReqsz) := by
  obtain ⟨low, high⟩ := pool.combinedSize_bounds
  generalize isSize : pool.fixReqsz = size at *
  generalize isChunks : divRoundUp sz size = nchunks at *
  have divided := Nat.div_add_mod sz size
  have less := Nat.mod_lt sz (Nat.pos_of_ne_zero positive)
  have bounds : sz ≤ size * nchunks ∧ size * nchunks < sz + size := by
    rw [← isChunks, divRoundUp, Nat.mul_add]
    split <;> omega
  have atLeast : (size + 24) * nchunks ≤ pool.combinedSize * nchunks := Nat.mul_le_mul_right _ low
  have atMost : pool.combinedSize * nchunks ≤ (size + 31) * nchunks := Nat.mul_le_mul_right _ high
  rw [Nat.add_mul] at atLeast atMost
  rw [ThrPool.chunksSize, tpoolElemSize, Nat.mod_eq_of_lt (by omega)]
  rcases Nat.eq_zero_or_pos nchunks with rfl | some
  · omega
  · omega

lemma le_safeMalloc {sz : Nat} {tryOtherPools useMallocHdr : Bool} {buffer : PoolBuffer}
    (served : array.safeMalloc env sz tryOtherPools useMallocHdr = some buffer) :
    sz ≤ buffer.actSize := by
  rw [safeMalloc] at served
  dsimp only at served
  split at served
  · cases served
  next request =>
  have heap : ∀ {buffer}, some (heapBuffer env sz useMallocHdr) = some buffer →
      sz ≤ buffer.actSize := by
    rintro _ ⟨⟩
    exact le_heapBuffer (by omega) useMallocHdr
  split at served
  · exact heap served
  next maxPool isLast =>
  split at served
  · exact heap served
  split at served
  next pool higher isPool =>
    have enough : sz ≤ pool.fixReqsz := by
      have stops := head_dropWhile_not (fun pool : ThrPool => pool.fixReqsz < sz)
        (l := array.pools) (by simp [isPool])
      simp only [isPool, head_cons, decide_eq_false_iff_not] at stops
      omega
    split at served
    · cases served
      exact le_fixedSize enough
    split at served
    next next rest =>
      split at served
      · cases served
        have ordered := array.sorted.sublist (dropWhile_sublist (·.fixReqsz < sz))
        rw [isPool, pairwise_cons] at ordered
        exact le_fixedSize (Nat.le_trans enough (ordered.1 next mem_cons_self))
      · exact heap served
    · exact heap served
  · split at served
    · exact heap served
    split at served
    · cases served
    next positive =>
    split at served
    next few =>
      cases served
      simp only [Bool.and_eq_true, decide_eq_true_eq] at few
      have limited := array.limited maxPool (mem_of_getLast? isLast)
      exact le_chunksSize (by omega) limited positive few.1.1.1
    · exact heap served

lemma le_orderedFrom_iff {pool : ThrPool} {chunks reqsz : Nat} :
    (∀ buffer ∈ orderedFrom env pool chunks reqsz, reqsz ≤ buffer.actSize) ↔
      (env.isAllocThread = true → 0 < pool.fixReqsz → takesChunks env pool chunks = true →
        reqsz ≤ (pool.combinedSize * chunks - 24) % 2 ^ 32) := by
  rw [orderedFrom]
  split
  next other => simp [other]
  split
  next zero => simp [zero]
  next isThread positive =>
  split
  next taken =>
    simp [isThread, Nat.pos_of_ne_zero positive, taken, ThrPool.chunksSize, tpoolElemSize]
  next full => simp [full]

/-- Chunks of a bucket that is large enough have room for the request unless they wrap. -/
lemma le_chunks_iff {pool : ThrPool} {sz nchunks : Nat} (enough : sz ≤ pool.fixReqsz)
    (some : 0 < nchunks) : sz * nchunks ≤ (pool.combinedSize * nchunks - 24) % 2 ^ 32 ↔
      pool.combinedSize * nchunks < 2 ^ 32 + 24 ∨
        sz * nchunks ≤ (pool.combinedSize * nchunks - 24) % 2 ^ 32 := by
  have room : sz * nchunks + 24 * nchunks ≤ pool.combinedSize * nchunks := by
    rw [← Nat.add_mul]
    exact Nat.mul_le_mul_right _ (by have := pool.combinedSize_bounds; omega)
  rw [iff_or_self]
  intro small
  rw [Nat.mod_eq_of_lt (by omega)]
  omega

/-- The size reported with a buffer is at least the requested one: always for `safe_malloc`.  For
`safe_ordered_malloc` this is so exactly if the chunks that the first bucket of at least `sz`
bytes has for the request do not wrap in 32 bits or still have room for it and, where all buckets
are smaller, the sum of chunks that the last one has for the request has room for it. -/
theorem reported_size_iff (array : PoolArray) (env : AllocEnv) (sz nchunks : Nat)
    (tryOtherPools useMallocHdr : Bool) (small : sz * nchunks < 2 ^ 31) :
    (∀ buffer ∈ array.safeMalloc env sz tryOtherPools useMallocHdr, sz ≤ buffer.actSize) ∧
      ((∀ buffer ∈ array.safeOrderedMalloc env sz nchunks, sz * nchunks ≤ buffer.actSize) ↔
        ∀ pool, env.isAllocThread = true → 0 < pool.fixReqsz →
          let chunk := (pool.fixReqsz + 31) / 8 * 8
          (array.pools.find? (sz ≤ ·.fixReqsz) = some pool → takesChunks env pool nchunks = true →
            chunk * nchunks < 2 ^ 32 + 24 ∨ sz * nchunks ≤ (chunk * nchunks - 24) % 2 ^ 32) ∧
          ((∀ smaller ∈ array.pools, smaller.fixReqsz < sz) → array.pools.getLast? = some pool →
            let chunks := nchunks + divRoundUp sz pool.fixReqsz
            takesChunks env pool chunks = true →
              sz * nchunks ≤ (chunk * chunks - 24) % 2 ^ 32)) := by
  refine ⟨fun buffer => le_safeMalloc, ?_⟩
  have whole : sz * nchunks % 2 ^ 32 = sz * nchunks := Nat.mod_eq_of_lt (by omega)
  have noPool : array.pools.find? (sz ≤ ·.fixReqsz) = none ↔
      ∀ smaller ∈ array.pools, smaller.fixReqsz < sz := by
    simp
  rw [safeOrderedMalloc, whole, ← noPool, orderedPool]
  split
  next zero =>
    have none : sz * nchunks = 0 := by
      refine zero.elim id fun large => ?_
      rcases Nat.eq_zero_or_pos nchunks with rfl | positive
      · rw [Nat.mul_zero]
      · have := Nat.le_mul_of_pos_right sz positive
        omega
    simp [none]
  next nonzero =>
  cases isFound : array.pools.find? (sz ≤ ·.fixReqsz) with
  | some pool =>
    have enough : sz ≤ pool.fixReqsz := by simpa using find?_some isFound
    have some : 0 < nchunks := by
      rw [not_or] at nonzero
      exact Nat.pos_of_ne_zero fun zero => nonzero.1 (by rw [zero, Nat.mul_zero])
    rw [le_orderedFrom_iff, le_chunks_iff enough some]
    constructor
    · intro fits other isThread positive
      refine ⟨fun isOther => ?_, fun isNone => absurd isNone (by simp)⟩
      rw [← Option.some.inj isOther] at positive ⊢
      exact fits isThread positive
    · exact fun fits isThread positive => (fits pool isThread positive).1 rfl
  | none =>
    cases isLast : array.pools.getLast? with
    | none => simp
    | some pool =>
      rw [Option.map_some, le_orderedFrom_iff]
      constructor
      · intro fits other isThread positive
        refine ⟨fun isOther => absurd isOther (by simp), fun _ isOther => ?_⟩
        rw [← Option.some.inj isOther] at positive ⊢
        exact fits isThread positive
      · exact fun fits isThread positive => (fits pool isThread positive).2 rfl rfl

/-- One bucket of a hundred chunks with a thousand bytes. -/
def thousands : PoolArray := ⟨[⟨1000, 100, 0⟩], 100, by simp, by simp⟩

def plainEnv : AllocEnv := ⟨true, fun _ => true, id, by simp [tpoolElemSize]; omega⟩

/-- Two chunks that fit into the bucket. -/
theorem two_small_chunks_served :
    thousands.safeOrderedMalloc plainEnv 900 2 = some ⟨2024, true⟩ ∧ 900 * 2 ≤ 2024 := by
  have served : thousands.safeOrderedMalloc plainEnv 900 2 = some ⟨2024, true⟩ := by decide
  refine ⟨served,
    (reported_size_iff thousands plainEnv 900 2 true false (by decide)).2.mpr ?_ _ served⟩
  intro pool _ _
  refine ⟨fun isPool _ => .inl ?_, fun smaller => absurd (smaller _ mem_cons_self) (by decide)⟩
  cases isPool
  decide

/-- Two chunks of three buckets each get five buckets. -/
theorem two_large_chunks_short :
    thousands.safeOrderedMalloc plainEnv 3000 2 = some ⟨5096, true⟩ ∧ 5096 < 3000 * 2 := by
  decide

end PoolArray

end Gyeeta.Misc
