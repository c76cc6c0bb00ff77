import Gyeeta.Lib.Bytes
import Gyeeta.Lib.Run
import Gyeeta.Misc.PoolArray
import Mathlib.Data.List.Forall2

/-!
# Messages in an array of buffers

`IOVEC_BUFFER_CACHE` collects messages in a current buffer.  One without room for the next
message is moved to the array of `iovec`s, and the last buffer of the array grows instead or,
with a callback, the whole array is handed on.  The answers of `malloc` and the pools are an
input of each call.
-/

namespace Gyeeta.Misc

open List

/-- The size of the array, the limit of all messages and whether there are pools. -/
structure CacheLimits where
  maxArrSize : Nat
  maxTotalSz : Nat
  hasPool : Bool
  deriving DecidableEq, Repr

/-- `free_fp_curr_` -/
inductive FreeFp where
  | libc
  | pool
  deriving DecidableEq, Repr

/-- The current buffer: the bytes of `used_szcurr_`, the size the cache keeps in `max_szcurr_`,
and the size its memory has. -/
structure CurrBuf where
  data : Bytes
  maxSz : Nat
  room : Nat
  freeFp : FreeFp
  deriving DecidableEq, Repr

/-- `IOVEC_BUFFER_CACHE`; `lastPool` is the element size of `plast_pool_ptr_`. -/
structure IovecCache where
  iovarr : List Bytes := []
  curr : Option CurrBuf := none
  lastPool : Option Nat := none
  totalSz : Nat := 0
  nmsgSet : Nat := 0
  deriving DecidableEq, Repr

/-- What `ordered_malloc` returns when the last buffer grows. -/
inductive Ordered where
  | exhausted
  | contiguous
  | apart
  deriving DecidableEq, Repr

/-- The answers of the allocators in one call: how much more than asked for a new buffer has,
whether it is from a pool, with which element size, and what `ordered_malloc` returns. -/
structure Answer where
  surplus : Nat
  fromPool : Bool
  elemSize : Nat
  ordered : Ordered
  deriving DecidableEq, Repr

/-- What is handed on: the buffers, `total_sz` and `nmsg_set`. -/
structure IovecArray where
  iovecs : List Bytes
  totalSz : Nat
  nmsgSet : Nat
  deriving DecidableEq, Repr

namespace IovecCache

/-- The start of `get_buf`: the recommended size. -/
def recommended (minSz recommSz : Nat) : Nat :=
  if recommSz < minSz then minSz else if recommSz = 0 then 64 else recommSz

section

variable (limits : CacheLimits)

/-- `get_next_alloc_size`, in 32 bits; `none` where the limit is breached. -/
def getNextAllocSize (cache : IovecCache) (minSz recommSz : Nat) : Option Nat :=
  if limits.maxTotalSz ≤ (cache.totalSz + recommSz) % 2 ^ 32 then
    if limits.maxTotalSz ≤ (cache.totalSz + minSz) % 2 ^ 32 then none else some minSz
  else if recommSz < 1024 * 1024 ∧ limits.maxArrSize ≤ cache.iovarr.length + 1 ∧
      (cache.totalSz + recommSz * 2 % 2 ^ 32) % 2 ^ 32 < limits.maxTotalSz then
    some (recommSz * 2 % 2 ^ 32)
  else if 16 * 1024 * 1024 < recommSz ∧ minSz < 16 * 1024 * 1024 then some (16 * 1024 * 1024)
  else some recommSz

/-- The pools throw when a size is 0 or above 2 GB. -/
def isRefused (size : Nat) : Bool :=
  limits.hasPool && (size == 0 || 2 * 1024 ^ 3 < size)

/-- A buffer from `malloc` or from the pools. -/
def newBuf (answer : Answer) (data : Bytes) (size : Nat) : CurrBuf where
  data := data
  maxSz := size + answer.surplus
  room := size + answer.surplus
  freeFp := if limits.hasPool ∧ answer.fromPool then .pool else .libc

/-- The end of `get_buf`: a new current buffer.  The last one of the array is ordered memory of
a pool, if there is one. -/
def allocate (cache : IovecCache) (answer : Answer) (size : Nat) : IovecCache × Option Nat :=
  let last := limits.maxArrSize ≤ cache.iovarr.length + 1
  let buf := newBuf limits answer [] size
  ({ cache with
      curr := some buf
      lastPool :=
        if limits.hasPool ∧ last then if answer.fromPool then some answer.elemSize else none
        else cache.lastPool }, some buf.maxSz)

/-- The last buffer of the array grows: in place, by chunks behind it, or by a copy; `none` is an
exception of the pools. -/
def grow (cache : IovecCache) (buf : CurrBuf) (answer : Answer) (recommSz newrecom : Nat) :
    IovecCache × Option Nat :=
  let asz := (buf.data.length + newrecom) % 2 ^ 32
  let copied : Option (IovecCache × CurrBuf) :=
    if isRefused limits asz then none
    else some ({ cache with lastPool := none }, newBuf limits answer buf.data asz)
  let grown : Option (IovecCache × CurrBuf) :=
    match buf.freeFp with
    | .libc => some (cache, { newBuf limits answer buf.data asz with freeFp := .libc })
    | .pool =>
      match cache.lastPool with
      | none => copied
      | some elemSize =>
        let nchunks := divRoundUp ((buf.data.length + min newrecom recommSz) % 2 ^ 32) elemSize
        match answer.ordered with
        | .exhausted => copied
        | .contiguous =>
          let size := buf.room + nchunks * (elemSize + tpoolElemSize)
          some (cache, { buf with maxSz := size % 2 ^ 32, room := size })
        | .apart =>
          -- The data is copied to the chunks, and `max_szcurr_` stays that of the old buffer.
          some ({ cache with lastPool := none },
            { buf with room := nchunks * (elemSize + tpoolElemSize) - tpoolElemSize })
  match grown with
  | none => (cache, none)
  | some (cache, buf) => ({ cache with curr := some buf }, some (buf.maxSz - buf.data.length))

/-- The current buffer is moved to the array. -/
def moveCurr (cache : IovecCache) (buf : CurrBuf) : IovecCache :=
  { cache with iovarr := cache.iovarr ++ [buf.data], curr := none }

def getIovecArray (cache : IovecCache) : IovecCache × IovecArray :=
  if cache.totalSz = 0 then (cache, ⟨[], 0, 0⟩)
  else
    let last := match cache.curr with
      | none => []
      | some buf =>
        if buf.data ≠ [] ∧ cache.iovarr.length < limits.maxArrSize then [buf.data] else []
    ({}, ⟨cache.iovarr ++ last, cache.totalSz, cache.nmsgSet⟩)

/-- What both forms of `get_buf` do with the current buffer. -/
inductive Plan where
  | available (szmax : Nat)
  | full (buf : CurrBuf)
  | allocate (cache : IovecCache)

def plan (cache : IovecCache) (minSz : Nat) : Plan :=
  match cache.curr with
  | none => .allocate cache
  | some buf =>
    if (buf.data.length + minSz) % 2 ^ 32 ≤ buf.maxSz then .available (buf.maxSz - buf.data.length)
    else if buf.data ≠ [] then
      if cache.iovarr.length + 1 < limits.maxArrSize then .allocate (cache.moveCurr buf)
      else .full buf
    else .allocate { cache with curr := none }

/-- `get_buf`: the cache and `szmax`; `none` is an exception. -/
def getBuf (cache : IovecCache) (minSz recommSz : Nat) (answer : Answer) :
    IovecCache × Option Nat :=
  let recommSz := recommended minSz recommSz
  match cache.plan limits minSz with
  | .available szmax => (cache, some szmax)
  | .full buf =>
    match cache.getNextAllocSize limits minSz recommSz with
    | none => (cache, none)
    | some newrecom => cache.grow limits buf answer recommSz newrecom
  | .allocate cache =>
    match cache.getNextAllocSize limits minSz recommSz with
    | none => (cache, none)
    | some size =>
      if isRefused limits size then (cache, none) else cache.allocate limits answer size

/-- `get_buf` with a callback: the cache, `szmax` and what the callback received. -/
def getBufFlush (cache : IovecCache) (minSz recommSz : Nat) (answer : Answer) :
    IovecCache × Option Nat × Option IovecArray :=
  let recommSz := recommended minSz recommSz
  match cache.plan limits minSz with
  | .available szmax => (cache, some szmax, none)
  | .full _ =>
    let flushed := cache.getIovecArray limits
    (flushed.1, none, some flushed.2)
  | .allocate cache =>
    let flushed := cache.getIovecArray limits
    match cache.getNextAllocSize limits minSz recommSz with
    | none => if cache.iovarr = [] then (cache, none, none) else (flushed.1, none, some flushed.2)
    | some size =>
      if size = 0 then (flushed.1, none, some flushed.2)
      else if isRefused limits size then (cache, none, none)
      else
        let buf := newBuf limits answer [] size
        ({ cache with curr := some buf }, some buf.maxSz, none)

/-- `set_buf_sz`, after a message was written; `none` is an exception. -/
def setBufSz (cache : IovecCache) (message : Bytes) : Option IovecCache :=
  if message = [] then some cache
  else
    match cache.curr with
    | none => none
    | some buf =>
      if (buf.data.length + message.length) % 2 ^ 32 ≤ buf.maxSz then
        let buf := { buf with data := buf.data ++ message }
        let cache := { cache with
          curr := some buf
          nmsgSet := cache.nmsgSet + 1
          totalSz := (cache.totalSz + message.length) % 2 ^ 32 }
        if buf.data.length = buf.maxSz ∧ cache.iovarr.length + 1 < limits.maxArrSize then
          some (cache.moveCurr buf)
        else some cache
      else none

end

end IovecCache

/-! ## Runs -/

/-- The calls of a user of the cache. -/
inductive CacheCall where
  | getBuf (minSz recommSz : Nat) (answer : Answer)
  | getBufFlush (minSz recommSz : Nat) (answer : Answer)
  | setBufSz (message : Bytes)
  | getIovecArray
  deriving DecidableEq, Repr

/-- A cache, the size it granted, what it handed on and the messages it was given. -/
structure CacheRun where
  cache : IovecCache := {}
  granted : Nat := 0
  flushed : List IovecArray := []
  given : List Bytes := []
  deriving DecidableEq, Repr

namespace CacheRun

section

variable (limits : CacheLimits)

def step (run : CacheRun) : CacheCall → CacheRun
  | .getBuf minSz recommSz answer =>
    let result := run.cache.getBuf limits minSz recommSz answer
    { run with cache := result.1, granted := result.2.getD 0 }
  | .getBufFlush minSz recommSz answer =>
    let result := run.cache.getBufFlush limits minSz recommSz answer
    { run with
      cache := result.1
      granted := result.2.1.getD 0
      flushed := run.flushed ++ result.2.2.toList }
  | .setBufSz message =>
    match run.cache.setBufSz limits message with
    | none => run
    | some cache =>
      { run with
        cache := cache
        granted := run.granted - message.length
        given := run.given ++ if message = [] then [] else [message] }
  | .getIovecArray =>
    let flushed := run.cache.getIovecArray limits
    { run with
      cache := flushed.1
      granted := 0
      flushed := run.flushed ++ [flushed.2] }

/-- The sizes of a call of `get_buf` do not reach `2 ^ 32`, and the chunks that a pool returns for
the last buffer are not apart from it. -/
structure Fits (cache : IovecCache) (minSz recommSz : Nat) (answer : Answer) : Prop where
  size_lt : cache.totalSz + 2 * IovecCache.recommended minSz recommSz + answer.surplus < 2 ^ 32
  chunks_lt : ∀ elemSize ∈ cache.lastPool, ∀ buf ∈ cache.curr, 0 < elemSize ∧
    buf.room + divRoundUp (buf.data.length + 2 * IovecCache.recommended minSz recommSz) elemSize *
      (elemSize + tpoolElemSize) < 2 ^ 32
  not_apart : answer.ordered ≠ .apart

/-- What the calls assume. -/
def Allowed (run : CacheRun) : CacheCall → Prop
  | .getBuf minSz recommSz answer => Fits run.cache minSz recommSz answer
  | .getBufFlush minSz recommSz answer => Fits run.cache minSz recommSz answer
  | .setBufSz message =>
    message.length ≤ run.granted ∧ run.cache.totalSz + message.length < 2 ^ 32
  | .getIovecArray => True

end

/-! ## What the cache holds -/

/-- The bytes in the current buffer. -/
def currData (cache : IovecCache) : Bytes :=
  (cache.curr.map CurrBuf.data).getD []

/-- The messages in the cache since it was last handed on, and the size it grants: the current
buffer has the granted bytes, in the size the cache keeps and in its memory. -/
structure Sound (limits : CacheLimits) (cache : IovecCache) (granted : Nat)
    (messages : List Bytes) : Prop where
  arr_lt : cache.iovarr.length < limits.maxArrSize
  data_eq : cache.iovarr.flatten ++ currData cache = messages.flatten
  total_eq : cache.totalSz = messages.flatten.length
  total_lt : cache.totalSz < 2 ^ 32
  count_eq : cache.nmsgSet = messages.length
  nonempty : ∀ message ∈ messages, message ≠ []
  granted_eq : cache.curr = none → granted = 0
  room : ∀ buf ∈ cache.curr,
    buf.data.length + granted ≤ buf.maxSz ∧ buf.maxSz ≤ buf.room ∧ buf.maxSz < 2 ^ 32

section

variable {limits : CacheLimits} {cache : IovecCache} {granted : Nat} {messages : List Bytes}

lemma Sound.empty (some : 0 < limits.maxArrSize) : Sound limits {} 0 [] where
  arr_lt := some
  data_eq := rfl
  total_eq := rfl
  total_lt := by decide
  count_eq := rfl
  nonempty _ mem := absurd mem not_mem_nil
  granted_eq _ := rfl
  room _ mem := nomatch mem

lemma Sound.messages_eq_nil (sound : Sound limits cache granted messages)
    (zero : cache.totalSz = 0) : messages = [] := by
  have noBytes : messages.flatten = [] := eq_nil_of_length_eq_zero (sound.total_eq ▸ zero)
  refine eq_nil_iff_forall_not_mem.mpr fun message mem => sound.nonempty message mem ?_
  exact flatten_eq_nil_iff.mp noBytes message mem

variable {buf : CurrBuf} {minSz recommSz : Nat} {answer : Answer}

lemma Sound.used_le (sound : Sound limits cache granted messages)
    (isBuf : cache.curr = some buf) : buf.data.length ≤ cache.totalSz := by
  have lengths := congrArg List.length sound.data_eq
  rw [currData, isBuf, length_append] at lengths
  rw [sound.total_eq, ← lengths]
  exact Nat.le_add_left _ _

lemma le_recommended (minSz recommSz : Nat) : minSz ≤ IovecCache.recommended minSz recommSz := by
  rw [IovecCache.recommended]
  split
  · exact Nat.le_refl _
  · split <;> omega

lemma getNextAllocSize_bounds {size : Nat} (le : minSz ≤ recommSz)
    (isSize : cache.getNextAllocSize limits minSz recommSz = some size) :
    minSz ≤ size ∧ size ≤ 2 * recommSz := by
  rw [IovecCache.getNextAllocSize] at isSize
  split at isSize
  · split at isSize
    · cases isSize
    · obtain rfl := Option.some.inj isSize
      omega
  split at isSize
  · obtain rfl := Option.some.inj isSize
    omega
  split at isSize
  · obtain rfl := Option.some.inj isSize
    omega
  · obtain rfl := Option.some.inj isSize
    omega

section

variable (sound : Sound limits cache granted messages)
include sound

lemma Sound.ungranted : Sound limits cache 0 messages :=
  { sound with
    granted_eq := fun _ => rfl
    room := fun buf mem =>
      have ⟨within, real, bound⟩ := sound.room buf mem
      ⟨Nat.le_trans (Nat.le_add_right _ _) within, real, bound⟩ }

lemma Sound.moved {moved : IovecCache}
    (arr : moved.iovarr.length < limits.maxArrSize) (none : moved.curr = none)
    (data : moved.iovarr.flatten = messages.flatten) (total : moved.totalSz = cache.totalSz)
    (count : moved.nmsgSet = cache.nmsgSet) : Sound limits moved 0 messages where
  arr_lt := arr
  data_eq := by
    rw [currData, none, data]
    exact append_nil _
  total_eq := total.trans sound.total_eq
  total_lt := total ▸ sound.total_lt
  count_eq := count.trans sound.count_eq
  nonempty := sound.nonempty
  granted_eq _ := rfl
  room buf mem := by
    rw [none] at mem
    cases mem

lemma Sound.replaced {next : IovecCache} {szmax : Nat} (isBuf : next.curr = some buf)
    (data : buf.data = currData cache) (arr : next.iovarr = cache.iovarr)
    (total : next.totalSz = cache.totalSz) (count : next.nmsgSet = cache.nmsgSet)
    (room : buf.data.length + szmax ≤ buf.maxSz ∧ buf.maxSz ≤ buf.room ∧ buf.maxSz < 2 ^ 32) :
    Sound limits next szmax messages where
  arr_lt := arr ▸ sound.arr_lt
  data_eq := by
    rw [currData, isBuf, arr]
    exact (congrArg _ data).trans sound.data_eq
  total_eq := total.trans sound.total_eq
  total_lt := total ▸ sound.total_lt
  count_eq := count.trans sound.count_eq
  nonempty := sound.nonempty
  granted_eq none := by
    rw [isBuf] at none
    cases none
  room other mem := by
    rw [isBuf] at mem
    cases mem
    exact room

lemma Sound.plan (small : cache.totalSz + minSz < 2 ^ 32) :
    (∃ szmax, cache.plan limits minSz = .available szmax ∧ minSz ≤ szmax ∧
      Sound limits cache szmax messages) ∨
    (∃ buf, cache.plan limits minSz = .full buf ∧ cache.curr = some buf) ∨
    (∃ next, cache.plan limits minSz = .allocate next ∧ next.curr = none ∧
      next.totalSz = cache.totalSz ∧ Sound limits next 0 messages) := by
  rw [IovecCache.plan]
  cases isBuf : cache.curr with
  | none =>
    refine .inr (.inr ⟨cache, rfl, isBuf, rfl, sound.moved sound.arr_lt isBuf ?_ rfl rfl⟩)
    have data := sound.data_eq
    rw [currData, isBuf] at data
    exact (append_nil _).symm.trans data
  | some buf =>
    have used := sound.used_le isBuf
    obtain ⟨within, real, bound⟩ := sound.room buf isBuf
    dsimp only
    split
    next fits =>
      refine .inl ⟨_, rfl, by omega, sound.replaced isBuf ?_ rfl rfl rfl ⟨by omega, real, bound⟩⟩
      rw [currData, isBuf]
      rfl
    · have data := sound.data_eq
      rw [currData, isBuf] at data
      split
      · split
        next slot =>
          refine .inr (.inr ⟨_, rfl, rfl, rfl, sound.moved ?_ rfl ?_ rfl rfl⟩)
          · rw [IovecCache.moveCurr, length_append]
            exact slot
          · rw [IovecCache.moveCurr, flatten_append, flatten_singleton]
            exact data
        · exact .inr (.inl ⟨buf, rfl, rfl⟩)
      next noData =>
      refine .inr (.inr ⟨_, rfl, rfl, rfl, sound.moved sound.arr_lt rfl ?_ rfl rfl⟩)
      change cache.iovarr.flatten ++ buf.data = messages.flatten at data
      rw [not_not.mp noData] at data
      exact (append_nil _).symm.trans data

end

lemma Sound.newBuf (sound : Sound limits cache 0 messages) (none : cache.curr = none)
    {size : Nat} (small : size + answer.surplus < 2 ^ 32) (lastPool : Option Nat) :
    Sound limits { cache with
      curr := some (IovecCache.newBuf limits answer [] size), lastPool := lastPool }
      (size + answer.surplus) messages := by
  refine sound.replaced rfl ?_ rfl rfl rfl ⟨?_, Nat.le_refl _, small⟩
  · rw [currData, none]
    rfl
  · rw [IovecCache.newBuf]
    simp

/-- `get_buf` threw, or it returned at least the requested size. -/
def Served (limits : CacheLimits) (minSz : Nat) (messages : List Bytes)
    (result : IovecCache × Option Nat) : Prop :=
  Sound limits result.1 (result.2.getD 0) messages ∧ ∀ szmax ∈ result.2, minSz ≤ szmax

lemma Sound.served_none (sound : Sound limits cache granted messages) :
    Served limits minSz messages (cache, none) :=
  ⟨sound.ungranted, nofun⟩

lemma Sound.served_some {szmax : Nat} (sound : Sound limits cache szmax messages)
    (enough : minSz ≤ szmax) : Served limits minSz messages (cache, some szmax) := by
  refine ⟨sound, ?_⟩
  rintro _ ⟨⟩
  exact enough

lemma Sound.grow (sound : Sound limits cache granted messages)
    (isBuf : cache.curr = some buf) {newrecom : Nat}
    (fits : Fits cache minSz recommSz answer) (enough : minSz ≤ newrecom)
    (bound : newrecom ≤ 2 * IovecCache.recommended minSz recommSz) :
    Served limits minSz messages
      (cache.grow limits buf answer (IovecCache.recommended minSz recommSz) newrecom) := by
  have used := sound.used_le isBuf
  have sizeLt := fits.size_lt
  have recommended := le_recommended minSz recommSz
  have asz : (buf.data.length + newrecom) % 2 ^ 32 = buf.data.length + newrecom :=
    Nat.mod_eq_of_lt (by omega)
  have isData : buf.data = currData cache := by
    rw [currData, isBuf]
    rfl
  have copied : ∀ lastPool freeFp, Served limits minSz messages
      ({ cache with
          curr := some { data := buf.data
                         maxSz := buf.data.length + newrecom + answer.surplus
                         room := buf.data.length + newrecom + answer.surplus
                         freeFp := freeFp }
          lastPool := lastPool },
        some (buf.data.length + newrecom + answer.surplus - buf.data.length)) := by
    intro lastPool freeFp
    refine Sound.served_some
      (sound.replaced rfl isData rfl rfl rfl ⟨?_, Nat.le_refl _, ?_⟩) (by omega)
    · dsimp only
      omega
    · dsimp only
      omega
  rw [IovecCache.grow, asz]
  cases freeFp : buf.freeFp with
  | libc => exact copied _ _
  | pool =>
    have copiedOrThrown : Served limits minSz messages
        (match if IovecCache.isRefused limits (buf.data.length + newrecom) then none
          else some ({ cache with lastPool := none },
            IovecCache.newBuf limits answer buf.data (buf.data.length + newrecom)) with
        | none => (cache, none)
        | some (cache, buf) =>
          ({ cache with curr := some buf }, some (buf.maxSz - buf.data.length))) := by
      split_ifs
      · exact sound.served_none
      · exact copied _ _
    cases isPool : cache.lastPool with
    | none => exact copiedOrThrown
    | some elemSize =>
      obtain ⟨pos, chunksLt⟩ := fits.chunks_lt elemSize isPool buf isBuf
      cases ordered : answer.ordered with
      | apart => exact absurd ordered fits.not_apart
      | exhausted => exact copiedOrThrown
      | contiguous =>
        -- The chunks hold all that is used and the requested size, behind the old buffer.
        generalize isMin : min newrecom (IovecCache.recommended minSz recommSz) = more
        have moreLe : minSz ≤ more ∧ more ≤ 2 * IovecCache.recommended minSz recommSz := by omega
        have mod : (buf.data.length + more) % 2 ^ 32 = buf.data.length + more :=
          Nat.mod_eq_of_lt (by omega)
        generalize isChunks : divRoundUp (buf.data.length + more) elemSize = nchunks
        have chunksLe : nchunks * (elemSize + tpoolElemSize) ≤
            divRoundUp (buf.data.length + 2 * IovecCache.recommended minSz recommSz) elemSize *
              (elemSize + tpoolElemSize) := by
          rw [← isChunks]
          exact Nat.mul_le_mul_right _ (divRoundUp_le pos (by omega))
        have enoughRoom : buf.data.length + more ≤ nchunks * (elemSize + tpoolElemSize) := by
          have holds := le_divRoundUp_mul (buf.data.length + more) pos
          rw [isChunks] at holds
          exact holds.trans (Nat.mul_le_mul_left _ (Nat.le_add_right _ _))
        generalize isSize : nchunks * (elemSize + tpoolElemSize) = size at chunksLe enoughRoom
        have sizeMod : (buf.room + size) % 2 ^ 32 = buf.room + size :=
          Nat.mod_eq_of_lt (by omega)
        dsimp only
        rw [mod, isChunks, isSize, sizeMod]
        refine Sound.served_some
          (sound.replaced rfl isData rfl rfl rfl ⟨?_, Nat.le_refl _, ?_⟩) ?_
        · dsimp only
          omega
        · dsimp only
          omega
        · omega

lemma Sound.getBuf (sound : Sound limits cache granted messages)
    (fits : Fits cache minSz recommSz answer) :
    Served limits minSz messages (cache.getBuf limits minSz recommSz answer) := by
  have sizeLt := fits.size_lt
  have recommended := le_recommended minSz recommSz
  rw [IovecCache.getBuf]
  rcases sound.plan (show cache.totalSz + minSz < 2 ^ 32 by omega) with
    ⟨szmax, isPlan, enough, after⟩ | ⟨buf, isPlan, isBuf⟩ | ⟨next, isPlan, none, total, after⟩
  · rw [isPlan]
    exact after.served_some enough
  · rw [isPlan]
    dsimp only
    cases isSize : cache.getNextAllocSize limits minSz
        (IovecCache.recommended minSz recommSz) with
    | none => exact sound.served_none
    | some newrecom =>
      obtain ⟨lower, upper⟩ := getNextAllocSize_bounds recommended isSize
      exact sound.grow isBuf fits lower upper
  · rw [isPlan]
    dsimp only
    cases isSize : next.getNextAllocSize limits minSz
        (IovecCache.recommended minSz recommSz) with
    | none => exact after.served_none
    | some size =>
      obtain ⟨lower, upper⟩ := getNextAllocSize_bounds recommended isSize
      dsimp only
      split_ifs
      · exact after.served_none
      · exact (after.newBuf none (by omega) _).served_some
          (Nat.le_trans lower (Nat.le_add_right _ _))

/-- What is handed on has all messages in order, with their size and their number. -/
structure Exact (array : IovecArray) (messages : List Bytes) : Prop where
  data_eq : array.iovecs.flatten = messages.flatten
  total_eq : array.totalSz = messages.flatten.length
  count_eq : array.nmsgSet = messages.length

section

variable (sound : Sound limits cache granted messages)
include sound

lemma Sound.getIovecArray :
    Exact (cache.getIovecArray limits).2 messages ∧
      Sound limits (cache.getIovecArray limits).1 0 [] := by
  rw [IovecCache.getIovecArray]
  split
  next zero =>
    obtain rfl := sound.messages_eq_nil zero
    exact ⟨⟨rfl, rfl, rfl⟩, sound.ungranted⟩
  · refine ⟨⟨?_, sound.total_eq, sound.count_eq⟩, .empty (Nat.zero_lt_of_lt sound.arr_lt)⟩
    rw [← sound.data_eq, flatten_append, currData]
    cases isBuf : cache.curr with
    | none => rfl
    | some buf =>
      by_cases noData : buf.data = []
      · simp [noData]
      · simp [noData, sound.arr_lt]

lemma Sound.getBufFlush (fits : Fits cache minSz recommSz answer) :
    (∃ next array, cache.getBufFlush limits minSz recommSz answer = (next, none, some array) ∧
      Exact array messages ∧ Sound limits next 0 []) ∨
    (∃ next szmax, cache.getBufFlush limits minSz recommSz answer = (next, szmax, none) ∧
      (∀ size ∈ szmax, minSz ≤ size) ∧ Sound limits next (szmax.getD 0) messages) := by
  have sizeLt := fits.size_lt
  have recommended := le_recommended minSz recommSz
  rw [IovecCache.getBufFlush]
  rcases sound.plan (show cache.totalSz + minSz < 2 ^ 32 by omega) with
    ⟨szmax, isPlan, enough, after⟩ | ⟨buf, isPlan, isBuf⟩ | ⟨next, isPlan, none, total, after⟩
  · rw [isPlan]
    refine .inr ⟨_, _, rfl, ?_, after⟩
    rintro _ ⟨⟩
    exact enough
  · rw [isPlan]
    exact .inl ⟨_, _, rfl, sound.getIovecArray⟩
  rw [isPlan]
  dsimp only
  cases isSize : next.getNextAllocSize limits minSz
      (IovecCache.recommended minSz recommSz) with
  | none =>
    dsimp only
    split
    · exact .inr ⟨_, _, rfl, nofun, after⟩
    · exact .inl ⟨_, _, rfl, after.getIovecArray⟩
  | some size =>
    obtain ⟨lower, upper⟩ := getNextAllocSize_bounds recommended isSize
    dsimp only
    split
    · exact .inl ⟨_, _, rfl, after.getIovecArray⟩
    split
    · exact .inr ⟨_, _, rfl, nofun, after⟩
    · refine .inr ⟨_, _, rfl, ?_, after.newBuf none (by omega) next.lastPool⟩
      rintro _ ⟨⟩
      exact Nat.le_trans lower (Nat.le_add_right _ _)

lemma Sound.setBufSz {message : Bytes}
    (within : message.length ≤ granted) (small : cache.totalSz + message.length < 2 ^ 32) :
    ∃ next, cache.setBufSz limits message = some next ∧ Sound limits next (granted - message.length)
        (messages ++ if message = [] then [] else [message]) := by
  rw [IovecCache.setBufSz]
  by_cases noData : message = []
  · subst noData
    simp only [if_true, append_nil, length_nil, Nat.sub_zero]
    exact ⟨cache, rfl, sound⟩
  have pos := length_pos_iff.mpr noData
  rw [if_neg noData, if_neg noData]
  cases isBuf : cache.curr with
  | none =>
    have none := sound.granted_eq isBuf
    omega
  | some buf =>
    obtain ⟨room, real, bound⟩ := sound.room buf isBuf
    have data : cache.iovarr.flatten ++ buf.data = messages.flatten := by
      have data := sound.data_eq
      rw [currData, isBuf] at data
      exact data
    have written : Sound limits { cache with
        curr := some { buf with data := buf.data ++ message }
        nmsgSet := cache.nmsgSet + 1
        totalSz := (cache.totalSz + message.length) % 2 ^ 32 }
        (granted - message.length) (messages ++ [message]) :=
      { arr_lt := sound.arr_lt
        data_eq := by
          rw [flatten_append, ← data, flatten_singleton, append_assoc]
          rfl
        total_eq := by
          rw [flatten_append, flatten_singleton, length_append, ← sound.total_eq]
          exact Nat.mod_eq_of_lt small
        total_lt := Nat.mod_lt _ (by decide)
        count_eq := by
          rw [length_append, ← sound.count_eq]
          rfl
        nonempty := by
          intro other mem
          rcases mem_append.mp mem with earlier | last
          · exact sound.nonempty other earlier
          · rwa [mem_singleton.mp last]
        granted_eq := nofun
        room := by
          rintro _ ⟨⟩
          refine ⟨?_, real, bound⟩
          rw [length_append]
          dsimp only
          omega }
    dsimp only
    rw [if_pos (by omega)]
    split
    next full =>
      refine ⟨_, rfl, ?_⟩
      have used := full.1
      rw [length_append] at used
      rw [show granted - message.length = 0 by omega]
      refine written.moved ?_ rfl ?_ rfl rfl
      · rw [IovecCache.moveCurr, length_append]
        exact full.2
      · rw [← written.data_eq, IovecCache.moveCurr, flatten_append, flatten_singleton]
        rfl
    · exact ⟨_, rfl, written⟩

end

/-! ## Runs -/

/-- What was handed on and what the cache holds are the messages given, in order. -/
def Kept (limits : CacheLimits) (run : CacheRun) : Prop :=
  ∃ batches pending, List.Forall₂ Exact run.flushed batches ∧
    Sound limits run.cache run.granted pending ∧ run.given = batches.flatten ++ pending

/-- Every call keeps the messages in order and the room granted. -/
lemma Kept.step {run : CacheRun} (kept : Kept limits run) {call : CacheCall}
    (allowed : Allowed run call) : Kept limits (run.step limits call) := by
  obtain ⟨batches, pending, exact, sound, isGiven⟩ := kept
  have handedOn : ∀ {array : IovecArray} {cache : IovecCache}, Exact array pending →
      Sound limits cache 0 [] → Kept limits
        { run with cache := cache, granted := 0, flushed := run.flushed ++ [array] } := by
    intro array cache isExact after
    refine ⟨batches ++ [pending], [], rel_append exact (.cons isExact .nil), after, ?_⟩
    rw [flatten_append, flatten_singleton, append_nil]
    exact isGiven
  cases call with
  | getBuf minSz recommSz answer =>
    exact ⟨batches, pending, exact, (sound.getBuf allowed).1, isGiven⟩
  | getBufFlush minSz recommSz answer =>
    rw [CacheRun.step]
    rcases sound.getBufFlush allowed with ⟨next, array, result, isExact, after⟩ |
      ⟨next, szmax, result, -, after⟩
    · rw [result]
      exact handedOn isExact after
    · rw [result]
      refine ⟨batches, pending, ?_, after, isGiven⟩
      rw [Option.toList, append_nil]
      exact exact
  | setBufSz message =>
    obtain ⟨next, result, after⟩ := sound.setBufSz allowed.1 allowed.2
    rw [CacheRun.step, result]
    refine ⟨batches, _, exact, after, ?_⟩
    dsimp only
    rw [isGiven, append_assoc]
  | getIovecArray => exact handedOn sound.getIovecArray.1 sound.getIovecArray.2

/-- In every state reached, `get_buf` returns at least the requested size, the granted size is
there and can be taken, and what is handed on has all messages. -/
theorem run_delivers (some : 0 < limits.maxArrSize) (calls : List CacheCall)
    (allowed : Machine.Guarded (step limits) Allowed {} calls) :
    let run := Machine.run (step limits) {} calls
    (∀ minSz recommSz answer, Fits run.cache minSz recommSz answer →
      (∀ szmax ∈ (run.cache.getBuf limits minSz recommSz answer).2, minSz ≤ szmax) ∧
      ∀ szmax ∈ (run.cache.getBufFlush limits minSz recommSz answer).2.1, minSz ≤ szmax) ∧
    (∀ buf ∈ run.cache.curr, buf.data.length + run.granted ≤ buf.room) ∧
    (∀ message : Bytes, message.length ≤ run.granted → run.cache.totalSz + message.length < 2 ^ 32 →
        (run.cache.setBufSz limits message).isSome) ∧
    ∃ batches pending, List.Forall₂ Exact run.flushed batches ∧
      Exact (run.cache.getIovecArray limits).2 pending ∧
      run.given = batches.flatten ++ pending := by
  have keeps : ∀ (run : CacheRun) (call : CacheCall), Kept limits run → Allowed run call →
      Kept limits (run.step limits call) := fun _ _ kept now => kept.step now
  obtain ⟨batches, pending, exact, sound, isGiven⟩ :=
    allowed.invariant keeps ⟨[], [], .nil, .empty some, rfl⟩
  refine ⟨?_, ?_, ?_, batches, pending, exact, sound.getIovecArray.1, isGiven⟩
  · intro minSz recommSz answer fits
    refine ⟨(sound.getBuf fits).2, ?_⟩
    rcases sound.getBufFlush fits with ⟨_, _, result, -⟩ | ⟨_, _, result, enough, -⟩
    · rw [result]
      nofun
    · rw [result]
      exact enough
  · intro buf isBuf
    obtain ⟨within, real, -⟩ := sound.room buf isBuf
    exact within.trans real
  · intro message within small
    obtain ⟨next, result, -⟩ := sound.setBufSz within small
    rw [result]
    rfl

end

/-- An array of one buffer of 32 bytes, with a message of 10 bytes. -/
def oneBuffer : List CacheCall :=
  [.getBuf 8 8 ⟨16, true, 32, .contiguous⟩, .setBufSz (List.replicate 10 1)]

theorem run_delivers_oneBuffer :
    ((Machine.run (step ⟨1, 1000, true⟩) {} oneBuffer).cache.getBuf ⟨1, 1000, true⟩
      30 30 ⟨0, true, 32, .contiguous⟩).2 = some 134 ∧ 30 ≤ 134 := by
  have allowed : Machine.Guarded (step ⟨1, 1000, true⟩) Allowed {} oneBuffer :=
    ⟨⟨by decide, nofun, by decide⟩, ⟨by decide, by decide⟩, trivial⟩
  have fits : Fits (Machine.run (step ⟨1, 1000, true⟩) {} oneBuffer).cache 30 30
      ⟨0, true, 32, .contiguous⟩ := by
    refine ⟨by decide, ?_, by decide⟩
    rintro _ ⟨⟩ _ ⟨⟩
    decide
  have returned : ((Machine.run (step ⟨1, 1000, true⟩) {} oneBuffer).cache.getBuf ⟨1, 1000, true⟩
      30 30 ⟨0, true, 32, .contiguous⟩).2 = some 134 := by decide
  exact ⟨returned, ((run_delivers (by decide) oneBuffer allowed).1 30 30 _ fits).1 134 returned⟩

/-- Chunks apart from the last buffer: `get_buf` of 30 bytes returns 22, and a message of 30 bytes
is refused. -/
theorem getBuf_apart :
    (((Machine.run (step ⟨1, 1000, true⟩) {} oneBuffer).cache.getBuf ⟨1, 1000, true⟩
      30 30 ⟨0, true, 32, .apart⟩).2 = some 22) ∧ ((Machine.run (step ⟨1, 1000, true⟩) {}
      (oneBuffer ++ [.getBuf 30 30 ⟨0, true, 32, .apart⟩])).cache.setBufSz ⟨1, 1000, true⟩
        (List.replicate 30 1)) = none := by
  decide

end CacheRun

end Gyeeta.Misc
