import Mathlib.Data.List.Forall2
import Mathlib.Tactic.Ring
import Gyeeta.Lib.Ring
import Gyeeta.Lib.Run

/-!
# The packet pool

A writer passes records to a reader through a ring of buffers.  While the ring is full the writer
may allocate records dynamically; they are chained to the buffer it will write next, and read
before it.  A call is one step: one that waits is embedded as its last attempt, and calls exclude
each other by the lock of the pool.
-/

namespace Gyeeta.Misc

open List Gyeeta.Ring

/-- `PKT_RET_E`. -/
inductive PktRet where
  | success
  | blocking
  | error
  deriving DecidableEq, Repr

/-- `PKT_DYN_ELEM`; the length is a 32-bit number. -/
structure PktDynElem where
  bytes : List UInt8
  len : Nat
  isExternalBuf : Bool
  deriving DecidableEq, Repr

/-- `PKT_ELEM`.  `pbuf` has the bytes that were copied last, and `dyn` the chain from
`pdynhead` to `pdyntail`. -/
structure PktElem where
  pbuf : List UInt8
  len : Nat
  dlen : Nat
  isvalid : Bool
  dyn : List PktDynElem
  deriving DecidableEq, Repr

/-- The arguments of the constructor. -/
structure PoolArgs where
  bufcnt : Nat
  /-- The constructor asserts this. -/
  tenBufs : 10 ≤ bufcnt
  maxbuflen : Nat
  maxDynBufSize : Nat
  isUint32 : maxDynBufSize < 2 ^ 32
  multiProcess : Bool
  doRealloc : Bool

/-- `GY_PKT_POOL`. -/
structure PktPool where
  bufcnt : Nat
  maxDynBufSize : Nat
  curDynBufSize : Nat
  doRealloc : Bool
  elems : Nat → PktElem
  wr : Nat
  rd : Nat

/-- What the allocators answer during a call. -/
structure Allocs where
  malloc : Bool
  /-- `pext_bufalloc_fp` is set and returns a buffer. -/
  external : Bool
  deriving DecidableEq, Repr

namespace PktPool

def maxPktTcpReaderLag : Nat := 3

/-- The length of the buffers: a multiple of 8, as a 32-bit number. -/
def bufLen (lenin : Nat) : Nat :=
  max ((lenin + 7) / 8 * 8 % 2 ^ 32) 8

/-- `GY_PKT_POOL::GY_PKT_POOL`. -/
def new (args : PoolArgs) : PktPool where
  bufcnt := args.bufcnt
  maxDynBufSize := if args.multiProcess then 0 else args.maxDynBufSize
  curDynBufSize := 0
  doRealloc := !args.multiProcess && args.doRealloc
  elems := fun _ => ⟨[], 0, bufLen args.maxbuflen, false, []⟩
  wr := 0
  rd := 0

def setElem (pool : PktPool) (slot : Nat) (elem : PktElem) : PktPool :=
  { pool with elems := fun other => if other = slot then elem else pool.elems other }

/-- The writer finds no buffer: it is too close behind the reader, or the buffer is in use. -/
def toBlock (pool : PktPool) : Bool :=
  (decide (pool.rd < pool.wr) &&
      decide (pool.bufcnt - pool.wr + pool.rd - 1 < maxPktTcpReaderLag)) ||
    (decide (pool.wr < pool.rd) && decide (pool.rd - pool.wr < maxPktTcpReaderLag)) ||
    (pool.elems pool.wr).isvalid

/-- Chain a dynamic record to the next buffer. -/
def addDyn (pool : PktPool) (data : List UInt8) (isExternalBuf : Bool) : PktPool :=
  let elem := pool.elems pool.wr
  { pool.setElem pool.wr
      { elem with dyn := elem.dyn ++ [⟨data, data.length % 2 ^ 32, isExternalBuf⟩] } with
    curDynBufSize := (pool.curDynBufSize + data.length) % 2 ^ 32 }

/-- Put a record into the next buffer, whose size is `dlen`. -/
def putBuf (pool : PktPool) (data : List UInt8) (dlen : Nat) : PktPool :=
  let elem := pool.elems pool.wr
  { pool.setElem pool.wr
      { elem with pbuf := data, len := data.length % 2 ^ 32, dlen := dlen, isvalid := true } with
    wr := if pool.wr + 1 = pool.bufcnt then 0 else pool.wr + 1 }

/-- `GY_PKT_POOL::pool_write_buffer`, for the bytes of all its pieces. -/
def poolWriteBuffer (pool : PktPool) (allocs : Allocs) (data : List UInt8) : PktRet × PktPool :=
  let elem := pool.elems pool.wr
  if pool.toBlock then
    if 0 < pool.maxDynBufSize then
      if pool.maxDynBufSize < pool.curDynBufSize + data.length then
        if allocs.external then (.success, pool.addDyn data true) else (.blocking, pool)
      else if allocs.malloc then (.success, pool.addDyn data false)
      else (.blocking, pool)
    else (.blocking, pool)
  else if elem.dlen < data.length then
    if pool.doRealloc && allocs.malloc then
      (.success, pool.putBuf data ((data.length + 128) % 2 ^ 32))
    else (.error, pool)
  else (.success, pool.putBuf data elem.dlen)

/-- `GY_PKT_POOL::pool_get_write_buf`: the buffer to fill, by its place in the ring. -/
def poolGetWriteBuf (pool : PktPool) : PktRet × Option Nat :=
  if pool.toBlock then (.blocking, none) else (.success, some pool.wr)

/-- `GY_PKT_POOL::pool_save_write_buf` with the bytes that the buffer was filled with.
`sameBuf` tells that it is called with the buffer that it was given. -/
def poolSaveWriteBuf (pool : PktPool) (savedWr : Nat) (sameBuf : Bool) (bytes : List UInt8) :
    PktRet × PktPool :=
  if 0 < bytes.length then
    if pool.bufcnt ≤ savedWr then (.error, pool)
    else if (pool.elems savedWr).dlen < bytes.length then (.error, pool)
    else if !sameBuf then (.error, pool)
    else (.success, { pool with wr := savedWr }.putBuf bytes (pool.elems savedWr).dlen)
  else (.error, pool)

/-- A buffer is taken, filled and saved. -/
def zeroCopyWrite (pool : PktPool) (sameBuf : Bool) (bytes : List UInt8) : PktRet × PktPool :=
  match pool.poolGetWriteBuf with
  | (.success, some savedWr) => pool.poolSaveWriteBuf savedWr sameBuf bytes
  | (ret, _) => (ret, pool)

/-- `GY_PKT_POOL::pool_read_buffer`, with the bytes that it copies. -/
def poolReadBuffer (pool : PktPool) (size : Nat) : Option (List UInt8) × PktPool :=
  let elem := pool.elems pool.rd
  match elem.dyn with
  | dynElem :: rest =>
    (some (dynElem.bytes.take (min size dynElem.len)),
      { pool.setElem pool.rd { elem with dyn := rest } with
        curDynBufSize := (pool.curDynBufSize + (2 ^ 32 - dynElem.len)) % 2 ^ 32 })
  | [] =>
    if elem.isvalid then
      (some (elem.pbuf.take (min size elem.len)),
        { pool.setElem pool.rd { elem with isvalid := false } with
          rd := if pool.rd + 1 = pool.bufcnt then 0 else pool.rd + 1 })
    else (none, pool)

end PktPool

/-! ## Runs -/

/-- A call of the writer or of the reader. -/
inductive PoolEvent where
  | write (allocs : Allocs) (data : List UInt8)
  | zeroCopy (sameBuf : Bool) (bytes : List UInt8)
  | read (size : Nat)

/-- A pool with the records that were written and the bytes that were read, with the size of
the reader's buffer. -/
structure PoolRun where
  pool : PktPool
  written : List (List UInt8)
  reads : List (Nat × List UInt8)

namespace PoolRun

def init (args : PoolArgs) : PoolRun := ⟨.new args, [], []⟩

/-- Note a record that was written. -/
def noteWrite (run : PoolRun) (data : List UInt8) (result : PktRet × PktPool) : PoolRun :=
  { run with
    pool := result.2
    written := if result.1 = .success then run.written ++ [data] else run.written }

def step (run : PoolRun) : PoolEvent → PoolRun
  | .write allocs data => run.noteWrite data (run.pool.poolWriteBuffer allocs data)
  | .zeroCopy sameBuf bytes => run.noteWrite bytes (run.pool.zeroCopyWrite sameBuf bytes)
  | .read size =>
    match run.pool.poolReadBuffer size with
    | (some bytes, pool) => { run with pool := pool, reads := run.reads ++ [(size, bytes)] }
    | (none, pool) => { run with pool := pool }

end PoolRun

namespace PktPool

/-- The dynamic records that are queued. -/
def queuedDyn (pool : PktPool) : List PktDynElem :=
  (List.range pool.bufcnt).flatMap fun offset =>
    (pool.elems (index pool.bufcnt pool.rd offset)).dyn

end PktPool

/-- The records that were read are the first that were written, each cut to the size of the
reader's buffer, and the counter of the dynamic buffers is the size of those queued. -/
def PoolRun.Fifo (run : PoolRun) : Prop :=
  (∃ taken queued, run.written = taken ++ queued ∧
      List.Forall₂ (fun read record => read.2 = record.take read.1) run.reads taken) ∧
    run.pool.curDynBufSize = (run.pool.queuedDyn.map (·.bytes.length)).sum

/-! ## The queue in the ring -/

/-- What a buffer holds: dynamic records and then, if it is valid, its own record. -/
def PktElem.view (elem : PktElem) : List PktDynElem × Option (List UInt8) :=
  (elem.dyn, if elem.isvalid then some (elem.pbuf.take elem.len) else none)

lemma PktElem.isvalid_of_view {elem : PktElem} (view : elem.view.2 = none) :
    elem.isvalid = false := by
  cases isvalid : elem.isvalid with
  | false => rfl
  | true =>
    rw [PktElem.view, isvalid, if_pos rfl] at view
    exact absurd view (Option.some_ne_none _)

lemma PktElem.isvalid_of_view_some {elem : PktElem} {data : List UInt8}
    (view : elem.view.2 = some data) : elem.isvalid = true ∧ elem.pbuf.take elem.len = data := by
  cases isvalid : elem.isvalid with
  | false =>
    rw [PktElem.view, isvalid, if_neg Bool.false_ne_true] at view
    exact absurd view.symm (Option.some_ne_none _)
  | true =>
    rw [PktElem.view, isvalid, if_pos rfl] at view
    exact ⟨rfl, Option.some.inj view⟩

/-- The buffers from the reader to the writer: filled ones, and the one to write next. -/
def ringContents (full : List (List PktDynElem × List UInt8)) (last : List PktDynElem) :
    List (List PktDynElem × Option (List UInt8)) :=
  full.map (fun slot => (slot.1, some slot.2)) ++ [(last, none)]

/-- The records in the order in which they are read. -/
def ringQueue (full : List (List PktDynElem × List UInt8)) (last : List PktDynElem) :
    List (List UInt8) :=
  full.flatMap (fun slot => slot.1.map (·.bytes) ++ [slot.2]) ++ last.map (·.bytes)

/-- The dynamic records among them. -/
def ringDyn (full : List (List PktDynElem × List UInt8)) (last : List PktDynElem) :
    List PktDynElem :=
  full.flatMap (·.1) ++ last

namespace PktPool

/-- The pool is a queue of records. -/
structure Represents (pool : PktPool) (full : List (List PktDynElem × List UInt8))
    (last : List PktDynElem) : Prop where
  tenBufs : 10 ≤ pool.bufcnt
  rd_lt : pool.rd < pool.bufcnt
  room : full.length + 2 ≤ pool.bufcnt
  wr : pool.wr = index pool.bufcnt pool.rd full.length
  holds : Ring.Holds (fun slot => (pool.elems slot).view) pool.bufcnt pool.rd ([], none)
    (ringContents full last)
  dlen : ∀ slot, (pool.elems slot).dlen < 2 ^ 32
  maxDyn : pool.maxDynBufSize < 2 ^ 32
  counter : pool.curDynBufSize = ((ringDyn full last).map (·.bytes.length)).sum
  counter_lt : pool.curDynBufSize < 2 ^ 32
  sized : ∀ dynElem ∈ ringDyn full last, dynElem.len = dynElem.bytes.length

variable {pool : PktPool} {full : List (List PktDynElem × List UInt8)}
  {last : List PktDynElem} {data : List UInt8}

lemma represents_new (args : PoolArgs) : Represents (new args) [] [] where
  tenBufs := args.tenBufs
  rd_lt := Nat.lt_of_lt_of_le (show 0 < 10 by decide) args.tenBufs
  room := Nat.le_trans (by decide) args.tenBufs
  wr := (index_zero (Nat.lt_of_lt_of_le (show 0 < 10 by decide) args.tenBufs)).symm
  holds := by
    intro offset _
    cases offset <;> rfl
  dlen := by
    intro slot
    have modLt := Nat.mod_lt ((args.maxbuflen + 7) / 8 * 8) (show 2 ^ 32 > 0 by decide)
    exact Nat.max_lt.mpr ⟨modLt, by decide⟩
  maxDyn := by
    rw [new]
    dsimp only
    split
    · decide
    · exact args.isUint32
  counter := rfl
  counter_lt := by
    show 0 < 2 ^ 32
    decide
  sized := fun _ mem => absurd mem not_mem_nil

lemma length_ringContents : (ringContents full last).length = full.length + 1 := by
  rw [ringContents, length_append, length_map, length_singleton]

section

variable (rep : Represents pool full last)
include rep

lemma Represents.view_wr :
    (pool.elems pool.wr).view = (last, none) := by
  have atWr : (pool.elems (index pool.bufcnt pool.rd full.length)).view = _ :=
    rep.holds full.length (by have := rep.room; omega)
  rw [rep.wr, atWr, ringContents, getD_eq_getElem?_getD,
    List.getElem?_append_right (Nat.le_of_eq (length_map _)), length_map, Nat.sub_self]
  rfl

lemma Represents.elem_wr :
    (pool.elems pool.wr).dyn = last ∧ (pool.elems pool.wr).isvalid = false := by
  have view := rep.view_wr
  exact ⟨congrArg Prod.fst view, PktElem.isvalid_of_view (congrArg Prod.snd view)⟩

lemma Represents.room_of_not_toBlock
    (free : pool.toBlock = false) : full.length + 3 ≤ pool.bufcnt := by
  have isWr := rep.wr
  have inside := rep.rd_lt
  have room := rep.room
  have ten := rep.tenBufs
  simp only [toBlock, maxPktTcpReaderLag, Bool.or_eq_false_iff, Bool.and_eq_false_iff,
    decide_eq_false_iff_not] at free
  obtain ⟨⟨ahead, behind⟩, -⟩ := free
  rw [index] at isWr
  split at isWr
  · rcases ahead with notAhead | far
    · omega
    · have lag := of_decide_eq_false far
      omega
  · rcases behind with notBehind | far
    · omega
    · have lag := of_decide_eq_false far
      omega

end

lemma view_setElem (slot : Nat) (elem : PktElem) :
    (fun other => ((pool.setElem slot elem).elems other).view) =
      fun other => if other = slot then elem.view else (pool.elems other).view := by
  funext other
  exact apply_ite PktElem.view _ _ _

lemma set_ringContents (slot : List PktDynElem × Option (List UInt8)) :
    (ringContents full last).set full.length slot =
      full.map (fun slot => (slot.1, some slot.2)) ++ [slot] := by
  rw [ringContents, set_append_right _ _ (Nat.le_of_eq (length_map _)), length_map, Nat.sub_self]
  rfl

lemma dlen_setElem {slot : Nat} {elem : PktElem} (dlen : ∀ slot, (pool.elems slot).dlen < 2 ^ 32)
    (elemDlen : elem.dlen < 2 ^ 32) (other : Nat) :
    ((pool.setElem slot elem).elems other).dlen < 2 ^ 32 := by
  rw [setElem]
  dsimp only
  split
  · exact elemDlen
  · exact dlen other

lemma Represents.addDyn (rep : Represents pool full last)
    (fits : pool.curDynBufSize + data.length < 2 ^ 32) (isExternalBuf : Bool) :
    Represents (pool.addDyn data isExternalBuf) full
      (last ++ [⟨data, data.length % 2 ^ 32, isExternalBuf⟩]) :=
  { rep with
    holds := by
      obtain ⟨dyn, notValid⟩ := rep.elem_wr
      have room := rep.room
      have set := @Ring.Holds.set _ _ full.length _ _ _ _ rep.holds (by omega)
        (by rw [length_ringContents]; omega)
        (last ++ [⟨data, data.length % 2 ^ 32, isExternalBuf⟩], none)
      rw [set_ringContents, ← rep.wr] at set
      have view := @view_setElem pool pool.wr { pool.elems pool.wr with
        dyn := last ++ [⟨data, data.length % 2 ^ 32, isExternalBuf⟩] }
      rw [PktElem.view, notValid] at view
      rw [PktPool.addDyn, dyn]
      exact view ▸ set
    dlen := dlen_setElem rep.dlen (rep.dlen _)
    counter := by
      show (pool.curDynBufSize + data.length) % 2 ^ 32 = _
      rw [Nat.mod_eq_of_lt fits, rep.counter, ringDyn, ringDyn, ← append_assoc]
      simp only [map_append, sum_append, map_singleton, sum_singleton]
    counter_lt := Nat.mod_lt _ (by decide)
    sized := by
      intro dynElem mem
      rw [ringDyn, ← append_assoc, mem_append] at mem
      rcases mem with before | isNew
      · exact rep.sized dynElem before
      · rw [mem_singleton] at isNew
        rw [isNew]
        exact Nat.mod_eq_of_lt (by omega) }

lemma ringDyn_concat : ringDyn (full ++ [(last, data)]) [] = ringDyn full last := by
  rw [ringDyn, ringDyn, flatMap_append, append_nil, flatMap_singleton]

lemma Represents.putBuf (rep : Represents pool full last)
    (room : full.length + 3 ≤ pool.bufcnt) (short : data.length < 2 ^ 32) {dlen : Nat}
    (dlenLt : dlen < 2 ^ 32) : Represents (pool.putBuf data dlen) (full ++ [(last, data)]) [] :=
  { rep with
    room := by
      rw [length_append, length_singleton]
      exact room
    wr := by
      rw [length_append, length_singleton]
      show next pool.bufcnt pool.wr = _
      rw [rep.wr]
      exact next_index rep.rd_lt (by omega)
    holds := by
      obtain ⟨dyn, notValid⟩ := rep.elem_wr
      have set := @Ring.Holds.set _ _ full.length _ _ _ _ rep.holds (by omega)
        (by rw [length_ringContents]; omega) (last, some data)
      rw [set_ringContents, ← rep.wr] at set
      have view := @view_setElem pool pool.wr { pool.elems pool.wr with
        pbuf := data, len := data.length % 2 ^ 32, dlen := dlen, isvalid := true }
      rw [PktElem.view, Nat.mod_eq_of_lt short, take_length, dyn] at view
      have pushed := set.push_empty
      rw [ringContents, map_append]
      rw [PktPool.putBuf, Nat.mod_eq_of_lt short]
      exact view ▸ pushed
    dlen := dlen_setElem rep.dlen dlenLt
    counter := by
      rw [ringDyn_concat]
      exact rep.counter
    sized := by
      intro dynElem mem
      rw [ringDyn_concat] at mem
      exact rep.sized dynElem mem }

/-- What a write does to the queue: nothing, or the record is appended. -/
def Appends (pool : PktPool) (data : List UInt8) (queue : List (List UInt8))
    (result : PktRet × PktPool) : Prop :=
  (result.1 ≠ .success ∧ result.2 = pool) ∨
    (result.1 = .success ∧ ∃ full last, Represents result.2 full last ∧
      ringQueue full last = queue ++ [data])

section

variable (rep : Represents pool full last)
include rep

lemma Represents.appends_addDyn
    (fits : pool.curDynBufSize + data.length < 2 ^ 32) (isExternalBuf : Bool) :
    Appends pool data (ringQueue full last) (.success, pool.addDyn data isExternalBuf) := by
  refine .inr ⟨rfl, _, _, rep.addDyn fits isExternalBuf, ?_⟩
  rw [ringQueue, ringQueue, map_append, ← append_assoc]
  rfl

lemma Represents.appends_putBuf
    (free : pool.toBlock = false) (short : data.length < 2 ^ 32) {dlen : Nat}
    (dlenLt : dlen < 2 ^ 32) :
    Appends pool data (ringQueue full last) (.success, pool.putBuf data dlen) := by
  refine .inr ⟨rfl, _, _, rep.putBuf (rep.room_of_not_toBlock free) short dlenLt, ?_⟩
  rw [ringQueue, ringQueue, flatMap_append, flatMap_singleton, map_nil, append_nil, append_assoc]

lemma Represents.appends_poolWriteBuffer (allocs : Allocs) (short : data.length < 2 ^ 32)
    (fits : allocs.external = true → pool.curDynBufSize + data.length < 2 ^ 32) :
    Appends pool data (ringQueue full last) (pool.poolWriteBuffer allocs data) := by
  have refused : ∀ ret, ret ≠ PktRet.success →
      Appends pool data (ringQueue full last) (ret, pool) := fun _ failed => .inl ⟨failed, rfl⟩
  rw [poolWriteBuffer]
  split
  · split
    · split
      · split
        next external =>
          exact rep.appends_addDyn (fits external) true
        · exact refused _ PktRet.noConfusion
      next within =>
      have maxDyn := rep.maxDyn
      split
      · exact rep.appends_addDyn (by omega) false
      · exact refused _ PktRet.noConfusion
    · exact refused _ PktRet.noConfusion
  next notBlocked =>
  have free := Bool.eq_false_iff.mpr notBlocked
  split
  · split
    · exact rep.appends_putBuf free short (Nat.mod_lt _ (by decide))
    · exact refused _ PktRet.noConfusion
  · exact rep.appends_putBuf free short (rep.dlen _)

lemma Represents.appends_zeroCopyWrite (sameBuf : Bool) :
    Appends pool data (ringQueue full last) (pool.zeroCopyWrite sameBuf data) := by
  have refused : ∀ ret, ret ≠ PktRet.success →
      Appends pool data (ringQueue full last) (ret, pool) := fun _ failed => .inl ⟨failed, rfl⟩
  rw [zeroCopyWrite, poolGetWriteBuf]
  cases free : pool.toBlock with
  | true => exact refused _ PktRet.noConfusion
  | false =>
    simp only [Bool.false_eq_true, if_false]
    rw [poolSaveWriteBuf]
    split
    · split
      · exact refused _ PktRet.noConfusion
      split
      · exact refused _ PktRet.noConfusion
      next within =>
      have dlen := rep.dlen pool.wr
      split
      · exact refused _ PktRet.noConfusion
      · exact rep.appends_putBuf free (by omega) dlen
    · exact refused _ PktRet.noConfusion

end

/-! ## Reading -/

/-- What a read does to the queue: nothing if it is empty, else the first record is taken. -/
def Takes (pool : PktPool) (size : Nat) (queue : List (List UInt8))
    (result : Option (List UInt8) × PktPool) : Prop :=
  (queue = [] ∧ result = (none, pool)) ∨
    ∃ data full last, queue = data :: ringQueue full last ∧
      result.1 = some (data.take size) ∧ Represents result.2 full last

lemma take_min_length (size : Nat) (bytes : List UInt8) {len : Nat}
    (isLen : len = bytes.length) : bytes.take (min size len) = bytes.take size := by
  rw [isLen, take_eq_take_iff, Nat.min_assoc, Nat.min_self]

lemma counter_read {current rest len : Nat} (isSum : current = len + rest)
    (small : current < 2 ^ 32) : (current + (2 ^ 32 - len)) % 2 ^ 32 = rest := by
  omega

lemma Represents.view_rd (rep : Represents pool full last) :
    (pool.elems pool.rd).view = (ringContents full last).getD 0 ([], none) := by
  have atRd := rep.holds 0 (by have := rep.tenBufs; omega)
  rw [index_zero rep.rd_lt] at atRd
  exact atRd

lemma Represents.popDyn (rep : Represents pool full last) {dynElem : PktDynElem}
    {rest last' : List PktDynElem} {full' : List (List PktDynElem × List UInt8)}
    (sameLength : full'.length = full.length) (contents : ringContents full' last' =
      (ringContents full last).set 0 (rest, (pool.elems pool.rd).view.2))
    (dyns : ringDyn full last = dynElem :: ringDyn full' last') : Represents
      { pool.setElem pool.rd { pool.elems pool.rd with dyn := rest } with
        curDynBufSize := (pool.curDynBufSize + (2 ^ 32 - dynElem.len)) % 2 ^ 32 } full' last' :=
  { rep with
    room := by
      rw [sameLength]
      exact rep.room
    wr := by
      rw [sameLength]
      exact rep.wr
    holds := by
      have ten := rep.tenBufs
      have set := @Ring.Holds.set _ _ 0 _ _ _ _ rep.holds (by omega)
        (by rw [length_ringContents]; omega) (rest, (pool.elems pool.rd).view.2)
      rw [index_zero rep.rd_lt, ← contents] at set
      exact @view_setElem pool pool.rd { pool.elems pool.rd with dyn := rest } ▸ set
    dlen := dlen_setElem rep.dlen (rep.dlen _)
    counter := by
      have counter := rep.counter
      rw [dyns, map_cons, sum_cons, ← rep.sized dynElem (dyns ▸ mem_cons_self)]
        at counter
      exact counter_read counter rep.counter_lt
    counter_lt := Nat.mod_lt _ (by decide)
    sized := fun other mem => rep.sized other (dyns ▸ mem_cons_of_mem _ mem) }

lemma Represents.popBuf (rep : Represents pool (([], data) :: full) last) : Represents
      { pool.setElem pool.rd { pool.elems pool.rd with isvalid := false } with
        rd := if pool.rd + 1 = pool.bufcnt then 0 else pool.rd + 1 } full last :=
  { rep with
    rd_lt := next_lt rep.rd_lt
    room := by
      have room := rep.room
      rw [length_cons] at room
      exact Nat.le_of_succ_le room
    wr := by
      have room := rep.room
      rw [length_cons] at room
      exact rep.wr.trans (index_next (by omega)).symm
    holds := by
      have room := rep.room
      rw [length_cons] at room
      have set := @Ring.Holds.set _ _ 0 _ _ _ _ rep.holds (by omega)
        (by rw [length_ringContents]; omega) ([], none)
      rw [index_zero rep.rd_lt] at set
      have dyn : (pool.elems pool.rd).dyn = [] := congrArg Prod.fst rep.view_rd
      have view := @view_setElem pool pool.rd { pool.elems pool.rd with isvalid := false }
      rw [show PktElem.view { pool.elems pool.rd with isvalid := false } = ([], none) from
        Prod.ext dyn rfl] at view
      have advanced := @Ring.Holds.advance _ _ _ _ _ (ringContents full last) set rep.rd_lt
        (by rw [length_ringContents]; omega)
      exact view ▸ advanced
    dlen := dlen_setElem rep.dlen (rep.dlen _) }

lemma Represents.takes_poolReadBuffer (rep : Represents pool full last) (size : Nat) :
    Takes pool size (ringQueue full last) (pool.poolReadBuffer size) := by
  rw [poolReadBuffer]
  -- which buffer the reader is at, and what is chained to it
  rcases full with _ | ⟨⟨_ | ⟨dynElem, rest⟩, data⟩, full⟩
  · rcases last with _ | ⟨dynElem, rest⟩
    · have dyn : (pool.elems pool.rd).dyn = [] := congrArg Prod.fst rep.view_rd
      have isEmpty := PktElem.isvalid_of_view (congrArg Prod.snd rep.view_rd)
      simp only [dyn, isEmpty, Bool.false_eq_true, if_false]
      exact .inl ⟨rfl, rfl⟩
    have dyn : (pool.elems pool.rd).dyn = dynElem :: rest := congrArg Prod.fst rep.view_rd
    have isLen := rep.sized dynElem mem_cons_self
    simp only [dyn, take_min_length size dynElem.bytes isLen]
    refine .inr ⟨dynElem.bytes, [], rest, rfl, rfl, rep.popDyn rfl ?_ rfl⟩
    rw [rep.view_rd]
    rfl
  · have dyn : (pool.elems pool.rd).dyn = [] := congrArg Prod.fst rep.view_rd
    obtain ⟨isValid, isData⟩ := PktElem.isvalid_of_view_some (congrArg Prod.snd rep.view_rd)
    have popped := rep.popBuf
    simp only [dyn] at popped
    simp only [dyn, isValid, if_true]
    refine .inr ⟨data, full, last, rfl, ?_, popped⟩
    rw [← show _ = data from isData, take_take]
  · have dyn : (pool.elems pool.rd).dyn = dynElem :: rest := congrArg Prod.fst rep.view_rd
    have isLen := rep.sized dynElem mem_cons_self
    simp only [dyn, take_min_length size dynElem.bytes isLen]
    refine .inr ⟨dynElem.bytes, (rest, data) :: full, last, rfl, rfl, rep.popDyn rfl ?_ rfl⟩
    rw [rep.view_rd]
    rfl

lemma Represents.queuedDyn_eq (rep : Represents pool full last) :
    pool.queuedDyn = ringDyn full last := by
  have room := rep.room
  rw [queuedDyn]
  refine (rep.holds.flatMap (by rw [length_ringContents]; omega)
    (show Prod.fst (([], none) : List PktDynElem × Option (List UInt8)) = [] from rfl)).trans ?_
  rw [ringContents, ringDyn, flatMap_append, flatMap_map, flatMap_singleton]

end PktPool

namespace PoolRun

/-- The condition on a call: a record is shorter than 2^32 bytes, and one in an external
buffer does not carry the 32-bit counter of the dynamic buffers over. -/
def Fits (run : PoolRun) : PoolEvent → Prop
  | .write allocs data => data.length < 2 ^ 32 ∧
    (allocs.external = true → run.pool.curDynBufSize + data.length < 2 ^ 32)
  | .zeroCopy _ _ => True
  | .read _ => True

/-- The pool is a queue, and the records that left it were read. -/
def Ok (run : PoolRun) : Prop :=
  ∃ full last, run.pool.Represents full last ∧ ∃ taken,
    run.written = taken ++ ringQueue full last ∧
      List.Forall₂ (fun read record => read.2 = record.take read.1) run.reads taken

variable {run : PoolRun}

lemma Ok.fifo (ok : run.Ok) : run.Fifo := by
  obtain ⟨full, last, rep, taken, written, read⟩ := ok
  refine ⟨⟨taken, _, written, read⟩, ?_⟩
  rw [rep.queuedDyn_eq]
  exact rep.counter

lemma ok_init (args : PoolArgs) : (init args).Ok :=
  ⟨[], [], PktPool.represents_new args, [], rfl, .nil⟩

variable {data : List UInt8}

lemma ok_noteWrite {full : List (List PktDynElem × List UInt8)} {last : List PktDynElem}
    {taken : List (List UInt8)} {result : PktRet × PktPool}
    (rep : run.pool.Represents full last) (written : run.written = taken ++ ringQueue full last)
    (read : List.Forall₂ (fun read record => read.2 = record.take read.1) run.reads taken)
    (appends : run.pool.Appends data (ringQueue full last) result) :
    (run.noteWrite data result).Ok := by
  rcases appends with ⟨failed, same⟩ | ⟨succeeded, full', last', rep', queue⟩
  · rw [← same] at rep
    refine ⟨full, last, rep, taken, ?_, read⟩
    rw [noteWrite, if_neg failed]
    exact written
  · refine ⟨full', last', rep', taken, ?_, read⟩
    rw [noteWrite, if_pos succeeded, queue, written, append_assoc]

/-- Each call keeps the pool a queue whose records are read in order. -/
lemma Ok.step (ok : run.Ok) {event : PoolEvent} (fits : run.Fits event) :
    (run.step event).Ok := by
  obtain ⟨full, last, rep, taken, written, read⟩ := ok
  cases event with
  | write allocs data =>
    exact ok_noteWrite rep written read (rep.appends_poolWriteBuffer allocs fits.1 fits.2)
  | zeroCopy sameBuf bytes =>
    exact ok_noteWrite rep written read (rep.appends_zeroCopyWrite sameBuf)
  | read size =>
    rw [PoolRun.step]
    rcases rep.takes_poolReadBuffer size with
      ⟨-, nothing⟩ | ⟨data, full', last', queue, bytes, rep'⟩
    · rw [nothing]
      exact ⟨full, last, rep, taken, written, read⟩
    have result : run.pool.poolReadBuffer size =
        (some (data.take size), (run.pool.poolReadBuffer size).2) := Prod.ext bytes rfl
    rw [result]
    refine ⟨full', last', rep', taken ++ [data], ?_, ?_⟩
    · rw [append_assoc]
      exact written.trans (congrArg _ queue)
    · exact rel_append read (.cons rfl .nil)

/-- In every run whose records fit, the reader gets the first records that were written, in
order, and the counter of the dynamic buffers is right. -/
theorem run_fifo (args : PoolArgs) (events : List PoolEvent)
    (fits : Machine.Guarded step Fits (init args) events) :
    (Machine.run step (init args) events).Fifo :=
  Ok.fifo (fits.invariant (fun _ _ ok allowed => ok.step allowed) (ok_init args))

/-- A small pool that may grow its buffers. -/
def smallPool : PoolArgs where
  bufcnt := 10
  tenBufs := Nat.le_refl 10
  maxbuflen := 8
  maxDynBufSize := 100
  isUint32 := by decide
  multiProcess := false
  doRealloc := true

/-- Twelve writes, so that the last ones go to dynamic buffers, between reads. -/
def twelveWrites : List PoolEvent :=
  (List.range 12).map (fun number => .write ⟨true, false⟩ [number.toUInt8, 1, 2]) ++
    [.read 2, .read 5, .zeroCopy true [7, 7], .read 5, .read 1]

instance (run : PoolRun) (event : PoolEvent) : Decidable (run.Fits event) :=
  match event with
  | .write _ _ => inferInstanceAs (Decidable (_ ∧ _))
  | .zeroCopy _ _ => isTrue trivial
  | .read _ => isTrue trivial

theorem twelveWrites_fifo : (Machine.run step (init smallPool) twelveWrites).Fifo :=
  run_fifo smallPool twelveWrites (by decide +kernel)

example : (Machine.run step (init smallPool) twelveWrites).pool.curDynBufSize = 15 := by
  decide +kernel

lemma step_hugeRecord (huge : data.length = 2 ^ 32) :
    (Machine.run step (init smallPool) [.write ⟨true, false⟩ data, .read 100]).written = [data] ∧
      (Machine.run step (init smallPool) [.write ⟨true, false⟩ data, .read 100]).reads =
        [(100, [])] := by
  have larger : ((PktPool.new smallPool).elems (PktPool.new smallPool).wr).dlen <
      data.length := by
    rw [huge]
    decide
  have write : (PktPool.new smallPool).poolWriteBuffer ⟨true, false⟩ data =
      (.success, (PktPool.new smallPool).putBuf data ((data.length + 128) % 2 ^ 32)) := by
    rw [PktPool.poolWriteBuffer, if_neg (by decide), if_pos larger]
    rfl
  have written : (init smallPool).step (.write ⟨true, false⟩ data) =
      ⟨(PktPool.new smallPool).putBuf data ((data.length + 128) % 2 ^ 32), [data], []⟩ := by
    rw [step, show (init smallPool).pool = PktPool.new smallPool from rfl, write]
    rfl
  have read : (((PktPool.new smallPool).putBuf data ((data.length + 128) % 2 ^ 32)).poolReadBuffer
      100).1 = some [] := by
    show some (data.take (min 100 (data.length % 2 ^ 32))) = some []
    rw [huge]
    rfl
  rw [Machine.run_cons, written, Machine.run_cons, Machine.run_nil, step]
  rw [← Prod.eta (PktPool.poolReadBuffer _ 100), read]
  exact ⟨rfl, rfl⟩

lemma not_fifo_of_hugeRecord (huge : data.length = 2 ^ 32) :
    ¬ (Machine.run step (init smallPool) [.write ⟨true, false⟩ data, .read 100]).Fifo := by
  rintro ⟨⟨taken, queued, written, read⟩, -⟩
  rw [(step_hugeRecord huge).2, List.forall₂_cons_left_iff] at read
  obtain ⟨record, rest, cut, -, isTaken⟩ := read
  rw [(step_hugeRecord huge).1, isTaken, cons_append, List.cons.injEq] at written
  rw [← written.1] at cut
  have noBytes := congrArg List.length cut
  rw [length_take, huge] at noBytes
  contradiction

/-- The reader gets none of the bytes of such a record. -/
theorem hugeRecord_not_fifo : ¬ (Machine.run step (init smallPool)
      [.write ⟨true, false⟩ (List.replicate (2 ^ 32) 0), .read 100]).Fifo :=
  not_fifo_of_hugeRecord length_replicate

end PoolRun

end Gyeeta.Misc
