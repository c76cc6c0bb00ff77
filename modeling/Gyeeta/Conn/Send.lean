import Gyeeta.Lib.RefMem
import Gyeeta.Lib.Run

/-!
# Pipelined sends

Any thread schedules messages on a connection, each an array of buffers; the thread that owns the
connection sends them in order with `send_data`, which stops when the socket takes no more bytes
and resumes there on its next call.  A buffer with a free function may be shared by connections.

A call of `send_data` is cut at its system calls, so other connections and schedulers run between
any two of them.
-/

namespace Gyeeta.Conn

/-- A buffer of a message; `freeFp` tells whether it comes with a function to free it. -/
structure Iovec where
  base : Ptr
  len : Nat
  freeFp : Bool
  deriving DecidableEq, Repr

def maxIovecArr : Nat := 8

def iovecBytes (iovs : List Iovec) : Nat := (iovs.map Iovec.len).sum

/-- `EPOLL_IOVEC_ARR`, the buffers of one message. -/
structure IovecArray where
  iovs : List Iovec
  bound : iovs.length ≤ maxIovecArr
  deriving DecidableEq, Repr

namespace IovecArray

/-- The constructor for two buffers: a second one that is empty and has no free function is
left out. -/
def ofPair (first second : Iovec) : IovecArray :=
  if second.len = 0 ∧ second.freeFp = false then ⟨[first], by simp [maxIovecArr]⟩
  else ⟨[first, second], by simp [maxIovecArr]⟩

end IovecArray

/-- The buffer of a direction: one buffer, or the buffers of a message. -/
inductive WrBuf where
  | direct (pdirbuf : Ptr) (freeFp : Bool)
  | iovec (iovarr : List Iovec)
  deriving DecidableEq, Repr

/-- `EDIR_STATS` of the write direction. -/
structure WrStat where
  buf : WrBuf
  maxBufSz : Nat
  dataSz : Nat
  currProcessedSz : Nat
  nrequests : Nat
  nbytesSeen : Nat
  deriving DecidableEq, Repr

namespace WrStat

def init : WrStat where
  buf := .direct ⟨none, 0⟩ false
  maxBufSz := 0
  dataSz := 0
  currProcessedSz := 0
  nrequests := 0
  nbytesSeen := 0

def resetStats (wrstat : WrStat) : WrStat :=
  { wrstat with dataSz := 0, currProcessedSz := 0 }

def setWrComplete (wrstat : WrStat) : WrStat :=
  { wrstat with
    nrequests := wrstat.nrequests + 1
    nbytesSeen := wrstat.nbytesSeen + wrstat.dataSz }.resetStats

/-- The buffers that the direction holds. -/
def held (wrstat : WrStat) : List Iovec :=
  match wrstat.buf with
  | .direct pdirbuf freeFp => [⟨pdirbuf, wrstat.dataSz, freeFp⟩]
  | .iovec iovarr => iovarr

end WrStat

/-- Frees the buffers that have a free function. -/
def deallocIovs (mem : RefMem) : List Iovec → RefMem
  | [] => mem
  | iov :: iovs =>
    deallocIovs (if iov.freeFp then mem.subRef iov.base.block else mem) iovs

/-- The sizes are kept in 32 bits. -/
def sizeWord : Nat := 2 ^ 32

/-- Takes over a message as `set_buf` does after the buffers of the message before are
freed: a single buffer is sent by its offset, several ones as a rewritten array. -/
def WrStat.setBuf (wrstat : WrStat) (message : IovecArray) : WrStat :=
  match message.iovs with
  | [iov] =>
    { wrstat with
      buf := .direct iov.base iov.freeFp
      maxBufSz := iov.len % sizeWord
      dataSz := iov.len % sizeWord }
  | iovs =>
    { wrstat with
      buf := .iovec iovs
      maxBufSz := iovecBytes iovs % sizeWord
      dataSz := iovecBytes iovs % sizeWord }

/-- What a call of `send_data` returned, with what had been scheduled on the connection and
what its socket had accepted at that moment; no count is the return value `-1`. -/
structure SendReturn where
  nsent : Option Nat
  isBlocked : Bool
  scheduled : Bytes
  accepted : Bytes
  deriving DecidableEq, Repr

/-- `EPOLL_CONNTRACK`, write side.  `call` is the count of bytes that a running call of
`send_data` has sent so far; `scheduled`, `accepted` and `returns` are the history. -/
structure Conntrack where
  isOpen : Bool
  closeConnOnWrComplete : Bool
  maxSchedElems : Nat
  wrstat : WrStat
  wrPipeline : List IovecArray
  call : Option Nat
  scheduled : Bytes
  accepted : Bytes
  returns : List SendReturn
  deriving DecidableEq, Repr

namespace Conntrack

def init (closeConnOnWrComplete : Bool) (maxSchedElems : Nat) : Conntrack where
  isOpen := true
  closeConnOnWrComplete := closeConnOnWrComplete
  maxSchedElems := maxSchedElems
  wrstat := .init
  wrPipeline := []
  call := none
  scheduled := []
  accepted := []
  returns := []

/-- The call of `send_data` returns. -/
def finish (conn : Conntrack) (nsent : Option Nat) (isBlocked : Bool) : Conntrack :=
  { conn with
    call := none
    returns := conn.returns ++ [⟨nsent, isBlocked, conn.scheduled, conn.accepted⟩] }

/-- The connection is closed after an error and `send_data` returns `-1`. -/
def closeConn (conn : Conntrack) : Conntrack :=
  { conn with isOpen := false }.finish none false

end Conntrack

/-- The bytes of buffers. -/
def contentOf (mem : RefMem) (iovs : List Iovec) : Bytes :=
  iovs.flatMap fun iov => mem.read iov.base iov.len

/-! ## Sending -/

/-- The loop of `send_data` looks for the next message; a call that finds none returns. -/
def nextMessage (mem : RefMem) (conn : Conntrack) (totalSent : Nat) : RefMem × Conntrack :=
  let (mem, conn) : RefMem × Conntrack :=
    match conn.wrPipeline with
    | [] => (mem, conn)
    | message :: messages =>
      (deallocIovs mem conn.wrstat.held,
        { conn with wrstat := conn.wrstat.setBuf message, wrPipeline := messages })
  if conn.wrstat.dataSz = 0 then
    let isOpen := conn.isOpen && !(0 < totalSent && conn.closeConnOnWrComplete)
    (mem, { conn with isOpen := isOpen }.finish (some totalSent) false)
  else (mem, { conn with call := some totalSent })

/-- A call of `send_data`, up to its first system call. -/
def sendData (mem : RefMem) (conn : Conntrack) : RefMem × Conntrack :=
  if conn.call.isSome then (mem, conn)
  else if conn.isOpen = false then (mem, conn.finish none false)
  else if 0 < conn.wrstat.dataSz then (mem, { conn with call := some 0 })
  else nextMessage mem conn 0

/-- What `send` and `writev` can do: accept bytes (`more + 1` of them, but not more than
there are), be interrupted, find the socket full, or fail. -/
inductive WriteResult where
  | accept (more : Nat)
  | eintr
  | eagain
  | error
  deriving DecidableEq, Repr

/-- `send_data_buf` with the result of its `send`. -/
def sendDataBuf (mem : RefMem) (conn : Conntrack) (totalSent : Nat) (pdirbuf : Ptr)
    (result : WriteResult) : RefMem × Conntrack :=
  let processed := conn.wrstat.currProcessedSz
  let maxBytes := conn.wrstat.dataSz - processed
  if pdirbuf.block = none then (mem, conn.closeConn)
  else if maxBytes = 0 then
    nextMessage mem { conn with wrstat := conn.wrstat.resetStats } totalSent
  else
    match result with
    | .accept more =>
      let sret := min (more + 1) maxBytes
      let conn :=
        { conn with
          accepted := conn.accepted ++ mem.read (pdirbuf.add processed) sret
          wrstat := { conn.wrstat with currProcessedSz := processed + sret } }
      if sret = maxBytes then
        nextMessage mem { conn with wrstat := conn.wrstat.setWrComplete } (totalSent + sret)
      else (mem, conn.finish (some (totalSent + sret)) true)
    | .eintr => (mem, conn)
    | .eagain => (mem, conn.finish (some totalSent) true)
    | .error => (mem, conn.closeConn)

/-- The loop of `gy_writev` over the buffers that are written whole: these buffers, the
bytes written of the next one, and the buffers from there on. -/
def skipWritten (written : Nat) : List Iovec → List Iovec × Nat × List Iovec
  | [] => ([], written, [])
  | iov :: iovs =>
    if iov.len ≤ written then
      let (done, left, rest) := skipWritten (written - iov.len) iovs
      (iov :: done, left, rest)
    else ([], written, iov :: iovs)

/-- The rewriting of a message's buffers by `gy_writev` after `written` bytes of them: those that
are done get length zero; where the write ended the bytes left are moved to the start of the
buffer if it has a free function, otherwise its base is moved. -/
def writevPending (mem : RefMem) (written : Nat) (iovarr : List Iovec) : RefMem × List Iovec :=
  let (done, left, rest) := skipWritten written iovarr
  let done := done.map fun iov => { iov with len := 0 }
  match rest with
  | [] => (mem, done)
  | iov :: iovs =>
    let len := iov.len - left
    if left = 0 then (mem, done ++ { iov with len := len } :: iovs)
    else if iov.freeFp then
      (mem.move iov.base left len, done ++ { iov with len := len } :: iovs)
    else (mem, done ++ { iov with base := iov.base.add left, len := len } :: iovs)

/-- `send_data_iovec` with the result of the `writev` in its `gy_writev`. -/
def sendDataIovec (mem : RefMem) (conn : Conntrack) (totalSent : Nat) (iovarr : List Iovec)
    (result : WriteResult) : RefMem × Conntrack :=
  let totallen := iovecBytes iovarr
  if iovarr = [] ∨ maxIovecArr < iovarr.length then (mem, conn.closeConn)
  else if totallen = 0 then
    nextMessage mem { conn with wrstat := conn.wrstat.resetStats } totalSent
  else
    match result with
    | .accept more =>
      let written := min (more + 1) totallen
      let conn :=
        { conn with accepted := conn.accepted ++ (contentOf mem iovarr).take written }
      if written = totallen then
        nextMessage mem { conn with wrstat := conn.wrstat.setWrComplete }
          (totalSent + written)
      else
        let (mem, iovPending) := writevPending mem written iovarr
        let pendingBytes := totallen - written
        let wrstat :=
          { conn.wrstat with
            buf := .iovec iovPending
            dataSz := pendingBytes % sizeWord
            maxBufSz := pendingBytes % sizeWord }
        (mem, { conn with wrstat := wrstat }.finish (some (totalSent + written)) true)
    | .eintr => (mem, conn)
    | .eagain =>
      let wrstat :=
        { conn.wrstat with dataSz := totallen % sizeWord, maxBufSz := totallen % sizeWord }
      (mem, { conn with wrstat := wrstat }.finish (some totalSent) true)
    | .error => (mem, conn.closeConn)

/-- The system call of a running `send_data` returns. -/
def writeReturns (mem : RefMem) (conn : Conntrack) (result : WriteResult) : RefMem × Conntrack :=
  match conn.call with
  | none => (mem, conn)
  | some totalSent =>
    match conn.wrstat.buf with
    | .direct pdirbuf _ => sendDataBuf mem conn totalSent pdirbuf result
    | .iovec iovarr => sendDataIovec mem conn totalSent iovarr result

/-! ## Scheduling -/

/-- The references that the scheduler of a message adds for it. -/
def addRefs (mem : RefMem) : List Iovec → RefMem
  | [] => mem
  | iov :: iovs => addRefs (if iov.freeFp then mem.addRef iov.base.block else mem) iovs

/-- `schedule_ext_send` of a message whose references are added: a message that finds the
pipeline full is freed. -/
def scheduleExtSend (mem : RefMem) (conn : Conntrack) (message : IovecArray) : RefMem × Conntrack :=
  if message.iovs = [] then (mem, conn)
  else if conn.wrPipeline.length < conn.maxSchedElems then
    (mem, { conn with
        wrPipeline := conn.wrPipeline ++ [message]
        scheduled := conn.scheduled ++ contentOf mem message.iovs })
  else (deallocIovs mem message.iovs, conn)

/-! ## Connections and threads -/

/-- The connections, the memory they share and the references that the creators of its
blocks still hold. -/
structure Sends (n : Nat) where
  mem : RefMem
  handles : Nat → Bool
  conns : Fin n → Conntrack

inductive SendEvent (n : Nat) where
  /-- A new block, held by its creator. -/
  | alloc (content : Bytes)
  /-- The creator of a block gives its reference back. -/
  | release (name : Nat)
  | schedule (conn : Fin n) (message : IovecArray)
  | sendData (conn : Fin n)
  /-- The system call of a running `send_data` returns. -/
  | writeReturns (conn : Fin n) (result : WriteResult)
  deriving DecidableEq, Repr

namespace Sends

variable {n : Nat}

def init (conns : Fin n → Conntrack) : Sends n where
  mem := .empty
  handles := fun _ => false
  conns := conns

def stepConn (state : Sends n) (conn : Fin n)
    (action : RefMem → Conntrack → RefMem × Conntrack) : Sends n :=
  let (mem, after) := action state.mem (state.conns conn)
  { state with mem := mem, conns := Function.update state.conns conn after }

def step (state : Sends n) : SendEvent n → Sends n
  | .alloc content =>
    { state with
      mem := state.mem.alloc content
      handles := Function.update state.handles state.mem.next true }
  | .release name =>
    if state.handles name then { state with
        mem := state.mem.subRef (some name)
        handles := Function.update state.handles name false }
    else state
  | .schedule conn message =>
    state.stepConn conn fun mem conn =>
      scheduleExtSend (addRefs mem message.iovs) conn message
  | .sendData conn => state.stepConn conn sendData
  | .writeReturns conn result => state.stepConn conn fun mem conn => writeReturns mem conn result

/-- `send_all_madhava_event`: the creator of a reference-counted block schedules it with its
padding on every connection and gives its own reference back. -/
def sendAllMadhavaEvent (palloc gpadbuf msgsz padlen : Nat) (conns : List (Fin n)) :
    List (SendEvent n) :=
  if 8 ≤ padlen then [.release palloc]
  else
    let message := IovecArray.ofPair ⟨⟨some palloc, 0⟩, msgsz, true⟩
      ⟨⟨some gpadbuf, 0⟩, padlen, false⟩
    conns.map (SendEvent.schedule · message) ++ [.release palloc]

end Sends

end Gyeeta.Conn
