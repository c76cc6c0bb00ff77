import Gyeeta.Comm.Notify
import Gyeeta.Lib.Heap
import Gyeeta.Lib.Run

/-!
# Receiving messages

The L1 thread of a madhava receives messages into the buffer of a connection and passes them on
to L2 threads.  Handing over a batch of messages hands over the buffer they lie in, and the bytes
behind the last message move to a new one.  `handle_recv` keeps the state of the buffer twice: in
the fields `rdstat_` of the connection and in local variables that advance from message to
message.  As a machine it makes one step for each `recv` call and one for each round of the inner
loop over the received messages.
-/

namespace Gyeeta.Conn

open Comm

/-- The L2 threads of `TTYPE_E`. -/
inductive L2Type where
  | dbRd
  | misc
  | alert
  deriving DecidableEq, Repr

/-- `DB_WRITE_ONE`, with the bytes that the message had when it was scheduled. -/
structure DbWriteOne where
  pwrbuf : Ptr
  wrlen : Nat
  dataType : Nat
  content : Bytes
  deriving DecidableEq, Repr

structure DbWriteArr where
  dbonearr : List DbWriteOne
  pbufstart : Option Nat
  destThrType : L2Type
  deriving DecidableEq, Repr

/-- `GY_ARRAY_SIZE(dbonearr_)`. -/
def maxDbOne : Nat := 8

/-- A new `DB_WRITE_ARR`. -/
def DbWriteArr.empty : DbWriteArr where
  dbonearr := []
  pbufstart := none
  destThrType := .misc

/-- The fields of `EDIR_STATS` that `handle_recv` uses. -/
structure RdStat where
  pdirbuf : Option Nat
  maxBufSz : Nat
  dataSz : Nat
  pendingSz : Nat
  nrequests : Nat
  nbytesSeen : Nat
  deriving DecidableEq, Repr

/-! ## Routing of messages -/

/-- The notifications that are passed on, with the host they must come from and the
thread that gets them. -/
def notifyL2 : NotifyType → Option (HostType × L2Type)
  | .tcpConn | .listenerState | .aggrTaskState | .activeConnStats | .listenTaskmapEvent
  | .taskMiniAdd | .taskFullAdd | .taskTopProcs | .taskHistogram | .newListener
  | .listenerDependency | .listenerNatIpEvent | .listenerDomainEvent | .listenClusterInfo
  | .listenerDayStats | .natTcp | .taskAggr | .aggrTaskHistStats | .pingTaskAggr
  | .cpuMemState | .hostState | .hostStateV000100 | .hostInfo | .hostCpuMemChange
  | .notificationMsg | .reqTraceStatus => some (.partha, .misc)
  | .mmActiveConnStats | .mmListenerIssueResol | .mmListenerDepends | .mmListenerPing
  | .mmListenerDelete | .mmTaskAggrPing | .mmTaskAggrDel | .mmAggrTaskState =>
    some (.madhava, .misc)
  | .smAlertAdefNew | .smAlertAdefUpd | .smAlertStatDisable => some (.shyama, .alert)
  | .shyamaCliTcpInfo | .shyamaSerTcpInfo | .smSvcClusterMesh | .smSvcNatIpCluster
  | .madhavaList | .smReqTraceDefNew | .smReqTraceDefDisable => some (.shyama, .misc)
  | _ => none

/-- The notifications that the L1 thread handles itself, with the host they must come
from, if there is one. -/
def notifyHere : NotifyType → Option (Option HostType)
  | .smParthaIdent | .shyamaMadhavaStatus => some (some .shyama)
  | .parthaStatus => some (some .partha)
  | .madhavaMadhavaStatus | .pingConn => some none
  | _ => none

/-- What `handle_recv` does with a complete message. -/
inductive Route where
  /-- Scheduled for an L2 thread, with the bytes that validation leaves. -/
  | pass (dest : L2Type) (content : Bytes)
  /-- Handled or ignored by the L1 thread. -/
  | here
  /-- A registration, which is handed over at once. -/
  | register
  /-- `handle_recv` returns `-1`. -/
  | fail
  /-- `handle_recv` throws. -/
  | invalid
  deriving DecidableEq, Repr

/-- What the environment of `handle_recv` decides: the connection, the validation of the
message bodies and the sizes that the allocator gives. -/
structure RecvConfig where
  magic : HdrMagic
  hostType : HostType
  /-- `cli_type_ == CLI_TYPE_REQ_ONLY`. -/
  reqOnly : Bool
  /-- `validate` of a notification; it may write string terminators. -/
  notifyCheck : NotifyType → Bytes → Option Bytes
  notifyCheck_length : ∀ type bytes checked, notifyCheck type bytes = some checked →
    checked.length = bytes.length
  /-- `LISTENER_INFO_REQ::validate`. -/
  queryCheck : Bytes → Bool
  /-- `QUERY_RESPONSE::validate`. -/
  respCheck : Bytes → Bool
  /-- `validate` and `validate_fields` of a registration, or `validate` and the handler of
  the response to one. -/
  registerCheck : CommType → Bytes → Bool
  /-- The usable size of the block that allocation `number` returns for a request. -/
  actSize : Nat → Nat → Nat
  actSize_le : ∀ number request, request ≤ actSize number request

/-- `COMM_EVENT_NOTIFY`. -/
def routeNotify (cfg : RecvConfig) (isRegistered : Bool) (message : Bytes) : Route :=
  match NotifyType.ofCode (message.field 16 4) with
  | none => .here
  | some type =>
    match notifyL2 type with
    | some (host, dest) =>
      if isRegistered ∧ cfg.hostType = host then
        match cfg.notifyCheck type message with
        | some content => .pass dest content
        | none => .invalid
      else .invalid
    | none =>
      match notifyHere type with
      | none => .here
      | some host =>
        if isRegistered ∧ (host = none ∨ host = some cfg.hostType) ∧
            (cfg.notifyCheck type message).isSome then .here
        else .invalid

/-- `COMM_QUERY_CMD`. -/
def routeQuery (cfg : RecvConfig) (isRegistered : Bool) (message : Bytes) : Route :=
  match QueryType.ofCode (message.field 32 4) with
  | some .listenerInfoStats =>
    if isRegistered ∧ cfg.hostType = .partha ∧ cfg.queryCheck message then
      .pass .dbRd message
    else .invalid
  | some .webJson | some .crudGenericJson | some .crudAlertJson =>
    if isRegistered then .pass .dbRd message else .invalid
  | _ => .here

/-- `MM_CONNECT_CMD`, `PM_CONNECT_CMD` and `NM_CONNECT_CMD`. -/
def routeConnect (cfg : RecvConfig) (isRegistered : Bool) (type : CommType)
    (message : Bytes) : Route :=
  if isRegistered then .invalid
  else if cfg.registerCheck type message then .register else .fail

/-- `MS_REGISTER_RESP` and `MM_CONNECT_RESP`, which come from the given host. -/
def routeResponse (cfg : RecvConfig) (isRegistered : Bool) (type : CommType)
    (host : HostType) (message : Bytes) : Route :=
  if isRegistered ∨ cfg.hostType ≠ host then .invalid
  else if cfg.registerCheck type message then .here else .fail

/-- The switch over `data_type_`. -/
def route (cfg : RecvConfig) (isRegistered isConnClosed : Bool) (message : Bytes) : Route :=
  match CommType.ofCode (CommHeader.parse message).dataType with
  | some .eventNotify => routeNotify cfg isRegistered message
  | some .queryCmd =>
    if isConnClosed ∨ cfg.reqOnly then .here else routeQuery cfg isRegistered message
  | some .queryResp =>
    if !isRegistered then .invalid else if cfg.respCheck message then .here else .fail
  | some .msRegisterResp => routeResponse cfg isRegistered .msRegisterResp .shyama message
  | some .mmConnectResp => routeResponse cfg isRegistered .mmConnectResp .madhava message
  | some .mmConnectCmd => routeConnect cfg isRegistered .mmConnectCmd message
  | some .pmConnectCmd => routeConnect cfg isRegistered .pmConnectCmd message
  | some .nmConnectCmd => routeConnect cfg isRegistered .nmConnectCmd message
  | _ => .invalid

/-! ## The state of a connection -/

/-- Why `handle_recv` throws. -/
inductive RecvError where
  | internal
  | invalidMessage
  deriving DecidableEq, Repr

/-- Where the machine stands. -/
inductive Pc where
  /-- Outside of `handle_recv`, with the result of the last call. -/
  | returned (totbytes : Nat)
  /-- Before the next `recv`. -/
  | recv
  /-- Before the next round of the inner loop. -/
  | parse
  /-- `handle_recv` returned `-1`. -/
  | failed
  | thrown (error : RecvError)
  deriving DecidableEq, Repr

/-- The connection, the arrays handed to `send_db_array`, the bytes that the peer has sent
and `recv` has not returned yet, and the local variables of `handle_recv`. -/
structure RecvState where
  heap : Heap
  rdstat : RdStat
  isRegistered : Bool
  handed : List DbWriteArr
  unread : Bytes
  maxBufSz : Nat
  dataSz : Nat
  prdbuf : Ptr
  /-- `hdr.total_sz_`. -/
  totalSz : Nat
  isAgain : Bool
  isPendrecv : Bool
  isConnClosed : Bool
  totbytes : Nat
  dbarr : DbWriteArr
  pc : Pc
  deriving DecidableEq, Repr

namespace RecvState

/-- A new connection, on which the peer sends the given bytes. -/
def init (isRegistered : Bool) (unread : Bytes) : RecvState where
  heap := []
  rdstat :=
    { pdirbuf := none
      maxBufSz := 0
      dataSz := 0
      pendingSz := 0
      nrequests := 0
      nbytesSeen := 0 }
  isRegistered := isRegistered
  handed := []
  unread := unread
  maxBufSz := 0
  dataSz := 0
  prdbuf := ⟨none, 0⟩
  totalSz := 0
  isAgain := false
  isPendrecv := false
  isConnClosed := false
  totbytes := 0
  dbarr := .empty
  pc := .returned 0

/-- The bytes of the message at `prdbuf`. -/
def message (state : RecvState) : Bytes :=
  state.heap.read state.prdbuf state.totalSz

/-- The bytes at `prdbuf` that are not handled yet. -/
def pending (state : RecvState) : Bytes :=
  state.heap.read state.prdbuf state.dataSz

/-- The bytes that the connection keeps in its receive buffer. -/
def kept (state : RecvState) : Bytes :=
  state.heap.read ⟨state.rdstat.pdirbuf, 0⟩ state.rdstat.dataSz

def setVariables (state : RecvState) : RecvState :=
  { state with
    maxBufSz := state.rdstat.maxBufSz
    dataSz := state.rdstat.dataSz
    prdbuf := ⟨state.rdstat.pdirbuf, 0⟩ }

/-- `rdstat_.reset_buf`; whether the buffer is freed makes no difference to the state. -/
def resetBuf (state : RecvState) : RecvState :=
  { state with rdstat := { state.rdstat with pdirbuf := none, maxBufSz := 0, dataSz := 0 } }

/-- Allocates a buffer for a request, copies `count` bytes to it and makes it the buffer of the
connection with `set_buf`, whose check passes: the old buffer was reset and the new one is large
enough (`setBuf_accepts`).  No request is for 0 bytes; one above 2 GB, which the pools refuse, is
not modelled. -/
def newBuf (cfg : RecvConfig) (request count : Nat) (content : Bytes) (state : RecvState) :
    RecvState :=
  let actSize := cfg.actSize state.heap.length request
  { state with
    heap := state.heap.alloc actSize content
    rdstat :=
      { state.rdstat with
        pdirbuf := some state.heap.length
        maxBufSz := actSize
        dataSz := count } }

/-- `send_db_array(std::move(dbarr))`, which succeeds. -/
def sendDbArray (state : RecvState) : RecvState :=
  { state with
    handed := state.handed ++ [state.dbarr]
    dbarr := { state.dbarr with dbonearr := [], pbufstart := none } }

/-- Hands over the batch together with the buffer. -/
def handOver (state : RecvState) : RecvState :=
  state.sendDbArray.resetBuf

/-- Copies `count` bytes at `prdbuf` to a new buffer; the old one is handed over with the
batch, or freed if there is no batch. -/
def replaceBuf (cfg : RecvConfig) (request count : Nat) (state : RecvState) : RecvState :=
  let content := state.heap.read state.prdbuf count
  let released := if state.dbarr.dbonearr = [] then state.resetBuf else state.handOver
  (released.newBuf cfg request count content).setVariables

/-- Moves the bytes at `prdbuf` to the start of the buffer. -/
def moveToStart (state : RecvState) : RecvState :=
  setVariables
    { state with
      heap := state.heap.write ⟨state.rdstat.pdirbuf, 0⟩ state.pending
      rdstat := { state.rdstat with dataSz := state.dataSz } }

/-- `validate` writes into the message at `prdbuf`. -/
def overwrite (content : Bytes) (state : RecvState) : RecvState :=
  { state with heap := state.heap.write state.prdbuf content }

/-- The smallest receive buffer. -/
def minBufSz : Nat := 4096

/-- The first part of `schedule_db_array`: a batch for another thread, or any batch when a
DB reader gets the message, is handed over before. -/
def switchBatch (cfg : RecvConfig) (dest : L2Type) (state : RecvState) : RecvState :=
  if (dest ≠ state.dbarr.destThrType ∨ dest = .dbRd) ∧ state.dbarr.dbonearr ≠ [] then
    let maxcopy := max state.totalSz state.dataSz
    state.replaceBuf cfg (max minBufSz maxcopy) maxcopy
  else
    state

/-- The second part of `schedule_db_array`: the message at `pwrbuf` joins the batch. -/
def pushBatch (dest : L2Type) (pwrbuf : Ptr) (content : Bytes) (state : RecvState) : RecvState :=
  let one : DbWriteOne :=
    { pwrbuf := pwrbuf
      wrlen := state.totalSz
      dataType := (CommHeader.parse content).dataType
      content := content }
  if state.dbarr.dbonearr = [] then
    { state with
      dbarr :=
        { dbonearr := [one]
          pbufstart := state.rdstat.pdirbuf
          destThrType := dest } }
  else
    { state with dbarr := { state.dbarr with dbonearr := state.dbarr.dbonearr ++ [one] } }

/-- `schedule_db_array` for a batch that is not full.  `pwrbuf` is the address that
`prdbuf` had when it was called. -/
def scheduleDbArray (cfg : RecvConfig) (dest : L2Type) (content : Bytes)
    (state : RecvState) : RecvState :=
  (state.switchBatch cfg dest).pushBatch dest state.prdbuf content

/-- The end of `handle_recv`: an open batch is handed over, an empty buffer is freed. -/
def closeBatch (cfg : RecvConfig) (state : RecvState) : RecvState :=
  if state.dbarr.dbonearr ≠ [] then
    if 0 < state.dataSz then
      state.replaceBuf cfg (max minBufSz (state.dataSz + 1024)) state.dataSz
    else state.handOver
  else if state.dataSz = 0 then state.resetBuf
  else if 0 < state.totbytes then
    { state with
      rdstat := { state.rdstat with
        pendingSz := (2 ^ 32 + state.totalSz - state.dataSz % 2 ^ 32) % 2 ^ 32 } }
  else state

/-- Ends a call. -/
def finish (cfg : RecvConfig) (state : RecvState) : RecvState :=
  { state.closeBatch cfg with pc := .returned state.totbytes }

/-- The condition of the outer loop. -/
def leaveInner (cfg : RecvConfig) (state : RecvState) : RecvState :=
  if state.isAgain then state.finish cfg else { state with pc := .recv }

/-- The end of a round of the inner loop. -/
def nextRound (cfg : RecvConfig) (state : RecvState) : RecvState :=
  if 0 < state.dataSz then { state with pc := .parse } else state.leaveInner cfg

/-- Goes behind a message that was handled. -/
def skipMessage (state : RecvState) : RecvState :=
  if state.dataSz = 0 then state
  else
    { state with
      dataSz := state.dataSz - state.totalSz
      maxBufSz := state.maxBufSz - state.totalSz
      prdbuf := state.prdbuf.add state.totalSz }

/-- Hands over a batch that is full or whose buffer is, and moves the bytes behind it. -/
def flushFull (cfg : RecvConfig) (state : RecvState) : RecvState :=
  let noRoom := state.maxBufSz - state.dataSz < commHeaderSize
  if state.dbarr.dbonearr.length = maxDbOne ∨ (state.dbarr.dbonearr ≠ [] ∧ noRoom) then
    if ¬state.isAgain ∨ 0 < state.dataSz ∨ (noRoom ∧ 0 < state.maxBufSz) then
      state.replaceBuf cfg (if minBufSz < state.dataSz then state.dataSz + 1024 else minBufSz)
        state.dataSz
    else state.handOver
  else if state.dataSz ≠ state.rdstat.dataSz ∧ noRoom then state.moveToStart
  else state

/-- The part of a round behind the switch over the message types. -/
def afterMessage (cfg : RecvConfig) (state : RecvState) : RecvState :=
  -- `data_sz < 0 || max_buf_sz < data_sz` behind the message
  if state.dataSz ≠ 0 ∧ (state.dataSz < state.totalSz ∨ state.maxBufSz < state.dataSz) then
    { state.skipMessage with pc := .thrown .internal }
  else
    (state.skipMessage.flushFull cfg).nextRound cfg

/-- `rdstat_.nrequests_++`. -/
def countRequest (state : RecvState) : RecvState :=
  { state with rdstat := { state.rdstat with nrequests := state.rdstat.nrequests + 1 } }

/-- A message for an L2 thread. -/
def passMessage (cfg : RecvConfig) (dest : L2Type) (content : Bytes) (state : RecvState) :
    RecvState :=
  if maxDbOne ≤ state.dbarr.dbonearr.length then { state with pc := .thrown .internal }
  else (state.scheduleDbArray cfg dest content).afterMessage cfg

/-- A registration, which is handed over at once. -/
def registerMessage (cfg : RecvConfig) (state : RecvState) : RecvState :=
  if maxDbOne ≤ state.dbarr.dbonearr.length then { state with pc := .thrown .internal }
  else (state.scheduleDbArray cfg .misc state.message).handOver.afterMessage cfg

/-- A round of the inner loop on a complete message. -/
def handleMessage (cfg : RecvConfig) (state : RecvState) : RecvState :=
  match route cfg state.isRegistered state.isConnClosed state.message with
  | .pass dest content => (state.countRequest.overwrite content).passMessage cfg dest content
  | .register => state.countRequest.registerMessage cfg
  | .here => state.countRequest.afterMessage cfg
  | .fail => { state.countRequest with pc := .failed }
  | .invalid => { state.countRequest with pc := .thrown .invalidMessage }

/-- Reads `hdr` at `prdbuf`: the size of the message, or that of a header as long as the
header is not complete. -/
def readHeader (cfg : RecvConfig) (state : RecvState) : Option Nat :=
  if commHeaderSize ≤ state.dataSz then
    let hdr := CommHeader.parse (state.heap.read state.prdbuf commHeaderSize)
    if hdr.validate (state.prdbuf.off % 8 = 0) cfg.magic then some hdr.totalSz else none
  else
    some commHeaderSize

/-- Makes room for the whole message, and hands over the messages before one that is not
complete. -/
def makeRoom (cfg : RecvConfig) (state : RecvState) : RecvState :=
  if (state.dataSz < state.totalSz ∧ state.dbarr.dbonearr ≠ []) ∨
      state.maxBufSz < state.totalSz then
    state.replaceBuf cfg (max minBufSz (max state.totalSz state.dataSz)) state.dataSz
  else
    state

/-- An incomplete message stays at the start of the buffer. -/
def keepIncomplete (state : RecvState) : RecvState :=
  if state.dataSz ≠ state.rdstat.dataSz then state.moveToStart else state

/-- A round of the inner loop. -/
def parseRound (cfg : RecvConfig) (state : RecvState) : RecvState :=
  match state.readHeader cfg with
  | none => { state with pc := .thrown .invalidMessage }
  | some totalSz =>
    let ready := makeRoom cfg { state with totalSz := totalSz }
    if ready.dataSz < ready.totalSz then ready.keepIncomplete.leaveInner cfg
    else ready.handleMessage cfg

end RecvState

/-! ## The machine -/

/-- The results of `recv`. -/
inductive RecvResult where
  /-- At most so many bytes. -/
  | got (count : Nat)
  | again
  | intr
  | error
  | eof
  deriving DecidableEq, Repr

/-- What happens next to a connection. -/
inductive RecvEvent where
  | call (isConnClosed : Bool)
  | recv (result : RecvResult)
  | parse
  /-- An L2 thread registers the connection. -/
  | registered
  deriving DecidableEq, Repr

/-- `pending_recv_seen`.  The pending size has 32 bits and wraps around. -/
def RdStat.pendingRecvSeen (rdstat : RdStat) (nbytes : Nat) : RdStat × Bool :=
  if rdstat.pendingSz = 0 then (rdstat, true)
  else if nbytes ≤ rdstat.pendingSz then ({ rdstat with pendingSz := 0 }, true)
  else
    ({ rdstat with pendingSz := (2 ^ 32 + rdstat.pendingSz - nbytes % 2 ^ 32) % 2 ^ 32 }, false)

namespace RecvState

/-- Allocates a buffer if the connection has none. -/
def ensureBuf (cfg : RecvConfig) (state : RecvState) : RecvState :=
  if state.rdstat.pdirbuf = none then state.newBuf cfg minBufSz 0 [] else state

/-- The start of `handle_recv`. -/
def begin (cfg : RecvConfig) (isConnClosed : Bool) (state : RecvState) : RecvState :=
  { state.ensureBuf cfg with
    totalSz := 0
    isAgain := false
    isPendrecv := 0 < state.rdstat.pendingSz
    isConnClosed := isConnClosed
    totbytes := 0
    dbarr := .empty
    pc := .recv }

/-- Reports received bytes to `pending_recv_seen`, as long as that asks for it. -/
def seePending (nbytes : Nat) (state : RecvState) : RdStat × Bool :=
  if state.isPendrecv then
    let (rdstat, seen) := state.rdstat.pendingRecvSeen nbytes
    (rdstat, !seen)
  else (state.rdstat, false)

/-- `recv` returned bytes. -/
def received (bytes : Bytes) (state : RecvState) : RecvState :=
  let (rdstat, isPendrecv) := state.seePending bytes.length
  { state with
    heap := state.heap.write (state.prdbuf.add state.dataSz) bytes
    rdstat :=
      { rdstat with
        nbytesSeen := rdstat.nbytesSeen + bytes.length
        dataSz := rdstat.dataSz + bytes.length }
    unread := state.unread.drop bytes.length
    isAgain := bytes.length < state.maxBufSz - state.dataSz
    isPendrecv := isPendrecv
    totbytes := state.totbytes + bytes.length
    dataSz := state.dataSz + bytes.length
    pc := .parse }

/-- `recv` failed or the peer closed the connection: the batch is still handed over,
unless it is for a DB reader. -/
def receiveFailed (state : RecvState) : RecvState :=
  let sent :=
    if state.dbarr.dbonearr ≠ [] ∧ state.dbarr.destThrType ≠ .dbRd then state.sendDbArray
    else state
  { sent with pc := .failed }

/-- What follows a `recv`, which blocks when there is nothing to return. -/
def onResult (cfg : RecvConfig) (state : RecvState) : RecvResult → RecvState
  | .got count =>
    let bytes := state.unread.take (min count (state.maxBufSz - state.dataSz))
    if bytes = [] then state.finish cfg else state.received bytes
  | .again => state.finish cfg
  | .intr => state
  | .error | .eof => state.receiveFailed

/-- A round of the outer loop up to the inner one. -/
def receive (cfg : RecvConfig) (result : RecvResult) (state : RecvState) : RecvState :=
  let synced := state.setVariables
  if synced.maxBufSz ≤ synced.dataSz then { synced with pc := .thrown .internal }
  else synced.onResult cfg result

/-- One step of `handle_recv`.  An event that cannot happen has no effect. -/
def step (cfg : RecvConfig) (state : RecvState) : RecvEvent → RecvState
  | .registered => { state with isRegistered := true }
  | .call isConnClosed =>
    match state.pc with
    | .returned _ => state.begin cfg isConnClosed
    | _ => state
  | .recv result =>
    match state.pc with
    | .recv => state.receive cfg result
    | _ => state
  | .parse =>
    match state.pc with
    | .parse => state.parseRound cfg
    | _ => state

/-- A run of `handle_recv` calls. -/
def run (cfg : RecvConfig) (state : RecvState) (events : List RecvEvent) : RecvState :=
  Machine.run (step cfg) state events

end RecvState

end Gyeeta.Conn
