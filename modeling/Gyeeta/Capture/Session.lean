import Gyeeta.Capture.Packet

/-!
# Parser sessions

A service under capture keeps one session per client.  `do_proto_parse` is the only function that
calls a protocol parser.  The parsers (`HTTP1_PROTO` and the others) are a parameter: `ProtoOps`
gives their effect on an opaque state, which the reorder code never reads, and says whether they
throw.
-/

namespace Gyeeta.Capture

inductive ProtoTypes where
  | unknown
  | http1
  | http2
  | postgres
  | mysql
  | mongo
  | redis
  | sybaseAse
  | db2
  | informix
  | invalid
  deriving DecidableEq, Repr

/-- The protocols that `do_proto_parse` has a case for. -/
def ProtoTypes.isHandled : ProtoTypes → Bool
  | .http1 | .http2 | .postgres | .sybaseAse | .mongo => true
  | _ => false

/-- `SVC_SESSION::proto_sess`: no protocol session yet, or a session of one
protocol whose pointer may be null. -/
inductive ProtoSess where
  | monostate
  | sess (proto : ProtoTypes) (nonNull : Bool)
  deriving DecidableEq, Repr

/-- `REORDER_PKT_HDR`: a packet held back until the packets before it arrive. -/
structure ReorderPktHdr where
  /-- The pool buffer with the packet, if there is one. -/
  pooluniq : Option ParsePktHdr
  tpktusec : Nat
  datalen : Nat
  startPktSeq : Seq
  ackSeq : Seq
  dir : DirPacket
  deriving DecidableEq, Repr

/-- `REORDER_PKT_HDR::REORDER_PKT_HDR`. -/
def ReorderPktHdr.new (hdr : ParsePktHdr) : ReorderPktHdr where
  pooluniq := some hdr
  tpktusec := hdr.tvUsec
  datalen := hdr.datalen
  startPktSeq := hdr.startSeq.get hdr.side
  ackSeq := hdr.nxtSeq.get hdr.side.other
  dir := hdr.dir

structure ReorderInfo where
  reorderList : List ReorderPktHdr
  tfirstusec : Nat
  /-- `exp_cli_seq_start_` and `exp_ser_seq_start_`; zero stands for no drop. -/
  expSeqStart : PerSide Seq
  /-- `seen_cli_seq_` and `seen_ser_seq_`. -/
  seenSeq : PerSide Seq
  ninbound : Nat
  noutbound : Nat
  deriving DecidableEq, Repr

namespace ReorderInfo

def maxSessReorderPkts : Nat := 2048

/-- The state of a new session. -/
def init : ReorderInfo where
  reorderList := []
  tfirstusec := 0
  expSeqStart := ⟨0, 0⟩
  seenSeq := ⟨0, 0⟩
  ninbound := 0
  noutbound := 0

def isActive (info : ReorderInfo) : Bool :=
  !info.reorderList.isEmpty

/-- `REORDER_INFO::set_head_info`: note for each side the hole in front of the
head, or zero when that side has none. -/
def setHeadInfo (info : ReorderInfo) (common : CommonProto) (hdr : ParsePktHdr) : ReorderInfo :=
  let hole (side : Side) (value : Seq) : Seq :=
    if common.dropType.get side = .dropSeen then value else 0
  { info with
    tfirstusec := hdr.tvUsec
    expSeqStart := ⟨hole .cli common.nxtSeq.cli, hole .ser common.nxtSeq.ser⟩
    seenSeq := ⟨hole .cli hdr.startSeq.cli, hole .ser hdr.startSeq.ser⟩
    ninbound := info.ninbound + (if hdr.dir = .inbound then 1 else 0)
    noutbound := info.noutbound + (if hdr.dir = .inbound then 0 else 1) }

section

variable (info : ReorderInfo) (common : CommonProto) (hdr : ParsePktHdr)
include info common hdr

lemma setHeadInfo_expSeqStart (side : Side) : (info.setHeadInfo common hdr).expSeqStart.get side =
      if common.dropType.get side = .dropSeen then common.nxtSeq.get side else 0 := by
  cases side <;> rfl

lemma setHeadInfo_seenSeq (side : Side) : (info.setHeadInfo common hdr).seenSeq.get side =
      if common.dropType.get side = .dropSeen then hdr.startSeq.get side else 0 := by
  cases side <;> rfl

end

end ReorderInfo

structure SvcSession where
  pvarproto : ProtoSess
  common : CommonProto
  proto : ProtoTypes
  reorder : ReorderInfo
  toDelete : Bool
  isrdrmap : Bool
  deriving DecidableEq, Repr

def SvcSession.reorderActive (sess : SvcSession) : Bool :=
  sess.reorder.isActive

/-- The counters of `SVC_PARSE_STATS` that this part of the parser updates. -/
structure SvcParseStats where
  ndroppkts : Nat := 0
  /-- `ndropbytesin_` and `ndropbytesout_`; `ndropbytes_` is their sum. -/
  ndropbytes : PerSide Nat := ⟨0, 0⟩
  nrdrpkts : Nat := 0
  nrdrbytes : Nat := 0
  nrdrSessMax : Nat := 0
  nrdrTimeout : Nat := 0
  nrdrAllocFails : Nat := 0
  nsessionsNew : Nat := 0
  nsessionsDel : Nat := 0
  nsessDropNew : Nat := 0
  nskipConcSess : Nat := 0
  nsrcChg : Nat := 0
  deriving DecidableEq, Repr

/-- `SSL_SVC_E`. -/
inductive SslSvc where
  | uninit
  | no
  | only
  | multiplexed
  deriving DecidableEq, Repr

/-- One call of `do_proto_parse`: the packet and the drop flags it is delivered
with. -/
structure ParseCall where
  hdr : ParsePktHdr
  dropType : PerSide DropTypes
  deriving DecidableEq, Repr

/-- The packet is delivered with a drop flag. -/
def ParseCall.isPktDrop (call : ParseCall) : Bool :=
  call.dropType.cli = .dropSeen || call.dropType.ser = .dropSeen

/-- What is recorded of the sessions: a packet that a session was made from, or a call. -/
inductive SessAct where
  | made (hdr : ParsePktHdr)
  | call (call : ParseCall)
  deriving DecidableEq, Repr

/-- `SVC_INFO_CAP`.  `api` is the state of the protocol parsers and of the reorder
pool, `parsed` records the calls of `do_proto_parse` in order, and `acts` also the packets that
the constructor of `SVC_SESSION` was called with. -/
structure SvcInfoCap (σ : Type) where
  proto : ProtoTypes
  svcSsl : SslSvc
  stats : SvcParseStats
  sessmap : List (IpPort × SvcSession)
  /-- `sessrdrmap_`, keyed by the client of the session. -/
  sessrdrmap : List (IpPort × Nat)
  /-- This service has an entry in the `reordermap_` of its parser thread. -/
  inReordermap : Bool
  api : σ
  parsed : List ParseCall
  acts : List SessAct := []

/-- The code that `do_proto_parse` and `alloc_reorder` call: the protocol parsers
and the pool of reorder headers. -/
structure ProtoOps (σ : Type) where
  /-- `reorderpool_.malloc()` returned a block. -/
  reorderMalloc : σ → Bool × σ
  /-- `alloc_sess`: `none` if it throws, else whether the pointer is non-null. -/
  allocSess : ProtoTypes → SvcSession → ParsePktHdr → σ → Option Bool × σ
  /-- `handle_request_pkt` or `handle_response_pkt`: `none` if it throws, else the
  protocol that the session has afterwards. -/
  handlePkt : ProtoTypes → SvcSession → ParsePktHdr → σ → Option ProtoTypes × σ
  /-- `handle_session_end`. -/
  handleSessionEnd : ProtoTypes → SvcSession → ParsePktHdr → σ → σ
  /-- `handle_ssl_change`. -/
  handleSslChange : ProtoTypes → SvcSession → ParsePktHdr → σ → σ
  /-- `destroy` of the session of one protocol. -/
  destroy : ProtoTypes → σ → σ

/-- A service together with the session it is working on, kept apart from the
session map while a packet is handled. -/
structure Ctx (σ : Type) where
  svc : SvcInfoCap σ
  key : IpPort
  sess : SvcSession

namespace Ctx

variable {σ : Type}

/-- Change the counters of the service. -/
def modifyStats (ctx : Ctx σ) (change : SvcParseStats → SvcParseStats) : Ctx σ :=
  { ctx with svc := { ctx.svc with stats := change ctx.svc.stats } }

/-- Change the shared counters of the session. -/
def modifyCommon (ctx : Ctx σ) (change : CommonProto → CommonProto) : Ctx σ :=
  { ctx with sess := { ctx.sess with common := change ctx.sess.common } }

/-- Change the reorder state of the session. -/
def modifyReorder (ctx : Ctx σ) (change : ReorderInfo → ReorderInfo) : Ctx σ :=
  { ctx with sess := { ctx.sess with reorder := change ctx.sess.reorder } }

/-- Change the list of held packets. -/
def modifyList (ctx : Ctx σ) (change : List ReorderPktHdr → List ReorderPktHdr) : Ctx σ :=
  ctx.modifyReorder fun info => { info with reorderList := change info.reorderList }

/-- Set the state of the protocol parsers. -/
def setApi (ctx : Ctx σ) (api : σ) : Ctx σ :=
  { ctx with svc := { ctx.svc with api := api } }

def setToDelete (ctx : Ctx σ) (flag : Bool) : Ctx σ :=
  { ctx with sess := { ctx.sess with toDelete := flag } }

def setReorderEnd (ctx : Ctx σ) : Ctx σ :=
  let present := ctx.svc.sessrdrmap.any (·.1 = ctx.key)
  let rest := ctx.svc.sessrdrmap.filter (·.1 ≠ ctx.key)
  { ctx with
    svc := { ctx.svc with
      sessrdrmap := rest
      inReordermap := ctx.svc.inReordermap && !(present && rest.isEmpty) }
    sess := { ctx.sess with
      reorder := { ctx.sess.reorder with expSeqStart := ⟨0, 0⟩ }
      isrdrmap := false } }

/-- `SVC_SESSION::~SVC_SESSION`, up to the members that are freed with it. -/
def destroySession (ops : ProtoOps σ) (ctx : Ctx σ) : Ctx σ :=
  let ctx := ctx.modifyStats fun stats =>
    { stats with nsessionsDel := stats.nsessionsDel + 1 }
  let ctx := ctx.setToDelete false
  let ctx := if ctx.sess.reorderActive || ctx.sess.isrdrmap then ctx.setReorderEnd else ctx
  match ctx.sess.pvarproto with
  | .sess proto true => ctx.setApi (ops.destroy proto ctx.svc.api)
  | _ => ctx

/-- `SVC_SESSION::SVC_SESSION`. -/
def newSession (ctx : Ctx σ) (hdr : ParsePktHdr) : Ctx σ :=
  let ctx := ctx.modifyStats fun stats =>
    { stats with nsessionsNew := stats.nsessionsNew + 1 }
  { ctx with
    svc := { ctx.svc with acts := ctx.svc.acts ++ [.made hdr] }
    sess :=
      { pvarproto := .monostate
        common := .new hdr
        proto := ctx.svc.proto
        reorder := .init
        toDelete := false
        isrdrmap := false } }

/-- Record a call of `do_proto_parse`. -/
def recordCall (ctx : Ctx σ) (hdr : ParsePktHdr) : Ctx σ :=
  { ctx with svc := { ctx.svc with
      parsed := ctx.svc.parsed ++ [⟨hdr, ctx.sess.common.dropType⟩]
      acts := ctx.svc.acts ++ [.call ⟨hdr, ctx.sess.common.dropType⟩] } }

/-- Allocate the protocol session; the flag is false if that throws. -/
def allocProtoSess (ops : ProtoOps σ) (ctx : Ctx σ) (hdr : ParsePktHdr) : Bool × Ctx σ :=
  match ops.allocSess ctx.sess.proto ctx.sess hdr ctx.svc.api with
  | (none, api) => (false, ctx.setApi api)
  | (some nonNull, api) =>
    let ctx := ctx.setApi api
    (true, { ctx with sess :=
      { ctx.sess with pvarproto := .sess ctx.sess.proto nonNull } })

/-- The drop counters of `do_proto_parse`. -/
def countDrops (ctx : Ctx σ) : Ctx σ :=
  if ctx.sess.common.isPktDrop then
    ctx.modifyStats fun stats =>
      { stats with
        ndroppkts := stats.ndroppkts + 1
        ndropbytes := ⟨stats.ndropbytes.cli + ctx.sess.common.currDropBytes.cli,
          stats.ndropbytes.ser + ctx.sess.common.currDropBytes.ser⟩ }
  else
    ctx

/-- Hand the data of a packet to its protocol.  An inbound packet may turn an
HTTP1 session into an HTTP2 session or back.  The flag is false if a parser
throws. -/
def handleProtoPkt (ops : ProtoOps σ) (ctx : Ctx σ) (hdr : ParsePktHdr) : Bool × Ctx σ :=
  if ctx.sess.proto.isHandled ∧ ctx.sess.pvarproto = .sess ctx.sess.proto true then
    match ops.handlePkt ctx.sess.proto ctx.sess hdr ctx.svc.api with
    | (none, api) => (false, ctx.setApi api)
    | (some newProto, api) =>
      let parsed := ctx.setApi api
      let parsed := { parsed with sess := { parsed.sess with proto := newProto } }
      if hdr.dir = .inbound ∧ !hdr.tcpflags.isFinRst ∧
          ((ctx.sess.proto = .http1 ∧ newProto = .http2) ∨
            (ctx.sess.proto = .http2 ∧ newProto = .http1)) then
        (parsed.setApi (ops.destroy ctx.sess.proto parsed.svc.api)).allocProtoSess ops hdr
      else
        (true, parsed)
  else
    (true, ctx)

/-- The end of `do_proto_parse` for a packet with `FIN` or `RST`. -/
def handleFinRst (ops : ProtoOps σ) (ctx : Ctx σ) (hdr : ParsePktHdr) : Ctx σ :=
  let ctx := ctx.setToDelete true
  if ctx.sess.proto.isHandled ∧ ctx.sess.pvarproto = .sess ctx.sess.proto true then
    ctx.setApi (ops.handleSessionEnd ctx.sess.proto ctx.sess hdr ctx.svc.api)
  else
    ctx

/-- The start of `do_proto_parse`: the shared counters, and the head information of
the reorder list while the session is alive. -/
def updStats (ctx : Ctx σ) (hdr : ParsePktHdr) : Ctx σ :=
  let ctx := (ctx.recordCall hdr).modifyCommon (·.updStats hdr)
  if !ctx.sess.toDelete && ctx.sess.reorderActive then
    ctx.modifyReorder (·.setHeadInfo ctx.sess.common hdr)
  else
    ctx

/-- The protocol session is allocated with the first data of a connection. -/
def openProto (ops : ProtoOps σ) (ctx : Ctx σ) (hdr : ParsePktHdr) : Bool × Ctx σ :=
  if ctx.sess.pvarproto = .monostate ∧ ctx.sess.proto.isHandled then
    ctx.allocProtoSess ops hdr
  else
    (true, ctx)

/-- The drop counters, then the data of the packet if it has any. -/
def parseData (ops : ProtoOps σ) (ctx : Ctx σ) (hdr : ParsePktHdr) : Bool × Ctx σ :=
  if 0 < hdr.datalen then ctx.countDrops.handleProtoPkt ops hdr else (true, ctx.countDrops)

/-- The rest of `do_proto_parse` for a session that is alive.  Exceptions of the
parsers are caught and give `false`, which is also the result of a packet parsed
without error. -/
def callProto (ops : ProtoOps σ) (ctx : Ctx σ) (hdr : ParsePktHdr) : Bool × Ctx σ :=
  if ctx.sess.pvarproto = .monostate ∧ hdr.datalen = 0 then
    (true, if hdr.tcpflags.isFinRst then ctx.setToDelete true else ctx)
  else
    match ctx.openProto ops hdr with
    | (false, ctx) => (false, ctx)
    | (true, ctx) =>
      match ctx.parseData ops hdr with
      | (false, ctx) => (false, ctx)
      | (true, ctx) =>
        (false, if hdr.tcpflags.isFinRst then ctx.handleFinRst ops hdr else ctx)

def doProtoParse (ops : ProtoOps σ) (ctx : Ctx σ) (hdr : ParsePktHdr) : Bool × Ctx σ :=
  let ctx := ctx.updStats hdr
  if ctx.sess.toDelete then (true, ctx) else ctx.callProto ops hdr

end Ctx

/-- A capture that can always allocate and whose protocol parsers do nothing. -/
def passiveOps : ProtoOps Unit where
  reorderMalloc := fun _ => (true, ())
  allocSess := fun _ _ _ _ => (some true, ())
  handlePkt := fun proto _ _ _ => (some proto, ())
  handleSessionEnd := fun _ _ _ _ => ()
  handleSslChange := fun _ _ _ _ => ()
  destroy := fun _ _ => ()

end Gyeeta.Capture
