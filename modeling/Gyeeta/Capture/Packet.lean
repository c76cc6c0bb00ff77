import Gyeeta.Lib.Serial

/-!
# Captured packets and drop detection

The packet header handed to a parser thread, the drop classification of a packet against the next
expected sequence numbers, and the counters that it reads and updates.

The source keeps every quantity for the client and for the server, and writes each function as
two branches.  Here such a pair is a `PerSide`, and the branches are one definition over the
`Side` a packet comes from.
-/

namespace Gyeeta.Capture

/-- The two ends of a TCP connection. -/
inductive Side where
  | cli
  | ser
  deriving DecidableEq, Repr

/-- The opposite end. -/
def Side.other : Side → Side
  | .cli => .ser
  | .ser => .cli

lemma Side.eq_or_eq_other (side mine : Side) : side = mine ∨ side = mine.other := by
  cases side <;> cases mine <;> simp [Side.other]

/-- A quantity kept for the client and for the server. -/
structure PerSide (α : Type) where
  cli : α
  ser : α
  deriving DecidableEq, Repr

namespace PerSide

variable {α : Type}

/-- The value kept for one side. -/
def get (pair : PerSide α) : Side → α
  | .cli => pair.cli
  | .ser => pair.ser

/-- Replace the value kept for one side. -/
def set (pair : PerSide α) (side : Side) (value : α) : PerSide α :=
  match side with
  | .cli => { pair with cli := value }
  | .ser => { pair with ser := value }

/-- Build a pair from the value of one side and the value of the other. -/
def mk' (side : Side) (mine theirs : α) : PerSide α :=
  match side with
  | .cli => ⟨mine, theirs⟩
  | .ser => ⟨theirs, mine⟩

@[simp] lemma get_set_self (pair : PerSide α) (side : Side) (value : α) :
    (pair.set side value).get side = value := by
  cases side <;> rfl

@[simp] lemma get_mk'_self (side : Side) (mine theirs : α) :
    (mk' side mine theirs).get side = mine := by
  cases side <;> rfl

@[simp] lemma get_mk'_other (side : Side) (mine theirs : α) :
    (mk' side mine theirs).get side.other = theirs := by
  cases side <;> rfl

end PerSide

inductive DirPacket where
  | unknown
  | inbound
  | outbound
  deriving DecidableEq, Repr

/-- The side that sends packets of this direction.  The source tests for
`DirInbound` and treats everything else as outbound. -/
def DirPacket.side : DirPacket → Side
  | .inbound => .cli
  | .unknown | .outbound => .ser

inductive ApiCapSrc where
  | unknown
  | pcap
  | uprobe
  | kprobe
  | uprobeSsl
  deriving DecidableEq, Repr

/-- The TCP flags that the parser looks at. -/
structure TcpFlags where
  syn : Bool
  fin : Bool
  rst : Bool
  deriving DecidableEq, Repr

/-- `GY_TH_FIN | GY_TH_RST` is set. -/
def TcpFlags.isFinRst (flags : TcpFlags) : Bool :=
  flags.fin || flags.rst

/-- Address and port of a client. -/
structure IpPort where
  ip : Nat
  port : Nat
  deriving DecidableEq, Repr

/-- A TCP sequence number. -/
abbrev Seq := BitVec 32

/-- `PARSE_PKT_HDR`, with the capture time in microseconds. -/
structure ParsePktHdr where
  tvUsec : Nat
  cli : IpPort
  datalen : Nat
  nxtSeq : PerSide Seq
  startSeq : PerSide Seq
  tcpflags : TcpFlags
  dir : DirPacket
  src : ApiCapSrc
  deriving DecidableEq, Repr

/-- The side that sent the packet. -/
def ParsePktHdr.side (hdr : ParsePktHdr) : Side :=
  hdr.dir.side

/-- `MAX_PARSE_TOTAL_LEN`: the size of the pool buffer that holds one header and
its data. -/
def maxParseTotalLen : Nat := 1800

inductive DropTypes where
  | noDrop
  | retransmit
  | dropSeen
  | dropNewSess
  deriving DecidableEq, Repr

/-- `is_tcp_drop`: the drop status of the packet's own direction and of the other
direction, from the expected and the actual numbers. -/
def isTcpDrop (expSeq actSeq expAck actAck : Seq) (isSyn isFinack : Bool) : DropTypes × DropTypes :=
  let diff := Serial.diff expSeq actSeq
  let diffack := Serial.diff expAck actAck
  if diff = 0 then
    if 0 ≤ diffack then
      (.noDrop, if diffack = 0 then .noDrop else .retransmit)
    else if isFinack ∧ diffack = -1 then
      (.noDrop, .noDrop)
    else
      (.noDrop, .dropSeen)
  else if 0 < diff then
    if diff < 1024 * 1024 then
      (.retransmit, .retransmit)
    else if isSyn ∨ 1024 * 1024 < diffack.natAbs then
      (.dropNewSess, .dropNewSess)
    else
      (.retransmit, .retransmit)
  else if diff < -100 * 1024 * 1024 ∨
      (diff < -1024 * 1024 ∧ (isSyn ∨ 1024 * 1024 < diffack.natAbs)) then
    (.dropNewSess, .dropNewSess)
  else if 0 ≤ diffack then
    (.dropSeen, if diffack = 0 then .noDrop else .retransmit)
  else
    (.dropSeen, .dropSeen)

/-- `tcp_drop_bytes`: the bytes missing in the first and in the second direction. -/
def tcpDropBytes (expSeq1 actSeq1 expSeq2 actSeq2 : Seq) (type1 type2 : DropTypes) : Nat × Nat :=
  if (type1 = .noDrop ∨ type1 = .retransmit) ∧
      (type2 = .noDrop ∨ type2 = .retransmit) then
    (0, 0)
  else if type1 = .dropNewSess ∧ type2 = .dropNewSess then
    (1024, 1024)
  else
    (if type1 = .dropSeen then (Serial.diff actSeq1 expSeq1).natAbs else 0,
      if type2 = .dropSeen then (Serial.diff actSeq2 expSeq2).natAbs else 0)

/-- `COMMON_PROTO`: the counters of a session that all protocols share. -/
structure CommonProto where
  /-- `tot_reqlen_` and `tot_reslen_`. -/
  totLen : PerSide Nat
  tlastpktUsec : Nat
  tconnectUsec : Nat
  tcloseUsec : Nat
  cliIpPort : IpPort
  /-- `nxt_cli_seq_` and `nxt_ser_seq_`. -/
  nxtSeq : PerSide Seq
  /-- `curr_req_drop_bytes_` and `curr_resp_drop_bytes_`. -/
  currDropBytes : PerSide Nat
  currdir : DirPacket
  lastdir : DirPacket
  /-- `clidroptype_` and `serdroptype_`. -/
  dropType : PerSide DropTypes
  isSsl : Bool
  synSeen : Bool
  deriving DecidableEq, Repr

namespace CommonProto

/-- `COMMON_PROTO::COMMON_PROTO`. -/
def new (hdr : ParsePktHdr) : CommonProto where
  totLen := ⟨0, 0⟩
  tlastpktUsec := hdr.tvUsec
  tconnectUsec := hdr.tvUsec
  tcloseUsec := 0
  cliIpPort := hdr.cli
  nxtSeq := hdr.nxtSeq
  currDropBytes := ⟨0, 0⟩
  currdir := hdr.dir
  lastdir := .unknown
  dropType := ⟨.noDrop, .noDrop⟩
  isSsl := hdr.src = .uprobeSsl
  synSeen := hdr.tcpflags.syn

def setSrcChg (common : CommonProto) (hdr : ParsePktHdr) : CommonProto :=
  { common with
    nxtSeq := hdr.nxtSeq
    isSsl := hdr.src = .uprobeSsl
    synSeen := hdr.tcpflags.syn }

/-- A drop was seen in one of the two directions (`SVC_SESSION::is_pkt_drop`). -/
def isPktDrop (common : CommonProto) : Bool :=
  common.dropType.cli = .dropSeen || common.dropType.ser = .dropSeen

def updStats (common : CommonProto) (hdr : ParsePktHdr) : CommonProto :=
  let mine := hdr.side
  let theirs := mine.other
  let dropBytes :=
    if common.isPktDrop then
      let bytes := tcpDropBytes (common.nxtSeq.get mine) (hdr.startSeq.get mine)
        (common.nxtSeq.get theirs) (hdr.startSeq.get theirs)
        (common.dropType.get mine) (common.dropType.get theirs)
      .mk' mine bytes.1 bytes.2
    else
      ⟨0, 0⟩
  { common with
    currDropBytes := dropBytes
    totLen := common.totLen.set mine (common.totLen.get mine + hdr.datalen)
    nxtSeq := .mk' mine (hdr.nxtSeq.get mine)
      (if common.dropType.get theirs = .retransmit then common.nxtSeq.get theirs
        else hdr.nxtSeq.get theirs)
    tlastpktUsec := hdr.tvUsec
    lastdir := common.currdir
    currdir := hdr.dir }

section

variable (common : CommonProto) (hdr : ParsePktHdr)
include common hdr

@[simp] lemma updStats_dropType : (common.updStats hdr).dropType = common.dropType := rfl

@[simp] lemma updStats_nxtSeq_self :
    (common.updStats hdr).nxtSeq.get hdr.side = hdr.nxtSeq.get hdr.side := by
  simp [updStats]

lemma updStats_nxtSeq_other : (common.updStats hdr).nxtSeq.get hdr.side.other =
      if common.dropType.get hdr.side.other = .retransmit then common.nxtSeq.get hdr.side.other
      else hdr.nxtSeq.get hdr.side.other := by
  simp [updStats]

end

end CommonProto

end Gyeeta.Capture
