import Gyeeta.Lib.Heap
import Gyeeta.Lib.Reassembly

/-!
# Sybase TDS packets

A TDS packet that does not lie in one captured packet is put together in the fragment buffer of
its direction.  The handler of the responses also uses the buffer of the responses, and leaves
tokens in it that go on in the next TDS packet.  What the handlers make of a TDS packet is left
open.  Sessions with dropped packets are not modelled.
-/

namespace Gyeeta.Sybase

open Reassembly

/-! ## Headers -/

def sybFragbuflen : Nat := 65536

/-- `SYB_TYPE_MIGRATE`, the last valid type. -/
def sybTypeMigrate : Nat := 17

/-- The length in a TDS header, if it is valid, `SYB_GET_TDS_LEN`. -/
def sybGetTdsLen (hdr : Bytes) : Option Nat :=
  let tdslen := hdr.fieldBe 2 2
  if tdslen < 8 ∨ 65534 < tdslen then none else some tdslen

/-- The type in a TDS header, if it is valid, `SYB_GET_TDS_TYPE`. -/
def sybGetTdsType (hdr : Bytes) : Option Nat :=
  let tdstype := hdr.field 0 1
  if sybTypeMigrate < tdstype then none else some tdstype

/-- The direction of a packet. -/
inductive Direction where
  | inbound
  | outbound
  deriving DecidableEq, Repr

/-- Whether the bytes of a TDS packet are kept: `SYB_TDS_SKIP` or `SYB_TDS_PARSE`. -/
inductive Interest where
  | skip
  | parse
  deriving DecidableEq, Repr

/-- `is_tds_of_interest`: at present every TDS packet is. -/
def isTdsOfInterest (_tdstype : Nat) (isLoginComplete : Bool) (dir : Direction) : Interest :=
  if isLoginComplete = false ∨ dir = .inbound then .parse else .parse

/-! ## Fragments -/

/-- The fragment state of a direction: whether a TDS packet is unfinished, the numbers of its
bytes so far and of those still to come, whether its bytes are kept, and the buffer. -/
structure Frag where
  pcapFrag : Bool
  nparsed : Nat
  nleft : Nat
  ign : Interest
  buf : Bytes
  deriving DecidableEq, Repr

/-- No TDS packet is unfinished. -/
def Frag.done (frag : Frag) : Frag :=
  { frag with pcapFrag := false, nparsed := 0, nleft := 0 }

/-- The TDS packet in a buffer. -/
def tdsOf (buf : Bytes) : Bytes :=
  buf.take (buf.fieldBe 2 2)

/-- Copies bytes to the buffer if the TDS packet is of interest. -/
def Frag.copy (frag : Frag) (offset : Nat) (bytes : Bytes) : Bytes :=
  match frag.ign with
  | .skip => frag.buf
  | .parse => frag.buf.write offset bytes

/-- The part of `handle_prev_req_frag` and `handle_prev_resp_frag` after the header is
complete.  The counters are read into 16-bit variables. -/
def handlePrevBody (frag : Frag) (packet : Bytes) : Progress Frag Bytes :=
  let nparsed := frag.nparsed % 2 ^ 16
  let nleft := frag.nleft % 2 ^ 16
  if nleft ≤ packet.length then
    if 65535 < nleft + nparsed then .error frag
    else
      let buf := frag.copy nparsed (packet.take nleft)
      .token { frag with buf := buf }.done (tdsOf buf) (packet.drop nleft)
  else if 65535 < nparsed + packet.length then .error frag
  else
    let buf := if packet.length < sybFragbuflen then frag.copy nparsed packet else frag.buf
    .more { frag with
      pcapFrag := true, nparsed := frag.nparsed + packet.length,
      nleft := nleft - packet.length, buf := buf }

/-- `handle_prev_req_frag` and `handle_prev_resp_frag`, which differ only in the direction of
the fragment they work on. -/
def handlePrevFrag (interest : Nat → Interest) (frag : Frag) (packet : Bytes) :
    Progress Frag Bytes :=
  let nparsed := frag.nparsed % 2 ^ 16
  if nparsed < 8 then
    let ncopy :=
      if nparsed + packet.length < 8 ∧ packet.length ≤ 8 then packet.length else 8 - nparsed
    let frag := { frag with
      buf := frag.buf.write nparsed (packet.take ncopy), nparsed := frag.nparsed + ncopy }
    if frag.nparsed < 8 then .more { frag with pcapFrag := true, nleft := 0 }
    else
      match sybGetTdsLen frag.buf, sybGetTdsType frag.buf with
      | some tdslen, some tdstype =>
        handlePrevBody
          { frag with nparsed := 8, nleft := tdslen - 8, ign := interest tdstype }
          (packet.drop ncopy)
      | _, _ => .error frag
  else handlePrevBody frag packet

/-- The part of the loop over a packet that starts with a TDS packet. -/
def handleNewTds (interest : Nat → Interest) (frag : Frag) (packet : Bytes) : Progress Frag Bytes :=
  if packet.length < 8 then
    .more { frag with
      pcapFrag := true, nparsed := packet.length, nleft := 0, buf := frag.buf.write 0 packet }
  else
    match sybGetTdsLen packet, sybGetTdsType packet with
    | some tdslen, some tdstype =>
      if packet.length < tdslen then
        let frag := { frag with
          pcapFrag := true, nparsed := packet.length, nleft := tdslen - packet.length,
          ign := interest tdstype, buf := frag.buf.write 0 (packet.take 8) }
        .more { frag with buf := frag.copy 8 (packet.drop 8) }
      else .token frag.done (packet.take tdslen) (packet.drop tdslen)
    | _, _ => .error frag

/-- The step of the loop over a packet. -/
def nextTds (interest : Nat → Interest) (frag : Frag) (packet : Bytes) : Progress Frag Bytes :=
  if frag.pcapFrag = true then handlePrevFrag interest frag packet
  else handleNewTds interest frag packet

/-! ## The session -/

/-- `BYTE_ORDER_E`. -/
inductive ByteOrder where
  | bigEndian
  | littleEndian
  deriving DecidableEq, Repr

/-- The flags that decide what is done with a packet. -/
structure Flags where
  skipTillNextreq : Bool
  skipToReqAfterResp : Bool
  chkForTdsByteorder : Nat
  origClientBo : ByteOrder
  isLoginComplete : Bool
  deriving DecidableEq, Repr

/-- A call of a TDS handler: the TDS packet it was passed, its result and the flags after
it. -/
structure Call where
  dir : Direction
  tds : Bytes
  ret : Int
  flags : Flags
  deriving DecidableEq, Repr

/-- `SYBASE_ASE_SESSINFO` with its `SYBASE_IW_PROTOSTAT_T`, and the calls of the handlers so
far. -/
structure Sessinfo where
  reqFrag : Frag
  respFrag : Frag
  flags : Flags
  calls : List Call
  deriving DecidableEq, Repr

/-- The contents of a fragment buffer. -/
structure FragBuf where
  bytes : Bytes
  length_eq : bytes.length = sybFragbuflen

/-- What the handlers do with a TDS packet: their results, the flags after them, and the
contents that the handler of the responses leaves in the buffer. -/
structure Handlers where
  handlePcapTdsReq : List Call → Bytes → Int × Flags
  handlePcapTdsResp : List Call → Bytes → Int × Flags
  respBuf : List Call → Bytes → FragBuf

namespace Sessinfo

/-- The record of a call of `handle_pcap_tds_req`. -/
def reqCall (handlers : Handlers) (sess : Sessinfo) (tds : Bytes) : Call where
  dir := .inbound
  tds := tds
  ret := (handlers.handlePcapTdsReq sess.calls tds).1
  flags := (handlers.handlePcapTdsReq sess.calls tds).2

/-- The record of a call of `handle_pcap_tds_resp`. -/
def respCall (handlers : Handlers) (sess : Sessinfo) (tds : Bytes) : Call where
  dir := .outbound
  tds := tds
  ret := (handlers.handlePcapTdsResp sess.calls tds).1
  flags := (handlers.handlePcapTdsResp sess.calls tds).2

/-- The loop of `handle_request_pkt`. -/
def reqChannel (handlers : Handlers) : Channel Sessinfo Frag Bytes where
  frag := reqFrag
  setFrag := fun sess frag => { sess with reqFrag := frag }
  next := fun sess =>
    nextTds fun tdstype => isTdsOfInterest tdstype sess.flags.isLoginComplete .inbound
  handle := fun sess tds =>
    let call := sess.reqCall handlers tds
    ({ sess with flags := call.flags, calls := sess.calls ++ [call] }, decide (0 ≤ call.ret))
  fail := fun sess frag => { sess with reqFrag := frag }

/-- The fragment of the responses.  What the handler left in the buffer stays there until the
next TDS packet is put together. -/
def setRespFrag (sess : Sessinfo) (frag : Frag) : Sessinfo :=
  { sess with
    respFrag :=
      if frag.pcapFrag = true then frag else { frag with buf := sess.respFrag.buf } }

/-- The loop of `handle_response_pkt`. -/
def respChannel (handlers : Handlers) : Channel Sessinfo Frag Bytes where
  frag := respFrag
  setFrag := setRespFrag
  next := fun sess =>
    nextTds fun tdstype => isTdsOfInterest tdstype sess.flags.isLoginComplete .outbound
  handle := fun sess tds =>
    let call := sess.respCall handlers tds
    ({ sess with
        respFrag := { sess.respFrag with buf := (handlers.respBuf sess.calls tds).bytes },
        flags := call.flags, calls := sess.calls ++ [call] }, decide (0 ≤ call.ret))
  fail := setRespFrag

/-- The end of a response in the middle of which the session was entered,
`handle_drop_pcap_resp_eom`. -/
def handleDropPcapRespEom (sess : Sessinfo) (packet : Bytes) : Sessinfo :=
  let len := packet.length % 2 ^ 16
  let last := packet.slice (len - 9) 9
  let fdstat := match sess.flags.origClientBo with
    | .bigEndian => last.fieldBe 1 2
    | .littleEndian => last.field 1 2
  if len ≤ 9 then sess
  else if last.field 0 1 ≠ 0xfd ∧ last.field 0 1 ≠ 0xfe then sess
  else if fdstat % 2 = 1 then sess
  else
    { sess with
      reqFrag := sess.reqFrag.done, respFrag := sess.respFrag.done,
      flags := { sess.flags with skipTillNextreq := true, skipToReqAfterResp := false } }

/-- `handle_request_pkt` of a session without drops. -/
def handleRequestPkt (handlers : Handlers) (sess : Sessinfo) (packet : Bytes) : Sessinfo :=
  let sess : Sessinfo := { sess with flags := { sess.flags with skipTillNextreq := false } }
  if sess.flags.skipToReqAfterResp = true then sess
  else if sess.flags.chkForTdsByteorder = 1 then
    { sess with flags := { sess.flags with chkForTdsByteorder := 2, skipToReqAfterResp := true } }
  else (reqChannel handlers).receive packet.length sess packet

/-- `handle_response_pkt` of a session without drops. -/
def handleResponsePkt (handlers : Handlers) (sess : Sessinfo) (packet : Bytes) : Sessinfo :=
  if sess.flags.skipTillNextreq = true then sess
  else if sess.flags.chkForTdsByteorder = 1 then sess
  else if sess.flags.skipToReqAfterResp = true then sess.handleDropPcapRespEom packet
  else (respChannel handlers).receive packet.length sess packet

/-- A packet of a session without drops. -/
def step (handlers : Handlers) (sess : Sessinfo) : Packet → Sessinfo
  | .req bytes => sess.handleRequestPkt handlers bytes
  | .resp bytes => sess.handleResponsePkt handlers bytes

/-- A session in step: no TDS packet is unfinished, the byte order of the client is known and
no packets are to be skipped. -/
def inStep (reqBuf respBuf : FragBuf) (origClientBo : ByteOrder) (isLoginComplete : Bool) :
    Sessinfo where
  reqFrag := { pcapFrag := false, nparsed := 0, nleft := 0, ign := .parse, buf := reqBuf.bytes }
  respFrag := { pcapFrag := false, nparsed := 0, nleft := 0, ign := .parse, buf := respBuf.bytes }
  flags :=
    { skipTillNextreq := false, skipToReqAfterResp := false, chkForTdsByteorder := 0,
      origClientBo := origClientBo, isLoginComplete := isLoginComplete }
  calls := []

end Sessinfo

end Gyeeta.Sybase
