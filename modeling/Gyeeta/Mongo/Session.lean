import Gyeeta.Lib.Bounded

/-!
# Mongo sessions

The parser of a Mongo session hands each message in the packets of its two directions to the
token handler of its direction.  What the handlers make of the documents in a message is left
open; their effect on the state shared with the parser is not.  Packets come from the network,
not from a probe of the TLS library.
-/

namespace Gyeeta.Mongo

open Reassembly

/-- The direction of a packet. -/
inductive Direction where
  | inbound
  | outbound
  deriving DecidableEq, Repr

/-! ## TLS -/

def tlsHdrSz : Nat := 5

/-- Whether a TLS handshake record of the given length may start with these bytes. -/
def isTlsHandshake (dir : Direction) (isInit : Bool) (hdrlen : Nat) (data : Bytes) : Bool :=
  if data.length < 4 then true
  else
    let htype := data.field 0 1
    let hlen := data.fieldBe 1 3
    if 21 ≤ htype ∨ hdrlen - 4 < hlen then false
    else if isInit = true then
      match dir with
      | .inbound => decide (htype = 1)
      | .outbound => decide (htype = 2 ∨ htype = 0)
    else true

/-- The length in the header of a TLS record, if `data` may start with one. -/
def tlsRecord (dir : Direction) (isInit : Bool) (data : Bytes) : Option Nat :=
  let type := data.field 0 1
  let hdrlen := data.fieldBe 3 2
  if data.length < tlsHdrSz then none
  else if type < 0x14 ∨ 0x18 < type then none
  else if isInit = true ∧ type ≠ 0x16 then none
  else if data.field 1 1 ≠ 3 ∨ 4 < data.field 2 1 then none
  else if type ≠ 0x17 ∧ 16 * 1024 < hdrlen then none
  else if type = 0x14 ∧ hdrlen ≠ 1 then none
  else if type = 0x15 ∧ hdrlen ≠ 2 then none
  else if type = 0x16 ∧
      (hdrlen < 4 ∨ isTlsHandshake dir isInit hdrlen (data.drop tlsHdrSz) = false) then none
  else some hdrlen

/-- `TLS_PROTO::is_tls_req_resp`.  When the packet goes on after the first record, the start
of the next one is checked too; only nine bytes of it are passed, so that there is no third
check. -/
def isTlsReqResp (dir : Direction) (isInit : Bool) (data : Bytes) : Bool :=
  match tlsRecord dir isInit data with
  | none => false
  | some hdrlen =>
    let rest := data.drop (tlsHdrSz + hdrlen)
    if rest.length ≤ tlsHdrSz then true
    else (tlsRecord dir false (rest.take (tlsHdrSz + 4))).isSome

/-! ## Messages -/

def opUpdate : Nat := 2001
def opInsert : Nat := 2002
def opDelete : Nat := 2006
def opMsg : Nat := 2013

/-- The size of `MG_MSG_HDR`. -/
def hdrLen : Nat := 16

/-- `opcode_` of a header. -/
def opcode (hdr : Bytes) : Nat :=
  hdr.field 12 4

/-- The length of the body: `msglen_` counts the header and is read as an `int` where a body
is continued.  Lengths from `2 ^ 31` on are no valid `int32` and count as errors here; the
check of a complete header, which reads `msglen_` as unsigned, lets them through. -/
def tknlen (hdr : Bytes) : Option Nat :=
  let msglen := hdr.field 0 4
  if msglen ≤ hdrLen ∨ 2 ^ 31 ≤ msglen then none else some (msglen - hdrLen)

/-- The requests of which only the first bytes of each packet are kept. -/
def unsupported : List Nat := [opUpdate, opInsert, opDelete]

/-- Requests are kept up to `max_mongo_req_token_`. -/
def reqLayout (apiMaxLen : Nat) : Bounded.Layout where
  hdrLen := hdrLen
  bodyLen := tknlen
  maxBody := apiMaxLen + 512
  copied := fun hdr count => if opcode hdr ∈ unsupported then min count 64 else count
  hdrLen_pos := by decide
  copied_le := by
    intro hdr count
    split
    · exact Nat.min_le_left _ _
    · exact Nat.le_refl _

/-- Responses are kept up to `max_mongo_resp_token_`. -/
def respLayout : Bounded.Layout where
  hdrLen := hdrLen
  bodyLen := tknlen
  maxBody := 2048
  copied := fun _ count => count
  hdrLen_pos := by decide
  copied_le := fun _ _ => Nat.le_refl _

/-! ## The session -/

/-- A call of a token handler: its arguments, its result, and after it the number of requests
that wait for a response and `skip_till_auth_resp_`. -/
structure Call where
  dir : Direction
  token : Bounded.Token
  ret : Int
  pending : Nat
  skipAuth : Nat
  deriving DecidableEq, Repr

/-- `MONGO_SESSINFO` with its `MG_REQSTAT`, and the calls of the handlers so far. -/
structure Sessinfo where
  reqFrag : Bounded.Frag
  respFrag : Bounded.Frag
  nreadyRespPending : Nat
  skipTillAuthResp : Nat
  skipToReqAfterResp : Nat
  skipReqRespTillReady : Bool
  isMidwaySession : Bool
  isSslSess : Int
  nsslRespChk : Nat
  skipSession : Bool
  dropSeen : Bool
  calls : List Call
  deriving DecidableEq, Repr

/-- What `handle_req_token` makes of a message.  A compressed one ends the parsing of the
session with an error.  Otherwise there is its result, whether a response is expected, and
whether it starts a speculative authentication. -/
inductive ReqOutcome where
  | skipSession
  | done (ret : Int) (expectsResp isSpeculative : Bool)
  deriving DecidableEq, Repr

/-- What `handle_resp_token` makes of a message: its result, whether it answers a request,
whether there is a request text, and whether the request is older than ten minutes. -/
inductive RespOutcome where
  | skipSession
  | done (ret : Int) (answers hasText timedOut : Bool)
  deriving DecidableEq, Repr

def ReqOutcome.ret : ReqOutcome → Int
  | .skipSession => -1
  | .done ret _ _ => ret

def RespOutcome.ret : RespOutcome → Int
  | .skipSession => -1
  | .done ret _ _ _ => ret

/-- The parts of the parser that read the documents of the messages. -/
structure Handlers where
  handleReqToken : List Call → Bounded.Token → ReqOutcome
  handleRespToken : List Call → Bounded.Token → RespOutcome
  isValidReq : Bytes → Bool
  isValidResp : Bytes → Bool

namespace Sessinfo

/-- `MG_REQSTAT::reset_stats_on_resp` with `clear_req`. -/
def reset (sess : Sessinfo) : Sessinfo :=
  { sess with
    reqFrag := sess.reqFrag.reset, respFrag := sess.respFrag.reset, nreadyRespPending := 0,
    skipTillAuthResp := 0, skipToReqAfterResp := 0, skipReqRespTillReady := false }

/-- The part of `request_done` that the reassembly sees, `reset_stats_on_resp` without
`clear_req`. -/
def requestDone (sess : Sessinfo) : Sessinfo :=
  { sess with
    respFrag := sess.respFrag.reset, nreadyRespPending := 0, skipTillAuthResp := 0,
    skipToReqAfterResp := 0, skipReqRespTillReady := false }

def resetOnError (sess : Sessinfo) (currdir : Direction) : Sessinfo :=
  match currdir with
  | .inbound => { sess.reset with skipToReqAfterResp := 1 }
  | .outbound => sess.reset

/-- One more request waits for a response.  When there are too many a drop is simulated. -/
def addPending (sess : Sessinfo) : Sessinfo :=
  let pending := (sess.nreadyRespPending + 1) % 2 ^ 16
  { sess with nreadyRespPending := pending, dropSeen := sess.dropSeen || decide (128 < pending) }

/-- The effect of `handle_req_token` on the session. -/
def reqToken (handlers : Handlers) (sess : Sessinfo) (token : Bounded.Token) : Sessinfo :=
  match handlers.handleReqToken sess.calls token with
  | .skipSession => { sess with skipSession := true }
  | .done _ expectsResp isSpeculative =>
    let sess := if isSpeculative = true then { sess with skipTillAuthResp := 1 } else sess
    if expectsResp = true then sess.addPending else sess

/-- A response answers the oldest request. -/
def answered (sess : Sessinfo) (hasText timedOut : Bool) : Sessinfo :=
  if 0 < sess.nreadyRespPending then
    let pending := sess.nreadyRespPending - 1
    let pending :=
      if hasText = true ∧ 0 < pending ∧ timedOut = true then 0 else pending
    let sess := { sess with nreadyRespPending := pending }
    if pending = 0 then sess.requestDone else sess
  else if hasText = true then sess.requestDone
  else sess

/-- The effect of `handle_resp_token` on the session. -/
def respToken (handlers : Handlers) (sess : Sessinfo) (token : Bounded.Token) : Sessinfo :=
  let outcome := handlers.handleRespToken sess.calls token
  let sess :=
    if opcode token.hdr = opMsg then { sess with skipReqRespTillReady := false } else sess
  match outcome with
  | .skipSession => { sess with skipSession := true }
  | .done _ answers hasText timedOut =>
    if answers = true then sess.answered hasText timedOut else sess

/-- The record of a call of `handle_req_token`. -/
def reqCall (handlers : Handlers) (sess : Sessinfo) (token : Bounded.Token) : Call where
  dir := .inbound
  token := token
  ret := (handlers.handleReqToken sess.calls token).ret
  pending := (sess.reqToken handlers token).nreadyRespPending
  skipAuth := (sess.reqToken handlers token).skipTillAuthResp

/-- The record of a call of `handle_resp_token`. -/
def respCall (handlers : Handlers) (sess : Sessinfo) (token : Bounded.Token) : Call where
  dir := .outbound
  token := token
  ret := (handlers.handleRespToken sess.calls token).ret
  pending := (sess.respToken handlers token).nreadyRespPending
  skipAuth := (sess.respToken handlers token).skipTillAuthResp

/-! ## Packets -/

/-- The request direction of the session. -/
def reqChannel (apiMaxLen : Nat) (handlers : Handlers) :
    Channel Sessinfo Bounded.Frag Bounded.Token where
  frag := reqFrag
  setFrag := fun sess frag => { sess with reqFrag := frag }
  next := fun _ => Bounded.next (reqLayout apiMaxLen)
    fun frag => decide ((reqLayout apiMaxLen).maxBody < frag.nbytes)
  handle := fun sess token =>
    let call := sess.reqCall handlers token
    ({ sess.reqToken handlers token with calls := sess.calls ++ [call] }, decide (0 ≤ call.ret))
  fail := fun sess _ => sess.resetOnError .inbound

/-- The response direction of the session. -/
def respChannel (handlers : Handlers) : Channel Sessinfo Bounded.Frag Bounded.Token where
  frag := respFrag
  setFrag := fun sess frag => { sess with respFrag := frag }
  next := fun _ => Bounded.next respLayout fun frag => decide (respLayout.maxBody < frag.nbytes)
  handle := fun sess token =>
    let call := sess.respCall handlers token
    ({ sess.respToken handlers token with calls := sess.calls ++ [call] }, decide (0 ≤ call.ret))
  fail := fun sess _ => sess.resetOnError .outbound

/-- The part of `parse_req_pkt` after the checks for a lost session: a session is taken for an
encrypted one by its first request. -/
def parseReq (apiMaxLen : Nat) (handlers : Handlers) (sess : Sessinfo) (packet : Bytes) :
    Sessinfo :=
  if sess.skipTillAuthResp ≠ 0 then sess
  else if sess.isSslSess = -1 then
    if isTlsReqResp .inbound (!sess.isMidwaySession) packet = true then
      { sess with isSslSess := 1 }
    else
      (reqChannel apiMaxLen handlers).receive packet.length { sess with isSslSess := 0 } packet
  else (reqChannel apiMaxLen handlers).receive packet.length sess packet

def parseReqPkt (apiMaxLen : Nat) (handlers : Handlers) (sess : Sessinfo) (packet : Bytes) :
    Sessinfo :=
  if sess.skipReqRespTillReady = true then sess
  else if sess.skipToReqAfterResp = 0 then sess.parseReq apiMaxLen handlers packet
  else if sess.skipToReqAfterResp = 2 then
    if 8 < packet.length ∧ handlers.isValidReq packet = true then
      { sess with skipToReqAfterResp := 0 }.parseReq apiMaxLen handlers packet
    else if 8 < packet.length ∧ sess.isSslSess = -1 ∧
        isTlsReqResp .inbound false packet = true then
      { sess with isSslSess := 1 }
    else
      let isSslSess := if 8 < packet.length ∧ sess.isSslSess = -1 then 0 else sess.isSslSess
      { sess with
        isSslSess := isSslSess, skipReqRespTillReady := true, skipToReqAfterResp := 1 }
  else { sess with skipToReqAfterResp := 1 }

/-- The part of `parse_resp_pkt` after the check for a valid response. -/
def parseResp (handlers : Handlers) (sess : Sessinfo) (packet : Bytes) : Sessinfo :=
  if sess.skipToReqAfterResp ≠ 0 then { sess with skipToReqAfterResp := 2 }
  else if sess.skipTillAuthResp = 1 then { sess with skipTillAuthResp := 2 }
  else (respChannel handlers).receive packet.length { sess with skipTillAuthResp := 0 } packet

def parseRespPkt (handlers : Handlers) (sess : Sessinfo) (packet : Bytes) : Sessinfo :=
  if sess.skipReqRespTillReady = true then
    if 8 < packet.length ∧ handlers.isValidResp packet = true then
      sess.reset.parseResp handlers packet
    else sess
  else sess.parseResp handlers packet

/-- What both directions do after a drop. -/
def onDrop (sess : Sessinfo) : Sessinfo :=
  { sess.reset with
    isMidwaySession := true, dropSeen := false, skipToReqAfterResp := 1,
    skipReqRespTillReady := true }

/-- `handle_request_pkt`; `dropped` tells whether a drop was seen in either direction. -/
def handleRequestPkt (apiMaxLen : Nat) (handlers : Handlers) (sess : Sessinfo) (dropped : Bool)
    (packet : Bytes) : Sessinfo :=
  if sess.skipSession = true ∨ sess.isSslSess = 2 then sess
  else if sess.dropSeen = true ∨ dropped = true then sess.onDrop
  else sess.parseReqPkt apiMaxLen handlers packet

/-- The part of `handle_response_pkt` after the checks for an encrypted session. -/
def handleResponse (handlers : Handlers) (sess : Sessinfo) (dropped : Bool) (packet : Bytes) :
    Sessinfo :=
  if sess.dropSeen = true ∨ dropped = true then sess.onDrop
  else sess.parseRespPkt handlers packet

/-- `handle_response_pkt`; `serDropped` tells whether a drop was seen in its own direction.
When no response confirms that the session is encrypted this is given up after some packets;
the counter is incremented twice for each of them. -/
def handleResponsePkt (handlers : Handlers) (sess : Sessinfo) (dropped serDropped : Bool)
    (packet : Bytes) : Sessinfo :=
  if sess.skipSession = true ∨ sess.isSslSess = 2 then sess
  else if sess.isSslSess = 1 then
    if isTlsReqResp .outbound (!sess.isMidwaySession && !serDropped) packet = true then
      { sess with isSslSess := 2 }
    else if 8 < sess.nsslRespChk + 1 then
      { sess with nsslRespChk := sess.nsslRespChk + 1, isSslSess := -1, skipToReqAfterResp := 1 }
    else { sess with nsslRespChk := sess.nsslRespChk + 2 }.handleResponse handlers dropped packet
  else sess.handleResponse handlers dropped packet

/-- A packet of a session without drops. -/
def step (apiMaxLen : Nat) (handlers : Handlers) (sess : Sessinfo) : Packet → Sessinfo
  | .req bytes => sess.handleRequestPkt apiMaxLen handlers false bytes
  | .resp bytes => sess.handleResponsePkt handlers false false bytes

end Sessinfo

/-- The buffers of a session, with whatever bytes they hold. -/
structure FragBufs (apiMaxLen : Nat) where
  req : Bytes
  resp : Bytes
  length_req : req.length = (reqLayout apiMaxLen).maxBody + 16
  length_resp : resp.length = respLayout.maxBody + 16

/-- A new session whose start was seen. -/
def Sessinfo.new {apiMaxLen : Nat} (bufs : FragBufs apiMaxLen) : Sessinfo where
  reqFrag := { stage := .start, hdr := [], nbytes := 0, skip := 0, buf := bufs.req }
  respFrag := { stage := .start, hdr := [], nbytes := 0, skip := 0, buf := bufs.resp }
  nreadyRespPending := 0
  skipTillAuthResp := 0
  skipToReqAfterResp := 0
  skipReqRespTillReady := false
  isMidwaySession := false
  isSslSess := -1
  nsslRespChk := 0
  skipSession := false
  dropSeen := false
  calls := []

end Gyeeta.Mongo
