import Gyeeta.Lib.Bounded

/-!
# Postgres sessions after login

The parser of a Postgres session hands each message in the packets of its two directions to the
token handler of its direction.  What the handlers make of the text of a message is left open;
their effect on the state shared with the parser is not.
-/

namespace Gyeeta.Postgres

open Reassembly

/-! ## Messages -/

/-- The message types that matter to the reassembly, `PG_MSG_TYPES_E`. -/
def msgFQuery : UInt8 := 0x51
def msgFClose : UInt8 := 0x43
def msgFCopyfail : UInt8 := 0x66
def msgFParse : UInt8 := 0x50
def msgFBind : UInt8 := 0x42
def msgFDescribe : UInt8 := 0x44
def msgFExecute : UInt8 := 0x45
def msgFSync : UInt8 := 0x53
def msgFFunctionCall : UInt8 := 0x46
def msgFbCopydata : UInt8 := 0x64
def msgFbCopydone : UInt8 := 0x63
def msgBDatarow : UInt8 := 0x44
def msgBReadyForQuery : UInt8 := 0x5a
def msgBCopyoutResp : UInt8 := 0x48
def msgBCopyinResp : UInt8 := 0x47
def msgBCopybothResp : UInt8 := 0x57

/-- The type and the length of a message. -/
def hdrLen : Nat := 5

/-- The type in a header. -/
def tkntype (hdr : Bytes) : UInt8 :=
  hdr.headD 0

/-- The length of the body: the length field counts itself and is read as an `int`. -/
def tknlen (hdr : Bytes) : Option Nat :=
  let len := hdr.fieldBe 1 4
  if 2 ^ 31 ≤ len ∨ len < 4 then none else some (len - 4)

/-- Requests are kept up to `max_pg_req_token_`. -/
def reqLayout (apiMaxLen : Nat) : Bounded.Layout where
  hdrLen := hdrLen
  bodyLen := tknlen
  maxBody := apiMaxLen + 512
  copied := fun _ count => count
  hdrLen_pos := by decide
  copied_le := fun _ _ => Nat.le_refl _

/-- Responses are kept up to `max_pg_resp_token_`, of data rows only the first bytes of each
packet. -/
def respLayout : Bounded.Layout where
  hdrLen := hdrLen
  bodyLen := tknlen
  maxBody := 2048
  copied := fun hdr count => if tkntype hdr = msgBDatarow then min count 32 else count
  hdrLen_pos := by decide
  copied_le := by
    intro hdr count
    split
    · exact Nat.min_le_left _ _
    · exact Nat.le_refl _

/-! ## The session -/

/-- The direction of a packet. -/
inductive Direction where
  | inbound
  | outbound
  deriving DecidableEq, Repr

/-- A call of a token handler: its arguments, its result, and the number of requests that wait
for a response after it. -/
structure Call where
  dir : Direction
  token : Bounded.Token
  ret : Int
  pending : Nat
  deriving DecidableEq, Repr

/-- `POSTGRES_SESSINFO` after login with its `PG_REQSTAT`, and the calls of the handlers so
far. -/
structure Sessinfo where
  reqFrag : Bounded.Frag
  respFrag : Bounded.Frag
  nreadyRespPending : Nat
  skipToReqAfterResp : Nat
  skipReqRespTillReady : Bool
  copyMode : Bool
  dropSeen : Bool
  calls : List Call
  deriving DecidableEq, Repr

/-- What the token handlers do with the text of the messages: their results, whether there is
a request text when the server is ready again, and whether a request is older than ten
minutes. -/
structure Handlers where
  handleReqToken : List Call → Bounded.Token → Int
  handleRespToken : List Call → Bounded.Token → Int
  hasText : List Call → Bool
  timedOut : List Call → Bool

namespace Sessinfo

/-- `PG_REQSTAT::reset_stats_on_resp` with `clear_req`. -/
def reset (sess : Sessinfo) : Sessinfo where
  reqFrag := sess.reqFrag.reset
  respFrag := sess.respFrag.reset
  nreadyRespPending := 0
  skipToReqAfterResp := 0
  skipReqRespTillReady := false
  copyMode := false
  dropSeen := sess.dropSeen
  calls := sess.calls

/-- The part of `request_done` that the reassembly sees, `reset_stats_on_resp` without
`clear_req`. -/
def requestDone (sess : Sessinfo) : Sessinfo where
  reqFrag := sess.reqFrag
  respFrag := sess.respFrag.reset
  nreadyRespPending := 0
  skipToReqAfterResp := 0
  skipReqRespTillReady := false
  copyMode := false
  dropSeen := sess.dropSeen
  calls := sess.calls

def resetOnError (sess : Sessinfo) (currdir : Direction) : Sessinfo :=
  match currdir with
  | .inbound => { sess.reset with skipToReqAfterResp := 1 }
  | .outbound => sess.reset

/-- One more request waits for a response.  When there are too many a drop is simulated. -/
def addPending (sess : Sessinfo) : Sessinfo :=
  let pending := (sess.nreadyRespPending + 1) % 2 ^ 16
  { sess with nreadyRespPending := pending, dropSeen := sess.dropSeen || decide (128 < pending) }

/-- The effect of `handle_req_token` on the session. -/
def reqToken (sess : Sessinfo) (token : Bounded.Token) : Sessinfo :=
  let type := tkntype token.hdr
  if type = msgFQuery then
    if 0 < token.payload.length then sess.addPending else sess
  else if type = msgFSync then
    if sess.copyMode = false then sess.addPending else { sess with nreadyRespPending := 1 }
  else if type = msgFbCopydata ∨ type = msgFCopyfail ∨ type = msgFbCopydone then
    { sess with copyMode := true, nreadyRespPending := 1 }
  else sess

/-- The server is ready for the next query. -/
def readyForQuery (handlers : Handlers) (sess : Sessinfo) : Sessinfo :=
  let sess :=
    if 0 < sess.nreadyRespPending then
      let pending := sess.nreadyRespPending - 1
      let pending :=
        if handlers.hasText sess.calls = true ∧ 0 < pending ∧
            handlers.timedOut sess.calls = true then 0
        else pending
      let sess := { sess with nreadyRespPending := pending }
      if pending = 0 then sess.requestDone else sess
    else if handlers.hasText sess.calls = true then sess.requestDone
    else sess
  { sess with skipReqRespTillReady := false }

/-- The effect of `handle_resp_token` on the session. -/
def respToken (handlers : Handlers) (sess : Sessinfo) (token : Bounded.Token) : Sessinfo :=
  let type := tkntype token.hdr
  if type = msgBReadyForQuery then sess.readyForQuery handlers
  else if type = msgBCopyoutResp ∨ type = msgBCopyinResp ∨ type = msgBCopybothResp then
    { sess with copyMode := true, nreadyRespPending := 1 }
  else sess

/-- The record of a call of `handle_req_token`. -/
def reqCall (handlers : Handlers) (sess : Sessinfo) (token : Bounded.Token) : Call where
  dir := .inbound
  token := token
  ret := handlers.handleReqToken sess.calls token
  pending := (sess.reqToken token).nreadyRespPending

/-- The record of a call of `handle_resp_token`. -/
def respCall (handlers : Handlers) (sess : Sessinfo) (token : Bounded.Token) : Call where
  dir := .outbound
  token := token
  ret := handlers.handleRespToken sess.calls token
  pending := (sess.respToken handlers token).nreadyRespPending

/-! ## Packets -/

/-- The request direction of the session. -/
def reqChannel (apiMaxLen : Nat) (handlers : Handlers) :
    Channel Sessinfo Bounded.Frag Bounded.Token where
  frag := reqFrag
  setFrag := fun sess frag => { sess with reqFrag := frag }
  next := fun _ => Bounded.next (reqLayout apiMaxLen)
    fun frag => decide ((reqLayout apiMaxLen).maxBody < frag.nbytes)
  handle := fun sess token =>
    let call := sess.reqCall handlers token
    ({ sess.reqToken token with calls := sess.calls ++ [call] }, decide (0 ≤ call.ret))
  fail := fun sess _ => sess.resetOnError .inbound

/-- The response direction of the session.  The check before a body is continued reads the
counter of the request direction. -/
def respChannel (handlers : Handlers) : Channel Sessinfo Bounded.Frag Bounded.Token where
  frag := respFrag
  setFrag := fun sess frag => { sess with respFrag := frag }
  next := fun sess => Bounded.next respLayout
    fun _ => decide (respLayout.maxBody < sess.reqFrag.nbytes)
  handle := fun sess token =>
    let call := sess.respCall handlers token
    ({ sess.respToken handlers token with calls := sess.calls ++ [call] }, decide (0 ≤ call.ret))
  fail := fun sess _ => sess.resetOnError .outbound

/-- Whether a packet starts with a request after which the parser can go on. -/
def startsRequest (packet : Bytes) : Bool :=
  let type := tkntype packet
  let len := packet.fieldBe 1 4
  decide (5 < packet.length ∧ len + 1 ≤ packet.length ∧ 4 < len ∧ len < 2 ^ 31 ∧
    (type = msgFQuery ∨ type = msgFClose ∨ type = msgFParse ∨ type = msgFBind ∨
      type = msgFDescribe ∨ type = msgFExecute ∨ type = msgFSync ∨ type = msgFFunctionCall))

def parseReqPkt (apiMaxLen : Nat) (handlers : Handlers) (sess : Sessinfo) (packet : Bytes) :
    Sessinfo :=
  if sess.skipReqRespTillReady = true then sess
  else if sess.skipToReqAfterResp = 0 then
    (reqChannel apiMaxLen handlers).receive packet.length sess packet
  else if sess.skipToReqAfterResp = 2 then
    if startsRequest packet = true then
      (reqChannel apiMaxLen handlers).receive packet.length { sess with skipToReqAfterResp := 0 }
        packet
    else { sess with skipReqRespTillReady := true, skipToReqAfterResp := 1 }
  else { sess with skipToReqAfterResp := 1 }

/-- The part of `parse_resp_pkt` after the check for a ready server. -/
def parseResp (handlers : Handlers) (sess : Sessinfo) (packet : Bytes) : Sessinfo :=
  if sess.skipToReqAfterResp = 0 then
    (respChannel handlers).receive packet.length sess packet
  else { sess with skipToReqAfterResp := 2 }

/-- `parse_resp_pkt`.  The last six bytes of a packet are looked at, for a packet of five
bytes also the one that lies `before` it in memory. -/
def parseRespPkt (handlers : Handlers) (sess : Sessinfo) (before : UInt8) (packet : Bytes) :
    Sessinfo :=
  if sess.skipReqRespTillReady = true then
    let last := (before :: packet).drop (packet.length - 5)
    if 5 ≤ packet.length ∧ last.take 5 = [msgBReadyForQuery, 0, 0, 0, 5] then
      sess.reset.parseResp handlers last
    else sess
  else sess.parseResp handlers packet

/-- What both directions do after a drop. -/
def onDrop (sess : Sessinfo) : Sessinfo :=
  { sess.reset with dropSeen := false, skipToReqAfterResp := 1, skipReqRespTillReady := true }

/-- `handle_request_pkt`; `dropped` tells whether a drop was seen in either direction. -/
def handleRequestPkt (apiMaxLen : Nat) (handlers : Handlers) (sess : Sessinfo) (dropped : Bool)
    (packet : Bytes) : Sessinfo :=
  if sess.dropSeen = true ∨ dropped = true then sess.onDrop
  else sess.parseReqPkt apiMaxLen handlers packet

def handleResponsePkt (handlers : Handlers) (sess : Sessinfo) (dropped : Bool) (before : UInt8)
    (packet : Bytes) : Sessinfo :=
  if sess.dropSeen = true ∨ dropped = true then sess.onDrop
  else sess.parseRespPkt handlers before packet

/-- A packet of a session without drops. -/
def step (apiMaxLen : Nat) (handlers : Handlers) (before : UInt8) (sess : Sessinfo) :
    Packet → Sessinfo
  | .req bytes => sess.handleRequestPkt apiMaxLen handlers false bytes
  | .resp bytes => sess.handleResponsePkt handlers false before bytes

end Sessinfo

/-- The buffers of a session, with whatever bytes they hold. -/
structure FragBufs (apiMaxLen : Nat) where
  req : Bytes
  resp : Bytes
  length_req : req.length = (reqLayout apiMaxLen).maxBody + 16
  length_resp : resp.length = respLayout.maxBody + 16

/-- A session whose login is complete. -/
def Sessinfo.afterLogin {apiMaxLen : Nat} (bufs : FragBufs apiMaxLen) : Sessinfo where
  reqFrag := { stage := .start, hdr := [], nbytes := 0, skip := 0, buf := bufs.req }
  respFrag := { stage := .start, hdr := [], nbytes := 0, skip := 0, buf := bufs.resp }
  nreadyRespPending := 0
  skipToReqAfterResp := 0
  skipReqRespTillReady := false
  copyMode := false
  dropSeen := false
  calls := []

end Gyeeta.Postgres
