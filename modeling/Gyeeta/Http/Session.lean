import Mathlib.Logic.Function.Basic
import Gyeeta.Lib.Bytes

/-!
# HTTP/1 sessions

The state that the HTTP/1 parser keeps for a session, and the operations that pair
responses with requests.  Of the text buffers of a request only the size of the request
text is kept; it decides when a transaction is flushed.
-/

namespace Gyeeta.Http

/-- `METHODS_E`. -/
inductive Method where
  | get
  | post
  | put
  | options
  | head
  | delete
  | connect
  | trace
  | patch
  | unknown
  deriving DecidableEq, Repr

/-- `HCONN_STATE_E`. -/
inductive HconnState where
  | idle
  | hdr
  | contentData
  | chunkStart
  | chunkData
  | chunkEnd
  deriving DecidableEq, Repr

/-- `HCONN_STAT` with the fragment buffer of its direction: the bytes of `fragbuf` below
`fraglen_`. -/
structure HconnStat where
  dataChunkLen : Nat
  dataChunkLeft : Nat
  frag : Bytes
  state : HconnState
  reqMethod : Method
  saveReqPayload : Int
  skipTillEol : Bool
  skipTillRespChunkEnd : Bool
  isContentLen : Bool
  isChunkData : Bool
  deriving DecidableEq, Repr

namespace HconnStat

/-- The state after `reset`. -/
def empty : HconnStat where
  dataChunkLen := 0
  dataChunkLeft := 0
  frag := []
  state := .idle
  reqMethod := .unknown
  saveReqPayload := 0
  skipTillEol := false
  skipTillRespChunkEnd := false
  isContentLen := false
  isChunkData := false

def resetSkipMethod (conn : HconnStat) : HconnStat :=
  { empty with reqMethod := conn.reqMethod }

end HconnStat

def maxPipelineElems : Nat := 128

/-- `HTTP1_SESSINFO`.  `recorded` and `nrequestDone` are the history: the methods that
`set_resp_expected` stored, and the number of calls of `request_done`. -/
structure Sessinfo where
  /-- The size of the request text `tdstrbuf_`. -/
  tdstrbufSize : Nat
  treqUsec : Nat
  reqlen : Nat
  reslen : Nat
  /-- The time of the last packet of the session. -/
  tlastpktUsec : Nat
  respPipline : Nat → Method
  nrespPending : Nat
  nrespCompleted : Nat
  lastRespStatus : Nat
  reqstate : HconnStat
  respstate : HconnStat
  skipSession : Bool
  skipTillReq : Bool
  skipTillResp : Bool
  skipToReqAfterResp : Nat
  recorded : List Method
  nrequestDone : Nat

namespace Sessinfo

/-- A session whose start was seen. -/
def init : Sessinfo where
  tdstrbufSize := 0
  treqUsec := 0
  reqlen := 0
  reslen := 0
  tlastpktUsec := 0
  respPipline := fun _ => .get
  nrespPending := 0
  nrespCompleted := 0
  lastRespStatus := 0
  reqstate := .empty
  respstate := .empty
  skipSession := false
  skipTillReq := false
  skipTillResp := false
  skipToReqAfterResp := 0
  recorded := []
  nrequestDone := 0

def resetForNewReq (sess : Sessinfo) : Sessinfo :=
  { sess with tdstrbufSize := 0, lastRespStatus := 0 }

/-- `API_TRAN::reset`. -/
def resetTran (sess : Sessinfo) : Sessinfo :=
  { sess with reqlen := 0, reslen := 0 }

def setNewReq (sess : Sessinfo) : Sessinfo :=
  { sess.resetTran with treqUsec := sess.tlastpktUsec }.resetForNewReq

def updateReqStats (sess : Sessinfo) (datalen : Nat) : Sessinfo :=
  { sess with reqlen := sess.reqlen + datalen }

def updateRespStats (sess : Sessinfo) (datalen : Nat) : Sessinfo :=
  { sess with reslen := sess.reslen + datalen }

/-- The request is complete and its response is expected. -/
def setRespExpected (sess : Sessinfo) : Sessinfo :=
  let method := sess.reqstate.reqMethod
  if method = .unknown then { sess with reqstate := .empty }
  else if sess.nrespPending + 1 < maxPipelineElems then
    { sess with
      respPipline := Function.update sess.respPipline sess.nrespPending method
      nrespPending := sess.nrespPending + 1
      reqstate := .empty
      recorded := sess.recorded ++ [method] }
  else
    -- The pipeline is full: it starts again with this request.
    { sess with
      respPipline := Function.update sess.respPipline 0 method
      nrespPending := 1
      nrespCompleted := 0
      reqstate := .empty
      recorded := sess.recorded ++ [method] }

/-- Ten minutes. -/
def pipelineTimeoutUsec : Nat := 10 * 60 * 1000000

/-- Two or more responses are expected and the transaction started more than ten minutes
ago, so `request_done` gives the responses before the last one up. -/
def PipelineTimeout (sess : Sessinfo) : Prop :=
  0 < sess.tdstrbufSize ∧ sess.nrespCompleted + 1 < sess.nrespPending ∧
    sess.treqUsec + pipelineTimeoutUsec < sess.tlastpktUsec

instance (sess : Sessinfo) : Decidable sess.PipelineTimeout :=
  inferInstanceAs (Decidable (_ ∧ _ ∧ _))

/-- The decision of `request_done` to flush the transaction, with the count of completed
responses that it leaves. -/
def flushDecision (sess : Sessinfo) (flushreq : Bool) : Bool × Nat :=
  if flushreq = true ∧
      ¬ (sess.nrespPending ≤ sess.nrespCompleted + 1 ∧ 0 < sess.tdstrbufSize) then
    if sess.PipelineTimeout then (true, sess.nrespPending - 1)
    else (false, sess.nrespCompleted)
  else (flushreq, sess.nrespCompleted)

/-- The response is complete, or the session starts again with `clearReq`. -/
def requestDone (sess : Sessinfo) (flushreq clearReq : Bool) : Sessinfo :=
  let (flushreq, nrespCompleted) := sess.flushDecision flushreq
  let sess := { sess with nrespCompleted := nrespCompleted }
  let sess :=
    if (0 < sess.reqlen ∧ flushreq = true) ∨ clearReq = true then
      sess.resetTran.resetForNewReq
    else sess
  let sess :=
    if clearReq then { sess with nrespPending := 0, nrespCompleted := 0, skipTillReq := true }
    else if sess.nrespCompleted < sess.nrespPending then
      -- The counters start again only if one more response than expected is complete.
      if sess.nrespCompleted + 1 = sess.nrespPending + 1 then
        { sess with nrespPending := 0, nrespCompleted := 0 }
      else { sess with nrespCompleted := sess.nrespCompleted + 1 }
    else sess
  { sess with
    reqstate := if clearReq then .empty else sess.reqstate
    respstate := .empty
    nrequestDone := sess.nrequestDone + 1 }

def resetOnRespError (sess : Sessinfo) : Sessinfo :=
  sess.requestDone false true

/-- The method of the request whose response starts; the counters start again if the
method is beyond the array. -/
def getCurrReqMethod (sess : Sessinfo) : Sessinfo × Method :=
  if sess.nrespCompleted < sess.nrespPending then
    if sess.nrespCompleted < maxPipelineElems then
      (sess, sess.respPipline sess.nrespCompleted)
    else ({ sess with nrespPending := 0, nrespCompleted := 0 }, .unknown)
  else if sess.reqstate.state ≠ .idle then (sess, sess.reqstate.reqMethod)
  else (sess, .unknown)

def resetTillResp (sess : Sessinfo) (respExpected : Bool) : Sessinfo :=
  let sess := { sess with reqstate := sess.reqstate.resetSkipMethod, skipTillResp := true }
  if respExpected then sess.setRespExpected else sess

end Sessinfo

end Gyeeta.Http
