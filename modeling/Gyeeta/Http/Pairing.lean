import Mathlib.Data.List.Basic
import Gyeeta.Http.Session
import Gyeeta.Lib.Run

/-!
# Responses are paired with their requests

A keep-alive session carries requests and their responses in the same order, with any number of
requests outstanding.  The parser sees the start and the end of each, in any interleaving of the
two directions.  A blank line ends a header only in the packet of the last header line; an interim
response and a tunnel of `CONNECT` are never counted as done.
-/

namespace Gyeeta.Http

open List Sessinfo

/-- What the parser sees of complete messages. -/
inductive ExchangeEvent where
  /-- A packet arrives at a time. -/
  | packet (usec : Nat)
  /-- The request line of the next request. -/
  | reqStart (method : Method)
  /-- The end of a request, and whether its blank line is in the packet of a header line. -/
  | reqEnd (isJoined : Bool)
  /-- The statistics of a request packet, after its parsing. -/
  | reqStats (datalen : Nat)
  /-- The statistics of a response packet, before its parsing. -/
  | respStats (datalen : Nat)
  /-- The status line of the next response. -/
  | respStart (status : Nat)
  /-- The end of a response, and whether its header has a body length or chunked coding. -/
  | respEnd (isJoined hasBody : Bool)
  deriving DecidableEq, Repr

/-- The session with the messages on the wire: the methods of the complete requests, the
method that each complete response was parsed with, or `unknown` if it was not, and those of the
request and of the response that have started, with the status of the latter. -/
structure Exchange where
  sess : Sessinfo
  requests : List Method
  responses : List Method
  request : Option Method
  response : Option (Nat × Method)

namespace Exchange

def init : Exchange where
  sess := .init
  requests := []
  responses := []
  request := none
  response := none

/-- The request line sets the method, starts a new transaction if there is none, and the
header follows.  It is not seen as such in the header of another request. -/
def reqLine (sess : Sessinfo) (method : Method) : Sessinfo :=
  if sess.skipSession = true ∨ sess.reqstate.state ≠ .idle then sess
  else
    let sess := if sess.tdstrbufSize = 0 then sess.setNewReq else sess
    { sess with
      tdstrbufSize := sess.tdstrbufSize + 1
      skipTillReq := false
      reqstate := { HconnStat.empty with reqMethod := method, state := .hdr } }

def reqBlank (sess : Sessinfo) (isJoined : Bool) : Sessinfo :=
  if sess.skipSession = true ∨ isJoined = false then sess else sess.setRespExpected

/-- The status line takes the method of its request, and the header follows. -/
def respLine (sess : Sessinfo) (status : Nat) : Sessinfo × Method :=
  if sess.skipSession = true ∨ sess.skipTillReq = true ∨ sess.respstate.state ≠ .idle then
    (sess, .unknown)
  else
    let (sess, method) := sess.getCurrReqMethod
    if method = .unknown then (sess.resetOnRespError, .unknown)
    else
      ({ sess with
          lastRespStatus := status
          respstate := { HconnStat.empty with reqMethod := method, state := .hdr } }, method)

def isInterim (status : Nat) : Bool :=
  100 ≤ status && status < 200

/-- The response opens a tunnel. -/
def isTunnel (status : Nat) (method : Method) : Bool :=
  method = .connect && 200 ≤ status && status < 300

/-- `is_resp_body_valid` -/
def isRespBodyValid (status : Nat) (method : Method) : Bool :=
  !(method = .head || isInterim status || status = 204 || status = 304 || isTunnel status method)

/-- The end of a response.  Behind an interim one the parser stays in the header, so that the
status line of the final response is not seen as such. -/
def respBlank (sess : Sessinfo) (isJoined hasBody : Bool) : Sessinfo :=
  let status := sess.lastRespStatus
  let method := sess.respstate.reqMethod
  if sess.skipSession = true ∨ sess.skipTillReq = true ∨ isJoined = false then sess
  else if hasBody = true ∧ isRespBodyValid status method = true then sess.requestDone true false
  else if isInterim status then
    { sess with respstate := { sess.respstate.resetSkipMethod with state := .hdr } }
  else if isTunnel status method then { sess with skipSession := true }
  else sess.requestDone true false

def step (exchange : Exchange) : ExchangeEvent → Exchange
  | .packet usec => { exchange with sess := { exchange.sess with tlastpktUsec := usec } }
  | .reqStart method =>
    { exchange with sess := reqLine exchange.sess method, request := some method }
  | .reqEnd isJoined =>
    { exchange with
      sess := reqBlank exchange.sess isJoined
      requests := exchange.requests ++ exchange.request.toList
      request := none }
  | .reqStats datalen =>
    if exchange.sess.skipSession then exchange
    else { exchange with sess := exchange.sess.updateReqStats datalen }
  | .respStats datalen =>
    if exchange.sess.skipSession then exchange
    else { exchange with sess := exchange.sess.updateRespStats datalen }
  | .respStart status =>
    { exchange with
      sess := (respLine exchange.sess status).1
      response := some (status, (respLine exchange.sess status).2) }
  | .respEnd isJoined hasBody =>
    { exchange with
      sess := respBlank exchange.sess isJoined hasBody
      -- an interim response completes no request
      responses := exchange.responses ++
        (exchange.response.filter fun response => !isInterim response.1).toList.map Prod.snd
      response := none }

/-- The number of complete requests without a complete response. -/
def outstanding (exchange : Exchange) : Nat :=
  exchange.requests.length - exchange.responses.length

/-- The messages of a keep-alive session: requests and responses follow one another, a
response starts only after its request and ends only after the end of its request, and fewer
than 127 requests are outstanding. -/
def Legal (exchange : Exchange) : ExchangeEvent → Prop
  | .reqStart method => exchange.request = none ∧ method ≠ .unknown
  | .reqEnd _ => exchange.request ≠ none ∧ exchange.outstanding + 1 < 127
  | .respStart _ =>
    exchange.response = none ∧ (0 < exchange.outstanding ∨ exchange.request ≠ none)
  | .respEnd _ _ => exchange.response ≠ none ∧ 0 < exchange.outstanding
  | _ => True

instance (exchange : Exchange) : (event : ExchangeEvent) → Decidable (exchange.Legal event)
  | .packet _ => isTrue trivial
  | .reqStart _ => inferInstanceAs (Decidable (_ ∧ _))
  | .reqEnd _ => inferInstanceAs (Decidable (_ ∧ _))
  | .reqStats _ => isTrue trivial
  | .respStats _ => isTrue trivial
  | .respStart _ => inferInstanceAs (Decidable (_ ∧ _))
  | .respEnd _ _ => inferInstanceAs (Decidable (_ ∧ _))

/-- The parser sees the end of every message, no response is interim or opens a tunnel, and the
counters do not start again under outstanding requests: a request that finds the method array full
finds no request outstanding, and no response ends with two requests outstanding ten minutes after
the start of the transaction. -/
def KeepsCounting (exchange : Exchange) : ExchangeEvent → Prop
  | .reqEnd isJoined => isJoined = true ∧
    (exchange.sess.nrespPending + 1 < maxPipelineElems ∨ exchange.outstanding = 0)
  | .respStart status => isInterim status = false ∧
    isTunnel status exchange.sess.getCurrReqMethod.2 = false
  | .respEnd isJoined _ => isJoined = true ∧ ¬ exchange.sess.PipelineTimeout
  | _ => True

instance (exchange : Exchange) : (event : ExchangeEvent) → Decidable (exchange.KeepsCounting event)
  | .packet _ => isTrue trivial
  | .reqStart _ => isTrue trivial
  | .reqEnd _ => inferInstanceAs (Decidable (_ ∧ _))
  | .reqStats _ => isTrue trivial
  | .respStats _ => isTrue trivial
  | .respStart _ => inferInstanceAs (Decidable (_ ∧ _))
  | .respEnd _ _ => inferInstanceAs (Decidable (_ ∧ _))

/-- The methods of the requests that wait for the end of their response, the request that has
started included. -/
def waiting (exchange : Exchange) : List Method :=
  exchange.requests.drop exchange.responses.length ++ exchange.request.toList

/-- The session expects as many responses as there are requests outstanding, and every
response was parsed with the method of its own request. -/
structure Paired (exchange : Exchange) : Prop where
  counted : exchange.sess.nrespPending - exchange.sess.nrespCompleted =
    exchange.requests.length - exchange.responses.length
  answered : exchange.responses <+: exchange.requests
  own : ∀ response ∈ exchange.response, exchange.waiting.head? = some response.2

/-- The session parses the header of a response that will be counted, or waits for one. -/
structure Parses (sess : Sessinfo) (response : Option (Nat × Method)) : Prop where
  seen : sess.skipSession = false ∧ sess.skipTillReq = false
  idle : response = none → sess.respstate.state = .idle
  ends : ∀ started ∈ response, isInterim started.1 = false ∧
    isInterim sess.lastRespStatus = false ∧
    isTunnel sess.lastRespStatus sess.respstate.reqMethod = false

/-- The method array holds the methods of the outstanding requests. -/
structure Ok (exchange : Exchange) : Prop where
  ordered : exchange.sess.nrespCompleted ≤ exchange.sess.nrespPending
  bounded : exchange.sess.nrespPending < maxPipelineElems
  answered : exchange.responses <+: exchange.requests
  stored : exchange.requests.drop exchange.responses.length =
    (List.range (exchange.sess.nrespPending - exchange.sess.nrespCompleted)).map fun place =>
      exchange.sess.respPipline (exchange.sess.nrespCompleted + place)
  noRequest : exchange.request = none → exchange.sess.reqstate.state = .idle
  started : ∀ method ∈ exchange.request, method ≠ .unknown ∧
    exchange.sess.reqstate.reqMethod = method ∧ exchange.sess.reqstate.state ≠ .idle
  known : ∀ method ∈ exchange.requests, method ≠ .unknown
  own : ∀ response ∈ exchange.response, exchange.waiting.head? = some response.2
  parses : Parses exchange.sess exchange.response

variable {exchange : Exchange}

lemma Ok.outstanding_eq (ok : exchange.Ok) :
    exchange.outstanding = exchange.sess.nrespPending - exchange.sess.nrespCompleted := by
  have lengths := congrArg List.length ok.stored
  rwa [length_drop, length_map, length_range] at lengths

lemma Ok.paired (ok : exchange.Ok) : exchange.Paired :=
  { ok with
    counted := ok.outstanding_eq.symm }

lemma ok_init : init.Ok where
  ordered := Nat.le_refl 0
  bounded := by decide
  answered := nil_prefix
  stored := rfl
  noRequest := fun _ => rfl
  started := by simp [init]
  known := by simp [init]
  own := by simp [init]
  parses := ⟨⟨rfl, rfl⟩, fun _ => rfl, by simp [init]⟩

/-! ## Steps -/

lemma Ok.reqStart (ok : exchange.Ok) {method : Method}
    (legal : exchange.Legal (.reqStart method)) : (exchange.step (.reqStart method)).Ok := by
  have own : ∀ response ∈ exchange.response,
      (exchange.requests.drop exchange.responses.length ++ [method]).head? = some response.2 := by
    intro response mem
    have own := ok.own response mem
    simp only [waiting, legal.1, Option.toList_none, append_nil] at own
    rw [List.head?_append, own, Option.some_or]
  have seen : ¬(exchange.sess.skipSession = true ∨ exchange.sess.reqstate.state ≠ .idle) := by
    simp [ok.parses.seen, ok.noRequest legal.1]
  have started : ∀ other ∈ some method, other ≠ .unknown ∧ method = other ∧
      HconnState.hdr ≠ .idle := by
    rintro _ ⟨⟩
    exact ⟨legal.2, rfl, by decide⟩
  rw [step, reqLine, if_neg seen]
  -- a new transaction also clears the status of the response that is parsed
  by_cases fresh : exchange.sess.tdstrbufSize = 0
  · simp only [if_pos fresh]
    refine { ok with
      noRequest := fun none => absurd none (Option.some_ne_none _)
      started := started, own := own, parses := ?_ }
    refine { ok.parses with seen := ⟨ok.parses.seen.1, rfl⟩, ends := fun response mem => ?_ }
    exact ⟨(ok.parses.ends response mem).1, rfl, by simp [isTunnel, setNewReq, resetForNewReq]⟩
  · simp only [if_neg fresh]
    refine { ok with
      noRequest := fun none => absurd none (Option.some_ne_none _)
      started := started, own := own, parses := ?_ }
    exact { ok.parses with seen := ⟨ok.parses.seen.1, rfl⟩ }

lemma Ok.reqEnd (ok : exchange.Ok) {isJoined : Bool} (legal : exchange.Legal (.reqEnd isJoined))
    (keeps : exchange.KeepsCounting (.reqEnd isJoined)) :
    (exchange.step (.reqEnd isJoined)).Ok := by
  obtain ⟨method, request⟩ := Option.ne_none_iff_exists'.mp legal.1
  obtain ⟨known, reqMethod, -⟩ := ok.started method request
  have fewer := ok.answered.length_le
  have waiting : (exchange.requests ++ [method]).drop exchange.responses.length =
      exchange.waiting := by
    rw [Exchange.waiting, request, Option.toList_some, drop_append_of_le_length fewer]
  have own : ∀ response ∈ exchange.response,
      ((exchange.requests ++ [method]).drop exchange.responses.length ++ []).head? =
        some response.2 := by
    rw [append_nil, waiting]
    exact ok.own
  have prefixed : exchange.responses <+: exchange.requests ++ [method] :=
    ok.answered.trans (prefix_append _ _)
  have allKnown : ∀ other ∈ exchange.requests ++ [method], other ≠ .unknown := by
    rw [forall_mem_append, forall_mem_singleton]
    exact ⟨ok.known, known⟩
  have ordered := ok.ordered
  have stored := ok.stored
  have seen : ¬(exchange.sess.skipSession = true ∨ isJoined = false) := by
    simp [ok.parses.seen, keeps.1]
  simp only [step, request, Option.toList_some, reqBlank, if_neg seen, setRespExpected, reqMethod,
    if_neg known]
  split
  next room =>
    refine
      { ordered := Nat.le_succ_of_le ordered, bounded := room, answered := prefixed, stored := ?_
        noRequest := fun _ => rfl, started := fun _ mem => absurd mem (Option.not_mem_none _)
        known := allKnown, own := own, parses := { ok.parses with } }
    simp only
    rw [drop_append_of_le_length fewer, stored, Nat.succ_sub ordered,
      range_succ, map_append, map_singleton, Nat.add_sub_cancel' ordered, Function.update_self]
    congr 1
    refine map_congr_left fun place mem => ?_
    rw [mem_range] at mem
    rw [Function.update_of_ne (by omega)]
  next full =>
  have none : exchange.outstanding = 0 := keeps.2.resolve_left full
  rw [ok.outstanding_eq] at none
  rw [none, range_zero, map_nil] at stored
  refine
    { ordered := Nat.zero_le 1, bounded := (by decide : 1 < maxPipelineElems)
      answered := prefixed, stored := ?_
      noRequest := fun _ => rfl, started := fun _ mem => absurd mem (Option.not_mem_none _)
      known := allKnown, own := own, parses := { ok.parses with } }
  simp only
  rw [drop_append_of_le_length fewer, stored]
  rfl

/-- A response that may start is parsed with the method of the first request that waits. -/
lemma Ok.getCurrReqMethod (ok : exchange.Ok) {status : Nat}
    (legal : exchange.Legal (.respStart status)) :
    exchange.sess.getCurrReqMethod.1 = exchange.sess ∧
      exchange.waiting.head? = some exchange.sess.getCurrReqMethod.2 := by
  have ordered := ok.ordered
  have bounded := ok.bounded
  have stored := ok.stored
  have counted := ok.outstanding_eq
  rw [Sessinfo.getCurrReqMethod, waiting]
  split
  next expected =>
    rw [if_pos (Nat.lt_of_le_of_lt ordered bounded)]
    obtain ⟨left, count⟩ := Nat.exists_eq_add_of_lt expected
    rw [stored, show exchange.sess.nrespPending - exchange.sess.nrespCompleted = left + 1 by omega,
      range_succ_eq_map, map_cons]
    exact ⟨rfl, rfl⟩
  next all =>
  have some : exchange.request ≠ none := legal.2.resolve_left (by omega)
  obtain ⟨method, request⟩ := Option.ne_none_iff_exists'.mp some
  obtain ⟨-, reqMethod, busy⟩ := ok.started method request
  rw [if_pos busy, stored,
    show exchange.sess.nrespPending - exchange.sess.nrespCompleted = 0 by omega, request,
    reqMethod]
  exact ⟨rfl, rfl⟩

lemma Ok.known_waiting (ok : exchange.Ok) : ∀ method ∈ exchange.waiting, method ≠ .unknown := by
  rw [waiting, forall_mem_append]
  refine ⟨fun method mem => ok.known method (mem_of_mem_drop mem), fun method mem => ?_⟩
  exact (ok.started method (Option.mem_toList.mp mem)).1

lemma Ok.respStart (ok : exchange.Ok) {status : Nat} (legal : exchange.Legal (.respStart status))
    (keeps : exchange.KeepsCounting (.respStart status)) :
    (exchange.step (.respStart status)).Ok := by
  obtain ⟨same, own⟩ := ok.getCurrReqMethod legal
  have known := ok.known_waiting _ (mem_of_mem_head? own)
  have seen : ¬(exchange.sess.skipSession = true ∨ exchange.sess.skipTillReq = true ∨
      exchange.sess.respstate.state ≠ .idle) := by
    simp [ok.parses.seen, ok.parses.idle legal.1]
  simp only [step, respLine, if_neg seen, if_neg known, same]
  refine { ok with own := ?_, parses := ⟨ok.parses.seen, by simp, ?_⟩ }
  · rintro _ ⟨⟩
    exact own
  · rintro _ ⟨⟩
    exact ⟨keeps.1, keeps.1, keeps.2⟩

/-- The counters, the method array and the request that has started. -/
structure SameCounters (after before : Sessinfo) : Prop where
  pending : after.nrespPending = before.nrespPending
  completed : after.nrespCompleted = before.nrespCompleted
  pipline : after.respPipline = before.respPipline
  reqstate : after.reqstate = before.reqstate
  skips : after.skipSession = before.skipSession ∧ after.skipTillReq = before.skipTillReq
  respstate : after.respstate = before.respstate

lemma requestDone_counters {sess : Sessinfo} (inTime : ¬ sess.PipelineTimeout)
    (expected : sess.nrespCompleted < sess.nrespPending) :
    SameCounters (sess.requestDone true false)
      { sess with nrespCompleted := sess.nrespCompleted + 1, respstate := .empty } := by
  have decision : (sess.flushDecision true).2 = sess.nrespCompleted := by
    simp only [flushDecision, if_neg inTime]
    split <;> rfl
  have room : sess.nrespCompleted + 1 ≠ sess.nrespPending + 1 := by omega
  simp only [requestDone, decision, Bool.false_eq_true, or_false, if_false]
  split <;>
    simp only [resetForNewReq, resetTran, expected, room, if_true, if_false] <;>
    exact ⟨rfl, rfl, rfl, rfl, ⟨rfl, rfl⟩, rfl⟩

/-- A response that is neither interim nor opens a tunnel is counted as done. -/
lemma Parses.respBlank {sess : Sessinfo} {response : Nat × Method} {isJoined : Bool}
    (parses : Parses sess (some response)) (joined : isJoined = true) (hasBody : Bool) :
    respBlank sess isJoined hasBody = sess.requestDone true false := by
  obtain ⟨-, final, noTunnel⟩ := parses.ends response rfl
  simp only [Exchange.respBlank, parses.seen, joined, final, noTunnel, Bool.false_eq_true,
    Bool.true_eq_false, or_self, if_false]
  split <;> rfl

lemma Ok.respEnd (ok : exchange.Ok) {isJoined hasBody : Bool}
    (legal : exchange.Legal (.respEnd isJoined hasBody))
    (keeps : exchange.KeepsCounting (.respEnd isJoined hasBody)) :
    (exchange.step (.respEnd isJoined hasBody)).Ok := by
  obtain ⟨⟨status, method⟩, response⟩ := Option.ne_none_iff_exists'.mp legal.1
  have parses := ok.parses
  rw [response] at parses
  have isDone := parses.respBlank keeps.1 hasBody
  have final := (parses.ends _ rfl).1
  have fewer := ok.answered.length_le
  have counted := ok.outstanding_eq
  have some := legal.2
  have expected : exchange.sess.nrespCompleted < exchange.sess.nrespPending := by omega
  obtain ⟨pending, completed, pipline, reqstate, skips, respstate⟩ :=
    requestDone_counters keeps.2 expected
  simp only at pending completed pipline reqstate skips respstate
  -- The response that ends is the one to the first outstanding request.
  obtain ⟨left, count⟩ := Nat.exists_eq_add_of_lt expected
  have stored := ok.stored
  rw [show exchange.sess.nrespPending - exchange.sess.nrespCompleted = left + 1 by omega,
    range_succ_eq_map, map_cons, map_map] at stored
  have own := ok.own _ response
  rw [waiting, stored, cons_append, List.head?_cons, Option.some.injEq] at own
  have next : exchange.requests.drop (exchange.responses.length + 1) =
      (List.range left).map fun place =>
        exchange.sess.respPipline (exchange.sess.nrespCompleted + 1 + place) := by
    rw [← drop_drop, stored, drop_one, tail_cons]
    refine map_congr_left fun place _ => ?_
    rw [Function.comp_apply, Nat.add_assoc, Nat.add_comm 1 place]
  have answered : exchange.responses ++ [method] <+: exchange.requests := by
    obtain ⟨rest, split⟩ := ok.answered
    have front : exchange.requests.drop exchange.responses.length = rest := by
      rw [← split, drop_left]
    rw [← split, prefix_append_right_inj, ← front, stored, own]
    exact ⟨_, rfl⟩
  have isOne : (exchange.response.filter fun response => !isInterim response.1).toList.map
      Prod.snd = [method] := by
    simp [response, final]
  rw [Exchange.step, isDone, isOne]
  constructor
  · simp only [pending, completed]
    omega
  · simp only [pending]
    exact ok.bounded
  · exact answered
  · simp only [length_append, length_singleton, pending, completed, pipline]
    rw [next, show exchange.sess.nrespPending - (exchange.sess.nrespCompleted + 1) = left by omega]
  · simp only [reqstate]
    exact ok.noRequest
  · simp only [reqstate]
    exact ok.started
  · exact ok.known
  · exact fun _ mem => absurd mem (Option.not_mem_none _)
  · refine ⟨?_, fun _ => ?_, fun _ mem => absurd mem (Option.not_mem_none _)⟩
    · simp only [skips]
      exact ok.parses.seen
    · simp only [respstate]
      rfl

/-- Each event keeps the method array at the outstanding requests. -/
lemma Ok.step (ok : exchange.Ok) {event : ExchangeEvent} (legal : exchange.Legal event)
    (keeps : exchange.KeepsCounting event) : (exchange.step event).Ok := by
  cases event with
  | packet usec => exact { ok with parses := { ok.parses with } }
  | reqStart method => exact ok.reqStart legal
  | reqEnd isJoined => exact ok.reqEnd legal keeps
  | reqStats datalen =>
    rw [Exchange.step, if_neg (by simp [ok.parses.seen])]
    exact { ok with parses := { ok.parses with } }
  | respStats datalen =>
    rw [Exchange.step, if_neg (by simp [ok.parses.seen])]
    exact { ok with parses := { ok.parses with } }
  | respStart status => exact ok.respStart legal keeps
  | respEnd isJoined hasBody => exact ok.respEnd legal keeps

def wholeRequest (method : Method) : List ExchangeEvent :=
  [.reqStart method, .reqEnd true, .reqStats 100]

def wholeResponse (status : Nat) : List ExchangeEvent :=
  [.respStats 200, .respStart status, .respEnd true true]

/-- A response that ends more than ten minutes after the start of its transaction, with another
request outstanding; two requests that are sent one after the other after 126 requests with their
responses; an interim response before the final one; a tunnel; and a response without header
lines. -/
def miscountedRuns : List (List ExchangeEvent) :=
  [[.packet 5] ++ wholeRequest .get ++ wholeRequest .head ++ [.packet 600000006] ++
      wholeResponse 200,
    (List.replicate 126 (wholeRequest .get ++ wholeResponse 200)).flatten ++ wholeRequest .get ++
      wholeRequest .head,
    wholeRequest .post ++ wholeResponse 100 ++ wholeResponse 200,
    wholeRequest .connect ++ wholeResponse 200,
    wholeRequest .get ++ [.respStats 27, .respStart 204, .respEnd false false]]

end Exchange

end Gyeeta.Http
