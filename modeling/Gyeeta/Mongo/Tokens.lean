import Gyeeta.Mongo.Session

/-!
# Mongo message reassembly

The token handlers are called with the messages of their direction, in order, however the two
streams are cut into packets and interleaved.  The parser leaves the stream by design when the
first request looks like TLS, when too many requests are pending, and during a speculative
authentication.
-/

namespace Gyeeta.Mongo

open List Bytes

open Reassembly

/-! ## Messages and tokens -/

/-- A Mongo message. -/
structure Message where
  reqid : UInt32
  respid : UInt32
  opcode : UInt32
  payload : Bytes
  deriving DecidableEq, Repr

namespace Message

/-- The fields of the header behind the length. -/
def tail (message : Message) : Bytes :=
  ofNat 4 message.reqid.toNat ++ ofNat 4 message.respid.toNat ++
    ofNat 4 message.opcode.toNat

/-- The message on the wire. -/
def bytes (message : Message) : Bytes :=
  ofNat 4 (hdrLen + message.payload.length) ++ message.tail ++ message.payload

/-- The length field is from 17 to `2 ^ 31 - 1`. -/
def Fits (message : Message) : Prop :=
  0 < message.payload.length ∧ hdrLen + message.payload.length < 2 ^ 31

instance (message : Message) : Decidable message.Fits :=
  inferInstanceAs (Decidable (_ ∧ _))

/-- What the handler of a message is to be told: its opcode, its length, and its payload up to
a maximum unless its opcode is excluded. -/
def shown (excluded : List Nat) (maxToken : Nat) (message : Message) : Bounded.Shown Nat where
  kind := message.opcode.toNat
  len := message.payload.length
  payload := if message.opcode.toNat ∈ excluded then [] else message.payload.take maxToken

variable (message : Message)

lemma length_tail : message.tail.length = 12 := by
  rw [tail, length_append, length_append, length_ofNat, length_ofNat, length_ofNat]

lemma length_hdr :
    (ofNat 4 (hdrLen + message.payload.length) ++ message.tail).length = hdrLen := by
  rw [length_append, length_ofNat, length_tail]
  rfl

lemma length_bytes : message.bytes.length = hdrLen + message.payload.length := by
  rw [bytes, length_append, length_hdr]

lemma bytes_ne_nil : message.bytes ≠ [] := by
  apply length_pos_iff.mp
  rw [length_bytes]
  exact Nat.add_pos_left (by decide) _

lemma take_bytes : message.bytes.take hdrLen =
    ofNat 4 (hdrLen + message.payload.length) ++ message.tail := by
  rw [bytes, take_left' message.length_hdr]

lemma drop_bytes : message.bytes.drop hdrLen = message.payload := by
  rw [bytes, drop_left' message.length_hdr]

lemma tknlen_bytes {message : Message} (fits : message.Fits) :
    tknlen (message.bytes.take hdrLen) = some message.payload.length := by
  obtain ⟨some, small⟩ := fits
  have width : hdrLen + message.payload.length < 256 ^ 4 := by omega
  have read := field_ofNat width [] message.tail
  rw [nil_append, length_nil] at read
  simp only [tknlen, take_bytes, read]
  rw [if_neg (by omega), Nat.add_sub_cancel_left]

lemma opcode_bytes : Mongo.opcode (message.bytes.take hdrLen) = message.opcode.toNat := by
  have read := field_ofNat (show message.opcode.toNat < 256 ^ 4 from message.opcode.toNat_lt)
    (ofNat 4 (hdrLen + message.payload.length) ++
      (ofNat 4 message.reqid.toNat ++ ofNat 4 message.respid.toNat)) []
  rw [append_nil] at read
  rw [Mongo.opcode, take_bytes, tail, ← append_assoc]
  simp only [length_append, length_ofNat] at read
  exact read

variable {layout : Bounded.Layout}

lemma Fits.isMessage {message : Message} (fits : message.Fits) (isHdr : layout.hdrLen = hdrLen)
    (isLen : layout.bodyLen = tknlen) : layout.IsMessage message.bytes := by
  constructor
  · rw [isHdr, message.length_bytes]
    exact Nat.le_add_right _ _
  · rw [isHdr, isLen, tknlen_bytes fits, message.length_bytes, Nat.add_sub_cancel_left]

lemma showMessage_bytes (isHdr : layout.hdrLen = hdrLen) (excluded : List Nat)
    (message : Message) : layout.showMessage Mongo.opcode excluded message.bytes =
      message.shown excluded layout.maxBody := by
  rw [Bounded.Layout.showMessage, isHdr, length_bytes, Nat.add_sub_cancel_left, drop_bytes]
  simp only [Bounded.Layout.showToken, opcode_bytes]
  rfl

end Message

lemma reqLayout_copies {apiMaxLen : Nat} {hdr : Bytes} (handed : opcode hdr ∉ unsupported) :
    (reqLayout apiMaxLen).Copies hdr :=
  fun _ => if_neg handed

lemma respLayout_copies (hdr : Bytes) : respLayout.Copies hdr :=
  fun _ => rfl

/-! ## The session -/

/-- The token of a call of `handle_req_token`. -/
def Call.reqToken (call : Call) : Option Bounded.Token :=
  match call.dir with
  | .inbound => some call.token
  | .outbound => none

/-- The token of a call of `handle_resp_token`. -/
def Call.respToken (call : Call) : Option Bounded.Token :=
  match call.dir with
  | .inbound => none
  | .outbound => some call.token

/-- The handler accepted the message, not too many requests are pending, and it started no
speculative authentication. -/
def Call.Clean (call : Call) : Prop :=
  0 ≤ call.ret ∧ call.pending ≤ 128 ∧ call.skipAuth = 0

instance (call : Call) : Decidable call.Clean :=
  inferInstanceAs (Decidable (_ ∧ _))

namespace Sessinfo

/-- The parser is in step with both streams and the session is not taken for an encrypted
one. -/
structure InStep (sess : Sessinfo) : Prop where
  skipTo : sess.skipToReqAfterResp = 0
  skipTill : sess.skipReqRespTillReady = false
  skipAuth : sess.skipTillAuthResp = 0
  noSkip : sess.skipSession = false
  noDrop : sess.dropSeen = false
  plain : sess.isSslSess = -1 ∨ sess.isSslSess = 0

/-- A request packet that is checked for TLS, the first one of a session, does not look like
it. -/
def NotTls (sess : Sessinfo) : Packet → Prop
  | .req bytes => sess.isSslSess = -1 → isTlsReqResp .inbound (!sess.isMidwaySession) bytes = false
  | .resp _ => True

instance (sess : Sessinfo) : (packet : Packet) → Decidable (sess.NotTls packet)
  | .req _ => inferInstanceAs (Decidable (_ → _))
  | .resp _ => isTrue trivial

/-- Both directions of a session. -/
def duplex (apiMaxLen : Nat) (handlers : Handlers) :
    Duplex Sessinfo Bounded.Frag Bounded.Frag Bounded.Token Bounded.Token Call where
  req := reqChannel apiMaxLen handlers
  resp := respChannel handlers
  reqFormat := (reqLayout apiMaxLen).format
  respFormat := respLayout.format
  log := calls
  reqRecord := reqCall handlers
  respRecord := respCall handlers
  reqToken := Call.reqToken
  respToken := Call.respToken

variable {apiMaxLen : Nat} {handlers : Handlers} {sess : Sessinfo} {token : Bounded.Token}

/-! ### What the handlers do -/

lemma reqToken_cases (handlers : Handlers) (sess : Sessinfo) (token : Bounded.Token) :
    (handlers.handleReqToken sess.calls token).ret = -1 ∨ ∃ skipAuth,
      sess.reqToken handlers token = { sess with skipTillAuthResp := skipAuth } ∨
      sess.reqToken handlers token = { sess with skipTillAuthResp := skipAuth }.addPending := by
  rw [reqToken]
  split
  next ended =>
    left
    rw [ended]
    rfl
  next expectsResp isSpeculative _ =>
  right
  cases isSpeculative with
  | false =>
    refine ⟨sess.skipTillAuthResp, ?_⟩
    cases expectsResp with
    | false => exact .inl rfl
    | true => exact .inr rfl
  | true =>
    refine ⟨1, ?_⟩
    cases expectsResp with
    | false => exact .inl rfl
    | true => exact .inr rfl

lemma answered_cases (sess : Sessinfo) (hasText timedOut : Bool) :
    (∃ pending, sess.answered hasText timedOut = { sess with nreadyRespPending := pending }) ∨
      sess.answered hasText timedOut = sess.requestDone := by
  rw [answered]
  by_cases waiting : 0 < sess.nreadyRespPending
  · rw [if_pos waiting]
    simp only
    split
    all_goals
      split
      · exact .inr rfl
      · exact .inl ⟨_, rfl⟩
  · rw [if_neg waiting]
    split
    · exact .inr rfl
    · exact .inl ⟨sess.nreadyRespPending, rfl⟩

lemma respToken_cases (handlers : Handlers) (sess : Sessinfo) (token : Bounded.Token) :
    (handlers.handleRespToken sess.calls token).ret = -1 ∨
      (∃ pending skipTill, (skipTill = true → sess.skipReqRespTillReady = true) ∧
        sess.respToken handlers token = { sess with
          nreadyRespPending := pending, skipReqRespTillReady := skipTill }) ∨
      sess.respToken handlers token = sess.requestDone := by
  obtain ⟨skipTill, kept, entered⟩ : ∃ skipTill,
      (skipTill = true → sess.skipReqRespTillReady = true) ∧
      (if opcode token.hdr = opMsg then { sess with skipReqRespTillReady := false } else sess) =
        { sess with skipReqRespTillReady := skipTill } := by
    split
    · exact ⟨false, (fun h => nomatch h), rfl⟩
    · exact ⟨sess.skipReqRespTillReady, id, rfl⟩
  rw [respToken, entered]
  simp only
  split
  next ended =>
    left
    rw [ended]
    rfl
  next answers hasText timedOut _ =>
  right
  split
  · rcases answered_cases { sess with skipReqRespTillReady := skipTill } hasText timedOut
      with ⟨pending, waits⟩ | done
    · exact .inl ⟨pending, skipTill, kept, waits⟩
    · exact .inr done
  · exact .inl ⟨sess.nreadyRespPending, skipTill, kept, rfl⟩

lemma reqToken_inStep (inStep : sess.InStep) (clean : (sess.reqCall handlers token).Clean) :
    (sess.reqToken handlers token).InStep ∧
      (sess.reqToken handlers token).respFrag = sess.respFrag := by
  obtain ⟨accepted, few, noAuth⟩ := clean
  simp only [reqCall] at accepted few noAuth
  rcases sess.reqToken_cases handlers token with failed | ⟨skipAuth, same | added⟩
  · rw [failed] at accepted
    exact absurd accepted (by decide)
  · rw [same] at noAuth ⊢
    exact ⟨⟨inStep.skipTo, inStep.skipTill, noAuth, inStep.noSkip, inStep.noDrop, inStep.plain⟩,
      rfl⟩
  · rw [added] at few noAuth ⊢
    have noDrop : decide (128 < (sess.nreadyRespPending + 1) % 2 ^ 16) = false :=
      decide_eq_false (Nat.not_lt.mpr few)
    refine ⟨⟨inStep.skipTo, inStep.skipTill, noAuth, inStep.noSkip, ?_, inStep.plain⟩, rfl⟩
    simp only [addPending, inStep.noDrop, noDrop, Bool.false_or]

lemma respToken_inStep (inStep : sess.InStep) (clean : (sess.respCall handlers token).Clean) :
    (sess.respToken handlers token).InStep ∧
      (sess.respToken handlers token).reqFrag = sess.reqFrag := by
  have accepted := clean.1
  simp only [respCall] at accepted
  rcases sess.respToken_cases handlers token with failed | ⟨pending, skipTill, kept, waits⟩ | done
  · rw [failed] at accepted
    exact absurd accepted (by decide)
  · rw [waits]
    refine ⟨⟨inStep.skipTo, ?_, inStep.skipAuth, inStep.noSkip, inStep.noDrop, inStep.plain⟩, rfl⟩
    cases skipTill with
    | false => rfl
    | true => exact absurd (kept rfl) (by rw [inStep.skipTill]; exact Bool.noConfusion)
  · rw [done]
    exact ⟨⟨rfl, rfl, rfl, inStep.noSkip, inStep.noDrop, inStep.plain⟩, rfl⟩

/-! ### The laws of the two channels -/

lemma InStep.of_eq {other : Sessinfo} (inStep : sess.InStep) (same : other = { sess with
      reqFrag := other.reqFrag, respFrag := other.respFrag, calls := other.calls }) :
    other.InStep := by
  rw [same]
  exact { inStep with }

lemma reqChannel_lawful (other : Bounded.Frag) :
    (reqChannel apiMaxLen handlers).Lawful (reqLayout apiMaxLen).format calls (reqCall handlers)
      Call.Clean fun sess => sess.InStep ∧ sess.respFrag = other where
  rep_setFrag := fun _ rep => rep
  log_setFrag := fun _ _ => rfl
  log_handle := fun _ _ => rfl
  log_fail := fun _ _ => rfl
  goes_on := fun _ _ clean => decide_eq_true clean.1
  inv_setFrag := fun holds _ => ⟨holds.1.of_eq rfl, holds.2⟩
  inv_handle := by
    intro sess token holds clean
    obtain ⟨inStep, same⟩ := reqToken_inStep holds.1 clean
    exact ⟨inStep.of_eq rfl, same.trans holds.2⟩

lemma respChannel_lawful (other : Bounded.Frag) :
    (respChannel handlers).Lawful respLayout.format calls (respCall handlers) Call.Clean
      fun sess => sess.InStep ∧ sess.reqFrag = other where
  rep_setFrag := fun _ rep => rep
  log_setFrag := fun _ _ => rfl
  log_handle := fun _ _ => rfl
  log_fail := fun _ _ => rfl
  goes_on := fun _ _ clean => decide_eq_true clean.1
  inv_setFrag := fun holds _ => ⟨holds.1.of_eq rfl, holds.2⟩
  inv_handle := by
    intro sess token holds clean
    obtain ⟨inStep, same⟩ := respToken_inStep holds.1 clean
    exact ⟨inStep.of_eq rfl, same.trans holds.2⟩

lemma step_req {bytes : Bytes} (inStep : sess.InStep) (notTls : sess.NotTls (.req bytes)) :
    step apiMaxLen handlers sess (.req bytes) =
      (reqChannel apiMaxLen handlers).receive bytes.length { sess with isSslSess := 0 } bytes := by
  have isOpen : ¬ (sess.skipSession = true ∨ sess.isSslSess = 2) := by
    rcases inStep.plain with plain | plain <;> rw [inStep.noSkip, plain] <;> decide
  have quiet : ¬ (sess.dropSeen = true ∨ false = true) := by
    rw [inStep.noDrop]
    decide
  rw [step, handleRequestPkt, if_neg isOpen, if_neg quiet, parseReqPkt,
    if_neg (by rw [inStep.skipTill]; decide), if_pos inStep.skipTo, parseReq,
    if_neg (not_not.mpr inStep.skipAuth)]
  rcases inStep.plain with unknown | plain
  · rw [if_pos unknown, if_neg (by rw [notTls unknown]; decide)]
  · rw [if_neg (by rw [plain]; decide), ← plain]

lemma step_resp {bytes : Bytes} (inStep : sess.InStep) :
    step apiMaxLen handlers sess (.resp bytes) =
      (respChannel handlers).receive bytes.length sess bytes := by
  have isOpen : ¬ (sess.skipSession = true ∨ sess.isSslSess = 2) ∧ ¬ sess.isSslSess = 1 := by
    rcases inStep.plain with plain | plain <;> rw [inStep.noSkip, plain] <;> decide
  have quiet : ¬ (sess.dropSeen = true ∨ false = true) := by
    rw [inStep.noDrop]
    decide
  rw [step, handleResponsePkt, if_neg isOpen.1, if_neg isOpen.2, handleResponse, if_neg quiet,
    parseRespPkt, if_neg (by rw [inStep.skipTill]; decide), parseResp,
    if_neg (not_not.mpr inStep.skipTo), if_neg (by rw [inStep.skipAuth]; decide), ← inStep.skipAuth]

lemma calls_receive_req (sess : Sessinfo) (bytes : Bytes) :
    sess.calls <+: ((reqChannel apiMaxLen handlers).receive bytes.length sess bytes).calls :=
  (reqChannel_lawful sess.respFrag).log_receive _ sess bytes

lemma calls_receive_resp (sess : Sessinfo) (bytes : Bytes) :
    sess.calls <+: ((respChannel handlers).receive bytes.length sess bytes).calls :=
  (respChannel_lawful sess.reqFrag).log_receive _ sess bytes

lemma calls_parseReq (sess : Sessinfo) (bytes : Bytes) :
    sess.calls <+: (sess.parseReq apiMaxLen handlers bytes).calls := by
  rw [parseReq]
  split
  · exact prefix_rfl
  split
  · split
    · exact prefix_rfl
    · exact calls_receive_req { sess with isSslSess := 0 } bytes
  · exact calls_receive_req sess bytes

lemma calls_parseReqPkt (sess : Sessinfo) (bytes : Bytes) :
    sess.calls <+: (sess.parseReqPkt apiMaxLen handlers bytes).calls := by
  rw [parseReqPkt]
  split
  · exact prefix_rfl
  split
  · exact calls_parseReq sess bytes
  split
  · split
    · exact calls_parseReq { sess with skipToReqAfterResp := 0 } bytes
    split
    · exact prefix_rfl
    · exact prefix_rfl
  · exact prefix_rfl

lemma calls_parseResp (sess : Sessinfo) (bytes : Bytes) :
    sess.calls <+: (sess.parseResp handlers bytes).calls := by
  rw [parseResp]
  split
  · exact prefix_rfl
  split
  · exact prefix_rfl
  · exact calls_receive_resp { sess with skipTillAuthResp := 0 } bytes

lemma calls_handleResponse (sess : Sessinfo) (dropped : Bool) (bytes : Bytes) :
    sess.calls <+: (sess.handleResponse handlers dropped bytes).calls := by
  rw [handleResponse]
  split
  · exact prefix_rfl
  rw [parseRespPkt]
  split
  · split
    · exact calls_parseResp sess.reset bytes
    · exact prefix_rfl
  · exact calls_parseResp sess bytes

lemma calls_step (sess : Sessinfo) (packet : Packet) :
    sess.calls <+: (step apiMaxLen handlers sess packet).calls := by
  cases packet with
  | req bytes =>
    rw [step, handleRequestPkt]
    split
    · exact prefix_rfl
    split
    · exact prefix_rfl
    · exact calls_parseReqPkt sess bytes
  | resp bytes =>
    rw [step, handleResponsePkt]
    split
    · exact prefix_rfl
    split
    · split
      · exact prefix_rfl
      split
      · exact prefix_rfl
      · exact calls_handleResponse { sess with nsslRespChk := sess.nsslRespChk + 2 } false bytes
    · exact calls_handleResponse sess false bytes

lemma duplex_lawful :
    (duplex apiMaxLen handlers).Lawful (step apiMaxLen handlers) Call.Clean InStep NotTls where
  req := reqChannel_lawful
  resp := respChannel_lawful
  reqToken_reqRecord := fun _ _ => rfl
  respToken_reqRecord := fun _ _ => rfl
  reqToken_respRecord := fun _ _ => rfl
  respToken_respRecord := fun _ _ => rfl
  req_correct := by
    intro _ _ _ _ _ _ _
    apply Bounded.next_correct
    intro frag few
    exact decide_eq_false (Nat.not_lt.mpr few)
  resp_correct := by
    intro _ _ _ _ _ _ _
    apply Bounded.next_correct
    intro frag few
    exact decide_eq_false (Nat.not_lt.mpr few)
  step_req := by
    intro sess bytes inStep notTls
    refine ⟨{ sess with isSslSess := 0 }, ⟨rfl, rfl, rfl⟩, ?_, Sessinfo.step_req inStep notTls⟩
    exact ⟨inStep.skipTo, inStep.skipTill, inStep.skipAuth, inStep.noSkip, inStep.noDrop, .inr rfl⟩
  step_resp := fun inStep _ => ⟨_, .refl _, inStep, Sessinfo.step_resp inStep⟩
  log_step := calls_step

/-- The calls of `handle_req_token` as the handler saw them. -/
def reqShown (apiMaxLen : Nat) (sess : Sessinfo) : List (Bounded.Shown Nat) :=
  (sess.calls.filterMap Call.reqToken).map ((reqLayout apiMaxLen).showToken opcode unsupported)

/-- The calls of `handle_resp_token` as the handler saw them. -/
def respShown (sess : Sessinfo) : List (Bounded.Shown Nat) :=
  (sess.calls.filterMap Call.respToken).map (respLayout.showToken opcode [])

lemma new_followsBoth (bufs : FragBufs apiMaxLen) (reqs resps : List Message) :
    (duplex apiMaxLen handlers).FollowsBoth (reqs.map Message.bytes) (resps.map Message.bytes)
      [] [] (new bufs) := by
  have roomReq : (reqLayout apiMaxLen).maxBody ≤ bufs.req.length := by
    rw [bufs.length_req]
    exact Nat.le_add_right _ _
  have roomResp : respLayout.maxBody ≤ bufs.resp.length := by
    rw [bufs.length_resp]
    exact Nat.le_add_right _ _
  constructor
  · apply Follows.start (forall_mem_map.mpr fun message _ => message.bytes_ne_nil)
    exact ⟨roomReq, rfl⟩
  · apply Follows.start (forall_mem_map.mpr fun message _ => message.bytes_ne_nil)
    exact ⟨roomResp, rfl⟩

/-- **Message reassembly.**  In a session without drops the handlers are called with exactly the
messages of their direction, for every cut of the two streams into packets and every interleaving
of these, if the first request packet does not look like TLS, never more than 128 requests are
pending, and no speculative authentication is started. -/
theorem messages_handed_on (apiMaxLen : Nat) (handlers : Handlers) (bufs : FragBufs apiMaxLen)
    (reqs resps : List Message) (packets : List Packet)
    (fitReqs : ∀ message ∈ reqs, message.Fits) (fitResps : ∀ message ∈ resps, message.Fits)
    (some : ∀ packet ∈ packets, packet.bytes ≠ [])
    (cutReqs : reqBytes packets = (reqs.map Message.bytes).flatten)
    (cutResps : respBytes packets = (resps.map Message.bytes).flatten)
    (clean : ∀ call ∈ (Machine.run (step apiMaxLen handlers) (new bufs) packets).calls,
      0 ≤ call.ret ∧ call.pending ≤ 128 ∧ call.skipAuth = 0)
    (notTls : Machine.Guarded (step apiMaxLen handlers) NotTls (new bufs) packets) :
    (Machine.run (step apiMaxLen handlers) (new bufs) packets).reqShown apiMaxLen =
        reqs.map (Message.shown [opUpdate, opInsert, opDelete] (apiMaxLen + 512)) ∧
      (Machine.run (step apiMaxLen handlers) (new bufs) packets).respShown =
        resps.map (Message.shown [] 2048) := by
  obtain ⟨handedReqs, handedResps⟩ := duplex_lawful.handed_on
    (forall_mem_map.mpr fun message mem => (fitReqs message mem).isMessage rfl rfl)
    (forall_mem_map.mpr fun message mem => (fitResps message mem).isMessage rfl rfl)
    some ⟨rfl, rfl, rfl, rfl, rfl, .inl rfl⟩ notTls (new_followsBoth bufs reqs resps) cutReqs
    cutResps clean
  constructor
  · exact Bounded.Layout.map_showToken_eq handedReqs (fun _ => reqLayout_copies)
      fun message => message.showMessage_bytes rfl unsupported
  · exact Bounded.Layout.map_showToken_eq handedResps (fun hdr _ => respLayout_copies hdr)
      fun message => message.showMessage_bytes rfl []

end Sessinfo

/-! ## Runs with the default limit -/

def dfltMaxApiLen : Nat := 4096

/-- Buffers that hold zeroes. -/
def FragBufs.zero : FragBufs dfltMaxApiLen where
  req := List.replicate 4624 0
  resp := List.replicate 2064 0
  length_req := length_replicate
  length_resp := length_replicate

/-- Handlers that accept every message and expect a response to every request. -/
def Handlers.accepting (isSpeculative : Bool) : Handlers where
  handleReqToken := fun _ _ => .done 0 true isSpeculative
  handleRespToken := fun _ _ => .done 0 true true false
  isValidReq := fun _ => false
  isValidResp := fun _ => false

/-- A message with an empty document. -/
def emptyMsg : Message where
  reqid := 1
  respid := 0
  opcode := 2013
  payload := [0, 0, 0, 0, 0, 5, 0, 0, 0, 0]

/-- A request whose header is cut and its response, cut in the payload. -/
theorem Sessinfo.cut_msg_handed_on :
    (Machine.run (step dfltMaxApiLen (.accepting false)) (new .zero)
        [.req (emptyMsg.bytes.take 7), .req (emptyMsg.bytes.drop 7),
          .resp (emptyMsg.bytes.take 20), .resp (emptyMsg.bytes.drop 20)]).reqShown
          dfltMaxApiLen = [⟨2013, 10, [0, 0, 0, 0, 0, 5, 0, 0, 0, 0]⟩] ∧
      (Machine.run (step dfltMaxApiLen (.accepting false)) (new .zero)
        [.req (emptyMsg.bytes.take 7), .req (emptyMsg.bytes.drop 7),
          .resp (emptyMsg.bytes.take 20), .resp (emptyMsg.bytes.drop 20)]).respShown =
        [⟨2013, 10, [0, 0, 0, 0, 0, 5, 0, 0, 0, 0]⟩] :=
  messages_handed_on dfltMaxApiLen (.accepting false) .zero [emptyMsg] [emptyMsg]
    [.req (emptyMsg.bytes.take 7), .req (emptyMsg.bytes.drop 7),
      .resp (emptyMsg.bytes.take 20), .resp (emptyMsg.bytes.drop 20)]
    (by decide) (by decide) (by decide) (by decide) (by decide) (by decide +kernel)
    (by decide +kernel)

/-- Two streams of messages, cut into packets, and the handlers of their session. -/
structure Trial where
  handlers : Handlers
  reqs : List Message
  resps : List Message
  packets : List Packet

namespace Trial

/-- The session after all packets. -/
def result (trial : Trial) : Sessinfo :=
  Machine.run (Sessinfo.step dfltMaxApiLen trial.handlers) (.new .zero) trial.packets

/-- The packets are a cut of the two streams and the handlers accept every message. -/
def Legal (trial : Trial) : Prop :=
  (∀ message ∈ trial.reqs ++ trial.resps, message.Fits) ∧
    (∀ packet ∈ trial.packets, packet.bytes ≠ []) ∧
    reqBytes trial.packets = (trial.reqs.map Message.bytes).flatten ∧
    respBytes trial.packets = (trial.resps.map Message.bytes).flatten ∧
    ∀ call ∈ trial.result.calls, 0 ≤ call.ret

/-- The handlers are called with exactly the messages. -/
def Exact (trial : Trial) : Prop :=
  trial.result.reqShown dfltMaxApiLen =
      trial.reqs.map (Message.shown [opUpdate, opInsert, opDelete] (dfltMaxApiLen + 512)) ∧
    trial.result.respShown = trial.resps.map (Message.shown [] 2048)

instance (trial : Trial) : Decidable trial.Legal :=
  inferInstanceAs (Decidable (_ ∧ _))

instance (trial : Trial) : Decidable trial.Exact :=
  inferInstanceAs (Decidable (_ ∧ _))

/-- A request of 790 bytes, whose first five bytes come alone and are those of a TLS handshake
record. -/
def looksLikeTls : Trial where
  handlers := .accepting false
  reqs := [⟨4, 0, 2013, List.replicate 774 0⟩]
  resps := []
  packets :=
    let bytes := Message.bytes ⟨4, 0, 2013, List.replicate 774 0⟩
    [.req (bytes.take 5), .req (bytes.drop 5)]

/-- One packet with 129 requests and one with another request. -/
def manyPending : Trial where
  handlers := .accepting false
  reqs := List.replicate 130 emptyMsg
  resps := []
  packets :=
    [.req (List.replicate 129 emptyMsg.bytes).flatten, .req emptyMsg.bytes]

/-- A `hello` with `speculativeAuthenticate` for the user `me`. -/
def speculativeHello : Message where
  reqid := 1
  respid := 0
  opcode := 2013
  payload := [0x00, 0x00, 0x00, 0x00, 0x00, 0x66, 0x00, 0x00, 0x00, 0x10, 0x68, 0x65, 0x6c, 0x6c,
    0x6f, 0x00, 0x01, 0x00, 0x00, 0x00, 0x03, 0x73, 0x70, 0x65, 0x63, 0x75, 0x6c, 0x61,
    0x74, 0x69, 0x76, 0x65, 0x41, 0x75, 0x74, 0x68, 0x65, 0x6e, 0x74, 0x69, 0x63, 0x61,
    0x74, 0x65, 0x00, 0x3d, 0x00, 0x00, 0x00, 0x10, 0x73, 0x61, 0x73, 0x6c, 0x53, 0x74,
    0x61, 0x72, 0x74, 0x00, 0x01, 0x00, 0x00, 0x00, 0x02, 0x6d, 0x65, 0x63, 0x68, 0x61,
    0x6e, 0x69, 0x73, 0x6d, 0x00, 0x06, 0x00, 0x00, 0x00, 0x50, 0x4c, 0x41, 0x49, 0x4e,
    0x00, 0x05, 0x70, 0x61, 0x79, 0x6c, 0x6f, 0x61, 0x64, 0x00, 0x06, 0x00, 0x00, 0x00,
    0x00, 0x00, 0x6d, 0x65, 0x00, 0x70, 0x77, 0x00, 0x00]

/-- A speculative authentication and its response. -/
def speculative : Trial where
  handlers := .accepting true
  reqs := [speculativeHello]
  resps := [emptyMsg]
  packets := [.req speculativeHello.bytes, .resp emptyMsg.bytes]

/-- Where the parser leaves the streams by design. -/
theorem streams_left :
    (looksLikeTls.Legal ∧ ¬ looksLikeTls.Exact) ∧ (manyPending.Legal ∧ ¬ manyPending.Exact) ∧
      (speculative.Legal ∧ ¬ speculative.Exact) := by
  decide +kernel

end Trial

end Gyeeta.Mongo
