import Gyeeta.Postgres.Session

/-!
# Postgres token reassembly

The token handlers are called with the messages of their direction, in order, however the two
streams are cut into packets and interleaved.  The parser of the responses checks the counter of
the requests, so this holds as long as no response arrives while more of a request is kept than a
response may have.
-/

namespace Gyeeta.Postgres

open List Bytes

open Reassembly

/-! ## Messages and tokens -/

/-- A protocol message. -/
structure Message where
  type : UInt8
  payload : Bytes
  deriving DecidableEq, Repr

namespace Message

/-- The message on the wire: type, length with the length field, payload. -/
def bytes (message : Message) : Bytes :=
  message.type :: (ofNatBe 4 (message.payload.length + 4) ++ message.payload)

/-- The length field is a positive `Int32`. -/
def Fits (message : Message) : Prop :=
  message.payload.length + 4 < 2 ^ 31

instance (message : Message) : Decidable message.Fits :=
  inferInstanceAs (Decidable (_ < _))

end Message

/-- What the handler of a message is to be told: its type, its length, and its payload up to a
maximum unless its type is excluded. -/
def Message.shown (excluded : List UInt8) (maxToken : Nat) (message : Message) :
    Bounded.Shown UInt8 where
  kind := message.type
  len := message.payload.length
  payload := if message.type ∈ excluded then [] else message.payload.take maxToken

variable (message : Message)

lemma Message.bytes_eq : message.bytes =
    [message.type] ++ ofNatBe 4 (message.payload.length + 4) ++ message.payload := rfl

lemma Message.length_bytes : message.bytes.length = hdrLen + message.payload.length := by
  rw [bytes_eq, length_append, length_append, length_ofNatBe]
  rfl

lemma Message.take_bytes : message.bytes.take hdrLen =
    [message.type] ++ ofNatBe 4 (message.payload.length + 4) := by
  rw [bytes_eq, take_left']
  rw [length_append, length_ofNatBe]
  rfl

lemma Message.drop_bytes : message.bytes.drop hdrLen = message.payload := by
  rw [bytes_eq, drop_left']
  rw [length_append, length_ofNatBe]
  rfl

lemma Message.tknlen_bytes {message : Message} (fits : message.Fits) :
    tknlen (message.bytes.take hdrLen) = some message.payload.length := by
  rw [Fits] at fits
  have small : message.payload.length + 4 < 256 ^ 4 := by omega
  have read := fieldBe_ofNatBe small [message.type] []
  rw [append_nil, length_singleton] at read
  simp only [tknlen, take_bytes, read]
  rw [if_neg (by omega), Nat.add_sub_cancel]

section Layouts

variable {layout : Bounded.Layout}

lemma Message.Fits.isMessage {message : Message} (fits : message.Fits)
    (isHdr : layout.hdrLen = hdrLen) (isLen : layout.bodyLen = tknlen) :
    layout.IsMessage message.bytes := by
  constructor
  · rw [isHdr, message.length_bytes]
    exact Nat.le_add_right _ _
  · rw [isHdr, isLen, tknlen_bytes fits, message.length_bytes, Nat.add_sub_cancel_left]

lemma Message.showMessage_bytes (isHdr : layout.hdrLen = hdrLen) (excluded : List UInt8)
    (message : Message) : layout.showMessage tkntype excluded message.bytes =
      message.shown excluded layout.maxBody := by
  rw [Bounded.Layout.showMessage, isHdr, length_bytes, Nat.add_sub_cancel_left, take_bytes,
    drop_bytes]
  rfl

end Layouts

lemma reqLayout_copies (apiMaxLen : Nat) (hdr : Bytes) : (reqLayout apiMaxLen).Copies hdr :=
  fun _ => rfl

lemma respLayout_copies {hdr : Bytes} (handed : tkntype hdr ∉ [msgBDatarow]) :
    respLayout.Copies hdr := by
  intro count
  rw [mem_singleton] at handed
  exact if_neg handed

/-! ## The session -/

/-- The token of a call of `handle_req_token`. -/
def Call.reqToken (call : Call) : Option Bounded.Token :=
  match call.dir with
  | .inbound => some call.token
  | .outbound => none

/-- The token of a call of `handle_resp_token`. -/
def Call.respToken (call : Call) : Option Bounded.Token :=
  match call.dir with
  | .inbound => none
  | .outbound => some call.token

/-- The handler accepted the message and not too many requests are pending. -/
def Call.Clean (call : Call) : Prop :=
  0 ≤ call.ret ∧ call.pending ≤ 128

instance (call : Call) : Decidable call.Clean :=
  inferInstanceAs (Decidable (_ ∧ _))

namespace Sessinfo

/-- The parser is in step with both streams. -/
structure InStep (sess : Sessinfo) : Prop where
  skipTo : sess.skipToReqAfterResp = 0
  skipTill : sess.skipReqRespTillReady = false
  noDrop : sess.dropSeen = false

/-- When a response packet arrives, no more of an unfinished request is kept than a response
token may have. -/
def ReqPartSmall (sess : Sessinfo) : Packet → Prop
  | .req _ => True
  | .resp _ => sess.reqFrag.nbytes ≤ respLayout.maxBody

instance (sess : Sessinfo) : (packet : Packet) → Decidable (sess.ReqPartSmall packet)
  | .req _ => isTrue trivial
  | .resp _ => inferInstanceAs (Decidable (_ ≤ _))

/-- Both directions of a session. -/
def duplex (apiMaxLen : Nat) (handlers : Handlers) :
    Duplex Sessinfo Bounded.Frag Bounded.Frag Bounded.Token Bounded.Token Call where
  req := reqChannel apiMaxLen handlers
  resp := respChannel handlers
  reqFormat := (reqLayout apiMaxLen).format
  respFormat := respLayout.format
  log := calls
  reqRecord := reqCall handlers
  respRecord := respCall handlers
  reqToken := Call.reqToken
  respToken := Call.respToken

variable {apiMaxLen : Nat} {handlers : Handlers} {sess : Sessinfo} {token : Bounded.Token}

/-! ### What the handlers do -/

lemma reqToken_cases (sess : Sessinfo) (token : Bounded.Token) :
    sess.reqToken token = sess ∨ sess.reqToken token = sess.addPending ∨
      ∃ copyMode, sess.reqToken token =
        { sess with copyMode := copyMode, nreadyRespPending := 1 } := by
  simp only [reqToken]
  split
  · split
    · exact .inr (.inl rfl)
    · exact .inl rfl
  split
  · split
    · exact .inr (.inl rfl)
    · exact .inr (.inr ⟨sess.copyMode, rfl⟩)
  split
  · exact .inr (.inr ⟨true, rfl⟩)
  · exact .inl rfl

lemma respToken_cases (handlers : Handlers) (sess : Sessinfo) (token : Bounded.Token) :
    (∃ copyMode pending skipTill, (skipTill = true → sess.skipReqRespTillReady = true) ∧
      sess.respToken handlers token = { sess with
        copyMode := copyMode, nreadyRespPending := pending, skipReqRespTillReady := skipTill }) ∨
      sess.respToken handlers token = sess.requestDone := by
  simp only [respToken]
  split
  · simp only [readyForQuery]
    by_cases waiting : 0 < sess.nreadyRespPending
    · simp only [waiting, if_true]
      split
      all_goals
        split
        · exact .inr rfl
        · exact .inl ⟨_, _, false, (fun h => nomatch h), rfl⟩
    · rw [if_neg waiting]
      split
      · exact .inr rfl
      · exact .inl ⟨_, _, false, (fun h => nomatch h), rfl⟩
  split
  · exact .inl ⟨true, 1, sess.skipReqRespTillReady, id, rfl⟩
  · exact .inl ⟨sess.copyMode, sess.nreadyRespPending, sess.skipReqRespTillReady, id, rfl⟩

lemma reqToken_inStep (inStep : sess.InStep)
    (few : (sess.reqToken token).nreadyRespPending ≤ 128) :
    (sess.reqToken token).InStep ∧ (sess.reqToken token).respFrag = sess.respFrag := by
  rcases sess.reqToken_cases token with same | added | ⟨copyMode, copied⟩
  · rw [same]
    exact ⟨inStep, rfl⟩
  · rw [added] at few ⊢
    have noDrop : decide (128 < (sess.nreadyRespPending + 1) % 2 ^ 16) = false :=
      decide_eq_false (Nat.not_lt.mpr few)
    refine ⟨⟨inStep.skipTo, inStep.skipTill, ?_⟩, rfl⟩
    simp only [addPending, inStep.noDrop, noDrop, Bool.false_or]
  · rw [copied]
    exact ⟨{ inStep with }, rfl⟩

lemma respToken_inStep (inStep : sess.InStep) : (sess.respToken handlers token).InStep ∧
      (sess.respToken handlers token).reqFrag = sess.reqFrag := by
  rcases sess.respToken_cases handlers token with ⟨copyMode, pending, skipTill, kept, waits⟩ | done
  · rw [waits]
    refine ⟨⟨inStep.skipTo, ?_, inStep.noDrop⟩, rfl⟩
    cases skipTill with
    | false => rfl
    | true => exact absurd (kept rfl) (by rw [inStep.skipTill]; exact Bool.noConfusion)
  · rw [done]
    exact ⟨⟨rfl, rfl, inStep.noDrop⟩, rfl⟩

/-! ### The laws of the two channels -/

lemma reqChannel_lawful (other : Bounded.Frag) :
    (reqChannel apiMaxLen handlers).Lawful (reqLayout apiMaxLen).format calls (reqCall handlers)
      Call.Clean fun sess => sess.InStep ∧ sess.respFrag = other where
  rep_setFrag := fun _ rep => rep
  log_setFrag := fun _ _ => rfl
  log_handle := fun _ _ => rfl
  log_fail := fun _ _ => rfl
  goes_on := fun _ _ clean => decide_eq_true clean.1
  inv_setFrag := fun holds _ => ⟨{ holds.1 with }, holds.2⟩
  inv_handle := by
    intro sess token holds clean
    obtain ⟨inStep, same⟩ := reqToken_inStep holds.1 clean.2
    exact ⟨{ inStep with }, same.trans holds.2⟩

lemma respChannel_lawful (other : Bounded.Frag) :
    (respChannel handlers).Lawful respLayout.format calls (respCall handlers) Call.Clean
      fun sess => sess.InStep ∧ sess.reqFrag = other where
  rep_setFrag := fun _ rep => rep
  log_setFrag := fun _ _ => rfl
  log_handle := fun _ _ => rfl
  log_fail := fun _ _ => rfl
  goes_on := fun _ _ clean => decide_eq_true clean.1
  inv_setFrag := fun holds _ => ⟨{ holds.1 with }, holds.2⟩
  inv_handle := by
    intro sess token holds _
    obtain ⟨inStep, same⟩ := respToken_inStep holds.1
    exact ⟨{ inStep with }, same.trans holds.2⟩

lemma step_req {before : UInt8} {bytes : Bytes} (inStep : sess.InStep) :
    step apiMaxLen handlers before sess (.req bytes) =
      (reqChannel apiMaxLen handlers).receive bytes.length sess bytes := by
  simp only [step, handleRequestPkt, inStep.noDrop, parseReqPkt, inStep.skipTill, inStep.skipTo,
    Bool.false_eq_true, or_self, if_false, if_true]

lemma step_resp {before : UInt8} {bytes : Bytes} (inStep : sess.InStep) :
    step apiMaxLen handlers before sess (.resp bytes) =
      (respChannel handlers).receive bytes.length sess bytes := by
  simp only [step, handleResponsePkt, inStep.noDrop, parseRespPkt, parseResp, inStep.skipTill,
    inStep.skipTo, Bool.false_eq_true, or_self, if_false, if_true]

lemma calls_receive_req (sess : Sessinfo) (bytes : Bytes) :
    sess.calls <+: ((reqChannel apiMaxLen handlers).receive bytes.length sess bytes).calls :=
  (reqChannel_lawful sess.respFrag).log_receive _ sess bytes

lemma calls_receive_resp (sess : Sessinfo) (bytes : Bytes) :
    sess.calls <+: ((respChannel handlers).receive bytes.length sess bytes).calls :=
  (respChannel_lawful sess.reqFrag).log_receive _ sess bytes

lemma calls_parseReqPkt (sess : Sessinfo) (bytes : Bytes) :
    sess.calls <+: (sess.parseReqPkt apiMaxLen handlers bytes).calls := by
  rw [parseReqPkt]
  split
  · exact prefix_rfl
  split
  · exact calls_receive_req sess bytes
  split
  · split
    · exact calls_receive_req { sess with skipToReqAfterResp := 0 } bytes
    · exact prefix_rfl
  · exact prefix_rfl

lemma calls_parseResp (sess : Sessinfo) (bytes : Bytes) :
    sess.calls <+: (sess.parseResp handlers bytes).calls := by
  rw [parseResp]
  split
  · exact calls_receive_resp sess bytes
  · exact prefix_rfl

lemma calls_step (before : UInt8) (sess : Sessinfo) (packet : Packet) :
    sess.calls <+: (step apiMaxLen handlers before sess packet).calls := by
  cases packet with
  | req bytes =>
    rw [step, handleRequestPkt]
    split
    · exact prefix_rfl
    · exact calls_parseReqPkt sess bytes
  | resp bytes =>
    rw [step, handleResponsePkt]
    split
    · exact prefix_rfl
    rw [parseRespPkt]
    split
    · simp only
      split
      · exact calls_parseResp sess.reset _
      · exact prefix_rfl
    · exact calls_parseResp sess bytes

lemma duplex_lawful (before : UInt8) :
    (duplex apiMaxLen handlers).Lawful (step apiMaxLen handlers before) Call.Clean InStep
      ReqPartSmall where
  req := reqChannel_lawful
  resp := respChannel_lawful
  reqToken_reqRecord := fun _ _ => rfl
  respToken_reqRecord := fun _ _ => rfl
  reqToken_respRecord := fun _ _ => rfl
  respToken_respRecord := fun _ _ => rfl
  req_correct := by
    intro sess bytes _ _ later _ _
    apply Bounded.next_correct
    intro frag few
    exact decide_eq_false (Nat.not_lt.mpr few)
  resp_correct := by
    intro sess bytes _ small later _ same
    apply Bounded.next_correct
    intro frag _
    have same : later.reqFrag = sess.reqFrag := same
    have small := small
    rw [same]
    exact decide_eq_false (Nat.not_lt.mpr small)
  step_req := fun inStep _ => ⟨_, .refl _, inStep, Sessinfo.step_req inStep⟩
  step_resp := fun inStep _ => ⟨_, .refl _, inStep, Sessinfo.step_resp inStep⟩
  log_step := calls_step before

/-- The calls of `handle_req_token` as the handler saw them. -/
def reqShown (apiMaxLen : Nat) (sess : Sessinfo) : List (Bounded.Shown UInt8) :=
  (sess.calls.filterMap Call.reqToken).map ((reqLayout apiMaxLen).showToken tkntype [])

/-- The calls of `handle_resp_token` as the handler saw them. -/
def respShown (sess : Sessinfo) : List (Bounded.Shown UInt8) :=
  (sess.calls.filterMap Call.respToken).map (respLayout.showToken tkntype [msgBDatarow])

lemma afterLogin_followsBoth (bufs : FragBufs apiMaxLen) (reqs resps : List Message) :
    (duplex apiMaxLen handlers).FollowsBoth (reqs.map Message.bytes) (resps.map Message.bytes)
      [] [] (afterLogin bufs) := by
  have roomReq : (reqLayout apiMaxLen).maxBody ≤ bufs.req.length := by
    rw [bufs.length_req]
    exact Nat.le_add_right _ _
  have roomResp : respLayout.maxBody ≤ bufs.resp.length := by
    rw [bufs.length_resp]
    exact Nat.le_add_right _ _
  constructor
  · apply Follows.start (forall_mem_map.mpr fun _ _ => cons_ne_nil _ _)
    exact ⟨roomReq, rfl⟩
  · apply Follows.start (forall_mem_map.mpr fun _ _ => cons_ne_nil _ _)
    exact ⟨roomResp, rfl⟩

/-- **Token reassembly.**  After login the handlers are called with exactly the messages of their
direction, for every cut of the two streams into packets and every interleaving of these, if no
response packet arrives while more than `max_pg_resp_token_` bytes of an unfinished request are
kept. -/
theorem tokens_eq_messages (apiMaxLen : Nat) (handlers : Handlers) (before : UInt8)
    (bufs : FragBufs apiMaxLen) (reqs resps : List Message) (packets : List Packet)
    (fitReqs : ∀ message ∈ reqs, message.Fits) (fitResps : ∀ message ∈ resps, message.Fits)
    (some : ∀ packet ∈ packets, packet.bytes ≠ [])
    (cutReqs : reqBytes packets = (reqs.map Message.bytes).flatten)
    (cutResps : respBytes packets = (resps.map Message.bytes).flatten)
    (clean : ∀ call ∈ (Machine.run (step apiMaxLen handlers before) (afterLogin bufs)
      packets).calls, 0 ≤ call.ret ∧ call.pending ≤ 128)
    (small : Machine.Guarded (step apiMaxLen handlers before) ReqPartSmall (afterLogin bufs)
      packets) :
    (Machine.run (step apiMaxLen handlers before) (afterLogin bufs) packets).reqShown apiMaxLen =
        reqs.map (Message.shown [] (apiMaxLen + 512)) ∧
      (Machine.run (step apiMaxLen handlers before) (afterLogin bufs) packets).respShown =
        resps.map (Message.shown [msgBDatarow] 2048) := by
  obtain ⟨handedReqs, handedResps⟩ := (duplex_lawful before).handed_on
    (forall_mem_map.mpr fun message mem => (fitReqs message mem).isMessage rfl rfl)
    (forall_mem_map.mpr fun message mem => (fitResps message mem).isMessage rfl rfl)
    some ⟨rfl, rfl, rfl⟩ small (afterLogin_followsBoth bufs reqs resps) cutReqs cutResps clean
  constructor
  · exact Bounded.Layout.map_showToken_eq handedReqs (fun hdr _ => reqLayout_copies apiMaxLen hdr)
      fun message => message.showMessage_bytes rfl []
  · exact Bounded.Layout.map_showToken_eq handedResps (fun _ => respLayout_copies)
      fun message => message.showMessage_bytes rfl [msgBDatarow]

end Sessinfo

/-! ## Runs with the default limit -/

def dfltMaxApiLen : Nat := 4096

/-- Buffers that hold zeroes. -/
def FragBufs.zero : FragBufs dfltMaxApiLen where
  req := List.replicate 4624 0
  resp := List.replicate 2064 0
  length_req := by rw [length_replicate]; rfl
  length_resp := by rw [length_replicate]; rfl

/-- Handlers that accept every message. -/
def Handlers.accepting : Handlers where
  handleReqToken := fun _ _ => 0
  handleRespToken := fun _ _ => 0
  hasText := fun _ => true
  timedOut := fun _ => false

/-- A query whose header is cut, answered by a row that is cut and a ready server. -/
theorem Sessinfo.cut_query_answered :
    (Machine.run (step dfltMaxApiLen .accepting 0) (afterLogin .zero)
        [.req [0x51, 0, 0], .req [0, 6, 0x3b, 0], .resp [0x44, 0, 0, 0, 6, 1],
          .resp [2, 0x5a, 0, 0, 0, 5, 0x49]]).reqShown dfltMaxApiLen = [⟨0x51, 2, [0x3b, 0]⟩] ∧
      (Machine.run (step dfltMaxApiLen .accepting 0) (afterLogin .zero)
        [.req [0x51, 0, 0], .req [0, 6, 0x3b, 0], .resp [0x44, 0, 0, 0, 6, 1],
          .resp [2, 0x5a, 0, 0, 0, 5, 0x49]]).respShown = [⟨0x44, 2, []⟩, ⟨0x5a, 1, [0x49]⟩] :=
  tokens_eq_messages dfltMaxApiLen .accepting 0 .zero [⟨0x51, [0x3b, 0]⟩]
    [⟨0x44, [1, 2]⟩, ⟨0x5a, [0x49]⟩]
    [.req [0x51, 0, 0], .req [0, 6, 0x3b, 0], .resp [0x44, 0, 0, 0, 6, 1],
      .resp [2, 0x5a, 0, 0, 0, 5, 0x49]]
    (by decide) (by decide) (by decide) (by decide) (by decide) (by decide +kernel)
    (by decide +kernel)

/-- A long query of which the first packet has more than `max_pg_resp_token_` bytes. -/
def longQuery : Message where
  type := msgFQuery
  payload := List.replicate 3000 0x61

/-- The end of a command that was sent before. -/
def commandComplete : Message where
  type := 0x43
  payload := [0x42, 0x45, 0x47, 0]

/-- The long query arrives in two packets, with the command's end cut in two between them. -/
def cutAnswer : List Packet :=
  [.req (longQuery.bytes.take 2105), .resp (commandComplete.bytes.take 7),
    .resp (commandComplete.bytes.drop 7), .req (longQuery.bytes.drop 2105)]

/-- The packets are those of one message in each direction and the handlers accept every
message, but the check of the response parser reads the counter of the requests: it resets the
session, and neither handler is ever called. -/
theorem Sessinfo.cut_answer_lost :
    (longQuery.Fits ∧ commandComplete.Fits) ∧ (∀ packet ∈ cutAnswer, packet.bytes ≠ []) ∧
      reqBytes cutAnswer = ([longQuery].map Message.bytes).flatten ∧
      respBytes cutAnswer = ([commandComplete].map Message.bytes).flatten ∧
      (∀ call ∈ (Machine.run (step dfltMaxApiLen .accepting 0) (afterLogin .zero)
        cutAnswer).calls, 0 ≤ call.ret ∧ call.pending ≤ 128) ∧
      (Machine.run (step dfltMaxApiLen .accepting 0) (afterLogin .zero) cutAnswer).reqShown
        dfltMaxApiLen = [] ∧
      (Machine.run (step dfltMaxApiLen .accepting 0) (afterLogin .zero) cutAnswer).respShown = [] ∧
      [longQuery].map (Message.shown [] (dfltMaxApiLen + 512)) ≠ [] ∧
      [commandComplete].map (Message.shown [msgBDatarow] 2048) ≠ [] := by
  decide +kernel

end Gyeeta.Postgres
