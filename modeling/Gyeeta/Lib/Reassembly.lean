import Mathlib.Data.List.Forall2
import Gyeeta.Lib.Bytes
import Gyeeta.Lib.Frames
import Gyeeta.Lib.Run

/-!
# Reassembly of messages

A stream of messages arrives cut into packets.  A receiver keeps a fragment state between packets
and hands one message after the other to a handler.  `Correct` says that the state stands for the
bytes of an unfinished message; the receivers of the two directions of a session then see exactly
the messages sent, however the streams are cut and interleaved.
-/

namespace Gyeeta.Reassembly

open List

/-- What a receiver makes of the bytes left in a packet. -/
inductive Progress (Frag Token : Type) where
  /-- The packet is used up. -/
  | more (frag : Frag)
  /-- A message is complete and the rest of the packet follows. -/
  | token (frag : Frag) (token : Token) (rest : Bytes)
  | error (frag : Frag)
  deriving DecidableEq, Repr

/-- The messages of a stream, the unfinished bytes that a fragment state stands for, and the
tokens that a message may be handed on as. -/
structure Format (Frag Token : Type) where
  IsMessage : Bytes → Prop
  Rep : Frag → Bytes → Prop
  IsToken : Bytes → Token → Prop

section Receiver

variable {Frag Token : Type}

/-- A receiver that keeps track of the unfinished message. -/
structure Correct (format : Format Frag Token) (next : Frag → Bytes → Progress Frag Token) :
    Prop where
  some : ∀ {message : Bytes}, format.IsMessage message → message ≠ []
  whole : ∀ {frag : Frag} {pending packet message : Bytes}, format.Rep frag pending →
    format.IsMessage message → pending.length < message.length → message <+: pending ++ packet →
      ∃ after token, next frag packet =
          .token after token ((pending ++ packet).drop message.length) ∧
        format.IsToken message token ∧ format.Rep after []
  part : ∀ {frag : Frag} {pending packet message : Bytes}, format.Rep frag pending →
    format.IsMessage message → packet ≠ [] → pending ++ packet <+: message →
      (pending ++ packet).length < message.length →
        ∃ after, next frag packet = .more after ∧ format.Rep after (pending ++ packet)

/-- After `received` bytes of a stream of messages, the complete messages have been handed on
and the fragment state stands for the rest. -/
structure Follows (format : Format Frag Token) (messages : List Bytes) (received : Bytes)
    (frag : Frag) (tokens : List Token) : Prop where
  split : ∃ done todo part, messages = done ++ todo ∧ received = done.flatten ++ part ∧
    Frames.IsRest todo part ∧ format.Rep frag part ∧ List.Forall₂ format.IsToken done tokens

variable {format : Format Frag Token} {messages : List Bytes} {received : Bytes} {frag : Frag}
  {tokens : List Token}

lemma Follows.start (framed : ∀ message ∈ messages, message ≠ [])
    (empty : format.Rep frag []) : Follows format messages [] frag [] := by
  refine ⟨[], messages, [], rfl, rfl, ⟨⟨_, rfl⟩, ?_⟩, empty, .nil⟩
  rintro message rest rfl
  exact length_pos_iff.mpr (framed message mem_cons_self)

lemma Follows.complete (follows : Follows format messages received frag tokens)
    (all : received = messages.flatten) : List.Forall₂ format.IsToken messages tokens := by
  obtain ⟨done, todo, part, rfl, bytes, isRest, -, handed⟩ := follows.split
  rw [bytes, flatten_append, append_cancel_left_eq] at all
  cases todo with
  | nil =>
    rw [append_nil]
    exact handed
  | cons message rest =>
    have short := isRest.isShort message rest rfl
    rw [all, flatten_cons, length_append] at short
    omega

end Receiver

/-! ## Channels of a session -/

/-- One direction of a session: its fragment state, the handler of its tokens, which tells
whether the session goes on, and what is done on an error. -/
structure Channel (Session Frag Token : Type) where
  frag : Session → Frag
  setFrag : Session → Frag → Session
  next : Session → Frag → Bytes → Progress Frag Token
  handle : Session → Token → Session × Bool
  fail : Session → Frag → Session

section Channel

variable {Session Frag Token Record : Type}

/-- The loop over a packet.  It ends at the end of the packet, and when nothing was used. -/
def Channel.receive (channel : Channel Session Frag Token) : Nat → Session → Bytes → Session
  | 0, session, _ => session
  | fuel + 1, session, packet =>
    match channel.next session (channel.frag session) packet with
    | .more frag => channel.setFrag session frag
    | .error frag => channel.fail session frag
    | .token frag token rest =>
      let (session, goesOn) := channel.handle session token
      if goesOn = false then channel.fail session frag
      else if rest = [] ∨ packet.length ≤ rest.length then channel.setFrag session frag
      else channel.receive fuel (channel.setFrag session frag) rest

/-- Every call of a handler is recorded.  After a call whose record is clean the session goes
on, and `inv` is kept. -/
structure Channel.Lawful (channel : Channel Session Frag Token) (format : Format Frag Token)
    (log : Session → List Record) (record : Session → Token → Record) (Clean : Record → Prop)
    (inv : Session → Prop) : Prop where
  rep_setFrag : ∀ {session frag pending}, inv session → format.Rep frag pending →
    format.Rep (channel.frag (channel.setFrag session frag)) pending
  log_setFrag : ∀ session frag, log (channel.setFrag session frag) = log session
  log_handle : ∀ session token,
    log (channel.handle session token).1 = log session ++ [record session token]
  log_fail : ∀ session frag, log (channel.fail session frag) = log session
  goes_on : ∀ session token, Clean (record session token) →
    (channel.handle session token).2 = true
  inv_setFrag : ∀ {session frag pending}, inv session → format.Rep frag pending →
    inv (channel.setFrag session frag)
  inv_handle : ∀ session token, inv session → Clean (record session token) →
    inv (channel.handle session token).1

/-- The records of calls with the given tokens. -/
def Recorded (record : Session → Token → Record) (tokens : List Token) (records : List Record) :
    Prop :=
  List.Forall₂ (fun token entry => ∃ session, entry = record session token) tokens records

variable {channel : Channel Session Frag Token} {format : Format Frag Token}
  {log : Session → List Record} {record : Session → Token → Record} {Clean : Record → Prop}
  {inv : Session → Prop}

section

variable (lawful : channel.Lawful format log record Clean inv)
include lawful

lemma Channel.Lawful.log_receive (fuel : Nat) (session : Session) (packet : Bytes) :
    log session <+: log (channel.receive fuel session packet) := by
  induction fuel generalizing session packet with
  | zero => exact prefix_rfl
  | succ fuel ih =>
    rw [Channel.receive]
    split
    · exact (lawful.log_setFrag _ _).symm ▸ prefix_rfl
    · exact (lawful.log_fail _ _).symm ▸ prefix_rfl
    next frag token rest _ =>
    have added : log session <+: log (channel.handle session token).1 := by
      rw [lawful.log_handle]
      exact prefix_append _ _
    simp only
    split
    · rw [lawful.log_fail]
      exact added
    split
    · rw [lawful.log_setFrag]
      exact added
    · refine List.IsPrefix.trans ?_ (ih _ _)
      rw [lawful.log_setFrag]
      exact added

lemma Channel.Lawful.receive_token {fuel : Nat}
    {session : Session} {packet rest : Bytes} {frag : Frag} {token : Token}
    (step : channel.next session (channel.frag session) packet = .token frag token rest)
    (used : rest.length < packet.length)
    (clean : ∀ entry ∈ log (channel.receive (fuel + 1) session packet), Clean entry) :
    Clean (record session token) ∧ channel.receive (fuel + 1) session packet =
      if rest = [] then channel.setFrag (channel.handle session token).1 frag
      else channel.receive fuel (channel.setFrag (channel.handle session token).1 frag) rest := by
  have unfolded : channel.receive (fuel + 1) session packet =
      if (channel.handle session token).2 = false then
        channel.fail (channel.handle session token).1 frag
      else if rest = [] ∨ packet.length ≤ rest.length then
        channel.setFrag (channel.handle session token).1 frag
      else channel.receive fuel (channel.setFrag (channel.handle session token).1 frag) rest := by
    rw [Channel.receive, step]
  have logged : log (channel.handle session token).1 <+:
      log (channel.receive (fuel + 1) session packet) := by
    rw [unfolded]
    split
    · exact (lawful.log_fail _ _).symm ▸ prefix_rfl
    split
    · exact (lawful.log_setFrag _ _).symm ▸ prefix_rfl
    · refine List.IsPrefix.trans ?_ (lawful.log_receive _ _ _)
      exact (lawful.log_setFrag _ _).symm ▸ prefix_rfl
  have cleanCall : Clean (record session token) := by
    apply clean
    apply logged.subset
    rw [lawful.log_handle]
    exact mem_append_right _ mem_cons_self
  have onward := lawful.goes_on session token cleanCall
  have more := Nat.not_le_of_lt used
  simp only [onward, more, or_false, Bool.true_eq_false, if_false] at unfolded
  exact ⟨cleanCall, unfolded⟩

section

variable (correct : ∀ session, inv session → Correct format (channel.next session))
include correct

/-- A packet that continues the stream hands on the messages that it completes. -/
lemma Channel.Lawful.receive_follows {fuel : Nat}
    {session : Session} {packet part : Bytes} {todo : List Bytes} (enough : packet.length ≤ fuel)
    (some : packet ≠ []) (isInv : inv session) (framed : ∀ message ∈ todo, format.IsMessage message)
    (rep : format.Rep (channel.frag session) part) (isRest : Frames.IsRest todo part)
    (front : part ++ packet <+: todo.flatten)
    (clean : ∀ entry ∈ log (channel.receive fuel session packet), Clean entry) :
    ∃ done rest left tokens records, todo = done ++ rest ∧
      part ++ packet = done.flatten ++ left ∧ Frames.IsRest rest left ∧
      format.Rep (channel.frag (channel.receive fuel session packet)) left ∧
      List.Forall₂ format.IsToken done tokens ∧ Recorded record tokens records ∧
      log (channel.receive fuel session packet) = log session ++ records ∧
      inv (channel.receive fuel session packet) := by
  induction fuel generalizing session packet part todo with
  | zero => exact absurd (eq_nil_of_length_eq_zero (Nat.le_zero.mp enough)) some
  | succ fuel ih =>
    cases todo with
    | nil =>
      have nothing := prefix_nil.mp front
      exact absurd (append_eq_nil_iff.mp nothing).2 some
    | cons message rest =>
      have isMessage := framed message mem_cons_self
      have short := isRest.isShort message rest rfl
      rw [flatten_cons] at front
      by_cases more : (part ++ packet).length < message.length
      · -- The message goes on in the next packet.
        have inside : part ++ packet <+: message :=
          prefix_of_prefix_length_le front (prefix_append _ _) (Nat.le_of_lt more)
        obtain ⟨after, step, repAfter⟩ :=
          (correct session isInv).part rep isMessage some inside more
        have result : channel.receive (fuel + 1) session packet =
            channel.setFrag session after := by
          rw [Channel.receive, step]
        rw [result, lawful.log_setFrag]
        refine ⟨[], message :: rest, part ++ packet, [], [], rfl, rfl, ⟨?_, ?_⟩,
          lawful.rep_setFrag isInv repAfter, .nil, .nil, (append_nil _).symm,
          lawful.inv_setFrag isInv repAfter⟩
        · rw [flatten_cons]
          exact front
        · intro first others same
          rw [List.cons.injEq] at same
          rw [← same.1]
          exact more
      have contained : message <+: part ++ packet :=
        prefix_of_prefix_length_le (prefix_append _ _) front (Nat.not_lt.mp more)
      obtain ⟨after, token, step, isToken, repAfter⟩ :=
        (correct session isInv).whole rep isMessage short contained
      obtain ⟨left, split⟩ := contained
      have lengths := congrArg List.length split
      simp only [length_append] at lengths
      rw [← split, drop_left] at step
      rw [← split, prefix_append_right_inj] at front
      obtain ⟨cleanCall, result⟩ := lawful.receive_token step (by omega) clean
      have invHandled := lawful.inv_handle session token isInv cleanCall
      have invAfter := lawful.inv_setFrag invHandled repAfter
      have repNext := lawful.rep_setFrag invHandled repAfter
      have framedRest : ∀ message ∈ rest, format.IsMessage message :=
        fun other mem => framed other (mem_cons_of_mem _ mem)
      have nextRest : Frames.IsRest rest [] := by
        refine ⟨⟨_, rfl⟩, ?_⟩
        rintro first others rfl
        have isFirst := framedRest first mem_cons_self
        exact length_pos_iff.mpr ((correct session isInv).some isFirst)
      by_cases used : left = []
      · rw [if_pos used] at result
        subst used
        rw [result, lawful.log_setFrag, lawful.log_handle]
        refine ⟨[message], rest, [], [token], [record session token], rfl, ?_, nextRest,
          repNext, .cons isToken .nil, .cons ⟨session, rfl⟩ .nil, rfl, invAfter⟩
        rw [flatten_singleton]
        exact split.symm
      rw [if_neg used] at result
      rw [result] at clean ⊢
      obtain ⟨done, rest', left', tokens, records, parts, bytes, isRest', rep', handed,
        recorded, logged, inv'⟩ := ih (by omega) used invAfter framedRest
          repNext nextRest front clean
      refine ⟨message :: done, rest', left', token :: tokens,
        record session token :: records, ?_, ?_, isRest', rep', .cons isToken handed,
        .cons ⟨session, rfl⟩ recorded, ?_, inv'⟩
      · rw [parts, cons_append]
      · rw [← split, flatten_cons, append_assoc, ← bytes, nil_append]
      · rw [logged, lawful.log_setFrag, lawful.log_handle, append_assoc, singleton_append]

/-- One packet goes on with the tokens of the messages and records them. -/
lemma Channel.Lawful.follows_receive {session : Session}
    {messages : List Bytes} {received packet : Bytes} {tokens : List Token} (some : packet ≠ [])
    (isInv : inv session) (framed : ∀ message ∈ messages, format.IsMessage message)
    (follows : Follows format messages received (channel.frag session) tokens)
    (front : received ++ packet <+: messages.flatten)
    (clean : ∀ entry ∈ log (channel.receive packet.length session packet), Clean entry) :
    ∃ more records, Follows format messages (received ++ packet)
        (channel.frag (channel.receive packet.length session packet)) (tokens ++ more) ∧
      Recorded record more records ∧
      log (channel.receive packet.length session packet) = log session ++ records ∧
      inv (channel.receive packet.length session packet) := by
  obtain ⟨done, todo, part, rfl, rfl, isRest, rep, handed⟩ := follows.split
  rw [flatten_append, append_assoc, prefix_append_right_inj] at front
  have framedTodo : ∀ message ∈ todo, format.IsMessage message :=
    fun message mem => framed message (mem_append_right _ mem)
  obtain ⟨done', rest, left, more, records, rfl, bytes, isRest', rep', handed', recorded, logged,
    inv'⟩ :=
    lawful.receive_follows correct (Nat.le_refl _) some isInv framedTodo rep isRest front clean
  refine ⟨more, records, ⟨done ++ done', rest, left, ?_, ?_, isRest', rep', ?_⟩, recorded, logged,
    inv'⟩
  · rw [append_assoc]
  · rw [append_assoc, bytes, flatten_append, append_assoc]
  · exact rel_append handed handed'

end

end

end Channel

/-! ## Two directions -/

/-- A packet of one of the two directions. -/
inductive Packet where
  | req (bytes : Bytes)
  | resp (bytes : Bytes)
  deriving DecidableEq, Repr

def Packet.bytes : Packet → Bytes
  | .req bytes => bytes
  | .resp bytes => bytes

/-- The bytes of the request packets. -/
def reqBytes : List Packet → Bytes
  | [] => []
  | .req bytes :: packets => bytes ++ reqBytes packets
  | .resp _ :: packets => reqBytes packets

/-- The bytes of the response packets. -/
def respBytes : List Packet → Bytes
  | [] => []
  | .req _ :: packets => respBytes packets
  | .resp bytes :: packets => bytes ++ respBytes packets

/-- A session with a channel for each direction and one log. -/
structure Duplex (Session ReqFrag RespFrag ReqToken RespToken Record : Type) where
  req : Channel Session ReqFrag ReqToken
  resp : Channel Session RespFrag RespToken
  reqFormat : Format ReqFrag ReqToken
  respFormat : Format RespFrag RespToken
  log : Session → List Record
  reqRecord : Session → ReqToken → Record
  respRecord : Session → RespToken → Record
  reqToken : Record → Option ReqToken
  respToken : Record → Option RespToken

section Duplex

variable {Session ReqFrag RespFrag ReqToken RespToken Record : Type}

/-- Two states of a session that differ in nothing that the channels work on. -/
structure Duplex.Same (duplex : Duplex Session ReqFrag RespFrag ReqToken RespToken Record)
    (left right : Session) : Prop where
  reqFrag : duplex.req.frag left = duplex.req.frag right
  respFrag : duplex.resp.frag left = duplex.resp.frag right
  log : duplex.log left = duplex.log right

lemma Duplex.Same.refl {duplex : Duplex Session ReqFrag RespFrag ReqToken RespToken Record}
    (session : Session) : duplex.Same session session :=
  ⟨rfl, rfl, rfl⟩

/-- Neither channel touches the other's fragment state, and while `inv` holds and the steps
meet `guard` the packets go to the channels. -/
structure Duplex.Lawful (duplex : Duplex Session ReqFrag RespFrag ReqToken RespToken Record)
    (step : Session → Packet → Session) (Clean : Record → Prop) (inv : Session → Prop)
    (guard : Session → Packet → Prop) : Prop where
  req : ∀ other, duplex.req.Lawful duplex.reqFormat duplex.log duplex.reqRecord Clean
    fun session => inv session ∧ duplex.resp.frag session = other
  resp : ∀ other, duplex.resp.Lawful duplex.respFormat duplex.log duplex.respRecord Clean
    fun session => inv session ∧ duplex.req.frag session = other
  reqToken_reqRecord : ∀ session token,
    duplex.reqToken (duplex.reqRecord session token) = some token
  respToken_reqRecord : ∀ session token,
    duplex.respToken (duplex.reqRecord session token) = none
  reqToken_respRecord : ∀ session token,
    duplex.reqToken (duplex.respRecord session token) = none
  respToken_respRecord : ∀ session token,
    duplex.respToken (duplex.respRecord session token) = some token
  req_correct : ∀ {session bytes}, inv session → guard session (.req bytes) →
    ∀ later, inv later → duplex.resp.frag later = duplex.resp.frag session →
      Correct duplex.reqFormat (duplex.req.next later)
  resp_correct : ∀ {session bytes}, inv session → guard session (.resp bytes) →
    ∀ later, inv later → duplex.req.frag later = duplex.req.frag session →
      Correct duplex.respFormat (duplex.resp.next later)
  step_req : ∀ {session bytes}, inv session → guard session (.req bytes) →
    ∃ entered, duplex.Same entered session ∧ inv entered ∧
      step session (.req bytes) = duplex.req.receive bytes.length entered bytes
  step_resp : ∀ {session bytes}, inv session → guard session (.resp bytes) →
    ∃ entered, duplex.Same entered session ∧ inv entered ∧
      step session (.resp bytes) = duplex.resp.receive bytes.length entered bytes
  log_step : ∀ session packet, duplex.log session <+: duplex.log (step session packet)

variable {duplex : Duplex Session ReqFrag RespFrag ReqToken RespToken Record}
  {step : Session → Packet → Session} {Clean : Record → Prop} {inv : Session → Prop}
  {guard : Session → Packet → Prop}

lemma Recorded.filterMap_eq {Token Other : Type} {record : Session → Token → Record}
    {tokens : List Token} {records : List Record} {tokenOf : Record → Option Other}
    {image : Token → Option Other} (recorded : Recorded record tokens records)
    (known : ∀ session token, tokenOf (record session token) = image token) :
    records.filterMap tokenOf = tokens.filterMap image := by
  induction recorded with
  | nil => rfl
  | cons entry _ ih =>
    obtain ⟨session, rfl⟩ := entry
    rw [filterMap_cons, filterMap_cons, known, ih]

lemma Duplex.Lawful.log_run (lawful : duplex.Lawful step Clean inv guard) (session : Session)
    (packets : List Packet) :
    duplex.log session <+: duplex.log (Machine.run step session packets) := by
  induction packets generalizing session with
  | nil => exact prefix_rfl
  | cons packet packets ih =>
    exact (lawful.log_step session packet).trans (ih _)

/-- Both receivers of a session follow their streams. -/
structure Duplex.FollowsBoth (duplex : Duplex Session ReqFrag RespFrag ReqToken RespToken Record)
    (reqs resps : List Bytes) (reqReceived respReceived : Bytes) (session : Session) : Prop where
  req : Follows duplex.reqFormat reqs reqReceived (duplex.req.frag session)
    ((duplex.log session).filterMap duplex.reqToken)
  resp : Follows duplex.respFormat resps respReceived (duplex.resp.frag session)
    ((duplex.log session).filterMap duplex.respToken)

variable {reqs resps : List Bytes}

variable {session : Session} {reqReceived respReceived : Bytes}

lemma Duplex.Lawful.followsBoth_req (lawful : duplex.Lawful step Clean inv guard)
    (framed : ∀ message ∈ reqs, duplex.reqFormat.IsMessage message)
    {bytes : Bytes} (some : bytes ≠ []) (isInv : inv session) (guarded : guard session (.req bytes))
    (follows : duplex.FollowsBoth reqs resps reqReceived respReceived session)
    (front : reqReceived ++ bytes <+: reqs.flatten)
    (clean : ∀ entry ∈ duplex.log (step session (.req bytes)), Clean entry) :
    duplex.FollowsBoth reqs resps (reqReceived ++ bytes) respReceived
      (step session (.req bytes)) ∧ inv (step session (.req bytes)) := by
  obtain ⟨entered, asBefore, isInvEntered, result⟩ := lawful.step_req isInv guarded
  rw [result] at clean ⊢
  obtain ⟨more, records, next, recorded, logged, inv', same⟩ :=
    (lawful.req (duplex.resp.frag session)).follows_receive
      (fun later holds => lawful.req_correct isInv guarded later holds.1 holds.2)
      some ⟨isInvEntered, asBefore.respFrag⟩ framed (asBefore.reqFrag ▸ follows.req) front clean
  rw [asBefore.log] at logged
  refine ⟨⟨?_, ?_⟩, inv'⟩
  · rw [logged, filterMap_append, recorded.filterMap_eq lawful.reqToken_reqRecord, filterMap_some]
    exact next
  · rw [logged, filterMap_append, recorded.filterMap_eq lawful.respToken_reqRecord,
      filterMap_none, append_nil, same]
    exact follows.resp

lemma Duplex.Lawful.followsBoth_resp (lawful : duplex.Lawful step Clean inv guard)
    (framed : ∀ message ∈ resps, duplex.respFormat.IsMessage message)
    {bytes : Bytes} (some : bytes ≠ []) (isInv : inv session)
    (guarded : guard session (.resp bytes))
    (follows : duplex.FollowsBoth reqs resps reqReceived respReceived session)
    (front : respReceived ++ bytes <+: resps.flatten)
    (clean : ∀ entry ∈ duplex.log (step session (.resp bytes)), Clean entry) :
    duplex.FollowsBoth reqs resps reqReceived (respReceived ++ bytes)
      (step session (.resp bytes)) ∧ inv (step session (.resp bytes)) := by
  obtain ⟨entered, asBefore, isInvEntered, result⟩ := lawful.step_resp isInv guarded
  rw [result] at clean ⊢
  obtain ⟨more, records, next, recorded, logged, inv', same⟩ :=
    (lawful.resp (duplex.req.frag session)).follows_receive
      (fun later holds => lawful.resp_correct isInv guarded later holds.1 holds.2)
      some ⟨isInvEntered, asBefore.reqFrag⟩ framed (asBefore.respFrag ▸ follows.resp) front clean
  rw [asBefore.log] at logged
  refine ⟨⟨?_, ?_⟩, inv'⟩
  · rw [logged, filterMap_append, recorded.filterMap_eq lawful.reqToken_respRecord,
      filterMap_none, append_nil, same]
    exact follows.req
  · rw [logged, filterMap_append, recorded.filterMap_eq lawful.respToken_respRecord, filterMap_some]
    exact next

section

variable (lawful : duplex.Lawful step Clean inv guard)
  (framedReqs : ∀ message ∈ reqs, duplex.reqFormat.IsMessage message)
  (framedResps : ∀ message ∈ resps, duplex.respFormat.IsMessage message) {packets : List Packet}
  (some : ∀ packet ∈ packets, packet.bytes ≠ []) (isInv : inv session)
  (guarded : Machine.Guarded step guard session packets)
include lawful framedReqs framedResps some isInv guarded

/-- Both directions follow their messages in every run. -/
lemma Duplex.Lawful.followsBoth_run
    (follows : duplex.FollowsBoth reqs resps reqReceived respReceived session)
    (frontReqs : reqReceived ++ reqBytes packets <+: reqs.flatten)
    (frontResps : respReceived ++ respBytes packets <+: resps.flatten)
    (clean : ∀ entry ∈ duplex.log (Machine.run step session packets), Clean entry) :
    duplex.FollowsBoth reqs resps (reqReceived ++ reqBytes packets)
      (respReceived ++ respBytes packets) (Machine.run step session packets) := by
  induction packets generalizing session reqReceived respReceived with
  | nil =>
    rw [reqBytes, respBytes, append_nil, append_nil]
    exact follows
  | cons packet packets ih =>
    obtain ⟨now, later⟩ := guarded
    rw [forall_mem_cons] at some
    rw [Machine.run_cons] at clean ⊢
    have cleanStep : ∀ entry ∈ duplex.log (step session packet), Clean entry :=
      fun entry mem => clean entry ((lawful.log_run _ _).subset mem)
    cases packet with
    | req bytes =>
      rw [reqBytes, ← append_assoc] at frontReqs ⊢
      rw [respBytes] at frontResps ⊢
      obtain ⟨follows', inv'⟩ := lawful.followsBoth_req framedReqs some.1 isInv now follows
        ((prefix_append _ _).trans frontReqs) cleanStep
      exact ih some.2 inv' later follows' frontReqs frontResps clean
    | resp bytes =>
      rw [respBytes, ← append_assoc] at frontResps ⊢
      rw [reqBytes] at frontReqs ⊢
      obtain ⟨follows', inv'⟩ := lawful.followsBoth_resp framedResps some.1 isInv now follows
        ((prefix_append _ _).trans frontResps) cleanStep
      exact ih some.2 inv' later follows' frontReqs frontResps clean

lemma Duplex.Lawful.handed_on (start : duplex.FollowsBoth reqs resps [] [] session)
    (allReqs : reqBytes packets = reqs.flatten) (allResps : respBytes packets = resps.flatten)
    (clean : ∀ entry ∈ duplex.log (Machine.run step session packets), Clean entry) :
    List.Forall₂ duplex.reqFormat.IsToken reqs
        ((duplex.log (Machine.run step session packets)).filterMap duplex.reqToken) ∧
      List.Forall₂ duplex.respFormat.IsToken resps
        ((duplex.log (Machine.run step session packets)).filterMap duplex.respToken) := by
  have follows := lawful.followsBoth_run framedReqs framedResps some isInv guarded start
    (allReqs ▸ prefix_rfl) (allResps ▸ prefix_rfl) clean
  exact ⟨follows.req.complete allReqs, follows.resp.complete allResps⟩

end

end Duplex

end Gyeeta.Reassembly
