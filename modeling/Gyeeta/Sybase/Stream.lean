import Gyeeta.Sybase.Tds

/-!
# Sybase TDS reassembly

However the streams of TDS packets are cut into captured packets and interleaved, the handlers
are passed exactly the TDS packets of their direction, each with its header and payload.
-/

namespace Gyeeta.Sybase

open List Bytes

open Reassembly

/-- A TDS packet: the length field gives its length and the type is valid. -/
structure IsTds (tds : Bytes) : Prop where
  length_eq : tds.fieldBe 2 2 = tds.length
  minimum : 8 ≤ tds.length
  maximum : tds.length ≤ 65534
  type : tds.field 0 1 ≤ sybTypeMigrate

lemma isTds_iff (tds : Bytes) : IsTds tds ↔ tds.fieldBe 2 2 = tds.length ∧ 8 ≤ tds.length ∧
    tds.length ≤ 65534 ∧ tds.field 0 1 ≤ sybTypeMigrate :=
  ⟨fun isTds => ⟨isTds.length_eq, isTds.minimum, isTds.maximum, isTds.type⟩,
    fun ⟨length_eq, minimum, maximum, type⟩ => ⟨length_eq, minimum, maximum, type⟩⟩

instance (tds : Bytes) : Decidable (IsTds tds) :=
  decidable_of_iff' _ (isTds_iff tds)

/-- What the fragment state keeps of an unfinished TDS packet. -/
structure Keeps (frag : Frag) (part : Bytes) : Prop where
  nparsed : frag.nparsed = part.length
  kept : frag.buf.take part.length = part
  left : 8 ≤ part.length → frag.ign = .parse ∧ frag.nparsed + frag.nleft = part.fieldBe 2 2

/-- The bytes of the unfinished TDS packet. -/
structure Rep (frag : Frag) (pending : Bytes) : Prop where
  length_buf : frag.buf.length = sybFragbuflen
  bytes : match frag.pcapFrag with
    | false => pending = []
    | true => pending ≠ [] ∧ Keeps frag pending

/-- TDS packets are handed on as they are. -/
def tdsFormat : Format Frag Bytes where
  IsMessage := IsTds
  Rep := Rep
  IsToken := fun message token => message = token

/-! ## Headers -/

section Header

variable {message bytes : Bytes}

/-- The bytes agree with a TDS packet on its header. -/
def SameHeader (message bytes : Bytes) : Prop :=
  bytes.take 8 = message.take 8

lemma sameHeader_of_isPrefixOf (isTds : IsTds message) (enough : 8 ≤ bytes.length)
    (front : message <+: bytes ∨ bytes <+: message) : SameHeader message bytes := by
  have minimum := isTds.minimum
  rcases front with ⟨rest, rfl⟩ | ⟨rest, rfl⟩
  · rw [SameHeader, take_append_of_le_length minimum]
  · rw [SameHeader, take_append_of_le_length enough]

section

variable (same : SameHeader message bytes)
include same

lemma SameHeader.fieldBe_eq :
    bytes.fieldBe 2 2 = message.fieldBe 2 2 := by
  have first := fieldBe_take bytes (show 2 + 2 ≤ 8 by decide)
  have second := fieldBe_take message (show 2 + 2 ≤ 8 by decide)
  rw [← first, ← second, same]

lemma SameHeader.sybGetTdsLen_eq (isTds : IsTds message) :
    sybGetTdsLen bytes = some message.length := by
  have minimum := isTds.minimum
  have maximum := isTds.maximum
  simp only [sybGetTdsLen, same.fieldBe_eq, isTds.length_eq]
  rw [if_neg (by omega)]

lemma SameHeader.sybGetTdsType_eq (isTds : IsTds message) :
    sybGetTdsType bytes = some (message.field 0 1) := by
  have first := field_take bytes (show 0 + 1 ≤ 8 by decide)
  have second := field_take message (show 0 + 1 ≤ 8 by decide)
  rw [same, second] at first
  simp only [sybGetTdsType, ← first]
  rw [if_neg (Nat.not_lt.mpr isTds.type)]

end

end Header

lemma isTdsOfInterest_eq (tdstype : Nat) (isLoginComplete : Bool) (dir : Direction) :
    isTdsOfInterest tdstype isLoginComplete dir = .parse := by
  rw [isTdsOfInterest]
  split <;> rfl

/-! ## The rest of an unfinished TDS packet -/

section Body

variable {frag : Frag} {part packet message : Bytes}

section

variable (keeps : Keeps frag part) (isTds : IsTds message)
  (length_buf : frag.buf.length = sybFragbuflen) (isParse : frag.ign = .parse)
include keeps isTds length_buf isParse

lemma handlePrevBody_whole
    (nleft : frag.nparsed + frag.nleft = message.length) (contained : message <+: part ++ packet) :
    ∃ after, handlePrevBody frag packet =
        .token after message (packet.drop (message.length - part.length)) ∧ Rep after [] := by
  have maximum := isTds.maximum
  have nparsed := keeps.nparsed
  have long := contained.length_le
  rw [length_append] at long
  have sameParsed : frag.nparsed % 2 ^ 16 = part.length := by omega
  have sameLeft : frag.nleft % 2 ^ 16 = message.length - part.length := by omega
  have content : part ++ packet.take (message.length - part.length) = message := by
    have front := prefix_iff_eq_take.mp contained
    rw [take_append, take_of_length_le (by omega)] at front
    exact front.symm
  have copied : (packet.take (message.length - part.length)).length =
      message.length - part.length := by
    rw [length_take]
    omega
  -- The buffer starts with the whole TDS packet.
  have whole := take_write (packet.take (message.length - part.length))
    (show part.length ≤ frag.buf.length by rw [length_buf, sybFragbuflen]; omega)
  rw [copied, keeps.kept, content, Nat.add_sub_cancel' (by omega)] at whole
  have passed : tdsOf (frag.buf.write part.length (packet.take (message.length - part.length))) =
      message := by
    have header := fieldBe_take
      (frag.buf.write part.length (packet.take (message.length - part.length)))
      (show 2 + 2 ≤ message.length from Nat.le_trans (by decide) isTds.minimum)
    rw [whole, isTds.length_eq] at header
    rw [tdsOf, ← header, whole]
  simp only [handlePrevBody, sameParsed, sameLeft, Frag.copy, isParse, passed]
  rw [if_pos (by omega), if_neg (by omega)]
  refine ⟨_, rfl, ?_, rfl⟩
  rw [Frag.done, length_write]
  · exact length_buf
  · rw [copied, length_buf, sybFragbuflen]
    omega

lemma handlePrevBody_part
    (header : 8 ≤ part.length) (nleft : frag.nparsed + frag.nleft = message.length)
    (inside : part ++ packet <+: message) (short : (part ++ packet).length < message.length) :
    ∃ after, handlePrevBody frag packet = .more after ∧ Rep after (part ++ packet) := by
  have maximum := isTds.maximum
  have nparsed := keeps.nparsed
  have lengths : (part ++ packet).length = part.length + packet.length := length_append
  have sameParsed : frag.nparsed % 2 ^ 16 = part.length := by omega
  have sameLeft : frag.nleft % 2 ^ 16 = message.length - part.length := by omega
  have room : packet.length < sybFragbuflen := by
    rw [sybFragbuflen]
    omega
  have whole := take_write packet
    (show part.length ≤ frag.buf.length by rw [length_buf, sybFragbuflen]; omega)
  rw [keeps.kept, ← lengths] at whole
  have same := sameHeader_of_isPrefixOf isTds (show 8 ≤ (part ++ packet).length by omega)
    (.inr inside)
  simp only [handlePrevBody, sameParsed, sameLeft, Frag.copy, isParse]
  rw [if_neg (by omega), if_neg (by omega), if_pos room]
  refine ⟨_, rfl, ?_, ?_, ?_, whole, fun _ => ⟨rfl, ?_⟩⟩
  · rw [length_write]
    · exact length_buf
    · rw [length_buf, sybFragbuflen]
      omega
  · exact append_ne_nil_of_left_ne_nil (ne_nil_of_length_pos (by omega)) _
  · simp only
    omega
  · rw [same.fieldBe_eq, isTds.length_eq]
    simp only
    omega

end

end Body

/-! ## The step of the loop -/

section Next

variable {interest : Nat → Interest} {frag : Frag} {pending packet message : Bytes}

lemma handlePrevFrag_header (interested : ∀ tdstype, interest tdstype = .parse)
    (keeps : Keeps frag pending) (length_buf : frag.buf.length = sybFragbuflen)
    (short : pending.length < 8) (isTds : IsTds message) (enough : 8 ≤ (pending ++ packet).length)
    (front : message <+: pending ++ packet ∨ pending ++ packet <+: message) :
    ∃ header, handlePrevFrag interest frag packet =
        handlePrevBody header (packet.drop (8 - pending.length)) ∧
      Keeps header ((pending ++ packet).take 8) ∧ header.buf.length = sybFragbuflen ∧
      header.ign = .parse ∧ header.nparsed + header.nleft = message.length := by
  have minimum := isTds.minimum
  have nparsed := keeps.nparsed
  have lengths : (pending ++ packet).length = pending.length + packet.length :=
    length_append
  have sameParsed : frag.nparsed % 2 ^ 16 = pending.length := by omega
  have copied : (packet.take (8 - pending.length)).length = 8 - pending.length := by
    rw [length_take]
    omega
  have eight : ((pending ++ packet).take 8).length = 8 := by
    rw [length_take]
    omega
  have written := take_write (packet.take (8 - pending.length))
    (show pending.length ≤ frag.buf.length by rw [length_buf, sybFragbuflen]; omega)
  rw [copied, Nat.add_sub_cancel' (by omega), keeps.kept] at written
  have content : pending ++ packet.take (8 - pending.length) = (pending ++ packet).take 8 := by
    have first : pending.take 8 = pending := take_of_length_le (Nat.le_of_lt short)
    rw [take_append, first]
  rw [content] at written
  have same := sameHeader_of_isPrefixOf isTds enough front
  have sameBuf : SameHeader message
      (frag.buf.write pending.length (packet.take (8 - pending.length))) :=
    written.trans same
  have several : ¬ (pending.length + packet.length < 8 ∧ packet.length ≤ 8) := by omega
  simp only [handlePrevFrag, sameParsed]
  rw [if_pos short, if_neg several]
  rw [if_neg (by omega), sameBuf.sybGetTdsLen_eq isTds, sameBuf.sybGetTdsType_eq isTds]
  refine ⟨_, rfl, ⟨?_, ?_, fun _ => ⟨interested _, ?_⟩⟩, ?_, interested _, ?_⟩
  · exact eight.symm
  · rw [eight]
    exact written
  · rw [fieldBe_take _ (by decide), same.fieldBe_eq, isTds.length_eq]
    simp only
    omega
  · rw [length_write]
    · exact length_buf
    · rw [copied, length_buf, sybFragbuflen]
      omega
  · simp only
    omega

lemma drop_eight (short : pending.length < 8) :
    (pending ++ packet).take 8 ++ packet.drop (8 - pending.length) = pending ++ packet := by
  have behind : (pending ++ packet).drop 8 = packet.drop (8 - pending.length) := by
    rw [drop_append, drop_of_length_le (Nat.le_of_lt short), nil_append]
  rw [← behind, take_append_drop]

lemma handlePrevFrag_short (keeps : Keeps frag pending)
    (length_buf : frag.buf.length = sybFragbuflen) (some : packet ≠ [])
    (short : (pending ++ packet).length < 8) :
    ∃ after, handlePrevFrag interest frag packet = .more after ∧ Rep after (pending ++ packet) := by
  have nparsed := keeps.nparsed
  have lengths : (pending ++ packet).length = pending.length + packet.length :=
    length_append
  have sameParsed : frag.nparsed % 2 ^ 16 = pending.length := by omega
  have written := take_write packet
    (show pending.length ≤ frag.buf.length by rw [length_buf, sybFragbuflen]; omega)
  rw [keeps.kept, ← lengths] at written
  have few : pending.length + packet.length < 8 ∧ packet.length ≤ 8 := by omega
  simp only [handlePrevFrag, sameParsed]
  rw [if_pos (by omega), if_pos few, if_pos (by omega)]
  refine ⟨_, rfl, ?_, append_ne_nil_of_right_ne_nil _ some, ?_, ?_, ?_⟩
  · rw [take_length, length_write]
    · exact length_buf
    · rw [length_buf, sybFragbuflen]
      omega
  · simp only
    omega
  · simp only [take_length]
    exact written
  · intro long
    omega

lemma handleNewTds_part (interested : ∀ tdstype, interest tdstype = .parse)
    (length_buf : frag.buf.length = sybFragbuflen) (isTds : IsTds message) (some : packet ≠ [])
    (inside : packet <+: message) (short : packet.length < message.length) :
    ∃ after, handleNewTds interest frag packet = .more after ∧ Rep after packet := by
  have maximum := isTds.maximum
  rw [handleNewTds]
  by_cases few : packet.length < 8
  · have written := take_write packet (Nat.zero_le frag.buf.length)
    rw [take_zero, nil_append, Nat.zero_add] at written
    rw [if_pos few]
    refine ⟨_, rfl, ?_, some, rfl, written, fun enough => ?_⟩
    · rw [length_write]
      · exact length_buf
      · rw [length_buf, sybFragbuflen]
        omega
    · omega
  have same := sameHeader_of_isPrefixOf isTds (Nat.not_lt.mp few) (.inr inside)
  have eight : (packet.take 8).length = 8 := by
    rw [length_take]
    omega
  have room : 0 + (packet.take 8).length ≤ frag.buf.length := by
    rw [eight, length_buf, sybFragbuflen]
    decide
  have first := take_write (packet.take 8) (Nat.zero_le frag.buf.length)
  have firstLength := length_write (packet.take 8) room
  rw [take_zero, nil_append, Nat.zero_add, eight] at first
  have second := take_write (packet.drop 8)
    (show 8 ≤ (frag.buf.write 0 (packet.take 8)).length by
      rw [firstLength, length_buf]
      decide)
  rw [first, take_append_drop, length_drop, Nat.add_sub_cancel' (Nat.not_lt.mp few)] at second
  rw [if_neg few, same.sybGetTdsLen_eq isTds, same.sybGetTdsType_eq isTds]
  simp only
  rw [if_pos short]
  simp only [Frag.copy, interested]
  refine ⟨_, rfl, ?_, some, rfl, second, fun _ => ⟨rfl, ?_⟩⟩
  · rw [length_write]
    · exact firstLength.trans length_buf
    · rw [firstLength, length_buf, length_drop, sybFragbuflen]
      omega
  · rw [same.fieldBe_eq, isTds.length_eq]
    exact Nat.add_sub_cancel' (Nat.le_of_lt short)

/-- The fragment state stands for the unfinished TDS packet, however the stream is cut. -/
lemma nextTds_correct (interested : ∀ tdstype, interest tdstype = .parse) :
    Correct tdsFormat (nextTds interest) where
  some := by
    intro message isTds
    exact ne_nil_of_length_pos (Nat.lt_of_lt_of_le (by decide) isTds.minimum)
  whole := by
    intro frag pending packet message rep isTds short contained
    obtain ⟨length_buf, bytes⟩ := rep
    have minimum := isTds.minimum
    have long := contained.length_le
    rw [nextTds]
    cases fragmented : frag.pcapFrag with
    | false =>
      simp only [fragmented] at bytes
      subst bytes
      rw [nil_append] at contained long
      have same := sameHeader_of_isPrefixOf isTds (Nat.le_trans minimum long) (.inl contained)
      rw [if_neg Bool.false_ne_true, handleNewTds, if_neg (by omega),
        same.sybGetTdsLen_eq isTds, same.sybGetTdsType_eq isTds]
      simp only
      rw [if_neg (Nat.not_lt.mpr long), nil_append]
      exact ⟨frag.done, _, rfl, prefix_iff_eq_take.mp contained, length_buf, rfl⟩
    | true =>
      simp only [fragmented] at bytes
      obtain ⟨-, keeps⟩ := bytes
      rw [if_pos rfl]
      by_cases header : pending.length < 8
      · obtain ⟨frag', step, keeps', length_buf', isParse, nleft⟩ :=
          handlePrevFrag_header interested keeps length_buf header isTds (by omega)
            (.inl contained)
        have eight : ((pending ++ packet).take 8).length = 8 := by
          rw [length_take]
          omega
        obtain ⟨after, result, repAfter⟩ := handlePrevBody_whole keeps' isTds length_buf'
          isParse nleft ((drop_eight header).symm ▸ contained)
        refine ⟨after, message, ?_, rfl, repAfter⟩
        rw [step, result, eight, drop_drop, drop_append,
          drop_of_length_le (Nat.le_of_lt short), nil_append]
        congr 2
        omega
      · have nparsed := keeps.nparsed
        obtain ⟨isParse, nleft⟩ := keeps.left (Nat.not_lt.mp header)
        have maximum := isTds.maximum
        have same : pending.fieldBe 2 2 = message.length := by
          have front := prefix_of_prefix_length_le (prefix_append pending packet)
            contained (Nat.le_of_lt short)
          rw [(sameHeader_of_isPrefixOf isTds (Nat.not_lt.mp header) (.inr front)).fieldBe_eq,
            isTds.length_eq]
        obtain ⟨after, result, repAfter⟩ := handlePrevBody_whole keeps isTds length_buf isParse
          (nleft.trans same) contained
        refine ⟨after, message, ?_, rfl, repAfter⟩
        rw [handlePrevFrag, if_neg (by omega), result, drop_append,
          drop_of_length_le (Nat.le_of_lt short), nil_append]
  part := by
    intro frag pending packet message rep isTds some inside short
    obtain ⟨length_buf, bytes⟩ := rep
    rw [nextTds]
    cases fragmented : frag.pcapFrag with
    | false =>
      simp only [fragmented] at bytes
      subst bytes
      rw [if_neg Bool.false_ne_true]
      exact handleNewTds_part interested length_buf isTds some inside short
    | true =>
      simp only [fragmented] at bytes
      obtain ⟨-, keeps⟩ := bytes
      rw [if_pos rfl]
      by_cases enough : (pending ++ packet).length < 8
      · exact handlePrevFrag_short keeps length_buf some enough
      by_cases header : pending.length < 8
      · obtain ⟨frag', step, keeps', length_buf', isParse, nleft⟩ :=
          handlePrevFrag_header interested keeps length_buf header isTds
            (Nat.not_lt.mp enough) (.inr inside)
        have eight : 8 ≤ ((pending ++ packet).take 8).length := by
          rw [length_take]
          omega
        rw [← drop_eight header] at inside short ⊢
        obtain ⟨after, result, repAfter⟩ := handlePrevBody_part keeps' isTds length_buf'
          isParse eight nleft inside short
        exact ⟨after, step.trans result, repAfter⟩
      · have nparsed := keeps.nparsed
        have maximum := isTds.maximum
        rw [length_append] at short
        obtain ⟨isParse, nleft⟩ := keeps.left (Nat.not_lt.mp header)
        have same : pending.fieldBe 2 2 = message.length := by
          have front := (prefix_append pending packet).trans inside
          rw [(sameHeader_of_isPrefixOf isTds (Nat.not_lt.mp header) (.inr front)).fieldBe_eq,
            isTds.length_eq]
        rw [handlePrevFrag, if_neg (by omega)]
        exact handlePrevBody_part keeps isTds length_buf isParse (Nat.not_lt.mp header)
          (nleft.trans same) inside (by rw [length_append]; exact short)

end Next

/-! ## The session -/

/-- The byte order of the client is known and no packets are to be skipped. -/
structure Flags.Clear (flags : Flags) : Prop where
  noSkipTill : flags.skipTillNextreq = false
  noSkipTo : flags.skipToReqAfterResp = false
  knownOrder : flags.chkForTdsByteorder = 0

instance (flags : Flags) : Decidable flags.Clear :=
  decidable_of_iff (flags.skipTillNextreq = false ∧ flags.skipToReqAfterResp = false ∧
      flags.chkForTdsByteorder = 0)
    ⟨fun ⟨noSkipTill, noSkipTo, knownOrder⟩ => ⟨noSkipTill, noSkipTo, knownOrder⟩,
      fun clear => ⟨clear.noSkipTill, clear.noSkipTo, clear.knownOrder⟩⟩

/-- The handler accepted the TDS packet and set no flag. -/
def Call.Clean (call : Call) : Prop :=
  0 ≤ call.ret ∧ call.flags.Clear

instance (call : Call) : Decidable call.Clean :=
  inferInstanceAs (Decidable (_ ∧ _))

/-- The TDS packet of a call of `handle_pcap_tds_req`. -/
def Call.reqTds (call : Call) : Option Bytes :=
  match call.dir with
  | .inbound => some call.tds
  | .outbound => none

/-- The TDS packet of a call of `handle_pcap_tds_resp`. -/
def Call.respTds (call : Call) : Option Bytes :=
  match call.dir with
  | .inbound => none
  | .outbound => some call.tds

namespace Sessinfo

variable {handlers : Handlers} {sess : Sessinfo}

/-- The TDS packets that were passed to `handle_pcap_tds_req`. -/
def reqTds (sess : Sessinfo) : List Bytes :=
  sess.calls.filterMap Call.reqTds

/-- The TDS packets that were passed to `handle_pcap_tds_resp`. -/
def respTds (sess : Sessinfo) : List Bytes :=
  sess.calls.filterMap Call.respTds

/-- Packets are parsed and there is a buffer for the handler of the responses. -/
structure Parses (sess : Sessinfo) : Prop where
  clear : sess.flags.Clear
  length_buf : sess.respFrag.buf.length = sybFragbuflen

/-- Both directions of a session. -/
def duplex (handlers : Handlers) : Duplex Sessinfo Frag Frag Bytes Bytes Call where
  req := reqChannel handlers
  resp := respChannel handlers
  reqFormat := tdsFormat
  respFormat := tdsFormat
  log := calls
  reqRecord := reqCall handlers
  respRecord := respCall handlers
  reqToken := Call.reqTds
  respToken := Call.respTds

lemma reqChannel_lawful (other : Frag) :
    (reqChannel handlers).Lawful tdsFormat calls (reqCall handlers) Call.Clean
      fun sess => sess.Parses ∧ sess.respFrag = other where
  rep_setFrag := fun _ rep => rep
  log_setFrag := fun _ _ => rfl
  log_handle := fun _ _ => rfl
  log_fail := fun _ _ => rfl
  goes_on := fun _ _ clean => decide_eq_true clean.1
  inv_setFrag := fun holds _ => ⟨⟨holds.1.clear, holds.1.length_buf⟩, holds.2⟩
  inv_handle := fun _ _ holds clean => ⟨⟨clean.2, holds.1.length_buf⟩, holds.2⟩

lemma rep_setRespFrag {frag : Frag} {pending : Bytes} (parses : sess.Parses)
    (rep : Rep frag pending) : Rep (sess.setRespFrag frag).respFrag pending := by
  obtain ⟨length_buf, bytes⟩ := rep
  rw [setRespFrag]
  cases fragmented : frag.pcapFrag with
  | true =>
    rw [if_pos rfl]
    exact ⟨length_buf, bytes⟩
  | false =>
    simp only [fragmented] at bytes
    rw [if_neg Bool.false_ne_true]
    exact ⟨parses.length_buf, bytes⟩

lemma respChannel_lawful (other : Frag) :
    (respChannel handlers).Lawful tdsFormat calls (respCall handlers) Call.Clean
      fun sess => sess.Parses ∧ sess.reqFrag = other where
  rep_setFrag := fun holds rep => rep_setRespFrag holds.1 rep
  log_setFrag := fun _ _ => rfl
  log_handle := fun _ _ => rfl
  log_fail := fun _ _ => rfl
  goes_on := fun _ _ clean => decide_eq_true clean.1
  inv_setFrag := fun holds rep =>
    ⟨⟨holds.1.clear, (rep_setRespFrag holds.1 rep).length_buf⟩, holds.2⟩
  inv_handle := fun sess tds holds clean =>
    ⟨⟨clean.2, (handlers.respBuf sess.calls tds).length_eq⟩, holds.2⟩

lemma step_req {bytes : Bytes} (parses : sess.Parses) :
    step handlers sess (.req bytes) = (reqChannel handlers).receive bytes.length sess bytes := by
  have clear := parses.clear
  have same : { sess with flags := { sess.flags with skipTillNextreq := false } } = sess := by
    rw [← clear.noSkipTill]
  rw [step, handleRequestPkt, same]
  simp only
  rw [if_neg (by rw [clear.noSkipTo]; decide), if_neg (by rw [clear.knownOrder]; decide)]

lemma step_resp {bytes : Bytes} (parses : sess.Parses) : step handlers sess (.resp bytes) =
      (respChannel handlers).receive bytes.length sess bytes := by
  have clear := parses.clear
  rw [step, handleResponsePkt, if_neg (by rw [clear.noSkipTill]; decide),
    if_neg (by rw [clear.knownOrder]; decide), if_neg (by rw [clear.noSkipTo]; decide)]

lemma calls_handleDropPcapRespEom (sess : Sessinfo) (bytes : Bytes) :
    (sess.handleDropPcapRespEom bytes).calls = sess.calls := by
  simp only [handleDropPcapRespEom]
  split
  · rfl
  split
  · rfl
  split
  all_goals
    split
    · rfl
    · rfl

lemma calls_step (sess : Sessinfo) (packet : Packet) :
    sess.calls <+: (step handlers sess packet).calls := by
  cases packet with
  | req bytes =>
    rw [step, handleRequestPkt]
    simp only
    split
    · exact prefix_rfl
    split
    · exact prefix_rfl
    · exact (reqChannel_lawful sess.respFrag).log_receive bytes.length
        { sess with flags := { sess.flags with skipTillNextreq := false } } bytes
  | resp bytes =>
    rw [step, handleResponsePkt]
    split
    · exact prefix_rfl
    split
    · exact prefix_rfl
    split
    · exact (calls_handleDropPcapRespEom sess bytes).symm ▸ prefix_rfl
    · exact (respChannel_lawful sess.reqFrag).log_receive _ sess bytes

lemma duplex_lawful :
    (duplex handlers).Lawful (step handlers) Call.Clean Parses fun _ _ => True where
  req := reqChannel_lawful
  resp := respChannel_lawful
  reqToken_reqRecord := fun _ _ => rfl
  respToken_reqRecord := fun _ _ => rfl
  reqToken_respRecord := fun _ _ => rfl
  respToken_respRecord := fun _ _ => rfl
  req_correct := fun _ _ _ _ _ => nextTds_correct fun _ => isTdsOfInterest_eq _ _ _
  resp_correct := fun _ _ _ _ _ => nextTds_correct fun _ => isTdsOfInterest_eq _ _ _
  step_req := fun parses _ => ⟨_, .refl _, parses, Sessinfo.step_req parses⟩
  step_resp := fun parses _ => ⟨_, .refl _, parses, Sessinfo.step_resp parses⟩
  log_step := calls_step

/-- **TDS reassembly.**  In a session without drops whose byte order is known and in which no
skip flag is ever set, the handlers are passed exactly the TDS packets of their direction, for
every cut of the two streams into captured packets and every interleaving of these. -/
theorem tds_handed_on (handlers : Handlers) (reqBuf respBuf : FragBuf) (bo : ByteOrder)
    (isLoginComplete : Bool) (reqs resps : List Bytes) (packets : List Packet)
    (isReqs : ∀ tds ∈ reqs, IsTds tds) (isResps : ∀ tds ∈ resps, IsTds tds)
    (some : ∀ packet ∈ packets, packet.bytes ≠ [])
    (cutReqs : reqBytes packets = reqs.flatten) (cutResps : respBytes packets = resps.flatten)
    (clean : ∀ call ∈ (Machine.run (step handlers)
      (inStep reqBuf respBuf bo isLoginComplete) packets).calls, 0 ≤ call.ret ∧ call.flags.Clear) :
    (Machine.run (step handlers) (inStep reqBuf respBuf bo isLoginComplete) packets).reqTds = reqs ∧
      (Machine.run (step handlers) (inStep reqBuf respBuf bo isLoginComplete) packets).respTds =
        resps := by
  have filled : ∀ {list : List Bytes}, (∀ tds ∈ list, IsTds tds) → ∀ tds ∈ list, tds ≠ [] := by
    intro list isTds tds mem
    exact ne_nil_of_length_pos (Nat.lt_of_lt_of_le (by decide) (isTds tds mem).minimum)
  have start : (duplex handlers).FollowsBoth reqs resps [] []
      (inStep reqBuf respBuf bo isLoginComplete) := by
    constructor
    · apply Follows.start (filled isReqs)
      exact ⟨reqBuf.length_eq, rfl⟩
    · apply Follows.start (filled isResps)
      exact ⟨respBuf.length_eq, rfl⟩
  have parses : (inStep reqBuf respBuf bo isLoginComplete).Parses :=
    ⟨⟨rfl, rfl, rfl⟩, respBuf.length_eq⟩
  obtain ⟨handedReqs, handedResps⟩ := duplex_lawful.handed_on isReqs isResps some parses
    (.of_forall (fun _ _ => trivial) _ _) start cutReqs cutResps clean
  have sameReqs : List.Forall₂ Eq reqs _ := handedReqs
  have sameResps : List.Forall₂ Eq resps _ := handedResps
  rw [List.forall₂_eq_eq_eq] at sameReqs sameResps
  exact ⟨sameReqs.symm, sameResps.symm⟩

/-- A buffer that holds zeroes. -/
def zeroBuf : FragBuf where
  bytes := List.replicate sybFragbuflen 0
  length_eq := length_replicate

/-- Handlers that accept every TDS packet. -/
def accepting : Handlers where
  handlePcapTdsReq := fun _ _ => (0, (inStep zeroBuf zeroBuf .littleEndian true).flags)
  handlePcapTdsResp := fun _ _ => (0, (inStep zeroBuf zeroBuf .littleEndian true).flags)
  respBuf := fun _ _ => zeroBuf

/-- A request whose header and payload are cut, and two responses of which the first ends in
the packet where the second starts. -/
theorem cut_tds_handed_on :
    (Machine.run (step accepting) (inStep zeroBuf zeroBuf .littleEndian true)
        [.req [1, 1, 0], .req [11, 0, 0, 0, 0, 0x61], .resp [4, 0, 0, 9, 0, 0], .req [0x62, 0x63],
          .resp [0, 0, 0xfd, 4, 1, 0, 8, 0, 0], .resp [0, 0]]).reqTds =
        [[1, 1, 0, 11, 0, 0, 0, 0, 0x61, 0x62, 0x63]] ∧
      (Machine.run (step accepting) (inStep zeroBuf zeroBuf .littleEndian true)
        [.req [1, 1, 0], .req [11, 0, 0, 0, 0, 0x61], .resp [4, 0, 0, 9, 0, 0], .req [0x62, 0x63],
          .resp [0, 0, 0xfd, 4, 1, 0, 8, 0, 0], .resp [0, 0]]).respTds =
        [[4, 0, 0, 9, 0, 0, 0, 0, 0xfd], [4, 1, 0, 8, 0, 0, 0, 0]] :=
  tds_handed_on accepting zeroBuf zeroBuf .littleEndian true
    [[1, 1, 0, 11, 0, 0, 0, 0, 0x61, 0x62, 0x63]]
    [[4, 0, 0, 9, 0, 0, 0, 0, 0xfd], [4, 1, 0, 8, 0, 0, 0, 0]]
    [.req [1, 1, 0], .req [11, 0, 0, 0, 0, 0x61], .resp [4, 0, 0, 9, 0, 0], .req [0x62, 0x63],
      .resp [0, 0, 0xfd, 4, 1, 0, 8, 0, 0], .resp [0, 0]]
    (by decide) (by decide) (by decide) (by decide) (by decide) (by decide +kernel)

end Sessinfo

end Gyeeta.Sybase
