import Gyeeta.Capture.Steps
import Gyeeta.Lib.Run

/-!
# A service under capture

The parser thread of a service handles the packets that the capture thread sends it and, every
few seconds, looks for sessions that have held packets for too long.  Either kind of event works
on sessions one at a time.
-/

namespace Gyeeta.Capture

/-! ## Captured headers -/

/-- The fields of `GY_TCP_HDR` that the header of a packet is made from. -/
structure TcpHdr where
  seq : Seq
  ackSeq : Seq
  urgPtr : BitVec 16
  tcpflags : TcpFlags
  deriving DecidableEq, Repr

def TcpHdr.nextExpectedSrcSeq (tcp : TcpHdr) (dataLen : Nat) : Seq :=
  tcp.seq + BitVec.ofNat 32 dataLen + tcp.urgPtr.setWidth 32 +
    (if tcp.tcpflags.syn then 1 else 0)

def setApiMsghdr (cli : IpPort) (tcp : TcpHdr) (caplen tvPkt : Nat) (dir : DirPacket) :
    ParsePktHdr where
  tvUsec := tvPkt
  cli := cli
  datalen := caplen
  nxtSeq := .mk' dir.side (tcp.nextExpectedSrcSeq caplen) tcp.ackSeq
  startSeq := .mk' dir.side tcp.seq tcp.ackSeq
  tcpflags := tcp.tcpflags
  dir := dir
  src := .pcap

/-- Fragment `index` of `nfrag` of a packet that `send_pkt_to_parser` splits, with
`nbytes` bytes after the first `nbytesdone`.  The source adds the flag bit of a `SYN`,
which is two. -/
def fragHdr (msghdr : ParsePktHdr) (nfrag index nbytesdone nbytes : Nat) : ParsePktHdr :=
  let syn := msghdr.tcpflags.syn && index = 0
  let start := msghdr.startSeq.get msghdr.side + BitVec.ofNat 32 nbytesdone
  { msghdr with
    tcpflags :=
      { syn := syn
        fin := msghdr.tcpflags.fin && index + 1 = nfrag
        rst := msghdr.tcpflags.rst && index + 1 = nfrag }
    datalen := nbytes
    startSeq := msghdr.startSeq.set msghdr.side start
    nxtSeq := msghdr.nxtSeq.set msghdr.side
      (start + BitVec.ofNat 32 nbytes + (if syn then 2 else 0)) }

/-- What the parser relies on in a header: the numbers of the sender's direction span the packet,
and those of the other direction are both the acknowledged number.  Lengths and urgent pointer
are 16-bit numbers, so the bound on the span is generous. -/
structure FromNetwork (hdr : ParsePktHdr) : Prop where
  src : hdr.src = .pcap
  own : ∃ span < 2 ^ 30,
    hdr.nxtSeq.get hdr.side = hdr.startSeq.get hdr.side + BitVec.ofNat 32 span
  ack : hdr.nxtSeq.get hdr.side.other = hdr.startSeq.get hdr.side.other

lemma fromNetwork_setApiMsghdr (cli : IpPort) (tcp : TcpHdr) {caplen : Nat}
    (short : caplen < 2 ^ 29) (tvPkt : Nat) (dir : DirPacket) :
    FromNetwork (setApiMsghdr cli tcp caplen tvPkt dir) := by
  have side : (setApiMsghdr cli tcp caplen tvPkt dir).side = dir.side := rfl
  have start : (setApiMsghdr cli tcp caplen tvPkt dir).startSeq =
      .mk' dir.side tcp.seq tcp.ackSeq := rfl
  have next : (setApiMsghdr cli tcp caplen tvPkt dir).nxtSeq =
      .mk' dir.side (tcp.nextExpectedSrcSeq caplen) tcp.ackSeq := rfl
  refine ⟨rfl, ⟨caplen + tcp.urgPtr.toNat + (if tcp.tcpflags.syn then 1 else 0), ?_, ?_⟩, ?_⟩
  · have urgSmall := tcp.urgPtr.isLt
    split <;> omega
  · have urgEq : tcp.urgPtr.setWidth 32 = BitVec.ofNat 32 tcp.urgPtr.toNat := by bv_omega
    rw [side, start, next, PerSide.get_mk'_self, PerSide.get_mk'_self,
      TcpHdr.nextExpectedSrcSeq, urgEq]
    split <;> simp [BitVec.ofNat_add, BitVec.add_assoc]
  · rw [side, start, next, PerSide.get_mk'_other, PerSide.get_mk'_other]

/-! ## The timer -/

/-- `tfirstusec_ < tcurrusec - GY_USEC_PER_SEC`, in unsigned 64-bit numbers. -/
def ReorderInfo.timedOut (info : ReorderInfo) (tcurrusec : Nat) : Bool :=
  info.tfirstusec < (tcurrusec + (2 ^ 64 - usecPerSec)) % 2 ^ 64

namespace SvcInfoCap

variable {σ : Type}

/-- The body of `chk_svc_reorders` for one session that is registered. -/
def chkReorder (ops : ProtoOps σ) (tcurrusec : Nat) (svc : SvcInfoCap σ) (key : IpPort) :
    SvcInfoCap σ :=
  match svc.findSess key with
  | none => svc
  | some sess =>
    if sess.reorderActive ∧ sess.reorder.timedOut tcurrusec then
      leaveSess ops ((Ctx.mk svc key sess).sendReorderToParser ops tcurrusec false)
    else
      svc

/-- `API_PARSE_HDLR::chk_svc_reorders`, for one service. -/
def chkSvcReorders (ops : ProtoOps σ) (tcurrusec : Nat) (svc : SvcInfoCap σ) : SvcInfoCap σ :=
  if svc.inReordermap then
    (svc.sessrdrmap.map (·.1)).foldl (chkReorder ops tcurrusec) svc
  else
    svc

end SvcInfoCap

/-- What the parser thread does for a service. -/
inductive SvcEvent where
  | pkt (hdr : ParsePktHdr)
  | timer (tcurrusec : Nat)
  deriving DecidableEq, Repr

namespace SvcInfoCap

variable {σ : Type}

/-- The parser thread handles one event. -/
def handle (ops : ProtoOps σ) (svc : SvcInfoCap σ) : SvcEvent → SvcInfoCap σ
  | .pkt hdr => (svc.parsePkt ops hdr).2
  | .timer tcurrusec => svc.chkSvcReorders ops tcurrusec

/-! ## Sessions of the service -/

lemma findSess_eq_of_sessmap {svc svc' : SvcInfoCap σ} (same : svc'.sessmap = svc.sessmap)
    (key : IpPort) : svc'.findSess key = svc.findSess key := by
  rw [findSess, same, findSess]

@[simp] lemma findSess_putSess (svc : SvcInfoCap σ) (key : IpPort) (sess : SvcSession) :
    (svc.putSess key sess).findSess key = some sess := by
  simp [findSess, putSess]

variable {other key : IpPort}

lemma find?_filter_ne (ne : other ≠ key) (sessmap : List (IpPort × SvcSession)) :
    (sessmap.filter (·.1 ≠ key)).find? (·.1 = other) = sessmap.find? (·.1 = other) := by
  induction sessmap with
  | nil => rfl
  | cons entry rest ih =>
    by_cases atKey : entry.1 = key
    · have notOther : ¬ entry.1 = other := fun atOther => ne (atOther.symm.trans atKey)
      simpa [atKey, notOther, ne.symm] using ih
    · by_cases atOther : entry.1 = other
      · simp [atOther, ne]
      · simpa [atKey, atOther] using ih

lemma findSess_putSess_ne (svc : SvcInfoCap σ) (ne : other ≠ key)
    (sess : SvcSession) : (svc.putSess key sess).findSess other = svc.findSess other := by
  have elsewhere : ¬ key = other := fun eq => ne eq.symm
  simp only [findSess, putSess, List.find?_cons, elsewhere, decide_false]
  rw [find?_filter_ne ne]

section

variable (ops : ProtoOps σ) (ctx : Ctx σ)
include ops ctx

/-- Destroying a session keeps what neither the end of reordering nor the flag for deletion
changes. -/
lemma field_destroySession {α : Type} (field : View → α)
    (ended : ∀ view : View, field { view.reorderEnd with toDelete := false } = field view)
    (kept : ∀ view : View, field { view with toDelete := false } = field view) :
    field (ctx.destroySession ops).view = field ctx.view := by
  rw [ctx.view_destroySession ops]
  split
  · exact ended ctx.view
  · exact kept ctx.view

lemma sessmap_destroySession : (ctx.destroySession ops).svc.sessmap = ctx.svc.sessmap :=
  field_destroySession ops ctx View.sessmap (fun _ => rfl) fun _ => rfl

lemma acts_destroySession : (ctx.destroySession ops).svc.acts = ctx.svc.acts :=
  field_destroySession ops ctx View.acts (fun _ => rfl) fun _ => rfl

lemma parsed_destroySession : (ctx.destroySession ops).svc.parsed = ctx.svc.parsed :=
  field_destroySession ops ctx View.parsed (fun _ => rfl) fun _ => rfl

lemma key_destroySession : (ctx.destroySession ops).key = ctx.key :=
  field_destroySession ops ctx View.key (fun _ => rfl) fun _ => rfl

lemma findSess_leaveSess : (leaveSess ops ctx).findSess ctx.key =
      if ctx.sess.toDelete then none else some ctx.sess := by
  rw [leaveSess]
  split
  · simp [findSess, eraseSess, key_destroySession]
  · rw [findSess_putSess]

lemma findSess_leaveSess_ne {other : IpPort}
    (ne : other ≠ ctx.key) : (leaveSess ops ctx).findSess other = ctx.svc.findSess other := by
  rw [leaveSess]
  split
  · simp only [findSess, eraseSess, key_destroySession, sessmap_destroySession]
    rw [find?_filter_ne ne]
  · rw [findSess_putSess_ne _ ne]

lemma acts_leaveSess : (leaveSess ops ctx).acts = ctx.svc.acts := by
  rw [leaveSess]
  split
  · exact acts_destroySession ops ctx
  · rfl

lemma parsed_leaveSess : (leaveSess ops ctx).parsed = ctx.svc.parsed := by
  rw [leaveSess]
  split
  · exact parsed_destroySession ops ctx
  · rfl

end

/-! ## What an event does -/

/-- A context for the session of a client: the one it has, or a new one. -/
structure Entered (avail : ParsePktHdr → Prop) (key : IpPort) (svc : SvcInfoCap σ)
    (ctx : Ctx σ) : Prop where
  keyEq : ctx.key = key
  sessmap : ctx.svc.sessmap = svc.sessmap
  parsed : ctx.svc.parsed = svc.parsed
  sess : svc.findSess key = some ctx.sess ∧ ctx.svc.acts = svc.acts ∨
    svc.findSess key = none ∧ ∃ hdr, avail hdr ∧ ctx.sess.common = .new hdr ∧
      ctx.sess.reorder = .init ∧ ctx.sess.toDelete = false ∧
      ctx.svc.acts = svc.acts ++ [.made hdr]

/-- Nothing happened to the sessions, or the session of one client was entered, went
through elementary steps and was left again. -/
inductive Worked (ops : ProtoOps σ) (avail : ParsePktHdr → Prop) (key : IpPort)
    (svc : SvcInfoCap σ) : SvcInfoCap σ → Prop where
  | idle {svc' : SvcInfoCap σ} (sessmap : svc'.sessmap = svc.sessmap)
      (acts : svc'.acts = svc.acts) (parsed : svc'.parsed = svc.parsed) :
      Worked ops avail key svc svc'
  | work {ctx after : Ctx σ} (entered : Entered avail key svc ctx)
      (steps : Steps avail ctx.view after.view) : Worked ops avail key svc (leaveSess ops after)

/-- The held packets of a client's session are available ones. -/
def HoldsOnly (svc : SvcInfoCap σ) (key : IpPort) (avail : ParsePktHdr → Prop) : Prop :=
  ∀ sess, svc.findSess key = some sess →
    ∀ pkt ∈ sess.reorder.reorderList, ∀ hdr ∈ pkt.pooluniq, avail hdr

variable {avail : ParsePktHdr → Prop} {key : IpPort}

variable {svc : SvcInfoCap σ}

lemma Entered.holdsOnly {ctx : Ctx σ} (entered : Entered avail key svc ctx)
    (holds : svc.HoldsOnly key avail) : ctx.view.HoldsOnly avail := by
  rcases entered.sess with ⟨found, -⟩ | ⟨-, hdr, -, -, fresh, -⟩
  · exact holds ctx.sess found
  · apply View.holdsOnly_of_nil
    exact congrArg ReorderInfo.reorderList fresh

lemma openSess_cases (svc : SvcInfoCap σ) {hdr : ParsePktHdr} (given : avail hdr)
    (absent : svc.findSess hdr.cli = none) :
    (∃ svc', svc.openSess hdr = (none, svc') ∧ svc'.sessmap = svc.sessmap ∧
        svc'.acts = svc.acts ∧ svc'.parsed = svc.parsed) ∨
      ∃ ctx : Ctx σ, Entered avail hdr.cli svc ctx ∧ svc.openSess hdr = (some ctx, ctx.svc) := by
  rw [openSess]
  split_ifs
  · exact .inl ⟨svc, rfl, rfl, rfl, rfl⟩
  · exact .inl ⟨svc, rfl, rfl, rfl, rfl⟩
  · exact .inl ⟨svc, rfl, rfl, rfl, rfl⟩
  · exact .inl ⟨svc, rfl, rfl, rfl, rfl⟩
  · exact .inl ⟨_, rfl, rfl, rfl, rfl⟩
  · exact .inr ⟨_, ⟨rfl, rfl, rfl, .inr ⟨absent, hdr, given, rfl, rfl, rfl, rfl⟩⟩, rfl⟩

section

variable (ops : ProtoOps σ)
include ops

variable {hdr : ParsePktHdr}

lemma parsePkt_found {sess : SvcSession} (found : svc.findSess hdr.cli = some sess) :
    svc.parsePkt ops hdr = parseIn ops (Ctx.mk svc hdr.cli sess) hdr := by
  rw [parsePkt, found]

variable {ctx : Ctx σ}

lemma parsePkt_opened (absent : svc.findSess hdr.cli = none)
    (opened : svc.openSess hdr = (some ctx, ctx.svc)) :
    svc.parsePkt ops hdr = parseIn ops ctx hdr := by
  rw [parsePkt, absent, opened]

lemma parsePkt_ignored {svc' : SvcInfoCap σ} (absent : svc.findSess hdr.cli = none)
    (ignored : svc.openSess hdr = (none, svc')) : svc.parsePkt ops hdr = (false, svc') := by
  rw [parsePkt, absent, ignored]

lemma parseIn_leaves (given : avail hdr) (holds : ctx.view.HoldsOnly avail) :
    ∃ after : Ctx σ, Steps avail ctx.view after.view ∧
      (parseIn ops ctx hdr).2 = leaveSess ops after := by
  rw [parseIn]
  split
  next ended =>
    refine ⟨ctx, .refl, ?_⟩
    rw [leaveSess, if_pos ended]
  next alive =>
  have stamped : ∃ stamped : Ctx σ, Steps avail ctx.view stamped.view ∧
      stamped.sess.toDelete = ctx.sess.toDelete ∧
      (if hdr.tcpflags.isFinRst then
        ctx.modifyCommon fun common => { common with tcloseUsec := hdr.tvUsec }
      else ctx) = stamped := by
    split
    · exact ⟨ctx.modifyCommon fun common => { common with tcloseUsec := hdr.tvUsec },
        .single (.stamp ctx.view ctx.view.common.tconnectUsec hdr.tvUsec), rfl, rfl⟩
    · exact ⟨ctx, .refl, rfl, rfl⟩
  obtain ⟨stamped, steps, toDelete, eq⟩ := stamped
  have left : leaveSess ops stamped = stamped.svc.putSess stamped.key stamped.sess := by
    rw [leaveSess, toDelete, if_neg alive]
  rw [eq]
  dsimp only
  split
  · exact ⟨stamped, steps, left.symm⟩
  · split
    · exact ⟨stamped, steps, left.symm⟩
    · have held := Steps.holdsOnly steps holds
      exact ⟨_, steps.trans (Ctx.steps_parseSessPkt ops stamped given held), rfl⟩

lemma worked_parseIn (given : avail hdr) (entered : Entered avail hdr.cli svc ctx)
    (holds : svc.HoldsOnly hdr.cli avail) :
    Worked ops avail hdr.cli svc (parseIn ops ctx hdr).2 := by
  obtain ⟨after, steps, eq⟩ := parseIn_leaves ops given (entered.holdsOnly holds)
  rw [eq]
  exact .work entered steps

lemma worked_parsePkt (svc : SvcInfoCap σ) (given : avail hdr)
    (holds : svc.HoldsOnly hdr.cli avail) :
    Worked ops avail hdr.cli svc (svc.parsePkt ops hdr).2 := by
  cases found : svc.findSess hdr.cli with
  | some sess =>
    rw [parsePkt_found ops found]
    exact worked_parseIn ops given ⟨rfl, rfl, rfl, .inl ⟨found, rfl⟩⟩ holds
  | none =>
    rcases openSess_cases svc given found with
      ⟨svc', ignored, sessmap, acts, parsed⟩ | ⟨ctx, entered, opened⟩
    · rw [parsePkt_ignored ops found ignored]
      exact .idle sessmap acts parsed
    · rw [parsePkt_opened ops found opened]
      exact worked_parseIn ops given entered holds

lemma worked_chkReorder (tcurrusec : Nat) (svc : SvcInfoCap σ) (holds : svc.HoldsOnly key avail) :
    Worked ops avail key svc (svc.chkReorder ops tcurrusec key) := by
  rw [chkReorder]
  split
  · exact .idle rfl rfl rfl
  next sess found =>
  split
  · exact .work ⟨rfl, rfl, rfl, .inl ⟨found, rfl⟩⟩
      (Ctx.steps_sendReorderToParser ops (Ctx.mk svc key sess) tcurrusec false (holds sess found))
  · exact .idle rfl rfl rfl

end

/-! ## A small service -/

/-- A service that has seen nothing yet. -/
def newService : SvcInfoCap Unit where
  proto := .http1
  svcSsl := .no
  stats := {}
  sessmap := []
  sessrdrmap := []
  inReordermap := false
  api := ()
  parsed := []

/-- A packet of one client, without flags unless it opens the connection. -/
def capturedPkt (dir : DirPacket) (seq ackSeq : Seq) (syn : Bool) (caplen : Nat) : ParsePktHdr :=
  setApiMsghdr ⟨1, 2⟩ ⟨seq, ackSeq, 0, ⟨syn, false, false⟩⟩ caplen 5 dir

end SvcInfoCap

end Gyeeta.Capture
