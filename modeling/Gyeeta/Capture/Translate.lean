import Gyeeta.Capture.Provenance
import Mathlib.Tactic.Simps.Basic

/-!
# Translated sequence numbers

Adding a constant to all client numbers and another one to all server numbers of a connection
gives one that looks the same.  The parser compares numbers by their distance, except that 0 also
stands for "none", in the noted holes and in the test for the first packet of a handshake.  All
functions of the reorder code commute with the translation as long as it makes no number 0 and no
0 a number.
-/

namespace Gyeeta.Capture

open List

/-! ## Translations -/

/-- Add a number for each side. -/
def PerSide.add (pair offset : PerSide Seq) : PerSide Seq :=
  ⟨pair.cli + offset.cli, pair.ser + offset.ser⟩

@[simp] lemma PerSide.get_add (pair offset : PerSide Seq) (side : Side) :
    (pair.add offset).get side = pair.get side + offset.get side := by
  cases side <;> rfl

lemma PerSide.ext_get {α : Type} {left right : PerSide α}
    (same : ∀ side, left.get side = right.get side) : left = right := by
  cases left with
  | mk leftCli leftSer =>
    cases right with
    | mk rightCli rightSer =>
      rw [PerSide.mk.injEq]
      exact ⟨same .cli, same .ser⟩

/-- Translate a number that is 0 if there is none. -/
def mark (offset value : Seq) : Seq :=
  if value = 0 then 0 else value + offset

/-- The value is 0 before the translation if and only if it is 0 afterwards. -/
def Agrees (offset value : Seq) : Prop :=
  value = 0 ↔ value + offset = 0

instance (offset value : Seq) : Decidable (Agrees offset value) :=
  inferInstanceAs (Decidable (_ ↔ _))

@[simp] lemma mark_zero (offset : Seq) : mark offset 0#32 = 0#32 :=
  if_pos rfl

variable {offset value : Seq}

lemma mark_eq (agrees : Agrees offset value) :
    mark offset value = value + offset := by
  rw [mark]
  split
  next zero =>
    exact (agrees.mp zero).symm
  · rfl

lemma mark_eq_zero (agrees : value ≠ 0 → Agrees offset value) :
    mark offset value = 0 ↔ value = 0 := by
  rw [mark]
  split
  · simpa
  next nonzero =>
    exact (agrees nonzero).symm

/-- The packet with translated numbers. -/
@[simps]
def ParsePktHdr.translate (offset : PerSide Seq) (hdr : ParsePktHdr) : ParsePktHdr :=
  { hdr with nxtSeq := hdr.nxtSeq.add offset, startSeq := hdr.startSeq.add offset }

/-- The held packet with translated numbers. -/
def ReorderPktHdr.translate (offset : PerSide Seq) (pkt : ReorderPktHdr) : ReorderPktHdr :=
  { pkt with
    pooluniq := pkt.pooluniq.map (·.translate offset)
    startPktSeq := pkt.startPktSeq + offset.get pkt.dir.side
    ackSeq := pkt.ackSeq + offset.get pkt.dir.side.other }

/-- The reorder state with translated numbers. -/
def ReorderInfo.translate (offset : PerSide Seq) (info : ReorderInfo) : ReorderInfo :=
  { info with
    reorderList := info.reorderList.map (·.translate offset)
    expSeqStart := ⟨mark offset.cli info.expSeqStart.cli, mark offset.ser info.expSeqStart.ser⟩
    seenSeq := ⟨mark offset.cli info.seenSeq.cli, mark offset.ser info.seenSeq.ser⟩ }

/-- The shared counters with translated numbers. -/
@[simps]
def CommonProto.translate (offset : PerSide Seq) (common : CommonProto) : CommonProto :=
  { common with nxtSeq := common.nxtSeq.add offset }

/-- The session with translated numbers. -/
def SvcSession.translate (offset : PerSide Seq) (sess : SvcSession) : SvcSession :=
  { sess with
    common := sess.common.translate offset
    reorder := sess.reorder.translate offset }

/-- The call with translated numbers. -/
def ParseCall.translate (offset : PerSide Seq) (call : ParseCall) : ParseCall :=
  { call with hdr := call.hdr.translate offset }

/-- The recorded act with translated numbers. -/
def SessAct.translate (offset : PerSide Seq) : SessAct → SessAct
  | .made hdr => .made (hdr.translate offset)
  | .call parsed => .call (parsed.translate offset)

/-- The service with translated numbers, its record put behind an earlier one. -/
def SvcInfoCap.translate {σ : Type} (offset : PerSide Seq) (old : List SessAct)
    (svc : SvcInfoCap σ) : SvcInfoCap σ :=
  { svc with
    sessmap := svc.sessmap.map fun entry => (entry.1, entry.2.translate offset)
    parsed := svc.parsed.map (·.translate offset)
    acts := old ++ svc.acts.map (·.translate offset) }

/-- The context with translated numbers. -/
def Ctx.translate {σ : Type} (offset : PerSide Seq) (old : List SessAct) (ctx : Ctx σ) :
    Ctx σ where
  svc := ctx.svc.translate offset old
  key := ctx.key
  sess := ctx.sess.translate offset

/-- The event with translated numbers. -/
def SvcEvent.translate (offset : PerSide Seq) : SvcEvent → SvcEvent
  | .pkt hdr => .pkt (hdr.translate offset)
  | .timer tcurrusec => .timer tcurrusec

lemma ParsePktHdr.translate_zero (hdr : ParsePktHdr) : hdr.translate ⟨0, 0⟩ = hdr := by
  simp [ParsePktHdr.translate, PerSide.add]

lemma ParseCall.translate_zero : ParseCall.translate ⟨0, 0⟩ = id := by
  funext call
  rw [ParseCall.translate, ParsePktHdr.translate_zero]
  rfl

lemma SvcEvent.translate_zero : SvcEvent.translate ⟨0, 0⟩ = id := by
  funext event
  cases event with
  | pkt hdr => exact congrArg SvcEvent.pkt hdr.translate_zero
  | timer => rfl

/-! ## Parsers that do not look at the numbers -/

/-- The packet without its sequence numbers. -/
def ParsePktHdr.blind (hdr : ParsePktHdr) : ParsePktHdr :=
  { hdr with nxtSeq := ⟨0, 0⟩, startSeq := ⟨0, 0⟩ }

/-- The session without its expected numbers and its held packets. -/
def SvcSession.blind (sess : SvcSession) : SvcSession :=
  { sess with common := { sess.common with nxtSeq := ⟨0, 0⟩ }, reorder := .init }

/-- The protocol parsers read neither sequence numbers nor held packets. -/
structure SeqBlind {σ : Type} (ops : ProtoOps σ) : Prop where
  allocSess : ∀ proto sess hdr api,
    ops.allocSess proto sess hdr api = ops.allocSess proto sess.blind hdr.blind api
  handlePkt : ∀ proto sess hdr api,
    ops.handlePkt proto sess hdr api = ops.handlePkt proto sess.blind hdr.blind api
  handleSessionEnd : ∀ proto sess hdr api,
    ops.handleSessionEnd proto sess hdr api =
      ops.handleSessionEnd proto sess.blind hdr.blind api
  handleSslChange : ∀ proto sess hdr api,
    ops.handleSslChange proto sess hdr api =
      ops.handleSslChange proto sess.blind hdr.blind api

/-- What the translation must not do to a packet: turn 0 into a number or a number into
0.  The packet goes one way or the other. -/
structure Unmarked (offset : PerSide Seq) (hdr : ParsePktHdr) : Prop where
  start : ∀ side, Agrees (offset.get side) (hdr.startSeq.get side)
  next : ∀ side, Agrees (offset.get side) (hdr.nxtSeq.get side)
  dir : hdr.dir ≠ .unknown

lemma unmarked_zero {hdr : ParsePktHdr} (dir : hdr.dir ≠ .unknown) : Unmarked ⟨0, 0⟩ hdr := by
  refine ⟨fun side => ?_, fun side => ?_, dir⟩ <;> cases side <;> simp [Agrees, PerSide.get]

/-- The numbers that the session keeps agree with the translation. -/
structure View.Unmarked (offset : PerSide Seq) (view : View) : Prop where
  next : ∀ side, Agrees (offset.get side) (view.common.nxtSeq.get side)
  hole : ∀ side, view.reorder.expSeqStart.get side ≠ 0 →
    Agrees (offset.get side) (view.reorder.expSeqStart.get side) ∧
      Agrees (offset.get side) (view.reorder.seenSeq.get side)
  held : ∀ pkt ∈ view.reorder.reorderList, pkt.dir ≠ .unknown

variable {offset : PerSide Seq} {hdr : ParsePktHdr}

/-! ## The invariant along elementary steps -/

variable {common : CommonProto}

lemma agrees_updStats (plain : Capture.Unmarked offset hdr)
    (next : ∀ side, Agrees (offset.get side) (common.nxtSeq.get side)) (side : Side) :
    Agrees (offset.get side) ((common.updStats hdr).nxtSeq.get side) := by
  rcases Side.eq_or_eq_other side hdr.side with rfl | rfl
  · rw [CommonProto.updStats_nxtSeq_self]
    exact plain.next _
  · rw [CommonProto.updStats_nxtSeq_other]
    split
    · exact next _
    · exact plain.next _

lemma View.Unmarked.deliver {view : View} (unmarked : view.Unmarked offset)
    (plain : Capture.Unmarked offset hdr) (ends : Bool) :
    ((view.deliver hdr).endIf ends).Unmarked offset := by
  have next := agrees_updStats plain unmarked.next
  refine ⟨?_, ?_, ?_⟩
  · rw [View.endIf_common]
    exact next
  · rw [View.endIf_reorder, View.deliver]
    dsimp only
    split
    · intro side
      rw [ReorderInfo.setHeadInfo_expSeqStart, ReorderInfo.setHeadInfo_seenSeq]
      split
      · exact fun _ => ⟨next side, plain.start side⟩
      · exact fun nonzero => absurd rfl nonzero
    · exact unmarked.hole
  · rw [View.endIf_reorder, View.deliver_reorderList]
    exact unmarked.held

lemma View.unmarked_restart (view : View) (plain : Capture.Unmarked offset hdr) :
    (view.restart hdr).Unmarked offset where
  next := plain.next
  hole := by
    intro side nonzero
    cases side <;> exact absurd rfl nonzero
  held := by
    intro pkt mem
    cases mem

lemma View.Unmarked.pushFront {view : View} (unmarked : view.Unmarked offset)
    (plain : Capture.Unmarked offset hdr) : (view.pushFront hdr).Unmarked offset where
  next := unmarked.next
  hole := by
    intro side
    rw [View.pushFront, ReorderInfo.setHeadInfo_expSeqStart, ReorderInfo.setHeadInfo_seenSeq]
    split
    · exact fun _ => ⟨unmarked.next side, plain.start side⟩
    · exact fun nonzero => absurd rfl nonzero
  held := by
    intro pkt mem
    rcases mem_cons.mp mem with rfl | mem
    · exact plain.dir
    · exact unmarked.held pkt mem

variable {before after : View}

lemma Step.unmarked (step : Step (Capture.Unmarked offset) before after)
    (unmarked : before.Unmarked offset) : after.Unmarked offset := by
  cases step with
  | note => exact { unmarked with }
  | parse given noted ends finRst => exact unmarked.deliver given ends
  | restart given newSess => exact View.unmarked_restart before given
  | reparse given newSess ends finRst =>
    exact (View.unmarked_restart before given).deliver given ends
  | hold given => exact unmarked.pushFront given
  | startHold given =>
    have pushed := unmarked.pushFront given
    exact { pushed with }
  | insert given found =>
    refine ⟨unmarked.next, unmarked.hole, ?_⟩
    intro pkt mem
    rcases mem_insertBehind found pkt mem with rfl | mem
    · exact given.dir
    · exact unmarked.held pkt mem
  | pop =>
    exact ⟨unmarked.next, unmarked.hole,
      fun pkt mem => unmarked.held pkt (mem_of_mem_tail mem)⟩
  | reorderEnd =>
    refine ⟨unmarked.next, ?_, unmarked.held⟩
    intro side nonzero
    cases side <;> exact absurd rfl nonzero
  | stamp => exact { unmarked with }
  | srcChange given ssl =>
    refine ⟨given.next, ?_, ?_⟩
    · intro side nonzero
      cases side <;> exact absurd rfl nonzero
    · intro pkt mem
      cases mem

lemma Steps.unmarked (steps : Steps (Capture.Unmarked offset) before after)
    (unmarked : before.Unmarked offset) : after.Unmarked offset := by
  induction steps with
  | refl => exact unmarked
  | tail _ step ih => exact step.unmarked ih

/-! ## The drop classification -/

lemma isTcpDrop_add (expSeq actSeq expAck actAck mine theirs : Seq) (isSyn isFinack : Bool) :
    isTcpDrop (expSeq + mine) (actSeq + mine) (expAck + theirs) (actAck + theirs) isSyn isFinack =
      isTcpDrop expSeq actSeq expAck actAck isSyn isFinack := by
  simp only [isTcpDrop, Serial.diff_add_right]

lemma tcpDropBytes_add (expSeq1 actSeq1 expSeq2 actSeq2 mine theirs : Seq)
    (type1 type2 : DropTypes) :
    tcpDropBytes (expSeq1 + mine) (actSeq1 + mine) (expSeq2 + theirs) (actSeq2 + theirs)
        type1 type2 = tcpDropBytes expSeq1 actSeq1 expSeq2 actSeq2 type1 type2 := by
  simp only [tcpDropBytes, Serial.diff_add_right]

section Fields

variable (offset : PerSide Seq) (info : ReorderInfo) (side : Side)

@[simp] lemma ParsePktHdr.translate_side (hdr : ParsePktHdr) :
    (hdr.translate offset).side = hdr.side := rfl

@[simp] lemma CommonProto.translate_isPktDrop (common : CommonProto) :
    (common.translate offset).isPktDrop = common.isPktDrop := rfl

@[simp] lemma ReorderInfo.translate_expSeqStart : (info.translate offset).expSeqStart.get side =
      mark (offset.get side) (info.expSeqStart.get side) := by
  cases side <;> rfl

@[simp] lemma ReorderInfo.translate_seenSeq : (info.translate offset).seenSeq.get side =
      mark (offset.get side) (info.seenSeq.get side) := by
  cases side <;> rfl

end Fields

@[simp] lemma pktDrops_translate (common : CommonProto) (hdr : ParsePktHdr) :
    Ctx.pktDrops (common.translate offset) (hdr.translate offset) = Ctx.pktDrops common hdr := by
  simp only [Ctx.pktDrops, ParsePktHdr.translate_side, CommonProto.translate_nxtSeq,
    ParsePktHdr.translate_startSeq, ParsePktHdr.translate_tcpflags, PerSide.get_add, isTcpDrop_add]

lemma updStats_translate (common : CommonProto) (hdr : ParsePktHdr) :
    (common.translate offset).updStats (hdr.translate offset) =
      (common.updStats hdr).translate offset := by
  have next : ((common.translate offset).updStats (hdr.translate offset)).nxtSeq =
      (common.updStats hdr).nxtSeq.add offset := by
    apply PerSide.ext_get
    intro side
    rw [PerSide.get_add]
    rcases Side.eq_or_eq_other side hdr.side with rfl | rfl
    · rw [CommonProto.updStats_nxtSeq_self common hdr]
      exact (CommonProto.updStats_nxtSeq_self _ (hdr.translate offset)).trans
        (PerSide.get_add _ _ _)
    rw [CommonProto.updStats_nxtSeq_other common hdr]
    refine (CommonProto.updStats_nxtSeq_other _ (hdr.translate offset)).trans ?_
    simp only [CommonProto.translate_dropType, ParsePktHdr.translate_side,
      CommonProto.translate_nxtSeq, ParsePktHdr.translate_nxtSeq, PerSide.get_add]
    split <;> rfl
  have bytes : ((common.translate offset).updStats (hdr.translate offset)).currDropBytes =
      (common.updStats hdr).currDropBytes := by
    simp only [CommonProto.updStats, CommonProto.translate_isPktDrop,
      ParsePktHdr.translate_side, CommonProto.translate_nxtSeq, ParsePktHdr.translate_startSeq,
      CommonProto.translate_dropType, PerSide.get_add, tcpDropBytes_add]
  calc (common.translate offset).updStats (hdr.translate offset)
      = { (common.updStats hdr) with
          nxtSeq := ((common.translate offset).updStats (hdr.translate offset)).nxtSeq
          currDropBytes :=
            ((common.translate offset).updStats (hdr.translate offset)).currDropBytes } := rfl
    _ = (common.updStats hdr).translate offset := by
        rw [next, bytes]
        rfl

lemma ReorderPktHdr.new_translate (hdr : ParsePktHdr) :
    ReorderPktHdr.new (hdr.translate offset) = (ReorderPktHdr.new hdr).translate offset := by
  simp [ReorderPktHdr.new, ReorderPktHdr.translate, ParsePktHdr.side]

lemma ReorderInfo.init_translate : ReorderInfo.init.translate offset = .init := by
  simp [ReorderInfo.init, ReorderInfo.translate]

lemma setHeadInfo_translate (info : ReorderInfo)
    (next : ∀ side, Agrees (offset.get side) (common.nxtSeq.get side))
    (plain : Unmarked offset hdr) :
    (info.translate offset).setHeadInfo (common.translate offset) (hdr.translate offset) =
      (info.setHeadInfo common hdr).translate offset := by
  have noted : ∀ (side : Side) {amount value : Seq}, Agrees amount value →
      (if common.dropType.get side = .dropSeen then value + amount else 0) =
        mark amount (if common.dropType.get side = .dropSeen then value else 0) := by
    intro side amount value agrees
    split
    · exact (mark_eq agrees).symm
    · rfl
  have exp : ((info.translate offset).setHeadInfo (common.translate offset)
      (hdr.translate offset)).expSeqStart =
        ((info.setHeadInfo common hdr).translate offset).expSeqStart := by
    apply PerSide.ext_get
    intro side
    rw [ReorderInfo.setHeadInfo_expSeqStart, ReorderInfo.translate_expSeqStart,
      ReorderInfo.setHeadInfo_expSeqStart, CommonProto.translate_dropType,
      CommonProto.translate_nxtSeq, PerSide.get_add, noted side (next side)]
  have seen : ((info.translate offset).setHeadInfo (common.translate offset)
      (hdr.translate offset)).seenSeq =
        ((info.setHeadInfo common hdr).translate offset).seenSeq := by
    apply PerSide.ext_get
    intro side
    rw [ReorderInfo.setHeadInfo_seenSeq, ReorderInfo.translate_seenSeq,
      ReorderInfo.setHeadInfo_seenSeq, CommonProto.translate_dropType,
      ParsePktHdr.translate_startSeq, PerSide.get_add, noted side (plain.start side)]
  calc (info.translate offset).setHeadInfo (common.translate offset) (hdr.translate offset)
      = { (info.setHeadInfo common hdr).translate offset with
          expSeqStart := ((info.translate offset).setHeadInfo (common.translate offset)
            (hdr.translate offset)).expSeqStart
          seenSeq := ((info.translate offset).setHeadInfo (common.translate offset)
            (hdr.translate offset)).seenSeq } := rfl
    _ = (info.setHeadInfo common hdr).translate offset := by rw [exp, seen]

/-! ## Delivery to the protocol parser -/

namespace Ctx

variable {σ : Type} {ops : ProtoOps σ} {ctx : Ctx σ} {old : List SessAct}

section Fields

variable (offset : PerSide Seq) (old : List SessAct) (ctx : Ctx σ)

@[simp] lemma translate_key : (ctx.translate offset old).key = ctx.key := rfl

@[simp] lemma translate_common :
    (ctx.translate offset old).sess.common = ctx.sess.common.translate offset := rfl

@[simp] lemma translate_reorder :
    (ctx.translate offset old).sess.reorder = ctx.sess.reorder.translate offset := rfl

@[simp] lemma translate_toDelete :
    (ctx.translate offset old).sess.toDelete = ctx.sess.toDelete := rfl

@[simp] lemma translate_proto : (ctx.translate offset old).sess.proto = ctx.sess.proto := rfl

@[simp] lemma translate_pvarproto :
    (ctx.translate offset old).sess.pvarproto = ctx.sess.pvarproto := rfl

@[simp] lemma translate_reorderActive :
    (ctx.translate offset old).sess.reorderActive = ctx.sess.reorderActive := by
  simp [SvcSession.reorderActive, ReorderInfo.isActive, ReorderInfo.translate]

@[simp] lemma translate_isDropNewSess :
    (ctx.translate offset old).isDropNewSess = ctx.isDropNewSess := rfl

@[simp] lemma translate_reorderList : (ctx.sess.reorder.translate offset).reorderList =
      ctx.sess.reorder.reorderList.map (·.translate offset) := rfl

end Fields

lemma countDrops_translate (ctx : Ctx σ) :
    (ctx.translate offset old).countDrops = ctx.countDrops.translate offset old := by
  rw [countDrops, countDrops, translate_common, CommonProto.translate_isPktDrop]
  split <;> rfl

lemma updStats_translate
    (unmarked : ctx.view.Unmarked offset) (plain : Capture.Unmarked offset hdr) :
    (ctx.translate offset old).updStats (hdr.translate offset) =
      (ctx.updStats hdr).translate offset old := by
  have counted : ((ctx.translate offset old).recordCall (hdr.translate offset)).modifyCommon
      (·.updStats (hdr.translate offset)) =
        ((ctx.recordCall hdr).modifyCommon (·.updStats hdr)).translate offset old := by
    have common := @Capture.updStats_translate offset ctx.sess.common hdr
    simp only [recordCall, modifyCommon, translate, SvcInfoCap.translate, SvcSession.translate,
      common, map_append, map_cons, map_nil, append_assoc]
    rfl
  have head := setHeadInfo_translate ctx.sess.reorder (agrees_updStats plain unmarked.next) plain
  simp only [updStats, counted, translate_toDelete, translate_reorderActive]
  split
  · exact congrArg (fun info => { ((ctx.recordCall hdr).modifyCommon
      (·.updStats hdr)).translate offset old with
        sess := { (((ctx.recordCall hdr).modifyCommon (·.updStats hdr)).translate offset
          old).sess with reorder := info } }) head
  · rfl

section Blind

variable (blind : SeqBlind ops) (ctx : Ctx σ) (hdr : ParsePktHdr)
include blind

lemma allocProtoSess_translate :
    (ctx.translate offset old).allocProtoSess ops (hdr.translate offset) =
      Prod.map id (Ctx.translate offset old) (ctx.allocProtoSess ops hdr) := by
  have same : ops.allocSess (ctx.translate offset old).sess.proto (ctx.translate offset old).sess
      (hdr.translate offset) (ctx.translate offset old).svc.api =
        ops.allocSess ctx.sess.proto ctx.sess hdr ctx.svc.api :=
    (blind.allocSess _ _ _ _).trans
      (blind.allocSess ctx.sess.proto ctx.sess hdr ctx.svc.api).symm
  rw [allocProtoSess, same, allocProtoSess]
  split <;> rfl

lemma handleProtoPkt_translate :
    (ctx.translate offset old).handleProtoPkt ops (hdr.translate offset) =
      Prod.map id (Ctx.translate offset old) (ctx.handleProtoPkt ops hdr) := by
  have same : ops.handlePkt (ctx.translate offset old).sess.proto (ctx.translate offset old).sess
      (hdr.translate offset) (ctx.translate offset old).svc.api =
        ops.handlePkt ctx.sess.proto ctx.sess hdr ctx.svc.api :=
    (blind.handlePkt _ _ _ _).trans
      (blind.handlePkt ctx.sess.proto ctx.sess hdr ctx.svc.api).symm
  rw [handleProtoPkt, same, handleProtoPkt, translate_proto, translate_pvarproto]
  by_cases handled : ctx.sess.proto.isHandled = true ∧
      ctx.sess.pvarproto = .sess ctx.sess.proto true
  · rw [if_pos handled, if_pos handled]
    rcases ops.handlePkt ctx.sess.proto ctx.sess hdr ctx.svc.api with ⟨result, api⟩
    cases result with
    | none => rfl
    | some newProto =>
      dsimp only
      rw [ParsePktHdr.translate_dir, ParsePktHdr.translate_tcpflags]
      by_cases switched : hdr.dir = .inbound ∧ (!hdr.tcpflags.isFinRst) = true ∧
          ((ctx.sess.proto = .http1 ∧ newProto = .http2) ∨
            (ctx.sess.proto = .http2 ∧ newProto = .http1))
      · rw [if_pos switched, if_pos switched]
        exact allocProtoSess_translate blind
          (({ ctx.setApi api with sess := { ctx.sess with proto := newProto } } : Ctx σ).setApi
            (ops.destroy ctx.sess.proto api)) hdr
      · rw [if_neg switched, if_neg switched]
        rfl
  · rw [if_neg handled, if_neg handled]
    rfl

lemma handleFinRst_translate :
    (ctx.translate offset old).handleFinRst ops (hdr.translate offset) =
      (ctx.handleFinRst ops hdr).translate offset old := by
  have same : ops.handleSessionEnd (ctx.setToDelete true).sess.proto
      ((ctx.setToDelete true).translate offset old).sess (hdr.translate offset) ctx.svc.api =
        ops.handleSessionEnd (ctx.setToDelete true).sess.proto (ctx.setToDelete true).sess hdr
          ctx.svc.api :=
    (blind.handleSessionEnd _ _ _ _).trans
      (blind.handleSessionEnd _ (ctx.setToDelete true).sess hdr ctx.svc.api).symm
  have marked : (ctx.translate offset old).setToDelete true =
      (ctx.setToDelete true).translate offset old := rfl
  rw [handleFinRst, handleFinRst, marked, translate_proto, translate_pvarproto]
  split
  · exact congrArg (fun api => ((ctx.setToDelete true).setApi api).translate offset old) same
  · rfl

lemma openProto_translate :
    (ctx.translate offset old).openProto ops (hdr.translate offset) =
      Prod.map id (Ctx.translate offset old) (ctx.openProto ops hdr) := by
  rw [openProto, openProto, translate_pvarproto, translate_proto]
  by_cases opens : ctx.sess.pvarproto = .monostate ∧ ctx.sess.proto.isHandled = true
  · rw [if_pos opens, if_pos opens]
    exact allocProtoSess_translate blind ctx hdr
  · rw [if_neg opens, if_neg opens]
    rfl

lemma parseData_translate :
    (ctx.translate offset old).parseData ops (hdr.translate offset) =
      Prod.map id (Ctx.translate offset old) (ctx.parseData ops hdr) := by
  simp only [parseData, ParsePktHdr.translate_datalen, countDrops_translate]
  split
  · exact handleProtoPkt_translate blind _ hdr
  · rfl

lemma callProto_translate :
    (ctx.translate offset old).callProto ops (hdr.translate offset) =
      Prod.map id (Ctx.translate offset old) (ctx.callProto ops hdr) := by
  rw [callProto, callProto, translate_pvarproto, ParsePktHdr.translate_datalen,
    ParsePktHdr.translate_tcpflags, openProto_translate blind]
  by_cases idle : ctx.sess.pvarproto = .monostate ∧ hdr.datalen = 0
  · rw [if_pos idle, if_pos idle]
    by_cases ends : hdr.tcpflags.isFinRst = true
    · rw [if_pos ends, if_pos ends]
      rfl
    · rw [if_neg ends, if_neg ends]
      rfl
  rw [if_neg idle, if_neg idle]
  rcases ctx.openProto ops hdr with ⟨opened, next⟩
  cases opened with
  | false => rfl
  | true =>
    simp only [Prod.map, id_eq, parseData_translate blind]
    rcases next.parseData ops hdr with ⟨parsed, last⟩
    cases parsed with
    | false => rfl
    | true =>
      simp only [handleFinRst_translate blind]
      split <;> rfl

end Blind

lemma doProtoParse_translate (blind : SeqBlind ops)
    (unmarked : ctx.view.Unmarked offset) (plain : Capture.Unmarked offset hdr) :
    (ctx.translate offset old).doProtoParse ops (hdr.translate offset) =
      Prod.map id (Ctx.translate offset old) (ctx.doProtoParse ops hdr) := by
  simp only [doProtoParse, updStats_translate unmarked plain, translate_toDelete]
  split
  · rfl
  · exact callProto_translate blind _ hdr

end Ctx

end Gyeeta.Capture
