import Gyeeta.Capture.Translate

/-!
# Translation invariance

The reorder code and the parser thread of a service commute with a translation of the sequence
numbers, so runs on translated histories parse the same packets with the same drop flags.  The
value 0 breaks this where it stands for "none", as the last section shows.
-/

namespace Gyeeta.Capture

open List CommonProto

namespace Ctx

variable {σ : Type} {ops : ProtoOps σ} {ctx : Ctx σ} {hdr : ParsePktHdr} {old : List SessAct}
  {offset : PerSide Seq}

/-! ## Holding packets -/

lemma noteDrops_translate (ctx : Ctx σ) (hdr : ParsePktHdr) :
    (ctx.translate offset old).noteDrops (hdr.translate offset) =
      (ctx.noteDrops hdr).translate offset old := by
  rw [noteDrops, translate_common, pktDrops_translate]
  rfl

lemma setPktDrops_translate (ctx : Ctx σ) (hdr : ParsePktHdr) :
    (ctx.translate offset old).setPktDrops (hdr.translate offset) =
      Prod.map id (translate offset old) (ctx.setPktDrops hdr) := by
  rw [setPktDrops, setPktDrops, translate_common, pktDrops_translate, noteDrops_translate]
  split <;> rfl

lemma allocReorder_translate (ctx : Ctx σ) (hdr : ParsePktHdr) :
    (ctx.translate offset old).allocReorder ops (hdr.translate offset) =
      Prod.map (Option.map (ReorderPktHdr.translate offset)) (translate offset old)
        (ctx.allocReorder ops hdr) := by
  have api : (ctx.translate offset old).svc.api = ctx.svc.api := rfl
  rw [allocReorder, allocReorder, api, ReorderPktHdr.new_translate]
  split <;> rfl

lemma pushFront_translate (unmarked : ctx.view.Unmarked offset)
    (plain : Capture.Unmarked offset hdr) (pkt : ReorderPktHdr) :
    (ctx.translate offset old).pushFront (pkt.translate offset) (hdr.translate offset) =
      (ctx.pushFront pkt hdr).translate offset old := by
  have head := setHeadInfo_translate
    { ctx.sess.reorder with reorderList := pkt :: ctx.sess.reorder.reorderList }
    unmarked.next plain
  exact congrArg (fun info => { ctx.translate offset old with
    sess := { (ctx.translate offset old).sess with reorder := info } }) head

lemma setReorderEnd_translate (ctx : Ctx σ) :
    (ctx.translate offset old).setReorderEnd = ctx.setReorderEnd.translate offset old := by
  have noHole : { ctx.sess.reorder.translate offset with expSeqStart := ⟨0, 0⟩ } =
      ({ ctx.sess.reorder with expSeqStart := ⟨0, 0⟩ } : ReorderInfo).translate offset := by
    simp [ReorderInfo.translate]
  exact congrArg (fun info => { ctx.setReorderEnd.translate offset old with
    sess := { (ctx.setReorderEnd.translate offset old).sess with reorder := info } }) noHole

lemma destroySession_translate (ctx : Ctx σ) : (ctx.translate offset old).destroySession ops =
      (ctx.destroySession ops).translate offset old := by
  have started : ((ctx.translate offset old).modifyStats fun stats =>
      { stats with nsessionsDel := stats.nsessionsDel + 1 }).setToDelete false =
        ((ctx.modifyStats fun stats =>
          { stats with nsessionsDel := stats.nsessionsDel + 1 }).setToDelete false).translate
            offset old := rfl
  simp only [destroySession, started, translate_reorderActive]
  generalize (ctx.modifyStats fun stats =>
    { stats with nsessionsDel := stats.nsessionsDel + 1 }).setToDelete false = start
  have isrdrmap : (start.translate offset old).sess.isrdrmap = start.sess.isrdrmap := rfl
  have ended : (if start.sess.reorderActive || (start.translate offset old).sess.isrdrmap then
      (start.translate offset old).setReorderEnd else start.translate offset old) =
        (if start.sess.reorderActive || start.sess.isrdrmap then start.setReorderEnd
          else start).translate offset old := by
    rw [isrdrmap, setReorderEnd_translate]
    split <;> rfl
  rw [ended]
  generalize (if start.sess.reorderActive || start.sess.isrdrmap then start.setReorderEnd
    else start) = last
  rw [translate_pvarproto]
  split <;> rfl

/-- A session is made from the packet alone, whatever stood in its place. -/
lemma newSession_translate (svc : SvcInfoCap σ) (key : IpPort) (moved sess : SvcSession)
    (hdr : ParsePktHdr) : (Ctx.mk (svc.translate offset old) key moved).newSession
      (hdr.translate offset) = ((Ctx.mk svc key sess).newSession hdr).translate offset old := by
  simp only [newSession, modifyStats, translate, SvcInfoCap.translate, SvcSession.translate,
    ReorderInfo.init_translate, map_append, map_cons, map_nil, append_assoc]
  rfl

lemma restartSession_translate (ctx : Ctx σ) (hdr : ParsePktHdr) :
    (ctx.translate offset old).restartSession ops (hdr.translate offset) =
      (ctx.restartSession ops hdr).translate offset old := by
  have counted :
      (ctx.translate offset old).countDropNew = ctx.countDropNew.translate offset old := rfl
  rw [restartSession, counted, destroySession_translate, restartSession]
  exact newSession_translate _ _ _ _ _

lemma startReorder_translate (blind : SeqBlind ops) (unmarked : ctx.view.Unmarked offset)
    (plain : Capture.Unmarked offset hdr) :
    (ctx.translate offset old).startReorder ops (hdr.translate offset) =
      Prod.map id (translate offset old) (ctx.startReorder ops hdr) := by
  rw [startReorder, startReorder, translate_common, translate_isPktDrop,
    doProtoParse_translate blind unmarked plain, allocReorder_translate]
  split
  · rfl
  obtain ⟨allocated, viewEq, eq | eq⟩ := allocReorder_cases ops ctx hdr
  · rw [eq]
    rw [← viewEq] at unmarked
    exact doProtoParse_translate blind unmarked plain
  rw [eq]
  rw [← viewEq] at unmarked
  have pushed := @pushFront_translate _ _ _ old _ unmarked plain (.new hdr)
  simp only [Prod.map, Option.map, pushed]
  rfl

lemma unmarked_noteDrops (unmarked : ctx.view.Unmarked offset)
    (plain : Capture.Unmarked offset hdr) : (ctx.noteDrops hdr).view.Unmarked offset :=
  (Step.note ctx.view plain).unmarked unmarked

lemma chkDropsAndParse_translate (blind : SeqBlind ops) (unmarked : ctx.view.Unmarked offset)
    (plain : Capture.Unmarked offset hdr) (ignReorder : Bool) :
    (ctx.translate offset old).chkDropsAndParse ops (hdr.translate offset) ignReorder =
      Prod.map id (translate offset old) (ctx.chkDropsAndParse ops hdr ignReorder) := by
  rw [chkDropsAndParse, chkDropsAndParse, setPktDrops_translate]
  rcases ctx.setPktDrops_cases hdr with ⟨-, eq⟩ | ⟨-, eq⟩
  · rw [eq, ParsePktHdr.translate_tcpflags]
    dsimp only [Prod.map, id_eq]
    split <;> rfl
  rw [eq]
  have noted := unmarked_noteDrops unmarked plain
  dsimp only [Prod.map, id_eq]
  rw [translate_isDropNewSess]
  by_cases newSess : (ctx.noteDrops hdr).isDropNewSess = true
  · rw [if_pos newSess, if_pos newSess, restartSession_translate]
    have restarted : ((ctx.noteDrops hdr).restartSession ops hdr).view.Unmarked offset := by
      rw [view_restartSession]
      exact View.unmarked_restart _ plain
    rw [doProtoParse_translate blind restarted plain]
    rfl
  · rw [if_neg newSess, if_neg newSess, doProtoParse_translate blind noted plain,
      startReorder_translate blind noted plain, translate_common,
      translate_isPktDrop, translate_reorderActive, ParsePktHdr.translate_src]
    split
    · rfl
    · split <;> rfl

/-! ## Draining the list -/

lemma modifyList_tail_translate (ctx : Ctx σ) : (ctx.translate offset old).modifyList List.tail =
      (ctx.modifyList List.tail).translate offset old := by
  simp [modifyList, modifyReorder, translate, SvcSession.translate, ReorderInfo.translate]

lemma sendReorderLoop_translate (blind : SeqBlind ops) (tcurrusec : Nat) (clearAll : Bool)
    (minpkts : Nat) (rlist : List ReorderPktHdr) (npkts : Nat) (unmarked : ctx.view.Unmarked offset)
    (plain : ∀ pkt ∈ rlist, ∀ hdr ∈ pkt.pooluniq, Capture.Unmarked offset hdr) :
    sendReorderLoop ops tcurrusec clearAll minpkts (rlist.map (·.translate offset)) npkts
        (ctx.translate offset old) = Prod.map id (translate offset old)
        (sendReorderLoop ops tcurrusec clearAll minpkts rlist npkts ctx) := by
  induction rlist generalizing npkts ctx with
  | nil => rfl
  | cons pkt rest ih =>
    have restPlain : ∀ pkt ∈ rest, ∀ hdr ∈ pkt.pooluniq, Capture.Unmarked offset hdr :=
      fun pkt mem => plain pkt (mem_cons_of_mem _ mem)
    have popped : ∀ {ctx : Ctx σ}, ctx.view.Unmarked offset →
        (ctx.modifyList List.tail).view.Unmarked offset :=
      fun unmarked => (Step.pop _).unmarked unmarked
    have pooled : (pkt.translate offset).pooluniq =
        pkt.pooluniq.map (ParsePktHdr.translate offset) := rfl
    rw [map_cons, sendReorderLoop, sendReorderLoop, translate_toDelete, pooled]
    split
    · rfl
    cases inPool : pkt.pooluniq with
    | none =>
      dsimp only [Option.map]
      rw [modifyList_tail_translate]
      exact ih _ (popped unmarked) restPlain
    | some hdr =>
      have hdrPlain := plain pkt mem_cons_self hdr inPool
      dsimp only [Option.map]
      rw [setPktDrops_translate]
      rcases ctx.setPktDrops_cases hdr with ⟨-, eq⟩ | ⟨-, eq⟩
      · rw [eq]
        dsimp only [Prod.map, id_eq]
        rw [modifyList_tail_translate]
        exact ih _ (popped unmarked) restPlain
      rw [eq]
      have noted := unmarked_noteDrops unmarked hdrPlain
      dsimp only [Prod.map, id_eq]
      rw [translate_isDropNewSess]
      by_cases newSess : (ctx.noteDrops hdr).isDropNewSess = true
      · rw [if_pos newSess, if_pos newSess, restartSession_translate]
      rw [if_neg newSess, if_neg newSess, translate_common,
        translate_isPktDrop, ParsePktHdr.translate_tvUsec]
      split
      · rfl
      obtain ⟨ends, -, parsedEq⟩ := doProtoParse_ends ops (ctx.noteDrops hdr) hdr
      have parsed : ((ctx.noteDrops hdr).doProtoParse ops hdr).2.view.Unmarked offset := by
        rw [parsedEq]
        exact noted.deliver hdrPlain ends
      rw [doProtoParse_translate blind noted hdrPlain]
      dsimp only [Prod.map]
      rw [modifyList_tail_translate]
      exact ih _ (popped parsed) restPlain

/-- The session only holds packets that the translation leaves alone. -/
structure Ready (offset : PerSide Seq) (ctx : Ctx σ) : Prop where
  unmarked : ctx.view.Unmarked offset
  holds : ctx.view.HoldsOnly (Capture.Unmarked offset)

variable {before after : Ctx σ}

lemma Ready.of_steps (ready : before.Ready offset)
    (steps : Steps (Capture.Unmarked offset) before.view after.view) : after.Ready offset :=
  ⟨steps.unmarked ready.unmarked, steps.holdsOnly ready.holds⟩

lemma Ready.of_view (ready : before.Ready offset)
    (same : after.view = before.view) : after.Ready offset :=
  ⟨same ▸ ready.unmarked, same ▸ ready.holds⟩

lemma sendReorderToParser_translate (blind : SeqBlind ops) (ready : ctx.Ready offset)
    (tcurrusec : Nat) (clearAll : Bool) :
    (ctx.translate offset old).sendReorderToParser ops tcurrusec clearAll =
      (ctx.sendReorderToParser ops tcurrusec clearAll).translate offset old := by
  have few : minPkts (ctx.sess.reorder.reorderList.map (·.translate offset)) =
      minPkts ctx.sess.reorder.reorderList := by
    simp [minPkts]
  rw [sendReorderToParser, sendReorderToParser, translate_reorder, translate_reorderList, few,
    sendReorderLoop_translate blind tcurrusec clearAll _ ctx.sess.reorder.reorderList 0
      ready.unmarked ready.holds]
  rcases sendReorderLoop ops tcurrusec clearAll (minPkts ctx.sess.reorder.reorderList)
    ctx.sess.reorder.reorderList 0 ctx with ⟨returned, last⟩
  cases returned with
  | true => rfl
  | false =>
    dsimp only [Prod.map, id_eq]
    rw [translate_reorder, translate_reorderList, isEmpty_map, setReorderEnd_translate]
    split <;> rfl

/-! ## Insertion and noted holes -/

lemma overlap_translate {held new : ReorderPktHdr} (heldDir : held.dir ≠ .unknown)
    (newDir : new.dir ≠ .unknown) :
    overlap (held.translate offset) (new.translate offset) = overlap held new := by
  have heldEq : (held.translate offset).dir = held.dir := rfl
  have newEq : (new.translate offset).dir = new.dir := rfl
  rw [overlap, overlap, heldEq, newEq]
  by_cases same : held.dir = new.dir
  · rw [if_pos same, if_pos same]
    have moved : held.startPktSeq + offset.get new.dir.side + BitVec.ofNat 32 held.datalen =
        held.startPktSeq + BitVec.ofNat 32 held.datalen + offset.get new.dir.side := by
      bv_omega
    simp only [ReorderPktHdr.translate, same, moved, Serial.diff_add_right]
  · rw [if_neg same, if_neg same]
    have sides : held.dir.side.other = new.dir.side := by
      cases heldIs : held.dir <;> cases newIs : new.dir <;> simp_all [DirPacket.side, Side.other]
    simp only [ReorderPktHdr.translate, sides, Serial.diff_add_right]

lemma insertBehind_translate {rlist : List ReorderPktHdr} {new : ReorderPktHdr}
    (heldDir : ∀ pkt ∈ rlist, pkt.dir ≠ .unknown) (newDir : new.dir ≠ .unknown) :
    insertBehind (rlist.map (·.translate offset)) (new.translate offset) =
      (insertBehind rlist new).map
        fun inserted => (inserted.1.map (·.translate offset), inserted.2) := by
  induction rlist with
  | nil => rfl
  | cons held rest ih =>
    have behind := ih fun pkt mem => heldDir pkt (mem_cons_of_mem _ mem)
    rw [map_cons, insertBehind, behind, insertBehind]
    cases insertBehind rest new with
    | some inserted => rfl
    | none =>
      dsimp only [Option.map]
      rw [overlap_translate (heldDir held mem_cons_self) newDir, isEmpty_map]
      split <;> rfl

lemma Ready.hole (ready : ctx.Ready offset) {side : Side}
    (nonzero : ctx.sess.reorder.expSeqStart.get side ≠ 0) :
    Agrees (offset.get side) (ctx.sess.reorder.expSeqStart.get side) ∧
      Agrees (offset.get side) (ctx.sess.reorder.seenSeq.get side) :=
  ready.unmarked.hole side nonzero

lemma hole_translate (ready : ctx.Ready offset) (side : Side) :
    (ctx.translate offset old).sess.reorder.expSeqStart.get side ≠ 0 ↔
      ctx.sess.reorder.expSeqStart.get side ≠ 0 := by
  rw [translate_reorder, ReorderInfo.translate_expSeqStart, Ne,
    mark_eq_zero fun nonzero => (ready.hole nonzero).1]

lemma holeDiffs_translate (ready : ctx.Ready offset) (hdr : ParsePktHdr) {side : Side}
    (hole : ctx.sess.reorder.expSeqStart.get side ≠ 0) :
    let moved := (ctx.translate offset old).sess.reorder
    let start := (hdr.translate offset).startSeq.get side
    Serial.diff (moved.expSeqStart.get side) start =
        Serial.diff (ctx.sess.reorder.expSeqStart.get side) (hdr.startSeq.get side) ∧
      Serial.diff (moved.seenSeq.get side) start =
        Serial.diff (ctx.sess.reorder.seenSeq.get side) (hdr.startSeq.get side) := by
  have agrees := ready.hole hole
  dsimp only
  rw [translate_reorder, ReorderInfo.translate_expSeqStart, mark_eq agrees.1,
    ReorderInfo.translate_seenSeq, mark_eq agrees.2, ParsePktHdr.translate_startSeq,
    PerSide.get_add]
  exact ⟨Serial.diff_add_right _ _ _, Serial.diff_add_right _ _ _⟩

lemma sslChange_translate (blind : SeqBlind ops) (ctx : Ctx σ) (hdr : ParsePktHdr) :
    sslChange ops (ctx.translate offset old) (hdr.translate offset) =
      (sslChange ops ctx hdr).translate offset old := by
  have ended : (if (ctx.translate offset old).sess.reorderActive then
      (ctx.translate offset old).setReorderEnd else ctx.translate offset old) =
        (if ctx.sess.reorderActive then ctx.setReorderEnd else ctx).translate offset old := by
    rw [translate_reorderActive, setReorderEnd_translate]
    split <;> rfl
  rw [sslChange, sslChange, ended]
  generalize (if ctx.sess.reorderActive then ctx.setReorderEnd else ctx) = before
  have changed : (((before.translate offset old).modifyReorder fun _ => .init).modifyCommon
      (·.setSrcChg (hdr.translate offset))).modifyStats
        (fun stats => { stats with nsrcChg := stats.nsrcChg + 1 }) =
      (((before.modifyReorder fun _ => .init).modifyCommon (·.setSrcChg hdr)).modifyStats
        fun stats => { stats with nsrcChg := stats.nsrcChg + 1 }).translate offset old :=
    congrArg (fun info => { ((before.modifyCommon (·.setSrcChg hdr)).modifyStats fun stats =>
        { stats with nsrcChg := stats.nsrcChg + 1 }).translate offset old with
      sess := { (((before.modifyCommon (·.setSrcChg hdr)).modifyStats fun stats =>
        { stats with nsrcChg := stats.nsrcChg + 1 }).translate offset old).sess with
          reorder := info } }) ReorderInfo.init_translate.symm
  rw [changed]
  generalize (((before.modifyReorder fun _ => .init).modifyCommon (·.setSrcChg hdr)).modifyStats
    fun stats => { stats with nsrcChg := stats.nsrcChg + 1 }) = after
  have same : ops.handleSslChange (after.translate offset old).sess.proto
      (after.translate offset old).sess (hdr.translate offset)
      (after.translate offset old).svc.api =
        ops.handleSslChange after.sess.proto after.sess hdr after.svc.api :=
    (blind.handleSslChange _ _ _ _).trans
      (blind.handleSslChange after.sess.proto after.sess hdr after.svc.api).symm
  rw [same, translate_proto, translate_pvarproto]
  split <;> rfl

section Ready

variable (blind : SeqBlind ops) (ready : ctx.Ready offset) (plain : Capture.Unmarked offset hdr)
include blind ready plain

lemma sendAllAndParse_translate (tcurrusec : Nat) (clearAll ignReorder : Bool) :
    ((ctx.translate offset old).sendReorderToParser ops tcurrusec clearAll).chkDropsAndParse ops
        (hdr.translate offset) ignReorder = Prod.map id (translate offset old)
        ((ctx.sendReorderToParser ops tcurrusec clearAll).chkDropsAndParse ops hdr ignReorder) := by
  have sent := ready.of_steps (steps_sendReorderToParser ops ctx tcurrusec clearAll ready.holds)
  rw [sendReorderToParser_translate blind ready,
    chkDropsAndParse_translate blind sent.unmarked plain]

lemma addToReorderList_translate :
    (ctx.translate offset old).addToReorderList ops ((ReorderPktHdr.new hdr).translate offset)
        (hdr.translate offset) =
      Prod.map id (translate offset old) (ctx.addToReorderList ops (.new hdr) hdr) := by
  rw [addToReorderList, addToReorderList, translate_reorder, translate_reorderList,
    @insertBehind_translate offset ctx.sess.reorder.reorderList (.new hdr) ready.unmarked.held
      plain.dir]
  cases insertBehind ctx.sess.reorder.reorderList (.new hdr) with
  | some inserted =>
    dsimp only [Option.map]
    split <;> rfl
  | none =>
    dsimp only [Option.map]
    have drops : isTcpDrop ((ctx.translate offset old).sess.common.nxtSeq.get
          ((ReorderPktHdr.new hdr).translate offset).dir.side)
        ((ReorderPktHdr.new hdr).translate offset).startPktSeq
        ((ctx.translate offset old).sess.common.nxtSeq.get
          ((ReorderPktHdr.new hdr).translate offset).dir.side.other)
        ((ReorderPktHdr.new hdr).translate offset).ackSeq
        (hdr.translate offset).tcpflags.syn (hdr.translate offset).tcpflags.fin =
      isTcpDrop (ctx.sess.common.nxtSeq.get (ReorderPktHdr.new hdr).dir.side)
        (ReorderPktHdr.new hdr).startPktSeq
        (ctx.sess.common.nxtSeq.get (ReorderPktHdr.new hdr).dir.side.other)
        (ReorderPktHdr.new hdr).ackSeq hdr.tcpflags.syn hdr.tcpflags.fin := by
      simp only [translate_common, translate_nxtSeq, PerSide.get_add,
        ReorderPktHdr.translate, isTcpDrop_add, ParsePktHdr.translate_tcpflags]
    rw [drops]
    split
    · rfl
    · exact sendAllAndParse_translate blind (ready.of_view ctx.view_countDropNew) plain _ _ _
    · rw [pushFront_translate ready.unmarked plain]
      rfl
    · rw [pushFront_translate ready.unmarked plain]
      rfl

lemma allocAndAdd_translate :
    (ctx.translate offset old).allocAndAdd ops (hdr.translate offset) =
      Prod.map id (translate offset old) (ctx.allocAndAdd ops hdr) := by
  rw [allocAndAdd, allocAndAdd, allocReorder_translate]
  obtain ⟨allocated, viewEq, eq | eq⟩ := allocReorder_cases ops ctx hdr
  · rw [eq]
    exact sendAllAndParse_translate blind (ready.of_view viewEq) plain _ _ _
  · rw [eq]
    exact addToReorderList_translate blind (ready.of_view viewEq) plain

lemma addElem_translate :
    (ctx.translate offset old).addElem ops (hdr.translate offset) =
      Prod.map id (translate offset old) (ctx.addElem ops hdr) := by
  have full : (ctx.translate offset old).isListFull = ctx.isListFull := by
    simp [isListFull]
  have skipped : (ctx.translate offset old).countSkip = ctx.countSkip.translate offset old := by
    simp only [countSkip, full]
    rfl
  have late :
      (ctx.translate offset old).sess.reorder.tfirstusec = ctx.sess.reorder.tfirstusec := rfl
  have counted : ctx.countSkip.Ready offset := ready.of_view ctx.view_countSkip
  have sent := counted.of_steps
    (steps_sendReorderToParser ops ctx.countSkip hdr.tvUsec false counted.holds)
  rw [addElem, addElem, full, late, ParsePktHdr.translate_tvUsec, skipped,
    allocAndAdd_translate blind ready plain, sendReorderToParser_translate blind counted]
  split
  · dsimp only
    rw [translate_reorder, translate_reorderList, isEmpty_map,
      chkDropsAndParse_translate blind sent.unmarked plain, allocAndAdd_translate blind sent plain]
    split <;> rfl
  · rfl

lemma addFirst_translate :
    (ctx.translate offset old).addFirst ops (hdr.translate offset) =
      Prod.map id (translate offset old) (ctx.addFirst ops hdr) := by
  rw [addFirst, addFirst, allocReorder_translate]
  obtain ⟨allocated, viewEq, eq | eq⟩ := allocReorder_cases ops ctx hdr
  · rw [eq]
    have same := ready.of_view viewEq
    have parsed := same.of_steps (steps_chkDropsAndParse ops allocated true plain)
    dsimp only [Prod.map, Option.map]
    rw [chkDropsAndParse_translate blind same.unmarked plain]
    rcases result : allocated.chkDropsAndParse ops hdr true with ⟨goesOn, last⟩
    rw [result] at parsed
    cases goesOn with
    | true =>
      dsimp only [Prod.map, id_eq]
      rw [ParsePktHdr.translate_tvUsec, sendReorderToParser_translate blind parsed]
    | false => rfl
  · rw [eq]
    have pushed := @pushFront_translate _ _ _ old _ (ready.of_view viewEq).unmarked plain (.new hdr)
    dsimp only [Prod.map, Option.map]
    rw [pushed]
    rfl

lemma parseAndDrain_translate :
    (ctx.translate offset old).parseAndDrain ops (hdr.translate offset) =
      Prod.map id (translate offset old) (ctx.parseAndDrain ops hdr) := by
  have parsed := ready.of_steps (steps_chkDropsAndParse ops ctx true plain)
  rw [parseAndDrain, parseAndDrain, chkDropsAndParse_translate blind ready.unmarked plain]
  rcases result : ctx.chkDropsAndParse ops hdr true with ⟨goesOn, last⟩
  rw [result] at parsed
  cases goesOn with
  | true =>
    dsimp only [Prod.map, id_eq]
    rw [ParsePktHdr.translate_tvUsec, sendReorderToParser_translate blind parsed]
  | false => rfl

/-- The reorder code commutes with the translation. -/
lemma handleReorder_translate :
    (ctx.translate offset old).handleReorder ops (hdr.translate offset) =
      Prod.map id (translate offset old) (ctx.handleReorder ops hdr) := by
  have counted : (ctx.translate offset old).countReorder hdr.datalen =
      (ctx.countReorder hdr.datalen).translate offset old := rfl
  have countedReady := ready.of_view (ctx.view_countReorder hdr.datalen)
  rw [handleReorder, handleReorder]
  dsimp only
  rw [ParsePktHdr.translate_side, ParsePktHdr.translate_datalen, ParsePktHdr.translate_tvUsec,
    counted]
  by_cases mine : ctx.sess.reorder.expSeqStart.get hdr.side ≠ 0
  · rw [if_pos mine, if_pos ((hole_translate ready _).mpr mine),
      (holeDiffs_translate ready hdr mine).1, (holeDiffs_translate ready hdr mine).2]
    split
    · by_cases theirs : ctx.sess.reorder.expSeqStart.get hdr.side.other ≠ 0
      · rw [if_pos theirs, if_pos ((hole_translate ready _).mpr theirs),
          (holeDiffs_translate ready hdr theirs).1]
        split
        · exact parseAndDrain_translate blind countedReady plain
        · exact addFirst_translate blind countedReady plain
      · rw [if_neg theirs, if_neg fun moved => theirs ((hole_translate ready _).mp moved)]
        exact parseAndDrain_translate blind countedReady plain
    · split
      · exact addFirst_translate blind countedReady plain
      · exact addElem_translate blind ready plain
  · rw [if_neg mine, if_neg fun moved => mine ((hole_translate ready _).mp moved)]
    by_cases theirs : ctx.sess.reorder.expSeqStart.get hdr.side.other ≠ 0
    · rw [if_pos theirs, if_pos ((hole_translate ready _).mpr theirs)]
      exact addElem_translate blind ready plain
    · rw [if_neg theirs, if_neg fun moved => theirs ((hole_translate ready _).mp moved)]
      exact sendAllAndParse_translate blind ready plain _ _ _

lemma reorderOrParse_translate : (if (ctx.translate offset old).sess.reorderActive then
        (ctx.translate offset old).handleReorder ops (hdr.translate offset)
      else (ctx.translate offset old).chkDropsAndParse ops (hdr.translate offset) false) =
      Prod.map id (translate offset old) (if ctx.sess.reorderActive then ctx.handleReorder ops hdr
          else ctx.chkDropsAndParse ops hdr false) := by
  rw [translate_reorderActive, handleReorder_translate blind ready plain,
    chkDropsAndParse_translate blind ready.unmarked plain]
  split <;> rfl

lemma parseSessPkt_translate :
    (ctx.translate offset old).parseSessPkt ops (hdr.translate offset) =
      Prod.map id (translate offset old) (ctx.parseSessPkt ops hdr) := by
  have isSsl : (ctx.translate offset old).sess.common.isSsl = ctx.sess.common.isSsl := rfl
  by_cases change : hdr.src = .uprobeSsl ∧ (!ctx.sess.common.isSsl) = true
  · have changed : (sslChange ops ctx hdr).Ready offset := by
      apply ready.of_steps
      rw [view_sslChange]
      exact .single (.srcChange ctx.view plain change.1)
    rw [parseSessPkt_ssl ops change, parseSessPkt_ssl ops (by exact change),
      sslChange_translate blind]
    exact reorderOrParse_translate blind changed plain
  · rw [parseSessPkt, parseSessPkt, isSsl, ParsePktHdr.translate_src, if_neg change, if_neg change]
    exact reorderOrParse_translate blind ready plain

end Ready

end Ctx

/-! ## The service -/

namespace SvcInfoCap

variable {σ : Type} {ops : ProtoOps σ} {svc : SvcInfoCap σ} {hdr : ParsePktHdr}
  {old : List SessAct}
  {offset : PerSide Seq}

/-- Every session of the service agrees with the translation. -/
def Ready (offset : PerSide Seq) (svc : SvcInfoCap σ) : Prop :=
  ∀ key sess, svc.findSess key = some sess → (Ctx.mk svc key sess).Ready offset

lemma Ctx.Ready.of_sess {before after : Ctx σ} (ready : before.Ready offset)
    (same : after.sess = before.sess) : after.Ready offset := by
  have common : after.view.common = before.view.common := congrArg SvcSession.common same
  have reorder : after.view.reorder = before.view.reorder := congrArg SvcSession.reorder same
  refine ⟨⟨?_, ?_, ?_⟩, ?_⟩
  · rw [common]
    exact ready.unmarked.next
  · rw [reorder]
    exact ready.unmarked.hole
  · rw [reorder]
    exact ready.unmarked.held
  · rw [View.HoldsOnly, reorder]
    exact ready.holds

lemma Entered.ready {ctx : Ctx σ} {key : IpPort}
    (entered : Entered (Unmarked offset) key svc ctx) (ready : svc.Ready offset) :
    ctx.Ready offset := by
  rcases entered.sess with ⟨found, -⟩ | ⟨-, first, plain, common, reorder, -⟩
  · exact Ctx.Ready.of_sess (ready key ctx.sess found) rfl
  have commonEq : ctx.view.common = .new first := common
  have reorderEq : ctx.view.reorder = .init := reorder
  refine ⟨⟨?_, ?_, ?_⟩, View.holdsOnly_of_nil (by rw [reorderEq]; rfl)⟩
  · rw [commonEq]
    exact plain.next
  · rw [reorderEq]
    intro side nonzero
    cases side <;> exact absurd rfl nonzero
  · rw [reorderEq]
    intro pkt mem
    cases mem

lemma findSess_translate (svc : SvcInfoCap σ) (key : IpPort) :
    (svc.translate offset old).findSess key =
      (svc.findSess key).map (SvcSession.translate offset) := by
  have keys : ((fun entry : IpPort × SvcSession => decide (entry.1 = key)) ∘
      fun entry : IpPort × SvcSession => (entry.1, entry.2.translate offset)) =
        fun entry : IpPort × SvcSession => decide (entry.1 = key) := rfl
  rw [findSess, findSess, SvcInfoCap.translate, List.find?_map, keys, Option.map_map,
    Option.map_map]
  rfl

lemma filter_translate (key : IpPort) (sessmap : List (IpPort × SvcSession)) :
    (sessmap.map fun entry => (entry.1, entry.2.translate offset)).filter (·.1 ≠ key) =
      (sessmap.filter (·.1 ≠ key)).map fun entry => (entry.1, entry.2.translate offset) := by
  rw [filter_map]
  rfl

lemma putSess_translate (svc : SvcInfoCap σ) (key : IpPort) (sess : SvcSession) :
    (svc.translate offset old).putSess key (sess.translate offset) =
      (svc.putSess key sess).translate offset old := by
  have rest := @filter_translate offset key svc.sessmap
  simp only [putSess, SvcInfoCap.translate, rest, map_cons]

lemma eraseSess_translate (ctx : Ctx σ) :
    eraseSess ops (ctx.translate offset old) = (eraseSess ops ctx).translate offset old := by
  rw [eraseSess, eraseSess, Ctx.destroySession_translate]
  generalize ctx.destroySession ops = last
  have rest := @filter_translate offset last.key last.svc.sessmap
  have sessmap : (last.translate offset old).svc.sessmap =
      last.svc.sessmap.map fun entry => (entry.1, entry.2.translate offset) := rfl
  rw [Ctx.translate_key, sessmap, rest]
  rfl

lemma leaveSess_translate (ctx : Ctx σ) :
    leaveSess ops (ctx.translate offset old) = (leaveSess ops ctx).translate offset old := by
  have put : (ctx.translate offset old).svc.putSess (ctx.translate offset old).key
      (ctx.translate offset old).sess = (ctx.svc.putSess ctx.key ctx.sess).translate offset old :=
    putSess_translate ctx.svc ctx.key ctx.sess
  rw [leaveSess, leaveSess, Ctx.translate_toDelete, eraseSess_translate, put]
  split <;> rfl

/-- `parse_pkt` looks at the packet: it has data or one of the flags. -/
def Counts (hdr : ParsePktHdr) : Prop :=
  hdr.datalen ≠ 0 ∨ hdr.tcpflags.syn = true ∨ hdr.tcpflags.isFinRst = true

instance (hdr : ParsePktHdr) : Decidable (Counts hdr) :=
  inferInstanceAs (Decidable (_ ∨ _))

lemma parsePkt_not_counts (ops : ProtoOps σ) (svc : SvcInfoCap σ) (ignored : ¬ Counts hdr) :
    svc.parsePkt ops hdr = (false, match svc.findSess hdr.cli with
      | some sess => leaveSess ops (Ctx.mk svc hdr.cli sess)
      | none => svc) := by
  obtain ⟨noData, noSyn, noEnd⟩ : hdr.datalen = 0 ∧ hdr.tcpflags.syn = false ∧
      hdr.tcpflags.isFinRst = false := by
    simpa [Counts] using ignored
  cases found : svc.findSess hdr.cli with
  | some sess =>
    rw [parsePkt_found ops found, parseIn]
    by_cases ended : sess.toDelete = true
    · simp [ended, leaveSess]
    · simp [ended, noData, noSyn, noEnd, leaveSess]
  | none =>
    have notOpened : svc.openSess hdr = (none, svc) := by
      rw [openSess]
      simp [noData, noSyn, noEnd]
    rw [parsePkt_ignored ops found notOpened]

lemma openSess_translate (svc : SvcInfoCap σ) (plain : Unmarked offset hdr) :
    (svc.translate offset old).openSess (hdr.translate offset) =
      Prod.map (Option.map (Ctx.translate offset old)) (SvcInfoCap.translate offset old)
        (svc.openSess hdr) := by
  have startCli : (hdr.translate offset).startSeq.cli = 0 ↔ hdr.startSeq.cli = 0 :=
    (plain.start .cli).symm
  have nextSer : (hdr.translate offset).nxtSeq.ser = 0 ↔ hdr.nxtSeq.ser = 0 :=
    (plain.next .ser).symm
  have proto : (svc.translate offset old).svcSsl = svc.svcSsl := rfl
  have size : (svc.translate offset old).sessmap.length = svc.sessmap.length := by
    simp [SvcInfoCap.translate]
  have made : ∀ blank : SvcSession, (Ctx.mk (svc.translate offset old) hdr.cli blank).newSession
      (hdr.translate offset) = ((Ctx.mk svc hdr.cli blank).newSession hdr).translate offset old :=
    fun blank => Ctx.newSession_translate svc hdr.cli blank blank hdr
  simp only [openSess, proto, size, Ne, startCli, nextSer, ParsePktHdr.translate_src,
    ParsePktHdr.translate_tcpflags, ParsePktHdr.translate_datalen, ParsePktHdr.translate_dir,
    ParsePktHdr.translate_cli, made]
  split_ifs <;> rfl

lemma parseIn_translate (blind : SeqBlind ops) {ctx : Ctx σ} (ready : ctx.Ready offset)
    (plain : Unmarked offset hdr) : parseIn ops (ctx.translate offset old) (hdr.translate offset) =
      Prod.map id (SvcInfoCap.translate offset old) (parseIn ops ctx hdr) := by
  have stamped : (if (hdr.translate offset).tcpflags.isFinRst then
      (ctx.translate offset old).modifyCommon fun common =>
        { common with tcloseUsec := (hdr.translate offset).tvUsec }
      else ctx.translate offset old) =
        (if hdr.tcpflags.isFinRst then
          ctx.modifyCommon fun common => { common with tcloseUsec := hdr.tvUsec }
        else ctx).translate offset old := by
    rw [ParsePktHdr.translate_tcpflags]
    split <;> rfl
  have stampedReady : (if hdr.tcpflags.isFinRst then
      ctx.modifyCommon fun common => { common with tcloseUsec := hdr.tvUsec }
      else ctx).Ready offset := by
    split
    · exact ready.of_steps
        (.single (.stamp ctx.view ctx.view.common.tconnectUsec hdr.tvUsec))
    · exact ready
  rw [parseIn, parseIn, Ctx.translate_toDelete, eraseSess_translate, stamped]
  generalize (if hdr.tcpflags.isFinRst then
    ctx.modifyCommon fun common => { common with tcloseUsec := hdr.tvUsec }
    else ctx) = stamp at stampedReady
  have isSsl : (stamp.translate offset old).sess.common.isSsl = stamp.sess.common.isSsl := rfl
  have put : (stamp.translate offset old).svc.putSess (stamp.translate offset old).key
      (stamp.translate offset old).sess =
        (stamp.svc.putSess stamp.key stamp.sess).translate offset old :=
    putSess_translate stamp.svc stamp.key stamp.sess
  dsimp only
  rw [isSsl, put, Ctx.parseSessPkt_translate blind stampedReady plain,
    ParsePktHdr.translate_src, ParsePktHdr.translate_tcpflags, ParsePktHdr.translate_datalen]
  split
  · rfl
  dsimp only [Prod.map]
  rw [leaveSess_translate]
  split
  · rfl
  · split <;> rfl

lemma parsePkt_translate (blind : SeqBlind ops) (ready : svc.Ready offset)
    (plain : Counts hdr → Unmarked offset hdr) :
    (svc.translate offset old).parsePkt ops (hdr.translate offset) =
      Prod.map id (SvcInfoCap.translate offset old) (svc.parsePkt ops hdr) := by
  have found' : (svc.translate offset old).findSess (hdr.translate offset).cli =
      (svc.findSess hdr.cli).map (SvcSession.translate offset) := findSess_translate svc hdr.cli
  by_cases counts : Counts hdr
  · cases found : svc.findSess hdr.cli with
    | some sess =>
      rw [found] at found'
      rw [parsePkt_found ops found, parsePkt_found ops found']
      exact parseIn_translate blind (ready hdr.cli sess found) (plain counts)
    | none =>
      rw [found] at found'
      have opened' := @openSess_translate _ _ old _ svc (plain counts)
      rcases openSess_cases svc (plain counts) found with
        ⟨svc', ignored, -, -⟩ | ⟨ctx, entered, opened⟩
      · rw [ignored] at opened'
        rw [parsePkt_ignored ops found ignored, parsePkt_ignored ops found' opened']
        rfl
      · rw [opened] at opened'
        rw [parsePkt_opened ops found opened, parsePkt_opened ops found' opened']
        exact parseIn_translate blind (entered.ready ready) (plain counts)
  · have counts' : ¬ Counts (hdr.translate offset) := counts
    rw [parsePkt_not_counts ops svc counts, parsePkt_not_counts ops _ counts', found']
    cases svc.findSess hdr.cli with
    | some sess => exact congrArg (Prod.mk false) (leaveSess_translate (Ctx.mk svc hdr.cli sess))
    | none => rfl

/-! ## Runs -/

section

variable (ready : svc.Ready offset)
include ready

lemma Ready.leaveSess {ctx : Ctx σ} (ctxReady : ctx.Ready offset)
    (sessmap : ctx.svc.sessmap = svc.sessmap) : (SvcInfoCap.leaveSess ops ctx).Ready offset := by
  intro key sess found
  by_cases same : key = ctx.key
  · rw [same, findSess_leaveSess] at found
    split at found
    · cases found
    · cases found
      exact Ctx.Ready.of_sess ctxReady rfl
  · rw [findSess_leaveSess_ne ops ctx same, findSess_eq_of_sessmap sessmap] at found
    exact Ctx.Ready.of_sess (ready key sess found) rfl

lemma Ready.worked {svc' : SvcInfoCap σ} {key : IpPort}
    (worked : Worked ops (Unmarked offset) key svc svc') : svc'.Ready offset := by
  cases worked with
  | idle sessmap _ _ =>
    intro key sess found
    rw [findSess_eq_of_sessmap sessmap] at found
    exact Ctx.Ready.of_sess (ready key sess found) rfl
  | @work ctx after entered steps =>
    have ctxReady := entered.ready ready
    exact ready.leaveSess (ctxReady.of_steps steps) (entered.left steps).2

lemma Ready.parsePkt (plain : Counts hdr → Unmarked offset hdr) :
    (svc.parsePkt ops hdr).2.Ready offset := by
  by_cases counts : Counts hdr
  · exact ready.worked (worked_parsePkt ops svc (plain counts)
      fun sess found => (ready hdr.cli sess found).holds)
  rw [parsePkt_not_counts ops svc counts]
  dsimp only
  split
  next sess found =>
    exact ready.leaveSess (ready hdr.cli sess found) rfl
  · exact ready

lemma Ready.chkReorder (tcurrusec : Nat) (key : IpPort) :
    (svc.chkReorder ops tcurrusec key).Ready offset :=
  ready.worked (worked_chkReorder ops tcurrusec svc fun sess found => (ready key sess found).holds)

end

section

variable (blind : SeqBlind ops)
include blind

lemma chkReorder_translate (ready : svc.Ready offset)
    (tcurrusec : Nat) (key : IpPort) : (svc.translate offset old).chkReorder ops tcurrusec key =
      (svc.chkReorder ops tcurrusec key).translate offset old := by
  rw [SvcInfoCap.chkReorder, SvcInfoCap.chkReorder, findSess_translate]
  cases found : svc.findSess key with
  | none => rfl
  | some sess =>
    have active := Ctx.translate_reorderActive offset old (Ctx.mk svc key sess)
    have late : (sess.translate offset).reorder.timedOut tcurrusec =
        sess.reorder.timedOut tcurrusec := rfl
    have sent := @Ctx.sendReorderToParser_translate _ _ _ old _ blind (ready key sess found)
      tcurrusec false
    have left := @leaveSess_translate σ ops old offset
      ((Ctx.mk svc key sess).sendReorderToParser ops tcurrusec false)
    rw [← sent] at left
    dsimp only [Option.map]
    rw [late]
    by_cases drains : sess.reorderActive = true ∧ sess.reorder.timedOut tcurrusec = true
    · rw [if_pos drains, if_pos ⟨active.trans drains.1, drains.2⟩]
      exact left
    · rw [if_neg drains, if_neg fun moved => drains ⟨active.symm.trans moved.1, moved.2⟩]

lemma chkReorders_translate (tcurrusec : Nat) (keys : List IpPort)
    (ready : svc.Ready offset) :
    keys.foldl (SvcInfoCap.chkReorder ops tcurrusec) (svc.translate offset old) =
        (keys.foldl (SvcInfoCap.chkReorder ops tcurrusec) svc).translate offset old ∧
      (keys.foldl (SvcInfoCap.chkReorder ops tcurrusec) svc).Ready offset := by
  induction keys generalizing svc with
  | nil => exact ⟨rfl, ready⟩
  | cons key keys ih =>
    rw [foldl_cons, foldl_cons, chkReorder_translate blind ready]
    exact ih (ready.chkReorder tcurrusec key)

/-- Every event commutes with the translation and keeps what it needs. -/
lemma handle_translate (ready : svc.Ready offset) (event : SvcEvent)
    (plain : ∀ hdr, event = .pkt hdr → Counts hdr → Unmarked offset hdr) :
    (svc.translate offset old).handle ops (event.translate offset) =
        (svc.handle ops event).translate offset old ∧ (svc.handle ops event).Ready offset := by
  cases event with
  | pkt hdr =>
    have hdrPlain := plain hdr rfl
    exact ⟨congrArg Prod.snd (parsePkt_translate blind ready hdrPlain), ready.parsePkt hdrPlain⟩
  | timer tcurrusec =>
    have registered : (svc.translate offset old).sessrdrmap = svc.sessrdrmap := rfl
    have inMap : (svc.translate offset old).inReordermap = svc.inReordermap := rfl
    rw [SvcEvent.translate, handle, handle, chkSvcReorders, chkSvcReorders, registered, inMap]
    split
    · exact chkReorders_translate blind tcurrusec _ ready
    · exact ⟨rfl, ready⟩

/-- A run on the translated history is the translated run. -/
lemma run_translate (events : List SvcEvent)
    (plain : ∀ hdr, .pkt hdr ∈ events → Counts hdr → Unmarked offset hdr)
    (ready : svc.Ready offset) :
    Machine.run (handle ops) (svc.translate offset old) (events.map (SvcEvent.translate offset)) =
      (Machine.run (handle ops) svc events).translate offset old := by
  induction events generalizing svc with
  | nil => rfl
  | cons event events ih =>
    obtain ⟨moved, still⟩ := handle_translate blind ready event
      fun hdr eq => plain hdr (eq ▸ mem_cons_self)
    rw [map_cons, Machine.run_cons, Machine.run_cons, moved]
    exact ih (fun hdr mem => plain hdr (mem_cons_of_mem _ mem)) still

/-- A run from a service without sessions parses the translated packets of the run that starts
with an empty record. -/
lemma parsed_run_translate (noSession : svc.sessmap = []) (noCall : svc.parsed = [])
    (offset : PerSide Seq) (events : List SvcEvent)
    (plain : ∀ hdr, .pkt hdr ∈ events → Counts hdr → Unmarked offset hdr) :
    (Machine.run (handle ops) svc (events.map (SvcEvent.translate offset))).parsed =
      (Machine.run (handle ops) { svc with acts := [] } events).parsed.map
        (ParseCall.translate offset) := by
  have start : SvcInfoCap.translate offset svc.acts { svc with acts := [] } = svc := by
    rw [SvcInfoCap.translate, noSession, noCall, map_nil, map_nil, map_nil, append_nil,
      ← noSession]
    exact congrArg (fun calls => { svc with parsed := calls }) noCall.symm
  have ready : SvcInfoCap.Ready offset { svc with acts := [] } := by
    intro key sess found
    rw [findSess, noSession] at found
    cases found
  have moved := @run_translate _ _ _ svc.acts _ blind events plain ready
  rw [start] at moved
  exact congrArg SvcInfoCap.parsed moved

end

/-- If no number of a packet that counts is 0 in one history only, the run on the
translated history parses the translated packets, in the same order and with the same
drop flags. -/
theorem translated_run_parses_same (ops : ProtoOps σ) (blind : SeqBlind ops)
    (svc : SvcInfoCap σ) (noSession : svc.sessmap = []) (noCall : svc.parsed = [])
    (offset : PerSide Seq) (events : List SvcEvent)
    (plain : ∀ hdr, .pkt hdr ∈ events → Counts hdr → Unmarked offset hdr) :
    (Machine.run (handle ops) svc (events.map (SvcEvent.translate offset))).parsed =
      (Machine.run (handle ops) svc events).parsed.map (ParseCall.translate offset) := by
  -- what was recorded before is not read: both runs are compared with one from an empty record
  have untranslated := parsed_run_translate blind noSession noCall ⟨0, 0⟩ events
    fun hdr mem counts => unmarked_zero (plain hdr mem counts).dir
  rw [SvcEvent.translate_zero, map_id, ParseCall.translate_zero, map_id] at untranslated
  rw [untranslated]
  exact parsed_run_translate blind noSession noCall offset events plain

/-! ## A hole at number 0 -/

/-- The server opens the connection, and of three requests of ten bytes the second
arrives last. -/
def swappedEvents (base : Seq) : List SvcEvent :=
  [.pkt (capturedPkt .outbound 500 base true 0), .pkt (capturedPkt .inbound base 501 false 10),
    .pkt (capturedPkt .inbound (base + 20) 501 false 10),
    .pkt (capturedPkt .inbound (base + 10) 501 false 10)]

lemma seqBlind_passiveOps : SeqBlind passiveOps where
  allocSess := fun _ _ _ _ => rfl
  handlePkt := fun _ _ _ _ => rfl
  handleSessionEnd := fun _ _ _ _ => rfl
  handleSslChange := fun _ _ _ _ => rfl

/-- Away from 0 the translation makes no difference. -/
theorem swapped_requests_translated : (Machine.run (handle passiveOps) newService
        ((swappedEvents 1000).map (SvcEvent.translate ⟨100, 7⟩))).parsed =
      (Machine.run (handle passiveOps) newService (swappedEvents 1000)).parsed.map
        (ParseCall.translate ⟨100, 7⟩) := by
  refine translated_run_parses_same passiveOps seqBlind_passiveOps newService rfl rfl ⟨100, 7⟩
    (swappedEvents 1000) ?_
  intro hdr mem _
  have each : hdr = capturedPkt .outbound 500 1000 true 0 ∨
      hdr = capturedPkt .inbound 1000 501 false 10 ∨
      hdr = capturedPkt .inbound (1000 + 20) 501 false 10 ∨
      hdr = capturedPkt .inbound (1000 + 10) 501 false 10 := by
    simpa [swappedEvents] using mem
  rcases each with rfl | rfl | rfl | rfl
  · exact ⟨fun side => by cases side <;> decide, fun side => by cases side <;> decide, by decide⟩
  · exact ⟨fun side => by cases side <;> decide, fun side => by cases side <;> decide, by decide⟩
  · exact ⟨fun side => by cases side <;> decide, fun side => by cases side <;> decide, by decide⟩
  · exact ⟨fun side => by cases side <;> decide, fun side => by cases side <;> decide, by decide⟩

/-- When the first request ends at number 0, the hole behind it is not noticed: the held
request is parsed as if its predecessor was lost, and that one is dropped when it arrives.
With 100 added to the client's numbers it is parsed. -/
theorem hole_at_zero_missed :
    (Machine.run (handle passiveOps) newService (swappedEvents (-10))).parsed.map
        (fun call => (call.hdr.startSeq.cli, call.isPktDrop)) = [(-10, false), (10, true)] ∧
    (Machine.run (handle passiveOps) newService
        ((swappedEvents (-10)).map (SvcEvent.translate ⟨100, 0⟩))).parsed.map
        (fun call => (call.hdr.startSeq.cli, call.isPktDrop)) = [(90, false), (100, false)] ∧
    (Machine.run (handle passiveOps) newService
        ((swappedEvents (-10)).map (SvcEvent.translate ⟨100, 0⟩))).parsed ≠
      (Machine.run (handle passiveOps) newService (swappedEvents (-10))).parsed.map
        (ParseCall.translate ⟨100, 0⟩) := by
  decide +kernel

end SvcInfoCap

end Gyeeta.Capture
