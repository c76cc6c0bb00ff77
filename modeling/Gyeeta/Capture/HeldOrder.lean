import Gyeeta.Capture.Provenance
import Gyeeta.Lib.Run
import Mathlib.Data.List.Infix

/-!
# The order of held packets

A new packet is put behind the last held one that it follows: one of its own direction that ends
before it starts, or one of the other direction that acknowledges nothing behind its start.
Packets of one direction are in the order of their starts as long as these two rules agree.
-/

namespace Gyeeta.Capture

open List

/-! ## Insertion -/

/-- Of two packets of one direction, the first one does not start after the second one. -/
def InOrder (first second : ReorderPktHdr) : Prop :=
  first.dir = second.dir → 0 ≤ Serial.diff second.startPktSeq first.startPktSeq

instance (first second : ReorderPktHdr) : Decidable (InOrder first second) :=
  inferInstanceAs (Decidable (_ → _))

/-- The packets of each direction are in the order of their starts. -/
def Sorted (rlist : List ReorderPktHdr) : Prop :=
  rlist.Pairwise InOrder

instance (rlist : List ReorderPktHdr) : Decidable (Sorted rlist) :=
  inferInstanceAs (Decidable (List.Pairwise _ _))

/-- A new packet fits to the held ones: the numbers of its direction span less than `2 ^ 31`, no
held packet of its direction reaches over its start, and no packet of the other direction that
acknowledges nothing behind its start stands behind one of its direction that starts later. -/
structure Orderly (rlist : List ReorderPktHdr) (new : ReorderPktHdr) : Prop where
  span : ∃ (base : Seq) (newOffset : Nat), newOffset < 2 ^ 31 ∧
    new.startPktSeq = base + BitVec.ofNat 32 newOffset ∧
    ∀ held ∈ rlist, held.dir = new.dir → ∃ offset, offset + held.datalen < 2 ^ 31 ∧
      held.startPktSeq = base + BitVec.ofNat 32 offset
  apart : ∀ held ∈ rlist, held.dir = new.dir →
    Ctx.overlap held new ≤ 0 ∨ 0 ≤ Serial.diff held.startPktSeq new.startPktSeq
  acks : rlist.Pairwise fun before behind => before.dir = new.dir → behind.dir ≠ new.dir →
    0 < Serial.diff before.startPktSeq new.startPktSeq → 0 < Ctx.overlap behind new

variable {new : ReorderPktHdr}

lemma Orderly.suffix {rlist rest : List ReorderPktHdr}
    (orderly : Orderly rlist new) (isSuffix : rest <:+ rlist) : Orderly rest new := by
  constructor
  · obtain ⟨base, newOffset, newSmall, newStart, span⟩ := orderly.span
    exact ⟨base, newOffset, newSmall, newStart, fun held mem =>
      span held (isSuffix.subset mem)⟩
  · intro held mem
    exact orderly.apart held (isSuffix.subset mem)
  · exact orderly.acks.sublist isSuffix.sublist

lemma insertBehind_none {rlist : List ReorderPktHdr}
    (notFound : Ctx.insertBehind rlist new = none) : ∀ pkt ∈ rlist, 0 < Ctx.overlap pkt new := by
  induction rlist with
  | nil => exact fun _ mem => absurd mem not_mem_nil
  | cons held rest ih =>
    rw [Ctx.insertBehind] at notFound
    split at notFound
    · cases notFound
    next noneBehind =>
    split at notFound
    · cases notFound
    next reaches =>
      rw [forall_mem_cons]
      exact ⟨Int.not_le.mp reaches, ih noneBehind⟩

lemma insertBehind_some {rlist inserted : List ReorderPktHdr}
    {last : Bool} (found : Ctx.insertBehind rlist new = some (inserted, last)) :
    ∃ before held behind, rlist = before ++ held :: behind ∧
      inserted = before ++ held :: new :: behind ∧ Ctx.overlap held new ≤ 0 ∧
      ∀ pkt ∈ behind, 0 < Ctx.overlap pkt new := by
  induction rlist generalizing inserted last with
  | nil => cases found
  | cons held rest ih =>
    rw [Ctx.insertBehind] at found
    split at found
    next isBehind =>
      cases found
      obtain ⟨before, follower, behind, rfl, rfl, follows, reaches⟩ := ih isBehind
      exact ⟨held :: before, follower, behind, rfl, rfl, follows, reaches⟩
    next noneBehind =>
    split at found
    next follows =>
      cases found
      exact ⟨[], held, rest, rfl, rfl, follows, insertBehind_none noneBehind⟩
    · cases found

section

variable {rlist : List ReorderPktHdr}

lemma Orderly.behind (orderly : Orderly rlist new) {pkt : ReorderPktHdr} (mem : pkt ∈ rlist)
    (reaches : 0 < Ctx.overlap pkt new) : InOrder new pkt := by
  intro same
  exact (orderly.apart pkt mem same.symm).resolve_left (Int.not_le.mpr reaches)

lemma Sorted.pushFront (sorted : Sorted rlist)
    (first : ∀ pkt ∈ rlist, InOrder new pkt) : Sorted (new :: rlist) :=
  pairwise_cons.mpr ⟨first, sorted⟩

lemma Orderly.before (orderly : Orderly rlist new) (sorted : Sorted rlist)
    {before behind : List ReorderPktHdr} {held : ReorderPktHdr}
    (isList : rlist = before ++ held :: behind) (follows : Ctx.overlap held new ≤ 0)
    {pkt : ReorderPktHdr} (mem : pkt ∈ before ++ [held]) : InOrder pkt new := by
  intro same
  subst isList
  obtain ⟨base, newOffset, newSmall, newStart, span⟩ := orderly.span
  have pktIn : pkt ∈ before ++ held :: behind := by
    rw [append_cons]
    exact mem_append_left _ mem
  have heldIn : held ∈ before ++ held :: behind :=
    mem_append_right _ mem_cons_self
  obtain ⟨pktOffset, pktSmall, pktStart⟩ := span pkt pktIn same
  by_cases own : held.dir = new.dir
  · -- The held packet of the same direction ends before the new one and is not before `pkt`.
    obtain ⟨heldOffset, heldSmall, heldStart⟩ := span held heldIn own
    rw [Ctx.overlap, if_pos own, heldStart, newStart, BitVec.add_assoc, ← BitVec.ofNat_add,
      Serial.diff_add_ofNat base heldSmall (by omega)] at follows
    have earlier : pktOffset ≤ heldOffset := by
      rcases mem_append.mp mem with inBefore | isHeld
      · have ordered := (pairwise_append.mp sorted).2.2 pkt inBefore held mem_cons_self
          (same.trans own.symm)
        rw [heldStart, pktStart, Serial.diff_add_ofNat base (by omega) (by omega)] at ordered
        omega
      · obtain rfl := mem_singleton.mp isHeld
        have starts := Serial.diff_add_ofNat base (show heldOffset < 2 ^ 31 by omega)
          (show pktOffset < 2 ^ 31 by omega)
        rw [← heldStart, ← pktStart, Serial.diff_self] at starts
        omega
    rw [newStart, pktStart, Serial.diff_add_ofNat base (by omega) (by omega)]
    omega
  · have inBefore : pkt ∈ before := by
      apply (mem_append.mp mem).resolve_right
      intro isHeld
      exact own (mem_singleton.mp isHeld ▸ same)
    have acks := (pairwise_append.mp orderly.acks).2.2 pkt inBefore held mem_cons_self
      same own
    have notLater := mt acks (Int.not_lt.mpr follows)
    rw [newStart, pktStart, Serial.diff_add_ofNat base (by omega) (by omega)] at notLater ⊢
    omega

lemma Sorted.insertBehind (sorted : Sorted rlist) (orderly : Orderly rlist new)
    {inserted : List ReorderPktHdr} {last : Bool}
    (found : Ctx.insertBehind rlist new = some (inserted, last)) : Sorted inserted := by
  obtain ⟨before, held, behind, isList, rfl, follows, reaches⟩ := insertBehind_some found
  have starts : ∀ pkt ∈ before ++ [held], InOrder pkt new :=
    fun pkt mem => orderly.before sorted isList follows mem
  have ends : ∀ pkt ∈ behind, InOrder new pkt := by
    intro pkt mem
    apply orderly.behind _ (reaches pkt mem)
    rw [isList]
    exact mem_append_right _ (mem_cons_of_mem _ mem)
  rw [isList, append_cons] at sorted
  obtain ⟨front, back, across⟩ := pairwise_append.mp sorted
  rw [append_cons]
  refine pairwise_append.mpr ⟨front, pairwise_cons.mpr ⟨ends, back⟩, ?_⟩
  intro pkt mem other isOther
  rcases mem_cons.mp isOther with rfl | isBehind
  · exact starts pkt mem
  · exact across pkt mem other isBehind

end

/-! ## Packets that are not inserted -/

namespace Ctx

variable {σ : Type} {hdr : ParsePktHdr}

/-- The held packets of the session. -/
abbrev heldPkts (ctx : Ctx σ) : List ReorderPktHdr :=
  ctx.sess.reorder.reorderList

variable {ctx : Ctx σ}

lemma heldPkts_of_view {other : Ctx σ} (same : other.view = ctx.view) :
    other.heldPkts = ctx.heldPkts :=
  congrArg (fun view : View => view.reorder.reorderList) same

variable (ops : ProtoOps σ)

lemma heldPkts_doProtoParse (ctx : Ctx σ) (hdr : ParsePktHdr) :
    (ctx.doProtoParse ops hdr).2.heldPkts = ctx.heldPkts := by
  obtain ⟨ends, -, isView⟩ := doProtoParse_ends ops ctx hdr
  have same := congrArg (fun view : View => view.reorder.reorderList) isView
  rw [View.endIf_reorder, View.deliver_reorderList] at same
  exact same

lemma heldPkts_restartSession (ctx : Ctx σ) (hdr : ParsePktHdr) :
    (ctx.restartSession ops hdr).heldPkts = [] := by
  have same := congrArg (fun view : View => view.reorder.reorderList)
    (view_restartSession ops ctx hdr)
  rw [View.restart_reorder] at same
  exact same

lemma heldPkts_chkDropsAndParse (ctx : Ctx σ) (hdr : ParsePktHdr) (ignReorder : Bool) :
    (ctx.chkDropsAndParse ops hdr ignReorder).2.heldPkts = ctx.heldPkts ∨
    (ctx.chkDropsAndParse ops hdr ignReorder).2.heldPkts = [] ∨
    (ignReorder = false ∧ (ctx.chkDropsAndParse ops hdr ignReorder).2 =
      ((ctx.noteDrops hdr).startReorder ops hdr).2) := by
  rw [chkDropsAndParse]
  rcases ctx.setPktDrops_cases hdr with ⟨-, isSet⟩ | ⟨-, isSet⟩
  · rw [isSet]
    dsimp only
    split
    · exact .inl rfl
    · exact .inl rfl
  rw [isSet]
  dsimp only
  split
  · rw [heldPkts_doProtoParse, heldPkts_restartSession]
    exact .inr (.inl rfl)
  split
  · rw [heldPkts_doProtoParse]
    exact .inl rfl
  split
  · rw [heldPkts_doProtoParse]
    exact .inl rfl
  next holds =>
  cases ignReorder with
  | true => exact absurd (by rw [Bool.true_or, Bool.true_or]) holds
  | false => exact .inr (.inr ⟨rfl, rfl⟩)

lemma suffix_chkDropsAndParse (ctx : Ctx σ) (hdr : ParsePktHdr) :
    (ctx.chkDropsAndParse ops hdr true).2.heldPkts <:+ ctx.heldPkts := by
  rcases heldPkts_chkDropsAndParse ops ctx hdr true with same | ended | ⟨holds, -⟩
  · rw [same]
  · rw [ended]
    exact nil_suffix
  · cases holds

lemma sorted_startReorder (empty : ctx.heldPkts = []) (hdr : ParsePktHdr) :
    Sorted (ctx.startReorder ops hdr).2.heldPkts := by
  rw [startReorder]
  split
  · rw [heldPkts_doProtoParse, empty]
    exact .nil
  obtain ⟨allocated, isView, isAlloc | isAlloc⟩ := allocReorder_cases ops ctx hdr
  · rw [isAlloc]
    dsimp only
    rw [heldPkts_doProtoParse, heldPkts_of_view isView, empty]
    exact .nil
  rw [isAlloc]
  have isList : ((allocated.pushFront (.new hdr) hdr).heldPkts) = [.new hdr] :=
    congrArg (List.cons _) ((heldPkts_of_view isView).trans empty)
  change Sorted (allocated.pushFront (.new hdr) hdr).heldPkts
  rw [isList]
  exact pairwise_singleton _ _

lemma sorted_chkDropsAndParse (empty : ctx.heldPkts = []) (hdr : ParsePktHdr) :
    Sorted (ctx.chkDropsAndParse ops hdr false).2.heldPkts := by
  rcases heldPkts_chkDropsAndParse ops ctx hdr false with same | ended | ⟨-, holds⟩
  · rw [same, empty]
    exact .nil
  · rw [ended]
    exact .nil
  · rw [holds]
    exact sorted_startReorder ops (show (ctx.noteDrops hdr).heldPkts = [] from empty) hdr

lemma suffix_sendReorderLoop (tcurrusec : Nat) (clearAll : Bool) (minpkts : Nat)
    (rlist : List ReorderPktHdr) (npkts : Nat) (ctx : Ctx σ) (isList : ctx.heldPkts = rlist) :
    (sendReorderLoop ops tcurrusec clearAll minpkts rlist npkts ctx).2.heldPkts <:+ rlist := by
  induction rlist generalizing npkts ctx with
  | nil =>
    rw [sendReorderLoop, isList]
  | cons pkt rest ih =>
    have popped : ∀ {other : Ctx σ}, other.heldPkts = pkt :: rest → ∀ npkts,
        (sendReorderLoop ops tcurrusec clearAll minpkts rest npkts
          (other.modifyList List.tail)).2.heldPkts <:+ pkt :: rest := by
      intro other isOther npkts
      apply (ih npkts _ _).trans (suffix_cons _ _)
      exact congrArg List.tail isOther
    rw [sendReorderLoop]
    split
    · rw [isList]
    split
    · exact popped isList _
    next hdr pooled =>
    rcases ctx.setPktDrops_cases hdr with ⟨-, isSet⟩ | ⟨-, isSet⟩
    · rw [isSet]
      exact popped isList _
    rw [isSet]
    dsimp only
    split
    · rw [heldPkts_restartSession]
      exact nil_suffix
    split
    · exact isList ▸ suffix_refl _
    · apply popped
      rw [heldPkts_doProtoParse]
      exact isList

lemma suffix_sendReorderToParser (ctx : Ctx σ) (tcurrusec : Nat) (clearAll : Bool) :
    (ctx.sendReorderToParser ops tcurrusec clearAll).heldPkts <:+ ctx.heldPkts := by
  have sent := suffix_sendReorderLoop ops tcurrusec clearAll (minPkts ctx.heldPkts) ctx.heldPkts 0
    ctx rfl
  rw [sendReorderToParser]
  split
  next isSent =>
    rw [isSent] at sent
    exact sent
  next isSent =>
  rw [isSent] at sent
  split
  · exact sent
  · exact sent

lemma sorted_of_suffix {after : Ctx σ} (sorted : Sorted ctx.heldPkts)
    (isSuffix : after.heldPkts <:+ ctx.heldPkts) : Sorted after.heldPkts :=
  List.Pairwise.sublist isSuffix.sublist sorted

lemma suffix_sendAllAndParse (ctx : Ctx σ) (tcurrusec : Nat) (hdr : ParsePktHdr) :
    ((ctx.sendReorderToParser ops tcurrusec true).chkDropsAndParse ops hdr true).2.heldPkts <:+
      ctx.heldPkts :=
  (suffix_chkDropsAndParse ops _ hdr).trans (suffix_sendReorderToParser ops ctx tcurrusec true)

lemma suffix_parseAndSend (ctx : Ctx σ) (hdr : ParsePktHdr) (clearAll : Bool) :
    (match ctx.chkDropsAndParse ops hdr true with
      | (true, ctx) => (true, ctx.sendReorderToParser ops hdr.tvUsec clearAll)
      | (false, ctx) => (false, ctx)).2.heldPkts <:+ ctx.heldPkts := by
  have parsed := suffix_chkDropsAndParse ops ctx hdr
  split
  next isParsed =>
    rw [isParsed] at parsed
    exact (suffix_sendReorderToParser ops _ _ _).trans parsed
  next isParsed =>
    rw [isParsed] at parsed
    exact parsed

/-! ## Packets that are inserted -/

section

variable (sorted : Sorted ctx.heldPkts)
include sorted

lemma sorted_addFirst (first : ∀ pkt ∈ ctx.heldPkts, InOrder (.new hdr) pkt) :
    Sorted (ctx.addFirst ops hdr).2.heldPkts := by
  rw [addFirst]
  obtain ⟨allocated, isView, isAlloc | isAlloc⟩ := allocReorder_cases ops ctx hdr
  · rw [← heldPkts_of_view isView] at sorted
    rw [isAlloc]
    exact sorted_of_suffix sorted (suffix_parseAndSend ops allocated hdr true)
  · rw [← heldPkts_of_view isView] at sorted first
    rw [isAlloc]
    exact sorted.pushFront first

variable (orderly : Orderly ctx.heldPkts (.new hdr))
include orderly

lemma sorted_addToReorderList : Sorted (ctx.addToReorderList ops (.new hdr) hdr).2.heldPkts := by
  rw [addToReorderList]
  split
  next rlist last found =>
    have inserted := sorted.insertBehind orderly found
    dsimp only
    split
    · exact inserted
    · exact inserted
  next notFound =>
  have first : ∀ pkt ∈ ctx.heldPkts, InOrder (.new hdr) pkt := fun pkt mem =>
    orderly.behind mem (insertBehind_none notFound pkt mem)
  dsimp only
  split
  · exact sorted
  · exact sorted_of_suffix sorted (suffix_sendAllAndParse ops ctx.countDropNew _ hdr)
  · exact sorted.pushFront first
  · exact sorted.pushFront first

lemma sorted_allocAndAdd : Sorted (ctx.allocAndAdd ops hdr).2.heldPkts := by
  rw [allocAndAdd]
  obtain ⟨allocated, isView, isAlloc | isAlloc⟩ := allocReorder_cases ops ctx hdr
  · rw [← heldPkts_of_view isView] at sorted
    rw [isAlloc]
    exact sorted_of_suffix sorted (suffix_sendAllAndParse ops allocated _ hdr)
  · rw [← heldPkts_of_view isView] at sorted orderly
    rw [isAlloc]
    exact sorted_addToReorderList ops sorted orderly

lemma sorted_addElem : Sorted (ctx.addElem ops hdr).2.heldPkts := by
  rw [addElem]
  split
  · have isSuffix := suffix_sendReorderToParser ops ctx.countSkip hdr.tvUsec false
    dsimp only
    split
    next empty =>
      exact sorted_chkDropsAndParse ops (isEmpty_iff.mp empty) hdr
    · exact sorted_allocAndAdd ops (sorted_of_suffix sorted isSuffix) (orderly.suffix isSuffix)
  · exact sorted_allocAndAdd ops sorted orderly

end

end Ctx

/-- The packet starts where the hole in front of the held packets starts, or in it. -/
def ReorderInfo.StartsInHole (info : ReorderInfo) (hdr : ParsePktHdr) : Prop :=
  info.expSeqStart.get hdr.side ≠ 0 ∧
    (Serial.diff (info.expSeqStart.get hdr.side) (hdr.startSeq.get hdr.side) = 0 ∨
      0 < Serial.diff (info.seenSeq.get hdr.side) (hdr.startSeq.get hdr.side) ∧
        Serial.diff (info.expSeqStart.get hdr.side) (hdr.startSeq.get hdr.side) < 0)

instance (info : ReorderInfo) (hdr : ParsePktHdr) : Decidable (info.StartsInHole hdr) :=
  inferInstanceAs (Decidable (_ ∧ _))

/-- What a packet needs to be held in order: in the hole it starts before the held packets of its
direction, and elsewhere it fits to them. -/
structure ReorderInfo.Fits (info : ReorderInfo) (hdr : ParsePktHdr) : Prop where
  first : info.StartsInHole hdr → ∀ pkt ∈ info.reorderList, InOrder (.new hdr) pkt
  orderly : ¬info.StartsInHole hdr → Orderly info.reorderList (.new hdr)

lemma ReorderInfo.Fits.init (hdr : ParsePktHdr) : ReorderInfo.init.Fits hdr := by
  constructor
  · rintro ⟨expected, -⟩
    exact absurd (by cases hdr.side <;> rfl) expected
  intro _
  constructor
  · refine ⟨hdr.startSeq.get hdr.side, 0, by decide, (BitVec.add_zero _).symm, ?_⟩
    exact fun _ mem => absurd mem not_mem_nil
  · exact fun _ mem => absurd mem not_mem_nil
  · exact .nil

namespace Ctx

variable {σ : Type} {hdr : ParsePktHdr} {ctx : Ctx σ} (ops : ProtoOps σ)
  (sorted : Sorted ctx.heldPkts) (fits : ctx.sess.reorder.Fits hdr)
include sorted fits

/-- A packet that fits to the held ones leaves them in order. -/
lemma sorted_handleReorder : Sorted (ctx.handleReorder ops hdr).2.heldPkts := by
  rw [handleReorder]
  dsimp only
  split
  next expected =>
    split
    next atHole =>
      have first := fits.first ⟨expected, .inl atHole⟩
      split
      · split
        · exact sorted_of_suffix sorted
            (suffix_parseAndSend ops (ctx.countReorder hdr.datalen) hdr false)
        · have counted : Sorted (ctx.countReorder hdr.datalen).heldPkts := sorted
          exact sorted_addFirst ops counted first
      · exact sorted_of_suffix sorted
          (suffix_parseAndSend ops (ctx.countReorder hdr.datalen) hdr false)
    next notAtHole =>
    split
    next inHole =>
      exact sorted_addFirst ops (show Sorted (ctx.countReorder hdr.datalen).heldPkts from sorted)
        (fits.first ⟨expected, .inr inHole⟩)
    next notInHole =>
    apply sorted_addElem ops sorted
    apply fits.orderly
    rintro ⟨-, atHole | inHole⟩
    · exact notAtHole atHole
    · exact notInHole inHole
  next notExpected =>
  split
  · apply sorted_addElem ops sorted
    apply fits.orderly
    rintro ⟨expected, -⟩
    exact notExpected expected
  · exact sorted_of_suffix sorted (suffix_sendAllAndParse ops ctx _ hdr)

lemma sorted_reorderOrParse : Sorted (if ctx.sess.reorderActive then ctx.handleReorder ops hdr
      else ctx.chkDropsAndParse ops hdr false).2.heldPkts := by
  split
  · exact sorted_handleReorder ops sorted fits
  next inactive =>
  apply sorted_chkDropsAndParse ops
  rw [SvcSession.reorderActive, ReorderInfo.isActive, Bool.not_eq_true,
    Bool.not_eq_false'] at inactive
  exact isEmpty_iff.mp inactive

lemma sorted_parseSessPkt : Sorted (ctx.parseSessPkt ops hdr).2.heldPkts := by
  by_cases change : hdr.src = .uprobeSsl ∧ (!ctx.sess.common.isSsl) = true
  · have empty : (sslChange ops ctx hdr).sess.reorder = .init :=
      congrArg View.reorder (view_sslChange ops ctx hdr)
    rw [parseSessPkt_ssl ops change, SvcSession.reorderActive, empty, if_neg (by decide)]
    exact sorted_chkDropsAndParse ops (congrArg ReorderInfo.reorderList empty) hdr
  · rw [parseSessPkt, if_neg change]
    exact sorted_reorderOrParse ops sorted fits

end Ctx

/-! ## Runs -/

namespace SvcInfoCap

variable {σ : Type} {hdr : ParsePktHdr}

/-- The held packets of all sessions are in order. -/
def HeldSorted (svc : SvcInfoCap σ) : Prop :=
  ∀ key sess, svc.findSess key = some sess → Sorted sess.reorder.reorderList

variable {sess : SvcSession} {ctx : Ctx σ} (ops : ProtoOps σ)

section

variable (sorted : Sorted ctx.heldPkts)
include sorted

lemma sorted_leaveSess {key : IpPort} (isKey : ctx.key = key)
    (found : (leaveSess ops ctx).findSess key = some sess) : Sorted sess.reorder.reorderList := by
  rw [← isKey, findSess_leaveSess] at found
  split at found
  · cases found
  · cases found
    exact sorted

lemma sorted_parseIn (fits : ctx.sess.reorder.Fits hdr)
    (found : (parseIn ops ctx hdr).2.findSess ctx.key = some sess) :
    Sorted sess.reorder.reorderList := by
  rw [parseIn] at found
  split at found
  next ended =>
    rw [← show leaveSess ops ctx = eraseSess ops ctx from if_pos ended] at found
    exact sorted_leaveSess ops sorted rfl found
  · obtain ⟨stamped, isStamped, isKey, isReorder⟩ : ∃ stamped : Ctx σ,
        (if hdr.tcpflags.isFinRst then
          ctx.modifyCommon fun common => { common with tcloseUsec := hdr.tvUsec }
        else ctx) = stamped ∧ stamped.key = ctx.key ∧
          stamped.sess.reorder = ctx.sess.reorder := by
      split
      · exact ⟨_, rfl, rfl, rfl⟩
      · exact ⟨_, rfl, rfl, rfl⟩
    have stampedSorted : Sorted stamped.heldPkts := by
      rw [Ctx.heldPkts, isReorder]
      exact sorted
    rw [isStamped, ← isKey] at found
    dsimp only at found
    split at found
    · rw [findSess_putSess] at found
      cases found
      exact stampedSorted
    split at found
    · rw [findSess_putSess] at found
      cases found
      exact stampedSorted
    have steps : Steps (fun _ => True) stamped.view (stamped.parseSessPkt ops hdr).2.view :=
      Ctx.steps_parseSessPkt ops stamped trivial fun _ _ _ _ => trivial
    rw [← isReorder] at fits
    exact sorted_leaveSess ops (Ctx.sorted_parseSessPkt ops stampedSorted fits)
      (Steps.follows steps).key found

end

/-- A packet that fits to the held packets of its session. -/
def Orders (svc : SvcInfoCap σ) : SvcEvent → Prop
  | .pkt hdr => ∀ sess, svc.findSess hdr.cli = some sess → sess.reorder.Fits hdr
  | .timer _ => True

variable {svc : SvcInfoCap σ}

section

variable (sorted : svc.HeldSorted)
include sorted

lemma HeldSorted.parsePkt (fits : svc.Orders (.pkt hdr)) : (svc.parsePkt ops hdr).2.HeldSorted := by
  intro key sess found
  by_cases own : key = hdr.cli
  · subst own
    cases isSess : svc.findSess hdr.cli with
    | some before =>
      rw [parsePkt_found ops isSess] at found
      have beforeSorted : Sorted (Ctx.mk svc hdr.cli before).heldPkts := sorted _ _ isSess
      exact sorted_parseIn ops beforeSorted (fits before isSess) found
    | none =>
      rcases @openSess_cases σ (fun _ => True) svc hdr trivial isSess with
        ⟨_, ignored, sessmap, -⟩ | ⟨ctx, entered, opened⟩
      · rw [parsePkt_ignored ops isSess ignored, findSess_eq_of_sessmap sessmap, isSess] at found
        cases found
      rw [parsePkt_opened ops isSess opened, ← entered.keyEq] at found
      have fresh : ctx.sess.reorder = .init := by
        rcases entered.sess with ⟨isOld, -⟩ | ⟨-, -, -, -, fresh, -⟩
        · rw [isSess] at isOld
          cases isOld
        · exact fresh
      have empty : ctx.heldPkts = [] := congrArg ReorderInfo.reorderList fresh
      exact sorted_parseIn ops (empty ▸ .nil) (fresh ▸ .init hdr) found
  · have worked : Worked ops (fun _ => True) hdr.cli svc (svc.parsePkt ops hdr).2 :=
      worked_parsePkt ops svc trivial fun _ _ _ _ _ _ => trivial
    rw [worked.findSess_ne own] at found
    exact sorted key sess found

lemma HeldSorted.chkReorder (tcurrusec : Nat) (key : IpPort) :
    (svc.chkReorder ops tcurrusec key).HeldSorted := by
  intro other sess found
  by_cases own : other = key
  · subst own
    rw [SvcInfoCap.chkReorder] at found
    split at found
    · exact sorted other sess found
    next before isSess =>
    split at found
    · have beforeSorted : Sorted (Ctx.mk svc other before).heldPkts := sorted _ _ isSess
      have steps : Steps (fun _ => True) (Ctx.mk svc other before).view
          ((Ctx.mk svc other before).sendReorderToParser ops tcurrusec false).view :=
        Ctx.steps_sendReorderToParser ops _ tcurrusec false fun _ _ _ _ => trivial
      exact sorted_leaveSess ops (Ctx.sorted_of_suffix beforeSorted
        (Ctx.suffix_sendReorderToParser ops _ tcurrusec false)) (Steps.follows steps).key found
    · exact sorted other sess found
  · have worked : Worked ops (fun _ => True) key svc (svc.chkReorder ops tcurrusec key) :=
      worked_chkReorder ops tcurrusec svc fun _ _ _ _ _ _ => trivial
    rw [worked.findSess_ne own] at found
    exact sorted other sess found

/-- Every event keeps the order of the held packets. -/
lemma HeldSorted.handle {event : SvcEvent} (orders : svc.Orders event) :
    (svc.handle ops event).HeldSorted := by
  cases event with
  | pkt hdr => exact sorted.parsePkt ops orders
  | timer tcurrusec =>
    rw [SvcInfoCap.handle, chkSvcReorders]
    split
    · apply List.foldlRecOn _ _ sorted
      intro before isSorted key _
      exact isSorted.chkReorder ops tcurrusec key
    · exact sorted

end

/-- The held packets of every session are in order in every state reached, where each packet fits
to those held before it. -/
theorem run_heldSorted (ops : ProtoOps σ) {svc : SvcInfoCap σ} (sorted : svc.HeldSorted)
    (events : List SvcEvent) (orders : Machine.Guarded (handle ops) Orders svc events) :
    (Machine.run (handle ops) svc events).HeldSorted := by
  have keeps : ∀ (svc : SvcInfoCap σ) (event : SvcEvent), svc.HeldSorted → svc.Orders event →
      (svc.handle ops event).HeldSorted := fun _ _ before now => before.handle ops now
  exact orders.invariant keeps sorted

/-- Packets of a client with a hole behind the first one. -/
def pktsWithHole : List SvcEvent :=
  [.pkt (capturedPkt .inbound 1000 5000 false 100), .pkt (capturedPkt .inbound 1300 5000 false 100),
    .pkt (capturedPkt .inbound 1600 5000 false 100)]

lemma heldSorted_newService : newService.HeldSorted := by
  intro key sess found
  cases found

theorem run_heldSorted_hole :
    (Machine.run (handle passiveOps) newService pktsWithHole).HeldSorted := by
  refine run_heldSorted passiveOps heldSorted_newService pktsWithHole ⟨?_, ?_, ?_, trivial⟩
  · intro sess found
    cases found
  · intro sess found
    cases found
    exact .init _
  intro sess found
  cases found
  constructor
  · intro hole
    exact absurd hole (by decide)
  intro _
  constructor
  · refine ⟨1300, 300, by decide, by decide, ?_⟩
    intro held mem _
    obtain rfl := mem_singleton.mp mem
    exact ⟨0, by decide, by decide⟩
  · decide
  · decide

/-- A packet that starts between the held ones of its direction is put behind a response to the
first packet. -/
theorem addToReorderList_unsorted : ¬(Machine.run (handle passiveOps) newService
      (pktsWithHole ++ [.pkt (capturedPkt .outbound 5000 1100 false 100),
        .pkt (capturedPkt .inbound 1450 5000 false 50)])).HeldSorted := by
  intro sorted
  have held := fun sess => sorted ⟨1, 2⟩ sess
  exact absurd held (by decide +kernel)

end SvcInfoCap

end Gyeeta.Capture
