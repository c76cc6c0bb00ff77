import Gyeeta.Capture.View
import Mathlib.Logic.Relation

/-!
# What the reorder code can do

Every function of the reorder code changes the view of its session by a few elementary steps: it
notes the drops of a packet, parses a packet whose drops are noted, restarts the session, holds a
packet or drops one, or leaves reordering.  What holds along such steps holds of all functions.
-/

namespace Gyeeta.Capture

open List

/-- Every held packet is one of the available ones. -/
def View.HoldsOnly (view : View) (avail : ParsePktHdr → Prop) : Prop :=
  ∀ pkt ∈ view.reorder.reorderList, ∀ hdr ∈ pkt.pooluniq, avail hdr

/-- The session has noted the drops of the packet, which is neither a retransmit nor
the start of a new session. -/
structure View.Noted (view : View) (hdr : ParsePktHdr) : Prop where
  dropType : view.common.dropType = .mk' hdr.side (Ctx.pktDrops view.common hdr).1
    (Ctx.pktDrops view.common hdr).2
  fresh : (Ctx.pktDrops view.common hdr).1 ≠ .retransmit
  running : (Ctx.pktDrops view.common hdr).1 ≠ .dropNewSess

/-- The effect of `set_reorder_end`. -/
def View.reorderEnd (view : View) : View :=
  let present := view.sessrdrmap.any (·.1 = view.key)
  let rest := view.sessrdrmap.filter (·.1 ≠ view.key)
  { view with
    sessrdrmap := rest
    inReordermap := view.inReordermap && !(present && rest.isEmpty)
    reorder := { view.reorder with expSeqStart := ⟨0, 0⟩ }
    isrdrmap := false }

/-- The effect of the construction of a session from a packet. -/
def View.make (view : View) (hdr : ParsePktHdr) : View :=
  { view with
    acts := view.acts ++ [.made hdr]
    common := .new hdr
    reorder := .init
    toDelete := false
    isrdrmap := false }

/-- The effect of the destructor of a session and its construction from a packet. -/
def View.restart (view : View) (hdr : ParsePktHdr) : View :=
  (if view.reorder.isActive || view.isrdrmap then view.reorderEnd else view).make hdr

/-- The end of a connection marks the session for deletion. -/
def View.endIf (view : View) (ends : Bool) : View :=
  if ends then { view with toDelete := true } else view

/-- The effect of holding the first packet of a session: the session is registered. -/
def View.startHold (view : View) (hdr : ParsePktHdr) : View :=
  { view.pushFront hdr with
    sessrdrmap := (view.key, hdr.tvUsec) :: view.sessrdrmap.filter (·.1 ≠ view.key)
    inReordermap := true
    isrdrmap := true }

/-- The effect of dropping the first held packet. -/
def View.popFront (view : View) : View :=
  { view with reorder := { view.reorder with reorderList := view.reorder.reorderList.tail } }

/-- The effect of noting when the connection was made and when it ended. -/
def View.stamp (view : View) (tconnectUsec tcloseUsec : Nat) : View :=
  { view with common := { view.common with
      tconnectUsec := tconnectUsec, tcloseUsec := tcloseUsec } }

/-- The effect of a session's change to the decrypted data of an SSL probe. -/
def View.srcChange (view : View) (hdr : ParsePktHdr) : View :=
  let ended := if view.reorder.isActive then view.reorderEnd else view
  { ended with reorder := .init, common := ended.common.setSrcChg hdr }

/-- One elementary step of a function that has only the available packets to work
with. -/
inductive Step (avail : ParsePktHdr → Prop) : View → View → Prop where
  | note (view : View) {hdr : ParsePktHdr} (given : avail hdr) :
      Step avail view (view.noteDrops hdr)
  | parse (view : View) {hdr : ParsePktHdr} (given : avail hdr) (noted : view.Noted hdr)
      (ends : Bool) (finRst : ends = true → hdr.tcpflags.isFinRst = true) :
      Step avail view ((view.deliver hdr).endIf ends)
  | restart (view : View) {hdr : ParsePktHdr} (given : avail hdr)
      (newSess : (Ctx.pktDrops view.common hdr).1 = .dropNewSess) :
      Step avail view (view.restart hdr)
  | reparse (view : View) {hdr : ParsePktHdr} (given : avail hdr)
      (newSess : (Ctx.pktDrops view.common hdr).1 = .dropNewSess)
      (ends : Bool) (finRst : ends = true → hdr.tcpflags.isFinRst = true) :
      Step avail view (((view.restart hdr).deliver hdr).endIf ends)
  | hold (view : View) {hdr : ParsePktHdr} (given : avail hdr)
      (active : view.reorder.reorderList ≠ []) :
      Step avail view (view.pushFront hdr)
  | startHold (view : View) {hdr : ParsePktHdr} (given : avail hdr) :
      Step avail view (view.startHold hdr)
  | insert (view : View) {hdr : ParsePktHdr} (given : avail hdr)
      {rlist : List ReorderPktHdr} {last : Bool}
      (found : Ctx.insertBehind view.reorder.reorderList (.new hdr) = some (rlist, last)) :
      Step avail view { view with reorder := { view.reorder with reorderList := rlist } }
  | pop (view : View) : Step avail view view.popFront
  | reorderEnd (view : View) (empty : view.reorder.reorderList = []) :
      Step avail view view.reorderEnd
  | stamp (view : View) (tconnectUsec tcloseUsec : Nat) :
      Step avail view (view.stamp tconnectUsec tcloseUsec)
  | srcChange (view : View) {hdr : ParsePktHdr} (given : avail hdr)
      (ssl : hdr.src = .uprobeSsl) :
      Step avail view (view.srcChange hdr)

/-- A sequence of elementary steps. -/
abbrev Steps (avail : ParsePktHdr → Prop) : View → View → Prop :=
  Relation.ReflTransGen (Step avail)

/-! ## Held packets stay available -/

lemma mem_insertBehind {rlist inserted : List ReorderPktHdr} {new : ReorderPktHdr}
    {last : Bool} (found : Ctx.insertBehind rlist new = some (inserted, last)) :
    ∀ pkt ∈ inserted, pkt = new ∨ pkt ∈ rlist := by
  induction rlist generalizing inserted last with
  | nil => simp [Ctx.insertBehind] at found
  | cons held rest ih =>
    rw [Ctx.insertBehind] at found
    split at found
    next later last' eq =>
      cases found
      intro pkt mem
      rcases mem_cons.mp mem with rfl | mem
      · exact .inr mem_cons_self
      · exact (ih eq pkt mem).imp_right (mem_cons_of_mem _)
    · split at found
      · cases found
        intro pkt mem
        simp only [mem_cons] at mem ⊢
        tauto
      · cases found

variable (view : View) (ends : Bool)

@[simp] lemma View.endIf_reorder : (view.endIf ends).reorder = view.reorder := by
  cases ends <;> rfl

@[simp] lemma View.endIf_common : (view.endIf ends).common = view.common := by
  cases ends <;> rfl

@[simp] lemma View.endIf_parsed : (view.endIf ends).parsed = view.parsed := by
  cases ends <;> rfl

@[simp] lemma View.endIf_acts : (view.endIf ends).acts = view.acts := by
  cases ends <;> rfl

@[simp] lemma View.endIf_key : (view.endIf ends).key = view.key := by
  cases ends <;> rfl

@[simp] lemma View.endIf_sessmap : (view.endIf ends).sessmap = view.sessmap := by
  cases ends <;> rfl

@[simp] lemma View.endIf_toDelete : (view.endIf ends).toDelete = (view.toDelete || ends) := by
  cases ends <;> simp [View.endIf]

section

variable (hdr : ParsePktHdr)
include hdr

@[simp] lemma View.restart_key : (view.restart hdr).key = view.key := by
  rw [View.restart]
  split <;> rfl

@[simp] lemma View.restart_sessmap :
    (view.restart hdr).sessmap = view.sessmap := by
  rw [View.restart]
  split <;> rfl

@[simp] lemma View.restart_parsed :
    (view.restart hdr).parsed = view.parsed := by
  rw [View.restart]
  split <;> rfl

@[simp] lemma View.restart_acts :
    (view.restart hdr).acts = view.acts ++ [.made hdr] := by
  rw [View.restart]
  split <;> rfl

@[simp] lemma View.restart_common :
    (view.restart hdr).common = .new hdr := rfl

@[simp] lemma View.restart_reorder : (view.restart hdr).reorder = .init := rfl

@[simp] lemma View.deliver_parsed :
    (view.deliver hdr).parsed = view.parsed ++ [⟨hdr, view.common.dropType⟩] := rfl

@[simp] lemma View.deliver_common :
    (view.deliver hdr).common = view.common.updStats hdr := rfl

@[simp] lemma View.srcChange_key : (view.srcChange hdr).key = view.key := by
  simp only [View.srcChange]
  split <;> rfl

@[simp] lemma View.srcChange_sessmap :
    (view.srcChange hdr).sessmap = view.sessmap := by
  simp only [View.srcChange]
  split <;> rfl

@[simp] lemma View.srcChange_parsed :
    (view.srcChange hdr).parsed = view.parsed := by
  simp only [View.srcChange]
  split <;> rfl

@[simp] lemma View.srcChange_acts :
    (view.srcChange hdr).acts = view.acts := by
  simp only [View.srcChange]
  split <;> rfl

@[simp] lemma View.srcChange_toDelete :
    (view.srcChange hdr).toDelete = view.toDelete := by
  simp only [View.srcChange]
  split <;> rfl

end

variable {avail : ParsePktHdr → Prop} {hdr : ParsePktHdr}

lemma View.HoldsOnly.pushFront {view : View} (holds : view.HoldsOnly avail)
    (given : avail hdr) : (view.pushFront hdr).HoldsOnly avail := by
  intro pkt mem held heldIn
  rcases mem_cons.mp mem with rfl | mem
  · cases heldIn
    exact given
  · exact holds pkt mem held heldIn

lemma View.holdsOnly_of_nil {view : View} (empty : view.reorder.reorderList = []) :
    view.HoldsOnly avail := by
  intro pkt mem
  rw [empty] at mem
  cases mem

lemma Step.holdsOnly {before after : View} (step : Step avail before after)
    (holds : before.HoldsOnly avail) : after.HoldsOnly avail := by
  cases step with
  | note => exact holds
  | parse given noted ends finRst =>
    intro pkt mem
    rw [View.endIf_reorder, View.deliver_reorderList] at mem
    exact holds pkt mem
  | restart => exact View.holdsOnly_of_nil rfl
  | reparse given newSess ends finRst =>
    apply View.holdsOnly_of_nil
    rw [View.endIf_reorder, View.deliver_reorderList]
    rfl
  | hold given => exact holds.pushFront given
  | startHold given => exact holds.pushFront given
  | insert given found =>
    intro pkt mem held heldIn
    rcases mem_insertBehind found pkt mem with rfl | mem
    · cases heldIn
      exact given
    · exact holds pkt mem held heldIn
  | pop => exact fun pkt mem => holds pkt (mem_of_mem_tail mem)
  | reorderEnd => exact holds
  | stamp => exact holds
  | srcChange => exact View.holdsOnly_of_nil rfl

lemma Steps.holdsOnly {before after : View} (steps : Steps avail before after)
    (holds : before.HoldsOnly avail) : after.HoldsOnly avail := by
  induction steps with
  | refl => exact holds
  | tail _ step ih => exact step.holdsOnly ih

/-! ## The primitive functions -/

lemma isTcpDrop_newSess (expSeq actSeq expAck actAck : Seq) (isSyn isFinack : Bool) :
    (isTcpDrop expSeq actSeq expAck actAck isSyn isFinack).2 = .dropNewSess →
      (isTcpDrop expSeq actSeq expAck actAck isSyn isFinack).1 = .dropNewSess := by
  simp only [isTcpDrop]
  split_ifs <;> simp

namespace Ctx

variable {σ : Type}

variable (ctx : Ctx σ)

lemma setPktDrops_cases (hdr : ParsePktHdr) :
    ((pktDrops ctx.sess.common hdr).1 = .retransmit ∧ ctx.setPktDrops hdr = (false, ctx)) ∨
    ((pktDrops ctx.sess.common hdr).1 ≠ .retransmit ∧
      ctx.setPktDrops hdr = (true, ctx.noteDrops hdr)) := by
  by_cases again : (pktDrops ctx.sess.common hdr).1 = .retransmit
  · exact .inl ⟨again, by simp [setPktDrops, again]⟩
  · exact .inr ⟨again, by simp [setPktDrops, again]⟩

variable (ops : ProtoOps σ)

lemma allocReorder_cases (ctx : Ctx σ) (hdr : ParsePktHdr) :
    ∃ allocated : Ctx σ, allocated.view = ctx.view ∧ (ctx.allocReorder ops hdr = (none, allocated) ∨
        ctx.allocReorder ops hdr = (some (.new hdr), allocated)) := by
  rw [allocReorder]
  split
  · refine ⟨_, ?_, .inr rfl⟩
    rfl
  · refine ⟨_, ?_, .inl rfl⟩
    rfl

@[simp] lemma isDropNewSess_noteDrops (hdr : ParsePktHdr) :
    (ctx.noteDrops hdr).isDropNewSess = ((pktDrops ctx.sess.common hdr).1 = .dropNewSess ||
        (pktDrops ctx.sess.common hdr).2 = .dropNewSess) := by
  cases side : hdr.side <;>
    simp [isDropNewSess, noteDrops, modifyCommon, PerSide.mk', side, Bool.or_comm]

@[simp] lemma isPktDrop_noteDrops (hdr : ParsePktHdr) :
    (ctx.noteDrops hdr).sess.common.isPktDrop = ((pktDrops ctx.sess.common hdr).1 = .dropSeen ||
        (pktDrops ctx.sess.common hdr).2 = .dropSeen) := by
  cases side : hdr.side <;>
    simp [CommonProto.isPktDrop, noteDrops, modifyCommon, PerSide.mk', side, Bool.or_comm]

lemma isDropNewSess_noteDrops_iff (hdr : ParsePktHdr) :
    (ctx.noteDrops hdr).isDropNewSess = true ↔ (pktDrops ctx.sess.common hdr).1 = .dropNewSess := by
  rw [isDropNewSess_noteDrops, Bool.or_eq_true, decide_eq_true_eq, decide_eq_true_eq]
  exact ⟨fun either => either.elim id (isTcpDrop_newSess _ _ _ _ _ _), .inl⟩

lemma noted_noteDrops {ctx : Ctx σ} (fresh : (pktDrops ctx.sess.common hdr).1 ≠ .retransmit)
    (running : ¬ (ctx.noteDrops hdr).isDropNewSess = true) :
    (ctx.noteDrops hdr).view.Noted hdr where
  dropType := rfl
  fresh := fresh
  running := fun newSess => running ((isDropNewSess_noteDrops_iff ctx hdr).mpr newSess)

lemma newSess_noteDrops {ctx : Ctx σ} (newSess : (ctx.noteDrops hdr).isDropNewSess = true) :
    (pktDrops (ctx.noteDrops hdr).view.common hdr).1 = .dropNewSess :=
  (isDropNewSess_noteDrops_iff ctx hdr).mp newSess

lemma steps_tail : Steps avail ctx.view (ctx.modifyList List.tail).view :=
  .single (.pop ctx.view)

lemma steps_connect (tconnectUsec : Nat) : Steps avail ctx.view (ctx.modifyCommon fun common =>
      { common with tconnectUsec := tconnectUsec }).view :=
  .single (.stamp ctx.view tconnectUsec ctx.view.common.tcloseUsec)

lemma view_destroySession (ctx : Ctx σ) : (ctx.destroySession ops).view =
      { (if ctx.view.reorder.isActive || ctx.view.isrdrmap then ctx.view.reorderEnd
          else ctx.view) with toDelete := false } := by
  have active : ((ctx.modifyStats fun stats =>
      { stats with nsessionsDel := stats.nsessionsDel + 1 }).setToDelete
        false).sess.reorderActive = ctx.view.reorder.isActive := rfl
  have mapped : ((ctx.modifyStats fun stats =>
      { stats with nsessionsDel := stats.nsessionsDel + 1 }).setToDelete false).sess.isrdrmap =
        ctx.view.isrdrmap := rfl
  simp only [destroySession, active, mapped]
  split <;> split <;> rfl

lemma view_restartSession (ctx : Ctx σ) (hdr : ParsePktHdr) :
    (ctx.restartSession ops hdr).view = ctx.view.restart hdr := by
  have made : (ctx.restartSession ops hdr).view =
      (ctx.countDropNew.destroySession ops).view.make hdr := rfl
  rw [made, view_destroySession, View.restart, view_countDropNew]
  rfl

lemma parsed_restartSession (ctx : Ctx σ) (hdr : ParsePktHdr) :
    (ctx.restartSession ops hdr).view.parsed = ctx.view.parsed := by
  rw [view_restartSession, View.restart_parsed]

lemma doProtoParse_ends (ctx : Ctx σ) (hdr : ParsePktHdr) :
    ∃ ends : Bool, (ends = true → hdr.tcpflags.isFinRst = true) ∧
      (ctx.doProtoParse ops hdr).2.view = (ctx.view.deliver hdr).endIf ends := by
  rcases view_doProtoParse ops ctx hdr with eq | ⟨finRst, eq⟩
  · exact ⟨false, nofun, eq⟩
  · exact ⟨true, fun _ => finRst, eq⟩

lemma steps_doProtoParse {ctx : Ctx σ} (given : avail hdr) (noted : ctx.view.Noted hdr) :
    Steps avail ctx.view (ctx.doProtoParse ops hdr).2.view := by
  obtain ⟨ends, finRst, eq⟩ := doProtoParse_ends ops ctx hdr
  rw [eq]
  exact .single (.parse ctx.view given noted ends finRst)

/-! ## The functions of the reorder code -/

lemma steps_startReorder {ctx : Ctx σ} (given : avail hdr) (noted : ctx.view.Noted hdr) :
    Steps avail ctx.view (ctx.startReorder ops hdr).2.view := by
  rw [startReorder]
  split
  · exact steps_doProtoParse ops given noted
  obtain ⟨allocated, viewEq, eq | eq⟩ := allocReorder_cases ops ctx hdr
  · rw [eq, ← viewEq]
    rw [← viewEq] at noted
    exact steps_doProtoParse ops given noted
  · rw [eq, ← viewEq]
    exact .single (.startHold allocated.view given)

lemma steps_chkDropsAndParse (ctx : Ctx σ) (ignReorder : Bool) (given : avail hdr) :
    Steps avail ctx.view (ctx.chkDropsAndParse ops hdr ignReorder).2.view := by
  rw [chkDropsAndParse]
  rcases ctx.setPktDrops_cases hdr with ⟨-, eq⟩ | ⟨fresh, eq⟩
  · rw [eq]
    dsimp only
    split
    · exact steps_connect ctx hdr.tvUsec
    · exact .refl
  rw [eq]
  refine .head (.note ctx.view given) ?_
  rw [← view_noteDrops]
  dsimp only
  split
  next newSess =>
    obtain ⟨ends, finRst, parsed⟩ :=
      doProtoParse_ends ops ((ctx.noteDrops hdr).restartSession ops hdr) hdr
    rw [parsed, view_restartSession]
    exact .single (.reparse _ given (newSess_noteDrops newSess) ends finRst)
  next running =>
  have noted := noted_noteDrops fresh running
  split
  · exact steps_doProtoParse ops given noted
  · split
    · exact steps_doProtoParse ops given noted
    · exact steps_startReorder ops given noted

lemma steps_sendReorderLoop (tcurrusec : Nat) (clearAll : Bool) (minpkts : Nat)
    (rlist : List ReorderPktHdr) (npkts : Nat) (ctx : Ctx σ)
    (given : ∀ pkt ∈ rlist, ∀ hdr ∈ pkt.pooluniq, avail hdr) : Steps avail ctx.view
      (sendReorderLoop ops tcurrusec clearAll minpkts rlist npkts ctx).2.view := by
  induction rlist generalizing npkts ctx with
  | nil => exact .refl
  | cons pkt rest ih =>
    have restGiven : ∀ pkt ∈ rest, ∀ hdr ∈ pkt.pooluniq, avail hdr :=
      fun pkt mem => given pkt (mem_cons_of_mem _ mem)
    rw [sendReorderLoop]
    split
    · exact .refl
    split
    · exact (steps_tail ctx).trans (ih _ _ restGiven)
    next hdr pooled =>
    have hdrGiven : avail hdr := given pkt mem_cons_self hdr pooled
    rcases ctx.setPktDrops_cases hdr with ⟨-, eq⟩ | ⟨fresh, eq⟩
    · rw [eq]
      exact (steps_tail ctx).trans (ih _ _ restGiven)
    rw [eq]
    refine .head (.note ctx.view hdrGiven) ?_
    rw [← view_noteDrops]
    dsimp only
    split
    next newSess =>
      rw [view_restartSession]
      exact .single (.restart _ hdrGiven (newSess_noteDrops newSess))
    next running =>
    split
    · exact .refl
    · exact ((steps_doProtoParse ops hdrGiven (noted_noteDrops fresh running)).trans
        (steps_tail _)).trans (ih _ _ restGiven)

lemma steps_sendReorderToParser (ctx : Ctx σ) (tcurrusec : Nat) (clearAll : Bool)
    (given : ctx.view.HoldsOnly avail) :
    Steps avail ctx.view (ctx.sendReorderToParser ops tcurrusec clearAll).view := by
  have sent := steps_sendReorderLoop ops tcurrusec clearAll
    (minPkts ctx.sess.reorder.reorderList) ctx.sess.reorder.reorderList 0 ctx given
  rw [sendReorderToParser]
  split
  next eq =>
    rw [eq] at sent
    exact sent
  next done eq =>
  rw [eq] at sent
  split
  next empty =>
    exact sent.tail (.reorderEnd done.view (isEmpty_iff.mp empty))
  · exact sent

lemma steps_sendAllAndParse (ctx : Ctx σ) (tcurrusec : Nat) (given : avail hdr)
    (holds : ctx.view.HoldsOnly avail) : Steps avail ctx.view
      ((ctx.sendReorderToParser ops tcurrusec true).chkDropsAndParse ops hdr true).2.view :=
  (steps_sendReorderToParser ops ctx tcurrusec true holds).trans
    (steps_chkDropsAndParse ops _ true given)

lemma steps_addToReorderList (ctx : Ctx σ) (given : avail hdr) (holds : ctx.view.HoldsOnly avail)
    (active : ctx.view.reorder.reorderList ≠ []) :
    Steps avail ctx.view (ctx.addToReorderList ops (.new hdr) hdr).2.view := by
  rw [addToReorderList]
  split
  next rlist last found =>
    dsimp only
    split
    · exact .single (.insert ctx.view given found)
    · exact .single (.insert ctx.view given found)
  · dsimp only
    split
    · exact .refl
    · exact steps_sendAllAndParse ops ctx.countDropNew _ given holds
    · exact .single (.hold ctx.view given active)
    · exact .single (.hold ctx.view given active)

lemma steps_allocAndAdd (ctx : Ctx σ) (given : avail hdr) (holds : ctx.view.HoldsOnly avail)
    (active : ctx.view.reorder.reorderList ≠ []) :
    Steps avail ctx.view (ctx.allocAndAdd ops hdr).2.view := by
  rw [allocAndAdd]
  obtain ⟨allocated, viewEq, eq | eq⟩ := allocReorder_cases ops ctx hdr
  · rw [eq, ← viewEq]
    exact steps_sendAllAndParse ops allocated _ given (by rwa [viewEq])
  · rw [eq, ← viewEq]
    exact steps_addToReorderList ops allocated given (by rwa [viewEq]) (by rwa [viewEq])

lemma steps_addElem (ctx : Ctx σ) (given : avail hdr) (holds : ctx.view.HoldsOnly avail)
    (active : ctx.view.reorder.reorderList ≠ []) :
    Steps avail ctx.view (ctx.addElem ops hdr).2.view := by
  rw [addElem]
  split
  · have sent := steps_sendReorderToParser ops ctx.countSkip hdr.tvUsec false holds
    dsimp only
    split
    · exact sent.trans (steps_chkDropsAndParse ops _ false given)
    next stillActive =>
      exact sent.trans (steps_allocAndAdd ops _ given (sent.holdsOnly holds)
        fun empty => stillActive (isEmpty_iff.mpr empty))
  · exact steps_allocAndAdd ops ctx given holds active

lemma steps_addFirst (ctx : Ctx σ) (given : avail hdr) (holds : ctx.view.HoldsOnly avail)
    (active : ctx.view.reorder.reorderList ≠ []) :
    Steps avail ctx.view (ctx.addFirst ops hdr).2.view := by
  rw [addFirst]
  obtain ⟨allocated, viewEq, eq | eq⟩ := allocReorder_cases ops ctx hdr
  · rw [eq, ← viewEq]
    have parsed := steps_chkDropsAndParse ops allocated true given
    dsimp only
    split
    next eq' =>
      rw [eq'] at parsed
      exact parsed.trans (steps_sendReorderToParser ops _ _ true
        (parsed.holdsOnly (by rwa [viewEq])))
    next eq' =>
      rw [eq'] at parsed
      exact parsed
  · rw [eq, ← viewEq]
    exact .single (.hold allocated.view given (by rwa [viewEq]))

lemma steps_parseAndDrain (ctx : Ctx σ) (given : avail hdr) (holds : ctx.view.HoldsOnly avail) :
    Steps avail ctx.view (ctx.parseAndDrain ops hdr).2.view := by
  have parsed := steps_chkDropsAndParse ops ctx true given
  rw [parseAndDrain]
  split
  next eq =>
    rw [eq] at parsed
    exact parsed.trans (steps_sendReorderToParser ops _ _ false (parsed.holdsOnly holds))
  next eq =>
    rw [eq] at parsed
    exact parsed

/-- The reorder code is made of elementary steps. -/
lemma steps_handleReorder (ctx : Ctx σ) (given : avail hdr) (holds : ctx.view.HoldsOnly avail)
    (active : ctx.view.reorder.reorderList ≠ []) :
    Steps avail ctx.view (ctx.handleReorder ops hdr).2.view := by
  have counted := ctx.view_countReorder hdr.datalen
  rw [handleReorder]
  dsimp only
  split
  · split
    · split
      · split
        · rw [← counted]
          exact steps_parseAndDrain ops _ given holds
        · rw [← counted]
          exact steps_addFirst ops _ given holds active
      · rw [← counted]
        exact steps_parseAndDrain ops _ given holds
    · split
      · rw [← counted]
        exact steps_addFirst ops _ given holds active
      · exact steps_addElem ops ctx given holds active
  · split
    · exact steps_addElem ops ctx given holds active
    · exact steps_sendAllAndParse ops ctx _ given holds

lemma active_of_reorderActive {ctx : Ctx σ} (active : ctx.sess.reorderActive = true) :
    ctx.view.reorder.reorderList ≠ [] := by
  intro empty
  rw [SvcSession.reorderActive, ReorderInfo.isActive,
    show ctx.sess.reorder.reorderList = [] from empty] at active
  contradiction

lemma steps_reorderOrParse (ctx : Ctx σ) (given : avail hdr) (holds : ctx.view.HoldsOnly avail) :
    Steps avail ctx.view (if ctx.sess.reorderActive then ctx.handleReorder ops hdr
        else ctx.chkDropsAndParse ops hdr false).2.view := by
  split
  next isActive =>
    exact steps_handleReorder ops ctx given holds (active_of_reorderActive isActive)
  · exact steps_chkDropsAndParse ops ctx false given

/-- A session that turns to the data of an SSL probe. -/
def sslChange (ops : ProtoOps σ) (ctx : Ctx σ) (hdr : ParsePktHdr) : Ctx σ :=
  let ctx := if ctx.sess.reorderActive then ctx.setReorderEnd else ctx
  let ctx := (ctx.modifyReorder fun _ => .init).modifyCommon (·.setSrcChg hdr)
  let ctx := ctx.modifyStats fun stats => { stats with nsrcChg := stats.nsrcChg + 1 }
  if ctx.sess.proto.isHandled ∧ ctx.sess.pvarproto = .sess ctx.sess.proto true then
    ctx.setApi (ops.handleSslChange ctx.sess.proto ctx.sess hdr ctx.svc.api)
  else ctx

lemma view_sslChange (ctx : Ctx σ) (hdr : ParsePktHdr) :
    (sslChange ops ctx hdr).view = ctx.view.srcChange hdr := by
  have active : ctx.sess.reorderActive = ctx.view.reorder.isActive := rfl
  rw [sslChange, View.srcChange, active]
  split <;> split <;> rfl

lemma parseSessPkt_ssl {ctx : Ctx σ}
    (change : hdr.src = .uprobeSsl ∧ (!ctx.sess.common.isSsl) = true) : ctx.parseSessPkt ops hdr =
      if (sslChange ops ctx hdr).sess.reorderActive then
        (sslChange ops ctx hdr).handleReorder ops hdr
      else (sslChange ops ctx hdr).chkDropsAndParse ops hdr false := by
  rw [parseSessPkt, if_pos change]
  rfl

/-- So is the work on any packet of a session. -/
lemma steps_parseSessPkt (ctx : Ctx σ) (given : avail hdr) (holds : ctx.view.HoldsOnly avail) :
    Steps avail ctx.view (ctx.parseSessPkt ops hdr).2.view := by
  by_cases change : hdr.src = .uprobeSsl ∧ (!ctx.sess.common.isSsl) = true
  · rw [parseSessPkt_ssl ops change]
    refine .head (.srcChange ctx.view given change.1) ?_
    rw [← view_sslChange ops]
    exact steps_reorderOrParse ops _ given (by rw [view_sslChange]; exact View.holdsOnly_of_nil rfl)
  · rw [parseSessPkt, if_neg change]
    exact steps_reorderOrParse ops ctx given holds

end Ctx

end Gyeeta.Capture
