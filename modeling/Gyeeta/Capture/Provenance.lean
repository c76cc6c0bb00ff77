import Gyeeta.Capture.Service

/-!
# Where parsed packets come from

Whatever state a session is in, handling a packet appends to the calls of the protocol parser,
and each new call and each packet held afterwards is the packet that arrived or one held before.
A session does not end without a `FIN` or `RST`.
-/

namespace Gyeeta.Capture

open List View

/-- The relation between the views before and after a function that has only the
available packets to work with. -/
structure Follows (avail : ParsePktHdr → Prop) (before after : View) : Prop where
  key : after.key = before.key
  sessmap : after.sessmap = before.sessmap
  log : ∃ calls, after.parsed = before.parsed ++ calls ∧ ∀ call ∈ calls, avail call.hdr
  held : before.HoldsOnly avail → after.HoldsOnly avail
  alive : (∀ hdr, avail hdr → hdr.tcpflags.isFinRst = false) →
    before.toDelete = false → after.toDelete = false
  plain : (∀ hdr, avail hdr → hdr.src ≠ .uprobeSsl) →
    before.common.isSsl = false → after.common.isSsl = false

namespace Follows

variable {avail : ParsePktHdr → Prop} {before middle after : View}

lemma refl (view : View) : Follows avail view view where
  key := rfl
  sessmap := rfl
  log := ⟨[], by simp, by simp⟩
  held := id
  alive := fun _ => id
  plain := fun _ => id

lemma trans (first : Follows avail before middle) (second : Follows avail middle after) :
    Follows avail before after where
  key := second.key.trans first.key
  sessmap := second.sessmap.trans first.sessmap
  log := by
    obtain ⟨calls, callsEq, callsAvail⟩ := first.log
    obtain ⟨more, moreEq, moreAvail⟩ := second.log
    refine ⟨calls ++ more, by rw [moreEq, callsEq, append_assoc], ?_⟩
    intro call mem
    rcases mem_append.mp mem with mem | mem
    · exact callsAvail call mem
    · exact moreAvail call mem
  held := fun holds => second.held (first.held holds)
  alive := fun noEnd live => second.alive noEnd (first.alive noEnd live)
  plain := fun noSsl isPlain => second.plain noSsl (first.plain noSsl isPlain)

lemma of_subset (key : after.key = before.key) (sessmap : after.sessmap = before.sessmap)
    (parsed : after.parsed = before.parsed)
    (held : after.reorder.reorderList ⊆ before.reorder.reorderList)
    (toDelete : after.toDelete = before.toDelete)
    (isSsl : after.common.isSsl = before.common.isSsl) : Follows avail before after where
  key := key
  sessmap := sessmap
  log := ⟨[], by simp [parsed], by simp⟩
  held := fun holds pkt mem => holds pkt (held mem)
  alive := fun _ live => toDelete.trans live
  plain := fun _ isPlain => isSsl.trans isPlain

end Follows

/-! ## Elementary steps -/

variable {avail : ParsePktHdr → Prop} {hdr : ParsePktHdr}

lemma Follows.deliver (view : View)
    (given : avail hdr) {ends : Bool} (finRst : ends = true → hdr.tcpflags.isFinRst = true) :
    Follows avail view ((view.deliver hdr).endIf ends) where
  key := endIf_key _ _
  sessmap := endIf_sessmap _ _
  log := ⟨[⟨hdr, view.common.dropType⟩], endIf_parsed _ _, by simpa using given⟩
  held := by
    intro holds pkt mem
    rw [endIf_reorder, deliver_reorderList] at mem
    exact holds pkt mem
  alive := by
    intro noEnd live
    have goesOn : ends = false := Bool.eq_false_iff.mpr fun isEnd =>
      absurd (finRst isEnd) (by simp [noEnd hdr given])
    rw [endIf_toDelete, goesOn, Bool.or_false]
    exact live
  plain := by
    intro _ isPlain
    rw [endIf_common]
    exact isPlain

lemma Follows.restart (view : View)
    (given : avail hdr) : Follows avail view (view.restart hdr) where
  key := restart_key _ _
  sessmap := restart_sessmap _ _
  log := ⟨[], by simp, by simp⟩
  held := fun _ => holdsOnly_of_nil rfl
  alive := fun _ _ => rfl
  plain := fun noSsl _ => by simpa [CommonProto.new] using noSsl hdr given

variable {before after : View}

/-- An elementary step works with the available packets only. -/
lemma Step.follows (step : Step avail before after) : Follows avail before after := by
  cases step with
  | note => exact .of_subset rfl rfl rfl (List.Subset.refl _) rfl rfl
  | parse given noted ends finRst => exact .deliver before given finRst
  | restart given newSess => exact .restart before given
  | reparse given newSess ends finRst =>
    exact (Follows.restart before given).trans (.deliver _ given finRst)
  | hold given =>
    exact
      { Follows.refl before with
        held := fun holds => holds.pushFront given }
  | startHold given =>
    exact
      { Follows.refl before with
        held := fun holds => holds.pushFront given }
  | insert given found =>
    exact
      { Follows.refl before with
        held := (Step.insert before given found).holdsOnly }
  | pop => exact .of_subset rfl rfl rfl (tail_sublist _).subset rfl rfl
  | reorderEnd => exact .of_subset rfl rfl rfl (List.Subset.refl _) rfl rfl
  | stamp => exact .of_subset rfl rfl rfl (List.Subset.refl _) rfl rfl
  | srcChange given ssl =>
    exact
      { key := srcChange_key _ _
        sessmap := srcChange_sessmap _ _
        log := ⟨[], by simp, by simp⟩
        held := fun _ => holdsOnly_of_nil rfl
        alive := fun _ live => (srcChange_toDelete _ _).trans live
        plain := fun noSsl => absurd ssl (noSsl _ given) }

lemma Steps.follows (steps : Steps avail before after) : Follows avail before after := by
  induction steps with
  | refl => exact .refl _
  | tail _ step ih => exact ih.trans step.follows

/-! ## Work on a session -/

namespace SvcInfoCap

variable {σ : Type} {key : IpPort} {ops : ProtoOps σ} {svc svc' : SvcInfoCap σ}

lemma Entered.left {ctx after : Ctx σ} (entered : Entered avail key svc ctx)
    (steps : Steps avail ctx.view after.view) :
    after.key = key ∧ after.svc.sessmap = svc.sessmap := by
  have followed := steps.follows
  exact ⟨Eq.trans followed.key entered.keyEq, Eq.trans followed.sessmap entered.sessmap⟩

section

variable (worked : Worked ops avail key svc svc')
include worked

lemma Worked.findSess_ne {other : IpPort}
    (ne : other ≠ key) : svc'.findSess other = svc.findSess other := by
  cases worked with
  | idle sessmap _ _ => exact findSess_eq_of_sessmap sessmap other
  | work entered steps =>
    obtain ⟨afterKey, sessmap⟩ := entered.left steps
    rw [findSess_leaveSess_ne ops _ (by rwa [afterKey])]
    exact findSess_eq_of_sessmap sessmap other

lemma Worked.holdsOnly (holds : svc.HoldsOnly key avail) : svc'.HoldsOnly key avail := by
  cases worked with
  | idle sessmap _ _ =>
    intro sess found
    rw [findSess_eq_of_sessmap sessmap key] at found
    exact holds sess found
  | work entered steps =>
    intro sess found
    obtain ⟨afterKey, -⟩ := entered.left steps
    rw [← afterKey, findSess_leaveSess] at found
    split at found
    · cases found
    · cases found
      exact Steps.holdsOnly steps (entered.holdsOnly holds)

end

end SvcInfoCap

/-! ## The outcomes of `chk_drops_and_parse` -/

namespace Ctx

variable {σ : Type} {mine theirs : DropTypes}

variable (ops : ProtoOps σ) (ctx : Ctx σ)

lemma chkDropsAndParse_parse (ignReorder : Bool)
    (drops : pktDrops ctx.sess.common hdr = (mine, theirs)) (fresh : mine ≠ .retransmit)
    (mineOld : mine ≠ .dropNewSess) (theirsOld : theirs ≠ .dropNewSess)
    (now : (mine ≠ .dropSeen ∧ theirs ≠ .dropSeen) ∨ ignReorder = true ∨
      ctx.sess.reorderActive = true) :
    ctx.chkDropsAndParse ops hdr ignReorder = (ctx.noteDrops hdr).doProtoParse ops hdr := by
  have active : (ctx.noteDrops hdr).sess.reorderActive = ctx.sess.reorderActive := rfl
  rw [chkDropsAndParse, setPktDrops, drops, if_neg fresh]
  simp only [isDropNewSess_noteDrops, isPktDrop_noteDrops, drops, mineOld, theirsOld, active]
  rcases now with ⟨mineSeen, theirsSeen⟩ | rfl | isActive
  · simp [mineSeen, theirsSeen]
  · simp
  · simp [isActive]

lemma chkDropsAndParse_restart (ignReorder : Bool)
    (drops : pktDrops ctx.sess.common hdr = (.dropNewSess, theirs)) :
    (ctx.chkDropsAndParse ops hdr ignReorder).2 =
      (((ctx.noteDrops hdr).restartSession ops hdr).doProtoParse ops hdr).2 := by
  rw [chkDropsAndParse, setPktDrops, drops]
  simp [drops]

lemma sendReorderLoop_parse (tcurrusec minpkts npkts : Nat) (rest : List ReorderPktHdr)
    (alive : ctx.view.toDelete = false) (drops : pktDrops ctx.view.common hdr = (mine, theirs))
    (fresh : mine ≠ .retransmit) (mineOld : mine ≠ .dropNewSess)
    (theirsOld : theirs ≠ .dropNewSess) :
    sendReorderLoop ops tcurrusec true minpkts (.new hdr :: rest) npkts ctx =
      sendReorderLoop ops tcurrusec true minpkts rest (npkts + 1)
        (((ctx.noteDrops hdr).doProtoParse ops hdr).2.modifyList List.tail) := by
  have aliveHere : ctx.sess.toDelete = false := alive
  have dropsHere : pktDrops ctx.sess.common hdr = (mine, theirs) := drops
  rw [sendReorderLoop]
  simp [aliveHere, ReorderPktHdr.new, setPktDrops, dropsHere, fresh, mineOld, theirsOld]

lemma sendReorderLoop_restart (tcurrusec minpkts npkts : Nat) (rest : List ReorderPktHdr)
    (alive : ctx.view.toDelete = false)
    (drops : pktDrops ctx.view.common hdr = (.dropNewSess, theirs)) :
    sendReorderLoop ops tcurrusec true minpkts (.new hdr :: rest) npkts ctx =
      (true, (ctx.noteDrops hdr).restartSession ops hdr) := by
  have aliveHere : ctx.sess.toDelete = false := alive
  have dropsHere : pktDrops ctx.sess.common hdr = (.dropNewSess, theirs) := drops
  rw [sendReorderLoop]
  simp [aliveHere, ReorderPktHdr.new, setPktDrops, dropsHere]

lemma sendReorderToParser_eq (tcurrusec : Nat) (clearAll : Bool) :
    let result := sendReorderLoop ops tcurrusec clearAll
      (minPkts ctx.sess.reorder.reorderList) ctx.sess.reorder.reorderList 0 ctx
    ctx.sendReorderToParser ops tcurrusec clearAll =
      if result.1 = false ∧ result.2.view.reorder.reorderList = [] then result.2.setReorderEnd
      else result.2 := by
  rw [sendReorderToParser]
  dsimp only
  split
  next eq =>
    simp [eq]
  next eq =>
    simp [eq, view]

lemma allocReorder_malloc (hdr : ParsePktHdr) (malloc : ∀ api, (ops.reorderMalloc api).1 = true) :
    ∃ allocated : Ctx σ, allocated.view = ctx.view ∧
      ctx.allocReorder ops hdr = (some (.new hdr), allocated) := by
  have block := malloc ctx.svc.api
  rw [allocReorder]
  split
  · refine ⟨_, ?_, rfl⟩
    rfl
  next eq =>
    rw [eq] at block
    cases block

lemma addFirst_hold (hdr : ParsePktHdr) (malloc : ∀ api, (ops.reorderMalloc api).1 = true) :
    (ctx.addFirst ops hdr).2.view = ctx.view.pushFront hdr := by
  obtain ⟨allocated, viewEq, eq⟩ := allocReorder_malloc ops ctx hdr malloc
  rw [addFirst, eq, ← viewEq]
  rfl

lemma addElem_insert (hdr : ParsePktHdr) (malloc : ∀ api, (ops.reorderMalloc api).1 = true)
    (room : ctx.view.reorder.reorderList.length < ReorderInfo.maxSessReorderPkts)
    (recent : hdr.tvUsec ≤ ctx.view.reorder.tfirstusec + usecPerSec) {rlist : List ReorderPktHdr}
    {last : Bool}
    (found : insertBehind ctx.view.reorder.reorderList (.new hdr) = some (rlist, last)) :
    (ctx.addElem ops hdr).2.view =
      { ctx.view with reorder := { ctx.view.reorder with reorderList := rlist } } := by
  have notFull : ctx.isListFull = false := decide_eq_false (Nat.not_le.mpr room)
  have notLate : ¬ ctx.sess.reorder.tfirstusec + usecPerSec < hdr.tvUsec :=
    Nat.not_lt.mpr recent
  obtain ⟨allocated, viewEq, eq⟩ := allocReorder_malloc ops ctx hdr malloc
  rw [← viewEq] at found
  have foundHere : insertBehind allocated.sess.reorder.reorderList (.new hdr) =
      some (rlist, last) := found
  rw [addElem, if_neg (by simp [notFull, notLate]), allocAndAdd, eq, ← viewEq]
  simp only [addToReorderList, foundHere]
  split <;> rfl

lemma handleReorder_ahead (hdr : ParsePktHdr)
    (hole : ctx.view.reorder.expSeqStart.get hdr.side ≠ 0)
    (ahead : Serial.diff (ctx.view.reorder.expSeqStart.get hdr.side)
      (hdr.startSeq.get hdr.side) < 0) : ctx.handleReorder ops hdr =
      if 0 < Serial.diff (ctx.view.reorder.seenSeq.get hdr.side) (hdr.startSeq.get hdr.side) then
        (ctx.countReorder hdr.datalen).addFirst ops hdr else ctx.addElem ops hdr := by
  have holeHere : ctx.sess.reorder.expSeqStart.get hdr.side ≠ 0 := hole
  have aheadHere : Serial.diff (ctx.sess.reorder.expSeqStart.get hdr.side)
      (hdr.startSeq.get hdr.side) < 0 := ahead
  rw [handleReorder]
  dsimp only
  rw [if_pos holeHere, if_neg (Int.ne_of_lt aheadHere)]
  simp only [aheadHere, and_true]
  rfl

lemma startReorder_hold {ctx : Ctx σ} (malloc : ∀ api, (ops.reorderMalloc api).1 = true)
    (dropped : ctx.sess.common.isPktDrop = true) : ∃ sessrdrmap, (ctx.startReorder ops hdr).2.view =
      { ctx.view.pushFront hdr with
        sessrdrmap := sessrdrmap, inReordermap := true, isrdrmap := true } := by
  obtain ⟨allocated, viewEq, eq⟩ := allocReorder_malloc ops ctx hdr malloc
  rw [startReorder, dropped, eq, ← viewEq]
  exact ⟨_, rfl⟩

lemma chkDropsAndParse_hold (malloc : ∀ api, (ops.reorderMalloc api).1 = true)
    (drops : pktDrops ctx.sess.common hdr = (.dropSeen, theirs)) (theirsOld : theirs ≠ .dropNewSess)
    (captured : hdr.src = .pcap) (inactive : ctx.sess.reorder.reorderList = []) :
    ∃ sessrdrmap, (ctx.chkDropsAndParse ops hdr false).2.view =
      { (ctx.view.noteDrops hdr).pushFront hdr with
        sessrdrmap := sessrdrmap, inReordermap := true, isrdrmap := true } := by
  have active : (ctx.noteDrops hdr).sess.reorderActive = false := by
    simp [noteDrops, modifyCommon, SvcSession.reorderActive, ReorderInfo.isActive, inactive]
  have result : (ctx.chkDropsAndParse ops hdr false).2 =
      ((ctx.noteDrops hdr).startReorder ops hdr).2 := by
    rw [chkDropsAndParse, setPktDrops, drops]
    simp [drops, theirsOld, captured, active]
  rw [result, ← view_noteDrops]
  exact startReorder_hold ops malloc (by simp [drops])

end Ctx

/-! ## Packets of one session -/

/-- A data packet that neither ends its connection nor comes from an SSL probe. -/
structure IsPlain (key : IpPort) (hdr : ParsePktHdr) : Prop where
  cli : hdr.cli = key
  nonempty : 0 < hdr.datalen
  noEnd : hdr.tcpflags.isFinRst = false
  noSsl : hdr.src ≠ .uprobeSsl

namespace SvcInfoCap

variable {σ : Type} {key : IpPort} {avail : ParsePktHdr → Prop}

/-- The service has a session for the client that is alive, is not an SSL session and
holds available packets only. -/
structure Live (key : IpPort) (avail : ParsePktHdr → Prop) (svc : SvcInfoCap σ)
    (sess : SvcSession) : Prop where
  found : svc.findSess key = some sess
  alive : sess.toDelete = false
  plain : sess.common.isSsl = false
  holds : ∀ pkt ∈ sess.reorder.reorderList, ∀ hdr ∈ pkt.pooluniq, avail hdr

/-- The context in which `parse_pkt` ends for a plain packet of a live session. -/
def stepSess (ops : ProtoOps σ) (svc : SvcInfoCap σ) (sess : SvcSession)
    (hdr : ParsePktHdr) : Ctx σ :=
  if sess.reorderActive then ((Ctx.mk svc hdr.cli sess).handleReorder ops hdr).2
  else ((Ctx.mk svc hdr.cli sess).chkDropsAndParse ops hdr false).2

variable {sess : SvcSession}

lemma follows_stepSess (ops : ProtoOps σ) (svc : SvcInfoCap σ) (given : avail hdr)
    (holds : ∀ pkt ∈ sess.reorder.reorderList, ∀ hdr ∈ pkt.pooluniq, avail hdr) :
    Follows avail (Ctx.mk svc hdr.cli sess).view (stepSess ops svc sess hdr).view := by
  rw [stepSess]
  split
  next active =>
    exact (Ctx.steps_handleReorder ops (Ctx.mk svc hdr.cli sess) given holds
      (Ctx.active_of_reorderActive active)).follows
  · exact (Ctx.steps_chkDropsAndParse ops _ false given).follows

lemma parsePkt_live (ops : ProtoOps σ) {svc : SvcInfoCap σ}
    (plain : ∀ hdr, avail hdr → IsPlain key hdr) (given : avail hdr)
    (live : Live key avail svc sess) : (svc.parsePkt ops hdr).2 =
        (stepSess ops svc sess hdr).svc.putSess key (stepSess ops svc sess hdr).sess ∧
      Live key avail (svc.parsePkt ops hdr).2 (stepSess ops svc sess hdr).sess := by
  obtain ⟨rfl, nonempty, noEnd, noSsl⟩ := plain hdr given
  have followed := follows_stepSess ops svc given live.holds
  have alive : (stepSess ops svc sess hdr).sess.toDelete = false :=
    followed.alive (fun hdr given => (plain hdr given).noEnd) live.alive
  have keyEq : (stepSess ops svc sess hdr).key = hdr.cli := followed.key
  have stepEq : ((Ctx.mk svc hdr.cli sess).parseSessPkt ops hdr).2 =
      stepSess ops svc sess hdr := by
    simp only [Ctx.parseSessPkt, stepSess, noSsl, false_and, if_false]
    split <;> rfl
  have result : (svc.parsePkt ops hdr).2 =
      (stepSess ops svc sess hdr).svc.putSess hdr.cli
        (stepSess ops svc sess hdr).sess := by
    rw [parsePkt_found ops live.found, parseIn]
    simp [live.alive, live.plain, noEnd, Nat.ne_of_gt nonempty, stepEq, leaveSess, alive, keyEq]
  refine ⟨result, ?_⟩
  rw [result]
  exact
    { found := findSess_putSess _ _ _
      alive := alive
      plain := followed.plain (fun hdr given => (plain hdr given).noSsl) live.plain
      holds := followed.held live.holds }

lemma parsePkts_log (ops : ProtoOps σ) {svc : SvcInfoCap σ}
    {hdrs : List ParsePktHdr} (plain : ∀ hdr, avail hdr → IsPlain key hdr)
    (given : ∀ hdr ∈ hdrs, avail hdr) (live : Live key avail svc sess) :
    ∃ calls, (svc.parsePkts ops hdrs).parsed = svc.parsed ++ calls ∧
      ∀ call ∈ calls, avail call.hdr := by
  induction hdrs generalizing svc sess with
  | nil => exact ⟨[], by simp [parsePkts], by simp⟩
  | cons hdr hdrs ih =>
    have hdrGiven := given hdr mem_cons_self
    obtain ⟨stepEq, stepLive⟩ := parsePkt_live ops plain hdrGiven live
    obtain ⟨first, firstEq, firstAvail⟩ := (follows_stepSess ops svc hdrGiven live.holds).log
    obtain ⟨later, laterEq, laterAvail⟩ := ih
      (fun hdr mem => given hdr (mem_cons_of_mem _ mem)) stepLive
    have parsedEq : (svc.parsePkt ops hdr).2.parsed = svc.parsed ++ first := by
      rw [stepEq]
      exact firstEq
    refine ⟨first ++ later, ?_, ?_⟩
    · calc ((svc.parsePkt ops hdr).2.parsePkts ops hdrs).parsed
          = (svc.parsePkt ops hdr).2.parsed ++ later := laterEq
        _ = svc.parsed ++ (first ++ later) := by rw [parsedEq, append_assoc]
    · intro call mem
      rcases mem_append.mp mem with mem | mem
      · exact firstAvail call mem
      · exact laterAvail call mem

end SvcInfoCap

end Gyeeta.Capture
