import Gyeeta.Capture.Arrival

/-!
# In-order delivery

Each arrival of a segment takes the session from one mode of the hold-back machine to the next,
or to a state from which in-order delivery is lost.  The arrival orders that are delivered
completely follow for every run.
-/

namespace Gyeeta.Capture

open List HoldBack Ctx Capture.Stream PerSide Serial ParseCall ReorderPktHdr

open HoldBack (Mode Accepts)

variable {σ : Type} {key : IpPort} {dir : DirPacket} {ackNext base : Seq}
variable {segs : List ParsePktHdr} {before : List ParseCall}

namespace Expects

variable {view : View} {todo rest : List ParsePktHdr} {hdr next : ParsePktHdr}

lemma subset (expects : Expects dir ackNext segs before view todo) : todo ⊆ segs := by
  obtain ⟨done, segsEq, -⟩ := expects.log
  rw [segsEq]
  exact subset_append_right done todo

lemma of_eq (expects : Expects dir ackNext segs before view todo) (after : View)
    (toDelete : after.toDelete = view.toDelete) (isSsl : after.common.isSsl = view.common.isSsl)
    (nxtSeq : after.common.nxtSeq = view.common.nxtSeq) (parsed : after.parsed = view.parsed) :
    Expects dir ackNext segs before after todo where
  alive := toDelete.trans expects.alive
  plain := isSsl.trans expects.plain
  ack := by rw [nxtSeq]; exact expects.ack
  log := by rw [parsed]; exact expects.log
  next := by rw [nxtSeq]; exact expects.next

variable (stream : Stream key dir ackNext base segs)
include stream

lemma drops_next (expects : Expects dir ackNext segs before view (hdr :: rest)) :
    pktDrops view.common hdr = (.noDrop, ackDrop dir ackNext hdr) :=
  stream.pktDrops_next (expects.subset mem_cons_self) expects.ack (expects.next hdr rfl)

lemma drops_ahead (expects : Expects dir ackNext segs before view (next :: rest))
    (mem : hdr ∈ next :: rest) (other : hdr ≠ next) : (Stream.IsNear dir ackNext next hdr →
        pktDrops view.common hdr = (.dropSeen, ackDrop dir ackNext hdr)) ∧
      (¬ Stream.IsNear dir ackNext next hdr →
        pktDrops view.common hdr = (.dropNewSess, .dropNewSess)) := by
  obtain ⟨done, segsEq, -⟩ := expects.log
  exact stream.pktDrops_ahead (expects.subset mem_cons_self) (expects.subset mem)
    (stream.ahead_of_append segsEq mem other) expects.ack (expects.next next rfl)

lemma dropType_noteDrops (mem : hdr ∈ segs) {mine theirs : DropTypes}
    (drops : pktDrops view.common hdr = (mine, theirs)) :
    (view.noteDrops hdr).common.dropType = .mk' dir.side mine theirs := by
  simp [View.noteDrops, drops, stream.side_eq mem]

lemma deliver (expects : Expects dir ackNext segs before view (hdr :: rest)) :
    Expects dir ackNext segs before ((view.noteDrops hdr).deliver hdr) rest := by
  have mem : hdr ∈ segs := expects.subset mem_cons_self
  have segment := stream.segment hdr mem
  have sideEq := stream.side_eq mem
  have dropType := dropType_noteDrops stream mem (expects.drops_next stream)
  have ackEq := (view.noteDrops hdr).common.updStats_nxtSeq_other hdr
  have nextEq := (view.noteDrops hdr).common.updStats_nxtSeq_self hdr
  rw [sideEq] at ackEq nextEq
  obtain ⟨done, segsEq, logged⟩ := expects.log
  refine ⟨expects.alive, expects.plain, ?_, ⟨done ++ [hdr], by simp [segsEq], ?_⟩, ?_⟩
  · refine ackEq.trans ?_
    rw [dropType, get_mk'_other, ackDrop]
    by_cases zero : diff ackNext (hdr.startSeq.get dir.side.other) = 0
    · rw [if_pos zero, if_neg (by decide), segment.ackNxt]
      exact (diff_eq_zero_iff.mp zero).symm
    · rw [if_neg zero, if_pos rfl]
      exact expects.ack
  · have theirs := ackDrop_ne_dropSeen dir ackNext hdr
    have noDrop : isPktDrop ⟨hdr, (view.noteDrops hdr).common.dropType⟩ = false := by
      rw [dropType]
      cases side : dir.side <;> simp [isPktDrop, mk', theirs]
    exact logged.snoc noDrop
  · intro behind isHead
    cases rest with
    | nil => cases isHead
    | cons _ rest =>
      cases isHead
      have tiles := stream.tiles
      rw [segsEq] at tiles
      exact nextEq.trans tiles.next_start

lemma expSeqStart_deliver (expects : Expects dir ackNext segs before view (hdr :: rest))
    (active : view.reorder.reorderList ≠ []) (side : Side) :
    ((view.noteDrops hdr).deliver hdr).reorder.expSeqStart.get side = 0 := by
  have mem : hdr ∈ segs := expects.subset mem_cons_self
  have dropType := dropType_noteDrops stream mem (expects.drops_next stream)
  have isActive : (!(view.noteDrops hdr).toDelete &&
      (view.noteDrops hdr).reorder.isActive) = true := by
    simpa [expects.alive, ReorderInfo.isActive, View.noteDrops] using active
  rw [View.deliver]
  dsimp only
  rw [if_pos isActive, ReorderInfo.setHeadInfo_expSeqStart, CommonProto.updStats_dropType, dropType]
  rcases side.eq_or_eq_other dir.side with rfl | rfl
  · rw [get_mk'_self, if_neg (by decide)]
  · rw [get_mk'_other, if_neg (ackDrop_ne_dropSeen dir ackNext hdr)]

lemma flagged (mem : hdr ∈ segs)
    {theirs : DropTypes} (drops : pktDrops view.common hdr = (.dropSeen, theirs)) :
    isPktDrop ⟨hdr, (view.noteDrops hdr).common.dropType⟩ = true := by
  rw [dropType_noteDrops stream mem drops]
  cases side : dir.side <;> simp [isPktDrop, mk']

end Expects

/-! ## Held segments -/

section

variable {view : View} {hdr : ParsePktHdr}

lemma expSeqStart_pushFront (side : Side) : (view.pushFront hdr).reorder.expSeqStart.get side =
      if view.common.dropType.get side = .dropSeen then view.common.nxtSeq.get side else 0 :=
  ReorderInfo.setHeadInfo_expSeqStart _ _ _ side

lemma isHole_pushFront (mem : hdr ∈ segs)
    (dropMine : view.common.dropType.get dir.side = .dropSeen)
    (dropTheirs : view.common.dropType.get dir.side.other ≠ .dropSeen)
    (set : view.common.nxtSeq.get dir.side ≠ 0) (held : List ParsePktHdr) :
    IsHole dir segs view.common (view.pushFront hdr).reorder (hdr :: held) where
  expMine := by rw [expSeqStart_pushFront, if_pos dropMine]
  expSet := set
  expTheirs := by rw [expSeqStart_pushFront, if_neg dropTheirs]
  seen := by
    intro first isHead
    cases isHead
    exact (ReorderInfo.setHeadInfo_seenSeq _ _ _ _).trans (if_pos dropMine)
  dropMine := dropMine
  dropTheirs := dropTheirs
  tfirst := ⟨hdr, mem, rfl⟩

end

lemma overlap_new (stream : Stream key dir ackNext base segs) {left right : ParsePktHdr}
    (leftMem : left ∈ segs) (rightMem : right ∈ segs) : overlap (.new left) (.new right) =
      (offset dir.side base left : Int) + left.datalen - offset dir.side base right := by
  have sameDir : (new left).dir = (new right).dir :=
    (stream.segment left leftMem).direction.trans
      (stream.segment right rightMem).direction.symm
  rw [← stream.diff_end leftMem rightMem, overlap, if_pos sameDir]
  simp only [new, stream.side_eq leftMem, stream.side_eq rightMem]

variable {hdr : ParsePktHdr}

lemma insertBehind_ahead (stream : Stream key dir ackNext base segs)
    {held : List ParsePktHdr} (mem : hdr ∈ segs) (heldMem : held ⊆ segs)
    (ahead : ∀ other ∈ held, offset dir.side base hdr < offset dir.side base other) :
    insertBehind (held.map .new) (.new hdr) = none := by
  induction held with
  | nil => rfl
  | cons first held ih =>
    have firstMem : first ∈ segs := heldMem mem_cons_self
    have less := ahead first mem_cons_self
    rw [map_cons, insertBehind, ih (fun _ other => heldMem (mem_cons_of_mem _ other))
      (fun other heldOther => ahead other (mem_cons_of_mem _ heldOther))]
    rw [overlap_new stream firstMem mem]
    exact if_neg (by omega)

lemma insertBehind_place (stream : Stream key dir ackNext base segs)
    {first : ParsePktHdr} {held : List ParsePktHdr} (mem : hdr ∈ segs)
    (heldMem : first :: held ⊆ segs) (sorted : (first :: held).Pairwise fun left right =>
      offset dir.side base left < offset dir.side base right)
    (behind : offset dir.side base first < offset dir.side base hdr) (new : hdr ∉ held) :
    ∃ last, insertBehind ((first :: held).map .new) (.new hdr) =
      some ((place (offset dir.side base) hdr (first :: held)).map .new, last) := by
  have firstMem : first ∈ segs := heldMem mem_cons_self
  have disjoint := stream.end_le_start firstMem mem behind
  have reach : overlap (.new first) (.new hdr) ≤ 0 := by
    rw [overlap_new stream firstMem mem]
    omega
  have placed : place (offset dir.side base) hdr (first :: held) =
      first :: place (offset dir.side base) hdr held :=
    orderedInsert_of_not_le _ held (by omega)
  have restMem : held ⊆ segs := fun _ other => heldMem (mem_cons_of_mem _ other)
  rw [placed, map_cons, insertBehind]
  cases held with
  | nil => exact ⟨true, if_pos reach⟩
  | cons second held =>
    by_cases further : offset dir.side base second < offset dir.side base hdr
    · obtain ⟨last, found⟩ := insertBehind_place stream mem restMem
        (pairwise_cons.mp sorted).2 further
        (fun heldHdr => new (mem_cons_of_mem _ heldHdr))
      rw [found]
      exact ⟨last, rfl⟩
    have ne : offset dir.side base hdr ≠ offset dir.side base second := by
      intro equal
      refine new ?_
      rw [stream.eq_of_offset_eq mem (restMem mem_cons_self) equal]
      exact mem_cons_self
    have ahead : ∀ other ∈ second :: held,
        offset dir.side base hdr < offset dir.side base other := by
      intro other heldOther
      rcases mem_cons.mp heldOther with rfl | heldOther
      · omega
      · have := (pairwise_cons.mp (pairwise_cons.mp sorted).2).1 other heldOther
        omega
    have placedFirst : place (offset dir.side base) hdr (second :: held) =
        hdr :: second :: held :=
      orderedInsert_cons_of_le _ held (by omega)
    rw [insertBehind_ahead stream mem restMem ahead, placedFirst]
    exact ⟨false, if_pos reach⟩

/-! ## The steps -/

lemma view_doProtoParse_plain (ops : ProtoOps σ) (ctx : Ctx σ)
    (plain : IsPlain key hdr) : (ctx.doProtoParse ops hdr).2.view = ctx.view.deliver hdr := by
  rcases ctx.view_doProtoParse ops hdr with eq | ⟨finRst, -⟩
  · exact eq
  · rw [plain.noEnd] at finRst
    cases finRst

/-- What the arrival of a segment leads to: another mode with the same prospects, or a
doomed run. -/
def Advances (dir : DirPacket) (ackNext base : Seq) (segs : List ParsePktHdr)
    (before : List ParseCall) (mode : Mode ParsePktHdr) (todo : List ParsePktHdr)
    (hdr : ParsePktHdr) (arrivals : List ParsePktHdr) (after : View) : Prop :=
  let accepts := Accepts (offset dir.side base) (MayHold dir ackNext)
  (∃ mode' todo', Tracks dir ackNext base segs before after mode' todo' arrivals ∧
    (accepts mode todo (hdr :: arrivals) ↔ accepts mode' todo' arrivals)) ∨
  (Doomed segs before arrivals after ∧ ¬ accepts mode todo (hdr :: arrivals))

section

variable {ctx : Ctx σ} {todo arrivals held : List ParsePktHdr}
  {mode : Mode ParsePktHdr}

lemma pooled_mem (mem : held ⊆ segs) :
    ∀ pkt ∈ held.map new, ∀ hdr ∈ pkt.pooluniq, hdr ∈ segs := by
  intro pkt heldPkt hdr pooled
  obtain ⟨seg, isHeld, rfl⟩ := mem_map.mp heldPkt
  cases pooled
  exact mem isHeld

section

variable (tracks : Tracks dir ackNext base segs before ctx.view mode todo arrivals)
include tracks

lemma Tracks.held_subset : mode.held ⊆ segs :=
  fun _ isHeld => tracks.subset (tracks.pending.subset (mem_append_left _ isHeld))

lemma Tracks.holds :
    ctx.view.HoldsOnly (· ∈ segs) := by
  rw [View.HoldsOnly, tracks.list]
  exact pooled_mem tracks.held_subset

lemma Tracks.arriving :
    ∀ hdr ∈ arrivals, hdr ∈ todo :=
  fun _ mem => tracks.pending.subset (mem_append_right _ mem)

end

section

variable (stream : Stream key dir ackNext base segs)
  (tracks : Tracks dir ackNext base segs before ctx.view mode todo arrivals)
include stream tracks

lemma Tracks.not_held :
    ∀ hdr ∈ arrivals, hdr ∉ mode.held := by
  obtain ⟨done, segsEq, -⟩ := tracks.log
  have distinct := stream.nodup
  rw [segsEq] at distinct
  have pendingDistinct := tracks.pending.nodup_iff.mpr (nodup_append.mp distinct).2.1
  intro hdr coming isHeld
  exact (nodup_append.mp pendingDistinct).2.2 hdr isHeld hdr coming rfl

lemma Tracks.room :
    ctx.view.reorder.reorderList.length < ReorderInfo.maxSessReorderPkts := by
  obtain ⟨done, segsEq, -⟩ := tracks.log
  have few := stream.few
  have pendingLength := tracks.pending.length_eq
  rw [segsEq, length_append] at few
  rw [length_append] at pendingLength
  rw [tracks.list, length_map]
  omega

end

variable (ops : ProtoOps σ) {rest : List ParsePktHdr}

variable (stream : Stream key dir ackNext base segs)
include stream

lemma Expects.chk_next (ignReorder : Bool)
    (expects : Expects dir ackNext segs before ctx.view (hdr :: rest)) :
    (ctx.chkDropsAndParse ops hdr ignReorder).1 = false ∧
      (ctx.chkDropsAndParse ops hdr ignReorder).2.view = (ctx.view.noteDrops hdr).deliver hdr := by
  have mem : hdr ∈ segs := expects.subset mem_cons_self
  have plain := stream.isPlain mem
  have theirs := ackDrop_ne_dropSeen dir ackNext hdr
  have drops := expects.drops_next stream
  rw [ctx.chkDropsAndParse_parse ops ignReorder drops (by decide) (by decide)
    (ackDrop_ne_dropNewSess dir ackNext hdr) (.inl ⟨by decide, theirs⟩)]
  have alive := expects.alive
  refine ⟨doProtoParse_fst ops alive plain.nonempty, ?_⟩
  rw [view_doProtoParse_plain ops _ plain, view_noteDrops]

variable {next : ParsePktHdr}

lemma Expects.doomed_restart (ignReorder : Bool)
    (expects : Expects dir ackNext segs before ctx.view (next :: rest))
    (holds : ctx.view.HoldsOnly (· ∈ segs)) (arriving : ∀ hdr ∈ arrivals, hdr ∈ segs)
    (mem : hdr ∈ next :: rest) (other : hdr ≠ next)
    (far : ¬ Stream.IsNear dir ackNext next hdr) :
    Doomed segs before arrivals (ctx.chkDropsAndParse ops hdr ignReorder).2.view := by
  have given : hdr ∈ segs := expects.subset mem
  have plain := stream.isPlain given
  have followed := (steps_chkDropsAndParse ops ctx ignReorder given).follows
  obtain ⟨done, segsEq, calls, parsedEq, doneEq, -⟩ := expects.log
  have restarted : (ctx.chkDropsAndParse ops hdr ignReorder).2.view.parsed =
      before ++ (calls ++ [⟨hdr, ⟨.noDrop, .noDrop⟩⟩]) := by
    have drops := (expects.drops_ahead stream mem other).2 far
    rw [ctx.chkDropsAndParse_restart ops ignReorder drops, view_doProtoParse_plain ops _ plain,
      ← append_assoc, ← parsedEq]
    exact congrArg (· ++ [_]) ((ctx.noteDrops hdr).parsed_restartSession ops hdr)
  exact Doomed.of_misplaced arriving (followed.held holds) restarted doneEq segsEq other

lemma Tracks.hold_first (malloc : ∀ api, (ops.reorderMalloc api).1 = true)
    (tracks : Tracks dir ackNext base segs before ctx.view .idle (next :: rest)
      (hdr :: arrivals)) (mem : hdr ∈ next :: rest) (other : hdr ≠ next)
    (near : Stream.IsNear dir ackNext next hdr) :
    let accepts := Accepts (offset dir.side base) (MayHold dir ackNext)
    ∃ mode' todo', Tracks dir ackNext base segs before
        (ctx.chkDropsAndParse ops hdr false).2.view mode' todo' arrivals ∧
      (accepts .idle (next :: rest) (hdr :: arrivals) ↔ accepts mode' todo' arrivals) := by
  have given : hdr ∈ segs := tracks.subset mem
  have drops := (tracks.drops_ahead stream mem other).1 near
  have dropType := Expects.dropType_noteDrops stream given drops
  have dropMine : (ctx.view.noteDrops hdr).common.dropType.get dir.side = .dropSeen := by
    rw [dropType, get_mk'_self]
  have dropTheirs : (ctx.view.noteDrops hdr).common.dropType.get dir.side.other ≠ .dropSeen := by
    rw [dropType, get_mk'_other]
    exact ackDrop_ne_dropSeen dir ackNext hdr
  have nextEq : (ctx.view.noteDrops hdr).common.nxtSeq.get dir.side =
      next.startSeq.get dir.side := tracks.next next rfl
  obtain ⟨sessrdrmap, viewEq⟩ := ctx.chkDropsAndParse_hold ops malloc drops
    (ackDrop_ne_dropNewSess dir ackNext hdr) (stream.segment hdr given).src tracks.list
  have expects := tracks.toExpects.of_eq (ctx.chkDropsAndParse ops hdr false).2.view
    (by rw [viewEq]; rfl) (by rw [viewEq]; rfl) (by rw [viewEq]; rfl) (by rw [viewEq]; rfl)
  have list : (ctx.chkDropsAndParse ops hdr false).2.view.reorder.reorderList =
      [new hdr] := by
    rw [viewEq]
    exact congrArg (new hdr :: ·) tracks.list
  by_cases zero : next.startSeq.get dir.side = 0
  · refine ⟨.filled [hdr], next :: rest, ?_, ?_⟩
    · refine ⟨expects, tracks.pending, list, pairwise_singleton _ _, by simp, ?_⟩
      intro side
      rw [viewEq]
      refine (expSeqStart_pushFront side).trans ?_
      rcases side.eq_or_eq_other dir.side with rfl | rfl
      · rw [if_pos dropMine, nextEq, zero]
      · rw [if_neg dropTheirs]
    · rw [accepts_idle_early other]
      constructor
      · rintro ⟨⟨nonzero, -⟩, -⟩
        exact absurd zero nonzero
      · intro filled
        obtain ⟨item, rest', later, -, equal⟩ := HoldBack.Accepts.filled_split filled
        exact absurd (List.cons.inj equal).1.symm other
  · refine ⟨.hole [hdr], next :: rest, ?_, ?_⟩
    · refine ⟨expects, tracks.pending, list, pairwise_singleton _ _, by simp, ?_⟩
      have hole := isHole_pushFront given dropMine dropTheirs (by rwa [nextEq]) []
      rw [viewEq]
      exact hole
    · rw [accepts_idle_early other]
      exact and_iff_right ⟨zero, near⟩

lemma advances_idle (malloc : ∀ api, (ops.reorderMalloc api).1 = true)
    (tracks : Tracks dir ackNext base segs before ctx.view .idle todo (hdr :: arrivals)) :
    Advances dir ackNext base segs before .idle todo hdr arrivals
      (ctx.chkDropsAndParse ops hdr false).2.view := by
  have mem : hdr ∈ todo := tracks.arriving hdr mem_cons_self
  cases todo with
  | nil => cases mem
  | cons next rest =>
    by_cases same : hdr = next
    · subst same
      refine .inl ⟨.idle, rest, ?_, accepts_idle_next⟩
      rw [(tracks.chk_next ops stream false).2]
      exact
        { toExpects := tracks.deliver stream
          pending := tracks.pending.cons_inv
          list := by rw [View.deliver_reorderList]; exact tracks.list
          sorted := .nil
          shape := trivial }
    · by_cases near : Stream.IsNear dir ackNext next hdr
      · exact .inl (tracks.hold_first ops stream malloc mem same near)
      refine .inr ⟨?_, ?_⟩
      · exact tracks.doomed_restart ops stream false tracks.holds (fun hdr coming => tracks.subset
            (tracks.arriving hdr (mem_cons_of_mem _ coming))) mem same near
      · rw [accepts_idle_early same]
        rintro ⟨⟨-, isNear⟩, -⟩
        exact near isNear

lemma Tracks.fill_hole (tracks : Tracks dir ackNext base segs before ctx.view (.hole held)
      (hdr :: rest) (hdr :: arrivals)) :
    Tracks dir ackNext base segs before (ctx.handleReorder ops hdr).2.view (.filled held)
      rest arrivals := by
  have given : hdr ∈ segs := tracks.subset mem_cons_self
  obtain ⟨nonempty, hole⟩ := tracks.shape
  have expSet : ctx.sess.reorder.expSeqStart.get dir.side ≠ 0 :=
    hole.expMine.trans_ne hole.expSet
  have startEq : diff (ctx.sess.reorder.expSeqStart.get dir.side)
      (hdr.startSeq.get dir.side) = 0 :=
    diff_eq_zero_iff.mpr (hole.expMine.trans (tracks.next hdr rfl))
  have expTheirs : ctx.sess.reorder.expSeqStart.get dir.side.other = 0 := hole.expTheirs
  have counted : Expects dir ackNext segs before (ctx.countReorder hdr.datalen).view
      (hdr :: rest) := tracks.toExpects
  obtain ⟨parsedFalse, viewEq⟩ := counted.chk_next ops stream true
  have result : (ctx.handleReorder ops hdr).2.view = (ctx.view.noteDrops hdr).deliver hdr := by
    rw [handleReorder]
    simp only [stream.side_eq given]
    rw [if_pos expSet, if_pos startEq, if_neg (not_not_intro expTheirs), parseAndDrain]
    split
    next eq =>
      rw [eq] at parsedFalse
      cases parsedFalse
    next eq =>
      rw [eq] at viewEq
      exact viewEq
  rw [result]
  exact
    { toExpects := tracks.deliver stream
      pending := (perm_middle.symm.trans tracks.pending).cons_inv
      list := by rw [View.deliver_reorderList]; exact tracks.list
      sorted := tracks.sorted
      shape := ⟨nonempty, fun side => tracks.toExpects.expSeqStart_deliver stream
        (by rw [tracks.list]; simpa [Mode.held] using nonempty) side⟩ }

lemma Tracks.placed
    (tracks : Tracks dir ackNext base segs before ctx.view (.hole held) todo (hdr :: arrivals))
    {after : View} (expects : Expects dir ackNext segs before after todo)
    (list : after.reorder.reorderList = (place (offset dir.side base) hdr held).map .new)
    (hole : IsHole dir segs after.common after.reorder
      (place (offset dir.side base) hdr held)) : Tracks dir ackNext base segs before after
      (.hole (place (offset dir.side base) hdr held)) todo arrivals where
  toExpects := expects
  pending := ((place_perm _ hdr held).append_right arrivals).trans
    (perm_middle.symm.trans tracks.pending)
  list := list
  sorted := by
    have given : hdr ∈ segs := tracks.subset (tracks.arriving hdr mem_cons_self)
    refine place_increasing _ tracks.sorted ?_
    intro other isHeld equal
    have same := stream.eq_of_offset_eq given (tracks.held_subset isHeld) equal
    exact tracks.not_held stream hdr mem_cons_self (same ▸ isHeld)
  shape := by
    refine ⟨?_, hole⟩
    intro empty
    have permuted := place_perm (offset dir.side base) hdr held
    rw [empty] at permuted
    cases permuted.symm.eq_nil

lemma Tracks.hold_more (malloc : ∀ api, (ops.reorderMalloc api).1 = true)
    (tracks : Tracks dir ackNext base segs before ctx.view (.hole held) (next :: rest)
      (hdr :: arrivals)) (mem : hdr ∈ next :: rest) (other : hdr ≠ next) :
    Tracks dir ackNext base segs before (ctx.handleReorder ops hdr).2.view
      (.hole (place (offset dir.side base) hdr held)) (next :: rest) arrivals := by
  have given : hdr ∈ segs := tracks.subset mem
  have notHeld : hdr ∉ held := tracks.not_held stream hdr mem_cons_self
  have heldMem : held ⊆ segs := tracks.held_subset
  obtain ⟨nonempty, hole⟩ := tracks.shape
  obtain ⟨done, segsEq, -⟩ := tracks.log
  have ahead := stream.ahead_of_append segsEq mem other
  have distance := stream.diff_start (tracks.subset mem_cons_self) given
  rw [← tracks.next next rfl, ← hole.expMine] at distance
  have route := ctx.handleReorder_ahead ops hdr
    (by rw [stream.side_eq given]; exact hole.expMine.trans_ne hole.expSet)
    (by rw [stream.side_eq given, distance]; omega)
  cases held with
  | nil => exact absurd rfl nonempty
  | cons first held =>
    have firstMem : first ∈ segs := heldMem mem_cons_self
    have seenDistance := stream.diff_start firstMem given
    rw [← hole.seen first rfl] at seenDistance
    rw [route, stream.side_eq given, seenDistance]
    by_cases inHole : offset dir.side base hdr < offset dir.side base first
    · have front : place (offset dir.side base) hdr (first :: held) =
          hdr :: first :: held :=
        orderedInsert_cons_of_le _ held (Nat.le_of_lt inHole)
      rw [if_pos (by omega), addFirst_hold ops _ hdr malloc]
      refine tracks.placed stream (tracks.toExpects.of_eq _ rfl rfl rfl rfl) ?_ ?_
      · rw [front]
        exact congrArg (new hdr :: ·) tracks.list
      · rw [front]
        exact isHole_pushFront given hole.dropMine hole.dropTheirs hole.expSet _
    have ne : offset dir.side base hdr ≠ offset dir.side base first := by
      intro equal
      rw [stream.eq_of_offset_eq given firstMem equal] at notHeld
      exact notHeld mem_cons_self
    have behind : place (offset dir.side base) hdr (first :: held) =
        first :: place (offset dir.side base) hdr held :=
      orderedInsert_of_not_le _ held (by omega)
    obtain ⟨last, found⟩ := insertBehind_place stream given heldMem tracks.sorted
      (by omega) (fun isHeld => notHeld (mem_cons_of_mem _ isHeld))
    obtain ⟨seg, segMem, tfirstEq⟩ := hole.tfirst
    rw [if_neg (by omega), ctx.addElem_insert ops hdr malloc (tracks.room stream)
      (by rw [tfirstEq]; exact stream.times hdr given seg segMem)
      (by rw [tracks.list]; exact found)]
    refine tracks.placed stream (tracks.toExpects.of_eq _ rfl rfl rfl rfl) rfl ?_
    refine ⟨hole.expMine, hole.expSet, hole.expTheirs, ?_, hole.dropMine,
      hole.dropTheirs, hole.tfirst⟩
    rw [behind]
    exact hole.seen

lemma advances_hole (malloc : ∀ api, (ops.reorderMalloc api).1 = true)
    (tracks : Tracks dir ackNext base segs before ctx.view (.hole held) todo (hdr :: arrivals)) :
    Advances dir ackNext base segs before (.hole held) todo hdr arrivals
      (ctx.handleReorder ops hdr).2.view := by
  have mem : hdr ∈ todo := tracks.arriving hdr mem_cons_self
  cases todo with
  | nil => cases mem
  | cons next rest =>
    by_cases same : hdr = next
    · subst same
      exact .inl ⟨_, _, tracks.fill_hole ops stream, accepts_hole_next⟩
    · exact .inl ⟨_, _, tracks.hold_more ops stream malloc mem same, accepts_hole_early same⟩

variable {coming : List ParsePktHdr}

lemma Expects.doomed_flagged {after : View}
    (expects : Expects dir ackNext segs before ctx.view (next :: rest))
    (holds : ctx.view.HoldsOnly (· ∈ segs)) (arriving : ∀ hdr ∈ coming, hdr ∈ segs)
    (mem : hdr ∈ next :: rest) (other : hdr ≠ next) (near : Stream.IsNear dir ackNext next hdr)
    (followed : Follows (· ∈ segs) ((ctx.noteDrops hdr).doProtoParse ops hdr).2.view after) :
    Doomed segs before coming after := by
  have given : hdr ∈ segs := expects.subset mem
  have drops := (expects.drops_ahead stream mem other).1 near
  obtain ⟨done, -, calls, parsedEq, -⟩ := expects.log
  rw [view_doProtoParse_plain ops _ (stream.isPlain given), view_noteDrops] at followed
  have parsed : ((ctx.view.noteDrops hdr).deliver hdr).parsed =
      before ++ (calls ++ [⟨hdr, (ctx.view.noteDrops hdr).common.dropType⟩]) := by
    rw [← append_assoc, ← parsedEq]
    rfl
  refine Doomed.of_flagged arriving ?_ parsed (mem_append_right _ mem_cons_self)
    (Expects.flagged stream given drops) followed
  intro pkt heldPkt
  rw [View.deliver_reorderList] at heldPkt
  exact holds pkt heldPkt

/-- Draining the held segments: they are the next ones and are all parsed in order, or
the run is doomed. -/
lemma Expects.drain
    (arriving : ∀ hdr ∈ coming, hdr ∈ segs) (tcurrusec minpkts : Nat) (npkts : Nat) (ctx : Ctx σ)
    (todo held : List ParsePktHdr) (expects : Expects dir ackNext segs before ctx.view todo)
    (list : ctx.view.reorder.reorderList = held.map .new) (sorted : held.Pairwise fun left right =>
      offset dir.side base left < offset dir.side base right) (pending : held ⊆ todo)
    (notComing : ∀ hdr ∈ held, hdr ∉ coming) :
    let result := sendReorderLoop ops tcurrusec true minpkts (held.map .new) npkts ctx
    (∃ rest, todo = held ++ rest ∧ result.1 = false ∧
        Expects dir ackNext segs before result.2.view rest ∧
        result.2.view.reorder.reorderList = []) ∨
      ((∀ rest, todo ≠ held ++ rest) ∧ Doomed segs before coming result.2.view) := by
  induction held generalizing npkts ctx todo with
  | nil => exact .inl ⟨todo, rfl, rfl, expects, list⟩
  | cons first held ih =>
    have firstMem : first ∈ todo := pending mem_cons_self
    have heldMem : first :: held ⊆ segs := fun _ isHeld => expects.subset (pending isHeld)
    have restMem : held ⊆ segs := fun _ isHeld => heldMem (mem_cons_of_mem _ isHeld)
    have holds : ctx.view.HoldsOnly (· ∈ segs) := by
      rw [View.HoldsOnly, list]
      exact pooled_mem heldMem
    have plain := stream.isPlain (expects.subset firstMem)
    have theirsOld := ackDrop_ne_dropNewSess dir ackNext first
    cases todo with
    | nil => cases firstMem
    | cons next rest =>
      obtain ⟨firstLess, heldSorted⟩ := pairwise_cons.mp sorted
      by_cases same : first = next
      · subst same
        have drops := expects.drops_next stream
        rw [map_cons, ctx.sendReorderLoop_parse ops tcurrusec minpkts npkts _
          expects.alive drops (by decide) (by decide) theirsOld]
        have viewEq := view_doProtoParse_plain ops (ctx.noteDrops first) plain
        rw [view_noteDrops] at viewEq
        have delivered : Expects dir ackNext segs before
            (((ctx.noteDrops first).doProtoParse ops first).2.modifyList List.tail).view
            rest := by
          have expected := expects.deliver stream
          rw [← viewEq] at expected
          exact expected.of_eq _ rfl rfl rfl rfl
        have tail : (((ctx.noteDrops first).doProtoParse ops first).2.modifyList
            List.tail).view.reorder.reorderList = held.map .new := by
          have listEq := congrArg (·.reorder.reorderList.tail) viewEq
          refine listEq.trans ?_
          rw [View.deliver_reorderList]
          exact congrArg List.tail list
        have restPending : held ⊆ rest := by
          intro hdr isHeld
          rcases mem_cons.mp (pending (mem_cons_of_mem _ isHeld)) with rfl | later
          · exact absurd (firstLess hdr isHeld) (Nat.lt_irrefl _)
          · exact later
        rcases ih (npkts + 1) _ rest delivered tail heldSorted restPending
          (fun hdr isHeld => notComing hdr (mem_cons_of_mem _ isHeld)) with
          ⟨rest', restEq, drained⟩ | ⟨notPrefix, doomed⟩
        · exact .inl ⟨rest', by rw [restEq]; rfl, drained⟩
        · refine .inr ⟨fun rest' equal => notPrefix rest' ?_, doomed⟩
          exact (List.cons.inj equal).2
      · have notPrefix : ∀ rest', next :: rest ≠ first :: held ++ rest' :=
          fun rest' equal => same (List.cons.inj equal).1.symm
        refine .inr ⟨notPrefix, ?_⟩
        by_cases near : Stream.IsNear dir ackNext next first
        · have drops := (expects.drops_ahead stream firstMem same).1 near
          rw [map_cons, ctx.sendReorderLoop_parse ops tcurrusec minpkts npkts _
            expects.alive drops (by decide) (by decide) theirsOld]
          refine expects.doomed_flagged ops stream holds arriving firstMem same near ?_
          exact (steps_tail _).follows.trans
            (steps_sendReorderLoop ops _ _ _ _ _ _ (pooled_mem restMem)).follows
        have drops := (expects.drops_ahead stream firstMem same).2 near
        rw [map_cons, ctx.sendReorderLoop_restart ops tcurrusec minpkts npkts _
          expects.alive drops]
        obtain ⟨done, segsEq, calls, parsedEq, doneEq, -⟩ := expects.log
        have distinct := stream.nodup
        rw [segsEq] at distinct
        have notParsed : first ∉ calls.map (·.hdr) := by
          rw [doneEq]
          intro isDone
          exact (nodup_append.mp distinct).2.2 first isDone first firstMem rfl
        exact Doomed.of_lost arriving rfl
          (((ctx.noteDrops first).parsed_restartSession ops first).trans parsedEq)
          (expects.subset firstMem) notParsed (notComing first mem_cons_self)

lemma Expects.chk_after_drain (expects : Expects dir ackNext segs before ctx.view rest)
    (empty : ctx.view.reorder.reorderList = []) (pending : (hdr :: arrivals).Perm rest) :
    (∃ rest', rest = hdr :: rest' ∧ Tracks dir ackNext base segs before
        (ctx.chkDropsAndParse ops hdr true).2.view .idle rest' arrivals) ∨
      ((∀ rest', rest ≠ hdr :: rest') ∧
        Doomed segs before arrivals (ctx.chkDropsAndParse ops hdr true).2.view) := by
  have mem : hdr ∈ rest := pending.subset mem_cons_self
  have arriving : ∀ hdr ∈ arrivals, hdr ∈ segs := fun _ coming =>
    expects.subset (pending.subset (mem_cons_of_mem _ coming))
  have holds : ctx.view.HoldsOnly (· ∈ segs) := by
    rw [View.HoldsOnly, empty]
    simp
  cases rest with
  | nil => cases mem
  | cons next rest =>
    by_cases same : hdr = next
    · subst same
      refine .inl ⟨rest, rfl, ?_⟩
      rw [(expects.chk_next ops stream true).2]
      exact
        { toExpects := expects.deliver stream
          pending := pending.cons_inv
          list := by rw [View.deliver_reorderList]; exact empty
          sorted := .nil
          shape := trivial }
    · refine .inr ⟨fun rest' equal => same (List.cons.inj equal).1.symm, ?_⟩
      by_cases near : Stream.IsNear dir ackNext next hdr
      · have drops := (expects.drops_ahead stream mem same).1 near
        rw [ctx.chkDropsAndParse_parse ops true drops (by decide) (by decide)
          (ackDrop_ne_dropNewSess dir ackNext hdr) (.inr (.inl rfl))]
        exact expects.doomed_flagged ops stream holds arriving mem same near (.refl _)
      · exact expects.doomed_restart ops stream true holds arriving mem same near

lemma advances_filled
    (tracks : Tracks dir ackNext base segs before ctx.view (.filled held) todo (hdr :: arrivals)) :
    Advances dir ackNext base segs before (.filled held) todo hdr arrivals
      (ctx.handleReorder ops hdr).2.view := by
  have arriving : ∀ hdr' ∈ hdr :: arrivals, hdr' ∈ segs := fun _ coming =>
    tracks.subset (tracks.arriving _ coming)
  have notComing : ∀ hdr' ∈ held, hdr' ∉ hdr :: arrivals := fun hdr' isHeld coming =>
    tracks.not_held stream hdr' coming isHeld
  have route : ctx.handleReorder ops hdr =
      (ctx.sendReorderToParser ops hdr.tvUsec true).chkDropsAndParse ops hdr true := by
    have none : ∀ side, ctx.sess.reorder.expSeqStart.get side = 0 := tracks.shape.2
    rw [handleReorder]
    simp only [none, ne_eq, not_true_eq_false, if_false]
  have list : ctx.sess.reorder.reorderList = held.map .new := tracks.list
  have sent := ctx.sendReorderToParser_eq ops hdr.tvUsec true
  have drained := tracks.toExpects.drain ops stream arriving hdr.tvUsec
    (minPkts ctx.sess.reorder.reorderList) 0 ctx todo held tracks.list tracks.sorted
    (fun _ isHeld => tracks.pending.subset (mem_append_left _ isHeld)) notComing
  rw [← list] at drained
  rw [route]
  dsimp only at sent drained
  generalize sendReorderLoop ops hdr.tvUsec true _ _ 0 ctx = result at sent drained
  rcases drained with ⟨rest, todoEq, loopDone, expects, empty⟩ | ⟨notPrefix, doomed⟩
  · rw [if_pos ⟨loopDone, empty⟩] at sent
    rw [sent]
    have ended : Expects dir ackNext segs before result.2.setReorderEnd.view rest :=
      expects.of_eq _ rfl rfl rfl rfl
    have pending : (hdr :: arrivals).Perm rest := by
      have all := tracks.pending
      rw [todoEq] at all
      exact (perm_append_left_iff held).mp all
    rcases ended.chk_after_drain ops stream empty pending with
      ⟨rest', rfl, idle⟩ | ⟨notNext, doomed⟩
    · refine .inl ⟨.idle, rest', idle, ?_, fun accepted => ⟨rest', todoEq, accepted⟩⟩
      rintro ⟨rest'', equal, accepted⟩
      have same := append_cancel_left (todoEq.symm.trans equal)
      rwa [(List.cons.inj same).2]
    · refine .inr ⟨doomed, ?_⟩
      rintro ⟨rest'', equal, -⟩
      exact notNext rest'' (append_cancel_left (todoEq.symm.trans equal))
  · have sentFollows : ∀ avail, Follows avail result.2.view
        (ctx.sendReorderToParser ops hdr.tvUsec true).view := by
      intro avail
      rw [sent]
      split
      · exact .of_subset rfl rfl rfl (List.Subset.refl _) rfl rfl
      · exact .refl _
    refine .inr ⟨doomed.follows fun avail given _ => (sentFollows avail).trans
      (steps_chkDropsAndParse ops _ true given).follows, ?_⟩
    rintro ⟨rest, equal, -⟩
    exact notPrefix (hdr :: rest) equal

end

/-! ## Whole runs -/

variable {mode : Mode ParsePktHdr} {todo arrivals : List ParsePktHdr} {svc : SvcInfoCap σ}
  {sess : SvcSession}

lemma advances (ops : ProtoOps σ) (malloc : ∀ api, (ops.reorderMalloc api).1 = true)
    (stream : Stream key dir ackNext base segs)
    (tracks : Tracks dir ackNext base segs before (mk svc hdr.cli sess).view mode todo
      (hdr :: arrivals)) : Advances dir ackNext base segs before mode todo hdr arrivals
      (svc.stepSess ops sess hdr).view := by
  have list : sess.reorder.reorderList = mode.held.map .new := tracks.list
  rw [SvcInfoCap.stepSess]
  cases mode with
  | idle =>
    rw [if_neg (by simp [SvcSession.reorderActive, ReorderInfo.isActive, list, Mode.held])]
    exact advances_idle ops stream malloc tracks
  | hole held =>
    have nonempty := tracks.shape.1
    rw [if_pos (by simpa [SvcSession.reorderActive, ReorderInfo.isActive, list, Mode.held]
      using nonempty)]
    exact advances_hole ops stream malloc tracks
  | filled held =>
    have nonempty := tracks.shape.1
    rw [if_pos (by simpa [SvcSession.reorderActive, ReorderInfo.isActive, list, Mode.held]
      using nonempty)]
    exact advances_filled ops stream tracks

lemma Tracks.logged_iff {view : View}
    (tracks : Tracks dir ackNext base segs before view mode todo []) :
    Logged before segs view.parsed ↔
      Accepts (offset dir.side base) (MayHold dir ackNext) mode todo [] := by
  obtain ⟨done, segsEq, logged⟩ := tracks.log
  have complete : Logged before segs view.parsed ↔ todo = [] := by
    constructor
    · intro all
      have equal := all.unique logged
      rw [segsEq] at equal
      exact append_right_eq_self.mp equal
    · rintro rfl
      rwa [segsEq, append_nil]
  have heldTodo : mode.held ≠ [] → todo ≠ [] := by
    rintro nonempty rfl
    have pending := tracks.pending
    rw [append_nil] at pending
    exact nonempty pending.eq_nil
  rw [complete]
  cases mode with
  | idle => rfl
  | hole held => exact iff_false_intro (heldTodo tracks.shape.1)
  | filled held => exact iff_false_intro (heldTodo tracks.shape.1)

lemma logged_iff_accepts (ops : ProtoOps σ) (malloc : ∀ api, (ops.reorderMalloc api).1 = true)
    (stream : Stream key dir ackNext base segs) (live : svc.Live key (· ∈ segs) sess)
    (tracks : Tracks dir ackNext base segs before (mk svc key sess).view mode todo arrivals) :
    Logged before segs (svc.parsePkts ops arrivals).parsed ↔
      Accepts (offset dir.side base) (MayHold dir ackNext) mode todo arrivals := by
  induction arrivals generalizing svc sess mode todo with
  | nil => exact tracks.logged_iff
  | cons hdr arrivals ih =>
    have given : hdr ∈ segs := tracks.subset (tracks.arriving hdr mem_cons_self)
    obtain rfl := (stream.segment hdr given).cli
    obtain ⟨stepEq, stepLive⟩ := SvcInfoCap.parsePkt_live ops
      (fun _ mem => stream.isPlain mem) given live
    have viewEq : (mk (svc.parsePkt ops hdr).2 hdr.cli
        (svc.stepSess ops sess hdr).sess).view =
        { (svc.stepSess ops sess hdr).view with
          key := hdr.cli
          sessmap := (svc.parsePkt ops hdr).2.sessmap } := by
      rw [stepEq]
      rfl
    rw [SvcInfoCap.parsePkts_cons]
    rcases advances ops malloc stream tracks with
      ⟨mode', todo', stepTracks, same⟩ | ⟨doomed, rejected⟩
    · rw [same]
      refine ih stepLive ?_
      rw [viewEq]
      exact ⟨stepTracks.toExpects.of_eq _ rfl rfl rfl rfl, stepTracks.pending,
        stepTracks.list, stepTracks.sorted, stepTracks.shape⟩
    · refine iff_of_false ?_ rejected
      refine Doomed.not_logged ops stream stepLive ?_
      rw [viewEq]
      exact doomed

/-- Segments of one direction that tile the sequence space from the next expected
number on are parsed once each, in order and without a drop flag, exactly if they
arrive in time. -/
theorem segments_parsed_iff_inTime (ops : ProtoOps σ)
    (malloc : ∀ api, (ops.reorderMalloc api).1 = true) (svc : SvcInfoCap σ)
    (sess : SvcSession) (key : IpPort) (dir : DirPacket) (segs arrivals : List ParsePktHdr)
    (found : svc.findSess key = some sess) (alive : sess.toDelete = false)
    (plain : sess.common.isSsl = false) (idle : sess.reorder.reorderList = [])
    (stream : Stream key dir (sess.common.nxtSeq.get dir.side.other)
      (sess.common.nxtSeq.get dir.side) segs) (arrive : arrivals.Perm segs) :
    Logged svc.parsed segs (svc.parsePkts ops arrivals).parsed ↔
      HoldBack.InTime (MayHold dir (sess.common.nxtSeq.get dir.side.other)) segs arrivals := by
  have live : svc.Live key (· ∈ segs) sess := ⟨found, alive, plain, by simp [idle]⟩
  have expects : Expects dir (sess.common.nxtSeq.get dir.side.other) segs svc.parsed
      (mk svc key sess).view segs := by
    refine ⟨alive, plain, rfl, ⟨[], rfl, [], by simp [view], rfl, by simp⟩, ?_⟩
    intro seg isHead
    have tiles := stream.tiles
    cases segs with
    | nil => cases isHead
    | cons first rest =>
      cases isHead
      exact tiles.1.symm
  have tracks : Tracks dir (sess.common.nxtSeq.get dir.side.other)
      (sess.common.nxtSeq.get dir.side) segs svc.parsed (mk svc key sess).view .idle segs
      arrivals := ⟨expects, arrive, idle, .nil, trivial⟩
  rw [logged_iff_accepts ops malloc stream live tracks]
  exact accepts_iff_inTime _ _ stream.increasing

/-! ## Two requests -/

/-- A request segment of ten bytes from one client. -/
def requestSegment (start : Seq) : ParsePktHdr where
  tvUsec := 5
  cli := ⟨1, 2⟩
  datalen := 10
  nxtSeq := ⟨start + 10, 500⟩
  startSeq := ⟨start, 500⟩
  tcpflags := ⟨false, false, false⟩
  dir := .inbound
  src := .pcap

/-- A session that expects the client's number 1000 next. -/
def openSession : SvcSession where
  pvarproto := .monostate
  common := { CommonProto.new (requestSegment 990) with tconnectUsec := 1 }
  proto := .http1
  reorder := .init
  toDelete := false
  isrdrmap := false

/-- A service with this session. -/
def openService : SvcInfoCap Unit where
  proto := .http1
  svcSsl := .no
  stats := {}
  sessmap := [(⟨1, 2⟩, openSession)]
  sessrdrmap := []
  inReordermap := false
  api := ()
  parsed := []

lemma requestSegment_segment (start : Seq) :
    Segment ⟨1, 2⟩ .inbound 500 (requestSegment start) where
  cli := rfl
  direction := rfl
  src := rfl
  flags := rfl
  nonempty := by simp [requestSegment]
  size := by simp [requestSegment, maxParseTotalLen]
  nxt := rfl
  ackNxt := rfl
  acked := Int.le_of_eq (diff_self 500).symm

lemma requestSegment_stream (segs : List ParsePktHdr)
    (requests : ∀ hdr ∈ segs, ∃ start, hdr = requestSegment start)
    (tiles : Tiles .cli 1000 segs) (few : segs.length < ReorderInfo.maxSessReorderPkts) :
    Stream ⟨1, 2⟩ .inbound (openSession.common.nxtSeq.get .ser)
      (openSession.common.nxtSeq.get .cli) segs where
  segment := by
    intro hdr mem
    obtain ⟨start, rfl⟩ := requests hdr mem
    exact requestSegment_segment start
  tiles := tiles
  times := by
    intro first firstMem second secondMem
    obtain ⟨_, rfl⟩ := requests first firstMem
    obtain ⟨_, rfl⟩ := requests second secondMem
    exact Nat.le_add_right _ _
  few := few

/-- Three requests of which the second arrives first and the third last. -/
theorem three_requests_in_time :
    Logged [] [requestSegment 1000, requestSegment 1010, requestSegment 1020]
      (openService.parsePkts passiveOps
        [requestSegment 1010, requestSegment 1000, requestSegment 1020]).parsed := by
  have stream := requestSegment_stream
    [requestSegment 1000, requestSegment 1010, requestSegment 1020] (by simp)
    ⟨rfl, rfl, rfl, trivial⟩ (by decide)
  have hold : MayHold .inbound 500 (requestSegment 1000) (requestSegment 1010) :=
    ⟨by decide, .inl (by decide)⟩
  exact (segments_parsed_iff_inTime passiveOps (fun _ => rfl) openService openSession ⟨1, 2⟩
    .inbound _ _ rfl rfl rfl rfl stream (.swap _ _ _)).mpr
    (.early hold (.refl [requestSegment 1010]) .nil)

/-- Two requests in the wrong order: the first one is parsed when it arrives, and the
second one stays in the reorder list. -/
theorem two_requests_swapped : Stream ⟨1, 2⟩ .inbound (openSession.common.nxtSeq.get .ser)
        (openSession.common.nxtSeq.get .cli) [requestSegment 1000, requestSegment 1010] ∧
      openService.findSess ⟨1, 2⟩ = some openSession ∧
      [requestSegment 1010, requestSegment 1000].Perm [requestSegment 1000, requestSegment 1010] ∧
      ¬ Logged [] [requestSegment 1000, requestSegment 1010] (openService.parsePkts passiveOps
          [requestSegment 1010, requestSegment 1000]).parsed := by
  refine ⟨requestSegment_stream _ (by simp) ⟨rfl, rfl, trivial⟩ (by decide), rfl, .swap _ _ _, ?_⟩
  rintro ⟨calls, parsedEq, inOrder, -⟩
  have one : (openService.parsePkts passiveOps
      [requestSegment 1010, requestSegment 1000]).parsed.length = 1 := by decide
  have two := congrArg List.length inOrder
  rw [parsedEq] at one
  simp at one two
  omega

end Gyeeta.Capture
