import Gyeeta.Capture.Provenance
import Gyeeta.Capture.Segments
import Gyeeta.Lib.HoldBack

/-!
# Arrival orders of a stream

The segments of one direction arrive in any order, and the session follows the hold-back machine:
a segment ahead of the next one is held, the next one is parsed when it arrives, and because
parsing a data packet returns false the held segments stay until one more packet of the session
arrives.
-/

namespace Gyeeta.Capture

open List

open HoldBack (Mode Accepts)

/-- The calls of the protocol parser since `before` are one for each of the packets,
in their order, and none has a drop flag. -/
def Logged (before : List ParseCall) (hdrs : List ParsePktHdr) (parsed : List ParseCall) : Prop :=
  ∃ calls, parsed = before ++ calls ∧ calls.map (·.hdr) = hdrs ∧
    ∀ call ∈ calls, call.isPktDrop = false

variable {before parsed : List ParseCall}

lemma Logged.snoc {hdrs : List ParsePktHdr}
    (logged : Logged before hdrs parsed) {call : ParseCall} (noDrop : call.isPktDrop = false) :
    Logged before (hdrs ++ [call.hdr]) (parsed ++ [call]) := by
  obtain ⟨calls, rfl, rfl, noDrops⟩ := logged
  refine ⟨calls ++ [call], by simp, by simp, ?_⟩
  intro other mem
  rcases mem_append.mp mem with mem | mem
  · exact noDrops other mem
  · rw [mem_singleton.mp mem]
    exact noDrop

lemma Logged.unique {left right : List ParsePktHdr}
    (leftLogged : Logged before left parsed) (rightLogged : Logged before right parsed) :
    left = right := by
  obtain ⟨calls, parsedEq, rfl, -⟩ := leftLogged
  obtain ⟨calls', parsedEq', rfl, -⟩ := rightLogged
  rw [append_cancel_left (parsedEq.symm.trans parsedEq')]

/-- `MayHold` is the condition under which a segment is held while the next one is
missing: zero marks the absence of a hole, so a hole at the number zero is lost. -/
def MayHold (dir : DirPacket) (ackNext : Seq) (next hdr : ParsePktHdr) : Prop :=
  next.startSeq.get dir.side ≠ 0 ∧ Stream.IsNear dir ackNext next hdr

/-- The head information of a list of held segments in front of which the next
segment is missing. -/
structure IsHole (dir : DirPacket) (segs : List ParsePktHdr) (common : CommonProto)
    (reorder : ReorderInfo) (held : List ParsePktHdr) : Prop where
  expMine : reorder.expSeqStart.get dir.side = common.nxtSeq.get dir.side
  expSet : common.nxtSeq.get dir.side ≠ 0
  expTheirs : reorder.expSeqStart.get dir.side.other = 0
  seen : ∀ first ∈ held.head?, reorder.seenSeq.get dir.side = first.startSeq.get dir.side
  dropMine : common.dropType.get dir.side = .dropSeen
  dropTheirs : common.dropType.get dir.side.other ≠ .dropSeen
  tfirst : ∃ seg ∈ segs, reorder.tfirstusec = seg.tvUsec

/-- The reorder state of a session in each mode of the hold-back machine. -/
def Shape (dir : DirPacket) (segs : List ParsePktHdr) (common : CommonProto)
    (reorder : ReorderInfo) : Mode ParsePktHdr → Prop
  | .idle => True
  | .hole held => held ≠ [] ∧ IsHole dir segs common reorder held
  | .filled held => held ≠ [] ∧ ∀ side, reorder.expSeqStart.get side = 0

section

variable {σ : Type} {key : IpPort} {dir : DirPacket} {ackNext base : Seq}
variable {segs : List ParsePktHdr} {before : List ParseCall}

/-- The session has parsed everything before `todo` in order, and `todo` comes next. -/
structure Expects (dir : DirPacket) (ackNext : Seq) (segs : List ParsePktHdr)
    (before : List ParseCall) (view : View) (todo : List ParsePktHdr) : Prop where
  alive : view.toDelete = false
  plain : view.common.isSsl = false
  ack : view.common.nxtSeq.get dir.side.other = ackNext
  log : ∃ done, segs = done ++ todo ∧ Logged before done view.parsed
  next : ∀ seg ∈ todo.head?, view.common.nxtSeq.get dir.side = seg.startSeq.get dir.side

/-- The session is in a mode of the hold-back machine, with `todo` not yet parsed and
`arrivals` still to come. -/
structure Tracks (dir : DirPacket) (ackNext base : Seq) (segs : List ParsePktHdr)
    (before : List ParseCall) (view : View) (mode : Mode ParsePktHdr)
    (todo arrivals : List ParsePktHdr) : Prop extends
    Expects dir ackNext segs before view todo where
  pending : (mode.held ++ arrivals).Perm todo
  list : view.reorder.reorderList = mode.held.map .new
  sorted : mode.held.Pairwise fun left right =>
    offset dir.side base left < offset dir.side base right
  shape : Shape dir segs view.common view.reorder mode

/-! ## Runs that cannot succeed any more -/

/-- Whatever the available packets, which include the arrivals to come, add to the
calls, these are not the segments in order without a drop flag. -/
def Doomed (segs : List ParsePktHdr) (before : List ParseCall)
    (arrivals : List ParsePktHdr) (view : View) : Prop :=
  ∃ avail : ParsePktHdr → Prop, (∀ hdr ∈ arrivals, avail hdr) ∧
    (∀ hdr, avail hdr → hdr ∈ segs) ∧ view.HoldsOnly avail ∧
    ∃ calls, view.parsed = before ++ calls ∧
      ∀ more : List ParseCall, (∀ call ∈ more, avail call.hdr) →
        (calls ++ more).map (·.hdr) = segs → ∃ call ∈ calls ++ more, call.isPktDrop = true

variable {arrivals : List ParsePktHdr} {view : View} {calls : List ParseCall}

section

variable (arriving : ∀ hdr ∈ arrivals, hdr ∈ segs)
include arriving

lemma Doomed.of_flagged {after : View} {call : ParseCall}
    (holds : view.HoldsOnly (· ∈ segs)) (parsed : view.parsed = before ++ calls)
    (mem : call ∈ calls) (flagged : call.isPktDrop = true)
    (followed : Follows (· ∈ segs) view after) : Doomed segs before arrivals after := by
  obtain ⟨more, moreEq, -⟩ := followed.log
  refine ⟨(· ∈ segs), arriving, fun _ => id, followed.held holds, calls ++ more,
    by rw [moreEq, parsed, append_assoc], fun _ _ _ => ⟨call, ?_, flagged⟩⟩
  exact mem_append_left _ (mem_append_left _ mem)

lemma Doomed.of_misplaced {done todo : List ParsePktHdr} {next : ParsePktHdr}
    {call : ParseCall} (holds : view.HoldsOnly (· ∈ segs))
    (parsed : view.parsed = before ++ (calls ++ [call]))
    (doneEq : calls.map (·.hdr) = done) (segsEq : segs = done ++ next :: todo)
    (misplaced : call.hdr ≠ next) : Doomed segs before arrivals view := by
  refine ⟨(· ∈ segs), arriving, fun _ => id, holds, calls ++ [call], parsed, ?_⟩
  intro more _ inOrder
  rw [segsEq, append_assoc, map_append, doneEq, append_cancel_left_eq,
    singleton_append, map_cons] at inOrder
  exact absurd (List.cons.inj inOrder).1 misplaced

lemma Doomed.of_lost {lost : ParsePktHdr}
    (empty : view.reorder.reorderList = []) (parsed : view.parsed = before ++ calls)
    (mem : lost ∈ segs) (notParsed : lost ∉ calls.map (·.hdr))
    (notArriving : lost ∉ arrivals) : Doomed segs before arrivals view := by
  refine ⟨(· ∈ arrivals), fun _ => id, arriving, ?_, calls, parsed, ?_⟩
  · intro pkt held
    rw [empty] at held
    cases held
  intro more moreAvail inOrder
  rw [← inOrder, map_append] at mem
  rcases mem_append.mp mem with mem | mem
  · exact absurd mem notParsed
  · obtain ⟨call, callMem, rfl⟩ := mem_map.mp mem
    exact absurd (moreAvail call callMem) notArriving

end

variable {hdr : ParsePktHdr}

lemma Doomed.follows {after : View} (doomed : Doomed segs before (hdr :: arrivals) view)
    (followed : ∀ avail : ParsePktHdr → Prop, avail hdr → view.HoldsOnly avail →
      Follows avail view after) : Doomed segs before arrivals after := by
  obtain ⟨avail, arriving, within, holds, calls, parsed, hopeless⟩ := doomed
  have step := followed avail (arriving hdr mem_cons_self) holds
  obtain ⟨new, newEq, newAvail⟩ := step.log
  refine ⟨avail, fun hdr mem => arriving hdr (mem_cons_of_mem _ mem), within,
    step.held holds, calls ++ new, by rw [newEq, parsed, append_assoc], ?_⟩
  intro more moreAvail
  rw [append_assoc]
  apply hopeless
  intro call mem
  rcases mem_append.mp mem with mem | mem
  · exact newAvail call mem
  · exact moreAvail call mem

lemma Stream.isPlain (stream : Stream key dir ackNext base segs)
    (mem : hdr ∈ segs) : IsPlain key hdr := by
  have segment := stream.segment hdr mem
  exact
    { cli := segment.cli
      nonempty := segment.nonempty
      noEnd := by rw [segment.flags]; rfl
      noSsl := by rw [segment.src]; decide }

lemma Doomed.not_logged (ops : ProtoOps σ) (stream : Stream key dir ackNext base segs)
    {svc : SvcInfoCap σ} {sess : SvcSession} (live : svc.Live key (· ∈ segs) sess)
    (doomed : Doomed segs before arrivals (Ctx.mk svc key sess).view) :
    ¬ Logged before segs (svc.parsePkts ops arrivals).parsed := by
  obtain ⟨avail, arriving, within, holds, calls, parsed, hopeless⟩ := doomed
  obtain ⟨more, moreEq, moreAvail⟩ := SvcInfoCap.parsePkts_log ops
    (fun hdr given => stream.isPlain (within hdr given)) arriving
    { live with holds := holds }
  rintro ⟨all, allEq, inOrder, noDrop⟩
  have parsedEq : svc.parsed = before ++ calls := parsed
  have same : all = calls ++ more := by
    rw [allEq, parsedEq, append_assoc] at moreEq
    exact append_cancel_left moreEq
  subst same
  obtain ⟨call, mem, flagged⟩ := hopeless more moreAvail inOrder
  rw [noDrop call mem] at flagged
  exact Bool.false_ne_true flagged

end

end Gyeeta.Capture
