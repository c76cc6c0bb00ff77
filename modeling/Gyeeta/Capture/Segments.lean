import Mathlib.Data.List.Nodup
import Mathlib.Data.List.Pairwise
import Gyeeta.Capture.Reorder

/-!
# Segments of one direction

The segments that one side of a session sends tile its sequence space.  Their numbers are
compared through their offsets from the first expected number, which stay far below the range of
a serial comparison.
-/

namespace Gyeeta.Capture

open List

/-- A captured data segment of one direction without `SYN`, `FIN` and `RST`.  Its
acknowledgement is not ahead of what was seen of the other direction. -/
structure Segment (key : IpPort) (dir : DirPacket) (ackNext : Seq) (hdr : ParsePktHdr) : Prop where
  cli : hdr.cli = key
  direction : hdr.dir = dir
  src : hdr.src = .pcap
  flags : hdr.tcpflags = ⟨false, false, false⟩
  nonempty : 0 < hdr.datalen
  size : hdr.datalen ≤ maxParseTotalLen
  nxt : hdr.nxtSeq.get dir.side = hdr.startSeq.get dir.side + BitVec.ofNat 32 hdr.datalen
  ackNxt : hdr.nxtSeq.get dir.side.other = hdr.startSeq.get dir.side.other
  acked : 0 ≤ Serial.diff ackNext (hdr.startSeq.get dir.side.other)

/-- The segments follow each other without a gap, from the given number on. -/
def Tiles (side : Side) : Seq → List ParsePktHdr → Prop
  | _, [] => True
  | next, seg :: segs => seg.startSeq.get side = next ∧ Tiles side (seg.nxtSeq.get side) segs

/-- The segments of one direction of a session, in sequence order: they tile the
sequence space from `base` on, were captured within one second and are fewer than
the reorder list can hold. -/
structure Stream (key : IpPort) (dir : DirPacket) (ackNext base : Seq)
    (segs : List ParsePktHdr) : Prop where
  segment : ∀ hdr ∈ segs, Segment key dir ackNext hdr
  tiles : Tiles dir.side base segs
  times : ∀ first ∈ segs, ∀ second ∈ segs, first.tvUsec ≤ second.tvUsec + usecPerSec
  few : segs.length < ReorderInfo.maxSessReorderPkts

/-- The distance of the start of a segment from the first expected number. -/
def offset (side : Side) (base : Seq) (hdr : ParsePktHdr) : Nat :=
  (hdr.startSeq.get side - base).toNat

lemma start_eq_add_offset (side : Side) (base : Seq) (hdr : ParsePktHdr) :
    hdr.startSeq.get side = base + BitVec.ofNat 32 (offset side base hdr) := by
  rw [offset, BitVec.ofNat_toNat, BitVec.setWidth_eq, BitVec.add_comm, BitVec.sub_add_cancel]

lemma offsets_of_tiles {key : IpPort} {dir : DirPacket} {ackNext base : Seq}
    {segs : List ParsePktHdr} (start : Nat) (segment : ∀ hdr ∈ segs, Segment key dir ackNext hdr)
    (tiles : Tiles dir.side (base + BitVec.ofNat 32 start) segs)
    (small : start + maxParseTotalLen * segs.length < 2 ^ 31) : segs.Pairwise (fun left right =>
        offset dir.side base left + left.datalen ≤ offset dir.side base right) ∧
      ∀ hdr ∈ segs, start ≤ offset dir.side base hdr ∧
        offset dir.side base hdr + hdr.datalen ≤ start + maxParseTotalLen * segs.length := by
  induction segs generalizing start with
  | nil => simp
  | cons seg segs ih =>
    obtain ⟨startEq, tiles⟩ := tiles
    have segSegment := segment seg mem_cons_self
    have size := segSegment.size
    have offsetEq : offset dir.side base seg = start := by
      rw [offset, startEq, BitVec.add_comm, BitVec.add_sub_cancel, BitVec.toNat_ofNat]
      omega
    have nextEq : seg.nxtSeq.get dir.side = base + BitVec.ofNat 32 (start + seg.datalen) := by
      rw [segSegment.nxt, startEq, BitVec.add_assoc, ← BitVec.ofNat_add]
    rw [nextEq] at tiles
    simp only [length_cons, Nat.mul_succ] at small ⊢
    obtain ⟨pairwise, bounds⟩ := ih (start + seg.datalen)
      (fun hdr mem => segment hdr (mem_cons_of_mem _ mem)) tiles (by omega)
    refine ⟨pairwise_cons.mpr ⟨?_, pairwise⟩, ?_⟩
    · intro hdr mem
      have := (bounds hdr mem).1
      omega
    intro hdr mem
    rcases mem_cons.mp mem with rfl | mem
    · omega
    · have := bounds hdr mem
      omega

lemma Tiles.next_start {side : Side} {base : Seq} {done rest : List ParsePktHdr}
    {seg behind : ParsePktHdr} (tiles : Tiles side base (done ++ seg :: behind :: rest)) :
    seg.nxtSeq.get side = behind.startSeq.get side := by
  induction done generalizing base with
  | nil => exact tiles.2.1.symm
  | cons first done ih => exact ih tiles.2

namespace Stream

variable {key : IpPort} {dir : DirPacket} {ackNext base : Seq} {segs : List ParsePktHdr}

variable {hdr left right : ParsePktHdr}

section

variable (stream : Stream key dir ackNext base segs)
include stream

lemma side_eq (mem : hdr ∈ segs) : hdr.side = dir.side := by
  rw [ParsePktHdr.side, (stream.segment hdr mem).direction]

lemma offsets : segs.Pairwise (fun left right =>
        offset dir.side base left + left.datalen ≤ offset dir.side base right) ∧
      ∀ hdr ∈ segs, offset dir.side base hdr + hdr.datalen < 2 ^ 22 := by
  have few := stream.few
  simp only [ReorderInfo.maxSessReorderPkts] at few
  obtain ⟨pairwise, bounds⟩ := offsets_of_tiles 0 stream.segment
    (by simpa using stream.tiles) (by simp only [maxParseTotalLen]; omega)
  refine ⟨pairwise, fun hdr mem => ?_⟩
  have bound := (bounds hdr mem).2
  simp only [maxParseTotalLen] at bound
  omega

lemma increasing : segs.Pairwise (fun left right =>
      offset dir.side base left < offset dir.side base right) := by
  refine stream.offsets.1.imp_of_mem ?_
  intro left right leftMem _ apart
  have := (stream.segment left leftMem).nonempty
  omega

lemma end_le_start (leftMem : left ∈ segs) (rightMem : right ∈ segs)
    (less : offset dir.side base left < offset dir.side base right) :
    offset dir.side base left + left.datalen ≤ offset dir.side base right := by
  have either : segs.Pairwise fun left right =>
      offset dir.side base left + left.datalen ≤ offset dir.side base right ∨
        offset dir.side base right + right.datalen ≤ offset dir.side base left :=
    stream.offsets.1.imp Or.inl
  have ne : left ≠ right := by
    rintro rfl
    exact Nat.lt_irrefl _ less
  have symmetric : Std.Symm fun left right : ParsePktHdr =>
      offset dir.side base left + left.datalen ≤ offset dir.side base right ∨
        offset dir.side base right + right.datalen ≤ offset dir.side base left :=
    ⟨fun _ _ => Or.symm⟩
  rcases either.forall leftMem rightMem ne with before | after
  · exact before
  · omega

lemma eq_of_offset_eq (leftMem : left ∈ segs) (rightMem : right ∈ segs)
    (equal : offset dir.side base left = offset dir.side base right) : left = right := by
  have distinct := pairwise_map.mpr (stream.increasing.imp Nat.ne_of_lt)
  exact inj_on_of_nodup_map distinct leftMem rightMem equal

lemma ahead_of_append {done rest : List ParsePktHdr} {next : ParsePktHdr}
    (segsEq : segs = done ++ next :: rest) (mem : hdr ∈ next :: rest) (other : hdr ≠ next) :
    offset dir.side base next < offset dir.side base hdr := by
  have increasing := stream.increasing
  rw [segsEq] at increasing
  have later := (pairwise_cons.mp (pairwise_append.mp increasing).2.1).1
  rcases mem_cons.mp mem with equal | mem
  · exact absurd equal other
  · exact later hdr mem

lemma nodup : segs.Nodup := by
  refine stream.increasing.imp ?_
  rintro left right less rfl
  exact Nat.lt_irrefl _ less

lemma diff_start (leftMem : left ∈ segs) (rightMem : right ∈ segs) :
    Serial.diff (left.startSeq.get dir.side) (right.startSeq.get dir.side) =
      (offset dir.side base left : Int) - offset dir.side base right := by
  have leftBound := stream.offsets.2 left leftMem
  have rightBound := stream.offsets.2 right rightMem
  rw [start_eq_add_offset dir.side base left, start_eq_add_offset dir.side base right,
    Serial.diff_add_ofNat base (by omega) (by omega)]

lemma diff_end (leftMem : left ∈ segs) (rightMem : right ∈ segs) :
    Serial.diff (left.startSeq.get dir.side + BitVec.ofNat 32 left.datalen)
        (right.startSeq.get dir.side) =
      (offset dir.side base left : Int) + left.datalen - offset dir.side base right := by
  have leftBound := stream.offsets.2 left leftMem
  have rightBound := stream.offsets.2 right rightMem
  rw [start_eq_add_offset dir.side base left, start_eq_add_offset dir.side base right,
    BitVec.add_assoc, ← BitVec.ofNat_add, Serial.diff_add_ofNat base (by omega) (by omega)]
  push_cast
  rfl

end

/-! ## Drop types of segments -/

/-- The drop type of the other direction: its acknowledged number is not ahead. -/
def ackDrop (dir : DirPacket) (ackNext : Seq) (hdr : ParsePktHdr) : DropTypes :=
  if Serial.diff ackNext (hdr.startSeq.get dir.side.other) = 0 then .noDrop else .retransmit

lemma ackDrop_ne_dropSeen (dir : DirPacket) (ackNext : Seq) (hdr : ParsePktHdr) :
    ackDrop dir ackNext hdr ≠ .dropSeen := by
  rw [ackDrop]
  split <;> decide

lemma ackDrop_ne_dropNewSess (dir : DirPacket) (ackNext : Seq) (hdr : ParsePktHdr) :
    ackDrop dir ackNext hdr ≠ .dropNewSess := by
  rw [ackDrop]
  split <;> decide

/-- A segment ahead of the next one by at most a megabyte, or one whose
acknowledgement is old by at most a megabyte.  Other segments ahead are taken for
the start of a new session. -/
def IsNear (dir : DirPacket) (ackNext : Seq) (next hdr : ParsePktHdr) : Prop :=
  Serial.diff (hdr.startSeq.get dir.side) (next.startSeq.get dir.side) ≤ 1024 * 1024 ∨
    Serial.diff ackNext (hdr.startSeq.get dir.side.other) ≤ 1024 * 1024

section

variable (stream : Stream key dir ackNext base segs) {common : CommonProto}
include stream

lemma pktDrops_next
    (mem : hdr ∈ segs) (ackEq : common.nxtSeq.get dir.side.other = ackNext)
    (nextEq : common.nxtSeq.get dir.side = hdr.startSeq.get dir.side) :
    Ctx.pktDrops common hdr = (.noDrop, ackDrop dir ackNext hdr) := by
  have acked := (stream.segment hdr mem).acked
  rw [Ctx.pktDrops, stream.side_eq mem, nextEq, ackEq]
  simp [isTcpDrop, acked, ackDrop]

lemma pktDrops_ahead
    {next : ParsePktHdr} (nextMem : next ∈ segs) (mem : hdr ∈ segs)
    (ahead : offset dir.side base next < offset dir.side base hdr)
    (ackEq : common.nxtSeq.get dir.side.other = ackNext)
    (nextEq : common.nxtSeq.get dir.side = next.startSeq.get dir.side) :
    (IsNear dir ackNext next hdr → Ctx.pktDrops common hdr = (.dropSeen, ackDrop dir ackNext hdr)) ∧
      (¬ IsNear dir ackNext next hdr → Ctx.pktDrops common hdr = (.dropNewSess, .dropNewSess)) := by
  have acked := (stream.segment hdr mem).acked
  have flags := (stream.segment hdr mem).flags
  have bound := stream.offsets.2 hdr mem
  have distance := stream.diff_start nextMem mem
  have back := stream.diff_start mem nextMem
  rw [Ctx.pktDrops, stream.side_eq mem, nextEq, ackEq, flags]
  simp only [IsNear, isTcpDrop, distance, back, ackDrop]
  constructor
  · intro near
    rw [if_neg (by omega), if_neg (by omega), if_neg, if_pos acked]
    simp only [Bool.false_eq_true, false_or]
    omega
  · intro far
    rw [if_neg (by omega), if_neg (by omega), if_pos]
    simp only [Bool.false_eq_true, false_or]
    omega

end

end Stream

end Gyeeta.Capture
