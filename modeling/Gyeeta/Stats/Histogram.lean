import Mathlib.Algebra.BigOperators.Group.List.Basic
import Mathlib.Data.List.Induction
import Mathlib.Order.MinMax
import Mathlib.Tactic.Ring

/-!
# Histograms

A histogram counts samples in buckets, which the class of the hash decides about, and keeps the
sum of each bucket, the number of samples, the largest one and the times of the first and the
last.  The sums are kept in 64-bit signed integers.
-/

namespace Gyeeta.Stats

open List

/-- Conversion to `int64_t`. -/
def toInt64 (value : Int) : Int := value.bmod (2 ^ 64)

/-- `HIST_SERIAL`: a bucket. -/
structure HistSerial where
  count : Nat
  sum : Int
  deriving DecidableEq, Repr

namespace HistSerial

def zero : HistSerial := ⟨0, 0⟩

def add (bucket : HistSerial) (data : Int) : HistSerial :=
  ⟨bucket.count + 1, toInt64 (bucket.sum + data)⟩

/-- A bucket of another histogram is added. -/
def merge (bucket other : HistSerial) : HistSerial :=
  ⟨bucket.count + other.count, toInt64 (bucket.sum + other.sum)⟩

end HistSerial

/-- `GY_HISTOGRAM`. -/
structure Histogram where
  endClockSec : Nat
  stats : List HistSerial
  totalCount : Nat
  maxValSeen : Int
  startClockSec : Nat
  deriving DecidableEq, Repr

/-- A call of `add_data`: the sample and the clock, which is zero if it is not given. -/
structure Sample where
  data : Int
  currClockSec : Nat
  deriving DecidableEq, Repr

namespace Histogram

/-- A new histogram of a type with the least value `lowest`. -/
def new (lowest : Int) (maxBuckets startClockSec : Nat) : Histogram where
  endClockSec := startClockSec
  stats := List.replicate maxBuckets .zero
  totalCount := 0
  maxValSeen := lowest
  startClockSec := startClockSec

/-- `add_data` into the bucket of the hash. -/
def addData (hash : Int → Nat) (hist : Histogram) (sample : Sample) : Histogram :=
  { hist with
    stats := hist.stats.modify (hash sample.data) (·.add sample.data)
    totalCount := hist.totalCount + 1
    maxValSeen := if hist.maxValSeen < sample.data then sample.data else hist.maxValSeen
    endClockSec :=
      if sample.currClockSec ≠ 0 then sample.currClockSec else hist.endClockSec }

def updateFromSerialized (hist : Histogram) (statsArr : List HistSerial) (totalCount : Nat)
    (maxVal : Int) (endClock startClock : Nat) : Histogram where
  stats := List.zipWith HistSerial.merge hist.stats statsArr
  totalCount := hist.totalCount + totalCount
  maxValSeen := if hist.maxValSeen < maxVal then maxVal else hist.maxValSeen
  endClockSec := if hist.endClockSec > endClock then endClock else hist.endClockSec
  startClockSec := if hist.startClockSec < startClock then startClock else hist.startClockSec

def addHistogram (hist thist : Histogram) : Histogram :=
  hist.updateFromSerialized thist.stats thist.totalCount thist.maxValSeen thist.endClockSec
    thist.startClockSec

/-- The histogram after a sequence of samples. -/
def fill (hash : Int → Nat) (hist : Histogram) (samples : List Sample) : Histogram :=
  samples.foldl (addData hash) hist

/-! ## What a histogram holds -/

/-- The samples of a bucket. -/
def inBucket (hash : Int → Nat) (bucket : Nat) (samples : List Sample) : List Sample :=
  samples.filter (hash ·.data = bucket)

/-- The sum of samples. -/
def sumOf (samples : List Sample) : Int := (samples.map Sample.data).sum

lemma sumOf_append (first second : List Sample) :
    sumOf (first ++ second) = sumOf first + sumOf second := by
  rw [sumOf, map_append, sum_append]
  rfl

/-- A bucket that counts these samples. -/
def bucketOf (samples : List Sample) : HistSerial :=
  ⟨samples.length, toInt64 (sumOf samples)⟩

lemma toInt64_add_left (left right : Int) :
    toInt64 (toInt64 left + right) = toInt64 (left + right) :=
  Int.bmod_add_bmod

lemma toInt64_add (left right : Int) :
    toInt64 (toInt64 left + toInt64 right) = toInt64 (left + right) := by
  rw [toInt64_add_left, Int.add_comm, toInt64_add_left, Int.add_comm]

lemma bucketOf_snoc (samples : List Sample) (sample : Sample) :
    bucketOf (samples ++ [sample]) = (bucketOf samples).add sample.data := by
  have single : sumOf [sample] = sample.data := sum_singleton
  rw [bucketOf, bucketOf, HistSerial.add, sumOf_append, toInt64_add_left, length_append, single]
  rfl

lemma merge_bucketOf (first second : List Sample) :
    (bucketOf first).merge (bucketOf second) = bucketOf (first ++ second) := by
  rw [HistSerial.merge, bucketOf, bucketOf, bucketOf, toInt64_add, ← sumOf_append, length_append]

section Fill

variable (hash : Int → Nat) (lowest : Int) (maxBuckets startClockSec : Nat)

variable (hist : Histogram) (samples : List Sample)

lemma fill_snoc (sample : Sample) :
    fill hash hist (samples ++ [sample]) = (fill hash hist samples).addData hash sample := by
  rw [fill, foldl_append]
  rfl

lemma fill_stats : (fill hash (new lowest maxBuckets startClockSec) samples).stats =
      (List.range maxBuckets).map fun bucket => bucketOf (inBucket hash bucket samples) := by
  induction samples using List.reverseRecOn with
  | nil =>
    show List.replicate maxBuckets HistSerial.zero = _
    rw [map_eq_replicate_iff.mpr, length_range]
    intro bucket _
    rfl
  | append_singleton samples sample ih =>
    rw [fill_snoc, addData, ih]
    dsimp only
    apply ext_getElem?
    intro bucket
    rw [List.getElem?_modify, List.getElem?_map, List.getElem?_map]
    by_cases inRange : bucket < maxBuckets
    · rw [List.getElem?_range inRange]
      simp only [Option.map_some, inBucket, filter_append]
      by_cases isBucket : hash sample.data = bucket
      · simp [isBucket, bucketOf_snoc]
      · simp [isBucket]
    · rw [List.getElem?_eq_none (by rw [length_range]; omega)]
      rfl

lemma fill_totalCount :
    (fill hash (new lowest maxBuckets startClockSec) samples).totalCount = samples.length := by
  induction samples using List.reverseRecOn with
  | nil => rfl
  | append_singleton samples sample ih =>
    rw [fill_snoc, length_append, ← ih]
    rfl

lemma fill_maxValSeen :
    (fill hash hist samples).maxValSeen = (samples.map Sample.data).foldl max hist.maxValSeen := by
  induction samples using List.reverseRecOn with
  | nil => rfl
  | append_singleton samples sample ih =>
    rw [fill_snoc, map_append, foldl_append, ← ih]
    exact (max_def_lt _ _).symm

lemma fill_startClockSec : (fill hash hist samples).startClockSec = hist.startClockSec := by
  induction samples using List.reverseRecOn with
  | nil => rfl
  | append_singleton samples sample ih =>
    rw [fill_snoc, ← ih]
    rfl

/-- The last clock that came with a sample, or the start. -/
def lastClock (startClockSec : Nat) (samples : List Sample) : Nat :=
  ((samples.map Sample.currClockSec).filter (· ≠ 0)).getLastD startClockSec

lemma fill_endClockSec :
    (fill hash hist samples).endClockSec = lastClock hist.endClockSec samples := by
  induction samples using List.reverseRecOn with
  | nil => rfl
  | append_singleton samples sample ih =>
    rw [fill_snoc, lastClock, map_append, filter_append]
    show (if sample.currClockSec ≠ 0 then sample.currClockSec else _) = _
    by_cases given : sample.currClockSec ≠ 0
    · simp [given]
    · rw [if_neg given, ih]
      simp [given, lastClock]

end Fill

/-! ## Merging -/

lemma foldl_max_eq (start : Int) (values : List Int) (other : Int) :
    values.foldl max (max start other) = max start (values.foldl max other) := by
  induction values generalizing other with
  | nil => rfl
  | cons value values ih =>
    rw [foldl_cons, max_assoc, ih, foldl_cons]

lemma foldl_max_append (lowest : Int) (values others : List Int) :
    (values ++ others).foldl max lowest =
      max (values.foldl max lowest) (others.foldl max lowest) := by
  have atLeast : max (values.foldl max lowest) lowest = values.foldl max lowest := by
    have grown := foldl_max_eq lowest values lowest
    rw [max_self] at grown
    rw [grown, max_right_comm, max_self]
  rw [foldl_append, ← foldl_max_eq, atLeast]

section Merge

variable (hash : Int → Nat) (lowest : Int) (maxBuckets : Nat)

lemma addHistogram_values (start otherStart : Nat) (samples others : List Sample) :
    let merged := (fill hash (new lowest maxBuckets start) samples).addHistogram
      (fill hash (new lowest maxBuckets otherStart) others)
    let whole := fill hash (new lowest maxBuckets start) (samples ++ others)
    merged.stats = whole.stats ∧ merged.totalCount = whole.totalCount ∧
      merged.maxValSeen = whole.maxValSeen := by
  refine ⟨?_, ?_, ?_⟩
  · rw [addHistogram, updateFromSerialized, fill_stats, fill_stats, fill_stats]
    dsimp only
    rw [zipWith_map_left, zipWith_map_right, zipWith_self]
    apply map_congr_left
    intro bucket _
    rw [merge_bucketOf, inBucket, inBucket, inBucket, filter_append]
  · rw [addHistogram, updateFromSerialized, fill_totalCount, fill_totalCount, fill_totalCount,
      length_append]
  · rw [fill_maxValSeen, map_append]
    show _ = List.foldl max lowest _
    rw [foldl_max_append, max_def_lt]
    have isMax := fill_maxValSeen hash (new lowest maxBuckets start) samples
    have isOtherMax := fill_maxValSeen hash (new lowest maxBuckets otherStart) others
    rw [addHistogram, updateFromSerialized, isMax, isOtherMax]
    rfl

/-- Adding a histogram to another gives the histogram of all samples, from the earlier start
to the later end, exactly when both start and end at the same time. -/
theorem addHistogram_merges_iff (start otherStart : Nat) (samples others : List Sample) :
    let merged := (fill hash (new lowest maxBuckets start) samples).addHistogram
      (fill hash (new lowest maxBuckets otherStart) others)
    let whole := fill hash (new lowest maxBuckets start) (samples ++ others)
    (merged.stats = whole.stats ∧ merged.totalCount = whole.totalCount ∧
        merged.maxValSeen = whole.maxValSeen ∧ merged.startClockSec = min start otherStart ∧
        merged.endClockSec = max (lastClock start samples) (lastClock otherStart others)) ↔
      start = otherStart ∧ lastClock start samples = lastClock otherStart others := by
  have values := addHistogram_values hash lowest maxBuckets start otherStart samples others
  have startIs : ((fill hash (new lowest maxBuckets start) samples).addHistogram
      (fill hash (new lowest maxBuckets otherStart) others)).startClockSec =
        max start otherStart := by
    rw [max_def_lt, addHistogram, updateFromSerialized, fill_startClockSec, fill_startClockSec]
    rfl
  have endIs : ((fill hash (new lowest maxBuckets start) samples).addHistogram
      (fill hash (new lowest maxBuckets otherStart) others)).endClockSec =
        min (lastClock start samples) (lastClock otherStart others) := by
    rw [min_comm, min_def_lt, addHistogram, updateFromSerialized, fill_endClockSec,
      fill_endClockSec]
    rfl
  dsimp only at values ⊢
  rw [startIs, endIs]
  constructor
  · rintro ⟨-, -, -, isStart, isEnd⟩
    omega
  · rintro ⟨sameStart, sameEnd⟩
    refine ⟨values.1, values.2.1, values.2.2, ?_, ?_⟩ <;> omega

end Merge

/-- A histogram from second 10 to second 50, and one from second 20 to second 30: the merged
one goes from second 20 to second 30. -/
theorem merged_span_is_intersection :
    let hist := fill Int.toNat (new 0 8 10) [⟨1, 40⟩, ⟨2, 50⟩]
    let thist := fill Int.toNat (new 0 8 20) [⟨3, 30⟩]
    (hist.startClockSec, hist.endClockSec) = (10, 50) ∧
      (thist.startClockSec, thist.endClockSec) = (20, 30) ∧
      ((hist.addHistogram thist).startClockSec, (hist.addHistogram thist).endClockSec) =
        (20, 30) := by
  decide

end Histogram

end Gyeeta.Stats
