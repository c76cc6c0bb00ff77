import Gyeeta.Comm.Framing

/-!
# Largest elements

`get_max_elem_size()` of the types that have one, against `get_elem_size()` of the elements that
their `validate` lets pass.
-/

namespace Gyeeta.Comm

open List Layout

namespace ElemType

/-- `get_max_elem_size()`.  That of `MM_LISTENER_ISSUE_RESOL` has the size of a constant in place
of its value 2048. -/
def getMaxElemSize : ElemType → Option Nat
  | taskTopProcs => some (16 + 15 * 40 + 10 * 64 + 8 * 40 + 5 * 40)
  | cpuMemState => some (200 + 256 + 256)
  | batch .taskAggr => some (48 + 256 + 256)
  | batch .newListener => some (112 + 256)
  | batch .tcpConn => some (280 + 256)
  | batch .aggrTaskState => some (72 + 160)
  | batch .listenerState => some (88 + 256)
  | batch .listenerDependency => some (24 + 512 * 64)
  | batch .listenerCluster => some (16 + 1024 * 32)
  | batch .msSvcClusterMesh => some (96 + 1024 * 32)
  | batch .msListenerNatIp => some (120 + 8 * 32)
  | batch .mmListenerIssueResol => some (48 + 12 * 8)
  | batch .listenerDomain => some (16 + 256 + 256)
  | batch .notificationMsg => some (8 + 512)
  | _ => none

/-- The types whose `validate` limits all that follows the structure. -/
def isLimited (type : ElemType) : Bool :=
  type ∈ [batch .listenerDependency, batch .listenerCluster, batch .msSvcClusterMesh,
    batch .msListenerNatIp]

/-- The bytes of a structure that announces more than fits, by their offsets. -/
def oversized : ElemType → List (Nat × UInt8)
  | taskTopProcs => [(0, 15), (2, 15), (4, 8), (6, 5), (8, 32), (9, 8)]
  | cpuMemState => [(68, 248), (196, 248), (197, 248)]
  | batch .taskAggr => [(41, 4)]
  | batch .newListener => [(105, 4)]
  | batch .tcpConn => [(273, 4)]
  | batch .aggrTaskState => [(68, 248)]
  | batch .listenerState => [(85, 248), (86, 248)]
  | batch .mmListenerIssueResol => [(40, 10)]
  | batch .listenerDomain => [(8, 248), (9, 248), (10, 248)]
  | batch .notificationMsg => [(3, 4)]
  | _ => []

/-- The structure with these bytes. -/
def oversizedStruct (type : ElemType) : Bytes :=
  type.oversized.foldl (fun bytes byte => bytes.set byte.1 byte.2) (replicate type.layout.size 0)

lemma oversized_checked (type : ElemType) : type.getMaxElemSize = none ∨ type.isLimited ∨
    type.oversizedStruct.length = type.layout.size ∧
      type.layout.extent type.oversizedStruct % 8 = 0 ∧ type.limits type.oversizedStruct ∧
      type.getMaxElemSize.any (· < type.layout.extent type.oversizedStruct) := by
  cases type with
  | batch type => cases type <;> decide +kernel
  | _ => decide +kernel

lemma getElemSize_of_max {type : ElemType} {max : Nat} (isMax : type.getMaxElemSize = some max)
    (bytes : Bytes) : type.getElemSize bytes 0 = type.layout.extentAt bytes 0 := by
  cases type with
  | taskMiniAdd => cases isMax
  | _ => rfl

end ElemType

/-- A structure within its limits, with zeroes for the parts that it announces. -/
lemma exists_elem {type : ElemType} {one : Bytes} (length : one.length = type.layout.size)
    (aligned : type.layout.extent one % 8 = 0) (limits : type.limits one = true) :
    ∃ elem : Elem type, type.layout.extentAt elem.bytes 0 = type.layout.extent one := by
  have covers := type.layout.size_le_extent one
  have same : type.layout.structAt
      (one ++ replicate (type.layout.extent one - type.layout.size) 0) 0 = one := by
    rw [structAt, Bytes.slice_zero, ← length, take_left]
  have size := congrArg type.layout.extent same
  have total : (one ++ replicate (type.layout.extent one - type.layout.size) 0).length =
      type.layout.extent one := by
    rw [length_append, length_replicate]
    omega
  exact ⟨⟨_, total.trans size.symm, by rw [total]; exact aligned, by rw [same]; exact limits⟩, size⟩

/-- The loop of `validate` passes only over elements within their limits. -/
lemma Batch.validateLoop_checked {batch : Batch} {nelems totallen start : Nat}
    {memory after : Memory}
    (accepted : batch.validateLoop nelems totallen start memory = some after) :
    ∀ offset ∈ starts (batch.layout.extentAt after.bytes) start nelems,
      batch.check (batch.layout.counts (batch.layout.structAt after.bytes offset)) = true := by
  induction nelems generalizing totallen start memory with
  | zero => simp [starts]
  | succ nelems ih =>
    obtain ⟨-, checked, rest⟩ := validateLoop_step accepted
    have terminated := batch.layout.terminate_terminated memory start
    have same : batch.layout.structAt after.bytes start =
        batch.layout.structAt (batch.layout.terminate memory start).bytes start :=
      structAt_of_take (validateLoop_walked rest).take_eq
        (Nat.add_le_add_left (size_le_extent batch.layout _) start)
    have sameExtent : batch.layout.extentAt after.bytes start =
        batch.layout.extentAt memory.bytes start := by
      rw [extentAt, same, ← extentAt, terminated.extentAt_eq]
    rw [starts, forall_mem_cons, same, terminated.counts_eq, sameExtent]
    exact ⟨checked, ih rest⟩

/-- Every element that a handler finds in an accepted message is within the limits of its
type. -/
lemma Accepted.limits {type : BatchType} {message : Bytes} {after : Memory}
    (accepted : Accepted (.batch type) message after) :
    ∀ start ∈ elemStarts (.batch type) message after,
      ElemType.limits (.batch type) (type.batch.layout.structAt after.bytes start) = true := by
  have validated := BatchType.validate_batch accepted.validated
  rw [Batch.validate] at validated
  split at validated
  · cases validated
  split at validated
  · cases validated
  · exact Batch.validateLoop_checked validated

/-- Every element that `validate` lets pass is as small as the type says exactly for the types
that limit all the parts of their elements. -/
theorem elems_small_iff (type : ElemType) :
    (∀ elem : Elem type, ∀ max ∈ type.getMaxElemSize, type.getElemSize elem.bytes 0 ≤ max) ↔
      type.getMaxElemSize = none ∨ type.isLimited = true := by
  constructor
  · intro small
    rcases type.oversized_checked with none | limited | ⟨length, aligned, limits, large⟩
    · exact .inl none
    · exact .inr limited
    · obtain ⟨max, isMax, larger⟩ := (Option.any_eq_true _ _).mp large
      obtain ⟨elem, size⟩ := exists_elem length aligned limits
      have fits := small elem max isMax
      rw [ElemType.getElemSize_of_max isMax, size] at fits
      exact absurd (of_decide_eq_true larger) (Nat.not_lt.mpr fits)
  · intro cases elem max isMax
    rw [ElemType.getElemSize_of_max isMax, extentAt]
    have limits := elem.wellFormed.limits
    generalize type.layout.structAt elem.bytes 0 = one at limits ⊢
    rcases cases with none | limited
    · rw [none] at isMax
      cases isMax
    simp only [ElemType.isLimited, mem_cons, not_mem_nil, or_false, decide_eq_true_eq] at limited
    rcases limited with rfl | rfl | rfl | rfl
    all_goals
      cases isMax
      simp [ElemType.limits, BatchType.batch, Batch.ofLayout, counts, Part.array, msListenerNatIp,
        listenerDependencyNotify, listenerClusterNotify, msSvcClusterMesh] at limits
      simp [ElemType.layout, BatchType.batch, Batch.ofLayout, extent, Part.length, Part.array,
        listenerDependencyNotify, listenerClusterNotify, msSvcClusterMesh, msListenerNatIp]
      omega

/-- A `MM_LISTENER_ISSUE_RESOL` with ten services. -/
theorem ten_downstreams_large : ∃ elem : Elem (.batch .mmListenerIssueResol),
    ElemType.getElemSize (.batch .mmListenerIssueResol) elem.bytes 0 = 168 ∧
      ElemType.getMaxElemSize (.batch .mmListenerIssueResol) = some 144 := by
  obtain ⟨elem, size⟩ := @exists_elem (.batch .mmListenerIssueResol)
    (ElemType.oversizedStruct (.batch .mmListenerIssueResol)) (by decide +kernel)
    (by decide +kernel) (by decide +kernel)
  exact ⟨elem, size, rfl⟩

end Gyeeta.Comm
