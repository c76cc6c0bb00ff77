import Gyeeta.Lib.Run
import Mathlib.Data.List.Sort

/-!
# Bounded priority queues

A queue of bounded size that keeps the first elements of what is pushed, in the order of its
comparator, in a heap whose front is the last of them.  The heap functions of the standard
library are given by their specification.
-/

namespace Gyeeta.Stats

open List

variable {Elem : Type} {comp : Elem → Elem → Bool}

/-- A strict weak order. -/
structure StrictWeak (comp : Elem → Elem → Bool) : Prop where
  asymm : ∀ {first second}, comp first second = true → comp second first = false
  negTrans : ∀ {first second third}, comp first second = false → comp second third = false →
    comp first third = false

/-- No element of a heap is greater than its parent. -/
def IsHeap (comp : Elem → Elem → Bool) (vecq : List Elem) : Prop :=
  ∀ place parent elem, vecq[(place - 1) / 2]? = some parent → vecq[place]? = some elem →
    comp parent elem = false

/-- `make_heap`, `push_heap`, `pop_heap` and `sort_heap`. -/
structure StdHeap (comp : Elem → Elem → Bool) where
  makeHeap : List Elem → List Elem
  pushHeap : List Elem → List Elem
  popHeap : List Elem → List Elem
  sortHeap : List Elem → List Elem
  makeHeap_spec : ∀ vecq, (makeHeap vecq).Perm vecq ∧ IsHeap comp (makeHeap vecq)
  pushHeap_spec : ∀ vecq data, IsHeap comp vecq →
    (pushHeap (vecq ++ [data])).Perm (vecq ++ [data]) ∧ IsHeap comp (pushHeap (vecq ++ [data]))
  popHeap_spec : ∀ top rest, IsHeap comp (top :: rest) → ∃ vecq,
    popHeap (top :: rest) = vecq ++ [top] ∧ vecq.Perm rest ∧ IsHeap comp vecq
  sortHeap_spec : ∀ vecq, IsHeap comp vecq → (sortHeap vecq).Perm vecq ∧
    (sortHeap vecq).Pairwise fun first second => comp second first = false

/-- `BOUNDED_PRIO_QUEUE`. -/
structure PrioQueue (Elem : Type) where
  vecq : List Elem
  maxsz : Nat
  deriving DecidableEq, Repr

namespace PrioQueue

section Calls

variable (std : StdHeap comp) (queue : PrioQueue Elem)

def pushLocked (data : Elem) : PrioQueue Elem :=
  if queue.vecq.length < queue.maxsz then
    let vecq := queue.vecq ++ [data]
    { queue with vecq := if vecq.length > 6 then std.pushHeap vecq else std.makeHeap vecq }
  else
    match queue.vecq with
    | [] => queue
    | top :: _ =>
      if comp data top then
        { queue with vecq := std.pushHeap ((std.popHeap queue.vecq).dropLast ++ [data]) }
      else queue

def popLocked : PrioQueue Elem :=
  if queue.vecq = [] then queue
  else { queue with vecq := (std.popHeap queue.vecq).dropLast }

/-- `walk_queue` with a callback that changes no element, and with the heap on return. -/
def walkQueue (sortQueue : Bool) : PrioQueue Elem :=
  if queue.vecq = [] then queue
  else if sortQueue then { queue with vecq := std.makeHeap (std.sortHeap queue.vecq) }
  else queue

/-- The loop of `set_max_size`. -/
def popMany : Nat → PrioQueue Elem → PrioQueue Elem
  | 0, queue => queue
  | count + 1, queue => popMany count (queue.popLocked std)

def setMaxSize (newMaxSz : Nat) : PrioQueue Elem :=
  if newMaxSz = queue.maxsz then queue
  else if newMaxSz > queue.maxsz then { queue with maxsz := newMaxSz }
  else { queue.popMany std (queue.vecq.length - newMaxSz) with maxsz := newMaxSz }

end Calls

end PrioQueue

/-! ## Heaps and first elements -/

section First

variable (weak : StrictWeak comp)

include weak

lemma StrictWeak.irrefl (elem : Elem) : comp elem elem = false := by
  cases same : comp elem elem with
  | false => rfl
  | true => exact (same.symm.trans (weak.asymm same))

lemma IsHeap.front_last {top : Elem} {rest : List Elem} (heap : IsHeap comp (top :: rest)) :
    ∀ elem ∈ top :: rest, comp top elem = false := by
  have atPlace : ∀ (place : Nat) (elem : Elem), (top :: rest)[place]? = some elem →
      comp top elem = false := by
    intro place
    induction place using Nat.strongRecOn with
    | ind place ih =>
      intro elem isElem
      rcases Nat.eq_zero_or_pos place with rfl | positive
      · cases isElem
        exact weak.irrefl top
      · obtain ⟨inside, -⟩ := List.getElem?_eq_some_iff.mp isElem
        have isParent := List.getElem?_eq_getElem (l := top :: rest) (i := (place - 1) / 2)
          (by omega)
        exact weak.negTrans (ih _ (by omega) _ isParent) (heap place _ elem isParent isElem)
  intro elem mem
  obtain ⟨place, isElem⟩ := mem_iff_getElem?.mp mem
  exact atPlace place elem isElem

end First

/-- The queue holds some of the elements that were pushed, and none of the others comes
before one of them. -/
def Leading (comp : Elem → Elem → Bool) (pushed vecq : List Elem) : Prop :=
  ∃ others, (vecq ++ others).Perm pushed ∧
    ∀ elem ∈ vecq, ∀ other ∈ others, comp other elem = false

/-- The first elements of those that were pushed, all of them if they are not more. -/
def IsFirst (comp : Elem → Elem → Bool) (count : Nat) (pushed vecq : List Elem) : Prop :=
  Leading comp pushed vecq ∧ vecq.length = min count pushed.length

section Leading

variable {pushed vecq others : List Elem} {top data : Elem}

lemma Leading.perm {after : List Elem} (leading : Leading comp pushed vecq)
    (perm : after.Perm vecq) : Leading comp pushed after := by
  obtain ⟨others, isPushed, before⟩ := leading
  exact ⟨others, (perm.append_right others).trans isPushed,
    fun elem mem => before elem (perm.mem_iff.mp mem)⟩

lemma Leading.pop (leading : Leading comp pushed (top :: vecq))
    (last : ∀ elem ∈ vecq, comp top elem = false) : Leading comp pushed vecq := by
  obtain ⟨others, isPushed, before⟩ := leading
  refine ⟨top :: others, perm_middle.trans isPushed, ?_⟩
  intro elem mem other isOther
  rcases mem_cons.mp isOther with rfl | isOther
  · exact last elem mem
  · exact before elem (mem_cons_of_mem top mem) other isOther

lemma Leading.leave (leading : Leading comp pushed vecq)
    (late : ∀ elem ∈ vecq, comp data elem = false) : Leading comp (pushed ++ [data]) vecq := by
  obtain ⟨others, isPushed, before⟩ := leading
  refine ⟨others ++ [data], ?_, ?_⟩
  · rw [← append_assoc]
    exact isPushed.append_right [data]
  intro elem mem other isOther
  rcases mem_append.mp isOther with isOther | isData
  · exact before elem mem other isOther
  · rw [mem_singleton.mp isData]
    exact late elem mem

lemma Leading.take (isPushed : (vecq ++ others).Perm pushed)
    (before : ∀ elem ∈ vecq, ∀ other ∈ others, comp other elem = false)
    (early : ∀ other ∈ others, comp other data = false) :
    Leading comp (pushed ++ [data]) (vecq ++ [data]) := by
  refine ⟨others, ?_, ?_⟩
  · rw [append_assoc]
    refine List.Perm.trans (perm_append_comm.append_left vecq) ?_
    rw [← append_assoc]
    exact isPushed.append_right [data]
  · intro elem mem other isOther
    rcases mem_append.mp mem with mem | isData
    · exact before elem mem other isOther
    · rw [mem_singleton.mp isData]
      exact early other isOther

end Leading

/-- A heap of the first elements. -/
structure Holds (comp : Elem → Elem → Bool) (pushed : List Elem) (queue : PrioQueue Elem) :
    Prop where
  heap : IsHeap comp queue.vecq
  positive : 1 ≤ queue.maxsz
  first : IsFirst comp queue.maxsz pushed queue.vecq

namespace Holds

variable {std : StdHeap comp} {queue : PrioQueue Elem} {pushed : List Elem}

lemma push_room (holds : Holds comp pushed queue) (data : Elem)
    (room : queue.vecq.length < queue.maxsz) :
    Holds comp (pushed ++ [data]) (queue.pushLocked std data) := by
  obtain ⟨⟨others, perm, before⟩, length⟩ := holds.first
  have none : others = [] := by
    have := perm.length_eq
    rw [length_append] at this
    exact length_eq_zero_iff.mp (by omega)
  subst none
  have taken : Leading comp (pushed ++ [data]) (queue.vecq ++ [data]) :=
    .take perm before fun _ mem => nomatch mem
  have made : ∀ vecq : List Elem, vecq.Perm (queue.vecq ++ [data]) → IsHeap comp vecq →
      Holds comp (pushed ++ [data]) { queue with vecq := vecq } := by
    intro vecq isPerm heap
    refine ⟨heap, holds.positive, taken.perm isPerm, ?_⟩
    simp only [isPerm.length_eq, length_append, length_singleton]
    omega
  rw [PrioQueue.pushLocked, if_pos room]
  dsimp only
  split
  · exact made _ (std.pushHeap_spec _ data holds.heap).1 (std.pushHeap_spec _ data holds.heap).2
  · exact made _ (std.makeHeap_spec _).1 (std.makeHeap_spec _).2

lemma push_full (weak : StrictWeak comp) (holds : Holds comp pushed queue) (data : Elem)
    (full : ¬queue.vecq.length < queue.maxsz) :
    Holds comp (pushed ++ [data]) (queue.pushLocked std data) := by
  obtain ⟨heap, positive, leading, length⟩ := holds
  rw [PrioQueue.pushLocked, if_neg full]
  obtain ⟨vecq, maxsz⟩ := queue
  cases vecq with
  | nil => exact absurd positive (by simpa using full)
  | cons top rest =>
    have last := heap.front_last weak
    dsimp only at *
    have more : (top :: rest).length = min maxsz (pushed ++ [data]).length := by
      rw [length_append]
      omega
    by_cases earlier : comp data top = true
    · obtain ⟨popped, isPopped, isRest, isHeap⟩ := std.popHeap_spec top rest heap
      obtain ⟨isPushed, heapPushed⟩ := std.pushHeap_spec popped data isHeap
      rw [if_pos earlier, isPopped, dropLast_concat]
      have isTaken := isPushed.trans (isRest.append_right [data])
      refine ⟨heapPushed, positive, Leading.perm ?_ isTaken, ?_⟩
      · obtain ⟨others, perm, before⟩ := leading
        have topLast := weak.asymm earlier
        have isAll : (rest ++ top :: others).Perm pushed := perm_middle.trans perm
        refine .take isAll ?_ ?_
        · intro elem mem other isOther
          rcases mem_cons.mp isOther with rfl | isOther
          · exact last elem (mem_cons_of_mem _ mem)
          · exact before elem (mem_cons_of_mem top mem) other isOther
        · intro other isOther
          rcases mem_cons.mp isOther with rfl | isOther
          · exact topLast
          · exact weak.negTrans (before top mem_cons_self other isOther) topLast
      · rw [isTaken.length_eq, ← more]
        simp
    · rw [if_neg earlier]
      refine ⟨heap, positive, leading.leave fun elem mem => ?_, more⟩
      exact weak.negTrans (Bool.eq_false_of_not_eq_true earlier) (last elem mem)

variable (std)

lemma pop (weak : StrictWeak comp) (heap : IsHeap comp queue.vecq)
    (leading : Leading comp pushed queue.vecq) :
    IsHeap comp (queue.popLocked std).vecq ∧ Leading comp pushed (queue.popLocked std).vecq ∧
      (queue.popLocked std).vecq.length = queue.vecq.length - 1 := by
  rw [PrioQueue.popLocked]
  obtain ⟨vecq, maxsz⟩ := queue
  cases vecq with
  | nil => exact ⟨heap, leading, rfl⟩
  | cons top rest =>
    obtain ⟨popped, isPopped, isRest, isHeap⟩ := std.popHeap_spec top rest heap
    rw [if_neg (cons_ne_nil top rest)]
    dsimp only
    rw [isPopped, dropLast_concat]
    have last := heap.front_last weak
    refine ⟨isHeap, (leading.pop fun elem mem => ?_).perm isRest, isRest.length_eq⟩
    exact last elem (mem_cons_of_mem top mem)

lemma popMany (weak : StrictWeak comp) (count : Nat) (heap : IsHeap comp queue.vecq)
    (leading : Leading comp pushed queue.vecq) : IsHeap comp (queue.popMany std count).vecq ∧
      Leading comp pushed (queue.popMany std count).vecq ∧
      (queue.popMany std count).vecq.length = queue.vecq.length - count := by
  induction count generalizing queue with
  | zero => exact ⟨heap, leading, rfl⟩
  | succ count ih =>
    obtain ⟨heapNext, leadingNext, length⟩ := pop std weak heap leading
    obtain ⟨heapLast, leadingLast, lengthLast⟩ := ih heapNext leadingNext
    exact ⟨heapLast, leadingLast, lengthLast.trans (by omega)⟩

end Holds

/-! ## Sequences of calls -/

inductive QueueCall (Elem : Type) where
  | push (data : Elem)
  | walk (sortQueue : Bool)
  | setMaxSize (newMaxSz : Nat)
  deriving DecidableEq, Repr

namespace QueueCall

/-- The maximum size after a call: the one that was set last. -/
def nextMax (maxsz : Nat) : QueueCall Elem → Nat
  | .setMaxSize newMaxSz => newMaxSz
  | _ => maxsz

/-- The element that a call pushes. -/
def pushed : QueueCall Elem → List Elem
  | .push data => [data]
  | .walk _ | .setMaxSize _ => []

/-- The size is only made smaller, and not zero. -/
def Shrinks (maxsz : Nat) : QueueCall Elem → Prop
  | .setMaxSize newMaxSz => 1 ≤ newMaxSz ∧ newMaxSz ≤ maxsz
  | _ => True

end QueueCall

namespace PrioQueue

def step (std : StdHeap comp) (queue : PrioQueue Elem) : QueueCall Elem → PrioQueue Elem
  | .push data => queue.pushLocked std data
  | .walk sortQueue => queue.walkQueue std sortQueue
  | .setMaxSize newMaxSz => queue.setMaxSize std newMaxSz

variable {std : StdHeap comp} {queue : PrioQueue Elem} {pushed : List Elem}

lemma step_maxsz (std : StdHeap comp) (queue : PrioQueue Elem) (call : QueueCall Elem) :
    (queue.step std call).maxsz = call.nextMax queue.maxsz := by
  cases call with
  | push data =>
    rw [step, pushLocked]
    split
    · rfl
    split
    · rfl
    split
    · rfl
    · rfl
  | walk sortQueue =>
    rw [step, walkQueue]
    split
    · rfl
    split
    · rfl
    · rfl
  | setMaxSize newMaxSz =>
    rw [step, setMaxSize]
    split
    next same => exact same.symm
    split
    · rfl
    · rfl

/-- Each call keeps the heap of the first elements, those pushed by the call included. -/
lemma holds_step (weak : StrictWeak comp) (call : QueueCall Elem)
    (holds : Holds comp pushed queue) (shrinks : call.Shrinks queue.maxsz) :
    Holds comp (pushed ++ call.pushed) (queue.step std call) := by
  cases call with
  | push data =>
    by_cases room : queue.vecq.length < queue.maxsz
    · exact holds.push_room data room
    · exact holds.push_full weak data room
  | walk sortQueue =>
    rw [step, walkQueue, QueueCall.pushed, append_nil]
    split
    · exact holds
    split
    · obtain ⟨perm, heap⟩ := std.makeHeap_spec (std.sortHeap queue.vecq)
      have isPerm := perm.trans (std.sortHeap_spec _ holds.heap).1
      exact ⟨heap, holds.positive, holds.first.1.perm isPerm, isPerm.length_eq.trans holds.first.2⟩
    · exact holds
  | setMaxSize newMaxSz =>
    obtain ⟨positive, smaller⟩ := shrinks
    rw [step, setMaxSize, QueueCall.pushed, append_nil]
    split
    · exact holds
    rw [if_neg (by omega)]
    obtain ⟨heap, leading, length⟩ := Holds.popMany std weak
      (queue.vecq.length - newMaxSz) holds.heap holds.first.1
    refine ⟨heap, positive, leading, length.trans ?_⟩
    have := holds.first.2
    dsimp only
    omega

/-- The same along every run. -/
lemma holds_run (weak : StrictWeak comp) (calls : List (QueueCall Elem))
    (holds : Holds comp pushed queue)
    (shrinks : Machine.Guarded QueueCall.nextMax QueueCall.Shrinks queue.maxsz calls) :
    Holds comp (pushed ++ calls.flatMap QueueCall.pushed) (Machine.run (step std) queue calls) ∧
      (Machine.run (step std) queue calls).maxsz =
        Machine.run QueueCall.nextMax queue.maxsz calls := by
  induction calls generalizing queue pushed with
  | nil =>
    rw [flatMap_nil, append_nil]
    exact ⟨holds, rfl⟩
  | cons call rest ih =>
    obtain ⟨now, later⟩ := shrinks
    have isMax := step_maxsz std queue call
    rw [← isMax] at later
    obtain ⟨held, last⟩ := ih (holds_step weak call holds now) later
    rw [append_assoc] at held
    rw [isMax] at last
    exact ⟨held, last⟩

/-- After every sequence of pushes, walks and shrinkings the queue holds the first elements of
everything that was pushed, as many as the size that was set last. -/
theorem run_isFirst (std : StdHeap comp) (weak : StrictWeak comp) (maxsz : Nat)
    (positive : 1 ≤ maxsz) (calls : List (QueueCall Elem))
    (shrinks : Machine.Guarded QueueCall.nextMax QueueCall.Shrinks maxsz calls) :
    IsFirst comp (Machine.run QueueCall.nextMax maxsz calls) (calls.flatMap QueueCall.pushed)
      (Machine.run (step std) ⟨[], maxsz⟩ calls).vecq := by
  have start : Holds comp ([] : List Elem) ⟨[], maxsz⟩ := by
    refine ⟨fun _ _ _ isParent => ?_, positive, ⟨[], List.Perm.refl _, ?_⟩,
      (Nat.min_zero maxsz).symm⟩
    · rw [List.getElem?_nil] at isParent
      contradiction
    · exact fun _ mem => nomatch mem
  obtain ⟨holds, isMax⟩ := holds_run weak calls start shrinks
  rw [← isMax]
  exact holds.first

end PrioQueue

/-! ## Heap functions by sorting -/

/-- Sorted from the last element in the order to the first one. -/
def sortedDown (comp : Elem → Elem → Bool) (vecq : List Elem) : List Elem :=
  vecq.mergeSort fun first second => !comp first second

section Sorting

variable (weak : StrictWeak comp) (vecq : List Elem)

include weak

lemma sortedDown_pairwise :
    (sortedDown comp vecq).Pairwise fun first second => comp first second = false := by
  have sorted := @pairwise_mergeSort _ (fun first second => !comp first second)
    (fun first second third => ?_) (fun first second => ?_) vecq
  · exact sorted.imp fun isFalse => (Bool.not_eq_true' _).mp isFalse
  · simp only [Bool.not_eq_true']
    exact weak.negTrans
  · cases isLess : comp first second with
    | false => rfl
    | true => simp [weak.asymm isLess]

lemma sortedDown_spec :
    (sortedDown comp vecq).Perm vecq ∧ IsHeap comp (sortedDown comp vecq) := by
  refine ⟨mergeSort_perm vecq _, ?_⟩
  intro place parent elem isParent isElem
  obtain ⟨inside, isElem⟩ := List.getElem?_eq_some_iff.mp isElem
  obtain ⟨insideParent, isParent⟩ := List.getElem?_eq_some_iff.mp isParent
  rcases Nat.eq_zero_or_pos place with rfl | positive
  · rw [← isParent, ← isElem]
    exact weak.irrefl _
  · rw [← isParent, ← isElem]
    exact pairwise_iff_getElem.mp (sortedDown_pairwise weak vecq) _ _ insideParent inside (by omega)

end Sorting

/-- Heap functions that sort. -/
def StdHeap.bySorting (weak : StrictWeak comp) : StdHeap comp where
  makeHeap := sortedDown comp
  pushHeap := sortedDown comp
  popHeap vecq := sortedDown comp vecq.tail ++ vecq.take 1
  sortHeap vecq := (sortedDown comp vecq).reverse
  makeHeap_spec := sortedDown_spec weak
  pushHeap_spec vecq data _ := sortedDown_spec weak (vecq ++ [data])
  popHeap_spec _ rest _ := ⟨sortedDown comp rest, rfl, sortedDown_spec weak rest⟩
  sortHeap_spec vecq _ := ⟨(reverse_perm _).trans (sortedDown_spec weak vecq).1,
    pairwise_reverse.mpr (sortedDown_pairwise weak vecq)⟩

lemma strictWeak_gt : StrictWeak fun first second : Nat => decide (second < first) where
  asymm less := by simp only [decide_eq_true_eq, decide_eq_false_iff_not] at *; omega
  negTrans first second := by simp only [decide_eq_false_iff_not] at *; omega

/-- Three of the numbers are held when the size becomes two. -/
theorem run_isFirst_largest :
    let calls : List (QueueCall Nat) :=
      [.push 3, .push 7, .walk true, .push 5, .setMaxSize 2, .push 6]
    IsFirst (fun first second : Nat => decide (second < first)) 2 [3, 7, 5, 6]
      (Machine.run (PrioQueue.step (.bySorting strictWeak_gt)) ⟨[], 3⟩ calls).vecq :=
  PrioQueue.run_isFirst (.bySorting strictWeak_gt) strictWeak_gt 3 (by decide)
    [.push 3, .push 7, .walk true, .push 5, .setMaxSize 2, .push 6]
    ⟨trivial, trivial, trivial, trivial, ⟨by decide, by decide⟩, trivial, trivial⟩

end Gyeeta.Stats
