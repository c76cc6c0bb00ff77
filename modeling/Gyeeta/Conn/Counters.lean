import Gyeeta.Conn.Send

/-!
# Counters of the bytes and messages sent

`set_wr_complete` counts a message by the size field of the write direction.  A `writev` that
takes a part of a message of several buffers overwrites this field by the bytes left, so that
only the last part is counted.
-/

namespace Gyeeta.Conn

open List Function

def Conntrack.sendDataPending (conn : Conntrack) : Bool :=
  0 < conn.wrstat.dataSz || !conn.wrPipeline.isEmpty

/-- The connections, and the sizes of the messages that each has taken. -/
structure LoggedSends (n : Nat) where
  sends : Sends n
  taken : Fin n → List Nat

namespace LoggedSends

variable {n : Nat}

def init (closeConnOnWrComplete : Fin n → Bool) (maxSchedElems : Fin n → Nat) : LoggedSends n :=
  ⟨.init fun conn => .init (closeConnOnWrComplete conn) (maxSchedElems conn), fun _ => []⟩

def step (state : LoggedSends n) (event : SendEvent n) : LoggedSends n where
  sends := state.sends.step event
  taken :=
    match event with
    | .schedule conn message =>
      let before := state.sends.conns conn
      if message.iovs ≠ [] ∧ before.wrPipeline.length < before.maxSchedElems then
        update state.taken conn (state.taken conn ++ [iovecBytes message.iovs])
      else state.taken
    | _ => state.taken

/-- A step with messages that are not empty. -/
def nonEmpty : SendEvent n → Bool
  | .schedule _ message => 0 < iovecBytes message.iovs
  | _ => true

/-- A step whose message has less than 2^32 bytes, and that does not write a part of a message
of several buffers. -/
def counted (state : LoggedSends n) : SendEvent n → Bool
  | .schedule _ message => iovecBytes message.iovs < sizeWord
  | .writeReturns conn (.accept more) =>
    match (state.sends.conns conn).wrstat.buf with
    | .iovec iovarr => iovecBytes iovarr ≤ more + 1
    | .direct _ _ => true
  | _ => true

end LoggedSends

/-! ## The counters of one connection -/

def messageBytes (messages : List IovecArray) : Nat :=
  (messages.map fun message => iovecBytes message.iovs).sum

/-- The counters with the current message and the pipeline are the messages taken. -/
structure Tallied (wrstat : WrStat) (pipeline : List IovecArray) (taken : List Nat) : Prop where
  requests :
    wrstat.nrequests + (if wrstat.dataSz = 0 then 0 else 1) + pipeline.length = taken.length
  bytes : wrstat.nbytesSeen + wrstat.dataSz + messageBytes pipeline = taken.sum
  messages : ∀ message ∈ pipeline,
    0 < iovecBytes message.iovs ∧ iovecBytes message.iovs < sizeWord
  idle : wrstat.dataSz = 0 → wrstat.currProcessedSz = 0
  current : 0 < wrstat.dataSz →
    match wrstat.buf with
    | .direct _ _ => wrstat.currProcessedSz < wrstat.dataSz
    | .iovec iovarr => iovecBytes iovarr = wrstat.dataSz ∧ wrstat.dataSz < sizeWord

namespace Tallied

variable {wrstat : WrStat} {pipeline messages : List IovecArray} {taken : List Nat}

lemma setBuf_fields (wrstat : WrStat) {message : IovecArray}
    (small : iovecBytes message.iovs < sizeWord) :
    (wrstat.setBuf message).dataSz = iovecBytes message.iovs ∧
      (wrstat.setBuf message).nrequests = wrstat.nrequests ∧
      (wrstat.setBuf message).nbytesSeen = wrstat.nbytesSeen ∧
      (wrstat.setBuf message).currProcessedSz = wrstat.currProcessedSz ∧
      ∀ iovarr, (wrstat.setBuf message).buf = .iovec iovarr →
        iovecBytes iovarr = iovecBytes message.iovs := by
  have size := Nat.mod_eq_of_lt small
  rw [WrStat.setBuf]
  split
  next iov isOne =>
    have isBytes : iovecBytes message.iovs = iov.len := by simp [isOne, iovecBytes]
    rw [isBytes] at size ⊢
    exact ⟨size, rfl, rfl, rfl, fun _ isIovec => absurd isIovec (by simp)⟩
  next =>
  refine ⟨size, rfl, rfl, rfl, fun iovarr isIovec => ?_⟩
  cases isIovec
  rfl

lemma setBuf {message : IovecArray} (tallied : Tallied wrstat (message :: messages) taken)
    (complete : wrstat.dataSz = 0) :
    Tallied (wrstat.setBuf message) messages taken ∧ 0 < (wrstat.setBuf message).dataSz := by
  obtain ⟨requests, bytes, all, idle, -⟩ := tallied
  rw [forall_mem_cons] at all
  obtain ⟨⟨positive, small⟩, others⟩ := all
  obtain ⟨size, sameRequests, sameBytes, sameProcessed, isIovec⟩ := setBuf_fields wrstat small
  have fresh := idle complete
  rw [complete, if_pos rfl, length_cons] at requests
  rw [complete, messageBytes, map_cons, sum_cons, ← messageBytes] at bytes
  refine ⟨⟨?_, ?_, others, ?_, fun _ => ?_⟩, by omega⟩
  · rw [size, if_neg (by omega), sameRequests]
    omega
  · omega
  · omega
  · split
    · omega
    next iovarr isBuf =>
      have same := isIovec iovarr isBuf
      exact ⟨by omega, by omega⟩

lemma setWrComplete (tallied : Tallied wrstat pipeline taken) (some_bytes : 0 < wrstat.dataSz)
    (processed : Nat) :
    Tallied { wrstat with currProcessedSz := processed }.setWrComplete pipeline taken := by
  have requests := tallied.requests
  rw [if_neg (Nat.ne_of_gt some_bytes)] at requests
  exact ⟨requests, tallied.bytes, tallied.messages, fun _ => rfl,
    fun pos => absurd pos (by simp [WrStat.setWrComplete, WrStat.resetStats])⟩

end Tallied

/-- The counters of a connection; a running call has a message. -/
def Conntrack.IsTallied (conn : Conntrack) (taken : List Nat) : Prop :=
  Tallied conn.wrstat conn.wrPipeline taken ∧ (conn.call.isSome → 0 < conn.wrstat.dataSz)

section Steps

variable {conn : Conntrack} {taken : List Nat}

lemma nextMessage_isTallied (tallied : Tallied conn.wrstat conn.wrPipeline taken)
    (complete : conn.wrstat.dataSz = 0) (mem : RefMem) (totalSent : Nat) :
    (nextMessage mem conn totalSent).2.IsTallied taken := by
  rw [nextMessage]
  cases isPipeline : conn.wrPipeline with
  | nil =>
    simp only [complete, if_true]
    exact ⟨tallied, fun running => absurd running (by simp [Conntrack.finish])⟩
  | cons message messages =>
    rw [isPipeline] at tallied
    obtain ⟨next, positive⟩ := tallied.setBuf complete
    simp only [Nat.ne_of_gt positive, if_false]
    exact ⟨next, fun _ => positive⟩

section

variable (tallied : conn.IsTallied taken)
include tallied

lemma finish_isTallied (nsent : Option Nat) (isBlocked : Bool) :
    (conn.finish nsent isBlocked).IsTallied taken :=
  ⟨tallied.1, fun running => absurd running (by simp [Conntrack.finish])⟩

lemma sendData_isTallied (mem : RefMem) : (sendData mem conn).2.IsTallied taken := by
  rw [sendData]
  split
  · exact tallied
  split
  · exact finish_isTallied tallied _ _
  · split
    next positive => exact ⟨tallied.1, fun _ => positive⟩
    next isZero => exact nextMessage_isTallied tallied.1 (by omega) mem 0

lemma sendDataBuf_isTallied {pdirbuf : Ptr} {freeFp : Bool}
    (isBuf : conn.wrstat.buf = .direct pdirbuf freeFp) (positive : 0 < conn.wrstat.dataSz)
    (mem : RefMem) (totalSent : Nat) (result : WriteResult) :
    (sendDataBuf mem conn totalSent pdirbuf result).2.IsTallied taken := by
  have returned := finish_isTallied tallied
  have inside := tallied.1.current positive
  rw [isBuf] at inside
  have rest : ¬conn.wrstat.dataSz - conn.wrstat.currProcessedSz = 0 := by omega
  simp only [sendDataBuf.eq_def, if_neg rest]
  split
  · exact returned none false
  cases result with
  | accept more =>
    simp only
    split
    · exact nextMessage_isTallied (tallied.1.setWrComplete positive _) rfl mem _
    next notAll =>
    refine ⟨⟨tallied.1.requests, tallied.1.bytes, tallied.1.messages, ?_, fun _ => ?_⟩,
      fun running => absurd running (by simp [Conntrack.finish])⟩
    · exact fun isZero => absurd isZero (Nat.ne_of_gt positive)
    · simp only [Conntrack.finish, isBuf]
      omega
  | eintr => exact tallied
  | eagain => exact returned _ true
  | error => exact returned none false

lemma sendDataIovec_isTallied {iovarr : List Iovec}
    (isBuf : conn.wrstat.buf = .iovec iovarr) (positive : 0 < conn.wrstat.dataSz)
    (mem : RefMem) (totalSent : Nat) (result : WriteResult)
    (whole : ∀ more, result = .accept more → iovecBytes iovarr ≤ more + 1) :
    (sendDataIovec mem conn totalSent iovarr result).2.IsTallied taken := by
  have returned := finish_isTallied tallied
  have inside := tallied.1.current positive
  rw [isBuf] at inside
  obtain ⟨isSize, small⟩ := inside
  have same : iovecBytes iovarr % sizeWord = conn.wrstat.dataSz := by
    rw [isSize, Nat.mod_eq_of_lt small]
  have some_bytes : ¬iovecBytes iovarr = 0 := by omega
  simp only [sendDataIovec.eq_def, if_neg some_bytes]
  split
  · exact returned none false
  cases result with
  | accept more =>
    simp only [if_pos (Nat.min_eq_right (whole more rfl))]
    exact nextMessage_isTallied
      (tallied.1.setWrComplete positive conn.wrstat.currProcessedSz) rfl mem _
  | eintr => exact tallied
  | eagain =>
    simp only [same]
    exact ⟨{ tallied.1 with }, fun running => absurd running (by simp [Conntrack.finish])⟩
  | error => exact returned none false

lemma writeReturns_isTallied (mem : RefMem) (result : WriteResult)
    (whole : ∀ iovarr more, conn.wrstat.buf = .iovec iovarr → result = .accept more →
      iovecBytes iovarr ≤ more + 1) : (writeReturns mem conn result).2.IsTallied taken := by
  rw [writeReturns]
  split
  · exact tallied
  next totalSent isCall =>
  have positive := tallied.2 (by rw [isCall]; rfl)
  split
  next isBuf => exact sendDataBuf_isTallied tallied isBuf positive mem totalSent result
  next iovarr isBuf =>
    exact sendDataIovec_isTallied tallied isBuf positive mem totalSent result
      (fun more => whole iovarr more isBuf)

lemma scheduleExtSend_isTallied {message : IovecArray}
    (positive : 0 < iovecBytes message.iovs) (small : iovecBytes message.iovs < sizeWord)
    (mem : RefMem) : (scheduleExtSend mem conn message).2.IsTallied
      (if message.iovs ≠ [] ∧ conn.wrPipeline.length < conn.maxSchedElems then
        taken ++ [iovecBytes message.iovs] else taken) := by
  have some_iov : message.iovs ≠ [] := by
    intro isNil
    rw [isNil] at positive
    exact absurd positive (by decide)
  rw [scheduleExtSend, if_neg some_iov]
  by_cases room : conn.wrPipeline.length < conn.maxSchedElems
  · rw [if_pos room, if_pos ⟨some_iov, room⟩]
    obtain ⟨⟨requests, bytes, all, idle, current⟩, running⟩ := tallied
    refine ⟨⟨?_, ?_, ?_, idle, current⟩, running⟩
    · rw [length_append, length_append, ← requests]
      exact (Nat.add_assoc _ _ 1).symm
    · simp only [messageBytes, map_append, sum_append, map_cons, map_nil,
        sum_cons, sum_nil] at bytes ⊢
      omega
    · intro other member
      rw [mem_append, mem_singleton] at member
      rcases member with member | rfl
      · exact all other member
      · exact ⟨positive, small⟩
  · rw [if_neg room, if_neg (fun both => room both.2)]
    exact tallied

end

end Steps

/-! ## All connections -/

namespace LoggedSends

variable {n : Nat}

def AllTallied (state : LoggedSends n) : Prop :=
  ∀ conn, (state.sends.conns conn).IsTallied (state.taken conn)

lemma AllTallied.update {state : LoggedSends n} (tallied : state.AllTallied)
    {target : Fin n} {next : Conntrack} (isNext : next.IsTallied (state.taken target))
    (conn : Fin n) : (update state.sends.conns target next conn).IsTallied (state.taken conn) := by
  by_cases isTarget : conn = target
  · subst isTarget
    rwa [update_self]
  · rw [update_of_ne isTarget]
    exact tallied conn

/-- Each event keeps the counters at the messages taken. -/
lemma step_allTallied (state : LoggedSends n) (event : SendEvent n) (tallied : state.AllTallied)
    (isNonEmpty : nonEmpty event) (isCounted : state.counted event) :
    (state.step event).AllTallied := by
  intro conn
  cases event with
  | alloc content => exact tallied conn
  | release name =>
    simp only [step, Sends.step]
    split <;> exact tallied conn
  | schedule target message =>
    simp only [step, Sends.step, Sends.stepConn]
    by_cases isTarget : conn = target
    · subst isTarget
      have after := scheduleExtSend_isTallied (tallied conn)
        (of_decide_eq_true isNonEmpty) (of_decide_eq_true isCounted)
        (addRefs state.sends.mem message.iovs)
      rw [update_self]
      split
      next taken =>
        rw [update_self]
        rwa [if_pos taken] at after
      next notTaken => rwa [if_neg notTaken] at after
    · rw [update_of_ne isTarget]
      split
      · rw [update_of_ne isTarget]
        exact tallied conn
      · exact tallied conn
  | sendData target =>
    exact tallied.update (sendData_isTallied (tallied target) _) conn
  | writeReturns target result =>
    refine tallied.update (writeReturns_isTallied (tallied target) _ result
      fun iovarr more isBuf isAccept => ?_) conn
    subst isAccept
    rw [counted, isBuf] at isCounted
    exact of_decide_eq_true isCounted

/-- In every run with non-empty messages whose steps are all counted, a connection without
pending data has counted the messages it took and their bytes. -/
theorem counters_exact (closeConnOnWrComplete : Fin n → Bool) (maxSchedElems : Fin n → Nat)
    {events : List (SendEvent n)} (allNonEmpty : ∀ event ∈ events, nonEmpty event)
    (allCounted : Machine.Guarded step (fun state event => state.counted event)
      (init closeConnOnWrComplete maxSchedElems) events) (conn : Fin n) :
    let state := Machine.run step (init closeConnOnWrComplete maxSchedElems) events
    (state.sends.conns conn).sendDataPending = false →
      (state.sends.conns conn).wrstat.nbytesSeen = (state.taken conn).sum ∧
        (state.sends.conns conn).wrstat.nrequests = (state.taken conn).length := by
  intro state sent
  have start : (init closeConnOnWrComplete maxSchedElems).AllTallied := by
    refine fun _ => ⟨⟨rfl, rfl, ?_, fun _ => rfl, ?_⟩, ?_⟩ <;>
      simp [init, Sends.init, Conntrack.init, WrStat.init]
  have all : state.AllTallied := (allCounted.and_forall allNonEmpty).invariant
      (fun state event tallied guard => state.step_allTallied event tallied guard.2 guard.1) start
  obtain ⟨⟨requests, bytes, -⟩, -⟩ := all conn
  rw [Conntrack.sendDataPending, Bool.or_eq_false_iff, decide_eq_false_iff_not,
    Bool.not_eq_false', List.isEmpty_iff] at sent
  obtain ⟨noData, noMessage⟩ := sent
  have isZero : (state.sends.conns conn).wrstat.dataSz = 0 := by omega
  rw [noMessage, isZero] at requests bytes
  exact ⟨bytes, requests⟩

/-- A message of two buffers with two and three bytes. -/
def pairMessage : IovecArray := .ofPair ⟨⟨some 0, 0⟩, 2, false⟩ ⟨⟨some 0, 2⟩, 3, false⟩

/-- A message of two buffers that the socket takes with the results of `writev`. -/
def pairEvents (results : List WriteResult) : List (SendEvent 1) :=
  [.alloc [1, 2, 3, 4, 5], .schedule 0 pairMessage] ++
    results.flatMap fun result => [.sendData 0, .writeReturns 0 result]

/-- A socket that is full at first and then takes the whole message. -/
theorem whole_pair_counted :
    let state := Machine.run step (init (fun _ => false) (fun _ => 4))
      (pairEvents [.eagain, .accept 4])
    state.taken 0 = [5] ∧ (state.sends.conns 0).wrstat.nbytesSeen = (state.taken 0).sum ∧
      (state.sends.conns 0).wrstat.nrequests = (state.taken 0).length :=
  ⟨by decide +kernel, counters_exact (fun _ => false) (fun _ => 4) (by decide +kernel)
    (by decide +kernel) 0 (by decide +kernel)⟩

/-- A socket that takes a message of five bytes in two parts: two bytes are counted. -/
theorem parts_of_pair_not_counted :
    let state := Machine.run step (init (fun _ => false) (fun _ => 4))
      (pairEvents [.accept 2, .accept 1])
    (state.sends.conns 0).sendDataPending = false ∧ state.taken 0 = [5] ∧
      (state.sends.conns 0).accepted.length = 5 ∧
      (state.sends.conns 0).wrstat.nbytesSeen = 2 := by
  decide +kernel

end LoggedSends

end Gyeeta.Conn
