import Mathlib.Tactic.IntervalCases
import Gyeeta.Lib.Run

/-!
# Slots for requests between processes

A sender takes a slot of shared memory for a request, a receiver answers in it, and the slot is
released by the sender, by the receiver if the sender stopped waiting, or by a scan that repairs
slots left behind by timeouts.  Every load and store of the shared variables is a step, except
that what runs under the mutex of the slot's condition variable excludes the other callbacks of
the slot.
-/

namespace Gyeeta.Misc

/-- `SENDER_STATE_E`. -/
inductive SenderState where
  | notWaiting
  | asyncPolling
  | waiting
  | waitTerminated
  deriving DecidableEq, Repr

/-- `MULTI_PROC_ELEM` and the flag of the slot, with the request whose receiver holds the
mutex. -/
structure ProcElem where
  isUsed : Bool
  senderWaiting : SenderState
  respCompleted : Bool
  respCode : Int
  currLen : Nat
  mutex : Option Nat
  deriving DecidableEq, Repr

/-- The place of a sender between taking the slot and the end of its last dispatch. -/
inductive SenderPc where
  /-- `get_proc_buf` has set the flag and not yet stored `SENDER_ASYNC_POLLING`. -/
  | taken
  | held
  /-- A dispatch has found no response and not yet stored `SENDER_WAITING`. -/
  | toWait (timed : Bool)
  | waiting (timed : Bool)
  /-- Before a store of `release_buf`. -/
  | releasing (store : Nat)
  | done
  | timedOut
  deriving DecidableEq, Repr

/-- The place of a receiver in `signal_completion`. -/
inductive ReceiverPc where
  | ready
  | coded
  | sized
  /-- Under the mutex, with the state of the sender it has loaded. -/
  | locked (state : SenderState)
  | releasing (store : Nat)
  | done
  deriving DecidableEq, Repr

/-- A request in a slot, with the number of times its slot was released for it. -/
structure ProcRequest where
  slot : Nat
  sender : SenderPc
  receiver : ReceiverPc
  released : Nat
  deriving DecidableEq, Repr

/-- What a sender does next. -/
inductive SenderAction where
  | proceed
  | poll
  | wait (timed : Bool)
  | wake
  | timeout
  deriving DecidableEq, Repr

/-- The stores of `release_buf`, the last of which clears the flag. -/
def releaseStore (elem : ProcElem) : Nat → ProcElem
  | 0 => { elem with senderWaiting := .notWaiting }
  | 1 => { elem with respCompleted := false }
  | 2 => { elem with respCode := 0 }
  | 3 => { elem with currLen := 0 }
  | _ => { elem with isUsed := false }

/-- A step of the sender of a request. -/
def senderStep (action : SenderAction) (elem : ProcElem) (request : ProcRequest) :
    ProcElem × ProcRequest :=
  match request.sender, action with
  | .taken, .proceed =>
    ({ elem with senderWaiting := .asyncPolling }, { request with sender := .held })
  | .held, .poll =>
    (elem, if elem.respCompleted then { request with sender := .releasing 0 } else request)
  | .held, .wait timed =>
    (elem, { request with sender := if elem.respCompleted then .releasing 0 else .toWait timed })
  | .toWait timed, .proceed =>
    ({ elem with senderWaiting := .waiting }, { request with sender := .waiting timed })
  | .waiting _, .wake =>
    if elem.mutex = none ∧ elem.respCompleted = true then
      (elem, { request with sender := .releasing 0 })
    else (elem, request)
  | .waiting true, .timeout =>
    if elem.mutex = none ∧ elem.respCompleted = false then
      ({ elem with senderWaiting := .waitTerminated }, { request with sender := .timedOut })
    else (elem, request)
  | .releasing store, .proceed =>
    (releaseStore elem store,
      if store < 4 then { request with sender := .releasing (store + 1) }
      else { request with sender := .done, released := request.released + 1 })
  | _, _ => (elem, request)

/-- A step of the receiver of a request, with its response. -/
def receiverStep (number : Nat) (respcode : Int) (szdata : Nat) (elem : ProcElem)
    (request : ProcRequest) : ProcElem × ProcRequest :=
  match request.receiver with
  | .ready =>
    if request.sender = .taken then (elem, request)
    else ({ elem with respCode := respcode }, { request with receiver := .coded })
  | .coded => ({ elem with currLen := szdata }, { request with receiver := .sized })
  | .sized =>
    if elem.mutex = none then
      ({ elem with mutex := some number }, { request with receiver := .locked elem.senderWaiting })
    else (elem, request)
  | .locked .waitTerminated =>
    ({ elem with mutex := none }, { request with receiver := .releasing 0 })
  | .locked _ =>
    ({ elem with mutex := none, respCompleted := true }, { request with receiver := .done })
  | .releasing store =>
    (releaseStore elem store,
      if store < 4 then { request with receiver := .releasing (store + 1) }
      else { request with receiver := .done, released := request.released + 1 })
  | .done => (elem, request)

/-- The place of a repair scan at a slot. -/
inductive VerifierPc where
  /-- It has loaded `resp_completed_` as true. -/
  | completed
  /-- It has found that the sender state is not `SENDER_WAIT_TERMINATED`. -/
  | notTerminated
  | testing
  | releasing (store : Nat)
  /-- It has set the flag of a slot that was not used. -/
  | clearing
  | done
  deriving DecidableEq, Repr

/-- A repair scan at a slot, with the request that used the slot when it looked. -/
structure Verifier where
  slot : Nat
  request : Nat
  pc : VerifierPc
  deriving DecidableEq, Repr

/-- `MULTI_PROC_COMM_HDLR`, with the requests and the repair scans. -/
structure ProcComm where
  elems : Nat → ProcElem
  requests : Nat → ProcRequest
  numRequests : Nat
  /-- The last request that took a slot. -/
  latest : Nat → Nat
  verifiers : Nat → Verifier
  numVerifiers : Nat

namespace ProcComm

def init : ProcComm where
  elems := fun _ => ⟨false, .notWaiting, false, 0, 0, none⟩
  requests := fun _ => ⟨0, .done, .done, 1⟩
  numRequests := 0
  latest := fun _ => 0
  verifiers := fun _ => ⟨0, 0, .done⟩
  numVerifiers := 0

def setElem (comm : ProcComm) (slot : Nat) (elem : ProcElem) : ProcComm :=
  { comm with elems := fun other => if other = slot then elem else comm.elems other }

def setRequest (comm : ProcComm) (number : Nat) (request : ProcRequest) : ProcComm :=
  { comm with
    requests := fun other => if other = number then request else comm.requests other }

def setVerifier (comm : ProcComm) (number : Nat) (verifier : Verifier) : ProcComm :=
  { comm with
    verifiers := fun other => if other = number then verifier else comm.verifiers other }

/-- `test_and_set` of `get_proc_buf` at a slot: a slot that was not used starts a request. -/
def take (comm : ProcComm) (slot : Nat) : ProcComm :=
  if (comm.elems slot).isUsed then comm
  else
    let comm := (comm.setElem slot { comm.elems slot with isUsed := true }).setRequest
      comm.numRequests ⟨slot, .taken, .ready, 0⟩
    { comm with
      numRequests := comm.numRequests + 1
      latest := fun other => if other = slot then comm.numRequests else comm.latest other }

/-- A step of one party of a request. -/
def stepRequest (comm : ProcComm) (number : Nat)
    (step : ProcElem → ProcRequest → ProcElem × ProcRequest) : ProcComm :=
  let request := comm.requests number
  let (elem, after) := step (comm.elems request.slot) request
  (comm.setElem request.slot elem).setRequest number after

/-- The first load of `verify_bufs` at a slot. -/
def scan (comm : ProcComm) (slot : Nat) : ProcComm :=
  if (comm.elems slot).respCompleted then
    { comm.setVerifier comm.numVerifiers ⟨slot, comm.latest slot, .completed⟩ with
      numVerifiers := comm.numVerifiers + 1 }
  else comm

/-- A further step of `verify_bufs`. -/
def stepVerifier (comm : ProcComm) (number : Nat) : ProcComm :=
  let verifier := comm.verifiers number
  let elem := comm.elems verifier.slot
  let goTo := fun pc => comm.setVerifier number { verifier with pc := pc }
  match verifier.pc with
  | .completed =>
    goTo (if elem.senderWaiting = .waitTerminated then .testing else .notTerminated)
  | .notTerminated => goTo (if elem.senderWaiting = .notWaiting then .testing else .done)
  | .testing =>
    (goTo (if elem.isUsed then .releasing 0 else .clearing)).setElem verifier.slot
      { elem with isUsed := true }
  | .clearing => (goTo .done).setElem verifier.slot { elem with isUsed := false }
  | .releasing store =>
    let comm := (goTo (if store < 4 then .releasing (store + 1) else .done)).setElem
      verifier.slot (releaseStore elem store)
    if store < 4 then comm
    else
      let request := comm.requests verifier.request
      comm.setRequest verifier.request { request with released := request.released + 1 }
  | .done => comm

/-- The atomic steps of all threads. -/
inductive CommEvent where
  | take (slot : Nat)
  | sender (number : Nat) (action : SenderAction)
  | receiver (number : Nat) (respcode : Int) (szdata : Nat)
  | scan (slot : Nat)
  | verifier (number : Nat)
  deriving DecidableEq, Repr

def step (comm : ProcComm) : CommEvent → ProcComm
  | .take slot => comm.take slot
  | .sender number action =>
    if number < comm.numRequests then comm.stepRequest number (senderStep action) else comm
  | .receiver number respcode szdata =>
    if number < comm.numRequests then comm.stepRequest number (receiverStep number respcode szdata)
    else comm
  | .scan slot => comm.scan slot
  | .verifier number => if number < comm.numVerifiers then comm.stepVerifier number else comm

/-- No slot is released twice for a request, and a slot is in use by one request at most. -/
def Exclusive (comm : ProcComm) : Prop :=
  (∀ number < comm.numRequests, (comm.requests number).released ≤ 1) ∧
    ∀ first < comm.numRequests, ∀ second < comm.numRequests,
      (comm.requests first).slot = (comm.requests second).slot →
      (comm.requests first).released = 0 → (comm.requests second).released = 0 →
      first = second

/-! ## One request and its slot -/

/-- A slot that no request uses. -/
structure Free (elem : ProcElem) : Prop where
  notUsed : elem.isUsed = false
  notCompleted : elem.respCompleted = false
  notTerminated : elem.senderWaiting ≠ .waitTerminated

/-- A request that uses its slot: the response is completed by the receiver's last store,
only one of the two parties releases, and by then the other one is through. -/
structure Open (elem : ProcElem) (request : ProcRequest) : Prop where
  notReleased : request.released = 0
  used : elem.isUsed = true
  notDone : request.sender ≠ .done
  completed : elem.respCompleted = true → request.receiver = .done
  terminated : elem.senderWaiting = .waitTerminated → request.sender = .timedOut
  senderReleases : ∀ store, request.sender = .releasing store → request.receiver = .done ∧
    (1 < store → elem.respCompleted = false)
  receiverReleases : ∀ store, request.receiver = .releasing store → request.sender = .timedOut ∧
    (0 < store → elem.senderWaiting ≠ .waitTerminated) ∧ elem.respCompleted = false
  loaded : request.receiver = .locked .waitTerminated → request.sender = .timedOut

/-- A request that no longer uses its slot. -/
structure Closed (request : ProcRequest) : Prop where
  released : request.released = 1
  sender : request.sender = .done ∨ request.sender = .timedOut
  receiver : request.receiver = .done

/-- A request after a step: it uses its slot, or has left it free. -/
def Stepped (elem : ProcElem) (request : ProcRequest) : Prop :=
  Open elem request ∨ Closed request ∧ Free elem

variable {elem : ProcElem} {request : ProcRequest}

lemma isUsed_releaseStore {store : Nat} (used : elem.isUsed = true) (more : store < 4) :
    (releaseStore elem store).isUsed = true := by
  interval_cases store <;> exact used

lemma releaseStore_last {store : Nat} (last : ¬store < 4) :
    releaseStore elem store = { elem with isUsed := false } := by
  match store, last with
  | store + 4, _ => rfl

section

variable (isOpen : Open elem request)
include isOpen

lemma Open.setSender {sender : SenderPc}
    (notReleasing : ∀ store, sender ≠ .releasing store) (notDone : sender ≠ .done)
    (before : request.sender ≠ .timedOut) : Open elem { request with sender := sender } :=
  { isOpen with
    notDone := notDone
    terminated := fun isTerminated => absurd (isOpen.terminated isTerminated) before
    senderReleases := fun store isReleasing => absurd isReleasing (notReleasing store)
    receiverReleases := fun store isReleasing =>
      absurd (isOpen.receiverReleases store isReleasing).1 before
    loaded := fun isLoaded => absurd (isOpen.loaded isLoaded) before }

lemma Open.setWaiting {state : SenderState} (notTerminated : state ≠ .waitTerminated)
    (notReleasing : ∀ store, request.sender ≠ .releasing store)
    (before : request.sender ≠ .timedOut) : Open { elem with senderWaiting := state } request :=
  { isOpen with
    terminated := fun isTerminated => absurd isTerminated notTerminated
    senderReleases := fun store isReleasing => absurd isReleasing (notReleasing store)
    receiverReleases := fun store isReleasing =>
      absurd (isOpen.receiverReleases store isReleasing).1 before }

lemma Open.startRelease (completed : elem.respCompleted = true)
    (before : request.sender ≠ .timedOut) : Open elem { request with sender := .releasing 0 } :=
  { isOpen with
    notDone := SenderPc.noConfusion
    terminated := fun isTerminated => absurd (isOpen.terminated isTerminated) before
    senderReleases := by
      intro store isReleasing
      injection isReleasing with isZero
      refine ⟨isOpen.completed completed, ?_⟩
      intro later
      omega
    receiverReleases := fun store isReleasing =>
      absurd (isOpen.receiverReleases store isReleasing).1 before
    loaded := fun isLoaded => absurd (isOpen.loaded isLoaded) before }

lemma Open.senderRelease {store : Nat} (isReleasing : request.sender = .releasing store) :
    Stepped (releaseStore elem store)
      (if store < 4 then { request with sender := .releasing (store + 1) }
        else { request with sender := .done, released := request.released + 1 }) := by
  obtain ⟨through, cleared⟩ := isOpen.senderReleases store isReleasing
  have notTimedOut : request.sender ≠ .timedOut := by rw [isReleasing]; exact SenderPc.noConfusion
  have notTerminated : elem.senderWaiting ≠ .waitTerminated :=
    fun isTerminated => notTimedOut (isOpen.terminated isTerminated)
  by_cases more : store < 4
  · rw [if_pos more]
    left
    have used := isUsed_releaseStore isOpen.used more
    have waits : (releaseStore elem store).senderWaiting ≠ .waitTerminated := by
      interval_cases store
      · exact SenderState.noConfusion
      all_goals exact notTerminated
    have unset : 1 < store + 1 → (releaseStore elem store).respCompleted = false := by
      intro later
      interval_cases store
      · omega
      · rfl
      all_goals exact cleared (by omega)
    refine ⟨isOpen.notReleased, used, SenderPc.noConfusion, fun _ => through,
      fun isTerminated => absurd isTerminated waits, ?_, ?_, ?_⟩
    · intro next isNext
      injection isNext with isNext
      rw [← isNext]
      exact ⟨through, unset⟩
    · intro next isNext
      rw [through] at isNext
      exact ReceiverPc.noConfusion isNext
    · intro isLoaded
      rw [through] at isLoaded
      exact ReceiverPc.noConfusion isLoaded
  · rw [if_neg more]
    right
    refine ⟨⟨?_, .inl rfl, through⟩, ?_⟩
    · show request.released + 1 = 1
      rw [isOpen.notReleased]
    · rw [releaseStore_last more]
      exact ⟨rfl, cleared (by omega), notTerminated⟩

/-- The sender's step leaves the slot in use, or released for good. -/
lemma stepped_sender (action : SenderAction) :
    Stepped (senderStep action elem request).1 (senderStep action elem request).2 := by
  cases isSender : request.sender with
  | taken =>
    have before : request.sender ≠ .timedOut := by rw [isSender]; exact SenderPc.noConfusion
    have notReleasing : ∀ store, request.sender ≠ .releasing store := by
      rw [isSender]
      exact fun _ => SenderPc.noConfusion
    cases action <;> simp only [senderStep, isSender]
    case proceed =>
      exact .inl ((isOpen.setWaiting SenderState.noConfusion notReleasing before).setSender
        (fun _ => SenderPc.noConfusion) SenderPc.noConfusion before)
    all_goals exact .inl isOpen
  | held =>
    have before : request.sender ≠ .timedOut := by rw [isSender]; exact SenderPc.noConfusion
    cases action <;> simp only [senderStep, isSender]
    case poll =>
      split
      next completed =>
        exact .inl (isOpen.startRelease completed before)
      · exact .inl isOpen
    case wait timed =>
      split
      next completed =>
        exact .inl (isOpen.startRelease completed before)
      · exact .inl (isOpen.setSender (fun _ => SenderPc.noConfusion) SenderPc.noConfusion before)
    all_goals exact .inl isOpen
  | toWait timed =>
    have before : request.sender ≠ .timedOut := by rw [isSender]; exact SenderPc.noConfusion
    have notReleasing : ∀ store, request.sender ≠ .releasing store := by
      rw [isSender]
      exact fun _ => SenderPc.noConfusion
    cases action <;> simp only [senderStep, isSender]
    case proceed =>
      exact .inl ((isOpen.setWaiting SenderState.noConfusion notReleasing before).setSender
        (fun _ => SenderPc.noConfusion) SenderPc.noConfusion before)
    all_goals exact .inl isOpen
  | waiting timed =>
    have before : request.sender ≠ .timedOut := by rw [isSender]; exact SenderPc.noConfusion
    cases action <;> cases timed <;> simp only [senderStep, isSender]
    case wake.false | wake.true =>
      split
      next awake =>
        exact .inl (isOpen.startRelease awake.2 before)
      · exact .inl isOpen
    case timeout.true =>
      split
      next expired =>
        left
        refine ⟨isOpen.notReleased, isOpen.used, SenderPc.noConfusion, isOpen.completed,
          fun _ => rfl, fun _ isReleasing => SenderPc.noConfusion isReleasing, ?_, fun _ => rfl⟩
        intro store isReleasing
        exact absurd (isOpen.receiverReleases store isReleasing).1 before
      · exact .inl isOpen
    all_goals exact .inl isOpen
  | releasing store =>
    cases action <;> simp only [senderStep, isSender]
    case proceed => exact isOpen.senderRelease isSender
    all_goals exact .inl isOpen
  | done => exact absurd isSender isOpen.notDone
  | timedOut =>
    cases action <;> simp only [senderStep, isSender] <;> exact .inl isOpen

lemma Open.setReceiver {receiver : ReceiverPc} (notDone : request.receiver ≠ .done)
    (notReleasing : ∀ store, receiver ≠ .releasing store)
    (loaded : receiver = .locked .waitTerminated → request.sender = .timedOut)
    {after : ProcElem} (used : after.isUsed = elem.isUsed)
    (completed : after.respCompleted = elem.respCompleted)
    (waiting : after.senderWaiting = elem.senderWaiting) :
    Open after { request with receiver := receiver } :=
  { isOpen with
    used := used.trans isOpen.used
    completed := fun isCompleted =>
      absurd (isOpen.completed (completed ▸ isCompleted)) notDone
    terminated := fun isTerminated => isOpen.terminated (waiting ▸ isTerminated)
    senderReleases := fun store isReleasing =>
      absurd (isOpen.senderReleases store isReleasing).1 notDone
    receiverReleases := fun store isReleasing => absurd isReleasing (notReleasing store)
    loaded := loaded }

lemma Open.receiverRelease {store : Nat} (isReleasing : request.receiver = .releasing store) :
    Stepped (releaseStore elem store)
      (if store < 4 then { request with receiver := .releasing (store + 1) }
        else { request with receiver := .done, released := request.released + 1 }) := by
  obtain ⟨timedOut, waits, notCompleted⟩ := isOpen.receiverReleases store isReleasing
  by_cases more : store < 4
  · rw [if_pos more]
    left
    have used := isUsed_releaseStore isOpen.used more
    have waiting : (releaseStore elem store).senderWaiting ≠ .waitTerminated := by
      interval_cases store
      · exact SenderState.noConfusion
      all_goals exact waits (by decide)
    have completed : (releaseStore elem store).respCompleted = false := by
      interval_cases store
      · exact notCompleted
      · rfl
      all_goals exact notCompleted
    refine ⟨isOpen.notReleased, used, isOpen.notDone, ?_,
      fun isTerminated => absurd isTerminated waiting, ?_, ?_,
      fun isLoaded => ReceiverPc.noConfusion isLoaded⟩
    · intro isCompleted
      rw [completed] at isCompleted
      contradiction
    · intro next isNext
      rw [timedOut] at isNext
      exact SenderPc.noConfusion isNext
    · intro next _
      exact ⟨timedOut, fun _ => waiting, completed⟩
  · rw [if_neg more]
    right
    refine ⟨⟨?_, .inr timedOut, rfl⟩, ?_⟩
    · show request.released + 1 = 1
      rw [isOpen.notReleased]
    · rw [releaseStore_last more]
      exact ⟨rfl, notCompleted, waits (by omega)⟩

/-- So does the receiver's step. -/
lemma stepped_receiver (number : Nat) (respcode : Int)
    (szdata : Nat) : Stepped (receiverStep number respcode szdata elem request).1
      (receiverStep number respcode szdata elem request).2 := by
  rw [receiverStep]
  cases isReceiver : request.receiver with
  | ready =>
    have notDone : request.receiver ≠ .done := by rw [isReceiver]; exact ReceiverPc.noConfusion
    simp only
    split
    · exact .inl isOpen
    · exact .inl (isOpen.setReceiver notDone (fun _ => ReceiverPc.noConfusion)
        (fun isLoaded => ReceiverPc.noConfusion isLoaded) rfl rfl rfl)
  | coded =>
    have notDone : request.receiver ≠ .done := by rw [isReceiver]; exact ReceiverPc.noConfusion
    exact .inl (isOpen.setReceiver notDone (fun _ => ReceiverPc.noConfusion)
      (fun isLoaded => ReceiverPc.noConfusion isLoaded) rfl rfl rfl)
  | sized =>
    have notDone : request.receiver ≠ .done := by rw [isReceiver]; exact ReceiverPc.noConfusion
    simp only
    split
    · apply Or.inl
      refine isOpen.setReceiver notDone
        (fun _ => ReceiverPc.noConfusion) ?_ rfl rfl rfl
      intro isLoaded
      injection isLoaded with isTerminated
      exact isOpen.terminated isTerminated
    · exact .inl isOpen
  | locked state =>
    have notDone : request.receiver ≠ .done := by rw [isReceiver]; exact ReceiverPc.noConfusion
    -- the response is completed, and the receiver is through
    have completes : Stepped { elem with mutex := none, respCompleted := true }
        { request with receiver := .done } := by
      left
      refine ⟨isOpen.notReleased, isOpen.used, isOpen.notDone, fun _ => rfl,
        isOpen.terminated, ?_, fun _ isReleasing => ReceiverPc.noConfusion isReleasing,
        fun isLoaded => ReceiverPc.noConfusion isLoaded⟩
      intro store isReleasing
      exact absurd (isOpen.senderReleases store isReleasing).1 notDone
    cases state with
    | notWaiting => exact completes
    | asyncPolling => exact completes
    | waiting => exact completes
    | waitTerminated =>
      have timedOut := isOpen.loaded isReceiver
      left
      refine ⟨isOpen.notReleased, isOpen.used, isOpen.notDone, ?_, isOpen.terminated, ?_, ?_,
        fun isLoaded => ReceiverPc.noConfusion isLoaded⟩
      · intro isCompleted
        exact absurd (isOpen.completed isCompleted) notDone
      · intro store isReleasing
        exact absurd (isOpen.senderReleases store isReleasing).1 notDone
      intro store isReleasing
      injection isReleasing with isZero
      refine ⟨timedOut, fun later => absurd later (by omega), ?_⟩
      cases isCompleted : elem.respCompleted with
      | false => rfl
      | true => exact absurd (isOpen.completed isCompleted) notDone
  | releasing store => exact isOpen.receiverRelease isReceiver
  | done => exact .inl isOpen

end

lemma Closed.senderStep (closed : Closed request) (action : SenderAction) :
    senderStep action elem request = (elem, request) := by
  rcases closed.sender with isDone | isTimedOut
  · cases action <;> simp only [Misc.senderStep, isDone]
  · cases action <;> simp only [Misc.senderStep, isTimedOut]

lemma Closed.receiverStep (closed : Closed request) (number : Nat) (respcode : Int)
    (szdata : Nat) : receiverStep number respcode szdata elem request = (elem, request) := by
  simp only [Misc.receiverStep, closed.receiver]

/-! ## All requests -/

/-- A repair scan that has not found a slot to release. -/
def Looks (verifier : Verifier) : Prop :=
  verifier.pc = .completed ∨ verifier.pc = .notTerminated ∨ verifier.pc = .done

/-- Every request uses its slot or has left it, no two of them use one slot, and the slots
that none uses are free. -/
structure Ok (comm : ProcComm) : Prop where
  requests : ∀ number < comm.numRequests,
    Open (comm.elems (comm.requests number).slot) (comm.requests number) ∨
      Closed (comm.requests number)
  unique : ∀ first < comm.numRequests, ∀ second < comm.numRequests,
    (comm.requests first).slot = (comm.requests second).slot →
    (comm.requests first).released = 0 → (comm.requests second).released = 0 → first = second
  free : ∀ slot, (∀ number < comm.numRequests, (comm.requests number).slot = slot →
    (comm.requests number).released ≠ 0) → Free (comm.elems slot)
  verifiers : ∀ number, Looks (comm.verifiers number)

variable {comm : ProcComm}

lemma Ok.exclusive (ok : Ok comm) : Exclusive comm := by
  refine ⟨?_, ok.unique⟩
  intro number isRequest
  rcases ok.requests number isRequest with isOpen | closed
  · rw [isOpen.notReleased]
    exact Nat.zero_le 1
  · exact Nat.le_of_eq closed.released

lemma ok_init : Ok init where
  requests := fun _ isRequest => absurd isRequest (Nat.not_lt_zero _)
  unique := fun _ isRequest => absurd isRequest (Nat.not_lt_zero _)
  free := fun _ _ => ⟨rfl, rfl, SenderState.noConfusion⟩
  verifiers := fun _ => .inr (.inr rfl)

lemma slot_senderStep (action : SenderAction) (elem : ProcElem) (request : ProcRequest) :
    (senderStep action elem request).2.slot = request.slot := by
  fun_cases senderStep <;> simp only <;> split <;> rfl

lemma slot_receiverStep (number : Nat) (respcode : Int) (szdata : Nat) (elem : ProcElem)
    (request : ProcRequest) :
    (receiverStep number respcode szdata elem request).2.slot = request.slot := by
  rw [receiverStep]
  split <;> (try split) <;> rfl

lemma Ok.closed_of_slot (ok : Ok comm) {first second : Nat} (isFirst : first < comm.numRequests)
    (isSecond : second < comm.numRequests) (ne : first ≠ second)
    (sameSlot : (comm.requests first).slot = (comm.requests second).slot)
    (inUse : (comm.requests second).released = 0) : Closed (comm.requests first) := by
  rcases ok.requests first isFirst with isOpen | closed
  · exact absurd (ok.unique first isFirst second isSecond sameSlot isOpen.notReleased inUse)
      ne
  · exact closed

section

variable (number : Nat) (step : ProcElem → ProcRequest → ProcElem × ProcRequest)
include number step

lemma elems_stepRequest (slot : Nat) :
    (comm.stepRequest number step).elems slot = if slot = (comm.requests number).slot then
        (step (comm.elems (comm.requests number).slot) (comm.requests number)).1
      else comm.elems slot := rfl

lemma requests_stepRequest (other : Nat) :
    (comm.stepRequest number step).requests other = if other = number then
        (step (comm.elems (comm.requests number).slot) (comm.requests number)).2
      else comm.requests other := rfl

end

lemma stepRequest_same {number : Nat} {step : ProcElem → ProcRequest → ProcElem × ProcRequest}
    (same : step (comm.elems (comm.requests number).slot) (comm.requests number) =
      (comm.elems (comm.requests number).slot, comm.requests number)) :
    comm.stepRequest number step = comm := by
  have elems : (comm.stepRequest number step).elems = comm.elems := by
    funext slot
    rw [elems_stepRequest, same]
    split
    next isSlot =>
      rw [isSlot]
    · rfl
  have requests : (comm.stepRequest number step).requests = comm.requests := by
    funext other
    rw [requests_stepRequest, same]
    split
    next isNumber =>
      rw [isNumber]
    · rfl
  show { comm with
    elems := (comm.stepRequest number step).elems
    requests := (comm.stepRequest number step).requests } = comm
  rw [elems, requests]

/-- A step of one request leaves the slots of the others. -/
lemma Ok.stepRequest (ok : Ok comm) {number : Nat} (isRequest : number < comm.numRequests)
    {step : ProcElem → ProcRequest → ProcElem × ProcRequest}
    (sameSlot : ∀ elem request, (step elem request).2.slot = request.slot)
    (closedStep : ∀ elem request, Closed request → step elem request = (elem, request))
    (openStep : ∀ elem request, Open elem request →
      Stepped (step elem request).1 (step elem request).2) : Ok (comm.stepRequest number step) := by
  rcases ok.requests number isRequest with isOpen | closed
  swap
  · rw [stepRequest_same (closedStep _ _ closed)]
    exact ok
  have stepped := openStep _ _ isOpen
  have slots : ∀ other, ((comm.stepRequest number step).requests other).slot =
      (comm.requests other).slot := by
    intro other
    rw [requests_stepRequest]
    split
    next isNumber =>
      rw [sameSlot, isNumber]
    · rfl
  -- a request in use after the step was in use before it
  have inUse : ∀ other, ((comm.stepRequest number step).requests other).released = 0 →
      (comm.requests other).released = 0 := by
    intro other notReleased
    by_cases isNumber : other = number
    · rw [isNumber]
      exact isOpen.notReleased
    · rw [requests_stepRequest, if_neg isNumber] at notReleased
      exact notReleased
  refine ⟨?_, ?_, ?_, ok.verifiers⟩
  · intro other isOther
    rw [slots, elems_stepRequest, requests_stepRequest]
    by_cases isNumber : other = number
    · rw [if_pos isNumber, isNumber, if_pos rfl]
      exact stepped.imp id And.left
    rw [if_neg isNumber]
    by_cases isSlot : (comm.requests other).slot = (comm.requests number).slot
    · exact .inr (ok.closed_of_slot isOther isRequest isNumber isSlot isOpen.notReleased)
    · rw [if_neg isSlot]
      exact ok.requests other isOther
  · intro first isFirst second isSecond same firstInUse secondInUse
    rw [slots, slots] at same
    exact ok.unique first isFirst second isSecond same (inUse first firstInUse)
      (inUse second secondInUse)
  intro slot notUsed
  rw [elems_stepRequest]
  by_cases isSlot : slot = (comm.requests number).slot
  · rw [if_pos isSlot]
    rcases stepped with stillOpen | ⟨_, isFree⟩
    · have released := notUsed number isRequest (by rw [slots, isSlot])
      rw [requests_stepRequest, if_pos rfl] at released
      exact absurd stillOpen.notReleased released
    · exact isFree
  rw [if_neg isSlot]
  apply ok.free
  intro other isOther hasSlot
  have ne : other ≠ number := by
    intro isNumber
    rw [isNumber] at hasSlot
    exact isSlot hasSlot.symm
  have released := notUsed other isOther (by rw [slots, hasSlot])
  rw [requests_stepRequest, if_neg ne] at released
  exact released

lemma Free.open_taken {slot : Nat} (isFree : Free elem) :
    Open { elem with isUsed := true } ⟨slot, .taken, .ready, 0⟩ where
  notReleased := rfl
  used := rfl
  notDone := SenderPc.noConfusion
  completed := fun isCompleted => by
    rw [show elem.respCompleted = false from isFree.notCompleted] at isCompleted
    contradiction
  terminated := fun isTerminated => absurd isTerminated isFree.notTerminated
  senderReleases := fun _ isReleasing => SenderPc.noConfusion isReleasing
  receiverReleases := fun _ isReleasing => ReceiverPc.noConfusion isReleasing
  loaded := fun isLoaded => ReceiverPc.noConfusion isLoaded

lemma Ok.take (ok : Ok comm) (slot : Nat) : Ok (comm.take slot) := by
  rw [ProcComm.take]
  split
  · exact ok
  next notUsed =>
  -- the requests that had the slot have left it
  have released : ∀ number < comm.numRequests, (comm.requests number).slot = slot →
      Closed (comm.requests number) := by
    intro number isRequest hasSlot
    rcases ok.requests number isRequest with isOpen | closed
    · have used := isOpen.used
      rw [hasSlot] at used
      exact absurd used notUsed
    · exact closed
  have isFree : Free (comm.elems slot) := by
    apply ok.free
    intro number isRequest hasSlot
    rw [(released number isRequest hasSlot).released]
    exact Nat.one_ne_zero
  refine ⟨?_, ?_, ?_, ok.verifiers⟩
  · intro number isRequest
    by_cases isNew : number = comm.numRequests
    · simp only [setElem, setRequest, if_pos isNew, if_pos]
      exact .inl isFree.open_taken
    have before : number < comm.numRequests :=
      Nat.lt_of_le_of_ne (Nat.le_of_lt_succ isRequest) isNew
    simp only [setElem, setRequest, if_neg isNew]
    by_cases hasSlot : (comm.requests number).slot = slot
    · exact .inr (released number before hasSlot)
    · rw [if_neg hasSlot]
      exact ok.requests number before
  · intro first isFirst second isSecond same firstInUse secondInUse
    replace isFirst : first < comm.numRequests + 1 := isFirst
    replace isSecond : second < comm.numRequests + 1 := isSecond
    simp only [setElem, setRequest] at same firstInUse secondInUse
    by_cases firstNew : first = comm.numRequests <;>
      by_cases secondNew : second = comm.numRequests
    · rw [firstNew, secondNew]
    · rw [if_pos firstNew, if_neg secondNew] at same
      rw [if_neg secondNew] at secondInUse
      have closed := released second (by omega) same.symm
      rw [closed.released] at secondInUse
      contradiction
    · rw [if_neg firstNew, if_pos secondNew] at same
      rw [if_neg firstNew] at firstInUse
      have closed := released first (by omega) same
      rw [closed.released] at firstInUse
      contradiction
    · rw [if_neg firstNew, if_neg secondNew] at same
      rw [if_neg firstNew] at firstInUse
      rw [if_neg secondNew] at secondInUse
      exact ok.unique first (by omega) second (by omega) same firstInUse secondInUse
  · intro other notUsed
    have ne : other ≠ slot := by
      intro isSlot
      apply notUsed comm.numRequests (Nat.lt_succ_self _)
      · simp only [setElem, setRequest, if_pos, isSlot]
      · simp only [setElem, setRequest, if_pos]
    simp only [setElem, setRequest, if_neg ne]
    apply ok.free
    intro number isRequest hasSlot
    have before := notUsed number (Nat.lt_succ_of_lt isRequest)
    simp only [setElem, setRequest, if_neg (Nat.ne_of_lt isRequest)] at before
    exact before hasSlot

/-- The condition on a step: a repair scan that has found a completed response finds the
sender neither stopped nor without a wait. -/
def NoRepair (comm : ProcComm) : CommEvent → Prop
  | .verifier number =>
    ((comm.verifiers number).pc = .completed →
      (comm.elems (comm.verifiers number).slot).senderWaiting ≠ .waitTerminated) ∧
    ((comm.verifiers number).pc = .notTerminated →
      (comm.elems (comm.verifiers number).slot).senderWaiting ≠ .notWaiting)
  | _ => True

lemma Ok.setVerifier (ok : Ok comm) (number : Nat) {verifier : Verifier}
    (looks : Looks verifier) : Ok (comm.setVerifier number verifier) :=
  { ok with
    verifiers := by
      intro other
      simp only [ProcComm.setVerifier]
      split
      · exact looks
      · exact ok.verifiers other }

lemma Ok.scan (ok : Ok comm) (slot : Nat) : Ok (comm.scan slot) := by
  rw [ProcComm.scan]
  split
  · have scanned := ok.setVerifier comm.numVerifiers
      (show Looks ⟨slot, comm.latest slot, .completed⟩ from .inl rfl)
    exact { scanned with }
  · exact ok

lemma Ok.stepVerifier (ok : Ok comm) {number : Nat}
    (noRepair : NoRepair comm (.verifier number)) : Ok (comm.stepVerifier number) := by
  obtain ⟨notTerminated, isWaiting⟩ := noRepair
  rw [ProcComm.stepVerifier]
  rcases ok.verifiers number with isPc | isPc | isPc
  · simp only [isPc, if_neg (notTerminated isPc)]
    exact ok.setVerifier number (.inr (.inl rfl))
  · simp only [isPc, if_neg (isWaiting isPc)]
    exact ok.setVerifier number (.inr (.inr rfl))
  · simp only [isPc]
    exact ok

/-- Every event but a repair keeps the invariant. -/
lemma Ok.step (ok : Ok comm) {event : CommEvent} (noRepair : NoRepair comm event) :
    Ok (comm.step event) := by
  cases event with
  | take slot => exact ok.take slot
  | sender number action =>
    rw [ProcComm.step]
    split
    next isRequest =>
      exact ok.stepRequest isRequest (slot_senderStep action)
        (fun _ _ closed => closed.senderStep action)
        (fun _ _ isOpen => stepped_sender isOpen action)
    · exact ok
  | receiver number respcode szdata =>
    rw [ProcComm.step]
    split
    next isRequest =>
      exact ok.stepRequest isRequest (slot_receiverStep number respcode szdata)
        (fun _ _ closed => closed.receiverStep number respcode szdata)
        (fun _ _ isOpen => stepped_receiver isOpen number respcode szdata)
    · exact ok
  | scan slot => exact ok.scan slot
  | verifier number =>
    rw [ProcComm.step]
    split
    · exact ok.stepVerifier noRepair
    · exact ok

/-- In every interleaving in which no repair scan finds a slot to release, a slot is in use by
one request at most, and is released once for each. -/
theorem slots_exclusive (events : List CommEvent)
    (noRepair : Machine.Guarded step NoRepair init events) :
    Exclusive (Machine.run step init events) :=
  Ok.exclusive (noRepair.invariant (fun _ _ ok allowed => ok.step allowed) ok_init)

instance (comm : ProcComm) (event : CommEvent) : Decidable (NoRepair comm event) :=
  match event with
  | .verifier _ => inferInstanceAs (Decidable (_ ∧ _))
  | .take _ => isTrue trivial
  | .sender _ _ => isTrue trivial
  | .receiver _ _ _ => isTrue trivial
  | .scan _ => isTrue trivial

/-- A sender gives up waiting and the receiver releases its slot; the slot then serves a
second request, and a scan finds nothing to repair. -/
def timedOutRequest : List CommEvent :=
  [CommEvent.take 0, .sender 0 .proceed, .receiver 0 0 16, .sender 0 (.wait true),
    .sender 0 .proceed, .sender 0 .timeout] ++ List.replicate 8 (CommEvent.receiver 0 0 16) ++
  [CommEvent.take 0, .sender 1 .proceed] ++ List.replicate 4 (CommEvent.receiver 1 0 16) ++
  [CommEvent.scan 0, .verifier 0, .verifier 0]

theorem timedOutRequest_exclusive : Exclusive (Machine.run step init timedOutRequest) :=
  slots_exclusive timedOutRequest (by decide +kernel)

/-- Nor is a slot lost: one that no request uses is free, whoever released it. -/
theorem unused_slot_free (events : List CommEvent)
    (noRepair : Machine.Guarded step NoRepair init events) (slot : Nat) :
    let comm := Machine.run step init events
    (∀ number < comm.numRequests, (comm.requests number).slot = slot →
      (comm.requests number).released ≠ 0) → Free (comm.elems slot) := by
  have ok := noRepair.invariant (fun _ _ ok allowed => ok.step allowed) ok_init
  exact ok.free slot

/-- The receiver has released the slot of the sender that gave up. -/
theorem timedOutRequest_slot_free :
    Free ((Machine.run step init (timedOutRequest.take 14)).elems 0) :=
  unused_slot_free (timedOutRequest.take 14) (by decide +kernel) 0 (by decide +kernel)

/-- A scan looks at a slot between the first two stores of its sender's release. -/
def repairedTooEarly : List CommEvent :=
  [CommEvent.take 0, .sender 0 .proceed] ++ List.replicate 4 (CommEvent.receiver 0 0 16) ++
  [CommEvent.sender 0 .poll, .sender 0 .proceed, .scan 0, .verifier 0, .verifier 0] ++
  List.replicate 4 (CommEvent.sender 0 .proceed) ++ [CommEvent.take 0] ++
  List.replicate 6 (CommEvent.verifier 0) ++ [CommEvent.take 0]

/-- The scan then releases the slot again, under a second request, and a third one gets it. -/
theorem repairedTooEarly_not_exclusive : ¬ Exclusive (Machine.run step init repairedTooEarly) := by
  intro exclusive
  have three : (Machine.run step init repairedTooEarly).numRequests = 3 := by decide +kernel
  have same := exclusive.2 1 (by rw [three]; decide) 2 (by rw [three]; decide)
    (by decide +kernel) (by decide +kernel) (by decide +kernel)
  contradiction

example : ((Machine.run step init repairedTooEarly).requests 0).released = 2 := by
  decide +kernel

end ProcComm

end Gyeeta.Misc
