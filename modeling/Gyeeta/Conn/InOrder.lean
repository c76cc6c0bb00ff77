import Gyeeta.Conn.Buffer
import Gyeeta.Lib.Frames

/-!
# Messages are passed on in order

As long as `recv` is not called while a batch is open, the messages that `handle_recv` hands to
the L2 threads are the complete messages received, and the connection keeps the received part of
the next one.  While a batch is open the local variables are ahead of the connection's fields;
the `set_variables` before `recv` goes back to the fields and thereby to messages that are in the
batch already.
-/

namespace Gyeeta.Conn

open List

open Comm

/-- The messages of an array, with the bytes they had when they were scheduled. -/
def DbWriteArr.contents (arr : DbWriteArr) : List Bytes :=
  arr.dbonearr.map DbWriteOne.content

namespace RecvState

/-- The messages of all arrays handed to `send_db_array`. -/
def handedMessages (state : RecvState) : List Bytes :=
  state.handed.flatMap DbWriteArr.contents

/-- The messages handed over, and those of the batch. -/
def scheduled (state : RecvState) : List Bytes :=
  state.handedMessages ++ state.dbarr.contents

end RecvState

/-- A message with a valid header that gives its size. -/
structure IsFramed (cfg : RecvConfig) (message : Bytes) : Prop where
  valid : (CommHeader.parse message).validate true cfg.magic = true
  size : (CommHeader.parse message).totalSz = message.length

lemma IsFramed.length_pos {cfg : RecvConfig} {message : Bytes}
    (framed : IsFramed cfg message) : 0 < message.length := by
  have size := (CommHeader.size_of_validate framed.valid).1
  rw [framed.size] at size
  exact Nat.lt_of_lt_of_le (by decide) size

/-- A registered connection passes the message on to an L2 thread. -/
def IsPassedOn (cfg : RecvConfig) (isConnClosed : Bool) (message : Bytes) : Prop :=
  ∃ dest content, route cfg true isConnClosed message = .pass dest content

/-- The bytes of a message when it is scheduled: those that its check leaves. -/
def scheduledBytes (cfg : RecvConfig) (message : Bytes) : Bytes :=
  match route cfg true false message with
  | .pass _ content => content
  | _ => message

section Routes

variable {cfg : RecvConfig} {isRegistered isConnClosed : Bool} {message content : Bytes}
  {dest : L2Type}

lemma length_routeNotify (routed : routeNotify cfg isRegistered message = .pass dest content) :
    content.length = message.length := by
  rw [routeNotify] at routed
  split at routed
  · cases routed
  split at routed
  · split at routed
    · split at routed
      next checked =>
        cases routed
        exact cfg.notifyCheck_length _ _ _ checked
      · cases routed
    · cases routed
  · split at routed
    · cases routed
    · split at routed <;> cases routed

lemma routeQuery_content (routed : routeQuery cfg isRegistered message = .pass dest content) :
    content = message := by
  rw [routeQuery] at routed
  split at routed
  · split at routed <;> cases routed
    rfl
  · split at routed <;> cases routed
    rfl
  · split at routed <;> cases routed
    rfl
  · split at routed <;> cases routed
    rfl
  · cases routed

lemma routeConnect_ne_pass (type : CommType) :
    routeConnect cfg isRegistered type message ≠ .pass dest content := by
  rw [routeConnect]
  split
  · nofun
  · split <;> nofun

lemma routeResponse_ne_pass (type : CommType) (host : HostType) :
    routeResponse cfg isRegistered type host message ≠ .pass dest content := by
  rw [routeResponse]
  split
  · nofun
  · split <;> nofun

section

variable (routed : route cfg isRegistered isConnClosed message = .pass dest content)
include routed

lemma route_pass_cases :
    (routeNotify cfg isRegistered message = .pass dest content ∨
      routeQuery cfg isRegistered message = .pass dest content) ∧
    route cfg isRegistered false message = .pass dest content := by
  rw [route] at routed ⊢
  split at routed
  · exact ⟨Or.inl routed, routed⟩
  · split at routed
    · cases routed
    next open_ =>
    push Not at open_
    refine ⟨Or.inr routed, ?_⟩
    simpa [open_.2] using routed
  · split at routed
    · cases routed
    · split at routed <;> cases routed
  · exact absurd routed (routeResponse_ne_pass _ _)
  · exact absurd routed (routeResponse_ne_pass _ _)
  · exact absurd routed (routeConnect_ne_pass _)
  · exact absurd routed (routeConnect_ne_pass _)
  · exact absurd routed (routeConnect_ne_pass _)
  · cases routed

lemma length_route :
    content.length = message.length := by
  rcases (route_pass_cases routed).1 with notify | query
  · exact length_routeNotify notify
  · rw [routeQuery_content query]

end

lemma IsPassedOn.route_eq (passed : IsPassedOn cfg isConnClosed message) :
    ∃ dest, route cfg true isConnClosed message = .pass dest (scheduledBytes cfg message) := by
  obtain ⟨dest, content, routed⟩ := passed
  refine ⟨dest, ?_⟩
  rw [scheduledBytes, (route_pass_cases routed).2]
  exact routed

lemma IsPassedOn.length_scheduledBytes (passed : IsPassedOn cfg isConnClosed message) :
    (scheduledBytes cfg message).length = message.length := by
  obtain ⟨dest, routed⟩ := passed.route_eq
  exact length_route routed

end Routes

/-! ## What the operations leave alone -/

/-- The part of the state that the operations on the buffer do not change. -/
structure Ledger where
  isRegistered : Bool
  isConnClosed : Bool
  scheduled : List Bytes
  unread : Bytes

namespace RecvState

def ledger (state : RecvState) : Ledger where
  isRegistered := state.isRegistered
  isConnClosed := state.isConnClosed
  scheduled := state.scheduled
  unread := state.unread

section Ledger

variable (cfg : RecvConfig) (state : RecvState)

lemma scheduled_of_none (none : state.dbarr.dbonearr = []) :
    state.scheduled = state.handedMessages := by
  rw [scheduled, DbWriteArr.contents, none, map_nil, append_nil]

lemma scheduled_sendDbArray : state.sendDbArray.scheduled = state.scheduled := by
  rw [scheduled_of_none _ rfl]
  show (state.handed ++ [state.dbarr]).flatMap DbWriteArr.contents = _
  rw [flatMap_append, flatMap_singleton, scheduled, handedMessages]

@[simp] lemma ledger_handOver : state.handOver.ledger = state.ledger := by
  show Ledger.mk state.isRegistered state.isConnClosed state.sendDbArray.scheduled
    state.unread = _
  rw [scheduled_sendDbArray, ledger]

@[simp] lemma ledger_moveToStart : state.moveToStart.ledger = state.ledger := rfl

@[simp] lemma ledger_skipMessage : state.skipMessage.ledger = state.ledger := by
  rw [skipMessage]
  split <;> rfl

@[simp] lemma ledger_replaceBuf (request count : Nat) :
    (state.replaceBuf cfg request count).ledger = state.ledger := by
  rw [replaceBuf]
  split
  · rfl
  · exact ledger_handOver state

@[simp] lemma ledger_switchBatch (dest : L2Type) :
    (state.switchBatch cfg dest).ledger = state.ledger := by
  rw [switchBatch]
  split
  · exact ledger_replaceBuf cfg state _ _
  · rfl

@[simp] lemma ledger_makeRoom : (state.makeRoom cfg).ledger = state.ledger := by
  rw [makeRoom]
  split
  · exact ledger_replaceBuf cfg state _ _
  · rfl

@[simp] lemma ledger_keepIncomplete : state.keepIncomplete.ledger = state.ledger := by
  rw [keepIncomplete]
  split <;> rfl

@[simp] lemma ledger_flushFull : (state.flushFull cfg).ledger = state.ledger := by
  rcases flushFull_cases cfg state with ⟨-, request, -, -, flushed⟩ | ⟨-, -, -, flushed⟩ |
    ⟨-, flushed⟩ | ⟨-, flushed⟩ <;> simp [flushed]

lemma ledger_pushBatch (dest : L2Type) (pwrbuf : Ptr) (content : Bytes) :
    (state.pushBatch dest pwrbuf content).ledger =
      { state.ledger with scheduled := state.scheduled ++ [content] } := by
  rw [pushBatch]
  split
  next none =>
    simp [ledger, scheduled, handedMessages, DbWriteArr.contents, none]
  · simp [ledger, scheduled, handedMessages, DbWriteArr.contents]

lemma ledger_scheduleDbArray (dest : L2Type) (content : Bytes) :
    (state.scheduleDbArray cfg dest content).ledger =
      { state.ledger with scheduled := state.ledger.scheduled ++ [content] } := by
  have switched := ledger_switchBatch cfg state dest
  rw [scheduleDbArray, ledger_pushBatch, ← switched]
  rfl

end Ledger

/-! ## The invariant -/

section Invariant

variable (cfg : RecvConfig) (messages before : List Bytes)

/-- Some messages are scheduled; those to come start with the bytes at hand and go on with
the unread ones. -/
structure Progress (ledger : Ledger) (part : Bytes) (todo : List Bytes) : Prop where
  registered : ledger.isRegistered = true
  split : ∃ done, messages = done ++ todo ∧
    ledger.scheduled = before ++ done.map (scheduledBytes cfg)
  stream : part ++ ledger.unread = todo.flatten

/-- No batch is open and the connection keeps a part of the next message. -/
structure Waits (state : RecvState) : Prop where
  none : state.dbarr.dbonearr = []
  full : state.kept.length = state.rdstat.dataSz
  progress : ∃ todo, Progress cfg messages before state.ledger state.kept todo ∧
    ∀ next later, todo = next :: later → state.kept.length < next.length

/-- The connection has a buffer with room for more bytes. -/
def HasRoom (state : RecvState) : Prop :=
  (∃ name, state.Buffered name) ∧ state.rdstat.dataSz < state.rdstat.maxBufSz

/-- All messages are of a kind that the current call passes on. -/
def Passes (state : RecvState) : Prop :=
  ∀ message ∈ messages, IsPassedOn cfg state.ledger.isConnClosed message

/-- What holds between the steps. -/
def InOrder (state : RecvState) : Prop :=
  match state.pc with
  | .returned _ =>
    Waits cfg messages before state ∧
      (state.HasRoom ∨ state.rdstat.pdirbuf = none ∧ state.rdstat.dataSz = 0)
  | .recv =>
    state.isRegistered = true ∧ Passes cfg messages state ∧
      (state.dbarr.dbonearr = [] → Waits cfg messages before state ∧ state.HasRoom)
  | .parse =>
    Passes cfg messages state ∧ state.dbarr.dbonearr.length < maxDbOne ∧ 0 < state.dataSz ∧
      ∃ part todo, state.Holds part ∧ Progress cfg messages before state.ledger part todo
  | .failed => True
  | .thrown _ => False

variable {cfg : RecvConfig} {messages before : List Bytes} {state : RecvState}
  {part : Bytes} {todo : List Bytes}

variable {next : Bytes}

variable {ledger : Ledger}

lemma Progress.next_mem
    (progress : Progress cfg messages before ledger part (next :: todo)) : next ∈ messages := by
  obtain ⟨done, all, -⟩ := progress.split
  rw [all]
  exact mem_append_right _ mem_cons_self

lemma Progress.next_length_pos (framed : ∀ message ∈ messages, IsFramed cfg message)
    (progress : Progress cfg messages before ledger part todo)
    {later : List Bytes} (split : todo = next :: later) : 0 < next.length := by
  subst split
  exact (framed next progress.next_mem).length_pos

lemma Progress.schedule
    (progress : Progress cfg messages before ledger (next ++ part) (next :: todo)) :
    Progress cfg messages before
      { ledger with scheduled := ledger.scheduled ++ [scheduledBytes cfg next] } part todo where
  registered := progress.registered
  split := by
    obtain ⟨done, all, scheduled⟩ := progress.split
    refine ⟨done ++ [next], ?_, ?_⟩
    · rw [all, append_assoc, singleton_append]
    · rw [scheduled, map_append, append_assoc]
      rfl
  stream := by
    have stream := progress.stream
    rw [append_assoc, flatten_cons] at stream
    exact append_cancel_left stream

section

variable (framed : ∀ message ∈ messages, IsFramed cfg message)
include framed

lemma inOrder_finish_empty (progress : Progress cfg messages before state.ledger [] todo)
    (empty : state.dataSz = 0) : InOrder cfg messages before (state.finish cfg) := by
  have released : state.finish cfg =
      { (if state.dbarr.dbonearr ≠ [] then state.handOver else state.resetBuf) with
        pc := .returned state.totbytes } := by
    simp only [finish, closeBatch, empty, Nat.lt_irrefl, if_false, if_true]
  have buffer : (state.finish cfg).rdstat.pdirbuf = none ∧ (state.finish cfg).rdstat.dataSz = 0 ∧
      (state.finish cfg).dbarr.dbonearr = [] := by
    rw [released]
    split
    · exact ⟨rfl, rfl, rfl⟩
    next none =>
      exact ⟨rfl, rfl, not_not.mp none⟩
  have ledger : (state.finish cfg).ledger = state.ledger := by
    rw [released]
    split
    · exact ledger_handOver state
    · rfl
  have kept : (state.finish cfg).kept = [] := by
    rw [RecvState.kept, buffer.2.1, Heap.read, Bytes.slice_none]
  refine ⟨⟨buffer.2.2, ?_, todo, ?_, ?_⟩, Or.inr ⟨buffer.1, buffer.2.1⟩⟩
  · rw [kept, buffer.2.1]
    rfl
  · rw [kept, ledger]
    exact progress
  · intro next later split
    rw [kept]
    exact progress.next_length_pos framed split

lemma inOrder_finish (waits : Waits cfg messages before state) (room : state.HasRoom)
    (start : state.dataSz = state.rdstat.dataSz) :
    InOrder cfg messages before (state.finish cfg) := by
  by_cases empty : state.dataSz = 0
  · obtain ⟨todo, progress, -⟩ := waits.progress
    have kept : state.kept = [] := by
      rw [← length_eq_zero_iff, waits.full, ← start, empty]
    rw [kept] at progress
    exact inOrder_finish_empty framed progress empty
  · have none := waits.none
    rw [finish, closeBatch, if_neg (not_not.mpr none), if_neg empty]
    split
    · exact ⟨⟨none, waits.full, waits.progress⟩, Or.inl ⟨room.1.imp fun _ h => { h with }, room.2⟩⟩
    · exact ⟨⟨none, waits.full, waits.progress⟩, Or.inl ⟨room.1.imp fun _ h => { h with }, room.2⟩⟩

lemma inOrder_leaveInner
    (passes : Passes cfg messages state) (waits : Waits cfg messages before state)
    (room : state.HasRoom) (start : state.dataSz = state.rdstat.dataSz) :
    InOrder cfg messages before (state.leaveInner cfg) := by
  rw [leaveInner]
  split
  · exact inOrder_finish framed waits room start
  · obtain ⟨todo, progress, -⟩ := waits.progress
    exact ⟨progress.registered, passes, fun _ =>
      ⟨⟨waits.none, waits.full, waits.progress⟩, room.1.imp fun _ h => { h with }, room.2⟩⟩

end

section

variable (framed : ∀ message ∈ messages, IsFramed cfg message) (passes : Passes cfg messages state)
  (holds : state.Holds part) (progress : Progress cfg messages before state.ledger part todo)
include framed passes holds progress

lemma inOrder_incomplete (short : ∀ next later, todo = next :: later → part.length < next.length)
    (incomplete : state.dataSz < state.totalSz) :
    InOrder cfg messages before ((state.makeRoom cfg).keepIncomplete.leaveInner cfg) := by
  obtain ⟨none, enough⟩ := makeRoom_incomplete cfg incomplete
  have roomy := holds.makeRoom cfg
  obtain ⟨start, sameMax, sameData, sameBatch⟩ := keepIncomplete_start (state.makeRoom cfg)
  have keeps := roomy.keepIncomplete
  have kept := keeps.kept start
  obtain ⟨name, layout⟩ := keeps.layout
  obtain ⟨_, before⟩ := roomy.layout
  have ledger : (state.makeRoom cfg).keepIncomplete.ledger = state.ledger := by simp
  refine inOrder_leaveInner framed ?_ ⟨?_, ?_, todo, ?_, ?_⟩ ⟨⟨name, layout.buffered⟩, ?_⟩ start
  · rw [Passes, ledger]
    exact passes
  · rw [sameBatch, none]
  · rw [kept, ← start, keeps.length]
  · rw [kept, ledger]
    exact progress
  · rw [kept]
    exact short
  · rw [← start, sameData, sameMax, makeRoom_dataSz]
    have room := before.room
    omega

lemma inOrder_nextRound
    (notFull : state.dbarr.dbonearr.length < maxDbOne) (start : state.dbarr.dbonearr = [] →
      state.dataSz = state.rdstat.dataSz ∧ 0 < state.rdstat.maxBufSz) :
    InOrder cfg messages before (state.nextRound cfg) := by
  rw [nextRound]
  split
  next notEmpty =>
    exact ⟨passes, notFull, notEmpty, part, todo, holds.setPc _, progress⟩
  next empty =>
  have noData : state.dataSz = 0 := Nat.eq_zero_of_not_pos empty
  have nothing : part = [] := by rw [← length_eq_zero_iff, holds.length, noData]
  subst nothing
  rw [leaveInner]
  split
  · exact inOrder_finish_empty framed progress noData
  refine ⟨progress.registered, passes, fun none => ?_⟩
  obtain ⟨same, room⟩ := start none
  have kept : state.kept = [] := holds.kept same
  obtain ⟨name, layout⟩ := holds.layout
  refine ⟨⟨none, ?_, todo, ?_, fun next later split => ?_⟩, ⟨name, { layout.buffered with }⟩, ?_⟩
  · show state.kept.length = state.rdstat.dataSz
    rw [kept, ← same, noData]
    rfl
  · show Progress cfg messages before state.ledger state.kept todo
    rw [kept]
    exact progress
  · show state.kept.length < next.length
    rw [kept]
    exact progress.next_length_pos framed split
  · show state.rdstat.dataSz < state.rdstat.maxBufSz
    omega

lemma inOrder_flushFull
    (batch : state.dbarr.dbonearr ≠ []) (notOver : state.dbarr.dbonearr.length ≤ maxDbOne) :
    InOrder cfg messages before ((state.flushFull cfg).nextRound cfg) := by
  have ledger := ledger_flushFull cfg state
  rw [← ledger] at progress
  rw [Passes, ← ledger] at passes
  rcases flushFull_cases cfg state with ⟨-, request, enough, positive, flushed⟩ |
    ⟨-, again, empty, flushed⟩ | ⟨none, -⟩ | ⟨notFull, flushed⟩
  · rw [flushed] at passes progress ⊢
    have room : request ≤ (state.replaceBuf cfg request state.dataSz).maxBufSz :=
      request_le_replaceBuf
    have moved : (state.replaceBuf cfg request state.dataSz).Holds part :=
      holds.replaceBuf enough
    obtain ⟨name, layout⟩ := moved.layout
    have start := layout.room
    refine inOrder_nextRound framed passes moved progress ?_ fun _ => ⟨?_, ?_⟩
    · rw [replaceBuf_dbonearr]
      decide
    · rw [replaceBuf_eq]
    · omega
  · have nothing : part = [] := by rw [← length_eq_zero_iff, holds.length, empty]
    subst nothing
    rw [flushed] at progress ⊢
    rw [nextRound, if_neg (by rw [Nat.not_lt]; exact Nat.le_of_eq empty), leaveInner,
      if_pos (show state.handOver.isAgain = true from again)]
    exact inOrder_finish_empty framed progress empty
  · exact absurd none batch
  · rw [flushed] at passes progress ⊢
    exact inOrder_nextRound framed passes holds progress (by omega) fun none => absurd none batch

end

section

variable (framed : ∀ message ∈ messages, IsFramed cfg message)
include framed

lemma inOrder_passMessage
    (dest : L2Type) {content : Bytes} (holds : state.Holds (content ++ part))
    (passes : Passes cfg messages state)
    (size : content.length = state.totalSz) (aligned : state.totalSz % 8 = 0)
    (notEmpty : 0 < state.dataSz) (notFull : state.dbarr.dbonearr.length < maxDbOne)
    (progress : Progress cfg messages before
      { state.ledger with scheduled := state.ledger.scheduled ++ [content] } part todo) :
    InOrder cfg messages before (state.passMessage cfg dest content) := by
  obtain ⟨complete, -, -⟩ := holds.split notEmpty size
  have ledger := ledger_scheduleDbArray cfg state dest content
  have scheduledHolds : (state.scheduleDbArray cfg dest content).Holds (content ++ part) :=
    (holds.switchBatch cfg dest complete).pushBatch dest state.prdbuf content
  have sameSize : (state.scheduleDbArray cfg dest content).totalSz = state.totalSz := by
    rw [scheduleDbArray, pushBatch_totalSz, switchBatch_totalSz]
  have sameData : (state.scheduleDbArray cfg dest content).dataSz = state.dataSz := by
    rw [← scheduledHolds.length, holds.length]
  have batch : (state.scheduleDbArray cfg dest content).dbarr.dbonearr.length =
      (state.switchBatch cfg dest).dbarr.dbonearr.length + 1 := pushBatch_length _ _ _
  have small : (state.switchBatch cfg dest).dbarr.dbonearr.length < maxDbOne := by
    rcases switchBatch_dbonearr cfg state dest with none | same
    · rw [none]
      decide
    · rw [same]
      exact notFull
  rw [passMessage, if_neg (Nat.not_le.mpr notFull)]
  generalize state.scheduleDbArray cfg dest content = next at *
  obtain ⟨name, layout⟩ := scheduledHolds.layout
  have fits := layout.fits
  rw [afterMessage, if_neg (by omega)]
  have behind := scheduledHolds.skipMessage (by omega) (by omega) (by omega)
  rw [← ledger, ← ledger_skipMessage] at progress
  refine inOrder_flushFull framed ?_ behind progress ?_ ?_
  · rw [Passes, ledger_skipMessage, ledger]
    exact passes
  · rw [skipMessage_dbarr, ← length_pos_iff]
    omega
  · rw [skipMessage_dbarr]
    omega

lemma inOrder_complete (passes : Passes cfg messages state) (size : next.length = state.totalSz)
    (notFull : state.dbarr.dbonearr.length < maxDbOne) (holds : state.Holds (next ++ part))
    (progress : Progress cfg messages before state.ledger (next ++ part) (next :: todo)) :
    InOrder cfg messages before (state.handleMessage cfg) := by
  have mem := progress.next_mem
  have lengths := holds.length
  rw [length_append] at lengths
  have positive := (framed next mem).length_pos
  have notEmpty : 0 < state.dataSz := by omega
  have aligned := (CommHeader.size_of_validate (framed next mem).valid).2
  rw [(framed next mem).size, size] at aligned
  obtain ⟨dest, routed⟩ := (passes next mem).route_eq
  have sameLength := (passes next mem).length_scheduledBytes
  obtain ⟨-, message, -⟩ := holds.split notEmpty size
  have registered : state.isRegistered = true := progress.registered
  rw [message, ← registered] at routed
  rw [handleMessage, show route cfg state.isRegistered state.isConnClosed state.message = _
    from routed, ← message]
  have checked := holds.countRequest.overwrite notEmpty size sameLength
  exact inOrder_passMessage framed dest checked passes (sameLength.trans size) aligned notEmpty
    notFull progress.schedule

lemma readHeader_eq (holds : state.Holds part) {later : List Bytes}
    (progress : Progress cfg messages before state.ledger part (next :: later)) :
    state.readHeader cfg =
      some (if commHeaderSize ≤ state.dataSz then next.length else commHeaderSize) := by
  rw [readHeader]
  split
  next long =>
    obtain ⟨valid, size⟩ := framed next progress.next_mem
    have headerLong := (CommHeader.size_of_validate valid).1
    rw [size] at headerLong
    have front : state.heap.read state.prdbuf commHeaderSize = next.take commHeaderSize := by
      have stream := progress.stream
      have length := holds.length
      rw [Heap.read_take _ _ long, show state.heap.read state.prdbuf state.dataSz = part
        from holds.pending, ← take_append_of_le_length (show commHeaderSize ≤ part.length
        by omega), stream, flatten_cons, take_append_of_le_length headerLong]
    have parsed : CommHeader.parse (next.take commHeaderSize) = CommHeader.parse next := by
      rw [← CommHeader.parse_append (next.drop commHeaderSize), take_append_drop]
      rw [length_take]
      omega
    have aligned := decide_eq_true holds.aligned
    simp only [front, parsed, aligned, valid, size, if_true]
  · rfl

/-- One round of the parse loop, from the header of the next message. -/
lemma inOrder_parseRound
    (passes : Passes cfg messages state) (notFull : state.dbarr.dbonearr.length < maxDbOne)
    (notEmpty : 0 < state.dataSz) (holds : state.Holds part)
    (progress : Progress cfg messages before state.ledger part todo) :
    InOrder cfg messages before (state.parseRound cfg) := by
  cases todo with
  | nil =>
    have stream := progress.stream
    have length := holds.length
    rw [flatten_nil, append_eq_nil_iff] at stream
    rw [stream.1, length_nil] at length
    omega
  | cons next later =>
    have stream := progress.stream
    have length := holds.length
    rw [parseRound, readHeader_eq framed holds progress]
    dsimp only
    generalize sizeEq :
      (if commHeaderSize ≤ state.dataSz then next.length else commHeaderSize) = totalSz
    have sized := holds.setTotalSz totalSz
    by_cases complete : totalSz ≤ state.dataSz
    · have size : next.length = totalSz := by
        split at sizeEq
        · exact sizeEq
        · omega
      have front : next <+: part := by
        refine prefix_of_prefix_length_le (prefix_append next later.flatten) ?_ (by omega)
        rw [← flatten_cons, ← stream]
        exact prefix_append _ _
      obtain ⟨behind, rfl⟩ := front
      obtain ⟨name, layout⟩ := sized.layout
      rw [makeRoom_complete layout.fits complete, if_neg (Nat.not_lt.mpr complete)]
      exact inOrder_complete framed passes size notFull sized progress
    · have headerLong := (CommHeader.size_of_validate (framed next progress.next_mem).valid).1
      rw [(framed next progress.next_mem).size] at headerLong
      have short : part.length < next.length := by
        split at sizeEq <;> omega
      rw [if_pos (by rw [makeRoom_dataSz, makeRoom_totalSz]; exact Nat.not_le.mp complete)]
      refine inOrder_incomplete framed passes sized progress ?_ (Nat.not_le.mp complete)
      rintro _ _ ⟨⟩
      exact short

end

lemma inOrder_begin (closed : Bool) (passes : ∀ message ∈ messages, IsPassedOn cfg closed message)
    (waits : Waits cfg messages before state)
    (buffer : state.HasRoom ∨ state.rdstat.pdirbuf = none ∧ state.rdstat.dataSz = 0) :
    InOrder cfg messages before (state.begin cfg closed) := by
  have ready : (state.ensureBuf cfg).HasRoom ∧ (state.ensureBuf cfg).kept = state.kept ∧
      (state.ensureBuf cfg).rdstat.dataSz = state.rdstat.dataSz ∧
      (state.ensureBuf cfg).handed = state.handed ∧
      (state.ensureBuf cfg).ledger = state.ledger := by
    rcases ensureBuf_cases cfg state with ⟨present, same⟩ | ⟨absent, new⟩
    · rw [same]
      exact ⟨buffer.resolve_right fun none => present none.1, rfl, rfl, rfl, rfl⟩
    have noData : state.rdstat.dataSz = 0 := by
      rcases buffer with ⟨⟨name, buffered⟩, -⟩ | ⟨-, noData⟩
      · exact absurd (buffered.pdirbuf.symm.trans absent) nofun
      · exact noData
    rw [new]
    refine ⟨⟨⟨_, buffered_newBuf (Nat.zero_le _) []⟩, ?_⟩, ?_, noData.symm, rfl, rfl⟩
    · exact Nat.lt_of_lt_of_le (show 0 < minBufSz by decide) (cfg.actSize_le _ _)
    · rw [kept, kept, noData, Heap.read, Heap.read, Bytes.slice_none]
      exact Bytes.slice_none _ _
  obtain ⟨room, kept, sameData, handed, ledger⟩ := ready
  obtain ⟨todo, progress, short⟩ := waits.progress
  have scheduled : (state.begin cfg closed).scheduled = state.scheduled := by
    rw [scheduled_of_none _ waits.none, scheduled_of_none _ rfl]
    exact congrArg (List.flatMap DbWriteArr.contents) handed
  rw [← ledger, ← kept] at progress
  rw [← kept] at short
  have full := waits.full
  rw [← kept, ← sameData] at full
  refine ⟨progress.registered, passes, fun _ =>
    ⟨⟨rfl, full, todo, ⟨progress.registered, ?_, progress.stream⟩, short⟩,
      room.1.imp fun _ buffer => { buffer with }, room.2⟩⟩
  obtain ⟨done, all, sent⟩ := progress.split
  refine ⟨done, all, ?_⟩
  rw [← sent, ledger]
  exact scheduled

lemma inOrder_received (passes : Passes cfg messages state)
    (waits : Waits cfg messages before state) (room : state.HasRoom) {bytes : Bytes}
    (notEmpty : bytes ≠ []) (front : bytes <+: state.unread)
    (fits : bytes.length ≤ state.rdstat.maxBufSz - state.rdstat.dataSz) :
    InOrder cfg messages before (state.setVariables.received bytes) := by
  obtain ⟨⟨name, buffered⟩, -⟩ := room
  obtain ⟨todo, progress, -⟩ := waits.progress
  have holds : state.setVariables.Holds state.kept :=
    ⟨⟨name, buffered.layout⟩, rfl, waits.full, rfl⟩
  have positive := length_pos_iff.mpr notEmpty
  refine ⟨passes, ?_, ?_, _, todo, holds.received rfl fits, ?_⟩
  · show state.dbarr.dbonearr.length < maxDbOne
    rw [waits.none]
    decide
  · show 0 < state.rdstat.dataSz + bytes.length
    omega
  · refine ⟨progress.registered, progress.split, ?_⟩
    show state.kept ++ bytes ++ state.unread.drop bytes.length = todo.flatten
    obtain ⟨behind, split⟩ := front
    rw [← progress.stream, append_assoc, ← split, drop_left, split]
    rfl

lemma inOrder_receive (framed : ∀ message ∈ messages, IsFramed cfg message)
    (passes : Passes cfg messages state) (waits : Waits cfg messages before state)
    (room : state.HasRoom) (atRecv : state.pc = .recv) (result : RecvResult) :
    InOrder cfg messages before (state.receive cfg result) := by
  have synced : state.setVariables.HasRoom := ⟨room.1.imp fun _ buffer => { buffer with }, room.2⟩
  have ends : InOrder cfg messages before (state.setVariables.finish cfg) :=
    inOrder_finish framed { waits with } synced rfl
  have free : ¬state.setVariables.maxBufSz ≤ state.setVariables.dataSz := Nat.not_le.mpr room.2
  rw [receive, if_neg free]
  cases result with
  | got count =>
    rw [onResult]
    split
    · exact ends
    next some =>
    refine inOrder_received passes waits room some ⟨_, take_append_drop _ _⟩ ?_
    rw [length_take]
    exact (Nat.min_le_left _ _).trans (Nat.min_le_right _ _)
  | again => exact ends
  | intr =>
    obtain ⟨todo, progress, -⟩ := waits.progress
    rw [onResult, InOrder, show state.setVariables.pc = .recv from atRecv]
    exact ⟨progress.registered, passes, fun _ => ⟨{ waits with }, synced⟩⟩
  | error => trivial
  | eof => trivial

lemma InOrder.registered (inOrder : InOrder cfg messages before state) :
    state.pc = .failed ∨ state.isRegistered = true := by
  rw [InOrder] at inOrder
  cases atPc : state.pc with
  | returned totbytes =>
    rw [atPc] at inOrder
    obtain ⟨todo, progress, -⟩ := inOrder.1.progress
    exact Or.inr progress.registered
  | recv =>
    rw [atPc] at inOrder
    exact Or.inr inOrder.1
  | parse =>
    rw [atPc] at inOrder
    obtain ⟨-, -, -, part, todo, -, progress⟩ := inOrder
    exact Or.inr progress.registered
  | failed => exact Or.inl rfl
  | thrown error =>
    rw [atPc] at inOrder
    exact inOrder.elim

end Invariant

/-- `recv` is not called while a batch is open. -/
def RecvsWithoutBatch (state : RecvState) : RecvEvent → Prop
  | .recv _ => state.pc = .recv → state.dbarr.dbonearr = []
  | _ => True

instance (state : RecvState) : DecidablePred state.RecvsWithoutBatch
  | .recv _ => inferInstanceAs (Decidable (_ → _))
  | .call _ | .parse | .registered => isTrue trivial

/-- A call passes on messages of all kinds that occur. -/
def CallPasses (cfg : RecvConfig) (messages : List Bytes) : RecvEvent → Prop
  | .call isConnClosed => ∀ message ∈ messages, IsPassedOn cfg isConnClosed message
  | _ => True

/-- One event keeps what was scheduled and what waits in the order of the messages. -/
lemma inOrder_step {cfg : RecvConfig} {messages before : List Bytes}
    (framed : ∀ message ∈ messages, IsFramed cfg message) (state : RecvState)
    (event : RecvEvent) (inOrder : InOrder cfg messages before state)
    (guard : state.RecvsWithoutBatch event ∧ CallPasses cfg messages event) :
    InOrder cfg messages before (state.step cfg event) := by
  cases event with
  | registered =>
    rcases inOrder.registered with failed | registered
    · have stillFailed : (state.step cfg .registered).pc = .failed := failed
      rw [InOrder, stillFailed]
      trivial
    have same : state.step cfg .registered = state := by
      show { state with isRegistered := true } = state
      rw [← registered]
    rw [same]
    exact inOrder
  | call closed =>
    rw [step]
    cases atPc : state.pc with
    | returned totbytes =>
      rw [InOrder, atPc] at inOrder
      exact inOrder_begin closed guard.2 inOrder.1 inOrder.2
    | _ => exact inOrder
  | recv result =>
    rw [step]
    cases atPc : state.pc with
    | recv =>
      rw [InOrder, atPc] at inOrder
      obtain ⟨waits, room⟩ := inOrder.2.2 (guard.1 atPc)
      exact inOrder_receive framed inOrder.2.1 waits room atPc result
    | _ => exact inOrder
  | parse =>
    rw [step]
    cases atPc : state.pc with
    | parse =>
      rw [InOrder, atPc] at inOrder
      obtain ⟨passes, notFull, notEmpty, part, todo, holds, progress⟩ := inOrder
      exact inOrder_parseRound framed passes notFull notEmpty holds progress
    | _ => exact inOrder

/-- A registered connection between two calls, without a buffer. -/
structure IsIdle (state : RecvState) (messages : List Bytes) : Prop where
  returned : ∃ totbytes, state.pc = .returned totbytes
  registered : state.isRegistered = true
  noBuffer : state.rdstat.pdirbuf = none ∧ state.rdstat.dataSz = 0
  noBatch : state.dbarr.dbonearr = []
  unread : state.unread = messages.flatten

lemma IsIdle.inOrder {cfg : RecvConfig} {state : RecvState} {messages : List Bytes}
    (framed : ∀ message ∈ messages, IsFramed cfg message) (idle : state.IsIdle messages) :
    InOrder cfg messages state.handedMessages state := by
  obtain ⟨totbytes, returned⟩ := idle.returned
  have kept : state.kept = [] := by
    rw [RecvState.kept, idle.noBuffer.2, Heap.read, Bytes.slice_none]
  have progress : Progress cfg messages state.handedMessages state.ledger [] messages :=
    { registered := idle.registered
      split := by
        refine ⟨[], rfl, ?_⟩
        rw [map_nil, append_nil]
        exact scheduled_of_none state idle.noBatch
      stream := idle.unread }
  rw [InOrder, returned]
  refine ⟨⟨idle.noBatch, ?_, messages, ?_, fun next later split => ?_⟩, Or.inr idle.noBuffer⟩
  · rw [kept, idle.noBuffer.2]
    rfl
  · rw [kept]
    exact progress
  · rw [kept]
    exact progress.next_length_pos framed split

end RecvState

open RecvState

/-- As long as `recv` is not called while a batch is open, a call that returns has handed
over exactly the complete messages received, and keeps the received part of the next. -/
theorem messages_passed_on_in_order (cfg : RecvConfig) (start : RecvState)
    (messages : List Bytes) (idle : start.IsIdle messages)
    (framed : ∀ message ∈ messages, IsFramed cfg message) (events : List RecvEvent)
    (passes : ∀ event ∈ events, CallPasses cfg messages event)
    (guarded : Machine.Guarded (step cfg) RecvsWithoutBatch start events) (totbytes : Nat)
    (returned : (run cfg start events).pc = .returned totbytes) :
    (run cfg start events).handedMessages = start.handedMessages ++ (Frames.complete messages
            (messages.flatten.length - (run cfg start events).unread.length)).map
            (scheduledBytes cfg) ∧ (run cfg start events).kept = Frames.rest messages
          (messages.flatten.length - (run cfg start events).unread.length) := by
  have inOrder : InOrder cfg messages start.handedMessages (run cfg start events) :=
    (guarded.and_forall passes).invariant (inOrder_step framed) (idle.inOrder framed)
  rw [InOrder, returned] at inOrder
  obtain ⟨none, full, todo, progress, short⟩ := inOrder.1
  obtain ⟨done, all, sent⟩ := progress.split
  have isRest : Frames.IsRest todo (run cfg start events).kept :=
    ⟨⟨_, progress.stream⟩, short⟩
  have count : messages.flatten.length - (run cfg start events).unread.length =
      done.flatten.length + (run cfg start events).kept.length := by
    rw [all, flatten_append, ← progress.stream, length_append, length_append]
    show _ + (_ + (run cfg start events).unread.length) - _ = _
    omega
  have complete : (run cfg start events).handedMessages =
      start.handedMessages ++ done.map (scheduledBytes cfg) := by
    rw [← sent]
    exact (scheduled_of_none _ none).symm
  rw [count, all, (Frames.append_spec isRest).1, (Frames.append_spec isRest).2]
  exact ⟨complete, rfl⟩

theorem recv_never_throws (cfg : RecvConfig) (start : RecvState) (messages : List Bytes)
    (idle : start.IsIdle messages) (framed : ∀ message ∈ messages, IsFramed cfg message)
    (events : List RecvEvent) (passes : ∀ event ∈ events, CallPasses cfg messages event)
    (guarded : Machine.Guarded (step cfg) RecvsWithoutBatch start events) (error : RecvError) :
    (run cfg start events).pc ≠ .thrown error := by
  intro thrown
  have inOrder : InOrder cfg messages start.handedMessages (run cfg start events) :=
    (guarded.and_forall passes).invariant (inOrder_step framed) (idle.inOrder framed)
  rw [InOrder, thrown] at inOrder
  exact inOrder

/-! ## Queries of a web server -/

/-- A connection from a web server, with an allocator that returns just what is requested. -/
def nodeConfig : RecvConfig where
  magic := .nmHdr
  hostType := .nodeWeb
  reqOnly := false
  notifyCheck _ _ := none
  notifyCheck_length := nofun
  queryCheck _ := false
  respCheck _ := false
  registerCheck _ _ := false
  actSize _ request := request
  actSize_le _ request := Nat.le_refl request

/-- A `QUERY_WEB_JSON` message of the given size, with blanks for its text. -/
def webQuery (totalSz : Nat) : Bytes :=
  CommHeader.toBytes
      { magic := HdrMagic.nmHdr.code
        totalSz := totalSz
        dataType := CommType.queryCmd.code
        paddingSz := 0 } ++
    (.ofNat 8 1 ++ .ofNat 8 0 ++ .ofNat 4 1 ++ .ofNat 4 0) ++
    List.replicate (totalSz - 40) 32

lemma isIdle_init (messages : List Bytes) :
    (RecvState.init true messages.flatten).IsIdle messages where
  returned := ⟨0, rfl⟩
  registered := rfl
  noBuffer := ⟨rfl, rfl⟩
  noBatch := rfl
  unread := rfl

/-- Two queries, of which the second one arrives in two parts. -/
theorem query_and_part_in_order : (run nodeConfig (.init true [webQuery 40, webQuery 48].flatten)
        [.call false, .recv (.got 60), .parse, .parse]).handedMessages = [webQuery 40] ∧
      (run nodeConfig (.init true [webQuery 40, webQuery 48].flatten)
        [.call false, .recv (.got 60), .parse, .parse]).kept = (webQuery 48).take 20 := by
  have framed : ∀ message ∈ [webQuery 40, webQuery 48], IsFramed nodeConfig message := by
    rw [forall_mem_cons, forall_mem_singleton]
    exact ⟨⟨by decide +kernel, by decide +kernel⟩, by decide +kernel, by decide +kernel⟩
  have passed : ∀ message ∈ [webQuery 40, webQuery 48], IsPassedOn nodeConfig false message := by
    rw [forall_mem_cons, forall_mem_singleton]
    exact ⟨⟨.dbRd, webQuery 40, by decide +kernel⟩, .dbRd, webQuery 48, by decide +kernel⟩
  have passes : ∀ event ∈ [RecvEvent.call false, .recv (.got 60), .parse, .parse],
      CallPasses nodeConfig [webQuery 40, webQuery 48] event := by
    intro event mem
    cases event with
    | call closed =>
      have sameFlag : closed = false := by simpa using mem
      rw [sameFlag]
      exact passed
    | _ => trivial
  have delivered := messages_passed_on_in_order nodeConfig
    (.init true [webQuery 40, webQuery 48].flatten) [webQuery 40, webQuery 48]
    (isIdle_init _) framed [.call false, .recv (.got 60), .parse, .parse] passes
    (by decide +kernel) 60 (by decide +kernel)
  refine ⟨delivered.1.trans ?_, delivered.2.trans ?_⟩ <;> decide +kernel

theorem query_never_throws : (run nodeConfig (.init true [webQuery 40].flatten)
      [.call false, .recv (.got 40), .parse]).pc ≠ .thrown .invalidMessage := by
  have passed : IsPassedOn nodeConfig false (webQuery 40) :=
    ⟨.dbRd, webQuery 40, by decide +kernel⟩
  exact recv_never_throws nodeConfig _ [webQuery 40] (isIdle_init _)
    (forall_mem_singleton.2 ⟨by decide +kernel, by decide +kernel⟩) _
    (by simp [CallPasses, passed]) (by decide +kernel) _

/-- Two queries that fill the buffer.  The second one is in the open batch when `recv` is
called again, and `set_variables` goes back to its start. -/
theorem query_kept_after_hand_over :
    (∀ message ∈ [webQuery 2048, webQuery 2048], IsFramed nodeConfig message) ∧
      IsPassedOn nodeConfig false (webQuery 2048) ∧
      (run nodeConfig (.init true [webQuery 2048, webQuery 2048].flatten)
        [.call false, .recv (.got 4096), .parse, .parse, .recv .again]).pc = .returned 4096 ∧
      (run nodeConfig (.init true [webQuery 2048, webQuery 2048].flatten)
        [.call false, .recv (.got 4096), .parse, .parse, .recv .again]).kept = webQuery 2048 ∧
      Frames.rest [webQuery 2048, webQuery 2048] 4096 = [] := by
  have framed : IsFramed nodeConfig (webQuery 2048) := ⟨by decide +kernel, by decide +kernel⟩
  rw [forall_mem_cons, forall_mem_singleton]
  exact ⟨⟨framed, framed⟩, ⟨.dbRd, webQuery 2048, by decide +kernel⟩, by decide +kernel⟩

end Gyeeta.Conn
