import Gyeeta.Conn.Recv

/-!
# The receive buffer

The operations on the receive buffer keep the connection's fields and the local variables
of `handle_recv` in step: `Layout` relates the two, and each operation says which bytes
are at `prdbuf` afterwards.
-/

namespace Gyeeta.Conn

open List

open Comm

namespace RecvState

/-- The local variables describe the tail of the buffer that the fields describe. -/
structure Layout (state : RecvState) (name : Nat) : Prop where
  pdirbuf : state.rdstat.pdirbuf = some name
  known : name < state.heap.length
  block : state.prdbuf.block = some name
  room : state.prdbuf.off + state.maxBufSz = state.rdstat.maxBufSz
  data : state.prdbuf.off + state.dataSz = state.rdstat.dataSz
  fits : state.dataSz ≤ state.maxBufSz

/-- The fields describe a buffer. -/
structure Buffered (state : RecvState) (name : Nat) : Prop where
  pdirbuf : state.rdstat.pdirbuf = some name
  known : name < state.heap.length
  fits : state.rdstat.dataSz ≤ state.rdstat.maxBufSz

variable {cfg : RecvConfig} {state : RecvState} {name request count : Nat}

/-! ## A new buffer -/

lemma replaceBuf_eq (cfg : RecvConfig) (request count : Nat) (state : RecvState) :
    state.replaceBuf cfg request count = { state with
        heap := state.heap.alloc (cfg.actSize state.heap.length request)
          (state.heap.read state.prdbuf count)
        rdstat :=
          { state.rdstat with
            pdirbuf := some state.heap.length
            maxBufSz := cfg.actSize state.heap.length request
            dataSz := count }
        maxBufSz := cfg.actSize state.heap.length request
        dataSz := count
        prdbuf := ⟨some state.heap.length, 0⟩
        handed := state.handed ++ if state.dbarr.dbonearr = [] then [] else [state.dbarr]
        dbarr :=
          if state.dbarr.dbonearr = [] then state.dbarr
          else { state.dbarr with dbonearr := [], pbufstart := none } } := by
  rw [replaceBuf]
  by_cases none : state.dbarr.dbonearr = []
  · simp only [if_pos none, append_nil]
    rfl
  · simp only [if_neg none]
    rfl

@[simp] lemma replaceBuf_totalSz :
    (state.replaceBuf cfg request count).totalSz = state.totalSz := by
  rw [replaceBuf_eq]

@[simp] lemma replaceBuf_dataSz : (state.replaceBuf cfg request count).dataSz = count := by
  rw [replaceBuf_eq]

@[simp] lemma replaceBuf_prdbuf :
    (state.replaceBuf cfg request count).prdbuf = ⟨some state.heap.length, 0⟩ := by
  rw [replaceBuf_eq]

@[simp] lemma replaceBuf_pdirbuf :
    (state.replaceBuf cfg request count).rdstat.pdirbuf = some state.heap.length := by
  rw [replaceBuf_eq]

@[simp] lemma replaceBuf_dbonearr : (state.replaceBuf cfg request count).dbarr.dbonearr = [] := by
  rw [replaceBuf_eq]
  dsimp only
  split <;> trivial

lemma request_le_replaceBuf : request ≤ (state.replaceBuf cfg request count).maxBufSz := by
  rw [replaceBuf_eq]
  exact cfg.actSize_le _ _

lemma layout_replaceBuf (enough : count ≤ request) :
    (state.replaceBuf cfg request count).Layout state.heap.length where
  pdirbuf := replaceBuf_pdirbuf
  known := by
    rw [replaceBuf_eq, Heap.length_alloc]
    exact Nat.lt_succ_self _
  block := by rw [replaceBuf_prdbuf]
  room := by
    rw [replaceBuf_eq]
    exact Nat.zero_add _
  data := by
    rw [replaceBuf_eq]
    exact Nat.zero_add _
  fits := by
    rw [replaceBuf_dataSz]
    exact enough.trans request_le_replaceBuf

lemma pending_replaceBuf :
    (state.replaceBuf cfg request count).pending = state.heap.read state.prdbuf count := by
  rw [pending, replaceBuf_dataSz, replaceBuf_prdbuf, replaceBuf_eq, Heap.read,
    Heap.bytesOf_alloc_new, Bytes.slice_zero]
  refine take_of_length_le ?_
  rw [Heap.length_read]
  exact Nat.min_le_left _ _

/-! ## The start of the buffer -/

lemma Buffered.layout (buffered : state.Buffered name) : state.setVariables.Layout name :=
  { buffered with
    block := buffered.pdirbuf
    room := Nat.zero_add _
    data := Nat.zero_add _ }

section

variable (layout : state.Layout name)
include layout

lemma Layout.buffered : state.Buffered name :=
  { layout with
    fits := by
      have room := layout.room
      have data := layout.data
      have fits := layout.fits
      omega }

lemma Layout.kept_eq
    (start : state.dataSz = state.rdstat.dataSz) : state.kept = state.pending := by
  have data := layout.data
  have off : state.prdbuf.off = 0 := by omega
  rw [kept, pending, start, layout.pdirbuf, ← layout.block, ← off]

lemma Layout.moveToStart : state.moveToStart.Layout name where
  pdirbuf := layout.pdirbuf
  known := by
    show name < (state.heap.write _ _).length
    rw [Heap.length_write]
    exact layout.known
  block := layout.pdirbuf
  room := Nat.zero_add _
  data := Nat.zero_add _
  fits := by
    show state.dataSz ≤ state.rdstat.maxBufSz
    have room := layout.room
    have fits := layout.fits
    omega

lemma Layout.pending_moveToStart
    (full : state.pending.length = state.dataSz) : state.moveToStart.pending = state.pending := by
  show Heap.read (state.heap.write ⟨state.rdstat.pdirbuf, 0⟩ state.pending)
    ⟨state.rdstat.pdirbuf, 0⟩ state.dataSz = state.pending
  rw [Heap.read, layout.pdirbuf, Heap.bytesOf_write rfl layout.known, Bytes.slice_zero,
    Bytes.write, take_zero, nil_append, ← full, take_left]

end

/-! ## Messages -/

lemma pending_eq (complete : state.totalSz ≤ state.dataSz) : state.pending =
      state.message ++ state.heap.read (state.prdbuf.add state.totalSz)
        (state.dataSz - state.totalSz) :=
  Heap.read_add _ _ complete

lemma Layout.overwrite (layout : state.Layout name) (content : Bytes) :
    (state.overwrite content).Layout name :=
  { layout with
    known := by
      show name < (state.heap.write _ _).length
      rw [Heap.length_write]
      exact layout.known }

lemma Layout.pending_overwrite (layout : state.Layout name) {content : Bytes}
    (full : state.pending.length = state.dataSz) (notEmpty : 0 < state.dataSz)
    (same : content.length = state.totalSz) (complete : state.totalSz ≤ state.dataSz) :
    (state.overwrite content).pending = content ++ state.heap.read (state.prdbuf.add state.totalSz)
        (state.dataSz - state.totalSz) := by
  rw [← same] at complete ⊢
  exact Heap.read_write_over layout.block layout.known complete (Heap.inside_of_read full notEmpty)

lemma Layout.skipMessage (layout : state.Layout name) (notEmpty : 0 < state.dataSz)
    (complete : state.totalSz ≤ state.dataSz) : state.skipMessage.Layout name := by
  rw [RecvState.skipMessage, if_neg (Nat.ne_of_gt notEmpty)]
  have room := layout.room
  have data := layout.data
  have fits := layout.fits
  exact
    { pdirbuf := layout.pdirbuf
      known := layout.known
      block := layout.block
      room := by
        show state.prdbuf.off + state.totalSz + (state.maxBufSz - state.totalSz) =
          state.rdstat.maxBufSz
        omega
      data := by
        show state.prdbuf.off + state.totalSz + (state.dataSz - state.totalSz) =
          state.rdstat.dataSz
        omega
      fits := Nat.sub_le_sub_right fits _ }

/-! ## The bytes to handle -/

/-- The bytes at `prdbuf` are the given ones. -/
structure Holds (state : RecvState) (bytes : Bytes) : Prop where
  layout : ∃ name, state.Layout name
  pending : state.pending = bytes
  length : bytes.length = state.dataSz
  aligned : state.prdbuf.off % 8 = 0

variable {bytes content behind : Bytes}

lemma Holds.full (holds : state.Holds bytes) : state.pending.length = state.dataSz := by
  rw [holds.pending, holds.length]

lemma Holds.replaceBuf (holds : state.Holds bytes) (enough : state.dataSz ≤ request) :
    (state.replaceBuf cfg request state.dataSz).Holds bytes where
  layout := ⟨_, layout_replaceBuf enough⟩
  pending := pending_replaceBuf.trans holds.pending
  length := by rw [replaceBuf_dataSz, holds.length]
  aligned := by
    rw [replaceBuf_prdbuf]
    rfl

lemma Holds.moveToStart (holds : state.Holds bytes) : state.moveToStart.Holds bytes := by
  obtain ⟨name, layout⟩ := holds.layout
  exact
    { layout := ⟨name, layout.moveToStart⟩
      pending := (layout.pending_moveToStart holds.full).trans holds.pending
      length := holds.length
      aligned := rfl }

section

variable (holds : state.Holds (bytes ++ behind)) (notEmpty : 0 < state.dataSz)
  (size : bytes.length = state.totalSz)
include holds notEmpty size

lemma Holds.split : state.totalSz ≤ state.dataSz ∧ bytes = state.message ∧
      behind = state.heap.read (state.prdbuf.add state.totalSz) (state.dataSz - state.totalSz) := by
  have lengths := holds.length
  rw [length_append] at lengths
  have complete : state.totalSz ≤ state.dataSz := by omega
  have inside := Heap.inside_of_read holds.full notEmpty
  have split := pending_eq complete
  rw [holds.pending] at split
  have messageLength : bytes.length = state.message.length := by
    rw [size, message, Heap.length_read]
    omega
  exact ⟨complete, append_inj split messageLength⟩

lemma Holds.overwrite (same : content.length = bytes.length) :
    (state.overwrite content).Holds (content ++ behind) := by
  obtain ⟨name, layout⟩ := holds.layout
  obtain ⟨complete, -, behindEq⟩ := holds.split notEmpty size
  exact
    { layout := ⟨name, layout.overwrite content⟩
      pending := by
        rw [layout.pending_overwrite holds.full notEmpty (same.trans size) complete, ← behindEq]
      length := by
        rw [length_append, same, ← length_append, holds.length]
        rfl
      aligned := holds.aligned }

end

lemma Holds.skipMessage (holds : state.Holds (content ++ behind))
    (notEmpty : 0 < state.dataSz) (size : content.length = state.totalSz)
    (aligned : state.totalSz % 8 = 0) : state.skipMessage.Holds behind := by
  obtain ⟨name, layout⟩ := holds.layout
  obtain ⟨complete, -, behindEq⟩ := holds.split notEmpty size
  have lengths := holds.length
  have start := holds.aligned
  rw [length_append] at lengths
  refine ⟨⟨name, layout.skipMessage notEmpty complete⟩, ?_, ?_, ?_⟩ <;>
    rw [RecvState.skipMessage, if_neg (Nat.ne_of_gt notEmpty)]
  · exact behindEq.symm
  · show behind.length = state.dataSz - state.totalSz
    omega
  · show (state.prdbuf.off + state.totalSz) % 8 = 0
    omega

section

variable (holds : state.Holds bytes)
include holds

lemma Holds.countRequest : state.countRequest.Holds bytes := by
  obtain ⟨name, layout⟩ := holds.layout
  exact ⟨⟨name, { layout with }⟩, holds.pending, holds.length, holds.aligned⟩

lemma Holds.setPc (pc : Pc) : { state with pc := pc }.Holds bytes := by
  obtain ⟨name, layout⟩ := holds.layout
  exact ⟨⟨name, { layout with }⟩, holds.pending, holds.length, holds.aligned⟩

lemma Holds.setTotalSz (totalSz : Nat) : { state with totalSz := totalSz }.Holds bytes := by
  obtain ⟨name, layout⟩ := holds.layout
  exact ⟨⟨name, { layout with }⟩, holds.pending, holds.length, holds.aligned⟩

lemma Holds.pushBatch (dest : L2Type) (pwrbuf : Ptr)
    (content : Bytes) : (state.pushBatch dest pwrbuf content).Holds bytes := by
  obtain ⟨name, layout⟩ := holds.layout
  rw [RecvState.pushBatch]
  split <;> exact ⟨⟨name, { layout with }⟩, holds.pending, holds.length, holds.aligned⟩

lemma Holds.switchBatch (cfg : RecvConfig) (dest : L2Type)
    (complete : state.totalSz ≤ state.dataSz) : (state.switchBatch cfg dest).Holds bytes := by
  rw [RecvState.switchBatch]
  split
  · rw [Nat.max_eq_right complete]
    exact holds.replaceBuf (Nat.le_max_right _ _)
  · exact holds

lemma Holds.makeRoom (cfg : RecvConfig) : (state.makeRoom cfg).Holds bytes := by
  rw [RecvState.makeRoom]
  split
  · exact holds.replaceBuf (by omega)
  · exact holds

lemma Holds.keepIncomplete : state.keepIncomplete.Holds bytes := by
  rw [RecvState.keepIncomplete]
  split
  · exact holds.moveToStart
  · exact holds

lemma Holds.kept (start : state.dataSz = state.rdstat.dataSz) : state.kept = bytes := by
  obtain ⟨name, layout⟩ := holds.layout
  rw [layout.kept_eq start, holds.pending]

end

/-! ## Filling the buffer -/

lemma seePending_fst (state : RecvState) (nbytes : Nat) :
    ∃ pendingSz, (state.seePending nbytes).1 = { state.rdstat with pendingSz := pendingSz } := by
  rw [seePending]
  split
  · simp only [RdStat.pendingRecvSeen]
    split
    · exact ⟨state.rdstat.pendingSz, rfl⟩
    · split
      · exact ⟨0, rfl⟩
      · exact ⟨_, rfl⟩
  · exact ⟨state.rdstat.pendingSz, rfl⟩

lemma Layout.received (layout : state.Layout name)
    (fits : bytes.length ≤ state.maxBufSz - state.dataSz) : (state.received bytes).Layout name := by
  obtain ⟨pendingSz, seen⟩ := state.seePending_fst bytes.length
  have room := layout.room
  have data := layout.data
  have inside := layout.fits
  refine ⟨?_, ?_, layout.block, ?_, ?_, ?_⟩
  · show (state.seePending bytes.length).1.pdirbuf = some name
    rw [seen]
    exact layout.pdirbuf
  · show name < (state.heap.write _ _).length
    rw [Heap.length_write]
    exact layout.known
  · show state.prdbuf.off + state.maxBufSz = (state.seePending bytes.length).1.maxBufSz
    rw [seen]
    exact room
  · show state.prdbuf.off + (state.dataSz + bytes.length) =
      (state.seePending bytes.length).1.dataSz + bytes.length
    rw [seen, ← Nat.add_assoc, data]
  · show state.dataSz + bytes.length ≤ state.maxBufSz
    omega

lemma Holds.received (holds : state.Holds content) (start : state.prdbuf.off = 0)
    (fits : bytes.length ≤ state.maxBufSz - state.dataSz) :
    (state.received bytes).Holds (content ++ bytes) := by
  obtain ⟨name, layout⟩ := holds.layout
  have full := holds.full
  rw [RecvState.pending, Heap.length_read] at full
  refine ⟨⟨name, layout.received fits⟩, ?_, ?_, holds.aligned⟩
  · show Heap.read (state.heap.write (state.prdbuf.add state.dataSz) bytes) state.prdbuf
      (state.dataSz + bytes.length) = content ++ bytes
    rw [Heap.read_write_behind layout.block layout.known (by omega), ← holds.pending]
    rfl
  · show (content ++ bytes).length = state.dataSz + bytes.length
    rw [length_append, holds.length]

lemma ensureBuf_cases (cfg : RecvConfig) (state : RecvState) :
    (state.rdstat.pdirbuf ≠ none ∧ state.ensureBuf cfg = state) ∨
    (state.rdstat.pdirbuf = none ∧ state.ensureBuf cfg = state.newBuf cfg minBufSz 0 []) := by
  rw [ensureBuf]
  split
  next none =>
    exact Or.inr ⟨none, rfl⟩
  next buffer =>
    exact Or.inl ⟨buffer, rfl⟩

lemma buffered_newBuf (enough : count ≤ request) (content : Bytes) :
    (state.newBuf cfg request count content).Buffered state.heap.length where
  pdirbuf := rfl
  known := by
    show state.heap.length < (state.heap.alloc _ _).length
    rw [Heap.length_alloc]
    exact Nat.lt_succ_self _
  fits := enough.trans (cfg.actSize_le _ _)

/-- What `set_buf` checks: no data is left of the buffer before, and the data fits. -/
lemma setBuf_accepts (enough : count ≤ request) (content : Bytes) :
    let released := if state.dbarr.dbonearr = [] then state.resetBuf else state.handOver
    released.rdstat.dataSz = 0 ∧
      (released.newBuf cfg request count content).rdstat.dataSz ≤
        (released.newBuf cfg request count content).rdstat.maxBufSz := by
  refine ⟨?_, (buffered_newBuf enough content).fits⟩
  split <;> rfl

/-! ## Ways to leave a buffer -/

@[simp] lemma makeRoom_totalSz : (state.makeRoom cfg).totalSz = state.totalSz := by
  rw [RecvState.makeRoom]
  split
  · exact replaceBuf_totalSz
  · rfl

@[simp] lemma makeRoom_dataSz : (state.makeRoom cfg).dataSz = state.dataSz := by
  rw [RecvState.makeRoom]
  split
  · exact replaceBuf_dataSz
  · rfl

lemma makeRoom_incomplete (cfg : RecvConfig) (incomplete : state.dataSz < state.totalSz) :
    (state.makeRoom cfg).dbarr.dbonearr = [] ∧ state.totalSz ≤ (state.makeRoom cfg).maxBufSz := by
  rw [RecvState.makeRoom]
  split
  · refine ⟨replaceBuf_dbonearr, Nat.le_trans ?_ request_le_replaceBuf⟩
    omega
  next room =>
    push Not at room
    exact ⟨room.1 incomplete, room.2⟩

lemma makeRoom_complete (fits : state.dataSz ≤ state.maxBufSz)
    (complete : state.totalSz ≤ state.dataSz) : state.makeRoom cfg = state := by
  rw [RecvState.makeRoom, if_neg (by omega)]

lemma keepIncomplete_start (state : RecvState) :
    state.keepIncomplete.dataSz = state.keepIncomplete.rdstat.dataSz ∧
    state.keepIncomplete.rdstat.maxBufSz = state.rdstat.maxBufSz ∧
    state.keepIncomplete.dataSz = state.dataSz ∧ state.keepIncomplete.dbarr = state.dbarr := by
  rw [RecvState.keepIncomplete]
  split
  · exact ⟨rfl, rfl, rfl, rfl⟩
  next same =>
    exact ⟨not_not.mp same, rfl, rfl, rfl⟩

lemma switchBatch_totalSz (dest : L2Type) :
    (state.switchBatch cfg dest).totalSz = state.totalSz := by
  rw [RecvState.switchBatch]
  split
  · exact replaceBuf_totalSz
  · rfl

lemma switchBatch_dbonearr (cfg : RecvConfig) (state : RecvState) (dest : L2Type) :
    (state.switchBatch cfg dest).dbarr.dbonearr = [] ∨
      (state.switchBatch cfg dest).dbarr = state.dbarr := by
  rw [RecvState.switchBatch]
  split
  · exact Or.inl replaceBuf_dbonearr
  · exact Or.inr rfl

@[simp] lemma pushBatch_totalSz (dest : L2Type) (pwrbuf : Ptr) (content : Bytes) :
    (state.pushBatch dest pwrbuf content).totalSz = state.totalSz := by
  rw [RecvState.pushBatch]
  split <;> rfl

lemma pushBatch_length (dest : L2Type) (pwrbuf : Ptr) (content : Bytes) :
    (state.pushBatch dest pwrbuf content).dbarr.dbonearr.length =
      state.dbarr.dbonearr.length + 1 := by
  rw [RecvState.pushBatch]
  split
  next none =>
    simp [none]
  · simp

@[simp] lemma skipMessage_dbarr : state.skipMessage.dbarr = state.dbarr := by
  rw [RecvState.skipMessage]
  split <;> rfl

lemma flushFull_cases (cfg : RecvConfig) (state : RecvState) :
    (state.dbarr.dbonearr ≠ [] ∧ ∃ request, state.dataSz ≤ request ∧ 0 < request ∧
      state.flushFull cfg = state.replaceBuf cfg request state.dataSz) ∨
    (state.dbarr.dbonearr ≠ [] ∧ state.isAgain = true ∧ state.dataSz = 0 ∧
      state.flushFull cfg = state.handOver) ∨
    (state.dbarr.dbonearr = [] ∧ state.flushFull cfg = state.moveToStart) ∨
    (state.dbarr.dbonearr.length ≠ maxDbOne ∧ state.flushFull cfg = state) := by
  rw [flushFull]
  split
  next flush =>
    have batch : state.dbarr.dbonearr ≠ [] := by
      rintro none
      rw [none] at flush
      simp [maxDbOne] at flush
    split
    · have enough : state.dataSz ≤
          (if minBufSz < state.dataSz then state.dataSz + 1024 else minBufSz) ∧
          0 < (if minBufSz < state.dataSz then state.dataSz + 1024 else minBufSz) := by
        split <;> simp only [minBufSz] at * <;> omega
      exact Or.inl ⟨batch, _, enough.1, enough.2, rfl⟩
    next last =>
      push Not at last
      exact Or.inr (Or.inl ⟨batch, last.1, by omega, rfl⟩)
  next noFlush =>
  push Not at noFlush
  split
  next moved =>
    have none : state.dbarr.dbonearr = [] := by
      by_contra batch
      exact absurd moved.2 (Nat.not_lt.mpr (noFlush.2 batch))
    exact Or.inr (Or.inr (Or.inl ⟨none, rfl⟩))
  · exact Or.inr (Or.inr (Or.inr ⟨noFlush.1, rfl⟩))

end RecvState

end Gyeeta.Conn
