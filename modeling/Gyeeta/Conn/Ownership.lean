import Gyeeta.Conn.InOrder

/-!
# Owners of the receive buffers

An array handed to `send_db_array` owns the buffer that its messages lie in.  This module shows
when `handle_recv` keeps that: every message of a handed array lies in the array's own buffer,
and a buffer has one owner.
-/

namespace Gyeeta.Conn

open List Heap

open Comm

/-- The array owns the named block, and all its messages lie in it. -/
structure DbWriteArr.CoveredBy (arr : DbWriteArr) (heap : Heap) (name : Nat) : Prop where
  owner : arr.pbufstart = some name
  known : name < heap.length
  inside : ∀ one ∈ arr.dbonearr,
    one.pwrbuf.block = some name ∧ one.pwrbuf.off + one.wrlen ≤ heap.capOf name

variable {arr : DbWriteArr} {heap : Heap} {name : Nat}

lemma DbWriteArr.CoveredBy.write (covered : arr.CoveredBy heap name) (ptr : Ptr) (content : Bytes) :
    arr.CoveredBy (heap.write ptr content) name where
  owner := covered.owner
  known := by
    rw [length_write]
    exact covered.known
  inside := by
    intro one mem
    rw [capOf_write]
    exact covered.inside one mem

lemma DbWriteArr.CoveredBy.alloc (covered : arr.CoveredBy heap name) (cap : Nat) (content : Bytes) :
    arr.CoveredBy (heap.alloc cap content) name where
  owner := covered.owner
  known := by
    rw [length_alloc]
    exact Nat.lt_succ_of_lt covered.known
  inside := by
    intro one mem
    rw [capOf_alloc covered.known]
    exact covered.inside one mem

namespace RecvState

/-- Every array covers its messages, and every buffer has one owner. -/
structure OwnsBuffers (state : RecvState) : Prop where
  covered : ∀ arr ∈ state.handed, ∃ name, arr.CoveredBy state.heap name
  distinct : (state.handed.map DbWriteArr.pbufstart).Nodup
  apart : ∀ arr ∈ state.handed, arr.pbufstart ≠ state.rdstat.pdirbuf

/-- The buffers of the connection and its batch are in order. -/
structure Tidy (state : RecvState) : Prop where
  owns : state.OwnsBuffers
  known : ∀ name, state.rdstat.pdirbuf = some name → name < state.heap.length
  fits : state.rdstat.dataSz ≤ state.rdstat.maxBufSz
  cap : ∀ name, state.rdstat.pdirbuf = some name →
    state.rdstat.maxBufSz = state.heap.capOf name
  batch : state.dbarr.dbonearr ≠ [] → ∃ name, state.rdstat.pdirbuf = some name ∧
    state.dbarr.CoveredBy state.heap name
  noBuffer : state.rdstat.pdirbuf = none → state.rdstat.maxBufSz = 0

variable {cfg : RecvConfig} {state : RecvState} {name request count : Nat}

/-! ## What the operations keep -/

section

variable (tidy : state.Tidy)
include tidy

lemma Tidy.handOver (batch : state.dbarr.dbonearr ≠ []) : state.handOver.Tidy := by
  obtain ⟨name, pdirbuf, covered⟩ := tidy.batch batch
  exact
    { owns :=
        { covered := by
            show ∀ arr ∈ state.handed ++ [state.dbarr], _
            rw [forall_mem_append, forall_mem_singleton]
            exact ⟨tidy.owns.covered, name, covered⟩
          distinct := by
            show ((state.handed ++ [state.dbarr]).map DbWriteArr.pbufstart).Nodup
            rw [map_append, nodup_append]
            refine ⟨tidy.owns.distinct, pairwise_singleton _ _, ?_⟩
            rintro _ mem _ last rfl
            obtain ⟨arr, handed, same⟩ := mem_map.mp mem
            refine tidy.owns.apart arr handed ?_
            rw [same, mem_singleton.mp last, covered.owner, pdirbuf]
          apart := by
            show ∀ arr ∈ state.handed ++ [state.dbarr], arr.pbufstart ≠ none
            intro arr mem
            obtain ⟨name, covered⟩ : ∃ name, arr.CoveredBy state.heap name := by
              rcases mem_append.mp mem with handed | last
              · exact tidy.owns.covered arr handed
              · rw [mem_singleton.mp last]
                exact ⟨name, covered⟩
            rw [covered.owner]
            nofun }
      known := nofun
      fits := Nat.le_refl 0
      cap := nofun
      batch := fun none => absurd rfl none
      noBuffer := fun _ => rfl }

lemma Tidy.resetBuf (none : state.dbarr.dbonearr = []) : state.resetBuf.Tidy where
  owns :=
    { covered := tidy.owns.covered
      distinct := tidy.owns.distinct
      apart := by
        intro arr mem
        obtain ⟨name, covered⟩ := tidy.owns.covered arr mem
        rw [covered.owner]
        nofun }
  known := nofun
  fits := Nat.le_refl 0
  cap := nofun
  batch := fun batch => absurd none batch
  noBuffer := fun _ => rfl

lemma Tidy.newBuf (none : state.dbarr.dbonearr = [])
    (enough : count ≤ request) (content : Bytes) :
    (state.newBuf cfg request count content).Tidy where
  owns :=
    { covered := by
        intro arr mem
        obtain ⟨name, covered⟩ := tidy.owns.covered arr mem
        exact ⟨name, covered.alloc _ _⟩
      distinct := tidy.owns.distinct
      apart := by
        intro arr mem same
        obtain ⟨name, covered⟩ := tidy.owns.covered arr mem
        have fresh : some name = some state.heap.length := covered.owner.symm.trans same
        rw [Option.some.injEq] at fresh
        exact absurd covered.known (by omega) }
  known := by
    rintro _ ⟨⟩
    exact (buffered_newBuf enough content).known
  fits := enough.trans (cfg.actSize_le _ _)
  cap := by
    rintro _ ⟨⟩
    exact (capOf_alloc_new _ _ _).symm
  batch := fun batch => absurd none batch
  noBuffer := nofun

lemma Tidy.setVariables : state.setVariables.Tidy :=
  { tidy with owns := { tidy.owns with } }

lemma Tidy.replaceBuf (enough : count ≤ request) : (state.replaceBuf cfg request count).Tidy := by
  rw [RecvState.replaceBuf]
  refine Tidy.setVariables ?_
  split
  next none =>
    exact (tidy.resetBuf none).newBuf none enough _
  next batch =>
    exact (tidy.handOver batch).newBuf rfl enough _

lemma Tidy.write (ptr : Ptr) (content : Bytes) :
    { state with heap := state.heap.write ptr content }.Tidy where
  owns :=
    { covered := by
        intro arr mem
        obtain ⟨name, covered⟩ := tidy.owns.covered arr mem
        exact ⟨name, covered.write ptr content⟩
      distinct := tidy.owns.distinct
      apart := tidy.owns.apart }
  known := by
    intro name pdirbuf
    rw [length_write]
    exact tidy.known name pdirbuf
  fits := tidy.fits
  cap := by
    intro name pdirbuf
    rw [capOf_write]
    exact tidy.cap name pdirbuf
  batch := by
    intro batch
    obtain ⟨name, pdirbuf, covered⟩ := tidy.batch batch
    exact ⟨name, pdirbuf, covered.write ptr content⟩
  noBuffer := tidy.noBuffer

lemma Tidy.setRdStat (rdstat : RdStat) (pdirbuf : rdstat.pdirbuf = state.rdstat.pdirbuf)
    (maxBufSz : rdstat.maxBufSz = state.rdstat.maxBufSz)
    (fits : rdstat.dataSz ≤ rdstat.maxBufSz) : { state with rdstat := rdstat }.Tidy where
  owns :=
    { covered := tidy.owns.covered
      distinct := tidy.owns.distinct
      apart := by
        intro arr mem
        rw [show arr.pbufstart ≠ rdstat.pdirbuf ↔ _ by rw [pdirbuf]]
        exact tidy.owns.apart arr mem }
  known := by
    intro name same
    exact tidy.known name (pdirbuf.symm.trans same)
  fits := fits
  cap := by
    intro name same
    exact maxBufSz.trans (tidy.cap name (pdirbuf.symm.trans same))
  batch := by
    intro batch
    obtain ⟨name, same, covered⟩ := tidy.batch batch
    exact ⟨name, pdirbuf.trans same, covered⟩
  noBuffer := by
    intro none
    exact maxBufSz.trans (tidy.noBuffer (pdirbuf.symm.trans none))

lemma Tidy.moveToStart
    (fits : state.dataSz ≤ state.rdstat.maxBufSz) : state.moveToStart.Tidy := by
  have moved := tidy.write ⟨state.rdstat.pdirbuf, 0⟩ state.pending
  exact (moved.setRdStat { state.rdstat with dataSz := state.dataSz } rfl rfl fits).setVariables

lemma Tidy.pushBatch (layout : state.Layout name) (dest : L2Type)
    (content : Bytes) (complete : state.totalSz ≤ state.dataSz) :
    (state.pushBatch dest state.prdbuf content).Tidy := by
  have known := tidy.known name layout.pdirbuf
  have cap := tidy.cap name layout.pdirbuf
  have data := layout.data
  have fits := tidy.fits
  have inside : state.prdbuf.off + state.totalSz ≤ state.heap.capOf name := by omega
  rw [RecvState.pushBatch]
  split
  · refine { tidy with
      owns := { tidy.owns with }
      batch := fun _ => ⟨name, layout.pdirbuf, layout.pdirbuf, known, ?_⟩ }
    show ∀ one ∈ [_], _
    rw [forall_mem_singleton]
    exact ⟨layout.block, inside⟩
  next batch =>
  obtain ⟨_, pdirbuf, covered⟩ := tidy.batch batch
  obtain rfl := Option.some.inj (layout.pdirbuf.symm.trans pdirbuf)
  refine { tidy with
    owns := { tidy.owns with }
    batch := fun _ => ⟨name, pdirbuf, covered.owner, covered.known, ?_⟩ }
  show ∀ one ∈ state.dbarr.dbonearr ++ [_], _
  rw [forall_mem_append, forall_mem_singleton]
  exact ⟨covered.inside, layout.block, inside⟩

lemma Tidy.setPc (pc : Pc) : { state with pc := pc }.Tidy :=
  { tidy with owns := { tidy.owns with } }

lemma Tidy.skipMessage : state.skipMessage.Tidy := by
  rw [RecvState.skipMessage]
  split
  · exact tidy
  · exact { tidy with owns := { tidy.owns with } }

end

/-! ## Rounds -/

/-- What holds between the steps. -/
def Keeps (state : RecvState) : Prop :=
  match state.pc with
  | .returned _ | .recv => state.Tidy
  | .parse => state.Tidy ∧ ∃ name, state.Layout name
  | .failed | .thrown _ => state.OwnsBuffers

section

variable (tidy : state.Tidy)
include tidy

lemma Tidy.closeBatch : (state.closeBatch cfg).Tidy := by
  rw [RecvState.closeBatch]
  split
  next batch =>
    split
    · exact tidy.replaceBuf (by omega)
    · exact tidy.handOver batch
  next none =>
  split
  · exact tidy.resetBuf (not_not.mp none)
  · split
    · exact tidy.setRdStat { state.rdstat with pendingSz := _ }
        rfl rfl tidy.fits
    · exact tidy

lemma keeps_leaveInner : (state.leaveInner cfg).Keeps := by
  rw [leaveInner]
  split
  · exact tidy.closeBatch.setPc _
  · exact tidy.setPc _

lemma keeps_nextRound
    (layout : 0 < state.dataSz → ∃ name, state.Layout name) : (state.nextRound cfg).Keeps := by
  rw [nextRound]
  split
  next notEmpty =>
    exact ⟨tidy.setPc _, (layout notEmpty).imp fun _ layout => { layout with }⟩
  · exact keeps_leaveInner tidy

lemma keeps_flushFull (layout : 0 < state.dataSz → ∃ name, state.Layout name) :
    ((state.flushFull cfg).nextRound cfg).Keeps := by
  rcases flushFull_cases cfg state with ⟨-, request, enough, -, flushed⟩ |
    ⟨batch, -, empty, flushed⟩ | ⟨-, flushed⟩ | ⟨-, flushed⟩ <;> rw [flushed]
  · exact keeps_nextRound (tidy.replaceBuf enough) fun _ => ⟨_, layout_replaceBuf enough⟩
  · refine keeps_nextRound (tidy.handOver batch) fun notEmpty => ?_
    exact absurd empty (Nat.ne_of_gt notEmpty)
  · have fits : state.dataSz ≤ state.rdstat.maxBufSz := by
      by_cases empty : state.dataSz = 0
      · omega
      · obtain ⟨name, here⟩ := layout (by omega)
        have room := here.room
        have inside := here.fits
        omega
    refine keeps_nextRound (tidy.moveToStart fits) fun notEmpty => ?_
    exact (layout notEmpty).imp fun _ here => here.moveToStart
  · exact keeps_nextRound tidy layout

lemma keeps_afterMessage (layout : state.Layout name) :
    (state.afterMessage cfg).Keeps := by
  rw [afterMessage]
  split
  · exact (tidy.skipMessage.setPc _).owns
  next sizes =>
  have skipTidy := tidy.skipMessage
  have skipLayout : state.skipMessage.Layout name := by
    by_cases empty : state.dataSz = 0
    · rw [RecvState.skipMessage, if_pos empty]
      exact layout
    · exact layout.skipMessage (by omega) (by omega)
  exact keeps_flushFull skipTidy fun _ => ⟨name, skipLayout⟩

end

lemma switchBatch_same {dest : L2Type}
    (sameBatch : state.dbarr.dbonearr = [] ∨ (dest = state.dbarr.destThrType ∧ dest ≠ .dbRd)) :
    state.switchBatch cfg dest = state := by
  rw [switchBatch, if_neg]
  rintro ⟨change, batch⟩
  obtain ⟨same, notReader⟩ := sameBatch.resolve_left batch
  exact change.elim (· same) notReader

lemma keeps_passMessage (tidy : state.Tidy) (layout : state.Layout name)
    (complete : state.totalSz ≤ state.dataSz) {dest : L2Type} (content : Bytes)
    (sameBatch : state.dbarr.dbonearr = [] ∨ (dest = state.dbarr.destThrType ∧ dest ≠ .dbRd)) :
    (state.passMessage cfg dest content).Keeps := by
  rw [passMessage]
  split
  · exact (tidy.setPc _).owns
  have pushed := tidy.pushBatch layout dest content complete
  have pushedLayout : (state.pushBatch dest state.prdbuf content).Layout name := by
    rw [RecvState.pushBatch]
    split <;> exact { layout with }
  rw [scheduleDbArray, switchBatch_same sameBatch]
  exact keeps_afterMessage pushed pushedLayout

lemma skipMessage_last (last : state.dataSz = state.totalSz) : state.skipMessage.dataSz = 0 := by
  rw [RecvState.skipMessage]
  split
  · assumption
  · exact Nat.sub_eq_zero_of_le last.le

lemma keeps_registerMessage (tidy : state.Tidy) (layout : state.Layout name)
    (last : state.dataSz = state.totalSz)
    (sameBatch : state.dbarr.dbonearr = [] ∨ state.dbarr.destThrType = .misc) :
    (state.registerMessage cfg).Keeps := by
  have sameBatch' : state.dbarr.dbonearr = [] ∨
      (L2Type.misc = state.dbarr.destThrType ∧ L2Type.misc ≠ .dbRd) :=
    sameBatch.imp_right fun misc => ⟨misc.symm, by decide⟩
  rw [registerMessage]
  split
  · exact (tidy.setPc _).owns
  have pushed := tidy.pushBatch layout .misc state.message last.ge
  have batch : (state.pushBatch .misc state.prdbuf state.message).dbarr.dbonearr ≠ [] := by
    rw [← length_pos_iff, pushBatch_length]
    omega
  have sizes : (state.pushBatch .misc state.prdbuf state.message).handOver.dataSz =
      (state.pushBatch .misc state.prdbuf state.message).handOver.totalSz := by
    rw [RecvState.pushBatch]
    split <;> exact last
  rw [scheduleDbArray, switchBatch_same sameBatch']
  have handed := pushed.handOver batch
  rw [afterMessage]
  split
  · exact (handed.skipMessage.setPc _).owns
  · refine keeps_flushFull handed.skipMessage fun notEmpty => ?_
    exact absurd (skipMessage_last sizes) (Nat.ne_of_gt notEmpty)

/-- The batch suits the message: it is empty or for the same thread, which is not a DB
reader; and nothing follows a registration. -/
def Suits (state : RecvState) (totalSz : Nat) : Route → Prop
  | .pass dest _ =>
    state.dbarr.dbonearr = [] ∨ (dest = state.dbarr.destThrType ∧ dest ≠ .dbRd)
  | .register =>
    state.dataSz = totalSz ∧ (state.dbarr.dbonearr = [] ∨ state.dbarr.destThrType = .misc)
  | _ => True

instance (state : RecvState) (totalSz : Nat) : DecidablePred (state.Suits totalSz)
  | .pass _ _ => inferInstanceAs (Decidable (_ ∨ _))
  | .register => inferInstanceAs (Decidable (_ ∧ _))
  | .here | .fail | .invalid => isTrue trivial

lemma keeps_handleMessage (tidy : state.Tidy) (layout : state.Layout name)
    (complete : state.totalSz ≤ state.dataSz) (suits : state.Suits state.totalSz
      (route cfg state.isRegistered state.isConnClosed state.message)) :
    (state.handleMessage cfg).Keeps := by
  have counted : state.countRequest.Tidy :=
    tidy.setRdStat { state.rdstat with nrequests := state.rdstat.nrequests + 1 } rfl rfl tidy.fits
  have countedLayout : state.countRequest.Layout name := { layout with }
  rw [handleMessage]
  cases routed : route cfg state.isRegistered state.isConnClosed state.message with
  | pass dest content =>
    rw [routed] at suits
    exact keeps_passMessage (counted.write state.prdbuf content)
      (countedLayout.overwrite content) complete content suits
  | register =>
    rw [routed] at suits
    exact keeps_registerMessage counted countedLayout suits.1 suits.2
  | here => exact keeps_afterMessage counted countedLayout
  | fail => exact (counted.setPc _).owns
  | invalid => exact (counted.setPc _).owns

lemma Tidy.keepIncomplete (tidy : state.Tidy) (layout : state.Layout name) :
    (state.makeRoom cfg).keepIncomplete.Tidy := by
  have ready : (state.makeRoom cfg).Tidy ∧ ∃ name, (state.makeRoom cfg).Layout name := by
    rw [RecvState.makeRoom]
    split
    · exact ⟨tidy.replaceBuf (by omega), _, layout_replaceBuf (by omega)⟩
    · exact ⟨tidy, name, layout⟩
  obtain ⟨readyTidy, _, readyLayout⟩ := ready
  rw [RecvState.keepIncomplete]
  split
  · have room := readyLayout.room
    have fits := readyLayout.fits
    exact readyTidy.moveToStart (by omega)
  · exact readyTidy

/-- The condition on a round of the inner loop: the batch suits the message it handles. -/
def RoundSuits (cfg : RecvConfig) (state : RecvState) : Prop :=
  ∀ totalSz ∈ state.readHeader cfg, totalSz ≤ state.dataSz →
    state.Suits totalSz (route cfg state.isRegistered state.isConnClosed
      (state.heap.read state.prdbuf totalSz))

lemma keeps_parseRound (tidy : state.Tidy) (layout : state.Layout name)
    (suits : state.RoundSuits cfg) : (state.parseRound cfg).Keeps := by
  rw [parseRound]
  cases header : state.readHeader cfg with
  | none => exact (tidy.setPc _).owns
  | some totalSz =>
    have sized : { state with totalSz := totalSz }.Tidy :=
      { tidy with owns := { tidy.owns with } }
    have sizedLayout : { state with totalSz := totalSz }.Layout name := { layout with }
    dsimp only
    by_cases complete : totalSz ≤ state.dataSz
    · rw [makeRoom_complete sizedLayout.fits complete, if_neg (Nat.not_lt.mpr complete)]
      exact keeps_handleMessage sized sizedLayout complete (suits totalSz header complete)
    · rw [if_pos (by rw [makeRoom_dataSz, makeRoom_totalSz]; exact Nat.not_le.mp complete)]
      exact keeps_leaveInner (sized.keepIncomplete sizedLayout)

/-! ## Runs -/

lemma keeps_received (tidy : state.Tidy) (room : state.rdstat.dataSz < state.rdstat.maxBufSz)
    {bytes : Bytes} (fits : bytes.length ≤ state.rdstat.maxBufSz - state.rdstat.dataSz) :
    (state.setVariables.received bytes).Keeps := by
  obtain ⟨name, pdirbuf⟩ : ∃ name, state.rdstat.pdirbuf = some name := by
    cases pdirbuf : state.rdstat.pdirbuf with
    | none =>
      have noSize := tidy.noBuffer pdirbuf
      omega
    | some name => exact ⟨name, rfl⟩
  have buffered : state.Buffered name := ⟨pdirbuf, tidy.known name pdirbuf, tidy.fits⟩
  have layout := buffered.layout.received fits
  obtain ⟨pendingSz, seen⟩ := state.setVariables.seePending_fst bytes.length
  have written := tidy.setVariables.write (state.setVariables.prdbuf.add state.rdstat.dataSz) bytes
  have sized := written.setRdStat (state.setVariables.received bytes).rdstat
    (layout.pdirbuf.trans pdirbuf.symm)
    (by
      show (state.setVariables.seePending bytes.length).1.maxBufSz = state.rdstat.maxBufSz
      rw [seen]
      rfl)
    layout.buffered.fits
  exact ⟨{ sized with owns := { sized.owns with } }, name, layout⟩

lemma keeps_receive (tidy : state.Tidy) (atRecv : state.pc = .recv) {result : RecvResult}
    (safe : result = .error ∨ result = .eof →
      state.dbarr.dbonearr = [] ∨ state.dbarr.destThrType = .dbRd) :
    (state.receive cfg result).Keeps := by
  have synced := tidy.setVariables
  have failed : (result = .error ∨ result = .eof) → state.setVariables.receiveFailed.Keeps := by
    intro fails
    have notSent : ¬(state.setVariables.dbarr.dbonearr ≠ [] ∧
        state.setVariables.dbarr.destThrType ≠ .dbRd) := by
      rintro ⟨batch, notReader⟩
      exact (safe fails).elim batch notReader
    rw [receiveFailed, if_neg notSent]
    exact (synced.setPc _).owns
  rw [receive]
  split
  · exact (synced.setPc _).owns
  next room =>
  cases result with
  | got count =>
    rw [onResult]
    split
    · exact synced.closeBatch.setPc _
    · refine keeps_received tidy (Nat.not_le.mp room) ?_
      rw [length_take]
      exact (Nat.min_le_left _ _).trans (Nat.min_le_right _ _)
  | again => exact synced.closeBatch.setPc _
  | intr =>
    rw [onResult, Keeps, show state.setVariables.pc = .recv from atRecv]
    exact synced
  | error => exact failed (Or.inl rfl)
  | eof => exact failed (Or.inr rfl)

lemma keeps_begin (tidy : state.Tidy) (isConnClosed : Bool) :
    (state.begin cfg isConnClosed).Keeps := by
  have ready : (state.ensureBuf cfg).Tidy := by
    rcases ensureBuf_cases cfg state with ⟨-, same⟩ | ⟨absent, new⟩
    · rw [same]
      exact tidy
    have none : state.dbarr.dbonearr = [] := by
      by_contra batch
      obtain ⟨name, present, -⟩ := tidy.batch batch
      exact absurd (present.symm.trans absent) nofun
    rw [new]
    exact tidy.newBuf none (Nat.zero_le _) []
  exact { ready with owns := { ready.owns with }, batch := fun batch => absurd rfl batch }

/-- Where `handle_recv` is sure to keep one owner for each buffer: `recv` does not fail
while a batch is to be handed over, and every message suits the open batch. -/
def OwnersSafe (cfg : RecvConfig) (state : RecvState) : RecvEvent → Prop
  | .recv .error | .recv .eof =>
    state.pc = .recv → state.dbarr.dbonearr = [] ∨ state.dbarr.destThrType = .dbRd
  | .parse => state.pc = .parse → state.RoundSuits cfg
  | _ => True

instance (cfg : RecvConfig) (state : RecvState) : Decidable (state.RoundSuits cfg) :=
  inferInstanceAs (Decidable (∀ totalSz ∈ state.readHeader cfg, _))

instance (cfg : RecvConfig) (state : RecvState) : DecidablePred (state.OwnersSafe cfg)
  | .recv .error | .recv .eof | .parse => inferInstanceAs (Decidable (_ → _))
  | .recv (.got _) | .recv .again | .recv .intr | .call _ | .registered => isTrue trivial

/-- Each safe event keeps one owner for each buffer. -/
lemma keeps_step (state : RecvState) (event : RecvEvent) (keeps : state.Keeps)
    (safe : state.OwnersSafe cfg event) : (state.step cfg event).Keeps := by
  cases event with
  | registered =>
    have samePc : (state.step cfg .registered).pc = state.pc := rfl
    rw [Keeps] at keeps ⊢
    rw [samePc]
    cases atPc : state.pc with
    | returned | recv =>
      rw [atPc] at keeps
      exact { keeps with owns := { keeps.owns with } }
    | parse =>
      rw [atPc] at keeps
      obtain ⟨tidy, name, layout⟩ := keeps
      exact ⟨{ tidy with owns := { tidy.owns with } }, name, { layout with }⟩
    | failed | thrown =>
      rw [atPc] at keeps
      exact { keeps with }
  | call closed =>
    rw [step]
    cases atPc : state.pc with
    | returned totbytes =>
      rw [Keeps, atPc] at keeps
      exact keeps_begin keeps closed
    | _ => exact keeps
  | recv result =>
    rw [step]
    cases atPc : state.pc with
    | recv =>
      rw [Keeps, atPc] at keeps
      refine keeps_receive keeps atPc ?_
      rintro (rfl | rfl) <;> exact safe atPc
    | _ => exact keeps
  | parse =>
    rw [step]
    cases atPc : state.pc with
    | parse =>
      rw [Keeps, atPc] at keeps
      obtain ⟨tidy, name, layout⟩ := keeps
      exact keeps_parseRound tidy layout (safe atPc)
    | _ => exact keeps

lemma Keeps.owns (keeps : state.Keeps) : state.OwnsBuffers := by
  rw [Keeps] at keeps
  split at keeps
  · exact keeps.owns
  · exact keeps.owns
  · exact keeps.1.owns
  · exact keeps
  · exact keeps

lemma keeps_init (isRegistered : Bool) (unread : Bytes) : (init isRegistered unread).Keeps :=
  Tidy.mk ⟨nofun, nodup_nil, nofun⟩ nofun (Nat.le_refl 0) nofun
    (fun batch => absurd rfl batch) fun _ => rfl

end RecvState

open RecvState

/-- In every run whose steps are safe, every message of a handed array lies in the buffer
that the array owns, and no buffer has two owners. -/
theorem arrays_own_their_buffers (cfg : RecvConfig) (isRegistered : Bool) (stream : Bytes)
    (events : List RecvEvent)
    (safe : Machine.Guarded (step cfg) (OwnersSafe cfg) (init isRegistered stream) events) :
    (run cfg (init isRegistered stream) events).OwnsBuffers :=
  (safe.invariant keeps_step (keeps_init isRegistered stream)).owns

/-- Two queries that arrive in two parts. -/
theorem queries_in_own_buffers : (run nodeConfig (init true [webQuery 40, webQuery 48].flatten)
      [.call false, .recv (.got 60), .parse, .parse, .call false, .recv (.got 60),
        .parse]).OwnsBuffers :=
  arrays_own_their_buffers nodeConfig true [webQuery 40, webQuery 48].flatten
    [.call false, .recv (.got 60), .parse, .parse, .call false, .recv (.got 60), .parse]
    (by decide +kernel)

/-- Two queries that arrive together: the second one is scheduled with its address in the
buffer of the first one, after that was handed over. -/
theorem query_outside_own_buffer :
    (∀ message ∈ [webQuery 40, webQuery 48], IsFramed nodeConfig message) ∧
      (run nodeConfig (init true [webQuery 40, webQuery 48].flatten)
        [.call false, .recv (.got 88), .parse, .parse]).pc = .returned 88 ∧
      ¬(run nodeConfig (init true [webQuery 40, webQuery 48].flatten)
        [.call false, .recv (.got 88), .parse, .parse]).OwnsBuffers := by
  refine ⟨?_, by decide +kernel, fun owns => ?_⟩
  · rw [forall_mem_cons, forall_mem_singleton]
    exact ⟨⟨by decide +kernel, by decide +kernel⟩, by decide +kernel, by decide +kernel⟩
  have handed : (run nodeConfig (init true [webQuery 40, webQuery 48].flatten)
      [.call false, .recv (.got 88), .parse, .parse]).handed =
      [⟨[⟨⟨some 0, 0⟩, 40, 15, webQuery 40⟩], some 0, .dbRd⟩,
        ⟨[⟨⟨some 0, 40⟩, 48, 15, webQuery 48⟩], some 1, .dbRd⟩] := by
    decide +kernel
  have covered := owns.covered
  rw [handed] at covered
  obtain ⟨name, second⟩ := covered _ (mem_cons_of_mem _ mem_cons_self)
  have inside := (second.inside _ mem_cons_self).1
  exact absurd (second.owner.trans inside.symm) (by decide)

end Gyeeta.Conn
