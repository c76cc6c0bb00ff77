import Gyeeta.Comm.Framing
import Gyeeta.Lib.Run
import Gyeeta.Misc.DataBuffer
import Gyeeta.Tran.RoundTrip

/-!
# Batches of request records

The records of the sessions of a parser are collected in `reqbuffer_` and handed to the transfer
thread, which sends each batch as a notification.  The receiver accepts every batch of HTTP/1
records whose texts are shorter than `MAX_PARSE_API_LEN`.  A text of exactly that size, which
`print_req` allows, makes the record too long by its terminator, and the whole batch is rejected.
-/

namespace Gyeeta.Tran

open List ApiTran

open Comm Misc Tagged

/-! ## Records are well formed -/

section Records

lemma extentAt_toBytes (tran : ApiTran) (rest : Bytes) :
    reqTraceTran.layout.extentAt (tran.toBytes ++ rest) 0 = tran.getElemSize := by
  change 176 + ((Field.mk 170 2).get (reqTraceTran.layout.structAt (tran.toBytes ++ rest) 0) * 1 +
    ((Field.mk 172 2).get (reqTraceTran.layout.structAt (tran.toBytes ++ rest) 0) * 1 +
    ((Field.mk 174 1).get (reqTraceTran.layout.structAt (tran.toBytes ++ rest) 0) * 1 + 0))) = _
  rw [Layout.field_structAt (by decide), Layout.field_structAt (by decide),
    Layout.field_structAt (by decide), Nat.zero_add, Nat.zero_add, Nat.zero_add,
    tran.field_requestLen, tran.field_lenext, tran.field_padlen, getElemSize,
    getActLen, size]
  omega

lemma counts_toBytes (tran : ApiTran) (rest : Bytes) :
    reqTraceTran.layout.counts (reqTraceTran.layout.structAt (tran.toBytes ++ rest) 0) =
      [tran.requestLen.toNat, tran.lenext.toNat, tran.padlen.toNat] := by
  change [(Field.mk 170 2).get _, (Field.mk 172 2).get _, (Field.mk 174 1).get _] = _
  rw [Layout.field_structAt (by decide), Layout.field_structAt (by decide),
    Layout.field_structAt (by decide), Nat.zero_add, Nat.zero_add, Nat.zero_add,
    tran.field_requestLen, tran.field_lenext, tran.field_padlen]

lemma terminators_toBytes {tran : ApiTran} (some : tran.requestLen.toNat ≠ 0) (rest : Bytes) :
    reqTraceTran.layout.terminators (reqTraceTran.layout.structAt (tran.toBytes ++ rest) 0) =
      [176 + tran.requestLen.toNat - 1] := by
  have request : (Field.mk 170 2).get (reqTraceTran.layout.structAt (tran.toBytes ++ rest) 0) =
      tran.requestLen.toNat := by
    rw [Layout.field_structAt (by decide), Nat.zero_add, tran.field_requestLen]
  rw [Layout.terminators, Layout.places]
  change [] ++ List.map _ (List.filter _ [Placed.mk 176 ((Field.mk 170 2).get _ * 1) true,
    Placed.mk _ _ false, Placed.mk _ _ false]) = _
  rw [request]
  simp [some]

lemma getElemSize_complete (tran : ApiTran) (textSize extSize : Nat)
    (reqnum lastUpdTusec : UInt64) :
    (tran.complete textSize extSize reqnum lastUpdTusec).getElemSize % 8 = 0 ∧
      (tran.complete textSize extSize reqnum lastUpdTusec).padlen.toNat < 8 := by
  rw [complete]
  generalize setRespTimes _ = timed
  have padding : timed.setPaddingLen.padlen.toNat =
      (timed.getActLen + 7) / 8 * 8 - timed.getActLen := by
    change (UInt8.ofNat _).toNat = _
    rw [UInt8.toNat_ofNat']
    omega
  have same : timed.setPaddingLen.getActLen = timed.getActLen := rfl
  rw [getElemSize, padding, same]
  omega

variable {ext : ExtWriter} {items : List (Item ParseExtFields)} {most : Nat}

/-- The sizes in the record of a request. -/
structure Sized (tran : ApiTran) (text : Bytes) (ext : ExtWriter) (most : Nat) : Prop where
  requestLen_eq : tran.requestLen.toNat = text.length + 1
  lenext_le : tran.lenext.toNat ≤ ext.bytes.length
  lenext_le_most : tran.lenext.toNat ≤ most
  padlen_lt : tran.padlen.toNat < 8
  aligned : tran.getElemSize % 8 = 0

lemma Written.sized (written : Written ext items most) (tran : ApiTran) {text : Bytes}
    (short : text.length + 1 < 2 ^ 16) (reqnum lastUpdTusec : UInt64) :
    Sized (tran.complete text.length ext.ustrbuf.bytes.length reqnum lastUpdTusec) text ext
      most where
  requestLen_eq := by
    change (UInt16.ofNat (text.length + 1)).toNat = _
    rw [UInt16.toNat_ofNat', Nat.mod_eq_of_lt short]
  lenext_le := by
    rw [written.lenext_eq]
    split
    · exact Nat.zero_le _
    · exact Nat.le_refl _
  lenext_le_most := by
    have size := written.size_le
    rw [written.lenext_eq, written.bytes, length_cons]
    split
    · exact Nat.zero_le _
    · exact size
  padlen_lt := (getElemSize_complete tran _ _ reqnum lastUpdTusec).2
  aligned := (getElemSize_complete tran _ _ reqnum lastUpdTusec).1

variable {tran : ApiTran} {text : Bytes}

section

variable (sized : Sized tran text ext most)
include sized

lemma Sized.length_recordBytes (old : Nat → UInt8) :
    (recordBytes tran text ext old).length = tran.getElemSize := by
  rw [recordBytes, length_append, length_append, length_append, length_append,
    length_take, length_map, length_range, length_singleton,
    length_toBytes, Nat.min_eq_left sized.lenext_le, getElemSize,
    getActLen, sized.requestLen_eq]
  omega

lemma Sized.getElemSize_le : tran.getElemSize ≤ 176 + (text.length + 1) + most + 7 := by
  have ext_le := sized.lenext_le_most
  have pad_lt := sized.padlen_lt
  rw [getElemSize, getActLen, size, sized.requestLen_eq]
  omega

lemma Sized.wellFormed
    (short : text.length < maxParseApiLen) (few : most ≤ maxParseExtLen) (old : Nat → UInt8) :
    WellFormed (.batch .reqTraceTran) (recordBytes tran text ext old) where
  length_eq := by
    rw [sized.length_recordBytes]
    exact (extentAt_toBytes tran _).symm
  aligned := by
    rw [sized.length_recordBytes, sized.aligned]
  limits := by
    have ext_le := sized.lenext_le_most
    change reqTraceTran.check (reqTraceTran.layout.counts
      (reqTraceTran.layout.structAt (recordBytes tran text ext old) 0)) = true
    rw [recordBytes, counts_toBytes, sized.requestLen_eq]
    change (decide (text.length + 1 ≠ 0) && decide (text.length + 1 ≤ 16 * 1024) &&
      decide (tran.lenext.toNat ≤ 1400)) = true
    rw [maxParseApiLen] at short
    rw [maxParseExtLen] at few
    simp only [Bool.and_eq_true, decide_eq_true_eq]
    omega

lemma Sized.terminated_eq (old : Nat → UInt8) :
    (ElemType.batch .reqTraceTran).terminated (recordBytes tran text ext old) =
      recordBytes tran text ext old := by
  have some : tran.requestLen.toNat ≠ 0 := by
    rw [sized.requestLen_eq]
    omega
  have position : 176 + tran.requestLen.toNat - 1 = (tran.toBytes ++ text).length := by
    rw [length_append, length_toBytes, sized.requestLen_eq, size]
    omega
  have layout : (ElemType.batch .reqTraceTran).layout = reqTraceTran.layout := rfl
  rw [ElemType.terminated, layout, recordBytes, terminators_toBytes some, position, Bytes.zeroAt,
    foldl_cons, foldl_nil, append_assoc text, ← append_assoc tran.toBytes,
    set_append_right _ _ (Nat.le_refl _), Nat.sub_self, cons_append, set_cons_zero]

end

end Records

/-! ## The transfer buffer -/

def getMaxElemSize (apiMaxLen : Nat) : Nat :=
  ApiTran.size + apiMaxLen + maxParseExtLen + 32

/-- The limits of `reqbuffer_` of an `API_PARSE_HDLR`.  `maxElemSz` is the size of the
elements of its memory pool. -/
def reqbufferLimits (maxElemSz : Nat) : DataBufferLimits where
  maxElemSz := maxElemSz
  minCacheElem := 32
  maxCacheElem := 256 / 2
  initReserveSz := notifySize
  maxTotalSz := 512 * 1024

lemma reserve_le (maxElemSz : Nat) :
    (reqbufferLimits maxElemSz).initReserveSz ≤ (reqbufferLimits maxElemSz).maxTotalSz :=
  (by decide : notifySize ≤ 512 * 1024)

/-- The message that `api_xfer_thread` makes of a batch. -/
def xferMessage (magic : HdrMagic) (flushed : Flushed) : Option Bytes :=
  (CommHeader.setTypeLen .eventNotify (notifySize + flushed.data.length) magic).map fun hdr =>
    notifyBytes hdr .reqTraceTran flushed.nelems ++
      (flushed.data ++ .replicate hdr.paddingSz 0)

/-- The transfer buffer of a parser with its history: the records that were written since
the last batch was handed on, and the batches with the records that were written for
each. -/
structure Xfer where
  reqbuffer : DataBuffer
  pending : List Bytes
  sent : List (Flushed × List Bytes)

/-- A call of `print_req` of an HTTP/1 session, with the memory that the allocator has
for a new buffer and the bytes that are in the buffer, or a timer that hands the buffer
on. -/
inductive XferEvent where
  | printReq (sess : Http1Sessinfo) (allocated : Option Nat) (old : Nat → UInt8)
  | forceFlush

namespace Xfer

def init : Xfer where
  reqbuffer := .empty
  pending := []
  sent := []

/-- `set_xfer_buf_sz`, with the records that are in the buffer then. -/
def setXferBufSz (limits : DataBufferLimits) (xfer : Xfer) (elem : Bytes) (pending : List Bytes)
    (forceFlush : Bool) : Xfer :=
  let result := xfer.reqbuffer.setBufferSz limits elem forceFlush
  match result.2 with
  | none => { xfer with reqbuffer := result.1, pending := pending }
  | some flushed =>
    { reqbuffer := result.1, pending := [], sent := xfer.sent ++ [(flushed, pending)] }

def step (apiMaxLen maxElemSz : Nat) (xfer : Xfer) : XferEvent → Xfer
  | .printReq sess allocated old =>
    let buffer := xfer.reqbuffer.getBufferChked allocated
    match (sess.printReq apiMaxLen (buffer.alloc.map fun _ => old)).1 with
    | none => xfer
    | some record =>
      setXferBufSz (reqbufferLimits maxElemSz) { xfer with reqbuffer := buffer } record
        (xfer.pending ++ [record]) false
  | .forceFlush => setXferBufSz (reqbufferLimits maxElemSz) xfer [] xfer.pending true

def run (apiMaxLen maxElemSz : Nat) (events : List XferEvent) : Xfer :=
  Machine.run (step apiMaxLen maxElemSz) init events

end Xfer

/-- The receiver accepts the batch, and the walk of `validate` over it finds the records,
as they were written. -/
def ValidBatch (flushed : Flushed) (records : List Bytes) : Prop :=
  ∀ magic, ∃ message written, xferMessage magic flushed = some message ∧
    Accepted (.batch .reqTraceTran) message ⟨message, written⟩ ∧
    nevents message = records.length ∧
    ((elemStarts (.batch .reqTraceTran) message ⟨message, written⟩).map fun start =>
      message.slice start (ElemType.getElemSize (.batch .reqTraceTran) message start)) = records

/-- A record that may be in a batch. -/
structure Fine (bytes : Bytes) : Prop where
  wellFormed : WellFormed (.batch .reqTraceTran) bytes
  terminated : (ElemType.batch .reqTraceTran).terminated bytes = bytes
  length_le : bytes.length ≤ 17000

lemma validBatch {flushed : Flushed} {records : List Bytes}
    (batch : DataBuffer.Batch flushed records) (fine : ∀ bytes ∈ records, Fine bytes)
    (few : records.length ≤ 256) (small : notifySize + records.flatten.length < maxActualSendSize) :
    ValidBatch flushed records := by
  intro magic
  have wellFormed : ∀ bytes ∈ records, WellFormed (.batch .reqTraceTran) bytes :=
    fun bytes mem => (fine bytes mem).wellFormed
  have inComm : notifySize + records.flatten.length < maxCommDataSz :=
    lt_of_lt_of_le small (by decide)
  have fits : records.length < 2 ^ 32 := lt_of_le_of_lt few (by decide)
  have aligned : (notifySize + records.flatten.length) % 8 = 0 := by
    have recordsAligned := aligned_flatten wellFormed
    rw [notifySize]
    omega
  have same : records.map (ElemType.batch .reqTraceTran).terminated = records := by
    refine (map_congr_left ?_).trans (map_id records)
    intro bytes mem
    exact (fine bytes mem).terminated
  obtain ⟨written, validated⟩ :=
    BatchType.reqTraceTran.validate_accepts magic .reqTraceTran wellFormed few small fits
  rw [same] at validated
  have isType : NotifyType.reqTraceTran.elemType = some (.batch .reqTraceTran) := rfl
  have accepted := accepted_of_validate magic isType rfl inComm aligned fits validated
  obtain ⟨-, -, count⟩ := parse_notifyBytes (notifyHeader_words magic inComm fits) .reqTraceTran
    records.flatten
  have walked := walk_flatten wellFormed
    (notifyBytes (notifyHeader magic (notifySize + records.flatten.length)) .reqTraceTran
      records.length) []
  rw [append_nil, length_notifyBytes] at walked
  refine ⟨_, written, ?_, accepted, count, ?_⟩
  · rw [xferMessage, batch.data_eq, batch.nelems_eq, setTypeLen_aligned aligned
      (le_trans (by decide) (Nat.le_add_right _ _)), if_pos inComm]
    change some (_ ++ (records.flatten ++ [])) = _
    rw [append_nil]
  · rw [elemStarts, count]
    exact walked

namespace Xfer

variable {apiMaxLen maxElemSz : Nat} {xfer : Xfer}

/-- The records in the buffer are fine, and every batch that was handed on is valid. -/
structure Ok (maxElemSz : Nat) (xfer : Xfer) : Prop where
  holds : xfer.reqbuffer.Holds (reqbufferLimits maxElemSz) xfer.pending
  fine : ∀ bytes ∈ xfer.pending, Fine bytes
  valid : ∀ batch ∈ xfer.sent, ValidBatch batch.1 batch.2

lemma Ok.init : Ok maxElemSz Xfer.init where
  holds := .empty (reserve_le maxElemSz) (by decide : 0 < 256 / 2)
  fine := by
    intro bytes mem
    cases mem
  valid := by
    intro batch mem
    cases mem

lemma Ok.validBatch (ok : Ok maxElemSz xfer) {record : Bytes} (fine : Fine record)
    {flushed : Flushed} (batch : DataBuffer.Batch flushed (xfer.pending ++ [record])) :
    ValidBatch flushed (xfer.pending ++ [record]) := by
  have total := ok.holds.total_le
  have count := ok.holds.count_lt
  have length := fine.length_le
  change notifySize + xfer.pending.flatten.length ≤ 512 * 1024 at total
  change xfer.pending.length < 256 / 2 at count
  apply Tran.validBatch batch
  · rw [forall_mem_append]
    exact ⟨ok.fine, by rwa [forall_mem_singleton]⟩
  · rw [length_append, length_singleton]
    omega
  · rw [flatten_append, flatten_singleton, length_append, maxActualSendSize]
    omega

lemma Ok.setXferBufSz (ok : Ok maxElemSz xfer) {alloc : DataBufferAlloc}
    (isAlloc : xfer.reqbuffer.alloc = some alloc) {record : Bytes} (fine : Fine record) :
    Ok maxElemSz (xfer.setXferBufSz (reqbufferLimits maxElemSz) record
      (xfer.pending ++ [record]) false) := by
  have nonempty : record ≠ [] := by
    intro none
    have size := fine.wellFormed.size_le
    rw [none] at size
    exact absurd size (by decide)
  have allFine : ∀ bytes ∈ xfer.pending ++ [record], Fine bytes := by
    rw [forall_mem_append]
    exact ⟨ok.fine, by rwa [forall_mem_singleton]⟩
  rcases ok.holds.setBufferSz (reserve_le maxElemSz) isAlloc nonempty false with
    ⟨kept, holds⟩ | ⟨flushed, isFlushed, batch, holds⟩
  · rw [Xfer.setXferBufSz, kept]
    exact ⟨holds, allFine, ok.valid⟩
  · rw [Xfer.setXferBufSz, isFlushed]
    refine ⟨holds, forall_mem_nil _, ?_⟩
    rw [forall_mem_append, forall_mem_singleton]
    exact ⟨ok.valid, ok.validBatch fine batch⟩

lemma Ok.forceFlush (ok : Ok maxElemSz xfer) :
    Ok maxElemSz (xfer.setXferBufSz (reqbufferLimits maxElemSz) [] xfer.pending true) := by
  have total := ok.holds.total_le
  have count := ok.holds.count_lt
  change notifySize + xfer.pending.flatten.length ≤ 512 * 1024 at total
  change xfer.pending.length < 256 / 2 at count
  rcases ok.holds.flush (reserve_le maxElemSz) true with
    ⟨kept, holds⟩ | ⟨flushed, isFlushed, batch, holds⟩
  · rw [Xfer.setXferBufSz, kept]
    exact ⟨holds, ok.fine, ok.valid⟩
  have valid : ValidBatch flushed xfer.pending := by
    apply Tran.validBatch batch ok.fine
    · omega
    · rw [maxActualSendSize]
      omega
  rw [Xfer.setXferBufSz, isFlushed]
  refine ⟨holds, forall_mem_nil _, ?_⟩
  rw [forall_mem_append, forall_mem_singleton]
  exact ⟨ok.valid, valid⟩

end Xfer

namespace XferEvent

/-- The text of a call of `print_req`, with its parameters, does not have exactly
`MAX_PARSE_API_LEN` bytes. -/
def Fits : XferEvent → Prop
  | printReq sess _ _ => sess.text.length ≠ maxParseApiLen
  | forceFlush => True

instance : DecidablePred Fits
  | printReq _ _ _ => inferInstanceAs (Decidable (_ ≠ _))
  | forceFlush => inferInstanceAs (Decidable True)

end XferEvent

namespace Http1Sessinfo

variable {apiMaxLen : Nat} {pool : Option (Nat → UInt8)} {sess : Http1Sessinfo} {bytes : Bytes}

lemma record_of_printReq (printed : (sess.printReq apiMaxLen pool).1 = some bytes) :
    sess.text.length ≤ apiMaxLen ∧ ∃ old, pool = some old ∧
      bytes = record sess.tran sess.text sess.ext sess.reqnum sess.lastUpdTusec old := by
  rw [printReq.eq_def] at printed
  split at printed
  · cases printed
  split at printed
  · cases printed
  next notLong =>
  cases pool with
  | none => cases printed
  | some old =>
    refine ⟨?_, old, rfl, (Option.some.inj printed).symm⟩
    rw [text, length_append]
    exact Nat.not_lt.mp notLong

lemma sized (sess : Http1Sessinfo) (short : sess.text.length + 1 < 2 ^ 16) :
    Sized (sess.tran.complete sess.text.length sess.ext.ustrbuf.bytes.length sess.reqnum
      sess.lastUpdTusec) sess.text sess.ext 401 :=
  sess.written.sized sess.tran short sess.reqnum sess.lastUpdTusec

lemma fine_of_printReq (allowed : apiMaxLen ≤ maxParseApiLen)
    (fits : sess.text.length ≠ maxParseApiLen)
    (printed : (sess.printReq apiMaxLen pool).1 = some bytes) : Fine bytes := by
  obtain ⟨notLong, old, -, isRecord⟩ := record_of_printReq printed
  have short := lt_of_le_of_ne (le_trans notLong allowed) fits
  have sized := sess.sized (lt_trans (Nat.succ_lt_succ short) (by decide))
  have length := sized.getElemSize_le
  rw [isRecord]
  refine ⟨sized.wellFormed short (by decide) old, sized.terminated_eq old, ?_⟩
  rw [maxParseApiLen] at short
  rw [record, sized.length_recordBytes]
  omega

end Http1Sessinfo

namespace Xfer

variable {apiMaxLen maxElemSz : Nat} {xfer : Xfer}

lemma step_printReq {sess : Http1Sessinfo} {allocated : Option Nat} {old : Nat → UInt8}
    {record : Bytes} (printed : (sess.printReq apiMaxLen
      ((xfer.reqbuffer.getBufferChked allocated).alloc.map fun _ => old)).1 = some record) :
    xfer.step apiMaxLen maxElemSz (.printReq sess allocated old) =
      setXferBufSz (reqbufferLimits maxElemSz)
        { xfer with reqbuffer := xfer.reqbuffer.getBufferChked allocated } record
        (xfer.pending ++ [record]) false := by
  rw [Xfer.step, printed]

/-- Every event keeps the records fine and the batches valid. -/
lemma Ok.step (ok : Ok maxElemSz xfer) (allowed : apiMaxLen ≤ maxParseApiLen)
    {event : XferEvent} (fits : event.Fits) :
    Ok maxElemSz (xfer.step apiMaxLen maxElemSz event) := by
  cases event with
  | forceFlush => exact ok.forceFlush
  | printReq sess allocated old =>
    rw [Xfer.step]
    split
    · exact ok
    next record printed =>
    have fine := Http1Sessinfo.fine_of_printReq allowed fits printed
    obtain ⟨-, old, pooled, -⟩ := Http1Sessinfo.record_of_printReq printed
    have held : Ok maxElemSz
        { xfer with reqbuffer := xfer.reqbuffer.getBufferChked allocated } :=
      ⟨ok.holds.getBufferChked allocated, ok.fine, ok.valid⟩
    cases isAlloc : (xfer.reqbuffer.getBufferChked allocated).alloc with
    | none =>
      rw [isAlloc] at pooled
      cases pooled
    | some alloc => exact held.setXferBufSz isAlloc fine

end Xfer

/-- In every run in which no text has exactly `MAX_PARSE_API_LEN` bytes, every batch that is
handed on is accepted with its records. -/
theorem batches_accepted {apiMaxLen : Nat} (maxElemSz : Nat) (allowed : apiMaxLen ≤ maxParseApiLen)
    (events : List XferEvent) (fits : ∀ event ∈ events, event.Fits) :
    ∀ batch ∈ (Xfer.run apiMaxLen maxElemSz events).sent, ValidBatch batch.1 batch.2 := by
  have always : Machine.Guarded (Xfer.step apiMaxLen maxElemSz) (fun _ _ => True) Xfer.init
      events := Machine.Guarded.of_forall (fun _ _ => trivial) _ _
  have ok : Xfer.Ok maxElemSz (Xfer.run apiMaxLen maxElemSz events) :=
    (always.and_forall fits).invariant
      (fun _ _ ok both => ok.step allowed both.2) Xfer.Ok.init
  exact ok.valid

/-- Two requests of status 200 are printed before the timer hands the buffer on. -/
def statusRun : List XferEvent :=
  [.printReq statusSession (some 700000) fun _ => 0,
    .printReq statusSession (some 700000) fun _ => 0, .forceFlush]

theorem status_batch_accepted :
    ((Xfer.run 16384 (getMaxElemSize 16384) statusRun).sent.map (·.2.length) = [2]) ∧
    ∀ batch ∈ (Xfer.run 16384 (getMaxElemSize 16384) statusRun).sent, ValidBatch batch.1 batch.2 :=
  ⟨by decide +kernel, batches_accepted (getMaxElemSize 16384) (by decide) _ (by decide)⟩

/-! ## A text that is too long by its terminator -/

lemma not_validBatch {tran : ApiTran} {rest : Bytes} {records : List Bytes}
    (long : maxParseApiLen < tran.requestLen.toNat)
    (aligned : (notifySize + (tran.toBytes ++ rest).length) % 8 = 0) :
    ¬ValidBatch ⟨tran.toBytes ++ rest, 1⟩ records := by
  intro valid
  obtain ⟨message, written, isMessage, accepted, -, -⟩ := valid .pmHdr
  rw [xferMessage, setTypeLen_aligned aligned (le_trans (by decide) (Nat.le_add_right _ _))]
    at isMessage
  split at isMessage
  next inComm =>
    rw [Option.map_some] at isMessage
    have isMessage := Option.some.inj isMessage
    change _ ++ ((tran.toBytes ++ rest) ++ []) = message at isMessage
    rw [append_nil] at isMessage
    have one : 1 < 2 ^ 32 := by decide
    obtain ⟨hdr, -, count⟩ := parse_notifyBytes (notifyHeader_words .pmHdr inComm one)
      .reqTraceTran (tran.toBytes ++ rest)
    rw [isMessage] at hdr count
    have whole : reqTraceTran.layout.size ≤ tran.toBytes.length := by
      rw [length_toBytes]
      decide
    have isStruct := structAt_append reqTraceTran.layout
      (notifyBytes (notifyHeader .pmHdr (notifySize + (tran.toBytes ++ rest).length))
        .reqTraceTran 1) rest whole
    rw [isMessage, length_notifyBytes] at isStruct
    have counts := counts_toBytes tran []
    rw [append_nil] at counts
    have checked : reqTraceTran.check (reqTraceTran.layout.counts
        (reqTraceTran.layout.structAt message notifySize)) = false := by
      rw [maxParseApiLen] at long
      rw [isStruct, counts]
      change (decide (tran.requestLen.toNat ≠ 0) && decide (tran.requestLen.toNat ≤ 16 * 1024) &&
        decide (tran.lenext.toNat ≤ 1400)) = false
      rw [decide_eq_false (Nat.not_le.mpr long), Bool.and_false, Bool.false_and]
    have validated := accepted.validated
    change (if maxActualSendSize ≤ (CommHeader.parse message).totalSz then none
      else reqTraceTran.validate message) = _ at validated
    have rejected : reqTraceTran.validate message = none := by
      rw [Batch.validate, count]
      split
      · rfl
      split
      · rfl
      rw [Batch.validateLoop]
      dsimp only
      rw [checked]
      split
      · rfl
      split
      · rfl
      · split
        · rfl
        · rfl
    rw [rejected] at validated
    split at validated
    · cases validated
    · cases validated
  · cases isMessage

/-- A request with a text of 16000 bytes and parameters that `request_done` has cut to 384
bytes, to make 16384 bytes together. -/
def fullSession : Http1Sessinfo where
  tran := answeredTran 0
  tdstrbuf := .replicate 16000 65
  parambuf := ⟨.replicate 384 66, by rw [length_replicate]; decide⟩
  useragentbuf := ⟨[], Nat.succ_pos _⟩
  errorbuf := ⟨[], Nat.succ_pos _⟩
  lastRespStatus := 0
  reqnum := 0
  lastUpdTusec := 0

lemma length_fullSession_text : fullSession.text.length = 16384 := by
  have text : fullSession.tdstrbuf.length = 16000 := length_replicate
  have param : fullSession.parambuf.text.length = 384 := length_replicate
  rw [Http1Sessinfo.text, length_append, text, param]

/-- The `API_TRAN` of the record of the request. -/
def fullTran : ApiTran :=
  fullSession.tran.complete fullSession.text.length fullSession.ext.ustrbuf.bytes.length 0 0

/-- The record of the request. -/
def fullRecord : Bytes :=
  recordBytes fullTran fullSession.text fullSession.ext fun _ => 0

lemma fullTran_sized : Sized fullTran fullSession.text fullSession.ext 401 :=
  fullSession.sized (by rw [length_fullSession_text]; decide)

lemma length_fullRecord : fullRecord.length = 16568 := by
  rw [fullRecord, fullTran_sized.length_recordBytes, fullTran, length_fullSession_text]
  decide +kernel

lemma fullRecord_ne_nil : fullRecord ≠ [] := by
  apply ne_nil_of_length_pos
  rw [length_fullRecord]
  decide

lemma fullSession_printReq :
    (fullSession.printReq 16384 (some fun _ => 0)).1 = some fullRecord := by
  have some : fullSession.tdstrbuf ≠ [] := by
    apply ne_nil_of_length_pos
    have text : fullSession.tdstrbuf.length = 16000 := length_replicate
    rw [text]
    decide
  exact Http1Sessinfo.printReq_eq some (by decide) (Nat.le_of_eq length_fullSession_text) _

/-- The parser prints the request and then hands its buffer on. -/
def fullRun : List XferEvent :=
  [.printReq fullSession (some 700000) fun _ => 0, .forceFlush]

lemma sent_fullRun : (Xfer.run 16384 17992 fullRun).sent = [(⟨fullRecord, 1⟩, [fullRecord])] := by
  have notFull : ¬DataBuffer.Full (reqbufferLimits 17992) ⟨700000, [] ++ fullRecord⟩ (0 + 1)
      false := by
    rw [DataBuffer.Full, DataBuffer.szpend, DataBuffer.used, nil_append, length_fullRecord]
    simp [reqbufferLimits, notifySize]
  have allocated : (DataBuffer.mk (some ⟨700000, []⟩) 0).alloc = some ⟨700000, []⟩ := rfl
  have kept := @DataBuffer.setBufferSz_of_ne_nil (reqbufferLimits 17992) _ _ allocated _
    fullRecord_ne_nil false
  rw [if_neg notFull] at kept
  have first : Xfer.step 16384 17992 .init (.printReq fullSession (some 700000) fun _ => 0) =
      ⟨⟨some ⟨700000, fullRecord⟩, 1⟩, [fullRecord], []⟩ := by
    have pool : ((Xfer.init.reqbuffer.getBufferChked (some 700000)).alloc.map fun _ =>
        (fun _ => 0 : Nat → UInt8)) = some fun _ => 0 := rfl
    have printed := fullSession_printReq
    rw [← pool] at printed
    have buffer : Xfer.init.reqbuffer.getBufferChked (some 700000) = ⟨some ⟨700000, []⟩, 0⟩ := rfl
    rw [Xfer.step_printReq printed, buffer, Xfer.setXferBufSz, kept]
    rfl
  have filled : (DataBuffer.mk (some ⟨700000, fullRecord⟩) 1).alloc =
      some ⟨700000, fullRecord⟩ := rfl
  have handed := @DataBuffer.setBufferSz_force (reqbufferLimits 17992) _ _ filled (by decide)
  rw [Xfer.run, fullRun, Machine.run_cons, Machine.run_cons, Machine.run_nil, first, Xfer.step,
    Xfer.setXferBufSz, handed]
  rfl

/-- The batch with the request is not accepted. -/
theorem full_batch_rejected :
    ∃ batch ∈ (Xfer.run 16384 17992 fullRun).sent, ¬ValidBatch batch.1 batch.2 := by
  refine ⟨_, by rw [sent_fullRun]; exact mem_singleton_self _, ?_⟩
  have long : maxParseApiLen < fullTran.requestLen.toNat := by
    rw [fullTran_sized.requestLen_eq, length_fullSession_text]
    decide
  have aligned : (notifySize + fullRecord.length) % 8 = 0 := by
    rw [length_fullRecord]
    decide
  rw [fullRecord, recordBytes] at aligned ⊢
  exact not_validBatch long aligned

end Gyeeta.Tran
