import Gyeeta.Comm.Bounds

/-!
# Framed elements

A sender writes its elements one behind the other, pads each one to a multiple of eight and
sets the header with `set_type_len`.  Such a message is accepted if it is not too large,
but for lists of several tasks.
-/

namespace Gyeeta.Comm

open List Bytes CommHeader Layout

/-- The limits that a type puts on the fields of its elements. -/
def ElemType.limits (type : ElemType) (one : Bytes) : Bool :=
  match type with
  | taskMiniAdd => taskMiniAddCheck one
  | taskFullAdd => true
  | taskTopProcs =>
    taskTopProcsCheck (Comm.taskTopProcs.counts one) &&
      one.field 8 2 = Comm.taskTopProcs.extent one - Comm.taskTopProcs.size
  | cpuMemState => true
  | batch type => type.batch.check (type.batch.layout.counts one)

/-- The bytes of a padded element: a structure within its limits, and the parts that it
announces. -/
structure WellFormed (type : ElemType) (bytes : Bytes) : Prop where
  length_eq : bytes.length = type.layout.extentAt bytes 0
  aligned : bytes.length % 8 = 0
  limits : type.limits (type.layout.structAt bytes 0) = true

/-- A well-formed element. -/
structure Elem (type : ElemType) where
  bytes : Bytes
  wellFormed : WellFormed type bytes

namespace ElemType

/-- The largest number of elements that is sent in a message.  There is none for
`TASK_MINI_ADD`, and `MAX_NUM_FULL_ADD` is not checked. -/
def maxCount : ElemType → Option Nat
  | taskMiniAdd => none
  | taskFullAdd => some 32
  | taskTopProcs => some 1
  | cpuMemState => some 1
  | batch type => some type.batch.maxElems

/-- The smallest number of elements of a message. -/
def minCount : ElemType → Nat
  | taskTopProcs => 1
  | cpuMemState => 1
  | _ => 0

/-- The size that a message must stay below. -/
def maxTotal : ElemType → Nat
  | batch .reqTraceTran => maxActualSendSize
  | _ => maxCommDataSz

/-- An element with its strings terminated. -/
def terminated (type : ElemType) (bytes : Bytes) : Bytes :=
  bytes.zeroAt (type.layout.terminators (type.layout.structAt bytes 0))

@[simp] lemma length_terminated (type : ElemType) (bytes : Bytes) :
    (type.terminated bytes).length = bytes.length :=
  length_zeroAt bytes _

end ElemType

/-- The message that a sender makes of its elements. -/
def frame (subtype : NotifyType) (magic : HdrMagic) (elems : List Bytes) : Option Bytes :=
  (setTypeLen .eventNotify (notifySize + elems.flatten.length) magic).map fun hdr =>
    notifyBytes hdr subtype elems.length ++ (elems.flatten ++ .replicate hdr.paddingSz 0)

section Elements

variable {type : ElemType} {bytes : Bytes}

lemma structAt_append (layout : Layout) (front rest : Bytes) (long : layout.size ≤ bytes.length) :
    layout.structAt (front ++ (bytes ++ rest)) front.length = layout.structAt bytes 0 := by
  have right := slice_append_right front (bytes ++ rest) 0 layout.size
  rw [Nat.add_zero] at right
  refine right.trans ?_
  apply slice_append_left
  rwa [Nat.zero_add]

lemma WellFormed.size_le (wellFormed : WellFormed type bytes) :
    type.layout.size ≤ bytes.length := by
  rw [wellFormed.length_eq]
  exact type.layout.size_le_extent _

lemma WellFormed.terminate_eq (wellFormed : WellFormed type bytes) (front rest : Bytes)
    (written : List Nat) :
    ∃ more, type.layout.terminate ⟨front ++ (bytes ++ rest), written⟩ front.length =
      ⟨front ++ (type.terminated bytes ++ rest), more⟩ := by
  have inside : ∀ position ∈ type.layout.terminators (type.layout.structAt bytes 0),
      position < bytes.length := by
    intro position mem
    rw [wellFormed.length_eq]
    exact terminators_lt mem
  refine ⟨written ++
    (type.layout.terminators (type.layout.structAt bytes 0)).map (front.length + ·), ?_⟩
  rw [terminate, structAt_append type.layout front rest wellFormed.size_le, Memory.zeroAt,
    zeroAt_append front rest inside, ElemType.terminated]

/-! ## Elements in a row -/

variable {elems : List Bytes}

lemma Batch.validateLoop_accepts {type : BatchType}
    (wellFormed : ∀ bytes ∈ elems, WellFormed (.batch type) bytes) (front rest : Bytes)
    (written : List Nat) :
    ∃ more, type.batch.validateLoop elems.length elems.flatten.length front.length
      ⟨front ++ (elems.flatten ++ rest), written⟩ =
        some ⟨front ++ ((elems.map (ElemType.batch type).terminated).flatten ++ rest), more⟩ := by
  induction elems generalizing front written with
  | nil => exact ⟨_, rfl⟩
  | cons bytes elems ih =>
    rw [forall_mem_cons] at wellFormed
    obtain ⟨here, others⟩ := wellFormed
    obtain ⟨more, terminated⟩ := here.terminate_eq front (elems.flatten ++ rest) written
    have sameLength := (ElemType.batch type).length_terminated bytes
    obtain ⟨last, isLast⟩ := ih others
      (front ++ (ElemType.batch type).terminated bytes) more
    have isStruct := structAt_append type.batch.layout front (elems.flatten ++ rest)
      here.size_le
    have extent : type.batch.layout.extent (type.batch.layout.structAt bytes 0) =
        bytes.length := here.length_eq.symm
    have sizeLe : type.batch.layout.size ≤ bytes.length := here.size_le
    have checked : type.batch.check
        (type.batch.layout.counts (type.batch.layout.structAt bytes 0)) = true := here.limits
    refine ⟨last, ?_⟩
    rw [length_cons, flatten_cons, length_append, append_assoc,
      validateLoop, isStruct, extent, checked, if_neg (by omega), if_neg (by omega),
      if_neg (fun unaligned => unaligned.2 here.aligned), if_pos rfl,
      type.batch.terminators_eq _ checked, Nat.add_sub_cancel_left]
    rw [terminate, ElemType.layout, isStruct] at terminated
    rw [terminated, ← append_assoc, ← sameLength, ← length_append, isLast,
      map_cons, flatten_cons, append_assoc, append_assoc]

lemma walk_flatten (wellFormed : ∀ bytes ∈ elems, WellFormed type bytes) (front rest : Bytes) :
    ((starts (type.layout.extentAt (front ++ (elems.flatten ++ rest))) front.length
      elems.length).map fun start => slice (front ++ (elems.flatten ++ rest)) start
        (type.layout.extentAt (front ++ (elems.flatten ++ rest)) start)) = elems := by
  induction elems generalizing front with
  | nil => rfl
  | cons bytes elems ih =>
    rw [forall_mem_cons] at wellFormed
    obtain ⟨here, others⟩ := wellFormed
    have extent : type.layout.extentAt (front ++ (bytes ++ (elems.flatten ++ rest)))
        front.length = bytes.length := by
      rw [extentAt, structAt_append type.layout front _ here.size_le, here.length_eq, extentAt]
    have slice : slice (front ++ (bytes ++ (elems.flatten ++ rest))) front.length
        bytes.length = bytes := by
      rw [slice, drop_left' rfl, take_left' rfl]
    have walked := ih others (front ++ bytes)
    rw [append_assoc, length_append] at walked
    rw [flatten_cons, append_assoc, length_cons, starts, map_cons, extent, slice, walked]

/-! ## Tasks -/

lemma WellFormed.validateTask_eq (wellFormed : WellFormed type bytes) (front rest : Bytes)
    (written : List Nat) (hdr : CommHeader) (fits : notifySize + bytes.length ≤ hdr.actLen) :
    validateTask type.layout type.limits hdr front.length ⟨front ++ (bytes ++ rest), written⟩ =
      some (notifySize + bytes.length,
        type.layout.terminate ⟨front ++ (bytes ++ rest), written⟩ front.length) := by
  have isStruct := structAt_append type.layout front rest wellFormed.size_le
  have extent : type.layout.extent (type.layout.structAt bytes 0) = bytes.length :=
    wellFormed.length_eq.symm
  have sizeLe := wellFormed.size_le
  have aligned : (notifySize + bytes.length) % 8 = 0 := by
    have isAligned := wellFormed.aligned
    rw [notifySize]
    omega
  rw [validateTask, isStruct, extent, wellFormed.limits, if_neg (by omega), if_neg (by omega),
    if_neg (by decide), if_neg (by rw [aligned]; decide)]

lemma taskFullAddLoop_accepts
    (wellFormed : ∀ bytes ∈ elems, WellFormed .taskFullAdd bytes) (front rest : Bytes)
    (written : List Nat) (hdr : CommHeader)
    (fits : hdr.totalSz = notifySize + elems.flatten.length) (noPadding : hdr.paddingSz = 0) :
    ∃ after, taskFullAddLoop elems.length hdr front.length
      ⟨front ++ (elems.flatten ++ rest), written⟩ = some after := by
  induction elems generalizing front written hdr with
  | nil => exact ⟨_, rfl⟩
  | cons bytes elems ih =>
    rw [forall_mem_cons] at wellFormed
    obtain ⟨here, others⟩ := wellFormed
    rw [flatten_cons, length_append] at fits
    obtain ⟨more, terminated⟩ := here.terminate_eq front (elems.flatten ++ rest) written
    have sameLength := ElemType.taskFullAdd.length_terminated bytes
    obtain ⟨final, isFinal⟩ := ih others (front ++ ElemType.taskFullAdd.terminated bytes) more
      { hdr with totalSz := hdr.totalSz - bytes.length } (by dsimp only; omega) noPadding
    have isTask := here.validateTask_eq front (elems.flatten ++ rest) written hdr
      (by rw [actLen]; omega)
    change validateTask taskFullAdd (fun _ => true) hdr _ _ = _ at isTask
    refine ⟨final, ?_⟩
    rw [length_cons, flatten_cons, append_assoc, taskFullAddLoop,
      if_neg (by rw [fits, notifySize, commHeaderSize]; omega), isTask]
    dsimp only
    rw [Nat.add_sub_cancel_left, terminated, ← append_assoc, ← sameLength, ← length_append]
    rw [← sameLength] at isFinal
    exact isFinal

/-! ## Messages -/

lemma setTypeLen_aligned {totalSz : Nat} (aligned : totalSz % 8 = 0)
    (long : commHeaderSize ≤ totalSz) (magic : HdrMagic) : setTypeLen .eventNotify totalSz magic =
      if totalSz < maxCommDataSz then some (notifyHeader magic totalSz) else none := by
  have same : (if magic.isHostNode = true then totalSz else alignUp8 totalSz) = totalSz := by
    split
    · rfl
    · rw [alignUp8]
      omega
  rw [setTypeLen, same, Nat.sub_self]
  by_cases small : totalSz < maxCommDataSz
  · rw [if_pos small, if_pos ⟨small, long⟩]
    rfl
  · rw [if_neg small, if_neg fun both => small both.1]

lemma ElemType.maxTotal_le (type : ElemType) : type.maxTotal ≤ maxCommDataSz := by
  cases type with
  | batch type => cases type <;> decide
  | _ => exact Nat.le_refl _

lemma taskMiniAddLoop_accepts (tasks : elems.length ≤ 1)
    (wellFormed : ∀ bytes ∈ elems, WellFormed .taskMiniAdd bytes) (front : Bytes)
    (hdr : CommHeader) (fits : hdr.totalSz = notifySize + elems.flatten.length)
    (noPadding : hdr.paddingSz = 0) :
    ∃ after, taskMiniAddLoop elems.length hdr front.length ⟨front ++ elems.flatten, []⟩ =
      some after := by
  match elems, tasks with
  | [], _ => exact ⟨_, rfl⟩
  | [bytes], _ =>
    have isTask := (wellFormed bytes (mem_singleton_self bytes)).validateTask_eq front [] []
      hdr (by rw [actLen, fits, noPadding, flatten_singleton]; omega)
    change validateTask taskMiniAdd taskMiniAddCheck hdr _ _ = _ at isTask
    rw [append_nil] at isTask
    rw [flatten_singleton, length_singleton, taskMiniAddLoop,
      if_neg (by rw [fits, notifySize, commHeaderSize]; omega), isTask]
    exact ⟨_, rfl⟩

section Single

variable (magic : HdrMagic) (subtype : NotifyType)

lemma structAt_notifyBytes (wellFormed : WellFormed type bytes) (hdr : CommHeader) :
    type.layout.structAt (notifyBytes hdr subtype 1 ++ bytes) notifySize =
      type.layout.structAt bytes 0 := by
  have isStruct := structAt_append type.layout (notifyBytes hdr subtype 1) [] wellFormed.size_le
  rwa [length_notifyBytes, append_nil] at isStruct

lemma taskTopProcs_accepts (wellFormed : WellFormed .taskTopProcs bytes)
    (small : notifySize + bytes.length < maxCommDataSz) : ∃ after, taskTopProcsValidate
      (notifyBytes (notifyHeader magic (notifySize + bytes.length)) subtype 1 ++ bytes) =
        some after := by
  have one : 1 < 2 ^ 32 := by decide
  obtain ⟨hdr, -, -⟩ := parse_notifyBytes (notifyHeader_words magic small one) subtype bytes
  have isStruct : taskTopProcs.structAt
      (notifyBytes (notifyHeader magic (notifySize + bytes.length)) subtype 1 ++ bytes)
        notifySize = taskTopProcs.structAt bytes 0 := structAt_notifyBytes subtype wellFormed _
  have actLen : actLen (notifyHeader magic (notifySize + bytes.length)) =
      notifySize + bytes.length := rfl
  have extent : taskTopProcs.extent (taskTopProcs.structAt bytes 0) = bytes.length :=
    wellFormed.length_eq.symm
  have sizeLe : taskTopProcs.size ≤ bytes.length := wellFormed.size_le
  have limits : (taskTopProcsCheck (taskTopProcs.counts (taskTopProcs.structAt bytes 0)) &&
      decide ((taskTopProcs.structAt bytes 0).field 8 2 =
        taskTopProcs.extent (taskTopProcs.structAt bytes 0) - taskTopProcs.size)) = true :=
    wellFormed.limits
  rw [Bool.and_eq_true, decide_eq_true_eq, extent] at limits
  rw [taskTopProcsValidate, isStruct, hdr, actLen, extent, limits.1, limits.2,
    if_neg (by omega), if_neg (by omega), if_neg (by decide), if_pos rfl]
  exact ⟨_, rfl⟩

lemma cpuMemState_accepts (wellFormed : WellFormed .cpuMemState bytes)
    (small : notifySize + bytes.length < maxCommDataSz) : ∃ after, cpuMemStateValidate
      (notifyBytes (notifyHeader magic (notifySize + bytes.length)) subtype 1 ++ bytes) =
        some after := by
  have one : 1 < 2 ^ 32 := by decide
  obtain ⟨hdr, -, count⟩ :=
    parse_notifyBytes (notifyHeader_words magic small one) subtype bytes
  have isStruct : cpuMemStateNotify.structAt
      (notifyBytes (notifyHeader magic (notifySize + bytes.length)) subtype 1 ++ bytes)
        notifySize = cpuMemStateNotify.structAt bytes 0 :=
    structAt_notifyBytes subtype wellFormed _
  have actLen : actLen (notifyHeader magic (notifySize + bytes.length)) =
      notifySize + bytes.length := rfl
  have extent : cpuMemStateNotify.extent (cpuMemStateNotify.structAt bytes 0) = bytes.length :=
    wellFormed.length_eq.symm
  rw [cpuMemStateValidate, hdr, actLen, count, extentAt, isStruct, extent,
    if_neg (by omega), if_neg (by decide), if_neg (by omega)]
  exact ⟨_, rfl⟩

end Single

lemma BatchType.validate_accepts (type : BatchType) (magic : HdrMagic)
    (subtype : NotifyType) (wellFormed : ∀ bytes ∈ elems, WellFormed (.batch type) bytes)
    (few : elems.length ≤ type.batch.maxElems)
    (small : notifySize + elems.flatten.length < (ElemType.batch type).maxTotal)
    (fits : elems.length < 2 ^ 32) : ∃ more, type.validate
      (notifyBytes (notifyHeader magic (notifySize + elems.flatten.length)) subtype elems.length ++
        elems.flatten) =
      some ⟨notifyBytes (notifyHeader magic (notifySize + elems.flatten.length)) subtype
        elems.length ++ (elems.map (ElemType.batch type).terminated).flatten, more⟩ := by
  have inComm := lt_of_lt_of_le small (ElemType.batch type).maxTotal_le
  obtain ⟨hdr, -, count⟩ := parse_notifyBytes (notifyHeader_words magic inComm fits) subtype
    elems.flatten
  obtain ⟨more, accepted⟩ := Batch.validateLoop_accepts wellFormed
    (notifyBytes (notifyHeader magic (notifySize + elems.flatten.length)) subtype
      elems.length) [] []
  rw [length_notifyBytes, append_nil, append_nil] at accepted
  have validated : type.batch.validate
      (notifyBytes (notifyHeader magic (notifySize + elems.flatten.length)) subtype
        elems.length ++ elems.flatten) =
      some ⟨notifyBytes (notifyHeader magic (notifySize + elems.flatten.length)) subtype
        elems.length ++ (elems.map (ElemType.batch type).terminated).flatten, more⟩ := by
    have actLen : actLen (notifyHeader magic (notifySize + elems.flatten.length)) =
          notifySize + elems.flatten.length := rfl
    rw [Batch.validate, hdr, count, actLen, if_neg (by omega), if_neg (Nat.not_lt.mpr few),
      Nat.add_sub_cancel_left]
    exact accepted
  refine ⟨more, ?_⟩
  rw [BatchType.validate]
  split
  next isTrace =>
    subst isTrace
    rw [reqTraceTranValidate, hdr]
    exact (if_neg (Nat.not_le.mpr small)).trans validated
  · exact validated

lemma ElemType.validate_accepts (magic : HdrMagic) (subtype : NotifyType)
    (wellFormed : ∀ bytes ∈ elems, WellFormed type bytes)
    (few : ∀ most ∈ type.maxCount, elems.length ≤ most) (enough : type.minCount ≤ elems.length)
    (tasks : type = .taskMiniAdd → elems.length ≤ 1)
    (small : notifySize + elems.flatten.length < type.maxTotal) (fits : elems.length < 2 ^ 32) :
    ∃ after, type.validate
      (notifyBytes (notifyHeader magic (notifySize + elems.flatten.length)) subtype elems.length ++
        elems.flatten) = some after := by
  have inComm := lt_of_lt_of_le small type.maxTotal_le
  obtain ⟨hdr, -, count⟩ := parse_notifyBytes (notifyHeader_words magic inComm fits) subtype
    elems.flatten
  have front := length_notifyBytes (notifyHeader magic (notifySize + elems.flatten.length))
    subtype elems.length
  have single (most : elems.length ≤ 1) (least : 1 ≤ elems.length) :
      ∃ bytes, elems = [bytes] ∧ WellFormed type bytes := by
    obtain ⟨bytes, rfl⟩ := length_eq_one_iff.mp (le_antisymm most least)
    exact ⟨bytes, rfl, wellFormed bytes (mem_singleton_self bytes)⟩
  cases type with
  | taskMiniAdd =>
    rw [ElemType.validate, hdr, count]
    obtain ⟨after, accepted⟩ := taskMiniAddLoop_accepts (tasks rfl) wellFormed
      (notifyBytes (notifyHeader magic (notifySize + elems.flatten.length)) subtype
        elems.length) (notifyHeader magic (notifySize + elems.flatten.length)) rfl rfl
    rw [front] at accepted
    exact ⟨after, accepted⟩
  | taskFullAdd =>
    rw [ElemType.validate, hdr, count]
    obtain ⟨after, accepted⟩ := taskFullAddLoop_accepts wellFormed
      (notifyBytes (notifyHeader magic (notifySize + elems.flatten.length)) subtype
        elems.length) [] [] (notifyHeader magic (notifySize + elems.flatten.length)) rfl rfl
    rw [front, append_nil] at accepted
    exact ⟨after, accepted⟩
  | taskTopProcs =>
    obtain ⟨bytes, rfl, isElem⟩ := single (few 1 rfl) enough
    rw [flatten_singleton] at inComm ⊢
    have accepted := taskTopProcs_accepts magic subtype isElem inComm
    exact accepted
  | cpuMemState =>
    obtain ⟨bytes, rfl, isElem⟩ := single (few 1 rfl) enough
    rw [flatten_singleton] at inComm ⊢
    have accepted := cpuMemState_accepts magic subtype isElem inComm
    exact accepted
  | batch type =>
    obtain ⟨more, validated⟩ := type.validate_accepts magic subtype wellFormed (few _ rfl) small
      fits
    exact ⟨_, validated⟩

section

variable (wellFormed : ∀ bytes ∈ elems, WellFormed type bytes)
include wellFormed

lemma aligned_flatten : elems.flatten.length % 8 = 0 := by
  induction elems with
  | nil => rfl
  | cons bytes elems ih =>
    rw [forall_mem_cons] at wellFormed
    have here := wellFormed.1.aligned
    have others := ih wellFormed.2
    rw [flatten_cons, length_append]
    omega

lemma length_le_flatten : elems.length ≤ elems.flatten.length := by
  induction elems with
  | nil => exact Nat.le_refl _
  | cons bytes elems ih =>
    rw [forall_mem_cons] at wellFormed
    have here := wellFormed.1.size_le
    have positive := type.layout.size_pos
    have others := ih wellFormed.2
    rw [flatten_cons, length_append, length_cons]
    omega

lemma frame_eq (subtype : NotifyType) (magic : HdrMagic) : frame subtype magic elems =
      if notifySize + elems.flatten.length < maxCommDataSz then
        some (notifyBytes (notifyHeader magic (notifySize + elems.flatten.length)) subtype
          elems.length ++ elems.flatten) else none := by
  have aligned : (notifySize + elems.flatten.length) % 8 = 0 := by
    have elemsAligned := aligned_flatten wellFormed
    rw [notifySize]
    omega
  have long : commHeaderSize ≤ notifySize + elems.flatten.length :=
    le_trans (by decide) (Nat.le_add_right _ _)
  rw [frame, setTypeLen_aligned aligned long]
  split
  · rw [Option.map_some]
    change some (_ ++ (elems.flatten ++ [])) = _
    rw [append_nil]
  · rfl

lemma small_of_accepted {subtype : NotifyType}
    {magic : HdrMagic} {message : Bytes} {after : Memory}
    (framed : frame subtype magic elems = some message) (accepted : Accepted type message after) :
    notifySize + elems.flatten.length < type.maxTotal := by
  rw [frame_eq wellFormed] at framed
  split at framed
  next small =>
    cases framed
    have validated := accepted.validated
    cases type with
    | batch type =>
      by_cases isTrace : type = .reqTraceTran
      · subst isTrace
        have fits : elems.length < 2 ^ 32 := by
          have count := length_le_flatten wellFormed
          rw [maxCommDataSz] at small
          omega
        obtain ⟨hdr, -, -⟩ := parse_notifyBytes (notifyHeader_words magic small fits) subtype
          elems.flatten
        by_contra large
        rw [ElemType.validate, BatchType.validate, if_pos rfl, reqTraceTranValidate,
          hdr] at validated
        have rejected := (if_pos (Nat.not_lt.mp large)).symm.trans validated
        cases rejected
      · have total : (ElemType.batch type).maxTotal = maxCommDataSz := by
          cases type with
          | reqTraceTran => exact absurd rfl isTrace
          | _ => rfl
        rwa [total]
    | _ => exact small
  · cases framed

end

end Elements

/-- The message of well-formed elements, no more than a type may have, is accepted if and
only if it is not too large.  A list of tasks has at most one here. -/
theorem framed_elements_accepted_iff (type : ElemType) (subtype : NotifyType) (magic : HdrMagic)
    (elems : List (Elem type)) (isType : subtype.elemType = some type)
    (few : ∀ most ∈ type.maxCount, elems.length ≤ most) (enough : type.minCount ≤ elems.length)
    (tasks : type = .taskMiniAdd → elems.length ≤ 1) :
    (∃ message after, frame subtype magic (elems.map Elem.bytes) = some message ∧
      (parse message).validate true magic = true ∧ Accepted type message after) ↔
    notifySize + (elems.map fun elem => elem.bytes.length).sum < type.maxTotal := by
  have wellFormed : ∀ bytes ∈ elems.map Elem.bytes, WellFormed type bytes := by
    intro bytes mem
    obtain ⟨elem, -, rfl⟩ := mem_map.mp mem
    exact elem.wellFormed
  have size : (elems.map Elem.bytes).flatten.length =
      (elems.map fun elem => elem.bytes.length).sum := by
    rw [length_flatten, map_map]
    rfl
  rw [← size]
  constructor
  · rintro ⟨message, after, framed, -, accepted⟩
    exact small_of_accepted wellFormed framed accepted
  intro small
  have inComm := lt_of_lt_of_le small type.maxTotal_le
  have count := length_le_flatten wellFormed
  have fits : (elems.map Elem.bytes).length < 2 ^ 32 := by
    rw [maxCommDataSz] at inComm
    omega
  have aligned : (notifySize + (elems.map Elem.bytes).flatten.length) % 8 = 0 := by
    have elemsAligned := aligned_flatten wellFormed
    rw [notifySize]
    omega
  rw [← length_map Elem.bytes] at few enough tasks
  obtain ⟨after, validated⟩ :=
    type.validate_accepts magic subtype wellFormed few enough tasks small fits
  obtain ⟨hdr, -, -⟩ := parse_notifyBytes (notifyHeader_words magic inComm fits) subtype
    (elems.map Elem.bytes).flatten
  refine ⟨_, after, (frame_eq wellFormed subtype magic).trans (if_pos inComm), ?_,
    accepted_of_validate magic isType rfl inComm aligned fits validated⟩
  rw [hdr]
  exact notifyHeader_valid magic inComm (Nat.le_add_right _ _) aligned

/-- A `NOTIFICATION_MSG` with the text `hi` and five bytes of padding. -/
def hiMsg : Elem (.batch .notificationMsg) where
  bytes := [0, 0, 3, 0, 5, 0, 0, 0, 104, 105, 0, 0, 0, 0, 0, 0]
  wellFormed := ⟨by decide, by decide, by decide⟩

theorem two_notifications_accepted :
    ∃ message after, frame .notificationMsg .pmHdr [hiMsg.bytes, hiMsg.bytes] = some message ∧
      (parse message).validate true .pmHdr = true ∧
      Accepted (.batch .notificationMsg) message after :=
  (framed_elements_accepted_iff (.batch .notificationMsg) .notificationMsg .pmHdr [hiMsg, hiMsg]
    rfl (by decide) (by decide) (by decide)).mpr (by decide)

/-- A `REQ_TRACE_TRAN` with the longest request. -/
def longRequest : Bytes :=
  .replicate 170 0 ++ [0, 64, 0, 0, 0, 0] ++ .replicate (16 * 1024) 0

lemma length_longRequest : longRequest.length = 176 + 16 * 1024 := by
  rw [longRequest, length_append, length_append, length_replicate, length_replicate]
  rfl

lemma longRequest_wellFormed : WellFormed (.batch .reqTraceTran) longRequest := by
  have isStruct : reqTraceTran.layout.structAt longRequest 0 =
      .replicate 170 0 ++ [0, 64, 0, 0, 0, 0] := by
    apply take_left'
    rw [length_append, length_replicate]
    rfl
  constructor
  · rw [length_longRequest, ElemType.layout, extentAt]
    change _ = reqTraceTran.layout.extent (reqTraceTran.layout.structAt longRequest 0)
    rw [isStruct]
    decide +kernel
  · rw [length_longRequest]
  · change reqTraceTran.check
      (reqTraceTran.layout.counts (reqTraceTran.layout.structAt longRequest 0)) = true
    rw [isStruct]
    decide +kernel

lemma shiftedTask_wellFormed : WellFormed .taskMiniAdd shiftedTask :=
  ⟨by decide, by decide, by decide⟩

lemma shiftedTasks_framed : frame .taskMiniAdd .pmHdr [shiftedTask, shiftedTask] =
    some (notifyBytes (notifyHeader .pmHdr 216) .taskMiniAdd 2 ++
      (shiftedTask ++ shiftedTask)) := by
  have wellFormed : ∀ bytes ∈ [shiftedTask, shiftedTask], WellFormed .taskMiniAdd bytes := by
    intro bytes mem
    simp only [mem_cons, not_mem_nil, or_false, or_self] at mem
    rw [mem]
    exact shiftedTask_wellFormed
  have task : shiftedTask.length = 96 := by decide
  have size : notifySize + [shiftedTask, shiftedTask].flatten.length = 216 := by
    rw [flatten_cons, flatten_singleton, length_append, task, notifySize]
  rw [frame_eq wellFormed, size, if_pos (by decide), flatten_cons, flatten_singleton]
  rfl

lemma shiftedTasks_rejected : ElemType.taskMiniAdd.validate
    (notifyBytes (notifyHeader .pmHdr 216) .taskMiniAdd 2 ++ (shiftedTask ++ shiftedTask)) =
      none := by
  have fits : 216 < maxCommDataSz := by decide
  have two : 2 < 2 ^ 32 := by decide
  have long : 120 ≤ actLen (notifyHeader .pmHdr 216) := by decide
  obtain ⟨hdr, -, count⟩ := parse_notifyBytes (notifyHeader_words .pmHdr fits two) .taskMiniAdd
    (shiftedTask ++ shiftedTask)
  obtain ⟨written, isTask⟩ := validateTask_shifted
    (notifyBytes (notifyHeader .pmHdr 216) .taskMiniAdd 2) shiftedTask long []
  rw [length_notifyBytes] at isTask
  rw [ElemType.validate, hdr, count, taskMiniAddLoop_of_task (by decide) isTask, taskMiniAddLoop,
    if_neg (by decide), validateTask, if_pos (by decide)]

/-- 34 requests of the largest size, of up to 256 that may be sent, are more than the
receiver takes.  And two tasks are rejected, because the second one is looked for 24 bytes
too far. -/
theorem well_formed_messages_rejected : (WellFormed (.batch .reqTraceTran) longRequest ∧
      ¬∃ message after, frame .reqTraceTran .pmHdr (.replicate 34 longRequest) = some message ∧
          Accepted (.batch .reqTraceTran) message after) ∧ WellFormed .taskMiniAdd shiftedTask ∧
      ∃ message, frame .taskMiniAdd .pmHdr [shiftedTask, shiftedTask] = some message ∧
        ElemType.taskMiniAdd.validate message = none := by
  refine ⟨⟨longRequest_wellFormed, ?_⟩, shiftedTask_wellFormed, _, shiftedTasks_framed,
    shiftedTasks_rejected⟩
  · rintro ⟨message, after, framed, accepted⟩
    have wellFormed : ∀ bytes ∈ List.replicate 34 longRequest,
        WellFormed (.batch .reqTraceTran) bytes := by
      intro bytes mem
      rw [eq_of_mem_replicate mem]
      exact longRequest_wellFormed
    have total (count : Nat) (bytes : Bytes) :
        (List.replicate count bytes).flatten.length = count * bytes.length := by
      simp
    have small := small_of_accepted wellFormed framed accepted
    rw [total, length_longRequest, notifySize, ElemType.maxTotal, maxActualSendSize] at small
    omega

end Gyeeta.Comm
