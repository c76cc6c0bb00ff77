import Gyeeta.Comm.Elements

/-!
# Bounds of validated messages

A handler walks over the elements of a validated message by `get_elem_size()`.  The walk of
`validate` and that of the handler meet the same elements and stay inside the message, but
for two types: `TASK_MINI_ADD::validate` takes steps that are too long by the size of the
headers, and `TASK_TOP_PROCS::validate` does not look at the number of elements.
-/

namespace Gyeeta.Comm

open List CommHeader Bytes

/-- A message that passes `COMM_HEADER::validate` and `validate` of the type of its
elements, which leaves the strings of the message terminated. -/
structure Accepted (type : ElemType) (message : Bytes) (after : Memory) : Prop where
  length_eq : message.length = (parse message).totalSz
  dataType_eq : (parse message).dataType = CommType.eventNotify.code
  header : ∃ magic, (parse message).validate true magic = true
  subtype : (NotifyType.ofCode (message.field 16 4)).bind NotifyType.elemType = some type
  validated : type.validate message = some after

/-- Where a handler finds the elements of a message. -/
def elemStarts (type : ElemType) (message : Bytes) (after : Memory) : List Nat :=
  starts (type.getElemSize after.bytes) notifySize (nevents message)

/-- The elements that a handler finds lie inside the message, with all their parts, and
`validate` has only written to the last bytes of their strings. -/
structure InBounds (type : ElemType) (message : Bytes) (after : Memory) : Prop where
  start_lt : ∀ start ∈ elemStarts type message after,
    start < (parse message).actLen
  struct_le : ∀ start ∈ elemStarts type message after,
    start + type.layout.size ≤ (parse message).actLen
  part_le : ∀ start ∈ elemStarts type message after,
    ∀ placed ∈ type.layout.places (type.layout.structAt after.bytes start),
      start + placed.start + placed.length ≤ (parse message).actLen
  written : ∀ position ∈ after.written, ∃ start ∈ elemStarts type message after,
    type.layout.Terminates after.bytes start position

section Walks

variable {type : ElemType} {message : Bytes} {after : Memory}

lemma inBounds_of_walked (sameWalk : elemStarts type message after =
      starts (type.layout.extentAt after.bytes) notifySize (nevents message))
    (walked : type.layout.Walked notifySize (parse message).actLen (nevents message)
      ⟨message, []⟩ after) : InBounds type message after := by
  have fits : ∀ start ∈ elemStarts type message after,
      start + type.layout.extentAt after.bytes start ≤ (parse message).actLen := by
    intro start mem
    rw [sameWalk] at mem
    exact walked.fits start mem
  have struct_le : ∀ start ∈ elemStarts type message after,
      start + type.layout.size ≤ (parse message).actLen := by
    intro start mem
    have inside := fits start mem
    have covers := type.layout.size_le_extent (type.layout.structAt after.bytes start)
    rw [Layout.extentAt] at inside
    omega
  constructor
  · intro start mem
    have inside := struct_le start mem
    have positive := type.layout.size_pos
    omega
  · exact struct_le
  · intro start mem placed isPlaced
    have inside := fits start mem
    have bounds := Layout.le_of_places isPlaced
    rw [Layout.extentAt] at inside
    omega
  · intro position mem
    rcases walked.written position mem with early | found
    · cases early
    · rwa [sameWalk]

lemma Accepted.le_actLen (accepted : Accepted type message after) :
    notifySize ≤ (parse message).actLen := by
  obtain ⟨magic, valid⟩ := accepted.header
  simp only [validate, Bool.and_eq_true, accepted.dataType_eq, CommType.ofCode_code,
    decide_eq_true_eq] at valid
  exact valid.2

variable {totalSz count start : Nat} {batch : Batch} {memory : Memory} {hdr : CommHeader}

lemma notifyHeader_valid (magic : HdrMagic) (small : totalSz < maxCommDataSz)
    (long : notifySize ≤ totalSz) (aligned : totalSz % 8 = 0) :
    (notifyHeader magic totalSz).validate true magic = true := by
  have header : commHeaderSize ≤ totalSz := le_trans (by decide) long
  have body : commHeaderSize + CommType.eventNotify.bodySize ≤ totalSz := long
  simp [validate, actLen, notifyHeader, small, header, aligned, body]

lemma notifyHeader_words (magic : HdrMagic)
    (small : totalSz < maxCommDataSz) (few : count < 2 ^ 32) :
    WordsFit (notifyHeader magic totalSz) count where
  magic := by
    change magic.code < 2 ^ 32
    cases magic <;> decide
  totalSz := lt_trans small (by decide)
  dataType := (by decide : CommType.eventNotify.code < 2 ^ 32)
  paddingSz := (by decide : 0 < 2 ^ 32)
  count := few

lemma accepted_of_validate (magic : HdrMagic) {subtype : NotifyType}
    {elems : Bytes} (isType : subtype.elemType = some type)
    (size : notifySize + elems.length = totalSz) (small : totalSz < maxCommDataSz)
    (aligned : totalSz % 8 = 0) (few : count < 2 ^ 32)
    (validated : type.validate (notifyBytes (notifyHeader magic totalSz) subtype count ++ elems) =
      some after) :
    Accepted type (notifyBytes (notifyHeader magic totalSz) subtype count ++ elems) after := by
  obtain ⟨hdr, code, -⟩ := parse_notifyBytes (notifyHeader_words magic small few) subtype elems
  constructor
  · rw [hdr, length_append, length_notifyBytes]
    exact size
  · rw [hdr]
    rfl
  · rw [hdr]
    refine ⟨magic, notifyHeader_valid magic small ?_ aligned⟩
    rw [← size]
    exact Nat.le_add_right _ _
  · rw [code, NotifyType.ofCode_code]
    exact isType
  · exact validated

/-! ## Elements in a row -/

variable {totallen nelems : Nat}

/-- One turn of the loop: the element fits, passes its check and is terminated. -/
lemma Batch.validateLoop_step
    (accepted : batch.validateLoop (nelems + 1) totallen start memory = some after) :
    batch.layout.extentAt memory.bytes start ≤ totallen ∧
      batch.check (batch.layout.counts (batch.layout.structAt memory.bytes start)) = true ∧
      batch.validateLoop nelems (totallen - batch.layout.extentAt memory.bytes start)
        (start + batch.layout.extentAt memory.bytes start)
        (batch.layout.terminate memory start) = some after := by
  rw [validateLoop] at accepted
  split at accepted
  · cases accepted
  split at accepted
  · cases accepted
  split at accepted
  · cases accepted
  split at accepted
  next _ fits _ checked =>
    rw [batch.terminators_eq _ checked] at accepted
    exact ⟨Nat.not_lt.mp fits, checked, accepted⟩
  · cases accepted

lemma Batch.validateLoop_walked
    (accepted : batch.validateLoop nelems totallen start memory = some after) :
    batch.layout.Walked start (start + totallen) nelems memory after := by
  induction nelems generalizing totallen start memory with
  | zero =>
    cases accepted
    exact Layout.Walked.nil _
  | succ nelems ih =>
    obtain ⟨fits, -, rest⟩ := validateLoop_step accepted
    have walked := ih rest
    rw [Nat.add_assoc, Nat.add_sub_cancel' fits] at walked
    apply Layout.Walked.cons (batch.layout.terminate_terminated memory start) _ walked
    exact Nat.add_le_add_left fits start

lemma Batch.validate_walked (accepted : batch.validate message = some after) :
    batch.layout.Walked notifySize (parse message).actLen (nevents message)
      ⟨message, []⟩ after := by
  rw [validate] at accepted
  split at accepted
  · cases accepted
  split at accepted
  · cases accepted
  next long _ =>
    have walked := validateLoop_walked accepted
    rwa [Nat.add_sub_cancel' (Nat.not_lt.mp long)] at walked

lemma BatchType.validate_batch {type : BatchType}
    (accepted : type.validate message = some after) : type.batch.validate message = some after := by
  rw [validate] at accepted
  split at accepted
  next isTrace =>
    rw [reqTraceTranValidate] at accepted
    split at accepted
    · cases accepted
    · rw [isTrace]
      exact accepted
  · exact accepted

lemma BatchType.validate_walked {type : BatchType}
    (accepted : type.validate message = some after) :
    type.batch.layout.Walked notifySize (parse message).actLen (nevents message)
      ⟨message, []⟩ after :=
  Batch.validate_walked (validate_batch accepted)

/-! ## Tasks and single elements -/

lemma validateTask_cases {layout : Layout} {check : Bytes → Bool} {elemSz : Nat}
    (accepted : validateTask layout check hdr start memory = some (elemSz, after)) :
    elemSz = notifySize + layout.extentAt memory.bytes start ∧ elemSz ≤ hdr.actLen ∧
      after = layout.terminate memory start := by
  rw [validateTask] at accepted
  split at accepted
  · cases accepted
  split at accepted
  · cases accepted
  split at accepted
  · cases accepted
  split at accepted
  · cases accepted
  next _ fits _ _ =>
    cases accepted
    exact ⟨rfl, Nat.not_lt.mp fits, rfl⟩

lemma taskFullAddLoop_step
    (accepted : taskFullAddLoop (count + 1) hdr start memory = some after) :
    notifySize + taskFullAdd.extentAt memory.bytes start ≤ hdr.actLen ∧ taskFullAddLoop count
        { hdr with totalSz := hdr.totalSz - taskFullAdd.extentAt memory.bytes start }
        (start + taskFullAdd.extentAt memory.bytes start)
        (taskFullAdd.terminate memory start) = some after := by
  rw [taskFullAddLoop] at accepted
  split at accepted
  · cases accepted
  split at accepted
  · cases accepted
  next elemSz middle isTask =>
  obtain ⟨rfl, fits, rfl⟩ := validateTask_cases isTask
  rw [Nat.add_sub_cancel_left] at accepted
  exact ⟨fits, accepted⟩

lemma taskFullAddLoop_walked (long : notifySize ≤ hdr.actLen)
    (accepted : taskFullAddLoop count hdr start memory = some after) :
    taskFullAdd.Walked start (start + (hdr.actLen - notifySize)) count memory after := by
  induction count generalizing hdr start memory with
  | zero =>
    cases accepted
    exact Layout.Walked.nil _
  | succ count ih =>
    obtain ⟨fits, rest⟩ := taskFullAddLoop_step accepted
    have shorter : actLen
        { hdr with totalSz := hdr.totalSz - taskFullAdd.extentAt memory.bytes start } =
          hdr.actLen - taskFullAdd.extentAt memory.bytes start := by
      simp only [actLen]
      omega
    have walked := ih (by omega) rest
    have sameStop : start + taskFullAdd.extentAt memory.bytes start +
        (hdr.actLen - taskFullAdd.extentAt memory.bytes start - notifySize) =
          start + (hdr.actLen - notifySize) := by
      omega
    rw [shorter, sameStop] at walked
    apply Layout.Walked.cons (taskFullAdd.terminate_terminated memory start) _ walked
    omega

lemma taskMiniAddLoop_step
    (accepted : taskMiniAddLoop (count + 1) hdr start memory = some after) :
    notifySize + taskMiniAdd.extentAt memory.bytes start ≤ hdr.actLen ∧ taskMiniAddLoop count
        { hdr with
          totalSz := hdr.totalSz - (notifySize + taskMiniAdd.extentAt memory.bytes start) }
        (start + (notifySize + taskMiniAdd.extentAt memory.bytes start))
        (taskMiniAdd.terminate memory start) = some after := by
  rw [taskMiniAddLoop] at accepted
  split at accepted
  · cases accepted
  split at accepted
  · cases accepted
  next elemSz middle isTask =>
    obtain ⟨rfl, fits, rfl⟩ := validateTask_cases isTask
    exact ⟨fits, accepted⟩

lemma taskMiniAddLoop_size (accepted : taskMiniAddLoop count hdr start memory = some after) :
    120 * count ≤ hdr.totalSz := by
  induction count generalizing hdr start memory with
  | zero => exact Nat.zero_le _
  | succ count ih =>
    obtain ⟨fits, rest⟩ := taskMiniAddLoop_step accepted
    have smaller := ih rest
    have covers : 96 ≤ taskMiniAdd.extentAt memory.bytes start :=
      taskMiniAdd.size_le_extent _
    rw [actLen, notifySize] at fits
    rw [notifySize] at smaller
    dsimp only at smaller
    omega

lemma taskMiniAdd_walked (few : nevents message ≤ 1)
    (accepted : ElemType.taskMiniAdd.validate message = some after) :
    taskMiniAdd.Walked notifySize (parse message).actLen (nevents message) ⟨message, []⟩ after := by
  rw [ElemType.validate] at accepted
  cases count : nevents message with
  | zero =>
    rw [count] at accepted
    cases accepted
    exact Layout.Walked.nil _
  | succ more =>
    have single : more = 0 := by omega
    rw [count, single] at accepted
    obtain ⟨fits, rest⟩ := taskMiniAddLoop_step accepted
    cases rest
    rw [single]
    exact Layout.Walked.cons (taskMiniAdd.terminate_terminated _ _) fits (Layout.Walked.nil _)

lemma taskTopProcs_walked (few : nevents message ≤ 1)
    (accepted : taskTopProcsValidate message = some after) :
    taskTopProcs.Walked notifySize (parse message).actLen (nevents message)
      ⟨message, []⟩ after := by
  rw [taskTopProcsValidate] at accepted
  split at accepted
  · cases accepted
  split at accepted
  · cases accepted
  split at accepted
  · cases accepted
  split at accepted
  next _ _ _ fits =>
    cases accepted
    have unchanged : taskTopProcs.terminate ⟨message, []⟩ notifySize = ⟨message, []⟩ := rfl
    cases count : nevents message with
    | zero => exact Layout.Walked.nil _
    | succ more =>
      have single : more = 0 := by omega
      have terminated := taskTopProcs.terminate_terminated ⟨message, []⟩ notifySize
      rw [unchanged] at terminated
      rw [single]
      exact Layout.Walked.cons terminated fits.ge (Layout.Walked.nil _)
  · cases accepted

lemma cpuMemState_walked (accepted : cpuMemStateValidate message = some after) :
    cpuMemStateNotify.Walked notifySize (parse message).actLen (nevents message)
      ⟨message, []⟩ after := by
  rw [cpuMemStateValidate] at accepted
  split at accepted
  · cases accepted
  split at accepted
  · cases accepted
  split at accepted
  · cases accepted
  next _ single fits =>
  cases accepted
  rw [Decidable.not_not.mp single]
  apply Layout.Walked.cons (cpuMemStateNotify.terminate_terminated _ _) _
    (Layout.Walked.nil _)
  exact (Decidable.not_not.mp fits).ge

lemma Accepted.inBounds (accepted : Accepted type message after)
    (miniAdd : type = .taskMiniAdd → nevents message ≤ 1)
    (topProcs : type = .taskTopProcs → nevents message ≤ 1) : InBounds type message after := by
  have validated := accepted.validated
  have long := accepted.le_actLen
  cases type with
  | taskMiniAdd =>
    have few := miniAdd rfl
    refine inBounds_of_walked ?_ (taskMiniAdd_walked few validated)
    rw [elemStarts]
    cases count : nevents message with
    | zero => rfl
    | succ more =>
      have single : more = 0 := by omega
      rw [single]
      rfl
  | taskFullAdd =>
    have walked := taskFullAddLoop_walked long validated
    rw [Nat.add_sub_cancel' long] at walked
    exact inBounds_of_walked rfl walked
  | taskTopProcs => exact inBounds_of_walked rfl (taskTopProcs_walked (topProcs rfl) validated)
  | cpuMemState => exact inBounds_of_walked rfl (cpuMemState_walked validated)
  | batch type => exact inBounds_of_walked rfl (BatchType.validate_walked validated)

end Walks

/-! ## Messages that are walked over differently -/

/-- A `TASK_MINI_ADD` with a process id, no command line, and ones in the bytes that the
compiler leaves before `aggr_task_id_`. -/
def shiftedTask : Bytes :=
  .replicate 16 0 ++ [1] ++ .replicate 43 0 ++ .replicate 4 255 ++ .replicate 32 0

/-- Tasks at the places where `TASK_MINI_ADD::validate` looks for them, with a gap of the
size of the headers before each but the first. -/
def shiftedTasks (more : Nat) : Bytes :=
  shiftedTask ++ (List.replicate more (List.replicate notifySize 0 ++ shiftedTask)).flatten

lemma shiftedTasks_succ (more : Nat) :
    shiftedTasks (more + 1) = shiftedTask ++ (.replicate notifySize 0 ++ shiftedTasks more) := by
  rw [shiftedTasks, shiftedTasks, replicate_succ, flatten_cons, append_assoc]

lemma length_shiftedTasks (more : Nat) : (shiftedTasks more).length = 96 + 120 * more := by
  induction more with
  | zero => rfl
  | succ more ih =>
    have length : shiftedTask.length = 96 := by decide
    simp only [shiftedTasks_succ, length_append, length_replicate, ih, length, notifySize]
    omega

variable {hdr : CommHeader}

lemma validateTask_shifted (front rest : Bytes) (long : 120 ≤ hdr.actLen)
    (written : List Nat) : ∃ more, validateTask taskMiniAdd taskMiniAddCheck hdr front.length
        ⟨front ++ (shiftedTask ++ rest), written⟩ =
      some (120, ⟨front ++ (shiftedTask ++ rest), more⟩) := by
  have length : shiftedTask.length = 96 := by decide
  have extent : taskMiniAdd.extent shiftedTask = 96 := by decide
  have terminators : taskMiniAdd.terminators shiftedTask = [43, 59] := by decide
  have unchanged : shiftedTask.zeroAt [43, 59] = shiftedTask := by decide
  have isTask : taskMiniAdd.structAt (front ++ (shiftedTask ++ rest)) front.length =
      shiftedTask := by
    have right := slice_append_right front (shiftedTask ++ rest) 0 96
    rw [Nat.add_zero] at right
    rw [Layout.structAt]
    refine right.trans ?_
    rw [slice_append_left _ (by rw [length]), slice_zero, take_of_length_le (by rw [length])]
  have written_eq : (front ++ (shiftedTask ++ rest)).zeroAt ([43, 59].map (front.length + ·)) =
      front ++ (shiftedTask ++ rest) := by
    rw [zeroAt_append front rest (by rw [length]; decide), unchanged]
  refine ⟨written ++ [43, 59].map (front.length + ·), ?_⟩
  have size : taskMiniAdd.size = 96 := rfl
  have checked : taskMiniAddCheck shiftedTask = true := by decide
  rw [validateTask, isTask, extent, checked, size, notifySize, if_neg (by omega),
    if_neg (by omega), if_neg (by decide), if_neg (by decide), Layout.terminate, isTask,
    terminators, Memory.zeroAt, written_eq]

variable {more : Nat}

lemma taskMiniAddLoop_of_task {start : Nat} {memory after : Memory} (long : 120 ≤ hdr.totalSz)
    (isTask : validateTask taskMiniAdd taskMiniAddCheck hdr start memory = some (120, after)) :
    taskMiniAddLoop (more + 1) hdr start memory =
      taskMiniAddLoop more { hdr with totalSz := hdr.totalSz - 120 } (start + 120) after := by
  rw [taskMiniAddLoop, if_neg (by rw [commHeaderSize]; omega), isTask]

lemma taskMiniAddLoop_shifted (front : Bytes) (more : Nat) (magic dataType : Nat)
    (written : List Nat) :
    ∃ after, taskMiniAddLoop (more + 1) ⟨magic, 120 * (more + 1), dataType, 0⟩ front.length
        ⟨front ++ shiftedTasks more, written⟩ = some ⟨front ++ shiftedTasks more, after⟩ := by
  have longTotal (more : Nat) : 120 ≤ 120 * (more + 1) := by omega
  have long (more : Nat) : 120 ≤ actLen ⟨magic, 120 * (more + 1), dataType, 0⟩ :=
    longTotal more
  induction more generalizing front written with
  | zero =>
    obtain ⟨after, isTask⟩ := validateTask_shifted front [] (long 0) written
    exact ⟨after, taskMiniAddLoop_of_task (longTotal 0) isTask⟩
  | succ more ih =>
    obtain ⟨middle, isTask⟩ :=
      validateTask_shifted front (.replicate notifySize 0 ++ shiftedTasks more)
        (long (more + 1)) written
    have regroup : front ++ (shiftedTask ++ (.replicate notifySize 0 ++ shiftedTasks more)) =
        front ++ shiftedTask ++ .replicate notifySize 0 ++ shiftedTasks more := by
      rw [append_assoc, append_assoc]
    have length : (front ++ shiftedTask ++ .replicate notifySize 0).length =
        front.length + 120 := by
      have task : shiftedTask.length = 96 := by decide
      rw [length_append, length_append, task, length_replicate, notifySize]
    obtain ⟨after, rest⟩ := ih (front ++ shiftedTask ++ .replicate notifySize 0) middle
    refine ⟨after, ?_⟩
    rw [shiftedTasks_succ, taskMiniAddLoop_of_task (longTotal (more + 1)) isTask, regroup]
    rw [length] at rest
    exact rest

lemma second_start {type : ElemType} {message : Bytes} {after : Memory} {size : Nat}
    (count : nevents message = more + 2) (isSize : type.getElemSize after.bytes notifySize = size) :
    notifySize + size ∈ elemStarts type message after := by
  rw [elemStarts, count, starts, isSize, starts]
  exact mem_cons_of_mem _ mem_cons_self

lemma structAt_shiftedTasks (front : Bytes) (more : Nat) :
    taskMiniAdd.structAt (front ++ shiftedTasks (more + 1)) front.length = shiftedTask ∧
      taskMiniAdd.structAt (front ++ shiftedTasks (more + 1)) (front.length + 96) =
        .replicate notifySize 0 ++ shiftedTask.take 72 := by
  have task : shiftedTask.length = 96 := by decide
  have first := slice_append_right front (shiftedTasks (more + 1)) 0 96
  have second := slice_append_right front (shiftedTasks (more + 1)) 96 96
  have behind := slice_append_right shiftedTask
    (.replicate notifySize 0 ++ shiftedTasks more) 0 96
  rw [Nat.add_zero] at first
  rw [task, Nat.add_zero] at behind
  constructor
  · refine first.trans ?_
    rw [shiftedTasks_succ, slice_append_left _ (by rw [task]), slice_zero,
      take_of_length_le (by rw [task])]
  · refine second.trans ?_
    rw [shiftedTasks_succ, behind, shiftedTasks, ← append_assoc,
      slice_append_left _ (by rw [length_append, task]; decide)]
    decide

/-- A message with two or more of the tasks. -/
def shiftedMessage (more : Nat) : Bytes :=
  notifyBytes (notifyHeader .pmHdr (120 * (more + 2))) .taskMiniAdd (more + 2) ++
    shiftedTasks (more + 1)

lemma miniAdd_out_of_bounds (small : 120 * (more + 2) < maxCommDataSz) :
    ∃ after, Accepted .taskMiniAdd (shiftedMessage more) after ∧
      nevents (shiftedMessage more) = more + 2 ∧
      ¬InBounds .taskMiniAdd (shiftedMessage more) after := by
  have size : notifySize + (shiftedTasks (more + 1)).length = 120 * (more + 2) := by
    rw [length_shiftedTasks, notifySize]
    omega
  have aligned : 120 * (more + 2) % 8 = 0 := by omega
  have few : more + 2 < 2 ^ 32 := by
    rw [maxCommDataSz] at small
    omega
  obtain ⟨hdr, -, count⟩ := parse_notifyBytes (notifyHeader_words .pmHdr small few) .taskMiniAdd
    (shiftedTasks (more + 1))
  obtain ⟨written, loop⟩ := taskMiniAddLoop_shifted
    (notifyBytes (notifyHeader .pmHdr (120 * (more + 2))) .taskMiniAdd (more + 2)) (more + 1)
    HdrMagic.pmHdr.code CommType.eventNotify.code []
  obtain ⟨isFirst, isSecond⟩ := structAt_shiftedTasks
    (notifyBytes (notifyHeader .pmHdr (120 * (more + 2))) .taskMiniAdd (more + 2)) more
  rw [length_notifyBytes] at loop isFirst isSecond
  have validated : ElemType.taskMiniAdd.validate
      (notifyBytes (notifyHeader .pmHdr (120 * (more + 2))) .taskMiniAdd (more + 2) ++
        shiftedTasks (more + 1)) =
      some ⟨notifyBytes (notifyHeader .pmHdr (120 * (more + 2))) .taskMiniAdd (more + 2) ++
        shiftedTasks (more + 1), written⟩ := by
    rw [ElemType.validate, hdr, count]
    exact loop
  refine ⟨_, accepted_of_validate .pmHdr rfl size small aligned few validated, count, ?_⟩
  intro inBounds
  have firstSize : ElemType.getElemSize .taskMiniAdd
      (notifyBytes (notifyHeader .pmHdr (120 * (more + 2))) .taskMiniAdd (more + 2) ++
        shiftedTasks (more + 1)) notifySize = 96 := by
    rw [ElemType.getElemSize, Layout.extentAt, isFirst]
    decide
  have outside := inBounds.part_le _ (second_start count firstSize) ⟨96, 2 ^ 32 - 1, true⟩ (by
    rw [ElemType.layout, isSecond]
    decide)
  rw [shiftedMessage, hdr] at outside
  change notifySize + 96 + 96 + (2 ^ 32 - 1) ≤ 120 * (more + 2) - 0 at outside
  rw [maxCommDataSz] at small
  omega

/-- A list of no top processes that is said to be two or more lists. -/
def countedTopProcs (more : Nat) : Bytes :=
  notifyBytes (notifyHeader .pmHdr 40) .taskTopProcs (more + 2) ++ .replicate 16 0

lemma topProcs_out_of_bounds (few : more + 2 < 2 ^ 32) :
    ∃ after, Accepted .taskTopProcs (countedTopProcs more) after ∧
      nevents (countedTopProcs more) = more + 2 ∧
      ¬InBounds .taskTopProcs (countedTopProcs more) after := by
  have small : 40 < maxCommDataSz := by decide
  have size : notifySize + (List.replicate 16 (0 : UInt8)).length = 40 := by decide
  obtain ⟨hdr, -, count⟩ := parse_notifyBytes (notifyHeader_words .pmHdr small few) .taskTopProcs
    (.replicate 16 0)
  have isFirst := slice_append_right
    (notifyBytes (notifyHeader .pmHdr 40) .taskTopProcs (more + 2)) (.replicate 16 0) 0 16
  rw [length_notifyBytes, Nat.add_zero] at isFirst
  change taskTopProcs.structAt _ notifySize = .replicate 16 0 at isFirst
  have validated : ElemType.taskTopProcs.validate
      (notifyBytes (notifyHeader .pmHdr 40) .taskTopProcs (more + 2) ++ .replicate 16 0) =
      some ⟨notifyBytes (notifyHeader .pmHdr 40) .taskTopProcs (more + 2) ++
        .replicate 16 0, []⟩ := by
    have length : actLen (notifyHeader .pmHdr 40) = 40 := rfl
    rw [ElemType.validate, taskTopProcsValidate, isFirst, hdr, length, if_neg (by decide),
      if_neg (by decide), if_neg (by decide), if_pos (by decide)]
  refine ⟨_, accepted_of_validate .pmHdr rfl size small (by decide) few validated, count, ?_⟩
  intro inBounds
  have firstSize : ElemType.getElemSize .taskTopProcs
      (notifyBytes (notifyHeader .pmHdr 40) .taskTopProcs (more + 2) ++ .replicate 16 0)
        notifySize = 16 := by
    change taskTopProcs.extent (taskTopProcs.structAt _ notifySize) = 16
    rw [isFirst]
    decide
  have outside := inBounds.start_lt _ (second_start count firstSize)
  rw [countedTopProcs, hdr] at outside
  exact absurd outside (by decide)

/-- Every accepted message with some number of elements is walked over inside its bounds,
if and only if there is at most one element where the elements are tasks or lists of top
processes.  Tasks that cannot all fit into a message are never accepted. -/
theorem accepted_walk_in_bounds_iff (type : ElemType) (count : UInt32) :
    (∀ message after, Accepted type message after → nevents message = count.toNat →
      InBounds type message after) ↔
    (type = .taskMiniAdd → count.toNat ≤ 1 ∨ maxCommDataSz ≤ 120 * count.toNat) ∧
      (type = .taskTopProcs → count.toNat ≤ 1) := by
  constructor
  · intro inBounds
    constructor
    · rintro rfl
      by_contra several
      rw [not_or, Nat.not_le, Nat.not_le] at several
      obtain ⟨more, isCount⟩ := Nat.exists_eq_add_of_le several.1
      rw [Nat.add_comm] at isCount
      have small : 120 * (more + 2) < maxCommDataSz := by
        rw [← isCount]
        exact several.2
      obtain ⟨after, accepted, number, outside⟩ := miniAdd_out_of_bounds small
      exact outside (inBounds _ after accepted (number.trans isCount.symm))
    · rintro rfl
      by_contra several
      obtain ⟨more, isCount⟩ := Nat.exists_eq_add_of_le (Nat.not_le.mp several)
      rw [Nat.add_comm] at isCount
      have few : more + 2 < 2 ^ 32 := by
        rw [← isCount]
        exact count.toNat_lt
      obtain ⟨after, accepted, number, outside⟩ := topProcs_out_of_bounds few
      exact outside (inBounds _ after accepted (number.trans isCount.symm))
  · rintro ⟨miniAdd, topProcs⟩ message after accepted number
    rw [← number] at miniAdd topProcs
    apply accepted.inBounds _ topProcs
    intro isMini
    rcases miniAdd isMini with single | tooMany
    · exact single
    obtain ⟨magic, valid⟩ := accepted.header
    have validated := accepted.validated
    rw [isMini] at validated
    have fits := taskMiniAddLoop_size validated
    simp only [validate, Bool.and_eq_true, decide_eq_true_eq] at valid
    omega

/-- Two tasks without command lines where `validate` looks for them: a handler reads the
second one from 24 bytes before, and finds a command line of almost 4 GB.  And one list of
top processes that is said to be two, of which the second one starts behind the message. -/
theorem two_elements_out_of_bounds :
    (∃ after, Accepted .taskMiniAdd (shiftedMessage 0) after ∧ nevents (shiftedMessage 0) = 2 ∧
      ¬InBounds .taskMiniAdd (shiftedMessage 0) after) ∧
    ∃ after, Accepted .taskTopProcs (countedTopProcs 0) after ∧ nevents (countedTopProcs 0) = 2 ∧
      ¬InBounds .taskTopProcs (countedTopProcs 0) after :=
  ⟨miniAdd_out_of_bounds (by decide), topProcs_out_of_bounds (by decide)⟩

end Gyeeta.Comm
