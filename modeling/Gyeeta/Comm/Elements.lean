import Gyeeta.Comm.Header
import Gyeeta.Comm.Notify
import Gyeeta.Lib.Layout

/-!
# Elements of variable length

A notification is a `COMM_HEADER`, an `EVENT_NOTIFY` with the number of elements, and the
elements.  Many have strings or arrays behind their structure, whose lengths are in the
structure; `validate` of the type walks over them, checks that they fit into the message and
terminates their strings.  Offsets and sizes are those of the 64-bit ABI.
-/

namespace Gyeeta.Comm

open List CommHeader Bytes

/-- `sizeof(COMM_HEADER) + sizeof(EVENT_NOTIFY)`, where the elements start. -/
def notifySize : Nat := 24

/-- `nevents_` of the `EVENT_NOTIFY` of a message. -/
def nevents (message : Bytes) : Nat :=
  message.field 20 4

/-! ## Elements in a row -/

/-- What `validate` of a type checks of its elements. -/
structure Batch where
  layout : Layout
  /-- The largest number of elements. -/
  maxElems : Nat
  /-- The size of an element must be a multiple of eight. -/
  padded : Bool
  /-- The limits on the lengths in an element. -/
  check : List Nat → Bool
  /-- The bytes of an element that are overwritten with a terminator. -/
  terminators : Bytes → List Nat
  terminators_eq : ∀ one, check (layout.counts one) = true →
    terminators one = layout.terminators one

namespace Batch

/-- The loop of `validate` over the elements, with the length that remains. -/
def validateLoop (batch : Batch) : (nelems totallen start : Nat) → Memory → Option Memory
  | 0, _, _, memory => some memory
  | nelems + 1, totallen, start, memory =>
    let one := batch.layout.structAt memory.bytes start
    let elemSz := batch.layout.extent one
    -- The loop ends before an element that does not fit, and not all are found then.
    if totallen < batch.layout.size then none
    else if totallen < elemSz then none
    else if batch.padded = true ∧ elemSz % 8 ≠ 0 then none
    else if batch.check (batch.layout.counts one) = true then
      batch.validateLoop nelems (totallen - elemSz) (start + elemSz)
        (memory.zeroAt ((batch.terminators one).map (start + ·)))
    else none

/-- `validate` of a type with elements in a row: the message with the strings terminated,
`none` if it is rejected. -/
def validate (batch : Batch) (message : Bytes) : Option Memory :=
  let hdr := parse message
  if hdr.actLen < notifySize then none
  else if batch.maxElems < nevents message then none
  else batch.validateLoop (nevents message) (hdr.actLen - notifySize) notifySize ⟨message, []⟩

/-- A type whose strings are terminated as they follow one another. -/
def ofLayout (layout : Layout) (maxElems : Nat) (padded : Bool) (check : List Nat → Bool) :
    Batch where
  layout := layout
  maxElems := maxElems
  padded := padded
  check := check
  terminators := layout.terminators
  terminators_eq _ _ := rfl

end Batch

/-- `TASK_AGGR_NOTIFY`: `cmdline_`, `tag_` and padding. -/
def taskAggrNotify : Batch :=
  .ofLayout { size := 48, arrays := [], parts := [.string 40 2, .string 42 1, .padding 44 1] }
    1200 true fun _ => true

/-- `NEW_LISTENER`: `cmdline_` and padding. -/
def newListener : Batch :=
  .ofLayout { size := 112, arrays := [], parts := [.string 104 2, .padding 106 1] }
    2048 true fun _ => true

/-- `TCP_CONN_NOTIFY`: `cli_cmdline_` and padding. -/
def tcpConnNotify : Batch :=
  .ofLayout { size := 280, arrays := [], parts := [.string 272 2, .padding 279 1] }
    2048 true fun _ => true

/-- `AGGR_TASK_STATE_NOTIFY`: `issue_string_` and padding. -/
def aggrTaskStateNotify : Batch :=
  .ofLayout { size := 72, arrays := [], parts := [.string 68 1, .padding 69 1] }
    1200 true fun _ => true

/-- `LISTENER_STATE_NOTIFY`: `issue_string_` and padding. -/
def listenerStateNotify : Batch :=
  .ofLayout { size := 88, arrays := [], parts := [.string 85 1, .padding 86 1] }
    512 true fun _ => true

/-- `LISTENER_DEPENDENCY_NOTIFY`: `DEPENDS_ONE`s of 64 bytes. -/
def listenerDependencyNotify : Batch :=
  .ofLayout { size := 24, arrays := [], parts := [.array 16 4 64] } 256 false fun
    | [ndepends] => ndepends ≤ 512
    | _ => false

/-- `LISTENER_CLUSTER_NOTIFY`: `RELSVC_CLUSTER_ONE`s of 32 bytes. -/
def listenerClusterNotify : Batch :=
  .ofLayout { size := 16, arrays := [], parts := [.array 8 4 32] } 256 false fun
    | [nclusterElems] => nclusterElems ≤ 1024
    | _ => false

/-- `MS_SVC_CLUSTER_MESH`: `RELSVC_CLUSTER_ONE`s. -/
def msSvcClusterMesh : Batch :=
  .ofLayout { size := 96, arrays := [], parts := [.array 8 4 32] } 256 false fun
    | [nclusterElems] => nclusterElems ≤ 1024
    | _ => false

/-- `SM_SVC_CLUSTER_MESH`: `RELSVC_CLUSTER_ONE`s. -/
def smSvcClusterMesh : Batch :=
  .ofLayout { size := 96, arrays := [], parts := [.array 12 4 32] } 1024 false fun
    | [nmadhavaElems] => nmadhavaElems ≤ 2048
    | _ => false

/-- `MS_LISTENER_NAT_IP`: new and deleted `IP_PORT`s of 32 bytes. -/
def msListenerNatIp : Batch :=
  .ofLayout { size := 120, arrays := [], parts := [.array 112 1 32, .array 113 1 32] }
    256 false fun
    | [nelemsNew, nelemsDel] => nelemsNew + nelemsDel ≤ 8
    | _ => false

/-- `MM_LISTENER_ISSUE_RESOL`: `DOWNSTREAM_ONE`s of 12 bytes and padding. -/
def mmListenerIssueResol : Batch :=
  .ofLayout { size := 48, arrays := [], parts := [.array 40 2 12, .padding 46 1] } 512 true fun
    | [ndownstreams, _] => ndownstreams ≤ 2048
    | _ => false

/-- `LISTENER_DOMAIN_NOTIFY`: `domain_string_`, `tag_` and padding. -/
def listenerDomainNotify : Batch :=
  .ofLayout { size := 16, arrays := [], parts := [.string 8 1, .string 9 1, .padding 10 1] }
    512 true fun _ => true

/-- `LISTEN_TASKMAP_NOTIFY`: the ids of listeners and of tasks. -/
def listenTaskmapNotify : Batch :=
  .ofLayout { size := 32, arrays := [], parts := [.array 24 2 8, .array 26 2 8] } 2048 false fun
    | [nlisten, naggrTaskid] => nlisten ≤ 2048 && naggrTaskid ≤ 128
    | _ => false

/-- `NOTIFICATION_MSG`: `msg_` and padding. -/
def notificationMsg : Batch :=
  .ofLayout { size := 8, arrays := [], parts := [.string 2 2, .padding 4 1] }
    128 true fun _ => true

/-- `SM_ALERT_ADEF_NEW`: `json_` and padding. -/
def smAlertAdefNew : Batch :=
  .ofLayout { size := 24, arrays := [], parts := [.string 14 2, .padding 16 1] } 128 true fun
    | [lenjson, _] => lenjson ≠ 0
    | _ => false

/-- `ALERT_STAT_INFO`: `json_` and padding. -/
def alertStatInfo : Batch :=
  .ofLayout { size := 32, arrays := [], parts := [.string 28 2, .padding 30 1] } 128 true fun
    | [lenjson, _] => lenjson ≠ 0
    | _ => false

/-- `REQ_TRACE_TRAN`, an `API_TRAN`: `request_`, `ext_` and padding, with the limits
`MAX_PARSE_API_LEN` and `MAX_PARSE_EXT_LEN`. -/
def reqTraceTran : Batch :=
  .ofLayout
    { size := 176, arrays := [], parts := [.string 170 2, .array 172 2 1, .padding 174 1] }
    256 true fun
    | [requestLen, lenext, _] => requestLen ≠ 0 && requestLen ≤ 16 * 1024 && lenext ≤ 1400
    | _ => false

/-- `API_TRAN::get_max_actual_send_size`. -/
def maxActualSendSize : Nat := 512 * 1024 + 16 * 1024 + 1400 + 176 + 512

/-- `REQ_TRACE_TRAN::validate` has a limit of its own on the whole message. -/
def reqTraceTranValidate (message : Bytes) : Option Memory :=
  if maxActualSendSize ≤ (parse message).totalSz then none
  else reqTraceTran.validate message

/-- `SM_REQ_TRACE_DEF_NEW`: `cap_glob_id_arr_` or `crit_`, not both, and padding. -/
def smReqTraceDefNewLayout : Layout where
  size := 88
  arrays := [⟨16, 64⟩]
  parts := [.array 80 2 8, .string 82 2, .padding 84 1]

def smReqTraceDefNewCheck : List Nat → Bool
  | [ncapGlobIdArr, lencrit, _] =>
    !(ncapGlobIdArr = 0 && lencrit = 0) && !(ncapGlobIdArr ≠ 0 && lencrit ≠ 0) &&
      ncapGlobIdArr ≤ 1024
  | _ => false

/-- The last bytes of `name_` and of `crit_`, which is taken to follow the structure. -/
def smReqTraceDefNewTerminators : List Nat → List Nat
  | [_, lencrit, _] => if lencrit ≠ 0 then [79, 88 + lencrit - 1] else [79]
  | _ => []

lemma smReqTraceDefNew_terminators (one : Bytes)
    (checked : smReqTraceDefNewCheck (smReqTraceDefNewLayout.counts one) = true) :
    smReqTraceDefNewTerminators (smReqTraceDefNewLayout.counts one) =
      smReqTraceDefNewLayout.terminators one := by
  have counts : smReqTraceDefNewLayout.counts one =
      [(Field.mk 80 2).get one, (Field.mk 82 2).get one, (Field.mk 84 1).get one] := rfl
  have places : smReqTraceDefNewLayout.places one = [⟨88, (Field.mk 80 2).get one * 8, false⟩,
        ⟨88 + (Field.mk 80 2).get one * 8, (Field.mk 82 2).get one * 1, true⟩,
        ⟨88 + (Field.mk 80 2).get one * 8 + (Field.mk 82 2).get one * 1,
          (Field.mk 84 1).get one * 1, false⟩] := rfl
  rw [counts, smReqTraceDefNewCheck] at checked
  rw [counts, smReqTraceDefNewTerminators, Layout.terminators, places]
  by_cases none : (Field.mk 82 2).get one = 0
  · simp [none, smReqTraceDefNewLayout]
  · have noArray : (Field.mk 80 2).get one = 0 := by
      by_contra some
      simp [some, none] at checked
    simp [none, noArray, smReqTraceDefNewLayout]

def smReqTraceDefNew : Batch where
  layout := smReqTraceDefNewLayout
  maxElems := 128
  padded := true
  check := smReqTraceDefNewCheck
  terminators one := smReqTraceDefNewTerminators (smReqTraceDefNewLayout.counts one)
  terminators_eq := smReqTraceDefNew_terminators

/-- The types whose elements are validated in a row. -/
inductive BatchType where
  | taskAggr
  | newListener
  | tcpConn
  | aggrTaskState
  | listenerState
  | listenerDependency
  | listenerCluster
  | msSvcClusterMesh
  | smSvcClusterMesh
  | msListenerNatIp
  | mmListenerIssueResol
  | listenerDomain
  | listenTaskmap
  | notificationMsg
  | smAlertAdefNew
  | alertStatInfo
  | reqTraceTran
  | smReqTraceDefNew
  deriving DecidableEq, Repr

namespace BatchType

def batch : BatchType → Batch
  | taskAggr => taskAggrNotify
  | newListener => Comm.newListener
  | tcpConn => tcpConnNotify
  | aggrTaskState => aggrTaskStateNotify
  | listenerState => listenerStateNotify
  | listenerDependency => listenerDependencyNotify
  | listenerCluster => listenerClusterNotify
  | msSvcClusterMesh => Comm.msSvcClusterMesh
  | smSvcClusterMesh => Comm.smSvcClusterMesh
  | msListenerNatIp => Comm.msListenerNatIp
  | mmListenerIssueResol => Comm.mmListenerIssueResol
  | listenerDomain => listenerDomainNotify
  | listenTaskmap => listenTaskmapNotify
  | notificationMsg => Comm.notificationMsg
  | smAlertAdefNew => Comm.smAlertAdefNew
  | alertStatInfo => Comm.alertStatInfo
  | reqTraceTran => Comm.reqTraceTran
  | smReqTraceDefNew => Comm.smReqTraceDefNew

def validate (type : BatchType) (message : Bytes) : Option Memory :=
  if type = .reqTraceTran then reqTraceTranValidate message
  else type.batch.validate message

end BatchType

/-! ## Tasks -/

/-- `validate(const COMM_HEADER *, size_t & elem_sz)` of `TASK_MINI_ADD` and
`TASK_FULL_ADD`: the size of the element and of the headers, and the message with the
strings terminated. -/
def validateTask (layout : Layout) (check : Bytes → Bool) (hdr : CommHeader) (start : Nat)
    (memory : Memory) : Option (Nat × Memory) :=
  let one := layout.structAt memory.bytes start
  let elemSz := notifySize + layout.extent one
  if hdr.actLen < notifySize + layout.size then none
  else if hdr.actLen < elemSz then none
  else if check one = false then none
  else if elemSz % 8 ≠ 0 then none
  else some (elemSz, layout.terminate memory start)

/-- `TASK_MINI_ADD`: `task_cmdline_` and padding. -/
def taskMiniAdd : Layout where
  size := 96
  arrays := [⟨28, 16⟩, ⟨44, 16⟩]
  parts := [.string 84 4, .padding 88 4]

/-- `task_pid_` must not be zero. -/
def taskMiniAddCheck (one : Bytes) : Bool :=
  one.field 16 4 ≠ 0

/-- The loop of `TASK_MINI_ADD::validate`, which goes on behind the size of the element and
of the headers. -/
def taskMiniAddLoop : (nevents : Nat) → CommHeader → (start : Nat) → Memory → Option Memory
  | 0, _, _, memory => some memory
  | nevents + 1, hdr, start, memory =>
    if hdr.totalSz ≤ commHeaderSize then none
    else
      match validateTask taskMiniAdd taskMiniAddCheck hdr start memory with
      | none => none
      | some (elemSz, memory) =>
        taskMiniAddLoop nevents { hdr with totalSz := hdr.totalSz - elemSz }
          (start + elemSz) memory

/-- `TASK_FULL_ADD`: `task_exe_path_`, `task_cmdline_`, `task_tags_` and padding. -/
def taskFullAdd : Layout where
  size := 160
  arrays := [⟨28, 16⟩, ⟨44, 16⟩]
  parts := [.string 146 2, .string 148 2, .string 150 2, .padding 152 1]

/-- The loop of `TASK_FULL_ADD::validate`, which takes the headers off the size again. -/
def taskFullAddLoop : (nevents : Nat) → CommHeader → (start : Nat) → Memory → Option Memory
  | 0, _, _, memory => some memory
  | nevents + 1, hdr, start, memory =>
    if hdr.totalSz ≤ commHeaderSize then none
    else
      match validateTask taskFullAdd (fun _ => true) hdr start memory with
      | none => none
      | some (elemSz, memory) =>
        taskFullAddLoop nevents { hdr with totalSz := hdr.totalSz - (elemSz - notifySize) }
          (start + (elemSz - notifySize)) memory

/-! ## Single elements -/

/-- `TASK_TOP_PROCS`: `TOP_TASK`s by CPU, `TOP_PG_TASK`s, `TOP_TASK`s by memory and
`TOP_FORK_TASK`s. -/
def taskTopProcs : Layout where
  size := 16
  arrays := []
  parts := [.array 0 2 40, .array 2 2 64, .array 4 2 40, .array 6 2 40]

/-- The limits on the numbers of processes; `npg_procs_` is compared with the first one. -/
def taskTopProcsCheck : List Nat → Bool
  | [nprocs, npgProcs, nrssProcs, nforkProcs] =>
    nprocs ≤ 15 && npgProcs ≤ 15 && nrssProcs ≤ 8 && nforkProcs ≤ 5
  | _ => false

/-- `TASK_TOP_PROCS::validate`; it does not look at the number of elements. -/
def taskTopProcsValidate (message : Bytes) : Option Memory :=
  let hdr := parse message
  let one := taskTopProcs.structAt message notifySize
  if hdr.actLen < notifySize + taskTopProcs.size then none
  else if hdr.actLen - (notifySize + taskTopProcs.size) ≠ one.field 8 2 then none
  else if taskTopProcsCheck (taskTopProcs.counts one) = false then none
  else if hdr.actLen = notifySize + taskTopProcs.extent one then some ⟨message, []⟩
  else none

/-- `CPU_MEM_STATE_NOTIFY`: `cpu_state_string_`, `mem_state_string_` and padding. -/
def cpuMemStateNotify : Layout where
  size := 200
  arrays := []
  parts := [.string 68 1, .string 196 1, .padding 197 1]

/-- `CPU_MEM_STATE_NOTIFY::validate`. -/
def cpuMemStateValidate (message : Bytes) : Option Memory :=
  let hdr := parse message
  if hdr.actLen < notifySize then none
  else if nevents message ≠ 1 then none
  else if hdr.actLen ≠ notifySize + cpuMemStateNotify.extentAt message notifySize then none
  else some (cpuMemStateNotify.terminate ⟨message, []⟩ notifySize)

/-! ## All types -/

/-- The types of elements of variable length. -/
inductive ElemType where
  | taskMiniAdd
  | taskFullAdd
  | taskTopProcs
  | cpuMemState
  | batch (type : BatchType)
  deriving DecidableEq, Repr

namespace ElemType

def layout : ElemType → Layout
  | taskMiniAdd => Comm.taskMiniAdd
  | taskFullAdd => Comm.taskFullAdd
  | taskTopProcs => Comm.taskTopProcs
  | cpuMemState => cpuMemStateNotify
  | batch type => type.batch.layout

/-- `validate` of the type: the message with the strings terminated, `none` if it is
rejected. -/
def validate : ElemType → Bytes → Option Memory
  | taskMiniAdd, message =>
    taskMiniAddLoop (nevents message) (parse message) notifySize ⟨message, []⟩
  | taskFullAdd, message =>
    taskFullAddLoop (nevents message) (parse message) notifySize ⟨message, []⟩
  | taskTopProcs, message => taskTopProcsValidate message
  | cpuMemState, message => cpuMemStateValidate message
  | batch type, message => type.validate message

/-- `get_elem_size()` of the element at an offset.  That of `TASK_MINI_ADD` is a `uint32_t`
and has lengths of that width; the others cannot overflow their result. -/
def getElemSize (type : ElemType) (bytes : Bytes) (start : Nat) : Nat :=
  match type with
  | taskMiniAdd => Comm.taskMiniAdd.extentAt bytes start % 2 ^ 32
  | _ => type.layout.extentAt bytes start

end ElemType

/-- The type of the elements of a notification, as the handlers read it. -/
def NotifyType.elemType : NotifyType → Option ElemType
  | taskMiniAdd => some .taskMiniAdd
  | taskFullAdd => some .taskFullAdd
  | taskTopProcs => some .taskTopProcs
  | cpuMemState => some .cpuMemState
  | taskAggr => some (.batch .taskAggr)
  | newListener => some (.batch .newListener)
  | tcpConn => some (.batch .tcpConn)
  | aggrTaskState => some (.batch .aggrTaskState)
  | mmAggrTaskState => some (.batch .aggrTaskState)
  | listenerState => some (.batch .listenerState)
  | listenerDependency => some (.batch .listenerDependency)
  | listenClusterInfo => some (.batch .listenerCluster)
  | msSvcClusterMesh => some (.batch .msSvcClusterMesh)
  | smSvcClusterMesh => some (.batch .smSvcClusterMesh)
  | msListenerNatIp => some (.batch .msListenerNatIp)
  | mmListenerIssueResol => some (.batch .mmListenerIssueResol)
  | listenerDomainEvent => some (.batch .listenerDomain)
  | listenTaskmapEvent => some (.batch .listenTaskmap)
  | notificationMsg => some (.batch .notificationMsg)
  | smAlertAdefNew => some (.batch .smAlertAdefNew)
  | alertStatInfo => some (.batch .alertStatInfo)
  | reqTraceTran => some (.batch .reqTraceTran)
  | smReqTraceDefNew => some (.batch .smReqTraceDefNew)
  | _ => none

/-! ## Notifications -/

/-- The header of a notification whose size needs no padding. -/
def notifyHeader (magic : HdrMagic) (totalSz : Nat) : CommHeader :=
  ⟨magic.code, totalSz, CommType.eventNotify.code, 0⟩

/-- The header and the `EVENT_NOTIFY` before the elements. -/
def notifyBytes (hdr : CommHeader) (subtype : NotifyType) (count : Nat) : Bytes :=
  hdr.toBytes ++ .ofNat 4 subtype.code ++ .ofNat 4 count

/-- The words of a header and of an `EVENT_NOTIFY` have 32 bits. -/
structure WordsFit (hdr : CommHeader) (count : Nat) : Prop where
  magic : hdr.magic < 2 ^ 32
  totalSz : hdr.totalSz < 2 ^ 32
  dataType : hdr.dataType < 2 ^ 32
  paddingSz : hdr.paddingSz < 2 ^ 32
  count : count < 2 ^ 32

@[simp] lemma length_notifyBytes (hdr : CommHeader) (subtype : NotifyType) (count : Nat) :
    (notifyBytes hdr subtype count).length = notifySize := by
  simp [notifyBytes, toBytes, notifySize]

lemma field_ofNat (front back : Bytes) {value : Nat} (fits : value < 2 ^ 32) :
    (front ++ (ofNat 4 value ++ back)).field front.length 4 = value := by
  have right := slice_append_right front (ofNat 4 value ++ back) 0 4
  rw [Nat.add_zero] at right
  rw [field, right, slice_append_left _ (by simp), slice_zero,
    take_of_length_le (by simp), toNat_ofNat fits]

lemma code_lt (subtype : NotifyType) : subtype.code < 2 ^ 32 := by
  cases subtype <;> decide

lemma parse_notifyBytes {hdr : CommHeader} {count : Nat} (words : WordsFit hdr count)
    (subtype : NotifyType) (rest : Bytes) : parse (notifyBytes hdr subtype count ++ rest) = hdr ∧
      (notifyBytes hdr subtype count ++ rest).field 16 4 = subtype.code ∧
      nevents (notifyBytes hdr subtype count ++ rest) = count := by
  have magic := field_ofNat [] (.ofNat 4 hdr.totalSz ++ (.ofNat 4 hdr.dataType ++
    (.ofNat 4 hdr.paddingSz ++ (.ofNat 4 subtype.code ++ (.ofNat 4 count ++ rest))))) words.magic
  have totalSz := field_ofNat (.ofNat 4 hdr.magic) (.ofNat 4 hdr.dataType ++
    (.ofNat 4 hdr.paddingSz ++ (.ofNat 4 subtype.code ++ (.ofNat 4 count ++ rest)))) words.totalSz
  have dataType := field_ofNat (.ofNat 4 hdr.magic ++ .ofNat 4 hdr.totalSz)
    (.ofNat 4 hdr.paddingSz ++ (.ofNat 4 subtype.code ++ (.ofNat 4 count ++ rest)))
    words.dataType
  have paddingSz := field_ofNat
    (.ofNat 4 hdr.magic ++ .ofNat 4 hdr.totalSz ++ .ofNat 4 hdr.dataType)
    (.ofNat 4 subtype.code ++ (.ofNat 4 count ++ rest)) words.paddingSz
  have code := field_ofNat hdr.toBytes (.ofNat 4 count ++ rest) (code_lt subtype)
  have number := field_ofNat (hdr.toBytes ++ .ofNat 4 subtype.code) rest words.count
  simp only [toBytes, length_append, length_ofNat, length_nil,
    append_assoc, nil_append, Nat.reduceAdd]
    at magic totalSz dataType paddingSz code number
  simp only [notifyBytes, toBytes, parse, nevents, append_assoc,
    magic, totalSz, dataType, paddingSz, code, number, and_self]

end Gyeeta.Comm
