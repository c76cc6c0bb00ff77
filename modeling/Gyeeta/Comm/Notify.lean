import Gyeeta.Comm.Header

/-!
# Notification types

The subtypes of `COMM_EVENT_NOTIFY` and `COMM_QUERY_CMD` messages.
-/

namespace Gyeeta.Comm

/-- `NOTIFY_TYPE_E`, without the markers between its ranges. -/
inductive NotifyType where
  | parthaStatus
  | madhavaParthaStatus
  | madhavaShyamaStatus
  | shyamaMadhavaStatus
  | madhavaMadhavaStatus
  | madhavaList
  | taskMiniAdd
  | taskFullAdd
  | taskTopProcs
  | taskHistogram
  | taskAggr
  | pingTaskAggr
  | newListener
  | listenerDayStats
  | listenerState
  | listenerDependency
  | listenerNatIpEvent
  | tcpConn
  | natTcp
  | mpCliTcpInfo
  | cpuMemState
  | aggrTaskState
  | hostStateV000100
  | activeConnStats
  | listenerDomainEvent
  | listenTaskmapEvent
  | mpResetStats
  | mpSerTcpInfo
  | hostInfo
  | hostCpuMemChange
  | notificationMsg
  | aggrTaskHistStats
  | listenClusterInfo
  | hostState
  | reqTraceTran
  | reqTraceSet
  | reqTraceStatus
  | msTcpConn
  | msTcpConnClose
  | shyamaSerTcpInfo
  | shyamaCliTcpInfo
  | msSvcClusterMesh
  | smSvcClusterMesh
  | msListenerNatIp
  | smSvcNatIpCluster
  | smAlertAdefNew
  | smAlertAdefUpd
  | smAlertStatDisable
  | alertStatInfo
  | alertStatClose
  | msClusterState
  | msParthaPing
  | msRegPartha
  | smReqTraceDefNew
  | smReqTraceDefDisable
  | mmTaskAggrPing
  | mmTaskAggrDel
  | mmTcpConnTaskClose
  | mmAggrTaskState
  | mmListenerIssueResol
  | mmListenerPing
  | mmListenerDelete
  | mmListenerDepends
  | mmActiveConnStats
  | smParthaIdent
  | pingConn
  | jsonEvent
  | error
  deriving DecidableEq, Repr

namespace NotifyType

/-- The number of a subtype on the wire. -/
def code : NotifyType → Nat
  | parthaStatus => 0x101
  | madhavaParthaStatus => 0x102
  | madhavaShyamaStatus => 0x103
  | shyamaMadhavaStatus => 0x104
  | madhavaMadhavaStatus => 0x105
  | madhavaList => 0x106
  | taskMiniAdd => 0x301
  | taskFullAdd => 0x302
  | taskTopProcs => 0x303
  | taskHistogram => 0x304
  | taskAggr => 0x305
  | pingTaskAggr => 0x306
  | newListener => 0x307
  | listenerDayStats => 0x308
  | listenerState => 0x309
  | listenerDependency => 0x30A
  | listenerNatIpEvent => 0x30B
  | tcpConn => 0x30C
  | natTcp => 0x30D
  | mpCliTcpInfo => 0x30E
  | cpuMemState => 0x30F
  | aggrTaskState => 0x310
  | hostStateV000100 => 0x311
  | activeConnStats => 0x312
  | listenerDomainEvent => 0x313
  | listenTaskmapEvent => 0x314
  | mpResetStats => 0x315
  | mpSerTcpInfo => 0x316
  | hostInfo => 0x317
  | hostCpuMemChange => 0x318
  | notificationMsg => 0x319
  | aggrTaskHistStats => 0x31A
  | listenClusterInfo => 0x31B
  | hostState => 0x31C
  | reqTraceTran => 0x31D
  | reqTraceSet => 0x31E
  | reqTraceStatus => 0x31F
  | msTcpConn => 0x501
  | msTcpConnClose => 0x502
  | shyamaSerTcpInfo => 0x503
  | shyamaCliTcpInfo => 0x504
  | msSvcClusterMesh => 0x505
  | smSvcClusterMesh => 0x506
  | msListenerNatIp => 0x507
  | smSvcNatIpCluster => 0x508
  | smAlertAdefNew => 0x509
  | smAlertAdefUpd => 0x50A
  | smAlertStatDisable => 0x50B
  | alertStatInfo => 0x50C
  | alertStatClose => 0x50D
  | msClusterState => 0x50E
  | msParthaPing => 0x50F
  | msRegPartha => 0x510
  | smReqTraceDefNew => 0x511
  | smReqTraceDefDisable => 0x512
  | mmTaskAggrPing => 0x701
  | mmTaskAggrDel => 0x702
  | mmTcpConnTaskClose => 0x703
  | mmAggrTaskState => 0x704
  | mmListenerIssueResol => 0x705
  | mmListenerPing => 0x706
  | mmListenerDelete => 0x707
  | mmListenerDepends => 0x708
  | mmActiveConnStats => 0x709
  | smParthaIdent => 0x901
  | pingConn => 0xA01
  | jsonEvent => 0xA02
  | error => 0xB01

/-- The subtype with a number. -/
def ofCode : Nat → Option NotifyType
  | 0x101 => some parthaStatus
  | 0x102 => some madhavaParthaStatus
  | 0x103 => some madhavaShyamaStatus
  | 0x104 => some shyamaMadhavaStatus
  | 0x105 => some madhavaMadhavaStatus
  | 0x106 => some madhavaList
  | 0x301 => some taskMiniAdd
  | 0x302 => some taskFullAdd
  | 0x303 => some taskTopProcs
  | 0x304 => some taskHistogram
  | 0x305 => some taskAggr
  | 0x306 => some pingTaskAggr
  | 0x307 => some newListener
  | 0x308 => some listenerDayStats
  | 0x309 => some listenerState
  | 0x30A => some listenerDependency
  | 0x30B => some listenerNatIpEvent
  | 0x30C => some tcpConn
  | 0x30D => some natTcp
  | 0x30E => some mpCliTcpInfo
  | 0x30F => some cpuMemState
  | 0x310 => some aggrTaskState
  | 0x311 => some hostStateV000100
  | 0x312 => some activeConnStats
  | 0x313 => some listenerDomainEvent
  | 0x314 => some listenTaskmapEvent
  | 0x315 => some mpResetStats
  | 0x316 => some mpSerTcpInfo
  | 0x317 => some hostInfo
  | 0x318 => some hostCpuMemChange
  | 0x319 => some notificationMsg
  | 0x31A => some aggrTaskHistStats
  | 0x31B => some listenClusterInfo
  | 0x31C => some hostState
  | 0x31D => some reqTraceTran
  | 0x31E => some reqTraceSet
  | 0x31F => some reqTraceStatus
  | 0x501 => some msTcpConn
  | 0x502 => some msTcpConnClose
  | 0x503 => some shyamaSerTcpInfo
  | 0x504 => some shyamaCliTcpInfo
  | 0x505 => some msSvcClusterMesh
  | 0x506 => some smSvcClusterMesh
  | 0x507 => some msListenerNatIp
  | 0x508 => some smSvcNatIpCluster
  | 0x509 => some smAlertAdefNew
  | 0x50A => some smAlertAdefUpd
  | 0x50B => some smAlertStatDisable
  | 0x50C => some alertStatInfo
  | 0x50D => some alertStatClose
  | 0x50E => some msClusterState
  | 0x50F => some msParthaPing
  | 0x510 => some msRegPartha
  | 0x511 => some smReqTraceDefNew
  | 0x512 => some smReqTraceDefDisable
  | 0x701 => some mmTaskAggrPing
  | 0x702 => some mmTaskAggrDel
  | 0x703 => some mmTcpConnTaskClose
  | 0x704 => some mmAggrTaskState
  | 0x705 => some mmListenerIssueResol
  | 0x706 => some mmListenerPing
  | 0x707 => some mmListenerDelete
  | 0x708 => some mmListenerDepends
  | 0x709 => some mmActiveConnStats
  | 0x901 => some smParthaIdent
  | 0xA01 => some pingConn
  | 0xA02 => some jsonEvent
  | 0xB01 => some error
  | _ => none

@[simp] lemma ofCode_code (type : NotifyType) : ofCode type.code = some type := by
  cases type <;> rfl

end NotifyType

/-- `QUERY_TYPE_E`, without the markers at its ends. -/
inductive QueryType where
  | webJson
  | crudGenericJson
  | crudAlertJson
  | listenerInfoStats
  | parthaMadhava
  deriving DecidableEq, Repr

/-- The query with a number. -/
def QueryType.ofCode : Nat → Option QueryType
  | 1 => some webJson
  | 2 => some crudGenericJson
  | 3 => some crudAlertJson
  | 200 => some listenerInfoStats
  | 201 => some parthaMadhava
  | _ => none

end Gyeeta.Comm
