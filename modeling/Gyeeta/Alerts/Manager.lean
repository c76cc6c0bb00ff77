import Gyeeta.Lib.Run
import Mathlib.Tactic.Ring

/-!
# The alert manager

The manager keeps the alerts that are not closed in a map by their identifier.  An alert of a
definition with a group wait joins the group of its columns, which is dispatched as a whole when
its timer fires.  A repeated alert replaces the one in the map.  Alerts, groups and definitions
are numbered.  The answers of filters, templates and the JSON parser come with a message.
-/

namespace Gyeeta.Alerts

/-- `ALERT_STATE_E`. -/
inductive AlertState where
  | groupWait
  | suppressed
  | active
  | acked
  | resolved
  | expired
  deriving DecidableEq, Repr

/-- `state_ >= ASTATE_ACTIVE`. -/
def AlertState.isFired : AlertState → Bool
  | .groupWait | .suppressed => false
  | .active | .acked | .resolved | .expired => true

structure AlertDef where
  isDeleted : Bool
  isEnabled : Bool
  forceclosesec : Int
  groupwaitsec : Nat
  deriving DecidableEq, Repr

structure AlertStats where
  alertid : Nat
  adefId : Nat
  /-- The definition that the alert was made with. -/
  pdef : Nat
  tstart : Int
  tforceClose : Int
  tclose : Int
  groupid : Nat
  pgroup : Option Nat
  /-- `palertdata_` is not null. -/
  palertdata : Bool
  state : AlertState
  isDeleted : Bool
  /-- It was cleaned up while it waited in its group. -/
  closedWaiting : Bool
  deriving DecidableEq, Repr

structure AlertGroup where
  groupid : Nat
  tnextchkusec : Nat
  statvec : List Nat
  /-- `AGROUP_WAIT`, else `AGROUP_IDLE`. -/
  isWait : Bool
  isDeleted : Bool
  deriving DecidableEq, Repr

/-- `ALERT_STAT_INFO`, with what the definition, the silences and the inhibits say about the
alert in it. -/
structure AlertStatInfo where
  alertid : Nat
  adefId : Nat
  talert : Int
  nrepeats : Nat
  lenjson : Nat
  jsonValid : Bool
  hasActions : Bool
  isSilenced : Bool
  isInhibited : Bool
  /-- The hash of the group string, if there is one. -/
  group : Option Nat
  deriving DecidableEq, Repr

structure AlertMgr where
  adefs : Nat → AlertDef
  adefmap : Nat → Option Nat
  alerts : Nat → AlertStats
  numAlerts : Nat
  astatmap : List (Nat × Nat)
  groups : Nat → AlertGroup
  numGroups : Nat
  agroupmap : Nat → Option Nat
  /-- The entries of `atimemap_` that dispatch a group. -/
  atimemap : List (Nat × Nat)
  tdisableEnd : Int
  tminStart : Int
  thourStart : Int
  nalertsMin : Nat
  nalertsHour : Nat
  /-- The alerts that were given to the action handler, in order. -/
  sent : List Nat
  /-- The closed alerts that were given to the handlers, with whether they expired. -/
  closeMsgs : List (Nat × Bool)
  /-- An alert of the identifier was dispatched, and none was closed or expired since. -/
  dispatched : Nat → Bool

namespace AlertMgr

def maxTotalAlertsPerMin : Nat := 3000

def maxTotalAlertsPerHour : Nat := 30000

def maxUnresolvedAlerts : Nat := 200000

def minAlertRepeatIntervalSec : Int := 900

/-- An object that no map refers to. -/
def noAlert : AlertStats := ⟨0, 0, 0, 0, 0, 0, 0, none, false, .groupWait, true, false⟩

def noGroup : AlertGroup := ⟨0, 0, [], false, true⟩

def init (adefs : Nat → AlertDef) (adefmap : Nat → Option Nat) : AlertMgr where
  adefs := adefs
  adefmap := adefmap
  alerts := fun _ => noAlert
  numAlerts := 0
  astatmap := []
  groups := fun _ => noGroup
  numGroups := 0
  agroupmap := fun _ => none
  atimemap := []
  tdisableEnd := 0
  tminStart := 0
  thourStart := 0
  nalertsMin := 0
  nalertsHour := 0
  sent := []
  closeMsgs := []
  dispatched := fun _ => false

def setAlert (mgr : AlertMgr) (alert : Nat) (astat : AlertStats) : AlertMgr :=
  { mgr with alerts := fun other => if other = alert then astat else mgr.alerts other }

def setGroup (mgr : AlertMgr) (number : Nat) (group : AlertGroup) : AlertMgr :=
  { mgr with groups := fun other => if other = number then group else mgr.groups other }

def setDispatched (mgr : AlertMgr) (alertid : Nat) (flag : Bool) : AlertMgr :=
  { mgr with
    dispatched := fun other => if other = alertid then flag else mgr.dispatched other }

/-- `astatmap_.find`. -/
def findStat (mgr : AlertMgr) (alertid : Nat) : Option Nat :=
  (mgr.astatmap.find? (·.1 = alertid)).map (·.2)

/-- `astatmap_.erase`. -/
def eraseStat (mgr : AlertMgr) (alertid : Nat) : AlertMgr :=
  { mgr with astatmap := mgr.astatmap.filter (·.1 ≠ alertid) }

/-- `agroupmap_.erase`. -/
def eraseGroup (mgr : AlertMgr) (groupid : Nat) : AlertMgr :=
  { mgr with
    agroupmap := fun other => if other = groupid then none else mgr.agroupmap other }

def eraseGroupTimemap (mgr : AlertMgr) (number keyusec : Nat) : AlertMgr :=
  { mgr with atimemap := mgr.atimemap.filter fun entry => ¬ (entry.1 = keyusec ∧ entry.2 = number) }

/-- A group is deleted and leaves the map. -/
def dropGroup (mgr : AlertMgr) (number : Nat) : AlertMgr :=
  (mgr.setGroup number { mgr.groups number with isDeleted := true }).eraseGroup
    (mgr.groups number).groupid

/-- The part of `cleanup_alert_stat` that takes an alert out of its group. -/
def leaveGroup (mgr : AlertMgr) (alert : Nat) : AlertMgr :=
  match (mgr.alerts alert).pgroup with
  | none => mgr
  | some number =>
    let group := mgr.groups number
    let statvec := group.statvec.erase alert
    let left := (mgr.setGroup number { group with statvec := statvec }).setAlert alert
      { mgr.alerts alert with pgroup := none, closedWaiting := true }
    if statvec.isEmpty && !group.isDeleted then
      (if group.tnextchkusec ≠ 0 then left.eraseGroupTimemap number group.tnextchkusec
        else left).dropGroup number
    else left

/-- The state of an alert that is closed. -/
def markClosed (mgr : AlertMgr) (alert : Nat) (tclose : Int) (isForceClose : Bool) : AlertMgr :=
  mgr.setAlert alert { mgr.alerts alert with
    tclose := tclose
    state := if isForceClose then .expired else .resolved }

def setDeleted (mgr : AlertMgr) (alert : Nat) : AlertMgr :=
  mgr.setAlert alert { mgr.alerts alert with isDeleted := true }

def cleanupAlertStat (mgr : AlertMgr) (alert : Nat) (tclose : Int)
    (isClose isForceClose : Bool) : AlertMgr :=
  let firedAlert := (mgr.alerts alert).state.isFired
  let marked := if isClose then mgr.markClosed alert tclose isForceClose else mgr
  let left := marked.leaveGroup alert
  let told :=
    if isClose && firedAlert then
      { left with closeMsgs := left.closeMsgs ++ [((mgr.alerts alert).alertid, isForceClose)] }
    else left
  told.setDeleted alert

/-! ## Dispatch -/

/-- `send_multi_action_msg` sends an alert. -/
def canSend (astat : AlertStats) : Bool :=
  !astat.isDeleted && astat.palertdata

/-- `send_multi_action_msg` and `send_alert_to_dbhdlr` for a list of alerts, and
`clear_strings` for those that are not deleted. -/
def sendAlerts (mgr : AlertMgr) (statvec : List Nat) : AlertMgr :=
  let sending := statvec.filter fun alert => canSend (mgr.alerts alert)
  { mgr with
    alerts := fun alert =>
      let astat := mgr.alerts alert
      if alert ∈ statvec ∧ astat.isDeleted = false then
        { astat with
          state := if astat.palertdata then .active else astat.state
          pgroup := none
          palertdata := false }
      else astat
    sent := mgr.sent ++ sending
    dispatched := fun alertid =>
      mgr.dispatched alertid || sending.any fun alert => (mgr.alerts alert).alertid = alertid }

def agroupSendAlerts (mgr : AlertMgr) (number : Nat) : AlertMgr :=
  if (mgr.groups number).statvec.isEmpty then mgr
  else (mgr.sendAlerts (mgr.groups number).statvec).dropGroup number

/-- `new ALERT_GROUP`, in the map. -/
def newGroup (mgr : AlertMgr) (groupid : Nat) : Nat × AlertMgr :=
  (mgr.numGroups, { mgr.setGroup mgr.numGroups ⟨groupid, 0, [], false, false⟩ with
      numGroups := mgr.numGroups + 1
      agroupmap := fun other =>
        if other = groupid then some mgr.numGroups else mgr.agroupmap other })

/-- A group for a hash: the one in the map, or a new one. -/
def openGroup (mgr : AlertMgr) (groupid : Nat) : Nat × AlertMgr :=
  match mgr.agroupmap groupid with
  | some number =>
    if (mgr.groups number).isDeleted then mgr.newGroup groupid else (number, mgr)
  | none => mgr.newGroup groupid

/-- `GY_USEC_PER_SEC`. -/
def usecPerSec : Nat := 1000000

/-- An alert joins a group, which starts to wait with its first alert.  The time of its check is
an unsigned 64-bit number. -/
def joinGroup (mgr : AlertMgr) (alert number groupwaitsec currtusec : Nat) : AlertMgr :=
  let group := mgr.groups number
  let joined := mgr.setAlert alert { mgr.alerts alert with
    groupid := group.groupid, pgroup := some number, state := .groupWait }
  if group.isWait then
    joined.setGroup number { group with statvec := group.statvec ++ [alert] }
  else
    let tnextchkusec := (currtusec + groupwaitsec * usecPerSec) % 2 ^ 64
    { joined.setGroup number { group with
        statvec := group.statvec ++ [alert]
        tnextchkusec := tnextchkusec
        isWait := true } with
      atimemap := mgr.atimemap ++ [(tnextchkusec, number)] }

def setAstatGroup (mgr : AlertMgr) (alert groupwaitsec : Nat) (group : Option Nat)
    (currtusec : Nat) : AlertMgr :=
  match group with
  | none => mgr
  | some groupid =>
    if groupwaitsec = 0 then mgr
    else
      let opened := mgr.openGroup groupid
      opened.2.joinGroup alert opened.1 groupwaitsec currtusec

/-! ## Alerts -/

def setAlertsDisabled (mgr : AlertMgr) (tcurr disableSec : Int) : AlertMgr :=
  { mgr with tdisableEnd := tcurr + disableSec }

/-- The alerts of this minute, which may start now. -/
def startMin (mgr : AlertMgr) (tcurr : Int) : AlertMgr :=
  if mgr.tminStart + 60 > tcurr then mgr else { mgr with tminStart := tcurr, nalertsMin := 0 }

/-- The alerts of this hour, which may start now. -/
def startHour (mgr : AlertMgr) (tcurr : Int) : AlertMgr :=
  if mgr.thourStart + 3600 > tcurr then mgr
  else { mgr with thourStart := tcurr, nalertsHour := 0 }

def checkSetAlertsAllowed (mgr : AlertMgr) (tcurr : Int) : Bool × AlertMgr :=
  if tcurr < mgr.tdisableEnd then (false, mgr)
  else if mgr.tminStart + 60 > tcurr ∧ mgr.nalertsMin + 1 ≥ maxTotalAlertsPerMin then
    (false, mgr.setAlertsDisabled tcurr 180)
  else
    let mgr := mgr.startMin tcurr
    if mgr.thourStart + 3600 > tcurr ∧ mgr.nalertsHour + 1 ≥ maxTotalAlertsPerHour then
      (false, mgr.setAlertsDisabled tcurr 1800)
    else
      let mgr := mgr.startHour tcurr
      if maxUnresolvedAlerts ≤ mgr.astatmap.length then (false, mgr)
      else
        (true, { mgr with nalertsMin := mgr.nalertsMin + 1, nalertsHour := mgr.nalertsHour + 1 })

/-- `ALERT_STATS::ALERT_STATS`, with the expiry of the alert that it repeats. -/
def newStats (stat : AlertStatInfo) (pdef : Nat) (forceclosesec : Int) (texpiry : Option Int) :
    AlertStats where
  alertid := stat.alertid
  adefId := stat.adefId
  pdef := pdef
  tstart := stat.talert
  tforceClose := texpiry.getD (stat.talert + forceclosesec)
  tclose := 0
  groupid := 0
  pgroup := none
  palertdata := true
  state := .groupWait
  isDeleted := false
  closedWaiting := false

/-- A new object in the alert map. -/
def newAlert (mgr : AlertMgr) (astat : AlertStats) : AlertMgr :=
  { mgr.setAlert mgr.numAlerts astat with
    numAlerts := mgr.numAlerts + 1
    astatmap := (astat.alertid, mgr.numAlerts) :: mgr.astatmap }

/-- The end of `add_alert_stat`: the alert is in the map, and joins a group or is sent. -/
def insertAlert (mgr : AlertMgr) (stat : AlertStatInfo) (pdef currtusec : Nat)
    (texpiry : Option Int) : AlertMgr :=
  let alert := mgr.numAlerts
  let added := mgr.newAlert (newStats stat pdef (mgr.adefs pdef).forceclosesec texpiry)
  let grouped := added.setAstatGroup alert (mgr.adefs pdef).groupwaitsec stat.group currtusec
  if (grouped.alerts alert).groupid = 0 then grouped.sendAlerts [alert] else grouped

/-- The checks of `add_alert_stat` on the definition and the time of an alert. -/
def defAllows (mgr : AlertMgr) (stat : AlertStatInfo) (pdef : Nat) (tcurr : Int) : Bool :=
  !(mgr.adefs pdef).isDeleted && (mgr.adefs pdef).isEnabled &&
    !(decide (stat.talert < tcurr - 3600 * 24) ||
      decide (stat.talert + (mgr.adefs pdef).forceclosesec < tcurr))

/-- Its checks on the text, the actions, the silences and the inhibits. -/
def AlertStatInfo.passes (stat : AlertStatInfo) : Bool :=
  stat.jsonValid && stat.hasActions && !stat.isSilenced && !stat.isInhibited

/-- The part of `add_alert_stat` after the lookup in the alert map. -/
def admitAlert (mgr : AlertMgr) (stat : AlertStatInfo) (tcurr : Int) (currtusec : Nat)
    (texpiry : Option Int) : Bool × AlertMgr :=
  match mgr.adefmap stat.adefId with
  | none => (false, mgr)
  | some pdef =>
    if mgr.defAllows stat pdef tcurr then
      let checked := mgr.checkSetAlertsAllowed tcurr
      if checked.1 && AlertStatInfo.passes stat then
        (true, checked.2.insertAlert stat pdef currtusec texpiry)
      else (false, checked.2)
    else (false, mgr)

/-- A repeated alert may replace the alert in the map. -/
def mayRepeat (astat : AlertStats) (tcurr : Int) : Bool :=
  decide (astat.tstart + minAlertRepeatIntervalSec - 5 < tcurr) && astat.state ≠ .acked

def addAlertStat (mgr : AlertMgr) (stat : AlertStatInfo) (tcurr : Int) (currtusec : Nat) :
    Bool × AlertMgr :=
  if stat.alertid = 0 ∨ stat.adefId = 0 ∨ stat.lenjson ≤ 1 then (false, mgr)
  else
    match mgr.findStat stat.alertid with
    | none => mgr.admitAlert stat tcurr currtusec none
    | some alert =>
      let pastat := mgr.alerts alert
      if stat.nrepeats = 0 then (false, mgr)
      else if pastat.isDeleted then
        (mgr.eraseStat stat.alertid).admitAlert stat tcurr currtusec none
      else if pastat.adefId ≠ stat.adefId then (false, mgr)
      else if mayRepeat pastat tcurr then
        ((mgr.cleanupAlertStat alert tcurr false false).eraseStat stat.alertid).admitAlert stat
          tcurr currtusec (if tcurr < pastat.tforceClose then some pastat.tforceClose else none)
      else (false, mgr)

/-- `ALERTMGR::handle_alert_stat_close`, for one alert. -/
def handleAlertStatClose (mgr : AlertMgr) (alertid : Nat) (tclose : Int) (isForceClose : Bool) :
    AlertMgr :=
  match mgr.findStat alertid with
  | none => mgr.setDispatched alertid false
  | some alert =>
    let closed :=
      if (mgr.alerts alert).isDeleted then mgr
      else mgr.cleanupAlertStat alert tclose true isForceClose
    (closed.eraseStat alertid).setDispatched alertid false

/-- An acknowledgement, in `handle_node_alert_stat_update`. -/
def ackAlert (mgr : AlertMgr) (alertid : Nat) : AlertMgr :=
  match mgr.findStat alertid with
  | none => mgr
  | some alert =>
    let pastat := mgr.alerts alert
    if !pastat.isDeleted && (pastat.state = .active || pastat.state = .acked) then
      mgr.setAlert alert { pastat with state := .acked }
    else mgr

/-- The body of `check_alert_stats` for an alert. -/
def checkAlertStat (tcurr : Int) (mgr : AlertMgr) (alertid : Nat) : AlertMgr :=
  match mgr.findStat alertid with
  | none => mgr
  | some alert =>
    let pastat := mgr.alerts alert
    if pastat.isDeleted then mgr.eraseStat alertid
    else if pastat.tforceClose < tcurr - 180 ∨ (mgr.adefs pastat.pdef).isDeleted then
      mgr.handleAlertStatClose alertid tcurr true
    else mgr

def checkAlertStats (mgr : AlertMgr) (tcurr : Int) : AlertMgr :=
  (mgr.astatmap.map (·.1)).foldl (checkAlertStat tcurr) mgr

/-- The body of `check_agroup_status` for a group; times are unsigned 64-bit numbers. -/
def checkAgroup (currtusec : Nat) (mgr : AlertMgr) (groupid : Nat) : AlertMgr :=
  match mgr.agroupmap groupid with
  | none => mgr
  | some number =>
    let group := mgr.groups number
    if group.isDeleted then mgr.eraseGroup groupid
    else if group.tnextchkusec < (currtusec + (2 ^ 64 - 300 * usecPerSec)) % 2 ^ 64 then
      (mgr.agroupSendAlerts number).eraseGroupTimemap number group.tnextchkusec
    else mgr

/-- A timer of a group fires in `check_schedules`. -/
def fireTimer (mgr : AlertMgr) (entry : Nat × Nat) : AlertMgr :=
  if entry ∈ mgr.atimemap then
    let sent :=
      if (mgr.groups entry.2).isDeleted then mgr else mgr.agroupSendAlerts entry.2
    { sent with atimemap := sent.atimemap.erase entry }
  else mgr

/-- What happens to the alert manager.  A check of the groups walks over them in some order,
and the definitions may change in any way. -/
inductive Event where
  | alert (stat : AlertStatInfo) (tcurr : Int) (currtusec : Nat)
  | close (alertid : Nat) (tclose : Int) (isForceClose : Bool)
  | ack (alertid : Nat)
  | adefs (adefs : Nat → AlertDef) (adefmap : Nat → Option Nat)
  | statCheck (tcurr : Int)
  | timer (entry : Nat × Nat)
  | groupCheck (order : List Nat) (currtusec : Nat)

def step (mgr : AlertMgr) : Event → AlertMgr
  | .alert stat tcurr currtusec => (mgr.addAlertStat stat tcurr currtusec).2
  | .close alertid tclose isForceClose => mgr.handleAlertStatClose alertid tclose isForceClose
  | .ack alertid => mgr.ackAlert alertid
  | .adefs adefs adefmap => { mgr with adefs := adefs, adefmap := adefmap }
  | .statCheck tcurr => mgr.checkAlertStats tcurr
  | .timer entry => mgr.fireTimer entry
  | .groupCheck order currtusec => order.foldl (checkAgroup currtusec) mgr

/-- The manager without the counters of `check_set_alerts_allowed`, which say nothing about
alerts and groups. -/
def core (mgr : AlertMgr) : AlertMgr :=
  { mgr with tdisableEnd := 0, tminStart := 0, thourStart := 0, nalertsMin := 0, nalertsHour := 0 }

variable {mgr : AlertMgr} {alert : Nat}

lemma core_startMin (tcurr : Int) : (mgr.startMin tcurr).core = mgr.core := by
  rw [startMin]
  split <;> rfl

lemma core_startHour (tcurr : Int) : (mgr.startHour tcurr).core = mgr.core := by
  rw [startHour]
  split <;> rfl

lemma core_checkSetAlertsAllowed (tcurr : Int) :
    (mgr.checkSetAlertsAllowed tcurr).2.core = mgr.core := by
  have minute := @core_startMin mgr tcurr
  have hour := @core_startHour (mgr.startMin tcurr) tcurr
  rw [checkSetAlertsAllowed]
  split
  · rfl
  split
  · rfl
  dsimp only
  split
  · exact minute
  · split
    · exact hour.trans minute
    · exact hour.trans minute

lemma alerts_setAlert (astat : AlertStats) : (mgr.setAlert alert astat).alerts alert = astat :=
  if_pos rfl

/-! ## Properties that the steps keep -/

/-- The operations that the steps are made of keep a property, apart from the removal of an
alert that is repeated. -/
structure Keeps (inv : AlertMgr → Prop) : Prop where
  counters : ∀ {mgr after : AlertMgr}, inv mgr → after.core = mgr.core → inv after
  eraseStat : ∀ {mgr : AlertMgr} (alertid : Nat), inv mgr → inv (mgr.eraseStat alertid)
  setDispatched : ∀ {mgr : AlertMgr} (alertid : Nat), inv mgr →
    inv (mgr.setDispatched alertid false)
  setDefs : ∀ {mgr : AlertMgr} (adefs : Nat → AlertDef) (adefmap : Nat → Option Nat), inv mgr →
    inv { mgr with adefs := adefs, adefmap := adefmap }
  insertAlert : ∀ {mgr : AlertMgr} (stat : AlertStatInfo) (pdef currtusec : Nat)
    (texpiry : Option Int), inv mgr → inv (mgr.insertAlert stat pdef currtusec texpiry)
  close : ∀ {mgr : AlertMgr} (alert : Nat) (tclose : Int) (isForceClose : Bool), inv mgr →
    inv (mgr.cleanupAlertStat alert tclose true isForceClose)
  ack : ∀ {mgr : AlertMgr} (alert : Nat), inv mgr → (mgr.alerts alert).isDeleted = false →
    inv (mgr.setAlert alert { mgr.alerts alert with state := .acked })
  checkAgroup : ∀ {mgr : AlertMgr} (currtusec groupid : Nat), inv mgr →
    inv (mgr.checkAgroup currtusec groupid)
  fireTimer : ∀ {mgr : AlertMgr} (entry : Nat × Nat), inv mgr → inv (mgr.fireTimer entry)

namespace Keeps

variable {inv : AlertMgr → Prop}

section

variable (keeps : Keeps inv) (isInv : inv mgr)
include keeps isInv

lemma admitAlert (stat : AlertStatInfo) (tcurr : Int) (currtusec : Nat) (texpiry : Option Int) :
    inv (mgr.admitAlert stat tcurr currtusec texpiry).2 := by
  have checked := keeps.counters isInv (@core_checkSetAlertsAllowed mgr tcurr)
  rw [AlertMgr.admitAlert]
  split
  · exact isInv
  next pdef _ =>
  split
  · dsimp only
    split
    · exact keeps.insertAlert stat pdef currtusec texpiry checked
    · exact checked
  · exact isInv

lemma addAlertStat {stat : AlertStatInfo} {tcurr : Int} {currtusec : Nat}
    (replace : ∀ alert, mgr.findStat stat.alertid = some alert → stat.nrepeats ≠ 0 →
      (mgr.alerts alert).adefId = stat.adefId → mayRepeat (mgr.alerts alert) tcurr = true →
        inv (mgr.cleanupAlertStat alert tcurr false false)) :
    inv (mgr.addAlertStat stat tcurr currtusec).2 := by
  rw [AlertMgr.addAlertStat]
  split
  · exact isInv
  split
  · exact keeps.admitAlert isInv stat tcurr currtusec none
  next alert isFound =>
  dsimp only
  split
  · exact isInv
  next isRepeat =>
  split
  · exact keeps.admitAlert (keeps.eraseStat stat.alertid isInv) stat tcurr currtusec none
  split
  · exact isInv
  next sameDef =>
  split
  next isTime =>
    have removed := replace alert isFound isRepeat (Decidable.not_not.mp sameDef) isTime
    exact keeps.admitAlert (keeps.eraseStat stat.alertid removed) stat tcurr currtusec _
  · exact isInv

lemma handleAlertStatClose (alertid : Nat) (tclose : Int)
    (isForceClose : Bool) : inv (mgr.handleAlertStatClose alertid tclose isForceClose) := by
  rw [AlertMgr.handleAlertStatClose]
  split
  · exact keeps.setDispatched alertid isInv
  next alert _ =>
  refine keeps.setDispatched alertid (keeps.eraseStat alertid ?_)
  split
  · exact isInv
  · exact keeps.close alert tclose isForceClose isInv

lemma ackAlert (alertid : Nat) : inv (mgr.ackAlert alertid) := by
  rw [AlertMgr.ackAlert]
  split
  · exact isInv
  next alert _ =>
  dsimp only
  split
  next isActive =>
    rw [Bool.and_eq_true, Bool.not_eq_true'] at isActive
    exact keeps.ack alert isInv isActive.1
  · exact isInv

lemma checkAlertStat (tcurr : Int) (alertid : Nat) : inv (mgr.checkAlertStat tcurr alertid) := by
  rw [AlertMgr.checkAlertStat]
  split
  · exact isInv
  dsimp only
  split
  · exact keeps.eraseStat alertid isInv
  · split
    · exact keeps.handleAlertStatClose isInv alertid tcurr true
    · exact isInv

/-- What the operations and the removal of a repeated alert keep, every event keeps. -/
lemma step {event : Event}
    (replace : ∀ stat tcurr currtusec, event = .alert stat tcurr currtusec →
      ∀ alert, mgr.findStat stat.alertid = some alert → stat.nrepeats ≠ 0 →
        (mgr.alerts alert).adefId = stat.adefId → mayRepeat (mgr.alerts alert) tcurr = true →
          inv (mgr.cleanupAlertStat alert tcurr false false)) : inv (mgr.step event) := by
  cases event with
  | alert stat tcurr currtusec =>
    exact keeps.addAlertStat isInv (replace stat tcurr currtusec rfl)
  | close alertid tclose isForceClose =>
    exact keeps.handleAlertStatClose isInv alertid tclose isForceClose
  | ack alertid => exact keeps.ackAlert isInv alertid
  | adefs adefs adefmap => exact keeps.setDefs adefs adefmap isInv
  | statCheck tcurr =>
    rw [AlertMgr.step, checkAlertStats]
    exact List.foldlRecOn _ _ isInv fun _ isInv alertid _ =>
      keeps.checkAlertStat isInv tcurr alertid
  | timer entry => exact keeps.fireTimer entry isInv
  | groupCheck order currtusec =>
    rw [AlertMgr.step]
    exact List.foldlRecOn _ _ isInv fun _ isInv groupid _ =>
      keeps.checkAgroup currtusec groupid isInv

end

end Keeps

end AlertMgr

end Gyeeta.Alerts
