import Gyeeta.Alerts.Groups

/-!
# Dispatch of grouped alerts

A group in the map has an alert and one timer, an alert that points to a group waits in it, and
no alert is dispatched twice.  An alert that waits is dispatched with its group unless it is
closed or expires before, or a repeated alert takes its place; if that one is rejected the alert
is lost.
-/

namespace Gyeeta.Alerts.AlertMgr

open List

/-- It was closed, or expired, while it waited in its group. -/
def AlertStats.ClosedEarly (astat : AlertStats) : Prop :=
  astat.closedWaiting = true ∧ (astat.state = .resolved ∨ astat.state = .expired)

/-- Each group in the map has an alert and one timer, at its next check; an alert that points to
a group is listed once, in that group, which is in the map; no alert is dispatched twice, one
that no longer waits was dispatched or closed before, and one that waits is dispatched by the
timer of its group. -/
structure GroupsAgree (mgr : AlertMgr) : Prop where
  pending : ∀ groupid number, mgr.agroupmap groupid = some number →
    (mgr.groups number).isDeleted = false →
      (mgr.groups number).statvec ≠ [] ∧
        mgr.atimemap.filter (·.2 = number) = [((mgr.groups number).tnextchkusec, number)]
  listed : ∀ alert number, (mgr.alerts alert).pgroup = some number →
    mgr.agroupmap (mgr.groups number).groupid = some number ∧
      (mgr.groups number).isDeleted = false ∧
      (mgr.groups number).statvec.count alert = 1 ∧
      ∀ other, alert ∈ (mgr.groups other).statvec → other = number
  once : ∀ alert, alert < mgr.numAlerts → mgr.sent.count alert ≤ 1 ∧
    ((mgr.alerts alert).pgroup = none → ¬ AlertStats.ClosedEarly (mgr.alerts alert) →
      mgr.sent.count alert = 1)
  fires : ∀ alert number, (mgr.alerts alert).pgroup = some number →
    mgr.sent.count alert = 0 ∧
      (mgr.fireTimer ((mgr.groups number).tnextchkusec, number)).sent.count alert = 1

variable {mgr after : AlertMgr} {alert number : Nat}

/-! ## Alerts that are closed while they wait -/

/-- What was cleaned up while it waited was closed. -/
def ClosedOnly (mgr : AlertMgr) : Prop :=
  ∀ alert, (mgr.alerts alert).closedWaiting = true →
    (mgr.alerts alert).isDeleted = true ∧
      ((mgr.alerts alert).state = .resolved ∨ (mgr.alerts alert).state = .expired)

lemma Grouped.groupsAgree (grouped : Grouped mgr never never) (closedOnly : ClosedOnly mgr) :
    GroupsAgree mgr where
  pending := by
    intro groupid number isGroup isLive
    obtain ⟨nonempty, -, timer⟩ := grouped.pending number id isLive
    exact ⟨nonempty, timer⟩
  listed := by
    intro alert number isPointer
    obtain ⟨isLive, mem, -⟩ := grouped.waiting alert number isPointer
    exact ⟨grouped.mapped number isLive, isLive, count_eq_one_of_mem (grouped.nodup number) mem,
      fun other isListed => grouped.unique alert other number isListed mem⟩
  once := by
    intro alert isAlert
    refine ⟨nodup_iff_count_le_one.mp grouped.sentOnce alert, ?_⟩
    intro notWaiting notClosed
    rcases grouped.fate alert isAlert id with ⟨number, isWaiting⟩ | isSent | isClosed
    · rw [notWaiting] at isWaiting
      contradiction
    · exact count_eq_one_of_mem grouped.sentOnce isSent
    · exact absurd ⟨isClosed, (closedOnly alert isClosed).2⟩ notClosed
  fires := by
    intro alert number isPointer
    refine ⟨count_eq_zero.mpr ?_, ?_⟩
    · intro isSent
      have hasData := (grouped.waiting alert number isPointer).2.2.1
      rw [(grouped.sentCleared alert isSent).1] at hasData
      contradiction
    · exact count_eq_one_of_mem (grouped.fireTimer _).sentOnce
        (grouped.mem_sent_fireTimer isPointer)

section

variable (closedOnly : ClosedOnly mgr)
include closedOnly

lemma ClosedOnly.of_alerts (same : after.alerts = mgr.alerts) :
    ClosedOnly after := by
  rw [ClosedOnly, same]
  exact closedOnly

lemma ClosedOnly.setAlert {astat : AlertStats}
    (closed : astat.closedWaiting = true → astat.isDeleted = true ∧
      (astat.state = .resolved ∨ astat.state = .expired)) :
    ClosedOnly (mgr.setAlert alert astat) := by
  intro other
  by_cases same : other = alert
  · rw [same, alerts_setAlert]
    exact closed
  · rw [alerts_setAlert_ne same]
    exact closedOnly other

lemma ClosedOnly.sendAlerts (statvec : List Nat) :
    ClosedOnly (mgr.sendAlerts statvec) := by
  intro alert isClosed
  rw [closedWaiting_sendAlerts] at isClosed
  obtain ⟨isDeleted, state⟩ := closedOnly alert isClosed
  rw [alerts_sendAlerts_of_not]
  · exact ⟨isDeleted, state⟩
  · rintro ⟨-, notDeleted⟩
    rw [isDeleted] at notDeleted
    contradiction

lemma ClosedOnly.agroupSendAlerts (number : Nat) :
    ClosedOnly (mgr.agroupSendAlerts number) := by
  rw [AlertMgr.agroupSendAlerts]
  split
  · exact closedOnly
  · exact (closedOnly.sendAlerts _).of_alerts rfl

end

lemma alerts_leaveGroup_ne {other : Nat} (ne : other ≠ alert) :
    (mgr.leaveGroup alert).alerts other = mgr.alerts other := by
  cases isGroup : (mgr.alerts alert).pgroup with
  | none => rw [leaveGroup, isGroup]
  | some number =>
    rw [alerts_leaveGroup_some isGroup]
    exact alerts_setAlert_ne ne

lemma state_leaveGroup :
    ((mgr.leaveGroup alert).alerts alert).state = (mgr.alerts alert).state := by
  cases isGroup : (mgr.alerts alert).pgroup with
  | none => rw [leaveGroup, isGroup]
  | some number => rw [alerts_leaveGroup_some isGroup, alerts_removeAlert]

lemma leaveGroup_none (noPointer : (mgr.alerts alert).pgroup = none) :
    mgr.leaveGroup alert = mgr := by
  rw [leaveGroup, noPointer]

section

variable (closedOnly : ClosedOnly mgr)
include closedOnly

lemma ClosedOnly.close (alert : Nat) (tclose : Int)
    (isForceClose : Bool) : ClosedOnly (mgr.cleanupAlertStat alert tclose true isForceClose) := by
  have isMarked : (mgr.markClosed alert tclose isForceClose).alerts alert = { mgr.alerts alert with
      tclose := tclose
      state := if isForceClose then .expired else .resolved } := alerts_setAlert _
  have told : ∀ closeMsgs, ClosedOnly (({ (mgr.markClosed alert tclose isForceClose).leaveGroup
      alert with closeMsgs := closeMsgs } : AlertMgr).setDeleted alert) := by
    intro closeMsgs other
    by_cases same : other = alert
    · rw [same, setDeleted, alerts_setAlert]
      intro _
      refine ⟨rfl, ?_⟩
      dsimp only
      rw [state_leaveGroup, isMarked]
      dsimp only
      cases isForceClose with
      | true => exact .inr rfl
      | false => exact .inl rfl
    · rw [setDeleted, alerts_setAlert_ne same]
      dsimp only
      rw [alerts_leaveGroup_ne same, markClosed, alerts_setAlert_ne same]
      exact closedOnly other
  rw [AlertMgr.cleanupAlertStat, if_pos rfl]
  split
  · exact told _
  · exact told _

lemma ClosedOnly.replace
    (noPointer : (mgr.alerts alert).pgroup = none) (tclose : Int) (isForceClose : Bool) :
    ClosedOnly (mgr.cleanupAlertStat alert tclose false isForceClose) := by
  rw [AlertMgr.cleanupAlertStat, if_neg Bool.false_ne_true, leaveGroup_none noPointer,
    Bool.false_and, if_neg Bool.false_ne_true, setDeleted]
  exact closedOnly.setAlert fun isClosed => ⟨rfl, (closedOnly alert isClosed).2⟩

lemma ClosedOnly.setAstatGroup
    (notClosed : (mgr.alerts alert).closedWaiting = false) (groupwaitsec : Nat)
    (group : Option Nat) (currtusec : Nat) :
    ClosedOnly (mgr.setAstatGroup alert groupwaitsec group currtusec) := by
  have joined : ∀ (opened : AlertMgr) (number : Nat), opened.alerts = mgr.alerts →
      ClosedOnly (opened.joinGroup alert number groupwaitsec currtusec) := by
    intro opened number same
    have isWaiting : ClosedOnly (opened.setAlert alert { opened.alerts alert with
        groupid := (opened.groups number).groupid
        pgroup := some number
        state := .groupWait }) := by
      refine (closedOnly.of_alerts same).setAlert ?_
      intro isClosed
      dsimp only at isClosed
      rw [same, notClosed] at isClosed
      contradiction
    rw [joinGroup_eq]
    split
    · exact isWaiting.of_alerts rfl
    · exact isWaiting.of_alerts rfl
  cases group with
  | none => exact closedOnly
  | some groupid =>
    rw [AlertMgr.setAstatGroup]
    split
    · exact closedOnly
    refine joined _ _ ?_
    rw [openGroup]
    split
    · split <;> rfl
    · rfl

lemma ClosedOnly.insertAlert (stat : AlertStatInfo)
    (pdef currtusec : Nat) (texpiry : Option Int) :
    ClosedOnly (mgr.insertAlert stat pdef currtusec texpiry) := by
  have added : ClosedOnly (mgr.newAlert
      (newStats stat pdef (mgr.adefs pdef).forceclosesec texpiry)) :=
    (@ClosedOnly.setAlert mgr mgr.numAlerts closedOnly
      (newStats stat pdef (mgr.adefs pdef).forceclosesec texpiry) Bool.noConfusion).of_alerts rfl
  have notClosed : ((mgr.newAlert (newStats stat pdef (mgr.adefs pdef).forceclosesec
      texpiry)).alerts mgr.numAlerts).closedWaiting = false :=
    congrArg AlertStats.closedWaiting (alerts_setAlert _)
  have inGroup := added.setAstatGroup notClosed (mgr.adefs pdef).groupwaitsec stat.group currtusec
  rw [AlertMgr.insertAlert]
  split
  · exact inGroup.sendAlerts _
  · exact inGroup

end

/-- A repeated alert replaces no alert that still waits in its group. -/
def WaitsForGroup (mgr : AlertMgr) : Event → Prop
  | .alert stat tcurr _ => ∀ alert, mgr.findStat stat.alertid = some alert → stat.nrepeats ≠ 0 →
    (mgr.alerts alert).adefId = stat.adefId → mayRepeat (mgr.alerts alert) tcurr = true →
      (mgr.alerts alert).pgroup = none
  | _ => True

lemma ClosedOnly.checkAgroup (closedOnly : ClosedOnly mgr) (currtusec groupid : Nat) :
    ClosedOnly (mgr.checkAgroup currtusec groupid) := by
  rw [AlertMgr.checkAgroup]
  split
  · exact closedOnly
  dsimp only
  split
  · exact closedOnly.of_alerts rfl
  · split
    · exact (closedOnly.agroupSendAlerts _).of_alerts rfl
    · exact closedOnly

lemma ClosedOnly.fireTimer (closedOnly : ClosedOnly mgr) (entry : Nat × Nat) :
    ClosedOnly (mgr.fireTimer entry) := by
  rw [AlertMgr.fireTimer]
  split
  · dsimp only
    split
    · exact closedOnly.of_alerts rfl
    · exact (closedOnly.agroupSendAlerts entry.2).of_alerts rfl
  · exact closedOnly

lemma keeps_closedOnly : Keeps ClosedOnly where
  counters := by
    intro mgr after closedOnly same
    refine closedOnly.of_alerts ?_
    show after.core.alerts = mgr.core.alerts
    rw [same]
  eraseStat := fun _ closedOnly => closedOnly.of_alerts rfl
  setDispatched := fun _ closedOnly => closedOnly.of_alerts rfl
  setDefs := fun _ _ closedOnly => closedOnly.of_alerts rfl
  insertAlert := fun stat pdef currtusec texpiry closedOnly =>
    closedOnly.insertAlert stat pdef currtusec texpiry
  close := fun alert tclose isForceClose closedOnly => closedOnly.close alert tclose isForceClose
  ack := by
    intro mgr alert closedOnly notDeleted
    refine closedOnly.setAlert ?_
    intro isClosed
    rw [(closedOnly alert isClosed).1] at notDeleted
    contradiction
  checkAgroup := fun currtusec groupid closedOnly => closedOnly.checkAgroup currtusec groupid
  fireTimer := fun entry closedOnly => closedOnly.fireTimer entry

/-- One event that replaces no alert still waiting in its group. -/
lemma ClosedOnly.step (closedOnly : ClosedOnly mgr) {event : Event}
    (waits : WaitsForGroup mgr event) : ClosedOnly (mgr.step event) := by
  refine keeps_closedOnly.step closedOnly ?_
  rintro stat tcurr currtusec rfl alert isFound isRepeat sameDef isTime
  exact closedOnly.replace (waits alert isFound isRepeat sameDef isTime) tcurr false

/-- In every run in which no repeated alert replaces one that waits in its group, groups, alerts
and timers agree, and every alert is dispatched once unless it is closed before. -/
theorem run_groupsAgree (adefs : Nat → AlertDef) (adefmap : Nat → Option Nat) (events : List Event)
    (waits : Machine.Guarded step WaitsForGroup (init adefs adefmap) events) :
    GroupsAgree (Machine.run step (init adefs adefmap) events) := by
  have closedOnly :=
    waits.invariant (fun _ _ closedOnly allowed => ClosedOnly.step closedOnly allowed)
      fun _ => Bool.noConfusion
  exact (run_grouped adefs adefmap events).groupsAgree closedOnly

/-- Definitions that group their alerts for ten minutes. -/
def groupedDefs : Nat → AlertDef := fun _ => ⟨false, true, 86400, 600⟩

/-- A message of an alert of the group with hash 7, which passes all checks. -/
def groupedAlert (alertid : Nat) (talert : Int) (nrepeats : Nat) : AlertStatInfo :=
  ⟨alertid, 5, talert, nrepeats, 10, true, true, false, false, some 7⟩

/-- Two alerts are grouped; the second is closed, the first is dispatched by the timer. -/
def closedInGroup : List Event :=
  [.alert (groupedAlert 1 1000 0) 1000 1000000000, .alert (groupedAlert 2 1010 0) 1010 1010000000,
    .close 2 1100 false, .timer (1600000000, 0)]

theorem closedInGroup_groupsAgree :
    GroupsAgree (Machine.run step (init groupedDefs some) closedInGroup) :=
  run_groupsAgree groupedDefs some closedInGroup
    ⟨fun _ _ isRepeat => absurd rfl isRepeat, fun _ _ isRepeat => absurd rfl isRepeat,
      trivial, trivial, trivial⟩

example : (Machine.run step (init groupedDefs some) closedInGroup).sent = [0] := by
  decide +kernel

/-- An alert that comes late is grouped, and repeated a second later while a silence matches. -/
def silencedInGroup : List Event :=
  [.alert (groupedAlert 1 1000 0) 2000 2000000000,
    .alert { groupedAlert 1 2001 1 with isSilenced := true } 2001 2001000000]

/-- The alert was not closed, and neither waits nor was dispatched. -/
theorem silencedInGroup_not_groupsAgree :
    ¬ GroupsAgree (Machine.run step (init groupedDefs some) silencedInGroup) := by
  intro agree
  have lost := (agree.once 0 (by decide +kernel)).2 (by decide +kernel)
    (fun closed => absurd closed.2 (by decide +kernel))
  exact absurd lost (by decide +kernel)

end Gyeeta.Alerts.AlertMgr
