import Mathlib.Tactic.SplitIfs
import Gyeeta.Alerts.Manager

/-!
# Active alerts are remembered

An alert that was dispatched and neither closed nor expired is in the alert map, with a state
that makes its close known.  A repeated alert removes the alert it replaces before it is checked,
so this needs that no such alert is rejected, or kept waiting in a group.
-/

namespace Gyeeta.Alerts.AlertMgr

open List

/-- An alert that was dispatched is in the map, and a close tells that it is resolved. -/
def Remembered (mgr : AlertMgr) : Prop :=
  ∀ alertid, mgr.dispatched alertid = true →
    (∃ alert, mgr.findStat alertid = some alert ∧ (mgr.alerts alert).isDeleted = false) ∧
      ∀ tclose, (mgr.handleAlertStatClose alertid tclose false).closeMsgs =
        mgr.closeMsgs ++ [(alertid, false)]

/-! ## The alert map -/

/-- The alert map has the alerts that are not deleted. -/
structure Indexed (mgr : AlertMgr) : Prop where
  found : ∀ alertid alert, mgr.findStat alertid = some alert →
    (mgr.alerts alert).alertid = alertid ∧ (mgr.alerts alert).isDeleted = false
  stored : ∀ alert, (mgr.alerts alert).isDeleted = false →
    mgr.findStat (mgr.alerts alert).alertid = some alert
  fresh : ∀ alert, mgr.numAlerts ≤ alert → (mgr.alerts alert).isDeleted = true

/-- The alert of an identifier is in the map and was dispatched. -/
def FiredFor (mgr : AlertMgr) (alertid : Nat) : Prop :=
  ∃ alert, mgr.findStat alertid = some alert ∧ (mgr.alerts alert).state.isFired = true

/-- What decides whether a message is let through: the definitions and those counters. -/
def settings (mgr : AlertMgr) :
    (Nat → AlertDef) × (Nat → Option Nat) × Int × Int × Int × Nat × Nat :=
  (mgr.adefs, mgr.adefmap, mgr.tdisableEnd, mgr.tminStart, mgr.thourStart, mgr.nalertsMin,
    mgr.nalertsHour)

variable {mgr after : AlertMgr} {alertid alert : Nat}

lemma checkSetAlertsAllowed_iff (tcurr : Int) : (mgr.checkSetAlertsAllowed tcurr).1 = true ↔
      ¬ tcurr < mgr.tdisableEnd ∧
      ¬ (mgr.tminStart + 60 > tcurr ∧ mgr.nalertsMin + 1 ≥ maxTotalAlertsPerMin) ∧
      ¬ (mgr.thourStart + 3600 > tcurr ∧ mgr.nalertsHour + 1 ≥ maxTotalAlertsPerHour) ∧
      ¬ maxUnresolvedAlerts ≤ mgr.astatmap.length := by
  have minute := @core_startMin mgr tcurr
  have hour := @core_startHour (mgr.startMin tcurr) tcurr
  have sameHour : (mgr.startMin tcurr).thourStart = mgr.thourStart ∧
      (mgr.startMin tcurr).nalertsHour = mgr.nalertsHour := by
    rw [startMin]
    split <;> exact ⟨rfl, rfl⟩
  have sameMap : ((mgr.startMin tcurr).startHour tcurr).astatmap = mgr.astatmap := by
    have sameCore := congrArg AlertMgr.astatmap (hour.trans minute)
    exact sameCore
  rw [checkSetAlertsAllowed]
  simp only [sameHour, sameMap]
  split_ifs with disabled minFull hourFull mapFull
  · exact ⟨by simp, fun allowed => absurd disabled allowed.1⟩
  · exact ⟨by simp, fun allowed => absurd minFull allowed.2.1⟩
  · exact ⟨by simp, fun allowed => absurd hourFull allowed.2.2.1⟩
  · exact ⟨by simp, fun allowed => absurd mapFull allowed.2.2.2⟩
  · exact ⟨fun _ => ⟨disabled, minFull, hourFull, mapFull⟩, fun _ => rfl⟩

/-! ## Operations on one alert -/

/-- An operation that may change one alert and the groups. -/
structure OnlyAlert (mgr after : AlertMgr) (alert : Nat) : Prop where
  astatmap : after.astatmap = mgr.astatmap
  numAlerts : after.numAlerts = mgr.numAlerts
  dispatched : after.dispatched = mgr.dispatched
  others : ∀ other, other ≠ alert → after.alerts other = mgr.alerts other
  alertid : (after.alerts alert).alertid = (mgr.alerts alert).alertid

lemma findStat_of_astatmap (same : after.astatmap = mgr.astatmap) (alertid : Nat) :
    after.findStat alertid = mgr.findStat alertid := by
  rw [findStat, same, findStat]

lemma findStat_eraseStat (alertid : Nat) : (mgr.eraseStat alertid).findStat alertid = none := by
  rw [findStat, eraseStat, Option.map_eq_none_iff, List.find?_eq_none]
  intro entry mem
  have ne := (mem_filter.mp mem).2
  rw [decide_eq_true_eq] at ne ⊢
  exact ne

lemma findStat_eraseStat_ne {other : Nat} (ne : other ≠ alertid) :
    (mgr.eraseStat alertid).findStat other = mgr.findStat other := by
  rw [findStat, findStat, eraseStat, List.find?_filter]
  congr 2
  funext entry
  by_cases isOther : entry.1 = other
  · simp [isOther, ne]
  · simp [isOther]

lemma OnlyAlert.refl (mgr : AlertMgr) (alert : Nat) : OnlyAlert mgr mgr alert :=
  ⟨rfl, rfl, rfl, fun _ _ => rfl, rfl⟩

lemma OnlyAlert.trans {middle : AlertMgr} (first : OnlyAlert mgr middle alert)
    (second : OnlyAlert middle after alert) : OnlyAlert mgr after alert :=
  ⟨second.astatmap.trans first.astatmap, second.numAlerts.trans first.numAlerts,
    second.dispatched.trans first.dispatched,
    fun other ne => (second.others other ne).trans (first.others other ne),
    second.alertid.trans first.alertid⟩

lemma onlyAlert_setAlert {astat : AlertStats}
    (same : astat.alertid = (mgr.alerts alert).alertid) :
    OnlyAlert mgr (mgr.setAlert alert astat) alert := by
  refine ⟨rfl, rfl, rfl, ?_, ?_⟩
  · intro other ne
    exact if_neg ne
  · rw [setAlert]
    dsimp only
    rw [if_pos rfl]
    exact same

lemma leaveGroup_cases (mgr : AlertMgr) (alert : Nat) :
    OnlyAlert mgr (mgr.leaveGroup alert) alert ∧ (mgr.leaveGroup alert).closeMsgs = mgr.closeMsgs ∧
      (mgr.leaveGroup alert).settings = mgr.settings := by
  rw [leaveGroup]
  split
  · exact ⟨.refl mgr alert, rfl, rfl⟩
  next number _ =>
  have left := @onlyAlert_setAlert (mgr.setGroup number
    { mgr.groups number with statvec := (mgr.groups number).statvec.erase alert }) alert
    { mgr.alerts alert with pgroup := none, closedWaiting := true } rfl
  have same : OnlyAlert mgr _ alert :=
    { left with }
  dsimp only
  split
  · split
    · exact ⟨{ same with },
        rfl, rfl⟩
    · exact ⟨{ same with },
        rfl, rfl⟩
  · exact ⟨same, rfl, rfl⟩

lemma cleanupAlertStat_cases (mgr : AlertMgr) (alert : Nat) (tclose : Int)
    (isClose isForceClose : Bool) :
    OnlyAlert mgr (mgr.cleanupAlertStat alert tclose isClose isForceClose) alert ∧
      ((mgr.cleanupAlertStat alert tclose isClose isForceClose).alerts alert).isDeleted = true ∧
      (mgr.cleanupAlertStat alert tclose isClose isForceClose).closeMsgs = mgr.closeMsgs ++
        (if isClose && (mgr.alerts alert).state.isFired then
          [((mgr.alerts alert).alertid, isForceClose)] else []) ∧
      (mgr.cleanupAlertStat alert tclose isClose isForceClose).settings = mgr.settings := by
  have marked : ∃ marked, (if isClose then mgr.markClosed alert tclose isForceClose else mgr) =
      marked ∧ OnlyAlert mgr marked alert ∧ marked.closeMsgs = mgr.closeMsgs ∧
        marked.settings = mgr.settings := by
    split
    · exact ⟨_, rfl, onlyAlert_setAlert rfl, rfl, rfl⟩
    · exact ⟨_, rfl, .refl mgr alert, rfl, rfl⟩
  obtain ⟨marked, isMarked, onlyMarked, sameMsgs, sameSettings⟩ := marked
  obtain ⟨onlyLeft, leftMsgs, leftSettings⟩ := marked.leaveGroup_cases alert
  have both := onlyMarked.trans onlyLeft
  rw [cleanupAlertStat, isMarked]
  refine ⟨?_, ?_, ?_, ?_⟩
  · have deleted := @onlyAlert_setAlert (marked.leaveGroup alert) alert
      { (marked.leaveGroup alert).alerts alert with isDeleted := true } rfl
    split
    · exact both.trans { deleted with }
    · exact both.trans deleted
  · rw [setDeleted, alerts_setAlert]
  · split
    · show (marked.leaveGroup alert).closeMsgs ++ _ = _
      rw [leftMsgs, sameMsgs]
    · show (marked.leaveGroup alert).closeMsgs = _
      rw [leftMsgs, sameMsgs, append_nil]
  · split
    · exact leftSettings.trans sameSettings
    · exact leftSettings.trans sameSettings

lemma Indexed.remove (indexed : Indexed mgr) (isFound : mgr.findStat alertid = some alert)
    (only : OnlyAlert mgr after alert) (deleted : (after.alerts alert).isDeleted = true) :
    Indexed (after.eraseStat alertid) := by
  have sameFind := findStat_of_astatmap only.astatmap
  have isId := (indexed.found alertid alert isFound).1
  refine ⟨?_, ?_, ?_⟩
  · intro otherId other isOther
    have ne : otherId ≠ alertid := by
      intro same
      rw [same, findStat_eraseStat] at isOther
      contradiction
    rw [findStat_eraseStat_ne ne, sameFind] at isOther
    have notAlert : other ≠ alert := by
      intro same
      rw [same] at isOther
      exact ne ((indexed.found otherId alert isOther).1.symm.trans isId)
    show (after.alerts other).alertid = otherId ∧ (after.alerts other).isDeleted = false
    rw [only.others other notAlert]
    exact indexed.found otherId other isOther
  · intro other notDeleted
    replace notDeleted : (after.alerts other).isDeleted = false := notDeleted
    have notAlert : other ≠ alert := by
      intro same
      rw [same, deleted] at notDeleted
      contradiction
    show (after.eraseStat alertid).findStat (after.alerts other).alertid = some other
    rw [only.others other notAlert] at notDeleted ⊢
    have isStored := indexed.stored other notDeleted
    have ne : (mgr.alerts other).alertid ≠ alertid := by
      intro same
      rw [same, isFound, Option.some.injEq] at isStored
      exact notAlert isStored.symm
    rw [findStat_eraseStat_ne ne, sameFind]
    exact isStored
  · intro other isFresh
    replace isFresh : after.numAlerts ≤ other := isFresh
    rw [only.numAlerts] at isFresh
    show (after.alerts other).isDeleted = true
    by_cases isAlert : other = alert
    · rw [isAlert]
      exact deleted
    · rw [only.others other isAlert]
      exact indexed.fresh other isFresh

lemma FiredFor.remove (fired : FiredFor mgr alertid) (indexed : Indexed mgr) {otherId other : Nat}
    (isOther : mgr.findStat otherId = some other) (ne : alertid ≠ otherId)
    (only : OnlyAlert mgr after other) : FiredFor (after.eraseStat otherId) alertid := by
  obtain ⟨alert, isFound, isFired⟩ := fired
  refine ⟨alert, ?_, ?_⟩
  · rw [findStat_eraseStat_ne ne, findStat_of_astatmap only.astatmap]
    exact isFound
  have notOther : alert ≠ other := by
    intro same
    rw [same] at isFound
    exact ne ((indexed.found _ _ isFound).1.symm.trans (indexed.found _ _ isOther).1)
  show (after.alerts alert).state.isFired = true
  rw [only.others alert notOther]
  exact isFired

lemma remembered_of_firedFor (indexed : Indexed mgr)
    (fired : ∀ alertid, mgr.dispatched alertid = true → FiredFor mgr alertid) : mgr.Remembered := by
  intro alertid isDispatched
  obtain ⟨alert, isFound, isFired⟩ := fired alertid isDispatched
  obtain ⟨isId, notDeleted⟩ := indexed.found alertid alert isFound
  refine ⟨⟨alert, isFound, notDeleted⟩, ?_⟩
  intro tclose
  obtain ⟨-, -, msgs, -⟩ := mgr.cleanupAlertStat_cases alert tclose true false
  rw [isFired, isId] at msgs
  simp only [handleAlertStatClose, isFound, notDeleted]
  exact msgs

/-! ## Dispatch -/

lemma Indexed.of_same (indexed : Indexed mgr) (astatmap : after.astatmap = mgr.astatmap)
    (numAlerts : after.numAlerts = mgr.numAlerts)
    (alerts : ∀ alert, (after.alerts alert).alertid = (mgr.alerts alert).alertid ∧
      (after.alerts alert).isDeleted = (mgr.alerts alert).isDeleted) : Indexed after := by
  have sameFind := findStat_of_astatmap astatmap
  refine ⟨?_, ?_, ?_⟩
  · intro alertid alert isFound
    rw [sameFind] at isFound
    rw [(alerts alert).1, (alerts alert).2]
    exact indexed.found alertid alert isFound
  · intro alert notDeleted
    rw [(alerts alert).2] at notDeleted
    rw [(alerts alert).1, sameFind]
    exact indexed.stored alert notDeleted
  · intro alert isFresh
    rw [numAlerts] at isFresh
    rw [(alerts alert).2]
    exact indexed.fresh alert isFresh

lemma alerts_sendAlerts (statvec : List Nat) (alert : Nat) :
    ((mgr.sendAlerts statvec).alerts alert).alertid = (mgr.alerts alert).alertid ∧
      ((mgr.sendAlerts statvec).alerts alert).isDeleted = (mgr.alerts alert).isDeleted := by
  rw [sendAlerts]
  dsimp only
  split <;> exact ⟨rfl, rfl⟩

lemma isFired_sendAlerts (statvec : List Nat)
    (isFired : (mgr.alerts alert).state.isFired = true) :
    ((mgr.sendAlerts statvec).alerts alert).state.isFired = true := by
  rw [sendAlerts]
  dsimp only
  split
  · dsimp only
    split
    · rfl
    · exact isFired
  · exact isFired

section

variable (indexed : Indexed mgr)
include indexed

lemma indexed_sendAlerts (statvec : List Nat) :
    Indexed (mgr.sendAlerts statvec) :=
  indexed.of_same rfl rfl (alerts_sendAlerts statvec)

lemma firedFor_sent {statvec : List Nat} (mem : alert ∈ statvec)
    (sends : canSend (mgr.alerts alert) = true) :
    FiredFor (mgr.sendAlerts statvec) (mgr.alerts alert).alertid := by
  rw [canSend, Bool.and_eq_true, Bool.not_eq_true'] at sends
  refine ⟨alert, indexed.stored alert sends.1, ?_⟩
  rw [sendAlerts]
  dsimp only
  rw [if_pos ⟨mem, sends.1⟩, if_pos sends.2]
  rfl

lemma firedFor_sendAlerts {statvec : List Nat}
    (fired : mgr.dispatched alertid = true → FiredFor mgr alertid)
    (isDispatched : (mgr.sendAlerts statvec).dispatched alertid = true) :
    FiredFor (mgr.sendAlerts statvec) alertid := by
  rw [sendAlerts, Bool.or_eq_true] at isDispatched
  rcases isDispatched with before | now
  · obtain ⟨alert, isFound, isFired⟩ := fired before
    exact ⟨alert, isFound, isFired_sendAlerts statvec isFired⟩
  · obtain ⟨alert, sending, isId⟩ := any_eq_true.mp now
    obtain ⟨mem, sends⟩ := mem_filter.mp sending
    rw [← of_decide_eq_true isId]
    exact firedFor_sent indexed mem sends

lemma agroupSendAlerts_ok
    (fired : ∀ alertid, mgr.dispatched alertid = true → FiredFor mgr alertid) (number : Nat) :
    Indexed (mgr.agroupSendAlerts number) ∧
      ∀ alertid, (mgr.agroupSendAlerts number).dispatched alertid = true →
        FiredFor (mgr.agroupSendAlerts number) alertid := by
  rw [agroupSendAlerts]
  split
  · exact ⟨indexed, fired⟩
  · have sent := indexed_sendAlerts indexed (mgr.groups number).statvec
    exact ⟨{ sent with },
      fun alertid isDispatched => firedFor_sendAlerts indexed (fired alertid) isDispatched⟩

end

/-! ## New alerts -/

lemma joinGroup_cases (mgr : AlertMgr) (alert number groupwaitsec currtusec : Nat) :
    OnlyAlert mgr (mgr.joinGroup alert number groupwaitsec currtusec) alert ∧
      (mgr.joinGroup alert number groupwaitsec currtusec).alerts alert = { mgr.alerts alert with
          groupid := (mgr.groups number).groupid
          pgroup := some number
          state := .groupWait } := by
  have joined := @onlyAlert_setAlert mgr alert { mgr.alerts alert with
    groupid := (mgr.groups number).groupid
    pgroup := some number
    state := .groupWait } rfl
  rw [joinGroup]
  split
  · exact ⟨{ joined with }, if_pos rfl⟩
  · exact ⟨{ joined with }, if_pos rfl⟩

lemma setAstatGroup_cases (mgr : AlertMgr) (alert groupwaitsec : Nat) (group : Option Nat)
    (currtusec : Nat) : OnlyAlert mgr (mgr.setAstatGroup alert groupwaitsec group currtusec) alert ∧
      canSend ((mgr.setAstatGroup alert groupwaitsec group currtusec).alerts alert) =
        canSend (mgr.alerts alert) ∧
      ((mgr.setAstatGroup alert groupwaitsec group currtusec).alerts alert).isDeleted =
        (mgr.alerts alert).isDeleted := by
  have unchanged : OnlyAlert mgr mgr alert ∧
      canSend (mgr.alerts alert) = canSend (mgr.alerts alert) ∧
      (mgr.alerts alert).isDeleted = (mgr.alerts alert).isDeleted :=
    ⟨.refl mgr alert, rfl, rfl⟩
  cases group with
  | none => exact unchanged
  | some groupid =>
    rw [setAstatGroup]
    split
    · exact unchanged
    have opened : OnlyAlert mgr (mgr.openGroup groupid).2 alert ∧
        (mgr.openGroup groupid).2.alerts = mgr.alerts := by
      rw [openGroup]
      split
      · split
        · exact ⟨⟨rfl, rfl, rfl, fun _ _ => rfl, rfl⟩, rfl⟩
        · exact ⟨.refl mgr alert, rfl⟩
      · exact ⟨⟨rfl, rfl, rfl, fun _ _ => rfl, rfl⟩, rfl⟩
    obtain ⟨only, sameAlerts⟩ := opened
    obtain ⟨joined, atAlert⟩ :=
      joinGroup_cases (mgr.openGroup groupid).2 alert (mgr.openGroup groupid).1
        groupwaitsec currtusec
    refine ⟨only.trans joined, ?_, ?_⟩
    · exact (congrArg canSend atAlert).trans (congrArg (canSend <| · alert) sameAlerts)
    · exact (congrArg AlertStats.isDeleted atAlert).trans
        (congrArg (fun alerts => (alerts alert).isDeleted) sameAlerts)

lemma findStat_newAlert (astat : AlertStats) (alertid : Nat) :
    (mgr.newAlert astat).findStat alertid =
      if astat.alertid = alertid then some mgr.numAlerts else mgr.findStat alertid := by
  show Option.map (·.2) (List.find? (fun entry => decide (entry.1 = alertid))
    ((astat.alertid, mgr.numAlerts) :: mgr.astatmap)) = _
  rw [List.find?_cons]
  by_cases isId : astat.alertid = alertid
  · simp only [isId, decide_true, Option.map_some, if_true]
  · simp only [isId, decide_false, if_false, findStat]

lemma Indexed.newAlert (indexed : Indexed mgr) {astat : AlertStats}
    (absent : mgr.findStat astat.alertid = none) (notDeleted : astat.isDeleted = false) :
    Indexed (mgr.newAlert astat) := by
  have atNew : ∀ other, other ≠ mgr.numAlerts →
      (mgr.newAlert astat).alerts other = mgr.alerts other := fun other ne =>
    if_neg ne
  have new : (mgr.newAlert astat).alerts mgr.numAlerts = astat := if_pos rfl
  have findNew : (mgr.newAlert astat).findStat astat.alertid = some mgr.numAlerts := by
    rw [findStat_newAlert, if_pos rfl]
  have findOther : ∀ otherId, otherId ≠ astat.alertid →
      (mgr.newAlert astat).findStat otherId = mgr.findStat otherId := by
    intro otherId ne
    rw [findStat_newAlert, if_neg (Ne.symm ne)]
  refine ⟨?_, ?_, ?_⟩
  · intro otherId other isFound
    by_cases isNew : otherId = astat.alertid
    · rw [isNew, findNew, Option.some.injEq] at isFound
      rw [← isFound, new, isNew]
      exact ⟨rfl, notDeleted⟩
    rw [findOther otherId isNew] at isFound
    have known := indexed.found otherId other isFound
    have ne : other ≠ mgr.numAlerts := by
      intro same
      have isFresh := indexed.fresh other (Nat.le_of_eq same.symm)
      rw [known.2] at isFresh
      contradiction
    rw [atNew other ne]
    exact known
  · intro other otherNotDeleted
    by_cases isNew : other = mgr.numAlerts
    · rw [isNew, new]
      exact findNew
    rw [atNew other isNew] at otherNotDeleted ⊢
    have isStored := indexed.stored other otherNotDeleted
    have ne : (mgr.alerts other).alertid ≠ astat.alertid := by
      intro same
      rw [same, absent] at isStored
      contradiction
    rw [findOther _ ne]
    exact isStored
  · intro other isFresh
    replace isFresh : mgr.numAlerts + 1 ≤ other := isFresh
    rw [atNew other (by omega)]
    exact indexed.fresh other (by omega)

lemma FiredFor.newAlert (fired : FiredFor mgr alertid) (indexed : Indexed mgr)
    {astat : AlertStats} (ne : alertid ≠ astat.alertid) :
    ∃ alert, alert ≠ mgr.numAlerts ∧ (mgr.newAlert astat).findStat alertid = some alert ∧
      ((mgr.newAlert astat).alerts alert).state.isFired = true := by
  obtain ⟨alert, isFound, isFired⟩ := fired
  have notNew : alert ≠ mgr.numAlerts := by
    intro same
    have isFresh := indexed.fresh alert (Nat.le_of_eq same.symm)
    rw [(indexed.found alertid alert isFound).2] at isFresh
    contradiction
  have sameAlert : (mgr.newAlert astat).alerts alert = mgr.alerts alert := if_neg notNew
  rw [← sameAlert] at isFired
  refine ⟨alert, notNew, ?_, isFired⟩
  rw [findStat_newAlert, if_neg (Ne.symm ne)]
  exact isFound

/-- The condition under which an alert is not put into a group. -/
def Ungrouped (mgr : AlertMgr) (stat : AlertStatInfo) (pdef : Nat) : Prop :=
  stat.group = none ∨ (mgr.adefs pdef).groupwaitsec = 0

variable {stat : AlertStatInfo}

lemma insertAlert_ok (indexed : Indexed mgr) (absent : mgr.findStat stat.alertid = none)
    (fired : ∀ alertid, alertid ≠ stat.alertid → mgr.dispatched alertid = true →
      FiredFor mgr alertid) (pdef currtusec : Nat) (texpiry : Option Int) :
    Indexed (mgr.insertAlert stat pdef currtusec texpiry) ∧
      ∀ alertid, (mgr.insertAlert stat pdef currtusec texpiry).dispatched alertid = true →
        (alertid = stat.alertid → mgr.dispatched alertid = true → Ungrouped mgr stat pdef) →
        FiredFor (mgr.insertAlert stat pdef currtusec texpiry) alertid := by
  have added := indexed.newAlert (show mgr.findStat (newStats stat pdef
    (mgr.adefs pdef).forceclosesec texpiry).alertid = none from absent) rfl
  have addedFired := fun alertid ne isDispatched =>
    @FiredFor.newAlert mgr alertid (fired alertid ne isDispatched) indexed
      (newStats stat pdef (mgr.adefs pdef).forceclosesec texpiry) ne
  have new : (mgr.newAlert (newStats stat pdef (mgr.adefs pdef).forceclosesec texpiry)).alerts
      mgr.numAlerts = newStats stat pdef (mgr.adefs pdef).forceclosesec texpiry := if_pos rfl
  obtain ⟨only, sends, deleted⟩ := setAstatGroup_cases
    (mgr.newAlert (newStats stat pdef (mgr.adefs pdef).forceclosesec texpiry)) mgr.numAlerts
    (mgr.adefs pdef).groupwaitsec stat.group currtusec
  have ungrouped : Ungrouped mgr stat pdef →
      (mgr.newAlert (newStats stat pdef (mgr.adefs pdef).forceclosesec texpiry)).setAstatGroup
        mgr.numAlerts (mgr.adefs pdef).groupwaitsec stat.group currtusec =
      mgr.newAlert (newStats stat pdef (mgr.adefs pdef).forceclosesec texpiry) := by
    rintro (noGroup | noWait)
    · rw [noGroup]
      rfl
    · rw [noWait]
      cases stat.group <;> rfl
  rw [insertAlert]
  generalize (mgr.newAlert (newStats stat pdef (mgr.adefs pdef).forceclosesec
    texpiry)).setAstatGroup mgr.numAlerts (mgr.adefs pdef).groupwaitsec stat.group currtusec =
      grouped at only sends deleted ungrouped
  rw [new] at sends deleted
  have isId : (grouped.alerts mgr.numAlerts).alertid = stat.alertid := by
    rw [only.alertid, new]
    rfl
  have groupedIndexed : Indexed grouped := by
    apply added.of_same only.astatmap only.numAlerts
    intro other
    by_cases isNew : other = mgr.numAlerts
    · rw [isNew, new, deleted, isId]
      exact ⟨rfl, rfl⟩
    · rw [only.others other isNew]
      exact ⟨rfl, rfl⟩
  have groupedFired : ∀ alertid, alertid ≠ stat.alertid → grouped.dispatched alertid = true →
      FiredFor grouped alertid := by
    intro alertid ne isDispatched
    rw [only.dispatched] at isDispatched
    obtain ⟨alert, notNew, isFound, isFired⟩ := addedFired alertid ne isDispatched
    refine ⟨alert, ?_, ?_⟩
    · rw [findStat_of_astatmap only.astatmap]
      exact isFound
    · rw [only.others alert notNew]
      exact isFired
  split
  · refine ⟨indexed_sendAlerts groupedIndexed _, ?_⟩
    intro alertid isDispatched _
    by_cases isNew : alertid = stat.alertid
    · have sent := firedFor_sent groupedIndexed (mem_singleton_self mgr.numAlerts) sends
      rw [isId] at sent
      rw [isNew]
      exact sent
    · exact firedFor_sendAlerts groupedIndexed (groupedFired alertid isNew) isDispatched
  next isGrouped =>
  refine ⟨groupedIndexed, ?_⟩
  intro alertid isDispatched allowed
  by_cases isNew : alertid = stat.alertid
  · rw [only.dispatched] at isDispatched
    have same := ungrouped (allowed isNew isDispatched)
    rw [same, new] at isGrouped
    exact absurd rfl isGrouped
  · exact groupedFired alertid isNew isDispatched

/-! ## Steps and runs -/

/-- The manager between two messages. -/
def Ok (mgr : AlertMgr) : Prop :=
  Indexed mgr ∧ ∀ alertid, mgr.dispatched alertid = true → FiredFor mgr alertid

lemma Ok.remembered (ok : Ok mgr) : mgr.Remembered :=
  remembered_of_firedFor ok.1 ok.2

lemma ok_init (adefs : Nat → AlertDef) (adefmap : Nat → Option Nat) :
    Ok (init adefs adefmap) := by
  refine ⟨⟨?_, ?_, fun _ _ => rfl⟩, fun _ isDispatched => Bool.noConfusion isDispatched⟩
  · intro alertid alert isFound
    rw [show (init adefs adefmap).findStat alertid = none from rfl] at isFound
    contradiction
  · intro alert notDeleted
    exact Bool.noConfusion notDeleted

/-- A message with a definition that lets it pass, in a state in which alerts are allowed. -/
structure Admits (mgr : AlertMgr) (stat : AlertStatInfo) (tcurr : Int) (pdef : Nat) : Prop where
  isDef : mgr.adefmap stat.adefId = some pdef
  defAllows : mgr.defAllows stat pdef tcurr = true
  allowed : (mgr.checkSetAlertsAllowed tcurr).1 = true
  passes : AlertStatInfo.passes stat = true
  ungrouped : Ungrouped mgr stat pdef

lemma Admits.of_settings {tcurr : Int} {pdef : Nat} (admits : Admits mgr stat tcurr pdef)
    (same : after.settings = mgr.settings)
    (fewer : after.astatmap.length ≤ mgr.astatmap.length) : Admits after stat tcurr pdef := by
  simp only [settings, Prod.mk.injEq] at same
  obtain ⟨adefs, adefmap, tdisableEnd, tminStart, thourStart, nalertsMin, nalertsHour⟩ := same
  refine ⟨?_, ?_, ?_, admits.passes, ?_⟩
  · rw [adefmap]
    exact admits.isDef
  · rw [AlertMgr.defAllows, adefs]
    exact admits.defAllows
  · have allowed := (checkSetAlertsAllowed_iff tcurr).mp admits.allowed
    rw [checkSetAlertsAllowed_iff, tdisableEnd, tminStart, thourStart, nalertsMin, nalertsHour]
    exact ⟨allowed.1, allowed.2.1, allowed.2.2.1,
      fun full => allowed.2.2.2 (Nat.le_trans full fewer)⟩
  · rw [Ungrouped, adefs]
    exact admits.ungrouped

/-- The manager in the middle of a message, when the map has no alert of its identifier. -/
structure Vacant (mgr : AlertMgr) (alertid : Nat) : Prop where
  indexed : Indexed mgr
  absent : mgr.findStat alertid = none
  fired : ∀ other, other ≠ alertid → mgr.dispatched other = true → FiredFor mgr other

lemma Vacant.of_core (vacant : Vacant mgr alertid) (same : after.core = mgr.core) :
    Vacant after alertid := by
  have vacantCore : Vacant mgr.core alertid :=
    ⟨{ vacant.indexed with }, vacant.absent,
      vacant.fired⟩
  rw [← same] at vacantCore
  exact ⟨{ vacantCore.indexed with },
    vacantCore.absent, vacantCore.fired⟩

lemma Vacant.ok (vacant : Vacant mgr alertid) (quiet : ¬ mgr.dispatched alertid = true) :
    Ok mgr := by
  refine ⟨vacant.indexed, ?_⟩
  intro other isDispatched
  apply vacant.fired other _ isDispatched
  intro same
  rw [same] at isDispatched
  exact quiet isDispatched

lemma Vacant.admitAlert (vacant : Vacant mgr stat.alertid) {tcurr : Int} (currtusec : Nat)
    (texpiry : Option Int)
    (admits : mgr.dispatched stat.alertid = true → ∃ pdef, Admits mgr stat tcurr pdef) :
    Ok (mgr.admitAlert stat tcurr currtusec texpiry).2 := by
  have sameCore := @core_checkSetAlertsAllowed mgr tcurr
  have checked := vacant.of_core sameCore
  have sameDispatched : (mgr.checkSetAlertsAllowed tcurr).2.dispatched = mgr.dispatched := by
    have same := congrArg AlertMgr.dispatched sameCore
    exact same
  have sameDefs : (mgr.checkSetAlertsAllowed tcurr).2.adefs = mgr.adefs := by
    have same := congrArg AlertMgr.adefs sameCore
    exact same
  rw [AlertMgr.admitAlert]
  split
  next noDef =>
    apply vacant.ok
    intro isDispatched
    obtain ⟨pdef, admitted⟩ := admits isDispatched
    rw [admitted.isDef] at noDef
    contradiction
  next pdef isDef =>
  have sameDef : ∀ {other}, Admits mgr stat tcurr other → other = pdef := by
    intro other admitted
    have both := admitted.isDef.symm.trans isDef
    exact Option.some.inj both
  split
  · dsimp only
    split
    · obtain ⟨indexed, fired⟩ := insertAlert_ok checked.indexed checked.absent checked.fired
        pdef currtusec texpiry
      refine ⟨indexed, fun alertid isDispatched => fired alertid isDispatched ?_⟩
      intro isId before
      rw [sameDispatched, isId] at before
      obtain ⟨other, admitted⟩ := admits before
      rw [Ungrouped, sameDefs, ← sameDef admitted]
      exact admitted.ungrouped
    next rejected =>
    apply checked.ok
    rw [sameDispatched]
    intro isDispatched
    obtain ⟨other, admitted⟩ := admits isDispatched
    rw [admitted.allowed, admitted.passes] at rejected
    exact rejected rfl
  next rejected =>
  apply vacant.ok
  intro isDispatched
  obtain ⟨other, admitted⟩ := admits isDispatched
  rw [← sameDef admitted] at rejected
  exact rejected admitted.defAllows

lemma Ok.vacant (ok : Ok mgr) (isFound : mgr.findStat alertid = some alert)
    (only : OnlyAlert mgr after alert) (deleted : (after.alerts alert).isDeleted = true) :
    Vacant (after.eraseStat alertid) alertid where
  indexed := ok.1.remove isFound only deleted
  absent := findStat_eraseStat alertid
  fired := by
    intro other ne isDispatched
    replace isDispatched : after.dispatched other = true := isDispatched
    rw [only.dispatched] at isDispatched
    exact (ok.2 other isDispatched).remove ok.1 isFound ne only

/-- The condition on a step: a repeated alert that replaces a dispatched one in the map passes
the checks that follow, and joins no group. -/
def Replaceable (mgr : AlertMgr) : Event → Prop
  | .alert stat tcurr _ =>
    mgr.dispatched stat.alertid = true → 0 < stat.nrepeats →
      ∀ alert, mgr.findStat stat.alertid = some alert →
        (mgr.alerts alert).adefId = stat.adefId → mayRepeat (mgr.alerts alert) tcurr = true →
          ∃ pdef, Admits mgr stat tcurr pdef
  | _ => True

section

variable (ok : Ok mgr)
include ok

lemma Ok.addAlertStat {tcurr : Int} {currtusec : Nat}
    (replaceable : Replaceable mgr (.alert stat tcurr currtusec)) :
    Ok (mgr.addAlertStat stat tcurr currtusec).2 := by
  rw [AlertMgr.addAlertStat]
  split
  · exact ok
  split
  next absent =>
    have vacant : Vacant mgr stat.alertid := ⟨ok.1, absent, fun other _ => ok.2 other⟩
    apply vacant.admitAlert
    intro isDispatched
    obtain ⟨alert, isFound, -⟩ := ok.2 _ isDispatched
    rw [absent] at isFound
    contradiction
  next alert isFound =>
  have notDeleted := (ok.1.found _ _ isFound).2
  dsimp only
  split
  · exact ok
  next isRepeat =>
  split
  next isDeleted =>
    rw [notDeleted] at isDeleted
    contradiction
  · split
    · exact ok
    next sameDef =>
    split
    next repeats =>
      obtain ⟨only, deleted, -, settings⟩ :=
        mgr.cleanupAlertStat_cases alert tcurr false false
      apply (ok.vacant isFound only deleted).admitAlert
      intro isDispatched
      replace isDispatched :
        (mgr.cleanupAlertStat alert tcurr false false).dispatched stat.alertid = true :=
          isDispatched
      rw [only.dispatched] at isDispatched
      obtain ⟨pdef, admitted⟩ := replaceable isDispatched (Nat.pos_of_ne_zero isRepeat)
        alert isFound (Decidable.not_not.mp sameDef) repeats
      refine ⟨pdef, admitted.of_settings settings ?_⟩
      rw [← only.astatmap]
      exact length_filter_le _ _
    · exact ok

lemma Ok.handleAlertStatClose (alertid : Nat) (tclose : Int)
    (isForceClose : Bool) : Ok (mgr.handleAlertStatClose alertid tclose isForceClose) := by
  -- no alert of the identifier counts as dispatched afterwards
  have forget : ∀ {middle : AlertMgr}, Vacant middle alertid →
      Ok (middle.setDispatched alertid false) := by
    intro middle vacant
    refine ⟨{ vacant.indexed with }, ?_⟩
    intro other isDispatched
    rw [setDispatched] at isDispatched
    dsimp only at isDispatched
    split at isDispatched
    · contradiction
    next ne =>
      exact vacant.fired other ne isDispatched
  rw [AlertMgr.handleAlertStatClose]
  split
  next absent =>
    exact forget ⟨ok.1, absent, fun other _ => ok.2 other⟩
  next alert isFound =>
  have notDeleted := (ok.1.found _ _ isFound).2
  obtain ⟨only, deleted, -⟩ := mgr.cleanupAlertStat_cases alert tclose true isForceClose
  dsimp only
  rw [notDeleted, if_neg Bool.false_ne_true]
  exact forget (ok.vacant isFound only deleted)

lemma Ok.ackAlert (alertid : Nat) : Ok (mgr.ackAlert alertid) := by
  rw [AlertMgr.ackAlert]
  split
  · exact ok
  next alert isFound =>
  dsimp only
  split
  · have indexed : Indexed (mgr.setAlert alert { mgr.alerts alert with state := .acked }) := by
      refine @Indexed.of_same mgr _ ok.1 rfl rfl ?_
      intro other
      rw [setAlert]
      dsimp only
      split
      next isAlert =>
        rw [isAlert]
        exact ⟨rfl, rfl⟩
      · exact ⟨rfl, rfl⟩
    refine ⟨indexed, ?_⟩
    intro other isDispatched
    obtain ⟨otherAlert, isOther, isFired⟩ := ok.2 other isDispatched
    refine ⟨otherAlert, isOther, ?_⟩
    rw [setAlert]
    dsimp only
    split
    · rfl
    · exact isFired
  · exact ok

lemma Ok.checkAlertStat (tcurr : Int) (alertid : Nat) :
    Ok (mgr.checkAlertStat tcurr alertid) := by
  rw [AlertMgr.checkAlertStat]
  split
  · exact ok
  next alert isFound =>
  dsimp only
  rw [(ok.1.found _ _ isFound).2, if_neg Bool.false_ne_true]
  split
  · exact ok.handleAlertStatClose alertid tcurr true
  · exact ok

lemma Ok.checkAgroup (currtusec groupid : Nat) :
    Ok (mgr.checkAgroup currtusec groupid) := by
  rw [AlertMgr.checkAgroup]
  split
  · exact ok
  dsimp only
  split
  · exact ⟨{ ok.1 with }, ok.2⟩
  split
  next number _ _ _ =>
    obtain ⟨indexed, fired⟩ := agroupSendAlerts_ok ok.1 ok.2 number
    exact ⟨{ indexed with }, fired⟩
  · exact ok

lemma Ok.fireTimer (entry : Nat × Nat) : Ok (mgr.fireTimer entry) := by
  rw [AlertMgr.fireTimer]
  split
  · dsimp only
    split
    · exact ⟨{ ok.1 with }, ok.2⟩
    · obtain ⟨indexed, fired⟩ := agroupSendAlerts_ok ok.1 ok.2 entry.2
      exact ⟨{ indexed with }, fired⟩
  · exact ok

/-- One event, where a repeated alert replaces only what it may. -/
lemma Ok.step {event : Event} (replaceable : Replaceable mgr event) :
    Ok (mgr.step event) := by
  cases event with
  | alert stat tcurr currtusec => exact ok.addAlertStat replaceable
  | close alertid tclose isForceClose => exact ok.handleAlertStatClose alertid tclose isForceClose
  | ack alertid => exact ok.ackAlert alertid
  | adefs adefs adefmap => exact ⟨{ ok.1 with }, ok.2⟩
  | statCheck tcurr =>
    rw [AlertMgr.step, checkAlertStats]
    exact List.foldlRecOn _ _ ok fun _ ok alertid _ => ok.checkAlertStat tcurr alertid
  | timer entry => exact ok.fireTimer entry
  | groupCheck order currtusec =>
    rw [AlertMgr.step]
    exact List.foldlRecOn _ _ ok fun _ ok groupid _ => ok.checkAgroup currtusec groupid

end

/-- In every run in which the repeated alerts that replace dispatched ones pass all checks and
join no group, every dispatched alert is remembered until it is closed or expires. -/
theorem run_remembered (adefs : Nat → AlertDef) (adefmap : Nat → Option Nat) (events : List Event)
    (replaceable : Machine.Guarded step Replaceable (init adefs adefmap) events) :
    (Machine.run step (init adefs adefmap) events).Remembered :=
  Ok.remembered (replaceable.invariant (fun _ _ ok allowed => ok.step allowed)
    (ok_init adefs adefmap))

/-- Definitions that close an alert after a day, with the same group wait. -/
def dayLongDefs (groupwaitsec : Nat) : Nat → AlertDef := fun _ => ⟨false, true, 86400, groupwaitsec⟩

/-- A message of alert 1 that passes all checks. -/
def alertOne (talert : Int) (nrepeats : Nat) (group : Option Nat) : AlertStatInfo :=
  ⟨1, 5, talert, nrepeats, 10, true, true, false, false, group⟩

/-- An alert and, after more than an hour, its repetition. -/
def repeatedAlert : List Event :=
  [.alert (alertOne 1000 0 none) 1000 1000000000, .alert (alertOne 5000 1 none) 5000 5000000000]

theorem repeatedAlert_remembered :
    (Machine.run step (init (dayLongDefs 0) some) repeatedAlert).Remembered :=
  run_remembered (dayLongDefs 0) some repeatedAlert
    ⟨fun isDispatched => absurd isDispatched (by decide), fun _ _ _ _ _ _ =>
      ⟨5, rfl, by decide +kernel, by decide +kernel, by decide +kernel, .inl rfl⟩, trivial⟩

example : ((Machine.run step (init (dayLongDefs 0) some) repeatedAlert).dispatched 1,
    (Machine.run step (init (dayLongDefs 0) some) repeatedAlert).sent) = (true, [0, 1]) := by
  decide +kernel

/-- The repetition comes when the alert is silenced. -/
def silencedRepeat : List Event :=
  [.alert (alertOne 1000 0 none) 1000 1000000000,
    .alert { alertOne 5000 1 none with isSilenced := true } 5000 5000000000]

/-- The alert is then forgotten. -/
theorem silencedRepeat_not_remembered :
    ¬ (Machine.run step (init (dayLongDefs 0) some) silencedRepeat).Remembered := by
  intro remembered
  obtain ⟨⟨alert, isFound, -⟩, -⟩ := remembered 1 (by decide +kernel)
  rw [show (Machine.run step (init (dayLongDefs 0) some) silencedRepeat).findStat 1 = none by
    decide +kernel] at isFound
  contradiction

end Gyeeta.Alerts.AlertMgr
