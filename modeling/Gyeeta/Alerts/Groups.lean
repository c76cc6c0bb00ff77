import Mathlib.Data.List.Nodup
import Gyeeta.Alerts.Manager

/-!
# Alert groups

Four functions change groups, their alerts, the pointers back and the timers, and delete lazily.
One invariant ties them together: a group that is not deleted is in the map, has an alert and one
timer; an alert that points to a group waits in it; and every alert waits, was sent, or was
cleaned up while it waited.
-/

namespace Gyeeta.Alerts.AlertMgr

open List

/-! ## The invariant -/

/-- The invariant, with groups that have no timer yet or no alert any more, and alerts that
are being added. -/
structure Grouped (mgr : AlertMgr) (opening adding : Nat → Prop) : Prop where
  inMap : ∀ groupid number, mgr.agroupmap groupid = some number →
    (mgr.groups number).groupid = groupid ∧ (mgr.groups number).isDeleted = false
  mapped : ∀ number, (mgr.groups number).isDeleted = false →
    mgr.agroupmap (mgr.groups number).groupid = some number
  pending : ∀ number, ¬ opening number → (mgr.groups number).isDeleted = false →
    (mgr.groups number).statvec ≠ [] ∧ (mgr.groups number).isWait = true ∧
      mgr.atimemap.filter (·.2 = number) = [((mgr.groups number).tnextchkusec, number)]
  freshGroups : ∀ number, mgr.numGroups ≤ number →
    (mgr.groups number).isDeleted = true ∧ (mgr.groups number).statvec = []
  timers : ∀ entry ∈ mgr.atimemap, entry.2 < mgr.numGroups
  nodup : ∀ number, (mgr.groups number).statvec.Nodup
  unique : ∀ alert first second, alert ∈ (mgr.groups first).statvec →
    alert ∈ (mgr.groups second).statvec → first = second
  known : ∀ number alert, alert ∈ (mgr.groups number).statvec → alert < mgr.numAlerts
  waiting : ∀ alert number, (mgr.alerts alert).pgroup = some number →
    (mgr.groups number).isDeleted = false ∧ alert ∈ (mgr.groups number).statvec ∧
      (mgr.alerts alert).palertdata = true ∧ (mgr.alerts alert).isDeleted = false
  sentOnce : mgr.sent.Nodup
  sentCleared : ∀ alert ∈ mgr.sent,
    (mgr.alerts alert).palertdata = false ∧ alert < mgr.numAlerts
  fate : ∀ alert < mgr.numAlerts, ¬ adding alert →
    (∃ number, (mgr.alerts alert).pgroup = some number) ∨ alert ∈ mgr.sent ∨
      (mgr.alerts alert).closedWaiting = true

/-- No group and no alert is left out. -/
def never : Nat → Prop := fun _ => False

variable {mgr after : AlertMgr} {opening adding : Nat → Prop} {alert number : Nat}

lemma grouped_init (adefs : Nat → AlertDef) (adefmap : Nat → Option Nat) :
    Grouped (init adefs adefmap) never never where
  inMap := fun _ _ isGroup => by
    rw [init] at isGroup
    contradiction
  mapped := fun _ isLive => Bool.noConfusion isLive
  pending := fun _ _ isLive => Bool.noConfusion isLive
  freshGroups := fun _ _ => ⟨rfl, rfl⟩
  timers := fun _ mem => absurd mem not_mem_nil
  nodup := fun _ => nodup_nil
  unique := fun _ _ _ mem => absurd mem not_mem_nil
  known := fun _ _ mem => absurd mem not_mem_nil
  waiting := fun _ _ isGroup => by
    rw [init, noAlert] at isGroup
    contradiction
  sentOnce := nodup_nil
  sentCleared := fun _ mem => absurd mem not_mem_nil
  fate := fun _ isAlert => absurd isAlert (Nat.not_lt_zero _)

/-- What the groups depend on. -/
def groupView (mgr : AlertMgr) :
    (Nat → AlertStats) × Nat × (Nat → AlertGroup) × Nat × (Nat → Option Nat) × List (Nat × Nat) ×
      List Nat :=
  (mgr.alerts, mgr.numAlerts, mgr.groups, mgr.numGroups, mgr.agroupmap, mgr.atimemap, mgr.sent)

section

variable (grouped : Grouped mgr opening adding)
include grouped

lemma Grouped.of_same
    (numAlerts : after.numAlerts = mgr.numAlerts) (groups : after.groups = mgr.groups)
    (numGroups : after.numGroups = mgr.numGroups) (agroupmap : after.agroupmap = mgr.agroupmap)
    (atimemap : after.atimemap = mgr.atimemap) (sent : after.sent = mgr.sent)
    (alerts : ∀ alert, (after.alerts alert).pgroup = (mgr.alerts alert).pgroup ∧
      (after.alerts alert).palertdata = (mgr.alerts alert).palertdata ∧
      (after.alerts alert).closedWaiting = (mgr.alerts alert).closedWaiting ∧
      ((after.alerts alert).pgroup ≠ none →
        (after.alerts alert).isDeleted = (mgr.alerts alert).isDeleted)) :
    Grouped after opening adding where
  inMap := by
    rw [agroupmap, groups]
    exact grouped.inMap
  mapped := by
    rw [agroupmap, groups]
    exact grouped.mapped
  pending := by
    rw [groups, atimemap]
    exact grouped.pending
  freshGroups := by
    rw [groups, numGroups]
    exact grouped.freshGroups
  timers := by
    rw [atimemap, numGroups]
    exact grouped.timers
  nodup := by
    rw [groups]
    exact grouped.nodup
  unique := by
    rw [groups]
    exact grouped.unique
  known := by
    rw [groups, numAlerts]
    exact grouped.known
  waiting := by
    intro alert number isGroup
    obtain ⟨pgroup, palertdata, -, isDeleted⟩ := alerts alert
    rw [groups, palertdata, isDeleted (by rw [isGroup]; exact Option.some_ne_none number)]
    exact grouped.waiting alert number (pgroup ▸ isGroup)
  sentOnce := by
    rw [sent]
    exact grouped.sentOnce
  sentCleared := by
    intro alert isSent
    rw [sent] at isSent
    rw [(alerts alert).2.1, numAlerts]
    exact grouped.sentCleared alert isSent
  fate := by
    intro alert isAlert notAdding
    rw [numAlerts] at isAlert
    obtain ⟨pgroup, -, closedWaiting, -⟩ := alerts alert
    rw [pgroup, closedWaiting, sent]
    exact grouped.fate alert isAlert notAdding

lemma Grouped.of_groupView
    (same : after.groupView = mgr.groupView) : Grouped after opening adding := by
  rw [groupView, groupView] at same
  injection same with alerts same
  injection same with numAlerts same
  injection same with groups same
  injection same with numGroups same
  injection same with agroupmap same
  injection same with atimemap sent
  refine grouped.of_same numAlerts groups numGroups agroupmap atimemap sent ?_
  intro alert
  rw [alerts]
  exact ⟨rfl, rfl, rfl, fun _ => rfl⟩

lemma Grouped.mono {more : Nat → Prop}
    (weaker : ∀ number, opening number → more number) : Grouped mgr more adding :=
  { grouped with
    pending := fun number notMore =>
      grouped.pending number fun isOpening => notMore (weaker number isOpening) }

end

lemma Grouped.settle (grouped : Grouped mgr opening (· = alert)) (isSent : alert ∈ mgr.sent) :
    Grouped mgr opening never :=
  { grouped with
    fate := by
      intro other isAlert _
      by_cases same : other = alert
      · exact .inr (.inl (same ▸ isSent))
      · exact grouped.fate other isAlert same }

/-! ## Timers and groups that go -/

section

variable (grouped : Grouped mgr opening adding)
include grouped

lemma Grouped.setTimemap {timemap : List (Nat × Nat)}
    (subset : ∀ entry ∈ timemap, entry ∈ mgr.atimemap)
    (same : ∀ number, ¬ opening number → (mgr.groups number).isDeleted = false →
      timemap.filter (·.2 = number) = mgr.atimemap.filter (·.2 = number)) :
    Grouped { mgr with atimemap := timemap } opening adding :=
  { grouped with
    pending := by
      intro number notOpening isLive
      obtain ⟨nonempty, isWait, timer⟩ := grouped.pending number notOpening isLive
      exact ⟨nonempty, isWait, (same number notOpening isLive).trans timer⟩
    timers := fun entry mem => grouped.timers entry (subset entry mem) }

lemma Grouped.eraseGroupTimemap (keyusec : Nat)
    (gone : (mgr.groups number).isDeleted = false → opening number) :
    Grouped (mgr.eraseGroupTimemap number keyusec) opening adding := by
  refine grouped.setTimemap (fun entry mem => mem_of_mem_filter mem) ?_
  intro other notOpening isLive
  have ne : number ≠ other := by
    rintro rfl
    exact notOpening (gone isLive)
  rw [filter_filter]
  refine filter_congr ?_
  intro entry _
  by_cases isOther : entry.2 = other
  · simp [isOther, ne.symm]
  · simp [isOther]

lemma Grouped.eraseTimer (entry : Nat × Nat)
    (gone : (mgr.groups entry.2).isDeleted = false → opening entry.2) :
    Grouped { mgr with atimemap := mgr.atimemap.erase entry } opening adding := by
  refine grouped.setTimemap (fun other mem => mem_of_mem_erase mem) ?_
  intro other notOpening isLive
  rw [← erase_filter, erase_of_not_mem]
  intro mem
  have isOther : entry.2 = other := by
    simpa using (mem_filter.mp mem).2
  exact notOpening (isOther ▸ gone (isOther ▸ isLive))

end

lemma groups_setGroup_ne {group : AlertGroup} {other : Nat} (ne : other ≠ number) :
    (mgr.setGroup number group).groups other = mgr.groups other :=
  if_neg ne

lemma groups_setGroup (group : AlertGroup) : (mgr.setGroup number group).groups number = group :=
  if_pos rfl

lemma sameGroup_of_ne
    (own : (after.groups number).groupid = (mgr.groups number).groupid ∧
      (after.groups number).isDeleted = (mgr.groups number).isDeleted)
    (others : ∀ {other}, other ≠ number → after.groups other = mgr.groups other) (other : Nat) :
    (after.groups other).groupid = (mgr.groups other).groupid ∧
      (after.groups other).isDeleted = (mgr.groups other).isDeleted := by
  by_cases same : other = number
  · exact same ▸ own
  · rw [others same]
    exact ⟨rfl, rfl⟩

lemma alerts_setAlert_ne {astat : AlertStats} {other : Nat} (ne : other ≠ alert) :
    (mgr.setAlert alert astat).alerts other = mgr.alerts other :=
  if_neg ne

lemma groups_dropGroup_ne {other : Nat} (ne : other ≠ number) :
    (mgr.dropGroup number).groups other = mgr.groups other :=
  groups_setGroup_ne ne

lemma isDeleted_dropGroup : ((mgr.dropGroup number).groups number).isDeleted = true := by
  show ((mgr.setGroup number _).groups number).isDeleted = true
  rw [groups_setGroup]

lemma statvec_dropGroup (other : Nat) :
    ((mgr.dropGroup number).groups other).statvec = (mgr.groups other).statvec := by
  by_cases same : other = number
  · subst same
    show ((mgr.setGroup other _).groups other).statvec = _
    rw [groups_setGroup]
  · rw [groups_dropGroup_ne same]

/-- A group that no alert points to is deleted. -/
lemma Grouped.dropGroup (grouped : Grouped mgr (· = number) adding)
    (isLive : (mgr.groups number).isDeleted = false)
    (left : ∀ alert, (mgr.alerts alert).pgroup ≠ some number) :
    Grouped (mgr.dropGroup number) never adding := by
  have ne : ∀ {other}, ((mgr.dropGroup number).groups other).isDeleted = false →
      other ≠ number := by
    rintro other notDeleted rfl
    rw [isDeleted_dropGroup] at notDeleted
    contradiction
  have otherId : ∀ {other}, other ≠ number → (mgr.groups other).isDeleted = false →
      (mgr.groups other).groupid ≠ (mgr.groups number).groupid := by
    intro other isOther otherLive sameId
    have isNumber := grouped.mapped number isLive
    rw [← sameId, grouped.mapped other otherLive] at isNumber
    exact isOther (Option.some.inj isNumber)
  refine ⟨?inMap, ?mapped, ?pending, ?freshGroups, grouped.timers, ?nodup, ?unique, ?known,
    ?waiting, grouped.sentOnce, grouped.sentCleared, grouped.fate⟩
  case inMap =>
    intro groupid other isGroup
    have entry : (if groupid = (mgr.groups number).groupid then none else mgr.agroupmap groupid) =
        some other := isGroup
    split at entry
    · contradiction
    next otherGroupid =>
    obtain ⟨isId, otherLive⟩ := grouped.inMap groupid other entry
    have isOther : other ≠ number := by
      rintro rfl
      exact otherGroupid isId.symm
    rw [groups_dropGroup_ne isOther]
    exact ⟨isId, otherLive⟩
  case mapped =>
    intro other otherLive
    have isOther := ne otherLive
    rw [groups_dropGroup_ne isOther] at otherLive ⊢
    exact (if_neg (otherId isOther otherLive)).trans (grouped.mapped other otherLive)
  case pending =>
    intro other _ otherLive
    have isOther := ne otherLive
    rw [groups_dropGroup_ne isOther] at otherLive ⊢
    exact grouped.pending other isOther otherLive
  case freshGroups =>
    intro other isFresh
    obtain ⟨isDeleted, isEmpty⟩ := grouped.freshGroups other isFresh
    refine ⟨?_, (statvec_dropGroup other).trans isEmpty⟩
    by_cases same : other = number
    · rw [same]
      exact isDeleted_dropGroup
    · rw [groups_dropGroup_ne same]
      exact isDeleted
  case nodup =>
    intro other
    rw [statvec_dropGroup]
    exact grouped.nodup other
  case unique =>
    intro alert first second
    rw [statvec_dropGroup, statvec_dropGroup]
    exact grouped.unique alert first second
  case known =>
    intro other alert
    rw [statvec_dropGroup]
    exact grouped.known other alert
  case waiting =>
    intro alert other isGroup
    have isOther : other ≠ number := by
      rintro rfl
      exact left alert isGroup
    rw [groups_dropGroup_ne isOther]
    exact grouped.waiting alert other isGroup

/-! ## Alerts that are cleaned up -/

variable {statvec : List Nat}

lemma statvec_setGroup {other : Nat} (mem : alert ∈ ((mgr.setGroup number
      { mgr.groups number with statvec := statvec }).groups other).statvec) :
    (other = number ∧ alert ∈ statvec) ∨ (other ≠ number ∧ alert ∈ (mgr.groups other).statvec) := by
  by_cases same : other = number
  · rw [same, groups_setGroup] at mem
    exact .inl ⟨same, mem⟩
  · rw [groups_setGroup_ne same] at mem
    exact .inr ⟨same, mem⟩

/-- An alert is no longer in its group, which may then be empty. -/
def removeAlert (mgr : AlertMgr) (alert number : Nat) : AlertMgr :=
  (mgr.setGroup number { mgr.groups number with
    statvec := (mgr.groups number).statvec.erase alert }).setAlert alert
    { mgr.alerts alert with pgroup := none, closedWaiting := true }

lemma leaveGroup_some (isGroup : (mgr.alerts alert).pgroup = some number) : mgr.leaveGroup alert =
      if ((mgr.groups number).statvec.erase alert).isEmpty && !(mgr.groups number).isDeleted then
        (if (mgr.groups number).tnextchkusec ≠ 0 then
          (mgr.removeAlert alert number).eraseGroupTimemap number (mgr.groups number).tnextchkusec
        else mgr.removeAlert alert number).dropGroup number else mgr.removeAlert alert number := by
  rw [leaveGroup, isGroup]
  rfl

lemma alerts_removeAlert : (mgr.removeAlert alert number).alerts alert =
    { mgr.alerts alert with pgroup := none, closedWaiting := true } :=
  alerts_setAlert _

lemma groups_removeAlert : (mgr.removeAlert alert number).groups number =
    { mgr.groups number with statvec := (mgr.groups number).statvec.erase alert } :=
  groups_setGroup _

lemma groups_removeAlert_ne {other : Nat} (ne : other ≠ number) :
    (mgr.removeAlert alert number).groups other = mgr.groups other :=
  groups_setGroup_ne ne

lemma alerts_removeAlert_ne {other : Nat} (ne : other ≠ alert) :
    (mgr.removeAlert alert number).alerts other = mgr.alerts other :=
  alerts_setAlert_ne ne

/-- An alert that is cleaned up leaves its group, which may then be empty. -/
lemma Grouped.removeAlert (grouped : Grouped mgr never never)
    (isGroup : (mgr.alerts alert).pgroup = some number) : Grouped (mgr.removeAlert alert number)
      (fun other => other = number ∧ (mgr.groups number).statvec.erase alert = []) never := by
  obtain ⟨isLive, isListed, -, -⟩ := grouped.waiting alert number isGroup
  have sameGroup := @sameGroup_of_ne mgr (mgr.removeAlert alert number) number
    (by rw [groups_removeAlert]; exact ⟨rfl, rfl⟩) groups_removeAlert_ne
  have wasListed : ∀ {listed other},
      listed ∈ ((mgr.removeAlert alert number).groups other).statvec →
      listed ∈ (mgr.groups other).statvec := by
    intro listed other mem
    rcases statvec_setGroup mem with ⟨same, inErased⟩ | ⟨-, inOther⟩
    · exact same ▸ mem_of_mem_erase inErased
    · exact inOther
  refine ⟨?inMap, ?mapped, ?pending, ?freshGroups, grouped.timers, ?nodup, ?unique, ?known,
    ?waiting, grouped.sentOnce, ?sentCleared, ?fate⟩
  case inMap =>
    intro groupid other isEntry
    rw [(sameGroup other).1, (sameGroup other).2]
    exact grouped.inMap groupid other isEntry
  case mapped =>
    intro other
    rw [(sameGroup other).1, (sameGroup other).2]
    exact grouped.mapped other
  case pending =>
    intro other notEmptied
    by_cases same : other = number
    · subst same
      rw [groups_removeAlert]
      intro otherLive
      obtain ⟨-, isWait, timer⟩ := grouped.pending other id isLive
      exact ⟨fun isEmpty => notEmptied ⟨rfl, isEmpty⟩, isWait, timer⟩
    · rw [groups_removeAlert_ne same]
      exact grouped.pending other id
  case freshGroups =>
    intro other isFresh
    obtain ⟨isDeleted, isEmpty⟩ := grouped.freshGroups other isFresh
    refine ⟨(sameGroup other).2.trans isDeleted, ?_⟩
    refine eq_nil_iff_forall_not_mem.mpr ?_
    intro listed mem
    have inOther := wasListed mem
    rw [isEmpty] at inOther
    exact not_mem_nil inOther
  case nodup =>
    intro other
    by_cases same : other = number
    · rw [same, groups_removeAlert]
      exact (grouped.nodup number).erase alert
    · rw [groups_removeAlert_ne same]
      exact grouped.nodup other
  case unique =>
    intro listed first second inFirst inSecond
    exact grouped.unique listed first second (wasListed inFirst) (wasListed inSecond)
  case known => exact fun other listed mem => grouped.known other listed (wasListed mem)
  case waiting =>
    intro other otherGroup isPointer
    by_cases same : other = alert
    · rw [same, alerts_removeAlert] at isPointer
      contradiction
    rw [alerts_removeAlert_ne same] at isPointer ⊢
    obtain ⟨otherLive, mem, hasData, notDeleted⟩ := grouped.waiting other otherGroup isPointer
    refine ⟨(sameGroup otherGroup).2.trans otherLive, ?_, hasData, notDeleted⟩
    by_cases sameNumber : otherGroup = number
    · rw [sameNumber, groups_removeAlert]
      exact (mem_erase_of_ne same).mpr (sameNumber ▸ mem)
    · rw [groups_removeAlert_ne sameNumber]
      exact mem
  case sentCleared =>
    intro other isSent
    refine ⟨?_, (grouped.sentCleared other isSent).2⟩
    by_cases same : other = alert
    · rw [same, alerts_removeAlert]
      exact (grouped.sentCleared alert (same ▸ isSent)).1
    · rw [alerts_removeAlert_ne same]
      exact (grouped.sentCleared other isSent).1
  case fate =>
    intro other isAlert _
    by_cases same : other = alert
    · rw [same, alerts_removeAlert]
      exact .inr (.inr rfl)
    · rw [alerts_removeAlert_ne same]
      exact grouped.fate other isAlert id

lemma alerts_leaveGroup_some (isGroup : (mgr.alerts alert).pgroup = some number) :
    (mgr.leaveGroup alert).alerts = (mgr.removeAlert alert number).alerts := by
  rw [leaveGroup_some isGroup]
  split
  · split
    · rfl
    · rfl
  · rfl

lemma pgroup_leaveGroup (mgr : AlertMgr) (alert : Nat) :
    ((mgr.leaveGroup alert).alerts alert).pgroup = none := by
  cases isGroup : (mgr.alerts alert).pgroup with
  | none => rw [leaveGroup, isGroup, isGroup]
  | some number => rw [alerts_leaveGroup_some isGroup, alerts_removeAlert]

lemma Grouped.leaveGroup (grouped : Grouped mgr never never) (alert : Nat) :
    Grouped (mgr.leaveGroup alert) never never := by
  cases isGroup : (mgr.alerts alert).pgroup with
  | none =>
    rw [AlertMgr.leaveGroup, isGroup]
    exact grouped
  | some number =>
    have isLive := (grouped.waiting alert number isGroup).1
    have removed := grouped.removeAlert isGroup
    rw [leaveGroup_some isGroup, isLive, Bool.not_false, Bool.and_true]
    split
    next isEmpty =>
      have isNil := isEmpty_iff.mp isEmpty
      have emptied := removed.mono fun _ => And.left
      have leftLive : ((mgr.removeAlert alert number).groups number).isDeleted = false := by
        rw [groups_removeAlert]
        exact isLive
      have unused : ∀ other,
          ((mgr.removeAlert alert number).alerts other).pgroup ≠ some number := by
        intro other isPointer
        obtain ⟨-, mem, -⟩ := removed.waiting other number isPointer
        rw [groups_removeAlert, isNil] at mem
        exact not_mem_nil mem
      split
      · exact (emptied.eraseGroupTimemap _ fun _ => rfl).dropGroup leftLive unused
      · exact emptied.dropGroup leftLive unused
    next notEmpty =>
    refine removed.mono ?_
    rintro _ ⟨-, isNil⟩
    exact notEmpty (isEmpty_iff.mpr isNil)

lemma Grouped.setAlert (grouped : Grouped mgr opening adding) {astat : AlertStats}
    (pgroup : astat.pgroup = (mgr.alerts alert).pgroup)
    (palertdata : astat.palertdata = (mgr.alerts alert).palertdata)
    (closedWaiting : astat.closedWaiting = (mgr.alerts alert).closedWaiting)
    (isDeleted : astat.pgroup ≠ none → astat.isDeleted = (mgr.alerts alert).isDeleted) :
    Grouped (mgr.setAlert alert astat) opening adding := by
  refine grouped.of_same rfl rfl rfl rfl rfl rfl ?_
  intro other
  by_cases same : other = alert
  · rw [same, alerts_setAlert]
    exact ⟨pgroup, palertdata, closedWaiting, isDeleted⟩
  · rw [alerts_setAlert_ne same]
    exact ⟨rfl, rfl, rfl, fun _ => rfl⟩

lemma Grouped.cleanupAlertStat (grouped : Grouped mgr never never) (alert : Nat) (tclose : Int)
    (isClose isForceClose : Bool) :
    Grouped (mgr.cleanupAlertStat alert tclose isClose isForceClose) never never := by
  have marked : Grouped (if isClose then mgr.markClosed alert tclose isForceClose else mgr)
      never never := by
    split
    · exact grouped.setAlert rfl rfl rfl fun _ => rfl
    · exact grouped
  have left := marked.leaveGroup alert
  have noPointer := pgroup_leaveGroup
    (if isClose then mgr.markClosed alert tclose isForceClose else mgr) alert
  have deleted := @Grouped.setAlert _ _ _ alert left
    { ((if isClose then mgr.markClosed alert tclose isForceClose else mgr).leaveGroup alert).alerts
      alert with isDeleted := true } rfl rfl rfl (fun isPointer => absurd noPointer isPointer)
  rw [AlertMgr.cleanupAlertStat]
  split
  · exact deleted.of_groupView rfl
  · exact deleted

/-! ## Dispatch -/

lemma alerts_sendAlerts_of_not
    (untouched : ¬ (alert ∈ statvec ∧ (mgr.alerts alert).isDeleted = false)) :
    (mgr.sendAlerts statvec).alerts alert = mgr.alerts alert :=
  if_neg untouched

lemma alerts_sendAlerts_of_mem (mem : alert ∈ statvec)
    (notDeleted : (mgr.alerts alert).isDeleted = false) :
    ((mgr.sendAlerts statvec).alerts alert).pgroup = none ∧
      ((mgr.sendAlerts statvec).alerts alert).palertdata = false := by
  rw [sendAlerts]
  dsimp only
  rw [if_pos ⟨mem, notDeleted⟩]
  exact ⟨rfl, rfl⟩

lemma closedWaiting_sendAlerts (statvec : List Nat) (alert : Nat) :
    ((mgr.sendAlerts statvec).alerts alert).closedWaiting = (mgr.alerts alert).closedWaiting := by
  rw [sendAlerts]
  dsimp only
  split <;> rfl

lemma mem_sent_sendAlerts : alert ∈ (mgr.sendAlerts statvec).sent ↔
      alert ∈ mgr.sent ∨ (alert ∈ statvec ∧ (mgr.alerts alert).isDeleted = false ∧
        (mgr.alerts alert).palertdata = true) := by
  show alert ∈ mgr.sent ++ statvec.filter (fun alert => canSend (mgr.alerts alert)) ↔ _
  rw [mem_append, mem_filter, canSend, Bool.and_eq_true, Bool.not_eq_true']

/-- Sending clears the alerts that are sent. -/
lemma Grouped.sendAlerts (grouped : Grouped mgr opening adding) (nodup : statvec.Nodup)
    (known : ∀ alert ∈ statvec, alert < mgr.numAlerts) :
    Grouped (mgr.sendAlerts statvec) opening adding := by
  have cleared : ∀ {alert}, (mgr.alerts alert).palertdata = false →
      ((mgr.sendAlerts statvec).alerts alert).palertdata = false := by
    intro alert noData
    by_cases touched : alert ∈ statvec ∧ (mgr.alerts alert).isDeleted = false
    · exact (alerts_sendAlerts_of_mem touched.1 touched.2).2
    · rw [alerts_sendAlerts_of_not touched]
      exact noData
  refine ⟨grouped.inMap, grouped.mapped, grouped.pending, grouped.freshGroups, grouped.timers,
    grouped.nodup, grouped.unique, grouped.known, ?waiting, ?sentOnce, ?sentCleared, ?fate⟩
  case waiting =>
    intro alert number isPointer
    by_cases touched : alert ∈ statvec ∧ (mgr.alerts alert).isDeleted = false
    · rw [(alerts_sendAlerts_of_mem touched.1 touched.2).1] at isPointer
      contradiction
    · rw [alerts_sendAlerts_of_not touched] at isPointer ⊢
      exact grouped.waiting alert number isPointer
  case sentOnce =>
    refine List.Nodup.append grouped.sentOnce (nodup.filter _) ?_
    intro alert isSent isSending
    have canBeSent := (mem_filter.mp isSending).2
    rw [canSend, (grouped.sentCleared alert isSent).1, Bool.and_false] at canBeSent
    contradiction
  case sentCleared =>
    intro alert isSent
    rcases mem_sent_sendAlerts.mp isSent with wasSent | ⟨mem, notDeleted, -⟩
    · exact ⟨cleared (grouped.sentCleared alert wasSent).1, (grouped.sentCleared alert wasSent).2⟩
    · exact ⟨(alerts_sendAlerts_of_mem mem notDeleted).2, known alert mem⟩
  case fate =>
    intro alert isAlert notAdding
    rw [closedWaiting_sendAlerts, mem_sent_sendAlerts]
    rcases grouped.fate alert isAlert notAdding with ⟨number, isPointer⟩ | wasSent | isClosed
    · obtain ⟨-, -, hasData, notDeleted⟩ := grouped.waiting alert number isPointer
      by_cases mem : alert ∈ statvec
      · exact .inr (.inl (.inr ⟨mem, notDeleted, hasData⟩))
      · rw [alerts_sendAlerts_of_not fun touched => mem touched.1]
        exact .inl ⟨number, isPointer⟩
    · exact .inr (.inl (.inl wasSent))
    · exact .inr (.inr isClosed)

lemma Grouped.agroupSendAlerts (grouped : Grouped mgr never never)
    (isLive : (mgr.groups number).isDeleted = false) :
    Grouped (mgr.agroupSendAlerts number) never never ∧
      ((mgr.agroupSendAlerts number).groups number).isDeleted = true := by
  have nonempty : ¬ (mgr.groups number).statvec.isEmpty = true := fun isEmpty =>
    (grouped.pending number id isLive).1 (isEmpty_iff.mp isEmpty)
  have sent := grouped.sendAlerts (grouped.nodup number) (grouped.known number)
  rw [AlertMgr.agroupSendAlerts, if_neg nonempty]
  refine ⟨(sent.mono fun _ => False.elim).dropGroup isLive ?_, isDeleted_dropGroup⟩
  intro alert isPointer
  by_cases touched : alert ∈ (mgr.groups number).statvec ∧ (mgr.alerts alert).isDeleted = false
  · rw [(alerts_sendAlerts_of_mem touched.1 touched.2).1] at isPointer
    contradiction
  · rw [alerts_sendAlerts_of_not touched] at isPointer
    obtain ⟨-, mem, -, notDeleted⟩ := grouped.waiting alert number isPointer
    exact touched ⟨mem, notDeleted⟩

/-! ## Alerts that are added -/

/-- An alert that was made just now. -/
structure Fresh (mgr : AlertMgr) (alert : Nat) : Prop where
  isAlert : alert < mgr.numAlerts
  notListed : ∀ number, alert ∉ (mgr.groups number).statvec
  hasData : (mgr.alerts alert).palertdata = true
  notDeleted : (mgr.alerts alert).isDeleted = false

lemma Grouped.newAlert (grouped : Grouped mgr never never) {astat : AlertStats}
    (noPointer : astat.pgroup = none) (hasData : astat.palertdata = true)
    (notDeleted : astat.isDeleted = false) :
    Grouped (mgr.newAlert astat) never (· = mgr.numAlerts) ∧
      Fresh (mgr.newAlert astat) mgr.numAlerts := by
  have others : ∀ {other}, other ≠ mgr.numAlerts →
      (mgr.newAlert astat).alerts other = mgr.alerts other := alerts_setAlert_ne
  have own : (mgr.newAlert astat).alerts mgr.numAlerts = astat := alerts_setAlert astat
  refine ⟨⟨grouped.inMap, grouped.mapped, grouped.pending, grouped.freshGroups, grouped.timers,
    grouped.nodup, grouped.unique, ?known, ?waiting, grouped.sentOnce, ?sentCleared, ?fate⟩, ?fresh⟩
  case known =>
    intro number alert mem
    exact Nat.lt_succ_of_lt (grouped.known number alert mem)
  case waiting =>
    intro alert number isPointer
    by_cases same : alert = mgr.numAlerts
    · rw [same, own, noPointer] at isPointer
      contradiction
    · rw [others same] at isPointer ⊢
      exact grouped.waiting alert number isPointer
  case sentCleared =>
    intro alert isSent
    obtain ⟨noData, isAlert⟩ := grouped.sentCleared alert isSent
    rw [others (Nat.ne_of_lt isAlert)]
    exact ⟨noData, Nat.lt_succ_of_lt isAlert⟩
  case fate =>
    intro alert isAlert ne
    rw [others ne]
    exact grouped.fate alert (Nat.lt_of_le_of_ne (Nat.le_of_lt_succ isAlert) ne) id
  case fresh =>
    refine ⟨Nat.lt_succ_self _, ?_, ?_, ?_⟩
    · exact fun number mem => Nat.lt_irrefl _ (grouped.known number _ mem)
    · rw [own]
      exact hasData
    · rw [own]
      exact notDeleted

variable {groupid : Nat}

lemma groups_newGroup :
    (mgr.newGroup groupid).2.groups mgr.numGroups = ⟨groupid, 0, [], false, false⟩ :=
  groups_setGroup _

lemma groups_newGroup_ne {other : Nat} (ne : other ≠ mgr.numGroups) :
    (mgr.newGroup groupid).2.groups other = mgr.groups other :=
  groups_setGroup_ne ne

lemma Grouped.newGroup (grouped : Grouped mgr never adding)
    (unmapped : mgr.agroupmap groupid = none) :
    Grouped (mgr.newGroup groupid).2 (· = mgr.numGroups) adding := by
  have sameStatvec : ∀ other,
      ((mgr.newGroup groupid).2.groups other).statvec = (mgr.groups other).statvec := by
    intro other
    by_cases same : other = mgr.numGroups
    · rw [same, groups_newGroup, (grouped.freshGroups _ (Nat.le_refl _)).2]
    · rw [groups_newGroup_ne same]
  have old : ∀ {other}, (mgr.groups other).isDeleted = false → other ≠ mgr.numGroups := by
    rintro other isLive rfl
    rw [(grouped.freshGroups _ (Nat.le_refl _)).1] at isLive
    contradiction
  refine ⟨?inMap, ?mapped, ?pending, ?freshGroups, ?timers, ?nodup, ?unique, ?known, ?waiting,
    grouped.sentOnce, grouped.sentCleared, grouped.fate⟩
  case inMap =>
    intro other number isEntry
    have entry : (if other = groupid then some mgr.numGroups else mgr.agroupmap other) =
      some number := isEntry
    split at entry
    next same =>
      rw [← Option.some.inj entry, groups_newGroup]
      exact ⟨same.symm, rfl⟩
    · obtain ⟨isId, isLive⟩ := grouped.inMap other number entry
      rw [groups_newGroup_ne (old isLive)]
      exact ⟨isId, isLive⟩
  case mapped =>
    intro number
    by_cases same : number = mgr.numGroups
    · rw [same, groups_newGroup]
      exact fun _ => if_pos rfl
    rw [groups_newGroup_ne same]
    intro isLive
    have isEntry := grouped.mapped number isLive
    refine (if_neg ?_).trans isEntry
    intro sameId
    rw [sameId, unmapped] at isEntry
    contradiction
  case pending =>
    intro number ne
    rw [groups_newGroup_ne ne]
    exact grouped.pending number id
  case freshGroups =>
    intro number isFresh
    have later : mgr.numGroups < number := isFresh
    rw [groups_newGroup_ne (Nat.ne_of_gt later)]
    exact grouped.freshGroups number (Nat.le_of_lt later)
  case timers => exact fun entry mem => Nat.lt_succ_of_lt (grouped.timers entry mem)
  case nodup =>
    intro number
    rw [sameStatvec]
    exact grouped.nodup number
  case unique =>
    intro alert first second
    rw [sameStatvec, sameStatvec]
    exact grouped.unique alert first second
  case known =>
    intro number alert
    rw [sameStatvec]
    exact grouped.known number alert
  case waiting =>
    intro alert number isPointer
    obtain ⟨isLive, rest⟩ := grouped.waiting alert number isPointer
    rw [groups_newGroup_ne (old isLive)]
    exact ⟨isLive, rest⟩

/-- An alert joins a group that gets, or has, a timer for its next check. -/
def addToGroup (mgr : AlertMgr) (alert number tnextchkusec : Nat) (timemap : List (Nat × Nat)) :
    AlertMgr :=
  { (mgr.setAlert alert { mgr.alerts alert with
      groupid := (mgr.groups number).groupid
      pgroup := some number
      state := .groupWait }).setGroup number { mgr.groups number with
        statvec := (mgr.groups number).statvec ++ [alert]
        tnextchkusec := tnextchkusec
        isWait := true } with
    atimemap := timemap }

lemma joinGroup_eq (mgr : AlertMgr) (alert number groupwaitsec currtusec : Nat) :
    mgr.joinGroup alert number groupwaitsec currtusec = if (mgr.groups number).isWait then
        mgr.addToGroup alert number (mgr.groups number).tnextchkusec mgr.atimemap
      else mgr.addToGroup alert number ((currtusec + groupwaitsec * usecPerSec) % 2 ^ 64)
        (mgr.atimemap ++ [((currtusec + groupwaitsec * usecPerSec) % 2 ^ 64, number)]) := by
  rw [joinGroup]
  split
  next isWait =>
    rw [addToGroup, ← isWait]
    rfl
  · rfl

section

variable {tnextchkusec : Nat} {timemap : List (Nat × Nat)}

lemma groups_addToGroup : (mgr.addToGroup alert number tnextchkusec timemap).groups number =
    { mgr.groups number with
      statvec := (mgr.groups number).statvec ++ [alert]
      tnextchkusec := tnextchkusec
      isWait := true } :=
  groups_setGroup _

lemma groups_addToGroup_ne {other : Nat} (ne : other ≠ number) :
    (mgr.addToGroup alert number tnextchkusec timemap).groups other = mgr.groups other :=
  groups_setGroup_ne ne

lemma alerts_addToGroup : (mgr.addToGroup alert number tnextchkusec timemap).alerts alert =
    { mgr.alerts alert with
      groupid := (mgr.groups number).groupid
      pgroup := some number
      state := .groupWait } :=
  alerts_setAlert _

lemma alerts_addToGroup_ne {other : Nat} (ne : other ≠ alert) :
    (mgr.addToGroup alert number tnextchkusec timemap).alerts other = mgr.alerts other :=
  alerts_setAlert_ne ne

/-- A new alert joins a group, which then has its timer. -/
lemma Grouped.addToGroup (grouped : Grouped mgr opening (· = alert)) (fresh : Fresh mgr alert)
    (isLive : (mgr.groups number).isDeleted = false)
    (only : ∀ other, opening other → other = number)
    (timers : ∀ entry ∈ timemap, entry.2 < mgr.numGroups)
    (own : timemap.filter (·.2 = number) = [(tnextchkusec, number)])
    (otherTimers : ∀ other, other ≠ number →
      timemap.filter (·.2 = other) = mgr.atimemap.filter (·.2 = other)) :
    Grouped (mgr.addToGroup alert number tnextchkusec timemap) never never := by
  have sameGroup := @sameGroup_of_ne mgr (mgr.addToGroup alert number tnextchkusec timemap) number
    (by rw [groups_addToGroup]; exact ⟨rfl, rfl⟩) groups_addToGroup_ne
  have listed : ∀ {other mem},
      mem ∈ ((mgr.addToGroup alert number tnextchkusec timemap).groups other).statvec ↔
        mem ∈ (mgr.groups other).statvec ∨ (mem = alert ∧ other = number) := by
    intro other mem
    by_cases same : other = number
    · rw [same, groups_addToGroup, mem_append, mem_singleton]
      simp
    · rw [groups_addToGroup_ne same]
      simp [same]
  refine ⟨?inMap, ?mapped, ?pending, ?freshGroups, timers, ?nodup, ?unique, ?known, ?waiting,
    grouped.sentOnce, ?sentCleared, ?fate⟩
  case inMap =>
    intro groupid other isEntry
    rw [(sameGroup other).1, (sameGroup other).2]
    exact grouped.inMap groupid other isEntry
  case mapped =>
    intro other
    rw [(sameGroup other).1, (sameGroup other).2]
    exact grouped.mapped other
  case pending =>
    intro other _
    by_cases same : other = number
    · rw [same, groups_addToGroup]
      exact fun _ => ⟨append_ne_nil_of_right_ne_nil _ (cons_ne_nil _ _), rfl, own⟩
    · rw [groups_addToGroup_ne same]
      intro otherLive
      obtain ⟨nonempty, isWait, timer⟩ :=
        grouped.pending other (fun isOpening => same (only other isOpening)) otherLive
      exact ⟨nonempty, isWait, (otherTimers other same).trans timer⟩
  case freshGroups =>
    intro other isFresh
    obtain ⟨isDeleted, isEmpty⟩ := grouped.freshGroups other isFresh
    rw [groups_addToGroup_ne]
    · exact ⟨isDeleted, isEmpty⟩
    · rintro rfl
      rw [isLive] at isDeleted
      contradiction
  case nodup =>
    intro other
    by_cases same : other = number
    · rw [same, groups_addToGroup, ← concat_eq_append, nodup_concat]
      exact ⟨fresh.notListed number, grouped.nodup number⟩
    · rw [groups_addToGroup_ne same]
      exact grouped.nodup other
  case unique =>
    intro mem first second inFirst inSecond
    rcases listed.mp inFirst with wasFirst | ⟨isAlert, isFirst⟩
    · rcases listed.mp inSecond with wasSecond | ⟨isAlert, -⟩
      · exact grouped.unique mem first second wasFirst wasSecond
      · exact absurd (isAlert ▸ wasFirst) (fresh.notListed first)
    · rcases listed.mp inSecond with wasSecond | ⟨-, isSecond⟩
      · exact absurd (isAlert ▸ wasSecond) (fresh.notListed second)
      · exact isFirst.trans isSecond.symm
  case known =>
    intro other mem isListed
    rcases listed.mp isListed with wasListed | ⟨isAlert, -⟩
    · exact grouped.known other mem wasListed
    · exact isAlert ▸ fresh.isAlert
  case waiting =>
    intro other otherGroup isPointer
    rw [(sameGroup otherGroup).2, listed]
    by_cases same : other = alert
    · rw [same, alerts_addToGroup] at isPointer
      rw [same, alerts_addToGroup, ← Option.some.inj isPointer]
      exact ⟨isLive, .inr ⟨rfl, rfl⟩, fresh.hasData, fresh.notDeleted⟩
    · rw [alerts_addToGroup_ne same] at isPointer ⊢
      obtain ⟨otherLive, mem, rest⟩ := grouped.waiting other otherGroup isPointer
      exact ⟨otherLive, .inl mem, rest⟩
  case sentCleared =>
    intro other isSent
    obtain ⟨noData, isAlert⟩ := grouped.sentCleared other isSent
    rw [alerts_addToGroup_ne]
    · exact ⟨noData, isAlert⟩
    · rintro rfl
      rw [fresh.hasData] at noData
      contradiction
  case fate =>
    intro other isAlert _
    by_cases same : other = alert
    · rw [same, alerts_addToGroup]
      exact .inl ⟨number, rfl⟩
    · rw [alerts_addToGroup_ne same]
      exact grouped.fate other isAlert same

end

lemma Grouped.joinPending (grouped : Grouped mgr never (· = alert)) (fresh : Fresh mgr alert)
    (isLive : (mgr.groups number).isDeleted = false) (groupwaitsec currtusec : Nat) :
    Grouped (mgr.joinGroup alert number groupwaitsec currtusec) never never := by
  obtain ⟨-, isWait, timer⟩ := grouped.pending number id isLive
  rw [joinGroup_eq, if_pos isWait]
  exact grouped.addToGroup fresh isLive (fun _ => False.elim) grouped.timers timer fun _ _ => rfl

lemma Fresh.newGroup (fresh : Fresh mgr alert) (groupid : Nat) :
    Fresh (mgr.newGroup groupid).2 alert := by
  refine ⟨fresh.isAlert, ?_, fresh.hasData, fresh.notDeleted⟩
  intro number
  by_cases same : number = mgr.numGroups
  · rw [same, groups_newGroup]
    exact not_mem_nil
  · rw [groups_newGroup_ne same]
    exact fresh.notListed number

lemma Grouped.joinNew (grouped : Grouped mgr never (· = alert)) (fresh : Fresh mgr alert)
    (unmapped : mgr.agroupmap groupid = none) (groupwaitsec currtusec : Nat) :
    Grouped ((mgr.newGroup groupid).2.joinGroup alert (mgr.newGroup groupid).1 groupwaitsec
      currtusec) never never := by
  have opened := grouped.newGroup unmapped
  have noTimer : mgr.atimemap.filter (·.2 = mgr.numGroups) = [] := by
    refine filter_eq_nil_iff.mpr ?_
    intro entry mem
    simpa using Nat.ne_of_lt (grouped.timers entry mem)
  show Grouped ((mgr.newGroup groupid).2.joinGroup alert mgr.numGroups groupwaitsec currtusec) _ _
  rw [joinGroup_eq, groups_newGroup, if_neg Bool.false_ne_true]
  refine opened.addToGroup (fresh.newGroup groupid) (by rw [groups_newGroup]) (fun _ => id) ?_ ?_ ?_
  · intro entry mem
    rcases mem_append.mp mem with wasEntry | isEntry
    · exact opened.timers entry wasEntry
    · rw [mem_singleton.mp isEntry]
      exact Nat.lt_succ_self _
  · show (mgr.atimemap ++ _).filter _ = _
    rw [filter_append, noTimer, nil_append]
    simp
  · intro other ne
    rw [filter_append]
    simp [ne.symm]

lemma Grouped.setAstatGroup (grouped : Grouped mgr never (· = alert)) (fresh : Fresh mgr alert)
    (groupwaitsec : Nat) (group : Option Nat) (currtusec : Nat) :
    mgr.setAstatGroup alert groupwaitsec group currtusec = mgr ∨
      Grouped (mgr.setAstatGroup alert groupwaitsec group currtusec) never never := by
  cases group with
  | none => exact .inl rfl
  | some groupid =>
    rw [AlertMgr.setAstatGroup]
    split
    · exact .inl rfl
    right
    dsimp only
    rw [openGroup]
    cases isGroup : mgr.agroupmap groupid with
    | none => exact grouped.joinNew fresh isGroup groupwaitsec currtusec
    | some number =>
      have isLive := (grouped.inMap groupid number isGroup).2
      dsimp only
      rw [isLive, if_neg Bool.false_ne_true]
      exact grouped.joinPending fresh isLive groupwaitsec currtusec

lemma numAlerts_setAstatGroup (groupwaitsec : Nat) (group : Option Nat) (currtusec : Nat) :
    (mgr.setAstatGroup alert groupwaitsec group currtusec).numAlerts = mgr.numAlerts := by
  have joined : ∀ (opened : AlertMgr) (number : Nat),
      (opened.joinGroup alert number groupwaitsec currtusec).numAlerts = opened.numAlerts := by
    intro opened number
    rw [joinGroup_eq]
    split <;> rfl
  cases group with
  | none => rfl
  | some groupid =>
    rw [setAstatGroup]
    split
    · rfl
    · rw [joined, openGroup]
      split
      · split <;> rfl
      · rfl

lemma Grouped.insertAlert (grouped : Grouped mgr never never) (stat : AlertStatInfo)
    (pdef currtusec : Nat) (texpiry : Option Int) :
    Grouped (mgr.insertAlert stat pdef currtusec texpiry) never never := by
  obtain ⟨added, fresh⟩ := @Grouped.newAlert mgr grouped
    (newStats stat pdef (mgr.adefs pdef).forceclosesec texpiry) rfl rfl rfl
  have inGroup := added.setAstatGroup fresh (mgr.adefs pdef).groupwaitsec stat.group currtusec
  have sameAlerts := @numAlerts_setAstatGroup
    (mgr.newAlert (newStats stat pdef (mgr.adefs pdef).forceclosesec texpiry)) mgr.numAlerts
    (mgr.adefs pdef).groupwaitsec stat.group currtusec
  have single : ∀ alert ∈ [mgr.numAlerts], alert < mgr.numAlerts + 1 := by
    intro alert mem
    rw [mem_singleton.mp mem]
    exact Nat.lt_succ_self _
  rw [AlertMgr.insertAlert]
  rcases inGroup with alone | waits
  · have noGroupid : ((mgr.newAlert (newStats stat pdef (mgr.adefs pdef).forceclosesec
        texpiry)).alerts mgr.numAlerts).groupid = 0 :=
      congrArg AlertStats.groupid (alerts_setAlert _)
    rw [alone, if_pos noGroupid]
    refine (added.sendAlerts (nodup_singleton _) single).settle ?_
    exact mem_sent_sendAlerts.mpr
      (.inr ⟨mem_singleton_self _, fresh.notDeleted, fresh.hasData⟩)
  · split
    · exact waits.sendAlerts (nodup_singleton _) fun alert mem =>
        sameAlerts ▸ single alert mem
    · exact waits

/-! ## The machine -/

lemma Grouped.checkAgroup (grouped : Grouped mgr never never) (currtusec groupid : Nat) :
    Grouped (mgr.checkAgroup currtusec groupid) never never := by
  rw [AlertMgr.checkAgroup]
  split
  · exact grouped
  next number isGroup =>
  have isLive := (grouped.inMap groupid number isGroup).2
  obtain ⟨sent, isDeleted⟩ := grouped.agroupSendAlerts isLive
  dsimp only
  split
  next notLive =>
    rw [isLive] at notLive
    contradiction
  · split
    · refine sent.eraseGroupTimemap _ ?_
      intro notDeleted
      exact Bool.noConfusion (isDeleted.symm.trans notDeleted)
    · exact grouped

lemma Grouped.fireTimer (grouped : Grouped mgr never never) (entry : Nat × Nat) :
    Grouped (mgr.fireTimer entry) never never := by
  rw [AlertMgr.fireTimer]
  split
  · dsimp only
    split
    next isDeleted =>
      refine grouped.eraseTimer entry ?_
      intro notDeleted
      rw [isDeleted] at notDeleted
      contradiction
    next isLive =>
    obtain ⟨sent, isDeleted⟩ := grouped.agroupSendAlerts (Bool.eq_false_iff.mpr isLive)
    refine sent.eraseTimer entry ?_
    intro notDeleted
    rw [isDeleted] at notDeleted
    contradiction
  · exact grouped

lemma keeps_grouped : Keeps fun mgr => Grouped mgr never never where
  counters := by
    intro mgr after grouped same
    refine grouped.of_groupView ?_
    show after.core.groupView = mgr.core.groupView
    rw [same]
  eraseStat := fun _ grouped => grouped.of_groupView rfl
  setDispatched := fun _ grouped => grouped.of_groupView rfl
  setDefs := fun _ _ grouped => grouped.of_groupView rfl
  insertAlert := fun stat pdef currtusec texpiry grouped =>
    grouped.insertAlert stat pdef currtusec texpiry
  close := fun alert tclose isForceClose grouped =>
    grouped.cleanupAlertStat alert tclose true isForceClose
  ack := fun _ grouped _ => grouped.setAlert rfl rfl rfl fun _ => rfl
  checkAgroup := fun currtusec groupid grouped => grouped.checkAgroup currtusec groupid
  fireTimer := fun entry grouped => grouped.fireTimer entry

/-- Every event keeps the invariant. -/
lemma Grouped.step (grouped : Grouped mgr never never) (event : Event) :
    Grouped (mgr.step event) never never :=
  keeps_grouped.step grouped fun _ tcurr _ _ alert _ _ _ _ =>
    grouped.cleanupAlertStat alert tcurr false false

lemma run_grouped (adefs : Nat → AlertDef) (adefmap : Nat → Option Nat) (events : List Event) :
    Grouped (Machine.run step (init adefs adefmap) events) never never := by
  have always : Machine.Guarded step (fun _ _ => True) (init adefs adefmap) events :=
    .of_forall (fun _ _ => trivial) _ _
  exact @Machine.Guarded.invariant _ _ _ _ (fun mgr => Grouped mgr never never)
    (fun _ event grouped _ => grouped.step event) _ _ always (grouped_init adefs adefmap)

lemma Grouped.mem_sent_fireTimer (grouped : Grouped mgr never never)
    (isPointer : (mgr.alerts alert).pgroup = some number) :
    alert ∈ (mgr.fireTimer ((mgr.groups number).tnextchkusec, number)).sent := by
  obtain ⟨isLive, mem, hasData, notDeleted⟩ := grouped.waiting alert number isPointer
  obtain ⟨nonempty, -, timer⟩ := grouped.pending number id isLive
  have isTimer : ((mgr.groups number).tnextchkusec, number) ∈ mgr.atimemap := by
    have inFilter := mem_singleton_self ((mgr.groups number).tnextchkusec, number)
    rw [← timer] at inFilter
    exact mem_of_mem_filter inFilter
  rw [AlertMgr.fireTimer, if_pos isTimer]
  dsimp only
  rw [isLive, if_neg Bool.false_ne_true, AlertMgr.agroupSendAlerts,
    if_neg fun isEmpty => nonempty (isEmpty_iff.mp isEmpty)]
  exact mem_sent_sendAlerts.mpr (.inr ⟨mem, notDeleted, hasData⟩)

end Gyeeta.Alerts.AlertMgr
