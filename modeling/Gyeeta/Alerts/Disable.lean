import Gyeeta.Lib.Run

/-!
# Disabling all alerts

The alert manager tells the alert handler of the shyama server until when alerts are disabled.
The handler stores the number of a memory order in place of this time.
-/

namespace Gyeeta.Alerts

/-- The periodic calls of the alert handler that emit alerts. -/
inductive AlertTask where
  | checkRtClusterstate
  | runAlertQueries
  deriving DecidableEq, Repr

/-- `tdisable_end_` of the alert manager and of the alert handler, with the rest of the handler's
state. -/
structure Disabling (Hdlr : Type) where
  managerEnd : Int
  handlerEnd : Int
  hdlr : Hdlr
  deriving DecidableEq, Repr

/-- A call of `set_alerts_disabled`, or of a task at a time. -/
inductive DisableCall where
  | setAlertsDisabled (tcurr disableSec : Int)
  | task (task : AlertTask) (tcurr : Int)
  deriving DecidableEq, Repr

/-- `std::memory_order_relaxed` as a number. -/
def moRelaxed : Int := 0

namespace Disabling

variable {Hdlr Alert : Type}

/-- `set_disable_alerts`, which passes the memory order as the value to store. -/
def setDisableAlerts (state : Disabling Hdlr) (_tdisableEnd : Int) : Disabling Hdlr :=
  { state with handlerEnd := moRelaxed }

def setAlertsDisabled (state : Disabling Hdlr) (tcurr disableSec : Int) : Disabling Hdlr :=
  if disableSec ≤ 0 then state
  else
    let state := { state with managerEnd := tcurr + disableSec }
    if disableSec < 5 then state else state.setDisableAlerts state.managerEnd

def newAlertsDisabled (state : Disabling Hdlr) (tcurr : Int) : Bool := tcurr < state.handlerEnd

section Runs

-- What a task does and emits once the alerts are not disabled.
variable (body : AlertTask → Hdlr → Int → Hdlr × List Alert)

/-- A task, and the alerts it emits unless it is blocked. -/
def runTask (state : Disabling Hdlr) (task : AlertTask) (tcurr : Int) :
    Disabling Hdlr × Option (List Alert) :=
  if state.newAlertsDisabled tcurr then (state, none)
  else
    let (hdlr, alerts) := body task state.hdlr tcurr
    ({ state with hdlr := hdlr }, some alerts)

def step (state : Disabling Hdlr) : DisableCall → Disabling Hdlr
  | .setAlertsDisabled tcurr disableSec => state.setAlertsDisabled tcurr disableSec
  | .task task tcurr => (state.runTask body task tcurr).1

/-- Alerts that are disabled until `tend`: a task before this time emits none, and a later one is
not blocked. -/
def Obeys (tend : Int) (state : Disabling Hdlr) : DisableCall → Prop
  | .setAlertsDisabled _ _ => True
  | .task task tcurr =>
    if tcurr < tend then (state.runTask body task tcurr).2.getD [] = []
    else (state.runTask body task tcurr).2.isSome

/-- A task that has nothing to emit before `tend`, and that is made at no negative time. -/
def Harmless (tend : Int) (state : Disabling Hdlr) : DisableCall → Prop
  | .setAlertsDisabled _ _ => True
  | .task task tcurr =>
    if tcurr < tend then tcurr < 0 ∨ (body task state.hdlr tcurr).2 = [] else 0 ≤ tcurr

/-- A call that does not disable alerts for five seconds or more. -/
def IsMinor : DisableCall → Prop
  | .setAlertsDisabled _ disableSec => disableSec < 5
  | .task _ _ => True

variable {state : Disabling Hdlr} {call : DisableCall}

/-- Behind the wrong store only harmless calls obey the end time. -/
theorem obeys_iff (stored : state.handlerEnd = moRelaxed) (tend : Int) :
    state.Obeys body tend call ↔ state.Harmless body tend call := by
  cases call with
  | setAlertsDisabled tcurr disableSec => exact Iff.rfl
  | task task tcurr =>
    rw [Obeys, Harmless, runTask, newAlertsDisabled, stored, moRelaxed]
    by_cases negative : tcurr < 0
    · simp [negative, Int.not_le.mpr negative]
    · simp [negative, Int.not_lt.mp negative]

/-- A minor call leaves the handler's end time. -/
theorem step_handlerEnd (minor : IsMinor call) :
    (state.step body call).handlerEnd = state.handlerEnd := by
  cases call with
  | setAlertsDisabled tcurr disableSec =>
    have short : disableSec < 5 := minor
    simp only [step, setAlertsDisabled, if_pos short]
    split <;> rfl
  | task task tcurr =>
    rw [step, runTask]
    split <;> rfl

/-- The same along a run of minor calls. -/
theorem guarded_obeys_iff (stored : state.handlerEnd = moRelaxed) (tend : Int)
    {calls : List DisableCall} (minor : ∀ call ∈ calls, IsMinor call) :
    Machine.Guarded (step body) (Obeys body tend) state calls ↔
      Machine.Guarded (step body) (Harmless body tend) state calls := by
  induction calls generalizing state with
  | nil => exact Iff.rfl
  | cons call calls ih =>
    have kept := (step_handlerEnd body (minor call (.head _))).trans stored
    exact and_congr (obeys_iff body stored tend)
      (ih kept fun other mem => minor other (.tail _ mem))

/-- After a call that disables alerts, in every state and before the next such call, the tasks
obey it exactly when none of them has an alert to emit before the end of the disabled time. -/
theorem disable_obeyed_iff (state : Disabling Hdlr) (tcurr disableSec : Int)
    (long : 5 ≤ disableSec) {calls : List DisableCall} (minor : ∀ call ∈ calls, IsMinor call) :
    Machine.Guarded (step body) (Obeys body (tcurr + disableSec))
        (state.setAlertsDisabled tcurr disableSec) calls ↔
      Machine.Guarded (step body) (Harmless body (tcurr + disableSec))
        (state.setAlertsDisabled tcurr disableSec) calls := by
  apply guarded_obeys_iff body _ _ minor
  rw [setAlertsDisabled, if_neg (by omega)]
  exact congrArg handlerEnd (if_neg (by omega))

end Runs

/-- A handler that emits an alert in every task. -/
def alwaysAlerts (_ : AlertTask) (_ : Unit) (_ : Int) : Unit × List Unit := ((), [()])

/-- Nothing is emitted if the tasks only run once the disabled time is over. -/
theorem tasks_after_disable :
    Machine.Guarded (step alwaysAlerts) (Obeys alwaysAlerts 1060)
      ((⟨0, 0, ()⟩ : Disabling Unit).setAlertsDisabled 1000 60)
      [.task .runAlertQueries 1060, .setAlertsDisabled 1061 3] :=
  (disable_obeyed_iff alwaysAlerts ⟨0, 0, ()⟩ 1000 60 (by decide)
    (by simp [IsMinor])).mpr ⟨by simp [Harmless], trivial, trivial⟩

/-- An alert ten seconds after all alerts were disabled for a minute. -/
theorem alert_while_disabled :
    let state := (⟨0, 0, ()⟩ : Disabling Unit).setAlertsDisabled 1000 60
    state.managerEnd = 1060 ∧
      (state.runTask alwaysAlerts .checkRtClusterstate 1010).2 = some [()] := by
  decide

end Disabling

end Gyeeta.Alerts
