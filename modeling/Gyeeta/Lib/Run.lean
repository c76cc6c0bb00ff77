/-!
# Runs of a machine

A deterministic machine takes one step for each event.  Events come from outside, so
what holds of a run often depends on a condition that every one of its steps meets in
the state before it.
-/

namespace Gyeeta.Machine

variable {State Event : Type}

/-- The state after a list of events. -/
def run (step : State → Event → State) (state : State) (events : List Event) : State :=
  events.foldl step state

@[simp] theorem run_nil (step : State → Event → State) (state : State) :
    run step state [] = state := rfl

@[simp] theorem run_cons (step : State → Event → State) (state : State) (event : Event)
    (events : List Event) :
    run step state (event :: events) = run step (step state event) events := rfl

/-- Every step of a run meets a condition on its event and the state before it. -/
def Guarded (step : State → Event → State) (guard : State → Event → Prop) :
    State → List Event → Prop
  | _, [] => True
  | state, event :: events => guard state event ∧ Guarded step guard (step state event) events

instance Guarded.decidable (step : State → Event → State) (guard : State → Event → Prop)
    [∀ state event, Decidable (guard state event)] :
    (state : State) → (events : List Event) → Decidable (Guarded step guard state events)
  | _, [] => isTrue trivial
  | state, event :: events =>
    have := Guarded.decidable step guard (step state event) events
    inferInstanceAs (Decidable (_ ∧ _))

variable {step : State → Event → State} {guard : State → Event → Prop}

/-- What every guarded step keeps holds at the end of a guarded run. -/
theorem Guarded.invariant {inv : State → Prop}
    (keeps : ∀ state event, inv state → guard state event → inv (step state event))
    {state : State} {events : List Event} (guarded : Guarded step guard state events)
    (start : inv state) : inv (run step state events) := by
  induction events generalizing state with
  | nil => exact start
  | cons event events ih =>
    obtain ⟨now, later⟩ := guarded
    exact ih later (keeps state event start now)

theorem guarded_append {state : State} {first second : List Event} :
    Guarded step guard state (first ++ second) ↔
      Guarded step guard state first ∧ Guarded step guard (run step state first) second := by
  induction first generalizing state with
  | nil => exact (Iff.of_eq (true_and _)).symm
  | cons event first ih =>
    simp only [List.cons_append, Guarded, run_cons, ih, and_assoc]

theorem Guarded.of_forall (always : ∀ state event, guard state event) (state : State)
    (events : List Event) : Guarded step guard state events := by
  induction events generalizing state with
  | nil => trivial
  | cons event events ih =>
    exact ⟨always state event, ih _⟩

theorem Guarded.and_forall {accepts : Event → Prop} {state : State} {events : List Event}
    (guarded : Guarded step guard state events) (all : ∀ event ∈ events, accepts event) :
    Guarded step (fun state event => guard state event ∧ accepts event) state events := by
  induction events generalizing state with
  | nil => trivial
  | cons event events ih =>
    obtain ⟨now, later⟩ := guarded
    rw [List.forall_mem_cons] at all
    exact ⟨⟨now, all.1⟩, ih later all.2⟩

end Gyeeta.Machine
