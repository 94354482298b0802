/-
This file develops runs of a partial transition function: a state, an event, and
either the next state or a refusal. A run folds a list of events; an invariant of
one step is an invariant of every run; and a run whose steps all meet a condition
keeps every invariant that the condition makes one step keep. Nothing here depends
on what the states are, so each state machine of the development instantiates
these rules at its own step function.
-/

import Mathlib.Data.List.Basic

namespace MegaEvm.Library

variable {State : Type} {Event : Type*}

/-- Run a list of events. A refused event refuses the whole run. -/
def run (step : State → Event → Option State) : State → List Event → Option State
  | state, [] => some state
  | state, event :: rest => (step state event).bind fun next => run step next rest

/-- Every step of the run is taken from a state in which the condition allows its event. -/
def StepsMeet (step : State → Event → Option State) (condition : State → Event → Prop) :
    State → List Event → Prop
  | _, [] => True
  | state, event :: rest =>
    condition state event ∧
      match step state event with
      | some next => StepsMeet step condition next rest
      | none => True

instance decidableStepsMeet (step : State → Event → Option State)
    (condition : State → Event → Prop) [∀ state event, Decidable (condition state event)] :
    (state : State) → (events : List Event) → Decidable (StepsMeet step condition state events)
  | _, [] => isTrue trivial
  | state, event :: rest =>
    have : Decidable (match step state event with
        | some next => StepsMeet step condition next rest
        | none => True) :=
      match step state event with
      | some next => decidableStepsMeet step condition next rest
      | none => isTrue trivial
    inferInstanceAs (Decidable (condition state event ∧ _))

@[simp] theorem run_nil (step : State → Event → Option State) (state : State) :
    run step state [] = some state := rfl

theorem run_cons (step : State → Event → Option State) (state : State) (event : Event)
    (rest : List Event) :
    run step state (event :: rest) =
      (step state event).bind fun next => run step next rest := rfl

variable {step : State → Event → Option State} {state final : State} {event : Event}
  {rest : List Event}

/-- A run that gives a state gives one after its first event. -/
theorem run_cons_some (ran : run step state (event :: rest) = some final) :
    ∃ next, step state event = some next ∧ run step next rest = some final := by
  rw [run_cons, Option.bind_eq_some_iff] at ran
  exact ran

variable {condition : State → Event → Prop}

theorem StepsMeet.head (meets : StepsMeet step condition state (event :: rest)) :
    condition state event :=
  meets.1

variable {next : State}

theorem StepsMeet.tail (meets : StepsMeet step condition state (event :: rest))
    (stepped : step state event = some next) : StepsMeet step condition next rest := by
  have remaining := meets.2
  rw [stepped] at remaining
  exact remaining

theorem run_append (step : State → Event → Option State) (state : State)
    (first second : List Event) :
    run step state (first ++ second) =
      (run step state first).bind fun middle => run step middle second := by
  induction first generalizing state with
  | nil => rfl
  | cons event rest inductionHypothesis =>
    rw [List.cons_append, run_cons, run_cons, Option.bind_assoc]
    exact Option.bind_congr fun next _ => inductionHypothesis next

variable {start : State}

/-- A run goes on with the step taken from the state it leads to. -/
theorem run_snoc {history : List Event} (reached : run step start history = some state)
    (stepped : step state event = some next) : run step start (history ++ [event]) = some next := by
  rw [run_append, reached, Option.bind_some, run_cons, stepped]
  rfl

theorem run_through {history : List Event} (reached : run step start history = some state)
    (stepped : step state event = some next) (continued : run step next rest = some final) :
    run step start (history ++ event :: rest) = some final := by
  rw [run_append, reached, Option.bind_some, run_cons, stepped]
  exact continued

/-- The steps of a run meet a condition if those of its two parts do. -/
theorem stepsMeet_append {middle : State} {first second : List Event}
    (ran : run step state first = some middle) :
    StepsMeet step condition state (first ++ second) ↔
      StepsMeet step condition state first ∧ StepsMeet step condition middle second := by
  induction first generalizing state with
  | nil =>
    rw [run_nil, Option.some.injEq] at ran
    rw [List.nil_append, ran]
    exact (and_iff_right trivial).symm
  | cons event rest inductionHypothesis =>
    obtain ⟨next, stepped, remaining⟩ := run_cons_some ran
    simp only [List.cons_append, StepsMeet, stepped, inductionHypothesis remaining, and_assoc]

variable {events : List Event} {invariant : State → Prop}

/-- The conditioned rule of invariants: what each allowed step keeps, a run of allowed steps
keeps. -/
theorem run_invariant_of_meets
    (preserved : ∀ state event next, invariant state → condition state event →
      step state event = some next → invariant next)
    {state final : State} {events : List Event} (initial : invariant state)
    (meets : StepsMeet step condition state events) (ran : run step state events = some final) :
    invariant final := by
  induction events generalizing state with
  | nil =>
    cases ran
    exact initial
  | cons event rest inductionHypothesis =>
    obtain ⟨next, stepped, remaining⟩ := run_cons_some ran
    exact inductionHypothesis (preserved state event next initial meets.head stepped)
      (meets.tail stepped) remaining

/-- A condition on the events alone is met by every step if every event meets it. -/
theorem stepsMeet_of_forall_mem {condition : Event → Prop}
    (each : ∀ event ∈ events, condition event) (state : State) :
    StepsMeet step (fun _ => condition) state events := by
  induction events generalizing state with
  | nil => trivial
  | cons event rest inductionHypothesis =>
    refine ⟨each event List.mem_cons_self, ?_⟩
    cases step state event with
    | none => trivial
    | some next =>
      exact inductionHypothesis (fun other member => each other (List.mem_cons_of_mem _ member))
        next

/-- The rule of invariants: what each step keeps, a run keeps. -/
theorem run_invariant
    (preserved : ∀ state event next, invariant state → step state event = some next →
      invariant next)
    {state final : State} {events : List Event} (initial : invariant state)
    (ran : run step state events = some final) : invariant final := by
  have meets : StepsMeet step (fun _ _ => True) state events :=
    stepsMeet_of_forall_mem (fun _ _ => trivial) state
  exact run_invariant_of_meets
    (fun state event next holds _ stepped => preserved state event next holds stepped)
    initial meets ran

/-! ### Two runs of the same events -/

section Simulation

variable {Model : Type} {modelStep : Model → Event → Option Model}
  {modelCondition : Model → Event → Prop} {related : State → Model → Prop} {model : Model}

/-- The conditioned rule of simulation: two machines that refuse the same events from related states
that allow them, and reach related states by the others, do so along runs of allowed steps. -/
theorem run_rel_of_meets
    (simulates : ∀ state model event, related state model → condition state event →
      modelCondition model event → Option.Rel related (step state event) (modelStep model event))
    (start : related state model) (meets : StepsMeet step condition state events)
    (modelMeets : StepsMeet modelStep modelCondition model events) :
    Option.Rel related (run step state events) (run modelStep model events) := by
  induction events generalizing state model with
  | nil => exact .some start
  | cons event rest inductionHypothesis =>
    rw [run_cons, run_cons]
    have simulated := simulates state model event start meets.head modelMeets.head
    have remaining := meets.2
    have modelRemaining := modelMeets.2
    revert simulated remaining modelRemaining
    generalize step state event = next
    generalize modelStep model event = modelNext
    rintro (holds | _) remaining modelRemaining
    · exact inductionHypothesis holds remaining modelRemaining
    · exact .none

/-- The rule of simulation: two machines that refuse the same events from related states, and reach
related states by the others, do so along every run. -/
theorem run_rel
    (simulates : ∀ state model event, related state model →
      Option.Rel related (step state event) (modelStep model event))
    (start : related state model) (events : List Event) :
    Option.Rel related (run step state events) (run modelStep model events) := by
  have meets : StepsMeet step (fun _ _ => True) state events :=
    stepsMeet_of_forall_mem (fun _ _ => trivial) state
  have modelMeets : StepsMeet modelStep (fun _ _ => True) model events :=
    stepsMeet_of_forall_mem (fun _ _ => trivial) model
  exact run_rel_of_meets (fun state model event holds _ _ => simulates state model event holds)
    start meets modelMeets

end Simulation

/-! ### Reached states -/

/-- A run leads to the state. -/
def Reached (step : State → Event → Option State) (start state : State) : Prop :=
  ∃ events, run step start events = some state

theorem Reached.refl (step : State → Event → Option State) (start : State) :
    Reached step start start :=
  ⟨[], rfl⟩

theorem Reached.snoc (reached : Reached step start state) (stepped : step state event = some next) :
    Reached step start next := by
  obtain ⟨events, ran⟩ := reached
  exact ⟨events ++ [event], run_snoc ran stepped⟩

/-- The rule of invariants whose steps are taken from reached states. -/
theorem reached_invariant_of_meets
    (preserved : ∀ state event next, Reached step start state → invariant state →
      condition state event → step state event = some next → invariant next)
    (initial : invariant start) (meets : StepsMeet step condition start events)
    (ran : run step start events = some final) : invariant final := by
  have both : Reached step start final ∧ invariant final := by
    refine @run_invariant_of_meets _ _ step condition
      (fun state => Reached step start state ∧ invariant state) ?_ _ _ _
      ⟨.refl step start, initial⟩ meets ran
    intro state event next holds allowed stepped
    exact ⟨holds.1.snoc stepped, preserved state event next holds.1 holds.2 allowed stepped⟩
  exact both.2

theorem reached_invariant
    (preserved : ∀ state event next, Reached step start state → invariant state →
      step state event = some next → invariant next)
    (initial : invariant start) (ran : run step start events = some final) : invariant final := by
  have meets : StepsMeet step (fun _ _ => True) start events :=
    stepsMeet_of_forall_mem (fun _ _ => trivial) start
  exact reached_invariant_of_meets
    (fun state event next reached holds _ stepped =>
      preserved state event next reached holds stepped)
    initial meets ran

end MegaEvm.Library
