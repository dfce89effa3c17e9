import Mathlib.Data.List.Induction

/-!
# Runs of an event-driven system

A system is a function from a state and an event to the next state.  A condition on
the steps of a run is a predicate on the state before the step and the event, and an
invariant kept by the steps that meet the condition holds at every point of a run
all of whose steps do.
-/

namespace Runs

variable {State Event : Type*} (step : State → Event → State)

/-- The state after a list of events. -/
def run (start : State) (events : List Event) : State := events.foldl step start

/-- Every step of the run meets the condition. -/
def Meets (condition : State → Event → Prop) : State → List Event → Prop
  | _, [] => True
  | state, event :: events => condition state event ∧ Meets condition (step state event) events

instance Meets.decidable (condition : State → Event → Prop)
    [∀ state event, Decidable (condition state event)] :
    ∀ (start : State) (events : List Event), Decidable (Meets step condition start events)
  | _, [] => .isTrue trivial
  | start, event :: events =>
    have := Meets.decidable condition (step start event) events
    inferInstanceAs (Decidable (condition start event ∧
      Meets step condition (step start event) events))

variable {step} {condition : State → Event → Prop} {start : State}

@[simp] theorem run_nil : run step start [] = start := rfl

@[simp] theorem run_cons (event : Event) (events : List Event) :
    run step start (event :: events) = run step (step start event) events := rfl

theorem run_append (first second : List Event) :
    run step start (first ++ second) = run step (run step start first) second := by
  simp [run]

theorem Meets.append {first second : List Event} :
    Meets step condition start (first ++ second) ↔
      Meets step condition start first ∧
        Meets step condition (run step start first) second := by
  induction first generalizing start with
  | nil => simp [Meets]
  | cons event events induction => simp [Meets, induction, and_assoc]

/-- Steps that meet the condition in every state. -/
theorem Meets.of_forall {events : List Event}
    (always : ∀ event ∈ events, ∀ state, condition state event) :
    Meets step condition start events := by
  induction events generalizing start with
  | nil => trivial
  | cons event events induction =>
    exact ⟨always event List.mem_cons_self start,
      induction fun other member => always other (List.mem_cons_of_mem _ member)⟩

theorem Meets.mono {weaker : State → Event → Prop} {events : List Event}
    (meets : Meets step condition start events)
    (implies : ∀ state event, condition state event → weaker state event) :
    Meets step weaker start events := by
  induction events generalizing start with
  | nil => trivial
  | cons event events induction => exact ⟨implies _ _ meets.1, induction meets.2⟩

theorem Meets.and {other : State → Event → Prop} {events : List Event}
    (first : Meets step condition start events) (second : Meets step other start events) :
    Meets step (fun state event => condition state event ∧ other state event) start events := by
  induction events generalizing start with
  | nil => trivial
  | cons event events induction =>
    exact ⟨⟨first.1, second.1⟩, induction first.2 second.2⟩

section Invariant

variable {invariant : State → Prop}

/-- The rule of invariants. -/
theorem Meets.keeps {events : List Event} (meets : Meets step condition start events)
    (holds : invariant start)
    (kept : ∀ state event, invariant state → condition state event →
      invariant (step state event)) : invariant (run step start events) := by
  induction events generalizing start with
  | nil => exact holds
  | cons event events induction =>
    exact induction meets.2 (kept start event holds meets.1)

/-- At any point of the run the invariant holds and the next step meets the
condition. -/
theorem Meets.at_step {before after : List Event} {event : Event}
    (meets : Meets step condition start (before ++ event :: after))
    (holds : invariant start)
    (kept : ∀ state event, invariant state → condition state event →
      invariant (step state event)) :
    invariant (run step start before) ∧ condition (run step start before) event := by
  obtain ⟨first, second⟩ := Meets.append.mp meets
  exact ⟨first.keeps holds kept, second.1⟩

/-- What every step keeps, the run keeps. -/
theorem run_keeps (holds : invariant start)
    (kept : ∀ state event, invariant state → invariant (step state event))
    (events : List Event) : invariant (run step start events) := by
  induction events generalizing start with
  | nil => exact holds
  | cons event events induction => exact induction (kept start event holds)

end Invariant

/-- An invariant may speak of the events so far. -/
theorem run_history {invariant : List Event → State → Prop} (holds : invariant [] start)
    (kept : ∀ past event, invariant past (run step start past) →
      invariant (past ++ [event]) (step (run step start past) event))
    (events : List Event) : invariant events (run step start events) := by
  induction events using List.reverseRecOn with
  | nil => exact holds
  | append_singleton past event induction =>
    rw [run_append]
    exact kept past event induction

/-! ## Outputs -/

/-- The outputs of the steps of a run, in order. -/
def collect {Output : Type*} (step : State → Event → State)
    (emits : State → Event → List Output) : State → List Event → List Output
  | _, [] => []
  | state, event :: events => emits state event ++ collect step emits (step state event) events

/-- What steps that meet the condition emit is good, and so is what the run emits. -/
theorem Meets.collect {Output : Type*} {emits : State → Event → List Output}
    {good : Output → Prop} {events : List Event} (meets : Meets step condition start events)
    (each : ∀ state event, condition state event → ∀ output ∈ emits state event, good output) :
    ∀ output ∈ collect step emits start events, good output := by
  induction events generalizing start with
  | nil => simp [Runs.collect]
  | cons event events induction =>
    intro output member
    rcases List.mem_append.mp member with here | later
    · exact each start event meets.1 output here
    · exact induction meets.2 output later

/-! ## Points of a run -/

/-- Wherever the condition was met so far, the state and what is still to come are
good. -/
def Always (step : State → Event → State) (condition : State → Event → Prop)
    (good : State → List Event → Prop) (start : State) (events : List Event) : Prop :=
  ∀ first rest, events = first ++ rest → Meets step condition start first →
    good (run step start first) rest

theorem Always.append {good : State → List Event → Prop} {first second : List Event}
    (later : ∀ state rest more, good state rest → good state (rest ++ more))
    (before : Always step condition good start first)
    (after : Meets step condition start first →
      Always step condition good (run step start first) second) :
    Always step condition good start (first ++ second) := by
  intro done rest split meets
  rcases List.append_eq_append_iff.mp split with ⟨middle, rfl, rfl⟩ | ⟨middle, rfl, rfl⟩
  · obtain ⟨metFirst, metMiddle⟩ := Meets.append.mp meets
    rw [run_append]
    exact after metFirst middle rest rfl metMiddle
  · exact later _ middle second (before done middle rfl meets)

/-! ## Changes -/

/-- The last step after which an observed value stays what it is at the end. -/
theorem exists_last_change {Value : Type*} {observe : State → Value} {value : Value}
    (events : List Event) (begins : observe start ≠ value)
    (ends : observe (run step start events) = value) :
    ∃ first event second, events = first ++ event :: second ∧
      observe (run step start first) ≠ value ∧
      ∀ middle, middle <+: second →
        observe (run step (step (run step start first) event) middle) = value := by
  induction events using List.reverseRecOn with
  | nil => exact absurd ends begins
  | append_singleton events event induction =>
    rw [run_append] at ends
    by_cases already : observe (run step start events) = value
    · obtain ⟨first, change, second, rfl, different, stays⟩ := induction already
      refine ⟨first, change, second ++ [event], by simp, different, fun middle before => ?_⟩
      rcases List.prefix_concat_iff.mp before with rfl | earlier
      · rw [run_append] at ends
        rw [run_append]
        exact ends
      · exact stays middle earlier
    · refine ⟨events, event, [], rfl, already, fun middle before => ?_⟩
      rw [List.prefix_nil.mp before]
      exact ends

/-! ## Costs -/

/-- The costs of the steps of a run, added up. -/
def total (step : State → Event → State) (cost : State → Event → Nat) : State → List Event → Nat
  | _, [] => 0
  | state, event :: events => cost state event + total step cost (step state event) events

/-- Steps that pay for themselves out of a budget cost no more than the budget. -/
theorem total_le_budget {cost : State → Event → Nat} {budget : State → Nat}
    (pays : ∀ state event, cost state event + budget (step state event) ≤ budget state)
    (events : List Event) : total step cost start events ≤ budget start := by
  induction events generalizing start with
  | nil => exact Nat.zero_le _
  | cons event events induction =>
    calc total step cost start (event :: events)
        = cost start event + total step cost (step start event) events := rfl
      _ ≤ cost start event + budget (step start event) := Nat.add_le_add_left induction _
      _ ≤ budget start := pays start event

end Runs
