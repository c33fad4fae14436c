import Mathlib.Data.List.Basic

/-! Runs of a partial step function whose events are admitted state by state.
One-step facts become facts about whole runs here, once for every model.
-/

namespace OctoHubs.Library

variable {State Event : Type*}

/-- A run takes its events in order; each one is admitted and enabled where it is taken. -/
inductive Run (step : State → Event → Option State) (admits : State → Event → Prop)
    : State → List Event → State → Prop
  | nil (state : State) : Run step admits state [] state
  | cons {state next finish : State} {event : Event} {events : List Event}
    (admitted : admits state event) (taken : step state event = some next)
    (rest : Run step admits next events finish)
    : Run step admits state (event :: events) finish

namespace Run

variable {step : State → Event → Option State} {admits : State → Event → Prop}

/-- A property kept by every admitted step holds at the end of a run that starts in it.
Witness: induction on the run.
-/
theorem preserves {start finish : State} {events : List Event} (invariant : State → Prop)
    (kept
      : ∀ {state next : State} {event : Event},
          invariant state
          → admits state event
          → step state event = some next
          → invariant next)
    (run : Run step admits start events finish) (initial : invariant start)
    : invariant finish := by
  induction run with
  | nil => exact initial
  | cons admitted taken _ ih => exact ih (kept initial admitted taken)

theorem append {start middle finish : State} {first second : List Event}
    (run : Run step admits start first middle) (next : Run step admits middle second finish)
    : Run step admits start (first ++ second) finish := by
  induction run with
  | nil => exact next
  | cons admitted taken _ ih => exact .cons admitted taken (ih next)

theorem mono {weaker : State → Event → Prop} {start finish : State} {events : List Event}
    (run : Run step admits start events finish)
    (weaken : ∀ {state : State} {event : Event}, admits state event → weaker state event)
    : Run step weaker start events finish := by
  induction run with
  | nil => exact .nil _
  | cons admitted taken _ ih => exact .cons (weaken admitted) taken ih

/-- While an invariant holds that the admitted steps keep, a run over one admission condition
is a run over every other one that follows from it there.
-/
theorem mono_of_invariant {other : State → Event → Prop} (invariant : State → Prop)
    (follows
      : ∀ {state : State} {event : Event},
          invariant state → admits state event → other state event)
    (kept
      : ∀ {state next : State} {event : Event},
          invariant state
          → admits state event
          → step state event = some next
          → invariant next)
    {start finish : State} {events : List Event}
    (run : Run step admits start events finish) (initial : invariant start)
    : Run step other start events finish := by
  induction run with
  | nil => exact .nil _
  | cons admitted taken _ ih =>
      exact .cons (follows initial admitted) taken (ih (kept initial admitted taken))

/-- While an invariant holds that makes two admission conditions agree, and that the admitted
steps keep, the runs over the one are the runs over the other.
-/
theorem iff_of_invariant {other : State → Event → Prop} (invariant : State → Prop)
    (agree
      : ∀ {state : State} {event : Event},
          invariant state → (admits state event ↔ other state event))
    (kept
      : ∀ {state next : State} {event : Event},
          invariant state
          → admits state event
          → step state event = some next
          → invariant next)
    {start finish : State} {events : List Event} (initial : invariant start)
    : Run step admits start events finish ↔ Run step other start events finish := by
  constructor
  · intro run
    exact run.mono_of_invariant invariant
      (fun holds admitted => (agree holds).mp admitted) kept initial
  · intro run
    exact run.mono_of_invariant invariant
      (fun holds admitted => (agree holds).mpr admitted)
      (fun holds admitted taken => kept holds ((agree holds).mpr admitted) taken) initial

end Run

/-- Take the events in order, stopping at the first one that is refused or not enabled. -/
def execute (step : State → Event → Option State) (admits : State → Event → Prop)
    [∀ state event, Decidable (admits state event)]
    : State → List Event → Option State
  | state, [] => some state
  | state, event :: events =>
      if admits state event then (step state event).bind (execute step admits · events)
      else none

theorem Run.of_execute {step : State → Event → Option State}
    {admits : State → Event → Prop} [∀ state event, Decidable (admits state event)]
    {start finish : State} {events : List Event}
    (executed : execute step admits start events = some finish)
    : Run step admits start events finish := by
  induction events generalizing start with
  | nil =>
      cases executed
      exact .nil _
  | cons event events ih =>
      simp only [execute] at executed
      split at executed
      · next admitted =>
          obtain ⟨next, taken, rest⟩ := Option.bind_eq_some_iff.mp executed
          exact .cons admitted taken (ih rest)
      · cases executed

theorem Run.execute_eq {step : State → Event → Option State}
    {admits : State → Event → Prop} [∀ state event, Decidable (admits state event)]
    {start finish : State} {events : List Event} (run : Run step admits start events finish)
    : execute step admits start events = some finish := by
  induction run with
  | nil => rfl
  | cons admitted taken _ ih => rw [execute, if_pos admitted, taken, Option.bind_some, ih]

theorem Run.exists_of_execute {step : State → Event → Option State}
    {admits : State → Event → Prop} [∀ state event, Decidable (admits state event)]
    {start : State} {events : List Event} {property : State → Prop}
    [DecidablePred property]
    (executed : (execute step admits start events).any (fun finish => property finish) = true)
    : ∃ finish, Run step admits start events finish ∧ property finish := by
  obtain ⟨finish, reached, holds⟩ := Option.any_eq_true _ _ |>.mp executed
  exact ⟨finish, .of_execute reached, of_decide_eq_true holds⟩

end OctoHubs.Library
