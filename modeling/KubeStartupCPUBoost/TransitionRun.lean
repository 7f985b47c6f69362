/-!
# Runs of a transition function

A system that takes one event after another, its runs, and runs in which every
event is allowed in the state it meets.  `runEvents_invariant` reduces a
property of every state reached to one step, `throughout_iff_allowedRun` one that
holds in them all, and `runEvents_simulates` a relation between two systems.
-/

section TransitionRun

variable {State Event : Type} (step : Event → State → State)

/-- The state after a sequence of events. -/
def runEvents : List Event → State → State
  | [], state => state
  | event :: rest, state => runEvents rest (step event state)

/-- Every event of the sequence is allowed in the state it meets. -/
def AllowedRun (allowed : Event → State → Prop) : List Event → State → Prop
  | [], _ => True
  | event :: rest, state => allowed event state ∧ AllowedRun allowed rest (step event state)

@[simp]
theorem runEvents_append (first second : List Event) (state : State) :
    runEvents step (first ++ second) state =
      runEvents step second (runEvents step first state) := by
  induction first generalizing state with
  | nil => rfl
  | cons event rest ih => exact ih (step event state)

theorem allowedRun_append {allowed : Event → State → Prop} {first second : List Event}
    {state : State} (before : AllowedRun step allowed first state)
    (after : AllowedRun step allowed second (runEvents step first state)) :
    AllowedRun step allowed (first ++ second) state := by
  induction first generalizing state with
  | nil => exact after
  | cons event rest ih => exact ⟨before.1, ih before.2 after⟩

theorem allowedRun_of_append {allowed : Event → State → Prop} {first second : List Event}
    {state : State} (run : AllowedRun step allowed (first ++ second) state) :
    AllowedRun step allowed first state ∧
      AllowedRun step allowed second (runEvents step first state) := by
  induction first generalizing state with
  | nil => exact ⟨trivial, run⟩
  | cons event rest ih =>
      obtain ⟨before, after⟩ := ih run.2
      exact ⟨⟨run.1, before⟩, after⟩

variable {step} {allowed : Event → State → Prop} {invariant : State → Prop}

/-- What every allowed event preserves holds after every allowed run. -/
theorem runEvents_invariant
    (preserved : ∀ event state, invariant state → allowed event state →
      invariant (step event state))
    {events : List Event} {state : State} (start : invariant state)
    (run : AllowedRun step allowed events state) : invariant (runEvents step events state) := by
  induction events generalizing state with
  | nil => exact start
  | cons event rest ih =>
      obtain ⟨first, later⟩ := run
      exact ih (preserved event state start first) later

/-- What every event preserves holds after every run. -/
theorem runEvents_preserves
    (preserved : ∀ event state, invariant state → invariant (step event state))
    {events : List Event} {state : State} (start : invariant state) :
    invariant (runEvents step events state) := by
  induction events generalizing state with
  | nil => exact start
  | cons event rest ih => exact ih (preserved event state start)

/-- A property that holds at the start of an allowed run holds throughout it, if an event
keeps it exactly when it is allowed. -/
theorem throughout_iff_allowedRun {good : State → Prop}
    (sufficient : ∀ state, invariant state → good state)
    (preserved : ∀ event state, invariant state → allowed event state →
      invariant (step event state))
    (necessary : ∀ event state, invariant state → good (step event state) → allowed event state)
    {events : List Event} {state : State} (start : invariant state) :
    (∀ taken, good (runEvents step (events.take taken) state)) ↔
      AllowedRun step allowed events state := by
  induction events generalizing state with
  | nil => simpa [AllowedRun, runEvents] using sufficient state start
  | cons event rest ih =>
      constructor
      · intro throughout
        have first := necessary event state start (throughout 1)
        refine ⟨first, (ih (preserved event state start first)).mp fun taken => ?_⟩
        exact throughout (taken + 1)
      · rintro ⟨first, later⟩ taken
        cases taken with
        | zero => exact sufficient state start
        | succ taken => exact (ih (preserved event state start first)).mpr later taken

/-- Two systems that take the same events: a relation every event preserves holds
after every run. -/
theorem runEvents_simulates {State' : Type} {step' : Event → State' → State'}
    {related : State → State' → Prop}
    (preserved : ∀ event state state', related state state' →
      related (step event state) (step' event state'))
    {events : List Event} {state : State} {state' : State'} (start : related state state') :
    related (runEvents step events state) (runEvents step' events state') := by
  induction events generalizing state state' with
  | nil => exact start
  | cons event rest ih => exact ih (preserved event state state' start)

end TransitionRun
