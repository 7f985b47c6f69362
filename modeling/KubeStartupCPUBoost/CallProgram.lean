import Mathlib.Control.Basic

/-!
# Programs that make calls

A program that talks to a server is a tree: it returns, or it makes a call and
goes on with the response.  Keeping the calls visible lets one program be run
against any server, with any pattern of failures, and lets facts about the
calls it can make be separated from what the server does with them.
-/

/-- A program with calls from `Call`, each answered by a `Response`. -/
inductive CallProgram (Call : Type) (Response : Call → Type) (α : Type) where
  | done (result : α)
  | call (request : Call) (next : Response request → CallProgram Call Response α)

namespace CallProgram

variable {Call : Type} {Response : Call → Type} {α β σ : Type}

protected def bind (program : CallProgram Call Response α)
    (next : α → CallProgram Call Response β) : CallProgram Call Response β :=
  match program with
  | done result => next result
  | call request continuation => call request fun response => (continuation response).bind next

instance : Monad (CallProgram Call Response) where
  pure := done
  bind := CallProgram.bind

def request (request : Call) : CallProgram Call Response (Response request) :=
  call request done

def run (handle : (request : Call) → σ → Response request × σ) :
    CallProgram Call Response α → σ → α × σ
  | done result, state => (result, state)
  | call request next, state =>
      let answer := handle request state
      (next answer.1).run handle answer.2

section Run

variable (handle : (request : Call) → σ → Response request × σ)

@[simp]
theorem run_pure (result : α) (state : σ) :
    (pure result : CallProgram Call Response α).run handle state = (result, state) :=
  rfl

@[simp]
theorem run_request (call : Call) (state : σ) :
    (request call : CallProgram Call Response _).run handle state = handle call state :=
  rfl

@[simp]
theorem run_bind (program : CallProgram Call Response α)
    (next : α → CallProgram Call Response β) (state : σ) :
    (program >>= next).run handle state =
      (next (program.run handle state).1).run handle (program.run handle state).2 := by
  change (program.bind next).run handle state = _
  induction program generalizing state with
  | done result => rfl
  | call request continuation ih => exact ih _ _

/-- A server that keeps more in its state, and answers alike, leads to the same
result and the same state. -/
theorem run_project {τ : Type} {handle : (request : Call) → σ → Response request × σ}
    {handle' : (request : Call) → τ → Response request × τ} (project : σ → τ)
    (answers : ∀ request state,
      (handle request state).1 = (handle' request (project state)).1 ∧
        project (handle request state).2 = (handle' request (project state)).2)
    (program : CallProgram Call Response α) (state : σ) :
    (program.run handle state).1 = (program.run handle' (project state)).1 ∧
      project (program.run handle state).2 = (program.run handle' (project state)).2 := by
  induction program generalizing state with
  | done result => exact ⟨rfl, rfl⟩
  | call request next ih =>
      obtain ⟨sameAnswer, sameState⟩ := answers request state
      simp only [run]
      rw [← sameAnswer, ← sameState]
      exact ih _ _

end Run

/-- Every call the program can make satisfies a predicate, as long as the
responses are possible ones. -/
def AllCalls (allowed : Call → Prop) (possible : (request : Call) → Response request → Prop) :
    CallProgram Call Response α → Prop
  | done _ => True
  | call request next =>
      allowed request ∧
        ∀ response, possible request response → (next response).AllCalls allowed possible

section AllCalls

variable {allowed : Call → Prop} {possible : (request : Call) → Response request → Prop}

/-- The rule for one call and what follows it. -/
theorem allCalls_request_bind {call : Call} {next : Response call → CallProgram Call Response β}
    (first : allowed call)
    (second : ∀ response, possible call response → (next response).AllCalls allowed possible) :
    (request call >>= next).AllCalls allowed possible :=
  ⟨first, second⟩

theorem allCalls_bind {program : CallProgram Call Response α}
    {next : α → CallProgram Call Response β} (first : program.AllCalls allowed possible)
    (second : ∀ result, (next result).AllCalls allowed possible) :
    (program >>= next).AllCalls allowed possible := by
  change (program.bind next).AllCalls allowed possible
  induction program with
  | done result => exact second result
  | call request continuation ih =>
      exact ⟨first.1, fun response answered => ih response (first.2 response answered)⟩

theorem AllCalls.mono {wider : Call → Prop} (weaken : ∀ call, allowed call → wider call)
    {program : CallProgram Call Response α} (calls : program.AllCalls allowed possible) :
    program.AllCalls wider possible := by
  induction program with
  | done result => trivial
  | call request next ih =>
      exact ⟨weaken request calls.1, fun response answered =>
        ih response (calls.2 response answered)⟩

/-- What every allowed call preserves, the program preserves. -/
theorem run_preserves {handle : (request : Call) → σ → Response request × σ}
    {invariant : σ → Prop}
    (answered : ∀ request state, invariant state → possible request (handle request state).1)
    (preserved : ∀ request state, allowed request → invariant state →
      invariant (handle request state).2)
    {program : CallProgram Call Response α} (calls : program.AllCalls allowed possible)
    {state : σ} (initial : invariant state) : invariant (program.run handle state).2 := by
  induction program generalizing state with
  | done result => exact initial
  | call request next ih =>
      exact ih _ (calls.2 _ (answered request state initial))
        (preserved request state calls.1 initial)

end AllCalls

/-- The run of a program from a state makes a call of some kind. -/
def Makes (handle : (request : Call) → σ → Response request × σ) (kind : Call → Prop) :
    CallProgram Call Response α → σ → Prop
  | done _, _ => False
  | call request next, state =>
      kind request ∨
        (next (handle request state).1).Makes handle kind (handle request state).2

section Makes

variable (handle : (request : Call) → σ → Response request × σ) (kind : Call → Prop)

@[simp]
theorem makes_pure (result : α) (state : σ) :
    ¬ (pure result : CallProgram Call Response α).Makes handle kind state :=
  id

@[simp]
theorem makes_request (call : Call) (state : σ) :
    (request call : CallProgram Call Response _).Makes handle kind state ↔ kind call :=
  iff_of_eq (or_false _)

theorem makes_bind (program : CallProgram Call Response α)
    (next : α → CallProgram Call Response β) (state : σ) :
    (program >>= next).Makes handle kind state ↔
      program.Makes handle kind state ∨
        (next (program.run handle state).1).Makes handle kind (program.run handle state).2 := by
  change (program.bind next).Makes handle kind state ↔ _
  induction program generalizing state with
  | done result => exact (iff_of_eq (false_or _)).symm
  | call request continuation ih => exact (or_congr_right (ih _ _)).trans or_assoc.symm

theorem makes_bind_of_silent {program : CallProgram Call Response α}
    {next : α → CallProgram Call Response β}
    (silent : ∀ result state, ¬ (next result).Makes handle kind state) (state : σ) :
    (program >>= next).Makes handle kind state ↔ program.Makes handle kind state :=
  (makes_bind handle kind program next state).trans (or_iff_left (silent _ _))

/-- A run without the calls that can change the state does not change it. -/
theorem run_state_of_not_makes {handle : (request : Call) → σ → Response request × σ}
    {kind : Call → Prop}
    (keeps : ∀ request state, ¬ kind request → (handle request state).2 = state)
    {program : CallProgram Call Response α} {state : σ}
    (silent : ¬ program.Makes handle kind state) : (program.run handle state).2 = state := by
  induction program generalizing state with
  | done result => rfl
  | call request next ih =>
      obtain ⟨notKind, rest⟩ := not_or.mp silent
      exact (ih _ rest).trans (keeps request state notKind)

/-- A server that keeps more in its state, and answers alike, is sent the same
calls. -/
theorem makes_project {τ : Type} {handle : (request : Call) → σ → Response request × σ}
    {handle' : (request : Call) → τ → Response request × τ} {kind : Call → Prop}
    (project : σ → τ)
    (answers : ∀ request state,
      (handle request state).1 = (handle' request (project state)).1 ∧
        project (handle request state).2 = (handle' request (project state)).2)
    (program : CallProgram Call Response α) (state : σ) :
    program.Makes handle kind state ↔ program.Makes handle' kind (project state) := by
  induction program generalizing state with
  | done result => exact Iff.rfl
  | call request next ih =>
      obtain ⟨sameAnswer, sameState⟩ := answers request state
      simp only [Makes]
      rw [← sameAnswer, ← sameState, ih]

end Makes

end CallProgram
