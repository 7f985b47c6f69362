import KubeStartupCPUBoost.CallProgram
import Mathlib.Logic.Relation

/-!
# Calls interleaved with an environment

A program runs call by call on a state that its environment changes in between.
`SafeTo` says that whatever the environment does and however the calls are
answered, an invariant holds after every call, and a postcondition when the
program returns.  Programs that are safe in this sense, run one after the other,
keep the invariant in every state of every interleaving.
-/

namespace CallProgram

variable {Call : Type} {Response : Call → Type} {α β σ : Type}

/-- A shared state, and the rest of the program that is running on it. -/
structure Interleaving (Call : Type) (Response : Call → Type) (α σ : Type) where
  state : σ
  running : Option (CallProgram Call Response α)

section Step

variable (answers : (request : Call) → σ → Response request → σ → Prop)
  (environment : σ → σ → Prop) (starts : CallProgram Call Response α → Prop)

/-- The environment makes a step, a program starts when none is running, the
running program makes its next call, or it stops: because it has returned, or
because it is cut off. -/
inductive Interleaving.Step :
    Interleaving Call Response α σ → Interleaving Call Response α σ → Prop where
  | environment {state after : σ} (running : Option (CallProgram Call Response α))
      (step : environment state after) : Step ⟨state, running⟩ ⟨after, running⟩
  | start (state : σ) {program : CallProgram Call Response α} (started : starts program) :
      Step ⟨state, none⟩ ⟨state, some program⟩
  | call {state after : σ} {request : Call} {response : Response request}
      (next : Response request → CallProgram Call Response α)
      (answered : answers request state response after) :
      Step ⟨state, some (.call request next)⟩ ⟨after, some (next response)⟩
  | stop (state : σ) (program : CallProgram Call Response α) :
      Step ⟨state, some program⟩ ⟨state, none⟩

end Step

section Safe

variable (answers : (request : Call) → σ → Response request → σ → Prop)
  (environment : σ → σ → Prop) (invariant : σ → Prop)

/-- The invariant holds after every call and the postcondition on return, with
any steps of the environment before each call. -/
def SafeTo (post : α → σ → Prop) : CallProgram Call Response α → σ → Prop
  | done result, state => post result state
  | call request next, state =>
      ∀ between, Relation.ReflTransGen environment state between →
        ∀ response after, answers request between response after →
          invariant after ∧ (next response).SafeTo post after

variable {answers environment invariant}

theorem safeTo_bind {program : CallProgram Call Response α}
    {next : α → CallProgram Call Response β} {post : β → σ → Prop} {state : σ}
    (safe : program.SafeTo answers environment invariant
      (fun result after => (next result).SafeTo answers environment invariant post after) state) :
    (program >>= next).SafeTo answers environment invariant post state := by
  change (program.bind next).SafeTo answers environment invariant post state
  induction program generalizing state with
  | done result => exact safe
  | call request continuation ih =>
      intro between reached response after answered
      obtain ⟨holds, rest⟩ := safe between reached response after answered
      exact ⟨holds, ih response rest⟩

/-- The rule for one call and what follows it. -/
theorem safeTo_request_bind {request : Call}
    {next : Response request → CallProgram Call Response β} {post : β → σ → Prop} {state : σ}
    (safe : ∀ between, Relation.ReflTransGen environment state between →
      ∀ response after, answers request between response after →
        invariant after ∧ (next response).SafeTo answers environment invariant post after) :
    (CallProgram.request request >>= next).SafeTo answers environment invariant post state :=
  safe

theorem SafeTo.mono {program : CallProgram Call Response α} {post weaker : α → σ → Prop}
    (weaken : ∀ result state, post result state → weaker result state) {state : σ}
    (safe : program.SafeTo answers environment invariant post state) :
    program.SafeTo answers environment invariant weaker state := by
  induction program generalizing state with
  | done result => exact weaken result state safe
  | call request next ih =>
      intro between reached response after answered
      obtain ⟨holds, rest⟩ := safe between reached response after answered
      exact ⟨holds, ih response rest⟩

/-- Safety is not lost while the environment makes steps, if the postcondition
is not. -/
theorem SafeTo.after_environment {program : CallProgram Call Response α} {post : α → σ → Prop}
    (stable : ∀ result state after, environment state after → post result state →
      post result after)
    {state after : σ} (safe : program.SafeTo answers environment invariant post state)
    (step : environment state after) :
    program.SafeTo answers environment invariant post after := by
  cases program with
  | done result => exact stable result state after step safe
  | call request next =>
      intro between reached
      exact safe between (.head step reached)

/-- What every step of the environment keeps, any number of them keeps. -/
theorem environment_keeps (condition : σ → Prop)
    (kept : ∀ state after, environment state after → condition state → condition after)
    {state between : σ} (reached : Relation.ReflTransGen environment state between)
    (holds : condition state) : condition between := by
  induction reached with
  | refl => exact holds
  | tail _ step ih => exact kept _ _ step ih

/-- A program whose calls keep a condition that the environment keeps, and that
implies the invariant, is safe. -/
theorem safeTo_of_allCalls {allowed : Call → Prop}
    {possible : (request : Call) → Response request → Prop} {condition : σ → Prop}
    (answered : ∀ request state response after, answers request state response after →
      possible request response)
    (kept : ∀ state after, environment state after → condition state → condition after)
    (preserved : ∀ request state response after, allowed request →
      answers request state response after → condition state → condition after)
    (sound : ∀ state, condition state → invariant state)
    {program : CallProgram Call Response α} (calls : program.AllCalls allowed possible)
    {state : σ} (holds : condition state) :
    program.SafeTo answers environment invariant (fun _ => condition) state := by
  induction program generalizing state with
  | done result => exact holds
  | call request next ih =>
      intro between reached response after answer
      have stillHolds := environment_keeps condition kept reached holds
      have holdsAfter := preserved request between response after calls.1 answer stillHolds
      exact ⟨sound after holdsAfter,
        ih response (calls.2 response (answered request between response after answer)) holdsAfter⟩

variable {starts : CallProgram Call Response α → Prop}

/-- The invariant of safe programs holds in every state of every interleaving. -/
theorem Interleaving.invariant_of_safe
    (kept : ∀ state after, environment state after → invariant state → invariant after)
    (safe : ∀ program, starts program → ∀ state, invariant state →
      program.SafeTo answers environment invariant (fun _ _ => True) state)
    {initial final : Interleaving Call Response α σ} (idle : initial.running = none)
    (holds : invariant initial.state)
    (run : Relation.ReflTransGen (Interleaving.Step answers environment starts) initial final) :
    invariant final.state := by
  have along : invariant final.state ∧ ∀ program, final.running = some program →
      program.SafeTo answers environment invariant (fun _ _ => True) final.state := by
    induction run with
    | refl =>
        refine ⟨holds, ?_⟩
        intro program running
        rw [idle] at running
        cases running
    | tail _ step ih =>
        obtain ⟨holds, running⟩ := ih
        cases step with
        | environment still step =>
            refine ⟨kept _ _ step holds, ?_⟩
            intro program same
            exact (running program same).after_environment (fun _ _ _ _ => id) step
        | start state started =>
            refine ⟨holds, ?_⟩
            intro program same
            cases same
            exact safe _ started state holds
        | call next answered =>
            obtain ⟨after, rest⟩ := running _ rfl _ .refl _ _ answered
            refine ⟨after, ?_⟩
            intro program same
            cases same
            exact rest
        | stop =>
            refine ⟨holds, ?_⟩
            intro program same
            cases same
  exact along.1

/-- A run without interruption is one of the interleavings. -/
theorem Interleaving.steps_of_run {handle : (request : Call) → σ → Response request × σ}
    (answered : ∀ request state,
      answers request state (handle request state).1 (handle request state).2)
    (program : CallProgram Call Response α) (state : σ) :
    Relation.ReflTransGen (Interleaving.Step answers environment starts) ⟨state, some program⟩
      ⟨(program.run handle state).2, none⟩ := by
  induction program generalizing state with
  | done result => exact .single (.stop state _)
  | call request next ih =>
      have answer : Interleaving.Step answers environment starts
          ⟨state, some (.call request next)⟩ ⟨_, some (next _)⟩ :=
        .call next (answered request state)
      exact .head answer (ih _ _)

end Safe

end CallProgram
