import KubeStartupCPUBoost.ControllerRun
import KubeStartupCPUBoost.ManagerStates
import KubeStartupCPUBoost.PodStore
import Mathlib.Data.List.Basic

/-!
# The workers of a tick, call by call

`Controller.executeTask` reverts a pod in one step.  In the code several workers
revert pods at the same time: each takes the lock of its boost, makes the calls
of the revert one after another, and keeps the lock until the boost's
bookkeeping is done.  Meanwhile the tick goes on checking boosts.

`ConcurrentTick` lets these steps come in any order.  If no two boosts hold the
same pod, whatever order they come in leaves what executing the tasks one at a
time leaves (`ConcurrentTick.run_linearizable`), in the order in which the
reverts finished.
-/

namespace KubeStartupCPUBoost

variable (lib : Library) {σ τ : Type}

namespace StartupCPUBoostImpl

/-- What `revertResources` does once its calls have returned. -/
def settleRevert (ref : PodRef) (reverted : Reverted) (boost : StartupCPUBoostImpl)
    (memory : Memory σ) : BoostOutcome σ :=
  let memory := { memory with pods := Function.update memory.pods ref reverted.2 }
  match reverted.1 with
  | .error message =>
      ⟨.error message, boost,
        { memory with failedReverts := boost.failedRevert ref :: memory.failedReverts }⟩
  | .ok () =>
      let untracked := { boost with pods := boost.pods.erase reverted.2.name }
      let updated := untracked.updateStats lib .podDelete memory
      ⟨.ok (), updated.1, updated.2⟩

theorem revertResources_eq_settleRevert (client : PodClient σ) (ref : PodRef)
    (boost : StartupCPUBoostImpl) (memory : Memory σ) :
    let calls := boost.revertCalls lib client ref memory
    boost.revertResources lib client ref memory =
      boost.settleRevert lib ref (calls.result, calls.pod) { memory with server := calls.server } :=
  rfl

/-- The bookkeeping does not look at the server. -/
theorem settleRevert_withServer (ref : PodRef) (reverted : Reverted) (boost : StartupCPUBoostImpl)
    (memory : Memory σ) (server : σ) :
    let settled := boost.settleRevert lib ref reverted memory
    boost.settleRevert lib ref reverted { memory with server } =
      { settled with memory := { settled.memory with server } } := by
  obtain ⟨result, pod⟩ := reverted
  cases result with
  | error message => rfl
  | ok => rfl

theorem settleRevert_pods (ref : PodRef) (reverted : Reverted) (boost : StartupCPUBoostImpl)
    (memory : Memory σ) :
    (boost.settleRevert lib ref reverted memory).memory.pods =
      Function.update memory.pods ref reverted.2 := by
  obtain ⟨result, pod⟩ := reverted
  cases result with
  | error message => rfl
  | ok => rfl

@[simp]
theorem settleRevert_server (ref : PodRef) (reverted : Reverted) (boost : StartupCPUBoostImpl)
    (memory : Memory σ) :
    (boost.settleRevert lib ref reverted memory).memory.server = memory.server := by
  obtain ⟨result, pod⟩ := reverted
  cases result with
  | error message => rfl
  | ok => rfl

end StartupCPUBoostImpl

/-- A revert that has begun: the pod object and the calls still to make. -/
structure RunningRevert where
  ref : PodRef
  program : PodProgram Reverted

/-- A tick in progress.  A task stays in flight until its revert has finished;
`lock` is the revert that holds a boost's lock. -/
structure ConcurrentTick (τ : Type) where
  controller : Controller (PodKey → τ)
  lock : BoostRef → Option RunningRevert

/-- A step: the next boost is checked, a task is started, or the revert that holds
a boost's lock goes on by one call or finishes. -/
inductive ConcurrentEvent where
  | check (order : RangeOrder String)
  | start (position : Nat)
  | advance (boost : BoostRef)

def Controller.withServer (server : σ) (state : Controller σ) : Controller σ :=
  { state with manager := { state.manager with memory := { state.manager.memory with server } } }

namespace ConcurrentTick

variable (store : PodStore τ)

def ofController (controller : Controller (PodKey → τ)) : ConcurrentTick τ :=
  ⟨controller, fun _ => none⟩

abbrev server (state : ConcurrentTick τ) : PodKey → τ := state.controller.manager.memory.server

abbrev key (state : ConcurrentTick τ) (ref : PodRef) : PodKey :=
  (state.controller.manager.memory.pods ref).key

/-- Checking a boost takes its lock for reading. -/
def check (order : RangeOrder String) (state : ConcurrentTick τ) : ConcurrentTick τ :=
  match state.controller.inFlight.scanning with
  | [] => state
  | boost :: _ =>
      match state.lock boost with
      | some _ => state
      | none => { state with controller := state.controller.checkNextBoost order }

/-- A worker takes a task and the lock of its boost. -/
def start (position : Nat) (state : ConcurrentTick τ) : ConcurrentTick τ :=
  match state.controller.inFlight.tasks[position]? with
  | none => state
  | some (boost, ref) =>
      match state.lock boost with
      | some _ => state
      | none =>
          let manager := state.controller.manager
          let program := revertProgram lib (manager.boosts boost).legacyRevertMode
            (manager.memory.pods ref)
          { state with lock := Function.update state.lock boost (some ⟨ref, program⟩) }

def makeCall (boost : BoostRef) (ref : PodRef) (request : PodCall)
    (next : Except String Pod → PodProgram Reverted) (state : ConcurrentTick τ) :
    ConcurrentTick τ :=
  let answer := store.answer (state.key ref) request (state.server (state.key ref))
  { controller := state.controller.withServer
      (Function.update state.server (state.key ref) answer.2)
    lock := Function.update state.lock boost (some ⟨ref, next answer.1⟩) }

/-- The end of a revert: the bookkeeping, and the lock is given back. -/
def finish (boost : BoostRef) (ref : PodRef) (reverted : Reverted) (state : ConcurrentTick τ) :
    ConcurrentTick τ :=
  let manager := state.controller.manager
  let settled := (manager.boosts boost).settleRevert lib ref reverted manager.memory
  let inFlight := state.controller.inFlight
  { controller :=
      { state.controller with
        manager := manager.setBoost boost settled.boost settled.memory
        inFlight := { inFlight with tasks := inFlight.tasks.erase (boost, ref) } }
    lock := Function.update state.lock boost none }

@[simp]
theorem finish_server (boost : BoostRef) (ref : PodRef) (reverted : Reverted)
    (state : ConcurrentTick τ) : (state.finish lib boost ref reverted).server = state.server :=
  StartupCPUBoostImpl.settleRevert_server lib ref reverted _ _

def advance (boost : BoostRef) (state : ConcurrentTick τ) : ConcurrentTick τ :=
  match state.lock boost with
  | none => state
  | some ⟨ref, .call request next⟩ => state.makeCall store boost ref request next
  | some ⟨ref, .done reverted⟩ => state.finish lib boost ref reverted

def step (event : ConcurrentEvent) (state : ConcurrentTick τ) : ConcurrentTick τ :=
  match event with
  | .check order => state.check order
  | .start position => state.start lib position
  | .advance boost => state.advance lib store boost

def run (events : List ConcurrentEvent) (state : ConcurrentTick τ) : ConcurrentTick τ :=
  runEvents (step lib store) events state

def Quiet (state : ConcurrentTick τ) : Prop := ∀ boost, state.lock boost = none

end ConcurrentTick

def PodsApart (inFlight : InFlight) (manager : Manager σ) : Prop :=
  ∀ boost other ref otherRef, Holds inFlight manager boost ref →
    Holds inFlight manager other otherRef →
      (manager.memory.pods ref).key = (manager.memory.pods otherRef).key → boost = other

namespace PodsApart

theorem checkNextBoost {state : Controller σ} (apart : PodsApart state.inFlight state.manager)
    (order : RangeOrder String) :
    PodsApart (state.checkNextBoost order).inFlight (state.checkNextBoost order).manager := by
  intro boost other ref otherRef holds otherHolds sameKey
  rw [checkNextBoost_manager] at sameKey
  exact apart _ _ _ _ (holds_of_checkNextBoost holds) (holds_of_checkNextBoost otherHolds) sameKey

theorem holds_of_executeTask {client : PodClient σ} {state : Controller σ} {position : Nat}
    {boost : BoostRef} {ref : PodRef}
    (holds : Holds (state.executeTask lib client position).inFlight
      (state.executeTask lib client position).manager boost ref) :
    Holds state.inFlight state.manager boost ref := by
  rcases state.executeTask_cases lib client position with
    unchanged | ⟨reverting, reverted, -, executed⟩
  · rwa [unchanged] at holds
  · rw [executed] at holds
    rcases holds with ⟨inUse, podName, tracked⟩ | inFlight
    · refine .inl ⟨inUse, podName, ?_⟩
      by_cases same : boost = reverting
      · subst same
        rw [Manager.revertResourcesIn, Manager.setBoost_boosts_self] at tracked
        exact (StartupCPUBoostImpl.tracked_of_revertResources lib client _ _ _ tracked).1
      · rwa [Manager.revertResourcesIn, Manager.setBoost_boosts_of_ne same] at tracked
    · exact .inr (List.mem_of_mem_eraseIdx inFlight)

@[simp]
theorem executeTask_key {client : PodClient σ} (state : Controller σ) (position : Nat)
    (ref : PodRef) :
    ((state.executeTask lib client position).manager.memory.pods ref).key =
      (state.manager.memory.pods ref).key := by
  rcases state.executeTask_cases lib client position with unchanged | ⟨boost, taken, -, executed⟩
  · rw [unchanged]
  · rw [executed]
    exact (StartupCPUBoostImpl.touches_revertResources lib client _ _ _).key_eq ref

theorem executeTask {client : PodClient σ} {state : Controller σ}
    (apart : PodsApart state.inFlight state.manager) (position : Nat) :
    PodsApart (state.executeTask lib client position).inFlight
      (state.executeTask lib client position).manager := by
  intro boost other ref otherRef holds otherHolds sameKey
  rw [executeTask_key, executeTask_key] at sameKey
  exact apart _ _ _ _ (holds_of_executeTask lib holds) (holds_of_executeTask lib otherHolds) sameKey

end PodsApart

def ControllerEvent.OfTick : ControllerEvent σ → Prop
  | .checkBoost _ | .executeTask _ => True
  | _ => False

@[simp]
theorem Controller.checkNextBoost_withServer (state : Controller σ) (server : σ)
    (order : RangeOrder String) :
    (state.withServer server).checkNextBoost order =
      (state.checkNextBoost order).withServer server := by
  obtain ⟨manager, now, scanning, tasks⟩ := state
  cases scanning with
  | nil => rfl
  | cons boost rest => rfl

theorem Controller.mem_tasks_checkNextBoost {state : Controller σ} {task : BoostRef × PodRef}
    (inFlight : task ∈ state.inFlight.tasks) (order : RangeOrder String) :
    task ∈ (state.checkNextBoost order).inFlight.tasks := by
  unfold checkNextBoost
  cases state.inFlight.scanning with
  | nil => exact inFlight
  | cons boost rest => exact List.mem_append_left _ inFlight

theorem Controller.executeTask_idxOf (client : PodClient σ) {state : Controller σ}
    {boost : BoostRef} {ref : PodRef} (task : (boost, ref) ∈ state.inFlight.tasks) :
    state.executeTask lib client (state.inFlight.tasks.idxOf (boost, ref)) =
      { state with
        manager := (state.manager.revertResourcesIn lib client boost ref).2
        inFlight :=
          { state.inFlight with tasks := state.inFlight.tasks.erase (boost, ref) } } := by
  have position : state.inFlight.tasks[state.inFlight.tasks.idxOf (boost, ref)]? =
      some (boost, ref) := List.getElem?_idxOf task
  unfold executeTask
  simp only [position, List.erase_eq_eraseIdx_of_idxOf]

theorem Manager.revertResourcesIn_of_outcome (store : PodStore τ) {manager : Manager (PodKey → τ)}
    {boost : BoostRef} {ref : PodRef} {reverted : Reverted} {part : τ}
    (outcome : (revertProgram lib (manager.boosts boost).legacyRevertMode
      (manager.memory.pods ref)).run (store.answer (manager.memory.pods ref).key)
        (manager.memory.server (manager.memory.pods ref).key) = (reverted, part)) :
    let settled := (manager.boosts boost).settleRevert lib ref reverted manager.memory
    (manager.revertResourcesIn lib store.client boost ref).2 =
      manager.setBoost boost settled.boost
        { settled.memory with
          server := Function.update manager.memory.server (manager.memory.pods ref).key part } := by
  simp only [revertResourcesIn, StartupCPUBoostImpl.revertResources_eq_settleRevert,
    StartupCPUBoostImpl.revertCalls, store.revertPod_eq_run, PodStore.runOn, outcome,
    StartupCPUBoostImpl.settleRevert_withServer]

namespace ConcurrentTick

variable {lib} {store : PodStore τ}

/-- After a lock has changed hands, the revert that holds a lock is the new holder, or
another boost's. -/
theorem held_of_update {lock : BoostRef → Option RunningRevert} {boost other : BoostRef}
    {holder : Option RunningRevert} {revert : RunningRevert}
    (held : Function.update lock boost holder other = some revert) :
    (other = boost ∧ holder = some revert) ∨ (other ≠ boost ∧ lock other = some revert) := by
  by_cases same : other = boost
  · subst same
    rw [Function.update_self] at held
    exact .inl ⟨rfl, held⟩
  · rw [Function.update_of_ne same] at held
    exact .inr ⟨same, held⟩

variable (lib store) in
/-- A tick agrees with a controller in which the reverts that have finished were
executed at once and those in progress have not begun: the two differ in the
parts of the server whose pods are being reverted, and from there each revert
still comes to the outcome it would have at once. -/
structure Agrees (state : ConcurrentTick τ) (atomic : Controller (PodKey → τ)) : Prop where
  controller : state.controller = atomic.withServer state.server
  untouched : ∀ key,
    (∀ boost revert, state.lock boost = some revert →
      (atomic.manager.memory.pods revert.ref).key ≠ key) →
      state.server key = atomic.manager.memory.server key
  inFlight : ∀ boost revert, state.lock boost = some revert →
    (boost, revert.ref) ∈ atomic.inFlight.tasks
  outcome : ∀ boost revert, state.lock boost = some revert →
    let pod := atomic.manager.memory.pods revert.ref
    revert.program.run (store.answer pod.key) (state.server pod.key) =
      (revertProgram lib (atomic.manager.boosts boost).legacyRevertMode pod).run
        (store.answer pod.key) (atomic.manager.memory.server pod.key)

/-- A revert in progress is that of a task in flight. -/
def RunsTasks (state : ConcurrentTick τ) : Prop :=
  ∀ boost revert, state.lock boost = some revert →
    (boost, revert.ref) ∈ state.controller.inFlight.tasks

namespace Agrees

theorem ofController (controller : Controller (PodKey → τ)) :
    Agrees lib store (.ofController controller) controller where
  controller := rfl
  untouched _ _ := rfl
  inFlight _ _ held := by cases held
  outcome _ _ held := by cases held

variable {state : ConcurrentTick τ} {atomic : Controller (PodKey → τ)}

theorem pods (agrees : Agrees lib store state atomic) :
    state.controller.manager.memory.pods = atomic.manager.memory.pods := by
  rw [agrees.controller]
  rfl

theorem runsTasks (agrees : Agrees lib store state atomic) : state.RunsTasks := by
  intro boost revert held
  rw [agrees.controller]
  exact agrees.inFlight boost revert held

theorem key_ne (agrees : Agrees lib store state atomic)
    (apart : PodsApart atomic.inFlight atomic.manager) {boost other : BoostRef}
    {ref : PodRef} {revert : RunningRevert} (task : (boost, ref) ∈ atomic.inFlight.tasks)
    (held : state.lock other = some revert) (different : other ≠ boost) :
    (atomic.manager.memory.pods revert.ref).key ≠ (atomic.manager.memory.pods ref).key :=
  fun sameKey => different
    (apart _ _ _ _ (.inr (agrees.inFlight other revert held)) (.inr task) sameKey)

theorem checkNextBoost (agrees : Agrees lib store state atomic) (order : RangeOrder String) :
    Agrees lib store { state with controller := state.controller.checkNextBoost order }
      (atomic.checkNextBoost order) where
  controller := by
    have checked : state.controller.checkNextBoost order =
        (atomic.checkNextBoost order).withServer state.server := by
      rw [← Controller.checkNextBoost_withServer, ← agrees.controller]
    simp only [checked]
    rfl
  untouched key free := by
    rw [checkNextBoost_manager] at free ⊢
    simp only [server, checkNextBoost_manager]
    exact agrees.untouched key free
  inFlight boost revert held :=
    Controller.mem_tasks_checkNextBoost (agrees.inFlight boost revert held) order
  outcome boost revert held := by
    simp only [server, checkNextBoost_manager]
    exact agrees.outcome boost revert held

theorem check (agrees : Agrees lib store state atomic) (order : RangeOrder String) :
    Agrees lib store (state.check order) atomic ∨
      Agrees lib store (state.check order) (atomic.checkNextBoost order) := by
  unfold ConcurrentTick.check
  cases state.controller.inFlight.scanning with
  | nil => exact .inl agrees
  | cons boost rest =>
      cases free : state.lock boost with
      | some revert => simpa only [free] using .inl agrees
      | none => simpa only [free] using .inr (agrees.checkNextBoost order)

/-- A revert that begins finds its pod's part of the server untouched. -/
theorem start (agrees : Agrees lib store state atomic)
    (apart : PodsApart atomic.inFlight atomic.manager) (position : Nat) :
    Agrees lib store (state.start lib position) atomic := by
  have sameTasks : state.controller.inFlight.tasks = atomic.inFlight.tasks := by
    rw [agrees.controller]
    rfl
  have sameBoosts : state.controller.manager.boosts = atomic.manager.boosts := by
    rw [agrees.controller]
    rfl
  unfold ConcurrentTick.start
  cases taken : state.controller.inFlight.tasks[position]? with
  | none => exact agrees
  | some task =>
      obtain ⟨boost, ref⟩ := task
      cases free : state.lock boost with
      | some revert => simpa only [free] using agrees
      | none =>
          simp only [free]
          have inFlight : (boost, ref) ∈ atomic.inFlight.tasks := by
            rw [← sameTasks]
            exact List.mem_of_getElem? taken
          have different : ∀ other revert, state.lock other = some revert → other ≠ boost := by
            rintro other revert held rfl
            cases free.symm.trans held
          refine ⟨agrees.controller, fun key unheld => agrees.untouched key ?_, ?_, ?_⟩
          · intro other revert held
            exact unheld other revert
              ((Function.update_of_ne (different other revert held) _ _).trans held)
          · intro other revert held
            rcases held_of_update held with ⟨rfl, new⟩ | ⟨-, held⟩
            · cases new
              exact inFlight
            · exact agrees.inFlight other revert held
          · intro other revert held
            rcases held_of_update held with ⟨rfl, new⟩ | ⟨-, held⟩
            · cases new
              have untouched := agrees.untouched (atomic.manager.memory.pods ref).key
                fun holder revert held =>
                  agrees.key_ne apart inFlight held (different holder revert held)
              simp only [sameBoosts, agrees.pods]
              rw [← untouched]
            · exact agrees.outcome other revert held

theorem makeCall (agrees : Agrees lib store state atomic)
    (apart : PodsApart atomic.inFlight atomic.manager) {boost : BoostRef} {ref : PodRef}
    {request : PodCall} {next : Except String Pod → PodProgram Reverted}
    (held : state.lock boost = some ⟨ref, .call request next⟩) :
    Agrees lib store (state.makeCall store boost ref request next) atomic := by
  have task := agrees.inFlight boost _ held
  have sameKey : state.key ref = (atomic.manager.memory.pods ref).key := by
    simp only [key, agrees.pods]
  unfold ConcurrentTick.makeCall
  simp only [sameKey]
  refine ⟨?_, fun key unheld => ?_, ?_, ?_⟩
  · rw [agrees.controller]
    rfl
  · have different : key ≠ (atomic.manager.memory.pods ref).key :=
      (unheld boost _ (Function.update_self _ _ _)).symm
    refine (Function.update_of_ne different _ _).trans (agrees.untouched key ?_)
    intro other revert otherHeld
    by_cases same : other = boost
    · subst same
      cases held.symm.trans otherHeld
      exact different.symm
    · exact unheld other revert ((Function.update_of_ne same _ _).trans otherHeld)
  · intro other revert otherHeld
    rcases held_of_update otherHeld with ⟨rfl, new⟩ | ⟨-, otherHeld⟩
    · cases new
      exact task
    · exact agrees.inFlight other revert otherHeld
  · intro other revert otherHeld
    rcases held_of_update otherHeld with ⟨rfl, new⟩ | ⟨different, otherHeld⟩
    · cases new
      have before := agrees.outcome other _ held
      simp only [server, Controller.withServer, Function.update_self] at before ⊢
      exact before
    · have elsewhere := agrees.key_ne apart task otherHeld different
      simp only [server, Controller.withServer, Function.update_of_ne elsewhere]
      exact agrees.outcome other revert otherHeld

/-- A revert that finishes has come to the outcome of executing its task now. -/
theorem finish (agrees : Agrees lib store state atomic)
    (apart : PodsApart atomic.inFlight atomic.manager) {boost : BoostRef} {ref : PodRef}
    {reverted : Reverted} (held : state.lock boost = some ⟨ref, .done reverted⟩) :
    Agrees lib store (state.finish lib boost ref reverted)
      (atomic.executeTask lib store.client (atomic.inFlight.tasks.idxOf (boost, ref))) := by
  have task := agrees.inFlight boost _ held
  have reverts := Manager.revertResourcesIn_of_outcome lib store (agrees.outcome boost _ held).symm
  rw [Controller.executeTask_idxOf lib store.client task, reverts]
  -- The pods of the reverts that go on are other pods, so nothing they see has changed.
  have others : ∀ other revert, other ≠ boost → state.lock other = some revert →
      (atomic.manager.memory.pods revert.ref).key ≠ (atomic.manager.memory.pods ref).key ∧
        ((atomic.manager.boosts boost).settleRevert lib ref reverted
          atomic.manager.memory).memory.pods revert.ref =
            atomic.manager.memory.pods revert.ref := by
    intro other revert different otherHeld
    have elsewhere := agrees.key_ne apart task otherHeld different
    refine ⟨elsewhere, ?_⟩
    rw [StartupCPUBoostImpl.settleRevert_pods, Function.update_of_ne]
    intro sameRef
    exact elsewhere (congrArg (fun ref => (atomic.manager.memory.pods ref).key) sameRef)
  refine ⟨?_, fun key unheld => ?_, ?_, ?_⟩
  · unfold ConcurrentTick.finish
    rw [agrees.controller]
    simp only [Controller.withServer, StartupCPUBoostImpl.settleRevert_withServer]
    rfl
  · rw [finish_server]
    by_cases same : key = (atomic.manager.memory.pods ref).key
    · subst same
      simp only [Manager.setBoost, Function.update_self]
    · simp only [Manager.setBoost, Function.update_of_ne same]
      apply agrees.untouched key
      intro other revert otherHeld
      by_cases own : other = boost
      · subst own
        cases held.symm.trans otherHeld
        exact Ne.symm same
      · have free := unheld other revert ((Function.update_of_ne own _ _).trans otherHeld)
        simpa only [Manager.setBoost, (others other revert own otherHeld).2] using free
  · intro other revert otherHeld
    rcases held_of_update otherHeld with ⟨-, free⟩ | ⟨different, otherHeld⟩
    · cases free
    · apply (List.mem_erase_of_ne _).mpr (agrees.inFlight other revert otherHeld)
      intro same
      exact different (congrArg Prod.fst same)
  · intro other revert otherHeld
    rcases held_of_update otherHeld with ⟨-, free⟩ | ⟨different, otherHeld⟩
    · cases free
    · obtain ⟨elsewhere, sameObject⟩ := others other revert different otherHeld
      simp only [finish_server, Manager.setBoost, sameObject, Function.update_of_ne different,
        Function.update_of_ne elsewhere]
      exact agrees.outcome other revert otherHeld

/-- Every step is matched by at most one event of a tick. -/
theorem step (agrees : Agrees lib store state atomic)
    (apart : PodsApart atomic.inFlight atomic.manager) (legacyRevertMode : Bool)
    (event : ConcurrentEvent) :
    ∃ events, (∀ event ∈ events, ControllerEvent.OfTick event) ∧
      Agrees lib store (state.step lib store event)
        (atomic.run lib store.client legacyRevertMode events) := by
  cases event with
  | check order =>
      rcases agrees.check order with unchanged | checked
      · exact ⟨[], by simp, unchanged⟩
      · exact ⟨[.checkBoost order], by simp [ControllerEvent.OfTick], checked⟩
  | start position => exact ⟨[], by simp, agrees.start apart position⟩
  | advance boost =>
      simp only [ConcurrentTick.step, ConcurrentTick.advance]
      cases held : state.lock boost with
      | none => exact ⟨[], by simp, agrees⟩
      | some revert =>
          obtain ⟨ref, program⟩ := revert
          cases program with
          | call request next => exact ⟨[], by simp, agrees.makeCall apart held⟩
          | done reverted =>
              exact ⟨[.executeTask _], by simp [ControllerEvent.OfTick], agrees.finish apart held⟩

end Agrees

variable (lib) in
theorem podsApart_run (client : PodClient σ) (legacyRevertMode : Bool)
    {events : List (ControllerEvent σ)} (ofTick : ∀ event ∈ events, event.OfTick)
    {state : Controller σ} (apart : PodsApart state.inFlight state.manager) :
    PodsApart (state.run lib client legacyRevertMode events).inFlight
      (state.run lib client legacyRevertMode events).manager := by
  induction events generalizing state with
  | nil => exact apart
  | cons event rest ih =>
      rw [List.forall_mem_cons] at ofTick
      apply ih ofTick.2
      cases event with
      | checkBoost order => exact apart.checkNextBoost order
      | executeTask position => exact apart.executeTask lib position
      | _ => cases ofTick.1

/-- Whatever the order of the workers' steps, an event of a tick at a time leads to
a state that agrees with the one they leave. -/
theorem run_agrees {state : ConcurrentTick τ} {atomic : Controller (PodKey → τ)}
    (agrees : Agrees lib store state atomic) (apart : PodsApart atomic.inFlight atomic.manager)
    (legacyRevertMode : Bool) (events : List ConcurrentEvent) :
    ∃ atomicEvents, (∀ event ∈ atomicEvents, ControllerEvent.OfTick event) ∧
      Agrees lib store (state.run lib store events)
        (atomic.run lib store.client legacyRevertMode atomicEvents) := by
  induction events generalizing state atomic with
  | nil => exact ⟨[], by simp, agrees⟩
  | cons event rest ih =>
      obtain ⟨first, firstOfTick, stepped⟩ := agrees.step apart legacyRevertMode event
      have stillApart := podsApart_run lib store.client legacyRevertMode firstOfTick apart
      obtain ⟨later, laterOfTick, finished⟩ := ih stepped stillApart
      refine ⟨first ++ later, ?_, ?_⟩
      · intro event member
        rcases List.mem_append.mp member with early | late
        · exact firstOfTick event early
        · exact laterOfTick event late
      · rw [Controller.run_append]
        exact finished

theorem Agrees.eq_of_quiet {state : ConcurrentTick τ} {atomic : Controller (PodKey → τ)}
    (agrees : Agrees lib store state atomic) (quiet : state.Quiet) :
    state.controller = atomic := by
  have sameServer : state.server = atomic.manager.memory.server := by
    funext key
    apply agrees.untouched key
    intro boost revert held
    cases (quiet boost).symm.trans held
  rw [agrees.controller, sameServer]
  rfl

section Completion

/-- Nothing of the tick is left to do. -/
structure Complete (state : ConcurrentTick τ) : Prop where
  quiet : state.Quiet
  checked : state.controller.inFlight.scanning = []
  executed : state.controller.inFlight.tasks = []

variable (lib store)

@[simp]
theorem run_append (first second : List ConcurrentEvent) (state : ConcurrentTick τ) :
    state.run lib store (first ++ second) = (state.run lib store first).run lib store second :=
  runEvents_append _ first second state

theorem exists_finish {state : ConcurrentTick τ} {boost : BoostRef} {ref : PodRef}
    {program : PodProgram Reverted} (held : state.lock boost = some ⟨ref, program⟩) :
    ∃ events, (state.run lib store events).lock = Function.update state.lock boost none ∧
      (state.run lib store events).controller.inFlight =
        { state.controller.inFlight with
          tasks := state.controller.inFlight.tasks.erase (boost, ref) } := by
  induction program generalizing state with
  | done reverted =>
      refine ⟨[.advance boost], ?_⟩
      simp only [run, runEvents, step, advance, held]
      exact ⟨rfl, rfl⟩
  | call request next ih =>
      let called := state.makeCall store boost ref request next
      obtain ⟨events, unlocked, erased⟩ := @ih _ called (Function.update_self _ _ _)
      refine ⟨.advance boost :: events, ?_⟩
      have stepped : state.run lib store (.advance boost :: events) =
          called.run lib store events := by
        simp only [run, runEvents, step, advance, held]
        rfl
      rw [stepped, unlocked, erased]
      exact ⟨Function.update_idem _ _ _, rfl⟩

theorem exists_start {state : ConcurrentTick τ} (runs : state.RunsTasks) {boost : BoostRef}
    {ref : PodRef} (task : (boost, ref) ∈ state.controller.inFlight.tasks) :
    ∃ events revert, (state.run lib store events).lock boost = some revert ∧
      (state.run lib store events).RunsTasks ∧
      (state.run lib store events).controller = state.controller := by
  cases free : state.lock boost with
  | some revert => exact ⟨[], revert, free, runs, rfl⟩
  | none =>
      have position := List.getElem?_idxOf task
      let begun := state.start lib (state.controller.inFlight.tasks.idxOf (boost, ref))
      let program := revertProgram lib (state.controller.manager.boosts boost).legacyRevertMode
        (state.controller.manager.memory.pods ref)
      have started : begun =
          { state with lock := Function.update state.lock boost (some ⟨ref, program⟩) } := by
        simp only [begun, start, position, free]
        rfl
      refine ⟨[.start (state.controller.inFlight.tasks.idxOf (boost, ref))], ⟨ref, program⟩, ?_⟩
      change begun.lock boost = _ ∧ begun.RunsTasks ∧ begun.controller = _
      rw [started]
      refine ⟨Function.update_self _ _ _, ?_, rfl⟩
      intro other revert held
      rcases held_of_update held with ⟨rfl, new⟩ | ⟨-, held⟩
      · cases new
        exact task
      · exact runs other revert held

theorem exists_drain {state : ConcurrentTick τ} (runs : state.RunsTasks) :
    ∃ events, (state.run lib store events).Quiet ∧
      (state.run lib store events).controller.inFlight =
        { state.controller.inFlight with tasks := [] } := by
  induction size : state.controller.inFlight.tasks.length generalizing state with
  | zero =>
      have noTask : state.controller.inFlight.tasks = [] := List.length_eq_zero_iff.mp size
      refine ⟨[], fun boost => ?_, ?_⟩
      · cases held : state.lock boost with
        | none => exact held
        | some revert =>
            have task := runs boost revert held
            rw [noTask] at task
            cases task
      · rw [← noTask]
        rfl
  | succ left ih =>
      obtain ⟨⟨boost, ref⟩, task⟩ : ∃ task, task ∈ state.controller.inFlight.tasks :=
        List.exists_mem_of_length_pos (by omega)
      obtain ⟨beginning, ⟨running, program⟩, held, begunRuns, sameController⟩ :=
        exists_start lib store runs task
      obtain ⟨ending, unlocked, erased⟩ := exists_finish lib store held
      have task := begunRuns boost _ held
      have finishedRuns : ((state.run lib store beginning).run lib store ending).RunsTasks := by
        intro other revert otherHeld
        rw [unlocked] at otherHeld
        rw [erased]
        rcases held_of_update otherHeld with ⟨-, free⟩ | ⟨different, otherHeld⟩
        · cases free
        · apply (List.mem_erase_of_ne _).mpr (begunRuns other revert otherHeld)
          intro same
          exact different (congrArg Prod.fst same)
      obtain ⟨later, quiet, drained⟩ := ih finishedRuns (by
        rw [erased, List.length_erase_of_mem task, sameController, size]
        rfl)
      refine ⟨beginning ++ (ending ++ later), ?_⟩
      rw [run_append, run_append, drained, erased, sameController]
      exact ⟨quiet, rfl⟩

/-- From every state of a tick some order of steps finishes it: the workers cannot
block each other. -/
theorem exists_complete {state : ConcurrentTick τ} (runs : state.RunsTasks) :
    ∃ events, (state.run lib store events).Complete := by
  induction size : state.controller.inFlight.scanning.length generalizing state with
  | zero =>
      obtain ⟨events, quiet, drained⟩ := exists_drain lib store runs
      refine ⟨events, quiet, ?_, ?_⟩
      · rw [drained]
        exact List.length_eq_zero_iff.mp size
      · rw [drained]
  | succ left ih =>
      obtain ⟨draining, quiet, drained⟩ := exists_drain lib store runs
      generalize reached : state.run lib store draining = after at quiet drained
      obtain ⟨boost, rest, scanning⟩ : ∃ boost rest,
          after.controller.inFlight.scanning = boost :: rest := by
        rw [drained]
        exact List.exists_cons_of_length_eq_add_one size
      have checks : after.check .arbitrary =
          { after with controller := after.controller.checkNextBoost .arbitrary } := by
        simp only [check, scanning, quiet boost]
      have scanned : (after.check .arbitrary).controller.inFlight.scanning.length = left := by
        have before : after.controller.inFlight.scanning.length = left + 1 := by
          rw [drained]
          exact size
        rw [scanning] at before
        simp only [checks, Controller.checkNextBoost, scanning]
        exact Nat.succ.inj before
      have checkedRuns : (after.check .arbitrary).RunsTasks := by
        intro other revert held
        rw [checks] at held
        cases (quiet other).symm.trans held
      obtain ⟨later, complete⟩ := ih checkedRuns scanned
      refine ⟨draining ++ .check .arbitrary :: later, ?_⟩
      rw [run_append, reached]
      exact complete

end Completion

variable (lib store) in
/-- If no two boosts hold the same pod, then a tick whose workers make their calls
in any order leaves, once no revert is in progress, exactly the state that
checking boosts and reverting pods one at a time leaves. -/
theorem run_linearizable (controller : Controller (PodKey → τ))
    (apart : PodsApart controller.inFlight controller.manager)
    (legacyRevertMode : Bool) (events : List ConcurrentEvent)
    (quiet : ((ofController controller).run lib store events).Quiet) :
    ∃ atomicEvents, (∀ event ∈ atomicEvents, ControllerEvent.OfTick event) ∧
      ((ofController controller).run lib store events).controller =
        controller.run lib store.client legacyRevertMode atomicEvents := by
  obtain ⟨atomicEvents, ofTick, agrees⟩ := run_agrees (Agrees.ofController controller) apart
    legacyRevertMode events
  exact ⟨atomicEvents, ofTick, agrees.eq_of_quiet quiet⟩

end ConcurrentTick

namespace Reference

/-- The reference server with the pods kept apart.  It lists nothing. -/
noncomputable def referenceStore : PodStore ApiServer where
  part := referenceClient
  list _ _ server := (.ok [], server)
  list_ns _ _ _ pods listed pod member := by
    cases listed
    cases member

/-- A boost for the pods with one value of the label `app`, named like the value. -/
def appBoost (value : String) : StartupCPUBoost :=
  { boostOf (appSelector value) forMinute with name := value }

def appImpl (value : String) : StartupCPUBoostImpl :=
  { implOf (appSelector value) forMinute with name := value }

noncomputable def scheduledAppPod (value : String) : Pod :=
  { scheduledPod "1" 0 with name := value, labels := (∅ : StringMap).insert "app" value }

noncomputable def withTracked (value : String) (stats : StartupCPUBoostStats) (metrics : Metrics)
    (manager : Manager (PodKey → ApiServer)) : Manager (PodKey → ApiServer) :=
  { manager with
    boosts := Function.update manager.boosts manager.nextBoost
      { appImpl value with
        pods := (∅ : GoMap String PodRef).insert value manager.memory.next
        stats }
    nextBoost := manager.nextBoost + 1
    timedBoosts := manager.timedBoosts.put value "default" manager.nextBoost
    regularBoosts := manager.regularBoosts.put value "default" manager.nextBoost
    memory :=
      { manager.memory with
        pods := Function.update manager.memory.pods manager.memory.next (scheduledAppPod value)
        delivered := Function.update manager.memory.delivered manager.memory.next
          (scheduledAppPod value)
        next := manager.memory.next + 1
        metrics } }

section Tracked

variable {value : String} {manager : Manager (PodKey → ApiServer)}
  (reached : Manager.Reachable referenceLibrary referenceStore.client manager)
  (hasClient : manager.hasClient = true)
  (noneOrphaned : manager.orphanedPods = .newNamespacedObjects)
  (unused : manager.regularBoosts.get value "default" = none)
  (wellFormed : (appSelector value).WellFormed referenceLibrary.validLabelKey
    referenceLibrary.validLabelValue)

include reached hasClient noneOrphaned unused wellFormed

private theorem reachable_registered : Manager.Reachable referenceLibrary referenceStore.client
    { Controller.registerNew (appImpl value) manager with
      timedBoosts := manager.timedBoosts.put value "default" manager.nextBoost } := by
  let created := Controller.registerNew (appImpl value) manager
  have built : newStartupCPUBoost referenceLibrary (appBoost value) false = .ok (appImpl value) :=
    newStartupCPUBoost_of_mapped referenceLibrary wellFormed rfl
  have createdBoost : created.boosts manager.nextBoost = appImpl value :=
    Controller.registerNew_boosts (appImpl value) manager
  have timed : ((appImpl value).durationPolicies.lookup fixedDurationPolicyName).isSome = true := by
    simp [appImpl, implOf, mapDurationPolicy, forMinute]
  have indexed : created.indexTimedBoost manager.nextBoost =
      { created with
        timedBoosts := manager.timedBoosts.put value "default" manager.nextBoost } := by
    simp only [Manager.indexTimedBoost, createdBoost, timed, if_true]
    rfl
  have processed : created.postProcessNewBoost referenceLibrary referenceStore.client 0 .arbitrary
      manager.nextBoost = created.indexTimedBoost manager.nextBoost := by
    refine Manager.postProcessNewBoost_of_none referenceLibrary referenceStore.client ?_ ?_ rfl
    · exact hasClient
    · rw [show created.orphanedPods = .newNamespacedObjects from noneOrphaned]
      rfl
  have stepped := Controller.step_createBoost_of_ok referenceLibrary referenceStore.client false
    .arbitrary ⟨manager, 0, {}⟩ built
  simp only [Controller.step, built] at stepped
  rw [show manager.regularBoosts.get (appBoost value).name (appBoost value).ns = none from
    unused] at stepped
  have added := (reached.newBoost built).addRegularCPUBoost (Nat.lt_succ_self _) 0 .arbitrary
  rw [← indexed, ← processed]
  have sameManager := congrArg Controller.manager stepped
  rwa [show ((manager.newBoost (appImpl value)).2.addRegularCPUBoost referenceLibrary
    referenceStore.client 0 .arbitrary manager.nextBoost).2 = _ from sameManager] at added

theorem reachable_withTracked
    (selected : (appImpl value).selectsPod (scheduledAppPod value) = true)
    (noOther : ∀ name boost, manager.regularBoosts.get name "default" = some boost →
      (manager.boosts boost).selectsPod (scheduledAppPod value) = false) :
    ∃ stats metrics, Manager.Reachable referenceLibrary referenceStore.client
      (withTracked value stats metrics manager) := by
  let registered : Manager (PodKey → ApiServer) :=
    { manager with
      boosts := Function.update manager.boosts manager.nextBoost (appImpl value)
      nextBoost := manager.nextBoost + 1
      timedBoosts := manager.timedBoosts.put value "default" manager.nextBoost
      regularBoosts := manager.regularBoosts.put value "default" manager.nextBoost
      memory :=
        { manager.memory with
          metrics := manager.memory.metrics.newBoostConfiguration "default" } }
  let delivered := (registered.newPod (scheduledAppPod value)).2
  have registeredReached : Manager.Reachable referenceLibrary referenceStore.client registered := by
    have registeredNew := reachable_registered reached hasClient noneOrphaned unused wellFormed
    rwa [Controller.registerNew_eq] at registeredNew
  have createdBoost : delivered.boosts manager.nextBoost = appImpl value := Function.update_self ..
  have get (name : String) : delivered.regularBoosts.get name "default" =
      if name = value ∧ "default" = "default" then some manager.nextBoost
      else manager.regularBoosts.get name "default" := NamespacedObjects.get_put ..
  have found : delivered.getMatchingBoost .arbitrary (scheduledAppPod value) =
      some manager.nextBoost := by
    cases matching : delivered.getMatchingBoost .arbitrary (scheduledAppPod value) with
    | none =>
        have unselected := Manager.getMatchingBoost_none matching
          ((get value).trans (if_pos ⟨rfl, rfl⟩))
        rw [createdBoost, selected] at unselected
        cases unselected
    | some boost =>
        obtain ⟨⟨name, present⟩, selects⟩ := Manager.getMatchingBoost_some matching
        rw [show (scheduledAppPod value).ns = "default" from rfl, get] at present
        by_cases own : name = value ∧ "default" = "default"
        · rw [if_pos own] at present
          rw [Option.some.inj present]
        · rw [if_neg own] at present
          have existing := (reached.wellFormed.regular _ _ _ present).2.2
          rw [show delivered.boosts boost = manager.boosts boost from
            Function.update_of_ne existing.ne _ _, noOther name boost present] at selects
          cases selects
  obtain ⟨stats, metrics, met, _⟩ := StartupCPUBoostImpl.upsertPod_eq referenceLibrary
    referenceStore.client 0 manager.memory.next (appImpl value) delivered.memory
  refine ⟨stats, metrics, ?_⟩
  have upserted := met (by
    intro policy present
    simp [appImpl, implOf, mapDurationPolicy, forMinute, podConditionPolicyName,
      fixedDurationPolicyName] at present)
  have deliveredPod : delivered.memory.pods manager.memory.next = scheduledAppPod value :=
    registered.newPod_self _
  have tracked : delivered.upsertPodIn referenceLibrary referenceStore.client 0 manager.nextBoost
      manager.memory.next = (.ok (), withTracked value stats metrics manager) := by
    have boosts : Function.update delivered.boosts manager.nextBoost
        { appImpl value with
          pods := (∅ : GoMap String PodRef).insert value manager.memory.next
          stats } = (withTracked value stats metrics manager).boosts :=
      Function.update_idem _ _ _
    unfold Manager.upsertPodIn
    rw [createdBoost, upserted, deliveredPod]
    exact congrArg (fun boosts => (Except.ok (),
      { withTracked value stats metrics manager with boosts })) boosts
  have reachedTracked := (registeredReached.newPod (scheduledAppPod value)).upsertPod
    (Nat.lt_succ_self manager.memory.next) 0 .arbitrary
  rw [show (registered.newPod (scheduledAppPod value)).2 = delivered from rfl, Manager.upsertPod,
    deliveredPod, found] at reachedTracked
  simp only [tracked, Manager.deleteOrphanedPod] at reachedTracked
  have stillNone : manager.orphanedPods.delete (scheduledAppPod value).name
      (scheduledAppPod value).ns = manager.orphanedPods := by
    rw [noneOrphaned]
    rfl
  rwa [show (withTracked value stats metrics manager).orphanedPods = manager.orphanedPods from rfl,
    stillNone] at reachedTracked

end Tracked

noncomputable def storeManager (server : PodKey → ApiServer) (stats stats' : StartupCPUBoostStats)
    (metrics metrics' : Metrics) : Manager (PodKey → ApiServer) :=
  withTracked "db" stats' metrics' (withTracked "web" stats metrics
    (Controller.newManager true server))

theorem reachable_storeManager (server : PodKey → ApiServer) :
    ∃ stats stats' metrics metrics', Manager.Reachable referenceLibrary referenceStore.client
      (storeManager server stats stats' metrics metrics') := by
  obtain ⟨stats, metrics, first⟩ := reachable_withTracked (.newManager true server) rfl rfl rfl
    wellFormed_appSelector (by decide +kernel) (by intro name boost present; cases present)
  have unused : (withTracked "web" stats metrics
      (Controller.newManager true server)).regularBoosts.get "db" "default" = none := by
    rw [withTracked, NamespacedObjects.get_put, if_neg (by decide)]
    rfl
  have noOther (name : String) (boost : BoostRef)
      (present : (withTracked "web" stats metrics
        (Controller.newManager true server)).regularBoosts.get name "default" = some boost) :
      ((withTracked "web" stats metrics (Controller.newManager true server)).boosts
        boost).selectsPod (scheduledAppPod "db") = false := by
    rw [withTracked, NamespacedObjects.get_put] at present
    by_cases isWeb : name = "web" ∧ "default" = "default"
    · rw [if_pos isWeb] at present
      cases present
      change (appSelector "web").selects (scheduledAppPod "db").labels = false
      decide +kernel
    · rw [if_neg isWeb] at present
      cases present
  obtain ⟨stats', metrics', second⟩ := reachable_withTracked first rfl rfl unused
    (by decide +kernel) (by decide +kernel) noOther
  exact ⟨stats, stats', metrics, metrics', second⟩

section Two

variable (server : PodKey → ApiServer) (stats stats' : StartupCPUBoostStats)
  (metrics metrics' : Metrics)

private theorem storeManager_registered {name ns : String} {boost : BoostRef}
    (registered : (storeManager server stats stats' metrics metrics').regularBoosts.get name ns =
      some boost) : boost = 0 ∨ boost = 1 := by
  simp only [storeManager, withTracked, NamespacedObjects.get_put] at registered
  by_cases isDb : name = "db" ∧ ns = "default"
  · rw [if_pos isDb] at registered
    exact .inr (Option.some.inj registered).symm
  · rw [if_neg isDb] at registered
    by_cases isWeb : name = "web" ∧ ns = "default"
    · rw [if_pos isWeb] at registered
      exact .inl (Option.some.inj registered).symm
    · rw [if_neg isWeb] at registered
      cases registered

private theorem storeManager_holds {inFlight : InFlight}
    (scanning : ∀ boost ∈ inFlight.scanning, boost = 0 ∨ boost = 1)
    (tasks : ∀ boost ref, (boost, ref) ∈ inFlight.tasks →
      boost = 0 ∧ ref = 0 ∨ boost = 1 ∧ ref = 1) {boost : BoostRef} {ref : PodRef}
    (holds : Holds inFlight (storeManager server stats stats' metrics metrics') boost ref) :
    boost = 0 ∧ ref = 0 ∨ boost = 1 ∧ ref = 1 := by
  have ofTracked (tracked : ∃ podName, ((storeManager server stats stats' metrics metrics').boosts
      boost).pods.lookup podName = some ref) (isBoost : boost = 0 ∨ boost = 1) :
      boost = 0 ∧ ref = 0 ∨ boost = 1 ∧ ref = 1 := by
    obtain ⟨podName, tracked⟩ := tracked
    rcases isBoost with rfl | rfl
    · change ((∅ : GoMap String PodRef).insert "web" 0).lookup podName = some ref at tracked
      rw [GoMap.lookup_insert] at tracked
      split at tracked
      · exact .inl ⟨rfl, (Option.some.inj tracked).symm⟩
      · cases tracked
    · change ((∅ : GoMap String PodRef).insert "db" 1).lookup podName = some ref at tracked
      rw [GoMap.lookup_insert] at tracked
      split at tracked
      · exact .inr ⟨rfl, (Option.some.inj tracked).symm⟩
      · cases tracked
  rcases holds with ⟨⟨name, ns, registered⟩ | scanned, tracked⟩ | task
  · exact ofTracked tracked
      (storeManager_registered server stats stats' metrics metrics' registered)
  · exact ofTracked tracked (scanning boost scanned)
  · exact tasks boost ref task

theorem podsApart_storeManager {inFlight : InFlight}
    (scanning : ∀ boost ∈ inFlight.scanning, boost = 0 ∨ boost = 1)
    (tasks : ∀ boost ref, (boost, ref) ∈ inFlight.tasks →
      boost = 0 ∧ ref = 0 ∨ boost = 1 ∧ ref = 1) :
    PodsApart inFlight (storeManager server stats stats' metrics metrics') := by
  have different : (scheduledAppPod "web").key ≠ (scheduledAppPod "db").key := by decide +kernel
  intro boost other ref otherRef holds otherHolds sameKey
  have isPod := storeManager_holds server stats stats' metrics metrics' scanning tasks holds
  have isOther := storeManager_holds server stats stats' metrics metrics' scanning tasks otherHolds
  rcases isPod with ⟨rfl, rfl⟩ | ⟨rfl, rfl⟩ <;> rcases isOther with ⟨rfl, rfl⟩ | ⟨rfl, rfl⟩
  · rfl
  · exact absurd sameKey different
  · exact absurd sameKey.symm different
  · rfl

end Two

/-- A controller with a task in flight for each of the two pods. -/
noncomputable def taskController : Controller (PodKey → ApiServer) where
  manager := storeManager (fun key => serverWith { scheduledAppPod key.2 with ns := key.1 })
    {} {} {} {}
  now := tickTime
  inFlight := { tasks := [(0, 0), (1, 1)] }

/-- Both reverts are begun before either makes its first call. -/
theorem run_linearizable_twoPods :
    ∃ more,
      let begun := (ConcurrentTick.ofController taskController).run referenceLibrary referenceStore
        [.start 0, .start 1]
      let final := (ConcurrentTick.ofController taskController).run referenceLibrary referenceStore
        ([.start 0, .start 1] ++ more)
      (begun.lock 0).isSome ∧ (begun.lock 1).isSome ∧ final.Complete ∧
      ∃ atomicEvents, (∀ event ∈ atomicEvents, ControllerEvent.OfTick event) ∧
        final.controller =
          taskController.run referenceLibrary referenceStore.client false atomicEvents := by
  have apart : PodsApart taskController.inFlight taskController.manager := by
    apply podsApart_storeManager
    · intro boost scanned
      cases scanned
    · intro boost ref task
      rcases List.mem_pair.mp task with isFirst | isSecond
      · cases isFirst
        exact .inl ⟨rfl, rfl⟩
      · cases isSecond
        exact .inr ⟨rfl, rfl⟩
  have agreesAtStart : ConcurrentTick.Agrees referenceLibrary referenceStore
    (ConcurrentTick.ofController taskController) taskController := .ofController taskController
  obtain ⟨_, -, agrees⟩ := ConcurrentTick.run_agrees agreesAtStart apart false [.start 0, .start 1]
  obtain ⟨more, complete⟩ :=
    ConcurrentTick.exists_complete referenceLibrary referenceStore agrees.runsTasks
  rw [← ConcurrentTick.run_append] at complete
  refine ⟨more, rfl, rfl, complete, ?_⟩
  exact ConcurrentTick.run_linearizable referenceLibrary referenceStore taskController apart false _
    complete.quiet

end Reference

end KubeStartupCPUBoost
