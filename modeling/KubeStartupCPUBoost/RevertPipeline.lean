import KubeStartupCPUBoost.BoundedChannel
import KubeStartupCPUBoost.FiniteMapRange
import Mathlib.Algebra.GroupWithZero.Nat

/-!
# The revert pipeline of a tick

The goroutines of one tick: a producer sends the revert tasks, workers revert
the pods and send a reconcile request or an error for each, a spawner starts
the workers and closes the channels when all of them have finished, a drain
logs the errors, and the collector gathers the distinct requests and passes
them on.  They communicate over three channels of the same capacity as there
are workers.

A step lets one goroutine go on, so a run is any schedule.  `Coherent` holds in
every reachable state.  It accounts for every task and every request, and it
says which channels are open at which point of the spawner.
-/

namespace KubeStartupCPUBoost

/-- The namespace and name of a boost to reconcile. -/
structure ReconcileRequest where
  ns : String
  name : String
deriving DecidableEq

/-- A pod to revert for a boost, with what reverting it returns. -/
structure PodRevertTask where
  boost : ReconcileRequest
  podNs : String
  podName : String
  result : Except String Unit

inductive Producer where
  | sending (tasks : List PodRevertTask)
  | finished

inductive Worker where
  | receiving
  | reverting (task : PodRevertTask)
  | sendingError (message : String)
  | sendingRequest (request : ReconcileRequest)
  | finished

/-- The goroutine that starts the workers and waits for them; with no worker
left to start it waits. -/
inductive Spawner where
  | spawning (left : Nat)
  | closingReconcileTasks
  | closingErrors
  | finished

/-- The main goroutine: it has finished when nothing is left to pass on. -/
inductive Collector where
  | collecting (requests : Finset ReconcileRequest)
  | passing (passed left : List ReconcileRequest)

/-- The state of a tick.  `handed` is the history of the tasks given to
`RevertResources`. -/
structure Pipeline (maxGoroutines : Nat) where
  producer : Producer
  revertTasks : Channel PodRevertTask maxGoroutines
  reconcileTasks : Channel ReconcileRequest maxGoroutines
  errors : Channel String maxGoroutines
  spawner : Spawner
  workers : List Worker
  draining : Bool
  collector : Collector
  handed : List PodRevertTask

/-- The goroutine that goes on next; the collector may range over a map. -/
inductive Goroutine where
  | producer
  | spawner
  | worker (index : Nat)
  | drain
  | collector (order : RangeOrder ReconcileRequest)

def Worker.isFinished : Worker → Bool
  | finished => true
  | _ => false

/-- The task a worker has taken and not reverted yet. -/
def Worker.held : Worker → Option PodRevertTask
  | reverting task => some task
  | _ => none

/-- The request a worker is about to send. -/
def Worker.request : Worker → Option ReconcileRequest
  | sendingRequest request => some request
  | _ => none

def Producer.pending : Producer → List PodRevertTask
  | sending tasks => tasks
  | finished => []

def Collector.requests : Collector → Finset ReconcileRequest
  | collecting requests => requests
  | passing passed left => (passed ++ left).toFinset

namespace Pipeline

variable {maxGoroutines : Nat}

def start (maxGoroutines : Nat) (tasks : List PodRevertTask) : Pipeline maxGoroutines where
  producer := .sending tasks
  revertTasks := .make
  reconcileTasks := .make
  errors := .make
  spawner := .spawning maxGoroutines
  workers := []
  draining := true
  collector := .collecting ∅
  handed := []

def stepProducer (state : Pipeline maxGoroutines) : ChannelOutcome (Pipeline maxGoroutines) :=
  match state.producer with
  | .sending (task :: rest) =>
      (state.revertTasks.send task).map fun revertTasks =>
        { state with producer := .sending rest, revertTasks }
  | .sending [] =>
      state.revertTasks.close.map fun revertTasks =>
        { state with producer := .finished, revertTasks }
  | .finished => .blocks

def stepSpawner (state : Pipeline maxGoroutines) : ChannelOutcome (Pipeline maxGoroutines) :=
  match state.spawner with
  | .spawning (left + 1) =>
      .returns
        { state with spawner := .spawning left, workers := state.workers ++ [.receiving] }
  | .spawning 0 =>
      if state.workers.all Worker.isFinished then
        .returns { state with spawner := .closingReconcileTasks }
      else .blocks
  | .closingReconcileTasks =>
      state.reconcileTasks.close.map fun reconcileTasks =>
        { state with spawner := .closingErrors, reconcileTasks }
  | .closingErrors =>
      state.errors.close.map fun errors => { state with spawner := .finished, errors }
  | .finished => .blocks

/-- One step of a worker, with the workers as it leaves them. -/
def stepWorker (index : Nat) (state : Pipeline maxGoroutines) :
    ChannelOutcome (Pipeline maxGoroutines) :=
  let become (worker : Worker) : List Worker := state.workers.set index worker
  match state.workers[index]? with
  | none => .blocks
  | some .receiving =>
      state.revertTasks.receive.map fun
        | (none, _) => { state with workers := become .finished }
        | (some task, revertTasks) =>
            { state with workers := become (.reverting task), revertTasks }
  | some (.reverting task) =>
      let handed := state.handed ++ [task]
      match task.result with
      | .error message =>
          .returns
            { state with
              handed
              workers := become (.sendingError
                ("pod " ++ task.podNs ++ "/" ++ task.podName ++ ": " ++ message)) }
      | .ok () => .returns { state with handed, workers := become (.sendingRequest task.boost) }
  | some (.sendingError message) =>
      (state.errors.send message).map fun errors =>
        { state with workers := become .receiving, errors }
  | some (.sendingRequest request) =>
      (state.reconcileTasks.send request).map fun reconcileTasks =>
        { state with workers := become .receiving, reconcileTasks }
  | some .finished => .blocks

def stepDrain (state : Pipeline maxGoroutines) : ChannelOutcome (Pipeline maxGoroutines) :=
  if state.draining then
    state.errors.receive.map fun
      | (none, _) => { state with draining := false }
      | (some _, errors) => { state with errors }
  else .blocks

/-- `dedupeReconcileRequests`, and the loop that passes its result on. -/
def stepCollector (order : RangeOrder ReconcileRequest) (state : Pipeline maxGoroutines) :
    ChannelOutcome (Pipeline maxGoroutines) :=
  match state.collector with
  | .collecting requests =>
      state.reconcileTasks.receive.map fun
        | (none, _) => { state with collector := .passing [] (order.list requests) }
        | (some request, reconcileTasks) =>
            { state with collector := .collecting (insert request requests), reconcileTasks }
  | .passing passed (request :: left) =>
      .returns { state with collector := .passing (passed ++ [request]) left }
  | .passing _ [] => .blocks

def step (goroutine : Goroutine) (state : Pipeline maxGoroutines) :
    ChannelOutcome (Pipeline maxGoroutines) :=
  match goroutine with
  | .producer => state.stepProducer
  | .spawner => state.stepSpawner
  | .worker index => state.stepWorker index
  | .drain => state.stepDrain
  | .collector order => state.stepCollector order

/-- The states some schedule leads to. -/
inductive Reachable (tasks : List PodRevertTask) : Pipeline maxGoroutines → Prop
  | start : Reachable tasks (start maxGoroutines tasks)
  | step {goroutine : Goroutine} {before after : Pipeline maxGoroutines} :
      Reachable tasks before → before.step goroutine = .returns after → Reachable tasks after

def passedRequests (state : Pipeline maxGoroutines) : Option (List ReconcileRequest) :=
  match state.collector with
  | .passing passed [] => some passed
  | _ => none

variable {state after : Pipeline maxGoroutines}

/-- What a step of each goroutine can do. -/
inductive Stepped (state : Pipeline maxGoroutines) : Goroutine → Pipeline maxGoroutines → Prop
  | sendTask {task : PodRevertTask} {rest : List PodRevertTask}
      {revertTasks : Channel PodRevertTask maxGoroutines}
      (producing : state.producer = .sending (task :: rest))
      (sent : state.revertTasks.send task = .returns revertTasks) :
      Stepped state .producer { state with producer := .sending rest, revertTasks }
  | closeTasks {revertTasks : Channel PodRevertTask maxGoroutines}
      (producing : state.producer = .sending [])
      (closes : state.revertTasks.close = .returns revertTasks) :
      Stepped state .producer { state with producer := .finished, revertTasks }
  | startWorker {left : Nat} (spawning : state.spawner = .spawning (left + 1)) :
      Stepped state .spawner
        { state with spawner := .spawning left, workers := state.workers ++ [.receiving] }
  | waitedForWorkers (spawning : state.spawner = .spawning 0)
      (allFinished : state.workers.all Worker.isFinished = true) :
      Stepped state .spawner { state with spawner := .closingReconcileTasks }
  | closeReconcileTasks {reconcileTasks : Channel ReconcileRequest maxGoroutines}
      (closing : state.spawner = .closingReconcileTasks)
      (closes : state.reconcileTasks.close = .returns reconcileTasks) :
      Stepped state .spawner { state with spawner := .closingErrors, reconcileTasks }
  | closeErrors {errors : Channel String maxGoroutines}
      (closing : state.spawner = .closingErrors)
      (closes : state.errors.close = .returns errors) :
      Stepped state .spawner { state with spawner := .finished, errors }
  | takeTask {index : Nat} {task : PodRevertTask}
      {revertTasks : Channel PodRevertTask maxGoroutines}
      (found : state.workers[index]? = some .receiving)
      (received : state.revertTasks.receive = .returns (some task, revertTasks)) :
      Stepped state (.worker index)
        { state with workers := state.workers.set index (.reverting task), revertTasks }
  | finishWorker {index : Nat} {revertTasks : Channel PodRevertTask maxGoroutines}
      (found : state.workers[index]? = some .receiving)
      (received : state.revertTasks.receive = .returns (none, revertTasks)) :
      Stepped state (.worker index) { state with workers := state.workers.set index .finished }
  | failRevert {index : Nat} {task : PodRevertTask} {message : String}
      (found : state.workers[index]? = some (.reverting task))
      (failed : task.result = .error message) :
      Stepped state (.worker index)
        { state with
          handed := state.handed ++ [task]
          workers := state.workers.set index (.sendingError
            ("pod " ++ task.podNs ++ "/" ++ task.podName ++ ": " ++ message)) }
  | succeedRevert {index : Nat} {task : PodRevertTask}
      (found : state.workers[index]? = some (.reverting task))
      (succeeded : task.result = .ok ()) :
      Stepped state (.worker index)
        { state with
          handed := state.handed ++ [task]
          workers := state.workers.set index (.sendingRequest task.boost) }
  | sendError {index : Nat} {message : String} {errors : Channel String maxGoroutines}
      (found : state.workers[index]? = some (.sendingError message))
      (sent : state.errors.send message = .returns errors) :
      Stepped state (.worker index)
        { state with workers := state.workers.set index .receiving, errors }
  | sendRequest {index : Nat} {request : ReconcileRequest}
      {reconcileTasks : Channel ReconcileRequest maxGoroutines}
      (found : state.workers[index]? = some (.sendingRequest request))
      (sent : state.reconcileTasks.send request = .returns reconcileTasks) :
      Stepped state (.worker index)
        { state with workers := state.workers.set index .receiving, reconcileTasks }
  | logError {message : String} {errors : Channel String maxGoroutines}
      (received : state.errors.receive = .returns (some message, errors)) :
      Stepped state .drain { state with errors }
  | finishDrain {errors : Channel String maxGoroutines} (draining : state.draining = true)
      (received : state.errors.receive = .returns (none, errors)) :
      Stepped state .drain { state with draining := false }
  | collect {order : RangeOrder ReconcileRequest} {requests : Finset ReconcileRequest}
      {request : ReconcileRequest} {reconcileTasks : Channel ReconcileRequest maxGoroutines}
      (collecting : state.collector = .collecting requests)
      (received : state.reconcileTasks.receive = .returns (some request, reconcileTasks)) :
      Stepped state (.collector order)
        { state with collector := .collecting (insert request requests), reconcileTasks }
  | finishCollecting {order : RangeOrder ReconcileRequest} {requests : Finset ReconcileRequest}
      {reconcileTasks : Channel ReconcileRequest maxGoroutines}
      (collecting : state.collector = .collecting requests)
      (received : state.reconcileTasks.receive = .returns (none, reconcileTasks)) :
      Stepped state (.collector order)
        { state with collector := .passing [] (order.list requests) }
  | pass {order : RangeOrder ReconcileRequest} {passed left : List ReconcileRequest}
      {request : ReconcileRequest} (passing : state.collector = .passing passed (request :: left)) :
      Stepped state (.collector order)
        { state with collector := .passing (passed ++ [request]) left }

namespace Stepped

private theorem of_stepProducer (stepped : state.stepProducer = .returns after) :
    Stepped state .producer after := by
  unfold stepProducer at stepped
  cases producing : state.producer with
  | sending pending =>
      cases pending with
      | nil =>
          simp only [producing] at stepped
          obtain ⟨revertTasks, closes, rfl⟩ := ChannelOutcome.map_eq_returns.mp stepped
          exact .closeTasks producing closes
      | cons task rest =>
          simp only [producing] at stepped
          obtain ⟨revertTasks, sent, rfl⟩ := ChannelOutcome.map_eq_returns.mp stepped
          exact .sendTask producing sent
  | finished => simp [producing] at stepped

private theorem of_stepSpawner (stepped : state.stepSpawner = .returns after) :
    Stepped state .spawner after := by
  unfold stepSpawner at stepped
  cases spawner : state.spawner with
  | spawning left =>
      cases left with
      | zero =>
          simp only [spawner] at stepped
          by_cases allFinished : state.workers.all Worker.isFinished = true
          · rw [if_pos allFinished] at stepped
            cases stepped
            exact .waitedForWorkers spawner allFinished
          · rw [if_neg allFinished] at stepped
            cases stepped
      | succ left =>
          simp only [spawner] at stepped
          cases stepped
          exact .startWorker spawner
  | closingReconcileTasks =>
      simp only [spawner] at stepped
      obtain ⟨reconcileTasks, closes, rfl⟩ := ChannelOutcome.map_eq_returns.mp stepped
      exact .closeReconcileTasks spawner closes
  | closingErrors =>
      simp only [spawner] at stepped
      obtain ⟨errors, closes, rfl⟩ := ChannelOutcome.map_eq_returns.mp stepped
      exact .closeErrors spawner closes
  | finished => simp [spawner] at stepped

private theorem of_stepWorker {index : Nat} (stepped : state.stepWorker index = .returns after) :
    Stepped state (.worker index) after := by
  unfold stepWorker at stepped
  cases found : state.workers[index]? with
  | none => simp [found] at stepped
  | some worker =>
      cases worker with
      | receiving =>
          simp only [found] at stepped
          obtain ⟨⟨received, revertTasks⟩, receives, rfl⟩ :=
            ChannelOutcome.map_eq_returns.mp stepped
          cases received with
          | none => exact .finishWorker found receives
          | some task => exact .takeTask found receives
      | reverting task =>
          cases result : task.result with
          | error message =>
              simp only [found, result] at stepped
              cases stepped
              exact .failRevert found result
          | ok =>
              simp only [found, result] at stepped
              cases stepped
              exact .succeedRevert found result
      | sendingError message =>
          simp only [found] at stepped
          obtain ⟨errors, sent, rfl⟩ := ChannelOutcome.map_eq_returns.mp stepped
          exact .sendError found sent
      | sendingRequest request =>
          simp only [found] at stepped
          obtain ⟨reconcileTasks, sent, rfl⟩ := ChannelOutcome.map_eq_returns.mp stepped
          exact .sendRequest found sent
      | finished => simp [found] at stepped

private theorem of_stepDrain (stepped : state.stepDrain = .returns after) :
    Stepped state .drain after := by
  unfold stepDrain at stepped
  by_cases draining : state.draining = true
  · rw [if_pos draining] at stepped
    obtain ⟨⟨received, errors⟩, receives, rfl⟩ := ChannelOutcome.map_eq_returns.mp stepped
    cases received with
    | none => exact .finishDrain draining receives
    | some message => exact .logError receives
  · rw [if_neg draining] at stepped
    cases stepped

private theorem of_stepCollector {order : RangeOrder ReconcileRequest}
    (stepped : state.stepCollector order = .returns after) :
    Stepped state (.collector order) after := by
  unfold stepCollector at stepped
  cases collector : state.collector with
  | collecting requests =>
      simp only [collector] at stepped
      obtain ⟨⟨received, reconcileTasks⟩, receives, rfl⟩ :=
        ChannelOutcome.map_eq_returns.mp stepped
      cases received with
      | none => exact .finishCollecting collector receives
      | some request => exact .collect collector receives
  | passing passed left =>
      cases left with
      | nil => simp [collector] at stepped
      | cons request left =>
          simp only [collector] at stepped
          cases stepped
          exact .pass collector

theorem of_step {goroutine : Goroutine} (stepped : state.step goroutine = .returns after) :
    Stepped state goroutine after := by
  cases goroutine with
  | producer => exact of_stepProducer stepped
  | spawner => exact of_stepSpawner stepped
  | worker index => exact of_stepWorker stepped
  | drain => exact of_stepDrain stepped
  | collector order => exact of_stepCollector stepped

end Stepped

end Pipeline

/-- The list around one of its elements, which `set` replaces. -/
theorem exists_around {α : Type} {values : List α} {index : Nat} {old : α}
    (found : values[index]? = some old) :
    ∃ before after, values = before ++ old :: after ∧
      ∀ new, (before ++ old :: after).set index new = before ++ new :: after := by
  induction values generalizing index with
  | nil => cases found
  | cons value values ih =>
      cases index with
      | zero =>
          obtain rfl : value = old := Option.some.inj found
          exact ⟨[], values, rfl, fun _ => rfl⟩
      | succ index =>
          obtain ⟨before, after, rfl, replaced⟩ := ih found
          refine ⟨value :: before, after, rfl, fun new => ?_⟩
          rw [List.cons_append, List.set_cons_succ, replaced]
          rfl

theorem filterMap_set {α β : Type} (share : α → Option β) {values : List α} {index : Nat}
    {old : α} (found : values[index]? = some old) (new : α) (same : share new = share old) :
    (values.set index new).filterMap share = values.filterMap share := by
  obtain ⟨before, after, rfl, replaced⟩ := exists_around found
  simp only [replaced, List.filterMap_append, List.filterMap_cons, same]

theorem exists_mem_append_singleton {α : Type} {P : α → Prop} {values : List α} {last : α} :
    (∃ value ∈ values ++ [last], P value) ↔ (∃ value ∈ values, P value) ∨ P last := by
  simp only [List.mem_append, List.mem_singleton, or_and_right, exists_or, exists_eq_left]

namespace Pipeline

variable {maxGoroutines : Nat} {tasks : List PodRevertTask} {state after : Pipeline maxGoroutines}

/-- The tasks, wherever they are: reverted, held by a worker, in the channel
or still to be sent. -/
def accountedTasks (state : Pipeline maxGoroutines) : Multiset PodRevertTask :=
  ↑state.handed + ↑(state.workers.filterMap Worker.held) + ↑state.revertTasks.buffer +
    ↑state.producer.pending

/-- What holds in every reachable state. -/
structure Coherent (tasks : List PodRevertTask) (state : Pipeline maxGoroutines) : Prop where
  accounted : state.accountedTasks = ↑tasks
  requests : ∀ request,
    (∃ task ∈ state.handed, task.result = .ok () ∧ task.boost = request) ↔
      request ∈ state.collector.requests ∨ request ∈ state.reconcileTasks.buffer ∨
        request ∈ state.workers.filterMap Worker.request
  revertTasks : state.revertTasks.closed = true ↔ state.producer = .finished
  finishedWorkers : Worker.finished ∈ state.workers →
    state.revertTasks.closed = true ∧ state.revertTasks.buffer = []
  spawning : ∀ left, state.spawner = .spawning left →
    state.workers.length + left = maxGoroutines
  waited : (∀ left, state.spawner ≠ .spawning left) →
    state.workers.length = maxGoroutines ∧ ∀ worker ∈ state.workers, worker = .finished
  reconcileTasks : state.reconcileTasks.closed = true ↔
    state.spawner = .closingErrors ∨ state.spawner = .finished
  errors : state.errors.closed = true ↔ state.spawner = .finished
  draining : state.draining = false → state.errors.closed = true
  passing : ∀ passed left, state.collector = .passing passed left →
    state.reconcileTasks.closed = true ∧ state.reconcileTasks.buffer = [] ∧
      (passed ++ left).Nodup

namespace Coherent

theorem start (maxGoroutines : Nat) (tasks : List PodRevertTask) :
    Coherent tasks (Pipeline.start maxGoroutines tasks) where
  accounted := by simp [accountedTasks, Pipeline.start, Channel.make, Producer.pending]
  requests := by simp [Pipeline.start, Channel.make, Collector.requests]
  revertTasks := by simp [Pipeline.start, Channel.make]
  finishedWorkers := by simp [Pipeline.start]
  spawning left same := by
    cases same
    simp [Pipeline.start]
  waited other := absurd rfl (other maxGoroutines)
  reconcileTasks := by simp [Pipeline.start, Channel.make]
  errors := by simp [Pipeline.start, Channel.make]
  draining := by simp [Pipeline.start]
  passing := by simp [Pipeline.start]

/-- While a worker has not finished, the spawner waits. -/
theorem exists_spawning (coherent : Coherent tasks state) {worker : Worker}
    (member : worker ∈ state.workers) (active : worker ≠ .finished) :
    ∃ left, state.spawner = .spawning left := by
  by_contra noneLeft
  push Not at noneLeft
  exact active ((coherent.waited noneLeft).2 worker member)

theorem reconcileTasks_open (coherent : Coherent tasks state) {left : Nat}
    (spawning : state.spawner = .spawning left) : state.reconcileTasks.closed = false := by
  rw [Bool.eq_false_iff]
  intro closed
  rcases coherent.reconcileTasks.mp closed with other | other <;> rw [spawning] at other <;>
    cases other

theorem errors_open (coherent : Coherent tasks state) (notFinished : state.spawner ≠ .finished) :
    state.errors.closed = false :=
  Bool.eq_false_iff.mpr fun closed => notFinished (coherent.errors.mp closed)

theorem stepProducer (coherent : Coherent tasks state)
    (stepped : Stepped state .producer after) : Coherent tasks after := by
  have accounted := coherent.accounted
  cases stepped with
  | sendTask producing sent =>
      obtain ⟨isOpen, stillOpen, buffer⟩ := Channel.send_returns sent
      refine { coherent with accounted := ?_, revertTasks := ?_, finishedWorkers := ?_ }
      · rw [← accounted]
        simp only [accountedTasks, producing, Producer.pending, buffer, ← Multiset.coe_add,
          ← Multiset.cons_coe, Multiset.add_cons, Multiset.coe_nil, add_zero, Multiset.cons_add]
      · simp [stillOpen]
      · intro member
        have closed := (coherent.finishedWorkers member).1
        rw [isOpen] at closed
        cases closed
  | closeTasks producing closes =>
      obtain ⟨isOpen, nowClosed, buffer⟩ := Channel.close_returns closes
      refine { coherent with accounted := ?_, revertTasks := ?_, finishedWorkers := ?_ }
      · rw [← accounted]
        simp only [accountedTasks, producing, Producer.pending, buffer]
      · simp [nowClosed]
      · intro member
        exact ⟨nowClosed, buffer.trans (coherent.finishedWorkers member).2⟩

theorem stepSpawner (coherent : Coherent tasks state)
    (stepped : Stepped state .spawner after) : Coherent tasks after := by
  cases stepped with
  | startWorker spawning =>
      have count := coherent.spawning _ spawning
      refine { coherent with
        accounted := ?_, requests := ?_, finishedWorkers := ?_, spawning := ?_, waited := ?_
        reconcileTasks := ?_, errors := ?_ }
      · have noneHeld : [Worker.receiving].filterMap Worker.held = [] := rfl
        rw [← coherent.accounted]
        simp only [accountedTasks, List.filterMap_append, noneHeld, List.append_nil]
      · intro request
        rw [coherent.requests request]
        simp [Worker.request]
      · intro member
        rcases List.mem_append.mp member with before | new
        · exact coherent.finishedWorkers before
        · cases List.mem_singleton.mp new
      · intro other same
        cases same
        rw [List.length_append, List.length_singleton]
        omega
      · exact fun other => absurd rfl (other _)
      · rw [coherent.reconcileTasks, spawning]
        simp
      · rw [coherent.errors, spawning]
        simp
  | waitedForWorkers spawning allFinished =>
      have finished : ∀ worker ∈ state.workers, worker = .finished := by
        intro worker member
        have isFinished := List.all_eq_true.mp allFinished worker member
        cases worker <;> first | rfl | cases isFinished
      refine { coherent with spawning := nofun, waited := ?_, reconcileTasks := ?_, errors := ?_ }
      · exact fun _ => ⟨coherent.spawning 0 spawning, finished⟩
      · rw [coherent.reconcileTasks, spawning]
        simp
      · rw [coherent.errors, spawning]
        simp
  | closeReconcileTasks closing closes =>
      obtain ⟨isOpen, nowClosed, buffer⟩ := Channel.close_returns closes
      have waited := coherent.waited (by rw [closing]; nofun)
      refine { coherent with
        requests := ?_, spawning := nofun, waited := fun _ => waited, reconcileTasks := ?_
        errors := ?_, passing := ?_ }
      · intro request
        rw [coherent.requests request, buffer]
      · simp [nowClosed]
      · rw [coherent.errors, closing]
        simp
      · intro passed left passing
        have closed := (coherent.passing passed left passing).1
        rw [isOpen] at closed
        cases closed
  | closeErrors closing closes =>
      obtain ⟨isOpen, nowClosed, _⟩ := Channel.close_returns closes
      have waited := coherent.waited (by rw [closing]; nofun)
      refine { coherent with
        spawning := nofun, waited := fun _ => waited, reconcileTasks := ?_, errors := ?_
        draining := fun _ => nowClosed }
      · rw [coherent.reconcileTasks, closing]
        simp
      · simp [nowClosed]

/-- A worker goes on: what is left to show is where the tasks and the requests
are. -/
theorem replaceWorker (coherent : Coherent tasks state) {index : Nat} {old new : Worker}
    {handed : List PodRevertTask} {revertTasks : Channel PodRevertTask maxGoroutines}
    {reconcileTasks : Channel ReconcileRequest maxGoroutines}
    {errors : Channel String maxGoroutines} (found : state.workers[index]? = some old)
    (active : old ≠ .finished) (sameRevertTasks : revertTasks.closed = state.revertTasks.closed)
    (sameReconcileTasks : reconcileTasks.closed = state.reconcileTasks.closed)
    (sameErrors : errors.closed = state.errors.closed)
    (emptied : state.revertTasks.buffer = [] → revertTasks.buffer = [])
    (finished : new = .finished → revertTasks.closed = true ∧ revertTasks.buffer = [])
    (accounted : accountedTasks
      { state with workers := state.workers.set index new, handed, revertTasks,
                   reconcileTasks, errors } = state.accountedTasks)
    (requests : ∀ request,
      (∃ task ∈ handed, task.result = .ok () ∧ task.boost = request) ↔
        request ∈ state.collector.requests ∨ request ∈ reconcileTasks.buffer ∨
          request ∈ (state.workers.set index new).filterMap Worker.request) :
    Coherent tasks
      { state with workers := state.workers.set index new, handed, revertTasks,
                   reconcileTasks, errors } := by
  obtain ⟨left, spawning⟩ := coherent.exists_spawning (List.mem_of_getElem? found) active
  exact {
    accounted := accounted.trans coherent.accounted
    requests := requests
    revertTasks := by
      rw [sameRevertTasks]
      exact coherent.revertTasks
    finishedWorkers := by
      intro member
      rcases List.mem_or_eq_of_mem_set member with before | same
      · obtain ⟨closed, empty⟩ := coherent.finishedWorkers before
        exact ⟨sameRevertTasks.trans closed, emptied empty⟩
      · exact finished same.symm
    spawning := by
      intro other same
      rw [List.length_set]
      exact coherent.spawning other same
    waited := fun other => absurd spawning (other left)
    reconcileTasks := by
      rw [sameReconcileTasks]
      exact coherent.reconcileTasks
    errors := by
      rw [sameErrors]
      exact coherent.errors
    draining := by
      rw [sameErrors]
      exact coherent.draining
    passing := by
      intro passed rest passing
      have closed := (coherent.passing passed rest passing).1
      rw [coherent.reconcileTasks_open spawning] at closed
      cases closed }

theorem accountedTasks_handOver {index : Nat} {task : PodRevertTask} {new : Worker}
    (found : state.workers[index]? = some (.reverting task)) (noneHeld : new.held = none) :
    accountedTasks
        { state with workers := state.workers.set index new, handed := state.handed ++ [task] } =
      state.accountedTasks := by
  obtain ⟨front, back, workers, replaced⟩ := exists_around found
  have held : (Worker.reverting task).held = some task := rfl
  simp only [accountedTasks, replaced, workers, List.filterMap_append, List.filterMap_cons,
    noneHeld, held, ← Multiset.coe_add, ← Multiset.cons_coe, Multiset.add_cons,
    Multiset.cons_add, Multiset.coe_nil, add_zero]

theorem stepWorker (coherent : Coherent tasks state) {index : Nat}
    (stepped : Stepped state (.worker index) after) : Coherent tasks after := by
  cases stepped with
  | finishWorker found received =>
      obtain ⟨empty, closed, _⟩ := Channel.receive_returns_none received
      refine coherent.replaceWorker found nofun rfl rfl rfl id (fun _ => ⟨closed, empty⟩) ?_
        fun request => ?_
      · simp only [accountedTasks, filterMap_set Worker.held found .finished rfl]
      · rw [coherent.requests request, filterMap_set Worker.request found .finished rfl]
  | @takeTask _ task _ found received =>
      obtain ⟨front, back, workers, replaced⟩ := exists_around found
      obtain ⟨buffer, sameClosed⟩ := Channel.receive_returns_some received
      refine coherent.replaceWorker found nofun sameClosed rfl rfl ?_ nofun ?_
        fun request => ?_
      · intro empty
        rw [buffer] at empty
        cases empty
      · simp only [accountedTasks, replaced, workers, buffer, List.filterMap_append,
          List.filterMap_cons, Worker.held, ← Multiset.coe_add, ← Multiset.cons_coe,
          Multiset.add_cons, Multiset.cons_add]
      · rw [coherent.requests request, filterMap_set Worker.request found (.reverting task) rfl]
  | @failRevert _ task message found failed =>
      refine coherent.replaceWorker found nofun rfl rfl rfl id nofun ?_ fun request => ?_
      · exact accountedTasks_handOver found rfl
      · have noRequest : ¬ (task.result = .ok () ∧ task.boost = request) := by
          rw [failed]
          rintro ⟨⟨⟩, _⟩
        rw [exists_mem_append_singleton, or_iff_left noRequest, coherent.requests request,
          filterMap_set Worker.request found (.sendingError _) rfl]
  | succeedRevert found succeeded =>
      obtain ⟨front, back, workers, replaced⟩ := exists_around found
      refine coherent.replaceWorker found nofun rfl rfl rfl id nofun ?_ fun request => ?_
      · exact accountedTasks_handOver found rfl
      · rw [exists_mem_append_singleton, coherent.requests request, succeeded]
        simp only [replaced, workers, List.filterMap_append, List.filterMap_cons, Worker.request,
          List.mem_append, List.mem_cons, true_and]
        rw [eq_comm]
        tauto
  | sendError found sent =>
      obtain ⟨isOpen, stillOpen, _⟩ := Channel.send_returns sent
      refine coherent.replaceWorker found nofun rfl rfl (stillOpen.trans isOpen.symm) id nofun ?_
        fun request => ?_
      · simp only [accountedTasks, filterMap_set Worker.held found .receiving rfl]
      · rw [coherent.requests request, filterMap_set Worker.request found .receiving rfl]
  | sendRequest found sent =>
      -- The request the worker held is now in the channel.
      obtain ⟨front, back, workers, replaced⟩ := exists_around found
      obtain ⟨isOpen, stillOpen, buffer⟩ := Channel.send_returns sent
      refine coherent.replaceWorker found nofun rfl (stillOpen.trans isOpen.symm) rfl id nofun ?_
        fun other => ?_
      · simp only [accountedTasks, filterMap_set Worker.held found .receiving rfl]
      · rw [coherent.requests other]
        simp only [replaced, workers, buffer, List.filterMap_append, List.filterMap_cons,
          Worker.request, List.mem_append, List.mem_cons, List.not_mem_nil, or_false]
        tauto

theorem stepDrain (coherent : Coherent tasks state)
    (stepped : Stepped state .drain after) : Coherent tasks after := by
  cases stepped with
  | finishDrain _ received =>
      obtain ⟨_, closed, _⟩ := Channel.receive_returns_none received
      exact { coherent with draining := fun _ => closed }
  | logError received =>
      obtain ⟨_, sameClosed⟩ := Channel.receive_returns_some received
      refine { coherent with errors := ?_, draining := ?_ }
      · rw [sameClosed]
        exact coherent.errors
      · rw [sameClosed]
        exact coherent.draining

theorem stepCollector (coherent : Coherent tasks state) {order : RangeOrder ReconcileRequest}
    (stepped : Stepped state (.collector order) after) : Coherent tasks after := by
  cases stepped with
  | @finishCollecting _ requests _ collecting received =>
      obtain ⟨empty, closed, _⟩ := Channel.receive_returns_none received
      refine { coherent with requests := ?_, passing := ?_ }
      · intro request
        rw [coherent.requests request, collecting]
        simp only [Collector.requests, List.nil_append, List.mem_toFinset, order.mem_list]
      · rintro passed left same
        cases same
        exact ⟨closed, empty, order.nodup requests⟩
  | collect collecting received =>
      obtain ⟨buffer, sameClosed⟩ := Channel.receive_returns_some received
      refine { coherent with requests := ?_, reconcileTasks := ?_, passing := nofun }
      · intro other
        rw [coherent.requests other, collecting, buffer]
        simp only [Collector.requests, Finset.mem_insert, List.mem_cons]
        tauto
      · rw [sameClosed]
        exact coherent.reconcileTasks
  | pass passing =>
      have before := coherent.passing _ _ passing
      refine { coherent with requests := ?_, passing := ?_ }
      · intro other
        rw [coherent.requests other, passing]
        simp only [Collector.requests, List.append_assoc, List.cons_append, List.nil_append]
      · rintro passed' left' same
        cases same
        simpa using before

theorem step (coherent : Coherent tasks state) {goroutine : Goroutine}
    (stepped : state.step goroutine = .returns after) : Coherent tasks after := by
  have relation := Stepped.of_step stepped
  cases goroutine with
  | producer => exact coherent.stepProducer relation
  | spawner => exact coherent.stepSpawner relation
  | worker index => exact coherent.stepWorker relation
  | drain => exact coherent.stepDrain relation
  | collector order => exact coherent.stepCollector relation

theorem of_reachable (reached : Reachable tasks state) : Coherent tasks state := by
  induction reached with
  | start => exact Coherent.start maxGoroutines tasks
  | step _ stepped ih => exact ih.step stepped

theorem step_ne_panics (coherent : Coherent tasks state) (goroutine : Goroutine) :
    state.step goroutine ≠ .panics := by
  cases goroutine with
  | producer =>
      simp only [Pipeline.step, Pipeline.stepProducer]
      cases producing : state.producer with
      | sending pending =>
          have notFinished : ¬ state.revertTasks.closed = true := by
            rw [coherent.revertTasks, producing]
            nofun
          cases pending with
          | nil => simpa using notFinished
          | cons task rest => simpa using notFinished
      | finished => simp
  | spawner =>
      simp only [Pipeline.step, Pipeline.stepSpawner]
      cases spawner : state.spawner with
      | spawning left =>
          cases left with
          | zero =>
              by_cases allFinished : state.workers.all Worker.isFinished = true <;>
                simp [allFinished]
          | succ left => simp
      | closingReconcileTasks => simp [coherent.reconcileTasks, spawner]
      | closingErrors => simp [coherent.errors, spawner]
      | finished => simp
  | worker index =>
      simp only [Pipeline.step, Pipeline.stepWorker]
      cases found : state.workers[index]? with
      | none => simp
      | some worker =>
          cases worker with
          | receiving =>
              rw [Ne, ChannelOutcome.map_eq_panics]
              exact Channel.receive_ne_panics
          | reverting task => cases result : task.result <;> simp [result]
          | sendingError message =>
              obtain ⟨left, spawning⟩ := coherent.exists_spawning (List.mem_of_getElem? found) nofun
              simp [coherent.errors, spawning]
          | sendingRequest request =>
              obtain ⟨left, spawning⟩ := coherent.exists_spawning (List.mem_of_getElem? found) nofun
              simp [coherent.reconcileTasks_open spawning]
          | finished => simp
  | drain =>
      simp only [Pipeline.step, Pipeline.stepDrain]
      by_cases draining : state.draining = true
      · rw [if_pos draining, Ne, ChannelOutcome.map_eq_panics]
        exact Channel.receive_ne_panics
      · simp [draining]
  | collector order =>
      simp only [Pipeline.step, Pipeline.stepCollector]
      cases collector : state.collector with
      | collecting requests =>
          rw [Ne, ChannelOutcome.map_eq_panics]
          exact Channel.receive_ne_panics
      | passing passed left => cases left <;> simp

/-- Some goroutine can go on. -/
def CanStep (state : Pipeline maxGoroutines) : Prop :=
  ∃ goroutine after, state.step goroutine = .returns after

/-- While no channel holds anything, a worker that has not finished can go on,
or the producer can. -/
theorem canStep_of_active (coherent : Coherent tasks state) (positive : 0 < maxGoroutines)
    (noRequests : state.reconcileTasks.buffer = []) (noErrors : state.errors.buffer = [])
    {index : Nat} {worker : Worker} (found : state.workers[index]? = some worker)
    (active : worker ≠ .finished) : CanStep state := by
  obtain ⟨left, spawning⟩ := coherent.exists_spawning (List.mem_of_getElem? found) active
  cases worker with
  | receiving =>
      by_cases ready : state.revertTasks.buffer ≠ [] ∨ state.revertTasks.closed = true
      · obtain ⟨_, received⟩ := Channel.exists_receive ready
        refine ⟨(.worker index), ?_⟩
        simp only [Pipeline.step, Pipeline.stepWorker, found, received, ChannelOutcome.map]
        exact ⟨_, rfl⟩
      · push Not at ready
        obtain ⟨empty, isOpen⟩ := ready
        have room : state.revertTasks.buffer.length < maxGoroutines := by
          rw [empty]
          exact positive
        cases producing : state.producer with
        | finished => exact absurd (coherent.revertTasks.mpr producing) isOpen
        | sending pending =>
            cases pending with
            | nil =>
                obtain ⟨_, closes⟩ := Channel.exists_close (Bool.eq_false_iff.mpr isOpen)
                refine ⟨.producer, ?_⟩
                simp only [Pipeline.step, Pipeline.stepProducer, producing, closes,
                  ChannelOutcome.map]
                exact ⟨_, rfl⟩
            | cons task rest =>
                obtain ⟨_, sent⟩ := Channel.exists_send task (Bool.eq_false_iff.mpr isOpen) room
                refine ⟨.producer, ?_⟩
                simp only [Pipeline.step, Pipeline.stepProducer, producing, sent,
                  ChannelOutcome.map]
                exact ⟨_, rfl⟩
  | reverting task =>
      refine ⟨.worker index, ?_⟩
      simp only [Pipeline.step, Pipeline.stepWorker, found]
      cases task.result with
      | error message => exact ⟨_, rfl⟩
      | ok => exact ⟨_, rfl⟩
  | sendingError message =>
      have room : state.errors.buffer.length < maxGoroutines := by
        rw [noErrors]
        exact positive
      have isOpen := coherent.errors_open (by rw [spawning]; simp)
      obtain ⟨_, sent⟩ := Channel.exists_send message isOpen room
      refine ⟨(.worker index), ?_⟩
      simp only [Pipeline.step, Pipeline.stepWorker, found, sent, ChannelOutcome.map]
      exact ⟨_, rfl⟩
  | sendingRequest request =>
      have room : state.reconcileTasks.buffer.length < maxGoroutines := by
        rw [noRequests]
        exact positive
      have isOpen := coherent.reconcileTasks_open spawning
      obtain ⟨_, sent⟩ := Channel.exists_send request isOpen room
      refine ⟨(.worker index), ?_⟩
      simp only [Pipeline.step, Pipeline.stepWorker, found, sent, ChannelOutcome.map]
      exact ⟨_, rfl⟩
  | finished => exact absurd rfl active

theorem canStep_of_finished (coherent : Coherent tasks state)
    (isOpen : state.reconcileTasks.closed = false)
    (finished : ∀ worker ∈ state.workers, worker = .finished) : CanStep state := by
  have notClosing : ¬ (state.spawner = .closingErrors ∨ state.spawner = .finished) :=
    fun closing => Bool.eq_false_iff.mp isOpen (coherent.reconcileTasks.mpr closing)
  cases spawner : state.spawner with
  | spawning left =>
      cases left with
      | zero =>
          have allFinished : state.workers.all Worker.isFinished = true := by
            rw [List.all_eq_true]
            intro worker member
            rw [finished worker member]
            rfl
          refine ⟨.spawner, { state with spawner := .closingReconcileTasks }, ?_⟩
          simp only [Pipeline.step, Pipeline.stepSpawner, spawner, allFinished, if_true]
      | succ left =>
          refine ⟨.spawner, { state with
            spawner := .spawning left, workers := state.workers ++ [.receiving] }, ?_⟩
          simp only [Pipeline.step, Pipeline.stepSpawner, spawner]
  | closingReconcileTasks =>
      obtain ⟨_, closes⟩ := Channel.exists_close isOpen
      refine ⟨.spawner, ?_⟩
      simp only [Pipeline.step, Pipeline.stepSpawner, spawner, closes, ChannelOutcome.map]
      exact ⟨_, rfl⟩
  | closingErrors => exact absurd (.inl spawner) notClosing
  | finished => exact absurd (.inr spawner) notClosing

/-- Before the collector has finished, some goroutine can go on. -/
theorem canStep (coherent : Coherent tasks state) (positive : 0 < maxGoroutines)
    (unfinished : state.passedRequests = none) : CanStep state := by
  cases collector : state.collector with
  | passing passed left =>
      cases left with
      | nil => simp [passedRequests, collector] at unfinished
      | cons request left =>
          refine ⟨.collector .arbitrary, { state with
            collector := .passing (passed ++ [request]) left }, ?_⟩
          simp only [Pipeline.step, Pipeline.stepCollector, collector]
  | collecting requests =>
      by_cases ready : state.reconcileTasks.buffer ≠ [] ∨ state.reconcileTasks.closed = true
      · obtain ⟨_, received⟩ := Channel.exists_receive ready
        refine ⟨(.collector .arbitrary), ?_⟩
        simp only [Pipeline.step, Pipeline.stepCollector, collector, received, ChannelOutcome.map]
        exact ⟨_, rfl⟩
      · push Not at ready
        obtain ⟨noRequests, isOpen⟩ := ready
        have notFinished : state.spawner ≠ .finished :=
          fun finished => isOpen (coherent.reconcileTasks.mpr (.inr finished))
        by_cases noErrors : state.errors.buffer = []
        · by_cases allFinished : ∀ worker ∈ state.workers, worker = .finished
          · exact coherent.canStep_of_finished (Bool.eq_false_iff.mpr isOpen) allFinished
          · push Not at allFinished
            obtain ⟨worker, member, active⟩ := allFinished
            obtain ⟨index, found⟩ := List.getElem?_of_mem member
            exact coherent.canStep_of_active positive noRequests noErrors found active
        · -- The drain goes on until the errors are closed.
          have draining : state.draining = true := by
            by_contra stopped
            have closed := coherent.draining (Bool.eq_false_iff.mpr stopped)
            exact notFinished (coherent.errors.mp closed)
          obtain ⟨_, received⟩ := Channel.exists_receive (.inl noErrors)
          refine ⟨.drain, ?_⟩
          simp only [Pipeline.step, Pipeline.stepDrain, draining, if_true, received,
            ChannelOutcome.map]
          exact ⟨_, rfl⟩

/-- When the collector has finished, every worker has, and so has the
producer. -/
theorem handed_eq (coherent : Coherent tasks state) (positive : 0 < maxGoroutines)
    {passed : List ReconcileRequest} (finished : state.passedRequests = some passed) :
    (state.handed : Multiset PodRevertTask) = ↑tasks ∧ passed.Nodup ∧
      ∀ request, request ∈ passed ↔
        ∃ task ∈ state.handed, task.result = .ok () ∧ task.boost = request := by
  have collector : state.collector = .passing passed [] := by
    unfold passedRequests at finished
    cases collector : state.collector with
    | collecting requests => simp [collector] at finished
    | passing earlier left =>
        cases left with
        | nil => simpa [collector] using finished
        | cons request left => simp [collector] at finished
  obtain ⟨closed, empty, distinct⟩ := coherent.passing passed [] collector
  obtain ⟨count, allFinished⟩ := coherent.waited (by
    intro left spawning
    rw [coherent.reconcileTasks_open spawning] at closed
    cases closed)
  have noWorker {β : Type} (f : Worker → Option β) (none : f .finished = .none) :
      state.workers.filterMap f = [] := by
    rw [List.filterMap_eq_nil_iff]
    intro worker member
    rw [allFinished worker member]
    exact none
  have someFinished : Worker.finished ∈ state.workers := by
    obtain ⟨worker, member⟩ := List.exists_mem_of_length_pos (count ▸ positive)
    rwa [allFinished worker member] at member
  obtain ⟨produced, noTasks⟩ := coherent.finishedWorkers someFinished
  refine ⟨?_, by simpa using distinct, fun request => ?_⟩
  · rw [← coherent.accounted]
    simp [accountedTasks, noWorker Worker.held rfl, noTasks, coherent.revertTasks.mp produced,
      Producer.pending]
  · rw [coherent.requests request, collector, empty, noWorker Worker.request rfl]
    simp [Collector.requests]

end Coherent

/-- The steps a worker can still make without taking another task. -/
def workerSteps : Worker → Nat
  | .receiving => 1
  | .reverting _ => 5
  | .sendingError _ => 4
  | .sendingRequest _ => 4
  | .finished => 0

def producerSteps : Producer → Nat
  | .sending tasks => 1 + 6 * tasks.length
  | .finished => 0

def spawnerSteps : Spawner → Nat
  | .spawning left => 3 + 2 * left
  | .closingReconcileTasks => 2
  | .closingErrors => 1
  | .finished => 0

def collectorSteps : Collector → Nat
  | .collecting requests => 1 + requests.card
  | .passing _ left => left.length

/-- A bound on the steps that are left.  A task counts for all the steps it
still has to go through, whoever makes them. -/
def stepsLeft (state : Pipeline maxGoroutines) : Nat :=
  producerSteps state.producer + 5 * state.revertTasks.buffer.length +
    (state.workers.map workerSteps).sum + 2 * state.reconcileTasks.buffer.length +
    2 * state.errors.buffer.length + spawnerSteps state.spawner + state.draining.toNat +
    collectorSteps state.collector

theorem workerSteps_set {workers : List Worker} {index : Nat} {old : Worker}
    (found : workers[index]? = some old) (new : Worker) :
    ((workers.set index new).map workerSteps).sum + workerSteps old =
      (workers.map workerSteps).sum + workerSteps new := by
  obtain ⟨front, back, rfl, replaced⟩ := exists_around found
  simp only [replaced, List.map_append, List.map_cons, List.sum_append, List.sum_cons]
  omega

theorem Stepped.decreases {goroutine : Goroutine} (stepped : Stepped state goroutine after) :
    after.stepsLeft < state.stepsLeft := by
  cases stepped with
  | sendTask producing sent =>
      obtain ⟨_, _, buffer⟩ := Channel.send_returns sent
      simp only [stepsLeft, producing, producerSteps, buffer, List.length_append,
        List.length_cons, List.length_nil]
      omega
  | closeTasks producing closes =>
      obtain ⟨_, _, buffer⟩ := Channel.close_returns closes
      simp only [stepsLeft, producing, producerSteps, buffer, List.length_nil]
      omega
  | startWorker spawning =>
      simp only [stepsLeft, spawning, spawnerSteps, List.map_append, List.sum_append,
        List.map_cons, List.map_nil, List.sum_cons, List.sum_nil, workerSteps]
      omega
  | waitedForWorkers spawning _ =>
      simp only [stepsLeft, spawning, spawnerSteps]
      omega
  | closeReconcileTasks closing closes =>
      obtain ⟨_, _, buffer⟩ := Channel.close_returns closes
      simp only [stepsLeft, closing, spawnerSteps, buffer]
      omega
  | closeErrors closing closes =>
      obtain ⟨_, _, buffer⟩ := Channel.close_returns closes
      simp only [stepsLeft, closing, spawnerSteps, buffer]
      omega
  | @takeTask _ task _ found received =>
      have share := workerSteps_set found (.reverting task)
      obtain ⟨buffer, _⟩ := Channel.receive_returns_some received
      simp only [stepsLeft, workerSteps, buffer, List.length_cons] at share ⊢
      omega
  | finishWorker found _ =>
      have share := workerSteps_set found .finished
      simp only [stepsLeft, workerSteps] at share ⊢
      omega
  | @failRevert _ task message found _ =>
      have share := workerSteps_set found (.sendingError
        ("pod " ++ task.podNs ++ "/" ++ task.podName ++ ": " ++ message))
      simp only [stepsLeft, workerSteps] at share ⊢
      omega
  | @succeedRevert _ task found _ =>
      have share := workerSteps_set found (.sendingRequest task.boost)
      simp only [stepsLeft, workerSteps] at share ⊢
      omega
  | sendError found sent =>
      have share := workerSteps_set found .receiving
      obtain ⟨_, _, buffer⟩ := Channel.send_returns sent
      simp only [stepsLeft, workerSteps, buffer, List.length_append, List.length_singleton]
        at share ⊢
      omega
  | sendRequest found sent =>
      have share := workerSteps_set found .receiving
      obtain ⟨_, _, buffer⟩ := Channel.send_returns sent
      simp only [stepsLeft, workerSteps, buffer, List.length_append, List.length_singleton]
        at share ⊢
      omega
  | logError received =>
      obtain ⟨buffer, _⟩ := Channel.receive_returns_some received
      simp only [stepsLeft, buffer, List.length_cons]
      omega
  | finishDrain draining _ =>
      simp only [stepsLeft, draining, Bool.toNat_true, Bool.toNat_false]
      omega
  | @collect _ requests request _ collecting received =>
      obtain ⟨buffer, _⟩ := Channel.receive_returns_some received
      have grows := Finset.card_insert_le request requests
      simp only [stepsLeft, collecting, collectorSteps, buffer, List.length_cons]
      omega
  | @finishCollecting order _ _ collecting _ =>
      simp only [stepsLeft, collecting, collectorSteps, order.length_list]
      omega
  | pass passing =>
      simp only [stepsLeft, passing, collectorSteps, List.length_cons]
      omega

/-- From every reachable state the collector finishes: goroutines that can go
on do so, and no schedule goes on for ever. -/
theorem exists_finished (positive : 0 < maxGoroutines) (reached : Reachable tasks state) :
    ∃ final : Pipeline maxGoroutines, Reachable tasks final ∧
      ∃ passed, final.passedRequests = some passed := by
  induction steps : state.stepsLeft using Nat.strong_induction_on generalizing state with
  | _ steps ih =>
      cases finished : state.passedRequests with
      | some passed => exact ⟨state, reached, passed, finished⟩
      | none =>
          obtain ⟨goroutine, after, stepped⟩ :=
            (Coherent.of_reachable reached).canStep positive finished
          exact ih after.stepsLeft (steps ▸ (Stepped.of_step stepped).decreases)
            (.step reached stepped) rfl

/-- In every state a tick can reach, nothing has been sent on a closed channel,
some goroutine can go on unless the collector has finished, and no task has
been reverted twice; when the collector has finished, every task has been
reverted once, and the requests passed on are those of the successful tasks. -/
theorem revert_pipeline_correct (positive : 0 < maxGoroutines) (tasks : List PodRevertTask)
    (state : Pipeline maxGoroutines) (reached : Reachable tasks state) :
    (∀ goroutine, state.step goroutine ≠ .panics) ∧
      (state.passedRequests = none → ∃ goroutine after, state.step goroutine = .returns after) ∧
      (∃ others, (state.handed ++ others).Perm tasks) ∧
      ∀ passed, state.passedRequests = some passed →
        state.handed.Perm tasks ∧ passed.Nodup ∧
          ∀ request, request ∈ passed ↔
            ∃ task ∈ tasks, task.result = .ok () ∧ task.boost = request := by
  have coherent := Coherent.of_reachable reached
  refine ⟨coherent.step_ne_panics, coherent.canStep positive, ?_, fun passed finished => ?_⟩
  · refine ⟨state.workers.filterMap Worker.held ++ state.revertTasks.buffer ++
      state.producer.pending, Multiset.coe_eq_coe.mp ?_⟩
    rw [← coherent.accounted]
    simp only [accountedTasks, ← Multiset.coe_add, add_assoc]
  · obtain ⟨handed, distinct, requests⟩ := coherent.handed_eq positive finished
    have sameTasks := Multiset.coe_eq_coe.mp handed
    refine ⟨sameTasks, distinct, fun request => ?_⟩
    rw [requests request]
    constructor
    · rintro ⟨task, member, succeeded⟩
      exact ⟨task, sameTasks.mem_iff.mp member, succeeded⟩
    · rintro ⟨task, member, succeeded⟩
      exact ⟨task, sameTasks.mem_iff.mpr member, succeeded⟩

/-- Two workers, of whose tasks one succeeds and one fails: in some schedule the
collector finishes, and it passes on the request of the successful task. -/
theorem revert_pipeline_correct_finished :
    let succeeding : PodRevertTask := ⟨⟨"default", "boost"⟩, "default", "web", .ok ()⟩
    let failing : PodRevertTask := ⟨⟨"default", "other"⟩, "default", "db", .error "rejected"⟩
    ∃ final : Pipeline 2, Reachable [succeeding, failing] final ∧
      final.handed.Perm [succeeding, failing] ∧
      final.passedRequests = some [⟨"default", "boost"⟩] := by
  intro succeeding failing
  obtain ⟨final, reached, passed, finished⟩ :=
    exists_finished Nat.two_pos (.start : Reachable [succeeding, failing] (start 2 _))
  obtain ⟨-, -, -, atEnd⟩ := revert_pipeline_correct Nat.two_pos _ final reached
  obtain ⟨handed, distinct, requests⟩ := atEnd passed finished
  have onlyBoost : passed.Perm [⟨"default", "boost"⟩] := by
    apply (List.perm_ext_iff_of_nodup distinct (List.nodup_singleton _)).mpr
    intro request
    rw [requests request, List.mem_singleton]
    constructor
    · rintro ⟨task, member, succeeded, rfl⟩
      rcases List.mem_pair.mp member with rfl | rfl
      · rfl
      · cases succeeded
    · rintro rfl
      exact ⟨succeeding, List.mem_cons_self, rfl, rfl⟩
  rw [List.perm_singleton.mp onlyBoost] at finished
  exact ⟨final, reached, handed, finished⟩

end Pipeline

end KubeStartupCPUBoost
