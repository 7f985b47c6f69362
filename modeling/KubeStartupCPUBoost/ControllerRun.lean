import KubeStartupCPUBoost.ApiServer
import KubeStartupCPUBoost.BoostManager
import KubeStartupCPUBoost.ReferenceLibrary
import KubeStartupCPUBoost.TransitionRun

/-!
# Runs of the controller

The events that reach the manager, the steps of a tick and the changes of the
world around them, in any order.  A tick takes the timed boosts at its start,
checks one boost after another, and leaves revert tasks in flight that are
executed later, in any order; every other event can come in between.

Concrete runs share a beginning: a boost is created, a pod is stored at the
server, and its event makes the boost track it.  `run_tracking` gives the state
they reach, up to statistics and metrics.
-/

namespace KubeStartupCPUBoost

/-- What a tick in progress still has to do: boosts to check, and pod objects
to revert for a boost. -/
structure InFlight where
  scanning : List BoostRef := []
  tasks : List (BoostRef × PodRef) := []

structure Controller (σ : Type) where
  manager : Manager σ
  now : Time
  inFlight : InFlight

/-- An event, with the orders of the loops over maps it sets off. -/
inductive ControllerEvent (σ : Type) where
  | createBoost (order : RangeOrder String) (spec : StartupCPUBoost)
  | updateBoost (order : RangeOrder String) (spec : StartupCPUBoost)
  | deleteBoost (ns name : String)
  | upsertPod (order : RangeOrder String) (pod : Pod)
  | deletePod (order : RangeOrder String) (pod : Pod)
  | startTick (order : RangeOrder String) (within : String → RangeOrder String)
  | checkBoost (order : RangeOrder String)
  | executeTask (position : Nat)
  | passTime (duration : Nat)
  | changeServer (server : σ)

namespace Controller

variable {σ : Type}

/-- Contents of memory that has not been allocated. -/
def unusedPod : Pod where
  name := ""
  ns := ""
  uid := ""
  labels := ∅
  annotations := ∅
  containers := []

def unusedBoost : StartupCPUBoostImpl where
  name := ""
  ns := ""
  selector := fun _ => false
  durationPolicies := ∅
  resourcePolicies := ∅
  legacyRevertMode := false

/-- `NewManager`. -/
def newManager (hasClient : Bool) (server : σ) : Manager σ where
  boosts := fun _ => unusedBoost
  nextBoost := 0
  timedBoosts := .newNamespacedObjects
  regularBoosts := .newNamespacedObjects
  orphanedPods := .newNamespacedObjects
  hasClient := hasClient
  memory :=
    { pods := fun _ => unusedPod
      delivered := fun _ => unusedPod
      next := 0
      metrics := {}
      server }

def initial (hasClient : Bool) (now : Time) (server : σ) : Controller σ where
  manager := newManager hasClient server
  now := now
  inFlight := {}

variable (lib : Library) (client : PodClient σ) (legacyRevertMode : Bool)

/-- The next boost of the tick is checked; the pods that violate its fixed
duration become revert tasks. -/
def checkNextBoost (order : RangeOrder String) (state : Controller σ) : Controller σ :=
  match state.inFlight.scanning with
  | [] => state
  | boost :: rest =>
      let violated := (state.manager.boosts boost).validatePolicy order state.now
        fixedDurationPolicyName state.manager.memory
      { state with
        inFlight :=
          { scanning := rest
            tasks := state.inFlight.tasks ++ violated.map fun ref => (boost, ref) } }

def executeTask (position : Nat) (state : Controller σ) : Controller σ :=
  match state.inFlight.tasks[position]? with
  | none => state
  | some (boost, ref) =>
      { state with
        manager := (state.manager.revertResourcesIn lib client boost ref).2
        inFlight :=
          { state.inFlight with tasks := state.inFlight.tasks.eraseIdx position } }

/-- One event.  The create handler of a boost that cannot be built panics before
it changes the manager, so the event leaves the state.  A tick starts when the
one before has finished. -/
def step (event : ControllerEvent σ) (state : Controller σ) : Controller σ :=
  match event with
  | .createBoost order spec =>
      match newStartupCPUBoost lib spec legacyRevertMode with
      | .error _ => state
      | .ok impl =>
          let created := state.manager.newBoost impl
          { state with
            manager := (created.2.addRegularCPUBoost lib client state.now order created.1).2 }
  | .updateBoost order spec =>
      { state with
        manager := (state.manager.updateRegularCPUBoost lib client state.now order spec).2 }
  | .deleteBoost ns name =>
      { state with manager := state.manager.deleteRegularCPUBoost ns name }
  | .upsertPod order pod =>
      let delivered := state.manager.newPod pod
      { state with
        manager := (delivered.2.upsertPod lib client state.now order delivered.1).2 }
  | .deletePod order pod =>
      { state with manager := (state.manager.deletePod lib order pod).2 }
  | .startTick order within =>
      if state.inFlight.scanning = [] ∧ state.inFlight.tasks = [] then
        { state with
          inFlight :=
            { state.inFlight with scanning := state.manager.timedBoosts.listAll order within } }
      else state
  | .checkBoost order => state.checkNextBoost order
  | .executeTask position => state.executeTask lib client position
  | .passTime duration => { state with now := state.now + duration }
  | .changeServer server =>
      { state with
        manager := { state.manager with memory := { state.manager.memory with server } } }

def run (events : List (ControllerEvent σ)) (state : Controller σ) : Controller σ :=
  runEvents (step lib client legacyRevertMode) events state

@[simp]
theorem run_append (first second : List (ControllerEvent σ)) (state : Controller σ) :
    state.run lib client legacyRevertMode (first ++ second) =
      (state.run lib client legacyRevertMode first).run lib client legacyRevertMode second :=
  runEvents_append _ first second state

section Steps

variable (order : RangeOrder String) (state : Controller σ)

def registerNew (impl : StartupCPUBoostImpl) (manager : Manager σ) : Manager σ :=
  (manager.newBoost impl).2.register manager.nextBoost

theorem step_createBoost_of_error {spec : StartupCPUBoost} {message : String}
    (failed : newStartupCPUBoost lib spec legacyRevertMode = .error message) :
    state.step lib client legacyRevertMode (.createBoost order spec) = state := by
  simp only [step, failed]

/-- The create event of a boost that can be built, by whether its name is taken. -/
theorem step_createBoost_of_ok {spec : StartupCPUBoost} {impl : StartupCPUBoostImpl}
    (built : newStartupCPUBoost lib spec legacyRevertMode = .ok impl) :
    state.step lib client legacyRevertMode (.createBoost order spec) =
      match state.manager.regularBoosts.get spec.name spec.ns with
      | some _ => { state with manager := (state.manager.newBoost impl).2 }
      | none =>
          { state with
            manager := (registerNew impl state.manager).postProcessNewBoost lib client state.now
              order state.manager.nextBoost } := by
  obtain ⟨implName, implNs, _⟩ := newStartupCPUBoost_ok lib built
  have created : (state.manager.newBoost impl).2.boosts (state.manager.newBoost impl).1 = impl :=
    state.manager.newBoost_self impl
  have sameKey : (state.manager.newBoost impl).2.regularBoosts.get
      ((state.manager.newBoost impl).2.boosts (state.manager.newBoost impl).1).name
      ((state.manager.newBoost impl).2.boosts (state.manager.newBoost impl).1).ns =
        state.manager.regularBoosts.get spec.name spec.ns := by
    rw [created, implName, implNs]
    rfl
  simp only [step, built, Manager.addRegularCPUBoost, sameKey]
  cases state.manager.regularBoosts.get spec.name spec.ns with
  | some boost => rfl
  | none => rfl

/-- The create event of a boost leaves the state, or a boost object that is not
used, or it registers the boost and takes over pods for it. -/
theorem step_createBoost (spec : StartupCPUBoost) :
    state.step lib client legacyRevertMode (.createBoost order spec) = state ∨
      ∃ impl, newStartupCPUBoost lib spec legacyRevertMode = .ok impl ∧
        (state.step lib client legacyRevertMode (.createBoost order spec) =
            { state with manager := (state.manager.newBoost impl).2 } ∨
          state.manager.regularBoosts.get spec.name spec.ns = none ∧
            state.step lib client legacyRevertMode (.createBoost order spec) =
              { state with
                manager := (registerNew impl state.manager).postProcessNewBoost lib client
                  state.now order state.manager.nextBoost }) := by
  cases built : newStartupCPUBoost lib spec legacyRevertMode with
  | error message =>
      exact .inl (step_createBoost_of_error lib client legacyRevertMode order state built)
  | ok impl =>
      refine .inr ⟨impl, rfl, ?_⟩
      rw [step_createBoost_of_ok lib client legacyRevertMode order state built]
      cases state.manager.regularBoosts.get spec.name spec.ns with
      | some boost => exact .inl rfl
      | none => exact .inr ⟨rfl, rfl⟩

/-- There is no task at the position, or it is taken and its pod reverted. -/
theorem executeTask_cases (position : Nat) :
    state.executeTask lib client position = state ∨
      ∃ boost ref, state.inFlight.tasks[position]? = some (boost, ref) ∧
        state.executeTask lib client position =
          { state with
            manager := (state.manager.revertResourcesIn lib client boost ref).2
            inFlight :=
              { state.inFlight with tasks := state.inFlight.tasks.eraseIdx position } } := by
  unfold executeTask
  cases state.inFlight.tasks[position]? with
  | none => exact .inl rfl
  | some task => exact .inr ⟨task.1, task.2, rfl, rfl⟩

theorem registerNew_eq (impl : StartupCPUBoostImpl) (manager : Manager σ) :
    registerNew impl manager =
      { manager with
        boosts := Function.update manager.boosts manager.nextBoost impl
        nextBoost := manager.nextBoost + 1
        regularBoosts := manager.regularBoosts.put impl.name impl.ns manager.nextBoost
        memory :=
          { manager.memory with
            metrics := manager.memory.metrics.newBoostConfiguration impl.ns } } := by
  simp [registerNew, Manager.register, Manager.newBoost]

@[simp]
theorem registerNew_boosts (impl : StartupCPUBoostImpl) (manager : Manager σ) :
    (registerNew impl manager).boosts manager.nextBoost = impl :=
  manager.newBoost_self impl

@[simp]
theorem registerNew_boosts_of_lt {boost : BoostRef} {manager : Manager σ}
    (existing : boost < manager.nextBoost) (impl : StartupCPUBoostImpl) :
    (registerNew impl manager).boosts boost = manager.boosts boost :=
  Manager.newBoost_boosts_of_lt existing impl

theorem registerNew_get (impl : StartupCPUBoostImpl) (manager : Manager σ) (name ns : String) :
    (registerNew impl manager).regularBoosts.get name ns =
      if name = impl.name ∧ ns = impl.ns then some manager.nextBoost
      else manager.regularBoosts.get name ns := by
  simp [registerNew, Manager.register, Manager.newBoost, NamespacedObjects.get_put]

theorem registerNew_get_eq_some {impl : StartupCPUBoostImpl} {manager : Manager σ}
    {name ns : String} {boost : BoostRef} :
    (registerNew impl manager).regularBoosts.get name ns = some boost ↔
      (name = impl.name ∧ ns = impl.ns) ∧ boost = manager.nextBoost ∨
        ¬ (name = impl.name ∧ ns = impl.ns) ∧ manager.regularBoosts.get name ns = some boost := by
  rw [registerNew_get]
  by_cases ownKey : name = impl.name ∧ ns = impl.ns
  · simp [ownKey, eq_comm]
  · simp [ownKey]

/-- The update event of a boost leaves the state, or it replaces the
specification and takes over pods. -/
theorem step_updateBoost (spec : StartupCPUBoost) :
    state.step lib client legacyRevertMode (.updateBoost order spec) = state ∨
      ∃ boost impl, state.manager.regularBoosts.get spec.name spec.ns = some boost ∧
        (state.manager.boosts boost).updateFromSpec lib spec = .ok impl ∧
        state.step lib client legacyRevertMode (.updateBoost order spec) =
          { state with
            manager := (state.manager.setBoost boost impl
              state.manager.memory).postProcessNewBoost lib client state.now order boost } := by
  simp only [step, Manager.updateRegularCPUBoost]
  cases registered : state.manager.regularBoosts.get spec.name spec.ns with
  | none => exact .inl rfl
  | some boost =>
      simp only
      cases updated : (state.manager.boosts boost).updateFromSpec lib spec with
      | error message => exact .inl rfl
      | ok impl => exact .inr ⟨boost, impl, rfl, updated, rfl⟩

/-- The event of a pod gives it to the matching boost or puts it aside. -/
theorem step_upsertPod (pod : Pod) :
    let delivered := (state.manager.newPod pod).2
    let ref := state.manager.memory.next
    (∃ boost, state.manager.getMatchingBoost order pod = some boost ∧
      (((delivered.upsertPodIn lib client state.now boost ref).1 = .ok () ∧
        state.step lib client legacyRevertMode (.upsertPod order pod) =
          { state with
            manager := (delivered.upsertPodIn lib client state.now boost
              ref).2.deleteOrphanedPod pod }) ∨
      ((delivered.upsertPodIn lib client state.now boost ref).1 ≠ .ok () ∧
        state.step lib client legacyRevertMode (.upsertPod order pod) =
          { state with
            manager := (delivered.upsertPodIn lib client state.now boost ref).2 }))) ∨
    (state.manager.getMatchingBoost order pod = none ∧
      state.step lib client legacyRevertMode (.upsertPod order pod) =
        { state with
          manager :=
            { delivered with
              orphanedPods := delivered.orphanedPods.put pod.name pod.ns ref } }) := by
  have cases := (state.manager.newPod pod).2.upsertPod_cases lib client state.now order
    state.manager.memory.next
  have delivered : (state.manager.newPod pod).2.memory.pods state.manager.memory.next = pod :=
    state.manager.newPod_self pod
  simp only [delivered] at cases
  have stepped (manager : Manager σ) (same : ((state.manager.newPod pod).2.upsertPod lib client
      state.now order state.manager.memory.next).2 = manager) :
      state.step lib client legacyRevertMode (.upsertPod order pod) = { state with manager } := by
    rw [← same]
    rfl
  rcases cases with ⟨boost, found, ⟨succeeded, result⟩ | ⟨message, failed, result⟩⟩ |
    ⟨noMatch, result⟩
  · exact .inl ⟨boost, found, .inl ⟨succeeded, stepped _ (by rw [result])⟩⟩
  · exact .inl ⟨boost, found, .inr ⟨by simp [failed], stepped _ (by rw [result])⟩⟩
  · exact .inr ⟨noMatch, stepped _ (by rw [result])⟩

end Steps

end Controller

namespace Reference

def boostOf (selector : LabelSelector) (durationPolicy : DurationPolicySpec) :
    StartupCPUBoost where
  name := "boost"
  ns := "default"
  selector := selector
  spec := { containerPolicies := [⟨"app", some ⟨100⟩, none⟩], durationPolicy }

def forMinute : DurationPolicySpec := ⟨some ⟨.seconds, 60⟩, none⟩

def implOf (selector : LabelSelector) (durationPolicy : DurationPolicySpec) :
    StartupCPUBoostImpl where
  name := "boost"
  ns := "default"
  selector := selector.selects
  durationPolicies := mapDurationPolicy durationPolicy
  resourcePolicies := (∅ : GoMap String ContainerPolicy).insert "app" (.percentage 100)
  legacyRevertMode := false

/-- The boosted pod, with a UID and the time it was scheduled. -/
noncomputable def scheduledPod (uid : String) (scheduled : Time) : Pod :=
  { boostedPod with uid, conditions := [⟨"PodScheduled", "True", scheduled⟩] }

def tickTime : Nat := 100000000000

def appSelector (value : String) : LabelSelector := ⟨(∅ : StringMap).insert "app" value, []⟩

/-- The boosted pod with a label of its own. -/
noncomputable def appPod (value : String) : Pod :=
  { boostedPod with labels := boostedPod.labels.insert "app" value }

theorem wellFormed_appSelector : (appSelector "web").WellFormed referenceLibrary.validLabelKey
    referenceLibrary.validLabelValue := by
  decide +kernel

noncomputable abbrev referenceClient : PodClient ApiServer :=
  ApiServer.podClient referenceLibrary .arbitrary

theorem list_emptyServer (ns boost : String) :
    referenceClient.list ns boost ⟨∅, []⟩ = (.ok [], ⟨∅, []⟩) := by
  simp [referenceClient, ApiServer.podClient]

def serverWith (pod : Pod) : ApiServer := ⟨(∅ : GoMap PodKey Pod).insert pod.key pod, []⟩

def started : Controller ApiServer := .initial true 0 ⟨∅, []⟩

def registeredManager (selector : LabelSelector) : Manager ApiServer :=
  { started.manager with
    boosts := Function.update started.manager.boosts 0 (implOf selector forMinute)
    nextBoost := 1
    timedBoosts := NamespacedObjects.newNamespacedObjects.put "boost" "default" 0
    regularBoosts := NamespacedObjects.newNamespacedObjects.put "boost" "default" 0
    memory :=
      { started.manager.memory with
        metrics := started.manager.memory.metrics.newBoostConfiguration "default" } }

def trackingManager (selector : LabelSelector) (pod : Pod) (server : ApiServer)
    (stats : StartupCPUBoostStats) (metrics : Metrics) : Manager ApiServer :=
  { registeredManager selector with
    boosts := Function.update (registeredManager selector).boosts 0
      { implOf selector forMinute with
        pods := (∅ : GoMap String PodRef).insert pod.name 0
        stats }
    memory :=
      { pods := Function.update (fun _ => Controller.unusedPod) 0 pod
        delivered := Function.update (fun _ => Controller.unusedPod) 0 pod
        next := 1
        metrics
        server } }

noncomputable def trackEvents (selector : LabelSelector) (pod : Pod) (server : ApiServer) :
    List (ControllerEvent ApiServer) :=
  [.createBoost .arbitrary (boostOf selector forMinute), .changeServer server,
    .upsertPod .arbitrary pod]

theorem registeredManager_registered (selector : LabelSelector) {name ns : String}
    {boost : BoostRef}
    (registered : (registeredManager selector).regularBoosts.get name ns = some boost) :
    boost = 0 := by
  simp only [registeredManager, NamespacedObjects.get_put] at registered
  split at registered
  · exact (Option.some.inj registered).symm
  · cases registered

theorem trackingManager_registered {selector : LabelSelector} {pod : Pod} {server : ApiServer}
    {stats : StartupCPUBoostStats} {metrics : Metrics} {name ns : String} {boost : BoostRef}
    (registered : (trackingManager selector pod server stats metrics).regularBoosts.get name ns =
      some boost) : boost = 0 :=
  registeredManager_registered selector registered

theorem trackingManager_selectsPod (selector : LabelSelector) (tracked pod : Pod)
    (server : ApiServer) (stats : StartupCPUBoostStats) (metrics : Metrics) :
    ((trackingManager selector tracked server stats metrics).boosts 0).selectsPod pod =
      selector.selects pod.labels :=
  rfl

/-- A pod of the namespace that the boost does not select finds no boost. -/
theorem trackingManager_noMatch {selector : LabelSelector} {tracked pod : Pod} {server : ApiServer}
    (sameNs : pod.ns = "default") (unselected : selector.selects pod.labels = false)
    (stats : StartupCPUBoostStats) (metrics : Metrics) (order : RangeOrder String) :
    (trackingManager selector tracked server stats metrics).getMatchingBoost order pod = none := by
  unfold Manager.getMatchingBoost
  rw [show (trackingManager selector tracked server stats metrics).regularBoosts.list order pod.ns =
    [0] from sameNs ▸ NamespacedObjects.list_put_new _ _ _ _]
  refine List.find?_eq_none.mpr fun boost member => ?_
  obtain rfl := List.mem_singleton.mp member
  exact Bool.eq_false_iff.mp unselected

theorem selects_everything (labels : StringMap) : everything.selects labels = true := by
  simp [LabelSelector.selects, everything]

section Steps

variable {selector : LabelSelector}
  (wellFormed : selector.WellFormed referenceLibrary.validLabelKey referenceLibrary.validLabelValue)

include wellFormed

theorem newStartupCPUBoost_boostOf (durationPolicy : DurationPolicySpec) :
    newStartupCPUBoost referenceLibrary (boostOf selector durationPolicy) false =
      .ok (implOf selector durationPolicy) :=
  newStartupCPUBoost_of_mapped referenceLibrary wellFormed rfl

theorem step_create :
    started.step referenceLibrary referenceClient false
        (.createBoost .arbitrary (boostOf selector forMinute)) =
      { started with manager := registeredManager selector } := by
  have created := Controller.registerNew_boosts (implOf selector forMinute) started.manager
  have timed : ((implOf selector forMinute).durationPolicies.lookup
      fixedDurationPolicyName).isSome = true := by
    simp [implOf, mapDurationPolicy, forMinute]
  have indexed : (Controller.registerNew (implOf selector forMinute)
      started.manager).indexTimedBoost 0 = registeredManager selector := by
    unfold Manager.indexTimedBoost
    rw [show (Controller.registerNew (implOf selector forMinute) started.manager).boosts 0 =
      implOf selector forMinute from created]
    simp only [timed, if_true]
    rfl
  simp only [Controller.step, newStartupCPUBoost_boostOf wellFormed forMinute]
  change { started with manager := (Controller.registerNew (implOf selector forMinute)
    started.manager).postProcessNewBoost referenceLibrary referenceClient 0 .arbitrary 0 } = _
  rw [Manager.postProcessNewBoost_of_none referenceLibrary referenceClient rfl rfl
    (list_emptyServer _ _), indexed]

omit wellFormed in
private theorem step_track {pod : Pod} (sameNs : pod.ns = "default")
    (selected : selector.selects pod.labels = true) (server : ApiServer) :
    ∃ stats metrics,
      Controller.step referenceLibrary referenceClient false (.upsertPod .arbitrary pod)
          { started with
            manager :=
              { registeredManager selector with
                memory := { (registeredManager selector).memory with server } } } =
        { started with manager := trackingManager selector pod server stats metrics } := by
  let stored : Manager ApiServer :=
    { registeredManager selector with
      memory := { (registeredManager selector).memory with server } }
  have listed : stored.regularBoosts.list .arbitrary pod.ns = [0] := by
    rw [sameNs]
    exact NamespacedObjects.list_put_new _ _ _ _
  have found : stored.getMatchingBoost .arbitrary pod = some 0 := by
    unfold Manager.getMatchingBoost
    rw [listed]
    exact List.find?_cons_of_pos selected
  obtain ⟨stats, metrics, met, _⟩ := StartupCPUBoostImpl.upsertPod_eq referenceLibrary
    referenceClient 0 0 (implOf selector forMinute) (stored.newPod pod).2.memory
  have upserted := met (by
    intro policy present
    simp [implOf, mapDurationPolicy, forMinute, podConditionPolicyName,
      fixedDurationPolicyName] at present)
  have upsertedIn : (stored.newPod pod).2.upsertPodIn referenceLibrary referenceClient 0 0 0 =
      (.ok (), trackingManager selector pod server stats metrics) := by
    unfold Manager.upsertPodIn
    rw [show (stored.newPod pod).2.boosts 0 = implOf selector forMinute from rfl, upserted]
    rfl
  refine ⟨stats, metrics, ?_⟩
  rcases Controller.step_upsertPod referenceLibrary referenceClient false .arbitrary
    ⟨stored, 0, {}⟩ pod with ⟨boost, matching, outcome⟩ | ⟨noMatch, _⟩
  · obtain rfl : 0 = boost := Option.some.inj (found.symm.trans matching)
    rcases outcome with ⟨_, accepted⟩ | ⟨failed, _⟩
    · refine accepted.trans ?_
      change Controller.mk (((stored.newPod pod).2.upsertPodIn referenceLibrary referenceClient 0 0
        0).2.deleteOrphanedPod pod) 0 {} = _
      rw [upsertedIn]
      rfl
    · exact absurd (congrArg Prod.fst upsertedIn) failed
  · cases found.symm.trans noMatch

theorem run_tracking {pod : Pod} (sameNs : pod.ns = "default")
    (selected : selector.selects pod.labels = true) (server : ApiServer) :
    ∃ stats metrics,
      started.run referenceLibrary referenceClient false (trackEvents selector pod server) =
        ⟨trackingManager selector pod server stats metrics, 0, {}⟩ := by
  obtain ⟨stats, metrics, tracked⟩ := step_track sameNs selected server
  refine ⟨stats, metrics, ?_⟩
  simp only [Controller.run, trackEvents, runEvents, step_create wellFormed]
  exact tracked

end Steps

end Reference

end KubeStartupCPUBoost
