import KubeStartupCPUBoost.ControllerRun
import KubeStartupCPUBoost.ControllerWellFormed
import KubeStartupCPUBoost.LivePods

/-!
# Revert tasks and the pods that live when they are executed

A tick checks the objects it finds tracked and reverts them later, by name.  In
between, the pod of that name can be replaced, the boost can get another
policy, and another object can be tracked under the name.

`TasksDue` says that every task in flight is right to execute: the live pod has
outlived the boost's fixed duration, and an entry tracked under its name is the
live pod's.  `KeepsTasksDue` is a condition under which every event keeps it.
-/

namespace KubeStartupCPUBoost

variable {σ : Type} {client : PodClient σ} (view : LivePods client)

/-- The live pod of a task's name has outlived the fixed duration of the boost. -/
def Expired (now : Time) (boost : StartupCPUBoostImpl) (server : σ) (key : PodKey) : Prop :=
  ∀ pod, view.live server key = some pod →
    ∃ duration,
      boost.durationPolicies.lookup fixedDurationPolicyName = some (.fixed duration) ∧
        (DurationPolicy.fixed duration).valid now pod = false

/-- Executing a task reverts a pod that has outlived the boost's current fixed
duration, and an entry it removes is the one of the live pod. -/
structure RevertsExpired (boost : BoostRef) (ref : PodRef) (before after : Controller σ) :
    Prop where
  expired : Expired view before.now (before.manager.boosts boost) before.manager.memory.server
    (before.manager.memory.pods ref).key
  removed : ∀ podName tracked,
    (before.manager.boosts boost).pods.lookup podName = some tracked →
      (after.manager.boosts boost).pods.lookup podName ≠ some tracked →
        ∃ pod, view.live before.manager.memory.server
            (before.manager.memory.pods ref).key = some pod ∧
          (before.manager.memory.pods tracked).uid = pod.uid

/-- Every task in flight is right to execute. -/
def TasksDue (inFlight : InFlight) (now : Time) (manager : Manager σ) : Prop :=
  ∀ boost ref, (boost, ref) ∈ inFlight.tasks →
    Expired view now (manager.boosts boost) manager.memory.server
        (manager.memory.pods ref).key ∧
      ∀ tracked, (manager.boosts boost).pods.lookup (manager.memory.pods ref).name =
          some tracked →
        Current view.live manager.memory.server (manager.memory.pods tracked)

/-- Tracking an object for a boost puts no other pod under the name of a task. -/
def Admits (inFlight : InFlight) (boost : BoostRef) (manager : Manager σ) (pod : Pod) : Prop :=
  ∀ task, (boost, task) ∈ inFlight.tasks → (manager.memory.pods task).name = pod.name →
    Current view.live manager.memory.server pod

variable {view}

theorem Expired.congr {before now : Time} {boost boost' : StartupCPUBoostImpl}
    {server server' : σ} {key : PodKey} (expired : Expired view before boost server key)
    (later : before ≤ now) (policies : boost'.durationPolicies = boost.durationPolicies)
    (same : ∀ pod, view.live server' key = some pod →
      ∃ earlier, view.live server key = some earlier ∧ earlier.identity = pod.identity) :
    Expired view now boost' server' key := by
  intro pod found
  obtain ⟨earlier, present, identical⟩ := same pod found
  obtain ⟨duration, fixed, invalid⟩ := expired earlier present
  exact ⟨duration, policies ▸ fixed, fixed_expired_mono later identical invalid⟩

namespace TasksDue

variable {inFlight : InFlight} {now : Time} {manager : Manager σ} {boost : BoostRef}
  {ref : PodRef}

/-- Fewer tasks, on the same objects and boosts. -/
theorem mono {inFlight' : InFlight} {manager' : Manager σ}
    (due : TasksDue view inFlight now manager)
    (tasks : ∀ task ∈ inFlight'.tasks, task ∈ inFlight.tasks)
    (boosts : manager'.boosts = manager.boosts)
    (pods : manager'.memory.pods = manager.memory.pods)
    (server : manager'.memory.server = manager.memory.server) :
    TasksDue view inFlight' now manager' := by
  intro boost ref member
  rw [boosts, pods, server]
  exact due boost ref (tasks _ member)

/-- An operation on one boost and one object that replaces no live pod. -/
theorem setBoost (due : TasksDue view inFlight now manager) {impl : StartupCPUBoostImpl}
    {memory : Memory σ} (touched : (manager.boosts boost).Touches ref impl manager.memory memory)
    (kept : KeepsLive view manager.memory memory)
    (tracked : ∀ name tracked, impl.pods.lookup name = some tracked →
      (manager.boosts boost).pods.lookup name = some tracked ∨
        ∀ task, (boost, task) ∈ inFlight.tasks → (manager.memory.pods task).name = name →
          Current view.live manager.memory.server (manager.memory.pods tracked)) :
    TasksDue view inFlight now (manager.setBoost boost impl memory) := by
  intro other task member
  obtain ⟨expired, current⟩ := due other task member
  have sameKey := touched.key_eq task
  have sameName : (memory.pods task).name = (manager.memory.pods task).name :=
    congrArg Prod.snd sameKey
  constructor
  · change Expired view now _ memory.server (memory.pods task).key
    rw [sameKey]
    refine expired.congr le_rfl ?_ fun pod found => kept.live.exists_before found
    by_cases same : other = boost
    · subst other
      rw [Manager.setBoost_boosts_self, touched.boost_eq]
    · rw [Manager.setBoost_boosts_of_ne same]
  · intro object present
    refine kept.current object ?_
    change ((manager.setBoost boost impl memory).boosts other).pods.lookup
      (memory.pods task).name = some object at present
    rw [sameName] at present
    by_cases same : other = boost
    · subst other
      rw [Manager.setBoost_boosts_self] at present
      rcases tracked _ _ present with before | admitted
      · exact current object before
      · exact admitted task member rfl
    · rw [Manager.setBoost_boosts_of_ne same] at present
      exact current object present

variable (lib : Library)

theorem upsertPodIn (due : TasksDue view inFlight now manager)
    (admitted : Admits view inFlight boost manager (manager.memory.pods ref)) :
    TasksDue view inFlight now (manager.upsertPodIn lib client now boost ref).2 := by
  refine due.setBoost (StartupCPUBoostImpl.touches_upsertPod lib client now ref _ _)
    (keepsLive_upsertPod lib view now ref _ _) fun name tracked present => ?_
  rcases StartupCPUBoostImpl.tracked_of_upsertPod lib client now ref _ _ present with
    ⟨_, before⟩ | ⟨sameName, same, _⟩
  · exact .inl before
  · subst same
    exact .inr fun task member taskName => admitted task member (taskName.trans sameName)

theorem revertResourcesIn (due : TasksDue view inFlight now manager) (boost : BoostRef)
    (ref : PodRef) :
    TasksDue view inFlight now (manager.revertResourcesIn lib client boost ref).2 :=
  due.setBoost (StartupCPUBoostImpl.touches_revertResources lib client ref _ _)
    (keepsLive_revertResources lib view ref _ _) fun _ _ present =>
      .inl (StartupCPUBoostImpl.tracked_of_revertResources lib client ref _ _ present).1

theorem deletePodIn (due : TasksDue view inFlight now manager) (boost : BoostRef)
    (podName : String) : TasksDue view inFlight now (manager.deletePodIn lib boost podName) := by
  obtain ⟨metrics, sameMemory⟩ := (manager.boosts boost).deletePod_memory lib manager.memory
    podName
  refine due.setBoost (StartupCPUBoostImpl.touches_deletePod lib 0 _ _ podName) ?_
    fun name tracked present => ?_
  · rw [sameMemory]
    exact (KeepsLive.refl manager.memory).congr rfl rfl
  · rw [StartupCPUBoostImpl.deletePod_pods, GoMap.lookup_erase] at present
    split at present
    · cases present
    · exact .inl present

theorem newPod (due : TasksDue view inFlight now manager)
    (wellFormed : WellFormed inFlight manager) (pod : Pod) :
    TasksDue view inFlight now (manager.newPod pod).2 := by
  intro boost task member
  obtain ⟨expired, current⟩ := due boost task member
  rw [Manager.newPod_pods_of_lt (wellFormed.tasks _ _ member).2.1]
  refine ⟨expired, fun tracked present => ?_⟩
  rw [Manager.newPod_pods_of_lt (wellFormed.tracked _ _ _ present).2]
  exact current tracked present

theorem upsertPodIn_newPod (due : TasksDue view inFlight now manager)
    (wellFormed : WellFormed inFlight manager) {pod : Pod}
    (admitted : Admits view inFlight boost manager pod) :
    TasksDue view inFlight now
      ((manager.newPod pod).2.upsertPodIn lib client now boost (manager.newPod pod).1).2 := by
  have created := manager.newPod_self pod
  refine (due.newPod wellFormed pod).upsertPodIn lib fun task member sameName => ?_
  rw [created] at sameName ⊢
  rw [Manager.newPod_pods_of_lt (wellFormed.tasks _ _ member).2.1] at sameName
  exact admitted task member sameName

theorem newBoost (due : TasksDue view inFlight now manager)
    (wellFormed : WellFormed inFlight manager) (impl : StartupCPUBoostImpl) :
    TasksDue view inFlight now (manager.newBoost impl).2 := by
  intro boost task member
  rw [Manager.newBoost_boosts_of_lt (wellFormed.tasks _ _ member).1]
  exact due boost task member

/-- Replacing the specification of a boost by one whose fixed duration the live
pods of its tasks have outlived. -/
theorem setSpec (due : TasksDue view inFlight now manager) {impl : StartupCPUBoostImpl}
    (samePods : impl.pods = (manager.boosts boost).pods)
    (stillExpired : ∀ task, (boost, task) ∈ inFlight.tasks →
      Expired view now impl manager.memory.server (manager.memory.pods task).key) :
    TasksDue view inFlight now (manager.setBoost boost impl manager.memory) := by
  intro other task member
  by_cases same : other = boost
  · subst other
    rw [Manager.setBoost_boosts_self, samePods]
    exact ⟨stillExpired task member, (due _ task member).2⟩
  · rw [Manager.setBoost_boosts_of_ne same]
    exact due other task member

end TasksDue

section TakingOver

variable (view) in
/-- What holds while pods are taken over for a boost, next to what held at the
start. -/
structure TakesOverDue (inFlight : InFlight) (now : Time) (boost : BoostRef)
    (start current : Manager σ) : Prop where
  due : TasksDue view inFlight now current
  live : SameLive view.live start.memory.server current.memory.server
  names : ∀ task, (boost, task) ∈ inFlight.tasks →
    (current.memory.pods task).name = (start.memory.pods task).name

variable {inFlight : InFlight} {now : Time} {boost : BoostRef} {start current : Manager σ}
  {ref : PodRef} (lib : Library)

theorem TakesOverDue.upsertPodIn (taking : TakesOverDue view inFlight now boost start current)
    (admitted : Admits view inFlight boost current (current.memory.pods ref)) :
    TakesOverDue view inFlight now boost start
      (current.upsertPodIn lib client now boost ref).2 := by
  have kept := keepsLive_upsertPod lib view now ref (current.boosts boost) current.memory
  have touched := StartupCPUBoostImpl.touches_upsertPod lib client now ref (current.boosts boost)
    current.memory
  refine ⟨taking.due.upsertPodIn lib admitted, taking.live.trans kept.live, fun task member => ?_⟩
  exact (congrArg Prod.snd (touched.key_eq task)).trans (taking.names task member)

theorem TakesOverDue.newPod (taking : TakesOverDue view inFlight now boost start current)
    (wellFormed : WellFormed inFlight current) (pod : Pod) :
    TakesOverDue view inFlight now boost start (current.newPod pod).2 := by
  refine ⟨taking.due.newPod wellFormed pod, taking.live, fun task member => ?_⟩
  rw [Manager.newPod_pods_of_lt (wellFormed.tasks _ _ member).2.1]
  exact taking.names task member

theorem TakesOverDue.setServer (taking : TakesOverDue view inFlight now boost start current)
    {server : σ} (same : SameLive view.live current.memory.server server) :
    TakesOverDue view inFlight now boost start
      { current with memory := { current.memory with server } } := by
  refine ⟨fun other task member => ?_, taking.live.trans same, taking.names⟩
  obtain ⟨expired, live⟩ := taking.due other task member
  refine ⟨expired.congr le_rfl rfl fun pod found => same.exists_before found,
    fun tracked present => ?_⟩
  exact (live tracked present).congr same rfl rfl

theorem Admits.upsertPodIn {other : PodRef}
    (admitted : Admits view inFlight boost current (current.memory.pods other)) :
    Admits view inFlight boost (current.upsertPodIn lib client now boost ref).2
      ((current.upsertPodIn lib client now boost ref).2.memory.pods other) := by
  have kept := keepsLive_upsertPod lib view now ref (current.boosts boost) current.memory
  have touched := StartupCPUBoostImpl.touches_upsertPod lib client now ref (current.boosts boost)
    current.memory
  intro task member sameName
  refine kept.current other (admitted task member ?_)
  have taskName := congrArg Prod.snd (touched.key_eq task)
  have otherName := congrArg Prod.snd (touched.key_eq other)
  exact taskName.symm.trans (sameName.trans otherName)

variable (view now) in
/-- The condition on the pods a boost takes over: those under the name of one
of its tasks are the live pods. -/
def TakesOverLive (inFlight : InFlight) (order : RangeOrder String) (boost : BoostRef)
    (manager : Manager σ) : Prop :=
  (∀ podName orphan,
    manager.orphanedPods.get podName (manager.boosts boost).ns = some orphan →
      Admits view inFlight boost manager (manager.memory.pods orphan)) ∧
  ∀ pod, ((manager.indexTimedBoost boost).mapOrphanedPods lib client now order
      boost).2.MeetsInSync client boost pod →
    Admits view inFlight boost manager pod

theorem TasksDue.postProcessNewBoost {manager : Manager σ} {order : RangeOrder String}
    (wellFormed : WellFormed inFlight manager)
    (registered : manager.regularBoosts.get (manager.boosts boost).name
      (manager.boosts boost).ns = some boost)
    (due : TasksDue view inFlight now manager)
    (takesLive : TakesOverLive view now lib inFlight order boost manager) :
    TasksDue view inFlight now (manager.postProcessNewBoost lib client now order boost) := by
  have indexedWellFormed := wellFormed.indexTimedBoost registered
  obtain ⟨timedBoosts, indexed⟩ := manager.indexTimedBoost_eq boost
  simp only [TakesOverLive] at takesLive
  simp only [Manager.postProcessNewBoost]
  rw [indexed] at indexedWellFormed takesLive ⊢
  obtain ⟨orphansLive, listedLive⟩ := takesLive
  have start : TakesOverDue view inFlight now boost { manager with timedBoosts }
      { manager with timedBoosts } :=
    ⟨due.mono (fun _ member => member) rfl rfl rfl, fun _ => rfl, fun _ _ => rfl⟩
  obtain ⟨ranging, mapped, _⟩ := Ranging.mapOrphanedPods lib client
    (P := fun current => TakesOverDue view inFlight now boost { manager with timedBoosts } current ∧
      ∀ ref ∈ manager.orphanedPods.list order (manager.boosts boost).ns,
        Admits view inFlight boost current (current.memory.pods ref))
    indexedWellFormed
    ⟨start, fun ref member => by
      obtain ⟨podName, present⟩ := NamespacedObjects.mem_list.mp member
      exact orphansLive podName ref present⟩
    (fun ref member current _ invariant _ =>
      ⟨invariant.1.upsertPodIn lib (invariant.2 ref member),
        fun other otherMember => (invariant.2 other otherMember).upsertPodIn lib⟩)
    (fun pod current invariant =>
      ⟨⟨invariant.1.due.mono (fun _ member => member) rfl rfl rfl, invariant.1.live,
        invariant.1.names⟩, invariant.2⟩)
  refine (Ranging.syncBoostPods lib client
    (P := TakesOverDue view inFlight now boost { manager with timedBoosts })
    (Q := Admits view inFlight boost manager) ranging mapped ⟨?_, listedLive⟩ ?_).2.due
  · exact mapped.setServer (view.list _ _ _)
  · intro pod admitted _ current ranging taking _
    have newTaking := taking.newPod ranging.wellFormed pod
    refine newTaking.upsertPodIn lib fun task member sameName => ?_
    rw [current.newPod_self pod] at sameName ⊢
    rw [newTaking.names task member] at sameName
    exact (admitted task member sameName).congr taking.live rfl rfl

end TakingOver

variable (lib : Library) (legacyRevertMode : Bool)

variable (view) in
/-- The condition on the events of a run.  When a boost is checked, the objects
found in violation are those of the live pods.  While a task is in flight, the
pod of its name is not replaced, and its boost comes to track no other object
under the name than the live pod's; an update of the boost leaves it a fixed
duration that the live pod has outlived. -/
def KeepsTasksDue (event : ControllerEvent σ) (state : Controller σ) : Prop :=
  let manager := state.manager
  match event with
  | .updateBoost order spec =>
      ∀ boost impl, manager.regularBoosts.get spec.name spec.ns = some boost →
        (manager.boosts boost).updateFromSpec lib spec = .ok impl →
          (∀ task, (boost, task) ∈ state.inFlight.tasks →
            Expired view state.now impl manager.memory.server (manager.memory.pods task).key) ∧
          TakesOverLive view state.now lib state.inFlight order boost
            (manager.setBoost boost impl manager.memory)
  | .upsertPod order pod =>
      ∀ boost, manager.getMatchingBoost order pod = some boost →
        Admits view state.inFlight boost manager pod
  | .checkBoost order =>
      ∀ boost rest, state.inFlight.scanning = boost :: rest →
        ∀ ref ∈ (manager.boosts boost).validatePolicy order state.now fixedDurationPolicyName
            manager.memory,
          ∀ pod, view.live manager.memory.server (manager.memory.pods ref).key = some pod →
            (manager.memory.pods ref).identity = pod.identity
  | .changeServer server =>
      ∀ boost task, (boost, task) ∈ state.inFlight.tasks →
        ∀ pod, view.live server (manager.memory.pods task).key = some pod →
          ∃ earlier, view.live manager.memory.server (manager.memory.pods task).key =
              some earlier ∧ earlier.identity = pod.identity
  | _ => True

namespace TasksDue

variable {state : Controller σ} (due : TasksDue view state.inFlight state.now state.manager)
  (wellFormed : WellFormed state.inFlight state.manager)

include due wellFormed

theorem createBoost (order : RangeOrder String) (spec : StartupCPUBoost) :
    TasksDue view (state.step lib client legacyRevertMode (.createBoost order spec)).inFlight
      (state.step lib client legacyRevertMode (.createBoost order spec)).now
      (state.step lib client legacyRevertMode (.createBoost order spec)).manager := by
  rcases state.step_createBoost lib client legacyRevertMode order spec with
    same | ⟨impl, built, unregistered | ⟨unused, registered⟩⟩
  · rwa [same]
  · rw [unregistered]
    exact due.newBoost wellFormed impl
  · have created := Controller.registerNew_boosts impl state.manager
    have noTasks : ∀ task, (state.manager.nextBoost, task) ∉ state.inFlight.tasks :=
      fun task member => Nat.lt_irrefl _ (wellFormed.tasks _ _ member).1
    have newDue : TasksDue view state.inFlight state.now
        (Controller.registerNew impl state.manager) :=
      (due.newBoost wellFormed impl).mono (fun _ member => member) rfl rfl rfl
    rw [registered]
    refine newDue.postProcessNewBoost lib (wellFormed.registerNew lib built unused) ?_ ?_
    · simp [Controller.registerNew_get, created]
    · exact ⟨fun _ _ _ task member => absurd member (noTasks task),
        fun _ _ task member => absurd member (noTasks task)⟩

theorem updateBoost (order : RangeOrder String) (spec : StartupCPUBoost)
    (allowed : KeepsTasksDue view lib (.updateBoost order spec) state) :
    TasksDue view (state.step lib client legacyRevertMode (.updateBoost order spec)).inFlight
      (state.step lib client legacyRevertMode (.updateBoost order spec)).now
      (state.step lib client legacyRevertMode (.updateBoost order spec)).manager := by
  rcases state.step_updateBoost lib client legacyRevertMode order spec with
    same | ⟨boost, impl, registered, updated, replaced⟩
  · rwa [same]
  · obtain ⟨replacedWellFormed, stillRegistered⟩ :=
      wellFormed.setSpec_of_update lib registered updated
    have impl_eq := StartupCPUBoostImpl.updateFromSpec_ok lib updated
    obtain ⟨stillExpired, takesLive⟩ := allowed boost impl registered updated
    have replacedDue := due.setSpec (by rw [impl_eq]) stillExpired
    rw [replaced]
    refine replacedDue.postProcessNewBoost lib replacedWellFormed ?_ takesLive
    rwa [Manager.setBoost_boosts_self]

theorem upsertPod (order : RangeOrder String) (pod : Pod)
    (allowed : KeepsTasksDue view lib (.upsertPod order pod) state) :
    TasksDue view (state.step lib client legacyRevertMode (.upsertPod order pod)).inFlight
      (state.step lib client legacyRevertMode (.upsertPod order pod)).now
      (state.step lib client legacyRevertMode (.upsertPod order pod)).manager := by
  rcases state.step_upsertPod lib client legacyRevertMode order pod with
    ⟨boost, found, outcome⟩ | ⟨_, orphaned⟩
  · have upserted := due.upsertPodIn_newPod lib wellFormed (allowed boost found)
    rcases outcome with ⟨_, accepted⟩ | ⟨_, failed⟩
    · rw [accepted]
      exact upserted.mono (fun _ member => member) rfl rfl rfl
    · rw [failed]
      exact upserted
  · rw [orphaned]
    exact (due.newPod wellFormed pod).mono (fun _ member => member) rfl rfl rfl

omit wellFormed in
theorem deletePod (order : RangeOrder String) (pod : Pod) :
    TasksDue view state.inFlight state.now (state.manager.deletePod lib order pod).2 := by
  rcases state.manager.deletePod_cases lib order pod with ⟨boost, -, deleted⟩ | ⟨-, deleted⟩
  · rw [deleted]
    exact due.deletePodIn lib _ _
  · rw [deleted]
    exact due.mono (fun _ member => member) rfl rfl rfl

/-- A pod found in violation is tracked as the object that was checked. -/
theorem checkNextBoost (order : RangeOrder String)
    (allowed : KeepsTasksDue view lib (.checkBoost order) state) :
    TasksDue view (state.checkNextBoost order).inFlight (state.checkNextBoost order).now
      (state.checkNextBoost order).manager := by
  unfold KeepsTasksDue at allowed
  simp only [Controller.checkNextBoost]
  cases scanning : state.inFlight.scanning with
  | nil => exact due
  | cons boost rest =>
      have inSync := allowed boost rest scanning
      intro other task member
      rcases List.mem_append.mp member with before | new
      · exact due other task before
      · obtain ⟨_, violated, same⟩ := List.mem_map.mp new
        cases same
        have identical := inSync task violated
        obtain ⟨policy, fixed, ⟨podName, tracked⟩, invalid⟩ :=
          StartupCPUBoostImpl.mem_validatePolicy_iff.mp violated
        obtain ⟨duration, rfl⟩ := wellFormed.fixedPolicy _ _ fixed
        have sameName : (state.manager.memory.pods task).name = podName :=
          congrArg Prod.snd (wellFormed.tracked _ _ _ tracked).1
        constructor
        · intro pod found
          exact ⟨duration, fixed, fixed_expired_mono le_rfl (identical pod found) invalid⟩
        · intro object present
          rw [sameName] at present
          obtain rfl : task = object := Option.some.inj (tracked.symm.trans present)
          exact fun pod found => congrArg Prod.fst (identical pod found)

omit wellFormed in
theorem executeTask (position : Nat) :
    TasksDue view (state.executeTask lib client position).inFlight
      (state.executeTask lib client position).now
      (state.executeTask lib client position).manager := by
  rcases state.executeTask_cases lib client position with same | ⟨boost, ref, -, executed⟩
  · rwa [same]
  · rw [executed]
    exact (due.revertResourcesIn lib boost ref).mono
      (fun _ member => List.mem_of_mem_eraseIdx member) rfl rfl rfl

/-- The pods of other names and the pods that are gone do not matter. -/
theorem changeServer {server : σ}
    (allowed : KeepsTasksDue view lib (.changeServer server) state) :
    TasksDue view state.inFlight state.now
      { state.manager with memory := { state.manager.memory with server } } := by
  intro boost task member
  obtain ⟨expired, current⟩ := due boost task member
  have kept := allowed boost task member
  refine ⟨expired.congr le_rfl rfl kept, fun tracked present => ?_⟩
  have sameKey : (state.manager.memory.pods tracked).key = (state.manager.memory.pods task).key :=
    (wellFormed.tracked _ _ _ present).1.trans
      (Prod.ext (wellFormed.tasks _ _ member).2.2.symm rfl)
  intro pod found
  obtain ⟨earlier, stood, identical⟩ := kept pod (sameKey ▸ found)
  rw [current tracked present earlier (sameKey ▸ stood)]
  exact congrArg Prod.fst identical

theorem step (event : ControllerEvent σ) (allowed : KeepsTasksDue view lib event state) :
    TasksDue view (state.step lib client legacyRevertMode event).inFlight
      (state.step lib client legacyRevertMode event).now
      (state.step lib client legacyRevertMode event).manager := by
  cases event with
  | createBoost order spec => exact due.createBoost lib legacyRevertMode wellFormed order spec
  | updateBoost order spec =>
      exact due.updateBoost lib legacyRevertMode wellFormed order spec allowed
  | deleteBoost ns name => exact due.mono (fun _ member => member) rfl rfl rfl
  | upsertPod order pod => exact due.upsertPod lib legacyRevertMode wellFormed order pod allowed
  | deletePod order pod => exact due.deletePod lib order pod
  | startTick order within =>
      simp only [Controller.step]
      split
      · exact due.mono (fun _ member => member) rfl rfl rfl
      · exact due
  | checkBoost order => exact due.checkNextBoost lib wellFormed order allowed
  | executeTask position => exact due.executeTask lib position
  | passTime duration =>
      intro boost task member
      obtain ⟨expired, current⟩ := due boost task member
      have later : state.now ≤ state.now + (duration : Int) :=
        Int.le_add_of_nonneg_right (Int.natCast_nonneg duration)
      exact ⟨expired.congr later rfl fun pod found => ⟨pod, found, rfl⟩, current⟩
  | changeServer server => exact due.changeServer lib wellFormed allowed

theorem revertsExpired {position : Nat} {boost : BoostRef} {ref : PodRef}
    (task : state.inFlight.tasks[position]? = some (boost, ref)) :
    RevertsExpired view boost ref state
      (state.step lib client legacyRevertMode (.executeTask position)) := by
  have member := List.mem_of_getElem? task
  obtain ⟨expired, current⟩ := due boost ref member
  refine ⟨expired, fun podName tracked before after => ?_⟩
  have executed : ((state.step lib client legacyRevertMode
      (.executeTask position)).manager.boosts boost) =
        ((state.manager.boosts boost).revertResources lib client ref
          state.manager.memory).boost := by
    simp only [Controller.step, Controller.executeTask, task, Manager.revertResourcesIn,
      Manager.setBoost_boosts_self]
  rw [executed] at after
  cases calls : ((state.manager.boosts boost).revertCalls lib client ref
      state.manager.memory).result with
  | error message =>
      rw [StartupCPUBoostImpl.revertResources_of_error lib client ref _ _ calls] at after
      exact absurd before after
  | ok =>
      obtain ⟨stats, metrics, outcome⟩ :=
        StartupCPUBoostImpl.revertResources_of_ok lib client ref _ _ calls
      rw [outcome] at after
      simp only [GoMap.lookup_erase] at after
      by_cases sameName : podName = (state.manager.memory.pods ref).name
      · subst sameName
        obtain ⟨pod, found⟩ := revertPod_ok_live lib view calls
        have sameKey : (state.manager.memory.pods tracked).key =
            (state.manager.memory.pods ref).key :=
          (wellFormed.tracked _ _ _ before).1.trans
            (Prod.ext (wellFormed.tasks _ _ member).2.2.symm rfl)
        exact ⟨pod, found, current tracked before pod (sameKey ▸ found)⟩
      · rw [if_neg sameName] at after
        exact absurd before after

end TasksDue

variable (view) in
/-- In every run whose events meet the condition, each task that is executed
reverts a pod that has outlived the fixed duration its boost has now, and the
entry removed is that pod's. -/
theorem run_revertsExpired (hasClient : Bool) (now : Time) (server : σ)
    (events : List (ControllerEvent σ)) (position : Nat) (boost : BoostRef) (ref : PodRef)
    (allowed : AllowedRun (Controller.step lib client legacyRevertMode)
      (KeepsTasksDue view lib) events (Controller.initial hasClient now server))
    (task : ((Controller.initial hasClient now server).run lib client legacyRevertMode
      events).inFlight.tasks[position]? = some (boost, ref)) :
    RevertsExpired view boost ref
      ((Controller.initial hasClient now server).run lib client legacyRevertMode events)
      ((Controller.initial hasClient now server).run lib client legacyRevertMode
        (events ++ [.executeTask position])) := by
  have start : TasksDue view {} now (Controller.newManager hasClient server) :=
    fun _ _ member => nomatch member
  have preserved : ∀ event (state : Controller σ),
      (WellFormed state.inFlight state.manager ∧
        TasksDue view state.inFlight state.now state.manager) →
        KeepsTasksDue view lib event state →
          (WellFormed (state.step lib client legacyRevertMode event).inFlight
              (state.step lib client legacyRevertMode event).manager ∧
            TasksDue view (state.step lib client legacyRevertMode event).inFlight
              (state.step lib client legacyRevertMode event).now
              (state.step lib client legacyRevertMode event).manager) :=
    fun event state invariant allowed =>
      ⟨invariant.1.step lib client legacyRevertMode event,
        invariant.2.step lib legacyRevertMode invariant.1 event allowed⟩
  obtain ⟨wellFormed, due⟩ := runEvents_invariant preserved
    ⟨WellFormed.newManager hasClient server, start⟩ allowed
  rw [Controller.run_append]
  exact due.revertsExpired lib legacyRevertMode wellFormed task

namespace Reference

/-- The stored pods live. -/
noncomputable abbrev referenceView : LivePods referenceClient :=
  ApiServer.livePods referenceLibrary .arbitrary

/-- The boost is checked long after the pod was scheduled. -/
noncomputable def tickEvents : List (ControllerEvent ApiServer) :=
  [.passTime tickTime, .startTick .arbitrary fun _ => .arbitrary, .checkBoost .arbitrary]

/-- The pod has outlived the minute, so the tick leaves a task for it. -/
theorem run_tickEvents (server : ApiServer) (stats : StartupCPUBoostStats) (metrics : Metrics) :
    Controller.run referenceLibrary referenceClient false tickEvents
        ⟨trackingManager everything (scheduledPod "1" 0) server stats metrics, 0, {}⟩ =
      ⟨trackingManager everything (scheduledPod "1" 0) server stats metrics, tickTime,
        { tasks := [(0, 0)] }⟩ := by
  have timed : (trackingManager everything (scheduledPod "1" 0) server stats
      metrics).timedBoosts.listAll .arbitrary (fun _ => .arbitrary) = [0] :=
    NamespacedObjects.listAll_put_new _ _ _ _ _
  have fixed : (mapDurationPolicy forMinute).lookup fixedDurationPolicyName =
      some (.fixed 60000000000) := by
    decide +kernel
  have violated : ((trackingManager everything (scheduledPod "1" 0) server stats
      metrics).boosts 0).validatePolicy .arbitrary tickTime fixedDurationPolicyName
        (trackingManager everything (scheduledPod "1" 0) server stats metrics).memory = [0] := by
    unfold StartupCPUBoostImpl.validatePolicy
    rw [show ((trackingManager everything (scheduledPod "1" 0) server stats
      metrics).boosts 0).durationPolicies = mapDurationPolicy forMinute from rfl, fixed]
    simp only
    rw [show ((trackingManager everything (scheduledPod "1" 0) server stats
      metrics).boosts 0).pods.rangeValues .arbitrary = [0] from
        GoMap.rangeValues_insert_empty _ _ _]
    rfl
  simp only [Controller.run, tickEvents, runEvents, Controller.step, and_self, if_true, timed,
    Controller.checkNextBoost, zero_add, violated, List.nil_append, List.map_cons, List.map_nil]

theorem run_revertsExpired_scheduledPod :
    RevertsExpired referenceView 0 0
      (started.run referenceLibrary referenceClient false
        (trackEvents everything (scheduledPod "1" 0) (serverWith (scheduledPod "1" 0)) ++
          tickEvents))
      (started.run referenceLibrary referenceClient false
        ((trackEvents everything (scheduledPod "1" 0) (serverWith (scheduledPod "1" 0)) ++
          tickEvents) ++ [.executeTask 0])) := by
  obtain ⟨stats, metrics, tracking⟩ := run_tracking wellFormed_everything
    (show (scheduledPod "1" 0).ns = "default" from rfl)
    (selects_everything (scheduledPod "1" 0).labels) (serverWith (scheduledPod "1" 0))
  refine run_revertsExpired referenceView referenceLibrary false true 0 _ _ 0 0 0
    (allowedRun_append _ ?_ ?_) ?_
  · refine And.intro trivial (And.intro ?_ (And.intro ?_ trivial))
    · rw [show Controller.initial true 0 ⟨∅, []⟩ = started from rfl,
        step_create wellFormed_everything]
      exact fun _ _ member => nomatch member
    · rw [show Controller.initial true 0 ⟨∅, []⟩ = started from rfl,
        step_create wellFormed_everything]
      exact fun _ _ _ member => nomatch member
  · change AllowedRun _ _ tickEvents (started.run referenceLibrary referenceClient false _)
    rw [tracking]
    refine And.intro trivial (And.intro trivial (And.intro ?_ trivial))
    intro boost rest scanning ref violated pod found
    have scanned : boost :: rest = [0] :=
      scanning.symm.trans (NamespacedObjects.listAll_put_new _ _ _ _ _)
    cases scanned
    obtain ⟨_, _, ⟨podName, tracked⟩, _⟩ :=
      StartupCPUBoostImpl.mem_validatePolicy_iff.mp violated
    have zero : ref = 0 := by
      have present : (Finmap.insert (scheduledPod "1" 0).name 0 (∅ : GoMap String PodRef)).lookup
          podName = some ref := tracked
      rw [GoMap.lookup_insert] at present
      split at present
      · exact (Option.some.inj present).symm
      · cases present
    subst zero
    have stored : (serverWith (scheduledPod "1" 0)).pods.lookup (scheduledPod "1" 0).key =
        some (scheduledPod "1" 0) := Finmap.lookup_insert _
    obtain rfl : scheduledPod "1" 0 = pod := Option.some.inj (stored.symm.trans found)
    rfl
  · change (started.run referenceLibrary referenceClient false
      (trackEvents everything (scheduledPod "1" 0) (serverWith (scheduledPod "1" 0)) ++
        tickEvents)).inFlight.tasks[0]? = some (0, 0)
    rw [Controller.run_append, tracking, run_tickEvents]
    rfl

/-- The tick leaves a task for the pod of the first UID.  Then the pod is
replaced by one of the same name that has just been scheduled; the task is
about to revert it in its first second. -/
theorem task_reverts_replaced_pod :
    let reached := started.run referenceLibrary referenceClient false
      ((trackEvents everything (scheduledPod "1" 0) (serverWith (scheduledPod "1" 0)) ++
        tickEvents) ++ [.changeServer (serverWith (scheduledPod "2" tickTime))])
    reached.inFlight.tasks[0]? = some (0, 0) ∧
      referenceView.live reached.manager.memory.server (reached.manager.memory.pods 0).key =
        some (scheduledPod "2" tickTime) ∧
      (reached.manager.boosts 0).durationPolicies.lookup fixedDurationPolicyName =
        some (.fixed 60000000000) ∧
      (DurationPolicy.fixed 60000000000).valid reached.now (scheduledPod "2" tickTime) = true := by
  obtain ⟨stats, metrics, tracking⟩ := run_tracking wellFormed_everything
    (show (scheduledPod "1" 0).ns = "default" from rfl)
    (selects_everything (scheduledPod "1" 0).labels) (serverWith (scheduledPod "1" 0))
  rw [Controller.run_append, Controller.run_append, tracking, run_tickEvents]
  refine ⟨rfl, ?_, ?_, ?_⟩
  · -- Both pods have the same key.
    change (serverWith (scheduledPod "2" tickTime)).pods.lookup (scheduledPod "2" tickTime).key = _
    exact Finmap.lookup_insert _
  · change (mapDurationPolicy forMinute).lookup fixedDurationPolicyName = _
    decide +kernel
  · change fixedDurationValid 60000000000 tickTime [⟨"PodScheduled", "True", tickTime⟩] = true
    decide +kernel

end Reference

end KubeStartupCPUBoost
