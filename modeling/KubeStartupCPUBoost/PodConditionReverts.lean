import KubeStartupCPUBoost.ControllerRun
import KubeStartupCPUBoost.ControllerWellFormed

/-!
# Reverts when a pod condition is reached

A boost with a pod condition policy reverts a pod when it learns of it, by an
event, by taking over an orphaned pod or by listing pods.  The policy can also
be replaced, and then the pods already tracked are not looked at again.

`NoMissedRevert` is the property that every tracked pod has been dealt with
under the current policy.  It is preserved as long as a new policy is met by
the pods already tracked, and no boost takes over an orphaned object that
another one still holds, whose revert would change the object under both.
-/

namespace KubeStartupCPUBoost

variable {σ : Type}

/-- Under the boost's pod condition policy, the object has not reached the
condition, or a revert of it failed. -/
def StartupCPUBoostImpl.ConditionHandled (boost : StartupCPUBoostImpl) (memory : Memory σ)
    (ref : PodRef) : Prop :=
  ∀ condition status,
    boost.durationPolicies.lookup podConditionPolicyName =
        some (.podCondition condition status) →
      podConditionValid condition status (memory.pods ref).conditions = true ∨
        ⟨boost.ns, boost.name, ref, some (.podCondition condition status)⟩ ∈
          memory.failedReverts

def NoMissedRevert (manager : Manager σ) : Prop :=
  ∀ name ns boost, manager.regularBoosts.get name ns = some boost →
    ∀ podName ref, (manager.boosts boost).pods.lookup podName = some ref →
      (manager.boosts boost).ConditionHandled manager.memory ref

/-- No pod object is held by two boosts, and no revert is missed. -/
structure Handled (inFlight : InFlight) (manager : Manager σ) : Prop where
  oneHolder : ∀ ref boost other, Holds inFlight manager boost ref →
    Holds inFlight manager other ref → boost = other
  noMissedRevert : NoMissedRevert manager

section Operations

variable {inFlight : InFlight} {manager : Manager σ} {boost : BoostRef} {ref : PodRef}

theorem StartupCPUBoostImpl.ConditionHandled.congr {impl : StartupCPUBoostImpl}
    {memory memory' : Memory σ}
    (handled : impl.ConditionHandled memory ref) (samePod : memory'.pods ref = memory.pods ref)
    (logged : ∀ failed ∈ memory.failedReverts, failed ∈ memory'.failedReverts) :
    impl.ConditionHandled memory' ref := by
  intro condition status policy
  rw [samePod]
  exact (handled condition status policy).imp_right fun failed => logged _ failed

theorem StartupCPUBoostImpl.ConditionHandled.congrBoost {impl impl' : StartupCPUBoostImpl}
    {memory : Memory σ} (handled : impl.ConditionHandled memory ref)
    (same : impl' = { impl with pods := impl'.pods, stats := impl'.stats }) :
    impl'.ConditionHandled memory ref := by
  intro condition status policy
  rw [same] at policy ⊢
  exact handled condition status policy

namespace Handled

/-- Less held and less registered, on the same objects. -/
theorem mono {inFlight' : InFlight} {manager' : Manager σ} (handled : Handled inFlight manager)
    (boosts : manager'.boosts = manager.boosts)
    (pods : manager'.memory.pods = manager.memory.pods)
    (logged : manager'.memory.failedReverts = manager.memory.failedReverts)
    (regular : ∀ name ns boost, manager'.regularBoosts.get name ns = some boost →
      manager.regularBoosts.get name ns = some boost)
    (holds : ∀ boost ref, Holds inFlight' manager' boost ref → Holds inFlight manager boost ref) :
    Handled inFlight' manager' where
  oneHolder ref boost other first second :=
    handled.oneHolder ref boost other (holds _ _ first) (holds _ _ second)
  noMissedRevert name ns boost registered podName ref tracked := by
    rw [boosts] at tracked ⊢
    exact (handled.noMissedRevert name ns boost (regular _ _ _ registered) podName ref
      tracked).congr (by rw [pods]) (by rw [logged]; exact fun _ member => member)

/-- An operation on a pod object that no other boost holds. -/
theorem setBoost (handled : Handled inFlight manager) {impl : StartupCPUBoostImpl}
    {memory : Memory σ} (touched : (manager.boosts boost).Touches ref impl manager.memory memory)
    (sole : ∀ other, Holds inFlight manager other ref → other = boost)
    (tracked : ∀ podName tracked, impl.pods.lookup podName = some tracked →
      (tracked ≠ ref ∧ (manager.boosts boost).pods.lookup podName = some tracked) ∨
        (tracked = ref ∧ impl.ConditionHandled memory ref)) :
    Handled inFlight (manager.setBoost boost impl memory) := by
  -- An object other than the one operated on is held by whoever held it before.
  have before : ∀ holder object, object ≠ ref →
      Holds inFlight (manager.setBoost boost impl memory) holder object →
        Holds inFlight manager holder object := by
    intro holder object different holds
    by_cases same : holder = boost
    · subst holder
      rcases holds with ⟨inUse, podName, present⟩ | task
      · rw [Manager.setBoost_boosts_self] at present
        rcases tracked podName object present with ⟨_, present⟩ | ⟨equal, _⟩
        · exact .inl ⟨inUse, podName, present⟩
        · exact absurd equal different
      · exact .inr task
    · exact (holds_of_setBoost holds).resolve_left same
  have soleAfter : ∀ holder,
      Holds inFlight (manager.setBoost boost impl memory) holder ref → holder = boost :=
    fun holder holds => (holds_of_setBoost holds).elim id (sole holder)
  constructor
  · intro object holder other first second
    by_cases same : object = ref
    · subst object
      rw [soleAfter _ first, soleAfter _ second]
    · exact handled.oneHolder object holder other (before _ _ same first) (before _ _ same second)
  · intro name ns holder registered podName object present
    by_cases same : holder = boost
    · subst holder
      rw [Manager.setBoost_boosts_self] at present ⊢
      rcases tracked podName object present with ⟨different, present⟩ | ⟨rfl, condition⟩
      · have handledBefore := handled.noMissedRevert name ns boost registered podName object present
        exact (handledBefore.congr (touched.pods_of_ne object different)
          touched.failedReverts).congrBoost touched.boost_eq
      · exact condition
    · rw [Manager.setBoost_boosts_of_ne same] at present ⊢
      have different : object ≠ ref := by
        rintro rfl
        exact same (sole holder (.inl ⟨.inl ⟨name, ns, registered⟩, podName, present⟩))
      exact (handled.noMissedRevert name ns holder registered podName object present).congr
        (touched.pods_of_ne object different) touched.failedReverts

variable (lib : Library) (client : PodClient σ) (now : Time)

theorem upsertPodIn (handled : Handled inFlight manager) (wellFormed : WellFormed inFlight manager)
    (sole : ∀ other, Holds inFlight manager other ref → other = boost) :
    Handled inFlight (manager.upsertPodIn lib client now boost ref).2 := by
  have touched := StartupCPUBoostImpl.touches_upsertPod lib client now ref (manager.boosts boost)
    manager.memory
  refine handled.setBoost touched sole fun podName tracked present => ?_
  rcases StartupCPUBoostImpl.tracked_of_upsertPod lib client now ref _ _ present with
    ⟨different, before⟩ | ⟨rfl, rfl, outcome⟩
  · refine .inl ⟨?_, before⟩
    rintro rfl
    exact different (congrArg Prod.snd (wellFormed.tracked _ _ _ before).1).symm
  · refine .inr ⟨rfl, fun condition status policy => ?_⟩
    rw [touched.boost_eq] at policy ⊢
    rcases outcome with ⟨met, samePods⟩ | failed
    · left
      rw [samePods]
      exact met _ policy
    · right
      rw [StartupCPUBoostImpl.failedRevert, policy] at failed
      exact failed

theorem revertResourcesIn (handled : Handled inFlight manager)
    (wellFormed : WellFormed inFlight manager)
    (sole : ∀ other, Holds inFlight manager other ref → other = boost) :
    Handled inFlight (manager.revertResourcesIn lib client boost ref).2 := by
  have touched := StartupCPUBoostImpl.touches_revertResources lib client ref
    (manager.boosts boost) manager.memory
  refine handled.setBoost touched sole fun podName tracked present => ?_
  obtain ⟨before, logged⟩ :=
    StartupCPUBoostImpl.tracked_of_revertResources lib client ref _ _ present
  by_cases same : tracked = ref
  · subst tracked
    refine .inr ⟨rfl, fun condition status policy => .inr ?_⟩
    have sameName := congrArg Prod.snd (wellFormed.tracked _ _ _ before).1
    have failed := logged sameName.symm
    rw [touched.boost_eq] at policy ⊢
    rw [StartupCPUBoostImpl.failedRevert, policy] at failed
    exact failed
  · exact .inl ⟨same, before⟩

theorem deletePodIn (handled : Handled inFlight manager) (wellFormed : WellFormed inFlight manager)
    (boost : BoostRef) (podName : String) :
    Handled inFlight (manager.deletePodIn lib boost podName) := by
  -- Nothing but the tracked pods changes, so any object nobody holds will do.
  refine handled.setBoost
    (StartupCPUBoostImpl.touches_deletePod lib manager.memory.next _ _ podName)
    (fun other holds => absurd (allocated_of_holds wellFormed holds) (Nat.lt_irrefl _))
    fun name tracked present => ?_
  rw [StartupCPUBoostImpl.deletePod_pods, GoMap.lookup_erase] at present
  split at present
  · cases present
  · have allocated := (wellFormed.tracked _ _ _ present).2
    exact .inl ⟨Nat.ne_of_lt allocated, present⟩

theorem newPod (handled : Handled inFlight manager) (wellFormed : WellFormed inFlight manager)
    (pod : Pod) : Handled inFlight (manager.newPod pod).2 where
  oneHolder := handled.oneHolder
  noMissedRevert name ns boost registered podName ref tracked := by
    have allocated := (wellFormed.tracked _ _ _ tracked).2
    exact (handled.noMissedRevert name ns boost registered podName ref tracked).congr
      (Manager.newPod_pods_of_lt allocated pod) fun _ member => member

theorem newBoost (handled : Handled inFlight manager) (wellFormed : WellFormed inFlight manager)
    (impl : StartupCPUBoostImpl) : Handled inFlight (manager.newBoost impl).2 := by
  have holdsBefore : ∀ boost ref, Holds inFlight (manager.newBoost impl).2 boost ref →
      Holds inFlight manager boost ref := by
    rintro boost ref (⟨inUse, tracked⟩ | task)
    · rw [Manager.newBoost_boosts_of_lt (inUse_lt wellFormed inUse)] at tracked
      exact .inl ⟨inUse, tracked⟩
    · exact .inr task
  constructor
  · exact fun ref boost other first second =>
      handled.oneHolder ref boost other (holdsBefore _ _ first) (holdsBefore _ _ second)
  · intro name ns boost registered podName ref tracked
    rw [Manager.newBoost_boosts_of_lt (wellFormed.regular _ _ _ registered).2.2] at tracked ⊢
    exact handled.noMissedRevert name ns boost registered podName ref tracked

theorem register (handled : Handled inFlight manager)
    (noPods : (manager.boosts boost).pods = ∅) : Handled inFlight (manager.register boost) := by
  have registeredBefore : ∀ other name ns podName ref,
      (manager.register boost).regularBoosts.get name ns = some other →
        (manager.boosts other).pods.lookup podName = some ref →
          manager.regularBoosts.get name ns = some other := by
    intro other name ns podName ref registered tracked
    simp only [Manager.register, NamespacedObjects.get_put] at registered
    split at registered
    · cases registered
      rw [noPods] at tracked
      cases tracked
    · exact registered
  have holdsBefore : ∀ other ref, Holds inFlight (manager.register boost) other ref →
      Holds inFlight manager other ref := by
    rintro other ref (⟨⟨name, ns, registered⟩ | scanning, podName, tracked⟩ | task)
    · exact .inl ⟨.inl ⟨name, ns, registeredBefore _ _ _ _ _ registered tracked⟩, podName, tracked⟩
    · exact .inl ⟨.inr scanning, podName, tracked⟩
    · exact .inr task
  constructor
  · exact fun ref boost other first second =>
      handled.oneHolder ref boost other (holdsBefore _ _ first) (holdsBefore _ _ second)
  · intro name ns other registered podName ref tracked
    exact handled.noMissedRevert name ns other
      (registeredBefore _ _ _ _ _ registered tracked) podName ref tracked

theorem setSpec (handled : Handled inFlight manager) {impl : StartupCPUBoostImpl}
    (samePods : impl.pods = (manager.boosts boost).pods)
    (met : ∀ podName ref, (manager.boosts boost).pods.lookup podName = some ref →
      impl.ConditionHandled manager.memory ref) :
    Handled inFlight (manager.setBoost boost impl manager.memory) := by
  have holdsBefore : ∀ other ref,
      Holds inFlight (manager.setBoost boost impl manager.memory) other ref →
        Holds inFlight manager other ref := by
    rintro other ref (⟨inUse, tracked⟩ | task)
    · refine .inl ⟨inUse, ?_⟩
      by_cases same : other = boost
      · subst other
        rwa [Manager.setBoost_boosts_self, samePods] at tracked
      · rwa [Manager.setBoost_boosts_of_ne same] at tracked
    · exact .inr task
  constructor
  · exact fun ref boost other first second =>
      handled.oneHolder ref boost other (holdsBefore _ _ first) (holdsBefore _ _ second)
  · intro name ns other registered podName ref tracked
    by_cases same : other = boost
    · subst other
      rw [Manager.setBoost_boosts_self] at tracked ⊢
      rw [samePods] at tracked
      exact met podName ref tracked
    · rw [Manager.setBoost_boosts_of_ne same] at tracked ⊢
      exact handled.noMissedRevert name ns other registered podName ref tracked

/-- A pod object that has just been allocated. -/
theorem upsertPodIn_newPod (handled : Handled inFlight manager)
    (wellFormed : WellFormed inFlight manager) (pod : Pod) :
    Handled inFlight
      ((manager.newPod pod).2.upsertPodIn lib client now boost (manager.newPod pod).1).2 := by
  refine (handled.newPod wellFormed pod).upsertPodIn lib client now (wellFormed.newPod pod)
    fun other holds => ?_
  have allocated : manager.memory.next < manager.memory.next := allocated_of_holds wellFormed holds
  exact absurd allocated (Nat.lt_irrefl _)

end Handled

/-- The invariant of the loop over the orphaned pods: nobody else holds one that
the boost matches. -/
structure TakingOver (inFlight : InFlight) (boost : BoostRef) (refs : List PodRef)
    (manager : Manager σ) : Prop where
  handled : Handled inFlight manager
  sole : ∀ ref ∈ refs, (manager.boosts boost).selectsPod (manager.memory.pods ref) = true →
    ∀ other, Holds inFlight manager other ref → other = boost

variable (lib : Library) (client : PodClient σ) (now : Time)

theorem TakingOver.upsertPodIn {refs : List PodRef}
    (taking : TakingOver inFlight boost refs manager)
    (wellFormed : WellFormed inFlight manager) (member : ref ∈ refs)
    (selected : (manager.boosts boost).selectsPod (manager.memory.pods ref) = true) :
    TakingOver inFlight boost refs (manager.upsertPodIn lib client now boost ref).2 := by
  have touched := StartupCPUBoostImpl.touches_upsertPod lib client now ref (manager.boosts boost)
    manager.memory
  have sole := taking.sole ref member selected
  refine ⟨taking.handled.upsertPodIn lib client now wellFormed sole, ?_⟩
  intro object objectMember objectSelected other holds
  rcases holds_of_setBoost holds with same | before
  · exact same
  · by_cases same : object = ref
    · subst object
      exact sole other before
    · refine taking.sole object objectMember ?_ other before
      simp only [Manager.upsertPodIn, Manager.setBoost_boosts_self] at objectSelected
      rw [touched.boost_eq] at objectSelected
      rw [← touched.pods_of_ne object same]
      exact objectSelected

/-- Taking over pods for a boost, if no other one holds an orphaned object that
it matches. -/
theorem Handled.postProcessNewBoost (handled : Handled inFlight manager)
    (wellFormed : WellFormed inFlight manager) (order : RangeOrder String)
    (registered : manager.regularBoosts.get (manager.boosts boost).name
      (manager.boosts boost).ns = some boost)
    (sole : ∀ name ref, manager.orphanedPods.get name (manager.boosts boost).ns = some ref →
      (manager.boosts boost).selectsPod (manager.memory.pods ref) = true →
        ∀ other, Holds inFlight manager other ref → other = boost) :
    Handled inFlight (manager.postProcessNewBoost lib client now order boost) := by
  have indexedWellFormed := wellFormed.indexTimedBoost registered
  obtain ⟨timedBoosts, indexed⟩ := manager.indexTimedBoost_eq boost
  simp only [Manager.postProcessNewBoost]
  rw [indexed] at indexedWellFormed ⊢
  have start : TakingOver inFlight boost
      (manager.orphanedPods.list order (manager.boosts boost).ns)
      { manager with timedBoosts } := by
    refine ⟨handled.mono rfl rfl rfl (fun _ _ _ present => present) (fun _ _ holds => holds), ?_⟩
    intro ref member selected other holds
    obtain ⟨name, present⟩ := NamespacedObjects.mem_list.mp member
    exact sole name ref present selected other holds
  obtain ⟨ranging, mapped⟩ := Ranging.mapOrphanedPods lib client
    (P := TakingOver inFlight boost (manager.orphanedPods.list order (manager.boosts boost).ns))
    indexedWellFormed start
    (fun ref member current ranging taking selected =>
      taking.upsertPodIn lib client now ranging.wellFormed member selected)
    (fun pod current taking =>
      ⟨taking.handled.mono rfl rfl rfl (fun _ _ _ present => present) fun _ _ holds => holds,
        taking.sole⟩)
  refine (Ranging.syncBoostPods lib client (P := Handled inFlight) (Q := fun _ => True) ranging
    mapped.handled ?_ ?_).2
  · exact ⟨mapped.handled.mono rfl rfl rfl (fun _ _ _ present => present) fun _ _ holds => holds,
      fun _ _ => trivial⟩
  · exact fun pod _ _ current ranging currentHandled _ =>
      currentHandled.upsertPodIn_newPod lib client now ranging.wellFormed pod

end Operations

variable (lib : Library) (client : PodClient σ) (legacyRevertMode : Bool)

/-- The condition on the events of a run.  A boost that is registered or updated
does not match an orphaned pod object that another boost holds; and a policy
that an update brings is met by the pods the boost tracks, unless their revert
under this same policy has failed before. -/
def KeepsConditionsHandled (event : ControllerEvent σ) (state : Controller σ) : Prop :=
  let manager := state.manager
  match event with
  | .createBoost _ spec =>
      ∀ impl, newStartupCPUBoost lib spec legacyRevertMode = .ok impl →
        manager.regularBoosts.get spec.name spec.ns = none →
          ∀ podName ref, manager.orphanedPods.get podName spec.ns = some ref →
            impl.selectsPod (manager.memory.pods ref) = true →
              ∀ other, ¬ Holds state.inFlight manager other ref
  | .updateBoost _ spec =>
      ∀ boost impl, manager.regularBoosts.get spec.name spec.ns = some boost →
        (manager.boosts boost).updateFromSpec lib spec = .ok impl →
          (∀ podName ref, (manager.boosts boost).pods.lookup podName = some ref →
            impl.ConditionHandled manager.memory ref) ∧
          ∀ podName ref, manager.orphanedPods.get podName spec.ns = some ref →
            impl.selectsPod (manager.memory.pods ref) = true →
              ∀ other, Holds state.inFlight manager other ref → other = boost
  | _ => True

namespace Handled

variable {state : Controller σ} (handled : Handled state.inFlight state.manager)
  (wellFormed : WellFormed state.inFlight state.manager)

include handled wellFormed

theorem createBoost (order : RangeOrder String) (spec : StartupCPUBoost)
    (allowed : KeepsConditionsHandled lib legacyRevertMode (.createBoost order spec) state) :
    Handled (state.step lib client legacyRevertMode (.createBoost order spec)).inFlight
      (state.step lib client legacyRevertMode (.createBoost order spec)).manager := by
  rcases state.step_createBoost lib client legacyRevertMode order spec with
    same | ⟨impl, built, unregistered | ⟨unused, registered⟩⟩
  · rwa [same]
  · rw [unregistered]
    exact handled.newBoost wellFormed impl
  · obtain ⟨_, implNs, noPods, _⟩ := newStartupCPUBoost_ok lib built
    have created := Controller.registerNew_boosts impl state.manager
    have handledNew : Handled state.inFlight (Controller.registerNew impl state.manager) :=
      (handled.newBoost wellFormed impl).register (by
        rw [show (state.manager.newBoost impl).2.boosts state.manager.nextBoost = impl from created]
        exact noPods)
    rw [registered]
    refine handledNew.postProcessNewBoost lib client state.now
      (wellFormed.registerNew lib built unused) order ?_ ?_
    · simp [Controller.registerNew_get, created]
    · intro podName ref orphaned selected other holds
      rw [created] at orphaned selected
      rw [implNs] at orphaned
      by_cases new : other = state.manager.nextBoost
      · exact new
      · -- Any other holder held the object before this boost was registered.
        refine absurd ?_ (allowed impl built unused podName ref orphaned selected other)
        rcases holds with ⟨inUse, tracked⟩ | task
        · refine .inl ⟨?_, ?_⟩
          · rcases inUse with ⟨name, ns, present⟩ | scanning
            · rcases Controller.registerNew_get_eq_some.mp present with
                ⟨_, created⟩ | ⟨_, before⟩
              · exact absurd created new
              · exact .inl ⟨name, ns, before⟩
            · exact .inr scanning
          · rwa [show (Controller.registerNew impl state.manager).boosts other =
              state.manager.boosts other from Function.update_of_ne new _ _] at tracked
        · exact .inr task

theorem updateBoost (order : RangeOrder String) (spec : StartupCPUBoost)
    (allowed : KeepsConditionsHandled lib legacyRevertMode (.updateBoost order spec) state) :
    Handled (state.step lib client legacyRevertMode (.updateBoost order spec)).inFlight
      (state.step lib client legacyRevertMode (.updateBoost order spec)).manager := by
  rcases state.step_updateBoost lib client legacyRevertMode order spec with
    same | ⟨boost, impl, registered, updated, replaced⟩
  · rwa [same]
  · obtain ⟨replacedWellFormed, stillRegistered⟩ :=
      wellFormed.setSpec_of_update lib registered updated
    have impl_eq := StartupCPUBoostImpl.updateFromSpec_ok lib updated
    have implNs : impl.ns = spec.ns := by
      rw [impl_eq]
      exact (wellFormed.regular _ _ _ registered).2.1
    have samePods : impl.pods = (state.manager.boosts boost).pods := by rw [impl_eq]
    obtain ⟨met, sole⟩ := allowed boost impl registered updated
    rw [replaced]
    refine (handled.setSpec samePods met).postProcessNewBoost lib client state.now
      replacedWellFormed order ?_ ?_
    · rwa [Manager.setBoost_boosts_self]
    · intro podName ref orphaned selected other holds
      rw [Manager.setBoost_boosts_self] at orphaned selected
      rw [implNs] at orphaned
      rcases holds_of_setBoost holds with same | before
      · exact same
      · exact sole podName ref orphaned selected other before

theorem upsertPod (order : RangeOrder String) (pod : Pod) :
    Handled (state.step lib client legacyRevertMode (.upsertPod order pod)).inFlight
      (state.step lib client legacyRevertMode (.upsertPod order pod)).manager := by
  rcases state.step_upsertPod lib client legacyRevertMode order pod with
    ⟨boost, _, ⟨_, accepted⟩ | ⟨_, failed⟩⟩ | ⟨_, orphaned⟩
  · rw [accepted]
    exact (handled.upsertPodIn_newPod lib client state.now wellFormed pod).mono rfl rfl rfl
      (fun _ _ _ present => present) fun _ _ holds => holds
  · rw [failed]
    exact handled.upsertPodIn_newPod lib client state.now wellFormed pod
  · rw [orphaned]
    exact (handled.newPod wellFormed pod).mono rfl rfl rfl
      (fun _ _ _ present => present) fun _ _ holds => holds

theorem deletePod (order : RangeOrder String) (pod : Pod) :
    Handled state.inFlight (state.manager.deletePod lib order pod).2 := by
  rcases state.manager.deletePod_cases lib order pod with ⟨boost, -, deleted⟩ | ⟨-, deleted⟩
  · rw [deleted]
    exact handled.deletePodIn lib wellFormed _ _
  · rw [deleted]
    exact handled.mono rfl rfl rfl (fun _ _ _ present => present) fun _ _ holds => holds

theorem executeTask (position : Nat) :
    Handled (state.executeTask lib client position).inFlight
      (state.executeTask lib client position).manager := by
  rcases state.executeTask_cases lib client position with same | ⟨boost, ref, task, executed⟩
  · rwa [same]
  · have inFlightTask : (boost, ref) ∈ state.inFlight.tasks := List.mem_of_getElem? task
    have reverted := handled.revertResourcesIn lib client wellFormed
      fun other holds => handled.oneHolder ref other boost holds (.inr inFlightTask)
    rw [executed]
    refine reverted.mono rfl rfl rfl (fun _ _ _ present => present) ?_
    rintro other object (tracked | later)
    · exact .inl tracked
    · exact .inr (List.mem_of_mem_eraseIdx later)

theorem step (event : ControllerEvent σ)
    (allowed : KeepsConditionsHandled lib legacyRevertMode event state) :
    Handled (state.step lib client legacyRevertMode event).inFlight
      (state.step lib client legacyRevertMode event).manager := by
  cases event with
  | createBoost order spec =>
      exact handled.createBoost lib client legacyRevertMode wellFormed order spec allowed
  | updateBoost order spec =>
      exact handled.updateBoost lib client legacyRevertMode wellFormed order spec allowed
  | deleteBoost ns name =>
      exact handled.mono rfl rfl rfl
        (fun _ _ _ registered => Manager.registered_of_deleteRegularCPUBoost registered)
        fun _ _ holds => holds_of_deleteRegularCPUBoost holds
  | upsertPod order pod => exact handled.upsertPod lib client legacyRevertMode wellFormed order pod
  | deletePod order pod => exact handled.deletePod lib wellFormed order pod
  | startTick order within =>
      simp only [Controller.step]
      split
      · exact handled.mono rfl rfl rfl (fun _ _ _ present => present)
          fun _ _ holds => holds_of_startTick wellFormed holds
      · exact handled
  | checkBoost order =>
      have sameManager : (state.step lib client legacyRevertMode (.checkBoost order)).manager =
        state.manager := checkNextBoost_manager state order
      exact handled.mono (by rw [sameManager]) (by rw [sameManager]) (by rw [sameManager])
        (by rw [sameManager]; exact fun _ _ _ present => present)
        fun _ _ holds => holds_of_checkNextBoost holds
  | executeTask position => exact handled.executeTask lib client wellFormed position
  | passTime duration => exact handled
  | changeServer server =>
      exact handled.mono rfl rfl rfl (fun _ _ _ present => present) fun _ _ holds => holds

end Handled

/-- In every state reached by events that meet the condition, every pod tracked
by a registered boost has been dealt with under its pod condition policy. -/
theorem run_noMissedRevert (hasClient : Bool) (now : Time) (server : σ)
    (events : List (ControllerEvent σ))
    (allowed : AllowedRun (Controller.step lib client legacyRevertMode)
      (KeepsConditionsHandled lib legacyRevertMode) events
      (Controller.initial hasClient now server)) :
    NoMissedRevert ((Controller.initial hasClient now server).run lib client legacyRevertMode
      events).manager := by
  have start : Handled {} (Controller.newManager hasClient server) := by
    constructor
    · rintro ref boost other (⟨_, _, tracked⟩ | task)
      · cases tracked
      · cases task
    · intro name ns boost registered
      cases registered
  have preserved : ∀ event (state : Controller σ),
      (WellFormed state.inFlight state.manager ∧ Handled state.inFlight state.manager) →
        KeepsConditionsHandled lib legacyRevertMode event state →
          (WellFormed (state.step lib client legacyRevertMode event).inFlight
              (state.step lib client legacyRevertMode event).manager ∧
            Handled (state.step lib client legacyRevertMode event).inFlight
              (state.step lib client legacyRevertMode event).manager) :=
    fun event state invariant allowed =>
      ⟨invariant.1.step lib client legacyRevertMode event,
        invariant.2.step lib client legacyRevertMode invariant.1 event allowed⟩
  exact (runEvents_invariant preserved ⟨WellFormed.newManager hasClient server, start⟩
    allowed).2.noMissedRevert

namespace Reference

def untilReady : DurationPolicySpec := ⟨none, some ⟨"Ready", "True"⟩⟩

noncomputable def readyPod : Pod :=
  { boostedPod with conditions := [⟨"Ready", "True", 0⟩] }

theorem run_noMissedRevert_readyPod :
    NoMissedRevert (started.run referenceLibrary referenceClient false
      [.createBoost .arbitrary (boostOf everything untilReady),
        .upsertPod .arbitrary readyPod]).manager :=
  run_noMissedRevert referenceLibrary referenceClient false true 0 _ _
    (And.intro (fun _ _ _ _ _ orphaned => nomatch orphaned) (And.intro trivial trivial))

/-- The boost tracks the ready pod under a fixed duration.  An update replaces
the duration by the condition that the pod be ready; the pod stays tracked, and
no revert was attempted. -/
theorem update_misses_ready_pod :
    let reached := (started.run referenceLibrary referenceClient false
      (trackEvents everything readyPod (serverWith readyPod) ++
        [.updateBoost .arbitrary (boostOf everything untilReady)])).manager
    ∃ boost ref, reached.regularBoosts.get "boost" "default" = some boost ∧
      (reached.boosts boost).pods.lookup "web" = some ref ∧
      (reached.boosts boost).durationPolicies.lookup podConditionPolicyName =
        some (.podCondition "Ready" "True") ∧
      podConditionValid "Ready" "True" (reached.memory.pods ref).conditions = false ∧
      reached.memory.failedReverts = [] := by
  obtain ⟨stats, metrics, tracking⟩ := run_tracking wellFormed_everything
    (show readyPod.ns = "default" from rfl) (selects_everything readyPod.labels)
    (serverWith readyPod)
  let tracker := trackingManager everything readyPod (serverWith readyPod) stats metrics
  let updated : StartupCPUBoostImpl :=
    { tracker.boosts 0 with durationPolicies := mapDurationPolicy untilReady }
  let replaced := tracker.setBoost 0 updated tracker.memory
  have update : (tracker.boosts 0).updateFromSpec referenceLibrary
      (boostOf everything untilReady) = .ok updated := by
    simp only [StartupCPUBoostImpl.updateFromSpec, boostOf,
      referenceLibrary.labelSelectorAsSelector_ok _ wellFormed_everything]
    rfl
  have tracked : updated.pods.lookup "web" = some 0 := Finmap.lookup_insert _
  have untimed : replaced.indexTimedBoost 0 = replaced := by
    unfold Manager.indexTimedBoost
    rw [Manager.setBoost_boosts_self]
    rw [if_neg (by decide +kernel : ¬ ((mapDurationPolicy untilReady).lookup
      fixedDurationPolicyName).isSome = true)]
  have mapped : replaced.mapOrphanedPods referenceLibrary referenceClient 0 .arbitrary 0 =
      (.ok (), replaced) :=
    Manager.mapOrphanedPods_of_none _ _ rfl
  have listed : referenceClient.list "default" "boost" (serverWith readyPod) =
      (.ok [readyPod], serverWith readyPod) := by
    have labelled : readyPod.ns = "default" ∧
      readyPod.labels.lookup boostLabelKey = some "boost" := ⟨rfl, Finmap.lookup_insert _⟩
    simp [referenceClient, ApiServer.podClient, serverWith, labelled]
  have synced : replaced.syncBoostPods referenceLibrary referenceClient 0 0 =
      (.ok (), replaced) := by
    refine Manager.syncBoostPods_of_tracked _ _ rfl listed ?_
    rw [Manager.setBoost_boosts_self, List.forall_mem_singleton]
    exact Option.isSome_of_eq_some tracked
  have registered : tracker.regularBoosts.get "boost" "default" = some 0 := by
    simp [tracker, trackingManager, registeredManager, NamespacedObjects.get_put]
  have stepped : tracker.updateRegularCPUBoost referenceLibrary referenceClient 0 .arbitrary
      (boostOf everything untilReady) = (.ok (), replaced) := by
    unfold Manager.updateRegularCPUBoost
    rw [show tracker.regularBoosts.get (boostOf everything untilReady).name
      (boostOf everything untilReady).ns = some 0 from registered]
    simp only [update]
    change (Except.ok (), replaced.postProcessNewBoost referenceLibrary referenceClient 0
      .arbitrary 0) = _
    simp only [Manager.postProcessNewBoost, untimed, mapped, synced]
  have reached : (started.run referenceLibrary referenceClient false
      (trackEvents everything readyPod (serverWith readyPod) ++
        [.updateBoost .arbitrary (boostOf everything untilReady)])).manager = replaced := by
    rw [Controller.run_append, tracking]
    exact congrArg Prod.snd stepped
  rw [reached]
  refine ⟨0, 0, registered, ?_, ?_, ?_, rfl⟩
  · rwa [Manager.setBoost_boosts_self]
  · rw [Manager.setBoost_boosts_self]
    exact Finmap.lookup_insert _
  · rfl

end Reference

end KubeStartupCPUBoost
