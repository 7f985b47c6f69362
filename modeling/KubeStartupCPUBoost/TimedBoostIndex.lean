import KubeStartupCPUBoost.ControllerRun
import KubeStartupCPUBoost.ManagerStates

/-!
# The index of timed boosts

The manager keeps the boosts with a fixed duration policy in a second
collection, which registering and updating a boost only add to.  A boost that
loses its policy stays there; the policy is looked up again when a tick checks
the boost, so the tick's revert tasks are those of the registered boosts
(`mem_revertTasks_iff`).
-/

namespace KubeStartupCPUBoost

variable {σ : Type}

namespace Manager

/-- The revert tasks a tick produces: the loop over the timed boosts, and for
each over the pods that violate its fixed duration. -/
def revertTasks (now : Time) (order : RangeOrder String) (within : String → RangeOrder String)
    (podOrder : BoostRef → RangeOrder String) (manager : Manager σ) : List (BoostRef × PodRef) :=
  (manager.timedBoosts.listAll order within).flatMap fun boost =>
    ((manager.boosts boost).validatePolicy (podOrder boost) now fixedDurationPolicyName
      manager.memory).map fun ref => (boost, ref)

/-- A registered boost with a fixed duration policy, the one given excepted, is
in the index. -/
def TimedIndexed (excepted : Option BoostRef) (manager : Manager σ) : Prop :=
  ∀ name ns boost, manager.regularBoosts.get name ns = some boost → some boost ≠ excepted →
    ((manager.boosts boost).durationPolicies.lookup fixedDurationPolicyName).isSome = true →
      manager.timedBoosts.get name ns = some boost

namespace TimedIndexed

variable {excepted : Option BoostRef} {start manager : Manager σ} {boost : BoostRef}

theorem congr (indexed : TimedIndexed excepted start)
    (same : SameConfiguration start manager) : TimedIndexed excepted manager := by
  intro name ns boost registered notExcepted hasPolicy
  rw [same.regularBoosts] at registered
  rw [same.durationPolicies] at hasPolicy
  rw [same.timedBoosts]
  exact indexed name ns boost registered notExcepted hasPolicy

theorem newBoost (indexed : TimedIndexed none manager) (wellFormed : WellFormed {} manager)
    (impl : StartupCPUBoostImpl) : TimedIndexed none (manager.newBoost impl).2 := by
  intro name ns boost registered notExcepted hasPolicy
  have existing : boost < manager.nextBoost := (wellFormed.regular _ _ _ registered).2.2
  rw [newBoost_boosts_of_lt existing] at hasPolicy
  exact indexed name ns boost registered notExcepted hasPolicy

theorem register (indexed : TimedIndexed none manager) (boost : BoostRef) :
    TimedIndexed (some boost) (manager.register boost) := by
  intro name ns other registered different hasPolicy
  simp only [Manager.register, NamespacedObjects.get_put] at registered
  split at registered
  · exact absurd registered.symm different
  · exact indexed name ns other registered (by simp) hasPolicy

theorem setSpec (indexed : TimedIndexed none manager) (boost : BoostRef)
    (impl : StartupCPUBoostImpl) :
    TimedIndexed (some boost) (manager.setBoost boost impl manager.memory) := by
  intro name ns other registered different hasPolicy
  have isOther : other ≠ boost := fun same => different (congrArg some same)
  rw [setBoost_boosts_of_ne isOther] at hasPolicy
  exact indexed name ns other registered nofun hasPolicy

/-- Only the entry under the boost's own name changes, which was not another
boost's. -/
theorem indexTimedBoost (indexed : TimedIndexed (some boost) manager)
    (wellFormed : WellFormed {} manager)
    (registered : manager.regularBoosts.get (manager.boosts boost).name
      (manager.boosts boost).ns = some boost) :
    TimedIndexed none (manager.indexTimedBoost boost) := by
  simp only [Manager.indexTimedBoost]
  by_cases policy : ((manager.boosts boost).durationPolicies.lookup
      fixedDurationPolicyName).isSome = true
  · rw [if_pos policy]
    intro name ns other otherRegistered _ hasPolicy
    simp only [NamespacedObjects.get_put]
    by_cases ownKey : name = (manager.boosts boost).name ∧ ns = (manager.boosts boost).ns
    · obtain ⟨rfl, rfl⟩ := ownKey
      rw [if_pos ⟨rfl, rfl⟩]
      exact registered.symm.trans otherRegistered
    · rw [if_neg ownKey]
      refine indexed name ns other otherRegistered (fun same => ownKey ?_) hasPolicy
      obtain rfl := Option.some.inj same
      obtain ⟨sameName, sameNs, _⟩ := wellFormed.regular _ _ _ otherRegistered
      exact ⟨sameName.symm, sameNs.symm⟩
  · rw [if_neg policy]
    intro name ns other otherRegistered _ hasPolicy
    refine indexed name ns other otherRegistered (fun same => policy ?_) hasPolicy
    obtain rfl := Option.some.inj same
    exact hasPolicy

variable (lib : Library) (client : PodClient σ) (now : Time) (order : RangeOrder String)

theorem postProcessNewBoost (indexed : TimedIndexed (some boost) manager)
    (wellFormed : WellFormed {} manager)
    (registered : manager.regularBoosts.get (manager.boosts boost).name
      (manager.boosts boost).ns = some boost) :
    TimedIndexed none (manager.postProcessNewBoost lib client now order boost) :=
  (indexed.indexTimedBoost wellFormed registered).congr
    (SameConfiguration.postProcessNewBoost lib client now order boost manager)

theorem deleteRegularCPUBoost (indexed : TimedIndexed none manager) (ns name : String) :
    TimedIndexed none (manager.deleteRegularCPUBoost ns name) := by
  intro otherName otherNs boost registered notExcepted hasPolicy
  obtain ⟨different, before⟩ := NamespacedObjects.get_delete_eq_some.mp registered
  exact NamespacedObjects.get_delete_eq_some.mpr
    ⟨different, indexed otherName otherNs boost before notExcepted hasPolicy⟩

variable {lib client}

theorem of_reachable (reached : Reachable lib client manager) : TimedIndexed none manager := by
  induction reached with
  | newManager hasClient server => exact fun name ns boost registered => nomatch registered
  | newBoost before _ ih => exact ih.newBoost before.wellFormed _
  | newPod _ pod ih => exact ih.congr ((SameConfiguration.refl _).newPod pod)
  | @addRegularCPUBoost manager before boost existing now order ih =>
      rcases manager.addRegularCPUBoost_cases lib client now order boost with
        unchanged | ⟨unused, added⟩
      · rwa [unchanged]
      · rw [added]
        exact (ih.register boost).postProcessNewBoost lib client now order
          (before.wellFormed.register existing unused) (register_get_self boost manager)
  | @updateRegularCPUBoost manager before now order spec ih =>
      rcases manager.updateRegularCPUBoost_cases lib client now order spec with
        unchanged | ⟨boost, impl, registered, accepted, updated⟩
      · rwa [unchanged]
      · obtain ⟨replaced, stillRegistered⟩ :=
          before.wellFormed.setSpec_of_update lib registered accepted
        rw [updated]
        refine (ih.setSpec boost impl).postProcessNewBoost lib client now order replaced ?_
        rwa [setBoost_boosts_self]
  | deleteRegularCPUBoost _ ns name ih => exact ih.deleteRegularCPUBoost ns name
  | upsertPod _ _ now order ih =>
      exact ih.congr ((SameConfiguration.refl _).upsertPod lib client now order _)
  | deletePod _ order pod ih => exact ih.congr ((SameConfiguration.refl _).deletePod lib order pod)
  | revertResources _ boost ref ih =>
      exact ih.congr ((SameConfiguration.refl _).revertResourcesIn lib client ref)
  | changeServer _ server ih => exact ih.congr ((SameConfiguration.refl _).congr _ _)

end TimedIndexed

section Tasks

variable {manager : Manager σ} {now : Time} {order : RangeOrder String}
  {within : String → RangeOrder String} {podOrder : BoostRef → RangeOrder String}

theorem nodup_validatePolicy (wellFormed : WellFormed {} manager) (boost : BoostRef)
    (podOrder : RangeOrder String) (name : String) :
    ((manager.boosts boost).validatePolicy podOrder now name manager.memory).Nodup := by
  unfold StartupCPUBoostImpl.validatePolicy
  split
  · exact List.nodup_nil
  · refine (GoMap.nodup_rangeValues fun key other ref first second => ?_).filter _
    have sameKey := (wellFormed.tracked _ _ _ first).1.symm.trans
      (wellFormed.tracked _ _ _ second).1
    exact congrArg Prod.snd sameKey

/-- A boost object is registered under one name only, hence indexed once. -/
theorem nodup_timedBoosts (wellFormed : WellFormed {} manager) :
    (manager.timedBoosts.listAll order within).Nodup := by
  apply NamespacedObjects.nodup_listAll
  intro name ns other otherNs boost first second
  obtain ⟨sameName, sameNs, _⟩ := wellFormed.regular _ _ _ (wellFormed.timed _ _ _ first)
  obtain ⟨sameOther, sameOtherNs, _⟩ := wellFormed.regular _ _ _ (wellFormed.timed _ _ _ second)
  exact ⟨sameName.symm.trans sameOther, sameNs.symm.trans sameOtherNs⟩

theorem nodup_revertTasks (wellFormed : WellFormed {} manager) :
    (manager.revertTasks now order within podOrder).Nodup := by
  rw [revertTasks, List.nodup_flatMap]
  constructor
  · intro boost _
    exact (nodup_validatePolicy wellFormed boost _ _).map fun _ _ same => congrArg Prod.snd same
  · refine (nodup_timedBoosts wellFormed).imp fun different task first second => ?_
    obtain ⟨_, _, rfl⟩ := List.mem_map.mp first
    obtain ⟨_, _, same⟩ := List.mem_map.mp second
    exact different (congrArg Prod.fst same).symm

theorem mem_revertTasks_iff (wellFormed : WellFormed {} manager)
    (indexed : TimedIndexed none manager) {boost : BoostRef} {ref : PodRef} :
    (boost, ref) ∈ manager.revertTasks now order within podOrder ↔
      (∃ name ns, manager.regularBoosts.get name ns = some boost) ∧
        ∃ policy,
          (manager.boosts boost).durationPolicies.lookup fixedDurationPolicyName = some policy ∧
            (∃ podName, (manager.boosts boost).pods.lookup podName = some ref) ∧
              policy.valid now (manager.memory.pods ref) = false := by
  simp only [revertTasks, List.mem_flatMap, List.mem_map, NamespacedObjects.mem_listAll,
    StartupCPUBoostImpl.mem_validatePolicy_iff]
  constructor
  · rintro ⟨_, ⟨name, ns, timed⟩, _, violated, same⟩
    cases same
    exact ⟨⟨name, ns, wellFormed.timed _ _ _ timed⟩, violated⟩
  · rintro ⟨⟨name, ns, registered⟩, policy, found, violated⟩
    have timed := indexed name ns boost registered nofun (by rw [found]; rfl)
    exact ⟨boost, ⟨name, ns, timed⟩, ref, ⟨policy, found, violated⟩, rfl⟩

end Tasks

/-- In every reachable state a tick produces one task for each pod tracked by a
registered boost on which the boost's fixed duration policy is not valid, and no
other task. -/
theorem revertTasks_exact (lib : Library) (client : PodClient σ) (manager : Manager σ)
    (reached : Reachable lib client manager) (now : Time) (order : RangeOrder String)
    (within : String → RangeOrder String) (podOrder : BoostRef → RangeOrder String) :
    (manager.revertTasks now order within podOrder).Nodup ∧
      ∀ boost ref, (boost, ref) ∈ manager.revertTasks now order within podOrder ↔
        (∃ name ns, manager.regularBoosts.get name ns = some boost) ∧
          ∃ policy,
            (manager.boosts boost).durationPolicies.lookup fixedDurationPolicyName = some policy ∧
              (∃ podName, (manager.boosts boost).pods.lookup podName = some ref) ∧
                policy.valid now (manager.memory.pods ref) = false :=
  ⟨nodup_revertTasks reached.wellFormed,
    fun _ _ => mem_revertTasks_iff reached.wellFormed (.of_reachable reached)⟩

end Manager

namespace Reference

theorem revertTasks_exact_scheduledPod :
    (0, 0) ∈ (started.run referenceLibrary referenceClient false (trackEvents everything
      (scheduledPod "1" 0) (serverWith (scheduledPod "1" 0)))).manager.revertTasks tickTime
        .arbitrary (fun _ => .arbitrary) fun _ => .arbitrary := by
  have reached : Manager.Reachable referenceLibrary referenceClient
      (started.run referenceLibrary referenceClient false (trackEvents everything
        (scheduledPod "1" 0) (serverWith (scheduledPod "1" 0)))).manager :=
    Controller.run_reachable referenceLibrary referenceClient false true 0 _ _
  refine ((Manager.revertTasks_exact referenceLibrary referenceClient _ reached _ _ _ _).2 0
    0).mpr ?_
  obtain ⟨stats, metrics, tracking⟩ := run_tracking wellFormed_everything
    (show (scheduledPod "1" 0).ns = "default" from rfl)
    (selects_everything (scheduledPod "1" 0).labels) (serverWith (scheduledPod "1" 0))
  rw [tracking]
  refine ⟨⟨"boost", "default", ?_⟩, .fixed 60000000000, ?_, ⟨_, Finmap.lookup_insert _⟩, ?_⟩
  · simp [trackingManager, registeredManager, NamespacedObjects.get_put]
  · change (mapDurationPolicy forMinute).lookup fixedDurationPolicyName = _
    decide +kernel
  · change fixedDurationValid 60000000000 tickTime [⟨"PodScheduled", "True", 0⟩] = false
    decide +kernel

end Reference

namespace Controller

variable (lib : Library) (client : PodClient σ) (legacyRevertMode : Bool)

/-- The events of a tick up to its last check, with nothing in between. -/
def tickChecks (order : RangeOrder String) (within : String → RangeOrder String)
    (podOrder : BoostRef → RangeOrder String) (manager : Manager σ) :
    List (ControllerEvent σ) :=
  .startTick order within ::
    (manager.timedBoosts.listAll order within).map fun boost => .checkBoost (podOrder boost)

theorem run_checkBoosts (podOrder : BoostRef → RangeOrder String) (state : Controller σ) :
    state.run lib client legacyRevertMode
        (state.inFlight.scanning.map fun boost => .checkBoost (podOrder boost)) =
      { state with
        inFlight :=
          { scanning := []
            tasks := state.inFlight.tasks ++ state.inFlight.scanning.flatMap fun boost =>
              ((state.manager.boosts boost).validatePolicy (podOrder boost) state.now
                fixedDurationPolicyName state.manager.memory).map fun ref => (boost, ref) } } := by
  obtain ⟨manager, now, scanning, tasks⟩ := state
  induction scanning generalizing tasks with
  | nil => simp [run, runEvents]
  | cons boost rest ih =>
      have checked := ih (tasks ++ ((manager.boosts boost).validatePolicy (podOrder boost) now
        fixedDurationPolicyName manager.memory).map fun ref => (boost, ref))
      rw [List.append_assoc] at checked
      exact checked

/-- A tick leaves the revert tasks of the state it starts in. -/
theorem run_tickChecks (order : RangeOrder String) (within : String → RangeOrder String)
    (podOrder : BoostRef → RangeOrder String) (state : Controller σ) (idle : state.inFlight = {}) :
    state.run lib client legacyRevertMode (tickChecks order within podOrder state.manager) =
      { state with
        inFlight := ⟨[], state.manager.revertTasks state.now order within podOrder⟩ } := by
  obtain ⟨manager, now, inFlight⟩ := state
  cases idle
  exact run_checkBoosts lib client legacyRevertMode podOrder
    ⟨manager, now, manager.timedBoosts.listAll order within, []⟩

end Controller

end KubeStartupCPUBoost
