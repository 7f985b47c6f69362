import KubeStartupCPUBoost.ControllerRun
import KubeStartupCPUBoost.ManagerCalls

/-!
# The exported gauges

The number of boosts in a namespace is exported by counting up and down, and the
number of active containers of a boost by setting a gauge under its key each time
the boost counts.  Deleting a boost counts down whether or not it was registered,
and leaves the gauge of its containers as it is.

`gauges_agree_throughout_iff` says that these deletions are all that can put the
gauges out of step with the manager.
-/

namespace KubeStartupCPUBoost

variable {σ : Type}

/-- The gauges show what the manager has: in every namespace the number of registered
boosts, under every key the active containers of the boost registered there, and
none where no boost is. -/
structure GaugesAgree (manager : Manager σ) : Prop where
  configurations : ∀ ns, (manager.memory.metrics.boostConfigurations.lookup ns).getD 0 =
    manager.regularBoosts.count ns
  registered : ∀ name ns boost, manager.regularBoosts.get name ns = some boost →
    (manager.memory.metrics.boostContainersActive.lookup (ns, name)).getD 0 =
      (manager.boosts boost).stats.activeContainerBoosts
  unregistered : ∀ name ns, manager.regularBoosts.get name ns = none →
    (manager.memory.metrics.boostContainersActive.lookup (ns, name)).getD 0 = 0

namespace Manager

/-- A boost is deleted only when it is registered and has no active containers. -/
def DeletesIdle (call : ManagerCall σ) (manager : Manager σ) : Prop :=
  match call with
  | .deleteRegularCPUBoost ns name =>
      ∃ boost, manager.regularBoosts.get name ns = some boost ∧
        (manager.boosts boost).stats.activeContainerBoosts = 0
  | _ => True

end Manager

/-- The gauges agree, and boosts that are not registered have no active containers. -/
structure InStep (manager : Manager σ) : Prop where
  wellFormed : WellFormed {} manager
  gauges : GaugesAgree manager
  idle : ∀ boost, boost < manager.nextBoost →
    (∀ name ns, manager.regularBoosts.get name ns ≠ some boost) →
      (manager.boosts boost).stats.activeContainerBoosts = 0

namespace InStep

variable {manager : Manager σ} {boost : BoostRef}

theorem newManager (hasClient : Bool) (server : σ) :
    InStep (Controller.newManager hasClient server) where
  wellFormed := .newManager hasClient server
  gauges := {
    configurations := fun _ => rfl
    registered := fun _ _ _ present => nomatch present
    unregistered := fun _ _ _ => rfl }
  idle _ existing := absurd existing (Nat.not_lt_zero _)

/-- Gauges and statistics are all that matters. -/
theorem congr (inStep : InStep manager) {after : Manager σ} (wellFormed : WellFormed {} after)
    (regularBoosts : after.regularBoosts = manager.regularBoosts)
    (nextBoost : after.nextBoost = manager.nextBoost)
    (stats : ∀ boost, (after.boosts boost).stats = (manager.boosts boost).stats)
    (metrics : after.memory.metrics = manager.memory.metrics) : InStep after where
  wellFormed := wellFormed
  gauges := {
    configurations := by
      rw [regularBoosts, metrics]
      exact inStep.gauges.configurations
    registered := by
      simp only [regularBoosts, metrics, stats]
      exact inStep.gauges.registered
    unregistered := by
      simp only [regularBoosts, metrics]
      exact inStep.gauges.unregistered }
  idle := by
    simp only [regularBoosts, nextBoost, stats]
    exact inStep.idle

/-- An operation on a registered boost that counts its containers. -/
theorem setBoost (inStep : InStep manager) {impl : StartupCPUBoostImpl} {memory : Memory σ}
    {name ns : String} (registered : manager.regularBoosts.get name ns = some boost)
    (implName : impl.name = (manager.boosts boost).name)
    (implNs : impl.ns = (manager.boosts boost).ns)
    (counted : impl.Counted manager.memory.metrics memory.metrics)
    (wellFormed : WellFormed {} (manager.setBoost boost impl memory)) :
    InStep (manager.setBoost boost impl memory) := by
  obtain ⟨boostName, boostNs, _⟩ := inStep.wellFormed.regular _ _ _ registered
  have gauge : ∀ key, memory.metrics.boostContainersActive.lookup key =
      if key = (ns, name) then some impl.stats.activeContainerBoosts
      else manager.memory.metrics.boostContainersActive.lookup key := by
    intro key
    rw [counted.2, GoMap.lookup_insert, implNs, implName, boostNs, boostName]
  refine ⟨wellFormed, ⟨fun ns => ?_, fun otherName otherNs other present => ?_,
    fun otherName otherNs absent => ?_⟩, fun other existing notRegistered => ?_⟩
  · change (memory.metrics.boostConfigurations.lookup ns).getD 0 = _
    rw [counted.1]
    exact inStep.gauges.configurations ns
  · change (memory.metrics.boostContainersActive.lookup (otherNs, otherName)).getD 0 = _
    rw [gauge]
    by_cases isKey : (otherNs, otherName) = (ns, name)
    · obtain ⟨rfl, rfl⟩ := Prod.mk.inj isKey
      obtain rfl : boost = other := Option.some.inj (registered.symm.trans present)
      rw [if_pos rfl, Manager.setBoost_boosts_self]
      rfl
    · have different : other ≠ boost := by
        rintro rfl
        obtain ⟨otherName', otherNs', _⟩ := inStep.wellFormed.regular _ _ _ present
        exact isKey (Prod.ext (otherNs'.symm.trans boostNs) (otherName'.symm.trans boostName))
      rw [if_neg isKey, Manager.setBoost_boosts_of_ne different]
      exact inStep.gauges.registered otherName otherNs other present
  · change (memory.metrics.boostContainersActive.lookup (otherNs, otherName)).getD 0 = _
    rw [gauge, if_neg]
    · exact inStep.gauges.unregistered otherName otherNs absent
    · rintro isKey
      obtain ⟨rfl, rfl⟩ := Prod.mk.inj isKey
      exact nomatch absent.symm.trans registered
  · have different : other ≠ boost := by
      rintro rfl
      exact notRegistered name ns registered
    rw [Manager.setBoost_boosts_of_ne different]
    exact inStep.idle other existing notRegistered

variable (lib : Library) (client : PodClient σ) (now : Time)

theorem upsertPodIn (inStep : InStep manager) {ref : PodRef} {name ns : String}
    (registered : manager.regularBoosts.get name ns = some boost)
    (sameNs : (manager.memory.pods ref).ns = (manager.boosts boost).ns)
    (allocated : ref < manager.memory.next) :
    InStep (manager.upsertPodIn lib client now boost ref).2 := by
  have touched := (manager.boosts boost).touches_upsertPod lib client now ref manager.memory
  exact inStep.setBoost registered touched.boost_name touched.boost_ns
    ((manager.boosts boost).counted_upsertPod lib client now ref manager.memory)
    (inStep.wellFormed.upsertPodIn lib client now sameNs allocated)

theorem newPod (inStep : InStep manager) (pod : Pod) : InStep (manager.newPod pod).2 :=
  inStep.congr (inStep.wellFormed.newPod pod) rfl rfl (fun _ => rfl) rfl

theorem deleteOrphanedPod (inStep : InStep manager) (pod : Pod) :
    InStep (manager.deleteOrphanedPod pod) :=
  inStep.congr (inStep.wellFormed.deleteOrphanedPod pod) rfl rfl (fun _ => rfl) rfl

theorem postProcessNewBoost (inStep : InStep manager) (order : RangeOrder String)
    (registered : manager.regularBoosts.get (manager.boosts boost).name
      (manager.boosts boost).ns = some boost) :
    InStep (manager.postProcessNewBoost lib client now order boost) := by
  obtain ⟨timedBoosts, indexed⟩ := manager.indexTimedBoost_eq boost
  have indexedWellFormed := inStep.wellFormed.indexTimedBoost registered
  let holds (current : Manager σ) : Prop := InStep current ∧
    current.regularBoosts.get (manager.boosts boost).name (manager.boosts boost).ns = some boost
  have start : holds (manager.indexTimedBoost boost) := by
    refine ⟨?_, by rw [indexed]; exact registered⟩
    rw [indexed] at indexedWellFormed ⊢
    exact inStep.congr indexedWellFormed rfl rfl (fun _ => rfl) rfl
  obtain ⟨ranging, mapped⟩ := Ranging.mapOrphanedPods lib client (P := holds) indexedWellFormed
    start
    (fun ref member current ranging currentHolds _ => by
      obtain ⟨sameNs, allocated⟩ := ranging.pods ref member
      exact ⟨currentHolds.1.upsertPodIn lib client now currentHolds.2
        (sameNs.trans ranging.boostNs.symm) allocated, currentHolds.2⟩)
    (fun pod current currentHolds => ⟨currentHolds.1.deleteOrphanedPod pod, currentHolds.2⟩)
  have listed : holds (((manager.indexTimedBoost boost).mapOrphanedPods lib client now order
      boost).2.listBoostPods client boost).2 :=
    ⟨mapped.1.congr (ranging.listBoostPods client).wellFormed rfl rfl (fun _ => rfl) rfl, mapped.2⟩
  refine (Ranging.syncBoostPods lib client (P := holds) (Q := fun _ => True) ranging mapped
    ⟨listed, fun _ _ => trivial⟩ ?_).2.1
  intro pod _ sameNs current ranging currentHolds _
  refine ⟨(currentHolds.1.newPod pod).upsertPodIn lib client now currentHolds.2 ?_
    (Nat.lt_succ_self _), currentHolds.2⟩
  rw [Manager.newPod_self]
  exact sameNs.trans ranging.boostNs.symm

theorem newBoost (inStep : InStep manager) {spec : StartupCPUBoost} {legacyRevertMode : Bool}
    {impl : StartupCPUBoostImpl}
    (built : newStartupCPUBoost lib spec legacyRevertMode = .ok impl) :
    InStep (manager.newBoost impl).2 := by
  refine ⟨inStep.wellFormed.newBoost lib built, ⟨inStep.gauges.configurations,
    fun name ns boost present => ?_, inStep.gauges.unregistered⟩, fun boost existing unused => ?_⟩
  · rw [Manager.newBoost_boosts_of_lt (inStep.wellFormed.regular _ _ _ present).2.2]
    exact inStep.gauges.registered name ns boost present
  · by_cases new : boost = manager.nextBoost
    · rw [new, Manager.newBoost_self, newStartupCPUBoost_eq lib built]
    · have old : boost < manager.nextBoost := lt_of_le_of_ne (Nat.lt_succ_iff.mp existing) new
      rw [Manager.newBoost_boosts_of_lt old]
      exact inStep.idle boost old unused

theorem register (inStep : InStep manager) (existing : boost < manager.nextBoost)
    (free : manager.regularBoosts.get (manager.boosts boost).name (manager.boosts boost).ns =
      none) : InStep (manager.register boost) := by
  have unused : ∀ name ns, manager.regularBoosts.get name ns ≠ some boost := by
    intro name ns registered
    obtain ⟨rfl, rfl, _⟩ := inStep.wellFormed.regular _ _ _ registered
    exact nomatch free.symm.trans registered
  refine ⟨inStep.wellFormed.register existing free, ⟨fun ns => ?_,
    fun name ns other present => ?_, fun name ns absent => ?_⟩,
    fun other otherExisting notUsed => ?_⟩
  · have before := inStep.gauges.configurations
    simp only [Manager.register, Metrics.newBoostConfiguration, GoMap.lookup_insert,
      NamespacedObjects.count_put free]
    by_cases ownNs : ns = (manager.boosts boost).ns
    · subst ns
      simp [before]
    · simp [before, ownNs]
  · rcases NamespacedObjects.get_put_eq_some.mp present with
      ⟨⟨rfl, rfl⟩, rfl⟩ | ⟨-, earlier⟩
    · refine (inStep.gauges.unregistered _ _ free).trans ?_
      exact (inStep.idle _ existing unused).symm
    · exact inStep.gauges.registered name ns other earlier
  · simp only [Manager.register, NamespacedObjects.get_put] at absent
    split at absent
    · cases absent
    · exact inStep.gauges.unregistered name ns absent
  · refine inStep.idle other otherExisting fun name ns registered => notUsed name ns ?_
    refine NamespacedObjects.get_put_eq_some.mpr (.inr ⟨?_, registered⟩)
    rintro ⟨rfl, rfl⟩
    cases free.symm.trans registered

theorem deleteRegularCPUBoost (inStep : InStep manager) {ns name : String}
    (registered : manager.regularBoosts.get name ns = some boost)
    (isIdle : (manager.boosts boost).stats.activeContainerBoosts = 0) :
    InStep (manager.deleteRegularCPUBoost ns name) := by
  refine ⟨inStep.wellFormed.deleteRegularCPUBoost ns name, ⟨fun otherNs => ?_,
    fun otherName otherNs other present => ?_, fun otherName otherNs absent => ?_⟩,
    fun other existing notUsed => ?_⟩
  · have before := inStep.gauges.configurations otherNs
    have counts := NamespacedObjects.count_delete registered otherNs
    simp only [Manager.deleteRegularCPUBoost, Metrics.deleteBoostConfiguration,
      GoMap.lookup_insert]
    by_cases sameNs : otherNs = ns
    · subst otherNs
      rw [if_pos rfl] at counts
      rw [if_pos rfl, Option.getD_some, before, ← counts]
      push_cast
      omega
    · rw [if_neg sameNs] at counts
      rw [if_neg sameNs, before, ← counts]
      rfl
  · exact inStep.gauges.registered otherName otherNs other
      (Manager.registered_of_deleteRegularCPUBoost present)
  · simp only [Manager.deleteRegularCPUBoost, NamespacedObjects.get_delete] at absent
    by_cases sameKey : otherName = name ∧ otherNs = ns
    · obtain ⟨rfl, rfl⟩ := sameKey
      exact (inStep.gauges.registered _ _ boost registered).trans isIdle
    · rw [if_neg sameKey] at absent
      exact inStep.gauges.unregistered otherName otherNs absent
  · by_cases isBoost : other = boost
    · subst other
      exact isIdle
    · refine inStep.idle other existing fun otherName otherNs present => ?_
      refine notUsed otherName otherNs ?_
      simp only [Manager.deleteRegularCPUBoost, NamespacedObjects.get_delete]
      rw [if_neg]
      · exact present
      · rintro ⟨rfl, rfl⟩
        exact isBoost (Option.some.inj (present.symm.trans registered))

theorem deletePod (inStep : InStep manager) (order : RangeOrder String) (pod : Pod) :
    InStep (manager.deletePod lib order pod).2 := by
  have wellFormed := inStep.wellFormed.deletePod lib order pod
  rcases manager.deletePod_cases lib order pod with ⟨boost, found, deleted⟩ | ⟨-, deleted⟩
  · rw [deleted] at wellFormed ⊢
    obtain ⟨⟨name, registered⟩, _⟩ := Manager.getMatchingBoost_some found
    have touched := (manager.boosts boost).touches_deletePod lib 0 manager.memory pod.name
    exact inStep.setBoost registered touched.boost_name touched.boost_ns
      ((manager.boosts boost).counted_deletePod lib manager.memory pod.name) wellFormed
  · rw [deleted]
    exact inStep.deleteOrphanedPod pod

theorem upsertPod (inStep : InStep manager) (order : RangeOrder String) {ref : PodRef}
    (allocated : ref < manager.memory.next) :
    InStep (manager.upsertPod lib client now order ref).2 := by
  have wellFormed := inStep.wellFormed.upsertPod lib client now order allocated
  rcases manager.upsertPod_cases lib client now order ref with
    ⟨boost, found, outcome⟩ | ⟨-, orphaned⟩
  · obtain ⟨⟨name, registered⟩, _⟩ := Manager.getMatchingBoost_some found
    have sameNs := (inStep.wellFormed.regular _ _ _ registered).2.1
    have upserted : InStep (manager.upsertPodIn lib client now boost ref).2 :=
      inStep.upsertPodIn lib client now registered sameNs.symm allocated
    rcases outcome with ⟨-, succeeded⟩ | ⟨message, -, failed⟩
    · rw [succeeded]
      exact upserted.deleteOrphanedPod _
    · rw [failed]
      exact upserted
  · rw [orphaned] at wellFormed ⊢
    exact inStep.congr wellFormed rfl rfl (fun _ => rfl) rfl

/-- Every call keeps the gauges in step, if it deletes no boost or an idle one. -/
theorem perform (inStep : InStep manager) {call : ManagerCall σ}
    (deletesIdle : manager.DeletesIdle call) : InStep (manager.perform lib client call) := by
  cases call with
  | newBoost spec legacyRevertMode =>
      simp only [Manager.perform]
      cases built : newStartupCPUBoost lib spec legacyRevertMode with
      | error message => exact inStep
      | ok impl => exact inStep.newBoost lib built
  | newPod pod => exact inStep.newPod pod
  | addRegularCPUBoost now order boost =>
      simp only [Manager.perform]
      by_cases existing : boost < manager.nextBoost
      · rw [if_pos existing]
        rcases manager.addRegularCPUBoost_cases lib client now order boost with
          unchanged | ⟨free, added⟩
        · rwa [unchanged]
        · rw [added]
          exact (inStep.register existing free).postProcessNewBoost lib client now order
            (Manager.register_get_self boost manager)
      · rwa [if_neg existing]
  | updateRegularCPUBoost now order spec =>
      rcases manager.updateRegularCPUBoost_cases lib client now order spec with
        unchanged | ⟨boost, impl, registered, accepted, updated⟩
      · rwa [Manager.perform, unchanged]
      · obtain ⟨replaced, stillRegistered⟩ :=
          inStep.wellFormed.setSpec_of_update lib registered accepted
        have sameStats : ∀ other, ((manager.setBoost boost impl manager.memory).boosts
            other).stats = (manager.boosts other).stats := by
          intro other
          by_cases isBoost : other = boost
          · subst other
            rw [Manager.setBoost_boosts_self, StartupCPUBoostImpl.updateFromSpec_ok lib accepted]
          · rw [Manager.setBoost_boosts_of_ne isBoost]
        rw [Manager.perform, updated]
        refine (inStep.congr replaced rfl rfl sameStats rfl).postProcessNewBoost lib client now
          order ?_
        rwa [Manager.setBoost_boosts_self]
  | deleteRegularCPUBoost ns name =>
      obtain ⟨boost, registered, isIdle⟩ := deletesIdle
      exact inStep.deleteRegularCPUBoost registered isIdle
  | upsertPod now order ref =>
      simp only [Manager.perform]
      by_cases allocated : ref < manager.memory.next
      · rw [if_pos allocated]
        exact inStep.upsertPod lib client now order allocated
      · rwa [if_neg allocated]
  | deletePod order pod => exact inStep.deletePod lib order pod
  | changeServer server =>
      exact inStep.congr (inStep.wellFormed.congrMemory rfl rfl rfl) rfl rfl (fun _ => rfl) rfl

theorem deletesIdle_of_agree (inStep : InStep manager) {call : ManagerCall σ}
    (agree : GaugesAgree (manager.perform lib client call)) : manager.DeletesIdle call := by
  cases call with
  | deleteRegularCPUBoost ns name =>
      have before := inStep.gauges.configurations ns
      cases registered : manager.regularBoosts.get name ns with
      | none =>
          -- The number of boosts stays, and the gauge goes down.
          have after := agree.configurations ns
          simp only [Manager.perform, Manager.deleteRegularCPUBoost,
            Metrics.deleteBoostConfiguration, Finmap.lookup_insert, Option.getD_some, before,
            NamespacedObjects.count_delete_of_none registered] at after
          omega
      | some boost =>
          -- The gauge of the containers stays, and no boost is left to have them.
          refine ⟨boost, registered, ?_⟩
          rw [← inStep.gauges.registered name ns boost registered]
          refine agree.unregistered name ns ?_
          simp [Manager.perform, Manager.deleteRegularCPUBoost, NamespacedObjects.get_delete]
  | newBoost | newPod | addRegularCPUBoost | updateRegularCPUBoost | upsertPod | deletePod
  | changeServer => trivial

end InStep

/-- The gauges agree with the manager after every call of a sequence exactly when each
boost that is deleted is registered and has no active containers. -/
theorem gauges_agree_throughout_iff (lib : Library) (client : PodClient σ) (hasClient : Bool)
    (server : σ) (calls : List (ManagerCall σ)) :
    (∀ taken, GaugesAgree ((Controller.newManager hasClient server).performAll lib client
      (calls.take taken))) ↔
      AllowedRun (Manager.perform lib client) Manager.DeletesIdle calls
        (Controller.newManager hasClient server) :=
  throughout_iff_allowedRun (fun _ inStep => inStep.gauges)
    (fun _ _ inStep deletesIdle => inStep.perform lib client deletesIdle)
    (fun _ _ inStep agree => inStep.deletesIdle_of_agree lib client agree)
    (InStep.newManager hasClient server)

namespace Reference

/-- The one call made is to delete a boost that is not registered.  The namespace has no
boost, and its gauge shows -1. -/
theorem gauge_below_zero :
    let manager := (Controller.newManager true ⟨∅, []⟩).performAll referenceLibrary referenceClient
      [.deleteRegularCPUBoost "default" "boost"]
    manager.memory.metrics.boostConfigurations.lookup "default" = some (-1) ∧
      manager.regularBoosts.count "default" = 0 := by
  constructor
  · exact Finmap.lookup_insert _
  · rfl

end Reference

end KubeStartupCPUBoost
