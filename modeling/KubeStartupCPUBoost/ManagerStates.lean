import KubeStartupCPUBoost.ControllerWellFormed

/-!
# The states the manager's calls can reach

`Manager.Reachable` closes the empty manager under every call, each on any
object built before: a boost that was deleted may be registered again as the
same object.  The runs of the controller stay within it.

Operations on pods leave the configuration of every boost, and where it is
registered, as they are (`SameConfiguration`).
-/

namespace KubeStartupCPUBoost

variable {σ : Type}

namespace Manager

/-- The same boosts are registered and indexed, and they differ in the pods they
track and their statistics only. -/
structure SameConfiguration (before after : Manager σ) : Prop where
  regularBoosts : after.regularBoosts = before.regularBoosts
  timedBoosts : after.timedBoosts = before.timedBoosts
  boosts : ∀ boost, after.boosts boost =
    { before.boosts boost with
      pods := (after.boosts boost).pods
      stats := (after.boosts boost).stats }

namespace SameConfiguration

variable {start manager : Manager σ} {boost : BoostRef}

theorem refl (manager : Manager σ) : SameConfiguration manager manager :=
  ⟨rfl, rfl, fun _ => rfl⟩

theorem durationPolicies (same : SameConfiguration start manager) (boost : BoostRef) :
    (manager.boosts boost).durationPolicies = (start.boosts boost).durationPolicies := by
  rw [same.boosts boost]

theorem selectsPod (same : SameConfiguration start manager) (boost : BoostRef) (pod : Pod) :
    (manager.boosts boost).selectsPod pod = (start.boosts boost).selectsPod pod := by
  rw [same.boosts boost]
  rfl

theorem getMatchingBoost (same : SameConfiguration start manager) (order : RangeOrder String)
    (pod : Pod) : manager.getMatchingBoost order pod = start.getMatchingBoost order pod := by
  simp only [Manager.getMatchingBoost, same.regularBoosts, same.selectsPod]

/-- Memory and orphaned pods are no part of it. -/
theorem congr (same : SameConfiguration start manager) (orphanedPods : NamespacedObjects PodRef)
    (memory : Memory σ) : SameConfiguration start { manager with orphanedPods, memory } :=
  ⟨same.regularBoosts, same.timedBoosts, same.boosts⟩

theorem newPod (same : SameConfiguration start manager) (pod : Pod) :
    SameConfiguration start (manager.newPod pod).2 :=
  same.congr _ _

theorem setBoost (same : SameConfiguration start manager) {ref : PodRef}
    {impl : StartupCPUBoostImpl} {memory : Memory σ}
    (touched : (manager.boosts boost).Touches ref impl manager.memory memory) :
    SameConfiguration start (manager.setBoost boost impl memory) := by
  refine ⟨same.regularBoosts, same.timedBoosts, fun other => ?_⟩
  by_cases isBoost : other = boost
  · subst other
    rw [setBoost_boosts_self, touched.boost_eq, same.boosts boost]
  · rw [setBoost_boosts_of_ne isBoost]
    exact same.boosts other

variable (lib : Library) (client : PodClient σ) (now : Time) (order : RangeOrder String)

theorem upsertPodIn (same : SameConfiguration start manager) (ref : PodRef) :
    SameConfiguration start (manager.upsertPodIn lib client now boost ref).2 :=
  same.setBoost (StartupCPUBoostImpl.touches_upsertPod lib client now ref _ _)

theorem revertResourcesIn (same : SameConfiguration start manager) (ref : PodRef) :
    SameConfiguration start (manager.revertResourcesIn lib client boost ref).2 :=
  same.setBoost (StartupCPUBoostImpl.touches_revertResources lib client ref _ _)

theorem deletePodIn (same : SameConfiguration start manager) (podName : String) :
    SameConfiguration start (manager.deletePodIn lib boost podName) :=
  same.setBoost (StartupCPUBoostImpl.touches_deletePod lib 0 _ _ podName)

theorem mapOrphanedPods (same : SameConfiguration start manager) :
    SameConfiguration start (manager.mapOrphanedPods lib client now order boost).2 := by
  apply foldl_deleteOrphanedPod_preserves
  · exact fun pod current kept => kept.congr _ _
  · apply mapMatchingPods_preserves
    · exact fun ref _ current kept _ => kept.upsertPodIn lib client now ref
    · exact same

theorem syncBoostPods (same : SameConfiguration start manager) :
    SameConfiguration start (manager.syncBoostPods lib client now boost).2 := by
  have listed : SameConfiguration start (manager.listBoostPods client boost).2 := same.congr _ _
  exact syncBoostPods_preserves (Q := fun _ => True) lib client same
    ⟨listed, fun _ _ => trivial⟩
    fun pod _ current kept _ => (kept.newPod pod).upsertPodIn lib client now _

/-- Taking over pods for a boost, after its entry in the index of timed boosts. -/
theorem postProcessNewBoost (boost : BoostRef) (manager : Manager σ) :
    SameConfiguration (manager.indexTimedBoost boost)
      (manager.postProcessNewBoost lib client now order boost) :=
  ((refl _).mapOrphanedPods lib client now order).syncBoostPods lib client now

theorem upsertPod (same : SameConfiguration start manager) (ref : PodRef) :
    SameConfiguration start (manager.upsertPod lib client now order ref).2 := by
  rcases manager.upsertPod_cases lib client now order ref with
    ⟨boost, -, ⟨-, succeeded⟩ | ⟨message, -, failed⟩⟩ | ⟨-, orphaned⟩
  · rw [succeeded]
    exact (same.upsertPodIn lib client now ref).congr _ _
  · rw [failed]
    exact same.upsertPodIn lib client now ref
  · rw [orphaned]
    exact same.congr _ _

theorem deletePod (same : SameConfiguration start manager) (pod : Pod) :
    SameConfiguration start (manager.deletePod lib order pod).2 := by
  rcases manager.deletePod_cases lib order pod with ⟨boost, -, deleted⟩ | ⟨-, deleted⟩
  · rw [deleted]
    exact same.deletePodIn lib _
  · rw [deleted]
    exact same.congr _ _

end SameConfiguration

variable (lib : Library) (client : PodClient σ)

/-- The states calls can reach.  A boost or a pod object is built first and then
given to a call. -/
inductive Reachable : Manager σ → Prop
  | newManager (hasClient : Bool) (server : σ) : Reachable (Controller.newManager hasClient server)
  | newBoost {manager : Manager σ} {spec : StartupCPUBoost} {legacyRevertMode : Bool}
      {impl : StartupCPUBoostImpl} (reached : Reachable manager)
      (built : newStartupCPUBoost lib spec legacyRevertMode = .ok impl) :
      Reachable (manager.newBoost impl).2
  | newPod {manager : Manager σ} (reached : Reachable manager) (pod : Pod) :
      Reachable (manager.newPod pod).2
  | addRegularCPUBoost {manager : Manager σ} (reached : Reachable manager) {boost : BoostRef}
      (existing : boost < manager.nextBoost) (now : Time) (order : RangeOrder String) :
      Reachable (manager.addRegularCPUBoost lib client now order boost).2
  | updateRegularCPUBoost {manager : Manager σ} (reached : Reachable manager) (now : Time)
      (order : RangeOrder String) (spec : StartupCPUBoost) :
      Reachable (manager.updateRegularCPUBoost lib client now order spec).2
  | deleteRegularCPUBoost {manager : Manager σ} (reached : Reachable manager) (ns name : String) :
      Reachable (manager.deleteRegularCPUBoost ns name)
  | upsertPod {manager : Manager σ} (reached : Reachable manager) {ref : PodRef}
      (allocated : ref < manager.memory.next) (now : Time) (order : RangeOrder String) :
      Reachable (manager.upsertPod lib client now order ref).2
  | deletePod {manager : Manager σ} (reached : Reachable manager) (order : RangeOrder String)
      (pod : Pod) : Reachable (manager.deletePod lib order pod).2
  | revertResources {manager : Manager σ} (reached : Reachable manager) (boost : BoostRef)
      (ref : PodRef) : Reachable (manager.revertResourcesIn lib client boost ref).2
  | changeServer {manager : Manager σ} (reached : Reachable manager) (server : σ) :
      Reachable { manager with memory := { manager.memory with server } }

variable {lib client}

/-- A boost that has just been registered is found under its own name. -/
@[simp]
theorem register_get_self (boost : BoostRef) (manager : Manager σ) :
    (manager.register boost).regularBoosts.get ((manager.register boost).boosts boost).name
      ((manager.register boost).boosts boost).ns = some boost := by
  simp [register, NamespacedObjects.get_put]

theorem Reachable.wellFormed {manager : Manager σ} (reached : Reachable lib client manager) :
    WellFormed {} manager := by
  induction reached with
  | newManager hasClient server => exact .newManager hasClient server
  | newBoost _ built ih => exact ih.newBoost lib built
  | newPod _ pod ih => exact ih.newPod pod
  | @addRegularCPUBoost manager _ boost existing now order ih =>
      rcases manager.addRegularCPUBoost_cases lib client now order boost with
        unchanged | ⟨unused, added⟩
      · rwa [unchanged]
      · rw [added]
        exact (ih.register existing unused).postProcessNewBoost lib client now order
          (register_get_self boost manager)
  | @updateRegularCPUBoost manager _ now order spec ih =>
      rcases manager.updateRegularCPUBoost_cases lib client now order spec with
        unchanged | ⟨boost, impl, registered, accepted, updated⟩
      · rwa [unchanged]
      · rw [updated]
        obtain ⟨replaced, stillRegistered⟩ := ih.setSpec_of_update lib registered accepted
        refine replaced.postProcessNewBoost lib client now order ?_
        rwa [setBoost_boosts_self]
  | deleteRegularCPUBoost _ ns name ih => exact ih.deleteRegularCPUBoost ns name
  | upsertPod _ allocated now order ih => exact ih.upsertPod lib client now order allocated
  | deletePod _ order pod ih => exact ih.deletePod lib order pod
  | revertResources _ boost ref ih => exact ih.revertResourcesIn lib client boost ref
  | changeServer _ server ih => exact ih.congrMemory rfl rfl rfl

end Manager

namespace ControllerEvent

/-- Events that neither add, update nor delete a boost. -/
def LeavesBoosts : ControllerEvent σ → Prop
  | .createBoost _ _ | .updateBoost _ _ | .deleteBoost _ _ => False
  | _ => True

end ControllerEvent

namespace Controller

variable (lib : Library) (client : PodClient σ) (legacyRevertMode : Bool)

theorem step_sameConfiguration {start : Manager σ} {state : Controller σ}
    (same : Manager.SameConfiguration start state.manager) {event : ControllerEvent σ}
    (leaves : event.LeavesBoosts) :
    Manager.SameConfiguration start
      (state.step lib client legacyRevertMode event).manager := by
  cases event with
  | createBoost order spec => cases leaves
  | updateBoost order spec => cases leaves
  | deleteBoost ns name => cases leaves
  | upsertPod order pod => exact (same.newPod pod).upsertPod lib client state.now order _
  | deletePod order pod => exact same.deletePod lib order pod
  | startTick order within =>
      simp only [step]
      split <;> exact same
  | checkBoost order =>
      have sameManager : (state.step lib client legacyRevertMode (.checkBoost order)).manager =
        state.manager := checkNextBoost_manager state order
      rwa [sameManager]
  | executeTask position =>
      rcases state.executeTask_cases lib client position with unchanged | ⟨boost, ref, -, executed⟩
      · rwa [step, unchanged]
      · rw [step, executed]
        exact same.revertResourcesIn lib client _
  | passTime duration => exact same
  | changeServer server => exact same.congr _ _

theorem run_sameConfiguration {start : Manager σ} {state : Controller σ}
    (same : Manager.SameConfiguration start state.manager) {events : List (ControllerEvent σ)}
    (leave : ∀ event ∈ events, event.LeavesBoosts) :
    Manager.SameConfiguration start
      (state.run lib client legacyRevertMode events).manager := by
  induction events generalizing state with
  | nil => exact same
  | cons event rest ih =>
      obtain ⟨first, later⟩ := List.forall_mem_cons.mp leave
      exact ih (step_sameConfiguration lib client legacyRevertMode same first) later

theorem step_reachable (event : ControllerEvent σ) {state : Controller σ}
    (reached : Manager.Reachable lib client state.manager) :
    Manager.Reachable lib client (state.step lib client legacyRevertMode event).manager := by
  cases event with
  | createBoost order spec =>
      simp only [step]
      cases built : newStartupCPUBoost lib spec legacyRevertMode with
      | error message => exact reached
      | ok impl =>
          exact (reached.newBoost built).addRegularCPUBoost (Nat.lt_succ_self _) state.now order
  | updateBoost order spec => exact reached.updateRegularCPUBoost state.now order spec
  | deleteBoost ns name => exact reached.deleteRegularCPUBoost ns name
  | upsertPod order pod =>
      exact (reached.newPod pod).upsertPod (Nat.lt_succ_self _) state.now order
  | deletePod order pod => exact reached.deletePod order pod
  | startTick order within =>
      simp only [step]
      split <;> exact reached
  | checkBoost order =>
      have sameManager : (state.step lib client legacyRevertMode (.checkBoost order)).manager =
        state.manager := checkNextBoost_manager state order
      rwa [sameManager]
  | executeTask position =>
      rcases state.executeTask_cases lib client position with unchanged | ⟨boost, ref, -, executed⟩
      · rwa [step, unchanged]
      · rw [step, executed]
        exact reached.revertResources _ _
  | passTime duration => exact reached
  | changeServer server => exact reached.changeServer server

/-- Every run of the controller is a sequence of calls to its manager. -/
theorem run_reachable (hasClient : Bool) (now : Time) (server : σ)
    (events : List (ControllerEvent σ)) :
    Manager.Reachable lib client
      ((initial hasClient now server).run lib client legacyRevertMode events).manager := by
  have start : Manager.Reachable lib client (initial hasClient now server).manager :=
    .newManager hasClient server
  exact runEvents_preserves
    (show ∀ event (state : Controller σ), Manager.Reachable lib client state.manager → _ from
      fun event state reached => step_reachable lib client legacyRevertMode event reached) start

end Controller

end KubeStartupCPUBoost
