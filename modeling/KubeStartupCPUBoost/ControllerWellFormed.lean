import KubeStartupCPUBoost.ControllerRun

/-!
# Well-formed states of the controller

`WellFormed` collects what holds in every reachable state without any
condition: objects are found under their own names, the timed boosts are
registered, and what is in flight refers to existing objects.  Each operation
keeps it (`WellFormed.step`).

The rules at the end prove a further invariant of an operation from what one
upsert does to it, in states known to be well formed.
-/

namespace KubeStartupCPUBoost

namespace StartupCPUBoostImpl.Touches

variable {σ : Type} {ref : PodRef} {boost boost' : StartupCPUBoostImpl} {memory memory' : Memory σ}

theorem key_eq (touched : Touches ref boost boost' memory memory') (other : PodRef) :
    (memory'.pods other).key = (memory.pods other).key := by
  by_cases same : other = ref
  · subst other
    exact touched.key
  · rw [touched.pods_of_ne other same]

theorem ns_eq (touched : Touches ref boost boost' memory memory') (other : PodRef) :
    (memory'.pods other).ns = (memory.pods other).ns :=
  congrArg Prod.fst (touched.key_eq other)

theorem boost_ns (touched : Touches ref boost boost' memory memory') : boost'.ns = boost.ns := by
  rw [touched.boost_eq]

theorem boost_name (touched : Touches ref boost boost' memory memory') :
    boost'.name = boost.name := by
  rw [touched.boost_eq]

end StartupCPUBoostImpl.Touches

/-- What holds in every reachable state. -/
structure WellFormed {σ : Type} (inFlight : InFlight) (manager : Manager σ) : Prop where
  regular : ∀ name ns boost, manager.regularBoosts.get name ns = some boost →
    (manager.boosts boost).name = name ∧ (manager.boosts boost).ns = ns ∧
      boost < manager.nextBoost
  timed : ∀ name ns boost, manager.timedBoosts.get name ns = some boost →
    manager.regularBoosts.get name ns = some boost
  tracked : ∀ boost name ref, (manager.boosts boost).pods.lookup name = some ref →
    (manager.memory.pods ref).key = ((manager.boosts boost).ns, name) ∧
      ref < manager.memory.next
  orphaned : ∀ name ns ref, manager.orphanedPods.get name ns = some ref →
    (manager.memory.pods ref).key = (ns, name) ∧ ref < manager.memory.next
  scanning : ∀ boost ∈ inFlight.scanning, boost < manager.nextBoost
  tasks : ∀ boost ref, (boost, ref) ∈ inFlight.tasks → boost < manager.nextBoost ∧
    ref < manager.memory.next ∧ (manager.memory.pods ref).ns = (manager.boosts boost).ns
  delivered : ∀ ref, (manager.memory.delivered ref).key = (manager.memory.pods ref).key
  fixedPolicy : ∀ boost policy,
    (manager.boosts boost).durationPolicies.lookup fixedDurationPolicyName = some policy →
      ∃ duration, policy = .fixed duration

namespace WellFormed

variable {σ : Type} {inFlight : InFlight} {manager : Manager σ}

theorem newManager (hasClient : Bool) (server : σ) :
    WellFormed {} (Controller.newManager hasClient server) where
  regular _ _ _ present := by cases present
  timed _ _ _ present := by cases present
  tracked _ _ _ present := by cases present
  orphaned _ _ _ present := by cases present
  scanning _ member := by cases member
  tasks _ _ member := by cases member
  delivered _ := rfl
  fixedPolicy _ _ present := by cases present

/-- Nothing in it depends on the metrics, the server or the log. -/
theorem congrMemory (wellFormed : WellFormed inFlight manager) {memory : Memory σ}
    (pods : memory.pods = manager.memory.pods) (next : memory.next = manager.memory.next)
    (delivered : memory.delivered = manager.memory.delivered) :
    WellFormed inFlight { manager with memory } where
  regular := wellFormed.regular
  timed := wellFormed.timed
  tracked boost name ref present := by
    simpa only [pods, next] using wellFormed.tracked boost name ref present
  orphaned name ns ref present := by
    simpa only [pods, next] using wellFormed.orphaned name ns ref present
  scanning := wellFormed.scanning
  tasks boost ref member := by
    simpa only [pods, next] using wellFormed.tasks boost ref member
  delivered ref := by simpa only [pods, delivered] using wellFormed.delivered ref
  fixedPolicy := wellFormed.fixedPolicy

/-- An operation on one pod object, after which the boost tracks pods it
tracked before or this one. -/
theorem setBoost (wellFormed : WellFormed inFlight manager) {boost : BoostRef} {ref : PodRef}
    {impl : StartupCPUBoostImpl} {memory : Memory σ}
    (touched : (manager.boosts boost).Touches ref impl manager.memory memory)
    (tracked : ∀ name tracked, impl.pods.lookup name = some tracked →
      (manager.boosts boost).pods.lookup name = some tracked ∨
        (manager.memory.pods tracked).key = ((manager.boosts boost).ns, name) ∧
          tracked < manager.memory.next) :
    WellFormed inFlight (manager.setBoost boost impl memory) := by
  have sameName : ∀ other,
      ((manager.setBoost boost impl memory).boosts other).name = (manager.boosts other).name := by
    intro other
    by_cases same : other = boost
    · subst other
      simpa [Manager.setBoost] using touched.boost_name
    · simp [Manager.setBoost, same]
  have sameNs : ∀ other,
      ((manager.setBoost boost impl memory).boosts other).ns = (manager.boosts other).ns := by
    intro other
    by_cases same : other = boost
    · subst other
      simpa [Manager.setBoost] using touched.boost_ns
    · simp [Manager.setBoost, same]
  have sameNext : (manager.setBoost boost impl memory).memory.next = manager.memory.next :=
    touched.next
  exact {
    regular := fun name ns other present => by
      rw [sameName, sameNs]
      exact wellFormed.regular name ns other present
    timed := wellFormed.timed
    tracked := fun other name found present => by
      rw [sameNs, sameNext]
      change (memory.pods found).key = _ ∧ _
      rw [touched.key_eq]
      by_cases same : other = boost
      · subst other
        simp only [Manager.setBoost, Function.update_self] at present
        rcases tracked name found present with before | key
        · exact wellFormed.tracked boost name found before
        · exact key
      · simp only [Manager.setBoost, Function.update_of_ne same] at present
        exact wellFormed.tracked other name found present
    orphaned := fun name ns found present => by
      rw [sameNext]
      change (memory.pods found).key = _ ∧ _
      rw [touched.key_eq]
      exact wellFormed.orphaned name ns found present
    scanning := wellFormed.scanning
    tasks := fun other found member => by
      rw [sameNs, sameNext]
      change _ ∧ _ ∧ (memory.pods found).ns = _
      rw [touched.ns_eq]
      exact wellFormed.tasks other found member
    delivered := fun found => by
      change (memory.delivered found).key = (memory.pods found).key
      rw [touched.key_eq, touched.delivered]
      exact wellFormed.delivered found
    fixedPolicy := fun other policy present => by
      by_cases same : other = boost
      · subst other
        rw [Manager.setBoost_boosts_self, touched.boost_eq] at present
        exact wellFormed.fixedPolicy _ _ present
      · rw [Manager.setBoost_boosts_of_ne same] at present
        exact wellFormed.fixedPolicy _ _ present }

variable (lib : Library) (client : PodClient σ)

theorem upsertPodIn (wellFormed : WellFormed inFlight manager) (now : Time) {boost : BoostRef}
    {ref : PodRef} (sameNs : (manager.memory.pods ref).ns = (manager.boosts boost).ns)
    (allocated : ref < manager.memory.next) :
    WellFormed inFlight (manager.upsertPodIn lib client now boost ref).2 := by
  refine wellFormed.setBoost
    (StartupCPUBoostImpl.touches_upsertPod lib client now ref _ _) fun name tracked present => ?_
  rcases StartupCPUBoostImpl.tracked_of_upsertPod lib client now ref _ _ present with
    ⟨_, before⟩ | ⟨rfl, rfl, _⟩
  · exact .inl before
  · exact .inr ⟨Prod.ext sameNs rfl, allocated⟩

theorem revertResourcesIn (wellFormed : WellFormed inFlight manager) (boost : BoostRef)
    (ref : PodRef) :
    WellFormed inFlight (manager.revertResourcesIn lib client boost ref).2 :=
  wellFormed.setBoost (StartupCPUBoostImpl.touches_revertResources lib client ref _ _)
    fun _ _ present =>
      .inl (StartupCPUBoostImpl.tracked_of_revertResources lib client ref _ _ present).1

theorem deletePodIn (wellFormed : WellFormed inFlight manager) (boost : BoostRef)
    (podName : String) : WellFormed inFlight (manager.deletePodIn lib boost podName) := by
  refine wellFormed.setBoost
    (StartupCPUBoostImpl.touches_deletePod lib 0 _ _ podName) fun name tracked present => ?_
  rw [StartupCPUBoostImpl.deletePod_pods, GoMap.lookup_erase] at present
  split at present
  · cases present
  · exact .inl present

theorem newPod (wellFormed : WellFormed inFlight manager) (pod : Pod) :
    WellFormed inFlight (manager.newPod pod).2 :=
  { wellFormed with
    tracked := fun boost name ref present => by
      obtain ⟨key, allocated⟩ := wellFormed.tracked boost name ref present
      rw [Manager.newPod_pods_of_lt allocated]
      exact ⟨key, Nat.lt_succ_of_lt allocated⟩
    orphaned := fun name ns ref present => by
      obtain ⟨key, allocated⟩ := wellFormed.orphaned name ns ref present
      rw [Manager.newPod_pods_of_lt allocated]
      exact ⟨key, Nat.lt_succ_of_lt allocated⟩
    tasks := fun boost ref member => by
      obtain ⟨existing, allocated, sameNs⟩ := wellFormed.tasks boost ref member
      rw [Manager.newPod_pods_of_lt allocated]
      exact ⟨existing, Nat.lt_succ_of_lt allocated, sameNs⟩
    delivered := fun ref => by
      by_cases new : ref = manager.memory.next
      · simp [Manager.newPod, new]
      · simpa [Manager.newPod, new] using wellFormed.delivered ref }

theorem newBoost (wellFormed : WellFormed inFlight manager) {spec : StartupCPUBoost}
    {legacyRevertMode : Bool} {impl : StartupCPUBoostImpl}
    (built : newStartupCPUBoost lib spec legacyRevertMode = .ok impl) :
    WellFormed inFlight (manager.newBoost impl).2 := by
  obtain ⟨_, _, noPods, policies⟩ := newStartupCPUBoost_ok lib built
  exact { wellFormed with
    regular := fun name ns boost present => by
      obtain ⟨sameName, sameNs, existing⟩ := wellFormed.regular name ns boost present
      rw [Manager.newBoost_boosts_of_lt existing]
      exact ⟨sameName, sameNs, Nat.lt_succ_of_lt existing⟩
    tracked := fun boost name ref present => by
      by_cases new : boost = manager.nextBoost
      · simp [Manager.newBoost, new, noPods] at present
      · simp only [Manager.newBoost, Function.update_of_ne new] at present ⊢
        exact wellFormed.tracked boost name ref present
    scanning := fun boost member => Nat.lt_succ_of_lt (wellFormed.scanning boost member)
    tasks := fun boost ref member => by
      obtain ⟨existing, allocated, sameNs⟩ := wellFormed.tasks boost ref member
      rw [Manager.newBoost_boosts_of_lt existing]
      exact ⟨Nat.lt_succ_of_lt existing, allocated, sameNs⟩
    fixedPolicy := fun boost policy present => by
      by_cases new : boost = manager.nextBoost
      · rw [new, Manager.newBoost_self, policies] at present
        exact fixed_of_lookup_mapDurationPolicy present
      · simp only [Manager.newBoost, Function.update_of_ne new] at present
        exact wellFormed.fixedPolicy boost policy present }

theorem deleteOrphanedPod (wellFormed : WellFormed inFlight manager) (pod : Pod) :
    WellFormed inFlight (manager.deleteOrphanedPod pod) :=
  { wellFormed with
    orphaned := fun name ns ref present => by
      simp only [Manager.deleteOrphanedPod, NamespacedObjects.get_delete] at present
      split at present
      · cases present
      · exact wellFormed.orphaned name ns ref present }

theorem putOrphanedPod (wellFormed : WellFormed inFlight manager) {ref : PodRef}
    (allocated : ref < manager.memory.next) :
    WellFormed inFlight
      { manager with
        orphanedPods := manager.orphanedPods.put (manager.memory.pods ref).name
          (manager.memory.pods ref).ns ref } :=
  { wellFormed with
    orphaned := fun name ns other present => by
      rcases NamespacedObjects.get_put_eq_some.mp present with ⟨⟨rfl, rfl⟩, rfl⟩ | ⟨-, before⟩
      · exact ⟨rfl, allocated⟩
      · exact wellFormed.orphaned name ns other before }

theorem register (wellFormed : WellFormed inFlight manager) {boost : BoostRef}
    (existing : boost < manager.nextBoost)
    (unused : manager.regularBoosts.get (manager.boosts boost).name (manager.boosts boost).ns =
      none) :
    WellFormed inFlight (manager.register boost) :=
  { wellFormed with
    regular := fun name ns other present => by
      rcases NamespacedObjects.get_put_eq_some.mp present with ⟨⟨rfl, rfl⟩, rfl⟩ | ⟨-, before⟩
      · exact ⟨rfl, rfl, existing⟩
      · exact wellFormed.regular name ns other before
    timed := fun name ns other present => by
      have registered := wellFormed.timed name ns other present
      refine NamespacedObjects.get_put_eq_some.mpr (.inr ⟨?_, registered⟩)
      rintro ⟨rfl, rfl⟩
      rw [unused] at registered
      cases registered }

/-- A boost built under a name that is not in use, with its registration. -/
theorem registerNew (wellFormed : WellFormed inFlight manager) {spec : StartupCPUBoost}
    {legacyRevertMode : Bool} {impl : StartupCPUBoostImpl}
    (built : newStartupCPUBoost lib spec legacyRevertMode = .ok impl)
    (unused : manager.regularBoosts.get spec.name spec.ns = none) :
    WellFormed inFlight (Controller.registerNew impl manager) := by
  obtain ⟨implName, implNs, _⟩ := newStartupCPUBoost_ok lib built
  refine (wellFormed.newBoost lib built).register (Nat.lt_succ_self _) ?_
  rw [Manager.newBoost_self, implName, implNs]
  exact unused

theorem indexTimedBoost (wellFormed : WellFormed inFlight manager) {boost : BoostRef}
    (registered : manager.regularBoosts.get (manager.boosts boost).name
      (manager.boosts boost).ns = some boost) :
    WellFormed inFlight (manager.indexTimedBoost boost) := by
  simp only [Manager.indexTimedBoost]
  split
  · exact { wellFormed with
      timed := fun name ns other present => by
        rcases NamespacedObjects.get_put_eq_some.mp present with ⟨⟨rfl, rfl⟩, rfl⟩ | ⟨-, before⟩
        · exact registered
        · exact wellFormed.timed name ns other before }
  · exact wellFormed

theorem deleteRegularCPUBoost (wellFormed : WellFormed inFlight manager) (ns name : String) :
    WellFormed inFlight (manager.deleteRegularCPUBoost ns name) :=
  { wellFormed with
    regular := fun otherName otherNs boost present => by
      obtain ⟨-, before⟩ := NamespacedObjects.get_delete_eq_some.mp present
      exact wellFormed.regular otherName otherNs boost before
    timed := fun otherName otherNs boost present => by
      obtain ⟨different, before⟩ := NamespacedObjects.get_delete_eq_some.mp present
      exact NamespacedObjects.get_delete_eq_some.mpr
        ⟨different, wellFormed.timed otherName otherNs boost before⟩ }

theorem setSpec (wellFormed : WellFormed inFlight manager) {boost : BoostRef}
    {impl : StartupCPUBoostImpl} (sameName : impl.name = (manager.boosts boost).name)
    (sameNs : impl.ns = (manager.boosts boost).ns)
    (samePods : impl.pods = (manager.boosts boost).pods)
    (fixedPolicy : ∀ policy,
      impl.durationPolicies.lookup fixedDurationPolicyName = some policy →
        ∃ duration, policy = .fixed duration) :
    WellFormed inFlight (manager.setBoost boost impl manager.memory) := by
  have same : ∀ other, (Function.update manager.boosts boost impl other).name =
        (manager.boosts other).name ∧
      (Function.update manager.boosts boost impl other).ns = (manager.boosts other).ns ∧
      (Function.update manager.boosts boost impl other).pods = (manager.boosts other).pods := by
    intro other
    by_cases updated : other = boost
    · subst other
      simp [sameName, sameNs, samePods]
    · simp [updated]
  exact { wellFormed with
    regular := fun name ns other present => by
      simp only [Manager.setBoost, (same other).1, (same other).2.1]
      exact wellFormed.regular name ns other present
    tracked := fun other name ref present => by
      simp only [Manager.setBoost, (same other).2.2] at present
      simp only [Manager.setBoost, (same other).2.1]
      exact wellFormed.tracked other name ref present
    tasks := fun other ref member => by
      simp only [Manager.setBoost, (same other).2.1]
      exact wellFormed.tasks other ref member
    fixedPolicy := fun other policy present => by
      by_cases updated : other = boost
      · subst other
        rw [Manager.setBoost_boosts_self] at present
        exact fixedPolicy policy present
      · rw [Manager.setBoost_boosts_of_ne updated] at present
        exact wellFormed.fixedPolicy other policy present }

end WellFormed

/-- The boost a loop works for and the pod objects it goes through belong to
one namespace. -/
structure Ranging {σ : Type} (inFlight : InFlight) (boost : BoostRef) (ns : String)
    (refs : List PodRef) (manager : Manager σ) : Prop where
  wellFormed : WellFormed inFlight manager
  boostNs : (manager.boosts boost).ns = ns
  pods : ∀ ref ∈ refs, (manager.memory.pods ref).ns = ns ∧ ref < manager.memory.next

namespace Ranging

variable {σ : Type} {inFlight : InFlight} {boost : BoostRef} {ns : String} {refs : List PodRef}
  {manager : Manager σ} (lib : Library) (client : PodClient σ) {now : Time}
  {order : RangeOrder String} {P : Manager σ → Prop}

theorem orphanedPods (wellFormed : WellFormed inFlight manager) :
    Ranging inFlight boost (manager.boosts boost).ns
      (manager.orphanedPods.list order (manager.boosts boost).ns) manager where
  wellFormed := wellFormed
  boostNs := rfl
  pods ref member := by
    obtain ⟨name, present⟩ := NamespacedObjects.mem_list.mp member
    obtain ⟨key, allocated⟩ := wellFormed.orphaned _ _ _ present
    exact ⟨congrArg Prod.fst key, allocated⟩

theorem tail {first : PodRef} (ranging : Ranging inFlight boost ns (first :: refs) manager) :
    Ranging inFlight boost ns refs manager :=
  { ranging with pods := fun ref member => ranging.pods ref (List.mem_cons_of_mem _ member) }

theorem upsertPodIn (ranging : Ranging inFlight boost ns refs manager) {ref : PodRef}
    (sameNs : (manager.memory.pods ref).ns = ns) (allocated : ref < manager.memory.next) :
    Ranging inFlight boost ns refs (manager.upsertPodIn lib client now boost ref).2 := by
  have touched := StartupCPUBoostImpl.touches_upsertPod lib client now ref
    (manager.boosts boost) manager.memory
  refine ⟨ranging.wellFormed.upsertPodIn lib client now (sameNs.trans ranging.boostNs.symm)
    allocated, ?_, fun other member => ?_⟩
  · simpa [Manager.upsertPodIn, Manager.setBoost] using touched.boost_ns.trans ranging.boostNs
  · have kept := ranging.pods other member
    rw [← touched.ns_eq other, ← touched.next] at kept
    exact kept

theorem newPod (ranging : Ranging inFlight boost ns refs manager) (pod : Pod) :
    Ranging inFlight boost ns refs (manager.newPod pod).2 := by
  refine ⟨ranging.wellFormed.newPod pod, ranging.boostNs, fun ref member => ?_⟩
  obtain ⟨sameNs, allocated⟩ := ranging.pods ref member
  rw [Manager.newPod_pods_of_lt allocated]
  exact ⟨sameNs, Nat.lt_succ_of_lt allocated⟩

theorem deleteOrphanedPod (ranging : Ranging inFlight boost ns refs manager) (pod : Pod) :
    Ranging inFlight boost ns refs (manager.deleteOrphanedPod pod) :=
  ⟨ranging.wellFormed.deleteOrphanedPod pod, ranging.boostNs, ranging.pods⟩

theorem listBoostPods (ranging : Ranging inFlight boost ns refs manager) :
    Ranging inFlight boost ns refs (manager.listBoostPods client boost).2 :=
  ⟨ranging.wellFormed.congrMemory rfl rfl rfl, ranging.boostNs, ranging.pods⟩

/-- The loop over the orphaned pods. -/
theorem mapMatchingPods (ranging : Ranging inFlight boost ns refs manager) (start : P manager)
    (upserts : ∀ ref ∈ refs, ∀ manager : Manager σ, Ranging inFlight boost ns refs manager →
      P manager → (manager.boosts boost).selectsPod (manager.memory.pods ref) = true →
        P (manager.upsertPodIn lib client now boost ref).2) :
    Ranging inFlight boost ns refs (manager.mapMatchingPods lib client now boost refs).2.2 ∧
      P (manager.mapMatchingPods lib client now boost refs).2.2 := by
  apply Manager.mapMatchingPods_preserves lib client
    (show ∀ ref ∈ refs, ∀ manager : Manager σ,
      (Ranging inFlight boost ns refs manager ∧ P manager) → _ from ?_) ⟨ranging, start⟩
  rintro ref member manager ⟨ranging, inv⟩ selected
  obtain ⟨sameNs, allocated⟩ := ranging.pods ref member
  exact ⟨ranging.upsertPodIn lib client sameNs allocated,
    upserts ref member manager ranging inv selected⟩

theorem mapOrphanedPods (wellFormed : WellFormed inFlight manager) (start : P manager)
    (upserts : ∀ ref ∈ manager.orphanedPods.list order (manager.boosts boost).ns,
      ∀ current : Manager σ,
        Ranging inFlight boost (manager.boosts boost).ns
            (manager.orphanedPods.list order (manager.boosts boost).ns) current →
          P current → (current.boosts boost).selectsPod (current.memory.pods ref) = true →
            P (current.upsertPodIn lib client now boost ref).2)
    (deletes : ∀ pod (current : Manager σ), P current → P (current.deleteOrphanedPod pod)) :
    let mapped := (manager.mapOrphanedPods lib client now order boost).2
    Ranging inFlight boost (manager.boosts boost).ns [] mapped ∧ P mapped := by
  obtain ⟨ranging, inv⟩ := mapMatchingPods lib client (orphanedPods wellFormed) start upserts
  have deleted := Manager.foldl_deleteOrphanedPod_preserves
    (show ∀ pod (current : Manager σ),
      (Ranging inFlight boost (manager.boosts boost).ns [] current ∧ P current) → _ from
        fun pod current holds => ⟨holds.1.deleteOrphanedPod pod, deletes pod current holds.2⟩)
    (manager.mapMatchingPods lib client now boost
      (manager.orphanedPods.list order (manager.boosts boost).ns)).2.1
    ⟨⟨ranging.wellFormed, ranging.boostNs, by simp⟩, inv⟩
  exact deleted

theorem afterMapping (wellFormed : WellFormed inFlight manager) (now : Time)
    (order : RangeOrder String) (boost : BoostRef) :
    Ranging inFlight boost (manager.boosts boost).ns []
      (manager.mapOrphanedPods lib client now order boost).2 :=
  (mapOrphanedPods lib client (P := fun _ => True) wellFormed trivial
    (fun _ _ _ _ _ _ => trivial) (fun _ _ _ => trivial)).1

theorem syncBoostPods {Q : Pod → Prop} (ranging : Ranging inFlight boost ns [] manager)
    (start : P manager)
    (lists : P (manager.listBoostPods client boost).2 ∧
      ∀ pod, manager.MeetsInSync client boost pod → Q pod)
    (syncs : ∀ pod, Q pod → pod.ns = ns → ∀ manager : Manager σ,
      Ranging inFlight boost ns [] manager → P manager →
        (manager.boosts boost).pods.lookup pod.name = none →
          P ((manager.newPod pod).2.upsertPodIn lib client now boost (manager.newPod pod).1).2) :
    let synced := (manager.syncBoostPods lib client now boost).2
    Ranging inFlight boost ns [] synced ∧ P synced := by
  refine Manager.syncBoostPods_preserves lib client
    (P := fun manager => Ranging inFlight boost ns [] manager ∧ P manager)
    (Q := fun pod => Q pod ∧ pod.ns = ns) ⟨ranging, start⟩
    ⟨⟨ranging.listBoostPods client, lists.1⟩, fun pod meets => ⟨lists.2 pod meets, ?_⟩⟩ ?_
  · obtain ⟨-, pods, answer, member⟩ := meets
    rw [← ranging.boostNs]
    exact client.list_ns _ _ _ pods answer pod member
  · rintro pod ⟨listed, sameNs⟩ manager ⟨ranging, inv⟩ untracked
    refine ⟨(ranging.newPod pod).upsertPodIn lib client ?_ (Nat.lt_succ_self _),
      syncs pod listed sameNs manager ranging inv untracked⟩
    simpa [Manager.newPod] using sameNs

end Ranging

namespace WellFormed

variable {σ : Type} {inFlight : InFlight} {manager : Manager σ} (lib : Library)
  (client : PodClient σ) (now : Time) (order : RangeOrder String)

theorem postProcessNewBoost {boost : BoostRef} (wellFormed : WellFormed inFlight manager)
    (registered : manager.regularBoosts.get (manager.boosts boost).name
      (manager.boosts boost).ns = some boost) :
    WellFormed inFlight (manager.postProcessNewBoost lib client now order boost) := by
  have mapped := Ranging.afterMapping lib client (wellFormed.indexTimedBoost registered) now order
    boost
  exact (Ranging.syncBoostPods lib client (P := fun _ => True) (Q := fun _ => True) mapped trivial
    ⟨trivial, fun _ _ => trivial⟩ (fun _ _ _ _ _ _ _ => trivial)).1.wellFormed

theorem setSpec_of_update (wellFormed : WellFormed inFlight manager) {spec : StartupCPUBoost}
    {boost : BoostRef} {impl : StartupCPUBoostImpl}
    (registered : manager.regularBoosts.get spec.name spec.ns = some boost)
    (updated : (manager.boosts boost).updateFromSpec lib spec = .ok impl) :
    WellFormed inFlight (manager.setBoost boost impl manager.memory) ∧
      (manager.setBoost boost impl manager.memory).regularBoosts.get impl.name impl.ns =
        some boost := by
  have impl_eq := StartupCPUBoostImpl.updateFromSpec_ok lib updated
  obtain ⟨sameName, sameNs, _⟩ := wellFormed.regular _ _ _ registered
  have implName : impl.name = (manager.boosts boost).name := by rw [impl_eq]
  have implNs : impl.ns = (manager.boosts boost).ns := by rw [impl_eq]
  refine ⟨wellFormed.setSpec implName implNs (by rw [impl_eq]) (fun policy present => ?_), ?_⟩
  · rw [impl_eq] at present
    exact fixed_of_lookup_mapDurationPolicy present
  rw [implName, implNs, sameName, sameNs]
  exact registered

theorem upsertPod {ref : PodRef} (wellFormed : WellFormed inFlight manager)
    (allocated : ref < manager.memory.next) :
    WellFormed inFlight (manager.upsertPod lib client now order ref).2 := by
  rcases manager.upsertPod_cases lib client now order ref with
    ⟨boost, found, outcome⟩ | ⟨-, orphaned⟩
  · obtain ⟨⟨name, registered⟩, _⟩ := Manager.getMatchingBoost_some found
    obtain ⟨_, sameNs, _⟩ := wellFormed.regular _ _ _ registered
    have upserted := wellFormed.upsertPodIn lib client now sameNs.symm allocated
    rcases outcome with ⟨-, succeeded⟩ | ⟨message, -, failed⟩
    · rw [succeeded]
      exact upserted.deleteOrphanedPod _
    · rw [failed]
      exact upserted
  · rw [orphaned]
    exact wellFormed.putOrphanedPod allocated

theorem deletePod (wellFormed : WellFormed inFlight manager) (pod : Pod) :
    WellFormed inFlight (manager.deletePod lib order pod).2 := by
  rcases manager.deletePod_cases lib order pod with ⟨boost, -, deleted⟩ | ⟨-, deleted⟩
  · rw [deleted]
    exact wellFormed.deletePodIn lib _ _
  · rw [deleted]
    exact wellFormed.deleteOrphanedPod _

theorem startTick (wellFormed : WellFormed inFlight manager) (order : RangeOrder String)
    (within : String → RangeOrder String) :
    WellFormed { inFlight with scanning := manager.timedBoosts.listAll order within } manager :=
  { wellFormed with
    scanning := fun boost member => by
      obtain ⟨name, ns, timed⟩ := NamespacedObjects.mem_listAll.mp member
      exact (wellFormed.regular _ _ _ (wellFormed.timed _ _ _ timed)).2.2 }

theorem checkNextBoost {state : Controller σ}
    (wellFormed : WellFormed state.inFlight state.manager) (order : RangeOrder String) :
    WellFormed (state.checkNextBoost order).inFlight (state.checkNextBoost order).manager := by
  simp only [Controller.checkNextBoost]
  cases scanning : state.inFlight.scanning with
  | nil => exact wellFormed
  | cons boost rest =>
      have pending : boost < state.manager.nextBoost :=
        wellFormed.scanning boost (by rw [scanning]; exact List.mem_cons_self)
      exact { wellFormed with
        scanning := fun other member =>
          wellFormed.scanning other (by rw [scanning]; exact List.mem_cons_of_mem _ member)
        tasks := fun other ref member => by
          rcases List.mem_append.mp member with before | new
          · exact wellFormed.tasks other ref before
          · obtain ⟨_, violated, same⟩ := List.mem_map.mp new
            cases same
            obtain ⟨_, _, ⟨podName, tracked⟩, _⟩ :=
              StartupCPUBoostImpl.mem_validatePolicy_iff.mp violated
            obtain ⟨key, allocated⟩ := wellFormed.tracked _ _ _ tracked
            exact ⟨pending, allocated, congrArg Prod.fst key⟩ }

theorem executeTask {state : Controller σ}
    (wellFormed : WellFormed state.inFlight state.manager) (position : Nat) :
    WellFormed (state.executeTask lib client position).inFlight
      (state.executeTask lib client position).manager := by
  rcases state.executeTask_cases lib client position with same | ⟨boost, ref, -, executed⟩
  · rwa [same]
  · have reverted := wellFormed.revertResourcesIn lib client boost ref
    rw [executed]
    exact { reverted with
      tasks := fun other otherRef member =>
        reverted.tasks other otherRef (List.mem_of_mem_eraseIdx member) }

variable (legacyRevertMode : Bool)

/-- Every event keeps the state well formed. -/
theorem step (event : ControllerEvent σ) {state : Controller σ}
    (wellFormed : WellFormed state.inFlight state.manager) :
    WellFormed (state.step lib client legacyRevertMode event).inFlight
      (state.step lib client legacyRevertMode event).manager := by
  cases event with
  | createBoost order spec =>
      rcases state.step_createBoost lib client legacyRevertMode order spec with
        same | ⟨impl, built, unregistered | ⟨unused, registered⟩⟩
      · rwa [same]
      · rw [unregistered]
        exact wellFormed.newBoost lib built
      · rw [registered]
        refine (wellFormed.registerNew lib built unused).postProcessNewBoost lib client state.now
          order ?_
        simp [Controller.registerNew_get, Controller.registerNew_boosts]
  | updateBoost order spec =>
      rcases state.step_updateBoost lib client legacyRevertMode order spec with
        same | ⟨boost, impl, registered, updated, replaced⟩
      · rwa [same]
      · obtain ⟨replacedWellFormed, stillRegistered⟩ :=
          wellFormed.setSpec_of_update lib registered updated
        rw [replaced]
        refine replacedWellFormed.postProcessNewBoost lib client state.now order ?_
        rwa [Manager.setBoost_boosts_self]
  | deleteBoost ns name => exact wellFormed.deleteRegularCPUBoost ns name
  | upsertPod order pod =>
      exact (wellFormed.newPod pod).upsertPod lib client state.now order (Nat.lt_succ_self _)
  | deletePod order pod => exact wellFormed.deletePod lib order pod
  | startTick order within =>
      simp only [Controller.step]
      split
      · exact wellFormed.startTick order within
      · exact wellFormed
  | checkBoost order => exact wellFormed.checkNextBoost order
  | executeTask position => exact wellFormed.executeTask lib client position
  | passTime duration => exact wellFormed
  | changeServer server => exact wellFormed.congrMemory rfl rfl rfl

end WellFormed

section Holders

variable {σ : Type}

/-- A boost object that is registered or still to be checked by a tick. -/
def InUse (inFlight : InFlight) (manager : Manager σ) (boost : BoostRef) : Prop :=
  (∃ name ns, manager.regularBoosts.get name ns = some boost) ∨ boost ∈ inFlight.scanning

/-- A boost in use tracks a pod object, or a task to revert it is in flight. -/
def Holds (inFlight : InFlight) (manager : Manager σ) (boost : BoostRef) (ref : PodRef) : Prop :=
  (InUse inFlight manager boost ∧
    ∃ podName, (manager.boosts boost).pods.lookup podName = some ref) ∨
  (boost, ref) ∈ inFlight.tasks

variable {inFlight : InFlight} {manager : Manager σ} {boost : BoostRef} {ref : PodRef}

theorem allocated_of_holds (wellFormed : WellFormed inFlight manager)
    (holds : Holds inFlight manager boost ref) : ref < manager.memory.next := by
  rcases holds with ⟨_, podName, tracked⟩ | task
  · exact (wellFormed.tracked _ _ _ tracked).2
  · exact (wellFormed.tasks _ _ task).2.1

theorem inUse_lt (wellFormed : WellFormed inFlight manager)
    (inUse : InUse inFlight manager boost) : boost < manager.nextBoost := by
  rcases inUse with ⟨name, ns, registered⟩ | scanning
  · exact (wellFormed.regular _ _ _ registered).2.2
  · exact wellFormed.scanning _ scanning

/-- Only the boost an operation works on can come to hold more. -/
theorem holds_of_setBoost {impl : StartupCPUBoostImpl} {memory : Memory σ} {other : BoostRef}
    (holds : Holds inFlight (manager.setBoost boost impl memory) other ref) :
    other = boost ∨ Holds inFlight manager other ref := by
  by_cases same : other = boost
  · exact .inl same
  · rcases holds with ⟨inUse, tracked⟩ | task
    · rw [Manager.setBoost_boosts_of_ne same] at tracked
      exact .inr (.inl ⟨inUse, tracked⟩)
    · exact .inr (.inr task)

theorem holds_of_deleteRegularCPUBoost {ns name : String}
    (holds : Holds inFlight (manager.deleteRegularCPUBoost ns name) boost ref) :
    Holds inFlight manager boost ref := by
  rcases holds with ⟨⟨otherName, otherNs, registered⟩ | scanning, tracked⟩ | task
  · exact .inl ⟨.inl ⟨otherName, otherNs,
      Manager.registered_of_deleteRegularCPUBoost registered⟩, tracked⟩
  · exact .inl ⟨.inr scanning, tracked⟩
  · exact .inr task

/-- The timed boosts are registered, so a tick that starts holds nothing new. -/
theorem holds_of_startTick (wellFormed : WellFormed inFlight manager) {order : RangeOrder String}
    {within : String → RangeOrder String}
    (holds : Holds { inFlight with scanning := manager.timedBoosts.listAll order within } manager
      boost ref) :
    Holds inFlight manager boost ref := by
  rcases holds with ⟨registered | scanning, tracked⟩ | task
  · exact .inl ⟨.inl registered, tracked⟩
  · obtain ⟨name, ns, timed⟩ := NamespacedObjects.mem_listAll.mp scanning
    exact .inl ⟨.inl ⟨name, ns, wellFormed.timed _ _ _ timed⟩, tracked⟩
  · exact .inr task

/-- A task that enters flight is for a pod the checked boost tracks. -/
theorem holds_of_checkNextBoost {state : Controller σ} {order : RangeOrder String}
    (holds : Holds (state.checkNextBoost order).inFlight (state.checkNextBoost order).manager
      boost ref) :
    Holds state.inFlight state.manager boost ref := by
  cases scanning : state.inFlight.scanning with
  | nil => simpa only [Controller.checkNextBoost, scanning] using holds
  | cons next rest =>
      simp only [Controller.checkNextBoost, scanning] at holds
      rcases holds with ⟨registered | later, tracked⟩ | task
      · exact .inl ⟨.inl registered, tracked⟩
      · exact .inl ⟨.inr (by rw [scanning]; exact List.mem_cons_of_mem _ later), tracked⟩
      · rcases List.mem_append.mp task with before | new
        · exact .inr before
        · obtain ⟨_, violated, same⟩ := List.mem_map.mp new
          cases same
          obtain ⟨_, _, ⟨podName, tracked⟩, _⟩ :=
            StartupCPUBoostImpl.mem_validatePolicy_iff.mp violated
          exact .inl ⟨.inr (by rw [scanning]; exact List.mem_cons_self), podName, tracked⟩

@[simp]
theorem checkNextBoost_manager (state : Controller σ) (order : RangeOrder String) :
    (state.checkNextBoost order).manager = state.manager := by
  simp only [Controller.checkNextBoost]
  split <;> rfl

end Holders

end KubeStartupCPUBoost
