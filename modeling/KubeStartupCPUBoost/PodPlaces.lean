import KubeStartupCPUBoost.ControllerRun
import KubeStartupCPUBoost.OrphanMapping

/-!
# The places that hold a pod

A pod is placed by the selectors that match it, by the label of its boost, or
among the orphaned pods, and a later event places it again by what holds then.
Nothing takes it out of the place it was in before, so it can come to be held
twice.

`HeldOnce` is kept by the events that meet the pod where it is held.
-/

namespace KubeStartupCPUBoost

variable {σ : Type}

namespace Manager

/-- The number of places that hold a pod: the registered boosts of its namespace
that track its name, and the orphaned pods. -/
def placesHolding (order : RangeOrder String) (key : PodKey) (manager : Manager σ) : Nat :=
  (manager.regularBoosts.list order key.1).countP
      (fun boost => ((manager.boosts boost).pods.lookup key.2).isSome) +
    if (manager.orphanedPods.get key.2 key.1).isSome then 1 else 0

end Manager

/-- Every pod is held in at most one place. -/
structure HeldOnce (manager : Manager σ) : Prop where
  oneBoost : ∀ key boost other, manager.TrackedBy key boost → manager.TrackedBy key other →
    boost = other
  notBoth : ∀ key boost, manager.TrackedBy key boost →
    manager.orphanedPods.get key.2 key.1 = none

namespace HeldOnce

variable {manager : Manager σ} {inFlight : InFlight} {boost : BoostRef} {ref : PodRef}

theorem placesHolding_le_one (heldOnce : HeldOnce manager)
    (wellFormed : WellFormed inFlight manager) (order : RangeOrder String) (key : PodKey) :
    manager.placesHolding order key ≤ 1 := by
  have distinct : (manager.regularBoosts.list order key.1).Nodup := by
    apply NamespacedObjects.nodup_list
    intro name other boost first second
    exact (wellFormed.regular _ _ _ first).1.symm.trans (wellFormed.regular _ _ _ second).1
  have tracks : ∀ boost ∈ (manager.regularBoosts.list order key.1).filter
      (fun boost => ((manager.boosts boost).pods.lookup key.2).isSome),
        manager.TrackedBy key boost := by
    intro boost member
    obtain ⟨registered, tracked⟩ := List.mem_filter.mp member
    exact ⟨NamespacedObjects.mem_list.mp registered, tracked⟩
  rw [Manager.placesHolding, List.countP_eq_length_filter]
  cases found : (manager.regularBoosts.list order key.1).filter
      (fun boost => ((manager.boosts boost).pods.lookup key.2).isSome) with
  | nil =>
      rw [List.length_nil, Nat.zero_add]
      split <;> omega
  | cons boost rest =>
      rw [found] at tracks
      have tracked := tracks boost List.mem_cons_self
      rw [heldOnce.notBoth key boost tracked]
      cases rest with
      | nil => rfl
      | cons second rest =>
          have same := heldOnce.oneBoost key boost second tracked
            (tracks second (List.mem_cons_of_mem _ List.mem_cons_self))
          have distinctFound := distinct.filter
            (fun boost => ((manager.boosts boost).pods.lookup key.2).isSome)
          rw [found, same] at distinctFound
          exact absurd List.mem_cons_self (List.nodup_cons.mp distinctFound).1

/-- Less tracked and fewer orphaned pods. -/
theorem mono {manager' : Manager σ} (heldOnce : HeldOnce manager)
    (tracked : ∀ key boost, manager'.TrackedBy key boost → manager.TrackedBy key boost)
    (orphaned : ∀ key : PodKey, manager.orphanedPods.get key.2 key.1 = none →
      manager'.orphanedPods.get key.2 key.1 = none) : HeldOnce manager' where
  oneBoost key boost other first second :=
    heldOnce.oneBoost key boost other (tracked _ _ first) (tracked _ _ second)
  notBoth key boost present := orphaned key (heldOnce.notBoth key boost (tracked _ _ present))

/-- A boost may come to track a pod that no other place holds. -/
theorem upsertPodIn {lib : Library} {client : PodClient σ} {now : Time}
    (heldOnce : HeldOnce manager) (wellFormed : WellFormed inFlight manager)
    (sameNs : (manager.memory.pods ref).ns = (manager.boosts boost).ns)
    (alone : ∀ other, manager.TrackedBy (manager.memory.pods ref).key other → other = boost)
    (notOrphaned : manager.orphanedPods.get (manager.memory.pods ref).name
      (manager.memory.pods ref).ns = none) :
    HeldOnce (manager.upsertPodIn lib client now boost ref).2 := by
  constructor
  · intro key first second firstTracked secondTracked
    rcases Manager.trackedBy_of_upsertPodIn wellFormed sameNs firstTracked with
      firstBefore | ⟨rfl, rfl⟩
    · rcases Manager.trackedBy_of_upsertPodIn wellFormed sameNs secondTracked with
        secondBefore | ⟨rfl, rfl⟩
      · exact heldOnce.oneBoost key first second firstBefore secondBefore
      · exact alone first firstBefore
    · rcases Manager.trackedBy_of_upsertPodIn wellFormed sameNs secondTracked with
        secondBefore | ⟨rfl, _⟩
      · exact (alone second secondBefore).symm
      · rfl
  · intro key other tracked
    rcases Manager.trackedBy_of_upsertPodIn wellFormed sameNs tracked with before | ⟨rfl, rfl⟩
    · exact heldOnce.notBoth key other before
    · exact notOrphaned

end HeldOnce

section TakingOver

variable (lib : Library) (client : PodClient σ) (now : Time) (order : RangeOrder String)

/-- The API accepts the reverts of the orphaned pods a boost takes over, and the
pods it lists for the boost are tracked by no other boost, and orphaned only if
the boost takes them over. -/
def TakesOverAlone (boost : BoostRef) (manager : Manager σ) : Prop :=
  let indexed := manager.indexTimedBoost boost
  MappingAccepted lib client now boost
      (indexed.orphanedPods.list order (indexed.boosts boost).ns) indexed ∧
    ∀ pod, (indexed.mapOrphanedPods lib client now order boost).2.MeetsInSync client boost pod →
      (∀ other, manager.TrackedBy pod.key other → other = boost) ∧
        ∀ ref, manager.orphanedPods.get pod.name pod.ns = some ref →
          (manager.boosts boost).selectsPod (manager.memory.pods ref) = true

variable {lib client now order} {inFlight : InFlight} {boost : BoostRef} {manager : Manager σ}

theorem HeldOnce.mapOrphanedPods (heldOnce : HeldOnce manager)
    (wellFormed : WellFormed inFlight manager)
    (accepted : MappingAccepted lib client now boost
      (manager.orphanedPods.list order (manager.boosts boost).ns) manager) :
    HeldOnce (manager.mapOrphanedPods lib client now order boost).2 := by
  constructor
  · intro key first second firstTracked secondTracked
    -- What the boost takes over was orphaned, so nobody tracked it.
    rcases Manager.trackedBy_of_mapOrphanedPods wellFormed accepted firstTracked with
      firstBefore | ⟨rfl, ⟨ref, orphaned⟩, _⟩
    · rcases Manager.trackedBy_of_mapOrphanedPods wellFormed accepted secondTracked with
        secondBefore | ⟨rfl, ⟨ref, orphaned⟩, _⟩
      · exact heldOnce.oneBoost key first second firstBefore secondBefore
      · rw [heldOnce.notBoth key first firstBefore] at orphaned
        cases orphaned
    · rcases Manager.trackedBy_of_mapOrphanedPods wellFormed accepted secondTracked with
        secondBefore | ⟨rfl, _⟩
      · rw [heldOnce.notBoth key second secondBefore] at orphaned
        cases orphaned
      · rfl
  · intro key other tracked
    rcases Manager.trackedBy_of_mapOrphanedPods wellFormed accepted tracked with
      before | ⟨_, _, deleted⟩
    · cases left : (manager.mapOrphanedPods lib client now order boost).2.orphanedPods.get key.2
          key.1 with
      | none => rfl
      | some ref =>
          have orphaned := (Manager.orphaned_of_mapOrphanedPods wellFormed accepted _ _ _ left).1
          rw [heldOnce.notBoth key other before] at orphaned
          cases orphaned
    · exact deleted

theorem HeldOnce.postProcessNewBoost (heldOnce : HeldOnce manager)
    (wellFormed : WellFormed inFlight manager)
    (registered : manager.regularBoosts.get (manager.boosts boost).name
      (manager.boosts boost).ns = some boost)
    (takesOver : TakesOverAlone lib client now order boost manager) :
    HeldOnce (manager.postProcessNewBoost lib client now order boost) := by
  have indexedWellFormed := wellFormed.indexTimedBoost registered
  obtain ⟨timedBoosts, indexed⟩ := manager.indexTimedBoost_eq boost
  simp only [TakesOverAlone] at takesOver
  simp only [Manager.postProcessNewBoost]
  rw [indexed] at indexedWellFormed takesOver ⊢
  obtain ⟨accepted, listedAlone⟩ := takesOver
  have indexedOnce : HeldOnce { manager with timedBoosts } :=
    heldOnce.mono (fun _ _ tracked => tracked) fun _ none => none
  have mappedOnce := indexedOnce.mapOrphanedPods indexedWellFormed accepted
  have ranging := Ranging.afterMapping lib client indexedWellFormed now order boost
  let mapped := (Manager.mapOrphanedPods lib client now order boost
    { manager with timedBoosts }).2
  have newlyTracked : ∀ key other, mapped.TrackedBy key other →
      other = boost ∨ manager.TrackedBy key other := by
    intro key other tracked
    rcases Manager.trackedBy_of_mapOrphanedPods indexedWellFormed accepted tracked with
      before | ⟨same, _⟩
    · exact .inr before
    · exact .inl same
  refine (Ranging.syncBoostPods lib client
    (P := fun current => HeldOnce current ∧ current.orphanedPods = mapped.orphanedPods ∧
      ∀ key other, current.TrackedBy key other → other = boost ∨ manager.TrackedBy key other)
    ranging ⟨mappedOnce, rfl, newlyTracked⟩
    ⟨⟨mappedOnce.mono (fun _ _ tracked => tracked) fun _ none => none, rfl, newlyTracked⟩,
      listedAlone⟩ ?_).2.1
  rintro pod ⟨alone, takenOver⟩ sameNs current ranging ⟨currentOnce, sameOrphaned, tracked⟩ _
  have deliveredPod := current.newPod_self pod
  have deliveredNs : ((current.newPod pod).2.memory.pods (current.newPod pod).1).ns =
      ((current.newPod pod).2.boosts boost).ns := by
    rw [deliveredPod, sameNs]
    exact ranging.boostNs.symm
  have deliveredOnce : HeldOnce (current.newPod pod).2 :=
    currentOnce.mono (fun _ _ tracked => tracked) fun _ none => none
  refine ⟨deliveredOnce.upsertPodIn (ranging.wellFormed.newPod pod) deliveredNs ?_ ?_,
    sameOrphaned, fun key other tracks => ?_⟩
  · rw [deliveredPod]
    intro other otherTracks
    rcases tracked _ _ otherTracks with same | before
    · exact same
    · exact alone other before
  · rw [deliveredPod]
    change current.orphanedPods.get pod.name pod.ns = none
    rw [sameOrphaned]
    cases left : mapped.orphanedPods.get pod.name pod.ns with
    | none => rfl
    | some ref =>
        obtain ⟨orphaned, unmatched⟩ :=
          Manager.orphaned_of_mapOrphanedPods indexedWellFormed accepted _ _ _ left
        rw [takenOver ref orphaned] at unmatched
        cases unmatched sameNs
  · rcases Manager.trackedBy_of_upsertPodIn (ranging.wellFormed.newPod pod) deliveredNs tracks with
      before | ⟨same, _⟩
    · exact tracked key other before
    · exact .inl same

end TakingOver

variable (lib : Library) (client : PodClient σ) (legacyRevertMode : Bool)

/-- The condition on the events of a run.  A pod's event goes to the boost that
tracks the pod if some boost does, and if the pod is orphaned, a boost that takes
it does so without error; the pods a boost takes over when it is registered or
updated are held by no other. -/
def KeepsHeldOnce (event : ControllerEvent σ) (state : Controller σ) : Prop :=
  let manager := state.manager
  match event with
  | .createBoost order spec =>
      ∀ impl, newStartupCPUBoost lib spec legacyRevertMode = .ok impl →
        manager.regularBoosts.get spec.name spec.ns = none →
          TakesOverAlone lib client state.now order manager.nextBoost
            (Controller.registerNew impl manager)
  | .updateBoost order spec =>
      ∀ boost impl, manager.regularBoosts.get spec.name spec.ns = some boost →
        (manager.boosts boost).updateFromSpec lib spec = .ok impl →
          TakesOverAlone lib client state.now order boost
            (manager.setBoost boost impl manager.memory)
  | .upsertPod order pod =>
      (∀ tracker, manager.TrackedBy pod.key tracker →
        manager.getMatchingBoost order pod = some tracker) ∧
      ∀ boost, manager.getMatchingBoost order pod = some boost →
        manager.orphanedPods.get pod.name pod.ns = none ∨
          UpsertAccepted lib client state.now boost manager.memory.next (manager.newPod pod).2
  | _ => True

namespace HeldOnce

variable {state : Controller σ} (heldOnce : HeldOnce state.manager)
  (wellFormed : WellFormed state.inFlight state.manager)

include heldOnce wellFormed

theorem newBoost (impl : StartupCPUBoostImpl) : HeldOnce (state.manager.newBoost impl).2 := by
  refine heldOnce.mono (fun key boost tracked => ?_) fun _ none => none
  obtain ⟨⟨name, registered⟩, present⟩ := tracked
  have existing : boost < state.manager.nextBoost := (wellFormed.regular _ _ _ registered).2.2
  rw [Manager.newBoost_boosts_of_lt existing] at present
  exact ⟨⟨name, registered⟩, present⟩

theorem createBoost (order : RangeOrder String) (spec : StartupCPUBoost)
    (allowed : KeepsHeldOnce lib client legacyRevertMode (.createBoost order spec) state) :
    HeldOnce (state.step lib client legacyRevertMode (.createBoost order spec)).manager := by
  rcases state.step_createBoost lib client legacyRevertMode order spec with
    same | ⟨impl, built, unregistered | ⟨unused, registered⟩⟩
  · rwa [same]
  · rw [unregistered]
    exact heldOnce.newBoost wellFormed impl
  · obtain ⟨_, _, noPods, _⟩ := newStartupCPUBoost_ok lib built
    have created := Controller.registerNew_boosts impl state.manager
    have registeredOnce : HeldOnce (Controller.registerNew impl state.manager) := by
      refine (heldOnce.newBoost wellFormed impl).mono (fun key boost tracked => ?_)
        fun _ none => none
      obtain ⟨⟨name, present⟩, tracks⟩ := tracked
      rcases Controller.registerNew_get_eq_some.mp present with ⟨_, rfl⟩ | ⟨_, before⟩
      · rw [created, noPods] at tracks
        cases tracks
      · exact ⟨⟨name, before⟩, tracks⟩
    rw [registered]
    refine registeredOnce.postProcessNewBoost (wellFormed.registerNew lib built unused) ?_
      (allowed impl built unused)
    simp [Controller.registerNew_get, created]

theorem updateBoost (order : RangeOrder String) (spec : StartupCPUBoost)
    (allowed : KeepsHeldOnce lib client legacyRevertMode (.updateBoost order spec) state) :
    HeldOnce (state.step lib client legacyRevertMode (.updateBoost order spec)).manager := by
  rcases state.step_updateBoost lib client legacyRevertMode order spec with
    same | ⟨boost, impl, registered, updated, replaced⟩
  · rwa [same]
  · obtain ⟨replacedWellFormed, stillRegistered⟩ :=
      wellFormed.setSpec_of_update lib registered updated
    have samePods : impl.pods = (state.manager.boosts boost).pods := by
      rw [StartupCPUBoostImpl.updateFromSpec_ok lib updated]
    have replacedOnce : HeldOnce (state.manager.setBoost boost impl state.manager.memory) := by
      refine heldOnce.mono (fun key other tracked => ⟨tracked.1, ?_⟩) fun _ none => none
      by_cases same : other = boost
      · subst other
        have tracks := tracked.2
        rwa [Manager.setBoost_boosts_self, samePods] at tracks
      · have tracks := tracked.2
        rwa [Manager.setBoost_boosts_of_ne same] at tracks
    rw [replaced]
    refine replacedOnce.postProcessNewBoost replacedWellFormed ?_
      (allowed boost impl registered updated)
    rwa [Manager.setBoost_boosts_self]

theorem upsertPod (order : RangeOrder String) (pod : Pod)
    (allowed : KeepsHeldOnce lib client legacyRevertMode (.upsertPod order pod) state) :
    HeldOnce (state.step lib client legacyRevertMode (.upsertPod order pod)).manager := by
  obtain ⟨alone, orphanTaken⟩ := allowed
  have deliveredPod :
      (state.manager.newPod pod).2.memory.pods state.manager.memory.next = pod :=
    state.manager.newPod_self pod
  rcases state.step_upsertPod lib client legacyRevertMode order pod with
    ⟨boost, found, outcome⟩ | ⟨noMatch, orphaned⟩
  · obtain ⟨⟨name, registered⟩, _⟩ := Manager.getMatchingBoost_some found
    have sameNs : ((state.manager.newPod pod).2.memory.pods state.manager.memory.next).ns =
        ((state.manager.newPod pod).2.boosts boost).ns := by
      rw [deliveredPod]
      exact (wellFormed.regular _ _ _ registered).2.1.symm
    have trackers : ∀ other, (state.manager.newPod pod).2.TrackedBy
        ((state.manager.newPod pod).2.memory.pods state.manager.memory.next).key other →
          other = boost := by
      rw [deliveredPod]
      intro other tracked
      exact Option.some.inj ((alone other tracked).symm.trans found)
    have deliveredWellFormed := wellFormed.newPod pod
    have deliveredOnce : HeldOnce (state.manager.newPod pod).2 :=
      heldOnce.mono (fun _ _ tracked => tracked) fun _ none => none
    rcases outcome with ⟨_, accepted⟩ | ⟨failed, kept⟩
    · rw [accepted]
      -- The orphaned entry may as well be deleted before the upsert, which does not read it.
      have withoutOrphan : HeldOnce ((state.manager.newPod pod).2.deleteOrphanedPod pod) := by
        refine deliveredOnce.mono (fun _ _ tracked => tracked) fun key none => ?_
        simp only [Manager.deleteOrphanedPod, NamespacedObjects.get_delete, none, ite_self]
      exact withoutOrphan.upsertPodIn (deliveredWellFormed.deleteOrphanedPod pod) sameNs trackers
        (by simp [Manager.deleteOrphanedPod, deliveredPod, NamespacedObjects.get_delete])
    · rw [kept]
      refine deliveredOnce.upsertPodIn deliveredWellFormed sameNs trackers ?_
      rw [deliveredPod]
      rcases orphanTaken boost found with notOrphaned | accepted
      · exact notOrphaned
      · exact absurd (StartupCPUBoostImpl.upsertPod_ok lib client state.now _ _ _ accepted) failed
  · rw [orphaned]
    constructor
    · exact fun key boost other first second => heldOnce.oneBoost key boost other first second
    · intro key boost tracked
      have notOrphaned := heldOnce.notBoth key boost tracked
      rw [NamespacedObjects.get_put, if_neg]
      · exact notOrphaned
      · intro sameKey
        have key_eq : key = pod.key := Prod.ext sameKey.2 sameKey.1
        have found := alone boost (key_eq ▸ tracked)
        rw [noMatch] at found
        cases found

/-- Every event that meets the condition keeps the pods in one place each. -/
theorem step (event : ControllerEvent σ)
    (allowed : KeepsHeldOnce lib client legacyRevertMode event state) :
    HeldOnce (state.step lib client legacyRevertMode event).manager := by
  cases event with
  | createBoost order spec =>
      exact heldOnce.createBoost lib client legacyRevertMode wellFormed order spec allowed
  | updateBoost order spec =>
      exact heldOnce.updateBoost lib client legacyRevertMode wellFormed order spec allowed
  | deleteBoost ns name =>
      refine heldOnce.mono (fun key boost tracked => ?_) fun _ none => none
      obtain ⟨⟨otherName, registered⟩, present⟩ := tracked
      exact ⟨⟨otherName, Manager.registered_of_deleteRegularCPUBoost registered⟩, present⟩
  | upsertPod order pod =>
      exact heldOnce.upsertPod lib client legacyRevertMode wellFormed order pod allowed
  | deletePod order pod =>
      rw [Controller.step]
      rcases state.manager.deletePod_cases lib order pod with ⟨boost, -, deleted⟩ | ⟨-, deleted⟩
      · rw [deleted]
        exact heldOnce.mono (fun _ _ tracked => Manager.trackedBy_of_deletePodIn tracked)
          fun _ none => none
      · rw [deleted]
        refine heldOnce.mono (fun _ _ tracked => tracked) fun key none => ?_
        simp only [Manager.deleteOrphanedPod, NamespacedObjects.get_delete, none, ite_self]
  | startTick order within =>
      simp only [Controller.step]
      split <;> exact heldOnce
  | checkBoost order =>
      have sameManager : (state.step lib client legacyRevertMode (.checkBoost order)).manager =
        state.manager := checkNextBoost_manager state order
      rwa [sameManager]
  | executeTask position =>
      rcases state.executeTask_cases lib client position with unchanged | ⟨boost, ref, -, executed⟩
      · rwa [Controller.step, unchanged]
      · rw [Controller.step, executed]
        exact heldOnce.mono (fun _ _ tracked => Manager.trackedBy_of_revertResourcesIn tracked)
          fun _ none => none
  | passTime duration => exact heldOnce
  | changeServer server => exact heldOnce.mono (fun _ _ tracked => tracked) fun _ none => none

end HeldOnce

/-- In every run whose events meet the condition, at most one place holds a
pod. -/
theorem run_placesHolding_le_one (hasClient : Bool) (now : Time) (server : σ)
    (events : List (ControllerEvent σ))
    (allowed : AllowedRun (Controller.step lib client legacyRevertMode)
      (KeepsHeldOnce lib client legacyRevertMode) events (Controller.initial hasClient now server))
    (order : RangeOrder String) (key : PodKey) :
    ((Controller.initial hasClient now server).run lib client legacyRevertMode
      events).manager.placesHolding order key ≤ 1 := by
  have start : HeldOnce (Controller.newManager hasClient server) :=
    ⟨fun _ _ _ tracked => (nomatch tracked.1), fun _ _ _ => rfl⟩
  have preserved : ∀ event (state : Controller σ),
      (WellFormed state.inFlight state.manager ∧ HeldOnce state.manager) →
        KeepsHeldOnce lib client legacyRevertMode event state →
          (WellFormed (state.step lib client legacyRevertMode event).inFlight
              (state.step lib client legacyRevertMode event).manager ∧
            HeldOnce (state.step lib client legacyRevertMode event).manager) :=
    fun event state invariant allowed =>
      ⟨invariant.1.step lib client legacyRevertMode event,
        invariant.2.step lib client legacyRevertMode invariant.1 event allowed⟩
  obtain ⟨wellFormed, heldOnce⟩ := runEvents_invariant preserved
    ⟨WellFormed.newManager hasClient server, start⟩ allowed
  exact heldOnce.placesHolding_le_one wellFormed order key

namespace Reference

theorem run_placesHolding_le_one_boostedPod :
    (started.run referenceLibrary referenceClient false
      (trackEvents everything boostedPod (serverWith boostedPod))).manager.placesHolding .arbitrary
        boostedPod.key ≤ 1 := by
  have allowed : AllowedRun (Controller.step referenceLibrary referenceClient false)
      (KeepsHeldOnce referenceLibrary referenceClient false)
      (trackEvents everything boostedPod (serverWith boostedPod)) started := by
    refine And.intro ?_ (And.intro trivial (And.intro ?_ trivial))
    · intro impl built _
      obtain ⟨timedBoosts, indexed⟩ :=
        (Controller.registerNew impl started.manager).indexTimedBoost_eq 0
      refine ⟨?_, fun pod _ => ⟨fun other tracked => ?_, fun _ orphaned => nomatch orphaned⟩⟩
      · change MappingAccepted _ _ _ _ (NamespacedObjects.list _ _ (Manager.indexTimedBoost 0
          (Controller.registerNew impl started.manager)).orphanedPods) _
        rw [indexed]
        trivial
      · obtain ⟨⟨name, registered⟩, _⟩ := tracked
        rcases Controller.registerNew_get_eq_some.mp registered with ⟨_, isNew⟩ | ⟨_, before⟩
        · exact isNew
        · cases before
    · rw [step_create wellFormed_everything]
      refine ⟨fun tracker tracked => ?_, fun _ _ => .inl rfl⟩
      obtain ⟨⟨name, registered⟩, present⟩ := tracked
      obtain rfl : tracker = 0 := registeredManager_registered everything registered
      cases present
  exact run_placesHolding_le_one referenceLibrary referenceClient false true 0 _ _ allowed
    .arbitrary boostedPod.key

/-- The pod is tracked under the label `app=web`, and its event with another
label puts it among the orphaned pods as well. -/
theorem relabelled_pod_held_twice :
    (started.run referenceLibrary referenceClient false
      (trackEvents (appSelector "web") (appPod "web") (serverWith (appPod "web")) ++
        [.upsertPod .arbitrary (appPod "other")])).manager.placesHolding .arbitrary
          (appPod "web").key = 2 := by
  have selected : (appSelector "web").selects (appPod "web").labels = true := by
    decide +kernel
  obtain ⟨stats, metrics, tracking⟩ := run_tracking wellFormed_appSelector
    (show (appPod "web").ns = "default" from rfl) selected (serverWith (appPod "web"))
  let tracker := trackingManager (appSelector "web") (appPod "web") (serverWith (appPod "web"))
    stats metrics
  have noMatch : tracker.getMatchingBoost .arbitrary (appPod "other") = none :=
    trackingManager_noMatch rfl (by decide +kernel) _ _ _
  have stepped : Controller.step referenceLibrary referenceClient false
      (.upsertPod .arbitrary (appPod "other")) ⟨tracker, 0, {}⟩ =
        ⟨{ (tracker.newPod (appPod "other")).2 with
            orphanedPods := tracker.orphanedPods.put (appPod "other").name (appPod "other").ns
              tracker.memory.next }, 0, {}⟩ := by
    rcases Controller.step_upsertPod referenceLibrary referenceClient false .arbitrary
      ⟨tracker, 0, {}⟩ (appPod "other") with ⟨boost, found, _⟩ | ⟨_, orphaned⟩
    · rw [noMatch] at found
      cases found
    · exact orphaned
  have listed : tracker.regularBoosts.list .arbitrary (appPod "web").ns = [0] :=
    NamespacedObjects.list_put_new _ _ _ _
  have tracked : (((tracker.newPod (appPod "other")).2.boosts 0).pods.lookup
      (appPod "web").key.2).isSome = true := by
    change ((Finmap.insert (appPod "web").name 0 (∅ : GoMap String PodRef)).lookup
      (appPod "web").name).isSome = true
    rw [Finmap.lookup_insert]
    rfl
  have orphaned : ((tracker.orphanedPods.put (appPod "other").name (appPod "other").ns
      tracker.memory.next).get (appPod "web").key.2 (appPod "web").key.1).isSome = true := by
    rw [NamespacedObjects.get_put, if_pos ⟨rfl, rfl⟩]
    rfl
  rw [Controller.run_append, tracking]
  change (Controller.step referenceLibrary referenceClient false
    (.upsertPod .arbitrary (appPod "other")) ⟨tracker, 0, {}⟩).manager.placesHolding _ _ = 2
  rw [stepped]
  simp only [Manager.placesHolding, orphaned, if_true]
  change List.countP _ (tracker.regularBoosts.list .arbitrary (appPod "web").ns) + 1 = 2
  rw [listed, List.countP_singleton, if_pos tracked]

end Reference

end KubeStartupCPUBoost
