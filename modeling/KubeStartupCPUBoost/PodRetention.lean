import KubeStartupCPUBoost.ControllerRun
import KubeStartupCPUBoost.OrphanMapping

/-!
# Pods stay held until they are reverted

A pod given to the manager should be tracked by a boost or be among the
orphaned pods until it is deleted or its resources are reverted.  Every
operation hands on the pods it displaces except one: with a boost that is
deleted the pods it tracks are forgotten.

`History` runs the controller and remembers which pods were given to it and
neither deleted nor reverted since.
-/

namespace KubeStartupCPUBoost

variable {σ : Type}

namespace Manager

/-- A registered boost of the namespace tracks the pod, or it is among the
orphaned pods. -/
def HeldAt (key : PodKey) (manager : Manager σ) : Prop :=
  (∃ boost, manager.TrackedBy key boost) ∨
    (manager.orphanedPods.get key.2 key.1).isSome = true

section Upsert

variable {lib : Library} {client : PodClient σ} {now : Time} {inFlight : InFlight}
  {boost : BoostRef} {ref : PodRef} {manager : Manager σ} {key : PodKey}

/-- The boost tracks the upserted pod unless the upsert reverts it. -/
theorem upsertPodIn_tracks
    (keeps : ¬ (manager.boosts boost).UpsertReverts lib client now ref manager.memory) :
    (((manager.upsertPodIn lib client now boost ref).2.boosts boost).pods.lookup
      (manager.memory.pods ref).name).isSome = true := by
  simp only [upsertPodIn, setBoost_boosts_self]
  rw [(StartupCPUBoostImpl.lookup_upsertPod lib client now ref _ _
    (manager.memory.pods ref).name).2.2 keeps]
  rfl

/-- A tracked pod stays tracked unless it is the one upserted and is reverted. -/
theorem TrackedBy.upsertPodIn {other : BoostRef} (tracked : manager.TrackedBy key other)
    (wellFormed : WellFormed inFlight manager)
    (sameNs : (manager.memory.pods ref).ns = (manager.boosts boost).ns) :
    (manager.upsertPodIn lib client now boost ref).2.TrackedBy key other ∨
      ((manager.memory.pods ref).key = key ∧
        (manager.boosts boost).UpsertReverts lib client now ref manager.memory) := by
  obtain ⟨⟨name, registered⟩, present⟩ := tracked
  by_cases isBoost : other = boost
  · subst other
    by_cases sameName : key.2 = (manager.memory.pods ref).name
    · by_cases reverts : (manager.boosts boost).UpsertReverts lib client now ref manager.memory
      · refine .inr ⟨Prod.ext ?_ sameName.symm, reverts⟩
        exact sameNs.trans (wellFormed.regular _ _ _ registered).2.1
      · refine .inl ⟨⟨name, registered⟩, ?_⟩
        rw [sameName]
        exact upsertPodIn_tracks reverts
    · refine .inl ⟨⟨name, registered⟩, ?_⟩
      simp only [Manager.upsertPodIn, setBoost_boosts_self]
      rwa [(StartupCPUBoostImpl.lookup_upsertPod lib client now ref _ _ key.2).1 sameName]
  · refine .inl ⟨⟨name, registered⟩, ?_⟩
    simp only [Manager.upsertPodIn, setBoost_boosts_of_ne isBoost]
    exact present

theorem HeldAt.upsertPodIn (held : manager.HeldAt key) (wellFormed : WellFormed inFlight manager)
    (sameNs : (manager.memory.pods ref).ns = (manager.boosts boost).ns) :
    (manager.upsertPodIn lib client now boost ref).2.HeldAt key ∨
      ((manager.memory.pods ref).key = key ∧
        (manager.boosts boost).UpsertReverts lib client now ref manager.memory) := by
  rcases held with ⟨other, tracked⟩ | orphaned
  · rcases tracked.upsertPodIn wellFormed sameNs with still | reverted
    · exact .inl (.inl ⟨other, still⟩)
    · exact .inr reverted
  · exact .inl (.inr orphaned)

end Upsert

section Loops

variable (lib : Library) (client : PodClient σ) (now : Time)

def RevertedInMapping (key : PodKey) (boost : BoostRef) : List PodRef → Manager σ → Prop
  | [], _ => False
  | ref :: rest, manager =>
      if (manager.boosts boost).selectsPod (manager.memory.pods ref) then
        ((manager.memory.pods ref).key = key ∧
            (manager.boosts boost).UpsertReverts lib client now ref manager.memory) ∨
          RevertedInMapping key boost rest (manager.upsertPodIn lib client now boost ref).2
      else RevertedInMapping key boost rest manager

def RevertedInSync (key : PodKey) (boost : BoostRef) : List Pod → Manager σ → Prop
  | [], _ => False
  | pod :: rest, manager =>
      if ((manager.boosts boost).pods.lookup pod.name).isSome then
        RevertedInSync key boost rest manager
      else
        let listed := manager.newPod pod
        (pod.key = key ∧
            (listed.2.boosts boost).UpsertReverts lib client now listed.1 listed.2.memory) ∨
          RevertedInSync key boost rest (listed.2.upsertPodIn lib client now boost listed.1).2

def RevertedInTakeOver (key : PodKey) (order : RangeOrder String) (boost : BoostRef)
    (manager : Manager σ) : Prop :=
  let indexed := manager.indexTimedBoost boost
  let mapped := (indexed.mapOrphanedPods lib client now order boost).2
  RevertedInMapping lib client now key boost
      (indexed.orphanedPods.list order (indexed.boosts boost).ns) indexed ∨
    (mapped.hasClient = true ∧ ∃ pods, (mapped.listBoostPods client boost).1 = .ok pods ∧
      RevertedInSync lib client now key boost pods (mapped.listBoostPods client boost).2)

variable {lib client now} {inFlight : InFlight} {boost : BoostRef} {ns : String}
  {manager : Manager σ} {key : PodKey}

theorem not_revertedInTakeOver_of_none {order : RangeOrder String}
    (noneOrphaned : manager.orphanedPods.list order (manager.boosts boost).ns = [])
    (noneListed : client.list (manager.boosts boost).ns (manager.boosts boost).name
      manager.memory.server = (.ok [], manager.memory.server)) :
    ¬ RevertedInTakeOver lib client now key order boost manager := by
  obtain ⟨timedBoosts, indexed⟩ := manager.indexTimedBoost_eq boost
  have mapped : ({ manager with timedBoosts } : Manager σ).mapOrphanedPods lib client now order
      boost = (.ok (), { manager with timedBoosts }) :=
    mapOrphanedPods_of_none lib client noneOrphaned
  simp only [RevertedInTakeOver, indexed, mapped, listBoostPods, noneListed]
  rintro (inMapping | ⟨-, pods, listed, inSync⟩)
  · rw [noneOrphaned] at inMapping
    exact inMapping
  · cases listed
    exact inSync

theorem TrackedBy.mapMatchingPods {other : BoostRef} {refs : List PodRef}
    (ranging : Ranging inFlight boost ns refs manager) (tracked : manager.TrackedBy key other) :
    (manager.mapMatchingPods lib client now boost refs).2.2.TrackedBy key other ∨
      RevertedInMapping lib client now key boost refs manager := by
  induction refs generalizing manager with
  | nil => exact .inl tracked
  | cons first refs ih =>
      obtain ⟨sameNs, allocated⟩ := ranging.pods first List.mem_cons_self
      have later := ranging.tail
      simp only [Manager.mapMatchingPods, RevertedInMapping]
      by_cases selected : (manager.boosts boost).selectsPod (manager.memory.pods first) = true
      · rw [if_pos selected, if_pos selected]
        rcases tracked.upsertPodIn ranging.wellFormed (sameNs.trans ranging.boostNs.symm) with
          still | reverted
        · have rest := ih (later.upsertPodIn lib client sameNs allocated) still
          split
          · exact rest.imp_right .inr
          · exact rest.imp_right .inr
        · exact .inr (.inl reverted)
      · rw [if_neg selected, if_neg selected]
        exact ih later tracked

theorem trackedBy_of_mem_mapped {refs : List PodRef} {ref : PodRef} {name : String}
    (ranging : Ranging inFlight boost ns refs manager)
    (registered : manager.regularBoosts.get name ns = some boost)
    (mapped : ref ∈ (manager.mapMatchingPods lib client now boost refs).2.1) :
    (manager.mapMatchingPods lib client now boost refs).2.2.TrackedBy
        (manager.memory.pods ref).key boost ∨
      RevertedInMapping lib client now (manager.memory.pods ref).key boost refs manager := by
  induction refs generalizing manager with
  | nil => cases mapped
  | cons first refs ih =>
      obtain ⟨sameNs, allocated⟩ := ranging.pods first List.mem_cons_self
      have later := ranging.tail
      simp only [Manager.mapMatchingPods, RevertedInMapping] at mapped ⊢
      by_cases selected : (manager.boosts boost).selectsPod (manager.memory.pods first) = true
      · rw [if_pos selected] at mapped
        rw [if_pos selected, if_pos selected]
        have upsertedRanging : Ranging inFlight boost ns refs
            (manager.upsertPodIn lib client now boost first).2 :=
          later.upsertPodIn lib client sameNs allocated
        have touched := StartupCPUBoostImpl.touches_upsertPod lib client now first
          (manager.boosts boost) manager.memory
        have sameKey : ((manager.upsertPodIn lib client now boost first).2.memory.pods ref).key =
          (manager.memory.pods ref).key := touched.key_eq ref
        have rest := fun mapped => ih upsertedRanging registered mapped
        rw [sameKey] at rest
        split at mapped
        · exact (rest mapped).imp_right .inr
        · rcases List.mem_cons.mp mapped with rfl | mappedLater
          · by_cases reverts :
                (manager.boosts boost).UpsertReverts lib client now ref manager.memory
            · exact .inr (.inl ⟨rfl, reverts⟩)
            · have tracked : (manager.upsertPodIn lib client now boost ref).2.TrackedBy
                  (manager.memory.pods ref).key boost := by
                refine ⟨⟨name, ?_⟩, upsertPodIn_tracks reverts⟩
                rw [show (manager.memory.pods ref).key.1 = ns from sameNs]
                exact registered
              exact (tracked.mapMatchingPods upsertedRanging).imp_right .inr
          · exact (rest mappedLater).imp_right .inr
      · rw [if_neg selected] at mapped
        rw [if_neg selected, if_neg selected]
        exact ih later registered mapped

/-- A held pod is still held after the orphaned pods have been taken over, or
has been reverted. -/
theorem HeldAt.mapOrphanedPods {order : RangeOrder String} {name : String}
    (wellFormed : WellFormed inFlight manager)
    (registered : manager.regularBoosts.get name (manager.boosts boost).ns = some boost)
    (held : manager.HeldAt key) :
    (manager.mapOrphanedPods lib client now order boost).2.HeldAt key ∨
      RevertedInMapping lib client now key boost
        (manager.orphanedPods.list order (manager.boosts boost).ns) manager := by
  have ranging : Ranging inFlight boost (manager.boosts boost).ns
      (manager.orphanedPods.list order (manager.boosts boost).ns) manager :=
    Ranging.orphanedPods wellFormed
  obtain ⟨orphanedPods, deleted, kept⟩ := foldl_deleteOrphanedPod_eq
    (manager.mapMatchingPods lib client now boost
      (manager.orphanedPods.list order (manager.boosts boost).ns)).2.1
    (manager.mapMatchingPods lib client now boost
      (manager.orphanedPods.list order (manager.boosts boost).ns)).2.2
  simp only [Manager.mapOrphanedPods, deleted]
  rcases held with ⟨other, tracked⟩ | orphaned
  · exact (tracked.mapMatchingPods ranging).imp_left fun still => .inl ⟨other, still⟩
  · obtain ⟨ref, present⟩ := Option.isSome_iff_exists.mp orphaned
    -- Its entry is deleted only if the pod with this key was mapped.
    by_cases isDeleted : ∃ mapped ∈ (manager.mapMatchingPods lib client now boost
        (manager.orphanedPods.list order (manager.boosts boost).ns)).2.1,
          (manager.memory.pods mapped).key = key
    · obtain ⟨mapped, member, rfl⟩ := isDeleted
      exact (trackedBy_of_mem_mapped ranging registered member).imp_left
        fun tracked => .inl ⟨boost, tracked⟩
    · refine .inl (.inr ?_)
      have still : orphanedPods.get key.2 key.1 = some ref := by
        refine (kept key.2 key.1 ref).mpr ⟨?_, fun mapped member sameKey => isDeleted ?_⟩
        · rw [mapMatchingPods_orphanedPods]
          exact present
        · rw [mapMatchingPods_key] at sameKey
          exact ⟨mapped, member, sameKey⟩
      rw [still]
      rfl

theorem HeldAt.syncListedPods {pods : List Pod} (wellFormed : WellFormed inFlight manager)
    (sameNs : ∀ pod ∈ pods, pod.ns = (manager.boosts boost).ns) (held : manager.HeldAt key) :
    (manager.syncListedPods lib client now boost pods).2.HeldAt key ∨
      RevertedInSync lib client now key boost pods manager := by
  induction pods generalizing manager with
  | nil => exact .inl held
  | cons pod pods ih =>
      obtain ⟨podNs, laterNs⟩ := List.forall_mem_cons.mp sameNs
      simp only [Manager.syncListedPods, RevertedInSync]
      split
      · exact ih wellFormed laterNs held
      · have listedWellFormed := wellFormed.newPod pod
        have listedNs : ((manager.newPod pod).2.memory.pods (manager.newPod pod).1).ns =
            ((manager.newPod pod).2.boosts boost).ns := by
          rw [newPod_self]
          exact podNs
        have listedHeld : (manager.newPod pod).2.HeldAt key := held
        have upsertedWellFormed := listedWellFormed.upsertPodIn lib client now listedNs
          (Nat.lt_succ_self _)
        have upsertedNs : ∀ other ∈ pods, other.ns =
            (((manager.newPod pod).2.upsertPodIn lib client now boost
              (manager.newPod pod).1).2.boosts boost).ns := by
          intro other member
          rw [laterNs other member]
          simp only [Manager.upsertPodIn, setBoost_boosts_self]
          exact (StartupCPUBoostImpl.touches_upsertPod lib client now _ _ _).boost_ns.symm
        rcases listedHeld.upsertPodIn listedWellFormed listedNs with still | ⟨sameKey, reverts⟩
        · have rest := ih upsertedWellFormed upsertedNs still
          split
          · exact rest.imp_right .inr
          · exact rest.imp_right .inr
        · rw [newPod_self] at sameKey
          exact .inr (.inl ⟨sameKey, reverts⟩)

theorem HeldAt.syncBoostPods (ranging : Ranging inFlight boost ns [] manager)
    (held : manager.HeldAt key) :
    (manager.syncBoostPods lib client now boost).2.HeldAt key ∨
      (manager.hasClient = true ∧ ∃ pods, (manager.listBoostPods client boost).1 = .ok pods ∧
        RevertedInSync lib client now key boost pods (manager.listBoostPods client boost).2) := by
  have listedHeld : (manager.listBoostPods client boost).2.HeldAt key := held
  have listedWellFormed := (ranging.listBoostPods client).wellFormed
  simp only [Manager.syncBoostPods]
  by_cases hasClient : manager.hasClient = true
  · rw [if_pos hasClient]
    have listedNs : ∀ pods, (manager.listBoostPods client boost).1 = .ok pods → ∀ pod ∈ pods,
        pod.ns = (manager.boosts boost).ns :=
      fun pods answer pod member => client.list_ns _ _ _ pods answer pod member
    have sameBoosts : (manager.listBoostPods client boost).2.boosts = manager.boosts := rfl
    rw [← sameBoosts] at listedNs
    cases answer : manager.listBoostPods client boost with
    | mk result answered =>
        rw [answer] at listedHeld listedWellFormed listedNs
        cases result with
        | error message => exact .inl listedHeld
        | ok pods =>
            exact (listedHeld.syncListedPods listedWellFormed (listedNs pods rfl)).imp_right
              fun reverted => ⟨hasClient, pods, rfl, reverted⟩
  · rw [if_neg hasClient]
    exact .inl held

theorem HeldAt.postProcessNewBoost {order : RangeOrder String}
    (wellFormed : WellFormed inFlight manager)
    (registered : manager.regularBoosts.get (manager.boosts boost).name
      (manager.boosts boost).ns = some boost) (held : manager.HeldAt key) :
    (manager.postProcessNewBoost lib client now order boost).HeldAt key ∨
      RevertedInTakeOver lib client now key order boost manager := by
  have indexedWellFormed := wellFormed.indexTimedBoost registered
  obtain ⟨timedBoosts, indexed⟩ := manager.indexTimedBoost_eq boost
  simp only [Manager.postProcessNewBoost, RevertedInTakeOver]
  rw [indexed] at indexedWellFormed ⊢
  have indexedHeld : HeldAt key { manager with timedBoosts } := held
  have ranging := Ranging.afterMapping lib client indexedWellFormed now order boost
  rcases indexedHeld.mapOrphanedPods indexedWellFormed registered with mappedHeld | reverted
  · exact (mappedHeld.syncBoostPods ranging).imp_right .inr
  · exact .inr (.inl reverted)

end Loops

section Operations

variable {lib : Library} {client : PodClient σ} {inFlight : InFlight} {manager : Manager σ}
  {key : PodKey}

/-- An operation on one boost leaves the pods it still tracks. -/
theorem HeldAt.setBoost {boost : BoostRef} {impl : StartupCPUBoostImpl} {memory : Memory σ}
    (held : manager.HeldAt key)
    (kept : ∀ name, manager.regularBoosts.get name key.1 = some boost →
      ((manager.boosts boost).pods.lookup key.2).isSome = true →
        (impl.pods.lookup key.2).isSome = true) :
    (manager.setBoost boost impl memory).HeldAt key := by
  rcases held with ⟨other, ⟨name, registered⟩, present⟩ | orphaned
  · refine .inl ⟨other, ⟨name, registered⟩, ?_⟩
    by_cases isBoost : other = boost
    · subst other
      rw [setBoost_boosts_self]
      exact kept name registered present
    · rwa [setBoost_boosts_of_ne isBoost]
  · exact .inr orphaned

theorem HeldAt.deleteOrphanedPod {pod : Pod} (held : manager.HeldAt key)
    (different : pod.key ≠ key) : (manager.deleteOrphanedPod pod).HeldAt key := by
  refine held.imp_right fun orphaned => ?_
  simp only [Manager.deleteOrphanedPod, NamespacedObjects.get_delete]
  rw [if_neg]
  · exact orphaned
  · exact fun same => different (Prod.ext same.2.symm same.1.symm)

theorem HeldAt.deletePod {order : RangeOrder String} {pod : Pod} (held : manager.HeldAt key)
    (wellFormed : WellFormed inFlight manager) (different : pod.key ≠ key) :
    (manager.deletePod lib order pod).2.HeldAt key := by
  rcases manager.deletePod_cases lib order pod with ⟨boost, found, deleted⟩ | ⟨-, deleted⟩
  · rw [deleted]
    obtain ⟨⟨name, registered⟩, _⟩ := getMatchingBoost_some found
    refine held.setBoost fun otherName otherRegistered present => ?_
    rw [StartupCPUBoostImpl.deletePod_pods, GoMap.lookup_erase, if_neg]
    · exact present
    · intro sameName
      refine different (Prod.ext ?_ sameName.symm)
      exact (wellFormed.regular _ _ _ registered).2.1.symm.trans
        (wellFormed.regular _ _ _ otherRegistered).2.1
  · rw [deleted]
    exact held.deleteOrphanedPod different

theorem HeldAt.revertResourcesIn {boost : BoostRef} {ref : PodRef} (held : manager.HeldAt key)
    (wellFormed : WellFormed inFlight manager)
    (sameNs : (manager.memory.pods ref).ns = (manager.boosts boost).ns) :
    (manager.revertResourcesIn lib client boost ref).2.HeldAt key ∨
      ((manager.memory.pods ref).key = key ∧
        ((manager.boosts boost).revertCalls lib client ref manager.memory).result = .ok ()) := by
  simp only [Manager.revertResourcesIn]
  cases calls : ((manager.boosts boost).revertCalls lib client ref manager.memory).result with
  | error message =>
      refine .inl (held.setBoost fun _ _ present => ?_)
      rwa [StartupCPUBoostImpl.revertResources_of_error lib client ref _ _ calls]
  | ok =>
      by_cases sameKey : (manager.memory.pods ref).key = key
      · exact .inr ⟨sameKey, rfl⟩
      · refine .inl (held.setBoost fun name registered present => ?_)
        obtain ⟨_, _, outcome⟩ := StartupCPUBoostImpl.revertResources_of_ok lib client ref _ _ calls
        rw [outcome]
        simp only [GoMap.lookup_erase]
        rw [if_neg]
        · exact present
        · intro sameName
          refine sameKey (Prod.ext ?_ sameName.symm)
          exact sameNs.trans (wellFormed.regular _ _ _ registered).2.1

theorem HeldAt.newBoost (held : manager.HeldAt key) (wellFormed : WellFormed inFlight manager)
    (impl : StartupCPUBoostImpl) : (manager.newBoost impl).2.HeldAt key := by
  refine held.imp_left ?_
  rintro ⟨boost, ⟨name, registered⟩, present⟩
  have existing : boost < manager.nextBoost := (wellFormed.regular _ _ _ registered).2.2
  refine ⟨boost, ⟨name, registered⟩, ?_⟩
  rw [newBoost_boosts_of_lt existing]
  exact present

theorem HeldAt.register (held : manager.HeldAt key) {boost : BoostRef}
    (unused : manager.regularBoosts.get (manager.boosts boost).name (manager.boosts boost).ns =
      none) : (manager.register boost).HeldAt key := by
  refine held.imp_left ?_
  rintro ⟨other, ⟨name, registered⟩, present⟩
  refine ⟨other, ⟨name, ?_⟩, present⟩
  simp only [Manager.register, NamespacedObjects.get_put]
  rw [if_neg]
  · exact registered
  · rintro ⟨rfl, sameNs⟩
    rw [sameNs, unused] at registered
    cases registered

end Operations

end Manager

section Runs

variable (lib : Library) (client : PodClient σ) (legacyRevertMode : Bool)

namespace Controller

def Reverts (event : ControllerEvent σ) (key : PodKey) (state : Controller σ) : Prop :=
  let manager := state.manager
  match event with
  | .createBoost order spec =>
      ∃ impl, newStartupCPUBoost lib spec legacyRevertMode = .ok impl ∧
        manager.regularBoosts.get spec.name spec.ns = none ∧
          Manager.RevertedInTakeOver lib client state.now key order manager.nextBoost
            (registerNew impl manager)
  | .updateBoost order spec =>
      ∃ boost impl, manager.regularBoosts.get spec.name spec.ns = some boost ∧
        (manager.boosts boost).updateFromSpec lib spec = .ok impl ∧
          Manager.RevertedInTakeOver lib client state.now key order boost
            (manager.setBoost boost impl manager.memory)
  | .upsertPod order pod =>
      pod.key = key ∧ ∃ boost, manager.getMatchingBoost order pod = some boost ∧
        (manager.boosts boost).UpsertReverts lib client state.now (manager.newPod pod).1
          (manager.newPod pod).2.memory
  | .executeTask position =>
      ∃ boost ref, state.inFlight.tasks[position]? = some (boost, ref) ∧
        (manager.memory.pods ref).key = key ∧
          ((manager.boosts boost).revertCalls lib client ref manager.memory).result = .ok ()
  | _ => False

end Controller

/-- A run of the controller, with the pods given to `UpsertPod` and since then
neither given to `DeletePod` nor successfully reverted. -/
structure History (σ : Type) where
  controller : Controller σ
  boosted : Set PodKey

namespace History

def initial (hasClient : Bool) (now : Time) (server : σ) : History σ :=
  ⟨.initial hasClient now server, ∅⟩

def step (event : ControllerEvent σ) (history : History σ) : History σ where
  controller := history.controller.step lib client legacyRevertMode event
  boosted :=
    { key | (key ∈ history.boosted ∨ ∃ order pod, event = .upsertPod order pod ∧ pod.key = key) ∧
      (∀ order pod, event = .deletePod order pod → pod.key ≠ key) ∧
      ¬ history.controller.Reverts lib client legacyRevertMode event key }

def run (events : List (ControllerEvent σ)) (history : History σ) : History σ :=
  runEvents (step lib client legacyRevertMode) events history

@[simp]
theorem run_controller (events : List (ControllerEvent σ)) (history : History σ) :
    (history.run lib client legacyRevertMode events).controller =
      history.controller.run lib client legacyRevertMode events := by
  induction events generalizing history with
  | nil => rfl
  | cons event rest ih => exact ih (history.step lib client legacyRevertMode event)

/-- Every pod that is still boosted is held. -/
def NoPodLost (history : History σ) : Prop :=
  ∀ key ∈ history.boosted, history.controller.manager.HeldAt key

end History

/-- The condition on the events of a run: a boost is deleted only while it
tracks no pod that is still boosted. -/
def DeletesIdleBoosts (event : ControllerEvent σ) (history : History σ) : Prop :=
  match event with
  | .deleteBoost ns name =>
      ∀ boost, history.controller.manager.regularBoosts.get name ns = some boost →
        ∀ key ∈ history.boosted, ¬ history.controller.manager.TrackedBy key boost
  | _ => True

namespace History

variable {history : History σ} (noPodLost : history.NoPodLost)
  (wellFormed : WellFormed history.controller.inFlight history.controller.manager)

include noPodLost wellFormed

theorem NoPodLost.createBoost (order : RangeOrder String) (spec : StartupCPUBoost) :
    (history.step lib client legacyRevertMode (.createBoost order spec)).NoPodLost := by
  rintro key ⟨before | ⟨_, _, isUpsert, _⟩, _, notReverted⟩
  · have held := noPodLost key before
    change (history.controller.step lib client legacyRevertMode
      (.createBoost order spec)).manager.HeldAt key
    rcases history.controller.step_createBoost lib client legacyRevertMode order spec with
      same | ⟨impl, built, unregistered | ⟨unused, registered⟩⟩
    · rwa [same]
    · rw [unregistered]
      exact held.newBoost wellFormed impl
    · rw [registered]
      obtain ⟨implName, implNs, _⟩ := newStartupCPUBoost_ok lib built
      have created := Controller.registerNew_boosts impl history.controller.manager
      have registeredHeld : (Controller.registerNew impl
          history.controller.manager).HeldAt key := by
        refine (held.newBoost wellFormed impl).register ?_
        rw [show (history.controller.manager.newBoost impl).2.boosts
          history.controller.manager.nextBoost = impl from created, implName, implNs]
        exact unused
      refine (registeredHeld.postProcessNewBoost (wellFormed.registerNew lib built unused)
        ?_).resolve_right fun reverted => notReverted ⟨impl, built, unused, reverted⟩
      simp [Controller.registerNew_get, created]
  · cases isUpsert

theorem NoPodLost.updateBoost (order : RangeOrder String) (spec : StartupCPUBoost) :
    (history.step lib client legacyRevertMode (.updateBoost order spec)).NoPodLost := by
  rintro key ⟨before | ⟨_, _, isUpsert, _⟩, _, notReverted⟩
  · have held := noPodLost key before
    change (history.controller.step lib client legacyRevertMode
      (.updateBoost order spec)).manager.HeldAt key
    rcases history.controller.step_updateBoost lib client legacyRevertMode order spec with
      same | ⟨boost, impl, registered, updated, replaced⟩
    · rwa [same]
    · rw [replaced]
      obtain ⟨replacedWellFormed, stillRegistered⟩ :=
        wellFormed.setSpec_of_update lib registered updated
      have replacedHeld : (history.controller.manager.setBoost boost impl
          history.controller.manager.memory).HeldAt key := by
        refine held.setBoost fun _ _ present => ?_
        rwa [StartupCPUBoostImpl.updateFromSpec_ok lib updated]
      refine (replacedHeld.postProcessNewBoost replacedWellFormed ?_).resolve_right
        fun reverted => notReverted ⟨boost, impl, registered, updated, reverted⟩
      rwa [Manager.setBoost_boosts_self]
  · cases isUpsert

omit wellFormed in
theorem NoPodLost.deleteBoost {ns name : String}
    (allowed : DeletesIdleBoosts (.deleteBoost ns name) history) :
    (history.step lib client legacyRevertMode (.deleteBoost ns name)).NoPodLost := by
  rintro key ⟨before | ⟨_, _, isUpsert, _⟩, _⟩
  · refine (noPodLost key before).imp_left ?_
    rintro ⟨boost, ⟨otherName, registered⟩, present⟩
    refine ⟨boost, ⟨otherName, ?_⟩, present⟩
    simp only [Controller.step, History.step, Manager.deleteRegularCPUBoost,
      NamespacedObjects.get_delete]
    rw [if_neg]
    · exact registered
    · rintro ⟨rfl, rfl⟩
      exact allowed boost registered key before ⟨⟨otherName, registered⟩, present⟩
  · cases isUpsert

theorem NoPodLost.upsertPod (order : RangeOrder String) (pod : Pod) :
    (history.step lib client legacyRevertMode (.upsertPod order pod)).NoPodLost := by
  rintro key ⟨known, _, notReverted⟩
  have deliveredPod := Manager.newPod_self pod history.controller.manager
  have deliveredWellFormed := wellFormed.newPod pod
  have heldBefore : pod.key ≠ key → (history.controller.manager.newPod pod).2.HeldAt key := by
    intro different
    rcases known with before | ⟨_, _, isUpsert, sameKey⟩
    · exact noPodLost key before
    · cases isUpsert
      exact absurd sameKey different
  change (history.controller.step lib client legacyRevertMode
    (.upsertPod order pod)).manager.HeldAt key
  rcases history.controller.step_upsertPod lib client legacyRevertMode order pod with
    ⟨boost, found, outcome⟩ | ⟨noMatch, orphaned⟩
  · obtain ⟨⟨name, registered⟩, _⟩ := Manager.getMatchingBoost_some found
    have sameNs : ((history.controller.manager.newPod pod).2.memory.pods
        (history.controller.manager.newPod pod).1).ns =
          ((history.controller.manager.newPod pod).2.boosts boost).ns := by
      rw [deliveredPod]
      exact (wellFormed.regular _ _ _ registered).2.1.symm
    -- The pod itself is tracked by the boost, others are held as before.
    have upserted : ((∃ other, ((history.controller.manager.newPod pod).2.upsertPodIn lib client
        history.controller.now boost (history.controller.manager.newPod pod).1).2.TrackedBy key
          other) ∧ pod.key = key) ∨
        (((history.controller.manager.newPod pod).2.upsertPodIn lib client history.controller.now
          boost (history.controller.manager.newPod pod).1).2.HeldAt key ∧ pod.key ≠ key) := by
      by_cases sameKey : pod.key = key
      · subst sameKey
        refine .inl ⟨⟨boost, ⟨name, registered⟩, ?_⟩, rfl⟩
        have keeps : ¬ ((history.controller.manager.newPod pod).2.boosts boost).UpsertReverts lib
            client history.controller.now (history.controller.manager.newPod pod).1
              (history.controller.manager.newPod pod).2.memory :=
          fun reverts => notReverted ⟨rfl, boost, found, reverts⟩
        have tracks := Manager.upsertPodIn_tracks keeps
        rwa [deliveredPod] at tracks
      · refine .inr ⟨?_, sameKey⟩
        refine ((heldBefore sameKey).upsertPodIn deliveredWellFormed sameNs).resolve_right ?_
        rw [deliveredPod]
        exact fun reverted => sameKey reverted.1
    rcases outcome with ⟨_, accepted⟩ | ⟨_, failed⟩
    · rw [accepted]
      rcases upserted with ⟨tracked, _⟩ | ⟨held, different⟩
      · exact .inl tracked
      · exact held.deleteOrphanedPod different
    · rw [failed]
      rcases upserted with ⟨tracked, _⟩ | ⟨held, _⟩
      · exact .inl tracked
      · exact held
  · rw [orphaned]
    by_cases sameKey : pod.key = key
    · subst sameKey
      refine .inr ?_
      simp only [NamespacedObjects.get_put]
      rw [if_pos ⟨rfl, rfl⟩]
      rfl
    · refine (heldBefore sameKey).imp_right fun present => ?_
      simp only [NamespacedObjects.get_put]
      split
      · rfl
      · exact present

theorem NoPodLost.step (event : ControllerEvent σ)
    (allowed : DeletesIdleBoosts event history) :
    (history.step lib client legacyRevertMode event).NoPodLost := by
  -- Events that are no upsert: the pod was boosted before.
  have known : (∀ order pod, event ≠ .upsertPod order pod) →
      ∀ key ∈ (history.step lib client legacyRevertMode event).boosted,
        history.controller.manager.HeldAt key := by
    rintro noUpsert key ⟨before | ⟨order, pod, isUpsert, _⟩, _⟩
    · exact noPodLost key before
    · exact absurd isUpsert (noUpsert order pod)
  cases event with
  | createBoost order spec =>
      exact noPodLost.createBoost lib client legacyRevertMode wellFormed order spec
  | updateBoost order spec =>
      exact noPodLost.updateBoost lib client legacyRevertMode wellFormed order spec
  | deleteBoost ns name => exact noPodLost.deleteBoost lib client legacyRevertMode allowed
  | upsertPod order pod =>
      exact noPodLost.upsertPod lib client legacyRevertMode wellFormed order pod
  | deletePod order pod =>
      intro key member
      exact (known (by simp) key member).deletePod wellFormed (member.2.1 order pod rfl)
  | startTick order within =>
      intro key member
      have held := known (by simp) key member
      simp only [History.step, Controller.step]
      split <;> exact held
  | checkBoost order =>
      intro key member
      have sameManager : (history.controller.step lib client legacyRevertMode
        (.checkBoost order)).manager = history.controller.manager :=
          checkNextBoost_manager history.controller order
      change (history.controller.step lib client legacyRevertMode
        (.checkBoost order)).manager.HeldAt key
      rw [sameManager]
      exact known (by simp) key member
  | executeTask position =>
      intro key member
      have held := known (by simp) key member
      simp only [History.step, Controller.step]
      rcases history.controller.executeTask_cases lib client position with
        same | ⟨boost, ref, task, executed⟩
      · rwa [same]
      · obtain ⟨_, _, sameNs⟩ := wellFormed.tasks _ _ (List.mem_of_getElem? task)
        rw [executed]
        refine (held.revertResourcesIn wellFormed sameNs).resolve_right fun reverted => ?_
        exact member.2.2 ⟨boost, ref, task, reverted⟩
  | passTime duration => exact known (by simp)
  | changeServer server => exact known (by simp)

end History

/-- In every run in which a boost is deleted only while it tracks no boosted
pod, every pod given to the manager is held until it is deleted or reverted. -/
theorem run_noPodLost (hasClient : Bool) (now : Time) (server : σ)
    (events : List (ControllerEvent σ))
    (allowed : AllowedRun (History.step lib client legacyRevertMode) DeletesIdleBoosts events
      (History.initial hasClient now server)) :
    ((History.initial hasClient now server).run lib client legacyRevertMode events).NoPodLost := by
  have start : (History.initial hasClient now server).NoPodLost := fun key member => nomatch member
  have preserved : ∀ event (history : History σ),
      (WellFormed history.controller.inFlight history.controller.manager ∧ history.NoPodLost) →
        DeletesIdleBoosts event history →
          (WellFormed (history.step lib client legacyRevertMode event).controller.inFlight
              (history.step lib client legacyRevertMode event).controller.manager ∧
            (history.step lib client legacyRevertMode event).NoPodLost) :=
    fun event history invariant allowed =>
      ⟨invariant.1.step lib client legacyRevertMode event,
        invariant.2.step lib client legacyRevertMode invariant.1 event allowed⟩
  exact (runEvents_invariant preserved ⟨WellFormed.newManager hasClient server, start⟩ allowed).2

end Runs

namespace Reference

noncomputable def tracked : History ApiServer :=
  (History.initial true 0 ⟨∅, []⟩).run referenceLibrary referenceClient false
    (trackEvents everything boostedPod (serverWith boostedPod))

/-- The boost has no pod condition policy, so the upsert reverts nothing. -/
theorem boosted_tracked : boostedPod.key ∈ tracked.boosted := by
  refine ⟨.inr ⟨_, _, rfl, rfl⟩, nofun, fun reverted => ?_⟩
  change Controller.Reverts referenceLibrary referenceClient false
    (.upsertPod .arbitrary boostedPod) boostedPod.key
    (Controller.step referenceLibrary referenceClient false (.changeServer (serverWith boostedPod))
      (started.step referenceLibrary referenceClient false
        (.createBoost .arbitrary (boostOf everything forMinute)))) at reverted
  rw [step_create wellFormed_everything] at reverted
  obtain ⟨_, boost, found, notMet, _⟩ := reverted
  obtain ⟨⟨name, registered⟩, _⟩ := Manager.getMatchingBoost_some found
  obtain rfl : boost = 0 := registeredManager_registered everything registered
  refine notMet fun policy present => ?_
  change (mapDurationPolicy forMinute).lookup podConditionPolicyName = some policy at present
  simp [mapDurationPolicy, forMinute, podConditionPolicyName, fixedDurationPolicyName] at present

theorem tracked_controller : ∃ stats metrics, tracked.controller =
    ⟨trackingManager everything boostedPod (serverWith boostedPod) stats metrics, 0, {}⟩ := by
  obtain ⟨stats, metrics, tracking⟩ := run_tracking wellFormed_everything
    (show boostedPod.ns = "default" from rfl) (selects_everything boostedPod.labels)
    (serverWith boostedPod)
  exact ⟨stats, metrics, (History.run_controller _ _ _ _ _).trans tracking⟩

/-- A second boost, for which the server lists no pod. -/
def idleBoost : StartupCPUBoost := { boostOf everything forMinute with name := "idle" }

def idleImpl : StartupCPUBoostImpl := { implOf everything forMinute with name := "idle" }

private theorem newStartupCPUBoost_idleBoost :
    newStartupCPUBoost referenceLibrary idleBoost false = .ok idleImpl :=
  newStartupCPUBoost_of_mapped referenceLibrary wellFormed_everything rfl

private theorem list_idle :
    referenceClient.list "default" "idle" (serverWith boostedPod) =
      (.ok [], serverWith boostedPod) := by
  have otherLabel : boostedPod.labels.lookup boostLabelKey = some "boost" := Finmap.lookup_insert _
  simp [referenceClient, ApiServer.podClient, serverWith, otherLabel]

private theorem tracked_createBoost_idle :
    ¬ tracked.controller.Reverts referenceLibrary referenceClient false
        (.createBoost .arbitrary idleBoost) boostedPod.key ∧
      ∃ stats metrics timedBoosts,
        (tracked.controller.step referenceLibrary referenceClient false
          (.createBoost .arbitrary idleBoost)).manager =
            { Controller.registerNew idleImpl (trackingManager everything boostedPod
                (serverWith boostedPod) stats metrics) with timedBoosts } := by
  obtain ⟨stats, metrics, tracking⟩ := tracked_controller
  let before := trackingManager everything boostedPod (serverWith boostedPod) stats metrics
  have unused : before.regularBoosts.get idleBoost.name idleBoost.ns = none := by
    simp [before, trackingManager, registeredManager, idleBoost, NamespacedObjects.get_put]
  have created : (Controller.registerNew idleImpl before).boosts 1 = idleImpl :=
    Controller.registerNew_boosts idleImpl before
  have noneOrphaned : (Controller.registerNew idleImpl before).orphanedPods.list .arbitrary
      ((Controller.registerNew idleImpl before).boosts 1).ns = [] := rfl
  have noneListed : referenceClient.list ((Controller.registerNew idleImpl before).boosts 1).ns
      ((Controller.registerNew idleImpl before).boosts 1).name
      (Controller.registerNew idleImpl before).memory.server =
        (.ok [], (Controller.registerNew idleImpl before).memory.server) := by
    rw [created]
    exact list_idle
  constructor
  · rw [tracking]
    rintro ⟨impl, built, -, reverted⟩
    cases newStartupCPUBoost_idleBoost.symm.trans built
    exact Manager.not_revertedInTakeOver_of_none noneOrphaned noneListed reverted
  · obtain ⟨timedBoosts, indexed⟩ := (Controller.registerNew idleImpl before).indexTimedBoost_eq 1
    refine ⟨stats, metrics, timedBoosts, ?_⟩
    rw [tracking, Controller.step_createBoost_of_ok referenceLibrary referenceClient false
      .arbitrary _ newStartupCPUBoost_idleBoost]
    simp only [show (trackingManager everything boostedPod (serverWith boostedPod) stats
      metrics).regularBoosts.get idleBoost.name idleBoost.ns = none from unused]
    exact (Manager.postProcessNewBoost_of_none referenceLibrary referenceClient rfl noneOrphaned
      noneListed).trans indexed

/-- The second boost is created and deleted while the first one tracks the pod. -/
theorem run_noPodLost_boostedPod :
    let reached := tracked.run referenceLibrary referenceClient false
      [.createBoost .arbitrary idleBoost, .deleteBoost "default" "idle"]
    boostedPod.key ∈ reached.boosted ∧ reached.controller.manager.HeldAt boostedPod.key := by
  obtain ⟨notReverted, stats, metrics, timedBoosts, created⟩ := tracked_createBoost_idle
  have stillBoosted : boostedPod.key ∈ (tracked.run referenceLibrary referenceClient false
      [.createBoost .arbitrary idleBoost, .deleteBoost "default" "idle"]).boosted :=
    ⟨.inl ⟨.inl boosted_tracked, nofun, notReverted⟩, nofun, id⟩
  have tracking : AllowedRun (History.step referenceLibrary referenceClient false)
      DeletesIdleBoosts (trackEvents everything boostedPod (serverWith boostedPod))
      (History.initial true 0 ⟨∅, []⟩) :=
    And.intro trivial (And.intro trivial (And.intro trivial trivial))
  have idle : DeletesIdleBoosts (.deleteBoost "default" "idle") (tracked.step referenceLibrary
      referenceClient false (.createBoost .arbitrary idleBoost)) := by
    intro boost registered key _ trackedBy
    have sameManager : (tracked.step referenceLibrary referenceClient false
      (.createBoost .arbitrary idleBoost)).controller.manager = _ := created
    rw [sameManager] at registered trackedBy
    obtain rfl : 1 = boost := by
      have created := Controller.registerNew_get idleImpl (trackingManager everything boostedPod
        (serverWith boostedPod) stats metrics) "idle" "default"
      rw [if_pos ⟨rfl, rfl⟩] at created
      exact Option.some.inj (created.symm.trans registered)
    cases trackedBy.2
  have later : AllowedRun (History.step referenceLibrary referenceClient false) DeletesIdleBoosts
      [.createBoost .arbitrary idleBoost, .deleteBoost "default" "idle"] tracked :=
    And.intro trivial (And.intro idle trivial)
  have noPodLost := run_noPodLost referenceLibrary referenceClient false true 0 _ _
    (allowedRun_append _ tracking later)
  rw [History.run, runEvents_append] at noPodLost
  exact ⟨stillBoosted, noPodLost boostedPod.key stillBoosted⟩

/-- The boost is deleted while it tracks the pod, and nothing holds the pod any
longer. -/
theorem deleted_boost_loses_pod :
    let reached := tracked.step referenceLibrary referenceClient false
      (.deleteBoost "default" "boost")
    boostedPod.key ∈ reached.boosted ∧ ¬ reached.controller.manager.HeldAt boostedPod.key := by
  refine ⟨⟨.inl boosted_tracked, nofun, id⟩, ?_⟩
  obtain ⟨stats, metrics, reached⟩ := tracked_controller
  simp only [History.step, Controller.step, reached]
  rintro (⟨boost, ⟨name, registered⟩, _⟩ | orphaned)
  · simp only [Manager.deleteRegularCPUBoost, trackingManager, registeredManager,
      NamespacedObjects.get_delete, NamespacedObjects.get_put] at registered
    split at registered
    · cases registered
    · cases registered
  · cases orphaned

end Reference

end KubeStartupCPUBoost
