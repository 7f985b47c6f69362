import KubeStartupCPUBoost.ControllerRun
import KubeStartupCPUBoost.OrphanMapping

/-!
# Deleting a pod

A deleted pod is looked up by the selectors and labels of the moment, while it
was placed by those of an earlier one: with the boost that matched it then,
with a boost whose label it carries, or among the orphaned pods.

`Placed` says that every pod is where the current selectors would put the
version that was delivered: tracked pods match their boost, and orphaned pods
match no registered boost.  A pod deleted with labels that are routed like
those of the version held then leaves no trace.
-/

namespace KubeStartupCPUBoost

variable {σ : Type}

/-- No registered boost of the namespace tracks the pod's name, and it is not
among the orphaned pods. -/
def NoTrace (pod : Pod) (manager : Manager σ) : Prop :=
  (∀ name boost, manager.regularBoosts.get name pod.ns = some boost →
    (manager.boosts boost).pods.lookup pod.name = none) ∧
  manager.orphanedPods.get pod.name pod.ns = none

/-- Every pod is where the current selectors put the version delivered; the
orphaned pods that are excepted may be on their way to a boost. -/
structure Placed (inFlight : InFlight) (excepted : Pod → Bool) (manager : Manager σ) : Prop where
  tracked : ∀ name ns boost, manager.regularBoosts.get name ns = some boost →
    ∀ podName ref, (manager.boosts boost).pods.lookup podName = some ref →
      (manager.boosts boost).selectsPod (manager.memory.delivered ref) = true
  orphaned : ∀ podName ns ref, manager.orphanedPods.get podName ns = some ref →
    excepted (manager.memory.delivered ref) = false →
      manager.memory.pods ref = manager.memory.delivered ref ∧
        (∀ holder, ¬ Holds inFlight manager holder ref) ∧
        ∀ name boost, manager.regularBoosts.get name ns = some boost →
          (manager.boosts boost).selectsPod (manager.memory.delivered ref) = false

abbrev nonePod : Pod → Bool := fun _ => false

/-- The pods a boost takes over. -/
def matchedBy (impl : StartupCPUBoostImpl) : Pod → Bool := fun pod =>
  pod.ns = impl.ns && impl.selectsPod pod

namespace Placed

variable {inFlight : InFlight} {excepted : Pod → Bool} {manager : Manager σ} {boost : BoostRef}
  {ref : PodRef}

/-- Less registered, less held and fewer orphaned pods, on the same objects. -/
theorem mono {inFlight' : InFlight} {manager' : Manager σ}
    (placed : Placed inFlight excepted manager) (boosts : manager'.boosts = manager.boosts)
    (pods : manager'.memory.pods = manager.memory.pods)
    (delivered : manager'.memory.delivered = manager.memory.delivered)
    (regular : ∀ name ns boost, manager'.regularBoosts.get name ns = some boost →
      manager.regularBoosts.get name ns = some boost)
    (orphanedPods : ∀ podName ns ref, manager'.orphanedPods.get podName ns = some ref →
      manager.orphanedPods.get podName ns = some ref)
    (holds : ∀ boost ref, Holds inFlight' manager' boost ref → Holds inFlight manager boost ref) :
    Placed inFlight' excepted manager' where
  tracked name ns boost registered podName ref present := by
    rw [boosts] at present ⊢
    rw [delivered]
    exact placed.tracked name ns boost (regular _ _ _ registered) podName ref present
  orphaned podName ns ref present notExcepted := by
    rw [delivered] at notExcepted ⊢
    obtain ⟨unchanged, unheld, unmatched⟩ :=
      placed.orphaned podName ns ref (orphanedPods _ _ _ present) notExcepted
    rw [pods, boosts]
    exact ⟨unchanged, fun holder held => unheld holder (holds _ _ held),
      fun name boost registered => unmatched name boost (regular _ _ _ registered)⟩

/-- An operation on a pod object that is not among the orphaned pods, or is an
excepted one, after which the boost tracks pods it tracked before or this one,
which it matches. -/
theorem setBoost (placed : Placed inFlight excepted manager) {impl : StartupCPUBoostImpl}
    {memory : Memory σ} (touched : (manager.boosts boost).Touches ref impl manager.memory memory)
    (movable : ∀ podName ns, manager.orphanedPods.get podName ns = some ref →
      excepted (manager.memory.delivered ref) = true)
    (tracked : ∀ podName tracked, impl.pods.lookup podName = some tracked →
      (manager.boosts boost).pods.lookup podName = some tracked ∨
        (tracked = ref ∧
          (manager.boosts boost).selectsPod (manager.memory.delivered ref) = true)) :
    Placed inFlight excepted (manager.setBoost boost impl memory) := by
  have sameSelector : ∀ other pod, ((manager.setBoost boost impl memory).boosts other).selectsPod
      pod = (manager.boosts other).selectsPod pod := by
    intro other pod
    by_cases same : other = boost
    · subst other
      rw [Manager.setBoost_boosts_self, touched.boost_eq]
      rfl
    · rw [Manager.setBoost_boosts_of_ne same]
  have sameDelivered : (manager.setBoost boost impl memory).memory.delivered =
      manager.memory.delivered := touched.delivered
  constructor
  · intro name ns other registered podName object present
    rw [sameSelector, sameDelivered]
    by_cases same : other = boost
    · subst other
      rw [Manager.setBoost_boosts_self] at present
      rcases tracked podName object present with before | ⟨rfl, selected⟩
      · exact placed.tracked name ns boost registered podName object before
      · exact selected
    · rw [Manager.setBoost_boosts_of_ne same] at present
      exact placed.tracked name ns other registered podName object present
  · intro podName ns object present notExcepted
    rw [sameDelivered] at notExcepted ⊢
    have different : object ≠ ref := by
      rintro rfl
      rw [movable podName ns present] at notExcepted
      cases notExcepted
    obtain ⟨unchanged, unheld, unmatched⟩ := placed.orphaned podName ns object present notExcepted
    refine ⟨?_, fun holder held => ?_, fun name other registered => ?_⟩
    · exact (touched.pods_of_ne object different).trans unchanged
    · rcases held with ⟨inUse, otherName, found⟩ | task
      · by_cases same : holder = boost
        · subst holder
          rw [Manager.setBoost_boosts_self] at found
          rcases tracked otherName object found with before | ⟨equal, _⟩
          · exact unheld boost (.inl ⟨inUse, otherName, before⟩)
          · exact different equal
        · rw [Manager.setBoost_boosts_of_ne same] at found
          exact unheld holder (.inl ⟨inUse, otherName, found⟩)
      · exact unheld holder (.inr task)
    · rw [sameSelector]
      exact unmatched name other registered

variable (lib : Library) (client : PodClient σ) (now : Time)

theorem upsertPodIn (placed : Placed inFlight excepted manager)
    (movable : ∀ podName ns, manager.orphanedPods.get podName ns = some ref →
      excepted (manager.memory.delivered ref) = true)
    (selected : (manager.boosts boost).selectsPod (manager.memory.delivered ref) = true) :
    Placed inFlight excepted (manager.upsertPodIn lib client now boost ref).2 := by
  refine placed.setBoost (StartupCPUBoostImpl.touches_upsertPod lib client now ref _ _) movable
    fun podName tracked present => ?_
  rcases StartupCPUBoostImpl.tracked_of_upsertPod lib client now ref _ _ present with
    ⟨_, before⟩ | ⟨_, same, _⟩
  · exact .inl before
  · exact .inr ⟨same, selected⟩

/-- A task is for an object that somebody holds, so it is not orphaned. -/
theorem revertResourcesIn (placed : Placed inFlight nonePod manager)
    (held : Holds inFlight manager boost ref) :
    Placed inFlight nonePod (manager.revertResourcesIn lib client boost ref).2 := by
  refine placed.setBoost (StartupCPUBoostImpl.touches_revertResources lib client ref _ _)
    (fun podName ns present => ?_) fun podName tracked present => ?_
  · exact absurd held ((placed.orphaned podName ns ref present rfl).2.1 boost)
  · exact .inl (StartupCPUBoostImpl.tracked_of_revertResources lib client ref _ _ present).1

theorem deletePodIn (placed : Placed inFlight excepted manager)
    (wellFormed : WellFormed inFlight manager) (boost : BoostRef) (podName : String) :
    Placed inFlight excepted (manager.deletePodIn lib boost podName) := by
  refine placed.setBoost
    (StartupCPUBoostImpl.touches_deletePod lib manager.memory.next _ _ podName)
    (fun name ns present => ?_) fun name tracked present => ?_
  · exact absurd (wellFormed.orphaned _ _ _ present).2 (Nat.lt_irrefl _)
  · rw [StartupCPUBoostImpl.deletePod_pods, GoMap.lookup_erase] at present
    split at present
    · cases present
    · exact .inl present

theorem newPod (placed : Placed inFlight excepted manager)
    (wellFormed : WellFormed inFlight manager) (pod : Pod) :
    Placed inFlight excepted (manager.newPod pod).2 := by
  constructor
  · intro name ns boost registered podName object present
    rw [Manager.newPod_delivered_of_lt (wellFormed.tracked _ _ _ present).2]
    exact placed.tracked name ns boost registered podName object present
  · intro podName ns object present notExcepted
    have allocated := (wellFormed.orphaned _ _ _ present).2
    rw [Manager.newPod_delivered_of_lt allocated] at notExcepted ⊢
    rw [Manager.newPod_pods_of_lt allocated]
    exact placed.orphaned podName ns object present notExcepted

/-- A new object may be tracked by a boost that matches it. -/
theorem upsertPodIn_newPod (placed : Placed inFlight excepted manager)
    (wellFormed : WellFormed inFlight manager) {pod : Pod}
    (selected : (manager.boosts boost).selectsPod pod = true) :
    Placed inFlight excepted
      ((manager.newPod pod).2.upsertPodIn lib client now boost (manager.newPod pod).1).2 := by
  refine (placed.newPod wellFormed pod).upsertPodIn lib client now (fun podName ns present => ?_) ?_
  · have allocated : manager.memory.next < manager.memory.next :=
      (wellFormed.orphaned _ _ _ present).2
    exact absurd allocated (Nat.lt_irrefl _)
  · rwa [Manager.newPod_delivered_self]

theorem putOrphanedPod_newPod (placed : Placed inFlight excepted manager)
    (wellFormed : WellFormed inFlight manager) {pod : Pod}
    (unmatched : ∀ name boost, manager.regularBoosts.get name pod.ns = some boost →
      (manager.boosts boost).selectsPod pod = false) :
    Placed inFlight excepted
      { (manager.newPod pod).2 with
        orphanedPods := (manager.newPod pod).2.orphanedPods.put pod.name pod.ns
          manager.memory.next } := by
  have deliveredPods := placed.newPod wellFormed pod
  have newDelivered : (manager.newPod pod).2.memory.delivered manager.memory.next = pod :=
    manager.newPod_delivered_self pod
  refine ⟨deliveredPods.tracked, fun podName ns object present notExcepted => ?_⟩
  rcases NamespacedObjects.get_put_eq_some.mp present with ⟨⟨rfl, rfl⟩, rfl⟩ | ⟨-, before⟩
  · refine ⟨(manager.newPod_self pod).trans newDelivered.symm,
      fun holder held => ?_, fun name boost registered => ?_⟩
    · have allocated : manager.memory.next < manager.memory.next :=
        allocated_of_holds wellFormed held
      exact absurd allocated (Nat.lt_irrefl _)
    · change (manager.boosts boost).selectsPod
        ((manager.newPod pod).2.memory.delivered manager.memory.next) = false
      rw [newDelivered]
      exact unmatched name boost registered
  · exact deliveredPods.orphaned podName ns object before notExcepted

theorem newBoost (placed : Placed inFlight excepted manager)
    (wellFormed : WellFormed inFlight manager) (impl : StartupCPUBoostImpl) :
    Placed inFlight excepted (manager.newBoost impl).2 := by
  constructor
  · intro name ns boost registered podName object present
    rw [Manager.newBoost_boosts_of_lt (wellFormed.regular _ _ _ registered).2.2] at present ⊢
    exact placed.tracked name ns boost registered podName object present
  · intro podName ns object present notExcepted
    obtain ⟨unchanged, unheld, unmatched⟩ := placed.orphaned podName ns object present notExcepted
    refine ⟨unchanged, fun holder held => ?_, fun name boost registered => ?_⟩
    · rcases held with ⟨inUse, tracked⟩ | task
      · rw [Manager.newBoost_boosts_of_lt (inUse_lt wellFormed inUse)] at tracked
        exact unheld holder (.inl ⟨inUse, tracked⟩)
      · exact unheld holder (.inr task)
    · rw [Manager.newBoost_boosts_of_lt (wellFormed.regular _ _ _ registered).2.2]
      exact unmatched name boost registered

/-- Registering a boost that tracks nothing; the orphaned pods it matches are
excepted from now on. -/
theorem register (placed : Placed inFlight nonePod manager)
    (wellFormed : WellFormed inFlight manager) (noPods : (manager.boosts boost).pods = ∅) :
    Placed inFlight (matchedBy (manager.boosts boost)) (manager.register boost) := by
  have registeredBefore : ∀ name ns other,
      (manager.register boost).regularBoosts.get name ns = some other →
        (other = boost ∧ ns = (manager.boosts boost).ns) ∨
          manager.regularBoosts.get name ns = some other := by
    intro name ns other registered
    rcases NamespacedObjects.get_put_eq_some.mp registered with ⟨⟨-, sameNs⟩, same⟩ | ⟨-, before⟩
    · exact .inl ⟨same, sameNs⟩
    · exact .inr before
  have noneTracked :
      ∀ podName object, (manager.boosts boost).pods.lookup podName ≠ some object := by
    intro podName object present
    rw [noPods] at present
    cases present
  constructor
  · intro name ns other registered podName object present
    rcases registeredBefore name ns other registered with ⟨rfl, _⟩ | before
    · exact absurd present (noneTracked podName object)
    · exact placed.tracked name ns other before podName object present
  · intro podName ns object present notMatched
    obtain ⟨unchanged, unheld, unmatched⟩ := placed.orphaned podName ns object present rfl
    refine ⟨unchanged, fun holder held => ?_, fun name other registered => ?_⟩
    · rcases held with ⟨⟨name, otherNs, registered⟩ | scanning, otherName, tracked⟩ | task
      · rcases registeredBefore name otherNs holder registered with ⟨rfl, _⟩ | before
        · exact noneTracked otherName object tracked
        · exact unheld holder (.inl ⟨.inl ⟨name, otherNs, before⟩, otherName, tracked⟩)
      · exact unheld holder (.inl ⟨.inr scanning, otherName, tracked⟩)
      · exact unheld holder (.inr task)
    · rcases registeredBefore name ns other registered with ⟨rfl, rfl⟩ | before
      · have deliveredNs : (manager.memory.delivered object).ns = (manager.boosts other).ns := by
          have sameKey := (wellFormed.delivered object).trans (wellFormed.orphaned _ _ _ present).1
          exact congrArg Prod.fst sameKey
        have notBoth : matchedBy (manager.boosts other) (manager.memory.delivered object) =
          false := notMatched
        change (manager.boosts other).selectsPod (manager.memory.delivered object) = false
        simpa [matchedBy, deliveredNs] using notBoth
      · exact unmatched name other before

/-- Replacing the specification of a boost by one that matches its pods; the
orphaned pods it matches are excepted from now on. -/
theorem setSpec (placed : Placed inFlight nonePod manager)
    (wellFormed : WellFormed inFlight manager) {impl : StartupCPUBoostImpl}
    (sameNs : impl.ns = (manager.boosts boost).ns)
    (samePods : impl.pods = (manager.boosts boost).pods)
    (matching : ∀ podName ref, (manager.boosts boost).pods.lookup podName = some ref →
      impl.selectsPod (manager.memory.delivered ref) = true) :
    Placed inFlight (matchedBy impl) (manager.setBoost boost impl manager.memory) := by
  constructor
  · intro name ns other registered podName object present
    by_cases same : other = boost
    · subst other
      rw [Manager.setBoost_boosts_self] at present ⊢
      rw [samePods] at present
      exact matching podName object present
    · rw [Manager.setBoost_boosts_of_ne same] at present ⊢
      exact placed.tracked name ns other registered podName object present
  · intro podName ns object present notMatched
    obtain ⟨unchanged, unheld, unmatched⟩ := placed.orphaned podName ns object present rfl
    refine ⟨unchanged, fun holder held => ?_, fun name other registered => ?_⟩
    · rcases held with ⟨inUse, tracked⟩ | task
      · refine unheld holder (.inl ⟨inUse, ?_⟩)
        by_cases same : holder = boost
        · subst holder
          rwa [Manager.setBoost_boosts_self, samePods] at tracked
        · rwa [Manager.setBoost_boosts_of_ne same] at tracked
      · exact unheld holder (.inr task)
    · by_cases same : other = boost
      · subst other
        rw [Manager.setBoost_boosts_self]
        have boostNs := (wellFormed.regular name ns boost registered).2.1
        have sameKey := (wellFormed.delivered object).trans (wellFormed.orphaned _ _ _ present).1
        have deliveredNs : (manager.memory.delivered object).ns = impl.ns :=
          (congrArg Prod.fst sameKey).trans (boostNs.symm.trans sameNs.symm)
        have notBoth : matchedBy impl (manager.memory.delivered object) = false := notMatched
        change impl.selectsPod (manager.memory.delivered object) = false
        simpa [matchedBy, deliveredNs] using notBoth
      · rw [Manager.setBoost_boosts_of_ne same]
        exact unmatched name other registered

end Placed

section TakingOver

variable (lib : Library) (client : PodClient σ) (now : Time)

/-- The invariant of the loop over the orphaned pods. -/
structure Mapping (inFlight : InFlight) (boost : BoostRef) (start current : Manager σ) : Prop where
  placed : Placed inFlight (matchedBy (start.boosts boost)) current
  orphanedPods : current.orphanedPods = start.orphanedPods
  delivered : current.memory.delivered = start.memory.delivered
  selector : (current.boosts boost).selector = (start.boosts boost).selector

variable {lib client now} {inFlight : InFlight} {boost : BoostRef} {order : RangeOrder String}

theorem Mapping.upsertPodIn {start current : Manager σ} {ref : PodRef}
    (mapping : Mapping inFlight boost start current) (wellFormed : WellFormed inFlight current)
    (member : ref ∈ start.orphanedPods.list order (start.boosts boost).ns)
    (selected : (current.boosts boost).selectsPod (current.memory.pods ref) = true) :
    Mapping inFlight boost start (current.upsertPodIn lib client now boost ref).2 := by
  obtain ⟨podName, present⟩ := NamespacedObjects.mem_list.mp member
  rw [← mapping.orphanedPods] at present
  -- An orphaned pod that is not excepted is as it was delivered, and not matched.
  have isMatched : matchedBy (start.boosts boost) (current.memory.delivered ref) = true := by
    by_contra notMatched
    obtain ⟨unchanged, _⟩ := mapping.placed.orphaned podName _ ref present
      (Bool.not_eq_true _ ▸ notMatched)
    have deliveredNs : (current.memory.delivered ref).ns = (start.boosts boost).ns :=
      congrArg Prod.fst ((wellFormed.delivered ref).trans (wellFormed.orphaned _ _ _ present).1)
    apply notMatched
    rw [unchanged, StartupCPUBoostImpl.selectsPod, mapping.selector] at selected
    simpa [matchedBy, deliveredNs, StartupCPUBoostImpl.selectsPod] using selected
  have touched := StartupCPUBoostImpl.touches_upsertPod lib client now ref (current.boosts boost)
    current.memory
  refine ⟨mapping.placed.upsertPodIn lib client now (fun _ _ _ => isMatched) ?_,
    mapping.orphanedPods, touched.delivered.trans mapping.delivered, ?_⟩
  · rw [StartupCPUBoostImpl.selectsPod, mapping.selector]
    exact (Bool.and_eq_true _ _ ▸ isMatched).2
  · simp only [Manager.upsertPodIn, Manager.setBoost_boosts_self]
    rw [touched.boost_eq]
    exact mapping.selector

theorem Placed.mapOrphanedPods {manager : Manager σ} (wellFormed : WellFormed inFlight manager)
    (placed : Placed inFlight (matchedBy (manager.boosts boost)) manager)
    (unchanged : ∀ podName ns ref, manager.orphanedPods.get podName ns = some ref →
      manager.memory.pods ref = manager.memory.delivered ref)
    (accepted : MappingAccepted lib client now boost
      (manager.orphanedPods.list order (manager.boosts boost).ns) manager) :
    let mapped := (manager.mapOrphanedPods lib client now order boost).2
    Placed inFlight nonePod mapped ∧
      (mapped.boosts boost).selector = (manager.boosts boost).selector := by
  have start : Ranging inFlight boost (manager.boosts boost).ns
      (manager.orphanedPods.list order (manager.boosts boost).ns) manager :=
    Ranging.orphanedPods wellFormed
  obtain ⟨ranging, mapping⟩ := start.mapMatchingPods lib client
    (P := Mapping inFlight boost manager) ⟨placed, rfl, rfl, rfl⟩
    fun ref member current ranging mapping selected =>
      mapping.upsertPodIn ranging.wellFormed member selected
  obtain ⟨orphanedPods, deleted, kept⟩ := Manager.foldl_deleteOrphanedPod_eq
    (manager.mapMatchingPods lib client now boost
      (manager.orphanedPods.list order (manager.boosts boost).ns)).2.1
    (manager.mapMatchingPods lib client now boost
      (manager.orphanedPods.list order (manager.boosts boost).ns)).2.2
  have unmatched := Manager.orphaned_of_mapOrphanedPods wellFormed accepted
  simp only [Manager.mapOrphanedPods] at unmatched ⊢
  rw [deleted] at unmatched ⊢
  refine ⟨⟨mapping.placed.tracked, fun podName ns ref present _ => ?_⟩, mapping.selector⟩
  refine mapping.placed.orphaned podName ns ref ((kept podName ns ref).mp present).1 ?_
  obtain ⟨presentAtStart, notSelected⟩ := unmatched _ _ _ present
  have deliveredNs : (manager.memory.delivered ref).ns = ns :=
    congrArg Prod.fst ((wellFormed.delivered ref).trans
      (wellFormed.orphaned _ _ _ presentAtStart).1)
  rw [mapping.delivered, matchedBy, Bool.and_eq_false_iff, deliveredNs]
  by_cases sameNs : ns = (manager.boosts boost).ns
  · refine .inr ?_
    rw [← unchanged _ _ _ presentAtStart]
    exact notSelected sameNs
  · exact .inl (decide_eq_false sameNs)

variable (lib client now order)

/-- The part of the API in taking over pods for a boost: it accepts the reverts
of the orphaned pods, and the pods it lists for the boost match the boost. -/
def TakeOverAccepted (boost : BoostRef) (manager : Manager σ) : Prop :=
  let indexed := manager.indexTimedBoost boost
  MappingAccepted lib client now boost
      (indexed.orphanedPods.list order (indexed.boosts boost).ns) indexed ∧
    ∀ pod, (indexed.mapOrphanedPods lib client now order boost).2.MeetsInSync client boost pod →
      (manager.boosts boost).selectsPod pod = true

variable {lib client now order}

theorem Placed.postProcessNewBoost {manager : Manager σ} (wellFormed : WellFormed inFlight manager)
    (registered : manager.regularBoosts.get (manager.boosts boost).name
      (manager.boosts boost).ns = some boost)
    (placed : Placed inFlight (matchedBy (manager.boosts boost)) manager)
    (unchanged : ∀ podName ns ref, manager.orphanedPods.get podName ns = some ref →
      manager.memory.pods ref = manager.memory.delivered ref)
    (accepted : TakeOverAccepted lib client now order boost manager) :
    Placed inFlight nonePod (manager.postProcessNewBoost lib client now order boost) := by
  have indexedWellFormed := wellFormed.indexTimedBoost registered
  obtain ⟨timedBoosts, indexed⟩ := manager.indexTimedBoost_eq boost
  simp only [TakeOverAccepted] at accepted
  simp only [Manager.postProcessNewBoost]
  rw [indexed] at indexedWellFormed accepted ⊢
  obtain ⟨mappingAccepted, listedMatch⟩ := accepted
  have indexedPlaced : Placed inFlight (matchedBy (manager.boosts boost))
      { manager with timedBoosts } :=
    placed.mono rfl rfl rfl (fun _ _ _ present => present) (fun _ _ _ present => present)
      fun _ _ holds => holds
  obtain ⟨mapped, selector⟩ := indexedPlaced.mapOrphanedPods indexedWellFormed unchanged
    mappingAccepted
  have ranging := Ranging.afterMapping lib client indexedWellFormed now order boost
  refine (Ranging.syncBoostPods lib client
    (P := fun current => Placed inFlight nonePod current ∧
      (current.boosts boost).selector = (manager.boosts boost).selector)
    (Q := fun pod => (manager.boosts boost).selectsPod pod = true)
    ranging ⟨mapped, selector⟩ ?_ ?_).2.1
  · exact ⟨⟨mapped.mono rfl rfl rfl (fun _ _ _ present => present) (fun _ _ _ present => present)
      fun _ _ holds => holds, selector⟩, listedMatch⟩
  · rintro pod selected _ current ranging ⟨currentPlaced, sameSelector⟩ _
    have touched := StartupCPUBoostImpl.touches_upsertPod lib client now current.memory.next
      (current.boosts boost) (current.newPod pod).2.memory
    refine ⟨currentPlaced.upsertPodIn_newPod lib client now ranging.wellFormed ?_, ?_⟩
    · rwa [StartupCPUBoostImpl.selectsPod, sameSelector]
    · simp only [Manager.upsertPodIn, Manager.setBoost_boosts_self]
      exact (congrArg StartupCPUBoostImpl.selector touched.boost_eq).trans sameSelector

end TakingOver

variable (lib : Library) (client : PodClient σ) (legacyRevertMode : Bool)

/-- The condition on the events of a run.  When a boost is registered or
updated, the API accepts the reverts of the orphaned pods it takes over and
lists for it only pods it matches; and an update goes on matching the versions
the boost tracks. -/
def KeepsPlaced (event : ControllerEvent σ) (state : Controller σ) : Prop :=
  let manager := state.manager
  match event with
  | .createBoost order spec =>
      ∀ impl, newStartupCPUBoost lib spec legacyRevertMode = .ok impl →
        manager.regularBoosts.get spec.name spec.ns = none →
          TakeOverAccepted lib client state.now order manager.nextBoost
            (Controller.registerNew impl manager)
  | .updateBoost order spec =>
      ∀ boost impl, manager.regularBoosts.get spec.name spec.ns = some boost →
        (manager.boosts boost).updateFromSpec lib spec = .ok impl →
          (∀ podName ref, (manager.boosts boost).pods.lookup podName = some ref →
            impl.selectsPod (manager.memory.delivered ref) = true) ∧
          TakeOverAccepted lib client state.now order boost
            (manager.setBoost boost impl manager.memory)
  | _ => True

def HeldAs (pod : Pod) (manager : Manager σ) (ref : PodRef) : Prop :=
  (∃ name boost, manager.regularBoosts.get name pod.ns = some boost ∧
    (manager.boosts boost).pods.lookup pod.name = some ref) ∨
  manager.orphanedPods.get pod.name pod.ns = some ref

/-- The condition on a deletion: at most one registered boost matches the pod,
and every registered boost of the namespace that matches the pod matches the
versions held under its name, and conversely. -/
def RoutedAsHeld (pod : Pod) (manager : Manager σ) : Prop :=
  (∀ name other boost second, manager.regularBoosts.get name pod.ns = some boost →
    manager.regularBoosts.get other pod.ns = some second →
      (manager.boosts boost).selectsPod pod = true →
        (manager.boosts second).selectsPod pod = true → boost = second) ∧
  ∀ ref, HeldAs pod manager ref → ∀ name boost,
    manager.regularBoosts.get name pod.ns = some boost →
      (manager.boosts boost).selectsPod pod =
        (manager.boosts boost).selectsPod (manager.memory.delivered ref)

namespace Placed

variable {state : Controller σ} (placed : Placed state.inFlight nonePod state.manager)
  (wellFormed : WellFormed state.inFlight state.manager)

include placed wellFormed

theorem createBoost (order : RangeOrder String) (spec : StartupCPUBoost)
    (allowed : KeepsPlaced lib client legacyRevertMode (.createBoost order spec) state) :
    Placed (state.step lib client legacyRevertMode (.createBoost order spec)).inFlight nonePod
      (state.step lib client legacyRevertMode (.createBoost order spec)).manager := by
  rcases state.step_createBoost lib client legacyRevertMode order spec with
    same | ⟨impl, built, unregistered | ⟨unused, registered⟩⟩
  · rwa [same]
  · rw [unregistered]
    exact placed.newBoost wellFormed impl
  · obtain ⟨_, _, noPods, _⟩ := newStartupCPUBoost_ok lib built
    have created := Controller.registerNew_boosts impl state.manager
    have stored : (state.manager.newBoost impl).2.boosts state.manager.nextBoost = impl := created
    have createdPlaced : Placed state.inFlight
        (matchedBy ((state.manager.newBoost impl).2.boosts state.manager.nextBoost))
        ((state.manager.newBoost impl).2.register state.manager.nextBoost) :=
      (placed.newBoost wellFormed impl).register (wellFormed.newBoost lib built)
        (by rw [stored]; exact noPods)
    rw [registered]
    refine Placed.postProcessNewBoost
      (wellFormed.registerNew lib built unused) ?_ createdPlaced ?_
      (allowed impl built unused)
    · simp [Controller.registerNew_get, created]
    · exact fun podName ns ref present => (placed.orphaned podName ns ref present rfl).1

theorem updateBoost (order : RangeOrder String) (spec : StartupCPUBoost)
    (allowed : KeepsPlaced lib client legacyRevertMode (.updateBoost order spec) state) :
    Placed (state.step lib client legacyRevertMode (.updateBoost order spec)).inFlight nonePod
      (state.step lib client legacyRevertMode (.updateBoost order spec)).manager := by
  rcases state.step_updateBoost lib client legacyRevertMode order spec with
    same | ⟨boost, impl, registered, updated, replaced⟩
  · rwa [same]
  · obtain ⟨replacedWellFormed, stillRegistered⟩ :=
      wellFormed.setSpec_of_update lib registered updated
    have impl_eq := StartupCPUBoostImpl.updateFromSpec_ok lib updated
    obtain ⟨matching, accepted⟩ := allowed boost impl registered updated
    have replacedPlaced := placed.setSpec wellFormed (by rw [impl_eq]) (by rw [impl_eq]) matching
    rw [replaced]
    refine Placed.postProcessNewBoost replacedWellFormed ?_ ?_ ?_ accepted
    · rwa [Manager.setBoost_boosts_self]
    · rwa [Manager.setBoost_boosts_self]
    · exact fun podName ns ref present => (placed.orphaned podName ns ref present rfl).1

theorem upsertPod (order : RangeOrder String) (pod : Pod) :
    Placed (state.step lib client legacyRevertMode (.upsertPod order pod)).inFlight nonePod
      (state.step lib client legacyRevertMode (.upsertPod order pod)).manager := by
  rcases state.step_upsertPod lib client legacyRevertMode order pod with
    ⟨boost, found, outcome⟩ | ⟨noMatch, orphaned⟩
  · have upserted := placed.upsertPodIn_newPod lib client state.now wellFormed
      (Manager.getMatchingBoost_some found).2
    rcases outcome with ⟨_, accepted⟩ | ⟨_, failed⟩
    · rw [accepted]
      exact upserted.mono rfl rfl rfl (fun _ _ _ present => present)
        (fun _ _ _ present => Manager.orphaned_of_deleteOrphanedPod present) fun _ _ holds => holds
    · rw [failed]
      exact upserted
  · rw [orphaned]
    exact placed.putOrphanedPod_newPod wellFormed fun name boost registered =>
      Manager.getMatchingBoost_none noMatch registered

theorem deletePod (order : RangeOrder String) (pod : Pod) :
    Placed state.inFlight nonePod (state.manager.deletePod lib order pod).2 := by
  rcases state.manager.deletePod_cases lib order pod with ⟨boost, -, deleted⟩ | ⟨-, deleted⟩
  · rw [deleted]
    exact placed.deletePodIn lib wellFormed _ _
  · rw [deleted]
    exact placed.mono rfl rfl rfl (fun _ _ _ present => present)
      (fun _ _ _ present => Manager.orphaned_of_deleteOrphanedPod present) fun _ _ holds => holds

omit wellFormed in
theorem executeTask (position : Nat) :
    Placed (state.executeTask lib client position).inFlight nonePod
      (state.executeTask lib client position).manager := by
  rcases state.executeTask_cases lib client position with same | ⟨boost, ref, task, executed⟩
  · rwa [same]
  · have reverted := placed.revertResourcesIn lib client (.inr (List.mem_of_getElem? task))
    rw [executed]
    refine reverted.mono rfl rfl rfl (fun _ _ _ present => present)
      (fun _ _ _ present => present) ?_
    rintro other object (tracked | later)
    · exact .inl tracked
    · exact .inr (List.mem_of_mem_eraseIdx later)

/-- Every event that meets the condition keeps all pods where they belong. -/
theorem step (event : ControllerEvent σ)
    (allowed : KeepsPlaced lib client legacyRevertMode event state) :
    Placed (state.step lib client legacyRevertMode event).inFlight nonePod
      (state.step lib client legacyRevertMode event).manager := by
  cases event with
  | createBoost order spec =>
      exact placed.createBoost lib client legacyRevertMode wellFormed order spec allowed
  | updateBoost order spec =>
      exact placed.updateBoost lib client legacyRevertMode wellFormed order spec allowed
  | deleteBoost ns name =>
      exact placed.mono rfl rfl rfl
        (fun _ _ _ registered => Manager.registered_of_deleteRegularCPUBoost registered)
        (fun _ _ _ present => present) fun _ _ holds => holds_of_deleteRegularCPUBoost holds
  | upsertPod order pod => exact placed.upsertPod lib client legacyRevertMode wellFormed order pod
  | deletePod order pod => exact placed.deletePod lib wellFormed order pod
  | startTick order within =>
      simp only [Controller.step]
      split
      · exact placed.mono rfl rfl rfl (fun _ _ _ present => present)
          (fun _ _ _ present => present) fun _ _ holds => holds_of_startTick wellFormed holds
      · exact placed
  | checkBoost order =>
      have sameManager : (state.step lib client legacyRevertMode (.checkBoost order)).manager =
        state.manager := checkNextBoost_manager state order
      exact placed.mono (by rw [sameManager]) (by rw [sameManager]) (by rw [sameManager])
        (by rw [sameManager]; exact fun _ _ _ present => present)
        (by rw [sameManager]; exact fun _ _ _ present => present)
        fun _ _ holds => holds_of_checkNextBoost holds
  | executeTask position => exact placed.executeTask lib client position
  | passTime duration => exact placed
  | changeServer server =>
      exact placed.mono rfl rfl rfl (fun _ _ _ present => present)
        (fun _ _ _ present => present) fun _ _ holds => holds

omit wellFormed in
theorem noTrace_of_routed (order : RangeOrder String) {pod : Pod}
    (routed : RoutedAsHeld pod state.manager) :
    NoTrace pod (state.manager.deletePod lib order pod).2 := by
  obtain ⟨oneMatch, sameRoute⟩ := routed
  -- A boost that tracks the name matches the version it tracks, hence the pod.
  have selected_of_tracked : ∀ name boost ref,
      state.manager.regularBoosts.get name pod.ns = some boost →
        (state.manager.boosts boost).pods.lookup pod.name = some ref →
          (state.manager.boosts boost).selectsPod pod = true := by
    intro name boost ref registered tracked
    rw [sameRoute ref (.inl ⟨name, boost, registered, tracked⟩) name boost registered]
    exact placed.tracked _ _ _ registered _ _ tracked
  rcases state.manager.deletePod_cases lib order pod with
    ⟨boost, found, deleted⟩ | ⟨noMatch, deleted⟩
  · rw [deleted]
    obtain ⟨⟨name, registered⟩, selected⟩ := Manager.getMatchingBoost_some found
    constructor
    · intro otherName other otherRegistered
      by_cases same : other = boost
      · subst other
        simp only [Manager.deletePodIn, Manager.setBoost_boosts_self,
          StartupCPUBoostImpl.deletePod_pods]
        exact Finmap.lookup_erase _ _
      · simp only [Manager.deletePodIn, Manager.setBoost_boosts_of_ne same]
        cases tracked : (state.manager.boosts other).pods.lookup pod.name with
        | none => rfl
        | some ref =>
            have otherSelected := selected_of_tracked otherName other ref otherRegistered tracked
            exact absurd (oneMatch _ _ _ _ otherRegistered registered otherSelected selected) same
    · cases orphaned : state.manager.orphanedPods.get pod.name pod.ns with
      | none => exact orphaned
      | some ref =>
          have unmatched := (placed.orphaned _ _ _ orphaned rfl).2.2 name boost registered
          rw [← sameRoute ref (.inr orphaned) name boost registered, selected] at unmatched
          cases unmatched
  · rw [deleted]
    constructor
    · intro name boost registered
      change (state.manager.boosts boost).pods.lookup pod.name = none
      cases tracked : (state.manager.boosts boost).pods.lookup pod.name with
      | none => rfl
      | some ref =>
          have selected := selected_of_tracked name boost ref registered tracked
          rw [Manager.getMatchingBoost_none noMatch registered] at selected
          cases selected
    · simp [Manager.deleteOrphanedPod, NamespacedObjects.get_delete]

end Placed

/-- After a run whose events meet the condition, deleting a pod that is routed
like the versions held under its name leaves no trace of it. -/
theorem deletePod_leaves_no_trace (hasClient : Bool) (now : Time) (server : σ)
    (events : List (ControllerEvent σ)) (order : RangeOrder String) (pod : Pod)
    (allowed : AllowedRun (Controller.step lib client legacyRevertMode)
      (KeepsPlaced lib client legacyRevertMode) events
      (Controller.initial hasClient now server))
    (routed : RoutedAsHeld pod ((Controller.initial hasClient now server).run lib client
      legacyRevertMode events).manager) :
    NoTrace pod ((Controller.initial hasClient now server).run lib client legacyRevertMode
      (events ++ [.deletePod order pod])).manager := by
  have start : Placed {} nonePod (Controller.newManager hasClient server) :=
    ⟨fun _ _ _ registered => (nomatch registered), fun _ _ _ present => (nomatch present)⟩
  have preserved : ∀ event (state : Controller σ),
      (WellFormed state.inFlight state.manager ∧ Placed state.inFlight nonePod state.manager) →
        KeepsPlaced lib client legacyRevertMode event state →
          (WellFormed (state.step lib client legacyRevertMode event).inFlight
              (state.step lib client legacyRevertMode event).manager ∧
            Placed (state.step lib client legacyRevertMode event).inFlight nonePod
              (state.step lib client legacyRevertMode event).manager) :=
    fun event state invariant allowed =>
      ⟨invariant.1.step lib client legacyRevertMode event,
        invariant.2.step lib client legacyRevertMode invariant.1 event allowed⟩
  have reached := runEvents_invariant preserved ⟨WellFormed.newManager hasClient server, start⟩
    allowed
  rw [Controller.run_append]
  exact reached.2.noTrace_of_routed lib order routed

namespace Reference

theorem deletePod_leaves_no_trace_boostedPod :
    NoTrace boostedPod (started.run referenceLibrary referenceClient false
      (trackEvents everything boostedPod (serverWith boostedPod) ++
        [.deletePod .arbitrary boostedPod])).manager := by
  refine deletePod_leaves_no_trace referenceLibrary referenceClient false true 0 _ _ .arbitrary
    boostedPod (And.intro ?_ (And.intro trivial (And.intro trivial trivial))) ?_
  · intro impl built _
    rw [newStartupCPUBoost_boostOf wellFormed_everything] at built
    cases built
    obtain ⟨timedBoosts, indexed⟩ := (Controller.registerNew (implOf everything forMinute)
      started.manager).indexTimedBoost_eq 0
    refine ⟨?_, fun pod _ => ?_⟩
    · change MappingAccepted _ _ _ _ (NamespacedObjects.list _ _ (Manager.indexTimedBoost 0
        (Controller.registerNew (implOf everything forMinute) started.manager)).orphanedPods) _
      rw [indexed]
      trivial
    · rw [Controller.registerNew_boosts]
      exact selects_everything pod.labels
  · obtain ⟨stats, metrics, tracking⟩ := run_tracking wellFormed_everything
      (show boostedPod.ns = "default" from rfl) (selects_everything boostedPod.labels)
      (serverWith boostedPod)
    change RoutedAsHeld boostedPod (started.run referenceLibrary referenceClient false
      (trackEvents everything boostedPod (serverWith boostedPod))).manager
    rw [tracking]
    constructor
    · intro name other boost second registered otherRegistered _ _
      rw [trackingManager_registered registered, trackingManager_registered otherRegistered]
    · intro ref _ name boost registered
      obtain rfl := trackingManager_registered registered
      rw [trackingManager_selectsPod, trackingManager_selectsPod, selects_everything,
        selects_everything]

/-- The pod is tracked under the label `app=web`, relabelled and deleted.  The
boost still tracks it. -/
theorem relabelled_pod_stays_tracked :
    let reached := (started.run referenceLibrary referenceClient false
      (trackEvents (appSelector "web") (appPod "web") (serverWith (appPod "web")) ++
        [.deletePod .arbitrary (appPod "other")])).manager
    ∃ boost ref, reached.regularBoosts.get "boost" "default" = some boost ∧
      (reached.boosts boost).pods.lookup "web" = some ref := by
  have selected : (appSelector "web").selects (appPod "web").labels = true := by
    decide +kernel
  have unselected : (appSelector "web").selects (appPod "other").labels = false := by
    decide +kernel
  obtain ⟨stats, metrics, tracking⟩ := run_tracking wellFormed_appSelector
    (show (appPod "web").ns = "default" from rfl) selected (serverWith (appPod "web"))
  let tracker := trackingManager (appSelector "web") (appPod "web") (serverWith (appPod "web"))
    stats metrics
  have noMatch : tracker.getMatchingBoost .arbitrary (appPod "other") = none :=
    trackingManager_noMatch rfl unselected _ _ _
  have stepped : (tracker.deletePod referenceLibrary .arbitrary (appPod "other")).2 =
      tracker.deleteOrphanedPod (appPod "other") := by
    unfold Manager.deletePod
    rw [noMatch]
  have reached : (started.run referenceLibrary referenceClient false
      (trackEvents (appSelector "web") (appPod "web") (serverWith (appPod "web")) ++
        [.deletePod .arbitrary (appPod "other")])).manager =
      tracker.deleteOrphanedPod (appPod "other") := by
    rw [Controller.run_append, tracking]
    exact stepped
  rw [reached]
  exact ⟨0, 0, by simp [tracker, Manager.deleteOrphanedPod, trackingManager, registeredManager,
    NamespacedObjects.get_put], Finmap.lookup_insert _⟩

end Reference

end KubeStartupCPUBoost
