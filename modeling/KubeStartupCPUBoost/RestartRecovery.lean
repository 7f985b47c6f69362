import KubeStartupCPUBoost.PodConditionReverts
import KubeStartupCPUBoost.UnmatchedOrphans

/-!
# Recovery after a restart

After a restart the boosts are added and the pods delivered once each, in an order
that nothing determines.  A pod reaches its boost as an orphaned pod, from the list of
the API server or by its own event, and in some orders twice.

The boost of a pod is the only one that matches it, so a pod kept aside is taken over
as soon as its boost is added.  `recovered_in_any_order` describes the state that is
reached, and the description does not mention the order.
-/

namespace KubeStartupCPUBoost

variable {σ : Type}

namespace StartupCPUBoostImpl

def Labels (boost : StartupCPUBoostImpl) (pod : Pod) : Prop :=
  pod.ns = boost.ns ∧ pod.labels.lookup boostLabelKey = some boost.name

/-- The pod has not reached the condition of the boost's pod condition policy, if there is
one. -/
def keepsPod (boost : StartupCPUBoostImpl) (pod : Pod) : Bool :=
  match boost.durationPolicies.lookup podConditionPolicyName with
  | some (.podCondition condition status) => podConditionValid condition status pod.conditions
  | _ => true

instance (boost : StartupCPUBoostImpl) (pod : Pod) : Decidable (boost.Labels pod) :=
  inferInstanceAs (Decidable (_ ∧ _))

end StartupCPUBoostImpl

/-- Boosts and pods to recover, and an API server during the recovery.  Each pod's label
names the one boost of its namespace that matches it.  The reverts succeed, and a list
has every pod that carries the label; a pod that has reached the condition of its boost
may have been reverted, and then no longer carries it. -/
structure Recovery (lib : Library) (client : PodClient σ) where
  boosts : List StartupCPUBoostImpl
  pods : List Pod
  serves : σ → Prop
  built : ∀ boost ∈ boosts, ∃ spec legacyRevertMode,
    newStartupCPUBoost lib spec legacyRevertMode = .ok boost
  distinctBoosts : (boosts.map fun boost => (boost.ns, boost.name)).Nodup
  distinctPods : (pods.map Pod.key).Nodup
  labelled : ∀ pod ∈ pods, ∃ boost ∈ boosts, boost.Labels pod ∧ boost.selectsPod pod = true ∧
    ∀ other ∈ boosts, other.ns = pod.ns → other.selectsPod pod = true → other = boost
  reverts : ∀ boost ∈ boosts, ∀ pod ∈ pods, boost.Labels pod → boost.keepsPod pod = false →
    ∀ server, serves server →
      (revertPod lib client boost.legacyRevertMode pod server).result = .ok () ∧
        serves (revertPod lib client boost.legacyRevertMode pod server).server
  lists : ∀ boost ∈ boosts, ∀ server, serves server → ∃ listed after,
    client.list boost.ns boost.name server = (.ok listed, after) ∧ serves after ∧
      (∀ pod ∈ listed, pod ∈ pods ∧ boost.Labels pod) ∧
      ∀ pod ∈ pods, boost.Labels pod → boost.keepsPod pod = true → pod ∈ listed

/-- A boost is built and added, or a pod is delivered. -/
inductive RecoveryCall where
  | addRegularCPUBoost (now : Time) (order : RangeOrder String) (boost : StartupCPUBoostImpl)
  | upsertPod (now : Time) (order : RangeOrder String) (pod : Pod)

namespace RecoveryCall

def addedBoost : RecoveryCall → Option StartupCPUBoostImpl
  | .addRegularCPUBoost _ _ boost => some boost
  | .upsertPod _ _ _ => none

def upsertedPod : RecoveryCall → Option Pod
  | .addRegularCPUBoost _ _ _ => none
  | .upsertPod _ _ pod => some pod

end RecoveryCall

namespace Recovery

def step (lib : Library) (client : PodClient σ) (call : RecoveryCall) (manager : Manager σ) :
    Manager σ :=
  match call with
  | .addRegularCPUBoost now order boost =>
      let built := manager.newBoost boost
      (built.2.addRegularCPUBoost lib client now order built.1).2
  | .upsertPod now order pod =>
      let delivered := manager.newPod pod
      (delivered.2.upsertPod lib client now order delivered.1).2

variable {lib : Library} {client : PodClient σ} (recovery : Recovery lib client)

/-- One call for each boost and each pod, in some order. -/
def Interleaves (calls : List RecoveryCall) : Prop :=
  (calls.filterMap RecoveryCall.addedBoost).Perm recovery.boosts ∧
    (calls.filterMap RecoveryCall.upsertedPod).Perm recovery.pods

def keptPods (boost : StartupCPUBoostImpl) : List Pod :=
  recovery.pods.filter fun pod => boost.Labels pod ∧ boost.keepsPod pod = true

/-- No pod is orphaned, and every boost tracks the pods it has to and counts their
containers. -/
structure Recovered (manager : Manager σ) : Prop where
  orphanedPods : ∀ name ns, manager.orphanedPods.get name ns = none
  boosts : ∀ boost ∈ recovery.boosts, ∃ ref,
    manager.regularBoosts.get boost.name boost.ns = some ref ∧
      (∀ name, ((manager.boosts ref).pods.lookup name).map manager.memory.pods =
        (recovery.keptPods boost).find? fun pod => pod.name = name) ∧
      (manager.boosts ref).stats.activeContainerBoosts =
        ((recovery.keptPods boost).map (boostContainersLen lib)).sum

variable {recovery} {boost other : StartupCPUBoostImpl} {pod : Pod}

theorem boost_ext (member : boost ∈ recovery.boosts) (otherMember : other ∈ recovery.boosts)
    (sameNs : boost.ns = other.ns) (sameName : boost.name = other.name) : boost = other :=
  List.inj_on_of_nodup_map recovery.distinctBoosts member otherMember (Prod.ext sameNs sameName)

theorem pod_ext {otherPod : Pod} (member : pod ∈ recovery.pods)
    (otherMember : otherPod ∈ recovery.pods) (sameKey : pod.key = otherPod.key) :
    pod = otherPod :=
  List.inj_on_of_nodup_map recovery.distinctPods member otherMember sameKey

theorem boost_of_labels (member : boost ∈ recovery.boosts) (otherMember : other ∈ recovery.boosts)
    (labels : boost.Labels pod) (otherLabels : other.Labels pod) : boost = other :=
  boost_ext member otherMember (labels.1.symm.trans otherLabels.1)
    (Option.some.inj (labels.2.symm.trans otherLabels.2))

/-- The boost whose label a pod carries is the one that matches it. -/
theorem labels_iff_selectsPod (member : boost ∈ recovery.boosts) (podMember : pod ∈ recovery.pods)
    (sameNs : boost.ns = pod.ns) : boost.Labels pod ↔ boost.selectsPod pod = true := by
  obtain ⟨assigned, assignedMember, labels, selected, only⟩ := recovery.labelled pod podMember
  constructor
  · intro labelled
    rw [boost_of_labels member assignedMember labelled labels]
    exact selected
  · intro isSelected
    rw [only boost member sameNs isSelected]
    exact labels

theorem meetsPodCondition_iff (member : boost ∈ recovery.boosts) {impl : StartupCPUBoostImpl}
    (policies : impl.durationPolicies = boost.durationPolicies) (now : Time) (pod : Pod) :
    impl.MeetsPodCondition now pod ↔ boost.keepsPod pod = true := by
  obtain ⟨spec, legacyRevertMode, built⟩ := recovery.built boost member
  unfold StartupCPUBoostImpl.MeetsPodCondition StartupCPUBoostImpl.keepsPod
  rw [policies]
  cases present : boost.durationPolicies.lookup podConditionPolicyName with
  | none => simp
  | some policy =>
      rw [(newStartupCPUBoost_ok lib built).2.2.2] at present
      obtain ⟨condition, status, rfl⟩ := podCondition_of_lookup_mapDurationPolicy present
      simp [DurationPolicy.valid]

/-- A boost object has the settings of its boost, tracks pods it has to track, among them
the known ones, and counts their containers. -/
structure Follows (recovery : Recovery lib client) (known : Pod → Prop)
    (boost impl : StartupCPUBoostImpl) (memory : Memory σ) : Prop where
  settings : impl = { boost with pods := impl.pods, stats := impl.stats }
  tracked : ∀ name ref, impl.pods.lookup name = some ref →
    memory.pods ref ∈ recovery.pods ∧ boost.Labels (memory.pods ref) ∧
      boost.keepsPod (memory.pods ref) = true ∧ (memory.pods ref).name = name
  complete : ∀ pod ∈ recovery.pods, boost.Labels pod → boost.keepsPod pod = true → known pod →
    (impl.pods.lookup pod.name).isSome = true
  counted : impl.stats.activeContainerBoosts =
    StartupCPUBoostImpl.recordedContainers lib impl.pods memory

namespace Follows

variable {known : Pod → Prop} {impl : StartupCPUBoostImpl} {memory : Memory σ} {ref : PodRef}

/-- Only the tracked objects matter. -/
theorem congr {known' : Pod → Prop} {memory' : Memory σ}
    (follows : recovery.Follows known boost impl memory)
    (objects : ∀ name ref, impl.pods.lookup name = some ref →
      memory'.pods ref = memory.pods ref)
    (fewer : ∀ pod, boost.Labels pod → known' pod → known pod) :
    recovery.Follows known' boost impl memory' where
  settings := follows.settings
  tracked name ref present := by
    rw [objects name ref present]
    exact follows.tracked name ref present
  complete pod member labels kept isKnown :=
    follows.complete pod member labels kept (fewer pod labels isKnown)
  counted := by
    rw [follows.counted]
    refine congrArg Multiset.sum (Multiset.map_congr rfl fun entry member => ?_)
    have present : impl.pods.lookup entry.1 = some entry.2 := Finmap.lookup_eq_some_iff.mpr member
    rw [objects entry.1 entry.2 present]

section Upsert

variable (follows : recovery.Follows known boost impl memory) (member : boost ∈ recovery.boosts)
  (podMember : memory.pods ref ∈ recovery.pods) (labels : boost.Labels (memory.pods ref))

include follows

theorem durationPolicies : impl.durationPolicies = boost.durationPolicies := by
  rw [follows.settings]

theorem legacyRevertMode : impl.legacyRevertMode = boost.legacyRevertMode := by
  rw [follows.settings]

include podMember labels

theorem track (kept : boost.keepsPod (memory.pods ref) = true) {stats : StartupCPUBoostStats}
    {metrics : Metrics}
    (counted : stats.activeContainerBoosts = StartupCPUBoostImpl.recordedContainers lib
      (impl.pods.insert (memory.pods ref).name ref) memory) :
    recovery.Follows (fun pod => known pod ∨ pod = memory.pods ref) boost
      { impl with pods := impl.pods.insert (memory.pods ref).name ref, stats }
      { memory with metrics } where
  settings := congrArg (fun impl' : StartupCPUBoostImpl =>
    { impl' with pods := impl.pods.insert (memory.pods ref).name ref, stats }) follows.settings
  tracked name object present := by
    rcases GoMap.lookup_insert_eq_some.mp present with ⟨rfl, rfl⟩ | ⟨-, before⟩
    · exact ⟨podMember, labels, kept, rfl⟩
    · exact follows.tracked name object before
  complete pod inPods podLabels podKept isKnown := by
    by_cases sameName : pod.name = (memory.pods ref).name
    · rw [GoMap.lookup_insert, if_pos sameName]
      rfl
    · rw [GoMap.lookup_insert, if_neg sameName]
      rcases isKnown with before | rfl
      · exact follows.complete pod inPods podLabels podKept before
      · exact absurd rfl sameName
  counted := counted

theorem untrack (reached : boost.keepsPod (memory.pods ref) = false)
    {stats : StartupCPUBoostStats} {memory' : Memory σ}
    (others : ∀ object, object ≠ ref → memory'.pods object = memory.pods object)
    (counted : stats.activeContainerBoosts = StartupCPUBoostImpl.recordedContainers lib
      (impl.pods.erase (memory.pods ref).name) memory') :
    recovery.Follows (fun pod => known pod ∨ pod = memory.pods ref) boost
      { impl with pods := impl.pods.erase (memory.pods ref).name, stats } memory' where
  settings := congrArg (fun impl' : StartupCPUBoostImpl =>
    { impl' with pods := impl.pods.erase (memory.pods ref).name, stats }) follows.settings
  tracked name object present := by
    obtain ⟨different, present⟩ := GoMap.lookup_erase_eq_some.mp present
    have before := follows.tracked name object present
    rw [others object]
    · exact before
    · rintro rfl
      exact different before.2.2.2.symm
  complete pod inPods podLabels podKept isKnown := by
    -- The pod is another one, and so has another name.
    have different : pod ≠ memory.pods ref := by
      rintro rfl
      exact absurd (podKept.symm.trans reached) Bool.noConfusion
    have differentName : pod.name ≠ (memory.pods ref).name := by
      intro sameName
      exact different (pod_ext inPods podMember
        (Prod.ext (podLabels.1.trans labels.1.symm) sameName))
    simp only [GoMap.lookup_erase, if_neg differentName]
    exact follows.complete pod inPods podLabels podKept (isKnown.resolve_right different)
  counted := counted

include member

theorem upsertPod (serves : recovery.serves memory.server) (now : Time) :
    let outcome := impl.upsertPod lib client now ref memory
    outcome.result = .ok () ∧ recovery.serves outcome.memory.server ∧
      outcome.memory.failedReverts = memory.failedReverts ∧
      recovery.Follows (fun pod => known pod ∨ pod = memory.pods ref) boost outcome.boost
        outcome.memory := by
  have condition := meetsPodCondition_iff member follows.durationPolicies now (memory.pods ref)
  cases kept : boost.keepsPod (memory.pods ref) with
  | true =>
      obtain ⟨stats, metrics, outcome, counted⟩ :=
        impl.upsertPod_of_met lib client now ref memory (condition.mpr kept)
      simp only [outcome]
      exact ⟨trivial, serves, trivial, follows.track podMember labels kept counted⟩
  | false =>
      have notMet : ¬ impl.MeetsPodCondition now (memory.pods ref) := by
        rw [condition, kept]
        exact Bool.false_ne_true
      obtain ⟨succeeded, stillServes⟩ :=
        recovery.reverts boost member _ podMember labels kept memory.server serves
      rw [← follows.legacyRevertMode] at succeeded stillServes
      obtain ⟨stats, metrics, outcome, counted⟩ :=
        impl.upsertPod_of_reverted lib client now ref memory notMet succeeded
      simp only [outcome]
      refine ⟨trivial, stillServes, trivial, follows.untrack podMember labels kept ?_ counted⟩
      exact fun object different => Function.update_of_ne different _ _

end Upsert

end Follows

/-- Every registered boost is one of the boosts and follows it.  No revert has failed, and
the manager can list pods. -/
structure Tracking (recovery : Recovery lib client) (known : Pod → Prop) (manager : Manager σ) :
    Prop where
  wellFormed : WellFormed {} manager
  serves : recovery.serves manager.memory.server
  noFailures : manager.memory.failedReverts = []
  hasClient : manager.hasClient = true
  registered : ∀ name ns ref, manager.regularBoosts.get name ns = some ref →
    ∃ boost ∈ recovery.boosts, boost.name = name ∧ boost.ns = ns ∧
      recovery.Follows known boost (manager.boosts ref) manager.memory

namespace Tracking

variable {known : Pod → Prop} {manager : Manager σ} {boostRef : BoostRef} {ref : PodRef}

theorem follows (tracking : recovery.Tracking known manager) (member : boost ∈ recovery.boosts)
    (registered : manager.regularBoosts.get boost.name boost.ns = some boostRef) :
    recovery.Follows known boost (manager.boosts boostRef) manager.memory := by
  obtain ⟨found, foundMember, sameName, sameNs, follows⟩ := tracking.registered _ _ _ registered
  rw [← boost_ext foundMember member sameNs sameName]
  exact follows

theorem mono {known' : Pod → Prop} (tracking : recovery.Tracking known manager)
    (fewer : ∀ pod, known' pod → known pod) : recovery.Tracking known' manager :=
  { tracking with
    registered := fun name ns ref registered => by
      obtain ⟨boost, member, sameName, sameNs, follows⟩ :=
        tracking.registered name ns ref registered
      exact ⟨boost, member, sameName, sameNs,
        follows.congr (fun _ _ _ => rfl) fun pod _ => fewer pod⟩ }

theorem newPod (tracking : recovery.Tracking known manager) (pod : Pod) :
    recovery.Tracking known (manager.newPod pod).2 where
  wellFormed := tracking.wellFormed.newPod pod
  serves := tracking.serves
  noFailures := tracking.noFailures
  hasClient := tracking.hasClient
  registered name ns ref registered := by
    obtain ⟨boost, member, sameName, sameNs, follows⟩ :=
      tracking.registered name ns ref registered
    refine ⟨boost, member, sameName, sameNs, follows.congr (fun podName object present => ?_)
      fun _ _ isKnown => isKnown⟩
    exact Manager.newPod_pods_of_lt (tracking.wellFormed.tracked _ _ _ present).2 pod

theorem deleteOrphanedPod (tracking : recovery.Tracking known manager) (pod : Pod) :
    recovery.Tracking known (manager.deleteOrphanedPod pod) :=
  { tracking with wellFormed := tracking.wellFormed.deleteOrphanedPod pod }

/-- An upsert of one of the pods into its boost succeeds, and leaves the other boosts
alone: they do not track its object. -/
theorem upsertPodIn (tracking : recovery.Tracking known manager)
    (member : boost ∈ recovery.boosts)
    (registered : manager.regularBoosts.get boost.name boost.ns = some boostRef)
    (allocated : ref < manager.memory.next) (podMember : manager.memory.pods ref ∈ recovery.pods)
    (labels : boost.Labels (manager.memory.pods ref)) (now : Time) :
    (manager.upsertPodIn lib client now boostRef ref).1 = .ok () ∧
      recovery.Tracking (fun pod => known pod ∨ pod = manager.memory.pods ref)
        (manager.upsertPodIn lib client now boostRef ref).2 := by
  have follows := tracking.follows member registered
  obtain ⟨succeeded, serves, unlogged, upserted⟩ :=
    follows.upsertPod member podMember labels tracking.serves now
  have touched := (manager.boosts boostRef).touches_upsertPod lib client now ref manager.memory
  have boostNs := (tracking.wellFormed.regular _ _ _ registered).2.1
  refine ⟨succeeded, ?_, serves, unlogged.trans tracking.noFailures, tracking.hasClient, ?_⟩
  · exact tracking.wellFormed.upsertPodIn lib client now (labels.1.trans boostNs.symm) allocated
  · intro name ns other otherRegistered
    by_cases isBoost : other = boostRef
    · subst other
      obtain ⟨sameName, sameNs, _⟩ := tracking.wellFormed.regular _ _ _ otherRegistered
      obtain ⟨ownName, ownNs, _⟩ := tracking.wellFormed.regular _ _ _ registered
      refine ⟨boost, member, ownName.symm.trans sameName, ownNs.symm.trans sameNs, ?_⟩
      rw [Manager.upsertPodIn, Manager.setBoost_boosts_self]
      exact upserted
    · obtain ⟨otherBoost, otherMember, sameName, sameNs, otherFollows⟩ :=
        tracking.registered name ns other otherRegistered
      have notLabelled : ¬ otherBoost.Labels (manager.memory.pods ref) := by
        intro otherLabels
        obtain rfl := boost_of_labels otherMember member otherLabels labels
        subst sameName sameNs
        exact isBoost (Option.some.inj (otherRegistered.symm.trans registered))
      refine ⟨otherBoost, otherMember, sameName, sameNs, ?_⟩
      rw [Manager.upsertPodIn, Manager.setBoost_boosts_of_ne isBoost]
      refine otherFollows.congr (fun podName object present => ?_) fun pod podLabels isKnown => ?_
      · refine touched.pods_of_ne object ?_
        rintro rfl
        exact notLabelled (otherFollows.tracked _ _ present).2.1
      · refine isKnown.resolve_right ?_
        rintro rfl
        exact notLabelled podLabels

theorem upsertPodIn_newPod (tracking : recovery.Tracking known manager)
    (member : boost ∈ recovery.boosts)
    (registered : manager.regularBoosts.get boost.name boost.ns = some boostRef)
    (podMember : pod ∈ recovery.pods) (labels : boost.Labels pod) (now : Time) :
    let upserted :=
      (manager.newPod pod).2.upsertPodIn lib client now boostRef (manager.newPod pod).1
    upserted.1 = .ok () ∧
      recovery.Tracking (fun other => known other ∨ other = pod) upserted.2 := by
  have object : (manager.newPod pod).2.memory.pods manager.memory.next = pod :=
    Manager.newPod_self pod manager
  have upserted := (tracking.newPod pod).upsertPodIn member registered
    (Nat.lt_succ_self manager.memory.next) (by rw [object]; exact podMember)
    (by rw [object]; exact labels) now
  rw [object] at upserted
  exact upserted

theorem mapMatchingPods (tracking : recovery.Tracking known manager)
    (member : boost ∈ recovery.boosts)
    (registered : manager.regularBoosts.get boost.name boost.ns = some boostRef)
    {refs : List PodRef} (distinct : refs.Nodup)
    (objects : ∀ ref ∈ refs, ref < manager.memory.next ∧
      manager.memory.pods ref ∈ recovery.pods ∧ (manager.memory.pods ref).ns = boost.ns)
    (now : Time) :
    recovery.Tracking known (manager.mapMatchingPods lib client now boostRef refs).2.2 := by
  induction refs generalizing manager with
  | nil => exact tracking
  | cons first refs ih =>
      obtain ⟨notLater, distinctLater⟩ := List.nodup_cons.mp distinct
      obtain ⟨allocated, podMember, sameNs⟩ := objects first List.mem_cons_self
      simp only [Manager.mapMatchingPods]
      by_cases selected :
          (manager.boosts boostRef).selectsPod (manager.memory.pods first) = true
      · rw [if_pos selected]
        have labels : boost.Labels (manager.memory.pods first) := by
          apply (labels_iff_selectsPod member podMember sameNs.symm).mpr
          rw [(tracking.follows member registered).settings] at selected
          exact selected
        obtain ⟨succeeded, upserted⟩ :=
          tracking.upsertPodIn member registered allocated podMember labels now
        have touched := (manager.boosts boostRef).touches_upsertPod lib client now first
          manager.memory
        rw [succeeded]
        refine ih (upserted.mono fun _ => .inl) registered distinctLater fun ref inRest => ?_
        have different : ref ≠ first := by
          rintro rfl
          exact notLater inRest
        rw [Manager.upsertPodIn_pods_of_ne lib client now different]
        rw [show (manager.upsertPodIn lib client now boostRef first).2.memory.next =
          manager.memory.next from touched.next]
        exact objects ref (List.mem_cons_of_mem _ inRest)
      · rw [if_neg selected]
        exact ih tracking registered distinctLater fun ref inRest =>
          objects ref (List.mem_cons_of_mem _ inRest)

theorem mapOrphanedPods (tracking : recovery.Tracking known manager)
    (orphaned : ∀ name ns ref, manager.orphanedPods.get name ns = some ref →
      manager.memory.pods ref ∈ recovery.pods)
    (member : boost ∈ recovery.boosts)
    (registered : manager.regularBoosts.get boost.name boost.ns = some boostRef) (now : Time)
    (order : RangeOrder String) :
    recovery.Tracking known (manager.mapOrphanedPods lib client now order boostRef).2 := by
  have boostNs := (tracking.wellFormed.regular _ _ _ registered).2.1
  apply Manager.foldl_deleteOrphanedPod_preserves
    (P := recovery.Tracking known) fun pod current kept => kept.deleteOrphanedPod pod
  refine tracking.mapMatchingPods member registered
    (Manager.nodup_orphanedPods_list tracking.wellFormed order _) (fun ref listed => ?_) now
  obtain ⟨name, present⟩ := NamespacedObjects.mem_list.mp listed
  obtain ⟨sameKey, allocated⟩ := tracking.wellFormed.orphaned _ _ _ present
  exact ⟨allocated, orphaned _ _ _ present, (congrArg Prod.fst sameKey).trans boostNs⟩

theorem syncListedPods (tracking : recovery.Tracking known manager)
    (member : boost ∈ recovery.boosts)
    (registered : manager.regularBoosts.get boost.name boost.ns = some boostRef)
    {listed : List Pod} (listedPods : ∀ pod ∈ listed, pod ∈ recovery.pods ∧ boost.Labels pod)
    (now : Time) :
    recovery.Tracking (fun pod => known pod ∨ pod ∈ listed)
      (manager.syncListedPods lib client now boostRef listed).2 := by
  induction listed generalizing known manager with
  | nil => exact tracking.mono fun pod isKnown => isKnown.resolve_right List.not_mem_nil
  | cons first listed ih =>
      obtain ⟨podMember, labels⟩ := listedPods first List.mem_cons_self
      have later := fun pod (inRest : pod ∈ listed) =>
        listedPods pod (List.mem_cons_of_mem _ inRest)
      have reorder : ∀ pod, known pod ∨ pod ∈ first :: listed →
          (known pod ∨ pod = first) ∨ pod ∈ listed := by
        intro pod
        rw [List.mem_cons, or_assoc]
        exact id
      simp only [Manager.syncListedPods]
      by_cases isTracked : ((manager.boosts boostRef).pods.lookup first.name).isSome = true
      · rw [if_pos isTracked]
        -- A pod whose name is tracked is known already.
        have knownFirst : recovery.Tracking (fun pod => known pod ∨ pod = first) manager :=
          { tracking with
            registered := fun name ns other otherRegistered => by
              obtain ⟨otherBoost, otherMember, sameName, sameNs, follows⟩ :=
                tracking.registered name ns other otherRegistered
              refine ⟨otherBoost, otherMember, sameName, sameNs, { follows with
                complete := fun pod inPods podLabels podKept isKnown => ?_ }⟩
              rcases isKnown with before | rfl
              · exact follows.complete pod inPods podLabels podKept before
              · obtain rfl := boost_of_labels otherMember member podLabels labels
                rw [← sameName, ← sameNs, registered] at otherRegistered
                rw [← Option.some.inj otherRegistered]
                exact isTracked }
        exact (ih knownFirst registered later).mono reorder
      · obtain ⟨succeeded, upserted⟩ :=
          tracking.upsertPodIn_newPod member registered podMember labels now
        rw [if_neg isTracked, succeeded]
        exact (ih upserted registered later).mono reorder

theorem syncBoostPods (tracking : recovery.Tracking (fun pod => ¬ boost.Labels pod) manager)
    (member : boost ∈ recovery.boosts)
    (registered : manager.regularBoosts.get boost.name boost.ns = some boostRef) (now : Time) :
    recovery.Tracking (fun _ => True) (manager.syncBoostPods lib client now boostRef).2 := by
  obtain ⟨sameName, sameNs, _⟩ := tracking.wellFormed.regular _ _ _ registered
  obtain ⟨listed, after, answer, serves, listedPods, all⟩ :=
    recovery.lists boost member manager.memory.server tracking.serves
  let answered : Manager σ := { manager with memory := { manager.memory with server := after } }
  have trackingAnswered : recovery.Tracking (fun pod => ¬ boost.Labels pod) answered :=
    { wellFormed := tracking.wellFormed.congrMemory rfl rfl rfl
      serves := serves
      noFailures := tracking.noFailures
      hasClient := tracking.hasClient
      registered := fun name ns ref present => by
        obtain ⟨found, foundMember, foundName, foundNs, follows⟩ :=
          tracking.registered name ns ref present
        exact ⟨found, foundMember, foundName, foundNs,
          follows.congr (fun _ _ _ => rfl) fun _ _ isKnown => isKnown⟩ }
  have synced := trackingAnswered.syncListedPods member registered listedPods now
  have result : (manager.syncBoostPods lib client now boostRef).2 =
      (answered.syncListedPods lib client now boostRef listed).2 := by
    simp only [Manager.syncBoostPods, if_pos tracking.hasClient, Manager.listBoostPods, sameName,
      sameNs, answer]
    rfl
  rw [result]
  exact { synced with
    registered := fun name ns ref present => by
      obtain ⟨found, foundMember, foundName, foundNs, follows⟩ :=
        synced.registered name ns ref present
      refine ⟨found, foundMember, foundName, foundNs, { follows with
        complete := fun pod inPods podLabels podKept _ => ?_ }⟩
      refine follows.complete pod inPods podLabels podKept ?_
      by_cases labels : boost.Labels pod
      · obtain rfl := boost_of_labels foundMember member podLabels labels
        exact .inr (all pod inPods podLabels podKept)
      · exact .inl labels }

theorem registerNew (tracking : recovery.Tracking (fun _ => True) manager)
    (member : boost ∈ recovery.boosts)
    (unused : manager.regularBoosts.get boost.name boost.ns = none) :
    recovery.Tracking (fun pod => ¬ boost.Labels pod) (Controller.registerNew boost manager) := by
  obtain ⟨spec, legacyRevertMode, built⟩ := recovery.built boost member
  obtain ⟨sameName, sameNs, _⟩ := newStartupCPUBoost_ok lib built
  have fresh : boost.pods = ∅ ∧ boost.stats = {} := by
    rw [newStartupCPUBoost_eq lib built]
    exact ⟨rfl, rfl⟩
  refine ⟨tracking.wellFormed.registerNew lib built (by rw [← sameName, ← sameNs]; exact unused),
    tracking.serves, tracking.noFailures, tracking.hasClient, fun name ns ref registered => ?_⟩
  rcases Controller.registerNew_get_eq_some.mp registered with ⟨⟨rfl, rfl⟩, rfl⟩ | ⟨-, before⟩
  · refine ⟨boost, member, rfl, rfl, ?_⟩
    rw [Controller.registerNew_boosts]
    exact {
      settings := rfl
      tracked := fun podName object present => by
        rw [fresh.1] at present
        cases present
      complete := fun pod _ labels _ notLabelled => absurd labels notLabelled
      counted := by
        rw [fresh.1, fresh.2]
        rfl }
  · obtain ⟨found, foundMember, foundName, foundNs, follows⟩ :=
      tracking.registered name ns ref before
    have existing := (tracking.wellFormed.regular _ _ _ before).2.2
    refine ⟨found, foundMember, foundName, foundNs, ?_⟩
    rw [Controller.registerNew_boosts_of_lt existing]
    exact follows.congr (fun _ _ _ => rfl) fun _ _ _ => trivial

theorem postProcessNewBoost
    (tracking : recovery.Tracking (fun pod => ¬ boost.Labels pod) manager)
    (orphaned : ∀ name ns ref, manager.orphanedPods.get name ns = some ref →
      manager.memory.pods ref ∈ recovery.pods)
    (member : boost ∈ recovery.boosts)
    (registered : manager.regularBoosts.get boost.name boost.ns = some boostRef) (now : Time)
    (order : RangeOrder String) :
    recovery.Tracking (fun _ => True)
      (manager.postProcessNewBoost lib client now order boostRef) := by
  obtain ⟨sameName, sameNs, _⟩ := tracking.wellFormed.regular _ _ _ registered
  obtain ⟨timedBoosts, indexed⟩ := manager.indexTimedBoost_eq boostRef
  have trackingIndexed :
      recovery.Tracking (fun pod => ¬ boost.Labels pod) (manager.indexTimedBoost boostRef) := by
    have wellFormed := tracking.wellFormed.indexTimedBoost
      (show manager.regularBoosts.get (manager.boosts boostRef).name (manager.boosts boostRef).ns =
        some boostRef by rw [sameName, sameNs]; exact registered)
    rw [indexed] at wellFormed ⊢
    exact { tracking with wellFormed }
  have registeredIndexed : (manager.indexTimedBoost boostRef).regularBoosts.get boost.name
      boost.ns = some boostRef := by
    rw [indexed]
    exact registered
  have mapped := trackingIndexed.mapOrphanedPods (by rw [indexed]; exact orphaned) member
    registeredIndexed now order
  have same : Manager.SameConfiguration (manager.indexTimedBoost boostRef)
      ((manager.indexTimedBoost boostRef).mapOrphanedPods lib client now order boostRef).2 :=
    (Manager.SameConfiguration.refl _).mapOrphanedPods lib client now order
  refine mapped.syncBoostPods member ?_ now
  rw [same.regularBoosts]
  exact registeredIndexed

theorem upsertPod (tracking : recovery.Tracking (fun _ => True) manager)
    (podMember : pod ∈ recovery.pods) (now : Time) (order : RangeOrder String) :
    recovery.Tracking (fun _ => True)
      ((manager.newPod pod).2.upsertPod lib client now order (manager.newPod pod).1).2 := by
  have object := Manager.newPod_self pod manager
  simp only [Manager.upsertPod, object]
  cases found : (manager.newPod pod).2.getMatchingBoost order pod with
  | some boostRef =>
      obtain ⟨⟨name, registered⟩, selected⟩ := Manager.getMatchingBoost_some found
      obtain ⟨boost, member, sameName, sameNs, follows⟩ :=
        tracking.registered name pod.ns boostRef registered
      rw [← sameName, ← sameNs] at registered
      have labels : boost.Labels pod := by
        apply (labels_iff_selectsPod member podMember sameNs).mpr
        rw [show (manager.newPod pod).2.boosts boostRef = manager.boosts boostRef from rfl,
          follows.settings] at selected
        exact selected
      obtain ⟨succeeded, upserted⟩ :=
        tracking.upsertPodIn_newPod member registered podMember labels now
      simp only [succeeded]
      exact (upserted.mono fun _ => .inl).deleteOrphanedPod pod
  | none =>
      have delivered := tracking.newPod pod
      have wellFormed :=
        delivered.wellFormed.putOrphanedPod (Nat.lt_succ_self manager.memory.next)
      rw [show (manager.newPod pod).2.memory.pods manager.memory.next = pod from object]
        at wellFormed
      exact { delivered with wellFormed }

end Tracking

/-- The orphaned pods are among the pods, and no registered boost matches them. -/
def Aside (recovery : Recovery lib client) (manager : Manager σ) : Prop :=
  ∀ name ns ref, manager.orphanedPods.get name ns = some ref →
    manager.memory.pods ref ∈ recovery.pods ∧
      ∀ boostName boostRef, manager.regularBoosts.get boostName ns = some boostRef →
        (manager.boosts boostRef).selectsPod (manager.memory.pods ref) = false

/-- As long as no revert fails, every call leaves the pods put aside so. -/
theorem Aside.of_explained {before after : Manager σ} {recent : List FailedRevert}
    (aside : recovery.Aside before) (explained : Manager.Explained before after recent)
    (noFailures : after.memory.failedReverts = []) : recovery.Aside after := by
  have noneRecent : recent = [] :=
    (List.append_eq_nil_iff.mp (explained.memory.log.symm.trans noFailures)).1
  have notFailed : ∀ key, ¬ FailedFor key recent after.memory := by
    rintro key ⟨failed, member, _⟩
    rw [noneRecent] at member
    cases member
  intro name ns ref present
  obtain ⟨presentBefore, failed | same⟩ := explained.orphaned name ns ref present
  · exact absurd failed (notFailed _)
  obtain ⟨podMember, unmatched⟩ := aside name ns ref presentBefore
  refine ⟨same ▸ podMember, fun boostName boostRef registered => ?_⟩
  by_contra selected
  rcases explained.matching name ns ref boostName boostRef present registered
    (Bool.not_eq_false _ ▸ selected) with failed | ⟨registeredBefore, selectedBefore⟩
  · exact notFailed _ failed
  · rw [same, unmatched boostName boostRef registeredBefore] at selectedBefore
    cases selectedBefore

theorem Aside.newPod {manager : Manager σ} (aside : recovery.Aside manager)
    (wellFormed : WellFormed {} manager) (pod : Pod) : recovery.Aside (manager.newPod pod).2 := by
  intro name ns ref present
  rw [Manager.newPod_pods_of_lt (wellFormed.orphaned _ _ _ present).2]
  exact aside name ns ref present

theorem Aside.newBoost {manager : Manager σ} (aside : recovery.Aside manager)
    (wellFormed : WellFormed {} manager) (boost : StartupCPUBoostImpl) :
    recovery.Aside (manager.newBoost boost).2 := by
  intro name ns ref present
  obtain ⟨podMember, unmatched⟩ := aside name ns ref present
  refine ⟨podMember, fun boostName boostRef registered => ?_⟩
  rw [Manager.newBoost_boosts_of_lt (wellFormed.regular _ _ _ registered).2.2]
  exact unmatched boostName boostRef registered

theorem Aside.put {manager : Manager σ} (aside : recovery.Aside manager) {ref : PodRef}
    {order : RangeOrder String} (podMember : manager.memory.pods ref ∈ recovery.pods)
    (noMatch : manager.getMatchingBoost order (manager.memory.pods ref) = none) :
    recovery.Aside { manager with
      orphanedPods := manager.orphanedPods.put (manager.memory.pods ref).name
        (manager.memory.pods ref).ns ref } := by
  intro name ns other present
  rcases NamespacedObjects.get_put_eq_some.mp present with ⟨⟨rfl, rfl⟩, rfl⟩ | ⟨-, before⟩
  · exact ⟨podMember, fun _ _ registered => Manager.getMatchingBoost_none noMatch registered⟩
  · exact aside name ns other before

/-- The state after the boosts of a list have been added, and any of the pods
delivered. -/
structure Recovering (recovery : Recovery lib client) (added : List StartupCPUBoostImpl)
    (manager : Manager σ) : Prop where
  tracking : recovery.Tracking (fun _ => True) manager
  aside : recovery.Aside manager
  onlyAdded : ∀ name ns boostRef, manager.regularBoosts.get name ns = some boostRef →
    ∃ boost ∈ added, boost.name = name ∧ boost.ns = ns
  allAdded : ∀ boost ∈ added, ∃ boostRef,
    manager.regularBoosts.get boost.name boost.ns = some boostRef

namespace Recovering

variable {added : List StartupCPUBoostImpl} {manager : Manager σ}

theorem initial (recovery : Recovery lib client) {server : σ} (serves : recovery.serves server) :
    recovery.Recovering [] (Controller.newManager true server) where
  tracking :=
    { wellFormed := .newManager true server
      serves := serves
      noFailures := rfl
      hasClient := rfl
      registered := fun _ _ _ registered => by cases registered }
  aside _ _ _ present := by cases present
  onlyAdded _ _ _ registered := by cases registered
  allAdded _ member := absurd member List.not_mem_nil

omit recovery in
theorem step_addRegularCPUBoost
    (unused : manager.regularBoosts.get boost.name boost.ns = none) (now : Time)
    (order : RangeOrder String) :
    step lib client (.addRegularCPUBoost now order boost) manager =
      (Controller.registerNew boost manager).postProcessNewBoost lib client now order
        manager.nextBoost := by
  simp only [step, Manager.addRegularCPUBoost]
  rw [show (manager.newBoost boost).2.boosts (manager.newBoost boost).1 = boost from
      manager.newBoost_self boost,
    show (manager.newBoost boost).2.regularBoosts.get boost.name boost.ns = none from unused]
  rfl

omit recovery in
theorem get_postProcessNewBoost (now : Time) (order : RangeOrder String) (name ns : String) :
    ((Controller.registerNew boost manager).postProcessNewBoost lib client now order
      manager.nextBoost).regularBoosts.get name ns =
        if name = boost.name ∧ ns = boost.ns then some manager.nextBoost
        else manager.regularBoosts.get name ns := by
  obtain ⟨timedBoosts, indexed⟩ :=
    (Controller.registerNew boost manager).indexTimedBoost_eq manager.nextBoost
  rw [(Manager.SameConfiguration.postProcessNewBoost lib client now order manager.nextBoost
    (Controller.registerNew boost manager)).regularBoosts, indexed]
  exact Controller.registerNew_get boost manager name ns

theorem addRegularCPUBoost (recovering : recovery.Recovering added manager)
    (member : boost ∈ recovery.boosts)
    (unused : manager.regularBoosts.get boost.name boost.ns = none) (now : Time)
    (order : RangeOrder String) :
    recovery.Recovering (added ++ [boost])
      (step lib client (.addRegularCPUBoost now order boost) manager) := by
  obtain ⟨spec, legacyRevertMode, built⟩ := recovery.built boost member
  have wellFormed := recovering.tracking.wellFormed
  have own : (Controller.registerNew boost manager).regularBoosts.get boost.name boost.ns =
      some manager.nextBoost :=
    (Controller.registerNew_get boost manager _ _).trans (if_pos ⟨rfl, rfl⟩)
  have tracking := (recovering.tracking.registerNew member unused).postProcessNewBoost
    (fun name ns ref present => (recovering.aside name ns ref present).1) member own now order
  obtain ⟨recent, explained⟩ : ∃ recent, Manager.Explained (manager.newBoost boost).2
      (step lib client (.addRegularCPUBoost now order boost) manager) recent :=
    Manager.Explained.addRegularCPUBoost lib client now order (wellFormed.newBoost lib built)
      (Nat.lt_succ_self _)
  rw [step_addRegularCPUBoost unused] at explained ⊢
  refine ⟨tracking,
    (recovering.aside.newBoost wellFormed boost).of_explained explained tracking.noFailures,
    fun name ns boostRef isRegistered => ?_, fun other isAdded => ?_⟩
  · rw [get_postProcessNewBoost] at isRegistered
    by_cases ownKey : name = boost.name ∧ ns = boost.ns
    · exact ⟨boost, List.mem_append_right _ List.mem_cons_self, ownKey.1.symm, ownKey.2.symm⟩
    · rw [if_neg ownKey] at isRegistered
      obtain ⟨found, isAdded, key⟩ := recovering.onlyAdded name ns boostRef isRegistered
      exact ⟨found, List.mem_append_left _ isAdded, key⟩
  · rw [get_postProcessNewBoost]
    by_cases ownKey : other.name = boost.name ∧ other.ns = boost.ns
    · exact ⟨_, if_pos ownKey⟩
    · rw [if_neg ownKey]
      rcases List.mem_append.mp isAdded with before | isNew
      · exact recovering.allAdded other before
      · obtain rfl := List.mem_singleton.mp isNew
        exact absurd ⟨rfl, rfl⟩ ownKey

theorem upsertPod (recovering : recovery.Recovering added manager)
    (podMember : pod ∈ recovery.pods) (now : Time) (order : RangeOrder String) :
    recovery.Recovering added (step lib client (.upsertPod now order pod) manager) := by
  have tracking := recovering.tracking.upsertPod podMember now order
  have wellFormed := recovering.tracking.wellFormed.newPod pod
  have aside := recovering.aside.newPod recovering.tracking.wellFormed pod
  have object : (manager.newPod pod).2.memory.pods manager.memory.next = pod :=
    Manager.newPod_self pod manager
  have same : Manager.SameConfiguration manager
      (step lib client (.upsertPod now order pod) manager) :=
    ((Manager.SameConfiguration.refl manager).newPod pod).upsertPod lib client now order _
  refine ⟨tracking, ?_, ?_, ?_⟩
  · cases found : (manager.newPod pod).2.getMatchingBoost order pod with
    | some boostRef =>
        rw [← object] at found
        obtain ⟨recent, explained⟩ := Manager.Explained.upsertPod lib client now wellFormed
          (Nat.lt_succ_self _) found
        exact aside.of_explained explained tracking.noFailures
    | none =>
        rw [← object] at found podMember
        simp only [step, Manager.upsertPod]
        rw [show (manager.newPod pod).2.getMatchingBoost order
          ((manager.newPod pod).2.memory.pods (manager.newPod pod).1) = none from found]
        exact aside.put podMember found
  · rw [same.regularBoosts]
    exact recovering.onlyAdded
  · rw [same.regularBoosts]
    exact recovering.allAdded

theorem run {calls : List RecoveryCall} (recovering : recovery.Recovering added manager)
    (boostsIn : ∀ boost ∈ calls.filterMap RecoveryCall.addedBoost, boost ∈ recovery.boosts)
    (podsIn : ∀ pod ∈ calls.filterMap RecoveryCall.upsertedPod, pod ∈ recovery.pods)
    (distinct : ((added ++ calls.filterMap RecoveryCall.addedBoost).map
      fun boost => (boost.ns, boost.name)).Nodup) :
    recovery.Recovering (added ++ calls.filterMap RecoveryCall.addedBoost)
      (runEvents (step lib client) calls manager) := by
  induction calls generalizing added manager with
  | nil =>
      rw [List.filterMap_nil, List.append_nil]
      exact recovering
  | cons call calls ih =>
      cases call with
      | addRegularCPUBoost now order boost =>
          have unused : manager.regularBoosts.get boost.name boost.ns = none := by
            cases registered : manager.regularBoosts.get boost.name boost.ns with
            | none => rfl
            | some boostRef =>
                obtain ⟨found, isAdded, sameName, sameNs⟩ :=
                  recovering.onlyAdded _ _ _ registered
                rw [List.map_append, List.nodup_append] at distinct
                refine absurd (Prod.ext sameNs sameName) (distinct.2.2 _
                  (List.mem_map_of_mem isAdded) (boost.ns, boost.name) ?_)
                exact List.mem_map_of_mem (f := fun boost : StartupCPUBoostImpl =>
                  (boost.ns, boost.name)) List.mem_cons_self
          have step := recovering.addRegularCPUBoost (boostsIn boost List.mem_cons_self) unused now
            order
          have assoc : added ++ (RecoveryCall.addRegularCPUBoost now order boost ::
              calls).filterMap RecoveryCall.addedBoost =
                (added ++ [boost]) ++ calls.filterMap RecoveryCall.addedBoost := by
            rw [List.append_assoc]
            rfl
          rw [assoc] at distinct ⊢
          exact ih step (fun other inRest => boostsIn other (List.mem_cons_of_mem _ inRest)) podsIn
            distinct
      | upsertPod now order pod =>
          have step := recovering.upsertPod (podsIn pod List.mem_cons_self) now order
          exact ih step boostsIn (fun other inRest => podsIn other (List.mem_cons_of_mem _ inRest))
            distinct

end Recovering

theorem mem_keptPods : pod ∈ recovery.keptPods boost ↔
    pod ∈ recovery.pods ∧ boost.Labels pod ∧ boost.keepsPod pod = true := by
  simp [keptPods]

/-- The pods a boost has to track have different names. -/
theorem nodup_names_keptPods (boost : StartupCPUBoostImpl) :
    ((recovery.keptPods boost).map (·.name)).Nodup := by
  have keys : ((recovery.keptPods boost).map Pod.key).Nodup :=
    recovery.distinctPods.sublist (List.filter_sublist.map _)
  have sameNs : (recovery.keptPods boost).map Pod.key =
      ((recovery.keptPods boost).map (·.name)).map fun name => (boost.ns, name) := by
    rw [List.map_map]
    exact List.map_congr_left fun pod member => Prod.ext (mem_keptPods.mp member).2.1.1 rfl
  rw [sameNs] at keys
  exact keys.of_map _

theorem find?_keptPods (member : pod ∈ recovery.keptPods boost) :
    (recovery.keptPods boost).find? (fun other => other.name = pod.name) = some pod := by
  cases found : (recovery.keptPods boost).find? (fun other => other.name = pod.name) with
  | none =>
      have different := List.find?_eq_none.mp found pod member
      simp at different
  | some other =>
      have sameName : other.name = pod.name := by simpa using List.find?_some found
      have inKept := List.mem_of_find?_eq_some found
      rw [List.inj_on_of_nodup_map (nodup_names_keptPods boost) inKept member sameName]

/-- A boost that knows all its pods tracks exactly those it has to. -/
theorem Follows.lookup {impl : StartupCPUBoostImpl} {memory : Memory σ}
    (follows : recovery.Follows (fun _ => True) boost impl memory) (name : String) :
    (impl.pods.lookup name).map memory.pods =
      (recovery.keptPods boost).find? fun pod => pod.name = name := by
  cases present : impl.pods.lookup name with
  | some ref =>
      obtain ⟨podMember, labels, kept, rfl⟩ := follows.tracked name ref present
      exact (find?_keptPods (mem_keptPods.mpr ⟨podMember, labels, kept⟩)).symm
  | none =>
      refine (List.find?_eq_none.mpr fun pod member sameName => ?_).symm
      obtain ⟨podMember, labels, kept⟩ := mem_keptPods.mp member
      have tracked := follows.complete pod podMember labels kept trivial
      rw [of_decide_eq_true sameName, present] at tracked
      cases tracked

theorem Follows.activeContainerBoosts {impl : StartupCPUBoostImpl} {memory : Memory σ}
    (follows : recovery.Follows (fun _ => True) boost impl memory) :
    impl.stats.activeContainerBoosts =
      ((recovery.keptPods boost).map (boostContainersLen lib)).sum := by
  let recorded (name : String) : Nat :=
    ((recovery.keptPods boost).find? fun pod => pod.name = name).elim 0 (boostContainersLen lib)
  have recorded_eq : ∀ name, (impl.pods.lookup name).elim 0
      (fun ref => boostContainersLen lib (memory.pods ref)) = recorded name := by
    intro name
    simp only [recorded, ← follows.lookup name]
    cases impl.pods.lookup name <;> rfl
  have keys : impl.pods.keys = ((recovery.keptPods boost).map (·.name)).toFinset := by
    ext name
    have tracked := congrArg Option.isSome (follows.lookup name)
    rw [Option.isSome_map] at tracked
    rw [GoMap.mem_keys_iff, ← Option.isSome_iff_exists, tracked, List.find?_isSome]
    simp
  calc impl.stats.activeContainerBoosts
      = ∑ name ∈ impl.pods.keys, (impl.pods.lookup name).elim 0
          (fun ref => boostContainersLen lib (memory.pods ref)) :=
        follows.counted.trans (StartupCPUBoostImpl.recordedContainers_eq_sum lib _ _)
    _ = ∑ name ∈ ((recovery.keptPods boost).map (·.name)).toFinset, recorded name := by
        rw [keys]
        exact Finset.sum_congr rfl fun name _ => recorded_eq name
    _ = (((recovery.keptPods boost).map (·.name)).map recorded).sum :=
        List.sum_toFinset recorded (nodup_names_keptPods boost)
    _ = ((recovery.keptPods boost).map (boostContainersLen lib)).sum := by
        rw [List.map_map]
        refine congrArg List.sum (List.map_congr_left fun pod member => ?_)
        simp only [recorded, Function.comp_apply, find?_keptPods member, Option.elim_some]

theorem Recovering.recovered {added : List StartupCPUBoostImpl} {manager : Manager σ}
    (recovering : recovery.Recovering added manager)
    (all : ∀ boost ∈ recovery.boosts, boost ∈ added) : recovery.Recovered manager where
  orphanedPods name ns := by
    cases present : manager.orphanedPods.get name ns with
    | none => rfl
    | some ref =>
        have podNs := congrArg Prod.fst (recovering.tracking.wellFormed.orphaned _ _ _ present).1
        obtain ⟨podMember, unmatched⟩ := recovering.aside name ns ref present
        obtain ⟨boost, member, labels, selected, _⟩ := recovery.labelled _ podMember
        obtain ⟨boostRef, registered⟩ := recovering.allAdded boost (all boost member)
        have follows := recovering.tracking.follows member registered
        have boostNs : boost.ns = ns := labels.1.symm.trans podNs
        have notSelected := unmatched boost.name boostRef (boostNs ▸ registered)
        rw [follows.settings] at notSelected
        exact absurd (selected.symm.trans notSelected) Bool.noConfusion
  boosts boost member := by
    obtain ⟨boostRef, registered⟩ := recovering.allAdded boost (all boost member)
    have follows := recovering.tracking.follows member registered
    exact ⟨boostRef, registered, follows.lookup, follows.activeContainerBoosts⟩

/-- Whatever the order in which the boosts are added and the pods delivered, the same
pods are tracked and counted in the end. -/
theorem recovered_in_any_order (recovery : Recovery lib client) {server : σ}
    (serves : recovery.serves server) {calls : List RecoveryCall}
    (interleaves : recovery.Interleaves calls) :
    recovery.Recovered (runEvents (step lib client) calls (Controller.newManager true server)) := by
  obtain ⟨sameBoosts, samePods⟩ := interleaves
  have recovering := (Recovering.initial recovery serves).run
    (fun boost member => sameBoosts.mem_iff.mp member)
    (fun pod member => samePods.mem_iff.mp member)
    ((sameBoosts.map _).nodup_iff.mpr recovery.distinctBoosts)
  exact recovering.recovered fun boost member => sameBoosts.mem_iff.mpr member

end Recovery

namespace Reference

noncomputable def pendingPod : Pod := { boostedPod with name := "db", uid := "2" }

/-- A boost that reverts pods when they are ready, by updates. -/
def readyBoost : StartupCPUBoostImpl :=
  { implOf everything untilReady with legacyRevertMode := true }

theorem newStartupCPUBoost_readyBoost :
    newStartupCPUBoost referenceLibrary (boostOf everything untilReady) true = .ok readyBoost :=
  newStartupCPUBoost_of_mapped referenceLibrary wellFormed_everything rfl

private theorem readyBoost_policy : readyBoost.durationPolicies.lookup podConditionPolicyName =
    some (.podCondition "Ready" "True") :=
  Finmap.lookup_insert _

theorem keepsPod_readyBoost (pod : Pod) :
    readyBoost.keepsPod pod = podConditionValid "Ready" "True" pod.conditions := by
  simp only [StartupCPUBoostImpl.keepsPod, readyBoost_policy]

theorem labels_readyBoost {pod : Pod} (sameNs : pod.ns = "default")
    (sameLabels : pod.labels = boostedPod.labels) : readyBoost.Labels pod :=
  ⟨sameNs, sameLabels ▸ Finmap.lookup_insert _⟩

/-- The API server accepts every call.  It stores the two pods, the ready one as it was or
reverted. -/
def ServesReady (server : ApiServer) : Prop :=
  server.faults = [] ∧ server.pods.lookup pendingPod.key = some pendingPod ∧
    (∃ stored, server.pods.lookup readyPod.key = some stored ∧ stored.uid = readyPod.uid ∧
      (stored = readyPod ∨ stored.labels.lookup boostLabelKey = none)) ∧
    ∀ key, key ≠ pendingPod.key → key ≠ readyPod.key → server.pods.lookup key = none

theorem revertPod_readyPod {server : ApiServer} (serves : ServesReady server) :
    (revertPod referenceLibrary referenceClient true readyPod server).result = .ok () ∧
      ServesReady (revertPod referenceLibrary referenceClient true readyPod server).server := by
  obtain ⟨noFaults, pending, ⟨stored, present, sameUid, _⟩, others⟩ := serves
  let reverted := (revertBoostLabels (restoredPod referenceLibrary appAnnot readyPod)).1
  have recorded : boostAnnotationFromPod referenceLibrary readyPod = .ok appAnnot :=
    boostAnnotationFromPod_boostedPod
  have built : revertResourceBoost referenceLibrary readyPod = (reverted, .ok ()) := by
    unfold revertResourceBoost
    rw [revertBoostResources_of_readable referenceLibrary recorded readable_appAnnot]
    rfl
  have accepted : server.call readyPod.key (ApiServer.replaced reverted) =
      (.ok { reverted with conditions := stored.conditions },
        ⟨server.pods.insert readyPod.key { reverted with conditions := stored.conditions },
          server.faults.tail⟩) := by
    refine ApiServer.call_of_accepted (by rw [noFaults]; rfl) present ?_ rfl
    rw [ApiServer.replaced, if_pos (show reverted.uid = stored.uid from sameUid.symm)]
  have outcome : revertPod referenceLibrary referenceClient true readyPod server =
      ⟨.ok (), { reverted with conditions := stored.conditions },
        ⟨server.pods.insert readyPod.key { reverted with conditions := stored.conditions },
          server.faults.tail⟩⟩ := by
    simp only [revertPod, if_true, updateBoostPodLegacy, built]
    rw [show referenceClient.update reverted server =
      server.call readyPod.key (ApiServer.replaced reverted) from rfl, accepted]
  rw [outcome]
  have different : pendingPod.key ≠ readyPod.key := by decide
  refine ⟨rfl, by rw [noFaults]; rfl, ?_, ⟨_, Finmap.lookup_insert _, rfl, .inr ?_⟩, ?_⟩
  · rw [Finmap.lookup_insert_of_ne _ different]
    exact pending
  · exact Finmap.lookup_erase _ _
  · intro key notPending notReady
    rw [Finmap.lookup_insert_of_ne _ notReady]
    exact others key notPending notReady

private theorem list_servesReady {server : ApiServer} (serves : ServesReady server) :
    ∃ listed after, referenceClient.list "default" "boost" server = (.ok listed, after) ∧
      ServesReady after ∧ pendingPod ∈ listed ∧
      ∀ pod ∈ listed, pod = readyPod ∨ pod = pendingPod := by
  obtain ⟨noFaults, pending, ⟨stored, present, sameUid, reverted⟩, others⟩ := serves
  refine ⟨(server.pods.rangeValues .arbitrary).filter fun pod =>
    pod.ns = "default" ∧ pod.labels.lookup boostLabelKey = some "boost", server, ?_,
    ⟨noFaults, pending, ⟨stored, present, sameUid, reverted⟩, others⟩, ?_, ?_⟩
  · obtain ⟨pods, faults⟩ := server
    obtain rfl : faults = [] := noFaults
    rfl
  · rw [List.mem_filter]
    refine ⟨GoMap.mem_rangeValues.mpr ⟨_, pending⟩, ?_⟩
    simp [pendingPod, boostedPod]
  · intro pod member
    obtain ⟨inServer, selected⟩ := List.mem_filter.mp member
    obtain ⟨key, found⟩ := GoMap.mem_rangeValues.mp inServer
    simp only [decide_eq_true_eq] at selected
    by_cases isPending : key = pendingPod.key
    · rw [isPending, pending] at found
      exact .inr (Option.some.inj found).symm
    · by_cases isReady : key = readyPod.key
      · rw [isReady, present] at found
        obtain rfl := Option.some.inj found
        refine .inl (reverted.resolve_right fun unlabelled => ?_)
        exact absurd (unlabelled.symm.trans selected.2) nofun
      · rw [others key isPending isReady] at found
        cases found

noncomputable def readyRecovery : Recovery referenceLibrary referenceClient where
  boosts := [readyBoost]
  pods := [readyPod, pendingPod]
  serves := ServesReady
  built boost member := by
    obtain rfl := List.mem_singleton.mp member
    exact ⟨_, _, newStartupCPUBoost_readyBoost⟩
  distinctBoosts := List.nodup_singleton _
  distinctPods := by decide
  labelled pod member := by
    have labels : readyBoost.Labels pod := by
      simp only [List.mem_cons, List.not_mem_nil, or_false] at member
      rcases member with rfl | rfl <;> exact labels_readyBoost rfl rfl
    refine ⟨readyBoost, List.mem_singleton_self _, labels, selects_everything pod.labels, ?_⟩
    exact fun other otherMember _ _ => List.mem_singleton.mp otherMember
  reverts boost member pod podMember _ reached server serves := by
    obtain rfl := List.mem_singleton.mp member
    rw [keepsPod_readyBoost] at reached
    simp only [List.mem_cons, List.not_mem_nil, or_false] at podMember
    rcases podMember with rfl | rfl
    · exact revertPod_readyPod serves
    · cases reached
  lists boost member server serves := by
    obtain rfl := List.mem_singleton.mp member
    obtain ⟨listed, after, answer, stillServes, pendingListed, onlyPods⟩ := list_servesReady serves
    refine ⟨listed, after, answer, stillServes, fun pod inList => ?_,
      fun pod podMember _ kept => ?_⟩
    · rcases onlyPods pod inList with rfl | rfl
      · exact ⟨List.mem_cons_self, labels_readyBoost rfl rfl⟩
      · exact ⟨List.mem_cons_of_mem _ List.mem_cons_self, labels_readyBoost rfl rfl⟩
    · rw [keepsPod_readyBoost] at kept
      simp only [List.mem_cons, List.not_mem_nil, or_false] at podMember
      rcases podMember with rfl | rfl
      · cases kept
      · exact pendingListed

private theorem servesReady_stored : ServesReady
    ⟨((∅ : GoMap PodKey Pod).insert pendingPod.key pendingPod).insert readyPod.key readyPod,
      []⟩ := by
  have different : pendingPod.key ≠ readyPod.key := by decide
  refine ⟨rfl, ?_, ⟨readyPod, Finmap.lookup_insert _, rfl, .inl rfl⟩, ?_⟩
  · rw [Finmap.lookup_insert_of_ne _ different, Finmap.lookup_insert]
  · intro key notPending notReady
    rw [Finmap.lookup_insert_of_ne _ notReady, Finmap.lookup_insert_of_ne _ notPending]
    rfl

/-- The ready pod is put aside, and reverted when the boost is added. -/
theorem recovered_in_any_order_readyRecovery :
    readyRecovery.Recovered (runEvents (Recovery.step referenceLibrary referenceClient)
      [.upsertPod 0 .arbitrary readyPod, .addRegularCPUBoost 0 .arbitrary readyBoost,
        .upsertPod 0 .arbitrary pendingPod]
      (Controller.newManager true
        ⟨((∅ : GoMap PodKey Pod).insert pendingPod.key pendingPod).insert readyPod.key readyPod,
          []⟩)) :=
  Recovery.recovered_in_any_order readyRecovery servesReady_stored ⟨.refl _, .refl _⟩

end Reference

end KubeStartupCPUBoost
