import KubeStartupCPUBoost.ManagerCalls
import KubeStartupCPUBoost.OrphanMapping

/-!
# Orphaned pods that match a boost

A pod is put aside when no boost of its namespace matches it.  When a boost is
added or changes its selector, the pods put aside that it matches are given to it;
the ones whose upsert fails stay where they are.

`Kept` says what an operation does to the pods put aside: they are as before, or an
upsert under their key has failed.  From it follows `run_noneLeftBehind` for
whole sequences of calls.
-/

namespace KubeStartupCPUBoost

variable {σ : Type}

/-- A later memory: the log has grown by recent failures, and the pod objects that
existed keep their keys. -/
structure Memory.Extends (before after : Memory σ) (recent : List FailedRevert) : Prop where
  log : after.failedReverts = recent ++ before.failedReverts
  allocated : ∀ failed ∈ recent, failed.pod < after.next
  next : before.next ≤ after.next
  keys : ∀ ref, ref < before.next → (after.pods ref).key = (before.pods ref).key

/-- An upsert of the pod under this key into a boost of its namespace has failed. -/
def FailedFor (key : PodKey) (recent : List FailedRevert) (memory : Memory σ) : Prop :=
  ∃ failed ∈ recent, failed.ns = key.1 ∧ (memory.pods failed.pod).key = key

namespace Memory.Extends

variable {before middle after : Memory σ} {recent first second : List FailedRevert}

theorem refl (memory : Memory σ) : Memory.Extends memory memory [] where
  log := rfl
  allocated _ member := nomatch member
  next := le_refl _
  keys _ _ := rfl

theorem trans (early : Memory.Extends before middle first)
    (late : Memory.Extends middle after second) :
    Memory.Extends before after (second ++ first) where
  log := by rw [late.log, early.log, List.append_assoc]
  allocated failed member := by
    rcases List.mem_append.mp member with new | old
    · exact late.allocated failed new
    · exact (early.allocated failed old).trans_le late.next
  next := early.next.trans late.next
  keys ref existed :=
    (late.keys ref (existed.trans_le early.next)).trans (early.keys ref existed)

/-- Metrics, server and delivered versions do not matter. -/
theorem of_eq {memory memory' : Memory σ} (log : memory'.failedReverts = memory.failedReverts)
    (next : memory'.next = memory.next) (pods : memory'.pods = memory.pods) :
    Memory.Extends memory memory' [] where
  log := log
  allocated _ member := nomatch member
  next := next.symm.le
  keys ref _ := by rw [pods]

theorem newPod (pod : Pod) (manager : Manager σ) :
    Memory.Extends manager.memory (manager.newPod pod).2.memory [] where
  log := rfl
  allocated _ member := nomatch member
  next := Nat.le_succ _
  keys ref existed := by rw [Manager.newPod_pods_of_lt existed]

end Memory.Extends

theorem FailedFor.extend {before after : Memory σ} {first second : List FailedRevert} {key : PodKey}
    (failedFor : FailedFor key first before)
    (allocated : ∀ failed ∈ first, failed.pod < before.next)
    (later : Memory.Extends before after second) : FailedFor key (second ++ first) after := by
  obtain ⟨failed, member, sameNs, sameKey⟩ := failedFor
  refine ⟨failed, List.mem_append_right _ member, sameNs, ?_⟩
  exact (later.keys failed.pod (allocated failed member)).trans sameKey

theorem FailedFor.mono {memory : Memory σ} {recent : List FailedRevert} {key : PodKey}
    (failedFor : FailedFor key recent memory) (older : List FailedRevert) :
    FailedFor key (recent ++ older) memory := by
  obtain ⟨failed, member, matching⟩ := failedFor
  exact ⟨failed, List.mem_append_left _ member, matching⟩

namespace Manager

/-- The pods put aside were there before; each is as it was, or an upsert under its key
has failed. -/
structure Kept (before after : Manager σ) (recent : List FailedRevert) : Prop where
  memory : Memory.Extends before.memory after.memory recent
  orphaned : ∀ name ns ref, after.orphanedPods.get name ns = some ref →
    before.orphanedPods.get name ns = some ref ∧
      (FailedFor (ns, name) recent after.memory ∨
        after.memory.pods ref = before.memory.pods ref)

namespace Kept

variable {before middle after : Manager σ} {recent first second : List FailedRevert}

theorem trans (early : Kept before middle first) (late : Kept middle after second) :
    Kept before after (second ++ first) where
  memory := early.memory.trans late.memory
  orphaned name ns ref present := by
    obtain ⟨atMiddle, outcome⟩ := late.orphaned name ns ref present
    obtain ⟨atStart, earlier⟩ := early.orphaned name ns ref atMiddle
    refine ⟨atStart, ?_⟩
    rcases outcome with failed | same
    · exact .inl (failed.mono first)
    · rcases earlier with failed | same'
      · exact .inl (failed.extend early.memory.allocated late.memory)
      · exact .inr (same.trans same')

/-- An operation that leaves the pods put aside and the pod objects alone. -/
theorem of_eq (memory : Memory.Extends before.memory after.memory [])
    (orphanedPods : ∀ name ns ref, after.orphanedPods.get name ns = some ref →
      before.orphanedPods.get name ns = some ref)
    (pods : ∀ ref, ref < before.memory.next → after.memory.pods ref = before.memory.pods ref)
    (wellFormed : WellFormed {} before) : Kept before after [] where
  memory := memory
  orphaned name ns ref present := by
    have atStart := orphanedPods name ns ref present
    exact ⟨atStart, .inr (pods ref (wellFormed.orphaned _ _ _ atStart).2)⟩

end Kept

variable (lib : Library) (client : PodClient σ) (now : Time) {boost : BoostRef} {ref : PodRef}
  {manager : Manager σ}

/-- An upsert that fails is logged under the pod's key. -/
theorem extends_upsertPodIn (allocated : ref < manager.memory.next) :
    ∃ recent, Memory.Extends manager.memory
        (manager.upsertPodIn lib client now boost ref).2.memory recent ∧
      ((manager.upsertPodIn lib client now boost ref).1 = .ok () ∨
        ((manager.memory.pods ref).ns = (manager.boosts boost).ns →
          FailedFor (manager.memory.pods ref).key recent
            (manager.upsertPodIn lib client now boost ref).2.memory)) := by
  have touched := (manager.boosts boost).touches_upsertPod lib client now ref manager.memory
  have extending : ∀ recent,
      ((manager.boosts boost).upsertPod lib client now ref manager.memory).memory.failedReverts =
          recent ++ manager.memory.failedReverts →
        (∀ failed ∈ recent, failed.pod = ref) →
          Memory.Extends manager.memory (manager.upsertPodIn lib client now boost ref).2.memory
            recent := by
    intro recent log onlyRef
    exact {
      log := log
      allocated := fun failed member => by
        rw [onlyRef failed member]
        exact allocated.trans_le touched.next.symm.le
      next := touched.next.symm.le
      keys := fun other _ => touched.key_eq other }
  rcases (manager.boosts boost).upsertPod_log lib client now ref manager.memory with
    ⟨succeeded, unlogged⟩ | ⟨_, logged⟩
  · exact ⟨[], extending [] unlogged (by simp), .inl succeeded⟩
  · refine ⟨[(manager.boosts boost).failedRevert ref], extending _ logged (by simp), .inr ?_⟩
    intro sameNs
    refine ⟨_, List.mem_singleton_self _, sameNs.symm, ?_⟩
    exact touched.key_eq ref

@[simp]
theorem upsertPodIn_pods_of_ne {other : PodRef} (different : other ≠ ref) :
    (manager.upsertPodIn lib client now boost ref).2.memory.pods other =
      manager.memory.pods other :=
  ((manager.boosts boost).touches_upsertPod lib client now ref manager.memory).pods_of_ne other
    different

@[simp]
theorem upsertPodIn_selectsPod (other : BoostRef) (pod : Pod) :
    ((manager.upsertPodIn lib client now boost ref).2.boosts other).selectsPod pod =
      (manager.boosts other).selectsPod pod :=
  ((SameConfiguration.refl manager).upsertPodIn lib client now ref).selectsPod other pod

theorem Kept.upsertPodIn (allocated : ref < manager.memory.next)
    (notAside : ∀ name ns, manager.orphanedPods.get name ns ≠ some ref) :
    ∃ recent, Kept manager (manager.upsertPodIn lib client now boost ref).2 recent := by
  obtain ⟨recent, extended, _⟩ : ∃ recent, Memory.Extends manager.memory
      (manager.upsertPodIn lib client now boost ref).2.memory recent ∧ _ :=
    extends_upsertPodIn lib client now allocated
  refine ⟨recent, extended, fun name ns other present => ⟨present, .inr ?_⟩⟩
  apply upsertPodIn_pods_of_ne
  rintro rfl
  exact notAside name ns present

/-- The loop over the pods put aside: each one is mapped, or its upsert has failed, or
the boost does not match it. -/
theorem mapMatchingPods_cases {refs : List PodRef} {inFlight : InFlight} {ns : String}
    (distinct : refs.Nodup) (ranging : Ranging inFlight boost ns refs manager) :
    let mapped := manager.mapMatchingPods lib client now boost refs
    ∃ recent, Memory.Extends manager.memory mapped.2.2.memory recent ∧
      (∀ ref, ref ∉ refs → mapped.2.2.memory.pods ref = manager.memory.pods ref) ∧
      ∀ ref ∈ refs, ref ∈ mapped.2.1 ∨
        FailedFor (manager.memory.pods ref).key recent mapped.2.2.memory ∨
        (mapped.2.2.memory.pods ref = manager.memory.pods ref ∧
          (manager.boosts boost).selectsPod (manager.memory.pods ref) = false) := by
  induction refs generalizing manager with
  | nil => exact ⟨[], .refl _, fun _ _ => rfl, by simp⟩
  | cons first refs ih =>
      obtain ⟨notLater, distinctLater⟩ := List.nodup_cons.mp distinct
      obtain ⟨sameNs, allocated⟩ := ranging.pods first List.mem_cons_self
      simp only [mapMatchingPods]
      by_cases selected : (manager.boosts boost).selectsPod (manager.memory.pods first) = true
      · rw [if_pos selected]
        obtain ⟨new, extended, outcome⟩ : ∃ recent, Memory.Extends manager.memory
            (manager.upsertPodIn lib client now boost first).2.memory recent ∧ _ :=
          extends_upsertPodIn lib client now allocated
        obtain ⟨recent, later, untouched, each⟩ := ih distinctLater
          (ranging.tail.upsertPodIn lib client sameNs allocated)
        have unaffected : ∀ ref, ref ∉ first :: refs →
            ((manager.upsertPodIn lib client now boost first).2.mapMatchingPods lib client now boost
              refs).2.2.memory.pods ref = manager.memory.pods ref := by
          intro ref notMember
          exact (untouched ref (List.not_mem_of_not_mem_cons notMember)).trans
            (upsertPodIn_pods_of_ne lib client now (List.ne_of_not_mem_cons notMember))
        have eachLater := fun ref (member : ref ∈ refs) =>
          (each ref member).imp_right (Or.imp_left fun failed => failed.mono new)
        have others : ∀ ref ∈ refs, (manager.upsertPodIn lib client now boost first).2.memory.pods
            ref = manager.memory.pods ref := by
          intro ref member
          apply upsertPodIn_pods_of_ne
          rintro rfl
          exact notLater member
        simp only [upsertPodIn_selectsPod] at eachLater
        cases result : (manager.upsertPodIn lib client now boost first).1 with
        | error message =>
            refine ⟨recent ++ new, extended.trans later, unaffected, fun ref member => ?_⟩
            rcases List.mem_cons.mp member with rfl | inRest
            · rw [result] at outcome
              have failed := outcome.resolve_left (by simp) (sameNs.trans ranging.boostNs.symm)
              exact .inr (.inl (failed.extend extended.allocated later))
            · rw [← others ref inRest]
              exact eachLater ref inRest
        | ok =>
            refine ⟨recent ++ new, extended.trans later, unaffected, fun ref member => ?_⟩
            rcases List.mem_cons.mp member with rfl | inRest
            · exact .inl List.mem_cons_self
            · rw [← others ref inRest]
              exact (eachLater ref inRest).imp_left (List.mem_cons_of_mem _)
      · rw [if_neg selected]
        obtain ⟨recent, later, untouched, each⟩ := ih distinctLater ranging.tail
        refine ⟨recent, later, fun ref notMember => ?_, fun ref member => ?_⟩
        · exact untouched ref (List.not_mem_of_not_mem_cons notMember)
        · rcases List.mem_cons.mp member with rfl | inRest
          · exact .inr (.inr ⟨untouched ref notLater, by simpa using selected⟩)
          · exact each ref inRest

/-- Of the pods put aside, those of the boost's namespace that are left do not match it,
or their upsert has failed. -/
theorem Kept.mapOrphanedPods (order : RangeOrder String) (boost : BoostRef)
    (wellFormed : WellFormed {} manager) :
    let mapped := (manager.mapOrphanedPods lib client now order boost).2
    ∃ recent, Kept manager mapped recent ∧
      ∀ name ref, mapped.orphanedPods.get name (manager.boosts boost).ns = some ref →
        FailedFor ((manager.boosts boost).ns, name) recent mapped.memory ∨
          (manager.boosts boost).selectsPod (mapped.memory.pods ref) = false := by
  let refs := manager.orphanedPods.list order (manager.boosts boost).ns
  obtain ⟨recent, extended, untouched, each⟩ := mapMatchingPods_cases lib client now
    (nodup_orphanedPods_list wellFormed order (manager.boosts boost).ns)
    (Ranging.orphanedPods wellFormed)
  obtain ⟨orphanedPods, deleted, kept⟩ := foldl_deleteOrphanedPod_eq
    (manager.mapMatchingPods lib client now boost refs).2.1
    (manager.mapMatchingPods lib client now boost refs).2.2
  simp only [Manager.mapOrphanedPods]
  rw [deleted]
  -- An entry that is left is not mapped.
  have left : ∀ name ns ref, orphanedPods.get name ns = some ref →
      manager.orphanedPods.get name ns = some ref ∧
        (ref ∈ refs → FailedFor (ns, name) recent
            (manager.mapMatchingPods lib client now boost refs).2.2.memory ∨
          ((manager.mapMatchingPods lib client now boost refs).2.2.memory.pods ref =
              manager.memory.pods ref ∧
            (manager.boosts boost).selectsPod (manager.memory.pods ref) = false)) := by
    intro name ns ref present
    obtain ⟨before, notDeleted⟩ := (kept name ns ref).mp present
    rw [mapMatchingPods_orphanedPods] at before
    have sameKey := (wellFormed.orphaned _ _ _ before).1
    refine ⟨before, fun member => ?_⟩
    rw [← sameKey]
    refine (each ref member).resolve_left fun isMapped => notDeleted ref isMapped ?_
    exact (mapMatchingPods_key _ manager ref).trans sameKey
  refine ⟨recent, ⟨extended, fun name ns ref present => ?_⟩, fun name ref present => ?_⟩
  · obtain ⟨before, outcome⟩ := left name ns ref present
    refine ⟨before, ?_⟩
    by_cases member : ref ∈ refs
    · exact (outcome member).imp_right And.left
    · exact .inr (untouched ref member)
  · obtain ⟨before, outcome⟩ := left name _ ref present
    rcases outcome (NamespacedObjects.mem_list.mpr ⟨name, before⟩) with failed | ⟨same, unmatched⟩
    · exact .inl failed
    · exact .inr (by rw [same]; exact unmatched)

theorem Kept.newPod (wellFormed : WellFormed {} manager) (pod : Pod) :
    Kept manager (manager.newPod pod).2 [] := by
  refine .of_eq (.newPod pod manager) (fun _ _ _ present => present) (fun ref existed => ?_)
    wellFormed
  exact newPod_pods_of_lt existed pod

theorem Kept.syncBoostPods {ns : String} (ranging : Ranging {} boost ns [] manager) :
    ∃ recent, Kept manager (manager.syncBoostPods lib client now boost).2 recent := by
  have same : Kept manager manager [] :=
    .of_eq (.refl _) (fun _ _ _ present => present) (fun _ _ => rfl) ranging.wellFormed
  have listed : Kept manager (manager.listBoostPods client boost).2 [] :=
    .of_eq (.of_eq rfl rfl rfl) (fun _ _ _ present => present) (fun _ _ => rfl) ranging.wellFormed
  refine (Ranging.syncBoostPods lib client
    (P := fun current => ∃ recent, Kept manager current recent) (Q := fun _ => True) ranging
    ⟨[], same⟩ ⟨⟨[], listed⟩, fun _ _ => trivial⟩ ?_).2
  rintro pod _ _ current currentRanging ⟨recent, kept⟩ _
  have delivered := kept.trans (Kept.newPod currentRanging.wellFormed pod)
  obtain ⟨new, upserted⟩ : ∃ recent, Kept (current.newPod pod).2
      ((current.newPod pod).2.upsertPodIn lib client now boost (current.newPod pod).1).2
        recent := by
    apply Kept.upsertPodIn lib client now (Nat.lt_succ_self _)
    intro name ns present
    exact absurd (currentRanging.wellFormed.orphaned _ _ _ present).2 (lt_irrefl _)
  exact ⟨_, delivered.trans upserted⟩

theorem Kept.postProcessNewBoost (order : RangeOrder String) (wellFormed : WellFormed {} manager)
    (registered : manager.regularBoosts.get (manager.boosts boost).name
      (manager.boosts boost).ns = some boost) :
    let processed := manager.postProcessNewBoost lib client now order boost
    ∃ recent, Kept manager processed recent ∧
      ∀ name ref, processed.orphanedPods.get name (manager.boosts boost).ns = some ref →
        FailedFor ((manager.boosts boost).ns, name) recent processed.memory ∨
          (manager.boosts boost).selectsPod (processed.memory.pods ref) = false := by
  obtain ⟨timedBoosts, indexed⟩ := manager.indexTimedBoost_eq boost
  have indexedWellFormed := wellFormed.indexTimedBoost registered
  have start : Kept manager (manager.indexTimedBoost boost) [] := by
    rw [indexed]
    exact .of_eq (.refl _) (fun _ _ _ present => present) (fun _ _ => rfl) wellFormed
  obtain ⟨first, mapped, unmatched⟩ := Kept.mapOrphanedPods lib client now order boost
    indexedWellFormed
  obtain ⟨second, synced⟩ := Kept.syncBoostPods lib client now
    (Ranging.afterMapping lib client indexedWellFormed now order boost)
  have sameBoost : (manager.indexTimedBoost boost).boosts boost = manager.boosts boost := by
    rw [indexed]
  rw [sameBoost] at unmatched
  refine ⟨second ++ (first ++ []), (start.trans mapped).trans synced, fun name ref present => ?_⟩
  obtain ⟨before, outcome⟩ := synced.orphaned name _ ref present
  rw [List.append_nil]
  rcases outcome with failed | same
  · exact .inl (failed.mono first)
  · rcases unmatched name ref before with failed | notSelected
    · exact .inl (failed.extend mapped.memory.allocated synced.memory)
    · rw [← same] at notSelected
      exact .inr notSelected

/-- The pods put aside are kept, and those that match a registered boost matched it
before, or an upsert under their key has failed. -/
structure Explained (before after : Manager σ) (recent : List FailedRevert) : Prop
    extends Kept before after recent where
  matching : ∀ name ns ref boostName boost, after.orphanedPods.get name ns = some ref →
    after.regularBoosts.get boostName ns = some boost →
      (after.boosts boost).selectsPod (after.memory.pods ref) = true →
        FailedFor (ns, name) recent after.memory ∨
          (before.regularBoosts.get boostName ns = some boost ∧
            (before.boosts boost).selectsPod (after.memory.pods ref) = true)

theorem Explained.of_sameConfiguration {before after : Manager σ} {recent : List FailedRevert}
    (kept : Kept before after recent) (same : SameConfiguration before after) :
    Explained before after recent where
  toKept := kept
  matching name ns ref boostName boost _ registered selected := by
    rw [same.regularBoosts] at registered
    rw [same.selectsPod] at selected
    exact .inr ⟨registered, selected⟩

theorem Explained.refl (wellFormed : WellFormed {} manager) : Explained manager manager [] :=
  .of_sameConfiguration (.of_eq (.refl _) (fun _ _ _ present => present) (fun _ _ => rfl)
    wellFormed) (.refl _)

/-- A boost that has just been registered or updated is given the pods put aside that it
matches; the other boosts are as before. -/
theorem Explained.postProcessNewBoost {before : Manager σ} (order : RangeOrder String)
    (kept : Kept before manager []) (wellFormed : WellFormed {} manager)
    (registered : manager.regularBoosts.get (manager.boosts boost).name
      (manager.boosts boost).ns = some boost)
    (others : ∀ boostName ns other, manager.regularBoosts.get boostName ns = some other →
      other ≠ boost → before.regularBoosts.get boostName ns = some other ∧
        manager.boosts other = before.boosts other) :
    ∃ recent, Explained before (manager.postProcessNewBoost lib client now order boost)
      recent := by
  obtain ⟨recent, processed, unmatched⟩ :=
    Kept.postProcessNewBoost lib client now order wellFormed registered
  obtain ⟨timedBoosts, indexed⟩ := manager.indexTimedBoost_eq boost
  have same := SameConfiguration.postProcessNewBoost lib client now order boost manager
  rw [indexed] at same
  refine ⟨recent ++ [], kept.trans processed, ?_⟩
  intro name ns ref boostName other present otherRegistered selected
  rw [same.regularBoosts] at otherRegistered
  rw [same.selectsPod] at selected
  by_cases isBoost : other = boost
  · subst other
    obtain rfl : (manager.boosts boost).ns = ns :=
      (wellFormed.regular _ _ _ otherRegistered).2.1
    rcases unmatched name ref present with failed | notSelected
    · exact .inl (failed.mono [])
    · exact absurd selected (Bool.eq_false_iff.mp notSelected)
  · obtain ⟨registeredBefore, sameImpl⟩ := others boostName ns other otherRegistered isBoost
    exact .inr ⟨registeredBefore, sameImpl ▸ selected⟩

theorem Explained.addRegularCPUBoost (order : RangeOrder String)
    (wellFormed : WellFormed {} manager) (existing : boost < manager.nextBoost) :
    ∃ recent, Explained manager (manager.addRegularCPUBoost lib client now order boost).2
      recent := by
  rcases manager.addRegularCPUBoost_cases lib client now order boost with
    unchanged | ⟨unused, added⟩
  · rw [unchanged]
    exact ⟨[], .refl wellFormed⟩
  · rw [added]
    refine Explained.postProcessNewBoost lib client now order
      (.of_eq (.of_eq rfl rfl rfl) (fun _ _ _ present => present) (fun _ _ => rfl) wellFormed)
      (wellFormed.register existing unused) (register_get_self boost manager) ?_
    intro boostName ns other registered different
    rcases NamespacedObjects.get_put_eq_some.mp registered with ⟨_, same⟩ | ⟨_, before⟩
    · exact absurd same different
    · exact ⟨before, rfl⟩

theorem Explained.updateRegularCPUBoost (order : RangeOrder String) (spec : StartupCPUBoost)
    (wellFormed : WellFormed {} manager) :
    ∃ recent, Explained manager (manager.updateRegularCPUBoost lib client now order spec).2
      recent := by
  rcases manager.updateRegularCPUBoost_cases lib client now order spec with
    unchanged | ⟨boost, impl, registered, accepted, updated⟩
  · rw [unchanged]
    exact ⟨[], .refl wellFormed⟩
  · obtain ⟨replaced, stillRegistered⟩ := wellFormed.setSpec_of_update lib registered accepted
    rw [updated]
    refine Explained.postProcessNewBoost lib client now order
      (.of_eq (.refl _) (fun _ _ _ present => present) (fun _ _ => rfl) wellFormed) replaced ?_ ?_
    · rwa [setBoost_boosts_self]
    · exact fun boostName ns other otherRegistered different =>
        ⟨otherRegistered, setBoost_boosts_of_ne different _ _ _⟩

/-- A pod that is given to a boost is no longer put aside, or its upsert has failed. -/
theorem Explained.upsertPod {order : RangeOrder String} (wellFormed : WellFormed {} manager)
    (allocated : ref < manager.memory.next)
    (found : manager.getMatchingBoost order (manager.memory.pods ref) = some boost) :
    ∃ recent, Explained manager (manager.upsertPod lib client now order ref).2 recent := by
  obtain ⟨⟨boostName, registered⟩, _⟩ := getMatchingBoost_some found
  have sameNs := (wellFormed.regular _ _ _ registered).2.1
  obtain ⟨recent, extended, outcome⟩ : ∃ recent, Memory.Extends manager.memory
      (manager.upsertPodIn lib client now boost ref).2.memory recent ∧ _ :=
    extends_upsertPodIn lib client now allocated
  have same : SameConfiguration manager (manager.upsertPodIn lib client now boost ref).2 :=
    (SameConfiguration.refl manager).upsertPodIn lib client now ref
  -- Only the pod with this key can be the object that is upserted.
  have others : ∀ name ns other, manager.orphanedPods.get name ns = some other →
      (ns, name) ≠ (manager.memory.pods ref).key →
        (manager.upsertPodIn lib client now boost ref).2.memory.pods other =
          manager.memory.pods other := by
    intro name ns other present different
    apply upsertPodIn_pods_of_ne
    rintro rfl
    exact different (wellFormed.orphaned _ _ _ present).1.symm
  refine ⟨recent, ?_⟩
  simp only [Manager.upsertPod, found]
  cases result : (manager.upsertPodIn lib client now boost ref).1 with
  | ok =>
      refine .of_sameConfiguration ⟨extended, fun name ns other present => ?_⟩ (same.congr _ _)
      have before := orphaned_of_deleteOrphanedPod present
      refine ⟨before, .inr (others name ns other before fun sameKey => ?_)⟩
      obtain ⟨rfl, rfl⟩ := Prod.mk.inj sameKey
      simp [deleteOrphanedPod, NamespacedObjects.get_delete] at present
  | error message =>
      refine .of_sameConfiguration ⟨extended, fun name ns other present => ⟨present, ?_⟩⟩ same
      by_cases sameKey : (ns, name) = (manager.memory.pods ref).key
      · rw [sameKey]
        rw [result] at outcome
        exact .inl (outcome.resolve_left (by simp) sameNs.symm)
      · exact .inr (others name ns other present sameKey)

/-- The key under which a call puts a pod aside. -/
def putsAside (manager : Manager σ) : ManagerCall σ → Option PodKey
  | .upsertPod _ order ref =>
      if ref < manager.memory.next ∧
          manager.getMatchingBoost order (manager.memory.pods ref) = none then
        some (manager.memory.pods ref).key
      else none
  | _ => none

theorem putsAside_some {call : ManagerCall σ} {key : PodKey}
    (aside : manager.putsAside call = some key) :
    ∃ order ref, key = (manager.memory.pods ref).key ∧
      manager.getMatchingBoost order (manager.memory.pods ref) = none ∧
      manager.perform lib client call =
        { manager with
          orphanedPods := manager.orphanedPods.put (manager.memory.pods ref).name
            (manager.memory.pods ref).ns ref } := by
  cases call with
  | upsertPod now order ref =>
      simp only [putsAside] at aside
      by_cases unmatched : ref < manager.memory.next ∧
          manager.getMatchingBoost order (manager.memory.pods ref) = none
      · rw [if_pos unmatched] at aside
        refine ⟨order, ref, (Option.some.inj aside).symm, unmatched.2, ?_⟩
        simp only [Manager.perform, if_pos unmatched.1, Manager.upsertPod, unmatched.2]
      · rw [if_neg unmatched] at aside
        cases aside
  | newBoost | newPod | addRegularCPUBoost | updateRegularCPUBoost | deleteRegularCPUBoost |
    deletePod | changeServer => cases aside

theorem Explained.perform (wellFormed : WellFormed {} manager) {call : ManagerCall σ}
    (noneAside : manager.putsAside call = none) :
    ∃ recent, Explained manager (manager.perform lib client call) recent := by
  cases call with
  | newBoost spec legacyRevertMode =>
      simp only [Manager.perform]
      cases newStartupCPUBoost lib spec legacyRevertMode with
      | error message => exact ⟨[], .refl wellFormed⟩
      | ok impl =>
          refine ⟨[], .of_eq (.refl _) (fun _ _ _ present => present) (fun _ _ => rfl) wellFormed,
            ?_⟩
          intro name ns ref boostName boost _ registered selected
          have existing := (wellFormed.regular _ _ _ registered).2.2
          rw [newBoost_boosts_of_lt existing] at selected
          exact .inr ⟨registered, selected⟩
  | newPod pod =>
      exact ⟨[], .of_sameConfiguration (Kept.newPod wellFormed pod)
        ((SameConfiguration.refl _).newPod pod)⟩
  | addRegularCPUBoost now order boost =>
      simp only [Manager.perform]
      by_cases existing : boost < manager.nextBoost
      · rw [if_pos existing]
        exact Explained.addRegularCPUBoost lib client now order wellFormed existing
      · rw [if_neg existing]
        exact ⟨[], .refl wellFormed⟩
  | updateRegularCPUBoost now order spec =>
      exact Explained.updateRegularCPUBoost lib client now order spec wellFormed
  | deleteRegularCPUBoost ns name =>
      refine ⟨[], .of_eq (.of_eq rfl rfl rfl) (fun _ _ _ present => present) (fun _ _ => rfl)
        wellFormed, ?_⟩
      intro _ _ _ boostName boost _ registered selected
      exact .inr ⟨registered_of_deleteRegularCPUBoost registered, selected⟩
  | upsertPod now order ref =>
      simp only [Manager.perform]
      by_cases allocated : ref < manager.memory.next
      · rw [if_pos allocated]
        cases found : manager.getMatchingBoost order (manager.memory.pods ref) with
        | none => simp [putsAside, allocated, found] at noneAside
        | some boost => exact Explained.upsertPod lib client now wellFormed allocated found
      · rw [if_neg allocated]
        exact ⟨[], .refl wellFormed⟩
  | deletePod order pod =>
      rw [Manager.perform]
      rcases manager.deletePod_cases lib order pod with ⟨boost, -, routed⟩ | ⟨-, routed⟩
      · obtain ⟨metrics, deleted⟩ :=
          (manager.boosts boost).deletePod_memory lib manager.memory pod.name
        rw [routed]
        refine ⟨[], .of_sameConfiguration (.of_eq ?_ (fun _ _ _ present => present) ?_ wellFormed)
          ((SameConfiguration.refl _).deletePodIn lib pod.name)⟩
        · simp only [deletePodIn, setBoost, deleted]
          exact .of_eq rfl rfl rfl
        · simp only [deletePodIn, setBoost, deleted]
          exact fun _ _ => trivial
      · rw [routed]
        exact ⟨[], .of_sameConfiguration (.of_eq (.refl _)
          (fun _ _ _ present => orphaned_of_deleteOrphanedPod present) (fun _ _ => rfl) wellFormed)
          ((SameConfiguration.refl _).congr _ _)⟩
  | changeServer server =>
      exact ⟨[], .of_sameConfiguration (.of_eq (.of_eq rfl rfl rfl)
        (fun _ _ _ present => present) (fun _ _ => rfl) wellFormed)
        ((SameConfiguration.refl _).congr _ _)⟩

end Manager

/-- The manager with a record of how long the log of failures was when a key was last put
aside. -/
structure Recorded (σ : Type) where
  manager : Manager σ
  putAt : PodKey → Nat

namespace Recorded

variable (lib : Library) (client : PodClient σ)

def initial (hasClient : Bool) (server : σ) : Recorded σ :=
  ⟨Controller.newManager hasClient server, fun _ => 0⟩

def step (call : ManagerCall σ) (recorded : Recorded σ) : Recorded σ where
  manager := recorded.manager.perform lib client call
  putAt :=
    match recorded.manager.putsAside call with
    | none => recorded.putAt
    | some key =>
        Function.update recorded.putAt key recorded.manager.memory.failedReverts.length

/-- The state after a sequence of calls. -/
def run (calls : List (ManagerCall σ)) (recorded : Recorded σ) : Recorded σ :=
  runEvents (step lib client) calls recorded

/-- The upserts that have failed since a key was last put aside. -/
def failedSince (key : PodKey) (recorded : Recorded σ) : List FailedRevert :=
  let log := recorded.manager.memory.failedReverts
  log.take (log.length - recorded.putAt key)

/-- A pod put aside is matched by a boost registered in its namespace only if an upsert
under its key has failed since. -/
def NoneLeftBehind (recorded : Recorded σ) : Prop :=
  ∀ name ns ref boostName boost, recorded.manager.orphanedPods.get name ns = some ref →
    recorded.manager.regularBoosts.get boostName ns = some boost →
      (recorded.manager.boosts boost).selectsPod (recorded.manager.memory.pods ref) = true →
        FailedFor (ns, name) (recorded.failedSince (ns, name)) recorded.manager.memory

@[simp]
theorem run_manager (calls : List (ManagerCall σ)) (recorded : Recorded σ) :
    (recorded.run lib client calls).manager = recorded.manager.performAll lib client calls := by
  induction calls generalizing recorded with
  | nil => rfl
  | cons call rest ih => exact ih (recorded.step lib client call)

/-- What the record keeps true. -/
structure Sound (recorded : Recorded σ) : Prop where
  reachable : Manager.Reachable lib client recorded.manager
  bounded : ∀ key, recorded.putAt key ≤ recorded.manager.memory.failedReverts.length
  allocated : ∀ failed ∈ recorded.manager.memory.failedReverts,
    failed.pod < recorded.manager.memory.next
  noneLeft : recorded.NoneLeftBehind

variable {lib client} {recorded : Recorded σ}

theorem failedSince_append {recent log : List FailedRevert} {position : Nat}
    (bounded : position ≤ log.length) :
    (recent ++ log).take ((recent ++ log).length - position) =
      recent ++ log.take (log.length - position) := by
  have enough : recent.length ≤ (recent ++ log).length - position := by
    rw [List.length_append]
    omega
  rw [List.take_append, List.take_of_length_le enough, List.length_append]
  congr 2
  omega

theorem Sound.step_of_none (sound : Sound lib client recorded) {call : ManagerCall σ}
    (aside : recorded.manager.putsAside call = none) :
    Sound lib client (recorded.step lib client call) := by
  have reachable := sound.reachable.perform call
  obtain ⟨recent, explained⟩ := Manager.Explained.perform lib client
    sound.reachable.wellFormed aside
  have log := explained.memory.log
  have samePutAt : (recorded.step lib client call).putAt = recorded.putAt := by
    simp only [Recorded.step, aside]
  refine ⟨reachable, fun key => ?_, fun failed member => ?_, ?_⟩
  · rw [samePutAt]
    refine (sound.bounded key).trans ?_
    simp only [Recorded.step, log, List.length_append]
    omega
  · simp only [Recorded.step, log] at member ⊢
    rcases List.mem_append.mp member with new | old
    · exact explained.memory.allocated failed new
    · exact (sound.allocated failed old).trans_le explained.memory.next
  · intro name ns ref boostName boost present registered selected
    have since : (recorded.step lib client call).failedSince (ns, name) =
        recent ++ recorded.failedSince (ns, name) := by
      simp only [failedSince, samePutAt]
      simp only [Recorded.step, log]
      exact failedSince_append (sound.bounded _)
    rw [since]
    rcases explained.matching name ns ref boostName boost present registered selected with
      failed | ⟨registeredBefore, selectedBefore⟩
    · exact failed.mono _
    · obtain ⟨before, outcome⟩ := explained.orphaned name ns ref present
      rcases outcome with failed | same
      · exact failed.mono _
      · rw [same] at selectedBefore
        have earlier := sound.noneLeft name ns ref boostName boost before registeredBefore
          selectedBefore
        refine earlier.extend (fun failed member => ?_) explained.memory
        exact sound.allocated failed (List.mem_of_mem_take member)

theorem Sound.step_of_some (sound : Sound lib client recorded) {call : ManagerCall σ}
    {key : PodKey} (aside : recorded.manager.putsAside call = some key) :
    Sound lib client (recorded.step lib client call) := by
  have reachable := sound.reachable.perform call
  obtain ⟨order, ref, rfl, noMatch, performed⟩ := Manager.putsAside_some lib client aside
  have sameMemory : (recorded.step lib client call).manager.memory = recorded.manager.memory := by
    rw [Recorded.step, performed]
  have putAt : (recorded.step lib client call).putAt = Function.update recorded.putAt
      (recorded.manager.memory.pods ref).key recorded.manager.memory.failedReverts.length := by
    simp only [Recorded.step, aside]
  refine ⟨reachable, fun key => ?_, fun failed member => ?_, ?_⟩
  · rw [sameMemory, putAt]
    by_cases isKey : key = (recorded.manager.memory.pods ref).key
    · rw [isKey, Function.update_self]
    · rw [Function.update_of_ne isKey]
      exact sound.bounded key
  · rw [sameMemory] at member ⊢
    exact sound.allocated failed member
  · intro name ns other boostName boost present registered selected
    rw [sameMemory] at selected ⊢
    simp only [Recorded.step, performed] at present registered selected
    rcases NamespacedObjects.get_put_eq_some.mp present with
      ⟨⟨rfl, rfl⟩, rfl⟩ | ⟨different, before⟩
    · -- This is the pod just put aside, which no boost matches.
      exact absurd selected
        (Bool.eq_false_iff.mp (Manager.getMatchingBoost_none noMatch registered))
    · have notKey : (ns, name) ≠ (recorded.manager.memory.pods ref).key := by
        intro same
        exact different ⟨congrArg Prod.snd same, congrArg Prod.fst same⟩
      have since : (recorded.step lib client call).failedSince (ns, name) =
          recorded.failedSince (ns, name) := by
        simp only [failedSince, sameMemory, putAt, Function.update_of_ne notKey]
      rw [since]
      exact sound.noneLeft name ns other boostName boost before registered selected

theorem Sound.step (sound : Sound lib client recorded) (call : ManagerCall σ) :
    Sound lib client (recorded.step lib client call) := by
  cases aside : recorded.manager.putsAside call with
  | none => exact sound.step_of_none aside
  | some key => exact sound.step_of_some aside

/-- After every sequence of calls to a new manager, no matching pod is left behind. -/
theorem run_noneLeftBehind (lib : Library) (client : PodClient σ) (hasClient : Bool) (server : σ)
    (calls : List (ManagerCall σ)) :
    let recorded := (initial hasClient server).run lib client calls
    recorded.manager = (Controller.newManager hasClient server).performAll lib client calls ∧
      recorded.NoneLeftBehind := by
  have start : Sound lib client (initial hasClient server) := {
    reachable := .newManager hasClient server
    bounded := fun _ => le_refl _
    allocated := fun _ member => nomatch member
    noneLeft := fun _ _ _ _ _ present => nomatch present }
  have sound : Sound lib client ((initial hasClient server).run lib client calls) :=
    runEvents_preserves
      (show ∀ call (recorded : Recorded σ), Sound lib client recorded → _ from
        fun call recorded sound => sound.step call) start
  exact ⟨run_manager lib client calls _, sound.noneLeft⟩

end Recorded

end KubeStartupCPUBoost
