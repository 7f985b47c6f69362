import KubeStartupCPUBoost.ManagerStates

/-!
# Taking over orphaned pods

What the loop over the orphaned pods of a namespace does, pod by pod: which
names a boost tracks after it, and which entries it leaves.  A pod whose upsert
fails is tracked by the boost and stays among the orphaned pods.
-/

namespace KubeStartupCPUBoost

variable {σ : Type}

namespace Manager

/-- A boost registered in the pod's namespace tracks the pod's name. -/
def TrackedBy (key : PodKey) (boost : BoostRef) (manager : Manager σ) : Prop :=
  (∃ name, manager.regularBoosts.get name key.1 = some boost) ∧
    ((manager.boosts boost).pods.lookup key.2).isSome = true

end Manager

section Accepted

variable (lib : Library) (client : PodClient σ) (now : Time)

/-- The upsert makes no revert, or the API accepts the calls of the revert. -/
def UpsertAccepted (boost : BoostRef) (ref : PodRef) (manager : Manager σ) : Prop :=
  (manager.boosts boost).MeetsPodCondition now (manager.memory.pods ref) ∨
    ((manager.boosts boost).revertCalls lib client ref manager.memory).result = .ok ()

/-- The API accepts the calls of every revert made in the loop over the
orphaned pods. -/
def MappingAccepted (boost : BoostRef) : List PodRef → Manager σ → Prop
  | [], _ => True
  | ref :: rest, manager =>
      if (manager.boosts boost).selectsPod (manager.memory.pods ref) then
        UpsertAccepted lib client now boost ref manager ∧
          MappingAccepted boost rest (manager.upsertPodIn lib client now boost ref).2
      else MappingAccepted boost rest manager

theorem mem_mapped_of_accepted {boost : BoostRef} {refs : List PodRef} {manager : Manager σ}
    (distinct : refs.Nodup) (accepted : MappingAccepted lib client now boost refs manager)
    {ref : PodRef} (member : ref ∈ refs)
    (selected : (manager.boosts boost).selectsPod (manager.memory.pods ref) = true) :
    ref ∈ (manager.mapMatchingPods lib client now boost refs).2.1 := by
  induction refs generalizing manager with
  | nil => cases member
  | cons first refs ih =>
      obtain ⟨notLater, distinctLater⟩ := List.nodup_cons.mp distinct
      simp only [Manager.mapMatchingPods, MappingAccepted] at accepted ⊢
      by_cases firstSelected :
          (manager.boosts boost).selectsPod (manager.memory.pods first) = true
      · rw [if_pos firstSelected] at accepted ⊢
        have upserted : (manager.upsertPodIn lib client now boost first).1 = .ok () :=
          StartupCPUBoostImpl.upsertPod_ok lib client now first _ _ accepted.1
        rw [upserted]
        rcases List.mem_cons.mp member with rfl | later
        · exact List.mem_cons_self
        · have different : ref ≠ first := by
            rintro rfl
            exact notLater later
          have touched := StartupCPUBoostImpl.touches_upsertPod lib client now first
            (manager.boosts boost) manager.memory
          refine List.mem_cons_of_mem _ (ih distinctLater accepted.2 later ?_)
          simp only [Manager.upsertPodIn, Manager.setBoost_boosts_self]
          rw [touched.boost_eq]
          change (manager.boosts boost).selectsPod
            (((manager.boosts boost).upsertPod lib client now first manager.memory).memory.pods
              ref) = true
          rwa [touched.pods_of_ne ref different]
      · rw [if_neg firstSelected] at accepted ⊢
        rcases List.mem_cons.mp member with rfl | later
        · exact absurd selected firstSelected
        · exact ih distinctLater accepted later selected

end Accepted

namespace Manager

variable {lib : Library} {client : PodClient σ} {now : Time} {inFlight : InFlight}
  {boost : BoostRef} {order : RangeOrder String} {manager : Manager σ}

/-- An upsert makes the boost track the pod's name at most. -/
theorem trackedBy_of_upsertPodIn {ref : PodRef} (wellFormed : WellFormed inFlight manager)
    (sameNs : (manager.memory.pods ref).ns = (manager.boosts boost).ns) {key : PodKey}
    {other : BoostRef} (tracked : (manager.upsertPodIn lib client now boost ref).2.TrackedBy key
      other) :
    manager.TrackedBy key other ∨ (other = boost ∧ key = (manager.memory.pods ref).key) := by
  obtain ⟨⟨name, registered⟩, present⟩ := tracked
  by_cases isBoost : other = boost
  · subst other
    by_cases sameName : key.2 = (manager.memory.pods ref).name
    · refine .inr ⟨rfl, Prod.ext ?_ sameName⟩
      exact (wellFormed.regular _ _ _ registered).2.1.symm.trans sameNs.symm
    · refine .inl ⟨⟨name, registered⟩, ?_⟩
      simp only [upsertPodIn, setBoost_boosts_self] at present
      rwa [(StartupCPUBoostImpl.lookup_upsertPod lib client now ref _ _ key.2).1 sameName]
        at present
  · simp only [upsertPodIn, setBoost_boosts_of_ne isBoost] at present
    exact .inl ⟨⟨name, registered⟩, present⟩

/-- An operation after which a boost tracks no more names than before. -/
theorem trackedBy_of_setBoost {impl : StartupCPUBoostImpl} {memory : Memory σ}
    (fewer : ∀ name ref, impl.pods.lookup name = some ref →
      (manager.boosts boost).pods.lookup name = some ref) {key : PodKey} {other : BoostRef}
    (tracked : (manager.setBoost boost impl memory).TrackedBy key other) :
    manager.TrackedBy key other := by
  obtain ⟨registered, present⟩ := tracked
  refine ⟨registered, ?_⟩
  by_cases isBoost : other = boost
  · subst other
    rw [setBoost_boosts_self] at present
    obtain ⟨ref, found⟩ := Option.isSome_iff_exists.mp present
    rw [fewer key.2 ref found]
    rfl
  · rwa [setBoost_boosts_of_ne isBoost] at present

theorem trackedBy_of_deletePodIn {podName : String} {key : PodKey} {other : BoostRef}
    (tracked : (manager.deletePodIn lib boost podName).TrackedBy key other) :
    manager.TrackedBy key other := by
  refine trackedBy_of_setBoost (fun name ref present => ?_) tracked
  rw [StartupCPUBoostImpl.deletePod_pods, GoMap.lookup_erase] at present
  split at present
  · cases present
  · exact present

theorem trackedBy_of_revertResourcesIn {ref : PodRef} {key : PodKey} {other : BoostRef}
    (tracked : (manager.revertResourcesIn lib client boost ref).2.TrackedBy key other) :
    manager.TrackedBy key other :=
  trackedBy_of_setBoost
    (fun _ _ present =>
      (StartupCPUBoostImpl.tracked_of_revertResources lib client ref _ _ present).1) tracked

@[simp]
theorem mapMatchingPods_orphanedPods (refs : List PodRef) (manager : Manager σ) :
    (manager.mapMatchingPods lib client now boost refs).2.2.orphanedPods =
      manager.orphanedPods :=
  mapMatchingPods_preserves (P := fun current => current.orphanedPods = manager.orphanedPods) lib
    client (fun _ _ _ same _ => same) rfl

@[simp]
theorem mapMatchingPods_boosts_of_ne {other : BoostRef} (different : other ≠ boost)
    (refs : List PodRef) (manager : Manager σ) :
    (manager.mapMatchingPods lib client now boost refs).2.2.boosts other =
      manager.boosts other :=
  mapMatchingPods_preserves (P := fun current => current.boosts other = manager.boosts other) lib
    client (fun _ _ _ same _ => (setBoost_boosts_of_ne different _ _ _).trans same) rfl

@[simp]
theorem mapMatchingPods_key (refs : List PodRef) (manager : Manager σ) (ref : PodRef) :
    ((manager.mapMatchingPods lib client now boost refs).2.2.memory.pods ref).key =
      (manager.memory.pods ref).key := by
  refine mapMatchingPods_preserves
    (P := fun current => (current.memory.pods ref).key = (manager.memory.pods ref).key) lib client
    (fun changed _ current same _ => ?_) rfl
  exact ((StartupCPUBoostImpl.touches_upsertPod lib client now changed _ _).key_eq ref).trans same

theorem mem_of_mem_mapped {refs : List PodRef} {manager : Manager σ} {ref : PodRef}
    (mapped : ref ∈ (manager.mapMatchingPods lib client now boost refs).2.1) : ref ∈ refs := by
  induction refs generalizing manager with
  | nil => cases mapped
  | cons first refs ih =>
      simp only [mapMatchingPods] at mapped
      split at mapped
      · split at mapped
        · exact List.mem_cons_of_mem _ (ih mapped)
        · rcases List.mem_cons.mp mapped with rfl | later
          · exact List.mem_cons_self
          · exact List.mem_cons_of_mem _ (ih later)
      · exact List.mem_cons_of_mem _ (ih mapped)

/-- If the calls are accepted, a name that the boost comes to track is that of
a mapped pod. -/
theorem tracked_of_mapMatchingPods {refs : List PodRef} {manager : Manager σ}
    (accepted : MappingAccepted lib client now boost refs manager) {name : String}
    (tracked : (((manager.mapMatchingPods lib client now boost refs).2.2.boosts boost).pods.lookup
      name).isSome = true) :
    ((manager.boosts boost).pods.lookup name).isSome = true ∨
      ∃ ref ∈ (manager.mapMatchingPods lib client now boost refs).2.1,
        (manager.memory.pods ref).name = name := by
  induction refs generalizing manager with
  | nil => exact .inl tracked
  | cons first refs ih =>
      simp only [mapMatchingPods, MappingAccepted] at accepted tracked ⊢
      by_cases selected : (manager.boosts boost).selectsPod (manager.memory.pods first) = true
      · rw [if_pos selected] at accepted tracked ⊢
        have upserted : (manager.upsertPodIn lib client now boost first).1 = .ok () :=
          StartupCPUBoostImpl.upsertPod_ok lib client now first _ _ accepted.1
        have touched := StartupCPUBoostImpl.touches_upsertPod lib client now first
          (manager.boosts boost) manager.memory
        rw [upserted] at tracked ⊢
        rcases ih accepted.2 tracked with before | ⟨ref, mapped, sameName⟩
        · by_cases isFirst : name = (manager.memory.pods first).name
          · exact .inr ⟨first, List.mem_cons_self, isFirst.symm⟩
          · simp only [upsertPodIn, setBoost_boosts_self] at before
            rw [(StartupCPUBoostImpl.lookup_upsertPod lib client now first _ _ name).1 isFirst]
              at before
            exact .inl before
        · refine .inr ⟨ref, List.mem_cons_of_mem _ mapped, ?_⟩
          rw [← sameName]
          exact (congrArg Prod.snd (touched.key_eq ref)).symm
      · rw [if_neg selected] at accepted tracked ⊢
        exact ih accepted tracked

/-- The loop comes to every pod object once. -/
theorem nodup_orphanedPods_list (wellFormed : WellFormed inFlight manager)
    (order : RangeOrder String) (ns : String) : (manager.orphanedPods.list order ns).Nodup := by
  apply NamespacedObjects.nodup_list
  intro name other object first second
  have sameKey := (wellFormed.orphaned _ _ _ first).1.symm.trans
    (wellFormed.orphaned _ _ _ second).1
  exact congrArg Prod.snd sameKey

section Deletions

variable (wellFormed : WellFormed inFlight manager)
  (accepted : MappingAccepted lib client now boost
    (manager.orphanedPods.list order (manager.boosts boost).ns) manager)

include wellFormed accepted

/-- If every call is accepted, the orphaned pods that are left are those the
boost does not match. -/
theorem orphaned_of_mapOrphanedPods (podName ns : String) (ref : PodRef)
    (present : (manager.mapOrphanedPods lib client now order boost).2.orphanedPods.get podName
      ns = some ref) :
    manager.orphanedPods.get podName ns = some ref ∧
      (ns = (manager.boosts boost).ns →
        (manager.boosts boost).selectsPod (manager.memory.pods ref) = false) := by
  obtain ⟨orphanedPods, deleted, kept⟩ := foldl_deleteOrphanedPod_eq
    (manager.mapMatchingPods lib client now boost
      (manager.orphanedPods.list order (manager.boosts boost).ns)).2.1
    (manager.mapMatchingPods lib client now boost
      (manager.orphanedPods.list order (manager.boosts boost).ns)).2.2
  simp only [mapOrphanedPods, deleted] at present
  obtain ⟨before, notDeleted⟩ := (kept podName ns ref).mp present
  have presentAtStart := before
  rw [mapMatchingPods_orphanedPods] at presentAtStart
  refine ⟨presentAtStart, fun sameNs => ?_⟩
  subst ns
  -- A matching pod would have been mapped, and its entry deleted.
  by_contra isMatched
  have distinct := nodup_orphanedPods_list wellFormed order (manager.boosts boost).ns
  have mapped := mem_mapped_of_accepted lib client now distinct accepted
    (NamespacedObjects.mem_list.mpr ⟨podName, presentAtStart⟩) (Bool.not_eq_false _ ▸ isMatched)
  exact notDeleted ref mapped
    ((mapMatchingPods_key _ manager ref).trans (wellFormed.orphaned _ _ _ presentAtStart).1)

/-- If every call is accepted, a name that the boost comes to track was among
the orphaned pods and no longer is. -/
theorem trackedBy_of_mapOrphanedPods {key : PodKey} {other : BoostRef}
    (tracked : (manager.mapOrphanedPods lib client now order boost).2.TrackedBy key other) :
    manager.TrackedBy key other ∨
      (other = boost ∧ (∃ ref, manager.orphanedPods.get key.2 key.1 = some ref) ∧
        (manager.mapOrphanedPods lib client now order boost).2.orphanedPods.get key.2 key.1 =
          none) := by
  have same : SameConfiguration manager (manager.mapOrphanedPods lib client now order boost).2 :=
    (SameConfiguration.refl manager).mapOrphanedPods lib client now order
  obtain ⟨orphanedPods, deleted, kept⟩ := foldl_deleteOrphanedPod_eq
    (manager.mapMatchingPods lib client now boost
      (manager.orphanedPods.list order (manager.boosts boost).ns)).2.1
    (manager.mapMatchingPods lib client now boost
      (manager.orphanedPods.list order (manager.boosts boost).ns)).2.2
  obtain ⟨⟨name, registered⟩, present⟩ := tracked
  rw [same.regularBoosts] at registered
  simp only [mapOrphanedPods, deleted] at present ⊢
  by_cases isBoost : other = boost
  · subst other
    have boostNs := (wellFormed.regular _ _ _ registered).2.1
    rcases tracked_of_mapMatchingPods accepted present with before | ⟨ref, mapped, sameName⟩
    · exact .inl ⟨⟨name, registered⟩, before⟩
    · obtain ⟨podName, orphaned⟩ := NamespacedObjects.mem_list.mp (mem_of_mem_mapped mapped)
      have refKey := (wellFormed.orphaned _ _ _ orphaned).1
      have key_eq : key = ((manager.boosts boost).ns, podName) :=
        Prod.ext boostNs.symm (sameName.symm.trans (congrArg Prod.snd refKey))
      subst key_eq
      refine .inr ⟨rfl, ⟨ref, orphaned⟩, ?_⟩
      cases left : orphanedPods.get podName (manager.boosts boost).ns with
      | none => rfl
      | some other =>
          exact absurd ((mapMatchingPods_key _ manager ref).trans refKey)
            (((kept _ _ _).mp left).2 ref mapped)
  · rw [mapMatchingPods_boosts_of_ne isBoost] at present
    exact .inl ⟨⟨name, registered⟩, present⟩

end Deletions

end Manager

end KubeStartupCPUBoost
