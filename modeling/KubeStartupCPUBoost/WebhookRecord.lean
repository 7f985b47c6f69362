import KubeStartupCPUBoost.RequestLimitOrder

/-!
# What the webhook changes and what it records

A changed container without a record, or a record without the label, would
never be reverted.  Changing, recording and labelling are separate steps of the
webhook; `recordsItsChanges` says that they go together for every pod, and that
nothing else of the pod is touched.

The loop is followed name by name: `boostContainers_records` says what the
annotation holds about each container, `boostContainers_unvisited` that the
other names are left alone.
-/

namespace KubeStartupCPUBoost

variable (lib : Library)

/-- The annotation holds the container's CPU amounts as texts. -/
def Records (annot : BoostPodAnnotation) (container : Container) : Prop :=
  annot.initCPURequests.lookup container.name =
      (container.resources.requests.lookup resourceCPU).map lib.quantityString ∧
    annot.initCPULimits.lookup container.name =
      (container.resources.limits.lookup resourceCPU).map lib.quantityString

private theorem records_updateBoostAnnot {annot : BoostPodAnnotation} {container : Container}
    (fresh : Unrecorded annot container.name) :
    Records lib (updateBoostAnnot lib container.name container.resources annot) container :=
  ⟨lookup_recordCPU_fresh lib fresh.1 _, lookup_recordCPU_fresh lib fresh.2 _⟩

namespace PodCPUBoostHandler

variable (handler : PodCPUBoostHandler) (boost : StartupCPUBoostImpl)

section Loop

variable (originalQosClass : PodQOSClass) (pod : Pod)

/-- What the annotation holds about a container after its turn. -/
def RecordedTurn (annot : BoostPodAnnotation) (turn : Option ResourceRequirements)
    (container : Container) : Prop :=
  match turn with
  | none => Unrecorded annot container.name
  | some _ => Records lib annot container

theorem recordedTurn_annotAfterTurn {container : Container} {annot : BoostPodAnnotation}
    (fresh : Unrecorded annot container.name) (current : Pod) (containerIdx : Nat) :
    RecordedTurn lib
      (handler.annotAfterTurn lib boost originalQosClass current containerIdx container annot)
      (handler.boostedResources boost originalQosClass current containerIdx container)
      container := by
  unfold annotAfterTurn
  cases handler.boostedResources boost originalQosClass current containerIdx container with
  | none => exact fresh
  | some resources => exact records_updateBoostAnnot lib fresh

theorem RecordedTurn.congr {lib : Library} {annot annot' : BoostPodAnnotation}
    {turn : Option ResourceRequirements} {container : Container}
    (same : SameRecords annot annot' container.name)
    (recorded : RecordedTurn lib annot' turn container) :
    RecordedTurn lib annot turn container := by
  cases turn with
  | none => exact ⟨same.1.trans recorded.1, same.2.trans recorded.2⟩
  | some resources => exact ⟨same.1.trans recorded.1, same.2.trans recorded.2⟩

theorem boostContainers_records (visited toVisit : List Container) (annot : BoostPodAnnotation)
    (reached : (handler.podAtTurn boost pod visited.length).containers = visited ++ toVisit)
    (fresh : ∀ container ∈ toVisit, Unrecorded annot container.name)
    (distinct : (toVisit.map Container.name).Nodup) :
    let boosted := handler.boostContainers lib boost
      (computePodQOS pod handler.podLevelResourcesEnabled) pod visited toVisit annot
    ∀ position container, toVisit[position]? = some container →
      RecordedTurn lib boosted.2
        (handler.resourcesAtTurn boost pod (visited.length + position) container) container := by
  induction toVisit generalizing visited annot with
  | nil => simp
  | cons head rest ih =>
      obtain ⟨headFresh, restFresh⟩ := List.forall_mem_cons.mp fresh
      obtain ⟨headDistinct, restDistinct⟩ := List.nodup_cons.mp distinct
      intro boosted position container present
      let originalQosClass := computePodQOS pod handler.podLevelResourcesEnabled
      let current := handler.podAtTurn boost pod visited.length
      let next := handler.boostedContainer boost originalQosClass current visited.length head
      let annot' := handler.annotAfterTurn lib boost originalQosClass current visited.length head
        annot
      have step : boosted = handler.boostContainers lib boost originalQosClass pod
          (visited ++ [next]) rest annot' := handler.boostContainers_turn lib boost annot reached
      cases position with
      | zero =>
          obtain rfl : head = container := by simpa using present
          have sameAfter : SameRecords boosted.2 annot' head.name := by
            rw [step]
            exact handler.boostContainers_unvisited lib boost originalQosClass pod _ rest annot'
              headDistinct
          exact .congr sameAfter
            (handler.recordedTurn_annotAfterTurn lib boost originalQosClass headFresh _ _)
      | succ position =>
          have reachedNext : (handler.podAtTurn boost pod (visited ++ [next]).length).containers =
              visited ++ [next] ++ rest := by
            rw [List.length_append, List.length_singleton]
            exact handler.podAtTurn_next boost reached
          have freshAfter := handler.unrecorded_annotAfterTurn lib boost originalQosClass current
            visited.length headDistinct restFresh
          have later := ih (visited ++ [next]) annot' reachedNext freshAfter restDistinct position
            container (by simpa using present)
          rw [← step, List.length_append, List.length_singleton, Nat.add_assoc,
            Nat.add_comm 1 position] at later
          exact later

end Loop

variable (now : Time) (pod : Pod)

/-- The loop of the webhook over a pod's containers. -/
def boostLoop : List Container × BoostPodAnnotation :=
  handler.boostContainers lib boost (computePodQOS pod handler.podLevelResourcesEnabled) pod []
    pod.containers (newBoostAnnot now)

theorem containers_boostContainerResources :
    (handler.boostContainerResources lib now boost pod).containers =
      (handler.boostLoop lib boost now pod).1 := by
  simp only [boostContainerResources, boostLoop]
  split
  · rfl
  · rfl

/-- Some container passes every check at its turn. -/
def BoostsSome : Prop :=
  ∃ position container, pod.containers[position]? = some container ∧
    handler.BoostedAtTurn boost pod position container

variable {pod}

theorem recordedTurn_boostLoop (distinct : (pod.containers.map Container.name).Nodup)
    {position : Nat} {container : Container}
    (present : pod.containers[position]? = some container) :
    RecordedTurn lib (handler.boostLoop lib boost now pod).2
      (handler.resourcesAtTurn boost pod position container) container := by
  have recorded := handler.boostContainers_records lib boost pod [] pod.containers
    (newBoostAnnot now) rfl (fun _ _ => ⟨Finmap.lookup_empty _, Finmap.lookup_empty _⟩) distinct
    position container present
  rw [List.length_nil, Nat.zero_add] at recorded
  exact recorded

/-- A name that is recorded is that of a container that was boosted. -/
theorem exists_boosted_of_recorded (distinct : (pod.containers.map Container.name).Nodup)
    {name : String} (recorded : ¬ Unrecorded (handler.boostLoop lib boost now pod).2 name) :
    ∃ position container, pod.containers[position]? = some container ∧ container.name = name ∧
      handler.BoostedAtTurn boost pod position container ∧
      Records lib (handler.boostLoop lib boost now pod).2 container := by
  have visited : name ∈ pod.containers.map Container.name := by
    by_contra unvisited
    obtain ⟨requests, limits⟩ := handler.boostContainers_unvisited lib boost
      (computePodQOS pod handler.podLevelResourcesEnabled) pod [] pod.containers
      (newBoostAnnot now) unvisited
    exact recorded ⟨requests.trans (Finmap.lookup_empty name),
      limits.trans (Finmap.lookup_empty name)⟩
  obtain ⟨container, member, rfl⟩ := List.mem_map.mp visited
  obtain ⟨position, present⟩ := List.getElem?_of_mem member
  have turn := handler.recordedTurn_boostLoop lib boost now distinct present
  cases result : handler.resourcesAtTurn boost pod position container with
  | none =>
      rw [result] at turn
      exact absurd turn recorded
  | some resources =>
      rw [result] at turn
      exact ⟨position, container, present, rfl,
        (handler.exists_resourcesAtTurn_iff boost pod position container).mp ⟨_, result⟩,
        turn⟩

/-- A boosted container has a CPU amount, so it leaves a record. -/
theorem recorded_of_boosted (distinct : (pod.containers.map Container.name).Nodup)
    {position : Nat} {container : Container}
    (present : pod.containers[position]? = some container)
    (boosted : handler.BoostedAtTurn boost pod position container) :
    container.name ∈ (handler.boostLoop lib boost now pod).2.initCPURequests.keys ∨
      container.name ∈ (handler.boostLoop lib boost now pod).2.initCPULimits.keys := by
  obtain ⟨resources, result⟩ :=
    (handler.exists_resourcesAtTurn_iff boost pod position container).mpr boosted
  have records := handler.recordedTurn_boostLoop lib boost now distinct present
  rw [result] at records
  obtain ⟨policy, -, -, hasCPU, -⟩ := boosted
  have present_of_ne : ∀ list : ResourceList, cpuQuantity list ≠ 0 →
      ∃ quantity, list.lookup resourceCPU = some quantity := by
    intro list nonzero
    apply Option.ne_none_iff_exists'.mp
    intro absent
    rw [cpuQuantity, absent] at nonzero
    exact nonzero rfl
  rcases hasCPU with hasRequest | hasLimit
  · obtain ⟨quantity, found⟩ := present_of_ne _ hasRequest
    exact .inl (GoMap.mem_keys_iff.mpr ⟨_, records.1.trans (congrArg _ found)⟩)
  · obtain ⟨quantity, found⟩ := present_of_ne _ hasLimit
    exact .inr (GoMap.mem_keys_iff.mpr ⟨_, records.2.trans (congrArg _ found)⟩)

/-- The webhook writes an annotation exactly if it has boosted a container. -/
theorem annotated_iff (distinct : (pod.containers.map Container.name).Nodup) :
    (0 < (handler.boostLoop lib boost now pod).2.initCPULimits.keys.card ∨
        0 < (handler.boostLoop lib boost now pod).2.initCPURequests.keys.card) ↔
      handler.BoostsSome boost pod := by
  rw [Finset.card_pos, Finset.card_pos]
  constructor
  · intro recorded
    obtain ⟨name, isRecorded⟩ :
        ∃ name, ¬ Unrecorded (handler.boostLoop lib boost now pod).2 name := by
      rcases recorded with ⟨name, inLimits⟩ | ⟨name, inRequests⟩
      · obtain ⟨text, found⟩ := GoMap.mem_keys_iff.mp inLimits
        exact ⟨name, fun unrecorded => Option.some_ne_none text (found.symm.trans unrecorded.2)⟩
      · obtain ⟨text, found⟩ := GoMap.mem_keys_iff.mp inRequests
        exact ⟨name, fun unrecorded => Option.some_ne_none text (found.symm.trans unrecorded.1)⟩
    obtain ⟨position, container, present, -, boosted, -⟩ :=
      handler.exists_boosted_of_recorded lib boost now distinct isRecorded
    exact ⟨position, container, present, boosted⟩
  · rintro ⟨position, container, present, boosted⟩
    rcases handler.recorded_of_boosted lib boost now distinct present boosted with
      inRequests | inLimits
    · exact .inr ⟨_, inRequests⟩
    · exact .inl ⟨_, inLimits⟩

variable (pod)

/-- What the webhook may make of a pod: containers are boosted in their CPU
amounts only, the amounts they had are recorded, and the pod is marked exactly
if a container is boosted. -/
structure RecordsItsChanges (boosted : Pod) : Prop where
  frame : { boosted with
    containers := pod.containers, labels := pod.labels, annotations := pod.annotations } = pod
  otherLabels : ∀ key, key ≠ boostLabelKey → boosted.labels.lookup key = pod.labels.lookup key
  otherAnnotations : ∀ key, key ≠ boostAnnotationKey →
    boosted.annotations.lookup key = pod.annotations.lookup key
  sameLength : boosted.containers.length = pod.containers.length
  containers : ∀ (position : Nat) (container : Container),
    pod.containers[position]? = some container →
      ∃ resources : ResourceRequirements,
        boosted.containers[position]? = some { container with resources } ∧
          CPUOnlyChange container.resources.requests resources.requests ∧
          CPUOnlyChange container.resources.limits resources.limits ∧
          (resources ≠ container.resources →
            ∃ annot, boostAnnotationFromPod lib boosted = .ok annot ∧
              (container.name ∈ annot.initCPURequests.keys ∨
                container.name ∈ annot.initCPULimits.keys))
  recordedRequests : ∀ annot, boostAnnotationFromPod lib boosted = .ok annot →
    ∀ name text, annot.initCPURequests.lookup name = some text →
      ∃ container ∈ pod.containers, container.name = name ∧
        ∃ quantity, container.resources.requests.lookup resourceCPU = some quantity ∧
          lib.quantityString quantity = text
  recordedLimits : ∀ annot, boostAnnotationFromPod lib boosted = .ok annot →
    ∀ name text, annot.initCPULimits.lookup name = some text →
      ∃ container ∈ pod.containers, container.name = name ∧
        ∃ quantity, container.resources.limits.lookup resourceCPU = some quantity ∧
          lib.quantityString quantity = text
  marked_iff : (boosted.labels.lookup boostLabelKey = some boost.name ∧
      (boosted.annotations.lookup boostAnnotationKey).isSome) ↔
    handler.BoostsSome boost pod
  unchanged : ¬ handler.BoostsSome boost pod → boosted = pod

/-- A pod that the webhook has boosted. -/
def markedPod : Pod :=
  { pod with
    containers := (handler.boostLoop lib boost now pod).1
    annotations := pod.annotations.insert boostAnnotationKey
      (lib.marshalAnnot (handler.boostLoop lib boost now pod).2)
    labels := pod.labels.insert boostLabelKey boost.name }

variable {pod}

theorem boostContainerResources_of_boosted (distinct : (pod.containers.map Container.name).Nodup)
    (boosts : handler.BoostsSome boost pod) :
    handler.boostContainerResources lib now boost pod = handler.markedPod lib boost now pod := by
  simp only [boostContainerResources]
  exact if_pos ((handler.annotated_iff lib boost now distinct).mpr boosts)

theorem boostContainerResources_of_not_boosted
    (distinct : (pod.containers.map Container.name).Nodup)
    (noneBoosted : ¬ handler.BoostsSome boost pod) :
    handler.boostContainerResources lib now boost pod = pod := by
  have sameContainers : (handler.boostContainerResources lib now boost pod).containers =
      pod.containers := by
    apply List.ext_getElem?
    intro position
    rw [boostContainerResources_getElem?]
    cases present : pod.containers[position]? with
    | none => rfl
    | some container =>
        rw [Option.map_some, boostedContainer, ← resourcesAtTurn]
        cases turn : handler.resourcesAtTurn boost pod position container with
        | none => rfl
        | some resources =>
            have boosted := (handler.exists_resourcesAtTurn_iff boost pod position container).mp
              ⟨resources, turn⟩
            exact absurd ⟨position, container, present, boosted⟩ noneBoosted
  have unmarked : handler.boostContainerResources lib now boost pod =
      { pod with containers := (handler.boostLoop lib boost now pod).1 } := by
    simp only [boostContainerResources]
    exact if_neg (mt (handler.annotated_iff lib boost now distinct).mp noneBoosted)
  rw [unmarked, ← containers_boostContainerResources, sameContainers]

theorem boostAnnotationFromPod_markedPod :
    boostAnnotationFromPod lib (handler.markedPod lib boost now pod) =
      .ok (handler.boostLoop lib boost now pod).2 := by
  simp only [boostAnnotationFromPod, markedPod, Finmap.lookup_insert]
  exact lib.unmarshalAnnot_marshalAnnot _

theorem recordsItsChanges_markedPod (distinct : (pod.containers.map Container.name).Nodup)
    (boosts : handler.BoostsSome boost pod) :
    handler.RecordsItsChanges lib boost pod (handler.markedPod lib boost now pod) := by
  have each := handler.boostContainerResources_getElem? lib boost pod now
  rw [handler.containers_boostContainerResources] at each
  have readBack : ∀ {annot}, boostAnnotationFromPod lib (handler.markedPod lib boost now pod) =
      .ok annot → (handler.boostLoop lib boost now pod).2 = annot := fun read =>
    Except.ok.inj ((handler.boostAnnotationFromPod_markedPod lib boost now).symm.trans read)
  exact {
    frame := rfl
    otherLabels := fun key other => Finmap.lookup_insert_of_ne pod.labels other
    otherAnnotations := fun key other => Finmap.lookup_insert_of_ne pod.annotations other
    sameLength := by
      rw [markedPod, ← containers_boostContainerResources, boostContainerResources_containers,
        podAtTurn_length]
    containers := by
      intro position container present
      have result := each position
      rw [present, Option.map_some, boostedContainer] at result
      cases turn : handler.resourcesAtTurn boost pod position container with
      | none =>
          rw [show handler.boostedResources _ _ _ _ _ = _ from turn] at result
          exact ⟨container.resources, result, .refl _, .refl _, fun changed => absurd rfl changed⟩
      | some resources =>
          rw [show handler.boostedResources _ _ _ _ _ = _ from turn] at result
          obtain ⟨requests, limits⟩ := cpuOnlyChange_boostedResources turn
          refine ⟨resources, result, requests, limits, fun _ =>
            ⟨_, handler.boostAnnotationFromPod_markedPod lib boost now, ?_⟩⟩
          exact handler.recorded_of_boosted lib boost now distinct present
            ((handler.exists_resourcesAtTurn_iff boost pod position container).mp
              ⟨resources, turn⟩)
    recordedRequests := by
      intro annot read name text found
      obtain rfl := readBack read
      obtain ⟨position, container, present, rfl, -, records⟩ :=
        handler.exists_boosted_of_recorded lib boost now distinct
          (fun unrecorded => Option.some_ne_none text (found.symm.trans unrecorded.1))
      exact ⟨container, List.mem_of_getElem? present, rfl,
        Option.map_eq_some_iff.mp (records.1.symm.trans found)⟩
    recordedLimits := by
      intro annot read name text found
      obtain rfl := readBack read
      obtain ⟨position, container, present, rfl, -, records⟩ :=
        handler.exists_boosted_of_recorded lib boost now distinct
          (fun unrecorded => Option.some_ne_none text (found.symm.trans unrecorded.2))
      exact ⟨container, List.mem_of_getElem? present, rfl,
        Option.map_eq_some_iff.mp (records.2.symm.trans found)⟩
    marked_iff := by
      refine iff_of_true ⟨Finmap.lookup_insert _, ?_⟩ boosts
      simp only [markedPod, Finmap.lookup_insert, Option.isSome_some]
    unchanged := fun noneBoosted => absurd boosts noneBoosted }

theorem recordsItsChanges_self (unlabelled : pod.labels.lookup boostLabelKey = none)
    (unannotated : pod.annotations.lookup boostAnnotationKey = none)
    (noneBoosted : ¬ handler.BoostsSome boost pod) :
    handler.RecordsItsChanges lib boost pod pod := by
  have unreadable : ∀ annot, boostAnnotationFromPod lib pod ≠ .ok annot := by
    intro annot read
    rw [boostAnnotationFromPod, unannotated] at read
    cases read
  exact {
    frame := rfl
    otherLabels := fun _ _ => rfl
    otherAnnotations := fun _ _ => rfl
    sameLength := rfl
    containers := fun position container present =>
      ⟨container.resources, present, .refl _, .refl _, fun changed => absurd rfl changed⟩
    recordedRequests := fun annot read => absurd read (unreadable annot)
    recordedLimits := fun annot read => absurd read (unreadable annot)
    marked_iff := by
      refine iff_of_false (fun marked => ?_) noneBoosted
      rw [unlabelled] at marked
      cases marked.1
    unchanged := fun _ => rfl }

/-- The webhook changes nothing that it does not record. -/
theorem recordsItsChanges (distinct : (pod.containers.map Container.name).Nodup)
    (unlabelled : pod.labels.lookup boostLabelKey = none)
    (unannotated : pod.annotations.lookup boostAnnotationKey = none) :
    handler.RecordsItsChanges lib boost pod
      (handler.boostContainerResources lib now boost pod) := by
  by_cases boosts : handler.BoostsSome boost pod
  · rw [handler.boostContainerResources_of_boosted lib boost now distinct boosts]
    exact handler.recordsItsChanges_markedPod lib boost now distinct boosts
  · rw [handler.boostContainerResources_of_not_boosted lib boost now distinct boosts]
    exact handler.recordsItsChanges_self lib boost unlabelled unannotated boosts

end PodCPUBoostHandler

namespace Reference

theorem recordsItsChanges_plainPod :
    (PodCPUBoostHandler.boostContainerResources referenceLibrary ⟨false, false⟩ 0 doublingBoost
        plainPod).containers ≠ plainPod.containers ∧
      PodCPUBoostHandler.RecordsItsChanges referenceLibrary ⟨false, false⟩ doublingBoost plainPod
        (PodCPUBoostHandler.boostContainerResources referenceLibrary ⟨false, false⟩ 0
          doublingBoost plainPod) :=
  ⟨by decide +kernel,
    PodCPUBoostHandler.recordsItsChanges referenceLibrary ⟨false, false⟩ doublingBoost 0
      (by decide) (Finmap.lookup_empty _) (Finmap.lookup_empty _)⟩

end Reference

end KubeStartupCPUBoost
