import KubeStartupCPUBoost.BoostTracking
import KubeStartupCPUBoost.PodQosClass
import KubeStartupCPUBoost.ReferenceLibrary

/-!
# The webhook that boosts new pods

The mutating webhook raises the CPU resources of a new pod's containers
according to the policies of a matching boost, skipping containers it cannot
or should not change, and records the original values in an annotation.

The loop carries the containers visited so far, since each container is judged
against the pod as the earlier ones have left it.  The second half relates the
webhook to the revert: a boosted pod, reverted, is the pod it was.
-/

namespace KubeStartupCPUBoost

structure PodCPUBoostHandler where
  removeLimits : Bool
  podLevelResourcesEnabled : Bool
deriving DecidableEq

/-- The restart policy of the first entry for the resource decides. -/
def resizeRequiresRestart (resource : String) : List ContainerResizePolicy → Bool
  | [] => false
  | policy :: rest =>
      if policy.resourceName ≠ resource then resizeRequiresRestart resource rest
      else policy.restartPolicy = .restartContainer

def hasResourcesToIncrease (container : Container) : Bool :=
  cpuQuantity container.resources.requests ≠ 0 || cpuQuantity container.resources.limits ≠ 0

variable (lib : Library)

def newBoostAnnot (now : Time) : BoostPodAnnotation where
  boostTimestamp := now
  initCPURequests := ∅
  initCPULimits := ∅

def recordCPU (containerName : String) (resources : ResourceList) (recorded : StringMap) :
    StringMap :=
  match resources.lookup resourceCPU with
  | none => recorded
  | some quantity => recorded.insert containerName (lib.quantityString quantity)

def updateBoostAnnot (containerName : String) (resources : ResourceRequirements)
    (annot : BoostPodAnnotation) : BoostPodAnnotation :=
  { annot with
    initCPURequests := recordCPU lib containerName resources.requests annot.initCPURequests
    initCPULimits := recordCPU lib containerName resources.limits annot.initCPULimits }

namespace PodCPUBoostHandler

variable (handler : PodCPUBoostHandler)

def canRemoveLimit (qosClass : PodQOSClass) : Bool :=
  handler.removeLimits && (qosClass = .burstable || qosClass = .bestEffort)

def containerResizeChangesQosClass (initQosClass : PodQOSClass) (initPod : Pod)
    (containerIdx : Nat) (newContainerRes : ResourceRequirements) : Bool :=
  let podCopy :=
    { initPod with
      containers := initPod.containers.modify containerIdx fun container =>
        { container with resources := newContainerRes } }
  computePodQOS podCopy handler.podLevelResourcesEnabled ≠ initQosClass

/-- The new resources of a container, or nothing when it is skipped. -/
def boostedResources (boost : StartupCPUBoostImpl) (originalQosClass : PodQOSClass) (pod : Pod)
    (containerIdx : Nat) (container : Container) : Option ResourceRequirements :=
  match boost.resourcePolicy container.name with
  | none => none
  | some policy =>
      if resizeRequiresRestart resourceCPU container.resizePolicy then none
      else if !hasResourcesToIncrease container then none
      else
        let resources := policy.newResources container
        if handler.containerResizeChangesQosClass originalQosClass pod containerIdx resources then
          none
        else if cpuQuantity resources.limits ≠ 0 ∧ handler.canRemoveLimit originalQosClass then
          some { resources with limits := resources.limits.erase resourceCPU }
        else some resources

/-- The loop over the containers, with those already visited. -/
def boostContainers (boost : StartupCPUBoostImpl) (originalQosClass : PodQOSClass) (pod : Pod) :
    (visited toVisit : List Container) → BoostPodAnnotation →
      List Container × BoostPodAnnotation
  | visited, [], annot => (visited, annot)
  | visited, container :: rest, annot =>
      let current := { pod with containers := visited ++ container :: rest }
      match handler.boostedResources boost originalQosClass current visited.length container with
      | none => boostContainers boost originalQosClass pod (visited ++ [container]) rest annot
      | some resources =>
          boostContainers boost originalQosClass pod
            (visited ++ [{ container with resources }]) rest
            (updateBoostAnnot lib container.name container.resources annot)

def boostContainerResources (now : Time) (boost : StartupCPUBoostImpl) (pod : Pod) : Pod :=
  let originalQosClass := computePodQOS pod handler.podLevelResourcesEnabled
  let boosted := handler.boostContainers lib boost originalQosClass pod [] pod.containers
    (newBoostAnnot now)
  if boosted.2.initCPULimits.keys.card > 0 ∨ boosted.2.initCPURequests.keys.card > 0 then
    { pod with
      containers := boosted.1
      annotations := pod.annotations.insert boostAnnotationKey (lib.marshalAnnot boosted.2)
      labels := pod.labels.insert boostLabelKey boost.name }
  else { pod with containers := boosted.1 }

end PodCPUBoostHandler

/-- The new amounts agree with the old ones outside CPU and have no CPU amount
where there was none. -/
def CPUOnlyChange (original updated : ResourceList) : Prop :=
  (∀ name, name ≠ resourceCPU → updated.lookup name = original.lookup name) ∧
    (original.lookup resourceCPU = none → updated.lookup resourceCPU = none)

theorem CPUOnlyChange.refl (original : ResourceList) : CPUOnlyChange original original :=
  ⟨fun _ _ => rfl, id⟩

theorem CPUOnlyChange.insert {original : ResourceList} {current : Quantity}
    (present : original.lookup resourceCPU = some current) (updated : Quantity) :
    CPUOnlyChange original (original.insert resourceCPU updated) := by
  constructor
  · intro name other
    exact Finmap.lookup_insert_of_ne original other
  · intro absent
    rw [present] at absent
    cases absent

theorem CPUOnlyChange.erase {original updated : ResourceList}
    (change : CPUOnlyChange original updated) :
    CPUOnlyChange original (updated.erase resourceCPU) := by
  constructor
  · intro name other
    rw [Finmap.lookup_erase_ne other]
    exact change.1 name other
  · intro _
    exact Finmap.lookup_erase resourceCPU updated

theorem CPUOnlyChange.restored {original updated : ResourceList}
    (change : CPUOnlyChange original updated) :
    restoredCPU (original.lookup resourceCPU) updated = original := by
  apply Finmap.ext_lookup
  intro name
  by_cases cpu : name = resourceCPU
  · subst name
    cases found : original.lookup resourceCPU with
    | none => exact change.2 found
    | some quantity => exact Finmap.lookup_insert updated
  · cases original.lookup resourceCPU with
    | none => exact change.1 name cpu
    | some quantity => exact (Finmap.lookup_insert_of_ne updated cpu).trans (change.1 name cpu)

private theorem cpuOnlyChange_setResource (resources : ResourceList) (target : Quantity) :
    CPUOnlyChange resources (setResource resourceCPU resources target) := by
  unfold setResource
  cases present : resources.lookup resourceCPU with
  | none => split <;> exact .refl resources
  | some current =>
      dsimp only
      split
      · exact .refl resources
      · split
        · exact .refl resources
        · exact .insert present target

private theorem cpuOnlyChange_increaseResource (incPerc : Int64) (resources : ResourceList) :
    CPUOnlyChange resources (increaseResource incPerc resourceCPU resources) := by
  unfold increaseResource
  cases present : resources.lookup resourceCPU with
  | none => exact .refl resources
  | some quantity => exact .insert present _

/-- Whatever the policy, only CPU amounts are changed. -/
theorem cpuOnlyChange_newResources (policy : ContainerPolicy) (container : Container) :
    CPUOnlyChange container.resources.requests (policy.newResources container).requests ∧
      CPUOnlyChange container.resources.limits (policy.newResources container).limits := by
  cases policy with
  | fixed cpuRequests cpuLimits =>
      exact ⟨cpuOnlyChange_setResource _ _, cpuOnlyChange_setResource _ _⟩
  | percentage incPerc =>
      exact ⟨cpuOnlyChange_increaseResource _ _, cpuOnlyChange_increaseResource _ _⟩

namespace PodCPUBoostHandler

variable {lib} {handler : PodCPUBoostHandler} {boost : StartupCPUBoostImpl}
  {originalQosClass : PodQOSClass} {pod : Pod}

/-- The new resources are the policy's, without the CPU limit where it is removed. -/
theorem boostedResources_some {containerIdx : Nat} {container : Container}
    {resources : ResourceRequirements}
    (boosted : handler.boostedResources boost originalQosClass pod containerIdx container =
      some resources) :
    ∃ policy, boost.resourcePolicy container.name = some policy ∧
      resources.requests = (policy.newResources container).requests ∧
      resources.limits =
        if cpuQuantity (policy.newResources container).limits ≠ 0 ∧
            handler.canRemoveLimit originalQosClass then
          (policy.newResources container).limits.erase resourceCPU
        else (policy.newResources container).limits := by
  unfold boostedResources at boosted
  cases found : boost.resourcePolicy container.name with
  | none =>
      rw [found] at boosted
      cases boosted
  | some policy =>
      refine ⟨policy, rfl, ?_⟩
      simp only [found] at boosted
      by_cases restarts : resizeRequiresRestart resourceCPU container.resizePolicy
      · rw [if_pos restarts] at boosted
        cases boosted
      · rw [if_neg restarts] at boosted
        by_cases nothing : !hasResourcesToIncrease container
        · rw [if_pos nothing] at boosted
          cases boosted
        · rw [if_neg nothing] at boosted
          by_cases changes : handler.containerResizeChangesQosClass originalQosClass pod
              containerIdx (policy.newResources container)
          · rw [if_pos changes] at boosted
            cases boosted
          · rw [if_neg changes] at boosted
            by_cases removes : cpuQuantity (policy.newResources container).limits ≠ 0 ∧
                handler.canRemoveLimit originalQosClass
            · rw [if_pos removes] at boosted ⊢
              cases boosted
              exact ⟨rfl, rfl⟩
            · rw [if_neg removes] at boosted ⊢
              cases boosted
              exact ⟨rfl, rfl⟩

theorem cpuOnlyChange_boostedResources {containerIdx : Nat} {container : Container}
    {resources : ResourceRequirements}
    (boosted : handler.boostedResources boost originalQosClass pod containerIdx container =
      some resources) :
    CPUOnlyChange container.resources.requests resources.requests ∧
      CPUOnlyChange container.resources.limits resources.limits := by
  obtain ⟨policy, _, sameRequests, sameLimits⟩ := boostedResources_some boosted
  obtain ⟨requests, limits⟩ := cpuOnlyChange_newResources policy container
  rw [sameRequests, sameLimits]
  refine ⟨requests, ?_⟩
  split
  · exact limits.erase
  · exact limits

end PodCPUBoostHandler

def Unrecorded (annot : BoostPodAnnotation) (name : String) : Prop :=
  annot.initCPURequests.lookup name = none ∧ annot.initCPULimits.lookup name = none

theorem lookup_recordCPU_fresh {name : String} {recorded : StringMap}
    (fresh : recorded.lookup name = none) (resources : ResourceList) :
    (recordCPU lib name resources recorded).lookup name =
      (resources.lookup resourceCPU).map lib.quantityString := by
  unfold recordCPU
  cases resources.lookup resourceCPU with
  | none => exact fresh
  | some quantity => exact Finmap.lookup_insert recorded

private theorem lookup_recordCPU_self {name : String} {resources : ResourceList}
    {recorded : StringMap} (fresh : recorded.lookup name = none) :
    recordedQuantity lib (recordCPU lib name resources recorded) name =
      resources.lookup resourceCPU := by
  rw [recordedQuantity, lookup_recordCPU_fresh lib fresh]
  cases resources.lookup resourceCPU with
  | none => rfl
  | some quantity => simp [lib.parseQuantity_quantityString, Except.toOption]

@[simp]
theorem lookup_recordCPU_of_ne {name other : String} (different : other ≠ name)
    (resources : ResourceList) (recorded : StringMap) :
    (recordCPU lib name resources recorded).lookup other = recorded.lookup other := by
  unfold recordCPU
  cases resources.lookup resourceCPU with
  | none => rfl
  | some quantity => exact Finmap.lookup_insert_of_ne recorded different

private theorem readable_recordCPU {name : String} {resources : ResourceList} {recorded : StringMap}
    (readable : ∀ other text, recorded.lookup other = some text →
      ∃ quantity, lib.parseQuantity text = .ok quantity) :
    ∀ other text, (recordCPU lib name resources recorded).lookup other = some text →
      ∃ quantity, lib.parseQuantity text = .ok quantity := by
  intro other text found
  unfold recordCPU at found
  cases present : resources.lookup resourceCPU with
  | none =>
      rw [present] at found
      exact readable other text found
  | some quantity =>
      rw [present] at found
      rcases GoMap.lookup_insert_eq_some.mp found with ⟨-, rfl⟩ | ⟨-, before⟩
      · exact ⟨quantity, lib.parseQuantity_quantityString quantity⟩
      · exact readable other text before

def SameRecords (annot annot' : BoostPodAnnotation) (name : String) : Prop :=
  annot.initCPURequests.lookup name = annot'.initCPURequests.lookup name ∧
    annot.initCPULimits.lookup name = annot'.initCPULimits.lookup name

theorem restoredContainer_congr {annot annot' : BoostPodAnnotation} {container : Container}
    (same : SameRecords annot annot' container.name) :
    restoredContainer lib annot container = restoredContainer lib annot' container := by
  simp [restoredContainer, recordedQuantity, same.1, same.2]

theorem restoredContainer_of_unrecorded {annot : BoostPodAnnotation} {container : Container}
    (unrecorded : Unrecorded annot container.name) :
    restoredContainer lib annot container = container := by
  simp [restoredContainer, recordedQuantity, unrecorded.1, unrecorded.2, restoredCPU]

theorem restoredContainer_updateBoostAnnot {annot : BoostPodAnnotation} {container : Container}
    {resources : ResourceRequirements} (unrecorded : Unrecorded annot container.name)
    (requests : CPUOnlyChange container.resources.requests resources.requests)
    (limits : CPUOnlyChange container.resources.limits resources.limits) :
    restoredContainer lib (updateBoostAnnot lib container.name container.resources annot)
      { container with resources } = container := by
  unfold restoredContainer updateBoostAnnot
  simp only [lookup_recordCPU_self lib unrecorded.1, lookup_recordCPU_self lib unrecorded.2,
    requests.restored, limits.restored]

theorem readable_updateBoostAnnot {annot : BoostPodAnnotation} (readable : Readable lib annot)
    (name : String) (resources : ResourceRequirements) :
    Readable lib (updateBoostAnnot lib name resources annot) :=
  ⟨readable_recordCPU lib readable.1, readable_recordCPU lib readable.2⟩

namespace PodCPUBoostHandler

variable (handler : PodCPUBoostHandler)

def boostedContainer (boost : StartupCPUBoostImpl) (originalQosClass : PodQOSClass) (pod : Pod)
    (containerIdx : Nat) (container : Container) : Container :=
  match handler.boostedResources boost originalQosClass pod containerIdx container with
  | none => container
  | some resources => { container with resources }

/-- What the annotation becomes when the loop comes to a container. -/
def annotAfterTurn (boost : StartupCPUBoostImpl) (originalQosClass : PodQOSClass) (pod : Pod)
    (containerIdx : Nat) (container : Container) (annot : BoostPodAnnotation) :
    BoostPodAnnotation :=
  match handler.boostedResources boost originalQosClass pod containerIdx container with
  | none => annot
  | some _ => updateBoostAnnot lib container.name container.resources annot

/-- One pass of the loop. -/
theorem boostContainers_step (boost : StartupCPUBoostImpl) (originalQosClass : PodQOSClass)
    (pod : Pod) (visited rest : List Container) (container : Container)
    (annot : BoostPodAnnotation) :
    let current := { pod with containers := visited ++ container :: rest }
    handler.boostContainers lib boost originalQosClass pod visited (container :: rest) annot =
      handler.boostContainers lib boost originalQosClass pod
        (visited ++
          [handler.boostedContainer boost originalQosClass current visited.length container])
        rest
        (handler.annotAfterTurn lib boost originalQosClass current visited.length container
          annot) := by
  simp only [boostContainers, boostedContainer, annotAfterTurn]
  cases handler.boostedResources boost originalQosClass
      { pod with containers := visited ++ container :: rest } visited.length container with
  | none => rfl
  | some resources => rfl

/-- The containers visited so far come out of the loop unchanged. -/
theorem boostContainers_eq_append (boost : StartupCPUBoostImpl) (originalQosClass : PodQOSClass)
    (pod : Pod) (visited toVisit : List Container) (annot : BoostPodAnnotation) :
    ∃ containers,
      (handler.boostContainers lib boost originalQosClass pod visited toVisit annot).1 =
        visited ++ containers := by
  induction toVisit generalizing visited annot with
  | nil => exact ⟨[], by simp [boostContainers]⟩
  | cons container rest ih =>
      rw [boostContainers_step]
      obtain ⟨containers, later⟩ := ih _ _
      rw [later, List.append_assoc]
      exact ⟨_, rfl⟩

section Turn

variable (boost : StartupCPUBoostImpl) (originalQosClass : PodQOSClass) (current : Pod)
  (containerIdx : Nat) {container : Container} {annot : BoostPodAnnotation}

@[simp]
theorem boostedContainer_name :
    (handler.boostedContainer boost originalQosClass current containerIdx container).name =
      container.name := by
  unfold boostedContainer
  cases handler.boostedResources boost originalQosClass current containerIdx container with
  | none => rfl
  | some resources => rfl

theorem annotAfterTurn_of_ne {name : String} (different : name ≠ container.name)
    (annot : BoostPodAnnotation) :
    SameRecords (handler.annotAfterTurn lib boost originalQosClass current containerIdx container
      annot) annot name := by
  unfold annotAfterTurn
  cases handler.boostedResources boost originalQosClass current containerIdx container with
  | none => exact ⟨rfl, rfl⟩
  | some resources =>
      exact ⟨lookup_recordCPU_of_ne lib different _ _, lookup_recordCPU_of_ne lib different _ _⟩

/-- Containers with other names stay unrecorded. -/
theorem unrecorded_annotAfterTurn {rest : List Container}
    (different : container.name ∉ rest.map Container.name)
    (fresh : ∀ other ∈ rest, Unrecorded annot other.name) :
    ∀ other ∈ rest, Unrecorded (handler.annotAfterTurn lib boost originalQosClass current
      containerIdx container annot) other.name := by
  intro other inRest
  have otherName : other.name ≠ container.name := fun same =>
    different (same ▸ List.mem_map_of_mem inRest)
  obtain ⟨requests, limits⟩ := handler.annotAfterTurn_of_ne lib boost originalQosClass current
    containerIdx otherName annot
  exact ⟨requests.trans (fresh other inRest).1, limits.trans (fresh other inRest).2⟩

theorem readable_annotAfterTurn (readable : Readable lib annot) :
    Readable lib (handler.annotAfterTurn lib boost originalQosClass current containerIdx container
      annot) := by
  unfold annotAfterTurn
  cases handler.boostedResources boost originalQosClass current containerIdx container with
  | none => exact readable
  | some resources => exact readable_updateBoostAnnot lib readable _ _

theorem restoredContainer_annotAfterTurn (fresh : Unrecorded annot container.name) :
    restoredContainer lib
        (handler.annotAfterTurn lib boost originalQosClass current containerIdx container annot)
        (handler.boostedContainer boost originalQosClass current containerIdx container) =
      container := by
  unfold annotAfterTurn boostedContainer
  cases boosted : handler.boostedResources boost originalQosClass current containerIdx container
    with
  | none => exact restoredContainer_of_unrecorded lib fresh
  | some resources =>
      obtain ⟨requestChange, limitChange⟩ := cpuOnlyChange_boostedResources boosted
      exact restoredContainer_updateBoostAnnot lib fresh requestChange limitChange

end Turn

/-- The loop says nothing about containers it does not visit. -/
theorem boostContainers_unvisited (boost : StartupCPUBoostImpl) (originalQosClass : PodQOSClass)
    (pod : Pod) (visited toVisit : List Container) (annot : BoostPodAnnotation)
    {name : String} (unvisited : name ∉ toVisit.map Container.name) :
    SameRecords (handler.boostContainers lib boost originalQosClass pod visited toVisit annot).2
      annot name := by
  induction toVisit generalizing visited annot with
  | nil => exact ⟨rfl, rfl⟩
  | cons container rest ih =>
      obtain ⟨notHead, notRest⟩ := not_or.mp (mt List.mem_cons.mpr unvisited)
      rw [boostContainers_step]
      obtain ⟨requests, limits⟩ := ih _ _ notRest
      obtain ⟨headRequests, headLimits⟩ := handler.annotAfterTurn_of_ne lib boost originalQosClass
        { pod with containers := visited ++ container :: rest } visited.length notHead annot
      exact ⟨requests.trans headRequests, limits.trans headLimits⟩

variable (boost : StartupCPUBoostImpl)

/-- What the loop records restores every container it visits. -/
theorem boostContainers_restored (originalQosClass : PodQOSClass) (pod : Pod)
    (visited toVisit : List Container) (annot : BoostPodAnnotation)
    (fresh : ∀ container ∈ toVisit, Unrecorded annot container.name)
    (distinct : (toVisit.map Container.name).Nodup) (readable : Readable lib annot) :
    let boosted := handler.boostContainers lib boost originalQosClass pod visited toVisit annot
    Readable lib boosted.2 ∧
      ∃ containers, boosted.1 = visited ++ containers ∧
        containers.map (restoredContainer lib boosted.2) = toVisit := by
  induction toVisit generalizing visited annot with
  | nil => exact ⟨readable, [], by simp [boostContainers], rfl⟩
  | cons container rest ih =>
      obtain ⟨headFresh, restFresh⟩ := List.forall_mem_cons.mp fresh
      obtain ⟨headDistinct, restDistinct⟩ := List.nodup_cons.mp distinct
      let current := { pod with containers := visited ++ container :: rest }
      let next := handler.boostedContainer boost originalQosClass current visited.length container
      let annot' := handler.annotAfterTurn lib boost originalQosClass current visited.length
        container annot
      rw [boostContainers_step]
      obtain ⟨readable', containers, visitedAll, restored⟩ := ih (visited ++ [next]) annot'
        (handler.unrecorded_annotAfterTurn lib boost originalQosClass current _ headDistinct
          restFresh)
        restDistinct (handler.readable_annotAfterTurn lib boost originalQosClass current _ readable)
      -- The rest of the loop leaves the record of this container alone.
      have same := handler.boostContainers_unvisited lib boost originalQosClass pod
        (visited ++ [next]) rest annot' headDistinct
      rw [← handler.boostedContainer_name boost originalQosClass current visited.length] at same
      refine ⟨readable', next :: containers, ?_, ?_⟩
      · rw [visitedAll, List.append_assoc, List.singleton_append]
      · rw [List.map_cons, restored, restoredContainer_congr lib same]
        rw [handler.restoredContainer_annotAfterTurn lib boost originalQosClass current _ headFresh]

/-- Boosting a pod and reverting it gives the pod back. -/
theorem revertResourceBoost_boostContainerResources {now : Time} {pod : Pod}
    (distinct : (pod.containers.map Container.name).Nodup)
    (unlabelled : pod.labels.lookup boostLabelKey = none)
    (unannotated : pod.annotations.lookup boostAnnotationKey = none)
    (annotated : (handler.boostContainerResources lib now boost pod).annotations.lookup
      boostAnnotationKey ≠ none) :
    revertResourceBoost lib (handler.boostContainerResources lib now boost pod) =
      (pod, .ok ()) := by
  have loop := handler.boostContainers_restored lib boost
    (computePodQOS pod handler.podLevelResourcesEnabled) pod [] pod.containers (newBoostAnnot now)
    (fun _ _ => ⟨Finmap.lookup_empty _, Finmap.lookup_empty _⟩) distinct
    ⟨fun _ _ found => (nomatch found), fun _ _ found => (nomatch found)⟩
  simp only [boostContainerResources] at annotated ⊢
  generalize handler.boostContainers lib boost
    (computePodQOS pod handler.podLevelResourcesEnabled) pod [] pod.containers
    (newBoostAnnot now) = boosted at loop annotated ⊢
  obtain ⟨readable, containers, visitedAll, restored⟩ := loop
  rw [List.nil_append] at visitedAll
  by_cases recorded :
      boosted.2.initCPULimits.keys.card > 0 ∨ boosted.2.initCPURequests.keys.card > 0
  · have written : boostAnnotationFromPod lib
        { pod with
          containers := boosted.1
          annotations := pod.annotations.insert boostAnnotationKey (lib.marshalAnnot boosted.2)
          labels := pod.labels.insert boostLabelKey boost.name } = .ok boosted.2 := by
      simp only [boostAnnotationFromPod, Finmap.lookup_insert]
      exact lib.unmarshalAnnot_marshalAnnot boosted.2
    rw [if_pos recorded]
    unfold revertResourceBoost
    rw [revertBoostResources_of_readable lib written readable]
    simp only [revertBoostLabels, restoredPod, visitedAll, restored]
    rw [GoMap.erase_insert_of_lookup_none unlabelled,
      GoMap.erase_insert_of_lookup_none unannotated]
  · rw [if_neg recorded] at annotated
    exact absurd unannotated annotated

end PodCPUBoostHandler

namespace Reference

def plainPod : Pod where
  name := "web"
  ns := "default"
  uid := "1"
  labels := ∅
  annotations := ∅
  containers := [appContainer 1 2]

def doublingBoost : StartupCPUBoostImpl where
  name := "boost"
  ns := "default"
  selector := fun _ => true
  durationPolicies := ∅
  resourcePolicies :=
    (∅ : GoMap String ContainerPolicy).insert containerPolicyWildcard (.percentage 100)
  legacyRevertMode := false

theorem revertResourceBoost_plainPod :
    (PodCPUBoostHandler.boostContainerResources referenceLibrary ⟨true, false⟩ 0 doublingBoost
        plainPod).containers ≠ plainPod.containers ∧
      revertResourceBoost referenceLibrary
          (PodCPUBoostHandler.boostContainerResources referenceLibrary ⟨true, false⟩ 0
            doublingBoost plainPod) =
        (plainPod, .ok ()) :=
  ⟨by decide +kernel,
    PodCPUBoostHandler.revertResourceBoost_boostContainerResources referenceLibrary ⟨true, false⟩
      doublingBoost (by decide) (Finmap.lookup_empty _) (Finmap.lookup_empty _)
      (by decide +kernel)⟩

end Reference

end KubeStartupCPUBoost
