import KubeStartupCPUBoost.PodBoostWebhook

/-!
# Boosting and the quality of service class

The webhook skips a container whose new resources would change the class of
the pod.  It asks before it removes the CPU limit, so the removal can still
change the class: a pod whose only positive amounts are CPU limits that are
removed becomes best effort.

`computePodQOS_boostContainerResources_iff` says exactly when the class is
kept.  The proof follows the loop: as long as a later container still has a
positive amount the question is answered with yes, so the last such container
decides.
-/

namespace KubeStartupCPUBoost

/-- The policy that is applied to a container, if it is not skipped outright. -/
def eligiblePolicy (boost : StartupCPUBoostImpl) (container : Container) :
    Option ContainerPolicy :=
  match boost.resourcePolicy container.name with
  | none => none
  | some policy =>
      if resizeRequiresRestart resourceCPU container.resizePolicy then none
      else if !hasResourcesToIncrease container then none
      else some policy

/-- Resources without their CPU limit, if it is not zero. -/
def limitRemoved (resources : ResourceRequirements) : ResourceRequirements :=
  if cpuQuantity resources.limits ≠ 0 then
    { resources with limits := resources.limits.erase resourceCPU }
  else resources

/-- The resources of a container once it is boosted and its limit removed. -/
def afterBoost (boost : StartupCPUBoostImpl) (container : Container) : ResourceRequirements :=
  match eligiblePolicy boost container with
  | none => container.resources
  | some policy => limitRemoved (policy.newResources container)

@[simp]
theorem getQOSResources_erase (resources : ResourceList) :
    getQOSResources (resources.erase resourceCPU) =
      (getQOSResources resources).erase resourceCPU := by
  ext name
  simp only [mem_getQOSResources, Finset.mem_erase, GoMap.lookup_erase]
  split <;> simp_all

private theorem cpu_mem_getQOSResources {resources : ResourceList} :
    resourceCPU ∈ getQOSResources resources ↔ 0 < cpuQuantity resources := by
  rw [mem_getQOSResources, cpuQuantity]
  exact and_iff_right (by decide)

theorem memory_mem_getQOSResources {original updated : ResourceList}
    (change : CPUOnlyChange original updated) :
    resourceMemory ∈ getQOSResources updated ↔ resourceMemory ∈ getQOSResources original := by
  rw [mem_getQOSResources, mem_getQOSResources, change.1 resourceMemory (by decide)]

/-- Besides the amounts that stay, only the CPU limit can be positive. -/
theorem positive_iff_limitRemoved (resources : ResourceRequirements) :
    resources.Positive ↔
      (limitRemoved resources).Positive ∨ 0 < cpuQuantity resources.limits := by
  unfold limitRemoved
  by_cases nonzero : cpuQuantity resources.limits ≠ 0
  · rw [if_pos nonzero]
    simp only [ResourceRequirements.Positive, getQOSResources_erase, ← cpu_mem_getQOSResources,
      or_assoc]
    refine or_congr Iff.rfl ?_
    by_cases cpu : resourceCPU ∈ getQOSResources resources.limits
    · exact iff_of_true ⟨_, cpu⟩ (.inr cpu)
    · rw [Finset.erase_eq_of_notMem cpu, or_iff_left cpu]
  · rw [if_neg nonzero, not_not.mp nonzero, or_iff_left (lt_irrefl 0)]

theorem not_cpu_mem_limitRemoved {resources : ResourceRequirements}
    (nonzero : cpuQuantity resources.limits ≠ 0) :
    resourceCPU ∉ getQOSResources (limitRemoved resources).limits := by
  rw [limitRemoved, if_pos nonzero, getQOSResources_erase]
  exact Finset.notMem_erase _ _

theorem cpuOnlyChange_limitRemoved {original : ResourceList} {resources : ResourceRequirements}
    (change : CPUOnlyChange original resources.limits) :
    CPUOnlyChange original (limitRemoved resources).limits := by
  unfold limitRemoved
  split
  · exact change.erase
  · exact change

theorem resourcePolicy_of_eligiblePolicy {boost : StartupCPUBoostImpl} {container : Container}
    {policy : ContainerPolicy} (eligible : eligiblePolicy boost container = some policy) :
    boost.resourcePolicy container.name = some policy := by
  unfold eligiblePolicy at eligible
  cases found : boost.resourcePolicy container.name with
  | none =>
      rw [found] at eligible
      cases eligible
  | some candidate =>
      rw [found] at eligible
      simp only [Option.ite_none_left_eq_some] at eligible
      exact eligible.2.2

/-- No container of a list has a positive amount. -/
def NonePositive (containers : List Container) : Prop :=
  ∀ container ∈ containers, ¬ container.resources.Positive

@[simp]
theorem nonePositive_append {first second : List Container} :
    NonePositive (first ++ second) ↔ NonePositive first ∧ NonePositive second :=
  List.forall_mem_append

theorem nonePositive_cons {container : Container} {rest : List Container} :
    NonePositive (container :: rest) ↔
      ¬ container.resources.Positive ∧ NonePositive rest :=
  List.forall_mem_cons

/-- The policy of a container gives it a positive CPU limit. -/
def GetsLimit (boost : StartupCPUBoostImpl) (container : Container) : Prop :=
  ∃ policy, boost.resourcePolicy container.name = some policy ∧
    0 < cpuQuantity (policy.newResources container).limits

/-- The last container with a positive amount gets a positive CPU limit. -/
def LastPositiveGetsLimit (boost : StartupCPUBoostImpl) (containers : List Container) : Prop :=
  ∃ before container after, containers = before ++ container :: after ∧
    container.resources.Positive ∧ NonePositive after ∧ GetsLimit boost container

theorem lastPositiveGetsLimit_cons_of_later {boost : StartupCPUBoostImpl} {container : Container}
    {rest : List Container} (later : ¬ NonePositive rest) :
    LastPositiveGetsLimit boost (container :: rest) ↔ LastPositiveGetsLimit boost rest := by
  constructor
  · rintro ⟨before, last, after, split, positive, noneAfter, limit⟩
    cases before with
    | nil =>
        obtain ⟨rfl, rfl⟩ := List.cons.inj split
        exact absurd noneAfter later
    | cons head before =>
        obtain ⟨-, tails⟩ := List.cons.inj split
        exact ⟨before, last, after, tails, positive, noneAfter, limit⟩
  · rintro ⟨before, last, after, rfl, positive, noneAfter, limit⟩
    exact ⟨container :: before, last, after, rfl, positive, noneAfter, limit⟩

theorem lastPositiveGetsLimit_cons_of_last {boost : StartupCPUBoostImpl} {container : Container}
    {rest : List Container} (noneLater : NonePositive rest)
    (positive : container.resources.Positive) :
    LastPositiveGetsLimit boost (container :: rest) ↔ GetsLimit boost container := by
  constructor
  · rintro ⟨before, last, after, split, lastPositive, -, limit⟩
    cases before with
    | nil =>
        obtain ⟨rfl, -⟩ := List.cons.inj split
        exact limit
    | cons head before =>
        obtain ⟨-, rfl⟩ := List.cons.inj split
        exact absurd lastPositive (noneLater last (by simp))
  · intro limit
    exact ⟨[], container, rest, rfl, positive, noneLater, limit⟩

namespace PodCPUBoostHandler

variable (lib : Library) (handler : PodCPUBoostHandler) (boost : StartupCPUBoostImpl)
  (originalQosClass : PodQOSClass) (pod : Pod)

/-- The class of the pod with other containers. -/
def classWith (containers : List Container) : PodQOSClass :=
  computePodQOS { pod with containers } handler.podLevelResourcesEnabled

/-- What the webhook stores for a container whose resources it accepts. -/
def acceptedResources (resources : ResourceRequirements) : ResourceRequirements :=
  if handler.canRemoveLimit originalQosClass then limitRemoved resources else resources

theorem modify_visited (visited rest : List Container) (container : Container)
    (change : Container → Container) :
    (visited ++ container :: rest).modify visited.length change =
      visited ++ change container :: rest := by
  induction visited with
  | nil => rfl
  | cons head visited ih => exact congrArg (head :: ·) ih

theorem containerResizeChangesQosClass_iff (visited rest : List Container)
    (container : Container) (resources : ResourceRequirements) :
    handler.containerResizeChangesQosClass originalQosClass
        { pod with containers := visited ++ container :: rest } visited.length resources = true ↔
      handler.classWith pod (visited ++ { container with resources } :: rest) ≠
        originalQosClass := by
  simp only [containerResizeChangesQosClass, modify_visited, classWith, decide_eq_true_eq]

/-- A container is skipped, or judged by the class its new resources would
give and then accepted. -/
theorem boostedResources_eq (visited rest : List Container) (container : Container) :
    handler.boostedResources boost originalQosClass
        { pod with containers := visited ++ container :: rest } visited.length container =
      match eligiblePolicy boost container with
      | none => none
      | some policy =>
          if handler.classWith pod
              (visited ++ { container with resources := policy.newResources container } :: rest) =
            originalQosClass then
            some (handler.acceptedResources originalQosClass (policy.newResources container))
          else none := by
  unfold boostedResources eligiblePolicy
  cases boost.resourcePolicy container.name with
  | none => rfl
  | some policy =>
      simp only [containerResizeChangesQosClass_iff]
      split
      · rfl
      · split
        · rfl
        · simp only
          by_cases kept : handler.classWith pod
              (visited ++ { container with resources := policy.newResources container } :: rest) =
                originalQosClass
          · rw [if_neg (not_not.mpr kept), if_pos kept, acceptedResources, limitRemoved]
            by_cases removes : handler.canRemoveLimit originalQosClass = true
            · simp only [removes, and_true, if_true]
              split <;> rfl
            · simp [removes]
          · rw [if_pos kept, if_neg kept]

/-- One pass of the loop: the container is skipped outright, or skipped because
its new resources would change the class, or accepted. -/
theorem boostContainers_cons (visited rest : List Container) (container : Container)
    (annot : BoostPodAnnotation) :
    ∃ annot' resources,
      (handler.boostContainers lib boost originalQosClass pod visited (container :: rest)
          annot).1 =
        (handler.boostContainers lib boost originalQosClass pod
          (visited ++ [{ container with resources }]) rest annot').1 ∧
      ((eligiblePolicy boost container = none ∧ resources = container.resources) ∨
        ∃ policy, eligiblePolicy boost container = some policy ∧
          ((handler.classWith pod (visited ++
              { container with resources := policy.newResources container } :: rest) ≠
                originalQosClass ∧
            resources = container.resources) ∨
          (handler.classWith pod (visited ++
              { container with resources := policy.newResources container } :: rest) =
                originalQosClass ∧
            resources =
              handler.acceptedResources originalQosClass (policy.newResources container)))) := by
  simp only [boostContainers, boostedResources_eq]
  cases eligiblePolicy boost container with
  | none => exact ⟨_, container.resources, rfl, .inl ⟨rfl, rfl⟩⟩
  | some policy =>
      by_cases kept : handler.classWith pod (visited ++
          { container with resources := policy.newResources container } :: rest) =
            originalQosClass
      · simp only [if_pos kept]
        exact ⟨_, _, rfl, .inr ⟨policy, rfl, .inr ⟨kept, rfl⟩⟩⟩
      · simp only [if_neg kept]
        exact ⟨_, container.resources, rfl, .inr ⟨policy, rfl, .inl ⟨kept, rfl⟩⟩⟩

theorem classWith_boostContainers
    (removalKeeps : ∀ (visited rest : List Container) (container : Container) resources,
      handler.classWith pod (visited ++ { container with resources } :: rest) =
          originalQosClass →
        handler.classWith pod (visited ++ { container with
          resources := handler.acceptedResources originalQosClass resources } :: rest) =
          originalQosClass)
    (visited toVisit : List Container) (annot : BoostPodAnnotation)
    (initial : handler.classWith pod (visited ++ toVisit) = originalQosClass) :
    handler.classWith pod
        (handler.boostContainers lib boost originalQosClass pod visited toVisit annot).1 =
      originalQosClass := by
  induction toVisit generalizing visited annot with
  | nil => simpa [boostContainers] using initial
  | cons container rest ih =>
      obtain ⟨annot', resources, step, visit⟩ :=
        handler.boostContainers_cons lib boost originalQosClass pod visited rest container annot
      rw [step]
      apply ih
      rw [List.append_assoc, List.singleton_append]
      rcases visit with ⟨-, rfl⟩ | ⟨policy, -, ⟨-, rfl⟩ | ⟨kept, rfl⟩⟩
      · exact initial
      · exact initial
      · exact removalKeeps visited rest container _ kept

section Removal

variable {handler pod}
variable (byContainers : ClassifiedByContainers pod handler.podLevelResourcesEnabled)

include byContainers

theorem classWith_eq_bestEffort_iff (containers : List Container) :
    handler.classWith pod containers = .bestEffort ↔
      NonePositive containers ∧ NonePositive pod.initContainers := by
  rw [← nonePositive_append]
  exact computePodQOS_eq_bestEffort_iff
    (show ClassifiedByContainers { pod with containers } _ from byContainers)

theorem classWith_eq_burstable_iff {containers : List Container}
    (notGuaranteed : handler.classWith pod containers ≠ .guaranteed) :
    handler.classWith pod containers = .burstable ↔
      ¬ (NonePositive containers ∧ NonePositive pod.initContainers) := by
  rw [← classWith_eq_bestEffort_iff byContainers]
  cases class_ : handler.classWith pod containers with
  | guaranteed => exact absurd class_ notGuaranteed
  | burstable => simp
  | bestEffort => simp

theorem limits_of_classWith_eq_guaranteed {containers : List Container}
    (guaranteed : handler.classWith pod containers = .guaranteed) :
    ∀ container ∈ containers,
      {resourceMemory, resourceCPU} ⊆ getQOSResources container.resources.limits := by
  intro container member
  exact limits_of_computePodQOS_eq_guaranteed
    (show ClassifiedByContainers { pod with containers } _ from byContainers)
    guaranteed container (List.mem_append_left _ member)

/-- The class of a pod in which some container has no positive CPU limit is not
guaranteed. -/
theorem classWith_ne_guaranteed {visited rest : List Container} {container : Container}
    (noLimit : resourceCPU ∉ getQOSResources container.resources.limits) :
    handler.classWith pod (visited ++ container :: rest) ≠ .guaranteed := by
  intro guaranteed
  have limits := limits_of_classWith_eq_guaranteed byContainers guaranteed container (by simp)
  exact noLimit (limits (by simp))

/-- With the new resources of a container the class cannot be guaranteed if
its amounts besides the CPU limit are not positive: memory is not changed. -/
theorem classWith_newResources_ne_guaranteed {visited rest : List Container}
    {container : Container} {policy : ContainerPolicy}
    (notPositive : ¬ container.resources.Positive ∨
      ¬ (limitRemoved (policy.newResources container)).Positive) :
    handler.classWith pod
        (visited ++ { container with resources := policy.newResources container } :: rest) ≠
      .guaranteed := by
  intro guaranteed
  have limits := limits_of_classWith_eq_guaranteed byContainers guaranteed
    { container with resources := policy.newResources container } (by simp)
  have memory : resourceMemory ∈ getQOSResources (policy.newResources container).limits :=
    limits (by simp)
  have change := (cpuOnlyChange_newResources policy container).2
  rw [memory_mem_getQOSResources change] at memory
  rcases notPositive with original | removed
  · exact original (.inr ⟨_, memory⟩)
  · exact removed (.inr ⟨_,
      (memory_mem_getQOSResources (cpuOnlyChange_limitRemoved change)).mpr memory⟩)

theorem boostContainers_ne_guaranteed (removes : handler.canRemoveLimit .burstable = true)
    (visited toVisit : List Container) (annot : BoostPodAnnotation)
    (initial : handler.classWith pod (visited ++ toVisit) ≠ .guaranteed) :
    handler.classWith pod
        (handler.boostContainers lib boost .burstable pod visited toVisit annot).1 ≠
      .guaranteed := by
  induction toVisit generalizing visited annot with
  | nil => simpa [boostContainers] using initial
  | cons container rest ih =>
      obtain ⟨annot', resources, step, visit⟩ :=
        handler.boostContainers_cons lib boost .burstable pod visited rest container annot
      rw [step]
      apply ih
      rw [List.append_assoc, List.singleton_append]
      rcases visit with ⟨-, rfl⟩ | ⟨policy, -, ⟨-, rfl⟩ | ⟨kept, rfl⟩⟩
      · exact initial
      · exact initial
      · rw [acceptedResources, if_pos removes]
        by_cases zero : cpuQuantity (policy.newResources container).limits = 0
        · have same : limitRemoved (policy.newResources container) =
              policy.newResources container := if_neg (not_not.mpr zero)
          rw [same, kept]
          decide
        · exact classWith_ne_guaranteed byContainers (not_cpu_mem_limitRemoved zero)

/-- If nothing positive is left after the loop, nothing positive is left of
any container once it is boosted, whether or not the loop boosted it. -/
theorem afterBoost_of_nonePositive (removes : handler.canRemoveLimit .burstable = true)
    (visited toVisit : List Container) (annot : BoostPodAnnotation)
    (nonePositive : NonePositive
      (handler.boostContainers lib boost .burstable pod visited toVisit annot).1) :
    ∀ container ∈ toVisit, ¬ (afterBoost boost container).Positive := by
  induction toVisit generalizing visited annot with
  | nil => simp
  | cons container rest ih =>
      obtain ⟨annot', resources, step, visit⟩ :=
        handler.boostContainers_cons lib boost .burstable pod visited rest container annot
      rw [step] at nonePositive
      refine List.forall_mem_cons.mpr ⟨?_, ih _ _ nonePositive⟩
      obtain ⟨later, unchanged⟩ := handler.boostContainers_eq_append lib boost .burstable pod
        (visited ++ [{ container with resources }]) rest annot'
      rw [unchanged] at nonePositive
      have head : ¬ resources.Positive := nonePositive { container with resources } (by simp)
      unfold afterBoost
      rcases visit with ⟨skipped, rfl⟩ | ⟨policy, eligible, ⟨changes, rfl⟩ | ⟨-, rfl⟩⟩
      · rw [skipped]
        exact head
      · -- Skipped for the class: it would be best effort, as guaranteed needs memory.
        rw [eligible]
        have notGuaranteed : handler.classWith pod (visited ++
            { container with resources := policy.newResources container } :: rest) ≠
              .guaranteed :=
          classWith_newResources_ne_guaranteed byContainers (.inl head)
        rw [ne_eq, classWith_eq_burstable_iff byContainers notGuaranteed, not_not,
          nonePositive_append, nonePositive_cons] at changes
        exact fun positive => changes.1.2.1 ((positive_iff_limitRemoved _).mpr (.inl positive))
      · rw [eligible]
        rwa [acceptedResources, if_pos removes] at head

/-- When nothing positive is left besides the container to be boosted and the
ones after it, its new resources keep the class by their CPU limit or by a
later container. -/
theorem classWith_newResources_eq_burstable_iff {visited rest : List Container}
    {container : Container} {policy : ContainerPolicy}
    (initContainers : NonePositive pod.initContainers) (visitedNone : NonePositive visited)
    (accepted : ¬ (limitRemoved (policy.newResources container)).Positive) :
    handler.classWith pod
        (visited ++ { container with resources := policy.newResources container } :: rest) =
        .burstable ↔
      0 < cpuQuantity (policy.newResources container).limits ∨ ¬ NonePositive rest := by
  rw [classWith_eq_burstable_iff byContainers
      (classWith_newResources_ne_guaranteed byContainers (.inr accepted)),
    nonePositive_append, nonePositive_cons, positive_iff_limitRemoved]
  simp only [accepted, visitedNone, initContainers, true_and, and_true, false_or, not_and_or,
    not_not]

/-- Where nothing positive is left of a boosted container, the loop leaves
nothing positive behind exactly when there was nothing, or when the last
container that had something gets a CPU limit, and loses it again. -/
theorem nonePositive_boostContainers_iff (removes : handler.canRemoveLimit .burstable = true)
    (initContainers : NonePositive pod.initContainers) (visited toVisit : List Container)
    (annot : BoostPodAnnotation) (visitedNone : NonePositive visited)
    (afterNone : ∀ container ∈ toVisit, ¬ (afterBoost boost container).Positive) :
    NonePositive (handler.boostContainers lib boost .burstable pod visited toVisit annot).1 ↔
      NonePositive toVisit ∨ LastPositiveGetsLimit boost toVisit := by
  induction toVisit generalizing visited annot with
  | nil =>
      have nothing : NonePositive [] := fun _ member => (nomatch member)
      refine iff_of_true ?_ (.inl nothing)
      simpa [boostContainers] using visitedNone
  | cons container rest ih =>
      obtain ⟨headAfter, restAfter⟩ := List.forall_mem_cons.mp afterNone
      obtain ⟨annot', resources, step, visit⟩ :=
        handler.boostContainers_cons lib boost .burstable pod visited rest container annot
      rw [step]
      -- Once the head has nothing positive, the induction hypothesis applies.
      have visitedHead (headNone : ¬ resources.Positive) :
          NonePositive (visited ++ [{ container with resources }]) := by
        refine nonePositive_append.mpr ⟨visitedNone, ?_⟩
        intro other member
        rw [List.mem_singleton.mp member]
        exact headNone
      have continues (headNone : ¬ resources.Positive) :=
        ih (visited ++ [{ container with resources }]) annot' (visitedHead headNone) restAfter
      have accepted {policy : ContainerPolicy}
          (eligible : eligiblePolicy boost container = some policy) :
          ¬ (limitRemoved (policy.newResources container)).Positive := by
        rwa [afterBoost, eligible] at headAfter
      have stored {policy : ContainerPolicy}
          (eligible : eligiblePolicy boost container = some policy) :
          ¬ (handler.acceptedResources .burstable (policy.newResources container)).Positive := by
        rw [acceptedResources, if_pos removes]
        exact accepted eligible
      have judged {policy : ContainerPolicy}
          (eligible : eligiblePolicy boost container = some policy) :
          handler.classWith pod (visited ++
            { container with resources := policy.newResources container } :: rest) = .burstable ↔
            0 < cpuQuantity (policy.newResources container).limits ∨ ¬ NonePositive rest :=
        classWith_newResources_eq_burstable_iff byContainers initContainers visitedNone
          (accepted eligible)
      by_cases noneLater : NonePositive rest
      · by_cases positive : container.resources.Positive
        · -- The head is the last container with a positive amount.
          rw [lastPositiveGetsLimit_cons_of_last noneLater positive]
          have notNone : ¬ NonePositive (container :: rest) := fun none =>
            (nonePositive_cons.mp none).1 positive
          rw [or_iff_right notNone]
          rcases visit with ⟨skipped, -⟩ | ⟨policy, eligible, ⟨changes, rfl⟩ | ⟨kept, rfl⟩⟩
          · rw [afterBoost, skipped] at headAfter
            exact absurd positive headAfter
          · obtain ⟨later, unchanged⟩ := handler.boostContainers_eq_append lib boost .burstable pod
              (visited ++ [container]) rest annot'
            have headStays : ¬ NonePositive (handler.boostContainers lib boost .burstable pod
                (visited ++ [container]) rest annot').1 := by
              rw [unchanged]
              exact fun none => none container (by simp) positive
            refine iff_of_false headStays ?_
            rintro ⟨policy', found, limit⟩
            rw [resourcePolicy_of_eligiblePolicy eligible] at found
            obtain rfl := Option.some.inj found
            exact changes ((judged eligible).mpr (.inl limit))
          · have limit := ((judged eligible).mp kept).resolve_right (not_not.mpr noneLater)
            refine iff_of_true ((continues (stored eligible)).mpr (.inl noneLater)) ?_
            exact ⟨policy, resourcePolicy_of_eligiblePolicy eligible, limit⟩
        · have headNone : ¬ resources.Positive := by
            rcases visit with ⟨-, rfl⟩ | ⟨policy, eligible, ⟨-, rfl⟩ | ⟨-, rfl⟩⟩
            · exact positive
            · exact positive
            · exact stored eligible
          exact iff_of_true ((continues headNone).mpr (.inl noneLater))
            (.inl (nonePositive_cons.mpr ⟨positive, noneLater⟩))
      · -- A later container keeps the class, so the head is not skipped for it.
        have headNone : ¬ resources.Positive := by
          rcases visit with ⟨skipped, rfl⟩ | ⟨policy, eligible, ⟨changes, -⟩ | ⟨-, rfl⟩⟩
          · rwa [afterBoost, skipped] at headAfter
          · exact absurd ((judged eligible).mpr (.inr noneLater)) changes
          · exact stored eligible
        rw [continues headNone, lastPositiveGetsLimit_cons_of_later noneLater,
          or_iff_right noneLater, or_iff_right]
        exact fun none => noneLater (nonePositive_cons.mp none).2

end Removal

/-- Limits are removed from a pod classified by its containers, nothing
positive is left of any of them once it is boosted, and the last container with
a positive amount has a positive CPU limit until it is removed. -/
structure LosesQosClass : Prop where
  removeLimits : handler.removeLimits = true
  byContainers : ClassifiedByContainers pod handler.podLevelResourcesEnabled
  initContainers : NonePositive pod.initContainers
  boosted : ∀ container ∈ pod.containers, ¬ (afterBoost boost container).Positive
  lastLimit : LastPositiveGetsLimit boost pod.containers

theorem computePodQOS_boostContainerResources (now : Time) :
    computePodQOS (handler.boostContainerResources lib now boost pod)
        handler.podLevelResourcesEnabled =
      handler.classWith pod (handler.boostContainers lib boost
        (computePodQOS pod handler.podLevelResourcesEnabled) pod [] pod.containers
        (newBoostAnnot now)).1 := by
  simp only [boostContainerResources]
  split <;> rfl

/-- A guaranteed pod has memory limits, which stay positive when its containers
are boosted. -/
theorem afterBoost_positive_of_guaranteed {handler : PodCPUBoostHandler} {pod : Pod}
    (byContainers : ClassifiedByContainers pod handler.podLevelResourcesEnabled)
    (guaranteed : handler.classWith pod pod.containers = .guaranteed) {container : Container}
    (member : container ∈ pod.containers) : (afterBoost boost container).Positive := by
  have memory : resourceMemory ∈ getQOSResources container.resources.limits :=
    limits_of_classWith_eq_guaranteed byContainers guaranteed container member (by simp)
  unfold afterBoost
  cases eligiblePolicy boost container with
  | none => exact .inr ⟨_, memory⟩
  | some policy =>
      have change := cpuOnlyChange_limitRemoved (cpuOnlyChange_newResources policy container).2
      exact .inr ⟨_, (memory_mem_getQOSResources change).mpr memory⟩

theorem LosesQosClass.burstable {handler : PodCPUBoostHandler} {boost : StartupCPUBoostImpl}
    {pod : Pod} (loses : LosesQosClass handler boost pod) :
    handler.classWith pod pod.containers = .burstable := by
  obtain ⟨before, container, after, split, positive, -⟩ := loses.lastLimit
  have member : container ∈ pod.containers := by simp [split]
  have notGuaranteed : handler.classWith pod pod.containers ≠ .guaranteed := fun guaranteed =>
    loses.boosted container member
      (afterBoost_positive_of_guaranteed boost loses.byContainers guaranteed member)
  rw [classWith_eq_burstable_iff loses.byContainers notGuaranteed]
  exact fun none => none.1 container member positive

/-- The webhook keeps the class of a pod exactly when it does not remove the
last positive amount. -/
theorem computePodQOS_boostContainerResources_iff (now : Time) :
    computePodQOS (handler.boostContainerResources lib now boost pod)
        handler.podLevelResourcesEnabled =
      computePodQOS pod handler.podLevelResourcesEnabled ↔
        ¬ LosesQosClass handler boost pod := by
  have same : computePodQOS pod handler.podLevelResourcesEnabled =
      handler.classWith pod pod.containers := rfl
  rw [computePodQOS_boostContainerResources, same]
  by_cases byContainers : ClassifiedByContainers pod handler.podLevelResourcesEnabled
  · by_cases removes : handler.canRemoveLimit (handler.classWith pod pod.containers) = true
    · cases class_ : handler.classWith pod pod.containers with
      | guaranteed =>
          rw [class_] at removes
          simp [canRemoveLimit] at removes
      | bestEffort =>
          refine iff_of_true (handler.classWith_boostContainers lib boost .bestEffort pod
            ?_ [] pod.containers _ class_) fun loses => ?_
          · -- Nothing is positive, and removing a limit adds nothing.
            intro visited rest container resources kept
            rw [classWith_eq_bestEffort_iff byContainers, nonePositive_append, nonePositive_cons]
              at kept ⊢
            refine ⟨⟨kept.1.1, fun positive => kept.1.2.1 ?_, kept.1.2.2⟩, kept.2⟩
            unfold acceptedResources at positive
            split at positive
            · exact (positive_iff_limitRemoved resources).mpr (.inl positive)
            · exact positive
          · rw [loses.burstable] at class_
            cases class_
      | burstable =>
          rw [class_] at removes
          have notGuaranteed := boostContainers_ne_guaranteed lib boost byContainers removes []
            pod.containers (newBoostAnnot now) (by rw [List.nil_append, class_]; decide)
          rw [classWith_eq_burstable_iff byContainers notGuaranteed, not_iff_not]
          constructor
          · rintro ⟨noneLeft, initContainers⟩
            have afterNone :=
              afterBoost_of_nonePositive lib boost byContainers removes [] _ _ noneLeft
            have lastLimit := (nonePositive_boostContainers_iff lib boost byContainers removes
              initContainers [] _ _ (fun _ member => (nomatch member)) afterNone).mp noneLeft
            refine ⟨?_, byContainers, initContainers, afterNone,
              lastLimit.resolve_left fun none => ?_⟩
            · rw [canRemoveLimit, Bool.and_eq_true] at removes
              exact removes.1
            · rw [(classWith_eq_bestEffort_iff byContainers _).mpr ⟨none, initContainers⟩] at class_
              cases class_
          · intro loses
            exact ⟨(nonePositive_boostContainers_iff lib boost byContainers removes
              loses.initContainers [] _ _ (fun _ member => (nomatch member)) loses.boosted).mpr
                (.inr loses.lastLimit), loses.initContainers⟩
    · refine iff_of_true (handler.classWith_boostContainers lib boost _ pod
        ?_ [] pod.containers _ rfl) fun loses => ?_
      · intro visited rest container resources kept
        rwa [acceptedResources, if_neg removes]
      · rw [loses.burstable, canRemoveLimit, loses.removeLimits] at removes
        exact removes (by decide)
  · refine iff_of_true ?_ fun loses => byContainers loses.byContainers
    exact computePodQOS_containers byContainers _

end PodCPUBoostHandler

namespace Reference

/-- A pod whose container has a CPU request of zero and a CPU limit of 1. -/
def limitOnlyPod : Pod :=
  { plainPod with containers := [appContainer 0 1] }

/-- With limits removed, the pod goes from burstable to best effort. -/
theorem limitOnlyPod_loses_qosClass :
    (∀ container ∈ limitOnlyPod.containers,
      container.resources.limits.lookup resourceCPU ≠ none →
        container.resources.requests.lookup resourceCPU ≠ none) ∧
      computePodQOS limitOnlyPod false = .burstable ∧
      computePodQOS (PodCPUBoostHandler.boostContainerResources referenceLibrary ⟨true, false⟩ 0
        doublingBoost limitOnlyPod) false = .bestEffort := by
  decide +kernel

end Reference

end KubeStartupCPUBoost
