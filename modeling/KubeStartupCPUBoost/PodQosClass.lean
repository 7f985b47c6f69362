import KubeStartupCPUBoost.KubernetesPod

/-!
# The quality of service class of a pod

The class is computed from the positive CPU and memory amounts of a pod: from
its pod-level resources if these are enabled and given, else from all its
containers and init containers.

The class of a pod without pod-level resources is characterised by which
amounts are positive: it is best effort when none is, and guaranteed only when
every container has a positive CPU and memory limit.
-/

namespace KubeStartupCPUBoost

inductive PodQOSClass where
  | guaranteed
  | burstable
  | bestEffort
deriving DecidableEq

def supportedQoSComputeResources : List String := [resourceCPU, resourceMemory]

def addQuantity (newList list : ResourceList) (name : String) : ResourceList :=
  match newList.lookup name with
  | none => list
  | some quantity =>
      if 0 < quantity then
        match list.lookup name with
        | none => list.insert name quantity
        | some total => list.insert name (quantity + total)
      else list

/-- Add the positive amounts of the supported resources.  Each resource only
touches its own total, so the order of the loop does not matter. -/
def processResourceList (list newList : ResourceList) : ResourceList :=
  supportedQoSComputeResources.foldl (addQuantity newList) list

def getQOSResources (list : ResourceList) : Finset String :=
  supportedQoSComputeResources.toFinset.filter fun name =>
    0 < (list.lookup name).getD 0

/-- The sums collected so far, and whether the pod can still be guaranteed. -/
structure QosTotals where
  requests : ResourceList := ∅
  limits : ResourceList := ∅
  isGuaranteed : Bool := true

def addContainer (totals : QosTotals) (container : Container) : QosTotals where
  requests := processResourceList totals.requests container.resources.requests
  limits := processResourceList totals.limits container.resources.limits
  isGuaranteed := totals.isGuaranteed &&
    decide ({resourceMemory, resourceCPU} ⊆ getQOSResources container.resources.limits)

def podLevelTotals (resources : ResourceRequirements) : QosTotals where
  requests := processResourceList ∅ resources.requests
  limits := processResourceList ∅ resources.limits
  isGuaranteed := decide (resources.limits = ∅) ||
    decide ({resourceMemory, resourceCPU} ⊆ getQOSResources resources.limits)

def QosTotals.qosClass (totals : QosTotals) : PodQOSClass :=
  if totals.requests = ∅ ∧ totals.limits = ∅ then .bestEffort
  else if totals.isGuaranteed ∧
      (∀ name ∈ totals.requests.keys, totals.limits.lookup name = totals.requests.lookup name) ∧
      totals.requests.keys.card = totals.limits.keys.card then
    .guaranteed
  else .burstable

def qosTotals (pod : Pod) (podLevelResourcesEnabled : Bool) : QosTotals :=
  match podLevelResourcesEnabled, pod.resources with
  | true, some resources => podLevelTotals resources
  | _, _ => (pod.containers ++ pod.initContainers).foldl addContainer {}

def computePodQOS (pod : Pod) (podLevelResourcesEnabled : Bool) : PodQOSClass :=
  (qosTotals pod podLevelResourcesEnabled).qosClass

theorem mem_getQOSResources {list : ResourceList} {name : String} :
    name ∈ getQOSResources list ↔
      name ∈ supportedQoSComputeResources ∧ 0 < (list.lookup name).getD 0 := by
  rw [getQOSResources, Finset.mem_filter, List.mem_toFinset]

private theorem keys_addQuantity (newList list : ResourceList) (name other : String) :
    other ∈ (addQuantity newList list name).keys ↔
      other ∈ list.keys ∨ (other = name ∧ 0 < (newList.lookup name).getD 0) := by
  unfold addQuantity
  cases found : newList.lookup name with
  | none => simp
  | some quantity =>
      by_cases positive : 0 < quantity
      · simp only [if_pos positive]
        cases list.lookup name <;>
          simp [positive, Finmap.mem_keys, Finmap.mem_insert, or_comm]
      · simp [positive]

/-- A total exists for what had one before and for what is positive. -/
theorem keys_processResourceList (list newList : ResourceList) :
    (processResourceList list newList).keys = list.keys ∪ getQOSResources newList := by
  ext name
  rw [Finset.mem_union, mem_getQOSResources]
  simp only [processResourceList, supportedQoSComputeResources, List.foldl_cons, List.foldl_nil,
    keys_addQuantity, List.mem_cons, List.not_mem_nil, or_false]
  constructor
  · rintro ((old | ⟨rfl, positive⟩) | ⟨rfl, positive⟩)
    · exact .inl old
    · exact .inr ⟨.inl rfl, positive⟩
    · exact .inr ⟨.inr rfl, positive⟩
  · rintro (old | ⟨rfl | rfl, positive⟩)
    · exact .inl (.inl old)
    · exact .inl (.inr ⟨rfl, positive⟩)
    · exact .inr ⟨rfl, positive⟩

/-- Some CPU or memory amount is positive. -/
def ResourceRequirements.Positive (resources : ResourceRequirements) : Prop :=
  (getQOSResources resources.requests).Nonempty ∨ (getQOSResources resources.limits).Nonempty

instance (resources : ResourceRequirements) : Decidable resources.Positive :=
  inferInstanceAs (Decidable (_ ∨ _))

theorem empty_iff_keys {list : ResourceList} : list = ∅ ↔ list.keys = ∅ := by
  constructor
  · rintro rfl
    exact Finmap.keys_empty
  · intro empty
    apply Finmap.ext_lookup
    intro name
    rw [Finmap.lookup_empty, Finmap.lookup_eq_none, ← Finmap.mem_keys, empty]
    exact Finset.notMem_empty name

/-- The totals of a list of containers are empty when they were and no
container has a positive amount. -/
theorem foldl_addContainer_empty_iff (containers : List Container) (totals : QosTotals) :
    ((containers.foldl addContainer totals).requests = ∅ ∧
        (containers.foldl addContainer totals).limits = ∅) ↔
      (totals.requests = ∅ ∧ totals.limits = ∅) ∧
        ∀ container ∈ containers, ¬ container.resources.Positive := by
  induction containers generalizing totals with
  | nil => simp
  | cons container containers ih =>
      have step : ((addContainer totals container).requests = ∅ ∧
          (addContainer totals container).limits = ∅) ↔
            (totals.requests = ∅ ∧ totals.limits = ∅) ∧ ¬ container.resources.Positive := by
        simp only [addContainer, ResourceRequirements.Positive, empty_iff_keys,
          keys_processResourceList, Finset.union_eq_empty, Finset.not_nonempty_iff_eq_empty,
          not_or]
        tauto
      rw [List.foldl_cons, ih, step, List.forall_mem_cons]
      tauto

theorem isGuaranteed_foldl_addContainer (containers : List Container) (totals : QosTotals) :
    (containers.foldl addContainer totals).isGuaranteed = true ↔
      totals.isGuaranteed = true ∧ ∀ container ∈ containers,
        {resourceMemory, resourceCPU} ⊆ getQOSResources container.resources.limits := by
  induction containers generalizing totals with
  | nil => simp
  | cons container containers ih =>
      rw [List.foldl_cons, ih, List.forall_mem_cons, addContainer]
      simp only [Bool.and_eq_true, decide_eq_true_eq]
      tauto

theorem QosTotals.qosClass_eq_bestEffort_iff (totals : QosTotals) :
    totals.qosClass = .bestEffort ↔ totals.requests = ∅ ∧ totals.limits = ∅ := by
  unfold qosClass
  by_cases empty : totals.requests = ∅ ∧ totals.limits = ∅
  · rw [if_pos empty]
    exact iff_of_true rfl empty
  · rw [if_neg empty]
    split <;> exact iff_of_false (by decide) empty

theorem QosTotals.qosClass_eq_guaranteed_iff (totals : QosTotals) :
    totals.qosClass = .guaranteed ↔
      ¬ (totals.requests = ∅ ∧ totals.limits = ∅) ∧ totals.isGuaranteed ∧
        (∀ name ∈ totals.requests.keys,
          totals.limits.lookup name = totals.requests.lookup name) ∧
        totals.requests.keys.card = totals.limits.keys.card := by
  unfold qosClass
  by_cases empty : totals.requests = ∅ ∧ totals.limits = ∅
  · rw [if_pos empty]
    exact iff_of_false (by decide) (fun guaranteed => guaranteed.1 empty)
  · rw [if_neg empty, and_iff_right empty]
    simp

/-- The class is computed from the containers, not from pod-level resources. -/
def ClassifiedByContainers (pod : Pod) (podLevelResourcesEnabled : Bool) : Prop :=
  podLevelResourcesEnabled = false ∨ pod.resources = none

theorem qosTotals_of_classifiedByContainers {pod : Pod} {podLevelResourcesEnabled : Bool}
    (byContainers : ClassifiedByContainers pod podLevelResourcesEnabled) :
    qosTotals pod podLevelResourcesEnabled =
      (pod.containers ++ pod.initContainers).foldl addContainer {} := by
  unfold qosTotals
  rcases byContainers with disabled | absent
  · rw [disabled]
  · rw [absent]
    cases podLevelResourcesEnabled <;> rfl

/-- With pod-level resources the containers do not matter. -/
theorem computePodQOS_containers {pod : Pod} {podLevelResourcesEnabled : Bool}
    (byPod : ¬ ClassifiedByContainers pod podLevelResourcesEnabled) (containers : List Container) :
    computePodQOS { pod with containers } podLevelResourcesEnabled =
      computePodQOS pod podLevelResourcesEnabled := by
  obtain ⟨enabled, given⟩ := not_or.mp byPod
  rw [Bool.not_eq_false] at enabled
  obtain ⟨resources, given⟩ := Option.ne_none_iff_exists'.mp given
  simp [computePodQOS, qosTotals, enabled, given]

theorem computePodQOS_eq_bestEffort_iff {pod : Pod} {podLevelResourcesEnabled : Bool}
    (byContainers : ClassifiedByContainers pod podLevelResourcesEnabled) :
    computePodQOS pod podLevelResourcesEnabled = .bestEffort ↔
      ∀ container ∈ pod.containers ++ pod.initContainers, ¬ container.resources.Positive := by
  rw [computePodQOS, qosTotals_of_classifiedByContainers byContainers,
    QosTotals.qosClass_eq_bestEffort_iff, foldl_addContainer_empty_iff, and_iff_right ⟨rfl, rfl⟩]

/-- Every container of a guaranteed pod has a positive CPU and memory limit. -/
theorem limits_of_computePodQOS_eq_guaranteed {pod : Pod} {podLevelResourcesEnabled : Bool}
    (byContainers : ClassifiedByContainers pod podLevelResourcesEnabled)
    (guaranteed : computePodQOS pod podLevelResourcesEnabled = .guaranteed) :
    ∀ container ∈ pod.containers ++ pod.initContainers,
      {resourceMemory, resourceCPU} ⊆ getQOSResources container.resources.limits := by
  rw [computePodQOS, qosTotals_of_classifiedByContainers byContainers,
    QosTotals.qosClass_eq_guaranteed_iff] at guaranteed
  obtain ⟨-, isGuaranteed, -⟩ := guaranteed
  exact ((isGuaranteed_foldl_addContainer _ _).mp isGuaranteed).2

end KubeStartupCPUBoost
