import KubeStartupCPUBoost.PodQosClass
import Mathlib.Algebra.Order.BigOperators.Group.List
import Mathlib.Algebra.Order.Ring.Rat

/-!
# The quality of service class by its definition

A class is defined container by container: best effort if nothing has a
positive amount, guaranteed if every container has positive CPU and memory
limits and requests equal to them.  The computation compares totals instead,
collected in loops over maps that visit their entries in any order.

`computePodQOSIn` has the orders of all these loops as arguments, and none of
them matters.  `classByDefinition_computePodQOSIn` says that the totals give
the class of the definition wherever requests stay within limits: unequal
containers cannot cancel out.
-/

namespace KubeStartupCPUBoost

/-- The orders of the loops over maps, for the container at each position. -/
structure QosOrders where
  requests : Nat → RangeOrder String
  limits : Nat → RangeOrder String
  podLimits : RangeOrder String
  totals : RangeOrder String

def addEntry (newList list : ResourceList) (name : String) : ResourceList :=
  if name ∉ supportedQoSComputeResources then list else addQuantity newList list name

def processResourceListIn (order : RangeOrder String) (list newList : ResourceList) :
    ResourceList :=
  (order.list newList.keys).foldl (addEntry newList) list

def addQosResource (list : ResourceList) (found : Finset String) (name : String) :
    Finset String :=
  if name ∉ supportedQoSComputeResources then found
  else if 0 < (list.lookup name).getD 0 then insert name found else found

def getQOSResourcesIn (order : RangeOrder String) (list : ResourceList) : Finset String :=
  (order.list list.keys).foldl (addQosResource list) ∅

def addContainerIn (orders : QosOrders) (totals : QosTotals) (visited : Container × Nat) :
    QosTotals where
  requests := processResourceListIn (orders.requests visited.2) totals.requests
    visited.1.resources.requests
  limits := processResourceListIn (orders.limits visited.2) totals.limits
    visited.1.resources.limits
  isGuaranteed := totals.isGuaranteed &&
    decide ({resourceMemory, resourceCPU} ⊆
      getQOSResourcesIn (orders.limits visited.2) visited.1.resources.limits)

def podLevelTotalsIn (orders : QosOrders) (resources : ResourceRequirements) : QosTotals where
  requests := processResourceListIn (orders.requests 0) ∅ resources.requests
  limits := processResourceListIn (orders.limits 0) ∅ resources.limits
  isGuaranteed := decide (resources.limits = ∅) ||
    decide ({resourceMemory, resourceCPU} ⊆ getQOSResourcesIn orders.podLimits resources.limits)

/-- The last loop ends at the first request that differs from its limit. -/
def QosTotals.qosClassIn (order : RangeOrder String) (totals : QosTotals) : PodQOSClass :=
  if totals.requests = ∅ ∧ totals.limits = ∅ then .bestEffort
  else
    let isGuaranteed := totals.isGuaranteed &&
      (order.list totals.requests.keys).all fun name =>
        totals.limits.lookup name = totals.requests.lookup name
    if isGuaranteed ∧ totals.requests.keys.card = totals.limits.keys.card then .guaranteed
    else .burstable

def qosTotalsIn (orders : QosOrders) (pod : Pod) (podLevelResourcesEnabled : Bool) : QosTotals :=
  match podLevelResourcesEnabled, pod.resources with
  | true, some resources => podLevelTotalsIn orders resources
  | _, _ => (pod.containers ++ pod.initContainers).zipIdx.foldl (addContainerIn orders) {}

def computePodQOSIn (orders : QosOrders) (pod : Pod) (podLevelResourcesEnabled : Bool) :
    PodQOSClass :=
  (qosTotalsIn orders pod podLevelResourcesEnabled).qosClassIn orders.totals

def addedTotal (quantity total : Option Quantity) : Option Quantity :=
  match quantity with
  | none => total
  | some quantity => if 0 < quantity then some (quantity + total.getD 0) else total

private theorem lookup_addQuantity (newList list : ResourceList) (name other : String) :
    (addQuantity newList list name).lookup other =
      if other = name then addedTotal (newList.lookup name) (list.lookup name)
      else list.lookup other := by
  unfold addQuantity
  by_cases same : other = name
  · subst same
    rw [if_pos rfl]
    cases newList.lookup other with
    | none => rfl
    | some quantity =>
        simp only [addedTotal]
        split
        · cases list.lookup other <;> simp
        · rfl
  · rw [if_neg same]
    cases newList.lookup name with
    | none => rfl
    | some quantity =>
        dsimp only
        split
        · cases list.lookup name <;> rw [Finmap.lookup_insert_of_ne _ same]
        · rfl

/-- Each entry only touches the total of its own resource. -/
theorem lookup_foldl_addEntry {names : List String} (nodup : names.Nodup)
    (newList list : ResourceList) (name : String) :
    (names.foldl (addEntry newList) list).lookup name =
      if name ∈ names ∧ name ∈ supportedQoSComputeResources then
        addedTotal (newList.lookup name) (list.lookup name)
      else list.lookup name := by
  induction names generalizing list with
  | nil => simp
  | cons first names ih =>
      obtain ⟨notLater, nodupLater⟩ := List.nodup_cons.mp nodup
      rw [List.foldl_cons, ih nodupLater]
      by_cases same : name = first
      · subst same
        by_cases supported : name ∈ supportedQoSComputeResources
        · simp [notLater, supported, addEntry, lookup_addQuantity]
        · simp [supported, addEntry]
      · have unchanged : (addEntry newList list first).lookup name = list.lookup name := by
          unfold addEntry
          split
          · rfl
          · rw [lookup_addQuantity, if_neg same]
        simp [unchanged, same]

theorem lookup_processResourceList (list newList : ResourceList) (name : String) :
    (processResourceList list newList).lookup name =
      if name ∈ supportedQoSComputeResources then
        addedTotal (newList.lookup name) (list.lookup name)
      else list.lookup name := by
  have asEntries : processResourceList list newList =
      supportedQoSComputeResources.foldl (addEntry newList) list := by
    simp [processResourceList, addEntry, supportedQoSComputeResources]
  simp only [asEntries, lookup_foldl_addEntry (show supportedQoSComputeResources.Nodup by decide),
    and_self]

@[simp]
theorem processResourceListIn_eq (order : RangeOrder String) (list newList : ResourceList) :
    processResourceListIn order list newList = processResourceList list newList := by
  apply Finmap.ext_lookup
  intro name
  simp only [processResourceListIn, lookup_foldl_addEntry (order.nodup _),
    lookup_processResourceList, order.mem_list]
  by_cases present : name ∈ newList.keys
  · simp [present]
  · have absent : newList.lookup name = none := by
      rwa [Finmap.mem_keys, ← Finmap.lookup_eq_none] at present
    simp [present, absent, addedTotal]

private theorem addQosResource_eq (list : ResourceList) (found : Finset String) (name : String) :
    addQosResource list found name =
      if name ∈ getQOSResources list then insert name found else found := by
  simp only [addQosResource, mem_getQOSResources]
  by_cases supported : name ∈ supportedQoSComputeResources <;> simp [supported]

private theorem mem_foldl_addQosResource (list : ResourceList) (names : List String)
    (found : Finset String) (name : String) :
    name ∈ names.foldl (addQosResource list) found ↔
      name ∈ found ∨ (name ∈ names ∧ name ∈ getQOSResources list) := by
  induction names generalizing found with
  | nil => simp
  | cons first names ih =>
      rw [List.foldl_cons, ih, addQosResource_eq, List.mem_cons]
      by_cases positive : first ∈ getQOSResources list
      · rw [if_pos positive, Finset.mem_insert]
        constructor
        · rintro ((rfl | old) | later)
          · exact .inr ⟨.inl rfl, positive⟩
          · exact .inl old
          · exact .inr ⟨.inr later.1, later.2⟩
        · rintro (old | ⟨rfl | later, isPositive⟩)
          · exact .inl (.inr old)
          · exact .inl (.inl rfl)
          · exact .inr ⟨later, isPositive⟩
      · rw [if_neg positive]
        constructor
        · rintro (old | later)
          · exact .inl old
          · exact .inr ⟨.inr later.1, later.2⟩
        · rintro (old | ⟨rfl | later, isPositive⟩)
          · exact .inl old
          · exact absurd isPositive positive
          · exact .inr ⟨later, isPositive⟩

@[simp]
theorem getQOSResourcesIn_eq (order : RangeOrder String) (list : ResourceList) :
    getQOSResourcesIn order list = getQOSResources list := by
  ext name
  rw [getQOSResourcesIn, mem_foldl_addQosResource, order.mem_list]
  have present : name ∈ getQOSResources list → name ∈ list.keys := by
    intro member
    have positive := (mem_getQOSResources.mp member).2
    rw [GoMap.mem_keys_iff]
    cases found : list.lookup name with
    | none =>
        rw [found, Option.getD_none] at positive
        exact absurd positive (lt_irrefl _)
    | some quantity => exact ⟨quantity, rfl⟩
  simp only [Finset.notMem_empty, false_or]
  exact and_iff_right_of_imp present

private theorem addContainerIn_eq (orders : QosOrders) (totals : QosTotals)
    (visited : Container × Nat) :
    addContainerIn orders totals visited = addContainer totals visited.1 := by
  simp only [addContainerIn, addContainer, processResourceListIn_eq, getQOSResourcesIn_eq]

private theorem foldl_addContainerIn_eq (orders : QosOrders) (containers : List (Container × Nat))
    (totals : QosTotals) :
    containers.foldl (addContainerIn orders) totals =
      (containers.map Prod.fst).foldl addContainer totals := by
  induction containers generalizing totals with
  | nil => rfl
  | cons visited containers ih =>
      rw [List.foldl_cons, ih, addContainerIn_eq, List.map_cons, List.foldl_cons]

private theorem podLevelTotalsIn_eq (orders : QosOrders) (resources : ResourceRequirements) :
    podLevelTotalsIn orders resources = podLevelTotals resources := by
  simp only [podLevelTotalsIn, podLevelTotals, processResourceListIn_eq, getQOSResourcesIn_eq]

@[simp]
theorem QosTotals.qosClassIn_eq (order : RangeOrder String) (totals : QosTotals) :
    totals.qosClassIn order = totals.qosClass := by
  unfold qosClassIn qosClass
  simp only [Bool.and_eq_true, List.all_eq_true, decide_eq_true_eq, order.mem_list, and_assoc]

private theorem qosTotalsIn_eq (orders : QosOrders) (pod : Pod) (podLevelResourcesEnabled : Bool) :
    qosTotalsIn orders pod podLevelResourcesEnabled =
      qosTotals pod podLevelResourcesEnabled := by
  have byContainers : (pod.containers ++ pod.initContainers).zipIdx.foldl (addContainerIn orders)
      {} = (pod.containers ++ pod.initContainers).foldl addContainer {} := by
    rw [foldl_addContainerIn_eq, List.zipIdx_map_fst]
  cases podLevelResourcesEnabled with
  | false => exact byContainers
  | true =>
      unfold qosTotalsIn qosTotals
      cases pod.resources with
      | none => exact byContainers
      | some resources => exact podLevelTotalsIn_eq orders resources

@[simp]
theorem computePodQOSIn_eq (orders : QosOrders) (pod : Pod) (podLevelResourcesEnabled : Bool) :
    computePodQOSIn orders pod podLevelResourcesEnabled =
      computePodQOS pod podLevelResourcesEnabled := by
  rw [computePodQOSIn, computePodQOS, qosTotalsIn_eq, QosTotals.qosClassIn_eq]

def amount (list : ResourceList) (name : String) : Quantity :=
  (list.lookup name).getD 0

/-- Some CPU or memory request or limit is positive. -/
def ResourceRequirements.AsksForSomething (resources : ResourceRequirements) : Prop :=
  ∃ name ∈ supportedQoSComputeResources,
    0 < amount resources.requests name ∨ 0 < amount resources.limits name

/-- CPU and memory have positive limits and requests equal to them. -/
def ResourceRequirements.Guaranteed (resources : ResourceRequirements) : Prop :=
  ∀ name ∈ supportedQoSComputeResources,
    0 < amount resources.limits name ∧
      amount resources.requests name = amount resources.limits name

/-- No CPU or memory request is above a positive limit. -/
def ResourceRequirements.WithinLimits (resources : ResourceRequirements) : Prop :=
  ∀ name ∈ supportedQoSComputeResources, 0 < amount resources.limits name →
    amount resources.requests name ≤ amount resources.limits name

instance (resources : ResourceRequirements) : Decidable resources.AsksForSomething :=
  inferInstanceAs (Decidable (∃ name ∈ supportedQoSComputeResources, _))

instance (resources : ResourceRequirements) : Decidable resources.Guaranteed :=
  inferInstanceAs (Decidable (∀ name ∈ supportedQoSComputeResources, _))

instance (resources : ResourceRequirements) : Decidable resources.WithinLimits :=
  inferInstanceAs (Decidable (∀ name ∈ supportedQoSComputeResources, _))

/-- What the class is computed from: the pod-level resources, taken as the only
container, if they are enabled and given, else all containers. -/
def judgedContainers (pod : Pod) (podLevelResourcesEnabled : Bool) : List Container :=
  match podLevelResourcesEnabled, pod.resources with
  | true, some resources => [{ name := "", resources }]
  | _, _ => pod.containers ++ pod.initContainers

theorem positive_iff_asksForSomething (resources : ResourceRequirements) :
    resources.Positive ↔ resources.AsksForSomething := by
  simp only [ResourceRequirements.Positive, ResourceRequirements.AsksForSomething,
    Finset.Nonempty, mem_getQOSResources, amount, ← exists_or, and_or_left]

theorem QosTotals.qosClass_of_no_limits {totals : QosTotals} (noLimits : totals.limits = ∅) :
    totals.qosClass = if totals.requests = ∅ then .bestEffort else .burstable := by
  unfold qosClass
  by_cases noRequests : totals.requests = ∅
  · rw [if_pos ⟨noRequests, noLimits⟩, if_pos noRequests]
  · have moreRequests : totals.requests.keys.card ≠ totals.limits.keys.card := by
      rw [noLimits, Finmap.keys_empty, Finset.card_empty, ne_eq, Finset.card_eq_zero,
        ← empty_iff_keys]
      exact noRequests
    rw [if_neg (fun empty => noRequests empty.1), if_neg (fun equal => moreRequests equal.2.2),
      if_neg noRequests]

/-- Without limits the pod-level branch keeps the mark of a guaranteed pod, but
then the numbers of requests and limits differ, so the class is the same. -/
private theorem qosClass_podLevelTotals (container : Container) :
    (podLevelTotals container.resources).qosClass = (addContainer {} container).qosClass := by
  by_cases noLimits : container.resources.limits = ∅
  · have limits : processResourceList ∅ container.resources.limits = ∅ := by
      rw [noLimits]
      decide +kernel
    have addedLimits : (addContainer {} container).limits = ∅ := limits
    rw [QosTotals.qosClass_of_no_limits limits, QosTotals.qosClass_of_no_limits addedLimits]
    rfl
  · simp only [QosTotals.qosClass, podLevelTotals, addContainer, noLimits, decide_false,
      Bool.false_or, Bool.true_and]

theorem computePodQOS_eq_judged (pod : Pod) (podLevelResourcesEnabled : Bool) :
    computePodQOS pod podLevelResourcesEnabled =
      ((judgedContainers pod podLevelResourcesEnabled).foldl addContainer {}).qosClass := by
  rw [computePodQOS]
  cases podLevelResourcesEnabled with
  | false => rfl
  | true =>
      unfold qosTotals judgedContainers
      cases pod.resources with
      | none => rfl
      | some resources => exact qosClass_podLevelTotals { name := "", resources }

def collect (part : Container → ResourceList) (containers : List Container)
    (list : ResourceList) : ResourceList :=
  containers.foldl (fun list container => processResourceList list (part container)) list

theorem requests_foldl_addContainer (containers : List Container) (totals : QosTotals) :
    (containers.foldl addContainer totals).requests =
      collect (·.resources.requests) containers totals.requests := by
  induction containers generalizing totals with
  | nil => rfl
  | cons container containers ih => exact ih (addContainer totals container)

theorem limits_foldl_addContainer (containers : List Container) (totals : QosTotals) :
    (containers.foldl addContainer totals).limits =
      collect (·.resources.limits) containers totals.limits := by
  induction containers generalizing totals with
  | nil => rfl
  | cons container containers ih => exact ih (addContainer totals container)

section Collect

variable {part : Container → ResourceList} {containers : List Container}

private theorem amount_processResourceList {list newList : ResourceList} {name : String}
    (supported : name ∈ supportedQoSComputeResources) :
    amount (processResourceList list newList) name =
      amount list name + max 0 (amount newList name) := by
  rw [amount, lookup_processResourceList, if_pos supported]
  unfold amount addedTotal
  cases newList.lookup name with
  | none => simp
  | some quantity =>
      by_cases positive : 0 < quantity
      · simp [positive, max_eq_right positive.le, add_comm]
      · simp [positive, max_eq_left (not_lt.mp positive)]

theorem amount_collect {name : String} (supported : name ∈ supportedQoSComputeResources)
    (list : ResourceList) :
    amount (collect part containers list) name =
      amount list name +
        (containers.map fun container => max 0 (amount (part container) name)).sum := by
  induction containers generalizing list with
  | nil => simp [collect]
  | cons container containers ih =>
      calc amount (collect part (container :: containers) list) name
          = amount (processResourceList list (part container)) name +
              (containers.map fun container => max 0 (amount (part container) name)).sum :=
            ih (processResourceList list (part container))
        _ = _ := by
            rw [amount_processResourceList supported, List.map_cons, List.sum_cons, add_assoc]

theorem mem_keys_collect {name : String} {list : ResourceList} :
    name ∈ (collect part containers list).keys ↔
      name ∈ list.keys ∨ ∃ container ∈ containers, name ∈ getQOSResources (part container) := by
  induction containers generalizing list with
  | nil => simp [collect]
  | cons container containers ih =>
      have step : name ∈ (collect part (container :: containers) list).keys ↔
          name ∈ (processResourceList list (part container)).keys ∨
            ∃ container ∈ containers, name ∈ getQOSResources (part container) := ih
      rw [step, keys_processResourceList, Finset.mem_union, List.exists_mem_cons_iff, or_assoc]

end Collect

theorem lookup_eq_of_amount_eq {list other : ResourceList} {name : String}
    (inList : name ∈ list.keys) (inOther : name ∈ other.keys)
    (equal : amount list name = amount other name) : list.lookup name = other.lookup name := by
  obtain ⟨quantity, found⟩ := GoMap.mem_keys_iff.mp inList
  obtain ⟨otherQuantity, otherFound⟩ := GoMap.mem_keys_iff.mp inOther
  rw [amount, amount, found, otherFound] at equal
  rw [found, otherFound]
  exact congrArg some equal

private theorem amounts_eq_of_sum_eq {containers : List Container} {name : String}
    (supported : name ∈ supportedQoSComputeResources)
    (within : ∀ container ∈ containers, container.resources.WithinLimits)
    (limited : ∀ container ∈ containers, 0 < amount container.resources.limits name)
    (equal : amount (collect (·.resources.requests) containers ∅) name =
      amount (collect (·.resources.limits) containers ∅) name) :
    ∀ container ∈ containers,
      amount container.resources.requests name = amount container.resources.limits name := by
  rw [amount_collect supported, amount_collect supported, add_left_cancel_iff] at equal
  have ordered : ∀ container ∈ containers,
      max 0 (amount container.resources.requests name) ≤
        max 0 (amount container.resources.limits name) := fun container member =>
    max_le_max_left 0 (within container member name supported (limited container member))
  intro container member
  have positive := limited container member
  have partsEqual : max 0 (amount container.resources.requests name) =
      max 0 (amount container.resources.limits name) := by
    by_contra different
    have lower := lt_of_le_of_ne (ordered container member) different
    exact absurd equal (List.sum_lt_sum _ _ ordered ⟨container, member, lower⟩).ne
  rw [max_eq_right positive.le] at partsEqual
  rcases max_choice 0 (amount container.resources.requests name) with isZero | isRequest
  · rw [← partsEqual, isZero] at positive
    exact absurd positive (lt_irrefl 0)
  · rw [← isRequest, partsEqual]

theorem guaranteed_limits_iff {resources : ResourceRequirements} :
    {resourceMemory, resourceCPU} ⊆ getQOSResources resources.limits ↔
      ∀ name ∈ supportedQoSComputeResources, 0 < amount resources.limits name := by
  simp [Finset.insert_subset_iff, mem_getQOSResources, supportedQoSComputeResources, amount,
    and_comm]

section Judged

variable {containers : List Container}

theorem qosClass_foldl_eq_bestEffort_iff :
    (containers.foldl addContainer {}).qosClass = .bestEffort ↔
      ∀ container ∈ containers, ¬ container.resources.AsksForSomething := by
  rw [QosTotals.qosClass_eq_bestEffort_iff, foldl_addContainer_empty_iff,
    and_iff_right ⟨rfl, rfl⟩]
  simp only [positive_iff_asksForSomething]

theorem guaranteed_of_totals (within : ∀ container ∈ containers, container.resources.WithinLimits)
    (guaranteed : (containers.foldl addContainer {}).qosClass = .guaranteed) :
    ∀ container ∈ containers, container.resources.Guaranteed := by
  obtain ⟨-, marked, lookups, cards⟩ := (QosTotals.qosClass_eq_guaranteed_iff _).mp guaranteed
  rw [requests_foldl_addContainer, limits_foldl_addContainer] at lookups cards
  have limited : ∀ container ∈ containers, ∀ name ∈ supportedQoSComputeResources,
      0 < amount container.resources.limits name := fun container member =>
    guaranteed_limits_iff.mp (((isGuaranteed_foldl_addContainer _ _).mp marked).2 container member)
  -- Every request has its limit and there are as many limits, so each limit has its request.
  have keysEqual : (collect (·.resources.requests) containers ∅).keys =
      (collect (·.resources.limits) containers ∅).keys := by
    apply Finset.eq_of_subset_of_card_le
    · intro name requested
      rw [GoMap.mem_keys_iff]
      rw [lookups name requested]
      exact GoMap.mem_keys_iff.mp requested
    · exact cards.ge
  intro container member name supported
  refine ⟨limited container member name supported, ?_⟩
  have hasLimit : name ∈ (collect (·.resources.limits) containers ∅).keys :=
    mem_keys_collect.mpr (.inr ⟨container, member,
      mem_getQOSResources.mpr ⟨supported, limited container member name supported⟩⟩)
  have totalsEqual : amount (collect (·.resources.requests) containers ∅) name =
      amount (collect (·.resources.limits) containers ∅) name := by
    rw [amount, amount, lookups name (keysEqual ▸ hasLimit)]
  exact amounts_eq_of_sum_eq supported within
    (fun container member => limited container member name supported) totalsEqual container member

private theorem totals_of_guaranteed (nonempty : containers ≠ [])
    (guaranteed : ∀ container ∈ containers, container.resources.Guaranteed) :
    (containers.foldl addContainer {}).qosClass = .guaranteed := by
  have sameResources : ∀ container ∈ containers,
      getQOSResources container.resources.requests =
        getQOSResources container.resources.limits := by
    intro container member
    ext name
    rw [mem_getQOSResources, mem_getQOSResources]
    refine and_congr_right fun supported => ?_
    exact iff_of_eq (congrArg (0 < ·) (guaranteed container member name supported).2)
  have keysEqual : (collect (·.resources.requests) containers ∅).keys =
      (collect (·.resources.limits) containers ∅).keys := by
    ext name
    rw [mem_keys_collect, mem_keys_collect]
    refine or_congr_right (exists_congr fun container => and_congr_right fun member => ?_)
    rw [sameResources container member]
  rw [QosTotals.qosClass_eq_guaranteed_iff, foldl_addContainer_empty_iff,
    isGuaranteed_foldl_addContainer, requests_foldl_addContainer, limits_foldl_addContainer]
  refine ⟨?_, ⟨rfl, ?_⟩, ?_, by rw [keysEqual]⟩
  · rintro ⟨-, nothing⟩
    obtain ⟨container, member⟩ := List.exists_mem_of_ne_nil containers nonempty
    refine nothing container member ((positive_iff_asksForSomething _).mpr ?_)
    have supported : resourceCPU ∈ supportedQoSComputeResources := by decide
    exact ⟨resourceCPU, supported, .inr (guaranteed container member resourceCPU supported).1⟩
  · intro container member
    exact guaranteed_limits_iff.mpr fun name supported =>
      (guaranteed container member name supported).1
  · intro name requested
    have supported : name ∈ supportedQoSComputeResources := by
      rcases mem_keys_collect.mp requested with inEmpty | ⟨container, -, positive⟩
      · rw [Finmap.keys_empty] at inEmpty
        exact absurd inEmpty (Finset.notMem_empty name)
      · exact (mem_getQOSResources.mp positive).1
    refine lookup_eq_of_amount_eq (keysEqual ▸ requested) requested ?_
    rw [amount_collect supported, amount_collect supported, add_left_cancel_iff]
    refine congrArg List.sum (List.map_congr_left fun container member => ?_)
    rw [(guaranteed container member name supported).2]

private theorem qosClass_foldl_eq_guaranteed_iff
    (within : ∀ container ∈ containers, container.resources.WithinLimits) :
    (containers.foldl addContainer {}).qosClass = .guaranteed ↔
      containers ≠ [] ∧ ∀ container ∈ containers, container.resources.Guaranteed := by
  constructor
  · intro guaranteed
    refine ⟨?_, guaranteed_of_totals within guaranteed⟩
    rintro rfl
    exact absurd guaranteed (by decide +kernel)
  · rintro ⟨nonempty, guaranteed⟩
    exact totals_of_guaranteed nonempty guaranteed

end Judged

/-- The class of the definition: what it is, container by container. -/
structure ClassByDefinition (containers : List Container) (qosClass : PodQOSClass) : Prop where
  bestEffort : qosClass = .bestEffort ↔
    ∀ container ∈ containers, ¬ container.resources.AsksForSomething
  guaranteed : qosClass = .guaranteed ↔
    containers ≠ [] ∧ ∀ container ∈ containers, container.resources.Guaranteed
  burstable : qosClass = .burstable ↔
    ¬ (∀ container ∈ containers, ¬ container.resources.AsksForSomething) ∧
      ¬ (containers ≠ [] ∧ ∀ container ∈ containers, container.resources.Guaranteed)

theorem ClassByDefinition.of_perm {containers reordered : List Container} {qosClass : PodQOSClass}
    (sameContainers : reordered.Perm containers)
    (classified : ClassByDefinition reordered qosClass) :
    ClassByDefinition containers qosClass := by
  obtain ⟨bestEffort, guaranteed, burstable⟩ := classified
  have sameEmpty : reordered ≠ [] ↔ containers ≠ [] := by
    rw [← List.length_pos_iff, sameContainers.length_eq, List.length_pos_iff]
  simp only [sameContainers.mem_iff, sameEmpty] at bestEffort guaranteed burstable
  exact ⟨bestEffort, guaranteed, burstable⟩

private theorem classByDefinition_foldl {containers : List Container}
    (within : ∀ container ∈ containers, container.resources.WithinLimits) :
    ClassByDefinition containers (containers.foldl addContainer {}).qosClass where
  bestEffort := qosClass_foldl_eq_bestEffort_iff
  guaranteed := qosClass_foldl_eq_guaranteed_iff within
  burstable := by
    rw [← qosClass_foldl_eq_bestEffort_iff, ← qosClass_foldl_eq_guaranteed_iff within]
    cases (containers.foldl addContainer {}).qosClass <;> decide

/-- The totals give the class of the definition, in whatever order containers
and maps are visited. -/
theorem classByDefinition_computePodQOSIn {pod : Pod} {podLevelResourcesEnabled : Bool}
    (within : ∀ container ∈ judgedContainers pod podLevelResourcesEnabled,
      container.resources.WithinLimits)
    {reordered : Pod}
    (sameContainers : (judgedContainers reordered podLevelResourcesEnabled).Perm
      (judgedContainers pod podLevelResourcesEnabled))
    (orders : QosOrders) :
    ClassByDefinition (judgedContainers pod podLevelResourcesEnabled)
      (computePodQOSIn orders reordered podLevelResourcesEnabled) := by
  rw [computePodQOSIn_eq, computePodQOS_eq_judged]
  apply ClassByDefinition.of_perm sameContainers
  apply classByDefinition_foldl
  intro container member
  exact within container (sameContainers.mem_iff.mp member)

namespace Reference

def sizedContainer (name : String) (cpu memory : Quantity) : Container where
  name := name
  resources :=
    { requests := ((∅ : ResourceList).insert resourceCPU cpu).insert resourceMemory memory
      limits := ((∅ : ResourceList).insert resourceCPU cpu).insert resourceMemory memory }

def sizedPod (containers : List Container) : Pod where
  name := "web"
  ns := "default"
  uid := "1"
  labels := ∅
  annotations := ∅
  containers := containers

/-- Two containers of different sizes, visited in the other order with memory first. -/
theorem classByDefinition_sizedPod :
    computePodQOSIn
        ⟨fun _ => .startingWith resourceMemory, fun _ => .startingWith resourceMemory,
          .arbitrary, .startingWith resourceMemory⟩
        (sizedPod [sizedContainer "proxy" 2 64, sizedContainer "app" 1 32]) false =
      .guaranteed := by
  let pod := sizedPod [sizedContainer "app" 1 32, sizedContainer "proxy" 2 64]
  have within : ∀ container ∈ judgedContainers pod false, container.resources.WithinLimits := by
    decide +kernel
  have swapped : (judgedContainers (sizedPod [sizedContainer "proxy" 2 64,
      sizedContainer "app" 1 32]) false).Perm (judgedContainers pod false) := List.Perm.swap _ _ []
  refine (classByDefinition_computePodQOSIn within swapped _).guaranteed.mpr ⟨?_, ?_⟩
  · decide +kernel
  · decide +kernel

end Reference

end KubeStartupCPUBoost
