import KubeStartupCPUBoost.BoostValidation
import KubeStartupCPUBoost.PodBoostWebhook

/-!
# CPU requests and limits after a boost

A container's CPU request must not exceed its CPU limit.  The policies raise the
two independently of each other: a fixed policy may set a request and no limit, and
a percentage is added to 100 in machine arithmetic, which can turn the factor
negative.

`podAtTurn` is the pod after the first turns of the webhook's loop, and
`boostContainerResources_containers` says that the loop computes it;
`requestsWithinLimits_iff` says when the order of requests and limits is kept.
-/

namespace KubeStartupCPUBoost

/-- Where there are both, the CPU request is at most the CPU limit. -/
def RequestWithinLimit (resources : ResourceRequirements) : Prop :=
  ∀ request limit, resources.requests.lookup resourceCPU = some request →
    resources.limits.lookup resourceCPU = some limit → request ≤ limit

def RequestsWithinLimits (pod : Pod) : Prop :=
  ∀ container ∈ pod.containers, RequestWithinLimit container.resources

def raisedTo (target current : Quantity) : Quantity :=
  if target = 0 ∨ target < current then current else target

theorem lookup_setResource (resources : ResourceList) (target : Quantity) :
    (setResource resourceCPU resources target).lookup resourceCPU =
      (resources.lookup resourceCPU).map (raisedTo target) := by
  unfold setResource raisedTo
  by_cases unset : target = 0
  · simp [unset]
  · cases present : resources.lookup resourceCPU with
    | none => simp [unset, present]
    | some current =>
        by_cases lower : target < current
        · simp [unset, lower, present]
        · simp [unset, lower]

theorem lookup_increaseResource (incPerc : Int64) (resources : ResourceList) :
    (increaseResource incPerc resourceCPU resources).lookup resourceCPU =
      (resources.lookup resourceCPU).map (increaseQuantity · incPerc) := by
  unfold increaseResource
  cases present : resources.lookup resourceCPU with
  | none => simp [present]
  | some quantity => simp

theorem raisedTo_cases (target current : Quantity) :
    (raisedTo target current = current ∧ (target ≠ 0 → target ≤ current)) ∨
      (raisedTo target current = target ∧ target ≠ 0 ∧ current ≤ target) := by
  unfold raisedTo
  by_cases kept : target = 0 ∨ target < current
  · rw [if_pos kept]
    exact .inl ⟨rfl, fun given => (kept.resolve_left given).le⟩
  · rw [if_neg kept]
    exact .inr ⟨rfl, fun unset => kept (.inl unset), not_lt.mp fun lower => kept (.inr lower)⟩

/-- Rounded up to hundredths, one amount is below another if an integer lies between
them in hundredths. -/
theorem increaseQuantity_lt_iff (incPerc : Int64) (smaller larger : Quantity) :
    increaseQuantity smaller incPerc < increaseQuantity larger incPerc ↔
      ∃ hundredths : ℤ, smaller * (100 + incPerc).toInt ≤ hundredths ∧
        hundredths < larger * (100 + incPerc).toInt := by
  have inHundredths (quantity : Quantity) :
      quantity * (((100 + incPerc).toInt : ℚ) / 100) * 100 = quantity * (100 + incPerc).toInt := by
    ring
  unfold increaseQuantity
  rw [inHundredths, inHundredths, div_lt_div_iff_of_pos_right (by norm_num), Int.cast_lt]
  constructor
  · intro below
    exact ⟨⌈smaller * (100 + incPerc).toInt⌉, Int.le_ceil _, Int.lt_ceil.mp below⟩
  · rintro ⟨hundredths, above, below⟩
    exact (Int.ceil_le.mpr above).trans_lt (Int.lt_ceil.mpr below)

theorem increaseQuantity_mono {incPerc : Int64} (noOverflow : 0 ≤ (100 + incPerc).toInt)
    {smaller larger : Quantity} (ordered : smaller ≤ larger) :
    increaseQuantity smaller incPerc ≤ increaseQuantity larger incPerc := by
  have factor : (0 : ℚ) ≤ ((100 + incPerc).toInt : ℚ) / 100 := by
    have nonneg : (0 : ℚ) ≤ ((100 + incPerc).toInt : ℚ) := by exact_mod_cast noOverflow
    positivity
  have scaled : smaller * (((100 + incPerc).toInt : ℚ) / 100) * 100 ≤
      larger * (((100 + incPerc).toInt : ℚ) / 100) * 100 := by
    gcongr
  have rounded := Int.ceil_mono scaled
  unfold increaseQuantity
  gcongr

namespace ContainerPolicy

def newRequest (request : Quantity) : ContainerPolicy → Quantity
  | .fixed cpuRequests _ => raisedTo cpuRequests request
  | .percentage incPerc => increaseQuantity request incPerc

def newLimit (limit : Quantity) : ContainerPolicy → Quantity
  | .fixed _ cpuLimits => raisedTo cpuLimits limit
  | .percentage incPerc => increaseQuantity limit incPerc

/-- The policy puts a request above a limit that it was within: a fixed request above
the limit and the fixed limit, if there is one, or a percentage that overflows.  Times
the negative factor the limit is the smaller amount, and rounding keeps the two apart
if an integer lies between them. -/
def Overshoots (request limit : Quantity) : ContainerPolicy → Prop
  | .fixed cpuRequests cpuLimits =>
      cpuRequests ≠ 0 ∧ limit < cpuRequests ∧ (cpuLimits ≠ 0 → cpuLimits < cpuRequests)
  | .percentage incPerc =>
      (100 + incPerc).toInt < 0 ∧
        ∃ hundredths : ℤ, limit * (100 + incPerc).toInt ≤ hundredths ∧
          hundredths < request * (100 + incPerc).toInt

theorem lookup_newResources (policy : ContainerPolicy) (container : Container) :
    (policy.newResources container).requests.lookup resourceCPU =
        (container.resources.requests.lookup resourceCPU).map (policy.newRequest ·) ∧
      (policy.newResources container).limits.lookup resourceCPU =
        (container.resources.limits.lookup resourceCPU).map (policy.newLimit ·) := by
  cases policy with
  | fixed cpuRequests cpuLimits =>
      exact ⟨lookup_setResource _ _, lookup_setResource _ _⟩
  | percentage incPerc =>
      exact ⟨lookup_increaseResource _ _, lookup_increaseResource _ _⟩

theorem newLimit_lt_newRequest_iff (policy : ContainerPolicy) {request limit : Quantity}
    (ordered : request ≤ limit) :
    policy.newLimit limit < policy.newRequest request ↔ policy.Overshoots request limit := by
  cases policy with
  | fixed cpuRequests cpuLimits =>
      simp only [newLimit, newRequest, Overshoots]
      rcases raisedTo_cases cpuRequests request with
        ⟨request_eq, lower⟩ | ⟨request_eq, given, _⟩ <;>
      rcases raisedTo_cases cpuLimits limit with
        ⟨limit_eq, limitLower⟩ | ⟨limit_eq, limitGiven, limitRaised⟩ <;>
      rw [request_eq, limit_eq]
      · refine iff_of_false (not_lt.mpr ordered) ?_
        rintro ⟨given, above, _⟩
        exact absurd above (not_lt.mpr ((lower given).trans ordered))
      · refine iff_of_false (not_lt.mpr (ordered.trans limitRaised)) ?_
        rintro ⟨given, above, _⟩
        exact absurd above (not_lt.mpr ((lower given).trans ordered))
      · constructor
        · exact fun above =>
            ⟨given, above, fun limitGiven => (limitLower limitGiven).trans_lt above⟩
        · exact fun overshoots => overshoots.2.1
      · constructor
        · exact fun above => ⟨given, limitRaised.trans_lt above, fun _ => above⟩
        · exact fun overshoots => overshoots.2.2 limitGiven
  | percentage incPerc =>
      simp only [newLimit, newRequest, Overshoots]
      rw [← increaseQuantity_lt_iff]
      constructor
      · intro above
        refine ⟨not_le.mp fun noOverflow => ?_, above⟩
        exact absurd above (not_lt.mpr (increaseQuantity_mono noOverflow ordered))
      · exact fun overshoots => overshoots.2

end ContainerPolicy

namespace PodCPUBoostHandler

variable (lib : Library) (handler : PodCPUBoostHandler) (boost : StartupCPUBoostImpl) (pod : Pod)

/-- The pod as the loop finds it when it comes to a container: each container before it
has had its turn in the pod as it was then. -/
def podAtTurn : Nat → Pod
  | 0 => pod
  | position + 1 =>
      let current := podAtTurn position
      { pod with
        containers := current.containers.modify position (handler.boostedContainer boost
          (computePodQOS pod handler.podLevelResourcesEnabled) current position) }

theorem podAtTurn_eq (position : Nat) :
    handler.podAtTurn boost pod position =
      { pod with containers := (handler.podAtTurn boost pod position).containers } := by
  cases position with
  | zero => rfl
  | succ position => rfl

@[simp]
theorem podAtTurn_length (turns : Nat) :
    (handler.podAtTurn boost pod turns).containers.length = pod.containers.length := by
  induction turns with
  | zero => rfl
  | succ turns ih => rw [podAtTurn, List.length_modify, ih]

theorem podAtTurn_getElem? (turns position : Nat) :
    (handler.podAtTurn boost pod turns).containers[position]? =
      if position < turns then
        pod.containers[position]?.map (handler.boostedContainer boost
          (computePodQOS pod handler.podLevelResourcesEnabled)
          (handler.podAtTurn boost pod position) position)
      else pod.containers[position]? := by
  induction turns with
  | zero => rfl
  | succ turns ih =>
      rw [podAtTurn, List.getElem?_modify, ih]
      by_cases last : turns = position
      · subst last
        simp
      · by_cases before : position < turns
        · simp [last, before, Nat.lt_succ_of_lt before]
        · have after : ¬ position < turns + 1 := by omega
          simp [last, before, after]

section Loop

variable {pod} {visited rest : List Container} {container : Container}

/-- What the loop does at its next turn, in terms of the pod of that turn. -/
theorem boostContainers_turn (annot : BoostPodAnnotation)
    (reached : (handler.podAtTurn boost pod visited.length).containers =
      visited ++ container :: rest) :
    let originalQosClass := computePodQOS pod handler.podLevelResourcesEnabled
    let current := handler.podAtTurn boost pod visited.length
    handler.boostContainers lib boost originalQosClass pod visited (container :: rest) annot =
      handler.boostContainers lib boost originalQosClass pod
        (visited ++
          [handler.boostedContainer boost originalQosClass current visited.length container])
        rest
        (handler.annotAfterTurn lib boost originalQosClass current visited.length container
          annot) := by
  rw [podAtTurn_eq, reached]
  exact boostContainers_step ..

theorem podAtTurn_next
    (reached : (handler.podAtTurn boost pod visited.length).containers =
      visited ++ container :: rest) :
    (handler.podAtTurn boost pod (visited.length + 1)).containers =
      visited ++ [handler.boostedContainer boost
        (computePodQOS pod handler.podLevelResourcesEnabled)
        (handler.podAtTurn boost pod visited.length) visited.length container] ++ rest := by
  rw [podAtTurn, reached, List.modify_eq_take_cons_drop (by simp)]
  simp

theorem boostContainers_podAtTurn (visited toVisit : List Container) (annot : BoostPodAnnotation)
    (reached : (handler.podAtTurn boost pod visited.length).containers = visited ++ toVisit) :
    (handler.boostContainers lib boost (computePodQOS pod handler.podLevelResourcesEnabled) pod
        visited toVisit annot).1 =
      (handler.podAtTurn boost pod (visited.length + toVisit.length)).containers := by
  induction toVisit generalizing visited annot with
  | nil =>
      rw [boostContainers, List.length_nil, Nat.add_zero, reached, List.append_nil]
  | cons container rest ih =>
      rw [handler.boostContainers_turn lib boost annot reached, ih]
      · rw [List.length_append, List.length_singleton, List.length_cons, Nat.add_assoc,
          Nat.add_comm 1]
      · rw [List.length_append, List.length_singleton]
        exact handler.podAtTurn_next boost reached

end Loop

theorem boostContainerResources_containers (now : Time) :
    (handler.boostContainerResources lib now boost pod).containers =
      (handler.podAtTurn boost pod pod.containers.length).containers := by
  have loop := handler.boostContainers_podAtTurn lib boost [] pod.containers
    (newBoostAnnot now) rfl
  rw [List.length_nil, Nat.zero_add] at loop
  simp only [boostContainerResources]
  split
  · exact loop
  · exact loop

/-- Each container comes out as its turn leaves it. -/
theorem boostContainerResources_getElem? (now : Time) (position : Nat) :
    (handler.boostContainerResources lib now boost pod).containers[position]? =
      pod.containers[position]?.map (handler.boostedContainer boost
        (computePodQOS pod handler.podLevelResourcesEnabled)
        (handler.podAtTurn boost pod position) position) := by
  rw [boostContainerResources_containers, podAtTurn_getElem?]
  by_cases inRange : position < pod.containers.length
  · rw [if_pos inRange]
  · rw [if_neg inRange, List.getElem?_eq_none (not_lt.mp inRange)]
    rfl

/-- The container has a policy, can be resized in place, has CPU to increase and
keeps the class of the pod as it is when its turn comes. -/
def BoostedAtTurn (position : Nat) (container : Container) : Prop :=
  ∃ policy, boost.resourcePolicy container.name = some policy ∧
    resizeRequiresRestart resourceCPU container.resizePolicy = false ∧
    (cpuQuantity container.resources.requests ≠ 0 ∨ cpuQuantity container.resources.limits ≠ 0) ∧
    handler.containerResizeChangesQosClass (computePodQOS pod handler.podLevelResourcesEnabled)
      (handler.podAtTurn boost pod position) position (policy.newResources container) = false

theorem hasResourcesToIncrease_iff (container : Container) :
    hasResourcesToIncrease container = true ↔
      cpuQuantity container.resources.requests ≠ 0 ∨
        cpuQuantity container.resources.limits ≠ 0 := by
  simp [hasResourcesToIncrease]

/-- The new resources of a container at its turn, or nothing when it is skipped. -/
def resourcesAtTurn (position : Nat) (container : Container) : Option ResourceRequirements :=
  handler.boostedResources boost (computePodQOS pod handler.podLevelResourcesEnabled)
    (handler.podAtTurn boost pod position) position container

theorem exists_resourcesAtTurn_iff (position : Nat) (container : Container) :
    (∃ resources, handler.resourcesAtTurn boost pod position container = some resources) ↔
      handler.BoostedAtTurn boost pod position container := by
  unfold resourcesAtTurn boostedResources BoostedAtTurn
  cases boost.resourcePolicy container.name with
  | none => simp
  | some policy =>
      simp only [Option.some.injEq, exists_eq_left', ← hasResourcesToIncrease_iff]
      cases resizeRequiresRestart resourceCPU container.resizePolicy with
      | true => simp
      | false =>
          cases hasResourcesToIncrease container with
          | false => simp
          | true =>
              cases handler.containerResizeChangesQosClass
                  (computePodQOS pod handler.podLevelResourcesEnabled)
                  (handler.podAtTurn boost pod position) position
                  (policy.newResources container) with
              | true => simp
              | false =>
                  refine iff_of_true ?_ ⟨rfl, rfl, rfl⟩
                  simp only [Bool.false_eq_true, if_false, Bool.not_true]
                  split
                  · exact ⟨_, rfl⟩
                  · exact ⟨_, rfl⟩

/-- A container is boosted at its turn, keeps a CPU limit, and has a policy that puts its
request above it.  A limit is kept if none may be removed, or if it is zero. -/
def BoostOvershoots : Prop :=
  ∃ position container policy request limit,
    pod.containers[position]? = some container ∧
    handler.BoostedAtTurn boost pod position container ∧
    boost.resourcePolicy container.name = some policy ∧
    container.resources.requests.lookup resourceCPU = some request ∧
    container.resources.limits.lookup resourceCPU = some limit ∧
    (handler.canRemoveLimit (computePodQOS pod handler.podLevelResourcesEnabled) = true →
      policy.newLimit limit = 0) ∧
    policy.Overshoots request limit

variable {handler boost}

theorem lookup_requests_boostedResources {originalQosClass : PodQOSClass} {current : Pod}
    {containerIdx : Nat} {container : Container} {resources : ResourceRequirements}
    {policy : ContainerPolicy} (found : boost.resourcePolicy container.name = some policy)
    (boosted : handler.boostedResources boost originalQosClass current containerIdx container =
      some resources) :
    resources.requests.lookup resourceCPU =
      (container.resources.requests.lookup resourceCPU).map (policy.newRequest ·) := by
  obtain ⟨policy', found', requests, -⟩ := boostedResources_some boosted
  obtain rfl : policy = policy' := Option.some.inj (found.symm.trans found')
  rw [requests, (policy.lookup_newResources container).1]

theorem lookup_limits_boostedResources {originalQosClass : PodQOSClass} {current : Pod}
    {containerIdx : Nat} {container : Container} {resources : ResourceRequirements}
    {policy : ContainerPolicy} (found : boost.resourcePolicy container.name = some policy)
    (boosted : handler.boostedResources boost originalQosClass current containerIdx container =
      some resources) (newLimit : Quantity) :
    resources.limits.lookup resourceCPU = some newLimit ↔
      ∃ limit, container.resources.limits.lookup resourceCPU = some limit ∧
        policy.newLimit limit = newLimit ∧
        (handler.canRemoveLimit originalQosClass = true → newLimit = 0) := by
  obtain ⟨policy', found', -, limits⟩ := boostedResources_some boosted
  obtain rfl : policy = policy' := Option.some.inj (found.symm.trans found')
  have newLimits := (policy.lookup_newResources container).2
  rw [limits, cpuQuantity, newLimits]
  cases hasLimit : container.resources.limits.lookup resourceCPU with
  | none =>
      rw [if_neg (by simp), newLimits, hasLimit]
      simp
  | some limit =>
      simp only [Option.map_some, Option.getD_some, Option.some.injEq, exists_eq_left']
      by_cases removed : policy.newLimit limit ≠ 0 ∧ handler.canRemoveLimit originalQosClass
      · rw [if_pos removed, Finmap.lookup_erase]
        refine iff_of_false (by simp) ?_
        rintro ⟨rfl, keepsLimit⟩
        exact removed.1 (keepsLimit removed.2)
      · rw [if_neg removed, newLimits, hasLimit, Option.map_some, Option.some.injEq]
        refine (and_iff_left_of_imp ?_).symm
        rintro rfl removes
        exact not_not.mp fun nonzero => removed ⟨nonzero, removes⟩

/-- Requests stay within limits exactly when no boosted container that keeps its limit
has a policy that overshoots. -/
theorem requestsWithinLimits_iff (now : Time) (ordered : RequestsWithinLimits pod) :
    RequestsWithinLimits (handler.boostContainerResources lib now boost pod) ↔
      ¬ handler.BoostOvershoots boost pod := by
  have each := handler.boostContainerResources_getElem? lib boost pod now
  constructor
  · rintro within ⟨position, container, policy, request, limit, present, atTurn, found, hasRequest,
      hasLimit, keepsLimit, overshoots⟩
    obtain ⟨resources, boosted⟩ :=
      (handler.exists_resourcesAtTurn_iff boost pod position container).mpr atTurn
    have result := each position
    rw [present, Option.map_some, boostedContainer, ← resourcesAtTurn, boosted] at result
    have newRequest := lookup_requests_boostedResources found boosted
    rw [hasRequest] at newRequest
    have newLimit := (lookup_limits_boostedResources found boosted _).mpr
      ⟨limit, hasLimit, rfl, keepsLimit⟩
    have original := ordered container (List.mem_of_getElem? present) request limit hasRequest
      hasLimit
    have le := within _ (List.mem_of_getElem? result) _ _ newRequest newLimit
    exact absurd ((policy.newLimit_lt_newRequest_iff original).mpr overshoots) (not_lt.mpr le)
  · intro noOvershoot boostedOne member newRequest newLimit hasNewRequest hasNewLimit
    obtain ⟨position, result⟩ := List.getElem?_of_mem member
    rw [each position] at result
    obtain ⟨container, present, rfl⟩ := Option.map_eq_some_iff.mp result
    have original := ordered container (List.mem_of_getElem? present)
    rw [boostedContainer, ← resourcesAtTurn] at hasNewRequest hasNewLimit
    cases turn : handler.resourcesAtTurn boost pod position container with
    | none =>
        rw [turn] at hasNewRequest hasNewLimit
        exact original _ _ hasNewRequest hasNewLimit
    | some resources =>
        rw [turn] at hasNewRequest hasNewLimit
        have atTurn := (handler.exists_resourcesAtTurn_iff boost pod position container).mp
          ⟨resources, turn⟩
        obtain ⟨policy, found, -⟩ := boostedResources_some turn
        rw [lookup_requests_boostedResources found turn] at hasNewRequest
        obtain ⟨request, hasRequest, rfl⟩ := Option.map_eq_some_iff.mp hasNewRequest
        obtain ⟨limit, hasLimit, rfl, keepsLimit⟩ :=
          (lookup_limits_boostedResources found turn newLimit).mp hasNewLimit
        refine not_lt.mp fun above => noOvershoot ⟨position, container, policy, request, limit,
          present, atTurn, found, hasRequest, hasLimit, keepsLimit, ?_⟩
        exact (policy.newLimit_lt_newRequest_iff (original _ _ hasRequest hasLimit)).mp above

end PodCPUBoostHandler

namespace Reference

def requestOnlyBoost : StartupCPUBoost where
  name := "boost"
  ns := "default"
  selector := everything
  spec :=
    { containerPolicies := [⟨"app", none, some ⟨4, 0⟩⟩]
      durationPolicy := ⟨some ⟨.seconds, 60⟩, none⟩ }

def requestOnlyImpl : StartupCPUBoostImpl where
  name := "boost"
  ns := "default"
  selector := everything.selects
  durationPolicies := mapDurationPolicy requestOnlyBoost.spec.durationPolicy
  resourcePolicies := (∅ : GoMap String ContainerPolicy).insert "app" (.fixed 4 0)
  legacyRevertMode := false

theorem requestsWithinLimits_plainPod : RequestsWithinLimits plainPod := by
  intro container member request limit hasRequest hasLimit
  obtain rfl := List.mem_singleton.mp member
  obtain rfl : (1 : Quantity) = request := Option.some.inj hasRequest
  obtain rfl : (2 : Quantity) = limit := Option.some.inj hasLimit
  decide

theorem requestsWithinLimits_iff_plainPod :
    RequestsWithinLimits (PodCPUBoostHandler.boostContainerResources referenceLibrary ⟨false, false⟩
      0 doublingBoost plainPod) := by
  refine (PodCPUBoostHandler.requestsWithinLimits_iff referenceLibrary plainPod 0
    requestsWithinLimits_plainPod).mpr ?_
  rintro ⟨position, container, policy, request, limit, present, -, found, -, -, -, overshoots⟩
  obtain rfl := List.mem_singleton.mp (List.mem_of_getElem? present)
  have doubled : doublingBoost.resourcePolicy "app" = some (.percentage 100) := by decide +kernel
  obtain rfl := Option.some.inj (doubled.symm.trans found)
  exact absurd overshoots.1 (by decide)

/-- The boost is admitted and built.  The webhook raises the container's CPU request to 4
and leaves its CPU limit of 2. -/
theorem fixed_request_exceeds_limit :
    validate requestOnlyBoost = .ok () ∧
      newStartupCPUBoost referenceLibrary requestOnlyBoost false = .ok requestOnlyImpl ∧
      RequestsWithinLimits plainPod ∧
      ∃ container ∈ (PodCPUBoostHandler.boostContainerResources referenceLibrary ⟨false, false⟩ 0
          requestOnlyImpl plainPod).containers,
        container.resources.requests.lookup resourceCPU = some 4 ∧
          container.resources.limits.lookup resourceCPU = some 2 := by
  refine ⟨by decide, ?_, requestsWithinLimits_plainPod, appContainer 4 2, ?_, ?_, ?_⟩
  · exact newStartupCPUBoost_of_mapped referenceLibrary wellFormed_everything rfl
  · decide +kernel
  · decide +kernel
  · decide +kernel

end Reference

end KubeStartupCPUBoost
