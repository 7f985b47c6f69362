import KubeStartupCPUBoost.KubernetesPod
import Mathlib.Data.Rat.Floor

/-!
# Duration and resource policies

The specification of a boost as the user writes it, the duration and resource
policies it is mapped to, and what these policies compute.  The percentage and
the length of a fixed duration are 64-bit integers, whose sums and products
wrap.
-/

namespace KubeStartupCPUBoost

inductive FixedDurationPolicyUnit where
  | seconds
  | minutes
deriving DecidableEq

structure FixedDurationPolicySpec where
  unit : FixedDurationPolicyUnit
  value : Int64
deriving DecidableEq

structure PodConditionDurationPolicySpec where
  type : String
  status : String
deriving DecidableEq

structure DurationPolicySpec where
  fixed : Option FixedDurationPolicySpec
  podCondition : Option PodConditionDurationPolicySpec
deriving DecidableEq

/-- A limit that is not given is zero. -/
structure FixedResources where
  requests : Quantity
  limits : Quantity
deriving DecidableEq

structure PercentageIncrease where
  value : Int64
deriving DecidableEq

structure ContainerPolicySpec where
  containerName : String
  percentageIncrease : Option PercentageIncrease
  fixedResources : Option FixedResources
deriving DecidableEq

structure StartupCPUBoostSpec where
  containerPolicies : List ContainerPolicySpec
  durationPolicy : DurationPolicySpec
deriving DecidableEq

/-- The custom resource. -/
structure StartupCPUBoost where
  name : String
  ns : String
  labels : StringMap := ∅
  annotations : StringMap := ∅
  selector : LabelSelector
  spec : StartupCPUBoostSpec
deriving DecidableEq

def containerPolicyWildcard : String := "*"

def fixedDurationPolicyName : String := "FixedDuration"

def podConditionPolicyName : String := "PodCondition"

inductive DurationPolicy where
  | fixed (duration : Int64)
  | podCondition (condition status : String)
deriving DecidableEq

def fixedDurationValid (duration : Int64) (now : Time) : List PodCondition → Bool
  | [] => true
  | condition :: rest =>
      if condition.type = "PodScheduled" ∧ condition.status = "True" then
        now < condition.lastTransitionTime + duration.toInt
      else fixedDurationValid duration now rest

def podConditionValid (type status : String) : List PodCondition → Bool
  | [] => true
  | condition :: rest =>
      if condition.type ≠ type then podConditionValid type status rest
      else if condition.status = status then false
      else podConditionValid type status rest

/-- Whether a policy is still met by a pod at a given time. -/
def DurationPolicy.valid (now : Time) (pod : Pod) : DurationPolicy → Bool
  | .fixed duration => fixedDurationValid duration now pod.conditions
  | .podCondition condition status => podConditionValid condition status pod.conditions

def fixedPolicyToDuration (policy : FixedDurationPolicySpec) : Int64 :=
  match policy.unit with
  | .minutes => policy.value * 60000000000
  | .seconds => policy.value * 1000000000

def mapDurationPolicy (spec : DurationPolicySpec) : GoMap String DurationPolicy :=
  let policies : GoMap String DurationPolicy :=
    match spec.fixed with
    | none => ∅
    | some policy =>
        (∅ : GoMap String DurationPolicy).insert fixedDurationPolicyName
          (.fixed (fixedPolicyToDuration policy))
  match spec.podCondition with
  | none => policies
  | some policy =>
      policies.insert podConditionPolicyName (.podCondition policy.type policy.status)

/-- The policy under the name of the fixed duration is one. -/
theorem fixed_of_lookup_mapDurationPolicy {spec : DurationPolicySpec} {policy : DurationPolicy}
    (present : (mapDurationPolicy spec).lookup fixedDurationPolicyName = some policy) :
    ∃ duration, policy = .fixed duration := by
  have different : fixedDurationPolicyName ≠ podConditionPolicyName := by decide
  obtain ⟨fixed, podCondition⟩ := spec
  cases podCondition <;> cases fixed <;>
    simp [mapDurationPolicy, different] at present
  all_goals exact ⟨_, present.symm⟩

/-- The policy under the name of the pod condition is one. -/
theorem podCondition_of_lookup_mapDurationPolicy {spec : DurationPolicySpec}
    {policy : DurationPolicy}
    (present : (mapDurationPolicy spec).lookup podConditionPolicyName = some policy) :
    ∃ condition status, policy = .podCondition condition status := by
  have different : podConditionPolicyName ≠ fixedDurationPolicyName := by decide
  obtain ⟨fixed, podCondition⟩ := spec
  cases podCondition <;> cases fixed <;>
    simp [mapDurationPolicy, different] at present
  all_goals exact ⟨_, _, present.symm⟩

inductive ContainerPolicy where
  | fixed (cpuRequests cpuLimits : Quantity)
  | percentage (incPerc : Int64)
deriving DecidableEq

/-- Raise an existing entry to the target; a zero target, a missing entry and a
target below the current value change nothing. -/
def setResource (resource : String) (resources : ResourceList) (target : Quantity) :
    ResourceList :=
  if target = 0 then resources
  else
    match resources.lookup resource with
    | none => resources
    | some current => if target < current then resources else resources.insert resource target

/-- Multiply by `(100 + incPerc) / 100` and round up to two decimals. -/
def increaseQuantity (quantity : Quantity) (incPerc : Int64) : Quantity :=
  (⌈quantity * (((100 + incPerc).toInt : ℚ) / 100) * 100⌉ : ℚ) / 100

def increaseResource (incPerc : Int64) (resource : String) (resources : ResourceList) :
    ResourceList :=
  match resources.lookup resource with
  | none => resources
  | some quantity => resources.insert resource (increaseQuantity quantity incPerc)

def ContainerPolicy.newResources (container : Container) :
    ContainerPolicy → ResourceRequirements
  | .fixed cpuRequests cpuLimits =>
      { requests := setResource resourceCPU container.resources.requests cpuRequests
        limits := setResource resourceCPU container.resources.limits cpuLimits }
  | .percentage incPerc =>
      { requests := increaseResource incPerc resourceCPU container.resources.requests
        limits := increaseResource incPerc resourceCPU container.resources.limits }

/-- The policy of one entry and how many kinds of policy it sets. -/
def containerPolicyOf (spec : ContainerPolicySpec) : Option ContainerPolicy × Nat :=
  let fixed : Option ContainerPolicy × Nat :=
    match spec.fixedResources with
    | none => (none, 0)
    | some resources => (some (.fixed resources.requests resources.limits), 1)
  match spec.percentageIncrease with
  | none => fixed
  | some increase => (some (.percentage increase.value), fixed.2 + 1)

/-- One pass of the mapping loop: an entry that does not set exactly one kind
of policy is reported and left out. -/
def mapContainerPolicy (state : GoMap String ContainerPolicy × List String)
    (spec : ContainerPolicySpec) : GoMap String ContainerPolicy × List String :=
  match containerPolicyOf spec with
  | (some policy, 1) => (state.1.insert spec.containerName policy, state.2)
  | _ =>
      (state.1, state.2 ++
        ["invalid number of resource policies fo container " ++ spec.containerName ++
          "; must be one"])

def mapResourcePolicy (specs : List ContainerPolicySpec) :
    Except String (GoMap String ContainerPolicy) :=
  match specs.foldl mapContainerPolicy (∅, []) with
  | (policies, []) => .ok policies
  | (_, errs) => .error ("\n".intercalate errs)

end KubeStartupCPUBoost
