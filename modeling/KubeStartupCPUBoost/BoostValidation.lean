import KubeStartupCPUBoost.BoostManager
import KubeStartupCPUBoost.ReferenceLibrary

/-!
# Admission of a boost and its registration

The validating webhook checks the container policies and the duration policy
of a boost, but not its label selector.  The controller's create handler builds
the boost again from the admitted object, logs the error if there is one, and
hands the result to the manager in either case.

`mapResourcePolicy_of_validated` is where the two sides agree;
`admitted_boost_registers_iff` says that the selector is all they can disagree
on.
-/

namespace KubeStartupCPUBoost

inductive PathElement where
  | child (name : String)
  | index (position : Nat)
deriving DecidableEq

abbrev FieldPath := List PathElement

/-- The value a field error is about. -/
inductive FieldValue where
  | containerPolicy (policy : ContainerPolicySpec)
  | durationPolicy (policy : DurationPolicySpec)
  | labelSelector (selector : LabelSelector)
deriving DecidableEq

structure FieldError where
  path : FieldPath
  badValue : FieldValue
  detail : String
deriving DecidableEq

/-- `apierrors.NewInvalid`. -/
structure InvalidObject where
  group : String
  kind : String
  name : String
  causes : List FieldError
deriving DecidableEq

def countSet {α β : Type} (first : Option α) (second : Option β) : Nat :=
  (if first.isSome then 1 else 0) + (if second.isSome then 1 else 0)

def validateDurationPolicy (policy : DurationPolicySpec) : Option FieldError :=
  if countSet policy.fixed policy.podCondition ≠ 1 then
    some {
      path := [.child "spec", .child ""]
      badValue := .durationPolicy policy
      detail := "one type of duration policy should be defined" }
  else none

/-- The loop of the check, from a position on and with the wildcards counted
so far. -/
def validateContainerPoliciesFrom (position wildcardCount : Nat) :
    List ContainerPolicySpec → List FieldError
  | [] => []
  | policy :: rest =>
      let path := [.child "spec", .child "resourcePolicy", .child "containerPolicies",
        .index position]
      let isWildcard := policy.containerName = containerPolicyWildcard
      let wildcardCount := if isWildcard then wildcardCount + 1 else wildcardCount
      let wildcardErrs : List FieldError :=
        if isWildcard ∧ wildcardCount > 1 then
          [⟨path, .containerPolicy policy, "only one wildcard (*) container policy is allowed"⟩]
        else []
      let kindErrs : List FieldError :=
        if countSet policy.fixedResources policy.percentageIncrease ≠ 1 then
          [⟨path, .containerPolicy policy, "one type of resource policy should be defined"⟩]
        else []
      wildcardErrs ++ kindErrs ++ validateContainerPoliciesFrom (position + 1) wildcardCount rest

def validateContainerPolicies (policies : List ContainerPolicySpec) : List FieldError :=
  validateContainerPoliciesFrom 0 0 policies

def validate (boost : StartupCPUBoost) : Except InvalidObject Unit :=
  let allErrs := validateContainerPolicies boost.spec.containerPolicies ++
    (validateDurationPolicy boost.spec.durationPolicy).toList
  if allErrs.length > 0 then
    .error {
      group := "autoscaling.x-k8s.io"
      kind := "StartupCPUBoost"
      name := boost.name
      causes := allErrs }
  else .ok ()

/-- What a handler does: it returns, or it panics. -/
inductive HandlerOutcome (σ : Type) where
  | panicked
  | returned (manager : Manager σ)

variable (lib : Library) {σ : Type} (client : PodClient σ)

/-- Registering a boost reads its name first, so without a boost it panics. -/
def addBoostOrPanic (now : Time) (order : RangeOrder String) (manager : Manager σ) :
    Option BoostRef → HandlerOutcome σ
  | none => .panicked
  | some boost => .returned (manager.addRegularCPUBoost lib client now order boost).2

/-- `Create`: an error of the constructor is logged only. -/
def handleCreate (legacyRevertMode : Bool) (now : Time) (order : RangeOrder String)
    (boostObj : StartupCPUBoost) (manager : Manager σ) : HandlerOutcome σ :=
  match newStartupCPUBoost lib boostObj legacyRevertMode with
  | .error _ => addBoostOrPanic lib client now order manager none
  | .ok boost =>
      let created := manager.newBoost boost
      addBoostOrPanic lib client now order created.2 (some created.1)

theorem containerPolicyOf_of_countSet {policy : ContainerPolicySpec}
    (one : countSet policy.fixedResources policy.percentageIncrease = 1) :
    ∃ mapped, containerPolicyOf policy = (some mapped, 1) := by
  unfold countSet at one
  unfold containerPolicyOf
  cases fixed : policy.fixedResources with
  | none =>
      cases percentage : policy.percentageIncrease with
      | none => simp [fixed, percentage] at one
      | some increase => exact ⟨_, rfl⟩
  | some resources =>
      cases percentage : policy.percentageIncrease with
      | none => exact ⟨_, rfl⟩
      | some increase => simp [fixed, percentage] at one

/-- Policies that pass the check set exactly one kind each. -/
theorem countSet_of_validated {position wildcardCount : Nat}
    {policies : List ContainerPolicySpec}
    (validated : validateContainerPoliciesFrom position wildcardCount policies = []) :
    ∀ policy ∈ policies, countSet policy.fixedResources policy.percentageIncrease = 1 := by
  induction policies generalizing position wildcardCount with
  | nil => simp
  | cons policy policies ih =>
      simp only [validateContainerPoliciesFrom, List.append_eq_nil_iff] at validated
      obtain ⟨⟨_, kind⟩, rest⟩ := validated
      rw [List.forall_mem_cons]
      refine ⟨?_, ih rest⟩
      by_contra notOne
      rw [if_pos notOne] at kind
      cases kind

/-- The mapping loop reports nothing on such policies. -/
theorem foldl_mapContainerPolicy_errs {policies : List ContainerPolicySpec}
    (one : ∀ policy ∈ policies, countSet policy.fixedResources policy.percentageIncrease = 1)
    (mapped : GoMap String ContainerPolicy) :
    (policies.foldl mapContainerPolicy (mapped, [])).2 = [] := by
  induction policies generalizing mapped with
  | nil => rfl
  | cons policy policies ih =>
      rw [List.forall_mem_cons] at one
      obtain ⟨result, mapsTo⟩ := containerPolicyOf_of_countSet one.1
      have step : mapContainerPolicy (mapped, []) policy =
          (mapped.insert policy.containerName result, []) := by
        unfold mapContainerPolicy
        rw [mapsTo]
        rfl
      rw [List.foldl_cons, step]
      exact ih one.2 _

theorem mapResourcePolicy_of_validated {policies : List ContainerPolicySpec}
    (validated : validateContainerPolicies policies = []) :
    ∃ mapped, mapResourcePolicy policies = .ok mapped := by
  have noErrs := foldl_mapContainerPolicy_errs (countSet_of_validated validated) ∅
  unfold mapResourcePolicy
  cases result : policies.foldl mapContainerPolicy (∅, []) with
  | mk mapped errs =>
      rw [result] at noErrs
      subst noErrs
      exact ⟨mapped, rfl⟩

/-- An object is admitted only without errors. -/
theorem noErrs_of_admitted {errs : List FieldError} {invalid : InvalidObject}
    (admitted : (if errs.length > 0 then .error invalid else .ok ()) =
      (.ok () : Except InvalidObject Unit)) : errs = [] := by
  by_cases someErrs : errs.length > 0
  · rw [if_pos someErrs] at admitted
    cases admitted
  · exact List.eq_nil_of_length_eq_zero (Nat.eq_zero_of_not_pos someErrs)

private theorem validateContainerPolicies_of_validate {boost : StartupCPUBoost}
    (admitted : validate boost = .ok ()) :
    validateContainerPolicies boost.spec.containerPolicies = [] :=
  (List.append_eq_nil_iff.mp (noErrs_of_admitted admitted)).1

/-- Of an admitted boost, only the selector can make the constructor fail. -/
theorem newStartupCPUBoost_ok_iff {boost : StartupCPUBoost} (legacyRevertMode : Bool)
    (admitted : validate boost = .ok ()) :
    (∃ impl, newStartupCPUBoost lib boost legacyRevertMode = .ok impl) ↔
      boost.selector.WellFormed lib.validLabelKey lib.validLabelValue := by
  obtain ⟨policies, mapped⟩ :=
    mapResourcePolicy_of_validated (validateContainerPolicies_of_validate admitted)
  by_cases wellFormed : boost.selector.WellFormed lib.validLabelKey lib.validLabelValue
  · exact iff_of_true ⟨_, newStartupCPUBoost_of_mapped lib wellFormed mapped⟩ wellFormed
  · refine iff_of_false ?_ wellFormed
    obtain ⟨message, rejected⟩ := lib.labelSelectorAsSelector_error _ wellFormed
    rintro ⟨impl, built⟩
    simp only [newStartupCPUBoost, rejected] at built
    cases built

theorem handleCreate_ne_panicked_iff (legacyRevertMode : Bool) (now : Time)
    (order : RangeOrder String) (boost : StartupCPUBoost) (manager : Manager σ) :
    handleCreate lib client legacyRevertMode now order boost manager ≠ .panicked ↔
      ∃ impl, newStartupCPUBoost lib boost legacyRevertMode = .ok impl := by
  unfold handleCreate
  cases newStartupCPUBoost lib boost legacyRevertMode with
  | error message => simp [addBoostOrPanic]
  | ok impl => simp [addBoostOrPanic]

/-- Admission of a boost guarantees that the controller can build and register
it exactly when its selector is well formed. -/
theorem admitted_boost_registers_iff (legacyRevertMode : Bool) (now : Time)
    (order : RangeOrder String) (boost : StartupCPUBoost) (manager : Manager σ) :
    (validate boost = .ok () →
      (∃ impl, newStartupCPUBoost lib boost legacyRevertMode = .ok impl) ∧
        handleCreate lib client legacyRevertMode now order boost manager ≠ .panicked) ↔
      validate boost ≠ .ok () ∨
        boost.selector.WellFormed lib.validLabelKey lib.validLabelValue := by
  by_cases admitted : validate boost = .ok ()
  · have built := newStartupCPUBoost_ok_iff lib legacyRevertMode admitted
    have handled := handleCreate_ne_panicked_iff lib client legacyRevertMode now order boost
      manager
    rw [handled, and_self, built]
    simp [admitted]
  · simp [admitted]

namespace Reference

def emptyInBoost : StartupCPUBoost where
  name := "boost"
  ns := "default"
  selector := { matchLabels := ∅, matchExpressions := [⟨"app", "In", []⟩] }
  spec :=
    { containerPolicies := [⟨"app", some ⟨50⟩, none⟩]
      durationPolicy := ⟨some ⟨.seconds, 60⟩, none⟩ }

/-- The webhook admits it, the constructor fails, and the create handler
panics, whatever the manager's state. -/
theorem admitted_boost_panics :
    validate emptyInBoost = .ok () ∧
      (∃ message, newStartupCPUBoost referenceLibrary emptyInBoost false = .error message) ∧
      ∀ (σ : Type) (client : PodClient σ) (manager : Manager σ),
        handleCreate referenceLibrary client false 0 .arbitrary emptyInBoost manager =
          .panicked := by
  have malformed : ¬ emptyInBoost.selector.WellFormed referenceLibrary.validLabelKey
      referenceLibrary.validLabelValue := by
    rintro ⟨_, requirements⟩
    obtain ⟨_, _, values⟩ := requirements _ List.mem_cons_self
    simp at values
  obtain ⟨message, rejected⟩ := referenceLibrary.labelSelectorAsSelector_error _ malformed
  have failed : newStartupCPUBoost referenceLibrary emptyInBoost false = .error message := by
    simp only [newStartupCPUBoost, rejected]
    rfl
  refine ⟨by decide, ⟨message, failed⟩, fun σ client manager => ?_⟩
  unfold handleCreate
  rw [failed]
  rfl

end Reference

end KubeStartupCPUBoost
