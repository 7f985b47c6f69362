import KubeStartupCPUBoost.BoostValidation
import KubeStartupCPUBoost.ControllerRun
import KubeStartupCPUBoost.GlobalBoostWakeups

/-!
# Admission of a global boost and of its children

The validating webhook for global boosts checks both selectors and, with the
functions for boosts, the policies of the template.  A global boost that passes
therefore leads to children that pass in turn, that the controller can build, and
to selectors that every reader can parse.

`reconcile_submits_valid` carries this to the calls of a whole reconciliation.
-/

namespace KubeStartupCPUBoost

open GlobalCall CallProgram

variable (lib : Library) {σ : Type}

def validateSelector (path : FieldPath) (selector : LabelSelector) : List FieldError :=
  match lib.labelSelectorAsSelector selector with
  | .error message => [⟨path, .labelSelector selector, message⟩]
  | .ok _ => []

def validateGlobal (boost : GlobalStartupCPUBoost) : Except InvalidObject Unit :=
  let allErrs :=
    validateSelector lib [.child "spec", .child "namespaceSelector"]
        boost.spec.namespaceSelector ++
      validateSelector lib [.child "spec", .child "template", .child "selector"]
        boost.spec.template.selector ++
      validateContainerPolicies boost.spec.template.spec.containerPolicies ++
      (validateDurationPolicy boost.spec.template.spec.durationPolicy).toList
  if allErrs.length > 0 then
    .error {
      group := "autoscaling.x-k8s.io"
      kind := "GlobalStartupCPUBoost"
      name := boost.name
      causes := allErrs }
  else .ok ()

private theorem wellFormed_of_validateSelector {path : FieldPath} {selector : LabelSelector}
    (passed : validateSelector lib path selector = []) :
    selector.WellFormed lib.validLabelKey lib.validLabelValue := by
  by_contra malformed
  obtain ⟨message, rejected⟩ := lib.labelSelectorAsSelector_error selector malformed
  rw [validateSelector, rejected] at passed
  cases passed

/-- What admission of a global boost guarantees. -/
structure AdmittedGlobal (globalBoost : GlobalStartupCPUBoost) : Prop where
  namespaceSelector :
    globalBoost.spec.namespaceSelector.WellFormed lib.validLabelKey lib.validLabelValue
  selector :
    globalBoost.spec.template.selector.WellFormed lib.validLabelKey lib.validLabelValue
  containerPolicies :
    validateContainerPolicies globalBoost.spec.template.spec.containerPolicies = []
  durationPolicy : validateDurationPolicy globalBoost.spec.template.spec.durationPolicy = none

theorem admittedGlobal_of_validateGlobal {globalBoost : GlobalStartupCPUBoost}
    (admitted : validateGlobal lib globalBoost = .ok ()) : AdmittedGlobal lib globalBoost := by
  have noErrs := noErrs_of_admitted admitted
  simp only [List.append_eq_nil_iff, Option.toList_eq_nil_iff] at noErrs
  obtain ⟨⟨⟨namespaceSelector, selector⟩, containerPolicies⟩, durationPolicy⟩ := noErrs
  exact {
    namespaceSelector := wellFormed_of_validateSelector lib namespaceSelector
    selector := wellFormed_of_validateSelector lib selector
    containerPolicies
    durationPolicy }

namespace AdmittedGlobal

variable {lib} {globalBoost : GlobalStartupCPUBoost}

/-- Every boost with the specification of the template is admitted. -/
theorem validate_of_spec (admitted : AdmittedGlobal lib globalBoost) {boost : StartupCPUBoost}
    (sameSpec : boost.spec = globalBoost.spec.template.spec) : validate boost = .ok () := by
  simp only [validate, sameSpec, admitted.containerPolicies, admitted.durationPolicy]
  rfl

theorem validate_child (admitted : AdmittedGlobal lib globalBoost) (ns childName : String) :
    validate (buildChildBoost globalBoost ns childName) = .ok () :=
  admitted.validate_of_spec rfl

theorem newStartupCPUBoost_child (admitted : AdmittedGlobal lib globalBoost)
    (ns childName : String) (legacyRevertMode : Bool) :
    ∃ impl, newStartupCPUBoost lib (buildChildBoost globalBoost ns childName)
      legacyRevertMode = .ok impl :=
  (newStartupCPUBoost_ok_iff lib legacyRevertMode (admitted.validate_child ns childName)).mpr
    admitted.selector

end AdmittedGlobal

/-- A boost that the call creates or updates is admitted. -/
def GlobalCall.SubmitsValid : GlobalCall → Prop
  | createBoost boost => validate boost = .ok ()
  | updateBoost boost => validate boost = .ok ()
  | _ => True

abbrev AnyResponse (call : GlobalCall) (_ : Except ApiError call.Payload) : Prop := True

section Submits

variable {lib} {globalBoost : GlobalStartupCPUBoost}

private theorem ensureChild_submits_valid (admitted : AdmittedGlobal lib globalBoost)
    (ns childName : String) :
    (ensureChild globalBoost ns childName).AllCalls SubmitsValid AnyResponse := by
  have created : SubmitsValid (.createBoost (buildChildBoost globalBoost ns childName)) :=
    admitted.validate_child ns childName
  apply allCalls_request_bind trivial
  intro response _
  cases response with
  | error err =>
      simp only
      split
      · refine allCalls_request_bind created fun response _ => ?_
        cases response <;> trivial
      · trivial
  | ok existing =>
      have updated : SubmitsValid (.updateBoost
          { existing with
            selector := globalBoost.spec.template.selector
            spec := globalBoost.spec.template.spec }) := admitted.validate_of_spec rfl
      simp only
      split
      · trivial
      · split
        · refine allCalls_request_bind updated fun response _ => ?_
          cases response <;> trivial
        · trivial

private theorem deleteChildIfExists_submits_valid (childName ns : String) :
    (deleteChildIfExists childName ns).AllCalls SubmitsValid AnyResponse := by
  apply allCalls_request_bind trivial
  intro response _
  cases response with
  | error err => trivial
  | ok existing =>
      simp only
      split
      · trivial
      · exact allCalls_request_bind trivial fun _ _ => trivial

private theorem processNamespace_submits_valid (admitted : AdmittedGlobal lib globalBoost)
    (childName ns : String) :
    (processNamespace globalBoost childName ns).AllCalls SubmitsValid AnyResponse := by
  apply allCalls_bind
  · apply allCalls_request_bind trivial
    intro response _
    cases response <;> trivial
  · intro unmanaged
    cases unmanaged with
    | error err => trivial
    | ok found =>
        cases found with
        | true =>
            exact allCalls_bind (deleteChildIfExists_submits_valid childName ns) fun _ => trivial
        | false =>
            apply allCalls_bind (ensureChild_submits_valid admitted ns childName)
            intro ensured
            cases ensured <;> trivial

private theorem processNamespaces_submits_valid (admitted : AdmittedGlobal lib globalBoost)
    (childName : String) (names active skipped : List String) :
    (processNamespaces globalBoost childName names active skipped).AllCalls SubmitsValid
      AnyResponse := by
  induction names generalizing active skipped with
  | nil => trivial
  | cons ns rest ih =>
      apply allCalls_bind (processNamespace_submits_valid admitted childName ns)
      intro outcome
      cases outcome <;> apply ih

private theorem cleanupStaleChildren_submits_valid (globalBoostName : String)
    (active : List String) :
    (cleanupStaleChildren globalBoostName active).AllCalls SubmitsValid AnyResponse := by
  have stale (boosts : List StartupCPUBoost) :
      (deleteStale active boosts).AllCalls SubmitsValid AnyResponse := by
    induction boosts with
    | nil => trivial
    | cons boost rest ih =>
        unfold deleteStale
        split
        · exact ih
        · exact allCalls_request_bind trivial fun _ _ => ih
  apply allCalls_request_bind trivial
  intro response _
  cases response with
  | error err => trivial
  | ok boosts => exact allCalls_bind (stale boosts) fun _ => trivial

private theorem updateStatus_submits_valid (active skipped : List String) :
    (updateStatus globalBoost active skipped).AllCalls SubmitsValid AnyResponse := by
  simp only [updateStatus]
  split
  · apply allCalls_request_bind trivial
    intro response _
    cases response with
    | ok => trivial
    | error err =>
        simp only
        split
        · trivial
        · split <;> trivial
  · trivial

/-- Every boost that the reconciliation of an admitted global boost creates or
updates is admitted. -/
theorem reconcile_submits_valid (admitted : AdmittedGlobal lib globalBoost)
    (order : RangeOrder String) :
    (reconcile lib order globalBoost).AllCalls SubmitsValid AnyResponse := by
  simp only [reconcile]
  split
  · trivial
  · apply allCalls_request_bind trivial
    intro response _
    cases response with
    | error err => trivial
    | ok namespaces =>
        apply allCalls_bind (processNamespaces_submits_valid admitted _ _ _ _)
        rintro ⟨active, skipped⟩
        apply allCalls_bind (cleanupStaleChildren_submits_valid _ _)
        intro cleaned
        exact updateStatus_submits_valid _ _

end Submits

section Accepted

variable {lib} {globalBoost : GlobalStartupCPUBoost}

private theorem reconcile_makes_list {τ : Type}
    (handle : (call : GlobalCall) → τ → Except ApiError call.Payload × τ)
    (selector : globalBoost.spec.namespaceSelector.WellFormed lib.validLabelKey
      lib.validLabelValue) (order : RangeOrder String) (server : τ) :
    (reconcile lib order globalBoost).Makes handle
      (· = .listNamespaces globalBoost.spec.namespaceSelector) server := by
  rw [reconcile, lib.labelSelectorAsSelector_ok _ selector]
  exact .inl rfl

/-- Of an admitted global boost, every child is admitted and can be built, every boost
a reconciliation submits is admitted, and the selector is parsed wherever it is
read. -/
theorem admitted_global_distributes (client : PodClient σ)
    (admitted : validateGlobal lib globalBoost = .ok ()) :
    (∀ ns,
      let child := buildChildBoost globalBoost ns (childBoostName globalBoost.name)
      validate child = .ok () ∧
        ∀ legacyRevertMode,
          (∃ impl, newStartupCPUBoost lib child legacyRevertMode = .ok impl) ∧
            ∀ now order (manager : Manager σ),
              handleCreate lib client legacyRevertMode now order child manager ≠ .panicked) ∧
    (∀ order, (reconcile lib order globalBoost).AllCalls SubmitsValid AnyResponse) ∧
    (∀ (τ : Type) (handle : (call : GlobalCall) → τ → Except ApiError call.Payload × τ) order
        server, (reconcile lib order globalBoost).Makes handle
          (· = .listNamespaces globalBoost.spec.namespaceSelector) server) ∧
    (∀ (listed : List GlobalStartupCPUBoost) (ns : Namespace), globalBoost ∈ listed →
      globalBoost.spec.namespaceSelector.selects ns.labels = true →
        globalBoost.name ∈ mapNamespaceToGlobalBoosts lib (.ok listed) ns ∧
          ∀ getNamespace (boost : StartupCPUBoost), getNamespace boost.ns = .ok ns →
            globalBoost.name ∈ mapBoostToGlobalBoosts lib getNamespace (.ok listed) boost) := by
  have guarantees := admittedGlobal_of_validateGlobal lib admitted
  refine ⟨?_, reconcile_submits_valid guarantees, ?_, ?_⟩
  · intro ns
    refine ⟨guarantees.validate_child ns _, ?_⟩
    intro legacyRevertMode
    have built := guarantees.newStartupCPUBoost_child ns (childBoostName globalBoost.name)
      legacyRevertMode
    refine ⟨built, ?_⟩
    intro now order manager
    exact (handleCreate_ne_panicked_iff lib client legacyRevertMode now order _ manager).mpr built
  · intro τ handle order server
    exact reconcile_makes_list handle guarantees.namespaceSelector order server
  · intro listed ns member selects
    have requested := mem_matchingRequests guarantees.namespaceSelector member selects
    refine ⟨requested, ?_⟩
    intro getNamespace boost found
    rw [mapBoostToGlobalBoosts, found]
    exact requested

end Accepted

namespace Reference

private theorem validateGlobal_globalBoost :
    validateGlobal referenceLibrary globalBoost = .ok () := by
  have parsed := referenceLibrary.labelSelectorAsSelector_ok _ wellFormed_everything
  simp only [validateGlobal, validateSelector,
    show globalBoost.spec.namespaceSelector = everything from rfl,
    show globalBoost.spec.template.selector = everything from rfl, parsed]
  decide

/-- In the namespace `team`, which `g` matches: the child is admitted and built, what a
reconciliation submits is admitted, and the selector is parsed by all its readers. -/
theorem admitted_global_distributes_team :
    let child := buildChildBoost globalBoost "team" (childBoostName globalBoost.name)
    (validate child = .ok () ∧
      (∃ impl, newStartupCPUBoost referenceLibrary child true = .ok impl) ∧
      handleCreate referenceLibrary referenceClient true 0 .arbitrary child started.manager ≠
        .panicked) ∧
    (reconcile referenceLibrary .arbitrary globalBoost).AllCalls SubmitsValid AnyResponse ∧
    (reconcile referenceLibrary .arbitrary globalBoost).Makes (Cluster.handle anyOrders noFaults)
      (· = .listNamespaces everything) emptyTeam ∧
    globalBoost.name ∈ mapNamespaceToGlobalBoosts referenceLibrary (.ok [globalBoost]) team ∧
    globalBoost.name ∈ mapBoostToGlobalBoosts referenceLibrary (fun _ => .ok team)
      (.ok [globalBoost]) child := by
  obtain ⟨children, submits, lists, wakes⟩ :=
    admitted_global_distributes referenceClient validateGlobal_globalBoost
  obtain ⟨admitted, built⟩ := children "team"
  have selected : globalBoost.spec.namespaceSelector.selects team.labels = true :=
    selects_everything team.labels
  obtain ⟨byNamespace, byBoost⟩ := wakes [globalBoost] team (List.mem_singleton_self _) selected
  exact ⟨⟨admitted, (built true).1, (built true).2 0 .arbitrary started.manager⟩,
    submits .arbitrary, lists _ _ .arbitrary emptyTeam, byNamespace, byBoost _ _ rfl⟩

end Reference

end KubeStartupCPUBoost
