import KubeStartupCPUBoost.ControllerRun
import KubeStartupCPUBoost.ManagerStates
import KubeStartupCPUBoost.PodBoostWebhook

/-!
# Which boost a pod is routed to

The webhook, the pod's events and its deletion each ask for the first boost
that matches, in an order of their own.  They agree for a pod that is boosted
exactly if no second boost matches it (`admission_agrees_iff`).
-/

namespace KubeStartupCPUBoost

variable {σ : Type}

namespace PodCPUBoostHandler

variable (lib : Library) (handler : PodCPUBoostHandler)

/-- The webhook raises the resources of a container of the pod, and therefore
labels it. -/
def Boosts (now : Time) (boost : StartupCPUBoostImpl) (pod : Pod) : Prop :=
  let originalQosClass := computePodQOS pod handler.podLevelResourcesEnabled
  let boosted := handler.boostContainers lib boost originalQosClass pod [] pod.containers
    (newBoostAnnot now)
  boosted.2.initCPULimits.keys.card > 0 ∨ boosted.2.initCPURequests.keys.card > 0

instance (now : Time) (boost : StartupCPUBoostImpl) (pod : Pod) :
    Decidable (handler.Boosts lib now boost pod) :=
  inferInstanceAs (Decidable (_ ∨ _))

/-- `Handle`, for a pod that can be decoded: the pod that is admitted. -/
def handle (now : Time) (order : RangeOrder String) (pod : Pod) (manager : Manager σ) : Pod :=
  match manager.getCPUBoostForPod order pod with
  | none => pod
  | some boost => handler.boostContainerResources lib now (manager.boosts boost) pod

@[simp]
theorem boostContainerResources_ns (now : Time) (boost : StartupCPUBoostImpl) (pod : Pod) :
    (handler.boostContainerResources lib now boost pod).ns = pod.ns := by
  simp only [boostContainerResources]
  split <;> rfl

theorem boostContainerResources_labels {now : Time} {boost : StartupCPUBoostImpl} {pod : Pod}
    (boosts : handler.Boosts lib now boost pod) :
    (handler.boostContainerResources lib now boost pod).labels =
      pod.labels.insert boostLabelKey boost.name := by
  simp only [boostContainerResources]
  split
  · rfl
  · exact absurd boosts (by assumption)

/-- The webhook boosts with the boost that is found. -/
theorem handle_of_found {now : Time} {order : RangeOrder String} {pod : Pod} {manager : Manager σ}
    {boost : BoostRef} (found : manager.getCPUBoostForPod order pod = some boost) :
    handler.handle lib now order pod manager =
      handler.boostContainerResources lib now (manager.boosts boost) pod := by
  rw [handle, found]

end PodCPUBoostHandler

namespace Manager

/-- No selector of a registered boost looks at the boost label. -/
def SelectorsIgnoreBoostLabel (manager : Manager σ) : Prop :=
  ∀ name ns boost, manager.regularBoosts.get name ns = some boost → ∀ labels value,
    (manager.boosts boost).selector (Finmap.insert boostLabelKey value labels) =
      (manager.boosts boost).selector labels

def Candidate (pod : Pod) (manager : Manager σ) (boost : BoostRef) : Prop :=
  (∃ name, manager.regularBoosts.get name pod.ns = some boost) ∧
    (manager.boosts boost).selectsPod pod = true

theorem candidate_labelled_iff {manager : Manager σ} (ignored : manager.SelectorsIgnoreBoostLabel)
    {pod labelled : Pod} {value : String} (sameNs : labelled.ns = pod.ns)
    (labels : labelled.labels = pod.labels.insert boostLabelKey value) {boost : BoostRef} :
    manager.Candidate labelled boost ↔ manager.Candidate pod boost := by
  rw [Candidate, Candidate, sameNs]
  refine and_congr_right fun registered => ?_
  obtain ⟨name, registered⟩ := registered
  rw [StartupCPUBoostImpl.selectsPod, StartupCPUBoostImpl.selectsPod, labels,
    ignored name pod.ns boost registered]

theorem exists_getMatchingBoost {pod : Pod} {manager : Manager σ} {boost : BoostRef}
    (candidate : manager.Candidate pod boost) :
    ∃ order, manager.getMatchingBoost order pod = some boost := by
  obtain ⟨⟨name, registered⟩, selected⟩ := candidate
  obtain ⟨rest, listed⟩ := NamespacedObjects.exists_list_startingWith registered
  refine ⟨.startingWith name, ?_⟩
  unfold getMatchingBoost
  rw [listed]
  exact List.find?_cons_of_pos selected

theorem getMatchingBoost_of_only {pod : Pod} {manager : Manager σ} {boost : BoostRef}
    (candidate : manager.Candidate pod boost)
    (only : ∀ other, manager.Candidate pod other → other = boost) (order : RangeOrder String) :
    manager.getMatchingBoost order pod = some boost := by
  cases found : manager.getMatchingBoost order pod with
  | none =>
      obtain ⟨⟨name, registered⟩, selected⟩ := candidate
      rw [getMatchingBoost_none found registered] at selected
      cases selected
  | some other => rw [only other (getMatchingBoost_some found)]

section Handled

variable (lib : Library) (client : PodClient σ)

/-- A pod's event is handled by the boost that matches. -/
@[simp]
theorem upsertPod_handler (now : Time) (order : RangeOrder String) (ref : PodRef)
    (manager : Manager σ) :
    (manager.upsertPod lib client now order ref).1.1 =
      manager.getMatchingBoost order (manager.memory.pods ref) := by
  rcases manager.upsertPod_cases lib client now order ref with
    ⟨boost, found, ⟨-, succeeded⟩ | ⟨message, -, failed⟩⟩ | ⟨noMatch, orphaned⟩
  · rw [succeeded, found]
  · rw [failed, found]
  · rw [orphaned, noMatch]

@[simp]
theorem deletePod_handler (order : RangeOrder String) (pod : Pod) (manager : Manager σ) :
    (manager.deletePod lib order pod).1.1 = manager.getMatchingBoost order pod := by
  rcases manager.deletePod_cases lib order pod with ⟨boost, found, deleted⟩ | ⟨noMatch, deleted⟩
  · rw [deleted, found]
  · rw [deleted, noMatch]

end Handled

end Manager

namespace Controller

variable (lib : Library) (client : PodClient σ) (legacyRevertMode : Bool)

/-- A pod is admitted with a boost and labelled with its name.  Some time later
its event comes, and some time after that it is deleted.  Both are handled by
the boost registered under the name in the label. -/
def AdmissionAgrees (handler : PodCPUBoostHandler) (now : Time) (pod : Pod)
    (state : Controller σ) : Prop :=
  ∀ admitOrder boost, state.manager.getCPUBoostForPod admitOrder pod = some boost →
    handler.Boosts lib now (state.manager.boosts boost) pod →
      ∀ before after : List (ControllerEvent σ), (∀ event ∈ before, event.LeavesBoosts) →
        (∀ event ∈ after, event.LeavesBoosts) → ∀ upsertOrder deleteOrder,
          let admitted := handler.handle lib now admitOrder pod state.manager
          let upserting := state.run lib client legacyRevertMode before
          let delivered := upserting.manager.newPod admitted
          let deleting := (upserting.step lib client legacyRevertMode
            (.upsertPod upsertOrder admitted)).run lib client legacyRevertMode after
          ∃ label labelled, admitted.labels.lookup boostLabelKey = some label ∧
            state.manager.regularBoosts.get label pod.ns = some labelled ∧
            (delivered.2.upsertPod lib client upserting.now upsertOrder delivered.1).1.1 =
              some labelled ∧
            (deleting.manager.deletePod lib deleteOrder admitted).1.1 = some labelled

variable {lib client legacyRevertMode} {handler : PodCPUBoostHandler} {now : Time} {pod : Pod}
  {state : Controller σ} (reached : Manager.Reachable lib client state.manager)
  (ignored : state.manager.SelectorsIgnoreBoostLabel)

include reached

/-- A boost that matches a pod is registered under the name it labels the pod
with. -/
theorem candidate_registered {boost : BoostRef} (candidate : state.manager.Candidate pod boost) :
    state.manager.regularBoosts.get (state.manager.boosts boost).name pod.ns = some boost := by
  obtain ⟨⟨name, registered⟩, _⟩ := candidate
  rw [(reached.wellFormed.regular _ _ _ registered).1]
  exact registered

include ignored

/-- If a second boost matches the pod, the pod's event may go to it. -/
theorem AdmissionAgrees.only
    (agrees : state.AdmissionAgrees lib client legacyRevertMode handler now pod)
    {boost other : BoostRef} (candidate : state.manager.Candidate pod boost)
    (boosts : handler.Boosts lib now (state.manager.boosts boost) pod)
    (otherCandidate : state.manager.Candidate pod other) : other = boost := by
  obtain ⟨admitOrder, found⟩ := Manager.exists_getMatchingBoost candidate
  have labels := handler.boostContainerResources_labels lib boosts
  obtain ⟨upsertOrder, otherFound⟩ := Manager.exists_getMatchingBoost
    ((Manager.candidate_labelled_iff ignored (handler.boostContainerResources_ns lib now _ pod)
      labels).mpr otherCandidate)
  obtain ⟨label, labelled, hasLabel, registered, upserted, _⟩ := agrees admitOrder boost found
    boosts [] [] (by simp) (by simp) upsertOrder upsertOrder
  rw [handler.handle_of_found lib found] at hasLabel upserted
  rw [labels, Finmap.lookup_insert] at hasLabel
  obtain rfl := Option.some.inj hasLabel
  rw [candidate_registered reached candidate] at registered
  obtain rfl := Option.some.inj registered
  rw [Manager.upsertPod_handler, Manager.newPod_self] at upserted
  exact Option.some.inj (otherFound.symm.trans upserted)

/-- An only match is found at admission, by the pod's event and at its
deletion, whatever happens to pods in between. -/
theorem admissionAgrees_of_only
    (only : ∀ boost other, state.manager.Candidate pod boost →
      handler.Boosts lib now (state.manager.boosts boost) pod →
        state.manager.Candidate pod other → other = boost) :
    state.AdmissionAgrees lib client legacyRevertMode handler now pod := by
  intro admitOrder boost found boosts before after leaveBefore leaveAfter upsertOrder deleteOrder
  have candidate : state.manager.Candidate pod boost := Manager.getMatchingBoost_some found
  have labels := handler.boostContainerResources_labels lib boosts
  have sameCandidates : ∀ other, state.manager.Candidate
      (handler.boostContainerResources lib now (state.manager.boosts boost) pod) other ↔
        state.manager.Candidate pod other := fun other =>
    Manager.candidate_labelled_iff ignored (handler.boostContainerResources_ns lib now _ pod) labels
  have matched := Manager.getMatchingBoost_of_only ((sameCandidates boost).mpr candidate)
    fun other otherCandidate =>
      only boost other candidate boosts ((sameCandidates other).mp otherCandidate)
  have sameBefore := run_sameConfiguration lib client legacyRevertMode
    (Manager.SameConfiguration.refl state.manager) leaveBefore
  simp only [handler.handle_of_found lib found]
  refine ⟨_, boost, by rw [labels]; exact Finmap.lookup_insert _,
    candidate_registered reached candidate, ?_, ?_⟩
  · rw [Manager.upsertPod_handler, Manager.newPod_self, (sameBefore.newPod _).getMatchingBoost]
    exact matched upsertOrder
  · have sameUpserted : Manager.SameConfiguration state.manager
        ((state.run lib client legacyRevertMode before).step lib client legacyRevertMode
          (.upsertPod upsertOrder (handler.boostContainerResources lib now
            (state.manager.boosts boost) pod))).manager :=
      step_sameConfiguration lib client legacyRevertMode sameBefore trivial
    have sameAfter := run_sameConfiguration lib client legacyRevertMode sameUpserted leaveAfter
    rw [Manager.deletePod_handler, sameAfter.getMatchingBoost]
    exact matched deleteOrder

end Controller

/-- Admission, upsert and deletion agree in every order of the loops exactly if
a boost that matches the pod and boosts it is the only one that matches. -/
theorem admission_agrees_iff (lib : Library) (client : PodClient σ) (legacyRevertMode : Bool)
    (handler : PodCPUBoostHandler) (now : Time) (pod : Pod) (state : Controller σ)
    (reached : Manager.Reachable lib client state.manager)
    (ignored : state.manager.SelectorsIgnoreBoostLabel) :
    state.AdmissionAgrees lib client legacyRevertMode handler now pod ↔
      ∀ boost other, state.manager.Candidate pod boost →
        handler.Boosts lib now (state.manager.boosts boost) pod →
          state.manager.Candidate pod other → other = boost :=
  ⟨fun agrees _ _ candidate boosts otherCandidate =>
      agrees.only reached ignored candidate boosts otherCandidate,
    Controller.admissionAgrees_of_only reached ignored⟩

namespace Reference

noncomputable def oneBoost : Controller ApiServer :=
  started.run referenceLibrary referenceClient false
    [.createBoost .arbitrary (boostOf everything forMinute)]

noncomputable def twoBoosts : Controller ApiServer :=
  oneBoost.step referenceLibrary referenceClient false
    (.createBoost .arbitrary { boostOf everything forMinute with name := "second" })

def second : StartupCPUBoostImpl := { implOf everything forMinute with name := "second" }

theorem oneBoost_eq : oneBoost = { started with manager := registeredManager everything } :=
  step_create wellFormed_everything

private theorem twoBoosts_eq :
    ∃ timedBoosts, twoBoosts.manager =
      { Controller.registerNew second (registeredManager everything) with timedBoosts } := by
  have built : newStartupCPUBoost referenceLibrary
      { boostOf everything forMinute with name := "second" } false = .ok second :=
    newStartupCPUBoost_of_mapped referenceLibrary wellFormed_everything rfl
  obtain ⟨timedBoosts, indexed⟩ := (Controller.registerNew second
    (registeredManager everything)).indexTimedBoost_eq 1
  refine ⟨timedBoosts, ?_⟩
  rw [twoBoosts, oneBoost_eq, Controller.step_createBoost_of_ok _ _ _ _ _ built]
  refine (Manager.postProcessNewBoost_of_none referenceLibrary referenceClient rfl rfl
    (list_emptyServer _ _)).trans ?_
  exact indexed

private theorem boosts_plainPod :
    PodCPUBoostHandler.Boosts referenceLibrary ⟨true, false⟩ 0 (implOf everything forMinute)
      plainPod := by
  decide +kernel

theorem reachable_oneBoost :
    Manager.Reachable referenceLibrary referenceClient oneBoost.manager :=
  Controller.run_reachable _ _ false true 0 _ _

private theorem reachable_twoBoosts :
    Manager.Reachable referenceLibrary referenceClient twoBoosts.manager :=
  Controller.step_reachable _ _ _ _ reachable_oneBoost

theorem ignoresBoostLabel_of_everything {manager : Manager ApiServer}
    (selectors : ∀ name ns boost, manager.regularBoosts.get name ns = some boost →
      (manager.boosts boost).selector = everything.selects) :
    manager.SelectorsIgnoreBoostLabel := by
  intro name ns boost registered labels value
  rw [selectors name ns boost registered, selects_everything, selects_everything]

theorem admission_agrees_iff_oneBoost :
    oneBoost.AdmissionAgrees referenceLibrary referenceClient false ⟨true, false⟩ 0 plainPod := by
  have onlyBoost : ∀ name ns boost,
      oneBoost.manager.regularBoosts.get name ns = some boost → boost = 0 := by
    intro name ns boost registered
    rw [oneBoost_eq] at registered
    exact registeredManager_registered everything registered
  refine (admission_agrees_iff referenceLibrary referenceClient false ⟨true, false⟩ 0 plainPod
    oneBoost reachable_oneBoost (ignoresBoostLabel_of_everything ?_)).mpr ?_
  · intro name ns boost registered
    rw [onlyBoost name ns boost registered, oneBoost_eq]
    rfl
  · rintro boost other ⟨⟨name, registered⟩, _⟩ _ ⟨⟨otherName, otherRegistered⟩, _⟩
    rw [onlyBoost _ _ _ registered, onlyBoost _ _ _ otherRegistered]

/-- A pod boosted and labelled by one boost can be given to the other. -/
theorem twoBoosts_disagree :
    twoBoosts.manager.SelectorsIgnoreBoostLabel ∧
      ¬ twoBoosts.AdmissionAgrees referenceLibrary referenceClient false ⟨true, false⟩ 0
        plainPod := by
  obtain ⟨timedBoosts, reached⟩ := twoBoosts_eq
  have first : twoBoosts.manager.boosts 0 = implOf everything forMinute := by
    rw [reached]
    rfl
  have other : twoBoosts.manager.boosts 1 = second := by
    rw [reached]
    rfl
  have registered : ∀ name ns, twoBoosts.manager.regularBoosts.get name ns =
      if name = "second" ∧ ns = "default" then some 1
      else if name = "boost" ∧ ns = "default" then some 0 else none := by
    intro name ns
    rw [reached]
    simp [Controller.registerNew_get, second, implOf, registeredManager,
      NamespacedObjects.get_put]
  have ignored : twoBoosts.manager.SelectorsIgnoreBoostLabel := by
    refine ignoresBoostLabel_of_everything fun name ns boost present => ?_
    rw [registered] at present
    split at present
    · obtain rfl := Option.some.inj present
      rw [other]
      rfl
    · split at present
      · obtain rfl := Option.some.inj present
        rw [first]
        rfl
      · cases present
  refine ⟨ignored, fun agrees => ?_⟩
  have firstCandidate : twoBoosts.manager.Candidate plainPod 0 :=
    ⟨⟨"boost", by simp [registered, plainPod]⟩,
      by rw [first]; exact selects_everything plainPod.labels⟩
  have otherCandidate : twoBoosts.manager.Candidate plainPod 1 :=
    ⟨⟨"second", by simp [registered, plainPod]⟩,
      by rw [other]; exact selects_everything plainPod.labels⟩
  have same := agrees.only reachable_twoBoosts ignored
    firstCandidate (by rw [first]; exact boosts_plainPod) otherCandidate
  cases same

end Reference

end KubeStartupCPUBoost
