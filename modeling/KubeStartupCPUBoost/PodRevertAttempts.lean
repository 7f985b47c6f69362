import KubeStartupCPUBoost.ApiServer
import KubeStartupCPUBoost.BoostTracking
import KubeStartupCPUBoost.ReferenceLibrary

/-!
# Repeated attempts to revert a pod

A revert that fails is attempted again on the same object in memory.  Building
the resize patch already restores that object, so when the server rejects the
patch the next attempt finds nothing left to change and sends an empty one.

`updateBoostPod_outcome` says what one attempt does to the object and to the
stored pod.  From then on the attempts are `Settled`: the stored containers
never change again, whether or not they were restored.
-/

namespace KubeStartupCPUBoost

variable (lib : Library) (order : RangeOrder PodKey)

/-- One attempt to revert a pod, with whether the server accepts the resize
patch and the label patch. -/
def attemptRevert (ref : PodRef) (accepted : Bool × Bool) (boost : StartupCPUBoostImpl)
    (memory : Memory ApiServer) : BoostOutcome ApiServer :=
  boost.revertResources lib (ApiServer.podClient lib order) ref
    { memory with server := { memory.server with faults := [!accepted.1, !accepted.2] } }

def revertAttempts (ref : PodRef) : List (Bool × Bool) → StartupCPUBoostImpl →
    Memory ApiServer → List (BoostOutcome ApiServer)
  | [], _, _ => []
  | accepted :: rest, boost, memory =>
      let outcome := attemptRevert lib order ref accepted boost memory
      outcome :: revertAttempts ref rest outcome.boost outcome.memory

/-- A container has the CPU request and limit recorded for it. -/
def HasRecordedCPU (annot : BoostPodAnnotation) (container : Container) : Prop :=
  (∀ text, annot.initCPURequests.lookup container.name = some text →
    ∃ quantity, lib.parseQuantity text = .ok quantity ∧
      container.resources.requests.lookup resourceCPU = some quantity) ∧
  ∀ text, annot.initCPULimits.lookup container.name = some text →
    ∃ quantity, lib.parseQuantity text = .ok quantity ∧
      container.resources.limits.lookup resourceCPU = some quantity

private theorem restoredCPU_eq_self_iff {recorded : StringMap} {name : String}
    (readable : ∀ text, recorded.lookup name = some text →
      ∃ quantity, lib.parseQuantity text = .ok quantity) (resources : ResourceList) :
    restoredCPU (recordedQuantity lib recorded name) resources = resources ↔
      ∀ text, recorded.lookup name = some text →
        ∃ quantity, lib.parseQuantity text = .ok quantity ∧
          resources.lookup resourceCPU = some quantity := by
  unfold recordedQuantity
  cases found : recorded.lookup name with
  | none => simp [restoredCPU]
  | some text =>
      obtain ⟨quantity, parsed⟩ := readable text found
      simp only [Option.bind_some, parsed, Except.toOption, restoredCPU, Option.some.injEq,
        forall_eq', Except.ok.injEq, exists_eq_left']
      constructor
      · intro unchanged
        rw [← unchanged, Finmap.lookup_insert]
      · exact GoMap.insert_of_lookup

private theorem restoredContainer_eq_self_iff {annot : BoostPodAnnotation}
    (readable : Readable lib annot) (container : Container) :
    restoredContainer lib annot container = container ↔ HasRecordedCPU lib annot container := by
  have requests := restoredCPU_eq_self_iff lib (readable.1 container.name)
    container.resources.requests
  have limits := restoredCPU_eq_self_iff lib (readable.2 container.name)
    container.resources.limits
  unfold HasRecordedCPU
  rw [← requests, ← limits]
  cases container with
  | mk name resources resizePolicy =>
      cases resources with
      | mk requests limits => simp [restoredContainer]

theorem hasRecordedCPU_of_mem_map {annot : BoostPodAnnotation} (readable : Readable lib annot)
    {containers : List Container} {container : Container}
    (member : container ∈ containers.map (restoredContainer lib annot)) :
    HasRecordedCPU lib annot container := by
  obtain ⟨original, _, rfl⟩ := List.mem_map.mp member
  rw [← restoredContainer_eq_self_iff lib readable, restoredContainer_restoredContainer]

private theorem sendPatch_revertBoostLabels {stored : Pod} {server : ApiServer} {accepted : Bool}
    (fault : server.faults.headD false = !accepted)
    (present : server.pods.lookup stored.key = some stored) :
    sendPatch (revertBoostLabelsPatch lib) (ApiServer.podClient lib order).patch stored server =
      if accepted then
        ⟨.ok (), (revertBoostLabels stored).1,
          ⟨server.pods.insert stored.key (revertBoostLabels stored).1, server.faults.tail⟩⟩
      else
        ⟨.error "rejected", (revertBoostLabels stored).1,
          ⟨server.pods, server.faults.tail⟩⟩ := by
  rw [sendPatch_of_built (revertBoostLabelsPatch_eq lib stored), ApiServer.podClient_patch]
  cases accepted with
  | false =>
      rw [ApiServer.call_of_fault fault]
      rfl
  | true =>
      have patched := ApiServer.patched_of_patchedBody lib
        (ApiServer.patchedBody_diff lib stored (revertBoostLabels stored).1) rfl
      rw [ApiServer.call_of_accepted fault present patched rfl]
      rfl

/-- One attempt, by whether its two calls are accepted: the object in memory
becomes what the last answer or the last patch made of it, and the stored pod
what the accepted patches made of it. -/
theorem updateBoostPod_outcome {tracked mutated stored updated : Pod} {patch : Json}
    {server : ApiServer} (accepted : Bool × Bool)
    (resizeFault : server.faults.headD false = !accepted.1)
    (labelFault : server.faults.tail.headD false = !accepted.2)
    (present : server.pods.lookup tracked.key = some stored)
    (built : revertBoostResourcesPatch lib tracked = (mutated, .ok patch))
    (resizes : ApiServer.resized lib patch stored = .ok updated)
    (sameKey : updated.key = tracked.key) :
    let outcome := updateBoostPod lib (ApiServer.podClient lib order) tracked server
    (outcome.result = .ok () ↔ accepted = (true, true)) ∧
      outcome.pod = (if accepted.1 then (revertBoostLabels updated).1 else mutated) ∧
      outcome.server.pods.lookup tracked.key =
        some (if accepted.1 then
          (if accepted.2 then (revertBoostLabels updated).1 else updated) else stored) := by
  obtain ⟨resizeAccepted, labelAccepted⟩ := accepted
  simp only [updateBoostPod]
  rw [sendPatch_of_built built, ApiServer.podClient_patchResize]
  cases resizeAccepted with
  | false =>
      rw [ApiServer.call_of_fault resizeFault]
      simp [present]
  | true =>
      rw [ApiServer.call_of_accepted resizeFault present resizes sameKey]
      simp only
      rw [sendPatch_revertBoostLabels lib order labelFault
        (by rw [sameKey, Finmap.lookup_insert])]
      cases labelAccepted with
      | false => simp
      | true => simp [sameKey]

/-- The same on a boost that reverts by patches. -/
theorem attemptRevert_outcome {ref : PodRef} {boost : StartupCPUBoostImpl}
    {memory : Memory ApiServer} {mutated stored updated : Pod} {patch : Json}
    (accepted : Bool × Bool) (patchMode : boost.legacyRevertMode = false)
    (present : memory.server.pods.lookup (memory.pods ref).key = some stored)
    (built : revertBoostResourcesPatch lib (memory.pods ref) = (mutated, .ok patch))
    (resizes : ApiServer.resized lib patch stored = .ok updated)
    (sameKey : updated.key = (memory.pods ref).key) :
    let outcome := attemptRevert lib order ref accepted boost memory
    outcome.boost.legacyRevertMode = false ∧
      (outcome.result = .ok () ↔ accepted = (true, true)) ∧
      outcome.memory.pods ref =
        (if accepted.1 then (revertBoostLabels updated).1 else mutated) ∧
      outcome.memory.server.pods.lookup (memory.pods ref).key =
        some (if accepted.1 then
          (if accepted.2 then (revertBoostLabels updated).1 else updated) else stored) := by
  have resizeFault : (ApiServer.mk memory.server.pods
      [!accepted.1, !accepted.2]).faults.headD false = !accepted.1 := rfl
  have calls := updateBoostPod_outcome lib order accepted resizeFault rfl present built resizes
    sameKey
  simp only [attemptRevert]
  refine ⟨?_, ?_, ?_, ?_⟩
  · rw [(boost.touches_revertResources lib _ ref _).boost_eq]
    exact patchMode
  · rw [StartupCPUBoostImpl.revertResources_result, StartupCPUBoostImpl.revertCalls, patchMode]
    exact calls.1
  · rw [StartupCPUBoostImpl.revertResources_pods, Function.update_self,
      StartupCPUBoostImpl.revertCalls, patchMode]
    exact calls.2.1
  · rw [StartupCPUBoostImpl.revertResources_server, StartupCPUBoostImpl.revertCalls, patchMode]
    exact calls.2.2

@[simp]
theorem boostAnnotationFromPod_revertBoostLabels (pod : Pod) :
    boostAnnotationFromPod lib (revertBoostLabels pod).1 = .error "boost annotation not found" := by
  simp [boostAnnotationFromPod, revertBoostLabels]

/-- The object has been restored already, or has no annotation any more: every
later resize patch is empty, and the stored containers stay as they are. -/
structure Settled (ref : PodRef) (key : PodKey) (containers : List Container)
    (boost : StartupCPUBoostImpl) (memory : Memory ApiServer) : Prop where
  patchMode : boost.legacyRevertMode = false
  trackedKey : (memory.pods ref).key = key
  stored : ∃ pod, memory.server.pods.lookup key = some pod ∧ pod.key = key ∧
    pod.containers = containers
  nothingSent : revertBoostResourcesPatch lib (memory.pods ref) = (memory.pods ref, .ok .empty)

theorem Settled.attempt {ref : PodRef} {key : PodKey} {containers : List Container}
    {boost : StartupCPUBoostImpl} {memory : Memory ApiServer}
    (settled : Settled lib ref key containers boost memory) (accepted : Bool × Bool) :
    let outcome := attemptRevert lib order ref accepted boost memory
    Settled lib ref key containers outcome.boost outcome.memory ∧
      (outcome.result = .ok () ↔ accepted = (true, true)) := by
  obtain ⟨patchMode, trackedKey, ⟨stored, present, storedKey, sameContainers⟩, nothingSent⟩ :=
    settled
  have outcome := attemptRevert_outcome lib order accepted patchMode
    (by rw [trackedKey]; exact present) nothingSent (ApiServer.resized_empty lib stored)
    (storedKey.trans trackedKey.symm)
  obtain ⟨stillPatchMode, result, tracked, stored'⟩ := outcome
  rw [trackedKey] at stored'
  refine ⟨⟨stillPatchMode, ?_, ⟨_, stored', ?_, ?_⟩, ?_⟩, result⟩
  · rw [tracked]
    split
    · exact storedKey
    · exact trackedKey
  · split <;> try split
    all_goals exact storedKey
  · split <;> try split
    all_goals exact sameContainers
  · rw [tracked]
    split
    · exact revertBoostResourcesPatch_of_error lib
        (boostAnnotationFromPod_revertBoostLabels lib stored)
    · exact nothingSent

/-- Over a settled run the attempts that succeed are those whose calls are both
accepted, and each leaves the containers as they were. -/
theorem Settled.attempts {ref : PodRef} {key : PodKey} {containers : List Container}
    {boost : StartupCPUBoostImpl} {memory : Memory ApiServer}
    (settled : Settled lib ref key containers boost memory) (pattern : List (Bool × Bool)) :
    (∀ outcome ∈ revertAttempts lib order ref pattern boost memory,
      ∃ pod, outcome.memory.server.pods.lookup key = some pod ∧ pod.containers = containers) ∧
    ((∃ outcome ∈ revertAttempts lib order ref pattern boost memory, outcome.result = .ok ()) ↔
      (true, true) ∈ pattern) := by
  induction pattern generalizing boost memory with
  | nil => simp [revertAttempts]
  | cons accepted pattern ih =>
      obtain ⟨settled', result⟩ := settled.attempt lib order accepted
      obtain ⟨ihStored, ihResult⟩ := ih settled'
      obtain ⟨pod, present, _, sameContainers⟩ := settled'.stored
      constructor
      · intro outcome member
        rcases List.mem_cons.mp member with rfl | later
        · exact ⟨pod, present, sameContainers⟩
        · exact ihStored outcome later
      · simp only [revertAttempts, List.mem_cons, exists_eq_or_imp, ihResult, result]
        rw [eq_comm]

section FirstAttempt

variable {ref : PodRef} {boost : StartupCPUBoostImpl} {memory : Memory ApiServer}
  {annot : BoostPodAnnotation}

/-- After the first attempt the run is settled, on the recorded resources if
the server accepted the resize patch and on the boosted ones if it did not. -/
theorem settled_after_first_attempt (patchMode : boost.legacyRevertMode = false)
    (inSync : memory.server.pods.lookup (memory.pods ref).key = some (memory.pods ref))
    (recorded : boostAnnotationFromPod lib (memory.pods ref) = .ok annot)
    (readable : Readable lib annot) (accepted : Bool × Bool) :
    let outcome := attemptRevert lib order ref accepted boost memory
    Settled lib ref (memory.pods ref).key
      (if accepted.1 then (restoredPod lib annot (memory.pods ref)).containers
        else (memory.pods ref).containers) outcome.boost outcome.memory ∧
      (outcome.result = .ok () ↔ accepted = (true, true)) := by
  have built := revertBoostResourcesPatch_of_readable lib recorded readable
  have patched := ApiServer.patchedBody_diff lib (memory.pods ref)
    (restoredPod lib annot (memory.pods ref))
  have resizes := ApiServer.resized_of_patchedBody lib patched rfl fun _ => rfl
  obtain ⟨stillPatchMode, result, tracked, stored⟩ :=
    attemptRevert_outcome lib order accepted patchMode inSync built resizes rfl
  refine ⟨⟨stillPatchMode, ?_, ⟨_, stored, ?_, ?_⟩, ?_⟩, result⟩
  · rw [tracked]
    split <;> rfl
  · split <;> try split
    all_goals rfl
  · split <;> try split
    all_goals rfl
  · rw [tracked]
    split
    · exact revertBoostResourcesPatch_of_error lib
        (boostAnnotationFromPod_revertBoostLabels lib _)
    · -- The object has kept its annotation, but restoring it again changes nothing.
      exact revertBoostResourcesPatch_restoredPod lib recorded readable

/-- Every attempt that succeeds leaves the recorded CPU resources at the server
exactly when the first resize patch was accepted, or no attempt succeeded at
all, or the pod had these resources before. -/
theorem recorded_cpu_stored_iff (patchMode : boost.legacyRevertMode = false)
    (inSync : memory.server.pods.lookup (memory.pods ref).key = some (memory.pods ref))
    (recorded : boostAnnotationFromPod lib (memory.pods ref) = .ok annot)
    (readable : Readable lib annot) (pattern : List (Bool × Bool)) :
    (∀ outcome ∈ revertAttempts lib order ref pattern boost memory,
      outcome.result = .ok () →
        ∃ stored, outcome.memory.server.pods.lookup (memory.pods ref).key = some stored ∧
          ∀ container ∈ stored.containers, HasRecordedCPU lib annot container) ↔
      (∃ labelAccepted, pattern.head? = some (true, labelAccepted)) ∨
        (true, true) ∉ pattern ∨
        ∀ container ∈ (memory.pods ref).containers, HasRecordedCPU lib annot container := by
  cases pattern with
  | nil => simp [revertAttempts]
  | cons accepted pattern =>
      obtain ⟨settled, result⟩ := settled_after_first_attempt lib order patchMode inSync recorded
        readable accepted
      obtain ⟨laterStored, laterResult⟩ := settled.attempts lib order pattern
      obtain ⟨pod, present, _, containers⟩ := settled.stored
      have stored : ∀ outcome ∈ revertAttempts lib order ref (accepted :: pattern) boost memory,
          ∃ pod, outcome.memory.server.pods.lookup (memory.pods ref).key = some pod ∧
            pod.containers = if accepted.1 then (restoredPod lib annot (memory.pods ref)).containers
              else (memory.pods ref).containers := by
        intro outcome member
        rcases List.mem_cons.mp member with rfl | later
        · exact ⟨pod, present, containers⟩
        · exact laterStored outcome later
      have succeeds : (∃ outcome ∈ revertAttempts lib order ref (accepted :: pattern) boost memory,
          outcome.result = .ok ()) ↔ (true, true) ∈ accepted :: pattern := by
        simp only [revertAttempts, List.mem_cons, exists_eq_or_imp, laterResult, result]
        rw [eq_comm]
      obtain ⟨resizeAccepted, labelAccepted⟩ := accepted
      cases resizeAccepted with
      | true =>
          refine iff_of_true ?_ (.inl ⟨labelAccepted, rfl⟩)
          intro outcome member _
          obtain ⟨pod, present, restored⟩ := stored outcome member
          refine ⟨pod, present, fun container inPod => ?_⟩
          rw [restored] at inPod
          exact hasRecordedCPU_of_mem_map lib readable inPod
      | false =>
          constructor
          · intro restored
            refine .inr (or_iff_not_imp_left.mpr fun bothAccepted => ?_)
            obtain ⟨outcome, member, success⟩ := succeeds.mpr (not_not.mp bothAccepted)
            obtain ⟨pod, present, unchanged⟩ := stored outcome member
            obtain ⟨pod', present', recorded⟩ := restored outcome member success
            obtain rfl : pod = pod' := Option.some.inj (present.symm.trans present')
            rwa [unchanged] at recorded
          · rintro (⟨_, first⟩ | neverBoth | already) outcome member success
            · cases first
            · exact absurd (succeeds.mp ⟨outcome, member, success⟩) neverBoth
            · obtain ⟨pod, present, unchanged⟩ := stored outcome member
              exact ⟨pod, present, unchanged ▸ already⟩

end FirstAttempt

namespace Reference

def trackingBoost : StartupCPUBoostImpl where
  name := "boost"
  ns := "default"
  selector := fun _ => true
  durationPolicies := ∅
  resourcePolicies := ∅
  pods := (∅ : GoMap String PodRef).insert "web" 0
  legacyRevertMode := false

noncomputable def syncedMemory : Memory ApiServer where
  pods := fun _ => boostedPod
  delivered := fun _ => boostedPod
  next := 1
  metrics := {}
  server := ⟨(∅ : GoMap PodKey Pod).insert boostedPod.key boostedPod, []⟩

theorem trackingBoost_patchMode : trackingBoost.legacyRevertMode = false := rfl

theorem syncedMemory_inSync :
    syncedMemory.server.pods.lookup (syncedMemory.pods 0).key = some (syncedMemory.pods 0) :=
  Finmap.lookup_insert _

theorem recorded_cpu_stored_iff_boostedPod :
    Readable referenceLibrary appAnnot ∧
      ∀ outcome ∈ revertAttempts referenceLibrary .arbitrary 0 [(true, false), (true, true)]
          trackingBoost syncedMemory,
        outcome.result = .ok () →
          ∃ stored, outcome.memory.server.pods.lookup boostedPod.key = some stored ∧
            ∀ container ∈ stored.containers, HasRecordedCPU referenceLibrary appAnnot container :=
  ⟨readable_appAnnot,
    (recorded_cpu_stored_iff referenceLibrary .arbitrary trackingBoost_patchMode
      syncedMemory_inSync boostAnnotationFromPod_boostedPod readable_appAnnot _).mpr
        (.inl ⟨false, rfl⟩)⟩

/-- The resize patch is rejected once.  The second attempt succeeds, and the
stored pod still has the boosted CPU request of 2 where 1 is recorded. -/
theorem rejected_resize_leaves_pod_boosted :
    boostAnnotationFromPod referenceLibrary boostedPod = .ok appAnnot ∧
      Readable referenceLibrary appAnnot ∧
      appAnnot.initCPURequests.lookup "app" = some "1" ∧
      ∃ outcome ∈ revertAttempts referenceLibrary .arbitrary 0 [(false, true), (true, true)]
          trackingBoost syncedMemory,
        outcome.result = .ok () ∧
          ∃ stored, outcome.memory.server.pods.lookup boostedPod.key = some stored ∧
            ∃ container ∈ stored.containers, container.name = "app" ∧
              container.resources.requests.lookup resourceCPU = some 2 := by
  obtain ⟨settled, _⟩ := settled_after_first_attempt referenceLibrary .arbitrary
    trackingBoost_patchMode syncedMemory_inSync boostAnnotationFromPod_boostedPod
    readable_appAnnot (false, true)
  obtain ⟨stored, succeeds⟩ := settled.attempts referenceLibrary .arbitrary [(true, true)]
  obtain ⟨outcome, member, success⟩ := succeeds.mpr (List.mem_singleton_self _)
  obtain ⟨pod, present, unchanged⟩ := stored outcome member
  refine ⟨boostAnnotationFromPod_boostedPod, readable_appAnnot, by decide +kernel, outcome,
    List.mem_cons_of_mem _ member, success, pod, present, appContainer 2 4, ?_, rfl,
    by decide +kernel⟩
  rw [unchanged]
  exact List.mem_singleton_self _

end Reference

end KubeStartupCPUBoost
