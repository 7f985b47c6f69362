import KubeStartupCPUBoost.RevertModes

/-!
# What a failed revert leaves in memory

A revert changes the controller's object before it calls the API: container by
container, and in the legacy mode also in its label and annotation.  Nothing is
undone when a quantity cannot be read or a call is rejected.

`failed_revert_keeps_iff` says for every failing point when the tracked state
is the one before the call: only when what the revert reached held the recorded
amounts already.
-/

namespace KubeStartupCPUBoost

variable (lib : Library)

/-- The recorded amount is there already, if it can be read. -/
def HoldsRecorded (recorded : Option String) (resources : ResourceList) : Prop :=
  ∀ text quantity, recorded = some text → lib.parseQuantity text = .ok quantity →
    resources.lookup resourceCPU = some quantity

/-- The container has the recorded amounts that the loop comes to write: the
limit only if the request can be read. -/
def ContainerHolds (annot : BoostPodAnnotation) (container : Container) : Prop :=
  HoldsRecorded lib (annot.initCPURequests.lookup container.name) container.resources.requests ∧
    ((∀ text, annot.initCPURequests.lookup container.name = some text →
        ∃ quantity, lib.parseQuantity text = .ok quantity) →
      HoldsRecorded lib (annot.initCPULimits.lookup container.name) container.resources.limits)

def ReachedHold (annot : BoostPodAnnotation) : List Container → Prop
  | [] => True
  | container :: rest =>
      ContainerHolds lib annot container ∧
        (ReadableFor lib annot container → ReachedHold annot rest)

private theorem revertCPU_eq_self_iff (kind : String) (recorded : Option String)
    (resources : ResourceList) :
    (revertCPU lib kind recorded resources).1 = resources ↔
      HoldsRecorded lib recorded resources := by
  unfold HoldsRecorded revertCPU
  cases recorded with
  | none => simp
  | some text =>
      cases parsed : lib.parseQuantity text with
      | error message =>
          simp only [parsed, true_iff]
          rintro _ quantity ⟨⟩ readable
          rw [parsed] at readable
          cases readable
      | ok quantity =>
          simp only [parsed]
          constructor
          · rintro unchanged _ _ ⟨⟩ readable
            rw [parsed] at readable
            cases readable
            rw [← unchanged, Finmap.lookup_insert]
          · exact fun held => GoMap.insert_of_lookup (held text quantity rfl parsed)

def namedResources (containers : List Container) : List (String × ResourceRequirements) :=
  containers.map fun container => (container.name, container.resources)

private theorem revertContainer_eq_self_iff (annot : BoostPodAnnotation) (container : Container) :
    ((revertContainer lib annot container).1.name,
        (revertContainer lib annot container).1.resources) =
          (container.name, container.resources) ↔
      ContainerHolds lib annot container := by
  have requests := revertCPU_eq_self_iff lib "request"
    (annot.initCPURequests.lookup container.name) container.resources.requests
  have limits := revertCPU_eq_self_iff lib "limit"
    (annot.initCPULimits.lookup container.name) container.resources.limits
  have readable := revertCPU_ok_iff lib "request"
    (annot.initCPURequests.lookup container.name) container.resources.requests
  unfold ContainerHolds
  rw [← requests, ← limits, ← readable]
  obtain ⟨name, ⟨requestList, limitList⟩, resizePolicy⟩ := container
  unfold revertContainer
  cases revertCPU lib "request" (annot.initCPURequests.lookup name) requestList with
  | mk reverted outcome => cases outcome <;> simp

private theorem revertContainers_eq_self_iff (annot : BoostPodAnnotation)
    (containers : List Container) :
    namedResources (revertContainers lib annot containers).1 = namedResources containers ↔
      ReachedHold lib annot containers := by
  induction containers with
  | nil => exact iff_of_true rfl trivial
  | cons container containers ih =>
      have head := revertContainer_eq_self_iff lib annot container
      have readable := revertContainer_ok_iff lib annot container
      rw [ReachedHold, ← head, ← readable, ← ih, revertContainers]
      cases revertContainer lib annot container with
      | mk reverted outcome => cases outcome <;> simp [namedResources]

/-- The containers that a revert of the pod reaches hold what is recorded; of a
pod without a readable annotation it reaches none. -/
def RevertReachesHeld (pod : Pod) : Prop :=
  ∀ annot, boostAnnotationFromPod lib pod = .ok annot → ReachedHold lib annot pod.containers

theorem revertBoostResources_eq_self_iff (pod : Pod) :
    namedResources (revertBoostResources lib pod).1.containers = namedResources pod.containers ↔
      RevertReachesHeld lib pod := by
  unfold revertBoostResources RevertReachesHeld
  cases boostAnnotationFromPod lib pod with
  | error message => simp
  | ok annot => simp [revertContainers_eq_self_iff]

/-- Two objects agree on the resources of their containers and on their labels
and annotations. -/
structure SameTracked (pod pod' : Pod) : Prop where
  resources : namedResources pod'.containers = namedResources pod.containers
  labels : pod'.labels = pod.labels
  annotations : pod'.annotations = pod.annotations

variable {σ : Type} (client : PodClient σ)

/-- What the API answers to the resize patch of a pod, if it accepts it. -/
def resizeAnswer (pod : Pod) (server : σ) : Option Pod :=
  match (revertBoostResourcesPatch lib pod).2 with
  | .error _ => none
  | .ok patch => (client.patchResize pod.key patch server).1.toOption

/-- The object has neither the boost label nor the boost annotation, and an answer
has its container resources and its other labels and annotations. -/
structure AnsweredUnchanged (pod answer : Pod) : Prop where
  resources : namedResources answer.containers = namedResources pod.containers
  unlabelled : pod.labels.lookup boostLabelKey = none
  labels : ∀ key, key ≠ boostLabelKey → answer.labels.lookup key = pod.labels.lookup key
  unannotated : pod.annotations.lookup boostAnnotationKey = none
  annotations : ∀ key, key ≠ boostAnnotationKey →
    answer.annotations.lookup key = pod.annotations.lookup key

/-- A failing revert leaves the object as it is: in the legacy mode if it stops
before the update, at containers that hold what is recorded; else if the resize
patch is rejected and the containers hold what is recorded, or if the answer to
the resize patch is the object, which had nothing to remove. -/
def LeavesAsIs (legacyRevertMode : Bool) (pod : Pod) (server : σ) : Prop :=
  if legacyRevertMode then ¬ Revertible lib pod ∧ RevertReachesHeld lib pod
  else
    match resizeAnswer lib client pod server with
    | none => RevertReachesHeld lib pod
    | some answer => AnsweredUnchanged pod answer

theorem resizeAnswer_of_error {pod : Pod} {server : σ} {message : String}
    (rejected : (sendPatch (revertBoostResourcesPatch lib) client.patchResize pod server).result =
      .error message) : resizeAnswer lib client pod server = none := by
  unfold resizeAnswer
  cases built : revertBoostResourcesPatch lib pod with
  | mk mutated outcome =>
      cases outcome with
      | error message => rfl
      | ok patch =>
          rw [sendPatch_of_built built] at rejected
          cases sent : client.patchResize pod.key patch server with
          | mk answer after =>
              rw [sent] at rejected
              cases answer with
              | error message => simp [sent, Except.toOption]
              | ok stored => cases rejected

theorem resizeAnswer_of_ok {pod : Pod} {server : σ}
    (accepted : (sendPatch (revertBoostResourcesPatch lib) client.patchResize pod server).result =
      .ok ()) :
    resizeAnswer lib client pod server =
      some (sendPatch (revertBoostResourcesPatch lib) client.patchResize pod server).pod := by
  unfold resizeAnswer
  cases built : revertBoostResourcesPatch lib pod with
  | mk mutated outcome =>
      cases outcome with
      | error message =>
          rw [sendPatch, built] at accepted
          cases accepted
      | ok patch =>
          obtain ⟨stored, answered, outcome⟩ := sendPatch_ok built accepted
          rw [outcome]
          simp [answered, Except.toOption]

/-- Removing an entry from an answer gives back the entries of the object exactly
if the object does not have it and they agree on all others. -/
private theorem erase_eq_iff (answered stored : StringMap) (removed : String) :
    answered.erase removed = stored ↔
      stored.lookup removed = none ∧
        ∀ key, key ≠ removed → answered.lookup key = stored.lookup key := by
  constructor
  · rintro rfl
    refine ⟨Finmap.lookup_erase removed answered, ?_⟩
    intro key other
    rw [Finmap.lookup_erase_ne other]
  · rintro ⟨absent, same⟩
    apply Finmap.ext_lookup
    intro key
    by_cases isRemoved : key = removed
    · rw [isRemoved, Finmap.lookup_erase, absent]
    · rw [Finmap.lookup_erase_ne isRemoved, same key isRemoved]

theorem sameTracked_revertBoostLabels_iff (pod answer : Pod) :
    SameTracked pod (revertBoostLabels answer).1 ↔ AnsweredUnchanged pod answer := by
  have labels := erase_eq_iff answer.labels pod.labels boostLabelKey
  have annotations := erase_eq_iff answer.annotations pod.annotations boostAnnotationKey
  constructor
  · intro same
    obtain ⟨unlabelled, sameLabels⟩ := labels.mp same.labels
    obtain ⟨unannotated, sameAnnotations⟩ := annotations.mp same.annotations
    exact ⟨same.resources, unlabelled, sameLabels, unannotated, sameAnnotations⟩
  · intro unchanged
    exact ⟨unchanged.resources, labels.mpr ⟨unchanged.unlabelled, unchanged.labels⟩,
      annotations.mpr ⟨unchanged.unannotated, unchanged.annotations⟩⟩

theorem sameTracked_revertBoostResources_iff (pod : Pod) :
    SameTracked pod (revertBoostResources lib pod).1 ↔ RevertReachesHeld lib pod := by
  obtain ⟨containers, reverted⟩ := revertBoostResources_eq lib pod
  rw [← revertBoostResources_eq_self_iff]
  constructor
  · exact fun same => same.resources
  · intro resources
    refine ⟨resources, ?_, ?_⟩
    · rw [reverted]
    · rw [reverted]

private theorem not_sameTracked_revertBoostLabels {pod : Pod} (revertible : Revertible lib pod)
    (reverted : Pod) : ¬ SameTracked pod (revertBoostLabels reverted).1 := by
  rw [sameTracked_revertBoostLabels_iff]
  intro unchanged
  obtain ⟨annot, recorded, -⟩ := revertible
  rw [boostAnnotationFromPod, unchanged.unannotated] at recorded
  cases recorded

private theorem updateBoostPodLegacy_sameTracked_iff {pod : Pod} {server : σ} {message : String}
    (failed : (updateBoostPodLegacy lib client pod server).result = .error message) :
    SameTracked pod (updateBoostPodLegacy lib client pod server).pod ↔
      ¬ Revertible lib pod ∧ RevertReachesHeld lib pod := by
  rcases updateBoostPodLegacy_failed lib client failed with
    ⟨notRevertible, left⟩ | ⟨revertible, left⟩
  · rw [left, sameTracked_revertBoostResources_iff]
    exact (and_iff_right notRevertible).symm
  · rw [left]
    exact iff_of_false (not_sameTracked_revertBoostLabels lib revertible _)
      (fun kept => kept.1 revertible)

private theorem updateBoostPod_sameTracked_iff {pod : Pod} {server : σ} {message : String}
    (failed : (updateBoostPod lib client pod server).result = .error message) :
    SameTracked pod (updateBoostPod lib client pod server).pod ↔
      LeavesAsIs lib client false pod server := by
  simp only [LeavesAsIs, Bool.false_eq_true, if_false]
  rcases updateBoostPod_failed lib client failed with
    ⟨⟨message, rejected⟩, left⟩ | ⟨resized, left⟩
  · rw [left, resizeAnswer_of_error lib client rejected]
    exact sameTracked_revertBoostResources_iff lib pod
  · rw [left, resizeAnswer_of_ok lib client resized]
    exact sameTracked_revertBoostLabels_iff pod _

private theorem revertPod_sameTracked_iff {legacyRevertMode : Bool} {pod : Pod} {server : σ}
    {message : String}
    (failed : (revertPod lib client legacyRevertMode pod server).result = .error message) :
    SameTracked pod (revertPod lib client legacyRevertMode pod server).pod ↔
      LeavesAsIs lib client legacyRevertMode pod server := by
  cases legacyRevertMode with
  | true => exact updateBoostPodLegacy_sameTracked_iff lib client failed
  | false => exact updateBoostPod_sameTracked_iff lib client failed

/-- The tracked state is the one before: the object's resources, labels and
annotations, the other objects, the tracked pods and the statistics. -/
structure KeepsTrackedState (ref : PodRef) (boost : StartupCPUBoostImpl) (memory : Memory σ)
    (outcome : BoostOutcome σ) : Prop where
  object : SameTracked (memory.pods ref) (outcome.memory.pods ref)
  others : ∀ other, other ≠ ref → outcome.memory.pods other = memory.pods other
  pods : outcome.boost.pods = boost.pods
  stats : outcome.boost.stats = boost.stats

/-- A failed revert keeps the tracked state exactly when it leaves the object as
it is. -/
theorem failed_revert_keeps_iff {ref : PodRef} {boost : StartupCPUBoostImpl} {memory : Memory σ}
    {message : String}
    (failed : (boost.revertResources lib client ref memory).result = .error message) :
    KeepsTrackedState ref boost memory (boost.revertResources lib client ref memory) ↔
      LeavesAsIs lib client boost.legacyRevertMode (memory.pods ref) memory.server := by
  rw [StartupCPUBoostImpl.revertResources_result] at failed
  rw [boost.revertResources_of_error lib client ref memory failed]
  rw [← revertPod_sameTracked_iff lib client failed]
  constructor
  · intro kept
    simpa using kept.object
  · intro same
    refine ⟨?_, fun other different => Function.update_of_ne different _ _, rfl, rfl⟩
    simpa only [Function.update_self] using same

namespace Reference

/-- The tracked object, whose container has the recorded amounts already, and a
server that rejects the resize patch. -/
noncomputable def restoredMemory : Memory ApiServer :=
  { syncedMemory with
    pods := fun _ => restoredPod referenceLibrary appAnnot boostedPod
    server := { syncedMemory.server with faults := [true] } }

/-- The loop writes the amounts that are there. -/
theorem failed_revert_keeps_iff_restored :
    namedResources (restoredMemory.pods 0).containers = [("app", ⟨cpuList 1, cpuList 2⟩)] ∧
      KeepsTrackedState 0 trackingBoost restoredMemory
        (trackingBoost.revertResources referenceLibrary
          (ApiServer.podClient referenceLibrary .arbitrary) 0 restoredMemory) := by
  have restored : restoredMemory.pods 0 = restoredPod referenceLibrary appAnnot boostedPod := rfl
  have recorded : boostAnnotationFromPod referenceLibrary
      (restoredPod referenceLibrary appAnnot boostedPod) = .ok appAnnot :=
    boostAnnotationFromPod_boostedPod
  have patch := revertBoostResourcesPatch_restoredPod referenceLibrary
    boostAnnotationFromPod_boostedPod readable_appAnnot
  have rejected : (sendPatch (revertBoostResourcesPatch referenceLibrary)
      (ApiServer.podClient referenceLibrary .arbitrary).patchResize
        (restoredMemory.pods 0) restoredMemory.server).result = .error "rejected" := by
    rw [restored, sendPatch_of_built patch]
    rfl
  have failed : (trackingBoost.revertResources referenceLibrary
      (ApiServer.podClient referenceLibrary .arbitrary) 0 restoredMemory).result =
        .error "rejected" := by
    rw [StartupCPUBoostImpl.revertResources_result]
    simp only [StartupCPUBoostImpl.revertCalls, revertPod, trackingBoost_patchMode,
      updateBoostPod, rejected, Bool.false_eq_true, if_false]
  constructor
  · simp only [restoredMemory, restoredPod, boostedPod, List.map_cons, List.map_nil]
    rw [restoredContainer_app _ rfl]
    decide +kernel
  · apply (failed_revert_keeps_iff referenceLibrary _ failed).mpr
    simp only [LeavesAsIs, trackingBoost_patchMode, Bool.false_eq_true, if_false]
    rw [resizeAnswer_of_error referenceLibrary _ rejected]
    apply (revertBoostResources_eq_self_iff referenceLibrary _).mp
    rw [restored, revertBoostResources_of_readable referenceLibrary recorded readable_appAnnot,
      restoredPod_restoredPod]

/-- The resize patch is rejected, and the tracked object has the recorded CPU
amounts all the same. -/
theorem rejected_resize_changes_tracked_pod :
    trackingBoost.pods.lookup (syncedMemory.pods 0).name = some 0 ∧
      (attemptRevert referenceLibrary .arbitrary 0 (false, true) trackingBoost
        syncedMemory).result ≠ .ok () ∧
      namedResources (syncedMemory.pods 0).containers = [("app", ⟨cpuList 2, cpuList 4⟩)] ∧
      namedResources ((attemptRevert referenceLibrary .arbitrary 0 (false, true) trackingBoost
        syncedMemory).memory.pods 0).containers = [("app", ⟨cpuList 1, cpuList 2⟩)] := by
  have built := revertBoostResourcesPatch_of_readable referenceLibrary
    boostAnnotationFromPod_boostedPod readable_appAnnot
  have patched := ApiServer.patchedBody_diff referenceLibrary boostedPod
    (restoredPod referenceLibrary appAnnot boostedPod)
  have resizes := ApiServer.resized_of_patchedBody referenceLibrary patched rfl fun _ => rfl
  obtain ⟨-, result, tracked, -⟩ := attemptRevert_outcome referenceLibrary .arbitrary
    (false, true) trackingBoost_patchMode syncedMemory_inSync built resizes rfl
  refine ⟨by decide +kernel, fun succeeded => ?_, rfl, ?_⟩
  · cases result.mp succeeded
  · rw [tracked]
    simp only [Bool.false_eq_true, if_false, restoredPod, boostedPod, List.map_cons, List.map_nil]
    rw [restoredContainer_app _ rfl]
    decide +kernel

end Reference

end KubeStartupCPUBoost
