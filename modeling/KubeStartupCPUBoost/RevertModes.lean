import KubeStartupCPUBoost.PodRevertAttempts

/-!
# The two ways to revert a pod

A boost reverts a pod by two merge patches, or in legacy mode by an update of the
whole object.  When the server accepts every call and stores what the controller
has, the update stores the reverted pod, and so do the patches.  They differ in
what they do with an annotation that cannot be read: the update is not sent and
the revert fails, while the resize patch is replaced by an empty one and the label
patch removes the annotation all the same.
-/

namespace KubeStartupCPUBoost

variable (lib : Library) (order : RangeOrder PodKey)

section Calls

variable {lib} {pod : Pod} {server : ApiServer}
  (accepting : server.faults = []) (inSync : server.pods.lookup pod.key = some pod)

include accepting inSync

/-- In patch mode the revert succeeds whatever the annotation is. -/
theorem updateBoostPod_of_unreadable {message : String}
    (unreadable : (revertBoostResources lib pod).2 = .error message) :
    (updateBoostPod lib (ApiServer.podClient lib order) pod server).result = .ok () := by
  have built : revertBoostResourcesPatch lib pod =
      ((revertBoostResources lib pod).1, .ok .empty) := by
    unfold revertBoostResourcesPatch buildPodPatch
    rw [show revertBoostResources lib pod = ((revertBoostResources lib pod).1, .error message) from
      Prod.ext rfl unreadable]
  have outcome := updateBoostPod_outcome lib order (true, true) (by rw [accepting]; rfl)
    (by rw [accepting]; rfl) inSync built (ApiServer.resized_empty lib pod) rfl
  exact outcome.1.mpr rfl

theorem updateBoostPod_of_revertible {annot : BoostPodAnnotation}
    (recorded : boostAnnotationFromPod lib pod = .ok annot)
    (readable : ∀ container ∈ pod.containers, ReadableFor lib annot container) :
    let outcome := updateBoostPod lib (ApiServer.podClient lib order) pod server
    outcome.result = .ok () ∧ outcome.server.pods.lookup pod.key =
      some (revertBoostLabels (restoredPod lib annot pod)).1 := by
  have built : revertBoostResourcesPatch lib pod = _ :=
    revertBoostResourcesPatch_of_ok lib (revertBoostResources_of_readableFor lib recorded readable)
  have resizes := ApiServer.resized_of_patchedBody lib
    (ApiServer.patchedBody_diff lib pod (restoredPod lib annot pod)) rfl fun _ => rfl
  obtain ⟨result, _, stored⟩ := updateBoostPod_outcome lib order (true, true)
    (by rw [accepting]; rfl) (by rw [accepting]; rfl) inSync built resizes rfl
  exact ⟨result.mpr rfl, stored⟩

theorem updateBoostPodLegacy_of_revertible {annot : BoostPodAnnotation}
    (recorded : boostAnnotationFromPod lib pod = .ok annot)
    (readable : ∀ container ∈ pod.containers, ReadableFor lib annot container) :
    let outcome := updateBoostPodLegacy lib (ApiServer.podClient lib order) pod server
    outcome.result = .ok () ∧ outcome.server.pods.lookup pod.key =
      some (revertBoostLabels (restoredPod lib annot pod)).1 := by
  have reverted : revertResourceBoost lib pod =
      ((revertBoostLabels (restoredPod lib annot pod)).1, .ok ()) := by
    rw [revertResourceBoost, revertBoostResources_of_readableFor lib recorded readable]
    rfl
  have replaced : ApiServer.replaced (revertBoostLabels (restoredPod lib annot pod)).1 pod =
      .ok (revertBoostLabels (restoredPod lib annot pod)).1 := if_pos rfl
  have updated : (ApiServer.podClient lib order).update
      (revertBoostLabels (restoredPod lib annot pod)).1 server = _ :=
    ApiServer.call_of_accepted (by rw [accepting]; rfl) inSync replaced rfl
  simp only [updateBoostPodLegacy, reverted, updated]
  exact ⟨trivial, Finmap.lookup_insert _⟩

omit accepting inSync in
theorem updateBoostPodLegacy_of_unreadable {message : String}
    (unreadable : (revertBoostResources lib pod).2 = .error message) :
    (updateBoostPodLegacy lib (ApiServer.podClient lib order) pod server).result ≠ .ok () := by
  have failed : (revertResourceBoost lib pod).2 = .error message := by
    unfold revertResourceBoost
    rw [show revertBoostResources lib pod = ((revertBoostResources lib pod).1, .error message) from
      Prod.ext rfl unreadable]
  unfold updateBoostPodLegacy
  rw [show revertResourceBoost lib pod = ((revertResourceBoost lib pod).1, .error message) from
    Prod.ext rfl failed]
  nofun

end Calls

section Modes

variable (ref : PodRef) (boost : StartupCPUBoostImpl) (memory : Memory ApiServer)

def revertIn (legacyRevertMode : Bool) : BoostOutcome ApiServer :=
  { boost with legacyRevertMode }.revertResources lib (ApiServer.podClient lib order) ref memory

theorem revertIn_result (legacyRevertMode : Bool) :
    (revertIn lib order ref boost memory legacyRevertMode).result =
      (revertPod lib (ApiServer.podClient lib order) legacyRevertMode (memory.pods ref)
        memory.server).result :=
  StartupCPUBoostImpl.revertResources_result lib _ ref _ memory

private theorem revertIn_server (legacyRevertMode : Bool) :
    (revertIn lib order ref boost memory legacyRevertMode).memory.server =
      (revertPod lib (ApiServer.podClient lib order) legacyRevertMode (memory.pods ref)
        memory.server).server :=
  StartupCPUBoostImpl.revertResources_server lib _ ref _ memory

/-- Both modes return an error or neither does; when they succeed, the stored pods
have the same container resources, labels and annotations. -/
def ModesAgree : Prop :=
  let legacy := revertIn lib order ref boost memory true
  let patches := revertIn lib order ref boost memory false
  (legacy.result = .ok () ↔ patches.result = .ok ()) ∧
    (legacy.result = .ok () → patches.result = .ok () →
      ∃ updated patched,
        legacy.memory.server.pods.lookup (memory.pods ref).key = some updated ∧
        patches.memory.server.pods.lookup (memory.pods ref).key = some patched ∧
        updated.containers.map Container.name = patched.containers.map Container.name ∧
        updated.containers.map Container.resources =
          patched.containers.map Container.resources ∧
        updated.labels = patched.labels ∧ updated.annotations = patched.annotations)

variable {lib order ref boost memory}

/-- On a pod that the server stores as the controller has it, and with every call
accepted, the two modes agree exactly when the recorded resources can be read. -/
theorem modesAgree_iff_revertible
    (inSync : memory.server.pods.lookup (memory.pods ref).key = some (memory.pods ref))
    (accepting : memory.server.faults = []) :
    ModesAgree lib order ref boost memory ↔ Revertible lib (memory.pods ref) := by
  simp only [ModesAgree, revertIn_result, revertIn_server]
  constructor
  · rintro ⟨sameResult, -⟩
    by_contra notRevertible
    rw [← revertBoostResources_ok_iff] at notRevertible
    cases unreadable : (revertBoostResources lib (memory.pods ref)).2 with
    | ok => exact notRevertible unreadable
    | error message =>
        refine updateBoostPodLegacy_of_unreadable order unreadable (sameResult.mpr ?_)
        exact updateBoostPod_of_unreadable order accepting inSync unreadable
  · rintro ⟨annot, recorded, readable⟩
    obtain ⟨legacyOk, updated⟩ :=
      updateBoostPodLegacy_of_revertible order accepting inSync recorded readable
    obtain ⟨patchesOk, patched⟩ :=
      updateBoostPod_of_revertible order accepting inSync recorded readable
    refine ⟨iff_of_true legacyOk patchesOk, fun _ _ => ?_⟩
    exact ⟨_, _, updated, patched, rfl, rfl, rfl, rfl⟩

end Modes

namespace Reference

theorem modesAgree_boostedPod :
    ModesAgree referenceLibrary .arbitrary 0 trackingBoost syncedMemory :=
  (modesAgree_iff_revertible syncedMemory_inSync rfl).mpr
    ⟨appAnnot, boostAnnotationFromPod_boostedPod, fun container _ =>
      readable_appAnnot.readableFor referenceLibrary container⟩

noncomputable def unannotatedPod : Pod := { boostedPod with annotations := ∅ }

noncomputable def unannotatedMemory : Memory ApiServer :=
  { syncedMemory with
    pods := fun _ => unannotatedPod
    server := ⟨(∅ : GoMap PodKey Pod).insert unannotatedPod.key unannotatedPod, []⟩ }

/-- Without the annotation the update is never sent, while the patches remove the boost
label. -/
theorem unannotated_pod_reverted_by_patches_only :
    unannotatedMemory.server.pods.lookup (unannotatedMemory.pods 0).key =
        some (unannotatedMemory.pods 0) ∧
      unannotatedMemory.server.faults = [] ∧
      (revertIn referenceLibrary .arbitrary 0 trackingBoost unannotatedMemory true).result ≠
        .ok () ∧
      (revertIn referenceLibrary .arbitrary 0 trackingBoost unannotatedMemory false).result =
        .ok () := by
  have inSync : unannotatedMemory.server.pods.lookup unannotatedPod.key = some unannotatedPod :=
    Finmap.lookup_insert _
  have unreadable : (revertBoostResources referenceLibrary unannotatedPod).2 =
      .error "failed to get boost annotation from pod: boost annotation not found" := rfl
  refine ⟨inSync, rfl, ?_, ?_⟩
  · rw [revertIn_result]
    exact updateBoostPodLegacy_of_unreadable .arbitrary unreadable
  · rw [revertIn_result]
    exact updateBoostPod_of_unreadable .arbitrary rfl inSync unreadable

end Reference

end KubeStartupCPUBoost
