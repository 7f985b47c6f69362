import KubeStartupCPUBoost.PodRevertAttempts

/-!
# Reverting a pod that other clients have changed

The resize patch is the difference between two versions of the object in
memory.  Containers are an array, which a merge patch replaces as a whole: if
the patch mentions the containers at all, it sets all their resources to those
of the object in memory, and what other clients have written there since is
lost.  Labels and annotations are safe, because the label patch is built from
the server's answer to the resize patch.
-/

namespace KubeStartupCPUBoost

variable (lib : Library) (order : RangeOrder PodKey)

/-- A change of a pod at the server: the resources of a container, a label or
an annotation other than the boost annotation. -/
inductive ClientChange where
  | resize (container : String) (resources : ResourceRequirements)
  | setLabel (key : String) (value : Option String)
  | setAnnot (key : String) (value : Option String) (notBoost : key ≠ boostAnnotationKey)

namespace ClientChange

def setEntry (key : String) (value : Option String) (entries : StringMap) : StringMap :=
  match value with
  | none => entries.erase key
  | some value => entries.insert key value

def apply (pod : Pod) : ClientChange → Pod
  | resize name resources =>
      { pod with
        containers := pod.containers.map fun container =>
          if container.name = name then { container with resources } else container }
  | setLabel key value => { pod with labels := setEntry key value pod.labels }
  | setAnnot key value _ => { pod with annotations := setEntry key value pod.annotations }

end ClientChange

def changedPod (pod : Pod) (changes : List ClientChange) : Pod :=
  changes.foldl ClientChange.apply pod

/-- What other clients do not change. -/
structure ChangedFrom (pod changed : Pod) : Prop where
  key : changed.key = pod.key
  names : changed.containers.map Container.name = pod.containers.map Container.name
  boostAnnotation : changed.annotations.lookup boostAnnotationKey =
    pod.annotations.lookup boostAnnotationKey

private theorem changedFrom_apply (pod : Pod) (change : ClientChange) :
    ChangedFrom pod (change.apply pod) := by
  cases change with
  | resize name resources =>
      refine ⟨rfl, ?_, rfl⟩
      simp only [ClientChange.apply, List.map_map]
      apply List.map_congr_left
      intro container _
      simp only [Function.comp_apply]
      split <;> rfl
  | setLabel key value => exact ⟨rfl, rfl, rfl⟩
  | setAnnot key value notBoost =>
      refine ⟨rfl, rfl, ?_⟩
      cases value with
      | none => exact Finmap.lookup_erase_ne notBoost.symm
      | some value => exact Finmap.lookup_insert_of_ne _ notBoost.symm

theorem changedFrom_changedPod (pod : Pod) (changes : List ClientChange) :
    ChangedFrom pod (changedPod pod changes) := by
  induction changes generalizing pod with
  | nil => exact ⟨rfl, rfl, rfl⟩
  | cons change changes ih =>
      have first := changedFrom_apply pod change
      have later := ih (change.apply pod)
      exact ⟨later.key.trans first.key, later.names.trans first.names,
        later.boostAnnotation.trans first.boostAnnotation⟩

/-- The annotation of a pod, without entries if there is none to be read. -/
def recordedAnnot (pod : Pod) : BoostPodAnnotation :=
  match boostAnnotationFromPod lib pod with
  | .ok annot => annot
  | .error _ => ⟨0, ∅, ∅⟩

/-- The pod with the recorded CPU resources and without the boost label and
annotation. -/
def revertedPod (annot : BoostPodAnnotation) (pod : Pod) : Pod :=
  (revertBoostLabels (restoredPod lib annot pod)).1

/-- If the object in memory has the recorded CPU resources already, then the
stored pod has them, too; otherwise the resources of all containers, the
recorded ones apart, are the same in memory and at the server. -/
def SameOtherResources (annot : BoostPodAnnotation) (cached stored : Pod) : Prop :=
  if cached.containers.map (restoredContainer lib annot) = cached.containers then
    stored.containers.map (restoredContainer lib annot) = stored.containers
  else
    stored.containers.map (fun container => (restoredContainer lib annot container).resources) =
      cached.containers.map fun container => (restoredContainer lib annot container).resources

section Patches

variable {cached stored : Pod} {containers : List Container}

private theorem mergePatch_diff_spec (changed : containers ≠ cached.containers) :
    ((PodSpec.codec lib).encode stored.toPodSpec).mergePatch
        (((PodSpec.codec lib).encode cached.toPodSpec).diff
          ((PodSpec.codec lib).encode { cached.toPodSpec with containers })) =
      (PodSpec.codec lib).encode { stored.toPodSpec with containers } := by
  have object (spec : PodSpec) : ((PodSpec.codec lib).encode spec).IsObject :=
    Json.isObject_object _
  have written (spec : PodSpec) : ((PodSpec.codec lib).encode spec).get? "containers" =
      some ((Container.codec lib).list.encode spec.containers) :=
    Json.get?_object _ _
  apply Json.ext_get? (Json.isObject_mergePatch _ (Json.isObject_diff _ (object _))) (object _)
  intro key
  by_cases isContainers : key = "containers"
  · subst key
    have replaced : (Container.codec lib).list.encode cached.containers ≠
        (Container.codec lib).list.encode containers :=
      fun equal => changed ((Container.codec lib).list.encode_injective equal).symm
    rw [written]
    exact Json.get?_mergePatch_diff_of_replaced (object _) (written _) (written _) id nofun
      replaced
  · have others (spec : PodSpec) : ((PodSpec.codec lib).encode spec).get? key =
        ((PodSpec.codec lib).encode { spec with containers }).get? key := by
      have different : (key == "containers") = false := beq_eq_false_iff_ne.mpr isContainers
      simp only [PodSpec.codec, JsonCodec.record, Json.get?_object, List.lookup_cons, different]
    rw [Json.get?_mergePatch_diff_of_same (object _) (others cached.toPodSpec)]
    exact others stored.toPodSpec

private theorem patchedBody_diff_containers (changed : containers ≠ cached.containers) :
    ApiServer.patchedBody lib
        (((Pod.codec lib).encode cached).diff ((Pod.codec lib).encode { cached with containers }))
        stored =
      .ok { stored with containers } := by
  have object (pod : Pod) : ((Pod.codec lib).encode pod).IsObject := isObject_encode_pod lib pod
  have written (pod : Pod) : ((Pod.codec lib).encode pod).get? "spec" =
      some ((PodSpec.codec lib).encode pod.toPodSpec) :=
    Json.get?_object _ _
  have specObject (spec : PodSpec) : ((PodSpec.codec lib).encode spec).IsObject :=
    Json.isObject_object _
  have merged : ((Pod.codec lib).encode stored).mergePatch (((Pod.codec lib).encode cached).diff
      ((Pod.codec lib).encode { cached with containers })) =
        (Pod.codec lib).encode { stored with containers } := by
    apply Json.ext_get? (Json.isObject_mergePatch _ (Json.isObject_diff _ (object _))) (object _)
    intro key
    by_cases isSpec : key = "spec"
    · subst key
      rw [written, Json.get?_mergePatch_diff_of_objects (object _) (written _) (written _)
        (written _) (specObject _) (specObject _) (specObject _)]
      exact congrArg some (mergePatch_diff_spec lib changed)
    · have others (pod : Pod) : ((Pod.codec lib).encode pod).get? key =
          ((Pod.codec lib).encode { pod with containers }).get? key := by
        have different : (key == "spec") = false := beq_eq_false_iff_ne.mpr isSpec
        simp only [Pod.codec, JsonCodec.record, Json.get?_object, List.lookup_cons, different]
      rw [Json.get?_mergePatch_diff_of_same (object _) (others cached)]
      exact others stored
  unfold ApiServer.patchedBody
  rw [merged, (Pod.codec lib).decode_encode]

end Patches

def resizedContainers (annot : BoostPodAnnotation) (cached stored : Pod) : List Container :=
  if cached.containers.map (restoredContainer lib annot) = cached.containers then
    stored.containers
  else
    stored.containers.zipWith
      (fun container resized => { container with resources := resized.resources })
      (cached.containers.map (restoredContainer lib annot))

@[simp]
theorem restoredContainer_of_nothing (container : Container) :
    restoredContainer lib ⟨0, ∅, ∅⟩ container = container :=
  rfl

/-- The patch sent for the object in memory, and what the server makes of it. -/
theorem resized_revertBoostResourcesPatch {cached stored : Pod}
    (names : stored.containers.map Container.name = cached.containers.map Container.name)
    (readable : Readable lib (recordedAnnot lib cached)) :
    ∃ mutated patch, revertBoostResourcesPatch lib cached = (mutated, .ok patch) ∧
      ApiServer.resized lib patch stored =
        .ok { stored with
          containers := resizedContainers lib (recordedAnnot lib cached) cached stored } := by
  unfold recordedAnnot at readable ⊢
  cases recorded : boostAnnotationFromPod lib cached with
  | error message =>
      refine ⟨_, _, revertBoostResourcesPatch_of_error lib recorded, ?_⟩
      have nothing : cached.containers.map (restoredContainer lib ⟨0, ∅, ∅⟩) =
          cached.containers :=
        List.map_id'' (restoredContainer_of_nothing lib) _
      simp only [resizedContainers, if_pos nothing, ApiServer.resized_empty]
  | ok annot =>
      rw [recorded] at readable
      have built := revertBoostResourcesPatch_of_readable lib recorded readable
      refine ⟨_, _, built, ?_⟩
      by_cases already :
          cached.containers.map (restoredContainer lib annot) = cached.containers
      · have same : restoredPod lib annot cached = cached := by
          unfold restoredPod
          rw [already]
        simp only [same, Json.diff_self (isObject_encode_pod lib cached),
          ApiServer.resized_empty, resizedContainers, if_pos already]
      · have patched : ApiServer.patchedBody lib _ stored = .ok _ :=
          patchedBody_diff_containers lib already
        have sameNames : (cached.containers.map (restoredContainer lib annot)).map
            Container.name = stored.containers.map Container.name := by
          rw [names, List.map_map]
          rfl
        unfold ApiServer.resized
        rw [show restoredPod lib annot cached =
          { cached with containers := cached.containers.map (restoredContainer lib annot) } from
            rfl, patched]
        simp only [if_pos sameNames, resizedContainers, if_neg already]

private theorem sendPatch_resize_stored {cached mutated stored updated : Pod} {patch : Json}
    {server : ApiServer} (present : server.pods.lookup cached.key = some stored)
    (built : revertBoostResourcesPatch lib cached = (mutated, .ok patch))
    (resizes : ApiServer.resized lib patch stored = .ok updated)
    (succeeded : (sendPatch (revertBoostResourcesPatch lib)
      (ApiServer.podClient lib order).patchResize cached server).result = .ok ()) :
    (sendPatch (revertBoostResourcesPatch lib) (ApiServer.podClient lib order).patchResize cached
        server).pod = updated ∧
      (sendPatch (revertBoostResourcesPatch lib) (ApiServer.podClient lib order).patchResize cached
        server).server.pods.lookup cached.key = some updated := by
  obtain ⟨answer, answered, outcome⟩ := sendPatch_ok built succeeded
  obtain ⟨-, found, foundAt, resizedTo, resizedPods⟩ := ApiServer.call_ok answered
  obtain rfl : stored = found := Option.some.inj (present.symm.trans foundAt)
  obtain rfl : updated = answer := Except.ok.inj (resizes.symm.trans resizedTo)
  rw [outcome]
  refine ⟨rfl, ?_⟩
  rw [ApiServer.podClient_patchResize, resizedPods, Finmap.lookup_insert]

private theorem sendPatch_revertBoostLabels_stored {pod : Pod} {server : ApiServer}
    (present : server.pods.lookup pod.key = some pod)
    (succeeded : (sendPatch (revertBoostLabelsPatch lib) (ApiServer.podClient lib order).patch pod
      server).result = .ok ()) :
    (sendPatch (revertBoostLabelsPatch lib) (ApiServer.podClient lib order).patch pod
      server).server.pods.lookup pod.key = some (revertBoostLabels pod).1 := by
  have patched := ApiServer.patched_of_patchedBody lib
    (ApiServer.patchedBody_diff lib pod (revertBoostLabels pod).1) rfl
  obtain ⟨answer, answered, outcome⟩ :=
    sendPatch_ok (revertBoostLabelsPatch_eq lib pod) succeeded
  rw [ApiServer.podClient_patch] at answered outcome
  obtain ⟨-, found, foundAt, labelledTo, labelledPods⟩ := ApiServer.call_ok answered
  obtain rfl : pod = found := Option.some.inj (present.symm.trans foundAt)
  obtain rfl := Except.ok.inj (patched.symm.trans labelledTo)
  rw [outcome]
  simp only [labelledPods, Finmap.lookup_insert]
  rfl

/-- A successful revert stores the pod with the containers the resize patch
left, and without the boost label and annotation. -/
theorem revertResources_stored {cached stored : Pod} {boost : StartupCPUBoostImpl}
    {memory : Memory ApiServer} {ref : PodRef} (patchMode : boost.legacyRevertMode = false)
    (tracked : memory.pods ref = cached)
    (present : memory.server.pods.lookup cached.key = some stored)
    (changed : ChangedFrom cached stored)
    (readable : Readable lib (recordedAnnot lib cached))
    (succeeded : (boost.revertResources lib (ApiServer.podClient lib order) ref
      memory).result = .ok ()) :
    (boost.revertResources lib (ApiServer.podClient lib order) ref
        memory).memory.server.pods.lookup cached.key =
      some (revertBoostLabels { stored with
        containers := resizedContainers lib (recordedAnnot lib cached) cached stored }).1 := by
  obtain ⟨mutated, patch, built, resizes⟩ :=
    resized_revertBoostResourcesPatch lib changed.names readable
  rw [StartupCPUBoostImpl.revertResources_result] at succeeded
  rw [StartupCPUBoostImpl.revertResources_server]
  simp only [StartupCPUBoostImpl.revertCalls, revertPod, patchMode, Bool.false_eq_true, if_false,
    updateBoostPod, tracked] at succeeded ⊢
  cases resizeResult : (sendPatch (revertBoostResourcesPatch lib)
      (ApiServer.podClient lib order).patchResize cached memory.server).result with
  | error message =>
      simp only [resizeResult] at succeeded
      cases succeeded
  | ok =>
      simp only [resizeResult] at succeeded ⊢
      obtain ⟨object, resizedAt⟩ :=
        sendPatch_resize_stored lib order present built resizes resizeResult
      have sameKey : (sendPatch (revertBoostResourcesPatch lib)
          (ApiServer.podClient lib order).patchResize cached memory.server).pod.key =
            cached.key := by
        rw [object]
        exact changed.key
      rw [← object, ← sameKey] at resizedAt ⊢
      exact sendPatch_revertBoostLabels_stored lib order resizedAt succeeded

private theorem zipWith_resources_eq_map_iff {change : Container → Container}
    (onlyResources : ∀ container, change container =
      { container with resources := (change container).resources })
    {containers resized : List Container} (sameLength : containers.length = resized.length) :
    containers.zipWith
        (fun container resized => { container with resources := resized.resources }) resized =
        containers.map change ↔
      containers.map (fun container => (change container).resources) =
        resized.map Container.resources := by
  induction containers generalizing resized with
  | nil =>
      cases resized with
      | nil => simp
      | cons => cases sameLength
  | cons container containers ih =>
      cases resized with
      | nil => cases sameLength
      | cons other resized =>
          have sameRest := ih (Nat.succ.inj sameLength)
          rw [List.zipWith_cons_cons, List.map_cons, List.map_cons, List.map_cons,
            List.cons.injEq, List.cons.injEq, sameRest, onlyResources]
          simp only [Container.mk.injEq, true_and, and_true]
          rw [eq_comm]

private theorem resizedContainers_eq_iff (annot : BoostPodAnnotation) {cached stored : Pod}
    (names : stored.containers.map Container.name = cached.containers.map Container.name) :
    resizedContainers lib annot cached stored =
        stored.containers.map (restoredContainer lib annot) ↔
      SameOtherResources lib annot cached stored := by
  have sameLength : stored.containers.length =
      (cached.containers.map (restoredContainer lib annot)).length := by
    simpa using congrArg List.length names
  unfold resizedContainers SameOtherResources
  split
  · exact eq_comm
  · rw [zipWith_resources_eq_map_iff (fun _ => rfl) sameLength, List.map_map]
    rfl

/-- A successful revert of a pod that others have changed since it was
delivered gives the reverted pod exactly when the resources they left agree
with those in memory, up to the recorded CPU resources. -/
theorem revert_keeps_other_updates_iff (cached : Pod) (changes : List ClientChange)
    (boost : StartupCPUBoostImpl) (memory : Memory ApiServer) (ref : PodRef)
    (patchMode : boost.legacyRevertMode = false) (tracked : memory.pods ref = cached)
    (present : memory.server.pods.lookup cached.key = some (changedPod cached changes))
    (readable : Readable lib (recordedAnnot lib cached))
    (succeeded : (boost.revertResources lib (ApiServer.podClient lib order) ref
      memory).result = .ok ()) :
    (boost.revertResources lib (ApiServer.podClient lib order) ref
        memory).memory.server.pods.lookup cached.key =
        some (revertedPod lib (recordedAnnot lib cached) (changedPod cached changes)) ↔
      SameOtherResources lib (recordedAnnot lib cached) cached (changedPod cached changes) := by
  have changed := changedFrom_changedPod cached changes
  rw [revertResources_stored lib order patchMode tracked present changed readable succeeded,
    ← resizedContainers_eq_iff lib _ changed.names, Option.some.injEq]
  constructor
  · intro same
    exact congrArg (fun pod : Pod => pod.containers) same
  · intro same
    rw [same]
    rfl

namespace Reference

theorem recordedAnnot_boostedPod : recordedAnnot referenceLibrary boostedPod = appAnnot := by
  unfold recordedAnnot
  rw [boostAnnotationFromPod_boostedPod]

theorem boostedPod_not_restored :
    boostedPod.containers.map (restoredContainer referenceLibrary appAnnot) ≠
      boostedPod.containers := by
  intro same
  have restored := (List.cons.inj same).1
  rw [restoredContainer_app _ rfl] at restored
  have request := congrArg (fun container : Container =>
    container.resources.requests.lookup resourceCPU) restored
  revert request
  decide +kernel

/-- The controller has the boosted pod in memory; the server stores it as
others have changed it. -/
noncomputable def changedMemory (changes : List ClientChange) : Memory ApiServer :=
  { syncedMemory with
    server := ⟨(∅ : GoMap PodKey Pod).insert boostedPod.key (changedPod boostedPod changes),
      [false, false]⟩ }

theorem changedMemory_present (changes : List ClientChange) :
    (changedMemory changes).server.pods.lookup boostedPod.key =
      some (changedPod boostedPod changes) :=
  Finmap.lookup_insert _

theorem readable_recordedAnnot_boostedPod :
    Readable referenceLibrary (recordedAnnot referenceLibrary boostedPod) := by
  rw [recordedAnnot_boostedPod]
  exact readable_appAnnot

/-- Both patches are accepted. -/
theorem revert_changedMemory_ok (changes : List ClientChange) :
    (trackingBoost.revertResources referenceLibrary (ApiServer.podClient referenceLibrary
      .arbitrary) 0 (changedMemory changes)).result = .ok () := by
  have changed := changedFrom_changedPod boostedPod changes
  obtain ⟨mutated, patch, built, resizes⟩ := resized_revertBoostResourcesPatch referenceLibrary
    changed.names readable_recordedAnnot_boostedPod
  have outcome := updateBoostPod_outcome referenceLibrary .arbitrary (true, true) rfl rfl
    (changedMemory_present changes) built resizes changed.key
  rw [StartupCPUBoostImpl.revertResources_result]
  exact outcome.1.mpr rfl

theorem revert_keeps_other_updates_iff_label :
    (trackingBoost.revertResources referenceLibrary (ApiServer.podClient referenceLibrary
        .arbitrary) 0 (changedMemory [.setLabel "team" (some "a")])).memory.server.pods.lookup
        boostedPod.key =
      some (revertedPod referenceLibrary (recordedAnnot referenceLibrary boostedPod)
        (changedPod boostedPod [.setLabel "team" (some "a")])) := by
  refine (revert_keeps_other_updates_iff referenceLibrary .arbitrary boostedPod
    [.setLabel "team" (some "a")] trackingBoost (changedMemory [.setLabel "team" (some "a")]) 0 rfl
    rfl (changedMemory_present _) readable_recordedAnnot_boostedPod
    (revert_changedMemory_ok _)).mpr ?_
  rw [recordedAnnot_boostedPod, SameOtherResources, if_neg boostedPod_not_restored]
  rfl

def addMemory : ClientChange :=
  .resize "app" ⟨(cpuList 2).insert resourceMemory 512, cpuList 4⟩

/-- The server stores a memory request that the object in memory does not have.
The revert succeeds, and the request is gone. -/
theorem revert_loses_memory_request :
    let outcome := trackingBoost.revertResources referenceLibrary (ApiServer.podClient
      referenceLibrary .arbitrary) 0 (changedMemory [addMemory])
    (changedMemory [addMemory]).server.pods.lookup boostedPod.key =
        some (changedPod boostedPod [addMemory]) ∧
      (changedPod boostedPod [addMemory]).containers.map
          (fun container => container.resources.requests.lookup resourceMemory) = [some 512] ∧
      outcome.result = .ok () ∧
      ∃ stored, outcome.memory.server.pods.lookup boostedPod.key = some stored ∧
        stored.containers.map
          (fun container => container.resources.requests.lookup resourceMemory) = [none] := by
  have stored := revertResources_stored referenceLibrary .arbitrary trackingBoost_patchMode
    (show (changedMemory [addMemory]).pods 0 = boostedPod from rfl) (changedMemory_present _)
    (changedFrom_changedPod boostedPod [addMemory]) readable_recordedAnnot_boostedPod
    (revert_changedMemory_ok [addMemory])
  refine ⟨changedMemory_present _, by decide +kernel, revert_changedMemory_ok _, _, stored, ?_⟩
  rw [recordedAnnot_boostedPod]
  simp only [revertBoostLabels, resizedContainers, if_neg boostedPod_not_restored]
  rw [show boostedPod.containers = [appContainer 2 4] from rfl, List.map_singleton,
    restoredContainer_app _ rfl]
  decide +kernel

end Reference

end KubeStartupCPUBoost
