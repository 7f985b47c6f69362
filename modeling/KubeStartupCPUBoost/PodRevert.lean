import KubeStartupCPUBoost.KubernetesPod

/-!
# Reverting a boosted pod

The pod package: reading the boost annotation, restoring the CPU resources it
records, removing the boost label and annotation, and the two merge patches
built from these mutations.  Every mutation works in place and may stop in the
middle, so each one returns the pod as it leaves it together with its error.

`restoredContainer` is what a revert does to one container when the recorded
quantities can be read; `revertContainers_of_readableFor` is the specification of
the loop, and the lemmas on the patches say what is sent for a given pod.
-/

namespace KubeStartupCPUBoost

def boostLabelKey : String := "autoscaling.x-k8s.io/startup-cpu-boost"

def boostAnnotationKey : String := "autoscaling.x-k8s.io/startup-cpu-boost"

variable (lib : Library)

def boostAnnotationFromPod (pod : Pod) : Except String BoostPodAnnotation :=
  match pod.annotations.lookup boostAnnotationKey with
  | none => .error "boost annotation not found"
  | some data => lib.unmarshalAnnot data

def revertBoostLabels (pod : Pod) : Pod × Except String Unit :=
  ({ pod with
      labels := pod.labels.erase boostLabelKey
      annotations := pod.annotations.erase boostAnnotationKey }, .ok ())

def revertCPU (kind : String) (recorded : Option String) (resources : ResourceList) :
    ResourceList × Except String Unit :=
  match recorded with
  | none => (resources, .ok ())
  | some text =>
      match lib.parseQuantity text with
      | .ok quantity => (resources.insert resourceCPU quantity, .ok ())
      | .error message => (resources, .error ("failed to parse CPU " ++ kind ++ ": " ++ message))

/-- One pass of the revert loop.  A request that has been restored stays
restored when the limit cannot be read. -/
def revertContainer (annot : BoostPodAnnotation) (container : Container) :
    Container × Except String Unit :=
  match revertCPU lib "request" (annot.initCPURequests.lookup container.name)
      container.resources.requests with
  | (requests, .error message) =>
      ({ container with resources := { container.resources with requests } }, .error message)
  | (requests, .ok ()) =>
      match revertCPU lib "limit" (annot.initCPULimits.lookup container.name)
          container.resources.limits with
      | (limits, result) => ({ container with resources := { requests, limits } }, result)

def revertContainers (annot : BoostPodAnnotation) :
    List Container → List Container × Except String Unit
  | [] => ([], .ok ())
  | container :: rest =>
      match revertContainer lib annot container with
      | (reverted, .error message) => (reverted :: rest, .error message)
      | (reverted, .ok ()) =>
          match revertContainers annot rest with
          | (revertedRest, result) => (reverted :: revertedRest, result)

def revertBoostResources (pod : Pod) : Pod × Except String Unit :=
  match boostAnnotationFromPod lib pod with
  | .error message =>
      (pod, .error ("failed to get boost annotation from pod: " ++ message))
  | .ok annot =>
      match revertContainers lib annot pod.containers with
      | (containers, result) => ({ pod with containers }, result)

def revertResourceBoost (pod : Pod) : Pod × Except String Unit :=
  match revertBoostResources lib pod with
  | (pod, .error message) => (pod, .error message)
  | (pod, .ok ()) => revertBoostLabels pod

/-- The merge patch from the pod before a mutation to the pod after it, with
the mutated pod. -/
def buildPodPatch (pod : Pod) (mutatePod : Pod → Pod × Except String Unit) :
    Pod × Except String Json :=
  match mutatePod pod with
  | (mutated, .error message) => (mutated, .error message)
  | (mutated, .ok ()) =>
      (mutated,
        lib.createMergePatch ((Pod.codec lib).encode pod) ((Pod.codec lib).encode mutated))

def revertBoostLabelsPatch (pod : Pod) : Pod × Except String Json :=
  buildPodPatch lib pod revertBoostLabels

/-- A pod that cannot be reverted gives the empty patch instead of an error. -/
def revertBoostResourcesPatch (pod : Pod) : Pod × Except String Json :=
  match buildPodPatch lib pod (revertBoostResources lib) with
  | (mutated, .error _) => (mutated, .ok .empty)
  | (mutated, .ok patch) => (mutated, .ok patch)

def recordedQuantity (recorded : StringMap) (name : String) : Option Quantity :=
  (recorded.lookup name).bind fun text => (lib.parseQuantity text).toOption

/-- Every recorded text is a quantity, as in the annotations the webhook
writes. -/
def Readable (annot : BoostPodAnnotation) : Prop :=
  (∀ name text, annot.initCPURequests.lookup name = some text →
    ∃ quantity, lib.parseQuantity text = .ok quantity) ∧
  ∀ name text, annot.initCPULimits.lookup name = some text →
    ∃ quantity, lib.parseQuantity text = .ok quantity

def restoredCPU (recorded : Option Quantity) (resources : ResourceList) : ResourceList :=
  match recorded with
  | none => resources
  | some quantity => resources.insert resourceCPU quantity

def restoredContainer (annot : BoostPodAnnotation) (container : Container) : Container :=
  { container with
    resources :=
      { requests := restoredCPU (recordedQuantity lib annot.initCPURequests container.name)
          container.resources.requests
        limits := restoredCPU (recordedQuantity lib annot.initCPULimits container.name)
          container.resources.limits } }

def restoredPod (annot : BoostPodAnnotation) (pod : Pod) : Pod :=
  { pod with containers := pod.containers.map (restoredContainer lib annot) }

@[simp]
private theorem restoredCPU_restoredCPU (recorded : Option Quantity) (resources : ResourceList) :
    restoredCPU recorded (restoredCPU recorded resources) =
      restoredCPU recorded resources := by
  cases recorded with
  | none => rfl
  | some quantity => exact Finmap.insert_insert resources

@[simp]
theorem restoredContainer_restoredContainer (annot : BoostPodAnnotation)
    (container : Container) :
    restoredContainer lib annot (restoredContainer lib annot container) =
      restoredContainer lib annot container := by
  simp [restoredContainer]

@[simp]
theorem restoredPod_restoredPod (annot : BoostPodAnnotation) (pod : Pod) :
    restoredPod lib annot (restoredPod lib annot pod) = restoredPod lib annot pod := by
  simp [restoredPod]

@[simp]
theorem boostAnnotationFromPod_restoredPod (annot : BoostPodAnnotation) (pod : Pod) :
    boostAnnotationFromPod lib (restoredPod lib annot pod) = boostAnnotationFromPod lib pod :=
  rfl

private theorem revertCPU_of_readable {kind : String} {recorded : StringMap} {name : String}
    (readable : ∀ text, recorded.lookup name = some text →
      ∃ quantity, lib.parseQuantity text = .ok quantity) (resources : ResourceList) :
    revertCPU lib kind (recorded.lookup name) resources =
      (restoredCPU (recordedQuantity lib recorded name) resources, .ok ()) := by
  unfold revertCPU recordedQuantity
  cases found : recorded.lookup name with
  | none => rfl
  | some text =>
      obtain ⟨quantity, parsed⟩ := readable text found
      simp [parsed, restoredCPU, Except.toOption]

def ReadableFor (annot : BoostPodAnnotation) (container : Container) : Prop :=
  (∀ text, annot.initCPURequests.lookup container.name = some text →
    ∃ quantity, lib.parseQuantity text = .ok quantity) ∧
  ∀ text, annot.initCPULimits.lookup container.name = some text →
    ∃ quantity, lib.parseQuantity text = .ok quantity

theorem Readable.readableFor {annot : BoostPodAnnotation} (readable : Readable lib annot)
    (container : Container) : ReadableFor lib annot container :=
  ⟨readable.1 container.name, readable.2 container.name⟩

private theorem revertContainer_of_readableFor {annot : BoostPodAnnotation} {container : Container}
    (readable : ReadableFor lib annot container) :
    revertContainer lib annot container =
      (restoredContainer lib annot container, .ok ()) := by
  unfold revertContainer restoredContainer
  rw [revertCPU_of_readable lib readable.1, revertCPU_of_readable lib readable.2]

theorem revertContainers_of_readableFor {annot : BoostPodAnnotation} {containers : List Container}
    (readable : ∀ container ∈ containers, ReadableFor lib annot container) :
    revertContainers lib annot containers =
      (containers.map (restoredContainer lib annot), .ok ()) := by
  induction containers with
  | nil => rfl
  | cons container containers ih =>
      obtain ⟨first, rest⟩ := List.forall_mem_cons.mp readable
      rw [revertContainers, revertContainer_of_readableFor lib first]
      simp [ih rest]

theorem revertBoostResources_of_readableFor {pod : Pod} {annot : BoostPodAnnotation}
    (recorded : boostAnnotationFromPod lib pod = .ok annot)
    (readable : ∀ container ∈ pod.containers, ReadableFor lib annot container) :
    revertBoostResources lib pod = (restoredPod lib annot pod, .ok ()) := by
  unfold revertBoostResources
  rw [recorded]
  simp only
  rw [revertContainers_of_readableFor lib readable]
  rfl

theorem revertBoostResources_of_readable {pod : Pod} {annot : BoostPodAnnotation}
    (recorded : boostAnnotationFromPod lib pod = .ok annot)
    (readable : Readable lib annot) :
    revertBoostResources lib pod = (restoredPod lib annot pod, .ok ()) :=
  revertBoostResources_of_readableFor lib recorded fun container _ =>
    readable.readableFor lib container

theorem revertCPU_ok_iff (kind : String) (recorded : Option String) (resources : ResourceList) :
    (revertCPU lib kind recorded resources).2 = .ok () ↔
      ∀ text, recorded = some text → ∃ quantity, lib.parseQuantity text = .ok quantity := by
  cases recorded with
  | none => simp [revertCPU]
  | some text =>
      simp only [revertCPU, Option.some.injEq, forall_eq']
      cases lib.parseQuantity text <;> simp

@[simp]
theorem revertContainer_ok_iff (annot : BoostPodAnnotation) (container : Container) :
    (revertContainer lib annot container).2 = .ok () ↔ ReadableFor lib annot container := by
  have requests := revertCPU_ok_iff lib "request" (annot.initCPURequests.lookup container.name)
    container.resources.requests
  have limits := revertCPU_ok_iff lib "limit" (annot.initCPULimits.lookup container.name)
    container.resources.limits
  unfold ReadableFor
  rw [← requests, ← limits]
  unfold revertContainer
  cases revertCPU lib "request" (annot.initCPURequests.lookup container.name)
      container.resources.requests with
  | mk reverted outcome => cases outcome <;> simp

private theorem revertContainers_ok_iff (annot : BoostPodAnnotation) (containers : List Container) :
    (revertContainers lib annot containers).2 = .ok () ↔
      ∀ container ∈ containers, ReadableFor lib annot container := by
  induction containers with
  | nil => simp [revertContainers]
  | cons container containers ih =>
      rw [revertContainers, List.forall_mem_cons, ← ih, ← revertContainer_ok_iff]
      cases revertContainer lib annot container with
      | mk reverted outcome => cases outcome <;> simp

/-- A pod whose resources can be reverted: it has an annotation, and the texts recorded
for its containers are quantities.  What is recorded under other names does not
matter. -/
def Revertible (pod : Pod) : Prop :=
  ∃ annot, boostAnnotationFromPod lib pod = .ok annot ∧
    ∀ container ∈ pod.containers, ReadableFor lib annot container

@[simp]
theorem revertBoostResources_ok_iff (pod : Pod) :
    (revertBoostResources lib pod).2 = .ok () ↔ Revertible lib pod := by
  unfold revertBoostResources Revertible
  cases boostAnnotationFromPod lib pod with
  | error message => simp
  | ok annot => simp [revertContainers_ok_iff]

/-- The patches are diffs: both forms of a pod are JSON objects. -/
theorem isObject_encode_pod (pod : Pod) : ((Pod.codec lib).encode pod).IsObject :=
  Json.isObject_object _

theorem buildPodPatch_of_ok {pod mutated : Pod} {mutatePod : Pod → Pod × Except String Unit}
    (mutation : mutatePod pod = (mutated, .ok ())) :
    buildPodPatch lib pod mutatePod =
      (mutated, .ok (((Pod.codec lib).encode pod).diff ((Pod.codec lib).encode mutated))) := by
  unfold buildPodPatch
  rw [mutation]
  simp only
  rw [lib.createMergePatch_eq _ _ (isObject_encode_pod lib pod)
    (isObject_encode_pod lib mutated)]

theorem revertBoostLabelsPatch_eq (pod : Pod) :
    revertBoostLabelsPatch lib pod =
      ((revertBoostLabels pod).1,
        .ok (((Pod.codec lib).encode pod).diff
          ((Pod.codec lib).encode (revertBoostLabels pod).1))) :=
  buildPodPatch_of_ok lib rfl

/-- Without an annotation the resize patch is empty. -/
theorem revertBoostResourcesPatch_of_error {pod : Pod} {message : String}
    (unreadable : boostAnnotationFromPod lib pod = .error message) :
    revertBoostResourcesPatch lib pod = (pod, .ok .empty) := by
  simp [revertBoostResourcesPatch, buildPodPatch, revertBoostResources, unreadable]

theorem revertBoostResourcesPatch_of_ok {pod mutated : Pod}
    (reverted : revertBoostResources lib pod = (mutated, .ok ())) :
    revertBoostResourcesPatch lib pod =
      (mutated,
        .ok (((Pod.codec lib).encode pod).diff ((Pod.codec lib).encode mutated))) := by
  unfold revertBoostResourcesPatch
  rw [buildPodPatch_of_ok lib reverted]

theorem revertBoostResourcesPatch_of_readable {pod : Pod} {annot : BoostPodAnnotation}
    (recorded : boostAnnotationFromPod lib pod = .ok annot) (readable : Readable lib annot) :
    revertBoostResourcesPatch lib pod =
      (restoredPod lib annot pod,
        .ok (((Pod.codec lib).encode pod).diff
          ((Pod.codec lib).encode (restoredPod lib annot pod)))) :=
  revertBoostResourcesPatch_of_ok lib (revertBoostResources_of_readable lib recorded readable)

/-- Restoring a pod twice sends nothing the second time. -/
theorem revertBoostResourcesPatch_restoredPod {pod : Pod} {annot : BoostPodAnnotation}
    (recorded : boostAnnotationFromPod lib pod = .ok annot) (readable : Readable lib annot) :
    revertBoostResourcesPatch lib (restoredPod lib annot pod) =
      (restoredPod lib annot pod, .ok .empty) := by
  rw [← boostAnnotationFromPod_restoredPod lib annot] at recorded
  rw [revertBoostResourcesPatch_of_readable lib recorded readable, restoredPod_restoredPod,
    Json.diff_self (isObject_encode_pod lib _)]

/-- Applying the patch of a mutation to the pod it was built from gives the
mutated pod. -/
@[simp]
theorem mergePatch_diff_pod (pod mutated : Pod) :
    ((Pod.codec lib).encode pod).mergePatch
        (((Pod.codec lib).encode pod).diff ((Pod.codec lib).encode mutated)) =
      (Pod.codec lib).encode mutated :=
  Json.mergePatch_diff (isObject_encode_pod lib pod) (isObject_encode_pod lib mutated)
    ((Pod.codec lib).noNull mutated).2

end KubeStartupCPUBoost
