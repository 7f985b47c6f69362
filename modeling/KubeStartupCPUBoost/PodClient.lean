import KubeStartupCPUBoost.PodRevert

/-!
# The API calls that revert a pod

The client calls made on pods and the two ways of reverting one: by two merge
patches, or by an update of the whole object.  A call that succeeds overwrites
the controller's object with the stored one; a call that fails leaves behind
whatever building the request did to it.

`PodClient` is any API server with its own state, so results over it hold for
every pattern of successes, failures and answers.
-/

namespace KubeStartupCPUBoost

abbrev PodKey := String × String

def Pod.key (pod : Pod) : PodKey := (pod.ns, pod.name)

/-- The API calls made on pods.  A call returns an error or the stored object;
the object keeps its key, and a list is restricted to a namespace. -/
structure PodClient (σ : Type) where
  patchResize : PodKey → Json → σ → Except String Pod × σ
  patch : PodKey → Json → σ → Except String Pod × σ
  update : Pod → σ → Except String Pod × σ
  list : (ns boost : String) → σ → Except String (List Pod) × σ
  patchResize_key : ∀ key data server pod,
    (patchResize key data server).1 = .ok pod → pod.key = key
  patch_key : ∀ key data server pod, (patch key data server).1 = .ok pod → pod.key = key
  update_key : ∀ sent server pod, (update sent server).1 = .ok pod → pod.key = sent.key
  list_ns : ∀ ns boost server pods,
    (list ns boost server).1 = .ok pods → ∀ pod ∈ pods, pod.ns = ns

/-- What a call leaves: its error, the controller's object and the server. -/
structure CallOutcome (σ : Type) where
  result : Except String Unit
  pod : Pod
  server : σ

variable (lib : Library) {σ : Type} (client : PodClient σ)

/-- `client.Patch`: build the patch from the object, send it, and take over
the answer. -/
def sendPatch (data : Pod → Pod × Except String Json)
    (send : PodKey → Json → σ → Except String Pod × σ) (pod : Pod) (server : σ) :
    CallOutcome σ :=
  match data pod with
  | (mutated, .error message) => ⟨.error message, mutated, server⟩
  | (mutated, .ok patch) =>
      match send pod.key patch server with
      | (.error message, server) => ⟨.error message, mutated, server⟩
      | (.ok stored, server) => ⟨.ok (), stored, server⟩

def updateBoostPod (pod : Pod) (server : σ) : CallOutcome σ :=
  let resized := sendPatch (revertBoostResourcesPatch lib) client.patchResize pod server
  match resized.result with
  | .error _ => resized
  | .ok () => sendPatch (revertBoostLabelsPatch lib) client.patch resized.pod resized.server

def updateBoostPodLegacy (pod : Pod) (server : σ) : CallOutcome σ :=
  match revertResourceBoost lib pod with
  | (mutated, .error message) =>
      ⟨.error ("failed to update pod spec: " ++ message), mutated, server⟩
  | (mutated, .ok ()) =>
      match client.update mutated server with
      | (.error message, server) => ⟨.error message, mutated, server⟩
      | (.ok stored, server) => ⟨.ok (), stored, server⟩

def revertPod (legacyRevertMode : Bool) (pod : Pod) (server : σ) : CallOutcome σ :=
  if legacyRevertMode then updateBoostPodLegacy lib client pod server
  else updateBoostPod lib client pod server

theorem sendPatch_of_built {data : Pod → Pod × Except String Json}
    {send : PodKey → Json → σ → Except String Pod × σ} {pod mutated : Pod} {patch : Json}
    {server : σ} (built : data pod = (mutated, .ok patch)) :
    sendPatch data send pod server =
      match send pod.key patch server with
      | (.error message, server) => ⟨.error message, mutated, server⟩
      | (.ok stored, server) => ⟨.ok (), stored, server⟩ := by
  unfold sendPatch
  rw [built]

/-- A patch that succeeds leaves the answer as the object. -/
theorem sendPatch_ok {data : Pod → Pod × Except String Json}
    {send : PodKey → Json → σ → Except String Pod × σ} {pod mutated : Pod} {patch : Json}
    {server : σ} (built : data pod = (mutated, .ok patch))
    (succeeded : (sendPatch data send pod server).result = .ok ()) :
    ∃ stored, (send pod.key patch server).1 = .ok stored ∧
      sendPatch data send pod server = ⟨.ok (), stored, (send pod.key patch server).2⟩ := by
  rw [sendPatch_of_built built] at succeeded ⊢
  cases sent : send pod.key patch server with
  | mk answer after =>
      rw [sent] at succeeded
      cases answer with
      | error message => cases succeeded
      | ok stored => exact ⟨stored, rfl, rfl⟩

theorem revertBoostResources_eq (pod : Pod) :
    ∃ containers, (revertBoostResources lib pod).1 = { pod with containers } := by
  unfold revertBoostResources
  cases boostAnnotationFromPod lib pod with
  | error message => exact ⟨pod.containers, rfl⟩
  | ok annot => exact ⟨_, rfl⟩

theorem revertBoostResourcesPatch_eq (pod : Pod) :
    (revertBoostResourcesPatch lib pod).1 = (revertBoostResources lib pod).1 := by
  unfold revertBoostResourcesPatch buildPodPatch
  cases revertBoostResources lib pod with
  | mk mutated outcome =>
      cases outcome with
      | error message => rfl
      | ok =>
          cases patched : lib.createMergePatch ((Pod.codec lib).encode pod)
            ((Pod.codec lib).encode mutated) <;> simp [patched]

theorem revertResourceBoost_eq (pod : Pod) :
    ∃ containers labels annotations, (revertResourceBoost lib pod).1 =
      { pod with containers, labels, annotations } := by
  obtain ⟨containers, reverted⟩ := revertBoostResources_eq lib pod
  unfold revertResourceBoost
  cases result : revertBoostResources lib pod with
  | mk mutated outcome =>
      rw [result] at reverted
      subst reverted
      cases outcome with
      | error message => exact ⟨containers, pod.labels, pod.annotations, rfl⟩
      | ok => exact ⟨containers, _, _, rfl⟩

@[simp]
theorem revertBoostLabelsPatch_key (pod : Pod) :
    (revertBoostLabelsPatch lib pod).1.key = pod.key :=
  rfl

@[simp]
theorem revertBoostResourcesPatch_key (pod : Pod) :
    (revertBoostResourcesPatch lib pod).1.key = pod.key := by
  obtain ⟨containers, reverted⟩ := revertBoostResources_eq lib pod
  rw [revertBoostResourcesPatch_eq, reverted]
  rfl

@[simp]
theorem revertResourceBoost_key (pod : Pod) : (revertResourceBoost lib pod).1.key = pod.key := by
  obtain ⟨containers, labels, annotations, reverted⟩ := revertResourceBoost_eq lib pod
  rw [reverted]
  rfl

theorem sendPatch_key {data : Pod → Pod × Except String Json}
    (send : PodKey → Json → σ → Except String Pod × σ) {pod : Pod} (server : σ)
    (dataKey : (data pod).1.key = pod.key)
    (sendKey : ∀ patch stored, (send pod.key patch server).1 = .ok stored →
      stored.key = pod.key) :
    (sendPatch data send pod server).pod.key = pod.key := by
  unfold sendPatch
  cases built : data pod with
  | mk mutated outcome =>
      rw [built] at dataKey
      cases outcome with
      | error message => exact dataKey
      | ok patch =>
          cases sent : send pod.key patch server with
          | mk answer after =>
              cases answer with
              | error message => simpa [sent] using dataKey
              | ok stored => simpa [sent] using sendKey patch stored (by rw [sent])

/-- Reverting a pod never changes which pod the controller's object is. -/
@[simp]
theorem revertPod_key (legacyRevertMode : Bool) (pod : Pod) (server : σ) :
    (revertPod lib client legacyRevertMode pod server).pod.key = pod.key := by
  cases legacyRevertMode with
  | true =>
      have kept := revertResourceBoost_key lib pod
      simp only [revertPod, if_true, updateBoostPodLegacy]
      cases reverted : revertResourceBoost lib pod with
      | mk mutated outcome =>
          rw [reverted] at kept
          cases outcome with
          | error message => exact kept
          | ok =>
              cases sent : client.update mutated server with
              | mk answer after =>
                  cases answer with
                  | error message => simpa [sent] using kept
                  | ok stored =>
                      have storedKey := client.update_key mutated server stored (by rw [sent])
                      simpa [sent] using storedKey.trans kept
  | false =>
      have resizedKey := sendPatch_key client.patchResize server
        (revertBoostResourcesPatch_key lib pod) fun patch stored =>
          client.patchResize_key pod.key patch server stored
      simp only [revertPod, Bool.false_eq_true, if_false, updateBoostPod]
      split
      · exact resizedKey
      · rw [← resizedKey]
        exact sendPatch_key _ _ (revertBoostLabelsPatch_key lib _) fun patch stored =>
          client.patch_key _ patch _ stored

private theorem sendPatch_of_error {data : Pod → Pod × Except String Json}
    {send : PodKey → Json → σ → Except String Pod × σ} {pod : Pod} {server : σ} {message : String}
    (failed : (sendPatch data send pod server).result = .error message) :
    (sendPatch data send pod server).pod = (data pod).1 := by
  unfold sendPatch at failed ⊢
  cases built : data pod with
  | mk mutated outcome =>
      rw [built] at failed
      cases outcome with
      | error message => rfl
      | ok patch =>
          cases sent : send pod.key patch server with
          | mk answer after =>
              simp only [sent] at failed ⊢
              cases answer with
              | error message => rfl
              | ok stored => cases failed

@[simp]
theorem annotations_revertBoostResources (pod : Pod) :
    (revertBoostResources lib pod).1.annotations = pod.annotations := by
  obtain ⟨containers, reverted⟩ := revertBoostResources_eq lib pod
  rw [reverted]

@[simp]
theorem lookup_annotations_revertBoostLabels (pod : Pod) :
    (revertBoostLabels pod).1.annotations.lookup boostAnnotationKey = none :=
  Finmap.lookup_erase boostAnnotationKey pod.annotations

/-- Patches that fail leave what the resize patch was built from, or the answer
to it without label and annotation. -/
theorem updateBoostPod_failed {pod : Pod} {server : σ} {message : String}
    (failed : (updateBoostPod lib client pod server).result = .error message) :
    let resized := sendPatch (revertBoostResourcesPatch lib) client.patchResize pod server
    ((∃ message, resized.result = .error message) ∧
        (updateBoostPod lib client pod server).pod = (revertBoostResources lib pod).1) ∨
      (resized.result = .ok () ∧
        (updateBoostPod lib client pod server).pod = (revertBoostLabels resized.pod).1) := by
  cases resized : (sendPatch (revertBoostResourcesPatch lib) client.patchResize pod server).result
    with
  | error message =>
      refine .inl ⟨⟨message, resized⟩, ?_⟩
      simp only [updateBoostPod, resized]
      rw [sendPatch_of_error resized, revertBoostResourcesPatch_eq]
  | ok =>
      refine .inr ⟨resized, ?_⟩
      simp only [updateBoostPod, resized] at failed ⊢
      rw [sendPatch_of_error failed]
      rfl

/-- An update that fails leaves the containers as far as they could be reverted,
and without label and annotation if all could. -/
theorem updateBoostPodLegacy_failed {pod : Pod} {server : σ} {message : String}
    (failed : (updateBoostPodLegacy lib client pod server).result = .error message) :
    (¬ Revertible lib pod ∧
        (updateBoostPodLegacy lib client pod server).pod = (revertBoostResources lib pod).1) ∨
      (Revertible lib pod ∧ (updateBoostPodLegacy lib client pod server).pod =
        (revertBoostLabels (revertBoostResources lib pod).1).1) := by
  rw [← revertBoostResources_ok_iff]
  unfold updateBoostPodLegacy revertResourceBoost at failed ⊢
  cases reverted : revertBoostResources lib pod with
  | mk restored outcome =>
      rw [reverted] at failed
      cases outcome with
      | error message => simp
      | ok =>
          right
          simp only [revertBoostLabels] at failed ⊢
          cases sent : client.update
              { restored with
                labels := restored.labels.erase boostLabelKey
                annotations := restored.annotations.erase boostAnnotationKey } server with
          | mk answer after =>
              cases answer with
              | error message => simp
              | ok stored =>
                  rw [sent] at failed
                  cases failed

/-- A failed revert leaves the object with its annotations, or has removed the one of
the boost. -/
theorem revertPod_of_error {legacyRevertMode : Bool} {pod : Pod} {server : σ} {message : String}
    (failed : (revertPod lib client legacyRevertMode pod server).result = .error message) :
    (revertPod lib client legacyRevertMode pod server).pod.annotations = pod.annotations ∨
      (revertPod lib client legacyRevertMode pod server).pod.annotations.lookup
        boostAnnotationKey = none := by
  cases legacyRevertMode with
  | true =>
      simp only [revertPod, if_true] at failed ⊢
      rcases updateBoostPodLegacy_failed lib client failed with ⟨-, left⟩ | ⟨-, left⟩
      · rw [left]
        exact .inl (annotations_revertBoostResources lib pod)
      · rw [left]
        exact .inr (lookup_annotations_revertBoostLabels _)
  | false =>
      simp only [revertPod, Bool.false_eq_true, if_false] at failed ⊢
      rcases updateBoostPod_failed lib client failed with ⟨-, left⟩ | ⟨-, left⟩
      · rw [left]
        exact .inl (annotations_revertBoostResources lib pod)
      · rw [left]
        exact .inr (lookup_annotations_revertBoostLabels _)

end KubeStartupCPUBoost
