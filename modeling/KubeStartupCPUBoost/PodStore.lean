import KubeStartupCPUBoost.BoostTracking
import KubeStartupCPUBoost.CallProgram

/-!
# Reverting a pod call by call

A revert makes up to two calls, and workers of a tick make theirs at the same
time.  Here a revert is a program of calls on one pod, so that the calls of
several reverts can be interleaved.

`PodStore` is a server that keeps the pods apart: a call on a pod reads and
changes what is kept under the pod's key.  Run on its own against such a
server, the program does what `revertPod` does (`revertPod_eq_run`).
-/

namespace KubeStartupCPUBoost

/-- The calls made on the pod a revert is about. -/
inductive PodCall where
  | patchResize (data : Json)
  | patch (data : Json)
  | update (sent : Pod)

/-- A program of such calls, each answered by an error or the stored object. -/
abbrev PodProgram := CallProgram PodCall fun _ => Except String Pod

/-- What a revert leaves in the controller: its error and the object. -/
abbrev Reverted := Except String Unit × Pod

variable (lib : Library)

/-- The object after a call: the answer, or what building the request left. -/
def takeOver (mutated : Pod) : Except String Pod → Reverted
  | .error message => (.error message, mutated)
  | .ok stored => (.ok (), stored)

def sendPatchProgram (data : Pod → Pod × Except String Json) (send : Json → PodCall) (pod : Pod) :
    PodProgram Reverted :=
  match data pod with
  | (mutated, .error message) => pure (.error message, mutated)
  | (mutated, .ok patch) => do
      let answer ← CallProgram.request (send patch)
      return takeOver mutated answer

def updateBoostPodProgram (pod : Pod) : PodProgram Reverted := do
  let resized ← sendPatchProgram (revertBoostResourcesPatch lib) .patchResize pod
  match resized.1 with
  | .error _ => return resized
  | .ok () => sendPatchProgram (revertBoostLabelsPatch lib) .patch resized.2

def updateBoostPodLegacyProgram (pod : Pod) : PodProgram Reverted :=
  match revertResourceBoost lib pod with
  | (mutated, .error message) =>
      pure (.error ("failed to update pod spec: " ++ message), mutated)
  | (mutated, .ok ()) => do
      let answer ← CallProgram.request (PodCall.update mutated)
      return takeOver mutated answer

/-- The calls that revert a pod in one of the two modes. -/
def revertProgram (legacyRevertMode : Bool) (pod : Pod) : PodProgram Reverted :=
  if legacyRevertMode then updateBoostPodLegacyProgram lib pod else updateBoostPodProgram lib pod

/-- A server made of one part for each pod: calls on a pod go to its part, and a
list is answered from all of them. -/
structure PodStore (τ : Type) where
  part : PodClient τ
  list : (ns boost : String) → (PodKey → τ) → Except String (List Pod) × (PodKey → τ)
  list_ns : ∀ ns boost server pods,
    (list ns boost server).1 = .ok pods → ∀ pod ∈ pods, pod.ns = ns

namespace PodStore

variable {τ : Type} (store : PodStore τ)

def answer (key : PodKey) : (call : PodCall) → τ → Except String Pod × τ
  | .patchResize data => store.part.patchResize key data
  | .patch data => store.part.patch key data
  | .update sent => store.part.update sent

def onPart {α : Type} (key : PodKey) (call : τ → α × τ) (server : PodKey → τ) :
    α × (PodKey → τ) :=
  ((call (server key)).1, Function.update server key (call (server key)).2)

def client : PodClient (PodKey → τ) where
  patchResize key data := onPart key (store.part.patchResize key data)
  patch key data := onPart key (store.part.patch key data)
  update sent := onPart sent.key (store.part.update sent)
  list := store.list
  patchResize_key key data server := store.part.patchResize_key key data (server key)
  patch_key key data server := store.part.patch_key key data (server key)
  update_key sent server := store.part.update_key sent (server sent.key)
  list_ns := store.list_ns

/-- What a program leaves when its calls are made on one part, and nothing else
happens to it. -/
def runOn (key : PodKey) (program : PodProgram Reverted) (server : PodKey → τ) :
    CallOutcome (PodKey → τ) :=
  let outcome := program.run (store.answer key) (server key)
  ⟨outcome.1.1, outcome.1.2, Function.update server key outcome.2⟩

theorem sendPatch_eq_run (data : Pod → Pod × Except String Json) (send : Json → PodCall)
    (pod : Pod) (server : PodKey → τ) :
    sendPatch data (fun key patch => onPart key (store.answer key (send patch))) pod server =
      store.runOn pod.key (sendPatchProgram data send pod) server := by
  unfold sendPatch sendPatchProgram
  cases data pod with
  | mk mutated outcome =>
      cases outcome with
      | error message => simp [runOn]
      | ok patch =>
          simp only [runOn, CallProgram.run_bind, CallProgram.run_request, CallProgram.run_pure,
            onPart]
          cases (store.answer pod.key (send patch) (server pod.key)).1 with
          | error message => rfl
          | ok stored => rfl

@[simp]
theorem runOn_pure (key : PodKey) (reverted : Reverted) (server : PodKey → τ) :
    store.runOn key (pure reverted) server = ⟨reverted.1, reverted.2, server⟩ := by
  simp [runOn]

theorem runOn_bind (key : PodKey) (program : PodProgram Reverted)
    (next : Reverted → PodProgram Reverted) (server : PodKey → τ) :
    let first := store.runOn key program server
    store.runOn key (program >>= next) server =
      store.runOn key (next (first.result, first.pod)) first.server := by
  simp [runOn]

theorem updateBoostPod_eq_run (pod : Pod) (server : PodKey → τ) :
    updateBoostPod lib store.client pod server =
      store.runOn pod.key (updateBoostPodProgram lib pod) server := by
  have resizes : sendPatch (revertBoostResourcesPatch lib) store.client.patchResize pod server =
      store.runOn pod.key
        (sendPatchProgram (revertBoostResourcesPatch lib) .patchResize pod) server :=
    store.sendPatch_eq_run _ PodCall.patchResize pod server
  have sameKey : (sendPatch (revertBoostResourcesPatch lib) store.client.patchResize pod
      server).pod.key = pod.key :=
    sendPatch_key _ _ (revertBoostResourcesPatch_key lib pod) fun patch stored =>
      store.client.patchResize_key pod.key patch server stored
  unfold updateBoostPod updateBoostPodProgram
  rw [runOn_bind, ← resizes]
  generalize sendPatch (revertBoostResourcesPatch lib) store.client.patchResize pod server =
    resized at sameKey
  obtain ⟨result, object, after⟩ := resized
  cases result with
  | error message => simp [runOn_pure]
  | ok =>
      simp only at sameKey ⊢
      rw [← sameKey]
      exact store.sendPatch_eq_run _ PodCall.patch object after

theorem updateBoostPodLegacy_eq_run (pod : Pod) (server : PodKey → τ) :
    updateBoostPodLegacy lib store.client pod server =
      store.runOn pod.key (updateBoostPodLegacyProgram lib pod) server := by
  have sameKey := revertResourceBoost_key lib pod
  unfold updateBoostPodLegacy updateBoostPodLegacyProgram
  cases reverted : revertResourceBoost lib pod with
  | mk mutated outcome =>
      rw [reverted] at sameKey
      cases outcome with
      | error message => simp [runOn]
      | ok =>
          simp only [runOn, CallProgram.run_bind, CallProgram.run_request, CallProgram.run_pure]
          simp only [client, onPart, sameKey, answer]
          cases (store.part.update mutated (server pod.key)).1 with
          | error message => rfl
          | ok stored => rfl

/-- Reverting a pod at once is running its program alone, on the part under the
pod's key. -/
theorem revertPod_eq_run (legacyRevertMode : Bool) (pod : Pod) (server : PodKey → τ) :
    revertPod lib store.client legacyRevertMode pod server =
      store.runOn pod.key (revertProgram lib legacyRevertMode pod) server := by
  cases legacyRevertMode with
  | true => exact store.updateBoostPodLegacy_eq_run lib pod server
  | false => exact store.updateBoostPod_eq_run lib pod server

end PodStore

end KubeStartupCPUBoost
