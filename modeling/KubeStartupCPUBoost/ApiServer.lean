import KubeStartupCPUBoost.PodClient

/-!
# A server that stores pods

The API server as the controller uses it: pods by key, merge patches applied
to their JSON form, and the resize subresource, which takes over nothing but
container resources.  No call changes the identity or the status of a pod.  A
list of faults says which calls are rejected.

The lemmas say what the server makes of the patches the controller sends: the
empty patch changes nothing, and a patch built from the stored pod gives the
pod it was built for.
-/

namespace KubeStartupCPUBoost

variable (lib : Library)

/-- The pods stored at the server, and for the calls to come whether each is
rejected; calls beyond the list are accepted. -/
structure ApiServer where
  pods : GoMap PodKey Pod
  faults : List Bool

namespace ApiServer

def call (server : ApiServer) (key : PodKey) (change : Pod → Except String Pod) :
    Except String Pod × ApiServer :=
  let after := { server with faults := server.faults.tail }
  if server.faults.headD false then (.error "rejected", after)
  else
    match server.pods.lookup key with
    | none => (.error "not found", after)
    | some stored =>
        match change stored with
        | .error message => (.error message, after)
        | .ok updated =>
            if updated.key = key then
              (.ok updated, { after with pods := server.pods.insert key updated })
            else (.error "invalid", after)

def patchedBody (patch : Json) (stored : Pod) : Except String Pod :=
  match (Pod.codec lib).decode (((Pod.codec lib).encode stored).mergePatch patch) with
  | none => .error "invalid"
  | some body => .ok body

/-- A pod is written as a whole, but its identity cannot be changed and its
status is left alone. -/
def replaced (body stored : Pod) : Except String Pod :=
  if body.uid = stored.uid then .ok { body with conditions := stored.conditions }
  else .error "conflict"

def patched (patch : Json) (stored : Pod) : Except String Pod :=
  match patchedBody lib patch stored with
  | .error message => .error message
  | .ok body => replaced body stored

/-- The resize subresource takes over the container resources of the patched
body and nothing else; containers cannot be renamed, added or removed. -/
def resized (patch : Json) (stored : Pod) : Except String Pod :=
  match patchedBody lib patch stored with
  | .error message => .error message
  | .ok body =>
      if body.containers.map Container.name = stored.containers.map Container.name then
        .ok { stored with
          containers := stored.containers.zipWith
            (fun container resized => { container with resources := resized.resources })
            body.containers }
      else .error "invalid"

/-- A call that is not rejected stores what the change makes of the pod. -/
theorem call_of_accepted {server : ApiServer} {key : PodKey} {change : Pod → Except String Pod}
    {stored updated : Pod} (accepted : server.faults.headD false = false)
    (present : server.pods.lookup key = some stored) (changed : change stored = .ok updated)
    (sameKey : updated.key = key) :
    server.call key change =
      (.ok updated, ⟨server.pods.insert key updated, server.faults.tail⟩) := by
  simp only [call, accepted, present, changed, sameKey, Bool.false_eq_true, if_false, if_true]

theorem call_of_fault {server : ApiServer} (rejected : server.faults.headD false = true)
    (key : PodKey) (change : Pod → Except String Pod) :
    server.call key change = (.error "rejected", ⟨server.pods, server.faults.tail⟩) := by
  simp only [call, rejected, if_true]

/-- A call fails and changes no pod, or it stores what the change makes of the pod. -/
theorem call_cases (server : ApiServer) (key : PodKey) (change : Pod → Except String Pod) :
    (∃ message, server.call key change = (.error message, ⟨server.pods, server.faults.tail⟩)) ∨
      ∃ stored updated, server.pods.lookup key = some stored ∧ change stored = .ok updated ∧
        updated.key = key ∧ server.call key change =
          (.ok updated, ⟨server.pods.insert key updated, server.faults.tail⟩) := by
  cases rejected : server.faults.headD false with
  | true => exact .inl ⟨_, call_of_fault rejected key change⟩
  | false =>
      cases present : server.pods.lookup key with
      | none =>
          exact .inl ⟨"not found", by simp only [call, rejected, present, Bool.false_eq_true,
            if_false]⟩
      | some stored =>
          cases changed : change stored with
          | error message =>
              exact .inl ⟨message, by simp only [call, rejected, present, changed,
                Bool.false_eq_true, if_false]⟩
          | ok updated =>
              by_cases sameKey : updated.key = key
              · exact .inr ⟨stored, updated, rfl, changed, sameKey,
                  call_of_accepted rejected present changed sameKey⟩
              · exact .inl ⟨"invalid", by simp only [call, rejected, present, changed, sameKey,
                  Bool.false_eq_true, if_false]⟩

/-- A call that succeeds has stored what the change makes of the pod. -/
theorem call_ok {server : ApiServer} {key : PodKey} {change : Pod → Except String Pod} {pod : Pod}
    (accepted : (server.call key change).1 = .ok pod) :
    pod.key = key ∧ ∃ stored, server.pods.lookup key = some stored ∧ change stored = .ok pod ∧
      (server.call key change).2.pods = server.pods.insert key pod := by
  rcases server.call_cases key change with
    ⟨message, failed⟩ | ⟨stored, updated, present, changed, sameKey, succeeded⟩
  · rw [failed] at accepted
    cases accepted
  · rw [succeeded] at accepted ⊢
    cases accepted
    exact ⟨sameKey, stored, present, changed, rfl⟩

def podClient (order : RangeOrder PodKey) : PodClient ApiServer where
  patchResize key data server := server.call key (resized lib data)
  patch key data server := server.call key (patched lib data)
  update sent server := server.call sent.key (replaced sent)
  list ns boost server :=
    let after := { server with faults := server.faults.tail }
    if server.faults.headD false then (.error "rejected", after)
    else
      (.ok ((server.pods.rangeValues order).filter fun pod =>
        pod.ns = ns ∧ pod.labels.lookup boostLabelKey = some boost), after)
  patchResize_key _ _ _ _ accepted := (call_ok accepted).1
  patch_key _ _ _ _ accepted := (call_ok accepted).1
  update_key _ _ _ accepted := (call_ok accepted).1
  list_ns ns boost server pods listed pod member := by
    simp only at listed
    split at listed
    · cases listed
    · cases listed
      have selected := (List.mem_filter.mp member).2
      simp only [decide_eq_true_eq] at selected
      exact selected.1

@[simp]
theorem podClient_patchResize (order : RangeOrder PodKey) (key : PodKey) (patch : Json)
    (server : ApiServer) :
    (podClient lib order).patchResize key patch server = server.call key (resized lib patch) :=
  rfl

@[simp]
theorem podClient_patch (order : RangeOrder PodKey) (key : PodKey) (patch : Json)
    (server : ApiServer) :
    (podClient lib order).patch key patch server = server.call key (patched lib patch) :=
  rfl

@[simp]
theorem patchedBody_empty (stored : Pod) : patchedBody lib .empty stored = .ok stored := by
  unfold patchedBody
  rw [Json.mergePatch_empty (isObject_encode_pod lib stored), (Pod.codec lib).decode_encode]

@[simp]
theorem patchedBody_diff (stored mutated : Pod) :
    patchedBody lib
        (((Pod.codec lib).encode stored).diff ((Pod.codec lib).encode mutated)) stored =
      .ok mutated := by
  unfold patchedBody
  rw [mergePatch_diff_pod, (Pod.codec lib).decode_encode]

theorem patched_of_patchedBody {patch : Json} {stored body : Pod}
    (built : patchedBody lib patch stored = .ok body) (sameUid : body.uid = stored.uid) :
    patched lib patch stored = .ok { body with conditions := stored.conditions } := by
  unfold patched
  rw [built]
  exact if_pos sameUid

/-- Taking over the resources of containers that differ in nothing else gives
these containers. -/
theorem zipWith_resources_map {change : Container → Container}
    (onlyResources : ∀ container, change container =
      { container with resources := (change container).resources })
    (containers : List Container) :
    containers.zipWith
        (fun container resized => { container with resources := resized.resources })
        (containers.map change) =
      containers.map change := by
  induction containers with
  | nil => rfl
  | cons container containers ih =>
      rw [List.map_cons, List.zipWith_cons_cons, ih, ← onlyResources]

/-- The resize subresource accepts a patched body that changes the resources
of the stored containers only. -/
theorem resized_of_patchedBody {patch : Json} {stored body : Pod}
    {change : Container → Container} (patched : patchedBody lib patch stored = .ok body)
    (changed : body.containers = stored.containers.map change)
    (onlyResources : ∀ container, change container =
      { container with resources := (change container).resources }) :
    resized lib patch stored = .ok { stored with containers := stored.containers.map change } := by
  have sameNames :
      body.containers.map Container.name = stored.containers.map Container.name := by
    rw [changed, List.map_map]
    apply List.map_congr_left
    intro container _
    rw [Function.comp_apply, onlyResources]
  unfold resized
  rw [patched]
  simp only
  rw [if_pos sameNames, changed, zipWith_resources_map onlyResources]

@[simp]
theorem resized_empty (stored : Pod) : resized lib .empty stored = .ok stored := by
  rw [resized_of_patchedBody lib (patchedBody_empty lib stored) (List.map_id' _).symm
    fun _ => rfl]
  simp

section Keeps

variable {P : ApiServer → Prop} {pod : Pod}
  (calls : ∀ server change, P server → P (ApiServer.call server pod.key change).2)

include calls

theorem sendPatch_preserves (data : Pod → Pod × Except String Json)
    (change : Json → Pod → Except String Pod) {server : ApiServer} (start : P server) :
    P (sendPatch data (fun key patch server => server.call key (change patch)) pod
      server).server := by
  unfold sendPatch
  cases data pod with
  | mk mutated outcome =>
      cases outcome with
      | error message => exact start
      | ok patch =>
          have kept := calls server (change patch) start
          cases sent : server.call pod.key (change patch) with
          | mk answer after =>
              rw [sent] at kept
              simp only [sent]
              cases answer <;> exact kept

/-- Reverting a pod keeps what every call on this pod keeps. -/
theorem revertPod_preserves (order : RangeOrder PodKey) (legacyRevertMode : Bool)
    {server : ApiServer} (start : P server) :
    P (revertPod lib (podClient lib order) legacyRevertMode pod server).server := by
  cases legacyRevertMode with
  | true =>
      have sameKey := revertResourceBoost_key lib pod
      simp only [revertPod, if_true, updateBoostPodLegacy]
      cases reverted : revertResourceBoost lib pod with
      | mk mutated outcome =>
          rw [reverted] at sameKey
          cases outcome with
          | error message => exact start
          | ok =>
              have kept := calls server (replaced mutated) start
              have updates : (podClient lib order).update mutated server =
                  server.call pod.key (replaced mutated) := by
                rw [← sameKey]
                rfl
              simp only [updates]
              cases sent : server.call pod.key (replaced mutated) with
              | mk answer after =>
                  rw [sent] at kept
                  cases answer <;> exact kept
  | false =>
      have resized : P (sendPatch (revertBoostResourcesPatch lib)
          (podClient lib order).patchResize pod server).server :=
        sendPatch_preserves calls _ (resized lib) start
      have sameKey := sendPatch_key (podClient lib order).patchResize server
        (revertBoostResourcesPatch_key lib pod) fun patch stored =>
          (podClient lib order).patchResize_key pod.key patch server stored
      simp only [revertPod, Bool.false_eq_true, if_false, updateBoostPod]
      split
      · exact resized
      · rw [← sameKey] at calls
        exact sendPatch_preserves calls _ (patched lib) resized

end Keeps

theorem call_lookup_of_ne {key other : PodKey} (different : other ≠ key) (server : ApiServer)
    (change : Pod → Except String Pod) :
    (server.call key change).2.pods.lookup other = server.pods.lookup other := by
  rcases server.call_cases key change with ⟨message, failed⟩ | ⟨_, updated, _, _, _, succeeded⟩
  · rw [failed]
  · rw [succeeded, Finmap.lookup_insert_of_ne _ different]

/-- Reverting a pod does not change another at the server. -/
@[simp]
theorem revertPod_lookup_of_ne (order : RangeOrder PodKey) (legacyRevertMode : Bool) {pod : Pod}
    {other : PodKey} (different : other ≠ pod.key) (server : ApiServer) :
    (revertPod lib (podClient lib order) legacyRevertMode pod server).server.pods.lookup other =
      server.pods.lookup other := by
  have calls (current : ApiServer) (change : Pod → Except String Pod)
      (same : current.pods.lookup other = server.pods.lookup other) :
      (current.call pod.key change).2.pods.lookup other = server.pods.lookup other :=
    (call_lookup_of_ne different current change).trans same
  exact revertPod_preserves lib calls order legacyRevertMode rfl

/-- Every pod is stored under its own key. -/
def Keyed (server : ApiServer) : Prop :=
  ∀ key pod, server.pods.lookup key = some pod → pod.key = key

theorem Keyed.call {server : ApiServer} (keyed : server.Keyed) (key : PodKey)
    (change : Pod → Except String Pod) : (server.call key change).2.Keyed := by
  intro other pod found
  rcases server.call_cases key change with
    ⟨message, failed⟩ | ⟨_, updated, _, _, sameKey, succeeded⟩
  · rw [failed] at found
    exact keyed other pod found
  · rw [succeeded] at found
    rcases GoMap.lookup_insert_eq_some.mp found with ⟨rfl, rfl⟩ | ⟨-, before⟩
    · exact sameKey
    · exact keyed other pod before

theorem Keyed.revertPod {server : ApiServer} (keyed : server.Keyed) (order : RangeOrder PodKey)
    (legacyRevertMode : Bool) (pod : Pod) :
    (revertPod lib (podClient lib order) legacyRevertMode pod server).server.Keyed :=
  revertPod_preserves lib (fun _ change current => current.call pod.key change) order
    legacyRevertMode keyed

end ApiServer

end KubeStartupCPUBoost
