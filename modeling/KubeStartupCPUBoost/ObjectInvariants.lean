import KubeStartupCPUBoost.ControllerWellFormed

/-!
# Invariants of the pod objects and the server

The controller changes a pod object or the server in three ways only: an event
or a list delivers a new object, a revert makes its calls with an object, and a
list is asked for.  A property of the objects and the server that these three
keep is kept by every event (`ObjectInvariant.step`), whatever the boosts, the
orphaned pods and the tasks in flight are.

A restart forgets all objects and keeps the server; a lifetime is a run with
restarts, after each of which the boosts may be reverted in the other mode.
-/

namespace KubeStartupCPUBoost

variable {σ : Type}

/-- A property of the pod objects and the server, kept by deliveries of the pods that
are admitted, by reverts and by lists. -/
structure ObjectInvariant (lib : Library) (client : PodClient σ)
    (property : (PodRef → Pod) → σ → Prop) (admitted : Pod → Prop) : Prop where
  deliver : ∀ pods server ref pod, property pods server → admitted pod →
    property (Function.update pods ref pod) server
  revert : ∀ legacyRevertMode pods server ref, property pods server →
    let reverted := revertPod lib client legacyRevertMode (pods ref) server
    property (Function.update pods ref reverted.pod) reverted.server
  list : ∀ ns boost pods server, property pods server →
    property pods (client.list ns boost server).2 ∧
      ∀ listed, (client.list ns boost server).1 = .ok listed → ∀ pod ∈ listed, admitted pod

namespace ControllerEvent

/-- The pods that are delivered are admitted, and the server changes within the
property. -/
def Respects (property : (PodRef → Pod) → σ → Prop) (admitted : Pod → Prop)
    (event : ControllerEvent σ) (state : Controller σ) : Prop :=
  match event with
  | .upsertPod _ pod => admitted pod
  | .changeServer server => property state.manager.memory.pods server
  | _ => True

end ControllerEvent

namespace ObjectInvariant

variable {lib : Library} {client : PodClient σ} {property : (PodRef → Pod) → σ → Prop}
  {admitted : Pod → Prop} (rules : ObjectInvariant lib client property admitted)
  {manager : Manager σ} {now : Time} {order : RangeOrder String} {boost : BoostRef} {ref : PodRef}

def Holds (property : (PodRef → Pod) → σ → Prop) (manager : Manager σ) : Prop :=
  property manager.memory.pods manager.memory.server

include rules

theorem revertResources (impl : StartupCPUBoostImpl) {memory : Memory σ}
    (start : property memory.pods memory.server) (ref : PodRef) :
    property (impl.revertResources lib client ref memory).memory.pods
      (impl.revertResources lib client ref memory).memory.server := by
  rw [impl.revertResources_pods lib client ref memory,
    impl.revertResources_server lib client ref memory]
  exact rules.revert impl.legacyRevertMode _ _ ref start

theorem revertResourcesIn (start : Holds property manager) (boost : BoostRef) (ref : PodRef) :
    Holds property (manager.revertResourcesIn lib client boost ref).2 :=
  rules.revertResources (manager.boosts boost) start ref

theorem upsertPodIn (start : Holds property manager) :
    Holds property (manager.upsertPodIn lib client now boost ref).2 := by
  obtain ⟨stats, metrics, met, notMet⟩ :=
    (manager.boosts boost).upsertPod_eq lib client now ref manager.memory
  simp only [Manager.upsertPodIn, Holds, Manager.setBoost]
  by_cases condition : (manager.boosts boost).MeetsPodCondition now (manager.memory.pods ref)
  · rw [met condition]
    exact start
  · rw [notMet condition]
    have counted : property ({ manager.memory with metrics } : Memory σ).pods
        ({ manager.memory with metrics } : Memory σ).server := start
    exact rules.revertResources _ counted ref

omit rules in
theorem deletePodIn (start : Holds property manager) (podName : String) :
    Holds property (manager.deletePodIn lib boost podName) := by
  obtain ⟨metrics, deleted⟩ := (manager.boosts boost).deletePod_memory lib manager.memory podName
  simp only [Manager.deletePodIn, Holds, Manager.setBoost]
  rw [deleted]
  exact start

theorem newPod (start : Holds property manager) {pod : Pod} (admits : admitted pod) :
    Holds property (manager.newPod pod).2 :=
  rules.deliver _ _ manager.memory.next pod start admits

theorem mapOrphanedPods (start : Holds property manager) :
    Holds property (manager.mapOrphanedPods lib client now order boost).2 := by
  apply Manager.foldl_deleteOrphanedPod_preserves (fun _ _ holds => holds)
  exact Manager.mapMatchingPods_preserves lib client (fun _ _ _ holds _ => rules.upsertPodIn holds)
    start

theorem syncBoostPods (start : Holds property manager) :
    Holds property (manager.syncBoostPods lib client now boost).2 := by
  obtain ⟨listed, admitted⟩ := rules.list _ _ _ _ start
  apply Manager.syncBoostPods_preserves lib client start
  · exact ⟨listed, fun pod ⟨_, pods, answer, member⟩ => admitted pods answer pod member⟩
  · intro pod admits current holds _
    exact rules.upsertPodIn (rules.newPod holds admits)

theorem postProcessNewBoost (start : Holds property manager) :
    Holds property (manager.postProcessNewBoost lib client now order boost) := by
  obtain ⟨timedBoosts, indexed⟩ := manager.indexTimedBoost_eq boost
  have indexedHolds : Holds property (manager.indexTimedBoost boost) := by
    rw [indexed]
    exact start
  exact rules.syncBoostPods (rules.mapOrphanedPods indexedHolds)

theorem upsertPod (start : Holds property manager) :
    Holds property (manager.upsertPod lib client now order ref).2 := by
  rcases manager.upsertPod_cases lib client now order ref with
    ⟨boost, -, outcome⟩ | ⟨-, orphaned⟩
  · have upserted : Holds property (manager.upsertPodIn lib client now boost ref).2 :=
      rules.upsertPodIn start
    rcases outcome with ⟨-, succeeded⟩ | ⟨message, -, failed⟩
    · rw [succeeded]
      exact upserted
    · rw [failed]
      exact upserted
  · rw [orphaned]
    exact start

omit rules in
theorem deletePod (start : Holds property manager) (pod : Pod) :
    Holds property (manager.deletePod lib order pod).2 := by
  rcases manager.deletePod_cases lib order pod with ⟨boost, -, deleted⟩ | ⟨-, deleted⟩
  · rw [deleted]
    exact deletePodIn start pod.name
  · rw [deleted]
    exact start

variable (legacyRevertMode : Bool)

theorem step {event : ControllerEvent σ} {state : Controller σ}
    (start : Holds property state.manager) (respects : event.Respects property admitted state) :
    Holds property (state.step lib client legacyRevertMode event).manager := by
  cases event with
  | createBoost order spec =>
      rcases state.step_createBoost lib client legacyRevertMode order spec with
        same | ⟨impl, built, unregistered | ⟨unused, registered⟩⟩
      · rwa [same]
      · rw [unregistered]
        exact start
      · rw [registered]
        have new : Holds property (Controller.registerNew impl state.manager) := start
        exact rules.postProcessNewBoost new
  | updateBoost order spec =>
      rcases state.step_updateBoost lib client legacyRevertMode order spec with
        same | ⟨boost, impl, registered, updated, replaced⟩
      · rwa [same]
      · rw [replaced]
        have set : Holds property (state.manager.setBoost boost impl state.manager.memory) := start
        exact rules.postProcessNewBoost set
  | deleteBoost ns name => exact start
  | upsertPod order pod => exact rules.upsertPod (rules.newPod start respects)
  | deletePod order pod => exact deletePod start pod
  | startTick order within =>
      simp only [Controller.step]
      split <;> exact start
  | checkBoost order =>
      simp only [Controller.step, checkNextBoost_manager]
      exact start
  | executeTask position =>
      rcases state.executeTask_cases lib client position with unchanged | ⟨boost, ref, -, executed⟩
      · rwa [Controller.step, unchanged]
      · rw [Controller.step, executed]
        exact rules.revertResourcesIn start _ _
  | passTime duration => exact start
  | changeServer server => exact respects

end ObjectInvariant

/-- A controller and the mode in which the boosts it creates are reverted. -/
structure Lifetime (σ : Type) where
  controller : Controller σ
  legacyRevertMode : Bool

inductive LifetimeEvent (σ : Type) where
  | handle (event : ControllerEvent σ)
  | restart (hasClient legacyRevertMode : Bool)

namespace Lifetime

variable (lib : Library) (client : PodClient σ)

/-- A restart starts from an empty manager on the same server. -/
def step (event : LifetimeEvent σ) (life : Lifetime σ) : Lifetime σ :=
  match event with
  | .handle event =>
      { life with controller := life.controller.step lib client life.legacyRevertMode event }
  | .restart hasClient legacyRevertMode =>
      { controller := .initial hasClient life.controller.now life.controller.manager.memory.server
        legacyRevertMode }

def start (hasClient legacyRevertMode : Bool) (now : Time) (server : σ) : Lifetime σ where
  controller := .initial hasClient now server
  legacyRevertMode := legacyRevertMode

def server (life : Lifetime σ) : σ := life.controller.manager.memory.server

def pods (life : Lifetime σ) : PodRef → Pod := life.controller.manager.memory.pods

end Lifetime

def LifetimeEvent.Respects (property : (PodRef → Pod) → σ → Prop) (admitted : Pod → Prop)
    (event : LifetimeEvent σ) (life : Lifetime σ) : Prop :=
  match event with
  | .handle event => event.Respects property admitted life.controller
  | .restart _ _ => True

/-- A property that holds of no objects, too, is kept over lifetimes whose events respect
it. -/
theorem ObjectInvariant.lifetime {lib : Library} {client : PodClient σ}
    {property : (PodRef → Pod) → σ → Prop} {admitted : Pod → Prop}
    (rules : ObjectInvariant lib client property admitted)
    (forgets : ∀ pods server, property pods server →
      property (fun _ => Controller.unusedPod) server)
    {allowed : LifetimeEvent σ → Lifetime σ → Prop}
    (respects : ∀ event life, property life.pods life.server → allowed event life →
      event.Respects property admitted life)
    {events : List (LifetimeEvent σ)} {life : Lifetime σ} (start : property life.pods life.server)
    (run : AllowedRun (Lifetime.step lib client) allowed events life) :
    property (runEvents (Lifetime.step lib client) events life).pods
      (runEvents (Lifetime.step lib client) events life).server := by
  have kept (event : LifetimeEvent σ) (life : Lifetime σ) (holds : property life.pods life.server)
      (allows : allowed event life) :
      property (life.step lib client event).pods (life.step lib client event).server := by
    have respected := respects event life holds allows
    cases event with
    | handle event => exact rules.step life.legacyRevertMode holds respected
    | restart hasClient legacyRevertMode => exact forgets _ _ holds
  exact runEvents_invariant kept start run

end KubeStartupCPUBoost
