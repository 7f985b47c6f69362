import KubeStartupCPUBoost.ManagerStates

/-!
# Sequences of calls to the manager

The calls of the boost and pod handlers in any order, without the ticks of the
timer.  A boost or a pod is built first, as an object in memory, and can be given
to any number of calls; the API server may change between them.
-/

namespace KubeStartupCPUBoost

/-- A call to the manager, the construction of an object to call it with, or a change
at the API server. -/
inductive ManagerCall (σ : Type) where
  | newBoost (spec : StartupCPUBoost) (legacyRevertMode : Bool)
  | newPod (pod : Pod)
  | addRegularCPUBoost (now : Time) (order : RangeOrder String) (boost : BoostRef)
  | updateRegularCPUBoost (now : Time) (order : RangeOrder String) (spec : StartupCPUBoost)
  | deleteRegularCPUBoost (ns name : String)
  | upsertPod (now : Time) (order : RangeOrder String) (ref : PodRef)
  | deletePod (order : RangeOrder String) (pod : Pod)
  | changeServer (server : σ)

namespace Manager

variable {σ : Type} (lib : Library) (client : PodClient σ)

/-- The state after a call.  Only objects that exist can be given to one. -/
def perform (call : ManagerCall σ) (manager : Manager σ) : Manager σ :=
  match call with
  | .newBoost spec legacyRevertMode =>
      match newStartupCPUBoost lib spec legacyRevertMode with
      | .error _ => manager
      | .ok impl => (manager.newBoost impl).2
  | .newPod pod => (manager.newPod pod).2
  | .addRegularCPUBoost now order boost =>
      if boost < manager.nextBoost then (manager.addRegularCPUBoost lib client now order boost).2
      else manager
  | .updateRegularCPUBoost now order spec =>
      (manager.updateRegularCPUBoost lib client now order spec).2
  | .deleteRegularCPUBoost ns name => manager.deleteRegularCPUBoost ns name
  | .upsertPod now order ref =>
      if ref < manager.memory.next then (manager.upsertPod lib client now order ref).2
      else manager
  | .deletePod order pod => (manager.deletePod lib order pod).2
  | .changeServer server => { manager with memory := { manager.memory with server } }

def performAll (calls : List (ManagerCall σ)) (manager : Manager σ) : Manager σ :=
  runEvents (perform lib client) calls manager

variable {lib client} {manager : Manager σ}

theorem Reachable.perform (reached : Reachable lib client manager) (call : ManagerCall σ) :
    Reachable lib client (manager.perform lib client call) := by
  cases call with
  | newBoost spec legacyRevertMode =>
      simp only [Manager.perform]
      cases built : newStartupCPUBoost lib spec legacyRevertMode with
      | error message => exact reached
      | ok impl => exact reached.newBoost built
  | newPod pod => exact reached.newPod pod
  | addRegularCPUBoost now order boost =>
      simp only [Manager.perform]
      by_cases existing : boost < manager.nextBoost
      · rw [if_pos existing]
        exact reached.addRegularCPUBoost existing now order
      · rwa [if_neg existing]
  | updateRegularCPUBoost now order spec => exact reached.updateRegularCPUBoost now order spec
  | deleteRegularCPUBoost ns name => exact reached.deleteRegularCPUBoost ns name
  | upsertPod now order ref =>
      simp only [Manager.perform]
      by_cases allocated : ref < manager.memory.next
      · rw [if_pos allocated]
        exact reached.upsertPod allocated now order
      · rwa [if_neg allocated]
  | deletePod order pod => exact reached.deletePod order pod
  | changeServer server => exact reached.changeServer server

end Manager

end KubeStartupCPUBoost
