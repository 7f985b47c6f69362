import KubeStartupCPUBoost.PodRevertAttempts
import KubeStartupCPUBoost.TransitionRun

/-!
# Sequences of calls to one boost

The operations of a boost in any order, on pod objects that are delivered first and
can be given to any number of calls.  The API server may answer in any way and
change between the calls.  The versions passed to `UpsertPod` are kept as history.
-/

namespace KubeStartupCPUBoost

variable {σ : Type}

/-- A call to a boost, the delivery of a pod object, or a change at the API server. -/
inductive BoostCall (σ : Type) where
  | newPod (pod : Pod)
  | upsertPod (now : Time) (ref : PodRef)
  | deletePod (podName : String)
  | revertResources (ref : PodRef)
  | updateFromSpec (spec : StartupCPUBoost)
  | changeServer (server : σ)

def Memory.newPod (pod : Pod) (memory : Memory σ) : Memory σ :=
  { memory with
    pods := Function.update memory.pods memory.next pod
    delivered := Function.update memory.delivered memory.next pod
    next := memory.next + 1 }

/-- A boost and the memory, with the versions passed to `UpsertPod`, the last one
first. -/
structure BoostRun (σ : Type) where
  boost : StartupCPUBoostImpl
  memory : Memory σ
  passed : List Pod

namespace BoostRun

variable (lib : Library) (client : PodClient σ)

def initial (boost : StartupCPUBoostImpl) (memory : Memory σ) : BoostRun σ where
  boost := { boost with pods := ∅, stats := {} }
  memory := memory
  passed := []

/-- One call.  Only pod objects that were delivered can be given to it. -/
def step (call : BoostCall σ) (run : BoostRun σ) : BoostRun σ :=
  match call with
  | .newPod pod => { run with memory := run.memory.newPod pod }
  | .upsertPod now ref =>
      if ref < run.memory.next then
        let outcome := run.boost.upsertPod lib client now ref run.memory
        ⟨outcome.boost, outcome.memory, run.memory.pods ref :: run.passed⟩
      else run
  | .deletePod podName =>
      let deleted := run.boost.deletePod lib podName run.memory
      ⟨deleted.1, deleted.2, run.passed⟩
  | .revertResources ref =>
      if ref < run.memory.next then
        let outcome := run.boost.revertResources lib client ref run.memory
        ⟨outcome.boost, outcome.memory, run.passed⟩
      else run
  | .updateFromSpec spec =>
      match run.boost.updateFromSpec lib spec with
      | .error _ => run
      | .ok boost => { run with boost }
  | .changeServer server => { run with memory := { run.memory with server } }

def performAll (calls : List (BoostCall σ)) (run : BoostRun σ) : BoostRun σ :=
  runEvents (step lib client) calls run

def track (ref : PodRef) (run : BoostRun σ) : BoostRun σ :=
  let tracked := run.boost.trackPod lib ref run.memory
  ⟨tracked.1, tracked.2, run.memory.pods ref :: run.passed⟩

def revert (ref : PodRef) (run : BoostRun σ) : BoostRun σ :=
  let outcome := run.boost.revertResources lib client ref run.memory
  ⟨outcome.boost, outcome.memory, run.passed⟩

/-- An upsert tracks the object, and reverts it if the pod has reached the condition. -/
theorem step_upsertPod {now : Time} {ref : PodRef} {run : BoostRun σ}
    (allocated : ref < run.memory.next) :
    run.step lib client (.upsertPod now ref) = run.track lib ref ∨
      run.step lib client (.upsertPod now ref) = (run.track lib ref).revert lib client ref := by
  obtain ⟨met, notMet⟩ := run.boost.upsertPod_eq_trackPod lib client now ref run.memory
  simp only [step, if_pos allocated]
  by_cases condition : run.boost.MeetsPodCondition now (run.memory.pods ref)
  · left
    rw [met condition]
    rfl
  · right
    rw [notMet condition]
    rfl

theorem step_revertResources {ref : PodRef} {run : BoostRun σ}
    (allocated : ref < run.memory.next) :
    run.step lib client (.revertResources ref) = run.revert lib client ref := by
  simp only [step, if_pos allocated]
  rfl

/-- A changed specification leaves what is tracked and counted. -/
theorem step_updateFromSpec (spec : StartupCPUBoost) (run : BoostRun σ) :
    ∃ boost, run.step lib client (.updateFromSpec spec) = { run with boost } ∧
      boost.pods = run.boost.pods ∧ boost.stats = run.boost.stats := by
  simp only [step]
  cases updated : run.boost.updateFromSpec lib spec with
  | error message => exact ⟨run.boost, rfl, rfl, rfl⟩
  | ok boost =>
      refine ⟨boost, rfl, ?_⟩
      rw [StartupCPUBoostImpl.updateFromSpec_ok lib updated]
      exact ⟨rfl, rfl⟩

end BoostRun

namespace Reference

noncomputable def freshRun : BoostRun ApiServer := .initial trackingBoost syncedMemory

noncomputable abbrev syncedClient : PodClient ApiServer :=
  ApiServer.podClient referenceLibrary .arbitrary

theorem boostContainersLen_boostedPod : boostContainersLen referenceLibrary boostedPod = 1 := by
  rw [boostContainersLen, boostAnnotationFromPod_boostedPod]
  decide +kernel

private theorem revertPod_boostedPod (labelAccepted : Bool) :
    let outcome := revertPod referenceLibrary syncedClient false boostedPod
      ⟨syncedMemory.server.pods, [false, !labelAccepted]⟩
    (outcome.result = .ok () ↔ labelAccepted = true) ∧
      outcome.pod.annotations.lookup boostAnnotationKey = none := by
  have built := revertBoostResourcesPatch_of_readable referenceLibrary
    boostAnnotationFromPod_boostedPod readable_appAnnot
  have patched := ApiServer.patchedBody_diff referenceLibrary boostedPod
    (restoredPod referenceLibrary appAnnot boostedPod)
  have resizes := ApiServer.resized_of_patchedBody referenceLibrary patched rfl fun _ => rfl
  have labelFault : (ApiServer.mk syncedMemory.server.pods
      [false, !labelAccepted]).faults.tail.headD false = !labelAccepted := rfl
  have present : (ApiServer.mk syncedMemory.server.pods
      [false, !labelAccepted]).pods.lookup boostedPod.key = some boostedPod := syncedMemory_inSync
  obtain ⟨result, object, _⟩ := updateBoostPod_outcome referenceLibrary .arbitrary
    (true, labelAccepted) rfl labelFault present built resizes rfl
  refine ⟨result.trans (by simp), ?_⟩
  simp only [revertPod, Bool.false_eq_true, if_false]
  rw [object]
  exact lookup_annotations_revertBoostLabels _

/-- The server of the run, which accepts a resize patch and may reject the label patch
after it. -/
noncomputable def patchServer (labelAccepted : Bool) : ApiServer :=
  ⟨syncedMemory.server.pods, [false, !labelAccepted]⟩

noncomputable def trackedRun (labelAccepted : Bool) : BoostRun ApiServer :=
  { freshRun.track referenceLibrary 0 with
    memory :=
      { (freshRun.track referenceLibrary 0).memory with server := patchServer labelAccepted } }

/-- The boost has no pod condition policy. -/
theorem performAll_trackedRun (labelAccepted : Bool) (calls : List (BoostCall ApiServer)) :
    freshRun.performAll referenceLibrary syncedClient
        (.upsertPod 0 0 :: .changeServer (patchServer labelAccepted) :: calls) =
      (trackedRun labelAccepted).performAll referenceLibrary syncedClient calls :=
  rfl

theorem revertCalls_trackedRun (labelAccepted : Bool) :
    let outcome := (trackedRun labelAccepted).boost.revertCalls referenceLibrary syncedClient 0
      (trackedRun labelAccepted).memory
    (outcome.result = .ok () ↔ labelAccepted = true) ∧
      outcome.pod.annotations.lookup boostAnnotationKey = none :=
  revertPod_boostedPod labelAccepted

end Reference

end KubeStartupCPUBoost
