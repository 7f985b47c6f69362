import KubeStartupCPUBoost.BoostCalls

/-!
# The counter of boosted containers

An upsert counts the containers of its pod if the pod's name is not tracked.  A
name is untracked by a revert or a deletion, and an event that still carries the
annotation may come after that; and a pod that replaces another one under its name
comes while the name is tracked.

`total_correct_throughout_iff` says that these are all the ways in which the total
can differ from the containers of the pods seen.
-/

namespace KubeStartupCPUBoost

variable {σ : Type}

namespace BoostRun

variable (lib : Library)

/-- The containers recorded for a pod, by UID, in the versions of it passed to
`UpsertPod`: versions without the annotation record none. -/
def recordedFor (uid : String) (passed : List Pod) : Nat :=
  ((passed.filter fun pod => pod.uid = uid).map (boostContainersLen lib)).foldr max 0

/-- The sum over the distinct pods passed to `UpsertPod`. -/
def recordedTotal (passed : List Pod) : Nat :=
  ∑ uid ∈ (passed.map (·.uid)).toFinset, recordedFor lib uid passed

/-- Each boosted container is counted once. -/
def TotalCorrect (run : BoostRun σ) : Prop :=
  run.boost.stats.totalContainerBoosts = recordedTotal lib run.passed

/-- An upsert that counts containers is the first to record any for its pod, and one that
does not count records no more than was recorded before. -/
def CountsOnce (call : BoostCall σ) (run : BoostRun σ) : Prop :=
  match call with
  | .upsertPod _ ref =>
      ref < run.memory.next →
        let pod := run.memory.pods ref
        if (run.boost.pods.lookup pod.name).isSome then
          boostContainersLen lib pod ≤ recordedFor lib pod.uid run.passed
        else boostContainersLen lib pod = 0 ∨ recordedFor lib pod.uid run.passed = 0
  | _ => True

theorem recordedFor_cons (uid : String) (pod : Pod) (passed : List Pod) :
    recordedFor lib uid (pod :: passed) =
      if pod.uid = uid then max (boostContainersLen lib pod) (recordedFor lib uid passed)
      else recordedFor lib uid passed := by
  unfold recordedFor
  by_cases same : pod.uid = uid
  · simp [same]
  · simp [same]

theorem recordedFor_of_notMem {uid : String} {passed : List Pod}
    (unseen : uid ∉ (passed.map (·.uid)).toFinset) : recordedFor lib uid passed = 0 := by
  have none : passed.filter (fun pod => pod.uid = uid) = [] := by
    rw [List.filter_eq_nil_iff]
    intro pod member same
    apply unseen
    rw [List.mem_toFinset, List.mem_map]
    exact ⟨pod, member, by simpa using same⟩
  rw [recordedFor, none]
  rfl

theorem recordedTotal_eq (uid : String) (passed : List Pod) :
    recordedTotal lib passed = recordedFor lib uid passed +
      ∑ other ∈ (passed.map (·.uid)).toFinset.erase uid, recordedFor lib other passed := by
  by_cases seen : uid ∈ (passed.map (·.uid)).toFinset
  · exact (Finset.add_sum_erase _ _ seen).symm
  · rw [recordedFor_of_notMem lib seen, Finset.erase_eq_of_notMem seen, Nat.zero_add]
    rfl

theorem recordedTotal_cons (pod : Pod) (passed : List Pod) :
    recordedTotal lib (pod :: passed) + recordedFor lib pod.uid passed =
      recordedTotal lib passed +
        max (boostContainersLen lib pod) (recordedFor lib pod.uid passed) := by
  have others : ∑ other ∈ (((pod :: passed).map (·.uid)).toFinset.erase pod.uid),
      recordedFor lib other (pod :: passed) =
        ∑ other ∈ ((passed.map (·.uid)).toFinset.erase pod.uid), recordedFor lib other passed := by
    rw [List.map_cons, List.toFinset_cons, Finset.erase_insert_eq_erase]
    refine Finset.sum_congr rfl fun other member => ?_
    rw [recordedFor_cons, if_neg (Finset.ne_of_mem_erase member).symm]
  have after := recordedTotal_eq lib pod.uid (pod :: passed)
  have before := recordedTotal_eq lib pod.uid passed
  rw [others, recordedFor_cons, if_pos rfl] at after
  omega

@[simp]
theorem total_revert (client : PodClient σ) (ref : PodRef) (run : BoostRun σ) :
    (run.revert lib client ref).boost.stats.totalContainerBoosts =
      run.boost.stats.totalContainerBoosts := by
  simp only [revert]
  cases calls : (run.boost.revertCalls lib client ref run.memory).result with
  | error message =>
      rw [StartupCPUBoostImpl.revertResources_of_error lib client ref run.boost run.memory calls]
  | ok =>
      rw [StartupCPUBoostImpl.revertResources_of_ok_eq lib client ref run.boost run.memory calls]
      rfl

theorem total_track (ref : PodRef) (run : BoostRun σ) :
    (run.track lib ref).boost.stats.totalContainerBoosts =
      run.boost.stats.totalContainerBoosts +
        if (run.boost.pods.lookup (run.memory.pods ref).name).isSome then 0
        else boostContainersLen lib (run.memory.pods ref) := by
  unfold track StartupCPUBoostImpl.trackPod
  split <;> rfl

/-- An upsert counts the pod's containers if its name is not tracked. -/
theorem total_upsertPod (client : PodClient σ) (now : Time) {ref : PodRef} {run : BoostRun σ}
    (allocated : ref < run.memory.next) :
    (run.step lib client (.upsertPod now ref)).passed = run.memory.pods ref :: run.passed ∧
      (run.step lib client (.upsertPod now ref)).boost.stats.totalContainerBoosts =
        run.boost.stats.totalContainerBoosts +
          if (run.boost.pods.lookup (run.memory.pods ref).name).isSome then 0
          else boostContainersLen lib (run.memory.pods ref) := by
  rw [← total_track]
  rcases step_upsertPod lib client allocated with tracked | reverted
  · rw [tracked]
    exact ⟨rfl, rfl⟩
  · rw [reverted]
    exact ⟨rfl, total_revert lib client ref _⟩

theorem totalCorrect_step_iff (client : PodClient σ) {run : BoostRun σ}
    (correct : run.TotalCorrect lib) (call : BoostCall σ) :
    (run.step lib client call).TotalCorrect lib ↔ run.CountsOnce lib call := by
  cases call with
  | newPod pod => exact iff_of_true correct trivial
  | upsertPod now ref =>
      by_cases allocated : ref < run.memory.next
      · have added := recordedTotal_cons lib (run.memory.pods ref) run.passed
        obtain ⟨passed, total⟩ := total_upsertPod lib client now allocated
        simp only [TotalCorrect, CountsOnce, passed, total, allocated, forall_const] at correct ⊢
        split <;> omega
      · rw [step, if_neg allocated]
        exact iff_of_true correct fun isAllocated => absurd isAllocated allocated
  | deletePod podName => exact iff_of_true correct trivial
  | revertResources ref =>
      refine iff_of_true ?_ trivial
      by_cases allocated : ref < run.memory.next
      · rw [step_revertResources lib client allocated]
        exact (total_revert lib client ref run).trans correct
      · rw [step, if_neg allocated]
        exact correct
  | updateFromSpec spec =>
      obtain ⟨boost, updated, _, sameStats⟩ := run.step_updateFromSpec lib client spec
      refine iff_of_true ?_ trivial
      rw [updated, TotalCorrect, sameStats]
      exact correct
  | changeServer server => exact iff_of_true correct trivial

/-- The total is the number of containers of the distinct pods seen, after every call of
a sequence, exactly when every upsert counts once. -/
theorem total_correct_throughout_iff (client : PodClient σ) (boost : StartupCPUBoostImpl)
    (memory : Memory σ) (calls : List (BoostCall σ)) :
    (∀ taken, ((initial boost memory).performAll lib client (calls.take taken)).TotalCorrect
      lib) ↔
      AllowedRun (step lib client) (CountsOnce lib) calls (initial boost memory) := by
  have preserved : ∀ call (run : BoostRun σ), run.TotalCorrect lib → run.CountsOnce lib call →
      (run.step lib client call).TotalCorrect lib := fun call _ correct =>
    (totalCorrect_step_iff lib client correct call).mpr
  have necessary : ∀ call (run : BoostRun σ), run.TotalCorrect lib →
      (run.step lib client call).TotalCorrect lib → run.CountsOnce lib call :=
    fun call _ correct => (totalCorrect_step_iff lib client correct call).mp
  have start : (initial boost memory).TotalCorrect lib := rfl
  exact throughout_iff_allowedRun (fun _ correct => correct) preserved necessary start

end BoostRun

namespace Reference

private theorem revert_trackedRun_accepted :
    let run := (trackedRun true).revert referenceLibrary syncedClient 0
    run.boost.pods.lookup "web" = none ∧ run.boost.stats.totalContainerBoosts = 1 ∧
      run.memory.next = 1 ∧ run.passed = [boostedPod] := by
  have succeeded := (revertCalls_trackedRun true).1.mpr rfl
  have total : ((trackedRun true).revert referenceLibrary syncedClient
      0).boost.stats.totalContainerBoosts = 1 := by
    rw [BoostRun.total_revert]
    refine (BoostRun.total_track referenceLibrary 0 freshRun).trans ?_
    exact (Nat.zero_add _).trans boostContainersLen_boostedPod
  refine ⟨?_, total, ?_⟩
  · simp only [BoostRun.revert, StartupCPUBoostImpl.revertResources_of_ok_eq referenceLibrary
      syncedClient 0 _ _ succeeded]
    exact Finmap.lookup_erase _ _
  · simp only [BoostRun.revert, StartupCPUBoostImpl.revertResources_of_ok_eq referenceLibrary
      syncedClient 0 _ _ succeeded]
    exact ⟨rfl, rfl⟩

/-- The pod is tracked and reverted.  An event that was sent before the revert comes
after it, and the one container of the only pod is counted twice. -/
theorem stale_event_counted_twice :
    let run := freshRun.performAll referenceLibrary syncedClient
      [.upsertPod 0 0, .changeServer (patchServer true), .revertResources 0, .newPod boostedPod,
        .upsertPod 0 1]
    run.boost.stats.totalContainerBoosts = 2 ∧
      BoostRun.recordedTotal referenceLibrary run.passed = 1 := by
  obtain ⟨untracked, counted, next, seen⟩ := revert_trackedRun_accepted
  let reverted := (trackedRun true).revert referenceLibrary syncedClient 0
  let redelivered : BoostRun ApiServer :=
    { reverted with memory := reverted.memory.newPod boostedPod }
  have object : redelivered.memory.pods 1 = boostedPod := by
    simp only [redelivered, reverted, Memory.newPod, next, Function.update_self]
  have allocated : 1 < redelivered.memory.next :=
    lt_of_lt_of_eq (Nat.lt_succ_self 1) (congrArg Nat.succ next.symm)
  obtain ⟨passed, total⟩ := BoostRun.total_upsertPod referenceLibrary syncedClient 0 allocated
  rw [object, show redelivered.passed = [boostedPod] from seen] at passed
  rw [object, show redelivered.boost.pods.lookup boostedPod.name = none from untracked,
    show redelivered.boost.stats.totalContainerBoosts = 1 from counted] at total
  rw [performAll_trackedRun]
  refine ⟨total.trans ?_, (congrArg (BoostRun.recordedTotal referenceLibrary) passed).trans ?_⟩
  · simp [boostContainersLen_boostedPod]
  · simp [BoostRun.recordedTotal, BoostRun.recordedFor, boostContainersLen_boostedPod]

end Reference

end KubeStartupCPUBoost
