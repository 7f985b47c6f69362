import KubeStartupCPUBoost.BoostCalls
import Mathlib.Algebra.Order.BigOperators.Group.Finset

/-!
# The counter of active containers

The counter is computed anew from the tracked pod objects.  A revert works on the
tracked object itself, and one that fails after the boost annotation was removed
leaves an object that records nothing.  The boost goes on tracking it, and the next
call that counts loses its containers.

`active_correct_throughout_iff` says that this is the only way in which the counter
can differ from what the versions passed to `UpsertPod` record.
-/

namespace KubeStartupCPUBoost

variable {σ : Type}

private theorem boostContainersLen_congr (lib : Library) {pod other : Pod}
    (same : pod.annotations = other.annotations) :
    boostContainersLen lib pod = boostContainersLen lib other := by
  unfold boostContainersLen boostAnnotationFromPod
  rw [same]

theorem boostContainersLen_of_none (lib : Library) {pod : Pod}
    (absent : pod.annotations.lookup boostAnnotationKey = none) :
    boostContainersLen lib pod = 0 := by
  unfold boostContainersLen boostAnnotationFromPod
  rw [absent]

theorem boostContainersLen_revertPod_of_error (lib : Library) (client : PodClient σ)
    {legacyRevertMode : Bool} {pod : Pod} {server : σ} {message : String}
    (failed : (revertPod lib client legacyRevertMode pod server).result = .error message) :
    boostContainersLen lib (revertPod lib client legacyRevertMode pod server).pod =
        boostContainersLen lib pod ∨
      boostContainersLen lib (revertPod lib client legacyRevertMode pod server).pod = 0 :=
  (revertPod_of_error lib client failed).imp (boostContainersLen_congr lib)
    (boostContainersLen_of_none lib)

namespace BoostRun

variable (lib : Library) (client : PodClient σ)

/-- The containers recorded in the version of a pod last passed to `UpsertPod`. -/
def lastRecorded (run : BoostRun σ) (name : String) : Nat :=
  (run.passed.find? fun pod => pod.name = name).elim 0 (boostContainersLen lib)

/-- The counter is the sum over the tracked pods. -/
def ActiveCorrect (run : BoostRun σ) : Prop :=
  run.boost.stats.activeContainerBoosts =
    ∑ name ∈ run.boost.pods.keys, run.lastRecorded lib name

/-- The object of every tracked pod but one records what the version last passed does. -/
def IntactBut (counted : String) (run : BoostRun σ) : Prop :=
  ∀ name ref, run.boost.pods.lookup name = some ref → name ≠ counted →
    boostContainersLen lib (run.memory.pods ref) = run.lastRecorded lib name

/-- A call counts the tracked pods, after it has tracked or untracked this name.  A
revert that fails does not count. -/
def CountsFor (call : BoostCall σ) (run : BoostRun σ) (name : String) : Prop :=
  match call with
  | .upsertPod _ ref => ref < run.memory.next ∧ (run.memory.pods ref).name = name
  | .deletePod podName => podName = name
  | .revertResources ref =>
      ref < run.memory.next ∧ (run.memory.pods ref).name = name ∧
        (run.boost.revertCalls lib client ref run.memory).result = .ok ()
  | _ => False

/-- A call that counts meets no tracked object, other than the one it is about, that has
lost its annotation. -/
def MeetsIntact (call : BoostCall σ) (run : BoostRun σ) : Prop :=
  ∀ name, run.CountsFor lib client call name → run.IntactBut lib name

/-- Every tracked pod object has its name, and records what the version last passed does
or nothing. -/
def Faded (run : BoostRun σ) : Prop :=
  ∀ name ref, run.boost.pods.lookup name = some ref →
    (run.memory.pods ref).name = name ∧ ref < run.memory.next ∧
      (boostContainersLen lib (run.memory.pods ref) = run.lastRecorded lib name ∨
        boostContainersLen lib (run.memory.pods ref) = 0)

theorem lastRecorded_track (ref : PodRef) (run : BoostRun σ) (name : String) :
    (run.track lib ref).lastRecorded lib name =
      if (run.memory.pods ref).name = name then boostContainersLen lib (run.memory.pods ref)
      else run.lastRecorded lib name := by
  simp only [lastRecorded, track, List.find?_cons]
  by_cases same : (run.memory.pods ref).name = name <;> simp [same]

theorem track_memory_pods (ref : PodRef) (run : BoostRun σ) :
    (run.track lib ref).memory.pods = run.memory.pods ∧
      (run.track lib ref).memory.next = run.memory.next := by
  unfold track StartupCPUBoostImpl.trackPod
  split <;> exact ⟨rfl, rfl⟩

theorem lookup_track (ref : PodRef) (run : BoostRun σ) (name : String) :
    (run.track lib ref).boost.pods.lookup name =
      if name = (run.memory.pods ref).name then some ref else run.boost.pods.lookup name := by
  rw [← GoMap.lookup_insert]
  unfold track StartupCPUBoostImpl.trackPod
  split <;> rfl

theorem Faded.track {run : BoostRun σ} (faded : run.Faded lib) {ref : PodRef}
    (allocated : ref < run.memory.next) : (run.track lib ref).Faded lib := by
  intro name other tracked
  rw [lookup_track] at tracked
  rw [(track_memory_pods lib ref run).1, (track_memory_pods lib ref run).2, lastRecorded_track]
  by_cases same : name = (run.memory.pods ref).name
  · rw [if_pos same] at tracked
    cases tracked
    exact ⟨same.symm, allocated, .inl (if_pos same.symm).symm⟩
  · rw [if_neg same] at tracked
    rw [if_neg (Ne.symm same)]
    exact faded name other tracked

/-- A revert changes only the object it is given. -/
@[simp]
theorem revert_memory_pods {ref other : PodRef} (different : other ≠ ref) (run : BoostRun σ) :
    (run.revert lib client ref).memory.pods other = run.memory.pods other :=
  (StartupCPUBoostImpl.touches_revertResources lib client ref run.boost run.memory).pods_of_ne
    other different

theorem Faded.revert {run : BoostRun σ} (faded : run.Faded lib) (ref : PodRef) :
    (run.revert lib client ref).Faded lib := by
  have touched := StartupCPUBoostImpl.touches_revertResources lib client ref run.boost run.memory
  intro name other tracked
  obtain ⟨before, _⟩ := StartupCPUBoostImpl.tracked_of_revertResources lib client ref run.boost
    run.memory tracked
  obtain ⟨sameName, allocated, recorded⟩ := faded name other before
  have allocatedAfter : other < (run.revert lib client ref).memory.next :=
    lt_of_lt_of_eq allocated touched.next.symm
  by_cases same : other = ref
  · subst other
    refine ⟨(congrArg Prod.snd touched.key).trans sameName, allocatedAfter, ?_⟩
    cases calls : (run.boost.revertCalls lib client ref run.memory).result with
    | error message =>
        have left := boostContainersLen_revertPod_of_error lib client calls
        have object : (run.revert lib client ref).memory.pods ref =
            (run.boost.revertCalls lib client ref run.memory).pod := by
          simp only [BoostRun.revert, StartupCPUBoostImpl.revertResources_pods,
            Function.update_self]
        rw [object]
        rcases left with kept | gone
        · rw [kept]
          exact recorded
        · exact .inr gone
    | ok =>
        -- The name has been untracked.
        have untracked := StartupCPUBoostImpl.revertResources_of_ok_eq lib client ref run.boost
          run.memory calls
        simp only [BoostRun.revert, untracked, sameName] at tracked
        rw [show (StartupCPUBoostImpl.updateStats lib .podDelete _ _).1.pods.lookup name =
          (run.boost.pods.erase name).lookup name from rfl, Finmap.lookup_erase] at tracked
        cases tracked
  · rw [revert_memory_pods lib client same]
    exact ⟨sameName, allocatedAfter, recorded⟩

theorem Faded.deletePod {run : BoostRun σ} (faded : run.Faded lib) (podName : String) :
    (run.step lib client (.deletePod podName)).Faded lib := by
  intro name ref tracked
  refine faded name ref ?_
  rw [show (run.step lib client (.deletePod podName)).boost.pods = run.boost.pods.erase podName
    from rfl, GoMap.lookup_erase] at tracked
  split at tracked
  · cases tracked
  · exact tracked

theorem Faded.step {run : BoostRun σ} (faded : run.Faded lib) (call : BoostCall σ) :
    (run.step lib client call).Faded lib := by
  cases call with
  | newPod pod =>
      intro name ref tracked
      obtain ⟨sameName, allocated, recorded⟩ := faded name ref tracked
      have object : (run.memory.newPod pod).pods ref = run.memory.pods ref :=
        Function.update_of_ne (Nat.ne_of_lt allocated) _ _
      simp only [BoostRun.step, object]
      exact ⟨sameName, Nat.lt_succ_of_lt allocated, recorded⟩
  | upsertPod now ref =>
      by_cases allocated : ref < run.memory.next
      · rcases step_upsertPod lib client allocated with tracked | reverted
        · rw [tracked]
          exact faded.track lib allocated
        · rw [reverted]
          exact (faded.track lib allocated).revert lib client ref
      · rw [BoostRun.step, if_neg allocated]
        exact faded
  | deletePod podName => exact faded.deletePod lib client podName
  | revertResources ref =>
      by_cases allocated : ref < run.memory.next
      · rw [step_revertResources lib client allocated]
        exact faded.revert lib client ref
      · rw [BoostRun.step, if_neg allocated]
        exact faded
  | updateFromSpec spec =>
      obtain ⟨boost, updated, samePods, _⟩ := run.step_updateFromSpec lib client spec
      rw [updated]
      intro name ref tracked
      rw [samePods] at tracked
      exact faded name ref tracked
  | changeServer server => exact faded

/-- The counter is what the tracked objects record. -/
def Recounted (run : BoostRun σ) : Prop :=
  run.boost.stats.activeContainerBoosts =
    StartupCPUBoostImpl.recordedContainers lib run.boost.pods run.memory

theorem recounted_updateStats (event : StatsEvent) (boost : StartupCPUBoostImpl)
    (memory : Memory σ) (passed : List Pod) :
    Recounted lib ⟨(boost.updateStats lib event memory).1, (boost.updateStats lib event memory).2,
      passed⟩ := by
  cases event <;> rfl

/-- A counter computed from the objects is correct exactly when no object has lost its
annotation: what is lost in one is not made up for by another. -/
theorem Recounted.activeCorrect_iff {run : BoostRun σ} (recounted : run.Recounted lib)
    (faded : run.Faded lib) :
    run.ActiveCorrect lib ↔
      ∀ name ref, run.boost.pods.lookup name = some ref →
        boostContainersLen lib (run.memory.pods ref) = run.lastRecorded lib name := by
  let objectRecorded (name : String) : Nat :=
    (run.boost.pods.lookup name).elim 0 fun ref => boostContainersLen lib (run.memory.pods ref)
  have atMost : ∀ name ∈ run.boost.pods.keys, objectRecorded name ≤ run.lastRecorded lib name := by
    intro name member
    obtain ⟨ref, tracked⟩ := GoMap.mem_keys_iff.mp member
    obtain ⟨_, _, recorded⟩ := faded name ref tracked
    simp only [objectRecorded, tracked, Option.elim_some]
    omega
  have counter : run.boost.stats.activeContainerBoosts =
      ∑ name ∈ run.boost.pods.keys, objectRecorded name :=
    Eq.trans recounted (StartupCPUBoostImpl.recordedContainers_eq_sum lib _ _)
  rw [ActiveCorrect, counter, Finset.sum_eq_sum_iff_of_le atMost]
  constructor
  · intro same name ref tracked
    simpa only [objectRecorded, tracked, Option.elim_some] using
      same name (GoMap.mem_keys_iff.mpr ⟨ref, tracked⟩)
  · intro same name member
    obtain ⟨ref, tracked⟩ := GoMap.mem_keys_iff.mp member
    simpa only [objectRecorded, tracked, Option.elim_some] using same name ref tracked

/-- A call about one name leaves the other tracked objects alone. -/
structure ChangesOnly (name : String) (run run' : BoostRun σ) : Prop where
  lookup : ∀ other, other ≠ name → run'.boost.pods.lookup other = run.boost.pods.lookup other
  object : ∀ other ref, other ≠ name → run.boost.pods.lookup other = some ref →
    run'.memory.pods ref = run.memory.pods ref
  last : ∀ other, other ≠ name → run'.lastRecorded lib other = run.lastRecorded lib other
  self : ∀ ref, run'.boost.pods.lookup name = some ref →
    boostContainersLen lib (run'.memory.pods ref) = run'.lastRecorded lib name

theorem ChangesOnly.activeCorrect_iff {name : String} {run run' : BoostRun σ}
    (changes : ChangesOnly lib name run run') (faded : run'.Faded lib)
    (recounted : run'.Recounted lib) : run'.ActiveCorrect lib ↔ run.IntactBut lib name := by
  rw [recounted.activeCorrect_iff lib faded]
  constructor
  · intro intact other ref tracked different
    rw [← changes.object other ref different tracked, ← changes.last other different]
    exact intact other ref ((changes.lookup other different).trans tracked)
  · intro intact other ref tracked
    by_cases different : other = name
    · subst different
      exact changes.self ref tracked
    · rw [changes.lookup other different] at tracked
      rw [changes.object other ref different tracked, changes.last other different]
      exact intact other ref tracked different

theorem changesOnly_track (ref : PodRef) (run : BoostRun σ) :
    ChangesOnly lib (run.memory.pods ref).name run (run.track lib ref) where
  lookup other different := (lookup_track lib ref run other).trans (if_neg different)
  object other tracked _ _ := congrFun (track_memory_pods lib ref run).1 tracked
  last other different := (lastRecorded_track lib ref run other).trans (if_neg different.symm)
  self tracked present := by
    rw [lookup_track, if_pos rfl] at present
    cases present
    rw [lastRecorded_track, if_pos rfl, (track_memory_pods lib ref run).1]

theorem recounted_track (ref : PodRef) (run : BoostRun σ) :
    (run.track lib ref).Recounted lib :=
  recounted_updateStats lib _ _ _ _

theorem changesOnly_deletePod (podName : String) (run : BoostRun σ) :
    ChangesOnly lib podName run (run.step lib client (.deletePod podName)) where
  lookup other different := Finmap.lookup_erase_ne different
  object _ _ _ _ := rfl
  last _ _ := rfl
  self ref present := by
    rw [show (run.step lib client (.deletePod podName)).boost.pods =
      run.boost.pods.erase podName from rfl, Finmap.lookup_erase] at present
    cases present

/-- A revert that succeeds untracks the name of its object, and counts. -/
theorem revert_of_ok {ref : PodRef} {run : BoostRun σ}
    (succeeded : (run.boost.revertCalls lib client ref run.memory).result = .ok ()) :
    (run.revert lib client ref).boost.pods = run.boost.pods.erase (run.memory.pods ref).name ∧
      (run.revert lib client ref).Recounted lib := by
  have outcome := StartupCPUBoostImpl.revertResources_of_ok_eq lib client ref run.boost run.memory
    succeeded
  simp only at outcome
  unfold revert
  rw [outcome]
  exact ⟨rfl, recounted_updateStats lib _ _ _ _⟩

theorem changesOnly_revert {ref : PodRef} {run : BoostRun σ} (faded : run.Faded lib)
    (succeeded : (run.boost.revertCalls lib client ref run.memory).result = .ok ()) :
    ChangesOnly lib (run.memory.pods ref).name run (run.revert lib client ref) where
  lookup other different := by
    rw [(revert_of_ok lib client succeeded).1, Finmap.lookup_erase_ne different]
  object other tracked different present := by
    refine revert_memory_pods lib client (fun same => different ?_) run
    rw [← (faded other tracked present).1, same]
  last _ _ := rfl
  self tracked present := by
    rw [(revert_of_ok lib client succeeded).1, Finmap.lookup_erase] at present
    cases present

/-- A revert that fails leaves what is tracked and counted. -/
theorem activeCorrect_revert_of_error {ref : PodRef} {run : BoostRun σ} {message : String}
    (failed : (run.boost.revertCalls lib client ref run.memory).result = .error message) :
    (run.revert lib client ref).ActiveCorrect lib ↔ run.ActiveCorrect lib := by
  unfold revert
  rw [StartupCPUBoostImpl.revertResources_of_error lib client ref run.boost run.memory failed]
  rfl

@[simp]
theorem intactBut_track_iff (ref : PodRef) (run : BoostRun σ) :
    (run.track lib ref).IntactBut lib (run.memory.pods ref).name ↔
      run.IntactBut lib (run.memory.pods ref).name := by
  have changes := changesOnly_track lib ref run
  constructor
  · intro intact other tracked present different
    rw [← changes.last other different, ← changes.object other tracked different present]
    exact intact other tracked ((changes.lookup other different).trans present) different
  · intro intact other tracked present different
    rw [changes.lookup other different] at present
    rw [changes.last other different, changes.object other tracked different present]
    exact intact other tracked present different

/-- An upsert leaves the counter correct exactly when the other tracked objects are
intact. -/
theorem activeCorrect_upsertPod_iff {now : Time} {ref : PodRef} {run : BoostRun σ}
    (faded : run.Faded lib) (allocated : ref < run.memory.next) :
    (run.step lib client (.upsertPod now ref)).ActiveCorrect lib ↔
      run.IntactBut lib (run.memory.pods ref).name := by
  have trackedFaded := faded.track lib allocated
  have tracked := (changesOnly_track lib ref run).activeCorrect_iff lib trackedFaded
    (recounted_track lib ref run)
  rcases step_upsertPod lib client allocated with kept | reverted
  · rw [kept]
    exact tracked
  · rw [reverted]
    cases calls : ((run.track lib ref).boost.revertCalls lib client ref
        (run.track lib ref).memory).result with
    | error message => exact (activeCorrect_revert_of_error lib client calls).trans tracked
    | ok =>
        have sameName :
            ((run.track lib ref).memory.pods ref).name = (run.memory.pods ref).name := by
          rw [(track_memory_pods lib ref run).1]
        rw [(changesOnly_revert lib client trackedFaded calls).activeCorrect_iff lib
          (trackedFaded.revert lib client ref) (revert_of_ok lib client calls).2, sameName]
        exact intactBut_track_iff lib ref run

theorem activeCorrect_step_iff {run : BoostRun σ} (faded : run.Faded lib)
    (correct : run.ActiveCorrect lib) (call : BoostCall σ) :
    (run.step lib client call).ActiveCorrect lib ↔ run.MeetsIntact lib client call := by
  cases call with
  | newPod pod => exact iff_of_true correct fun _ counts => False.elim counts
  | upsertPod now ref =>
      by_cases allocated : ref < run.memory.next
      · rw [activeCorrect_upsertPod_iff lib client faded allocated]
        constructor
        · rintro intact name ⟨_, rfl⟩
          exact intact
        · exact fun meets => meets _ ⟨allocated, rfl⟩
      · rw [step, if_neg allocated]
        exact iff_of_true correct fun name counts => absurd counts.1 allocated
  | deletePod podName =>
      rw [(changesOnly_deletePod lib client podName run).activeCorrect_iff lib
        (faded.deletePod lib client podName) (recounted_updateStats lib _ _ _ _)]
      constructor
      · rintro intact name rfl
        exact intact
      · exact fun meets => meets _ rfl
  | revertResources ref =>
      by_cases allocated : ref < run.memory.next
      · rw [step_revertResources lib client allocated]
        cases calls : (run.boost.revertCalls lib client ref run.memory).result with
        | error message =>
            rw [activeCorrect_revert_of_error lib client calls]
            refine iff_of_true correct fun name counts => ?_
            cases calls.symm.trans counts.2.2
        | ok =>
            rw [(changesOnly_revert lib client faded calls).activeCorrect_iff lib
              (faded.revert lib client ref) (revert_of_ok lib client calls).2]
            constructor
            · rintro intact name ⟨_, rfl, _⟩
              exact intact
            · exact fun meets => meets _ ⟨allocated, rfl, calls⟩
      · rw [step, if_neg allocated]
        exact iff_of_true correct fun name counts => absurd counts.1 allocated
  | updateFromSpec spec =>
      obtain ⟨boost, updated, samePods, sameStats⟩ := run.step_updateFromSpec lib client spec
      refine iff_of_true ?_ fun _ counts => False.elim counts
      rw [updated, ActiveCorrect, sameStats, samePods]
      exact correct
  | changeServer server => exact iff_of_true correct fun _ counts => False.elim counts

/-- The counter is correct after every call of a sequence exactly when every call that
counts meets intact objects. -/
theorem active_correct_throughout_iff (boost : StartupCPUBoostImpl) (memory : Memory σ)
    (calls : List (BoostCall σ)) :
    (∀ taken, ((initial boost memory).performAll lib client (calls.take taken)).ActiveCorrect
      lib) ↔
      AllowedRun (step lib client) (MeetsIntact lib client) calls (initial boost memory) := by
  have sufficient : ∀ run : BoostRun σ, run.Faded lib ∧ run.ActiveCorrect lib →
      run.ActiveCorrect lib := fun _ invariant => invariant.2
  have preserved : ∀ call (run : BoostRun σ), run.Faded lib ∧ run.ActiveCorrect lib →
      run.MeetsIntact lib client call →
        (run.step lib client call).Faded lib ∧ (run.step lib client call).ActiveCorrect lib := by
    intro call run ⟨faded, correct⟩ meets
    exact ⟨faded.step lib client call,
      (activeCorrect_step_iff lib client faded correct call).mpr meets⟩
  have necessary : ∀ call (run : BoostRun σ), run.Faded lib ∧ run.ActiveCorrect lib →
      (run.step lib client call).ActiveCorrect lib → run.MeetsIntact lib client call :=
    fun call _ invariant => (activeCorrect_step_iff lib client invariant.1 invariant.2 call).mp
  have start : (initial boost memory).Faded lib ∧ (initial boost memory).ActiveCorrect lib :=
    ⟨nofun, rfl⟩
  exact throughout_iff_allowedRun sufficient preserved necessary start

end BoostRun

namespace Reference

private theorem revert_trackedRun_rejected :
    let run := (trackedRun false).revert referenceLibrary syncedClient 0
    run.boost = (trackedRun false).boost ∧ run.passed = (trackedRun false).passed ∧
      boostContainersLen referenceLibrary (run.memory.pods 0) = 0 := by
  obtain ⟨result, erased⟩ := revertCalls_trackedRun false
  obtain ⟨message, failed⟩ : ∃ message, ((trackedRun false).boost.revertCalls referenceLibrary
      syncedClient 0 (trackedRun false).memory).result = .error message := by
    cases calls : ((trackedRun false).boost.revertCalls referenceLibrary syncedClient 0
        (trackedRun false).memory).result with
    | error message => exact ⟨message, rfl⟩
    | ok => exact absurd (result.mp calls) Bool.false_ne_true
  simp only [BoostRun.revert, StartupCPUBoostImpl.revertResources_of_error referenceLibrary
    syncedClient 0 _ _ failed, Function.update_self]
  exact ⟨trivial, trivial, boostContainersLen_of_none referenceLibrary erased⟩

/-- The label patch of a revert is rejected.  The boost goes on tracking the pod, whose
one container is recorded in the version passed to it, and the deletion of another pod
sets the counter to zero. -/
theorem failed_label_patch_loses_container :
    let run := freshRun.performAll referenceLibrary syncedClient
      [.upsertPod 0 0, .changeServer (patchServer false), .revertResources 0, .deletePod "other"]
    run.boost.pods.lookup "web" = some 0 ∧ run.lastRecorded referenceLibrary "web" = 1 ∧
      run.boost.stats.activeContainerBoosts = 0 ∧ ¬ run.ActiveCorrect referenceLibrary := by
  obtain ⟨sameBoost, samePassed, object⟩ := revert_trackedRun_rejected
  let failed := (trackedRun false).revert referenceLibrary syncedClient 0
  let run := failed.step referenceLibrary syncedClient (.deletePod "other")
  have lookup : ∀ name, run.boost.pods.lookup name =
      if name = "other" then none else if name = "web" then some 0 else none := by
    intro name
    have tracked := BoostRun.lookup_track referenceLibrary 0 freshRun name
    rw [show run.boost.pods = failed.boost.pods.erase "other" from rfl, GoMap.lookup_erase,
      sameBoost]
    exact congrArg (if name = "other" then none else ·) tracked
  have web : run.boost.pods.lookup "web" = some 0 := by
    rw [lookup]
    decide
  have recorded : run.lastRecorded referenceLibrary "web" = 1 := by
    rw [BoostRun.lastRecorded, show run.passed = (trackedRun false).passed from samePassed]
    exact (BoostRun.lastRecorded_track referenceLibrary 0 freshRun "web").trans
      boostContainersLen_boostedPod
  have counter : run.boost.stats.activeContainerBoosts = 0 := by
    have recounted : run.Recounted referenceLibrary :=
      BoostRun.recounted_updateStats referenceLibrary _ _ _ _
    refine Eq.trans recounted (Eq.trans
      (StartupCPUBoostImpl.recordedContainers_eq_sum referenceLibrary _ _) ?_)
    refine Finset.sum_eq_zero fun name _ => ?_
    rw [lookup]
    split
    · rfl
    · split
      · exact object
      · rfl
  have incorrect : ¬ run.ActiveCorrect referenceLibrary := by
    intro correct
    have none := Finset.sum_eq_zero_iff.mp (correct.symm.trans counter) "web"
      (GoMap.mem_keys_iff.mpr ⟨0, web⟩)
    exact absurd (recorded.symm.trans none) Nat.one_ne_zero
  rw [performAll_trackedRun]
  exact ⟨web, recorded, counter, incorrect⟩

end Reference

end KubeStartupCPUBoost
