import KubeStartupCPUBoost.BoostPolicies
import KubeStartupCPUBoost.PodClient

/-!
# A boost and the pods it tracks

The implementation of a boost: its selector and policies, the pods it tracks
by name and its statistics, with the operations the manager calls on it.
Tracked pods are references to objects in the controller's memory, which a
revert changes in place; the same object can be reached from several places.
-/

namespace KubeStartupCPUBoost

/-- A pod object in the controller's memory. -/
abbrev PodRef := Nat

structure StartupCPUBoostStats where
  activeContainerBoosts : Nat := 0
  totalContainerBoosts : Nat := 0
deriving DecidableEq

structure StartupCPUBoostImpl where
  name : String
  ns : String
  selector : Selector
  durationPolicies : GoMap String DurationPolicy
  resourcePolicies : GoMap String ContainerPolicy
  pods : GoMap String PodRef := ∅
  stats : StartupCPUBoostStats := {}
  legacyRevertMode : Bool

/-- The exported metrics, by namespace or by namespace and boost name. -/
structure Metrics where
  boostConfigurations : GoMap String Int := ∅
  boostContainersActive : GoMap (String × String) Nat := ∅
  boostContainersTotal : GoMap (String × String) Nat := ∅

/-- A revert that returned an error: the boost, the pod object, and the pod
condition policy the boost had. -/
structure FailedRevert where
  ns : String
  boost : String
  pod : PodRef
  policy : Option DurationPolicy
deriving DecidableEq

/-- The controller's memory next to the boosts: the pod objects, the metrics
and the API server it talks to.  The last two fields are history, which the code
never reads: the version each object was delivered as, and the reverts that
failed. -/
structure Memory (σ : Type) where
  pods : PodRef → Pod
  next : PodRef
  metrics : Metrics
  server : σ
  delivered : PodRef → Pod
  failedReverts : List FailedRevert := []

/-- What an operation on a boost leaves. -/
structure BoostOutcome (σ : Type) where
  result : Except String Unit
  boost : StartupCPUBoostImpl
  memory : Memory σ

namespace Metrics

def newBoostConfiguration (ns : String) (metrics : Metrics) : Metrics :=
  { metrics with
    boostConfigurations := metrics.boostConfigurations.insert ns
      ((metrics.boostConfigurations.lookup ns).getD 0 + 1) }

def deleteBoostConfiguration (ns : String) (metrics : Metrics) : Metrics :=
  { metrics with
    boostConfigurations := metrics.boostConfigurations.insert ns
      ((metrics.boostConfigurations.lookup ns).getD 0 - 1) }

def setBoostContainersActive (ns boost : String) (value : Nat) (metrics : Metrics) : Metrics :=
  { metrics with
    boostContainersActive := metrics.boostContainersActive.insert (ns, boost) value }

def addBoostContainersTotal (ns boost : String) (value : Nat) (metrics : Metrics) : Metrics :=
  { metrics with
    boostContainersTotal := metrics.boostContainersTotal.insert (ns, boost)
      ((metrics.boostContainersTotal.lookup (ns, boost)).getD 0 + value) }

end Metrics

variable (lib : Library)

def newStartupCPUBoost (boost : StartupCPUBoost) (legacyRevertMode : Bool) :
    Except String StartupCPUBoostImpl := do
  let selector ← lib.labelSelectorAsSelector boost.selector
  let resourcePolicies ← mapResourcePolicy boost.spec.containerPolicies
  return {
    name := boost.name
    ns := boost.ns
    selector
    durationPolicies := mapDurationPolicy boost.spec.durationPolicy
    resourcePolicies
    legacyRevertMode }

def boostContainersLen (pod : Pod) : Nat :=
  match boostAnnotationFromPod lib pod with
  | .ok annot => annot.initCPURequests.keys.card
  | .error _ => 0

/-- What happened to a tracked pod; only a creation is counted by its object. -/
inductive StatsEvent where
  | podCreate (ref : PodRef)
  | podUpdate
  | podDelete
deriving DecidableEq

namespace StartupCPUBoostImpl

variable {σ : Type} (client : PodClient σ)

/-- The policy for a container: its own, else the wildcard's. -/
def resourcePolicy (boost : StartupCPUBoostImpl) (containerName : String) :
    Option ContainerPolicy :=
  match boost.resourcePolicies.lookup containerName with
  | some policy => some policy
  | none => boost.resourcePolicies.lookup containerPolicyWildcard

/-- `Matches`. -/
def selectsPod (boost : StartupCPUBoostImpl) (pod : Pod) : Bool :=
  boost.selector pod.labels

def updateStats (event : StatsEvent) (boost : StartupCPUBoostImpl)
    (memory : Memory σ) : StartupCPUBoostImpl × Memory σ :=
  let activeCnt :=
    (boost.pods.entries.map fun entry => boostContainersLen lib (memory.pods entry.2)).sum
  let stats := { boost.stats with activeContainerBoosts := activeCnt }
  let metrics := memory.metrics.setBoostContainersActive boost.ns boost.name activeCnt
  match event with
  | .podCreate ref =>
      let created := boostContainersLen lib (memory.pods ref)
      ({ boost with
          stats := { stats with
            totalContainerBoosts := stats.totalContainerBoosts + created } },
        { memory with
          metrics := metrics.addBoostContainersTotal boost.ns boost.name created })
  | .podUpdate | .podDelete => ({ boost with stats }, { memory with metrics })

/-- Revert a pod object.  A pod that has been reverted is no longer tracked
under its name. -/
def revertResources (ref : PodRef) (boost : StartupCPUBoostImpl) (memory : Memory σ) :
    BoostOutcome σ :=
  let reverted := revertPod lib client boost.legacyRevertMode (memory.pods ref) memory.server
  let memory :=
    { memory with
      pods := Function.update memory.pods ref reverted.pod
      server := reverted.server }
  match reverted.result with
  | .error message =>
      let failed : FailedRevert :=
        { ns := boost.ns, boost := boost.name, pod := ref
          policy := boost.durationPolicies.lookup podConditionPolicyName }
      ⟨.error message, boost,
        { memory with failedReverts := failed :: memory.failedReverts }⟩
  | .ok () =>
      let untracked := { boost with pods := boost.pods.erase reverted.pod.name }
      let updated := untracked.updateStats lib .podDelete memory
      ⟨.ok (), updated.1, updated.2⟩

/-- Track a pod object, and revert it at once if it has reached the condition
of the boost's pod condition policy. -/
def upsertPod (now : Time) (ref : PodRef) (boost : StartupCPUBoostImpl) (memory : Memory σ) :
    BoostOutcome σ :=
  let pod := memory.pods ref
  let event := if (boost.pods.lookup pod.name).isSome then StatsEvent.podUpdate
    else StatsEvent.podCreate ref
  let tracked := { boost with pods := boost.pods.insert pod.name ref }
  let updated := tracked.updateStats lib event memory
  match boost.durationPolicies.lookup podConditionPolicyName with
  | none => ⟨.ok (), updated.1, updated.2⟩
  | some policy =>
      if policy.valid now pod then ⟨.ok (), updated.1, updated.2⟩
      else
        let reverted := updated.1.revertResources lib client ref updated.2
        { reverted with
          result := reverted.result.mapError ("pod resources reversion failed: " ++ ·) }

def deletePod (podName : String) (boost : StartupCPUBoostImpl)
    (memory : Memory σ) : StartupCPUBoostImpl × Memory σ :=
  let untracked := { boost with pods := boost.pods.erase podName }
  untracked.updateStats lib .podDelete memory

/-- The tracked pods that violate a policy, in the order they are visited. -/
def validatePolicy (order : RangeOrder String) (now : Time) (name : String)
    (boost : StartupCPUBoostImpl) (memory : Memory σ) : List PodRef :=
  match boost.durationPolicies.lookup name with
  | none => []
  | some policy =>
      (boost.pods.rangeValues order).filter fun ref => !policy.valid now (memory.pods ref)

/-- The pods in violation of a policy are the tracked ones on which it is not
valid. -/
theorem mem_validatePolicy_iff {now : Time} {boost : StartupCPUBoostImpl}
    {memory : Memory σ} {podOrder : RangeOrder String} {name : String} {ref : PodRef} :
    ref ∈ boost.validatePolicy podOrder now name memory ↔
      ∃ policy, boost.durationPolicies.lookup name = some policy ∧
        (∃ podName, boost.pods.lookup podName = some ref) ∧
          policy.valid now (memory.pods ref) = false := by
  unfold validatePolicy
  cases boost.durationPolicies.lookup name with
  | none => simp
  | some policy => simp [GoMap.mem_rangeValues]

def updateFromSpec (spec : StartupCPUBoost) (boost : StartupCPUBoostImpl) :
    Except String StartupCPUBoostImpl := do
  let selector ← lib.labelSelectorAsSelector spec.selector
  let resourcePolicies ← mapResourcePolicy spec.spec.containerPolicies
  return { boost with
    selector
    resourcePolicies
    durationPolicies := mapDurationPolicy spec.spec.durationPolicy }

/-- An operation on one pod object changes nothing else: of the boost, only the
tracked pods and the statistics; of the pod objects, only this one, which keeps
its key.  Failed reverts are only added. -/
structure Touches (ref : PodRef) (boost boost' : StartupCPUBoostImpl)
    (memory memory' : Memory σ) : Prop where
  boost_eq : boost' = { boost with pods := boost'.pods, stats := boost'.stats }
  pods_of_ne : ∀ other, other ≠ ref → memory'.pods other = memory.pods other
  key : (memory'.pods ref).key = (memory.pods ref).key
  next : memory'.next = memory.next
  delivered : memory'.delivered = memory.delivered
  failedReverts : ∀ failed ∈ memory.failedReverts, failed ∈ memory'.failedReverts

section Changes

variable (now : Time) (ref : PodRef) (boost : StartupCPUBoostImpl) (memory : Memory σ)

/-- Statistics are computed on the side. -/
theorem updateStats_eq (event : StatsEvent) :
    ∃ stats metrics, boost.updateStats lib event memory =
      ({ boost with stats }, { memory with metrics }) := by
  cases event <;> exact ⟨_, _, rfl⟩

abbrev revertCalls : CallOutcome σ :=
  revertPod lib client boost.legacyRevertMode (memory.pods ref) memory.server

abbrev failedRevert : FailedRevert :=
  ⟨boost.ns, boost.name, ref, boost.durationPolicies.lookup podConditionPolicyName⟩

@[simp]
theorem revertCalls_name :
    (boost.revertCalls lib client ref memory).pod.name = (memory.pods ref).name :=
  congrArg Prod.snd (revertPod_key lib client _ _ _)

@[simp]
theorem revertResources_result :
    (boost.revertResources lib client ref memory).result =
      (boost.revertCalls lib client ref memory).result := by
  simp only [revertResources]
  cases (boost.revertCalls lib client ref memory).result <;> rfl

/-- A revert that fails changes the object and the server, and is logged. -/
theorem revertResources_of_error {message : String}
    (failed : (boost.revertCalls lib client ref memory).result = .error message) :
    boost.revertResources lib client ref memory =
      ⟨.error message, boost,
        { memory with
          pods := Function.update memory.pods ref (boost.revertCalls lib client ref memory).pod
          server := (boost.revertCalls lib client ref memory).server
          failedReverts := boost.failedRevert ref :: memory.failedReverts }⟩ := by
  simp only [revertResources]
  rw [failed]

abbrev revertedMemory : Memory σ :=
  { memory with
    pods := Function.update memory.pods ref (boost.revertCalls lib client ref memory).pod
    server := (boost.revertCalls lib client ref memory).server }

/-- A revert that succeeds untracks the pod's name and counts again. -/
theorem revertResources_of_ok_eq
    (succeeded : (boost.revertCalls lib client ref memory).result = .ok ()) :
    let updated := { boost with pods := boost.pods.erase (memory.pods ref).name }.updateStats lib
      .podDelete (boost.revertedMemory lib client ref memory)
    boost.revertResources lib client ref memory = ⟨.ok (), updated.1, updated.2⟩ := by
  simp only [revertResources]
  rw [succeeded, revertCalls_name]

/-- A revert that succeeds changes the object and the server, and untracks the
pod's name. -/
theorem revertResources_of_ok
    (succeeded : (boost.revertCalls lib client ref memory).result = .ok ()) :
    ∃ stats metrics, boost.revertResources lib client ref memory =
      ⟨.ok (), { boost with pods := boost.pods.erase (memory.pods ref).name, stats },
        { boost.revertedMemory lib client ref memory with metrics }⟩ := by
  obtain ⟨stats, metrics, updated⟩ := updateStats_eq lib
    { boost with pods := boost.pods.erase (memory.pods ref).name }
    (boost.revertedMemory lib client ref memory) .podDelete
  refine ⟨stats, metrics, ?_⟩
  rw [revertResources_of_ok_eq lib client ref boost memory succeeded, updated]

/-- Either way the object and the server are as the calls left them. -/
theorem revertResources_eq :
    ∃ result pods stats metrics failedReverts, boost.revertResources lib client ref memory =
      ⟨result, { boost with pods, stats },
        { memory with
          pods := Function.update memory.pods ref (boost.revertCalls lib client ref memory).pod
          server := (boost.revertCalls lib client ref memory).server
          metrics
          failedReverts }⟩ ∧
      ∀ failed ∈ memory.failedReverts, failed ∈ failedReverts := by
  cases calls : (boost.revertCalls lib client ref memory).result with
  | error message =>
      refine ⟨.error message, boost.pods, boost.stats, memory.metrics, _,
        revertResources_of_error lib client ref boost memory calls, ?_⟩
      exact fun failed member => List.mem_cons_of_mem _ member
  | ok =>
      obtain ⟨stats, metrics, outcome⟩ := revertResources_of_ok lib client ref boost memory calls
      exact ⟨_, _, stats, metrics, _, outcome, fun failed member => member⟩

theorem revertResources_pods :
    (boost.revertResources lib client ref memory).memory.pods =
      Function.update memory.pods ref (boost.revertCalls lib client ref memory).pod := by
  obtain ⟨_, _, _, _, _, outcome, _⟩ := revertResources_eq lib client ref boost memory
  rw [outcome]

@[simp]
theorem revertResources_server :
    (boost.revertResources lib client ref memory).memory.server =
      (boost.revertCalls lib client ref memory).server := by
  obtain ⟨_, _, _, _, _, outcome, _⟩ := revertResources_eq lib client ref boost memory
  rw [outcome]

theorem touches_revertResources :
    Touches ref boost (boost.revertResources lib client ref memory).boost memory
      (boost.revertResources lib client ref memory).memory := by
  obtain ⟨result, pods, stats, metrics, failedReverts, outcome, logged⟩ :=
    revertResources_eq lib client ref boost memory
  rw [outcome]
  exact {
    boost_eq := rfl
    pods_of_ne := fun other different => Function.update_of_ne different _ _
    key := by simp
    next := rfl
    delivered := rfl
    failedReverts := logged }

theorem revertResources_log :
    ((boost.revertResources lib client ref memory).result = .ok () ∧
        (boost.revertResources lib client ref memory).memory.failedReverts =
          memory.failedReverts) ∨
      ((boost.revertResources lib client ref memory).result ≠ .ok () ∧
        (boost.revertResources lib client ref memory).memory.failedReverts =
          boost.failedRevert ref :: memory.failedReverts) := by
  cases calls : (boost.revertCalls lib client ref memory).result with
  | error message =>
      rw [revertResources_of_error lib client ref boost memory calls]
      exact .inr ⟨nofun, rfl⟩
  | ok =>
      obtain ⟨stats, metrics, outcome⟩ := revertResources_of_ok lib client ref boost memory calls
      rw [outcome]
      exact .inl ⟨rfl, rfl⟩

/-- The gauge of active containers under a boost's key is set to the boost's count, and
the other gauges are left alone. -/
def Counted (boost : StartupCPUBoostImpl) (before after : Metrics) : Prop :=
  after.boostConfigurations = before.boostConfigurations ∧
    after.boostContainersActive = before.boostContainersActive.insert (boost.ns, boost.name)
      boost.stats.activeContainerBoosts

theorem counted_updateStats (event : StatsEvent) :
    Counted (boost.updateStats lib event memory).1 memory.metrics
      (boost.updateStats lib event memory).2.metrics := by
  cases event <;> exact ⟨rfl, rfl⟩

theorem Counted.trans {first second : StartupCPUBoostImpl} {before middle after : Metrics}
    (sameNs : first.ns = second.ns) (sameName : first.name = second.name)
    (early : first.Counted before middle) (late : second.Counted middle after) :
    second.Counted before after := by
  refine ⟨late.1.trans early.1, ?_⟩
  rw [late.2, early.2, sameNs, sameName, Finmap.insert_insert]

/-- A pod still tracked after a revert was tracked before; if its name is that
of the reverted pod, the revert failed and is logged. -/
theorem tracked_of_revertResources {name : String} {tracked : PodRef}
    (present : (boost.revertResources lib client ref memory).boost.pods.lookup name =
      some tracked) :
    boost.pods.lookup name = some tracked ∧
      (name = (memory.pods ref).name →
        boost.failedRevert ref ∈
          (boost.revertResources lib client ref memory).memory.failedReverts) := by
  cases calls : (boost.revertCalls lib client ref memory).result with
  | error message =>
      rw [revertResources_of_error lib client ref boost memory calls] at present ⊢
      exact ⟨present, fun _ => List.mem_cons_self⟩
  | ok =>
      obtain ⟨stats, metrics, outcome⟩ := revertResources_of_ok lib client ref boost memory calls
      rw [outcome] at present
      simp only [GoMap.lookup_erase] at present
      split at present
      · cases present
      · exact ⟨present, fun sameName => absurd sameName (by assumption)⟩

theorem touches_deletePod (podName : String) :
    Touches ref boost (boost.deletePod lib podName memory).1 memory
      (boost.deletePod lib podName memory).2 := by
  obtain ⟨stats, metrics, updated⟩ := updateStats_eq lib
    { boost with pods := boost.pods.erase podName } memory .podDelete
  rw [deletePod, updated]
  exact {
    boost_eq := rfl
    pods_of_ne := fun _ _ => rfl
    key := rfl
    next := rfl
    delivered := rfl
    failedReverts := fun _ member => member }

@[simp]
theorem deletePod_pods (podName : String) :
    (boost.deletePod lib podName memory).1.pods = boost.pods.erase podName := by
  obtain ⟨stats, metrics, updated⟩ := updateStats_eq lib
    { boost with pods := boost.pods.erase podName } memory .podDelete
  rw [deletePod, updated]

theorem deletePod_memory (podName : String) :
    ∃ metrics, (boost.deletePod lib podName memory).2 = { memory with metrics } := by
  obtain ⟨stats, metrics, updated⟩ := updateStats_eq lib
    { boost with pods := boost.pods.erase podName } memory .podDelete
  exact ⟨metrics, by rw [deletePod, updated]⟩

/-- A pod object does not call for a revert under a boost's pod condition
policy. -/
def MeetsPodCondition (pod : Pod) : Prop :=
  ∀ policy, boost.durationPolicies.lookup podConditionPolicyName = some policy →
    policy.valid now pod = true

/-- The boost and the memory of an upsert before the pod condition is checked. -/
def trackPod : StartupCPUBoostImpl × Memory σ :=
  { boost with pods := boost.pods.insert (memory.pods ref).name ref }.updateStats lib
    (if (boost.pods.lookup (memory.pods ref).name).isSome then .podUpdate else .podCreate ref)
    memory

/-- An upsert tracks the pod, and reverts it if it has reached the pod condition. -/
theorem upsertPod_eq_trackPod :
    let tracked := boost.trackPod lib ref memory
    (boost.MeetsPodCondition now (memory.pods ref) →
      boost.upsertPod lib client now ref memory = ⟨.ok (), tracked.1, tracked.2⟩) ∧
    (¬ boost.MeetsPodCondition now (memory.pods ref) →
      let reverted := tracked.1.revertResources lib client ref tracked.2
      boost.upsertPod lib client now ref memory =
        { reverted with
          result := reverted.result.mapError ("pod resources reversion failed: " ++ ·) }) := by
  simp only [upsertPod, trackPod, MeetsPodCondition]
  cases boost.durationPolicies.lookup podConditionPolicyName with
  | none => simp
  | some policy =>
      by_cases valid : policy.valid now (memory.pods ref) = true <;> simp [valid]

/-- The same up to statistics and metrics. -/
theorem upsertPod_eq :
    ∃ stats metrics,
      let tracked := { boost with pods := boost.pods.insert (memory.pods ref).name ref, stats }
      let counted := { memory with metrics }
      (boost.MeetsPodCondition now (memory.pods ref) →
        boost.upsertPod lib client now ref memory = ⟨.ok (), tracked, counted⟩) ∧
      (¬ boost.MeetsPodCondition now (memory.pods ref) →
        let reverted := tracked.revertResources lib client ref counted
        boost.upsertPod lib client now ref memory =
          { reverted with
            result := reverted.result.mapError ("pod resources reversion failed: " ++ ·) }) := by
  obtain ⟨stats, metrics, updated⟩ := updateStats_eq lib
    { boost with pods := boost.pods.insert (memory.pods ref).name ref } memory
    (if (boost.pods.lookup (memory.pods ref).name).isSome then .podUpdate else .podCreate ref)
  have tracking := upsertPod_eq_trackPod lib client now ref boost memory
  rw [trackPod, updated] at tracking
  exact ⟨stats, metrics, tracking⟩

/-- Tracking a pod object, whatever comes of it, concerns this object only. -/
theorem touches_upsertPod :
    Touches ref boost (boost.upsertPod lib client now ref memory).boost memory
      (boost.upsertPod lib client now ref memory).memory := by
  obtain ⟨stats, metrics, met, notMet⟩ := upsertPod_eq lib client now ref boost memory
  by_cases condition : boost.MeetsPodCondition now (memory.pods ref)
  · rw [met condition]
    exact {
      boost_eq := rfl
      pods_of_ne := fun _ _ => rfl
      key := rfl
      next := rfl
      delivered := rfl
      failedReverts := fun _ member => member }
  · rw [notMet condition]
    have touched := touches_revertResources lib client ref
      { boost with pods := boost.pods.insert (memory.pods ref).name ref, stats }
      { memory with metrics }
    exact {
      boost_eq := by
        refine touched.boost_eq.trans ?_
        rfl
      pods_of_ne := touched.pods_of_ne
      key := touched.key
      next := touched.next
      delivered := touched.delivered
      failedReverts := touched.failedReverts }

/-- After an upsert the pod's name is tracked as the given object or not at
all, and other names as before.  If it is tracked, then the object is as it was
and does not call for a revert, or the revert failed. -/
theorem tracked_of_upsertPod {name : String} {tracked : PodRef}
    (present : (boost.upsertPod lib client now ref memory).boost.pods.lookup name =
      some tracked) :
    (name ≠ (memory.pods ref).name ∧ boost.pods.lookup name = some tracked) ∨
      (name = (memory.pods ref).name ∧ tracked = ref ∧
        ((boost.MeetsPodCondition now (memory.pods ref) ∧
            (boost.upsertPod lib client now ref memory).memory.pods = memory.pods) ∨
          boost.failedRevert ref ∈
            (boost.upsertPod lib client now ref memory).memory.failedReverts)) := by
  obtain ⟨stats, metrics, met, notMet⟩ := upsertPod_eq lib client now ref boost memory
  by_cases condition : boost.MeetsPodCondition now (memory.pods ref)
  · rw [met condition] at present ⊢
    rcases GoMap.lookup_insert_eq_some.mp present with ⟨sameName, rfl⟩ | other
    · exact .inr ⟨sameName, rfl, .inl ⟨condition, rfl⟩⟩
    · exact .inl other
  · rw [notMet condition] at present ⊢
    obtain ⟨before, logged⟩ := tracked_of_revertResources lib client ref _ _ present
    rcases GoMap.lookup_insert_eq_some.mp before with ⟨sameName, rfl⟩ | other
    · exact .inr ⟨sameName, rfl, .inr (logged sameName)⟩
    · exact .inl other

/-- An upsert reverts the pod: its object has reached the condition, and the
calls of the revert succeed. -/
def UpsertReverts : Prop :=
  ¬ boost.MeetsPodCondition now (memory.pods ref) ∧
    (boost.revertCalls lib client ref memory).result = .ok ()

/-- After an upsert the pod's name is tracked as the given object, unless the
upsert has reverted it; other names are tracked as before. -/
theorem lookup_upsertPod (name : String) :
    (name ≠ (memory.pods ref).name →
      (boost.upsertPod lib client now ref memory).boost.pods.lookup name =
        boost.pods.lookup name) ∧
    (boost.UpsertReverts lib client now ref memory →
      (boost.upsertPod lib client now ref memory).boost.pods.lookup (memory.pods ref).name =
        none) ∧
    (¬ boost.UpsertReverts lib client now ref memory →
      (boost.upsertPod lib client now ref memory).boost.pods.lookup (memory.pods ref).name =
        some ref) := by
  obtain ⟨stats, metrics, met, notMet⟩ := upsertPod_eq lib client now ref boost memory
  by_cases condition : boost.MeetsPodCondition now (memory.pods ref)
  · rw [met condition]
    refine ⟨fun different => Finmap.lookup_insert_of_ne _ different, fun reverts => ?_, fun _ => ?_⟩
    · exact absurd condition reverts.1
    · exact Finmap.lookup_insert _
  · rw [notMet condition]
    cases calls : (boost.revertCalls lib client ref memory).result with
    | error message =>
        rw [revertResources_of_error lib client ref
          { boost with pods := boost.pods.insert (memory.pods ref).name ref, stats }
          { memory with metrics } calls]
        refine ⟨fun different => Finmap.lookup_insert_of_ne _ different, fun reverts => ?_,
          fun _ => Finmap.lookup_insert _⟩
        rw [UpsertReverts, calls] at reverts
        cases reverts.2
    | ok =>
        obtain ⟨_, _, outcome⟩ := revertResources_of_ok lib client ref
          { boost with pods := boost.pods.insert (memory.pods ref).name ref, stats }
          { memory with metrics } calls
        rw [outcome]
        refine ⟨fun different => ?_, fun _ => Finmap.lookup_erase _ _, fun keeps => ?_⟩
        · exact (Finmap.lookup_erase_ne different).trans (Finmap.lookup_insert_of_ne _ different)
        · exact absurd ⟨condition, calls⟩ keeps

@[simp]
theorem mapError_eq_ok {change : String → String} {result : Except String Unit} :
    result.mapError change = .ok () ↔ result = .ok () := by
  cases result <;> simp [Except.mapError]

/-- So is an upsert: it fails with the revert it makes. -/
theorem upsertPod_log :
    ((boost.upsertPod lib client now ref memory).result = .ok () ∧
        (boost.upsertPod lib client now ref memory).memory.failedReverts =
          memory.failedReverts) ∨
      ((boost.upsertPod lib client now ref memory).result ≠ .ok () ∧
        (boost.upsertPod lib client now ref memory).memory.failedReverts =
          boost.failedRevert ref :: memory.failedReverts) := by
  obtain ⟨stats, metrics, met, notMet⟩ := upsertPod_eq lib client now ref boost memory
  by_cases condition : boost.MeetsPodCondition now (memory.pods ref)
  · rw [met condition]
    exact .inl ⟨rfl, rfl⟩
  · rw [notMet condition]
    rcases revertResources_log lib client ref
        { boost with pods := boost.pods.insert (memory.pods ref).name ref, stats }
        { memory with metrics } with ⟨succeeded, unlogged⟩ | ⟨failed, logged⟩
    · refine .inl ⟨?_, unlogged⟩
      rw [succeeded]
      rfl
    · exact .inr ⟨fun succeeded => failed (mapError_eq_ok.mp succeeded), logged⟩

def recordedContainers (pods : GoMap String PodRef) (memory : Memory σ) : Nat :=
  (pods.entries.map fun entry => boostContainersLen lib (memory.pods entry.2)).sum

theorem recordedContainers_eq_sum (pods : GoMap String PodRef) :
    recordedContainers lib pods memory =
      ∑ name ∈ pods.keys, (pods.lookup name).elim 0
        fun ref => boostContainersLen lib (memory.pods ref) :=
  GoMap.sum_entries (fun ref => boostContainersLen lib (memory.pods ref)) pods

@[simp]
theorem activeContainerBoosts_updateStats (event : StatsEvent) :
    (boost.updateStats lib event memory).1.stats.activeContainerBoosts =
      recordedContainers lib boost.pods memory := by
  cases event <;> rfl

/-- An upsert of a pod that does not call for a revert. -/
theorem upsertPod_of_met (met : boost.MeetsPodCondition now (memory.pods ref)) :
    ∃ stats metrics,
      boost.upsertPod lib client now ref memory =
          ⟨.ok (), { boost with pods := boost.pods.insert (memory.pods ref).name ref, stats },
            { memory with metrics }⟩ ∧
        stats.activeContainerBoosts =
          recordedContainers lib (boost.pods.insert (memory.pods ref).name ref) memory := by
  let tracking := { boost with pods := boost.pods.insert (memory.pods ref).name ref }
  let event := if (boost.pods.lookup (memory.pods ref).name).isSome then StatsEvent.podUpdate
    else .podCreate ref
  obtain ⟨stats, metrics, updated⟩ := tracking.updateStats_eq lib memory event
  have counted := tracking.activeContainerBoosts_updateStats lib memory event
  rw [updated] at counted
  refine ⟨stats, metrics, ?_, counted⟩
  rw [(upsertPod_eq_trackPod lib client now ref boost memory).1 met, trackPod, updated]

/-- An upsert of a pod that calls for a revert, which succeeds. -/
theorem upsertPod_of_reverted (notMet : ¬ boost.MeetsPodCondition now (memory.pods ref))
    (succeeded : (boost.revertCalls lib client ref memory).result = .ok ()) :
    let reverted := boost.revertedMemory lib client ref memory
    ∃ stats metrics,
      boost.upsertPod lib client now ref memory =
          ⟨.ok (), { boost with pods := boost.pods.erase (memory.pods ref).name, stats },
            { reverted with metrics }⟩ ∧
        stats.activeContainerBoosts =
          recordedContainers lib (boost.pods.erase (memory.pods ref).name) reverted := by
  obtain ⟨stats, metrics, _, reverts⟩ := upsertPod_eq lib client now ref boost memory
  let tracking := { boost with pods := boost.pods.insert (memory.pods ref).name ref, stats }
  let untracked := { tracking with pods := tracking.pods.erase (memory.pods ref).name }
  let revertedMemory := tracking.revertedMemory lib client ref { memory with metrics }
  have outcome := tracking.revertResources_of_ok_eq lib client ref { memory with metrics } succeeded
  obtain ⟨stats', metrics', updated⟩ := untracked.updateStats_eq lib revertedMemory .podDelete
  have counted := untracked.activeContainerBoosts_updateStats lib revertedMemory .podDelete
  have untrackedPods : untracked.pods = boost.pods.erase (memory.pods ref).name :=
    GoMap.erase_insert _ _ _
  rw [updated, untrackedPods] at counted
  refine ⟨stats', metrics', ?_, counted⟩
  rw [reverts notMet, outcome]
  change (⟨.ok (), (untracked.updateStats lib .podDelete revertedMemory).1,
    (untracked.updateStats lib .podDelete revertedMemory).2⟩ : BoostOutcome σ) = _
  rw [updated, untrackedPods]

/-- An upsert returns no error if it makes no revert or the revert's calls
succeed. -/
theorem upsertPod_ok
    (accepted : boost.MeetsPodCondition now (memory.pods ref) ∨
      (boost.revertCalls lib client ref memory).result = .ok ()) :
    (boost.upsertPod lib client now ref memory).result = .ok () := by
  by_cases condition : boost.MeetsPodCondition now (memory.pods ref)
  · obtain ⟨stats, metrics, outcome, _⟩ :=
      upsertPod_of_met lib client now ref boost memory condition
    rw [outcome]
  · obtain ⟨stats, metrics, outcome, _⟩ := upsertPod_of_reverted lib client now ref boost memory
      condition (accepted.resolve_left condition)
    rw [outcome]

/-- An upsert counts the boost's containers. -/
theorem counted_upsertPod :
    Counted (boost.upsertPod lib client now ref memory).boost memory.metrics
      (boost.upsertPod lib client now ref memory).memory.metrics := by
  have tracked : Counted (boost.trackPod lib ref memory).1 memory.metrics
      (boost.trackPod lib ref memory).2.metrics := counted_updateStats lib _ _ _
  obtain ⟨met, notMet⟩ := upsertPod_eq_trackPod lib client now ref boost memory
  by_cases condition : boost.MeetsPodCondition now (memory.pods ref)
  · rw [met condition]
    exact tracked
  · rw [notMet condition]
    cases calls : ((boost.trackPod lib ref memory).1.revertCalls lib client ref
        (boost.trackPod lib ref memory).2).result with
    | error message =>
        rw [revertResources_of_error lib client ref _ _ calls]
        exact tracked
    | ok =>
        rw [revertResources_of_ok_eq lib client ref _ _ calls]
        refine Counted.trans ?_ ?_ tracked (counted_updateStats lib _ _ _)
        · rfl
        · rfl

theorem counted_deletePod (podName : String) :
    Counted (boost.deletePod lib podName memory).1 memory.metrics
      (boost.deletePod lib podName memory).2.metrics :=
  counted_updateStats lib _ _ _

end Changes

/-- An update replaces the selector and the policies only. -/
theorem updateFromSpec_ok {spec : StartupCPUBoost} {boost impl : StartupCPUBoostImpl}
    (updated : boost.updateFromSpec lib spec = .ok impl) :
    impl = { boost with
      selector := impl.selector
      resourcePolicies := impl.resourcePolicies
      durationPolicies := mapDurationPolicy spec.spec.durationPolicy } := by
  unfold updateFromSpec at updated
  cases selector : lib.labelSelectorAsSelector spec.selector with
  | error message => simp [selector, bind, Except.bind] at updated
  | ok selects =>
      cases policies : mapResourcePolicy spec.spec.containerPolicies with
      | error message => simp [selector, policies, bind, Except.bind] at updated
      | ok mapped =>
          simp only [selector, policies, bind, Except.bind, pure, Except.pure,
            Except.ok.injEq] at updated
          rw [← updated]

end StartupCPUBoostImpl

/-- A boost is built when its selector and its container policies can be read. -/
theorem newStartupCPUBoost_cases {boost : StartupCPUBoost} {legacyRevertMode : Bool}
    {impl : StartupCPUBoostImpl}
    (built : newStartupCPUBoost lib boost legacyRevertMode = .ok impl) :
    ∃ selector resourcePolicies, lib.labelSelectorAsSelector boost.selector = .ok selector ∧
      mapResourcePolicy boost.spec.containerPolicies = .ok resourcePolicies ∧
      impl = {
        name := boost.name
        ns := boost.ns
        selector
        durationPolicies := mapDurationPolicy boost.spec.durationPolicy
        resourcePolicies
        legacyRevertMode } := by
  unfold newStartupCPUBoost at built
  cases selector : lib.labelSelectorAsSelector boost.selector with
  | error message => simp [selector, bind, Except.bind] at built
  | ok selects =>
      cases policies : mapResourcePolicy boost.spec.containerPolicies with
      | error message => simp [selector, policies, bind, Except.bind] at built
      | ok mapped =>
          simp only [selector, policies, bind, Except.bind, pure, Except.pure,
            Except.ok.injEq] at built
          exact ⟨selects, mapped, rfl, rfl, built.symm⟩

theorem newStartupCPUBoost_of_mapped {boost : StartupCPUBoost} {legacyRevertMode : Bool}
    {resourcePolicies : GoMap String ContainerPolicy}
    (wellFormed : boost.selector.WellFormed lib.validLabelKey lib.validLabelValue)
    (mapped : mapResourcePolicy boost.spec.containerPolicies = .ok resourcePolicies) :
    newStartupCPUBoost lib boost legacyRevertMode = .ok {
      name := boost.name
      ns := boost.ns
      selector := boost.selector.selects
      durationPolicies := mapDurationPolicy boost.spec.durationPolicy
      resourcePolicies
      legacyRevertMode } := by
  simp only [newStartupCPUBoost, lib.labelSelectorAsSelector_ok _ wellFormed, mapped]
  rfl

/-- A new boost has the name of its object and its duration policies, and tracks and
counts nothing. -/
theorem newStartupCPUBoost_eq {boost : StartupCPUBoost} {legacyRevertMode : Bool}
    {impl : StartupCPUBoostImpl}
    (built : newStartupCPUBoost lib boost legacyRevertMode = .ok impl) :
    impl = {
      name := boost.name
      ns := boost.ns
      selector := impl.selector
      durationPolicies := mapDurationPolicy boost.spec.durationPolicy
      resourcePolicies := impl.resourcePolicies
      legacyRevertMode } := by
  obtain ⟨selector, resourcePolicies, -, -, rfl⟩ := newStartupCPUBoost_cases lib built
  rfl

theorem newStartupCPUBoost_ok {boost : StartupCPUBoost} {legacyRevertMode : Bool}
    {impl : StartupCPUBoostImpl}
    (built : newStartupCPUBoost lib boost legacyRevertMode = .ok impl) :
    impl.name = boost.name ∧ impl.ns = boost.ns ∧ impl.pods = ∅ ∧
      impl.durationPolicies = mapDurationPolicy boost.spec.durationPolicy := by
  rw [newStartupCPUBoost_eq lib built]
  exact ⟨rfl, rfl, rfl, rfl⟩

end KubeStartupCPUBoost
