import KubeStartupCPUBoost.BoostTracking
import KubeStartupCPUBoost.NamespacedObjects

/-!
# The boost manager

The manager registers boosts by namespace and name, routes pod events to the
first registered boost whose selector matches, and keeps pods without such a
boost aside as orphaned.  Boosts are objects in memory: the index of timed
boosts and the revert tasks of a tick hold references to them, which outlive
their registration.

Every operation runs under the manager's lock and is modelled as one function
on the manager's state.  An order stands for the order of each loop over a map.
-/

namespace KubeStartupCPUBoost

/-- A boost object in the controller's memory. -/
abbrev BoostRef := Nat

/-- The manager's state with the objects it refers to.  `hasClient` is whether
the manager was given an API client to list pods with. -/
structure Manager (σ : Type) where
  boosts : BoostRef → StartupCPUBoostImpl
  nextBoost : BoostRef
  timedBoosts : NamespacedObjects BoostRef
  regularBoosts : NamespacedObjects BoostRef
  orphanedPods : NamespacedObjects PodRef
  hasClient : Bool
  memory : Memory σ

def errStartupCPUBoostAlreadyExists : String := "startupCPUBoost already exists"

/-- `errors.Join`. -/
def joinErrors : List String → Except String Unit
  | [] => .ok ()
  | errs => .error ("\n".intercalate errs)

namespace Manager

variable (lib : Library) {σ : Type} (client : PodClient σ)

def newBoost (boost : StartupCPUBoostImpl) (manager : Manager σ) : BoostRef × Manager σ :=
  (manager.nextBoost,
    { manager with
      boosts := Function.update manager.boosts manager.nextBoost boost
      nextBoost := manager.nextBoost + 1 })

/-- A pod object that has just been delivered by an event or a list. -/
def newPod (pod : Pod) (manager : Manager σ) : PodRef × Manager σ :=
  (manager.memory.next,
    { manager with
      memory :=
        { manager.memory with
          pods := Function.update manager.memory.pods manager.memory.next pod
          delivered := Function.update manager.memory.delivered manager.memory.next pod
          next := manager.memory.next + 1 } })

@[simp]
theorem newBoost_self (impl : StartupCPUBoostImpl) (manager : Manager σ) :
    (manager.newBoost impl).2.boosts manager.nextBoost = impl :=
  Function.update_self _ _ _

@[simp]
theorem newBoost_boosts_of_lt {boost : BoostRef} {manager : Manager σ}
    (existing : boost < manager.nextBoost) (impl : StartupCPUBoostImpl) :
    (manager.newBoost impl).2.boosts boost = manager.boosts boost :=
  Function.update_of_ne (Nat.ne_of_lt existing) _ _

@[simp]
theorem newPod_self (pod : Pod) (manager : Manager σ) :
    (manager.newPod pod).2.memory.pods (manager.newPod pod).1 = pod :=
  Function.update_self _ _ _

@[simp]
theorem newPod_delivered_self (pod : Pod) (manager : Manager σ) :
    (manager.newPod pod).2.memory.delivered (manager.newPod pod).1 = pod :=
  Function.update_self _ _ _

@[simp]
theorem newPod_pods_of_lt {ref : PodRef} {manager : Manager σ}
    (allocated : ref < manager.memory.next) (pod : Pod) :
    (manager.newPod pod).2.memory.pods ref = manager.memory.pods ref :=
  Function.update_of_ne (Nat.ne_of_lt allocated) _ _

@[simp]
theorem newPod_delivered_of_lt {ref : PodRef} {manager : Manager σ}
    (allocated : ref < manager.memory.next) (pod : Pod) :
    (manager.newPod pod).2.memory.delivered ref = manager.memory.delivered ref :=
  Function.update_of_ne (Nat.ne_of_lt allocated) _ _

def setBoost (boost : BoostRef) (impl : StartupCPUBoostImpl) (memory : Memory σ)
    (manager : Manager σ) : Manager σ :=
  { manager with boosts := Function.update manager.boosts boost impl, memory }

@[simp]
theorem setBoost_boosts_self (boost : BoostRef) (impl : StartupCPUBoostImpl) (memory : Memory σ)
    (manager : Manager σ) : (manager.setBoost boost impl memory).boosts boost = impl :=
  Function.update_self _ _ _

@[simp]
theorem setBoost_boosts_of_ne {boost other : BoostRef} (different : other ≠ boost)
    (impl : StartupCPUBoostImpl) (memory : Memory σ) (manager : Manager σ) :
    (manager.setBoost boost impl memory).boosts other = manager.boosts other :=
  Function.update_of_ne different _ _

def upsertPodIn (now : Time) (boost : BoostRef) (ref : PodRef) (manager : Manager σ) :
    Except String Unit × Manager σ :=
  let outcome := (manager.boosts boost).upsertPod lib client now ref manager.memory
  (outcome.result, manager.setBoost boost outcome.boost outcome.memory)

def deletePodIn (boost : BoostRef) (podName : String) (manager : Manager σ) : Manager σ :=
  let deleted := (manager.boosts boost).deletePod lib podName manager.memory
  manager.setBoost boost deleted.1 deleted.2

def revertResourcesIn (boost : BoostRef) (ref : PodRef) (manager : Manager σ) :
    Except String Unit × Manager σ :=
  let outcome := (manager.boosts boost).revertResources lib client ref manager.memory
  (outcome.result, manager.setBoost boost outcome.boost outcome.memory)

def deleteOrphanedPod (pod : Pod) (manager : Manager σ) : Manager σ :=
  { manager with orphanedPods := manager.orphanedPods.delete pod.name pod.ns }

/-- The loop over the orphaned pods: the errors, the pods that were mapped and
the state it leaves. -/
def mapMatchingPods (now : Time) (boost : BoostRef) :
    List PodRef → Manager σ → List String × List PodRef × Manager σ
  | [], manager => ([], [], manager)
  | ref :: rest, manager =>
      if (manager.boosts boost).selectsPod (manager.memory.pods ref) then
        let upserted := manager.upsertPodIn lib client now boost ref
        let mapped := mapMatchingPods now boost rest upserted.2
        match upserted.1 with
        | .error message => (message :: mapped.1, mapped.2)
        | .ok () => (mapped.1, ref :: mapped.2.1, mapped.2.2)
      else mapMatchingPods now boost rest manager

def mapOrphanedPods (now : Time) (order : RangeOrder String) (boost : BoostRef)
    (manager : Manager σ) : Except String Unit × Manager σ :=
  let orphanedPods := manager.orphanedPods.list order (manager.boosts boost).ns
  let mapped := manager.mapMatchingPods lib client now boost orphanedPods
  (joinErrors mapped.1,
    mapped.2.1.foldl (fun manager ref => manager.deleteOrphanedPod (manager.memory.pods ref))
      mapped.2.2)

def syncListedPods (now : Time) (boost : BoostRef) :
    List Pod → Manager σ → List String × Manager σ
  | [], manager => ([], manager)
  | pod :: rest, manager =>
      if ((manager.boosts boost).pods.lookup pod.name).isSome then
        syncListedPods now boost rest manager
      else
        let listed := manager.newPod pod
        let upserted := listed.2.upsertPodIn lib client now boost listed.1
        let synced := syncListedPods now boost rest upserted.2
        match upserted.1 with
        | .error message =>
            (("failed to sync pod " ++ pod.name ++ ": " ++ message) :: synced.1, synced.2)
        | .ok () => synced

theorem syncListedPods_of_tracked {now : Time} {boost : BoostRef} {manager : Manager σ}
    {pods : List Pod}
    (tracked : ∀ pod ∈ pods, ((manager.boosts boost).pods.lookup pod.name).isSome = true) :
    manager.syncListedPods lib client now boost pods = ([], manager) := by
  induction pods with
  | nil => rfl
  | cons pod pods ih =>
      rw [List.forall_mem_cons] at tracked
      simp only [syncListedPods, tracked.1, if_true]
      exact ih tracked.2

def listBoostPods (boost : BoostRef) (manager : Manager σ) :
    Except String (List Pod) × Manager σ :=
  let impl := manager.boosts boost
  let answer := client.list impl.ns impl.name manager.memory.server
  (answer.1, { manager with memory := { manager.memory with server := answer.2 } })

/-- Syncing a boost meets the pod: there is a client, and it lists the pod. -/
def MeetsInSync (boost : BoostRef) (manager : Manager σ) (pod : Pod) : Prop :=
  manager.hasClient = true ∧
    ∃ pods, (manager.listBoostPods client boost).1 = .ok pods ∧ pod ∈ pods

def syncBoostPods (now : Time) (boost : BoostRef) (manager : Manager σ) :
    Except String Unit × Manager σ :=
  if manager.hasClient then
    let impl := manager.boosts boost
    match manager.listBoostPods client boost with
    | (.error message, manager) =>
        (.error ("failed to list pods for boost " ++ impl.ns ++ "/" ++ impl.name ++ ": " ++
          message), manager)
    | (.ok pods, manager) =>
        let synced := manager.syncListedPods lib client now boost pods
        (joinErrors synced.1, synced.2)
  else (.ok (), manager)

/-- A boost with a fixed duration policy enters the index of timed boosts; it
is never taken out here. -/
def indexTimedBoost (boost : BoostRef) (manager : Manager σ) : Manager σ :=
  let impl := manager.boosts boost
  if (impl.durationPolicies.lookup fixedDurationPolicyName).isSome then
    { manager with timedBoosts := manager.timedBoosts.put impl.name impl.ns boost }
  else manager

theorem indexTimedBoost_eq (boost : BoostRef) (manager : Manager σ) :
    ∃ timedBoosts, manager.indexTimedBoost boost = { manager with timedBoosts } := by
  simp only [indexTimedBoost]
  split
  · exact ⟨_, rfl⟩
  · exact ⟨manager.timedBoosts, rfl⟩

/-- The errors of both loops are logged only. -/
def postProcessNewBoost (now : Time) (order : RangeOrder String) (boost : BoostRef)
    (manager : Manager σ) : Manager σ :=
  let indexed := manager.indexTimedBoost boost
  let mapped := (indexed.mapOrphanedPods lib client now order boost).2
  (mapped.syncBoostPods lib client now boost).2

theorem mapOrphanedPods_of_none {now : Time} {order : RangeOrder String} {boost : BoostRef}
    {manager : Manager σ}
    (none : manager.orphanedPods.list order (manager.boosts boost).ns = []) :
    manager.mapOrphanedPods lib client now order boost = (.ok (), manager) := by
  simp only [mapOrphanedPods, none]
  rfl

/-- Syncing when every listed pod is tracked changes the server only. -/
theorem syncBoostPods_of_tracked {now : Time} {boost : BoostRef} {manager : Manager σ}
    {pods : List Pod} {server : σ} (hasClient : manager.hasClient = true)
    (answer : client.list (manager.boosts boost).ns (manager.boosts boost).name
      manager.memory.server = (.ok pods, server))
    (tracked : ∀ pod ∈ pods, ((manager.boosts boost).pods.lookup pod.name).isSome = true) :
    manager.syncBoostPods lib client now boost =
      (.ok (), { manager with memory := { manager.memory with server } }) := by
  have answered : manager.listBoostPods client boost =
      (.ok pods, { manager with memory := { manager.memory with server } }) := by
    simp only [listBoostPods, answer]
  have skipped : ({ manager with memory := { manager.memory with server } } : Manager
      σ).syncListedPods lib client now boost pods =
        ([], { manager with memory := { manager.memory with server } }) :=
    syncListedPods_of_tracked lib client tracked
  unfold syncBoostPods
  rw [if_pos hasClient, answered]
  simp only
  rw [skipped]
  rfl

/-- With no pods to take over, only the index of timed boosts changes. -/
theorem postProcessNewBoost_of_none {now : Time} {order : RangeOrder String} {boost : BoostRef}
    {manager : Manager σ} (hasClient : manager.hasClient = true)
    (noneOrphaned : manager.orphanedPods.list order (manager.boosts boost).ns = [])
    (noneListed : client.list (manager.boosts boost).ns (manager.boosts boost).name
      manager.memory.server = (.ok [], manager.memory.server)) :
    manager.postProcessNewBoost lib client now order boost = manager.indexTimedBoost boost := by
  obtain ⟨timedBoosts, indexed⟩ := manager.indexTimedBoost_eq boost
  have mapped : ({ manager with timedBoosts } : Manager σ).mapOrphanedPods lib client now order
      boost = (.ok (), { manager with timedBoosts }) :=
    mapOrphanedPods_of_none lib client noneOrphaned
  have synced : ({ manager with timedBoosts } : Manager σ).syncBoostPods lib client now boost =
      (.ok (), { manager with timedBoosts }) :=
    syncBoostPods_of_tracked lib client hasClient noneListed (by simp)
  simp only [postProcessNewBoost, indexed, mapped, synced]

def register (boost : BoostRef) (manager : Manager σ) : Manager σ :=
  let impl := manager.boosts boost
  { manager with
    regularBoosts := manager.regularBoosts.put impl.name impl.ns boost
    memory :=
      { manager.memory with metrics := manager.memory.metrics.newBoostConfiguration impl.ns } }

def addRegularCPUBoost (now : Time) (order : RangeOrder String) (boost : BoostRef)
    (manager : Manager σ) : Except String Unit × Manager σ :=
  let impl := manager.boosts boost
  match manager.regularBoosts.get impl.name impl.ns with
  | some _ => (.error errStartupCPUBoostAlreadyExists, manager)
  | none => (.ok (), (manager.register boost).postProcessNewBoost lib client now order boost)

def deleteRegularCPUBoost (ns name : String) (manager : Manager σ) : Manager σ :=
  { manager with
    regularBoosts := manager.regularBoosts.delete name ns
    timedBoosts := manager.timedBoosts.delete name ns
    memory :=
      { manager.memory with metrics := manager.memory.metrics.deleteBoostConfiguration ns } }

def updateRegularCPUBoost (now : Time) (order : RangeOrder String) (spec : StartupCPUBoost)
    (manager : Manager σ) : Except String Unit × Manager σ :=
  match manager.regularBoosts.get spec.name spec.ns with
  | none => (.ok (), manager)
  | some boost =>
      match (manager.boosts boost).updateFromSpec lib spec with
      | .error message => (.error message, manager)
      | .ok impl =>
          (.ok (), (manager.setBoost boost impl manager.memory).postProcessNewBoost lib client
            now order boost)

def getRegularCPUBoost (name ns : String) (manager : Manager σ) : Option BoostRef :=
  manager.regularBoosts.get name ns

/-- The first registered boost of the pod's namespace that matches. -/
def getMatchingBoost (order : RangeOrder String) (pod : Pod) (manager : Manager σ) :
    Option BoostRef :=
  (manager.regularBoosts.list order pod.ns).find? fun boost =>
    (manager.boosts boost).selectsPod pod

def getCPUBoostForPod (order : RangeOrder String) (pod : Pod) (manager : Manager σ) :
    Option BoostRef :=
  manager.getMatchingBoost order pod

def upsertPod (now : Time) (order : RangeOrder String) (ref : PodRef) (manager : Manager σ) :
    (Option BoostRef × Except String Unit) × Manager σ :=
  let pod := manager.memory.pods ref
  match manager.getMatchingBoost order pod with
  | some boost =>
      let upserted := manager.upsertPodIn lib client now boost ref
      match upserted.1 with
      | .ok () => ((some boost, .ok ()), upserted.2.deleteOrphanedPod pod)
      | .error message => ((some boost, .error message), upserted.2)
  | none =>
      ((none, .ok ()),
        { manager with orphanedPods := manager.orphanedPods.put pod.name pod.ns ref })

def deletePod (order : RangeOrder String) (pod : Pod) (manager : Manager σ) :
    (Option BoostRef × Except String Unit) × Manager σ :=
  match manager.getMatchingBoost order pod with
  | some boost => ((some boost, .ok ()), manager.deletePodIn lib boost pod.name)
  | none => ((none, .ok ()), manager.deleteOrphanedPod pod)

/-- A boost is added if its name is free. -/
theorem addRegularCPUBoost_cases (now : Time) (order : RangeOrder String) (boost : BoostRef)
    (manager : Manager σ) :
    (manager.addRegularCPUBoost lib client now order boost).2 = manager ∨
      manager.regularBoosts.get (manager.boosts boost).name (manager.boosts boost).ns = none ∧
        (manager.addRegularCPUBoost lib client now order boost).2 =
          (manager.register boost).postProcessNewBoost lib client now order boost := by
  simp only [addRegularCPUBoost]
  cases manager.regularBoosts.get (manager.boosts boost).name (manager.boosts boost).ns with
  | some other => exact .inl rfl
  | none => exact .inr ⟨rfl, rfl⟩

/-- A registered boost is updated if its new specification is accepted. -/
theorem updateRegularCPUBoost_cases (now : Time) (order : RangeOrder String)
    (spec : StartupCPUBoost) (manager : Manager σ) :
    (manager.updateRegularCPUBoost lib client now order spec).2 = manager ∨
      ∃ boost impl, manager.regularBoosts.get spec.name spec.ns = some boost ∧
        (manager.boosts boost).updateFromSpec lib spec = .ok impl ∧
          (manager.updateRegularCPUBoost lib client now order spec).2 =
            (manager.setBoost boost impl manager.memory).postProcessNewBoost lib client now order
              boost := by
  simp only [updateRegularCPUBoost]
  cases registered : manager.regularBoosts.get spec.name spec.ns with
  | none => exact .inl rfl
  | some boost =>
      cases updated : (manager.boosts boost).updateFromSpec lib spec with
      | error message => simp [updated]
      | ok impl => exact .inr ⟨boost, impl, rfl, updated, by simp [updated]⟩

/-- A pod goes to the boost that matches it, or is put aside. -/
theorem upsertPod_cases (now : Time) (order : RangeOrder String) (ref : PodRef)
    (manager : Manager σ) :
    let pod := manager.memory.pods ref
    (∃ boost, manager.getMatchingBoost order pod = some boost ∧
      let upserted := manager.upsertPodIn lib client now boost ref
      (upserted.1 = .ok () ∧ manager.upsertPod lib client now order ref =
          ((some boost, .ok ()), upserted.2.deleteOrphanedPod pod) ∨
        ∃ message, upserted.1 = .error message ∧ manager.upsertPod lib client now order ref =
          ((some boost, .error message), upserted.2))) ∨
    manager.getMatchingBoost order pod = none ∧ manager.upsertPod lib client now order ref =
      ((none, .ok ()),
        { manager with orphanedPods := manager.orphanedPods.put pod.name pod.ns ref }) := by
  simp only [upsertPod]
  cases manager.getMatchingBoost order (manager.memory.pods ref) with
  | none => exact .inr ⟨rfl, rfl⟩
  | some boost =>
      refine .inl ⟨boost, rfl, ?_⟩
      cases result : (manager.upsertPodIn lib client now boost ref).1 with
      | ok => exact .inl ⟨rfl, by simp [result]⟩
      | error message => exact .inr ⟨message, rfl, by simp [result]⟩

/-- A deleted pod is removed from the boost that matches it, or from the pods put
aside. -/
theorem deletePod_cases (order : RangeOrder String) (pod : Pod) (manager : Manager σ) :
    (∃ boost, manager.getMatchingBoost order pod = some boost ∧
      manager.deletePod lib order pod =
        ((some boost, .ok ()), manager.deletePodIn lib boost pod.name)) ∨
    manager.getMatchingBoost order pod = none ∧
      manager.deletePod lib order pod = ((none, .ok ()), manager.deleteOrphanedPod pod) := by
  simp only [deletePod]
  cases manager.getMatchingBoost order pod with
  | some boost => exact .inl ⟨boost, rfl, rfl⟩
  | none => exact .inr ⟨rfl, rfl⟩

/-- The matching boost is registered in the pod's namespace and selects the
pod. -/
theorem getMatchingBoost_some {order : RangeOrder String} {pod : Pod} {manager : Manager σ}
    {boost : BoostRef} (found : manager.getMatchingBoost order pod = some boost) :
    (∃ name, manager.regularBoosts.get name pod.ns = some boost) ∧
      (manager.boosts boost).selectsPod pod = true :=
  ⟨NamespacedObjects.mem_list.mp (List.mem_of_find?_eq_some found),
    by simpa using List.find?_some found⟩

theorem getMatchingBoost_none {order : RangeOrder String} {pod : Pod} {manager : Manager σ}
    (noMatch : manager.getMatchingBoost order pod = none) {name : String} {boost : BoostRef}
    (registered : manager.regularBoosts.get name pod.ns = some boost) :
    (manager.boosts boost).selectsPod pod = false := by
  have unselected := List.find?_eq_none.mp noMatch boost
    (NamespacedObjects.mem_list.mpr ⟨name, registered⟩)
  simpa using unselected

theorem orphaned_of_deleteOrphanedPod {pod : Pod} {manager : Manager σ} {podName ns : String}
    {ref : PodRef}
    (present : (manager.deleteOrphanedPod pod).orphanedPods.get podName ns = some ref) :
    manager.orphanedPods.get podName ns = some ref := by
  simp only [deleteOrphanedPod, NamespacedObjects.get_delete] at present
  split at present
  · cases present
  · exact present

theorem registered_of_deleteRegularCPUBoost {ns name : String} {manager : Manager σ}
    {otherName otherNs : String} {boost : BoostRef}
    (registered : (manager.deleteRegularCPUBoost ns name).regularBoosts.get otherName otherNs =
      some boost) :
    manager.regularBoosts.get otherName otherNs = some boost := by
  simp only [deleteRegularCPUBoost, NamespacedObjects.get_delete] at registered
  split at registered
  · cases registered
  · exact registered

section Loops

variable {P : Manager σ → Prop} {now : Time} {order : RangeOrder String} {boost : BoostRef}

/-- The loop over the orphaned pods preserves what one upsert preserves. -/
theorem mapMatchingPods_preserves {refs : List PodRef}
    (upserts : ∀ ref ∈ refs, ∀ manager : Manager σ, P manager →
      (manager.boosts boost).selectsPod (manager.memory.pods ref) = true →
        P (manager.upsertPodIn lib client now boost ref).2)
    {manager : Manager σ} (start : P manager) :
    P (manager.mapMatchingPods lib client now boost refs).2.2 := by
  induction refs generalizing manager with
  | nil => exact start
  | cons ref refs ih =>
      have later := fun other member => upserts other (List.mem_cons_of_mem ref member)
      simp only [mapMatchingPods]
      by_cases selected : (manager.boosts boost).selectsPod (manager.memory.pods ref) = true
      · rw [if_pos selected]
        have upserted := ih later (upserts ref List.mem_cons_self manager start selected)
        split <;> exact upserted
      · rw [if_neg selected]
        exact ih later start

theorem foldl_deleteOrphanedPod_preserves
    (deletes : ∀ pod (manager : Manager σ), P manager → P (manager.deleteOrphanedPod pod))
    (refs : List PodRef) {manager : Manager σ} (start : P manager) :
    P (refs.foldl
      (fun manager ref => manager.deleteOrphanedPod (manager.memory.pods ref)) manager) := by
  induction refs generalizing manager with
  | nil => exact start
  | cons ref refs ih => exact ih (deletes _ _ start)

/-- Deleting orphaned pods leaves exactly the entries under other keys. -/
theorem foldl_deleteOrphanedPod_eq (refs : List PodRef) (manager : Manager σ) :
    ∃ orphanedPods,
      refs.foldl (fun manager ref => manager.deleteOrphanedPod (manager.memory.pods ref))
          manager = { manager with orphanedPods } ∧
        ∀ name ns ref, orphanedPods.get name ns = some ref ↔
          manager.orphanedPods.get name ns = some ref ∧
            ∀ deleted ∈ refs, (manager.memory.pods deleted).key ≠ (ns, name) := by
  induction refs generalizing manager with
  | nil => exact ⟨manager.orphanedPods, rfl, by simp⟩
  | cons deleted refs ih =>
      obtain ⟨orphanedPods, result, kept⟩ :=
        ih (manager.deleteOrphanedPod (manager.memory.pods deleted))
      refine ⟨orphanedPods, result, fun name ns ref => (kept name ns ref).trans ?_⟩
      have sameKey : (name = (manager.memory.pods deleted).name ∧
          ns = (manager.memory.pods deleted).ns) ↔
            (manager.memory.pods deleted).key = (ns, name) :=
        ⟨fun same => Prod.ext same.2.symm same.1.symm,
          fun same => ⟨(congrArg Prod.snd same).symm, (congrArg Prod.fst same).symm⟩⟩
      simp only [deleteOrphanedPod, NamespacedObjects.get_delete, List.forall_mem_cons, sameKey]
      by_cases isDeleted : (manager.memory.pods deleted).key = (ns, name) <;> simp [isDeleted]

/-- The loop over the listed pods preserves what one upsert of a new object
preserves. -/
theorem syncListedPods_preserves {pods : List Pod}
    (syncs : ∀ pod ∈ pods, ∀ manager : Manager σ, P manager →
      (manager.boosts boost).pods.lookup pod.name = none →
        P ((manager.newPod pod).2.upsertPodIn lib client now boost (manager.newPod pod).1).2)
    {manager : Manager σ} (start : P manager) :
    P (manager.syncListedPods lib client now boost pods).2 := by
  induction pods generalizing manager with
  | nil => exact start
  | cons pod pods ih =>
      have later := fun other member => syncs other (List.mem_cons_of_mem pod member)
      simp only [syncListedPods]
      cases tracked : (manager.boosts boost).pods.lookup pod.name with
      | some ref => exact ih later start
      | none =>
          have synced := ih later (syncs pod List.mem_cons_self manager start tracked)
          simp only [Option.isSome_none, Bool.false_eq_true, if_false]
          split <;> exact synced

/-- Syncing preserves what one upsert of a listed pod preserves. -/
theorem syncBoostPods_preserves {Q : Pod → Prop} {manager : Manager σ} (start : P manager)
    (lists : P (manager.listBoostPods client boost).2 ∧
      ∀ pod, manager.MeetsInSync client boost pod → Q pod)
    (syncs : ∀ pod, Q pod → ∀ manager : Manager σ, P manager →
      (manager.boosts boost).pods.lookup pod.name = none →
        P ((manager.newPod pod).2.upsertPodIn lib client now boost (manager.newPod pod).1).2) :
    P (manager.syncBoostPods lib client now boost).2 := by
  obtain ⟨after, listed⟩ := lists
  simp only [syncBoostPods]
  by_cases hasClient : manager.hasClient = true
  · rw [if_pos hasClient]
    cases answer : manager.listBoostPods client boost with
    | mk result answered =>
        have result_eq : (manager.listBoostPods client boost).1 = result := by rw [answer]
        rw [answer] at after
        cases result with
        | error message => exact after
        | ok pods =>
            refine syncListedPods_preserves lib client (fun pod member => ?_) after
            exact syncs pod (listed pod ⟨hasClient, pods, result_eq, member⟩)
  · rw [if_neg hasClient]
    exact start

end Loops

end Manager

end KubeStartupCPUBoost
