import KubeStartupCPUBoost.ControllerRun
import KubeStartupCPUBoost.GlobalBoostReconcile
import KubeStartupCPUBoost.LevelTriggeredRuns
import KubeStartupCPUBoost.RegisteredSpecs

/-!
# The reported status of a boost

The reconciler writes a boost's statistics and whether the manager knows the
boost into the status of the boost object.  It reads the object from the watch
cache; its keys come from the events of boosts, from the handler of pod events,
and from the tick, which calls it directly and ignores what it returns.

Together with the handlers of boost events this is a reconcile loop
(`boostPolicy`).  When nothing is on its way for a boost object, the manager has a
boost with the object's settings and the object's status shows its statistics
(`boosts_settle`).
-/

namespace KubeStartupCPUBoost

structure StartupCPUBoostStatus where
  activeContainerBoosts : Int32 := 0
  totalContainerBoosts : Int32 := 0
  conditions : List StatusCondition := []
deriving DecidableEq

def boostActiveConditionTrueReason : String := "Ready"

def boostActiveConditionTrueMessage : String := "Can boost new containers"

def boostActiveConditionFalseReason : String := "NotFound"

def boostActiveConditionFalseMessage : String := "StartupCPUBoost not found"

def boostActiveConditionTrue : StatusCondition where
  type := "Active"
  status := "True"
  reason := boostActiveConditionTrueReason
  message := boostActiveConditionTrueMessage

def boostActiveConditionFalse : StatusCondition where
  type := "Active"
  status := "False"
  reason := boostActiveConditionFalseReason
  message := boostActiveConditionFalseMessage

variable {σ : Type}

/-- The status `Reconcile` computes for a boost object; the counters of a boost
that the manager does not have are left as they are. -/
def reconciledStatus (manager : Manager σ) (name ns : String) (status : StartupCPUBoostStatus) :
    StartupCPUBoostStatus :=
  match manager.getRegularCPUBoost name ns with
  | some boost =>
      let stats := (manager.boosts boost).stats
      { activeContainerBoosts := Int32.ofNat stats.activeContainerBoosts
        totalContainerBoosts := Int32.ofNat stats.totalContainerBoosts
        conditions := setStatusCondition boostActiveConditionTrue status.conditions }
  | none =>
      { status with
        conditions := setStatusCondition boostActiveConditionFalse status.conditions }

/-- The request the pod handler adds to the queue after an upsert or a deletion:
for the boost it was given, unless there was an error. -/
def podHandlerRequests (manager : Manager σ) :
    Option BoostRef × Except String Unit → Finset BoostKey
  | (some boost, .ok ()) => {((manager.boosts boost).ns, (manager.boosts boost).name)}
  | _ => ∅

variable (lib : Library) (client : PodClient σ) (legacyRevertMode : Bool)

/-- A boost object without its key, from which a boost can be built. -/
structure BoostContent where
  labels : StringMap
  annotations : StringMap
  selector : LabelSelector
  spec : StartupCPUBoostSpec
  status : StartupCPUBoostStatus
  valid : AcceptedSpecs.valid lib ⟨"", "", labels, annotations, selector, spec⟩ = true
deriving DecidableEq

def BoostContent.object {lib : Library} (content : BoostContent lib) (key : BoostKey) :
    StartupCPUBoost where
  name := key.2
  ns := key.1
  labels := content.labels
  annotations := content.annotations
  selector := content.selector
  spec := content.spec

def eventRequests (event : ControllerEvent σ) (state : Controller σ) : Finset BoostKey :=
  match event with
  | .upsertPod order pod =>
      let delivered := state.manager.newPod pod
      podHandlerRequests delivered.2
        (delivered.2.upsertPod lib client state.now order delivered.1).1
  | .deletePod order pod =>
      podHandlerRequests state.manager (state.manager.deletePod lib order pod).1
  | _ => ∅

def taskRequests (event : ControllerEvent σ) (state : Controller σ) : Finset BoostKey :=
  match event with
  | .executeTask position =>
      match state.inFlight.tasks[position]? with
      | none => ∅
      | some (boost, ref) =>
          podHandlerRequests state.manager
            (some boost, (state.manager.revertResourcesIn lib client boost ref).1)
  | _ => ∅

/-- The reconcile loop of boost objects.  The event of an object that the cache
does not have is a create event. -/
def boostPolicy : ReconcilePolicy (Controller σ) (ControllerEvent σ) (RangeOrder String) BoostKey
    (BoostContent lib) where
  desired state key content :=
    { content with status := reconciledStatus state.manager key.2 key.1 content.status }
  observe order key before after state :=
    match before, after with
    | _, none => state.step lib client legacyRevertMode (.deleteBoost key.1 key.2)
    | none, some content =>
        state.step lib client legacyRevertMode (.createBoost order (content.object key))
    | some _, some content =>
        state.step lib client legacyRevertMode (.updateBoost order (content.object key))
  perform event state := state.step lib client legacyRevertMode event
  wakes := eventRequests lib client
  requests := taskRequests lib client

/-- The manager's own events; an upsert that returns an error queues nothing,
although the boost may have counted the pod. -/
def Requested (event : ControllerEvent σ) (state : Controller σ) : Prop :=
  event.LeavesBoosts ∧
    match event with
    | .upsertPod order pod =>
        let delivered := state.manager.newPod pod
        (delivered.2.upsertPod lib client state.now order delivered.1).1.2 = .ok ()
    | _ => True

/-- The manager finds the same boost under a key, with the same statistics. -/
def SameStatsAt (key : BoostKey) (before after : Manager σ) : Prop :=
  after.getRegularCPUBoost key.2 key.1 = before.getRegularCPUBoost key.2 key.1 ∧
    ∀ boost, before.getRegularCPUBoost key.2 key.1 = some boost →
      (after.boosts boost).stats = (before.boosts boost).stats

theorem reconciledStatus_congr {key : BoostKey} {before after : Manager σ}
    (same : SameStatsAt key before after) (status : StartupCPUBoostStatus) :
    reconciledStatus after key.2 key.1 status = reconciledStatus before key.2 key.1 status := by
  unfold reconciledStatus
  rw [same.1]
  cases found : before.getRegularCPUBoost key.2 key.1 with
  | none => rfl
  | some boost => simp only [same.2 boost found]

@[simp]
theorem Manager.postProcessNewBoost_boosts_of_ne {boost other : BoostRef}
    (different : other ≠ boost) (now : Time) (order : RangeOrder String) (manager : Manager σ) :
    (manager.postProcessNewBoost lib client now order boost).boosts other =
      manager.boosts other := by
  obtain ⟨timedBoosts, indexed⟩ := manager.indexTimedBoost_eq boost
  have mapped : ((manager.indexTimedBoost boost).mapOrphanedPods lib client now order
      boost).2.boosts other = manager.boosts other := by
    refine foldl_deleteOrphanedPod_preserves
      (P := fun current => current.boosts other = manager.boosts other)
      (fun _ _ same => same) _ ?_
    refine mapMatchingPods_preserves
      (P := fun current => current.boosts other = manager.boosts other) lib client ?_ ?_
    · intro ref _ current same _
      exact (setBoost_boosts_of_ne different _ _ _).trans same
    · rw [indexed]
  refine syncBoostPods_preserves (Q := fun _ => True)
    (P := fun current => current.boosts other = manager.boosts other) lib client mapped
    ⟨mapped, fun _ _ => trivial⟩ ?_
  intro pod _ current same _
  exact (setBoost_boosts_of_ne different _ _ _).trans same

namespace SameStatsAt

variable {lib client legacyRevertMode} {state : Controller σ} {key : BoostKey}

theorem refl (manager : Manager σ) : SameStatsAt key manager manager :=
  ⟨rfl, fun _ _ => rfl⟩

/-- The boost found under a key has its name. -/
theorem key_of_found (wellFormed : WellFormed state.inFlight state.manager) {boost : BoostRef}
    (found : state.manager.getRegularCPUBoost key.2 key.1 = some boost) :
    ((state.manager.boosts boost).ns, (state.manager.boosts boost).name) = key := by
  obtain ⟨name, ns, -⟩ := wellFormed.regular _ _ _ found
  rw [name, ns]

/-- An operation on one boost, where another one is registered under the key or its
statistics stay. -/
theorem setBoost {boost : BoostRef} {impl : StartupCPUBoostImpl} {memory : Memory σ}
    {manager : Manager σ}
    (kept : manager.getRegularCPUBoost key.2 key.1 = some boost →
      impl.stats = (manager.boosts boost).stats) :
    SameStatsAt key manager (manager.setBoost boost impl memory) := by
  refine ⟨rfl, fun other found => ?_⟩
  by_cases same : other = boost
  · subst same
    rw [Manager.setBoost_boosts_self]
    exact kept found
  · rw [Manager.setBoost_boosts_of_ne same]

theorem step_of_boostKey (wellFormed : WellFormed state.inFlight state.manager)
    {event : ControllerEvent σ} (otherKey : event.boostKey ≠ some key)
    (aboutBoost : ¬ event.LeavesBoosts) :
    SameStatsAt key state.manager (state.step lib client legacyRevertMode event).manager := by
  have sameAt : SameAt key.2 key.1 state.manager
      (state.step lib client legacyRevertMode event).manager :=
    sameAt_step client wellFormed otherKey
  refine ⟨sameAt.1, fun boost found => ?_⟩
  have existing := (wellFormed.regular _ _ _ found).2.2
  cases event with
  | createBoost order spec =>
      have new : boost ≠ state.manager.nextBoost := Nat.ne_of_lt existing
      rcases state.step_createBoost lib client legacyRevertMode order spec with
        same | ⟨impl, -, unregistered | ⟨-, registered⟩⟩
      · rw [same]
      · rw [unregistered, Manager.newBoost_boosts_of_lt existing]
      · rw [registered, Manager.postProcessNewBoost_boosts_of_ne lib client new,
          Controller.registerNew_boosts_of_lt existing]
  | updateBoost order spec =>
      rcases state.step_updateBoost lib client legacyRevertMode order spec with
        same | ⟨updated, impl, registered, -, replaced⟩
      · rw [same]
      · have different : boost ≠ updated := by
          rintro rfl
          have specKey := wellFormed.regular _ _ _ registered
          have foundKey := key_of_found wellFormed found
          rw [specKey.1, specKey.2.1] at foundKey
          exact otherKey (congrArg some foundKey)
        rw [replaced, Manager.postProcessNewBoost_boosts_of_ne lib client different,
          Manager.setBoost_boosts_of_ne different]
  | deleteBoost ns name => rfl
  | _ => exact absurd trivial aboutBoost

variable (lib client legacyRevertMode)

theorem upsertPod (wellFormed : WellFormed state.inFlight state.manager)
    {order : RangeOrder String} {pod : Pod}
    (allowed : Requested lib client (.upsertPod order pod) state)
    (unrequested : key ∉ eventRequests lib client (.upsertPod order pod) state) :
    SameStatsAt key state.manager
      (state.step lib client legacyRevertMode (.upsertPod order pod)).manager := by
  have returned := allowed.2
  simp only [eventRequests, Manager.upsertPod] at unrequested returned
  simp only [Controller.step, Manager.upsertPod]
  cases matching : (state.manager.newPod pod).2.getMatchingBoost order
      ((state.manager.newPod pod).2.memory.pods (state.manager.newPod pod).1) with
  | none => exact refl state.manager
  | some boost =>
      simp only [matching] at unrequested returned
      cases result : ((state.manager.newPod pod).2.upsertPodIn lib client state.now boost
          (state.manager.newPod pod).1).1 with
      | error message =>
          simp only [result] at returned
          cases returned
      | ok =>
          simp only [result] at unrequested ⊢
          have kept : SameStatsAt key (state.manager.newPod pod).2
              ((state.manager.newPod pod).2.upsertPodIn lib client state.now boost
                (state.manager.newPod pod).1).2 := by
            refine SameStatsAt.setBoost fun found => ?_
            exact absurd (Finset.mem_singleton.mpr (key_of_found wellFormed found).symm)
              unrequested
          exact ⟨kept.1, kept.2⟩

theorem deletePod (wellFormed : WellFormed state.inFlight state.manager)
    {order : RangeOrder String} {pod : Pod}
    (unrequested : key ∉ eventRequests lib client (.deletePod order pod) state) :
    SameStatsAt key state.manager
      (state.step lib client legacyRevertMode (.deletePod order pod)).manager := by
  simp only [eventRequests, Manager.deletePod] at unrequested
  simp only [Controller.step, Manager.deletePod]
  cases matching : state.manager.getMatchingBoost order pod with
  | none => exact refl state.manager
  | some boost =>
      simp only [matching] at unrequested
      refine SameStatsAt.setBoost fun found => ?_
      exact absurd (Finset.mem_singleton.mpr (key_of_found wellFormed found).symm) unrequested

theorem executeTask (wellFormed : WellFormed state.inFlight state.manager) {position : Nat}
    (unrequested : key ∉ taskRequests lib client (.executeTask position) state) :
    SameStatsAt key state.manager
      (state.step lib client legacyRevertMode (.executeTask position)).manager := by
  simp only [taskRequests] at unrequested
  simp only [Controller.step, Controller.executeTask]
  cases task : state.inFlight.tasks[position]? with
  | none => exact refl state.manager
  | some pair =>
      obtain ⟨boost, ref⟩ := pair
      simp only [task] at unrequested
      refine SameStatsAt.setBoost fun found => ?_
      cases result : ((state.manager.boosts boost).revertCalls lib client ref
          state.manager.memory).result with
      | error message =>
          rw [StartupCPUBoostImpl.revertResources_of_error lib client ref _ _ result]
      | ok =>
          have succeeded : (state.manager.revertResourcesIn lib client boost ref).1 = .ok () := by
            rw [← result]
            exact StartupCPUBoostImpl.revertResources_result lib client ref _ _
          simp only [succeeded] at unrequested
          exact absurd (Finset.mem_singleton.mpr (key_of_found wellFormed found).symm) unrequested

theorem step (wellFormed : WellFormed state.inFlight state.manager) {event : ControllerEvent σ}
    (allowed : Requested lib client event state)
    (unqueued : key ∉ eventRequests lib client event state)
    (unrequested : key ∉ taskRequests lib client event state) :
    SameStatsAt key state.manager (state.step lib client legacyRevertMode event).manager := by
  cases event with
  | createBoost order spec => exact allowed.1.elim
  | updateBoost order spec => exact allowed.1.elim
  | deleteBoost ns name => exact allowed.1.elim
  | upsertPod order pod => exact upsertPod lib client legacyRevertMode wellFormed allowed unqueued
  | deletePod order pod => exact deletePod lib client legacyRevertMode wellFormed unqueued
  | startTick order within =>
      simp only [Controller.step]
      split
      · exact refl state.manager
      · exact refl state.manager
  | checkBoost order =>
      rw [show state.step lib client legacyRevertMode (.checkBoost order) =
        state.checkNextBoost order from rfl, checkNextBoost_manager]
      exact refl state.manager
  | executeTask position => exact executeTask lib client legacyRevertMode wellFormed unrequested
  | passTime duration => exact refl state.manager
  | changeServer server => exact ⟨rfl, fun _ _ => rfl⟩

end SameStatsAt

private theorem boostPolicy_desired_congr {key : BoostKey} {before after : Controller σ}
    (same : SameStatsAt key before.manager after.manager) :
    (boostPolicy lib client legacyRevertMode).desired after key =
      (boostPolicy lib client legacyRevertMode).desired before key := by
  funext content
  simp only [boostPolicy, reconciledStatus_congr same]

/-- What the world does when it is told of an object is an event of that boost. -/
theorem boostPolicy_observe (order : RangeOrder String) (key : BoostKey)
    (before after : Option (BoostContent lib)) (state : Controller σ) :
    ∃ event : ControllerEvent σ, event.boostKey = some key ∧ ¬ event.LeavesBoosts ∧
      (boostPolicy lib client legacyRevertMode).observe order key before after state =
        state.step lib client legacyRevertMode event := by
  cases after with
  | none => exact ⟨.deleteBoost key.1 key.2, rfl, id, by cases before <;> rfl⟩
  | some content =>
      cases before with
      | none => exact ⟨.createBoost order (content.object key), rfl, id, rfl⟩
      | some earlier => exact ⟨.updateBoost order (content.object key), rfl, id, rfl⟩

theorem boostPolicy_notifies :
    (boostPolicy lib client legacyRevertMode).Notifies
      (fun state => WellFormed state.inFlight state.manager) (Requested lib client) where
  observe_valid order key before after state wellFormed := by
    obtain ⟨event, -, -, observed⟩ :=
      boostPolicy_observe lib client legacyRevertMode order key before after state
    rw [observed]
    exact wellFormed.step lib client legacyRevertMode event
  perform_valid event state wellFormed _ := wellFormed.step lib client legacyRevertMode event
  observe_other order key before after state other wellFormed different := by
    obtain ⟨event, aboutKey, aboutBoost, observed⟩ :=
      boostPolicy_observe lib client legacyRevertMode order key before after state
    rw [observed]
    apply boostPolicy_desired_congr
    apply SameStatsAt.step_of_boostKey wellFormed _ aboutBoost
    rw [aboutKey]
    exact fun same => different (Option.some.inj same).symm
  perform_other event state key wellFormed allowed unqueued unrequested :=
    boostPolicy_desired_congr lib client legacyRevertMode
      (SameStatsAt.step lib client legacyRevertMode wellFormed allowed unqueued unrequested)

/-- The manager has a boost with the settings of an object, or none if there is no
object. -/
def ReflectsBoost (state : Controller σ) (key : BoostKey) : Option (BoostContent lib) → Prop
  | none => state.manager.getRegularCPUBoost key.2 key.1 = none
  | some content => Carries lib legacyRevertMode state.manager key.2 key.1 (content.object key)

theorem BoostContent.exists_built {lib : Library} (content : BoostContent lib) (key : BoostKey)
    (legacyRevertMode : Bool) :
    ∃ built, newStartupCPUBoost lib (content.object key) legacyRevertMode = .ok built := by
  obtain ⟨built, fromSpec⟩ := (valid_iff lib _ legacyRevertMode).mp content.valid
  obtain ⟨selector, policies, selected, mapped, -⟩ := newStartupCPUBoost_cases lib fromSpec
  refine ⟨{
    name := key.2
    ns := key.1
    selector
    durationPolicies := mapDurationPolicy content.spec.durationPolicy
    resourcePolicies := policies
    legacyRevertMode }, ?_⟩
  simp only [newStartupCPUBoost, BoostContent.object, selected, mapped]
  rfl

theorem ReflectsBoost.congr {before after : Controller σ} {key : BoostKey}
    {content : Option (BoostContent lib)}
    (reflects : ReflectsBoost lib legacyRevertMode before key content)
    (same : SameAt key.2 key.1 before.manager after.manager) :
    ReflectsBoost lib legacyRevertMode after key content := by
  cases content with
  | none => exact same.1.trans reflects
  | some content => exact Carries.congr reflects same

theorem boostPolicy_mirrors :
    (boostPolicy lib client legacyRevertMode).Mirrors
      (fun state => WellFormed state.inFlight state.manager) (Requested lib client)
      (ReflectsBoost lib legacyRevertMode) where
  observe order key before after state wellFormed reflects := by
    cases after with
    | none =>
        have deleted : (state.manager.deleteRegularCPUBoost key.1 key.2).getRegularCPUBoost key.2
            key.1 = none := by
          simp [Manager.getRegularCPUBoost, Manager.deleteRegularCPUBoost,
            NamespacedObjects.get_delete]
        cases before with
        | none => exact deleted
        | some earlier => exact deleted
    | some content =>
        obtain ⟨built, fromSpec⟩ := content.exists_built key legacyRevertMode
        cases before with
        | none => exact carries_createBoost client fromSpec reflects
        | some earlier =>
            obtain ⟨boost, -, registered, -⟩ := reflects
            exact carries_updateBoost client fromSpec registered
  observe_other order key before after state other content wellFormed different reflects := by
    obtain ⟨event, aboutKey, -, observed⟩ :=
      boostPolicy_observe lib client legacyRevertMode order key before after state
    rw [observed]
    apply reflects.congr
    apply sameAt_step client wellFormed
    rw [aboutKey]
    exact fun same => different (Option.some.inj same).symm
  perform event state key content wellFormed allowed reflects := by
    apply reflects.congr
    exact .of_sameConfiguration
      (Controller.step_sameConfiguration lib client legacyRevertMode (.refl _) allowed.1)

private theorem mem_setStatusCondition (condition : StatusCondition)
    (conditions : List StatusCondition) :
    condition ∈ setStatusCondition condition conditions := by
  induction conditions with
  | nil => exact List.mem_singleton_self condition
  | cons existing rest ih =>
      unfold setStatusCondition
      split
      · exact List.mem_cons_self
      · exact List.mem_cons_of_mem existing ih

/-- The manager has a boost with the settings of an object, and the object's status
shows it: its counters are the boost's, and it is active. -/
def Shown (state : Controller σ) (key : BoostKey) (content : BoostContent lib) : Prop :=
  ∃ boost built, state.manager.getRegularCPUBoost key.2 key.1 = some boost ∧
    newStartupCPUBoost lib (content.object key) legacyRevertMode = .ok built ∧
    (state.manager.boosts boost).SameSettings built ∧
    content.status.activeContainerBoosts =
      Int32.ofNat (state.manager.boosts boost).stats.activeContainerBoosts ∧
    content.status.totalContainerBoosts =
      Int32.ofNat (state.manager.boosts boost).stats.totalContainerBoosts ∧
    boostActiveConditionTrue ∈ content.status.conditions

private theorem shown_of_settled {state : Controller σ} {key : BoostKey}
    {content : BoostContent lib}
    (carries : Carries lib legacyRevertMode state.manager key.2 key.1 (content.object key))
    (settled : reconciledStatus state.manager key.2 key.1 content.status = content.status) :
    Shown lib legacyRevertMode state key content := by
  obtain ⟨boost, built, found, fromSpec, settings⟩ := carries
  refine ⟨boost, built, found, fromSpec, settings, ?_⟩
  simp only [reconciledStatus, found] at settled
  rw [← settled]
  exact ⟨rfl, rfl, mem_setStatusCondition _ _⟩

/-- Over every run from the start the loop is sound, and the manager reflects the
objects it has been told of. -/
theorem boostLoop_sound (hasClient : Bool) (now : Time) (server : σ)
    {stored : BoostKey → Option (Versioned (BoostContent lib))} {nextVersion : Nat}
    (older : ∀ key object, stored key = some object → object.version < nextVersion)
    {events : List (LoopEvent (ControllerEvent σ) (RangeOrder String) BoostKey
      (BoostContent lib))} :
    let policy := boostPolicy lib client legacyRevertMode
    let start := ReconcileLoop.fresh (Controller.initial hasClient now server) stored nextVersion
    let after := runEvents (ReconcileLoop.step policy) events start
    AllowedRun (ReconcileLoop.step policy) (ReconcileLoop.EventAllowed (Requested lib client))
        events start →
      ReconcileLoop.Sound policy
          (fun state : Controller σ => WellFormed state.inFlight state.manager) after ∧
        ReconcileLoop.Mirrored (ReflectsBoost lib legacyRevertMode) after := by
  intro policy start after allowed
  have startSound : ReconcileLoop.Sound policy
      (fun state : Controller σ => WellFormed state.inFlight state.manager) start :=
    .fresh (.newManager hasClient server) older
  have startMirrored : ReconcileLoop.Mirrored (ReflectsBoost lib legacyRevertMode) start :=
    fun key => rfl
  exact startSound.run_mirrored (boostPolicy_notifies lib client legacyRevertMode)
    (boostPolicy_mirrors lib client legacyRevertMode) startMirrored allowed

/-- The controller starts on a store with any boost objects.  After every run in which
no upsert fails and the tick's own writes are not rejected but for the object's
version, a key for which nothing is on its way is settled: if no object is stored
there the manager has no boost, and otherwise it has one with the object's
settings, and the object's status shows its statistics. -/
theorem boosts_settle (hasClient : Bool) (now : Time) (server : σ)
    (stored : BoostKey → Option (Versioned (BoostContent lib))) (nextVersion : Nat)
    (older : ∀ key object, stored key = some object → object.version < nextVersion)
    (events : List (LoopEvent (ControllerEvent σ) (RangeOrder String) BoostKey (BoostContent lib)))
    (key : BoostKey) :
    let policy := boostPolicy lib client legacyRevertMode
    let start := ReconcileLoop.fresh (Controller.initial hasClient now server) stored nextVersion
    let after := runEvents (ReconcileLoop.step policy) events start
    AllowedRun (ReconcileLoop.step policy) (ReconcileLoop.EventAllowed (Requested lib client))
        events start →
      after.Idle key →
        (after.stored key = none → after.world.manager.getRegularCPUBoost key.2 key.1 = none) ∧
          ∀ object, after.stored key = some object →
            Shown lib legacyRevertMode after.world key object.content := by
  intro policy start after allowed idle
  obtain ⟨sound, mirrored⟩ :=
    boostLoop_sound lib client legacyRevertMode hasClient now server older allowed
  have reflects := mirrored.stored sound.coherent idle.notices
  have settled := (sound.upToDate key).settled idle
  constructor
  · intro absent
    rw [absent] at reflects
    exact reflects
  · intro object isStored
    rw [isStored] at reflects
    exact shown_of_settled lib legacyRevertMode reflects
      (congrArg BoostContent.status (settled object isStored))

namespace Reference

/-- The boost object as an earlier controller left it: active, and with nothing
boosted yet. -/
def shownContent : BoostContent referenceLibrary where
  labels := ∅
  annotations := ∅
  selector := everything
  spec := (boostOf everything forMinute).spec
  status := { conditions := [boostActiveConditionTrue] }
  valid := (valid_iff referenceLibrary _ false).mpr
    ⟨_, newStartupCPUBoost_of_mapped referenceLibrary wellFormed_everything rfl⟩

def shownStore (key : BoostKey) : Option (Versioned (BoostContent referenceLibrary)) :=
  if key = ("default", "boost") then some ⟨shownContent, 0⟩ else none

/-- The controller starts, is told of the object, and reconciles it. -/
noncomputable def settlingEvents : List (LoopEvent (ControllerEvent ApiServer) (RangeOrder String)
    BoostKey (BoostContent referenceLibrary)) :=
  [.deliver .arbitrary ("default", "boost"), .take ("default", "boost") 0,
    .advance ("default", "boost") true]

noncomputable def settledLoop : ReconcileLoop (Controller ApiServer) BoostKey
    (BoostContent referenceLibrary) :=
  runEvents (ReconcileLoop.step (boostPolicy referenceLibrary referenceClient false))
    settlingEvents (.fresh started shownStore 1)

private theorem idle_settledLoop : settledLoop.Idle ("default", "boost") := by
  let policy := boostPolicy referenceLibrary referenceClient false
  let key : BoostKey := ("default", "boost")
  let object : Versioned (BoostContent referenceLibrary) := ⟨shownContent, 0⟩
  let registered : Controller ApiServer :=
    { started with manager := registeredManager everything }
  let told : ReconcileLoop (Controller ApiServer) BoostKey (BoostContent referenceLibrary) :=
    { ReconcileLoop.fresh registered shownStore 1 with
      observed := Function.update (fun _ => none) key (some object)
      notices := Function.update
        (ReconcileLoop.fresh registered shownStore 1).notices key []
      queue := {key} }
  have delivered : (ReconcileLoop.fresh started shownStore 1).deliver policy .arbitrary key =
      told := by
    have announced : (ReconcileLoop.fresh started shownStore 1).notices key = [some object] := rfl
    unfold ReconcileLoop.deliver
    simp only [announced]
    have created : policy.observe .arbitrary key none (some shownContent) started = registered :=
      step_create wellFormed_everything
    exact congrArg (fun world => { told with world }) created
  have settled : told.decide policy key object = none := by
    have same : policy.desired registered key shownContent = shownContent := by
      have status : reconciledStatus (registeredManager everything) "boost" "default"
          shownContent.status = shownContent.status := by
        have found : (registeredManager everything).getRegularCPUBoost "boost" "default" =
            some 0 := by
          simp [Manager.getRegularCPUBoost, registeredManager, NamespacedObjects.get_put]
        simp only [reconciledStatus, found]
        decide +kernel
      exact congrArg (fun status => { shownContent with status }) status
    unfold ReconcileLoop.decide
    exact if_pos same
  let fetched : ReconcileLoop (Controller ApiServer) BoostKey (BoostContent referenceLibrary) :=
    { told with
      queue := told.queue.erase key
      working := Function.update told.working key (some (.fetched object)) }
  have taken : told.take key 0 = fetched := by
    unfold ReconcileLoop.take
    exact if_pos (Finset.mem_singleton_self key)
  have advanced : fetched.advance policy key true = fetched.setWorking key none := by
    have working : fetched.working key = some (.fetched object) :=
      Function.update_self key (some (.fetched object)) told.working
    have decided : fetched.decide policy key object = none := settled
    simp only [ReconcileLoop.advance, working, decided]
  have reached : settledLoop = fetched.setWorking key none := by
    rw [← advanced, ← taken, ← delivered]
    rfl
  rw [reached]
  constructor
  case notices => simp [ReconcileLoop.setWorking, fetched, told, key]
  case queue => exact Finset.notMem_erase _ _
  case requested => exact Finset.notMem_empty _
  case working => simp [ReconcileLoop.setWorking, key]
  case direct => rfl

theorem boosts_settle_shownContent :
    settledLoop.Idle ("default", "boost") ∧
      ∀ object, settledLoop.stored ("default", "boost") = some object →
        Shown referenceLibrary false settledLoop.world ("default", "boost") object.content := by
  refine ⟨idle_settledLoop, ?_⟩
  have older : ∀ key object, shownStore key = some object → object.version < 1 := by
    intro key object isStored
    unfold shownStore at isStored
    split at isStored
    · cases isStored
      exact Nat.zero_lt_one
    · cases isStored
  exact (boosts_settle referenceLibrary referenceClient false true 0 ⟨∅, []⟩ shownStore 1 older
    settlingEvents ("default", "boost") ⟨trivial, trivial, trivial, trivial⟩ idle_settledLoop).2

end Reference

end KubeStartupCPUBoost
