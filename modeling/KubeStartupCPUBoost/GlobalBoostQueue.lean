import KubeStartupCPUBoost.GlobalBoostWakeups

/-!
# The work queue of global boosts

Global boosts share the boosts of a namespace: a child that one of them creates
or deletes can give another one something to do.  Nothing tells the other but the
watches, which map the change of a boost to the global boosts whose selector
matches its namespace.

The state is the cluster with the queue of requests.  The calls of a
reconciliation are answered by the cluster, and every change they make adds to
the queue what the watches map it to.  Over every run a global boost that is not
in the queue has nothing to do.
-/

namespace KubeStartupCPUBoost

open GlobalCall CallProgram

/-- The cluster and the names of the global boosts to be reconciled. -/
structure QueuedCluster where
  cluster : Cluster
  queue : Finset String

section Requests

variable (lib : Library) (order : RangeOrder String)

/-- What the watch of boosts reports about a key, if anything has changed there. -/
def boostEvent (key : BoostKey) (before after : Cluster) : Option (WatchEvent StartupCPUBoost) :=
  match before.boosts.get key, after.boosts.get key with
  | none, none => none
  | none, some new => some (.created new)
  | some old, none => some (.deleted old)
  | some old, some new => if old = new then none else some (.updated old new)

def boostRequests (key : BoostKey) (before after : Cluster) : Finset String :=
  match boostEvent key before after with
  | none => ∅
  | some event => ((WatchedChange.ofBoost event).requests lib order after).toFinset

def globalRequests (name : String) (before after : Cluster) : Finset String :=
  if after.globals.get name = before.globals.get name then ∅ else {name}

def GlobalCall.requests (before after : Cluster) : GlobalCall → Finset String
  | updateGlobal sent => globalRequests sent.name before after
  | updateGlobalStatus sent => globalRequests sent.name before after
  | createBoost boost => boostRequests lib order boost.key before after
  | updateBoost boost => boostRequests lib order boost.key before after
  | deleteBoost _ key => boostRequests lib order key before after
  | _ => ∅

@[simp]
theorem requests_of_not_isWrite {call : GlobalCall} (reads : ¬ call.IsWrite)
    (before after : Cluster) : call.requests lib order before after = ∅ := by
  cases call with
  | getGlobal | listNamespaces | listBoosts | listManagedBoosts | getBoost => rfl
  | updateGlobal | updateGlobalStatus | createBoost | updateBoost | deleteBoost =>
      exact absurd trivial reads

/-- The cluster answers a call, and the watches see what it has changed. -/
def QueuedCluster.handle (orders : ListOrders) (faults : GlobalCall → Option ApiError)
    (call : GlobalCall) (state : QueuedCluster) :
    Except ApiError call.Payload × QueuedCluster :=
  let answer := Cluster.handle orders faults call state.cluster
  (answer.1, ⟨answer.2, state.queue ∪ call.requests lib order state.cluster answer.2⟩)

end Requests

def Retried : Except String ReconcileResult → Prop
  | .error _ => True
  | .ok result => result.requeue = true

instance (result : Except String ReconcileResult) : Decidable (Retried result) :=
  match result with
  | .error _ => inferInstanceAs (Decidable True)
  | .ok result => inferInstanceAs (Decidable (result.requeue = true))

/-- A request is taken from the queue and its global boost is reconciled. -/
def QueuedCluster.reconcile (lib : Library) (listOrder : RangeOrder String) (orders : ListOrders)
    (order : RangeOrder String) (faults : GlobalCall → Option ApiError) (name : String)
    (state : QueuedCluster) : QueuedCluster :=
  let outcome := (reconcileGlobal lib order name).run
    (QueuedCluster.handle lib listOrder orders faults) ⟨state.cluster, state.queue.erase name⟩
  if Retried outcome.1 then { outcome.2 with queue := insert name outcome.2.queue }
  else outcome.2

/-- One step: a change of a namespace or a boost, a write to a global boost of any
kind, or a reconciliation.  Calls of a reconciliation can fail, if it reports
so. -/
inductive QueueStep (lib : Library) : QueuedCluster → QueuedCluster → Prop where
  | watched {before after : Cluster} {change : WatchedChange} (queue : Finset String)
      (order : RangeOrder String) (step : WatchedStep before change after) :
      QueueStep lib ⟨before, queue⟩ ⟨after, queue ∪ (change.requests lib order after).toFinset⟩
  | writeGlobal (cluster : Cluster) (queue : Finset String) (written : GlobalStartupCPUBoost)
      (named : written.name ≠ "") :
      QueueStep lib ⟨cluster, queue⟩
        ⟨{ cluster with globals := cluster.globals.put written }, insert written.name queue⟩
  | removeGlobal (cluster : Cluster) (queue : Finset String) (name : String) :
      QueueStep lib ⟨cluster, queue⟩
        ⟨{ cluster with globals := cluster.globals.remove name }, insert name queue⟩
  | reconcile (state : QueuedCluster) (listOrder : RangeOrder String) (orders : ListOrders)
      (order : RangeOrder String) (faults : GlobalCall → Option ApiError) (name : String)
      (queued : name ∈ state.queue)
      (reported : faults = noFaults ∨
        Retried ((reconcileGlobal lib order name).run (Cluster.handle orders faults)
          state.cluster).1) :
      QueueStep lib state (state.reconcile lib listOrder orders order faults name)

/-- The reconciliation of a global boost has nothing to do. -/
structure NothingToDo (globalBoost : GlobalStartupCPUBoost) (cluster : Cluster) : Prop where
  live : globalBoost.deletionTimestamp = none →
    globalBoostFinalizer ∈ globalBoost.finalizers ∧ Quiescent globalBoost cluster
  deleting : globalBoost.deletionTimestamp ≠ none →
    globalBoostFinalizer ∉ globalBoost.finalizers

/-- A global boost whose selector can be parsed is in the queue, or has nothing to
do. -/
def Covered (lib : Library) (name : String) (state : QueuedCluster) : Prop :=
  ∀ globalBoost, state.cluster.globals.get name = some globalBoost →
    globalBoost.spec.namespaceSelector.WellFormed lib.validLabelKey lib.validLabelValue →
      name ∈ state.queue ∨ NothingToDo globalBoost state.cluster

structure QueueSound (lib : Library) (state : QueuedCluster) : Prop where
  named : ∀ name stored, state.cluster.globals.get name = some stored → name ≠ ""
  childrenNamed : ChildrenNamed state.cluster
  covered : ∀ name, Covered lib name state

theorem Covered.of_queued {lib : Library} {name : String} {state : QueuedCluster}
    (queued : name ∈ state.queue) : Covered lib name state :=
  fun _ _ _ => .inl queued

theorem NothingToDo.of_quiescent {globalBoost : GlobalStartupCPUBoost} {before after : Cluster}
    (nothing : NothingToDo globalBoost before)
    (quiescent : Quiescent globalBoost before → Quiescent globalBoost after) :
    NothingToDo globalBoost after where
  live isLive := ⟨(nothing.live isLive).1, quiescent (nothing.live isLive).2⟩
  deleting := nothing.deleting

/-- A change that leaves a global boost alone, and after which it is requested or
quiescent as before, keeps it covered. -/
theorem Covered.step {lib : Library} {name : String} {before after : QueuedCluster}
    (covered : Covered lib name before) (queue : before.queue ⊆ after.queue)
    (sameGlobal : after.cluster.globals.get name = before.cluster.globals.get name)
    (quiescent : ∀ globalBoost, globalBoost.name = name →
      after.cluster.globals.get name = some globalBoost →
      globalBoost.spec.namespaceSelector.WellFormed lib.validLabelKey lib.validLabelValue →
        name ∉ after.queue → Quiescent globalBoost before.cluster →
          Quiescent globalBoost after.cluster) : Covered lib name after := by
  intro globalBoost registered selector
  by_cases queued : name ∈ after.queue
  · exact .inl queued
  · right
    have sameName : globalBoost.name = name := KeyedMap.key_of_get registered
    obtain wasQueued | nothing := covered globalBoost (sameGlobal ▸ registered) selector
    · exact absurd (queue wasQueued) queued
    · exact nothing.of_quiescent (quiescent globalBoost sameName registered selector queued)

section OtherBoost

variable {lib : Library} {order : RangeOrder String} {before after : Cluster} {key : BoostKey}
  {globalBoost : GlobalStartupCPUBoost}

private theorem boostEvent_eq_none (silent : boostEvent key before after = none) :
    after.boosts.get key = before.boosts.get key := by
  unfold boostEvent at silent
  cases old : before.boosts.get key with
  | none =>
      cases new : after.boosts.get key with
      | none => rfl
      | some boost => simp [old, new] at silent
  | some oldBoost =>
      cases new : after.boosts.get key with
      | none => simp [old, new] at silent
      | some newBoost =>
          simp only [old, new, ite_eq_left_iff, reduceCtorEq, imp_false, not_not] at silent
          rw [silent]

private theorem boostEvent_carries {event : WatchEvent StartupCPUBoost}
    (reported : boostEvent key before after = some event) :
    ∃ boost ∈ event.objects, boost.key = key := by
  unfold boostEvent at reported
  cases old : before.boosts.get key with
  | none =>
      cases new : after.boosts.get key with
      | none => simp [old, new] at reported
      | some boost =>
          simp only [old, new, Option.some.injEq] at reported
          subst reported
          exact ⟨boost, List.mem_singleton_self boost, KeyedMap.key_of_get new⟩
  | some oldBoost =>
      have sameKey : oldBoost.key = key := KeyedMap.key_of_get old
      cases new : after.boosts.get key with
      | none =>
          simp only [old, new, Option.some.injEq] at reported
          subst reported
          exact ⟨oldBoost, List.mem_singleton_self oldBoost, sameKey⟩
      | some newBoost =>
          simp only [old, new, Option.ite_none_left_eq_some, Option.some.injEq] at reported
          obtain ⟨-, rfl⟩ := reported
          exact ⟨oldBoost, List.mem_cons_self, sameKey⟩

/-- The change of one boost, which adds no child: a global boost that is not
requested for it stays quiescent. -/
theorem Quiescent.of_not_boostRequests (quiescent : Quiescent globalBoost before)
    (registered : after.globals.get globalBoost.name = some globalBoost)
    (selector : globalBoost.spec.namespaceSelector.WellFormed lib.validLabelKey
      lib.validLabelValue)
    (sameNamespaces : after.namespaces = before.namespaces)
    (sameElsewhere : ∀ other, other ≠ key → after.boosts.get other = before.boosts.get other)
    (children : ∀ child, after.boosts.get key = some child → ManagedBy globalBoost.name child →
      ∃ old, before.boosts.get key = some old ∧ ManagedBy globalBoost.name old)
    (notRequested : globalBoost.name ∉ boostRequests lib order key before after) :
    Quiescent globalBoost after := by
  have anyChild (other : BoostKey) (child : StartupCPUBoost)
      (present : after.boosts.get other = some child)
      (managed : ManagedBy globalBoost.name child) :
      ∃ old, before.boosts.get other = some old ∧ ManagedBy globalBoost.name old := by
    by_cases changed : other = key
    · subst changed
      exact children child present managed
    · exact ⟨child, sameElsewhere other changed ▸ present, managed⟩
  have sameDesired (ns : String) :
      Desired globalBoost after ns ↔ Desired globalBoost before ns := by
    simp only [Desired, sameNamespaces]
  cases reported : boostEvent key before after with
  | none =>
      apply quiescent.congr sameDesired _ anyChild
      intro ns _ name
      by_cases changed : (ns, name) = key
      · rw [changed]
        exact boostEvent_eq_none reported
      · exact sameElsewhere _ changed
  | some event =>
      obtain ⟨boost, carried, rfl⟩ := boostEvent_carries reported
      cases existing : before.namespaces.get boost.ns with
      | none =>
          -- No request is made for a namespace that is gone, and none is needed.
          apply quiescent.congr sameDesired _ anyChild
          rintro ns ⟨stored, present, -⟩ name
          apply sameElsewhere
          intro changed
          rw [show ns = boost.ns from congrArg Prod.fst changed, existing] at present
          cases present
      | some ns =>
          simp only [boostRequests, reported, List.mem_toFinset] at notRequested
          have unselected := not_selects_of_boost registered selector notRequested carried
            (sameNamespaces ▸ existing)
          exact quiescent.of_boost boost.key sameNamespaces existing unselected sameElsewhere
            children

end OtherBoost

/-- A call on behalf of a global boost: it writes only boosts with the label and
the name of its children, and no other global boost. -/
def GlobalCall.OnBehalfOf (name : String) : GlobalCall → Prop
  | createBoost boost => boost.managedBy = name ∧ boost.name = childBoostName name
  | updateBoost boost => boost.managedBy = name ∧ boost.name = childBoostName name
  | updateGlobal sent => sent.name = name
  | updateGlobalStatus sent => sent.name = name
  | _ => True

def GlobalCall.ReadsNamed : (call : GlobalCall) → Except ApiError call.Payload → Prop
  | getGlobal name, .ok globalBoost => globalBoost.name = name
  | getBoost ns name, .ok boost => boost.key = (ns, name)
  | _, _ => True

theorem handle_readsNamed (orders : ListOrders) (faults : GlobalCall → Option ApiError)
    (call : GlobalCall) (cluster : Cluster) :
    call.ReadsNamed (Cluster.handle orders faults call cluster).1 := by
  cases accepted : faults call with
  | some err =>
      rw [handle_of_fault orders accepted]
      cases call <;> trivial
  | none =>
      rw [handle_of_accepted orders accepted]
      cases call with
      | getGlobal name =>
          cases stored : cluster.globals.get name with
          | none => simp only [Cluster.answer, stored, ReadsNamed]
          | some globalBoost =>
              simp only [Cluster.answer, stored, ReadsNamed]
              exact KeyedMap.key_of_get stored
      | getBoost ns name =>
          cases stored : cluster.boosts.get (ns, name) with
          | none => simp only [Cluster.answer, stored, ReadsNamed]
          | some boost =>
              simp only [Cluster.answer, stored, ReadsNamed]
              exact KeyedMap.key_of_get stored
      | _ => trivial

section Calls

variable (globalBoost : GlobalStartupCPUBoost)

@[simp]
theorem buildChildBoost_managedBy (ns childName : String) :
    (buildChildBoost globalBoost ns childName).managedBy = globalBoost.name := by
  simp [StartupCPUBoost.managedBy, buildChildBoost]

private theorem ensureChild_onBehalf (ns : String) :
    (ensureChild globalBoost ns (childBoostName globalBoost.name)).AllCalls
      (OnBehalfOf globalBoost.name) ReadsNamed := by
  apply allCalls_request_bind trivial
  intro response read
  cases response with
  | error err =>
      simp only
      split
      · apply allCalls_request_bind ⟨buildChildBoost_managedBy globalBoost ns _, rfl⟩
        intro response _
        cases response <;> trivial
      · trivial
  | ok existing =>
      have sameName : existing.name = childBoostName globalBoost.name := congrArg Prod.snd read
      simp only
      by_cases foreign : existing.managedBy ≠ globalBoost.name
      · rw [if_pos foreign]
        trivial
      · rw [if_neg foreign]
        split
        · apply allCalls_request_bind ⟨not_not.mp foreign, sameName⟩
          intro response _
          cases response <;> trivial
        · trivial

private theorem deleteChildIfExists_onBehalf (name childName ns : String) :
    (deleteChildIfExists childName ns).AllCalls (OnBehalfOf name) ReadsNamed := by
  apply allCalls_request_bind trivial
  intro response _
  cases response with
  | error err => trivial
  | ok existing =>
      simp only
      split
      · trivial
      · exact allCalls_request_bind trivial fun _ _ => trivial

private theorem processNamespace_onBehalf (ns : String) :
    (processNamespace globalBoost (childBoostName globalBoost.name) ns).AllCalls
      (OnBehalfOf globalBoost.name) ReadsNamed := by
  apply allCalls_bind
  · apply allCalls_request_bind trivial
    intro response _
    cases response <;> trivial
  · intro unmanaged
    cases unmanaged with
    | error err => trivial
    | ok found =>
        cases found with
        | true => exact allCalls_bind (deleteChildIfExists_onBehalf _ _ ns) fun _ => trivial
        | false =>
            apply allCalls_bind (ensureChild_onBehalf globalBoost ns)
            intro ensured
            cases ensured <;> trivial

private theorem processNamespaces_onBehalf (names active skipped : List String) :
    (processNamespaces globalBoost (childBoostName globalBoost.name) names active
      skipped).AllCalls (OnBehalfOf globalBoost.name) ReadsNamed := by
  induction names generalizing active skipped with
  | nil => trivial
  | cons head rest ih =>
      apply allCalls_bind (processNamespace_onBehalf globalBoost head)
      intro outcome
      cases outcome <;> exact ih _ _

private theorem deleteStale_onBehalf (name : String) (active : List String)
    (boosts : List StartupCPUBoost) :
    (deleteStale active boosts).AllCalls (OnBehalfOf name) ReadsNamed := by
  induction boosts with
  | nil => trivial
  | cons boost rest ih =>
      unfold deleteStale
      split
      · exact ih
      · exact allCalls_request_bind trivial fun _ _ => ih

private theorem deleteBoosts_onBehalf (name : String) (boosts : List StartupCPUBoost) :
    (deleteBoosts boosts).AllCalls (OnBehalfOf name) ReadsNamed := by
  induction boosts with
  | nil => trivial
  | cons boost rest ih =>
      apply allCalls_request_bind trivial
      intro response _
      cases response with
      | ok _ => exact ih
      | error err =>
          simp only
          split
          · exact ih
          · trivial

private theorem updateStatus_onBehalf (active skipped : List String) :
    (updateStatus globalBoost active skipped).AllCalls (OnBehalfOf globalBoost.name)
      ReadsNamed := by
  simp only [updateStatus]
  split
  · apply allCalls_request_bind
    · exact rfl
    · intro response _
      cases response with
      | ok _ => trivial
      | error err =>
          simp only
          split
          · trivial
          · split <;> trivial
  · trivial

private theorem reconcile_onBehalf (lib : Library) (order : RangeOrder String) :
    (reconcile lib order globalBoost).AllCalls (OnBehalfOf globalBoost.name) ReadsNamed := by
  simp only [reconcile]
  split
  · trivial
  · apply allCalls_request_bind trivial
    intro response _
    cases response with
    | error err => trivial
    | ok namespaces =>
        apply allCalls_bind (processNamespaces_onBehalf globalBoost _ _ _)
        rintro ⟨active, skipped⟩
        apply allCalls_bind
        · apply allCalls_request_bind trivial
          intro response _
          cases response with
          | error err => trivial
          | ok boosts => exact allCalls_bind (deleteStale_onBehalf _ active boosts) fun _ => trivial
        · intro cleaned
          exact updateStatus_onBehalf globalBoost _ _

private theorem handleDeletion_onBehalf :
    (handleDeletion globalBoost).AllCalls (OnBehalfOf globalBoost.name) ReadsNamed := by
  simp only [handleDeletion]
  split
  · trivial
  · apply allCalls_bind
    · apply allCalls_request_bind trivial
      intro response _
      cases response with
      | error err => trivial
      | ok boosts => exact deleteBoosts_onBehalf _ boosts
    · intro deleted
      cases deleted with
      | error message => trivial
      | ok _ =>
          apply allCalls_request_bind
          · exact rfl
          · intro response _
            cases response <;> trivial

end Calls

theorem reconcileGlobal_onBehalf (lib : Library) (order : RangeOrder String) (name : String) :
    (reconcileGlobal lib order name).AllCalls (OnBehalfOf name) ReadsNamed := by
  apply allCalls_request_bind trivial
  intro response read
  cases response with
  | error err =>
      simp only
      split <;> trivial
  | ok globalBoost =>
      have sameName : GlobalStartupCPUBoost.name globalBoost = name := read
      simp only
      rw [← sameName]
      split
      · exact handleDeletion_onBehalf globalBoost
      · split
        · apply allCalls_request_bind
          · exact rfl
          · intro response _
            cases response <;> trivial
        · exact reconcile_onBehalf globalBoost lib order

/-- One boost has changed, and what is new there is a child of a global boost. -/
structure ChangesBoost (name : String) (key : BoostKey) (before after : Cluster) : Prop where
  namespaces : after.namespaces = before.namespaces
  globals : after.globals = before.globals
  elsewhere : ∀ other, other ≠ key → after.boosts.get other = before.boosts.get other
  written : ∀ boost, after.boosts.get key = some boost →
    before.boosts.get key = some boost ∨
      boost.managedBy = name ∧ boost.name = childBoostName name

section Handle

variable {name : String} {cluster : Cluster}

theorem ChangesBoost.refl (key : BoostKey) : ChangesBoost name key cluster cluster where
  namespaces := rfl
  globals := rfl
  elsewhere _ _ := rfl
  written _ present := .inl present

theorem ChangesBoost.put {boost : StartupCPUBoost} (owned : boost.managedBy = name)
    (childName : boost.name = childBoostName name) :
    ChangesBoost name boost.key cluster { cluster with boosts := cluster.boosts.put boost } where
  namespaces := rfl
  globals := rfl
  elsewhere other different := by rw [KeyedMap.get_put, if_neg different]
  written stored present := by
    rw [KeyedMap.get_put, if_pos rfl] at present
    cases present
    exact .inr ⟨owned, childName⟩

theorem ChangesBoost.remove (key : BoostKey) :
    ChangesBoost name key cluster { cluster with boosts := cluster.boosts.remove key } where
  namespaces := rfl
  globals := rfl
  elsewhere other different := by rw [KeyedMap.get_remove, if_neg different]
  written stored present := by
    rw [KeyedMap.get_remove, if_pos rfl] at present
    cases present

/-- What a call on behalf of a global boost changes: nothing, the boost it names,
or its own global boost. -/
inductive CallChange (lib : Library) (order : RangeOrder String) (name : String)
    (before after : Cluster) (requests : Finset String) : Prop where
  | nothing (same : after = before)
  | boost (key : BoostKey) (changes : ChangesBoost name key before after)
      (requested : requests = boostRequests lib order key before after)
  | ownGlobal (boosts : after.boosts = before.boosts)
      (namespaces : after.namespaces = before.namespaces)
      (others : ∀ other, other ≠ name → after.globals.get other = before.globals.get other)

variable (lib : Library) (order : RangeOrder String) (orders : ListOrders)
  (faults : GlobalCall → Option ApiError)

theorem handle_callChange {call : GlobalCall} (onBehalf : call.OnBehalfOf name)
    (cluster : Cluster) :
    let after := (Cluster.handle orders faults call cluster).2
    CallChange lib order name cluster after (call.requests lib order cluster after) := by
  intro after
  cases accepted : faults call with
  | some err =>
      apply CallChange.nothing
      simp only [after, handle_of_fault orders accepted]
  | none =>
      have answered : after = (Cluster.answer orders call cluster).2 := by
        simp only [after, handle_of_accepted orders accepted]
      cases call with
      | createBoost boost =>
          apply CallChange.boost boost.key _ rfl
          rw [answered]
          cases stored : cluster.boosts.get boost.key with
          | some _ =>
              simp only [Cluster.answer, stored]
              exact .refl _
          | none =>
              simp only [Cluster.answer, stored]
              exact .put onBehalf.1 onBehalf.2
      | updateBoost boost =>
          apply CallChange.boost boost.key _ rfl
          rw [answered]
          cases stored : cluster.boosts.get boost.key with
          | none =>
              simp only [Cluster.answer, stored]
              exact .refl _
          | some _ =>
              simp only [Cluster.answer, stored]
              exact .put onBehalf.1 onBehalf.2
      | deleteBoost site key =>
          apply CallChange.boost key _ rfl
          rw [answered]
          cases stored : cluster.boosts.get key with
          | none =>
              simp only [Cluster.answer, stored]
              exact .refl _
          | some _ =>
              simp only [Cluster.answer, stored]
              exact .remove key
      | updateGlobal sent =>
          have sameName : sent.name = name := onBehalf
          rw [answered]
          cases stored : cluster.globals.get sent.name with
          | none =>
              apply CallChange.nothing
              simp only [Cluster.answer, stored]
          | some found =>
              simp only [Cluster.answer, stored]
              split
              · refine .ownGlobal rfl rfl fun other different => ?_
                rw [KeyedMap.get_remove, if_neg (sameName ▸ different)]
              · refine .ownGlobal rfl rfl fun other different => ?_
                rw [KeyedMap.get_put, if_neg (sameName ▸ different)]
      | updateGlobalStatus sent =>
          have sameName : sent.name = name := onBehalf
          rw [answered]
          cases stored : cluster.globals.get sent.name with
          | none =>
              apply CallChange.nothing
              simp only [Cluster.answer, stored]
          | some found =>
              have foundName : found.name = name := (KeyedMap.key_of_get stored).trans sameName
              simp only [Cluster.answer, stored]
              refine .ownGlobal rfl rfl fun other different => ?_
              rw [KeyedMap.get_put, if_neg (foundName ▸ different)]
      | getGlobal | listNamespaces | listBoosts | listManagedBoosts | getBoost =>
          apply CallChange.nothing
          exact handle_of_not_isWrite orders faults _ cluster id

end Handle

section Others

variable {lib : Library} {order : RangeOrder String} {name : String}

theorem Quiescent.of_same {globalBoost : GlobalStartupCPUBoost} {before after : Cluster}
    (quiescent : Quiescent globalBoost before) (boosts : after.boosts = before.boosts)
    (namespaces : after.namespaces = before.namespaces) : Quiescent globalBoost after := by
  apply quiescent.congr
  · intro ns
    simp only [Desired, namespaces]
  · intro ns _ boostName
    rw [boosts]
  · intro key child present managed
    exact ⟨child, boosts ▸ present, managed⟩

theorem CallChange.childrenNamed {before after : Cluster} {requests : Finset String}
    (change : CallChange lib order name before after requests)
    (childrenNamed : ChildrenNamed before) : ChildrenNamed after := by
  intro key boost owner present managed
  cases change with
  | nothing same => exact childrenNamed key boost owner (same ▸ present) managed
  | ownGlobal boosts _ _ => exact childrenNamed key boost owner (boosts ▸ present) managed
  | boost changed changes _ =>
      by_cases here : key = changed
      · subst here
        obtain stored | ⟨owned, childName⟩ := changes.written boost present
        · exact childrenNamed key boost owner stored managed
        · rw [childName, ← owned, managed.managedBy_eq]
      · exact childrenNamed key boost owner (changes.elsewhere key here ▸ present) managed

/-- A call on behalf of one global boost keeps every other one covered. -/
theorem CallChange.covered {before after : QueuedCluster} {requests : Finset String}
    (change : CallChange lib order name before.cluster after.cluster requests)
    (queue : after.queue = before.queue ∪ requests) {other : String} (different : other ≠ name)
    (covered : Covered lib other before) : Covered lib other after := by
  have grows : before.queue ⊆ after.queue := queue ▸ Finset.subset_union_left
  cases change with
  | nothing same =>
      apply covered.step grows (by rw [same])
      intro globalBoost _ _ _ _ quiescent
      rw [same]
      exact quiescent
  | ownGlobal boosts namespaces others =>
      apply covered.step grows (others other different)
      intro globalBoost _ _ _ _ quiescent
      exact quiescent.of_same boosts namespaces
  | boost key changes requested =>
      apply covered.step grows (by rw [changes.globals])
      intro globalBoost sameName registered selector unqueued quiescent
      subst sameName
      apply quiescent.of_not_boostRequests registered selector changes.namespaces
        changes.elsewhere
      · intro child present managed
        obtain stored | ⟨owned, -⟩ := changes.written child present
        · exact ⟨child, stored, managed⟩
        · exact absurd (managed.managedBy_eq.symm.trans owned) different
      · intro asked
        rw [queue, requested] at unqueued
        exact unqueued (Finset.mem_union_right _ asked)

variable (lib) in
/-- All global boosts but one are covered, and children have the names of
children. -/
structure OthersCovered (name : String) (state : QueuedCluster) : Prop where
  childrenNamed : ChildrenNamed state.cluster
  covered : ∀ other, other ≠ name → Covered lib other state

variable (listOrder : RangeOrder String) (orders : ListOrders)
  (faults : GlobalCall → Option ApiError)

theorem OthersCovered.reconcileGlobal {state : QueuedCluster}
    (others : OthersCovered lib name state) (order : RangeOrder String) :
    OthersCovered lib name ((reconcileGlobal lib order name).run
      (QueuedCluster.handle lib listOrder orders faults) state).2 := by
  apply run_preserves _ _ (reconcileGlobal_onBehalf lib order name) others
  · intro call state _
    exact handle_readsNamed orders faults call state.cluster
  · intro call state onBehalf others
    have change := handle_callChange lib listOrder orders faults onBehalf state.cluster
    constructor
    · exact change.childrenNamed others.childrenNamed
    · intro other different
      exact change.covered rfl different (others.covered other different)

variable (lib) in
/-- The queue is only written: the cluster goes through the same states. -/
theorem run_queuedCluster {α : Type} (program : GlobalProgram α) (state : QueuedCluster) :
    let queued := program.run (QueuedCluster.handle lib listOrder orders faults) state
    let plain := program.run (Cluster.handle orders faults) state.cluster
    queued.1 = plain.1 ∧ queued.2.cluster = plain.2 :=
  run_project QueuedCluster.cluster (fun _ _ => ⟨rfl, rfl⟩) program state

variable (lib) in
theorem QueuedCluster.reconcile_cluster (order : RangeOrder String) (name : String)
    (state : QueuedCluster) :
    (state.reconcile lib listOrder orders order faults name).cluster =
      ((reconcileGlobal lib order name).run (Cluster.handle orders faults) state.cluster).2 := by
  have sameCluster := (run_queuedCluster lib listOrder orders faults
    (KubeStartupCPUBoost.reconcileGlobal lib order name)
    ⟨state.cluster, state.queue.erase name⟩).2
  unfold QueuedCluster.reconcile
  dsimp only
  split <;> exact sameCluster

end Others

section Own

variable (lib : Library) (orders : ListOrders) (order : RangeOrder String) {cluster : Cluster}
  {globalBoost : GlobalStartupCPUBoost}

theorem handleDeletion_finalizer
    (registered : cluster.globals.get globalBoost.name = some globalBoost)
    (deleting : globalBoost.deletionTimestamp ≠ none) {left : GlobalStartupCPUBoost}
    (remaining : ((handleDeletion globalBoost).run (Cluster.handle orders noFaults)
      cluster).2.globals.get globalBoost.name = some left) :
    left.deletionTimestamp ≠ none ∧ globalBoostFinalizer ∉ left.finalizers := by
  by_cases finalizer : globalBoostFinalizer ∈ globalBoost.finalizers
  · have deleted := deleteAllChildren_noFaults orders globalBoost.name cluster
    have globals := run_globals orders noFaults (calls_deleteAllChildren globalBoost.name) cluster
    have stored : (((deleteAllChildren globalBoost.name).run (Cluster.handle orders noFaults)
        cluster).2).globals.get globalBoost.name = some globalBoost := by
      rw [globals]
      exact registered
    rw [handleDeletion, if_neg (not_not_intro finalizer), run_bind, deleted] at remaining
    simp only [run_bind, Cluster.run_sendUpdateGlobal, noFaults] at remaining stored
    rw [stored] at remaining
    by_cases last : (globalBoost.finalizers.filter fun name => name ≠ globalBoostFinalizer) = []
    · simp only [ne_eq, deleting, not_false_eq_true, last, and_self, if_true, run_pure,
        KeyedMap.get_remove] at remaining
      cases remaining
    · simp only [ne_eq, last, and_false, if_false, run_pure, KeyedMap.get_put, if_true,
        Option.some.injEq] at remaining
      subst remaining
      refine ⟨deleting, fun present => ?_⟩
      simp at present
  · rw [handleDeletion, if_pos finalizer] at remaining
    have same : left = globalBoost := Option.some.inj (remaining.symm.trans registered)
    rw [same]
    exact ⟨deleting, finalizer⟩

section Live

variable (registered : cluster.globals.get globalBoost.name = some globalBoost)
  (finalizer : globalBoostFinalizer ∈ globalBoost.finalizers)
  (live : globalBoost.deletionTimestamp = none)
  (selector : globalBoost.spec.namespaceSelector.WellFormed lib.validLabelKey
    lib.validLabelValue)

include registered finalizer live selector

/-- Without failed calls a live global boost is reconciled to the end. -/
theorem reconcileGlobal_live :
    ∃ passed active skipped, PassEffect noFaults globalBoost cluster passed active skipped ∧
      passed.globals.get globalBoost.name = some globalBoost ∧
      (reconcileGlobal lib order globalBoost.name).run (Cluster.handle orders noFaults) cluster =
        (updateStatus globalBoost (sortStrings active) (sortStrings skipped)).run
          (Cluster.handle orders noFaults) passed := by
  have reaches : ReachesNamespaces noFaults globalBoost cluster lib :=
    ⟨rfl, registered, live, finalizer, selector, rfl⟩
  obtain ⟨passed, active, skipped, effect, result⟩ := reaches.passes lib orders order
  refine ⟨passed, active, skipped, effect, ?_, result⟩
  rw [effect.globals]
  exact registered

theorem reconcileGlobal_live_result :
    ((reconcileGlobal lib order globalBoost.name).run (Cluster.handle orders noFaults)
      cluster).1 = .ok {} := by
  obtain ⟨passed, active, skipped, -, stored, result⟩ :=
    reconcileGlobal_live lib orders order registered finalizer live selector
  rw [result, updateStatus_run]
  split
  · rfl
  · simp only [noFaults, stored]

/-- It leaves the global boost, with another status, with nothing to do. -/
theorem reconcileGlobal_live_nothingToDo (named : globalBoost.name ≠ "")
    (childrenNamed : ChildrenNamed cluster) :
    let after := ((reconcileGlobal lib order globalBoost.name).run
      (Cluster.handle orders noFaults) cluster).2
    ∃ status, after.globals.get globalBoost.name = some { globalBoost with status } ∧
      NothingToDo { globalBoost with status } after := by
  obtain ⟨passed, active, skipped, effect, stored, result⟩ :=
    reconcileGlobal_live lib orders order registered finalizer live selector
  obtain ⟨boosts, namespaces, written⟩ := updateStatus_noFaults orders globalBoost
    (sortStrings active) (sortStrings skipped) stored
  rw [result]
  refine ⟨_, written, fun _ => ⟨finalizer, ?_⟩, fun deleting => absurd live deleting⟩
  apply effect.quiescent childrenNamed named boosts
  rw [namespaces, effect.namespaces]

end Live

/-- A reconciliation without failed calls asks for another one or leaves its global
boost with nothing to do. -/
theorem reconcileGlobal_own {name : String} (named : name ≠ "")
    (childrenNamed : ChildrenNamed cluster) :
    let outcome := (reconcileGlobal lib order name).run (Cluster.handle orders noFaults) cluster
    ∀ left, outcome.2.globals.get name = some left →
      left.spec.namespaceSelector.WellFormed lib.validLabelKey lib.validLabelValue →
        Retried outcome.1 ∨ NothingToDo left outcome.2 := by
  intro outcome left remaining selector
  cases registered : cluster.globals.get name with
  | none =>
      have absent := run_unregistered orders noFaults (reconcileGlobal lib order name) registered
      rw [absent] at remaining
      cases remaining
  | some globalBoost =>
      have sameName : globalBoost.name = name := KeyedMap.key_of_get registered
      subst sameName
      by_cases live : globalBoost.deletionTimestamp = none
      · by_cases finalizer : globalBoostFinalizer ∈ globalBoost.finalizers
        · by_cases parses : globalBoost.spec.namespaceSelector.WellFormed lib.validLabelKey
              lib.validLabelValue
          · obtain ⟨status, written, nothing⟩ := reconcileGlobal_live_nothingToDo lib orders order
              registered finalizer live parses named childrenNamed
            right
            rw [Option.some.inj (remaining.symm.trans written)]
            exact nothing
          · -- The selector is reported as an error.
            obtain ⟨message, invalid⟩ := lib.labelSelectorAsSelector_error _ parses
            left
            rw [show outcome = _ from
              reconcileGlobal_run lib orders order rfl registered finalizer live]
            simp only [reconcile, invalid]
            trivial
        · left
          simp only [outcome, reconcileGlobal, run_bind, Cluster.run_sendGetGlobal, noFaults,
            registered, live, ne_eq, not_true_eq_false, if_false, finalizer, not_false_eq_true,
            if_true, Cluster.run_sendUpdateGlobal, false_and]
          trivial
      · right
        have deleted : outcome =
            (handleDeletion globalBoost).run (Cluster.handle orders noFaults) cluster := by
          simp only [outcome, reconcileGlobal, run_bind, Cluster.run_sendGetGlobal, noFaults,
            registered, ne_eq, live, not_false_eq_true, if_true]
        rw [deleted] at remaining ⊢
        obtain ⟨stillDeleting, noFinalizer⟩ :=
          handleDeletion_finalizer orders registered live remaining
        constructor
        · intro isLive
          exact absurd isLive stillDeleting
        · intro _
          exact noFinalizer

end Own

section Steps

variable {lib : Library}

theorem WatchedStep.childrenNamed {before after : Cluster} {change : WatchedChange}
    (step : WatchedStep before change after) (childrenNamed : ChildrenNamed before) :
    ChildrenNamed after := by
  intro key boost owner present managed
  cases step with
  | createNamespace | updateNamespace | removeNamespace =>
      exact childrenNamed key boost owner present managed
  | createBoost ns new existing absent unlabelled =>
      rw [KeyedMap.get_put] at present
      split at present
      · cases present
        rw [ManagedBy, unlabelled] at managed
        cases managed
      · exact childrenNamed key boost owner present managed
  | updateBoost ns old new existing stored sameOwner =>
      rw [KeyedMap.get_put] at present
      split at present
      · cases present
        have oldManaged : ManagedBy owner old := sameOwner.symm.trans managed
        have sameKey : old.key = boost.key := KeyedMap.key_of_get stored
        rw [← show old.name = boost.name from congrArg Prod.snd sameKey]
        exact childrenNamed boost.key old owner stored oldManaged
      · exact childrenNamed key boost owner present managed
  | deleteBoost ns old existing stored =>
      rw [KeyedMap.get_remove] at present
      split at present
      · cases present
      · exact childrenNamed key boost owner present managed

theorem QueueSound.of_global {cluster : Cluster} {queue : Finset String} {name : String}
    (sound : QueueSound lib ⟨cluster, queue⟩)
    (globals : KeyedMap String GlobalStartupCPUBoost GlobalStartupCPUBoost.name)
    (named : ∀ stored, globals.get name = some stored → name ≠ "")
    (others : ∀ other, other ≠ name → globals.get other = cluster.globals.get other) :
    QueueSound lib ⟨{ cluster with globals }, insert name queue⟩ where
  named other stored present := by
    by_cases here : other = name
    · subst here
      exact named stored present
    · exact sound.named other stored (others other here ▸ present)
  childrenNamed := sound.childrenNamed
  covered other := by
    by_cases here : other = name
    · exact .of_queued (here ▸ Finset.mem_insert_self _ _)
    · apply (sound.covered other).step (Finset.subset_insert _ _) (others other here)
      intro globalBoost _ _ _ _ quiescent
      exact quiescent.of_same rfl rfl

theorem QueueSound.othersCovered {state : QueuedCluster} (sound : QueueSound lib state)
    (name : String) : OthersCovered lib name ⟨state.cluster, state.queue.erase name⟩ where
  childrenNamed := sound.childrenNamed
  covered other different globalBoost registered selector := by
    obtain queued | nothing := sound.covered other globalBoost registered selector
    · exact .inl (Finset.mem_erase.mpr ⟨different, queued⟩)
    · exact .inr nothing

theorem Covered.insert {name other : String} {state : QueuedCluster}
    (covered : Covered lib other state) :
    Covered lib other { state with queue := insert name state.queue } := by
  intro globalBoost registered selector
  exact (covered globalBoost registered selector).imp_left Finset.mem_insert_of_mem

theorem QueueSound.reconcile {state : QueuedCluster} (sound : QueueSound lib state)
    (listOrder : RangeOrder String) (orders : ListOrders) (order : RangeOrder String)
    (faults : GlobalCall → Option ApiError) (name : String)
    (reported : faults = noFaults ∨
      Retried ((reconcileGlobal lib order name).run (Cluster.handle orders faults)
        state.cluster).1) :
    QueueSound lib (state.reconcile lib listOrder orders order faults name) := by
  let outcome := (reconcileGlobal lib order name).run
    (QueuedCluster.handle lib listOrder orders faults) ⟨state.cluster, state.queue.erase name⟩
  obtain ⟨sameResult, sameCluster⟩ := run_queuedCluster lib listOrder orders faults
    (reconcileGlobal lib order name) ⟨state.cluster, state.queue.erase name⟩
  have others : OthersCovered lib name outcome.2 :=
    (sound.othersCovered name).reconcileGlobal listOrder orders faults order
  have named : ∀ other stored, outcome.2.cluster.globals.get other = some stored → other ≠ "" := by
    intro other stored present
    cases before : state.cluster.globals.get other with
    | none =>
        have absent := run_unregistered orders faults (reconcileGlobal lib order name) before
        rw [show outcome.2.cluster = _ from sameCluster, absent] at present
        cases present
    | some old => exact sound.named other old before
  by_cases retried : Retried outcome.1
  · have result : state.reconcile lib listOrder orders order faults name =
        { outcome.2 with queue := Insert.insert name outcome.2.queue } := if_pos retried
    rw [result]
    refine ⟨named, others.childrenNamed, fun other => ?_⟩
    by_cases here : other = name
    · exact .of_queued (here ▸ Finset.mem_insert_self _ _)
    · exact (others.covered other here).insert
  · have result : state.reconcile lib listOrder orders order faults name = outcome.2 :=
      if_neg retried
    have noFault : faults = noFaults := by
      apply reported.resolve_right
      intro plainRetried
      exact retried (sameResult ▸ plainRetried)
    rw [result]
    refine ⟨named, others.childrenNamed, fun other => ?_⟩
    by_cases here : other = name
    · subst here
      intro left remaining selector
      right
      subst noFault
      have remaining' := remaining
      rw [show outcome.2.cluster = _ from sameCluster] at remaining' ⊢
      have own := reconcileGlobal_own lib orders order (named other left remaining)
        sound.childrenNamed left remaining' selector
      exact own.resolve_left fun plainRetried => retried (sameResult ▸ plainRetried)
    · exact others.covered other here

theorem QueueStep.sound {before after : QueuedCluster} (step : QueueStep lib before after)
    (sound : QueueSound lib before) : QueueSound lib after := by
  cases step with
  | watched queue order step =>
      constructor
      · intro name stored present
        exact sound.named name stored (step.globals ▸ present)
      · exact step.childrenNamed sound.childrenNamed
      · intro name
        apply (sound.covered name).step Finset.subset_union_left (by rw [step.globals])
        intro globalBoost sameName registered selector unqueued quiescent
        subst sameName
        have notRequested : globalBoost.name ∉ WatchedChange.requests lib order _ _ :=
          fun requested => unqueued (Finset.mem_union_right _ (List.mem_toFinset.mpr requested))
        exact step.quiescent_of_not_requested registered selector notRequested quiescent
  | writeGlobal cluster queue written named =>
      apply sound.of_global
      · intro _ _
        exact named
      · intro other different
        rw [KeyedMap.get_put, if_neg different]
  | removeGlobal cluster queue name =>
      apply sound.of_global
      · intro stored present
        rw [KeyedMap.get_remove, if_pos rfl] at present
        cases present
      · intro other different
        rw [KeyedMap.get_remove, if_neg different]
  | reconcile _ listOrder orders order faults name queued reported =>
      exact sound.reconcile listOrder orders order faults name reported

end Steps

theorem QueueSound.run {lib : Library} {initial final : QueuedCluster}
    (sound : QueueSound lib initial) (run : Relation.ReflTransGen (QueueStep lib) initial final) :
    QueueSound lib final := by
  induction run with
  | refl => exact sound
  | tail _ step ih => exact step.sound ih

/-- Over every run that starts with all global boosts in the queue, one that has left
it has nothing to do. -/
theorem nothingToDo_of_run {lib : Library} {initial final : QueuedCluster}
    (named : ∀ name stored, initial.cluster.globals.get name = some stored → name ≠ "")
    (childrenNamed : ChildrenNamed initial.cluster)
    (listed : ∀ name stored, initial.cluster.globals.get name = some stored →
      name ∈ initial.queue)
    (run : Relation.ReflTransGen (QueueStep lib) initial final)
    {globalBoost : GlobalStartupCPUBoost}
    (registered : final.cluster.globals.get globalBoost.name = some globalBoost)
    (selector : globalBoost.spec.namespaceSelector.WellFormed lib.validLabelKey
      lib.validLabelValue)
    (unqueued : globalBoost.name ∉ final.queue) : NothingToDo globalBoost final.cluster := by
  have start : QueueSound lib initial :=
    ⟨named, childrenNamed, fun name stored present _ => .inl (listed name stored present)⟩
  have covered := (start.run run).covered globalBoost.name globalBoost registered selector
  exact covered.resolve_left unqueued

section Idle

variable (lib : Library) (orders : ListOrders) (order : RangeOrder String) {cluster : Cluster}
  {globalBoost : GlobalStartupCPUBoost}

/-- Where there is nothing to do, no call is a write. -/
theorem NothingToDo.silent (nothing : NothingToDo globalBoost cluster)
    (registered : cluster.globals.get globalBoost.name = some globalBoost)
    (selector : globalBoost.spec.namespaceSelector.WellFormed lib.validLabelKey
      lib.validLabelValue) :
    ¬ (reconcileGlobal lib order globalBoost.name).Makes (Cluster.handle orders noFaults) IsWrite
      cluster := by
  by_cases live : globalBoost.deletionTimestamp = none
  · obtain ⟨finalizer, quiescent⟩ := nothing.live live
    exact (reconcileGlobal_makes_iff lib orders order globalBoost registered finalizer live
      selector).mpr quiescent
  · rw [reconcileGlobal_makes_iff_of_deleting lib orders order registered live]
    exact nothing.deleting live

theorem NothingToDo.not_retried (nothing : NothingToDo globalBoost cluster)
    (registered : cluster.globals.get globalBoost.name = some globalBoost)
    (selector : globalBoost.spec.namespaceSelector.WellFormed lib.validLabelKey
      lib.validLabelValue) :
    ¬ Retried ((reconcileGlobal lib order globalBoost.name).run (Cluster.handle orders noFaults)
      cluster).1 := by
  by_cases live : globalBoost.deletionTimestamp = none
  · rw [reconcileGlobal_live_result lib orders order registered (nothing.live live).1 live selector]
    exact Bool.false_ne_true
  · have finalizer := nothing.deleting live
    simp only [reconcileGlobal, run_bind, Cluster.run_sendGetGlobal, noFaults, registered, ne_eq,
      live, not_false_eq_true, if_true, handleDeletion, finalizer]
    exact Bool.false_ne_true

/-- A request for a global boost with nothing to do is taken from the queue, and
nothing else happens. -/
theorem NothingToDo.reconcile {state : QueuedCluster}
    (nothing : NothingToDo globalBoost state.cluster) (listOrder : RangeOrder String)
    (registered : state.cluster.globals.get globalBoost.name = some globalBoost)
    (selector : globalBoost.spec.namespaceSelector.WellFormed lib.validLabelKey
      lib.validLabelValue) :
    state.reconcile lib listOrder orders order noFaults globalBoost.name =
      ⟨state.cluster, state.queue.erase globalBoost.name⟩ := by
  let taken : QueuedCluster := ⟨state.cluster, state.queue.erase globalBoost.name⟩
  have silent : ¬ (reconcileGlobal lib order globalBoost.name).Makes
      (QueuedCluster.handle lib listOrder orders noFaults) IsWrite taken := by
    rw [makes_project QueuedCluster.cluster fun _ _ => ⟨rfl, rfl⟩]
    exact nothing.silent lib orders order registered selector
  have keeps : ∀ (call : GlobalCall) (state : QueuedCluster), ¬ call.IsWrite →
      (QueuedCluster.handle lib listOrder orders noFaults call state).2 = state := by
    intro call state reads
    have sameCluster := handle_of_not_isWrite orders noFaults call state.cluster reads
    change QueuedCluster.mk _ (state.queue ∪ _) = state
    rw [requests_of_not_isWrite lib listOrder reads, Finset.union_empty, sameCluster]
  have unchanged := run_state_of_not_makes keeps silent
  have result := (run_queuedCluster lib listOrder orders noFaults
    (reconcileGlobal lib order globalBoost.name) taken).1
  have notRetried := nothing.not_retried lib orders order registered selector
  unfold QueuedCluster.reconcile
  rw [if_neg (fun retried => notRetried (result ▸ retried))]
  exact unchanged

end Idle

/-- The controller starts with every global boost in the queue.  In every state of
every run a global boost that is not in the queue has nothing to do: if it is
live it has the finalizer, its children are exactly the wanted ones and its status
lists them, and if it is being deleted its finalizer is gone. -/
theorem unqueued_global_has_nothing_to_do (lib : Library) {initial final : QueuedCluster}
    (named : ∀ name stored, initial.cluster.globals.get name = some stored → name ≠ "")
    (childrenNamed : ChildrenNamed initial.cluster)
    (listed : ∀ name stored, initial.cluster.globals.get name = some stored →
      name ∈ initial.queue)
    (run : Relation.ReflTransGen (QueueStep lib) initial final)
    {globalBoost : GlobalStartupCPUBoost}
    (registered : final.cluster.globals.get globalBoost.name = some globalBoost)
    (selector : globalBoost.spec.namespaceSelector.WellFormed lib.validLabelKey
      lib.validLabelValue)
    (unqueued : globalBoost.name ∉ final.queue) :
    NothingToDo globalBoost final.cluster ∧
      ∀ orders order, ¬ (reconcileGlobal lib order globalBoost.name).Makes
        (Cluster.handle orders noFaults) IsWrite final.cluster := by
  have nothing :=
    nothingToDo_of_run named childrenNamed listed run registered selector unqueued
  exact ⟨nothing, fun orders order => nothing.silent lib orders order registered selector⟩

namespace Reference

theorem childrenNamed_emptyTeam : ChildrenNamed emptyTeam := by
  intro key boost owner present
  rw [emptyTeam, KeyedMap.get_empty] at present
  cases present

private theorem globals_emptyTeam {name : String} {stored : GlobalStartupCPUBoost}
    (present : emptyTeam.globals.get name = some stored) : name = "g" :=
  (KeyedMap.get_put_empty_eq_some.mp present).1

noncomputable def queuedTeam : QueuedCluster := ⟨emptyTeam, {globalBoost.name}⟩

noncomputable def onceReconciled : QueuedCluster :=
  queuedTeam.reconcile referenceLibrary .arbitrary anyOrders .arbitrary noFaults globalBoost.name

private theorem run_onceReconciled :
    Relation.ReflTransGen (QueueStep referenceLibrary) queuedTeam onceReconciled :=
  .single (.reconcile queuedTeam .arbitrary anyOrders .arbitrary noFaults globalBoost.name
    (Finset.mem_singleton_self _) (.inl rfl))

private theorem nothingToDo_onceReconciled :
    ∃ left, left.name = globalBoost.name ∧ left.spec = globalBoost.spec ∧
      onceReconciled.cluster.globals.get globalBoost.name = some left ∧
      NothingToDo left onceReconciled.cluster := by
  have registered : emptyTeam.globals.get globalBoost.name = some globalBoost := by
    decide +kernel
  obtain ⟨status, written, nothing⟩ := reconcileGlobal_live_nothingToDo referenceLibrary anyOrders
    .arbitrary registered (List.mem_singleton_self _) rfl wellFormed_everything (by decide)
    childrenNamed_emptyTeam
  rw [onceReconciled, QueuedCluster.reconcile_cluster]
  exact ⟨{ globalBoost with status }, rfl, rfl, written, nothing⟩

/-- From a cluster in which the child of `team` is missing, a run leads to a state in
which `g` is not in the queue. -/
theorem unqueued_global_has_nothing_to_do_team :
    ∃ final left, Relation.ReflTransGen (QueueStep referenceLibrary) queuedTeam final ∧
      final.cluster.globals.get globalBoost.name = some left ∧
      globalBoost.name ∉ final.queue ∧ NothingToDo left final.cluster := by
  obtain ⟨left, sameName, sameSpec, registered, nothing⟩ := nothingToDo_onceReconciled
  have selector : left.spec.namespaceSelector.WellFormed referenceLibrary.validLabelKey
      referenceLibrary.validLabelValue := by
    rw [sameSpec]
    exact wellFormed_everything
  have conclude (final : QueuedCluster)
      (run : Relation.ReflTransGen (QueueStep referenceLibrary) queuedTeam final)
      (stored : final.cluster.globals.get left.name = some left)
      (unqueued : left.name ∉ final.queue) : NothingToDo left final.cluster :=
    (unqueued_global_has_nothing_to_do referenceLibrary
      (fun name stored present => by rw [globals_emptyTeam present]; decide)
      childrenNamed_emptyTeam
      (fun name stored present => by
        rw [globals_emptyTeam present]
        exact Finset.mem_singleton_self _)
      run stored selector unqueued).1
  rw [← sameName] at registered ⊢
  by_cases queued : left.name ∈ onceReconciled.queue
  · have dropped := nothing.reconcile referenceLibrary anyOrders .arbitrary .arbitrary registered
      selector
    have run := run_onceReconciled.tail (.reconcile onceReconciled .arbitrary anyOrders .arbitrary
      noFaults left.name queued (.inl rfl))
    rw [dropped] at run
    exact ⟨_, left, run, registered, Finset.notMem_erase _ _,
      conclude _ run registered (Finset.notMem_erase _ _)⟩
  · exact ⟨_, left, run_onceReconciled, registered, queued,
      conclude _ run_onceReconciled registered queued⟩

end Reference

end KubeStartupCPUBoost
