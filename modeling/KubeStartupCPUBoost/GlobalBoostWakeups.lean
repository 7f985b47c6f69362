import KubeStartupCPUBoost.GlobalBoostExclusion

/-!
# Waking up global boosts

A change of a namespace or of a boost wakes up the global boosts whose selector
matches the labels of the namespace.  The reconciliation reads more than that:
the boosts in all matching namespaces, its children everywhere and its status.
This file shows that the label match is enough: a global boost that had nothing to
do before the change and has something to do after it is woken up.
-/

namespace KubeStartupCPUBoost

open GlobalCall CallProgram

/-- The loop of both map functions: requests for the listed global boosts whose
selector matches. -/
def matchingRequests (lib : Library) (globalBoosts : List GlobalStartupCPUBoost)
    (labels : StringMap) : List String :=
  globalBoosts.filterMap fun globalBoost =>
    match lib.labelSelectorAsSelector globalBoost.spec.namespaceSelector with
    | .error _ => none
    | .ok selector => if selector labels then some globalBoost.name else none

def mapNamespaceToGlobalBoosts (lib : Library)
    (listed : Except ApiError (List GlobalStartupCPUBoost)) (ns : Namespace) : List String :=
  match listed with
  | .error _ => []
  | .ok globalBoosts => matchingRequests lib globalBoosts ns.labels

def mapBoostToGlobalBoosts (lib : Library) (getNamespace : String → Except ApiError Namespace)
    (listed : Except ApiError (List GlobalStartupCPUBoost)) (boost : StartupCPUBoost) :
    List String :=
  match getNamespace boost.ns with
  | .error _ => []
  | .ok ns =>
      match listed with
      | .error _ => []
      | .ok globalBoosts => matchingRequests lib globalBoosts ns.labels

/-- An event of a watch, with the objects it carries. -/
inductive WatchEvent (α : Type) where
  | created (new : α)
  | updated (old new : α)
  | deleted (old : α)

def WatchEvent.objects {α : Type} : WatchEvent α → List α
  | created new => [new]
  | updated old new => [old, new]
  | deleted old => [old]

/-- `EnqueueRequestsFromMapFunc`: every object of the event is mapped. -/
def enqueueRequestsFromMapFunc {α : Type} (map : α → List String) (event : WatchEvent α) :
    List String :=
  event.objects.flatMap map

inductive WatchedChange where
  | ofNamespace (event : WatchEvent Namespace)
  | ofBoost (event : WatchEvent StartupCPUBoost)

def Cluster.getNamespace (cluster : Cluster) (name : String) : Except ApiError Namespace :=
  match cluster.namespaces.get name with
  | none => .error ⟨.notFound, "not found"⟩
  | some ns => .ok ns

/-- The requests for a change, with the map functions' calls answered from a
cluster. -/
def WatchedChange.requests (lib : Library) (order : RangeOrder String) (cluster : Cluster) :
    WatchedChange → List String
  | ofNamespace event =>
      enqueueRequestsFromMapFunc
        (mapNamespaceToGlobalBoosts lib (.ok (cluster.globals.values order))) event
  | ofBoost event =>
      enqueueRequestsFromMapFunc
        (mapBoostToGlobalBoosts lib cluster.getNamespace (.ok (cluster.globals.values order))) event

/-- A change of one namespace, or of one boost in an existing namespace: users
create boosts without the label, and no change takes the label or gives it. -/
inductive WatchedStep : Cluster → WatchedChange → Cluster → Prop where
  | createNamespace (cluster : Cluster) (new : Namespace)
      (absent : cluster.namespaces.get new.name = none) :
      WatchedStep cluster (.ofNamespace (.created new))
        { cluster with namespaces := cluster.namespaces.put new }
  | updateNamespace (cluster : Cluster) (old new : Namespace)
      (stored : cluster.namespaces.get new.name = some old) :
      WatchedStep cluster (.ofNamespace (.updated old new))
        { cluster with namespaces := cluster.namespaces.put new }
  | removeNamespace (cluster : Cluster) (old : Namespace)
      (stored : cluster.namespaces.get old.name = some old)
      (empty : ∀ name, cluster.boosts.get (old.name, name) = none) :
      WatchedStep cluster (.ofNamespace (.deleted old))
        { cluster with namespaces := cluster.namespaces.remove old.name }
  | createBoost (cluster : Cluster) (ns : Namespace) (new : StartupCPUBoost)
      (existing : cluster.namespaces.get new.ns = some ns)
      (absent : cluster.boosts.get new.key = none)
      (unlabelled : new.labels.lookup managedByGlobalBoostLabel = none) :
      WatchedStep cluster (.ofBoost (.created new))
        { cluster with boosts := cluster.boosts.put new }
  | updateBoost (cluster : Cluster) (ns : Namespace) (old new : StartupCPUBoost)
      (existing : cluster.namespaces.get new.ns = some ns)
      (stored : cluster.boosts.get new.key = some old)
      (sameOwner : new.labels.lookup managedByGlobalBoostLabel =
        old.labels.lookup managedByGlobalBoostLabel) :
      WatchedStep cluster (.ofBoost (.updated old new))
        { cluster with boosts := cluster.boosts.put new }
  | deleteBoost (cluster : Cluster) (ns : Namespace) (old : StartupCPUBoost)
      (existing : cluster.namespaces.get old.ns = some ns)
      (stored : cluster.boosts.get old.key = some old) :
      WatchedStep cluster (.ofBoost (.deleted old))
        { cluster with boosts := cluster.boosts.remove old.key }

theorem WatchedStep.globals {before after : Cluster} {change : WatchedChange}
    (step : WatchedStep before change after) : after.globals = before.globals := by
  cases step <;> rfl

section Requests

variable {lib : Library} {order : RangeOrder String} {cluster : Cluster}
  {globalBoost : GlobalStartupCPUBoost}
  (registered : cluster.globals.get globalBoost.name = some globalBoost)
  (selector : globalBoost.spec.namespaceSelector.WellFormed lib.validLabelKey lib.validLabelValue)

include selector in
theorem mem_matchingRequests {globalBoosts : List GlobalStartupCPUBoost}
    (listed : globalBoost ∈ globalBoosts) {labels : StringMap}
    (selects : globalBoost.spec.namespaceSelector.selects labels = true) :
    globalBoost.name ∈ matchingRequests lib globalBoosts labels := by
  unfold matchingRequests
  rw [List.mem_filterMap]
  refine ⟨globalBoost, listed, ?_⟩
  simp only [lib.labelSelectorAsSelector_ok _ selector, selects, if_true]

include registered selector

/-- Where a global boost is not requested, its selector does not match the
namespaces of the event. -/
theorem not_selects_of_namespace {event : WatchEvent Namespace}
    (notRequested : globalBoost.name ∉ (WatchedChange.ofNamespace event).requests lib order cluster)
    {ns : Namespace} (carried : ns ∈ event.objects) :
    globalBoost.spec.namespaceSelector.selects ns.labels ≠ true := by
  intro selects
  apply notRequested
  simp only [WatchedChange.requests, enqueueRequestsFromMapFunc, List.mem_flatMap]
  exact ⟨ns, carried,
    mem_matchingRequests selector (KeyedMap.mem_values.mpr registered) selects⟩

theorem not_selects_of_boost {event : WatchEvent StartupCPUBoost}
    (notRequested : globalBoost.name ∉ (WatchedChange.ofBoost event).requests lib order cluster)
    {boost : StartupCPUBoost} (carried : boost ∈ event.objects) {ns : Namespace}
    (existing : cluster.namespaces.get boost.ns = some ns) :
    globalBoost.spec.namespaceSelector.selects ns.labels ≠ true := by
  intro selects
  apply notRequested
  simp only [WatchedChange.requests, enqueueRequestsFromMapFunc, List.mem_flatMap]
  refine ⟨boost, carried, ?_⟩
  simp only [mapBoostToGlobalBoosts, Cluster.getNamespace, existing]
  exact mem_matchingRequests selector (KeyedMap.mem_values.mpr registered) selects

end Requests

section Reads

variable {globalBoost : GlobalStartupCPUBoost} {before after : Cluster}

theorem NamespaceSettled.congr {ns : String} (settled : NamespaceSettled globalBoost ns before)
    (same : SameBoostsIn ns before after) : NamespaceSettled globalBoost ns after := by
  constructor
  · rw [same.allManaged_iff, same]
    exact settled.child
  · rw [same.allManaged_iff, same]
    exact settled.noChild

/-- A reconciliation that has nothing to do still has nothing to do when the
matching namespaces and the boosts in them are the same, and no child is added
elsewhere. -/
theorem Quiescent.congr (quiescent : Quiescent globalBoost before)
    (desired : ∀ ns, Desired globalBoost after ns ↔ Desired globalBoost before ns)
    (boosts : ∀ ns, Desired globalBoost before ns → SameBoostsIn ns before after)
    (children : ∀ key child, after.boosts.get key = some child →
      ManagedBy globalBoost.name child →
        ∃ old, before.boosts.get key = some old ∧ ManagedBy globalBoost.name old) :
    Quiescent globalBoost after := by
  obtain ⟨settled, noStale, active, skipped, activeLists, skippedLists, status⟩ := quiescent
  refine ⟨?_, ?_, active, skipped, ?_, ?_, status⟩
  · intro ns matched
    have matchedBefore := (desired ns).mp matched
    exact (settled ns matchedBefore).congr (boosts ns matchedBefore)
  · intro key child present managed
    obtain ⟨old, stored, oldManaged⟩ := children key child present managed
    obtain ⟨matchedBefore, allManaged⟩ := noStale key old stored oldManaged
    exact ⟨(desired key.1).mpr matchedBefore,
      (boosts key.1 matchedBefore).allManaged_iff.mpr allManaged⟩
  · refine ⟨activeLists.sorted, ?_⟩
    intro ns
    rw [activeLists.mem_iff, desired]
    apply and_congr_right
    intro matched
    exact (boosts ns matched).allManaged_iff.symm
  · refine ⟨skippedLists.sorted, ?_⟩
    intro ns
    rw [skippedLists.mem_iff, desired]
    apply and_congr_right
    intro matched
    exact not_congr (boosts ns matched).allManaged_iff.symm

/-- A change of a namespace that does not match, neither before nor after. -/
theorem Quiescent.of_namespace (quiescent : Quiescent globalBoost before) (name : String)
    (sameBoosts : after.boosts = before.boosts)
    (sameElsewhere : ∀ ns, ns ≠ name → after.namespaces.get ns = before.namespaces.get ns)
    (oldUnselected : ∀ old, before.namespaces.get name = some old →
      globalBoost.spec.namespaceSelector.selects old.labels ≠ true)
    (newUnselected : ∀ new, after.namespaces.get name = some new →
      globalBoost.spec.namespaceSelector.selects new.labels ≠ true) :
    Quiescent globalBoost after := by
  apply quiescent.congr
  · intro ns
    by_cases changed : ns = name
    · subst changed
      apply iff_of_false
      · rintro ⟨stored, present, selected, -⟩
        exact newUnselected stored present selected
      · rintro ⟨stored, present, selected, -⟩
        exact oldUnselected stored present selected
    · simp only [Desired, sameElsewhere ns changed]
  · intro ns _ name
    rw [sameBoosts]
  · intro key child present managed
    rw [sameBoosts] at present
    exact ⟨child, present, managed⟩

theorem Quiescent.putNamespace (quiescent : Quiescent globalBoost before) {new : Namespace}
    (oldUnselected : ∀ old, before.namespaces.get new.name = some old →
      globalBoost.spec.namespaceSelector.selects old.labels ≠ true)
    (newUnselected : globalBoost.spec.namespaceSelector.selects new.labels ≠ true) :
    Quiescent globalBoost { before with namespaces := before.namespaces.put new } := by
  apply quiescent.of_namespace new.name
  · rfl
  · intro ns other
    rw [KeyedMap.get_put, if_neg other]
  · exact oldUnselected
  · intro stored present
    rw [KeyedMap.get_put, if_pos rfl] at present
    cases present
    exact newUnselected

/-- A change of a boost in a namespace that does not match: a child that is
there after it was there before. -/
theorem Quiescent.of_boost (quiescent : Quiescent globalBoost before) {ns : Namespace}
    (key : BoostKey) (sameNamespaces : after.namespaces = before.namespaces)
    (existing : before.namespaces.get key.1 = some ns)
    (unselected : globalBoost.spec.namespaceSelector.selects ns.labels ≠ true)
    (sameElsewhere : ∀ other, other ≠ key → after.boosts.get other = before.boosts.get other)
    (children : ∀ child, after.boosts.get key = some child → ManagedBy globalBoost.name child →
      ∃ old, before.boosts.get key = some old ∧ ManagedBy globalBoost.name old) :
    Quiescent globalBoost after := by
  apply quiescent.congr
  · intro ns
    simp only [Desired, sameNamespaces]
  · rintro changed ⟨stored, present, selected, -⟩ name
    apply sameElsewhere
    rintro rfl
    rw [existing] at present
    cases present
    exact unselected selected
  · intro other child present managed
    by_cases changed : other = key
    · subst changed
      exact children child present managed
    · rw [sameElsewhere other changed] at present
      exact ⟨child, present, managed⟩

theorem Quiescent.putBoost (quiescent : Quiescent globalBoost before) {ns : Namespace}
    {new : StartupCPUBoost} (existing : before.namespaces.get new.ns = some ns)
    (unselected : globalBoost.spec.namespaceSelector.selects ns.labels ≠ true)
    (child : ManagedBy globalBoost.name new →
      ∃ old, before.boosts.get new.key = some old ∧ ManagedBy globalBoost.name old) :
    Quiescent globalBoost { before with boosts := before.boosts.put new } := by
  apply quiescent.of_boost new.key
  · rfl
  · exact existing
  · exact unselected
  · intro other different
    rw [KeyedMap.get_put, if_neg different]
  · intro stored present managed
    rw [KeyedMap.get_put, if_pos rfl] at present
    cases present
    exact child managed

end Reads

section Wakeup

variable {lib : Library} {order : RangeOrder String} {before after : Cluster}
  {change : WatchedChange} {globalBoost : GlobalStartupCPUBoost}

/-- A global boost that is not woken up has nothing to do, if it had nothing to do
before. -/
theorem WatchedStep.quiescent_of_not_requested (step : WatchedStep before change after)
    (registered : after.globals.get globalBoost.name = some globalBoost)
    (selector : globalBoost.spec.namespaceSelector.WellFormed lib.validLabelKey
      lib.validLabelValue)
    (notRequested : globalBoost.name ∉ change.requests lib order after)
    (quiescent : Quiescent globalBoost before) : Quiescent globalBoost after := by
  have unselectedNamespace {event : WatchEvent Namespace}
      (isNamespace : change = .ofNamespace event) {ns : Namespace} (carried : ns ∈ event.objects) :
      globalBoost.spec.namespaceSelector.selects ns.labels ≠ true := by
    subst isNamespace
    exact not_selects_of_namespace registered selector notRequested carried
  have unselectedBoost {event : WatchEvent StartupCPUBoost} (isBoost : change = .ofBoost event)
      {boost : StartupCPUBoost} (carried : boost ∈ event.objects) {ns : Namespace}
      (existing : after.namespaces.get boost.ns = some ns) :
      globalBoost.spec.namespaceSelector.selects ns.labels ≠ true := by
    subst isBoost
    exact not_selects_of_boost registered selector notRequested carried existing
  cases step with
  | createNamespace new absent =>
      apply quiescent.putNamespace
      · intro old stored
        rw [absent] at stored
        cases stored
      · exact unselectedNamespace rfl (List.mem_singleton_self _)
  | updateNamespace old new stored =>
      apply quiescent.putNamespace
      · intro previous present
        rw [stored] at present
        cases present
        exact unselectedNamespace rfl List.mem_cons_self
      · exact unselectedNamespace rfl (List.mem_cons_of_mem _ (List.mem_singleton_self _))
  | removeNamespace old stored =>
      apply quiescent.of_namespace old.name
      · rfl
      · intro ns other
        rw [KeyedMap.get_remove, if_neg other]
      · intro previous present
        rw [stored] at present
        cases present
        exact unselectedNamespace rfl (List.mem_singleton_self _)
      · intro current present
        rw [KeyedMap.get_remove, if_pos rfl] at present
        cases present
  | createBoost ns new existing absent unlabelled =>
      apply quiescent.putBoost existing
      · exact unselectedBoost rfl (List.mem_singleton_self _) existing
      · intro managed
        rw [ManagedBy, unlabelled] at managed
        cases managed
  | updateBoost ns old new existing stored sameOwner =>
      apply quiescent.putBoost existing
      · exact unselectedBoost rfl (List.mem_cons_of_mem _ (List.mem_singleton_self _)) existing
      · exact fun managed => ⟨old, stored, sameOwner.symm.trans managed⟩
  | deleteBoost ns old existing stored =>
      apply quiescent.of_boost old.key
      · rfl
      · exact existing
      · exact unselectedBoost rfl (List.mem_singleton_self _) existing
      · intro other different
        rw [KeyedMap.get_remove, if_neg different]
      · intro child present
        rw [KeyedMap.get_remove, if_pos rfl] at present
        cases present

private theorem reconcileGlobal_makes_of_unfinalized (orders : ListOrders) {cluster : Cluster}
    (registered : cluster.globals.get globalBoost.name = some globalBoost)
    (live : globalBoost.deletionTimestamp = none)
    (noFinalizer : globalBoostFinalizer ∉ globalBoost.finalizers) :
    (reconcileGlobal lib order globalBoost.name).Makes (Cluster.handle orders noFaults) IsWrite
      cluster := by
  rw [reconcileGlobal, makes_bind, Cluster.run_sendGetGlobal, show noFaults _ = none from rfl,
    registered]
  right
  simp only [live, ne_eq, not_true_eq_false, if_false, noFinalizer, not_false_eq_true, if_true]
  rw [makes_bind]
  exact .inl (.inl trivial)

/-- The reconciliation of a global boost that is being deleted removes its
finalizer, whatever else is in the cluster. -/
theorem reconcileGlobal_makes_iff_of_deleting (lib : Library) (orders : ListOrders)
    (order : RangeOrder String) {cluster : Cluster}
    (registered : cluster.globals.get globalBoost.name = some globalBoost)
    (deleting : globalBoost.deletionTimestamp ≠ none) :
    (reconcileGlobal lib order globalBoost.name).Makes (Cluster.handle orders noFaults) IsWrite
      cluster ↔ globalBoostFinalizer ∈ globalBoost.finalizers := by
  rw [reconcileGlobal, makes_bind, Cluster.run_sendGetGlobal, show noFaults _ = none from rfl,
    registered]
  simp only [deleting, ne_eq, not_false_eq_true, if_true]
  constructor
  · rintro (written | written)
    · exact absurd ((makes_request _ _ _ _).mp written) id
    · by_contra noFinalizer
      rw [handleDeletion, if_pos noFinalizer] at written
      exact written
  · intro finalizer
    right
    rw [handleDeletion, if_neg (not_not_intro finalizer), makes_bind]
    right
    rw [deleteAllChildren_noFaults]
    exact (makes_bind _ _ _ _ _).mpr (.inl (.inl trivial))

/-- A global boost that had nothing to do before a change and has something to do
after it is among the requests for the change. -/
theorem no_missed_wakeup (lib : Library) (orders orders' : ListOrders)
    (order order' listOrder : RangeOrder String) {before after : Cluster} {change : WatchedChange}
    (step : WatchedStep before change after) {globalBoost : GlobalStartupCPUBoost}
    (registered : before.globals.get globalBoost.name = some globalBoost)
    (selector : globalBoost.spec.namespaceSelector.WellFormed lib.validLabelKey
      lib.validLabelValue)
    (quiet : ¬ (reconcileGlobal lib order globalBoost.name).Makes
      (Cluster.handle orders noFaults) IsWrite before)
    (writes : (reconcileGlobal lib order' globalBoost.name).Makes
      (Cluster.handle orders' noFaults) IsWrite after) :
    globalBoost.name ∈ change.requests lib listOrder after := by
  have stillRegistered : after.globals.get globalBoost.name = some globalBoost := by
    rw [step.globals]
    exact registered
  by_cases live : globalBoost.deletionTimestamp = none
  · by_contra notRequested
    have finalizer : globalBoostFinalizer ∈ globalBoost.finalizers := by
      by_contra noFinalizer
      exact quiet (reconcileGlobal_makes_of_unfinalized orders registered live noFinalizer)
    have quiescent := (reconcileGlobal_makes_iff lib orders order globalBoost registered
      finalizer live selector).mp quiet
    have stillQuiescent :=
      step.quiescent_of_not_requested stillRegistered selector notRequested quiescent
    exact (reconcileGlobal_makes_iff lib orders' order' globalBoost stillRegistered finalizer live
      selector).mpr stillQuiescent writes
  · -- The step neither adds nor removes a finalizer.
    rw [reconcileGlobal_makes_iff_of_deleting lib orders order registered live] at quiet
    rw [reconcileGlobal_makes_iff_of_deleting lib orders' order' stillRegistered live] at writes
    exact absurd writes quiet

end Wakeup

namespace Reference

/-- The global boost `g` with the status of a cluster without namespaces. -/
def idleGlobalBoost : GlobalStartupCPUBoost :=
  { globalBoost with status := computedStatus globalBoost [] [] }

def noNamespaces : Cluster where
  namespaces := KeyedMap.empty
  boosts := KeyedMap.empty
  globals := KeyedMap.empty.put idleGlobalBoost

def teamCreated : Cluster :=
  { noNamespaces with namespaces := noNamespaces.namespaces.put team }

private theorem quiescent_noNamespaces : Quiescent idleGlobalBoost noNamespaces := by
  have noneDesired (ns : String) : ¬ Desired idleGlobalBoost noNamespaces ns := by
    rintro ⟨stored, present, -⟩
    rw [noNamespaces, KeyedMap.get_empty] at present
    cases present
  constructor
  · intro ns matched
    exact absurd matched (noneDesired ns)
  · intro key boost stored
    rw [noNamespaces, KeyedMap.get_empty] at stored
    cases stored
  · refine ⟨[], [], ⟨.nil, ?_⟩, ⟨.nil, ?_⟩, computedStatus_idem globalBoost [] []⟩
    · intro ns
      exact iff_of_false List.not_mem_nil fun listed => noneDesired ns listed.1
    · intro ns
      exact iff_of_false List.not_mem_nil fun listed => noneDesired ns listed.1

private theorem not_quiescent_teamCreated : ¬ Quiescent idleGlobalBoost teamCreated := by
  intro quiescent
  have noBoost (key : BoostKey) : teamCreated.boosts.get key = none := KeyedMap.get_empty key
  have wanted : Desired idleGlobalBoost teamCreated "team" :=
    ⟨team, by decide +kernel, by decide +kernel, rfl⟩
  have allManaged : AllManaged idleGlobalBoost.name "team" teamCreated := by
    intro name boost stored
    rw [noBoost] at stored
    cases stored
  obtain ⟨child, present, -⟩ := (quiescent.settled _ wanted).child allManaged
  rw [noBoost] at present
  cases present

/-- The namespace `team` is created, and `g` is woken up. -/
theorem no_missed_wakeup_team :
    idleGlobalBoost.name ∈ (WatchedChange.ofNamespace (.created team)).requests referenceLibrary
      .arbitrary teamCreated := by
  have registered : noNamespaces.globals.get idleGlobalBoost.name = some idleGlobalBoost := by
    decide +kernel
  have created : WatchedStep noNamespaces (.ofNamespace (.created team)) teamCreated :=
    .createNamespace noNamespaces team (by decide +kernel)
  apply no_missed_wakeup referenceLibrary anyOrders anyOrders .arbitrary .arbitrary .arbitrary
    created registered wellFormed_everything
  · rw [reconcileGlobal_makes_iff referenceLibrary anyOrders .arbitrary idleGlobalBoost registered
      (List.mem_singleton_self _) rfl wellFormed_everything]
    exact quiescent_noNamespaces
  · by_contra silent
    have stillRegistered : teamCreated.globals.get idleGlobalBoost.name = some idleGlobalBoost :=
      registered
    rw [reconcileGlobal_makes_iff referenceLibrary anyOrders .arbitrary idleGlobalBoost
      stillRegistered (List.mem_singleton_self _) rfl wellFormed_everything] at silent
    exact not_quiescent_teamCreated silent

end Reference

end KubeStartupCPUBoost
