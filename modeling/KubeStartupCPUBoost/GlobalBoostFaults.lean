import KubeStartupCPUBoost.GlobalBoostEffect
import KubeStartupCPUBoost.ReferenceLibrary

/-!
# Failed calls in the reconciliation of a global boost

A namespace whose child could not be listed, read, created or updated is not
counted as active, and the cleanup at the end deletes the children of every
namespace that is not active.  So a failed call in a namespace that should have
a child costs it the child it has.
-/

namespace KubeStartupCPUBoost

open GlobalCall CallProgram

/-- A namespace that should have a child: selected, not terminating, and
without boosts of another owner. -/
structure Wanted (globalBoost : GlobalStartupCPUBoost) (cluster : Cluster) (ns : Namespace) :
    Prop where
  stored : cluster.namespaces.get ns.name = some ns
  selected : globalBoost.spec.namespaceSelector.selects ns.labels = true
  live : ns.deletionTimestamp = none
  onlyManaged : OnlyManaged globalBoost.name ns.name cluster

section Child

variable (lib : Library) (orders : ListOrders) (order : RangeOrder String)
  (faults : GlobalCall → Option ApiError) {globalBoost : GlobalStartupCPUBoost}
  {cluster : Cluster} {ns : Namespace} {name : String}

theorem Wanted.desired (wanted : Wanted globalBoost cluster ns) :
    Desired globalBoost cluster ns.name :=
  ⟨ns, wanted.stored, wanted.selected, wanted.live⟩

/-- A reconciliation that gets as far as the namespaces keeps a wanted child
exactly when the cleanup does not start, or the step for its namespace succeeds,
or its deletion fails. -/
theorem reconcile_child_kept_iff
    (selector : globalBoost.spec.namespaceSelector.WellFormed lib.validLabelKey
      lib.validLabelValue)
    (namespaces : faults (.listNamespaces globalBoost.spec.namespaceSelector) = none)
    (wanted : Wanted globalBoost cluster ns)
    (present : cluster.boosts.get (ns.name, name) ≠ none) :
    ((reconcile lib order globalBoost).run (Cluster.handle orders faults) cluster).2.boosts.get
        (ns.name, name) ≠ none ↔
      faults (.listManagedBoosts globalBoost.name) ≠ none ∨
        StepSucceeds faults globalBoost ns.name cluster ∨
        faults (.deleteBoost .staleChild (ns.name, name)) ≠ none := by
  obtain ⟨after, active, skipped, effect, result⟩ := reconcile_passes cluster lib orders order
    selector namespaces
  rw [result, updateStatus_boosts]
  have activated : Activated faults globalBoost cluster ns.name ↔
      StepSucceeds faults globalBoost ns.name cluster :=
    (and_iff_right wanted.desired).trans (and_iff_right wanted.onlyManaged.allManaged)
  by_cases succeeds : StepSucceeds faults globalBoost ns.name cluster
  · refine iff_of_true ?_ (.inr (.inl succeeds))
    rw [effect.ensured ns.name (activated.mpr succeeds)]
    split
    · exact Option.some_ne_none _
    · exact present
  · obtain ⟨child, stored⟩ := Option.ne_none_iff_exists'.mp present
    have kept : after.boosts.get (ns.name, name) = some child ↔
        ¬ StaleDeletes faults globalBoost (ns.name, name) child := by
      rw [effect.kept ns.name (mt activated.mp succeeds)]
      simp [stored, SkipDeletes, wanted.onlyManaged.allManaged]
    have unchanged : after.boosts.get (ns.name, name) ≠ none ↔
        after.boosts.get (ns.name, name) = some child := by
      rw [Option.ne_none_iff_exists']
      refine ⟨?_, fun remains => ⟨child, remains⟩⟩
      rintro ⟨remaining, remains⟩
      obtain ⟨before, -⟩ := (effect.kept ns.name (mt activated.mp succeeds) name remaining).mp
        remains
      rw [stored] at before
      rw [remains, before]
    have managed : ManagedBy globalBoost.name child := wanted.onlyManaged name child stored
    rw [unchanged, kept, StaleDeletes, and_iff_right managed, not_and_or, or_iff_right succeeds]

/-- A wanted child survives a reconciliation exactly when the reconciliation
stops before the cleanup, or the step for the child's namespace succeeds, or the
child's deletion fails. -/
theorem wanted_child_kept_iff (registered : cluster.globals.get globalBoost.name = some globalBoost)
    (finalizer : globalBoostFinalizer ∈ globalBoost.finalizers)
    (live : globalBoost.deletionTimestamp = none) (wanted : Wanted globalBoost cluster ns)
    (present : cluster.boosts.get (ns.name, name) ≠ none) :
    ((reconcileGlobal lib order globalBoost.name).run (Cluster.handle orders faults)
        cluster).2.boosts.get (ns.name, name) ≠ none ↔
      faults (.getGlobal globalBoost.name) ≠ none ∨
        ¬ globalBoost.spec.namespaceSelector.WellFormed lib.validLabelKey lib.validLabelValue ∨
        faults (.listNamespaces globalBoost.spec.namespaceSelector) ≠ none ∨
        faults (.listManagedBoosts globalBoost.name) ≠ none ∨
        StepSucceeds faults globalBoost ns.name cluster ∨
        faults (.deleteBoost .staleChild (ns.name, name)) ≠ none := by
  cases read : faults (.getGlobal globalBoost.name) with
  | some err =>
      refine iff_of_true ?_ (.inl (Option.some_ne_none err))
      rw [reconcileGlobal, run_bind, Cluster.run_sendGetGlobal, read]
      simp only
      split <;> exact present
  | none =>
      rw [reconcileGlobal_run lib orders order read registered finalizer live,
        or_iff_right (not_not.mpr rfl)]
      by_cases selector : globalBoost.spec.namespaceSelector.WellFormed lib.validLabelKey
          lib.validLabelValue
      · cases namespaces : faults (.listNamespaces globalBoost.spec.namespaceSelector) with
        | some err =>
            refine iff_of_true ?_ (.inr (.inl (Option.some_ne_none err)))
            simpa [reconcile, lib.labelSelectorAsSelector_ok _ selector,
              Cluster.run_sendListNamespaces, namespaces] using present
        | none =>
            rw [or_iff_right (not_not.mpr selector), or_iff_right (not_not.mpr rfl)]
            exact reconcile_child_kept_iff lib orders order faults selector namespaces wanted
              present
      · obtain ⟨message, malformed⟩ := lib.labelSelectorAsSelector_error _ selector
        refine iff_of_true ?_ (.inl selector)
        simpa [reconcile, malformed] using present

end Child

namespace Reference

/-- A global boost that doubles the CPU of every container everywhere. -/
def globalBoost : GlobalStartupCPUBoost where
  name := "g"
  uid := "1"
  finalizers := [globalBoostFinalizer]
  deletionTimestamp := none
  spec :=
    { namespaceSelector := everything
      template :=
        { selector := everything
          spec :=
            { containerPolicies := [⟨containerPolicyWildcard, some ⟨100⟩, none⟩]
              durationPolicy := ⟨some ⟨.seconds, 60⟩, none⟩ } } }

def team : Namespace := ⟨"team", ∅, none⟩

def clusterWithChild : Cluster where
  namespaces := KeyedMap.empty.put team
  boosts := KeyedMap.empty.put (buildChildBoost globalBoost "team" "global-g")
  globals := KeyedMap.empty.put globalBoost

def listFails (call : GlobalCall) : Option ApiError :=
  if call = .listBoosts "team" then some ⟨.other, "request timed out"⟩ else none

noncomputable def anyOrders : ListOrders := ⟨.arbitrary, .arbitrary⟩

theorem wanted_team : Wanted globalBoost clusterWithChild team where
  stored := by decide +kernel
  selected := by decide +kernel
  live := rfl
  onlyManaged := by
    intro name boost present
    rw [clusterWithChild, KeyedMap.get_put] at present
    split at present
    · cases present
      exact Finmap.lookup_insert _
    · cases present

/-- With all calls accepted the child is kept. -/
theorem wanted_child_kept_iff_team :
    ((reconcileGlobal referenceLibrary .arbitrary globalBoost.name).run
      (Cluster.handle anyOrders fun _ => none) clusterWithChild).2.boosts.get
        (team.name, "global-g") ≠ none := by
  refine (wanted_child_kept_iff referenceLibrary anyOrders .arbitrary _ (by decide +kernel)
    (List.mem_singleton_self _) rfl wanted_team (by decide +kernel)).mpr ?_
  have stored : clusterWithChild.boosts.get (team.name, childBoostName globalBoost.name) =
      some (buildChildBoost globalBoost "team" "global-g") := by decide +kernel
  have ensured : EnsureSucceeds (fun _ => none) globalBoost team.name clusterWithChild := by
    simp only [EnsureSucceeds, stored]
    exact ⟨trivial, .inl ⟨rfl, rfl⟩⟩
  exact .inr (.inr (.inr (.inr (.inl ⟨rfl, ensured⟩))))

/-- One failed list call, and the child of a wanted namespace is gone. -/
theorem failed_list_deletes_wanted_child :
    clusterWithChild.globals.get globalBoost.name = some globalBoost ∧
      globalBoostFinalizer ∈ globalBoost.finalizers ∧ globalBoost.deletionTimestamp = none ∧
      Wanted globalBoost clusterWithChild team ∧
      clusterWithChild.boosts.get (team.name, "global-g") ≠ none ∧
      ((reconcileGlobal referenceLibrary .arbitrary globalBoost.name).run
        (Cluster.handle anyOrders listFails) clusterWithChild).2.boosts.get
          (team.name, "global-g") = none := by
  have registered : clusterWithChild.globals.get globalBoost.name = some globalBoost := by
    decide +kernel
  have present : clusterWithChild.boosts.get (team.name, "global-g") ≠ none := by
    decide +kernel
  refine ⟨registered, List.mem_singleton_self _, rfl, wanted_team, present, ?_⟩
  rw [reconcileGlobal_run _ _ _ rfl registered (List.mem_singleton_self _) rfl]
  by_contra kept
  rw [← ne_eq, reconcile_child_kept_iff referenceLibrary anyOrders .arbitrary listFails
    wellFormed_everything rfl wanted_team present] at kept
  rcases kept with rejected | ⟨listed, -⟩ | rejected
  · exact rejected rfl
  · cases listed
  · exact rejected rfl

end Reference

end KubeStartupCPUBoost
