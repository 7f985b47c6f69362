import KubeStartupCPUBoost.GlobalBoostQuiescence

/-!
# When a reconciliation reports success

Failed calls in the step for a namespace and in the cleanup are logged and
dropped, so a reconciliation can report success with work left.  This file says
exactly when it does not.
-/

namespace KubeStartupCPUBoost

open GlobalCall CallProgram

/-- Nothing is left to do in a namespace: if it is wanted it has its child, and
otherwise it has no child. -/
structure WorkDoneIn (globalBoost : GlobalStartupCPUBoost) (ns : String) (cluster : Cluster) :
    Prop where
  child : Desired globalBoost cluster ns → OnlyManaged globalBoost.name ns cluster →
    ∃ child, cluster.boosts.get (ns, childBoostName globalBoost.name) = some child ∧
      child.selector = globalBoost.spec.template.selector ∧
      child.spec = globalBoost.spec.template.spec
  noStale : ∀ name boost, cluster.boosts.get (ns, name) = some boost →
    ManagedBy globalBoost.name boost →
      Desired globalBoost cluster ns ∧ OnlyManaged globalBoost.name ns cluster

section Namespace

variable (faults : GlobalCall → Option ApiError) (globalBoost : GlobalStartupCPUBoost)
  (cluster : Cluster) (ns : String)

/-- One of the passes deletes a boost of a namespace that is not active. -/
def Removed (name : String) (boost : StartupCPUBoost) : Prop :=
  (Desired globalBoost cluster ns ∧ SkipDeletes faults globalBoost ns cluster name boost) ∨
    StaleDeletes faults globalBoost (ns, name) boost

/-- The failed calls leave no work in a namespace.  A wanted one succeeds, or has
its child already and keeps it; from any other the children are removed; and a
skipped one keeps some boost of another owner. -/
structure NamespaceDone : Prop where
  wanted : Desired globalBoost cluster ns → OnlyManaged globalBoost.name ns cluster →
    StepSucceeds faults globalBoost ns cluster ∨
      ∃ child, cluster.boosts.get (ns, childBoostName globalBoost.name) = some child ∧
        child.selector = globalBoost.spec.template.selector ∧
        child.spec = globalBoost.spec.template.spec ∧
        ¬ StaleDeletes faults globalBoost (ns, childBoostName globalBoost.name) child
  unwanted : ¬ (Desired globalBoost cluster ns ∧ OnlyManaged globalBoost.name ns cluster) →
    ∀ name boost, cluster.boosts.get (ns, name) = some boost → ManagedBy globalBoost.name boost →
      Removed faults globalBoost cluster ns name boost
  skipped : Desired globalBoost cluster ns → ¬ OnlyManaged globalBoost.name ns cluster →
    ∃ name boost, cluster.boosts.get (ns, name) = some boost ∧
      ¬ ManagedBy globalBoost.name boost ∧
      ¬ SkipDeletes faults globalBoost ns cluster name boost

variable {faults globalBoost cluster ns}

section Passes

variable {after : Cluster} {active skipped : List String}
  (effect : PassEffect faults globalBoost cluster after active skipped)
  (named : globalBoost.name ≠ "")

include effect

theorem PassEffect.kept_iff_not_removed (notActivated : ¬ Activated faults globalBoost cluster ns)
    (name : String) (boost : StartupCPUBoost) :
    after.boosts.get (ns, name) = some boost ↔
      cluster.boosts.get (ns, name) = some boost ∧
        ¬ Removed faults globalBoost cluster ns name boost := by
  rw [effect.kept ns notActivated, Removed, not_or]

theorem PassEffect.desired_iff : Desired globalBoost after ns ↔ Desired globalBoost cluster ns := by
  simp only [Desired, effect.namespaces]

include named

theorem PassEffect.workDoneIn_of_activated (activated : Activated faults globalBoost cluster ns) :
    WorkDoneIn globalBoost ns after := by
  constructor
  · intro _ _
    refine ⟨_, ?_, ensuredChild_template globalBoost ns cluster⟩
    rw [effect.ensured ns activated, if_pos rfl]
  · intro _ _ _ _
    exact ⟨effect.desired_iff.mpr activated.1, effect.onlyManaged_of_activated named activated⟩

theorem PassEffect.workDoneIn_iff_of_failed (desired : Desired globalBoost cluster ns)
    (onlyManaged : OnlyManaged globalBoost.name ns cluster)
    (fails : ¬ StepSucceeds faults globalBoost ns cluster) :
    WorkDoneIn globalBoost ns after ↔ NamespaceDone faults globalBoost cluster ns := by
  have notActivated : ¬ Activated faults globalBoost cluster ns := fun activated =>
    fails activated.2.2
  have allManaged := (allManaged_iff_onlyManaged named ns cluster).mpr onlyManaged
  have stillManaged : OnlyManaged globalBoost.name ns after := by
    intro name boost present
    exact onlyManaged name boost
      ((effect.kept_iff_not_removed notActivated name boost).mp present).1
  have removed (name : String) (boost : StartupCPUBoost) :
      Removed faults globalBoost cluster ns name boost ↔
        StaleDeletes faults globalBoost (ns, name) boost := by
    apply or_iff_right
    intro skipDeleted
    exact skipDeleted.2.1 allManaged
  constructor
  · intro done
    obtain ⟨child, present, selector, spec⟩ := done.child (effect.desired_iff.mpr desired)
      stillManaged
    rw [effect.kept_iff_not_removed notActivated, removed] at present
    constructor
    · intro _ _
      exact .inr ⟨child, present.1, selector, spec, present.2⟩
    · intro unwanted
      exact absurd ⟨desired, onlyManaged⟩ unwanted
    · intro _ unmanaged
      exact absurd onlyManaged unmanaged
  · intro done
    constructor
    · intro _ _
      obtain succeeds | ⟨child, stored, selector, spec, kept⟩ := done.wanted desired onlyManaged
      · exact absurd succeeds fails
      · refine ⟨child, ?_, selector, spec⟩
        rw [effect.kept_iff_not_removed notActivated, removed]
        exact ⟨stored, kept⟩
    · intro _ _ _ _
      exact ⟨effect.desired_iff.mpr desired, stillManaged⟩

theorem PassEffect.workDoneIn_iff_of_unmanaged (desired : Desired globalBoost cluster ns)
    (unmanaged : ¬ OnlyManaged globalBoost.name ns cluster) :
    WorkDoneIn globalBoost ns after ↔ NamespaceDone faults globalBoost cluster ns := by
  have notActivated : ¬ Activated faults globalBoost cluster ns := fun activated =>
    unmanaged ((allManaged_iff_onlyManaged named ns cluster).mp activated.2.1)
  have kept := effect.kept_iff_not_removed notActivated
  constructor
  · intro done
    -- If no boost of another owner were left, the one with the child's name
    -- would have been deleted, and the child is missing.
    have stillUnmanaged : ¬ OnlyManaged globalBoost.name ns after := by
      intro onlyManaged
      obtain ⟨child, present, -⟩ := done.child (effect.desired_iff.mpr desired) onlyManaged
      apply unmanaged
      intro name boost stored
      by_contra unowned
      have gone : Removed faults globalBoost cluster ns name boost := by
        by_contra notRemoved
        exact unowned (onlyManaged name boost ((kept name boost).mpr ⟨stored, notRemoved⟩))
      rcases gone with ⟨-, skipDeleted⟩ | stale
      · obtain rfl := skipDeleted.2.1
        obtain ⟨childStored, notRemoved⟩ := (kept _ child).mp present
        rw [stored] at childStored
        cases childStored
        exact notRemoved (.inl ⟨desired, skipDeleted⟩)
      · exact unowned stale.1
    constructor
    · intro _ onlyManaged
      exact absurd onlyManaged unmanaged
    · intro _ name boost stored managed
      by_contra notRemoved
      exact stillUnmanaged (done.noStale name boost
        ((kept name boost).mpr ⟨stored, notRemoved⟩) managed).2
    · intro _ _
      unfold OnlyManaged at stillUnmanaged
      push Not at stillUnmanaged
      obtain ⟨name, boost, present, unowned⟩ := stillUnmanaged
      obtain ⟨stored, notRemoved⟩ := (kept name boost).mp present
      exact ⟨name, boost, stored, unowned, fun skipDeleted =>
        notRemoved (.inl ⟨desired, skipDeleted⟩)⟩
  · intro done
    constructor
    · intro _ onlyManaged
      obtain ⟨name, boost, stored, unowned, notSkipDeleted⟩ := done.skipped desired unmanaged
      refine absurd (onlyManaged name boost ((kept name boost).mpr ⟨stored, ?_⟩)) unowned
      rintro (⟨-, skipDeleted⟩ | stale)
      · exact notSkipDeleted skipDeleted
      · exact unowned stale.1
    · intro name boost present managed
      obtain ⟨stored, notRemoved⟩ := (kept name boost).mp present
      have unwanted : ¬ (Desired globalBoost cluster ns ∧
          OnlyManaged globalBoost.name ns cluster) := fun wanted => unmanaged wanted.2
      exact absurd (done.unwanted unwanted name boost stored managed) notRemoved

omit named in
theorem PassEffect.workDoneIn_iff_of_not_desired (notDesired : ¬ Desired globalBoost cluster ns) :
    WorkDoneIn globalBoost ns after ↔ NamespaceDone faults globalBoost cluster ns := by
  have notActivated : ¬ Activated faults globalBoost cluster ns := fun activated =>
    notDesired activated.1
  have kept := effect.kept_iff_not_removed notActivated
  constructor
  · intro done
    constructor
    · intro desired
      exact absurd desired notDesired
    · intro _ name boost stored managed
      by_contra notRemoved
      exact notDesired (effect.desired_iff.mp (done.noStale name boost
        ((kept name boost).mpr ⟨stored, notRemoved⟩) managed).1)
    · intro desired
      exact absurd desired notDesired
  · intro done
    constructor
    · intro desired
      exact absurd (effect.desired_iff.mp desired) notDesired
    · intro name boost present managed
      obtain ⟨stored, notRemoved⟩ := (kept name boost).mp present
      have unwanted : ¬ (Desired globalBoost cluster ns ∧
          OnlyManaged globalBoost.name ns cluster) := fun wanted => notDesired wanted.1
      exact absurd (done.unwanted unwanted name boost stored managed) notRemoved

theorem PassEffect.workDoneIn_iff :
    WorkDoneIn globalBoost ns after ↔ NamespaceDone faults globalBoost cluster ns := by
  by_cases desired : Desired globalBoost cluster ns
  · by_cases onlyManaged : OnlyManaged globalBoost.name ns cluster
    · by_cases succeeds : StepSucceeds faults globalBoost ns cluster
      · have allManaged := (allManaged_iff_onlyManaged named ns cluster).mpr onlyManaged
        apply iff_of_true (effect.workDoneIn_of_activated named ⟨desired, allManaged, succeeds⟩)
        exact ⟨fun _ _ => .inl succeeds, fun unwanted => absurd ⟨desired, onlyManaged⟩ unwanted,
          fun _ unmanaged => absurd onlyManaged unmanaged⟩
      · exact effect.workDoneIn_iff_of_failed named desired onlyManaged succeeds
    · exact effect.workDoneIn_iff_of_unmanaged named desired onlyManaged
  · exact effect.workDoneIn_iff_of_not_desired desired

end Passes

end Namespace

section Report

variable (orders : ListOrders) {faults : GlobalCall → Option ApiError}
  {globalBoost : GlobalStartupCPUBoost} {cluster : Cluster}

private theorem statusFailure_ok_iff (err : ApiError) :
    statusFailure err = .ok {} ↔ err.reason = .notFound := by
  unfold statusFailure
  cases err.reason <;> simp

private theorem updateStatus_ok_iff (active skipped : List String) :
    ((updateStatus globalBoost active skipped).run (Cluster.handle orders faults) cluster).1 =
        .ok {} ↔
      computedStatus globalBoost active skipped = globalBoost.status ∨
        ∀ err, faults (.updateGlobalStatus
          { globalBoost with status := computedStatus globalBoost active skipped }) = some err →
            err.reason = .notFound := by
  rw [updateStatus_run]
  by_cases same : computedStatus globalBoost active skipped = globalBoost.status
  · rw [if_pos same]
    exact iff_of_true rfl (.inl same)
  · rw [if_neg same, or_iff_right same]
    cases faults (.updateGlobalStatus
        { globalBoost with status := computedStatus globalBoost active skipped }) with
    | some err => simp only [Option.some.injEq, forall_eq', statusFailure_ok_iff]
    | none =>
        apply iff_of_true
        · dsimp only
          split <;> rfl
        · intro err rejected
          cases rejected

variable (faults globalBoost cluster) in
/-- The status is up to date, or it is written, or the global boost is reported
missing. -/
def StatusAccepted : Prop :=
  ∀ active skipped, ListsExactly active (Activated faults globalBoost cluster) →
    ListsExactly skipped (Skipped faults globalBoost cluster) →
      computedStatus globalBoost active skipped = globalBoost.status ∨
        ∀ err, faults (.updateGlobalStatus
          { globalBoost with status := computedStatus globalBoost active skipped }) = some err →
            err.reason = .notFound

private theorem workDoneIn_congr {before after : Cluster} (boosts : after.boosts = before.boosts)
    (namespaces : after.namespaces = before.namespaces) (ns : String) :
    WorkDoneIn globalBoost ns after ↔ WorkDoneIn globalBoost ns before := by
  have sameDesired : Desired globalBoost after ns ↔ Desired globalBoost before ns := by
    simp only [Desired, namespaces]
  have sameManaged : OnlyManaged globalBoost.name ns after ↔
      OnlyManaged globalBoost.name ns before := by
    simp only [OnlyManaged, boosts]
  constructor
  · rintro ⟨child, noStale⟩
    rw [sameDesired, sameManaged, boosts] at child
    simp only [boosts, sameDesired, sameManaged] at noStale
    exact ⟨child, noStale⟩
  · rintro ⟨child, noStale⟩
    rw [← sameDesired, ← sameManaged, ← boosts] at child
    simp only [← boosts, ← sameDesired, ← sameManaged] at noStale
    exact ⟨child, noStale⟩

variable (lib : Library) (order : RangeOrder String)

/-- A reconciliation that gets as far as the namespaces reports success exactly
when the status is accepted, and then its work is done exactly when it is done
in every namespace. -/
theorem ReachesNamespaces.success_iff (reaches : ReachesNamespaces faults globalBoost cluster lib)
    (named : globalBoost.name ≠ "") :
    let outcome := (reconcileGlobal lib order globalBoost.name).run
      (Cluster.handle orders faults) cluster
    (outcome.1 = .ok {} ↔ StatusAccepted faults globalBoost cluster) ∧
      ∀ ns, WorkDoneIn globalBoost ns outcome.2 ↔
        NamespaceDone faults globalBoost cluster ns := by
  obtain ⟨after, active, skipped, effect, result⟩ := reaches.passes lib orders order
  have activeLists := listsExactly_sortStrings effect.nodup_active effect.mem_active
  have skippedLists := listsExactly_sortStrings effect.nodup_skipped effect.mem_skipped
  simp only [result]
  constructor
  · rw [updateStatus_ok_iff]
    constructor
    · intro accepted active' skipped' activeLists' skippedLists'
      rwa [activeLists'.unique activeLists fun _ => Iff.rfl,
        skippedLists'.unique skippedLists fun _ => Iff.rfl]
    · intro accepted
      exact accepted _ _ activeLists skippedLists
  · intro ns
    rw [workDoneIn_congr (updateStatus_boosts orders faults globalBoost _ _ after)
      (run_namespaces orders faults _ after)]
    exact effect.workDoneIn_iff named

/-- A reconciliation reports success only with its work done, exactly when the
calls whose errors are dropped leave no work: the global boost is not wrongly
reported missing, and where the status is accepted every namespace is done. -/
theorem success_means_done_iff (named : globalBoost.name ≠ "")
    (registered : cluster.globals.get globalBoost.name = some globalBoost)
    (finalizer : globalBoostFinalizer ∈ globalBoost.finalizers)
    (live : globalBoost.deletionTimestamp = none) :
    let outcome := (reconcileGlobal lib order globalBoost.name).run
      (Cluster.handle orders faults) cluster
    (outcome.1 = .ok {} → ∀ ns, WorkDoneIn globalBoost ns outcome.2) ↔
      ((∃ err, faults (.getGlobal globalBoost.name) = some err ∧ err.reason = .notFound) →
        ∀ ns, WorkDoneIn globalBoost ns cluster) ∧
      (ReachesNamespaces faults globalBoost cluster lib →
        StatusAccepted faults globalBoost cluster →
          ∀ ns, NamespaceDone faults globalBoost cluster ns) := by
  by_cases reaches : ReachesNamespaces faults globalBoost cluster lib
  · obtain ⟨reported, done⟩ := reaches.success_iff orders lib order named
    have noReadFault : ¬ ∃ err, faults (.getGlobal globalBoost.name) = some err ∧
        err.reason = .notFound := by
      rintro ⟨err, rejected, -⟩
      rw [reaches.read] at rejected
      cases rejected
    simp only [reported, done, reaches, noReadFault, false_imp_iff, true_and, true_imp_iff]
  · simp only [reaches, false_imp_iff, and_true]
    cases read : faults (.getGlobal globalBoost.name) with
    | some err =>
        simp only [reconcileGlobal, run_bind, Cluster.run_sendGetGlobal, read, Option.some.injEq,
          exists_eq_left']
        by_cases notFound : err.reason = .notFound
        · simp only [notFound, if_true, run_pure, true_imp_iff]
        · simp [notFound]
    | none =>
        have error : ∃ message, ((reconcileGlobal lib order globalBoost.name).run
            (Cluster.handle orders faults) cluster).1 = .error message := by
          rw [reconcileGlobal_run lib orders order read registered finalizer live]
          by_cases selector : globalBoost.spec.namespaceSelector.WellFormed lib.validLabelKey
              lib.validLabelValue
          · cases listed : faults (.listNamespaces globalBoost.spec.namespaceSelector) with
            | some err =>
                simp only [reconcile, lib.labelSelectorAsSelector_ok _ selector, run_bind,
                  Cluster.run_sendListNamespaces, listed]
                exact ⟨_, rfl⟩
            | none => exact absurd ⟨read, registered, live, finalizer, selector, listed⟩ reaches
          · obtain ⟨message, malformed⟩ := lib.labelSelectorAsSelector_error _ selector
            simp only [reconcile, malformed]
            exact ⟨message, rfl⟩
        obtain ⟨message, failed⟩ := error
        simp [failed]

end Report

namespace Reference

/-- With all calls accepted the report is right. -/
theorem success_means_done_iff_emptyTeam :
    let outcome := (reconcileGlobal referenceLibrary .arbitrary globalBoost.name).run
      (Cluster.handle anyOrders noFaults) emptyTeam
    outcome.1 = .ok {} → ∀ ns, WorkDoneIn globalBoost ns outcome.2 := by
  have noBoosts (key : BoostKey) : emptyTeam.boosts.get key = none := KeyedMap.get_empty key
  apply (success_means_done_iff anyOrders referenceLibrary .arbitrary (by decide +kernel)
    (by decide +kernel) (List.mem_singleton_self _) rfl).mpr
  constructor
  · rintro ⟨err, rejected, -⟩
    cases rejected
  · intro _ _ ns
    constructor
    · intro _ _
      exact .inl (stepSucceeds_noFaults globalBoost emptyTeam ns)
    · intro _ name boost stored
      rw [noBoosts] at stored
      cases stored
    · intro _ unmanaged
      refine absurd ?_ unmanaged
      intro name boost stored
      rw [noBoosts] at stored
      cases stored

/-- Listing the boosts of `team` fails, the reconciliation reports success, and
`team` has no child. -/
theorem success_reported_with_work_left :
    emptyTeam.globals.get globalBoost.name = some globalBoost ∧
      globalBoostFinalizer ∈ globalBoost.finalizers ∧ globalBoost.deletionTimestamp = none ∧
      ((reconcileGlobal referenceLibrary .arbitrary globalBoost.name).run
        (Cluster.handle anyOrders listFails) emptyTeam).1 = .ok {} ∧
      ¬ WorkDoneIn globalBoost "team" ((reconcileGlobal referenceLibrary .arbitrary
        globalBoost.name).run (Cluster.handle anyOrders listFails) emptyTeam).2 := by
  have registered : emptyTeam.globals.get globalBoost.name = some globalBoost := by
    decide +kernel
  have reaches : ReachesNamespaces listFails globalBoost emptyTeam referenceLibrary :=
    ⟨rfl, registered, rfl, List.mem_singleton_self _, wellFormed_everything, rfl⟩
  obtain ⟨reported, done⟩ := reaches.success_iff anyOrders referenceLibrary .arbitrary
    (by decide +kernel)
  refine ⟨registered, List.mem_singleton_self _, rfl, reported.mpr ?_, ?_⟩
  · intro active skipped _ _
    right
    intro err rejected
    cases rejected
  · rw [done]
    intro teamDone
    have desired : Desired globalBoost emptyTeam "team" :=
      ⟨team, by decide +kernel, by decide +kernel, rfl⟩
    have onlyManaged : OnlyManaged globalBoost.name "team" emptyTeam := by
      intro name boost stored
      rw [emptyTeam, KeyedMap.get_empty] at stored
      cases stored
    obtain ⟨listed, -⟩ | ⟨child, stored, -⟩ := teamDone.wanted desired onlyManaged
    · cases listed
    · rw [emptyTeam, KeyedMap.get_empty] at stored
      cases stored

end Reference

end KubeStartupCPUBoost
