import KubeStartupCPUBoost.GlobalBoostOwnership

/-!
# When a reconciliation has nothing to do

A reconciliation without failed calls makes no write exactly in the states
where every namespace is settled, no child is left in the wrong place and the
status is the one it computes.  One reconciliation leads to such a state: it
creates exactly the wanted children, and a second one makes no write.
-/

namespace KubeStartupCPUBoost

open GlobalCall CallProgram

def GlobalCall.IsWrite : GlobalCall → Prop
  | updateGlobal _ => True
  | updateGlobalStatus _ => True
  | createBoost _ => True
  | updateBoost _ => True
  | deleteBoost _ _ => True
  | _ => False

/-- The names with a property, sorted. -/
structure ListsExactly (names : List String) (property : String → Prop) : Prop where
  sorted : names.Pairwise (· < ·)
  mem_iff : ∀ name, name ∈ names ↔ property name

theorem listsExactly_sortStrings {names : List String} {property : String → Prop}
    (distinct : names.Nodup) (members : ∀ name, name ∈ names ↔ property name) :
    ListsExactly (sortStrings names) property := by
  have permuted : (sortStrings names).Perm names := List.mergeSort_perm _ _
  have ordered : (sortStrings names).Pairwise (· ≤ ·) := by
    have sorted : (sortStrings names).Pairwise fun first second => decide (first ≤ second) = true :=
      List.pairwise_mergeSort
        (fun _ _ _ first second => by
          rw [decide_eq_true_eq] at *
          exact first.trans second)
        (fun first second => by simpa using le_total first second) names
    exact sorted.imp of_decide_eq_true
  refine ⟨?_, fun name => permuted.mem_iff.trans (members name)⟩
  have distinctSorted : (sortStrings names).Pairwise (· ≠ ·) := permuted.nodup_iff.mpr distinct
  exact ordered.imp₂ (fun _ _ first second => lt_of_le_of_ne first second) distinctSorted

theorem ListsExactly.unique {first second : List String} {property other : String → Prop}
    (firstLists : ListsExactly first property) (secondLists : ListsExactly second other)
    (same : ∀ name, property name ↔ other name) : first = second := by
  refine List.Perm.eq_of_pairwise (fun _ _ _ _ before after => (lt_asymm before after).elim)
    firstLists.sorted secondLists.sorted ?_
  rw [List.perm_ext_iff_of_nodup (firstLists.sorted.imp ne_of_lt)
    (secondLists.sorted.imp ne_of_lt)]
  intro name
  rw [firstLists.mem_iff, secondLists.mem_iff, same]

private theorem setStatusCondition_idem (condition : StatusCondition)
    (conditions : List StatusCondition) :
    setStatusCondition condition (setStatusCondition condition conditions) =
      setStatusCondition condition conditions := by
  induction conditions with
  | nil => simp [setStatusCondition]
  | cons existing rest ih =>
      by_cases same : existing.type = condition.type
      · simp [setStatusCondition, same]
      · simp [setStatusCondition, same, ih]

/-- The status computed from a computed status is the same. -/
@[simp]
theorem computedStatus_idem (globalBoost : GlobalStartupCPUBoost) (active skipped : List String) :
    computedStatus { globalBoost with status := computedStatus globalBoost active skipped } active
      skipped = computedStatus globalBoost active skipped := by
  simp only [computedStatus, setStatusCondition_idem]

section Status

variable (orders : ListOrders) (globalBoost : GlobalStartupCPUBoost)
  (active skipped : List String) {cluster : Cluster}

theorem updateStatus_makes_iff (faults : GlobalCall → Option ApiError) :
    (updateStatus globalBoost active skipped).Makes (Cluster.handle orders faults) IsWrite
      cluster ↔ computedStatus globalBoost active skipped ≠ globalBoost.status := by
  by_cases same : computedStatus globalBoost active skipped = globalBoost.status
  · have unchanged : updateStatus globalBoost active skipped = pure (.ok {}) :=
      if_neg (not_not.mpr same)
    rw [unchanged]
    exact iff_of_false (makes_pure _ _ _ _) (not_not.mpr same)
  · refine iff_of_true ?_ same
    have sends : updateStatus globalBoost active skipped = (_ >>= _) := if_pos same
    rw [sends, makes_bind]
    exact .inl (.inl trivial)

/-- Without failed calls the stored status is the computed one afterwards. -/
theorem updateStatus_noFaults
    (registered : cluster.globals.get globalBoost.name = some globalBoost) :
    let after := ((updateStatus globalBoost active skipped).run (Cluster.handle orders noFaults)
      cluster).2
    after.boosts = cluster.boosts ∧ after.namespaces = cluster.namespaces ∧
      after.globals.get globalBoost.name =
        some { globalBoost with status := computedStatus globalBoost active skipped } := by
  refine ⟨updateStatus_boosts orders noFaults globalBoost active skipped cluster,
    run_namespaces orders noFaults _ cluster, ?_⟩
  rw [updateStatus_run]
  by_cases same : computedStatus globalBoost active skipped = globalBoost.status
  · rw [if_pos same, same]
    exact registered
  · rw [if_neg same]
    simp only [noFaults, registered]
    rw [KeyedMap.get_put, if_pos rfl]

end Status

@[simp]
theorem handle_of_not_isWrite (orders : ListOrders) (faults : GlobalCall → Option ApiError)
    (call : GlobalCall) (cluster : Cluster) (reads : ¬ call.IsWrite) :
    (Cluster.handle orders faults call cluster).2 = cluster := by
  cases rejected : faults call with
  | some err => rw [handle_of_fault orders rejected]
  | none =>
      rw [handle_of_accepted orders rejected]
      cases call with
      | getGlobal name =>
          rw [Cluster.answer]
          split <;> rfl
      | getBoost ns name =>
          rw [Cluster.answer]
          split <;> rfl
      | listNamespaces selector => rfl
      | listBoosts ns => rfl
      | listManagedBoosts name => rfl
      | _ => exact absurd trivial reads

/-- A namespace in which the step has nothing to do. -/
structure NamespaceSettled (globalBoost : GlobalStartupCPUBoost) (ns : String) (cluster : Cluster) :
    Prop where
  child : AllManaged globalBoost.name ns cluster →
    ∃ child, cluster.boosts.get (ns, childBoostName globalBoost.name) = some child ∧
      child.selector = globalBoost.spec.template.selector ∧
      child.spec = globalBoost.spec.template.spec
  noChild : ¬ AllManaged globalBoost.name ns cluster →
    ∀ boost, cluster.boosts.get (ns, childBoostName globalBoost.name) = some boost →
      boost.labels.lookup managedByGlobalBoostLabel = none

/-- A state in which the reconciliation of a global boost has nothing to do. -/
structure Quiescent (globalBoost : GlobalStartupCPUBoost) (cluster : Cluster) : Prop where
  settled : ∀ ns, Desired globalBoost cluster ns → NamespaceSettled globalBoost ns cluster
  noStale : ∀ key boost, cluster.boosts.get key = some boost →
    ManagedBy globalBoost.name boost →
      Desired globalBoost cluster key.1 ∧ AllManaged globalBoost.name key.1 cluster
  status : ∃ active skipped,
    ListsExactly active (fun ns =>
      Desired globalBoost cluster ns ∧ AllManaged globalBoost.name ns cluster) ∧
    ListsExactly skipped (fun ns =>
      Desired globalBoost cluster ns ∧ ¬ AllManaged globalBoost.name ns cluster) ∧
    computedStatus globalBoost active skipped = globalBoost.status

section Silent

variable (orders : ListOrders) (globalBoost : GlobalStartupCPUBoost) (ns : String)
  (cluster : Cluster)

private theorem hasUnmanagedBoosts_silent (globalBoostName : String) :
    ¬ (hasUnmanagedBoosts ns globalBoostName).Makes (Cluster.handle orders noFaults) IsWrite
      cluster := by
  rw [hasUnmanagedBoosts, makes_bind]
  rintro (written | written)
  · exact (makes_request _ _ _ _).mp written
  · split at written <;> exact written

private theorem ensureChild_makes_iff (managed : AllManaged globalBoost.name ns cluster) :
    ¬ (ensureChild globalBoost ns (childBoostName globalBoost.name)).Makes
        (Cluster.handle orders noFaults) IsWrite cluster ↔
      ∃ child, cluster.boosts.get (ns, childBoostName globalBoost.name) = some child ∧
        child.selector = globalBoost.spec.template.selector ∧
        child.spec = globalBoost.spec.template.spec := by
  have read : ¬ (sendGetBoost ns (childBoostName globalBoost.name)).Makes
      (Cluster.handle orders noFaults) IsWrite cluster := (makes_request _ _ _ _).not.mpr id
  rw [ensureChild, makes_bind, or_iff_right read, Cluster.run_sendGetBoost,
    show noFaults _ = none from rfl]
  cases stored : cluster.boosts.get (ns, childBoostName globalBoost.name) with
  | none =>
      refine iff_of_false (not_not.mpr ?_) (by simp)
      simp only [if_true]
      rw [createChild, makes_bind]
      exact .inl (.inl trivial)
  | some existing =>
      have owner := managed _ _ stored
      simp only [owner, ne_eq, not_true_eq_false, if_false, buildChildBoost, ← not_and_or,
        Option.some.injEq, exists_eq_left']
      by_cases same : existing.selector = globalBoost.spec.template.selector ∧
          existing.spec = globalBoost.spec.template.spec
      · rw [if_neg (not_not.mpr same)]
        exact iff_of_true (makes_pure _ _ _ _) same
      · rw [if_pos same, makes_bind]
        exact iff_of_false (not_not.mpr (.inl (.inl trivial))) same

private theorem deleteChildIfExists_makes_iff (childName : String) :
    ¬ (deleteChildIfExists childName ns).Makes (Cluster.handle orders noFaults) IsWrite cluster ↔
      ∀ boost, cluster.boosts.get (ns, childName) = some boost →
        boost.labels.lookup managedByGlobalBoostLabel = none := by
  have read : ¬ (sendGetBoost ns childName).Makes
      (Cluster.handle orders noFaults) IsWrite cluster := (makes_request _ _ _ _).not.mpr id
  rw [deleteChildIfExists, makes_bind, or_iff_right read, Cluster.run_sendGetBoost,
    show noFaults _ = none from rfl]
  cases stored : cluster.boosts.get (ns, childName) with
  | none => exact iff_of_true (makes_pure _ _ _ _) (by simp)
  | some existing =>
      simp only [Option.some.injEq, forall_eq']
      cases label : existing.labels.lookup managedByGlobalBoostLabel with
      | none => exact iff_of_true (makes_pure _ _ _ _) rfl
      | some owner =>
          simp only
          rw [makes_bind]
          exact iff_of_false (not_not.mpr (.inl (.inl trivial))) (Option.some_ne_none owner)

private theorem processNamespace_makes_iff :
    ¬ (processNamespace globalBoost (childBoostName globalBoost.name) ns).Makes
        (Cluster.handle orders noFaults) IsWrite cluster ↔
      NamespaceSettled globalBoost ns cluster := by
  have listed : noFaults (.listBoosts ns) = none := rfl
  obtain ⟨found, checked, foundIff⟩ := hasUnmanagedBoosts_of_accepted orders noFaults listed
    globalBoost.name cluster
  rw [processNamespace, makes_bind, or_iff_right (hasUnmanagedBoosts_silent orders ns cluster _),
    checked]
  cases found with
  | true =>
      have unmanaged : ¬ AllManaged globalBoost.name ns cluster := by simp [← foundIff]
      simp only
      rw [makes_bind, or_iff_left (makes_pure _ _ _ _), deleteChildIfExists_makes_iff]
      exact ⟨fun noChild => ⟨fun managed => absurd managed unmanaged, fun _ => noChild⟩,
        fun settled => settled.noChild unmanaged⟩
  | false =>
      have managed := foundIff.mp rfl
      simp only
      rw [makes_bind_of_silent _ _ (fun ensured _ => by cases ensured <;> exact id),
        ensureChild_makes_iff orders globalBoost ns cluster managed]
      exact ⟨fun child => ⟨fun _ => child, fun unmanaged => absurd managed unmanaged⟩,
        fun settled => settled.child managed⟩

theorem processNamespaces_makes_iff (names active skipped : List String) :
    ¬ (processNamespaces globalBoost (childBoostName globalBoost.name) names active skipped).Makes
        (Cluster.handle orders noFaults) IsWrite cluster ↔
      ∀ ns ∈ names, NamespaceSettled globalBoost ns cluster := by
  induction names generalizing active skipped with
  | nil => simp [processNamespaces]
  | cons head rest ih =>
      rw [processNamespaces, makes_bind, not_or, processNamespace_makes_iff, List.forall_mem_cons]
      refine and_congr_right fun settled => ?_
      rw [run_state_of_not_makes (handle_of_not_isWrite orders noFaults)
        ((processNamespace_makes_iff orders globalBoost head cluster).mpr settled)]
      split <;> exact ih _ _

private theorem deleteStale_makes_iff (active : List String) (boosts : List StartupCPUBoost) :
    ¬ (deleteStale active boosts).Makes (Cluster.handle orders noFaults) IsWrite cluster ↔
      ∀ boost ∈ boosts, boost.ns ∈ active := by
  induction boosts with
  | nil => simp [deleteStale]
  | cons boost rest ih =>
      unfold deleteStale
      by_cases isActive : boost.ns ∈ active
      · rw [if_pos isActive, ih, List.forall_mem_cons, and_iff_right isActive]
      · rw [if_neg isActive, makes_bind, List.forall_mem_cons]
        exact iff_of_false (not_not.mpr (.inl (.inl trivial))) fun all => isActive all.1

private theorem cleanupStaleChildren_makes_iff (active : List String) :
    ¬ (cleanupStaleChildren globalBoost.name active).Makes (Cluster.handle orders noFaults) IsWrite
        cluster ↔
      ∀ key boost, cluster.boosts.get key = some boost → ManagedBy globalBoost.name boost →
        key.1 ∈ active := by
  have listing : ¬ (sendListManagedBoosts globalBoost.name).Makes
      (Cluster.handle orders noFaults) IsWrite cluster := (makes_request _ _ _ _).not.mpr id
  rw [cleanupStaleChildren, makes_bind, or_iff_right listing, Cluster.run_sendListManagedBoosts,
    show noFaults _ = none from rfl]
  simp only
  rw [makes_bind, or_iff_left (makes_pure _ _ _ _), deleteStale_makes_iff]
  constructor
  · intro allActive key boost stored managed
    have key_eq := KeyedMap.key_of_get stored
    have isActive := allActive boost (List.mem_filter.mpr ⟨?_, ?_⟩)
    · rwa [show boost.ns = key.1 from congrArg Prod.fst key_eq] at isActive
    · rw [KeyedMap.mem_values, key_eq]
      exact stored
    · exact decide_eq_true managed
  · intro allActive boost member
    obtain ⟨stored, managed⟩ := List.mem_filter.mp member
    rw [KeyedMap.mem_values] at stored
    exact allActive boost.key boost stored (of_decide_eq_true managed)

end Silent

section NoFaults

variable (globalBoost : GlobalStartupCPUBoost) (cluster : Cluster) (ns : String)

theorem stepSucceeds_noFaults : StepSucceeds noFaults globalBoost ns cluster := by
  refine ⟨rfl, ?_⟩
  simp only [EnsureSucceeds]
  split
  · exact ⟨fun err fault => absurd fault.symm (Option.some_ne_none err), rfl⟩
  · exact ⟨rfl, .inr rfl⟩

theorem activated_noFaults :
    Activated noFaults globalBoost cluster ns ↔
      Desired globalBoost cluster ns ∧ AllManaged globalBoost.name ns cluster :=
  and_congr_right fun _ => and_iff_left (stepSucceeds_noFaults globalBoost cluster ns)

theorem skipped_noFaults :
    Skipped noFaults globalBoost cluster ns ↔
      Desired globalBoost cluster ns ∧ ¬ AllManaged globalBoost.name ns cluster :=
  and_congr_right fun _ => and_iff_left rfl

end NoFaults

section Quiescent

variable (lib : Library) (orders : ListOrders) (order : RangeOrder String)
  {globalBoost : GlobalStartupCPUBoost} {cluster : Cluster}

private theorem reconcile_makes_iff
    (selector : globalBoost.spec.namespaceSelector.WellFormed lib.validLabelKey
      lib.validLabelValue) :
    ¬ (reconcile lib order globalBoost).Makes (Cluster.handle orders noFaults) IsWrite cluster ↔
      Quiescent globalBoost cluster := by
  have listed : noFaults (.listNamespaces globalBoost.spec.namespaceSelector) = none := rfl
  obtain ⟨names, distinct, visits, -, makes⟩ := reconcile_visits cluster lib orders order selector
    listed
  have loopEffect := processNamespaces_effect noFaults orders distinct visits
  obtain ⟨active, skipped, lists, activeWithin, skippedWithin⟩ :=
    processNamespaces_sublists orders noFaults globalBoost names [] [] cluster
  have unchanged (settled : ∀ ns ∈ names, NamespaceSettled globalBoost ns cluster) :=
    run_state_of_not_makes (handle_of_not_isWrite orders noFaults)
      ((processNamespaces_makes_iff orders globalBoost cluster names [] []).mpr settled)
  rw [makes IsWrite id, reconcileNamespaces, makes_bind, not_or, processNamespaces_makes_iff]
  generalize (processNamespaces globalBoost (childBoostName globalBoost.name) names [] []).run
    (Cluster.handle orders noFaults) cluster = loop at *
  obtain ⟨lists', looped⟩ := loop
  obtain rfl := lists
  simp only [List.nil_append] at loopEffect unchanged ⊢
  have activeLists := listsExactly_sortStrings (distinct.sublist activeWithin)
    fun ns => (loopEffect ns).1.trans (activated_noFaults globalBoost cluster ns)
  have skippedLists := listsExactly_sortStrings (distinct.sublist skippedWithin)
    fun ns => (loopEffect ns).2.1.trans (skipped_noFaults globalBoost cluster ns)
  have noStaleIff : ¬ (cleanupStaleChildren globalBoost.name active).Makes
      (Cluster.handle orders noFaults) IsWrite cluster ↔
        ∀ key boost, cluster.boosts.get key = some boost → ManagedBy globalBoost.name boost →
          Desired globalBoost cluster key.1 ∧ AllManaged globalBoost.name key.1 cluster := by
    simp only [cleanupStaleChildren_makes_iff, (loopEffect _).1, activated_noFaults]
  have settledIff : (∀ ns ∈ names, NamespaceSettled globalBoost ns cluster) ↔
      ∀ ns, Desired globalBoost cluster ns → NamespaceSettled globalBoost ns cluster := by
    simp only [visits]
  constructor
  · rintro ⟨settled, silent⟩
    rw [unchanged settled, makes_bind, not_or] at silent
    rw [run_state_of_not_makes (handle_of_not_isWrite orders noFaults) silent.1,
      updateStatus_makes_iff, not_not] at silent
    exact ⟨settledIff.mp settled, noStaleIff.mp silent.1, _, _, activeLists, skippedLists,
      silent.2⟩
  · rintro ⟨settled, noStale, active', skipped', activeLists', skippedLists', status⟩
    rw [activeLists'.unique activeLists fun _ => Iff.rfl,
      skippedLists'.unique skippedLists fun _ => Iff.rfl] at status
    refine ⟨settledIff.mpr settled, ?_⟩
    rw [unchanged (settledIff.mpr settled), makes_bind, not_or]
    refine ⟨noStaleIff.mpr noStale, ?_⟩
    rw [run_state_of_not_makes (handle_of_not_isWrite orders noFaults) (noStaleIff.mpr noStale),
      updateStatus_makes_iff, not_not]
    exact status

variable (globalBoost) in
/-- Reading the global boost is no write, so the same holds for `Reconcile`. -/
theorem reconcileGlobal_makes_iff
    (registered : cluster.globals.get globalBoost.name = some globalBoost)
    (finalizer : globalBoostFinalizer ∈ globalBoost.finalizers)
    (live : globalBoost.deletionTimestamp = none)
    (selector : globalBoost.spec.namespaceSelector.WellFormed lib.validLabelKey
      lib.validLabelValue) :
    ¬ (reconcileGlobal lib order globalBoost.name).Makes (Cluster.handle orders noFaults) IsWrite
        cluster ↔ Quiescent globalBoost cluster := by
  have read : ¬ (sendGetGlobal globalBoost.name).Makes (Cluster.handle orders noFaults) IsWrite
      cluster := (makes_request _ _ _ _).not.mpr id
  rw [reconcileGlobal, makes_bind, or_iff_right read, Cluster.run_sendGetGlobal,
    show noFaults _ = none from rfl, registered, ← reconcile_makes_iff lib orders order selector]
  simp only [live, ne_eq, not_true_eq_false, if_false, finalizer]

end Quiescent

/-- Every managed boost has the name of a child of its owner. -/
def ChildrenNamed (cluster : Cluster) : Prop :=
  ∀ key boost owner, cluster.boosts.get key = some boost → ManagedBy owner boost →
    boost.name = childBoostName owner

/-- The children of a global boost are exactly the wanted ones, everything else
is as before, and the status says so. -/
structure Distributed (globalBoost : GlobalStartupCPUBoost) (before after : Cluster) : Prop where
  children : ∀ ns,
    (∃ name child, after.boosts.get (ns, name) = some child ∧ ManagedBy globalBoost.name child) ↔
      Desired globalBoost before ns ∧ OnlyManaged globalBoost.name ns before
  template : ∀ key child, after.boosts.get key = some child → ManagedBy globalBoost.name child →
    child.selector = globalBoost.spec.template.selector ∧
      child.spec = globalBoost.spec.template.spec
  others : ∀ key boost, ¬ ManagedBy globalBoost.name boost →
    (after.boosts.get key = some boost ↔ before.boosts.get key = some boost)
  status : ∃ status, after.globals.get globalBoost.name = some { globalBoost with status } ∧
    ListsExactly status.activeNamespaces (fun ns =>
      Desired globalBoost before ns ∧ OnlyManaged globalBoost.name ns before) ∧
    ListsExactly status.skippedNamespaces (fun ns =>
      Desired globalBoost before ns ∧
        ∃ name boost, before.boosts.get (ns, name) = some boost ∧
          ¬ ManagedBy globalBoost.name boost) ∧
    status.namespaceCount = Int32.ofNat status.activeNamespaces.length ∧
    (status.activeNamespaces.length < 2 ^ 31 →
      status.namespaceCount.toInt = status.activeNamespaces.length)

section Passes

variable {globalBoost : GlobalStartupCPUBoost} {cluster after : Cluster}
  {active skipped : List String}
  (effect : PassEffect noFaults globalBoost cluster after active skipped)

include effect

/-- The cleanup leaves children in active namespaces only. -/
theorem PassEffect.activated_of_managed {ns name : String} {boost : StartupCPUBoost}
    (present : after.boosts.get (ns, name) = some boost)
    (managed : ManagedBy globalBoost.name boost) :
    Activated noFaults globalBoost cluster ns := by
  by_contra notActivated
  exact ((effect.kept ns notActivated name boost).mp present).2.2 ⟨managed, rfl, rfl⟩

theorem PassEffect.child_of_activated {ns : String}
    (activated : Activated noFaults globalBoost cluster ns) :
    after.boosts.get (ns, childBoostName globalBoost.name) =
      some (ensuredChild globalBoost ns cluster) := by
  rw [effect.ensured ns activated, if_pos rfl]

variable (childrenNamed : ChildrenNamed cluster) (named : globalBoost.name ≠ "")

include childrenNamed

theorem PassEffect.eq_ensuredChild {ns name : String} {boost : StartupCPUBoost}
    (present : after.boosts.get (ns, name) = some boost)
    (managed : ManagedBy globalBoost.name boost) :
    boost = ensuredChild globalBoost ns cluster := by
  have activated := effect.activated_of_managed present managed
  rw [effect.ensured ns activated] at present
  by_cases isChild : name = childBoostName globalBoost.name
  · rw [if_pos isChild] at present
    exact (Option.some.inj present).symm
  · rw [if_neg isChild] at present
    have sameName : boost.name = name := congrArg Prod.snd (KeyedMap.key_of_get present)
    exact absurd (sameName.symm.trans (childrenNamed _ _ _ present managed)) isChild

include named

/-- Boosts of other owners are as before: a boost with the child's name and a
label can only have the label of this global boost. -/
theorem PassEffect.others_unchanged (key : BoostKey) {boost : StartupCPUBoost}
    (unowned : ¬ ManagedBy globalBoost.name boost) :
    after.boosts.get key = some boost ↔ cluster.boosts.get key = some boost := by
  rw [effect.unowned_iff named key unowned]
  refine and_iff_left_of_imp fun stored => ?_
  rintro ⟨-, -, child, label, -⟩
  obtain ⟨owner, managed⟩ := Option.ne_none_iff_exists'.mp label
  have sameName : boost.name = key.2 := congrArg Prod.snd (KeyedMap.key_of_get stored)
  have sameOwner : owner = globalBoost.name := by
    rw [← childBoostName_inj, ← child, ← sameName]
    exact (childrenNamed _ _ _ stored managed).symm
  subst sameOwner
  exact unowned managed

theorem PassEffect.onlyManaged_iff (ns : String) :
    OnlyManaged globalBoost.name ns after ↔ OnlyManaged globalBoost.name ns cluster := by
  constructor
  · intro onlyManaged name boost stored
    by_contra unowned
    exact unowned (onlyManaged name boost
      ((effect.others_unchanged childrenNamed named _ unowned).mpr stored))
  · intro onlyManaged name boost present
    by_contra unowned
    exact unowned (onlyManaged name boost
      ((effect.others_unchanged childrenNamed named _ unowned).mp present))

/-- After the passes, with the computed status, there is nothing left to do. -/
theorem PassEffect.quiescent {final : Cluster} (boosts : final.boosts = after.boosts)
    (namespaces : final.namespaces = cluster.namespaces) :
    Quiescent
      { globalBoost with
        status := computedStatus globalBoost (sortStrings active) (sortStrings skipped) }
      final := by
  have desiredIff (ns : String) : Desired { globalBoost with
      status := computedStatus globalBoost (sortStrings active) (sortStrings skipped) } final ns ↔
        Desired globalBoost cluster ns := by
    simp only [Desired, namespaces]
  have managedIff (ns : String) :
      AllManaged globalBoost.name ns final ↔ AllManaged globalBoost.name ns cluster := by
    rw [allManaged_iff_onlyManaged named, allManaged_iff_onlyManaged named,
      ← effect.onlyManaged_iff childrenNamed named]
    simp only [OnlyManaged, boosts]
  have activatedIff (ns : String) := activated_noFaults globalBoost cluster ns
  refine ⟨fun ns desired => ⟨fun managed => ?_, fun unmanaged boost stored => ?_⟩,
    fun key boost stored managed => ?_, ?_⟩
  · have activated := (activatedIff ns).mpr ⟨(desiredIff ns).mp desired, (managedIff ns).mp managed⟩
    refine ⟨_, ?_, ensuredChild_template globalBoost ns cluster⟩
    rw [boosts]
    exact effect.child_of_activated activated
  · rw [boosts] at stored
    by_contra label
    obtain ⟨owner, managed⟩ := Option.ne_none_iff_exists'.mp label
    by_cases own : ManagedBy globalBoost.name boost
    · exact unmanaged ((managedIff ns).mpr (effect.activated_of_managed stored own).2.1)
    · rw [effect.others_unchanged childrenNamed named _ own] at stored
      have sameName : boost.name = childBoostName globalBoost.name :=
        congrArg Prod.snd (KeyedMap.key_of_get stored)
      have sameOwner : globalBoost.name = owner := by
        rw [← childBoostName_inj, ← sameName]
        exact childrenNamed _ _ _ stored managed
      exact own (by rw [sameOwner]; exact managed)
  · rw [boosts] at stored
    have activated := effect.activated_of_managed stored managed
    exact ⟨(desiredIff key.1).mpr activated.1, (managedIff key.1).mpr activated.2.1⟩
  · refine ⟨sortStrings active, sortStrings skipped,
      listsExactly_sortStrings effect.nodup_active fun ns => ?_,
      listsExactly_sortStrings effect.nodup_skipped fun ns => ?_,
      computedStatus_idem globalBoost (sortStrings active) (sortStrings skipped)⟩
    · rw [effect.mem_active, activatedIff, desiredIff, managedIff]
    · rw [effect.mem_skipped, skipped_noFaults, desiredIff, managedIff]

theorem PassEffect.distributed {final : Cluster} (boosts : final.boosts = after.boosts)
    (written : final.globals.get globalBoost.name =
      some { globalBoost with
        status := computedStatus globalBoost (sortStrings active) (sortStrings skipped) }) :
    Distributed globalBoost cluster final := by
  have activatedIff (ns : String) : Activated noFaults globalBoost cluster ns ↔
      Desired globalBoost cluster ns ∧ OnlyManaged globalBoost.name ns cluster := by
    rw [activated_noFaults, allManaged_iff_onlyManaged named]
  have skippedIff (ns : String) : Skipped noFaults globalBoost cluster ns ↔
      Desired globalBoost cluster ns ∧ ∃ name boost, cluster.boosts.get (ns, name) = some boost ∧
        ¬ ManagedBy globalBoost.name boost := by
    rw [skipped_noFaults, allManaged_iff_onlyManaged named, OnlyManaged]
    push Not
    rfl
  refine ⟨fun ns => ⟨?_, fun wanted => ?_⟩, fun key child present managed => ?_,
    fun key boost unowned => ?_, _, written, ?_, ?_, rfl, Int32.toInt_ofNat_of_lt⟩
  · rintro ⟨name, child, present, managed⟩
    rw [boosts] at present
    exact (activatedIff ns).mp (effect.activated_of_managed present managed)
  · refine ⟨childBoostName globalBoost.name, _, ?_, ensuredChild_managedBy globalBoost ns wanted.2⟩
    rw [boosts]
    exact effect.child_of_activated ((activatedIff ns).mpr wanted)
  · rw [boosts] at present
    rw [effect.eq_ensuredChild childrenNamed present managed]
    exact ensuredChild_template globalBoost key.1 cluster
  · rw [boosts]
    exact effect.others_unchanged childrenNamed named key unowned
  · exact listsExactly_sortStrings effect.nodup_active fun ns =>
      (effect.mem_active ns).trans (activatedIff ns)
  · exact listsExactly_sortStrings effect.nodup_skipped fun ns =>
      (effect.mem_skipped ns).trans (skippedIff ns)

end Passes

/-- A reconciliation without failed calls leaves exactly the wanted children and
a status that lists them, and after it another one makes no write. -/
theorem reconcile_distributes (lib : Library) (orders : ListOrders) (order : RangeOrder String)
    {globalBoost : GlobalStartupCPUBoost} {cluster : Cluster} (named : globalBoost.name ≠ "")
    (childrenNamed : ChildrenNamed cluster)
    (registered : cluster.globals.get globalBoost.name = some globalBoost)
    (finalizer : globalBoostFinalizer ∈ globalBoost.finalizers)
    (live : globalBoost.deletionTimestamp = none)
    (selector : globalBoost.spec.namespaceSelector.WellFormed lib.validLabelKey
      lib.validLabelValue) :
    let after := ((reconcileGlobal lib order globalBoost.name).run
      (Cluster.handle orders noFaults) cluster).2
    Distributed globalBoost cluster after ∧
      ∀ orders' order', ¬ (reconcileGlobal lib order' globalBoost.name).Makes
        (Cluster.handle orders' noFaults) IsWrite after := by
  have reaches : ReachesNamespaces noFaults globalBoost cluster lib :=
    ⟨rfl, registered, live, finalizer, selector, rfl⟩
  obtain ⟨after, active, skipped, effect, result⟩ := reaches.passes lib orders order
  have stillRegistered : after.globals.get globalBoost.name = some globalBoost := by
    rw [effect.globals, registered]
  obtain ⟨boosts, namespaces, written⟩ := updateStatus_noFaults orders globalBoost
    (sortStrings active) (sortStrings skipped) stillRegistered
  rw [← result] at boosts namespaces written
  refine ⟨effect.distributed childrenNamed named boosts written, fun orders' order' => ?_⟩
  have quiescent := effect.quiescent childrenNamed named boosts
    (namespaces.trans effect.namespaces)
  generalize computedStatus globalBoost _ _ = status at written quiescent
  exact (reconcileGlobal_makes_iff lib orders' order' { globalBoost with status := status } written
    finalizer live selector).mpr quiescent

namespace Reference

def emptyTeam : Cluster where
  namespaces := KeyedMap.empty.put team
  boosts := KeyedMap.empty
  globals := KeyedMap.empty.put globalBoost

/-- The child of `team` is created, and then nothing is left to do. -/
theorem reconcile_distributes_emptyTeam :
    let after := ((reconcileGlobal referenceLibrary .arbitrary globalBoost.name).run
      (Cluster.handle anyOrders noFaults) emptyTeam).2
    Distributed globalBoost emptyTeam after ∧
      ∀ orders' order', ¬ (reconcileGlobal referenceLibrary order' globalBoost.name).Makes
        (Cluster.handle orders' noFaults) IsWrite after := by
  refine reconcile_distributes referenceLibrary anyOrders .arbitrary (by decide +kernel) ?_
    (by decide +kernel) (List.mem_singleton_self _) rfl wellFormed_everything
  intro key boost owner stored
  rw [emptyTeam, KeyedMap.get_empty] at stored
  cases stored

end Reference

end KubeStartupCPUBoost
