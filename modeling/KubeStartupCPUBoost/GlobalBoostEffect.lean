import KubeStartupCPUBoost.GlobalBoostStep

/-!
# What a reconciliation of a global boost leaves behind

The result of a reconciliation is put together by several passes: the step for
each matching namespace, the cleanup by label over all namespaces, and the
status.  This file says what they leave together, under any pattern of failed
calls.  What a namespace holds afterwards is decided by the step for it and by
the cleanup.
-/

namespace KubeStartupCPUBoost

open GlobalCall CallProgram

section Loop

variable (orders : ListOrders) (faults : GlobalCall → Option ApiError)
  (globalBoost : GlobalStartupCPUBoost) {ns : String}

/-- One pass of the loop, by the outcome of its body. -/
theorem processNamespaces_cons (head : String) (rest active skipped : List String)
    (cluster : Cluster) :
    let body := (processNamespace globalBoost (childBoostName globalBoost.name) head).run
      (Cluster.handle orders faults) cluster
    (processNamespaces globalBoost (childBoostName globalBoost.name) (head :: rest) active
        skipped).run (Cluster.handle orders faults) cluster =
      (processNamespaces globalBoost (childBoostName globalBoost.name) rest
        (if body.1 = .active then active ++ [head] else active)
        (if body.1 = .skipped then skipped ++ [head] else skipped)).run
          (Cluster.handle orders faults) body.2 := by
  simp only [processNamespaces, run_bind]
  generalize (processNamespace globalBoost (childBoostName globalBoost.name) head).run
    (Cluster.handle orders faults) cluster = body
  obtain ⟨result, after⟩ := body
  cases result <;> rfl

private theorem mem_ite_append {item head : String} {items : List String} {condition : Prop}
    [Decidable condition] :
    (item ∈ if condition then items ++ [head] else items) ↔
      item ∈ items ∨ condition ∧ item = head := by
  by_cases holds : condition
  · rw [if_pos holds, List.mem_append, List.mem_singleton, and_iff_right holds]
  · rw [if_neg holds, or_iff_left fun appended => holds appended.1]

/-- The loop appends visited namespaces to the active and the skipped ones. -/
theorem processNamespaces_sublists (names active skipped : List String) (cluster : Cluster) :
    ∃ activated passedOver, ((processNamespaces globalBoost (childBoostName globalBoost.name) names
        active skipped).run (Cluster.handle orders faults) cluster).1 =
          (active ++ activated, skipped ++ passedOver) ∧
      activated.Sublist names ∧ passedOver.Sublist names := by
  induction names generalizing active skipped cluster with
  | nil => exact ⟨[], [], by simp [processNamespaces], .refl _, .refl _⟩
  | cons head rest ih =>
      rw [processNamespaces_cons]
      generalize (processNamespace globalBoost (childBoostName globalBoost.name) head).run
        (Cluster.handle orders faults) cluster = body
      obtain ⟨activated, passedOver, result, activatedWithin, passedOverWithin⟩ :=
        ih (if body.1 = .active then active ++ [head] else active)
          (if body.1 = .skipped then skipped ++ [head] else skipped) body.2
      rw [result]
      obtain ⟨outcome, after⟩ := body
      cases outcome with
      | active =>
          exact ⟨head :: activated, passedOver, by simp, activatedWithin.cons_cons head,
            passedOverWithin.cons head⟩
      | skipped =>
          exact ⟨activated, head :: passedOver, by simp, activatedWithin.cons head,
            passedOverWithin.cons_cons head⟩
      | failed =>
          exact ⟨activated, passedOver, by simp, activatedWithin.cons head,
            passedOverWithin.cons head⟩

/-- The loop does nothing in a namespace it does not visit. -/
theorem processNamespaces_of_not_mem (names active skipped : List String) (cluster : Cluster)
    (notVisited : ns ∉ names) :
    SameBoostsIn ns cluster ((processNamespaces globalBoost (childBoostName globalBoost.name) names
      active skipped).run (Cluster.handle orders faults) cluster).2 := by
  induction names generalizing active skipped cluster with
  | nil => exact fun _ => rfl
  | cons head rest ih =>
      obtain ⟨notHead, notRest⟩ := not_or.mp (mt List.mem_cons.mpr notVisited)
      have frame := run_sameBoostsIn orders faults (Ne.symm notHead)
        (calls_processNamespace globalBoost (childBoostName globalBoost.name) head) cluster
      rw [processNamespaces_cons]
      intro name
      exact (ih _ _ _ notRest name).trans (frame name)

/-- In a namespace the loop visits it does what the step for the namespace
does. -/
theorem processNamespaces_of_mem (names active skipped : List String) (cluster : Cluster)
    (distinct : names.Nodup) (visited : ns ∈ names) :
    let result := (processNamespaces globalBoost (childBoostName globalBoost.name) names active
      skipped).run (Cluster.handle orders faults) cluster
    ∃ outcome, StepEffect faults globalBoost ns cluster result.2 outcome ∧
      (ns ∈ result.1.1 ↔ ns ∈ active ∨ outcome = .active) ∧
      (ns ∈ result.1.2 ↔ ns ∈ skipped ∨ outcome = .skipped) := by
  induction names generalizing active skipped cluster with
  | nil => cases visited
  | cons head rest ih =>
      obtain ⟨headDistinct, restDistinct⟩ := List.nodup_cons.mp distinct
      rw [processNamespaces_cons]
      by_cases here : ns = head
      · subst here
        have effect : StepEffect faults globalBoost ns cluster _ _ :=
          processNamespace_effect orders cluster
        generalize (processNamespace globalBoost (childBoostName globalBoost.name) ns).run
          (Cluster.handle orders faults) cluster = body at effect ⊢
        obtain ⟨activated, passedOver, lists, activatedWithin, passedOverWithin⟩ :=
          processNamespaces_sublists orders faults globalBoost rest
            (if body.1 = .active then active ++ [ns] else active)
            (if body.1 = .skipped then skipped ++ [ns] else skipped) body.2
        refine ⟨body.1, effect.congr (fun _ => rfl)
          (processNamespaces_of_not_mem orders faults globalBoost rest _ _ _ headDistinct), ?_, ?_⟩
        · rw [lists, List.mem_append, or_iff_left (mt (activatedWithin.mem ·) headDistinct),
            mem_ite_append, and_iff_left rfl]
        · rw [lists, List.mem_append, or_iff_left (mt (passedOverWithin.mem ·) headDistinct),
            mem_ite_append, and_iff_left rfl]
      · have frame := run_sameBoostsIn orders faults (Ne.symm here)
          (calls_processNamespace globalBoost (childBoostName globalBoost.name) head) cluster
        generalize (processNamespace globalBoost (childBoostName globalBoost.name) head).run
          (Cluster.handle orders faults) cluster = body at frame ⊢
        obtain ⟨outcome, effect, isActive, isSkipped⟩ := ih
          (if body.1 = .active then active ++ [head] else active)
          (if body.1 = .skipped then skipped ++ [head] else skipped) body.2 restDistinct
          ((List.mem_cons.mp visited).resolve_left here)
        simp only [mem_ite_append, here, and_false, or_false] at isActive isSkipped
        exact ⟨outcome, effect.congr frame fun _ => rfl, isActive, isSkipped⟩

end Loop

theorem calls_processNamespaces (globalBoost : GlobalStartupCPUBoost) (childName : String)
    (names active skipped : List String) :
    (processNamespaces globalBoost childName names active skipped).AllCalls LeavesGlobals
      Possible := by
  induction names generalizing active skipped with
  | nil => trivial
  | cons head rest ih =>
      refine allCalls_bind ((calls_processNamespace globalBoost childName head).mono
        fun _ ofStep => ofStep.2) fun outcome => ?_
      cases outcome <;> exact ih _ _

section Cleanup

variable (orders : ListOrders) (faults : GlobalCall → Option ApiError)

private theorem calls_deleteStale (active : List String) (boosts : List StartupCPUBoost) :
    (deleteStale active boosts).AllCalls LeavesGlobals Possible := by
  induction boosts with
  | nil => trivial
  | cons boost rest ih =>
      unfold deleteStale
      split
      · exact ih
      · exact allCalls_request_bind trivial fun _ _ => ih

theorem calls_cleanupStaleChildren (globalBoostName : String) (active : List String) :
    (cleanupStaleChildren globalBoostName active).AllCalls LeavesGlobals Possible := by
  refine allCalls_request_bind trivial fun response _ => ?_
  cases response with
  | error err => trivial
  | ok boosts => exact allCalls_bind (calls_deleteStale active boosts) fun _ => trivial

private theorem deleteStale_get (active : List String) (boosts : List StartupCPUBoost)
    (cluster : Cluster) (key : BoostKey) (boost : StartupCPUBoost) :
    ((deleteStale active boosts).run (Cluster.handle orders faults) cluster).2.boosts.get key =
        some boost ↔
      cluster.boosts.get key = some boost ∧
        ¬ ((∃ listed ∈ boosts, listed.key = key ∧ listed.ns ∉ active) ∧
          faults (.deleteBoost .staleChild key) = none) := by
  induction boosts generalizing cluster with
  | nil => simp [deleteStale]
  | cons listed rest ih =>
      unfold deleteStale
      by_cases isActive : listed.ns ∈ active
      · rw [if_pos isActive, ih]
        simp [isActive]
      · rw [if_neg isActive, run_bind, ih, sendDeleteBoost_get]
        by_cases same : listed.key = key
        · subst same
          by_cases accepted : faults (.deleteBoost .staleChild listed.key) = none
          · simp [accepted, isActive]
          · simp [accepted]
        · simp [same, Ne.symm same]

/-- The cleanup deletes the managed boosts outside the active namespaces, as
far as the server lets it. -/
theorem cleanupStaleChildren_get (globalBoostName : String) (active : List String)
    (cluster : Cluster) (key : BoostKey) (boost : StartupCPUBoost) :
    ((cleanupStaleChildren globalBoostName active).run (Cluster.handle orders faults)
        cluster).2.boosts.get key = some boost ↔
      cluster.boosts.get key = some boost ∧
        ¬ (ManagedBy globalBoostName boost ∧ key.1 ∉ active ∧
          faults (.listManagedBoosts globalBoostName) = none ∧
          faults (.deleteBoost .staleChild key) = none) := by
  simp only [cleanupStaleChildren, run_bind, Cluster.run_sendListManagedBoosts]
  cases faults (.listManagedBoosts globalBoostName) with
  | some err => simp
  | none =>
      simp only [run_bind, run_pure]
      rw [deleteStale_get]
      refine and_congr_right fun stored => not_congr ?_
      have key_eq := KeyedMap.key_of_get stored
      rw [true_and, ← and_assoc]
      refine and_congr_left fun _ => ?_
      constructor
      · rintro ⟨listed, member, sameKey, notActive⟩
        obtain ⟨inValues, managed⟩ := List.mem_filter.mp member
        rw [KeyedMap.mem_values, sameKey, stored] at inValues
        cases inValues
        refine ⟨of_decide_eq_true managed, ?_⟩
        rwa [← sameKey]
      · rintro ⟨managed, notActive⟩
        refine ⟨boost, List.mem_filter.mpr ⟨?_, ?_⟩, key_eq, ?_⟩
        · rw [KeyedMap.mem_values, key_eq]
          exact stored
        · exact decide_eq_true managed
        · rwa [show boost.ns = key.1 from congrArg Prod.fst key_eq]

end Cleanup

section Status

def computedStatus (globalBoost : GlobalStartupCPUBoost)
    (activeNamespaces skippedNamespaces : List String) : GlobalStartupCPUBoostStatus where
  namespaceCount := Int32.ofNat activeNamespaces.length
  activeNamespaces := activeNamespaces
  skippedNamespaces := skippedNamespaces
  conditions :=
    setStatusCondition (activeCondition activeNamespaces) globalBoost.status.conditions

/-- What is reported when the status could not be written. -/
def statusFailure (err : ApiError) : Except String ReconcileResult :=
  if err.reason = .conflict then .ok { requeue := true }
  else if err.reason = .notFound then .ok {}
  else .error err.message

variable (orders : ListOrders) (faults : GlobalCall → Option ApiError)
  (globalBoost : GlobalStartupCPUBoost) (active skipped : List String)

/-- The status is written if it has changed. -/
theorem updateStatus_run (cluster : Cluster) :
    (updateStatus globalBoost active skipped).run (Cluster.handle orders faults) cluster =
      if computedStatus globalBoost active skipped = globalBoost.status then (.ok {}, cluster)
      else
        match faults (.updateGlobalStatus
            { globalBoost with status := computedStatus globalBoost active skipped }) with
        | some err => (statusFailure err, cluster)
        | none =>
            match cluster.globals.get globalBoost.name with
            | none => (.ok {}, cluster)
            | some stored =>
                (.ok {}, { cluster with
                  globals := cluster.globals.put
                    { stored with status := computedStatus globalBoost active skipped } }) := by
  by_cases same : computedStatus globalBoost active skipped = globalBoost.status
  · have unchanged : updateStatus globalBoost active skipped = pure (.ok {}) :=
      if_neg (not_not.mpr same)
    rw [unchanged, if_pos same, run_pure]
  · have sends : updateStatus globalBoost active skipped =
        (sendUpdateGlobalStatus { globalBoost with
          status := computedStatus globalBoost active skipped } >>= _) := if_pos same
    rw [sends, if_neg same, run_bind, Cluster.run_sendUpdateGlobalStatus]
    cases faults (.updateGlobalStatus { globalBoost with
        status := computedStatus globalBoost active skipped }) with
    | some err =>
        simp only [statusFailure]
        split
        · rfl
        · split <;> rfl
    | none =>
        cases cluster.globals.get globalBoost.name <;> rfl

/-- The status call writes no boost. -/
@[simp]
theorem updateStatus_boosts (cluster : Cluster) :
    ((updateStatus globalBoost active skipped).run (Cluster.handle orders faults)
      cluster).2.boosts = cluster.boosts := by
  rw [updateStatus_run]
  split
  · rfl
  · split
    · rfl
    · split <;> rfl

end Status

section Reconcile

variable (faults : GlobalCall → Option ApiError) (globalBoost : GlobalStartupCPUBoost)
  (cluster : Cluster)

/-- A namespace that the selector matches and that is not terminating. -/
def Desired (ns : String) : Prop :=
  ∃ stored, cluster.namespaces.get ns = some stored ∧
    globalBoost.spec.namespaceSelector.selects stored.labels = true ∧
    stored.deletionTimestamp = none

def Activated (ns : String) : Prop :=
  Desired globalBoost cluster ns ∧ AllManaged globalBoost.name ns cluster ∧
    StepSucceeds faults globalBoost ns cluster

def Skipped (ns : String) : Prop :=
  Desired globalBoost cluster ns ∧ ¬ AllManaged globalBoost.name ns cluster ∧
    faults (.listBoosts ns) = none

/-- The cleanup deletes a boost outside the active namespaces. -/
def StaleDeletes (key : BoostKey) (boost : StartupCPUBoost) : Prop :=
  ManagedBy globalBoost.name boost ∧ faults (.listManagedBoosts globalBoost.name) = none ∧
    faults (.deleteBoost .staleChild key) = none

/-- What the passes over the namespaces and the cleanup leave: the children of
the active namespaces, and elsewhere everything but the boosts deleted from
skipped namespaces and by the cleanup. -/
structure PassEffect (after : Cluster) (active skipped : List String) : Prop where
  globals : after.globals = cluster.globals
  namespaces : after.namespaces = cluster.namespaces
  nodup_active : active.Nodup
  mem_active : ∀ ns, ns ∈ active ↔ Activated faults globalBoost cluster ns
  nodup_skipped : skipped.Nodup
  mem_skipped : ∀ ns, ns ∈ skipped ↔ Skipped faults globalBoost cluster ns
  ensured : ∀ ns, Activated faults globalBoost cluster ns → ∀ name,
    after.boosts.get (ns, name) =
      if name = childBoostName globalBoost.name then some (ensuredChild globalBoost ns cluster)
      else cluster.boosts.get (ns, name)
  kept : ∀ ns, ¬ Activated faults globalBoost cluster ns → ∀ name boost,
    after.boosts.get (ns, name) = some boost ↔
      cluster.boosts.get (ns, name) = some boost ∧
        ¬ (Desired globalBoost cluster ns ∧
          SkipDeletes faults globalBoost ns cluster name boost) ∧
        ¬ StaleDeletes faults globalBoost (ns, name) boost

theorem mem_desiredNamespaces_iff (orders : ListOrders) (ns : String) :
    ns ∈ desiredNamespaces ((cluster.namespaces.values orders.namespaces).filter fun other =>
        globalBoost.spec.namespaceSelector.selects other.labels) ↔
      Desired globalBoost cluster ns := by
  simp only [desiredNamespaces, List.mem_toFinset, List.mem_map, List.mem_filter,
    KeyedMap.mem_values, decide_eq_true_eq]
  constructor
  · rintro ⟨stored, ⟨⟨present, selected⟩, live⟩, rfl⟩
    exact ⟨stored, present, selected, live⟩
  · rintro ⟨stored, present, selected, live⟩
    have sameName := KeyedMap.key_of_get present
    exact ⟨stored, ⟨⟨by rwa [sameName], selected⟩, live⟩, sameName⟩

variable {globalBoost cluster}

/-- The loop over the matching namespaces: what it leaves in a namespace, and
whether it counts the namespace as active or skipped. -/
theorem processNamespaces_effect (orders : ListOrders) {names : List String}
    (distinct : names.Nodup) (visits : ∀ ns, ns ∈ names ↔ Desired globalBoost cluster ns)
    (ns : String) :
    let result := (processNamespaces globalBoost (childBoostName globalBoost.name) names [] []).run
      (Cluster.handle orders faults) cluster
    (ns ∈ result.1.1 ↔ Activated faults globalBoost cluster ns) ∧
      (ns ∈ result.1.2 ↔ Skipped faults globalBoost cluster ns) ∧
      (Activated faults globalBoost cluster ns → ∀ name, result.2.boosts.get (ns, name) =
        if name = childBoostName globalBoost.name then some (ensuredChild globalBoost ns cluster)
        else cluster.boosts.get (ns, name)) ∧
      (¬ Activated faults globalBoost cluster ns → ∀ name boost,
        result.2.boosts.get (ns, name) = some boost ↔
          cluster.boosts.get (ns, name) = some boost ∧
            ¬ (Desired globalBoost cluster ns ∧
              SkipDeletes faults globalBoost ns cluster name boost)) := by
  by_cases desired : Desired globalBoost cluster ns
  · obtain ⟨outcome, effect, isActive, isSkipped⟩ := processNamespaces_of_mem orders faults
      globalBoost names [] [] cluster distinct ((visits ns).mpr desired)
    have activated : outcome = .active ↔ Activated faults globalBoost cluster ns :=
      effect.active.trans (and_iff_right desired).symm
    have skipped : outcome = .skipped ↔ Skipped faults globalBoost cluster ns :=
      effect.skipped.trans (and_iff_right desired).symm
    simp only [List.not_mem_nil, false_or] at isActive isSkipped
    refine ⟨isActive.trans activated, isSkipped.trans skipped,
      fun active => effect.ensured (activated.mpr active), fun notActive name boost => ?_⟩
    rw [effect.kept (mt activated.mp notActive), and_iff_right desired]
  · have notVisited : ns ∉ names := mt (visits ns).mp desired
    obtain ⟨active, skipped, lists, activeWithin, skippedWithin⟩ :=
      processNamespaces_sublists orders faults globalBoost names [] [] cluster
    have same := processNamespaces_of_not_mem orders faults globalBoost names [] [] cluster
      notVisited
    refine ⟨iff_of_false ?_ fun activated => desired activated.1,
      iff_of_false ?_ fun skipped => desired skipped.1,
      fun activated => absurd activated.1 desired, fun _ name boost => ?_⟩
    · rw [lists]
      exact fun member => notVisited (activeWithin.mem member)
    · rw [lists]
      exact fun member => notVisited (skippedWithin.mem member)
    · rw [same name]
      simp [desired]

variable {faults} (lib : Library) (orders : ListOrders) (order : RangeOrder String)

def reconcileNamespaces (globalBoost : GlobalStartupCPUBoost) (names : List String) :
    GlobalProgram (Except String ReconcileResult) := do
  let (active, skipped) ← processNamespaces globalBoost (childBoostName globalBoost.name) names
    [] []
  let _ ← cleanupStaleChildren globalBoost.name active
  updateStatus globalBoost (sortStrings active) (sortStrings skipped)

variable (cluster)

/-- A reconciliation that can list the namespaces goes on with the matching
ones, in some order. -/
theorem reconcile_visits
    (selector : globalBoost.spec.namespaceSelector.WellFormed lib.validLabelKey
      lib.validLabelValue)
    (namespaces : faults (.listNamespaces globalBoost.spec.namespaceSelector) = none) :
    ∃ names : List String, names.Nodup ∧ (∀ ns, ns ∈ names ↔ Desired globalBoost cluster ns) ∧
      (reconcile lib order globalBoost).run (Cluster.handle orders faults) cluster =
        (reconcileNamespaces globalBoost names).run (Cluster.handle orders faults) cluster ∧
      ∀ kind, ¬ kind (.listNamespaces globalBoost.spec.namespaceSelector) →
        ((reconcile lib order globalBoost).Makes (Cluster.handle orders faults) kind cluster ↔
          (reconcileNamespaces globalBoost names).Makes (Cluster.handle orders faults) kind
            cluster) := by
  refine ⟨_, order.nodup _, fun ns => (order.mem_list _ ns).trans
    (mem_desiredNamespaces_iff globalBoost cluster orders ns), ?_, fun kind notListing => ?_⟩
  · simp only [reconcile, lib.labelSelectorAsSelector_ok _ selector, run_bind,
      Cluster.run_sendListNamespaces, namespaces, reconcileNamespaces]
  · have silent : ¬ (sendListNamespaces globalBoost.spec.namespaceSelector).Makes
        (Cluster.handle orders faults) kind cluster := (makes_request _ _ _ _).not.mpr notListing
    simp only [reconcile, lib.labelSelectorAsSelector_ok _ selector]
    rw [makes_bind, or_iff_right silent, Cluster.run_sendListNamespaces, namespaces]
    rfl

/-- A reconciliation that gets as far as the namespaces goes through them,
cleans up, and then writes the status. -/
theorem reconcile_passes
    (selector : globalBoost.spec.namespaceSelector.WellFormed lib.validLabelKey
      lib.validLabelValue)
    (namespaces : faults (.listNamespaces globalBoost.spec.namespaceSelector) = none) :
    ∃ after active skipped, PassEffect faults globalBoost cluster after active skipped ∧
      (reconcile lib order globalBoost).run (Cluster.handle orders faults) cluster =
        (updateStatus globalBoost (sortStrings active) (sortStrings skipped)).run
          (Cluster.handle orders faults) after := by
  obtain ⟨names, distinct, visits, result, -⟩ := reconcile_visits cluster lib orders order selector
    namespaces
  simp only [result, reconcileNamespaces, run_bind]
  have loopEffect := processNamespaces_effect faults orders distinct visits
  obtain ⟨active, skipped, lists, activeWithin, skippedWithin⟩ :=
    processNamespaces_sublists orders faults globalBoost names [] [] cluster
  have loopGlobals := run_globals orders faults (calls_processNamespaces globalBoost
    (childBoostName globalBoost.name) names [] []) cluster
  have loopNamespaces := run_namespaces orders faults (processNamespaces globalBoost
    (childBoostName globalBoost.name) names [] []) cluster
  generalize (processNamespaces globalBoost (childBoostName globalBoost.name) names [] []).run
    (Cluster.handle orders faults) cluster = loop at *
  obtain ⟨lists', looped⟩ := loop
  obtain rfl := lists
  simp only [List.nil_append] at loopEffect ⊢
  refine ⟨_, active, skipped, ?_, rfl⟩
  refine
    { globals := (run_globals orders faults (calls_cleanupStaleChildren _ _) looped).trans
        loopGlobals
      namespaces := (run_namespaces orders faults _ looped).trans loopNamespaces
      nodup_active := distinct.sublist activeWithin
      mem_active := fun ns => (loopEffect ns).1
      nodup_skipped := distinct.sublist skippedWithin
      mem_skipped := fun ns => (loopEffect ns).2.1
      ensured := fun ns activated name => ?_
      kept := fun ns notActivated name boost => ?_ }
  · rw [← (loopEffect ns).2.2.1 activated name]
    refine Option.ext fun boost => ?_
    rw [cleanupStaleChildren_get, (loopEffect ns).1]
    simp [activated]
  · rw [cleanupStaleChildren_get, (loopEffect ns).1, (loopEffect ns).2.2.2 notActivated]
    simp only [notActivated, not_false_eq_true, true_and, StaleDeletes, and_assoc]

variable {cluster}

/-- A global boost that is read, not being deleted and finalized is
reconciled. -/
theorem reconcileGlobal_run (read : faults (.getGlobal globalBoost.name) = none)
    (registered : cluster.globals.get globalBoost.name = some globalBoost)
    (finalizer : globalBoostFinalizer ∈ globalBoost.finalizers)
    (live : globalBoost.deletionTimestamp = none) :
    (reconcileGlobal lib order globalBoost.name).run (Cluster.handle orders faults) cluster =
      (reconcile lib order globalBoost).run (Cluster.handle orders faults) cluster := by
  rw [reconcileGlobal, run_bind, Cluster.run_sendGetGlobal, read, registered]
  simp only [live, ne_eq, not_true_eq_false, if_false, finalizer]

variable (faults globalBoost cluster) in
/-- The global boost is read, it is not being deleted, it has the finalizer, and
the namespaces its selector matches are listed. -/
structure ReachesNamespaces : Prop where
  read : faults (.getGlobal globalBoost.name) = none
  registered : cluster.globals.get globalBoost.name = some globalBoost
  live : globalBoost.deletionTimestamp = none
  finalizer : globalBoostFinalizer ∈ globalBoost.finalizers
  selector : globalBoost.spec.namespaceSelector.WellFormed lib.validLabelKey lib.validLabelValue
  listed : faults (.listNamespaces globalBoost.spec.namespaceSelector) = none

theorem ReachesNamespaces.passes
    (reaches : ReachesNamespaces faults globalBoost cluster lib) :
    ∃ after active skipped, PassEffect faults globalBoost cluster after active skipped ∧
      (reconcileGlobal lib order globalBoost.name).run (Cluster.handle orders faults) cluster =
        (updateStatus globalBoost (sortStrings active) (sortStrings skipped)).run
          (Cluster.handle orders faults) after := by
  rw [reconcileGlobal_run lib orders order reaches.read reaches.registered reaches.finalizer
    reaches.live]
  exact reconcile_passes cluster lib orders order reaches.selector reaches.listed

variable (faults) in
/-- The ways a reconciliation can go, with the cluster it leaves. -/
inductive ReconcilePath (cluster : Cluster) (name : String) : Cluster → Prop where
  | unread (rejected : faults (.getGlobal name) ≠ none) : ReconcilePath cluster name cluster
  | missing (missing : cluster.globals.get name = none) : ReconcilePath cluster name cluster
  | deleting (globalBoost : GlobalStartupCPUBoost)
      (registered : cluster.globals.get name = some globalBoost)
      (deleted : globalBoost.deletionTimestamp ≠ none) :
      ReconcilePath cluster name
        ((handleDeletion globalBoost).run (Cluster.handle orders faults) cluster).2
  | finalizing (globalBoost : GlobalStartupCPUBoost)
      (registered : cluster.globals.get name = some globalBoost)
      (noFinalizer : globalBoostFinalizer ∉ globalBoost.finalizers) :
      ReconcilePath cluster name
        ((sendUpdateGlobal { globalBoost with
          finalizers := globalBoost.finalizers ++ [globalBoostFinalizer] }).run
            (Cluster.handle orders faults) cluster).2
  | malformed (globalBoost : GlobalStartupCPUBoost)
      (registered : cluster.globals.get name = some globalBoost)
      (malformed : ¬ globalBoost.spec.namespaceSelector.WellFormed lib.validLabelKey
        lib.validLabelValue) : ReconcilePath cluster name cluster
  | unlisted (selector : LabelSelector) (rejected : faults (.listNamespaces selector) ≠ none) :
      ReconcilePath cluster name cluster
  | reaching (globalBoost : GlobalStartupCPUBoost) (sameName : globalBoost.name = name)
      (reaches : ReachesNamespaces faults globalBoost cluster lib) (passed : Cluster)
      (active skipped : List String)
      (effect : PassEffect faults globalBoost cluster passed active skipped) :
      ReconcilePath cluster name
        ((updateStatus globalBoost (sortStrings active) (sortStrings skipped)).run
          (Cluster.handle orders faults) passed).2

variable (faults cluster) in
theorem reconcileGlobal_path (name : String) :
    ReconcilePath faults lib orders cluster name
      ((reconcileGlobal lib order name).run (Cluster.handle orders faults) cluster).2 := by
  cases read : faults (.getGlobal name) with
  | some err =>
      have rejected : faults (.getGlobal name) ≠ none := by
        rw [read]
        exact Option.some_ne_none err
      simp only [reconcileGlobal, run_bind, Cluster.run_sendGetGlobal, read]
      split <;> exact .unread rejected
  | none =>
      cases registered : cluster.globals.get name with
      | none =>
          simp only [reconcileGlobal, run_bind, Cluster.run_sendGetGlobal, read, registered]
          split <;> exact .missing registered
      | some globalBoost =>
          have sameName : globalBoost.name = name := KeyedMap.key_of_get registered
          simp only [reconcileGlobal, run_bind, Cluster.run_sendGetGlobal, read, registered]
          by_cases deleted : globalBoost.deletionTimestamp ≠ none
          · rw [if_pos deleted]
            exact .deleting globalBoost registered deleted
          · rw [if_neg deleted]
            by_cases noFinalizer : globalBoostFinalizer ∉ globalBoost.finalizers
            · rw [if_pos noFinalizer]
              simp only [run_bind]
              split <;> exact .finalizing globalBoost registered noFinalizer
            · rw [if_neg noFinalizer]
              by_cases selector : globalBoost.spec.namespaceSelector.WellFormed lib.validLabelKey
                  lib.validLabelValue
              · cases listed : faults (.listNamespaces globalBoost.spec.namespaceSelector) with
                | some err =>
                    have rejected :
                        faults (.listNamespaces globalBoost.spec.namespaceSelector) ≠ none := by
                      rw [listed]
                      exact Option.some_ne_none err
                    simp only [reconcile, lib.labelSelectorAsSelector_ok _ selector, run_bind,
                      Cluster.run_sendListNamespaces, listed]
                    exact .unlisted _ rejected
                | none =>
                    have reaches : ReachesNamespaces faults globalBoost cluster lib := by
                      subst sameName
                      exact ⟨read, registered, not_not.mp deleted, not_not.mp noFinalizer,
                        selector, listed⟩
                    obtain ⟨passed, active, skipped, effect, result⟩ :=
                      reconcile_passes cluster lib orders order selector listed
                    rw [result]
                    exact .reaching globalBoost sameName reaches passed active skipped effect
              · obtain ⟨message, invalid⟩ := lib.labelSelectorAsSelector_error _ selector
                simp only [reconcile, invalid]
                exact .malformed globalBoost registered selector

end Reconcile

end KubeStartupCPUBoost
