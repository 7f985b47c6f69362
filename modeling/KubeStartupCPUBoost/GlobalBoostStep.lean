import KubeStartupCPUBoost.GlobalBoostReconcile

/-!
# One namespace of a global boost

For each matching namespace the reconciler checks for boosts of other owners
and then creates, updates or deletes the child.  This file says what such a step
leaves, under any pattern of failed calls: a step for one namespace writes to
that namespace only, and it leaves the child of the template, or everything as
it was, or everything but one deleted boost.
-/

namespace KubeStartupCPUBoost

namespace GlobalCall

def WritesIn (ns : String) : GlobalCall → Prop
  | createBoost boost => boost.ns = ns
  | updateBoost boost => boost.ns = ns
  | deleteBoost _ key => key.1 = ns
  | _ => True

def LeavesGlobals : GlobalCall → Prop
  | updateGlobal _ => False
  | updateGlobalStatus _ => False
  | _ => True

def OfStep (ns : String) (call : GlobalCall) : Prop := call.WritesIn ns ∧ call.LeavesGlobals

/-- A boost that is read has the key that was asked for. -/
def Possible : (call : GlobalCall) → Except ApiError call.Payload → Prop
  | getBoost ns name, .ok boost => boost.key = (ns, name)
  | _, _ => True

end GlobalCall

open GlobalCall CallProgram

def noFaults : GlobalCall → Option ApiError := fun _ => none

def SameBoostsIn (ns : String) (before after : Cluster) : Prop :=
  ∀ name, after.boosts.get (ns, name) = before.boosts.get (ns, name)

section Handle

variable (orders : ListOrders) (faults : GlobalCall → Option ApiError)

theorem handle_of_fault {faults : GlobalCall → Option ApiError} {call : GlobalCall}
    {err : ApiError} (rejected : faults call = some err) (cluster : Cluster) :
    Cluster.handle orders faults call cluster = (.error err, cluster) := by
  rw [Cluster.handle, rejected]

theorem handle_of_accepted {faults : GlobalCall → Option ApiError} {call : GlobalCall}
    (accepted : faults call = none) (cluster : Cluster) :
    Cluster.handle orders faults call cluster = Cluster.answer orders call cluster := by
  rw [Cluster.handle, accepted]

theorem handle_possible (call : GlobalCall) (cluster : Cluster) :
    call.Possible (Cluster.handle orders faults call cluster).1 := by
  cases rejected : faults call with
  | some err =>
      rw [handle_of_fault orders rejected]
      cases call <;> trivial
  | none =>
      rw [handle_of_accepted orders rejected]
      cases call with
      | getBoost ns name =>
          rw [Cluster.answer]
          cases present : cluster.boosts.get (ns, name) with
          | none => trivial
          | some boost => exact KeyedMap.key_of_get present
      | _ => trivial

theorem handle_sameBoostsIn {ns other : String} (different : other ≠ ns) {call : GlobalCall}
    (writes : call.WritesIn other) (cluster : Cluster) :
    SameBoostsIn ns cluster (Cluster.handle orders faults call cluster).2 := by
  intro name
  have outside (key : BoostKey) (within : key.1 = other) : (ns, name) ≠ key := by
    rintro rfl
    exact different within.symm
  cases rejected : faults call with
  | some err => rw [handle_of_fault orders rejected]
  | none =>
      rw [handle_of_accepted orders rejected]
      cases call with
      | createBoost boost =>
          rw [Cluster.answer]
          split
          · rfl
          · exact (KeyedMap.get_put _ _ _).trans (if_neg (outside boost.key writes))
      | updateBoost boost =>
          rw [Cluster.answer]
          split
          · rfl
          · exact (KeyedMap.get_put _ _ _).trans (if_neg (outside boost.key writes))
      | deleteBoost site key =>
          rw [Cluster.answer]
          split
          · rfl
          · exact (KeyedMap.get_remove _ _ _).trans (if_neg (outside _ writes))
      | updateGlobal sent =>
          rw [Cluster.answer]
          split
          · rfl
          · split <;> rfl
      | updateGlobalStatus sent =>
          rw [Cluster.answer]
          split <;> rfl
      | getGlobal name =>
          rw [Cluster.answer]
          split <;> rfl
      | getBoost ns name =>
          rw [Cluster.answer]
          split <;> rfl
      | listNamespaces selector => rfl
      | listBoosts ns => rfl
      | listManagedBoosts name => rfl

theorem handle_globals {call : GlobalCall} (leaves : call.LeavesGlobals) (cluster : Cluster) :
    (Cluster.handle orders faults call cluster).2.globals = cluster.globals := by
  cases rejected : faults call with
  | some err => rw [handle_of_fault orders rejected]
  | none =>
      rw [handle_of_accepted orders rejected]
      cases call with
      | updateGlobal sent => cases leaves
      | updateGlobalStatus sent => cases leaves
      | listNamespaces selector => rfl
      | listBoosts ns => rfl
      | listManagedBoosts name => rfl
      | _ =>
          rw [Cluster.answer]
          split <;> rfl

private theorem handle_namespaces (call : GlobalCall) (cluster : Cluster) :
    (Cluster.handle orders faults call cluster).2.namespaces = cluster.namespaces := by
  cases rejected : faults call with
  | some err => rw [handle_of_fault orders rejected]
  | none =>
      rw [handle_of_accepted orders rejected]
      cases call with
      | updateGlobal sent =>
          rw [Cluster.answer]
          split
          · rfl
          · split <;> rfl
      | listNamespaces selector => rfl
      | listBoosts ns => rfl
      | listManagedBoosts name => rfl
      | _ =>
          rw [Cluster.answer]
          split <;> rfl

/-- The rule for a program that writes in one namespace only. -/
theorem run_sameBoostsIn {α : Type} {ns other : String} (different : other ≠ ns)
    {program : GlobalProgram α} (calls : program.AllCalls (OfStep other) Possible)
    (cluster : Cluster) :
    SameBoostsIn ns cluster (program.run (Cluster.handle orders faults) cluster).2 := by
  refine run_preserves (fun call state _ => handle_possible orders faults call state) ?_ calls
    fun _ => rfl
  intro call state within same name
  exact (handle_sameBoostsIn orders faults different within.1 state name).trans (same name)

theorem run_globals {α : Type} {program : GlobalProgram α}
    (calls : program.AllCalls LeavesGlobals Possible) (cluster : Cluster) :
    (program.run (Cluster.handle orders faults) cluster).2.globals = cluster.globals :=
  run_preserves (fun call state _ => handle_possible orders faults call state)
    (fun _ state leaves same => (handle_globals orders faults leaves state).trans same)
    calls rfl

@[simp]
theorem run_namespaces {α : Type} (program : GlobalProgram α) (cluster : Cluster) :
    (program.run (Cluster.handle orders faults) cluster).2.namespaces = cluster.namespaces := by
  induction program generalizing cluster with
  | done result => rfl
  | call request next ih => exact (ih _ _).trans (handle_namespaces orders faults request cluster)

theorem sendDeleteBoost_get (site : DeleteSite) (deleted key : BoostKey) (cluster : Cluster) :
    ((sendDeleteBoost site deleted).run (Cluster.handle orders faults) cluster).2.boosts.get key =
      if key = deleted ∧ faults (.deleteBoost site deleted) = none then none
      else cluster.boosts.get key := by
  rw [Cluster.run_sendDeleteBoost]
  cases faults (.deleteBoost site deleted) with
  | some err => simp
  | none =>
      cases stored : cluster.boosts.get deleted with
      | none =>
          simp only [and_true]
          by_cases same : key = deleted
          · rw [if_pos same, same, stored]
          · rw [if_neg same]
      | some boost => simp [KeyedMap.get_remove]

end Handle

private theorem calls_hasUnmanagedBoosts (ns globalBoostName : String) :
    (hasUnmanagedBoosts ns globalBoostName).AllCalls (OfStep ns) Possible := by
  refine allCalls_request_bind ⟨trivial, trivial⟩ fun response _ => ?_
  cases response <;> trivial

private theorem calls_ensureChild (globalBoost : GlobalStartupCPUBoost) (ns childName : String) :
    (ensureChild globalBoost ns childName).AllCalls (OfStep ns) Possible := by
  refine allCalls_request_bind ⟨trivial, trivial⟩ fun response read => ?_
  cases response with
  | error err =>
      simp only
      split
      · refine allCalls_request_bind ⟨rfl, trivial⟩ fun response _ => ?_
        cases response <;> trivial
      · trivial
  | ok existing =>
      have sameNs : existing.ns = ns := congrArg Prod.fst read
      simp only
      split
      · trivial
      · split
        · refine allCalls_request_bind ⟨sameNs, trivial⟩ fun response _ => ?_
          cases response <;> trivial
        · trivial

private theorem calls_deleteChildIfExists (childName ns : String) :
    (deleteChildIfExists childName ns).AllCalls (OfStep ns) Possible := by
  refine allCalls_request_bind ⟨trivial, trivial⟩ fun response read => ?_
  cases response with
  | error err => trivial
  | ok existing =>
      have sameNs : existing.key.1 = ns := congrArg Prod.fst read
      simp only
      split
      · trivial
      · exact allCalls_request_bind ⟨sameNs, trivial⟩ fun response _ => trivial

theorem calls_processNamespace (globalBoost : GlobalStartupCPUBoost) (childName ns : String) :
    (processNamespace globalBoost childName ns).AllCalls (OfStep ns) Possible := by
  refine allCalls_bind (calls_hasUnmanagedBoosts ns _) fun unmanaged => ?_
  cases unmanaged with
  | error err => trivial
  | ok found =>
      cases found with
      | true => exact allCalls_bind (calls_deleteChildIfExists childName ns) fun _ => trivial
      | false =>
          refine allCalls_bind (calls_ensureChild globalBoost ns childName) fun ensured => ?_
          cases ensured <;> trivial

def ManagedBy (globalBoostName : String) (boost : StartupCPUBoost) : Prop :=
  boost.labels.lookup managedByGlobalBoostLabel = some globalBoostName

instance (globalBoostName : String) (boost : StartupCPUBoost) :
    Decidable (ManagedBy globalBoostName boost) :=
  inferInstanceAs (Decidable (_ = _))

theorem ManagedBy.managedBy_eq {globalBoostName : String} {boost : StartupCPUBoost}
    (managed : ManagedBy globalBoostName boost) : boost.managedBy = globalBoostName := by
  rw [StartupCPUBoost.managedBy, show _ = some _ from managed]
  rfl

/-- No boost of a namespace counts as one of another owner. -/
def AllManaged (globalBoostName ns : String) (cluster : Cluster) : Prop :=
  ∀ name boost, cluster.boosts.get (ns, name) = some boost → boost.managedBy = globalBoostName

def OnlyManaged (globalBoostName ns : String) (cluster : Cluster) : Prop :=
  ∀ name boost, cluster.boosts.get (ns, name) = some boost → ManagedBy globalBoostName boost

theorem OnlyManaged.allManaged {globalBoostName ns : String} {cluster : Cluster}
    (managed : OnlyManaged globalBoostName ns cluster) : AllManaged globalBoostName ns cluster :=
  fun name boost present => (managed name boost present).managedBy_eq

private theorem managedBy_eq_iff {globalBoostName : String} (named : globalBoostName ≠ "")
    (boost : StartupCPUBoost) :
    boost.managedBy = globalBoostName ↔ ManagedBy globalBoostName boost := by
  refine ⟨fun owner => ?_, ManagedBy.managedBy_eq⟩
  unfold ManagedBy
  unfold StartupCPUBoost.managedBy at owner
  cases label : boost.labels.lookup managedByGlobalBoostLabel with
  | none =>
      rw [label] at owner
      exact absurd owner.symm named
  | some value =>
      rw [label] at owner
      exact congrArg some owner

/-- A global boost with a name takes no boost without the label for its own. -/
theorem allManaged_iff_onlyManaged {globalBoostName : String} (named : globalBoostName ≠ "")
    (ns : String) (cluster : Cluster) :
    AllManaged globalBoostName ns cluster ↔ OnlyManaged globalBoostName ns cluster := by
  simp only [AllManaged, OnlyManaged, managedBy_eq_iff named]

theorem SameBoostsIn.allManaged_iff {globalBoostName ns : String} {before after : Cluster}
    (same : SameBoostsIn ns before after) :
    AllManaged globalBoostName ns after ↔ AllManaged globalBoostName ns before := by
  simp only [AllManaged, same _]

section Namespace

variable (orders : ListOrders) (faults : GlobalCall → Option ApiError)
  (globalBoost : GlobalStartupCPUBoost) (ns : String)

/-- The child is read and, if it differs, updated; or it is found missing and
created. -/
def EnsureSucceeds (cluster : Cluster) : Prop :=
  let childName := childBoostName globalBoost.name
  let desired := buildChildBoost globalBoost ns childName
  match cluster.boosts.get (ns, childName) with
  | none =>
      (∀ err, faults (.getBoost ns childName) = some err → err.reason = .notFound) ∧
        faults (.createBoost desired) = none
  | some existing =>
      faults (.getBoost ns childName) = none ∧
        ((existing.selector = desired.selector ∧ existing.spec = desired.spec) ∨
          faults (.updateBoost { existing with
            selector := desired.selector, spec := desired.spec }) = none)

/-- No call in the step for a namespace fails in a way that matters. -/
def StepSucceeds (cluster : Cluster) : Prop :=
  faults (.listBoosts ns) = none ∧ EnsureSucceeds faults globalBoost ns cluster

theorem stepSucceeds_congr {before after : Cluster} (same : SameBoostsIn ns before after) :
    StepSucceeds faults globalBoost ns after ↔ StepSucceeds faults globalBoost ns before := by
  simp only [StepSucceeds, EnsureSucceeds, same (childBoostName globalBoost.name)]

/-- The child a namespace ends up with: the one it has, with the template's
selector and specification, or a new one. -/
def ensuredChild (cluster : Cluster) : StartupCPUBoost :=
  match cluster.boosts.get (ns, childBoostName globalBoost.name) with
  | none => buildChildBoost globalBoost ns (childBoostName globalBoost.name)
  | some existing =>
      { existing with
        selector := globalBoost.spec.template.selector
        spec := globalBoost.spec.template.spec }

theorem ensuredChild_key (cluster : Cluster) :
    (ensuredChild globalBoost ns cluster).key = (ns, childBoostName globalBoost.name) := by
  unfold ensuredChild
  cases stored : cluster.boosts.get (ns, childBoostName globalBoost.name) with
  | none => rfl
  | some existing =>
      have key := KeyedMap.key_of_get stored
      exact key

theorem ensuredChild_template (cluster : Cluster) :
    (ensuredChild globalBoost ns cluster).selector = globalBoost.spec.template.selector ∧
      (ensuredChild globalBoost ns cluster).spec = globalBoost.spec.template.spec := by
  unfold ensuredChild
  split <;> exact ⟨rfl, rfl⟩

theorem ensuredChild_managedBy {cluster : Cluster}
    (managed : OnlyManaged globalBoost.name ns cluster) :
    ManagedBy globalBoost.name (ensuredChild globalBoost ns cluster) := by
  unfold ensuredChild
  cases stored : cluster.boosts.get (ns, childBoostName globalBoost.name) with
  | none => exact Finmap.lookup_insert _
  | some existing =>
      have label := managed _ _ stored
      exact label

/-- The step for a namespace with boosts of other owners deletes a boost: the
one with the child's name, if it has the label with any value. -/
def SkipDeletes (cluster : Cluster) (name : String) (boost : StartupCPUBoost) : Prop :=
  ¬ AllManaged globalBoost.name ns cluster ∧ name = childBoostName globalBoost.name ∧
    boost.labels.lookup managedByGlobalBoostLabel ≠ none ∧ faults (.listBoosts ns) = none ∧
    faults (.getBoost ns name) = none ∧ faults (.deleteBoost .skippedNamespace (ns, name)) = none

/-- What making sure of the child leaves: the child, or everything as it was. -/
structure EnsureEffect (cluster : Cluster) (outcome : Except String Unit × Cluster) : Prop where
  succeeds : outcome.1 = .ok () ↔ EnsureSucceeds faults globalBoost ns cluster
  ensured : EnsureSucceeds faults globalBoost ns cluster →
    ∀ name, outcome.2.boosts.get (ns, name) =
      if name = childBoostName globalBoost.name then some (ensuredChild globalBoost ns cluster)
      else cluster.boosts.get (ns, name)
  unchanged : ¬ EnsureSucceeds faults globalBoost ns cluster → outcome.2 = cluster

/-- What the step for a namespace leaves in it. -/
structure StepEffect (before after : Cluster) (outcome : NamespaceOutcome) : Prop where
  active : outcome = .active ↔
    AllManaged globalBoost.name ns before ∧ StepSucceeds faults globalBoost ns before
  skipped : outcome = .skipped ↔
    ¬ AllManaged globalBoost.name ns before ∧ faults (.listBoosts ns) = none
  ensured : outcome = .active → ∀ name, after.boosts.get (ns, name) =
    if name = childBoostName globalBoost.name then some (ensuredChild globalBoost ns before)
    else before.boosts.get (ns, name)
  kept : outcome ≠ .active → ∀ name boost, after.boosts.get (ns, name) = some boost ↔
    before.boosts.get (ns, name) = some boost ∧
      ¬ SkipDeletes faults globalBoost ns before name boost

variable {globalBoost ns}

theorem hasUnmanagedBoosts_of_fault {err : ApiError} (rejected : faults (.listBoosts ns) = some err)
    (globalBoostName : String) (cluster : Cluster) :
    (hasUnmanagedBoosts ns globalBoostName).run (Cluster.handle orders faults) cluster =
      (.error err, cluster) := by
  rw [hasUnmanagedBoosts, run_bind, Cluster.run_sendListBoosts, rejected]
  rfl

theorem hasUnmanagedBoosts_of_accepted (listed : faults (.listBoosts ns) = none)
    (globalBoostName : String) (cluster : Cluster) :
    ∃ found, (hasUnmanagedBoosts ns globalBoostName).run (Cluster.handle orders faults) cluster =
        (.ok found, cluster) ∧
      (found = false ↔ AllManaged globalBoostName ns cluster) := by
  rw [hasUnmanagedBoosts, run_bind, Cluster.run_sendListBoosts, listed]
  refine ⟨_, rfl, ?_⟩
  rw [List.any_eq_false]
  constructor
  · intro noneUnmanaged name boost present
    have key := KeyedMap.key_of_get present
    have member : boost ∈ (cluster.boosts.values orders.boosts).filter fun boost =>
        boost.ns = ns := by
      rw [List.mem_filter, KeyedMap.mem_values, key]
      exact ⟨present, decide_eq_true (congrArg Prod.fst key)⟩
    simpa using noneUnmanaged boost member
  · intro managed boost member
    obtain ⟨stored, sameNs⟩ := List.mem_filter.mp member
    rw [KeyedMap.mem_values] at stored
    have sameOwner := managed boost.name boost (by rwa [← of_decide_eq_true sameNs])
    simp [sameOwner]

private theorem createChild_of_accepted {desired : StartupCPUBoost} {cluster : Cluster}
    (accepted : faults (.createBoost desired) = none)
    (missing : cluster.boosts.get desired.key = none) :
    (createChild desired).run (Cluster.handle orders faults) cluster =
      (.ok (), { cluster with boosts := cluster.boosts.put desired }) := by
  rw [createChild, run_bind, Cluster.run_sendCreateBoost, accepted, missing]
  rfl

private theorem createChild_of_not_accepted {desired : StartupCPUBoost} {cluster : Cluster}
    (refused : ¬ (faults (.createBoost desired) = none ∧ cluster.boosts.get desired.key = none)) :
    ∃ message, (createChild desired).run (Cluster.handle orders faults) cluster =
      (.error message, cluster) := by
  rw [createChild, run_bind, Cluster.run_sendCreateBoost]
  cases rejected : faults (.createBoost desired) with
  | some err => exact ⟨_, rfl⟩
  | none =>
      cases stored : cluster.boosts.get desired.key with
      | some existing => exact ⟨_, rfl⟩
      | none => exact absurd ⟨rejected, stored⟩ refused

variable {faults}

theorem EnsureEffect.of_error {cluster : Cluster} {outcome : Except String Unit × Cluster}
    (fails : ¬ EnsureSucceeds faults globalBoost ns cluster)
    (result : ∃ message, outcome = (.error message, cluster)) :
    EnsureEffect faults globalBoost ns cluster outcome := by
  obtain ⟨message, rfl⟩ := result
  exact ⟨by simp [fails], fun succeeds => absurd succeeds fails, fun _ => rfl⟩

theorem EnsureEffect.of_put {cluster : Cluster} {outcome : Except String Unit × Cluster}
    (succeeds : EnsureSucceeds faults globalBoost ns cluster)
    (result : outcome = (.ok (),
      { cluster with boosts := cluster.boosts.put (ensuredChild globalBoost ns cluster) })) :
    EnsureEffect faults globalBoost ns cluster outcome := by
  subst result
  refine ⟨by simp [succeeds], fun _ name => ?_, fun fails => absurd succeeds fails⟩
  rw [KeyedMap.get_put, ensuredChild_key]
  simp only [Prod.mk.injEq, true_and]

theorem createChild_effect {cluster : Cluster}
    (reported : ∀ err, faults (.getBoost ns (childBoostName globalBoost.name)) = some err →
      err.reason = .notFound)
    (unread : faults (.getBoost ns (childBoostName globalBoost.name)) = none →
      cluster.boosts.get (ns, childBoostName globalBoost.name) = none) :
    EnsureEffect faults globalBoost ns cluster
      ((createChild (buildChildBoost globalBoost ns (childBoostName globalBoost.name))).run
        (Cluster.handle orders faults) cluster) := by
  have key : (buildChildBoost globalBoost ns (childBoostName globalBoost.name)).key =
      (ns, childBoostName globalBoost.name) := rfl
  by_cases accepted : faults (.createBoost (buildChildBoost globalBoost ns
      (childBoostName globalBoost.name))) = none ∧
      cluster.boosts.get (ns, childBoostName globalBoost.name) = none
  · refine .of_put ?_ ?_
    · simp only [EnsureSucceeds, accepted.2]
      exact ⟨reported, accepted.1⟩
    · rw [createChild_of_accepted orders faults accepted.1 accepted.2, ensuredChild, accepted.2]
  · refine .of_error ?_ (createChild_of_not_accepted orders faults accepted)
    cases stored : cluster.boosts.get (ns, childBoostName globalBoost.name) with
    | none =>
        simp only [EnsureSucceeds, stored]
        exact fun succeeds => accepted ⟨succeeds.2, stored⟩
    | some existing =>
        simp only [EnsureSucceeds, stored]
        intro succeeds
        rw [unread succeeds.1] at stored
        cases stored

private theorem ensureChild_effect_of_stored {cluster : Cluster} {existing : StartupCPUBoost}
    (read : faults (.getBoost ns (childBoostName globalBoost.name)) = none)
    (stored : cluster.boosts.get (ns, childBoostName globalBoost.name) = some existing)
    (owner : existing.managedBy = globalBoost.name) :
    EnsureEffect faults globalBoost ns cluster
      ((ensureChild globalBoost ns (childBoostName globalBoost.name)).run
        (Cluster.handle orders faults) cluster) := by
  have existingKey := KeyedMap.key_of_get stored
  have updatedKey : ({ existing with
      selector := globalBoost.spec.template.selector
      spec := globalBoost.spec.template.spec } : StartupCPUBoost).key =
        (ns, childBoostName globalBoost.name) := existingKey
  simp only [ensureChild, run_bind, Cluster.run_sendGetBoost, read, stored, owner, ne_eq,
    not_true_eq_false, if_false, buildChildBoost, ← not_and_or]
  by_cases same : existing.selector = globalBoost.spec.template.selector ∧
      existing.spec = globalBoost.spec.template.spec
  · rw [if_neg (not_not.mpr same)]
    have unchanged : ensuredChild globalBoost ns cluster = existing := by
      simp only [ensuredChild, stored, ← same.1, ← same.2]
    have succeeds : EnsureSucceeds faults globalBoost ns cluster := by
      simp [EnsureSucceeds, stored, read, buildChildBoost, same]
    refine ⟨by simp [succeeds], fun _ name => ?_, fun _ => rfl⟩
    by_cases isChild : name = childBoostName globalBoost.name
    · rw [if_pos isChild, isChild, unchanged]
      exact stored
    · rw [if_neg isChild]
      rfl
  · rw [if_pos same]
    simp only [run_bind, Cluster.run_sendUpdateBoost, updatedKey, stored]
    cases rejected : faults (.updateBoost { existing with
        selector := globalBoost.spec.template.selector
        spec := globalBoost.spec.template.spec }) with
    | some err =>
        refine .of_error ?_ ⟨_, rfl⟩
        simp [EnsureSucceeds, stored, read, buildChildBoost, same, rejected]
    | none =>
        refine .of_put ?_ ?_
        · simp [EnsureSucceeds, stored, read, buildChildBoost, rejected]
        · simp [ensuredChild, stored]

theorem ensureChild_effect {cluster : Cluster}
    (managed : AllManaged globalBoost.name ns cluster) :
    EnsureEffect faults globalBoost ns cluster
      ((ensureChild globalBoost ns (childBoostName globalBoost.name)).run
        (Cluster.handle orders faults) cluster) := by
  cases read : faults (.getBoost ns (childBoostName globalBoost.name)) with
  | some err =>
      simp only [ensureChild, run_bind, Cluster.run_sendGetBoost, read]
      by_cases notFound : err.reason = .notFound
      · -- The child is reported missing, and creating it works if it is.
        rw [if_pos notFound]
        refine createChild_effect orders (fun reported same => ?_) fun accepted => ?_
        · rw [read] at same
          cases same
          exact notFound
        · rw [read] at accepted
          cases accepted
      · rw [if_neg notFound]
        refine .of_error ?_ ⟨_, rfl⟩
        simp only [EnsureSucceeds]
        split <;> simp [read, notFound]
  | none =>
      cases stored : cluster.boosts.get (ns, childBoostName globalBoost.name) with
      | none =>
          simp only [ensureChild, run_bind, Cluster.run_sendGetBoost, read, stored, if_true]
          exact createChild_effect orders (by simp [read]) fun _ => stored
      | some existing =>
          exact ensureChild_effect_of_stored orders read stored (managed _ _ stored)

theorem deleteChildIfExists_get (childName : String) (cluster : Cluster) (name : String)
    (boost : StartupCPUBoost) :
    ((deleteChildIfExists childName ns).run (Cluster.handle orders faults)
        cluster).2.boosts.get (ns, name) = some boost ↔
      cluster.boosts.get (ns, name) = some boost ∧
        ¬ (name = childName ∧ boost.labels.lookup managedByGlobalBoostLabel ≠ none ∧
          faults (.getBoost ns name) = none ∧
          faults (.deleteBoost .skippedNamespace (ns, name)) = none) := by
  simp only [deleteChildIfExists, run_bind, Cluster.run_sendGetBoost]
  cases read : faults (.getBoost ns childName) with
  | some err =>
      refine iff_self_and.mpr fun _ deleted => ?_
      rw [← deleted.1, deleted.2.2.1] at read
      cases read
  | none =>
      cases stored : cluster.boosts.get (ns, childName) with
      | none =>
          refine iff_self_and.mpr fun present deleted => ?_
          have stillPresent : cluster.boosts.get (ns, name) = some boost := present
          rw [deleted.1, stored] at stillPresent
          cases stillPresent
      | some existing =>
          have existingKey := KeyedMap.key_of_get stored
          simp only
          cases label : existing.labels.lookup managedByGlobalBoostLabel with
          | none =>
              refine iff_self_and.mpr fun present deleted => deleted.2.1 ?_
              have stillPresent : cluster.boosts.get (ns, name) = some boost := present
              rw [deleted.1, stored] at stillPresent
              cases stillPresent
              exact label
          | some owner =>
              rw [run_bind, run_pure, existingKey, sendDeleteBoost_get]
              by_cases child : name = childName
              · subst child
                simp only [true_and, read, stored, Option.some.injEq]
                by_cases accepted : faults (.deleteBoost .skippedNamespace (ns, name)) = none
                · rw [if_pos accepted]
                  refine iff_of_false (by simp) ?_
                  rintro ⟨rfl, kept⟩
                  exact kept ⟨by simp [label], accepted⟩
                · rw [if_neg accepted, Option.some.injEq, iff_self_and]
                  rintro - ⟨-, nowAccepted⟩
                  exact accepted nowAccepted
              · simp [child]

private theorem processNamespace_of_allManaged {cluster : Cluster}
    (listed : faults (.listBoosts ns) = none) (managed : AllManaged globalBoost.name ns cluster) :
    let ensured := (ensureChild globalBoost ns (childBoostName globalBoost.name)).run
      (Cluster.handle orders faults) cluster
    (processNamespace globalBoost (childBoostName globalBoost.name) ns).run
        (Cluster.handle orders faults) cluster =
      (if ensured.1 = .ok () then .active else .failed, ensured.2) := by
  obtain ⟨found, checked, foundIff⟩ := hasUnmanagedBoosts_of_accepted orders faults listed
    globalBoost.name cluster
  obtain rfl := foundIff.mpr managed
  simp only [processNamespace, run_bind, checked]
  generalize (ensureChild globalBoost ns (childBoostName globalBoost.name)).run
    (Cluster.handle orders faults) cluster = ensured
  obtain ⟨result, after⟩ := ensured
  cases result <;> rfl

private theorem processNamespace_of_not_allManaged {cluster : Cluster}
    (listed : faults (.listBoosts ns) = none)
    (unmanaged : ¬ AllManaged globalBoost.name ns cluster) :
    (processNamespace globalBoost (childBoostName globalBoost.name) ns).run
        (Cluster.handle orders faults) cluster =
      (.skipped, ((deleteChildIfExists (childBoostName globalBoost.name) ns).run
        (Cluster.handle orders faults) cluster).2) := by
  obtain ⟨found, checked, foundIff⟩ := hasUnmanagedBoosts_of_accepted orders faults listed
    globalBoost.name cluster
  obtain rfl : found = true := by
    rw [← Bool.not_eq_false, foundIff]
    exact unmanaged
  simp only [processNamespace, run_bind, checked, run_pure]

/-- What the step for a namespace leaves in it. -/
theorem processNamespace_effect (cluster : Cluster) :
    let outcome := (processNamespace globalBoost (childBoostName globalBoost.name) ns).run
      (Cluster.handle orders faults) cluster
    StepEffect faults globalBoost ns cluster outcome.2 outcome.1 := by
  cases listed : faults (.listBoosts ns) with
  | some err =>
      simp only [processNamespace, run_bind, hasUnmanagedBoosts_of_fault orders faults listed,
        run_pure]
      refine ⟨by simp [StepSucceeds, listed], by simp [listed], nofun, fun _ name boost => ?_⟩
      simp [SkipDeletes, listed]
  | none =>
      by_cases managed : AllManaged globalBoost.name ns cluster
      · have effect : EnsureEffect faults globalBoost ns cluster _ :=
          ensureChild_effect orders managed
        rw [processNamespace_of_allManaged orders listed managed]
        by_cases succeeds : EnsureSucceeds faults globalBoost ns cluster
        · rw [if_pos (effect.succeeds.mpr succeeds)]
          refine ⟨?_, by simp [managed], fun _ => effect.ensured succeeds, fun no => absurd rfl no⟩
          simp [managed, StepSucceeds, listed, succeeds]
        · rw [if_neg (mt effect.succeeds.mp succeeds), effect.unchanged succeeds]
          refine ⟨?_, by simp [managed], nofun, fun _ name boost => ?_⟩
          · simp [StepSucceeds, succeeds]
          · simp [SkipDeletes, managed]
      · rw [processNamespace_of_not_allManaged orders listed managed]
        refine ⟨by simp [managed], by simp [managed, listed], nofun, fun _ name boost => ?_⟩
        rw [deleteChildIfExists_get]
        simp [SkipDeletes, managed, listed]

end Namespace

theorem StepEffect.congr {faults : GlobalCall → Option ApiError}
    {globalBoost : GlobalStartupCPUBoost} {ns : String} {before before' after after' : Cluster}
    {outcome : NamespaceOutcome} (effect : StepEffect faults globalBoost ns before' after outcome)
    (sameBefore : SameBoostsIn ns before before') (sameAfter : SameBoostsIn ns after after') :
    StepEffect faults globalBoost ns before after' outcome := by
  obtain ⟨active, skipped, ensured, kept⟩ := effect
  have sameChild : ensuredChild globalBoost ns before' = ensuredChild globalBoost ns before := by
    simp only [ensuredChild, sameBefore _]
  rw [sameBefore.allManaged_iff, stepSucceeds_congr faults globalBoost ns sameBefore] at active
  rw [sameBefore.allManaged_iff] at skipped
  simp only [sameBefore _, sameChild] at ensured
  simp only [sameBefore _, SkipDeletes, sameBefore.allManaged_iff] at kept
  exact ⟨active, skipped, fun isActive name => (sameAfter name).trans (ensured isActive name),
    fun notActive name boost => by rw [sameAfter name]; exact kept notActive name boost⟩

end KubeStartupCPUBoost
