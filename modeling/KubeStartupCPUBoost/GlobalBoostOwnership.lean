import KubeStartupCPUBoost.GlobalBoostFaults

/-!
# Boosts that a global boost does not own

Ownership is checked in five places and in different ways.  In a skipped
namespace the boost with the child's name is deleted if it has the label, whatever
its value, so there a global boost can delete the child of another.  Everywhere
else, on the deletion path as well, only boosts with its own label are written.
-/

namespace KubeStartupCPUBoost

open GlobalCall CallProgram

@[simp]
theorem childBoostName_inj {first second : String} :
    childBoostName first = childBoostName second ↔ first = second :=
  String.append_right_inj _

section Deletion

variable (orders : ListOrders) (faults : GlobalCall → Option ApiError)

/-- Deleting listed boosts leaves every other key alone, and creates nothing. -/
theorem deleteBoosts_get (boosts : List StartupCPUBoost) (cluster : Cluster) (key : BoostKey) :
    let after := ((deleteBoosts boosts).run (Cluster.handle orders faults) cluster).2
    after.boosts.get key = cluster.boosts.get key ∨
      after.boosts.get key = none ∧ ∃ listed ∈ boosts, listed.key = key := by
  induction boosts generalizing cluster with
  | nil => exact .inl rfl
  | cons boost rest ih =>
      have deleted := sendDeleteBoost_get orders faults .allChildren boost.key key cluster
      simp only [deleteBoosts, run_bind]
      generalize (sendDeleteBoost .allChildren boost.key).run (Cluster.handle orders faults)
        cluster = outcome at deleted ⊢
      obtain ⟨result, after⟩ := outcome
      have first : after.boosts.get key = cluster.boosts.get key ∨
          after.boosts.get key = none ∧ ∃ listed ∈ boost :: rest, listed.key = key := by
        rw [show after.boosts.get key = _ from deleted]
        by_cases accepted : key = boost.key ∧ faults (.deleteBoost .allChildren boost.key) = none
        · rw [if_pos accepted]
          exact .inr ⟨rfl, boost, List.mem_cons_self, accepted.1.symm⟩
        · rw [if_neg accepted]
          exact .inl rfl
      have step (later : Cluster) (continued : later.boosts.get key = after.boosts.get key ∨
          later.boosts.get key = none ∧ ∃ listed ∈ rest, listed.key = key) :
          later.boosts.get key = cluster.boosts.get key ∨
            later.boosts.get key = none ∧ ∃ listed ∈ boost :: rest, listed.key = key := by
        rcases continued with same | ⟨gone, listed, member, sameKey⟩
        · rwa [same]
        · exact .inr ⟨gone, listed, List.mem_cons_of_mem _ member, sameKey⟩
      cases result with
      | ok => exact step _ (ih after)
      | error err =>
          simp only
          split
          · exact step _ (ih after)
          · exact first

@[simp]
theorem sendUpdateGlobal_boosts (sent : GlobalStartupCPUBoost) (cluster : Cluster) :
    ((sendUpdateGlobal sent).run (Cluster.handle orders faults) cluster).2.boosts =
      cluster.boosts := by
  rw [Cluster.run_sendUpdateGlobal]
  split
  · rfl
  · split
    · rfl
    · split <;> rfl

theorem deleteAllChildren_get (globalBoostName : String) (cluster : Cluster) (key : BoostKey) :
    let after := ((deleteAllChildren globalBoostName).run (Cluster.handle orders faults) cluster).2
    after.boosts.get key = cluster.boosts.get key ∨
      after.boosts.get key = none ∧
        ∃ boost, cluster.boosts.get key = some boost ∧ ManagedBy globalBoostName boost := by
  simp only [deleteAllChildren, run_bind, Cluster.run_sendListManagedBoosts]
  cases faults (.listManagedBoosts globalBoostName) with
  | some err => exact .inl rfl
  | none =>
      refine (deleteBoosts_get orders faults _ cluster key).imp_right ?_
      rintro ⟨gone, listed, member, rfl⟩
      obtain ⟨stored, managed⟩ := List.mem_filter.mp member
      exact ⟨gone, listed, KeyedMap.mem_values.mp stored, of_decide_eq_true managed⟩

/-- The deletion path deletes boosts with the label of the global boost, and
does nothing else to boosts. -/
theorem handleDeletion_get (globalBoost : GlobalStartupCPUBoost) (cluster : Cluster)
    (key : BoostKey) :
    let after := ((handleDeletion globalBoost).run (Cluster.handle orders faults) cluster).2
    after.boosts.get key = cluster.boosts.get key ∨
      after.boosts.get key = none ∧
        ∃ boost, cluster.boosts.get key = some boost ∧ ManagedBy globalBoost.name boost := by
  have deleted := deleteAllChildren_get orders faults globalBoost.name cluster key
  simp only [handleDeletion]
  split
  · exact .inl rfl
  · rw [run_bind]
    generalize (deleteAllChildren globalBoost.name).run (Cluster.handle orders faults) cluster =
      outcome at deleted ⊢
    obtain ⟨result, after⟩ := outcome
    cases result with
    | error message => exact deleted
    | ok =>
        have written (sent : GlobalStartupCPUBoost) :=
          congrArg (KeyedMap.get · key) (sendUpdateGlobal_boosts orders faults sent after)
        simp only [run_bind] at written ⊢
        split <;> simp only [run_pure, written] <;> exact deleted

end Deletion

section Ownership

variable (lib : Library) (orders : ListOrders) (order : RangeOrder String)
  {faults : GlobalCall → Option ApiError} {cluster : Cluster}

/-- A reconciliation that does not get as far as the namespaces deletes at most
boosts with the label of the global boost. -/
theorem ReconcilePath.get_of_not_reaches {name : String} {after : Cluster}
    (path : ReconcilePath faults lib orders cluster name after)
    (stops : ∀ globalBoost, globalBoost.name = name →
      ¬ ReachesNamespaces faults globalBoost cluster lib) (key : BoostKey) :
    after.boosts.get key = cluster.boosts.get key ∨
      after.boosts.get key = none ∧
        ∃ boost, cluster.boosts.get key = some boost ∧ ManagedBy name boost := by
  cases path with
  | unread => exact .inl rfl
  | missing => exact .inl rfl
  | malformed => exact .inl rfl
  | unlisted => exact .inl rfl
  | deleting globalBoost registered =>
      have sameName : globalBoost.name = name := KeyedMap.key_of_get registered
      subst sameName
      exact handleDeletion_get orders faults globalBoost cluster key
  | finalizing globalBoost =>
      left
      rw [sendUpdateGlobal_boosts]
  | reaching globalBoost sameName reaches => exact absurd reaches (stops globalBoost sameName)

/-- The passes over the namespaces keep a boost of another owner, unless it is
deleted from a skipped namespace. -/
theorem PassEffect.unowned_iff {globalBoost : GlobalStartupCPUBoost} {after : Cluster}
    {active skipped : List String}
    (effect : PassEffect faults globalBoost cluster after active skipped)
    (named : globalBoost.name ≠ "") (key : BoostKey) {boost : StartupCPUBoost}
    (unowned : ¬ ManagedBy globalBoost.name boost) :
    after.boosts.get key = some boost ↔
      cluster.boosts.get key = some boost ∧
        ¬ (Desired globalBoost cluster key.1 ∧
          SkipDeletes faults globalBoost key.1 cluster key.2 boost) := by
  obtain ⟨ns, name⟩ := key
  by_cases activated : Activated faults globalBoost cluster ns
  · have onlyManaged := (allManaged_iff_onlyManaged named ns cluster).mp activated.2.1
    rw [effect.ensured ns activated]
    split
    · refine iff_of_false ?_ fun stored => unowned (onlyManaged _ _ stored.1)
      rintro same
      cases same
      exact unowned (ensuredChild_managedBy globalBoost ns onlyManaged)
    · exact (and_iff_left fun deleted => deleted.2.1 activated.2.1).symm
  · rw [effect.kept ns activated, and_iff_left fun stale => unowned stale.1]

/-- An active namespace holds nothing but managed boosts afterwards. -/
theorem PassEffect.onlyManaged_of_activated {globalBoost : GlobalStartupCPUBoost} {after : Cluster}
    {active skipped : List String} {ns : String}
    (effect : PassEffect faults globalBoost cluster after active skipped)
    (named : globalBoost.name ≠ "") (activated : Activated faults globalBoost cluster ns) :
    OnlyManaged globalBoost.name ns after := by
  have onlyManaged := (allManaged_iff_onlyManaged named ns cluster).mp activated.2.1
  intro name boost present
  rw [effect.ensured ns activated] at present
  split at present
  · cases present
    exact ensuredChild_managedBy globalBoost ns onlyManaged
  · exact onlyManaged name boost present

/-- Some skipped namespace has a boost with the child's name and the label of
another owner, and the calls that lead to its deletion succeed. -/
def DeletesForeignChild (faults : GlobalCall → Option ApiError) (cluster : Cluster)
    (name : String) : Prop :=
  ∃ globalBoost, globalBoost.name = name ∧ ReachesNamespaces faults globalBoost cluster lib ∧
    ∃ ns boost owner, Desired globalBoost cluster ns ∧
      cluster.boosts.get (ns, childBoostName name) = some boost ∧ ManagedBy owner boost ∧
      owner ≠ name ∧ faults (.listBoosts ns) = none ∧
      faults (.getBoost ns (childBoostName name)) = none ∧
      faults (.deleteBoost .skippedNamespace (ns, childBoostName name)) = none

/-- A reconciliation leaves every boost alone that does not have the label of
the global boost, except where it takes the child of another for its own. -/
theorem unowned_unchanged_iff {name : String} (named : name ≠ "") :
    (∀ key boost, cluster.boosts.get key = some boost → ¬ ManagedBy name boost →
        ((reconcileGlobal lib order name).run (Cluster.handle orders faults)
          cluster).2.boosts.get key = some boost) ↔
      ¬ DeletesForeignChild lib faults cluster name := by
  by_cases reaches : ∃ globalBoost, globalBoost.name = name ∧
      ReachesNamespaces faults globalBoost cluster lib
  · obtain ⟨globalBoost, rfl, reached⟩ := reaches
    obtain ⟨after, active, skipped, effect, result⟩ := reached.passes lib orders order
    rw [result, updateStatus_boosts]
    constructor
    · rintro unchanged ⟨other, sameName, otherReached, ns, boost, owner, desired, stored, managed,
        different, listed, got, deleted⟩
      obtain rfl : other = globalBoost := by
        have registered := otherReached.registered
        rw [sameName, reached.registered] at registered
        exact (Option.some.inj registered).symm
      have unowned : ¬ ManagedBy other.name boost := fun own =>
        different (Option.some.inj (managed.symm.trans own))
      have notAllManaged : ¬ AllManaged other.name ns cluster := fun allManaged =>
        different (managed.managedBy_eq.symm.trans (allManaged _ _ stored))
      have labelled : boost.labels.lookup managedByGlobalBoostLabel ≠ none := by
        rw [show _ = some owner from managed]
        exact Option.some_ne_none owner
      have kept := unchanged _ boost stored unowned
      rw [effect.unowned_iff named _ unowned] at kept
      exact kept.2 ⟨desired, notAllManaged, rfl, labelled, listed, got, deleted⟩
    · rintro noForeign ⟨ns, name⟩ boost stored unowned
      rw [effect.unowned_iff named _ unowned]
      refine ⟨stored, ?_⟩
      rintro ⟨desired, -, rfl, label, listed, got, deleted⟩
      obtain ⟨owner, managed⟩ := Option.ne_none_iff_exists'.mp label
      refine noForeign ⟨globalBoost, rfl, reached, ns, boost, owner, desired, stored, managed, ?_,
        listed, got, deleted⟩
      rintro rfl
      exact unowned managed
  · refine iff_of_true ?_ fun ⟨globalBoost, sameName, reached, _⟩ =>
      reaches ⟨globalBoost, sameName, reached⟩
    intro key boost stored unowned
    have stops (globalBoost : GlobalStartupCPUBoost) (sameName : globalBoost.name = name) :=
      not_and.mp (not_exists.mp reaches globalBoost) sameName
    have path := reconcileGlobal_path faults cluster lib orders order name
    rcases path.get_of_not_reaches lib orders stops key with
      same | ⟨-, deleted, wasStored, managed⟩
    · rw [same, stored]
    · rw [stored] at wasStored
      cases wasStored
      exact absurd managed unowned

end Ownership

namespace Reference

def foreignChild : StartupCPUBoost :=
  { buildChildBoost globalBoost "team" "global-g" with
    labels := (∅ : StringMap).insert managedByGlobalBoostLabel "other" }

def clusterWithForeignChild : Cluster where
  namespaces := KeyedMap.empty.put team
  boosts := KeyedMap.empty.put foreignChild
  globals := KeyedMap.empty.put globalBoost

private theorem reachesNamespaces_foreignChild :
    ReachesNamespaces noFaults globalBoost clusterWithForeignChild referenceLibrary where
  read := rfl
  registered := by decide +kernel
  live := rfl
  finalizer := List.mem_singleton_self _
  selector := wellFormed_everything
  listed := rfl

def ownBoost : StartupCPUBoost := { buildChildBoost globalBoost "team" "own" with labels := ∅ }

def clusterWithOwnBoost : Cluster :=
  { clusterWithChild with boosts := clusterWithChild.boosts.put ownBoost }

private theorem not_deletesForeignChild_ownBoost :
    ¬ DeletesForeignChild referenceLibrary noFaults clusterWithOwnBoost globalBoost.name := by
  rintro ⟨-, -, -, ns, boost, owner, -, stored, managed, different, -⟩
  have notOwn : (ns, childBoostName globalBoost.name) ≠ ownBoost.key := by
    intro same
    have sameName : childBoostName globalBoost.name = ownBoost.name := congrArg Prod.snd same
    exact absurd sameName (by decide +kernel)
  rw [clusterWithOwnBoost, KeyedMap.get_put, if_neg notOwn, clusterWithChild,
    KeyedMap.get_put] at stored
  split at stored
  · cases stored
    have label : ManagedBy globalBoost.name (buildChildBoost globalBoost "team" "global-g") :=
      Finmap.lookup_insert _
    exact different (managed.managedBy_eq.symm.trans label.managedBy_eq)
  · cases stored

/-- A cluster without foreign children keeps the boost that `g` does not own. -/
theorem unowned_unchanged_iff_ownBoost :
    clusterWithOwnBoost.boosts.get ("team", "own") = some ownBoost ∧
      ¬ ManagedBy globalBoost.name ownBoost ∧
      ((reconcileGlobal referenceLibrary .arbitrary globalBoost.name).run
        (Cluster.handle anyOrders noFaults) clusterWithOwnBoost).2.boosts.get ("team", "own") =
          some ownBoost := by
  have named : globalBoost.name ≠ "" := by decide +kernel
  have stored : clusterWithOwnBoost.boosts.get ("team", "own") = some ownBoost := by
    decide +kernel
  have unowned : ¬ ManagedBy globalBoost.name ownBoost := by decide +kernel
  exact ⟨stored, unowned, (unowned_unchanged_iff referenceLibrary anyOrders .arbitrary named).mpr
    not_deletesForeignChild_ownBoost _ _ stored unowned⟩

/-- The child of `other` is deleted in the reconciliation of `g`. -/
theorem foreign_child_deleted :
    clusterWithForeignChild.boosts.get ("team", "global-g") = some foreignChild ∧
      ¬ ManagedBy globalBoost.name foreignChild ∧
      ((reconcileGlobal referenceLibrary .arbitrary globalBoost.name).run
        (Cluster.handle anyOrders noFaults) clusterWithForeignChild).2.boosts.get
          ("team", "global-g") = none := by
  have stored : clusterWithForeignChild.boosts.get ("team", "global-g") = some foreignChild := by
    decide +kernel
  have unowned : ¬ ManagedBy globalBoost.name foreignChild := by decide +kernel
  refine ⟨stored, unowned, ?_⟩
  obtain ⟨after, active, skipped, effect, result⟩ :=
    reachesNamespaces_foreignChild.passes referenceLibrary anyOrders .arbitrary
  rw [result, updateStatus_boosts]
  have desired : Desired globalBoost clusterWithForeignChild "team" :=
    ⟨team, by decide +kernel, by decide +kernel, rfl⟩
  have notAllManaged : ¬ AllManaged globalBoost.name "team" clusterWithForeignChild := by
    intro allManaged
    exact absurd (allManaged _ _ stored) (by decide +kernel)
  by_contra present
  obtain ⟨boost, remains⟩ := Option.ne_none_iff_exists'.mp present
  have notActivated : ¬ Activated noFaults globalBoost clusterWithForeignChild "team" :=
    fun activated => notAllManaged activated.2.1
  obtain ⟨wasStored, notSkipped, -⟩ := (effect.kept "team" notActivated "global-g" boost).mp remains
  rw [stored] at wasStored
  cases wasStored
  exact notSkipped ⟨desired, notAllManaged, rfl, by decide +kernel, rfl, rfl, rfl⟩

end Reference

end KubeStartupCPUBoost
