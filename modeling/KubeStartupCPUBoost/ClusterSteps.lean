import KubeStartupCPUBoost.GlobalBoostStep

/-!
# What users do to the cluster

Users write and delete boosts that no global boost manages, they write and
remove global boosts, and they write and remove namespaces.  Of a global boost
they can change everything, the finalizer of the controller included.

Users add no managed boost, and this is all that keeping the owners apart needs.
That the finalizer is left to the controller is an assumption of its own,
`FinalizerKeepingStep`, for the results that need it.
-/

namespace KubeStartupCPUBoost

/-- A boost without the label of the global boost controller. -/
def Unlabelled (boost : StartupCPUBoost) : Prop :=
  boost.labels.lookup managedByGlobalBoostLabel = none

/-- A user step, and what the API server makes of it.  A global boost goes when it
is deleted without finalizers, or when an edit takes its last one after that.
Removing a namespace removes what is in it. -/
inductive UserStep : Cluster → Cluster → Prop where
  | writeBoost (cluster : Cluster) (boost : StartupCPUBoost) (unlabelled : Unlabelled boost)
      (replaced : ∀ stored, cluster.boosts.get boost.key = some stored → Unlabelled stored) :
      UserStep cluster { cluster with boosts := cluster.boosts.put boost }
  | deleteBoost (cluster : Cluster) (key : BoostKey)
      (deleted : ∀ stored, cluster.boosts.get key = some stored → Unlabelled stored) :
      UserStep cluster { cluster with boosts := cluster.boosts.remove key }
  | createGlobal (cluster : Cluster) (created : GlobalStartupCPUBoost) (named : created.name ≠ "")
      (absent : cluster.globals.get created.name = none)
      (live : created.deletionTimestamp = none) :
      UserStep cluster { cluster with globals := cluster.globals.put created }
  | editGlobal (cluster : Cluster) (stored edited : GlobalStartupCPUBoost)
      (registered : cluster.globals.get edited.name = some stored)
      (sameDeletion : edited.deletionTimestamp = stored.deletionTimestamp) :
      UserStep cluster { cluster with globals := cluster.globals.put edited }
  | requestDeletion (cluster : Cluster) (name : String) (stored : GlobalStartupCPUBoost)
      (time : Time) (registered : cluster.globals.get name = some stored)
      (finalizers : stored.finalizers ≠ []) :
      UserStep cluster { cluster with
        globals := cluster.globals.put { stored with deletionTimestamp := some time } }
  | removeGlobal (cluster : Cluster) (name : String) :
      UserStep cluster { cluster with globals := cluster.globals.remove name }
  | writeNamespace (cluster : Cluster) (ns : Namespace) :
      UserStep cluster { cluster with namespaces := cluster.namespaces.put ns }
  | removeNamespace (cluster : Cluster) (name : String)
      (boosts : KeyedMap BoostKey StartupCPUBoost StartupCPUBoost.key)
      (emptied : ∀ key, boosts.get key = if key.1 = name then none else cluster.boosts.get key) :
      UserStep cluster { cluster with namespaces := cluster.namespaces.remove name, boosts }

/-- A global boost is registered with the controller's finalizer. -/
def Finalized (name : String) (cluster : Cluster) : Prop :=
  ∃ stored, cluster.globals.get name = some stored ∧ globalBoostFinalizer ∈ stored.finalizers

/-- A user step that leaves the finalizer where the controller has put it. -/
structure FinalizerKeepingStep (before after : Cluster) : Prop where
  step : UserStep before after
  finalized : ∀ name, Finalized name before → Finalized name after

theorem finalized_put {name : String} {cluster : Cluster} {written : GlobalStartupCPUBoost}
    (finalized : Finalized name cluster)
    (finalizer : written.name = name → globalBoostFinalizer ∈ written.finalizers) :
    Finalized name { cluster with globals := cluster.globals.put written } := by
  obtain ⟨stored, registered, present⟩ := finalized
  by_cases same : name = written.name
  · refine ⟨written, ?_, finalizer same.symm⟩
    rw [KeyedMap.get_put, if_pos same]
  · refine ⟨stored, ?_, present⟩
    rw [KeyedMap.get_put, if_neg same]
    exact registered

namespace UserStep

variable {before after : Cluster}

/-- Users add no managed boost. -/
theorem managed_before (step : UserStep before after) {key : BoostKey} {boost : StartupCPUBoost}
    {owner : String} (present : after.boosts.get key = some boost)
    (managed : ManagedBy owner boost) : before.boosts.get key = some boost := by
  cases step with
  | writeBoost written unlabelled replaced =>
      rw [KeyedMap.get_put] at present
      split at present
      · cases present
        rw [ManagedBy, show _ = none from unlabelled] at managed
        cases managed
      · exact present
  | deleteBoost deleted unlabelled =>
      rw [KeyedMap.get_remove] at present
      split at present
      · cases present
      · exact present
  | removeNamespace name boosts emptied =>
      rw [emptied] at present
      split at present
      · cases present
      · exact present
  | createGlobal => exact present
  | editGlobal => exact present
  | requestDeletion => exact present
  | removeGlobal => exact present
  | writeNamespace => exact present

/-- Global boosts have names. -/
theorem named (step : UserStep before after)
    (named : ∀ name stored, before.globals.get name = some stored → name ≠ "") :
    ∀ name stored, after.globals.get name = some stored → name ≠ "" := by
  have namedPut {written : GlobalStartupCPUBoost} (writtenNamed : written.name ≠ "") :
      ∀ name stored, (before.globals.put written).get name = some stored → name ≠ "" := by
    intro name stored registered
    by_cases same : name = written.name
    · rwa [same]
    · rw [KeyedMap.get_put, if_neg same] at registered
      exact named name stored registered
  cases step with
  | writeBoost => exact named
  | deleteBoost => exact named
  | createGlobal created createdNamed => exact namedPut createdNamed
  | editGlobal stored edited registered => exact namedPut (named _ _ registered)
  | requestDeletion other stored time registered =>
      apply namedPut
      have sameName : stored.name = other := KeyedMap.key_of_get registered
      have storedNamed := named _ _ registered
      rwa [← sameName] at storedNamed
  | removeGlobal other =>
      intro name kept registered
      rw [KeyedMap.get_remove] at registered
      by_cases removed : name = other
      · rw [if_pos removed] at registered
        cases registered
      · rw [if_neg removed] at registered
        exact named name kept registered
  | writeNamespace => exact named
  | removeNamespace => exact named

end UserStep

end KubeStartupCPUBoost
