import KubeStartupCPUBoost.BoostStatus
import KubeStartupCPUBoost.GlobalBoostQueue

/-!
# From the template of a global boost to the manager

Two controllers stand between a global boost and the pods of a namespace.  One
writes children from the template, the other registers with the manager what the
watch tells it of boosts.  They share nothing but the boosts at the API server.

Each has its own runs.  Where both have come to the same stored boosts, and
neither has anything on its way, the manager applies the template in exactly the
namespaces that should have a child.
-/

namespace KubeStartupCPUBoost

open GlobalCall CallProgram

variable {σ : Type} (lib : Library) (client : PodClient σ) (legacyRevertMode : Bool)

/-- Both controllers see the same boosts at the API server. -/
def SameBoosts {lib : Library} (stored : BoostKey → Option (Versioned (BoostContent lib)))
    (cluster : Cluster) : Prop :=
  ∀ key, (stored key).map (fun object => object.content.object key) = cluster.boosts.get key

/-- What the manager has in a namespace on behalf of a global boost: a boost with the
settings of the template if the namespace should have a child, and otherwise none,
unless the name is taken by a boost of another owner. -/
structure Delivered (globalBoost : GlobalStartupCPUBoost) (cluster : Cluster)
    (manager : Manager σ) (ns : String) : Prop where
  wanted : Desired globalBoost cluster ns → AllManaged globalBoost.name ns cluster →
    Carries lib legacyRevertMode manager (childBoostName globalBoost.name) ns
      (buildChildBoost globalBoost ns (childBoostName globalBoost.name))
  unwanted : ¬ (Desired globalBoost cluster ns ∧ AllManaged globalBoost.name ns cluster) →
    manager.getRegularCPUBoost (childBoostName globalBoost.name) ns = none ∨
      ∃ boost, cluster.boosts.get (ns, childBoostName globalBoost.name) = some boost ∧
        ¬ ManagedBy globalBoost.name boost

theorem Carries.of_template {lib : Library} {legacyRevertMode : Bool} {manager : Manager σ}
    {name ns : String} {spec other : StartupCPUBoost}
    (carries : Carries lib legacyRevertMode manager name ns spec) (sameKey : other.key = spec.key)
    (selector : other.selector = spec.selector) (sameSpec : other.spec = spec.spec) :
    Carries lib legacyRevertMode manager name ns other := by
  obtain ⟨boost, built, found, fromSpec, settings⟩ := carries
  have sameBuilt : newStartupCPUBoost lib other legacyRevertMode =
      newStartupCPUBoost lib spec legacyRevertMode := by
    have sameNs : other.ns = spec.ns := congrArg Prod.fst sameKey
    have sameName : other.name = spec.name := congrArg Prod.snd sameKey
    simp only [newStartupCPUBoost, selector, sameSpec, sameNs, sameName]
  exact ⟨boost, built, found, sameBuilt.trans fromSpec, settings⟩

/-- A quiescent global boost is delivered wherever the manager reflects the boost
stored under the child's name. -/
theorem Quiescent.delivered {globalBoost : GlobalStartupCPUBoost} {cluster : Cluster}
    (quiescent : Quiescent globalBoost cluster)
    {stored : BoostKey → Option (Versioned (BoostContent lib))}
    (sameBoosts : SameBoosts stored cluster) {state : Controller σ} {ns : String}
    (reflects : ReflectsBoost lib legacyRevertMode state
      (ns, childBoostName globalBoost.name)
      ((stored (ns, childBoostName globalBoost.name)).map Versioned.content)) :
    Delivered lib legacyRevertMode globalBoost cluster state.manager ns := by
  have same := sameBoosts (ns, childBoostName globalBoost.name)
  cases isStored : stored (ns, childBoostName globalBoost.name) with
  | none =>
      rw [isStored] at reflects same
      constructor
      · intro desired managed
        obtain ⟨child, present, -⟩ := (quiescent.settled ns desired).child managed
        rw [← same] at present
        cases present
      · intro _
        exact .inl reflects
  | some object =>
      rw [isStored] at reflects same
      constructor
      · intro desired managed
        obtain ⟨child, present, selector, sameSpec⟩ :=
          (quiescent.settled ns desired).child managed
        have isChild : object.content.object (ns, childBoostName globalBoost.name) = child :=
          Option.some.inj (same.trans present)
        have carries : Carries lib legacyRevertMode state.manager
            (childBoostName globalBoost.name) ns
            (object.content.object (ns, childBoostName globalBoost.name)) := reflects
        rw [isChild] at carries
        exact carries.of_template (KeyedMap.key_of_get present).symm selector.symm sameSpec.symm
      · intro unwanted
        refine .inr ⟨_, same.symm, fun managed => ?_⟩
        exact unwanted (quiescent.noStale _ _ same.symm managed)

/-- The controller of boosts and that of global boosts run on their own, each as the
theorems about it allow.  In two states with the same stored boosts, a live global
boost that is not in the queue is delivered to the manager in every namespace whose
child has no notice on its way. -/
theorem template_reaches_manager (hasClient : Bool) (now : Time) (server : σ)
    (stored : BoostKey → Option (Versioned (BoostContent lib))) (nextVersion : Nat)
    (older : ∀ key object, stored key = some object → object.version < nextVersion)
    (events : List (LoopEvent (ControllerEvent σ) (RangeOrder String) BoostKey (BoostContent lib)))
    {initial final : QueuedCluster}
    (named : ∀ name stored, initial.cluster.globals.get name = some stored → name ≠ "")
    (childrenNamed : ChildrenNamed initial.cluster)
    (listed : ∀ name stored, initial.cluster.globals.get name = some stored →
      name ∈ initial.queue)
    (run : Relation.ReflTransGen (QueueStep lib) initial final)
    {globalBoost : GlobalStartupCPUBoost}
    (registered : final.cluster.globals.get globalBoost.name = some globalBoost)
    (live : globalBoost.deletionTimestamp = none)
    (selector : globalBoost.spec.namespaceSelector.WellFormed lib.validLabelKey
      lib.validLabelValue)
    (unqueued : globalBoost.name ∉ final.queue) :
    let policy := boostPolicy lib client legacyRevertMode
    let start := ReconcileLoop.fresh (Controller.initial hasClient now server) stored nextVersion
    let after := runEvents (ReconcileLoop.step policy) events start
    AllowedRun (ReconcileLoop.step policy) (ReconcileLoop.EventAllowed (Requested lib client))
        events start →
      SameBoosts after.stored final.cluster →
        ∀ ns, after.notices (ns, childBoostName globalBoost.name) = [] →
          Delivered lib legacyRevertMode globalBoost final.cluster after.world.manager ns := by
  intro policy start after allowed sameBoosts ns caughtUp
  obtain ⟨sound, mirrored⟩ :=
    boostLoop_sound lib client legacyRevertMode hasClient now server older allowed
  have nothing :=
    nothingToDo_of_run named childrenNamed listed run registered selector unqueued
  exact (nothing.live live).2.delivered lib legacyRevertMode sameBoosts
    (mirrored.stored sound.coherent caughtUp)

namespace Reference

def childContent : BoostContent referenceLibrary where
  labels := (buildChildBoost globalBoost "team" "global-g").labels
  annotations := (buildChildBoost globalBoost "team" "global-g").annotations
  selector := everything
  spec := globalBoost.spec.template.spec
  status := {}
  valid := (valid_iff referenceLibrary _ false).mpr
    ⟨_, newStartupCPUBoost_of_mapped referenceLibrary wellFormed_everything rfl⟩

def childStore (key : BoostKey) : Option (Versioned (BoostContent referenceLibrary)) :=
  if key = ("team", "global-g") then some ⟨childContent, 0⟩ else none

/-- The global boost `g` with the status of a cluster in which `team` has its child. -/
def settledGlobalBoost : GlobalStartupCPUBoost :=
  { globalBoost with status := computedStatus globalBoost ["team"] [] }

def settledTeam : Cluster where
  namespaces := KeyedMap.empty.put team
  boosts := KeyedMap.empty.put (buildChildBoost globalBoost "team" "global-g")
  globals := KeyedMap.empty.put settledGlobalBoost

noncomputable def toldOfChild : ReconcileLoop (Controller ApiServer) BoostKey
    (BoostContent referenceLibrary) :=
  runEvents (ReconcileLoop.step (boostPolicy referenceLibrary referenceClient false))
    [.deliver .arbitrary ("team", "global-g")] (.fresh started childStore 1)

theorem boosts_settledTeam {key : BoostKey} {boost : StartupCPUBoost}
    (present : settledTeam.boosts.get key = some boost) :
    key = ("team", "global-g") ∧ boost = buildChildBoost globalBoost "team" "global-g" :=
  KeyedMap.get_put_empty_eq_some.mp present

private theorem desired_settledTeam {ns : String} :
    Desired settledGlobalBoost settledTeam ns ↔ ns = "team" := by
  constructor
  · rintro ⟨stored, present, -⟩
    exact (KeyedMap.get_put_empty_eq_some.mp present).1
  · rintro rfl
    exact ⟨team, by decide +kernel, by decide +kernel, rfl⟩

private theorem allManaged_settledTeam (ns : String) :
    AllManaged settledGlobalBoost.name ns settledTeam := by
  intro name boost present
  rw [(boosts_settledTeam present).2]
  exact buildChildBoost_managedBy globalBoost "team" "global-g"

private theorem quiescent_settledTeam : Quiescent settledGlobalBoost settledTeam := by
  constructor
  · intro ns desired
    constructor
    · intro _
      rw [desired_settledTeam.mp desired]
      exact ⟨buildChildBoost globalBoost "team" "global-g", by decide +kernel, rfl, rfl⟩
    · intro unmanaged
      exact absurd (allManaged_settledTeam ns) unmanaged
  · intro key boost present _
    rw [(boosts_settledTeam present).1]
    exact ⟨desired_settledTeam.mpr rfl, allManaged_settledTeam _⟩
  · refine ⟨["team"], [], ⟨List.pairwise_singleton _ _, ?_⟩, ⟨.nil, ?_⟩,
      computedStatus_idem globalBoost ["team"] []⟩
    · intro ns
      rw [List.mem_singleton, desired_settledTeam]
      exact (and_iff_left (allManaged_settledTeam ns)).symm
    · intro ns
      exact iff_of_false List.not_mem_nil fun listed => listed.2 (allManaged_settledTeam ns)

private theorem sameBoosts_settledTeam : SameBoosts childStore settledTeam := by
  intro key
  by_cases child : key = ("team", "global-g")
  · subst child
    decide +kernel
  · have absent : settledTeam.boosts.get key = none := by
      cases present : settledTeam.boosts.get key with
      | none => rfl
      | some boost => exact absurd (boosts_settledTeam present).1 child
    rw [absent, childStore, if_neg child]
    rfl

/-- The manager applies the template of `g` in `team`. -/
theorem template_reaches_manager_team :
    Delivered referenceLibrary false settledGlobalBoost settledTeam toldOfChild.world.manager
      "team" := by
  have registered : settledTeam.globals.get settledGlobalBoost.name = some settledGlobalBoost := by
    decide +kernel
  have onlyG {name : String} {stored : GlobalStartupCPUBoost}
      (present : settledTeam.globals.get name = some stored) : name = "g" :=
    (KeyedMap.get_put_empty_eq_some.mp present).1
  have nothing : NothingToDo settledGlobalBoost settledTeam :=
    ⟨fun _ => ⟨List.mem_singleton_self _, quiescent_settledTeam⟩, fun deleting =>
      absurd rfl deleting⟩
  let queued : QueuedCluster := ⟨settledTeam, {"g"}⟩
  have dropped := NothingToDo.reconcile referenceLibrary anyOrders .arbitrary
    (show NothingToDo settledGlobalBoost queued.cluster from nothing) .arbitrary registered
    wellFormed_everything
  have run : Relation.ReflTransGen (QueueStep referenceLibrary) queued
      ⟨settledTeam, queued.queue.erase settledGlobalBoost.name⟩ := by
    rw [← dropped]
    exact .single (.reconcile queued .arbitrary anyOrders .arbitrary noFaults _
      (Finset.mem_singleton_self _) (.inl rfl))
  have older : ∀ key object, childStore key = some object → object.version < 1 := by
    intro key object isStored
    unfold childStore at isStored
    split at isStored
    · cases isStored
      exact Nat.zero_lt_one
    · cases isStored
  have childrenNamed : ChildrenNamed settledTeam := by
    intro key boost owner present managed
    rw [(boosts_settledTeam present).2] at managed ⊢
    have owned := managed.managedBy_eq.symm.trans (buildChildBoost_managedBy globalBoost _ _)
    rw [owned]
    rfl
  exact template_reaches_manager referenceLibrary referenceClient false true 0 ⟨∅, []⟩ childStore 1
    older [.deliver .arbitrary ("team", "global-g")]
    (fun name stored present => by rw [onlyG present]; decide) childrenNamed
    (fun name stored present => by
      rw [onlyG present]
      exact Finset.mem_singleton_self _)
    run registered rfl wellFormed_everything (Finset.notMem_erase _ _) ⟨trivial, trivial⟩
    sameBoosts_settledTeam "team" rfl

end Reference

end KubeStartupCPUBoost
