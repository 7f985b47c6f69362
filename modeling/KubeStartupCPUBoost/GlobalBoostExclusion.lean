import KubeStartupCPUBoost.ClusterSteps
import KubeStartupCPUBoost.GlobalBoostQuiescence

/-!
# At most one global boost for each namespace

A child is created only in a namespace all of whose boosts have the label of the
same global boost, so the managed boosts of a namespace never have two owners.
This holds along every run of reconciliations, one at a time and with any failed
calls, between which users change the cluster, the finalizers included.

A reconciliation without failed calls also leaves no child beside another boost,
but only of a global boost with the finalizer.  To one without it the
reconciliation adds the finalizer and stops, and all boosts stay.
-/

namespace KubeStartupCPUBoost

open GlobalCall CallProgram

/-- A rejected deletion is not reported as that of a missing boost. -/
def TruthfulDeletes (faults : GlobalCall → Option ApiError) : Prop :=
  ∀ key err, faults (.deleteBoost .allChildren key) = some err → err.reason ≠ .notFound

section Registered

variable (orders : ListOrders) (faults : GlobalCall → Option ApiError) {other : String}

private theorem handle_unregistered (call : GlobalCall) {cluster : Cluster}
    (absent : cluster.globals.get other = none) :
    (Cluster.handle orders faults call cluster).2.globals.get other = none := by
  have absentPut {stored written : GlobalStartupCPUBoost}
      (registered : cluster.globals.get written.name = some stored) :
      (cluster.globals.put written).get other = none := by
    rw [KeyedMap.get_put, if_neg]
    · exact absent
    · rintro rfl
      rw [absent] at registered
      cases registered
  by_cases leaves : call.LeavesGlobals
  · rwa [handle_globals orders faults leaves]
  · cases rejected : faults call with
    | some err => rwa [handle_of_fault orders rejected]
    | none =>
        rw [handle_of_accepted orders rejected]
        cases call with
        | updateGlobal sent =>
            rw [Cluster.answer]
            cases registered : cluster.globals.get sent.name with
            | none => exact absent
            | some stored =>
                dsimp only
                split
                · rw [KeyedMap.get_remove, absent, ite_self]
                · exact absentPut registered
        | updateGlobalStatus sent =>
            rw [Cluster.answer]
            cases registered : cluster.globals.get sent.name with
            | none => exact absent
            | some stored =>
                have sameName : stored.name = sent.name := KeyedMap.key_of_get registered
                apply absentPut
                rw [← sameName] at registered
                exact registered
        | _ => exact absurd trivial leaves

theorem run_unregistered {α : Type} (program : GlobalProgram α) {cluster : Cluster}
    (absent : cluster.globals.get other = none) :
    (program.run (Cluster.handle orders faults) cluster).2.globals.get other = none := by
  induction program generalizing cluster with
  | done result => exact absent
  | call request next ih => exact ih _ (handle_unregistered orders faults request absent)

end Registered

section Deletion

variable (orders : ListOrders) {faults : GlobalCall → Option ApiError}

private theorem calls_deleteBoosts (boosts : List StartupCPUBoost) :
    (deleteBoosts boosts).AllCalls LeavesGlobals Possible := by
  induction boosts with
  | nil => trivial
  | cons boost rest ih =>
      apply allCalls_request_bind trivial
      intro response _
      cases response with
      | ok => exact ih
      | error err =>
          simp only
          split
          · exact ih
          · trivial

theorem calls_deleteAllChildren (globalBoostName : String) :
    (deleteAllChildren globalBoostName).AllCalls LeavesGlobals Possible := by
  apply allCalls_request_bind trivial
  intro response _
  cases response with
  | error err => trivial
  | ok boosts => exact calls_deleteBoosts boosts

/-- A deletion that does not fail, or fails because there is nothing to delete,
leaves nothing at its key. -/
theorem sendDeleteBoost_gone (truthful : TruthfulDeletes faults) (key : BoostKey)
    (cluster : Cluster) :
    let outcome := (sendDeleteBoost .allChildren key).run (Cluster.handle orders faults) cluster
    (∀ err, outcome.1 = .error err → err.reason = .notFound) →
      outcome.2.boosts.get key = none := by
  intro outcome accepted
  have deleted := sendDeleteBoost_get orders faults .allChildren key key cluster
  cases rejected : faults (.deleteBoost .allChildren key) with
  | some err =>
      have failed : outcome.1 = .error err := by
        simp only [outcome, Cluster.run_sendDeleteBoost, rejected]
      exact absurd (accepted err failed) (truthful key err rejected)
  | none =>
      rw [rejected, if_pos ⟨rfl, rfl⟩] at deleted
      exact deleted

private theorem deleteBoosts_gone (truthful : TruthfulDeletes faults)
    (boosts : List StartupCPUBoost) (cluster : Cluster) :
    let outcome := (deleteBoosts boosts).run (Cluster.handle orders faults) cluster
    outcome.1 = .ok () → ∀ listed ∈ boosts, outcome.2.boosts.get listed.key = none := by
  induction boosts generalizing cluster with
  | nil =>
      intro _ _ listed member
      cases member
  | cons boost rest ih =>
      have gone := sendDeleteBoost_gone orders truthful boost.key cluster
      simp only [deleteBoosts, run_bind]
      generalize (sendDeleteBoost .allChildren boost.key).run (Cluster.handle orders faults)
        cluster = outcome at gone ⊢
      obtain ⟨result, after⟩ := outcome
      have continued (missing : after.boosts.get boost.key = none)
          (succeeded : ((deleteBoosts rest).run (Cluster.handle orders faults) after).1 = .ok ()) :
          ∀ listed ∈ boost :: rest, ((deleteBoosts rest).run (Cluster.handle orders faults)
            after).2.boosts.get listed.key = none := by
        intro listed member
        rcases List.mem_cons.mp member with rfl | inRest
        · rcases deleteBoosts_get orders faults rest after listed.key with same | ⟨deleted, -⟩
          · rw [same, missing]
          · exact deleted
        · exact ih after succeeded listed inRest
      cases result with
      | ok =>
          apply continued
          apply gone
          intro err failed
          cases failed
      | error err =>
          simp only
          by_cases notFound : err.reason = .notFound
          · rw [if_pos notFound]
            apply continued
            apply gone
            intro reported same
            cases same
            exact notFound
          · rw [if_neg notFound]
            intro failed
            cases failed

theorem deleteAllChildren_gone (truthful : TruthfulDeletes faults) (globalBoostName : String)
    (cluster : Cluster) :
    let outcome := (deleteAllChildren globalBoostName).run (Cluster.handle orders faults) cluster
    outcome.1 = .ok () → ∀ key boost, outcome.2.boosts.get key = some boost →
      ¬ ManagedBy globalBoostName boost := by
  intro outcome succeeded key boost present managed
  have stored : cluster.boosts.get key = some boost := by
    rcases deleteAllChildren_get orders faults globalBoostName cluster key with
      same | ⟨missing, -⟩
    · rw [← same]
      exact present
    · rw [missing] at present
      cases present
  have boostKey := KeyedMap.key_of_get stored
  simp only [outcome, deleteAllChildren, run_bind, Cluster.run_sendListManagedBoosts]
    at succeeded present
  cases rejected : faults (.listManagedBoosts globalBoostName) with
  | some err =>
      rw [rejected] at succeeded
      cases succeeded
  | none =>
      rw [rejected] at succeeded present
      have listed : boost ∈ (cluster.boosts.values orders.boosts).filter fun boost =>
          boost.labels.lookup managedByGlobalBoostLabel = some globalBoostName := by
        rw [List.mem_filter, KeyedMap.mem_values, boostKey]
        exact ⟨stored, decide_eq_true managed⟩
      have gone := deleteBoosts_gone orders truthful _ cluster succeeded boost listed
      rw [boostKey] at gone
      exact absurd (present.symm.trans gone) (Option.some_ne_none boost)

end Deletion

/-- The managed boosts of a namespace have the same owner. -/
structure OneOwner (cluster : Cluster) : Prop where
  named : ∀ name stored, cluster.globals.get name = some stored → name ≠ ""
  exclusive : ∀ ns firstName secondName first second firstOwner secondOwner,
    cluster.boosts.get (ns, firstName) = some first → ManagedBy firstOwner first →
      cluster.boosts.get (ns, secondName) = some second → ManagedBy secondOwner second →
        firstOwner = secondOwner

theorem UserStep.oneOwner {before after : Cluster} (step : UserStep before after)
    (oneOwner : OneOwner before) : OneOwner after := by
  constructor
  · exact step.named oneOwner.named
  · intro ns firstName secondName first second firstOwner secondOwner firstPresent firstManaged
      secondPresent secondManaged
    exact oneOwner.exclusive ns firstName secondName first second firstOwner secondOwner
      (step.managed_before firstPresent firstManaged) firstManaged
      (step.managed_before secondPresent secondManaged) secondManaged

section Reconcile

variable {lib : Library} {orders : ListOrders} {faults : GlobalCall → Option ApiError}
  {cluster after : Cluster} {name : String}

/-- After a reconciliation the boosts of a namespace were there before, or the
namespace is active and holds nothing but children. -/
theorem ReconcilePath.namespace_cases (path : ReconcilePath faults lib orders cluster name after)
    (named : ∀ stored, cluster.globals.get name = some stored → name ≠ "") (ns : String) :
    OnlyManaged name ns after ∨
      ∀ boostName boost, after.boosts.get (ns, boostName) = some boost →
        cluster.boosts.get (ns, boostName) = some boost := by
  cases path with
  | unread => exact .inr fun _ _ => id
  | missing => exact .inr fun _ _ => id
  | malformed => exact .inr fun _ _ => id
  | unlisted => exact .inr fun _ _ => id
  | deleting globalBoost =>
      right
      intro boostName boost present
      rcases handleDeletion_get orders faults globalBoost cluster (ns, boostName) with
        same | ⟨missing, -⟩
      · rw [← same]
        exact present
      · rw [missing] at present
        cases present
  | finalizing globalBoost =>
      right
      intro boostName boost present
      rwa [sendUpdateGlobal_boosts] at present
  | reaching globalBoost sameName reaches passed active skipped effect =>
      subst sameName
      by_cases activated : Activated faults globalBoost cluster ns
      · left
        have onlyManaged := effect.onlyManaged_of_activated
          (named globalBoost reaches.registered) activated
        unfold OnlyManaged at onlyManaged ⊢
        rwa [updateStatus_boosts]
      · right
        intro boostName boost present
        rw [updateStatus_boosts, effect.kept ns activated] at present
        exact present.1

theorem ReconcilePath.oneOwner (path : ReconcilePath faults lib orders cluster name after)
    (registersNone : ∀ other,
      cluster.globals.get other = none → after.globals.get other = none)
    (oneOwner : OneOwner cluster) : OneOwner after := by
  have cases := path.namespace_cases (oneOwner.named name)
  constructor
  · intro other stored registered
    cases before : cluster.globals.get other with
    | none =>
        rw [registersNone other before] at registered
        cases registered
    | some previous => exact oneOwner.named other previous before
  · intro ns firstName secondName first second firstOwner secondOwner firstPresent firstManaged
      secondPresent secondManaged
    rcases cases ns with onlyManaged | before
    · have firstName := (onlyManaged _ _ firstPresent).symm.trans firstManaged
      have secondName := (onlyManaged _ _ secondPresent).symm.trans secondManaged
      exact (Option.some.inj firstName).symm.trans (Option.some.inj secondName)
    · exact oneOwner.exclusive ns firstName secondName first second firstOwner secondOwner
        (before _ _ firstPresent) firstManaged (before _ _ secondPresent) secondManaged

private theorem deleteBoosts_noFaults (orders : ListOrders) (boosts : List StartupCPUBoost)
    (cluster : Cluster) :
    ((deleteBoosts boosts).run (Cluster.handle orders noFaults) cluster).1 = .ok () := by
  induction boosts generalizing cluster with
  | nil => rfl
  | cons boost rest ih =>
      simp only [deleteBoosts, run_bind, Cluster.run_sendDeleteBoost,
        show noFaults _ = none from rfl]
      cases cluster.boosts.get boost.key with
      | none =>
          simp only [if_true]
          exact ih cluster
      | some stored => exact ih _

theorem deleteAllChildren_noFaults (orders : ListOrders) (globalBoostName : String)
    (cluster : Cluster) :
    ((deleteAllChildren globalBoostName).run (Cluster.handle orders noFaults) cluster).1 =
      .ok () := by
  simp only [deleteAllChildren, run_bind, Cluster.run_sendListManagedBoosts,
    show noFaults _ = none from rfl]
  exact deleteBoosts_noFaults orders _ cluster

private theorem handleDeletion_noFaults (orders : ListOrders) {globalBoost : GlobalStartupCPUBoost}
    (finalizer : globalBoostFinalizer ∈ globalBoost.finalizers) (cluster : Cluster) :
    ∀ key boost, ((handleDeletion globalBoost).run (Cluster.handle orders noFaults)
      cluster).2.boosts.get key = some boost → ¬ ManagedBy globalBoost.name boost := by
  have truthful : TruthfulDeletes noFaults := nofun
  have succeeded := deleteAllChildren_noFaults orders globalBoost.name cluster
  have gone := deleteAllChildren_gone orders truthful globalBoost.name cluster succeeded
  intro key boost present
  apply gone key boost
  simp only [handleDeletion, finalizer, not_true_eq_false, if_false, run_bind, succeeded]
    at present
  split at present <;> rwa [run_pure, sendUpdateGlobal_boosts] at present

/-- After a reconciliation without failed calls a namespace with a child has
nothing but children, if the global boost had the finalizer. -/
theorem ReconcilePath.onlyManaged (path : ReconcilePath noFaults lib orders cluster name after)
    (named : ∀ stored, cluster.globals.get name = some stored → name ≠ "")
    (finalized : Finalized name cluster)
    (parses : ∀ stored, cluster.globals.get name = some stored →
      stored.spec.namespaceSelector.WellFormed lib.validLabelKey lib.validLabelValue)
    {ns childName : String} {child : StartupCPUBoost}
    (present : after.boosts.get (ns, childName) = some child) (managed : ManagedBy name child) :
    OnlyManaged name ns after := by
  obtain ⟨stored, storedRegistered, finalizer⟩ := finalized
  cases path with
  | unread rejected => exact absurd rfl rejected
  | unlisted selector rejected => exact absurd rfl rejected
  | malformed globalBoost registered malformed => exact absurd (parses _ registered) malformed
  | missing missing =>
      rw [missing] at storedRegistered
      cases storedRegistered
  | deleting globalBoost registered =>
      cases registered.symm.trans storedRegistered
      have sameName : stored.name = name := KeyedMap.key_of_get registered
      subst sameName
      exact absurd managed (handleDeletion_noFaults orders finalizer cluster _ _ present)
  | finalizing globalBoost registered noFinalizer =>
      cases registered.symm.trans storedRegistered
      exact absurd finalizer noFinalizer
  | reaching globalBoost sameName reaches passed active skipped effect =>
      subst sameName
      rw [updateStatus_boosts] at present
      have activated := effect.activated_of_managed present managed
      have onlyManaged := effect.onlyManaged_of_activated
        (named _ reaches.registered) activated
      unfold OnlyManaged at onlyManaged ⊢
      rwa [updateStatus_boosts]

/-- Of a global boost without the finalizer a reconciliation leaves all boosts
where they are. -/
theorem ReconcilePath.boosts_of_not_finalized
    (path : ReconcilePath faults lib orders cluster name after)
    (notFinalized : ¬ Finalized name cluster) : after.boosts = cluster.boosts := by
  cases path with
  | unread => rfl
  | missing => rfl
  | malformed => rfl
  | unlisted => rfl
  | deleting globalBoost registered =>
      have noFinalizer : globalBoostFinalizer ∉ globalBoost.finalizers := by
        intro finalizer
        exact notFinalized ⟨globalBoost, registered, finalizer⟩
      rw [handleDeletion, if_pos noFinalizer]
      rfl
  | finalizing globalBoost => exact sendUpdateGlobal_boosts orders _ _ _
  | reaching globalBoost sameName reaches =>
      subst sameName
      exact absurd ⟨globalBoost, reaches.registered, reaches.finalizer⟩ notFinalized

end Reconcile

/-- One step of the cluster: a user step, or a reconciliation of a global boost in
which any calls can fail. -/
inductive ClusterStep (lib : Library) : Cluster → Cluster → Prop where
  | user {before after : Cluster} (step : UserStep before after) : ClusterStep lib before after
  | reconcile (cluster : Cluster) (orders : ListOrders) (order : RangeOrder String)
      (faults : GlobalCall → Option ApiError) (name : String) :
      ClusterStep lib cluster
        ((reconcileGlobal lib order name).run (Cluster.handle orders faults) cluster).2

theorem ClusterStep.oneOwner {lib : Library} {before after : Cluster}
    (step : ClusterStep lib before after) (oneOwner : OneOwner before) : OneOwner after := by
  cases step with
  | user step => exact step.oneOwner oneOwner
  | reconcile orders order faults name =>
      have path := reconcileGlobal_path faults before lib orders order name
      apply path.oneOwner _ oneOwner
      intro other absent
      exact run_unregistered orders faults _ absent

private theorem run_oneOwner {lib : Library} {initial cluster : Cluster}
    (oneOwner : OneOwner initial)
    (run : Relation.ReflTransGen (ClusterStep lib) initial cluster) : OneOwner cluster := by
  induction run with
  | refl => exact oneOwner
  | tail _ step ih => exact step.oneOwner ih

/-- In every state of a run that starts without managed boosts, the managed boosts
of a namespace have one owner; and right after a reconciliation without failed
calls of a global boost that had the finalizer, a namespace with a child of it
has no boost of another. -/
theorem run_exclusive (lib : Library) {initial cluster : Cluster}
    (named : ∀ name stored, initial.globals.get name = some stored → name ≠ "")
    (unmanaged : ∀ key boost, initial.boosts.get key = some boost → Unlabelled boost)
    (run : Relation.ReflTransGen (ClusterStep lib) initial cluster) :
    (∀ ns firstName secondName first second firstOwner secondOwner,
      cluster.boosts.get (ns, firstName) = some first → ManagedBy firstOwner first →
        cluster.boosts.get (ns, secondName) = some second → ManagedBy secondOwner second →
          firstOwner = secondOwner) ∧
    ∀ orders order name, Finalized name cluster →
      (∀ stored, cluster.globals.get name = some stored →
        stored.spec.namespaceSelector.WellFormed lib.validLabelKey lib.validLabelValue) →
      let after := ((reconcileGlobal lib order name).run (Cluster.handle orders noFaults) cluster).2
      ¬ ∃ ns childName boostName child boost,
        after.boosts.get (ns, childName) = some child ∧ ManagedBy name child ∧
          after.boosts.get (ns, boostName) = some boost ∧ ¬ ManagedBy name boost := by
  have initially : OneOwner initial := by
    refine ⟨named, ?_⟩
    intro _ _ _ _ _ _ _ stored managed
    rw [ManagedBy, show _ = none from unmanaged _ _ stored] at managed
    cases managed
  have oneOwner := run_oneOwner initially run
  refine ⟨oneOwner.exclusive, ?_⟩
  rintro orders order name finalized parses after ⟨ns, childName, boostName, child, boost,
    childPresent, managed, boostPresent, unowned⟩
  have path := reconcileGlobal_path noFaults cluster lib orders order name
  exact unowned (path.onlyManaged (oneOwner.named name) finalized parses childPresent managed _ _
    boostPresent)

namespace Reference

noncomputable def reconciledTeam : Cluster :=
  ((reconcileGlobal referenceLibrary .arbitrary globalBoost.name).run
    (Cluster.handle anyOrders noFaults) emptyTeam).2

theorem reconciledTeam_passes :
    (∀ name, reconciledTeam.boosts.get ("team", name) =
        if name = "global-g" then some (buildChildBoost globalBoost "team" "global-g") else none) ∧
      ∃ status, reconciledTeam.globals.get globalBoost.name =
        some { globalBoost with status := status } := by
  have registered : emptyTeam.globals.get globalBoost.name = some globalBoost := by
    decide +kernel
  have reaches : ReachesNamespaces noFaults globalBoost emptyTeam referenceLibrary :=
    ⟨rfl, registered, rfl, List.mem_singleton_self _, wellFormed_everything, rfl⟩
  obtain ⟨after, active, skipped, effect, result⟩ :=
    reaches.passes referenceLibrary anyOrders .arbitrary
  have stillRegistered : after.globals.get globalBoost.name = some globalBoost := by
    rw [effect.globals, registered]
  obtain ⟨boosts, -, written⟩ := updateStatus_noFaults anyOrders globalBoost
    (sortStrings active) (sortStrings skipped) stillRegistered
  rw [← result] at boosts written
  have desired : Desired globalBoost emptyTeam "team" :=
    ⟨team, by decide +kernel, by decide +kernel, rfl⟩
  have allManaged : AllManaged globalBoost.name "team" emptyTeam := by
    intro name boost stored
    rw [emptyTeam, KeyedMap.get_empty] at stored
    cases stored
  have ensured := effect.ensured "team"
    ((activated_noFaults globalBoost emptyTeam "team").mpr ⟨desired, allManaged⟩)
  constructor
  · intro name
    rw [reconciledTeam, boosts, ensured]
    rfl
  · exact ⟨_, written⟩

noncomputable def sharedTeam : Cluster :=
  { reconciledTeam with boosts := reconciledTeam.boosts.put ownBoost }

private theorem emptyTeam_named (name : String) (stored : GlobalStartupCPUBoost)
    (registered : emptyTeam.globals.get name = some stored) : name ≠ "" := by
  obtain ⟨rfl, -⟩ := KeyedMap.get_put_empty_eq_some.mp registered
  decide

private theorem emptyTeam_unlabelled (key : BoostKey) (boost : StartupCPUBoost)
    (stored : emptyTeam.boosts.get key = some boost) : Unlabelled boost := by
  rw [emptyTeam, KeyedMap.get_empty] at stored
  cases stored

theorem run_sharedTeam :
    Relation.ReflTransGen (ClusterStep referenceLibrary) emptyTeam sharedTeam := by
  have reconciled : ClusterStep referenceLibrary emptyTeam reconciledTeam :=
    .reconcile emptyTeam anyOrders .arbitrary noFaults globalBoost.name
  have written : UserStep reconciledTeam sharedTeam := by
    apply UserStep.writeBoost reconciledTeam ownBoost rfl
    intro stored present
    rw [show ownBoost.key = ("team", "own") from rfl, reconciledTeam_passes.1,
      if_neg (by decide)] at present
    cases present
  exact (Relation.ReflTransGen.single reconciled).tail (.user written)

theorem sharedTeam_boosts :
    sharedTeam.boosts.get ("team", "global-g") =
        some (buildChildBoost globalBoost "team" "global-g") ∧
      sharedTeam.boosts.get ("team", "own") = some ownBoost := by
  constructor
  · rw [sharedTeam, KeyedMap.get_put, if_neg (by decide +kernel), reconciledTeam_passes.1,
      if_pos rfl]
  · rw [sharedTeam, KeyedMap.get_put, if_pos (by decide +kernel)]

/-- The next reconciliation of `g` takes its child out of the shared namespace. -/
theorem run_exclusive_sharedTeam :
    sharedTeam.boosts.get ("team", "global-g") ≠ none ∧
      sharedTeam.boosts.get ("team", "own") = some ownBoost ∧
      let after := ((reconcileGlobal referenceLibrary .arbitrary globalBoost.name).run
        (Cluster.handle anyOrders noFaults) sharedTeam).2
      ¬ ∃ ns childName boostName child boost,
        after.boosts.get (ns, childName) = some child ∧ ManagedBy globalBoost.name child ∧
          after.boosts.get (ns, boostName) = some boost ∧ ¬ ManagedBy globalBoost.name boost := by
  obtain ⟨child, own⟩ := sharedTeam_boosts
  obtain ⟨status, registered⟩ := reconciledTeam_passes.2
  obtain ⟨-, exclusive⟩ := run_exclusive referenceLibrary emptyTeam_named emptyTeam_unlabelled
    run_sharedTeam
  refine ⟨?_, own, ?_⟩
  · rw [child]
    exact Option.some_ne_none _
  · apply exclusive anyOrders .arbitrary globalBoost.name
    · exact ⟨_, registered, List.mem_singleton_self _⟩
    · intro stored storedRegistered
      cases registered.symm.trans storedRegistered
      exact wellFormed_everything

/-- A user takes the finalizer of `g`.  Its next reconciliation puts it back, and
leaves the child next to the boost of the users. -/
theorem unfinalized_global_keeps_child :
    ∃ unfinalized,
      Relation.ReflTransGen (ClusterStep referenceLibrary) emptyTeam unfinalized ∧
      (∀ stored, unfinalized.globals.get globalBoost.name = some stored →
        stored.spec.namespaceSelector.WellFormed referenceLibrary.validLabelKey
          referenceLibrary.validLabelValue) ∧
      let after := ((reconcileGlobal referenceLibrary .arbitrary globalBoost.name).run
        (Cluster.handle anyOrders noFaults) unfinalized).2
      ∃ child boost,
        after.boosts.get ("team", "global-g") = some child ∧ ManagedBy globalBoost.name child ∧
          after.boosts.get ("team", "own") = some boost ∧
            ¬ ManagedBy globalBoost.name boost := by
  obtain ⟨status, registered⟩ := reconciledTeam_passes.2
  let edited : GlobalStartupCPUBoost := { globalBoost with status := status, finalizers := [] }
  let unfinalized : Cluster := { sharedTeam with globals := sharedTeam.globals.put edited }
  have edit : UserStep sharedTeam unfinalized := .editGlobal sharedTeam _ edited registered rfl
  have stored : unfinalized.globals.get globalBoost.name = some edited := by
    rw [KeyedMap.get_put, if_pos rfl]
  have notFinalized : ¬ Finalized globalBoost.name unfinalized := by
    rintro ⟨own, ownRegistered, finalizer⟩
    cases stored.symm.trans ownRegistered
    cases finalizer
  have path := reconcileGlobal_path noFaults unfinalized referenceLibrary anyOrders .arbitrary
    globalBoost.name
  have sameBoosts := path.boosts_of_not_finalized notFinalized
  refine ⟨unfinalized, run_sharedTeam.tail (.user edit), ?_, ?_⟩
  · intro other otherRegistered
    cases stored.symm.trans otherRegistered
    exact wellFormed_everything
  · refine ⟨buildChildBoost globalBoost "team" "global-g", ownBoost, ?_, ?_, ?_, ?_⟩
    · rw [sameBoosts]
      exact sharedTeam_boosts.1
    · decide +kernel
    · rw [sameBoosts]
      exact sharedTeam_boosts.2
    · decide +kernel

end Reference

end KubeStartupCPUBoost
