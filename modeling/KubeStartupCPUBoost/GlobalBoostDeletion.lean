import KubeStartupCPUBoost.GlobalBoostExclusion
import KubeStartupCPUBoost.InterleavedCalls

/-!
# A deleted global boost leaves no children

The reconciliations of one global boost run one after the other, call by call,
with any failures and with user steps between the calls: the deletion can be
requested while children are still being created.  What keeps the children from
being left behind is the finalizer.  A reconciliation that creates children has
seen it, nobody but the controller takes it away, and the controller does so
only when the children are gone.
-/

namespace KubeStartupCPUBoost

open GlobalCall CallProgram

/-- A call is answered from the state in which it arrives, or rejected with any
error; a rejected deletion is not reported as that of a missing boost.  The
answer of a call that was carried out can be lost. -/
def ApiAnswers (call : GlobalCall) (cluster : Cluster) (response : Except ApiError call.Payload)
    (after : Cluster) : Prop :=
  ∃ orders faults, TruthfulDeletes faults ∧
    after = (Cluster.handle orders faults call cluster).2 ∧
    (response = (Cluster.handle orders faults call cluster).1 ∨
      faults call = none ∧ ∃ err, response = .error err)

/-- Children of a global boost exist only while it is registered with the
finalizer. -/
def ChildrenFinalized (name : String) (cluster : Cluster) : Prop :=
  ∀ key boost, cluster.boosts.get key = some boost → ManagedBy name boost →
    Finalized name cluster

def NoChildren (name : String) (cluster : Cluster) : Prop :=
  ∀ key boost, cluster.boosts.get key = some boost → ¬ ManagedBy name boost

theorem NoChildren.childrenFinalized {name : String} {cluster : Cluster}
    (noChildren : NoChildren name cluster) : ChildrenFinalized name cluster :=
  fun key boost stored managed => absurd managed (noChildren key boost stored)

theorem Finalized.childrenFinalized {name : String} {cluster : Cluster}
    (finalized : Finalized name cluster) : ChildrenFinalized name cluster :=
  fun _ _ _ _ => finalized

theorem FinalizerKeepingStep.childrenFinalized {name : String} {before after : Cluster}
    (keeping : FinalizerKeepingStep before after) (children : ChildrenFinalized name before) :
    ChildrenFinalized name after := by
  intro key boost present managed
  apply keeping.finalized
  exact children key boost (keeping.step.managed_before present managed) managed

theorem UserStep.noChildren {name : String} {before after : Cluster}
    (step : UserStep before after) (noChildren : NoChildren name before) :
    NoChildren name after := by
  intro key boost present managed
  exact noChildren key boost (step.managed_before present managed) managed

def ChildrenAmong (boosts : List StartupCPUBoost) (name : String) (cluster : Cluster) : Prop :=
  ∀ key boost, cluster.boosts.get key = some boost → ManagedBy name boost →
    ∃ listed ∈ boosts, listed.key = key

theorem UserStep.childrenAmong {boosts : List StartupCPUBoost} {name : String}
    {before after : Cluster} (step : UserStep before after)
    (among : ChildrenAmong boosts name before) : ChildrenAmong boosts name after := by
  intro key boost present managed
  exact among key boost (step.managed_before present managed) managed

/-- A call that does not write the finalizers of a global boost. -/
def GlobalCall.KeepsFinalizers : GlobalCall → Prop
  | updateGlobal _ => False
  | _ => True

theorem GlobalCall.LeavesGlobals.keepsFinalizers {call : GlobalCall}
    (leaves : call.LeavesGlobals) : call.KeepsFinalizers := by
  cases call with
  | updateGlobal sent => exact leaves
  | _ => trivial

theorem calls_updateStatus (globalBoost : GlobalStartupCPUBoost) (active skipped : List String) :
    (updateStatus globalBoost active skipped).AllCalls KeepsFinalizers Possible := by
  simp only [updateStatus]
  split
  · apply allCalls_request_bind trivial
    intro response _
    cases response with
    | ok => trivial
    | error err =>
        simp only
        split
        · trivial
        · split <;> trivial
  · trivial

section Finalized

variable (orders : ListOrders) {faults : GlobalCall → Option ApiError} {cluster : Cluster}
  {owner : String}

theorem sendUpdateGlobal_finalized (finalized : Finalized owner cluster)
    {sent : GlobalStartupCPUBoost}
    (finalizer : sent.name = owner → globalBoostFinalizer ∈ sent.finalizers) :
    Finalized owner ((sendUpdateGlobal sent).run (Cluster.handle orders faults) cluster).2 := by
  rw [Cluster.run_sendUpdateGlobal]
  cases faults (.updateGlobal sent) with
  | some err => exact finalized
  | none =>
      cases cluster.globals.get sent.name with
      | none => exact finalized
      | some stored =>
          by_cases removed : stored.deletionTimestamp ≠ none ∧ sent.finalizers = []
          · simp only [if_pos removed]
            obtain ⟨own, ownRegistered, ownFinalizer⟩ := finalized
            refine ⟨own, KeyedMap.get_remove_eq_some.mpr ⟨fun same => ?_, ownRegistered⟩,
              ownFinalizer⟩
            have impossible := finalizer same.symm
            rw [removed.2] at impossible
            cases impossible
          · simp only [if_neg removed]
            exact finalized_put finalized finalizer

variable (faults) in
private theorem handle_finalized {call : GlobalCall} (keeps : call.KeepsFinalizers)
    (finalized : Finalized owner cluster) :
    Finalized owner (Cluster.handle orders faults call cluster).2 := by
  by_cases leaves : call.LeavesGlobals
  · simpa only [Finalized, handle_globals orders faults leaves] using finalized
  · cases call with
    | updateGlobal sent => cases keeps
    | updateGlobalStatus sent =>
        have written : Cluster.handle orders faults (.updateGlobalStatus sent) cluster =
            (sendUpdateGlobalStatus sent).run (Cluster.handle orders faults) cluster := rfl
        rw [written, Cluster.run_sendUpdateGlobalStatus]
        cases faults (.updateGlobalStatus sent) with
        | some err => exact finalized
        | none =>
            cases registered : cluster.globals.get sent.name with
            | none => exact finalized
            | some stored =>
                apply finalized_put finalized
                intro same
                obtain ⟨own, ownRegistered, ownFinalizer⟩ := finalized
                have storedName : stored.name = sent.name := KeyedMap.key_of_get registered
                rw [← same, storedName, registered] at ownRegistered
                cases ownRegistered
                exact ownFinalizer
    | _ => exact absurd trivial leaves

end Finalized

section Answers

variable {call : GlobalCall} {cluster after : Cluster}

theorem ApiAnswers.finalized {response : Except ApiError call.Payload} {name : String}
    (answered : ApiAnswers call cluster response after) (keeps : call.KeepsFinalizers)
    (finalized : Finalized name cluster) : Finalized name after := by
  obtain ⟨orders, faults, -, rfl, -⟩ := answered
  exact handle_finalized orders faults keeps finalized

theorem ApiAnswers.possible {response : Except ApiError call.Payload}
    (answered : ApiAnswers call cluster response after) : call.Possible response := by
  obtain ⟨orders, faults, -, -, rfl | ⟨-, err, rfl⟩⟩ := answered
  · exact handle_possible orders faults call cluster
  · cases call <;> trivial

/-- A call of the loop that deletes the children: it takes away at most the boost
it names, and that is gone unless another error than a missing boost is
reported. -/
theorem ApiAnswers.deleted {key : BoostKey} {response : Except ApiError Unit}
    (answered : ApiAnswers (.deleteBoost .allChildren key) cluster response after) :
    after.globals = cluster.globals ∧
      (∀ other, after.boosts.get other = cluster.boosts.get other ∨
        after.boosts.get other = none) ∧
      ((∀ err, response = .error err → err.reason = .notFound) →
        after.boosts.get key = none) := by
  obtain ⟨orders, faults, truthful, rfl, reported⟩ := answered
  have leaves : (GlobalCall.deleteBoost .allChildren key).LeavesGlobals := trivial
  have deleted (other : BoostKey) : (Cluster.handle orders faults (.deleteBoost .allChildren key)
      cluster).2.boosts.get other = _ :=
    sendDeleteBoost_get orders faults .allChildren key other cluster
  refine ⟨handle_globals orders faults leaves cluster, ?_, ?_⟩
  · intro other
    rw [deleted]
    split
    · exact .inr rfl
    · exact .inl rfl
  · intro accepted
    rcases reported with same | ⟨carriedOut, -⟩
    · apply sendDeleteBoost_gone orders truthful key cluster
      intro err failed
      exact accepted err (same.trans failed)
    · rw [deleted, if_pos ⟨rfl, carriedOut⟩]

theorem ApiAnswers.listed {name : String} {response : Except ApiError (List StartupCPUBoost)}
    (answered : ApiAnswers (.listManagedBoosts name) cluster response after) :
    after = cluster ∧ ∀ boosts, response = .ok boosts → ChildrenAmong boosts name cluster := by
  obtain ⟨orders, faults, -, rfl, reported⟩ := answered
  have silent : ¬ (GlobalCall.listManagedBoosts name).IsWrite := id
  refine ⟨handle_of_not_isWrite orders faults _ cluster silent, ?_⟩
  rintro boosts rfl key boost stored managed
  rcases reported with same | ⟨-, err, lost⟩
  · have listing : Cluster.handle orders faults (.listManagedBoosts name) cluster =
        (sendListManagedBoosts name).run (Cluster.handle orders faults) cluster := rfl
    rw [listing, Cluster.run_sendListManagedBoosts] at same
    split at same
    · cases same
    · cases same
      have boostKey := KeyedMap.key_of_get stored
      refine ⟨boost, ?_, boostKey⟩
      rw [List.mem_filter, KeyedMap.mem_values, boostKey]
      exact ⟨stored, decide_eq_true managed⟩
  · cases lost

theorem ApiAnswers.read {name : String} {response : Except ApiError GlobalStartupCPUBoost}
    (answered : ApiAnswers (.getGlobal name) cluster response after) :
    after = cluster ∧
      ∀ globalBoost, response = .ok globalBoost → cluster.globals.get name = some globalBoost := by
  obtain ⟨orders, faults, -, rfl, reported⟩ := answered
  have silent : ¬ (GlobalCall.getGlobal name).IsWrite := id
  refine ⟨handle_of_not_isWrite orders faults _ cluster silent, ?_⟩
  rintro globalBoost rfl
  rcases reported with same | ⟨-, err, lost⟩
  · have reading : Cluster.handle orders faults (.getGlobal name) cluster =
        (sendGetGlobal name).run (Cluster.handle orders faults) cluster := rfl
    rw [reading, Cluster.run_sendGetGlobal] at same
    cases rejected : faults (.getGlobal name) with
    | some err =>
        rw [rejected] at same
        cases same
    | none =>
        cases registered : cluster.globals.get name with
        | none =>
            simp only [rejected, registered] at same
            cases same
        | some stored =>
            simp only [rejected, registered] at same
            cases same
            rfl
  · cases lost

/-- A call that writes a global boost leaves the boosts alone, and the finalizer
unless it takes it away. -/
theorem ApiAnswers.updated {sent : GlobalStartupCPUBoost} {response : Except ApiError Unit}
    (answered : ApiAnswers (.updateGlobal sent) cluster response after) :
    after.boosts = cluster.boosts ∧
      (globalBoostFinalizer ∈ sent.finalizers → ∀ name, Finalized name cluster →
        Finalized name after) := by
  obtain ⟨orders, faults, -, rfl, -⟩ := answered
  constructor
  · exact sendUpdateGlobal_boosts orders faults sent cluster
  · intro finalizer name finalized
    exact sendUpdateGlobal_finalized orders finalized fun _ => finalizer

end Answers

private theorem calls_reconcile (lib : Library) (order : RangeOrder String)
    (globalBoost : GlobalStartupCPUBoost) :
    (reconcile lib order globalBoost).AllCalls KeepsFinalizers Possible := by
  simp only [reconcile]
  split
  · trivial
  · apply allCalls_request_bind trivial
    intro response _
    cases response with
    | error err => trivial
    | ok namespaces =>
        apply allCalls_bind ((calls_processNamespaces globalBoost _ _ [] []).mono
          fun _ => LeavesGlobals.keepsFinalizers)
        rintro ⟨active, skipped⟩
        apply allCalls_bind ((calls_cleanupStaleChildren globalBoost.name active).mono
          fun _ => LeavesGlobals.keepsFinalizers)
        intro _
        exact calls_updateStatus globalBoost _ _

section Safe

variable {name : String} {cluster : Cluster}

theorem reconcile_safe (lib : Library) (order : RangeOrder String)
    (globalBoost : GlobalStartupCPUBoost) (finalized : Finalized name cluster) :
    (reconcile lib order globalBoost).SafeTo ApiAnswers FinalizerKeepingStep
      (ChildrenFinalized name) (fun _ => Finalized name) cluster := by
  have kept (before after : Cluster) (keeping : FinalizerKeepingStep before after)
      (finalized : Finalized name before) : Finalized name after := keeping.finalized name finalized
  have preserved (call : GlobalCall) (before : Cluster) (response : Except ApiError call.Payload)
      (after : Cluster) (keeps : call.KeepsFinalizers)
      (answered : ApiAnswers call before response after) (finalized : Finalized name before) :
      Finalized name after := answered.finalized keeps finalized
  exact safeTo_of_allCalls (fun _ _ _ _ answered => answered.possible) kept preserved
    (fun _ finalized => finalized.childrenFinalized) (calls_reconcile lib order globalBoost)
    finalized

/-- The loop that deletes the listed boosts: while it runs, the children that are
left are among those still to be deleted. -/
private theorem deleteBoosts_safe (boosts : List StartupCPUBoost)
    (children : ChildrenFinalized name cluster) (among : ChildrenAmong boosts name cluster) :
    (deleteBoosts boosts).SafeTo ApiAnswers FinalizerKeepingStep (ChildrenFinalized name)
      (fun result after => result = .ok () → NoChildren name after) cluster := by
  induction boosts generalizing cluster with
  | nil =>
      intro _ key boost stored managed
      obtain ⟨listed, member, -⟩ := among key boost stored managed
      cases member
  | cons boost rest ih =>
      apply safeTo_request_bind
      intro between reached response after answered
      have childrenBetween := environment_keeps (ChildrenFinalized name)
        (fun _ _ keeping => keeping.childrenFinalized) reached children
      have amongBetween := environment_keeps (ChildrenAmong (boost :: rest) name)
        (fun _ _ keeping => keeping.step.childrenAmong) reached among
      obtain ⟨sameGlobals, shrinks, gone⟩ := answered.deleted
      have storedBetween {key : BoostKey} {child : StartupCPUBoost}
          (present : after.boosts.get key = some child) :
          between.boosts.get key = some child := by
        rcases shrinks key with same | missing
        · rw [← same]
          exact present
        · rw [missing] at present
          cases present
      have childrenAfter : ChildrenFinalized name after := by
        intro key child present managed
        have finalized := childrenBetween key child (storedBetween present) managed
        simpa only [Finalized, sameGlobals] using finalized
      have amongRest (missing : after.boosts.get boost.key = none) :
          ChildrenAmong rest name after := by
        intro key child present managed
        obtain ⟨listed, member, sameKey⟩ :=
          amongBetween key child (storedBetween present) managed
        rcases List.mem_cons.mp member with rfl | inRest
        · rw [← sameKey, missing] at present
          cases present
        · exact ⟨listed, inRest, sameKey⟩
      refine ⟨childrenAfter, ?_⟩
      cases response with
      | ok =>
          apply ih childrenAfter
          apply amongRest
          apply gone
          intro err failed
          cases failed
      | error err =>
          simp only
          by_cases notFound : err.reason = .notFound
          · rw [if_pos notFound]
            apply ih childrenAfter
            apply amongRest
            apply gone
            intro reported same
            cases same
            exact notFound
          · rw [if_neg notFound]
            intro failed
            cases failed

private theorem deleteAllChildren_safe (children : ChildrenFinalized name cluster) :
    (deleteAllChildren name).SafeTo ApiAnswers FinalizerKeepingStep (ChildrenFinalized name)
      (fun result after => result = .ok () → NoChildren name after) cluster := by
  apply safeTo_request_bind
  intro between reached response after answered
  have childrenBetween := environment_keeps (ChildrenFinalized name)
    (fun _ _ keeping => keeping.childrenFinalized) reached children
  obtain ⟨rfl, among⟩ := answered.listed
  refine ⟨childrenBetween, ?_⟩
  cases response with
  | error err =>
      intro failed
      cases failed
  | ok boosts => exact deleteBoosts_safe boosts childrenBetween (among boosts rfl)

/-- The finalizer is taken away when there are no children left. -/
private theorem handleDeletion_safe {globalBoost : GlobalStartupCPUBoost}
    (sameName : globalBoost.name = name) (children : ChildrenFinalized name cluster) :
    (handleDeletion globalBoost).SafeTo ApiAnswers FinalizerKeepingStep (ChildrenFinalized name)
      (fun _ _ => True) cluster := by
  subst sameName
  simp only [handleDeletion]
  split
  · trivial
  · apply safeTo_bind
    apply (deleteAllChildren_safe children).mono
    intro result deleted noChildren
    cases result with
    | error message => trivial
    | ok =>
        apply safeTo_request_bind
        intro between reached response after answered
        have noChildrenBetween := environment_keeps (NoChildren globalBoost.name)
          (fun _ _ keeping => keeping.step.noChildren) reached (noChildren rfl)
        obtain ⟨sameBoosts, -⟩ := answered.updated
        have noChildrenAfter : NoChildren globalBoost.name after := by
          unfold NoChildren
          rwa [sameBoosts]
        refine ⟨noChildrenAfter.childrenFinalized, ?_⟩
        cases response <;> trivial

/-- Every reconciliation keeps its children under the finalizer, whatever users
do between its calls and however these are answered. -/
private theorem reconcileGlobal_safe (lib : Library) (order : RangeOrder String)
    (children : ChildrenFinalized name cluster) :
    (reconcileGlobal lib order name).SafeTo ApiAnswers FinalizerKeepingStep (ChildrenFinalized name)
      (fun _ _ => True) cluster := by
  apply safeTo_request_bind
  intro between reached response after answered
  have childrenBetween := environment_keeps (ChildrenFinalized name)
    (fun _ _ keeping => keeping.childrenFinalized) reached children
  obtain ⟨rfl, read⟩ := answered.read
  refine ⟨childrenBetween, ?_⟩
  cases response with
  | error err =>
      simp only
      split <;> trivial
  | ok globalBoost =>
      have registered := read globalBoost rfl
      have sameName : globalBoost.name = name := KeyedMap.key_of_get registered
      simp only
      by_cases deleted : globalBoost.deletionTimestamp ≠ none
      · rw [if_pos deleted]
        exact handleDeletion_safe sameName childrenBetween
      · rw [if_neg deleted]
        by_cases noFinalizer : globalBoostFinalizer ∉ globalBoost.finalizers
        · -- The finalizer is added: the children there are stay under it.
          rw [if_pos noFinalizer]
          apply safeTo_request_bind
          intro later reachedLater response' after' answered'
          have childrenLater := environment_keeps (ChildrenFinalized name)
            (fun _ _ keeping => keeping.childrenFinalized) reachedLater childrenBetween
          obtain ⟨sameBoosts, keepsFinalizer⟩ := answered'.updated
          constructor
          · intro key child present managed
            rw [sameBoosts] at present
            apply keepsFinalizer
            · exact List.mem_append_right _ (List.mem_singleton_self _)
            · exact childrenLater key child present managed
          · cases response' <;> trivial
        · rw [if_neg noFinalizer]
          have finalized : Finalized name after := ⟨globalBoost, registered, not_not.mp noFinalizer⟩
          exact (reconcile_safe lib order globalBoost finalized).mono fun _ _ _ => trivial

end Safe

/-- A run of reconciliations of one global boost, call by call, among user steps. -/
abbrev ReconcileRun (lib : Library) (name : String) :=
  Relation.ReflTransGen (Interleaving.Step ApiAnswers FinalizerKeepingStep
    fun program => ∃ order, program = reconcileGlobal lib order name)

/-- In every state of every run that starts without children, a global boost that
does not exist has no children. -/
theorem deleted_global_has_no_children (lib : Library) (name : String)
    {initial final : Interleaving GlobalCall (fun call => Except ApiError call.Payload)
      (Except String ReconcileResult) Cluster} (idle : initial.running = none)
    (noChildren : NoChildren name initial.state) (run : ReconcileRun lib name initial final)
    (deleted : final.state.globals.get name = none) : NoChildren name final.state := by
  have kept (before after : Cluster) (keeping : FinalizerKeepingStep before after)
      (children : ChildrenFinalized name before) : ChildrenFinalized name after :=
    keeping.childrenFinalized children
  have children : ChildrenFinalized name final.state := by
    apply Interleaving.invariant_of_safe kept _ idle noChildren.childrenFinalized run
    rintro program ⟨order, rfl⟩ state children
    exact reconcileGlobal_safe lib order children
  intro key boost present managed
  obtain ⟨stored, registered, -⟩ := children key boost present managed
  rw [deleted] at registered
  cases registered

private theorem reconcileRun_noFaults (lib : Library) (orders : ListOrders)
    (order : RangeOrder String) (name : String) (cluster : Cluster) :
    ReconcileRun lib name ⟨cluster, none⟩
      ⟨((reconcileGlobal lib order name).run (Cluster.handle orders noFaults) cluster).2,
        none⟩ := by
  have started : Interleaving.Step ApiAnswers FinalizerKeepingStep
      (fun program => ∃ order, program = reconcileGlobal lib order name)
      ⟨cluster, none⟩ ⟨cluster, some (reconcileGlobal lib order name)⟩ :=
    .start cluster ⟨order, rfl⟩
  apply Relation.ReflTransGen.head started
  apply Interleaving.steps_of_run
  intro call state
  exact ⟨orders, noFaults, nofun, rfl, .inl rfl⟩

private theorem handleDeletion_removes (orders : ListOrders) {globalBoost : GlobalStartupCPUBoost}
    {cluster : Cluster} (registered : cluster.globals.get globalBoost.name = some globalBoost)
    (deleted : globalBoost.deletionTimestamp ≠ none)
    (finalizers : globalBoost.finalizers = [globalBoostFinalizer]) :
    ((handleDeletion globalBoost).run (Cluster.handle orders noFaults) cluster).2.globals.get
      globalBoost.name = none := by
  have finalizer : globalBoostFinalizer ∈ globalBoost.finalizers := by
    rw [finalizers]
    exact List.mem_singleton_self _
  have noneLeft : (globalBoost.finalizers.filter fun name => name ≠ globalBoostFinalizer) = [] := by
    simp [finalizers]
  have sameGlobals := run_globals orders noFaults (calls_deleteAllChildren globalBoost.name) cluster
  have stillRegistered : ((deleteAllChildren globalBoost.name).run
      (Cluster.handle orders noFaults) cluster).2.globals.get globalBoost.name =
        some globalBoost := by
    rw [sameGlobals, registered]
  simp only [handleDeletion, finalizer, not_true_eq_false, if_false, run_bind,
    deleteAllChildren_noFaults, Cluster.run_sendUpdateGlobal, show noFaults _ = none from rfl,
    stillRegistered, noneLeft, and_true, if_pos deleted, run_pure]
  rw [KeyedMap.get_remove, if_pos rfl]

namespace Reference

/-- `g` distributes its child to `team`, its deletion is requested, and with the
next reconciliation both are gone. -/
theorem deleted_global_has_no_children_team :
    ∃ deleting final : Cluster, FinalizerKeepingStep reconciledTeam deleting ∧
      reconciledTeam.boosts.get ("team", "global-g") ≠ none ∧
      ReconcileRun referenceLibrary globalBoost.name ⟨deleting, none⟩ ⟨final, none⟩ ∧
      final.globals.get globalBoost.name = none ∧ NoChildren globalBoost.name final := by
  obtain ⟨boosts, status, registered⟩ := reconciledTeam_passes
  have child : reconciledTeam.boosts.get ("team", "global-g") ≠ none := by
    rw [boosts, if_pos rfl]
    exact Option.some_ne_none _
  let deleted : GlobalStartupCPUBoost :=
    { globalBoost with status := status, deletionTimestamp := some 0 }
  let deleting : Cluster :=
    { reconciledTeam with globals := reconciledTeam.globals.put deleted }
  have requested : FinalizerKeepingStep reconciledTeam deleting := by
    refine ⟨.requestDeletion reconciledTeam globalBoost.name _ 0 registered
      (List.cons_ne_nil _ _), ?_⟩
    intro name finalized
    exact finalized_put finalized fun _ => List.mem_singleton_self _
  have stored : deleting.globals.get deleted.name = some deleted := by
    rw [KeyedMap.get_put, if_pos rfl]
  have removed := handleDeletion_removes anyOrders stored (Option.some_ne_none 0) rfl
  have reconciled := reconcileRun_noFaults referenceLibrary anyOrders .arbitrary globalBoost.name
    deleting
  have result : ((reconcileGlobal referenceLibrary .arbitrary globalBoost.name).run
      (Cluster.handle anyOrders noFaults) deleting) =
        (handleDeletion deleted).run (Cluster.handle anyOrders noFaults) deleting := by
    rw [reconcileGlobal, run_bind, Cluster.run_sendGetGlobal, show noFaults _ = none from rfl,
      show deleting.globals.get globalBoost.name = some deleted from stored]
    exact congrArg (CallProgram.run _ · deleting) (if_pos (Option.some_ne_none 0))
  rw [result] at reconciled
  refine ⟨deleting, _, requested, child, reconciled, removed, ?_⟩
  have created := reconcileRun_noFaults referenceLibrary anyOrders .arbitrary globalBoost.name
    emptyTeam
  have whole := (created.tail (.environment none requested)).trans reconciled
  apply deleted_global_has_no_children referenceLibrary globalBoost.name rfl _ whole removed
  intro key boost present
  rw [emptyTeam, KeyedMap.get_empty] at present
  cases present

end Reference

end KubeStartupCPUBoost
