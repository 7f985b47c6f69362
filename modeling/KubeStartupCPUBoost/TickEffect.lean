import KubeStartupCPUBoost.ConcurrentTick
import KubeStartupCPUBoost.TimedBoostIndex
import Mathlib.Data.List.Nodup

/-!
# What a tick does

A tick reverts the pods that have outlived the fixed duration of their boost.
Its workers run at the same time, but each pod's revert comes to the outcome it
would have alone, and nothing else changes: `Reverts` says so for any set of
reverts made so far, and `ConcurrentTick.tick_effect` for a whole tick.
-/

namespace KubeStartupCPUBoost

variable {τ : Type} (lib : Library) (store : PodStore τ)

/-- A pod that a registered boost tracks and whose fixed duration is over. -/
def Due (now : Time) (manager : Manager (PodKey → τ)) (boost : BoostRef) (ref : PodRef) : Prop :=
  (∃ name ns, manager.regularBoosts.get name ns = some boost) ∧
    ∃ policy, (manager.boosts boost).durationPolicies.lookup fixedDurationPolicyName =
        some policy ∧
      (∃ podName, (manager.boosts boost).pods.lookup podName = some ref) ∧
        policy.valid now (manager.memory.pods ref) = false

abbrev revertAlone (manager : Manager (PodKey → τ)) (boost : BoostRef) (ref : PodRef) :
    CallOutcome (PodKey → τ) :=
  (manager.boosts boost).revertCalls lib store.client ref manager.memory

/-- The reverts made lead from one state to another: each had the outcome it has
alone in the first state, a pod whose revert succeeded is no longer tracked, and
nothing else has changed but statistics, metrics and the log. -/
structure Reverts (made : BoostRef → PodRef → Prop) (before after : Manager (PodKey → τ)) :
    Prop where
  configuration : Manager.SameConfiguration before after
  object : ∀ boost ref, made boost ref →
    after.memory.pods ref = (revertAlone lib store before boost ref).pod
  stored : ∀ boost ref, made boost ref →
    after.memory.server (before.memory.pods ref).key =
      (revertAlone lib store before boost ref).server (before.memory.pods ref).key
  untracked : ∀ boost ref, made boost ref →
    (revertAlone lib store before boost ref).result = .ok () →
      (after.boosts boost).pods.lookup (before.memory.pods ref).name = none
  kept : ∀ boost ref, made boost ref →
    (revertAlone lib store before boost ref).result ≠ .ok () →
      (after.boosts boost).pods.lookup (before.memory.pods ref).name =
        (before.boosts boost).pods.lookup (before.memory.pods ref).name
  otherObjects : ∀ ref, (∀ boost, ¬ made boost ref) →
    after.memory.pods ref = before.memory.pods ref
  otherStored : ∀ key, (∀ boost ref, made boost ref → (before.memory.pods ref).key ≠ key) →
    after.memory.server key = before.memory.server key
  otherTracked : ∀ boost name,
    (∀ ref, made boost ref → (before.memory.pods ref).name ≠ name) →
      (after.boosts boost).pods.lookup name = (before.boosts boost).pods.lookup name

namespace Reverts

variable {lib store} {made : BoostRef → PodRef → Prop} {before after : Manager (PodKey → τ)}

variable (lib store) in
theorem refl (manager : Manager (PodKey → τ)) :
    Reverts lib store (fun _ _ => False) manager manager where
  configuration := .refl manager
  object _ _ made := made.elim
  stored _ _ made := made.elim
  untracked _ _ made := made.elim
  kept _ _ made := made.elim
  otherObjects _ _ := rfl
  otherStored _ _ := rfl
  otherTracked _ _ _ := rfl

/-- Before its revert, a pod is reverted as it would have been at first. -/
theorem revertAlone_eq (reverts : Reverts lib store made before after) (boost : BoostRef)
    {ref : PodRef}
    (new : ∀ other otherRef, made other otherRef →
      (before.memory.pods otherRef).key ≠ (before.memory.pods ref).key) :
    let early := revertAlone lib store before boost ref
    let late := revertAlone lib store after boost ref
    late.result = early.result ∧ late.pod = early.pod ∧
      late.server (before.memory.pods ref).key = early.server (before.memory.pods ref).key ∧
      ∀ key, key ≠ (before.memory.pods ref).key → late.server key = after.memory.server key := by
  have sameObject : after.memory.pods ref = before.memory.pods ref :=
    reverts.otherObjects ref fun other made => new other ref made rfl
  have sameStored := reverts.otherStored _ new
  have sameMode : (after.boosts boost).legacyRevertMode =
      (before.boosts boost).legacyRevertMode := by
    rw [reverts.configuration.boosts boost]
  simp only [revertAlone, StartupCPUBoostImpl.revertCalls, store.revertPod_eq_run,
    PodStore.runOn, sameObject, sameStored, sameMode, Function.update_self]
  exact ⟨trivial, trivial, trivial, fun key different => Function.update_of_ne different _ _⟩

variable (lib) in
theorem lookup_revertResourcesIn (client : PodClient (PodKey → τ)) (manager : Manager (PodKey → τ))
    (boost : BoostRef) (ref : PodRef) (other : BoostRef) (name : String) :
    let calls := (manager.boosts boost).revertCalls lib client ref manager.memory
    let tracked := (((manager.revertResourcesIn lib client boost ref).2.boosts other).pods.lookup
      name)
    (other = boost ∧ name = (manager.memory.pods ref).name ∧ calls.result = .ok () ∧
        tracked = none) ∨
      (¬ (other = boost ∧ name = (manager.memory.pods ref).name ∧ calls.result = .ok ()) ∧
        tracked = (manager.boosts other).pods.lookup name) := by
  simp only [Manager.revertResourcesIn]
  by_cases same : other = boost
  · subst same
    rw [Manager.setBoost_boosts_self]
    cases result : ((manager.boosts other).revertCalls lib client ref manager.memory).result with
    | error message =>
        rw [StartupCPUBoostImpl.revertResources_of_error lib client ref _ _ result]
        exact .inr ⟨by simp, rfl⟩
    | ok =>
        obtain ⟨stats, metrics, reverted⟩ :=
          StartupCPUBoostImpl.revertResources_of_ok lib client ref _ _ result
        rw [reverted]
        simp only [GoMap.lookup_erase]
        by_cases sameName : name = (manager.memory.pods ref).name
        · exact .inl ⟨trivial, sameName, trivial, if_pos sameName⟩
        · exact .inr ⟨fun isPod => sameName isPod.2.1, if_neg sameName⟩
  · rw [Manager.setBoost_boosts_of_ne same]
    exact .inr ⟨fun isPod => same isPod.1, rfl⟩

theorem revertResourcesIn (reverts : Reverts lib store made before after) {boost : BoostRef}
    {ref : PodRef}
    (new : ∀ other otherRef, made other otherRef →
      (before.memory.pods otherRef).key ≠ (before.memory.pods ref).key)
    (sameNs : ∀ otherRef, made boost otherRef →
      (before.memory.pods otherRef).ns = (before.memory.pods ref).ns) :
    Reverts lib store (fun other otherRef => made other otherRef ∨ other = boost ∧ otherRef = ref)
      before (after.revertResourcesIn lib store.client boost ref).2 := by
  obtain ⟨sameResult, sameObject, sameStored, otherParts⟩ := reverts.revertAlone_eq boost new
  have sameName : (after.memory.pods ref).name = (before.memory.pods ref).name := by
    rw [reverts.otherObjects ref fun other made => new other ref made rfl]
  have objects : (after.revertResourcesIn lib store.client boost ref).2.memory.pods =
      Function.update after.memory.pods ref (revertAlone lib store after boost ref).pod :=
    StartupCPUBoostImpl.revertResources_pods lib store.client ref _ _
  have parts : (after.revertResourcesIn lib store.client boost ref).2.memory.server =
      (revertAlone lib store after boost ref).server :=
    StartupCPUBoostImpl.revertResources_server lib store.client ref _ _
  have lookup := lookup_revertResourcesIn lib store.client after boost ref
  have newRef : ∀ other otherRef, made other otherRef → otherRef ≠ ref := by
    rintro other otherRef made rfl
    exact new other otherRef made rfl
  -- Under one boost's namespace, pods with different keys have different names.
  have newName : ∀ otherRef, made boost otherRef →
      (before.memory.pods otherRef).name ≠ (before.memory.pods ref).name := by
    intro otherRef made same
    exact new boost otherRef made (Prod.ext (sameNs otherRef made) same)
  have lookupOther : ∀ other name, (other = boost → name ≠ (before.memory.pods ref).name) →
      ((after.revertResourcesIn lib store.client boost ref).2.boosts other).pods.lookup name =
        (after.boosts other).pods.lookup name := by
    intro other name different
    rcases lookup other name with ⟨same, isPod, -, -⟩ | ⟨-, unchanged⟩
    · exact absurd (isPod.trans sameName) (different same)
    · exact unchanged
  constructor
  case configuration => exact reverts.configuration.revertResourcesIn lib store.client ref
  case object =>
    rintro other otherRef (made | ⟨rfl, rfl⟩)
    · rw [objects, Function.update_of_ne (newRef other otherRef made)]
      exact reverts.object other otherRef made
    · rw [objects, Function.update_self]
      exact sameObject
  case stored =>
    rintro other otherRef (made | ⟨rfl, rfl⟩)
    · rw [parts, otherParts _ (new other otherRef made)]
      exact reverts.stored other otherRef made
    · rw [parts]
      exact sameStored
  case untracked =>
    rintro other otherRef (made | ⟨rfl, rfl⟩) succeeded
    · rw [lookupOther other _ (by rintro rfl; exact newName otherRef made)]
      exact reverts.untracked other otherRef made succeeded
    · rcases lookup other (before.memory.pods otherRef).name with ⟨-, -, -, gone⟩ | ⟨notPod, -⟩
      · exact gone
      · exact absurd ⟨rfl, sameName.symm, sameResult.trans succeeded⟩ notPod
  case kept =>
    rintro other otherRef (made | ⟨rfl, rfl⟩) failed
    · rw [lookupOther other _ (by rintro rfl; exact newName otherRef made)]
      exact reverts.kept other otherRef made failed
    · rcases lookup other (before.memory.pods otherRef).name with ⟨-, -, ok, -⟩ | ⟨-, unchanged⟩
      · exact absurd (sameResult.symm.trans ok) failed
      · rw [unchanged]
        exact reverts.otherTracked other _ newName
  case otherObjects =>
    intro otherRef notMade
    have different : otherRef ≠ ref := by
      rintro rfl
      exact notMade boost (.inr ⟨rfl, rfl⟩)
    rw [objects, Function.update_of_ne different]
    exact reverts.otherObjects otherRef fun other made => notMade other (.inl made)
  case otherStored =>
    intro key notMade
    rw [parts, otherParts key (notMade boost ref (.inr ⟨rfl, rfl⟩)).symm]
    exact reverts.otherStored key fun other otherRef made => notMade other otherRef (.inl made)
  case otherTracked =>
    intro other name notMade
    rw [lookupOther other name (by rintro rfl same; exact notMade ref (.inr ⟨rfl, rfl⟩) same.symm)]
    exact reverts.otherTracked other name fun otherRef made => notMade otherRef (.inl made)

theorem congr {other : BoostRef → PodRef → Prop} (reverts : Reverts lib store made before after)
    (same : ∀ boost ref, made boost ref ↔ other boost ref) :
    Reverts lib store other before after := by
  obtain rfl : made = other := funext₂ fun boost ref => propext (same boost ref)
  exact reverts

end Reverts

namespace Due

variable {now : Time} {manager : Manager (PodKey → τ)} {boost other : BoostRef}
  {ref otherRef : PodRef}

theorem holds (due : Due now manager boost ref) : Holds {} manager boost ref := by
  obtain ⟨registered, _, _, tracked, _⟩ := due
  exact .inl ⟨.inl registered, tracked⟩

theorem ns_eq (due : Due now manager boost ref) (wellFormed : WellFormed {} manager) :
    (manager.memory.pods ref).ns = (manager.boosts boost).ns := by
  obtain ⟨_, _, _, ⟨podName, tracked⟩, _⟩ := due
  exact congrArg Prod.fst (wellFormed.tracked _ _ _ tracked).1

theorem eq_of_key (due : Due now manager boost ref) (otherDue : Due now manager other otherRef)
    (wellFormed : WellFormed {} manager) (apart : PodsApart {} manager)
    (sameKey : (manager.memory.pods ref).key = (manager.memory.pods otherRef).key) :
    boost = other ∧ ref = otherRef := by
  obtain rfl := apart _ _ _ _ due.holds otherDue.holds sameKey
  obtain ⟨_, _, _, ⟨podName, tracked⟩, _⟩ := due
  obtain ⟨_, _, _, ⟨otherName, otherTracked⟩, _⟩ := otherDue
  have sameName : podName = otherName := by
    have keys := (wellFormed.tracked _ _ _ tracked).1.symm.trans
      (sameKey.trans (wellFormed.tracked _ _ _ otherTracked).1)
    exact congrArg Prod.snd keys
  subst sameName
  exact ⟨rfl, Option.some.inj (tracked.symm.trans otherTracked)⟩

end Due

variable (now : Time) (before : Manager (PodKey → τ))

/-- The state of a tick that has made some of its reverts: every pod due at the
start belongs to a boost still to be checked, is a task in flight, or has been
reverted. -/
structure TickProgress (made : BoostRef → PodRef → Prop) (state : Controller (PodKey → τ)) :
    Prop where
  time : state.now = now
  reverts : Reverts lib store made before state.manager
  wellFormed : WellFormed {} state.manager
  scanningNodup : state.inFlight.scanning.Nodup
  tasksNodup : state.inFlight.tasks.Nodup
  registered : ∀ boost ∈ state.inFlight.scanning,
    ∃ name ns, before.regularBoosts.get name ns = some boost
  tasksDue : ∀ boost ref, (boost, ref) ∈ state.inFlight.tasks → Due now before boost ref
  madeDue : ∀ boost ref, made boost ref → Due now before boost ref
  accounted : ∀ boost ref, Due now before boost ref →
    boost ∈ state.inFlight.scanning ∨ (boost, ref) ∈ state.inFlight.tasks ∨ made boost ref
  unchecked : ∀ boost ∈ state.inFlight.scanning, ∀ ref,
    (boost, ref) ∉ state.inFlight.tasks ∧ ¬ made boost ref
  notMade : ∀ boost ref, (boost, ref) ∈ state.inFlight.tasks → ¬ made boost ref

namespace TickProgress

variable {lib store now before} {made : BoostRef → PodRef → Prop}
  {state : Controller (PodKey → τ)}

/-- Checking a boost finds the pods due at the start. -/
theorem mem_validatePolicy_iff (progress : TickProgress lib store now before made state)
    (apart : PodsApart {} before) {boost : BoostRef}
    (scanning : boost ∈ state.inFlight.scanning) (order : RangeOrder String) (ref : PodRef) :
    ref ∈ (state.manager.boosts boost).validatePolicy order state.now fixedDurationPolicyName
        state.manager.memory ↔ Due now before boost ref := by
  have samePolicies := progress.reverts.configuration.durationPolicies boost
  have sameTracked : ∀ name, (state.manager.boosts boost).pods.lookup name =
      (before.boosts boost).pods.lookup name := by
    intro name
    apply progress.reverts.otherTracked
    intro other made
    exact absurd made (progress.unchecked boost scanning other).2
  -- An object the boost tracks is no other boost's, so it has not been reverted.
  have sameObject : (∃ podName, (before.boosts boost).pods.lookup podName = some ref) →
      state.manager.memory.pods ref = before.memory.pods ref := by
    intro tracked
    apply progress.reverts.otherObjects
    intro other made
    have holds : Holds {} before boost ref := .inl ⟨.inl (progress.registered _ scanning), tracked⟩
    obtain rfl := apart _ _ _ _ (progress.madeDue _ _ made).holds holds rfl
    exact (progress.unchecked other scanning ref).2 made
  rw [StartupCPUBoostImpl.mem_validatePolicy_iff, samePolicies, progress.time]
  simp only [sameTracked]
  constructor
  · rintro ⟨policy, present, tracked, expired⟩
    rw [sameObject tracked] at expired
    exact ⟨progress.registered _ scanning, policy, present, tracked, expired⟩
  · rintro ⟨-, policy, present, tracked, expired⟩
    rw [← sameObject tracked] at expired
    exact ⟨policy, present, tracked, expired⟩

theorem checkNextBoost (progress : TickProgress lib store now before made state)
    (apart : PodsApart {} before) (order : RangeOrder String) :
    TickProgress lib store now before made (state.checkNextBoost order) := by
  unfold Controller.checkNextBoost
  cases scanning : state.inFlight.scanning with
  | nil => exact progress
  | cons boost rest =>
      have next : boost ∈ state.inFlight.scanning := by
        rw [scanning]
        exact List.mem_cons_self
      have later : ∀ other ∈ rest, other ∈ state.inFlight.scanning ∧ other ≠ boost := by
        intro other member
        have nodup := progress.scanningNodup
        rw [scanning] at nodup ⊢
        refine ⟨List.mem_cons_of_mem _ member, ?_⟩
        rintro rfl
        exact (List.nodup_cons.mp nodup).1 member
      have violated := progress.mem_validatePolicy_iff apart next order
      have memTasks : ∀ other otherRef,
          (other, otherRef) ∈ state.inFlight.tasks ++
              ((state.manager.boosts boost).validatePolicy order state.now
                fixedDurationPolicyName state.manager.memory).map (fun ref => (boost, ref)) ↔
            (other, otherRef) ∈ state.inFlight.tasks ∨
              other = boost ∧ Due now before boost otherRef := by
        intro other otherRef
        rw [List.mem_append, List.mem_map]
        simp only [violated, Prod.mk.injEq]
        grind
      constructor
      case time => exact progress.time
      case reverts => exact progress.reverts
      case wellFormed => exact progress.wellFormed
      case scanningNodup =>
        have nodup := progress.scanningNodup
        rw [scanning] at nodup
        exact (List.nodup_cons.mp nodup).2
      case tasksNodup =>
        refine List.nodup_append.mpr ⟨progress.tasksNodup, ?_, ?_⟩
        · exact (Manager.nodup_validatePolicy progress.wellFormed boost order _).map
            fun _ _ same => congrArg Prod.snd same
        · intro task earlier other new
          obtain ⟨ref, -, rfl⟩ := List.mem_map.mp new
          rintro rfl
          exact (progress.unchecked boost next ref).1 earlier
      case registered => exact fun other member => progress.registered other (later other member).1
      case tasksDue =>
        intro other otherRef task
        rcases (memTasks other otherRef).mp task with earlier | ⟨rfl, due⟩
        · exact progress.tasksDue other otherRef earlier
        · exact due
      case madeDue => exact progress.madeDue
      case accounted =>
        intro other otherRef due
        rcases progress.accounted other otherRef due with unchecked | task | made
        · rw [scanning] at unchecked
          rcases List.mem_cons.mp unchecked with rfl | member
          · exact .inr (.inl ((memTasks other otherRef).mpr (.inr ⟨rfl, due⟩)))
          · exact .inl member
        · exact .inr (.inl ((memTasks other otherRef).mpr (.inl task)))
        · exact .inr (.inr made)
      case unchecked =>
        intro other member otherRef
        obtain ⟨stillScanned, different⟩ := later other member
        refine ⟨fun task => ?_, (progress.unchecked other stillScanned otherRef).2⟩
        rcases (memTasks other otherRef).mp task with earlier | ⟨same, -⟩
        · exact (progress.unchecked other stillScanned otherRef).1 earlier
        · exact different same
      case notMade =>
        intro other otherRef task
        rcases (memTasks other otherRef).mp task with earlier | ⟨rfl, -⟩
        · exact progress.notMade other otherRef earlier
        · exact (progress.unchecked other next otherRef).2

theorem eraseIdx_eq_erase {tasks : List (BoostRef × PodRef)} (nodup : tasks.Nodup)
    {position : Nat} {task : BoostRef × PodRef} (taken : tasks[position]? = some task) :
    tasks.eraseIdx position = tasks.erase task := by
  obtain ⟨bound, rfl⟩ := List.getElem?_eq_some_iff.mp taken
  exact (nodup.erase_getElem position bound).symm

theorem executeTask (progress : TickProgress lib store now before made state)
    (startWellFormed : WellFormed {} before) (apart : PodsApart {} before) (position : Nat) :
    ∃ made, TickProgress lib store now before made
      (state.executeTask lib store.client position) := by
  unfold Controller.executeTask
  cases taken : state.inFlight.tasks[position]? with
  | none => exact ⟨made, progress⟩
  | some task =>
      obtain ⟨boost, ref⟩ := task
      have task : (boost, ref) ∈ state.inFlight.tasks := List.mem_of_getElem? taken
      have due := progress.tasksDue boost ref task
      have memErased : ∀ other otherRef,
          (other, otherRef) ∈ state.inFlight.tasks.erase (boost, ref) ↔
            (other, otherRef) ≠ (boost, ref) ∧ (other, otherRef) ∈ state.inFlight.tasks :=
        fun _ _ => progress.tasksNodup.mem_erase_iff
      refine ⟨fun other otherRef => made other otherRef ∨ other = boost ∧ otherRef = ref, ?_⟩
      simp only [eraseIdx_eq_erase progress.tasksNodup taken]
      constructor
      case time => exact progress.time
      case reverts =>
        apply progress.reverts.revertResourcesIn
        · intro other otherRef made sameKey
          obtain ⟨rfl, rfl⟩ := (progress.madeDue _ _ made).eq_of_key due startWellFormed apart
            sameKey
          exact progress.notMade _ _ task made
        · intro otherRef made
          rw [(progress.madeDue _ _ made).ns_eq startWellFormed, due.ns_eq startWellFormed]
      case wellFormed => exact progress.wellFormed.revertResourcesIn lib store.client boost ref
      case scanningNodup => exact progress.scanningNodup
      case tasksNodup => exact progress.tasksNodup.erase _
      case registered => exact progress.registered
      case tasksDue =>
        exact fun other otherRef left =>
          progress.tasksDue other otherRef ((memErased other otherRef).mp left).2
      case madeDue =>
        rintro other otherRef (made | ⟨rfl, rfl⟩)
        · exact progress.madeDue other otherRef made
        · exact due
      case accounted =>
        intro other otherRef otherDue
        rcases progress.accounted other otherRef otherDue with unchecked | inFlight | made
        · exact .inl unchecked
        · by_cases same : (other, otherRef) = (boost, ref)
          · cases same
            exact .inr (.inr (.inr ⟨rfl, rfl⟩))
          · exact .inr (.inl ((memErased other otherRef).mpr ⟨same, inFlight⟩))
        · exact .inr (.inr (.inl made))
      case unchecked =>
        intro other member otherRef
        obtain ⟨noTask, notMade⟩ := progress.unchecked other member otherRef
        refine ⟨fun left => noTask ((memErased other otherRef).mp left).2, ?_⟩
        rintro (made | ⟨rfl, rfl⟩)
        · exact notMade made
        · exact noTask task
      case notMade =>
        rintro other otherRef left (made | ⟨rfl, rfl⟩)
        · exact progress.notMade other otherRef ((memErased other otherRef).mp left).2 made
        · exact ((memErased other otherRef).mp left).1 rfl

theorem run (startWellFormed : WellFormed {} before) (apart : PodsApart {} before)
    (legacyRevertMode : Bool) {events : List (ControllerEvent (PodKey → τ))}
    (ofTick : ∀ event ∈ events, event.OfTick)
    (progress : TickProgress lib store now before made state) :
    ∃ made, TickProgress lib store now before made
      (state.run lib store.client legacyRevertMode events) := by
  induction events generalizing state made with
  | nil => exact ⟨made, progress⟩
  | cons event rest ih =>
      rw [List.forall_mem_cons] at ofTick
      cases event with
      | checkBoost order => exact ih ofTick.2 (progress.checkNextBoost apart order)
      | executeTask position =>
          obtain ⟨made, executed⟩ := progress.executeTask startWellFormed apart position
          exact ih ofTick.2 executed
      | _ => cases ofTick.1

theorem start (wellFormed : WellFormed {} before) (indexed : Manager.TimedIndexed none before)
    (order : RangeOrder String) (within : String → RangeOrder String) :
    TickProgress lib store now before (fun _ _ => False)
      { manager := before, now, inFlight :=
        { scanning := before.timedBoosts.listAll order within } } where
  time := rfl
  reverts := .refl lib store before
  wellFormed := wellFormed
  scanningNodup := Manager.nodup_timedBoosts wellFormed
  tasksNodup := List.nodup_nil
  registered boost member := by
    obtain ⟨name, ns, timed⟩ := NamespacedObjects.mem_listAll.mp member
    exact ⟨name, ns, wellFormed.timed _ _ _ timed⟩
  tasksDue _ _ task := absurd task List.not_mem_nil
  madeDue _ _ made := made.elim
  accounted boost ref due := by
    obtain ⟨⟨name, ns, registered⟩, policy, present, -, -⟩ := due
    refine .inl (NamespacedObjects.mem_listAll.mpr ⟨name, ns, ?_⟩)
    exact indexed name ns boost registered (by simp) (by rw [present]; rfl)
  unchecked _ _ _ := ⟨List.not_mem_nil, id⟩
  notMade _ _ _ := id

theorem reverts_of_complete (progress : TickProgress lib store now before made state)
    (checked : state.inFlight.scanning = []) (executed : state.inFlight.tasks = []) :
    Reverts lib store (Due now before) before state.manager := by
  apply progress.reverts.congr
  intro boost ref
  refine ⟨progress.madeDue boost ref, fun due => ?_⟩
  rcases progress.accounted boost ref due with unchecked | task | made
  · rw [checked] at unchecked
    cases unchecked
  · rw [executed] at task
    cases task
  · exact made

end TickProgress

/-- Whatever the order in which the workers of a tick make their calls, the tick
can always be finished, and then every pod whose fixed duration was over has been
reverted as it would have been alone, and is no longer tracked if its revert
succeeded; nothing else has changed.  The tick starts in a reachable state in
which no pod is tracked by two boosts. -/
theorem ConcurrentTick.tick_effect (manager : Manager (PodKey → τ))
    (reached : Manager.Reachable lib store.client manager) (apart : PodsApart {} manager)
    (now : Time) (order : RangeOrder String) (within : String → RangeOrder String)
    (events : List ConcurrentEvent) :
    let tick := ofController
      { manager, now, inFlight := { scanning := manager.timedBoosts.listAll order within } }
    (∃ more, (tick.run lib store (events ++ more)).Complete) ∧
      ((tick.run lib store events).Complete →
        Reverts lib store (Due now manager) manager
          (tick.run lib store events).controller.manager) := by
  intro tick
  have startApart : PodsApart tick.controller.inFlight tick.controller.manager := by
    intro boost other ref otherRef holds otherHolds sameKey
    exact apart _ _ _ _ (holds_of_startTick reached.wellFormed holds)
      (holds_of_startTick reached.wellFormed otherHolds) sameKey
  have agreesAtStart : Agrees lib store tick tick.controller := .ofController tick.controller
  obtain ⟨atomicEvents, ofTick, agrees⟩ := run_agrees agreesAtStart startApart false events
  constructor
  · obtain ⟨more, complete⟩ := exists_complete lib store agrees.runsTasks
    refine ⟨more, ?_⟩
    rw [run_append]
    exact complete
  · intro complete
    have atomic := agrees.eq_of_quiet complete.quiet
    have started : TickProgress lib store now manager (fun _ _ => False) tick.controller :=
      .start reached.wellFormed (Manager.TimedIndexed.of_reachable reached) order within
    obtain ⟨made, progress⟩ := started.run reached.wellFormed apart false ofTick
    rw [← atomic] at progress
    exact progress.reverts_of_complete complete.checked complete.executed

namespace Reference

section Two

variable (server : PodKey → ApiServer) (stats stats' : StartupCPUBoostStats)
  (metrics metrics' : Metrics)

private theorem due_storeManager :
    Due tickTime (storeManager server stats stats' metrics metrics') 0 0 ∧
      Due tickTime (storeManager server stats stats' metrics metrics') 1 1 := by
  have policy : (mapDurationPolicy forMinute).lookup fixedDurationPolicyName =
      some (.fixed 60000000000) := by
    decide +kernel
  have expired : fixedDurationValid 60000000000 tickTime [⟨"PodScheduled", "True", 0⟩] = false := by
    decide +kernel
  constructor
  · refine ⟨⟨"web", "default", ?_⟩, _, policy, ⟨"web", Finmap.lookup_insert _⟩, expired⟩
    simp [storeManager, withTracked, NamespacedObjects.get_put]
    rfl
  · refine ⟨⟨"db", "default", ?_⟩, _, policy, ⟨"db", Finmap.lookup_insert _⟩, expired⟩
    simp [storeManager, withTracked, NamespacedObjects.get_put]
    rfl

end Two

/-- A tick after the minute of the two pods, which checks both boosts and starts two
reverts before one of them makes a call: a finished tick has reverted both pods. -/
theorem tick_effect_twoPods :
    ∃ manager more, Due tickTime manager 0 0 ∧ Due tickTime manager 1 1 ∧
      let tick := ConcurrentTick.ofController
        { manager, now := tickTime, inFlight :=
          { scanning := manager.timedBoosts.listAll .arbitrary fun _ => .arbitrary } }
      let after := tick.run referenceLibrary referenceStore
        ([.check .arbitrary, .check .arbitrary, .start 0, .start 1] ++ more)
      after.Complete ∧
        Reverts referenceLibrary referenceStore (Due tickTime manager) manager
          after.controller.manager := by
  let server : PodKey → ApiServer := fun key =>
    serverWith { scheduledAppPod key.2 with ns := key.1 }
  obtain ⟨stats, stats', metrics, metrics', reached⟩ := reachable_storeManager server
  obtain ⟨webDue, dbDue⟩ := due_storeManager server stats stats' metrics metrics'
  have apart : PodsApart {} (storeManager server stats stats' metrics metrics') :=
    podsApart_storeManager server stats stats' metrics metrics' (by simp) (by simp)
  have effect := ConcurrentTick.tick_effect referenceLibrary referenceStore _ reached apart
    tickTime .arbitrary fun _ => .arbitrary
  obtain ⟨more, complete⟩ := (effect [.check .arbitrary, .check .arbitrary, .start 0, .start 1]).1
  exact ⟨_, more, webDue, dbDue, complete, (effect _).2 complete⟩

end Reference

end KubeStartupCPUBoost
