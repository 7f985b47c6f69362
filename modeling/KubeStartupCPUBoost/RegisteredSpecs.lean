import KubeStartupCPUBoost.ManagerStates

/-!
# The manager as a map of specifications

What the manager's registry is for: a flat map from namespace and name to the
specification last accepted there.  `AcceptedSpecs.step` is this map under the
events of the controller, and `Refines` relates it to the manager, whose
registered boosts behave as newly built ones.
-/

namespace KubeStartupCPUBoost

/-- The specification last accepted under a namespace and a name. -/
abbrev AcceptedSpecs := String × String → Option StartupCPUBoost

variable (lib : Library) {σ : Type}

namespace AcceptedSpecs

def empty : AcceptedSpecs := fun _ => none

def valid (spec : StartupCPUBoost) : Bool :=
  (newStartupCPUBoost lib spec false).toOption.isSome

def put (spec : StartupCPUBoost) (specs : AcceptedSpecs) : AcceptedSpecs :=
  Function.update specs (spec.ns, spec.name) (some spec)

/-- A boost is added under a key that is free and updated under one that is
taken; an invalid specification is not accepted. -/
def step (event : ControllerEvent σ) (specs : AcceptedSpecs) : AcceptedSpecs :=
  match event with
  | .createBoost _ spec =>
      if valid lib spec ∧ specs (spec.ns, spec.name) = none then specs.put spec else specs
  | .updateBoost _ spec =>
      if valid lib spec ∧ (specs (spec.ns, spec.name)).isSome then specs.put spec else specs
  | .deleteBoost ns name => Function.update specs (ns, name) none
  | _ => specs

end AcceptedSpecs

namespace StartupCPUBoostImpl

/-- Two boosts select the same pods, and have the same duration policies and the
same policy for every container. -/
structure SameSettings (boost other : StartupCPUBoostImpl) : Prop where
  selector : boost.selector = other.selector
  durationPolicies : boost.durationPolicies = other.durationPolicies
  resourcePolicy : ∀ containerName,
    boost.resourcePolicy containerName = other.resourcePolicy containerName

namespace SameSettings

variable {boost other third : StartupCPUBoostImpl}

theorem refl (boost : StartupCPUBoostImpl) : SameSettings boost boost :=
  ⟨rfl, rfl, fun _ => rfl⟩

theorem trans (first : SameSettings boost other) (second : SameSettings other third) :
    SameSettings boost third where
  selector := first.selector.trans second.selector
  durationPolicies := first.durationPolicies.trans second.durationPolicies
  resourcePolicy containerName :=
    (first.resourcePolicy containerName).trans (second.resourcePolicy containerName)

/-- Tracked pods and statistics are no settings. -/
theorem of_eq_with {pods : GoMap String PodRef} {stats : StartupCPUBoostStats}
    (differs : boost = { other with pods, stats }) : SameSettings boost other := by
  subst differs
  exact ⟨rfl, rfl, fun _ => rfl⟩

end SameSettings

/-- An update succeeds on the specifications a boost can be built from, and gives the
settings of the boost built. -/
theorem updateFromSpec_eq (spec : StartupCPUBoost) (legacyRevertMode : Bool)
    (boost : StartupCPUBoostImpl) :
    boost.updateFromSpec lib spec =
      (newStartupCPUBoost lib spec legacyRevertMode).map fun built =>
        { boost with
          selector := built.selector
          resourcePolicies := built.resourcePolicies
          durationPolicies := built.durationPolicies } := by
  unfold updateFromSpec newStartupCPUBoost
  cases lib.labelSelectorAsSelector spec.selector with
  | error message => rfl
  | ok selector =>
      cases mapResourcePolicy spec.spec.containerPolicies with
      | error message => rfl
      | ok policies => rfl

end StartupCPUBoostImpl

open StartupCPUBoostImpl

theorem valid_iff (spec : StartupCPUBoost) (legacyRevertMode : Bool) :
    AcceptedSpecs.valid lib spec = true ↔
      ∃ built, newStartupCPUBoost lib spec legacyRevertMode = .ok built := by
  unfold AcceptedSpecs.valid newStartupCPUBoost
  cases lib.labelSelectorAsSelector spec.selector with
  | error message => simp [bind, Except.bind, Except.toOption]
  | ok selector =>
      cases mapResourcePolicy spec.spec.containerPolicies with
      | error message => simp [bind, Except.bind, Except.toOption]
      | ok policies => simp [bind, Except.bind, Except.toOption, pure, Except.pure]

/-- A registered boost has the settings of one built from a specification. -/
def Carries (legacyRevertMode : Bool) (manager : Manager σ) (name ns : String)
    (spec : StartupCPUBoost) : Prop :=
  ∃ boost built, manager.getRegularCPUBoost name ns = some boost ∧
    newStartupCPUBoost lib spec legacyRevertMode = .ok built ∧
    SameSettings (manager.boosts boost) built

/-- The manager finds a boost exactly under the keys of the map, with the settings of
the specification there. -/
def Refines (legacyRevertMode : Bool) (manager : Manager σ) (specs : AcceptedSpecs) : Prop :=
  ∀ name ns,
    (specs (ns, name) = none → manager.getRegularCPUBoost name ns = none) ∧
      ∀ spec, specs (ns, name) = some spec → Carries lib legacyRevertMode manager name ns spec

/-- A key is left alone: the same boost object or none is registered under it, with
the same settings. -/
def SameAt (name ns : String) (before after : Manager σ) : Prop :=
  after.getRegularCPUBoost name ns = before.getRegularCPUBoost name ns ∧
    ∀ boost, before.getRegularCPUBoost name ns = some boost →
      SameSettings (after.boosts boost) (before.boosts boost)

namespace SameAt

variable {name ns : String} {before middle after : Manager σ}

theorem refl (manager : Manager σ) : SameAt name ns manager manager :=
  ⟨rfl, fun _ _ => .refl _⟩

theorem trans (first : SameAt name ns before middle) (second : SameAt name ns middle after) :
    SameAt name ns before after := by
  refine ⟨second.1.trans first.1, fun boost registered => ?_⟩
  exact (second.2 boost (first.1.trans registered)).trans (first.2 boost registered)

theorem of_sameConfiguration (same : Manager.SameConfiguration before after) :
    SameAt name ns before after := by
  constructor
  · exact congrArg (fun boosts => boosts.get name ns) same.regularBoosts
  · exact fun boost _ => .of_eq_with (same.boosts boost)

theorem postProcessNewBoost (client : PodClient σ) (now : Time) (order : RangeOrder String)
    (boost : BoostRef) (manager : Manager σ) :
    SameAt name ns manager (manager.postProcessNewBoost lib client now order boost) := by
  obtain ⟨timedBoosts, indexed⟩ := manager.indexTimedBoost_eq boost
  have taken := Manager.SameConfiguration.postProcessNewBoost lib client now order boost manager
  rw [indexed] at taken
  constructor
  · exact congrArg (fun boosts => boosts.get name ns) taken.regularBoosts
  · exact fun boost _ => .of_eq_with (taken.boosts boost)

end SameAt

variable {lib} {legacyRevertMode : Bool} {specs : AcceptedSpecs}

theorem Carries.congr {name ns : String} {spec : StartupCPUBoost} {before after : Manager σ}
    (carries : Carries lib legacyRevertMode before name ns spec)
    (same : SameAt name ns before after) : Carries lib legacyRevertMode after name ns spec := by
  obtain ⟨boost, built, registered, fromSpec, settings⟩ := carries
  exact ⟨boost, built, same.1.trans registered, fromSpec, (same.2 boost registered).trans settings⟩

/-- One key gets a specification, and the others are left alone. -/
theorem Refines.put {before after : Manager σ} {spec : StartupCPUBoost}
    (refines : Refines lib legacyRevertMode before specs)
    (carries : Carries lib legacyRevertMode after spec.name spec.ns spec)
    (others : ∀ name ns, (ns, name) ≠ (spec.ns, spec.name) → SameAt name ns before after) :
    Refines lib legacyRevertMode after (specs.put spec) := by
  intro name ns
  by_cases isKey : (ns, name) = (spec.ns, spec.name)
  · obtain ⟨rfl, rfl⟩ := Prod.mk.inj isKey
    rw [AcceptedSpecs.put, Function.update_self]
    refine ⟨nofun, fun other same => ?_⟩
    obtain rfl := Option.some.inj same
    exact carries
  · rw [AcceptedSpecs.put, Function.update_of_ne isKey]
    obtain ⟨absent, present⟩ := refines name ns
    have same := others name ns isKey
    exact ⟨fun none => same.1.trans (absent none), fun other found =>
      (present other found).congr same⟩

theorem Refines.congr {before after : Manager σ}
    (refines : Refines lib legacyRevertMode before specs)
    (same : ∀ name ns, SameAt name ns before after) :
    Refines lib legacyRevertMode after specs := by
  intro name ns
  obtain ⟨absent, present⟩ := refines name ns
  exact ⟨fun none => (same name ns).1.trans (absent none), fun other found =>
    (present other found).congr (same name ns)⟩

/-- Whether a key is free. -/
theorem Refines.eq_none_iff {manager : Manager σ}
    (refines : Refines lib legacyRevertMode manager specs) (name ns : String) :
    specs (ns, name) = none ↔ manager.regularBoosts.get name ns = none := by
  obtain ⟨absent, present⟩ := refines name ns
  constructor
  · exact absent
  · intro unregistered
    by_contra taken
    obtain ⟨spec, found⟩ := Option.ne_none_iff_exists'.mp taken
    obtain ⟨boost, _, registered, _⟩ := present spec found
    exact nomatch unregistered.symm.trans registered

namespace ControllerEvent

def boostKey : ControllerEvent σ → Option (String × String)
  | .createBoost _ spec | .updateBoost _ spec => some (spec.ns, spec.name)
  | .deleteBoost ns name => some (ns, name)
  | _ => none

end ControllerEvent

variable (client : PodClient σ) {state : Controller σ}

/-- A boost object that is not registered may be built. -/
theorem sameAt_newBoost {manager : Manager σ} (wellFormed : WellFormed state.inFlight manager)
    (impl : StartupCPUBoostImpl) (name ns : String) :
    SameAt name ns manager (manager.newBoost impl).2 := by
  refine ⟨rfl, fun boost registered => ?_⟩
  have existing := (wellFormed.regular _ _ _ registered).2.2
  rw [Manager.newBoost_boosts_of_lt existing]
  exact .refl _

private theorem sameAt_setBoost {manager : Manager σ}
    (wellFormed : WellFormed state.inFlight manager) {boost : BoostRef}
    {name ns otherName otherNs : String}
    (registered : manager.regularBoosts.get otherName otherNs = some boost)
    (different : (ns, name) ≠ (otherNs, otherName)) (impl : StartupCPUBoostImpl) :
    SameAt name ns manager (manager.setBoost boost impl manager.memory) := by
  refine ⟨rfl, fun other otherRegistered => ?_⟩
  rw [Manager.setBoost_boosts_of_ne]
  · exact .refl _
  · rintro rfl
    obtain ⟨sameName, sameNs, _⟩ := wellFormed.regular _ _ _ registered
    obtain ⟨sameName', sameNs', _⟩ := wellFormed.regular _ _ _ otherRegistered
    exact different (Prod.ext (sameNs'.symm.trans sameNs) (sameName'.symm.trans sameName))

/-- Every event leaves alone the keys it is not about. -/
theorem sameAt_step (wellFormed : WellFormed state.inFlight state.manager)
    {event : ControllerEvent σ} {name ns : String} (otherKey : event.boostKey ≠ some (ns, name)) :
    SameAt name ns state.manager (state.step lib client legacyRevertMode event).manager := by
  by_cases leaves : event.LeavesBoosts
  · exact .of_sameConfiguration
      (Controller.step_sameConfiguration lib client legacyRevertMode (.refl _) leaves)
  cases event with
  | createBoost order spec =>
      have different : (ns, name) ≠ (spec.ns, spec.name) :=
        fun same => otherKey (congrArg some same.symm)
      rcases state.step_createBoost lib client legacyRevertMode order spec with
        same | ⟨impl, built, unregistered | ⟨unused, registered⟩⟩
      · rw [same]
        exact .refl _
      · rw [unregistered]
        exact sameAt_newBoost wellFormed impl name ns
      · rw [registered]
        refine SameAt.trans ?_ (SameAt.postProcessNewBoost lib client _ order _ _)
        obtain ⟨implName, implNs, _⟩ := newStartupCPUBoost_ok lib built
        refine ⟨?_, (sameAt_newBoost wellFormed impl name ns).2⟩
        rw [Manager.getRegularCPUBoost, Controller.registerNew_get, implName, implNs, if_neg]
        · rfl
        · rintro ⟨rfl, rfl⟩
          exact different rfl
  | updateBoost order spec =>
      have different : (ns, name) ≠ (spec.ns, spec.name) :=
        fun same => otherKey (congrArg some same.symm)
      rcases state.step_updateBoost lib client legacyRevertMode order spec with
        same | ⟨boost, impl, registered, updated, replaced⟩
      · rw [same]
        exact .refl _
      · rw [replaced]
        exact (sameAt_setBoost wellFormed registered different impl).trans
          (SameAt.postProcessNewBoost lib client _ order _ _)
  | deleteBoost otherNs otherName =>
      refine ⟨?_, fun boost _ => .refl _⟩
      have different : ¬ (name = otherName ∧ ns = otherNs) := by
        rintro ⟨rfl, rfl⟩
        exact otherKey rfl
      simp only [Controller.step, Manager.getRegularCPUBoost, Manager.deleteRegularCPUBoost,
        NamespacedObjects.get_delete, if_neg different]
  | upsertPod | deletePod | startTick | checkBoost | executeTask | passTime | changeServer =>
      exact absurd trivial leaves

/-- A boost added under a free key has the settings of its specification. -/
theorem carries_createBoost {order : RangeOrder String} {spec : StartupCPUBoost}
    {built : StartupCPUBoostImpl}
    (fromSpec : newStartupCPUBoost lib spec legacyRevertMode = .ok built)
    (free : state.manager.regularBoosts.get spec.name spec.ns = none) :
    Carries lib legacyRevertMode
      (state.step lib client legacyRevertMode (.createBoost order spec)).manager spec.name spec.ns
      spec := by
  obtain ⟨builtName, builtNs, _⟩ := newStartupCPUBoost_ok lib fromSpec
  have registered : Carries lib legacyRevertMode (Controller.registerNew built state.manager)
      spec.name spec.ns spec := by
    refine ⟨state.manager.nextBoost, built, ?_, fromSpec, ?_⟩
    · rw [Manager.getRegularCPUBoost, Controller.registerNew_get, builtName, builtNs,
        if_pos ⟨rfl, rfl⟩]
    · rw [Controller.registerNew_boosts]
      exact .refl _
  rw [Controller.step_createBoost_of_ok lib client legacyRevertMode order state fromSpec, free]
  exact registered.congr (SameAt.postProcessNewBoost lib client _ order _ _)

/-- So has a boost that is updated. -/
theorem carries_updateBoost {order : RangeOrder String} {spec : StartupCPUBoost}
    {built : StartupCPUBoostImpl} {boost : BoostRef}
    (fromSpec : newStartupCPUBoost lib spec legacyRevertMode = .ok built)
    (registered : state.manager.regularBoosts.get spec.name spec.ns = some boost) :
    Carries lib legacyRevertMode
      (state.step lib client legacyRevertMode (.updateBoost order spec)).manager spec.name spec.ns
      spec := by
  have updated := updateFromSpec_eq lib spec legacyRevertMode (state.manager.boosts boost)
  rw [fromSpec] at updated
  simp only [Controller.step, Manager.updateRegularCPUBoost, registered, updated, Except.map]
  refine Carries.congr ?_ (SameAt.postProcessNewBoost lib client _ order _ _)
  refine ⟨boost, built, registered, fromSpec, ?_⟩
  rw [Manager.setBoost_boosts_self]
  exact ⟨rfl, rfl, fun _ => rfl⟩

theorem Refines.createBoost (wellFormed : WellFormed state.inFlight state.manager)
    (refines : Refines lib legacyRevertMode state.manager specs) (order : RangeOrder String)
    (spec : StartupCPUBoost) :
    Refines lib legacyRevertMode
      (state.step lib client legacyRevertMode (.createBoost order spec)).manager
      (specs.step lib (.createBoost order spec : ControllerEvent σ)) := by
  simp only [AcceptedSpecs.step]
  by_cases accepted : AcceptedSpecs.valid lib spec ∧ specs (spec.ns, spec.name) = none
  · rw [if_pos accepted]
    obtain ⟨built, fromSpec⟩ := (valid_iff lib spec legacyRevertMode).mp accepted.1
    have unregistered := (refines.eq_none_iff spec.name spec.ns).mp accepted.2
    refine refines.put (carries_createBoost client fromSpec unregistered) fun name ns other => ?_
    exact sameAt_step client wellFormed fun same => other (Option.some.inj same).symm
  · rw [if_neg accepted]
    refine refines.congr fun name ns => ?_
    cases fromSpec : newStartupCPUBoost lib spec legacyRevertMode with
    | error message =>
        rw [Controller.step_createBoost_of_error lib client legacyRevertMode order state fromSpec]
        exact .refl _
    | ok built =>
        rw [Controller.step_createBoost_of_ok lib client legacyRevertMode order state fromSpec]
        cases registered : state.manager.regularBoosts.get spec.name spec.ns with
        | some boost => exact sameAt_newBoost wellFormed built name ns
        | none =>
            exact absurd ⟨(valid_iff lib spec legacyRevertMode).mpr ⟨built, fromSpec⟩,
              (refines.eq_none_iff spec.name spec.ns).mpr registered⟩ accepted

theorem Refines.updateBoost (wellFormed : WellFormed state.inFlight state.manager)
    (refines : Refines lib legacyRevertMode state.manager specs) (order : RangeOrder String)
    (spec : StartupCPUBoost) :
    Refines lib legacyRevertMode
      (state.step lib client legacyRevertMode (.updateBoost order spec)).manager
      (specs.step lib (.updateBoost order spec : ControllerEvent σ)) := by
  have taken : (specs (spec.ns, spec.name)).isSome ↔
      ∃ boost, state.manager.regularBoosts.get spec.name spec.ns = some boost := by
    rw [← Option.ne_none_iff_isSome, ne_eq, refines.eq_none_iff, ← Option.ne_none_iff_exists']
  simp only [AcceptedSpecs.step]
  by_cases accepted : AcceptedSpecs.valid lib spec ∧ (specs (spec.ns, spec.name)).isSome
  · rw [if_pos accepted]
    obtain ⟨built, fromSpec⟩ := (valid_iff lib spec legacyRevertMode).mp accepted.1
    obtain ⟨boost, registered⟩ := taken.mp accepted.2
    refine refines.put (carries_updateBoost client fromSpec registered) fun name ns other => ?_
    exact sameAt_step client wellFormed fun same => other (Option.some.inj same).symm
  · rw [if_neg accepted]
    rcases state.step_updateBoost lib client legacyRevertMode order spec with
      same | ⟨boost, impl, registered, updated, _⟩
    · rwa [same]
    · rw [updateFromSpec_eq lib spec legacyRevertMode] at updated
      cases fromSpec : newStartupCPUBoost lib spec legacyRevertMode with
      | error message =>
          rw [fromSpec] at updated
          cases updated
      | ok built =>
          exact absurd ⟨(valid_iff lib spec legacyRevertMode).mpr ⟨built, fromSpec⟩,
            taken.mpr ⟨boost, registered⟩⟩ accepted

theorem Refines.deleteBoost (wellFormed : WellFormed state.inFlight state.manager)
    (refines : Refines lib legacyRevertMode state.manager specs) (ns name : String) :
    Refines lib legacyRevertMode
      (state.step lib client legacyRevertMode (.deleteBoost ns name)).manager
      (specs.step lib (.deleteBoost ns name : ControllerEvent σ)) := by
  intro otherName otherNs
  by_cases deleted : (otherNs, otherName) = (ns, name)
  · obtain ⟨rfl, rfl⟩ := Prod.mk.inj deleted
    simp only [AcceptedSpecs.step, Function.update_self]
    refine ⟨fun _ => ?_, nofun⟩
    simp [Controller.step, Manager.getRegularCPUBoost, Manager.deleteRegularCPUBoost,
      NamespacedObjects.get_delete]
  · have same : SameAt otherName otherNs state.manager
        (state.step lib client legacyRevertMode (.deleteBoost ns name)).manager :=
      sameAt_step client wellFormed fun same => deleted (Option.some.inj same).symm
    obtain ⟨absent, present⟩ := refines otherName otherNs
    simp only [AcceptedSpecs.step, Function.update_of_ne deleted]
    exact ⟨fun none => same.1.trans (absent none), fun spec found =>
      (present spec found).congr same⟩

theorem Refines.step (wellFormed : WellFormed state.inFlight state.manager)
    (refines : Refines lib legacyRevertMode state.manager specs) (event : ControllerEvent σ) :
    Refines lib legacyRevertMode (state.step lib client legacyRevertMode event).manager
      (specs.step lib event) := by
  by_cases leaves : event.LeavesBoosts
  · have unchanged : specs.step lib event = specs := by
      cases event <;> first | rfl | cases leaves
    rw [unchanged]
    exact refines.congr fun name ns => .of_sameConfiguration
      (Controller.step_sameConfiguration lib client legacyRevertMode (.refl _) leaves)
  cases event with
  | createBoost order spec => exact refines.createBoost client wellFormed order spec
  | updateBoost order spec => exact refines.updateBoost client wellFormed order spec
  | deleteBoost ns name => exact refines.deleteBoost client wellFormed ns name
  | upsertPod | deletePod | startTick | checkBoost | executeTask | passTime | changeServer =>
      exact absurd trivial leaves

/-- A call that returns an error, or updates a boost that is not registered, leaves the
manager as it was. -/
structure RejectsUnchanged (lib : Library) (client : PodClient σ) (manager : Manager σ) :
    Prop where
  add : ∀ now order boost, (manager.addRegularCPUBoost lib client now order boost).1 ≠ .ok () →
    (manager.addRegularCPUBoost lib client now order boost).2 = manager
  update : ∀ now order spec,
    (manager.updateRegularCPUBoost lib client now order spec).1 ≠ .ok () →
      (manager.updateRegularCPUBoost lib client now order spec).2 = manager
  unregistered : ∀ now order spec, manager.getRegularCPUBoost spec.name spec.ns = none →
    (manager.updateRegularCPUBoost lib client now order spec).2 = manager

private theorem rejectsUnchanged (manager : Manager σ) : RejectsUnchanged lib client manager where
  add now order boost := by
    simp only [Manager.addRegularCPUBoost]
    split
    · exact fun _ => rfl
    · exact fun failed => absurd rfl failed
  update now order spec := by
    simp only [Manager.updateRegularCPUBoost]
    split
    · exact fun _ => rfl
    · split
      · exact fun _ => rfl
      · exact fun failed => absurd rfl failed
  unregistered now order spec absent := by
    simp only [Manager.getRegularCPUBoost] at absent
    simp only [Manager.updateRegularCPUBoost, absent]

/-- After every sequence of events the manager is the map of the specifications last
accepted.  Rejected calls change nothing, and no event reaches the keys it is not
about. -/
theorem run_refines_acceptedSpecs (lib : Library) (client : PodClient σ) (legacyRevertMode : Bool)
    (hasClient : Bool) (now : Time) (server : σ) (events : List (ControllerEvent σ)) :
    let state := (Controller.initial hasClient now server).run lib client legacyRevertMode events
    Refines lib legacyRevertMode state.manager
        (runEvents (AcceptedSpecs.step lib) events .empty) ∧
      RejectsUnchanged lib client state.manager ∧
      ∀ event name ns, ControllerEvent.boostKey event ≠ some (ns, name) →
        SameAt name ns state.manager
          (state.step lib client legacyRevertMode event).manager := by
  let related (state : Controller σ) (specs : AcceptedSpecs) : Prop :=
    WellFormed state.inFlight state.manager ∧ Refines lib legacyRevertMode state.manager specs
  have start : related (Controller.initial hasClient now server) .empty :=
    ⟨.newManager hasClient server, fun _ _ => ⟨fun _ => rfl, nofun⟩⟩
  obtain ⟨wellFormed, refines⟩ : related
      ((Controller.initial hasClient now server).run lib client legacyRevertMode events)
      (runEvents (AcceptedSpecs.step lib) events .empty) :=
    runEvents_simulates (fun event state specs holds =>
      ⟨holds.1.step lib client legacyRevertMode event, holds.2.step client holds.1 event⟩) start
  exact ⟨refines, rejectsUnchanged client _, fun event name ns => sameAt_step client wellFormed⟩

end KubeStartupCPUBoost
