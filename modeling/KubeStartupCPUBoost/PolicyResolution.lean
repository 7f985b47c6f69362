import KubeStartupCPUBoost.BoostValidation

/-!
# Which policy a container gets

A boost keeps its container policies in a map, which is filled in the order of
the list, so the last entry of a name wins.  The check of the webhook counts
wildcards only: two entries may bear the name of one container.

`resolves_resourcePolicy` says which entry a policy comes from, by membership
in the list alone; `policies_unambiguous_iff` says when the order of the list
does not matter.
-/

namespace KubeStartupCPUBoost

/-- The policy a list of entries gives to a container: that of an entry with
its name, else that of a wildcard entry, else none. -/
inductive Resolves (policies : List ContainerPolicySpec) (name : String) :
    Option ContainerPolicy → Prop where
  | own {entry : ContainerPolicySpec} {policy : ContainerPolicy} (member : entry ∈ policies)
      (named : entry.containerName = name)
      (maps : containerPolicyOf entry = (some policy, 1)) : Resolves policies name (some policy)
  | wildcard {entry : ContainerPolicySpec} {policy : ContainerPolicy}
      (noneNamed : ∀ other ∈ policies, other.containerName ≠ name) (member : entry ∈ policies)
      (named : entry.containerName = containerPolicyWildcard)
      (maps : containerPolicyOf entry = (some policy, 1)) : Resolves policies name (some policy)
  | nothing (noneNamed : ∀ other ∈ policies, other.containerName ≠ name)
      (noWildcard : ∀ other ∈ policies, other.containerName ≠ containerPolicyWildcard) :
      Resolves policies name none

/-- Entries of one name are mapped to one policy. -/
def OnePolicyPerName (policies : List ContainerPolicySpec) : Prop :=
  ∀ entry ∈ policies, ∀ other ∈ policies, entry.containerName = other.containerName →
    containerPolicyOf entry = containerPolicyOf other

namespace Resolves

variable {policies permuted : List ContainerPolicySpec} {name : String}
  {first second : Option ContainerPolicy}

theorem of_perm (reordered : permuted.Perm policies) (resolves : Resolves permuted name first) :
    Resolves policies name first := by
  have noneOf : ∀ {name : String}, (∀ other ∈ permuted, other.containerName ≠ name) →
      ∀ other ∈ policies, other.containerName ≠ name :=
    fun absent other member => absent other (reordered.mem_iff.mpr member)
  cases resolves with
  | own member named maps => exact .own (reordered.mem_iff.mp member) named maps
  | wildcard noneNamed member named maps =>
      exact .wildcard (noneOf noneNamed) (reordered.mem_iff.mp member) named maps
  | nothing noneNamed noWildcard => exact .nothing (noneOf noneNamed) (noneOf noWildcard)

theorem unique (onePolicy : OnePolicyPerName policies) (left : Resolves policies name first)
    (right : Resolves policies name second) : first = second := by
  have same : ∀ {entry other : ContainerPolicySpec} {policy policy' : ContainerPolicy},
      entry ∈ policies → other ∈ policies → entry.containerName = other.containerName →
        containerPolicyOf entry = (some policy, 1) → containerPolicyOf other = (some policy', 1) →
          some policy = some policy' := by
    intro entry other policy policy' member otherMember named maps otherMaps
    have equal := onePolicy entry member other otherMember named
    rw [maps, otherMaps] at equal
    exact congrArg Prod.fst equal
  cases left with
  | own member named maps =>
      cases right with
      | own member' named' maps' => exact same member member' (named.trans named'.symm) maps maps'
      | wildcard noneNamed => exact absurd named (noneNamed _ member)
      | nothing noneNamed => exact absurd named (noneNamed _ member)
  | wildcard noneNamed member named maps =>
      cases right with
      | own member' named' => exact absurd named' (noneNamed _ member')
      | wildcard _ member' named' maps' =>
          exact same member member' (named.trans named'.symm) maps maps'
      | nothing _ noWildcard => exact absurd named (noWildcard _ member)
  | nothing noneNamed noWildcard =>
      cases right with
      | own member' named' => exact absurd named' (noneNamed _ member')
      | wildcard _ member' named' => exact absurd named' (noWildcard _ member')
      | nothing => rfl

end Resolves

theorem mapContainerPolicy_of_maps {entry : ContainerPolicySpec} {policy : ContainerPolicy}
    (maps : containerPolicyOf entry = (some policy, 1))
    (state : GoMap String ContainerPolicy × List String) :
    mapContainerPolicy state entry = (state.1.insert entry.containerName policy, state.2) := by
  unfold mapContainerPolicy
  rw [maps]
  rfl

section Mapping

variable {policies : List ContainerPolicySpec}
  (one : ∀ entry ∈ policies, countSet entry.fixedResources entry.percentageIncrease = 1)

include one

private theorem lookup_foldl_mapContainerPolicy (state : GoMap String ContainerPolicy × List String)
    (name : String) :
    (∃ entry ∈ policies, entry.containerName = name ∧ ∃ policy,
        containerPolicyOf entry = (some policy, 1) ∧
          (policies.foldl mapContainerPolicy state).1.lookup name = some policy) ∨
      ((∀ entry ∈ policies, entry.containerName ≠ name) ∧
        (policies.foldl mapContainerPolicy state).1.lookup name = state.1.lookup name) := by
  induction policies generalizing state with
  | nil => exact .inr ⟨fun _ member => absurd member List.not_mem_nil, rfl⟩
  | cons entry policies ih =>
      obtain ⟨headOne, restOne⟩ := List.forall_mem_cons.mp one
      obtain ⟨policy, maps⟩ := containerPolicyOf_of_countSet headOne
      rw [List.foldl_cons, mapContainerPolicy_of_maps maps]
      rcases ih restOne (state.1.insert entry.containerName policy, state.2) with
        ⟨later, member, named, found⟩ | ⟨noneLater, kept⟩
      · exact .inl ⟨later, List.mem_cons_of_mem _ member, named, found⟩
      · rw [kept, GoMap.lookup_insert]
        by_cases same : name = entry.containerName
        · exact .inl ⟨entry, List.mem_cons_self, same.symm, policy, maps, if_pos same⟩
        · exact .inr ⟨List.forall_mem_cons.mpr ⟨fun named => same named.symm, noneLater⟩,
            if_neg same⟩

theorem mapResourcePolicy_eq :
    mapResourcePolicy policies = .ok (policies.foldl mapContainerPolicy (∅, [])).1 := by
  have noErrs := foldl_mapContainerPolicy_errs one ∅
  unfold mapResourcePolicy
  generalize policies.foldl mapContainerPolicy (∅, []) = mapped at noErrs
  obtain ⟨mapped, errs⟩ := mapped
  cases noErrs
  rfl

end Mapping

variable (lib : Library)

theorem resourcePolicies_of_built {boost : StartupCPUBoost} {legacyRevertMode : Bool}
    {impl : StartupCPUBoostImpl}
    (built : newStartupCPUBoost lib boost legacyRevertMode = .ok impl) :
    mapResourcePolicy boost.spec.containerPolicies = .ok impl.resourcePolicies := by
  obtain ⟨selector, resourcePolicies, -, mapped, rfl⟩ := newStartupCPUBoost_cases lib built
  exact mapped

theorem resolves_resourcePolicy {boost : StartupCPUBoost} {legacyRevertMode : Bool}
    {impl : StartupCPUBoostImpl}
    (one : ∀ entry ∈ boost.spec.containerPolicies,
      countSet entry.fixedResources entry.percentageIncrease = 1)
    (built : newStartupCPUBoost lib boost legacyRevertMode = .ok impl) (name : String) :
    Resolves boost.spec.containerPolicies name (impl.resourcePolicy name) := by
  have mapped := (mapResourcePolicy_eq one).symm.trans (resourcePolicies_of_built lib built)
  have lookup := lookup_foldl_mapContainerPolicy one (∅, [])
  rw [Except.ok.inj mapped] at lookup
  unfold StartupCPUBoostImpl.resourcePolicy
  rcases lookup name with ⟨entry, member, named, policy, maps, found⟩ | ⟨noneNamed, absent⟩
  · rw [found]
    exact .own member named maps
  · rw [absent.trans (Finmap.lookup_empty name)]
    rcases lookup containerPolicyWildcard with
      ⟨entry, member, named, policy, maps, found⟩ | ⟨noWildcard, absent⟩
    · simp only [found]
      exact .wildcard noneNamed member named maps
    · simp only [absent.trans (Finmap.lookup_empty containerPolicyWildcard)]
      exact .nothing noneNamed noWildcard

/-- The last entry of the list decides for its name. -/
theorem resourcePolicy_of_last {boost : StartupCPUBoost} {legacyRevertMode : Bool}
    {impl : StartupCPUBoostImpl} {before : List ContainerPolicySpec} {entry : ContainerPolicySpec}
    {policy : ContainerPolicy}
    (one : ∀ entry ∈ boost.spec.containerPolicies,
      countSet entry.fixedResources entry.percentageIncrease = 1)
    (last : boost.spec.containerPolicies = before ++ [entry])
    (maps : containerPolicyOf entry = (some policy, 1))
    (built : newStartupCPUBoost lib boost legacyRevertMode = .ok impl) :
    impl.resourcePolicy entry.containerName = some policy := by
  have mapped := (mapResourcePolicy_eq one).symm.trans (resourcePolicies_of_built lib built)
  rw [last, List.foldl_append, List.foldl_cons, List.foldl_nil,
    mapContainerPolicy_of_maps maps] at mapped
  unfold StartupCPUBoostImpl.resourcePolicy
  rw [← Except.ok.inj mapped]
  simp

/-- Boosts built from a list and from its permutations resolve every container
alike, and as the list says. -/
structure Unambiguous (policies : List ContainerPolicySpec) : Prop where
  samePolicy : ∀ (boost permuted : StartupCPUBoost) (mode permutedMode : Bool)
    (impl permutedImpl : StartupCPUBoostImpl), boost.spec.containerPolicies = policies →
    permuted.spec.containerPolicies.Perm policies →
    newStartupCPUBoost lib boost mode = .ok impl →
    newStartupCPUBoost lib permuted permutedMode = .ok permutedImpl →
      ∀ name, impl.resourcePolicy name = permutedImpl.resourcePolicy name
  resolves : ∀ (boost : StartupCPUBoost) (mode : Bool) (impl : StartupCPUBoostImpl),
    boost.spec.containerPolicies = policies → newStartupCPUBoost lib boost mode = .ok impl →
      ∀ name, Resolves policies name (impl.resourcePolicy name)

def boostWithPolicies (policies : List ContainerPolicySpec) : StartupCPUBoost where
  name := "boost"
  ns := "default"
  selector := ⟨∅, []⟩
  spec := { containerPolicies := policies, durationPolicy := ⟨none, none⟩ }

theorem exists_built_boostWithPolicies {policies : List ContainerPolicySpec}
    (one : ∀ entry ∈ policies, countSet entry.fixedResources entry.percentageIncrease = 1) :
    ∃ impl, newStartupCPUBoost lib (boostWithPolicies policies) false = .ok impl := by
  have wellFormed : LabelSelector.WellFormed lib.validLabelKey lib.validLabelValue ⟨∅, []⟩ :=
    ⟨by simp, by simp⟩
  exact ⟨_, newStartupCPUBoost_of_mapped lib wellFormed (mapResourcePolicy_eq one)⟩

/-- Policies that pass the check of the webhook are unambiguous exactly when
entries of one name agree. -/
theorem policies_unambiguous_iff {policies : List ContainerPolicySpec}
    (accepted : validateContainerPolicies policies = []) :
    Unambiguous lib policies ↔ OnePolicyPerName policies := by
  have one := countSet_of_validated accepted
  have oneOf : ∀ {permuted : List ContainerPolicySpec}, permuted.Perm policies →
      ∀ entry ∈ permuted, countSet entry.fixedResources entry.percentageIncrease = 1 :=
    fun reordered entry member => one entry (reordered.mem_iff.mp member)
  constructor
  · intro unambiguous
    obtain ⟨impl, built⟩ := exists_built_boostWithPolicies lib one
    -- Moving an entry to the end makes it decide for its name.
    have decides : ∀ entry ∈ policies, ∃ policy, containerPolicyOf entry = (some policy, 1) ∧
        impl.resourcePolicy entry.containerName = some policy := by
      intro entry member
      have reordered : (policies.erase entry ++ [entry]).Perm policies :=
        (List.perm_append_singleton entry _).trans (List.perm_cons_erase member).symm
      obtain ⟨policy, maps⟩ := containerPolicyOf_of_countSet (one entry member)
      obtain ⟨permutedImpl, permutedBuilt⟩ :=
        exists_built_boostWithPolicies lib (oneOf reordered)
      refine ⟨policy, maps, ?_⟩
      rw [unambiguous.samePolicy _ _ _ _ _ _ rfl reordered built permutedBuilt]
      exact resourcePolicy_of_last lib (oneOf reordered) rfl maps permutedBuilt
    intro entry member other otherMember named
    obtain ⟨policy, maps, decided⟩ := decides entry member
    obtain ⟨policy', otherMaps, otherDecided⟩ := decides other otherMember
    rw [named, otherDecided] at decided
    cases decided
    rw [maps, otherMaps]
  · intro onePolicy
    refine ⟨fun boost permuted _ _ impl permutedImpl given reordered built permutedBuilt name => ?_,
      fun boost _ impl given built name => ?_⟩
    · subst given
      have own := resolves_resourcePolicy lib one built name
      have other := resolves_resourcePolicy lib (oneOf reordered) permutedBuilt name
      exact own.unique onePolicy (other.of_perm reordered)
    · subst given
      exact resolves_resourcePolicy lib one built name

namespace Reference

def mixedPolicies : List ContainerPolicySpec :=
  [⟨"sidecar", some ⟨20⟩, none⟩, ⟨"*", none, some ⟨2, 4⟩⟩]

theorem policies_unambiguous_iff_mixedPolicies : Unambiguous referenceLibrary mixedPolicies := by
  refine (policies_unambiguous_iff referenceLibrary (by decide)).mpr ?_
  unfold OnePolicyPerName
  decide +kernel

def repeatedPolicies : List ContainerPolicySpec :=
  [⟨"app", some ⟨50⟩, none⟩, ⟨"app", some ⟨100⟩, none⟩]

/-- Both orders pass the check, and the later policy wins in each. -/
theorem repeated_name_depends_on_order :
    validateContainerPolicies repeatedPolicies = [] ∧
      ∃ impl reversedImpl,
        newStartupCPUBoost referenceLibrary (boostWithPolicies repeatedPolicies) false =
            .ok impl ∧
          newStartupCPUBoost referenceLibrary (boostWithPolicies repeatedPolicies.reverse) false =
            .ok reversedImpl ∧
          impl.resourcePolicy "app" = some (.percentage 100) ∧
          reversedImpl.resourcePolicy "app" = some (.percentage 50) := by
  have one := countSet_of_validated (show validateContainerPolicies repeatedPolicies = [] by decide)
  have reversedOne := countSet_of_validated
    (show validateContainerPolicies repeatedPolicies.reverse = [] by decide)
  obtain ⟨impl, built⟩ := exists_built_boostWithPolicies referenceLibrary one
  obtain ⟨reversedImpl, reversedBuilt⟩ :=
    exists_built_boostWithPolicies referenceLibrary reversedOne
  exact ⟨by decide, impl, reversedImpl, built, reversedBuilt,
    resourcePolicy_of_last referenceLibrary one
      (show repeatedPolicies = [⟨"app", some ⟨50⟩, none⟩] ++ [⟨"app", some ⟨100⟩, none⟩] from rfl)
      rfl built,
    resourcePolicy_of_last referenceLibrary reversedOne
      (show repeatedPolicies.reverse =
        [⟨"app", some ⟨100⟩, none⟩] ++ [⟨"app", some ⟨50⟩, none⟩] from rfl) rfl reversedBuilt⟩

end Reference

end KubeStartupCPUBoost
