import KubeStartupCPUBoost.LivePods
import KubeStartupCPUBoost.RequestLimitOrder

/-!
# The arithmetic of the policies

The length of a fixed duration and the factor of a percentage are computed in
64-bit integers, from values that the API only bounds from below.

`fixedDuration_exact_iff` and `percentage_ceiling_iff` say for which admitted
values the policies do what the exact arithmetic says: for those whose product
or sum still fits.
-/

namespace KubeStartupCPUBoost

/-- Reduction to the signed range keeps a natural number exactly when it is in
the range. -/
theorem bmod_eq_self_iff {value : Int} (nonneg : 0 ≤ value) :
    value.bmod (2 ^ 64) = value ↔ value < 2 ^ 63 := by
  constructor
  · intro kept
    have bounded : value.bmod (2 ^ 64) < ((2 ^ 64 : Nat) + 1) / 2 := Int.bmod_lt (by decide)
    rw [kept] at bounded
    norm_num at bounded ⊢
    omega
  · intro bounded
    apply Int.bmod_eq_of_le
    · norm_num
      omega
    · norm_num at bounded ⊢
      omega

def FixedDurationPolicyUnit.nanoseconds : FixedDurationPolicyUnit → Int
  | .seconds => 1000000000
  | .minutes => 60000000000

/-- The duration a specification means, in nanoseconds. -/
def FixedDurationPolicySpec.exactDuration (policy : FixedDurationPolicySpec) : Int :=
  policy.value.toInt * policy.unit.nanoseconds

private theorem toInt_fixedPolicyToDuration (policy : FixedDurationPolicySpec) :
    (fixedPolicyToDuration policy).toInt = policy.exactDuration.bmod (2 ^ 64) := by
  unfold fixedPolicyToDuration FixedDurationPolicySpec.exactDuration
  cases policy.unit with
  | seconds => exact Int64.toInt_mul policy.value 1000000000
  | minutes => exact Int64.toInt_mul policy.value 60000000000

private theorem exactDuration_pos {policy : FixedDurationPolicySpec}
    (admitted : 1 ≤ policy.value.toInt) : 0 < policy.exactDuration := by
  unfold FixedDurationPolicySpec.exactDuration
  have unitPos : 0 < policy.unit.nanoseconds := by
    cases policy.unit <;> decide
  exact Int.mul_pos admitted unitPos

theorem lookup_fixed_mapDurationPolicy {spec : DurationPolicySpec}
    {policy : FixedDurationPolicySpec} (given : spec.fixed = some policy) :
    (mapDurationPolicy spec).lookup fixedDurationPolicyName =
      some (.fixed (fixedPolicyToDuration policy)) := by
  have different : fixedDurationPolicyName ≠ podConditionPolicyName := by decide
  obtain ⟨fixed, podCondition⟩ := spec
  cases given
  cases podCondition <;> simp [mapDurationPolicy, different]

private theorem fixedDurationValid_iff {duration : Int64} {now scheduled : Time}
    {conditions : List PodCondition} (found : scheduledTime conditions = some scheduled) :
    fixedDurationValid duration now conditions = true ↔ now < scheduled + duration.toInt := by
  rw [← Bool.not_eq_false, fixedDurationValid_eq_false_iff, found]
  simp

/-- The policy that a specification is mapped to measures its duration in exact
integers, and is met until the pod is scheduled. -/
structure MeasuresExactly (spec : DurationPolicySpec) (policy : FixedDurationPolicySpec) :
    Prop where
  noWrap : (fixedPolicyToDuration policy).toInt = policy.exactDuration
  valid_iff : ∃ built, (mapDurationPolicy spec).lookup fixedDurationPolicyName = some built ∧
    ∀ pod scheduled now, scheduledTime pod.conditions = some scheduled →
      (built.valid now pod = true ↔ now < scheduled + policy.exactDuration)
  untilScheduled : ∀ built, (mapDurationPolicy spec).lookup fixedDurationPolicyName = some built →
    ∀ pod scheduled now, scheduledTime pod.conditions = some scheduled → now ≤ scheduled →
      built.valid now pod = true

/-- An admitted duration is measured exactly when its nanoseconds fit. -/
theorem fixedDuration_exact_iff {spec : DurationPolicySpec} {policy : FixedDurationPolicySpec}
    (given : spec.fixed = some policy) (admitted : 1 ≤ policy.value.toInt) :
    MeasuresExactly spec policy ↔ policy.exactDuration < 2 ^ 63 := by
  have positive := exactDuration_pos admitted
  have fits := bmod_eq_self_iff positive.le
  rw [← toInt_fixedPolicyToDuration] at fits
  have mapped := lookup_fixed_mapDurationPolicy given
  constructor
  · exact fun measures => fits.mp measures.noWrap
  · intro bounded
    have noWrap := fits.mpr bounded
    refine ⟨noWrap, ⟨_, mapped, fun pod scheduled now found => ?_⟩,
      fun built isBuilt pod scheduled now found early => ?_⟩
    · rw [← noWrap]
      exact fixedDurationValid_iff found
    · obtain rfl := Option.some.inj (mapped.symm.trans isBuilt)
      apply (fixedDurationValid_iff found).mpr
      rw [noWrap]
      exact Int.lt_add_of_le_of_pos early positive

namespace Reference

theorem fixedDuration_exact_iff_minute :
    MeasuresExactly ⟨some ⟨.minutes, 1⟩, none⟩ ⟨.minutes, 1⟩ :=
  (fixedDuration_exact_iff rfl (by decide)).mpr (by decide)

def scheduledPlainPod : Pod := { plainPod with conditions := [⟨"PodScheduled", "True", 0⟩] }

/-- The smallest number of minutes that overflows: the policy has expired a
second before the pod is scheduled. -/
theorem long_duration_expired_before_scheduled :
    validateDurationPolicy ⟨some ⟨.minutes, 153722868⟩, none⟩ = none ∧
      1 ≤ (153722868 : Int64).toInt ∧
      scheduledTime scheduledPlainPod.conditions = some 0 ∧
      ∃ built, (mapDurationPolicy ⟨some ⟨.minutes, 153722868⟩, none⟩).lookup
          fixedDurationPolicyName = some built ∧
        built.valid (-1000000000) scheduledPlainPod = false :=
  ⟨by decide, by decide, rfl, _, lookup_fixed_mapDurationPolicy rfl, by decide⟩

end Reference

def exactIncrease (quantity : Quantity) (incPerc : Int64) : Quantity :=
  quantity * (100 + incPerc.toInt) / 100

theorem toInt_hundred_add {incPerc : Int64} (admitted : 1 ≤ incPerc.toInt) :
    ((100 + incPerc).toInt = 100 + incPerc.toInt ∧ 100 + incPerc.toInt < 2 ^ 63) ∨
      ((100 + incPerc).toInt < 0 ∧ ¬ 100 + incPerc.toInt < 2 ^ 63) := by
  have wrapped : (100 + incPerc).toInt = (100 + incPerc.toInt).bmod (2 ^ 64) :=
    Int64.toInt_add 100 incPerc
  have fits : (100 + incPerc.toInt).bmod (2 ^ 64) = 100 + incPerc.toInt ↔ _ :=
    bmod_eq_self_iff (by omega)
  rw [wrapped]
  by_cases bounded : 100 + incPerc.toInt < 2 ^ 63
  · exact .inl ⟨fits.mpr bounded, bounded⟩
  · refine .inr ⟨?_, bounded⟩
    have upper := incPerc.toInt_lt
    have reduced : (100 + incPerc.toInt).bmod (2 ^ 64) = 100 + incPerc.toInt - 2 ^ 64 := by
      rw [← Int.sub_bmod_right]
      apply Int.bmod_eq_of_le
      · norm_num at bounded ⊢
        omega
      · norm_num at upper ⊢
        omega
    rw [reduced]
    norm_num at upper ⊢
    omega

private theorem isLeast_ceil_hundredths (product : ℚ) :
    IsLeast {amount : ℚ | (∃ hundredths : Int, amount = hundredths / 100) ∧ product ≤ amount}
      ((⌈product * 100⌉ : ℚ) / 100) := by
  constructor
  · refine ⟨⟨_, rfl⟩, ?_⟩
    rw [le_div_iff₀ (by norm_num)]
    exact Int.le_ceil _
  · rintro _ ⟨⟨hundredths, rfl⟩, above⟩
    rw [le_div_iff₀ (by norm_num)] at above
    have rounded : ⌈product * 100⌉ ≤ hundredths := Int.ceil_le.mpr above
    gcongr

section NoOverflow

variable {incPerc : Int64} (noOverflow : (100 + incPerc).toInt = 100 + incPerc.toInt)

include noOverflow

private theorem increaseQuantity_eq (quantity : Quantity) :
    increaseQuantity quantity incPerc = (⌈exactIncrease quantity incPerc * 100⌉ : ℚ) / 100 := by
  unfold increaseQuantity exactIncrease
  rw [noOverflow, mul_div_assoc]
  push_cast
  rfl

theorem isLeast_increaseQuantity (quantity : Quantity) :
    IsLeast {amount : Quantity | (∃ hundredths : Int, amount = hundredths / 100) ∧
      exactIncrease quantity incPerc ≤ amount} (increaseQuantity quantity incPerc) := by
  rw [increaseQuantity_eq noOverflow]
  exact isLeast_ceil_hundredths _

private theorem le_increaseQuantity (admitted : 1 ≤ incPerc.toInt) {quantity : Quantity}
    (nonneg : 0 ≤ quantity) : quantity ≤ increaseQuantity quantity incPerc := by
  have factor : (1 : ℚ) ≤ incPerc.toInt := by exact_mod_cast admitted
  calc quantity
      ≤ exactIncrease quantity incPerc := by
        unfold exactIncrease
        rw [le_div_iff₀ (by norm_num)]
        gcongr
        linarith
    _ ≤ increaseQuantity quantity incPerc := (isLeast_increaseQuantity noOverflow quantity).1.2

end NoOverflow

private theorem increaseQuantity_nonpos {incPerc : Int64} (overflow : (100 + incPerc).toInt < 0)
    {quantity : Quantity} (nonneg : 0 ≤ quantity) : increaseQuantity quantity incPerc ≤ 0 := by
  have negative : ((100 + incPerc).toInt : ℚ) ≤ 0 := by exact_mod_cast overflow.le
  have product : quantity * (((100 + incPerc).toInt : ℚ) / 100) * 100 ≤ 0 := by
    rw [mul_assoc, div_mul_cancel₀ _ (by norm_num)]
    exact mul_nonpos_of_nonneg_of_nonpos nonneg negative
  have rounded : ⌈quantity * (((100 + incPerc).toInt : ℚ) / 100) * 100⌉ ≤ 0 :=
    Int.ceil_le.mpr (by simpa using product)
  unfold increaseQuantity
  apply div_nonpos_of_nonpos_of_nonneg
  · exact_mod_cast rounded
  · norm_num

/-- A percentage raises amounts to the least number of hundredths that is not
below the exact product; it never lowers an amount and keeps amounts in order,
hence also requests and limits. -/
structure RaisesToCeiling (incPerc : Int64) : Prop where
  ceiling : ∀ quantity, 0 ≤ quantity →
    IsLeast {amount : Quantity | (∃ hundredths : Int, amount = hundredths / 100) ∧
      exactIncrease quantity incPerc ≤ amount} (increaseQuantity quantity incPerc)
  neverLowers : ∀ quantity, 0 ≤ quantity → quantity ≤ increaseQuantity quantity incPerc
  positive : ∀ quantity, 0 < quantity → 0 < increaseQuantity quantity incPerc
  monotone : ∀ smaller larger, 0 ≤ smaller → smaller ≤ larger →
    increaseQuantity smaller incPerc ≤ increaseQuantity larger incPerc
  withinLimit : ∀ container, RequestWithinLimit container.resources →
    RequestWithinLimit ((ContainerPolicy.percentage incPerc).newResources container)
  equalStay : ∀ container quantity,
    container.resources.requests.lookup resourceCPU = some quantity →
    container.resources.limits.lookup resourceCPU = some quantity →
      ((ContainerPolicy.percentage incPerc).newResources container).requests.lookup resourceCPU =
        ((ContainerPolicy.percentage incPerc).newResources container).limits.lookup resourceCPU

private theorem requestWithinLimit_percentage {incPerc : Int64}
    (noOverflow : 0 ≤ (100 + incPerc).toInt) {container : Container}
    (ordered : RequestWithinLimit container.resources) :
    RequestWithinLimit ((ContainerPolicy.percentage incPerc).newResources container) := by
  intro newRequest newLimit hasRequest hasLimit
  obtain ⟨requests, limits⟩ := (ContainerPolicy.percentage incPerc).lookup_newResources container
  obtain ⟨request, present, rfl⟩ := Option.map_eq_some_iff.mp (requests.symm.trans hasRequest)
  obtain ⟨limit, limitPresent, rfl⟩ := Option.map_eq_some_iff.mp (limits.symm.trans hasLimit)
  exact increaseQuantity_mono noOverflow (ordered request limit present limitPresent)

/-- An admitted percentage is such a ceiling exactly when its sum with 100 fits. -/
theorem percentage_ceiling_iff {incPerc : Int64} (admitted : 1 ≤ incPerc.toInt) :
    RaisesToCeiling incPerc ↔ 100 + incPerc.toInt < 2 ^ 63 := by
  rcases toInt_hundred_add admitted with ⟨noOverflow, bounded⟩ | ⟨overflow, unbounded⟩
  · have factor : 0 ≤ (100 + incPerc).toInt := by omega
    refine iff_of_true ?_ bounded
    exact {
      ceiling := fun quantity _ => isLeast_increaseQuantity noOverflow quantity
      neverLowers := fun _ nonneg => le_increaseQuantity noOverflow admitted nonneg
      positive := fun _ positive =>
        positive.trans_le (le_increaseQuantity noOverflow admitted positive.le)
      monotone := fun _ _ _ ordered => increaseQuantity_mono factor ordered
      withinLimit := fun _ ordered => requestWithinLimit_percentage factor ordered
      equalStay := fun container quantity request limit => by
        obtain ⟨requests, limits⟩ :=
          (ContainerPolicy.percentage incPerc).lookup_newResources container
        rw [requests, limits, request, limit]
        rfl }
  · refine iff_of_false (fun raises => ?_) unbounded
    have lowered := increaseQuantity_nonpos overflow zero_le_one
    exact absurd (raises.positive 1 one_pos) (not_lt.mpr lowered)

namespace Reference

theorem percentage_ceiling_iff_fifty : RaisesToCeiling 50 :=
  (percentage_ceiling_iff (by decide)).mpr (by decide)

/-- The largest percentage turns one CPU into a negative amount. -/
theorem largest_percentage_negative :
    validateContainerPolicies [⟨"app", some ⟨9223372036854775807⟩, none⟩] = [] ∧
      1 ≤ (9223372036854775807 : Int64).toInt ∧
      increaseQuantity 1 9223372036854775807 = -9223372036854775709 / 100 :=
  ⟨by decide, by decide, by decide +kernel⟩

end Reference

end KubeStartupCPUBoost
