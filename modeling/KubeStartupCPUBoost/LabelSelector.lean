import KubeStartupCPUBoost.FiniteMapRange

/-!
# Label selectors

The label selector of a boost or of a global boost as the user writes it, when
it is well formed, and which label sets it selects.  The schema of the custom
resources constrains neither the operator nor the values, so both are kept as
written.
-/

namespace KubeStartupCPUBoost

abbrev StringMap := GoMap String String

structure LabelSelectorRequirement where
  key : String
  operator : String
  values : List String
deriving DecidableEq

structure LabelSelector where
  matchLabels : StringMap
  matchExpressions : List LabelSelectorRequirement
deriving DecidableEq

/-- A parsed selector, as the label sets it matches. -/
abbrev Selector := StringMap → Bool

namespace LabelSelectorRequirement

/-- A requirement is well formed if its operator is known, its values fit the
operator, and key and values are legal label texts. -/
def WellFormed (validKey validValue : String → Bool)
    (requirement : LabelSelectorRequirement) : Prop :=
  validKey requirement.key = true ∧
    (∀ value ∈ requirement.values, validValue value = true) ∧
    ((requirement.operator ∈ ["In", "NotIn"] ∧ requirement.values ≠ []) ∨
      (requirement.operator ∈ ["Exists", "DoesNotExist"] ∧ requirement.values = []))

instance (validKey validValue : String → Bool) (requirement : LabelSelectorRequirement) :
    Decidable (requirement.WellFormed validKey validValue) :=
  inferInstanceAs (Decidable (_ ∧ _ ∧ _))

def holds (requirement : LabelSelectorRequirement) (labels : StringMap) : Bool :=
  match labels.lookup requirement.key with
  | none => requirement.operator = "NotIn" ∨ requirement.operator = "DoesNotExist"
  | some value =>
      (requirement.operator = "In" ∧ value ∈ requirement.values) ∨
        (requirement.operator = "NotIn" ∧ value ∉ requirement.values) ∨
        requirement.operator = "Exists"

end LabelSelectorRequirement

namespace LabelSelector

def WellFormed (validKey validValue : String → Bool) (selector : LabelSelector) : Prop :=
  (∀ key ∈ selector.matchLabels.keys, validKey key = true ∧
    ∀ value, selector.matchLabels.lookup key = some value → validValue value = true) ∧
  ∀ requirement ∈ selector.matchExpressions, requirement.WellFormed validKey validValue

instance (validKey validValue : String → Bool) (selector : LabelSelector) :
    Decidable (selector.WellFormed validKey validValue) :=
  have : ∀ key, Decidable (∀ value,
      selector.matchLabels.lookup key = some value → validValue value = true) := fun key =>
    match selector.matchLabels.lookup key with
    | none => isTrue nofun
    | some value => decidable_of_iff (validValue value = true) (by simp)
  inferInstanceAs (Decidable (_ ∧ _))

/-- The label sets a selector matches: all its labels and all its
requirements. -/
def selects (selector : LabelSelector) : Selector := fun labels =>
  (∀ key ∈ selector.matchLabels.keys,
    labels.lookup key = selector.matchLabels.lookup key) ∧
  selector.matchExpressions.all fun requirement => requirement.holds labels

end LabelSelector

end KubeStartupCPUBoost
