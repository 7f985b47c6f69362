import KubeStartupCPUBoost.PodRevert
import Mathlib

/-!
# Functions that meet the assumptions on other packages

`Library` states what the controller relies on; this file shows that it can be
met.  A quantity is written as a whole number or in thousandths, `500m`; one
that has neither form is written as a fraction.  Selectors are rejected exactly
when they are not well formed.  Annotations are written as the JSON text for
the one that the concrete runs use, and by an enumeration otherwise.
-/

namespace KubeStartupCPUBoost

namespace Reference

def numeric (char : Char) : Bool := char.isDigit || char == '-'

def quantityString (quantity : Quantity) : String :=
  if quantity.den = 1 then quantity.num.repr
  else if (quantity * 1000).den = 1 then (quantity * 1000).num.repr ++ "m"
  else quantity.num.repr ++ ("/" ++ (quantity.den : Int).repr)

def invalidQuantity : String := "quantities must match the regular expression"

def suffixedQuantity (number : Int) : List Char → Except String Quantity
  | [] => .ok number
  | ['m'] => .ok (number / 1000)
  | '/' :: rest =>
      match (String.ofList rest).toInt? with
      | some den => .ok (number / den)
      | none => .error invalidQuantity
  | _ => .error invalidQuantity

def parseQuantity (text : String) : Except String Quantity :=
  match (String.ofList (text.toList.takeWhile numeric)).toInt? with
  | some number => suffixedQuantity number (text.toList.dropWhile numeric)
  | none => .error invalidQuantity

theorem numeric_of_mem_repr {number : Int} {char : Char} (member : char ∈ number.repr.toList) :
    numeric char = true := by
  have digit {n : Nat} (member : char ∈ n.repr.toList) : char.isDigit = true := by
    rw [Nat.repr_eq_ofList_toDigits, String.toList_ofList] at member
    exact Nat.isDigit_of_mem_toDigits (by decide) (by decide) member
  unfold numeric
  cases number with
  | ofNat n => rw [digit member, Bool.true_or]
  | negSucc n =>
      have split : (Int.negSucc n).repr.toList = '-' :: n.succ.repr.toList := by
        simp [Int.repr]
      rw [split] at member
      rcases List.mem_cons.mp member with rfl | later
      · decide
      · rw [digit later, Bool.true_or]

private theorem parseQuantity_repr_append (number : Int) {suffix : String}
    (stops : suffix.toList.takeWhile numeric = []) :
    parseQuantity (number.repr ++ suffix) = suffixedQuantity number suffix.toList := by
  have whole : suffix.toList.dropWhile numeric = suffix.toList := by
    have joined : suffix.toList.takeWhile numeric ++ suffix.toList.dropWhile numeric =
        suffix.toList := List.takeWhile_append_dropWhile
    rwa [stops, List.nil_append] at joined
  have digits : ∀ char ∈ number.repr.toList, numeric char = true := fun _ => numeric_of_mem_repr
  unfold parseQuantity
  rw [String.toList_append, List.takeWhile_append_of_pos digits,
    List.dropWhile_append_of_pos digits, stops, whole, List.append_nil, String.ofList_toList,
    Int.toInt?_repr]

theorem parseQuantity_quantityString (quantity : Quantity) :
    parseQuantity (quantityString quantity) = .ok quantity := by
  unfold quantityString
  by_cases whole : quantity.den = 1
  · rw [if_pos whole, ← @String.append_empty quantity.num.repr, parseQuantity_repr_append _ rfl]
    exact congrArg Except.ok (Rat.coe_int_num_of_den_eq_one whole)
  · rw [if_neg whole]
    by_cases thousandths : (quantity * 1000).den = 1
    · rw [if_pos thousandths, parseQuantity_repr_append _ (by decide)]
      have scaled := Rat.coe_int_num_of_den_eq_one thousandths
      refine congrArg Except.ok ?_
      rw [scaled]
      exact mul_div_cancel_right₀ quantity (by norm_num)
    · have suffix : ("/" ++ (quantity.den : Int).repr).toList =
          '/' :: (quantity.den : Int).repr.toList := by
        rw [String.toList_append]
        rfl
      rw [if_neg thousandths, parseQuantity_repr_append _ (by rw [suffix]; rfl), suffix,
        suffixedQuantity, String.ofList_toList, Int.toInt?_repr]
      exact congrArg Except.ok (Rat.num_div_den quantity)

instance countableChar : Countable Char :=
  Function.Injective.countable (f := Char.toNat) fun _ _ => Char.toNat_inj.mp

instance countableString : Countable String :=
  Function.Injective.countable (f := String.toList) fun _ _ => String.toList_inj.mp

instance countableAnnot : Countable BoostPodAnnotation := by
  have injective : Function.Injective fun annot : BoostPodAnnotation =>
      (annot.boostTimestamp, annot.initCPURequests.entries, annot.initCPULimits.entries) := by
    rintro ⟨time, requests, limits⟩ ⟨time', requests', limits'⟩ equal
    simp only [Prod.mk.injEq] at equal
    obtain ⟨rfl, sameRequests, sameLimits⟩ := equal
    rw [Finmap.ext sameRequests, Finmap.ext sameLimits]
  exact injective.countable

/-- The annotation of a pod whose container `app` had a CPU request of 1 and a
CPU limit of 2. -/
def appAnnot : BoostPodAnnotation where
  boostTimestamp := 0
  initCPURequests := (∅ : StringMap).insert "app" "1"
  initCPULimits := (∅ : StringMap).insert "app" "2"

def appAnnotText : String :=
  "\x7b\"timestamp\":\"1970-01-01T00:00:00Z\",\"initCPURequests\":\x7b\"app\":\"1\"\x7d," ++
    "\"initCPULimits\":\x7b\"app\":\"2\"\x7d\x7d"

noncomputable def marshalAnnot (annot : BoostPodAnnotation) : String :=
  if annot = appAnnot then appAnnotText
  else (Countable.exists_injective_nat BoostPodAnnotation).choose annot |>.repr

open Classical in
noncomputable def unmarshalAnnot (text : String) : Except String BoostPodAnnotation :=
  if written : ∃ annot, marshalAnnot annot = text then .ok written.choose
  else .error "invalid character looking for beginning of value"

private theorem repr_ne_appAnnotText (number : Nat) : number.repr ≠ appAnnotText := by
  intro equal
  have brace : '\x7b' ∈ (number : Int).repr.toList := by
    change '\x7b' ∈ number.repr.toList
    rw [equal]
    decide
  exact absurd (numeric_of_mem_repr brace) (by decide)

private theorem marshalAnnot_injective : Function.Injective marshalAnnot := by
  have injective := (Countable.exists_injective_nat BoostPodAnnotation).choose_spec
  intro first second equal
  unfold marshalAnnot at equal
  by_cases firstApp : first = appAnnot
  · by_cases secondApp : second = appAnnot
    · rw [firstApp, secondApp]
    · rw [if_pos firstApp, if_neg secondApp] at equal
      exact absurd equal.symm (repr_ne_appAnnotText _)
  · by_cases secondApp : second = appAnnot
    · rw [if_neg firstApp, if_pos secondApp] at equal
      exact absurd equal (repr_ne_appAnnotText _)
    · rw [if_neg firstApp, if_neg secondApp] at equal
      exact injective (Nat.repr_injective equal)

private theorem unmarshalAnnot_marshalAnnot (annot : BoostPodAnnotation) :
    unmarshalAnnot (marshalAnnot annot) = .ok annot := by
  have written : ∃ other, marshalAnnot other = marshalAnnot annot := ⟨annot, rfl⟩
  unfold unmarshalAnnot
  rw [dif_pos written, marshalAnnot_injective written.choose_spec]

/-- Alphanumeric at both ends, with nothing but the given characters between. -/
def validName (alphanumeric : Char → Bool) (between : List Char) (text : List Char) : Bool :=
  text.head?.any alphanumeric && text.getLast?.any alphanumeric &&
    text.all fun char => alphanumeric char || char ∈ between

def validLabelName (text : List Char) : Bool :=
  text.length ≤ 63 && validName Char.isAlphanum ['-', '_', '.'] text

def validLabelDomain (text : List Char) : Bool :=
  text.length ≤ 253 &&
    (text.splitOn '.').all (validName (fun char => char.isLower || char.isDigit) ['-'])

/-- A label's key is a name, after a domain and a slash if it has one. -/
def validLabelKey (key : String) : Bool :=
  match key.toList.splitOn '/' with
  | [name] => validLabelName name
  | [domain, name] => validLabelDomain domain && validLabelName name
  | _ => false

def validLabelValue (value : String) : Bool := value == "" || validLabelName value.toList

def labelSelectorAsSelector (selector : LabelSelector) : Except String Selector :=
  if selector.WellFormed validLabelKey validLabelValue then .ok selector.selects
  else .error "invalid label selector"

end Reference

open Reference in
/-- Functions that meet every assumption. -/
noncomputable def referenceLibrary : Library where
  quantityString := quantityString
  parseQuantity := parseQuantity
  parseQuantity_quantityString := parseQuantity_quantityString
  marshalAnnot := marshalAnnot
  unmarshalAnnot := unmarshalAnnot
  unmarshalAnnot_marshalAnnot := unmarshalAnnot_marshalAnnot
  createMergePatch original updated := .ok (original.diff updated)
  createMergePatch_eq _ _ _ _ := rfl
  validLabelKey := validLabelKey
  validLabelValue := validLabelValue
  labelSelectorAsSelector := labelSelectorAsSelector
  labelSelectorAsSelector_ok _ wellFormed := if_pos wellFormed
  labelSelectorAsSelector_error _ malformed := ⟨_, if_neg malformed⟩

namespace Reference

def everything : LabelSelector := ⟨∅, []⟩

theorem wellFormed_everything : everything.WellFormed referenceLibrary.validLabelKey
    referenceLibrary.validLabelValue := by
  constructor
  · intro key member
    exact absurd member (by simp [everything])
  · intro requirement member
    cases member

def cpuList (amount : Quantity) : ResourceList := (∅ : ResourceList).insert resourceCPU amount

def appContainer (request limit : Quantity) : Container where
  name := "app"
  resources := { requests := cpuList request, limits := cpuList limit }

/-- A pod whose container was boosted from a request of 1 and a limit of 2 to
twice as much. -/
noncomputable def boostedPod : Pod where
  name := "web"
  ns := "default"
  uid := "1"
  labels := (∅ : StringMap).insert boostLabelKey "boost"
  annotations := (∅ : StringMap).insert boostAnnotationKey (referenceLibrary.marshalAnnot appAnnot)
  containers := [appContainer 2 4]

theorem boostAnnotationFromPod_boostedPod :
    boostAnnotationFromPod referenceLibrary boostedPod = .ok appAnnot := by
  unfold boostAnnotationFromPod
  rw [show boostedPod.annotations.lookup boostAnnotationKey =
    some (referenceLibrary.marshalAnnot appAnnot) from Finmap.lookup_insert _]
  exact referenceLibrary.unmarshalAnnot_marshalAnnot appAnnot

theorem quantityString_one : referenceLibrary.quantityString 1 = "1" := by decide +kernel

theorem quantityString_two : referenceLibrary.quantityString 2 = "2" := by decide +kernel

theorem readable_appAnnot : Readable referenceLibrary appAnnot := by
  constructor
  · intro name text recorded
    obtain ⟨-, rfl⟩ : name = "app" ∧ text = "1" := by
      simpa [appAnnot, GoMap.lookup_insert, eq_comm] using recorded
    exact ⟨1, quantityString_one ▸ referenceLibrary.parseQuantity_quantityString 1⟩
  · intro name text recorded
    obtain ⟨-, rfl⟩ : name = "app" ∧ text = "2" := by
      simpa [appAnnot, GoMap.lookup_insert, eq_comm] using recorded
    exact ⟨2, quantityString_two ▸ referenceLibrary.parseQuantity_quantityString 2⟩

/-- The recorded request is 1 and the recorded limit is 2. -/
theorem restoredContainer_app (container : Container) (isApp : container.name = "app") :
    restoredContainer referenceLibrary appAnnot container =
      { container with
        resources :=
          { requests := container.resources.requests.insert resourceCPU 1
            limits := container.resources.limits.insert resourceCPU 2 } } := by
  have request : referenceLibrary.parseQuantity "1" = .ok 1 :=
    quantityString_one ▸ referenceLibrary.parseQuantity_quantityString 1
  have limit : referenceLibrary.parseQuantity "2" = .ok 2 :=
    quantityString_two ▸ referenceLibrary.parseQuantity_quantityString 2
  have recordedRequest : appAnnot.initCPURequests.lookup "app" = some "1" := by decide +kernel
  have recordedLimit : appAnnot.initCPULimits.lookup "app" = some "2" := by decide +kernel
  unfold restoredContainer recordedQuantity
  rw [isApp, recordedRequest, recordedLimit]
  simp [request, limit, Except.toOption, restoredCPU]

end Reference

end KubeStartupCPUBoost
