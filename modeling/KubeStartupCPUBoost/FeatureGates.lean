import KubeStartupCPUBoost.FiniteMapRange
import KubeStartupCPUBoost.GoText
import Mathlib.Algebra.Order.Ring.Rat

/-!
# Feature gates of the cluster

The feature gates are read from the samples of one metric.  Each sample names a
gate and a stage by its labels, and is 1 if the gate is enabled.  The samples go
into a map of maps, so that of several samples for one gate and stage the last one
counts; samples without the labels are passed over.

Whether a gate is enabled at all does not depend on the order in which the maps
are visited.  Whether it is enabled at a stage can depend on it, because stages are
compared in upper case: it does when two spellings of the stage disagree.
-/

namespace KubeStartupCPUBoost

/-- A label of a sample; both parts are optional in the exchange format. -/
structure LabelPair where
  name : Option String
  value : Option String
deriving DecidableEq

/-- The getters return the empty text for a missing part. -/
def LabelPair.getName (label : LabelPair) : String := label.name.getD ""

def LabelPair.getValue (label : LabelPair) : String := label.value.getD ""

/-- A sample with the value of its gauge: 0 if it has none, and nothing for a value
that is not a finite number. -/
structure Metric where
  labels : List LabelPair
  gaugeValue : Option ℚ
deriving DecidableEq

def Metric.enabled (metric : Metric) : Bool := metric.gaugeValue = some 1

def k8sFeatureEnabledMetricName : String := "kubernetes_feature_enabled"

def k8sFeatureEnabledNameLabel : String := "name"

def k8sFeatureEnabledStageLabel : String := "stage"

/-- The loop of `getNameAndStage`, with the name and the stage so far. -/
def scanLabels : List LabelPair → String → Option String → String × Option String
  | [], name, stage => (name, stage)
  | label :: rest, name, stage =>
      scanLabels rest
        (if label.getName = k8sFeatureEnabledNameLabel then label.getValue else name)
        (if label.getName = k8sFeatureEnabledStageLabel then label.value else stage)

def getNameAndStage (labels : List LabelPair) : Except String (String × String) :=
  match scanLabels labels "" none with
  | (name, some stage) =>
      if name = "" then .error "missing name and stage label" else .ok (name, stage)
  | (_, none) => .error "missing name and stage label"

/-- For each gate, for each stage, whether it is enabled. -/
abbrev FeatureGates := GoMap String (GoMap String Bool)

/-- The body of the inner loop of `GetFeatureGates`. -/
def FeatureGates.addMetric (gates : FeatureGates) (metric : Metric) : FeatureGates :=
  match getNameAndStage metric.labels with
  | .error _ => gates
  | .ok (name, stage) =>
      let stages := (gates.lookup name).getD ∅
      gates.insert name (stages.insert stage metric.enabled)

/-- The body of the outer loop, for one family of samples. -/
def FeatureGates.addFamily (families : GoMap String (List Metric)) (gates : FeatureGates)
    (name : String) : FeatureGates :=
  if name ≠ k8sFeatureEnabledMetricName then gates
  else ((families.lookup name).getD []).foldl FeatureGates.addMetric gates

/-- The gates in the parsed answer of the metrics endpoint. -/
def getFeatureGates (order : RangeOrder String)
    (parsed : Except String (GoMap String (List Metric))) : Except String FeatureGates :=
  match parsed with
  | .error message => .error message
  | .ok families =>
      .ok ((order.list families.keys).foldl (FeatureGates.addFamily families) ∅)

namespace FeatureGates

/-- The loop of `IsEnabled`: the first stage with the right spelling decides. -/
def findStage (stages : GoMap String Bool) (stage : String) : List String → Bool
  | [] => false
  | stageName :: rest =>
      if Strings.toUpper stageName = stage then (stages.lookup stageName).getD false
      else findStage stages stage rest

def isEnabled (order : RangeOrder String) (gates : FeatureGates) (featureGate stage : String) :
    Bool :=
  match gates.lookup featureGate with
  | none => false
  | some stages => findStage stages stage (order.list stages.keys)

def isEnabledAnyStage (order : RangeOrder String) (gates : FeatureGates) (featureGate : String) :
    Bool :=
  match gates.lookup featureGate with
  | none => false
  | some stages => (stages.rangeValues order).any id

def entry (gates : FeatureGates) (featureGate stage : String) : Option Bool :=
  (gates.lookup featureGate).bind fun stages => stages.lookup stage

def lastSample (featureGate stage : String) (metrics : List Metric) : Option Metric :=
  metrics.reverse.find? fun metric => getNameAndStage metric.labels = .ok (featureGate, stage)

theorem entry_addMetric (gates : FeatureGates) (metric : Metric) (featureGate stage : String) :
    (gates.addMetric metric).entry featureGate stage =
      if getNameAndStage metric.labels = .ok (featureGate, stage) then
        some metric.enabled
      else gates.entry featureGate stage := by
  unfold addMetric
  cases read : getNameAndStage metric.labels with
  | error message => simp
  | ok named =>
      obtain ⟨name, sampleStage⟩ := named
      simp only [entry, GoMap.lookup_insert, Except.ok.injEq, Prod.mk.injEq]
      by_cases sameGate : featureGate = name
      · subst sameGate
        by_cases sameStage : stage = sampleStage
        · subst sameStage
          simp
        · have otherStage : ¬ sampleStage = stage := fun same => sameStage same.symm
          simp only [if_true, Option.bind_some, GoMap.lookup_insert, if_neg sameStage, otherStage,
            and_false, if_false]
          cases gates.lookup featureGate <;> simp
      · have otherGate : ¬ name = featureGate := fun same => sameGate same.symm
        simp [sameGate, otherGate]

theorem entry_foldl (metrics : List Metric) (gates : FeatureGates) (featureGate stage : String) :
    (metrics.foldl addMetric gates).entry featureGate stage =
      match lastSample featureGate stage metrics with
      | some metric => some metric.enabled
      | none => gates.entry featureGate stage := by
  induction metrics generalizing gates with
  | nil => rfl
  | cons metric rest ih =>
      rw [List.foldl_cons, ih]
      unfold lastSample
      rw [List.reverse_cons, List.find?_append]
      cases later : rest.reverse.find? fun metric =>
          getNameAndStage metric.labels = .ok (featureGate, stage) with
      | some found => rfl
      | none =>
          rw [entry_addMetric]
          by_cases named : getNameAndStage metric.labels = .ok (featureGate, stage)
          · simp [named]
          · simp [named]

theorem foldl_addFamily_of_not_mem (families : GoMap String (List Metric)) (names : List String)
    (gates : FeatureGates) (absent : k8sFeatureEnabledMetricName ∉ names) :
    names.foldl (addFamily families) gates = gates := by
  induction names generalizing gates with
  | nil => rfl
  | cons name rest ih =>
      obtain ⟨other, notLater⟩ := List.ne_and_not_mem_of_not_mem_cons absent
      rw [List.foldl_cons, ih _ notLater, addFamily, if_pos (Ne.symm other)]

/-- Only one family is read, so the order of the families does not matter. -/
theorem foldl_addFamily (families : GoMap String (List Metric)) (names : List String)
    (distinct : names.Nodup) (gates : FeatureGates)
    (listed : k8sFeatureEnabledMetricName ∈ names) :
    names.foldl (addFamily families) gates =
      ((families.lookup k8sFeatureEnabledMetricName).getD []).foldl addMetric gates := by
  induction names generalizing gates with
  | nil => cases listed
  | cons name rest ih =>
      obtain ⟨notLater, distinctRest⟩ := List.nodup_cons.mp distinct
      rw [List.foldl_cons]
      by_cases family : name = k8sFeatureEnabledMetricName
      · subst family
        rw [foldl_addFamily_of_not_mem families rest _ notLater, addFamily,
          if_neg (not_not_intro rfl)]
      · have later := (List.mem_cons.mp listed).resolve_left (Ne.symm family)
        rw [addFamily, if_pos family]
        exact ih distinctRest gates later

/-- The samples of the metric, none if it is not exported. -/
def samples (families : GoMap String (List Metric)) : List Metric :=
  (families.lookup k8sFeatureEnabledMetricName).getD []

theorem getFeatureGates_ok (order : RangeOrder String) (families : GoMap String (List Metric)) :
    getFeatureGates order (.ok families) = .ok ((samples families).foldl addMetric ∅) := by
  unfold getFeatureGates samples
  by_cases listed : k8sFeatureEnabledMetricName ∈ families.keys
  · have visited := (order.mem_list families.keys _).mpr listed
    simp only [foldl_addFamily families _ (order.nodup _) ∅ visited]
  · have notVisited : k8sFeatureEnabledMetricName ∉ order.list families.keys :=
      fun visited => listed ((order.mem_list _ _).mp visited)
    have absent : families.lookup k8sFeatureEnabledMetricName = none := by
      cases present : families.lookup k8sFeatureEnabledMetricName with
      | none => rfl
      | some metrics => exact absurd (GoMap.mem_keys_iff.mpr ⟨metrics, present⟩) listed
    simp only [foldl_addFamily_of_not_mem families _ ∅ notVisited, absent, Option.getD_none,
      List.foldl_nil]

theorem entry_getFeatureGates {order : RangeOrder String} {families : GoMap String (List Metric)}
    {gates : FeatureGates} (read : getFeatureGates order (.ok families) = .ok gates)
    (featureGate stage : String) :
    gates.entry featureGate stage =
      (lastSample featureGate stage (samples families)).map Metric.enabled := by
  rw [getFeatureGates_ok] at read
  cases read
  rw [entry_foldl]
  cases lastSample featureGate stage (samples families) <;> rfl

theorem isEnabledAnyStage_iff_entry (order : RangeOrder String) (gates : FeatureGates)
    (featureGate : String) :
    gates.isEnabledAnyStage order featureGate = true ↔
      ∃ stage, gates.entry featureGate stage = some true := by
  unfold isEnabledAnyStage entry
  cases gates.lookup featureGate with
  | none => simp
  | some stages => simp [GoMap.mem_rangeValues]

theorem findStage_eq (stages : GoMap String Bool) (stage : String) (names : List String) :
    findStage stages stage names =
      match names.find? fun name => Strings.toUpper name = stage with
      | some name => (stages.lookup name).getD false
      | none => false := by
  induction names with
  | nil => rfl
  | cons name rest ih =>
      unfold findStage
      by_cases spelled : Strings.toUpper name = stage
      · simp [spelled]
      · simp [spelled, ih]

theorem findStage_startingWith {stages : GoMap String Bool} {stage name : String}
    {enabled : Bool} (present : stages.lookup name = some enabled)
    (spelled : Strings.toUpper name = stage) :
    findStage stages stage ((RangeOrder.startingWith name).list stages.keys) = enabled := by
  have member : name ∈ stages.keys := GoMap.mem_keys_iff.mpr ⟨enabled, present⟩
  have first : (RangeOrder.startingWith name).list stages.keys =
      name :: (stages.keys.erase name).toList := if_pos member
  rw [first, findStage, if_pos spelled, present]
  rfl

/-- In any order the result is that of some entry with the right spelling, or false
if there is none. -/
theorem isEnabled_cases (order : RangeOrder String) (gates : FeatureGates)
    (featureGate stage : String) :
    (∃ name, Strings.toUpper name = stage ∧
        gates.entry featureGate name = some (gates.isEnabled order featureGate stage)) ∨
      (∀ name, Strings.toUpper name = stage → gates.entry featureGate name = none) ∧
        gates.isEnabled order featureGate stage = false := by
  unfold isEnabled entry
  cases gates.lookup featureGate with
  | none => exact .inr ⟨fun _ _ => rfl, rfl⟩
  | some stages =>
      simp only [Option.bind_some, findStage_eq]
      cases found : (order.list stages.keys).find? fun name => Strings.toUpper name = stage with
      | some name =>
          have spelled : Strings.toUpper name = stage := by simpa using List.find?_some found
          have member := (order.mem_list _ _).mp (List.mem_of_find?_eq_some found)
          obtain ⟨enabled, present⟩ := GoMap.mem_keys_iff.mp member
          exact .inl ⟨name, spelled, by simp [present]⟩
      | none =>
          refine .inr ⟨fun name spelled => ?_, rfl⟩
          cases present : stages.lookup name with
          | none => rfl
          | some enabled =>
              have listed := (order.mem_list _ name).mpr (GoMap.mem_keys_iff.mpr ⟨enabled, present⟩)
              have missed := List.find?_eq_none.mp found name listed
              simp [spelled] at missed

/-- The result at a stage is the same in all orders exactly when the entries with the
right spelling agree. -/
theorem isEnabled_deterministic_iff (gates : FeatureGates) (featureGate stage : String) :
    (∀ order order', gates.isEnabled order featureGate stage =
        gates.isEnabled order' featureGate stage) ↔
      ∀ first second enabled enabled',
        Strings.toUpper first = stage → Strings.toUpper second = stage →
        gates.entry featureGate first = some enabled →
          gates.entry featureGate second = some enabled' → enabled = enabled' := by
  constructor
  · intro same first second enabled enabled' firstSpelled secondSpelled firstEntry secondEntry
    cases stored : gates.lookup featureGate with
    | none => simp [entry, stored] at firstEntry
    | some stages =>
        simp only [entry, stored, Option.bind_some] at firstEntry secondEntry
        have orders := same (.startingWith first) (.startingWith second)
        simp only [isEnabled, stored] at orders
        rw [findStage_startingWith firstEntry firstSpelled,
          findStage_startingWith secondEntry secondSpelled] at orders
        exact orders
  · intro agree order order'
    obtain ⟨name, spelled, found⟩ | ⟨noEntry, result⟩ :=
      isEnabled_cases order gates featureGate stage
    · obtain ⟨name', spelled', found'⟩ | ⟨noEntry', -⟩ :=
        isEnabled_cases order' gates featureGate stage
      · exact agree name name' _ _ spelled spelled' found found'
      · rw [noEntry' name spelled] at found
        cases found
    · obtain ⟨name', spelled', found'⟩ | ⟨-, result'⟩ :=
        isEnabled_cases order' gates featureGate stage
      · rw [noEntry name' spelled'] at found'
        cases found'
      · rw [result, result']

/-- What the queries say about an answer of the metrics endpoint, in any order of its
families and of the maps.  A gate is enabled at some stage exactly when the last
sample for one of its stages is 1.  At a given stage the result does not depend on
the order exactly when the last samples for all spellings of the stage agree. -/
theorem feature_gates_read_exactly (order : RangeOrder String)
    (families : GoMap String (List Metric)) (featureGate : String) :
    ∃ gates, getFeatureGates order (.ok families) = .ok gates ∧
      (∀ order', gates.isEnabledAnyStage order' featureGate = true ↔
        ∃ stage metric, lastSample featureGate stage (samples families) = some metric ∧
          metric.gaugeValue = some 1) ∧
      ∀ stage,
        (∀ order' order'', gates.isEnabled order' featureGate stage =
          gates.isEnabled order'' featureGate stage) ↔
        ∀ first second metric metric',
          Strings.toUpper first = stage → Strings.toUpper second = stage →
          lastSample featureGate first (samples families) = some metric →
            lastSample featureGate second (samples families) = some metric' →
              (metric.gaugeValue = some 1 ↔ metric'.gaugeValue = some 1) := by
  have read := getFeatureGates_ok order families
  have entries := entry_getFeatureGates read featureGate
  refine ⟨_, read, fun order' => ?_, fun stage => ?_⟩
  · rw [isEnabledAnyStage_iff_entry]
    simp only [entries, Option.map_eq_some_iff, Metric.enabled, decide_eq_true_eq]
  · rw [isEnabled_deterministic_iff]
    simp only [entries, Option.map_eq_some_iff]
    constructor
    · intro agree first second metric metric' firstSpelled secondSpelled firstLast secondLast
      have same := agree first second _ _ firstSpelled secondSpelled ⟨metric, firstLast, rfl⟩
        ⟨metric', secondLast, rfl⟩
      simpa [Metric.enabled] using same
    · rintro agree first second _ _ firstSpelled secondSpelled ⟨metric, firstLast, rfl⟩
        ⟨metric', secondLast, rfl⟩
      have same := agree first second metric metric' firstSpelled secondSpelled firstLast secondLast
      simp [Metric.enabled, same]

end FeatureGates

end KubeStartupCPUBoost
