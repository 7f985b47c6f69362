import KubeStartupCPUBoost.GoText
import Mathlib.Algebra.Group.Nat.Defs
import Mathlib.Data.List.Induction
import Mathlib.Data.List.Pairwise
import Mathlib.Data.List.ReduceOption

/-!
# The configuration read from the environment

Eleven loaders are called one after another, each for one variable.  Those whose
variable is parsed take the list of errors so far and return it with a new error
added; when there is no new error they return the empty list instead, because
their named result is not set.  The errors that are left in the end are therefore
those of the last loaders, back to the last one that had no error.

`loadConfig_reports_iff` says for which environments every error is reported.
-/

namespace KubeStartupCPUBoost

inductive NumErrorReason where
  | invalidSyntax
  | outOfRange
deriving DecidableEq

/-- `strconv.NumError`. -/
structure NumError where
  func : String
  num : String
  reason : NumErrorReason
deriving DecidableEq

def NumError.text (err : NumError) : String :=
  "strconv." ++ err.func ++ ": parsing " ++ Strconv.quote err.num ++ ": " ++
    match err.reason with
    | .invalidSyntax => "invalid syntax"
    | .outOfRange => "value out of range"

/-- The digits of an unsigned 64-bit number, from a value read so far.  A number
that is too large is noticed at the digit that makes it so. -/
def parseDigits (value : Nat) : List Char → Except NumErrorReason Nat
  | [] => .ok value
  | char :: rest =>
      if ¬ char.isDigit then .error .invalidSyntax
      else
        let next := value * 10 + (char.toNat - '0'.toNat)
        if next ≥ 2 ^ 64 then .error .outOfRange else parseDigits next rest

/-- A signed 64-bit number: the value and whether it could be read.  A number out
of range gives the nearest value that is in range. -/
def parseSigned (negative : Bool) (digits : List Char) : Int64 × Option NumErrorReason :=
  match digits with
  | [] => (0, some .invalidSyntax)
  | _ =>
      match parseDigits 0 digits with
      | .error .invalidSyntax => (0, some .invalidSyntax)
      | .error .outOfRange =>
          (if negative then Int64.minValue else Int64.maxValue, some .outOfRange)
      | .ok value =>
          if negative then
            if value > 2 ^ 63 then (Int64.minValue, some .outOfRange)
            else (Int64.ofInt (-value), none)
          else if value ≥ 2 ^ 63 then (Int64.maxValue, some .outOfRange)
          else (Int64.ofNat value, none)

/-- `strconv.Atoi`. -/
def atoi (text : String) : Int64 × Option NumError :=
  let parsed :=
    match text.toList with
    | '-' :: digits => parseSigned true digits
    | '+' :: digits => parseSigned false digits
    | digits => parseSigned false digits
  (parsed.1, parsed.2.map fun reason => ⟨"Atoi", text, reason⟩)

/-- `strconv.ParseBool`. -/
def parseBool (text : String) : Bool × Option NumError :=
  if text ∈ ["1", "t", "T", "TRUE", "true", "True"] then (true, none)
  else if text ∈ ["0", "f", "F", "FALSE", "false", "False"] then (false, none)
  else (false, some ⟨"ParseBool", text, .invalidSyntax⟩)

structure Config where
  ns : String
  mgrCheckIntervalSec : Int64
  leaderElection : Bool
  metricsProbeBindAddr : String
  healthProbeBindAddr : String
  secureMetrics : Bool
  zapLogLevel : Int64
  zapDevelopment : Bool
  http2 : Bool
  removeLimits : Bool
  validateFeatureEnabled : Bool
deriving DecidableEq

/-- `LoadDefaults`. -/
def defaultConfig : Config where
  ns := "kube-startup-cpu-boost-system"
  mgrCheckIntervalSec := 5
  leaderElection := false
  metricsProbeBindAddr := ":8080"
  healthProbeBindAddr := ":8081"
  secureMetrics := false
  zapLogLevel := 0
  zapDevelopment := false
  http2 := false
  removeLimits := true
  validateFeatureEnabled := true

def podNamespaceEnvVar : String := "POD_NAMESPACE"
def mgrCheckIntervalSecEnvVar : String := "MGR_CHECK_INTERVAL"
def leaderElectionEnvVar : String := "LEADER_ELECTION"
def metricsProbeBindAddrEnvVar : String := "METRICS_PROBE_BIND_ADDR"
def healthProbeBindAddrEnvVar : String := "HEALTH_PROBE_BIND_ADDR"
def secureMetricsEnvVar : String := "SECURE_METRICS"
def zapLogLevelEnvVar : String := "ZAP_LOG_LEVEL"
def zapDevelopmentEnvVar : String := "ZAP_DEVELOPMENT"
def http2EnvVar : String := "HTTP2"
def removeLimitsEnvVar : String := "REMOVE_LIMITS"
def validateFeatureEnabledEnvVar : String := "VALIDATE_FEATURE_ENABLED"

/-- The provider: `lookupEnv` says which variables are set to what. -/
structure EnvConfigProvider where
  lookupEnv : String → Option String

/-- The configuration and the errors that one loader hands to the next. -/
abbrev LoadState := Config × List String

namespace EnvConfigProvider

variable (provider : EnvConfigProvider)

def loadText (envVar : String) (assign : String → Config → Config) (state : LoadState) :
    LoadState :=
  match provider.lookupEnv envVar with
  | none => state
  | some text => (assign text state.1, state.2)

/-- A loader that parses the text.  The earlier errors are returned only together
with a new one. -/
def loadParsed {α : Type} (parse : String → α × Option NumError) (expected envVar : String)
    (assign : α → Config → Config) (state : LoadState) : LoadState :=
  match provider.lookupEnv envVar with
  | none => (state.1, [])
  | some text =>
      let parsed := parse text
      (assign parsed.1 state.1,
        match parsed.2 with
        | none => []
        | some err =>
            state.2 ++ [envVar ++ " value is not " ++ expected ++ ": " ++ err.text])

def loadPodNamespace : LoadState → LoadState :=
  provider.loadText podNamespaceEnvVar fun text config => { config with ns := text }

def loadMgrCheckIntervalSec : LoadState → LoadState :=
  provider.loadParsed atoi "an int" mgrCheckIntervalSecEnvVar fun value config =>
    { config with mgrCheckIntervalSec := value }

def loadLeaderElection : LoadState → LoadState :=
  provider.loadParsed parseBool "a bool" leaderElectionEnvVar fun value config =>
    { config with leaderElection := value }

def loadMetricsProbeBindAddr : LoadState → LoadState :=
  provider.loadText metricsProbeBindAddrEnvVar fun text config =>
    { config with metricsProbeBindAddr := text }

def loadHealthProbeBindAddr : LoadState → LoadState :=
  provider.loadText healthProbeBindAddrEnvVar fun text config =>
    { config with healthProbeBindAddr := text }

def loadSecureMetrics : LoadState → LoadState :=
  provider.loadParsed parseBool "a bool" secureMetricsEnvVar fun value config =>
    { config with secureMetrics := value }

def loadZapLogLevel : LoadState → LoadState :=
  provider.loadParsed atoi "an int" zapLogLevelEnvVar fun value config =>
    { config with zapLogLevel := value }

def loadZapDevelopment : LoadState → LoadState :=
  provider.loadParsed parseBool "a bool" zapDevelopmentEnvVar fun value config =>
    { config with zapDevelopment := value }

def loadHTTP2 : LoadState → LoadState :=
  provider.loadParsed parseBool "a bool" http2EnvVar fun value config =>
    { config with http2 := value }

def loadRemoveLimits : LoadState → LoadState :=
  provider.loadParsed parseBool "a bool" removeLimitsEnvVar fun value config =>
    { config with removeLimits := value }

def loadValidateFeatureEnabled : LoadState → LoadState :=
  provider.loadParsed parseBool "a bool" validateFeatureEnabledEnvVar fun value config =>
    { config with validateFeatureEnabled := value }

def load : LoadState :=
  (defaultConfig, [])
    |> provider.loadPodNamespace
    |> provider.loadMgrCheckIntervalSec
    |> provider.loadLeaderElection
    |> provider.loadMetricsProbeBindAddr
    |> provider.loadHealthProbeBindAddr
    |> provider.loadSecureMetrics
    |> provider.loadZapLogLevel
    |> provider.loadZapDevelopment
    |> provider.loadHTTP2
    |> provider.loadRemoveLimits
    |> provider.loadValidateFeatureEnabled

/-- The configuration, with the entries of the joined error if there is one. -/
def loadConfig : Config × Option (List String) :=
  let loaded := provider.load
  (loaded.1, if loaded.2.length > 0 then some loaded.2 else none)

end EnvConfigProvider

/-- A variable that is parsed: what its parser expects, and the error it has for a
text. -/
structure ParsedVariable where
  envVar : String
  expected : String
  numError : String → Option NumError

def intVariable (envVar : String) : ParsedVariable where
  envVar := envVar
  expected := "an int"
  numError text := (atoi text).2

def boolVariable (envVar : String) : ParsedVariable where
  envVar := envVar
  expected := "a bool"
  numError text := (parseBool text).2

/-- The variables that are parsed, in the order they are loaded. -/
def parsedVariables : List ParsedVariable :=
  [intVariable mgrCheckIntervalSecEnvVar, boolVariable leaderElectionEnvVar,
    boolVariable secureMetricsEnvVar, intVariable zapLogLevelEnvVar,
    boolVariable zapDevelopmentEnvVar, boolVariable http2EnvVar, boolVariable removeLimitsEnvVar,
    boolVariable validateFeatureEnabledEnvVar]

namespace EnvConfigProvider

variable (provider : EnvConfigProvider)

/-- The variable is set to a text that its parser does not accept. -/
def Rejects (parsed : ParsedVariable) : Prop :=
  ∃ text, provider.lookupEnv parsed.envVar = some text ∧ parsed.numError text ≠ none

def errorEntry (parsed : ParsedVariable) : Option String :=
  (provider.lookupEnv parsed.envVar).bind fun text =>
    (parsed.numError text).map fun err =>
      parsed.envVar ++ " value is not " ++ parsed.expected ++ ": " ++ err.text

@[simp]
theorem isSome_errorEntry_iff (parsed : ParsedVariable) :
    (provider.errorEntry parsed).isSome = true ↔ provider.Rejects parsed := by
  unfold errorEntry Rejects
  cases provider.lookupEnv parsed.envVar with
  | none => simp
  | some text => simp [Option.isSome_iff_ne_none]

/-- What one loader makes of the errors so far. -/
def keepErrors (errs : List String) : Option String → List String
  | none => []
  | some entry => errs ++ [entry]

@[simp]
theorem loadText_errs (envVar : String) (assign : String → Config → Config) (state : LoadState) :
    (provider.loadText envVar assign state).2 = state.2 := by
  unfold loadText
  cases provider.lookupEnv envVar <;> rfl

theorem loadParsed_errs {α : Type} (parse : String → α × Option NumError)
    (expected envVar : String) (assign : α → Config → Config) (state : LoadState) :
    (provider.loadParsed parse expected envVar assign state).2 =
      keepErrors state.2 (provider.errorEntry ⟨envVar, expected, fun text => (parse text).2⟩) := by
  unfold loadParsed errorEntry
  cases provider.lookupEnv envVar with
  | none => rfl
  | some text =>
      simp only [Option.bind_some]
      cases (parse text).2 <;> rfl

theorem load_errs :
    provider.load.2 = (parsedVariables.map provider.errorEntry).foldl keepErrors [] := by
  simp only [load, loadValidateFeatureEnabled, loadRemoveLimits, loadHTTP2, loadZapDevelopment,
    loadZapLogLevel, loadSecureMetrics, loadHealthProbeBindAddr, loadMetricsProbeBindAddr,
    loadLeaderElection, loadMgrCheckIntervalSec, loadPodNamespace, loadParsed_errs, loadText_errs]
  rfl

theorem foldl_keepErrors_sublist (entries : List (Option String)) :
    (entries.foldl keepErrors []).Sublist entries.reduceOption := by
  induction entries using List.reverseRecOn with
  | nil => exact List.Sublist.refl _
  | append_singleton entries last ih =>
      rw [List.foldl_append, List.reduceOption_append]
      cases last with
      | none => exact List.nil_sublist _
      | some entry => exact List.Sublist.append ih (List.Sublist.refl _)

/-- All errors are left when every variable after a rejected one is rejected
too. -/
theorem foldl_keepErrors_eq_iff (entries : List (Option String)) :
    entries.foldl keepErrors [] = entries.reduceOption ↔
      entries.Pairwise fun earlier later => earlier.isSome = true → later.isSome = true := by
  induction entries using List.reverseRecOn with
  | nil => simp
  | append_singleton entries last ih =>
      rw [List.foldl_append, List.reduceOption_append, List.pairwise_append]
      cases last with
      | none =>
          -- A variable that is accepted at the end drops whatever was there.
          have dropped : entries.reduceOption = [] ↔ ∀ entry ∈ entries, entry = none := by
            rw [List.reduceOption, List.filterMap_eq_nil_iff]
            rfl
          have nothingLeft : [] = entries.reduceOption ++ [none].reduceOption ↔
              ∀ entry ∈ entries, entry = none := by
            rw [List.reduceOption_singleton, Option.toList_none, List.append_nil, eq_comm, dropped]
          refine nothingLeft.trans ⟨fun allNone => ⟨?_, List.pairwise_singleton _ _, ?_⟩, ?_⟩
          · apply List.Pairwise.imp_of_mem _ (List.pairwise_of_forall fun _ _ => trivial)
            intro earlier later earlierMem _ _ isSome
            rw [allNone earlier earlierMem] at isSome
            cases isSome
          · intro earlier earlierMem later _ isSome
            rw [allNone earlier earlierMem] at isSome
            cases isSome
          · rintro ⟨-, -, later⟩ entry member
            cases entry with
            | none => rfl
            | some text => cases later _ member _ (List.mem_singleton_self _) rfl
      | some entry =>
          have extended : (entries.foldl keepErrors [] ++ [entry] =
              entries.reduceOption ++ [some entry].reduceOption) ↔
                entries.foldl keepErrors [] = entries.reduceOption := by
            rw [List.reduceOption_singleton, Option.toList_some, List.append_left_inj]
          refine extended.trans (ih.trans ⟨fun before => ⟨before, ?_, ?_⟩, And.left⟩)
          · exact List.pairwise_singleton _ _
          · intro earlier _ later member _
            rw [List.mem_singleton.mp member]
            rfl

/-- The joined error has one entry for each rejected variable, and there is an
error when there is such a variable. -/
def ReportsEveryError : Prop :=
  ((provider.loadConfig.2.isSome = true) ↔ ∃ parsed ∈ parsedVariables, provider.Rejects parsed) ∧
    (provider.loadConfig.2.getD []).Perm (parsedVariables.map provider.errorEntry).reduceOption

theorem loadConfig_entries : provider.loadConfig.2.getD [] = provider.load.2 := by
  simp only [loadConfig]
  cases provider.load.2 <;> rfl

theorem loadConfig_isSome_iff : provider.loadConfig.2.isSome = true ↔ provider.load.2 ≠ [] := by
  simp only [loadConfig]
  cases provider.load.2 <;> simp

theorem exists_rejects_iff :
    (∃ parsed ∈ parsedVariables, provider.Rejects parsed) ↔
      (parsedVariables.map provider.errorEntry).reduceOption ≠ [] := by
  constructor
  · rintro ⟨parsed, member, rejected⟩ empty
    have noEntry : provider.errorEntry parsed = none :=
      List.filterMap_eq_nil_iff.mp empty _ (List.mem_map_of_mem member)
    rw [← isSome_errorEntry_iff, noEntry] at rejected
    cases rejected
  · intro nonempty
    by_contra noneRejected
    apply nonempty
    rw [List.reduceOption, List.filterMap_eq_nil_iff]
    intro entry member
    obtain ⟨parsed, parsedMem, rfl⟩ := List.mem_map.mp member
    by_contra isEntry
    apply noneRejected
    exact ⟨parsed, parsedMem, (provider.isSome_errorEntry_iff parsed).mp
      (Option.isSome_iff_ne_none.mpr isEntry)⟩

/-- No error is dropped exactly when every variable that is loaded after a
rejected one is rejected as well. -/
theorem loadConfig_reports_iff :
    provider.ReportsEveryError ↔
      parsedVariables.Pairwise fun earlier later =>
        provider.Rejects earlier → provider.Rejects later := by
  have entriesEq : (provider.loadConfig.2.getD []).Perm
      (parsedVariables.map provider.errorEntry).reduceOption ↔
        (parsedVariables.map provider.errorEntry).foldl keepErrors [] =
          (parsedVariables.map provider.errorEntry).reduceOption := by
    rw [loadConfig_entries, load_errs]
    constructor
    · intro permuted
      exact (foldl_keepErrors_sublist _).eq_of_length permuted.length_eq
    · intro same
      exact List.Perm.of_eq same
  have pairs := foldl_keepErrors_eq_iff (parsedVariables.map provider.errorEntry)
  simp only [List.pairwise_map, isSome_errorEntry_iff] at pairs
  rw [← pairs, ← entriesEq, ReportsEveryError, and_iff_right_iff_imp]
  intro permuted
  rw [loadConfig_isSome_iff, exists_rejects_iff, ← loadConfig_entries, ← List.length_pos_iff,
    ← List.length_pos_iff, permuted.length_eq]

end EnvConfigProvider

namespace Reference

def wordyInterval : EnvConfigProvider where
  lookupEnv envVar := if envVar = mgrCheckIntervalSecEnvVar then some "often" else none

/-- The interval is rejected, and no error is returned: the interval is 0. -/
theorem rejected_interval_not_reported :
    wordyInterval.Rejects (intVariable mgrCheckIntervalSecEnvVar) ∧
      wordyInterval.loadConfig = ({ defaultConfig with mgrCheckIntervalSec := 0 }, none) ∧
      ¬ wordyInterval.ReportsEveryError := by
  have rejected : wordyInterval.Rejects (intVariable mgrCheckIntervalSecEnvVar) :=
    ⟨"often", by decide, by decide⟩
  have noError : wordyInterval.loadConfig =
      ({ defaultConfig with mgrCheckIntervalSec := 0 }, none) := by decide
  refine ⟨rejected, noError, ?_⟩
  rintro ⟨reported, -⟩
  rw [noError] at reported
  cases reported.mpr ⟨_, List.mem_cons_self, rejected⟩

/-- Two rejected variables at the end are both reported. -/
example :
    (EnvConfigProvider.mk fun envVar =>
      if envVar ∈ [removeLimitsEnvVar, validateFeatureEnabledEnvVar] then some "no"
      else none).loadConfig.2 =
      some ["REMOVE_LIMITS value is not a bool: strconv.ParseBool: parsing \"no\": invalid syntax",
        "VALIDATE_FEATURE_ENABLED value is not a bool: strconv.ParseBool: parsing \"no\": " ++
          "invalid syntax"] := by
  decide +kernel

end Reference

end KubeStartupCPUBoost
