import MarketScanner.Library.Fallible
import MarketScanner.Decision.Models
import MarketScanner.Market.Calendar

/-! Decision Rules v1 and the evaluator that aggregates them. The rules get `now` from the engine,
which always passes it. -/
namespace MarketScanner.Decisions
open MarketScanner.Library MarketScanner.Python MarketScanner.Config MarketScanner.Core
open MarketScanner.MarketCalendar

def requiredFeatureKeys : List String :=
  ["price","ema20","ema50","ema200","adx14","relative_volume","resistance_level"]

def candidateRequiredFeatureKeys : List String := ["price","adx14","relative_volume"]

def requiredFeaturesByScanner : List (String × List String) := [("breakout_v1",requiredFeatureKeys)]

def trendStackScanners : List String := ["breakout_v1"]

def resistanceProximityScanners : List String := ["breakout_v1","pre_breakout_v1"]

section Rules
variable [Builtins]

/-- `str(x)` of a float, also inside an f-string. -/
def floatText (x : PyFloat) : String := (PyValue.float x).toStr

def passOrFail (passed : Bool) : RuleStatus := if passed then .pass else .fail

/-- The outcome of a rule: an exception where a feature that it reads is an int past the floats. -/
abbrev RuleOutcome := Except PyException RuleResult

def checkRequiredFeatures (candidate : DecisionCandidate) (_ : Settings) (_ : DateTime) : RuleOutcome :=
  let required := (requiredFeaturesByScanner.lookup candidate.scannerName).getD
    candidateRequiredFeatureKeys
  let missing := DecisionValidator.missingFeatures candidate.featureSnapshot required
  .ok (if missing.isEmpty then
    ⟨"required_features",.pass,some "all present",some "all present",
      "all required features are present and valid"⟩
  else
    ⟨"required_features",.fail,some (String.intercalate ", " missing),some "all present",
      "missing/invalid required feature(s): " ++ String.intercalate ", " missing⟩)

/-- The date of the underlying features where the scanner recorded it, else the scan date. -/
def effectiveFreshnessDate (candidate : DecisionCandidate) : Date × String :=
  match candidate.featureSnapshot.get "feature_date" with
  | .str raw =>
    match Builtins.dateFromIso raw with
    | some date => (date,"underlying feature data")
    | none => (candidate.scanDate,"scanner result")
  | _ => (candidate.scanDate,"scanner result")

def checkDataFreshness (candidate : DecisionCandidate) (settings : Settings) (now : DateTime) :
    RuleOutcome :=
  let today := (toMarketTime now settings.marketTimezone).date
  let (effectiveDate,dateSource) := effectiveFreshnessDate candidate
  let fresh := DecisionValidator.isFresh effectiveDate settings.decisionMaxDataAgeDays today
  .ok ⟨"data_freshness",passOrFail fresh,some effectiveDate.isoformat,
    some s!"within {settings.decisionMaxDataAgeDays} day(s) of today",
    if fresh then s!"{dateSource} is current"
    else s!"{dateSource} dated {effectiveDate.isoformat} is stale"⟩

/-- The rules that compare one number with a minimum; `value` is what the candidate offers. -/
def checkAtLeast (ruleName : String) (value : Option PyFloat) (minimum : PyFloat)
    (missing confirmed tooLow : String) : RuleResult :=
  let required := ">= " ++ floatText minimum
  match value with
  | none => ⟨ruleName,.fail,none,some required,missing⟩
  | some x =>
    let passed := minimum.le x
    ⟨ruleName,passOrFail passed,some (floatText x),some required,
      if passed then confirmed else tooLow⟩

def checkMinimumScore (candidate : DecisionCandidate) (settings : Settings) (_ : DateTime) : RuleOutcome :=
  .ok (checkAtLeast "minimum_score" (some candidate.score) settings.decisionMinAlertScore
    "" "scanner score meets the minimum alert threshold"
    "scanner score is below the minimum alert threshold")

def checkTrend (candidate : DecisionCandidate) (_ : Settings) (_ : DateTime) : RuleOutcome :=
  if trendStackScanners.contains candidate.scannerName then do
    let ema20 ← DecisionValidator.asFloat candidate.featureSnapshot "ema20"
    let ema50 ← DecisionValidator.asFloat candidate.featureSnapshot "ema50"
    let ema200 ← DecisionValidator.asFloat candidate.featureSnapshot "ema200"
    match ema20, ema50, ema200 with
    | some ema20, some ema50, some ema200 =>
      let passed := ema50.lt ema20 && ema200.lt ema50
      .ok ⟨"trend",passOrFail passed,
        some s!"ema20={floatText ema20}, ema50={floatText ema50}, ema200={floatText ema200}",
        some "EMA20 > EMA50 > EMA200",
        if passed then "trend is aligned (uptrend)" else "EMA stack is not aligned"⟩
    | _, _, _ =>
      .ok ⟨"trend",.fail,none,some "EMA20 > EMA50 > EMA200","one or more EMA values are missing"⟩
  else .ok ⟨"trend",.pass,none,none,s!"not applicable for {candidate.scannerName}"⟩

def checkRelativeVolume (candidate : DecisionCandidate) (settings : Settings) (_ : DateTime) :
    RuleOutcome := do
  let rvol ← DecisionValidator.asFloat candidate.featureSnapshot "relative_volume"
  .ok (checkAtLeast "relative_volume" rvol settings.decisionMinRvol
    "relative volume is missing" "relative volume confirms increased participation"
    "relative volume is below the required threshold")

def checkAdx (candidate : DecisionCandidate) (settings : Settings) (_ : DateTime) : RuleOutcome := do
  let adx ← DecisionValidator.asFloat candidate.featureSnapshot "adx14"
  .ok (checkAtLeast "adx" adx settings.decisionMinAdx "ADX is missing" "trend strength confirmed"
    "trend strength is too weak")

/-- `abs(price - resistance) / resistance * 100.0`, in doubles. -/
def distancePct (price resistance : PyFloat) : PyFloat :=
  (((price.sub resistance).rounded.abs.div resistance).rounded.mul (.finite 100)).rounded

def checkResistanceProximity (candidate : DecisionCandidate) (settings : Settings) (_ : DateTime) :
    RuleOutcome :=
  if resistanceProximityScanners.contains candidate.scannerName then do
    let required := "<= " ++ floatText settings.decisionResistanceDistancePercent ++ "%"
    let missing : RuleResult :=
      ⟨"resistance_proximity",.fail,none,some required,"price or resistance level is missing"⟩
    let price ← DecisionValidator.asFloat candidate.featureSnapshot "price"
    let resistance ← DecisionValidator.asFloat candidate.featureSnapshot "resistance_level"
    match price, resistance with
    | some price, some resistance =>
      if resistance.eq (.finite 0) then .ok missing
      else
        let distance := distancePct price resistance
        let passed := distance.le settings.decisionResistanceDistancePercent
        .ok ⟨"resistance_proximity",passOrFail passed,some (distance.format2 ++ "%"),some required,
          if passed then "price is approaching the breakout/resistance level"
          else "price is too far from the breakout/resistance level"⟩
    | _, _ => .ok missing
  else .ok ⟨"resistance_proximity",.pass,none,none,s!"not applicable for {candidate.scannerName}"⟩

/-- The only rule that warns: outside the session it caps an ALERT at WATCH. -/
def checkMarketSession (_ : DecisionCandidate) (settings : Settings) (now : DateTime) : RuleOutcome :=
  let openNow := isMarketOpen settings now
  .ok ⟨"market_session",if openNow then .pass else .warning,some (if openNow then "open" else "closed"),
    some "open",
    if openNow then "market is open — live alert eligible"
    else "market is closed — signal downgraded to WATCH"⟩

/-- `RULES`, in the order of evaluation. -/
def rules : List (DecisionCandidate → Settings → DateTime → RuleOutcome) :=
  [checkRequiredFeatures,checkDataFreshness,checkMinimumScore,checkTrend,checkRelativeVolume,
    checkAdx,checkResistanceProximity,checkMarketSession]

end Rules

namespace DecisionEvaluator

def dataQualityRules : List String := ["required_features","data_freshness"]

def coreAlertRules : List String :=
  ["minimum_score","trend","relative_volume","adx","resistance_proximity"]

/-- Names of the rules with a status, in order. -/
def namesWith (ruleResults : List RuleResult) (status : RuleStatus) : List String :=
  (ruleResults.filter fun r => r.status == status).map RuleResult.ruleName

/-- Decision and quality from the rule results. -/
def verdict (settings : Settings) (score : PyFloat) (ruleResults : List RuleResult) :
    Decision × Option Quality :=
  let dataQualityFailed := dataQualityRules.any (namesWith ruleResults .fail).contains
  let coreRulesPassed := coreAlertRules.all (namesWith ruleResults .pass).contains
  let marketOpen := !(namesWith ruleResults .warning).contains "market_session"
  if dataQualityFailed then (.reject,none)
  else if coreRulesPassed && marketOpen then
    (.alert,some (if settings.alertHighPriorityScore.le score then .high else .medium))
  else (.watch,some .low)

def evaluate [Builtins] (settings : Settings) (candidate : DecisionCandidate) (now : DateTime) :
    Except PyException DecisionResult := do
  let ruleResults ← rules.mapM fun rule => rule candidate settings now
  let (decision,quality) := verdict settings candidate.score ruleResults
  .ok {
    symbol := candidate.symbol
    scannerName := candidate.scannerName
    signalType := candidate.signalType
    decision := decision
    score := candidate.score
    quality := quality
    passedRules := namesWith ruleResults .pass
    failedRules := namesWith ruleResults .fail
    warnings := namesWith ruleResults .warning
    featureSnapshot := candidate.featureSnapshot
    timestamp := now
    ruleResults := ruleResults }

end DecisionEvaluator

/-! ### Reading features -/

section Spec
variable [Builtins] (candidate : DecisionCandidate) (settings : Settings) (now : DateTime)

/-- `as_float` raises just on what overflows. -/
theorem DecisionValidator.asFloat_cases (d : Dict) (key : String) :
    (PyValue.overflows (d.get key) = false ∧ ∃ x, asFloat d key = .ok x) ∨
      PyValue.overflows (d.get key) = true ∧ asFloat d key = .error .overflowError := by
  unfold asFloat
  cases d.get key with
  | none => exact .inl ⟨rfl,_,rfl⟩
  | bool b => exact .inl ⟨rfl,_,rfl⟩
  | float x => exact .inl ⟨rfl,_,rfl⟩
  | list xs => exact .inl ⟨rfl,_,rfl⟩
  | dict kvs => exact .inl ⟨rfl,_,rfl⟩
  | str s =>
    simp only [PyValue.toFloat]
    cases Builtins.floatOfStr s with
    | none => exact .inl ⟨rfl,by split <;> exact ⟨_,rfl⟩⟩
    | some x => exact .inl ⟨rfl,by split <;> exact ⟨_,rfl⟩⟩
  | int n =>
    simp only [PyValue.toFloat, PyValue.overflows]
    cases PyFloat.ofInt n with
    | none => exact .inr ⟨rfl,rfl⟩
    | some x => exact .inl ⟨rfl,_,rfl⟩

def trendKeys : List String :=
  if trendStackScanners.contains candidate.scannerName then ["ema20","ema50","ema200"] else []

def resistanceProximityKeys : List String :=
  if resistanceProximityScanners.contains candidate.scannerName then ["price","resistance_level"] else []

/-- A rule that reads the given features: it returns one result, of its own name and no warning, unless one
of the features overflows. -/
def Reads (keys : List String) (ruleName : String) (outcome : RuleOutcome) : Prop :=
  (∀ key ∈ keys, PyValue.overflows (candidate.featureSnapshot.get key) = false) ∧
      (∃ r, outcome = .ok r ∧ r.ruleName = ruleName ∧ r.status ≠ .warning) ∨
    (∃ key ∈ keys, PyValue.overflows (candidate.featureSnapshot.get key) = true) ∧
      outcome = .error .overflowError

omit [Builtins] in
theorem reads_ok {ruleName : String} {r : RuleResult} (hname : r.ruleName = ruleName)
    (hstatus : r.status ≠ .warning) : Reads candidate [] ruleName (.ok r) :=
  .inl ⟨by simp,r,rfl,hname,hstatus⟩

/-- A rule reads one feature and then those that are read on. -/
theorem reads_asFloat {key ruleName : String} {keys : List String} {next : Option PyFloat → RuleOutcome}
    (h : ∀ x, Reads candidate keys ruleName (next x)) :
    Reads candidate (key::keys) ruleName
      (DecisionValidator.asFloat candidate.featureSnapshot key >>= next) := by
  rcases DecisionValidator.asFloat_cases candidate.featureSnapshot key with ⟨hfine,x,hx⟩ | ⟨hover,hraise⟩
  · rw [hx]
    rcases h x with ⟨hkeys,hr⟩ | ⟨⟨k,hk,hover⟩,hraise⟩
    · exact .inl ⟨List.forall_mem_cons.mpr ⟨hfine,hkeys⟩,hr⟩
    · exact .inr ⟨⟨k,List.mem_cons_of_mem _ hk,hover⟩,hraise⟩
  · rw [hraise]
    exact .inr ⟨⟨key,List.mem_cons_self,hover⟩,rfl⟩

omit [Builtins] in
theorem passOrFail_ne_warning (passed : Bool) : passOrFail passed ≠ .warning := by
  cases passed <;> decide

/-- A minimum check never warns and carries the name it was given. -/
theorem reads_checkAtLeast (ruleName : String) (value : Option PyFloat) (minimum : PyFloat)
    (missing confirmed tooLow : String) :
    Reads candidate [] ruleName (.ok (checkAtLeast ruleName value minimum missing confirmed tooLow)) := by
  cases value with
  | none => exact reads_ok candidate rfl (by simp [checkAtLeast])
  | some x => exact reads_ok candidate rfl (passOrFail_ne_warning _)

omit [Builtins] in
theorem reads_checkRequiredFeatures :
    Reads candidate [] "required_features" (checkRequiredFeatures candidate settings now) := by
  unfold checkRequiredFeatures
  dsimp only
  split
  · exact reads_ok candidate rfl (by simp)
  · exact reads_ok candidate rfl (by simp)

theorem reads_checkDataFreshness :
    Reads candidate [] "data_freshness" (checkDataFreshness candidate settings now) :=
  reads_ok candidate rfl (passOrFail_ne_warning _)

theorem reads_checkMinimumScore :
    Reads candidate [] "minimum_score" (checkMinimumScore candidate settings now) :=
  reads_checkAtLeast candidate _ _ _ _ _ _

theorem reads_checkTrend :
    Reads candidate (trendKeys candidate) "trend" (checkTrend candidate settings now) := by
  unfold checkTrend trendKeys
  split
  · refine reads_asFloat candidate fun ema20 => reads_asFloat candidate fun ema50 =>
      reads_asFloat candidate fun ema200 => ?_
    split
    · exact reads_ok candidate rfl (passOrFail_ne_warning _)
    · exact reads_ok candidate rfl (by simp)
  · exact reads_ok candidate rfl (by simp)

theorem reads_checkRelativeVolume :
    Reads candidate ["relative_volume"] "relative_volume" (checkRelativeVolume candidate settings now) :=
  reads_asFloat candidate fun _ => reads_checkAtLeast candidate _ _ _ _ _ _

theorem reads_checkAdx : Reads candidate ["adx14"] "adx" (checkAdx candidate settings now) :=
  reads_asFloat candidate fun _ => reads_checkAtLeast candidate _ _ _ _ _ _

theorem reads_checkResistanceProximity :
    Reads candidate (resistanceProximityKeys candidate) "resistance_proximity"
      (checkResistanceProximity candidate settings now) := by
  unfold checkResistanceProximity resistanceProximityKeys
  split
  · refine reads_asFloat candidate fun price => reads_asFloat candidate fun resistance => ?_
    split
    · split
      · exact reads_ok candidate rfl (by simp)
      · exact reads_ok candidate rfl (passOrFail_ne_warning _)
    · exact reads_ok candidate rfl (by simp)
  · exact reads_ok candidate rfl (by simp)

/-- The features that some rule reads as floats. -/
def floatKeys : List String :=
  trendKeys candidate ++ "relative_volume"::"adx14"::resistanceProximityKeys candidate

/-! ### The evaluator -/

/-- The rule returns a result with the status. -/
def Gives (outcome : RuleOutcome) (status : RuleStatus) : Prop := ∃ r, outcome = .ok r ∧ r.status = status

omit [Builtins] in
theorem gives_ok_iff {r : RuleResult} {status : RuleStatus} : Gives (.ok r) status ↔ r.status = status := by
  constructor
  · rintro ⟨r',hr',hstatus⟩
    obtain rfl := Except.ok.inj hr'
    exact hstatus
  · exact fun hstatus => ⟨r,rfl,hstatus⟩

namespace Reads
variable {candidate} {keys : List String} {ruleName : String} {outcome : RuleOutcome}
  (h : Reads candidate keys ruleName outcome)
include h

omit [Builtins] in
theorem exists_ok_iff : (∃ r, outcome = .ok r) ↔
    ∀ key ∈ keys, PyValue.overflows (candidate.featureSnapshot.get key) = false := by
  rcases h with ⟨hkeys,r,hr,-⟩ | ⟨⟨key,hkey,hover⟩,hraise⟩
  · exact iff_of_true ⟨r,hr⟩ hkeys
  · refine iff_of_false ?_ fun hkeys => ?_
    · rintro ⟨r,hr⟩
      cases hraise.symm.trans hr
    · cases hover.symm.trans (hkeys key hkey)

omit [Builtins] in
/-- What it returns is listed under its name, with its status. -/
theorem listed_iff {status : RuleStatus} {name : String} :
    (∃ r, outcome = .ok r ∧ r.status = status ∧ r.ruleName = name) ↔
      Gives outcome status ∧ ruleName = name := by
  rcases h with ⟨-,r,rfl,hname,-⟩ | ⟨-,hraise⟩
  · constructor
    · rintro ⟨r',hr',hstatus,rfl⟩
      obtain rfl := Except.ok.inj hr'
      exact ⟨⟨r,rfl,hstatus⟩,hname.symm⟩
    · rintro ⟨⟨r',hr',hstatus⟩,rfl⟩
      obtain rfl := Except.ok.inj hr'
      exact ⟨r,rfl,hstatus,hname⟩
  · rw [hraise]
    exact iff_of_false (fun ⟨_,hr,_⟩ => by cases hr) fun ⟨⟨_,hr,_⟩,_⟩ => by cases hr

omit [Builtins] in
/-- Where it returns, it fails or passes. -/
theorem fail_iff_not_pass (hok : ∃ r, outcome = .ok r) : Gives outcome .fail ↔ ¬Gives outcome .pass := by
  obtain ⟨r,hr⟩ := hok
  rcases h with ⟨-,r',hr',-,hwarning⟩ | ⟨-,hraise⟩
  · obtain rfl := Except.ok.inj (hr.symm.trans hr')
    have hgives : ∀ status, Gives outcome status ↔ r.status = status := by
      intro status
      constructor
      · rintro ⟨r',hr',hstatus⟩
        obtain rfl := Except.ok.inj (hr.symm.trans hr')
        exact hstatus
      · exact fun hstatus => ⟨r,hr,hstatus⟩
    rw [hgives, hgives]
    cases hstatus : r.status with
    | pass => simp
    | fail => simp
    | warning => exact absurd hstatus hwarning
  · cases hraise.symm.trans hr

end Reads

namespace DecisionEvaluator

omit [Builtins] in
theorem mem_namesWith {ruleResults : List RuleResult} {status : RuleStatus} {name : String} :
    name ∈ namesWith ruleResults status ↔
      ∃ r ∈ ruleResults, r.status = status ∧ r.ruleName = name := by
  simp [namesWith, and_assoc]

omit [Builtins] in
theorem verdict_alert_iff (score : PyFloat) (ruleResults : List RuleResult) :
    (verdict settings score ruleResults).1 = .alert ↔
      (∀ name ∈ dataQualityRules, name ∉ namesWith ruleResults .fail) ∧
      (∀ name ∈ coreAlertRules, name ∈ namesWith ruleResults .pass) ∧
      "market_session" ∉ namesWith ruleResults .warning := by
  unfold verdict
  by_cases hquality : ∀ name ∈ dataQualityRules, name ∉ namesWith ruleResults .fail
  · have hany : dataQualityRules.any (namesWith ruleResults .fail).contains = false := by
      simpa using hquality
    rw [hany]
    by_cases hcore : (∀ name ∈ coreAlertRules, name ∈ namesWith ruleResults .pass) ∧
        "market_session" ∉ namesWith ruleResults .warning
    · have hall : (coreAlertRules.all (namesWith ruleResults .pass).contains &&
          !(namesWith ruleResults .warning).contains "market_session") = true := by
        simpa using hcore
      simp only [hall]
      simpa using ⟨hquality,hcore⟩
    · have hall : (coreAlertRules.all (namesWith ruleResults .pass).contains &&
          !(namesWith ruleResults .warning).contains "market_session") = false := by
        rw [Bool.eq_false_iff]
        intro h
        exact hcore (by simpa using h)
      simp only [hall]
      constructor
      · intro h
        contradiction
      · rintro ⟨-,h⟩
        exact absurd h hcore
  · have hany : dataQualityRules.any (namesWith ruleResults .fail).contains = true := by
      rw [← Bool.not_eq_false]
      intro h
      exact hquality (by simpa using h)
    rw [hany]
    constructor
    · intro h
      contradiction
    · rintro ⟨h,-⟩
      exact absurd h hquality

variable {candidate settings now} {ruleResults : List RuleResult}

/-- The results of the rules, in their order. -/
def Results (candidate : DecisionCandidate) (settings : Settings) (now : DateTime)
    (ruleResults : List RuleResult) : Prop :=
  List.Forall₂ (fun rule r => rule candidate settings now = .ok r) rules ruleResults

/-- The results with a status are listed under the names of their rules. -/
theorem mem_namesWith_results (h : Results candidate settings now ruleResults) {status : RuleStatus}
    {name : String} : name ∈ namesWith ruleResults status ↔
      Gives (checkRequiredFeatures candidate settings now) status ∧ "required_features" = name ∨
      Gives (checkDataFreshness candidate settings now) status ∧ "data_freshness" = name ∨
      Gives (checkMinimumScore candidate settings now) status ∧ "minimum_score" = name ∨
      Gives (checkTrend candidate settings now) status ∧ "trend" = name ∨
      Gives (checkRelativeVolume candidate settings now) status ∧ "relative_volume" = name ∨
      Gives (checkAdx candidate settings now) status ∧ "adx" = name ∨
      Gives (checkResistanceProximity candidate settings now) status ∧ "resistance_proximity" = name ∨
      Gives (checkMarketSession candidate settings now) status ∧ "market_session" = name := by
  have hsession : (∃ r, checkMarketSession candidate settings now = .ok r ∧ r.status = status ∧
      r.ruleName = name) ↔
        Gives (checkMarketSession candidate settings now) status ∧ "market_session" = name := by
    simp [checkMarketSession, Gives]
  rw [mem_namesWith, exists_mem_results_iff h]
  simp only [rules, List.exists_mem_cons_iff, List.not_mem_nil, false_and, exists_false, or_false,
    (reads_checkRequiredFeatures candidate settings now).listed_iff,
    (reads_checkDataFreshness candidate settings now).listed_iff,
    (reads_checkMinimumScore candidate settings now).listed_iff,
    (reads_checkTrend candidate settings now).listed_iff,
    (reads_checkRelativeVolume candidate settings now).listed_iff,
    (reads_checkAdx candidate settings now).listed_iff,
    (reads_checkResistanceProximity candidate settings now).listed_iff, hsession]

/-- What `evaluate` makes of the results. -/
theorem evaluate_ok_iff {result : DecisionResult} : evaluate settings candidate now = .ok result ↔
    ∃ ruleResults, Results candidate settings now ruleResults ∧ result =
      { symbol := candidate.symbol
        scannerName := candidate.scannerName
        signalType := candidate.signalType
        decision := (verdict settings candidate.score ruleResults).1
        score := candidate.score
        quality := (verdict settings candidate.score ruleResults).2
        passedRules := namesWith ruleResults .pass
        failedRules := namesWith ruleResults .fail
        warnings := namesWith ruleResults .warning
        featureSnapshot := candidate.featureSnapshot
        timestamp := now
        ruleResults := ruleResults } := by
  unfold evaluate Results
  rw [except_bind_eq_ok_iff]
  simp only [mapM_eq_ok_iff]
  exact exists_congr fun ruleResults => and_congr_right fun _ =>
    ⟨fun h => (Except.ok.inj h).symm,fun h => congrArg Except.ok h.symm⟩

/-- Every rule returns just where nothing that is read as a float overflows. -/
theorem exists_results_iff : (∃ ruleResults, Results candidate settings now ruleResults) ↔
    ∀ key ∈ floatKeys candidate, PyValue.overflows (candidate.featureSnapshot.get key) = false := by
  have hall : (∃ results, rules.mapM (fun rule => rule candidate settings now) = .ok results) ↔
      ∀ rule ∈ rules, ∃ result, rule candidate settings now = .ok result := exists_mapM_eq_ok_iff
  simp only [mapM_eq_ok_iff] at hall
  unfold Results
  rw [hall]
  have hsession : ∃ r, checkMarketSession candidate settings now = .ok r := ⟨_,rfl⟩
  simp only [rules, List.forall_mem_cons, List.not_mem_nil, false_imp_iff, implies_true, and_true, true_and,
    floatKeys, List.forall_mem_append, hsession,
    (reads_checkRequiredFeatures candidate settings now).exists_ok_iff,
    (reads_checkDataFreshness candidate settings now).exists_ok_iff,
    (reads_checkMinimumScore candidate settings now).exists_ok_iff,
    (reads_checkTrend candidate settings now).exists_ok_iff,
    (reads_checkRelativeVolume candidate settings now).exists_ok_iff,
    (reads_checkAdx candidate settings now).exists_ok_iff,
    (reads_checkResistanceProximity candidate settings now).exists_ok_iff]

/-- A candidate is decided on just where nothing that is read as a float overflows. -/
theorem exists_evaluate_iff : (∃ result, evaluate settings candidate now = .ok result) ↔
    ∀ key ∈ floatKeys candidate, PyValue.overflows (candidate.featureSnapshot.get key) = false := by
  have hresults : (∃ ruleResults, Results candidate settings now ruleResults) ↔ _ := exists_results_iff
  rw [← hresults]
  simp only [evaluate_ok_iff]
  constructor
  · rintro ⟨_,ruleResults,h,-⟩
    exact ⟨ruleResults,h⟩
  · rintro ⟨ruleResults,h⟩
    exact ⟨_,ruleResults,h,rfl⟩

/-- A candidate becomes an ALERT exactly when every rule passes. -/
theorem evaluate_alert_iff {result : DecisionResult} (h : evaluate settings candidate now = .ok result) :
    result.decision = .alert ↔ ∀ rule ∈ rules, Gives (rule candidate settings now) .pass := by
  obtain ⟨ruleResults,hresults,rfl⟩ := evaluate_ok_iff.mp h
  have hrequired := (reads_checkRequiredFeatures candidate settings now).fail_iff_not_pass ?_
  have hfreshness := (reads_checkDataFreshness candidate settings now).fail_iff_not_pass ?_
  · have hsession : ¬Gives (checkMarketSession candidate settings now) .warning ↔
        Gives (checkMarketSession candidate settings now) .pass := by
      unfold checkMarketSession Gives
      cases isMarketOpen settings now <;> simp
    show (verdict settings candidate.score ruleResults).1 = .alert ↔ _
    rw [verdict_alert_iff]
    simp only [mem_namesWith_results hresults, dataQualityRules, coreAlertRules, List.forall_mem_cons]
    simp [rules, hrequired, hfreshness, hsession, and_assoc]
  · exact ⟨_,rfl⟩
  · exact ⟨_,rfl⟩

/-- Where every rule passes, the candidate is decided on. -/
theorem exists_alert_iff : (∃ result, evaluate settings candidate now = .ok result ∧
    result.decision = .alert) ↔ ∀ rule ∈ rules, Gives (rule candidate settings now) .pass := by
  constructor
  · rintro ⟨result,hresult,halert⟩
    exact (evaluate_alert_iff hresult).mp halert
  · intro hpass
    obtain ⟨ruleResults,h⟩ : ∃ results, rules.mapM (fun rule => rule candidate settings now) = .ok results :=
      exists_mapM_eq_ok_iff.mpr fun rule hrule => (hpass rule hrule).imp fun _ h => h.1
    have hresult := evaluate_ok_iff.mpr ⟨ruleResults,mapM_eq_ok_iff.mp h,rfl⟩
    exact ⟨_,hresult,(evaluate_alert_iff hresult).mpr hpass⟩

/-- The evaluator grades every ALERT. -/
theorem quality_of_alert {result : DecisionResult} (h : evaluate settings candidate now = .ok result)
    (halert : result.decision = .alert) : result.quality ≠ none := by
  obtain ⟨ruleResults,-,rfl⟩ := evaluate_ok_iff.mp h
  revert halert
  simp only [verdict]
  split
  · intro halert
    contradiction
  · split <;> simp

end DecisionEvaluator
end Spec
end MarketScanner.Decisions
