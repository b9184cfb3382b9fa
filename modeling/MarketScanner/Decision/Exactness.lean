import MarketScanner.Decision.Rules

/-! What decides between REJECT, WATCH and ALERT, and that more score, volume or trend strength never
costs a candidate its decision. A snapshot holds whatever JSON was stored: an int past the floats
raises `OverflowError` where it is read as one. -/
namespace MarketScanner.Decisions
open MarketScanner.Library MarketScanner.Python MarketScanner.Config MarketScanner.Core
open MarketScanner.MarketCalendar

/-! ### The decision -/
section
variable [Builtins] (settings : Settings) (candidate : DecisionCandidate) (now : DateTime)

omit [Builtins] in
/-- A feature that the scanner's candidates need is absent or null. -/
def RequiredMissing : Prop :=
  ∃ key ∈ (requiredFeaturesByScanner.lookup candidate.scannerName).getD candidateRequiredFeatureKeys,
    DecisionValidator.missingSentinel (candidate.featureSnapshot.get key) = true

/-- The features, or for want of their date the scan, are older than they may be. -/
def Stale : Prop :=
  settings.decisionMaxDataAgeDays <
    (toMarketTime now settings.marketTimezone).date.day-(effectiveFreshnessDate candidate).1.day

def coreRules : List (DecisionCandidate → Settings → DateTime → RuleOutcome) :=
  [checkMinimumScore,checkTrend,checkRelativeVolume,checkAdx,checkResistanceProximity]

def CoreRulesPass : Prop := ∀ rule ∈ coreRules, Gives (rule candidate settings now) .pass

omit [Builtins] in
def ruleNames : List String :=
  ["required_features","data_freshness","minimum_score","trend","relative_volume","adx",
    "resistance_proximity","market_session"]

/-- The decision is what the candidate deserves, and every rule is listed once. -/
structure Exact (result : DecisionResult) : Prop where
  reject : result.decision = .reject ↔ RequiredMissing candidate ∨ Stale settings candidate now
  alert : result.decision = .alert ↔ (¬RequiredMissing candidate ∧ ¬Stale settings candidate now) ∧
    CoreRulesPass settings candidate now ∧ isMarketOpen settings now = true
  watch : result.decision = .watch ↔ (¬RequiredMissing candidate ∧ ¬Stale settings candidate now) ∧
    ¬(CoreRulesPass settings candidate now ∧ isMarketOpen settings now = true)
  listed : (result.passedRules ++ result.failedRules ++ result.warnings).Perm ruleNames

omit [Builtins] in
theorem requiredFeatures_pass_iff :
    Gives (checkRequiredFeatures candidate settings now) .pass ↔ ¬RequiredMissing candidate := by
  unfold checkRequiredFeatures RequiredMissing DecisionValidator.missingFeatures Gives
  dsimp only
  split
  · rename_i hempty
    simpa [List.filter_eq_nil_iff] using hempty
  · rename_i hempty
    simpa [List.filter_eq_nil_iff] using hempty

theorem dataFreshness_pass_iff :
    Gives (checkDataFreshness candidate settings now) .pass ↔ ¬Stale settings candidate now := by
  unfold checkDataFreshness Stale passOrFail DecisionValidator.isFresh Gives
  dsimp only
  rw [not_lt]
  split <;> simp_all

omit [Builtins] in
theorem marketSession_pass_iff :
    Gives (checkMarketSession candidate settings now) .pass ↔ isMarketOpen settings now = true := by
  unfold checkMarketSession Gives
  cases isMarketOpen settings now <;> simp

/-- The names of the rules are those of `RULES`, in the order of evaluation. -/
theorem map_ruleName {ruleResults : List RuleResult}
    (h : DecisionEvaluator.Results candidate settings now ruleResults) :
    ruleResults.map RuleResult.ruleName = ruleNames := by
  have hname : ∀ {keys name outcome r}, Reads candidate keys name outcome → outcome = .ok r →
      r.ruleName = name := fun hreads hr => (hreads.listed_iff.mp ⟨_,hr,rfl,rfl⟩).2.symm
  simp only [DecisionEvaluator.Results, rules, List.forall₂_cons_left_iff, List.forall₂_nil_left_iff] at h
  obtain ⟨r₁,_,h₁,⟨r₂,_,h₂,⟨r₃,_,h₃,⟨r₄,_,h₄,⟨r₅,_,h₅,⟨r₆,_,h₆,⟨r₇,_,h₇,⟨r₈,_,h₈,rfl,rfl⟩,rfl⟩,rfl⟩,rfl⟩,
    rfl⟩,rfl⟩,rfl⟩,rfl⟩ := h
  have hsession : r₈.ruleName = "market_session" := by
    rw [← Except.ok.inj h₈]
  simp only [List.map_cons, List.map_nil, hname (reads_checkRequiredFeatures candidate settings now) h₁,
    hname (reads_checkDataFreshness candidate settings now) h₂,
    hname (reads_checkMinimumScore candidate settings now) h₃,
    hname (reads_checkTrend candidate settings now) h₄,
    hname (reads_checkRelativeVolume candidate settings now) h₅,
    hname (reads_checkAdx candidate settings now) h₆,
    hname (reads_checkResistanceProximity candidate settings now) h₇, hsession, ruleNames]

omit [Builtins] in
/-- The three lists of names share out the results. -/
theorem namesWith_perm (ruleResults : List RuleResult) :
    (DecisionEvaluator.namesWith ruleResults .pass ++ DecisionEvaluator.namesWith ruleResults .fail ++
      DecisionEvaluator.namesWith ruleResults .warning).Perm (ruleResults.map RuleResult.ruleName) := by
  induction ruleResults with
  | nil => exact .nil
  | cons r ruleResults ih =>
    simp only [DecisionEvaluator.namesWith, List.filter_cons, List.map_cons] at ih ⊢
    cases r.status with
    | pass => exact ih.cons r.ruleName
    | fail => exact (List.perm_middle.append_right _).trans (ih.cons r.ruleName)
    | warning => exact List.perm_middle.trans (ih.cons r.ruleName)

omit [Builtins] in
theorem verdict_reject_iff (score : PyFloat) (ruleResults : List RuleResult) :
    (DecisionEvaluator.verdict settings score ruleResults).1 = .reject ↔
      ∃ name ∈ DecisionEvaluator.dataQualityRules,
        name ∈ DecisionEvaluator.namesWith ruleResults .fail := by
  unfold DecisionEvaluator.verdict
  dsimp only
  split
  · rename_i hfailed
    exact iff_of_true rfl (by simpa using hfailed)
  · rename_i hfailed
    have hnone : ¬∃ name ∈ DecisionEvaluator.dataQualityRules,
        name ∈ DecisionEvaluator.namesWith ruleResults .fail := by simpa using hfailed
    split <;> exact iff_of_false (by simp) hnone

variable {settings candidate now} {result : DecisionResult}

/-- A candidate is rejected exactly when one of the two checks of its data does not pass. -/
theorem evaluate_reject_iff (h : DecisionEvaluator.evaluate settings candidate now = .ok result) :
    result.decision = .reject ↔ ¬(Gives (checkRequiredFeatures candidate settings now) .pass ∧
      Gives (checkDataFreshness candidate settings now) .pass) := by
  obtain ⟨ruleResults,hresults,rfl⟩ := DecisionEvaluator.evaluate_ok_iff.mp h
  have hrequired := (reads_checkRequiredFeatures candidate settings now).fail_iff_not_pass ⟨_,rfl⟩
  have hfreshness := (reads_checkDataFreshness candidate settings now).fail_iff_not_pass ⟨_,rfl⟩
  show (DecisionEvaluator.verdict settings candidate.score ruleResults).1 = .reject ↔ _
  rw [verdict_reject_iff, not_and_or, ← hrequired, ← hfreshness]
  simp [DecisionEvaluator.mem_namesWith_results hresults, DecisionEvaluator.dataQualityRules]

/-- What the evaluator returns is exact. -/
theorem exact_evaluate (h : DecisionEvaluator.evaluate settings candidate now = .ok result) :
    Exact settings candidate now result := by
  have hreject : result.decision = .reject ↔
      RequiredMissing candidate ∨ Stale settings candidate now := by
    rw [evaluate_reject_iff h, requiredFeatures_pass_iff, dataFreshness_pass_iff]
    tauto
  have halert : result.decision = .alert ↔
      (¬RequiredMissing candidate ∧ ¬Stale settings candidate now) ∧
        CoreRulesPass settings candidate now ∧ isMarketOpen settings now = true := by
    rw [DecisionEvaluator.evaluate_alert_iff h, ← requiredFeatures_pass_iff settings candidate now,
      ← dataFreshness_pass_iff, ← marketSession_pass_iff settings candidate now, CoreRulesPass]
    simp only [rules, coreRules, List.forall_mem_cons]
    tauto
  refine ⟨hreject,halert,?_,?_⟩
  · cases hdecision : result.decision with
    | alert => exact iff_of_false (by decide) fun h => h.2 (halert.mp hdecision).2
    | reject => exact iff_of_false (by decide) fun h => (hreject.mp hdecision).elim h.1.1 h.1.2
    | watch =>
      refine iff_of_true rfl ⟨?_,?_⟩
      · rw [← not_or, ← hreject, hdecision]
        decide
      · intro hcore
        have hdata : ¬RequiredMissing candidate ∧ ¬Stale settings candidate now := by
          rw [← not_or, ← hreject, hdecision]
          decide
        rw [halert.mpr ⟨hdata,hcore⟩] at hdecision
        cases hdecision
  · obtain ⟨ruleResults,hresults,rfl⟩ := DecisionEvaluator.evaluate_ok_iff.mp h
    rw [← map_ruleName settings candidate now hresults]
    exact namesWith_perm _

end

/-! ### Monotonicity -/

/-- REJECT, WATCH, ALERT. -/
def Decision.rank : Decision → ℕ
  | reject => 0
  | watch => 1
  | alert => 2

section
variable [Builtins] {settings : Settings} {c c' : DecisionCandidate} {now : DateTime}

/-- The same value, or a number that is not lower. -/
def NotLower (featureSnapshot featureSnapshot' : Dict) (key : String) : Prop :=
  featureSnapshot.get key = featureSnapshot'.get key ∨
    ∃ x y, DecisionValidator.asFloat featureSnapshot key = .ok (some x) ∧
      DecisionValidator.asFloat featureSnapshot' key = .ok (some y) ∧ x.le y = true

/-- The second candidate differs by a higher score, relative volume or ADX only. -/
structure Strengthens (c c' : DecisionCandidate) : Prop where
  symbol : c.symbol = c'.symbol
  scannerName : c.scannerName = c'.scannerName
  signalType : c.signalType = c'.signalType
  scanDate : c.scanDate = c'.scanDate
  score : c.score = c'.score ∨ c.score.le c'.score = true
  relativeVolume : NotLower c.featureSnapshot c'.featureSnapshot "relative_volume"
  adx : NotLower c.featureSnapshot c'.featureSnapshot "adx14"
  others : ∀ key, key ≠ "relative_volume" → key ≠ "adx14" →
    c.featureSnapshot.get key = c'.featureSnapshot.get key

theorem asFloat_congr {d d' : Dict} {key : String} (h : d.get key = d'.get key) :
    DecisionValidator.asFloat d key = DecisionValidator.asFloat d' key := by
  unfold DecisionValidator.asFloat
  rw [h]

theorem checkAtLeast_pass_iff {ruleName : String} {value : Option PyFloat} {minimum : PyFloat}
    {missing confirmed tooLow : String} :
    (checkAtLeast ruleName value minimum missing confirmed tooLow).status = .pass ↔
      ∃ x, value = some x ∧ minimum.le x = true := by
  cases value with
  | none => simp [checkAtLeast]
  | some x => cases h : minimum.le x <;> simp [checkAtLeast, passOrFail, h]

/-- A minimum that is reached stays reached. -/
theorem checkAtLeast_mono {ruleName missing confirmed tooLow : String} {minimum : PyFloat} {key : String}
    {d d' : Dict} (h : NotLower d d' key)
    (hpass : Gives (DecisionValidator.asFloat d key >>= fun x =>
      .ok (checkAtLeast ruleName x minimum missing confirmed tooLow)) .pass) :
    Gives (DecisionValidator.asFloat d' key >>= fun x =>
      .ok (checkAtLeast ruleName x minimum missing confirmed tooLow)) .pass := by
  rcases h with heq | ⟨x,y,hx,hy,hle⟩
  · rw [← asFloat_congr heq]
    exact hpass
  · rw [hx] at hpass
    rw [hy]
    obtain ⟨z,hz,hmin⟩ := checkAtLeast_pass_iff.mp (gives_ok_iff.mp hpass)
    obtain rfl := Option.some.inj hz
    exact gives_ok_iff.mpr (checkAtLeast_pass_iff.mpr ⟨y,rfl,PyFloat.le_chain hmin hle⟩)

theorem not_missing_of_asFloat {d : Dict} {key : String} {x : PyFloat}
    (h : DecisionValidator.asFloat d key = .ok (some x)) :
    DecisionValidator.missingSentinel (d.get key) = false := by
  unfold DecisionValidator.asFloat at h
  dsimp only at h
  split at h
  · cases h
  · rename_i hmissing
    simpa using hmissing

theorem NotLower.missing {d d' : Dict} {key : String} (h : NotLower d d' key) :
    DecisionValidator.missingSentinel (d'.get key) = DecisionValidator.missingSentinel (d.get key) := by
  rcases h with heq | ⟨x,y,hx,hy,-⟩
  · rw [heq]
  · rw [not_missing_of_asFloat hx, not_missing_of_asFloat hy]

namespace Strengthens
variable (h : Strengthens c c')
include h

theorem missing (key : String) : DecisionValidator.missingSentinel (c'.featureSnapshot.get key) =
    DecisionValidator.missingSentinel (c.featureSnapshot.get key) := by
  by_cases hvolume : key = "relative_volume"
  · exact hvolume ▸ h.relativeVolume.missing
  · by_cases hadx : key = "adx14"
    · exact hadx ▸ h.adx.missing
    · rw [h.others key hvolume hadx]

theorem requiredMissing_iff : RequiredMissing c' ↔ RequiredMissing c := by
  simp only [RequiredMissing, h.scannerName, h.missing]

theorem stale_iff : Stale settings c' now ↔ Stale settings c now := by
  simp only [Stale, effectiveFreshnessDate, h.scanDate, h.others "feature_date" (by decide) (by decide)]

/-- What passes for the first candidate passes for the second. -/
theorem coreRulesPass (hpass : CoreRulesPass settings c now) : CoreRulesPass settings c' now := by
  have hfloat : ∀ key, key ≠ "relative_volume" → key ≠ "adx14" →
      DecisionValidator.asFloat c'.featureSnapshot key = DecisionValidator.asFloat c.featureSnapshot key :=
    fun key hvolume hadx => (asFloat_congr (h.others key hvolume hadx)).symm
  simp only [CoreRulesPass, coreRules, List.forall_mem_cons, List.not_mem_nil, false_imp_iff,
    implies_true, and_true] at hpass ⊢
  obtain ⟨hscore,htrend,hvolume,hadx,hproximity⟩ := hpass
  refine ⟨?_,?_,checkAtLeast_mono h.relativeVolume hvolume,checkAtLeast_mono h.adx hadx,?_⟩
  · obtain ⟨x,hx,hmin⟩ := checkAtLeast_pass_iff.mp (gives_ok_iff.mp hscore)
    obtain rfl := Option.some.inj hx
    refine gives_ok_iff.mpr (checkAtLeast_pass_iff.mpr ⟨_,rfl,?_⟩)
    rcases h.score with heq | hle
    · rwa [← heq]
    · exact PyFloat.le_chain hmin hle
  · simpa only [checkTrend, h.scannerName, hfloat "ema20" (by decide) (by decide),
      hfloat "ema50" (by decide) (by decide), hfloat "ema200" (by decide) (by decide)] using htrend
  · simpa only [checkResistanceProximity, h.scannerName, hfloat "price" (by decide) (by decide),
      hfloat "resistance_level" (by decide) (by decide)] using hproximity

/-- The second candidate is decided on no less favourably. -/
theorem rank_le {result result' : DecisionResult}
    (hresult : DecisionEvaluator.evaluate settings c now = .ok result)
    (hresult' : DecisionEvaluator.evaluate settings c' now = .ok result') :
    result.decision.rank ≤ result'.decision.rank := by
  have hexact := exact_evaluate hresult
  have hexact' := exact_evaluate hresult'
  cases hdecision : result.decision with
  | reject => exact Nat.zero_le _
  | watch =>
    obtain ⟨hdata,-⟩ := hexact.watch.mp hdecision
    rw [← h.requiredMissing_iff, ← h.stale_iff, ← not_or, ← hexact'.reject] at hdata
    cases hdecision' : result'.decision with
    | reject => exact absurd hdecision' hdata
    | watch => exact le_rfl
    | alert => exact Nat.le_succ 1
  | alert =>
    obtain ⟨hdata,hcore,hopen⟩ := hexact.alert.mp hdecision
    rw [← h.requiredMissing_iff, ← h.stale_iff] at hdata
    rw [hexact'.alert.mpr ⟨hdata,h.coreRulesPass hcore,hopen⟩]

end Strengthens
end

/-- The evaluator returns a decision, and it is the one deserved. -/
def EvaluatesExactly [Builtins] (settings : Settings) (candidate : DecisionCandidate) (now : DateTime) :
    Prop :=
  ∃ result, DecisionEvaluator.evaluate settings candidate now = .ok result ∧
    Exact settings candidate now result

/-- Evaluation is exact unless a feature that is read as a float is an int past the floats, and it is
monotone wherever it returns. -/
theorem evaluatesExactly_and_monotone [Builtins] (settings : Settings) (now : DateTime) :
    (∀ candidate, EvaluatesExactly settings candidate now ↔
      ∀ key ∈ floatKeys candidate, PyValue.overflows (candidate.featureSnapshot.get key) = false) ∧
    ∀ c c' : DecisionCandidate, Strengthens c c' → ∀ result result',
      DecisionEvaluator.evaluate settings c now = .ok result →
        DecisionEvaluator.evaluate settings c' now = .ok result' →
          result.decision.rank ≤ result'.decision.rank := by
  constructor
  · intro candidate
    have hresults : (∃ result, DecisionEvaluator.evaluate settings candidate now = .ok result) ↔ _ :=
      DecisionEvaluator.exists_evaluate_iff
    rw [← hresults]
    exact exists_congr fun result => and_iff_left_of_imp exact_evaluate
  · exact fun c c' h result result' hresult hresult' => h.rank_le hresult hresult'

/-- A momentum candidate with the given score and volume. -/
def momentumCandidate (score : ℚ) (relativeVolume : PyValue) : DecisionCandidate where
  symbol := "INFY"
  scannerName := "fno_momentum_v1"
  signalType := "FNO_MOMENTUM"
  score := .finite score
  scanDate := Date.ofCivil 2026 1 6
  featureSnapshot := [("price",.int 1500),("adx14",.int 30),("relative_volume",relativeVolume)]

theorem evaluatesExactly_and_monotone_momentum :
    let _ := Builtins.tabulated [] [] []
    let now := DateTime.ofUtc (Date.ofCivil 2026 1 6) 270
    EvaluatesExactly {} (momentumCandidate 85 (.int 3)) now ∧
      ∀ result result', DecisionEvaluator.evaluate {} (momentumCandidate 75 (.int 3)) now = .ok result →
        DecisionEvaluator.evaluate {} (momentumCandidate 85 (.int 3)) now = .ok result' →
          result.decision.rank ≤ result'.decision.rank := by
  intro _ now
  obtain ⟨hexact,hmono⟩ := evaluatesExactly_and_monotone {} now
  refine ⟨(hexact _).mpr (by decide +kernel),hmono _ _ ⟨rfl,rfl,rfl,rfl,.inr ?_,.inl rfl,.inl rfl,?_⟩⟩
  · exact PyFloat.le_finite (by norm_num)
  · exact fun _ _ _ => rfl

/-- A relative volume of 10^309 is no float: the evaluation raises. -/
theorem hugeVolume_not_evaluated :
    let _ := Builtins.tabulated [] [] []
    ¬EvaluatesExactly {} (momentumCandidate 85 (.int (10^309)))
      (DateTime.ofUtc (Date.ofCivil 2026 1 6) 270) := by
  rintro _ ⟨result,hresult,-⟩
  have hnone := DecisionEvaluator.exists_evaluate_iff.mp ⟨result,hresult⟩
  have hfine : PyValue.overflows (.int (10^309)) = false := hnone "relative_volume" (by decide)
  revert hfine
  decide +kernel

end MarketScanner.Decisions
