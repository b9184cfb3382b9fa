import MarketScanner.Alerts.Models
import MarketScanner.Decision.Rules
import MarketScanner.Momentum.StateMachine

/-! The numbers that the texts of an alert read off its snapshot. The texts themselves leave no trace in the
tables and are left out; an int past the floats raises before there is one. -/
namespace MarketScanner.Alerts
open MarketScanner.Library MarketScanner.Python MarketScanner.Decisions MarketScanner.Momentum

namespace AlertMessageFormatter

/-- `_BREAKOUT_STYLE_SCANNERS` -/
def breakoutStyleScanners : List String := ["breakout_v1"]

/-- The features that `_format_breakout_text` reads. -/
def breakoutTextKeys : List String := ["price","ema20","ema50","ema200","relative_volume","adx14"]

/-- The features that `_format_candidate_text` reads. -/
def candidateTextKeys : List String :=
  ["price","support_level","resistance_level","fundamental_score","technical_score","overall_score",
    "data_completeness_pct"]

/-- The features that `evaluate_compounding` reads for the lines on the target and the stop. -/
def compoundingKeys : List String :=
  ["price","resistance_level","support_level","swing_high","swing_low","atr14","adx14","fundamental_score"]

/-- The components of `_MOMENTUM_SECTIONS`. -/
def momentumSections : List String :=
  ["technical","volume","oi","sector_rrg","market_regime","fundamentals","news"]

/-- `x if isinstance(x, dict) else {}`. -/
def dictOrEmpty : PyValue → Dict
  | .dict kvs => kvs
  | _ => []

/-- The score of a component whose section is shown: it is not MISSING and has reasons. -/
def shownScore : PyValue → Option PyValue
  | .dict component =>
    match Dict.get component "status", Dict.get component "reasons" with
    | .str "MISSING", _ => none
    | _, .list (_::_) => some (Dict.get component "score")
    | _, _ => none
  | _ => none

/-- What `_format_momentum_text` formats with `:.0f` where it is a number. -/
def momentumNumbers (snapshot : Dict) : List PyValue :=
  let evidence := dictOrEmpty (snapshot.get "evidence")
  let componentScores := dictOrEmpty (evidence.get "component_scores")
  (momentumSections.filterMap fun key => shownScore (componentScores.get key)) ++
    [evidence.get "confidence"]

/-- `f"{value:.0f}"` of a number; no other value is formatted. -/
def formatNumber (value : PyValue) : Except PyException Unit :=
  if value.overflows then .error .overflowError else .ok ()

section
variable [Builtins]

/-- A feature is read through `as_float`. -/
def readFeature (snapshot : Dict) (key : String) : Except PyException Unit := do
  let _ ← DecisionValidator.asFloat snapshot key
  .ok ()

/-- `format_text`, as far as it can raise. -/
def formatText (alert : Alert) : Except PyException Unit :=
  if alert.scannerName = momentumScannerName then
    (momentumNumbers alert.featureSnapshot).forM formatNumber
  else if breakoutStyleScanners.contains alert.scannerName then
    breakoutTextKeys.forM (readFeature alert.featureSnapshot)
  else (candidateTextKeys ++ compoundingKeys).forM (readFeature alert.featureSnapshot)

end

/-- The values that the text of an alert needs as floats. -/
def textNumbers (alert : Alert) : List PyValue :=
  if alert.scannerName = momentumScannerName then momentumNumbers alert.featureSnapshot
  else if breakoutStyleScanners.contains alert.scannerName then
    breakoutTextKeys.map alert.featureSnapshot.get
  else (candidateTextKeys ++ compoundingKeys).map alert.featureSnapshot.get

theorem formatNumber_ok_iff {value : PyValue} : formatNumber value = .ok () ↔ value.overflows = false := by
  unfold formatNumber
  cases value.overflows with
  | true => exact iff_of_false (fun h => by cases h) (by decide)
  | false => exact iff_of_true rfl rfl

section
variable [Builtins]

theorem readFeature_ok_iff {snapshot : Dict} {key : String} :
    readFeature snapshot key = .ok () ↔ PyValue.overflows (snapshot.get key) = false := by
  unfold readFeature
  rcases DecisionValidator.asFloat_cases snapshot key with ⟨hfine,x,hx⟩ | ⟨hover,hraise⟩
  · rw [hx]
    exact iff_of_true rfl hfine
  · rw [hraise, hover]
    exact iff_of_false (fun h => by cases h) (by decide)

/-- There is a text just where none of the numbers that it needs overflows. -/
theorem formatText_ok_iff {alert : Alert} :
    formatText alert = .ok () ↔ ∀ value ∈ textNumbers alert, value.overflows = false := by
  unfold formatText textNumbers
  split
  · simp only [forM_eq_ok_iff, formatNumber_ok_iff]
  · split
    · simp only [forM_eq_ok_iff, readFeature_ok_iff, List.forall_mem_map]
    · simp only [forM_eq_ok_iff, readFeature_ok_iff, List.forall_mem_map]

/-- A change of the status does not change the text. -/
@[simp] theorem formatText_withStatus (alert : Alert) (status : AlertStatus) :
    formatText (alert.withStatus status) = formatText alert := rfl

end
end AlertMessageFormatter
end MarketScanner.Alerts
