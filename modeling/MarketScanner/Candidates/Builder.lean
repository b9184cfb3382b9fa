import MarketScanner.Fundamentals.QueueService
import MarketScanner.Technical.Scorer

/-! A fully scored candidate from the rows of one symbol, and the snapshot of it that is stored. -/
namespace MarketScanner.Candidates
open MarketScanner.Library MarketScanner.Python MarketScanner.Config MarketScanner.Market
open MarketScanner.Features MarketScanner.Fundamentals MarketScanner.Technical MarketScanner.Scanner

inductive Universe
  | ipo | fno | listed
  deriving DecidableEq

def Universe.value : Universe → String
  | ipo => "IPO"
  | fno => "FNO"
  | listed => "LISTED"

inductive SetupState
  | preBreakout | breakoutConfirmed | momentum
  deriving DecidableEq

def SetupState.value : SetupState → String
  | preBreakout => "PRE_BREAKOUT"
  | breakoutConfirmed => "BREAKOUT_CONFIRMED"
  | momentum => "MOMENTUM"

inductive AlertCategory
  | ipoPreBreakout | ipoBreakout | ipoMomentum | fnoPreBreakout | fnoBreakout | fnoMomentum
  deriving DecidableEq

def AlertCategory.value : AlertCategory → String
  | ipoPreBreakout => "IPO_PRE_BREAKOUT"
  | ipoBreakout => "IPO_BREAKOUT"
  | ipoMomentum => "IPO_MOMENTUM"
  | fnoPreBreakout => "FNO_PRE_BREAKOUT"
  | fnoBreakout => "FNO_BREAKOUT"
  | fnoMomentum => "FNO_MOMENTUM"

structure StockCandidate where
  symbol : String
  instrumentType : String
  «universe» : Universe
  scannerType : String
  price : Option Numeric4
  breakoutLevel : Option Numeric4
  supportLevel : Option Numeric4
  resistanceLevel : Option Numeric4
  fundamentalScore : Option PyFloat
  technicalScore : PyFloat
  overallScore : PyFloat
  quality : String
  fundamentalReasons : List String
  technicalReasons : List String
  riskFlags : List String
  passedRules : List String
  failedRules : List String
  dataCompletenessPct : PyFloat
  technicalDataCompletenessPct : PyFloat
  setupState : Option SetupState
  alertCategory : Option AlertCategory
  reason : String
  scannerSources : List String
  fundamentalFactors : List PyValue
  technicalFactors : List PyValue
  fundamentalFieldSources : List PyValue
  fundamentalStatus : String
  technicalFeatureSnapshot : Dict

def optionFloat : Option PyFloat → PyValue
  | some x => .float x
  | none => .none

def strings (texts : List String) : PyValue := .list (texts.map PyValue.str)

/-- What `to_feature_snapshot` writes over the technical features. -/
def StockCandidate.entries (candidate : StockCandidate) : Dict :=
  [("price",decimalStr candidate.price),
    ("breakout_level",decimalStr candidate.breakoutLevel),
    ("support_level",decimalStr candidate.supportLevel),
    ("resistance_level",decimalStr candidate.resistanceLevel),
    ("instrument_type",.str candidate.instrumentType),
    ("universe",.str candidate.«universe».value),
    ("scanner_type",.str candidate.scannerType),
    ("fundamental_score",optionFloat candidate.fundamentalScore),
    ("technical_score",.float candidate.technicalScore),
    ("overall_score",.float candidate.overallScore),
    ("quality",.str candidate.quality),
    ("scanner_sources",strings candidate.scannerSources),
    ("fundamental_reasons",strings candidate.fundamentalReasons),
    ("technical_reasons",strings candidate.technicalReasons),
    ("fundamental_factors",.list candidate.fundamentalFactors),
    ("technical_factors",.list candidate.technicalFactors),
    ("fundamental_field_sources",.list candidate.fundamentalFieldSources),
    ("fundamental_status",.str candidate.fundamentalStatus),
    ("risk_flags",strings candidate.riskFlags),
    ("data_completeness_pct",.float candidate.dataCompletenessPct),
    ("technical_data_completeness_pct",.float candidate.technicalDataCompletenessPct),
    ("setup_state",optionStr (candidate.setupState.map SetupState.value)),
    ("alert_category",optionStr (candidate.alertCategory.map AlertCategory.value)),
    ("passed_rules",strings candidate.passedRules),
    ("failed_rules",strings candidate.failedRules),
    ("reason",.str candidate.reason)]

/-- `to_feature_snapshot`. -/
def StockCandidate.toFeatureSnapshot (candidate : StockCandidate) : Dict :=
  updateSnapshot candidate.technicalFeatureSnapshot candidate.entries

namespace StockCandidate

theorem nodup_entries (candidate : StockCandidate) : (candidate.entries.map Prod.fst).Nodup := by
  simp [entries]

variable (candidate : StockCandidate) {key : String} {value : PyValue}

theorem get_toFeatureSnapshot_of_mem (h : (key,value) ∈ candidate.entries) :
    Dict.get candidate.toFeatureSnapshot key = value :=
  get_updateSnapshot_of_mem candidate.nodup_entries h

/-- The technical features that no entry overwrites are stored as they were. -/
theorem get_toFeatureSnapshot_of_not_mem (h : key ∉ candidate.entries.map Prod.fst) :
    Dict.get candidate.toFeatureSnapshot key = Dict.get candidate.technicalFeatureSnapshot key :=
  get_updateSnapshot_of_not_mem h

end StockCandidate

/-! ### Sources -/

inductive ScannerSource
  | fivepaisa | tradingview | upstox
  deriving DecidableEq

def ScannerSource.value : ScannerSource → String
  | fivepaisa => "5PAISA"
  | tradingview => "TRADINGVIEW"
  | upstox => "UPSTOX"

def primaryScannerSource (settings : Settings) : ScannerSource :=
  if settings.activeMarketDataProvider = .upstox then .upstox else .fivepaisa

/-- An additional source, and the symbols it flags. -/
structure CandidateSourceProvider where
  name : ScannerSource
  discover : Universe → List String

/-- It finds nothing in this deployment. -/
def tradingViewSourceProvider : CandidateSourceProvider := ⟨.tradingview,fun _ => []⟩

/-- The providers that `main` passes to the candidate scanners. -/
def sourceProviders : List CandidateSourceProvider := [tradingViewSourceProvider]

/-- `_resolve_scanner_sources`, in the order of the texts. -/
def resolveScannerSources (settings : Settings) (symbol : String) («universe» : Universe)
    (providers : List CandidateSourceProvider) : List String :=
  let sources := primaryScannerSource settings::(providers.filter fun provider =>
    decide (symbol ∈ provider.discover «universe»)).map CandidateSourceProvider.name
  ([ScannerSource.fivepaisa,.tradingview,.upstox].filter fun source =>
    decide (source ∈ sources)).map ScannerSource.value

/-! ### Building -/

/-- `FundamentalScorer.score(None)`. -/
def fundamentalScoreNone : FundamentalScoreResult where
  score := none
  dataCompletenessPct := .finite 0
  factors := []
  positiveReasons := []
  riskFlags := ["Fundamental Score: UNKNOWN (no data source)"]

/-- `factor_to_dict`, of a technical factor. -/
def factorToDict (f : TechnicalFactor) : PyValue :=
  .dict [("factor_name",.str f.factorName),("category",.str f.category.text),
    ("value",optionStr f.value),("normalized_score",optionFloat (f.normalizedScore.map .finite)),
    ("weight",.float (.finite f.weight)),("contribution",.float (.finite f.contribution)),
    ("status",.str f.status.text),("reason",.str f.reason)]

/-- `_detect_setup_state`: below resistance and near it, just through it on volume, or well past it in
a strong trend. -/
def detectSetupState (settings : Settings) (daily : DailyFeature) (price : Numeric4) :
    Option SetupState :=
  match daily.number .resistanceLevel with
  | none => none
  | some resistance =>
    if resistance = 0 then none
    else
      let pctAbove := (price.toRat/resistance-1)*100
      let proximity := settings.preBreakoutProximityPct
      let rvol := (daily.number .relativeVolume).getD 0
      let adx := (daily.number .adx14).getD 0
      if -proximity ≤ pctAbove ∧ pctAbove < 0 then some .preBreakout
      else if 0 ≤ pctAbove ∧ pctAbove ≤ proximity ∧ settings.fnoMomentumMinRvol ≤ rvol then
        some .breakoutConfirmed
      else if proximity < pctAbove ∧ settings.fnoMomentumMinAdx ≤ adx then some .momentum
      else none

/-- The technical features of a candidate: its columns, the session's VWAP where there is one, and the
date of the features. -/
def technicalSnapshot (daily : DailyFeature) (session : Option SessionFeature) : Dict :=
  let snapshot := daily.snapshot
  let snapshot := match session.bind SessionFeature.sessionVwap with
    | some vwap => Assoc.setItem "session_vwap" (.str (decimalText 4 vwap.units)) snapshot
    | none => snapshot
  Assoc.setItem "feature_date" (.str daily.date.isoformat) snapshot

/-- `build_candidate`, from the rows it has read. -/
def buildCandidate (settings : Settings) (scannerName : String) («universe» : Universe)
    (c : CandidateContext) : StockCandidate :=
  let technicalResult := TechnicalScorer.score settings
    (TechnicalInputs.fromModels c.price c.daily c.session)
  let fundamentalResult := fundamentalScoreNone
  let technicalScore := PyFloat.finite technicalResult.score
  let overallScore := combineScores settings fundamentalResult.score technicalScore
  { symbol := c.symbol.val.symbol
    instrumentType := "EQUITY"
    «universe»
    scannerType := scannerName
    price := some c.price
    breakoutLevel := c.daily.level .breakoutLevel
    supportLevel := c.daily.level .supportLevel
    resistanceLevel := c.daily.level .resistanceLevel
    fundamentalScore := fundamentalResult.score
    technicalScore
    overallScore := storedScore overallScore
    quality := qualityFromScore overallScore
    fundamentalReasons := fundamentalResult.positiveReasons
    technicalReasons := technicalResult.positiveReasons
    riskFlags := fundamentalResult.riskFlags
    passedRules := []
    failedRules := []
    dataCompletenessPct := fundamentalResult.dataCompletenessPct
    technicalDataCompletenessPct := .finite technicalResult.dataCompletenessPct
    setupState := detectSetupState settings c.daily c.price
    alertCategory := none
    reason := ""
    scannerSources := resolveScannerSources settings c.symbol.val.symbol «universe» sourceProviders
    fundamentalFactors := fundamentalResult.factors
    technicalFactors := technicalResult.factors.map factorToDict
    fundamentalFieldSources := []
    fundamentalStatus := FetchStatus.pending.text
    technicalFeatureSnapshot := technicalSnapshot c.daily c.session }

end MarketScanner.Candidates
