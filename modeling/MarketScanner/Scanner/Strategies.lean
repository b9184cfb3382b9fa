import MarketScanner.Scanner.Selection
import MarketScanner.Scanner.Snapshots

/-! The listed scanners: what each validates, what it qualifies, and the composite score they share. -/
namespace MarketScanner.Scanner
open MarketScanner.Library MarketScanner.Python MarketScanner.Config MarketScanner.Market
open MarketScanner.Universe MarketScanner.Features

/-- What the database and the clock show to `get_candidate_symbols`. -/
structure UniverseView where
  today : Date
  scan : ScanOrder (Row SymbolRow)
  symbols : SymbolTable
  fnoUniverse : List ℕ

/-- `get_candidate_symbols`, of each scanner. -/
def UniverseView.candidates (u : UniverseView) (settings : Settings) (scanner : MainScanner)
    (allSymbols : List (Row SymbolRow)) : List (Row SymbolRow) :=
  scanner.getCandidateSymbols settings u.today u.scan u.symbols u.fnoUniverse allSymbols

/-- An attribute of a context or of its feature row. -/
inductive Field
  | price
  | column (c : Column)

def Field.name : Field → String
  | price => "price"
  | column c => c.name

def Field.isMissing (context : ScanContext) : Field → Bool
  | price => context.price.isNone
  | column c => decide (context.features.values c = .null)

/-- `str(x)` of a float, also inside an f-string. -/
def floatStr [Builtins] (q : ℚ) : String := (PyValue.float (.finite q)).toStr

namespace ScannerValidator

def requireFields (context : ScanContext) (fields : List Field) : ValidationResult :=
  match fields.find? (Field.isMissing context) with
  | some field => ⟨false,some ("missing required field: " ++ field.name)⟩
  | none => ⟨true,none⟩

/-- The first of the columns whose value is outside its range. -/
def requireRanges [Builtins] (context : ScanContext) :
    List (Column × ℚ × ℚ) → ValidationResult
  | [] => ⟨true,none⟩
  | (c,low,high)::ranges =>
    match context.features.number c with
    | none => requireRanges context ranges
    | some x =>
      if low ≤ x ∧ x ≤ high then requireRanges context ranges
      else ⟨false,some (c.name ++ "=" ++ floatStr x ++ " outside expected range [" ++ floatStr low ++
        ", " ++ floatStr high ++ "]")⟩

end ScannerValidator

/-- `all(checks.values())`. -/
def allPassed (checks : List (String × Bool)) : Bool := checks.all Prod.snd

/-- The labels of the checks with an outcome. -/
def labelsWith (checks : List (String × Bool)) (passed : Bool) : List String :=
  (checks.filter fun check => check.2 == passed).map Prod.fst

def checksReason (checks : List (String × Bool)) : String :=
  if allPassed checks then "all conditions met: " ++ String.intercalate ", " (checks.map Prod.fst)
  else s!"failed {(labelsWith checks false).length}/{checks.length}: " ++
    String.intercalate ", " (labelsWith checks false)

/-! ### The composite score -/

/-- `min(max(x, 0.0), 100.0)`. -/
def clamp (x : ℚ) : ℚ := min (max x 0) 100

/-- `round(x, 2)`. -/
def roundTwo (x : ℚ) : ℚ := PyFloat.roundHalfEven (x*100)/100

structure ScoreParts where
  trend : ℚ
  momentum : ℚ
  volume : ℚ
  volatility : ℚ
  relativeStrength : ℚ
  supportResistance : ℚ

def ScoreParts.total (settings : Settings) (parts : ScoreParts) : ℚ :=
  parts.trend*settings.scannerScoreWeightTrend +
    parts.momentum*settings.scannerScoreWeightMomentum +
    parts.volume*settings.scannerScoreWeightVolume +
    parts.volatility*settings.scannerScoreWeightVolatility +
    parts.relativeStrength*settings.scannerScoreWeightRelativeStrength +
    parts.supportResistance*settings.scannerScoreWeightSupportResistance

/-- `_resistance_distance_pct`. -/
def resistanceDistancePct (resistance : Option ℚ) (price : Option Numeric4) : Option ℚ :=
  match resistance, price with
  | some resistance, some price =>
    if resistance = 0 then none else some (|price.toRat-resistance|/resistance*100)
  | _, _ => none

/-- `_resistance_proximity_score`. -/
def resistanceProximityScore (settings : Settings) (distancePct : Option ℚ) : ℚ :=
  let threshold := settings.scannerBreakoutResistanceProximityPct
  match distancePct with
  | none => 0
  | some distance =>
    if threshold ≤ 0 then 0 else max 0 (min 100 (100-distance/threshold*100))

def scoreParts (settings : Settings) (features : DailyFeature) (price : Option Numeric4) :
    ScoreParts where
  trend := (features.number .trendStrength).getD 0
  momentum := ((features.number .momentumScore).getD 0+100)/2
  volume := min ((features.number .relativeVolume).getD 0/2) 1*100
  volatility := if features.flag .atrExpansion then 100
    else if features.flag .atrContraction then 30 else 60
  relativeStrength := match features.number .rsVsNifty with
    | none => 50
    | some rs => max 0 (min 100 (50+rs))
  supportResistance := resistanceProximityScore settings
    (resistanceDistancePct (features.number .resistanceLevel) price)

/-- `score`, the same in `BreakoutScanner`, `VcpScanner` and `MomentumScanner`. -/
def compositeScore (settings : Settings) (c : ScanContext) : ℚ :=
  roundTwo (clamp ((scoreParts settings c.features c.price).total settings))

/-- A listed scanner over `ScanContext`. -/
def listedStrategy (settings : Settings) (u : UniverseView) (scanner : MainScanner)
    (validate : ScanContext → ValidationResult) (scan : ScanContext → Except String ScanOutcome) :
    Strategy ScanContext where
  name := scanner.name
  getCandidateSymbols _ := u.candidates settings scanner
  validate c := .ok (validate c)
  scan := scan
  score c := .ok (compositeScore settings c)
  featureSnapshot := ScanContext.featureSnapshot

/-- What an `assert` that fails leaves: an exception without text. -/
def assertionFailed {α : Type} : Except String α := .error ""

namespace BreakoutScanner

def requiredFields : List Field :=
  [.column .ema20,.column .ema50,.column .ema200,.column .adx14,.column .relativeVolume,
    .column .resistanceLevel]

def rangeChecks : List (Column × ℚ × ℚ) := [(.adx14,0,100),(.relativeVolume,0,1000)]

def validate [Builtins] (c : ScanContext) : ValidationResult :=
  let fieldCheck := ScannerValidator.requireFields c (.price::requiredFields)
  if !fieldCheck.valid then fieldCheck else ScannerValidator.requireRanges c rangeChecks

def withinResistanceProximity (settings : Settings) (c : ScanContext) : Bool :=
  (resistanceDistancePct (c.features.number .resistanceLevel) c.price).any fun distance =>
    decide (distance ≤ settings.scannerBreakoutResistanceProximityPct)

def checks (settings : Settings) (c : ScanContext) (price ema20 ema50 ema200 adx14 rvol : ℚ) :
    List (String × Bool) :=
  [("price>EMA20",decide (ema20 < price)),("EMA20>EMA50",decide (ema50 < ema20)),
    ("EMA50>EMA200",decide (ema200 < ema50)),
    ("ADX>threshold",decide (settings.scannerBreakoutAdxThreshold < adx14)),
    ("relative_volume>threshold",
      decide (settings.scannerBreakoutRelativeVolumeThreshold < rvol)),
    ("volume_increasing",
      decide (settings.scannerBreakoutVolumeIncreasingMinRelativeVolume ≤ rvol)),
    ("near_resistance",withinResistanceProximity settings c)]

def scan (settings : Settings) (c : ScanContext) : Except String ScanOutcome :=
  match c.price, c.features.number .ema20, c.features.number .ema50, c.features.number .ema200,
      c.features.number .adx14, c.features.number .relativeVolume with
  | some price, some ema20, some ema50, some ema200, some adx14, some rvol =>
    let results := checks settings c price.toRat ema20 ema50 ema200 adx14 rvol
    .ok ⟨allPassed results,checksReason results⟩
  | _, _, _, _, _, _ => assertionFailed

end BreakoutScanner

def breakoutScanner [Builtins] (settings : Settings) (u : UniverseView) : Strategy ScanContext :=
  listedStrategy settings u .breakout BreakoutScanner.validate (BreakoutScanner.scan settings)

namespace VcpScanner

def validate (c : ScanContext) : ValidationResult := ScannerValidator.requireFields c [.price]

def scan (c : ScanContext) : Except String ScanOutcome :=
  .ok <| if c.features.flag .patternVcp then
    ⟨true,"volatility contraction pattern detected (each successive 10-bar range tighter than the last)"⟩
  else ⟨false,"no volatility contraction pattern on the latest bar"⟩

end VcpScanner

def vcpScanner (settings : Settings) (u : UniverseView) : Strategy ScanContext :=
  listedStrategy settings u .vcp VcpScanner.validate VcpScanner.scan

namespace MomentumScanner

def validate (c : ScanContext) : ValidationResult :=
  ScannerValidator.requireFields c [.column .momentumScore]

def scan [Builtins] (settings : Settings) (c : ScanContext) : Except String ScanOutcome :=
  let threshold := settings.scannerMomentumMinScore
  match c.features.number .momentumScore with
  | none => assertionFailed
  | some momentumScore =>
    let shown := "momentum_score=" ++ c.features.valueText .momentumScore
    .ok <| if threshold ≤ momentumScore then ⟨true,shown ++ " >= " ++ floatStr threshold⟩
      else ⟨false,shown ++ " < " ++ floatStr threshold⟩

end MomentumScanner

def momentumScanner [Builtins] (settings : Settings) (u : UniverseView) : Strategy ScanContext :=
  listedStrategy settings u .momentum MomentumScanner.validate (MomentumScanner.scan settings)

namespace OrbScanner

def validate (c : OrbScanContext) : ValidationResult :=
  if c.price.isNone then ⟨false,some "missing required field: price"⟩
  else if c.sessionFeature.openingRangeHigh.isNone || c.sessionFeature.openingRangeLow.isNone then
    ⟨false,some "opening range not yet available for this session"⟩
  else if c.priceDate ≠ some c.sessionFeature.date then
    ⟨false,some "price and opening range are not from the same trading day"⟩
  else ⟨true,none⟩

def scan (c : OrbScanContext) : Except String ScanOutcome :=
  match c.price, c.sessionFeature.openingRangeHigh, c.sessionFeature.openingRangeLow with
  | some price, some high, some low =>
    let shown := "price " ++ decimalText 4 price.units
    .ok <| if high.units < price.units then
      ⟨true,shown ++ " above opening_range_high " ++ decimalText 4 high.units ++ " (bullish ORB)"⟩
    else if price.units < low.units then
      ⟨true,shown ++ " below opening_range_low " ++ decimalText 4 low.units ++ " (bearish ORB)"⟩
    else
      ⟨false,shown ++ " within opening range [" ++ decimalText 4 low.units ++ ", " ++
        decimalText 4 high.units ++ "]"⟩
  | _, _, _ => assertionFailed

/-- The parts of the score, each with its fallback where there are no daily features. -/
def parts (settings : Settings) (c : OrbScanContext) : ScoreParts :=
  match c.dailyFeature with
  | some features => scoreParts settings features c.price
  | none => ⟨0,50,0,60,50,resistanceProximityScore settings (resistanceDistancePct none c.price)⟩

def score (settings : Settings) (c : OrbScanContext) : ℚ :=
  roundTwo (clamp ((parts settings c).total settings))

/-- With daily features it is the score that the other listed scanners give. -/
theorem score_eq_compositeScore (settings : Settings) {c : OrbScanContext} {features : DailyFeature}
    (h : c.dailyFeature = some features) :
    score settings c = compositeScore settings ⟨c.symbol,features,c.price⟩ := by
  rw [score, parts, h]
  rfl

end OrbScanner

def openingRangeScanner (settings : Settings) (u : UniverseView) : Strategy OrbScanContext where
  name := MainScanner.orb.name
  getCandidateSymbols _ := u.candidates settings .orb
  validate c := .ok (OrbScanner.validate c)
  scan := OrbScanner.scan
  score c := .ok (OrbScanner.score settings c)
  featureSnapshot := OrbScanContext.featureSnapshot

end MarketScanner.Scanner
