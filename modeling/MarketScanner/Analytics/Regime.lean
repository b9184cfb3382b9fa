import MarketScanner.Analytics.Breadth
import MarketScanner.Config.Settings
import MarketScanner.Library.WeightedMean

/-! The market regime: the evidence on the market's condition, its weighted composite and the band that
falls in. -/
namespace MarketScanner.Analytics
open MarketScanner.Library MarketScanner.Python MarketScanner.Config

inductive MarketRegimeState
  | supportive | neutral | riskOff
  deriving DecidableEq

/-- The evidence that the composite weighs, each on a scale of 0 to 100 where it is there. -/
structure RegimeComponents where
  advanceDecline : Option ℚ
  upDownVolume : Option ℚ
  pctAboveMa : Option ℚ
  newHighsLows : Option ℚ
  indexTrend : Option ℚ
  volatility : Option ℚ
  sectorParticipation : Option ℚ

/-- `_index_trend_score`. -/
def indexTrendScore (direction : Option String) (strength : Option ℚ) : Option ℚ :=
  match direction, strength with
  | some direction, some strength =>
    let clamped := max 0 (min 100 strength)
    some (if direction = "up" then clamped else if direction = "down" then 100-clamped else 50)
  | _, _ => none

/-- `_average_ma_pct`: the mean of the percentages that are there. -/
def averageMaPct (breadth : MarketBreadthSnapshot) : Option ℚ :=
  let values := [breadth.pctAboveEma20,breadth.pctAboveEma50,breadth.pctAboveEma200].filterMap id
  if values = [] then none else some (values.sum/values.length)

/-- `_to_probability_score`, for a distribution function. -/
def toProbabilityScore (cdf : ℚ → ℚ) (z : ℚ) : ℚ := roundTo 4 (cdf z*100)

/-- What has been read of the index and the sectors: the index's trend, the latest z-score of its band
width, and the leading part of the sectors. -/
structure RegimeReadings where
  indexSymbol : String
  indexTrendDirection : Option String
  indexTrendStrength : Option ℚ
  volatilityZ : Option ℚ
  sectorLeadingPct : Option ℚ

/-- `volatility_state`. -/
def volatilityState (z : ℚ) : String :=
  if 0 < z then "expansion" else if z < 0 then "contraction" else "neutral"

/-- `components`. -/
def regimeComponents (cdf : ℚ → ℚ) (breadth : MarketBreadthSnapshot) (readings : RegimeReadings) :
    RegimeComponents where
  advanceDecline := breadth.advanceDeclinePct
  upDownVolume := breadth.upDownVolumePct
  pctAboveMa := averageMaPct breadth
  newHighsLows := breadth.newHighsLowsNetPct
  indexTrend := indexTrendScore readings.indexTrendDirection readings.indexTrendStrength
  volatility := readings.volatilityZ.map fun z => toProbabilityScore cdf (-z)
  sectorParticipation := readings.sectorLeadingPct

/-- `components` and `weights` by name. -/
def weighted (settings : Settings) (components : RegimeComponents) :
    List (String × Option ℚ × ℚ) :=
  [("advance_decline",components.advanceDecline,settings.marketRegimeWeightAdvanceDecline),
    ("up_down_volume",components.upDownVolume,settings.marketRegimeWeightUpDownVolume),
    ("pct_above_ma",components.pctAboveMa,settings.marketRegimeWeightPctAboveMa),
    ("new_highs_lows",components.newHighsLows,settings.marketRegimeWeightNewHighsLows),
    ("index_trend",components.indexTrend,settings.marketRegimeWeightIndexTrend),
    ("volatility",components.volatility,settings.marketRegimeWeightVolatility),
    ("sector_participation",components.sectorParticipation,
      settings.marketRegimeWeightSectorParticipation)]

/-- `score`: the weighted mean of the evidence that is there, to two places. -/
def regimeScore (settings : Settings) (components : RegimeComponents) : Option ℚ :=
  let available := (weighted settings components).filter fun c => c.2.1.isSome
  let weightedSum := (available.map fun c => c.2.1.getD 0*c.2.2).sum
  let weightTotal := (available.map fun c => c.2.2).sum
  if 0 < weightTotal then some (roundTo 2 (weightedSum/weightTotal)) else none

/-- `classify_regime`, by thirds of the scale. -/
def classifyRegime : Option ℚ → Option MarketRegimeState
  | none => none
  | some score =>
    if PyDecimal.rounded (200/3) ≤ score then some .supportive
    else if score ≤ PyDecimal.rounded (100/3) then some .riskOff
    else some .neutral

structure MarketRegimeEvidence where
  asOf : Date
  computedAt : DateTime
  breadth : MarketBreadthSnapshot
  indexSymbol : String
  indexTrendDirection : Option String
  indexTrendStrength : Option ℚ
  volatilityIndexSymbol : Option String
  volatilityState : Option String
  sectorLeadingPct : Option ℚ
  score : Option ℚ
  regime : Option MarketRegimeState
  evidenceSourcesUsed : List String
  missingEvidence : List String

/-- What `compute_market_regime` makes of what it has read. -/
def computeMarketRegime (settings : Settings) (cdf : ℚ → ℚ) (breadth : MarketBreadthSnapshot)
    (readings : RegimeReadings) (utcNow : DateTime) : MarketRegimeEvidence :=
  let components := regimeComponents cdf breadth readings
  let score := regimeScore settings components
  { asOf := breadth.asOf
    computedAt := utcNow
    breadth
    indexSymbol := readings.indexSymbol
    indexTrendDirection := readings.indexTrendDirection
    indexTrendStrength := readings.indexTrendStrength
    volatilityIndexSymbol := readings.volatilityZ.map fun _ => readings.indexSymbol
    volatilityState := readings.volatilityZ.map volatilityState
    sectorLeadingPct := readings.sectorLeadingPct
    score
    regime := classifyRegime score
    evidenceSourcesUsed :=
      ((weighted settings components).filter fun c => c.2.1.isSome).map Prod.fst
    missingEvidence := ((weighted settings components).filter fun c => c.2.1.isNone).map Prod.fst }

/-- The evidence with its weights. -/
def regimeParts (settings : Settings) (components : RegimeComponents) : List (Option ℚ × ℚ) :=
  (weighted settings components).map Prod.snd

theorem regimeScore_eq (settings : Settings) (components : RegimeComponents) :
    regimeScore settings components =
      (composite (regimeParts settings components)).map (roundTo 2) := by
  have hweight := totalWeight_available (fun c : String × Option ℚ × ℚ => c.2.1) (fun c => c.2.2)
    (weighted settings components)
  have hsum := weightedSum_available (fun c : String × Option ℚ × ℚ => c.2.1) (fun c => c.2.2)
    (fun c => c.2.1.getD 0*c.2.2) (weighted settings components) fun c _ v hv => by
      rw [hv, Option.getD_some]
  have hparts : regimeParts settings components =
      (weighted settings components).map fun c => (c.2.1,c.2.2) := rfl
  rw [regimeScore, composite, hparts, weightedMean, hweight, hsum]
  split <;> rfl

end MarketScanner.Analytics
