import Mathlib.Algebra.BigOperators.Ring.List
import Mathlib.Algebra.Order.BigOperators.Group.List
import MarketScanner.Scanner.Snapshots

/-! The technical score: each factor's value normalized to 0..100 by bands, and their weighted mean over
the factors that are available. -/
namespace MarketScanner.Technical
open MarketScanner.Python MarketScanner.Config MarketScanner.Market MarketScanner.Features
open MarketScanner.Scanner

structure TechnicalInputs where
  price : ℚ
  ema20 : Option ℚ
  ema50 : Option ℚ
  trendDirection : Option String
  trendStrength : Option ℚ
  rsi14 : Option ℚ
  macdHistogram : Option ℚ
  adx14 : Option ℚ
  relativeVolume : Option ℚ
  accumulationScore : Option ℚ
  distributionScore : Option ℚ
  volatilitySqueeze : Bool
  atrExpansion : Bool
  sessionVwap : Option ℚ
  higherHigh : Bool
  higherLow : Bool

/-- `from_models`. -/
def TechnicalInputs.fromModels (price : Numeric4) (daily : DailyFeature)
    (session : Option SessionFeature) : TechnicalInputs where
  price := price.toRat
  ema20 := daily.number .ema20
  ema50 := daily.number .ema50
  trendDirection := daily.text .trendDirection
  trendStrength := daily.number .trendStrength
  rsi14 := daily.number .rsi14
  macdHistogram := daily.number .macdHistogram
  adx14 := daily.number .adx14
  relativeVolume := daily.number .relativeVolume
  accumulationScore := daily.number .accumulationScore
  distributionScore := daily.number .distributionScore
  volatilitySqueeze := daily.flag .volatilitySqueeze
  atrExpansion := daily.flag .atrExpansion
  sessionVwap := (session.bind SessionFeature.sessionVwap).map Numeric4.toRat
  higherHigh := daily.flag .higherHigh
  higherLow := daily.flag .higherLow

inductive FactorStatus
  | positive | negative | unknown
  deriving DecidableEq

def FactorStatus.text : FactorStatus → String
  | positive => "POSITIVE"
  | negative => "NEGATIVE"
  | unknown => "UNKNOWN"

inductive Category
  | trend | momentum | volume | volatility | vwap | marketStructure
  deriving DecidableEq

namespace Category

def text : Category → String
  | trend => "trend"
  | momentum => "momentum"
  | volume => "volume"
  | volatility => "volatility"
  | vwap => "vwap"
  | marketStructure => "structure"

/-- `_CATEGORY_WEIGHT_ATTR`, read from the settings. -/
def weight (settings : Settings) : Category → ℚ
  | trend => settings.technicalWeightTrend
  | momentum => settings.technicalWeightMomentum
  | volume => settings.technicalWeightVolume
  | volatility => settings.technicalWeightVolatility
  | vwap => settings.technicalWeightVwap
  | marketStructure => settings.technicalWeightStructure

end Category

structure TechnicalFactor where
  factorName : String
  category : Category
  value : Option String
  normalizedScore : Option ℚ
  weight : ℚ
  contribution : ℚ
  status : FactorStatus
  reason : String

structure TechnicalScoreResult where
  score : ℚ
  dataCompletenessPct : ℚ
  factors : List TechnicalFactor
  positiveReasons : List String
  negativeReasons : List String
  unknownReasons : List String

/-- The score of the first band whose threshold the value reaches, or else of the last. -/
def bandsHigherIsBetter (value : ℚ) : List (ℚ × ℚ) → ℚ
  | [] => 0
  | [band] => band.2
  | band::bands => if band.1 ≤ value then band.2 else bandsHigherIsBetter value bands

def scoreTrendDirection (value : ℚ) : ℚ :=
  if value = 1 then 90 else if value = 1/2 then 50 else if value = 0 then 15 else 50

def scorePriceVsEma (pctAbove : ℚ) : ℚ :=
  bandsHigherIsBetter pctAbove [(3,100),(0,70),(-3,40),(-999,20)]

def scoreRsi (value : ℚ) : ℚ :=
  if 55 ≤ value ∧ value ≤ 70 then 100
  else if (45 ≤ value ∧ value < 55) ∨ (70 < value ∧ value ≤ 80) then 70
  else if 35 ≤ value ∧ value < 45 then 40
  else if 80 < value then 40
  else 20

def scoreMacdHistogram (value : ℚ) : ℚ := if 0 < value then 80 else 20

def scoreAdx (value : ℚ) : ℚ :=
  bandsHigherIsBetter value [(30,100),(25,80),(20,60),(15,40),(0,20)]

def scoreRelativeVolume (value : ℚ) : ℚ :=
  bandsHigherIsBetter value [(3,100),(2,85),(3/2,70),(1,50),(0,30)]

def scoreAccumDist (value : ℚ) : ℚ :=
  bandsHigherIsBetter value [(20,90),(5,70),(-5,50),(-20,30),(-999,10)]

def scoreVolatilityState (value : ℚ) : ℚ :=
  if value = 1 then 80 else if value = 1/2 then 65 else 50

def scoreVwap (pctAbove : ℚ) : ℚ :=
  bandsHigherIsBetter pctAbove [(1,90),(0,65),(-1,40),(-999,20)]

def scoreStructure (value : ℚ) : ℚ :=
  if value = 2 then 90 else if value = 1 then 60 else if value = 0 then 30 else 50

structure FactorDef where
  name : String
  category : Category
  extractor : TechnicalInputs → Option ℚ
  normalizer : ℚ → ℚ
  label : String

/-- `(price / level - 1) * 100 if level else None`. -/
def pctAboveLevel (price : ℚ) : Option ℚ → Option ℚ
  | some level => if level = 0 then none else some ((price/level-1)*100)
  | none => none

/-- `float(flag)`. -/
def boolScore (b : Bool) : ℚ := if b then 1 else 0

def factorDefs : List FactorDef :=
  [⟨"trend_direction",.trend,fun i => match i.trendDirection with
      | some "up" => some 1
      | some "sideways" => some (1/2)
      | some "down" => some 0
      | _ => none,scoreTrendDirection,"Trend direction"⟩,
    ⟨"price_vs_ema20",.trend,fun i => pctAboveLevel i.price i.ema20,scorePriceVsEma,
      "Price vs EMA20"⟩,
    ⟨"price_vs_ema50",.trend,fun i => pctAboveLevel i.price i.ema50,scorePriceVsEma,
      "Price vs EMA50"⟩,
    ⟨"rsi14",.momentum,fun i => i.rsi14,scoreRsi,"RSI(14)"⟩,
    ⟨"macd_histogram",.momentum,fun i => i.macdHistogram,scoreMacdHistogram,"MACD histogram"⟩,
    ⟨"adx14",.momentum,fun i => i.adx14,scoreAdx,"ADX(14) trend strength"⟩,
    ⟨"relative_volume",.volume,fun i => i.relativeVolume,scoreRelativeVolume,"Relative volume"⟩,
    ⟨"accumulation_vs_distribution",.volume,fun i => match i.accumulationScore, i.distributionScore with
      | some accumulation, some distribution => some (accumulation-distribution)
      | _, _ => none,scoreAccumDist,"Accumulation vs distribution"⟩,
    ⟨"volatility_state",.volatility,
      fun i => some (if i.volatilitySqueeze then 1 else if i.atrExpansion then 1/2 else 0),
      scoreVolatilityState,"Volatility state"⟩,
    ⟨"price_vs_vwap",.vwap,fun i => pctAboveLevel i.price i.sessionVwap,scoreVwap,
      "Price vs session VWAP"⟩,
    ⟨"market_structure",.marketStructure,fun i => some (boolScore i.higherHigh+boolScore i.higherLow),
      scoreStructure,"Market structure (higher highs/lows)"⟩]

/-- A category's weight is shared equally among its factors. -/
def perFactorWeight (settings : Settings) (category : Category) : ℚ :=
  category.weight settings / (factorDefs.countP fun d => d.category = category : ℕ)

def positiveThreshold : ℚ := 60

def scoreFactor (settings : Settings) (inputs : TechnicalInputs) (d : FactorDef) : TechnicalFactor :=
  match d.extractor inputs with
  | none =>
    ⟨d.name,d.category,none,none,perFactorWeight settings d.category,0,.unknown,
      d.label ++ " unavailable"⟩
  | some raw =>
    let normalized := d.normalizer raw
    let favorable := decide (positiveThreshold ≤ normalized)
    ⟨d.name,d.category,some (formatGeneral raw),some normalized,perFactorWeight settings d.category,
      normalized*perFactorWeight settings d.category,if favorable then .positive else .negative,
      d.label ++ if favorable then " favorable" else " unfavorable"⟩

/-- The factors whose input is available. -/
def knownFactors (factors : List TechnicalFactor) : List TechnicalFactor :=
  factors.filter fun f => f.normalizedScore.isSome

def reasonsWith (factors : List TechnicalFactor) (status : FactorStatus) : List String :=
  (factors.filter fun f => f.status = status).map TechnicalFactor.reason

/-- The contributions over the weights; zero when no weight is left. -/
def weightedScore (factors : List TechnicalFactor) : ℚ :=
  let weightSum := (factors.map TechnicalFactor.weight).sum
  if 0 < weightSum then (factors.map TechnicalFactor.contribution).sum / weightSum else 0

/-- `TechnicalScorer.score`. -/
def TechnicalScorer.score (settings : Settings) (inputs : TechnicalInputs) : TechnicalScoreResult :=
  let factors := factorDefs.map (scoreFactor settings inputs)
  { score := weightedScore (knownFactors factors)
    dataCompletenessPct := 100*(knownFactors factors).length / factors.length
    factors
    positiveReasons := reasonsWith factors .positive
    negativeReasons := reasonsWith factors .negative
    unknownReasons := reasonsWith factors .unknown }

/-! Every factor is normalized to 0..100, and so the score is. -/

/-- On the scale of the scores. -/
def Scaled (x : ℚ) : Prop := 0 ≤ x ∧ x ≤ 100

theorem scaled_bandsHigherIsBetter (value : ℚ) {bands : List (ℚ × ℚ)}
    (h : ∀ band ∈ bands, Scaled band.2) : Scaled (bandsHigherIsBetter value bands) := by
  induction bands with
  | nil => exact ⟨le_refl 0,by norm_num [bandsHigherIsBetter]⟩
  | cons band bands ih =>
    cases bands with
    | nil => exact h band List.mem_cons_self
    | cons next bands =>
      unfold bandsHigherIsBetter
      split
      · exact h band List.mem_cons_self
      · exact ih fun b hb => h b (List.mem_cons_of_mem band hb)

theorem scaled_normalizer {d : FactorDef} (hd : d ∈ factorDefs) (value : ℚ) :
    Scaled (d.normalizer value) := by
  simp only [factorDefs, List.mem_cons, List.not_mem_nil, or_false] at hd
  rcases hd with rfl | rfl | rfl | rfl | rfl | rfl | rfl | rfl | rfl | rfl | rfl
  case inr.inr.inr.inl =>
    show Scaled (scoreRsi value)
    unfold scoreRsi
    split_ifs <;> norm_num [Scaled]
  case inl =>
    show Scaled (scoreTrendDirection value)
    unfold scoreTrendDirection
    split_ifs <;> norm_num [Scaled]
  case inr.inr.inr.inr.inl =>
    show Scaled (scoreMacdHistogram value)
    unfold scoreMacdHistogram
    split_ifs <;> norm_num [Scaled]
  case inr.inr.inr.inr.inr.inr.inr.inr.inl =>
    show Scaled (scoreVolatilityState value)
    unfold scoreVolatilityState
    split_ifs <;> norm_num [Scaled]
  case inr.inr.inr.inr.inr.inr.inr.inr.inr.inr =>
    show Scaled (scoreStructure value)
    unfold scoreStructure
    split_ifs <;> norm_num [Scaled]
  all_goals exact scaled_bandsHigherIsBetter value (by norm_num [Scaled])

theorem perFactorWeight_nonneg {settings : Settings} (h : ∀ c : Category, 0 ≤ c.weight settings)
    (category : Category) : 0 ≤ perFactorWeight settings category :=
  div_nonneg (h category) (Nat.cast_nonneg _)

/-- What a factor contributes lies between nothing and a hundred times its weight. -/
def Bounded (f : TechnicalFactor) : Prop :=
  0 ≤ f.weight ∧ 0 ≤ f.contribution ∧ f.contribution ≤ 100*f.weight

theorem bounded_scoreFactor {settings : Settings} (h : ∀ c : Category, 0 ≤ c.weight settings)
    (inputs : TechnicalInputs) {d : FactorDef} (hd : d ∈ factorDefs) :
    Bounded (scoreFactor settings inputs d) := by
  have hweight := perFactorWeight_nonneg h d.category
  unfold scoreFactor
  split
  · exact ⟨hweight,le_refl 0,mul_nonneg (by norm_num) hweight⟩
  · rename_i raw hraw
    obtain ⟨hlow,hhigh⟩ := scaled_normalizer hd raw
    exact ⟨hweight,mul_nonneg hlow hweight,mul_le_mul_of_nonneg_right hhigh hweight⟩

theorem scaled_weightedScore {factors : List TechnicalFactor} (h : ∀ f ∈ factors, Bounded f) :
    Scaled (weightedScore factors) := by
  have hnonneg : 0 ≤ (factors.map TechnicalFactor.contribution).sum := by
    apply List.sum_nonneg
    intro x hx
    obtain ⟨f,hf,rfl⟩ := List.mem_map.mp hx
    exact (h f hf).2.1
  have hle : (factors.map TechnicalFactor.contribution).sum ≤
      100*(factors.map TechnicalFactor.weight).sum := by
    rw [← List.sum_map_mul_left]
    exact List.sum_le_sum fun f hf => (h f hf).2.2
  unfold weightedScore
  dsimp only
  split
  · rename_i hpos
    exact ⟨div_nonneg hnonneg (le_of_lt hpos),(div_le_iff₀ hpos).mpr hle⟩
  · exact ⟨le_refl 0,by norm_num⟩

theorem TechnicalScorer.scaled_score {settings : Settings}
    (h : ∀ c : Category, 0 ≤ c.weight settings) (inputs : TechnicalInputs) :
    Scaled (TechnicalScorer.score settings inputs).score := by
  apply scaled_weightedScore
  intro f hf
  obtain ⟨d,hd,rfl⟩ := List.mem_map.mp (List.mem_of_mem_filter hf)
  exact bounded_scoreFactor h inputs hd

end MarketScanner.Technical
