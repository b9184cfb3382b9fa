import MarketScanner.Config.Settings
import MarketScanner.Fundamentals.Models
import MarketScanner.Library.WeightedMean
import MarketScanner.Python.Numerals

/-! The fundamental score: each factor's value normalized by bands, and the weighted mean of the
factors that are available, reported where enough of them are. -/
namespace MarketScanner.Fundamentals.FundamentalScorer
open MarketScanner.Library MarketScanner.Python MarketScanner.Config

inductive FundamentalTier
  | good | weak | unknown
  deriving DecidableEq

inductive FactorStatus
  | positive | negative | unknown
  deriving DecidableEq

inductive FactorCategory
  | growth | profitability | financialStrength | cashFlow | valuation | ownership
  deriving DecidableEq

/-- `_CATEGORY_WEIGHT_ATTR`, read from the settings. -/
def FactorCategory.weight (settings : Settings) : FactorCategory → ℚ
  | growth => settings.fundamentalWeightGrowth
  | profitability => settings.fundamentalWeightProfitability
  | financialStrength => settings.fundamentalWeightFinancialStrength
  | cashFlow => settings.fundamentalWeightCashFlow
  | valuation => settings.fundamentalWeightValuation
  | ownership => settings.fundamentalWeightOwnership

structure FundamentalFactor where
  factorName : String
  category : FactorCategory
  value : Option String
  normalizedScore : Option ℚ
  weight : ℚ
  contribution : ℚ
  status : FactorStatus
  reason : String

structure FundamentalScoreResult where
  tier : FundamentalTier
  score : Option ℚ
  dataCompletenessPct : ℚ
  factors : List FundamentalFactor
  positiveReasons : List String
  negativeReasons : List String
  unknownReasons : List String
  riskFlags : List String

/-- `f"{x:g}"` of any float. -/
def formatFloat : PyFloat → String
  | .nan => "nan"
  | .inf s => if s then "-inf" else "inf"
  | .finite q => formatGeneral q

/-! ### The bands -/

/-- The score of the first band that is reached, or else of the last. -/
def scoreBands (reaches : ℚ → Bool) : List (ℚ × ℚ) → ℚ
  | [] => 0
  | [band] => band.2
  | band::bands => if reaches band.1 then band.2 else scoreBands reaches bands

def scoreHigherIsBetter (value : PyFloat) (bands : List (ℚ × ℚ)) : ℚ :=
  scoreBands (fun threshold => PyFloat.le (.finite threshold) value) bands

def scoreLowerIsBetter (value : PyFloat) (bands : List (ℚ × ℚ)) : ℚ :=
  scoreBands (fun threshold => value.le (.finite threshold)) bands

def scoreGrowth (value : PyFloat) : ℚ :=
  scoreHigherIsBetter value [(20,100),(12,80),(6,60),(0,40),(-999,20)]

def scoreRoeRoce (value : PyFloat) : ℚ :=
  scoreHigherIsBetter value [(20,100),(15,80),(10,60),(5,40),(-999,20)]

def scoreMargin (value : PyFloat) : ℚ :=
  scoreHigherIsBetter value [(25,100),(15,80),(8,60),(3,40),(-999,20)]

def scoreDebtToEquity (value : PyFloat) : ℚ :=
  scoreLowerIsBetter value [(3/10,100),(1/2,80),(1,60),(2,40),(999,20)]

def scoreInterestCoverage (value : PyFloat) : ℚ :=
  scoreHigherIsBetter value [(10,100),(5,80),(2,60),(1,40),(-999,20)]

def scoreCashFlowPositive (value : PyFloat) : ℚ := if PyFloat.lt (.finite 0) value then 80 else 20

/-- A company that makes losses is neither rewarded nor punished. -/
def scorePe (value : PyFloat) : ℚ :=
  if value.le (.finite 0) then 50
  else scoreLowerIsBetter value [(15,90),(25,70),(40,50),(999,30)]

def scorePromoterHolding (value : PyFloat) : ℚ :=
  scoreHigherIsBetter value [(50,90),(30,70),(15,50),(-999,30)]

def scorePromoterPledge (value : PyFloat) : ℚ :=
  scoreLowerIsBetter value [(0,100),(5,70),(20,40),(999,10)]

structure FactorDef where
  name : String
  category : FactorCategory
  field : FundamentalField
  normalizer : PyFloat → ℚ
  label : String

/-- `_FACTOR_DEFS`. -/
def factorDefs : List FactorDef :=
  [⟨"revenue_growth_3y",.growth,.revenueGrowth3yPct,scoreGrowth,"Revenue growth (3y)"⟩,
    ⟨"eps_growth_3y",.growth,.epsGrowth3yPct,scoreGrowth,"EPS growth (3y)"⟩,
    ⟨"profit_growth_3y",.growth,.profitGrowth3yPct,scoreGrowth,"Profit growth (3y)"⟩,
    ⟨"roe",.profitability,.roePct,scoreRoeRoce,"Return on equity"⟩,
    ⟨"roce",.profitability,.rocePct,scoreRoeRoce,"Return on capital employed"⟩,
    ⟨"operating_margin",.profitability,.operatingMarginPct,scoreMargin,"Operating margin"⟩,
    ⟨"net_margin",.profitability,.netMarginPct,scoreMargin,"Net margin"⟩,
    ⟨"debt_to_equity",.financialStrength,.debtToEquity,scoreDebtToEquity,"Debt-to-equity"⟩,
    ⟨"interest_coverage",.financialStrength,.interestCoverage,scoreInterestCoverage,
      "Interest coverage"⟩,
    ⟨"operating_cash_flow",.cashFlow,.operatingCashFlowCr,scoreCashFlowPositive,
      "Operating cash flow"⟩,
    ⟨"free_cash_flow",.cashFlow,.freeCashFlowCr,scoreCashFlowPositive,"Free cash flow"⟩,
    ⟨"pe",.valuation,.pe,scorePe,"Valuation (P/E)"⟩,
    ⟨"promoter_holding",.ownership,.promoterHoldingPct,scorePromoterHolding,"Promoter holding"⟩,
    ⟨"promoter_pledge",.ownership,.promoterPledgePct,scorePromoterPledge,"Promoter pledge"⟩]

/-- A category's weight is shared equally among its factors. -/
def perFactorWeight (settings : Settings) (category : FactorCategory) : ℚ :=
  category.weight settings/(factorDefs.countP fun d => d.category = category : ℕ)

/-- `_POSITIVE_THRESHOLD`. -/
def positiveThreshold : ℚ := 60

/-- `_GOOD_TIER_THRESHOLD`. -/
def goodTierThreshold : ℚ := 55

/-- The sub-score of a factor, where its value is there. -/
def FactorDef.subScore (d : FactorDef) (data : FundamentalData) : Option ℚ :=
  (data.value d.field).map d.normalizer

def scoreFactor (settings : Settings) (data : FundamentalData) (d : FactorDef) : FundamentalFactor :=
  match data.value d.field with
  | none =>
    ⟨d.name,d.category,none,none,perFactorWeight settings d.category,0,.unknown,
      d.label ++ " unavailable"⟩
  | some raw =>
    let normalized := d.normalizer raw
    let strong := decide (positiveThreshold ≤ normalized)
    ⟨d.name,d.category,some (formatFloat raw),some normalized,perFactorWeight settings d.category,
      normalized*perFactorWeight settings d.category,if strong then .positive else .negative,
      d.label ++ (if strong then " strong" else " weak") ++ " at " ++ formatFloat raw⟩

def knownFactors (factors : List FundamentalFactor) : List FundamentalFactor :=
  factors.filter fun f => f.normalizedScore.isSome

def dataCompletenessPct (factors : List FundamentalFactor) : ℚ :=
  100*(knownFactors factors).length/factors.length

/-- `overall_score`: the contributions over the weights. -/
def weightedScore (factors : List FundamentalFactor) : Option ℚ :=
  let weightSum := (factors.map FundamentalFactor.weight).sum
  if 0 < weightSum then some ((factors.map FundamentalFactor.contribution).sum/weightSum) else none

def reasonsWith (factors : List FundamentalFactor) (status : FactorStatus) : List String :=
  (factors.filter fun f => f.status = status).map FundamentalFactor.reason

/-- A flag where a value is there and above a bound. -/
def flagAbove (bound : ℚ) (value : Option PyFloat) (text : PyFloat → String) : List String :=
  match value with
  | some x => if PyFloat.lt (.finite bound) x then [text x] else []
  | none => []

def riskFlags (settings : Settings) (data : FundamentalData) (completeness : ℚ) : List String :=
  data.riskNotes ++
    flagAbove 20 (data.value .promoterPledgePct)
      (fun x => "High promoter pledge (" ++ formatFloat x ++ "%)") ++
    flagAbove 2 (data.value .debtToEquity)
      (fun x => "High debt-to-equity (" ++ formatFloat x ++ ")") ++
    if completeness < settings.fundamentalMinDataCompletenessPct then
      ["Limited fundamental data (" ++ toString (PyFloat.roundHalfEven completeness) ++ "% complete)"]
    else []

/-- The tier and the score that are reported. -/
def reported (settings : Settings) (overallScore : Option ℚ) (completeness : ℚ) :
    FundamentalTier × Option ℚ :=
  match overallScore with
  | none => (.unknown,none)
  | some score =>
    if completeness < settings.fundamentalMinDataCompletenessPct then (.unknown,none)
    else if goodTierThreshold ≤ score then (.good,some score)
    else (.weak,some score)

/-- `FundamentalScorer.score`. -/
def score (settings : Settings) : Option FundamentalData → FundamentalScoreResult
  | none =>
    { tier := .unknown
      score := none
      dataCompletenessPct := 0
      factors := []
      positiveReasons := []
      negativeReasons := []
      unknownReasons := ["Fundamental data unavailable — no data source currently integrated"]
      riskFlags := ["Fundamental Score: UNKNOWN (no data source)"] }
  | some data =>
    let factors := factorDefs.map (scoreFactor settings data)
    let completeness := dataCompletenessPct factors
    let reported := reported settings (weightedScore (knownFactors factors)) completeness
    { tier := reported.1
      score := reported.2
      dataCompletenessPct := completeness
      factors
      positiveReasons := reasonsWith factors .positive
      negativeReasons := reasonsWith factors .negative
      unknownReasons := reasonsWith factors .unknown
      riskFlags := riskFlags settings data completeness }

/-! ### What is reported -/

/-- The factors' sub-scores, where they have one, and their weights. -/
def partsOf (settings : Settings) : Option FundamentalData → List (Option ℚ × ℚ)
  | none => []
  | some data => factorDefs.map fun d => (d.subScore data,perFactorWeight settings d.category)

/-- There is data, and enough of it. -/
def Complete (settings : Settings) : Option FundamentalData → Prop
  | none => False
  | some data => settings.fundamentalMinDataCompletenessPct ≤
      100*(factorDefs.countP fun d => (d.subScore data).isSome : ℕ)/factorDefs.length

instance (settings : Settings) : DecidablePred (Complete settings)
  | none => inferInstanceAs (Decidable False)
  | some _ => inferInstanceAs (Decidable (_ ≤ _))

section Score
variable (settings : Settings) (data : FundamentalData)

@[simp] theorem normalizedScore_scoreFactor (d : FactorDef) :
    (scoreFactor settings data d).normalizedScore = d.subScore data := by
  unfold scoreFactor FactorDef.subScore
  cases data.value d.field <;> rfl

@[simp] theorem weight_scoreFactor (d : FactorDef) :
    (scoreFactor settings data d).weight = perFactorWeight settings d.category := by
  unfold scoreFactor
  cases data.value d.field <;> rfl

theorem contribution_scoreFactor {d : FactorDef} {x : ℚ} (h : d.subScore data = some x) :
    (scoreFactor settings data d).contribution = x*perFactorWeight settings d.category := by
  obtain ⟨raw,hraw,rfl⟩ := Option.map_eq_some_iff.mp h
  rw [scoreFactor, hraw]

theorem knownFactors_eq : knownFactors (factorDefs.map (scoreFactor settings data)) =
    (factorDefs.filter fun d => (d.subScore data).isSome).map (scoreFactor settings data) := by
  rw [knownFactors, List.filter_map]
  congr 1
  apply List.filter_congr
  intro d _
  rw [Function.comp_apply, normalizedScore_scoreFactor]

theorem dataCompletenessPct_eq : dataCompletenessPct (factorDefs.map (scoreFactor settings data)) =
    100*(factorDefs.countP fun d => (d.subScore data).isSome : ℕ)/factorDefs.length := by
  rw [dataCompletenessPct, knownFactors_eq, List.length_map, List.length_map,
    ← List.countP_eq_length_filter]

theorem weightedScore_eq : weightedScore (knownFactors (factorDefs.map (scoreFactor settings data))) =
    composite (partsOf settings (some data)) := by
  have hweight : totalWeight (available (partsOf settings (some data))) =
      ((factorDefs.filter fun d => (d.subScore data).isSome).map
        fun d => perFactorWeight settings d.category).sum :=
    totalWeight_available (fun d : FactorDef => d.subScore data)
      (fun d => perFactorWeight settings d.category) factorDefs
  have hsum : weightedSum (available (partsOf settings (some data))) =
      ((factorDefs.filter fun d => (d.subScore data).isSome).map
        fun d => (scoreFactor settings data d).contribution).sum :=
    weightedSum_available (fun d : FactorDef => d.subScore data)
      (fun d => perFactorWeight settings d.category) _ factorDefs
      fun d _ x hx => contribution_scoreFactor settings data hx
  simp only [weightedScore, composite, knownFactors_eq, List.map_map, Function.comp_def,
    weight_scoreFactor, weightedMean, hweight, hsum]

theorem reported_score (score : Option ℚ) (completeness : ℚ) :
    (reported settings score completeness).2 =
      if settings.fundamentalMinDataCompletenessPct ≤ completeness then score else none := by
  unfold reported
  cases score with
  | none => exact (ite_self none).symm
  | some score =>
    dsimp only
    by_cases h : completeness < settings.fundamentalMinDataCompletenessPct
    · rw [if_pos h, if_neg (not_le.mpr h)]
    · rw [if_neg h, if_pos (not_lt.mp h)]
      split <;> rfl

theorem score_eq (data : Option FundamentalData) :
    (score settings data).score =
      if Complete settings data then composite (partsOf settings data) else none := by
  cases data with
  | none => rfl
  | some data =>
    rw [score, reported_score, weightedScore_eq, dataCompletenessPct_eq]
    rfl

end Score

/-! ### The scale -/

theorem scaled_scoreBands (reaches : ℚ → Bool) {bands : List (ℚ × ℚ)}
    (h : ∀ band ∈ bands, 0 ≤ band.2 ∧ band.2 ≤ 100) :
    0 ≤ scoreBands reaches bands ∧ scoreBands reaches bands ≤ 100 := by
  induction bands with
  | nil => norm_num [scoreBands]
  | cons band bands ih =>
    cases bands with
    | nil => exact h band List.mem_cons_self
    | cons next bands =>
      unfold scoreBands
      split
      · exact h band List.mem_cons_self
      · exact ih fun b hb => h b (List.mem_cons_of_mem band hb)

theorem scaled_normalizer {d : FactorDef} (hd : d ∈ factorDefs) (value : PyFloat) :
    0 ≤ d.normalizer value ∧ d.normalizer value ≤ 100 := by
  simp only [factorDefs, List.mem_cons, List.not_mem_nil, or_false] at hd
  rcases hd with rfl | rfl | rfl | rfl | rfl | rfl | rfl | rfl | rfl | rfl | rfl | rfl | rfl | rfl
  case inr.inr.inr.inr.inr.inr.inr.inr.inr.inl | inr.inr.inr.inr.inr.inr.inr.inr.inr.inr.inl =>
    change 0 ≤ scoreCashFlowPositive value ∧ scoreCashFlowPositive value ≤ 100
    unfold scoreCashFlowPositive
    split_ifs <;> norm_num
  case inr.inr.inr.inr.inr.inr.inr.inr.inr.inr.inr.inl =>
    change 0 ≤ scorePe value ∧ scorePe value ≤ 100
    unfold scorePe
    split_ifs
    · norm_num
    · exact scaled_scoreBands _ (by norm_num)
  all_goals exact scaled_scoreBands _ (by norm_num)

theorem onScale_partsOf {settings : Settings} (h : ∀ c : FactorCategory, 0 ≤ c.weight settings)
    (data : Option FundamentalData) : OnScale 0 100 (partsOf settings data) := by
  cases data with
  | none => exact fun x hx => absurd hx List.not_mem_nil
  | some data =>
    intro x hx
    obtain ⟨d,hd,rfl⟩ := List.mem_map.mp hx
    refine ⟨div_nonneg (h d.category) (Nat.cast_nonneg _),fun value hvalue => ?_⟩
    obtain ⟨raw,-,rfl⟩ := Option.map_eq_some_iff.mp hvalue
    exact scaled_normalizer hd raw

theorem scaled_score {settings : Settings} (h : ∀ c : FactorCategory, 0 ≤ c.weight settings)
    {data : Option FundamentalData} {x : ℚ} (hx : (score settings data).score = some x) : 0 ≤ x ∧ x ≤ 100 := by
  rw [score_eq] at hx
  by_cases hcomplete : Complete settings data
  · rw [if_pos hcomplete, composite, Option.ite_none_right_eq_some, Option.some.injEq] at hx
    obtain ⟨htotal,rfl⟩ := hx
    exact (onScale_partsOf h data).weightedMean_mem htotal
  · rw [if_neg hcomplete] at hx
    cases hx

end MarketScanner.Fundamentals.FundamentalScorer
