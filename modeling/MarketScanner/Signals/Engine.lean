import MarketScanner.Analytics.Regime
import MarketScanner.Analytics.RotationHistory
import MarketScanner.Catalyst.Scoring
import MarketScanner.Fundamentals.Scorer
import MarketScanner.Fundamentals.SnapshotCache
import MarketScanner.Library.Fallible
import MarketScanner.Signals.OpenInterest
import MarketScanner.Technical.Scorer

/-! The seven components of the fusion, each from the engine it reuses, and their composite. -/
namespace MarketScanner.Signals
open MarketScanner.Library MarketScanner.Python MarketScanner.Config MarketScanner.Market
open MarketScanner.Universe MarketScanner.Features MarketScanner.Scanner MarketScanner.Analytics
open MarketScanner.Catalyst MarketScanner.Derivatives MarketScanner.Technical MarketScanner.Fundamentals

/-- `_clamp` of any float; NaN is not below 100. -/
def clampFloat : PyFloat → ℚ
  | .nan => 100
  | .inf s => if s then 0 else 100
  | .finite q => clamp q

/-- `_score_technical` -/
def scoreTechnical (settings : Settings) (daily : Option DailyFeature) (latestPrice : Option DailyPrice)
    (session : Option SessionFeature) : ComponentScore :=
  let weight := settings.signalFusionWeightTechnical
  match daily, latestPrice with
  | some daily, some latestPrice =>
    let result := TechnicalScorer.score settings (.fromModels latestPrice.close daily session)
    { name := "technical"
      status := .available
      score := some result.score
      weight := weight
      reasons := (result.positiveReasons ++ result.negativeReasons).map ("Technical: " ++ ·)
      score_none_iff := by simp }
  | _, _ => missing "technical" weight "no daily features/price computed yet"

/-- `_score_volume` -/
def scoreVolume (settings : Settings) (daily : Option DailyFeature) : ComponentScore :=
  let weight := settings.signalFusionWeightVolume
  match daily.bind fun daily => daily.number .relativeVolume with
  | some relativeVolume =>
    { name := "volume"
      status := .available
      score := some (clamp (min (relativeVolume/2) 1*100))
      weight := weight
      reasons := ["Volume: relative_volume=" ++ formatFixed 2 relativeVolume ++ "x average"]
      score_none_iff := by simp }
  | none => missing "volume" weight "no relative_volume computed yet"

def quadrantValue : RrgQuadrant → String
  | .leading => "LEADING"
  | .weakening => "WEAKENING"
  | .lagging => "LAGGING"
  | .improving => "IMPROVING"

/-- `_score_sector_rrg`, of the points of the symbol. -/
def scoreSectorRrg (settings : Settings) (points : Option (List RrgPoint)) : ComponentScore :=
  let weight := settings.signalFusionWeightSectorRrg
  match points.bind List.getLast? with
  | none => missing "sector_rrg" weight "insufficient price history for RRG (own or benchmark)"
  | some latest =>
    match latest.rsRatio, latest.rsMomentum, latest.quadrant with
    | some ratio, some momentum, some quadrant =>
      let deviations := (ratio.sub (.finite 100)).add (momentum.sub (.finite 100))
      { name := "sector_rrg"
        status := .available
        score := some (clampFloat (PyFloat.add (.finite 50) ((deviations.mul (.finite (1/2))).mul (.finite 20))))
        weight := weight
        reasons := ["Sector/RRG: " ++ quadrantValue quadrant ++ " vs " ++ latest.benchmarkSymbol]
        score_none_iff := by simp }
    | _, _, _ => missing "sector_rrg" weight "not enough history yet for a stable RRG reading"

def regimeValue : MarketRegimeState → String
  | .supportive => "SUPPORTIVE"
  | .neutral => "NEUTRAL"
  | .riskOff => "RISK_OFF"

/-- `_score_market_regime` -/
def scoreMarketRegime (settings : Settings) (marketRegime : Option MarketRegimeEvidence) : ComponentScore :=
  let weight := settings.signalFusionWeightMarketRegime
  match marketRegime with
  | none => missing "market_regime" weight "no MarketRegimeEvidence supplied for this scan cycle"
  | some evidence =>
    match evidence.score, evidence.regime with
    | some score, some regime =>
      { name := "market_regime"
        status := if regime = .neutral then .neutral else .available
        score := some score
        weight := weight
        reasons := ["Market regime: " ++ regimeValue regime]
        score_none_iff := by split <;> simp }
    | _, _ => missing "market_regime" weight "market regime had no evidence at all"

/-- `_score_fundamentals`, of the cached snapshot. -/
def scoreFundamentals (settings : Settings) (cached : Option CachedFundamentalSnapshot) : ComponentScore :=
  let weight := settings.signalFusionWeightFundamentals
  match cached.bind fun cached => cached.data.map fun data => (data,cached.isFresh) with
  | none => missing "fundamentals" weight "no cached fundamental snapshot yet"
  | some (data,isFresh) =>
    let result := FundamentalScorer.score settings (some data)
    match result.score with
    | none => missing "fundamentals" weight "fundamental tier is UNKNOWN (no usable factors)"
    | some score =>
      let note := if isFresh then "fresh" else "stale cache, last known value"
      { name := "fundamentals"
        status := .available
        score := some score
        weight := weight
        reasons := (result.positiveReasons ++ result.negativeReasons).map fun r =>
          "Fundamentals (" ++ note ++ "): " ++ r
        score_none_iff := by simp }

/-- `_weights` -/
def weights (settings : Settings) : List (String × ℚ) :=
  [("technical",settings.signalFusionWeightTechnical),("volume",settings.signalFusionWeightVolume),
    ("oi",settings.signalFusionWeightOi),("sector_rrg",settings.signalFusionWeightSectorRrg),
    ("market_regime",settings.signalFusionWeightMarketRegime),("news",settings.signalFusionWeightNews),
    ("fundamentals",settings.signalFusionWeightFundamentals)]

/-- What the engine reads of the database, and the clock each time it is read. -/
structure FusionView where
  market : MarketView
  symbols : SymbolTable
  observations : Table OiObservation
  observationScan : ScanOrder (Row OiObservation)
  snapshots : FundamentalSnapshots
  rrgNow : DateTime
  newsNow : DateTime
  cacheNow : DateTime
  timestamp : DateTime

def FusionView.priceView (v : FusionView) : PriceView :=
  ⟨v.market.scans.prices,v.symbols,v.market.prices,v.rrgNow⟩

/-- What a caller hands to the engine: the market's regime, and what its provider files under the symbol. -/
structure FusionInputs where
  marketRegime : Option MarketRegimeEvidence
  news : Option (Except PyException (List RawNewsArticle))

section Compute
variable [FloatMath] (lower repr : String → String) (settings : Settings) (windows : NewsWindows)
  (v : FusionView) (inputs : FusionInputs)

/-- The components of a known symbol, with what its readings and its news have come to. -/
def componentsOf (row : Row SymbolRow) (points : Option (List RrgPoint))
    (articles : Option (List RawNewsArticle)) : List (String × ComponentScore) :=
  let daily := v.market.latestFeatures row.id
  [("technical",scoreTechnical settings daily (v.market.latestPrice row.id) (v.market.latestSession row.id)),
    ("volume",scoreVolume settings daily),
    ("oi",scoreOi v.observationScan settings v.observations row.id),
    ("sector_rrg",scoreSectorRrg settings points),
    ("market_regime",scoreMarketRegime settings inputs.marketRegime),
    ("news",scoreNews lower settings windows v.newsNow articles),
    ("fundamentals",scoreFundamentals settings
      (FundamentalSnapshotRepository.getCached settings v.cacheNow v.symbols v.snapshots row.id))]

/-- `SignalFusionEngine.compute` -/
def compute (symbol : String) : Except PyException SignalFusionResult := do
  match ← SymbolRepository.getBySymbol v.symbols symbol with
  | none =>
    let unknown := (weights settings).map fun w =>
      (w.1,missing w.1 w.2 ("unknown symbol " ++ repr symbol))
    return assemble symbol unknown v.timestamp
  | some row =>
    let points ← computeStockRrg settings v.priceView symbol none 250
    let articles ← inputs.news.mapM id
    return assemble symbol (componentsOf lower settings windows v inputs row points articles) v.timestamp

end Compute

/-! ### What is delivered -/

/-- A component has its configured weight, and its score, where it has one, lies on the scale. -/
structure ComponentScore.Delivers (c : ComponentScore) (weight : ℚ) : Prop where
  configured : c.weight = weight
  scaled : ∀ x, c.score = some x → 0 ≤ x ∧ x ≤ 100

theorem delivers_missing (name : String) (weight : ℚ) (reason : String) :
    (missing name weight reason).Delivers weight := by
  refine ⟨rfl,fun x hx => ?_⟩
  cases hx

theorem delivers_of_score {c : ComponentScore} {weight score : ℚ} (hweight : c.weight = weight)
    (hscore : c.score = some score) (h : 0 ≤ score ∧ score ≤ 100) : c.Delivers weight := by
  refine ⟨hweight,fun x hx => ?_⟩
  obtain rfl := Option.some.inj (hscore.symm.trans hx)
  exact h

theorem clamp_mem (x : ℚ) : 0 ≤ clamp x ∧ clamp x ≤ 100 :=
  ⟨le_max_left _ _,max_le (by norm_num) (min_le_left _ _)⟩

theorem clampFloat_mem (x : PyFloat) : 0 ≤ clampFloat x ∧ clampFloat x ≤ 100 := by
  cases x with
  | nan => norm_num [clampFloat]
  | inf s => cases s <;> norm_num [clampFloat]
  | finite q => exact clamp_mem q

/-- No weight of the settings is negative. -/
structure WeightsNonneg (settings : Settings) : Prop where
  fusion : ∀ w ∈ weights settings, 0 ≤ w.2
  technical : ∀ c : Category, 0 ≤ c.weight settings
  fundamental : ∀ c : FundamentalScorer.FactorCategory, 0 ≤ c.weight settings

section Components
variable {settings : Settings}

theorem delivers_scoreTechnical (h : WeightsNonneg settings) (daily : Option DailyFeature)
    (latestPrice : Option DailyPrice) (session : Option SessionFeature) :
    (scoreTechnical settings daily latestPrice session).Delivers settings.signalFusionWeightTechnical := by
  unfold scoreTechnical
  dsimp only
  split
  · exact delivers_of_score rfl rfl (TechnicalScorer.scaled_score h.technical _)
  · exact delivers_missing _ _ _

theorem delivers_scoreVolume (daily : Option DailyFeature) :
    (scoreVolume settings daily).Delivers settings.signalFusionWeightVolume := by
  unfold scoreVolume
  dsimp only
  split
  · exact delivers_of_score rfl rfl (clamp_mem _)
  · exact delivers_missing _ _ _

theorem delivers_scoreOi (scan : ScanOrder (Row OiObservation)) (t : Table OiObservation) (symbolId : ℕ) :
    (scoreOi scan settings t symbolId).Delivers settings.signalFusionWeightOi := by
  unfold scoreOi
  dsimp only
  split
  · exact delivers_missing _ _ _
  · rename_i futures _
    refine delivers_of_score rfl rfl ?_
    cases futures.val.classification <;> norm_num

theorem delivers_scoreSectorRrg (points : Option (List RrgPoint)) :
    (scoreSectorRrg settings points).Delivers settings.signalFusionWeightSectorRrg := by
  unfold scoreSectorRrg
  dsimp only
  split
  · exact delivers_missing _ _ _
  · split
    · exact delivers_of_score rfl rfl (clampFloat_mem _)
    · exact delivers_missing _ _ _

theorem delivers_scoreMarketRegime {marketRegime : Option MarketRegimeEvidence}
    (h : ∀ evidence ∈ marketRegime, ∀ x, evidence.score = some x → 0 ≤ x ∧ x ≤ 100) :
    (scoreMarketRegime settings marketRegime).Delivers settings.signalFusionWeightMarketRegime := by
  unfold scoreMarketRegime
  dsimp only
  split
  · exact delivers_missing _ _ _
  · rename_i evidence
    split
    · rename_i score regime hscore hregime
      exact delivers_of_score rfl rfl (h evidence rfl score hscore)
    · exact delivers_missing _ _ _

theorem delivers_scoreNews (lower : String → String) (windows : NewsWindows) (now : DateTime)
    (articles : Option (List RawNewsArticle)) :
    (scoreNews lower settings windows now articles).Delivers settings.signalFusionWeightNews := by
  cases articles with
  | none => exact delivers_missing _ _ _
  | some articles =>
    refine ⟨?_,fun x hx => scaled_scoreNews hx⟩
    unfold scoreNews
    dsimp only
    split <;> rfl

theorem delivers_scoreFundamentals (h : WeightsNonneg settings) (cached : Option CachedFundamentalSnapshot) :
    (scoreFundamentals settings cached).Delivers settings.signalFusionWeightFundamentals := by
  unfold scoreFundamentals
  dsimp only
  split
  · exact delivers_missing _ _ _
  · split
    · exact delivers_missing _ _ _
    · rename_i score hscore
      exact delivers_of_score rfl rfl (FundamentalScorer.scaled_score h.fundamental hscore)

end Components

theorem onScale_of_delivers {components : List (String × ComponentScore)} {ws : List (String × ℚ)}
    (h : List.Forall₂ (fun c w => c.1 = w.1 ∧ c.2.Delivers w.2) components ws) (hws : ∀ w ∈ ws, 0 ≤ w.2) :
    OnScale 0 100 (partsOf components) := by
  induction h with
  | nil => exact fun x hx => absurd hx List.not_mem_nil
  | cons hcw _ ih =>
    rw [List.forall_mem_cons] at hws
    obtain ⟨-,hdelivers⟩ := hcw
    intro x hx
    rcases List.mem_cons.mp hx with rfl | hx
    · exact ⟨hws.1.trans_eq hdelivers.configured.symm,hdelivers.scaled⟩
    · exact ih hws.2 x hx

/-- A result of the engine: a component for each configured weight, and the mean of those that are there. -/
structure Fused (settings : Settings) (result : SignalFusionResult) : Prop where
  components : List.Forall₂ (fun c w => c.1 = w.1 ∧ c.2.Delivers w.2) result.componentScores (weights settings)
  overall : result.overallScore = (composite (partsOf result.componentScores)).map (roundTo 2)

theorem fused_assemble {settings : Settings} {components : List (String × ComponentScore)} {symbol : String}
    {timestamp : DateTime} (hweights : WeightsNonneg settings)
    (h : List.Forall₂ (fun c w => c.1 = w.1 ∧ c.2.Delivers w.2) components (weights settings)) :
    Fused settings (assemble symbol components timestamp) :=
  ⟨h,overallScore_eq (onScale_of_delivers h hweights.fusion)⟩

/-- Whatever the database, the caller and the provider give it, what the engine computes for a symbol, known
or not, is the mean of the components on the scale that are there. -/
theorem fused_of_compute [FloatMath] {lower repr : String → String} {settings : Settings}
    {windows : NewsWindows} {v : FusionView} {inputs : FusionInputs} {symbol : String}
    {result : SignalFusionResult} (hweights : WeightsNonneg settings)
    (hregime : ∀ evidence ∈ inputs.marketRegime, ∀ x, evidence.score = some x → 0 ≤ x ∧ x ≤ 100)
    (h : compute lower repr settings windows v inputs symbol = .ok result) : Fused settings result := by
  obtain ⟨found,-,h⟩ := except_bind_eq_ok_iff.mp h
  cases found with
  | none =>
    obtain rfl := Except.ok.inj h
    apply fused_assemble hweights
    rw [List.forall₂_map_left_iff, List.forall₂_same]
    exact fun w _ => ⟨rfl,delivers_missing _ _ _⟩
  | some row =>
    obtain ⟨points,-,h⟩ := except_bind_eq_ok_iff.mp h
    obtain ⟨articles,-,h⟩ := except_bind_eq_ok_iff.mp h
    obtain rfl := Except.ok.inj h
    apply fused_assemble hweights
    refine .cons ⟨rfl,delivers_scoreTechnical hweights _ _ _⟩ (.cons ⟨rfl,delivers_scoreVolume _⟩ ?_)
    refine .cons ⟨rfl,delivers_scoreOi _ _ _⟩ (.cons ⟨rfl,delivers_scoreSectorRrg points⟩ ?_)
    refine .cons ⟨rfl,delivers_scoreMarketRegime hregime⟩ (.cons ⟨rfl,delivers_scoreNews _ _ _ articles⟩ ?_)
    exact .cons ⟨rfl,delivers_scoreFundamentals hweights _⟩ .nil

end MarketScanner.Signals
