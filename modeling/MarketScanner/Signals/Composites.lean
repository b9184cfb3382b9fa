import MarketScanner.Analytics.Regime
import MarketScanner.Fundamentals.Scorer
import MarketScanner.Signals.Fusion
import MarketScanner.Technical.Scorer

/-! The four composite scores, each written for itself, are means of what is available. -/
namespace MarketScanner.Technical
open MarketScanner.Library MarketScanner.Config

/-- The factors' sub-scores, where they have one, and their weights. -/
def partsOf (settings : Settings) (inputs : TechnicalInputs) : List (Option ℚ × ℚ) :=
  factorDefs.map fun d =>
    ((d.extractor inputs).map d.normalizer,perFactorWeight settings d.category)

section Score
variable (settings : Settings) (inputs : TechnicalInputs)

@[simp] theorem normalizedScore_scoreFactor (d : FactorDef) :
    (scoreFactor settings inputs d).normalizedScore = (d.extractor inputs).map d.normalizer := by
  unfold scoreFactor
  cases d.extractor inputs <;> rfl

@[simp] theorem weight_scoreFactor (d : FactorDef) :
    (scoreFactor settings inputs d).weight = perFactorWeight settings d.category := by
  unfold scoreFactor
  cases d.extractor inputs <;> rfl

theorem contribution_scoreFactor {d : FactorDef} {x : ℚ}
    (h : (d.extractor inputs).map d.normalizer = some x) :
    (scoreFactor settings inputs d).contribution = x*perFactorWeight settings d.category := by
  obtain ⟨raw,hraw,rfl⟩ := Option.map_eq_some_iff.mp h
  rw [scoreFactor, hraw]

theorem knownFactors_eq : knownFactors (factorDefs.map (scoreFactor settings inputs)) =
    (factorDefs.filter fun d => ((d.extractor inputs).map d.normalizer).isSome).map
      (scoreFactor settings inputs) := by
  rw [knownFactors, List.filter_map]
  congr 1
  apply List.filter_congr
  intro d _
  rw [Function.comp_apply, normalizedScore_scoreFactor]

theorem TechnicalScorer.score_eq :
    (TechnicalScorer.score settings inputs).score = (composite (partsOf settings inputs)).getD 0 := by
  have hweight : totalWeight (available (partsOf settings inputs)) =
      ((factorDefs.filter fun d => ((d.extractor inputs).map d.normalizer).isSome).map
        fun d => perFactorWeight settings d.category).sum :=
    totalWeight_available (fun d : FactorDef => (d.extractor inputs).map d.normalizer)
      (fun d => perFactorWeight settings d.category) factorDefs
  have hsum : weightedSum (available (partsOf settings inputs)) =
      ((factorDefs.filter fun d => ((d.extractor inputs).map d.normalizer).isSome).map
        fun d => (scoreFactor settings inputs d).contribution).sum :=
    weightedSum_available (fun d : FactorDef => (d.extractor inputs).map d.normalizer)
      (fun d => perFactorWeight settings d.category) _ factorDefs
      fun d _ x hx => contribution_scoreFactor settings inputs hx
  simp only [TechnicalScorer.score, weightedScore, knownFactors_eq, List.map_map, Function.comp_def,
    weight_scoreFactor, composite, weightedMean, hweight, hsum]
  split <;> rfl

end Score

end MarketScanner.Technical

namespace MarketScanner.Signals
open MarketScanner.Library MarketScanner.Python MarketScanner.Config MarketScanner.Fundamentals

/-- The four composites, with what they report of no weight: fusion and regime nothing, to two places,
the fundamental score nothing, and that only where the data is complete, the technical score zero. -/
structure CompositesAreMeans : Prop where
  fusion : ∀ symbol timestamp, ScoresMean 0 100 partsOf (fun _ => True) (roundTo 2) id
    fun components => (assemble symbol components timestamp).overallScore
  fundamental : ScoresMean 0 100
    (fun i : Settings × Option FundamentalData => FundamentalScorer.partsOf i.1 i.2)
    (fun i => FundamentalScorer.Complete i.1 i.2) id id
    (fun i => (FundamentalScorer.score i.1 i.2).score)
  technical : ScoresMean 0 100
    (fun i : Settings × Technical.TechnicalInputs => Technical.partsOf i.1 i.2) (fun _ => True) id
    (fun score => score.getD 0) (fun i => (Technical.TechnicalScorer.score i.1 i.2).score)
  regime : ScoresMean 0 100
    (fun i : Settings × Analytics.RegimeComponents => Analytics.regimeParts i.1 i.2) (fun _ => True)
    (roundTo 2) id (fun i => Analytics.regimeScore i.1 i.2)

theorem compositesAreMeans : CompositesAreMeans where
  fusion symbol timestamp := by
    apply scoresMean_of_composite (roundTo_mono 2)
    intro components h
    rw [if_pos trivial]
    exact overallScore_eq h
  fundamental := by
    apply scoresMean_of_composite monotone_id
    rintro ⟨settings,data⟩ -
    rw [Option.map_id]
    exact FundamentalScorer.score_eq settings data
  technical := by
    apply scoresMean_of_composite monotone_id
    rintro ⟨settings,inputs⟩ -
    rw [if_pos trivial, Option.map_id]
    exact Technical.TechnicalScorer.score_eq settings inputs
  regime := by
    apply scoresMean_of_composite (roundTo_mono 2)
    rintro ⟨settings,components⟩ -
    rw [if_pos trivial]
    exact Analytics.regimeScore_eq settings components

end MarketScanner.Signals
