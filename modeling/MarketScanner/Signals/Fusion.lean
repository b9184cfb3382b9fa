import MarketScanner.Library.WeightedMean
import MarketScanner.Python.Decimals

/-! The signal fusion engine's composite of its components' scores. -/
namespace MarketScanner.Signals
open MarketScanner.Library MarketScanner.Python

inductive DataStatus
  | available | neutral | missing
  deriving DecidableEq

/-- One input's contribution; only a missing one has no score. -/
structure ComponentScore where
  name : String
  status : DataStatus
  score : Option ℚ
  weight : ℚ
  reasons : List String
  score_none_iff : score = none ↔ status = .missing

structure SignalFusionResult where
  symbol : String
  overallScore : Option ℚ
  componentScores : List (String × ComponentScore)
  positiveFactors : List String
  negativeFactors : List String
  missingData : List String
  confidence : ℚ
  timestamp : DateTime

/-- `_missing`. -/
def missing (name : String) (weight : ℚ) (reason : String) : ComponentScore where
  name := name
  status := .missing
  score := none
  weight := weight
  reasons := [reason]
  score_none_iff := by simp

/-- `_clamp`. -/
def clamp (value : ℚ) : ℚ := max 0 (min 100 value)

/-- The components that are not missing. -/
def availableOf (components : List (String × ComponentScore)) : List (String × ComponentScore) :=
  components.filter fun c => decide (c.2.status ≠ .missing)

/-- The reasons of the available components on one side of a score of 50. -/
def factorsWith (favorable : Bool) (components : List (String × ComponentScore)) : List String :=
  (availableOf components).flatMap fun c =>
    match c.2.score with
    | some score => if decide (50 ≤ score) = favorable then c.2.reasons else []
    | none => []

/-- `overall_score` of `_assemble`. -/
def overallScore (components : List (String × ComponentScore)) : Option ℚ :=
  let available := availableOf components
  let availableWeight := (available.map fun c => c.2.weight).sum
  if available ≠ [] ∧ 0 < availableWeight then
    let weightedSum := (available.map fun c => c.2.score.getD 0*c.2.weight).sum
    some (roundTo 2 (clamp (weightedSum/availableWeight)))
  else none

/-- `_assemble`. -/
def assemble (symbol : String) (components : List (String × ComponentScore)) (timestamp : DateTime) :
    SignalFusionResult :=
  let totalConfiguredWeight := (components.map fun c => c.2.weight).sum
  let availableWeight := ((availableOf components).map fun c => c.2.weight).sum
  { symbol
    overallScore := overallScore components
    componentScores := components
    positiveFactors := factorsWith true components
    negativeFactors := factorsWith false components
    missingData := (components.filter fun c => decide (c.2.status = .missing)).map Prod.fst
    confidence := if 0 < totalConfiguredWeight
      then roundTo 2 (availableWeight/totalConfiguredWeight*100) else 0
    timestamp }

/-- The scores of components, where they have one, and their weights. -/
def partsOf (components : List (String × ComponentScore)) : List (Option ℚ × ℚ) :=
  components.map fun c => (c.2.score,c.2.weight)

theorem availableOf_eq (components : List (String × ComponentScore)) :
    availableOf components = components.filter fun c => c.2.score.isSome := by
  apply List.filter_congr
  intro c _
  rw [Bool.eq_iff_iff, decide_eq_true_eq, ← Option.ne_none_iff_isSome]
  exact not_congr c.2.score_none_iff.symm

/-- On the scale the clamp does nothing, and the composite is what is rounded. -/
theorem overallScore_eq {components : List (String × ComponentScore)}
    (h : OnScale 0 100 (partsOf components)) :
    overallScore components = (composite (partsOf components)).map (roundTo 2) := by
  have hweight : totalWeight (available (partsOf components)) =
      ((availableOf components).map fun c => c.2.weight).sum := by
    rw [availableOf_eq]
    exact totalWeight_available (fun c => c.2.score) (fun c => c.2.weight) components
  have hsum : weightedSum (available (partsOf components)) =
      ((availableOf components).map fun c => c.2.score.getD 0*c.2.weight).sum := by
    rw [availableOf_eq]
    refine weightedSum_available (fun c : String × ComponentScore => c.2.score)
      (fun c => c.2.weight) _ components fun c _ score hscore => ?_
    rw [hscore, Option.getD_some]
  unfold overallScore composite
  dsimp only
  rw [← hweight, ← hsum]
  by_cases htotal : 0 < totalWeight (available (partsOf components))
  · have hne : availableOf components ≠ [] := by
      intro hnil
      rw [hnil] at hweight
      exact htotal.ne' hweight
    obtain ⟨hlow,hhigh⟩ := h.weightedMean_mem htotal
    rw [if_pos ⟨hne,htotal⟩, if_pos htotal, Option.map_some]
    rw [weightedMean] at hlow hhigh ⊢
    rw [clamp, min_eq_right hhigh, max_eq_right hlow]
  · rw [if_neg fun hcase => htotal hcase.2, if_neg htotal, Option.map_none]

end MarketScanner.Signals
