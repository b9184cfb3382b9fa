import MarketScanner.Candidates.Builder
import MarketScanner.Python.Decimals

/-! The overall score and the quality label that are stored together, as `build_candidate` and the
fundamental queue compute them from the same two scores. -/
namespace MarketScanner.Candidates
open MarketScanner.Library MarketScanner.Python MarketScanner.Config MarketScanner.Market
open MarketScanner.Features MarketScanner.Fundamentals MarketScanner.Scanner

/-- What `build_candidate` stores: the label is that of the score before it is clamped and rounded. -/
def builtPair (settings : Settings) (technical : PyFloat) (fundamental : Option PyFloat) :
    PyFloat × String :=
  let overallScore := combineScores settings fundamental technical
  (storedScore overallScore,qualityFromScore overallScore)

/-- What `_apply_result` stores: the label is that of the score it stores. -/
def appliedPair (settings : Settings) (technical : PyFloat) (fundamental : Option PyFloat) :
    PyFloat × String :=
  let overallScore := storedScore (combineScores settings fundamental technical)
  (overallScore,qualityFromScore overallScore)

/-- The two entries of a stored snapshot. -/
def storedPair (snapshot : Dict) : PyValue × PyValue :=
  (Dict.get snapshot "overall_score",Dict.get snapshot "quality")

theorem storedPair_toFeatureSnapshot (candidate : StockCandidate) :
    storedPair candidate.toFeatureSnapshot =
      (.float candidate.overallScore,.str candidate.quality) := by
  have hscore : Dict.get candidate.toFeatureSnapshot "overall_score" =
      .float candidate.overallScore :=
    candidate.get_toFeatureSnapshot_of_mem (by simp [StockCandidate.entries])
  have hquality : Dict.get candidate.toFeatureSnapshot "quality" = .str candidate.quality :=
    candidate.get_toFeatureSnapshot_of_mem (by simp [StockCandidate.entries])
  unfold storedPair
  rw [hscore, hquality]

/-- A candidate's snapshot holds the pair of its own two scores. -/
theorem storedPair_buildCandidate (settings : Settings) (scannerName : String)
    («universe» : Universe) (c : CandidateContext) :
    let candidate := buildCandidate settings scannerName «universe» c
    let pair := builtPair settings candidate.technicalScore candidate.fundamentalScore
    storedPair candidate.toFeatureSnapshot = (.float pair.1,.str pair.2) := by
  intro candidate pair
  exact storedPair_toFeatureSnapshot candidate

/-- So does a row that the queue has updated, for the technical score that is read in it. -/
theorem storedPair_applyResult [Builtins] (service : FundamentalQueueService) (row : ScannerResult)
    (data : FundamentalData) (status : FetchStatus) (now : DateTime) {technical : PyFloat}
    (h : coerceFloat (row.featureSnapshot.get "technical_score") = .ok technical) :
    let pair := appliedPair service.settings technical (service.scorer data).score
    storedPair (applyResult service row data status now).1 = (.float pair.1,.str pair.2) := by
  intro pair
  have hscore : technicalScore row = technical := by
    unfold technicalScore
    rw [h]
    rfl
  unfold storedPair applyResult
  dsimp only
  rw [get_updateSnapshot_of_mem (by simp) (.tail _ (.head _)),
    get_updateSnapshot_of_mem (by simp) (.tail _ (.tail _ (.head _))), hscore]
  rfl

/-- The stored label is that of the stored score at both places, and both store the same pair. -/
structure ScoresAgree (settings : Settings) (technical : PyFloat) (fundamental : Option PyFloat) :
    Prop where
  built : (builtPair settings technical fundamental).2 =
    qualityFromScore (builtPair settings technical fundamental).1
  applied : (appliedPair settings technical fundamental).2 =
    qualityFromScore (appliedPair settings technical fundamental).1
  same : builtPair settings technical fundamental = appliedPair settings technical fundamental

/-- Below the threshold of a label, and rounded up to it. -/
def RoundsUpToLabel (score : PyFloat) : Prop :=
  ∃ q, score = .finite q ∧ (74995/1000 ≤ q ∧ q < 75 ∨ 54995/1000 ≤ q ∧ q < 55)

/-- Clamping moves no score across a threshold on the scale. -/
theorem clampScore_finite (q : ℚ) :
    ∃ c, clampScore (.finite q) = .finite c ∧ 0 ≤ c ∧ c ≤ 100 ∧
      ∀ t : ℚ, 0 < t → t ≤ 100 → (t ≤ c ↔ t ≤ q) := by
  unfold clampScore PyFloat.lt
  by_cases hlow : q < 0
  · refine ⟨0,?_,le_rfl,by norm_num,fun t hpos _ => ?_⟩
    · simp [PyFloat.le, hlow, hlow.le]
    · exact iff_of_false (not_le.mpr hpos) (not_le.mpr (hlow.trans hpos))
  · rw [not_lt] at hlow
    by_cases hhigh : 100 < q
    · refine ⟨100,?_,by norm_num,le_rfl,fun t _ hle => ?_⟩
      · simp [PyFloat.le, hlow, hhigh, hhigh.le]
      · exact iff_of_true hle (hle.trans hhigh.le)
    · rw [not_lt] at hhigh
      exact ⟨q,by simp [PyFloat.le, hlow, hhigh],hlow,hhigh,fun t _ _ => Iff.rfl⟩

/-- The double nearest to a number of cents reaches a whole number of points where the cents do. -/
theorem le_roundDouble_cents_iff {points cents : ℤ} (hpos : 0 < points) (hle : points ≤ 100) :
    (points : ℚ) ≤ roundDouble (cents/100) ↔ points*100 ≤ cents := by
  have hpoints : binary64.Representable points :=
    DigitFormat.representable_intCast (F := binary64)
      (fun x hx => by obtain rfl := Option.some.inj hx; decide)
      (by rw [abs_of_pos hpos]; exact hle.trans (by decide))
  -- 127/128 of a point below lies between the last cent before the points and the points
  have hbelow : binary64.Representable ((points*128-1 : ℤ)*(2 : ℚ)^(-7 : ℤ)) :=
    representable_double (by rw [abs_of_pos (by omega)]; omega) (by decide)
  have hvalue : ((points*128-1 : ℤ) : ℚ)*(2 : ℚ)^(-7 : ℤ) = points-1/128 := by
    push_cast
    norm_num
    ring
  rw [hvalue] at hbelow
  have hclear : (cents/100 : ℚ) < points → (cents/100 : ℚ) ≤ points-1/128 := by
    intro hlt
    have hint : cents+1 ≤ points*100 := by
      have : (cents : ℚ) < points*100 := by linarith
      exact_mod_cast this
    have hcast : (cents : ℚ)+1 ≤ points*100 := by exact_mod_cast hint
    linarith
  rw [le_roundDouble_iff hpoints hbelow (by linarith) hclear, le_div_iff₀ (by norm_num)]
  exact_mod_cast Iff.rfl

/-- The stored score reaches a whole number of points from half a cent below them. -/
theorem le_storedScore_iff {c q : ℚ} (hc : clampScore (.finite q) = .finite c) (hlow : 0 ≤ c) (hhigh : c ≤ 100)
    (points : ℤ) (hpos : 0 < points) (hle : points ≤ 100) :
    PyFloat.le (.finite points) (storedScore (.finite q)) = true ↔ (points : ℚ)-5/1000 ≤ c := by
  set cents := PyFloat.roundHalfEven (c*100)
  have hround : (cents/100 : ℚ) ≤ 100 := by
    have hmono : cents ≤ PyFloat.roundHalfEven ((10000 : ℤ) : ℚ) :=
      PyFloat.roundHalfEven_mono (by push_cast; linarith)
    rw [PyFloat.roundHalfEven_intCast] at hmono
    have hcast : (cents : ℚ) ≤ 10000 := by exact_mod_cast hmono
    linarith
  have hnonneg : (0 : ℚ) ≤ cents/100 := by
    have hmono : PyFloat.roundHalfEven ((0 : ℤ) : ℚ) ≤ cents :=
      PyFloat.roundHalfEven_mono (by push_cast; linarith)
    rw [PyFloat.roundHalfEven_intCast] at hmono
    have hcast : (0 : ℚ) ≤ cents := by exact_mod_cast hmono
    positivity
  have hstored : storedScore (.finite q) = .finite (roundDouble (cents/100)) := by
    unfold storedScore
    rw [hc]
    show PyFloat.rounded (.finite (cents/100)) = _
    rw [rounded_finite (abs_le.mpr ⟨by linarith,by linarith⟩)]
  rw [hstored]
  simp only [PyFloat.le, decide_eq_true_eq]
  rw [le_roundDouble_cents_iff hpos hle, PyFloat.le_roundHalfEven_iff (by omega)]
  push_cast
  constructor <;> intro h <;> linarith

theorem qualityFromScore_stored {c q : ℚ} (hc : clampScore (.finite q) = .finite c) (hlow : 0 ≤ c)
    (hhigh : c ≤ 100) : qualityFromScore (storedScore (.finite q)) =
      if 74995/1000 ≤ c then "HIGH" else if 54995/1000 ≤ c then "MEDIUM" else "LOW" := by
  have hseventyFive : PyFloat.le (.finite 75) (storedScore (.finite q)) = true ↔ 74995/1000 ≤ c := by
    have h := le_storedScore_iff hc hlow hhigh 75 (by decide) (by decide)
    norm_num at h ⊢
    exact h
  have hfiftyFive : PyFloat.le (.finite 55) (storedScore (.finite q)) = true ↔ 54995/1000 ≤ c := by
    have h := le_storedScore_iff hc hlow hhigh 55 (by decide) (by decide)
    norm_num at h ⊢
    exact h
  simp only [qualityFromScore, hseventyFive, hfiftyFive]

/-- Clamping and rounding keep the label of every score but the ones just below a threshold. -/
theorem qualityFromScore_stored_iff (score : PyFloat) :
    qualityFromScore score = qualityFromScore (storedScore score) ↔ ¬ RoundsUpToLabel score := by
  rcases score with _ | (_ | _) | q
  · exact iff_of_true rfl (by rintro ⟨q,⟨⟩,-⟩)
  · exact iff_of_true (by decide +kernel) (by rintro ⟨q,⟨⟩,-⟩)
  · exact iff_of_true (by decide +kernel) (by rintro ⟨q,⟨⟩,-⟩)
  · obtain ⟨c,hclamp,hlow,hhundred,hscale⟩ := clampScore_finite q
    have hhigh := hscale (74995/1000) (by norm_num) (by norm_num)
    have hmedium := hscale (54995/1000) (by norm_num) (by norm_num)
    have hrounds : RoundsUpToLabel (.finite q) ↔
        74995/1000 ≤ q ∧ q < 75 ∨ 54995/1000 ≤ q ∧ q < 55 := by
      simp [RoundsUpToLabel]
    rw [qualityFromScore_stored hclamp hlow hhundred, hrounds]
    simp only [qualityFromScore, PyFloat.le, decide_eq_true_eq, hhigh, hmedium]
    split_ifs <;> simp <;> grind

/-- The two places agree, each with its own stored score, just when the blend of the two scores is not
below a label's threshold by at most half a cent. -/
theorem scoresAgree_iff (settings : Settings) (technical : PyFloat) (fundamental : Option PyFloat) :
    ScoresAgree settings technical fundamental ↔
      ¬ RoundsUpToLabel (combineScores settings fundamental technical) := by
  rw [← qualityFromScore_stored_iff]
  constructor
  · exact fun h => h.built
  · intro h
    exact ⟨h,rfl,Prod.ext rfl h⟩

/-! ### A squeeze with a higher high -/

/-- Technical weights under which the score is not rounded to cents. -/
def gapSettings : Settings := { technicalWeightVolatility := 2999/10000 }

/-- Features of which only the two flags are known. -/
def squeezed : CandidateContext where
  symbol := ⟨1,⟨"RELIANCE","NSE","A",none,none,none,none,true⟩⟩
  daily := ⟨1,⟨20001⟩,fun column =>
    match column with
    | .volatilitySqueeze | .higherHigh => .bool true
    | _ => .null⟩
  price := ⟨990000⟩
  session := none
  bars := []
  timestamp := DateTime.ofUtc ⟨20001⟩ 270

/-- The overall score is stored as 75, and labelled as if it were below. -/
theorem squeezed_mislabelled :
    let candidate := buildCandidate gapSettings "fno_momentum_v1" .fno squeezed
    ¬ ScoresAgree gapSettings candidate.technicalScore candidate.fundamentalScore := by
  intro candidate h
  exact absurd h.built (by decide +kernel)

end MarketScanner.Candidates
