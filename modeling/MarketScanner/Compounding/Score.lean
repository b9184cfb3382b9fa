import MarketScanner.Compounding.Levels
import MarketScanner.Fundamentals.QueueService

/-! The score that ranks compounding opportunities: banded upside, banded reward for the risk, the
higher timeframe and the fundamental score, weighted, clamped and rounded. -/
namespace MarketScanner.Compounding
open MarketScanner.Python MarketScanner.Config MarketScanner.Fundamentals

def TargetClassification.value : TargetClassification → String
  | notAttractive => "NOT_ATTRACTIVE"
  | minimumOpportunity => "MINIMUM_OPPORTUNITY"
  | good => "GOOD"
  | strong => "STRONG"
  | veryStrong => "VERY_STRONG"
  | exceptional => "EXCEPTIONAL"
  | unknown => "UNKNOWN"

inductive HigherTimeframeConfirmation
  | confirmed | notConfirmed | unknown
  deriving DecidableEq

def HigherTimeframeConfirmation.value : HigherTimeframeConfirmation → String
  | confirmed => "CONFIRMED"
  | notConfirmed => "NOT_CONFIRMED"
  | unknown => "UNKNOWN"

/-- `_UPSIDE_SCORE`; beyond 15% it climbs no further. -/
def upsideScore : TargetClassification → ℚ
  | .unknown => 0
  | .notAttractive => 10
  | .minimumOpportunity => 45
  | .good => 65
  | .strong => 80
  | .veryStrong => 90
  | .exceptional => 90

/-- `_HTF_SCORE` -/
def htfScore : HigherTimeframeConfirmation → ℚ
  | .confirmed => 100
  | .notConfirmed => 40
  | .unknown => 50

/-- `_FUNDAMENTAL_UNKNOWN_SCORE` -/
def fundamentalUnknownScore : PyFloat := .finite 50

/-- `_RR_UNKNOWN_SCORE` -/
def rrUnknownScore : ℚ := 30

def rrScore : Option ℚ → ℚ
  | none => rrUnknownScore
  | some rewardRiskRatio =>
    if rewardRiskRatio < 1 then 20
    else if rewardRiskRatio < 3/2 then 50
    else if rewardRiskRatio < 5/2 then 75
    else 100

/-- `_compute_score`. -/
def computeScore (target : TargetResult) (rewardRiskRatio : Option ℚ)
    (htfConfirmation : HigherTimeframeConfirmation) (fundamentalScore : Option PyFloat)
    (settings : Settings) : PyFloat × List String :=
  let upsideComponent := upsideScore target.targetClassification
  let rrComponent := rrScore rewardRiskRatio
  let htfComponent := htfScore htfConfirmation
  let fundamentalComponent := fundamentalScore.getD fundamentalUnknownScore
  let score := PyFloat.add
    (.finite (upsideComponent*settings.compoundingWeightUpside +
      rrComponent*settings.compoundingWeightRiskReward +
      htfComponent*settings.compoundingWeightHigherTimeframe))
    (fundamentalComponent.mul (.finite settings.compoundingWeightFundamental))
  (PyFloat.round2 (clampScore score),
    [target.potentialUpsidePct.elim "Potential upside UNKNOWN" fun potentialUpsidePct =>
        "Potential upside " ++ formatFixed 1 potentialUpsidePct ++ "% (" ++
          target.targetClassification.value ++ ")",
      rewardRiskRatio.elim "Risk/Reward UNKNOWN" fun rewardRiskRatio =>
        "Risk/Reward " ++ formatFixed 2 rewardRiskRatio,
      "Higher-timeframe confirmation: " ++ htfConfirmation.value,
      fundamentalScore.elim "Fundamental quality: UNKNOWN" fun fundamentalScore =>
        "Fundamental quality: " ++ qualityFromScore fundamentalScore])

/-- What a candidate is scored by; the band of its target is the one its upside falls in. -/
structure ScoreInputs where
  target : TargetResult
  rewardRiskRatio : Option ℚ
  htfConfirmation : HigherTimeframeConfirmation
  fundamentalScore : Option PyFloat
  classified : target.targetClassification = classifyUpside target.potentialUpsidePct

/-- Every target the engine derives is in the band of its upside. -/
theorem classified_deriveTarget (price resistanceLevel supportLevel swingHigh : Option ℚ) :
    (deriveTarget price resistanceLevel supportLevel swingHigh).targetClassification =
      classifyUpside (deriveTarget price resistanceLevel supportLevel swingHigh).potentialUpsidePct := by
  unfold deriveTarget
  split
  · rfl
  · dsimp only
    split <;> rfl

namespace ScoreInputs

def score (i : ScoreInputs) (settings : Settings) : PyFloat :=
  (computeScore i.target i.rewardRiskRatio i.htfConfirmation i.fundamentalScore settings).1

/-- The three components that are always numbers. -/
def setup (i : ScoreInputs) (settings : Settings) : ℚ :=
  upsideScore i.target.targetClassification*settings.compoundingWeightUpside +
    rrScore i.rewardRiskRatio*settings.compoundingWeightRiskReward +
    htfScore i.htfConfirmation*settings.compoundingWeightHigherTimeframe

def fundamental (i : ScoreInputs) (settings : Settings) : PyFloat :=
  (i.fundamentalScore.getD fundamentalUnknownScore).mul (.finite settings.compoundingWeightFundamental)

theorem score_eq (i : ScoreInputs) (settings : Settings) : i.score settings =
    PyFloat.round2 (clampScore (PyFloat.add (.finite (i.setup settings)) (i.fundamental settings))) :=
  rfl

end ScoreInputs

/-! ### Monotonicity -/

theorem upsideScore_classifyUpside (q : ℚ) : upsideScore (classifyUpside (some q)) =
    if 15 ≤ q then 90 else if 12 ≤ q then 80 else if 8 ≤ q then 65 else if 5 ≤ q then 45 else 10 := by
  simp only [classifyUpside, bands, List.find?_cons, List.find?_nil]
  by_cases h20 : 20 ≤ q
  · have h15 : 15 ≤ q := le_trans (by norm_num) h20
    simp [h20, h15, upsideScore]
  · by_cases h15 : 15 ≤ q
    · simp [h20, h15, upsideScore]
    · by_cases h12 : 12 ≤ q
      · simp [h20, h15, h12, upsideScore]
      · by_cases h8 : 8 ≤ q
        · simp [h20, h15, h12, h8, upsideScore]
        · by_cases h5 : 5 ≤ q <;> simp [h20, h15, h12, h8, h5, upsideScore]

theorem upsideScore_classifyUpside_mono {x y : ℚ} (hxy : x ≤ y) :
    upsideScore (classifyUpside (some x)) ≤ upsideScore (classifyUpside (some y)) := by
  rw [upsideScore_classifyUpside, upsideScore_classifyUpside]
  split_ifs <;> linarith

theorem rrScore_mono {x y : ℚ} (hxy : x ≤ y) : rrScore (some x) ≤ rrScore (some y) := by
  simp only [rrScore]
  split_ifs <;> linarith

/-- The score before it is rounded, where it is a number. -/
theorem clampScore_finite_eq (q : ℚ) : clampScore (.finite q) = .finite (min (max q 0) 100) := by
  unfold clampScore PyFloat.lt
  rcases lt_or_ge q 0 with hlow | hlow
  · simp [PyFloat.le, hlow, hlow.le]
  · rcases lt_or_ge 100 q with hhigh | hhigh
    · simp [PyFloat.le, hlow, hhigh, hhigh.le]
    · simp [PyFloat.le, hlow, hhigh]

theorem clampScore_mono {x y : PyFloat} (hxy : x.le y = true) :
    (clampScore x).le (clampScore y) = true := by
  have hlow : clampScore (.inf true) = .finite 0 := by decide
  have hhigh : clampScore (.inf false) = .finite 100 := by decide
  rcases x with _ | (_ | _) | p <;> rcases y with _ | (_ | _) | q <;>
    first
    | exact absurd hxy Bool.false_ne_true
    | simp only [hlow, hhigh, clampScore_finite_eq]
  all_goals refine PyFloat.le_finite ?_
  · exact le_rfl
  · norm_num
  · exact le_rfl
  · exact le_min (le_max_right q 0) (by norm_num)
  · exact min_le_right _ _
  · exact min_le_min_right _ (max_le_max_right _ (of_decide_eq_true hxy))

/-- Known, and not lower in the second; or the same in both. -/
def Raised {α : Type*} (le : α → α → Prop) (a b : Option α) : Prop :=
  a = b ∨ ∃ x y, a = some x ∧ b = some y ∧ le x y

namespace ScoreInputs
variable {a b : ScoreInputs} {settings : Settings}

/-- The second candidate is the first with a higher upside, reward for the risk or fundamental score. -/
structure Improves (a b : ScoreInputs) : Prop where
  upside : Raised (· ≤ ·) a.target.potentialUpsidePct b.target.potentialUpsidePct
  rewardRisk : Raised (· ≤ ·) a.rewardRiskRatio b.rewardRiskRatio
  htf : a.htfConfirmation = b.htfConfirmation
  fundamental : Raised (fun x y : PyFloat => x.le y = true) a.fundamentalScore b.fundamentalScore

structure NonnegWeights (settings : Settings) : Prop where
  upside : 0 ≤ settings.compoundingWeightUpside
  riskReward : 0 ≤ settings.compoundingWeightRiskReward
  higherTimeframe : 0 ≤ settings.compoundingWeightHigherTimeframe
  fundamental : 0 ≤ settings.compoundingWeightFundamental

theorem setup_mono (hweights : NonnegWeights settings) (h : Improves a b) :
    a.setup settings ≤ b.setup settings := by
  have hupside : upsideScore a.target.targetClassification ≤
      upsideScore b.target.targetClassification := by
    rw [a.classified, b.classified]
    rcases h.upside with heq | ⟨x,y,ha,hb,hle⟩
    · rw [heq]
    · rw [ha, hb]
      exact upsideScore_classifyUpside_mono hle
  have hrr : rrScore a.rewardRiskRatio ≤ rrScore b.rewardRiskRatio := by
    rcases h.rewardRisk with heq | ⟨x,y,ha,hb,hle⟩
    · rw [heq]
    · rw [ha, hb]
      exact rrScore_mono hle
  unfold setup
  rw [h.htf]
  gcongr
  · exact hweights.upside
  · exact hweights.riskReward

theorem fundamental_mono (hweights : NonnegWeights settings) (h : Improves a b) :
    a.fundamental settings = .nan ∨ b.fundamental settings = .nan ∨
      (a.fundamental settings).le (b.fundamental settings) = true := by
  unfold fundamental
  rcases h.fundamental with heq | ⟨x,y,ha,hb,hle⟩
  · rw [heq]
    generalize PyFloat.mul _ _ = f
    by_cases hnan : f = .nan
    · exact .inl hnan
    · exact .inr (.inr ((PyFloat.le_or_le hnan hnan).elim id id))
  · rw [ha, hb]
    exact PyFloat.mul_mono hweights.fundamental hle

theorem score_of_nan (hnan : a.fundamental settings = .nan) : a.score settings = .nan := by
  rw [score_eq, hnan]
  rfl

/-- No candidate that is improved is scored lower. -/
theorem not_score_lt (hweights : NonnegWeights settings) (h : Improves a b) :
    (b.score settings).lt (a.score settings) = false := by
  rcases fundamental_mono hweights h with hnan | hnan | hle
  · rw [score_of_nan hnan]
    cases b.score settings <;> rfl
  · rw [score_of_nan hnan]
    rfl
  · have hscore : (a.score settings).le (b.score settings) = true := by
      rw [score_eq, score_eq]
      exact PyFloat.round2_mono (clampScore_mono (PyFloat.add_mono (setup_mono hweights h) hle))
    unfold PyFloat.lt
    rw [hscore, Bool.not_true, Bool.and_false]

end ScoreInputs

/-! ### Dominance -/

/-- The fundamental score is unknown or between 0 and 100. -/
def FundamentalOnScale (fundamentalScore : Option PyFloat) : Prop :=
  ∀ x, fundamentalScore = some x → PyFloat.le (.finite 0) x = true ∧ x.le (.finite 100) = true

namespace ScoreInputs
variable {i : ScoreInputs} {settings : Settings}

structure DefaultWeights (settings : Settings) : Prop where
  upside : settings.compoundingWeightUpside = 7/20
  riskReward : settings.compoundingWeightRiskReward = 3/10
  higherTimeframe : settings.compoundingWeightHigherTimeframe = 3/20
  fundamental : settings.compoundingWeightFundamental = 1/5

/-- At least 8% to gain, two and a half times the risk, with the higher timeframe. -/
structure Strong (i : ScoreInputs) : Prop where
  upside : ∃ x, i.target.potentialUpsidePct = some x ∧ 8 ≤ x
  rewardRisk : ∃ x, i.rewardRiskRatio = some x ∧ 5/2 ≤ x
  htf : i.htfConfirmation = .confirmed
  onScale : FundamentalOnScale i.fundamentalScore

/-- Less to gain than to lose, against the higher timeframe. -/
structure Weak (i : ScoreInputs) : Prop where
  rewardRisk : ∃ x, i.rewardRiskRatio = some x ∧ x < 1
  htf : i.htfConfirmation = .notConfirmed
  onScale : FundamentalOnScale i.fundamentalScore

theorem exists_fundamental (h : FundamentalOnScale i.fundamentalScore) :
    ∃ f : ℚ, 0 ≤ f ∧ f ≤ 100 ∧ i.fundamentalScore.getD fundamentalUnknownScore = .finite f := by
  cases hscore : i.fundamentalScore with
  | none => exact ⟨50,by norm_num,by norm_num,rfl⟩
  | some x =>
    obtain ⟨hlow,hhigh⟩ := h x hscore
    rcases x with _ | (_ | _) | f
    · exact absurd hlow Bool.false_ne_true
    · exact absurd hhigh Bool.false_ne_true
    · exact absurd hlow Bool.false_ne_true
    · exact ⟨f,of_decide_eq_true hlow,of_decide_eq_true hhigh,rfl⟩

theorem score_finite (hweights : DefaultWeights settings) {f : ℚ}
    (hf : i.fundamentalScore.getD fundamentalUnknownScore = .finite f) :
    i.score settings = .finite (roundTo 2 (min (max (i.setup settings+f*(1/5)) 0) 100)) := by
  rw [score_eq, fundamental, hf, hweights.fundamental, ← PyFloat.round2_finite, ← clampScore_finite_eq]
  rfl

theorem upsideScore_le (classification : TargetClassification) : upsideScore classification ≤ 90 := by
  cases classification <;> norm_num [upsideScore]

theorem Strong.le_setup (hweights : DefaultWeights settings) (h : i.Strong) :
    271/4 ≤ i.setup settings := by
  obtain ⟨x,hx,h8⟩ := h.upside
  obtain ⟨r,hr,hrr⟩ := h.rewardRisk
  have hupside : 65 ≤ upsideScore i.target.targetClassification := by
    rw [i.classified, hx]
    exact le_trans (by norm_num [upsideScore_classifyUpside]) (upsideScore_classifyUpside_mono h8)
  have hrrScore : rrScore i.rewardRiskRatio = 100 := by
    rw [hr, rrScore, if_neg (by linarith), if_neg (by linarith), if_neg (by linarith)]
  rw [setup, hrrScore, h.htf, hweights.upside, hweights.riskReward, hweights.higherTimeframe, htfScore]
  linarith

theorem Weak.setup_le (hweights : DefaultWeights settings) (h : i.Weak) :
    i.setup settings ≤ 87/2 := by
  obtain ⟨r,hr,hrr⟩ := h.rewardRisk
  have hupside := upsideScore_le i.target.targetClassification
  have hrrScore : rrScore i.rewardRiskRatio = 20 := by rw [hr, rrScore, if_pos hrr]
  rw [setup, hrrScore, h.htf, hweights.upside, hweights.riskReward, hweights.higherTimeframe, htfScore]
  linarith

/-- A strong setup outranks a weak one whatever the latter promises: 67.75 at least, 63.5 at most. -/
theorem weak_lt_strong (hweights : DefaultWeights settings) {weak strong : ScoreInputs}
    (hweak : weak.Weak) (hstrong : strong.Strong) :
    (weak.score settings).lt (strong.score settings) = true := by
  obtain ⟨f,-,hf,hfinite⟩ := exists_fundamental hweak.onScale
  obtain ⟨g,hg,-,hfinite'⟩ := exists_fundamental hstrong.onScale
  have hhigh : roundTo 2 (min (max (weak.setup settings+f*(1/5)) 0) 100) ≤ 127/2 := by
    have hle : min (max (weak.setup settings+f*(1/5)) 0) 100 ≤ 127/2 := by
      refine (min_le_left _ _).trans (max_le ?_ (by norm_num))
      linarith [hweak.setup_le hweights]
    exact (roundTo_mono 2 hle).trans_eq (by decide +kernel)
  have hlow : 271/4 ≤ roundTo 2 (min (max (strong.setup settings+g*(1/5)) 0) 100) := by
    have hle : 271/4 ≤ min (max (strong.setup settings+g*(1/5)) 0) 100 := by
      refine le_min (le_max_of_le_left ?_) (by norm_num)
      linarith [hstrong.le_setup hweights]
    exact (by decide +kernel : (271/4 : ℚ) = roundTo 2 (271/4)).trans_le (roundTo_mono 2 hle)
  rw [score_finite hweights hfinite, score_finite hweights hfinite']
  have hlt : roundTo 2 (min (max (weak.setup settings+f*(1/5)) 0) 100) <
      roundTo 2 (min (max (strong.setup settings+g*(1/5)) 0) 100) := by linarith
  rw [PyFloat.lt, PyFloat.le_finite hlt.le, Bool.true_and, Bool.not_eq_true']
  exact decide_eq_false (not_le.mpr hlt)

/-- The ranking is monotone in the upside, the reward for the risk and the fundamental score, and with
the default weights it is dominated by the setup. -/
theorem ranking_monotone_and_setup_dominated (settings : Settings) :
    (NonnegWeights settings → ∀ a b : ScoreInputs, Improves a b →
      (b.score settings).lt (a.score settings) = false) ∧
    (DefaultWeights settings → ∀ weak strong : ScoreInputs, weak.Weak → strong.Strong →
      (weak.score settings).lt (strong.score settings) = true) :=
  ⟨fun hweights _ _ h => not_score_lt hweights h,fun hweights _ _ => weak_lt_strong hweights⟩

/-- 9% with the trend and three times the risk. -/
def confirmedSetup : ScoreInputs where
  target := ⟨some 109,some 9,.good,"resistance level (not yet cleared)"⟩
  rewardRiskRatio := some 3
  htfConfirmation := .confirmed
  fundamentalScore := some (.finite 40)
  classified := by decide +kernel

/-- 18% against the trend and for half of what it risks. -/
def unconfirmedSetup : ScoreInputs where
  target := ⟨some 118,some 18,.veryStrong,"resistance level (not yet cleared)"⟩
  rewardRiskRatio := some (1/2)
  htfConfirmation := .notConfirmed
  fundamentalScore := some (.finite 100)
  classified := by decide +kernel

example : computeScore confirmedSetup.target confirmedSetup.rewardRiskRatio
    confirmedSetup.htfConfirmation confirmedSetup.fundamentalScore {} =
      (.finite (303/4),["Potential upside 9.0% (GOOD)","Risk/Reward 3.00",
        "Higher-timeframe confirmation: CONFIRMED","Fundamental quality: LOW"]) := by decide +kernel

theorem ranking_monotone_and_setup_dominated_default :
    (score { confirmedSetup with fundamentalScore := some (.finite 60) } {}).lt
        (confirmedSetup.score {}) = false ∧
      (unconfirmedSetup.score {}).lt (confirmedSetup.score {}) = true := by
  obtain ⟨hmono,hdominated⟩ := ranking_monotone_and_setup_dominated {}
  have honScale : ∀ q : ℚ, 0 ≤ q → q ≤ 100 → FundamentalOnScale (some (.finite q)) := by
    rintro q hlow hhigh _ ⟨⟩
    exact ⟨PyFloat.le_finite hlow,PyFloat.le_finite hhigh⟩
  constructor
  · exact hmono ⟨by norm_num,by norm_num,by norm_num,by norm_num⟩ _ _
      ⟨.inl rfl,.inl rfl,rfl,.inr ⟨_,_,rfl,rfl,PyFloat.le_finite (by norm_num)⟩⟩
  · exact hdominated ⟨rfl,rfl,rfl,rfl⟩ _ _
      ⟨⟨_,rfl,by norm_num⟩,rfl,honScale 100 (by norm_num) (by norm_num)⟩
      ⟨⟨_,rfl,by norm_num⟩,⟨_,rfl,by norm_num⟩,rfl,honScale 40 (by norm_num) (by norm_num)⟩

end ScoreInputs

end MarketScanner.Compounding
