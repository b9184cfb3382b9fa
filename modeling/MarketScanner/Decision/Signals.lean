import MarketScanner.Decision.Coverage
import MarketScanner.Decision.Exactness

/-! A scanner's signals can be decided on when its snapshots have what is required and some qualified
result becomes an ALERT. One strong day shows the second for every scanner but `orb_v1`. -/
namespace MarketScanner.Scanner
open MarketScanner.Python MarketScanner.Config MarketScanner.Market MarketScanner.Features

theorem ScannerValidator.requireRanges_valid [Builtins] {context : ScanContext}
    {ranges : List (Column × ℚ × ℚ)} (h : ∀ range ∈ ranges,
      ∀ x ∈ context.features.number range.1, range.2.1 ≤ x ∧ x ≤ range.2.2) :
    requireRanges context ranges = ⟨true,none⟩ := by
  induction ranges with
  | nil => rfl
  | cons range ranges ih =>
    have hrest := ih fun r hr => h r (List.mem_cons_of_mem range hr)
    rw [requireRanges]
    split
    · exact hrest
    · rename_i x hx
      rw [if_pos (h range List.mem_cons_self x hx), hrest]

end MarketScanner.Scanner

namespace MarketScanner.Decisions
open MarketScanner.Library MarketScanner.Python MarketScanner.Config MarketScanner.Market
open MarketScanner.Universe MarketScanner.Features MarketScanner.Candidates MarketScanner.Scanner

/-- `float` and `date.fromisoformat` read what `str` and `isoformat` wrote: of every decimal the nearest
double, and the day back. -/
structure ReadsBack [Builtins] (day : Date) : Prop where
  decimal : ∀ (scale : ℕ) (n : ℤ), 0 < scale →
    Builtins.floatOfStr (decimalText scale n) = some (PyFloat.finite (n/10^scale)).rounded
  date : Builtins.dateFromIso day.isoformat = some day

/-- A context is valid and the scan of it qualifies, with an outcome. -/
def Qualifies {ω : Type} (scanner : BaseScanner ω) (context : scanner.Context)
    (outcome : ScanOutcome) : Prop :=
  (∃ validation, scanner.validate context = .ok validation ∧ validation.valid = true) ∧
    scanner.scan context = .ok outcome ∧ outcome.qualified = true

/-- Under the default settings the candidate is decided on, and the decision is an ALERT. -/
def BecomesAlert [Builtins] (candidate : DecisionCandidate) (now : DateTime) : Prop :=
  ∃ result, DecisionEvaluator.evaluate {} candidate now = .ok result ∧ result.decision = .alert

/-- Under the default settings some qualified result of a populated context becomes an ALERT. -/
def CanAlert [Builtins] (scanner : RegisteredScanner) : Prop :=
  ∃ (context : (scanner.base {}).Context) (outcome : ScanOutcome) (score : ℚ) (symbolName : String)
    (now : DateTime), scanner.Populated {} context ∧ Qualifies (scanner.base {}) context outcome ∧
      (scanner.base {}).score context = .ok score ∧
      BecomesAlert (storedCandidate (scanner.base {}) context symbolName outcome score) now

/-! ### A strong day -/

def strongDay : Date := Date.ofCivil 2026 1 6

/-- Ten in the morning in India. -/
def strongMoment : DateTime := DateTime.ofUtc strongDay 270

def strongValue : Column → FieldValue
  | .ema20 => .decimal 98000000
  | .ema50 => .decimal 97000000
  | .ema200 => .decimal 90000000
  | .trendStrength => .decimal 90000000
  | .rsi14 => .decimal 60000000
  | .macdHistogram => .decimal 1000000
  | .adx14 => .decimal 30000000
  | .momentumScore => .decimal 80000000
  | .relativeVolume => .decimal 3000000
  | .accumulationScore => .decimal 60000000
  | .distributionScore => .decimal 20000000
  | .resistanceLevel => .decimal 100000000
  | .rsVsNifty => .decimal 20000000
  | c =>
    match c.type with
    | .numeric _ => .decimal 95000000
    | .boolean => .bool true
    | .integer => .int 20
    | .string => .text "up"

def strongRow : DailyFeature := ⟨1,strongDay,strongValue⟩

def strongSession : SessionFeature :=
  let level : Option Numeric4 := some ⟨970000⟩
  ⟨1,strongDay,level,level,level,level,level,level,level,level,level⟩

def strongSymbol : Row SymbolRow := ⟨1,{
  symbol := "RELIANCE"
  exchange := "NSE"
  instrumentToken := "A"
  companyName := none
  sector := none
  industry := none
  listingDate := none
  isActive := true }⟩

def strongView : UniverseView := ⟨strongDay,ScanOrder.insertion _,Table.empty,[]⟩

/-- Just below resistance. -/
def priceBelow : Numeric4 := ⟨990000⟩

/-- Just through it. -/
def priceThrough : Numeric4 := ⟨1010000⟩

def strongScan : ScanContext := ⟨strongSymbol,strongRow,some priceBelow⟩

def strongOrb : OrbScanContext :=
  ⟨strongSymbol,strongSession,some priceBelow,some strongDay,some strongRow⟩

def strongCandidate (price : Numeric4) : CandidateContext :=
  ⟨strongSymbol,strongRow,price,some strongSession,
    [⟨1,strongDay,⟨950000⟩,⟨1010000⟩,⟨400000⟩,price,300000,none⟩],strongMoment⟩

theorem populated_strongRow : strongRow.Populated := by
  intro c
  cases c <;> rfl

theorem populated_strongSession : strongSession.Populated := by
  intro column hcolumn
  simp only [SessionFeature.columns, strongSession, List.mem_cons, List.not_mem_nil, or_false]
    at hcolumn
  rcases hcolumn with rfl | rfl | rfl | rfl | rfl | rfl | rfl | rfl | rfl <;> rfl

section Reading
variable [Builtins] (h : ReadsBack strongDay) {snapshot : Dict} {price : Numeric4}
variable {daily : DailyFeature}
include h

/-- A decimal column of the snapshot reads as its number, rounded to a double. -/
theorem asFloat_column (hshows : Shows snapshot price daily) {c : Column} {q : ℚ}
    (hq : daily.number c = some q) :
    DecisionValidator.asFloat snapshot c.name = .ok (some (PyFloat.finite q).rounded) := by
  obtain ⟨n,htext,rfl⟩ := daily.snapshotValue_of_number c hq
  unfold DecisionValidator.asFloat
  rw [hshows.column, htext]
  dsimp only
  rw [not_missing_decimalText, if_neg Bool.false_ne_true, PyValue.toFloat, h.decimal _ _ c.scale_pos]
  rfl

theorem asFloat_price (hshows : Shows snapshot price daily) :
    DecisionValidator.asFloat snapshot "price" =
      .ok (some (PyFloat.finite (price.units/10^4)).rounded) := by
  unfold DecisionValidator.asFloat
  rw [hshows.price, decimalStr]
  dsimp only
  rw [not_missing_decimalText, if_neg Bool.false_ne_true, PyValue.toFloat, h.decimal _ _ (by decide)]
  rfl

/-- Whatever shows the strong row of the day, just off resistance and with a high score, becomes an
ALERT. -/
theorem alert_of_shows {candidate : DecisionCandidate}
    (hshows : Shows candidate.featureSnapshot price strongRow)
    (hprice : price = priceBelow ∨ price = priceThrough)
    (hfresh : (effectiveFreshnessDate candidate).1 = strongDay)
    (hscore : PyFloat.le (.finite 80) candidate.score = true) :
    BecomesAlert candidate strongMoment := by
  have reads : ∀ (c : Column) (q : ℚ), strongRow.number c = some q →
      (PyFloat.finite q).rounded = .finite q →
        DecisionValidator.asFloat candidate.featureSnapshot c.name = .ok (some (.finite q)) := by
    intro c q hq hexact
    rw [asFloat_column h hshows hq, hexact]
  have hadx := reads .adx14 30 (by decide +kernel) (by decide +kernel)
  have hrvol := reads .relativeVolume 3 (by decide +kernel) (by decide +kernel)
  have hema20 := reads .ema20 98 (by decide +kernel) (by decide +kernel)
  have hema50 := reads .ema50 97 (by decide +kernel) (by decide +kernel)
  have hema200 := reads .ema200 90 (by decide +kernel) (by decide +kernel)
  have hresistance := reads .resistanceLevel 100 (by decide +kernel) (by decide +kernel)
  simp only [Column.name] at hadx hrvol hema20 hema50 hema200 hresistance
  have hopen : MarketCalendar.isMarketOpen {} strongMoment = true := by decide +kernel
  refine DecisionEvaluator.exists_alert_iff.mpr ?_
  simp only [rules, List.forall_mem_cons, List.not_mem_nil, false_imp_iff, implies_true, and_true]
  refine ⟨pass_of_shows hshows populated_strongRow {} strongMoment,?_,?_,?_,?_,?_,?_,?_⟩
  · have hcurrent : DecisionValidator.isFresh strongDay ({} : Settings).decisionMaxDataAgeDays
        (Core.toMarketTime strongMoment ({} : Settings).marketTimezone).date = true := by
      decide +kernel
    rw [checkDataFreshness, gives_ok_iff]
    simp only [hfresh, hcurrent, passOrFail, if_true]
  · rw [checkMinimumScore, gives_ok_iff]
    exact checkAtLeast_pass_iff.mpr ⟨_,rfl,hscore⟩
  · have hstack : (PyFloat.lt (.finite 97) (.finite 98) && PyFloat.lt (.finite 90) (.finite 97)) =
        true := by decide +kernel
    unfold checkTrend
    split
    · rw [hema20, hema50, hema200]
      refine gives_ok_iff.mpr ?_
      simp only [hstack, passOrFail, if_true]
    · exact gives_ok_iff.mpr rfl
  · rw [checkRelativeVolume, hrvol]
    exact gives_ok_iff.mpr (checkAtLeast_pass_iff.mpr ⟨_,rfl,by decide +kernel⟩)
  · rw [checkAdx, hadx]
    exact gives_ok_iff.mpr (checkAtLeast_pass_iff.mpr ⟨_,rfl,by decide +kernel⟩)
  · have hnear : PyFloat.le (distancePct (PyFloat.finite (price.units/10^4)).rounded (.finite 100))
        ({} : Settings).decisionResistanceDistancePercent = true := by
      rcases hprice with rfl | rfl <;> decide +kernel
    unfold checkResistanceProximity
    split
    · rw [asFloat_price h hshows, hresistance]
      refine gives_ok_iff.mpr ?_
      simp only [hnear, passOrFail, if_true]
    · exact gives_ok_iff.mpr rfl
  · rw [checkMarketSession, gives_ok_iff]
    simp only [hopen, if_true]

/-- What a listed scanner stores on the strong day becomes an ALERT. -/
theorem alert_listed {strategy : Strategy ScanContext}
    (hsnapshot : strategy.featureSnapshot = ScanContext.featureSnapshot) (symbolName : String)
    (outcome : ScanOutcome) :
    BecomesAlert (storedCandidate (listedScanner strategy) strongScan symbolName outcome
      (compositeScore {} strongScan)) strongMoment := by
  have hstored : (storedCandidate (listedScanner strategy) strongScan symbolName outcome
      (compositeScore {} strongScan)).featureSnapshot = strongScan.featureSnapshot := by
    show strategy.featureSnapshot strongScan = _
    rw [hsnapshot]
  have hshows : Shows (storedCandidate (listedScanner strategy) strongScan symbolName outcome
      (compositeScore {} strongScan)).featureSnapshot priceBelow strongRow := by
    rw [hstored]
    exact strongScan.shows rfl
  refine alert_of_shows h hshows (Or.inl rfl) ?_ ?_
  · have hdate : (strongScan.featureSnapshot.lookup "feature_date").isNone = true := by
      decide +kernel
    unfold effectiveFreshnessDate
    rw [hstored, Dict.get, Option.isNone_iff_eq_none.mp hdate]
    rfl
  · show PyFloat.le (.finite 80) (.finite (PyFloat.roundHalfEven (compositeScore {} strongScan*100)/100))
      = true
    decide +kernel

/-- What a candidate scanner stores on the strong day does, if its score is high. -/
theorem alert_candidate {scanner : MainScanner} {build : CandidateContext → StockCandidate}
    {checks : CandidateChecks} {category : StockCandidate → AlertCategory}
    (hprice : price = priceBelow ∨ price = priceThrough)
    (hholds : (build (strongCandidate price)).Holds (strongCandidate price))
    (symbolName : String) (outcome : ScanOutcome) {score : ℚ}
    (hscore : PyFloat.le (.finite 80) (.finite (PyFloat.roundHalfEven (score*100)/100)) = true) :
    BecomesAlert (storedCandidate (candidateScanner {}
      (candidateStrategy {} strongView scanner build checks category)) (strongCandidate price) symbolName
        outcome score) strongMoment := by
  have hrecord := hholds.record ((checks (build (strongCandidate price))).toOption.getD [])
    (category (build (strongCandidate price)))
  refine alert_of_shows h ?_ hprice ?_ hscore
  · rw [featureSnapshot_storedCandidate]
    exact shows_candidateStrategy {} strongView scanner checks category hholds populated_strongRow
  · unfold effectiveFreshnessDate
    rw [featureSnapshot_storedCandidate, featureSnapshot_candidateStrategy, hrecord.get_featureDate]
    have hdate : Builtins.dateFromIso (strongCandidate price).daily.date.isoformat = some strongDay :=
      h.date
    dsimp only
    rw [hdate]

/-- The technical features of a candidate of the strong day read as the numbers of its row. -/
theorem feature_of_holds {candidate : StockCandidate} (hholds : candidate.Holds (strongCandidate price))
    {c : Column} {q : ℚ} (hq : strongRow.number c = some q) :
    candidate.feature c.name = .ok (some (PyFloat.finite q).rounded) := by
  obtain ⟨n,htext,rfl⟩ := strongRow.snapshotValue_of_number c hq
  have hget : Dict.get candidate.technicalFeatureSnapshot c.name = .str (decimalText c.scale n) := by
    rw [← htext, hholds.technical]
    rfl
  rw [StockCandidate.feature, hget, Candidates.asFloat, PyValue.toFloat, h.decimal _ _ c.scale_pos]
  rfl

end Reading

/-! ### Each scanner on the strong day -/

section Scanners
variable [Builtins]

theorem qualifies_breakout :
    ∃ outcome, Qualifies (listedScanner (breakoutScanner {} strongView)) strongScan outcome := by
  have hfields : (ScannerValidator.requireFields strongScan
      (.price::BreakoutScanner.requiredFields)).valid = true := by decide +kernel
  have hranges : ScannerValidator.requireRanges strongScan BreakoutScanner.rangeChecks =
      ⟨true,none⟩ := ScannerValidator.requireRanges_valid (by decide +kernel)
  have hvalid : (BreakoutScanner.validate strongScan).valid = true := by
    simp only [BreakoutScanner.validate, hfields, hranges, Bool.not_true, Bool.false_eq_true, if_false]
  have hscan : (BreakoutScanner.scan {} strongScan).toOption.any ScanOutcome.qualified = true := by
    decide +kernel
  cases hresult : BreakoutScanner.scan {} strongScan with
  | error text =>
    rw [hresult] at hscan
    cases hscan
  | ok outcome =>
    rw [hresult] at hscan
    exact ⟨outcome,⟨_,rfl,hvalid⟩,hresult,hscan⟩

omit [Builtins] in
theorem qualifies_vcp :
    ∃ outcome, Qualifies (listedScanner (vcpScanner {} strongView)) strongScan outcome :=
  ⟨_,⟨_,rfl,rfl⟩,rfl,rfl⟩

theorem qualifies_momentum :
    ∃ outcome, Qualifies (listedScanner (momentumScanner {} strongView)) strongScan outcome := by
  have hscore : strongScan.features.number .momentumScore = some 80 := by decide +kernel
  have hthreshold : ({} : Settings).scannerMomentumMinScore ≤ 80 := by decide +kernel
  have hscan : ∃ outcome, MomentumScanner.scan {} strongScan = .ok outcome ∧
      outcome.qualified = true := by
    simp only [MomentumScanner.scan, hscore, hthreshold, if_true]
    exact ⟨_,rfl,rfl⟩
  obtain ⟨outcome,hscan,hqualified⟩ := hscan
  exact ⟨outcome,⟨_,rfl,rfl⟩,hscan,hqualified⟩

end Scanners

/-! ### Signals that can be decided on -/

/-- Every populated context of the scanner has what is required, and some qualified result of it becomes
an ALERT. -/
structure SignalsDecidable [Builtins] (scanner : MainScanner) : Prop where
  required : ∀ (settings : Settings) (u : UniverseView) (context : (scanner.base settings u).Context)
    (symbolName : String) (outcome : ScanOutcome) (score : ℚ) (now : DateTime),
    (scanner.registered settings u).Populated settings context →
      Gives (checkRequiredFeatures (storedCandidate (scanner.base settings u) context symbolName outcome
        score) settings now) .pass
  alert : ∃ u : UniverseView, CanAlert (scanner.registered {} u)

section Signals
variable [Builtins] (h : ReadsBack strongDay)
include h

theorem canAlert_listed {strategy : Strategy ScanContext}
    (hsnapshot : strategy.featureSnapshot = ScanContext.featureSnapshot)
    (hscore : strategy.score strongScan = .ok (compositeScore {} strongScan))
    (hqualifies : ∃ outcome, Qualifies (listedScanner strategy) strongScan outcome) :
    CanAlert (.listed strategy) := by
  obtain ⟨outcome,hqualifies⟩ := hqualifies
  exact ⟨strongScan,outcome,compositeScore {} strongScan,"RELIANCE",strongMoment,
    ⟨rfl,populated_strongRow⟩,hqualifies,hscore,alert_listed h hsnapshot "RELIANCE" outcome⟩

theorem canAlert_candidate {scanner : MainScanner} {build : CandidateContext → StockCandidate}
    {checks : CandidateChecks} {category : StockCandidate → AlertCategory}
    {price : Numeric4} (hprice : price = priceBelow ∨ price = priceThrough)
    (hholds : (build (strongCandidate price)).Holds (strongCandidate price))
    (hvalid : (validate (build (strongCandidate price))).valid = true)
    {results : List (String × Bool)} (hresults : checks (build (strongCandidate price)) = .ok results)
    (hpassed : allPassed results = true)
    (hscore : PyFloat.le (.finite 80) (.finite
      (PyFloat.roundHalfEven ((build (strongCandidate price)).score*100)/100)) = true) :
    CanAlert (.candidate (candidateStrategy {} strongView scanner build checks category)) := by
  have hscan : (checks (build (strongCandidate price))).map (fun results =>
      (⟨allPassed results,checksReason results⟩ : ScanOutcome)) =
        .ok ⟨allPassed results,checksReason results⟩ := by
    rw [hresults]
    rfl
  exact ⟨strongCandidate price,⟨_,checksReason results⟩,(build (strongCandidate price)).score,"RELIANCE",
    strongMoment,⟨populated_strongRow,strongSession,rfl,populated_strongSession⟩,
    ⟨⟨_,rfl,hvalid⟩,hscan,hpassed⟩,rfl,alert_candidate h hprice hholds "RELIANCE" _ hscore⟩

theorem canAlert_fnoMomentum : CanAlert (.candidate (fnoMomentumScanner {} strongView)) := by
  have hholds : (FnoMomentumScanner.build {} (strongCandidate priceThrough)).Holds
      (strongCandidate priceThrough) := holds_buildCandidate {} _ MainScanner.fnoMomentum.name .fno
  suffices hchecks : ∃ results, FnoMomentumScanner.checks {}
      (FnoMomentumScanner.build {} (strongCandidate priceThrough)) = .ok results ∧
        allPassed results = true by
    obtain ⟨results,hresults,hpassed⟩ := hchecks
    exact canAlert_candidate h (Or.inr rfl) hholds (by decide +kernel) hresults hpassed
      (by decide +kernel)
  generalize hcandidate : FnoMomentumScanner.build {} (strongCandidate priceThrough) = candidate
    at hholds ⊢
  have hrvol : candidate.feature "relative_volume" = .ok (some (PyFloat.finite 3).rounded) :=
    feature_of_holds h hholds (c := .relativeVolume) (by decide +kernel)
  have hadx : candidate.feature "adx14" = .ok (some (PyFloat.finite 30).rounded) :=
    feature_of_holds h hholds (c := .adx14) (by decide +kernel)
  have hstate : candidate.setupState = some .breakoutConfirmed := by
    rw [← hcandidate]
    decide +kernel
  have hscore : PyFloat.le (.finite ({} : Settings).fnoMomentumMinScore) candidate.overallScore =
      true := by
    rw [← hcandidate]
    decide +kernel
  rw [FnoMomentumScanner.checks, hrvol, hadx, hstate, hscore]
  exact ⟨_,rfl,by decide +kernel⟩

theorem canAlert_preBreakout : CanAlert (.candidate (preBreakoutScanner {} strongView)) := by
  have hholds : (PreBreakoutScanner.build {} strongView (strongCandidate priceBelow)).Holds
      (strongCandidate priceBelow) := holds_buildCandidate {} _ MainScanner.preBreakout.name _
  exact canAlert_candidate h (Or.inl rfl) hholds (by decide +kernel) rfl (by decide +kernel)
    (by decide +kernel)

theorem canAlert_ipoIntraday : CanAlert (.candidate (ipoIntradayScanner {} strongView)) := by
  have hholds := IpoIntradayScanner.holds_build {} strongView (strongCandidate priceBelow)
  suffices hchecks : ∃ results, IpoIntradayScanner.checks {}
      (IpoIntradayScanner.build {} strongView (strongCandidate priceBelow)) = .ok results ∧
        allPassed results = true by
    obtain ⟨results,hresults,hpassed⟩ := hchecks
    exact canAlert_candidate h (Or.inl rfl) hholds (by decide +kernel) hresults hpassed
      (by decide +kernel)
  have hentry : ∀ entry ∈ [("ipo_52w_high",PyValue.str (decimalText 4 1010000)),
      ("ipo_52w_low",.str (decimalText 4 400000)),("ipo_latest_volume",.int 300000)],
      Dict.get (IpoIntradayScanner.build {} strongView
        (strongCandidate priceBelow)).technicalFeatureSnapshot entry.1 = entry.2 :=
    fun entry hentry => Fundamentals.get_updateSnapshot_of_mem (by decide +kernel) hentry
  simp only [List.forall_mem_cons, List.not_mem_nil, false_imp_iff, implies_true, and_true] at hentry
  generalize hcandidate : IpoIntradayScanner.build {} strongView (strongCandidate priceBelow) =
    candidate at hholds hentry ⊢
  obtain ⟨hhigh,hlow,hvolume⟩ := hentry
  have hrvol : candidate.feature "relative_volume" = .ok (some (PyFloat.finite 3).rounded) :=
    feature_of_holds h hholds (c := .relativeVolume) (by decide +kernel)
  have hstate : candidate.setupState = some .preBreakout := by
    rw [← hcandidate]
    decide +kernel
  have hscore : PyFloat.le (.finite ({} : Settings).ipoIntradayMinScore) candidate.overallScore =
      true := by
    rw [← hcandidate]
    decide +kernel
  have hdecimal : ∀ n : ℤ, Candidates.asFloat (.str (decimalText 4 n)) =
      .ok (some (PyFloat.finite (n/10^4)).rounded) := by
    intro n
    rw [Candidates.asFloat, PyValue.toFloat, h.decimal 4 n (by decide)]
    rfl
  have hint : Candidates.asFloat (.int 300000) = .ok (some (.finite 300000)) := by
    have hfloat : PyFloat.ofInt 300000 = some (.finite 300000) := by decide +kernel
    rw [Candidates.asFloat, PyValue.toFloat, hfloat]
    rfl
  unfold IpoIntradayScanner.checks
  rw [hrvol, hstate, hscore, StockCandidate.feature, hhigh, hdecimal, StockCandidate.feature, hlow,
    hdecimal, StockCandidate.feature, hvolume, hint, hholds.price]
  exact ⟨_,rfl,by decide +kernel⟩

end Signals

/-- Just the signals of `orb_v1` cannot be decided on. -/
theorem signalsDecidable_iff [Builtins] (h : ReadsBack strongDay) (scanner : MainScanner) :
    SignalsDecidable scanner ↔ scanner ≠ .orb := by
  constructor
  · rintro hdecidable rfl
    obtain ⟨u,context,outcome,score,symbolName,now,hpopulated,-⟩ := hdecidable.alert
    exact required_fail {} u symbolName outcome score now context
      (hdecidable.required {} u context symbolName outcome score now hpopulated)
  · intro horb
    refine ⟨fun settings u context symbolName outcome score now hpopulated =>
      required_pass settings u symbolName outcome score now horb hpopulated,strongView,?_⟩
    cases scanner with
    | breakout => exact canAlert_listed h rfl rfl qualifies_breakout
    | vcp => exact canAlert_listed h rfl rfl qualifies_vcp
    | momentum => exact canAlert_listed h rfl rfl qualifies_momentum
    | orb => exact absurd rfl horb
    | fnoMomentum => exact canAlert_fnoMomentum h
    | preBreakout => exact canAlert_preBreakout h
    | ipoIntraday => exact canAlert_ipoIntraday h

/-- Texts of decimals read as the nearest doubles, and the strong day's as the day. -/
abbrev decimalBuiltins : Builtins :=
  { Builtins.tabulated [] [] [(strongDay.isoformat,strongDay)] with
    floatOfStr text := (floatOfDecimal text).map PyFloat.rounded }

theorem signalsDecidable_iff_breakout :
    @SignalsDecidable decimalBuiltins .breakout ↔ MainScanner.breakout ≠ .orb :=
  @signalsDecidable_iff decimalBuiltins
    (@ReadsBack.mk decimalBuiltins strongDay
      (fun _ n hscale => congrArg (Option.map PyFloat.rounded) (floatOfDecimal_decimalText hscale n))
      (by decide +kernel)) .breakout

/-- The price has broken out of the opening range, every column is there, and the features that are
required are not. -/
theorem strongOrb_missing :
    ¬ ∀ scanner ∈ MainScanner.registry, @SignalsDecidable decimalBuiltins scanner := by
  intro h
  have hpopulated : strongOrb.Populated :=
    ⟨rfl,rfl,populated_strongSession,strongRow,rfl,populated_strongRow⟩
  have hpass := @SignalsDecidable.required decimalBuiltins .orb (h .orb (by decide)) {} strongView
    strongOrb "RELIANCE" ⟨true,"price 99.0000 above opening_range_high 97.0000 (bullish ORB)"⟩
    (OrbScanner.score {} strongOrb) strongMoment hpopulated
  rw [checkRequiredFeatures, gives_ok_iff] at hpass
  revert hpass
  decide +kernel

end MarketScanner.Decisions
