import MarketScanner.Candidates.Scanners
import MarketScanner.Decision.Engine
import MarketScanner.Scanner.Redundancy

/-! Which of the registered scanners store snapshots that the decision rules can be applied to. -/
namespace MarketScanner.Scanner
open MarketScanner.Python MarketScanner.Config MarketScanner.Market MarketScanner.Features
open MarketScanner.Candidates

section Registry
variable [Builtins] (settings : Settings) (u : UniverseView)

/-- The scanner that `main` registers under each name. -/
def MainScanner.registered : MainScanner → RegisteredScanner
  | .breakout => .listed (breakoutScanner settings u)
  | .vcp => .listed (vcpScanner settings u)
  | .momentum => .listed (momentumScanner settings u)
  | .orb => .orb (openingRangeScanner settings u)
  | .fnoMomentum => .candidate (fnoMomentumScanner settings u)
  | .preBreakout => .candidate (preBreakoutScanner settings u)
  | .ipoIntraday => .candidate (ipoIntradayScanner settings u)

abbrev MainScanner.base (scanner : MainScanner) : BaseScanner MarketView :=
  (scanner.registered settings u).base settings

end Registry

/-- Every row a context was built from has all its columns. -/
def RegisteredScanner.Populated (settings : Settings) :
    (scanner : RegisteredScanner) → (scanner.base settings).Context → Prop
  | .listed _, context => ScanContext.Populated context
  | .orb _, context => OrbScanContext.Populated context
  | .candidate _, context => CandidateContext.Populated context

/-- The snapshot has the price and every column of the feature row. -/
structure Shows (snapshot : Dict) (price : Numeric4) (daily : DailyFeature) : Prop where
  price : Dict.get snapshot "price" = decimalStr (some price)
  column : ∀ c : Column, Dict.get snapshot c.name = snapshotValue c (daily.values c)

theorem ScanContext.shows {c : ScanContext} {price : Numeric4} (h : c.price = some price) :
    Shows c.featureSnapshot price c.features where
  price := by
    rw [← h]
    rfl
  column := by
    intro column
    have hprice : column.name ≠ "price" := by cases column <;> decide
    rw [← c.features.get_snapshot column]
    unfold Dict.get featureSnapshot
    rw [List.lookup_cons, beq_false_of_ne hprice]

end MarketScanner.Scanner

namespace MarketScanner.Candidates
open MarketScanner.Library MarketScanner.Python MarketScanner.Config MarketScanner.Market
open MarketScanner.Features MarketScanner.Fundamentals MarketScanner.Scanner

/-- A level of a populated row is stored as its column is. -/
theorem decimalStr_level {daily : DailyFeature} (h : daily.Populated) {c : Column}
    (hc : c.type = .numeric 4) : decimalStr (daily.level c) = snapshotValue c (daily.values c) := by
  have hfills := h c
  rw [hc] at hfills
  have hscale : c.scale = 4 := by rw [Column.scale, hc]
  cases hvalue : daily.values c with
  | decimal micros => simp only [DailyFeature.level, hvalue, snapshotValue, hscale, decimalStr]
  | null | bool | int | text =>
    rw [hvalue] at hfills
    cases hfills

theorem featureDate_technicalSnapshot (daily : DailyFeature) (session : Option SessionFeature) :
    Dict.get (technicalSnapshot daily session) "feature_date" = .str daily.date.isoformat := by
  rw [technicalSnapshot, get_setItem, if_pos rfl]

/-- The technical features of a built candidate hold every column. -/
theorem get_technicalSnapshot (daily : DailyFeature) (session : Option SessionFeature) (c : Column) :
    Dict.get (technicalSnapshot daily session) c.name = snapshotValue c (daily.values c) := by
  have hvwap : c.name ≠ "session_vwap" := by cases c <;> decide
  have hdate : c.name ≠ "feature_date" := by cases c <;> decide
  unfold technicalSnapshot
  rw [get_setItem, if_neg hdate]
  split
  · rw [get_setItem, if_neg hvwap, daily.get_snapshot]
  · exact daily.get_snapshot c

/-- The columns that the candidate's own levels are stored under. -/
def levelColumns : List Column := [.breakoutLevel,.supportLevel,.resistanceLevel]

namespace StockCandidate
variable {candidate : StockCandidate}

theorem column_not_mem_entries {c : Column} (hc : c ∉ levelColumns) :
    c.name ∉ candidate.entries.map Prod.fst := by
  intro hmem
  simp only [entries, List.map_cons, List.map_nil] at hmem
  revert hc hmem
  cases c <;> decide

/-- The candidate has the price and the columns of the rows it was built from. -/
structure Holds (candidate : StockCandidate) (c : CandidateContext) : Prop where
  price : candidate.price = some c.price
  breakoutLevel : candidate.breakoutLevel = c.daily.level .breakoutLevel
  supportLevel : candidate.supportLevel = c.daily.level .supportLevel
  resistanceLevel : candidate.resistanceLevel = c.daily.level .resistanceLevel
  technical : ∀ column : Column, Dict.get candidate.technicalFeatureSnapshot column.name =
    snapshotValue column (c.daily.values column)
  featureDate : Dict.get candidate.technicalFeatureSnapshot "feature_date" =
    .str c.daily.date.isoformat

theorem Holds.record {c : CandidateContext} (h : candidate.Holds c) (checks : List (String × Bool))
    (category : AlertCategory) : (candidate.record checks category).Holds c :=
  ⟨h.price,h.breakoutLevel,h.supportLevel,h.resistanceLevel,h.technical,h.featureDate⟩

theorem Holds.get_featureDate {c : CandidateContext} (h : candidate.Holds c) :
    Dict.get candidate.toFeatureSnapshot "feature_date" = .str c.daily.date.isoformat := by
  rw [candidate.get_toFeatureSnapshot_of_not_mem (by simp [entries]), h.featureDate]

theorem Holds.shows {c : CandidateContext} (h : candidate.Holds c) (hpopulated : c.daily.Populated) :
    Shows candidate.toFeatureSnapshot c.price c.daily where
  price := by
    rw [← h.price]
    exact candidate.get_toFeatureSnapshot_of_mem (by simp [entries])
  column := by
    intro column
    by_cases hcolumn : column ∈ levelColumns
    · simp only [levelColumns, List.mem_cons, List.not_mem_nil, or_false] at hcolumn
      rcases hcolumn with rfl | rfl | rfl
      · rw [← decimalStr_level hpopulated rfl, ← h.breakoutLevel]
        exact candidate.get_toFeatureSnapshot_of_mem (by simp [entries, Column.name])
      · rw [← decimalStr_level hpopulated rfl, ← h.supportLevel]
        exact candidate.get_toFeatureSnapshot_of_mem (by simp [entries, Column.name])
      · rw [← decimalStr_level hpopulated rfl, ← h.resistanceLevel]
        exact candidate.get_toFeatureSnapshot_of_mem (by simp [entries, Column.name])
    · rw [candidate.get_toFeatureSnapshot_of_not_mem (column_not_mem_entries hcolumn), h.technical]

end StockCandidate

section Scanners
variable (settings : Settings) (u : UniverseView) (c : CandidateContext)

theorem holds_buildCandidate (scannerName : String) («universe» : Universe) :
    (buildCandidate settings scannerName «universe» c).Holds c :=
  ⟨rfl,rfl,rfl,rfl,get_technicalSnapshot c.daily c.session,
    featureDate_technicalSnapshot c.daily c.session⟩

theorem IpoIntradayScanner.not_mem_ipoEntries (today : Date) (bars : List DailyPrice) {key : String}
    (hkey : key ∉ ["ipo_52w_high","ipo_52w_low","ipo_latest_volume"]) :
    key ∉ (ipoEntries today bars).map Prod.fst := by
  intro hmem
  apply hkey
  unfold ipoEntries at hmem
  rw [List.map_append, List.mem_append] at hmem
  rcases hmem with hhigh | hvolume
  · split at hhigh
    · exact List.mem_append_left ["ipo_latest_volume"] hhigh
    · cases hhigh
  · split at hvolume
    · exact List.mem_append_right ["ipo_52w_high","ipo_52w_low"] hvolume
    · cases hvolume

theorem IpoIntradayScanner.holds_build : (build settings u c).Holds c := by
  refine ⟨rfl,rfl,rfl,rfl,?_,?_⟩
  · intro column
    have hname : column.name ∉ ["ipo_52w_high","ipo_52w_low","ipo_latest_volume"] := by
      cases column <;> decide
    show Dict.get (updateSnapshot (technicalSnapshot c.daily c.session) _) column.name = _
    rw [get_updateSnapshot_of_not_mem (not_mem_ipoEntries u.today c.bars hname),
      get_technicalSnapshot]
  · show Dict.get (updateSnapshot (technicalSnapshot c.daily c.session) _) "feature_date" = _
    rw [get_updateSnapshot_of_not_mem (not_mem_ipoEntries u.today c.bars (by decide)),
      featureDate_technicalSnapshot]

variable {c}

theorem featureSnapshot_candidateStrategy (scanner : MainScanner)
    (build : CandidateContext → StockCandidate) (checks : CandidateChecks)
    (category : StockCandidate → AlertCategory) (c : CandidateContext) :
    (candidateStrategy settings u scanner build checks category).featureSnapshot c =
      ((build c).record ((checks (build c)).toOption.getD []) (category (build c))).toFeatureSnapshot := by
  simp only [candidateStrategy]

theorem shows_candidateStrategy (scanner : MainScanner) {build : CandidateContext → StockCandidate}
    (checks : CandidateChecks) (category : StockCandidate → AlertCategory)
    (hholds : (build c).Holds c) (hpopulated : c.daily.Populated) :
    Shows ((candidateStrategy settings u scanner build checks category).featureSnapshot c) c.price
      c.daily := by
  rw [featureSnapshot_candidateStrategy]
  exact (hholds.record _ (category (build c))).shows hpopulated

theorem shows_fnoMomentumScanner [Builtins] (h : c.daily.Populated) :
    Shows ((fnoMomentumScanner settings u).featureSnapshot c) c.price c.daily := by
  unfold fnoMomentumScanner
  apply shows_candidateStrategy
  · exact holds_buildCandidate settings c MainScanner.fnoMomentum.name .fno
  · exact h

theorem shows_preBreakoutScanner (h : c.daily.Populated) :
    Shows ((preBreakoutScanner settings u).featureSnapshot c) c.price c.daily := by
  unfold preBreakoutScanner
  apply shows_candidateStrategy
  · exact holds_buildCandidate settings c MainScanner.preBreakout.name _
  · exact h

theorem shows_ipoIntradayScanner [Builtins] (h : c.daily.Populated) :
    Shows ((ipoIntradayScanner settings u).featureSnapshot c) c.price c.daily := by
  unfold ipoIntradayScanner
  apply shows_candidateStrategy
  · exact IpoIntradayScanner.holds_build settings u c
  · exact h

end Scanners
end MarketScanner.Candidates

namespace MarketScanner.Scanner
open MarketScanner.Python MarketScanner.Config MarketScanner.Candidates

/-- What the scanner stores of a populated context shows a populated row. -/
def RegisteredScanner.ShowsRow (settings : Settings) (scanner : RegisteredScanner) : Prop :=
  ∀ context, scanner.Populated settings context →
    ∃ price daily, Shows ((scanner.base settings).featureSnapshot context) price daily ∧
      daily.Populated

section Rows
variable (settings : Settings)

theorem RegisteredScanner.showsRow_listed {strategy : Strategy ScanContext}
    (h : strategy.featureSnapshot = ScanContext.featureSnapshot) :
    (RegisteredScanner.listed strategy).ShowsRow settings := by
  rintro (context : ScanContext) ⟨hprice,hpopulated⟩
  obtain ⟨price,hprice⟩ := Option.isSome_iff_exists.mp hprice
  refine ⟨price,context.features,?_,hpopulated⟩
  show Shows (strategy.featureSnapshot context) price context.features
  rw [h]
  exact context.shows hprice

theorem RegisteredScanner.showsRow_candidate {strategy : Strategy CandidateContext}
    (h : ∀ c : CandidateContext, c.daily.Populated →
      Shows (strategy.featureSnapshot c) c.price c.daily) :
    (RegisteredScanner.candidate strategy).ShowsRow settings := by
  rintro (context : CandidateContext) ⟨hpopulated,-⟩
  exact ⟨context.price,context.daily,h context hpopulated,hpopulated⟩

theorem MainScanner.showsRow [Builtins] (u : UniverseView) {scanner : MainScanner}
    (h : scanner ≠ .orb) : (scanner.registered settings u).ShowsRow settings := by
  cases scanner with
  | breakout => exact RegisteredScanner.showsRow_listed settings rfl
  | vcp => exact RegisteredScanner.showsRow_listed settings rfl
  | momentum => exact RegisteredScanner.showsRow_listed settings rfl
  | orb => exact absurd rfl h
  | fnoMomentum =>
    exact RegisteredScanner.showsRow_candidate settings fun _ => shows_fnoMomentumScanner settings u
  | preBreakout =>
    exact RegisteredScanner.showsRow_candidate settings fun _ => shows_preBreakoutScanner settings u
  | ipoIntraday =>
    exact RegisteredScanner.showsRow_candidate settings fun _ => shows_ipoIntradayScanner settings u

end Rows
end MarketScanner.Scanner

namespace MarketScanner.Decisions
open MarketScanner.Library MarketScanner.Python MarketScanner.Config MarketScanner.Market
open MarketScanner.Features MarketScanner.Candidates MarketScanner.Scanner

/-! ### The required features -/

/-- The features required of a scanner's candidates. -/
def requiredOf (scannerName : String) : List String :=
  (requiredFeaturesByScanner.lookup scannerName).getD candidateRequiredFeatureKeys

theorem checkRequiredFeatures_pass_iff {candidate : DecisionCandidate} {settings : Settings}
    {now : DateTime} : Gives (checkRequiredFeatures candidate settings now) .pass ↔
      ∀ key ∈ requiredOf candidate.scannerName,
        DecisionValidator.missingSentinel (candidate.featureSnapshot.get key) = false := by
  unfold checkRequiredFeatures
  dsimp only
  rw [← requiredOf, gives_ok_iff]
  split
  · rename_i hempty
    refine iff_of_true rfl fun key hkey => ?_
    rw [List.isEmpty_iff, DecisionValidator.missingFeatures, List.filter_eq_nil_iff] at hempty
    exact eq_false_of_ne_true (hempty key hkey)
  · rename_i hne
    refine iff_of_false (fun hstatus => by cases hstatus) fun hall => hne ?_
    rw [List.isEmpty_iff, DecisionValidator.missingFeatures, List.filter_eq_nil_iff]
    intro key hkey
    rw [hall key hkey]
    decide

/-- Every required feature is the price or a decimal column. -/
theorem requiredOf_cases {scannerName key : String} (h : key ∈ requiredOf scannerName) :
    key = "price" ∨ ∃ (c : Column) (scale : ℕ), c.name = key ∧ c.type = .numeric scale := by
  have hkey : key ∈ requiredFeatureKeys := by
    unfold requiredOf requiredFeaturesByScanner at h
    rw [List.lookup_cons] at h
    split at h
    · exact h
    · have hsubset : ∀ key ∈ candidateRequiredFeatureKeys, key ∈ requiredFeatureKeys := by decide
      exact hsubset key h
  simp only [requiredFeatureKeys, List.mem_cons, List.not_mem_nil, or_false] at hkey
  rcases hkey with rfl | rfl | rfl | rfl | rfl | rfl | rfl
  · exact Or.inl rfl
  · exact Or.inr ⟨.ema20,4,rfl,rfl⟩
  · exact Or.inr ⟨.ema50,4,rfl,rfl⟩
  · exact Or.inr ⟨.ema200,4,rfl,rfl⟩
  · exact Or.inr ⟨.adx14,2,rfl,rfl⟩
  · exact Or.inr ⟨.relativeVolume,4,rfl,rfl⟩
  · exact Or.inr ⟨.resistanceLevel,4,rfl,rfl⟩

theorem not_missing_decimalText (scale : ℕ) (n : ℤ) :
    DecisionValidator.missingSentinel (.str (decimalText scale n)) = false :=
  beq_false_of_ne (decimalText_ne_none scale n)

/-- A snapshot that shows a populated row has all that can be required. -/
theorem pass_of_shows {candidate : DecisionCandidate} {price : Numeric4} {daily : DailyFeature}
    (hshows : Shows candidate.featureSnapshot price daily) (hpopulated : daily.Populated)
    (settings : Settings) (now : DateTime) :
    Gives (checkRequiredFeatures candidate settings now) .pass := by
  rw [checkRequiredFeatures_pass_iff]
  intro key hkey
  rcases requiredOf_cases hkey with rfl | ⟨c,scale,rfl,htype⟩
  · rw [hshows.price]
    exact not_missing_decimalText 4 price.units
  · rw [hshows.column]
    have hfills := hpopulated c
    rw [htype] at hfills
    cases hvalue : daily.values c with
    | decimal micros => exact not_missing_decimalText c.scale (atScale c.scale micros)
    | null | bool | int | text =>
      rw [hvalue] at hfills
      cases hfills

/-- The row that a scanner stores for a context, as the candidate that is decided on. -/
def storedCandidate {ω : Type} (scanner : BaseScanner ω) (context : scanner.Context)
    (symbolName : String) (outcome : ScanOutcome) (score : ℚ) : DecisionCandidate :=
  DecisionEngine.candidateOf symbolName (scanner.resultRow context outcome score)

theorem featureSnapshot_storedCandidate {settings : Settings} (strategy : Strategy CandidateContext)
    (c : CandidateContext) (symbolName : String) (outcome : ScanOutcome) (score : ℚ) :
    (storedCandidate (candidateScanner settings strategy) c symbolName outcome score).featureSnapshot =
      strategy.featureSnapshot c := rfl

section Coverage
variable [Builtins] (settings : Settings) (u : UniverseView) (symbolName : String)
variable (outcome : ScanOutcome) (score : ℚ) (now : DateTime)

/-- A populated context but one of `orb_v1` has all that is required. -/
theorem required_pass {scanner : MainScanner} (horb : scanner ≠ .orb)
    {context : (scanner.base settings u).Context}
    (h : (scanner.registered settings u).Populated settings context) :
    Gives (checkRequiredFeatures (storedCandidate (scanner.base settings u) context symbolName outcome
      score) settings now) .pass := by
  obtain ⟨price,daily,hshows,hpopulated⟩ := MainScanner.showsRow settings u horb context h
  exact pass_of_shows hshows hpopulated settings now

/-- No context of `orb_v1` does: the session features have neither ADX nor relative volume. -/
theorem required_fail (context : OrbScanContext) :
    ¬Gives (checkRequiredFeatures (storedCandidate (MainScanner.orb.base settings u) context symbolName
      outcome score) settings now) .pass := by
  rw [checkRequiredFeatures_pass_iff]
  intro hall
  have hrequired : "adx14" ∈ requiredOf "orb_v1" := by decide
  have hadx := hall "adx14" hrequired
  have hget : Dict.get context.featureSnapshot "adx14" = .none := by
    simp [Dict.get, OrbScanContext.featureSnapshot, SessionFeature.snapshot, SessionFeature.columns,
      List.lookup_cons]
  have hmissing : DecisionValidator.missingSentinel (Dict.get context.featureSnapshot "adx14") = false :=
    hadx
  rw [hget] at hmissing
  cases hmissing

end Coverage
end MarketScanner.Decisions
