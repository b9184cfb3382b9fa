import MarketScanner.Analytics.Regime
import MarketScanner.Analytics.RotationHistory
import MarketScanner.Library.Loop

/-! The sectors: the evidence on each sector index, its score, and the sectors grouped by the quadrant they
rotate through. -/
namespace MarketScanner.Analytics
open MarketScanner.Library MarketScanner.Python MarketScanner.Market MarketScanner.Features
open MarketScanner.Features.Series MarketScanner.Config MarketScanner.Universe

inductive SectorRotationState
  | leading | weakening | lagging | strengthening
  deriving DecidableEq, Repr

/-- `_ROTATION_STATE_FROM_QUADRANT`. -/
def rotationStateOf : RrgQuadrant → SectorRotationState
  | .leading => .leading
  | .weakening => .weakening
  | .lagging => .lagging
  | .improving => .strengthening

/-- `rotation_state_from_quadrant`. -/
def rotationStateFromQuadrant (quadrant : Option RrgQuadrant) : Option SectorRotationState :=
  quadrant.map rotationStateOf

/-- `_to_probability_score`; all of the distribution is on one side of an infinity. -/
def sectorProbabilityScore (cdf : ℚ → ℚ) : PyFloat → Option ℚ
  | .nan => none
  | .inf negative => some (if negative then 0 else 100)
  | .finite z => some (toProbabilityScore cdf z)

/-- `_clamp_0_100`. -/
def clamp0To100 (value : ℚ) : ℚ := max 0 (min 100 value)

/-- The weights of the sector score among the settings. -/
structure SectorSettings where
  sectorScoreWeightRelativeStrength : ℚ := 1/8
  sectorScoreWeightRrgMomentum : ℚ := 1/8
  sectorScoreWeightMomentum : ℚ := 1/8
  sectorScoreWeightTrend : ℚ := 1/8
  sectorScoreWeightPricePerformance : ℚ := 1/8
  sectorScoreWeightMomentumAcceleration : ℚ := 1/8
  sectorScoreWeightBreadth : ℚ := 1/8
  sectorScoreWeightVolumeParticipation : ℚ := 1/8

structure SectorEvidence where
  sectorSymbol : String
  benchmarkSymbol : String
  date : Date
  rs : Option PyFloat
  rsRatio : Option PyFloat
  rsMomentum : Option PyFloat
  rotationState : Option SectorRotationState
  momentumScore : Option ℚ
  trendStrength : Option ℚ
  pricePerformancePct : Option PyFloat
  momentumAcceleration : Option PyFloat
  breadth : Option ℚ
  volumeParticipation : Option ℚ
  score : Option ℚ
  evidenceSourcesUsed : List String
  missingEvidence : List String
  computedAt : DateTime

def BreadthView.priceView (w : BreadthView) : PriceView := ⟨w.scans.prices,w.symbols,w.prices,w.utcNow⟩

/-- `compute_sector_rrg`: the points of each sector that has bars, if the benchmark has. -/
def computeSectorRrg [FloatMath] (settings : Settings) (view : PriceView) (sectorSymbols : List String)
    (benchmarkSymbol : Option String) (lookbackDays : ℕ) :
    Except PyException (Assoc String (List RrgPoint)) := do
  let benchmark := benchmarkOr settings benchmarkSymbol
  match ← SymbolRepository.getBySymbol view.symbols benchmark with
  | none => return Assoc.empty
  | some benchmarkRow =>
    if view.dailyHistory benchmarkRow.id lookbackDays = [] then return Assoc.empty
    else sectorSymbols.foldlM (fun results sectorSymbol => do
      let sectorRow ← SymbolRepository.getBySymbol view.symbols sectorSymbol
      return results.setSome sectorSymbol
        (view.points sectorSymbol benchmark lookbackDays sectorRow (some benchmarkRow))) Assoc.empty

/-- The last entry of a column. -/
def lastEntry (s : Series) : PyFloat := s.getLast?.getD .nan

/-- `_ZSCORE_WINDOW`. -/
def zscoreWindow : ℕ := 14

/-- The change of the momentum score over the window, and its score; missing unless more momentum scores
than the window are there. -/
def momentumAcceleration [FloatMath] (featureHistory : List DailyFeature) : PyFloat × PyFloat :=
  let momentum : Series := featureHistory.filterMap fun f => (f.number .momentumScore).map PyFloat.finite
  if zscoreWindow < momentum.length then
    let delta := sub momentum (shifted zscoreWindow momentum)
    (lastEntry delta,lastEntry (rollingZscore zscoreWindow delta))
  else (.nan,.nan)

/-- The return over 20 bars in percent, and its score. -/
def pricePerformance [FloatMath] (priceHistory : List DailyPrice) : PyFloat × PyFloat :=
  (lastEntry (returns priceHistory),lastEntry (rollingZscore zscoreWindow (returns priceHistory)))

/-- A reading back from the scale that centres at 100. -/
def zOf : Option PyFloat → PyFloat
  | some x => x.sub (.finite 100)
  | none => .nan

/-- What `compute_sector_evidence` has read of a sector beside its newest rotation point. -/
structure SectorReadings where
  rrg : RrgPoint
  momentumScore : Option ℚ
  trendStrength : Option ℚ
  acceleration : PyFloat × PyFloat
  performance : PyFloat × PyFloat

/-- `components` and `weights` by name. -/
def sectorWeighted (weights : SectorSettings) (cdf : ℚ → ℚ) (r : SectorReadings) :
    List (String × Option ℚ × ℚ) :=
  [("relative_strength",sectorProbabilityScore cdf (zOf r.rrg.rsRatio),
      weights.sectorScoreWeightRelativeStrength),
    ("rrg_momentum",sectorProbabilityScore cdf (zOf r.rrg.rsMomentum),weights.sectorScoreWeightRrgMomentum),
    ("momentum",r.momentumScore.map fun m => clamp0To100 ((m+100)/2),weights.sectorScoreWeightMomentum),
    ("trend",r.trendStrength.map clamp0To100,weights.sectorScoreWeightTrend),
    ("price_performance",sectorProbabilityScore cdf r.performance.2,
      weights.sectorScoreWeightPricePerformance),
    ("momentum_acceleration",sectorProbabilityScore cdf r.acceleration.2,
      weights.sectorScoreWeightMomentumAcceleration),
    ("breadth",none,weights.sectorScoreWeightBreadth),
    ("volume_participation",none,weights.sectorScoreWeightVolumeParticipation)]

/-- `score`: the weighted mean of the evidence that is there, to two places. -/
def sectorScore (weights : SectorSettings) (cdf : ℚ → ℚ) (r : SectorReadings) : Option ℚ :=
  let available := (sectorWeighted weights cdf r).filter fun c => c.2.1.isSome
  let weightedSum := (available.map fun c => c.2.1.getD 0*c.2.2).sum
  let weightTotal := (available.map fun c => c.2.2).sum
  if 0 < weightTotal then some (roundTo 2 (weightedSum/weightTotal)) else none

def SectorReadings.evidence (weights : SectorSettings) (cdf : ℚ → ℚ) (sectorSymbol : String)
    (r : SectorReadings) : SectorEvidence where
  sectorSymbol := sectorSymbol
  benchmarkSymbol := r.rrg.benchmarkSymbol
  date := r.rrg.date
  rs := r.rrg.rs
  rsRatio := r.rrg.rsRatio
  rsMomentum := r.rrg.rsMomentum
  rotationState := rotationStateFromQuadrant r.rrg.quadrant
  momentumScore := r.momentumScore
  trendStrength := r.trendStrength
  pricePerformancePct := decimalOrNone r.performance.1
  momentumAcceleration := decimalOrNone r.acceleration.1
  breadth := none
  volumeParticipation := none
  score := sectorScore weights cdf r
  evidenceSourcesUsed := ((sectorWeighted weights cdf r).filter fun c => c.2.1.isSome).map Prod.fst
  missingEvidence := ((sectorWeighted weights cdf r).filter fun c => c.2.1.isNone).map Prod.fst
  computedAt := r.rrg.computedAt

/-- What `compute_sector_evidence` reads of the sector's own features and bars. -/
def readSector [FloatMath] (w : BreadthView) (lookbackDays : ℕ) (lastRrg : RrgPoint)
    (symbolRow : Row SymbolRow) : SectorReadings :=
  let featureHistory :=
    (DailyFeatureRepository.getHistory w.scans.features w.features symbolRow.id lookbackDays).map Row.val
  let latest := featureHistory.getLast?
  { rrg := lastRrg
    momentumScore := latest.bind fun f => f.number .momentumScore
    trendStrength := latest.bind fun f => f.number .trendStrength
    acceleration := momentumAcceleration featureHistory
    performance := pricePerformance (w.priceView.dailyHistory symbolRow.id lookbackDays) }

/-- `compute_sector_evidence`. -/
def computeSectorEvidence [FloatMath] (settings : Settings) (weights : SectorSettings) (cdf : ℚ → ℚ)
    (w : BreadthView) (benchmarkSymbol : Option String) (lookbackDays : ℕ) (sectorSymbol : String) :
    Except PyException (Option SectorEvidence) := do
  let results ← computeSectorRrg settings w.priceView [sectorSymbol] benchmarkSymbol lookbackDays
  match ((results.get? sectorSymbol).getD []).getLast? with
  | none => return none
  | some lastRrg =>
    let symbolRow ← SymbolRepository.getBySymbol w.symbols sectorSymbol
    return symbolRow.map fun symbolRow =>
      (readSector w lookbackDays lastRrg symbolRow).evidence weights cdf sectorSymbol

/-! ### The rotation -/

structure SectorRotationSummary where
  sectors : List SectorEvidence := []
  leading : List String := []
  weakening : List String := []
  lagging : List String := []
  strengthening : List String := []
  noData : List String := []
  computedAt : DateTime

namespace SectorRotationSummary

/-- The list that a state is grouped under. -/
def group (summary : SectorRotationSummary) : SectorRotationState → List String
  | .leading => summary.leading
  | .weakening => summary.weakening
  | .lagging => summary.lagging
  | .strengthening => summary.strengthening

def addTo (summary : SectorRotationSummary) (symbol : String) : SectorRotationState → SectorRotationSummary
  | .leading => { summary with leading := summary.leading ++ [symbol] }
  | .weakening => { summary with weakening := summary.weakening ++ [symbol] }
  | .lagging => { summary with lagging := summary.lagging ++ [symbol] }
  | .strengthening => { summary with strengthening := summary.strengthening ++ [symbol] }

/-- One turn of the loop over the sectors. -/
def add (summary : SectorRotationSummary) (symbol : String) (evidence : Option SectorEvidence) :
    SectorRotationSummary :=
  match evidence with
  | none => { summary with noData := summary.noData ++ [symbol] }
  | some evidence =>
    let summary := { summary with sectors := summary.sectors ++ [evidence] }
    match evidence.rotationState with
    | none => summary
    | some state => summary.addTo symbol state

end SectorRotationSummary

/-- The key that the sectors are sorted by: by score, the highest first and the missing ones last. -/
def SectorEvidence.sortKey (e : SectorEvidence) : Bool × ℚ := (e.score.isNone,-(e.score.getD 0))

def SectorOrder (a b : SectorEvidence) : Prop :=
  a.sortKey.1 < b.sortKey.1 ∨ a.sortKey.1 = b.sortKey.1 ∧ a.sortKey.2 ≤ b.sortKey.2

instance : DecidableRel SectorOrder := fun _ _ => inferInstanceAs (Decidable (_ ∨ _))

/-- `compute_sector_rotation`. -/
def computeSectorRotation [FloatMath] (settings : Settings) (weights : SectorSettings) (cdf : ℚ → ℚ)
    (w : BreadthView) (sectorSymbols : List String) (benchmarkSymbol : Option String) (lookbackDays : ℕ) :
    Except PyException SectorRotationSummary := do
  let summary ← sectorSymbols.foldlM (fun (summary : SectorRotationSummary) sectorSymbol => do
    let evidence ← computeSectorEvidence settings weights cdf w benchmarkSymbol lookbackDays sectorSymbol
    return summary.add sectorSymbol evidence) { computedAt := w.utcNow }
  return { summary with sectors := summary.sectors.insertionSort SectorOrder }

/-- A rotation over the sectors, given the evidence on each of them: every sector without evidence is
listed as such, the evidence on the others is there by score, and each is grouped under its state. -/
structure Grouped (evidenceOf : String → Option SectorEvidence) (sectorSymbols : List String)
    (summary : SectorRotationSummary) : Prop where
  noData : summary.noData = sectorSymbols.filter fun s => (evidenceOf s).isNone
  group : ∀ state, summary.group state = sectorSymbols.filter fun s =>
    decide ((evidenceOf s).bind SectorEvidence.rotationState = some state)
  perm : summary.sectors.Perm (sectorSymbols.filterMap evidenceOf)
  sorted : summary.sectors.Pairwise SectorOrder

section Rotation

theorem SectorOrder.total (a b : SectorEvidence) : SectorOrder a b ∨ SectorOrder b a := by
  unfold SectorOrder
  rcases lt_trichotomy a.sortKey.1 b.sortKey.1 with h | h | h
  · exact Or.inl (Or.inl h)
  · rcases le_total a.sortKey.2 b.sortKey.2 with h' | h'
    · exact Or.inl (Or.inr ⟨h,h'⟩)
    · exact Or.inr (Or.inr ⟨h.symm,h'⟩)
  · exact Or.inr (Or.inl h)

theorem SectorOrder.trans {a b c : SectorEvidence} (h : SectorOrder a b) (h' : SectorOrder b c) :
    SectorOrder a c := by
  rcases h with h | ⟨h,hle⟩
  · rcases h' with h' | ⟨h',-⟩
    · exact Or.inl (h.trans h')
    · exact Or.inl (h.trans_eq h')
  · rcases h' with h' | ⟨h',hle'⟩
    · exact Or.inl (h.trans_lt h')
    · exact Or.inr ⟨h.trans h',hle.trans hle'⟩

instance : Std.Total SectorOrder := ⟨SectorOrder.total⟩
instance : IsTrans SectorEvidence SectorOrder := ⟨fun _ _ _ => SectorOrder.trans⟩

variable (summary : SectorRotationSummary) (symbol : String) (evidence : Option SectorEvidence)

theorem noData_add : (summary.add symbol evidence).noData =
    summary.noData ++ if evidence.isNone then [symbol] else [] := by
  unfold SectorRotationSummary.add
  split
  · rfl
  · split
    · simp
    · rename_i state _
      cases state <;> simp [SectorRotationSummary.addTo]

theorem sectors_add : (summary.add symbol evidence).sectors = summary.sectors ++ evidence.toList := by
  unfold SectorRotationSummary.add
  split
  · simp
  · split
    · rfl
    · rename_i state _
      cases state <;> rfl

theorem group_add (state : SectorRotationState) : (summary.add symbol evidence).group state =
    summary.group state ++
      if decide (evidence.bind SectorEvidence.rotationState = some state) then [symbol] else [] := by
  unfold SectorRotationSummary.add
  split
  · cases state <;> simp [SectorRotationSummary.group]
  · rename_i e
    split
    · rename_i hstate
      cases state <;> simp [SectorRotationSummary.group, hstate]
    · rename_i own hown
      rw [Option.bind_some, hown]
      cases own <;> cases state <;> simp [SectorRotationSummary.group, SectorRotationSummary.addTo]

/-- The loop over the sectors groups them by the evidence on each. -/
theorem foldl_add_grouped (evidenceOf : String → Option SectorEvidence) (sectorSymbols : List String)
    (computedAt : DateTime) :
    let summary := sectorSymbols.foldl (fun summary s => summary.add s (evidenceOf s))
      ({ computedAt := computedAt } : SectorRotationSummary)
    Grouped evidenceOf sectorSymbols
      { summary with sectors := summary.sectors.insertionSort SectorOrder } := by
  intro summary
  have hsectors : summary.sectors = sectorSymbols.filterMap evidenceOf := by
    have hloop := foldl_of_appending SectorRotationSummary.sectors (fun s => (evidenceOf s).toList)
      (fun summary s _ => sectors_add summary s (evidenceOf s)) (l := sectorSymbols)
      { computedAt := computedAt }
    rw [List.filterMap_eq_flatMap_toList]
    exact hloop
  refine ⟨?_,?_,?_,List.pairwise_insertionSort SectorOrder _⟩
  · have hloop := foldl_of_appending SectorRotationSummary.noData
      (fun s => if (evidenceOf s).isNone then [s] else [])
      (fun summary s _ => noData_add summary s (evidenceOf s)) (l := sectorSymbols)
      { computedAt := computedAt }
    rw [flatMap_if] at hloop
    simpa using hloop
  · intro state
    have hloop := foldl_of_appending (fun summary => SectorRotationSummary.group summary state)
      (fun s => if decide ((evidenceOf s).bind SectorEvidence.rotationState = some state) then [s] else [])
      (fun summary s _ => group_add summary s (evidenceOf s) state) (l := sectorSymbols)
      { computedAt := computedAt }
    have hsame : SectorRotationSummary.group
        { summary with sectors := summary.sectors.insertionSort SectorOrder } state =
          summary.group state := by cases state <;> rfl
    have hempty : SectorRotationSummary.group { computedAt := computedAt } state = [] := by
      cases state <;> rfl
    rw [hempty, List.nil_append, flatMap_if] at hloop
    exact hsame.trans hloop
  · rw [← hsectors]
    exact List.perm_insertionSort SectorOrder _

end Rotation

section Evidence
variable [FloatMath] {settings : Settings} {weights : SectorSettings} {cdf : ℚ → ℚ} {w : BreadthView}
  {benchmarkSymbol : Option String} {lookbackDays : ℕ} {sectorSymbol : String}
  {row other : Option (Row SymbolRow)}

/-- The newest point of a sector, where the sector and the benchmark have bars. -/
def newestPoint (settings : Settings) (w : BreadthView) (benchmarkSymbol : Option String) (lookbackDays : ℕ)
    (sectorSymbol : String) (row other : Option (Row SymbolRow)) : Option RrgPoint :=
  (w.priceView.points sectorSymbol (benchmarkOr settings benchmarkSymbol) lookbackDays row other).bind
    List.getLast?

theorem computeSectorRrg_single
    (hother : SymbolRepository.getBySymbol w.symbols (benchmarkOr settings benchmarkSymbol) = .ok other)
    (hrow : SymbolRepository.getBySymbol w.symbols sectorSymbol = .ok row) :
    (computeSectorRrg settings w.priceView [sectorSymbol] benchmarkSymbol lookbackDays).map
        (fun results => ((results.get? sectorSymbol).getD []).getLast?) =
      .ok (newestPoint settings w benchmarkSymbol lookbackDays sectorSymbol row other) := by
  have hother : SymbolRepository.getBySymbol w.priceView.symbols (benchmarkOr settings benchmarkSymbol) =
      .ok other := hother
  have hrow : SymbolRepository.getBySymbol w.priceView.symbols sectorSymbol = .ok row := hrow
  unfold computeSectorRrg newestPoint
  simp only [hother]
  cases other with
  | none => cases row <;> rfl
  | some other =>
    by_cases hbars : w.priceView.dailyHistory other.id lookbackDays = []
    · have hnone : w.priceView.points sectorSymbol (benchmarkOr settings benchmarkSymbol) lookbackDays row
          (some other) = none := by
        cases row with
        | none => rfl
        | some row => exact if_pos (Or.inr hbars)
      rw [hnone]
      change Except.map _ (if _ then _ else _) = _
      rw [if_pos hbars]
      rfl
    · change Except.map _ (if _ then _ else _) = _
      rw [if_neg hbars, List.foldlM_cons, hrow]
      change Except.ok ((((Assoc.empty : Assoc String (List RrgPoint)).setSome sectorSymbol
        (w.priceView.points sectorSymbol _ lookbackDays row (some other))).get? sectorSymbol).getD []).getLast? = _
      rw [Assoc.get?_setSome, if_pos rfl]
      generalize w.priceView.points sectorSymbol (benchmarkOr settings benchmarkSymbol) lookbackDays row
        (some other) = points
      cases points <;> rfl

theorem computeSectorEvidence_eq
    (hother : SymbolRepository.getBySymbol w.symbols (benchmarkOr settings benchmarkSymbol) = .ok other)
    (hrow : SymbolRepository.getBySymbol w.symbols sectorSymbol = .ok row) {evidence : Option SectorEvidence}
    (h : computeSectorEvidence settings weights cdf w benchmarkSymbol lookbackDays sectorSymbol =
      .ok evidence) :
    evidence.map SectorEvidence.rotationState =
      (newestPoint settings w benchmarkSymbol lookbackDays sectorSymbol row other).map
        fun point => rotationStateFromQuadrant point.quadrant := by
  have hsingle : (computeSectorRrg settings w.priceView [sectorSymbol] benchmarkSymbol lookbackDays).map
      (fun results => ((results.get? sectorSymbol).getD []).getLast?) =
        .ok (newestPoint settings w benchmarkSymbol lookbackDays sectorSymbol row other) :=
    computeSectorRrg_single hother hrow
  rw [computeSectorEvidence] at h
  cases hresults : computeSectorRrg settings w.priceView [sectorSymbol] benchmarkSymbol lookbackDays with
  | error e =>
    rw [hresults] at h
    cases h
  | ok results =>
    rw [hresults] at hsingle h
    have hpoint : ((results.get? sectorSymbol).getD []).getLast? =
      newestPoint settings w benchmarkSymbol lookbackDays sectorSymbol row other := Except.ok.inj hsingle
    change (match ((results.get? sectorSymbol).getD []).getLast? with | none => _ | some _ => _) = _ at h
    rw [hpoint] at h
    cases hnewest : newestPoint settings w benchmarkSymbol lookbackDays sectorSymbol row other with
    | none =>
      rw [hnewest] at h
      cases h
      rfl
    | some point =>
      rw [hnewest] at h
      cases row with
      | none => cases hnewest
      | some row =>
        change (SymbolRepository.getBySymbol w.symbols sectorSymbol >>= _) = _ at h
        rw [hrow] at h
        cases h
        rfl

theorem computeSectorEvidence_symbol {e : SectorEvidence}
    (h : computeSectorEvidence settings weights cdf w benchmarkSymbol lookbackDays sectorSymbol =
      .ok (some e)) : e.sectorSymbol = sectorSymbol := by
  rw [computeSectorEvidence] at h
  cases hresults : computeSectorRrg settings w.priceView [sectorSymbol] benchmarkSymbol lookbackDays with
  | error e =>
    rw [hresults] at h
    cases h
  | ok results =>
    rw [hresults] at h
    change (match ((results.get? sectorSymbol).getD []).getLast? with | none => _ | some _ => _) = _ at h
    split at h
    · cases h
    · cases hrow : SymbolRepository.getBySymbol w.symbols sectorSymbol with
      | error e =>
        rw [hrow] at h
        cases h
      | ok row =>
        rw [hrow] at h
        obtain ⟨row,-,rfl⟩ := Option.map_eq_some_iff.mp (Except.ok.inj h)
        rfl

/-- The quadrant of the newest point is the one that the bars of sector and benchmark put it in; there is
none where either has no bars. -/
theorem newestPoint_quadrant [SqrtLaws] {row other : Row SymbolRow} {q : RrgQuadrant} :
    ((newestPoint settings w benchmarkSymbol lookbackDays sectorSymbol (some row) (some other)).bind
        RrgPoint.quadrant) = some q ↔
      InQuadrant rollingWindow (rsVsNifty (w.priceView.dailyHistory row.id lookbackDays)
        (w.priceView.dailyHistory other.id lookbackDays))
          ((w.priceView.dailyHistory row.id lookbackDays).length-1) q := by
  generalize hsecurity : w.priceView.dailyHistory row.id lookbackDays = security
  generalize hbenchmark : w.priceView.dailyHistory other.id lookbackDays = benchmark
  by_cases hbars : security = [] ∨ benchmark = []
  · have hnone : newestPoint settings w benchmarkSymbol lookbackDays sectorSymbol (some row) (some other) =
        none := by
      rw [newestPoint, PriceView.points, hsecurity, hbenchmark, if_pos hbars]
      rfl
    rw [hnone]
    constructor
    · intro h
      cases h
    · intro h
      have hknown := h.readings.known le_rfl (Nat.lt_add_of_pos_right (by decide))
      have hget := known_iff.mp hknown
      rw [getElem?_rsVsNifty] at hget
      obtain ⟨x,-,hget⟩ := Option.bind_eq_some_iff.mp hget
      obtain ⟨bar,hbar,hfinite⟩ := Option.map_eq_some_iff.mp hget
      rcases hbars with hempty | hempty
      · rw [hempty] at hbar
        cases hbar
      · have hmissing : benchmarkReturn benchmark bar.date = .nan := by
          rw [hempty]
          rfl
        rw [hmissing, sub_nan] at hfinite
        cases hfinite
  · have hpoints : newestPoint settings w benchmarkSymbol lookbackDays sectorSymbol (some row) (some other) =
        (computeRrgSeries rollingWindow sectorSymbol (benchmarkOr settings benchmarkSymbol) w.utcNow security
          benchmark).getLast? := by
      rw [newestPoint, PriceView.points, hsecurity, hbenchmark, if_neg hbars]
      rfl
    rw [hpoints, List.getLast?_eq_getElem?, length_computeRrgSeries]
    have hlt : security.length-1 < (computeRrgSeries rollingWindow sectorSymbol
        (benchmarkOr settings benchmarkSymbol) w.utcNow security benchmark).length := by
      rw [length_computeRrgSeries]
      have := List.length_pos_of_ne_nil fun hempty => hbars (Or.inl hempty)
      omega
    rw [List.getElem?_eq_getElem hlt, Option.bind_some]
    obtain ⟨hi,x,y,hx,hy,hquadrant⟩ := quadrant_of_getElem? (List.getElem?_eq_getElem hlt)
    rw [hquadrant]
    exact classifyQuadrant_eq_some_iff (by decide) hi hx hy

omit [FloatMath] in
theorem rotationStateOf_injective : Function.Injective rotationStateOf := by
  intro q q' h
  cases q <;> cases q' <;> first | rfl | cases h

theorem computeSectorRotation_grouped {sectorSymbols : List String} {summary : SectorRotationSummary}
    (h : computeSectorRotation settings weights cdf w sectorSymbols benchmarkSymbol lookbackDays =
      .ok summary) :
    ∃ evidenceOf : String → Option SectorEvidence,
      (∀ s ∈ sectorSymbols, computeSectorEvidence settings weights cdf w benchmarkSymbol lookbackDays s =
        .ok (evidenceOf s)) ∧ Grouped evidenceOf sectorSymbols summary := by
  rw [computeSectorRotation] at h
  cases hloop : sectorSymbols.foldlM (fun (summary : SectorRotationSummary) s => do
      let evidence ← computeSectorEvidence settings weights cdf w benchmarkSymbol lookbackDays s
      return summary.add s evidence) { computedAt := w.utcNow } with
  | error e =>
    rw [hloop] at h
    cases h
  | ok looped =>
    rw [hloop] at h
    obtain rfl := Except.ok.inj h
    obtain ⟨evidenceOf,hevidence,rfl⟩ := foldlM_eq_ok hloop
    exact ⟨evidenceOf,hevidence,foldl_add_grouped evidenceOf sectorSymbols w.utcNow⟩

end Evidence

/-- The tables of two indices, without features. -/
def indicesOnly : BreadthView where
  symbolScan := ScanOrder.insertion _
  scans := .insertion
  symbols := fiftyDays.symbols
  prices := fiftyDays.prices
  features := Stamped.empty
  sessionFeatures := Stamped.empty
  windowDay := ⟨0⟩
  today := ⟨50⟩
  utcNow := ⟨0,.minutes 0⟩

end MarketScanner.Analytics
