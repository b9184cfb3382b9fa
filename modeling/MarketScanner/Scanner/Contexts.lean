import MarketScanner.Features.Repository
import MarketScanner.Scanner.Manager

/-! The contexts that the registered scanners are given, and the date that keys their verdicts: the
date of the feature row for most, the wall clock's for the candidate scanners. -/
namespace MarketScanner.Scanner
open MarketScanner.Library MarketScanner.Python MarketScanner.Config MarketScanner.Market
open MarketScanner.Universe MarketScanner.Features

/-- `session_features`: one row for each symbol and trading day. -/
structure SessionFeature where
  symbolId : ℕ
  date : Date
  openingRangeHigh : Option Numeric4
  openingRangeLow : Option Numeric4
  initialBalanceHigh : Option Numeric4
  initialBalanceLow : Option Numeric4
  dayHigh : Option Numeric4
  dayLow : Option Numeric4
  prevDayHigh : Option Numeric4
  prevDayLow : Option Numeric4
  sessionVwap : Option Numeric4

abbrev SessionFeatures := Stamped SessionFeature.symbolId (fun f : SessionFeature => f.date.day)

namespace SessionFeatureRepository

def getLatest (scan : ScanOrder (Row SessionFeature)) (t : SessionFeatures) (symbolId : ℕ) :
    Option (Row SessionFeature) :=
  (t.newestFirst scan symbolId).head?

def getLatestBulk (scan : ScanOrder (Row SessionFeature)) (t : SessionFeatures)
    (symbolIds : List ℕ) : Assoc ℕ (Row SessionFeature) :=
  if symbolIds = [] then Assoc.empty else t.atRank scan symbolIds 1

/-- The bulk query agrees with the query for one symbol, however each scan orders its rows. -/
theorem get?_getLatestBulk (scan scan' : ScanOrder (Row SessionFeature)) (t : SessionFeatures)
    {symbolIds : List ℕ} {symbolId : ℕ} (h : symbolId ∈ symbolIds) :
    (getLatestBulk scan t symbolIds).get? symbolId = getLatest scan' t symbolId := by
  rw [getLatestBulk, if_neg (List.ne_nil_of_mem h), Stamped.get?_atRank scan t symbolIds 0,
    if_pos h, getLatest, List.head?_eq_getElem?, Stamped.newestFirst_scan scan scan']

end SessionFeatureRepository

/-- The orders in which the database delivers the rows of the three tables. -/
structure ViewScans where
  prices : ScanOrder (Row DailyPrice)
  features : ScanOrder (Row DailyFeature)
  sessions : ScanOrder (Row SessionFeature)

def ViewScans.insertion : ViewScans :=
  ⟨ScanOrder.insertion _,ScanOrder.insertion _,ScanOrder.insertion _⟩

/-- What a scanner run sees: the tables, the clock as each symbol's context is built, and the reads
for a symbol that raise. -/
structure MarketView where
  scans : ViewScans
  prices : DailyPrices
  features : DailyFeatures
  sessionFeatures : SessionFeatures
  now : ℕ → DateTime
  fault : ℕ → Option String

structure ScanContext where
  symbol : Row SymbolRow
  features : DailyFeature
  price : Option Numeric4

/-- `ScanContext.scan_date`. -/
def ScanContext.scanDate (c : ScanContext) : Date := c.features.date

structure OrbScanContext where
  symbol : Row SymbolRow
  sessionFeature : SessionFeature
  price : Option Numeric4
  priceDate : Option Date
  dailyFeature : Option DailyFeature

/-- `OrbScanContext.scan_date`. -/
def OrbScanContext.scanDate (c : OrbScanContext) : Date := c.sessionFeature.date

/-- A candidate, as what it was built from: everything that is scored is computed from these. -/
structure CandidateContext where
  symbol : Row SymbolRow
  daily : DailyFeature
  price : Numeric4
  session : Option SessionFeature
  bars : List DailyPrice
  timestamp : DateTime

/-- `CandidateContext.scan_date`. -/
def CandidateContext.scanDate (settings : Settings) (c : CandidateContext) : Date :=
  marketDateOf settings c.timestamp

namespace MarketView
variable (w : MarketView) (symbol : Row SymbolRow)

def latestFeatures (symbolId : ℕ) : Option DailyFeature :=
  (DailyFeatureRepository.getLatest w.scans.features w.features symbolId).map Row.val

def latestPrice (symbolId : ℕ) : Option DailyPrice :=
  (PriceRepository.getLatestDaily w.scans.prices w.prices symbolId).map Row.val

def latestSession (symbolId : ℕ) : Option SessionFeature :=
  (SessionFeatureRepository.getLatest w.scans.sessions w.sessionFeatures symbolId).map Row.val

/-- `BaseScanner.build_context`, as the default has it. -/
def scanContext : Option ScanContext :=
  (w.latestFeatures symbol.id).map fun features =>
    ⟨symbol,features,(w.latestPrice symbol.id).map DailyPrice.close⟩

/-- `BreakoutScanner.build_context_bulk`; the same in `VcpScanner` and `MomentumScanner`. -/
def scanContextBulk (symbols : List (Row SymbolRow)) : Assoc ℕ (Option ScanContext) :=
  let symbolIds := symbols.map Row.id
  let featuresById := DailyFeatureRepository.getLatestBulk w.scans.features w.features symbolIds
  let pricesById := PriceRepository.getLatestDailyBulk w.scans.prices w.prices symbolIds
  symbols.foldl (fun contexts symbol => contexts.set symbol.id
    ((featuresById.get? symbol.id).map fun features =>
      ⟨symbol,features.val,(pricesById.get? symbol.id).map fun price => price.val.close⟩))
    Assoc.empty

def orbContext : Option OrbScanContext :=
  (w.latestSession symbol.id).map fun sessionFeature =>
    ⟨symbol,sessionFeature,(w.latestPrice symbol.id).map DailyPrice.close,
      (w.latestPrice symbol.id).map DailyPrice.date,w.latestFeatures symbol.id⟩

/-- `OrbScanner.build_context_bulk`. -/
def orbContextBulk (symbols : List (Row SymbolRow)) : Assoc ℕ (Option OrbScanContext) :=
  let symbolIds := symbols.map Row.id
  let sessionsById :=
    SessionFeatureRepository.getLatestBulk w.scans.sessions w.sessionFeatures symbolIds
  let pricesById := PriceRepository.getLatestDailyBulk w.scans.prices w.prices symbolIds
  let featuresById := DailyFeatureRepository.getLatestBulk w.scans.features w.features symbolIds
  symbols.foldl (fun contexts symbol => contexts.set symbol.id
    ((sessionsById.get? symbol.id).map fun sessionFeature =>
      ⟨symbol,sessionFeature.val,(pricesById.get? symbol.id).map fun price => price.val.close,
        (pricesById.get? symbol.id).map fun price => price.val.date,
        (featuresById.get? symbol.id).map Row.val⟩))
    Assoc.empty

/-- `build_candidate`, behind every candidate scanner's `build_context`: nothing without features or
without a price. -/
def candidateContext : Except String (Option CandidateContext) :=
  match w.fault symbol.id with
  | some text => .error text
  | none => .ok <|
    match w.latestFeatures symbol.id, w.latestPrice symbol.id with
    | some daily, some price =>
      some ⟨symbol,daily,price.close,w.latestSession symbol.id,w.prices.history symbol.id,
        w.now symbol.id⟩
    | _, _ => none

theorem foldl_set_congr {κ : Type} {symbols : List (Row SymbolRow)}
    {f g : Row SymbolRow → Option κ} (h : ∀ s ∈ symbols, f s = g s) (d : Assoc ℕ (Option κ)) :
    symbols.foldl (fun d s => d.set s.id (f s)) d = symbols.foldl (fun d s => d.set s.id (g s)) d :=
  List.foldl_ext _ _ d fun d s hs => by rw [h s hs]

/-- The bulk override builds what `build_context` builds for each symbol. -/
theorem scanContextBulk_eq (symbols : List (Row SymbolRow)) :
    w.scanContextBulk symbols =
      symbols.foldl (fun d s => d.set s.id (w.scanContext s)) Assoc.empty := by
  apply foldl_set_congr
  intro s hs
  have hid : s.id ∈ symbols.map Row.id := List.mem_map_of_mem hs
  rw [DailyFeatureRepository.get?_getLatestBulk _ w.scans.features _ hid,
    PriceRepository.get?_getLatestDailyBulk _ w.scans.prices _ hid]
  unfold scanContext latestFeatures latestPrice
  rw [Option.map_map, Option.map_map]
  rfl

theorem orbContextBulk_eq (symbols : List (Row SymbolRow)) :
    w.orbContextBulk symbols =
      symbols.foldl (fun d s => d.set s.id (w.orbContext s)) Assoc.empty := by
  apply foldl_set_congr
  intro s hs
  have hid : s.id ∈ symbols.map Row.id := List.mem_map_of_mem hs
  rw [SessionFeatureRepository.get?_getLatestBulk _ w.scans.sessions _ hid,
    PriceRepository.get?_getLatestDailyBulk _ w.scans.prices _ hid,
    DailyFeatureRepository.get?_getLatestBulk _ w.scans.features _ hid]
  unfold orbContext latestSession latestPrice latestFeatures
  rw [Option.map_map, Option.map_map, Option.map_map]
  rfl

end MarketView

/-- An override that builds for each symbol what `f` does. -/
def BulkRead.ofEach {ω κ : Type} {symbolId : κ → ℕ} (f : ω → Row SymbolRow → Option κ)
    (build : ω → List (Row SymbolRow) → Assoc ℕ (Option κ))
    (hbuild : ∀ w symbols, build w symbols =
      symbols.foldl (fun d s => d.set s.id (f w s)) Assoc.empty)
    (hown : ∀ w s c, f w s = some c → symbolId c = s.id) : BulkRead ω κ symbolId where
  build := build
  own := by
    intro w symbols k c h
    rw [hbuild, Assoc.get?_foldl_set, Assoc.get?_empty, Option.or_none] at h
    obtain ⟨s,hs,hc⟩ := Option.map_eq_some_iff.mp h
    have hid : s.id = k := by simpa using (List.mem_filter.mp (List.mem_of_getLast? hs)).2
    rw [← hid]
    exact hown w s c hc
  alone := by
    intro w symbols absent k hk
    rw [hbuild, hbuild, Assoc.get?_foldl_set, Assoc.get?_foldl_set, List.filter_filter]
    congr 3
    apply List.filter_congr
    intro s hs
    by_cases hid : s.id = k
    · simp [hid, hk]
    · simp [hid]

/-- What a strategy adds to the building of its contexts. -/
structure Strategy (κ : Type) where
  name : String
  getCandidateSymbols : MarketView → List (Row SymbolRow) → List (Row SymbolRow)
  validate : κ → Except String ValidationResult
  scan : κ → Except String ScanOutcome
  score : κ → Except String ℚ
  featureSnapshot : κ → Dict

/-- `breakout_v1`, `vcp_v1` and `momentum_v1`. -/
def listedScanner (strategy : Strategy ScanContext) : BaseScanner MarketView where
  Context := ScanContext
  name := strategy.name
  getCandidateSymbols := strategy.getCandidateSymbols
  symbolId c := c.symbol.id
  scanDate := ScanContext.scanDate
  buildContext w symbol := .ok (w.scanContext symbol)
  bulk := some <| BulkRead.ofEach MarketView.scanContext MarketView.scanContextBulk
    MarketView.scanContextBulk_eq (by
      intro w s c h
      obtain ⟨features,-,rfl⟩ := Option.map_eq_some_iff.mp h
      rfl)
  validate := strategy.validate
  scan := strategy.scan
  score := strategy.score
  featureSnapshot := strategy.featureSnapshot
  own := by
    intro w s c h
    obtain ⟨features,-,rfl⟩ := Option.map_eq_some_iff.mp (Except.ok.inj h)
    rfl

/-- `orb_v1`. Its `build_context` is never called. -/
def orbScanner (strategy : Strategy OrbScanContext) : BaseScanner MarketView where
  Context := OrbScanContext
  name := strategy.name
  getCandidateSymbols := strategy.getCandidateSymbols
  symbolId c := c.symbol.id
  scanDate := OrbScanContext.scanDate
  buildContext w symbol := .ok (w.orbContext symbol)
  bulk := some <| BulkRead.ofEach MarketView.orbContext MarketView.orbContextBulk
    MarketView.orbContextBulk_eq (by
      intro w s c h
      obtain ⟨sessionFeature,-,rfl⟩ := Option.map_eq_some_iff.mp h
      rfl)
  validate := strategy.validate
  scan := strategy.scan
  score := strategy.score
  featureSnapshot := strategy.featureSnapshot
  own := by
    intro w s c h
    obtain ⟨sessionFeature,-,rfl⟩ := Option.map_eq_some_iff.mp (Except.ok.inj h)
    rfl

/-- `fno_momentum_v1`, `pre_breakout_v1` and `ipo_intraday_v1`, with the default loop. -/
def candidateScanner (settings : Settings) (strategy : Strategy CandidateContext) :
    BaseScanner MarketView where
  Context := CandidateContext
  name := strategy.name
  getCandidateSymbols := strategy.getCandidateSymbols
  symbolId c := c.symbol.id
  scanDate := CandidateContext.scanDate settings
  buildContext := MarketView.candidateContext
  bulk := none
  validate := strategy.validate
  scan := strategy.scan
  score := strategy.score
  featureSnapshot := strategy.featureSnapshot
  own := by
    intro w s c h
    unfold MarketView.candidateContext at h
    split at h
    · cases h
    · have h := Except.ok.inj h
      split at h
      · obtain rfl := Option.some.inj h
        rfl
      · cases h

end MarketScanner.Scanner
