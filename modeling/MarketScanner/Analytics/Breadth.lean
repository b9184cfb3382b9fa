import MarketScanner.Candidates.Scanners
import MarketScanner.Python.Decimals

/-! Market breadth: the latest bar of every active symbol beside the bar before it, its moving averages
and its 52-week range. The latest bars need not be of one day. -/
namespace MarketScanner.Analytics
open MarketScanner.Library MarketScanner.Python MarketScanner.Market MarketScanner.Universe
open MarketScanner.Features MarketScanner.Scanner MarketScanner.Candidates
open PyDecimal (rounded)

/-- What `compute_market_breadth` reads: the tables, the orders in which their rows are delivered, and
the clock as the 52-week window is taken and as the snapshot is made. -/
structure BreadthView where
  symbolScan : ScanOrder (Row SymbolRow)
  scans : ViewScans
  symbols : SymbolTable
  prices : DailyPrices
  features : DailyFeatures
  sessionFeatures : SessionFeatures
  windowDay : Date
  today : Date
  utcNow : DateTime

/-- `_pct`, in decimal arithmetic. -/
def pct (numerator denominator : ℤ) : Option ℚ :=
  if denominator ≤ 0 then none
  else some (rounded (rounded ((numerator : ℚ)/denominator)*100))

/-- `get_52_week_high_low_bulk`: the symbols with a bar in the window. -/
def get52WeekHighLowBulk (today : Date) (t : DailyPrices) (symbolIds : List ℕ) :
    Assoc ℕ (Numeric4 × Numeric4) :=
  symbolIds.foldl (fun ranges k =>
    ranges.setSome k (IpoIntradayScanner.get52WeekHighLow today (t.history k))) Assoc.empty

/-! ### The counts of one pass over the latest bars -/

structure MoveCount where
  advancing : ℕ := 0
  declining : ℕ := 0
  unchanged : ℕ := 0
  upVolume : ℤ := 0
  downVolume : ℤ := 0

/-- The latest bar beside the one before it. -/
def MoveCount.add (count : MoveCount) (today : DailyPrice) : Option DailyPrice → MoveCount
  | none => count
  | some prior =>
    if prior.close.units < today.close.units then
      { count with advancing := count.advancing+1, upVolume := count.upVolume+today.volume }
    else if today.close.units < prior.close.units then
      { count with declining := count.declining+1, downVolume := count.downVolume+today.volume }
    else { count with unchanged := count.unchanged+1 }

/-- The symbols with a moving average, and those that closed above it. -/
structure EmaCount where
  symbolsWith : ℕ := 0
  above : ℕ := 0

def EmaCount.add (count : EmaCount) (today : DailyPrice) : Option ℚ → EmaCount
  | none => count
  | some ema =>
    ⟨count.symbolsWith+1,count.above+if ema < today.close.toRat then 1 else 0⟩

structure RangeCount where
  newHighs : ℕ := 0
  newLows : ℕ := 0

def RangeCount.add (count : RangeCount) (today : DailyPrice) :
    Option (Numeric4 × Numeric4) → RangeCount
  | none => count
  | some (high52wk,low52wk) =>
    ⟨count.newHighs+if high52wk.units ≤ today.high.units then 1 else 0,
      count.newLows+if today.low.units ≤ low52wk.units then 1 else 0⟩

structure Tally where
  asOf : Option Date := none
  moves : MoveCount := {}
  ema20 : EmaCount := {}
  ema50 : EmaCount := {}
  ema200 : EmaCount := {}
  ranges : RangeCount := {}

/-- The newest date seen. -/
def newerDate (asOf : Option Date) (date : Date) : Option Date :=
  match asOf with
  | none => some date
  | some d => if d < date then some date else some d

namespace BreadthView
variable (w : BreadthView)

def symbolIds : List ℕ := (SymbolRepository.listActive w.symbolScan w.symbols).map Row.id

def todayPrices : Assoc ℕ (Row DailyPrice) :=
  PriceRepository.getDailyBulkAtRank w.scans.prices w.prices w.symbolIds 1

def priorPrices : Assoc ℕ (Row DailyPrice) :=
  PriceRepository.getDailyBulkAtRank w.scans.prices w.prices w.symbolIds 2

def featuresById : Assoc ℕ (Row DailyFeature) :=
  DailyFeatureRepository.getLatestBulk w.scans.features w.features w.symbolIds

def ranges52wk : Assoc ℕ (Numeric4 × Numeric4) :=
  get52WeekHighLowBulk w.windowDay w.prices w.symbolIds

def sessionsById : Assoc ℕ (Row SessionFeature) :=
  SessionFeatureRepository.getLatestBulk w.scans.sessions w.sessionFeatures w.symbolIds

/-- A moving average of the symbol's latest feature row. -/
def emaOf (k : ℕ) (c : Column) : Option ℚ := (w.featuresById.get? k).bind fun r => r.val.number c

/-- The loop's body, for one symbol and its latest bar. -/
def count (tally : Tally) (entry : ℕ × Row DailyPrice) : Tally where
  asOf := newerDate tally.asOf entry.2.val.date
  moves := tally.moves.add entry.2.val ((w.priorPrices.get? entry.1).map Row.val)
  ema20 := tally.ema20.add entry.2.val (w.emaOf entry.1 .ema20)
  ema50 := tally.ema50.add entry.2.val (w.emaOf entry.1 .ema50)
  ema200 := tally.ema200.add entry.2.val (w.emaOf entry.1 .ema200)
  ranges := tally.ranges.add entry.2.val (w.ranges52wk.get? entry.1)

def tally : Tally := w.todayPrices.items.foldl w.count {}

end BreadthView

structure MarketBreadthSnapshot where
  asOf : Date
  computedAt : DateTime
  totalSymbols : ℕ
  advancing : ℕ
  declining : ℕ
  unchanged : ℕ
  advanceDeclinePct : Option ℚ
  upVolume : ℤ
  downVolume : ℤ
  upDownVolumePct : Option ℚ
  symbolsWithEma20 : ℕ
  pctAboveEma20 : Option ℚ
  symbolsWithEma50 : ℕ
  pctAboveEma50 : Option ℚ
  symbolsWithEma200 : ℕ
  pctAboveEma200 : Option ℚ
  symbolsWith52wkRange : ℕ
  newHighs : ℕ
  newLows : ℕ
  newHighsLowsNetPct : Option ℚ
  pctAboveVwap : Option ℚ := none
  vwapCoverageSymbols : ℕ
  vwapCoverageTotal : ℕ

/-- The net of new highs and lows, rescaled from [-1,1]. -/
def newHighsLowsNet (newHighs newLows symbolsWithRange : ℕ) : Option ℚ :=
  if symbolsWithRange = 0 then none
  else
    let netRatio := max (-1) (min 1 (rounded ((((newHighs : ℤ)-newLows : ℤ) : ℚ)/symbolsWithRange)))
    some (rounded (50+rounded (netRatio*50)))

def computeMarketBreadth (w : BreadthView) : MarketBreadthSnapshot where
  asOf := w.tally.asOf.getD w.today
  computedAt := w.utcNow
  totalSymbols := w.symbolIds.length
  advancing := w.tally.moves.advancing
  declining := w.tally.moves.declining
  unchanged := w.tally.moves.unchanged
  advanceDeclinePct := pct w.tally.moves.advancing
    (w.tally.moves.advancing+w.tally.moves.declining)
  upVolume := w.tally.moves.upVolume
  downVolume := w.tally.moves.downVolume
  upDownVolumePct := pct w.tally.moves.upVolume (w.tally.moves.upVolume+w.tally.moves.downVolume)
  symbolsWithEma20 := w.tally.ema20.symbolsWith
  pctAboveEma20 := pct w.tally.ema20.above w.tally.ema20.symbolsWith
  symbolsWithEma50 := w.tally.ema50.symbolsWith
  pctAboveEma50 := pct w.tally.ema50.above w.tally.ema50.symbolsWith
  symbolsWithEma200 := w.tally.ema200.symbolsWith
  pctAboveEma200 := pct w.tally.ema200.above w.tally.ema200.symbolsWith
  symbolsWith52wkRange := w.ranges52wk.items.length
  newHighs := w.tally.ranges.newHighs
  newLows := w.tally.ranges.newLows
  newHighsLowsNetPct := newHighsLowsNet w.tally.ranges.newHighs w.tally.ranges.newLows
    w.ranges52wk.items.length
  vwapCoverageSymbols :=
    (w.sessionsById.items.filter fun item => item.2.val.sessionVwap.isSome).length
  vwapCoverageTotal := w.symbolIds.length

/-! ### What the reads hold -/
namespace BreadthView
variable {w : BreadthView}

/-- The bar of a symbol that has `i` newer ones. -/
def bar (w : BreadthView) (k i : ℕ) : Option DailyPrice := (w.prices.history k).reverse[i]?

theorem map_newestFirst_bar (w : BreadthView) (k i : ℕ) :
    ((w.prices.newestFirst w.scans.prices k)[i]?).map Row.val = w.bar k i := by
  rw [bar, ← List.getElem?_map, Stamped.map_newestFirst]

theorem nodup_symbolIds (w : BreadthView) : w.symbolIds.Nodup := by
  have hids : ((w.symbols.rows.filter fun r => r.val.isActive).map Row.id).Nodup :=
    List.pairwise_map.mpr ((w.symbols.ordered.filter _).imp fun hlt => Nat.ne_of_lt hlt)
  exact ((orderBy_perm w.symbolScan _ _).map Row.id).nodup_iff.mpr hids

theorem map_priorPrices {k : ℕ} (hk : k ∈ w.symbolIds) :
    (w.priorPrices.get? k).map Row.val = w.bar k 1 := by
  rw [priorPrices, PriceRepository.get?_getDailyBulkAtRank, if_pos hk, map_newestFirst_bar]

theorem get?_ranges52wk {k : ℕ} (hk : k ∈ w.symbolIds) :
    w.ranges52wk.get? k =
      IpoIntradayScanner.get52WeekHighLow w.windowDay (w.prices.history k) := by
  rw [ranges52wk, get52WeekHighLowBulk,
    Assoc.get?_foldl_setSome (fun k => IpoIntradayScanner.get52WeekHighLow _ (w.prices.history k)),
    if_pos hk, Assoc.get?_empty, Option.or_none]

/-- The latest bars, in the order in which the symbols are listed. -/
theorem todayPrices_perm (w : BreadthView) :
    w.todayPrices.items.Perm (w.symbolIds.filterMap fun k =>
      ((w.prices.newestFirst w.scans.prices k)[0]?).map fun r => (k,r)) :=
  Assoc.items_perm w.nodup_symbolIds
    fun k => PriceRepository.get?_getDailyBulkAtRank _ _ _ 0 k

theorem mem_todayPrices {entry : ℕ × Row DailyPrice} (h : entry ∈ w.todayPrices.items) :
    entry.1 ∈ w.symbolIds ∧ w.bar entry.1 0 = some entry.2.val := by
  obtain ⟨k,hk,hentry⟩ := List.mem_filterMap.mp (w.todayPrices_perm.mem_iff.mp h)
  obtain ⟨r,hr,rfl⟩ := Option.map_eq_some_iff.mp hentry
  refine ⟨hk,?_⟩
  rw [← map_newestFirst_bar, hr, Option.map_some]

theorem exists_mem_todayPrices {k : ℕ} (hk : k ∈ w.symbolIds) {today : DailyPrice}
    (h : w.bar k 0 = some today) : ∃ r, (k,r) ∈ w.todayPrices.items ∧ r.val = today := by
  rw [← map_newestFirst_bar] at h
  obtain ⟨r,hr,rfl⟩ := Option.map_eq_some_iff.mp h
  refine ⟨r,w.todayPrices_perm.mem_iff.mpr ?_,rfl⟩
  exact List.mem_filterMap.mpr ⟨k,hk,by rw [hr, Option.map_some]⟩

/-- What is added up over the latest bars can be added up over the symbols. -/
theorem sum_todayPrices {M : Type} [AddCommMonoid M] (f : ℕ → DailyPrice → M) :
    (w.todayPrices.items.map fun entry => f entry.1 entry.2.val).sum =
      (w.symbolIds.map fun k => (w.bar k 0).elim 0 (f k)).sum := by
  rw [(w.todayPrices_perm.map _).sum_eq]
  generalize w.symbolIds = ks
  induction ks with
  | nil => rfl
  | cons k ks ih =>
    rw [List.filterMap_cons, List.map_cons, List.sum_cons, ← ih, ← map_newestFirst_bar]
    cases (w.prices.newestFirst w.scans.prices k)[0]? with
    | none => simp
    | some r => simp

end BreadthView
end MarketScanner.Analytics
