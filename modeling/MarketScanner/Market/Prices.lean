import Mathlib.Algebra.Order.Ring.Int
import MarketScanner.Config.Settings
import MarketScanner.Library.Stamped

/-! `daily_prices`: one bar for each symbol and trading date. -/
namespace MarketScanner.Market
open MarketScanner.Library MarketScanner.Python MarketScanner.Config

/-- A `Numeric(14, 4)` column: a count of ten-thousandths. -/
structure Numeric4 where
  units : ℤ
  deriving DecidableEq

def Numeric4.toRat (x : Numeric4) : ℚ := x.units/10000

/-- One OHLCV bar of a provider, its prices as the columns hold them. -/
structure Candle where
  timestamp : DateTime
  openPrice : Numeric4
  high : Numeric4
  low : Numeric4
  close : Numeric4
  volume : ℤ
  vwap : Option Numeric4

structure DailyPrice where
  symbolId : ℕ
  date : Date
  openPrice : Numeric4
  high : Numeric4
  low : Numeric4
  close : Numeric4
  volume : ℤ
  vwap : Option Numeric4
  deriving DecidableEq

abbrev DailyPrices := Stamped DailyPrice.symbolId (fun p : DailyPrice => p.date.day)

/-- `market_date_of`. -/
def marketDateOf (settings : Settings) (moment : DateTime) : Date :=
  (Core.toMarketTime moment settings.marketTimezone).date

/-- The bar of a candle. -/
def barOf (settings : Settings) (symbolId : ℕ) (candle : Candle) : DailyPrice :=
  ⟨symbolId,marketDateOf settings candle.timestamp,candle.openPrice,candle.high,candle.low,
    candle.close,candle.volume,candle.vwap⟩

namespace PriceRepository

/-- Insert the bar of the candle's trading date, or overwrite it. -/
def upsertDaily (settings : Settings) (t : DailyPrices) (symbolId : ℕ) (candle : Candle) :
    DailyPrices :=
  t.put (barOf settings symbolId candle)

def getLatestDaily (scan : ScanOrder (Row DailyPrice)) (t : DailyPrices) (symbolId : ℕ) :
    Option (Row DailyPrice) :=
  (t.newestFirst scan symbolId).head?

/-- The most recent `limit` bars, oldest first. -/
def getDailyHistory (scan : ScanOrder (Row DailyPrice)) (t : DailyPrices) (symbolId limit : ℕ) :
    List (Row DailyPrice) :=
  ((t.newestFirst scan symbolId).take limit).reverse

def getDailyBulkAtRank (scan : ScanOrder (Row DailyPrice)) (t : DailyPrices)
    (symbolIds : List ℕ) (rank : ℕ) : Assoc ℕ (Row DailyPrice) :=
  if symbolIds = [] then Assoc.empty else t.atRank scan symbolIds rank

def getLatestDailyBulk (scan : ScanOrder (Row DailyPrice)) (t : DailyPrices)
    (symbolIds : List ℕ) : Assoc ℕ (Row DailyPrice) :=
  getDailyBulkAtRank scan t symbolIds 1

/-- The bar of a rank, for each of the symbols. -/
theorem get?_getDailyBulkAtRank (scan : ScanOrder (Row DailyPrice)) (t : DailyPrices)
    (symbolIds : List ℕ) (rank k : ℕ) :
    (getDailyBulkAtRank scan t symbolIds (rank+1)).get? k =
      if k ∈ symbolIds then (t.newestFirst scan k)[rank]? else none := by
  unfold getDailyBulkAtRank
  split
  · rename_i hempty
    simp [hempty]
  · exact Stamped.get?_atRank scan t symbolIds rank k

/-- The bulk query agrees with the query for one symbol, however each scan orders its rows. -/
theorem get?_getLatestDailyBulk (scan scan' : ScanOrder (Row DailyPrice)) (t : DailyPrices)
    {symbolIds : List ℕ} {symbolId : ℕ} (h : symbolId ∈ symbolIds) :
    (getLatestDailyBulk scan t symbolIds).get? symbolId = getLatestDaily scan' t symbolId := by
  rw [getLatestDailyBulk, get?_getDailyBulkAtRank, if_pos h, getLatestDaily,
    List.head?_eq_getElem?, Stamped.newestFirst_scan scan scan']

theorem map_getDailyHistory (scan : ScanOrder (Row DailyPrice)) (t : DailyPrices)
    (symbolId limit : ℕ) :
    (getDailyHistory scan t symbolId limit).map Row.val =
      (t.history symbolId).drop ((t.history symbolId).length-limit) := by
  rw [getDailyHistory, List.map_reverse, List.map_take, Stamped.map_newestFirst,
    List.take_reverse, List.reverse_reverse]

/-- The latest bar is the last of the history. -/
theorem map_getLatestDaily (scan : ScanOrder (Row DailyPrice)) (t : DailyPrices) (symbolId : ℕ) :
    (getLatestDaily scan t symbolId).map Row.val = (t.history symbolId).getLast? := by
  rw [getLatestDaily, ← List.head?_map, Stamped.map_newestFirst, List.head?_reverse]

end PriceRepository
end MarketScanner.Market
