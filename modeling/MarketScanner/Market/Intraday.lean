import MarketScanner.Library.Stamped
import MarketScanner.Python.Values

/-! Provider candles as they arrive, their validation, and `intraday_prices`: one bar for each symbol
and instant. -/
namespace MarketScanner.Market
open MarketScanner.Library MarketScanner.Python

/-- A candle whose fields can be missing, or no numbers. -/
structure ProviderCandle where
  timestamp : DateTime
  openPrice : Option PyFloat
  high : Option PyFloat
  low : Option PyFloat
  close : Option PyFloat
  volume : Option PyFloat
  vwap : Option PyFloat
  deriving DecidableEq

/-- What a `ValidationError` of a candle is about. -/
inductive CandleError
  | corrupted (field : String)
  | negative (field : String)
  | highBelowLow
  | highBelowOpenOrClose
  | lowAboveOpenOrClose
  deriving DecidableEq

namespace DataValidator

/-- `_is_corrupted`: missing, NaN or infinite. -/
def isCorrupted : Option PyFloat → Bool
  | some (.finite _) => false
  | _ => true

/-- `_validate_non_negative`, also the loop body of `_validate_ohlc`. -/
def validateNonNegative (field : String) (value : Option PyFloat) : Except CandleError ℚ :=
  match value with
  | some (.finite q) => if q < 0 then .error (.negative field) else .ok q
  | _ => .error (.corrupted field)

def validateOhlc (candle : ProviderCandle) : Except CandleError Unit := do
  let openPrice ← validateNonNegative "open" candle.openPrice
  let high ← validateNonNegative "high" candle.high
  let low ← validateNonNegative "low" candle.low
  let close ← validateNonNegative "close" candle.close
  if high < low then throw .highBelowLow
  if high < openPrice ∨ high < close then throw .highBelowOpenOrClose
  if openPrice < low ∨ close < low then throw .lowAboveOpenOrClose

def validateCandle (candle : ProviderCandle) : Except CandleError Unit := do
  validateOhlc candle
  let _ ← validateNonNegative "volume" candle.volume
  match candle.vwap with
  | none => pure ()
  | some vwap =>
    let _ ← validateNonNegative "vwap" (some vwap)

def isValid (candle : ProviderCandle) : Bool :=
  match validateCandle candle with
  | .ok () => true
  | .error _ => false

/-- The loop of `validate_candles`, `seen` being the instants of the candles kept so far. -/
def validateFrom (seen : List ℤ) : List ProviderCandle → List ProviderCandle
  | [] => []
  | candle::candles =>
    if candle.timestamp.utc ∈ seen then validateFrom seen candles
    else if isValid candle then
      candle::validateFrom (candle.timestamp.utc::seen) candles
    else validateFrom seen candles

/-- The valid candles, the first of each instant. -/
def validateCandles (candles : List ProviderCandle) : List ProviderCandle := validateFrom [] candles

theorem mem_of_mem_validateFrom {seen : List ℤ} {candles : List ProviderCandle}
    {c : ProviderCandle} (h : c ∈ validateFrom seen candles) : c ∈ candles := by
  induction candles generalizing seen with
  | nil => cases h
  | cons candle candles ih =>
    rw [validateFrom] at h
    split at h
    · exact List.mem_cons_of_mem candle (ih h)
    · split at h
      · rcases List.mem_cons.mp h with rfl | hrest
        · exact List.mem_cons_self
        · exact List.mem_cons_of_mem candle (ih hrest)
      · exact List.mem_cons_of_mem candle (ih h)

theorem mem_of_mem_validateCandles {candles : List ProviderCandle} {c : ProviderCandle}
    (h : c ∈ validateCandles candles) : c ∈ candles :=
  mem_of_mem_validateFrom h

end DataValidator

/-- A stored bar; the columns hold the numbers they are given. -/
structure IntradayPrice where
  symbolId : ℕ
  bar : ProviderCandle
  deriving DecidableEq

abbrev IntradayPrices :=
  Stamped IntradayPrice.symbolId (fun p : IntradayPrice => p.bar.timestamp.utc)

namespace PriceRepository

/-- Insert the bar of the candle's instant, or overwrite it. -/
def upsertIntraday (t : IntradayPrices) (symbolId : ℕ) (candle : ProviderCandle) :
    IntradayPrices :=
  t.put ⟨symbolId,candle⟩

def upsertIntradayMany (t : IntradayPrices) (symbolId : ℕ) (candles : List ProviderCandle) :
    IntradayPrices :=
  candles.foldl (fun t candle => upsertIntraday t symbolId candle) t

end PriceRepository
end MarketScanner.Market
