import Mathlib.Algebra.Order.Ring.Rat
import MarketScanner.Library.Assoc
import MarketScanner.Python.Values

/-! Ticks of a live feed rolled up into one-minute candles, in memory. Prices are exact decimals. -/
namespace MarketScanner.Providers
open MarketScanner.Library MarketScanner.Python

/-- One LTPC message: last traded price, time in milliseconds, and quantity. -/
structure Tick where
  instrumentKey : String
  ltp : ℚ
  lttMs : ℤ
  ltq : ℤ
  deriving DecidableEq

/-- A provider's candle as the aggregator builds it: without a vwap. -/
structure TickCandle where
  timestamp : DateTime
  openPrice : ℚ
  high : ℚ
  low : ℚ
  close : ℚ
  volume : ℤ
  deriving DecidableEq

structure OpenBucket where
  minute : DateTime
  openPrice : ℚ
  high : ℚ
  low : ℚ
  close : ℚ
  volume : ℤ

namespace OpenBucket

def first (minute : DateTime) (t : Tick) : OpenBucket := ⟨minute,t.ltp,t.ltp,t.ltp,t.ltp,t.ltq⟩

def add (bucket : OpenBucket) (t : Tick) : OpenBucket :=
  { bucket with
    high := max bucket.high t.ltp
    low := min bucket.low t.ltp
    close := t.ltp
    volume := bucket.volume+t.ltq }

/-- `_to_candle`. -/
def toCandle (bucket : OpenBucket) : TickCandle :=
  ⟨bucket.minute,bucket.openPrice,bucket.high,bucket.low,bucket.close,bucket.volume⟩

end OpenBucket

/-- The first and last millisecond that a `datetime` can hold: of the years 1 and 9999. -/
def minTimestampMs : ℤ := -62135596800000
def maxTimestampMs : ℤ := 253402300799999

/-- `datetime.fromtimestamp(ms / 1000, tz=UTC)`. -/
def fromTimestampMs (ms : ℤ) : Except PyException DateTime :=
  let moment : DateTime := ⟨ms*1000,0⟩
  if minTimestampMs ≤ ms ∧ ms ≤ maxTimestampMs then .ok moment
  else .error (.valueError s!"year {moment.date.year} is out of range")

/-- `moment.replace(second=0, microsecond=0)`, in UTC. -/
def startOfMinute (moment : DateTime) : DateTime := ⟨moment.utc / 60000000 * 60000000,moment.offset⟩

/-- The minute of the bucket that a tick belongs to. -/
def Tick.minute (t : Tick) : Except PyException DateTime :=
  match fromTimestampMs t.lttMs with
  | .ok moment => .ok (startOfMinute moment)
  | .error e => .error e

structure TickAggregator where
  buckets : Assoc String OpenBucket := Assoc.empty
  lastLttMs : Assoc String ℤ := Assoc.empty
  duplicatesDropped : ℕ := 0
  ticksProcessed : ℕ := 0

namespace TickAggregator

/-- At or before the last trade time seen for the instrument. -/
def isDuplicate (agg : TickAggregator) (t : Tick) : Bool :=
  match agg.lastLttMs.get? t.instrumentKey with
  | some lastLtt => decide (t.lttMs ≤ lastLtt)
  | none => false

/-- The candle that the tick completes, if any. The last trade time and the counter are set before
anything can raise. -/
def ingest (agg : TickAggregator) (t : Tick) :
    TickAggregator × Except PyException (Option TickCandle) :=
  if agg.isDuplicate t then
    ({ agg with duplicatesDropped := agg.duplicatesDropped+1 },.ok none)
  else
    let agg := { agg with
      lastLttMs := agg.lastLttMs.set t.instrumentKey t.lttMs
      ticksProcessed := agg.ticksProcessed+1 }
    match t.minute with
    | .error e => (agg,.error e)
    | .ok minute =>
      match agg.buckets.get? t.instrumentKey with
      | none =>
        ({ agg with buckets := agg.buckets.set t.instrumentKey (OpenBucket.first minute t) },.ok none)
      | some bucket =>
        if bucket.minute ≠ minute then
          ({ agg with buckets := agg.buckets.set t.instrumentKey (OpenBucket.first minute t) },
            .ok (some bucket.toCandle))
        else ({ agg with buckets := agg.buckets.set t.instrumentKey (bucket.add t) },.ok none)

end TickAggregator

/-- A stream of ticks so far: the aggregator, and the candles that `ingest` has returned, under the
instruments whose ticks completed them. -/
structure Aggregation where
  aggregator : TickAggregator := {}
  completed : List (String × TickCandle) := []

namespace Aggregation

def ingest (s : Aggregation) (t : Tick) : Aggregation :=
  match s.aggregator.ingest t with
  | (aggregator,.ok (some candle)) => ⟨aggregator,s.completed ++ [(t.instrumentKey,candle)]⟩
  | (aggregator,_) => ⟨aggregator,s.completed⟩

def ingestAll (ticks : List Tick) : Aggregation := ticks.foldl ingest {}

def candles (s : Aggregation) (key : String) : List TickCandle :=
  (s.completed.filter fun entry => decide (entry.1 = key)).map Prod.snd

def bucket (s : Aggregation) (key : String) : Option OpenBucket := s.aggregator.buckets.get? key

theorem ingestAll_concat (ticks : List Tick) (t : Tick) :
    ingestAll (ticks ++ [t]) = (ingestAll ticks).ingest t := by
  rw [ingestAll, List.foldl_append]
  rfl

end Aggregation
end MarketScanner.Providers
