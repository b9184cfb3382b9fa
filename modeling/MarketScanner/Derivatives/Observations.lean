import Mathlib.Algebra.Order.Floor.Ring
import Mathlib.Data.Rat.Floor
import MarketScanner.Derivatives.Readings
import MarketScanner.Library.Stamped
import MarketScanner.Library.Transition
import MarketScanner.Library.Window
import MarketScanner.Market.Symbols

/-! `oi_observations`, which only grows, and the engine that writes it for one symbol after the other. -/
namespace MarketScanner.Derivatives
open MarketScanner.Library MarketScanner.Python MarketScanner.Market

/-- What a `Numeric` column holds of a decimal: the database rounds it half away from zero. -/
def numericColumn (scale : ℕ) (q : ℚ) : ℚ :=
  if 0 ≤ q then ⌊q*10^scale+1/2⌋/10^scale else -(⌊-q*10^scale+1/2⌋/10^scale)

structure OiObservation where
  symbolId : ℕ
  instrumentKey : String
  instrumentType : InstrumentType
  strikePrice : Option ℚ
  expiryDate : Date
  observedAt : DateTime
  price : ℚ
  prevPrice : Option ℚ
  priceChangePct : Option ℚ
  volume : ℤ
  oi : ℚ
  prevOi : Option ℚ
  oiChange : Option ℚ
  oiChangePct : Option ℚ
  classification : BuildupClassification
  deriving DecidableEq

/-- The row of a reading. -/
def OiObservation.ofReading (symbolId : ℕ) (r : OiReading) : OiObservation where
  symbolId := symbolId
  instrumentKey := r.instrumentKey
  instrumentType := r.instrumentType
  strikePrice := r.strikePrice.map (numericColumn 4)
  expiryDate := r.expiryDate
  observedAt := r.observedAt
  price := numericColumn 4 r.price
  prevPrice := r.prevPrice.map (numericColumn 4)
  priceChangePct := r.priceChangePct.map (numericColumn 4)
  volume := r.volume
  oi := numericColumn 2 r.oi
  prevOi := r.prevOi.map (numericColumn 2)
  oiChange := r.oiChange.map (numericColumn 2)
  oiChangePct := r.oiChangePct.map (numericColumn 4)
  classification := r.classification

namespace OiObservationRepository

def insert (t : Table OiObservation) (symbolId : ℕ) (r : OiReading) : Table OiObservation :=
  t.insert (.ofReading symbolId r)

def insertAll (t : Table OiObservation) (symbolId : ℕ) (readings : List OiReading) : Table OiObservation :=
  readings.foldl (fun t r => insert t symbolId r) t

/-- `ORDER BY observed_at DESC` -/
abbrev NewestFirst : Row OiObservation → Row OiObservation → Prop :=
  Stamped.Newer fun o : OiObservation => o.observedAt.utc

def listForSymbol (scan : ScanOrder (Row OiObservation)) (t : Table OiObservation) (symbolId limit : ℕ) :
    List (Row OiObservation) :=
  (orderBy scan NewestFirst (t.rows.filter fun r => decide (r.val.symbolId = symbolId))).take limit

/-- `ORDER BY abs(oi_change_pct) DESC`, where the database puts the nulls first. -/
def LargerMove (a b : Row OiObservation) : Prop :=
  match a.val.oiChangePct, b.val.oiChangePct with
  | none, _ => True
  | some _, none => False
  | some x, some y => |y| ≤ |x|

instance : DecidableRel LargerMove := fun a b => by
  unfold LargerMove
  split <;> infer_instance

def futuresRows (t : Table OiObservation) : List (Row OiObservation) :=
  t.rows.filter fun r => decide (r.val.instrumentType = .futures)

/-- The newest futures row of each symbol, if it is not neutral, by the size of its move. `partition`
and `scan` are the orders in which the database meets rows that compare equal. -/
def listLatestBuildups (partition scan : ScanOrder (Row OiObservation)) (t : Table OiObservation)
    (limit : ℕ) : List (Row OiObservation) :=
  let ranked := firsts (fun r => r.val.symbolId) (orderBy partition NewestFirst (futuresRows t))
  (orderBy scan LargerMove (ranked.filter fun r => decide (r.val.classification ≠ .neutral))).take limit

end OiObservationRepository

structure OiEngineRunStats where
  symbolsProcessed : ℕ := 0
  observationsWritten : ℕ := 0
  symbolsWithNoData : ℕ := 0
  errorCount : ℕ := 0
  errors : List String := []
  deriving DecidableEq, Repr

/-- What comes back for one symbol: the chain, the clock after it, the futures bars, and whether the
inserts and the commit go through. An exception is given by its text. -/
structure OiReplies where
  chain : Except String (List OptionChainSnapshot)
  now : DateTime
  futures : Except String (List FuturesOiBar)
  stored : Except String Unit

namespace OiEngine

def readings (symbol : Symbol) (replies : OiReplies) : Except String (List OiReading) := do
  let chain ← replies.chain
  let bars ← replies.futures
  .ok (readingsFromChain replies.now chain ++ (readingFromFuturesBars symbol.symbol bars).toList)

structure State where
  table : Table OiObservation
  stats : OiEngineRunStats

def State.failed (s : State) (symbol : Symbol) (error : String) : State :=
  { s with
    stats.errorCount := s.stats.errorCount+1
    stats.errors := s.stats.errors ++ [symbol.symbol ++ ": " ++ error] }

/-- The body of the loop. -/
def process (replies : Symbol → OiReplies) (s : State) (symbol : Symbol) : State :=
  let s := { s with stats.symbolsProcessed := s.stats.symbolsProcessed+1 }
  match readings symbol (replies symbol) with
  | .error e => s.failed symbol e
  | .ok [] => { s with stats.symbolsWithNoData := s.stats.symbolsWithNoData+1 }
  | .ok readings =>
    match (replies symbol).stored with
    | .error e => s.failed symbol e
    | .ok () =>
      { s with
        table := OiObservationRepository.insertAll s.table symbol.id readings
        stats.observationsWritten := s.stats.observationsWritten+readings.length }

/-- `run` over the symbols of the F&O universe. -/
def run (t : Table OiObservation) (symbols : List Symbol) (replies : Symbol → OiReplies) : State :=
  symbols.foldl (process replies) ⟨t,{}⟩

/-- How the engine ends up with a symbol. -/
def outcome (replies : Symbol → OiReplies) (symbol : Symbol) : Except String (List OiReading) :=
  match readings symbol (replies symbol) with
  | .error e => .error e
  | .ok [] => .ok []
  | .ok readings => (replies symbol).stored.map fun _ => readings

end OiEngine
end MarketScanner.Derivatives
