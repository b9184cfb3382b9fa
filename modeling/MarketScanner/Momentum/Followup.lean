import MarketScanner.Library.Transition
import MarketScanner.Market.Intraday
import MarketScanner.Market.Prices
import MarketScanner.Momentum.Observations
import MarketScanner.Python.Decimals

/-! The follow-up of momentum alert observations: the prices of the three horizons, from stored bars. -/
namespace MarketScanner.Momentum
open MarketScanner.Library MarketScanner.Python MarketScanner.Config MarketScanner.Market
open MomentumAlertObservationRepository

/-- The stored bars; the column of the close is `NOT NULL`. -/
structure PriceBars where
  intraday : IntradayPrices
  daily : DailyPrices
  closed : ∀ r ∈ intraday.table.rows, r.val.bar.close ≠ none

/-- The orders in which the scans of a run deliver their rows. -/
structure ScanOrders where
  observations : Horizon → ScanOrder (Row MomentumAlertObservation)
  intraday : ScanOrder (Row IntradayPrice)
  daily : ScanOrder (Row DailyPrice)

def getIntradayAtOrAfter (scan : ScanOrder (Row IntradayPrice)) (t : IntradayPrices) (symbolId : ℕ)
    (moment : DateTime) : Option (Row IntradayPrice) :=
  t.firstFrom scan symbolId moment.utc

def getDailyAtOrAfter (scan : ScanOrder (Row DailyPrice)) (t : DailyPrices) (symbolId : ℕ) (day : Date) :
    Option (Row DailyPrice) :=
  t.firstFrom scan symbolId day.day

/-- `round(x, 4)`. -/
def roundFour : PyFloat → PyFloat
  | .finite q => .finite (roundTo 4 q)
  | x => x

/-- `_pct_change` -/
def pctChange (base later : Option PyFloat) : Option PyFloat :=
  match base, later with
  | some base, some later =>
    if base.eq (.finite 0) then none
    else some (roundFour (((later.sub base).div base).mul (.finite 100)))
  | _, _ => none

/-- What a `_fill_*` writes into a row, given the close of its bar. -/
def filledWith (horizon : Horizon) (row : MomentumAlertObservation) (close : Option PyFloat) :
    MomentumAlertObservation :=
  { row with
    priceAfter := Function.update row.priceAfter horizon close
    priceChangePct := Function.update row.priceChangePct horizon (pctChange row.priceAtTrigger close) }

section Job
variable (settings : Settings) (scans : ScanOrders) (bars : PriceBars)

/-- `_fill_15m`: the row it leaves, or `none` where it returns `False`. -/
def fill15m (row : MomentumAlertObservation) : Option MomentumAlertObservation :=
  (getIntradayAtOrAfter scans.intraday bars.intraday row.symbolId
    (row.triggerAt.add Horizon.after15m.delta)).map fun bar => filledWith .after15m row bar.val.bar.close

def fill1h (row : MomentumAlertObservation) : Option MomentumAlertObservation :=
  (getIntradayAtOrAfter scans.intraday bars.intraday row.symbolId
    (row.triggerAt.add Horizon.after1h.delta)).map fun bar => filledWith .after1h row bar.val.bar.close

/-- The trading date, in the market's timezone, from which a close counts as one day later. -/
def targetDate (triggerAt : DateTime) : Date :=
  (Core.toMarketTime (triggerAt.add Horizon.after1d.delta) settings.marketTimezone).date

def fill1d (row : MomentumAlertObservation) : Option MomentumAlertObservation :=
  (getDailyAtOrAfter scans.daily bars.daily row.symbolId (targetDate settings row.triggerAt)).map
    fun bar => filledWith .after1d row (some (.finite bar.val.close.toRat))

/-- A loop of `_run_followup`: the table, and how many rows were filled. A listed row is the session's
object of its id, so what is filled is the row as it stands. -/
def fillEach (fill : MomentumAlertObservation → Option MomentumAlertObservation)
    (rows : List (Row MomentumAlertObservation)) (t : MomentumAlertObservations) :
    MomentumAlertObservations × ℕ :=
  rows.foldl (fun s r => (s.1.modify r.id fun row => (fill row).getD row,
    s.2+if (fill r.val).isSome then 1 else 0)) (t,0)

/-- `_run_followup`: the table it commits and the numbers of filled rows. -/
def runFollowup (now : DateTime) (t : MomentumAlertObservations) :
    MomentumAlertObservations × ℕ × ℕ × ℕ :=
  let (t₁,filled15m) := fillEach (fill15m scans bars)
    (listAwaiting15m (scans.observations .after15m) t (now.sub Horizon.after15m.delta)) t
  let (t₂,filled1h) := fillEach (fill1h scans bars)
    (listAwaiting1h (scans.observations .after1h) t₁ (now.sub Horizon.after1h.delta)) t₁
  let (t₃,filled1d) := fillEach (fill1d settings scans bars)
    (listAwaiting1d (scans.observations .after1d) t₂ (now.sub Horizon.after1d.delta)) t₂
  (t₃,filled15m,filled1h,filled1d)

end Job

/-- A transition is observed, or the follow-up runs, over whatever bars there are. A run that raises commits
nothing. -/
inductive FollowupAction
  | insert (data : NewObservation)
  | run (settings : Settings) (scans : ScanOrders) (bars : PriceBars) (now : DateTime) (raised : Bool)

def followupStep (t : MomentumAlertObservations) : FollowupAction → Option MomentumAlertObservations
  | .insert data => (MomentumAlertObservationRepository.insert t data).toOption
  | .run settings scans bars now raised =>
    some (if raised then t else (runFollowup settings scans bars now t).1)

def followupMachine : Machine MomentumAlertObservations FollowupAction := ⟨followupStep⟩

end MarketScanner.Momentum
