import MarketScanner.Library.Query
import MarketScanner.Library.Table
import MarketScanner.Python.Values

/-! `momentum_alert_observations`: what an alert-worthy transition looked like when it happened, and the
prices of three horizons, which are filled in later. -/
namespace MarketScanner.Momentum
open MarketScanner.Library MarketScanner.Python

inductive Horizon
  | after15m | after1h | after1d
  deriving DecidableEq, Repr

/-- `_HORIZON_15M`, `_HORIZON_1H` and `_HORIZON_1D`. -/
def Horizon.delta : Horizon → TimeDelta
  | after15m => TimeDelta.minutes 15
  | after1h => TimeDelta.minutes 60
  | after1d => TimeDelta.day

structure NewObservation where
  transitionId : ℕ
  symbolId : ℕ
  alertId : Option ℕ
  momentumState : String
  triggerAt : DateTime
  signalScore : PyFloat
  signalConfidence : Option PyFloat
  asOfDataAt : Option DateTime
  dataAgeSeconds : Option ℚ
  isStale : Bool
  priceAtTrigger : Option PyFloat

/-- A row, with the columns `price_after_*` and `price_change_pct_*` by their horizon. -/
structure MomentumAlertObservation extends NewObservation where
  priceAfter : Horizon → Option PyFloat := fun _ => none
  priceChangePct : Horizon → Option PyFloat := fun _ => none

abbrev MomentumAlertObservations := Table MomentumAlertObservation

namespace MomentumAlertObservationRepository

/-- Raises where the transition has a row already: `transition_id` is unique. -/
def insert (t : MomentumAlertObservations) (data : NewObservation) :
    Except PyException MomentumAlertObservations :=
  if t.rows.any fun r => r.val.transitionId == data.transitionId then .error .environment
  else .ok (Table.insert t { toNewObservation := data })

/-- A row that `list_awaiting_*` selects: triggered by the cutoff, and not filled. -/
def awaits (horizon : Horizon) (cutoff : DateTime) (r : Row MomentumAlertObservation) : Bool :=
  decide (r.val.triggerAt ≤ cutoff) && (r.val.priceAfter horizon).isNone

/-- The queries for the three horizons. They have no `ORDER BY`: the rows come as the scan delivers them. -/
def listAwaiting (horizon : Horizon) (scan : ScanOrder (Row MomentumAlertObservation))
    (t : MomentumAlertObservations) (cutoff : DateTime) (limit : ℕ) :
    List (Row MomentumAlertObservation) :=
  (scan.arrange (t.rows.filter (awaits horizon cutoff))).take limit

/-- The default of `limit`. -/
def awaitingLimit : ℕ := 200

def listAwaiting15m (scan : ScanOrder (Row MomentumAlertObservation)) (t : MomentumAlertObservations)
    (cutoff : DateTime) : List (Row MomentumAlertObservation) :=
  listAwaiting .after15m scan t cutoff awaitingLimit

def listAwaiting1h (scan : ScanOrder (Row MomentumAlertObservation)) (t : MomentumAlertObservations)
    (cutoff : DateTime) : List (Row MomentumAlertObservation) :=
  listAwaiting .after1h scan t cutoff awaitingLimit

def listAwaiting1d (scan : ScanOrder (Row MomentumAlertObservation)) (t : MomentumAlertObservations)
    (cutoff : DateTime) : List (Row MomentumAlertObservation) :=
  listAwaiting .after1d scan t cutoff awaitingLimit

end MomentumAlertObservationRepository
end MarketScanner.Momentum
