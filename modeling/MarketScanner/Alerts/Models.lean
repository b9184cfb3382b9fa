import MarketScanner.Library.Table
import MarketScanner.Decision.Models

/-! The alert tables: one row per ALERT-grade decision, an append-only event log and one log row
per delivery attempt. -/
namespace MarketScanner.Alerts
open MarketScanner.Library MarketScanner.Python MarketScanner.Decisions

/-- The notification lifecycle of an alert. -/
inductive AlertStatus
  | pending | sent | failed | retrying | expired
  deriving DecidableEq, Repr

def AlertStatus.value : AlertStatus → String
  | pending => "PENDING"
  | sent => "SENT"
  | failed => "FAILED"
  | retrying => "RETRYING"
  | expired => "EXPIRED"

structure Alert where
  symbolId : ℕ
  scannerName : String
  signalType : String
  decision : Decision
  score : PyFloat
  quality : Quality
  entryReference : Option PyFloat
  breakoutLevel : Option PyFloat
  supportLevel : Option PyFloat
  resistanceLevel : Option PyFloat
  featureSnapshot : Dict
  reason : String
  passedRules : List String
  status : AlertStatus
  fingerprint : String
  signalDate : Date
  createdAt : DateTime
  expiresAt : Option DateTime

def Alert.withStatus (alert : Alert) (status : AlertStatus) : Alert := { alert with status }

@[simp] theorem Alert.withStatus_status (alert : Alert) (status : AlertStatus) :
    (alert.withStatus status).status = status := rfl
@[simp] theorem Alert.withStatus_fingerprint (alert : Alert) (status : AlertStatus) :
    (alert.withStatus status).fingerprint = alert.fingerprint := rfl
inductive EventType
  | created | queued | sent | failed | retrying | expired | suppressed
  deriving DecidableEq, Repr

structure AlertEvent where
  alertId : ℕ
  eventType : EventType
  eventMetadata : Option Dict

structure AlertDeliveryLog where
  alertId : ℕ
  provider : String
  status : String
  attemptNumber : ℕ
  responseMetadata : Dict
  errorMessage : Option String

/-- The committed contents of the three tables. -/
structure AlertStore where
  alerts : Table Alert
  events : List AlertEvent
  deliveryLogs : List AlertDeliveryLog

def AlertStore.empty : AlertStore := ⟨Table.empty,[],[]⟩

namespace AlertStore

def statusOf (store : AlertStore) (alertId : ℕ) : Option AlertStatus :=
  (store.alerts.get? alertId).map fun r => r.val.status

end AlertStore
end MarketScanner.Alerts
