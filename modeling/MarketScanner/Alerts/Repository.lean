import MarketScanner.Alerts.Models
import MarketScanner.Library.Query

/-! Queries and writes of the alert tables, as the repositories issue them. -/
namespace MarketScanner.Alerts
open MarketScanner.Library MarketScanner.Python

namespace AlertRepository

def create (store : AlertStore) (alert : Alert) : ℕ × AlertStore :=
  (store.alerts.nextId,{ store with alerts := store.alerts.insert alert })

/-- Most recent alert of a fingerprint, by id. -/
def getByFingerprint (store : AlertStore) (fingerprint : String) : Option (Row Alert) :=
  store.alerts.latest fun r => r.val.fingerprint == fingerprint

def getById (store : AlertStore) (alertId : ℕ) : Option (Row Alert) := store.alerts.get? alertId

/-- Most recent alert of a symbol and signal type created at or after `since`. -/
def getMostRecentForSignal (store : AlertStore) (symbolId : ℕ) (signalType : String)
    (since : DateTime) : Option (Row Alert) :=
  store.alerts.latest fun r =>
    r.val.symbolId == symbolId && r.val.signalType == signalType && decide (since ≤ r.val.createdAt)

/-- The default of `list_by_status`'s `limit` parameter. -/
def defaultLimit : ℕ := 200

/-- Oldest first, at most `limit` rows. -/
def listByStatus (scan : ScanOrder (Row Alert)) (store : AlertStore) (statuses : List AlertStatus)
    (limit : ℕ) : List (Row Alert) :=
  (orderBy scan (fun a b => a.val.createdAt ≤ b.val.createdAt)
    (store.alerts.rows.filter fun r => statuses.contains r.val.status)).take limit

/-- All alerts created at or after `since`, oldest first, whatever their status. -/
def listCreatedSince (scan : ScanOrder (Row Alert)) (store : AlertStore) (since : DateTime) :
    List (Row Alert) :=
  orderBy scan (fun a b => a.val.createdAt ≤ b.val.createdAt)
    (store.alerts.rows.filter fun r => decide (since ≤ r.val.createdAt))

def updateStatus (store : AlertStore) (alertId : ℕ) (status : AlertStatus) : AlertStore :=
  { store with alerts := store.alerts.modify alertId fun a => a.withStatus status }

/-- The rows that `expire_stale` selects: undelivered alerts past their expiry. -/
def staleAlerts (store : AlertStore) (now : DateTime) : List (Row Alert) :=
  store.alerts.rows.filter fun r =>
    [AlertStatus.pending,.retrying].contains r.val.status &&
      match r.val.expiresAt with
      | none => false
      | some t => decide (t ≤ now)

/-- The write half of `expire_stale`: mark the selected rows. -/
def markExpired (store : AlertStore) (alertIds : List ℕ) : AlertStore :=
  { store with
    alerts := store.alerts.modifyWhere (alertIds.contains ·) fun a => a.withStatus .expired }

def expireStale (store : AlertStore) (now : DateTime) : List ℕ × AlertStore :=
  let expired := (staleAlerts store now).map Row.id
  (expired,markExpired store expired)

/-- A status write touches the status of the rows it addresses and nothing else. -/
theorem mem_writeStatus {t : Table Alert} {q : ℕ → Bool} {status : AlertStatus} {r : Row Alert}
    (h : r ∈ (t.modifyWhere q fun a => a.withStatus status).rows) :
    ∃ r₀ ∈ t.rows, r₀.id = r.id ∧ r.val = r₀.val.withStatus r.val.status ∧
      (q r.id = true ∧ r.val.status = status ∨ q r.id = false ∧ r = r₀) := by
  obtain ⟨r₀,hr₀,rfl⟩ := Table.mem_modifyWhere.mp h
  refine ⟨r₀,hr₀,by simp,?_⟩
  cases hq : q r₀.id with
  | true =>
    rw [Row.change_of_true hq]
    exact ⟨rfl,Or.inl ⟨hq,rfl⟩⟩
  | false =>
    rw [Row.change_of_false hq]
    exact ⟨rfl,Or.inr ⟨hq,rfl⟩⟩

theorem status_writeStatus (t : Table Alert) (q : ℕ → Bool) (status : AlertStatus) (i : ℕ) :
    ((t.modifyWhere q fun a => a.withStatus status).get? i).map (fun r => r.val.status) =
      (t.get? i).map fun r => if q i then status else r.val.status := by
  rw [Table.get?_modifyWhere]
  cases hget : t.get? i with
  | none => rfl
  | some r =>
    have hid : r.id = i := Table.id_of_get? hget
    cases hq : q i with
    | true =>
      rw [← hid] at hq
      simp [Row.change_of_true hq]
    | false =>
      rw [← hid] at hq
      simp [Row.change_of_false hq]

end AlertRepository

def AlertEventRepository.log (store : AlertStore) (alertId : ℕ) (eventType : EventType)
    (eventMetadata : Option Dict) : AlertStore :=
  { store with events := store.events ++ [⟨alertId,eventType,eventMetadata⟩] }

def AlertDeliveryLogRepository.logAttempt (store : AlertStore) (entry : AlertDeliveryLog) :
    AlertStore :=
  { store with deliveryLogs := store.deliveryLogs ++ [entry] }

/-- What no write takes back: a row keeps everything but its status, an event stays logged. -/
structure AlertStore.Extends (store store' : AlertStore) : Prop where
  rows : ∀ r ∈ store.alerts.rows, ∃ r' ∈ store'.alerts.rows,
    r'.id = r.id ∧ r'.val = r.val.withStatus r'.val.status
  events : store.events <+: store'.events

namespace AlertStore.Extends

theorem refl (store : AlertStore) : store.Extends store :=
  ⟨fun r hr => ⟨r,hr,rfl,rfl⟩,List.prefix_rfl⟩

theorem trans {a b c : AlertStore} (h : a.Extends b) (h' : b.Extends c) : a.Extends c := by
  refine ⟨?_,h.events.trans h'.events⟩
  intro r hr
  obtain ⟨r₁,hr₁,hid₁,hval₁⟩ := h.rows r hr
  obtain ⟨r₂,hr₂,hid₂,hval₂⟩ := h'.rows r₁ hr₁
  refine ⟨r₂,hr₂,hid₂.trans hid₁,?_⟩
  rw [hval₂, hval₁]
  rfl

theorem log (store : AlertStore) (alertId : ℕ) (eventType : EventType)
    (eventMetadata : Option Dict) :
    store.Extends (AlertEventRepository.log store alertId eventType eventMetadata) :=
  ⟨fun r hr => ⟨r,hr,rfl,rfl⟩,List.prefix_append _ _⟩

theorem create (store : AlertStore) (alert : Alert) :
    store.Extends (AlertRepository.create store alert).2 :=
  ⟨fun r hr => ⟨r,Table.mem_insert.mpr (Or.inl hr),rfl,rfl⟩,List.prefix_rfl⟩

theorem writeStatus {store store' : AlertStore} {q : ℕ → Bool} {status : AlertStatus}
    (halerts : store'.alerts = store.alerts.modifyWhere q fun a => a.withStatus status)
    (hevents : store.events <+: store'.events) : store.Extends store' := by
  refine ⟨?_,hevents⟩
  intro r hr
  have hmem : Row.change q (fun a => a.withStatus status) r ∈ store'.alerts.rows := by
    rw [halerts]
    exact Table.mem_modifyWhere.mpr ⟨r,hr,rfl⟩
  refine ⟨_,hmem,Row.change_id _ _ _,?_⟩
  cases hq : q r.id with
  | true => rw [Row.change_of_true hq]; rfl
  | false => rw [Row.change_of_false hq]; rfl

end AlertStore.Extends

end MarketScanner.Alerts
