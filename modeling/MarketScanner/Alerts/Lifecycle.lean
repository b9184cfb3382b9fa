import MarketScanner.Library.Transition
import MarketScanner.Notifications.Manager
import Mathlib.Logic.Function.Basic

/-! The alert lifecycle as one transition system: alert creation, deliveries and expiry jobs, each
database session a step of its own. Any number of deliveries and expiry jobs may be in flight. -/
namespace MarketScanner.Scheduler
open MarketScanner.Python MarketScanner.Alerts

/-- The write half of `_expiry_job`: EXPIRED on the selected rows, one event for each, commit. -/
def expiryCommit (store : AlertStore) (expired : List ℕ) : AlertStore :=
  expired.foldl (fun store alertId => AlertEventRepository.log store alertId .expired none)
    (AlertRepository.markExpired store expired)

/-- `_expiry_job` in one go. -/
def expiryJob (store : AlertStore) (now : DateTime) : AlertStore :=
  expiryCommit store (AlertRepository.expireStale store now).1

theorem foldl_log_alerts (eventType : EventType) (ids : List ℕ) (store : AlertStore) :
    (ids.foldl (fun store alertId => AlertEventRepository.log store alertId eventType none)
      store).alerts = store.alerts := by
  induction ids generalizing store with
  | nil => rfl
  | cons alertId ids ih => exact ih _

theorem foldl_log_events (eventType : EventType) (ids : List ℕ) (store : AlertStore) :
    (ids.foldl (fun store alertId => AlertEventRepository.log store alertId eventType none)
      store).events = store.events ++ ids.map fun alertId => ⟨alertId,eventType,none⟩ := by
  induction ids generalizing store with
  | nil => simp
  | cons alertId ids ih =>
    rw [List.foldl_cons, ih]
    simp [AlertEventRepository.log]

@[simp] theorem expiryCommit_alerts (store : AlertStore) (expired : List ℕ) :
    (expiryCommit store expired).alerts = (AlertRepository.markExpired store expired).alerts :=
  foldl_log_alerts .expired expired _

@[simp] theorem expiryCommit_events (store : AlertStore) (expired : List ℕ) :
    (expiryCommit store expired).events =
      store.events ++ expired.map fun alertId => ⟨alertId,.expired,none⟩ :=
  foldl_log_events .expired expired _

end MarketScanner.Scheduler

namespace MarketScanner.Alerts
open MarketScanner.Library MarketScanner.Python MarketScanner.Config MarketScanner.Decisions
open MarketScanner.Notifications MarketScanner.Scheduler

/-- A `deliver_now` call in flight: the attempts it has recorded, and the provider's answer to the
current one once the send has returned. -/
structure Delivery where
  alertId : ℕ
  provider : NotificationProvider
  attempt : ℕ
  answer : Option DeliveryResult

/-- The tables and queue, the deliveries in flight by call number, and the rows that each running
expiry job has selected but not yet written. -/
structure SystemState where
  world : AlertWorld
  deliveries : ℕ → Option Delivery
  expiries : ℕ → Option (List ℕ)

namespace SystemState

/-- No delivery and no expiry job is in flight, as when the process starts. -/
def idle (world : AlertWorld) : SystemState := ⟨world,fun _ => none,fun _ => none⟩

def empty : SystemState := idle AlertWorld.empty

def statusOf (s : SystemState) (alertId : ℕ) : Option AlertStatus := s.world.store.statusOf alertId

def setDelivery (s : SystemState) (call : ℕ) (d : Option Delivery) : SystemState :=
  { s with deliveries := Function.update s.deliveries call d }

def setExpiry (s : SystemState) (job : ℕ) (ids : Option (List ℕ)) : SystemState :=
  { s with expiries := Function.update s.expiries job ids }

def setStore (s : SystemState) (store : AlertStore) : SystemState :=
  { s with world := { s.world with store } }

@[simp] theorem setDelivery_world (s : SystemState) (call : ℕ) (d : Option Delivery) :
    (s.setDelivery call d).world = s.world := rfl
@[simp] theorem setExpiry_world (s : SystemState) (job : ℕ) (ids : Option (List ℕ)) :
    (s.setExpiry job ids).world = s.world := rfl
@[simp] theorem setStore_store (s : SystemState) (store : AlertStore) :
    (s.setStore store).world.store = store := rfl
@[simp] theorem setStore_queue (s : SystemState) (store : AlertStore) :
    (s.setStore store).world.queue = s.world.queue := rfl

end SystemState

/-- The steps of the system. `send` is an attempt up to the provider's answer: the text is formatted first.
`leave` is a `deliver_now` call that ends without a further write: an exception, or a loop without attempts
left. -/
inductive SystemAction
  | process (decision : DecisionResult) (symbolId : ℕ) (moment createdAt : DateTime)
      (fault : Option ProcessFault)
  | queueGet
  | deliverNow (call alertId : ℕ)
  | send (call : ℕ) (result : DeliveryResult)
  | record (call : ℕ)
  | leave (call : ℕ)
  | expirySelect (job : ℕ) (now : DateTime)
  | expiryWrite (job : ℕ)
  | expiryAbort (job : ℕ)

section Step
variable [Builtins] (settings : Settings) (router : NotificationRouter)

/-- The session after a send: the loop goes on only after RETRYING. -/
def recordStep (s : SystemState) (call : ℕ) (d : Delivery) (result : DeliveryResult) :
    SystemState :=
  match NotificationManager.recordAttempt settings d.provider d.alertId (d.attempt+1) result
      s.world.store with
  | .error _ => s.setDelivery call none
  | .ok (.retrying,store) =>
    (s.setStore store).setDelivery call (some ⟨d.alertId,d.provider,d.attempt+1,none⟩)
  | .ok (_,store) => (s.setStore store).setDelivery call none

def systemStep (s : SystemState) : SystemAction → Option SystemState
  | .process decision symbolId moment createdAt fault =>
    some { s with world := (AlertManager.processImpl settings decision symbolId moment createdAt
      fault s.world).2 }
  | .queueGet =>
    match s.world.queue with
    | [] => none
    | _::rest => some { s with world := { s.world with queue := rest } }
  | .deliverNow call alertId =>
    match s.deliveries call with
    | some _ => none
    | none => some (s.setDelivery call
        ((NotificationManager.openDelivery router s.world.store alertId).map fun provider =>
          ⟨alertId,provider,0,none⟩))
  | .send call result =>
    match s.deliveries call with
    | some ⟨alertId,provider,attempt,none⟩ =>
      if (attempt : ℤ) < settings.alertMaxRetries then
        (AlertRepository.getById s.world.store alertId).bind fun alert =>
          match AlertMessageFormatter.formatText alert.val with
          | .ok _ => some (s.setDelivery call (some ⟨alertId,provider,attempt,some result⟩))
          | .error _ => none
      else none
    | _ => none
  | .record call =>
    match s.deliveries call with
    | some ⟨alertId,provider,attempt,some result⟩ =>
      some (recordStep settings s call ⟨alertId,provider,attempt,some result⟩ result)
    | _ => none
  | .leave call => (s.deliveries call).map fun _ => s.setDelivery call none
  | .expirySelect job now =>
    match s.expiries job with
    | some _ => none
    | none => some (s.setExpiry job
        (some ((AlertRepository.staleAlerts s.world.store now).map Row.id)))
  | .expiryWrite job =>
    (s.expiries job).map fun ids =>
      (s.setStore (expiryCommit s.world.store ids)).setExpiry job none
  | .expiryAbort job => (s.expiries job).map fun _ => s.setExpiry job none

def lifecycle : Machine SystemState SystemAction := ⟨systemStep settings router⟩

/-- The alert that a step hands to a provider. -/
def SystemState.handed (s : SystemState) : SystemAction → Option ℕ
  | .send call _ => (s.deliveries call).map Delivery.alertId
  | _ => none

/-- The answered delivery whose outcome a step writes. -/
def SystemState.recorded (s : SystemState) : SystemAction → Option (Delivery × DeliveryResult)
  | .record call => (s.deliveries call).bind fun d => d.answer.map fun result => (d,result)
  | _ => none

/-- The rows that a step writes EXPIRED to. -/
def SystemState.expiring (s : SystemState) : SystemAction → List ℕ
  | .expiryWrite job => (s.expiries job).getD []
  | _ => []

omit [Builtins] in
theorem recorded_of_expiring {s : SystemState} {a : SystemAction} {alertId : ℕ}
    (h : alertId ∈ s.expiring a) : s.recorded a = none := by
  cases a <;> first | rfl | cases h

/-- What each step finds and what it leaves. -/
inductive SystemMove (s : SystemState) : SystemAction → SystemState → Prop
  | process (decision : DecisionResult) (symbolId : ℕ) (moment createdAt : DateTime)
      (fault : Option ProcessFault) :
      SystemMove s (.process decision symbolId moment createdAt fault)
        { s with world := (AlertManager.processImpl settings decision symbolId moment createdAt
          fault s.world).2 }
  | queueGet (alertId : ℕ) (rest : List ℕ) (queued : s.world.queue = alertId::rest) :
      SystemMove s .queueGet { s with world := { s.world with queue := rest } }
  | deliverNow (call alertId : ℕ) (unused : s.deliveries call = none) :
      SystemMove s (.deliverNow call alertId) (s.setDelivery call
        ((NotificationManager.openDelivery router s.world.store alertId).map fun provider =>
          ⟨alertId,provider,0,none⟩))
  | send (call : ℕ) (d : Delivery) (alert : Row Alert) (result : DeliveryResult)
      (underway : s.deliveries call = some d) (unanswered : d.answer = none)
      (attempts : (d.attempt : ℤ) < settings.alertMaxRetries)
      (stored : AlertRepository.getById s.world.store d.alertId = some alert)
      (formatted : AlertMessageFormatter.formatText alert.val = .ok ()) :
      SystemMove s (.send call result) (s.setDelivery call (some { d with answer := some result }))
  | record (call : ℕ) (d : Delivery) (result : DeliveryResult)
      (underway : s.deliveries call = some d) (answered : d.answer = some result) :
      SystemMove s (.record call) (recordStep settings s call d result)
  | leave (call : ℕ) (d : Delivery) (underway : s.deliveries call = some d) :
      SystemMove s (.leave call) (s.setDelivery call none)
  | expirySelect (job : ℕ) (now : DateTime) (unused : s.expiries job = none) :
      SystemMove s (.expirySelect job now) (s.setExpiry job
        (some ((AlertRepository.staleAlerts s.world.store now).map Row.id)))
  | expiryWrite (job : ℕ) (ids : List ℕ) (selected : s.expiries job = some ids) :
      SystemMove s (.expiryWrite job)
        ((s.setStore (expiryCommit s.world.store ids)).setExpiry job none)
  | expiryAbort (job : ℕ) (ids : List ℕ) (selected : s.expiries job = some ids) :
      SystemMove s (.expiryAbort job) (s.setExpiry job none)

theorem systemStep_move {s t : SystemState} {a : SystemAction}
    (h : systemStep settings router s a = some t) : SystemMove settings router s a t := by
  cases a with
  | process decision symbolId moment createdAt fault =>
    obtain rfl := Option.some.inj h
    exact SystemMove.process decision symbolId moment createdAt fault
  | queueGet =>
    simp only [systemStep] at h
    split at h
    · contradiction
    · rename_i alertId rest hqueue
      obtain rfl := Option.some.inj h
      exact SystemMove.queueGet alertId rest hqueue
  | deliverNow call alertId =>
    simp only [systemStep] at h
    split at h
    · contradiction
    · rename_i hcall
      obtain rfl := Option.some.inj h
      exact SystemMove.deliverNow call alertId hcall
  | send call result =>
    simp only [systemStep] at h
    split at h
    · rename_i alertId provider attempt hcall
      split at h
      · rename_i hattempt
        obtain ⟨alert,hget,h⟩ := Option.bind_eq_some_iff.mp h
        split at h
        · rename_i htext
          obtain rfl := Option.some.inj h
          exact SystemMove.send call ⟨alertId,provider,attempt,none⟩ alert result hcall rfl
            hattempt hget htext
        · contradiction
      · contradiction
    · contradiction
  | record call =>
    simp only [systemStep] at h
    split at h
    · rename_i alertId provider attempt result hcall
      obtain rfl := Option.some.inj h
      exact SystemMove.record call ⟨alertId,provider,attempt,some result⟩ result hcall rfl
    · contradiction
  | leave call =>
    obtain ⟨d,hcall,rfl⟩ := Option.map_eq_some_iff.mp h
    exact SystemMove.leave call d hcall
  | expirySelect job now =>
    simp only [systemStep] at h
    split at h
    · contradiction
    · rename_i hjob
      obtain rfl := Option.some.inj h
      exact SystemMove.expirySelect job now hjob
  | expiryWrite job =>
    obtain ⟨ids,hids,rfl⟩ := Option.map_eq_some_iff.mp h
    exact SystemMove.expiryWrite job ids hids
  | expiryAbort job =>
    obtain ⟨ids,hids,rfl⟩ := Option.map_eq_some_iff.mp h
    exact SystemMove.expiryAbort job ids hids

/-- Where a step gets its alert tables from: it leaves them, or it is one of the three writers. -/
inductive StoreStep (s : SystemState) : SystemAction → AlertStore → Prop
  | same (a : SystemAction) (quiet : s.recorded a = none) (idle : s.expiring a = []) :
      StoreStep s a s.world.store
  | process (decision : DecisionResult) (symbolId : ℕ) (moment createdAt : DateTime)
      (fault : Option ProcessFault) :
      StoreStep s (.process decision symbolId moment createdAt fault)
        (AlertManager.processImpl settings decision symbolId moment createdAt fault
          s.world).2.store
  | record (call : ℕ) (d : Delivery) (result : DeliveryResult)
      (answered : s.recorded (.record call) = some (d,result)) :
      StoreStep s (.record call) (recordStep settings s call d result).world.store
  | expiry (job : ℕ) : StoreStep s (.expiryWrite job)
      (expiryCommit s.world.store (s.expiring (.expiryWrite job)))

theorem systemStep_store {s t : SystemState} {a : SystemAction}
    (h : systemStep settings router s a = some t) : StoreStep settings s a t.world.store := by
  cases systemStep_move settings router h with
  | process decision symbolId moment createdAt fault =>
    exact StoreStep.process decision symbolId moment createdAt fault
  | record call d result hcall hanswer =>
    exact StoreStep.record call d result (by simp [SystemState.recorded, hcall, hanswer])
  | expiryWrite job ids hids =>
    have hexpiring : s.expiring (.expiryWrite job) = ids := by simp [SystemState.expiring, hids]
    have hstep : StoreStep settings s (.expiryWrite job) _ := StoreStep.expiry job
    rw [hexpiring] at hstep
    exact hstep
  | _ => exact StoreStep.same _ rfl rfl

/-- Everything a step can do to the alerts table. -/
inductive AlertsStep (s : SystemState) : SystemAction → Table Alert → Prop
  | unchanged (a : SystemAction) (quiet : s.recorded a = none ∨
        ∃ p, s.recorded a = some p ∧ s.world.store.alerts.get? p.1.alertId = none)
      (idle : s.expiring a = []) : AlertsStep s a s.world.store.alerts
  | created {decision : DecisionResult} {symbolId : ℕ} {moment createdAt : DateTime}
      {fault : Option ProcessFault} (quality : Quality) (levels : AlertManager.AlertLevels)
      (alertGrade : decision.decision = .alert)
      (admitted : AlertManager.Admitted settings decision symbolId moment s.world.store) :
      AlertsStep s (.process decision symbolId moment createdAt fault)
        (s.world.store.alerts.insert
          (AlertManager.newAlert settings decision quality levels symbolId moment createdAt))
  | recorded {a : SystemAction} {d : Delivery} {result : DeliveryResult}
      (answered : s.recorded a = some (d,result)) (idle : s.expiring a = []) :
      AlertsStep s a (s.world.store.alerts.modify d.alertId fun alert =>
        alert.withStatus (NotificationManager.verdict settings (d.attempt+1) result))
  | expired {a : SystemAction} (quiet : s.recorded a = none) :
      AlertsStep s a (s.world.store.alerts.modifyWhere ((s.expiring a).contains ·) fun alert =>
        alert.withStatus .expired)

omit [Builtins] in
theorem recordStep_alerts (s : SystemState) (call : ℕ) (d : Delivery) (result : DeliveryResult) :
    (s.world.store.alerts.get? d.alertId = none ∧
      (recordStep settings s call d result).world = s.world) ∨
    (recordStep settings s call d result).world.store.alerts =
      s.world.store.alerts.modify d.alertId fun alert =>
        alert.withStatus (NotificationManager.verdict settings (d.attempt+1) result) := by
  cases hrec : NotificationManager.recordAttempt settings d.provider d.alertId (d.attempt+1) result
      s.world.store with
  | error e =>
    left
    refine ⟨?_,by simp [recordStep, hrec]⟩
    by_contra hsome
    obtain ⟨r,hr⟩ := Option.ne_none_iff_exists'.mp hsome
    simp [NotificationManager.recordAttempt, AlertRepository.getById,
      AlertDeliveryLogRepository.logAttempt, hr] at hrec
  | ok p =>
    right
    obtain ⟨status,store⟩ := p
    obtain ⟨rfl,halerts⟩ := NotificationManager.recordAttempt_ok hrec
    rw [← halerts]
    unfold recordStep
    rw [hrec]
    split <;> simp_all

theorem systemStep_alerts {s t : SystemState} {a : SystemAction}
    (h : systemStep settings router s a = some t) :
    AlertsStep settings s a t.world.store.alerts := by
  have hstore := systemStep_store settings router h
  generalize t.world.store = store at hstore
  cases hstore with
  | same a hquiet hidle => exact AlertsStep.unchanged a (Or.inl hquiet) hidle
  | process decision symbolId moment createdAt fault =>
    have heffect := AlertManager.processImpl_effect settings decision symbolId moment createdAt fault
      s.world
    generalize AlertManager.processImpl settings decision symbolId moment createdAt fault
      s.world = result at heffect
    cases heffect with
    | skipped => exact AlertsStep.unchanged _ (Or.inl rfl) rfl
    | raised => exact AlertsStep.unchanged _ (Or.inl rfl) rfl
    | suppressed halert hwhy =>
      cases hwhy <;> exact AlertsStep.unchanged _ (Or.inl rfl) rfl
    | created quality levels halert hgraded hadm =>
      simp only [AlertManager.enqueue_alerts, AlertManager.createdStore_alerts]
      exact AlertsStep.created quality levels halert hadm
  | record call d result hrec =>
    rcases recordStep_alerts settings s call d result with ⟨hnone,hsame⟩ | hmod
    · rw [hsame]
      exact AlertsStep.unchanged _ (Or.inr ⟨_,hrec,hnone⟩) rfl
    · rw [hmod]
      exact AlertsStep.recorded hrec rfl
  | expiry job =>
    rw [expiryCommit_alerts]
    exact AlertsStep.expired rfl

omit [Builtins] in
theorem recordStep_extends (s : SystemState) (call : ℕ) (d : Delivery) (result : DeliveryResult) :
    s.world.store.Extends (recordStep settings s call d result).world.store := by
  unfold recordStep
  split
  · exact AlertStore.Extends.refl _
  case h_2 store hrec => exact NotificationManager.recordAttempt_extends hrec
  case h_3 status store _ hrec => exact NotificationManager.recordAttempt_extends hrec

/-- No step drops a row or an event, or changes a row beyond its status. -/
theorem systemStep_extends {s t : SystemState} {a : SystemAction}
    (h : systemStep settings router s a = some t) : s.world.store.Extends t.world.store := by
  have hstore := systemStep_store settings router h
  generalize t.world.store = store at hstore
  cases hstore with
  | same => exact AlertStore.Extends.refl _
  | process decision symbolId moment createdAt fault =>
    exact AlertManager.processImpl_extends settings decision symbolId moment createdAt fault s.world
  | record call d result => exact recordStep_extends settings s call d result
  | expiry job =>
    apply AlertStore.Extends.writeStatus (expiryCommit_alerts _ _)
    rw [expiryCommit_events]
    exact List.prefix_append _ _

/-- An expiry job whose two sessions follow each other is `expiryJob`. -/
theorem exec_expiryJob (s : SystemState) (job : ℕ) (now : DateTime)
    (hidle : s.expiries job = none) :
    ((lifecycle settings router).exec s [.expirySelect job now,.expiryWrite job]).map
        SystemState.world =
      some { s.world with store := expiryJob s.world.store now } := by
  have hselect : (lifecycle settings router).step s (.expirySelect job now) =
      some (s.setExpiry job
        (some ((AlertRepository.staleAlerts s.world.store now).map Row.id))) := by
    simp only [lifecycle, systemStep, hidle]
  rw [Machine.exec, hselect]
  simp [Machine.exec, lifecycle, systemStep, SystemState.setExpiry, SystemState.setStore, expiryJob,
    AlertRepository.expireStale]

end Step

/-! A breakout decision of 2026-01-06, 10:00 in the market's timezone, for the runs on fixed
inputs in the modules that follow. -/
section Sample

def sampleDay : Date := Date.ofCivil 2026 1 6

def sampleDecision : DecisionResult where
  symbol := "RELIANCE"
  scannerName := "breakout_v1"
  signalType := "BREAKOUT"
  decision := .alert
  score := .finite 86
  quality := some .medium
  passedRules := ["required_features"]
  failedRules := []
  warnings := []
  featureSnapshot := [("price",.str "1532.00"),("resistance_level",.str "1520.50"),
    ("date",.str "2026-01-06")]
  timestamp := DateTime.ofUtc sampleDay 270
  ruleResults := []

/-- The digest that `hashlib` computes for the decision's fingerprint source. -/
abbrev sampleBuiltins : Builtins :=
  Builtins.tabulated [("RELIANCE|breakout_v1|BREAKOUT|1520.50|2026-01-06",
      "32824a0340b6a8c97dfffb8c69826992dd690912f6f391c02cc4898918c7096b")]
    [("1532.00",1532),("1520.50",3041/2)] []

def sampleRouter : NotificationRouter :=
  ⟨⟨"telegram","market"⟩,⟨"telegram","ipo"⟩,⟨"telegram","fno"⟩⟩

def delivered : DeliveryResult where
  success := true
  status := "SENT"
  providerMessageId := some "7"

/-- The sample decision handed to `process` at a minute of the sample day. -/
def processAt (minute : ℤ) : SystemAction :=
  .process sampleDecision 1 (DateTime.ofUtc sampleDay minute) (DateTime.ofUtc sampleDay minute) none

end Sample
end MarketScanner.Alerts
