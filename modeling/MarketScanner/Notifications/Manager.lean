import MarketScanner.Alerts.Formatter
import MarketScanner.Alerts.Manager

/-! Delivery of one alert, with its retry loop, and the recovery of undelivered alerts at startup. The
pauses between attempts leave no trace in the tables and are left out. -/
namespace MarketScanner.Notifications
open MarketScanner.Library MarketScanner.Python MarketScanner.Config MarketScanner.Alerts

/-- What a provider hands back after one send attempt. -/
structure DeliveryResult where
  success : Bool
  status : String
  providerMessageId : Option String := none
  errorMessage : Option String := none
  responseMetadata : Dict := []
  retryable : Bool := true

structure NotificationProvider where
  name : String
  defaultRecipient : String

structure NotificationRouter where
  default : NotificationProvider
  ipo : NotificationProvider
  fno : NotificationProvider

namespace NotificationRouter

def ipoAlertCategories : List String := ["IPO_PRE_BREAKOUT","IPO_BREAKOUT","IPO_MOMENTUM"]
def fnoAlertCategories : List String := ["FNO_PRE_BREAKOUT","FNO_BREAKOUT","FNO_MOMENTUM"]

def resolve (router : NotificationRouter) : Option String → NotificationProvider
  | none => router.default
  | some category =>
    if ipoAlertCategories.contains category then router.ipo
    else if fnoAlertCategories.contains category then router.fno
    else router.default

end NotificationRouter

/-- The alert's category, when its snapshot carries one as text. -/
def alertCategory (alert : Alert) : Option String :=
  match alert.featureSnapshot.get "alert_category" with
  | .str category => some category
  | _ => none

namespace NotificationManager

/-- The first session of `deliver_now`: nothing to do for a missing or SENT alert, else the
provider of the alert's category. -/
def openDelivery (router : NotificationRouter) (store : AlertStore) (alertId : ℕ) :
    Option NotificationProvider :=
  match AlertRepository.getById store alertId with
  | none => none
  | some alert =>
    if alert.val.status = .sent then none else some (router.resolve (alertCategory alert.val))

/-- The status that attempt number `attempt` writes for the provider's answer. -/
def verdict (settings : Settings) (attempt : ℕ) (result : DeliveryResult) : AlertStatus :=
  if result.success then .sent
  else if !result.retryable || decide (settings.alertMaxRetries ≤ attempt) then .failed
  else .retrying

def optionalText : Option String → PyValue
  | none => .none
  | some text => .str text

/-- The lifecycle event logged with each verdict. -/
def verdictEvent (attempt : ℕ) (result : DeliveryResult) : AlertStatus → EventType × Dict
  | .sent => (.sent,[("provider_message_id",optionalText result.providerMessageId)])
  | .retrying => (.retrying,[("attempt",.int attempt),("error",optionalText result.errorMessage)])
  | _ => (.failed,[("error",optionalText result.errorMessage)])

/-- The session after a send: log the attempt, write the new status, log its event. The row is read
again there, but its stored status is not looked at. -/
def recordAttempt (settings : Settings) (provider : NotificationProvider) (alertId attempt : ℕ)
    (result : DeliveryResult) (store : AlertStore) : Except PyException (AlertStatus × AlertStore) :=
  let logged := AlertDeliveryLogRepository.logAttempt store
    ⟨alertId,provider.name,result.status,attempt,result.responseMetadata,result.errorMessage⟩
  match AlertRepository.getById logged alertId with
  | none => .error .assertionError
  | some _ =>
    let status := verdict settings attempt result
    let (eventType,eventMetadata) := verdictEvent attempt result status
    .ok (status,AlertEventRepository.log (AlertRepository.updateStatus logged alertId status)
      alertId eventType (some eventMetadata))

/-- How one attempt goes: the provider answers, possibly followed by a database failure while the
answer is recorded, or the provider itself raises. -/
inductive SendOutcome
  | answers (result : DeliveryResult)
  | answersUnrecorded (result : DeliveryResult)
  | raises

section Loop
variable [Builtins]

/-- The `while attempt < alert_max_retries` loop, after `attempt` attempts. Each attempt formats the text
anew, before the provider is called. -/
def attempts (settings : Settings) (provider : NotificationProvider) (alertId : ℕ)
    (outcomes : ℕ → SendOutcome) : ℕ → ℕ → AlertStore → Except PyException Unit × AlertStore
  | 0, _, store => (.ok (),store)
  | fuel+1, attempt, store =>
    if (attempt : ℤ) < settings.alertMaxRetries then
      match AlertRepository.getById store alertId with
      | none => (.ok (),store)
      | some alert =>
        match AlertMessageFormatter.formatText alert.val, outcomes (attempt+1) with
        | .error e, _ => (.error e,store)
        | .ok _, .raises => (.error .environment,store)
        | .ok _, .answersUnrecorded _ => (.error .environment,store)
        | .ok _, .answers result =>
          match recordAttempt settings provider alertId (attempt+1) result store with
          | .error e => (.error e,store)
          | .ok (.retrying,store') =>
            attempts settings provider alertId outcomes fuel (attempt+1) store'
          | .ok (_,store') => (.ok (),store')
    else (.ok (),store)

/-- `deliver_now`, run alone: each pass of the loop makes one attempt, so `alert_max_retries`
passes are enough. -/
def deliverNow (settings : Settings) (router : NotificationRouter) (outcomes : ℕ → SendOutcome)
    (alertId : ℕ) (store : AlertStore) : Except PyException Unit × AlertStore :=
  match openDelivery router store alertId with
  | none => (.ok (),store)
  | some provider =>
    attempts settings provider alertId outcomes settings.alertMaxRetries.toNat 0 store

/-- The ids handed to `deliver` in order, and the tables after the last of them. An exception of
one delivery is logged and the loop goes on. -/
def deliverEach (deliver : ℕ → AlertStore → Except PyException Unit × AlertStore) :
    List (Row Alert) → AlertStore → List ℕ × AlertStore
  | [], store => ([],store)
  | alert::rest, store =>
    let (calls,final) := deliverEach deliver rest (deliver alert.id store).2
    (alert.id::calls,final)

/-- `recover_pending`: the number it returns, the ids passed to `deliver_now`, the tables after. -/
def recoverPending (settings : Settings) (router : NotificationRouter) (scan : ScanOrder (Row Alert))
    (outcomes : ℕ → ℕ → SendOutcome) (store : AlertStore) : ℕ × List ℕ × AlertStore :=
  let pending := AlertRepository.listByStatus scan store [.pending,.retrying]
    AlertRepository.defaultLimit
  (pending.length,deliverEach (fun id => deliverNow settings router (outcomes id) id) pending store)

end Loop

@[simp] theorem recordAttempt_error {settings : Settings} {provider : NotificationProvider}
    {alertId attempt : ℕ} {result : DeliveryResult} {store : AlertStore}
    (h : store.alerts.get? alertId = none) :
    recordAttempt settings provider alertId attempt result store = .error .assertionError := by
  simp [recordAttempt, AlertRepository.getById, AlertDeliveryLogRepository.logAttempt, h]

/-- A recorded attempt rewrites the status of its own alert and nothing else in the alerts table. -/
theorem recordAttempt_ok {settings : Settings} {provider : NotificationProvider}
    {alertId attempt : ℕ} {result : DeliveryResult} {store store' : AlertStore}
    {status : AlertStatus}
    (h : recordAttempt settings provider alertId attempt result store = .ok (status,store')) :
    status = verdict settings attempt result ∧
      store'.alerts = store.alerts.modify alertId fun a => a.withStatus status := by
  cases hget : store.alerts.get? alertId with
  | none =>
    rw [recordAttempt_error hget] at h
    contradiction
  | some r =>
    simp only [recordAttempt, AlertRepository.getById, AlertDeliveryLogRepository.logAttempt,
      hget] at h
    obtain ⟨rfl,rfl⟩ := Prod.mk.inj (Except.ok.inj h)
    exact ⟨rfl,rfl⟩

theorem recordAttempt_extends {settings : Settings} {provider : NotificationProvider}
    {alertId attempt : ℕ} {result : DeliveryResult} {store store' : AlertStore}
    {status : AlertStatus}
    (h : recordAttempt settings provider alertId attempt result store = .ok (status,store')) :
    store.Extends store' := by
  have halerts := (recordAttempt_ok h).2
  apply AlertStore.Extends.writeStatus halerts
  cases hget : store.alerts.get? alertId with
  | none =>
    rw [recordAttempt_error hget] at h
    contradiction
  | some r =>
    simp only [recordAttempt, AlertRepository.getById, AlertDeliveryLogRepository.logAttempt,
      hget] at h
    obtain ⟨-,rfl⟩ := Prod.mk.inj (Except.ok.inj h)
    exact List.prefix_append _ _

/-- Passes beyond `alert_max_retries` change nothing: the loop has ended by then. -/
theorem attempts_enough [Builtins] {settings : Settings} {provider : NotificationProvider} {alertId : ℕ}
    {outcomes : ℕ → SendOutcome} {fuel attempt : ℕ} {store : AlertStore}
    (h : settings.alertMaxRetries ≤ attempt+fuel) (extra : ℕ) :
    attempts settings provider alertId outcomes (fuel+extra) attempt store =
      attempts settings provider alertId outcomes fuel attempt store := by
  induction fuel generalizing attempt store with
  | zero =>
    cases extra with
    | zero => rfl
    | succ extra =>
      have hdone : ¬ (attempt : ℤ) < settings.alertMaxRetries := by omega
      rw [Nat.zero_add, attempts, attempts, if_neg hdone]
  | succ fuel ih =>
    have hnext : settings.alertMaxRetries ≤ (attempt+1 : ℕ)+(fuel : ℤ) := by omega
    have hrest := fun store => @ih (attempt+1) store hnext
    rw [Nat.add_right_comm, attempts, attempts]
    simp only [hrest]

theorem verdict_ne_expired (settings : Settings) (attempt : ℕ) (result : DeliveryResult) :
    verdict settings attempt result ≠ .expired := by
  unfold verdict
  split
  · decide
  · split <;> decide

theorem verdict_eq_sent_iff {settings : Settings} {attempt : ℕ} {result : DeliveryResult} :
    verdict settings attempt result = .sent ↔ result.success = true := by
  unfold verdict
  split
  case isTrue h => simp [h]
  case isFalse h => split <;> simp [h]

theorem success_of_verdict {settings : Settings} {attempt : ℕ} {result : DeliveryResult}
    (hretrying : verdict settings attempt result ≠ .retrying)
    (hfailed : verdict settings attempt result ≠ .failed) : result.success = true := by
  cases hverdict : verdict settings attempt result with
  | sent => exact verdict_eq_sent_iff.mp hverdict
  | retrying => exact absurd hverdict hretrying
  | failed => exact absurd hverdict hfailed
  | expired => exact absurd hverdict (verdict_ne_expired settings attempt result)
  | pending =>
    unfold verdict at hverdict
    split at hverdict
    · contradiction
    · split at hverdict <;> contradiction

end NotificationManager
end MarketScanner.Notifications
