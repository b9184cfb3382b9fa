import MarketScanner.Alerts.Lifecycle

/-! The retry loop of `deliver_now` from its first attempt to its last, when the provider answers each
attempt and nobody else writes: how many attempts are made, and what each of them leaves behind. An alert
whose text cannot be formatted gets none. -/
namespace MarketScanner.Notifications
open MarketScanner.Library MarketScanner.Python MarketScanner.Config MarketScanner.Alerts
open MarketScanner.Decisions AlertMessageFormatter

namespace NotificationManager
variable [Builtins] (settings : Settings) (provider : NotificationProvider) (alertId : ℕ)
  (results : ℕ → DeliveryResult)

/-- Attempt `j` ends the delivery: it succeeds, fails for good, or is the last one allowed. -/
def ends (j : ℕ) : Bool :=
  (results j).success || !(results j).retryable || decide (settings.alertMaxRetries ≤ j)

/-- The delivery log's row of attempt `j`. -/
def attemptLog (j : ℕ) : AlertDeliveryLog :=
  ⟨alertId,provider.name,(results j).status,j,(results j).responseMetadata,(results j).errorMessage⟩

/-- The event of attempt `j` when it leaves the alert in a status. -/
def attemptEvent (j : ℕ) (status : AlertStatus) : AlertEvent :=
  ⟨alertId,(verdictEvent j (results j) status).1,some (verdictEvent j (results j) status).2⟩

/-- The tables with one more attempt recorded. -/
def recordOne (j : ℕ) (store : AlertStore) : AlertStore where
  alerts := store.alerts.modify alertId fun a => a.withStatus (verdict settings j (results j))
  events := store.events ++ [attemptEvent alertId results j (verdict settings j (results j))]
  deliveryLogs := store.deliveryLogs ++ [attemptLog provider alertId results j]

/-- The tables with the attempts `1` to `n` recorded. -/
def recorded (store : AlertStore) : ℕ → AlertStore
  | 0 => store
  | n+1 => recordOne settings provider alertId results (n+1) (recorded store n)

/-- A delivery that makes `k` attempts, from the tables `store` to the tables `final`. -/
structure DeliveredIn (k : ℕ) (store final : AlertStore) : Prop where
  /-- It stops at the first attempt that ends it. -/
  stops : 1 ≤ k ∧ (k : ℤ) ≤ settings.alertMaxRetries ∧ ends settings results k = true ∧
    ∀ j, 1 ≤ j → j < k → ends settings results j = false
  sent : final.statusOf alertId = some .sent ↔ ∃ j, 1 ≤ j ∧ j ≤ k ∧ (results j).success = true
  failed : final.statusOf alertId ≠ some .sent → final.statusOf alertId = some .failed
  logs : final.deliveryLogs = store.deliveryLogs ++
    (List.range k).map fun i => attemptLog provider alertId results (i+1)
  /-- A `RETRYING` event for each attempt but the last, and then one terminal event. -/
  events : final.events = store.events ++
    ((List.range (k-1)).map fun i => attemptEvent alertId results (i+1) .retrying) ++
      [attemptEvent alertId results k (if (results k).success then .sent else .failed)]
  /-- Before each further attempt, the loop stands at tables where the alert is `RETRYING`. -/
  between : ∀ j, 1 ≤ j → j < k → ∃ mid, mid.statusOf alertId = some .retrying ∧
    mid.deliveryLogs = store.deliveryLogs ++
      ((List.range j).map fun i => attemptLog provider alertId results (i+1)) ∧
    attempts settings provider alertId (fun i => .answers (results i))
        settings.alertMaxRetries.toNat 0 store =
      attempts settings provider alertId (fun i => .answers (results i))
        (settings.alertMaxRetries.toNat-j) j mid

/-- The alert is there and its text can be formatted. -/
def Formats (store : AlertStore) (alertId : ℕ) : Prop :=
  ∃ r, AlertRepository.getById store alertId = some r ∧ formatText r.val = .ok ()

variable {settings provider alertId results}

omit [Builtins] in
theorem verdict_eq_retrying_iff {j : ℕ} :
    verdict settings j (results j) = .retrying ↔ ends settings results j = false := by
  unfold verdict ends
  cases hsuccess : (results j).success with
  | true => simp
  | false =>
    rw [if_neg Bool.false_ne_true, Bool.false_or]
    split
    case isTrue hend => simp [hend]
    case isFalse hend => simp [hend]

omit [Builtins] in
/-- The last attempt's verdict is terminal. -/
theorem verdict_of_ends {j : ℕ} (h : ends settings results j = true) :
    verdict settings j (results j) = if (results j).success then .sent else .failed := by
  unfold verdict
  unfold ends at h
  cases hsuccess : (results j).success with
  | true => rfl
  | false =>
    rw [hsuccess, Bool.false_or] at h
    rw [if_neg Bool.false_ne_true, if_pos h, if_neg Bool.false_ne_true]

omit [Builtins] in
theorem verdict_retrying {j : ℕ} (h : ends settings results j = false) :
    verdict settings j (results j) = .retrying := verdict_eq_retrying_iff.mpr h

omit [Builtins] in
theorem not_success_of_not_ends {j : ℕ} (h : ends settings results j = false) :
    (results j).success = false := by
  unfold ends at h
  simp only [Bool.or_eq_false_iff] at h
  exact h.1.1

/-! The recorded attempts. -/

omit [Builtins] in
theorem recordAttempt_eq {store : AlertStore} {status : AlertStatus} {j : ℕ}
    (h : store.statusOf alertId = some status) :
    recordAttempt settings provider alertId j (results j) store =
      .ok (verdict settings j (results j),recordOne settings provider alertId results j store) := by
  obtain ⟨r,hget,-⟩ := Option.map_eq_some_iff.mp h
  simp [recordAttempt, recordOne, attemptLog, attemptEvent, AlertRepository.getById,
    AlertDeliveryLogRepository.logAttempt, AlertRepository.updateStatus, AlertEventRepository.log, hget]

omit [Builtins] in
theorem statusOf_recordOne {store : AlertStore} {status : AlertStatus} {j : ℕ}
    (h : store.statusOf alertId = some status) :
    (recordOne settings provider alertId results j store).statusOf alertId =
      some (verdict settings j (results j)) := by
  unfold AlertStore.statusOf recordOne Table.modify
  unfold AlertStore.statusOf at h
  rw [AlertRepository.status_writeStatus]
  obtain ⟨r,hget,-⟩ := Option.map_eq_some_iff.mp h
  simp [hget]

omit [Builtins] in
variable (settings provider results) in
theorem statusOf_recorded {store : AlertStore} {status : AlertStatus}
    (h : store.statusOf alertId = some status) (n : ℕ) :
    (recorded settings provider alertId results store (n+1)).statusOf alertId =
      some (verdict settings (n+1) (results (n+1))) := by
  induction n with
  | zero => exact statusOf_recordOne h
  | succ n ih => exact statusOf_recordOne ih

omit [Builtins] in
variable (settings provider results) in
theorem exists_statusOf_recorded {store : AlertStore} {status : AlertStatus}
    (h : store.statusOf alertId = some status) (n : ℕ) :
    ∃ status, (recorded settings provider alertId results store n).statusOf alertId = some status := by
  cases n with
  | zero => exact ⟨status,h⟩
  | succ n => exact ⟨_,statusOf_recorded settings provider results h n⟩

omit [Builtins] in
theorem deliveryLogs_recorded (store : AlertStore) (n : ℕ) :
    (recorded settings provider alertId results store n).deliveryLogs = store.deliveryLogs ++
      (List.range n).map fun i => attemptLog provider alertId results (i+1) := by
  induction n with
  | zero => simp [recorded]
  | succ n ih =>
    rw [recorded, recordOne]
    simp only [ih, List.range_succ, List.map_append, List.map_cons, List.map_nil, List.append_assoc]

omit [Builtins] in
theorem events_recorded (store : AlertStore) (n : ℕ) :
    (recorded settings provider alertId results store n).events = store.events ++
      (List.range n).map fun i =>
        attemptEvent alertId results (i+1) (verdict settings (i+1) (results (i+1))) := by
  induction n with
  | zero => simp [recorded]
  | succ n ih =>
    rw [recorded, recordOne]
    simp only [ih, List.range_succ, List.map_append, List.map_cons, List.map_nil, List.append_assoc]

/-! One pass of the loop, and the passes up to the last. -/

variable (settings provider results) in
/-- A recorded attempt leaves the text as it is. -/
theorem formats_recorded {store : AlertStore} (h : Formats store alertId) (n : ℕ) :
    Formats (recorded settings provider alertId results store n) alertId := by
  induction n with
  | zero => exact h
  | succ n ih =>
    obtain ⟨r,hget,htext⟩ := ih
    refine ⟨Row.change (· == alertId)
      (fun a => a.withStatus (verdict settings (n+1) (results (n+1)))) r,?_,?_⟩
    · rw [recorded, recordOne, AlertRepository.getById, Table.modify, Table.get?_modifyWhere]
      exact congrArg (Option.map _) hget
    · cases hid : r.id == alertId with
      | true => rw [Row.change_of_true hid]; exact htext
      | false => rw [Row.change_of_false hid]; exact htext

theorem attempts_succ {store : AlertStore} {status : AlertStatus} {fuel n : ℕ}
    (h : store.statusOf alertId = some status) (hformats : Formats store alertId)
    (hn : (n : ℤ) < settings.alertMaxRetries) :
    attempts settings provider alertId (fun i => .answers (results i)) (fuel+1) n store =
      if ends settings results (n+1) then
        (.ok (),recordOne settings provider alertId results (n+1) store)
      else attempts settings provider alertId (fun i => .answers (results i)) fuel (n+1)
        (recordOne settings provider alertId results (n+1) store) := by
  obtain ⟨r,hrow,htext⟩ := hformats
  rw [attempts, if_pos hn]
  simp only [hrow, htext, recordAttempt_eq h]
  cases hends : ends settings results (n+1) with
  | true =>
    rw [verdict_of_ends hends, if_pos rfl]
    cases (results (n+1)).success <;> rfl
  | false => rw [verdict_retrying hends, if_neg Bool.false_ne_true]

/-- After `j` attempts of which none has ended the delivery, the loop stands at the tables that record
them. -/
theorem attempts_after {store : AlertStore} {status : AlertStatus}
    (h : store.statusOf alertId = some status) (hformats : Formats store alertId) {j : ℕ} (hj : (j : ℤ) < settings.alertMaxRetries)
    (hgoes : ∀ i, 1 ≤ i → i ≤ j → ends settings results i = false) :
    attempts settings provider alertId (fun i => .answers (results i))
        settings.alertMaxRetries.toNat 0 store =
      attempts settings provider alertId (fun i => .answers (results i))
        (settings.alertMaxRetries.toNat-j) j
        (recorded settings provider alertId results store j) := by
  induction j with
  | zero => rfl
  | succ j ih =>
    have hbefore := ih (by omega) fun i hi hij => hgoes i hi (by omega)
    obtain ⟨status',hstatus⟩ := exists_statusOf_recorded settings provider results h j
    have hfuel : settings.alertMaxRetries.toNat-j = settings.alertMaxRetries.toNat-(j+1)+1 := by
      omega
    have hends := hgoes (j+1) (by omega) (le_refl _)
    rw [hbefore, hfuel, attempts_succ hstatus (formats_recorded settings provider results hformats j)
      (by omega), hends, if_neg Bool.false_ne_true]
    rfl

omit [Builtins] in
/-- Some attempt ends the delivery, at the latest the last one allowed. -/
theorem exists_first_end (hmax : 1 ≤ settings.alertMaxRetries) (results : ℕ → DeliveryResult) :
    ∃ k : ℕ, 1 ≤ k ∧ (k : ℤ) ≤ settings.alertMaxRetries ∧ ends settings results k = true ∧
      ∀ j, 1 ≤ j → j < k → ends settings results j = false := by
  have hlast : 1 ≤ settings.alertMaxRetries.toNat ∧
      ends settings results settings.alertMaxRetries.toNat = true := by
    refine ⟨by omega,?_⟩
    simp [ends]
  have hexists : ∃ k, 1 ≤ k ∧ ends settings results k = true := ⟨_,hlast⟩
  refine ⟨Nat.find hexists,(Nat.find_spec hexists).1,?_,(Nat.find_spec hexists).2,?_⟩
  · have hle := Nat.find_min' hexists hlast
    omega
  · intro j hj hlt
    have hmin := Nat.find_min hexists hlt
    rw [not_and] at hmin
    exact Bool.eq_false_iff.mpr (hmin hj)

omit [Builtins] in
/-- The events of a delivery that ends with attempt `k`. -/
theorem events_of_ends {k : ℕ} (hk : 1 ≤ k) (hends : ends settings results k = true)
    (hgoes : ∀ j, 1 ≤ j → j < k → ends settings results j = false) :
    ((List.range k).map fun i =>
        attemptEvent alertId results (i+1) (verdict settings (i+1) (results (i+1)))) =
      ((List.range (k-1)).map fun i => attemptEvent alertId results (i+1) .retrying) ++
        [attemptEvent alertId results k (if (results k).success then .sent else .failed)] := by
  obtain ⟨n,rfl⟩ := Nat.exists_eq_add_of_le' hk
  rw [List.range_succ, List.map_append, List.map_singleton, Nat.add_sub_cancel,
    verdict_of_ends hends]
  congr 1
  refine List.map_congr_left fun i hi => ?_
  have hlt := List.mem_range.mp hi
  rw [verdict_retrying (hgoes (i+1) (by omega) (by omega))]

/-- The tables that record the attempts up to the first that ends the delivery are those of a delivery
in that many attempts. -/
theorem deliveredIn_recorded {store : AlertStore} {status : AlertStatus} {k : ℕ}
    (h : store.statusOf alertId = some status) (hformats : Formats store alertId) (hk : 1 ≤ k)
    (hmax : (k : ℤ) ≤ settings.alertMaxRetries) (hends : ends settings results k = true)
    (hgoes : ∀ j, 1 ≤ j → j < k → ends settings results j = false) :
    DeliveredIn settings provider alertId results k store
      (recorded settings provider alertId results store k) := by
  have hfinal : (recorded settings provider alertId results store k).statusOf alertId =
      some (if (results k).success then .sent else .failed) := by
    obtain ⟨n,rfl⟩ := Nat.exists_eq_add_of_le' hk
    rw [statusOf_recorded settings provider results h, verdict_of_ends hends]
  refine ⟨⟨hk,hmax,hends,hgoes⟩,?_,?_,deliveryLogs_recorded store k,?_,?_⟩
  · rw [hfinal]
    constructor
    · intro hsent
      refine ⟨k,hk,le_refl k,?_⟩
      by_contra hsuccess
      rw [if_neg hsuccess] at hsent
      cases hsent
    · rintro ⟨j,hj,hjk,hsuccess⟩
      rcases hjk.lt_or_eq with hlt | rfl
      · rw [not_success_of_not_ends (hgoes j hj hlt)] at hsuccess
        cases hsuccess
      · rw [if_pos hsuccess]
  · rw [hfinal]
    intro hsent
    by_cases hsuccess : (results k).success = true
    · rw [if_pos hsuccess] at hsent
      exact absurd rfl hsent
    · rw [if_neg hsuccess]
  · rw [events_recorded, events_of_ends hk hends hgoes, List.append_assoc]
  · intro j hj hjk
    refine ⟨recorded settings provider alertId results store j,?_,deliveryLogs_recorded store j,?_⟩
    · obtain ⟨n,rfl⟩ := Nat.exists_eq_add_of_le' hj
      rw [statusOf_recorded settings provider results h, verdict_retrying (hgoes (n+1) hj hjk)]
    · exact attempts_after h hformats (by omega) fun i hi hij => hgoes i hi (by omega)

/-- The whole loop. -/
theorem attempts_eq_recorded {store : AlertStore} {status : AlertStatus} {k : ℕ}
    (h : store.statusOf alertId = some status) (hformats : Formats store alertId) (hk : 1 ≤ k)
    (hmax : (k : ℤ) ≤ settings.alertMaxRetries) (hends : ends settings results k = true)
    (hgoes : ∀ j, 1 ≤ j → j < k → ends settings results j = false) :
    attempts settings provider alertId (fun i => .answers (results i))
        settings.alertMaxRetries.toNat 0 store =
      (.ok (),recorded settings provider alertId results store k) := by
  obtain ⟨n,rfl⟩ := Nat.exists_eq_add_of_le' hk
  obtain ⟨status',hstatus⟩ := exists_statusOf_recorded settings provider results h n
  have hfuel : settings.alertMaxRetries.toNat-n = settings.alertMaxRetries.toNat-(n+1)+1 := by
    omega
  have hn : (n : ℤ) < settings.alertMaxRetries := by omega
  rw [attempts_after h hformats hn fun i hi hin => hgoes i hi (by omega), hfuel,
    attempts_succ hstatus (formats_recorded settings provider results hformats n) hn, if_pos hends]
  rfl

/-- Without a text the loop raises before its first attempt. -/
theorem attempts_unformatted {store : AlertStore} {r : Row Alert} {e : PyException}
    (hrow : AlertRepository.getById store alertId = some r) (htext : formatText r.val = .error e)
    (hretries : 1 ≤ settings.alertMaxRetries) :
    attempts settings provider alertId (fun i => .answers (results i)) settings.alertMaxRetries.toNat 0
      store = (.error e,store) := by
  obtain ⟨fuel,hfuel⟩ : ∃ fuel, settings.alertMaxRetries.toNat = fuel+1 :=
    ⟨settings.alertMaxRetries.toNat-1,by omega⟩
  have hfirst : ((0 : ℕ) : ℤ) < settings.alertMaxRetries := by omega
  rw [hfuel, attempts, if_pos hfirst]
  simp only [hrow, htext]

end NotificationManager

section Deliver
variable [Builtins] (settings : Settings) (router : NotificationRouter) (results : ℕ → DeliveryResult)
  (store : AlertStore) (alertId : ℕ)
open NotificationManager

/-- `deliver_now` returns, having made attempts up to the first that ends the delivery, and leaves the
tables of that delivery. -/
def Delivers : Prop :=
  ∃ provider k final, openDelivery router store alertId = some provider ∧
    deliverNow settings router (fun i => .answers (results i)) alertId store = (.ok (),final) ∧
    DeliveredIn settings provider alertId results k store final

omit [Builtins] in
/-- No number that the text of the alert needs is an int past the floats. -/
def TextFits : Prop :=
  ∀ r, AlertRepository.getById store alertId = some r →
    ∀ value ∈ textNumbers r.val, value.overflows = false

end Deliver

/-- An alert waits for delivery; the provider fails once and then delivers. -/
def waitingAlert : Alert where
  symbolId := 1
  scannerName := "breakout_v1"
  signalType := "BREAKOUT"
  decision := .alert
  score := .finite 86
  quality := .medium
  entryReference := none
  breakoutLevel := some (.finite (3041/2))
  supportLevel := none
  resistanceLevel := some (.finite (3041/2))
  featureSnapshot := sampleDecision.featureSnapshot
  reason := "required_features"
  passedRules := sampleDecision.passedRules
  status := .pending
  fingerprint := "32824a0340b6a8c97dfffb8c69826992dd690912f6f391c02cc4898918c7096b"
  signalDate := sampleDay
  createdAt := DateTime.ofUtc sampleDay 270
  expiresAt := none

def secondTimeLucky : ℕ → DeliveryResult
  | 1 => { success := false, status := "FAILED", errorMessage := some "request timed out" }
  | _ => delivered

/-- An alert of another scanner whose swing high is no float. -/
def boundlessAlert : Alert :=
  { waitingAlert with
    scannerName := "pre_breakout_v1"
    featureSnapshot := [("price",.str "1532.00"),("swing_high",.int (2^1024))] }

end MarketScanner.Notifications
