import MarketScanner.Alerts.Repository

/-! The two checks an ALERT decision passes before a row is created: is this exact signal still
active, and was this symbol and signal type alerted on recently. -/
namespace MarketScanner.Alerts
open MarketScanner.Library MarketScanner.Python MarketScanner.Config MarketScanner.Decisions

structure SuppressionResult where
  suppressed : Bool
  reason : Option String := none
  blockingAlertId : Option ℕ := none

namespace AlertDeduplicator

def inactiveStatuses : List AlertStatus := [.expired]

/-- The text that is hashed: symbol, scanner, signal type, breakout level and signal date. -/
def fingerprintSource [Builtins] (decision : DecisionResult) : String :=
  let breakoutLevel := (decision.featureSnapshot.get "breakout_level").orElse
    (decision.featureSnapshot.get "resistance_level")
  let signalDate := (decision.featureSnapshot.get "date").orElse
    (.str decision.timestamp.date.isoformat)
  String.intercalate "|"
    [decision.symbol,decision.scannerName,decision.signalType,breakoutLevel.toStr,signalDate.toStr]

def buildFingerprint [Builtins] (decision : DecisionResult) : String :=
  Builtins.sha256Hex (fingerprintSource decision)

def check (store : AlertStore) (fingerprint : String) : SuppressionResult :=
  match AlertRepository.getByFingerprint store fingerprint with
  | none => { suppressed := false }
  | some existing =>
    if inactiveStatuses.contains existing.val.status then { suppressed := false }
    else
      { suppressed := true
        reason := some (s!"duplicate signal — already tracked as alert #{existing.id} " ++
          s!"(status={existing.val.status.value})")
        blockingAlertId := some existing.id }

end AlertDeduplicator

namespace AlertThrottler

def cooldown (settings : Settings) : TimeDelta := TimeDelta.minutes settings.alertCooldownMinutes

def check (settings : Settings) (store : AlertStore) (symbolId : ℕ) (signalType : String)
    (now : DateTime) : SuppressionResult :=
  match AlertRepository.getMostRecentForSignal store symbolId signalType
      (now.sub (cooldown settings)) with
  | none => { suppressed := false }
  | some recent =>
    { suppressed := true
      reason := some (s!"cooldown active — alert #{recent.id} for this symbol/signal was created " ++
        s!"at {recent.val.createdAt.isoformat}, cooldown is {(cooldown settings).toStr}")
      blockingAlertId := some recent.id }

end AlertThrottler

/-- What the two checks answer about a decision, deduplication first. -/
inductive Admission
  | duplicate (result : SuppressionResult)
  | coolingDown (result : SuppressionResult)
  | admitted

def admission (settings : Settings) (store : AlertStore) (fingerprint : String) (symbolId : ℕ)
    (signalType : String) (now : DateTime) : Admission :=
  let dedup := AlertDeduplicator.check store fingerprint
  if dedup.suppressed then .duplicate dedup
  else
    let throttle := AlertThrottler.check settings store symbolId signalType now
    if throttle.suppressed then .coolingDown throttle else .admitted

/-- The alert that a suppressing check names. -/
def Admission.blocking : Admission → Option ℕ
  | duplicate result => result.blockingAlertId
  | coolingDown result => result.blockingAlertId
  | admitted => none

/-- The deduplicator lets a fingerprint pass when its newest row is missing or expired; older rows
of the fingerprint are out of its sight. -/
theorem dedup_not_suppressed {store : AlertStore} {fingerprint : String}
    (h : (AlertDeduplicator.check store fingerprint).suppressed = false) :
    AlertRepository.getByFingerprint store fingerprint = none ∨
      ∃ r, AlertRepository.getByFingerprint store fingerprint = some r ∧
        r.val.status = .expired := by
  unfold AlertDeduplicator.check at h
  split at h
  case h_1 hnone => exact Or.inl hnone
  case h_2 existing hsome =>
    right
    refine ⟨existing,hsome,?_⟩
    by_contra hlive
    simp [AlertDeduplicator.inactiveStatuses, hlive] at h

theorem dedup_suppressed {store : AlertStore} {fingerprint : String}
    (h : (AlertDeduplicator.check store fingerprint).suppressed = true) :
    ∃ r, AlertRepository.getByFingerprint store fingerprint = some r ∧ r.val.status ≠ .expired ∧
      (AlertDeduplicator.check store fingerprint).blockingAlertId = some r.id := by
  unfold AlertDeduplicator.check at h ⊢
  split at h
  case h_1 hnone => simp at h
  case h_2 existing hsome =>
    split at h
    case isTrue hin => simp at h
    case isFalse hout =>
      refine ⟨existing,hsome,?_,?_⟩
      · intro hexp
        exact hout (by simp [AlertDeduplicator.inactiveStatuses, hexp])
      · simp only [if_neg hout]

/-- A decision passes the throttler only when every earlier row of its symbol and signal type is
older than the cooldown. -/
theorem throttle_not_suppressed {settings : Settings} {store : AlertStore} {symbolId : ℕ}
    {signalType : String} {now : DateTime}
    (h : (AlertThrottler.check settings store symbolId signalType now).suppressed = false) :
    ∀ r ∈ store.alerts.rows, r.val.symbolId = symbolId → r.val.signalType = signalType →
      r.val.createdAt.utc+AlertThrottler.cooldown settings < now.utc := by
  unfold AlertThrottler.check at h
  split at h
  case h_2 recent hsome => simp at h
  case h_1 hnone =>
    intro r hr hsymbol hsignal
    have hold := Table.latest_eq_none_iff.mp hnone r hr
    simp only [hsymbol, hsignal, beq_self_eq_true, Bool.true_and, decide_eq_false_iff_not,
      DateTime.le_iff, DateTime.utc_sub] at hold
    omega

theorem throttle_suppressed {settings : Settings} {store : AlertStore} {symbolId : ℕ}
    {signalType : String} {now : DateTime}
    (h : (AlertThrottler.check settings store symbolId signalType now).suppressed = true) :
    ∃ r ∈ store.alerts.rows, r.val.symbolId = symbolId ∧ r.val.signalType = signalType ∧
      now.utc ≤ r.val.createdAt.utc+AlertThrottler.cooldown settings ∧
      (AlertThrottler.check settings store symbolId signalType now).blockingAlertId = some r.id := by
  unfold AlertThrottler.check at h ⊢
  split at h
  case h_1 hnone => simp at h
  case h_2 recent hsome =>
    obtain ⟨hmem,hp,-⟩ := Table.latest_eq_some hsome
    simp only [Bool.and_eq_true, beq_iff_eq, decide_eq_true_eq, DateTime.le_iff,
      DateTime.utc_sub] at hp
    refine ⟨recent,hmem,hp.1.1,hp.1.2,?_,?_⟩
    · omega
    · rfl

end MarketScanner.Alerts
