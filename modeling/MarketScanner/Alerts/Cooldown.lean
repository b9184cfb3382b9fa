import MarketScanner.Alerts.Lifecycle

/-! Cooldown and audit trail of alert creation, over runs of `process` calls and expiry jobs. -/
namespace MarketScanner.Alerts
open MarketScanner.Library MarketScanner.Python MarketScanner.Config MarketScanner.Decisions
open MarketScanner.Notifications MarketScanner.Scheduler

/-- A step of a run of `process` calls and expiry jobs in which the database does not fail and a
row's `created_at` is not before the `now` of its throttle check. -/
def Serialized : SystemAction → Prop
  | .process _ _ moment createdAt fault => fault = none ∧ moment ≤ createdAt
  | .expirySelect _ _ => True
  | .expiryWrite _ => True
  | _ => False

instance : DecidablePred Serialized := by
  intro a
  cases a <;> unfold Serialized <;> infer_instance

namespace AlertStore

/-- The alerts that events of one type were logged on, in the order of the log. -/
def eventIds (store : AlertStore) (eventType : EventType) : List ℕ :=
  (store.events.filter fun event => event.eventType == eventType).map AlertEvent.alertId

def ids (store : AlertStore) : List ℕ := store.alerts.rows.map Row.id

theorem nodup_ids (store : AlertStore) : store.ids.Nodup :=
  List.pairwise_map.mpr (store.alerts.ordered.imp fun h => Nat.ne_of_lt h)

theorem count_ids {store : AlertStore} {r : Row Alert} (hr : r ∈ store.alerts.rows) :
    store.ids.count r.id = 1 :=
  List.count_eq_one_of_mem store.nodup_ids (List.mem_map_of_mem hr)

theorem eventIds_append {store : AlertStore} {eventType : EventType} {events : List AlertEvent}
    {alerts : Table Alert} {deliveryLogs : List AlertDeliveryLog} :
    eventIds ⟨alerts,store.events ++ events,deliveryLogs⟩ eventType = store.eventIds eventType ++
      (events.filter fun event => event.eventType == eventType).map AlertEvent.alertId := by
  simp [eventIds]

end AlertStore

/-- Rows of one symbol and signal type are more than the cooldown apart; the CREATED events, the
QUEUED events and the queue each list the rows once, in order. -/
structure Ledger (settings : Settings) (w : AlertWorld) : Prop where
  spaced : ∀ r ∈ w.store.alerts.rows, ∀ r' ∈ w.store.alerts.rows,
    r.val.symbolId = r'.val.symbolId → r.val.signalType = r'.val.signalType → r.id < r'.id →
      r.val.createdAt.utc+AlertThrottler.cooldown settings < r'.val.createdAt.utc
  alertGrade : ∀ r ∈ w.store.alerts.rows, r.val.decision = .alert
  created : w.store.eventIds .created = w.store.ids
  queued : w.store.eventIds .queued = w.store.ids
  enqueued : w.queue = w.store.ids

/-- The ledger row by row. -/
structure AuditTrail (settings : Settings) (w : AlertWorld) : Prop where
  apart : ∀ r ∈ w.store.alerts.rows, ∀ r' ∈ w.store.alerts.rows, r.id ≠ r'.id →
    r.val.symbolId = r'.val.symbolId → r.val.signalType = r'.val.signalType →
      |r.val.createdAt.utc-r'.val.createdAt.utc| > AlertThrottler.cooldown settings
  alertGrade : ∀ r ∈ w.store.alerts.rows, r.val.decision = .alert
  created : ∀ r ∈ w.store.alerts.rows, (w.store.eventIds .created).count r.id = 1
  queued : ∀ r ∈ w.store.alerts.rows, (w.store.eventIds .queued).count r.id = 1
  enqueued : ∀ r ∈ w.store.alerts.rows, w.queue.count r.id = 1

theorem Ledger.auditTrail {settings : Settings} {w : AlertWorld} (h : Ledger settings w) :
    AuditTrail settings w := by
  refine ⟨?_,h.alertGrade,?_,?_,?_⟩
  · intro r hr r' hr' hne hsymbol hsignal
    rcases Nat.lt_or_gt_of_ne hne with hlt | hgt
    · have hspaced := h.spaced r hr r' hr' hsymbol hsignal hlt
      have hgap : -(r.val.createdAt.utc-r'.val.createdAt.utc) > AlertThrottler.cooldown settings := by
        omega
      exact lt_of_lt_of_le hgap (neg_le_abs _)
    · have hspaced := h.spaced r' hr' r hr hsymbol.symm hsignal.symm hgt
      have hgap : r.val.createdAt.utc-r'.val.createdAt.utc > AlertThrottler.cooldown settings := by
        omega
      exact lt_of_lt_of_le hgap (le_abs_self _)
  · intro r hr
    rw [h.created]
    exact AlertStore.count_ids hr
  · intro r hr
    rw [h.queued]
    exact AlertStore.count_ids hr
  · intro r hr
    rw [h.enqueued]
    exact AlertStore.count_ids hr

theorem ledger_empty (settings : Settings) : Ledger settings AlertWorld.empty := by
  refine ⟨?_,?_,rfl,rfl,rfl⟩
  · intro r hr
    cases hr
  · intro r hr
    cases hr

/-- Logging SUPPRESSED leaves the ledger alone. -/
theorem Ledger.logSuppressed {settings : Settings} {w : AlertWorld} (h : Ledger settings w)
    (alertId : ℕ) (eventMetadata : Option Dict) :
    Ledger settings { w with
      store := AlertEventRepository.log w.store alertId .suppressed eventMetadata } := by
  refine ⟨h.spaced,h.alertGrade,?_,?_,h.enqueued⟩
  · rw [AlertEventRepository.log, AlertStore.eventIds_append]
    simpa [AlertStore.ids] using h.created
  · rw [AlertEventRepository.log, AlertStore.eventIds_append]
    simpa [AlertStore.ids] using h.queued

/-- An expiry write leaves the ledger alone: it changes statuses and logs EXPIRED. -/
theorem Ledger.expire {settings : Settings} {w : AlertWorld} (h : Ledger settings w)
    (expired : List ℕ) : Ledger settings { w with store := expiryCommit w.store expired } := by
  have hrows : ∀ r ∈ (expiryCommit w.store expired).alerts.rows, ∃ r₀ ∈ w.store.alerts.rows,
      r₀.id = r.id ∧ r.val = r₀.val.withStatus r.val.status := by
    intro r hr
    rw [expiryCommit_alerts] at hr
    obtain ⟨r₀,hr₀,hid,hval,-⟩ := AlertRepository.mem_writeStatus hr
    exact ⟨r₀,hr₀,hid,hval⟩
  have hids : (expiryCommit w.store expired).ids = w.store.ids := by
    simp [AlertStore.ids, AlertRepository.markExpired, Function.comp_def]
  have hevents : ∀ eventType : EventType, eventType ≠ .expired →
      (expiryCommit w.store expired).eventIds eventType = w.store.eventIds eventType := by
    intro eventType hne
    have hnone : (expired.map fun alertId => (⟨alertId,.expired,none⟩ : AlertEvent)).filter
        (fun event => event.eventType == eventType) = [] := by
      rw [List.filter_eq_nil_iff]
      intro event hevent
      obtain ⟨alertId,-,rfl⟩ := List.mem_map.mp hevent
      simpa using Ne.symm hne
    rw [AlertStore.eventIds, expiryCommit_events, List.filter_append, hnone, List.append_nil]
    rfl
  refine ⟨?_,?_,?_,?_,?_⟩
  · intro r hr r' hr' hsymbol hsignal hlt
    obtain ⟨r₀,hr₀,hid,hval⟩ := hrows r hr
    obtain ⟨r₁,hr₁,hid',hval'⟩ := hrows r' hr'
    rw [hval, hval'] at hsymbol hsignal ⊢
    exact h.spaced r₀ hr₀ r₁ hr₁ hsymbol hsignal (by omega)
  · intro r hr
    obtain ⟨r₀,hr₀,-,hval⟩ := hrows r hr
    rw [hval]
    exact h.alertGrade r₀ hr₀
  · rw [hevents .created (by decide), hids]
    exact h.created
  · rw [hevents .queued (by decide), hids]
    exact h.queued
  · rw [hids]
    exact h.enqueued

section Run
variable [Builtins] (settings : Settings) (router : NotificationRouter)

/-- Creating and queueing an admitted ALERT decision extends every list of the ledger by the new
row. -/
theorem Ledger.create {w : AlertWorld} (h : Ledger settings w) {decision : DecisionResult}
    {symbolId : ℕ} {moment createdAt : DateTime} (quality : Quality) (levels : AlertManager.AlertLevels)
    (halert : decision.decision = .alert)
    (hadm : AlertManager.Admitted settings decision symbolId moment w.store)
    (hclock : moment ≤ createdAt) :
    Ledger settings (AlertManager.enqueue none w.store.alerts.nextId { w with
      store := AlertManager.createdStore settings decision symbolId moment createdAt quality levels
        w.store }).2 := by
  rw [AlertManager.enqueue_none]
  have hclock' : moment.utc ≤ createdAt.utc := DateTime.le_iff.mp hclock
  refine ⟨?_,?_,?_,?_,?_⟩
  · intro r hr r' hr' hsymbol hsignal hlt
    rcases Table.mem_insert.mp hr' with hold' | rfl
    · rcases Table.mem_insert.mp hr with hold | rfl
      · exact h.spaced r hold r' hold' hsymbol hsignal hlt
      · have hbelow := w.store.alerts.below r' hold'
        simp only at hlt
        omega
    · rcases Table.mem_insert.mp hr with hold | rfl
      · have hcool := hadm.cooledDown r hold hsymbol hsignal
        simp only [AlertManager.newAlert]
        omega
      · exact absurd hlt (Nat.lt_irrefl _)
  · intro r hr
    rcases Table.mem_insert.mp hr with hold | rfl
    · exact h.alertGrade r hold
    · exact halert
  · have hids := h.created
    simp only [AlertStore.eventIds, AlertStore.ids] at hids ⊢
    simp [AlertManager.createdStore, AlertEventRepository.log, AlertRepository.create, hids]
  · have hids := h.queued
    simp only [AlertStore.eventIds, AlertStore.ids] at hids ⊢
    simp [AlertManager.createdStore, AlertEventRepository.log, AlertRepository.create, hids]
  · have hids := h.enqueued
    simp only [AlertStore.ids] at hids ⊢
    simp [AlertManager.createdStore, AlertEventRepository.log, AlertRepository.create, hids]

theorem ledger_step (s : SystemState) (a : SystemAction) (t : SystemState)
    (h : Ledger settings s.world) (ha : Serialized a)
    (hstep : (lifecycle settings router).step s a = some t) : Ledger settings t.world := by
  cases systemStep_move settings router hstep with
  | process decision symbolId moment createdAt fault =>
    obtain ⟨rfl,hclock⟩ := ha
    have heffect := AlertManager.processImpl_effect settings decision symbolId moment createdAt none
      s.world
    generalize AlertManager.processImpl settings decision symbolId moment createdAt none
      s.world = result at heffect
    cases heffect with
    | skipped => exact h
    | raised => exact h
    | suppressed halert hwhy =>
      cases hwhy with
      | duplicate => exact h.logSuppressed _ _
      | cooldown => exact h.logSuppressed _ _
    | created quality levels halert hgraded hadm =>
      exact h.create settings quality levels halert hadm hclock
  | expirySelect => exact h
  | expiryWrite job ids => exact h.expire ids
  | _ => exact absurd ha (by simp [Serialized])

/-- A step creates a row only for an ALERT decision; for a decision that a check suppresses it does
nothing but log one SUPPRESSED event on the alert that the check names. -/
structure StepAudit (s : SystemState) (a : SystemAction) (t : SystemState) : Prop where
  onlyAlert : ∀ r ∈ t.world.store.alerts.rows,
    (∀ r' ∈ s.world.store.alerts.rows, r'.id ≠ r.id) →
    ∃ decision symbolId moment createdAt fault,
      a = .process decision symbolId moment createdAt fault ∧ decision.decision = .alert
  suppressed : ∀ decision symbolId moment createdAt fault,
    a = .process decision symbolId moment createdAt fault → decision.decision = .alert →
    decision.quality ≠ none →
    AlertManager.admissionOf settings decision symbolId moment s.world.store ≠ .admitted →
    ∃ r ∈ s.world.store.alerts.rows, ∃ eventMetadata,
      (AlertManager.admissionOf settings decision symbolId moment s.world.store).blocking =
        some r.id ∧
      t.world = { s.world with
        store := AlertEventRepository.log s.world.store r.id .suppressed eventMetadata }

theorem newRow_alertGrade {s t : SystemState} {a : SystemAction}
    (hstep : (lifecycle settings router).step s a = some t) {r : Row Alert}
    (hr : r ∈ t.world.store.alerts.rows) (hnew : ∀ r' ∈ s.world.store.alerts.rows, r'.id ≠ r.id) :
    ∃ decision symbolId moment createdAt fault,
      a = .process decision symbolId moment createdAt fault ∧ decision.decision = .alert := by
  have hcases := systemStep_alerts settings router hstep
  generalize t.world.store.alerts = alerts at hcases hr
  cases hcases with
  | unchanged => exact absurd rfl (hnew r hr)
  | @created decision symbolId moment createdAt fault quality levels halert =>
    exact ⟨decision,symbolId,moment,createdAt,fault,rfl,halert⟩
  | recorded =>
    obtain ⟨r₀,hr₀,hid,-⟩ := AlertRepository.mem_writeStatus hr
    exact absurd hid (hnew r₀ hr₀)
  | expired =>
    obtain ⟨r₀,hr₀,hid,-⟩ := AlertRepository.mem_writeStatus hr
    exact absurd hid (hnew r₀ hr₀)

theorem suppressed_effect {w : AlertWorld} {decision : DecisionResult} {symbolId : ℕ}
    {moment createdAt : DateTime} (halert : decision.decision = .alert)
    (hquality : decision.quality ≠ none)
    (hadm : AlertManager.admissionOf settings decision symbolId moment w.store ≠ .admitted) :
    ∃ r ∈ w.store.alerts.rows, ∃ eventMetadata,
      (AlertManager.admissionOf settings decision symbolId moment w.store).blocking = some r.id ∧
      (AlertManager.processImpl settings decision symbolId moment createdAt none w).2 =
        { w with store := AlertEventRepository.log w.store r.id .suppressed eventMetadata } := by
  have heffect := AlertManager.processImpl_effect settings decision symbolId moment createdAt none w
  generalize AlertManager.processImpl settings decision symbolId moment createdAt none w = result
    at heffect
  cases heffect with
  | skipped hnot => exact absurd halert hnot
  | raised e _ hcause =>
    rcases hcause with hnone | hfault | ⟨hadmitted,-⟩
    · exact absurd hnone hquality
    · contradiction
    · exact absurd hadmitted.passed hadm
  | suppressed _ hwhy =>
    cases hwhy with
    | duplicate r eventMetadata hmem hblocks => exact ⟨r,hmem,eventMetadata,hblocks,rfl⟩
    | cooldown r eventMetadata hmem hblocks => exact ⟨r,hmem,eventMetadata,hblocks,rfl⟩
  | created _ _ _ _ hadmitted => exact absurd hadmitted.passed hadm

theorem stepAudit_step {s t : SystemState} {a : SystemAction} (ha : Serialized a)
    (hstep : (lifecycle settings router).step s a = some t) : StepAudit settings s a t := by
  refine ⟨fun r hr hnew => newRow_alertGrade settings router hstep hr hnew,?_⟩
  rintro decision symbolId moment createdAt fault rfl halert hquality hadm
  obtain ⟨rfl,-⟩ := ha
  obtain rfl := Option.some.inj hstep
  exact suppressed_effect settings halert hquality hadm

/-- Over every run of `process` calls and expiry jobs, in any order and number: rows of one symbol
and signal type are more than the cooldown apart, each row has its CREATED event, its QUEUED event
and its place in the queue once, and a suppressed decision leaves one SUPPRESSED event only. -/
theorem cooldown_and_audit {as : List SystemAction} {t : SystemState}
    (hserial : ∀ a ∈ as, Serialized a)
    (hrun : (lifecycle settings router).Run SystemState.empty as t) :
    AuditTrail settings t.world ∧
      (lifecycle settings router).Steps (StepAudit settings) SystemState.empty as := by
  have hsteps : (lifecycle settings router).Steps (fun _ a _ => Serialized a)
      SystemState.empty as := by
    rintro pre a post s u rfl - -
    exact hserial a (by simp)
  constructor
  · apply Ledger.auditTrail
    exact hrun.invariant (I := fun s => Ledger settings s.world)
      (ledger_step settings router) hsteps (ledger_empty settings)
  · intro pre a post s u has hpre hstep
    exact stepAudit_step settings router (hsteps has hpre hstep) hstep

end Run

/-- Created, suppressed as a duplicate, expired, and created again after the cooldown. -/
def cooldownRun : List SystemAction :=
  [processAt 270,processAt 280,.expirySelect 0 (DateTime.ofUtc sampleDay 510),.expiryWrite 0,
    processAt 511]

theorem cooldown_and_audit_cooldownRun :
    ∃ t, (@lifecycle sampleBuiltins {} sampleRouter).Run SystemState.empty cooldownRun t ∧
      t.world.store.alerts.rows.length = 2 ∧ AuditTrail {} t.world ∧
      (@lifecycle sampleBuiltins {} sampleRouter).Steps (@StepAudit sampleBuiltins {})
        SystemState.empty cooldownRun := by
  let _ := sampleBuiltins
  obtain ⟨t,hrun,htwo⟩ := Machine.exists_run_of_exec (lifecycle {} sampleRouter) SystemState.empty
    cooldownRun (fun t => t.world.store.alerts.rows.length == 2) (by decide +kernel)
  have haudit := cooldown_and_audit {} sampleRouter (by decide +kernel) hrun
  exact ⟨t,hrun,beq_iff_eq.mp htwo,haudit⟩

end MarketScanner.Alerts
