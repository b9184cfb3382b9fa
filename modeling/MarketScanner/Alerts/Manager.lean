import MarketScanner.Alerts.Suppression

/-! From an ALERT decision to a persisted, queued alert. `process` wraps `processImpl` with a
heartbeat write to a table of its own whose failures are swallowed; it is left out here. -/
namespace MarketScanner.Alerts
open MarketScanner.Library MarketScanner.Python MarketScanner.Config MarketScanner.Core
open MarketScanner.Decisions

/-- The alert tables and the in-memory queue of alert ids. -/
structure AlertWorld where
  store : AlertStore
  queue : List ℕ

def AlertWorld.empty : AlertWorld := ⟨AlertStore.empty,[]⟩

/-- Where the environment raises during a call: in the session that decides and creates, which then
rolls back, at the queue's `put`, or in the session that logs QUEUED. -/
inductive ProcessFault
  | firstSession | queuePut | secondSession
  deriving DecidableEq

namespace AlertManager

/-- The levels that `_process_impl` reads off the snapshot for the row. -/
structure AlertLevels where
  entryReference : Option PyFloat
  breakoutLevel : Option PyFloat
  supportLevel : Option PyFloat
  resistanceLevel : Option PyFloat

/-- The breakout level is for want of one the resistance level. -/
def readLevels [Builtins] (snapshot : Dict) : Except PyException AlertLevels := do
  let entryReference ← DecisionValidator.asFloat snapshot "price"
  let breakoutLevel ← DecisionValidator.asFloat snapshot "breakout_level"
  let breakoutLevel ←
    if breakoutLevel.isNone then DecisionValidator.asFloat snapshot "resistance_level"
    else .ok breakoutLevel
  let supportLevel ← DecisionValidator.asFloat snapshot "support_level"
  let resistanceLevel ← DecisionValidator.asFloat snapshot "resistance_level"
  .ok { entryReference, breakoutLevel, supportLevel, resistanceLevel }

/-- The row created for an admitted decision. `createdAt` is the database's own clock. -/
def newAlert [Builtins] (settings : Settings) (decision : DecisionResult) (quality : Quality)
    (levels : AlertLevels) (symbolId : ℕ) (moment createdAt : DateTime) : Alert where
  symbolId := symbolId
  scannerName := decision.scannerName
  signalType := decision.signalType
  decision := decision.decision
  score := decision.score.round2
  quality := quality
  entryReference := levels.entryReference
  breakoutLevel := levels.breakoutLevel
  supportLevel := levels.supportLevel
  resistanceLevel := levels.resistanceLevel
  featureSnapshot := decision.featureSnapshot
  reason := "all conditions met: " ++ String.intercalate ", " decision.passedRules
  passedRules := decision.passedRules
  status := .pending
  fingerprint := AlertDeduplicator.buildFingerprint decision
  signalDate := (toMarketTime moment settings.marketTimezone).date
  createdAt := createdAt
  expiresAt := some (moment.add (TimeDelta.minutes settings.alertExpiryMinutes))

/-- Log one SUPPRESSED event on the blocking alert, when the check names one. -/
def logSuppressed (store : AlertStore) (cause : String) (result : SuppressionResult) : AlertStore :=
  match result.blockingAlertId with
  | none => store
  | some alertId =>
    AlertEventRepository.log store alertId .suppressed
      (some [("cause",.str cause),
        ("reason",match result.reason with | some reason => .str reason | none => .none)])

/-- The first session: the created alert's id, or `none` when a check suppressed the decision. -/
def firstSession [Builtins] (settings : Settings) (decision : DecisionResult) (quality : Quality)
    (symbolId : ℕ) (moment createdAt : DateTime) (store : AlertStore) :
    Except PyException (Option ℕ × AlertStore) :=
  match admission settings store (AlertDeduplicator.buildFingerprint decision) symbolId
      decision.signalType moment with
  | .duplicate result => .ok (none,logSuppressed store "duplicate" result)
  | .coolingDown result => .ok (none,logSuppressed store "cooldown" result)
  | .admitted => do
    let levels ← readLevels decision.featureSnapshot
    let (alertId,created) := AlertRepository.create store
      (newAlert settings decision quality levels symbolId moment createdAt)
    .ok (some alertId,AlertEventRepository.log created alertId .created none)

/-- Hand a created alert over: put its id on the queue, then log QUEUED in a session of its own. -/
def enqueue (fault : Option ProcessFault) (alertId : ℕ) (w : AlertWorld) :
    Except PyException (Option ℕ) × AlertWorld :=
  if fault = some .queuePut then (.error .environment,w)
  else
    let queued := { w with queue := w.queue ++ [alertId] }
    if fault = some .secondSession then (.error .environment,queued)
    else (.ok (some alertId),
      { queued with store := AlertEventRepository.log queued.store alertId .queued none })

def processImpl [Builtins] (settings : Settings) (decision : DecisionResult) (symbolId : ℕ)
    (moment createdAt : DateTime) (fault : Option ProcessFault) (w : AlertWorld) :
    Except PyException (Option ℕ) × AlertWorld :=
  if decision.decision = .alert then
    match decision.quality with
    | none => (.error .assertionError,w)
    | some quality =>
      if fault = some .firstSession then (.error .environment,w)
      else match firstSession settings decision quality symbolId moment createdAt w.store with
        | .error e => (.error e,w)
        | .ok (none,store) => (.ok none,{ w with store })
        | .ok (some alertId,store) => enqueue fault alertId { w with store }
  else (.ok none,w)

section Spec
variable [Builtins] (settings : Settings) (decision : DecisionResult) (symbolId : ℕ)
  (moment createdAt : DateTime)

omit [Builtins] in
@[simp] theorem logSuppressed_alerts (store : AlertStore) (cause : String)
    (result : SuppressionResult) : (logSuppressed store cause result).alerts = store.alerts := by
  unfold logSuppressed
  split <;> rfl

/-- The answer of the two checks to the decision. -/
def admissionOf (store : AlertStore) : Admission :=
  admission settings store (AlertDeduplicator.buildFingerprint decision) symbolId
    decision.signalType moment

/-- Why a decision was not admitted: the row that blocked it, and the event logged on it. -/
inductive Suppressed (store : AlertStore) : AlertStore → Prop
  | duplicate (r : Row Alert) (meta' : Option Dict) (mem : r ∈ store.alerts.rows)
      (blocks : (admissionOf settings decision symbolId moment store).blocking = some r.id)
      (fingerprint : r.val.fingerprint = AlertDeduplicator.buildFingerprint decision)
      (live : r.val.status ≠ .expired) :
      Suppressed store (AlertEventRepository.log store r.id .suppressed meta')
  | cooldown (r : Row Alert) (meta' : Option Dict) (mem : r ∈ store.alerts.rows)
      (blocks : (admissionOf settings decision symbolId moment store).blocking = some r.id)
      (symbol : r.val.symbolId = symbolId) (signal : r.val.signalType = decision.signalType)
      (recent : moment.utc ≤ r.val.createdAt.utc+AlertThrottler.cooldown settings) :
      Suppressed store (AlertEventRepository.log store r.id .suppressed meta')

/-- What an admitted decision finds in the table. -/
structure Admitted (store : AlertStore) : Prop where
  passed : admissionOf settings decision symbolId moment store = .admitted
  dedup : AlertRepository.getByFingerprint store (AlertDeduplicator.buildFingerprint decision) =
      none ∨
    ∃ r, AlertRepository.getByFingerprint store (AlertDeduplicator.buildFingerprint decision) =
      some r ∧ r.val.status = .expired
  cooledDown : ∀ r ∈ store.alerts.rows, r.val.symbolId = symbolId →
    r.val.signalType = decision.signalType →
      r.val.createdAt.utc+AlertThrottler.cooldown settings < moment.utc

/-- The first session logs one event on the blocking alert, or creates one row with one CREATED event, or
cannot read the levels of the row. -/
theorem firstSession_cases (quality : Quality) (store : AlertStore) :
    (∃ store', firstSession settings decision quality symbolId moment createdAt store =
        .ok (none,store') ∧ Suppressed settings decision symbolId moment store store') ∨
    Admitted settings decision symbolId moment store ∧
      ((∃ levels, readLevels decision.featureSnapshot = .ok levels ∧
          firstSession settings decision quality symbolId moment createdAt store =
            .ok (some store.alerts.nextId,
              AlertEventRepository.log (AlertRepository.create store
                (newAlert settings decision quality levels symbolId moment createdAt)).2
                store.alerts.nextId .created none)) ∨
        ∃ e, readLevels decision.featureSnapshot = .error e ∧
          firstSession settings decision quality symbolId moment createdAt store = .error e) := by
  set fp := AlertDeduplicator.buildFingerprint decision with hfp
  by_cases hdup : (AlertDeduplicator.check store fp).suppressed = true
  · left
    obtain ⟨r,hr,hlive,hblock⟩ := dedup_suppressed hdup
    obtain ⟨hmem,hp,-⟩ := Table.latest_eq_some hr
    have hadm : admissionOf settings decision symbolId moment store =
        .duplicate (AlertDeduplicator.check store fp) := by
      simp [admissionOf, admission, ← hfp, hdup]
    refine ⟨logSuppressed store "duplicate" (AlertDeduplicator.check store fp),?_,?_⟩
    · unfold admissionOf at hadm
      simp [firstSession, hadm]
    · simp only [logSuppressed, hblock]
      exact Suppressed.duplicate r _ hmem (by rw [hadm, Admission.blocking, hblock])
        (by simpa using hp) hlive
  · have hdup' := Bool.eq_false_iff.mpr hdup
    by_cases hcool : (AlertThrottler.check settings store symbolId decision.signalType
        moment).suppressed = true
    · left
      obtain ⟨r,hmem,hsymbol,hsignal,hrecent,hblock⟩ := throttle_suppressed hcool
      have hadm : admissionOf settings decision symbolId moment store = .coolingDown
          (AlertThrottler.check settings store symbolId decision.signalType moment) := by
        simp [admissionOf, admission, ← hfp, hdup', hcool]
      refine ⟨logSuppressed store "cooldown"
        (AlertThrottler.check settings store symbolId decision.signalType moment),?_,?_⟩
      · unfold admissionOf at hadm
        simp [firstSession, hadm]
      · simp only [logSuppressed, hblock]
        exact Suppressed.cooldown r _ hmem (by rw [hadm, Admission.blocking, hblock]) hsymbol hsignal
          hrecent
    · right
      have hcool' := Bool.eq_false_iff.mpr hcool
      have hadm : admissionOf settings decision symbolId moment store = .admitted := by
        simp [admissionOf, admission, ← hfp, hdup', hcool']
      refine ⟨⟨hadm,dedup_not_suppressed hdup',throttle_not_suppressed hcool'⟩,?_⟩
      unfold admissionOf at hadm
      simp only [firstSession, hadm]
      cases readLevels decision.featureSnapshot with
      | error e => exact .inr ⟨e,rfl,rfl⟩
      | ok levels => exact .inl ⟨levels,rfl,rfl⟩

/-- The tables right after an admitted decision's session has committed. -/
def createdStore (quality : Quality) (levels : AlertLevels) (store : AlertStore) : AlertStore :=
  AlertEventRepository.log (AlertRepository.create store
    (newAlert settings decision quality levels symbolId moment createdAt)).2 store.alerts.nextId .created
    none

/-- Everything a call can do: what it returns, and the tables and queue it leaves. -/
inductive Effect (fault : Option ProcessFault) (w : AlertWorld) :
    Except PyException (Option ℕ) × AlertWorld → Prop
  | skipped (notAlert : decision.decision ≠ .alert) : Effect fault w (.ok none,w)
  | raised (e : PyException) (alertGrade : decision.decision = .alert)
      (cause : decision.quality = none ∨ fault = some .firstSession ∨
        Admitted settings decision symbolId moment w.store ∧
          readLevels decision.featureSnapshot = .error e) : Effect fault w (.error e,w)
  | suppressed {store : AlertStore} (alertGrade : decision.decision = .alert)
      (why : Suppressed settings decision symbolId moment w.store store) :
      Effect fault w (.ok none,{ w with store })
  | created (quality : Quality) (levels : AlertLevels) (alertGrade : decision.decision = .alert)
      (graded : decision.quality = some quality)
      (admitted : Admitted settings decision symbolId moment w.store)
      (read : readLevels decision.featureSnapshot = .ok levels) :
      Effect fault w (enqueue fault w.store.alerts.nextId
        { w with
          store := createdStore settings decision symbolId moment createdAt quality levels w.store })

theorem processImpl_effect (fault : Option ProcessFault) (w : AlertWorld) :
    Effect settings decision symbolId moment createdAt fault w
      (processImpl settings decision symbolId moment createdAt fault w) := by
  unfold processImpl
  split
  case isFalse hnot => exact Effect.skipped hnot
  case isTrue halert =>
    cases hq : decision.quality with
    | none => exact Effect.raised .assertionError halert (Or.inl hq)
    | some quality =>
      simp only
      split
      case isTrue hfault => exact Effect.raised .environment halert (Or.inr (Or.inl hfault))
      case isFalse =>
        rcases firstSession_cases settings decision symbolId moment createdAt quality w.store with
          ⟨store,hfirst,hwhy⟩ | ⟨hadm,⟨levels,hread,hfirst⟩ | ⟨e,hread,hfirst⟩⟩
        · rw [hfirst]
          exact Effect.suppressed halert hwhy
        · rw [hfirst]
          exact Effect.created quality levels halert hq hadm hread
        · rw [hfirst]
          exact Effect.raised e halert (Or.inr (Or.inr ⟨hadm,hread⟩))

omit [Builtins] in
@[simp] theorem enqueue_alerts (fault : Option ProcessFault) (alertId : ℕ) (w : AlertWorld) :
    (enqueue fault alertId w).2.store.alerts = w.store.alerts := by
  unfold enqueue
  split
  · rfl
  · simp only
    split <;> rfl

omit [Builtins] in
theorem enqueue_none (alertId : ℕ) (w : AlertWorld) :
    (enqueue none alertId w).2 =
      ⟨AlertEventRepository.log w.store alertId .queued none,w.queue ++ [alertId]⟩ := by
  simp [enqueue]

@[simp] theorem createdStore_alerts (quality : Quality) (levels : AlertLevels) (store : AlertStore) :
    (createdStore settings decision symbolId moment createdAt quality levels store).alerts =
      store.alerts.insert (newAlert settings decision quality levels symbolId moment createdAt) := rfl

theorem createdStore_extends (quality : Quality) (levels : AlertLevels) (store : AlertStore) :
    store.Extends (createdStore settings decision symbolId moment createdAt quality levels store) :=
  (AlertStore.Extends.create store _).trans (AlertStore.Extends.log _ _ _ _)

omit [Builtins] in
theorem enqueue_extends (fault : Option ProcessFault) (alertId : ℕ) (w : AlertWorld) :
    w.store.Extends (enqueue fault alertId w).2.store := by
  unfold enqueue
  split
  · exact AlertStore.Extends.refl _
  · simp only
    split
    · exact AlertStore.Extends.refl _
    · exact AlertStore.Extends.log _ _ _ _

theorem processImpl_extends (fault : Option ProcessFault) (w : AlertWorld) :
    w.store.Extends
      (processImpl settings decision symbolId moment createdAt fault w).2.store := by
  have heffect := processImpl_effect settings decision symbolId moment createdAt fault w
  generalize processImpl settings decision symbolId moment createdAt fault w = result at heffect
  cases heffect with
  | skipped => exact AlertStore.Extends.refl _
  | raised => exact AlertStore.Extends.refl _
  | suppressed _ hwhy =>
    cases hwhy with
    | duplicate => exact AlertStore.Extends.log _ _ _ _
    | cooldown => exact AlertStore.Extends.log _ _ _ _
  | created quality levels =>
    have hcreated :=
      createdStore_extends settings decision symbolId moment createdAt quality levels w.store
    exact hcreated.trans (enqueue_extends fault w.store.alerts.nextId
      ⟨createdStore settings decision symbolId moment createdAt quality levels w.store,w.queue⟩)

/-- When `process` raises for a graded ALERT decision whose levels can be read: the first session fails, or
the decision is admitted and its queueing fails. -/
def ProcessRaises (fault : Option ProcessFault) (store : AlertStore) : Prop :=
  fault = some .firstSession ∨
    (fault = some .queuePut ∨ fault = some .secondSession) ∧
      admissionOf settings decision symbolId moment store = .admitted

instance : DecidablePred fun a : Admission => a = .admitted
  | .admitted => isTrue rfl
  | .duplicate _ => isFalse nofun
  | .coolingDown _ => isFalse nofun

instance (fault : Option ProcessFault) (store : AlertStore) :
    Decidable (ProcessRaises settings decision symbolId moment fault store) := by
  unfold ProcessRaises
  infer_instance

omit [Builtins] in
theorem enqueue_ok_iff {fault : Option ProcessFault} {alertId : ℕ} {w : AlertWorld} :
    (∃ result, (enqueue fault alertId w).1 = .ok result) ↔
      fault ≠ some .queuePut ∧ fault ≠ some .secondSession := by
  unfold enqueue
  by_cases hput : fault = some .queuePut
  · simp [hput]
  · by_cases hsecond : fault = some .secondSession
    · simp [hsecond]
    · simp [hput, hsecond]

theorem processImpl_ok_iff (fault : Option ProcessFault) (w : AlertWorld)
    (halert : decision.decision = .alert) (hquality : decision.quality ≠ none)
    (hlevels : ∃ levels, readLevels decision.featureSnapshot = .ok levels) :
    (∃ result, (processImpl settings decision symbolId moment createdAt fault w).1 = .ok result) ↔
      ¬ ProcessRaises settings decision symbolId moment fault w.store := by
  obtain ⟨quality,hgraded⟩ := Option.ne_none_iff_exists'.mp hquality
  unfold processImpl ProcessRaises
  rw [if_pos halert, hgraded]
  by_cases hfirst : fault = some .firstSession
  · simp [hfirst]
  · simp only [if_neg hfirst]
    rcases firstSession_cases settings decision symbolId moment createdAt quality w.store with
      ⟨store,hsession,hwhy⟩ | ⟨hadm,⟨levels,-,hsession⟩ | ⟨e,hread,-⟩⟩
    · have hnot : admissionOf settings decision symbolId moment w.store ≠ .admitted := by
        intro hadm
        cases hwhy with
        | duplicate r _ _ hblocks => rw [hadm] at hblocks; contradiction
        | cooldown r _ _ hblocks => rw [hadm] at hblocks; contradiction
      simp [hsession, hfirst, hnot]
    · rw [hsession]
      simp only [enqueue_ok_iff, hfirst, hadm.passed]
      simp
    · obtain ⟨levels,hlevels⟩ := hlevels
      cases hread.symm.trans hlevels

end Spec
end AlertManager
end MarketScanner.Alerts
