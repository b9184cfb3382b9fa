import MarketScanner.Momentum.Ladder

/-! Whether the alert of a momentum transition can be lost. `evaluate` commits the transition before
it calls `AlertManager.process`, and the state machine never proposes the same stage again. -/
namespace MarketScanner.Momentum
open MarketScanner.Library MarketScanner.Python MarketScanner.Config MarketScanner.Alerts
open MarketScanner.Market
open MarketScanner.Decisions MarketScanner.Notifications MomentumStateEngine

/-- No momentum record, no alert: the state in which a run starts. -/
def initialWorld (symbols : List Symbol) : MomentumWorld :=
  ⟨symbols,⟨fun _ => none,Table.empty⟩,SystemState.empty⟩

/-- The transition of a log row, under a name of its symbol. -/
def MomentumStateTransition.transition (row : MomentumStateTransition) (symbol : String) :
    StateTransition :=
  ⟨symbol,row.fromState,row.toState,row.timestamp,row.reason,row.score,row.evidence⟩

section Recorded
variable [Builtins]

/-- The decision has its alert row, or a SUPPRESSED event on a row that blocks it: one of its
fingerprint, or one of its symbol and signal type. -/
def DecisionRecorded (decision : DecisionResult) (symbolId : ℕ) (store : AlertStore) : Prop :=
  (∃ r ∈ store.alerts.rows, r.val.symbolId = symbolId ∧
      r.val.scannerName = decision.scannerName ∧ r.val.signalType = decision.signalType ∧
      r.val.featureSnapshot = decision.featureSnapshot) ∨
    ∃ r ∈ store.alerts.rows,
      (∃ event ∈ store.events, event.alertId = r.id ∧ event.eventType = .suppressed) ∧
      (r.val.fingerprint = AlertDeduplicator.buildFingerprint decision ∨
        r.val.symbolId = symbolId ∧ r.val.signalType = decision.signalType)

/-- Every logged transition into TRIGGERED or CONFIRMED has had its alert decision recorded. -/
def AllRecorded (w : MomentumWorld) : Prop :=
  ∀ row ∈ w.momentum.transitions.rows, row.val.toState ∈ alertWorthyStates →
    ∃ settings, ∃ symbol ∈ w.symbols, symbol.id = row.val.symbolId ∧
      DecisionRecorded (alertDecision settings (row.val.transition symbol.symbol)) row.val.symbolId
        w.system.world.store

/-- An evaluation that raises leaves the momentum tables as they were. -/
def KeptOnError (w : MomentumWorld) (a : MomentumAction) (w' : MomentumWorld) : Prop :=
  ∀ settings symbol score evidence moment createdAt fault e,
    a = .evaluate settings symbol score evidence moment createdAt fault →
    (evaluate settings symbol score evidence moment createdAt fault w).1 = .error e →
    w'.momentum = w.momentum

/-- In this step, `process` does not raise for a transition into TRIGGERED or CONFIRMED. -/
def ProcessCompletes (w : MomentumWorld) (a : MomentumAction) (_ : MomentumWorld) : Prop :=
  ∀ settings symbol score evidence moment createdAt fault row next reason,
    a = .evaluate settings symbol score evidence moment createdAt fault →
    SymbolRepository.getBySymbol w.symbols symbol = .ok (some row) →
    StateMachine.evaluateTransition (w.momentum.pointer row.id) score settings =
      some (next,reason) →
    next ∈ alertWorthyStates →
    ¬ AlertManager.ProcessRaises settings
      (alertDecision settings
        ⟨symbol,w.momentum.pointer row.id,next,moment,reason,score,evidence⟩)
      row.id moment (EvaluationFault.processFault fault) w.system.world.store

theorem DecisionRecorded.extend {decision : DecisionResult} {symbolId : ℕ}
    {store store' : AlertStore} (h : DecisionRecorded decision symbolId store)
    (hext : store.Extends store') : DecisionRecorded decision symbolId store' := by
  rcases h with ⟨r,hr,hsymbol,hscanner,hsignal,hsnapshot⟩ | ⟨r,hr,⟨event,hevent,hid,htype⟩,hblocks⟩
  · left
    obtain ⟨r',hr',-,hval⟩ := hext.rows r hr
    refine ⟨r',hr',?_⟩
    rw [hval]
    exact ⟨hsymbol,hscanner,hsignal,hsnapshot⟩
  · right
    obtain ⟨r',hr',hid',hval⟩ := hext.rows r hr
    refine ⟨r',hr',⟨event,hext.events.subset hevent,hid.trans hid'.symm,htype⟩,?_⟩
    rw [hval]
    exact hblocks

/-- A graded ALERT decision that `process` takes without raising has been recorded. -/
theorem process_records (settings : Settings) {decision : DecisionResult} (symbolId : ℕ)
    (moment createdAt : DateTime) {fault : Option ProcessFault} {w : AlertWorld}
    (halert : decision.decision = .alert) (hquality : decision.quality ≠ none)
    (hlevels : ∃ levels, AlertManager.readLevels decision.featureSnapshot = .ok levels)
    (hruns : ¬ AlertManager.ProcessRaises settings decision symbolId moment fault w.store) :
    DecisionRecorded decision symbolId
      (AlertManager.processImpl settings decision symbolId moment createdAt fault w).2.store := by
  have heffect := AlertManager.processImpl_effect settings decision symbolId moment createdAt fault w
  generalize AlertManager.processImpl settings decision symbolId moment createdAt fault w = result
    at heffect
  cases heffect with
  | skipped hnot => exact absurd halert hnot
  | raised e _ hcause =>
    rcases hcause with hnone | hfault | ⟨-,hread⟩
    · exact absurd hnone hquality
    · exact absurd (Or.inl hfault) hruns
    · obtain ⟨levels,hlevels⟩ := hlevels
      cases hread.symm.trans hlevels
  | suppressed _ hwhy =>
    right
    cases hwhy with
    | duplicate r eventMetadata hmem _ hfp =>
      exact ⟨r,hmem,⟨_,List.mem_append_right _ (List.mem_singleton.mpr rfl),rfl,rfl⟩,Or.inl hfp⟩
    | cooldown r eventMetadata hmem _ hsymbol hsignal =>
      exact ⟨r,hmem,⟨_,List.mem_append_right _ (List.mem_singleton.mpr rfl),rfl,rfl⟩,
        Or.inr ⟨hsymbol,hsignal⟩⟩
  | created =>
    left
    rw [AlertManager.enqueue_alerts, AlertManager.createdStore_alerts]
    exact ⟨_,Table.mem_insert.mpr (Or.inr rfl),rfl,rfl,rfl,rfl⟩

end Recorded

section Step
variable [Builtins] {settings : Settings} {symbol : String} {score : PyFloat} {evidence : Dict}
  {moment createdAt : DateTime} {fault : Option EvaluationFault} {w : MomentumWorld}

omit [Builtins] in
variable (evidence moment) in
/-- A known symbol and a proposed move are all the first session needs. -/
theorem stateSession_of_proposed {row : Symbol} {next : MomentumState} {reason : String}
    (hfault : fault ≠ some .stateSession)
    (hrow : SymbolRepository.getBySymbol w.symbols symbol = .ok (some row))
    (hproposed : StateMachine.evaluateTransition (w.momentum.pointer row.id) score settings =
      some (next,reason)) :
    stateSession settings symbol score evidence moment fault w.symbols w.momentum =
      .moved row.id w.momentum.transitions.nextId
        ⟨symbol,w.momentum.pointer row.id,next,moment,reason,score,evidence⟩
        (MomentumStateRepository.applyTransition w.momentum row.id
          ⟨symbol,w.momentum.pointer row.id,next,moment,reason,score,evidence⟩).2 := by
  have happlied := StateMachine.applyTransition_proposed hproposed
  unfold MomentumStore.pointer at hproposed happlied ⊢
  simp only [stateSession, if_neg hfault, hrow, hproposed, happlied]
  rfl

omit [Builtins] in
theorem applyTransition_ne (store : MomentumStore) (symbolId : ℕ) (transition : StateTransition) :
    (MomentumStateRepository.applyTransition store symbolId transition).2 ≠ store := by
  intro heq
  have hlength := congrArg (fun s => s.transitions.rows.length) heq
  simp [MomentumStateRepository.applyTransition] at hlength

omit [Builtins] in
theorem alertDecision_graded (settings : Settings) (transition : StateTransition) :
    (alertDecision settings transition).quality ≠ none := by
  simp [alertDecision]

/-- Its snapshot has none of the features that the levels are read from. -/
theorem alertDecision_levels (settings : Settings) (transition : StateTransition) :
    AlertManager.readLevels (alertDecision settings transition).featureSnapshot =
      .ok ⟨none,none,none,none⟩ := rfl

/-- An alert-worthy transition has been committed by the time `process` is called. -/
theorem evaluate_alerted {symbolId transitionId : ℕ} {transition : StateTransition}
    {store : MomentumStore} (hworthy : transition.toState ∈ alertWorthyStates)
    (hsession : stateSession settings symbol score evidence moment fault w.symbols w.momentum =
      .moved symbolId transitionId transition store) :
    evaluate settings symbol score evidence moment createdAt fault w =
      let processed := AlertManager.processImpl settings (alertDecision settings transition)
        symbolId transition.timestamp createdAt (EvaluationFault.processFault fault) w.system.world
      (processed.1.map fun alertId => ⟨some transition,alertId,some transitionId⟩,
        { w with momentum := store, system := { w.system with world := processed.2 } }) := by
  have hcontains : alertWorthyStates.contains transition.toState = true := by simpa using hworthy
  simp only [evaluate, hsession, hcontains, if_true]

theorem evaluate_silent {symbolId transitionId : ℕ} {transition : StateTransition}
    {store : MomentumStore} (hworthy : transition.toState ∉ alertWorthyStates)
    (hsession : stateSession settings symbol score evidence moment fault w.symbols w.momentum =
      .moved symbolId transitionId transition store) :
    evaluate settings symbol score evidence moment createdAt fault w =
      (.ok ⟨some transition,none,some transitionId⟩,{ w with momentum := store }) := by
  simp [evaluate, hsession, hworthy]

/-- When `process` raises, the transition is already in the tables. -/
theorem KeptOnError.completes {a : MomentumAction} {w' : MomentumWorld}
    (h : KeptOnError w a w') (hstep : momentumMachine.step w a = some w') :
    ProcessCompletes w a w' := by
  intro settings symbol score evidence moment createdAt fault row next reason ha hrow hproposed
    hworthy hraises
  subst ha
  obtain rfl := Option.some.inj hstep
  have hfault : fault ≠ some .stateSession := by
    rintro rfl
    simp [EvaluationFault.processFault, AlertManager.ProcessRaises] at hraises
  have hsession := stateSession_of_proposed evidence moment hfault hrow hproposed
  set transition : StateTransition :=
    ⟨symbol,w.momentum.pointer row.id,next,moment,reason,score,evidence⟩
  have hevaluate := @evaluate_alerted _ settings symbol score evidence moment createdAt fault w _ _
    transition _ hworthy hsession
  have hresult := AlertManager.processImpl_ok_iff settings (alertDecision settings transition)
    row.id moment createdAt (EvaluationFault.processFault fault) w.system.world rfl
    (alertDecision_graded settings transition) ⟨_,alertDecision_levels settings transition⟩
  cases hprocess : (AlertManager.processImpl settings (alertDecision settings transition)
      row.id moment createdAt (EvaluationFault.processFault fault) w.system.world).1 with
  | ok result => exact hresult.mp ⟨result,hprocess⟩ hraises
  | error e =>
    have herror : (evaluate settings symbol score evidence moment createdAt fault w).1 =
        .error e := by
      rw [hevaluate]
      simp only [show transition.timestamp = moment from rfl, hprocess]
      rfl
    have hkept := h settings symbol score evidence moment createdAt fault e rfl herror
    simp only [hevaluate] at hkept
    exact applyTransition_ne w.momentum row.id transition hkept

omit [Builtins] in
/-- A transition is what its log row says, under its own symbol. -/
theorem row_transition (transition : StateTransition) (symbolId : ℕ) :
    (transition.row symbolId).transition transition.symbol = transition := rfl

theorem ProcessCompletes.of_moved {w' : MomentumWorld}
    (h : ProcessCompletes w (.evaluate settings symbol score evidence moment createdAt fault) w')
    {symbolId : ℕ} {transition : StateTransition}
    (hmoved : Moved settings symbol score evidence moment w.symbols w.momentum symbolId transition)
    (hworthy : transition.toState ∈ alertWorthyStates) :
    ¬ AlertManager.ProcessRaises settings (alertDecision settings transition) symbolId
      transition.timestamp (EvaluationFault.processFault fault) w.system.world.store := by
  obtain ⟨hknown,hcurrent,hproposed,hdata⟩ := hmoved
  have hpointer : transition.fromState = w.momentum.pointer symbolId := hcurrent
  have htransition : transition = ⟨symbol,w.momentum.pointer symbolId,transition.toState,moment,
      transition.reason,score,evidence⟩ := by
    rw [← hpointer]
    exact hdata
  have htimestamp : transition.timestamp = moment := congrArg StateTransition.timestamp htransition
  rw [hpointer] at hproposed
  have hruns := h settings symbol score evidence moment createdAt fault ⟨symbolId,symbol⟩
    transition.toState transition.reason rfl hknown hproposed hworthy
  rw [← htransition] at hruns
  rwa [htimestamp]

/-- If `process` does not raise, the only exceptions of `evaluate` come before its commit. -/
theorem ProcessCompletes.kept {a : MomentumAction} {w' : MomentumWorld}
    (h : ProcessCompletes w a w') (hstep : momentumMachine.step w a = some w') :
    KeptOnError w a w' := by
  intro settings symbol score evidence moment createdAt fault e ha herror
  subst ha
  obtain rfl := Option.some.inj hstep
  cases hsession : stateSession settings symbol score evidence moment fault w.symbols
      w.momentum with
  | nothing => simp [evaluate, hsession]
  | raised e' => simp [evaluate, hsession]
  | moved symbolId transitionId transition store =>
    obtain ⟨hmoved,-⟩ := stateSession_moved hsession
    by_cases hworthy : transition.toState ∈ alertWorthyStates
    · exfalso
      have hruns := h.of_moved hmoved hworthy
      rw [← AlertManager.processImpl_ok_iff settings (alertDecision settings transition) symbolId
        transition.timestamp createdAt _ _ rfl (alertDecision_graded settings transition)
        ⟨_,alertDecision_levels settings transition⟩] at hruns
      obtain ⟨result,hresult⟩ := hruns
      rw [evaluate_alerted hworthy hsession] at herror
      simp only [hresult] at herror
      cases herror
    · rw [evaluate_silent hworthy hsession] at herror
      cases herror

/-- Rows that were recorded stay recorded while the alert tables only grow. -/
theorem AllRecorded.extend {w' : MomentumWorld} (h : AllRecorded w)
    (hsymbols : w'.symbols = w.symbols)
    (hext : w.system.world.store.Extends w'.system.world.store)
    (hrows : ∀ row ∈ w'.momentum.transitions.rows, row.val.toState ∈ alertWorthyStates →
      row ∈ w.momentum.transitions.rows ∨
      ∃ settings, ∃ symbol ∈ w.symbols, symbol.id = row.val.symbolId ∧
        DecisionRecorded (alertDecision settings (row.val.transition symbol.symbol))
          row.val.symbolId w'.system.world.store) : AllRecorded w' := by
  intro row hrow hworthy
  rw [hsymbols]
  rcases hrows row hrow hworthy with hold | hnew
  · obtain ⟨settings,symbol,hsymbol,hid,hrec⟩ := h row hold hworthy
    exact ⟨settings,symbol,hsymbol,hid,hrec.extend hext⟩
  · exact hnew

theorem allRecorded_step (w : MomentumWorld) (a : MomentumAction) (w' : MomentumWorld)
    (h : AllRecorded w) (hcompletes : ProcessCompletes w a w')
    (hstep : momentumMachine.step w a = some w') : AllRecorded w' := by
  cases a with
  | system settings router action =>
    obtain ⟨system,hsystem,rfl⟩ := Option.map_eq_some_iff.mp hstep
    exact h.extend rfl (systemStep_extends settings router hsystem) fun row hrow _ => Or.inl hrow
  | evaluate settings symbol score evidence moment createdAt fault =>
    obtain rfl := Option.some.inj hstep
    cases hsession : stateSession settings symbol score evidence moment fault w.symbols
        w.momentum with
    | nothing => simpa [evaluate, hsession] using h
    | raised e => simpa [evaluate, hsession] using h
    | moved symbolId transitionId transition store =>
      obtain ⟨hmoved,hstore⟩ := stateSession_moved hsession
      obtain ⟨-,rfl⟩ := Prod.mk.inj hstore
      obtain ⟨hmem,-⟩ := SymbolRepository.getBySymbol_some hmoved.known
      have hname : transition.symbol = symbol := by rw [hmoved.data]
      by_cases hworthy : transition.toState ∈ alertWorthyStates
      · rw [evaluate_alerted hworthy hsession]
        have hruns := hcompletes.of_moved hmoved hworthy
        have hrecords := process_records settings symbolId transition.timestamp createdAt rfl
          (alertDecision_graded settings transition) ⟨_,alertDecision_levels settings transition⟩ hruns
        have hext := AlertManager.processImpl_extends settings (alertDecision settings transition)
          symbolId transition.timestamp createdAt (EvaluationFault.processFault fault)
          w.system.world
        refine h.extend rfl hext fun row hrow _ => ?_
        rcases Table.mem_insert.mp hrow with hold | rfl
        · exact Or.inl hold
        · right
          refine ⟨settings,⟨symbolId,symbol⟩,hmem,rfl,?_⟩
          have hrow := row_transition transition symbolId
          rw [hname] at hrow
          exact hrow ▸ hrecords
      · rw [evaluate_silent hworthy hsession]
        refine h.extend rfl (AlertStore.Extends.refl _) fun row hrow hrowWorthy => ?_
        rcases Table.mem_insert.mp hrow with hold | rfl
        · exact Or.inl hold
        · exact absurd hrowWorthy hworthy

/-- No alert-worthy transition is lost along a run, and no failed evaluation moves a state, exactly
when `process` raises for none of its transitions into TRIGGERED or CONFIRMED. -/
theorem noAlertLost_iff (symbols : List Symbol) (as : List MomentumAction) :
    (momentumMachine.Steps KeptOnError (initialWorld symbols) as ∧
        momentumMachine.Throughout AllRecorded (initialWorld symbols) as) ↔
      momentumMachine.Steps ProcessCompletes (initialWorld symbols) as := by
  constructor
  · rintro ⟨hkept,-⟩ pre a post w w' has hrun hstep
    exact (hkept has hrun hstep).completes hstep
  · intro hcompletes
    refine ⟨?_,?_⟩
    · intro pre a post w w' has hrun hstep
      exact (hcompletes has hrun hstep).kept hstep
    · apply hcompletes.throughout allRecorded_step
      intro row hrow
      cases hrow

end Step

/-- The first observation of a symbol lands on TRIGGERED and the alert's session fails. -/
def lostAlertRun : List MomentumAction := [observe 85 270 (some (.alert .firstSession))]

theorem lostAlertRun_loses :
    ¬ ((@momentumMachine momentumBuiltins).Steps (@KeptOnError momentumBuiltins)
          (initialWorld [⟨1,"RELIANCE"⟩]) lostAlertRun ∧
        (@momentumMachine momentumBuiltins).Throughout (@AllRecorded momentumBuiltins)
          (initialWorld [⟨1,"RELIANCE"⟩]) lostAlertRun) := by
  let _ := momentumBuiltins
  rintro ⟨-,hrecorded⟩
  obtain ⟨w,hrun,htest⟩ := Machine.exists_run_of_exec momentumMachine
    (initialWorld [⟨1,"RELIANCE"⟩]) lostAlertRun
    (fun w => w.system.world.store.alerts.rows.isEmpty &&
      w.momentum.transitions.rows.any fun row => row.val.toState == .triggered) (by decide +kernel)
  obtain ⟨hempty,hany⟩ := Bool.and_eq_true_iff.mp htest
  obtain ⟨row,hrow,hstate⟩ := List.any_eq_true.mp hany
  have hworthy : row.val.toState ∈ alertWorthyStates := by
    rw [beq_iff_eq.mp hstate]
    decide
  have hwhole : lostAlertRun = lostAlertRun ++ [] := by rw [List.append_nil]
  obtain ⟨_,_,_,_,hdecision⟩ := hrecorded hwhole hrun row hrow hworthy
  have hnone : w.system.world.store.alerts.rows = [] := List.isEmpty_iff.mp hempty
  rcases hdecision with ⟨r,hr,-⟩ | ⟨r,hr,-⟩ <;> (rw [hnone] at hr; cases hr)

end MarketScanner.Momentum
