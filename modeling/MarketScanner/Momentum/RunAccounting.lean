import MarketScanner.Library.Loop
import MarketScanner.Library.Sieve
import MarketScanner.Momentum.AlertLoss
import MarketScanner.Momentum.Coordinator

/-! The account of a pipeline run: which symbols it evaluates, what its counters add up to, and how each
verdict agrees with the tables after the evaluation. -/
namespace MarketScanner.Momentum
open MarketScanner.Library MarketScanner.Python MarketScanner.Config MarketScanner.Market
open MarketScanner.Scanner MarketScanner.Decisions MarketScanner.Alerts MomentumPipelineCoordinator

/-- Where a symbol stands in the tables. -/
def PipelineWorld.standing (w : PipelineWorld) (symbol : String) : Option MomentumState :=
  match SymbolRepository.getBySymbol w.momentum.symbols symbol with
  | .ok (some row) => w.momentum.momentum.pointer row.id
  | _ => none

/-- A fusion without a score, or with a confidence below the minimum. -/
def TooWeak (settings : Settings) (fusion : FusedSignal) : Prop :=
  fusion.overallScore = none ∨
    fusion.confidence.lt (.finite settings.pipelineMinConfidencePct) = true

/-- The alert rows of a symbol. -/
def alertsOf (w : MomentumWorld) (symbolId : ℕ) : List (Row Alert) :=
  w.system.world.store.alerts.rows.filter fun r => r.val.symbolId == symbolId

/-- The momentum state, the transition log and the alerts of a symbol are the same. -/
structure Untouched (symbolId : ℕ) (w w' : MomentumWorld) : Prop where
  state : w'.momentum.states symbolId = w.momentum.states symbolId
  log : w'.momentum.logOf symbolId = w.momentum.logOf symbolId
  alerts : alertsOf w' symbolId = alertsOf w symbolId

theorem Untouched.refl (symbolId : ℕ) (w : MomentumWorld) : Untouched symbolId w w := ⟨rfl,rfl,rfl⟩

theorem Untouched.trans {symbolId : ℕ} {a b c : MomentumWorld} (hab : Untouched symbolId a b)
    (hbc : Untouched symbolId b c) : Untouched symbolId a c :=
  ⟨hbc.state.trans hab.state,hbc.log.trans hab.log,hbc.alerts.trans hab.alerts⟩

/-- Evaluations one after another, each from the tables that the one before it leaves. -/
inductive Chained : PipelineWorld → List Evaluation → PipelineWorld → Prop
  | done {w : PipelineWorld} : Chained w [] w
  | next {e : Evaluation} {es : List Evaluation} {w' : PipelineWorld} (rest : Chained e.after es w') :
    Chained e.before (e::es) w'

section Step
variable [Builtins] {settings : Settings} {symbol : String} {score : PyFloat} {evidence : Dict}
  {moment createdAt : DateTime} {fault : Option EvaluationFault} {w : MomentumWorld}

/-- The alert manager writes alert rows of the symbol it is called for only. -/
theorem processImpl_otherAlerts (decision : DecisionResult) {symbolId other : ℕ} (hne : other ≠ symbolId)
    (processFault : Option ProcessFault) (alerts : AlertWorld) :
    ((AlertManager.processImpl settings decision symbolId moment createdAt processFault
        alerts).2.store.alerts.rows.filter fun r => r.val.symbolId == other) =
      alerts.store.alerts.rows.filter fun r => r.val.symbolId == other := by
  have heffect := AlertManager.processImpl_effect settings decision symbolId moment createdAt
    processFault alerts
  generalize AlertManager.processImpl settings decision symbolId moment createdAt processFault
    alerts = result at heffect
  cases heffect with
  | skipped => rfl
  | raised => rfl
  | suppressed _ hwhy => cases hwhy <;> rfl
  | created quality levels =>
    rw [AlertManager.enqueue_alerts, AlertManager.createdStore_alerts, Table.rows_insert,
      List.filter_append, List.filter_singleton]
    have hother : (AlertManager.newAlert settings decision quality levels symbolId moment
        createdAt).symbolId = symbolId := rfl
    rw [hother, beq_false_of_ne hne.symm, cond_false, List.append_nil]

omit [Builtins] in
/-- A transition of one symbol leaves the pointer and the log of the others. -/
theorem untouched_applyTransition {symbolId other : ℕ} (hne : other ≠ symbolId)
    (transition : StateTransition) {w' : MomentumWorld}
    (hmomentum : w'.momentum =
      (MomentumStateRepository.applyTransition w.momentum symbolId transition).2)
    (halerts : alertsOf w' other = alertsOf w other) : Untouched other w w' where
  state := by
    rw [hmomentum]
    exact Function.update_of_ne hne _ _
  log := by rw [hmomentum, logOf_applyTransition, if_neg hne.symm, List.append_nil]
  alerts := halerts

/-- Everything an evaluation can do: nothing, or to move its own symbol. -/
theorem evaluate_cases (settings : Settings) (symbol : String) (score : PyFloat) (evidence : Dict)
    (moment createdAt : DateTime) (fault : Option EvaluationFault) (w : MomentumWorld) :
    let evaluated := MomentumStateEngine.evaluate settings symbol score evidence moment createdAt fault w
    evaluated = (.ok ⟨none,none,none⟩,w) ∨ (∃ e, evaluated = (.error e,w)) ∨
      ∃ symbolId transitionId transition,
        SymbolRepository.getBySymbol w.symbols symbol = .ok (some ⟨symbolId,symbol⟩) ∧
        evaluated.2.momentum =
          (MomentumStateRepository.applyTransition w.momentum symbolId transition).2 ∧
        (∀ other ≠ symbolId, alertsOf evaluated.2 other = alertsOf w other) ∧
        ((∃ e, evaluated.1 = .error e) ∨
          ∃ alertId, evaluated.1 = .ok ⟨some transition,alertId,some transitionId⟩) := by
  intro evaluated
  cases hsession : MomentumStateEngine.stateSession settings symbol score evidence moment fault
      w.symbols w.momentum with
  | nothing => exact .inl (by simp only [evaluated, MomentumStateEngine.evaluate, hsession])
  | raised e => exact .inr (.inl ⟨e,by simp only [evaluated, MomentumStateEngine.evaluate, hsession]⟩)
  | moved symbolId transitionId transition store =>
    obtain ⟨hmoved,happlied⟩ := stateSession_moved hsession
    obtain ⟨-,rfl⟩ := Prod.mk.inj happlied
    refine .inr (.inr ⟨symbolId,transitionId,transition,hmoved.known,?_⟩)
    by_cases hworthy : transition.toState ∈ alertWorthyStates
    · have hevaluated : evaluated = _ := evaluate_alerted hworthy hsession
      rw [hevaluated]
      dsimp only
      refine ⟨rfl,fun other hne => processImpl_otherAlerts _ hne _ _,?_⟩
      cases (AlertManager.processImpl settings (MomentumStateEngine.alertDecision settings transition)
        symbolId transition.timestamp createdAt (EvaluationFault.processFault fault)
        w.system.world).1 with
      | error e => exact .inl ⟨e,rfl⟩
      | ok alertId => exact .inr ⟨alertId,rfl⟩
    · have hevaluated : evaluated = _ := evaluate_silent hworthy hsession
      rw [hevaluated]
      exact ⟨rfl,fun other _ => rfl,.inr ⟨none,rfl⟩⟩

/-! ### One symbol -/

omit [Builtins] in
theorem standing_congr {w w' : PipelineWorld} (h : w'.momentum = w.momentum) (symbol : String) :
    w'.standing symbol = w.standing symbol := by
  rw [PipelineWorld.standing, h]
  rfl

omit [Builtins] in
/-- What is read of a symbol that has not moved is where it stands. -/
theorem currentState_ok {environment : SymbolEnvironment} {w : PipelineWorld}
    {state : Option MomentumState} (h : currentState environment symbol w.momentum = .ok state) :
    state = w.standing symbol := by
  unfold currentState at h
  unfold PipelineWorld.standing
  split at h
  · cases h
  · cases hrow : SymbolRepository.getBySymbol w.momentum.symbols symbol with
    | error e =>
      rw [hrow] at h
      cases h
    | ok row =>
      rw [hrow] at h
      cases row <;> exact (Except.ok.inj h).symm

omit [Builtins] in
/-- An observation is written beside the momentum tables. -/
theorem recordObservation_momentum {environment : SymbolEnvironment} {transitionId : ℕ}
    {alertId : Option ℕ} {state : MomentumState} {score : Option PyFloat} {confidence : PyFloat}
    {w w' : PipelineWorld}
    (h : recordObservation settings environment symbol transitionId alertId state score confidence
      moment w = .ok w') : w'.momentum = w.momentum := by
  unfold recordObservation at h
  split at h
  · rw [← Except.ok.inj h]
  · split at h
    · cases h
    · split at h
      · cases h
      · rw [← Except.ok.inj h]
      · cases hinsert : MomentumAlertObservationRepository.insert w.observations _ with
        | error e =>
          rw [hinsert] at h
          cases h
        | ok observations =>
          rw [hinsert] at h
          rw [← Except.ok.inj h]

omit [Builtins] in
variable (settings moment symbol) in
/-- After a transition the state is the one moved to, and no momentum table is written any more. -/
theorem stateAfter_spec (environment : SymbolEnvironment) (fusion : FusedSignal)
    (momentumResult : MomentumEvaluationResult) (w : PipelineWorld) :
    (stateAfter settings moment environment symbol fusion momentumResult w).2.momentum = w.momentum ∧
      ∀ state, (stateAfter settings moment environment symbol fusion momentumResult w).1 = .ok state →
        state = momentumResult.transition.elim (w.standing symbol) fun t => some t.toState := by
  unfold stateAfter
  obtain ⟨transition,alertId,transitionId⟩ := momentumResult
  cases transition with
  | none => exact ⟨rfl,fun state hstate => currentState_ok hstate⟩
  | some transition =>
    cases transitionId with
    | none => exact ⟨rfl,fun state hstate => (Except.ok.inj hstate).symm⟩
    | some transitionId =>
      dsimp only
      split
      · cases hrecord : recordObservation settings environment symbol transitionId alertId
            transition.toState fusion.overallScore fusion.confidence moment w with
        | error e => exact ⟨rfl,fun state hstate => by cases hstate⟩
        | ok recorded =>
          exact ⟨recordObservation_momentum hrecord,fun state hstate => (Except.ok.inj hstate).symm⟩
      · exact ⟨rfl,fun state hstate => (Except.ok.inj hstate).symm⟩

/-- What the evaluation of a symbol does to the tables, and how its verdict agrees with them. -/
structure Evaluates (settings : Settings) (environment : SymbolEnvironment) (symbol : String)
    (w : PipelineWorld) (outcome : Except PyException PipelineDecisionResult) (w' : PipelineWorld) :
    Prop where
  symbols : w'.momentum.symbols = w.momentum.symbols
  others : ∀ other, (∀ row, SymbolRepository.getBySymbol w.momentum.symbols symbol = .ok (some row) →
    row.id ≠ other) → Untouched other w.momentum w'.momentum
  weak : ∀ fusion, environment.fusion = .ok fusion → TooWeak settings fusion →
    w' = w ∧ ∃ d, outcome = .ok d ∧ d.verdict = .reject
  verdict : ∀ fusion, environment.fusion = .ok fusion → ¬TooWeak settings fusion → ∀ d,
    outcome = .ok d → (d.verdict,d.reason) =
      MomentumDecisionEngine.decide settings fusion.confidence (w'.standing symbol)

variable (moment symbol) in
/-- Too weak a fusion ends the evaluation before the state engine is called. -/
theorem evaluateOne_weak {environment : SymbolEnvironment} {fusion : FusedSignal} (w : PipelineWorld)
    (hfusion : environment.fusion = .ok fusion) (hweak : TooWeak settings fusion) :
    ∃ d, evaluateOne settings moment environment symbol w = (.ok d,w) ∧ d.verdict = .reject := by
  unfold evaluateOne
  simp only [hfusion]
  cases hscore : fusion.overallScore with
  | none => exact ⟨_,rfl,rfl⟩
  | some score =>
    have hlow : fusion.confidence.lt (.finite settings.pipelineMinConfidencePct) = true := by
      rcases hweak with hnone | hlow
      · rw [hscore] at hnone
        cases hnone
      · exact hlow
    simp only [hlow, if_true]
    exact ⟨_,rfl,rfl⟩

variable (moment symbol) in
/-- Any other goes through the state engine, and its verdict is the image of the state after it. -/
theorem evaluateOne_strong {environment : SymbolEnvironment} {fusion : FusedSignal} (w : PipelineWorld)
    (hfusion : environment.fusion = .ok fusion) (hscore : fusion.overallScore = some score)
    (hlow : ¬fusion.confidence.lt (.finite settings.pipelineMinConfidencePct) = true) :
    let evaluated := MomentumStateEngine.evaluate settings symbol score (evidenceOf fusion) moment
      environment.createdAt environment.evaluationFault w.momentum
    (evaluateOne settings moment environment symbol w).2.momentum = evaluated.2 ∧
      ∀ d, (evaluateOne settings moment environment symbol w).1 = .ok d →
        ∃ momentumResult, evaluated.1 = .ok momentumResult ∧ (d.verdict,d.reason) =
          MomentumDecisionEngine.decide settings fusion.confidence
            (momentumResult.transition.elim
              ((evaluateOne settings moment environment symbol w).2.standing symbol)
              fun t => some t.toState) := by
  intro evaluated
  unfold evaluateOne
  simp only [hfusion, hscore, if_neg hlow]
  split
  · exact ⟨rfl,fun d hd => by cases hd⟩
  · rename_i momentumResult hok
    generalize hworld : (PipelineWorld.mk _ _ _ _) = evaluatedWorld
    have hmomentum : evaluatedWorld.momentum = evaluated.2 := by rw [← hworld]
    obtain ⟨hkept,hstate⟩ := stateAfter_spec settings symbol moment environment fusion momentumResult
      evaluatedWorld
    refine ⟨hkept.trans hmomentum,fun d hd => ⟨momentumResult,hok,?_⟩⟩
    cases hafter : (stateAfter settings moment environment symbol fusion momentumResult
        evaluatedWorld).1 with
    | error e =>
      rw [hafter] at hd
      cases hd
    | ok state =>
      rw [hafter] at hd
      rw [← Except.ok.inj hd, standing_congr hkept, ← hstate state hafter]

variable (moment) in
/-- An evaluation that reaches the state engine. -/
theorem evaluates_of_strong {environment : SymbolEnvironment} {fusion : FusedSignal} (w : PipelineWorld)
    (hfusion : environment.fusion = .ok fusion) (hstrong : ¬TooWeak settings fusion) :
    Evaluates settings environment symbol w (evaluateOne settings moment environment symbol w).1
      (evaluateOne settings moment environment symbol w).2 := by
  obtain ⟨hsome,hlow⟩ := not_or.mp hstrong
  obtain ⟨score,hscore⟩ := Option.ne_none_iff_exists'.mp hsome
  obtain ⟨hmomentum,hverdict⟩ := evaluateOne_strong symbol moment w hfusion hscore hlow
  have hsymbols := evaluate_symbols settings symbol score (evidenceOf fusion) moment
    environment.createdAt environment.evaluationFault w.momentum
  have hcases := evaluate_cases settings symbol score (evidenceOf fusion) moment
    environment.createdAt environment.evaluationFault w.momentum
  generalize MomentumStateEngine.evaluate settings symbol score (evidenceOf fusion) moment
    environment.createdAt environment.evaluationFault w.momentum = evaluated at *
  generalize evaluateOne settings moment environment symbol w = result at *
  refine ⟨?_,fun other hother => ?_,fun fusion' hok hweak => ?_,fun fusion' hok _ d hd => ?_⟩
  · rw [hmomentum, hsymbols]
  · rw [hmomentum]
    rcases hcases with rfl | ⟨e,rfl⟩ | ⟨symbolId,transitionId,transition,hknown,hstore,halerts,-⟩
    · exact .refl other _
    · exact .refl other _
    · have hne : other ≠ symbolId := (hother _ hknown).symm
      exact untouched_applyTransition hne transition hstore (halerts other hne)
  · rw [hfusion] at hok
    obtain rfl := Except.ok.inj hok
    exact absurd hweak hstrong
  · rw [hfusion] at hok
    obtain rfl := Except.ok.inj hok
    obtain ⟨momentumResult,hresult,heq⟩ := hverdict d hd
    rw [heq]
    congr 1
    rcases hcases with rfl | ⟨e,rfl⟩ | ⟨symbolId,transitionId,transition,hknown,hstore,-,hended⟩
    · rw [← Except.ok.inj hresult]
      rfl
    · cases hresult
    · rcases hended with ⟨e,he⟩ | ⟨alertId,hok'⟩
      · rw [he] at hresult
        cases hresult
      · rw [hok'] at hresult
        rw [← Except.ok.inj hresult, Option.elim_some, PipelineWorld.standing, hmomentum, hsymbols,
          hknown]
        dsimp only
        rw [hstore, pointer_applyTransition, if_pos rfl]

theorem evaluateOne_evaluates (settings : Settings) (moment : DateTime)
    (environment : SymbolEnvironment) (symbol : String) (w : PipelineWorld) :
    Evaluates settings environment symbol w (evaluateOne settings moment environment symbol w).1
      (evaluateOne settings moment environment symbol w).2 := by
  cases hfusion : environment.fusion with
  | error e =>
    have hresult : evaluateOne settings moment environment symbol w = (.error e,w) := by
      simp only [evaluateOne, hfusion]
    rw [hresult]
    refine ⟨rfl,fun other _ => .refl other _,fun fusion hok => ?_,fun fusion hok => ?_⟩
    all_goals
      rw [hfusion] at hok
      cases hok
  | ok fusion =>
    by_cases hweak : TooWeak settings fusion
    · obtain ⟨d,hresult,hverdict⟩ := evaluateOne_weak symbol moment w hfusion hweak
      rw [hresult]
      refine ⟨rfl,fun other _ => .refl other _,fun _ _ _ => ⟨rfl,d,rfl,hverdict⟩,
        fun fusion' hok hstrong => ?_⟩
      rw [hfusion] at hok
      obtain rfl := Except.ok.inj hok
      exact absurd hweak hstrong
    · exact evaluates_of_strong moment w hfusion hweak

end Step

/-! ### A run -/
namespace MomentumPipelineCoordinator

/-- An evaluation ended in a verdict. -/
def Evaluation.endedIn (verdict : PipelineVerdict) (e : Evaluation) : Bool :=
  e.outcome.toOption.any fun d => d.verdict == verdict

/-- A TRIGGER with an alert of its own. -/
def Evaluation.alerted (e : Evaluation) : Bool :=
  e.outcome.toOption.any fun d => d.verdict == .trigger && d.alertId.isSome

/-- What an evaluation is reported with among the errors. -/
def Evaluation.error? (e : Evaluation) : Option (String × PyException) :=
  match e.outcome with
  | .error exception => some (e.symbol,exception)
  | .ok _ => none

/-- The counters say how the evaluations ended. -/
structure Tallies (evaluations : List Evaluation) (result : PipelineRunResult) : Prop where
  evaluated : result.candidatesEvaluated = evaluations.length
  trigger : result.triggerCount = (evaluations.filter (·.endedIn .trigger)).length
  watch : result.watchCount = (evaluations.filter (·.endedIn .watch)).length
  reject : result.rejectCount = (evaluations.filter (·.endedIn .reject)).length
  invalidate : result.invalidateCount = (evaluations.filter (·.endedIn .invalidate)).length
  alerts : result.alertsCreated = (evaluations.filter Evaluation.alerted).length
  errors : result.errors = evaluations.filterMap Evaluation.error?

/-- The counters with one more evaluation. -/
def counted (result : PipelineRunResult) (e : Evaluation) : PipelineRunResult :=
  count { result with candidatesEvaluated := result.candidatesEvaluated+1 } e.symbol e.outcome

/-- A counter that goes up by one for some evaluations counts these. -/
theorem foldl_counted (field : PipelineRunResult → ℕ) {p : Evaluation → Bool}
    (h : ∀ result e, field (counted result e) = field result+if p e then 1 else 0)
    (evaluations : List Evaluation) (hzero : field {} = 0) :
    field (evaluations.foldl counted {}) = (evaluations.filter p).length := by
  rw [foldl_of_additive field (fun e => if p e then 1 else 0) fun result e _ => h result e,
    sum_map_eq_length_filter fun _ _ => rfl, hzero, Nat.zero_add]

theorem errors_foldl_counted (evaluations : List Evaluation) (result : PipelineRunResult) :
    (evaluations.foldl counted result).errors =
      result.errors ++ evaluations.filterMap Evaluation.error? := by
  induction evaluations generalizing result with
  | nil => exact (List.append_nil _).symm
  | cons e rest ih =>
    rw [List.foldl_cons, ih, List.filterMap_cons]
    obtain ⟨symbol,before,outcome,after⟩ := e
    cases outcome with
    | error exception => exact List.append_assoc _ _ _
    | ok d =>
      obtain ⟨_,verdict,_⟩ := d
      cases verdict <;> rfl

theorem tallies_foldl (evaluations : List Evaluation) :
    Tallies evaluations (evaluations.foldl counted {}) := by
  have hfield : ∀ (field : PipelineRunResult → ℕ) (p : Evaluation → Bool),
      (∀ result e, field (counted result e) = field result+if p e then 1 else 0) → field {} = 0 →
        field (evaluations.foldl counted {}) = (evaluations.filter p).length :=
    fun field p h hzero => foldl_counted field h evaluations hzero
  refine ⟨?_,hfield _ _ ?_ rfl,hfield _ _ ?_ rfl,hfield _ _ ?_ rfl,hfield _ _ ?_ rfl,hfield _ _ ?_ rfl,
    errors_foldl_counted evaluations {}⟩
  · rw [hfield PipelineRunResult.candidatesEvaluated (fun _ => true) ?_ rfl, List.filter_true]
    rintro result ⟨symbol,before,_ | ⟨_,verdict,_⟩,after⟩
    · rfl
    · cases verdict <;> rfl
  all_goals
    rintro result ⟨symbol,before,_ | ⟨_,verdict,_⟩,after⟩
    · rfl
    · cases verdict <;> rfl

/-- Every evaluation ends in one of the four verdicts or in an error. -/
theorem length_eq_sum (evaluations : List Evaluation) :
    evaluations.length = (evaluations.filter (·.endedIn .trigger)).length+
      (evaluations.filter (·.endedIn .watch)).length+(evaluations.filter (·.endedIn .reject)).length+
      (evaluations.filter (·.endedIn .invalidate)).length+
      (evaluations.filterMap Evaluation.error?).length := by
  induction evaluations with
  | nil => rfl
  | cons e rest ih =>
    obtain ⟨symbol,before,outcome,after⟩ := e
    rw [List.length_cons, ih]
    cases outcome with
    | error exception =>
      simp [Evaluation.endedIn, Evaluation.error?, Except.toOption, Nat.add_assoc]
    | ok d =>
      obtain ⟨_,verdict,_⟩ := d
      cases verdict <;>
        simp +arith [Evaluation.endedIn, Evaluation.error?, Except.toOption, List.filterMap_cons]

/-- The total is that of the verdicts and errors. -/
theorem Tallies.total {evaluations : List Evaluation} {result : PipelineRunResult}
    (h : Tallies evaluations result) : result.candidatesEvaluated =
      result.triggerCount+result.watchCount+result.rejectCount+result.invalidateCount+
        result.errors.length := by
  rw [h.evaluated, h.trigger, h.watch, h.reject, h.invalidate, h.errors]
  exact length_eq_sum evaluations

section Run
variable [Builtins] {settings : Settings} {moment : DateTime} {symbols : List Symbol}
  {environment : String → SymbolEnvironment}

/-- The names of the symbols that rows are about, where they are known. -/
def namesOf (symbols : List Symbol) (rows : List (Row ScannerResult)) : List String :=
  rows.filterMap fun r => SymbolRepository.nameOf symbols r.val.symbolId

variable (settings moment symbols environment) in
/-- What the loop does over some rows: evaluations of the new names among theirs, counted one by one. -/
theorem foldl_turn (rows : List (Row ScannerResult)) (st : RunState) :
    let final := rows.foldl (turn settings moment symbols environment) st
    ∃ es, final.evaluations = st.evaluations ++ es ∧ Chained st.world es final.world ∧
      final.result = es.foldl counted st.result ∧
      es.map Evaluation.symbol =
        Sieve.firsts id (fun _ => true) st.seenSymbols (namesOf symbols rows) ∧
      ∀ e ∈ es, evaluateOne settings moment (environment e.symbol) e.symbol e.before =
        (e.outcome,e.after) := by
  induction rows generalizing st with
  | nil => exact ⟨[],(List.append_nil _).symm,.done,rfl,rfl,by simp⟩
  | cons r rest ih =>
    rw [List.foldl_cons, turn, namesOf, List.filterMap_cons]
    cases hname : SymbolRepository.nameOf symbols r.val.symbolId with
    | none => exact ih st
    | some symbolName =>
      dsimp only
      rw [Sieve.firsts]
      by_cases hseen : symbolName ∈ st.seenSymbols
      · rw [if_pos hseen, if_pos (show id symbolName ∈ st.seenSymbols from hseen)]
        exact ih st
      · rw [if_neg hseen, if_neg (show id symbolName ∉ st.seenSymbols from hseen), if_pos rfl]
        cases hevaluated : evaluateOne settings moment (environment symbolName) symbolName st.world with
        | mk outcome world =>
          let e : Evaluation := ⟨symbolName,st.world,outcome,world⟩
          obtain ⟨es,hevaluations,hchained,hresult,hnames,hevery⟩ :=
            ih ⟨counted st.result e,symbolName::st.seenSymbols,st.evaluations ++ [e],world⟩
          refine ⟨e::es,?_,Chained.next (e := e) hchained,hresult,?_,List.forall_mem_cons.mpr ⟨hevaluated,hevery⟩⟩
          · exact hevaluations.trans (List.append_assoc _ _ _)
          · rw [List.map_cons, hnames]
            rfl

omit [Builtins] in
/-- Evaluations of other symbols leave a symbol untouched, and so do those that leave everything. -/
theorem untouched_of_chained {w w' : PipelineWorld} {es : List Evaluation} {symbolId : ℕ}
    (h : Chained w es w')
    (hevery : ∀ e ∈ es, Evaluates settings (environment e.symbol) e.symbol e.before e.outcome e.after)
    (hown : ∀ e ∈ es, ∀ row, SymbolRepository.getBySymbol w.momentum.symbols e.symbol = .ok (some row) →
      row.id = symbolId → e.after = e.before) :
    Untouched symbolId w.momentum w'.momentum := by
  induction h with
  | done => exact .refl symbolId _
  | @next e es w' rest ih =>
    obtain ⟨hfirst,hrest⟩ := List.forall_mem_cons.mp hevery
    obtain ⟨hown₁,hown₂⟩ := List.forall_mem_cons.mp hown
    have htail := ih hrest (by rwa [hfirst.symbols])
    by_cases hsame : e.after = e.before
    · rwa [hsame] at htail
    · exact (hfirst.others symbolId fun row hrow hid => hsame (hown₁ row hrow hid)).trans htail

omit [Builtins] in
/-- Names determine the rows that carry them, as ids do. -/
theorem name_eq_of_id {w : PipelineWorld} {name name' : String} {row row' : Symbol}
    (h : SymbolRepository.getBySymbol w.momentum.symbols name = .ok (some row))
    (h' : SymbolRepository.getBySymbol w.momentum.symbols name' = .ok (some row'))
    (hid : row.id = row'.id) : name = name' := by
  obtain ⟨hmem,rfl⟩ := SymbolRepository.getBySymbol_some h
  obtain ⟨hmem',rfl⟩ := SymbolRepository.getBySymbol_some h'
  rw [List.inj_on_of_nodup_map w.keyed hmem hmem' hid]

/-- The account of a run. `environment` says of each symbol what its evaluation meets. -/
structure RunAccounted (settings : Settings) (moment : DateTime)
    (environment : String → SymbolEnvironment) (rows : List (Row ScannerResult)) (w : PipelineWorld)
    (st : RunState) : Prop where
  /-- The evaluations follow one another from the tables at the start to those at the end. -/
  chained : Chained w st.evaluations st.world
  evaluated : ∀ e ∈ st.evaluations,
    evaluateOne settings moment (environment e.symbol) e.symbol e.before = (e.outcome,e.after)
  once : (st.evaluations.map Evaluation.symbol).Nodup
  candidates : ∀ name, name ∈ st.evaluations.map Evaluation.symbol ↔
    ∃ r ∈ rows, SymbolRepository.nameOf w.momentum.symbols r.val.symbolId = some name
  total : st.result.candidatesEvaluated =
    st.result.triggerCount+st.result.watchCount+st.result.rejectCount+st.result.invalidateCount+
      st.result.errors.length
  tallies : Tallies st.evaluations st.result
  /-- A rejection of a weak fusion writes nothing, and the run leaves the symbol as it was. -/
  rejected : ∀ e ∈ st.evaluations, ∀ fusion, (environment e.symbol).fusion = .ok fusion →
    TooWeak settings fusion →
      (∃ d, e.outcome = .ok d ∧ d.verdict = .reject) ∧ e.after = e.before ∧
        ∀ row, SymbolRepository.getBySymbol w.momentum.symbols e.symbol = .ok (some row) →
          Untouched row.id w.momentum st.world.momentum
  verdict : ∀ e ∈ st.evaluations, ∀ fusion, (environment e.symbol).fusion = .ok fusion →
    ¬TooWeak settings fusion → ∀ d, e.outcome = .ok d → (d.verdict,d.reason) =
      MomentumDecisionEngine.decide settings fusion.confidence (e.after.standing e.symbol)

theorem runAll_accounted (settings : Settings) (moment : DateTime)
    (environment : String → SymbolEnvironment) (scan : ScanOrder (Row ScannerResult))
    (results : ScannerResults) (w : PipelineWorld) :
    RunAccounted settings moment environment (qualified scan results) w
      (runAll settings moment environment scan results w) := by
  obtain ⟨es,hevaluations,hchained,hresult,hnames,hevery⟩ :=
    foldl_turn settings moment w.momentum.symbols environment (qualified scan results) ⟨{},[],[],w⟩
  have hspec : ∀ e ∈ es,
      Evaluates settings (environment e.symbol) e.symbol e.before e.outcome e.after := by
    intro e he
    have heval := evaluateOne_evaluates settings moment (environment e.symbol) e.symbol e.before
    rwa [hevery e he] at heval
  have hnodup : (es.map Evaluation.symbol).Nodup := by
    rw [hnames, ← List.map_id (Sieve.firsts _ _ _ _)]
    exact Sieve.nodup_keys_firsts _ _
  have htallies : Tallies es (runAll settings moment environment scan results w).result := by
    rw [runAll, hresult]
    exact tallies_foldl es
  rw [List.nil_append] at hevaluations
  have hall : (runAll settings moment environment scan results w).evaluations = es := hevaluations
  constructor
  case chained => rw [hall]; exact hchained
  case evaluated => rw [hall]; exact hevery
  case once => rw [hall]; exact hnodup
  case total => exact htallies.total
  case tallies => rw [hall]; exact htallies
  case candidates =>
    intro name
    rw [hall, hnames, ← List.map_id (Sieve.firsts _ _ _ _), Sieve.mem_keys_firsts]
    simp [namesOf]
  case rejected =>
    rw [hall]
    intro e he fusion hfusion hweak
    obtain ⟨hsame,hrejected⟩ := (hspec e he).weak fusion hfusion hweak
    refine ⟨hrejected,hsame,fun row hrow => ?_⟩
    refine untouched_of_chained hchained hspec fun e' he' row' hrow' hid => ?_
    have heq : e' = e := List.inj_on_of_nodup_map hnodup he' he (name_eq_of_id hrow' hrow hid)
    rw [heq]
    exact hsame
  case verdict =>
    rw [hall]
    exact fun e he => (hspec e he).verdict

end Run

end MomentumPipelineCoordinator
end MarketScanner.Momentum
