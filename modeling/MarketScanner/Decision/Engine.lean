import MarketScanner.Decision.Rules
import MarketScanner.Market.Symbols
import MarketScanner.Scanner.Repository
import MarketScanner.Alerts.Lifecycle

/-! `DecisionEngine.run_all`: every qualified scanner result through the evaluator, ALERT decisions
to the alert manager, one candidate's failure isolated from the others. -/
namespace MarketScanner.Decisions
open MarketScanner.Library MarketScanner.Python MarketScanner.Config MarketScanner.Market
open MarketScanner.Scanner MarketScanner.Alerts MarketScanner.Notifications

/-- The counters of a run; an error is kept with the symbol it is reported for. -/
structure DecisionEngineResult where
  candidatesEvaluated : ℕ := 0
  alertsCreated : ℕ := 0
  watchCount : ℕ := 0
  rejectCount : ℕ := 0
  errors : List (String × PyException) := []

/-- The database clock and the failure, if any, that a call of `process` meets. -/
structure CallEnvironment where
  createdAt : DateTime
  fault : Option ProcessFault

/-- A call of `process`: the scanner result it is about, what it returned, whether it left a row. -/
structure ProcessCall where
  row : ScannerResult
  outcome : Except PyException (Option ℕ)
  created : Bool

namespace DecisionEngine

def candidateOf (symbolName : String) (r : ScannerResult) : DecisionCandidate where
  symbol := symbolName
  scannerName := r.scannerName
  signalType := deriveSignalType r.scannerName
  score := r.score.toFloat
  scanDate := r.date
  featureSnapshot := r.featureSnapshot

/-- Where the loop of `run_all` stands: its counters, its calls so far, the alert tables. -/
structure RunState where
  result : DecisionEngineResult
  calls : List ProcessCall
  world : AlertWorld

section Run
variable [Builtins] (settings : Settings) (symbols : List Symbol) (now : DateTime)
  (environment : ℕ → CallEnvironment)

omit [Builtins] in
/-- Count what a call of `process` returned. -/
def countOutcome (result : DecisionEngineResult) (symbolName : String) :
    Except PyException (Option ℕ) → DecisionEngineResult
  | .ok (some _) => { result with alertsCreated := result.alertsCreated+1 }
  | .ok none => result
  | .error e => { result with errors := result.errors ++ [(symbolName,e)] }

/-- The loop body for one scanner result. -/
def evaluateOne (st : RunState) (r : Row ScannerResult) : RunState :=
  match SymbolRepository.nameOf symbols r.val.symbolId with
  | none => st
  | some symbolName =>
    let result := { st.result with candidatesEvaluated := st.result.candidatesEvaluated+1 }
    match DecisionEvaluator.evaluate settings (candidateOf symbolName r.val) now with
    | .error e => { st with result := { result with errors := result.errors ++ [(symbolName,e)] } }
    | .ok decision =>
      match decision.decision with
      | .alert =>
        let (outcome,world) := AlertManager.processImpl settings decision r.val.symbolId now
          (environment r.id).createdAt (environment r.id).fault st.world
        { result := countOutcome result symbolName outcome
          calls := st.calls ++
            [⟨r.val,outcome,decide (st.world.store.alerts.nextId < world.store.alerts.nextId)⟩]
          world := world }
      | .watch => { st with result := { result with watchCount := result.watchCount+1 } }
      | .reject => { st with result := { result with rejectCount := result.rejectCount+1 } }

/-- The limit that `run_all` passes to `list_results`. -/
def resultLimit : ℕ := 5000

omit [Builtins] in
/-- The rows that `run_all` looks at, in its order. -/
def qualified (scan : ScanOrder (Row ScannerResult)) (results : ScannerResults) :
    List (Row ScannerResult) :=
  ScannerResultRepository.listResults scan results none (some .qualified) resultLimit

def runAll (scan : ScanOrder (Row ScannerResult)) (results : ScannerResults) (w : AlertWorld) :
    RunState :=
  (qualified scan results).foldl (evaluateOne settings symbols now environment) ⟨{},[],w⟩

/-- The loop calls `process` for a row: its symbol is known, its candidate is decided on and becomes an
ALERT. -/
def isHanded (r : Row ScannerResult) : Bool :=
  match SymbolRepository.nameOf symbols r.val.symbolId with
  | none => false
  | some symbolName =>
    match DecisionEvaluator.evaluate settings (candidateOf symbolName r.val) now with
    | .error _ => false
    | .ok decision => decision.decision == .alert

theorem evaluateOne_calls (st : RunState) (r : Row ScannerResult) :
    (evaluateOne settings symbols now environment st r).calls.map ProcessCall.row =
      st.calls.map ProcessCall.row ++ if isHanded settings symbols now r then [r.val] else [] := by
  unfold evaluateOne isHanded
  cases SymbolRepository.nameOf symbols r.val.symbolId with
  | none => simp
  | some symbolName =>
    cases hevaluate : DecisionEvaluator.evaluate settings (candidateOf symbolName r.val) now with
    | error e => simp [hevaluate]
    | ok decision =>
      simp only [hevaluate]
      split
      case h_1 halert => simp [halert]
      case h_2 hwatch => simp [hwatch]
      case h_3 hreject => simp [hreject]

theorem foldl_calls (rows : List (Row ScannerResult)) (st : RunState) :
    (rows.foldl (evaluateOne settings symbols now environment) st).calls.map ProcessCall.row =
      st.calls.map ProcessCall.row ++
        (rows.filter (isHanded settings symbols now)).map Row.val := by
  induction rows generalizing st with
  | nil => simp
  | cons r rows ih =>
    rw [List.foldl_cons, ih, evaluateOne_calls, List.filter_cons]
    by_cases hr : isHanded settings symbols now r = true
    · simp [hr]
    · simp [hr]

/-- The rows handed to `process`, in order, are the qualified ones that become ALERTs. -/
theorem runAll_calls (scan : ScanOrder (Row ScannerResult)) (results : ScannerResults)
    (w : AlertWorld) :
    (runAll settings symbols now environment scan results w).calls.map ProcessCall.row =
      ((qualified scan results).filter (isHanded settings symbols now)).map Row.val := by
  rw [runAll, foldl_calls]
  rfl

theorem isHanded_iff {r : Row ScannerResult} :
    isHanded settings symbols now r = true ↔
      ∃ symbolName, SymbolRepository.nameOf symbols r.val.symbolId = some symbolName ∧
        ∀ rule ∈ rules, Gives (rule (candidateOf symbolName r.val) settings now) .pass := by
  unfold isHanded
  cases SymbolRepository.nameOf symbols r.val.symbolId with
  | none => simp
  | some symbolName =>
    simp only [Option.some.injEq, exists_eq_left', ← DecisionEvaluator.exists_alert_iff]
    cases DecisionEvaluator.evaluate settings (candidateOf symbolName r.val) now with
    | error e => simp
    | ok decision => simp

end Run
end DecisionEngine

/-- The tables of the engine, with the calls it has made of `process`: a history no step reads. -/
structure EngineWorld where
  symbols : List Symbol
  results : ScannerResults
  system : SystemState
  calls : List ProcessCall

/-- A scanner writes a result, the engine runs, or the alert system takes a step of its own. -/
inductive EngineAction
  | upsert (value : ScannerResult)
  | runAll (settings : Settings) (scan : ScanOrder (Row ScannerResult)) (now : DateTime)
      (environment : ℕ → CallEnvironment)
  | system (settings : Settings) (router : NotificationRouter) (action : SystemAction)

def engineStep [Builtins] (w : EngineWorld) : EngineAction → Option EngineWorld
  | .upsert value =>
    some { w with results := ScannerResultRepository.upsert w.results value }
  | .runAll settings scan now environment =>
    let st := DecisionEngine.runAll settings w.symbols now environment scan w.results w.system.world
    some { w with
      system := { w.system with world := st.world }
      calls := w.calls ++ st.calls }
  | .system settings router action =>
    (systemStep settings router w.system action).map fun system => { w with system }

def engineMachine [Builtins] : Machine EngineWorld EngineAction := ⟨engineStep⟩

end MarketScanner.Decisions
