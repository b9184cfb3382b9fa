import MarketScanner.Market.Intraday
import MarketScanner.Momentum.Engine
import MarketScanner.Momentum.Observations
import MarketScanner.Scanner.Repository
import MarketScanner.Signals.Fusion

/-! `MomentumPipelineCoordinator.run_all`: every qualified symbol once through the fusion, the momentum
state engine and the verdict, one symbol's failure isolated from the others. -/
namespace MarketScanner.Momentum
open MarketScanner.Library MarketScanner.Python MarketScanner.Config MarketScanner.Market
open MarketScanner.Scanner MarketScanner.Signals

inductive PipelineVerdict
  | trigger | watch | reject | invalidate
  deriving DecidableEq, Repr

def statusValue : DataStatus → String
  | .available => "AVAILABLE"
  | .neutral => "NEUTRAL"
  | .missing => "MISSING"

/-- What a component of a fusion hands on. -/
structure FusedComponent where
  status : DataStatus
  score : Option PyFloat
  weight : PyFloat
  reasons : List String

/-- What `SignalFusionEngine.compute` hands the coordinator, with any floats for its numbers. -/
structure FusedSignal where
  overallScore : Option PyFloat
  confidence : PyFloat
  positiveFactors : List String := []
  negativeFactors : List String := []
  missingData : List String := []
  componentScores : List (String × FusedComponent) := []

structure PipelineDecisionResult where
  symbol : String
  verdict : PipelineVerdict
  reason : String
  momentumState : Option MomentumState
  signalScore : Option PyFloat
  confidence : PyFloat
  alertId : Option ℕ
  timestamp : DateTime

/-- The counters of a run; an error is kept with the symbol it is reported for. -/
structure PipelineRunResult where
  candidatesEvaluated : ℕ := 0
  triggerCount : ℕ := 0
  watchCount : ℕ := 0
  rejectCount : ℕ := 0
  invalidateCount : ℕ := 0
  alertsCreated : ℕ := 0
  errors : List (String × PyException) := []

/-- The text for a confidence below the minimum. -/
def lowConfidenceReason (settings : Settings) (confidence : PyFloat) : String :=
  "confidence=" ++ confidence.format2 ++ "% below minimum (" ++
    (PyFloat.finite settings.pipelineMinConfidencePct).format2 ++ "%)"

namespace MomentumDecisionEngine

/-- `_INVALIDATED_STATES` -/
def invalidatedStates : List MomentumState := [.invalidated,.exhausted]

def decide (settings : Settings) (confidence : PyFloat) (momentumState : Option MomentumState) :
    PipelineVerdict × String :=
  if confidence.lt (.finite settings.pipelineMinConfidencePct) then
    (.reject,lowConfidenceReason settings confidence)
  else
    match momentumState with
    | none => (.reject,"no momentum state available")
    | some state =>
      if alertWorthyStates.contains state then (.trigger,"momentum state is " ++ state.value)
      else if invalidatedStates.contains state then (.invalidate,"momentum state is " ++ state.value)
      else (.watch,"momentum state is " ++ state.value)

end MomentumDecisionEngine

/-- The tables of the pipeline. The ids of the symbols are a primary key. -/
structure PipelineWorld where
  momentum : MomentumWorld
  observations : MomentumAlertObservations
  intraday : IntradayPrices
  keyed : (momentum.symbols.map Symbol.id).Nodup

/-- What the evaluation of one symbol meets: its fusion or what that raises, the database clock, and the
sessions that raise. -/
structure SymbolEnvironment where
  fusion : Except PyException FusedSignal
  createdAt : DateTime
  evaluationFault : Option EvaluationFault := none
  observationFault : Bool := false
  currentStateFault : Bool := false

namespace MomentumPipelineCoordinator

/-- The list of texts as a value. -/
def strings (texts : List String) : PyValue := .list (texts.map PyValue.str)

/-- A score as a value. -/
def scoreValue (score : Option PyFloat) : PyValue := score.elim .none .float

/-- The evidence that `_evaluate_one` puts together. -/
def evidenceOf (fusion : FusedSignal) : Dict :=
  [("overall_score",scoreValue fusion.overallScore),
    ("confidence",.float fusion.confidence),
    ("positive_factors",strings fusion.positiveFactors),
    ("negative_factors",strings fusion.negativeFactors),
    ("missing_data",strings fusion.missingData),
    ("component_scores",.dict (fusion.componentScores.map fun (name,component) =>
      (name,.dict [("status",.str (statusValue component.status)),
        ("score",scoreValue component.score),
        ("weight",.float component.weight),
        ("reasons",strings component.reasons)])))]

/-- `get_latest_intraday`; the query answers the same whatever the scan. -/
def getLatestIntraday (t : IntradayPrices) (symbolId : ℕ) : Option (Row IntradayPrice) :=
  (t.newestFirst (ScanOrder.insertion _) symbolId).head?

/-- The row that `_record_observation` writes. -/
def newObservation (settings : Settings) (symbolId transitionId : ℕ) (alertId : Option ℕ)
    (momentumState : MomentumState) (score confidence : PyFloat) (moment : DateTime)
    (latestIntraday : Option (Row IntradayPrice)) : NewObservation :=
  let asOfDataAt := latestIntraday.map fun row => row.val.bar.timestamp
  let dataAgeSeconds := asOfDataAt.map fun asOf => ((moment.utc-asOf.utc : ℤ) : ℚ)/1000000
  { transitionId, symbolId, alertId, momentumState := momentumState.value, triggerAt := moment,
    signalScore := score.round2, signalConfidence := some confidence.round2, asOfDataAt,
    dataAgeSeconds,
    isStale := dataAgeSeconds.any fun age =>
      Decidable.decide (settings.momentumObservationStaleDataThresholdSeconds < age),
    priceAtTrigger := latestIntraday.bind fun row => row.val.bar.close }

/-- `_record_observation` -/
def recordObservation (settings : Settings) (environment : SymbolEnvironment) (symbol : String)
    (transitionId : ℕ) (alertId : Option ℕ) (momentumState : MomentumState) (score : Option PyFloat)
    (confidence : PyFloat) (moment : DateTime) (w : PipelineWorld) : Except PyException PipelineWorld :=
  match score with
  | none => .ok w
  | some score =>
    if environment.observationFault then .error .environment
    else
      match SymbolRepository.getBySymbol w.momentum.symbols symbol with
      | .error e => .error e
      | .ok none => .ok w
      | .ok (some symbolRow) =>
        (MomentumAlertObservationRepository.insert w.observations
          (newObservation settings symbolRow.id transitionId alertId momentumState score confidence
            moment (getLatestIntraday w.intraday symbolRow.id))).map fun observations =>
              { w with observations }

/-- The session that reads where a symbol stands that has not moved. -/
def currentState (environment : SymbolEnvironment) (symbol : String) (w : MomentumWorld) :
    Except PyException (Option MomentumState) :=
  if environment.currentStateFault then .error .environment
  else (SymbolRepository.getBySymbol w.symbols symbol).map fun symbolRow =>
    MomentumStateRepository.stateOf (symbolRow.bind fun row =>
      MomentumStateRepository.getCurrent w.momentum row.id)

section Evaluation
variable [Builtins] (settings : Settings) (moment : DateTime)

/-- The state after the engine has been through, recorded where it is worth an alert. -/
def stateAfter (environment : SymbolEnvironment) (symbol : String) (fusion : FusedSignal)
    (momentumResult : MomentumEvaluationResult) (w : PipelineWorld) :
    Except PyException (Option MomentumState) × PipelineWorld :=
  match momentumResult.transition, momentumResult.transitionId with
  | none, _ => (currentState environment symbol w.momentum,w)
  | some transition, none => (.ok (some transition.toState),w)
  | some transition, some transitionId =>
    if alertWorthyStates.contains transition.toState then
      match recordObservation settings environment symbol transitionId momentumResult.alertId
          transition.toState fusion.overallScore fusion.confidence moment w with
      | .error e => (.error e,w)
      | .ok recorded => (.ok (some transition.toState),recorded)
    else (.ok (some transition.toState),w)

/-- An evaluation changes no symbol. -/
theorem evaluate_symbols (symbol : String) (score : PyFloat) (evidence : Dict)
    (moment createdAt : DateTime) (fault : Option EvaluationFault) (w : MomentumWorld) :
    (MomentumStateEngine.evaluate settings symbol score evidence moment createdAt fault w).2.symbols =
      w.symbols := by
  unfold MomentumStateEngine.evaluate
  split
  · rfl
  · rfl
  · dsimp only
    split <;> rfl

/-- `_evaluate_one` -/
def evaluateOne (environment : SymbolEnvironment) (symbol : String) (w : PipelineWorld) :
    Except PyException PipelineDecisionResult × PipelineWorld :=
  match environment.fusion with
  | .error e => (.error e,w)
  | .ok fusion =>
    let result (verdict : PipelineVerdict × String) (momentumState : Option MomentumState)
        (alertId : Option ℕ) : PipelineDecisionResult :=
      { symbol, verdict := verdict.1, reason := verdict.2, momentumState,
        signalScore := fusion.overallScore, confidence := fusion.confidence, alertId,
        timestamp := moment }
    match fusion.overallScore with
    | none => (.ok (result (.reject,"no signal fusion evidence available at all") none none),w)
    | some score =>
      if fusion.confidence.lt (.finite settings.pipelineMinConfidencePct) then
        (.ok (result (.reject,lowConfidenceReason settings fusion.confidence) none none),w)
      else
        let evaluated := MomentumStateEngine.evaluate settings symbol score (evidenceOf fusion) moment
          environment.createdAt environment.evaluationFault w.momentum
        let evaluatedWorld : PipelineWorld :=
          { w with
            momentum := evaluated.2
            keyed := by
              rw [evaluate_symbols]
              exact w.keyed }
        match evaluated.1 with
        | .error e => (.error e,evaluatedWorld)
        | .ok momentumResult =>
          let (momentumState,recordedWorld) := stateAfter settings moment environment symbol fusion
            momentumResult evaluatedWorld
          (momentumState.map fun momentumState =>
            result (MomentumDecisionEngine.decide settings fusion.confidence momentumState)
              momentumState momentumResult.alertId,recordedWorld)

/-- Count what an evaluation ended in. -/
def count (result : PipelineRunResult) (symbolName : String) :
    Except PyException PipelineDecisionResult → PipelineRunResult
  | .error e => { result with errors := result.errors ++ [(symbolName,e)] }
  | .ok decision =>
    match decision.verdict with
    | .trigger =>
      { result with
        triggerCount := result.triggerCount+1
        alertsCreated := result.alertsCreated+if decision.alertId.isSome then 1 else 0 }
    | .watch => { result with watchCount := result.watchCount+1 }
    | .reject => { result with rejectCount := result.rejectCount+1 }
    | .invalidate => { result with invalidateCount := result.invalidateCount+1 }

/-- An evaluation of a run: the tables before it, what it ended in, the tables after it. -/
structure Evaluation where
  symbol : String
  before : PipelineWorld
  outcome : Except PyException PipelineDecisionResult
  after : PipelineWorld

/-- Where the loop stands, with its evaluations so far: a history no step reads. -/
structure RunState where
  result : PipelineRunResult
  seenSymbols : List String
  evaluations : List Evaluation
  world : PipelineWorld

/-- The loop body for one scanner result. -/
def turn (symbols : List Symbol) (environment : String → SymbolEnvironment) (st : RunState)
    (r : Row ScannerResult) : RunState :=
  match SymbolRepository.nameOf symbols r.val.symbolId with
  | none => st
  | some symbolName =>
    if symbolName ∈ st.seenSymbols then st
    else
      let result := { st.result with candidatesEvaluated := st.result.candidatesEvaluated+1 }
      let (outcome,world) := evaluateOne settings moment (environment symbolName) symbolName st.world
      { result := count result symbolName outcome
        seenSymbols := symbolName::st.seenSymbols
        evaluations := st.evaluations ++ [⟨symbolName,st.world,outcome,world⟩]
        world }

omit [Builtins] in
/-- The rows that `run_all` looks at, in its order. -/
def qualified (scan : ScanOrder (Row ScannerResult)) (results : ScannerResults) :
    List (Row ScannerResult) :=
  ScannerResultRepository.listResults scan results none (some .qualified) 5000

def runAll (environment : String → SymbolEnvironment) (scan : ScanOrder (Row ScannerResult))
    (results : ScannerResults) (w : PipelineWorld) : RunState :=
  (qualified scan results).foldl (turn settings moment w.momentum.symbols environment) ⟨{},[],[],w⟩

end Evaluation

end MomentumPipelineCoordinator
end MarketScanner.Momentum
