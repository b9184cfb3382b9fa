import MarketScanner.Market.Symbols
import MarketScanner.Momentum.StateMachine
import MarketScanner.Alerts.Lifecycle

/-! `MomentumStateEngine.evaluate` over its tables: the pointer and the log are written and committed
in one session, the alert is raised in another one after it. -/
namespace MarketScanner.Momentum
open MarketScanner.Library MarketScanner.Python MarketScanner.Config MarketScanner.Core
open MarketScanner.Decisions MarketScanner.Alerts MarketScanner.Notifications MarketScanner.Market

structure StateTransition where
  symbol : String
  fromState : Option MomentumState
  toState : MomentumState
  timestamp : DateTime
  reason : String
  score : PyFloat
  evidence : Dict

/-- A row of `momentum_states`. -/
structure MomentumStateRecord where
  state : MomentumState
  score : PyFloat
  reason : String
  evidence : Dict
  enteredAt : DateTime

/-- A row of `momentum_state_transitions`. -/
structure MomentumStateTransition where
  symbolId : ℕ
  fromState : Option MomentumState
  toState : MomentumState
  timestamp : DateTime
  reason : String
  score : PyFloat
  evidence : Dict

/-- The momentum tables, with at most one pointer for each symbol. -/
structure MomentumStore where
  states : ℕ → Option MomentumStateRecord
  transitions : Table MomentumStateTransition

namespace MomentumStateRepository

def getCurrent (store : MomentumStore) (symbolId : ℕ) : Option MomentumStateRecord :=
  store.states symbolId

def stateOf (record : Option MomentumStateRecord) : Option MomentumState :=
  record.map MomentumStateRecord.state

/-- Move the pointer and append one log row; the id is the log row's. -/
def applyTransition (store : MomentumStore) (symbolId : ℕ) (transition : StateTransition) :
    ℕ × MomentumStore :=
  (store.transitions.nextId,
    { states := Function.update store.states symbolId
        (some ⟨transition.toState,transition.score,transition.reason,transition.evidence,
          transition.timestamp⟩)
      transitions := store.transitions.insert ⟨symbolId,transition.fromState,transition.toState,
        transition.timestamp,transition.reason,transition.score,transition.evidence⟩ })

end MomentumStateRepository

structure MomentumEvaluationResult where
  transition : Option StateTransition
  alertId : Option ℕ
  transitionId : Option ℕ

/-- The symbol table, the momentum tables and the alert system they share a database with. -/
structure MomentumWorld where
  symbols : List Symbol
  momentum : MomentumStore
  system : SystemState

/-- Where the environment raises inside `evaluate`: in the first session, which then rolls back, or
inside `AlertManager.process`. -/
inductive EvaluationFault
  | stateSession
  | alert (fault : ProcessFault)
  deriving DecidableEq

def EvaluationFault.processFault : Option EvaluationFault → Option ProcessFault
  | some (.alert fault) => some fault
  | _ => none

namespace MomentumStateEngine

/-- The decision that `_raise_alert` builds for a transition. -/
def alertDecision (settings : Settings) (transition : StateTransition) : DecisionResult where
  symbol := transition.symbol
  scannerName := momentumScannerName
  signalType := transition.toState.value
  decision := .alert
  score := transition.score
  quality := some (if settings.alertHighPriorityScore.le transition.score then .high else .medium)
  passedRules := [transition.reason]
  failedRules := []
  warnings := []
  ruleResults := []
  featureSnapshot :=
    [("momentum_state",.str transition.toState.value),
      ("from_state",match transition.fromState with | some state => .str state.value | none => .none),
      ("reason",.str transition.reason),("evidence",.dict transition.evidence),
      ("date",.str (toMarketTime transition.timestamp settings.marketTimezone).date.isoformat)]
  timestamp := transition.timestamp

/-- What the first session does: nothing, an exception, or a committed transition. -/
inductive StateSession
  | nothing
  | raised (e : PyException)
  | moved (symbolId transitionId : ℕ) (transition : StateTransition) (store : MomentumStore)

def stateSession (settings : Settings) (symbol : String) (score : PyFloat) (evidence : Dict)
    (moment : DateTime) (fault : Option EvaluationFault) (symbols : List Symbol)
    (store : MomentumStore) : StateSession :=
  if fault = some .stateSession then .raised .environment
  else match SymbolRepository.getBySymbol symbols symbol with
    | .error e => .raised e
    | .ok none => .nothing
    | .ok (some symbolRow) =>
      let currentState := MomentumStateRepository.stateOf
        (MomentumStateRepository.getCurrent store symbolRow.id)
      match StateMachine.evaluateTransition currentState score settings with
      | none => .nothing
      | some (nextState,reason) =>
        match StateMachine.applyTransition currentState nextState with
        | .error e => .raised e
        | .ok () =>
          let transition : StateTransition :=
            ⟨symbol,currentState,nextState,moment,reason,score,evidence⟩
          let (transitionId,moved) :=
            MomentumStateRepository.applyTransition store symbolRow.id transition
          .moved symbolRow.id transitionId transition moved

variable [Builtins]

/-- `evaluate`; `createdAt` is the database clock when an alert row is created. -/
def evaluate (settings : Settings) (symbol : String) (score : PyFloat) (evidence : Dict)
    (moment createdAt : DateTime) (fault : Option EvaluationFault) (w : MomentumWorld) :
    Except PyException MomentumEvaluationResult × MomentumWorld :=
  match stateSession settings symbol score evidence moment fault w.symbols w.momentum with
  | .nothing => (.ok ⟨none,none,none⟩,w)
  | .raised e => (.error e,w)
  | .moved symbolId transitionId transition momentum =>
    if alertWorthyStates.contains transition.toState then
      let (alertId,alerts) := AlertManager.processImpl settings (alertDecision settings transition)
        symbolId transition.timestamp createdAt (EvaluationFault.processFault fault) w.system.world
      (alertId.map fun alertId => ⟨some transition,alertId,some transitionId⟩,
        { w with momentum, system := { w.system with world := alerts } })
    else (.ok ⟨some transition,none,some transitionId⟩,{ w with momentum })

end MomentumStateEngine

/-- Evaluations of any symbols, under settings that may change from one to the next, interleaved
with the rest of the alert system. -/
inductive MomentumAction
  | evaluate (settings : Settings) (symbol : String) (score : PyFloat) (evidence : Dict)
      (moment createdAt : DateTime) (fault : Option EvaluationFault)
  | system (settings : Settings) (router : NotificationRouter) (action : SystemAction)

def momentumStep [Builtins] (w : MomentumWorld) : MomentumAction → Option MomentumWorld
  | .evaluate settings symbol score evidence moment createdAt fault =>
    some (MomentumStateEngine.evaluate settings symbol score evidence moment createdAt fault w).2
  | .system settings router action =>
    (systemStep settings router w.system action).map fun system => { w with system }

def momentumMachine [Builtins] : Machine MomentumWorld MomentumAction := ⟨momentumStep⟩

section Spec
open MomentumStateEngine

/-- A committed transition: the symbol is known, the move was proposed from the pointer's state, and
the tables are those after `apply_transition`. -/
structure Moved (settings : Settings) (symbol : String) (score : PyFloat) (evidence : Dict)
    (moment : DateTime) (symbols : List Symbol) (store : MomentumStore) (symbolId : ℕ)
    (transition : StateTransition) : Prop where
  known : SymbolRepository.getBySymbol symbols symbol = .ok (some ⟨symbolId,symbol⟩)
  current : transition.fromState =
    MomentumStateRepository.stateOf (MomentumStateRepository.getCurrent store symbolId)
  proposed : StateMachine.evaluateTransition transition.fromState score settings =
    some (transition.toState,transition.reason)
  data : transition = ⟨symbol,transition.fromState,transition.toState,moment,transition.reason,
    score,evidence⟩

theorem stateSession_moved {settings : Settings} {symbol : String} {score : PyFloat}
    {evidence : Dict} {moment : DateTime} {fault : Option EvaluationFault} {symbols : List Symbol}
    {store store' : MomentumStore} {symbolId transitionId : ℕ} {transition : StateTransition}
    (h : stateSession settings symbol score evidence moment fault symbols store =
      .moved symbolId transitionId transition store') :
    Moved settings symbol score evidence moment symbols store symbolId transition ∧
      (transitionId,store') = MomentumStateRepository.applyTransition store symbolId transition := by
  unfold stateSession at h
  split at h
  · contradiction
  · split at h
    · contradiction
    · contradiction
    · rename_i row hrow
      simp only at h
      split at h
      · contradiction
      · rename_i next reason hnext
        split at h
        · contradiction
        · cases h
          obtain ⟨-,hsymbol⟩ := SymbolRepository.getBySymbol_some hrow
          refine ⟨⟨?_,rfl,hnext,rfl⟩,rfl⟩
          rw [hrow, ← hsymbol]

end Spec

/-! One symbol and its evaluations on 2026-01-06, for the runs on fixed inputs in the modules that
follow. -/
section Sample

def sampleWorld : MomentumWorld :=
  ⟨[⟨1,"RELIANCE"⟩],⟨fun _ => none,Table.empty⟩,SystemState.empty⟩

/-- The digests that `hashlib` computes for the fingerprint sources of the symbol's two alert-worthy
states on that day. -/
abbrev momentumBuiltins : Builtins :=
  Builtins.tabulated
    [("RELIANCE|momentum_state_v1|TRIGGERED|None|2026-01-06",
        "82939b427add1b450c6c10bdc25edca26a9271ed7a10d64c2659043b82f90136"),
      ("RELIANCE|momentum_state_v1|CONFIRMED|None|2026-01-06",
        "f19b49b7ed1d78bce6e6b63f6aed0ae689809effcfc9d01a8d37a0c0c3bdfaaf")] [] []

/-- An evaluation at a minute of the sample day under the default threshold of 80. -/
def observe (score : ℚ) (minute : ℤ) (fault : Option EvaluationFault) : MomentumAction :=
  .evaluate {} "RELIANCE" (.finite score) [] (DateTime.ofUtc sampleDay minute)
    (DateTime.ofUtc sampleDay minute) fault

end Sample
end MarketScanner.Momentum
