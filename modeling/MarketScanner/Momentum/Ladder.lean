import MarketScanner.Library.Trail
import MarketScanner.Momentum.Engine

/-! The momentum state machine over whole runs: the log of a symbol is a trail of allowed edges, the
pointer is its end, and allowed edges climb a rank. -/
namespace MarketScanner.Momentum
open MarketScanner.Library MarketScanner.Python MarketScanner.Config MarketScanner.Alerts
open MarketScanner.Market

namespace MomentumState

/-- The stages of the ladder; the two exits are on none of them. -/
def stage : MomentumState → Option ℕ
  | setup => some 0
  | watch => some 1
  | activating => some 2
  | triggered => some 3
  | confirmed => some 4
  | exhausted => none
  | invalidated => none

/-- Allowed edges climb this rank, the exits included. -/
def rank (state : MomentumState) : ℕ := state.stage.getD 5

/-- From a stage of the ladder to the next one, or off the ladder. -/
def OneUpOrOut (a b : MomentumState) : Prop :=
  ∃ i, a.stage = some i ∧ (b.stage = some (i+1) ∨ b.stage = none)

theorem rank_lt_of_allowed {a b : MomentumState} (h : (a,b) ∈ allowedTransitions) :
    a.rank < b.rank := by
  revert h
  cases a <;> cases b <;> decide

theorem oneUpOrOut_of_allowed {a b : MomentumState} (h : (a,b) ∈ allowedTransitions) :
    OneUpOrOut a b := by
  have hstage : ∀ i, a.stage = some i → b.stage = some (i+1) ∨ b.stage = none := by
    revert h
    cases a <;> cases b <;> simp [allowedTransitions, stage]
  have hsome : a.stage.isSome = true := by
    revert h
    cases a <;> cases b <;> decide
  obtain ⟨i,hi⟩ := Option.isSome_iff_exists.mp hsome
  exact ⟨i,hi,hstage i hi⟩

theorem allowed_exhausted {a : MomentumState} (h : (a,exhausted) ∈ allowedTransitions) :
    a = triggered ∨ a = confirmed := by
  revert h
  cases a <;> decide

theorem allowed_confirmed {a : MomentumState} (h : (a,confirmed) ∈ allowedTransitions) :
    a = triggered := by
  revert h
  cases a <;> decide

end MomentumState

/-- A log row that may open a symbol's log. -/
def IsEntry (row : MomentumStateTransition) : Prop :=
  row.fromState = none ∧ row.toState ∈ StateMachine.ladder

/-- The second row moves on, along an allowed edge, from where the first one ended. -/
def Follows (a b : MomentumStateTransition) : Prop :=
  b.fromState = some a.toState ∧ (a.toState,b.toState) ∈ allowedTransitions

namespace MomentumStore

/-- The log rows of a symbol, oldest first. -/
def logOf (store : MomentumStore) (symbolId : ℕ) : List MomentumStateTransition :=
  (store.transitions.rows.map Row.val).filter fun row => row.symbolId == symbolId

def pointer (store : MomentumStore) (symbolId : ℕ) : Option MomentumState :=
  MomentumStateRepository.stateOf (MomentumStateRepository.getCurrent store symbolId)

/-- The log of a symbol is a trail that ends where the pointer stands. -/
def OnLadder (store : MomentumStore) (symbolId : ℕ) : Prop :=
  ∃ last, Trail IsEntry Follows (store.logOf symbolId) last ∧
    store.pointer symbolId = last.map MomentumStateTransition.toState

end MomentumStore

/-- What the momentum tables say of one symbol after any run. -/
structure LadderLog (log : List MomentumStateTransition) (pointer : Option MomentumState) : Prop where
  opens : ∀ row ∈ log.head?, row.fromState = none
  linked : log.IsChain Follows
  allowed : ∀ row ∈ log, ∀ state, row.fromState = some state →
    (state,row.toState) ∈ allowedTransitions
  oneUpOrOut : ∀ row ∈ log, ∀ state, row.fromState = some state →
    MomentumState.OneUpOrOut state row.toState
  pointer_eq : pointer = log.getLast?.map MomentumStateTransition.toState
  triggered_once : log.countP (fun row => row.toState == .triggered) ≤ 1
  confirmed_once : log.countP (fun row => row.toState == .confirmed) ≤ 1
  alertWorthy_twice : log.countP (fun row => alertWorthyStates.contains row.toState) ≤ 2
  exhausted_after_triggered : ∀ pre row post, log = pre ++ row::post → row.toState = .exhausted →
    ∃ earlier ∈ pre, earlier.toState = .triggered
  terminal_last : ∀ pre row post, log = pre ++ row::post →
    row.toState = .exhausted ∨ row.toState = .invalidated → post = []

section Trail
variable {log : List MomentumStateTransition} {last : Option MomentumStateTransition}

theorem follows_rank (a b : MomentumStateTransition) (h : Follows a b) :
    a.toState.rank < b.toState.rank := MomentumState.rank_lt_of_allowed h.2

theorem count_state_le_one (h : Trail IsEntry Follows log last) (state : MomentumState) :
    log.countP (fun row => row.toState == state) ≤ 1 := by
  apply h.count_le_one follows_rank
  intro a b ha hb
  rw [beq_iff_eq.mp ha, beq_iff_eq.mp hb]
  exact Nat.lt_irrefl _

theorem count_alertWorthy (log : List MomentumStateTransition) :
    log.countP (fun row => alertWorthyStates.contains row.toState) =
      log.countP (fun row => row.toState == .triggered) +
        log.countP (fun row => row.toState == .confirmed) := by
  induction log with
  | nil => rfl
  | cons row log ih =>
    rw [List.countP_cons, List.countP_cons, List.countP_cons, ih]
    cases row.toState <;> simp [alertWorthyStates] <;> omega

/-- Only TRIGGERED and CONFIRMED lead to EXHAUSTED, and only TRIGGERED leads to CONFIRMED. -/
theorem exhausted_after (h : Trail IsEntry Follows log last)
    {pre post : List MomentumStateTransition} {row : MomentumStateTransition}
    (hlog : log = pre ++ row::post) (hrow : row.toState = .exhausted) :
    ∃ earlier ∈ pre, earlier.toState = .triggered := by
  rcases h.pred hlog with ⟨-,-,hentry⟩ | ⟨front,u,rfl,-,hedge⟩
  · rw [hrow] at hentry
    simp [StateMachine.ladder] at hentry
  · rw [hrow] at hedge
    rcases MomentumState.allowed_exhausted hedge with hu | hu
    · exact ⟨u,by simp,hu⟩
    · rw [List.append_assoc] at hlog
      rcases h.pred hlog with ⟨-,-,hentry⟩ | ⟨front',v,rfl,-,hedge'⟩
      · rw [hu] at hentry
        simp [StateMachine.ladder] at hentry
      · rw [hu] at hedge'
        exact ⟨v,by simp,MomentumState.allowed_confirmed hedge'⟩

theorem Trail.ladderLog (h : Trail IsEntry Follows log last) :
    LadderLog log (last.map MomentumStateTransition.toState) := by
  have hallowed : ∀ row ∈ log, ∀ state, row.fromState = some state →
      (state,row.toState) ∈ allowedTransitions := by
    apply h.forall_mem fun row => ∀ state, row.fromState = some state →
      (state,row.toState) ∈ allowedTransitions
    · intro row hentry state hstate
      rw [hentry.1] at hstate
      contradiction
    · intro a row hfollows state hstate
      rw [hfollows.1] at hstate
      obtain rfl := Option.some.inj hstate
      exact hfollows.2
  refine ⟨?_,h.isChain,hallowed,?_,by rw [h.current_eq],count_state_le_one h _,
    count_state_le_one h _,?_,fun _ _ _ => exhausted_after h,?_⟩
  · intro row hrow
    obtain ⟨rest,hlog⟩ := List.head?_eq_some_iff.mp hrow
    rcases h.pred (show log = [] ++ row::rest from hlog) with ⟨-,hentry⟩ | ⟨front,u,hfront,-⟩
    · exact hentry.1
    · simp at hfront
  · intro row hrow state hstate
    exact MomentumState.oneUpOrOut_of_allowed (hallowed row hrow state hstate)
  · rw [count_alertWorthy]
    have htriggered := count_state_le_one h .triggered
    have hconfirmed := count_state_le_one h .confirmed
    omega
  · intro pre row post hlog hterminal
    apply h.last_of_terminal hlog
    rintro next ⟨-,hedge⟩
    revert hedge
    rcases hterminal with hrow | hrow <;> rw [hrow] <;> cases next.toState <;> decide

end Trail

section Step
open MomentumStateEngine

/-- The log row of a committed transition. -/
def StateTransition.row (transition : StateTransition) (symbolId : ℕ) : MomentumStateTransition :=
  ⟨symbolId,transition.fromState,transition.toState,transition.timestamp,transition.reason,
    transition.score,transition.evidence⟩

theorem logOf_applyTransition (store : MomentumStore) (transition : StateTransition)
    (symbolId i : ℕ) :
    (MomentumStateRepository.applyTransition store symbolId transition).2.logOf i =
      store.logOf i ++ if symbolId = i then [transition.row symbolId] else [] := by
  by_cases hi : symbolId = i
  · simp [MomentumStore.logOf, MomentumStateRepository.applyTransition, StateTransition.row, hi]
  · simp [MomentumStore.logOf, MomentumStateRepository.applyTransition, hi]

theorem pointer_applyTransition (store : MomentumStore) (transition : StateTransition)
    (symbolId i : ℕ) :
    (MomentumStateRepository.applyTransition store symbolId transition).2.pointer i =
      if symbolId = i then some transition.toState else store.pointer i := by
  by_cases hi : symbolId = i
  · subst hi
    simp [MomentumStore.pointer, MomentumStateRepository.getCurrent,
      MomentumStateRepository.applyTransition, MomentumStateRepository.stateOf]
  · simp [MomentumStore.pointer, MomentumStateRepository.getCurrent,
      MomentumStateRepository.applyTransition, hi, Function.update_of_ne (Ne.symm hi)]

/-- What a step does to the momentum tables: nothing, or one proposed and committed transition. -/
inductive MomentumChange (w : MomentumWorld) : MomentumAction → MomentumStore → Prop
  | same (a : MomentumAction) : MomentumChange w a w.momentum
  | moved {settings : Settings} {symbol : String} {score : PyFloat} {evidence : Dict}
      {moment createdAt : DateTime} {fault : Option EvaluationFault} (symbolId : ℕ)
      (transition : StateTransition)
      (moved : Moved settings symbol score evidence moment w.symbols w.momentum symbolId
        transition) :
      MomentumChange w (.evaluate settings symbol score evidence moment createdAt fault)
        (MomentumStateRepository.applyTransition w.momentum symbolId transition).2

variable [Builtins]

theorem momentumStep_change {w w' : MomentumWorld} {a : MomentumAction}
    (h : momentumMachine.step w a = some w') :
    MomentumChange w a w'.momentum ∧ w'.symbols = w.symbols := by
  cases a with
  | system settings router action =>
    obtain ⟨system,-,rfl⟩ := Option.map_eq_some_iff.mp h
    exact ⟨MomentumChange.same _,rfl⟩
  | evaluate settings symbol score evidence moment createdAt fault =>
    obtain rfl := Option.some.inj h
    unfold evaluate
    cases hsession : stateSession settings symbol score evidence moment fault w.symbols
        w.momentum with
    | nothing => exact ⟨MomentumChange.same _,rfl⟩
    | raised e => exact ⟨MomentumChange.same _,rfl⟩
    | moved symbolId transitionId transition store =>
      obtain ⟨hmoved,hstore⟩ := stateSession_moved hsession
      obtain ⟨-,rfl⟩ := Prod.mk.inj hstore
      simp only
      split <;> exact ⟨MomentumChange.moved symbolId transition hmoved,rfl⟩

/-- One step, seen from one symbol: the guard of `evaluate` lets the proposed state pass, at most
one row is logged, and the pointer stays or moves one stage up or off the ladder. -/
structure StepMove (symbolId : ℕ) (w : MomentumWorld) (a : MomentumAction) (w' : MomentumWorld) :
    Prop where
  applied : ∀ settings symbol score evidence moment createdAt fault row next reason,
    a = .evaluate settings symbol score evidence moment createdAt fault →
    SymbolRepository.getBySymbol w.symbols symbol = .ok (some row) →
    StateMachine.evaluateTransition (w.momentum.pointer row.id) score settings =
      some (next,reason) →
    StateMachine.applyTransition (w.momentum.pointer row.id) next = .ok ()
  oneRow : w'.momentum.logOf symbolId = w.momentum.logOf symbolId ∨
    ∃ row, w'.momentum.logOf symbolId = w.momentum.logOf symbolId ++ [row]
  climbs : ∀ state, w.momentum.pointer symbolId = some state →
    w'.momentum.pointer symbolId = some state ∨
      ∃ next, w'.momentum.pointer symbolId = some next ∧ (state,next) ∈ allowedTransitions ∧
        MomentumState.OneUpOrOut state next

theorem stepMove_step (symbolId : ℕ) {w w' : MomentumWorld} {a : MomentumAction}
    (h : momentumMachine.step w a = some w') : StepMove symbolId w a w' := by
  have hchange := (momentumStep_change h).1
  refine ⟨?_,?_,?_⟩
  · intro settings symbol score evidence moment createdAt fault row next reason _ _ hproposed
    exact StateMachine.applyTransition_proposed hproposed
  · generalize w'.momentum = store at hchange
    cases hchange with
    | same => exact Or.inl rfl
    | moved i transition hmoved =>
      rw [logOf_applyTransition]
      by_cases hi : i = symbolId
      · exact Or.inr ⟨transition.row i,by rw [if_pos hi]⟩
      · exact Or.inl (by rw [if_neg hi, List.append_nil])
  · intro state hstate
    generalize w'.momentum = store at hchange
    cases hchange with
    | same => exact Or.inl hstate
    | moved i transition hmoved =>
      rw [pointer_applyTransition]
      by_cases hi : i = symbolId
      · subst hi
        right
        have hfrom : transition.fromState = some state := hmoved.current.trans hstate
        have hproposed := hmoved.proposed
        rw [hfrom] at hproposed
        have hedge := StateMachine.evaluateTransition_edge hproposed
        exact ⟨transition.toState,if_pos rfl,hedge,MomentumState.oneUpOrOut_of_allowed hedge⟩
      · rw [if_neg hi]
        exact Or.inl hstate

theorem onLadder_step (symbolId : ℕ) (w : MomentumWorld) (a : MomentumAction) (w' : MomentumWorld)
    (hladder : w.momentum.OnLadder symbolId) (h : momentumMachine.step w a = some w') :
    w'.momentum.OnLadder symbolId := by
  have hchange := (momentumStep_change h).1
  generalize w'.momentum = store at hchange
  cases hchange with
  | same => exact hladder
  | moved i transition hmoved =>
    obtain ⟨last,htrail,hpointer⟩ := hladder
    by_cases hi : i = symbolId
    · subst hi
      refine ⟨some (transition.row i),?_,?_⟩
      · rw [logOf_applyTransition, if_pos rfl]
        have hfrom : transition.fromState = last.map MomentumStateTransition.toState :=
          hmoved.current.trans hpointer
        have hproposed := hmoved.proposed
        rw [hfrom] at hproposed
        cases last with
        | none =>
          rw [htrail.eq_nil, List.nil_append]
          exact Trail.first ⟨hfrom,StateMachine.evaluateTransition_entry hproposed⟩
        | some row =>
          exact Trail.move htrail ⟨hfrom,StateMachine.evaluateTransition_edge hproposed⟩
      · rw [pointer_applyTransition, if_pos rfl]
        rfl
    · refine ⟨last,?_,?_⟩
      · rwa [logOf_applyTransition, if_neg hi, List.append_nil]
      · rwa [pointer_applyTransition, if_neg hi]

/-- For a symbol without a momentum record, over every run of evaluations, whatever the scores,
thresholds and failures: its log is a path of allowed transitions that ends at its pointer, climbs
one stage at a time, triggers and confirms at most once and stops at an exit. -/
theorem ladder_over_runs {w w' : MomentumWorld} {as : List MomentumAction} (symbolId : ℕ)
    (hstates : w.momentum.states symbolId = none) (hlog : w.momentum.logOf symbolId = [])
    (hrun : momentumMachine.Run w as w') :
    LadderLog (w'.momentum.logOf symbolId) (w'.momentum.pointer symbolId) ∧
      momentumMachine.Steps (StepMove symbolId) w as := by
  constructor
  · have hstart : w.momentum.OnLadder symbolId := by
      refine ⟨none,?_,?_⟩
      · rw [hlog]
        exact Trail.nil
      · simp [MomentumStore.pointer, MomentumStateRepository.getCurrent, hstates,
          MomentumStateRepository.stateOf]
    obtain ⟨last,htrail,hpointer⟩ := hrun.stable (onLadder_step symbolId) hstart
    rw [hpointer]
    exact Trail.ladderLog htrail
  · intro pre a post s t _ _ hstep
    exact stepMove_step symbolId hstep

end Step

/-- Up the ladder with a dip on the way, out of it, and two more evaluations. -/
def risingRun : List MomentumAction :=
  [observe 10 270 none,observe 40 271 none,observe 60 272 none,observe 30 273 none,
    observe 85 274 none,observe 90 275 none,observe 70 276 none,observe 95 277 none,
    observe 10 278 none]

theorem ladder_over_risingRun :
    ∃ w, (@momentumMachine momentumBuiltins).Run sampleWorld risingRun w ∧
      (w.momentum.logOf 1).map MomentumStateTransition.toState =
        [.setup,.watch,.activating,.triggered,.confirmed,.exhausted] ∧
      LadderLog (w.momentum.logOf 1) (w.momentum.pointer 1) := by
  let _ := momentumBuiltins
  obtain ⟨w,hrun,hlog⟩ := Machine.exists_run_of_exec momentumMachine sampleWorld risingRun
    (fun w => (w.momentum.logOf 1).map MomentumStateTransition.toState ==
      [.setup,.watch,.activating,.triggered,.confirmed,.exhausted]) (by decide +kernel)
  exact ⟨w,hrun,beq_iff_eq.mp hlog,(ladder_over_runs 1 rfl rfl hrun).1⟩

end MarketScanner.Momentum
