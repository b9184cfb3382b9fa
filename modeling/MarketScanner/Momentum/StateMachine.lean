import MarketScanner.Config.Settings

/-! The momentum state machine: its states, its allowed edges, and the rules that propose the next
state from a score. -/
namespace MarketScanner.Momentum
open MarketScanner.Python MarketScanner.Config

inductive MomentumState
  | setup | watch | activating | triggered | confirmed | exhausted | invalidated
  deriving DecidableEq, Repr

def MomentumState.value : MomentumState → String
  | setup => "SETUP"
  | watch => "WATCH"
  | activating => "ACTIVATING"
  | triggered => "TRIGGERED"
  | confirmed => "CONFIRMED"
  | exhausted => "EXHAUSTED"
  | invalidated => "INVALIDATED"

def allowedTransitions : List (MomentumState × MomentumState) :=
  [(.setup,.watch),(.setup,.invalidated),(.watch,.activating),(.watch,.invalidated),
    (.activating,.triggered),(.activating,.invalidated),(.triggered,.confirmed),
    (.triggered,.exhausted),(.triggered,.invalidated),(.confirmed,.exhausted),
    (.confirmed,.invalidated)]

def alertWorthyStates : List MomentumState := [.triggered,.confirmed]

def momentumScannerName : String := "momentum_state_v1"

def isValidTransition (fromState toState : MomentumState) : Bool :=
  allowedTransitions.contains (fromState,toState)

namespace StateMachine

/-- The stages a symbol can be placed in or climb to before it is confirmed. -/
def ladder : List MomentumState := [.setup,.watch,.activating,.triggered]

def bandLow (triggerThreshold : PyFloat) : PyFloat := triggerThreshold.div (.finite 3)

def bandMid (triggerThreshold : PyFloat) : PyFloat :=
  ((PyFloat.finite 2).mul triggerThreshold).div (.finite 3)

/-- `_band_index`. -/
def bandIndex (score triggerThreshold : PyFloat) : Fin 4 :=
  if triggerThreshold.le score then 3
  else if (bandMid triggerThreshold).le score then 2
  else if (bandLow triggerThreshold).le score then 1
  else 0

/-- The state of a band: `_LADDER[band]`. -/
def ladderAt (band : Fin 4) : MomentumState := ladder.get band

/-- `_LADDER.index(current)` for a state that is on the ladder. -/
def ladderIndex : MomentumState → ℕ
  | .setup => 0
  | .watch => 1
  | .activating => 2
  | _ => 3

/-- The branch of `evaluate_transition` for SETUP, WATCH and ACTIVATING. -/
def preTrigger (current : MomentumState) (score triggerThreshold : PyFloat) :
    Option (MomentumState × String) :=
  if score.lt (bandLow triggerThreshold) then
    some (.invalidated,s!"score={score.format2} fell below the setup threshold " ++
      s!"({(bandLow triggerThreshold).format2}) before triggering")
  else
    let nextIndex := ladderIndex current+1
    if nextIndex ≤ bandIndex score triggerThreshold then
      (ladder[nextIndex]?).map fun nextState =>
        (nextState,s!"score={score.format2} supports advancing to {nextState.value}")
    else none

/-- The branch of `evaluate_transition` for TRIGGERED and CONFIRMED. -/
def postTrigger (current : MomentumState) (score triggerThreshold : PyFloat) :
    Option (MomentumState × String) :=
  if triggerThreshold.le score then
    if current = .triggered then
      some (.confirmed,s!"still above trigger threshold ({triggerThreshold.format2}) on next " ++
        s!"evaluation: score={score.format2}")
    else none
  else
    some (.exhausted,s!"score fell below trigger threshold ({triggerThreshold.format2}) after " ++
      s!"triggering: score={score.format2}")

def evaluateTransition (current : Option MomentumState) (score : PyFloat) (settings : Settings) :
    Option (MomentumState × String) :=
  let triggerThreshold := settings.decisionMinAlertScore
  match current with
  | none =>
    let desiredBand := bandIndex score triggerThreshold
    some (ladderAt desiredBand,
      s!"initial observation: score={score.format2} (band {desiredBand.val})")
  | some .exhausted => none
  | some .invalidated => none
  | some .triggered => postTrigger .triggered score triggerThreshold
  | some .confirmed => postTrigger .confirmed score triggerThreshold
  | some state => preTrigger state score triggerThreshold

def applyTransition (current : Option MomentumState) (nextState : MomentumState) :
    Except PyException Unit :=
  match current with
  | none => .ok ()
  | some state =>
    if isValidTransition state nextState then .ok ()
    else .error (.valueError s!"invalid transition: {state.value} -> {nextState.value}")

/-- A first observation lands on the ladder. -/
theorem evaluateTransition_entry {score : PyFloat} {settings : Settings} {next : MomentumState}
    {reason : String} (h : evaluateTransition none score settings = some (next,reason)) :
    next ∈ ladder := by
  obtain ⟨rfl,-⟩ := Prod.mk.inj (Option.some.inj h)
  exact List.get_mem ladder _

theorem preTrigger_next {current : MomentumState} {score triggerThreshold : PyFloat}
    {next : MomentumState} {reason : String}
    (h : preTrigger current score triggerThreshold = some (next,reason)) :
    next = .invalidated ∨ ladder[ladderIndex current+1]? = some next := by
  unfold preTrigger at h
  split at h
  · obtain ⟨rfl,-⟩ := Prod.mk.inj (Option.some.inj h)
    exact Or.inl rfl
  · simp only at h
    split at h
    · obtain ⟨state,hstate,hpair⟩ := Option.map_eq_some_iff.mp h
      obtain ⟨rfl,-⟩ := Prod.mk.inj hpair
      exact Or.inr hstate
    · contradiction

theorem postTrigger_next {current : MomentumState} {score triggerThreshold : PyFloat}
    {next : MomentumState} {reason : String}
    (h : postTrigger current score triggerThreshold = some (next,reason)) :
    next = .exhausted ∨ current = .triggered ∧ next = .confirmed := by
  unfold postTrigger at h
  split at h
  · split at h
    case isTrue hcurrent =>
      obtain ⟨rfl,-⟩ := Prod.mk.inj (Option.some.inj h)
      exact Or.inr ⟨hcurrent,rfl⟩
    case isFalse => contradiction
  · obtain ⟨rfl,-⟩ := Prod.mk.inj (Option.some.inj h)
    exact Or.inl rfl

/-- Whatever the score and the threshold, a proposed move is an allowed edge. -/
theorem evaluateTransition_edge {current : MomentumState} {score : PyFloat} {settings : Settings}
    {next : MomentumState} {reason : String}
    (h : evaluateTransition (some current) score settings = some (next,reason)) :
    (current,next) ∈ allowedTransitions := by
  cases current with
  | exhausted => contradiction
  | invalidated => contradiction
  | triggered =>
    rcases postTrigger_next h with rfl | ⟨-,rfl⟩ <;> decide
  | confirmed =>
    rcases postTrigger_next h with rfl | ⟨hcurrent,-⟩
    · decide
    · contradiction
  | setup =>
    rcases preTrigger_next h with rfl | hnext
    · decide
    · obtain rfl : MomentumState.watch = next := Option.some.inj hnext
      decide
  | watch =>
    rcases preTrigger_next h with rfl | hnext
    · decide
    · obtain rfl : MomentumState.activating = next := Option.some.inj hnext
      decide
  | activating =>
    rcases preTrigger_next h with rfl | hnext
    · decide
    · obtain rfl : MomentumState.triggered = next := Option.some.inj hnext
      decide

theorem applyTransition_ok_iff {current : Option MomentumState} {next : MomentumState} :
    applyTransition current next = .ok () ↔
      ∀ state, current = some state → (state,next) ∈ allowedTransitions := by
  cases current with
  | none => simp [applyTransition]
  | some state => simp [applyTransition, isValidTransition]

/-- The defensive guard never fires on a proposed state. -/
theorem applyTransition_proposed {current : Option MomentumState} {score : PyFloat}
    {settings : Settings} {next : MomentumState} {reason : String}
    (h : evaluateTransition current score settings = some (next,reason)) :
    applyTransition current next = .ok () := by
  rw [applyTransition_ok_iff]
  rintro state rfl
  exact evaluateTransition_edge h

end StateMachine
end MarketScanner.Momentum
