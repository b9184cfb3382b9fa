import MarketScanner.Config.Settings

/-! The decision engine's own vocabulary, and the checked reads of a feature snapshot. -/
namespace MarketScanner.Decisions
open MarketScanner.Python

inductive Decision
  | alert | watch | reject
  deriving DecidableEq, Repr

def Decision.value : Decision → String
  | alert => "ALERT"
  | watch => "WATCH"
  | reject => "REJECT"

inductive Quality
  | high | medium | low
  deriving DecidableEq, Repr

def Quality.value : Quality → String
  | high => "HIGH"
  | medium => "MEDIUM"
  | low => "LOW"

/-- The characters before the first `_v`: `s.split("_v")[0]`. -/
def beforeVersion : List Char → List Char
  | [] => []
  | '_' :: 'v' :: _ => []
  | c::cs => c::beforeVersion cs

/-- `"breakout_v1"` gives `"BREAKOUT"`. -/
def deriveSignalType (scannerName : String) : String :=
  String.ofList ((beforeVersion scannerName.toList).map Char.toUpper)

example : deriveSignalType "breakout_v1" = "BREAKOUT" := by decide

structure DecisionCandidate where
  symbol : String
  scannerName : String
  signalType : String
  score : PyFloat
  scanDate : Date
  featureSnapshot : Dict

inductive RuleStatus
  | pass | fail | warning
  deriving DecidableEq, Repr

/-- The outcome of one decision rule. -/
structure RuleResult where
  ruleName : String
  status : RuleStatus
  actualValue : Option String
  requiredValue : Option String
  reason : String
  deriving DecidableEq

structure DecisionResult where
  symbol : String
  scannerName : String
  signalType : String
  decision : Decision
  score : PyFloat
  quality : Option Quality
  passedRules : List String
  failedRules : List String
  warnings : List String
  featureSnapshot : Dict
  timestamp : DateTime
  ruleResults : List RuleResult

namespace DecisionValidator

/-- `value in (None, "None")`. -/
def missingSentinel : PyValue → Bool
  | .none => true
  | .str s => s == "None"
  | _ => false

/-- Names of `keys` that are absent or null in the snapshot. -/
def missingFeatures (featureSnapshot : Dict) (keys : List String) : List String :=
  keys.filter fun key => missingSentinel (featureSnapshot.get key)

def isFresh (scanDate : Date) (maxAgeDays : ℤ) (today : Date) : Bool :=
  decide (today.day-scanDate.day ≤ maxAgeDays)

/-- Snapshot values are JSON: a number, or the text of one; anything else reads as missing. An int past the
floats raises `OverflowError`, which `as_float` does not catch. -/
def asFloat [Builtins] (featureSnapshot : Dict) (key : String) : Except PyException (Option PyFloat) :=
  let value := featureSnapshot.get key
  if missingSentinel value then .ok none
  else match value.toFloat with
    | .ok x => .ok (some x)
    | .error .overflowError => .error .overflowError
    | .error _ => .ok none

end DecisionValidator
end MarketScanner.Decisions
