import Mathlib.Tactic.Common
import Mathlib.Data.Rat.Floor
import Mathlib.Algebra.Order.Ring.Rat
import MarketScanner.Library.Rounding
import MarketScanner.Python.Time

/-! The Python values the engine computes with. Floats follow IEEE comparisons, NaN and infinities
included; finite ones are rationals. The operations on them are exact, and `rounded` takes what one of
them gives to the double that the interpreter keeps, where a threshold depends on the last bit. -/
namespace MarketScanner.Python
open MarketScanner.Library

inductive PyFloat
  | nan
  | inf (negative : Bool)
  | finite (q : ℚ)
  deriving DecidableEq

namespace PyFloat

/-- `a <= b`; every comparison with NaN is false. -/
def le : PyFloat → PyFloat → Bool
  | nan, _ => false
  | _, nan => false
  | inf true, _ => true
  | _, inf false => true
  | inf false, _ => false
  | _, inf true => false
  | finite a, finite b => decide (a ≤ b)

def lt (a b : PyFloat) : Bool := le a b && !le b a

/-- `a == b`: NaN differs from itself. -/
def eq (a b : PyFloat) : Bool := le a b && le b a

def neg : PyFloat → PyFloat
  | nan => nan
  | inf s => inf !s
  | finite q => finite (-q)

def add : PyFloat → PyFloat → PyFloat
  | nan, _ => nan
  | _, nan => nan
  | inf s, inf t => if s = t then inf s else nan
  | inf s, finite _ => inf s
  | finite _, inf t => inf t
  | finite a, finite b => finite (a+b)

def sub (a b : PyFloat) : PyFloat := add a (neg b)

/-- An infinity times a factor of the given sign; zero times infinity is NaN. -/
private def scaleInf (s : Bool) (q : ℚ) : PyFloat :=
  if q = 0 then nan else inf (xor s (decide (q < 0)))

def mul : PyFloat → PyFloat → PyFloat
  | nan, _ => nan
  | _, nan => nan
  | inf s, inf t => inf (xor s t)
  | inf s, finite q => scaleInf s q
  | finite q, inf t => scaleInf t q
  | finite a, finite b => finite (a*b)

theorem inf_mul_finite (s : Bool) (q : ℚ) :
    mul (inf s) (finite q) = if q = 0 then nan else inf (xor s (decide (q < 0))) := rfl

/-- True division by a nonzero divisor; a zero divisor raises in Python, and every caller tests
for it first. -/
def div : PyFloat → PyFloat → PyFloat
  | nan, _ => nan
  | _, nan => nan
  | inf _, inf _ => nan
  | finite _, inf _ => finite 0
  | inf s, finite q => scaleInf s q
  | finite a, finite b => finite (a/b)

def abs : PyFloat → PyFloat
  | nan => nan
  | inf _ => inf false
  | finite q => finite |q|

/-- Apart from NaN, any two floats compare. -/
theorem le_or_le {a b : PyFloat} (ha : a ≠ nan) (hb : b ≠ nan) : le a b = true ∨ le b a = true := by
  rcases a with _ | (_ | _) | p
  · exact absurd rfl ha
  all_goals rcases b with _ | (_ | _) | q
  all_goals first
    | exact absurd rfl hb
    | exact Or.inl rfl
    | exact Or.inr rfl
    | simpa [le] using le_total p q

theorem le_chain {a b c : PyFloat} (hab : le a b = true) (hbc : le b c = true) : le a c = true := by
  rcases a with _ | (_ | _) | p <;> rcases b with _ | (_ | _) | q <;>
    first
    | exact absurd hab Bool.false_ne_true
    | rcases c with _ | (_ | _) | r
  all_goals first
    | exact absurd hbc Bool.false_ne_true
    | rfl
    | exact decide_eq_true ((of_decide_eq_true hab).trans (of_decide_eq_true hbc))

theorem le_finite {p q : ℚ} (hpq : p ≤ q) : le (finite p) (finite q) = true := decide_eq_true hpq

theorem le_neg (a b : PyFloat) : le (neg a) (neg b) = le b a := by
  rcases a with _ | (_ | _) | p <;> rcases b with _ | (_ | _) | q <;> simp [le, neg]

/-- Round half to even, as `round` and the fixed-point formats do. -/
def roundHalfEven (q : ℚ) : ℤ :=
  let n := q.floor
  let d := q-n
  if d < 1/2 then n else if 1/2 < d then n+1 else if n % 2 = 0 then n else n+1

/-- `round(x, 2)`. -/
def round2 : PyFloat → PyFloat
  | finite q => finite (roundHalfEven (q*100) / 100)
  | x => x

/-- `f"{x:.2f}"`. -/
def format2 : PyFloat → String
  | nan => "nan"
  | inf s => if s then "-inf" else "inf"
  | finite q =>
    let n := (roundHalfEven (|q| * 100)).toNat
    (if q < 0 then "-" else "") ++ toString (n/100) ++ "." ++ padLeft 2 (n % 100)

end PyFloat

/-! ### Doubles -/

/-- The doubles: 53 significant bits, the last of them worth `2^-1074` at least. -/
def binary64 : DigitFormat where
  base := 2
  digits := 53
  least := some (-1074)
  one_lt_base := by decide
  digits_pos := by decide

/-- The double that is nearest to a number in their range. -/
def roundDouble (q : ℚ) : ℚ := binary64.round PyFloat.roundHalfEven q

/-- What an operation gives as a float; from `2^1024` on it is infinite. -/
def PyFloat.rounded : PyFloat → PyFloat
  | nan => nan
  | inf s => inf s
  | finite q => if |roundDouble q| < 2^1024 then finite (roundDouble q) else inf (decide (q < 0))

/-- `float(n)` of an int, or `none` where it raises `OverflowError`: from this magnitude on the nearest float
would be infinite. -/
def PyFloat.ofInt (n : ℤ) : Option PyFloat :=
  if 2^1024-2^970 ≤ |n| then none else some (.finite (roundDouble n))

/-- A JSON-like Python object, as a feature snapshot holds it. -/
inductive PyValue
  | none
  | bool (b : Bool)
  | int (n : ℤ)
  | float (x : PyFloat)
  | str (s : String)
  | list (xs : List PyValue)
  | dict (kvs : List (String × PyValue))

abbrev Dict := List (String × PyValue)

namespace PyValue

/-- Truth value, as `or` and `if` read it. -/
def truthy : PyValue → Bool
  | none => false
  | bool b => b
  | int n => n != 0
  | float x => !x.eq (.finite 0)
  | str s => s != ""
  | list xs => !xs.isEmpty
  | dict kvs => !kvs.isEmpty

/-- `a or b`. -/
def orElse (a b : PyValue) : PyValue := if a.truthy then a else b

end PyValue

/-- `d.get(key)`. -/
def Dict.get (d : Dict) (key : String) : PyValue := (d.lookup key).getD .none

/-- The exceptions the modelled code raises; `environment` stands for a database, queue or provider
call that raised. -/
inductive PyException
  | assertionError
  | valueError (text : String)
  | keyError (key : String)
  | multipleResults
  | overflowError
  | typeError
  | environment
  deriving DecidableEq

/-- The standard-library functions on text that the engine relies on. Nothing is assumed of them:
every theorem holds for whatever they return. -/
class Builtins where
  /-- `hashlib.sha256(raw.encode()).hexdigest()` -/
  sha256Hex : String → String
  /-- `float(s)`, or `none` where it raises `ValueError` -/
  floatOfStr : String → Option PyFloat
  /-- `int(s)`, or `none` where it raises `ValueError` -/
  intOfStr : String → Option ℤ
  /-- `str(x)` for a value that is not a string -/
  repr : PyValue → String
  /-- `date.fromisoformat(s)`, or `none` where it raises `ValueError` -/
  dateFromIso : String → Option Date
  /-- `datetime.fromisoformat(s)`, or `none` where it raises `ValueError`; without a zone, as if in UTC -/
  datetimeFromIso : String → Option DateTime
  /-- `datetime.fromisoformat(s).tzinfo is None` -/
  isNaive : String → Bool

/-- The builtins on a few tabulated texts: enough to evaluate the model on inputs that use no
others. -/
abbrev Builtins.tabulated (digests : List (String × String)) (numerals : List (String × ℚ))
    (dates : List (String × Date)) : Builtins where
  sha256Hex text := (digests.lookup text).getD ""
  floatOfStr text := (numerals.lookup text).map PyFloat.finite
  intOfStr _ := none
  repr _ := "None"
  dateFromIso text := dates.lookup text
  datetimeFromIso _ := none
  isNaive _ := false

/-- How `float(x)` fails. -/
inductive FloatError
  | typeError | valueError | overflowError
  deriving DecidableEq

/-- `float(x)`. -/
def PyValue.toFloat [Builtins] : PyValue → Except FloatError PyFloat
  | .str s => (Builtins.floatOfStr s).elim (.error .valueError) .ok
  | .int n => (PyFloat.ofInt n).elim (.error .overflowError) .ok
  | .float x => .ok x
  | .bool b => .ok (.finite (if b then 1 else 0))
  | _ => .error .typeError

/-- `float(x)` raises `OverflowError`. -/
def PyValue.overflows : PyValue → Bool
  | .int n => (PyFloat.ofInt n).isNone
  | _ => false

theorem PyValue.toFloat_eq_overflowError_iff [Builtins] {x : PyValue} :
    x.toFloat = .error .overflowError ↔ x.overflows = true := by
  cases x with
  | str s => cases h : Builtins.floatOfStr s <;> simp [PyValue.toFloat, PyValue.overflows, h]
  | int n => cases h : PyFloat.ofInt n <;> simp [PyValue.toFloat, PyValue.overflows, h]
  | _ => exact iff_of_false (by rintro ⟨⟩) (by simp [PyValue.overflows])

/-- `str(x)`. -/
def PyValue.toStr [Builtins] : PyValue → String
  | .str s => s
  | x => Builtins.repr x

end MarketScanner.Python
