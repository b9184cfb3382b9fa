import Mathlib.Algebra.Order.Field.Rat
import Mathlib.Data.Nat.Sqrt
import MarketScanner.Library.Series
import MarketScanner.Python.Values

/-! The column operations that the feature calculators use, over exact arithmetic but for `doubles`. A
missing value is NaN. -/
namespace MarketScanner.Features
open MarketScanner.Library MarketScanner.Python

/-- The square root that the standard deviation takes. Nothing is assumed of it. -/
class FloatMath where
  sqrt : ℚ → ℚ

/-- A root to more bits than a double has; what is cut off counts as half of the last of them. -/
def longRoot (q : ℚ) : ℚ :=
  let e := 60-Int.log 2 q/2
  let n := Nat.sqrt ⌊q*4^e⌋.toNat
  (if (n : ℚ)^2 = q*4^e then (n : ℚ) else n+1/2)/2^e

/-- The square root of doubles: the double that is nearest to the root. -/
abbrev FloatMath.double : FloatMath :=
  ⟨fun q => if q ≤ 0 then 0 else { binary64 with least := none }.round PyFloat.roundHalfEven (longRoot q)⟩

abbrev Series := List PyFloat
abbrev Flags := List Bool

/-- Division in a column: a zero divisor gives an infinity or NaN, it does not raise. -/
def divide : PyFloat → PyFloat → PyFloat
  | .nan, _ => .nan
  | _, .nan => .nan
  | .inf _, .inf _ => .nan
  | .finite _, .inf _ => .finite 0
  | .inf s, .finite q => .inf (xor s (decide (q < 0)))
  | .finite a, .finite b =>
    if b = 0 then (if a = 0 then .nan else .inf (decide (a < 0))) else .finite (a/b)

def finite? : PyFloat → Option ℚ
  | .finite q => some q
  | _ => none

/-- `np.sign(x)`. -/
def sign (x : PyFloat) : PyFloat :=
  if x.lt (.finite 0) then .finite (-1)
  else if PyFloat.lt (.finite 0) x then .finite 1
  else if x = .nan then .nan else .finite 0

/-- `x.clip(lower, upper)`. -/
def clip (lower upper : Option ℚ) (x : PyFloat) : PyFloat :=
  let raised := match lower with
    | some q => if x.lt (.finite q) then .finite q else x
    | none => x
  match upper with
    | some q => if PyFloat.lt (.finite q) raised then .finite q else raised
    | none => raised

namespace Series

abbrev add (a b : Series) : Series := List.zipWith PyFloat.add a b
abbrev sub (a b : Series) : Series := List.zipWith PyFloat.sub a b
abbrev mul (a b : Series) : Series := List.zipWith PyFloat.mul a b
abbrev div (a b : Series) : Series := List.zipWith divide a b
abbrev abs (a : Series) : Series := List.map PyFloat.abs a
abbrev neg (a : Series) : Series := List.map PyFloat.neg a
abbrev scale (c : ℚ) (a : Series) : Series := List.map (fun x => PyFloat.mul x (.finite c)) a
abbrev plus (c : ℚ) (a : Series) : Series := List.map (fun x => PyFloat.add x (.finite c)) a
abbrev clipped (lower upper : Option ℚ) (a : Series) : Series := List.map (clip lower upper) a

/-- `s.fillna(c)`. -/
abbrev fillna (c : ℚ) (a : Series) : Series :=
  List.map (fun x => if x = .nan then .finite c else x) a

/-- The doubles nearest to a column's values, none of which is near the end of their range. -/
abbrev doubles (a : Series) : Series :=
  List.map (fun
    | .finite q => .finite (roundDouble q)
    | x => x) a

/-- `s.replace(0, np.nan)`. -/
abbrev replaceZero (a : Series) : Series :=
  List.map (fun x => if x = .finite 0 then .nan else x) a

abbrev gt (a b : Series) : Flags := List.zipWith (fun x y => PyFloat.lt y x) a b
abbrev lt (a b : Series) : Flags := List.zipWith PyFloat.lt a b
abbrev ge (a b : Series) : Flags := List.zipWith (fun x y => PyFloat.le y x) a b
abbrev eq (a b : Series) : Flags := List.zipWith PyFloat.eq a b
abbrev above (a : Series) (c : ℚ) : Flags := List.map (fun x => PyFloat.lt (.finite c) x) a
abbrev below (a : Series) (c : ℚ) : Flags := List.map (fun x => PyFloat.lt x (.finite c)) a
abbrev atLeast (a : Series) (c : ℚ) : Flags := List.map (fun x => PyFloat.le (.finite c) x) a
abbrev atMost (a : Series) (c : ℚ) : Flags := List.map (fun x => PyFloat.le x (.finite c)) a

/-- `s != c`, true of NaN. -/
abbrev differs (a : Series) (c : ℚ) : Flags := List.map (fun x => !PyFloat.eq x (.finite c)) a

/-- `s.where(condition, other)`. -/
abbrev whereOr (a : Series) (condition : Flags) (other : PyFloat) : Series :=
  List.zipWith (fun x c => if c then x else other) a condition

/-- `s.shift(k)`. -/
abbrev shifted (k : ℕ) (a : Series) : Series := shift k .nan a

/-- `s.diff()`. -/
def diff (a : Series) : Series := sub a (shifted 1 a)

/-- `s.pct_change(periods=k)`. -/
def pctChange (k : ℕ) (a : Series) : Series := plus (-1) (div a (shifted k a))

/-- `s.ffill()`. -/
abbrev ffill (a : Series) : Series :=
  accumulate (fun last x => if x = .nan then (last,last) else (x,x)) .nan a

/-- `s.cumsum()`: a missing value stays missing and is left out of the sum. -/
abbrev cumsum (a : Series) : Series :=
  accumulate (fun (sum : PyFloat) x => if x = .nan then (sum,x) else (sum.add x,sum.add x))
    (.finite 0) a

/-- `s.rolling(w).agg(g)`: missing unless the window is full of finite values. -/
def rolling (w : ℕ) (g : List ℚ → PyFloat) (a : Series) : Series :=
  (windows w a).map fun win =>
    match win.mapM finite? with
    | some values => if values.length = w then g values else .nan
    | none => .nan

/-- `s.rolling(2*half+1, center=True).agg(g)`: the window ends `half` entries after its row. -/
def rollingCentered (half : ℕ) (g : List ℚ → PyFloat) (a : Series) : Series :=
  (centeredWindows half a).map fun win =>
    match win.bind fun win => win.mapM finite? with
    | some values => g values
    | none => .nan

/-- The state of an exponentially weighted mean: the mean, the weight that is left to it, and the
observations so far. -/
structure Ewm where
  weighted : Option ℚ
  oldWeight : ℚ
  observed : ℕ

def Ewm.step (alpha : ℚ) (minPeriods : ℕ) (s : Ewm) (x : PyFloat) : Ewm × PyFloat :=
  let decayed := s.oldWeight*(1-alpha)
  let next : Ewm := match finite? x, s.weighted with
    | some current, none => ⟨some current,1,s.observed+1⟩
    | some current, some weighted =>
      ⟨some ((decayed*weighted+alpha*current)/(decayed+alpha)),1,s.observed+1⟩
    | none, none => s
    | none, some _ => { s with oldWeight := decayed }
  (next,match next.weighted with
    | some weighted => if minPeriods ≤ next.observed then .finite weighted else .nan
    | none => .nan)

/-- `s.ewm(alpha=..., adjust=False, min_periods=...).mean()`. -/
def ewm (alpha : ℚ) (minPeriods : ℕ) (a : Series) : Series :=
  accumulate (Ewm.step alpha minPeriods) ⟨none,1,0⟩ a

end Series

namespace Flags

abbrev and (a b : Flags) : Flags := List.zipWith Bool.and a b
abbrev not (a : Flags) : Flags := List.map Bool.not a

/-- `flags.shift(1, fill_value=False)`. -/
abbrev shifted (a : Flags) : Flags := shift 1 false a

/-- `flags.cumsum()`. -/
abbrev cumsum (a : Flags) : List ℕ :=
  accumulate (fun total b => let total := if b then total+1 else total; (total,total)) 0 a

end Flags

/-- `s.groupby(keys).cumcount()`: the earlier rows of the same key. -/
abbrev cumcount (keys : List ℕ) : List ℕ :=
  accumulate (fun seen key => (key::seen,seen.count key)) [] keys

section Aggregates

def mean (values : List ℚ) : PyFloat := .finite (values.sum/values.length)
def total (values : List ℚ) : PyFloat := .finite values.sum
def maximum (values : List ℚ) : PyFloat := values.max?.elim .nan .finite
def minimum (values : List ℚ) : PyFloat := values.min?.elim .nan .finite

/-- The sample standard deviation. -/
def std [FloatMath] (values : List ℚ) : PyFloat :=
  let m := values.sum/values.length
  .finite (FloatMath.sqrt ((values.map fun x => (x-m)^2).sum/(values.length-1)))

/-- Slope and intercept of `np.polyfit(range(len(values)), values, 1)`. -/
def polyfit (values : List ℚ) : ℚ × ℚ :=
  let n : ℚ := values.length
  let xs : List ℚ := (List.range values.length).map fun i => (i : ℚ)
  let sx := xs.sum
  let sy := values.sum
  let slope := (n*(List.zipWith (· * ·) xs values).sum-sx*sy)/(n*(xs.map fun x => x*x).sum-sx*sx)
  (slope,(sy-slope*sx)/n)

def slope (values : List ℚ) : PyFloat := .finite (polyfit values).1

/-- `_regression_line_value`: the fitted line at its most recent point. -/
def regressionLineValue (values : List ℚ) : PyFloat :=
  .finite ((polyfit values).1*(values.length-1)+(polyfit values).2)

/-- `np.argmin(values) / len(values)`. -/
def argminRatio (values : List ℚ) : PyFloat :=
  match values.min? with
  | some least => .finite (values.idxOf least/values.length)
  | none => .nan

end Aggregates

section Causality
variable (n : ℕ)

@[simp] theorem shift_take {α : Type*} (k : ℕ) (fill : α) (xs : List α) :
    shift k fill (xs.take n) = (shift k fill xs).take n := causal_shift k fill n xs

@[simp] theorem accumulate_take {α β σ : Type*} (step : σ → α → σ × β) (s : σ) (xs : List α) :
    accumulate step s (xs.take n) = (accumulate step s xs).take n := causal_accumulate step s n xs

@[simp] theorem rolling_take (w : ℕ) (g : List ℚ → PyFloat) (a : Series) :
    Series.rolling w g (a.take n) = (Series.rolling w g a).take n :=
  (causal_map _).comp (causal_windows w) n a

@[simp] theorem ewm_take (alpha : ℚ) (minPeriods : ℕ) (a : Series) :
    Series.ewm alpha minPeriods (a.take n) = (Series.ewm alpha minPeriods a).take n :=
  causal_accumulate _ _ n a

@[simp] theorem diff_take (a : Series) : Series.diff (a.take n) = (Series.diff a).take n := by
  simp only [Series.diff, shift_take, ← List.take_zipWith]

@[simp] theorem pctChange_take (k : ℕ) (a : Series) :
    Series.pctChange k (a.take n) = (Series.pctChange k a).take n := by
  simp only [Series.pctChange, Series.div, shift_take, ← List.take_zipWith, List.map_take]

end Causality

end MarketScanner.Features
