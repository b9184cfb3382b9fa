import Mathlib.Algebra.Order.Ring.Abs
import MarketScanner.Library.Sieve
import MarketScanner.Market.Intraday

/-! Validation of candles whose numbers are of any size and type: a number is tested for corruption by
turning it into a float. -/
namespace MarketScanner.Market
open MarketScanner.Library MarketScanner.Python

/-- An int, a finite Decimal or float, or no finite number. -/
inductive FieldNumber
  | int (n : ℤ)
  | real (q : ℚ)
  | nan
  | inf (negative : Bool)
  deriving DecidableEq

structure RawCandle where
  timestamp : DateTime
  openPrice : Option FieldNumber
  high : Option FieldNumber
  low : Option FieldNumber
  close : Option FieldNumber
  volume : Option FieldNumber
  vwap : Option FieldNumber
  deriving DecidableEq

/-- What ends the checks of a candle: a `ValidationError`, or the `OverflowError` of `float`. -/
inductive CandleFault
  | invalid (error : CandleError)
  | overflow
  deriving DecidableEq

/-- From this magnitude on a number is rounded past the largest float. -/
def floatLimit : ℤ := 2^1024-2^970

/-- The number in a field. -/
def number : Option FieldNumber → Option ℚ
  | some (.int n) => some n
  | some (.real q) => some q
  | _ => none

namespace AnyNumbers

/-- `_is_corrupted`, with the number where it is not. An int past the floats makes `float` raise, a Decimal
becomes infinite. -/
def finiteValue : Option FieldNumber → Except CandleFault (Option ℚ)
  | some (.int n) => if (floatLimit : ℚ) ≤ |(n : ℚ)| then .error .overflow else .ok (some n)
  | some (.real q) => if (floatLimit : ℚ) ≤ |q| then .ok none else .ok (some q)
  | _ => .ok none

/-- `_validate_non_negative`, also the loop body of `_validate_ohlc`. -/
def validateNonNegative (field : String) (value : Option FieldNumber) : Except CandleFault ℚ :=
  match finiteValue value with
  | .error fault => .error fault
  | .ok none => .error (.invalid (.corrupted field))
  | .ok (some q) => if q < 0 then .error (.invalid (.negative field)) else .ok q

def validateOhlc (candle : RawCandle) : Except CandleFault Unit := do
  let openPrice ← validateNonNegative "open" candle.openPrice
  let high ← validateNonNegative "high" candle.high
  let low ← validateNonNegative "low" candle.low
  let close ← validateNonNegative "close" candle.close
  if high < low then throw (.invalid .highBelowLow)
  if high < openPrice ∨ high < close then throw (.invalid .highBelowOpenOrClose)
  if openPrice < low ∨ close < low then throw (.invalid .lowAboveOpenOrClose)

def validateCandle (candle : RawCandle) : Except CandleFault Unit := do
  validateOhlc candle
  let _ ← validateNonNegative "volume" candle.volume
  match candle.vwap with
  | none => pure ()
  | some vwap =>
    let _ ← validateNonNegative "vwap" (some vwap)

/-- Whether a candle passes; a `ValidationError` is caught. -/
def isValid (candle : RawCandle) : Except CandleFault Bool :=
  match validateCandle candle with
  | .ok () => .ok true
  | .error (.invalid _) => .ok false
  | .error .overflow => .error .overflow

/-- `validate_candles`. -/
def validateCandles (candles : List RawCandle) : Except CandleFault (List RawCandle) :=
  Sieve.sift (fun candle => candle.timestamp.utc) isValid [] candles

end AnyNumbers

/-! ### The checks in order -/

/-- A number that must not be negative, or a comparison of the four prices. -/
inductive Check
  | number (field : String) (value : Option FieldNumber)
  | order (error : CandleError) (holds : Bool)

namespace Check

def run : Check → Except CandleFault Unit
  | number field value => (AnyNumbers.validateNonNegative field value).map fun _ => ()
  | order error holds => if holds then .ok () else .error (.invalid error)

def runAll : List Check → Except CandleFault Unit
  | [] => .ok ()
  | check::checks =>
    match check.run with
    | .error fault => .error fault
    | .ok () => runAll checks

/-- What the check is for holds. -/
def fair : Check → Bool
  | number _ value =>
    match Market.number value with
    | some q => decide (0 ≤ q)
    | none => false
  | order _ holds => holds

/-- A number past the floats. -/
def Huge : Check → Prop
  | number _ value => ∃ q, Market.number value = some q ∧ (floatLimit : ℚ) ≤ |q|
  | order _ _ => False

def HugeInt : Check → Prop
  | number _ value => ∃ n : ℤ, value = some (.int n) ∧ (floatLimit : ℚ) ≤ |(n : ℚ)|
  | order _ _ => False

end Check

/-- A comparison of the four prices, where they are numbers. -/
def RawCandle.compare (c : RawCandle) (p : ℚ → ℚ → ℚ → ℚ → Prop) [∀ o h l k, Decidable (p o h l k)] :
    Bool :=
  match number c.openPrice, number c.high, number c.low, number c.close with
  | some openPrice, some high, some low, some close => decide (p openPrice high low close)
  | _, _, _, _ => false

/-- The checks that `validate_candle` makes, in its order. -/
def RawCandle.checks (c : RawCandle) : List Check :=
  [.number "open" c.openPrice,.number "high" c.high,.number "low" c.low,.number "close" c.close,
    .order .highBelowLow (c.compare fun _ high low _ => ¬ high < low),
    .order .highBelowOpenOrClose
      (c.compare fun openPrice high _ close => ¬ (high < openPrice ∨ high < close)),
    .order .lowAboveOpenOrClose
      (c.compare fun openPrice _ low close => ¬ (openPrice < low ∨ close < low)),
    .number "volume" c.volume] ++
    match c.vwap with
    | none => []
    | some vwap => [.number "vwap" (some vwap)]

namespace AnyNumbers

theorem number_of_validateNonNegative {field : String} {value : Option FieldNumber} {q : ℚ}
    (h : validateNonNegative field value = .ok q) : number value = some q := by
  unfold validateNonNegative finiteValue at h
  split at h
  · cases h
  · cases h
  · rename_i q' hvalue
    split at h
    · cases h
    · obtain rfl := Except.ok.inj h
      split at hvalue
      · split at hvalue <;> simp_all [number]
      · split at hvalue <;> simp_all [number]
      · simp at hvalue

/-- `validate_candle` runs the checks. -/
theorem validateCandle_eq (c : RawCandle) : validateCandle c = Check.runAll c.checks := by
  unfold validateCandle validateOhlc RawCandle.checks
  cases hopen : validateNonNegative "open" c.openPrice with
  | error fault => simp [Check.runAll, Check.run, hopen, bind, Except.bind, Except.map]
  | ok openPrice =>
    cases hhigh : validateNonNegative "high" c.high with
    | error fault => simp [Check.runAll, Check.run, hopen, hhigh, bind, Except.bind, Except.map]
    | ok high =>
      cases hlow : validateNonNegative "low" c.low with
      | error fault => simp [Check.runAll, Check.run, hopen, hhigh, hlow, bind, Except.bind, Except.map]
      | ok low =>
        cases hclose : validateNonNegative "close" c.close with
        | error fault =>
          simp [Check.runAll, Check.run, hopen, hhigh, hlow, hclose, bind, Except.bind, Except.map]
        | ok close =>
          have hcompare : ∀ (p : ℚ → ℚ → ℚ → ℚ → Prop) [∀ o h l k, Decidable (p o h l k)],
              c.compare p = decide (p openPrice high low close) := by
            intro p _
            unfold RawCandle.compare
            rw [number_of_validateNonNegative hopen, number_of_validateNonNegative hhigh,
              number_of_validateNonNegative hlow, number_of_validateNonNegative hclose]
          simp only [hcompare]
          simp only [Check.runAll, Check.run, hopen, hhigh, hlow, hclose, List.cons_append,
            List.nil_append, bind, Except.bind, Except.map, throw, throwThe, MonadExceptOf.throw, pure,
            Except.pure, decide_eq_true_eq]
          by_cases hlevels : high < low
          · simp [hlevels]
          · by_cases hupper : high < openPrice ∨ high < close
            · simp [hlevels, hupper]
            · by_cases hlower : openPrice < low ∨ close < low
              · simp [hlevels, hupper, hlower]
              · simp only [hlevels, hupper, hlower, if_false, not_false_eq_true, if_true]
                cases hvolume : validateNonNegative "volume" c.volume with
                | error fault => rfl
                | ok volume =>
                  cases hvwap : c.vwap with
                  | none => rfl
                  | some vwap =>
                    cases hchecked : validateNonNegative "vwap" (some vwap) <;>
                      simp [Check.runAll, Check.run, hchecked, Except.map]

end AnyNumbers

namespace Check

/-- A check that holds passes, unless its number is past the floats. -/
theorem run_eq_of_passes {check : Check} (hfair : check.fair = true) (hsize : ¬ check.Huge) :
    check.run = .ok () := by
  cases check with
  | order error holds => exact if_pos hfair
  | number field value =>
    rcases value with _ | (n | q | _ | negative)
    · simp [fair, Market.number] at hfair
    · have hn : (0 : ℚ) ≤ n := by simpa [fair, Market.number] using hfair
      have hlimit : ¬ (floatLimit : ℚ) ≤ |(n : ℚ)| := by simpa [Huge, Market.number] using hsize
      simp [run, AnyNumbers.validateNonNegative, AnyNumbers.finiteValue, hlimit, not_lt.mpr hn,
        Except.map]
    · have hq : (0 : ℚ) ≤ q := by simpa [fair, Market.number] using hfair
      have hlimit : ¬ (floatLimit : ℚ) ≤ |q| := by simpa [Huge, Market.number] using hsize
      simp [run, AnyNumbers.validateNonNegative, AnyNumbers.finiteValue, hlimit, not_lt.mpr hq,
        Except.map]
    · simp [fair, Market.number] at hfair
    · simp [fair, Market.number] at hfair

theorem run_eq_of_hugeInt {check : Check} (h : check.HugeInt) : check.run = .error .overflow := by
  cases check with
  | order error holds => cases h
  | number field value =>
    obtain ⟨n,rfl,hlimit⟩ := h
    simp [run, AnyNumbers.validateNonNegative, AnyNumbers.finiteValue, hlimit, Except.map]

theorem run_eq_of_refused {check : Check} (hsize : ¬ check.HugeInt)
    (h : check.fair = false ∨ check.Huge) : ∃ error, check.run = .error (.invalid error) := by
  cases check with
  | order error holds =>
    rcases h with hfair | hhuge
    · exact ⟨error,by simpa [run, fair] using hfair⟩
    · cases hhuge
  | number field value =>
    rcases value with _ | (n | q | _ | negative)
    · exact ⟨_,rfl⟩
    · have hlimit : ¬ (floatLimit : ℚ) ≤ |(n : ℚ)| := by simpa [HugeInt] using hsize
      have hn : (n : ℚ) < 0 := by simpa [fair, Huge, Market.number, hlimit] using h
      exact ⟨.negative field,by
        simp [run, AnyNumbers.validateNonNegative, AnyNumbers.finiteValue, hlimit, hn, Except.map]⟩
    · by_cases hlimit : (floatLimit : ℚ) ≤ |q|
      · exact ⟨.corrupted field,by
          simp [run, AnyNumbers.validateNonNegative, AnyNumbers.finiteValue, hlimit, Except.map]⟩
      · have hq : q < 0 := by simpa [fair, Huge, Market.number, hlimit] using h
        exact ⟨.negative field,by
          simp [run, AnyNumbers.validateNonNegative, AnyNumbers.finiteValue, hlimit, hq, Except.map]⟩
    · exact ⟨_,rfl⟩
    · exact ⟨_,rfl⟩

end Check

/-! ### What is kept -/

/-- Finite prices in order, and a volume and a VWAP that are not negative. -/
structure WellFormed (c : RawCandle) : Prop where
  prices : ∃ openPrice high low close, number c.openPrice = some openPrice ∧
    number c.high = some high ∧ number c.low = some low ∧ number c.close = some close ∧
    0 ≤ low ∧ low ≤ openPrice ∧ low ≤ close ∧ openPrice ≤ high ∧ close ≤ high
  volume : ∃ volume, number c.volume = some volume ∧ 0 ≤ volume
  vwap : c.vwap = none ∨ ∃ vwap, number c.vwap = some vwap ∧ 0 ≤ vwap

/-- What is returned: the first well-formed candle of each instant, in order. -/
structure Sifted (candles kept : List RawCandle) : Prop where
  sublist : kept.Sublist candles
  distinct : (kept.map fun c => c.timestamp.utc).Nodup
  wellFormed : ∀ c ∈ kept, WellFormed c
  occurs : ∀ t, t ∈ kept.map (fun c => c.timestamp.utc) ↔
    ∃ c ∈ candles, WellFormed c ∧ c.timestamp.utc = t
  first : ∀ before c after, candles = before ++ c::after → WellFormed c →
    (∀ b ∈ before, WellFormed b → b.timestamp.utc ≠ c.timestamp.utc) → c ∈ kept

/-- The first check that does not pass meets a number past the floats, and that is an int, or all the
checks hold. -/
def Mishandles (checks : List Check) : Prop :=
  ∃ before check after, checks = before ++ check::after ∧
    (∀ earlier ∈ before, earlier.fair = true ∧ ¬ earlier.Huge) ∧ check.Huge ∧
    (check.HugeInt ∨ checks.all Check.fair = true)

theorem Check.huge_of_hugeInt {check : Check} (h : check.HugeInt) : check.Huge := by
  cases check with
  | order error holds => exact h
  | number field value =>
    obtain ⟨n,rfl,hlimit⟩ := h
    exact ⟨n,rfl,hlimit⟩

theorem mishandles_cons_of_passes {check : Check} {checks : List Check} (hfair : check.fair = true)
    (hsize : ¬ check.Huge) : Mishandles (check::checks) ↔ Mishandles checks := by
  unfold Mishandles
  rw [List.all_cons, hfair, Bool.true_and]
  constructor
  · rintro ⟨before,failing,after,heq,hbefore,hhuge,hkind⟩
    cases before with
    | nil =>
      obtain ⟨rfl,rfl⟩ := List.cons.inj heq
      exact absurd hhuge hsize
    | cons first before =>
      obtain ⟨rfl,rfl⟩ := List.cons.inj heq
      exact ⟨before,failing,after,rfl,(List.forall_mem_cons.mp hbefore).2,hhuge,hkind⟩
  · rintro ⟨before,failing,after,rfl,hbefore,hhuge,hkind⟩
    exact ⟨check::before,failing,after,rfl,List.forall_mem_cons.mpr ⟨⟨hfair,hsize⟩,hbefore⟩,hhuge,hkind⟩

theorem mishandles_cons_of_fails {check : Check} {checks : List Check}
    (h : ¬ (check.fair = true ∧ ¬ check.Huge)) :
    Mishandles (check::checks) ↔
      check.Huge ∧ (check.HugeInt ∨ (check::checks).all Check.fair = true) := by
  constructor
  · rintro ⟨before,failing,after,heq,hbefore,hhuge,hkind⟩
    cases before with
    | nil =>
      obtain ⟨rfl,rfl⟩ := List.cons.inj heq
      exact ⟨hhuge,hkind⟩
    | cons first before =>
      obtain ⟨rfl,-⟩ := List.cons.inj heq
      exact absurd (List.forall_mem_cons.mp hbefore).1 h
  · rintro ⟨hhuge,hkind⟩
    exact ⟨[],check,checks,rfl,by simp,hhuge,hkind⟩

/-- The `except` clause of the loop. -/
def caught : Except CandleFault Unit → Except CandleFault Bool
  | .ok () => .ok true
  | .error (.invalid _) => .ok false
  | .error .overflow => .error .overflow

theorem caught_runAll_iff (checks : List Check) :
    caught (Check.runAll checks) = .ok (checks.all Check.fair) ↔ ¬ Mishandles checks := by
  induction checks with
  | nil =>
    refine iff_of_true rfl ?_
    rintro ⟨before,check,after,heq,-⟩
    simp at heq
  | cons check checks ih =>
    unfold Check.runAll
    by_cases hpasses : check.fair = true ∧ ¬ check.Huge
    · obtain ⟨hfair,hsize⟩ := hpasses
      rw [mishandles_cons_of_passes hfair hsize, ← ih, Check.run_eq_of_passes hfair hsize,
        List.all_cons, hfair, Bool.true_and]
    · rw [mishandles_cons_of_fails hpasses]
      by_cases hint : check.HugeInt
      · rw [Check.run_eq_of_hugeInt hint]
        exact iff_of_false (by simp [caught]) fun h => h ⟨Check.huge_of_hugeInt hint,Or.inl hint⟩
      · have hrefused : check.fair = false ∨ check.Huge := by
          cases hfair : check.fair with
          | false => exact Or.inl rfl
          | true => exact Or.inr (not_not.mp fun hsize => hpasses ⟨hfair,hsize⟩)
        obtain ⟨error,herror⟩ := Check.run_eq_of_refused hint hrefused
        rw [herror]
        simp only [caught, Except.ok.injEq, hint, false_or]
        cases hall : (check::checks).all Check.fair with
        | false => simp
        | true =>
          have hfair : check.fair = true := by
            rw [List.all_cons, Bool.and_eq_true] at hall
            exact hall.1
          simpa using hrefused.resolve_left (by simp [hfair])

/-- The four prices and their comparisons hold just when the prices are in order. -/
theorem prices_fair_iff (c : RawCandle) :
    (Check.number "open" c.openPrice).fair = true ∧
      (Check.number "high" c.high).fair = true ∧ (Check.number "low" c.low).fair = true ∧
      (Check.number "close" c.close).fair = true ∧
      (c.compare fun _ high low _ => ¬ high < low) = true ∧
      (c.compare fun openPrice high _ close => ¬ (high < openPrice ∨ high < close)) = true ∧
      (c.compare fun openPrice _ low close => ¬ (openPrice < low ∨ close < low)) = true ↔
        ∃ openPrice high low close, number c.openPrice = some openPrice ∧
          number c.high = some high ∧ number c.low = some low ∧ number c.close = some close ∧
          0 ≤ low ∧ low ≤ openPrice ∧ low ≤ close ∧ openPrice ≤ high ∧ close ≤ high := by
  unfold RawCandle.compare
  cases hopen : number c.openPrice <;> cases hhigh : number c.high <;>
    cases hlow : number c.low <;> cases hclose : number c.close <;>
    simp [Check.fair, hopen, hhigh, hlow, hclose]
  constructor
  · rintro ⟨h₁,h₂,h₃,h₄,h₅,⟨h₆,h₇⟩,h₈,h₉⟩
    exact ⟨h₃,h₈,h₉,h₆,h₇⟩
  · rintro ⟨hlow,hlowOpen,hlowClose,hopenHigh,hcloseHigh⟩
    have hopen := hlow.trans hlowOpen
    exact ⟨hopen,hopen.trans hopenHigh,hlow,hlow.trans hlowClose,hlowOpen.trans hopenHigh,
      ⟨hopenHigh,hcloseHigh⟩,hlowOpen,hlowClose⟩

/-- All checks of a candle hold just when it is well formed. -/
theorem all_fair_iff (c : RawCandle) : c.checks.all Check.fair = true ↔ WellFormed c := by
  have hvwap : (match c.vwap with
      | none => []
      | some vwap => [Check.number "vwap" (some vwap)]).all Check.fair = true ↔
        c.vwap = none ∨ ∃ vwap, number c.vwap = some vwap ∧ 0 ≤ vwap := by
    cases hfield : c.vwap with
    | none => simp
    | some vwap => cases hnumber : number (some vwap) <;> simp [Check.fair, hnumber]
  have hvolume : (Check.number "volume" c.volume).fair = true ↔
      ∃ volume, number c.volume = some volume ∧ 0 ≤ volume := by
    cases hnumber : number c.volume <;> simp [Check.fair, hnumber]
  unfold RawCandle.checks
  rw [List.all_append, Bool.and_eq_true, hvwap]
  simp only [List.all_cons, List.all_nil, Bool.and_eq_true, Bool.and_true, hvolume]
  constructor
  · rintro ⟨⟨h₁,h₂,h₃,h₄,h₅,h₆,h₇,hvol⟩,hvw⟩
    exact ⟨(prices_fair_iff c).mp ⟨h₁,h₂,h₃,h₄,h₅,h₆,h₇⟩,hvol,hvw⟩
  · rintro ⟨hfour,hvol,hvw⟩
    obtain ⟨h₁,h₂,h₃,h₄,h₅,h₆,h₇⟩ := (prices_fair_iff c).mpr hfour
    exact ⟨⟨h₁,h₂,h₃,h₄,h₅,h₆,h₇,hvol⟩,hvw⟩

theorem isValid_eq (c : RawCandle) : AnyNumbers.isValid c = caught (Check.runAll c.checks) := by
  rw [← AnyNumbers.validateCandle_eq]
  unfold AnyNumbers.isValid caught
  rcases AnyNumbers.validateCandle c with (error | _) | _ <;> rfl

/-- The instant of a candle, which is what the loop has seen. -/
def instant (c : RawCandle) : ℤ := c.timestamp.utc

/-- The loop's own notions in terms of candles. -/
theorem reached_iff {candles : List RawCandle} {c : RawCandle} :
    Sieve.Reached instant (fun c => c.checks.all Check.fair) [] candles c ↔
      ∃ before after, candles = before ++ c::after ∧
        ∀ b ∈ before, WellFormed b → b.timestamp.utc ≠ c.timestamp.utc := by
  simp only [Sieve.Reached, all_fair_iff, List.not_mem_nil, not_false_eq_true, true_and, instant]

theorem keeps_iff_sifted {candles kept : List RawCandle} :
    Sieve.Keeps instant (fun c => c.checks.all Check.fair) [] candles kept ↔ Sifted candles kept := by
  constructor
  · rintro ⟨hsub,hdistinct,hsound,hoccurs,hfirst⟩
    simp only [all_fair_iff, List.not_mem_nil, not_false_eq_true, true_and] at hsound hoccurs hfirst
    refine ⟨hsub,hdistinct,hsound,hoccurs,?_⟩
    intro before c after heq hc hbefore
    exact hfirst c (reached_iff.mpr ⟨before,after,heq,hbefore⟩) hc
  · rintro ⟨hsub,hdistinct,hsound,hoccurs,hfirst⟩
    constructor
    · exact hsub
    · exact hdistinct
    · simpa only [all_fair_iff] using hsound
    · simp only [all_fair_iff, List.not_mem_nil, not_false_eq_true, true_and]
      exact hoccurs
    · intro c hreached hc
      obtain ⟨before,after,heq,hbefore⟩ := reached_iff.mp hreached
      exact hfirst before c after heq ((all_fair_iff c).mp hc) hbefore

/-- Validation returns the first well-formed candle of each instant just when no candle that it looks at is
mishandled. -/
theorem validateCandles_sifted_iff (candles : List RawCandle) :
    (∃ kept, AnyNumbers.validateCandles candles = .ok kept ∧ Sifted candles kept) ↔
      ∀ before c after, candles = before ++ c::after →
        (∀ b ∈ before, WellFormed b → b.timestamp.utc ≠ c.timestamp.utc) →
        ¬ Mishandles c.checks := by
  have hloop : (∃ kept, AnyNumbers.validateCandles candles = .ok kept ∧ Sifted candles kept) ↔
      ∃ kept, Sieve.sift instant AnyNumbers.isValid [] candles = .ok kept ∧
        Sieve.Keeps instant (fun c => c.checks.all Check.fair) [] candles kept :=
    exists_congr fun kept => and_congr_right fun _ => keeps_iff_sifted.symm
  rw [hloop, Sieve.sift_keeps_iff]
  constructor
  · intro h before c after heq hbefore
    rw [← caught_runAll_iff, ← isValid_eq]
    exact h c (reached_iff.mpr ⟨before,after,heq,hbefore⟩)
  · intro h c hreached
    obtain ⟨before,after,heq,hbefore⟩ := reached_iff.mp hreached
    rw [isValid_eq, caught_runAll_iff]
    exact h before c after heq hbefore

/-! ### Candles whose numbers are floats -/

/-- A float, as a number of a field. -/
def FieldNumber.ofFloat : PyFloat → FieldNumber
  | .finite q => .real q
  | .nan => .nan
  | .inf negative => .inf negative

def RawCandle.ofProvider (c : ProviderCandle) : RawCandle where
  timestamp := c.timestamp
  openPrice := c.openPrice.map FieldNumber.ofFloat
  high := c.high.map FieldNumber.ofFloat
  low := c.low.map FieldNumber.ofFloat
  close := c.close.map FieldNumber.ofFloat
  volume := c.volume.map FieldNumber.ofFloat
  vwap := c.vwap.map FieldNumber.ofFloat

/-- Its finite numbers are floats. -/
def ProviderCandle.InRange (c : ProviderCandle) : Prop :=
  ∀ value ∈ [c.openPrice,c.high,c.low,c.close,c.volume,c.vwap], ∀ q, value = some (.finite q) →
    |q| < (floatLimit : ℚ)

theorem validateNonNegative_ofFloat (field : String) {value : Option PyFloat}
    (h : ∀ q, value = some (.finite q) → |q| < (floatLimit : ℚ)) :
    AnyNumbers.validateNonNegative field (value.map FieldNumber.ofFloat) =
      (DataValidator.validateNonNegative field value).mapError CandleFault.invalid := by
  rcases value with _ | (_ | negative | q)
  · rfl
  · rfl
  · rfl
  · have hlimit := not_le.mpr (h q rfl)
    simp only [AnyNumbers.validateNonNegative, AnyNumbers.finiteValue, Option.map_some,
      FieldNumber.ofFloat, hlimit, if_false, DataValidator.validateNonNegative]
    split <;> rfl

theorem mapError_bind {ε ε' α β : Type} (g : ε → ε') (x : Except ε α) (f : α → Except ε β) :
    (x >>= f).mapError g = x.mapError g >>= fun a => (f a).mapError g := by
  cases x <;> rfl

theorem validateOhlc_ofProvider {c : ProviderCandle} (h : c.InRange) :
    AnyNumbers.validateOhlc (RawCandle.ofProvider c) =
      (DataValidator.validateOhlc c).mapError CandleFault.invalid := by
  have hopen := validateNonNegative_ofFloat "open" (h c.openPrice (by simp))
  have hhigh := validateNonNegative_ofFloat "high" (h c.high (by simp))
  have hlow := validateNonNegative_ofFloat "low" (h c.low (by simp))
  have hclose := validateNonNegative_ofFloat "close" (h c.close (by simp))
  unfold AnyNumbers.validateOhlc DataValidator.validateOhlc RawCandle.ofProvider
  simp only [mapError_bind, hopen, hhigh, hlow, hclose]
  congr 1
  funext openPrice
  congr 1
  funext high
  congr 1
  funext low
  congr 1
  funext close
  split_ifs <;> rfl

theorem validateCandle_ofProvider {c : ProviderCandle} (h : c.InRange) :
    AnyNumbers.validateCandle (RawCandle.ofProvider c) =
      (DataValidator.validateCandle c).mapError CandleFault.invalid := by
  have hvolume := validateNonNegative_ofFloat "volume" (h c.volume (by simp))
  have hvwap := validateNonNegative_ofFloat "vwap" (h c.vwap (by simp))
  unfold AnyNumbers.validateCandle DataValidator.validateCandle
  rw [mapError_bind, validateOhlc_ofProvider h]
  congr 1
  funext _
  rw [mapError_bind]
  simp only [RawCandle.ofProvider, hvolume]
  congr 1
  funext _
  cases hfield : c.vwap with
  | none => rfl
  | some vwap =>
    rw [hfield, Option.map_some] at hvwap
    simp only [Option.map_some, hvwap]
    cases DataValidator.validateNonNegative "vwap" (some vwap) <;> rfl

/-- On candles of floats the validation is the one of `DataValidator`. -/
theorem validateCandles_ofProvider {candles : List ProviderCandle} (h : ∀ c ∈ candles, c.InRange) :
    AnyNumbers.validateCandles (candles.map RawCandle.ofProvider) =
      .ok ((DataValidator.validateCandles candles).map RawCandle.ofProvider) := by
  have hvalid : ∀ c : ProviderCandle, c.InRange →
      AnyNumbers.isValid (RawCandle.ofProvider c) = .ok (DataValidator.isValid c) := by
    intro c hc
    unfold AnyNumbers.isValid DataValidator.isValid
    rw [validateCandle_ofProvider hc]
    rcases DataValidator.validateCandle c with error | _ <;> rfl
  have hloop : ∀ seen : List ℤ,
      Sieve.sift instant AnyNumbers.isValid seen (candles.map RawCandle.ofProvider) =
        .ok ((DataValidator.validateFrom seen candles).map RawCandle.ofProvider) := by
    induction candles with
    | nil => exact fun _ => rfl
    | cons c candles ih =>
      obtain ⟨hhead,htail⟩ := List.forall_mem_cons.mp h
      intro seen
      have hinstant : instant (RawCandle.ofProvider c) = c.timestamp.utc := rfl
      rw [List.map_cons, Sieve.sift, DataValidator.validateFrom, hinstant, hvalid c hhead, ih htail,
        ih htail]
      split_ifs with hseen hgood
      · rfl
      · rw [hgood]
        rfl
      · rw [Bool.not_eq_true] at hgood
        rw [hgood]
  exact hloop []

/-! ### A volume that is no float -/

def hugeVolume : RawCandle :=
  ⟨DateTime.ofUtc ⟨20001⟩ 270,some (.real 100),some (.real 101),some (.real 99),some (.real 100),
    some (.int (2^1024)),none⟩

/-- The whole list fails on it. -/
theorem hugeVolume_not_sifted :
    ¬ ∃ kept, AnyNumbers.validateCandles [hugeVolume] = .ok kept ∧ Sifted [hugeVolume] kept := by
  rintro ⟨kept,hkept,-⟩
  have hfails : (AnyNumbers.validateCandles [hugeVolume]).toOption.isNone = true := by decide +kernel
  rw [hkept] at hfails
  cases hfails

end MarketScanner.Market
