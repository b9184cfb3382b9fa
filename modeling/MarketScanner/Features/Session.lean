import MarketScanner.Library.Extremes
import MarketScanner.Library.Series
import MarketScanner.Python.Decimals

/-! The session features of one market day's intraday bars, and the bars that its opening range and
initial balance are taken over. -/
namespace MarketScanner.Features.Session
open MarketScanner.Library MarketScanner.Python

/-- A row of the intraday frame. Its place in the index is an instant, or what the market's clock
shows where the index is naive. -/
structure IntradayRow where
  index : ℤ
  openPrice : ℚ
  high : ℚ
  low : ℚ
  close : ℚ
  volume : ℚ

/-- The offset of a timezone at each instant. -/
abbrev Zone := ℤ → TimeDelta

structure IntradayFrame where
  tz : Option Zone
  rows : List IntradayRow

structure SessionFeatures where
  openingRangeHigh : Option ℚ
  openingRangeLow : Option ℚ
  initialBalanceHigh : Option ℚ
  initialBalanceLow : Option ℚ
  dayHigh : Option ℚ
  dayLow : Option ℚ
  sessionVwap : Option ℚ
  deriving DecidableEq

/-- `_MARKET_OPEN`, 09:15. -/
def marketOpen : TimeDelta := TimeDelta.minutes 555

def openingRangeMinutes : ℤ := 15
def initialBalanceMinutes : ℤ := 60

/-- `Asia/Kolkata`. -/
def ist : TimeDelta := TimeDelta.minutes 330

/-- `session_date`. -/
def sessionDate (tz : Option Zone) (marketTimezone : TimeDelta) (firstBar : ℤ) : Date :=
  match tz with
  | some zone => ((⟨firstBar,zone firstBar⟩ : DateTime).astimezone marketTimezone).date
  | none => ⟨firstBar / TimeDelta.day⟩

/-- `market_open_dt`, as a place of the index. -/
def marketOpenDt (tz : Option Zone) (marketTimezone : TimeDelta) (sessionDate : Date) : ℤ :=
  let naiveMarketOpen := sessionDate.day*TimeDelta.day+marketOpen
  match tz with
  | some zone =>
    let localized : DateTime := ⟨naiveMarketOpen-marketTimezone,marketTimezone⟩
    (localized.astimezone (zone localized.utc)).utc
  | none => naiveMarketOpen

/-- `_decimal` of a number: rounded to four places. -/
def decimal (value : ℚ) : ℚ := roundTo 4 value

/-- The highest high of the rows; none of no rows. -/
def highOf (rows : List IntradayRow) : Option ℚ := (rows.map IntradayRow.high).max?.map decimal
def lowOf (rows : List IntradayRow) : Option ℚ := (rows.map IntradayRow.low).min?.map decimal

/-- `df[df.index < end]`. -/
def before (bound : ℤ) (rows : List IntradayRow) : List IntradayRow :=
  rows.filter fun row => decide (row.index < bound)

def typicalPrice (row : IntradayRow) : ℚ := (row.high+row.low+row.close)/3

/-- `s.cumsum()`. -/
def cumsum (xs : List ℚ) : List ℚ := accumulate (fun sum x => (sum+x,sum+x)) 0 xs

/-- The volume-weighted average so far at each row, missing while the volume is zero. -/
def vwapSeries (rows : List IntradayRow) : List (Option ℚ) :=
  List.zipWith (fun pv volume => if volume = 0 then none else some (pv/volume))
    (cumsum (rows.map fun row => typicalPrice row*row.volume))
    (cumsum (rows.map IntradayRow.volume))

/-- `SessionFeatureCalculator.calculate`. -/
def calculate (df : IntradayFrame) (marketTimezone : TimeDelta := ist) : SessionFeatures :=
  match df.rows with
  | [] => ⟨none,none,none,none,none,none,none⟩
  | firstBar::_ =>
    let sessionDate := sessionDate df.tz marketTimezone firstBar.index
    let marketOpenDt := marketOpenDt df.tz marketTimezone sessionDate
    let openingRange := before (marketOpenDt+TimeDelta.minutes openingRangeMinutes) df.rows
    let initialBalance := before (marketOpenDt+TimeDelta.minutes initialBalanceMinutes) df.rows
    { openingRangeHigh := highOf openingRange
      openingRangeLow := lowOf openingRange
      initialBalanceHigh := highOf initialBalance
      initialBalanceLow := lowOf initialBalance
      dayHigh := highOf df.rows
      dayLow := lowOf df.rows
      sessionVwap := ((vwapSeries df.rows).getLast?.bind id).map decimal }

theorem decimal_mono : Monotone decimal := roundTo_mono 4

theorem highOf_eq (rows : List IntradayRow) :
    highOf rows = (rows.map fun row => decimal row.high).max? := (max?_map_map decimal_mono).symm

theorem lowOf_eq (rows : List IntradayRow) :
    lowOf rows = (rows.map fun row => decimal row.low).min? := (min?_map_map decimal_mono).symm

/-! ### The market's clock -/
section Clock
variable (df : IntradayFrame) (marketTimezone : TimeDelta)

/-- What the market's clock shows at a row, in microseconds from the start of 1970-01-01 there. -/
def marketClock (row : IntradayRow) : ℤ :=
  match df.tz with
  | some _ => row.index+marketTimezone
  | none => row.index

def marketDate (row : IntradayRow) : Date := ⟨marketClock df marketTimezone row / TimeDelta.day⟩

/-- The time of day on the market's clock. -/
def marketTime (row : IntradayRow) : ℤ := marketClock df marketTimezone row % TimeDelta.day

/-- The rows of the first minutes from the market's opening on. -/
def window (minutes : ℤ) : List IntradayRow :=
  df.rows.filter fun row => decide (marketOpen ≤ marketTime df marketTimezone row ∧
    marketTime df marketTimezone row < marketOpen+TimeDelta.minutes minutes)

/-- A level is the highest high of rows, to four places, and absent if there are none. -/
def IsHighOf (rows : List IntradayRow) : Option ℚ → Prop
  | some level => ∃ m, IsGreatest {x | ∃ row ∈ rows, row.high = x} m ∧ level = decimal m
  | none => rows = []

def IsLowOf (rows : List IntradayRow) : Option ℚ → Prop
  | some level => ∃ m, IsLeast {x | ∃ row ∈ rows, row.low = x} m ∧ level = decimal m
  | none => rows = []

structure RangesAreWindows : Prop where
  openingHigh : IsHighOf (window df marketTimezone openingRangeMinutes)
    (calculate df marketTimezone).openingRangeHigh
  openingLow : IsLowOf (window df marketTimezone openingRangeMinutes)
    (calculate df marketTimezone).openingRangeLow
  balanceHigh : IsHighOf (window df marketTimezone initialBalanceMinutes)
    (calculate df marketTimezone).initialBalanceHigh
  balanceLow : IsLowOf (window df marketTimezone initialBalanceMinutes)
    (calculate df marketTimezone).initialBalanceLow

/-- To four places, a bar before the opening stays within the bars of the opening range. -/
def WithinOpening (row : IntradayRow) : Prop :=
  (∃ w ∈ window df marketTimezone openingRangeMinutes, decimal row.high ≤ decimal w.high) ∧
    ∃ w ∈ window df marketTimezone openingRangeMinutes, decimal w.low ≤ decimal row.low

end Clock

theorem isHighOf_iff {rows : List IntradayRow} {level : Option ℚ} :
    IsHighOf rows level ↔ level = highOf rows := by
  rw [highOf]
  cases level with
  | none => rw [IsHighOf, eq_comm (a := none), Option.map_eq_none_iff, List.max?_eq_none_iff,
      List.map_eq_nil_iff]
  | some x =>
    simp only [IsHighOf, isGreatest_iff_max?_map, eq_comm (a := some x), Option.map_eq_some_iff,
      eq_comm (a := x)]

theorem isLowOf_iff {rows : List IntradayRow} {level : Option ℚ} :
    IsLowOf rows level ↔ level = lowOf rows := by
  rw [lowOf]
  cases level with
  | none => rw [IsLowOf, eq_comm (a := none), Option.map_eq_none_iff, List.min?_eq_none_iff,
      List.map_eq_nil_iff]
  | some x =>
    simp only [IsLowOf, isLeast_iff_min?_map, eq_comm (a := some x), Option.map_eq_some_iff,
      eq_comm (a := x)]

section Windows
variable {df : IntradayFrame} {marketTimezone : TimeDelta} {day : Date}

theorem sessionDate_eq (row : IntradayRow) :
    sessionDate df.tz marketTimezone row.index = marketDate df marketTimezone row := by
  unfold sessionDate marketDate marketClock
  cases df.tz <;> rfl

/-- On the day of the session the index and the market's clock run alike. -/
theorem index_lt_iff {row : IntradayRow} (h : marketDate df marketTimezone row = day) (span : TimeDelta) :
    row.index < marketOpenDt df.tz marketTimezone day+span ↔
      marketTime df marketTimezone row < marketOpen+span := by
  obtain rfl := h
  unfold marketOpenDt marketDate marketTime marketClock TimeDelta.day
  cases df.tz with
  | none =>
    dsimp only
    omega
  | some zone =>
    dsimp only [DateTime.astimezone]
    omega

variable (h : ∀ row ∈ df.rows, marketDate df marketTimezone row = day)
include h

theorem before_marketOpenDt (minutes : ℤ) :
    before (marketOpenDt df.tz marketTimezone day+TimeDelta.minutes minutes) df.rows =
      df.rows.filter fun row =>
        decide (marketTime df marketTimezone row < marketOpen+TimeDelta.minutes minutes) := by
  apply List.filter_congr
  intro row hrow
  exact decide_eq_decide.mpr (index_lt_iff (h row hrow) _)

theorem calculate_ranges :
    (calculate df marketTimezone).openingRangeHigh =
        highOf (before (marketOpenDt df.tz marketTimezone day+TimeDelta.minutes openingRangeMinutes)
          df.rows) ∧
      (calculate df marketTimezone).openingRangeLow =
        lowOf (before (marketOpenDt df.tz marketTimezone day+TimeDelta.minutes openingRangeMinutes)
          df.rows) ∧
      (calculate df marketTimezone).initialBalanceHigh =
        highOf (before (marketOpenDt df.tz marketTimezone day+TimeDelta.minutes initialBalanceMinutes)
          df.rows) ∧
      (calculate df marketTimezone).initialBalanceLow =
        lowOf (before (marketOpenDt df.tz marketTimezone day+TimeDelta.minutes initialBalanceMinutes)
          df.rows) := by
  unfold calculate
  cases hrows : df.rows with
  | nil => exact ⟨rfl,rfl,rfl,rfl⟩
  | cons firstBar rest =>
    have hdate : sessionDate df.tz marketTimezone firstBar.index = day :=
      (sessionDate_eq firstBar).trans (h firstBar (hrows ▸ List.mem_cons_self))
    simp only [hdate, and_self]

/-- The window is what is left of the rows before its end without those before the opening. -/
theorem window_eq (minutes : ℤ) : window df marketTimezone minutes =
    (before (marketOpenDt df.tz marketTimezone day+TimeDelta.minutes minutes) df.rows).filter
      fun row => decide (marketOpen ≤ marketTime df marketTimezone row) := by
  rw [before_marketOpenDt h, List.filter_filter, window]
  simp only [Bool.decide_and]

theorem mem_before {minutes : ℤ} (hminutes : 0 ≤ minutes) {row : IntradayRow} (hrow : row ∈ df.rows)
    (hearly : marketTime df marketTimezone row < marketOpen) :
    row ∈ before (marketOpenDt df.tz marketTimezone day+TimeDelta.minutes minutes) df.rows := by
  rw [before_marketOpenDt h]
  refine List.mem_filter.mpr ⟨hrow,decide_eq_true ?_⟩
  unfold TimeDelta.minutes
  omega

theorem highOf_window_iff {minutes : ℤ} (hminutes : 0 ≤ minutes) :
    highOf (before (marketOpenDt df.tz marketTimezone day+TimeDelta.minutes minutes) df.rows) =
        highOf (window df marketTimezone minutes) ↔
      ∀ row ∈ df.rows, marketTime df marketTimezone row < marketOpen →
        ∃ w ∈ window df marketTimezone minutes, decimal row.high ≤ decimal w.high := by
  rw [highOf_eq, highOf_eq, window_eq h, max?_map_filter_eq_iff]
  constructor
  · intro hall row hrow hearly
    exact hall row (mem_before h hminutes hrow hearly) (decide_eq_false (not_le.mpr hearly))
  · intro hall row hrow hearly
    exact hall row (List.mem_of_mem_filter hrow) (not_le.mp (of_decide_eq_false hearly))

theorem lowOf_window_iff {minutes : ℤ} (hminutes : 0 ≤ minutes) :
    lowOf (before (marketOpenDt df.tz marketTimezone day+TimeDelta.minutes minutes) df.rows) =
        lowOf (window df marketTimezone minutes) ↔
      ∀ row ∈ df.rows, marketTime df marketTimezone row < marketOpen →
        ∃ w ∈ window df marketTimezone minutes, decimal w.low ≤ decimal row.low := by
  rw [lowOf_eq, lowOf_eq, window_eq h, min?_map_filter_eq_iff]
  constructor
  · intro hall row hrow hearly
    exact hall row (mem_before h hminutes hrow hearly) (decide_eq_false (not_le.mpr hearly))
  · intro hall row hrow hearly
    exact hall row (List.mem_of_mem_filter hrow) (not_le.mp (of_decide_eq_false hearly))

omit h in
/-- The opening range is the start of the initial balance. -/
theorem window_subset {row : IntradayRow}
    (hrow : row ∈ window df marketTimezone openingRangeMinutes) :
    row ∈ window df marketTimezone initialBalanceMinutes := by
  obtain ⟨hmem,hinside⟩ := List.mem_filter.mp hrow
  obtain ⟨hopen,hend⟩ := of_decide_eq_true hinside
  refine List.mem_filter.mpr ⟨hmem,decide_eq_true ⟨hopen,hend.trans ?_⟩⟩
  unfold openingRangeMinutes initialBalanceMinutes TimeDelta.minutes
  omega

/-- The ranges are taken over their windows exactly when the bars before the opening, which the code
takes in as well, stay within the bars of the opening range. -/
theorem rangesAreWindows_iff : RangesAreWindows df marketTimezone ↔
    ∀ row ∈ df.rows, marketTime df marketTimezone row < marketOpen →
      WithinOpening df marketTimezone row := by
  obtain ⟨hopenHigh,hopenLow,hbalanceHigh,hbalanceLow⟩ := calculate_ranges h
  have hopening : (0 : ℤ) ≤ openingRangeMinutes := by decide
  have hbalance : (0 : ℤ) ≤ initialBalanceMinutes := by decide
  constructor
  · intro hranges row hrow hearly
    have hhigh := isHighOf_iff.mp hranges.openingHigh
    have hlow := isLowOf_iff.mp hranges.openingLow
    rw [hopenHigh] at hhigh
    rw [hopenLow] at hlow
    exact ⟨(highOf_window_iff h hopening).mp hhigh row hrow hearly,
      (lowOf_window_iff h hopening).mp hlow row hrow hearly⟩
  · intro hearly
    constructor
    case openingHigh =>
      rw [isHighOf_iff, hopenHigh, highOf_window_iff h hopening]
      exact fun row hrow hrow' => (hearly row hrow hrow').1
    case openingLow =>
      rw [isLowOf_iff, hopenLow, lowOf_window_iff h hopening]
      exact fun row hrow hrow' => (hearly row hrow hrow').2
    case balanceHigh =>
      rw [isHighOf_iff, hbalanceHigh, highOf_window_iff h hbalance]
      intro row hrow hrow'
      obtain ⟨w,hw,hle⟩ := (hearly row hrow hrow').1
      exact ⟨w,window_subset hw,hle⟩
    case balanceLow =>
      rw [isLowOf_iff, hbalanceLow, lowOf_window_iff h hbalance]
      intro row hrow hrow'
      obtain ⟨w,hw,hle⟩ := (hearly row hrow hrow').2
      exact ⟨w,window_subset hw,hle⟩

end Windows

/-- A bar of day 20000, so many minutes after midnight UTC. -/
def utcBar (minutes : ℤ) (high low : ℚ) : IntradayRow :=
  ⟨20000*TimeDelta.day+TimeDelta.minutes minutes,low,high,low,low,1000⟩

/-- A bar at 09:14 IST and the first bar of the session. -/
def preOpenFrame : IntradayFrame := ⟨some fun _ => 0,[utcBar 224 110 90,utcBar 225 101 99]⟩

theorem preOpenFrame_date :
    ∀ row ∈ preOpenFrame.rows, marketDate preOpenFrame ist row = ⟨20000⟩ := by decide

theorem rangesAreWindows_iff_preOpen :
    (∀ row ∈ preOpenFrame.rows, marketDate preOpenFrame ist row = ⟨20000⟩) ∧
      (RangesAreWindows preOpenFrame ist ↔ ∀ row ∈ preOpenFrame.rows,
        marketTime preOpenFrame ist row < marketOpen → WithinOpening preOpenFrame ist row) :=
  ⟨preOpenFrame_date,rangesAreWindows_iff preOpenFrame_date⟩

/-- The bar before the opening makes the opening range 90 to 110, where it is 99 to 101. -/
theorem preOpenFrame_not_window :
    ¬∀ (df : IntradayFrame) (day : Date), df.rows.Pairwise (fun a b => a.index < b.index) →
      (∀ row ∈ df.rows, marketDate df ist row = day) → RangesAreWindows df ist := by
  intro h
  have hsorted : preOpenFrame.rows.Pairwise fun a b => a.index < b.index := by decide
  have hhigh := isHighOf_iff.mp (h preOpenFrame ⟨20000⟩ hsorted preOpenFrame_date).openingHigh
  revert hhigh
  decide +kernel

end MarketScanner.Features.Session
