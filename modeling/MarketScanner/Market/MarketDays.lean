import Mathlib.Algebra.BigOperators.Ring.List
import MarketScanner.Market.Prices
import MarketScanner.Market.TradingDays

/-! Market days: what the clock says of an instant and what the bounds of a day say of it agree, so
the days partition time and counts by day lose and repeat nothing. -/
namespace MarketScanner.Market
open MarketScanner.Python

/-- A `datetime`, aware of its zone or naive. -/
inductive Moment
  | aware (t : DateTime)
  | naive (clock : ℤ)
  deriving DecidableEq

namespace Moment

/-- `moment if moment.tzinfo is not None else moment.replace(tzinfo=UTC)`. -/
def instant : Moment → DateTime
  | aware t => t
  | naive clock => ⟨clock,0⟩

def toMarketTime (m : Moment) (marketTimezone : TimeDelta) : DateTime :=
  m.instant.astimezone marketTimezone

/-- `market_date_of`. -/
def marketDateOf (m : Moment) (marketTimezone : TimeDelta) : Date := (m.toMarketTime marketTimezone).date

/-- The moment lies on the market day that the bounds enclose: at or after the first, and before the
second. -/
def OnDay (m : Moment) (marketTimezone : TimeDelta) (day : Date) : Prop :=
  (Core.marketDayBoundsUtc day marketTimezone).1 ≤ m.instant ∧
    m.instant < (Core.marketDayBoundsUtc day marketTimezone).2

instance (m : Moment) (marketTimezone : TimeDelta) (day : Date) :
    Decidable (m.OnDay marketTimezone day) := inferInstanceAs (Decidable (_ ∧ _))

theorem onDay_iff {m : Moment} {marketTimezone : TimeDelta} {day : Date} :
    m.OnDay marketTimezone day ↔ m.marketDateOf marketTimezone = day := Core.mem_marketDayBoundsUtc

end Moment

/-- How many of some moments lie on a day. -/
def countOn (marketTimezone : TimeDelta) (moments : List Moment) (day : Date) : ℕ :=
  moments.countP fun m => decide (m.OnDay marketTimezone day)

@[simp] theorem countOn_nil (marketTimezone : TimeDelta) (day : Date) :
    countOn marketTimezone [] day = 0 := rfl

@[simp] theorem countOn_cons (marketTimezone : TimeDelta) (m : Moment) (moments : List Moment)
    (day : Date) : countOn marketTimezone (m::moments) day =
      countOn marketTimezone moments day+if m.OnDay marketTimezone day then 1 else 0 := by
  simp [countOn, List.countP_cons]

/-- The days of a market partition time. -/
structure PartitionTime (marketTimezone : TimeDelta) : Prop where
  dateInBounds : ∀ (m : Moment) (day : Date),
    m.marketDateOf marketTimezone = day ↔ m.OnDay marketTimezone day
  meet : ∀ day : Date, (Core.marketDayBoundsUtc day marketTimezone).2 =
    (Core.marketDayBoundsUtc ⟨day.day+1⟩ marketTimezone).1
  exactlyOne : ∀ m : Moment, ∃! day, m.OnDay marketTimezone day
  countsMissNone : ∀ (moments : List Moment) (days : List Date), days.Nodup →
    (∀ m ∈ moments, ∃ day ∈ days, m.OnDay marketTimezone day) →
      (days.map (countOn marketTimezone moments)).sum = moments.length
  countsOverlapNever : ∀ (moments : List Moment) (days : List Date), days.Nodup →
    (days.map (countOn marketTimezone moments)).sum ≤ moments.length

section Counts
variable {marketTimezone : TimeDelta} {days : List Date}

/-- A moment is counted on the one day that is its date, if that is among the days. -/
theorem sum_onDay (h : days.Nodup) (m : Moment) :
    (days.map fun day => if m.OnDay marketTimezone day then 1 else 0).sum =
      if m.marketDateOf marketTimezone ∈ days then 1 else 0 := by
  induction days with
  | nil => rfl
  | cons day days ih =>
    obtain ⟨hfresh,hrest⟩ := List.nodup_cons.mp h
    rw [List.map_cons, List.sum_cons, ih hrest]
    simp only [Moment.onDay_iff, List.mem_cons]
    by_cases hday : m.marketDateOf marketTimezone = day
    · simp [hday, hfresh]
    · simp [hday]

/-- The counts of some days add up to the moments that are dated on one of them. -/
theorem sum_countOn (h : days.Nodup) (moments : List Moment) :
    (days.map (countOn marketTimezone moments)).sum =
      moments.countP fun m => decide (m.marketDateOf marketTimezone ∈ days) := by
  induction moments with
  | nil => simp [List.map_congr_left fun day _ => countOn_nil marketTimezone day]
  | cons m moments ih =>
    rw [List.map_congr_left fun day _ => countOn_cons marketTimezone m moments day, List.sum_map_add,
      ih, sum_onDay h, List.countP_cons]
    simp only [decide_eq_true_eq]

end Counts

theorem partitionTime (marketTimezone : TimeDelta) : PartitionTime marketTimezone where
  dateInBounds m day := Moment.onDay_iff.symm
  meet day := rfl
  exactlyOne m := by
    refine ⟨m.marketDateOf marketTimezone,Moment.onDay_iff.mpr rfl,fun day hday => ?_⟩
    exact (Moment.onDay_iff.mp hday).symm
  countsMissNone moments days h hall := by
    rw [sum_countOn h, List.countP_eq_length]
    intro m hm
    obtain ⟨day,hday,hon⟩ := hall m hm
    rw [Moment.onDay_iff.mp hon]
    exact decide_eq_true hday
  countsOverlapNever moments days h := by
    rw [sum_countOn h]
    exact List.countP_le_length

/-! ### The ends of the calendar -/

open MarketCalendar

/-- `market_date_of` of a moment that is a `datetime` in UTC, too: it raises where the market's clock leaves
the calendar. -/
def Moment.marketDateIn (m : Moment) (marketTimezone : TimeDelta) : Except CalendarError Date :=
  let day := m.marketDateOf marketTimezone
  if InCalendar day then .ok day else .error .overflow

/-- `market_day_bounds_utc`: the next midnight, and both of them in UTC, have to be in the calendar. -/
def marketDayBoundsIn (day : Date) (marketTimezone : TimeDelta) : Except CalendarError (DateTime × DateTime) :=
  let bounds := Core.marketDayBoundsUtc day marketTimezone
  if InCalendar (addDays 1 day) ∧ InCalendar bounds.1.date ∧ InCalendar bounds.2.date then .ok bounds
  else .error .overflow

theorem marketDayBoundsIn_eq_ok {day : Date} {marketTimezone : TimeDelta} {bounds : DateTime × DateTime}
    (h : marketDayBoundsIn day marketTimezone = .ok bounds) :
    bounds = Core.marketDayBoundsUtc day marketTimezone := by
  unfold marketDayBoundsIn at h
  dsimp only at h
  split at h
  · exact (Except.ok.inj h).symm
  · cases h

/-- Within the calendar the two conversions agree wherever the bounds are there, and these are missing for
the last day, and for the first one where the market is ahead of UTC. -/
structure PartitionCalendar (marketTimezone : TimeDelta) : Prop where
  bounded : ∀ day, InCalendar day → (marketDayBoundsIn day marketTimezone = .error .overflow ↔
    ¬InCalendar (addDays 1 day) ∨ (¬InCalendar (addDays (-1) day) ∧ (0 : ℤ) < marketTimezone))
  dateInBounds : ∀ (m : Moment) (day : Date) (bounds : DateTime × DateTime), InCalendar day →
    marketDayBoundsIn day marketTimezone = .ok bounds →
      (m.marketDateIn marketTimezone = .ok day ↔ bounds.1 ≤ m.instant ∧ m.instant < bounds.2)

theorem partitionCalendar {marketTimezone : TimeDelta} (hbehind : -TimeDelta.day < marketTimezone)
    (hahead : marketTimezone < TimeDelta.day) : PartitionCalendar marketTimezone where
  bounded day hday := by
    have hlow : (-86400000000 : ℤ) < marketTimezone := hbehind
    have hhigh : (86400000000 : ℤ) > marketTimezone := hahead
    unfold marketDayBoundsIn Core.marketDayBoundsUtc InCalendar addDays DateTime.date at *
    unfold TimeDelta.day at *
    dsimp only at hday ⊢
    split
    · simp only [reduceCtorEq, false_iff]
      omega
    · simp only [true_iff]
      omega
  dateInBounds m day bounds hday hbounds := by
    rw [marketDayBoundsIn_eq_ok hbounds]
    change _ ↔ m.OnDay marketTimezone day
    rw [Moment.onDay_iff, Moment.marketDateIn]
    constructor
    · intro h
      split at h
      · exact Except.ok.inj h
      · cases h
    · intro h
      rw [h]
      exact if_pos hday

end MarketScanner.Market
