import Mathlib.Order.Bounds.Basic
import MarketScanner.Library.BoundedWalk
import MarketScanner.Market.Calendar

/-! Trading days of any holiday registry, and the walks to the next and the previous one. -/
namespace MarketScanner.MarketCalendar
open MarketScanner.Python MarketScanner.Library

/-- `HOLIDAYS_BY_YEAR`: the holidays of each verified year. -/
abbrev HolidayRegistry := List (ℤ × List NSEHoliday)

inductive CalendarError
  | notVerified (year : ℤ) (segment : MarketSegment) (text : String)
  | runtime (text : String)
  | overflow
  deriving DecidableEq

def CalendarError.text : CalendarError → String
  | notVerified _ _ text => text
  | runtime text => text
  | overflow => "date value out of range"

/-- The days from `date.min` to `date.max`. -/
def InCalendar (day : Date) : Prop := -719162 ≤ day.day ∧ day.day ≤ 2932896

instance (day : Date) : Decidable (InCalendar day) := inferInstanceAs (Decidable (_ ∧ _))

example : Date.ofCivil 1 1 1 = ⟨-719162⟩ ∧ Date.ofCivil 9999 12 31 = ⟨2932896⟩ := by decide

/-- `cursor + timedelta(days=days)`, where that is a date. -/
def addDays (days : ℤ) (cursor : Date) : Date := ⟨cursor.day+days⟩

/-- `_MAX_WALK_DAYS`. -/
def maxWalkDays : ℕ := 30

namespace HolidayRegistry
variable (registry : HolidayRegistry)

/-- The `CalendarYearNotVerifiedError` of a year. -/
def notVerified (year : ℤ) (segment : MarketSegment) : CalendarError :=
  .notVerified year segment (s!"No verified NSE {segment.value} holiday calendar for {year} — " ++
    s!"verified years are {(registry.map Prod.fst).mergeSort}. Not guessing.")

def getHoliday (day : Date) (segment : MarketSegment) : Except CalendarError (Option NSEHoliday) :=
  match registry.lookup day.year with
  | none => .error (registry.notVerified day.year segment)
  | some holidays =>
    .ok (holidays.find? fun holiday => holiday.date == day && holiday.segments.contains segment)

def isMarketHoliday (day : Date) (segment : MarketSegment) : Except CalendarError Bool :=
  (registry.getHoliday day segment).map Option.isSome

def isTradingDay (day : Date) (segment : MarketSegment) : Except CalendarError Bool :=
  if 5 ≤ day.weekday then .ok false
  else (registry.isMarketHoliday day segment).map (! ·)

/-- What the loops of the walks ask of the day they have stepped to; a step out of the calendar
raises. -/
def visit (segment : MarketSegment) (cursor : Date) : Except CalendarError Bool :=
  if InCalendar cursor then registry.isTradingDay cursor segment else .error .overflow

/-- The `RuntimeError` of a walk. -/
def noTradingDay (name : String) (day : Date) (segment : MarketSegment) : CalendarError :=
  .runtime (s!"{name}({day.isoformat}, {segment.value}) found no trading day within " ++
    s!"{maxWalkDays} days — likely a data bug, not a real NSE gap")

def previousTradingDay (day : Date) (segment : MarketSegment) : Except CalendarError Date :=
  walk (addDays (-1)) (registry.visit segment) (noTradingDay "previous_trading_day" day segment)
    maxWalkDays day

def nextTradingDay (day : Date) (segment : MarketSegment) : Except CalendarError Date :=
  walk (addDays 1) (registry.visit segment) (noTradingDay "next_trading_day" day segment)
    maxWalkDays day

/-- The exchange's own calendar is that of its registry. -/
theorem isTradingDay_holidaysByYear (day : Date) (segment : MarketSegment) :
    (isTradingDay holidaysByYear day segment).mapError (fun e => PyException.valueError e.text) =
      MarketCalendar.isTradingDay day segment := by
  unfold isTradingDay MarketCalendar.isTradingDay isMarketHoliday MarketCalendar.isMarketHoliday
    getHoliday MarketCalendar.getHoliday
  split
  · rfl
  · cases hyear : holidaysByYear.lookup day.year with
    | some holidays => rfl
    | none =>
      simp [Except.map, Except.mapError, notVerified, MarketCalendar.notVerified,
        CalendarError.text, holidaysByYear]

/-! ### What the days are -/

/-- A weekday of a verified year without a holiday of the segment. -/
def Trades (segment : MarketSegment) (day : Date) : Prop :=
  day.weekday < 5 ∧ ∃ holidays, registry.lookup day.year = some holidays ∧
    ∀ holiday ∈ holidays, holiday.date = day → segment ∉ holiday.segments

/-- A day of a weekend, or a holiday of the segment in a verified year. -/
def Closed (segment : MarketSegment) (day : Date) : Prop :=
  5 ≤ day.weekday ∨ ∃ holidays, registry.lookup day.year = some holidays ∧
    ∃ holiday ∈ holidays, holiday.date = day ∧ segment ∈ holiday.segments

/-- A weekday of a year that is not verified. -/
def Unverified (day : Date) : Prop := day.weekday < 5 ∧ registry.lookup day.year = none

/-- The exactness of the walks in a registry and a segment. -/
structure Navigates (segment : MarketSegment) : Prop where
  nextLeast : ∀ d r, registry.nextTradingDay d segment = .ok r →
    IsLeast {x | d < x ∧ registry.Trades segment x} r
  previousGreatest : ∀ d r, registry.previousTradingDay d segment = .ok r →
    IsGreatest {x | x < d ∧ registry.Trades segment x} r
  previousNext : ∀ d r, InCalendar d → registry.Trades segment d →
    registry.nextTradingDay d segment = .ok r → registry.previousTradingDay r segment = .ok d
  nextPrevious : ∀ d r, InCalendar d → registry.Trades segment d →
    registry.previousTradingDay d segment = .ok r → registry.nextTradingDay r segment = .ok d
  nextNotVerified : ∀ d, InCalendar d →
    ((∃ year text, registry.nextTradingDay d segment = .error (.notVerified year segment text)) ↔
      ∃ k, 1 ≤ k ∧ k ≤ 30 ∧ InCalendar (addDays k d) ∧ registry.Unverified (addDays k d) ∧
        ∀ j, 1 ≤ j → j < k → ¬registry.Trades segment (addDays j d))
  previousNotVerified : ∀ d, InCalendar d →
    ((∃ year text, registry.previousTradingDay d segment = .error (.notVerified year segment text)) ↔
      ∃ k, 1 ≤ k ∧ k ≤ 30 ∧ InCalendar (addDays (-k) d) ∧ registry.Unverified (addDays (-k) d) ∧
        ∀ j, 1 ≤ j → j < k → ¬registry.Trades segment (addDays (-j) d))
  nextRuntime : ∀ d, (∃ text, registry.nextTradingDay d segment = .error (.runtime text)) ↔
    ∀ k, 1 ≤ k → k ≤ 30 → InCalendar (addDays k d) ∧ registry.Closed segment (addDays k d)
  previousRuntime : ∀ d, (∃ text, registry.previousTradingDay d segment = .error (.runtime text)) ↔
    ∀ k, 1 ≤ k → k ≤ 30 → InCalendar (addDays (-k) d) ∧ registry.Closed segment (addDays (-k) d)

section Days
variable {registry} {segment : MarketSegment} {day : Date}

theorem isTradingDay_eq_true_iff :
    registry.isTradingDay day segment = .ok true ↔ registry.Trades segment day := by
  unfold isTradingDay isMarketHoliday getHoliday Trades
  by_cases hweekend : 5 ≤ day.weekday
  · simp [hweekend]
  · cases hyear : registry.lookup day.year with
    | none => simp [hweekend, Except.map]
    | some holidays => simp [hweekend, Except.map, not_le.mp hweekend]

theorem isTradingDay_eq_false_iff :
    registry.isTradingDay day segment = .ok false ↔ registry.Closed segment day := by
  unfold isTradingDay isMarketHoliday getHoliday Closed
  by_cases hweekend : 5 ≤ day.weekday
  · simp [hweekend]
  · cases hyear : registry.lookup day.year with
    | none => simp [hweekend, Except.map]
    | some holidays => simp [hweekend, Except.map]

theorem isTradingDay_eq_error_iff {e : CalendarError} :
    registry.isTradingDay day segment = .error e ↔
      registry.Unverified day ∧ registry.notVerified day.year segment = e := by
  unfold isTradingDay isMarketHoliday getHoliday Unverified
  by_cases hweekend : 5 ≤ day.weekday
  · simp [hweekend]
  · cases hyear : registry.lookup day.year with
    | none => simp [hweekend, Except.map, not_le.mp hweekend]
    | some holidays => simp [hweekend, Except.map]

theorem Closed.not_trades (h : registry.Closed segment day) : ¬registry.Trades segment day := by
  intro htrades
  rw [← isTradingDay_eq_true_iff, isTradingDay_eq_false_iff.mpr h] at htrades
  cases htrades

theorem Unverified.not_trades (h : registry.Unverified day) : ¬registry.Trades segment day := by
  intro htrades
  rw [← isTradingDay_eq_true_iff, isTradingDay_eq_error_iff.mpr ⟨h,rfl⟩] at htrades
  cases htrades

theorem Unverified.not_closed (h : registry.Unverified day) : ¬registry.Closed segment day := by
  intro hclosed
  rw [← isTradingDay_eq_false_iff, isTradingDay_eq_error_iff.mpr ⟨h,rfl⟩] at hclosed
  cases hclosed

theorem visit_eq_true_iff :
    registry.visit segment day = .ok true ↔ InCalendar day ∧ registry.Trades segment day := by
  rw [visit, ← isTradingDay_eq_true_iff]
  split <;> simp_all

theorem visit_eq_false_iff :
    registry.visit segment day = .ok false ↔ InCalendar day ∧ registry.Closed segment day := by
  rw [visit, ← isTradingDay_eq_false_iff]
  split <;> simp_all

theorem visit_eq_error {e : CalendarError} (h : registry.visit segment day = .error e) :
    InCalendar day ∧ registry.Unverified day ∧ registry.notVerified day.year segment = e ∨
      ¬InCalendar day ∧ CalendarError.overflow = e := by
  unfold visit at h
  split at h
  · rename_i hday
    exact Or.inl ⟨hday,isTradingDay_eq_error_iff.mp h⟩
  · rename_i hday
    exact Or.inr ⟨hday,Except.error.inj h⟩

end Days

/-! ### Walks in either direction -/
section Walks
variable {registry} {segment : MarketSegment} {s : ℤ} {giveUp : CalendarError} {d : Date}

theorem iterate_addDays (k : ℕ) : (addDays s)^[k] d = addDays (s*k) d := by
  induction k with
  | zero => simp [addDays]
  | succ k ih =>
    rw [Function.iterate_succ_apply', ih]
    simp only [addDays, Nat.cast_add, Nat.cast_one, Date.mk.injEq]
    ring

theorem closed_of_failsUpTo {k : ℕ} (h : FailsUpTo (addDays s) (registry.visit segment) k d) {j : ℤ}
    (hj : 1 ≤ j) (hjk : j ≤ k) :
    InCalendar (addDays (s*j) d) ∧ registry.Closed segment (addDays (s*j) d) := by
  obtain ⟨i,rfl⟩ : ∃ i : ℕ, j = (i+1 : ℕ) := ⟨(j-1).toNat,by omega⟩
  rw [← iterate_addDays]
  exact visit_eq_false_iff.mp (h i (by omega))

theorem walk_ok {r : Date}
    (h : walk (addDays s) (registry.visit segment) giveUp maxWalkDays d = .ok r) :
    ∃ k : ℤ, 1 ≤ k ∧ r = addDays (s*k) d ∧ registry.Trades segment r ∧
      ∀ j, 1 ≤ j → j < k → registry.Closed segment (addDays (s*j) d) := by
  obtain ⟨k,-,hfails,hr,htest⟩ := walk_eq_ok_iff.mp h
  rw [iterate_addDays] at hr
  refine ⟨(k+1 : ℕ),by omega,hr.symm,(visit_eq_true_iff.mp htest).2,fun j hj hjk => ?_⟩
  exact (closed_of_failsUpTo hfails hj (by omega)).2

theorem walk_notVerified_iff (hs : s = 1 ∨ s = -1) (hd : InCalendar d)
    (hgiveUp : ∀ year text, giveUp ≠ .notVerified year segment text) :
    (∃ year text, walk (addDays s) (registry.visit segment) giveUp maxWalkDays d =
        .error (.notVerified year segment text)) ↔
      ∃ k, 1 ≤ k ∧ k ≤ 30 ∧ InCalendar (addDays (s*k) d) ∧ registry.Unverified (addDays (s*k) d) ∧
        ∀ j, 1 ≤ j → j < k → ¬registry.Trades segment (addDays (s*j) d) := by
  constructor
  · rintro ⟨year,text,h⟩
    rcases walk_eq_error_iff.mp h with ⟨k,hk,hfails,htest⟩ | ⟨heq,-⟩
    · rw [iterate_addDays] at htest
      rcases visit_eq_error htest with ⟨hday,hunverified,-⟩ | ⟨-,heq⟩
      · unfold maxWalkDays at hk
        refine ⟨(k+1 : ℕ),by omega,by omega,hday,hunverified,fun j hj hjk => ?_⟩
        exact (closed_of_failsUpTo hfails hj (by omega)).2.not_trades
      · cases heq
    · exact absurd heq (hgiveUp year text)
  · rintro ⟨k,hk,hk',hday,hunverified,hbefore⟩
    -- The walk stops no later than at the unverified day, and not at a trading day.
    rcases failsUpTo_or (addDays s) (registry.visit segment) maxWalkDays d with
      hall | ⟨i,hi,hfails,hstop⟩
    · unfold maxWalkDays at hall
      exact absurd (closed_of_failsUpTo hall hk hk').2 hunverified.not_closed
    · have hik : ((i+1 : ℕ) : ℤ) ≤ k := by
        by_contra hlt
        exact hunverified.not_closed (closed_of_failsUpTo hfails hk (by omega)).2
      have hinside : InCalendar (addDays (s*(i+1 : ℕ)) d) := by
        unfold InCalendar addDays at *
        rcases hs with rfl | rfl <;> dsimp only at * <;> omega
      have hnot : ¬registry.Trades segment (addDays (s*(i+1 : ℕ)) d) := by
        rcases eq_or_lt_of_le hik with heq | hlt
        · rw [heq]
          exact hunverified.not_trades
        · exact hbefore _ (by omega) hlt
      rw [walk_of_failsUpTo hi hfails]
      rw [iterate_addDays] at hstop ⊢
      cases htest : registry.visit segment (addDays (s*(i+1 : ℕ)) d) with
      | ok trading =>
        cases trading with
        | true => exact absurd (visit_eq_true_iff.mp htest).2 hnot
        | false => exact absurd htest hstop
      | error e =>
        rcases visit_eq_error htest with ⟨-,-,rfl⟩ | ⟨houtside,-⟩
        · exact ⟨_,_,rfl⟩
        · exact absurd hinside houtside

theorem walk_runtime_iff {message : String} (hgiveUp : giveUp = .runtime message) :
    (∃ text, walk (addDays s) (registry.visit segment) giveUp maxWalkDays d =
        .error (.runtime text)) ↔
      ∀ k, 1 ≤ k → k ≤ 30 →
        InCalendar (addDays (s*k) d) ∧ registry.Closed segment (addDays (s*k) d) := by
  constructor
  · rintro ⟨text,h⟩ k hk hk'
    rcases walk_eq_error_iff.mp h with ⟨i,-,-,htest⟩ | ⟨-,hfails⟩
    · rcases visit_eq_error htest with ⟨-,-,heq⟩ | ⟨-,heq⟩ <;> cases heq
    · exact closed_of_failsUpTo hfails hk hk'
  · intro h
    refine ⟨message,hgiveUp ▸ walk_of_failsUpTo_all fun j hj => ?_⟩
    rw [iterate_addDays]
    unfold maxWalkDays at hj
    exact visit_eq_false_iff.mpr (h _ (by omega) (by omega))

end Walks

theorem addDays_sub (d x : Date) : addDays (x.day-d.day) d = x := by simp [addDays]

theorem addDays_neg_addDays (k : ℤ) (d : Date) : addDays (-k) (addDays k d) = d := by simp [addDays]

/-- Every registry and every segment is navigated exactly, on all dates of the calendar. -/
theorem navigates (segment : MarketSegment) : registry.Navigates segment where
  nextLeast d r h := by
    obtain ⟨k,hk,hr,htrades,hbefore⟩ := walk_ok h
    rw [one_mul] at hr
    have hday : r.day = d.day+k := congrArg Date.day hr
    refine ⟨⟨Date.lt_iff.mpr (by omega),htrades⟩,fun x hx => Date.le_iff.mpr ?_⟩
    by_contra hlt
    have hpos := Date.lt_iff.mp hx.1
    have hclosed := hbefore (x.day-d.day) (by omega) (by omega)
    rw [one_mul, addDays_sub] at hclosed
    exact hclosed.not_trades hx.2
  previousGreatest d r h := by
    obtain ⟨k,hk,hr,htrades,hbefore⟩ := walk_ok h
    have hday : r.day = d.day+-1*k := congrArg Date.day hr
    refine ⟨⟨Date.lt_iff.mpr (by omega),htrades⟩,fun x hx => Date.le_iff.mpr ?_⟩
    by_contra hlt
    have hpos := Date.lt_iff.mp hx.1
    have hclosed := hbefore (d.day-x.day) (by omega) (by omega)
    rw [neg_one_mul, neg_sub, addDays_sub] at hclosed
    exact hclosed.not_trades hx.2
  previousNext d r hd htrades h :=
    walk_back (addDays_neg_addDays 1) (visit_eq_true_iff.mpr ⟨hd,htrades⟩) h
  nextPrevious d r hd htrades h := by
    have hback : ∀ x, addDays 1 (addDays (-1) x) = x := addDays_neg_addDays (-1)
    exact walk_back hback (visit_eq_true_iff.mpr ⟨hd,htrades⟩) h
  nextNotVerified d hd := by
    have h := @walk_notVerified_iff registry segment 1 (noTradingDay "next_trading_day" d segment) d
      (Or.inl rfl) hd fun _ _ heq => by cases heq
    simpa only [nextTradingDay, one_mul] using h
  previousNotVerified d hd := by
    have h := @walk_notVerified_iff registry segment (-1)
      (noTradingDay "previous_trading_day" d segment) d (Or.inr rfl) hd fun _ _ heq => by cases heq
    simpa only [previousTradingDay, neg_one_mul] using h
  nextRuntime d := by
    have h := @walk_runtime_iff registry segment 1 (noTradingDay "next_trading_day" d segment) d _ rfl
    simpa only [nextTradingDay, one_mul] using h
  previousRuntime d := by
    have h := @walk_runtime_iff registry segment (-1)
      (noTradingDay "previous_trading_day" d segment) d _ rfl
    simpa only [previousTradingDay, neg_one_mul] using h

/-- From Friday, 23 January 2026 the next trading day is the Tuesday after Republic Day. -/
example : nextTradingDay holidaysByYear (Date.ofCivil 2026 1 23) .equity =
    .ok (Date.ofCivil 2026 1 27) := by decide +kernel

end HolidayRegistry
end MarketScanner.MarketCalendar
