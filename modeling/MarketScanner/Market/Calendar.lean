import MarketScanner.Config.Settings

/-! The exchange's trading calendar and the market-hours check built on it. -/
namespace MarketScanner.MarketCalendar
open MarketScanner.Python MarketScanner.Config

inductive MarketSegment
  | equity | fno
  deriving DecidableEq, Repr

def MarketSegment.value : MarketSegment → String
  | equity => "EQUITY"
  | fno => "FNO"

structure NSEHoliday where
  date : Date
  name : String
  segments : List MarketSegment
  deriving DecidableEq

def both : List MarketSegment := [.equity,.fno]
def equityOnly : List MarketSegment := [.equity]

def holidays2026 : List NSEHoliday :=
  [⟨Date.ofCivil 2026 1 26,"Republic Day",both⟩,
    ⟨Date.ofCivil 2026 3 3,"Holi",both⟩,
    ⟨Date.ofCivil 2026 3 26,"Shri Ram Navami",both⟩,
    ⟨Date.ofCivil 2026 3 31,"Shri Mahavir Jayanti",both⟩,
    ⟨Date.ofCivil 2026 4 3,"Good Friday",both⟩,
    ⟨Date.ofCivil 2026 4 14,"Dr. Baba Saheb Ambedkar Jayanti",both⟩,
    ⟨Date.ofCivil 2026 5 1,"Maharashtra Day",both⟩,
    ⟨Date.ofCivil 2026 5 28,"Bakri Id",both⟩,
    ⟨Date.ofCivil 2026 6 26,"Muharram",both⟩,
    ⟨Date.ofCivil 2026 9 14,"Ganesh Chaturthi",both⟩,
    ⟨Date.ofCivil 2026 10 2,"Mahatma Gandhi Jayanti",both⟩,
    ⟨Date.ofCivil 2026 10 20,"Dussehra",both⟩,
    ⟨Date.ofCivil 2026 11 10,"Diwali-Balipratipada",both⟩,
    ⟨Date.ofCivil 2026 11 24,"Prakash Gurpurb Sri Guru Nanak Dev",both⟩,
    ⟨Date.ofCivil 2026 12 25,"Christmas",both⟩,
    ⟨Date.ofCivil 2026 1 15,"Municipal Corporation Election - Maharashtra",equityOnly⟩,
    ⟨Date.ofCivil 2026 2 15,"Mahashivratri",both⟩,
    ⟨Date.ofCivil 2026 3 21,"Id-Ul-Fitr (Ramadan Eid)",both⟩,
    ⟨Date.ofCivil 2026 8 15,"Independence Day",both⟩,
    ⟨Date.ofCivil 2026 11 8,"Diwali Laxmi Pujan",both⟩]

def holidaysByYear : List (ℤ × List NSEHoliday) := [(2026,holidays2026)]

/-- The text of `CalendarYearNotVerifiedError`, a `ValueError`. -/
def notVerified (year : ℤ) (segment : MarketSegment) : PyException :=
  .valueError (s!"No verified NSE {segment.value} holiday calendar for {year} — " ++
    s!"verified years are {holidaysByYear.map Prod.fst}. Not guessing.")

/-- The verified record for the day and segment; an unverified year raises. -/
def getHoliday (day : Date) (segment : MarketSegment) : Except PyException (Option NSEHoliday) :=
  match holidaysByYear.lookup day.year with
  | none => .error (notVerified day.year segment)
  | some holidays =>
    .ok (holidays.find? fun holiday => holiday.date == day && holiday.segments.contains segment)

def isMarketHoliday (day : Date) (segment : MarketSegment) : Except PyException Bool :=
  (getHoliday day segment).map Option.isSome

def isTradingDay (day : Date) (segment : MarketSegment) : Except PyException Bool :=
  if 5 ≤ day.weekday then .ok false
  else (isMarketHoliday day segment).map (! ·)

/-- `MarketStatusUpdater.is_market_open`: a year without verified holidays falls back to weekdays
and hours. -/
def isMarketOpen (settings : Settings) (now : DateTime) : Bool :=
  let moment := now.astimezone settings.marketTimezone
  if 5 ≤ moment.date.weekday then false
  else if ¬ (settings.marketOpenTime ≤ moment.time ∧ moment.time ≤ settings.marketCloseTime) then
    false
  else
    match isTradingDay moment.date .equity with
    | .ok trading => trading
    | .error _ => true

example : isMarketOpen {} (DateTime.ofUtc (Date.ofCivil 2026 1 6) 270) = true ∧
    isMarketOpen {} (DateTime.ofUtc (Date.ofCivil 2026 1 26) 270) = false := by decide +kernel

end MarketScanner.MarketCalendar
