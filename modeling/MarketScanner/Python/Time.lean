import Mathlib.Tactic.Common
import Mathlib.Data.Int.Notation
import Mathlib.Data.Nat.Notation

/-! Dates and aware datetimes. An instant is a count of microseconds since 1970-01-01 UTC, a date a
count of days since 1970-01-01; the proleptic Gregorian calendar is computed from the latter. -/
namespace MarketScanner.Python

/-- Decimal digits padded with zeros on the left. -/
def padLeft (width n : ℕ) : String :=
  let digits := toString n
  String.ofList (List.replicate (width-digits.length) '0') ++ digits

structure Date where
  day : ℤ
  deriving DecidableEq, Repr

namespace Date

instance : LE Date := ⟨fun a b => a.day ≤ b.day⟩
instance : LT Date := ⟨fun a b => a.day < b.day⟩
instance (a b : Date) : Decidable (a ≤ b) := Int.decLe a.day b.day
instance (a b : Date) : Decidable (a < b) := Int.decLt a.day b.day

theorem le_iff {a b : Date} : a ≤ b ↔ a.day ≤ b.day := Iff.rfl
theorem lt_iff {a b : Date} : a < b ↔ a.day < b.day := Iff.rfl

/-- `date.weekday()`: Monday is 0. -/
def weekday (d : Date) : ℤ := (d.day+3) % 7

/-- Year, month and day of the month, counting years from 1 March of year 0 in eras of 400. -/
def civil (d : Date) : ℤ × ℕ × ℕ :=
  let z := d.day+719468
  let era := z / 146097
  let doe := (z % 146097).toNat
  let yoe := (doe-doe/1460+doe/36524-doe/146096)/365
  let doy := doe-(365*yoe+yoe/4-yoe/100)
  let mp := (5*doy+2)/153
  let month := if mp < 10 then mp+3 else mp-9
  let year : ℤ := era*400+yoe+(if month ≤ 2 then 1 else 0)
  (year,month,doy-(153*mp+2)/5+1)

def year (d : Date) : ℤ := d.civil.1

def ofCivil (year : ℤ) (month dayOfMonth : ℕ) : Date :=
  let y := if month ≤ 2 then year-1 else year
  let era := y / 400
  let yoe := (y % 400).toNat
  let mp := if 2 < month then month-3 else month+9
  let doy := (153*mp+2)/5+dayOfMonth-1
  let doe := yoe*365+yoe/4-yoe/100+doy
  ⟨era*146097+doe-719468⟩

/-- `date.isoformat()`. -/
def isoformat (d : Date) : String :=
  let (y,m,dd) := d.civil
  padLeft 4 y.toNat ++ "-" ++ padLeft 2 m ++ "-" ++ padLeft 2 dd

example : (ofCivil 2026 1 5).isoformat = "2026-01-05" ∧ (ofCivil 2026 1 5).weekday = 0 := by
  decide

end Date

/-- A span of time in microseconds. -/
abbrev TimeDelta := ℤ

namespace TimeDelta

/-- `timedelta(minutes=m)`. -/
def minutes (m : ℤ) : TimeDelta := m*60000000

def day : TimeDelta := 86400000000

/-- Clock text of a number of microseconds below one day: `H:MM:SS[.ffffff]`. -/
def clock (hours : ℕ → String) (us : ℕ) : String :=
  let s := us/1000000
  hours (s/3600) ++ ":" ++ padLeft 2 (s/60 % 60) ++ ":" ++ padLeft 2 (s % 60) ++
    (if us % 1000000 = 0 then "" else "." ++ padLeft 6 (us % 1000000))

/-- `str(delta)`. -/
def toStr (delta : TimeDelta) : String :=
  let days := delta / day
  (if days = 0 then "" else toString days ++ (if days.natAbs = 1 then " day, " else " days, ")) ++
    clock toString (delta % day).toNat

end TimeDelta

/-- An aware datetime: the instant and the offset of the zone it is expressed in. -/
structure DateTime where
  utc : ℤ
  offset : TimeDelta
  deriving DecidableEq, Repr

namespace DateTime

/-- Comparisons look at the instant only. -/
instance : LE DateTime := ⟨fun a b => a.utc ≤ b.utc⟩
instance : LT DateTime := ⟨fun a b => a.utc < b.utc⟩
instance (a b : DateTime) : Decidable (a ≤ b) := Int.decLe a.utc b.utc
instance (a b : DateTime) : Decidable (a < b) := Int.decLt a.utc b.utc

theorem le_iff {a b : DateTime} : a ≤ b ↔ a.utc ≤ b.utc := Iff.rfl
theorem lt_iff {a b : DateTime} : a < b ↔ a.utc < b.utc := Iff.rfl

/-- An instant given by its UTC date and the minutes since midnight. -/
def ofUtc (d : Date) (minutes : ℤ) : DateTime :=
  ⟨d.day*TimeDelta.day+TimeDelta.minutes minutes,0⟩

def add (t : DateTime) (delta : TimeDelta) : DateTime := ⟨t.utc+delta,t.offset⟩
def sub (t : DateTime) (delta : TimeDelta) : DateTime := ⟨t.utc-delta,t.offset⟩

/-- `moment.astimezone(zone)` for a zone of fixed offset. -/
def astimezone (t : DateTime) (offset : TimeDelta) : DateTime := ⟨t.utc,offset⟩

/-- `moment.date()`: the calendar date in the datetime's own zone. -/
def date (t : DateTime) : Date := ⟨(t.utc+t.offset) / TimeDelta.day⟩

/-- `moment.time()`, as microseconds since the local midnight. -/
def time (t : DateTime) : ℤ := (t.utc+t.offset) % TimeDelta.day

/-- `moment.isoformat()`. -/
def isoformat (t : DateTime) : String :=
  let off := t.offset.natAbs
  t.date.isoformat ++ "T" ++ TimeDelta.clock (padLeft 2) t.time.toNat ++
    (if t.offset < 0 then "-" else "+") ++ padLeft 2 (off/3600000000) ++ ":" ++
    padLeft 2 (off/60000000 % 60)

@[simp] theorem utc_sub (t : DateTime) (delta : TimeDelta) : (t.sub delta).utc = t.utc-delta := rfl
end DateTime
end MarketScanner.Python
