import Mathlib.Data.Finset.Empty
import Mathlib.Data.Finset.Dedup
import MarketScanner.Market.Intraday
import MarketScanner.Market.Prices

/-! The intraday bars of a date, as the price repository finds them, and the market day of that
date. -/
namespace MarketScanner.Market
open MarketScanner.Library MarketScanner.Python MarketScanner.Config

namespace PriceRepository

/-- `datetime.combine(day, datetime.min.time())`, which has no zone and is read as UTC. -/
def startOf (day : Date) : DateTime := ⟨day.day*TimeDelta.day,0⟩

/-- `datetime.combine(day, datetime.max.time())`, a microsecond before midnight. -/
def endOf (day : Date) : DateTime := ⟨day.day*TimeDelta.day+(TimeDelta.day-1),0⟩

/-- The `WHERE` clause on the instant of a bar. -/
def inBounds (day : Date) (p : IntradayPrice) : Bool :=
  decide (startOf day ≤ p.bar.timestamp) && decide (p.bar.timestamp < endOf day)

/-- `ORDER BY datetime ASC`. -/
def Older (a b : Row IntradayPrice) : Prop := a.val.bar.timestamp ≤ b.val.bar.timestamp

instance : DecidableRel Older := fun a b =>
  inferInstanceAs (Decidable (a.val.bar.timestamp ≤ b.val.bar.timestamp))

def getIntradayForDate (scan : ScanOrder (Row IntradayPrice)) (t : IntradayPrices) (symbolId : ℕ)
    (day : Date) : List IntradayPrice :=
  (orderBy scan Older (t.table.rows.filter fun r =>
    decide (r.val.symbolId = symbolId) && inBounds day r.val)).map Row.val

def listSymbolIdsWithIntradayOn (t : IntradayPrices) (symbolIds : List ℕ) (day : Date) : Finset ℕ :=
  if symbolIds = [] then ∅
  else ((t.table.rows.filter fun r =>
    decide (r.val.symbolId ∈ symbolIds) && inBounds day r.val).map fun r => r.val.symbolId).toFinset

end PriceRepository

open PriceRepository

/-- A stored bar. -/
def Holds (t : IntradayPrices) (p : IntradayPrice) : Prop := ∃ r ∈ t.table.rows, r.val = p

/-- The date of a bar in India. -/
def IntradayPrice.date (p : IntradayPrice) : Date := marketDateOf {} p.bar.timestamp

/-- The time of day of a bar in India. -/
def IntradayPrice.time (p : IntradayPrice) : ℤ :=
  (Core.toMarketTime p.bar.timestamp ({} : Settings).marketTimezone).time

/-- The queries for a date find the bars of that market day and no others. -/
structure FindMarketDay (scan : ScanOrder (Row IntradayPrice)) (t : IntradayPrices) (day : Date) :
    Prop where
  bars : ∀ symbolId p, p ∈ getIntradayForDate scan t symbolId day ↔
    Holds t p ∧ p.symbolId = symbolId ∧ p.date = day
  symbols : ∀ symbolIds symbolId, symbolId ∈ listSymbolIdsWithIntradayOn t symbolIds day ↔
    symbolId ∈ symbolIds ∧ ∃ p, Holds t p ∧ p.symbolId = symbolId ∧ p.date = day

/-- A bar before 05:30 of the day in India, where UTC still has the day before, or one that early on
the next day, where it is not yet 05:29:59.999999. -/
def Misplaced (day : Date) (p : IntradayPrice) : Prop :=
  p.date = day ∧ p.time < TimeDelta.minutes 330 ∨
    p.date = ⟨day.day+1⟩ ∧ p.time < TimeDelta.minutes 330-1

section Queries
variable {scan : ScanOrder (Row IntradayPrice)} {t : IntradayPrices} {day : Date}

theorem mem_getIntradayForDate {symbolId : ℕ} {p : IntradayPrice} :
    p ∈ getIntradayForDate scan t symbolId day ↔
      Holds t p ∧ p.symbolId = symbolId ∧ inBounds day p = true := by
  simp only [getIntradayForDate, List.mem_map, mem_orderBy, List.mem_filter, Bool.and_eq_true,
    decide_eq_true_eq, Holds]
  constructor
  · rintro ⟨r,⟨hr,hsymbol,hbounds⟩,rfl⟩
    exact ⟨⟨r,hr,rfl⟩,hsymbol,hbounds⟩
  · rintro ⟨⟨r,hr,rfl⟩,hsymbol,hbounds⟩
    exact ⟨r,⟨hr,hsymbol,hbounds⟩,rfl⟩

theorem mem_listSymbolIdsWithIntradayOn {symbolIds : List ℕ} {symbolId : ℕ} :
    symbolId ∈ listSymbolIdsWithIntradayOn t symbolIds day ↔
      symbolId ∈ symbolIds ∧ ∃ p, Holds t p ∧ p.symbolId = symbolId ∧ inBounds day p = true := by
  unfold listSymbolIdsWithIntradayOn
  split
  · rename_i hnil
    simp [hnil]
  · simp only [List.mem_toFinset, List.mem_map, List.mem_filter, Bool.and_eq_true,
      decide_eq_true_eq, Holds]
    constructor
    · rintro ⟨r,⟨hr,hsymbol,hbounds⟩,rfl⟩
      exact ⟨hsymbol,r.val,⟨r,hr,rfl⟩,rfl,hbounds⟩
    · rintro ⟨hsymbol,_,⟨r,hr,rfl⟩,rfl,hbounds⟩
      exact ⟨r,⟨hr,hsymbol,hbounds⟩,rfl⟩

/-- The bounds agree with the market day on every bar but a misplaced one. -/
theorem inBounds_iff_date (p : IntradayPrice) :
    (inBounds day p = true ↔ p.date = day) ↔ ¬Misplaced day p := by
  have hdate : ∀ d : Date, p.date = d ↔ (p.bar.timestamp.utc+19800000000) / 86400000000 = d.day := by
    intro d
    cases d
    exact Date.mk.injEq _ _ ▸ Iff.rfl
  have htime : p.time = (p.bar.timestamp.utc+19800000000) % 86400000000 := rfl
  have hinside : inBounds day p = true ↔ day.day*86400000000 ≤ p.bar.timestamp.utc ∧
      p.bar.timestamp.utc < day.day*86400000000+(86400000000-1) := by
    rw [inBounds, Bool.and_eq_true, decide_eq_true_eq, decide_eq_true_eq]
    exact Iff.rfl
  rw [Misplaced, hinside, hdate, hdate, htime]
  unfold TimeDelta.minutes
  dsimp only
  omega

/-- The queries find the market day exactly when no stored bar falls where it and the day in UTC
differ. -/
theorem findMarketDay_iff :
    FindMarketDay scan t day ↔ ∀ p, Holds t p → ¬Misplaced day p := by
  constructor
  · intro h p hp
    rw [← inBounds_iff_date]
    have hmem := h.bars p.symbolId p
    rw [mem_getIntradayForDate] at hmem
    constructor
    · exact fun hbounds => (hmem.mp ⟨hp,rfl,hbounds⟩).2.2
    · exact fun hdate => (hmem.mpr ⟨hp,rfl,hdate⟩).2.2
  · intro h
    have hdate : ∀ p, Holds t p → (inBounds day p = true ↔ p.date = day) := fun p hp =>
      (inBounds_iff_date p).mpr (h p hp)
    constructor
    case bars =>
      intro symbolId p
      rw [mem_getIntradayForDate]
      exact and_congr_right fun hp => and_congr_right fun _ => hdate p hp
    case symbols =>
      intro symbolIds symbolId
      rw [mem_listSymbolIdsWithIntradayOn]
      exact and_congr_right fun _ => exists_congr fun p => and_congr_right fun hp =>
        and_congr_right fun _ => hdate p hp

end Queries

/-- A bar of 01:30 in India on day 20001, which is 20:00 UTC of the day before. -/
def lateBar : IntradayPrice :=
  ⟨1,⟨DateTime.ofUtc ⟨20000⟩ 1200,some (.finite 100),some (.finite 101),some (.finite 99),
    some (.finite 100),some (.finite 1000),none⟩⟩

/-- The bar is found for day 20000. -/
theorem lateBar_not_found_on_its_day :
    ¬∀ (scan : ScanOrder (Row IntradayPrice)) (t : IntradayPrices) (day : Date),
      FindMarketDay scan t day := by
  intro h
  have hbars := (h (ScanOrder.insertion _) (upsertIntraday Stamped.empty 1 lateBar.bar) ⟨20000⟩).bars
    1 lateBar
  have hfound : lateBar ∈ getIntradayForDate (ScanOrder.insertion _)
      (upsertIntraday Stamped.empty 1 lateBar.bar) 1 ⟨20000⟩ := by
    rw [mem_getIntradayForDate]
    refine ⟨?_,rfl,by decide⟩
    exact ⟨_,List.mem_singleton.mpr rfl,rfl⟩
  have hdate : lateBar.date = ⟨20000⟩ := (hbars.mp hfound).2.2
  revert hdate
  decide

end MarketScanner.Market
