import MarketScanner.Features.Calculators

/-! `daily_features`: one row of computed columns for each symbol and trading day. The columns hold
the decimals they are given. -/
namespace MarketScanner.Features
open MarketScanner.Library MarketScanner.Python

/-- What a column of the feature store holds; a decimal is a count of millionths. -/
inductive FieldValue
  | null
  | bool (b : Bool)
  | int (n : ℤ)
  | text (s : String)
  | decimal (micros : ℤ)
  deriving DecidableEq

structure DailyFeature where
  symbolId : ℕ
  date : Date
  values : Column → FieldValue

abbrev DailyFeatures := Stamped DailyFeature.symbolId (fun f : DailyFeature => f.date.day)

/-- `DailyFeature(symbol_id=..., date=...)`. -/
def DailyFeature.new (symbolId : ℕ) (date : Date) : DailyFeature := ⟨symbolId,date,fun _ => .null⟩

/-- `setattr` for each of the given columns. -/
def DailyFeature.assign (row : DailyFeature) (values : List (Column × FieldValue)) :
    DailyFeature :=
  { row with values := fun c => (values.lookup c).getD (row.values c) }

namespace DailyFeatureRepository

def getLatest (scan : ScanOrder (Row DailyFeature)) (t : DailyFeatures) (symbolId : ℕ) :
    Option (Row DailyFeature) :=
  (t.newestFirst scan symbolId).head?

def getLatestDate (scan : ScanOrder (Row DailyFeature)) (t : DailyFeatures) (symbolId : ℕ) :
    Option Date :=
  (getLatest scan t symbolId).map fun r => r.val.date

/-- The most recent `limit` rows, oldest first. -/
def getHistory (scan : ScanOrder (Row DailyFeature)) (t : DailyFeatures) (symbolId limit : ℕ) :
    List (Row DailyFeature) :=
  ((t.newestFirst scan symbolId).take limit).reverse

def getLatestBulk (scan : ScanOrder (Row DailyFeature)) (t : DailyFeatures)
    (symbolIds : List ℕ) : Assoc ℕ (Row DailyFeature) :=
  if symbolIds = [] then Assoc.empty else t.atRank scan symbolIds 1

/-- Set the given columns of the symbol's row of a date, a new row where there is none. -/
def upsert (t : DailyFeatures) (symbolId : ℕ) (date : Date)
    (values : List (Column × FieldValue)) : DailyFeatures :=
  match t.find? symbolId date.day with
  | some row => t.put (row.val.assign values)
  | none => t.put ((DailyFeature.new symbolId date).assign values)

/-- The bulk query agrees with the query for one symbol, however each scan orders its rows. -/
theorem get?_getLatestBulk (scan scan' : ScanOrder (Row DailyFeature)) (t : DailyFeatures)
    {symbolIds : List ℕ} {symbolId : ℕ} (h : symbolId ∈ symbolIds) :
    (getLatestBulk scan t symbolIds).get? symbolId = getLatest scan' t symbolId := by
  rw [getLatestBulk, if_neg (List.ne_nil_of_mem h), Stamped.get?_atRank scan t symbolIds 0,
    if_pos h, getLatest, List.head?_eq_getElem?, Stamped.newestFirst_scan scan scan']

theorem map_getLatest (scan : ScanOrder (Row DailyFeature)) (t : DailyFeatures) (symbolId : ℕ) :
    (getLatest scan t symbolId).map Row.val = (t.history symbolId).getLast? := by
  rw [getLatest, ← List.head?_map, Stamped.map_newestFirst, List.head?_reverse]

theorem getLatestDate_eq (scan : ScanOrder (Row DailyFeature)) (t : DailyFeatures)
    (symbolId : ℕ) :
    getLatestDate scan t symbolId = (t.history symbolId).getLast?.map DailyFeature.date := by
  rw [← map_getLatest scan, Option.map_map]
  rfl

/-- A write is not seen by another symbol. -/
theorem history_upsert_of_ne (t : DailyFeatures) {symbolId k : ℕ} (date : Date)
    (values : List (Column × FieldValue)) (hk : k ≠ symbolId) :
    (upsert t symbolId date values).history k = t.history k := by
  unfold upsert
  cases hfind : t.find? symbolId date.day with
  | none => exact Stamped.history_put_of_ne t hk
  | some row =>
    obtain ⟨-,howner,-⟩ := Stamped.find?_some hfind
    exact Stamped.history_put_of_ne t (hk.trans_eq howner.symm)

/-- A write for a date after all stored ones adds one row, at the end. -/
theorem history_upsert_newer (t : DailyFeatures) {symbolId : ℕ} {date : Date}
    (values : List (Column × FieldValue))
    (hnewer : ∀ f ∈ t.history symbolId, f.date < date) :
    (upsert t symbolId date values).history symbolId =
      t.history symbolId ++ [(DailyFeature.new symbolId date).assign values] := by
  have hnone : t.find? symbolId date.day = none := by
    cases hfind : t.find? symbolId date.day with
    | none => rfl
    | some row =>
      obtain ⟨hrow,howner,hstamp⟩ := Stamped.find?_some hfind
      have hmem : row.val ∈ t.history symbolId :=
        List.mem_reverse.mpr (List.mem_map_of_mem (Stamped.mem_newestFirst.mpr ⟨hrow,howner⟩))
      exact absurd hstamp (ne_of_lt (hnewer row.val hmem))
  unfold upsert
  rw [hnone]
  exact Stamped.history_put_newer t hnewer

end DailyFeatureRepository
end MarketScanner.Features
