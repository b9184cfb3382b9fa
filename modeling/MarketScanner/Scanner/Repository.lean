import MarketScanner.Library.Table
import MarketScanner.Library.Query
import MarketScanner.Python.Values
import Mathlib.Order.WithBot

/-! `scanner_results`: one row for each symbol, scanner and trading day. The table carries that
uniqueness, so the upsert that keeps it is the only way to write. -/
namespace MarketScanner.Scanner
open MarketScanner.Library MarketScanner.Python

inductive ResultStatus
  | qualified | rejected
  deriving DecidableEq, Repr

/-- A value of a `NUMERIC` column. The top is NaN, which the database orders above every number. -/
abbrev Numeric := WithTop ℚ

/-- `float(x)` of a column's value. -/
def Numeric.toFloat : Numeric → PyFloat
  | some q => .finite q
  | none => .nan

structure ScannerResult where
  symbolId : ℕ
  scannerName : String
  date : Date
  score : Numeric
  status : ResultStatus
  reason : String
  featureSnapshot : Dict

/-- The columns of the unique constraint. -/
def ScannerResult.key (r : ScannerResult) : ℕ × String × Date := (r.symbolId,r.scannerName,r.date)

structure ScannerResults where
  table : Table ScannerResult
  unique : ∀ r ∈ table.rows, ∀ r' ∈ table.rows, r.val.key = r'.val.key → r.id = r'.id

def ScannerResults.empty : ScannerResults := ⟨Table.empty,by intro r hr; cases hr⟩

namespace ScannerResultRepository

theorem find?_key {results : ScannerResults} {key : ℕ × String × Date} {r : Row ScannerResult}
    (h : results.table.rows.find? (fun r => r.val.key == key) = some r) :
    r ∈ results.table.rows ∧ r.val.key = key :=
  ⟨List.mem_of_find?_eq_some h,by simpa using List.find?_some h⟩

/-- Insert or update the row of a symbol, scanner and date. -/
def upsert (results : ScannerResults) (value : ScannerResult) : ScannerResults :=
  match hfind : results.table.rows.find? (fun r => r.val.key == value.key) with
  | some row =>
    { table := results.table.modify row.id fun _ => value
      unique := by
        obtain ⟨hrow,hkey⟩ := find?_key hfind
        have hold : ∀ r ∈ (results.table.modify row.id fun _ => value).rows,
            ∃ r₀ ∈ results.table.rows, r₀.id = r.id ∧ r₀.val.key = r.val.key := by
          intro r hr
          obtain ⟨r₀,hr₀,rfl⟩ := Table.mem_modifyWhere.mp hr
          refine ⟨r₀,hr₀,(Row.change_id _ _ _).symm,?_⟩
          by_cases hid : r₀.id = row.id
          · rw [Row.change_of_true (by simpa using hid), Table.eq_of_id hr₀ hrow hid]
            exact hkey
          · rw [Row.change_of_false (by simpa using hid)]
        intro r hr r' hr' heq
        obtain ⟨r₀,hr₀,hid,hkey₀⟩ := hold r hr
        obtain ⟨r₁,hr₁,hid',hkey₁⟩ := hold r' hr'
        rw [← hid, ← hid']
        exact results.unique r₀ hr₀ r₁ hr₁ (by rw [hkey₀, hkey₁, heq]) }
  | none =>
    { table := results.table.insert value
      unique := by
        have hnew : ∀ r ∈ results.table.rows, r.val.key ≠ value.key := by
          intro r hr heq
          have hmiss := List.find?_eq_none.mp hfind r hr
          simp [heq] at hmiss
        intro r hr r' hr' heq
        rcases Table.mem_insert.mp hr with hold | rfl
        · rcases Table.mem_insert.mp hr' with hold' | rfl
          · exact results.unique r hold r' hold' heq
          · exact absurd heq (hnew r hold)
        · rcases Table.mem_insert.mp hr' with hold' | rfl
          · exact absurd heq.symm (hnew r' hold')
          · rfl }

/-- `ORDER BY date DESC, score DESC`. -/
def NewestFirst (a b : Row ScannerResult) : Prop :=
  b.val.date < a.val.date ∨ a.val.date = b.val.date ∧ b.val.score ≤ a.val.score

instance : DecidableRel NewestFirst := fun a b => by
  unfold NewestFirst
  infer_instance

def listResults (scan : ScanOrder (Row ScannerResult)) (results : ScannerResults)
    (scannerName : Option String) (status : Option ResultStatus) (limit : ℕ) :
    List (Row ScannerResult) :=
  (orderBy scan NewestFirst (results.table.rows.filter fun r =>
    (match scannerName with
      | none => true
      | some name => r.val.scannerName == name) &&
    match status with
      | none => true
      | some status => r.val.status == status)).take limit

theorem mem_of_mem_listResults {scan : ScanOrder (Row ScannerResult)} {results : ScannerResults}
    {scannerName : Option String} {status : Option ResultStatus} {limit : ℕ}
    {r : Row ScannerResult} (h : r ∈ listResults scan results scannerName status limit) :
    r ∈ results.table.rows :=
  List.mem_of_mem_filter (mem_orderBy.mp (List.mem_of_mem_take h))

/-- No write removes the row of a symbol, scanner and date. -/
theorem exists_key_upsert {results : ScannerResults} (value : ScannerResult)
    {key : ℕ × String × Date} (h : ∃ r ∈ results.table.rows, r.val.key = key) :
    ∃ r ∈ (upsert results value).table.rows, r.val.key = key := by
  obtain ⟨r,hr,rfl⟩ := h
  unfold upsert
  split
  case h_1 row hfind =>
    obtain ⟨-,hkey⟩ := find?_key hfind
    refine ⟨_,Table.mem_modifyWhere.mpr ⟨r,hr,rfl⟩,?_⟩
    by_cases hid : r.id = row.id
    · rw [Row.change_of_true (by simpa using hid), Table.eq_of_id hr (find?_key hfind).1 hid]
      exact hkey.symm
    · rw [Row.change_of_false (by simpa using hid)]
  case h_2 hfind => exact ⟨r,Table.mem_insert.mpr (Or.inl hr),rfl⟩

theorem upsert_table_of_some {results : ScannerResults} {value : ScannerResult}
    {row : Row ScannerResult}
    (h : results.table.rows.find? (fun r => r.val.key == value.key) = some row) :
    (upsert results value).table = results.table.modify row.id fun _ => value := by
  unfold upsert
  split
  · rename_i row' hfind
    obtain rfl := Option.some.inj (h.symm.trans hfind)
    rfl
  · rename_i hfind
    rw [h] at hfind
    cases hfind

theorem upsert_table_of_none {results : ScannerResults} {value : ScannerResult}
    (h : results.table.rows.find? (fun r => r.val.key == value.key) = none) :
    (upsert results value).table = results.table.insert value := by
  unfold upsert
  split
  · rename_i row' hfind
    rw [h] at hfind
    cases hfind
  · rfl

/-- What is written is there. -/
theorem exists_upsert (results : ScannerResults) (value : ScannerResult) :
    ∃ r ∈ (upsert results value).table.rows, r.val = value := by
  cases hfind : results.table.rows.find? (fun r => r.val.key == value.key) with
  | none =>
    rw [upsert_table_of_none hfind]
    exact ⟨_,Table.mem_insert.mpr (Or.inr rfl),rfl⟩
  | some row =>
    rw [upsert_table_of_some hfind]
    refine ⟨_,Table.mem_modifyWhere.mpr ⟨row,(find?_key hfind).1,rfl⟩,?_⟩
    rw [Row.change_of_true (by simp)]

theorem val_of_mem_upsert {results : ScannerResults} {value : ScannerResult} {r : Row ScannerResult}
    (h : r ∈ (upsert results value).table.rows) : r.val = value ∨ r ∈ results.table.rows := by
  cases hfind : results.table.rows.find? (fun r => r.val.key == value.key) with
  | none =>
    rw [upsert_table_of_none hfind, Table.mem_insert] at h
    rcases h with hold | rfl
    · exact Or.inr hold
    · exact Or.inl rfl
  | some row =>
    rw [upsert_table_of_some hfind] at h
    obtain ⟨r₀,hr₀,rfl⟩ := Table.mem_modifyWhere.mp h
    by_cases hid : r₀.id = row.id
    · rw [Row.change_of_true (by simpa using hid)]
      exact Or.inl rfl
    · rw [Row.change_of_false (by simpa using hid)]
      exact Or.inr hr₀

theorem mem_upsert_of_ne {results : ScannerResults} {value : ScannerResult} {r : Row ScannerResult}
    (hr : r ∈ results.table.rows) (h : r.val.key ≠ value.key) :
    r ∈ (upsert results value).table.rows := by
  cases hfind : results.table.rows.find? (fun r => r.val.key == value.key) with
  | none =>
    rw [upsert_table_of_none hfind]
    exact Table.mem_insert.mpr (Or.inl hr)
  | some row =>
    obtain ⟨hrow,hkey⟩ := find?_key hfind
    rw [upsert_table_of_some hfind]
    refine Table.mem_modifyWhere.mpr ⟨r,hr,?_⟩
    apply Row.change_of_false
    have hid : r.id ≠ row.id := fun hid => h (Table.eq_of_id hr hrow hid ▸ hkey)
    simpa using hid

theorem val_of_mem_foldl_upsert {results : ScannerResults} (values : List ScannerResult)
    {r : Row ScannerResult}
    (h : r ∈ (values.foldl upsert results).table.rows) :
    r.val ∈ values ∨ r ∈ results.table.rows := by
  induction values generalizing results with
  | nil => exact Or.inr h
  | cons value values ih =>
    rcases ih h with hval | hr
    · exact Or.inl (List.mem_cons_of_mem _ hval)
    · rcases val_of_mem_upsert hr with rfl | hold
      · exact Or.inl List.mem_cons_self
      · exact Or.inr hold

theorem mem_foldl_upsert {results : ScannerResults} (values : List ScannerResult)
    {r : Row ScannerResult}
    (hr : r ∈ results.table.rows) (h : ∀ value ∈ values, r.val.key ≠ value.key) :
    r ∈ (values.foldl upsert results).table.rows := by
  induction values generalizing results with
  | nil => exact hr
  | cons value values ih =>
    obtain ⟨hne,hrest⟩ := List.forall_mem_cons.mp h
    exact ih (mem_upsert_of_ne hr hne) hrest

/-- The rows of a table have distinct keys. -/
theorem nodup_keys (results : ScannerResults) :
    (results.table.rows.map fun r => r.val.key).Nodup := by
  refine List.pairwise_map.mpr (results.table.ordered.imp_of_mem ?_)
  intro r r' hr hr' hlt heq
  exact Nat.ne_of_lt hlt (results.unique r hr r' hr' heq)

/-- What is stored for a symbol. -/
def rowsOf (results : ScannerResults) (symbolId : ℕ) : List ScannerResult :=
  (results.table.rows.filter fun r => r.val.symbolId == symbolId).map Row.val

theorem mem_rowsOf {results : ScannerResults} {symbolId : ℕ} {value : ScannerResult} :
    value ∈ rowsOf results symbolId ↔
      (∃ r ∈ results.table.rows, r.val = value) ∧ value.symbolId = symbolId := by
  simp only [rowsOf, List.mem_map, List.mem_filter, beq_iff_eq]
  constructor
  · rintro ⟨r,⟨hr,hk⟩,rfl⟩
    exact ⟨⟨r,hr,rfl⟩,hk⟩
  · rintro ⟨⟨r,hr,rfl⟩,hk⟩
    exact ⟨r,⟨hr,hk⟩,rfl⟩

/-- An upsert on the rows of one symbol. -/
def putRow (rows : List ScannerResult) (value : ScannerResult) : List ScannerResult :=
  if rows.any fun r => r.key == value.key then
    rows.map fun r => if r.key = value.key then value else r
  else rows ++ [value]

theorem rowsOf_upsert (results : ScannerResults) (value : ScannerResult) :
    rowsOf (upsert results value) value.symbolId =
      putRow (rowsOf results value.symbolId) value := by
  cases hfind : results.table.rows.find? (fun r => r.val.key == value.key) with
  | none =>
    have hnone : (rowsOf results value.symbolId).any (fun r => r.key == value.key) = false := by
      rw [List.any_eq_false]
      intro v hv
      obtain ⟨⟨r,hr,rfl⟩,-⟩ := mem_rowsOf.mp hv
      exact List.find?_eq_none.mp hfind r hr
    rw [putRow, hnone, if_neg Bool.false_ne_true, rowsOf, upsert_table_of_none hfind,
      Table.rows_insert, List.filter_append, List.map_append]
    simp [rowsOf]
  | some row =>
    obtain ⟨hrow,hkey⟩ := find?_key hfind
    have howner : row.val.symbolId = value.symbolId := congrArg Prod.fst hkey
    have hsome : (rowsOf results value.symbolId).any (fun r => r.key == value.key) = true :=
      List.any_eq_true.mpr ⟨row.val,mem_rowsOf.mpr ⟨⟨row,hrow,rfl⟩,howner⟩,by simpa using hkey⟩
    rw [putRow, hsome, if_pos rfl, rowsOf, upsert_table_of_some hfind, Table.modify,
      Table.rows_modifyWhere, List.filter_map, List.map_map, rowsOf, List.map_map]
    have hchange : ∀ r ∈ results.table.rows,
        (Row.change (· == row.id) (fun _ => value) r).val =
          if r.val.key = value.key then value else r.val := by
      intro r hr
      by_cases hid : r.id = row.id
      · rw [Row.change_of_true (by simpa using hid), Table.eq_of_id hr hrow hid, if_pos hkey]
      · rw [Row.change_of_false (by simpa using hid), if_neg]
        exact fun heq => hid (results.unique r hr row hrow (heq.trans hkey.symm))
    have hfilter : results.table.rows.filter
        ((fun r => r.val.symbolId == value.symbolId) ∘ Row.change (· == row.id) fun _ => value) =
          results.table.rows.filter fun r => r.val.symbolId == value.symbolId := by
      apply List.filter_congr
      intro r hr
      rw [Function.comp_apply, hchange r hr]
      split
      · rename_i heq
        have hsame : r.val.symbolId = value.symbolId := congrArg Prod.fst heq
        rw [hsame]
      · rfl
    rw [hfilter]
    apply List.map_congr_left
    intro r hr
    exact hchange r (List.mem_of_mem_filter hr)

/-- A write for one symbol is not seen by another. -/
theorem rowsOf_upsert_of_ne (results : ScannerResults) {value : ScannerResult} {symbolId : ℕ}
    (h : value.symbolId ≠ symbolId) :
    rowsOf (upsert results value) symbolId = rowsOf results symbolId := by
  unfold rowsOf
  congr 1
  cases hfind : results.table.rows.find? (fun r => r.val.key == value.key) with
  | none =>
    rw [upsert_table_of_none hfind, Table.rows_insert, List.filter_append, List.filter_singleton,
      beq_eq_false_iff_ne.mpr h, cond_false, List.append_nil]
  | some row =>
    obtain ⟨hrow,hkey⟩ := find?_key hfind
    have howner : row.val.symbolId = value.symbolId := congrArg Prod.fst hkey
    rw [upsert_table_of_some hfind]
    apply Table.filter_modifyWhere
    intro r hr hid
    obtain rfl : r = row := Table.eq_of_id hr hrow (by simpa using hid)
    simp [howner, h]

end ScannerResultRepository
end MarketScanner.Scanner
