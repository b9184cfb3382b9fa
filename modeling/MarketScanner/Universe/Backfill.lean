import Mathlib.Data.Finset.Basic
import MarketScanner.Library.Assoc
import MarketScanner.Universe.SymbolMaster

/-! The IPO listing-date backfill: rows of a curated list are matched to our symbols, and the dates
of the confident matches are written in one transaction. -/
namespace MarketScanner.Universe
open MarketScanner.Library MarketScanner.Python MarketScanner.Config

structure BackfillRow where
  symbol : String
  isin : Option String
  listingDate : Option Date
  classification : Option String

structure BackfillReport where
  processed : ℕ := 0
  matchedByIsin : ℕ := 0
  matchedBySymbol : ℕ := 0
  populated : ℕ := 0
  unmatched : List String := []
  ambiguous : List String := []
  duplicate : List String := []
  invalidDate : List String := []
  missingIsin : List String := []
  excluded : List String := []
  deriving DecidableEq

def validClassifications : List String := ["MAINBOARD_IPO","SME_IPO"]

def upstoxIsinPrefix : List Char := "NSE_EQ|".toList

/-- `_extract_isin`. -/
def extractIsin (instrumentToken : String) : Option String :=
  if upstoxIsinPrefix.isPrefixOf instrumentToken.toList then
    match instrumentToken.toList.drop upstoxIsinPrefix.length with
    | [] => none
    | isin => some (String.ofList isin)
  else none

/-- `isin_to_symbols`: the symbols recorded under each ISIN. -/
def isinToSymbols (symbolToIsin : Assoc String String) : Assoc String (List String) :=
  symbolToIsin.items.foldl
    (fun d item => d.set item.2 ((d.get? item.2).getD [] ++ [item.1])) Assoc.empty

/-- The loop state of `match_rows`. -/
structure Matching where
  toWrite : Assoc String Date := Assoc.empty
  report : BackfillReport := {}
  seen : List String := []

/-- `to_write[matched_symbol] = row.listing_date`. -/
def Matching.write (m : Matching) (symbol : String) (listingDate : Date) : Matching :=
  { m with
    toWrite := m.toWrite.set symbol listingDate
    report.populated := m.report.populated+1 }

/-- The fallback of a row that no ISIN settled: its own symbol, unless the ISINs contradict. -/
def Matching.bySymbol (m : Matching) (symbolToIsin : Assoc String String)
    (knownSymbols : Finset String) (row : BackfillRow) (isin : Option String)
    (listingDate : Date) : Matching :=
  if row.symbol ∈ knownSymbols then
    match isin, (symbolToIsin.get? row.symbol).filter (· != "") with
    | some isin, some localIsin =>
      if localIsin = isin then
        { m with report.matchedBySymbol := m.report.matchedBySymbol+1 }.write row.symbol listingDate
      else { m with report.ambiguous := m.report.ambiguous ++ [row.symbol] }
    | _, _ =>
      { m with report.matchedBySymbol := m.report.matchedBySymbol+1 }.write row.symbol listingDate
  else { m with report.unmatched := m.report.unmatched ++ [row.symbol] }

def matchRow (symbolToIsin : Assoc String String) (knownSymbols : Finset String) (m : Matching)
    (row : BackfillRow) : Matching :=
  let m := { m with report.processed := m.report.processed+1 }
  if row.symbol ∈ m.seen then
    { m with report.duplicate := m.report.duplicate ++ [row.symbol] }
  else
    let m := { m with seen := row.symbol::m.seen }
    match row.listingDate with
    | none => { m with report.invalidDate := m.report.invalidDate ++ [row.symbol] }
    | some listingDate =>
      if row.classification.any fun c => !validClassifications.contains c then
        { m with report.excluded := m.report.excluded ++ [row.symbol] }
      else
        match row.isin.filter (· != "") with
        | none =>
          { m with report.missingIsin := m.report.missingIsin ++ [row.symbol] }.bySymbol
            symbolToIsin knownSymbols row none listingDate
        | some isin =>
          match ((isinToSymbols symbolToIsin).get? isin).getD [] with
          | [] => m.bySymbol symbolToIsin knownSymbols row (some isin) listingDate
          | [matched] =>
            { m with report.matchedByIsin := m.report.matchedByIsin+1 }.write matched listingDate
          | _ => { m with report.ambiguous := m.report.ambiguous ++ [row.symbol] }

def matchRows (rows : List BackfillRow) (symbolToIsin : Assoc String String)
    (knownSymbols : Finset String) : Assoc String Date × BackfillReport :=
  let m := rows.foldl (matchRow symbolToIsin knownSymbols) {}
  (m.toWrite,m.report)

/-- The write loop of `main`; a symbol standing in two rows raises. -/
def writeDates : SymbolTable → List (String × Date) → Except PyException SymbolTable
  | t, [] => .ok t
  | t, (symbol,listingDate)::rest =>
    match SymbolRepository.getBySymbol t symbol with
    | .error e => .error e
    | .ok none => writeDates t rest
    | .ok (some row) =>
      writeDates (t.modify row.id fun r => { r with listingDate := some listingDate }) rest

/-- The dates that a backfill run sets out to write, and its report. -/
def planBackfill (scan : ScanOrder (Row SymbolRow)) (t : SymbolTable) (rows : List BackfillRow) :
    Assoc String Date × BackfillReport :=
  let activeSymbols := SymbolRepository.listActive scan t
  let symbolToIsin := activeSymbols.foldl
    (fun d s => match extractIsin s.val.instrumentToken with
      | some isin => d.set s.val.symbol isin
      | none => d) Assoc.empty
  matchRows rows symbolToIsin (activeSymbols.map fun s => s.val.symbol).toFinset

/-- `main`, from the parsed rows on; an exception leaves nothing committed. -/
def backfill (scan : ScanOrder (Row SymbolRow)) (t : SymbolTable) (rows : List BackfillRow) :
    Except PyException SymbolTable :=
  writeDates t (planBackfill scan t rows).1.items

/-- The listing dates stored under a symbol code, row by row. -/
def datesOf (t : SymbolTable) (symbol : String) : List (Option Date) :=
  (SymbolTable.named t symbol).map fun r => r.val.listingDate

/-- An update that keeps symbols and listing dates is not seen in them. -/
theorem datesOf_modifyWhere {t : SymbolTable} {q : ℕ → Bool} {f : SymbolRow → SymbolRow}
    (hsymbol : ∀ row, (f row).symbol = row.symbol)
    (hdate : ∀ row, (f row).listingDate = row.listingDate) (symbol : String) :
    datesOf (t.modifyWhere q f) symbol = datesOf t symbol := by
  unfold datesOf SymbolTable.named
  rw [Table.rows_modifyWhere]
  induction t.rows with
  | nil => rfl
  | cons r rows ih =>
    have hhead : (Row.change q f r).val.symbol = r.val.symbol ∧
        (Row.change q f r).val.listingDate = r.val.listingDate := by
      unfold Row.change
      split
      · exact ⟨hsymbol r.val,hdate r.val⟩
      · exact ⟨rfl,rfl⟩
    rw [List.map_cons, List.filter_cons, List.filter_cons, hhead.1]
    split
    · rw [List.map_cons, List.map_cons, hhead.2, ih]
    · exact ih

/-- Writing the date of the one row that carries a symbol. -/
theorem datesOf_modify {t : SymbolTable} {symbol : String} {row : Row SymbolRow}
    (hrow : SymbolTable.named t symbol = [row]) (listingDate : Option Date) (symbol' : String) :
    datesOf (t.modify row.id fun r => { r with listingDate }) symbol' =
      if symbol' = symbol then [listingDate] else datesOf t symbol' := by
  have hmem : row ∈ SymbolTable.named t symbol := by rw [hrow]; simp
  obtain ⟨hrows,hsymbol⟩ := SymbolRepository.mem_named.mp hmem
  by_cases heq : symbol' = symbol
  · subst heq
    rw [if_pos rfl]
    unfold datesOf SymbolTable.named at *
    have hsame : ((fun r : Row SymbolRow => r.val.symbol == symbol') ∘
        Row.change (· == row.id) fun r => { r with listingDate }) =
          fun r => r.val.symbol == symbol' := by
      funext r
      rw [Function.comp_apply]
      unfold Row.change
      split <;> rfl
    rw [Table.modify, Table.rows_modifyWhere, List.filter_map, hsame, hrow]
    simp [Row.change]
  · rw [if_neg heq]
    unfold datesOf SymbolTable.named
    congr 1
    apply Table.filter_modifyWhere
    intro r hr hid
    obtain rfl : r = row := Table.eq_of_id hr hrows (by simpa using hid)
    have hne : (r.val.symbol == symbol') = false := by
      rw [hsymbol]
      exact beq_eq_false_iff_ne.mpr (Ne.symm heq)
    exact ⟨hne,hne⟩

/-- A backfill writes the planned date under each planned symbol it finds, and nothing else. -/
theorem datesOf_writeDates {items : List (String × Date)} (hdistinct : (items.map Prod.fst).Nodup)
    {t t' : SymbolTable} (h : writeDates t items = .ok t') (symbol : String) :
    datesOf t' symbol = match items.lookup symbol with
      | none => datesOf t symbol
      | some listingDate => (datesOf t symbol).map fun _ => some listingDate := by
  induction items generalizing t with
  | nil =>
    obtain rfl : t = t' := Except.ok.inj h
    rfl
  | cons item rest ih =>
    obtain ⟨name,listingDate⟩ := item
    obtain ⟨hhead,htail⟩ := List.nodup_cons.mp hdistinct
    have hrest : rest.lookup name = none := by
      rw [List.lookup_eq_none_iff]
      intro pair hpair
      simpa using fun heq => hhead (List.mem_map.mpr ⟨pair,hpair,heq.symm⟩)
    rw [writeDates] at h
    rw [List.lookup_cons]
    split at h
    · cases h
    · rename_i hget
      rw [ih htail h]
      by_cases heq : symbol = name
      · subst heq
        have hnone : datesOf t symbol = [] := by
          rw [datesOf, SymbolRepository.getBySymbol_none.mp hget, List.map_nil]
        simp [hrest, hnone]
      · rw [beq_eq_false_iff_ne.mpr heq]
    · rename_i row hget
      have hrow := SymbolRepository.getBySymbol_some.mp hget
      rw [ih htail h, datesOf_modify hrow]
      by_cases heq : symbol = name
      · subst heq
        simp [hrest, datesOf, hrow]
      · rw [beq_eq_false_iff_ne.mpr heq, if_neg heq]

end MarketScanner.Universe
