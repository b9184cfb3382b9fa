import Mathlib.Data.Finset.Card
import MarketScanner.Config.Settings
import MarketScanner.Library.Query
import MarketScanner.Library.Table
import MarketScanner.Python.Text

/-! The `symbols` table, the provider's symbol master and the repository between them. -/
namespace MarketScanner.Universe
open MarketScanner.Library MarketScanner.Python

structure SymbolRow where
  symbol : String
  exchange : String
  instrumentToken : String
  companyName : Option String
  sector : Option String
  industry : Option String
  listingDate : Option Date
  isActive : Bool
  deriving DecidableEq

/-- A tradable instrument as reported by the provider's symbol master. -/
structure ProviderSymbol where
  symbol : String
  exchange : String
  instrumentToken : String
  companyName : Option String := none
  sector : Option String := none
  industry : Option String := none
  listingDate : Option DateTime := none
  isin : Option String := none

abbrev SymbolTable := Table SymbolRow

/-- The rows carrying a symbol code; the unique constraint is on symbol and exchange together, so
there can be several. -/
def SymbolTable.named (t : SymbolTable) (symbol : String) : List (Row SymbolRow) :=
  t.rows.filter fun r => r.val.symbol == symbol

namespace SymbolRepository

/-- `get_by_symbol`: raises when two rows carry the symbol. -/
def getBySymbol (t : SymbolTable) (symbol : String) :
    Except PyException (Option (Row SymbolRow)) :=
  match SymbolTable.named t symbol with
  | [] => .ok none
  | [row] => .ok (some row)
  | _ => .error .multipleResults

/-- `ORDER BY symbol`. -/
def BySymbol (a b : Row SymbolRow) : Prop := a.val.symbol ≤ b.val.symbol

instance : DecidableRel BySymbol := fun a b =>
  inferInstanceAs (Decidable (a.val.symbol ≤ b.val.symbol))

def listActive (scan : ScanOrder (Row SymbolRow)) (t : SymbolTable) : List (Row SymbolRow) :=
  orderBy scan BySymbol (t.rows.filter fun r => r.val.isActive)

/-- The columns that `upsert` assigns; `listing_date` is one of them. -/
def assign (p : ProviderSymbol) (row : SymbolRow) : SymbolRow :=
  { row with
    exchange := p.exchange
    instrumentToken := p.instrumentToken
    companyName := p.companyName
    sector := p.sector
    industry := p.industry
    listingDate := p.listingDate.map DateTime.date
    isActive := true }

/-- `Symbol(symbol=..., exchange=...)`. -/
def newRow (p : ProviderSymbol) : SymbolRow :=
  ⟨p.symbol,p.exchange,"",none,none,none,none,true⟩

def upsert (t : SymbolTable) (p : ProviderSymbol) : Except PyException SymbolTable :=
  match getBySymbol t p.symbol with
  | .error e => .error e
  | .ok none => .ok (t.insert (assign p (newRow p)))
  | .ok (some row) => .ok (t.modify row.id (assign p))

/-- Deactivate every active symbol outside the given set; returns the names deactivated. -/
def deactivateMissing (scan : ScanOrder (Row SymbolRow)) (t : SymbolTable)
    (currentSymbols : Finset String) : SymbolTable × List String :=
  let toDeactivate := (listActive scan t).filter fun r => !decide (r.val.symbol ∈ currentSymbols)
  (t.modifyWhere (fun id => (toDeactivate.map Row.id).contains id)
    fun row => { row with isActive := false },
   toDeactivate.map fun r => r.val.symbol)

@[simp] theorem mem_named {t : SymbolTable} {symbol : String} {r : Row SymbolRow} :
    r ∈ SymbolTable.named t symbol ↔ r ∈ t.rows ∧ r.val.symbol = symbol := by
  simp [SymbolTable.named]

@[simp] theorem mem_listActive {scan : ScanOrder (Row SymbolRow)} {t : SymbolTable}
    {r : Row SymbolRow} : r ∈ listActive scan t ↔ r ∈ t.rows ∧ r.val.isActive = true := by
  simp [listActive]

@[simp] theorem assign_symbol (p : ProviderSymbol) (row : SymbolRow) :
    (assign p row).symbol = row.symbol := rfl
@[simp] theorem assign_isActive (p : ProviderSymbol) (row : SymbolRow) :
    (assign p row).isActive = true := rfl
@[simp] theorem assign_listingDate (p : ProviderSymbol) (row : SymbolRow) :
    (assign p row).listingDate = p.listingDate.map DateTime.date := rfl

theorem getBySymbol_none {t : SymbolTable} {symbol : String} :
    getBySymbol t symbol = .ok none ↔ SymbolTable.named t symbol = [] := by
  unfold getBySymbol
  split <;> simp_all

theorem getBySymbol_some {t : SymbolTable} {symbol : String} {row : Row SymbolRow} :
    getBySymbol t symbol = .ok (some row) ↔ SymbolTable.named t symbol = [row] := by
  unfold getBySymbol
  split <;> simp_all

/-- What a successful upsert can be. -/
theorem upsert_cases {t t' : SymbolTable} {p : ProviderSymbol} (h : upsert t p = .ok t') :
    (SymbolTable.named t p.symbol = [] ∧ t' = t.insert (assign p (newRow p))) ∨
      ∃ row, SymbolTable.named t p.symbol = [row] ∧ t' = t.modify row.id (assign p) := by
  unfold upsert at h
  split at h
  · cases h
  · rename_i hget
    left
    exact ⟨getBySymbol_none.mp hget,(Except.ok.inj h).symm⟩
  · rename_i row hget
    right
    exact ⟨row,getBySymbol_some.mp hget,(Except.ok.inj h).symm⟩

/-- An upsert fails exactly where the symbol stands in two rows or more. -/
theorem upsert_error_iff {t : SymbolTable} {p : ProviderSymbol} :
    (∃ e, upsert t p = .error e) ↔ 2 ≤ (SymbolTable.named t p.symbol).length := by
  unfold upsert getBySymbol
  match SymbolTable.named t p.symbol with
  | [] => simp
  | [row] => simp
  | a::b::rest => simp

/-- No selection that ignores the upserted symbol notices the upsert. -/
theorem filter_upsert {t t' : SymbolTable} {p : ProviderSymbol} (h : upsert t p = .ok t')
    {q : Row SymbolRow → Bool} (hq : ∀ r, r.val.symbol = p.symbol → q r = false) :
    t'.rows.filter q = t.rows.filter q := by
  obtain ⟨-,rfl⟩ | ⟨row,hrow,rfl⟩ := upsert_cases h
  · rw [Table.rows_insert, List.filter_append, List.filter_singleton]
    rw [hq ⟨t.nextId,assign p (newRow p)⟩ rfl]
    simp
  · have hmem : row ∈ SymbolTable.named t p.symbol := by rw [hrow]; simp
    obtain ⟨hrows,hsymbol⟩ := mem_named.mp hmem
    apply Table.filter_modifyWhere
    intro r hr hid
    obtain rfl : r = row := Table.eq_of_id hr hrows (by simpa using hid)
    exact ⟨hq r hsymbol,hq _ hsymbol⟩

/-- After an upsert one row carries the symbol, with the provider's columns. -/
theorem named_upsert {t t' : SymbolTable} {p : ProviderSymbol} (h : upsert t p = .ok t') :
    ∃ id old, SymbolTable.named t' p.symbol = [⟨id,assign p old⟩] := by
  obtain ⟨hnone,rfl⟩ | ⟨row,hrow,rfl⟩ := upsert_cases h
  · refine ⟨t.nextId,newRow p,?_⟩
    unfold SymbolTable.named at hnone ⊢
    rw [Table.rows_insert, List.filter_append, hnone, List.filter_singleton]
    simp [newRow]
  · refine ⟨row.id,row.val,?_⟩
    unfold SymbolTable.named at hrow ⊢
    have hsame : ((fun r : Row SymbolRow => r.val.symbol == p.symbol) ∘
        Row.change (· == row.id) (assign p)) = fun r => r.val.symbol == p.symbol := by
      funext r
      rw [Function.comp_apply]
      unfold Row.change
      split <;> rfl
    rw [Table.modify, Table.rows_modifyWhere, List.filter_map, hsame, hrow]
    simp [Row.change]

theorem named_upsert_of_ne {t t' : SymbolTable} {p : ProviderSymbol} (h : upsert t p = .ok t')
    {symbol : String} (hne : symbol ≠ p.symbol) :
    SymbolTable.named t' symbol = SymbolTable.named t symbol :=
  filter_upsert h fun r hr => by simpa [hr] using hne.symm

end SymbolRepository
end MarketScanner.Universe
