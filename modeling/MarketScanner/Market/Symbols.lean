import MarketScanner.Python.Values

/-! The symbol master and its lookups. -/
namespace MarketScanner.Market
open MarketScanner.Python

structure Symbol where
  id : ℕ
  symbol : String
  deriving DecidableEq

namespace SymbolRepository

/-- `get_by_symbol`: raises when two rows carry the symbol. -/
def getBySymbol (symbols : List Symbol) (symbol : String) : Except PyException (Option Symbol) :=
  match symbols.filter fun row => row.symbol == symbol with
  | [] => .ok none
  | [row] => .ok (some row)
  | _ => .error .multipleResults

/-- The name that `{s.id: s.symbol for s in list_by_ids(ids)}` holds for one of the ids. -/
def nameOf (symbols : List Symbol) (id : ℕ) : Option String :=
  (symbols.find? fun row => row.id == id).map Symbol.symbol

theorem getBySymbol_some {symbols : List Symbol} {symbol : String} {row : Symbol}
    (h : getBySymbol symbols symbol = .ok (some row)) : row ∈ symbols ∧ row.symbol = symbol := by
  unfold getBySymbol at h
  split at h
  · cases h
  · rename_i row' hfilter
    obtain rfl : row' = row := Option.some.inj (Except.ok.inj h)
    have hmem : row' ∈ symbols.filter fun row => row.symbol == symbol := by rw [hfilter]; simp
    obtain ⟨hrow,hsymbol⟩ := List.mem_filter.mp hmem
    exact ⟨hrow,by simpa using hsymbol⟩
  · contradiction

end SymbolRepository
end MarketScanner.Market
