import Mathlib.Algebra.Order.Field.Rat
import Mathlib.Data.Finset.Lattice.Basic
import Mathlib.Data.List.Count
import MarketScanner.Universe.SymbolMaster

/-! The symbol refresh: fetched symbols are validated and upserted one by one, then the universe is
reconciled, all in one transaction. The safety threshold of the reconciliation is measured after
the upserts. -/
namespace MarketScanner.Universe
open MarketScanner.Library MarketScanner.Python MarketScanner.Config

/-- `DataValidator.validate_symbol`, with the text of the `ValidationError`. -/
def validateSymbol (p : ProviderSymbol) : Except String Unit :=
  if strip p.symbol = "" then .error "Symbol code is empty"
  else if strip p.exchange = "" then .error ("Symbol " ++ p.symbol ++ " has no exchange")
  else if strip p.instrumentToken = "" then
    .error ("Symbol " ++ p.symbol ++ " has no instrument token")
  else .ok ()

def isValid (p : ProviderSymbol) : Bool :=
  match validateSymbol p with
  | .ok () => true
  | .error _ => false

/-- The set of symbols of a fetch that pass validation. -/
def validatedSymbols (fetch : List ProviderSymbol) : Finset String :=
  ((fetch.filter isValid).map ProviderSymbol.symbol).toFinset

structure CollectorRunResult where
  symbolsProcessed : ℕ := 0
  successCount : ℕ := 0
  failedCount : ℕ := 0
  errors : List String := []
  deactivatedSymbols : List String := []
  reconciliationNote : Option String := none

/-- The loop state of `_collect_symbols_impl`. -/
structure Refresh where
  table : SymbolTable
  result : CollectorRunResult
  confirmed : Finset String

def refreshOne (s : Refresh) (p : ProviderSymbol) : Except PyException Refresh :=
  match validateSymbol p with
  | .error text => .ok { s with
      result := { s.result with
        failedCount := s.result.failedCount+1
        errors := s.result.errors ++ [text] } }
  | .ok () =>
    match SymbolRepository.upsert s.table p with
    | .error e => .error e
    | .ok table => .ok
        ⟨table,{ s.result with successCount := s.result.successCount+1 },
          insert p.symbol s.confirmed⟩

def refreshAll : Refresh → List ProviderSymbol → Except PyException Refresh
  | s, [] => .ok s
  | s, p::fetch =>
    match refreshOne s p with
    | .error e => .error e
    | .ok s' => refreshAll s' fetch

/-- `f"{fraction:.0%}"`. -/
def percent (fraction : ℚ) : String := toString (PyFloat.roundHalfEven (fraction*100)) ++ "%"

def reconciliationSkipped (confirmed previousCount : ℕ) (minFraction : ℚ) : String :=
  "skipped: fetch returned " ++ toString confirmed ++ " confirmed symbols, below " ++
    percent minFraction ++ " of the " ++ toString previousCount ++ " currently active — " ++
    "treated as a suspicious/partial response, not a real mass-delisting"

/-- `previous_count * min_fraction`, in doubles. -/
def safetyThreshold (previousCount : ℕ) (minFraction : ℚ) : ℚ :=
  roundDouble (roundDouble previousCount*minFraction)

/-- `_reconcile_universe`, called after the upserts. The setting is the double nearest to the number that is
configured. -/
def reconcileUniverse (settings : Settings) (scan : ScanOrder (Row SymbolRow)) (s : Refresh) :
    SymbolTable × CollectorRunResult :=
  let previousCount := (SymbolRepository.listActive scan s.table).length
  let minFraction := roundDouble settings.universeReconciliationMinFraction
  if previousCount = 0 then (s.table,s.result)
  else if (s.confirmed.card : ℚ) < safetyThreshold previousCount minFraction then
    (s.table,{ s.result with
      reconciliationNote :=
        some (reconciliationSkipped s.confirmed.card previousCount minFraction) })
  else
    let deactivated := SymbolRepository.deactivateMissing scan s.table s.confirmed
    (deactivated.1,{ s.result with deactivatedSymbols := deactivated.2 })

/-- `str(exc)`, where the run logs it. -/
def exceptionText : PyException → String
  | .multipleResults => "Multiple rows were found when one or none was required"
  | .valueError text => text
  | .keyError key => "'" ++ key ++ "'"
  | .overflowError => "int too large to convert to float"
  | .assertionError | .typeError | .environment => ""

/-- `collect_symbols`: an exception, of the provider or inside the transaction, leaves the table as
it was. -/
def collectSymbols (settings : Settings) (scan : ScanOrder (Row SymbolRow)) (t : SymbolTable)
    (fetch : Except String (List ProviderSymbol)) : SymbolTable × CollectorRunResult :=
  match fetch with
  | .error text => (t,{ errors := [text] })
  | .ok fetch =>
    match refreshAll ⟨t,{ symbolsProcessed := fetch.length },∅⟩ fetch with
    | .error e => (t,{ errors := [exceptionText e] })
    | .ok s => reconcileUniverse settings scan s

theorem validatedSymbols_cons_of_valid {p : ProviderSymbol} (h : isValid p = true)
    (fetch : List ProviderSymbol) :
    validatedSymbols (p::fetch) = insert p.symbol (validatedSymbols fetch) := by
  simp [validatedSymbols, h]

theorem validatedSymbols_cons_of_invalid {p : ProviderSymbol} (h : isValid p = false)
    (fetch : List ProviderSymbol) : validatedSymbols (p::fetch) = validatedSymbols fetch := by
  simp [validatedSymbols, h]

/-- What one turn of the loop can be. -/
theorem refreshOne_cases (s : Refresh) (p : ProviderSymbol) :
    (isValid p = false ∧
        ∃ result, refreshOne s p = .ok ⟨s.table,result,s.confirmed⟩) ∨
      (isValid p = true ∧ ∃ e, SymbolRepository.upsert s.table p = .error e ∧
        refreshOne s p = .error e) ∨
      (isValid p = true ∧ ∃ table result, SymbolRepository.upsert s.table p = .ok table ∧
        refreshOne s p = .ok ⟨table,result,insert p.symbol s.confirmed⟩) := by
  unfold refreshOne isValid
  cases hvalid : validateSymbol p with
  | error text => exact Or.inl ⟨rfl,_,rfl⟩
  | ok u =>
    right
    cases hup : SymbolRepository.upsert s.table p with
    | error e => exact Or.inl ⟨rfl,e,rfl,rfl⟩
    | ok table => exact Or.inr ⟨rfl,table,_,rfl,rfl⟩

/-- What the whole loop does when it ends without an exception: the confirmed set, the rows of other
symbols, and the one row of each confirmed symbol. -/
structure Refreshed (fetch : List ProviderSymbol) (s s' : Refresh) : Prop where
  confirmed : s'.confirmed = s.confirmed ∪ validatedSymbols fetch
  others : ∀ q : Row SymbolRow → Bool,
    (∀ r, r.val.symbol ∈ validatedSymbols fetch → q r = false) →
      s'.table.rows.filter q = s.table.rows.filter q
  written : ∀ name ∈ validatedSymbols fetch, ∃ p ∈ fetch, p.symbol = name ∧
    ∃ id old, SymbolTable.named s'.table name = [⟨id,SymbolRepository.assign p old⟩]

theorem refreshAll_refreshed {fetch : List ProviderSymbol} {s s' : Refresh}
    (h : refreshAll s fetch = .ok s') : Refreshed fetch s s' := by
  induction fetch generalizing s with
  | nil =>
    obtain rfl : s = s' := Except.ok.inj h
    exact ⟨by simp [validatedSymbols],fun _ _ => rfl,fun name hname => by
      simp [validatedSymbols] at hname⟩
  | cons p fetch ih =>
    rw [refreshAll] at h
    obtain ⟨hvalid,result,hone⟩ | ⟨-,e,-,hone⟩ | ⟨hvalid,table,result,hup,hone⟩ :=
      refreshOne_cases s p
    · rw [hone] at h
      obtain ⟨hconfirmed,hothers,hwritten⟩ := ih h
      rw [← validatedSymbols_cons_of_invalid hvalid fetch] at hconfirmed hothers hwritten
      refine ⟨hconfirmed,hothers,fun name hname => ?_⟩
      obtain ⟨p',hp',hrest⟩ := hwritten name hname
      exact ⟨p',List.mem_cons_of_mem p hp',hrest⟩
    · rw [hone] at h
      cases h
    · rw [hone] at h
      obtain ⟨hconfirmed,hothers,hwritten⟩ := ih h
      have hcons := validatedSymbols_cons_of_valid hvalid fetch
      refine ⟨?_,?_,?_⟩
      · rw [hcons, hconfirmed, Finset.insert_union, Finset.union_insert]
      · intro q hq
        rw [hcons] at hq
        rw [hothers q fun r hr => hq r (Finset.mem_insert_of_mem hr)]
        exact SymbolRepository.filter_upsert hup fun r hr =>
          hq r (by rw [hr]; exact Finset.mem_insert_self _ _)
      · intro name hname
        by_cases hlater : name ∈ validatedSymbols fetch
        · obtain ⟨p',hp',hrest⟩ := hwritten name hlater
          exact ⟨p',List.mem_cons_of_mem p hp',hrest⟩
        · rw [hcons] at hname
          obtain rfl : name = p.symbol := (Finset.mem_insert.mp hname).resolve_right hlater
          obtain ⟨id,old,hnamed⟩ := SymbolRepository.named_upsert hup
          refine ⟨p,List.mem_cons_self,rfl,id,old,?_⟩
          rw [← hnamed]
          exact hothers _ fun r hr => by
            simpa using fun heq => hlater (by rwa [← heq])

/-- The run is aborted exactly where a validated symbol stands in two rows of the table. -/
theorem refreshAll_error_iff {fetch : List ProviderSymbol} {s : Refresh} :
    (∃ e, refreshAll s fetch = .error e) ↔
      ∃ name ∈ validatedSymbols fetch, 2 ≤ (SymbolTable.named s.table name).length := by
  induction fetch generalizing s with
  | nil => simp [refreshAll, validatedSymbols]
  | cons p fetch ih =>
    rw [refreshAll]
    obtain ⟨hvalid,result,hone⟩ | ⟨hvalid,e,hup,hone⟩ | ⟨hvalid,table,result,hup,hone⟩ :=
      refreshOne_cases s p
    · rw [hone, validatedSymbols_cons_of_invalid hvalid]
      exact ih
    · rw [hone, validatedSymbols_cons_of_valid hvalid]
      have htwo := SymbolRepository.upsert_error_iff.mp ⟨e,hup⟩
      exact ⟨fun _ => ⟨p.symbol,Finset.mem_insert_self _ _,htwo⟩,fun _ => ⟨e,rfl⟩⟩
    · rw [hone, validatedSymbols_cons_of_valid hvalid]
      obtain ⟨id,old,hnamed⟩ := SymbolRepository.named_upsert hup
      have hfew : ¬ 2 ≤ (SymbolTable.named s.table p.symbol).length := fun htwo => by
        obtain ⟨e,he⟩ := SymbolRepository.upsert_error_iff.mpr htwo
        rw [he] at hup
        cases hup
      refine ih.trans ⟨?_,?_⟩
      · rintro ⟨name,hname,htwo⟩
        have hne : name ≠ p.symbol := by
          rintro rfl
          rw [hnamed] at htwo
          exact absurd htwo (by simp)
        rw [SymbolRepository.named_upsert_of_ne hup hne] at htwo
        exact ⟨name,Finset.mem_insert_of_mem hname,htwo⟩
      · rintro ⟨name,hname,htwo⟩
        have hne : name ≠ p.symbol := by
          rintro rfl
          exact hfew htwo
        refine ⟨name,(Finset.mem_insert.mp hname).resolve_left hne,?_⟩
        rwa [SymbolRepository.named_upsert_of_ne hup hne]

end MarketScanner.Universe
