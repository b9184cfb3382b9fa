import MarketScanner.Library.Transition
import MarketScanner.Universe.Backfill
import MarketScanner.Universe.Reconciliation

/-! Symbol refreshes and listing-date backfills on one table. The refresh assigns every column of a
fetched symbol, the listing date included, and the provider's master never carries one. -/
namespace MarketScanner.Universe
open MarketScanner.Library MarketScanner.Python MarketScanner.Config

def symbolSegment : String := "NSE_EQ"

/-- `str(value or default).strip()`. -/
def fieldText [Builtins] (record : Dict) (key : String) (default : String) : String :=
  strip ((record.get key).orElse (.str default)).toStr

/-- `text or None`. -/
def orNone (text : String) : Option String := if text = "" then none else some text

namespace UpstoxProvider
variable [Builtins]

/-- One record of the instruments master; a record without its keys is skipped. -/
def getSymbol (record : PyValue) : Option ProviderSymbol :=
  match record with
  | .dict record =>
    match Dict.get record "segment", record.lookup "trading_symbol", record.lookup "instrument_key" with
    | .str segment, some tradingSymbol, some instrumentKey =>
      if segment = symbolSegment then
        some
          { symbol := strip tradingSymbol.toStr
            exchange := fieldText record "exchange" "NSE"
            instrumentToken := strip instrumentKey.toStr
            companyName := orNone (fieldText record "name" "")
            isin := orNone (fieldText record "isin" "") }
      else none
    | _, _, _ => none
  | _ => none

def getSymbols (records : List PyValue) : List ProviderSymbol := records.filterMap getSymbol

theorem listingDate_getSymbols {records : List PyValue} {p : ProviderSymbol}
    (h : p ∈ getSymbols records) : p.listingDate = none := by
  obtain ⟨record,-,hrecord⟩ := List.mem_filterMap.mp h
  unfold getSymbol at hrecord
  split at hrecord
  · split at hrecord
    · split at hrecord
      · obtain rfl := Option.some.inj hrecord
        rfl
      · cases hrecord
    · cases hrecord
  · cases hrecord

end UpstoxProvider

namespace UniverseProvider

def daysPerYear : ℤ := 365

def ipoCutoff (settings : Settings) (today : Date) : Date :=
  ⟨today.day-daysPerYear*settings.ipoUniverseMaxAgeYears⟩

/-- Symbols listed within the last years, by real listing date. -/
def getIpoUniverse (settings : Settings) (today : Date) (t : SymbolTable) :
    List (Row SymbolRow) :=
  t.rows.filter fun r => r.val.isActive && r.val.listingDate.any fun d =>
    decide (ipoCutoff settings today ≤ d)

theorem mem_getIpoUniverse {settings : Settings} {today : Date} {t : SymbolTable}
    {r : Row SymbolRow} : r ∈ getIpoUniverse settings today t ↔
      r ∈ t.rows ∧ r.val.isActive = true ∧
        ∃ d, r.val.listingDate = some d ∧ ipoCutoff settings today ≤ d := by
  rw [getIpoUniverse, List.mem_filter, Bool.and_eq_true_iff]
  cases r.val.listingDate <;> simp

end UniverseProvider

/-- The table, and for each symbol the date that a committed backfill last wrote for it. -/
structure MasterState where
  table : SymbolTable
  backfilled : String → Option Date

/-- The two jobs; the instruments master of a refresh is what the provider answered. -/
inductive MasterAction
  | refresh (settings : Settings) (scan : ScanOrder (Row SymbolRow))
      (download : Except String (List PyValue))
  | backfill (scan : ScanOrder (Row SymbolRow)) (rows : List BackfillRow)

section Step
variable [Builtins]

def masterStep (s : MasterState) : MasterAction → Option MasterState
  | .refresh settings scan download =>
    some { s with
      table := (collectSymbols settings scan s.table (download.map UpstoxProvider.getSymbols)).1 }
  | .backfill scan rows =>
    match backfill scan s.table rows with
    | .error _ => some s
    | .ok table => some
        { table
          backfilled := fun symbol =>
            if SymbolTable.named s.table symbol = [] then s.backfilled symbol
            else ((planBackfill scan s.table rows).1.get? symbol).or (s.backfilled symbol) }

def masterMachine : Machine MasterState MasterAction := ⟨masterStep⟩

def startMaster (t : SymbolTable) : MasterState := ⟨t,fun _ => none⟩

/-- A date that the backfill wrote is stored, and as long as its row is active the symbol is in the
IPO universe of every day for which the date qualifies. -/
def EnrichmentKept (s : MasterState) : Prop :=
  ∀ symbol d, s.backfilled symbol = some d →
    ∃ r ∈ s.table.rows, r.val.symbol = symbol ∧ r.val.listingDate = some d ∧
      ∀ settings today, r.val.isActive = true → UniverseProvider.ipoCutoff settings today ≤ d →
        r ∈ UniverseProvider.getIpoUniverse settings today s.table

/-- A refresh fetches no symbol that a backfill has dated, or it is rolled back. -/
def RefreshSpares (s : MasterState) : MasterAction → MasterState → Prop
  | .refresh _ _ (.ok records), _ =>
    Ambiguous s.table (UpstoxProvider.getSymbols records) ∨
      ∀ symbol ∈ validatedSymbols (UpstoxProvider.getSymbols records), s.backfilled symbol = none
  | _, _ => True

omit [Builtins] in
theorem enrichmentKept_iff {s : MasterState} : EnrichmentKept s ↔
    ∀ symbol d, s.backfilled symbol = some d → some d ∈ datesOf s.table symbol := by
  unfold EnrichmentKept datesOf
  constructor
  · intro h symbol d hd
    obtain ⟨r,hr,hsymbol,hdate,-⟩ := h symbol d hd
    exact List.mem_map.mpr ⟨r,SymbolRepository.mem_named.mpr ⟨hr,hsymbol⟩,hdate⟩
  · intro h symbol d hd
    obtain ⟨r,hr,hdate⟩ := List.mem_map.mp (h symbol d hd)
    obtain ⟨hrows,hsymbol⟩ := SymbolRepository.mem_named.mp hr
    refine ⟨r,hrows,hsymbol,hdate,fun settings today hactive hcutoff => ?_⟩
    exact UniverseProvider.mem_getIpoUniverse.mpr ⟨hrows,hactive,d,hdate,hcutoff⟩

omit [Builtins] in
theorem datesOf_reconcileUniverse (settings : Settings) (scan : ScanOrder (Row SymbolRow))
    (s : Refresh) (symbol : String) :
    datesOf (reconcileUniverse settings scan s).1 symbol = datesOf s.table symbol := by
  simp only [reconcileUniverse]
  split
  · rfl
  · split
    · rfl
    · exact datesOf_modifyWhere (f := fun row => { row with isActive := false })
        (fun _ => rfl) (fun _ => rfl) symbol

/-- A refresh leaves the dates of the symbols it does not fetch, and clears those it does. -/
theorem datesOf_refresh {settings : Settings} {scan : ScanOrder (Row SymbolRow)} {t : SymbolTable}
    {records : List PyValue} (hplain : ¬ Ambiguous t (UpstoxProvider.getSymbols records))
    (symbol : String) :
    datesOf (collectSymbols settings scan t (.ok (UpstoxProvider.getSymbols records))).1 symbol =
      if symbol ∈ validatedSymbols (UpstoxProvider.getSymbols records) then [none]
      else datesOf t symbol := by
  rw [collectSymbols]
  split
  case h_1 e he => exact absurd (refreshAll_error_iff.mp ⟨e,he⟩) hplain
  case h_2 s hs =>
    have hrefreshed := refreshAll_refreshed hs
    rw [datesOf_reconcileUniverse]
    split
    · rename_i hin
      obtain ⟨p,hp,-,id,old,hrow⟩ := hrefreshed.written symbol hin
      rw [datesOf, hrow, List.map_singleton, SymbolRepository.assign_listingDate,
        UpstoxProvider.listingDate_getSymbols hp]
      rfl
    · rename_i hout
      rw [datesOf, hrefreshed.named_of_not_mem hout]
      rfl

/-- A refresh keeps the enrichment exactly when it spares the dated symbols. -/
theorem enrichmentKept_refresh_iff {s s' : MasterState} {settings : Settings}
    {scan : ScanOrder (Row SymbolRow)} {download : Except String (List PyValue)}
    (hkept : EnrichmentKept s) (hstep : masterStep s (.refresh settings scan download) = some s') :
    EnrichmentKept s' ↔ RefreshSpares s (.refresh settings scan download) s' := by
  obtain rfl := Option.some.inj hstep
  cases download with
  | error text => exact ⟨fun _ => trivial,fun _ => hkept⟩
  | ok records =>
    rw [RefreshSpares]
    by_cases hambiguous : Ambiguous s.table (UpstoxProvider.getSymbols records)
    · have hsame : (collectSymbols settings scan s.table
          (.ok (UpstoxProvider.getSymbols records))).1 = s.table := by
        obtain ⟨e,he⟩ := (refreshAll_error_iff
          (s := ⟨s.table,{ symbolsProcessed := (UpstoxProvider.getSymbols records).length },∅⟩)).mpr
            hambiguous
        simp only [collectSymbols, he]
      refine ⟨fun _ => Or.inl hambiguous,fun _ => ?_⟩
      simp only [Except.map, hsame]
      exact hkept
    · rw [enrichmentKept_iff] at hkept ⊢
      simp only [Except.map, datesOf_refresh hambiguous]
      constructor
      · intro h
        right
        intro symbol hin
        by_contra hsome
        obtain ⟨d,hd⟩ := Option.ne_none_iff_exists'.mp hsome
        have hmem := h symbol d hd
        rw [if_pos hin] at hmem
        simp at hmem
      · rintro (hamb | hspare) symbol d hd
        · exact absurd hamb hambiguous
        · rw [if_neg fun hin => by rw [hspare symbol hin] at hd; cases hd]
          exact hkept symbol d hd

/-- A backfill stores what it records as written, and leaves the other dates. -/
theorem enrichmentKept_backfill {s s' : MasterState} {scan : ScanOrder (Row SymbolRow)}
    {rows : List BackfillRow} (hkept : EnrichmentKept s)
    (hstep : masterStep s (.backfill scan rows) = some s') : EnrichmentKept s' := by
  rw [masterStep] at hstep
  split at hstep
  · obtain rfl := Option.some.inj hstep
    exact hkept
  · rename_i table hrun
    obtain rfl := Option.some.inj hstep
    rw [enrichmentKept_iff] at hkept ⊢
    intro symbol d hd
    have hdates := datesOf_writeDates (planBackfill scan s.table rows).1.distinct hrun symbol
    simp only at hd
    rw [hdates]
    split at hd
    · rename_i hnone
      have hmem := hkept symbol d hd
      rw [datesOf, hnone] at hmem
      cases hmem
    · rename_i hsome
      rw [Assoc.get?] at hd
      split
      · rename_i hplan
        rw [hplan, Option.none_or] at hd
        exact hkept symbol d hd
      · rename_i listingDate hplan
        rw [hplan, Option.some_or] at hd
        obtain ⟨r,hr⟩ := List.exists_mem_of_ne_nil _ hsome
        exact List.mem_map.mpr ⟨r.val.listingDate,List.mem_map.mpr ⟨r,hr,rfl⟩,hd⟩

/-- Over every sequence of refreshes and backfills on any table, written dates stay stored, and
their symbols in the IPO universe, exactly when no refresh fetches a symbol already dated. -/
theorem enrichmentSurvives_iff (t : SymbolTable) (as : List MasterAction) :
    masterMachine.Throughout EnrichmentKept (startMaster t) as ↔
      masterMachine.Steps RefreshSpares (startMaster t) as := by
  apply Machine.throughout_iff_steps
  · intro s a s' hkept hstep
    cases a with
    | refresh settings scan download => exact enrichmentKept_refresh_iff hkept hstep
    | backfill scan rows =>
      exact ⟨fun _ => trivial,fun _ => enrichmentKept_backfill hkept hstep⟩
  · intro symbol d hd
    cases hd

end Step

/-- The instruments master with one equity. -/
def oneInstrument : List PyValue :=
  [.dict [("segment",.str "NSE_EQ"),("trading_symbol",.str "MANIPALHOS"),("exchange",.str "NSE"),
    ("instrument_key",.str "NSE_EQ|INE0XYZ01019"),("name",.str "Manipal Hospitals")]]

def curatedRow : BackfillRow :=
  ⟨"MANIPALHOS",some "INE0XYZ01019",some (Date.ofCivil 2026 8 5),some "MAINBOARD_IPO"⟩

/-- A refresh brings the symbol, the backfill dates it, and the next day's refresh comes. -/
def refreshAfterBackfill : List MasterAction :=
  [.refresh {} (ScanOrder.insertion _) (.ok oneInstrument),
    .backfill (ScanOrder.insertion _) [curatedRow],
    .refresh {} (ScanOrder.insertion _) (.ok oneInstrument)]

theorem refreshAfterBackfill_loses_date :
    ¬ (@masterMachine (Builtins.tabulated [] [] [])).Throughout EnrichmentKept
        (startMaster Table.empty) refreshAfterBackfill := by
  let _ := Builtins.tabulated [] [] []
  intro h
  obtain ⟨s,hrun,hs⟩ := Machine.exists_run_of_exec masterMachine (startMaster Table.empty)
    refreshAfterBackfill (fun s => s.backfilled "MANIPALHOS" == some (Date.ofCivil 2026 8 5) &&
      s.table.rows.all fun r => r.val.listingDate == none) (by decide +kernel)
  obtain ⟨hwritten,hcleared⟩ := Bool.and_eq_true_iff.mp hs
  obtain ⟨r,hr,-,hdate,-⟩ :=
    h (List.append_nil refreshAfterBackfill).symm hrun "MANIPALHOS" _ (eq_of_beq hwritten)
  have hnone := List.all_eq_true.mp hcleared r hr
  rw [hdate] at hnone
  cases hnone

end MarketScanner.Universe
