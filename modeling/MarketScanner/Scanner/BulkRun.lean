import MarketScanner.Scanner.Isolation
import MarketScanner.Scanner.Strategies

/-! A scanner run beside the loop over single symbols that it replaced, and beside itself: contexts and
stored verdicts are the same, and a second run over the same data stores nothing. -/
namespace MarketScanner.Scanner
open MarketScanner.Library MarketScanner.Python MarketScanner.Config MarketScanner.Market
open MarketScanner.Universe MarketScanner.Features
open ScannerResultRepository

namespace BaseScanner
variable {ω : Type} (scanner : BaseScanner ω) (faults : WriteFaults) (w : ω) (runId : ℕ)

/-- A run symbol by symbol: the tables and the counters, and the symbols evaluated so far. -/
abbrev Progress := (ScannerTables × ScannerRunStats) × List (Row SymbolRow × scanner.Context)

/-- One symbol alone: its context, the check for the row of its scan date, its evaluation. -/
def scanSymbol (progress : scanner.Progress) (symbol : Row SymbolRow) :
    Except String scanner.Progress :=
  match scanner.buildContext w symbol with
  | .error text => .error text
  | .ok none => .ok (scanner.logNoContext faults runId progress.1 symbol,progress.2)
  | .ok (some context) =>
    if existsForDate progress.1.1.results (symbol.id,scanner.name,scanner.scanDate context) then
      .ok progress
    else
      .ok (scanner.evaluateSymbol faults runId progress.1 (symbol,context),
        progress.2 ++ [(symbol,context)])

def scanSymbols : List (Row SymbolRow) → scanner.Progress → Except String scanner.Progress
  | [], progress => .ok progress
  | symbol::symbols, progress =>
    match scanner.scanSymbol faults w runId progress symbol with
    | .error text => .error text
    | .ok progress => scanSymbols symbols progress

/-- The run over a list of symbols without a bulk query. -/
def runOneByOne (symbols : List (Row SymbolRow)) (db : ScannerTables) :
    Except String scanner.Progress :=
  scanner.scanSymbols faults w runId symbols ((db,{ symbolsScanned := symbols.length }),[])

/-- The contexts built for all symbols at once are those built for each. -/
def BuildsEach (symbols : List (Row SymbolRow)) (contexts : Assoc ℕ (Option scanner.Context)) : Prop :=
  ∀ s ∈ symbols, ∃ context, scanner.buildContext w s = .ok context ∧
    contexts.get? s.id = some context

variable {scanner faults w runId}
variable {symbols : List (Row SymbolRow)} {contexts : Assoc ℕ (Option scanner.Context)}

theorem haveContext_cons (s : Row SymbolRow) {context : Option scanner.Context}
    (h : contexts.get? s.id = some context) :
    scanner.haveContext contexts (s::symbols) =
      (context.map fun c => (s,c)).toList ++ scanner.haveContext contexts symbols := by
  unfold haveContext
  rw [List.filterMap_cons, h]
  cases context <;> rfl

/-- A write for one symbol does not hide or show the rows of another. -/
theorem existsForDate_store_of_ne (results : ScannerResults)
    {item : Row SymbolRow × scanner.Context} {key : ℕ × String × Date}
    (h : key.1 ≠ scanner.symbolId item.2) :
    existsForDate (scanner.store faults results item) key = existsForDate results key := by
  cases hverdict : scanner.verdict faults item with
  | none => rw [scanner.store_of_none faults hverdict]
  | some row =>
    rw [scanner.store_of_some faults hverdict, Bool.eq_iff_iff, existsForDate_upsert]
    have hne : key ≠ row.key := by
      rintro rfl
      exact h (congrArg Prod.fst (scanner.key_verdict faults hverdict))
    simp [hne]

/-- The rows that other symbols are looked up by are not those just written. -/
theorem toEvaluate_store (results : ScannerResults) {item : Row SymbolRow × scanner.Context}
    (h : ∀ s ∈ symbols, s.id ≠ scanner.symbolId item.2) :
    scanner.toEvaluate (scanner.store faults results item) (scanner.haveContext contexts symbols) =
      scanner.toEvaluate results (scanner.haveContext contexts symbols) := by
  rw [toEvaluate_eq, toEvaluate_eq]
  apply List.filter_congr
  intro later hlater
  rw [existsForDate_store_of_ne]
  exact h later.1 (scanner.mem_haveContext.mp hlater).1

/-- Symbol by symbol, the symbols evaluated and what they store are those of the run in bulk. -/
theorem scanSymbols_spec (hset : (symbols.map Row.id).Nodup)
    (hbuilds : scanner.BuildsEach w symbols contexts) (progress : scanner.Progress) :
    ∃ done, scanner.scanSymbols faults w runId symbols progress = .ok done ∧
      done.2 = progress.2 ++
        scanner.toEvaluate progress.1.1.results (scanner.haveContext contexts symbols) ∧
      done.1.1.results = (scanner.toEvaluate progress.1.1.results
        (scanner.haveContext contexts symbols)).foldl (scanner.store faults)
          progress.1.1.results := by
  induction symbols generalizing progress with
  | nil => exact ⟨progress,rfl,by simp [haveContext, toEvaluate],by simp [haveContext, toEvaluate]⟩
  | cons s symbols ih =>
    obtain ⟨hnew,hset⟩ := List.nodup_cons.mp hset
    obtain ⟨⟨context,hcontext,hget⟩,hrest⟩ := List.forall_mem_cons.mp hbuilds
    rw [haveContext_cons s hget, toEvaluate_eq]
    unfold scanSymbols scanSymbol
    rw [hcontext]
    cases context with
    | none =>
      obtain ⟨done,hdone,hitems,hresults⟩ :=
        ih hset hrest (scanner.logNoContext faults runId progress.1 s,progress.2)
      rw [logNoContext_results, toEvaluate_eq] at hitems hresults
      exact ⟨done,hdone,hitems,hresults⟩
    | some c =>
      cases hexists : existsForDate progress.1.1.results (s.id,scanner.name,scanner.scanDate c) with
      | true =>
        obtain ⟨done,hdone,hitems,hresults⟩ := ih hset hrest progress
        rw [toEvaluate_eq] at hitems hresults
        refine ⟨done,?_,?_,?_⟩
        · simpa [hexists] using hdone
        · simpa [hexists] using hitems
        · simpa [hexists] using hresults
      | false =>
        obtain ⟨done,hdone,hitems,hresults⟩ := ih hset hrest
          (scanner.evaluateSymbol faults runId progress.1 (s,c),progress.2 ++ [(s,c)])
        have hothers : ∀ s' ∈ symbols, s'.id ≠ scanner.symbolId (s,c).2 := by
          intro s' hs' heq
          rw [scanner.own hcontext] at heq
          exact hnew (heq ▸ List.mem_map_of_mem hs')
        rw [evaluateSymbol_results, toEvaluate_store _ hothers, toEvaluate_eq] at hitems hresults
        refine ⟨done,?_,?_,?_⟩
        · simpa [hexists] using hdone
        · simpa [hexists] using hitems
        · simpa [hexists] using hresults

/-- The default loop over `build_context` builds each. -/
theorem buildsEach_of_loop (hset : (symbols.map Row.id).Nodup) (hbulk : scanner.bulk = none)
    (h : scanner.buildContextBulk w symbols = .ok contexts) :
    scanner.BuildsEach w symbols contexts := by
  intro s hs
  unfold buildContextBulk at h
  rw [hbulk] at h
  obtain ⟨context,hcontext⟩ := loopContexts_ok_iff.mp ⟨contexts,h⟩ s hs
  refine ⟨context,hcontext,?_⟩
  rw [loopContexts_eq_foldl h, Assoc.get?_foldl_set_of_mem Row.id _ hset _ hs, hcontext]
  rfl

/-- Run in bulk or symbol by symbol, the same symbols are evaluated and the same rows stored. -/
theorem runOneByOne_spec (hset : (symbols.map Row.id).Nodup)
    (h : scanner.buildContextBulk w symbols = .ok contexts)
    (hbuilds : scanner.BuildsEach w symbols contexts) (db : ScannerTables) :
    ∃ done single, scanner.runScanner faults w runId symbols db = .ok done ∧
      scanner.runOneByOne faults w runId symbols db = .ok single ∧
      single.2 = scanner.toEvaluate db.results (scanner.haveContext contexts symbols) ∧
      single.1.1.results = done.1.results := by
  obtain ⟨done,hdone,hresults⟩ := scanner.runScanner_results faults runId h db
  obtain ⟨single,hsingle,hitems,hstored⟩ :=
    scanSymbols_spec hset hbuilds ((db,{ symbolsScanned := symbols.length }),[])
  exact ⟨done,single,hdone,hsingle,hitems,hstored.trans hresults.symm⟩

/-- A scanner without a bulk query of its own runs as if symbol by symbol. -/
theorem runOneByOne_of_loop (hset : (symbols.map Row.id).Nodup) (hbulk : scanner.bulk = none)
    (h : scanner.buildContextBulk w symbols = .ok contexts) (db : ScannerTables) :
    ∃ done single, scanner.runScanner faults w runId symbols db = .ok done ∧
      scanner.runOneByOne faults w runId symbols db = .ok single ∧
      single.2 = scanner.toEvaluate db.results (scanner.haveContext contexts symbols) ∧
      single.1.1.results = done.1.results :=
  runOneByOne_spec hset h (buildsEach_of_loop hset hbulk h) db

/-- A write that fails stores no other row. -/
theorem verdict_of_faults {item : Row SymbolRow × scanner.Context} {row : ScannerResult}
    (h : scanner.verdict faults item = some row) :
    scanner.verdict WriteFaults.none item = some row := by
  unfold verdict at h ⊢
  cases hvalidate : scanner.validate item.2 with
  | error text => simp [hvalidate] at h
  | ok validation =>
    cases hvalid : validation.valid with
    | false => simp [hvalidate, hvalid] at h
    | true =>
      cases hscan : scanner.scan item.2 with
      | error text => simp [hvalidate, hvalid, hscan] at h
      | ok outcome =>
        cases hscore : scanner.score item.2 with
        | error text => simp [hvalidate, hvalid, hscan, hscore] at h
        | ok score =>
          have hrow : scanner.resultRow item.2 outcome score = row := by
            simp only [hvalidate, hvalid, hscan, hscore] at h
            split at h
            · cases h
            · split at h
              · cases h
              · split at h
                · cases h
                · exact Option.some.inj h
          simp [hvalid, hrow, WriteFaults.none]

/-- What a run without write failures leaves unevaluated stores nothing, so running again over the same
contexts changes no row. -/
theorem runScanner_again (h : scanner.buildContextBulk w symbols = .ok contexts) {w' : ω}
    (h' : scanner.buildContextBulk w' symbols = .ok contexts) {db : ScannerTables}
    {done : ScannerTables × ScannerRunStats}
    (hdone : scanner.runScanner WriteFaults.none w runId symbols db = .ok done) (runId' : ℕ) :
    ∃ again, scanner.runScanner faults w' runId' symbols done.1 = .ok again ∧
      again.1.results = done.1.results := by
  obtain ⟨first,hfirst,hresults⟩ := scanner.runScanner_results WriteFaults.none runId h db
  obtain rfl : first = done := Except.ok.inj (hfirst.symm.trans hdone)
  obtain ⟨again,hagain,hstored⟩ := scanner.runScanner_results faults runId' h' first.1
  refine ⟨again,hagain,?_⟩
  have hempty : (scanner.toEvaluate first.1.results
      (scanner.haveContext contexts symbols)).filterMap (scanner.verdict faults) = [] := by
    apply List.filterMap_eq_nil_iff.mpr
    intro item hitem
    rw [toEvaluate_eq, List.mem_filter] at hitem
    obtain ⟨hmem,hmissing⟩ := hitem
    obtain ⟨-,hcontext⟩ := scanner.mem_haveContext.mp hmem
    cases hverdict : scanner.verdict faults item with
    | none => rfl
    | some row =>
      -- The first run would have stored it, had it not been there already.
      have hkey := scanner.key_verdict faults hverdict
      rw [scanner.symbolId_of_contexts h hcontext] at hkey
      have hexists : existsForDate first.1.results
          (item.1.id,scanner.name,scanner.scanDate item.2) = true := by
        rw [hresults, existsForDate_foldl_store]
        by_cases hold : existsForDate db.results
            (item.1.id,scanner.name,scanner.scanDate item.2) = true
        · exact Or.inl hold
        · refine Or.inr ⟨item,?_,row,verdict_of_faults hverdict,hkey⟩
          rw [toEvaluate_eq, List.mem_filter]
          exact ⟨hmem,by simpa using hold⟩
      rw [hexists] at hmissing
      cases hmissing
  rw [hstored, foldl_store_eq, hempty, List.foldl_nil]

end BaseScanner

namespace MarketView
variable {w w' : MarketView}

/-- A context shows the features and the prices, in whatever order they are read. -/
theorem scanContext_congr (hfeatures : w.features = w'.features) (hprices : w.prices = w'.prices)
    (symbol : Row SymbolRow) : w.scanContext symbol = w'.scanContext symbol := by
  unfold scanContext latestFeatures latestPrice DailyFeatureRepository.getLatest
    PriceRepository.getLatestDaily
  rw [hfeatures, hprices, Stamped.newestFirst_scan w.scans.features w'.scans.features,
    Stamped.newestFirst_scan w.scans.prices w'.scans.prices]

variable {symbols : List (Row SymbolRow)}

theorem scanContextBulk_congr (hfeatures : w.features = w'.features)
    (hprices : w.prices = w'.prices) :
    w.scanContextBulk symbols = w'.scanContextBulk symbols := by
  rw [scanContextBulk_eq, scanContextBulk_eq]
  apply foldl_set_congr
  intro s _
  exact scanContext_congr hfeatures hprices s

theorem get?_scanContextBulk (hset : (symbols.map Row.id).Nodup) {s : Row SymbolRow}
    (hs : s ∈ symbols) : (w.scanContextBulk symbols).get? s.id = some (w.scanContext s) := by
  rw [scanContextBulk_eq]
  exact Assoc.get?_foldl_set_of_mem Row.id _ hset _ hs

end MarketView

/-- The breakout scanner's contexts, and those of the other listed scanners, are built for each. -/
theorem buildsEach_listed {strategy : Strategy ScanContext} {w : MarketView}
    {symbols : List (Row SymbolRow)} (hset : (symbols.map Row.id).Nodup) :
    (listedScanner strategy).BuildsEach w symbols (w.scanContextBulk symbols) :=
  fun s hs => ⟨w.scanContext s,rfl,MarketView.get?_scanContextBulk hset hs⟩

/-- The bulk check, the contexts built in bulk and the run over a set of symbols are those of each pair
and of each symbol alone, and a second run over the same features and prices changes no row. -/
structure BaseScanner.LikeOneByOne (scanner : BaseScanner MarketView) (w : MarketView)
    (symbols : List (Row SymbolRow)) (db : ScannerTables)
    (contexts : Assoc ℕ (Option scanner.Context)) : Prop where
  checked : ∀ pairs pair, pair ∈ existsBulk db.results pairs scanner.name ↔
    pair ∈ pairs ∧ existsForDate db.results (pair.1,scanner.name,pair.2) = true
  built : scanner.buildContextBulk w symbols = .ok contexts ∧ scanner.BuildsEach w symbols contexts
  run : ∀ faults runId, ∃ done single, scanner.runScanner faults w runId symbols db = .ok done ∧
    scanner.runOneByOne faults w runId symbols db = .ok single ∧
    single.2 = scanner.toEvaluate db.results (scanner.haveContext contexts symbols) ∧
    single.1.1.results = done.1.results
  again : ∀ runId done, scanner.runScanner WriteFaults.none w runId symbols db = .ok done →
    ∀ w', w.features = w'.features → w.prices = w'.prices → ∀ runId', ∃ again,
      scanner.runScanner WriteFaults.none w' runId' symbols done.1 = .ok again ∧
      again.1.results = done.1.results

theorem likeOneByOne_listed (strategy : Strategy ScanContext) (w : MarketView)
    {symbols : List (Row SymbolRow)} (hset : (symbols.map Row.id).Nodup) (db : ScannerTables) :
    (listedScanner strategy).LikeOneByOne w symbols db (w.scanContextBulk symbols) where
  checked _ _ := mem_existsBulk
  built := ⟨rfl,buildsEach_listed hset⟩
  run _ _ := BaseScanner.runOneByOne_spec hset rfl (buildsEach_listed hset) db
  again := by
    intro runId done hdone w' hfeatures hprices runId'
    have hcontexts : (listedScanner strategy).buildContextBulk w' symbols =
        .ok (w.scanContextBulk symbols) :=
      congrArg Except.ok (MarketView.scanContextBulk_congr hfeatures.symm hprices.symm)
    exact BaseScanner.runScanner_again rfl hcontexts hdone runId'

/-- `breakout_v1` scans a set of symbols as it scans each of them, and once. -/
theorem breakout_likeOneByOne [Builtins] (settings : Settings) (u : UniverseView) (w : MarketView)
    {symbols : List (Row SymbolRow)} (hset : (symbols.map Row.id).Nodup) (db : ScannerTables) :
    ∃ contexts, (listedScanner (breakoutScanner settings u)).LikeOneByOne w symbols db contexts :=
  ⟨w.scanContextBulk symbols,likeOneByOne_listed _ w hset db⟩

/-- The first symbol closes just below its resistance on twice its usual volume; the second has no features. -/
def nearResistance : MarketView where
  scans := ViewScans.insertion
  prices := Stamped.empty.put ⟨1,⟨20000⟩,⟨13500000⟩,⟨13800000⟩,⟨13400000⟩,⟨13700000⟩,900000,none⟩
  features := Stamped.empty.put ((DailyFeature.new 1 ⟨20000⟩).assign
    [(.ema20,.decimal 1350000000),(.ema50,.decimal 1300000000),(.ema200,.decimal 1200000000),
      (.adx14,.decimal 30000000),(.relativeVolume,.decimal 2000000),(.resistanceLevel,.decimal 1380000000)])
  sessionFeatures := Stamped.empty
  now _ := ⟨0,0⟩
  fault _ := none

theorem breakout_likeOneByOne_nearResistance :
    let _ := Builtins.tabulated [] [] []
    let scanner := listedScanner (breakoutScanner {} ⟨⟨20000⟩,ScanOrder.insertion _,Table.empty,[]⟩)
    let db : ScannerTables := ⟨ScannerResults.empty,Table.empty⟩
    (∃ done, scanner.runScanner WriteFaults.none nearResistance 1 sampleSymbols db = .ok done ∧
      done.2.qualifiedCount = 1 ∧ done.1.results.table.rows.length = 1) ∧
    ∃ contexts, scanner.LikeOneByOne nearResistance sampleSymbols db contexts := by
  intro _ scanner db
  constructor
  · have hstored : (scanner.runScanner WriteFaults.none nearResistance 1 sampleSymbols db).toOption.any
        (fun done => decide (done.2.qualifiedCount = 1 ∧ done.1.results.table.rows.length = 1)) = true := by
      decide +kernel
    cases hdone : scanner.runScanner WriteFaults.none nearResistance 1 sampleSymbols db with
    | error e =>
      rw [hdone] at hstored
      cases hstored
    | ok done =>
      rw [hdone] at hstored
      exact ⟨done,rfl,of_decide_eq_true hstored⟩
  · exact breakout_likeOneByOne _ _ _ (by decide) _

end MarketScanner.Scanner
