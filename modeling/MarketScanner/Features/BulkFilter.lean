import MarketScanner.Features.Engine
import MarketScanner.Library.Loop

/-! The bulk pre-filter of the daily run against the run without it. -/
namespace MarketScanner.Features.FeatureEngine
open MarketScanner.Library MarketScanner.Python MarketScanner.Config MarketScanner.Market
open MarketScanner.Universe
variable [FloatMath] (settings : Settings) (scans : Scans) (faults : Faults)
variable (symbols : SymbolTable) (prices : DailyPrices)

/-- The daily run with `_run_daily_for_symbol` called for every active symbol. -/
def runEverySymbol (t : DailyFeatures) : Except PyException (DailyFeatures × FeatureRunResult) :=
  match loadBenchmark settings scans symbols prices with
  | .error e => .error e
  | .ok benchmark =>
    .ok ((SymbolRepository.listActive scans.symbols symbols).foldl
      (processSymbol settings scans faults prices benchmark)
      (t,{ symbolsProcessed := (SymbolRepository.listActive scans.symbols symbols).length }))

/-- The feature store that a run leaves, with the symbols and rows that it reports. -/
def report (state : DailyFeatures × FeatureRunResult) : DailyFeatures × ℕ × ℕ :=
  (state.1,state.2.symbolsUpdated,state.2.rowsWritten)

variable {settings scans faults symbols prices}

theorem report_processSymbol_congr (benchmark : Option (List DailyPrice))
    (state state' : DailyFeatures × FeatureRunResult) (symbol : Row SymbolRow)
    (h : report state = report state') :
    report (processSymbol settings scans faults prices benchmark state symbol) =
      report (processSymbol settings scans faults prices benchmark state' symbol) := by
  simp only [report, Prod.mk.injEq] at h
  obtain ⟨htable,hupdated,hrows⟩ := h
  unfold processSymbol
  rw [htable]
  cases runDailyForSymbol settings scans faults prices benchmark state'.1 symbol.id with
  | error text => simp only [report, hupdated, hrows]
  | ok done =>
    simp only [report]
    split
    · rw [hupdated, hrows]
    · simp only [hupdated, hrows]

/-- A symbol whose latest bar has its features reports nothing, whether or not its queries raise. -/
theorem report_processSymbol_of_settled (benchmark : Option (List DailyPrice))
    {state : DailyFeatures × FeatureRunResult} {symbol : Row SymbolRow}
    (h : Settled prices state.1 symbol.id) :
    report (processSymbol settings scans faults prices benchmark state symbol) = report state := by
  unfold processSymbol
  split
  · rename_i done hdone
    obtain ⟨rfl,-⟩ | ⟨-,-,hopen⟩ := runDailyForSymbol_cases hdone
    · rfl
    · exact absurd h hopen
  · rfl

/-- Skipping the symbols that the bulk queries find up to date changes neither the feature store nor
the reported counts. -/
theorem runDaily_eq_runEverySymbol (t : DailyFeatures) :
    (runDaily settings scans faults symbols prices t).map report =
      (runEverySymbol settings scans faults symbols prices t).map report := by
  unfold runDaily runEverySymbol
  cases loadBenchmark settings scans symbols prices with
  | error e => rfl
  | ok benchmark =>
    apply congrArg Except.ok
    -- a symbol that the filter drops keeps its rows, as no other symbol's turn writes them
    let kept (k : ℕ) (state : DailyFeatures × FeatureRunResult) : Prop :=
      Settled prices t k → state.1.history k = t.history k
    refine foldl_filter_of_inert report (I := fun state => ∀ k, kept k state)
      (report_processSymbol_congr benchmark) ?_ ?_ rfl fun k _ => rfl
    · intro state symbol hactive hdropped hkept
      have hsettled : Settled prices t symbol.id := by
        by_contra hopen
        have hmem : symbol ∈ toProcess scans symbols prices t :=
          mem_toProcess.mpr ⟨SymbolRepository.mem_listActive.mp hactive,hopen⟩
        rw [toProcess, List.mem_filter] at hmem
        exact absurd hmem.2 (ne_true_of_eq_false hdropped)
      apply report_processSymbol_of_settled
      exact (settled_congr (hkept symbol.id hsettled)).mpr hsettled
    · intro state symbol hactive hkept k hsettled
      by_cases hk : k = symbol.id
      · subst hk
        have hsame : Settled prices state.1 symbol.id :=
          (settled_congr (hkept symbol.id hsettled)).mpr hsettled
        have hreport : report (processSymbol settings scans faults prices benchmark state symbol) =
            report state := report_processSymbol_of_settled benchmark hsame
        have htable := congrArg Prod.fst hreport
        exact (congrArg (fun u => Stamped.history u symbol.id) htable).trans
          (hkept symbol.id hsettled)
      · rw [history_processSymbol_of_ne hk]
        exact hkept k hsettled

end MarketScanner.Features.FeatureEngine
