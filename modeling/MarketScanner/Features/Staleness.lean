import MarketScanner.Features.Incremental
import MarketScanner.Library.Transition

/-! Writes of daily bars and daily runs in any order: when the row of a symbol's latest bar is what
the calculators make of the stored prices. -/
namespace MarketScanner.Features
open MarketScanner.Library MarketScanner.Python MarketScanner.Config MarketScanner.Market
open MarketScanner.Universe FeatureEngine

/-- The stored bars that the calculators would be given now. -/
def window (settings : Settings) (prices : DailyPrices) (symbolId : ℕ) : List DailyPrice :=
  lookback settings Scans.insertion prices symbolId

def benchmarkNow (settings : Settings) (symbols : SymbolTable) (prices : DailyPrices) :
    Option (List DailyPrice) :=
  match loadBenchmark settings Scans.insertion symbols prices with
  | .ok benchmark => benchmark
  | .error _ => none

/-- What the latest row of a symbol was computed from. -/
structure Basis where
  bars : List DailyPrice
  benchmark : Option (List DailyPrice)

/-- The two stores, the basis of each symbol's latest row, and the report of the last action if that
was a daily run. -/
structure FeatureState where
  prices : DailyPrices
  features : DailyFeatures
  basis : ℕ → Option Basis
  report : Option FeatureRunResult

inductive FeatureAction
  | upsertDaily (symbolId : ℕ) (candle : Candle)
  | runDaily (scans : Scans) (faults : Faults)

section Machine
variable [FloatMath] (settings : Settings) (symbols : SymbolTable)

def runStep (s : FeatureState) (scans : Scans) (faults : Faults) : FeatureState :=
  match runDaily settings scans faults symbols s.prices s.features with
  | .error _ => { s with report := none }
  | .ok done =>
    { s with
      features := done.1
      basis := fun k =>
        if (done.1.history k).length = (s.features.history k).length then s.basis k
        else some ⟨window settings s.prices k,benchmarkNow settings symbols s.prices⟩
      report := some done.2 }

def featureMachine : Machine FeatureState FeatureAction where
  step s
    | .upsertDaily symbolId candle => some { s with
        prices := PriceRepository.upsertDaily settings s.prices symbolId candle
        report := none }
    | .runDaily scans faults => some (runStep settings symbols s scans faults)

def emptyStores : FeatureState := ⟨Stamped.empty,Stamped.empty,fun _ => none,none⟩

/-- The row of its latest bar is, for every active symbol with two bars, what the calculators make of
the stored prices. -/
def FreshRows (s : FeatureState) : Prop :=
  ∀ symbol ∈ symbols.rows, symbol.val.isActive = true →
    2 ≤ (s.prices.history symbol.id).length →
      ∀ p ∈ (s.prices.history symbol.id).getLast?,
        storedRow symbol.id (window settings s.prices symbol.id)
          (benchmarkNow settings symbols s.prices)
          ((window settings s.prices symbol.id).length-1) p.date ∈ s.features.history symbol.id

/-- After a run that reports no error the rows are fresh. -/
def FreshAfterRun (s : FeatureState) : Prop :=
  ∀ result ∈ s.report, result.errors = [] → FreshRows settings symbols s

/-- What the calculators read is as it was when the symbol's latest row was computed: the bars of the
window, and the benchmark's return on the latest date unless the symbol's own is missing. -/
def Unchanged (s : FeatureState) (symbolId : ℕ) : Prop :=
  ∃ b, s.basis symbolId = some b ∧
    b.bars.map readColumns = (window settings s.prices symbolId).map readColumns ∧
    ∀ p ∈ (s.prices.history symbolId).getLast?,
      finite? (symbolReturn (window settings s.prices symbolId)
          ((window settings s.prices symbolId).length-1)) = none ∨
        finite? (returnOn b.benchmark p.date) =
          finite? (returnOn (benchmarkNow settings symbols s.prices) p.date)

/-- The engine looks back two bars or more, and a run finds unchanged what the rows of the symbols
that it takes to be up to date were computed from. -/
def InputsKept (s : FeatureState) : FeatureAction → FeatureState → Prop
  | .upsertDaily _ _, _ => True
  | .runDaily _ _, _ => ∀ symbol ∈ symbols.rows, symbol.val.isActive = true →
      2 ≤ (s.prices.history symbol.id).length →
        2 ≤ settings.featureDailyLookbackBars ∧
          (Settled s.prices s.features symbol.id → Unchanged settings symbols s symbol.id)

end Machine

section Scans
variable {settings : Settings} {symbols : SymbolTable} {prices : DailyPrices}

theorem lookback_eq_window (scans : Scans) (k : ℕ) :
    lookback settings scans prices k = window settings prices k := by
  rw [window, lookback_eq, lookback_eq]

theorem loadBenchmark_scans (scans : Scans) :
    loadBenchmark settings scans symbols prices =
      loadBenchmark settings Scans.insertion symbols prices := by
  simp only [loadBenchmark, lookback_eq_window]

theorem benchmarkNow_eq {scans : Scans} {benchmark : Option (List DailyPrice)}
    (h : loadBenchmark settings scans symbols prices = .ok benchmark) :
    benchmarkNow settings symbols prices = benchmark := by
  rw [loadBenchmark_scans] at h
  rw [benchmarkNow, h]

theorem length_window (k : ℕ) : (window settings prices k).length =
    min (prices.history k).length settings.featureDailyLookbackBars := by
  rw [window, lookback_eq, List.length_drop]
  omega

theorem getLast?_window (prices : DailyPrices) (k : ℕ) (h : 0 < settings.featureDailyLookbackBars) :
    (window settings prices k).getLast? = (prices.history k).getLast? := by
  rw [window, lookback_eq, List.getLast?_drop]
  split
  · rename_i hle
    have hnil : prices.history k = [] := List.eq_nil_of_length_eq_zero (by omega)
    rw [hnil]
    rfl
  · rfl

/-- The last of the rows that a run adds is that of the latest bar. -/
theorem getLast?_addedRows [FloatMath] {scans : Scans} (benchmark : Option (List DailyPrice))
    {t : DailyFeatures} {k : ℕ} (hopen : ¬Settled prices t k)
    (hlong : 2 ≤ (lookback settings scans prices k).length) :
    ∃ p, (prices.history k).getLast? = some p ∧ (window settings prices k).getLast? = some p ∧
      (addedRows settings scans prices benchmark t k).getLast? =
        some (storedRow k (window settings prices k) benchmark
          ((window settings prices k).length-1) p.date) := by
  rw [lookback_eq_window, length_window] at hlong
  unfold Settled at hopen
  push Not at hopen
  obtain ⟨p,hp,hdate⟩ := hopen
  have hlast : (window settings prices k).getLast? = some p :=
    (getLast?_window prices k (by omega)).trans hp
  refine ⟨p,hp,hlast,?_⟩
  obtain ⟨init,hinit⟩ := List.getLast?_eq_some_iff.mp hlast
  have hkept : (!upToDate ((t.history k).getLast?.map DailyFeature.date) p.date) = true := by
    simpa using hdate
  unfold addedRows newRows
  rw [lookback_eq_window, List.getLast?_map, List.getLast?_map, hinit, List.zipIdx_append,
    List.filter_append, List.zipIdx_singleton, List.filter_singleton, hkept, cond_true,
    List.getLast?_concat]
  simp [storedRow]

end Scans

section Invariant
variable [FloatMath] {settings : Settings} {symbols : SymbolTable}

/-- Each latest row is dated like some stored bar and is what its basis gives. -/
def BasisKept (s : FeatureState) : Prop :=
  ∀ k, ∀ f ∈ (s.features.history k).getLast?,
    (∃ p ∈ s.prices.history k, p.date.day = f.date.day) ∧
      ∃ b, s.basis k = some b ∧ ∃ p, b.bars.getLast? = some p ∧
        f = storedRow k b.bars b.benchmark (b.bars.length-1) p.date

theorem basisKept_upsertDaily {s : FeatureState} (h : BasisKept s) (symbolId : ℕ)
    (candle : Candle) :
    BasisKept { s with
      prices := PriceRepository.upsertDaily settings s.prices symbolId candle
      report := none } := by
  intro k f hf
  obtain ⟨hbar,hbasis⟩ := h k f hf
  exact ⟨Stamped.exists_stamp_put _ hbar,hbasis⟩

theorem basisKept_runStep {s : FeatureState} (h : BasisKept s) (scans : Scans) (faults : Faults) :
    BasisKept (runStep settings symbols s scans faults) := by
  unfold runStep
  split
  · exact h
  · rename_i done hdone
    obtain ⟨benchmark,hload⟩ := loadBenchmark_of_runDaily hdone
    intro k f hf
    dsimp only at hf ⊢
    obtain hsame | ⟨hadded,hlong,hopen,-⟩ := history_runDaily hload hdone k
    · rw [hsame] at hf ⊢
      rw [if_pos rfl]
      exact h k f hf
    · obtain ⟨p,hp,hwindow,hlast⟩ := getLast?_addedRows benchmark hopen hlong
      rw [hadded, List.getLast?_append, hlast, Option.some_or] at hf
      obtain rfl := Option.some.inj hf
      refine ⟨⟨p,List.mem_of_getLast? hp,rfl⟩,
        ⟨window settings s.prices k,benchmarkNow settings symbols s.prices⟩,?_,p,hwindow,?_⟩
      · rw [if_neg]
        rw [hadded, List.length_append]
        have hne : addedRows settings scans s.prices benchmark s.features k ≠ [] := by
          intro hnil
          rw [hnil] at hlast
          cases hlast
        have := List.length_pos_of_ne_nil hne
        omega
      · rw [benchmarkNow_eq hload]

/-- What a skipped symbol's row was computed from being unchanged, the row is fresh. -/
theorem fresh_of_unchanged {s : FeatureState} (h : BasisKept s) {k : ℕ}
    (hwindow : 0 < settings.featureDailyLookbackBars) (hsettled : Settled s.prices s.features k)
    (hunchanged : Unchanged settings symbols s k) {p : DailyPrice}
    (hp : p ∈ (s.prices.history k).getLast?) :
    storedRow k (window settings s.prices k) (benchmarkNow settings symbols s.prices)
      ((window settings s.prices k).length-1) p.date ∈ s.features.history k := by
  have hdate := hsettled p hp
  cases hlatest : (s.features.history k).getLast? with
  | none =>
    rw [hlatest] at hdate
    cases hdate
  | some f =>
    rw [hlatest] at hdate
    have hle : p.date.day ≤ f.date.day := of_decide_eq_true hdate
    obtain ⟨⟨p₀,hp₀,hday⟩,b,hb,q,hq,hf⟩ := h k f hlatest
    obtain ⟨b',hb',hread,hreturn⟩ := hunchanged
    obtain rfl := Option.some.inj (hb.symm.trans hb')
    -- the latest row's date is that of a bar, so no later than the latest bar's
    have hge : p₀.date.day ≤ p.date.day :=
      Stamped.stamp_le_getLast (Stamped.history_pairwise s.prices k) hp hp₀
    have hfdate : f.date = q.date := congrArg DailyFeature.date hf
    have hqdate : p.date = q.date := by
      cases hpd : p.date
      cases hqd : q.date
      rw [hfdate, hqd] at hle hday
      rw [hpd] at hle hge
      congr 1
      dsimp only at hle hge hday
      omega
    have hlast := (getLast?_window s.prices k hwindow).trans hp
    have hlength : b.bars.length = (window settings s.prices k).length := by
      simpa using congrArg List.length hread
    rw [List.getLast?_eq_getElem?] at hq hlast
    have hmem := List.mem_of_getLast? hlatest
    rw [hf, storedRow_congr hread k hq (by rw [hlength]; exact hlast) hqdate
      (by rw [← hqdate, hlength]; exact hreturn p hp), hlength, ← hqdate] at hmem
    exact hmem

theorem freshRows_runStep {s : FeatureState} (h : BasisKept s) (scans : Scans) (faults : Faults)
    (hkept : InputsKept settings symbols s (.runDaily scans faults)
      (runStep settings symbols s scans faults)) :
    FreshAfterRun settings symbols (runStep settings symbols s scans faults) := by
  unfold runStep
  split
  · intro result hresult
    cases hresult
  · rename_i done hdone
    obtain ⟨benchmark,hload⟩ := loadBenchmark_of_runDaily hdone
    intro result hresult herr symbol hrow hactive hbars p hp
    obtain rfl := Option.some.inj hresult
    dsimp only at hbars hp ⊢
    obtain ⟨hlookback,hunchanged⟩ := hkept symbol hrow hactive hbars
    by_cases hsettled : Settled s.prices s.features symbol.id
    · have hsame := history_runDaily_of_kept hdone (k := symbol.id) fun _ _ _ _ => Or.inl hsettled
      rw [hsame]
      exact fresh_of_unchanged h (by omega) hsettled (hunchanged hsettled) hp
    · have hlong : 2 ≤ (lookback settings scans s.prices symbol.id).length := by
        rw [lookback_eq_window, length_window]
        omega
      have hadded := history_runDaily_of_open hload hdone herr hrow hactive hsettled hlong
      obtain ⟨q,hq,-,hlast⟩ := getLast?_addedRows benchmark hsettled hlong
      obtain rfl := Option.some.inj (hp.symm.trans hq)
      rw [hadded, benchmarkNow_eq hload]
      exact List.mem_append_right _ (List.mem_of_getLast? hlast)

/-- Over every sequence of writes and runs in which each run finds the inputs of the rows it skips
unchanged, the rows are fresh after each run that reports no error. -/
theorem freshAfterRun_throughout (as : List FeatureAction)
    (h : (featureMachine settings symbols).Steps (InputsKept settings symbols) emptyStores as) :
    (featureMachine settings symbols).Throughout (FreshAfterRun settings symbols) emptyStores
      as := by
  have hboth : (featureMachine settings symbols).Throughout
      (fun s => BasisKept s ∧ FreshAfterRun settings symbols s) emptyStores as := by
    refine h.throughout ?_ ⟨?_,?_⟩
    · rintro s a t ⟨hbasis,-⟩ hkept hstep
      cases a with
      | upsertDaily symbolId candle =>
        obtain rfl := Option.some.inj hstep
        refine ⟨basisKept_upsertDaily hbasis symbolId candle,?_⟩
        intro result hresult
        cases hresult
      | runDaily scans faults =>
        obtain rfl := Option.some.inj hstep
        exact ⟨basisKept_runStep hbasis scans faults,
          freshRows_runStep hbasis scans faults hkept⟩
    · intro k f hf
      cases hf
    · intro result hresult
      cases hresult
  intro pre post s has hrun
  exact (hboth has hrun).2

end Invariant

theorem not_settled_of_no_rows {prices : DailyPrices} {t : DailyFeatures} {k : ℕ}
    (hbars : prices.history k ≠ []) (hrows : t.history k = []) : ¬Settled prices t k := by
  intro h
  have hlast := h _ (List.getLast?_eq_some_getLast hbars)
  rw [hrows] at hlast
  cases hlast

/-- Right after rows are added for a symbol, what they were computed from is unchanged. -/
theorem unchanged_runStep [FloatMath] {settings : Settings} {symbols : SymbolTable} {s : FeatureState}
    {scans : Scans} {faults : Faults} {done : DailyFeatures × FeatureRunResult} {k : ℕ}
    (hdone : runDaily settings scans faults symbols s.prices s.features = .ok done)
    (hadded : (done.1.history k).length ≠ (s.features.history k).length) :
    Unchanged settings symbols (runStep settings symbols s scans faults) k := by
  rw [runStep, hdone]
  exact ⟨⟨window settings s.prices k,benchmarkNow settings symbols s.prices⟩,if_neg hadded,rfl,
    fun p _ => Or.inr rfl⟩

def twoBars : DailyPrices :=
  let first := PriceRepository.upsertDaily {} Stamped.empty 1 (dailyCandle 1 11 10)
  PriceRepository.upsertDaily {} first 1 (dailyCandle 2 12 10)

/-- Two bars arrive and are computed; a second run finds the symbol up to date. -/
theorem freshAfterRun_throughout_two_bars :
    (@featureMachine FloatMath.double {} oneSymbol).Throughout
      (@FreshAfterRun FloatMath.double {} oneSymbol) emptyStores
      [.upsertDaily 1 (dailyCandle 1 11 10),.upsertDaily 1 (dailyCandle 2 12 10),
        .runDaily Scans.insertion .none,.runDaily Scans.insertion .none] := by
  let _ := FloatMath.double
  refine freshAfterRun_throughout _ ?_
  refine Machine.Steps.cons rfl trivial (Machine.Steps.cons rfl trivial
    (Machine.Steps.cons rfl ?_ (Machine.Steps.cons rfl ?_ (Machine.steps_nil _))))
  · intro symbol hrow hactive hbars
    refine ⟨by decide,fun hsettled => absurd hsettled (not_settled_of_no_rows ?_ rfl)⟩
    exact List.ne_nil_of_length_pos (by omega)
  · intro symbol hrow hactive hbars
    obtain rfl := List.mem_singleton.mp hrow
    refine ⟨by decide,fun _ => ?_⟩
    have hadded : (runDaily {} Scans.insertion .none oneSymbol twoBars Stamped.empty).toOption.any
        (fun done => decide ((done.1.history 1).length ≠ 0)) = true := by decide +kernel
    cases hdone : runDaily {} Scans.insertion .none oneSymbol twoBars Stamped.empty with
    | error e =>
      rw [hdone] at hadded
      cases hadded
    | ok done =>
      rw [hdone] at hadded
      exact unchanged_runStep (s := ⟨twoBars,Stamped.empty,fun _ => none,none⟩) hdone (of_decide_eq_true hadded)

/-- The bar of the second day is revised after its row is written. -/
def revisedBarRun : List FeatureAction :=
  [.upsertDaily 1 (dailyCandle 1 11 10),.upsertDaily 1 (dailyCandle 2 12 10),
    .runDaily Scans.insertion .none,.upsertDaily 1 (dailyCandle 2 11 10),
    .runDaily Scans.insertion .none]

theorem revisedBarRun_stale :
    ¬ (@featureMachine FloatMath.double {} oneSymbol).Throughout
        (@FreshAfterRun FloatMath.double {} oneSymbol) emptyStores revisedBarRun := by
  let _ := FloatMath.double
  intro h
  obtain ⟨s,hrun,hs⟩ := Machine.exists_run_of_exec (featureMachine {} oneSymbol) emptyStores
    revisedBarRun (fun s => s.report.any (fun result => result.errors == []) &&
      decide (2 ≤ (s.prices.history 1).length) &&
      (s.prices.history 1).getLast?.any fun p => (s.features.history 1).all fun f =>
        f.date != p.date || decide (f.values .higherHigh ≠ (storedRow 1 (window {} s.prices 1)
          (benchmarkNow {} oneSymbol s.prices) ((window {} s.prices 1).length-1) p.date).values
            .higherHigh)) (by decide +kernel)
  rw [Bool.and_eq_true, Bool.and_eq_true] at hs
  obtain ⟨⟨hreport,hbars⟩,hstale⟩ := hs
  obtain ⟨result,hresult,herr⟩ := (Option.any_eq_true _ _).mp hreport
  obtain ⟨p,hp,hrows⟩ := (Option.any_eq_true _ _).mp hstale
  have hfresh := h (List.append_nil revisedBarRun).symm hrun result hresult (eq_of_beq herr)
    ⟨1,⟨"ACME","NSE","token",none,none,none,none,true⟩⟩ List.mem_cons_self rfl
    (of_decide_eq_true hbars) p hp
  have hdiffers := List.all_eq_true.mp hrows _ hfresh
  simp [storedRow, DailyFeature.assign, DailyFeature.new] at hdiffers

end MarketScanner.Features
