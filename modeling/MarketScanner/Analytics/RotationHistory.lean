import MarketScanner.Analytics.RelativeRotation
import MarketScanner.Config.Settings
import MarketScanner.Universe.SymbolMaster

/-! The relative rotation of stored securities. A reading looks back on two windows and the bars of one
return, so how much more of the stored history is read makes no difference to it. -/
namespace MarketScanner.Analytics
open MarketScanner.Library MarketScanner.Python MarketScanner.Market MarketScanner.Features
open MarketScanner.Features.Series MarketScanner.Config MarketScanner.Universe

/-- `_ROLLING_WINDOW`. -/
def rollingWindow : ℕ := 14

/-- `benchmark_symbol or settings.feature_rs_benchmark_symbol`. -/
def benchmarkOr (settings : Settings) (benchmarkSymbol : Option String) : String :=
  match benchmarkSymbol with
  | none | some "" => settings.featureRsBenchmarkSymbol
  | some symbol => symbol

/-- What the analytics read: the tables, with the order in which bars are delivered, and the clock. -/
structure PriceView where
  scan : ScanOrder (Row DailyPrice)
  symbols : SymbolTable
  prices : DailyPrices
  utcNow : DateTime

/-- `get_daily_history`, the bars themselves. -/
def PriceView.dailyHistory (view : PriceView) (symbolId limit : ℕ) : List DailyPrice :=
  (PriceRepository.getDailyHistory view.scan view.prices symbolId limit).map Row.val

/-- The points of a security against a benchmark; there are none where either has no bars. -/
def PriceView.points [FloatMath] (view : PriceView) (symbol benchmark : String) (lookbackDays : ℕ) :
    Option (Row SymbolRow) → Option (Row SymbolRow) → Option (List RrgPoint)
  | some securityRow, some benchmarkRow =>
    let securityHistory := view.dailyHistory securityRow.id lookbackDays
    let benchmarkHistory := view.dailyHistory benchmarkRow.id lookbackDays
    if securityHistory = [] ∨ benchmarkHistory = [] then none
    else some (computeRrgSeries rollingWindow symbol benchmark view.utcNow securityHistory benchmarkHistory)
  | _, _ => none

/-- `compute_stock_rrg`. -/
def computeStockRrg [FloatMath] (settings : Settings) (view : PriceView) (symbol : String)
    (benchmarkSymbol : Option String) (lookbackDays : ℕ) : Except PyException (Option (List RrgPoint)) := do
  let benchmark := benchmarkOr settings benchmarkSymbol
  let securityRow ← SymbolRepository.getBySymbol view.symbols symbol
  let benchmarkRow ← SymbolRepository.getBySymbol view.symbols benchmark
  return view.points symbol benchmark lookbackDays securityRow benchmarkRow

section Recalls

theorem recalls_rolling (w : ℕ) (g : List ℚ → PyFloat) : Recalls (w-1) (rolling w g) :=
  (Recalls.map _).comp (Recalls.windows w)

theorem recalls_pctChange (k : ℕ) : Recalls k (pctChange k) :=
  (Recalls.map _).comp ((Recalls.refl.mono (Nat.zero_le k)).zipWith divide (Recalls.shift k _))

theorem recalls_diff : Recalls 1 diff :=
  (Recalls.refl.mono (Nat.zero_le 1)).zipWith _ (Recalls.shift 1 _)

variable [FloatMath] (window : ℕ)

theorem recalls_rollingZscore : Recalls (window-1) (rollingZscore window) :=
  (Recalls.map _).comp (((Recalls.refl.mono (Nat.zero_le _)).zipWith _ (recalls_rolling window mean)).zipWith
    divide (recalls_rolling window std))

theorem recalls_rsMomentum (hwindow : 0 < window) : Recalls (2*window-1) (rsMomentum window) := by
  have hcomp := (recalls_rollingZscore window).comp (recalls_diff.comp (recalls_rollingZscore window))
  exact hcomp.mono (by omega)

end Recalls

/-! ### What a reading looks back on -/

section LookBack
variable {older olderBenchmark security benchmark : List DailyPrice} {window k : ℕ}

/-- The return in percent over 20 bars. -/
def returns (bars : List DailyPrice) : Series := scale 100 (pctChange 20 (closes bars))

theorem recalls_returns : Recalls 20 returns :=
  (Recalls.map _).comp ((recalls_pctChange 20).comp (Recalls.map _))

theorem length_returns (bars : List DailyPrice) : (returns bars).length = bars.length := by
  simp [returns, length_pctChange, closes]

/-- The benchmark's return on the day of one of its bars. -/
theorem benchmarkReturn_of_get {bars : List DailyPrice} {bar : DailyPrice}
    (hdates : (bars.map DailyPrice.date).Nodup) (hbar : bars[k]? = some bar) :
    (returns bars)[k]? = some (benchmarkReturn bars bar.date) := by
  have hk : k < (returns bars).length :=
    (List.getElem?_eq_some_iff.mp hbar).choose.trans_eq (length_returns bars).symm
  have hkeys : ((List.zip (bars.map DailyPrice.date) (returns bars)).map Prod.fst).Nodup := by
    rwa [List.map_fst_zip (by simp [length_returns])]
  have hmem : (bar.date,(returns bars)[k]) ∈ List.zip (bars.map DailyPrice.date) (returns bars) := by
    refine List.mem_of_getElem? (i := k) (List.getElem?_zip_eq_some.mpr ⟨?_,List.getElem?_eq_getElem hk⟩)
    rw [List.getElem?_map, hbar, Option.map_some]
  have hlookup := (Assoc.lookup_eq_some_iff hkeys).mpr hmem
  rw [List.getElem?_eq_getElem hk, benchmarkReturn]
  exact congrArg some (congrArg (Option.getD · PyFloat.nan) hlookup).symm

theorem getElem?_rsVsNifty : (rsVsNifty security benchmark)[k]? =
    (returns security)[k]?.bind fun x => security[k]?.map fun p =>
      x.sub (benchmarkReturn benchmark p.date) := by
  simp only [rsVsNifty_eq, returns, List.getElem?_zipWith, List.getElem?_map]
  cases (pctChange 20 (closes security))[k]? <;> cases security[k]? <;> rfl

/-- Where both have bars for the same days, relative strengths are the same whatever bars are before
those of the returns. -/
theorem drop_rsVsNifty (hdays : security.map DailyPrice.date = benchmark.map DailyPrice.date)
    (hdates : ((olderBenchmark ++ benchmark).map DailyPrice.date).Nodup) :
    (rsVsNifty (older ++ security) (olderBenchmark ++ benchmark)).drop (older.length+20) =
      (rsVsNifty security benchmark).drop 20 := by
  apply List.ext_getElem?
  intro j
  have hown := recalls_returns older.length (older ++ security) (20+j) (by omega)
  rw [List.drop_left, ← Nat.add_assoc] at hown
  have hother := recalls_returns olderBenchmark.length (olderBenchmark ++ benchmark) (20+j) (by omega)
  rw [List.drop_left] at hother
  have hbar : (older ++ security)[older.length+20+j]? = security[20+j]? := by
    rw [List.getElem?_append_right (by omega)]
    congr 1
    omega
  have hday : security[20+j]?.map DailyPrice.date = benchmark[20+j]?.map DailyPrice.date := by
    rw [← List.getElem?_map, ← List.getElem?_map, hdays]
  rw [List.getElem?_drop, List.getElem?_drop, getElem?_rsVsNifty, getElem?_rsVsNifty, ← hown, hbar]
  congr 1
  funext x
  cases hsecurity : security[20+j]? with
  | none => rfl
  | some p =>
    rw [hsecurity] at hday
    obtain ⟨p',hp',hdate⟩ := Option.map_eq_some_iff.mp hday.symm
    have hrecent := benchmarkReturn_of_get (hdates.sublist (by simp)) hp'
    have hp : (olderBenchmark ++ benchmark)[olderBenchmark.length+(20+j)]? = some p' := by
      rw [List.getElem?_append_right (by omega), Nat.add_sub_cancel_left, hp']
    have hlong := benchmarkReturn_of_get hdates hp
    rw [← hother, hrecent, hdate] at hlong
    rw [Option.map_some, Option.map_some, Option.some.inj hlong]

variable [FloatMath] {symbol benchmarkSymbol : String} {computedAt : DateTime}

/-- The newest point looks back on two windows of returns: bars before those make no difference. -/
theorem getLast?_computeRrgSeries (hwindow : 0 < window)
    (hdays : security.map DailyPrice.date = benchmark.map DailyPrice.date)
    (hdates : ((olderBenchmark ++ benchmark).map DailyPrice.date).Nodup)
    (hlength : 2*window+20 ≤ security.length) :
    (computeRrgSeries window symbol benchmarkSymbol computedAt (older ++ security)
        (olderBenchmark ++ benchmark)).getLast? =
      (computeRrgSeries window symbol benchmarkSymbol computedAt security benchmark).getLast? := by
  have hdrop : (rsVsNifty (older ++ security) (olderBenchmark ++ benchmark)).drop (older.length+20) =
      (rsVsNifty security benchmark).drop 20 := drop_rsVsNifty hdays hdates
  obtain ⟨j,hj⟩ := Nat.exists_eq_add_of_le (show 21 ≤ security.length by omega)
  have hlast : security.length-1 = 20+j := by omega
  have hlong : (older ++ security).length-1 = older.length+20+j := by
    rw [List.length_append]
    omega
  have hbar : (older ++ security)[older.length+20+j]? = security[20+j]? := by
    rw [List.getElem?_append_right (by omega)]
    congr 1
    omega
  have hrs := Recalls.refl.congr hdrop (Nat.zero_le j)
  have hratio : (rsRatio window _)[_]? = (rsRatio window _)[_]? :=
    (recalls_rollingZscore window).congr hdrop (i := j) (by omega)
  have hmomentum := (recalls_rsMomentum window hwindow).congr hdrop (i := j) (by omega)
  rw [List.getLast?_eq_getElem?, List.getLast?_eq_getElem?, length_computeRrgSeries, length_computeRrgSeries,
    hlast, hlong, getElem?_computeRrgSeries, getElem?_computeRrgSeries, hbar, hrs, hratio, hmomentum]

end LookBack

/-- Two securities have traded on the same days for the last `n` bars. -/
def SharesDays (n : ℕ) (bars others : List DailyPrice) : Prop :=
  n ≤ bars.length ∧ (bars.drop (bars.length-n)).map DailyPrice.date =
    (others.drop (others.length-n)).map DailyPrice.date

instance (n : ℕ) (bars others : List DailyPrice) : Decidable (SharesDays n bars others) :=
  inferInstanceAs (Decidable (_ ∧ _))

theorem SharesDays.le_length {n : ℕ} {bars others : List DailyPrice} (h : SharesDays n bars others) :
    n ≤ others.length := by
  have hlength := congrArg List.length h.2
  have hle := h.1
  simp only [List.length_map, List.length_drop] at hlength
  omega

/-- What a longer lookback reads ends with what a shorter one does. -/
theorem drop_eq_append {α : Type*} (l : List α) {m n : ℕ} (h : m ≤ n) :
    ∃ front, l.drop m = front ++ l.drop n := by
  obtain ⟨d,rfl⟩ := Nat.exists_eq_add_of_le h
  refine ⟨(l.drop m).take d,?_⟩
  rw [← List.drop_drop, List.take_append_drop]

theorem nodup_dates (t : DailyPrices) (symbolId : ℕ) : ((t.history symbolId).map DailyPrice.date).Nodup := by
  rw [List.Nodup, List.pairwise_map]
  refine (Stamped.history_pairwise t symbolId).imp fun {a b} hlt heq => ?_
  rw [heq] at hlt
  exact lt_irrefl _ hlt

section Lookback
variable [FloatMath] (view : PriceView) {lookback : ℕ} (hlookback : 2*rollingWindow+20 ≤ lookback)
include hlookback

theorem getLast?_points (symbol benchmark : String) {row other : Row SymbolRow}
    (hshares : SharesDays (2*rollingWindow+20) (view.prices.history row.id) (view.prices.history other.id)) :
    (view.points symbol benchmark lookback (some row) (some other)).bind List.getLast? =
      (view.points symbol benchmark (2*rollingWindow+20) (some row) (some other)).bind List.getLast? := by
  generalize hn : 2*rollingWindow+20 = n at hlookback hshares ⊢
  have hlength := hshares.1
  have hother := hshares.le_length
  have hhistory (symbolId limit : ℕ) : view.dailyHistory symbolId limit =
      (view.prices.history symbolId).drop ((view.prices.history symbolId).length-limit) :=
    PriceRepository.map_getDailyHistory view.scan view.prices symbolId limit
  obtain ⟨front,hfront⟩ := drop_eq_append (view.prices.history row.id)
    (show (view.prices.history row.id).length-lookback ≤ (view.prices.history row.id).length-n by omega)
  obtain ⟨otherFront,hotherFront⟩ := drop_eq_append (view.prices.history other.id)
    (show (view.prices.history other.id).length-lookback ≤ (view.prices.history other.id).length-n by omega)
  have hpos : 0 < n := by omega
  have hnonempty (limit : ℕ) (hlimit : 0 < limit) : ¬(view.dailyHistory row.id limit = [] ∨
      view.dailyHistory other.id limit = []) := by
    rw [hhistory, hhistory, List.drop_eq_nil_iff, List.drop_eq_nil_iff]
    omega
  simp only [PriceView.points, if_neg (hnonempty lookback (by omega)), if_neg (hnonempty n hpos),
    Option.bind_some]
  rw [hhistory, hhistory, hhistory, hhistory, hfront, hotherFront]
  refine getLast?_computeRrgSeries (by decide) hshares.2 ?_ ?_
  · rw [← hotherFront]
    exact (nodup_dates view.prices other.id).sublist ((List.drop_sublist _ _).map _)
  · rw [List.length_drop]
    omega

end Lookback

def indexRow (symbol : String) : SymbolRow := ⟨symbol,"NSE","",none,none,none,none,true⟩

/-- Two indices that have traded on the same fifty days. -/
def fiftyDays : PriceView where
  scan := ScanOrder.insertion _
  symbols := (Table.empty.insert (indexRow "NIFTY IT")).insert (indexRow "NIFTY")
  prices := (List.range 50).foldl (fun t day => (t.put { barAt day (1000000+day*day) with symbolId := 1 }).put
    { barAt day 2000000 with symbolId := 2 }) Stamped.empty
  utcNow := ⟨0,.minutes 0⟩

end MarketScanner.Analytics
