import MarketScanner.Features.Repository
import MarketScanner.Universe.SymbolMaster

/-! The daily run of the feature engine: stored prices in, rows of the feature store out. -/
namespace MarketScanner.Features
open MarketScanner.Library MarketScanner.Python MarketScanner.Config MarketScanner.Market
open MarketScanner.Universe

/-- `_INTEGER_COLUMNS` and `_BIGINT_COLUMNS`. -/
def integerColumns : List Column := [.baseLengthDays,.volumeMa20]

/-- `int(x)`. -/
def truncate (q : ℚ) : ℤ := if q < 0 then -((-q).floor) else q.floor

/-- `_clean_value`. Flags stand in the boolean columns and texts in the string columns; no infinity
is left in a cleaned frame. -/
def cleanValue (c : Column) : Cell → FieldValue
  | .na | .num .nan | .num (.inf _) => .null
  | .flag b => .bool b
  | .text s => .text s
  | .int n => if c ∈ integerColumns then .int n else .decimal (n*1000000)
  | .num (.finite q) =>
    if c ∈ integerColumns then .int (truncate q)
    else .decimal (PyFloat.roundHalfEven (q*1000000))

/-- `_row_to_values` of a row of a frame. -/
def rowToValues (f : Frame) (i : ℕ) : List (Column × FieldValue) :=
  f.map fun c => (c.1,cleanValue c.1 (c.2.getD i .na))

structure FeatureRunResult where
  symbolsProcessed : ℕ := 0
  symbolsUpdated : ℕ := 0
  rowsWritten : ℕ := 0
  errors : List String := []
  deriving DecidableEq

/-- The exceptions that the work on a symbol runs into by itself, as their texts: at its first query,
or once it computes and writes rows. -/
structure Faults where
  read : ℕ → Option String
  write : ℕ → Option String

def Faults.none : Faults := ⟨fun _ => Option.none,fun _ => Option.none⟩

/-- The orders in which the scans of one run deliver rows. -/
structure Scans where
  symbols : ScanOrder (Row SymbolRow)
  prices : ScanOrder (Row DailyPrice)
  features : ScanOrder (Row DailyFeature)

def Scans.insertion : Scans :=
  ⟨ScanOrder.insertion _,ScanOrder.insertion _,ScanOrder.insertion _⟩

/-- `latest_feature_date is not None and latest_feature_date >= latest_price.date`. -/
def upToDate (latestFeatureDate : Option Date) (latestPriceDate : Date) : Bool :=
  latestFeatureDate.any fun d => decide (latestPriceDate ≤ d)

/-- The rows of the calculators dated after the cutoff, all of them where there is none. -/
def newRows [FloatMath] (history : List DailyPrice) (benchmark : Option (List DailyPrice))
    (latestFeatureDate : Option Date) : List (Date × List (Column × FieldValue)) :=
  (history.zipIdx.filter fun p => !upToDate latestFeatureDate p.1.date).map fun p =>
    (p.1.date,rowToValues (calculate history benchmark) p.2)

def writeRows (t : DailyFeatures) (symbolId : ℕ) (rows : List (Date × List (Column × FieldValue))) :
    DailyFeatures :=
  rows.foldl (fun t row => DailyFeatureRepository.upsert t symbolId row.1 row.2) t

namespace FeatureEngine
variable (settings : Settings) (scans : Scans) (faults : Faults)
variable (symbols : SymbolTable) (prices : DailyPrices)

/-- The stored bars that the calculators are given. -/
def lookback (symbolId : ℕ) : List DailyPrice :=
  (PriceRepository.getDailyHistory scans.prices prices symbolId
    settings.featureDailyLookbackBars).map Row.val

/-- `_load_benchmark`. -/
def loadBenchmark : Except PyException (Option (List DailyPrice)) :=
  match SymbolRepository.getBySymbol symbols settings.featureRsBenchmarkSymbol with
  | .error e => .error e
  | .ok none => .ok none
  | .ok (some row) =>
    let history := lookback settings scans prices row.id
    .ok (if history = [] then none else some history)

/-- `_run_daily_for_symbol`: the feature store after the commit and the rows written. A run that
raises leaves the store as it was. -/
def runDailyForSymbol [FloatMath] (benchmark : Option (List DailyPrice)) (t : DailyFeatures)
    (symbolId : ℕ) : Except String (DailyFeatures × ℕ) :=
  match faults.read symbolId with
  | some text => .error text
  | none =>
    match PriceRepository.getLatestDaily scans.prices prices symbolId with
    | none => .ok (t,0)
    | some latestPrice =>
      let latestFeatureDate := DailyFeatureRepository.getLatestDate scans.features t symbolId
      if upToDate latestFeatureDate latestPrice.val.date then .ok (t,0)
      else
        let history := lookback settings scans prices symbolId
        if history.length < 2 then .ok (t,0)
        else match faults.write symbolId with
          | some text => .error text
          | none =>
            let rows := newRows history benchmark latestFeatureDate
            .ok (writeRows t symbolId rows,rows.length)

/-- One turn of the loop over symbols: a failure is recorded and the loop goes on. -/
def processSymbol [FloatMath] (benchmark : Option (List DailyPrice))
    (state : DailyFeatures × FeatureRunResult) (symbol : Row SymbolRow) :
    DailyFeatures × FeatureRunResult :=
  match runDailyForSymbol settings scans faults prices benchmark state.1 symbol.id with
  | .ok done =>
    (done.1,if done.2 = 0 then state.2 else
      { state.2 with
        symbolsUpdated := state.2.symbolsUpdated+1
        rowsWritten := state.2.rowsWritten+done.2 })
  | .error text =>
    (state.1,{ state.2 with errors := state.2.errors ++ [symbol.val.symbol ++ ": " ++ text] })

/-- The symbols that the bulk queries find out of date. -/
def toProcess (t : DailyFeatures) : List (Row SymbolRow) :=
  let active := SymbolRepository.listActive scans.symbols symbols
  let symbolIds := active.map Row.id
  let latestPrices := PriceRepository.getLatestDailyBulk scans.prices prices symbolIds
  let latestFeatures := DailyFeatureRepository.getLatestBulk scans.features t symbolIds
  active.filter fun symbol =>
    match latestPrices.get? symbol.id with
    | none => false
    | some latestPrice =>
      !upToDate ((latestFeatures.get? symbol.id).map fun r => r.val.date) latestPrice.val.date

/-- `run_daily`. Loading the benchmark is not guarded: there it raises. -/
def runDaily [FloatMath] (t : DailyFeatures) :
    Except PyException (DailyFeatures × FeatureRunResult) :=
  match loadBenchmark settings scans symbols prices with
  | .error e => .error e
  | .ok benchmark =>
    .ok ((toProcess scans symbols prices t).foldl
      (processSymbol settings scans faults prices benchmark)
      (t,{ symbolsProcessed := (SymbolRepository.listActive scans.symbols symbols).length }))

variable {settings scans faults symbols prices}

theorem lookback_eq (symbolId : ℕ) :
    lookback settings scans prices symbolId = (prices.history symbolId).drop
      ((prices.history symbolId).length-settings.featureDailyLookbackBars) :=
  PriceRepository.map_getDailyHistory scans.prices prices symbolId _

theorem lookback_pairwise (symbolId : ℕ) :
    (lookback settings scans prices symbolId).Pairwise fun a b => a.date < b.date := by
  rw [lookback_eq]
  exact (Stamped.history_pairwise prices symbolId).sublist (List.drop_sublist _ _)

/-- The latest bar of a symbol, if any, has its row of features. -/
def Settled (prices : DailyPrices) (t : DailyFeatures) (symbolId : ℕ) : Prop :=
  ∀ latestPrice ∈ (prices.history symbolId).getLast?,
    upToDate ((t.history symbolId).getLast?.map DailyFeature.date) latestPrice.date = true

theorem settled_congr {t t' : DailyFeatures} {k : ℕ} (h : t'.history k = t.history k) :
    Settled prices t' k ↔ Settled prices t k := by
  unfold Settled
  rw [h]

/-- The bulk queries find every active symbol out of date that is. -/
theorem mem_toProcess {t : DailyFeatures} {symbol : Row SymbolRow} :
    symbol ∈ toProcess scans symbols prices t ↔
      (symbol ∈ symbols.rows ∧ symbol.val.isActive = true) ∧ ¬Settled prices t symbol.id := by
  unfold toProcess
  rw [List.mem_filter, SymbolRepository.mem_listActive]
  apply and_congr_right
  intro hactive
  have hid : symbol.id ∈ (SymbolRepository.listActive scans.symbols symbols).map Row.id :=
    List.mem_map_of_mem (SymbolRepository.mem_listActive.mpr hactive)
  have hfeature := DailyFeatureRepository.getLatestDate_eq scans.features t symbol.id
  have hprice := PriceRepository.map_getLatestDaily scans.prices prices symbol.id
  rw [PriceRepository.get?_getLatestDailyBulk scans.prices scans.prices prices hid,
    DailyFeatureRepository.get?_getLatestBulk scans.features scans.features t hid]
  unfold Settled
  rw [← hprice, ← hfeature]
  cases PriceRepository.getLatestDaily scans.prices prices symbol.id with
  | none => simp
  | some price => simp [DailyFeatureRepository.getLatestDate]

/-- What a run of one symbol that does not raise can do. -/
theorem runDailyForSymbol_cases [FloatMath] {benchmark : Option (List DailyPrice)}
    {t : DailyFeatures} {symbolId : ℕ} {done : DailyFeatures × ℕ}
    (h : runDailyForSymbol settings scans faults prices benchmark t symbolId = .ok done) :
    (done = (t,0) ∧ (Settled prices t symbolId ∨
      (lookback settings scans prices symbolId).length < 2)) ∨
    (done = (writeRows t symbolId (newRows (lookback settings scans prices symbolId) benchmark
          ((t.history symbolId).getLast?.map DailyFeature.date)),
        (newRows (lookback settings scans prices symbolId) benchmark
          ((t.history symbolId).getLast?.map DailyFeature.date)).length) ∧
      2 ≤ (lookback settings scans prices symbolId).length ∧ ¬Settled prices t symbolId) := by
  have hlatest := PriceRepository.map_getLatestDaily scans.prices prices symbolId
  have hdates := DailyFeatureRepository.getLatestDate_eq scans.features t symbolId
  unfold runDailyForSymbol at h
  split at h
  · cases h
  · split at h
    · rename_i hnone
      rw [hnone] at hlatest
      left
      refine ⟨(Except.ok.inj h).symm,Or.inl fun price hprice => ?_⟩
      rw [← hlatest] at hprice
      cases hprice
    · rename_i price hsome
      rw [hsome] at hlatest
      have hsettled : Settled prices t symbolId ↔
          upToDate ((t.history symbolId).getLast?.map DailyFeature.date) price.val.date = true := by
        unfold Settled
        rw [← hlatest]
        simp
      dsimp only at h
      rw [hdates] at h
      by_cases hdate : Settled prices t symbolId
      · rw [if_pos (hsettled.mp hdate)] at h
        left
        exact ⟨(Except.ok.inj h).symm,Or.inl hdate⟩
      · rw [if_neg (fun hup => hdate (hsettled.mpr hup))] at h
        by_cases hshort : (lookback settings scans prices symbolId).length < 2
        · rw [if_pos hshort] at h
          left
          exact ⟨(Except.ok.inj h).symm,Or.inr hshort⟩
        · rw [if_neg hshort] at h
          split at h
          · cases h
          · right
            exact ⟨(Except.ok.inj h).symm,by omega,hdate⟩

end FeatureEngine

theorem upToDate_eq_false {latest : Option Date} {d : Date} :
    upToDate latest d = false ↔ ∀ l ∈ latest, l < d := by
  cases latest with
  | none => simp [upToDate]
  | some l => simp [upToDate, Date.le_iff, Date.lt_iff]

@[simp] theorem upToDate_none (d : Date) : upToDate none d = false := rfl

/-- Rows with ever later dates, all after what is stored, are added at the end. -/
theorem history_writeRows (t : DailyFeatures) (symbolId : ℕ)
    (rows : List (Date × List (Column × FieldValue)))
    (hsorted : rows.Pairwise fun a b => a.1 < b.1)
    (hnewer : ∀ f ∈ t.history symbolId, ∀ row ∈ rows, f.date < row.1) :
    (writeRows t symbolId rows).history symbolId = t.history symbolId ++
      rows.map fun row => (DailyFeature.new symbolId row.1).assign row.2 := by
  induction rows generalizing t with
  | nil => simp [writeRows]
  | cons row rows ih =>
    obtain ⟨hfirst,hrest⟩ := List.pairwise_cons.mp hsorted
    have hput := DailyFeatureRepository.history_upsert_newer t row.2
      (fun f hf => hnewer f hf row List.mem_cons_self)
    rw [writeRows, List.foldl_cons, ← writeRows, ih _ hrest, hput, List.append_assoc]
    · rfl
    · intro f hf row' hrow'
      rw [hput] at hf
      rcases List.mem_append.mp hf with hold | hlast
      · exact hnewer f hold row' (List.mem_cons_of_mem _ hrow')
      · rw [List.mem_singleton.mp hlast]
        exact hfirst row' hrow'

theorem history_writeRows_of_ne (t : DailyFeatures) {symbolId k : ℕ}
    (rows : List (Date × List (Column × FieldValue))) (hk : k ≠ symbolId) :
    (writeRows t symbolId rows).history k = t.history k := by
  induction rows generalizing t with
  | nil => rfl
  | cons row rows ih =>
    rw [writeRows, List.foldl_cons, ← writeRows, ih]
    exact DailyFeatureRepository.history_upsert_of_ne t row.1 row.2 hk

theorem pairwise_newRows [FloatMath] {history : List DailyPrice}
    (h : history.Pairwise fun a b => a.date < b.date) (benchmark : Option (List DailyPrice))
    (latest : Option Date) :
    (newRows history benchmark latest).Pairwise fun a b => a.1 < b.1 := by
  unfold newRows
  have hdates : (history.zipIdx.map fun p => p.1).Pairwise fun a b => a.date < b.date := by
    rw [List.zipIdx_map_fst]
    exact h
  rw [List.pairwise_map] at hdates ⊢
  exact hdates.filter _

/-- New rows are dated after the latest that is stored. -/
theorem newRows_newer [FloatMath] (history : List DailyPrice)
    (benchmark : Option (List DailyPrice)) (t : DailyFeatures) (symbolId : ℕ) :
    ∀ f ∈ t.history symbolId, ∀ row ∈ newRows history benchmark
      ((t.history symbolId).getLast?.map DailyFeature.date), f.date < row.1 := by
  intro f hf row hrow
  obtain ⟨p,hp,rfl⟩ := List.mem_map.mp hrow
  have hdate : upToDate ((t.history symbolId).getLast?.map DailyFeature.date) p.1.date = false := by
    simpa using (List.mem_filter.mp hp).2
  obtain ⟨last,hlast⟩ : ∃ last, (t.history symbolId).getLast? = some last :=
    ⟨_,List.getLast?_eq_some_getLast (List.ne_nil_of_mem hf)⟩
  have hbefore : last.date < p.1.date :=
    upToDate_eq_false.mp hdate last.date (by rw [hlast]; rfl)
  exact Int.lt_of_le_of_lt (Stamped.stamp_le_getLast (Stamped.history_pairwise t symbolId) hlast hf)
    hbefore

namespace FeatureEngine
variable [FloatMath] {settings : Settings} {scans : Scans} {faults : Faults}
variable {symbols : SymbolTable} {prices : DailyPrices} {benchmark : Option (List DailyPrice)}

/-- The rows that a run adds for a symbol. -/
def addedRows (settings : Settings) (scans : Scans) (prices : DailyPrices)
    (benchmark : Option (List DailyPrice)) (t : DailyFeatures) (symbolId : ℕ) :
    List DailyFeature :=
  (newRows (lookback settings scans prices symbolId) benchmark
    ((t.history symbolId).getLast?.map DailyFeature.date)).map fun row =>
      (DailyFeature.new symbolId row.1).assign row.2

/-- A run of one symbol that does not raise leaves its rows alone, or adds the missing ones. -/
theorem history_runDailyForSymbol {t : DailyFeatures} {symbolId : ℕ} {done : DailyFeatures × ℕ}
    (h : runDailyForSymbol settings scans faults prices benchmark t symbolId = .ok done) :
    (done.1.history symbolId = t.history symbolId ∧ (Settled prices t symbolId ∨
      (lookback settings scans prices symbolId).length < 2)) ∨
    (done.1.history symbolId = t.history symbolId ++
        addedRows settings scans prices benchmark t symbolId ∧
      2 ≤ (lookback settings scans prices symbolId).length ∧ ¬Settled prices t symbolId) := by
  obtain ⟨rfl,hkept⟩ | ⟨rfl,hadded⟩ := runDailyForSymbol_cases h
  · exact Or.inl ⟨rfl,hkept⟩
  · refine Or.inr ⟨?_,hadded⟩
    exact history_writeRows t symbolId _ (pairwise_newRows (lookback_pairwise symbolId) _ _)
      (newRows_newer _ _ _ _)

theorem history_runDailyForSymbol_of_ne {t : DailyFeatures} {symbolId k : ℕ}
    {done : DailyFeatures × ℕ}
    (h : runDailyForSymbol settings scans faults prices benchmark t symbolId = .ok done)
    (hk : k ≠ symbolId) : done.1.history k = t.history k := by
  obtain ⟨rfl,-⟩ | ⟨rfl,-⟩ := runDailyForSymbol_cases h
  · rfl
  · exact history_writeRows_of_ne t _ hk

/-- One turn of the loop concerns one symbol. -/
theorem history_processSymbol_of_ne {state : DailyFeatures × FeatureRunResult}
    {symbol : Row SymbolRow} {k : ℕ} (hk : k ≠ symbol.id) :
    (processSymbol settings scans faults prices benchmark state symbol).1.history k =
      state.1.history k := by
  unfold processSymbol
  split
  · rename_i done hdone
    exact history_runDailyForSymbol_of_ne hdone hk
  · rfl

theorem history_foldl_of_ne {state : DailyFeatures × FeatureRunResult} {l : List (Row SymbolRow)}
    {k : ℕ} (hk : ∀ symbol ∈ l, k ≠ symbol.id) :
    (l.foldl (processSymbol settings scans faults prices benchmark) state).1.history k =
      state.1.history k := by
  induction l generalizing state with
  | nil => rfl
  | cons symbol l ih =>
    rw [List.foldl_cons, ih fun s hs => hk s (List.mem_cons_of_mem _ hs)]
    exact history_processSymbol_of_ne (hk symbol List.mem_cons_self)

variable (settings scans faults prices benchmark) in
/-- A failure is recorded for good. -/
theorem errors_foldl (state : DailyFeatures × FeatureRunResult) (l : List (Row SymbolRow)) :
    ∃ more, (l.foldl (processSymbol settings scans faults prices benchmark) state).2.errors =
      state.2.errors ++ more := by
  induction l generalizing state with
  | nil => exact ⟨[],(List.append_nil _).symm⟩
  | cons symbol l ih =>
    rw [List.foldl_cons]
    obtain ⟨more,hmore⟩ := ih (processSymbol settings scans faults prices benchmark state symbol)
    rw [hmore]
    unfold processSymbol
    split
    · split
      · exact ⟨more,rfl⟩
      · exact ⟨more,rfl⟩
    · rename_i text htext
      exact ⟨(symbol.val.symbol ++ ": " ++ text)::more,by rw [List.append_assoc]; rfl⟩

theorem processSymbol_of_no_error {state : DailyFeatures × FeatureRunResult}
    {symbol : Row SymbolRow}
    (h : (processSymbol settings scans faults prices benchmark state symbol).2.errors = []) :
    ∃ done, runDailyForSymbol settings scans faults prices benchmark state.1 symbol.id = .ok done ∧
      (processSymbol settings scans faults prices benchmark state symbol).1 = done.1 := by
  unfold processSymbol at h ⊢
  cases hrun : runDailyForSymbol settings scans faults prices benchmark state.1 symbol.id with
  | ok done => exact ⟨done,rfl,rfl⟩
  | error text =>
    rw [hrun] at h
    simp at h

omit [FloatMath] in
variable (scans symbols prices) in
theorem nodup_toProcess (t : DailyFeatures) :
    (toProcess scans symbols prices t).Pairwise fun a b => a.id ≠ b.id := by
  have hrows : (symbols.rows.filter fun r => r.val.isActive).Pairwise fun a b => a.id ≠ b.id :=
    (symbols.ordered.imp fun h => Nat.ne_of_lt h).filter _
  apply List.Pairwise.filter
  exact hrows.perm (orderBy_perm scans.symbols SymbolRepository.BySymbol _).symm
    fun h => Ne.symm h

/-- Without faults no symbol fails. -/
theorem runDailyForSymbol_none (t : DailyFeatures) (symbolId : ℕ) :
    ∃ done, runDailyForSymbol settings scans .none prices benchmark t symbolId = .ok done := by
  unfold runDailyForSymbol
  simp only [Faults.none]
  split
  · exact ⟨_,rfl⟩
  · split
    · exact ⟨_,rfl⟩
    · split
      · exact ⟨_,rfl⟩
      · exact ⟨_,rfl⟩

theorem errors_runDaily_none {t : DailyFeatures} {done : DailyFeatures × FeatureRunResult}
    (h : runDaily settings scans .none symbols prices t = .ok done) : done.2.errors = [] := by
  unfold runDaily at h
  split at h
  · cases h
  · rename_i benchmark hload
    obtain rfl := Except.ok.inj h
    let clear (state : DailyFeatures × FeatureRunResult) : Prop := state.2.errors = []
    refine List.foldlRecOn (motive := clear) _ _ rfl ?_
    intro state hstate symbol hsymbol
    unfold processSymbol
    split
    · split
      · exact hstate
      · exact hstate
    · rename_i text herror
      obtain ⟨done,hdone⟩ := runDailyForSymbol_none state.1 symbol.id
      cases herror.symm.trans hdone

/-- The one turn of a run that concerns an active symbol out of date: the symbol's rows are as they
were before it, and as they will be after it. -/
theorem runDaily_turn {t : DailyFeatures} {done : DailyFeatures × FeatureRunResult}
    (hload : loadBenchmark settings scans symbols prices = .ok benchmark)
    (h : runDaily settings scans faults symbols prices t = .ok done) {symbol : Row SymbolRow}
    (hmem : symbol ∈ toProcess scans symbols prices t) :
    ∃ before, before.1.history symbol.id = t.history symbol.id ∧
      done.1.history symbol.id =
        (processSymbol settings scans faults prices benchmark before symbol).1.history symbol.id ∧
      ∃ more, done.2.errors =
        (processSymbol settings scans faults prices benchmark before symbol).2.errors ++ more := by
  obtain ⟨pre,post,hsplit⟩ := List.append_of_mem hmem
  have hdistinct := nodup_toProcess scans symbols prices t
  rw [hsplit, List.pairwise_append, List.pairwise_cons] at hdistinct
  obtain ⟨-,⟨hpost,-⟩,hpre⟩ := hdistinct
  unfold runDaily at h
  rw [hload] at h
  obtain rfl := Except.ok.inj h
  rw [hsplit, List.foldl_append, List.foldl_cons]
  refine ⟨_,?_,history_foldl_of_ne hpost,errors_foldl settings scans faults prices benchmark _ post⟩
  exact history_foldl_of_ne fun s hs => (hpre s hs symbol List.mem_cons_self).symm

/-- Whatever fails, a run leaves the rows of a symbol alone or adds the missing ones. -/
theorem history_runDaily {t : DailyFeatures} {done : DailyFeatures × FeatureRunResult}
    (hload : loadBenchmark settings scans symbols prices = .ok benchmark)
    (h : runDaily settings scans faults symbols prices t = .ok done) (k : ℕ) :
    done.1.history k = t.history k ∨
      (done.1.history k = t.history k ++ addedRows settings scans prices benchmark t k ∧
        2 ≤ (lookback settings scans prices k).length ∧ ¬Settled prices t k ∧
        ∃ symbol ∈ symbols.rows, symbol.val.isActive = true ∧ symbol.id = k) := by
  by_cases hturn : ∃ symbol ∈ toProcess scans symbols prices t, symbol.id = k
  · obtain ⟨symbol,hmem,rfl⟩ := hturn
    obtain ⟨before,hbefore,hafter,-⟩ := runDaily_turn hload h hmem
    rw [hafter]
    unfold processSymbol
    split
    · rename_i done hdone
      obtain ⟨hsame,-⟩ | ⟨hadded,hlong,hopen⟩ := history_runDailyForSymbol hdone
      · exact Or.inl (hsame.trans hbefore)
      · obtain ⟨⟨hrow,hactive⟩,-⟩ := mem_toProcess.mp hmem
        refine Or.inr ⟨?_,hlong,fun hsettled => hopen ((settled_congr hbefore).mpr hsettled),
          symbol,hrow,hactive,rfl⟩
        rw [hadded, hbefore]
        unfold addedRows
        rw [hbefore]
    · exact Or.inl hbefore
  · left
    unfold runDaily at h
    rw [hload] at h
    obtain rfl := Except.ok.inj h
    exact history_foldl_of_ne fun symbol hmem hk => hturn ⟨symbol,hmem,hk.symm⟩

theorem loadBenchmark_of_runDaily {t : DailyFeatures} {done : DailyFeatures × FeatureRunResult}
    (h : runDaily settings scans faults symbols prices t = .ok done) :
    ∃ benchmark, loadBenchmark settings scans symbols prices = .ok benchmark := by
  unfold runDaily at h
  split at h
  · cases h
  · rename_i benchmark hload
    exact ⟨benchmark,hload⟩

/-- A run leaves the rows of a symbol alone that is inactive, has its features, or lacks bars. -/
theorem history_runDaily_of_kept {t : DailyFeatures} {done : DailyFeatures × FeatureRunResult}
    (h : runDaily settings scans faults symbols prices t = .ok done) {k : ℕ}
    (hkept : ∀ symbol ∈ symbols.rows, symbol.val.isActive = true → symbol.id = k →
      Settled prices t k ∨ (lookback settings scans prices k).length < 2) :
    done.1.history k = t.history k := by
  obtain ⟨benchmark,hload⟩ := loadBenchmark_of_runDaily h
  obtain hsame | ⟨-,hlong,hopen,symbol,hrow,hactive,hid⟩ := history_runDaily hload h k
  · exact hsame
  · obtain hsettled | hshort := hkept symbol hrow hactive hid
    · exact absurd hsettled hopen
    · omega

/-- A run without errors brings an active symbol with bars enough up to date. -/
theorem history_runDaily_of_open {t : DailyFeatures} {done : DailyFeatures × FeatureRunResult}
    (hload : loadBenchmark settings scans symbols prices = .ok benchmark)
    (h : runDaily settings scans faults symbols prices t = .ok done) (herr : done.2.errors = [])
    {symbol : Row SymbolRow} (hrow : symbol ∈ symbols.rows) (hactive : symbol.val.isActive = true)
    (hopen : ¬Settled prices t symbol.id)
    (hlong : 2 ≤ (lookback settings scans prices symbol.id).length) :
    done.1.history symbol.id = t.history symbol.id ++
      addedRows settings scans prices benchmark t symbol.id := by
  have hmem : symbol ∈ toProcess scans symbols prices t := mem_toProcess.mpr ⟨⟨hrow,hactive⟩,hopen⟩
  obtain ⟨before,hbefore,hafter,more,hmore⟩ := runDaily_turn hload h hmem
  rw [hmore] at herr
  obtain ⟨done,hdone,hstate⟩ := processSymbol_of_no_error (List.append_eq_nil_iff.mp herr).1
  rw [hafter, hstate]
  obtain ⟨-,hclosed | hshort⟩ | ⟨hadded,-⟩ := history_runDailyForSymbol hdone
  · exact absurd ((settled_congr hbefore).mp hclosed) hopen
  · omega
  · rw [hadded, hbefore]
    unfold addedRows
    rw [hbefore]

end FeatureEngine
end MarketScanner.Features
