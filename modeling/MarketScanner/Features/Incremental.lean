import MarketScanner.Features.StoredRow

/-! Market data arrives in batches, each followed by a daily run, against the same data in one
batch. -/
namespace MarketScanner.Features
open MarketScanner.Library MarketScanner.Python MarketScanner.Config MarketScanner.Market
open MarketScanner.Universe

structure Stores where
  prices : DailyPrices
  features : DailyFeatures

/-- Candles with the symbol each is for, in the order of their arrival. -/
abbrev Arrivals := List (ℕ × Candle)

/-- The bars of a symbol among the arrivals. -/
def barsOf (settings : Settings) (symbolId : ℕ) (arrivals : Arrivals) : List DailyPrice :=
  (arrivals.filter fun c => c.1 == symbolId).map fun c => barOf settings c.1 c.2

/-- Batches in which every symbol's bars come in the order of their dates, no more than the engine
looks back. -/
structure Feed (settings : Settings) where
  batches : List Arrivals
  chronological : ∀ k, (barsOf settings k batches.flatten).Pairwise fun a b => a.date < b.date
  fits : ∀ k, (barsOf settings k batches.flatten).length ≤ settings.featureDailyLookbackBars

section Feeds
variable [FloatMath] (settings : Settings) (scans : Scans) (symbols : SymbolTable)

def ingest (t : DailyPrices) (batch : Arrivals) : DailyPrices :=
  batch.foldl (fun t c => PriceRepository.upsertDaily settings t c.1 c.2) t

/-- One batch and the daily run after it. -/
def afterBatch (s : Stores) (batch : Arrivals) : Stores :=
  let prices := ingest settings s.prices batch
  match FeatureEngine.runDaily settings scans .none symbols prices s.features with
  | .ok done => ⟨prices,done.1⟩
  | .error _ => ⟨prices,s.features⟩

def runBatches (batches : List Arrivals) : Stores :=
  batches.foldl (afterBatch settings scans symbols) ⟨Stamped.empty,Stamped.empty⟩

/-- The bars of the benchmark among the arrivals. -/
def benchmarkBars (arrivals : Arrivals) : List DailyPrice :=
  match SymbolRepository.getBySymbol symbols settings.featureRsBenchmarkSymbol with
  | .ok (some row) => barsOf settings row.id arrivals
  | _ => []

/-- The daily runs compute features for the symbol. -/
def Served (symbolId : ℕ) : Prop :=
  (∃ symbol ∈ symbols.rows, symbol.val.isActive = true ∧ symbol.id = symbolId) ∧
    ∃ row, SymbolRepository.getBySymbol symbols settings.featureRsBenchmarkSymbol = .ok row

/-- The run after `batch` is the first to write the symbol's row `i`. -/
def Writes (symbolId : ℕ) (pre : List Arrivals) (batch : Arrivals) (i : ℕ) : Prop :=
  let before := (barsOf settings symbolId pre.flatten).length
  let now := (barsOf settings symbolId (pre ++ [batch]).flatten).length
  (2 ≤ now ∧ i < now) ∧ ¬(2 ≤ before ∧ i < before)

/-- At a bar, the bars there now tell the same last swing points as all of them, and the benchmark's
bar of the date is there if the relative strength is to be measured against it. -/
def Known (symbolId : ℕ) (now all : Arrivals) (i : ℕ) : Prop :=
  lastSwingHigh (barsOf settings symbolId now) i = lastSwingHigh (barsOf settings symbolId all) i ∧
    lastSwingLow (barsOf settings symbolId now) i = lastSwingLow (barsOf settings symbolId all) i ∧
    ∀ p ∈ (barsOf settings symbolId all)[i]?,
      finite? (symbolReturn (barsOf settings symbolId all) i) = none ∨
        finite? (benchmarkReturn (benchmarkBars settings symbols all) p.date) = none ∨
        p.date ∈ (benchmarkBars settings symbols now).map DailyPrice.date

end Feeds

variable {settings : Settings}

theorem barsOf_append (k : ℕ) (a b : Arrivals) :
    barsOf settings k (a ++ b) = barsOf settings k a ++ barsOf settings k b := by
  simp [barsOf]

/-- What arrives in the order of its dates is stored after what is there. -/
theorem history_ingest (t : DailyPrices) (batch : Arrivals) (k : ℕ)
    (h : (t.history k ++ barsOf settings k batch).Pairwise fun a b => a.date < b.date) :
    (ingest settings t batch).history k = t.history k ++ barsOf settings k batch := by
  induction batch generalizing t with
  | nil => simp [ingest, barsOf]
  | cons c batch ih =>
    rw [ingest, List.foldl_cons, ← ingest]
    by_cases hk : c.1 = k
    · have hbars : barsOf settings k (c::batch) =
          barOf settings c.1 c.2::barsOf settings k batch := by simp [barsOf, hk]
      rw [hbars] at h ⊢
      have hput : (PriceRepository.upsertDaily settings t c.1 c.2).history k =
          t.history k ++ [barOf settings c.1 c.2] := by
        subst hk
        apply Stamped.history_put_newer t (v := barOf settings c.1 c.2)
        intro p hp
        rw [List.pairwise_append] at h
        exact h.2.2 p hp _ List.mem_cons_self
      rw [ih _ (by rw [hput, List.append_assoc]; exact h), hput, List.append_assoc]
      rfl
    · have hbars : barsOf settings k (c::batch) = barsOf settings k batch := by simp [barsOf, hk]
      rw [hbars] at h ⊢
      have hput : (PriceRepository.upsertDaily settings t c.1 c.2).history k = t.history k :=
        Stamped.history_put_of_ne t (v := barOf settings c.1 c.2) (Ne.symm hk)
      rw [ih _ (by rw [hput]; exact h), hput]

/-- `None` for an empty history. -/
def nonempty (bars : List DailyPrice) : Option (List DailyPrice) :=
  if bars = [] then none else some bars

theorem returnOn_nonempty (bars : List DailyPrice) (d : Date) :
    returnOn (nonempty bars) d = benchmarkReturn bars d := by
  unfold nonempty
  split
  · rename_i hnil
    rw [hnil]
    rfl
  · rfl

/-- A benchmark bar that is not there yet is the only one whose return is not known. -/
theorem benchmarkReturn_append (now rest : List DailyPrice) (d : Date) :
    benchmarkReturn now d =
      if d ∈ now.map DailyPrice.date then benchmarkReturn (now ++ rest) d else .nan := by
  have htake : (now ++ rest).take now.length = now := List.take_left
  have hkeys : ∀ bars : List DailyPrice, (List.zip (bars.map DailyPrice.date)
      (Series.scale 100 (Series.pctChange 20 (closes bars)))).map Prod.fst =
        bars.map DailyPrice.date := by
    intro bars
    apply List.map_fst_zip
    simp [length_pctChange, closes]
  have hzip : List.zip (now.map DailyPrice.date)
      (Series.scale 100 (Series.pctChange 20 (closes now))) =
        (List.zip ((now ++ rest).map DailyPrice.date)
          (Series.scale 100 (Series.pctChange 20 (closes (now ++ rest))))).take now.length := by
    conv_lhs => rw [← htake]
    simp only [closes_take, pctChange_take, List.map_take, Indicators.zip_take]
  unfold benchmarkReturn
  split
  · rename_i hknown
    have hsome : ((List.zip (now.map DailyPrice.date)
        (Series.scale 100 (Series.pctChange 20 (closes now)))).lookup d).isSome = true := by
      rw [← hkeys now] at hknown
      obtain ⟨p,hp,rfl⟩ := List.mem_map.mp hknown
      exact List.lookup_isSome_iff.mpr ⟨p,hp,beq_self_eq_true p.1⟩
    obtain ⟨x,hx⟩ := Option.isSome_iff_exists.mp hsome
    rw [hx]
    rw [hzip] at hx
    rw [← List.take_append_drop now.length (List.zip ((now ++ rest).map DailyPrice.date) _),
      List.lookup_append, hx]
    rfl
  · rename_i hmissing
    have hnone : (List.zip (now.map DailyPrice.date)
        (Series.scale 100 (Series.pctChange 20 (closes now)))).lookup d = none := by
      rw [List.lookup_eq_none_iff]
      intro p hp
      have hmem : p.1 ∈ now.map DailyPrice.date := by
        rw [← hkeys now]
        exact List.mem_map_of_mem hp
      simpa using fun heq : d = p.1 => hmissing (heq ▸ hmem)
    rw [hnone]
    rfl

section Rows
variable {bars : List DailyPrice} {w : ℕ}

theorem upToDate_of_mem_take (h : bars.Pairwise fun a b => a.date < b.date) {p : DailyPrice}
    (hp : p ∈ bars.take w) :
    upToDate ((bars.take w).getLast?.map DailyPrice.date) p.date = true := by
  have hlast : (bars.take w).getLast? = some ((bars.take w).getLast (List.ne_nil_of_mem hp)) :=
    List.getLast?_eq_some_getLast _
  rw [hlast]
  have hsorted : (bars.take w).Pairwise fun a b => a.date.day < b.date.day :=
    h.sublist (List.take_sublist w bars)
  exact decide_eq_true (Stamped.stamp_le_getLast hsorted hlast hp)

theorem upToDate_of_mem_drop (h : bars.Pairwise fun a b => a.date < b.date) {p : DailyPrice}
    (hp : p ∈ bars.drop w) :
    upToDate ((bars.take w).getLast?.map DailyPrice.date) p.date = false := by
  rw [upToDate_eq_false]
  intro l hl
  obtain ⟨last,hlast,rfl⟩ := Option.mem_map.mp hl
  rw [← List.take_append_drop w bars, List.pairwise_append] at h
  exact h.2.2 last (List.mem_of_getLast? hlast) p hp

/-- Once rows are stored for the first `w` bars, the others are the new ones. -/
theorem newRows_eq_drop [FloatMath] (h : bars.Pairwise fun a b => a.date < b.date)
    (benchmark : Option (List DailyPrice)) :
    newRows bars benchmark ((bars.take w).getLast?.map DailyPrice.date) =
      (bars.zipIdx.drop w).map fun p => (p.1.date,rowToValues (calculate bars benchmark) p.2) := by
  have hfst : ∀ l : List (DailyPrice × ℕ), ∀ p ∈ l, p.1 ∈ l.map Prod.fst := fun l p hp =>
    List.mem_map_of_mem hp
  have htake : (bars.zipIdx.take w).filter (fun p =>
      !upToDate ((bars.take w).getLast?.map DailyPrice.date) p.1.date) = [] := by
    rw [List.filter_eq_nil_iff]
    intro p hp
    have hmem := hfst _ p hp
    rw [List.map_take, List.zipIdx_map_fst] at hmem
    simp [upToDate_of_mem_take h hmem]
  have hdrop : (bars.zipIdx.drop w).filter (fun p =>
      !upToDate ((bars.take w).getLast?.map DailyPrice.date) p.1.date) = bars.zipIdx.drop w := by
    rw [List.filter_eq_self]
    intro p hp
    have hmem := hfst _ p hp
    rw [List.map_drop, List.zipIdx_map_fst] at hmem
    simp [upToDate_of_mem_drop h hmem]
  unfold newRows
  rw [← List.take_append_drop w bars.zipIdx, List.filter_append, htake, hdrop, List.nil_append,
    List.take_append_drop]

/-- Where the stored rows reach the last bar, none is left to write. -/
theorem zipIdx_drop_of_upToDate (h : bars.Pairwise fun a b => a.date < b.date)
    (hlast : ∀ last ∈ bars.getLast?,
      upToDate ((bars.take w).getLast?.map DailyPrice.date) last.date = true) :
    bars.zipIdx.drop w = [] := by
  have hdrop : bars.drop w = [] := by
    by_contra hne
    have hlastbar := List.getLast?_eq_some_getLast hne
    have hwhole := hlast _ (by
      rw [← List.take_append_drop w bars, List.getLast?_append, hlastbar]
      rfl)
    rw [upToDate_of_mem_drop h (List.getLast_mem hne)] at hwhole
    cases hwhole
  rw [List.drop_eq_nil_iff] at hdrop ⊢
  simpa using hdrop

/-- The rows there were and those added have the dates of all bars. -/
theorem dates_added {row : DailyPrice × ℕ → DailyFeature} (hrow : ∀ p, (row p).date = p.1.date) :
    (bars.take w).map DailyPrice.date ++ ((bars.zipIdx.drop w).map row).map DailyFeature.date =
      bars.map DailyPrice.date := by
  have hdates : DailyFeature.date ∘ row = DailyPrice.date ∘ Prod.fst := funext hrow
  rw [List.map_map, hdates, ← List.map_map, List.map_drop, List.zipIdx_map_fst, ← List.map_append,
    List.take_append_drop]

theorem getElem?_added (row : DailyPrice × ℕ → DailyFeature) {i : ℕ} (hwi : w ≤ i) :
    ((bars.zipIdx.drop w).map row)[i-w]? = bars[i]?.map fun p => row (p,i) := by
  rw [List.getElem?_map, List.getElem?_drop, Nat.add_sub_cancel' hwi, List.getElem?_zipIdx,
    Option.map_map]
  simp only [Nat.zero_add]
  rfl

/-- How many rows `n` bars give: a run needs two bars. -/
def rowCount (n : ℕ) : ℕ := if 2 ≤ n then n else 0

theorem rowCount_le (n : ℕ) : rowCount n ≤ n := by
  unfold rowCount
  split <;> omega

theorem lt_rowCount_iff {i n : ℕ} : i < rowCount n ↔ 2 ≤ n ∧ i < n := by
  unfold rowCount
  split <;> omega

end Rows

section Runs
variable (scans : Scans) {symbols : SymbolTable} {arrivals : Arrivals}

theorem lookback_eq_barsOf {prices : DailyPrices}
    (hstored : ∀ k, prices.history k = barsOf settings k arrivals)
    (hfits : ∀ k, (barsOf settings k arrivals).length ≤ settings.featureDailyLookbackBars)
    (k : ℕ) : FeatureEngine.lookback settings scans prices k = barsOf settings k arrivals := by
  rw [FeatureEngine.lookback_eq, hstored, Nat.sub_eq_zero_of_le (hfits k), List.drop_zero]

theorem loadBenchmark_eq {prices : DailyPrices}
    (hstored : ∀ k, prices.history k = barsOf settings k arrivals)
    (hfits : ∀ k, (barsOf settings k arrivals).length ≤ settings.featureDailyLookbackBars)
    {row : Option (Row SymbolRow)}
    (hrow : SymbolRepository.getBySymbol symbols settings.featureRsBenchmarkSymbol = .ok row) :
    FeatureEngine.loadBenchmark settings scans symbols prices =
      .ok (nonempty (benchmarkBars settings symbols arrivals)) := by
  unfold FeatureEngine.loadBenchmark benchmarkBars
  rw [hrow]
  cases row with
  | none => rfl
  | some row =>
    simp only [lookback_eq_barsOf scans hstored hfits]
    rfl

theorem history_ingest_arrivals {t : DailyPrices} {batch : Arrivals}
    (hchron : ∀ k, (barsOf settings k (arrivals ++ batch)).Pairwise fun a b => a.date < b.date)
    (hstored : ∀ k, t.history k = barsOf settings k arrivals) (k : ℕ) :
    (ingest settings t batch).history k = barsOf settings k (arrivals ++ batch) := by
  rw [barsOf_append, ← hstored k]
  apply history_ingest
  rw [hstored, ← barsOf_append]
  exact hchron k

variable [FloatMath]

theorem prices_afterBatch (s : Stores) (batch : Arrivals) :
    (afterBatch settings scans symbols s batch).prices = ingest settings s.prices batch := by
  simp only [afterBatch]
  split <;> rfl

/-- What one batch and its run add to the features of a symbol. -/
theorem history_afterBatch {s : Stores} {batch : Arrivals} {symbolId w : ℕ}
    (hserved : Served settings symbols symbolId)
    (hchron : ∀ k, (barsOf settings k (arrivals ++ batch)).Pairwise fun a b => a.date < b.date)
    (hfits : ∀ k, (barsOf settings k (arrivals ++ batch)).length ≤
      settings.featureDailyLookbackBars)
    (hstored : ∀ k, s.prices.history k = barsOf settings k arrivals)
    (hdates : (s.features.history symbolId).map DailyFeature.date =
      ((barsOf settings symbolId (arrivals ++ batch)).take w).map DailyPrice.date) :
    (afterBatch settings scans symbols s batch).features.history symbolId =
      s.features.history symbolId ++
        if 2 ≤ (barsOf settings symbolId (arrivals ++ batch)).length then
          ((barsOf settings symbolId (arrivals ++ batch)).zipIdx.drop w).map fun p =>
            storedRow symbolId (barsOf settings symbolId (arrivals ++ batch))
              (nonempty (benchmarkBars settings symbols (arrivals ++ batch))) p.2 p.1.date
        else [] := by
  obtain ⟨⟨symbol,hrow,hactive,rfl⟩,row,hbenchmark⟩ := hserved
  have hprices := history_ingest_arrivals hchron hstored
  have hlookback := lookback_eq_barsOf scans hprices hfits symbol.id
  have hload := loadBenchmark_eq scans hprices hfits hbenchmark
  have hlatest : (s.features.history symbol.id).getLast?.map DailyFeature.date =
      ((barsOf settings symbol.id (arrivals ++ batch)).take w).getLast?.map DailyPrice.date := by
    rw [← List.getLast?_map, ← List.getLast?_map, hdates]
  obtain ⟨done,hdone⟩ : ∃ done, FeatureEngine.runDaily settings scans .none symbols
      (ingest settings s.prices batch) s.features = .ok done := by
    unfold FeatureEngine.runDaily
    rw [hload]
    exact ⟨_,rfl⟩
  have hafter : (afterBatch settings scans symbols s batch).features = done.1 := by
    simp only [afterBatch, hdone]
  rw [hafter]
  have hsorted := hchron symbol.id
  by_cases hlong : 2 ≤ (barsOf settings symbol.id (arrivals ++ batch)).length
  · rw [if_pos hlong]
    by_cases hopen : FeatureEngine.Settled (ingest settings s.prices batch) s.features symbol.id
    · -- all bars have their rows, so there is nothing to add
      have hkept := FeatureEngine.history_runDaily_of_kept hdone (k := symbol.id)
        fun _ _ _ _ => Or.inl hopen
      unfold FeatureEngine.Settled at hopen
      rw [hprices, hlatest] at hopen
      have hnothing := zipIdx_drop_of_upToDate hsorted hopen
      rw [hkept, hnothing, List.map_nil, List.append_nil]
    · have hadded := FeatureEngine.history_runDaily_of_open hload hdone
        (FeatureEngine.errors_runDaily_none hdone) hrow hactive hopen (by rw [hlookback]; exact hlong)
      rw [hadded]
      unfold FeatureEngine.addedRows
      rw [hlookback, hlatest, newRows_eq_drop hsorted, List.map_map]
      rfl
  · rw [if_neg hlong, List.append_nil]
    exact FeatureEngine.history_runDaily_of_kept hdone fun _ _ _ _ =>
      Or.inr (by rw [hlookback]; omega)

variable (settings symbols) in
/-- What the stores hold after some batches: the prices that arrived, and each row as the first run
that wrote it computed it. -/
structure Recorded (symbolId : ℕ) (batches : List Arrivals) (s : Stores) : Prop where
  prices : ∀ k, s.prices.history k = barsOf settings k batches.flatten
  dates : (s.features.history symbolId).map DailyFeature.date =
    ((barsOf settings symbolId batches.flatten).take
      (if 2 ≤ (barsOf settings symbolId batches.flatten).length then
        (barsOf settings symbolId batches.flatten).length else 0)).map DailyPrice.date
  rows : ∀ ⦃pre batch post i⦄, batches = pre ++ batch::post →
    Writes settings symbolId pre batch i →
    (s.features.history symbolId)[i]? =
      (barsOf settings symbolId (pre ++ [batch]).flatten)[i]?.map fun p =>
        storedRow symbolId (barsOf settings symbolId (pre ++ [batch]).flatten)
          (nonempty (benchmarkBars settings symbols (pre ++ [batch]).flatten)) i p.date

section Recorded
variable {symbolId : ℕ} {batches : List Arrivals} {batch : Arrivals} {s : Stores}

theorem length_history (h : Recorded settings symbols symbolId batches s) :
    (s.features.history symbolId).length =
      rowCount (barsOf settings symbolId batches.flatten).length := by
  have hdates : (s.features.history symbolId).map DailyFeature.date =
      ((barsOf settings symbolId batches.flatten).take
        (rowCount (barsOf settings symbolId batches.flatten).length)).map DailyPrice.date := h.dates
  have hsame := congrArg List.length hdates
  rw [List.length_map, List.length_map, List.length_take] at hsame
  rw [hsame]
  exact Nat.min_eq_left (rowCount_le _)

/-- The rows that are there when a batch comes are those of the first bars. -/
theorem Recorded.dates_before (h : Recorded settings symbols symbolId batches s) (batch : Arrivals) :
    (s.features.history symbolId).map DailyFeature.date =
      ((barsOf settings symbolId (batches.flatten ++ batch)).take
        (rowCount (barsOf settings symbolId batches.flatten).length)).map DailyPrice.date := by
  rw [barsOf_append, List.take_append_of_le_length (rowCount_le _)]
  exact h.dates

omit [FloatMath] in
/-- A row that a run wrote is still there after later runs. -/
theorem lt_rowCount_of_writes {pre post : List Arrivals} {batch' : Arrivals} {i : ℕ}
    (hsplit : batches = pre ++ batch'::post) (hwrites : Writes settings symbolId pre batch' i) :
    i < rowCount (barsOf settings symbolId batches.flatten).length := by
  have hearlier : batches.flatten = (pre ++ [batch']).flatten ++ post.flatten := by
    rw [hsplit]
    simp
  have hle : (barsOf settings symbolId (pre ++ [batch']).flatten).length ≤
      (barsOf settings symbolId batches.flatten).length := by
    rw [hearlier, barsOf_append, List.length_append]
    omega
  exact lt_rowCount_iff.mpr ⟨le_trans hwrites.1.1 hle,lt_of_lt_of_le hwrites.1.2 hle⟩

/-- One batch and its run keep the record: the run adds the rows of the bars that had none, and leaves
the others. -/
theorem Recorded.afterBatch (hserved : Served settings symbols symbolId)
    (hchron : ∀ k, (barsOf settings k (batches.flatten ++ batch)).Pairwise
      fun a b => a.date < b.date)
    (hfits : ∀ k, (barsOf settings k (batches.flatten ++ batch)).length ≤
      settings.featureDailyLookbackBars)
    (h : Recorded settings symbols symbolId batches s) :
    Recorded settings symbols symbolId (batches ++ [batch])
      (afterBatch settings scans symbols s batch) := by
  have hflat : (batches ++ [batch]).flatten = batches.flatten ++ batch := by simp
  have hdates := h.dates_before batch
  have hlength := length_history h
  have hafter := history_afterBatch scans hserved hchron hfits h.prices hdates
  have hgrows : (barsOf settings symbolId batches.flatten).length ≤
      (barsOf settings symbolId (batches.flatten ++ batch)).length := by
    rw [barsOf_append, List.length_append]
    omega
  refine ⟨?prices,?dates,?rows⟩
  case prices =>
    intro k
    rw [prices_afterBatch scans, hflat]
    exact history_ingest_arrivals hchron h.prices k
  case dates =>
    rw [hafter, hflat, List.map_append, hdates]
    by_cases hlong : 2 ≤ (barsOf settings symbolId (batches.flatten ++ batch)).length
    · rw [if_pos hlong, if_pos hlong, List.take_length]
      exact dates_added fun _ => rfl
    · have hnone : rowCount (barsOf settings symbolId batches.flatten).length = 0 :=
        if_neg (by omega)
      rw [if_neg hlong, if_neg hlong, hnone]
      rfl
  case rows =>
    intro pre batch' post i hsplit hwrites
    rw [hafter]
    obtain rfl | ⟨post,last,rfl⟩ := post.eq_nil_or_concat
    · -- the last run writes the row
      obtain ⟨rfl,hlast⟩ := List.append_inj' hsplit rfl
      obtain rfl : batch = batch' := by simpa using hlast
      obtain ⟨⟨hlong,-⟩,hnew⟩ := hwrites
      rw [hflat] at hlong ⊢
      have hfrom : rowCount (barsOf settings symbolId batches.flatten).length ≤ i :=
        not_lt.mp fun hlt => hnew (lt_rowCount_iff.mp hlt)
      rw [if_pos hlong, List.getElem?_append_right (by omega), hlength]
      exact getElem?_added _ hfrom
    · -- an earlier run wrote it, and later ones leave it
      have hsplit' : batches = pre ++ batch'::post ∧ [batch] = [last] :=
        List.append_inj' (by rw [hsplit, List.append_assoc]; simp) rfl
      have hthere := lt_rowCount_of_writes hsplit'.1 hwrites
      rw [List.getElem?_append_left (by omega), h.rows hsplit'.1 hwrites]

end Recorded

theorem recorded_runBatches {symbolId : ℕ} (hserved : Served settings symbols symbolId)
    (batches : List Arrivals)
    (hchron : ∀ k, (barsOf settings k batches.flatten).Pairwise fun a b => a.date < b.date)
    (hfits : ∀ k, (barsOf settings k batches.flatten).length ≤ settings.featureDailyLookbackBars) :
    Recorded settings symbols symbolId batches (runBatches settings scans symbols batches) := by
  induction batches using List.reverseRecOn with
  | nil =>
    refine ⟨fun _ => rfl,rfl,?_⟩
    intro pre batch post i h
    simp at h
  | append_singleton batches batch ih =>
    have hflat : (batches ++ [batch]).flatten = batches.flatten ++ batch := by simp
    rw [hflat] at hchron hfits
    have hbars : ∀ k, barsOf settings k (batches.flatten ++ batch) =
        barsOf settings k batches.flatten ++ barsOf settings k batch := fun k => barsOf_append k _ _
    have hbefore := ih
      (fun k => (hchron k).sublist (by rw [hbars]; exact List.sublist_append_left _ _))
      (fun k => le_trans (by rw [hbars, List.length_append]; omega) (hfits k))
    have hrun : runBatches settings scans symbols (batches ++ [batch]) =
        afterBatch settings scans symbols (runBatches settings scans symbols batches) batch := by
      rw [runBatches, List.foldl_append]
      rfl
    rw [hrun]
    exact hbefore.afterBatch scans hserved hchron hfits

omit [FloatMath] in
/-- Some run writes each row of a symbol with two bars or more. -/
theorem exists_writes (symbolId : ℕ) (batches : List Arrivals) {i : ℕ}
    (hlong : 2 ≤ (barsOf settings symbolId batches.flatten).length)
    (hi : i < (barsOf settings symbolId batches.flatten).length) :
    ∃ pre batch post, batches = pre ++ batch::post ∧ Writes settings symbolId pre batch i := by
  induction batches using List.reverseRecOn with
  | nil => simp [barsOf] at hlong
  | append_singleton batches batch ih =>
    by_cases hbefore : 2 ≤ (barsOf settings symbolId batches.flatten).length ∧
        i < (barsOf settings symbolId batches.flatten).length
    · obtain ⟨pre,batch',post,rfl,hwrites⟩ := ih hbefore.1 hbefore.2
      exact ⟨pre,batch',post ++ [batch],by simp,hwrites⟩
    · exact ⟨batches,batch,[],rfl,⟨hlong,hi⟩,hbefore⟩

/-- A run computes for a bar the row that a run on all the bars does, exactly where what the row
depends on is known. -/
theorem storedRow_eq_iff_known {symbolId : ℕ} {now later : Arrivals} {i : ℕ} {p : DailyPrice}
    (hp : (barsOf settings symbolId now)[i]? = some p) :
    storedRow symbolId (barsOf settings symbolId now)
        (nonempty (benchmarkBars settings symbols now)) i p.date =
      storedRow symbolId (barsOf settings symbolId (now ++ later))
        (nonempty (benchmarkBars settings symbols (now ++ later))) i p.date ↔
      Known settings symbols symbolId now (now ++ later) i := by
  have hi : i < (barsOf settings symbolId now).length := (List.getElem?_eq_some_iff.mp hp).choose
  have hbench : benchmarkBars settings symbols (now ++ later) =
      benchmarkBars settings symbols now ++ benchmarkBars settings symbols later := by
    unfold benchmarkBars
    split
    · exact barsOf_append _ _ _
    · rfl
  have hnow := benchmarkReturn_append (benchmarkBars settings symbols now)
    (benchmarkBars settings symbols later) p.date
  have hp' : (barsOf settings symbolId now ++ barsOf settings symbolId later)[i]? = some p := by
    rw [List.getElem?_append_left hi, hp]
  unfold Known
  rw [barsOf_append, hbench, hp']
  rw [storedRow_eq_iff symbolId hp]
  · rw [returnOn_nonempty, returnOn_nonempty, hnow]
    refine and_congr_right fun _ => and_congr_right fun _ => ?_
    simp only [Option.mem_def, Option.some.injEq, forall_eq']
    by_cases hd : p.date ∈ (benchmarkBars settings symbols now).map DailyPrice.date
    · rw [if_pos hd]
      simp [hd]
    · rw [if_neg hd]
      simp only [hd, or_false]
      rw [show finite? .nan = none from rfl, eq_comm (a := none)]
  · rw [returnOn_nonempty, returnOn_nonempty, hnow]
    intro a ha b hb
    split at ha
    · exact Option.some.inj (ha.symm.trans hb)
    · cases ha

/-- No run computes features for a symbol that is not served. -/
theorem history_of_not_served {symbolId : ℕ} (h : ¬Served settings symbols symbolId)
    (batches : List Arrivals) :
    (runBatches settings scans symbols batches).features.history symbolId = [] := by
  let without (s : Stores) : Prop := s.features.history symbolId = []
  refine List.foldlRecOn (motive := without) _ _ rfl ?_
  intro s hs batch hbatch
  cases hrun : FeatureEngine.runDaily settings scans .none symbols
      (ingest settings s.prices batch) s.features with
  | error e =>
    simp only [afterBatch, hrun]
    exact hs
  | ok done =>
    simp only [afterBatch, hrun]
    refine (FeatureEngine.history_runDaily_of_kept hrun ?_).trans hs
    intro symbol hrow hactive hid
    refine absurd ⟨⟨symbol,hrow,hactive,hid⟩,?_⟩ h
    unfold FeatureEngine.runDaily FeatureEngine.loadBenchmark at hrun
    cases hbenchmark : SymbolRepository.getBySymbol symbols settings.featureRsBenchmarkSymbol with
    | error e =>
      rw [hbenchmark] at hrun
      cases hrun
    | ok row => exact ⟨row,rfl⟩

/-- The stores agree on a row exactly where the run that wrote it knew what it depends on. -/
theorem row_eq_iff_known (feed : Feed settings) {symbolId : ℕ}
    (hserved : Served settings symbols symbolId) {pre post : List Arrivals} {batch : Arrivals}
    {i : ℕ} (hsplit : feed.batches = pre ++ batch::post)
    (hwrites : Writes settings symbolId pre batch i) :
    ((runBatches settings scans symbols feed.batches).features.history symbolId)[i]? =
        ((runBatches settings scans symbols [feed.batches.flatten]).features.history
          symbolId)[i]? ↔
      Known settings symbols symbolId (pre ++ [batch]).flatten feed.batches.flatten i := by
  have hflat : [feed.batches.flatten].flatten = feed.batches.flatten := by simp
  have hinc := recorded_runBatches scans hserved feed.batches feed.chronological feed.fits
  have hone := recorded_runBatches scans hserved [feed.batches.flatten]
    (by rw [hflat]; exact feed.chronological) (by rw [hflat]; exact feed.fits)
  have hall : feed.batches.flatten = (pre ++ [batch]).flatten ++ post.flatten := by
    rw [hsplit]
    simp
  obtain ⟨⟨hlong,hi⟩,-⟩ := id hwrites
  have hwhole : Writes settings symbolId [] feed.batches.flatten i := by
    unfold Writes
    rw [List.nil_append, hflat, hall, barsOf_append, List.length_append]
    refine ⟨by omega,?_⟩
    simp [barsOf]
  have hp := List.getElem?_eq_getElem hi
  have hp' : (barsOf settings symbolId feed.batches.flatten)[i]? =
      some (barsOf settings symbolId (pre ++ [batch]).flatten)[i] := by
    rw [hall, barsOf_append, List.getElem?_append_left hi, hp]
  rw [hinc.rows hsplit hwrites, hone.rows rfl hwhole, List.nil_append, hflat, hp,
    hp', Option.map_some, Option.map_some, Option.some_inj, hall]
  exact storedRow_eq_iff_known hp

/-- The features of a symbol after batch upon batch are those of a single batch exactly where every
row was written with all known that it depends on: no swing point among the bars up to it is
confirmed by bars that came after its run, and the benchmark had its bar of the date. -/
theorem incremental_eq_batch_iff (feed : Feed settings) (symbolId : ℕ) :
    (runBatches settings scans symbols feed.batches).features.history symbolId =
        (runBatches settings scans symbols [feed.batches.flatten]).features.history symbolId ↔
      (Served settings symbols symbolId → ∀ pre batch post, feed.batches = pre ++ batch::post →
        ∀ i, Writes settings symbolId pre batch i →
          Known settings symbols symbolId (pre ++ [batch]).flatten feed.batches.flatten i) := by
  constructor
  · intro hsame hserved pre batch post hsplit i hwrites
    exact (row_eq_iff_known scans feed hserved hsplit hwrites).mp (by rw [hsame])
  · intro hknown
    by_cases hserved : Served settings symbols symbolId
    · have hflat : [feed.batches.flatten].flatten = feed.batches.flatten := by simp
      have hlength := length_history (recorded_runBatches scans hserved feed.batches
        feed.chronological feed.fits)
      have hlength' := length_history (recorded_runBatches scans hserved
        [feed.batches.flatten] (by rw [hflat]; exact feed.chronological)
        (by rw [hflat]; exact feed.fits))
      rw [hflat] at hlength'
      apply List.ext_getElem?
      intro i
      by_cases hi : 2 ≤ (barsOf settings symbolId feed.batches.flatten).length ∧
          i < (barsOf settings symbolId feed.batches.flatten).length
      · obtain ⟨pre,batch,post,hsplit,hwrites⟩ := exists_writes symbolId feed.batches hi.1 hi.2
        exact (row_eq_iff_known scans feed hserved hsplit hwrites).mpr
          (hknown hserved pre batch post hsplit i hwrites)
      · have hbeyond : rowCount (barsOf settings symbolId feed.batches.flatten).length ≤ i :=
          not_lt.mp fun hlt => hi (lt_rowCount_iff.mp hlt)
        rw [List.getElem?_eq_none (by omega), List.getElem?_eq_none (by omega)]
    · rw [history_of_not_served scans hserved, history_of_not_served scans hserved]

end Runs

/-- A bar of a day, from its high and its low in rupees. -/
def dailyCandle (day high low : ℤ) : Candle :=
  ⟨.ofUtc ⟨day⟩ 600,⟨low*10000⟩,⟨high*10000⟩,⟨low*10000⟩,⟨high*10000⟩,100,none⟩

/-- One active symbol, and no benchmark. -/
def oneSymbol : SymbolTable :=
  Table.empty.insert ⟨"ACME","NSE","token",none,none,none,none,true⟩

def peakBatches : List Arrivals :=
  [[(1,dailyCandle 1 11 10),(1,dailyCandle 2 12 10),(1,dailyCandle 3 15 10)],
    [(1,dailyCandle 4 12 10),(1,dailyCandle 5 11 10)]]

theorem barsOf_peakBatches_of_ne {k : ℕ} (hk : k ≠ 1) :
    barsOf {} k peakBatches.flatten = [] := by
  have hne : 1 ≠ k := hk.symm
  simp [barsOf, peakBatches, hne]

/-- Five bars with the highest in the middle, the last two after a run on the first three. -/
def peakFeed : Feed {} where
  batches := peakBatches
  chronological := by
    intro k
    by_cases hk : k = 1
    · subst hk
      decide
    · rw [barsOf_peakBatches_of_ne hk]
      exact List.Pairwise.nil
  fits := by
    intro k
    by_cases hk : k = 1
    · subst hk
      decide
    · rw [barsOf_peakBatches_of_ne hk]
      exact Nat.zero_le _

/-- The bars that confirm the swing high of the third day come after its row is written. -/
theorem incremental_ne_batch_peakFeed :
    ¬ ∀ (feed : Feed {}) (symbolId : ℕ),
      (@runBatches FloatMath.double {} Scans.insertion oneSymbol feed.batches).features.history
          symbolId =
        (@runBatches FloatMath.double {} Scans.insertion oneSymbol
          [feed.batches.flatten]).features.history symbolId := by
  intro h
  have hcolumn := congrArg (List.map fun f : DailyFeature => f.values .swingHigh) (h peakFeed 1)
  revert hcolumn
  decide +kernel

end MarketScanner.Features
