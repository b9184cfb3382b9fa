import MarketScanner.Derivatives.Observations
import Mathlib.Tactic.GCongr

/-! What runs of the engine leave in `oi_observations`: the readings of the symbols that did not fail, and
no row whose label contradicts its numbers. -/
namespace MarketScanner.Derivatives
open MarketScanner.Library MarketScanner.Python MarketScanner.Market

theorem numericColumn_mono (scale : ℕ) : Monotone (numericColumn scale) := by
  intro x y hxy
  have hpos : (0 : ℚ) < 10^scale := by positivity
  unfold numericColumn
  split_ifs with hx hy hy
  · gcongr
  · exact absurd (hx.trans hxy) hy
  · have hfloor (q : ℚ) (hq : 0 ≤ q) : (0 : ℚ) ≤ ⌊q*10^scale+1/2⌋/10^scale := by
      have hnonneg : 0 ≤ ⌊q*10^scale+1/2⌋ := Int.floor_nonneg.mpr (by positivity)
      exact div_nonneg (by exact_mod_cast hnonneg) hpos.le
    exact (neg_nonpos.mpr (hfloor (-x) (neg_nonneg.mpr (not_le.mp hx).le))).trans (hfloor y hy)
  · gcongr

/-- Where two stored numbers differ, they differ the way the numbers do that were stored. -/
theorem numericColumn_sub_pos_iff {scale : ℕ} {x y : ℚ} (h : numericColumn scale x ≠ numericColumn scale y) :
    0 < numericColumn scale x-numericColumn scale y ↔ 0 < x-y := by
  rw [sub_pos, sub_pos]
  constructor
  · exact fun hlt => (numericColumn_mono scale).reflect_lt hlt
  · exact fun hlt => lt_of_le_of_ne (numericColumn_mono scale hlt.le) (Ne.symm h)

theorem numericColumn_sub_neg_iff {scale : ℕ} {x y : ℚ} (h : numericColumn scale x ≠ numericColumn scale y) :
    numericColumn scale x-numericColumn scale y < 0 ↔ x-y < 0 := by
  rw [← neg_pos, neg_sub, numericColumn_sub_pos_iff (Ne.symm h), sub_pos, sub_neg]

/-- What a label says of the change of the price and of the open interest. -/
def BuildupClassification.Says (price oi : ℚ) : BuildupClassification → Prop
  | .longBuildup => 0 < price ∧ 0 < oi
  | .shortBuildup => price < 0 ∧ 0 < oi
  | .shortCovering => 0 < price ∧ oi < 0
  | .longUnwinding => price < 0 ∧ oi < 0
  | .neutral => price = 0 ∨ oi = 0

theorem says_classify (price oi : ℚ) : (classify (some price) (some oi)).Says price oi := by
  unfold classify
  dsimp only
  split_ifs with hflat hlong hshort hcovering
  · exact hflat
  · exact hlong
  · exact hshort
  · exact hcovering
  · obtain ⟨hprice,hoi⟩ := not_or.mp hflat
    rcases lt_or_gt_of_ne hprice with hp | hp <;> rcases lt_or_gt_of_ne hoi with ho | ho
    · exact ⟨hp,ho⟩
    · exact absurd ⟨hp,ho⟩ hshort
    · exact absurd ⟨hp,ho⟩ hcovering
    · exact absurd ⟨hp,ho⟩ hlong

/-- The label of a row says what its own columns show wherever they show a move of both the price and the
open interest, and it is neutral where there was nothing to compare with. -/
structure OiObservation.Agrees (o : OiObservation) : Prop where
  moved : ∀ price oi, o.prevPrice = some price → o.prevOi = some oi → o.price ≠ price → o.oi ≠ oi →
    o.classification.Says (o.price-price) (o.oi-oi)
  first : o.prevPrice = none ∨ o.prevOi = none → o.classification = .neutral

theorem OiReading.Labelled.agrees {r : OiReading} (h : r.Labelled) (symbolId : ℕ) :
    (OiObservation.ofReading symbolId r).Agrees := by
  constructor
  · intro price oi hprice hoi hmoved hmoved'
    obtain ⟨price₀,hprice₀,rfl⟩ := Option.map_eq_some_iff.mp hprice
    obtain ⟨oi₀,hoi₀,rfl⟩ := Option.map_eq_some_iff.mp hoi
    have hlabel : r.classification = classify (some (numericColumn 4 r.price-numericColumn 4 price₀))
        (some (numericColumn 2 r.oi-numericColumn 2 oi₀)) := by
      refine (h.moved price₀ oi₀ hprice₀ hoi₀).trans (classify_congr ?_ ?_ ?_ ?_)
      · exact (numericColumn_sub_pos_iff hmoved).symm
      · exact (numericColumn_sub_neg_iff hmoved).symm
      · exact (numericColumn_sub_pos_iff hmoved').symm
      · exact (numericColumn_sub_neg_iff hmoved').symm
    have hsays := says_classify (numericColumn 4 r.price-numericColumn 4 price₀)
      (numericColumn 2 r.oi-numericColumn 2 oi₀)
    rwa [← hlabel] at hsays
  · intro hnone
    apply h.first
    simpa [OiObservation.ofReading] using hnone

/-- The numbers that a reading compares have no more decimals than their columns. -/
structure OiReading.Fits (r : OiReading) : Prop where
  price : numericColumn 4 r.price = r.price
  prevPrice : r.prevPrice.map (numericColumn 4) = r.prevPrice
  oi : numericColumn 2 r.oi = r.oi
  prevOi : r.prevOi.map (numericColumn 2) = r.prevOi

instance (r : OiReading) : Decidable r.Fits :=
  decidable_of_iff (numericColumn 4 r.price = r.price ∧ r.prevPrice.map (numericColumn 4) = r.prevPrice ∧
      numericColumn 2 r.oi = r.oi ∧ r.prevOi.map (numericColumn 2) = r.prevOi)
    ⟨fun ⟨hprice,hprevPrice,hoi,hprevOi⟩ => ⟨hprice,hprevPrice,hoi,hprevOi⟩,
      fun h => ⟨h.price,h.prevPrice,h.oi,h.prevOi⟩⟩

/-- The label of a row says what its own columns show, whether that is a move or not. -/
def OiObservation.FollowsRule (o : OiObservation) : Prop :=
  ∀ price oi, o.prevPrice = some price → o.prevOi = some oi → o.classification.Says (o.price-price) (o.oi-oi)

theorem OiReading.Labelled.followsRule {r : OiReading} (h : r.Labelled) (hfits : r.Fits) (symbolId : ℕ) :
    (OiObservation.ofReading symbolId r).FollowsRule := by
  intro price oi hprice hoi
  rw [OiObservation.ofReading] at hprice hoi ⊢
  dsimp only at hprice hoi ⊢
  rw [hfits.prevPrice] at hprice
  rw [hfits.prevOi] at hoi
  rw [hfits.price, hfits.oi, h.moved price oi hprice hoi]
  exact says_classify _ _

theorem rows_insertAll (t : Table OiObservation) (symbolId : ℕ) (readings : List OiReading) :
    (OiObservationRepository.insertAll t symbolId readings).rows.map Row.val =
      t.rows.map Row.val ++ readings.map (OiObservation.ofReading symbolId) := by
  induction readings generalizing t with
  | nil => exact (List.append_nil _).symm
  | cons r rs ih =>
    rw [OiObservationRepository.insertAll, List.foldl_cons]
    refine (ih _).trans ?_
    simp [OiObservationRepository.insert]

namespace OiEngine
variable {replies : Symbol → OiReplies} {symbol : Symbol} {symbols : List Symbol} {s : State}

variable (replies symbol) in
/-- The readings that are stored for a symbol: all of them or none. -/
def written : List OiReading :=
  match outcome replies symbol with
  | .ok readings => readings
  | .error _ => []

variable (replies symbol) in
def failure : Option String :=
  match outcome replies symbol with
  | .ok _ => none
  | .error e => some (symbol.symbol ++ ": " ++ e)

variable (replies symbol) in
def noData : Bool :=
  match outcome replies symbol with
  | .ok [] => true
  | _ => false

/-- What one turn of the loop adds. -/
theorem process_spec (replies : Symbol → OiReplies) (s : State) (symbol : Symbol) :
    (process replies s symbol).table.rows.map Row.val =
      s.table.rows.map Row.val ++ (written replies symbol).map (OiObservation.ofReading symbol.id) ∧
    (process replies s symbol).stats =
      ⟨s.stats.symbolsProcessed+1,s.stats.observationsWritten+(written replies symbol).length,
        s.stats.symbolsWithNoData+(noData replies symbol).toNat,
        s.stats.errorCount+(failure replies symbol).toList.length,
        s.stats.errors ++ (failure replies symbol).toList⟩ := by
  unfold process written failure noData outcome
  cases readings symbol (replies symbol) with
  | error e => simp [State.failed]
  | ok rs =>
    cases rs with
    | nil => simp
    | cons r rs =>
      cases (replies symbol).stored with
      | error e => simp [State.failed, Except.map]
      | ok u => simp [Except.map, rows_insertAll]

/-- What the loop adds over a list of symbols. -/
theorem foldl_process_spec (replies : Symbol → OiReplies) (symbols : List Symbol) (s : State) :
    (symbols.foldl (process replies) s).table.rows.map Row.val =
        s.table.rows.map Row.val ++
          symbols.flatMap (fun symbol => (written replies symbol).map (OiObservation.ofReading symbol.id)) ∧
      (symbols.foldl (process replies) s).stats =
        ⟨s.stats.symbolsProcessed+symbols.length,
          s.stats.observationsWritten+(symbols.flatMap (written replies)).length,
          s.stats.symbolsWithNoData+symbols.countP (noData replies),
          s.stats.errorCount+(symbols.filterMap (failure replies)).length,
          s.stats.errors ++ symbols.filterMap (failure replies)⟩ := by
  induction symbols generalizing s with
  | nil => simp
  | cons symbol rest ih =>
    obtain ⟨hrows,hstats⟩ := process_spec replies s symbol
    rw [List.foldl_cons, (ih _).1, (ih _).2, hrows, hstats]
    constructor
    · rw [List.flatMap_cons, List.append_assoc]
    · rw [List.flatMap_cons, List.filterMap_cons, List.countP_cons, List.length_cons]
      cases failure replies symbol <;> cases noData replies symbol <;>
        simp [Nat.add_assoc, Nat.add_comm, Nat.add_left_comm]

theorem rows_run (t : Table OiObservation) (symbols : List Symbol) (replies : Symbol → OiReplies) :
    (run t symbols replies).table.rows.map Row.val = t.rows.map Row.val ++
      symbols.flatMap (fun symbol => (written replies symbol).map (OiObservation.ofReading symbol.id)) :=
  (foldl_process_spec replies symbols ⟨t,{}⟩).1

/-- A run stores, in order, the readings of every symbol that did not fail, whatever became of the others,
and its statistics account for every symbol and every row. -/
theorem run_exact (t : Table OiObservation) (symbols : List Symbol) (replies : Symbol → OiReplies) :
    (run t symbols replies).table.rows.map Row.val = t.rows.map Row.val ++
      symbols.flatMap (fun symbol => (written replies symbol).map (OiObservation.ofReading symbol.id)) ∧
    (run t symbols replies).stats =
      ⟨symbols.length,(symbols.flatMap (written replies)).length,symbols.countP (noData replies),
        (symbols.filterMap (failure replies)).length,symbols.filterMap (failure replies)⟩ := by
  refine ⟨rows_run t symbols replies,?_⟩
  simpa [run] using (foldl_process_spec replies symbols ⟨t,{}⟩).2

/-- Readings come from the chain or from the futures bars. -/
theorem labelled_of_written {r : OiReading} (h : r ∈ written replies symbol) : r.Labelled := by
  unfold written at h
  split at h
  · rename_i rs houtcome
    have hreadings : readings symbol (replies symbol) = .ok rs := by
      unfold outcome at houtcome
      split at houtcome
      · cases houtcome
      · rwa [← houtcome]
      · rename_i hne hread
        cases hstored : (replies symbol).stored with
        | error e => rw [hstored] at houtcome; cases houtcome
        | ok u =>
          rw [hstored] at houtcome
          rw [hread]
          exact congrArg Except.ok (Except.ok.inj houtcome)
    unfold readings at hreadings
    cases hchain : (replies symbol).chain with
    | error e => rw [hchain] at hreadings; cases hreadings
    | ok chain =>
      cases hbars : (replies symbol).futures with
      | error e => rw [hchain, hbars] at hreadings; cases hreadings
      | ok bars =>
        rw [hchain, hbars] at hreadings
        obtain rfl := Except.ok.inj hreadings
        rcases List.mem_append.mp h with hleg | hfutures
        · exact labelled_of_chain hleg
        · exact labelled_of_bars (Option.mem_toList.mp hfutures)
  · cases h

end OiEngine

/-- A run of the engine, with the symbols it finds in the universe and what comes back for them. -/
structure OiRun where
  symbols : List Symbol
  replies : Symbol → OiReplies

def oiMachine : Machine (Table OiObservation) OiRun where
  step t r := some (OiEngine.run t r.symbols r.replies).table

/-- What comes back from the provider fits the columns. -/
def OiRun.Fits (run : OiRun) : Prop :=
  ∀ symbol ∈ run.symbols, ∀ r ∈ OiEngine.written run.replies symbol, r.Fits

/-- What every reading that is written gives its row, every row of the table has. -/
theorem forall_stored {P : OiObservation → Prop} {runs : List OiRun} {t : Table OiObservation}
    (h : oiMachine.Run Table.empty runs t)
    (hP : ∀ run ∈ runs, ∀ symbol ∈ run.symbols, ∀ r ∈ OiEngine.written run.replies symbol,
      P (OiObservation.ofReading symbol.id r)) : ∀ row ∈ t.rows, P row.val := by
  have hvalues : ∀ o ∈ t.rows.map Row.val, P o := by
    have hsteps : oiMachine.Steps (fun _ run _ => run ∈ runs) Table.empty runs := by
      rintro pre run post t u rfl - -
      simp
    refine h.invariant (I := fun t => ∀ o ∈ t.rows.map Row.val, P o) ?_ hsteps (by simp)
    rintro t run t' hold hrun hstep o ho
    obtain rfl := Option.some.inj hstep
    rw [OiEngine.rows_run] at ho
    rcases List.mem_append.mp ho with hbefore | hnew
    · exact hold o hbefore
    · obtain ⟨symbol,hsymbol,hwritten⟩ := List.mem_flatMap.mp hnew
      obtain ⟨reading,hreading,rfl⟩ := List.mem_map.mp hwritten
      exact hP run hrun symbol hsymbol reading hreading
  exact fun row hrow => hvalues row.val (List.mem_map_of_mem hrow)

theorem agrees_of_run {runs : List OiRun} {t : Table OiObservation}
    (h : oiMachine.Run Table.empty runs t) : ∀ row ∈ t.rows, row.val.Agrees :=
  forall_stored h fun _ _ symbol _ _ hreading => (OiEngine.labelled_of_written hreading).agrees symbol.id

/-- However the runs go, with whatever failures, no stored row is labelled against its own columns; and where
the numbers that came back fit their columns, every label says what they show, a flat one included. -/
theorem stored_labels_agree {runs : List OiRun} {t : Table OiObservation}
    (h : oiMachine.Run Table.empty runs t) :
    (∀ row ∈ t.rows, row.val.Agrees) ∧
      ((∀ run ∈ runs, run.Fits) → ∀ row ∈ t.rows, row.val.FollowsRule) := by
  refine ⟨agrees_of_run h,fun hfits => forall_stored h ?_⟩
  intro run hrun symbol hsymbol reading hreading
  exact (OiEngine.labelled_of_written hreading).followsRule (hfits run hrun symbol hsymbol reading hreading)
    symbol.id

def reliance : Symbol := ⟨1,"RELIANCE"⟩

/-- A strike whose put loses interest as it falls, while its call has gained none. -/
def strike2500 : OptionChainSnapshot where
  underlyingSymbol := "RELIANCE"
  expiryDate := ⟨20000⟩
  strikePrice := 2500
  call := some ⟨"NSE_FO|1",41,40,1200,5000,5000⟩
  put := some ⟨"NSE_FO|2",30,31,900,3000,3500⟩

/-- A pass over one symbol: the chain at one o'clock, the futures bars of midnight. -/
def samplePass : OiRun where
  symbols := [reliance]
  replies _ :=
    { chain := .ok (List.replicate 10 strike2500)
      now := ⟨47000,0⟩
      futures := .ok [⟨"NSE_FO|9",⟨20000⟩,⟨-86400,0⟩,2490,100,7000⟩,⟨"NSE_FO|9",⟨20000⟩,⟨0,0⟩,2510,120,8000⟩]
      stored := .ok () }

theorem stored_labels_agree_samplePass :
    ∃ t, oiMachine.Run Table.empty [samplePass] t ∧ (∀ row ∈ t.rows, row.val.Agrees) ∧
      ∀ row ∈ t.rows, row.val.FollowsRule := by
  have hfits : ∀ run ∈ [samplePass], run.Fits := by
    intro run hrun symbol hsymbol
    obtain rfl := List.mem_singleton.mp hrun
    obtain rfl := List.mem_singleton.mp hsymbol
    decide +kernel
  have hrun : oiMachine.Run Table.empty [samplePass] _ := Machine.Run.single rfl
  obtain ⟨hagrees,hrule⟩ := stored_labels_agree hrun
  exact ⟨_,hrun,hagrees,hrule hfits⟩

end MarketScanner.Derivatives
