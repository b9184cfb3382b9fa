import MarketScanner.Config.Settings
import MarketScanner.Derivatives.OiRuns
import MarketScanner.Signals.Fusion

/-! The open-interest component of the fusion. It looks for a futures row among the newest observations
of the symbol, of which the option legs are observations, too. -/
namespace MarketScanner.Signals
open MarketScanner.Library MarketScanner.Python MarketScanner.Config MarketScanner.Market
open MarketScanner.Derivatives OiObservationRepository

def isFutures (r : Row OiObservation) : Bool := decide (r.val.instrumentType = .futures)

/-- `_score_oi` -/
def scoreOi (scan : ScanOrder (Row OiObservation)) (settings : Settings) (t : Table OiObservation)
    (symbolId : ℕ) : ComponentScore :=
  let weight := settings.signalFusionWeightOi
  match (listForSymbol scan t symbolId 20).find? isFutures with
  | none =>
    missing "oi" weight "no futures OI observation available (not F&O-eligible, or not yet observed)"
  | some futures =>
    let score := match futures.val.classification with
      | .longBuildup | .shortCovering => 75
      | .shortBuildup | .longUnwinding => 25
      | .neutral => 50
    { name := "oi"
      status := .available
      score := some score
      weight := weight
      reasons := ["OI: futures " ++ futures.val.classification.value]
      score_none_iff := by simp }

/-- The observations of a symbol that an instant is before. -/
def after (t : Table OiObservation) (symbolId : ℕ) (moment : DateTime) : List (Row OiObservation) :=
  t.rows.filter fun r => decide (r.val.symbolId = symbolId ∧ moment < r.val.observedAt)

variable {scan : ScanOrder (Row OiObservation)} {settings : Settings} {t : Table OiObservation}
  {symbolId : ℕ} {f : Row OiObservation}

theorem scoreOi_missing_iff : (scoreOi scan settings t symbolId).status = .missing ↔
    ∀ r ∈ listForSymbol scan t symbolId 20, isFutures r = false := by
  unfold scoreOi
  dsimp only
  split
  · rename_i hnone
    simpa [missing] using List.find?_eq_none.mp hnone
  · rename_i futures hsome
    simp only [reduceCtorEq, false_iff, not_forall]
    exact ⟨futures,List.mem_of_find?_eq_some hsome,by simp [List.find?_some hsome]⟩

/-- A futures row is out of the component's sight behind twenty later observations. -/
theorem not_mem_listForSymbol (hlate : 20 ≤ (after t symbolId f.val.observedAt).length) : f ∉ listForSymbol scan t symbolId 20 := by
  have hsorted : (orderBy scan NewestFirst
      (t.rows.filter fun r => decide (r.val.symbolId = symbolId))).Pairwise NewestFirst :=
    List.pairwise_insertionSort NewestFirst _
  refine not_mem_take_of_length hsorted ?_ (le_refl f.val.observedAt.utc : NewestFirst f f)
  have hperm := (orderBy_perm scan NewestFirst
    (t.rows.filter fun r => decide (r.val.symbolId = symbolId))).filter fun x => decide (¬NewestFirst f x)
  rw [hperm.length_eq, List.filter_filter]
  refine hlate.trans (le_of_eq (congrArg List.length (List.filter_congr fun x _ => ?_)))
  have hnewest : NewestFirst f x ↔ ¬f.val.observedAt < x.val.observedAt := (not_lt (α := ℤ)).symm
  rw [Bool.eq_iff_iff, Bool.and_eq_true, decide_eq_true_eq, decide_eq_true_eq, decide_eq_true_eq, hnewest,
    not_not, and_comm]

theorem status_scoreOi : (scoreOi scan settings t symbolId).status = .available ↔
    ¬(scoreOi scan settings t symbolId).status = .missing := by
  unfold scoreOi
  dsimp only
  split <;> simp [missing]

theorem missing_of_late (hlate : ∀ r ∈ t.rows, r.val.symbolId = symbolId → isFutures r = true →
    20 ≤ (after t symbolId r.val.observedAt).length) : (scoreOi scan settings t symbolId).status = .missing := by
  refine scoreOi_missing_iff.mpr fun r hr => ?_
  by_contra hfutures
  have hmem := mem_orderBy.mp (List.mem_of_mem_take hr)
  obtain ⟨hrow,hsymbol⟩ := List.mem_filter.mp hmem
  exact not_mem_listForSymbol (hlate r hrow (of_decide_eq_true hsymbol) (by simpa using hfutures)) hr

theorem after_sublist {moment moment' : DateTime} (h : moment ≤ moment') :
    (after t symbolId moment').Sublist (after t symbolId moment) := by
  refine List.monotone_filter_right t.rows fun x hx => ?_
  obtain ⟨hsymbol,hlt⟩ := of_decide_eq_true hx
  exact decide_eq_true ⟨hsymbol,Int.lt_of_le_of_lt h hlt⟩

/-- The component is there exactly while fewer than twenty observations of the symbol are later than its
newest futures row, whatever the order of the scan; no option leg may be of that very instant, or the
scan decides. -/
theorem scoreOi_available_iff (hf : f ∈ t.rows) (hsymbol : f.val.symbolId = symbolId)
    (hfutures : isFutures f = true)
    (hnewest : ∀ r ∈ t.rows, r.val.symbolId = symbolId → isFutures r = true →
      r.val.observedAt ≤ f.val.observedAt)
    (hties : ∀ r ∈ t.rows, r.val.symbolId = symbolId → isFutures r = false →
      r.val.observedAt.utc ≠ f.val.observedAt.utc) :
    (scoreOi scan settings t symbolId).status = .available ↔
      (after t symbolId f.val.observedAt).length < 20 := by
  rw [status_scoreOi]
  constructor
  · intro havailable
    by_contra hlate
    refine havailable (missing_of_late fun r hr hr' hr'' => (not_lt.mp hlate).trans ?_)
    exact (after_sublist (hnewest r hr hr' hr'')).length_le
  · intro hfew hmissing
    have hnone := scoreOi_missing_iff.mp hmissing
    have hsorted : (orderBy scan NewestFirst
        (t.rows.filter fun r => decide (r.val.symbolId = symbolId))).Pairwise NewestFirst :=
      List.pairwise_insertionSort NewestFirst _
    have hmem : f ∈ orderBy scan NewestFirst (t.rows.filter fun r => decide (r.val.symbolId = symbolId)) :=
      mem_orderBy.mpr (List.mem_filter.mpr ⟨hf,decide_eq_true hsymbol⟩)
    -- an option leg that comes before the futures row is later than it
    have hbefore : (((t.rows.filter fun r => decide (r.val.symbolId = symbolId)).filter fun x =>
        !isFutures x && decide (NewestFirst x f))).length ≤ (after t symbolId f.val.observedAt).length := by
      rw [List.filter_filter, after, ← List.countP_eq_length_filter, ← List.countP_eq_length_filter]
      refine List.countP_mono_left fun x hx hkept => ?_
      simp only [Bool.and_eq_true, Bool.not_eq_true', decide_eq_true_eq] at hkept
      obtain ⟨⟨hoption,hle⟩,hown⟩ := hkept
      exact decide_eq_true ⟨hown,Int.lt_iff_le_and_ne.mpr ⟨hle,(hties x hx hown hoption).symm⟩⟩
    have hperm := (orderBy_perm scan NewestFirst
      (t.rows.filter fun r => decide (r.val.symbolId = symbolId))).filter fun x =>
        !isFutures x && decide (NewestFirst x f)
    obtain ⟨x,hx,hfound⟩ := exists_mem_take hsorted hmem hfutures
      (n := 20) (hperm.length_eq.le.trans_lt (hbefore.trans_lt hfew))
    rw [hnone x hx] at hfound
    cases hfound

/-- A futures row beside one later option leg. -/
def oneLeg : Table OiObservation :=
  insertAll Table.empty 1 ((readingFromFuturesBars "RELIANCE"
    [⟨"NSE_FO|9",⟨20000⟩,⟨0,0⟩,2510,120,8000⟩]).toList ++ (readingsFromChain ⟨47000,0⟩ [strike2500]).take 1)

theorem scoreOi_available_iff_oneLeg : ∃ f ∈ oneLeg.rows,
    ((scoreOi (ScanOrder.insertion _) {} oneLeg 1).status = .available ↔
      (after oneLeg 1 f.val.observedAt).length < 20) :=
  ⟨oneLeg.rows.head (by decide +kernel),List.head_mem _,
    scoreOi_available_iff (List.head_mem _) (by decide +kernel) (by decide +kernel) (by decide +kernel)
      (by decide +kernel)⟩

section Pass
variable {symbols : List Symbol} {replies : Symbol → OiReplies} {symbol : Symbol}
  {chain : List OptionChainSnapshot} {bars : List FuturesOiBar} {moment : DateTime}

theorem leg_of_chain {r : OiReading} (h : r ∈ readingsFromChain moment chain) :
    r.observedAt = moment ∧ r.instrumentType ≠ .futures := by
  obtain ⟨row,-,hr⟩ := List.mem_flatMap.mp h
  simp only [List.mem_append, Option.mem_toList, Option.map_eq_some_iff] at hr
  rcases hr with ⟨leg,-,rfl⟩ | ⟨leg,-,rfl⟩
  · exact ⟨rfl,by simp [reading]⟩
  · exact ⟨rfl,by simp [reading]⟩

theorem written_eq (hchain : (replies symbol).chain = .ok chain) (hbars : (replies symbol).futures = .ok bars)
    (hstored : (replies symbol).stored = .ok ()) :
    OiEngine.written replies symbol = readingsFromChain (replies symbol).now chain ++
      (readingFromFuturesBars symbol.symbol bars).toList := by
  have hreadings : OiEngine.readings symbol (replies symbol) = .ok
      (readingsFromChain (replies symbol).now chain ++ (readingFromFuturesBars symbol.symbol bars).toList) := by
    rw [OiEngine.readings, hchain, hbars]
    rfl
  unfold OiEngine.written OiEngine.outcome
  rw [hreadings, hstored]
  cases readingsFromChain (replies symbol).now chain ++ (readingFromFuturesBars symbol.symbol bars).toList <;> rfl

theorem length_after (t : Table OiObservation) (symbolId : ℕ) (moment : DateTime) :
    (after t symbolId moment).length = (t.rows.map Row.val).countP fun o =>
      decide (o.symbolId = symbolId ∧ moment < o.observedAt) := by
  rw [after, ← List.countP_eq_length_filter, List.countP_map]
  rfl

/-- The futures rows of a symbol after a pass are the old ones and the one of its bars. -/
theorem observedAt_of_pass {r : Row OiObservation} (hsymbols : (symbols.map Symbol.id).Nodup)
    (hsymbol : symbol ∈ symbols) (hwritten : OiEngine.written replies symbol =
      readingsFromChain (replies symbol).now chain ++ (readingFromFuturesBars symbol.symbol bars).toList)
    (hr : r ∈ (OiEngine.run t symbols replies).table.rows) (hown : r.val.symbolId = symbol.id)
    (hfutures : isFutures r = true) :
    (∃ r' ∈ t.rows, r'.val = r.val) ∨ ∃ bar ∈ bars, r.val.observedAt = bar.timestamp := by
  have hval := List.mem_map_of_mem (f := Row.val) hr
  rw [OiEngine.rows_run] at hval
  rcases List.mem_append.mp hval with hold | hnew
  · exact .inl (List.mem_map.mp hold)
  · obtain ⟨symbol',hsymbol',hmem⟩ := List.mem_flatMap.mp hnew
    obtain ⟨reading,hreading,hrow⟩ := List.mem_map.mp hmem
    have hid : symbol'.id = symbol.id := by
      rw [← hown, ← hrow]
      rfl
    obtain rfl := List.inj_on_of_nodup_map hsymbols hsymbol' hsymbol hid
    have hkind : reading.instrumentType = .futures := by
      have hrowkind : r.val.instrumentType = .futures := of_decide_eq_true hfutures
      rwa [← hrow] at hrowkind
    rw [hwritten] at hreading
    rcases List.mem_append.mp hreading with hleg | hbar
    · exact absurd hkind (leg_of_chain hleg).2
    · obtain ⟨latest,hlatest,rfl⟩ := Option.map_eq_some_iff.mp (Option.mem_toList.mp hbar)
      exact .inr ⟨latest,List.mem_of_getLast? hlatest,by rw [← hrow]; rfl⟩

/-- A pass over a symbol whose chain has ten strikes with both legs takes the component away: the legs are
observed now, and the futures bar at its own, earlier timestamp. -/
theorem scoreOi_missing_after_run (hsymbols : (symbols.map Symbol.id).Nodup) (hsymbol : symbol ∈ symbols)
    (hchain : (replies symbol).chain = .ok chain) (hbars : (replies symbol).futures = .ok bars)
    (hstored : (replies symbol).stored = .ok ())
    (hlegs : 20 ≤ (readingsFromChain (replies symbol).now chain).length)
    (hbefore : ∀ bar ∈ bars, bar.timestamp < (replies symbol).now)
    (hold : ∀ r ∈ t.rows, r.val.symbolId = symbol.id → isFutures r = true →
      r.val.observedAt < (replies symbol).now) :
    (scoreOi scan settings (OiEngine.run t symbols replies).table symbol.id).status = .missing := by
  have hwritten := written_eq hchain hbars hstored
  refine missing_of_late fun r hr hown hfutures => ?_
  have hearlier : r.val.observedAt < (replies symbol).now := by
    rcases observedAt_of_pass hsymbols hsymbol hwritten hr hown hfutures with
      ⟨r',hr',hval⟩ | ⟨bar,hbar,hobserved⟩
    · rw [← hval]
      refine hold r' hr' (by rw [hval, hown]) ?_
      rw [isFutures, hval]
      exact hfutures
    · rw [hobserved]
      exact hbefore bar hbar
  rw [length_after, OiEngine.rows_run, List.countP_append]
  have hlegsLater : ∀ o ∈ (readingsFromChain (replies symbol).now chain).map
      (OiObservation.ofReading symbol.id),
      decide (o.symbolId = symbol.id ∧ r.val.observedAt < o.observedAt) = true := by
    intro o ho
    obtain ⟨leg,hleg,rfl⟩ := List.mem_map.mp ho
    have hnow : (OiObservation.ofReading symbol.id leg).observedAt = (replies symbol).now := (leg_of_chain hleg).1
    rw [hnow]
    exact decide_eq_true ⟨rfl,hearlier⟩
  have hsub : ((readingsFromChain (replies symbol).now chain).map
      (OiObservation.ofReading symbol.id)).Sublist (symbols.flatMap fun symbol =>
        (OiEngine.written replies symbol).map (OiObservation.ofReading symbol.id)) := by
    refine List.Sublist.trans ?_ (List.sublist_flatten_of_mem (List.mem_map_of_mem hsymbol))
    rw [hwritten, List.map_append]
    exact List.sublist_append_left _ _
  calc 20 ≤ (readingsFromChain (replies symbol).now chain).length := hlegs
    _ = ((readingsFromChain (replies symbol).now chain).map
        (OiObservation.ofReading symbol.id)).countP
          (fun o => decide (o.symbolId = symbol.id ∧ r.val.observedAt < o.observedAt)) := by
      rw [List.countP_eq_length.mpr hlegsLater, List.length_map]
    _ ≤ _ := hsub.countP_le.trans (Nat.le_add_left _ _)

theorem scoreOi_missing_after_samplePass : (scoreOi (ScanOrder.insertion _) {}
    (OiEngine.run Table.empty samplePass.symbols samplePass.replies).table reliance.id).status = .missing :=
  scoreOi_missing_after_run (by decide) (List.mem_singleton_self reliance) rfl rfl rfl
    (by decide +kernel) (by decide) (by simp)

end Pass
end MarketScanner.Signals
