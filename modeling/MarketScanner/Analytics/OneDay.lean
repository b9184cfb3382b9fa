import MarketScanner.Analytics.Breadth
import MarketScanner.Library.Loop
import Mathlib.Data.List.ReduceOption

/-! Whether a breadth snapshot describes the day it is dated. The bulk reads rank the bars of each symbol
alone, so a symbol that has stopped is counted with its last bar unless every read is silent on it. -/
namespace MarketScanner.Analytics
open MarketScanner.Library MarketScanner.Python MarketScanner.Market MarketScanner.Features
open MarketScanner.Candidates MarketScanner.Scanner
open PyDecimal (rounded)

/-! ### Percentages -/

theorem pct_of_pos {n d : ℤ} (h : 0 < d) : pct n d = some (rounded ((n : ℚ)/d)*100) := by
  rw [pct, if_neg (not_le.mpr h)]
  exact congrArg some
    (PyDecimal.rounded_of_representable (PyDecimal.representable_rounded _).mul_hundred)

/-- A percentage is on the scale when the part is not negative and exceeds the whole by no more than
what is rounded off. -/
theorem pct_mem_iff {n d : ℤ} : (∀ p ∈ pct n d, 0 ≤ p ∧ p ≤ 100) ↔
    (0 < d → 0 ≤ n ∧ (n : ℚ)/d ≤ 1+1/(2*10^27)) := by
  by_cases hd : 0 < d
  · have hq : (0 : ℚ) < d := by exact_mod_cast hd
    have hnonneg : 0 ≤ (n : ℚ)/d ↔ 0 ≤ n := by
      rw [le_div_iff₀ hq, zero_mul]
      exact_mod_cast Iff.rfl
    rw [pct_of_pos hd, ← hnonneg, ← PyDecimal.rounded_nonneg_iff, ← PyDecimal.rounded_le_one_iff]
    simp only [Option.mem_def, Option.some.injEq, forall_eq', hd, true_imp_iff]
    constructor
    · rintro ⟨hlow,hhigh⟩
      exact ⟨by linarith,by linarith⟩
    · rintro ⟨hlow,hhigh⟩
      exact ⟨by linarith,by linarith⟩
  · rw [pct, if_pos (not_lt.mp hd)]
    simp [hd]

theorem pct_mem {n d : ℤ} (hn : 0 ≤ n) (hnd : n ≤ d) : ∀ p ∈ pct n d, 0 ≤ p ∧ p ≤ 100 := by
  rw [pct_mem_iff]
  intro hd
  refine ⟨hn,?_⟩
  have hq : (0 : ℚ) < d := by exact_mod_cast hd
  have hone : (n : ℚ)/d ≤ 1 := (div_le_one hq).mpr (by exact_mod_cast hnd)
  have hunit : (0 : ℚ) < 1/(2*10^27) := by norm_num
  linarith

theorem newHighsLowsNet_mem (highs lows symbols : ℕ) :
    ∀ p ∈ newHighsLowsNet highs lows symbols, 0 ≤ p ∧ p ≤ 100 := by
  intro p hp
  unfold newHighsLowsNet at hp
  split at hp
  · cases hp
  · obtain rfl := Option.some.inj hp
    generalize rounded ((((highs : ℤ)-lows : ℤ) : ℚ)/symbols) = ratio
    have hlow : -1 ≤ max (-1) (min 1 ratio) := le_max_left _ _
    have hhigh : max (-1) (min 1 ratio) ≤ 1 := max_le (by norm_num) (min_le_left _ _)
    generalize max (-1) (min 1 ratio) = net at hlow hhigh
    -- Each step stays between whole numbers, which rounding does not pass.
    have hint : ∀ n : ℤ, |n| ≤ 10^28 → PyDecimal.Representable n :=
      fun n hn => PyDecimal.representable_intCast hn
    have hscaled : -50 ≤ rounded (net*50) ∧ rounded (net*50) ≤ 50 := by
      have hlower := PyDecimal.le_rounded (q := net*50) (hint (-50) (by norm_num))
        (by push_cast; linarith)
      have hupper := PyDecimal.rounded_le (q := net*50) (hint 50 (by norm_num))
        (by push_cast; linarith)
      push_cast at hlower hupper
      exact ⟨hlower,hupper⟩
    have hlower := PyDecimal.le_rounded (q := 50+rounded (net*50)) (hint 0 (by norm_num))
      (by push_cast; linarith)
    have hupper := PyDecimal.rounded_le (q := 50+rounded (net*50)) (hint 100 (by norm_num))
      (by push_cast; linarith)
    push_cast at hlower hupper
    exact ⟨hlower,hupper⟩

/-! ### The counts of the loop -/

/-- The symbols that advanced, declined or stayed. -/
def MoveCount.moved (count : MoveCount) : ℕ := count.advancing+count.declining+count.unchanged

/-- The volume of a bar that closed higher than the one before. -/
def risenVolume (today : DailyPrice) (prior : Option DailyPrice) : ℤ :=
  prior.elim 0 fun prior => if prior.close.units < today.close.units then today.volume else 0

def fallenVolume (today : DailyPrice) (prior : Option DailyPrice) : ℤ :=
  prior.elim 0 fun prior => if today.close.units < prior.close.units then today.volume else 0

theorem MoveCount.moved_add (count : MoveCount) (today : DailyPrice) (prior : Option DailyPrice) :
    (count.add today prior).moved = count.moved+if prior.isSome then 1 else 0 := by
  cases prior with
  | none => rfl
  | some prior =>
    rw [Option.isSome_some, if_pos rfl, add]
    split_ifs with hup hdown
    · simp only [moved]
      omega
    · simp only [moved]
      omega
    · simp only [moved]
      omega

theorem MoveCount.upVolume_add (count : MoveCount) (today : DailyPrice)
    (prior : Option DailyPrice) :
    (count.add today prior).upVolume = count.upVolume+risenVolume today prior := by
  cases prior with
  | none => simp [add, risenVolume]
  | some prior =>
    simp only [add, risenVolume, Option.elim_some]
    split_ifs <;> simp

theorem MoveCount.downVolume_add (count : MoveCount) (today : DailyPrice)
    (prior : Option DailyPrice) :
    (count.add today prior).downVolume = count.downVolume+fallenVolume today prior := by
  cases prior with
  | none => simp [add, fallenVolume]
  | some prior =>
    simp only [add, fallenVolume, Option.elim_some]
    split_ifs with hup hdown
    · omega
    · simp
    · simp
    · simp

theorem EmaCount.above_add {count : EmaCount} (h : count.above ≤ count.symbolsWith)
    (today : DailyPrice) (ema : Option ℚ) :
    (count.add today ema).above ≤ (count.add today ema).symbolsWith := by
  cases ema with
  | none => exact h
  | some ema =>
    simp only [add]
    split_ifs <;> omega

theorem EmaCount.eq_none_of_add {count : EmaCount} {today : DailyPrice} {ema : Option ℚ}
    (h : count.add today ema = count) : ema = none := by
  cases ema with
  | none => rfl
  | some ema =>
    have hwith := congrArg EmaCount.symbolsWith h
    simp only [add] at hwith
    omega

theorem MoveCount.eq_none_of_add {count : MoveCount} {today : DailyPrice}
    {prior : Option DailyPrice} (h : count.add today prior = count) : prior = none := by
  cases prior with
  | none => rfl
  | some prior =>
    have hmoved := congrArg moved h
    rw [moved_add, Option.isSome_some, if_pos rfl] at hmoved
    omega

/-- The newest of some dates is one of them, and none is newer. -/
theorem foldl_newerDate (dates : List Date) (d : Date) :
    ∃ newest, dates.foldl newerDate (some d) = some newest ∧ (newest = d ∨ newest ∈ dates) ∧
      d ≤ newest ∧ ∀ date ∈ dates, date ≤ newest := by
  induction dates generalizing d with
  | nil => exact ⟨d,rfl,Or.inl rfl,Int.le_refl _,by simp⟩
  | cons date dates ih =>
    rw [List.foldl_cons, newerDate]
    split
    · rename_i hlt
      obtain ⟨newest,hfold,hmem,hle,hall⟩ := ih date
      refine ⟨newest,hfold,Or.inr ?_,?_,List.forall_mem_cons.mpr ⟨hle,hall⟩⟩
      · rcases hmem with rfl | hmem
        · exact List.mem_cons_self
        · exact List.mem_cons_of_mem _ hmem
      · exact Int.le_trans (Int.le_of_lt hlt) hle
    · rename_i hge
      obtain ⟨newest,hfold,hmem,hle,hall⟩ := ih d
      refine ⟨newest,hfold,hmem.imp_right (List.mem_cons_of_mem _),hle,
        List.forall_mem_cons.mpr ⟨?_,hall⟩⟩
      exact Int.le_trans (Int.not_lt.mp hge) hle

namespace BreadthView
variable {w : BreadthView}

theorem bar_zero_of_bar_one {k : ℕ} (h : (w.bar k 1).isSome = true) :
    ∃ today, w.bar k 0 = some today := by
  unfold bar at h ⊢
  cases hbars : (w.prices.history k).reverse with
  | nil => simp [hbars] at h
  | cons today rest => exact ⟨today,rfl⟩

/-- What the loop adds up over the latest bars, it adds up over the symbols. -/
theorem tally_of_additive {M : Type} [AddCommMonoid M] (obs : Tally → M)
    (weight : DailyPrice → Option DailyPrice → M)
    (h : ∀ t, ∀ entry ∈ w.todayPrices.items,
      obs (w.count t entry) = obs t+weight entry.2.val (w.bar entry.1 1)) :
    obs w.tally = obs {}+
      (w.symbolIds.map fun k => (w.bar k 0).elim 0 fun today => weight today (w.bar k 1)).sum := by
  rw [tally, foldl_of_additive obs (fun entry => weight entry.2.val (w.bar entry.1 1)) h,
    sum_todayPrices fun k today => weight today (w.bar k 1)]

/-- A symbol is counted as moved once it has two bars. -/
theorem moved_tally (w : BreadthView) :
    w.tally.moves.moved = (w.symbolIds.filter fun k => (w.bar k 1).isSome).length := by
  have hsum := tally_of_additive (w := w) (fun t => t.moves.moved)
    (fun _ prior => if prior.isSome then 1 else 0) (by
      intro t entry hentry
      rw [← map_priorPrices (mem_todayPrices hentry).1]
      exact MoveCount.moved_add _ _ _)
  rw [hsum, sum_map_eq_length_filter (p := fun k => (w.bar k 1).isSome)]
  · exact Nat.zero_add _
  · intro k _
    cases hprior : (w.bar k 1).isSome with
    | false => cases w.bar k 0 <;> rfl
    | true =>
      obtain ⟨today,htoday⟩ := bar_zero_of_bar_one hprior
      rw [htoday]
      rfl

/-- The volume of the symbols that closed higher. -/
def risen (w : BreadthView) : ℤ :=
  (w.symbolIds.map fun k => (w.bar k 0).elim 0 fun today => risenVolume today (w.bar k 1)).sum

def fallen (w : BreadthView) : ℤ :=
  (w.symbolIds.map fun k => (w.bar k 0).elim 0 fun today => fallenVolume today (w.bar k 1)).sum

theorem upVolume_tally (w : BreadthView) : w.tally.moves.upVolume = w.risen := by
  have hsum := tally_of_additive (w := w) (fun t => t.moves.upVolume) risenVolume (by
    intro t entry hentry
    rw [← map_priorPrices (mem_todayPrices hentry).1]
    exact MoveCount.upVolume_add _ _ _)
  rw [hsum]
  exact Int.zero_add _

theorem downVolume_tally (w : BreadthView) : w.tally.moves.downVolume = w.fallen := by
  have hsum := tally_of_additive (w := w) (fun t => t.moves.downVolume) fallenVolume (by
    intro t entry hentry
    rw [← map_priorPrices (mem_todayPrices hentry).1]
    exact MoveCount.downVolume_add _ _ _)
  rw [hsum]
  exact Int.zero_add _

/-- No more symbols are above an average than have it. -/
theorem above_tally (w : BreadthView) :
    w.tally.ema20.above ≤ w.tally.ema20.symbolsWith ∧
      w.tally.ema50.above ≤ w.tally.ema50.symbolsWith ∧
      w.tally.ema200.above ≤ w.tally.ema200.symbolsWith := by
  unfold tally
  refine List.foldlRecOn (motive := fun t : Tally => t.ema20.above ≤ t.ema20.symbolsWith ∧
    t.ema50.above ≤ t.ema50.symbolsWith ∧ t.ema200.above ≤ t.ema200.symbolsWith) _ _
    ⟨Nat.le_refl _,Nat.le_refl _,Nat.le_refl _⟩ ?_
  rintro t ⟨h20,h50,h200⟩ entry -
  exact ⟨EmaCount.above_add h20 _ _,EmaCount.above_add h50 _ _,EmaCount.above_add h200 _ _⟩

/-- The snapshot is dated by the newest of the latest bars. -/
theorem asOf_spec {k : ℕ} (hk : k ∈ w.symbolIds) {today : DailyPrice}
    (htoday : w.bar k 0 = some today) :
    today.date ≤ (computeMarketBreadth w).asOf ∧
      ∃ k' ∈ w.symbolIds, ∃ newest, w.bar k' 0 = some newest ∧
        newest.date = (computeMarketBreadth w).asOf := by
  have hasOf : w.tally.asOf =
      (w.todayPrices.items.map fun entry => entry.2.val.date).foldl newerDate none := by
    rw [tally, List.foldl_map]
    exact (List.foldl_hom Tally.asOf fun _ _ => rfl).symm
  obtain ⟨r,hr,rfl⟩ := exists_mem_todayPrices hk htoday
  have hdate : r.val.date ∈ w.todayPrices.items.map fun entry => entry.2.val.date :=
    List.mem_map.mpr ⟨(k,r),hr,rfl⟩
  have hnewest : ∃ newest ∈ w.todayPrices.items.map fun entry => entry.2.val.date,
      w.tally.asOf = some newest ∧ r.val.date ≤ newest := by
    rw [hasOf]
    cases hdates : w.todayPrices.items.map fun entry => entry.2.val.date with
    | nil =>
      rw [hdates] at hdate
      cases hdate
    | cons d dates =>
      rw [hdates] at hdate
      obtain ⟨newest,hfold,hmem,hle,hall⟩ := foldl_newerDate dates d
      refine ⟨newest,List.mem_cons.mpr hmem,hfold,?_⟩
      rcases List.mem_cons.mp hdate with heq | hold
      · rw [heq]
        exact hle
      · exact hall _ hold
  obtain ⟨newest,hmem,hsome,hle⟩ := hnewest
  have hsnapshot : (computeMarketBreadth w).asOf = newest := by
    rw [computeMarketBreadth, hsome, Option.getD_some]
  obtain ⟨entry,hentry,rfl⟩ := List.mem_map.mp hmem
  obtain ⟨hk',hbar⟩ := mem_todayPrices hentry
  rw [hsnapshot]
  exact ⟨hle,entry.1,hk',entry.2.val,hbar,rfl⟩

/-! ### One day -/

/-- The symbol is counted: alone it leaves a count in the tally, or it is among the symbols with a
52-week range. -/
def Contributes (w : BreadthView) (entry : ℕ × Row DailyPrice) : Prop :=
  w.count {} entry ≠ { asOf := some entry.2.val.date } ∨ (w.ranges52wk.get? entry.1).isSome

/-- The symbol's latest bar is older than another one's. -/
def Stopped (w : BreadthView) (k : ℕ) : Prop :=
  ∃ today, w.bar k 0 = some today ∧
    ∃ k' ∈ w.symbolIds, ∃ newer, w.bar k' 0 = some newer ∧ today.date < newer.date

/-- No read tells of the symbol but for its latest bar: there is no bar before it, no moving average in
the latest features, no bar in the 52-week window. -/
structure Silent (w : BreadthView) (k : ℕ) : Prop where
  prior : w.bar k 1 = none
  emas : ∀ c ∈ [Column.ema20,.ema50,.ema200], w.emaOf k c = none
  window : ∀ bar ∈ w.prices.history k, bar.date.day < w.windowDay.day-365

theorem get52WeekHighLow_eq_none_iff {day : Date} {bars : List DailyPrice} :
    IpoIntradayScanner.get52WeekHighLow day bars = none ↔
      ∀ bar ∈ bars, bar.date.day < day.day-365 := by
  unfold IpoIntradayScanner.get52WeekHighLow
  have hnil : (bars.filter fun bar => decide (day.day-365 ≤ bar.date.day)) = [] ↔
      ∀ bar ∈ bars, bar.date.day < day.day-365 := by
    simp only [List.filter_eq_nil_iff, decide_eq_true_eq, not_le]
  rw [← hnil]
  cases bars.filter fun bar => decide (day.day-365 ≤ bar.date.day) with
  | nil => simp
  | cons bar rest => simp

/-- A silent symbol leaves every count as it is. -/
theorem count_of_silent {entry : ℕ × Row DailyPrice} (hk : entry.1 ∈ w.symbolIds)
    (h : w.Silent entry.1) (t : Tally) :
    w.count t entry = { t with asOf := newerDate t.asOf entry.2.val.date } := by
  have h20 := h.emas .ema20 (by simp)
  have h50 := h.emas .ema50 (by simp)
  have h200 := h.emas .ema200 (by simp)
  have hrange := (get?_ranges52wk hk).trans (get52WeekHighLow_eq_none_iff.mpr h.window)
  unfold count
  rw [map_priorPrices hk, h.prior, h20, h50, h200, hrange]
  rfl

/-- The symbols that are not counted are the silent ones. -/
theorem contributes_iff {entry : ℕ × Row DailyPrice} (hk : entry.1 ∈ w.symbolIds) :
    w.Contributes entry ↔ ¬ w.Silent entry.1 := by
  have hrange := get?_ranges52wk hk
  constructor
  · rintro (hcount | hsome) hsilent
    · exact hcount (count_of_silent hk hsilent {})
    · rw [hrange, get52WeekHighLow_eq_none_iff.mpr hsilent.window] at hsome
      cases hsome
  · intro hsilent
    by_contra hnone
    unfold Contributes at hnone
    rw [not_or, not_not, hrange, Option.not_isSome_iff_eq_none, get52WeekHighLow_eq_none_iff]
      at hnone
    obtain ⟨hcount,hwindow⟩ := hnone
    refine hsilent ⟨?_,?_,hwindow⟩
    · rw [← map_priorPrices hk]
      exact MoveCount.eq_none_of_add (congrArg Tally.moves hcount)
    · simp only [List.forall_mem_cons, List.not_mem_nil, false_imp_iff, implies_true, and_true]
      exact ⟨EmaCount.eq_none_of_add (congrArg Tally.ema20 hcount),
        EmaCount.eq_none_of_add (congrArg Tally.ema50 hcount),
        EmaCount.eq_none_of_add (congrArg Tally.ema200 hcount)⟩

end BreadthView

/-- The percentages that a snapshot reports. -/
def MarketBreadthSnapshot.percentages (s : MarketBreadthSnapshot) : List ℚ :=
  [s.advanceDeclinePct,s.upDownVolumePct,s.pctAboveEma20,s.pctAboveEma50,s.pctAboveEma200,
    s.newHighsLowsNetPct,s.pctAboveVwap].reduceOption

/-- A snapshot describes one day: what is counted has its latest bar then, all that has a bar before it
is counted as moved, and the percentages are percentages. -/
structure OneDay (w : BreadthView) : Prop where
  current : ∀ entry ∈ w.todayPrices.items, w.Contributes entry →
    entry.2.val.date = (computeMarketBreadth w).asOf
  moved : (computeMarketBreadth w).advancing+(computeMarketBreadth w).declining+
      (computeMarketBreadth w).unchanged =
    (w.symbolIds.filter fun k =>
      (w.bar k 0).any (fun today => decide (today.date = (computeMarketBreadth w).asOf)) &&
        (w.bar k 1).isSome).length
  percentages : ∀ p ∈ (computeMarketBreadth w).percentages, 0 ≤ p ∧ p ≤ 100

namespace BreadthView
variable {w : BreadthView}

theorem stopped_iff {k : ℕ} (hk : k ∈ w.symbolIds) {today : DailyPrice}
    (htoday : w.bar k 0 = some today) :
    w.Stopped k ↔ today.date ≠ (computeMarketBreadth w).asOf := by
  obtain ⟨hle,k',hk',newest,hnewest,hdate⟩ := asOf_spec hk htoday
  constructor
  · rintro ⟨today',htoday',k'',hk'',newer,hnewer,hlt⟩ heq
    obtain rfl := Option.some.inj (htoday.symm.trans htoday')
    obtain ⟨hle',-⟩ := asOf_spec hk'' hnewer
    rw [heq] at hlt
    exact absurd hle' (Int.not_le.mpr hlt)
  · intro hne
    refine ⟨today,htoday,k',hk',newest,hnewest,?_⟩
    have hday : today.date.day ≠ (computeMarketBreadth w).asOf.day :=
      fun hday => hne (congrArg Date.mk hday)
    rw [hdate, Date.lt_iff]
    rw [Date.le_iff] at hle
    omega

theorem current_iff (w : BreadthView) :
    (∀ entry ∈ w.todayPrices.items, w.Contributes entry →
      entry.2.val.date = (computeMarketBreadth w).asOf) ↔
        ∀ k ∈ w.symbolIds, w.Stopped k → w.Silent k := by
  constructor
  · intro h k hk hstopped
    obtain ⟨today,htoday,-⟩ := id hstopped
    obtain ⟨r,hr,rfl⟩ := exists_mem_todayPrices hk htoday
    by_contra hsilent
    exact (stopped_iff hk htoday).mp hstopped (h (k,r) hr ((contributes_iff hk).mpr hsilent))
  · intro h entry hentry hcontributes
    obtain ⟨hk,htoday⟩ := mem_todayPrices hentry
    by_contra hne
    exact (contributes_iff hk).mp hcontributes (h entry.1 hk ((stopped_iff hk htoday).mpr hne))

/-- Once no stopped symbol has a second bar, the symbols that moved are those of the day. -/
theorem moved_of_silent (h : ∀ k ∈ w.symbolIds, w.Stopped k → w.Silent k) :
    w.tally.moves.moved = (w.symbolIds.filter fun k =>
      (w.bar k 0).any (fun today => decide (today.date = (computeMarketBreadth w).asOf)) &&
        (w.bar k 1).isSome).length := by
  rw [moved_tally]
  congr 1
  apply List.filter_congr
  intro k hk
  cases hprior : (w.bar k 1).isSome with
  | false => rw [Bool.and_false]
  | true =>
    obtain ⟨today,htoday⟩ := bar_zero_of_bar_one hprior
    have hdate : today.date = (computeMarketBreadth w).asOf := by
      by_contra hne
      have hsilent := h k hk ((stopped_iff hk htoday).mpr hne)
      rw [hsilent.prior] at hprior
      cases hprior
    rw [htoday, Option.any_some, hdate, decide_eq_true rfl, Bool.and_true]

theorem percentages_iff (w : BreadthView) :
    (∀ p ∈ (computeMarketBreadth w).percentages, 0 ≤ p ∧ p ≤ 100) ↔
      (0 < w.risen+w.fallen →
        0 ≤ w.risen ∧ (w.risen : ℚ)/(w.risen+w.fallen : ℤ) ≤ 1+1/(2*10^27)) := by
  obtain ⟨h20,h50,h200⟩ := above_tally w
  have hmembers : ∀ p, p ∈ (computeMarketBreadth w).percentages ↔
      p ∈ (computeMarketBreadth w).advanceDeclinePct ∨ p ∈ (computeMarketBreadth w).upDownVolumePct ∨
        p ∈ (computeMarketBreadth w).pctAboveEma20 ∨ p ∈ (computeMarketBreadth w).pctAboveEma50 ∨
        p ∈ (computeMarketBreadth w).pctAboveEma200 ∨
        p ∈ (computeMarketBreadth w).newHighsLowsNetPct := by
    intro p
    have hvwap : (computeMarketBreadth w).pctAboveVwap = none := rfl
    rw [MarketBreadthSnapshot.percentages, List.reduceOption_mem_iff, hvwap]
    simp only [List.mem_cons, List.not_mem_nil, or_false, Option.mem_def, reduceCtorEq,
      eq_comm (a := some p)]
  rw [← pct_mem_iff]
  constructor
  · intro h p hp
    refine h p ((hmembers p).mpr (Or.inr (Or.inl ?_)))
    rw [computeMarketBreadth, upVolume_tally, downVolume_tally]
    exact hp
  · intro h p hp
    rcases (hmembers p).mp hp with hp | hp | hp | hp | hp | hp
    · exact pct_mem (by omega) (by omega) p hp
    · rw [computeMarketBreadth, upVolume_tally, downVolume_tally] at hp
      exact h p hp
    · exact pct_mem (by omega) (by exact_mod_cast h20) p hp
    · exact pct_mem (by omega) (by exact_mod_cast h50) p hp
    · exact pct_mem (by omega) (by exact_mod_cast h200) p hp
    · exact newHighsLowsNet_mem _ _ _ p hp

/-- The volume of the percentages is in order where no bar's volume is negative. -/
theorem risen_part_of_nonneg (h : ∀ k bar, w.bar k 0 = some bar → 0 ≤ bar.volume)
    (hpos : 0 < w.risen+w.fallen) :
    0 ≤ w.risen ∧ (w.risen : ℚ)/(w.risen+w.fallen : ℤ) ≤ 1+1/(2*10^27) := by
  have hsum : ∀ weight : DailyPrice → Option DailyPrice → ℤ,
      (∀ today prior, 0 ≤ today.volume → 0 ≤ weight today prior) →
        0 ≤ (w.symbolIds.map fun k =>
          (w.bar k 0).elim 0 fun today => weight today (w.bar k 1)).sum := by
    intro weight hweight
    apply List.sum_nonneg
    intro x hx
    obtain ⟨k,-,rfl⟩ := List.mem_map.mp hx
    cases htoday : w.bar k 0 with
    | none => exact Int.le_refl 0
    | some today => exact hweight today _ (h k today htoday)
  have hrisen : 0 ≤ w.risen := by
    apply hsum
    rintro today (_ | prior) hvolume
    · exact Int.le_refl 0
    · simp only [risenVolume, Option.elim_some]
      split <;> omega
  have hfallen : 0 ≤ w.fallen := by
    apply hsum
    rintro today (_ | prior) hvolume
    · exact Int.le_refl 0
    · simp only [fallenVolume, Option.elim_some]
      split <;> omega
  refine ⟨hrisen,?_⟩
  have hq : (0 : ℚ) < (w.risen+w.fallen : ℤ) := by exact_mod_cast hpos
  have hone : (w.risen : ℚ)/(w.risen+w.fallen : ℤ) ≤ 1 :=
    (div_le_one hq).mpr (by exact_mod_cast (by omega : w.risen ≤ w.risen+w.fallen))
  have hunit : (0 : ℚ) < 1/(2*10^27) := by norm_num
  linarith

end BreadthView

/-- A snapshot describes one day just when every symbol that stopped before it is silent and the volume
of the symbols that closed higher is a part of the volume that moved. -/
theorem oneDay_iff (w : BreadthView) : OneDay w ↔
    (∀ k ∈ w.symbolIds, w.Stopped k → w.Silent k) ∧
      (0 < w.risen+w.fallen →
        0 ≤ w.risen ∧ (w.risen : ℚ)/(w.risen+w.fallen : ℤ) ≤ 1+1/(2*10^27)) := by
  rw [← w.current_iff, ← w.percentages_iff]
  constructor
  · intro h
    exact ⟨h.current,h.percentages⟩
  · rintro ⟨hcurrent,hpercentages⟩
    exact ⟨hcurrent,BreadthView.moved_of_silent (w.current_iff.mp hcurrent),hpercentages⟩

/-- Two symbols with two bars each; the second stopped nine days before the first. -/
def stoppedSymbol : BreadthView where
  symbolScan := ScanOrder.insertion _
  scans := ViewScans.insertion
  symbols := (Table.empty.insert ⟨"RELIANCE","NSE","2885",none,none,none,none,true⟩).insert
    ⟨"TCS","NSE","11536",none,none,none,none,true⟩
  prices := [(1,20009,13700000),(1,20010,13750000),(2,20000,31000000),(2,20001,31500000)].foldl
    (fun t (k,day,close) =>
      t.put ⟨k,⟨day⟩,⟨close⟩,⟨close⟩,⟨close⟩,⟨close⟩,100000,none⟩) Stamped.empty
  features := Stamped.empty
  sessionFeatures := Stamped.empty
  windowDay := ⟨20010⟩
  today := ⟨20010⟩
  utcNow := ⟨0,0⟩

/-- Two symbols advanced, and one has a bar of the day. -/
theorem stoppedSymbol_not_oneDay : ¬ OneDay stoppedSymbol :=
  fun h => absurd h.moved (by decide +kernel)

end MarketScanner.Analytics
