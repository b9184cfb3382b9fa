import MarketScanner.Features.Entries

/-! The golden and death crosses beside the crossings of the two averages. -/
namespace MarketScanner.Features
open MarketScanner.Library MarketScanner.Python MarketScanner.Market Indicators Series

/-- The number that a column of the trend category holds on a day, where it is defined. -/
def trendValue (df : List DailyPrice) (c : Column) (i : ℕ) : Option ℚ :=
  match ((trendFeatures df).column c)[i]? with
  | some (.num (.finite q)) => some q
  | _ => none

/-- A day on which a flag of the trend category is set. -/
def trendFlag (df : List DailyPrice) (c : Column) (i : ℕ) : Prop :=
  ((trendFeatures df).column c)[i]? = some (.flag true)

/-- Two lines that are both defined on a day and the day before, and how they stood on each. -/
def Crosses (before after : ℚ → ℚ → Prop) (fast slow : ℕ → Option ℚ) (i : ℕ) : Prop :=
  ∃ j f s f' s', i = j+1 ∧ fast j = some f ∧ slow j = some s ∧ fast i = some f' ∧ slow i = some s' ∧
    before f s ∧ after f' s'

/-- The marked crosses of a day are the crossings of the 50-day and the 200-day average: golden where
the fast one was not above the slow one and now is, death where it stood `before` and now `after`. -/
structure RealCrosses (before after : ℚ → ℚ → Prop) (df : List DailyPrice) (i : ℕ) : Prop where
  golden : trendFlag df .goldenCross i ↔
    Crosses (· ≤ ·) (· > ·) (trendValue df .ema50) (trendValue df .ema200) i
  death : trendFlag df .deathCross i ↔
    Crosses before after (trendValue df .ema50) (trendValue df .ema200) i

/-- The exponential mean of the closes up to a day. -/
def meanOfCloses (span : ℕ) (df : List DailyPrice) (i : ℕ) : ℚ :=
  match df with
  | [] => 0
  | p::rest => smooth (2/(span+1)) p.close.toRat ((rest.take i).map fun q => q.close.toRat)

/-- The 200th day, the first with a slow average, when the fast one is above it. -/
def StartsAbove (df : List DailyPrice) (i : ℕ) : Prop :=
  i+1 = 200 ∧ i < df.length ∧ meanOfCloses 200 df i < meanOfCloses 50 df i

/-- A later day that the averages enter or leave equal. -/
def Touches (df : List DailyPrice) (i : ℕ) : Prop :=
  ∃ j, i = j+1 ∧ 200 ≤ j+1 ∧ i < df.length ∧
    (meanOfCloses 50 df j = meanOfCloses 200 df j ∧ meanOfCloses 50 df i < meanOfCloses 200 df i ∨
      meanOfCloses 200 df j < meanOfCloses 50 df j ∧ meanOfCloses 50 df i = meanOfCloses 200 df i)

variable (df : List DailyPrice) {i : ℕ}

theorem getElem?_ema (span : ℕ) (hi : i < df.length) :
    (ema (closes df) span)[i]? =
      some (if span ≤ i+1 then .finite (meanOfCloses span df i) else .nan) := by
  cases df with
  | nil => exact absurd hi (Nat.not_lt_zero i)
  | cons p rest =>
    have hcloses : closes (p::rest) =
        (p.close.toRat::rest.map fun q => q.close.toRat).map PyFloat.finite := by simp [closes]
    have hle : i ≤ (rest.map fun q => q.close.toRat).length := by
      simpa using Nat.le_of_lt_succ hi
    rw [ema, hcloses, getElem?_ewm _ _ _ _ hle, ← List.map_take, meanOfCloses]

theorem length_ema (span : ℕ) : (ema (closes df) span).length = df.length := by
  simp [ema, ewm, closes]

theorem trendValue_ema {c : Column} (span : ℕ)
    (hc : (trendFeatures df).column c = (ema (closes df) span).map Cell.num) (i : ℕ) :
    trendValue df c i =
      if span ≤ i+1 ∧ i < df.length then some (meanOfCloses span df i) else none := by
  rw [trendValue, hc, List.getElem?_map]
  by_cases hi : i < df.length
  · rw [getElem?_ema df span hi]
    by_cases hspan : span ≤ i+1 <;> simp [hspan, hi]
  · rw [List.getElem?_eq_none (by rw [length_ema]; omega)]
    simp [hi]

/-- Both averages are there and the fast one is above. -/
def isAbove (i : ℕ) : Bool :=
  decide (200 ≤ i+1 ∧ meanOfCloses 200 df i < meanOfCloses 50 df i)

/-- The same of the day before, and of none before the first. -/
def wasAbove : ℕ → Bool
  | 0 => false
  | j+1 => isAbove df j

theorem getElem?_above (hi : i < df.length) :
    (gt (ema (closes df) 50) (ema (closes df) 200))[i]? = some (isAbove df i) := by
  rw [List.getElem?_zipWith, getElem?_ema df 50 hi, getElem?_ema df 200 hi, isAbove]
  by_cases hslow : 200 ≤ i+1
  · have hfast : 50 ≤ i+1 := by omega
    simp [hslow, hfast]
  · simp [hslow, PyFloat.lt, PyFloat.le]

theorem getElem?_wasAbove (hi : i < df.length) :
    (Flags.shifted (gt (ema (closes df) 50) (ema (closes df) 200)))[i]? = some (wasAbove df i) := by
  have hlength : i < (gt (ema (closes df) 50) (ema (closes df) 200)).length := by
    simpa [length_ema] using hi
  rw [Flags.shifted, getElem?_shift 1 false _ hlength]
  cases i with
  | zero => rfl
  | succ j => simpa [wasAbove] using getElem?_above df (by omega : j < df.length)

theorem trendFlag_goldenCross (hi : i < df.length) :
    trendFlag df .goldenCross i ↔ isAbove df i = true ∧ wasAbove df i = false := by
  have hcolumn : (trendFeatures df).column .goldenCross =
      (Flags.and (gt (ema (closes df) 50) (ema (closes df) 200))
        (Flags.not (Flags.shifted (gt (ema (closes df) 50) (ema (closes df) 200))))).map
          Cell.flag := rfl
  rw [trendFlag, hcolumn, List.getElem?_map, List.getElem?_zipWith, List.getElem?_map,
    getElem?_above df hi, getElem?_wasAbove df hi]
  simp

theorem trendFlag_deathCross (hi : i < df.length) :
    trendFlag df .deathCross i ↔ isAbove df i = false ∧ wasAbove df i = true := by
  have hcolumn : (trendFeatures df).column .deathCross =
      (Flags.and (Flags.not (gt (ema (closes df) 50) (ema (closes df) 200)))
        (Flags.shifted (gt (ema (closes df) 50) (ema (closes df) 200)))).map Cell.flag := rfl
  rw [trendFlag, hcolumn, List.getElem?_map, List.getElem?_zipWith, List.getElem?_map,
    getElem?_above df hi, getElem?_wasAbove df hi]
  simp

theorem crosses_zero (before after : ℚ → ℚ → Prop) (fast slow : ℕ → Option ℚ) :
    ¬Crosses before after fast slow 0 := by
  rintro ⟨j,f,s,f',s',h,-⟩
  exact absurd h.symm (Nat.succ_ne_zero j)

theorem crosses_succ (before after : ℚ → ℚ → Prop) (j : ℕ) :
    Crosses before after (trendValue df .ema50) (trendValue df .ema200) (j+1) ↔
      200 ≤ j+1 ∧ j+1 < df.length ∧ before (meanOfCloses 50 df j) (meanOfCloses 200 df j) ∧
        after (meanOfCloses 50 df (j+1)) (meanOfCloses 200 df (j+1)) := by
  have hfast := trendValue_ema df (c := .ema50) 50 rfl
  have hslow := trendValue_ema df (c := .ema200) 200 rfl
  constructor
  · rintro ⟨k,f,s,f',s',hk,hf,hs,hf',hs',hbefore,hafter⟩
    obtain rfl : j = k := Nat.succ.inj hk
    rw [hfast, Option.ite_none_right_eq_some] at hf hf'
    rw [hslow, Option.ite_none_right_eq_some] at hs hs'
    obtain ⟨-,hf⟩ := hf
    obtain ⟨⟨hdefined,-⟩,hs⟩ := hs
    obtain ⟨⟨-,hlt⟩,hf'⟩ := hf'
    obtain ⟨-,hs'⟩ := hs'
    obtain rfl := Option.some.inj hf
    obtain rfl := Option.some.inj hs
    obtain rfl := Option.some.inj hf'
    obtain rfl := Option.some.inj hs'
    exact ⟨hdefined,hlt,hbefore,hafter⟩
  · rintro ⟨hdefined,hlt,hbefore,hafter⟩
    refine ⟨j,_,_,_,_,rfl,?_,?_,?_,?_,hbefore,hafter⟩
    · rw [hfast, if_pos (by omega)]
    · rw [hslow, if_pos (by omega)]
    · rw [hfast, if_pos (by omega)]
    · rw [hslow, if_pos (by omega)]

theorem not_trendFlag {c : Column} (hlength : ((trendFeatures df).column c).length = df.length)
    (hi : ¬i < df.length) : ¬trendFlag df c i := by
  rw [trendFlag, List.getElem?_eq_none (by omega)]
  exact fun h => by cases h

theorem length_goldenCross : ((trendFeatures df).column .goldenCross).length = df.length := by
  have hcolumn : (trendFeatures df).column .goldenCross =
      (Flags.and (gt (ema (closes df) 50) (ema (closes df) 200))
        (Flags.not (Flags.shifted (gt (ema (closes df) 50) (ema (closes df) 200))))).map
          Cell.flag := rfl
  simp [hcolumn, length_ema]

theorem length_deathCross : ((trendFeatures df).column .deathCross).length = df.length := by
  have hcolumn : (trendFeatures df).column .deathCross =
      (Flags.and (Flags.not (gt (ema (closes df) 50) (ema (closes df) 200)))
        (Flags.shifted (gt (ema (closes df) 50) (ema (closes df) 200)))).map Cell.flag := rfl
  simp [hcolumn, length_ema]

theorem isAbove_iff {i : ℕ} :
    isAbove df i = true ↔ 200 ≤ i+1 ∧ meanOfCloses 200 df i < meanOfCloses 50 df i :=
  decide_eq_true_iff

theorem isAbove_eq_false {i : ℕ} :
    isAbove df i = false ↔ (200 ≤ i+1 → meanOfCloses 50 df i ≤ meanOfCloses 200 df i) := by
  rw [isAbove, decide_eq_false_iff_not, not_and, not_lt]

/-- A golden cross is a real one unless it is marked on the first day with a slow average. -/
theorem goldenCross_iff (i : ℕ) :
    (trendFlag df .goldenCross i ↔
      Crosses (· ≤ ·) (· > ·) (trendValue df .ema50) (trendValue df .ema200) i) ↔
      ¬StartsAbove df i := by
  cases i with
  | zero =>
    have hflag : ¬trendFlag df .goldenCross 0 := by
      by_cases hi : 0 < df.length
      · rw [trendFlag_goldenCross df hi, isAbove_iff]
        omega
      · exact not_trendFlag df (length_goldenCross df) hi
    exact iff_of_true (iff_of_false hflag (crosses_zero _ _ _ _)) (by simp [StartsAbove])
  | succ j =>
    rw [crosses_succ]
    by_cases hi : j+1 < df.length
    · rw [trendFlag_goldenCross df hi, isAbove_iff, wasAbove, isAbove_eq_false, StartsAbove]
      grind
    · have hflag := not_trendFlag df (length_goldenCross df) hi
      exact iff_of_true (iff_of_false hflag fun h => hi h.2.1) fun h => hi h.2.1

/-- A death cross is marked where the fast average leaves the upper side. -/
theorem deathCross_iff (i : ℕ) :
    trendFlag df .deathCross i ↔
      Crosses (· > ·) (· ≤ ·) (trendValue df .ema50) (trendValue df .ema200) i := by
  cases i with
  | zero =>
    have hflag : ¬trendFlag df .deathCross 0 := by
      by_cases hi : 0 < df.length
      · rw [trendFlag_deathCross df hi]
        exact fun h => Bool.false_ne_true h.2
      · exact not_trendFlag df (length_deathCross df) hi
    exact iff_of_false hflag (crosses_zero _ _ _ _)
  | succ j =>
    rw [crosses_succ]
    by_cases hi : j+1 < df.length
    · rw [trendFlag_deathCross df hi, wasAbove, isAbove_iff, isAbove_eq_false]
      grind
    · exact iff_of_false (not_trendFlag df (length_deathCross df) hi) fun h => hi h.2.1

/-- Read as the golden cross with the averages exchanged, it differs where they touch. -/
theorem deathCross_exchanged_iff (i : ℕ) :
    (trendFlag df .deathCross i ↔
      Crosses (· ≥ ·) (· < ·) (trendValue df .ema50) (trendValue df .ema200) i) ↔
      ¬Touches df i := by
  rw [deathCross_iff]
  cases i with
  | zero =>
    have hneither : ∀ before after,
        ¬Crosses before after (trendValue df .ema50) (trendValue df .ema200) 0 :=
      fun before after => crosses_zero before after _ _
    simp [hneither, Touches]
  | succ j =>
    have htouches : Touches df (j+1) ↔ 200 ≤ j+1 ∧ j+1 < df.length ∧
        (meanOfCloses 50 df j = meanOfCloses 200 df j ∧
            meanOfCloses 50 df (j+1) < meanOfCloses 200 df (j+1) ∨
          meanOfCloses 200 df j < meanOfCloses 50 df j ∧
            meanOfCloses 50 df (j+1) = meanOfCloses 200 df (j+1)) := by
      simp [Touches]
    rw [crosses_succ, crosses_succ, htouches]
    grind

/-- The first day with a slow average is taken for a crossing from below when the fast one is above
it; every other mark is right. A death cross that is read with `≥` before and `<` after is moreover
wrong on the days on which the averages touch. -/
theorem realCrosses_iff (i : ℕ) :
    (RealCrosses (· > ·) (· ≤ ·) df i ↔ ¬StartsAbove df i) ∧
      (RealCrosses (· ≥ ·) (· < ·) df i ↔ ¬StartsAbove df i ∧ ¬Touches df i) := by
  rw [← goldenCross_iff, ← deathCross_exchanged_iff]
  constructor
  · constructor
    · exact fun h => h.golden
    · exact fun h => ⟨h,deathCross_iff df i⟩
  · constructor
    · exact fun h => ⟨h.golden,h.death⟩
    · exact fun h => ⟨h.1,h.2⟩

/-- 200 days, the first at 100 and all others at 200. -/
def stepUp : List DailyPrice :=
  barAt 0 1000000::(List.range 199).map fun (day : ℕ) => barAt (day+1) 2000000

/-- The price has not moved since the second day, and the 200th is marked a golden cross. -/
theorem stepUp_golden_not_real :
    ¬∃ before after : ℚ → ℚ → Prop, ∀ df i, RealCrosses before after df i := by
  rintro ⟨before,after,h⟩
  have hlength : stepUp.length = 200 := by
    rw [stepUp, List.length_cons, List.length_map, List.length_range]
  have hmarked : trendFlag stepUp .goldenCross 199 := by
    rw [trendFlag_goldenCross stepUp (by omega)]
    decide +kernel
  obtain ⟨hdefined,-⟩ := (crosses_succ stepUp _ _ 198).mp ((h stepUp 199).golden.mp hmarked)
  omega

end MarketScanner.Features
