import MarketScanner.Features.Entries
import MarketScanner.Library.Streaks
import MarketScanner.Python.Decimals

/-! `base_length_days` beside the run of consolidation days that it is meant to count. -/
namespace MarketScanner.Features
open MarketScanner.Library MarketScanner.Python MarketScanner.Market Series

/-- The `is_consolidation` column. -/
def isConsolidation (df : List DailyPrice) : Flags :=
  below (rollingRangePct (highs df) (lows df) (closes df) 10) 8

theorem column_isConsolidation [FloatMath] (df : List DailyPrice) :
    (structureFeatures df).column .isConsolidation = (isConsolidation df).map Cell.flag := rfl

/-- The consecutive consolidation days up to a day. -/
def consolidationRun (df : List DailyPrice) (i : ℕ) : ℕ := streak ((isConsolidation df).take (i+1))

/-- `base_length_days` on a day is the length of the run of consolidation days that ends there. -/
def BaseLengthIsRun [FloatMath] (df : List DailyPrice) (i : ℕ) : Prop :=
  ((structureFeatures df).column .baseLengthDays)[i]? = some (.int (consolidationRun df i))

/-- A range in percent of a close, as doubles give it. -/
def rangePct (highest lowest close : ℚ) : ℚ :=
  roundDouble (roundDouble (roundDouble (highest-lowest)/close)*100)

/-- Ten bars up to a day lie within less than 8% of its close. -/
def TightAt (df : List DailyPrice) (i : ℕ) : Prop :=
  10 ≤ i+1 ∧ ∃ p highest lowest, df[i]? = some p ∧ p.close.toRat ≠ 0 ∧
    IsGreatest {x | ∃ q ∈ lastOf 10 df i, roundDouble q.high.toRat = x} highest ∧
    IsLeast {x | ∃ q ∈ lastOf 10 df i, roundDouble q.low.toRat = x} lowest ∧
    rangePct highest lowest (roundDouble p.close.toRat) < 8

/-- A day of a base is counted from the day before the base. -/
theorem getElem?_baseLengthDays [FloatMath] (df : List DailyPrice) (i : ℕ) :
    ((structureFeatures df).column .baseLengthDays)[i]? =
      (isConsolidation df)[i]?.map fun inside =>
        .int (if inside then min (consolidationRun df i) i+1 else 0 : ℕ) := by
  have hcolumn : (structureFeatures df).column .baseLengthDays =
      (List.zipWith (fun count inside => if inside then count+1 else 0)
        (occurrences (blocks (isConsolidation df))) (isConsolidation df)).map
          fun (days : ℕ) => Cell.int days := rfl
  rw [hcolumn, List.getElem?_map, List.getElem?_zipWith, getElem?_occurrences_blocks]
  cases hinside : (isConsolidation df)[i]? with
  | none => rfl
  | some inside =>
    rw [consolidationRun, List.take_add_one, hinside, Option.toList_some, streak_concat]
    cases inside <;> rfl

theorem maximum_of_isGreatest {values : List ℚ} {m : ℚ} (h : IsGreatest {x | x ∈ values} m) :
    maximum values = .finite m := by
  rw [maximum, List.max?_eq_some_iff.mpr h]
  rfl

theorem minimum_of_isLeast {values : List ℚ} {m : ℚ} (h : IsLeast {x | x ∈ values} m) :
    minimum values = .finite m := by
  rw [minimum, List.min?_eq_some_iff.mpr h]
  rfl

theorem lastOf_map {α β : Type*} (f : α → β) (w : ℕ) (xs : List α) (i : ℕ) :
    lastOf w (xs.map f) i = (lastOf w xs i).map f := by
  simp [lastOf]

theorem roundDouble_price_eq_zero_iff (price : Numeric4) :
    roundDouble price.toRat = 0 ↔ price.toRat = 0 := by
  constructor
  · intro h
    by_contra hne
    have hunits : (1 : ℚ) ≤ |(price.units : ℚ)| := by
      have hint : price.units ≠ 0 := by
        intro hzero
        exact hne (by simp [Numeric4.toRat, hzero])
      exact_mod_cast Int.one_le_abs hint
    have hlarge : ((1 : ℤ) : ℚ)*2^(-14 : ℤ) ≤ |price.toRat| := by
      rw [Numeric4.toRat, abs_div, abs_of_pos (show (0 : ℚ) < 10000 by norm_num)]
      norm_num
      linarith
    exact roundDouble_ne_zero (representable_double (by norm_num) (by norm_num)) (by positivity) hlarge h
  · intro h
    rw [h, roundDouble_zero]

theorem doubles_highs (df : List DailyPrice) :
    doubles (highs df) = (df.map fun p => roundDouble p.high.toRat).map PyFloat.finite := by
  simp [highs]

theorem doubles_lows (df : List DailyPrice) :
    doubles (lows df) = (df.map fun p => roundDouble p.low.toRat).map PyFloat.finite := by
  simp [lows]

/-- The close that a width is measured by. -/
theorem getElem?_replaceZero_closes {df : List DailyPrice} {i : ℕ} {p : DailyPrice}
    (hp : df[i]? = some p) : (replaceZero (doubles (closes df)))[i]? =
      some (if p.close.toRat = 0 then .nan else .finite (roundDouble p.close.toRat)) := by
  simp [closes, hp, roundDouble_price_eq_zero_iff]

/-- The width of a window that is full, on a day with a close to measure it by. -/
theorem getElem?_rollingRangePct {df : List DailyPrice} {w i : ℕ} {p : DailyPrice} {highest lowest : ℚ}
    (hp : df[i]? = some p) (hfull : w ≤ i+1) (hclose : p.close.toRat ≠ 0)
    (hhighest : IsGreatest {x | ∃ q ∈ lastOf w df i, roundDouble q.high.toRat = x} highest)
    (hlowest : IsLeast {x | ∃ q ∈ lastOf w df i, roundDouble q.low.toRat = x} lowest) :
    (rollingRangePct (highs df) (lows df) (closes df) w)[i]? =
      some (.finite (rangePct highest lowest (roundDouble p.close.toRat))) := by
  have hi : i < df.length := (List.getElem?_eq_some_iff.mp hp).choose
  have hmax : maximum (lastOf w (df.map fun p => roundDouble p.high.toRat) i) = .finite highest := by
    apply maximum_of_isGreatest
    simpa [lastOf_map] using hhighest
  have hmin : minimum (lastOf w (df.map fun p => roundDouble p.low.toRat) i) = .finite lowest := by
    apply minimum_of_isLeast
    simpa [lastOf_map] using hlowest
  have hdouble : roundDouble p.close.toRat ≠ 0 := mt (roundDouble_price_eq_zero_iff p.close).mp hclose
  rw [rollingRangePct, List.getElem?_map, List.getElem?_map, List.getElem?_map, List.getElem?_zipWith,
    List.getElem?_map, List.getElem?_zipWith, doubles_highs, doubles_lows,
    getElem?_rolling w maximum _ (by simpa using hi), getElem?_rolling w minimum _ (by simpa using hi),
    if_pos hfull, if_pos hfull, hmax, hmin, getElem?_replaceZero_closes hp, if_neg hclose]
  simp [hdouble, PyFloat.sub, PyFloat.neg, PyFloat.add, PyFloat.mul, divide, sub_eq_add_neg, rangePct]

theorem divide_nan (x : PyFloat) : divide x .nan = .nan := by
  cases x <;> rfl

/-- Without a full window or a close there is no width. -/
theorem getElem?_rollingRangePct_nan {df : List DailyPrice} {w i : ℕ} {p : DailyPrice}
    (hp : df[i]? = some p) (h : ¬(w ≤ i+1 ∧ p.close.toRat ≠ 0)) :
    (rollingRangePct (highs df) (lows df) (closes df) w)[i]? = some .nan := by
  have hi : i < df.length := (List.getElem?_eq_some_iff.mp hp).choose
  rw [rollingRangePct, List.getElem?_map, List.getElem?_map, List.getElem?_map, List.getElem?_zipWith,
    List.getElem?_map, List.getElem?_zipWith, doubles_highs, doubles_lows,
    getElem?_rolling w maximum _ (by simpa using hi), getElem?_rolling w minimum _ (by simpa using hi),
    getElem?_replaceZero_closes hp]
  by_cases hfull : w ≤ i+1
  · have hzero : p.close.toRat = 0 := by simpa [hfull] using h
    simp [hzero, divide_nan, PyFloat.mul]
  · simp [hfull, PyFloat.sub, PyFloat.add, divide, PyFloat.mul]

theorem exists_isGreatest {α : Type*} (f : α → ℚ) {xs : List α} (h : xs ≠ []) :
    ∃ m, IsGreatest {x | ∃ q ∈ xs, f q = x} m := by
  obtain ⟨m,hm⟩ := Option.ne_none_iff_exists'.mp
    (mt List.max?_eq_none_iff.mp (mt (List.map_eq_nil_iff (f := f)).mp h))
  refine ⟨m,?_⟩
  simpa [IsGreatest, upperBounds] using List.max?_eq_some_iff.mp hm

theorem exists_isLeast {α : Type*} (f : α → ℚ) {xs : List α} (h : xs ≠ []) :
    ∃ m, IsLeast {x | ∃ q ∈ xs, f q = x} m := by
  obtain ⟨m,hm⟩ := Option.ne_none_iff_exists'.mp
    (mt List.min?_eq_none_iff.mp (mt (List.map_eq_nil_iff (f := f)).mp h))
  refine ⟨m,?_⟩
  simpa [IsLeast, lowerBounds] using List.min?_eq_some_iff.mp hm

/-- A day is in consolidation when the ten bars up to it are tight. -/
theorem getElem?_isConsolidation {df : List DailyPrice} {i : ℕ} :
    (isConsolidation df)[i]? = some true ↔ TightAt df i := by
  cases hp : df[i]? with
  | none =>
    have hshort : df.length ≤ i := List.getElem?_eq_none_iff.mp hp
    have hnone : (isConsolidation df)[i]? = none := by
      apply List.getElem?_eq_none
      simpa [isConsolidation, rollingRangePct, rolling, highs, lows, closes] using hshort
    simp [hnone, TightAt, hp]
  | some p =>
    by_cases h : 10 ≤ i+1 ∧ p.close.toRat ≠ 0
    · have hi : i < df.length := (List.getElem?_eq_some_iff.mp hp).choose
      obtain ⟨hfull,hclose⟩ := h
      have hne : lastOf 10 df i ≠ [] := by
        apply List.ne_nil_of_length_pos
        rw [length_lastOf hi]
        omega
      obtain ⟨highest,hhighest⟩ := exists_isGreatest (fun q => roundDouble q.high.toRat) hne
      obtain ⟨lowest,hlowest⟩ := exists_isLeast (fun q => roundDouble q.low.toRat) hne
      rw [isConsolidation, List.getElem?_map,
        getElem?_rollingRangePct hp hfull hclose hhighest hlowest, Option.map_some, Option.some_inj]
      constructor
      · intro hlt
        refine ⟨hfull,p,highest,lowest,hp,hclose,hhighest,hlowest,?_⟩
        simpa using hlt
      · rintro ⟨-,p',highest',lowest',hp',-,hhighest',hlowest',hlt⟩
        obtain rfl := Option.some.inj (hp.symm.trans hp')
        rw [hhighest.unique hhighest', hlowest.unique hlowest']
        simpa using hlt
    · rw [isConsolidation, List.getElem?_map, getElem?_rollingRangePct_nan hp h]
      constructor
      · intro hlt
        simp [PyFloat.lt, PyFloat.le] at hlt
      · rintro ⟨hfull,p',-,-,hp',hclose,-⟩
        obtain rfl := Option.some.inj (hp.symm.trans hp')
        exact absurd ⟨hfull,hclose⟩ h

/-- The first day has no full window, so a run of consolidation days never reaches back to it. -/
theorem consolidationRun_le (df : List DailyPrice) (i : ℕ) : consolidationRun df i ≤ i := by
  rw [consolidationRun]
  cases hfirst : (isConsolidation df).head? with
  | none => simp [List.head?_eq_none_iff.mp hfirst]
  | some b =>
    have hopen : b = false := by
      cases b with
      | false => rfl
      | true =>
        rw [List.head?_eq_getElem?] at hfirst
        obtain ⟨hfull,-⟩ := getElem?_isConsolidation.mp hfirst
        omega
    have hhead : ((isConsolidation df).take (i+1)).head? = some false := by
      rw [List.head?_take, if_neg (Nat.succ_ne_zero i), hfirst, hopen]
    have hlt := streak_lt_length hhead
    rw [List.length_take] at hlt
    omega

/-- The day of a base before which none was counted is counted too, so every day of every base is
one off. -/
theorem baseLengthIsRun_iff [FloatMath] (df : List DailyPrice) (i : ℕ) (hi : i < df.length) :
    BaseLengthIsRun df i ↔ ¬TightAt df i := by
  have hlength : i < (isConsolidation df).length := by
    simpa [isConsolidation, rollingRangePct, rolling, highs, lows, closes] using hi
  have hentry := List.getElem?_eq_getElem hlength
  rw [← getElem?_isConsolidation, BaseLengthIsRun, getElem?_baseLengthDays, hentry]
  simp only [Option.map_some, Option.some_inj, Cell.int.injEq, Nat.cast_inj]
  cases hinside : (isConsolidation df)[i] with
  | false =>
    have hrun : consolidationRun df i = 0 := by
      rw [consolidationRun, List.take_add_one, hentry, hinside, Option.toList_some, streak_concat]
      rfl
    simp [hrun]
  | true =>
    have hle := consolidationRun_le df i
    simp only [if_true, not_true, iff_false]
    omega

/-- Days on which the price did not move. -/
def flatDays : List DailyPrice := (List.range 10).map fun (day : ℕ) => barAt day 1000000

theorem baseLengthIsRun_iff_tenthDay :
    9 < flatDays.length ∧
      (@BaseLengthIsRun FloatMath.double flatDays 9 ↔ ¬TightAt flatDays 9) :=
  ⟨by decide,@baseLengthIsRun_iff FloatMath.double flatDays 9 (by decide)⟩

/-- The tenth flat day is the first of a base, and is its second. -/
theorem flatDays_baseLength_off :
    ¬∀ (df : List DailyPrice) (i : ℕ), i < df.length →
      @BaseLengthIsRun FloatMath.double df i := by
  intro h
  have hrun : ((@structureFeatures FloatMath.double flatDays).column .baseLengthDays)[9]? =
      some (.int (consolidationRun flatDays 9)) := h flatDays 9 (by decide)
  revert hrun
  decide +kernel

end MarketScanner.Features
