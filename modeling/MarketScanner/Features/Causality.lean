import MarketScanner.Features.Calculators

/-! What each entry of the frame depends on: the bars up to its own, but for the swing points. -/
namespace MarketScanner.Features
open MarketScanner.Library MarketScanner.Python MarketScanner.Market Indicators Series

section Take
variable (n : ℕ) (df : List DailyPrice)

@[simp] theorem highs_take : highs (df.take n) = (highs df).take n := List.map_take
@[simp] theorem lows_take : lows (df.take n) = (lows df).take n := List.map_take
@[simp] theorem closes_take : closes (df.take n) = (closes df).take n := List.map_take
@[simp] theorem volumes_take : volumes (df.take n) = (volumes df).take n := List.map_take

theorem frame_take_cons (c : Column × List Cell) (f : Frame) :
    Frame.take n (c::f) = (c.1,c.2.take n)::Frame.take n f := rfl

theorem frame_take_append (f g : Frame) :
    Frame.take n (f ++ g) = Frame.take n f ++ Frame.take n g := List.map_append

theorem frame_take_nil : Frame.take n [] = [] := rfl

theorem trendFeatures_take : trendFeatures (df.take n) = (trendFeatures df).take n := by
  simp only [trendFeatures, closes_take, ema_take, sma_take, ← List.take_zipWith, List.map_take,
    shift_take, frame_take_cons, frame_take_nil, numbers, flags]

theorem momentumFeatures_take : momentumFeatures (df.take n) = (momentumFeatures df).take n := by
  simp only [momentumFeatures, highs_take, lows_take, closes_take, rsi_take, macd_take, adx_take,
    ← List.take_zipWith, List.map_take, frame_take_cons, frame_take_nil, numbers]

theorem volatilityFeatures_take [FloatMath] :
    volatilityFeatures (df.take n) = (volatilityFeatures df).take n := by
  simp only [volatilityFeatures, highs_take, lows_take, closes_take, atr_take, rolling_take,
    bollingerBands_take, keltnerChannels_take, ← List.take_zipWith, List.map_take, frame_take_cons,
    frame_take_nil, numbers, flags]

theorem volumeFeatures_take : volumeFeatures (df.take n) = (volumeFeatures df).take n := by
  simp only [volumeFeatures, highs_take, lows_take, closes_take, volumes_take, sma_take, obv_take,
    rolling_take, ← List.take_zipWith, List.map_take, frame_take_cons, frame_take_nil, numbers, flags]

theorem priceActionFeatures_take :
    priceActionFeatures (df.take n) = (priceActionFeatures df).take n := by
  simp only [priceActionFeatures, highs_take, lows_take, closes_take, shift_take, rolling_take,
    ← List.take_zipWith, List.map_take, frame_take_cons, frame_take_nil, flags]

theorem rollingRangePct_take (high low close : Series) (window : ℕ) :
    rollingRangePct (high.take n) (low.take n) (close.take n) window =
      (rollingRangePct high low close window).take n := by
  simp only [rollingRangePct, rolling_take, ← List.take_zipWith, List.map_take]

theorem channelFeatures_take [FloatMath] :
    channelFeatures (df.take n) = (channelFeatures df).take n := by
  simp only [channelFeatures, highs_take, lows_take, closes_take, rolling_take,
    rollingRangePct_take, accumulate_take, ← List.take_zipWith, List.map_take, frame_take_cons,
    frame_take_nil, numbers, flags]

theorem levelFeatures_take : levelFeatures (df.take n) = (levelFeatures df).take n := by
  simp only [levelFeatures, highs_take, lows_take, closes_take, rolling_take, shift_take,
    ← List.take_zipWith, List.map_take, frame_take_cons, frame_take_nil, numbers]

theorem patternFeatures_take : patternFeatures (df.take n) = (patternFeatures df).take n := by
  simp only [patternFeatures, highs_take, lows_take, closes_take, rolling_take, shift_take,
    pctChange_take, rollingRangePct_take, accumulate_take, ← List.take_zipWith, List.map_take,
    frame_take_cons, frame_take_nil, flags]

end Take

section Swings
variable (r : ℚ → ℚ → Prop) [DecidableRel r]

/-- The bar at a position is the extreme of the five around it, two of them later. -/
def isSwing (prices : List ℚ) (j : ℕ) : Bool :=
  decide (2 ≤ j ∧ j+2 < prices.length) &&
    prices[j]?.any fun x => ((prices.drop (j-2)).take 5).all fun y => decide (r y x)

/-- The price of the last swing point at or before a position. -/
def lastSwing (prices : List ℚ) : ℕ → Option ℚ
  | 0 => none
  | i+1 => if isSwing r prices (i+1) then prices[i+1]? else lastSwing prices i

theorem mem_of_lastSwing {prices : List ℚ} {i : ℕ} {x : ℚ} (h : lastSwing r prices i = some x) :
    x ∈ prices := by
  induction i with
  | zero => cases h
  | succ i ih =>
    rw [lastSwing] at h
    split at h
    · exact List.mem_of_getElem? h
    · exact ih h

/-- Bars without their own price are filled from the last one that has it. -/
theorem getElem?_ffill_succ (s : Series) {i : ℕ} {x : PyFloat} (h : s[i+1]? = some x) :
    (ffill s)[i+1]? = if x = .nan then (ffill s)[i]? else some x := by
  have hlt : i+1 < s.length := (List.getElem?_eq_some_iff.mp h).choose
  have hprev : s[i]? = some s[i] := List.getElem?_eq_getElem (by omega)
  rw [getElem?_accumulate, getElem?_accumulate, h, hprev, List.take_add_one, hprev,
    List.foldl_append]
  simp only [Option.toList_some, List.foldl_cons, List.foldl_nil, Option.map_some]
  split
  · split <;> rfl
  · rfl

theorem getElem?_ffill_zero (s : Series) : (ffill s)[0]? = s[0]? := by
  cases s with
  | nil => rfl
  | cons x s =>
    rw [getElem?_accumulate]
    simp only [List.getElem?_cons_zero, Option.map_some, List.take_zero, List.foldl_nil]
    split
    · rename_i hnan
      rw [hnan]
    · rfl

theorem mapM_finite (values : List ℚ) : (values.map PyFloat.finite).mapM finite? = some values := by
  induction values with
  | nil => rfl
  | cons x values ih => simp [ih, finite?]

variable {r} {g : List ℚ → PyFloat}

/-- A bar that equals the extreme of its centered window is a swing point, and conversely. -/
theorem getElem?_swingFlag
    (hg : ∀ values x, x ∈ values →
      (PyFloat.eq (.finite x) (g values) = true ↔ ∀ y ∈ values, r y x))
    (prices : List ℚ) {j : ℕ} (hj : j < prices.length) :
    (Series.eq (prices.map PyFloat.finite)
      (rollingCentered 2 g (prices.map PyFloat.finite)))[j]? = some (isSwing r prices j) := by
  have hx : prices[j]? = some prices[j] := List.getElem?_eq_getElem hj
  rw [List.getElem?_zipWith, rollingCentered, List.getElem?_map, List.getElem?_map,
    getElem?_centeredWindows 2 _ (by simpa using hj), hx]
  simp only [List.length_map, Option.map_some, isSwing, hx, Option.any_some]
  congr 1
  by_cases hwide : 2 ≤ j ∧ j+2 < prices.length
  · rw [if_pos hwide, decide_eq_true hwide, Bool.true_and, Option.bind_some, ← List.map_drop,
      ← List.map_take, mapM_finite]
    have hmem : prices[j] ∈ (prices.drop (j-2)).take 5 := by
      apply List.mem_of_getElem? (i := 2)
      rw [List.getElem?_take_of_lt (by omega), List.getElem?_drop, ← hx]
      congr 1
      omega
    rw [Bool.eq_iff_iff, hg _ _ hmem]
    simp
  · rw [if_neg hwide, decide_eq_false hwide]
    rfl

theorem getElem?_swings
    (hg : ∀ values x, x ∈ values →
      (PyFloat.eq (.finite x) (g values) = true ↔ ∀ y ∈ values, r y x))
    (prices : List ℚ) {i : ℕ} (hi : i < prices.length) :
    (ffill (whereOr (prices.map PyFloat.finite) (Series.eq (prices.map PyFloat.finite)
      (rollingCentered 2 g (prices.map PyFloat.finite))) .nan))[i]? =
        some ((lastSwing r prices i).elim .nan .finite) := by
  have hentry : ∀ j, (hj : j < prices.length) → (whereOr (prices.map PyFloat.finite)
      (Series.eq (prices.map PyFloat.finite)
        (rollingCentered 2 g (prices.map PyFloat.finite))) .nan)[j]? =
          some (if isSwing r prices j then .finite prices[j] else .nan) := by
    intro j hj
    rw [List.getElem?_zipWith, getElem?_swingFlag hg prices hj, List.getElem?_map,
      List.getElem?_eq_getElem hj]
    rfl
  induction i with
  | zero =>
    rw [getElem?_ffill_zero, hentry 0 hi]
    simp [isSwing, lastSwing]
  | succ i ih =>
    rw [getElem?_ffill_succ _ (hentry (i+1) hi), lastSwing]
    cases isSwing r prices (i+1) with
    | true =>
      rw [if_pos rfl, if_neg (by simp), if_pos rfl, List.getElem?_eq_getElem hi]
      rfl
    | false =>
      rw [if_neg Bool.false_ne_true, if_pos rfl, ih (by omega), if_neg Bool.false_ne_true]

end Swings

theorem eq_maximum_iff (values : List ℚ) (x : ℚ) (hx : x ∈ values) :
    PyFloat.eq (.finite x) (maximum values) = true ↔ ∀ y ∈ values, y ≤ x := by
  unfold maximum
  cases hmax : values.max? with
  | none =>
    rw [List.max?_eq_none_iff.mp hmax] at hx
    cases hx
  | some m =>
    obtain ⟨hm,hle⟩ := List.max?_eq_some_iff.mp hmax
    simp only [Option.elim_some, PyFloat.eq, PyFloat.le, Bool.and_eq_true, decide_eq_true_eq]
    constructor
    · rintro ⟨-,hmx⟩ y hy
      exact (hle y hy).trans hmx
    · intro h
      exact ⟨hle x hx,h m hm⟩

theorem eq_minimum_iff (values : List ℚ) (x : ℚ) (hx : x ∈ values) :
    PyFloat.eq (.finite x) (minimum values) = true ↔ ∀ y ∈ values, x ≤ y := by
  unfold minimum
  cases hmin : values.min? with
  | none =>
    rw [List.min?_eq_none_iff.mp hmin] at hx
    cases hx
  | some m =>
    obtain ⟨hm,hle⟩ := List.min?_eq_some_iff.mp hmin
    simp only [Option.elim_some, PyFloat.eq, PyFloat.le, Bool.and_eq_true, decide_eq_true_eq]
    constructor
    · rintro ⟨hxm,-⟩ y hy
      exact hxm.trans (hle y hy)
    · intro h
      exact ⟨h m hm,hle x hx⟩

/-- The price of the last swing high among the bars up to `i`, given the bars that are there. -/
def lastSwingHigh (df : List DailyPrice) (i : ℕ) : Option ℚ :=
  lastSwing (fun y x => y ≤ x) (df.map fun p => p.high.toRat) i

def lastSwingLow (df : List DailyPrice) (i : ℕ) : Option ℚ :=
  lastSwing (fun y x => x ≤ y) (df.map fun p => p.low.toRat) i

theorem getElem?_swingHighs {df : List DailyPrice} {i : ℕ} (hi : i < df.length) :
    (swingHighs df)[i]? = some ((lastSwingHigh df i).elim .nan .finite) := by
  have hhighs : highs df = (df.map fun p => p.high.toRat).map PyFloat.finite := by
    rw [List.map_map]
    rfl
  rw [swingHighs, swingPoints, hhighs]
  exact getElem?_swings eq_maximum_iff _ (by simpa using hi)

theorem getElem?_swingLows {df : List DailyPrice} {i : ℕ} (hi : i < df.length) :
    (swingLows df)[i]? = some ((lastSwingLow df i).elim .nan .finite) := by
  have hlows : lows df = (df.map fun p => p.low.toRat).map PyFloat.finite := by
    rw [List.map_map]
    rfl
  rw [swingLows, swingPoints, hlows]
  exact getElem?_swings eq_minimum_iff _ (by simpa using hi)

end MarketScanner.Features
