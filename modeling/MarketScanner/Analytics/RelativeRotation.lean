import MarketScanner.Features.Entries
import MarketScanner.Features.StoredRow
import MarketScanner.Library.Deviation
import MarketScanner.Library.Recall
import MarketScanner.Python.Decimals

/-! The relative rotation of a security against a benchmark: how its relative strength stands against its
own recent mean, and how that standing moves against its own recent moves. -/
namespace MarketScanner.Analytics
open MarketScanner.Library MarketScanner.Python MarketScanner.Market MarketScanner.Features
open MarketScanner.Features.Series

inductive RrgQuadrant
  | leading | weakening | lagging | improving
  deriving DecidableEq, Repr

/-- `rolling_zscore`. -/
def rollingZscore [FloatMath] (window : ℕ) (s : Series) : Series :=
  plus 100 (div (sub s (rolling window mean s)) (rolling window std s))

/-- `classify_quadrant`; on the boundary a reading counts as up. -/
def classifyQuadrant (rsRatio rsMomentum : PyFloat) : Option RrgQuadrant :=
  if rsRatio = .nan ∨ rsMomentum = .nan then none
  else
    let ratioUp := PyFloat.le (.finite 100) rsRatio
    let momentumUp := PyFloat.le (.finite 100) rsMomentum
    if ratioUp && momentumUp then some .leading
    else if ratioUp && !momentumUp then some .weakening
    else if !ratioUp && !momentumUp then some .lagging
    else some .improving

/-- `_decimal_or_none`: to four places. -/
def decimalOrNone : PyFloat → Option PyFloat
  | .nan => none
  | .inf negative => some (.inf negative)
  | .finite q => some (.finite (roundTo 4 q))

structure RrgPoint where
  symbol : String
  benchmarkSymbol : String
  date : Date
  rs : Option PyFloat
  rsRatio : Option PyFloat
  rsMomentum : Option PyFloat
  quadrant : Option RrgQuadrant
  computedAt : DateTime

/-- `rs_frame["rs_vs_nifty"]`. -/
def rsVsNifty (security benchmark : List DailyPrice) : Series :=
  ((relativeStrengthFeatures security (some benchmark)).column .rsVsNifty).map fun
    | .num x => x
    | _ => .nan

def rsRatio [FloatMath] (window : ℕ) (rs : Series) : Series := rollingZscore window rs

def rsMomentum [FloatMath] (window : ℕ) (rs : Series) : Series :=
  rollingZscore window (diff (rsRatio window rs))

def RrgPoint.of (symbol benchmarkSymbol : String) (computedAt : DateTime) (bar : DailyPrice)
    (rs ratio momentum : PyFloat) : RrgPoint where
  symbol := symbol
  benchmarkSymbol := benchmarkSymbol
  date := bar.date
  rs := decimalOrNone rs
  rsRatio := decimalOrNone ratio
  rsMomentum := decimalOrNone momentum
  quadrant := classifyQuadrant ratio momentum
  computedAt := computedAt

/-- `compute_rrg_series`: one point for each bar of the security. -/
def computeRrgSeries [FloatMath] (window : ℕ) (symbol benchmarkSymbol : String) (computedAt : DateTime)
    (security benchmark : List DailyPrice) : List RrgPoint :=
  let rs := rsVsNifty security benchmark
  List.zipWith (fun bar x => RrgPoint.of symbol benchmarkSymbol computedAt bar x.1 x.2.1 x.2.2) security
    (List.zip rs (List.zip (rsRatio window rs) (rsMomentum window rs)))

/-- A square root is never negative, and zero of zero alone. -/
class SqrtLaws [FloatMath] : Prop where
  nonneg : ∀ q : ℚ, 0 ≤ q → 0 ≤ FloatMath.sqrt q
  eq_zero : ∀ q : ℚ, 0 ≤ q → (FloatMath.sqrt q = 0 ↔ q = 0)

/-! ### Readings of a column and its windows -/

section Readings
variable (s : Series) (k : ℕ)

def reading : Option ℚ := s[k]?.bind finite?

/-- The column has a number in a place. -/
def Known : Prop := (reading s k).isSome = true

instance : Decidable (Known s k) := inferInstanceAs (Decidable (_ = true))

def value : ℚ := (reading s k).getD 0

/-- The `w` values up to a place. -/
def recent (w : ℕ) : List ℚ := (List.range w).map fun j => value s (k+1-w+j)

/-- There are `w` values up to a place. -/
def Filled (w : ℕ) : Prop := w ≤ k+1 ∧ ∀ j < w, Known s (k+1-w+j)

instance (w : ℕ) : Decidable (Filled s k w) := inferInstanceAs (Decidable (_ ∧ _))

variable {s k}

theorem known_iff : Known s k ↔ s[k]? = some (.finite (value s k)) := by
  rw [Known, value, reading]
  cases s[k]? with
  | none => simp
  | some x => cases x <;> simp [finite?]

theorem known_of_get {q : ℚ} (h : s[k]? = some (.finite q)) : Known s k ∧ value s k = q := by
  simp [Known, value, reading, h, finite?]

theorem not_known_of_nan (h : s[k]? = some .nan) : ¬Known s k := by
  simp [Known, reading, h, finite?]

theorem Known.lt_length (h : Known s k) : k < s.length :=
  (List.getElem?_eq_some_iff.mp (known_iff.mp h)).choose

@[simp] theorem length_recent (w : ℕ) : (recent s k w).length = w := by simp [recent]

theorem Filled.known {w j : ℕ} (h : Filled s k w) (hj : j ≤ k) (hw : k < j+w) : Known s j := by
  have hplace : k+1-w+(j-(k+1-w)) = j := by omega
  have hknown := h.2 (j-(k+1-w)) (by omega)
  rwa [hplace] at hknown

theorem filled_iff {w : ℕ} (hw : w ≤ k+1) : Filled s k w ↔ ∀ j ≤ k, k < j+w → Known s j := by
  constructor
  · exact fun h j hj hlt => h.known hj hlt
  · exact fun h => ⟨hw,fun j hj => h _ (by omega) (by omega)⟩

theorem mapM_finite_eq_some {l : Series} {values : List ℚ} :
    l.mapM finite? = some values ↔ l = values.map PyFloat.finite := by
  constructor
  · intro h
    induction l generalizing values with
    | nil =>
      obtain rfl : [] = values := by simpa using h
      rfl
    | cons x l ih =>
      rw [List.mapM_cons] at h
      obtain ⟨q,hx,h⟩ := Option.bind_eq_some_iff.mp h
      obtain ⟨rest,hrest,h⟩ := Option.bind_eq_some_iff.mp h
      obtain rfl := Option.some.inj h
      have hfinite : x = .finite q := by cases x <;> simp_all [finite?]
      rw [ih hrest, hfinite, List.map_cons]
  · rintro rfl
    exact mapM_finite values

theorem window_eq {w : ℕ} (h : Filled s k w) :
    (s.take (k+1)).drop (k+1-w) = (recent s k w).map PyFloat.finite := by
  apply List.ext_getElem?
  intro j
  rw [List.getElem?_drop, List.getElem?_map]
  by_cases hj : j < w
  · have hw := h.1
    rw [List.getElem?_take_of_lt (by omega), known_iff.mp (h.2 j hj), recent, List.getElem?_map,
      List.getElem?_range hj]
    rfl
  · rw [List.getElem?_eq_none (by simp; omega), List.getElem?_eq_none (by simp; omega)]
    rfl

theorem getElem?_rolling_of_filled {w : ℕ} (g : List ℚ → PyFloat) (h : Filled s k w) (hk : k < s.length) :
    (rolling w g s)[k]? = some (g (recent s k w)) := by
  rw [rolling, List.getElem?_map, getElem?_windows w s hk, Option.map_some, window_eq h, mapM_finite]
  simp

theorem getElem?_rolling_of_not_filled {w : ℕ} (g : List ℚ → PyFloat) (h : ¬Filled s k w)
    (hk : k < s.length) : (rolling w g s)[k]? = some .nan := by
  rw [rolling, List.getElem?_map, getElem?_windows w s hk, Option.map_some]
  congr 1
  split
  · rename_i values hvalues
    rw [if_neg]
    intro hlength
    apply h
    have hwindow := mapM_finite_eq_some.mp hvalues
    have hw : w ≤ k+1 := by
      have := congrArg List.length hwindow
      simp at this
      omega
    refine ⟨hw,fun j hj => ?_⟩
    have hentry := congrArg (fun l : Series => l[j]?) hwindow
    have hget : values[j]? = some values[j] := List.getElem?_eq_getElem (hj.trans_eq hlength.symm)
    rw [List.getElem?_drop, List.getElem?_take_of_lt (by omega), List.getElem?_map, hget] at hentry
    exact (known_of_get hentry).1
  · rfl

theorem value_mem_recent {w : ℕ} (hw : 0 < w) (hk : w ≤ k+1) : value s k ∈ recent s k w := by
  refine List.mem_map.mpr ⟨w-1,by simpa using by omega,?_⟩
  congr 1
  omega

theorem Known.reading (h : Known s k) : reading s k = some (value s k) := by
  obtain ⟨q,hq⟩ := Option.isSome_iff_exists.mp h
  rw [value, hq, Option.getD_some]

theorem reading_diff_zero : reading (diff s) 0 = none := by
  cases s with
  | nil => rfl
  | cons x s => cases x <;> rfl

theorem reading_diff_succ :
    reading (diff s) (k+1) = (reading s (k+1)).bind fun a => (reading s k).map fun b => a-b := by
  by_cases hk : k+1 < s.length
  · have hprev : k < s.length := by omega
    rw [reading, diff, List.getElem?_zipWith, getElem?_shift 1 _ s hk, if_neg (by omega),
      Nat.add_sub_cancel, reading, reading, List.getElem?_eq_getElem hk, List.getElem?_eq_getElem hprev]
    exact finite?_sub _ _
  · rw [reading, reading, List.getElem?_eq_none (by simp [diff]; omega),
      List.getElem?_eq_none (by omega)]
    rfl

theorem known_diff : Known (diff s) (k+1) ↔ Known s (k+1) ∧ Known s k := by
  rw [Known, Known, Known, reading_diff_succ]
  cases reading s (k+1) <;> cases reading s k <;> simp

theorem value_diff (h : Known s (k+1)) (h' : Known s k) :
    value (diff s) (k+1) = value s (k+1)-value s k := by
  rw [value, reading_diff_succ, h.reading, h'.reading]
  rfl

/-- The steps up to a place are filled when the column is, from one place earlier on. -/
theorem filled_diff {w : ℕ} : Filled (diff s) k (w+1) ↔ w+1 ≤ k ∧ Filled s k (w+2) := by
  constructor
  · intro h
    have hw : w+1 ≤ k := by
      by_contra hlt
      have hzero := h.known (j := 0) (by omega) (by have := h.1; omega)
      rw [Known, reading_diff_zero] at hzero
      exact absurd hzero Bool.false_ne_true
    refine ⟨hw,(filled_iff (by omega)).mpr fun j hj hlt => ?_⟩
    by_cases hlast : k < j+(w+1)
    · have hj' : 1 ≤ j := by omega
      obtain ⟨j,rfl⟩ := Nat.exists_eq_add_of_le' hj'
      exact (known_diff.mp (h.known hj hlast)).1
    · exact (known_diff.mp (h.known (j := j+1) (by omega) (by omega))).2
  · rintro ⟨hw,h⟩
    refine (filled_iff (by omega)).mpr fun j hj hlt => ?_
    obtain ⟨j,rfl⟩ := Nat.exists_eq_add_of_le' (show 1 ≤ j by omega)
    exact known_diff.mpr ⟨h.known hj (by omega),h.known (by omega) (by omega)⟩

/-- The mean of the last steps is the way over them, by their number. -/
theorem average_diff {w : ℕ} (hw : w ≤ k) (h : Filled s k (w+1)) :
    average (recent (diff s) k w) = (value s k-value s (k-w))/w := by
  have hsteps : recent (diff s) k w =
      (List.range w).map fun j => value s (k-w+(j+1))-value s (k-w+j) := by
    apply List.map_congr_left
    intro j hj
    have hlt := List.mem_range.mp hj
    have hplace : k+1-w+j = k-w+j+1 := by omega
    rw [hplace, value_diff (h.known (by omega) (by omega)) (h.known (by omega) (by omega)), Nat.add_assoc]
  have hsum : ((List.range w).map fun j => value s (k-w+(j+1))-value s (k-w+j)).sum =
      value s (k-w+w)-value s (k-w+0) := sum_steps (fun j => value s (k-w+j)) w
  rw [average, length_recent, hsteps, hsum, Nat.sub_add_cancel hw, Nat.add_zero]

end Readings

/-! ### The rolling score -/

section Scores
variable [FloatMath] [SqrtLaws] {s : Series} {k w : ℕ}

/-- The sample standard deviation of values. -/
def deviation (values : List ℚ) : ℚ := FloatMath.sqrt (squaredDeviations values/(values.length-1))

theorem deviation_of_flat {values : List ℚ} (h : Flat values) : deviation values = 0 := by
  rw [deviation, squaredDeviations_eq_zero.mpr h, zero_div]
  exact (SqrtLaws.eq_zero 0 le_rfl).mpr rfl

theorem deviation_pos {values : List ℚ} (h : ¬Flat values) : 0 < deviation values := by
  have hlength : 2 ≤ values.length := by
    by_contra hshort
    apply h
    intro x hx y hy
    obtain ⟨z,rfl⟩ := List.length_eq_one_iff.mp
      (show values.length = 1 by have := List.length_pos_of_mem hx; omega)
    rw [List.mem_singleton.mp hx, List.mem_singleton.mp hy]
  have hdeviations : 0 < squaredDeviations values :=
    lt_of_le_of_ne (squaredDeviations_nonneg values) fun hzero => h (squaredDeviations_eq_zero.mp hzero.symm)
  have hcast : (2 : ℚ) ≤ values.length := by exact_mod_cast hlength
  have hvariance : 0 < squaredDeviations values/(values.length-1) :=
    div_pos hdeviations (by linarith)
  exact lt_of_le_of_ne (SqrtLaws.nonneg _ hvariance.le)
    fun hzero => hvariance.ne' ((SqrtLaws.eq_zero _ hvariance.le).mp hzero.symm)

/-- The score is there where the window is full and not flat, and it is the last value's deviation from
the window's mean. -/
theorem getElem?_rollingZscore (hw : 0 < w) (hk : k < s.length) :
    (rollingZscore w s)[k]? = some
      (if Filled s k w ∧ ¬Flat (recent s k w) then
        .finite ((value s k-average (recent s k w))/deviation (recent s k w)+100)
      else .nan) := by
  have hentry : (rollingZscore w s)[k]? = (s[k]?.bind fun x => (rolling w mean s)[k]?.bind fun m =>
      (rolling w std s)[k]?.map fun d => PyFloat.add (divide (x.sub m) d) (.finite 100)) := by
    rw [rollingZscore, List.getElem?_map, List.getElem?_zipWith, List.getElem?_zipWith]
    cases s[k]? <;> cases (rolling w mean s)[k]? <;> cases (rolling w std s)[k]? <;> rfl
  by_cases hfilled : Filled s k w
  · have hvalue := known_iff.mp (hfilled.known le_rfl (by omega))
    rw [hentry, getElem?_rolling_of_filled mean hfilled hk, getElem?_rolling_of_filled std hfilled hk,
      hvalue]
    change some (PyFloat.add (divide (.finite (value s k+ -average (recent s k w)))
      (.finite (deviation (recent s k w)))) (.finite 100)) = _
    by_cases hflat : Flat (recent s k w)
    · rw [if_neg fun h => h.2 hflat, deviation_of_flat hflat,
        average_of_flat hflat (value_mem_recent hw hfilled.1), add_neg_cancel]
      rfl
    · rw [if_pos ⟨hfilled,hflat⟩, divide, if_neg (deviation_pos hflat).ne', sub_eq_add_neg]
      rfl
  · rw [hentry, getElem?_rolling_of_not_filled mean hfilled hk, getElem?_rolling_of_not_filled std hfilled hk,
      List.getElem?_eq_getElem hk, if_neg fun h => hfilled h.1, Option.bind_some, Option.bind_some,
      Option.map_some, sub_nan]
    rfl

omit [SqrtLaws] in
theorem length_rollingZscore (s : Series) : (rollingZscore w s).length = s.length := by
  simp [rollingZscore, rolling]

theorem known_rollingZscore (hw : 0 < w) :
    Known (rollingZscore w s) k ↔ Filled s k w ∧ ¬Flat (recent s k w) := by
  constructor
  · intro h
    have hk : k < s.length := h.lt_length.trans_eq (length_rollingZscore s)
    by_contra hmissing
    have hget := getElem?_rollingZscore hw hk
    rw [if_neg hmissing] at hget
    exact not_known_of_nan hget h
  · intro h
    have hk : k < s.length := (h.1.known le_rfl (by omega)).lt_length
    have hget := getElem?_rollingZscore hw hk
    rw [if_pos h] at hget
    exact (known_of_get hget).1

theorem value_rollingZscore (hw : 0 < w) (h : Known (rollingZscore w s) k) :
    value (rollingZscore w s) k = (value s k-average (recent s k w))/deviation (recent s k w)+100 := by
  have hk : k < s.length := h.lt_length.trans_eq (length_rollingZscore s)
  have hget := getElem?_rollingZscore hw hk
  rw [if_pos ((known_rollingZscore hw).mp h)] at hget
  exact (known_of_get hget).2

/-- The score is at least 100 where the last value is not below the mean. -/
theorem le_value_rollingZscore (hw : 0 < w) (h : Known (rollingZscore w s) k) :
    100 ≤ value (rollingZscore w s) k ↔ average (recent s k w) ≤ value s k := by
  have hdeviation := deviation_pos ((known_rollingZscore hw).mp h).2
  rw [value_rollingZscore hw h, le_add_iff_nonneg_left, le_div_iff₀ hdeviation, zero_mul, sub_nonneg]

theorem known_or_nan (hw : 0 < w) (hk : k < s.length) :
    Known (rollingZscore w s) k ∨ (rollingZscore w s)[k]? = some .nan := by
  have hget := getElem?_rollingZscore hw hk
  split at hget
  · exact Or.inl (known_of_get hget).1
  · exact Or.inr hget

end Scores

/-! ### The quadrant -/

/-- Whether a quadrant is one of high relative strength. -/
def RrgQuadrant.ratioUp : RrgQuadrant → Bool
  | leading | weakening => true
  | lagging | improving => false

/-- Whether a quadrant is one of high momentum. -/
def RrgQuadrant.momentumUp : RrgQuadrant → Bool
  | leading | improving => true
  | lagging | weakening => false

theorem classifyQuadrant_finite (ratio momentum : ℚ) (q : RrgQuadrant) :
    classifyQuadrant (.finite ratio) (.finite momentum) = some q ↔
      q.ratioUp = decide (100 ≤ ratio) ∧ q.momentumUp = decide (100 ≤ momentum) := by
  have hle (x : ℚ) : PyFloat.le (.finite 100) (.finite x) = decide (100 ≤ x) := rfl
  rw [classifyQuadrant, if_neg (by simp), hle, hle]
  cases decide (100 ≤ ratio) <;> cases decide (100 ≤ momentum) <;> cases q <;> simp [RrgQuadrant.ratioUp, RrgQuadrant.momentumUp]

section Momentum
variable [FloatMath] [SqrtLaws] {window i : ℕ} {rs : Series}

theorem filled_rsRatio (hwindow : 0 < window) (hi : window ≤ i) : Filled (rsRatio window rs) i (window+1) ↔
    Filled rs i (2*window) ∧ ∀ k ≤ i, i ≤ k+window → ¬Flat (recent rs k window) := by
  rw [filled_iff (by omega)]
  constructor
  · intro h
    have hknown : ∀ k ≤ i, i ≤ k+window → Filled rs k window ∧ ¬Flat (recent rs k window) :=
      fun k hk hlt => (known_rollingZscore hwindow).mp (h k hk (by omega))
    have hfirst := (hknown (i-window) (by omega) (by omega)).1
    refine ⟨(filled_iff (by have := hfirst.1; omega)).mpr fun k hk hlt => ?_,fun k hk hlt => (hknown k hk hlt).2⟩
    by_cases hlast : i < k+window
    · exact (hknown i le_rfl (by omega)).1.known hk hlast
    · exact hfirst.known (by omega) (by omega)
  · rintro ⟨hfilled,hmoving⟩ k hk hlt
    have htwo := hfilled.1
    refine (known_rollingZscore hwindow).mpr ⟨?_,hmoving k hk (by omega)⟩
    exact (filled_iff (by omega)).mpr fun j hj hlt => hfilled.known (by omega) (by omega)

/-- The momentum is there where two windows of relative strengths are, and none that is scored is flat. -/
theorem known_rsMomentum (hwindow : 0 < window) : Known (rsMomentum window rs) i ↔
    Filled rs i (2*window) ∧ (∀ k ≤ i, i ≤ k+window → ¬Flat (recent rs k window)) ∧
      ¬Flat (recent (diff (rsRatio window rs)) i window) := by
  obtain ⟨w,rfl⟩ := Nat.exists_eq_add_of_le' hwindow
  rw [rsMomentum, known_rollingZscore hwindow, filled_diff, ← and_assoc (c := ¬Flat _), and_congr_left_iff]
  intro _
  constructor
  · exact fun h => (filled_rsRatio hwindow h.1).mp h.2
  · intro h
    have hi : w+1 ≤ i := by
      have := h.1.1
      omega
    exact ⟨hi,(filled_rsRatio hwindow hi).mpr h⟩

end Momentum

theorem rsVsNifty_eq (security benchmark : List DailyPrice) : rsVsNifty security benchmark =
    sub (scale 100 (pctChange 20 (closes security)))
      (security.map fun p => benchmarkReturn benchmark p.date) := by
  have hcolumn (c : Series) : ((c.map Cell.num).map fun | .num x => x | _ => PyFloat.nan) = c := by
    rw [List.map_map]
    exact List.map_id c
  match benchmark with
  | [] =>
    refine (hcolumn (security.map fun _ => .nan)).trans (List.ext_getElem ?_ fun i hi hi' => ?_)
    · simp [length_pctChange, closes]
    · simp only [List.getElem_map, List.getElem_zipWith]
      exact (sub_nan _).symm
  | q::b => exact hcolumn _

section Quadrants
variable [FloatMath] [SqrtLaws] {window i : ℕ} {symbol benchmarkSymbol : String} {computedAt : DateTime}
  {security benchmark : List DailyPrice} {point : RrgPoint} {q : RrgQuadrant}

omit [SqrtLaws] in
theorem quadrant_of_getElem?
    (hpoint : (computeRrgSeries window symbol benchmarkSymbol computedAt security benchmark)[i]? =
      some point) :
    i < (rsVsNifty security benchmark).length ∧
      ∃ x y, (rsRatio window (rsVsNifty security benchmark))[i]? = some x ∧
        (rsMomentum window (rsVsNifty security benchmark))[i]? = some y ∧
          point.quadrant = classifyQuadrant x y := by
  obtain ⟨bar,readings,hbar,hreadings,rfl⟩ := List.getElem?_zipWith_eq_some.mp hpoint
  obtain ⟨hrs,hpair⟩ := List.getElem?_zip_eq_some.mp hreadings
  obtain ⟨hratio,hmomentum⟩ := List.getElem?_zip_eq_some.mp hpair
  exact ⟨(List.getElem?_eq_some_iff.mp hrs).choose,_,_,hratio,hmomentum,rfl⟩

/-- A security is in a quadrant on a day: its relative strengths are there for two windows back, none of
the windows that are scored is flat, and both of the quadrant's signs are right. The momentum is up where
the last step of the ratio is not below its mean step. -/
structure InQuadrant (window : ℕ) (rs : Series) (i : ℕ) (q : RrgQuadrant) : Prop where
  readings : Filled rs i (2*window)
  moving : ∀ k ≤ i, i ≤ k+window → ¬Flat (recent rs k window)
  turning : ¬Flat (recent (diff (rsRatio window rs)) i window)
  ratioUp : q.ratioUp = true ↔ average (recent rs i window) ≤ value rs i
  momentumUp : q.momentumUp = true ↔
    (value (rsRatio window rs) i-value (rsRatio window rs) (i-window))/window ≤
      value (rsRatio window rs) i-value (rsRatio window rs) (i-1)

theorem classifyQuadrant_eq_some_iff {rs : Series} {x y : PyFloat} (hwindow : 0 < window) (hi : i < rs.length)
    (hx : (rsRatio window rs)[i]? = some x) (hy : (rsMomentum window rs)[i]? = some y) :
    classifyQuadrant x y = some q ↔ InQuadrant window rs i q := by
  have hratioLength : (rsRatio window rs).length = rs.length := length_rollingZscore rs
  by_cases hknown : Known (rsMomentum window rs) i
  · obtain ⟨hfilled,hmoving,hturning⟩ := (known_rsMomentum hwindow).mp hknown
    have hstart : window ≤ i := by
      have := hfilled.1
      omega
    have hratios := (filled_rsRatio hwindow hstart).mpr ⟨hfilled,hmoving⟩
    have hratio : Known (rsRatio window rs) i := hratios.known le_rfl (by omega)
    have hprev : Known (rsRatio window rs) (i-1) := hratios.known (by omega) (by omega)
    have hstep : value (diff (rsRatio window rs)) i =
        value (rsRatio window rs) i-value (rsRatio window rs) (i-1) := by
      obtain ⟨i,rfl⟩ := Nat.exists_eq_add_of_le' (show 1 ≤ i by omega)
      exact value_diff hratio hprev
    have hratioUp := le_value_rollingZscore hwindow hratio
    have hmomentumUp := le_value_rollingZscore hwindow hknown
    rw [average_diff hstart hratios, hstep] at hmomentumUp
    have hx' := known_iff.mp hratio
    have hy' := known_iff.mp hknown
    rw [hx] at hx'
    rw [hy] at hy'
    rw [Option.some.inj hx', Option.some.inj hy', classifyQuadrant_finite]
    constructor
    · rintro ⟨hratioSign,hmomentumSign⟩
      refine ⟨hfilled,hmoving,hturning,?_,?_⟩
      · rw [hratioSign, decide_eq_true_iff]
        exact hratioUp
      · rw [hmomentumSign, decide_eq_true_iff]
        exact hmomentumUp
    · intro h
      constructor
      · rw [Bool.eq_iff_iff, h.ratioUp, decide_eq_true_iff]
        exact hratioUp.symm
      · rw [Bool.eq_iff_iff, h.momentumUp, decide_eq_true_iff]
        exact hmomentumUp.symm
  · have hnan : y = .nan := by
      have hlt : i < (diff (rsRatio window rs)).length := by simpa [diff, hratioLength] using hi
      have hentry := (known_or_nan hwindow hlt).resolve_left hknown
      exact Option.some.inj (hy.symm.trans hentry)
    have hnone : classifyQuadrant x y = none := by
      rw [hnan, classifyQuadrant, if_pos (Or.inr rfl)]
    rw [hnone]
    constructor
    · intro h
      cases h
    · intro h
      exact absurd ((known_rsMomentum hwindow).mpr ⟨h.readings,h.moving,h.turning⟩) hknown

end Quadrants

theorem longRoot_pos {q : ℚ} (hq : 0 < q) : 0 < longRoot q := by
  unfold longRoot
  dsimp only
  refine div_pos ?_ (zpow_pos two_pos _)
  split_ifs with hsquare
  · have hpos : (0 : ℚ) < q*4^(60-Int.log 2 q/2) := mul_pos hq (zpow_pos four_pos _)
    rw [← hsquare] at hpos
    exact (Nat.cast_nonneg _).lt_of_ne fun hzero => by simp [← hzero] at hpos
  · positivity

theorem sqrtLaws_double : @SqrtLaws FloatMath.double := by
  let _ := FloatMath.double
  have hpos {q : ℚ} (hq : 0 < q) : 0 < FloatMath.double.sqrt q := by
    change 0 < ite _ _ _
    rw [if_neg (not_le.mpr hq)]
    exact DigitFormat.round_pos PyFloat.isRounding_roundHalfEven rfl (longRoot_pos hq)
  have hzero : FloatMath.double.sqrt 0 = 0 := rfl
  refine ⟨fun q hq => ?_,fun q hq => ?_⟩
  · rcases hq.eq_or_lt with rfl | hq
    · exact hzero.ge
    · exact (hpos hq).le
  · rcases hq.eq_or_lt with rfl | hq
    · exact iff_of_true hzero rfl
    · exact iff_of_false (hpos hq).ne' hq.ne'

/-- Bars that close at 100 for 20 days, and then as given. -/
def barsAfter (last : List ℤ) : List DailyPrice :=
  (List.replicate 20 1000000 ++ last).zipIdx.map fun x : ℤ × ℕ => barAt x.2 x.1

section Points
variable [FloatMath] (window : ℕ) (symbol benchmarkSymbol : String) (computedAt : DateTime)
  (security benchmark : List DailyPrice)

theorem length_computeRrgSeries :
    (computeRrgSeries window symbol benchmarkSymbol computedAt security benchmark).length = security.length := by
  simp [computeRrgSeries, rsVsNifty_eq, rsRatio, rsMomentum, length_rollingZscore, diff, length_pctChange, closes]

theorem getElem?_computeRrgSeries (i : ℕ) :
    (computeRrgSeries window symbol benchmarkSymbol computedAt security benchmark)[i]? =
      security[i]?.bind fun bar => (rsVsNifty security benchmark)[i]?.bind fun rs =>
        (rsRatio window (rsVsNifty security benchmark))[i]?.bind fun ratio =>
          (rsMomentum window (rsVsNifty security benchmark))[i]?.map fun momentum =>
            RrgPoint.of symbol benchmarkSymbol computedAt bar rs ratio momentum := by
  rw [computeRrgSeries, List.getElem?_zipWith, List.zip, List.getElem?_zipWith, List.zip,
    List.getElem?_zipWith]
  cases security[i]? <;> cases (rsVsNifty security benchmark)[i]? <;>
    cases (rsRatio window (rsVsNifty security benchmark))[i]? <;>
      cases (rsMomentum window (rsVsNifty security benchmark))[i]? <;> rfl

end Points

end MarketScanner.Analytics
