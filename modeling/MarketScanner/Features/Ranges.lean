import Mathlib.Algebra.BigOperators.Group.List.Lemmas
import Mathlib.Algebra.Order.BigOperators.Group.List
import MarketScanner.Features.Bounded

/-! The ranges of the momentum and volume features over valid bars, and what their zero denominators
give. -/
namespace MarketScanner.Features
open MarketScanner.Library MarketScanner.Python MarketScanner.Market Indicators Series

structure ValidBar (p : DailyPrice) : Prop where
  low_pos : 0 < p.low.toRat
  low_le_open : p.low.toRat ≤ p.openPrice.toRat
  open_le_high : p.openPrice.toRat ≤ p.high.toRat
  low_le_close : p.low.toRat ≤ p.close.toRat
  close_le_high : p.close.toRat ≤ p.high.toRat
  volume_nonneg : 0 ≤ p.volume

/-! ### The quotients that the indicators take -/
section Quotients
variable (df : List DailyPrice) (period : ℕ)

def avgGain : Series := wilderSmooth (clipped (some 0) none (diff (closes df))) period
def avgLoss : Series := wilderSmooth (neg (clipped none (some 0) (diff (closes df)))) period

/-- The relative strength: the average gain over the average loss. -/
def strength : Series := div (avgGain df period) (replaceZero (avgLoss df period))

/-- The upward directional movement of each day. -/
def plusDm : Series :=
  whereOr (diff (highs df)) (Flags.and (gt (diff (highs df)) (neg (diff (lows df))))
    (above (diff (highs df)) 0)) (.finite 0)

def minusDm : Series :=
  whereOr (neg (diff (lows df))) (Flags.and (gt (neg (diff (lows df))) (diff (highs df)))
    (above (neg (diff (lows df))) 0)) (.finite 0)

def ranges : Series := trueRange (highs df) (lows df) (closes df)

def plusDi : Series :=
  div (scale 100 (wilderSmooth (plusDm df) period)) (replaceZero (wilderSmooth (ranges df) period))

def minusDi : Series :=
  div (scale 100 (wilderSmooth (minusDm df) period)) (replaceZero (wilderSmooth (ranges df) period))

def diSum : Series := add (plusDi df period) (minusDi df period)

/-- The directional index, with the days on which it is missing filled with zero. -/
def dxFilled : Series :=
  fillna 0 (div (scale 100 (abs (sub (plusDi df period) (minusDi df period))))
    (replaceZero (diSum df period)))

/-- Where in its range each bar closed, from -1 at the low to 1 at the high. -/
def moneyFlowMultiplier : Series :=
  div (sub (sub (closes df) (lows df)) (sub (highs df) (closes df)))
    (replaceZero (sub (highs df) (lows df)))

def moneyFlowVolume : Series := mul (fillna 0 (moneyFlowMultiplier df)) (volumes df)

def volumeSum : Series := rolling 20 total (volumes df)

/-- The accumulation score before it is clipped. -/
def accumulationShare : Series :=
  scale 100 (div (rolling 20 total (clipped (some 0) none (moneyFlowVolume df)))
    (replaceZero (volumeSum df)))

def distributionShare : Series :=
  scale 100 (div (rolling 20 total (clipped (some 0) none (neg (moneyFlowVolume df))))
    (replaceZero (volumeSum df)))

theorem rsi_eq : rsi (closes df) period =
    whereOr ((strength df period).map fun x =>
      PyFloat.sub (.finite 100) (divide (.finite 100) (PyFloat.add (.finite 1) x)))
      (differs (avgLoss df period) 0) (.finite 100) := rfl

theorem adx_eq : adx (highs df) (lows df) (closes df) period =
    ⟨wilderSmooth (dxFilled df period) period,plusDi df period,minusDi df period⟩ := rfl

end Quotients

section Columns
variable (df : List DailyPrice)

/-- A column that holds a number for every bar. -/
theorem entries_of_bars {P : ℚ → Prop} {f : DailyPrice → ℚ} (h : ∀ p ∈ df, P (f p)) :
    Entries P (df.map fun p => .finite (f p)) := by
  intro x hx
  obtain ⟨p,hp,rfl⟩ := List.mem_map.mp hx
  exact h p hp

theorem entries_any (f : DailyPrice → ℚ) :
    Entries (fun _ => True) (df.map fun p => .finite (f p)) := entries_of_bars df fun _ _ => trivial

theorem entries_diff {a : Series} (h : Entries (fun _ => True) a) :
    Entries (fun _ => True) (diff a) := h.sub (fun _ _ _ _ => trivial) (h.shifted 1)

theorem getElem?_shifted_zero {a : Series} (h : 0 < a.length) : (shifted 1 a)[0]? = some .nan := by
  rw [shifted, getElem?_shift 1 PyFloat.nan a h]
  rfl

theorem getElem?_shifted_succ {a : Series} {i : ℕ} (h : i+1 < a.length) :
    (shifted 1 a)[i+1]? = a[i]? := by
  rw [shifted, getElem?_shift 1 PyFloat.nan a h]
  simp

theorem zipWith_entry {α β γ : Type*} (f : α → β → γ) {xs : List α} {ys : List β} {i : ℕ} {x : α}
    {y : β} (hx : xs[i]? = some x) (hy : ys[i]? = some y) :
    (List.zipWith f xs ys)[i]? = some (f x y) := by
  rw [List.getElem?_zipWith, hx, hy]

theorem bar_entry {df : List DailyPrice} (f : DailyPrice → ℚ) {i : ℕ} {p : DailyPrice}
    (hp : df[i]? = some p) : (df.map fun p => PyFloat.finite (f p))[i]? = some (.finite (f p)) := by
  rw [List.getElem?_map, hp]
  rfl

theorem getElem?_diff_zero {df : List DailyPrice} (f : DailyPrice → ℚ) {p : DailyPrice}
    (hp : df[0]? = some p) : (diff (df.map fun p => .finite (f p)))[0]? = some .nan := by
  have hi : 0 < df.length := (List.getElem?_eq_some_iff.mp hp).choose
  exact zipWith_entry _ (bar_entry f hp) (getElem?_shifted_zero (by simpa using hi))

theorem getElem?_diff_succ {df : List DailyPrice} (f : DailyPrice → ℚ) {i : ℕ} {p q : DailyPrice}
    (hp : df[i]? = some p) (hq : df[i+1]? = some q) :
    (diff (df.map fun p => .finite (f p)))[i+1]? = some (.finite (f q-f p)) := by
  have hi : i+1 < df.length := (List.getElem?_eq_some_iff.mp hq).choose
  have hprev := (getElem?_shifted_succ (by simpa using hi)).trans (bar_entry f hp)
  rw [diff, Series.sub, zipWith_entry _ (bar_entry f hq) hprev, sub_eq_add_neg]
  rfl

end Columns

section Smoothing
variable {period : ℕ}

theorem alpha_pos (h : 0 < period) : (0 : ℚ) < 1/period := by positivity

theorem alpha_le_one (h : 0 < period) : (1 : ℚ)/period ≤ 1 := by
  rw [div_le_one (by positivity)]
  exact_mod_cast h

/-- Wilder's smoothing stays between bounds. -/
theorem entries_wilderSmooth {P : ℚ → Prop} (h : 0 < period)
    (hP : ∀ a b x y, 0 ≤ a → 0 < b → P x → P y → P (blend a b x y)) {a : Series}
    (ha : Entries P a) : Entries P (wilderSmooth a period) :=
  ha.ewm (alpha_pos h) (alpha_le_one h) period hP

end Smoothing

/-! ### RSI -/
section Rsi
variable (df : List DailyPrice) {period : ℕ}

theorem blend_nonneg (a b x y : ℚ) (ha : 0 ≤ a) (hb : 0 < b) (hx : 0 ≤ x) (hy : 0 ≤ y) :
    0 ≤ blend a b x y := le_blend ha hb hx hy

theorem nanOr_raised {x : PyFloat} (hx : NanOr (fun _ => True) x) :
    NanOr (fun q => 0 ≤ q) (clip (some 0) none x) := by
  cases x with
  | nan => simp [clip, PyFloat.lt, PyFloat.le]
  | inf s => exact absurd hx (not_nanOr_inf _ s)
  | finite q =>
    by_cases h : q < 0
    · simp [clip, h]
    · simpa [clip, h] using not_lt.mp h

theorem nanOr_lowered {x : PyFloat} (hx : NanOr (fun _ => True) x) :
    NanOr (fun q => q ≤ 0) (clip none (some 0) x) := by
  cases x with
  | nan => simp [clip, PyFloat.lt, PyFloat.le]
  | inf s => exact absurd hx (not_nanOr_inf _ s)
  | finite q =>
    by_cases h : 0 < q
    · simp [clip, h]
    · simpa [clip, h] using not_lt.mp h

theorem entries_avgGain (h : 0 < period) : Entries (fun q => 0 ≤ q) (avgGain df period) :=
  entries_wilderSmooth h blend_nonneg
    ((entries_diff (entries_any df fun p => p.close.toRat)).map fun _ => nanOr_raised)

theorem entries_avgLoss (h : 0 < period) : Entries (fun q => 0 ≤ q) (avgLoss df period) := by
  apply entries_wilderSmooth h blend_nonneg
  apply Entries.map (P := fun q => q ≤ 0)
  · exact fun x hx => hx.neg fun q hq => neg_nonneg.mpr hq
  · exact (entries_diff (entries_any df fun p => p.close.toRat)).map fun _ => nanOr_lowered

theorem entries_strength (h : 0 < period) : Entries (fun q => 0 ≤ q) (strength df period) :=
  (entries_avgGain df h).div (fun _ _ hp hq _ => div_nonneg hp hq) (entries_avgLoss df h)

theorem entries_rsi (h : 0 < period) :
    Entries (fun q => 0 ≤ q ∧ q ≤ 100) (rsi (closes df) period) := by
  rw [rsi_eq]
  apply Entries.whereOr ⟨by norm_num,le_rfl⟩
  apply (entries_strength df h).map
  intro x hx
  cases x with
  | nan => trivial
  | inf s => exact absurd hx (not_nanOr_inf _ s)
  | finite r =>
    have hpos : (0 : ℚ) < 1+r := add_pos_of_pos_of_nonneg one_pos hx
    have hquot : 100/(1+r) ≤ 100 := div_le_self (by norm_num) (le_add_of_nonneg_right hx)
    have hnonneg : 0 ≤ 100/(1+r) := by positivity
    simp only [PyFloat.add, divide, if_neg hpos.ne', PyFloat.sub, PyFloat.neg, nanOr_finite]
    constructor <;> linarith

end Rsi

/-! ### Directional movement -/
section Directional
variable {df : List DailyPrice} {period : ℕ}

/-- The largest of three numbers. -/
theorem rowMax_finite (a b c : ℚ) :
    ∃ m, rowMax [.finite a,.finite b,.finite c] = .finite m ∧ a ≤ m ∧ b ≤ m ∧ c ≤ m := by
  simp only [rowMax, List.foldl_cons, List.foldl_nil, if_true, reduceCtorEq, if_false, lt_finite,
    decide_eq_true_eq]
  by_cases hab : a < b
  · by_cases hbc : b < c
    · exact ⟨c,by simp [hab, hbc],(hab.trans hbc).le,hbc.le,le_rfl⟩
    · exact ⟨b,by simp [hab, hbc],hab.le,le_rfl,not_lt.mp hbc⟩
  · by_cases hac : a < c
    · exact ⟨c,by simp [hab, hac],hac.le,(not_lt.mp hab).trans hac.le,le_rfl⟩
    · exact ⟨a,by simp [hab, hac],le_rfl,not_lt.mp hab,not_lt.mp hac⟩

theorem trueRange_entry {high low close : Series} {i : ℕ} {h l c : PyFloat}
    (hhigh : high[i]? = some h) (hlow : low[i]? = some l) (hprev : (shifted 1 close)[i]? = some c) :
    (trueRange high low close)[i]? = some (rowMax [h.sub l,(h.sub c).abs,(l.sub c).abs]) := by
  simp only [trueRange, List.zip, List.getElem?_zipWith, List.getElem?_map, hhigh, hlow, hprev,
    Option.map_some]

theorem dm_entry {moves others : Series} {i : ℕ} {x y : PyFloat} (hx : moves[i]? = some x)
    (hy : others[i]? = some y) :
    (whereOr moves (Flags.and (gt moves others) (above moves 0)) (.finite 0))[i]? =
      some (if y.lt x && PyFloat.lt (.finite 0) x then x else .finite 0) := by
  simp only [List.getElem?_zipWith, List.getElem?_map, hx, hy, Option.map_some]

/-- The movement that is counted: the larger of the two, where it is one at all. -/
def counted (move other : ℚ) : ℚ := if other < move ∧ 0 < move then move else 0

theorem dm_entry_finite {moves others : Series} {i : ℕ} {x y : ℚ}
    (hx : moves[i]? = some (.finite x)) (hy : others[i]? = some (.finite y)) :
    (whereOr moves (Flags.and (gt moves others) (above moves 0)) (.finite 0))[i]? =
      some (.finite (counted x y)) := by
  rw [dm_entry hx hy, counted, apply_ite PyFloat.finite]
  simp

theorem counted_nonneg (x y : ℚ) : 0 ≤ counted x y := by
  unfold counted
  split
  · rename_i h
    exact h.2.le
  · exact le_rfl

theorem counted_le {x y m : ℚ} (hx : x ≤ m) (hm : 0 ≤ m) : counted x y ≤ m := by
  unfold counted
  split
  · exact hx
  · exact hm

/-- A day moves neither way by more than its true range. -/
theorem beside_dm (h : ∀ p ∈ df, ValidBar p) (i : ℕ) (hi : i < df.length) :
    ∃ up down range, (plusDm df)[i]? = some (.finite up) ∧ (minusDm df)[i]? = some (.finite down) ∧
      (ranges df)[i]? = some (.finite range) ∧ 0 ≤ up ∧ up ≤ range ∧ 0 ≤ down ∧ down ≤ range := by
  have hq : df[i]? = some df[i] := List.getElem?_eq_getElem hi
  have hvalid := h df[i] (List.getElem_mem hi)
  have hrange : df[i].low.toRat ≤ df[i].high.toRat := hvalid.low_le_close.trans hvalid.close_le_high
  have hhigh : (highs df)[i]? = some (.finite df[i].high.toRat) := bar_entry (fun p => p.high.toRat) hq
  have hlow : (lows df)[i]? = some (.finite df[i].low.toRat) := bar_entry (fun p => p.low.toRat) hq
  cases i with
  | zero =>
    have hup : (diff (highs df))[0]? = some .nan := getElem?_diff_zero (fun p => p.high.toRat) hq
    have hdown : (neg (diff (lows df)))[0]? = some .nan := by
      rw [List.getElem?_map, lows, getElem?_diff_zero (fun p => p.low.toRat) hq]
      rfl
    have hprev : (shifted 1 (closes df))[0]? = some .nan :=
      getElem?_shifted_zero (by simpa [closes] using hi)
    refine ⟨0,0,df[0].high.toRat-df[0].low.toRat,dm_entry hup hdown,dm_entry hdown hup,?_,le_rfl,
      by linarith,le_rfl,by linarith⟩
    rw [ranges, trueRange_entry hhigh hlow hprev, sub_eq_add_neg]
    rfl
  | succ j =>
    have hj : j < df.length := by omega
    have hp : df[j]? = some df[j] := List.getElem?_eq_getElem hj
    have hbefore := h df[j] (List.getElem_mem hj)
    have hup : (diff (highs df))[j+1]? = some (.finite (df[j+1].high.toRat-df[j].high.toRat)) :=
      getElem?_diff_succ (fun p => p.high.toRat) hp hq
    have hdown : (neg (diff (lows df)))[j+1]? =
        some (.finite (-(df[j+1].low.toRat-df[j].low.toRat))) := by
      rw [List.getElem?_map, lows, getElem?_diff_succ (fun p => p.low.toRat) hp hq]
      rfl
    have hprev : (shifted 1 (closes df))[j+1]? = some (.finite df[j].close.toRat) :=
      (getElem?_shifted_succ (by simpa [closes] using hi)).trans
        (bar_entry (fun p => p.close.toRat) hp)
    obtain ⟨m,hm,hwidth,habove,hbelow⟩ := rowMax_finite (df[j+1].high.toRat-df[j+1].low.toRat)
      |df[j+1].high.toRat-df[j].close.toRat| |df[j+1].low.toRat-df[j].close.toRat|
    have hclose := hbefore.close_le_high
    have hclose' := hbefore.low_le_close
    have hgain := (le_abs_self (df[j+1].high.toRat-df[j].close.toRat)).trans habove
    have hloss := (neg_le_abs (df[j+1].low.toRat-df[j].close.toRat)).trans hbelow
    have hm' : (ranges df)[j+1]? = some (.finite m) := by
      rw [ranges, trueRange_entry hhigh hlow hprev, ← hm]
      simp [PyFloat.sub, PyFloat.neg, PyFloat.add, PyFloat.abs, sub_eq_add_neg]
    exact ⟨_,_,m,dm_entry_finite hup hdown,dm_entry_finite hdown hup,hm',counted_nonneg _ _,
      counted_le (by linarith) (by linarith),counted_nonneg _ _,
      counted_le (by linarith) (by linarith)⟩

/-- Smoothed alike, a movement stays within the smoothed range, so their quotient is a percentage. -/
theorem entries_di {dm : Series} (hperiod : 0 < period)
    (h : List.Forall₂ (Beside fun x y => 0 ≤ x ∧ x ≤ y) dm (ranges df)) :
    Entries (fun q => 0 ≤ q ∧ q ≤ 100) (div (scale 100 (wilderSmooth dm period))
      (replaceZero (wilderSmooth (ranges df) period))) := by
  rw [div, scale, replaceZero, List.zipWith_map]
  apply entries_zipWith_of_forall₂ _ (forall₂_ewm (alpha_pos hperiod) (alpha_le_one hperiod) period _ h)
  · intro x y hxy
    cases x <;> cases y <;> first | exact hxy.elim | skip
    case nan.nan => trivial
    case finite.finite p q =>
      obtain ⟨hp,hpq⟩ := hxy
      apply NanOr.divide (P := fun r => r = p*100) (Q := fun r => r = q)
      · intro p' q' hp' hq' hne
        have hpos : 0 < q' := lt_of_le_of_ne (by rw [hq']; exact hp.trans hpq) hne.symm
        rw [hp']
        exact ⟨div_nonneg (by linarith) hpos.le,(div_le_iff₀ hpos).mpr (by rw [hq']; linarith)⟩
      · exact rfl
      · exact rfl
  · rintro a b x y x' y' ha hb ⟨hx,hxx'⟩ ⟨hy,hyy'⟩
    exact ⟨le_blend ha hb hx hy,blend_mono ha hb hxx' hyy'⟩

variable (h : ∀ p ∈ df, ValidBar p) (hperiod : 0 < period)
include h hperiod

theorem entries_plusDi : Entries (fun q => 0 ≤ q ∧ q ≤ 100) (plusDi df period) := by
  apply entries_di hperiod
  apply forall₂_of_getElem?
  · simp [plusDm, ranges, trueRange, diff, highs, lows, closes]
  · intro i hi
    obtain ⟨up,down,range,hup,-,hrange,hnonneg,hle,-⟩ :=
      beside_dm h i (by simpa [plusDm, diff, highs, lows] using hi)
    exact ⟨_,_,hup,hrange,hnonneg,hle⟩

theorem entries_minusDi : Entries (fun q => 0 ≤ q ∧ q ≤ 100) (minusDi df period) := by
  apply entries_di hperiod
  apply forall₂_of_getElem?
  · simp [minusDm, ranges, trueRange, diff, highs, lows, closes]
  · intro i hi
    obtain ⟨up,down,range,-,hdown,hrange,-,-,hnonneg,hle⟩ :=
      beside_dm h i (by simpa [minusDm, diff, highs, lows] using hi)
    exact ⟨_,_,hdown,hrange,hnonneg,hle⟩

/-- The directional index compares the two movements with their sum. -/
theorem entries_dxFilled : Entries (fun q => 0 ≤ q ∧ q ≤ 100) (dxFilled df period) := by
  apply Entries.fillna ⟨le_rfl,by norm_num⟩
  have hdx : div (scale 100 (abs (sub (plusDi df period) (minusDi df period))))
      (replaceZero (diSum df period)) =
        List.zipWith (fun x y => divide (((x.sub y).abs).mul (.finite 100))
          (if x.add y = .finite 0 then .nan else x.add y)) (plusDi df period) (minusDi df period) := by
    apply List.ext_getElem?
    intro i
    simp only [diSum, List.getElem?_zipWith, List.getElem?_map]
    cases (plusDi df period)[i]? <;> cases (minusDi df period)[i]? <;> rfl
  rw [hdx]
  apply (entries_plusDi h hperiod).zipWith _ (entries_minusDi h hperiod)
  intro x y hx hy
  cases x with
  | nan => trivial
  | inf s => exact absurd hx (not_nanOr_inf _ s)
  | finite p =>
    cases y with
    | nan => trivial
    | inf s => exact absurd hy (not_nanOr_inf _ s)
    | finite m =>
      apply NanOr.divide (P := fun r => r = |p-m| * 100) (Q := fun r => r = p+m)
      · intro n d hn hd hne
        have hp : 0 ≤ p := hx.1
        have hm : 0 ≤ m := hy.1
        have hpos : 0 < d := lt_of_le_of_ne (by rw [hd]; positivity) hne.symm
        have habs : |p-m| ≤ p+m := abs_le.mpr ⟨by linarith,by linarith⟩
        rw [hn]
        exact ⟨by positivity,(div_le_iff₀ hpos).mpr (by rw [hd]; linarith)⟩
      · simp [PyFloat.sub, PyFloat.neg, PyFloat.add, PyFloat.abs, PyFloat.mul, sub_eq_add_neg]
      · exact rfl

theorem entries_adx :
    Entries (fun q => 0 ≤ q ∧ q ≤ 100) (adx (highs df) (lows df) (closes df) period).adx := by
  rw [adx_eq]
  apply entries_wilderSmooth hperiod _ (entries_dxFilled h hperiod)
  rintro a b x y ha hb ⟨hx,hx'⟩ ⟨hy,hy'⟩
  exact ⟨le_blend ha hb hx hy,blend_le ha hb hx' hy'⟩

end Directional

/-! ### Momentum -/
section Momentum
variable (df : List DailyPrice)

theorem entries_ewm_any {alpha : ℚ} (hpos : 0 < alpha) (hle : alpha ≤ 1) (minPeriods : ℕ)
    {a : Series} (ha : Entries (fun _ => True) a) :
    Entries (fun _ => True) (ewm alpha minPeriods a) :=
  ha.ewm hpos hle minPeriods fun _ _ _ _ _ _ _ _ => trivial

theorem entries_ema (span : ℕ) (hspan : 0 < span) {a : Series} (ha : Entries (fun _ => True) a) :
    Entries (fun _ => True) (ema a span) := by
  have hone : (1 : ℚ) ≤ span := by exact_mod_cast hspan
  apply entries_ewm_any (by positivity) _ span ha
  rw [div_le_one (by positivity)]
  linarith

theorem proper_scale (c : ℚ) {a : Series} (ha : Entries (fun _ => True) a) :
    Entries (fun _ => True) (scale c a) := ha.scale fun _ _ => trivial

theorem entries_macd_line : Entries (fun _ => True) (macd (closes df)).line :=
  (entries_ema 12 (by norm_num) (entries_any df fun p => p.close.toRat)).sub
    (fun _ _ _ _ => trivial) (entries_ema 26 (by norm_num) (entries_any df fun p => p.close.toRat))

theorem entries_macd_signal : Entries (fun _ => True) (macd (closes df)).signal :=
  entries_ewm_any (by norm_num) (by norm_num) 9 (entries_macd_line df)

theorem entries_macd_histogram : Entries (fun _ => True) (macd (closes df)).histogram :=
  (entries_macd_line df).sub (fun _ _ _ _ => trivial) (entries_macd_signal df)

/-- The histogram in percent of the close. -/
def macdHistPct : Series :=
  scale 100 (div (macd (closes df)).histogram (replaceZero (closes df)))

theorem entries_macdHistPct : Entries (fun _ => True) (macdHistPct df) :=
  proper_scale _ ((entries_macd_histogram df).div (fun _ _ _ _ _ => trivial)
    (entries_any df fun p => p.close.toRat))

theorem entries_momentumScore :
    Entries (fun q => -100 ≤ q ∧ q ≤ 100) (clipped (some (-100)) (some 100)
      (add (scale 2 (scale (1/2) (plus (-50) (rsi (closes df) 14))))
        (scale (1/2) (clipped (some (-100)) (some 100) (scale 50 (macdHistPct df)))))) := by
  have hrsi : Entries (fun _ => True) (rsi (closes df) 14) :=
    (entries_rsi df (by norm_num)).imp fun _ _ => trivial
  have hfromRsi : Entries (fun _ => True) (scale 2 (scale (1/2) (plus (-50) (rsi (closes df) 14)))) :=
    proper_scale 2 (proper_scale (1/2) (hrsi.plus fun _ _ => trivial))
  have hclipped := (proper_scale 50 (entries_macdHistPct df)).clipped
    (by norm_num : (-100 : ℚ) ≤ 100)
  have hfromMacd := proper_scale (1/2) (hclipped.imp fun _ _ => trivial)
  have hsum : Entries (fun _ => True) _ := hfromRsi.add (fun _ _ _ _ => trivial) hfromMacd
  exact hsum.clipped (by norm_num)

end Momentum

/-! ### Volume -/
section Volume
variable (df : List DailyPrice)

/-- The part of a bar's volume that it closed up with, negative where it closed down. -/
def moneyFlow (p : DailyPrice) : ℚ :=
  (if p.high.toRat-p.low.toRat = 0 then 0
    else ((p.close.toRat-p.low.toRat)-(p.high.toRat-p.close.toRat))/(p.high.toRat-p.low.toRat))*
    p.volume

theorem moneyFlowVolume_eq : moneyFlowVolume df = df.map fun p => .finite (moneyFlow p) := by
  apply List.ext_getElem?
  intro i
  simp only [moneyFlowVolume, moneyFlowMultiplier, closes, lows, highs, volumes,
    List.getElem?_zipWith, List.getElem?_map]
  cases df[i]? with
  | none => rfl
  | some p =>
    simp only [Option.map_some, PyFloat.sub, PyFloat.neg, PyFloat.add, ← sub_eq_add_neg, moneyFlow]
    by_cases hflat : p.high.toRat-p.low.toRat = 0
    · simp [hflat, divide, PyFloat.mul]
    · simp [hflat, divide, PyFloat.mul]

/-- No more than the volume is taken to have closed up or down. -/
theorem abs_moneyFlow_le {p : DailyPrice} (h : ValidBar p) : |moneyFlow p| ≤ p.volume := by
  have hlow := h.low_le_close
  have hhigh := h.close_le_high
  have hvolume : (0 : ℚ) ≤ p.volume := by exact_mod_cast h.volume_nonneg
  rw [moneyFlow, abs_mul, abs_of_nonneg hvolume]
  apply mul_le_of_le_one_left hvolume
  split
  · simp
  · rename_i hflat
    have hpos : 0 < p.high.toRat-p.low.toRat := lt_of_le_of_ne (by linarith) (Ne.symm hflat)
    rw [abs_div, abs_of_pos hpos, div_le_one hpos, abs_le]
    constructor <;> linarith

/-- The volume of the twenty bars up to a day. -/
def volumeOf (i : ℕ) : ℚ := ((lastOf 20 df i).map fun p => (p.volume : ℚ)).sum

/-- The share of the last twenty bars' volume that a part of each bar's volume makes up. -/
theorem getElem?_share (part : DailyPrice → ℚ) {i : ℕ} (hi : i < df.length) :
    (scale 100 (div (rolling 20 total (df.map fun p => .finite (part p)))
      (replaceZero (volumeSum df))))[i]? =
        some (if 20 ≤ i+1 ∧ volumeOf df i ≠ 0 then
          .finite (((lastOf 20 df i).map part).sum/volumeOf df i*100) else .nan) := by
  have hcolumn : ∀ f : DailyPrice → ℚ, (rolling 20 total (df.map fun p => .finite (f p)))[i]? =
      some (if 20 ≤ i+1 then .finite ((lastOf 20 df i).map f).sum else .nan) := by
    intro f
    have hmap : (df.map fun p => PyFloat.finite (f p)) = (df.map f).map PyFloat.finite := by simp
    rw [hmap, getElem?_rolling 20 total _ (by simpa using hi)]
    simp [total, lastOf]
  have hvolume := hcolumn fun p => (p.volume : ℚ)
  rw [← volumeOf] at hvolume
  simp only [volumeSum, volumes, List.getElem?_map, List.getElem?_zipWith, hcolumn part, hvolume,
    Option.map_some]
  by_cases hfull : 20 ≤ i+1
  · by_cases hzero : volumeOf df i = 0
    · simp [hfull, hzero, divide, PyFloat.mul]
    · simp [hfull, hzero, divide, PyFloat.mul]
  · simp [hfull, divide, PyFloat.mul]

/-- The part of a number above zero. -/
def positivePart (x : ℚ) : ℚ := if x < 0 then 0 else x

theorem clip_zero (x : ℚ) : clip (some 0) none (.finite x) = .finite (positivePart x) := by
  simp only [clip, lt_finite, decide_eq_true_eq, positivePart]
  exact (apply_ite PyFloat.finite _ _ _).symm

theorem positivePart_nonneg (x : ℚ) : 0 ≤ positivePart x := by
  unfold positivePart
  split
  · exact le_rfl
  · rename_i h
    exact not_lt.mp h

theorem positivePart_add_neg (x : ℚ) : positivePart x+positivePart (-x) = |x| := by
  unfold positivePart
  split_ifs with hneg hpos hpos
  · linarith
  · rw [abs_of_neg hneg, zero_add]
  · rw [abs_of_nonneg (not_lt.mp hneg), add_zero]
  · have hzero : x = 0 := by linarith
    simp [hzero]

theorem getElem?_accumulationShare {i : ℕ} (hi : i < df.length) :
    (accumulationShare df)[i]? = some (if 20 ≤ i+1 ∧ volumeOf df i ≠ 0 then
      .finite (((lastOf 20 df i).map fun p => positivePart (moneyFlow p)).sum/volumeOf df i*100)
      else .nan) := by
  rw [accumulationShare, clipped, moneyFlowVolume_eq, List.map_map, ← getElem?_share df _ hi]
  simp only [Function.comp_def, clip_zero]

theorem getElem?_distributionShare {i : ℕ} (hi : i < df.length) :
    (distributionShare df)[i]? = some (if 20 ≤ i+1 ∧ volumeOf df i ≠ 0 then
      .finite (((lastOf 20 df i).map fun p => positivePart (-moneyFlow p)).sum/volumeOf df i*100)
      else .nan) := by
  rw [distributionShare, clipped, moneyFlowVolume_eq, neg, List.map_map, List.map_map,
    ← getElem?_share df _ hi]
  simp only [Function.comp_def, PyFloat.neg, clip_zero]

/-- Before they are clipped the two scores are there together, and share a hundred percent. -/
theorem beside_shares (h : ∀ p ∈ df, ValidBar p) {i : ℕ} (hi : i < df.length) :
    ∃ x y, (accumulationShare df)[i]? = some x ∧ (distributionShare df)[i]? = some y ∧
      Beside (fun a d => 0 ≤ a ∧ 0 ≤ d ∧ a+d ≤ 100) x y := by
  refine ⟨_,_,getElem?_accumulationShare df hi,getElem?_distributionShare df hi,?_⟩
  by_cases hcase : 20 ≤ i+1 ∧ volumeOf df i ≠ 0
  · rw [if_pos hcase, if_pos hcase]
    have hmem : ∀ p ∈ lastOf 20 df i, ValidBar p :=
      fun p hp => h p (List.mem_of_mem_take (List.mem_of_mem_drop hp))
    have hvolume : 0 ≤ volumeOf df i := by
      apply List.sum_nonneg
      intro x hx
      obtain ⟨p,hp,rfl⟩ := List.mem_map.mp hx
      exact_mod_cast (hmem p hp).volume_nonneg
    have hpos : 0 < volumeOf df i := lt_of_le_of_ne hvolume (Ne.symm hcase.2)
    have hnonneg : ∀ f : DailyPrice → ℚ,
        0 ≤ ((lastOf 20 df i).map fun p => positivePart (f p)).sum := by
      intro f
      apply List.sum_nonneg
      intro x hx
      obtain ⟨p,-,rfl⟩ := List.mem_map.mp hx
      exact positivePart_nonneg _
    have hsum : ((lastOf 20 df i).map fun p => positivePart (moneyFlow p)).sum+
        ((lastOf 20 df i).map fun p => positivePart (-moneyFlow p)).sum ≤ volumeOf df i := by
      rw [← List.sum_map_add]
      apply List.sum_le_sum
      intro p hp
      rw [positivePart_add_neg]
      exact abs_moneyFlow_le (hmem p hp)
    refine ⟨mul_nonneg (div_nonneg (hnonneg _) hvolume) (by norm_num),
      mul_nonneg (div_nonneg (hnonneg _) hvolume) (by norm_num),?_⟩
    rw [← add_mul, ← add_div]
    have hone := (div_le_one hpos).mpr hsum
    linarith
  · rw [if_neg hcase, if_neg hcase]
    trivial

end Volume

/-! ### All of them -/

/-- A column of a frame without an infinite number. -/
def Proper (c : Column × List Cell) : Prop := ∀ x, Cell.num x ∈ c.2 → NanOr (fun _ => True) x

/-- A column of numbers between two bounds, where it is defined. -/
def Between (lower upper : ℚ) (cells : List Cell) : Prop :=
  ∃ a : Series, cells = a.map Cell.num ∧ Entries (fun q => lower ≤ q ∧ q ≤ upper) a

structure IndicatorRanges (df : List DailyPrice) : Prop where
  rsi : Between 0 100 ((momentumFeatures df).column .rsi14)
  plusDi : Between 0 100 ((momentumFeatures df).column .plusDi14)
  minusDi : Between 0 100 ((momentumFeatures df).column .minusDi14)
  adx : Between 0 100 ((momentumFeatures df).column .adx14)
  momentumScore : Between (-100) 100 ((momentumFeatures df).column .momentumScore)
  accumulation : Between 0 100 ((volumeFeatures df).column .accumulationScore)
  distribution : Between 0 100 ((volumeFeatures df).column .distributionScore)
  accumulationClipped : (volumeFeatures df).column .accumulationScore =
    (clipped (some 0) (some 100) (accumulationShare df)).map Cell.num
  distributionClipped : (volumeFeatures df).column .distributionScore =
    (clipped (some 0) (some 100) (distributionShare df)).map Cell.num
  unclipped : ∀ i < df.length, ∃ x y, (accumulationShare df)[i]? = some x ∧
    (distributionShare df)[i]? = some y ∧ Beside (fun a d => 0 ≤ a ∧ 0 ≤ d ∧ a+d ≤ 100) x y
  neverInfinite : ∀ c ∈ momentumFeatures df ++ volumeFeatures df, Proper c

/-- What stands for a quotient on a day on which its divisor is zero. -/
structure ZeroDivisors (df : List DailyPrice) (i : ℕ) : Prop where
  noLoss : (avgLoss df 14)[i]? = some (.finite 0) →
    ((momentumFeatures df).column .rsi14)[i]? = some (.num (.finite 100))
  noRange : (wilderSmooth (ranges df) 14)[i]? = some (.finite 0) →
    ((momentumFeatures df).column .plusDi14)[i]? = some (.num .nan) ∧
      ((momentumFeatures df).column .minusDi14)[i]? = some (.num .nan)
  noMovement : (diSum df 14)[i]? = some (.finite 0) → (dxFilled df 14)[i]? = some (.finite 0)
  flatBar : ∀ p, df[i]? = some p → p.high.toRat = p.low.toRat →
    (fillna 0 (moneyFlowMultiplier df))[i]? = some (.finite 0)
  noVolume : (volumeSum df)[i]? = some (.finite 0) →
    ((volumeFeatures df).column .accumulationScore)[i]? = some (.num .nan) ∧
      ((volumeFeatures df).column .distributionScore)[i]? = some (.num .nan)
  noAverage : (sma (volumes df) 20)[i]? = some (.finite 0) →
    ((volumeFeatures df).column .relativeVolume)[i]? = some (.num .nan)

theorem column_accumulationScore (df : List DailyPrice) :
    (volumeFeatures df).column .accumulationScore =
      (clipped (some 0) (some 100) (accumulationShare df)).map Cell.num := by
  unfold Frame.column volumeFeatures
  rfl

theorem column_distributionScore (df : List DailyPrice) :
    (volumeFeatures df).column .distributionScore =
      (clipped (some 0) (some 100) (distributionShare df)).map Cell.num := by
  unfold Frame.column volumeFeatures
  rfl

theorem div_entry_zero {a b : Series} {i : ℕ} (hb : b[i]? = some (.finite 0))
    (hlength : a.length = b.length) : (div a (replaceZero b))[i]? = some .nan := by
  have hi : i < a.length := by
    rw [hlength]
    exact (List.getElem?_eq_some_iff.mp hb).choose
  have hdivisor : (replaceZero b)[i]? = some .nan := by
    rw [List.getElem?_map, hb]
    rfl
  rw [div, zipWith_entry _ (List.getElem?_eq_getElem hi) hdivisor]
  cases a[i] <;> rfl

theorem zeroDivisors (df : List DailyPrice) (i : ℕ) : ZeroDivisors df i where
  noLoss := by
    intro hloss
    have hrsi : (rsi (closes df) 14)[i]? = some (.finite 100) := by
      have hstrength : (strength df 14)[i]? = some .nan :=
        div_entry_zero hloss (by simp [avgGain, avgLoss, wilderSmooth, ewm])
      rw [rsi_eq, whereOr]
      simp only [List.getElem?_zipWith, List.getElem?_map, hstrength, hloss, Option.map_some]
      simp [PyFloat.eq, PyFloat.le]
    exact (List.getElem?_map ..).trans (by rw [hrsi]; rfl)
  noRange := by
    intro hrange
    have hlength : ∀ dm : Series, dm.length = df.length →
        (scale 100 (wilderSmooth dm 14)).length = (wilderSmooth (ranges df) 14).length := by
      intro dm hdm
      simp [wilderSmooth, ewm, hdm, ranges, trueRange, highs, lows, closes]
    have hplus : (plusDi df 14)[i]? = some .nan :=
      div_entry_zero hrange (hlength _ (by simp [plusDm, diff, highs, lows]))
    have hminus : (minusDi df 14)[i]? = some .nan :=
      div_entry_zero hrange (hlength _ (by simp [minusDm, diff, highs, lows]))
    exact ⟨(List.getElem?_map ..).trans (by rw [adx_eq, hplus]; rfl),
      (List.getElem?_map ..).trans (by rw [adx_eq, hminus]; rfl)⟩
  noMovement := by
    intro hsum
    rw [dxFilled, List.getElem?_map, div_entry_zero hsum (by simp [diSum])]
    rfl
  flatBar := by
    intro p hp hflat
    have hhigh : (highs df)[i]? = some (.finite p.high.toRat) := bar_entry (fun p => p.high.toRat) hp
    have hlow : (lows df)[i]? = some (.finite p.low.toRat) := bar_entry (fun p => p.low.toRat) hp
    have hrange : (sub (highs df) (lows df))[i]? = some (.finite 0) := by
      rw [sub, zipWith_entry _ hhigh hlow, hflat]
      simp [PyFloat.sub, PyFloat.neg, PyFloat.add]
    rw [moneyFlowMultiplier, List.getElem?_map,
      div_entry_zero hrange (by simp [highs, lows, closes])]
    rfl
  noVolume := by
    intro hvolume
    have hnan : ∀ part : Series, part.length = df.length →
        ((clipped (some 0) (some 100) (scale 100 (div (rolling 20 total part)
          (replaceZero (volumeSum df))))).map Cell.num)[i]? = some (.num .nan) := by
      intro part hpart
      have hlength : (rolling 20 total part).length = (volumeSum df).length := by
        simp [rolling, volumeSum, volumes, hpart]
      rw [clipped, scale, List.getElem?_map, List.getElem?_map, List.getElem?_map,
        div_entry_zero hvolume hlength]
      rfl
    rw [column_accumulationScore, column_distributionScore, accumulationShare, distributionShare]
    exact ⟨hnan _ (by simp [moneyFlowVolume_eq]),hnan _ (by simp [moneyFlowVolume_eq])⟩
  noAverage := by
    intro haverage
    have hquot : (div (volumes df) (replaceZero (sma (volumes df) 20)))[i]? = some .nan :=
      div_entry_zero haverage (by simp [sma, rolling])
    exact (List.getElem?_map ..).trans (by rw [hquot]; rfl)

/-! ### Nothing is infinite -/

theorem proper_numbers {P : ℚ → Prop} (c : Column) {a : Series} (ha : Entries P a) :
    Proper (numbers c a) := by
  intro x hx
  obtain ⟨y,hy,heq⟩ := List.mem_map.mp hx
  obtain rfl := Cell.num.inj heq
  exact (ha y hy).imp fun _ _ => trivial

theorem proper_flags (c : Column) (marks : Flags) : Proper (flags c marks) := by
  intro x hx
  obtain ⟨b,-,heq⟩ := List.mem_map.mp hx
  cases heq

theorem nanOr_sign {P : ℚ → Prop} (x : PyFloat) (hminus : P (-1)) (hzero : P 0) (hone : P 1) :
    NanOr P (sign x) := by
  unfold sign
  split_ifs
  · exact hminus
  · exact hone
  · trivial
  · exact hzero

theorem entries_cumsum {a : Series} (ha : Entries (fun _ => True) a) :
    Entries (fun _ => True) (cumsum a) := by
  refine forall_mem_accumulate (I := NanOr fun _ => True) ?_ trivial ha
  intro sum x hsum hx
  by_cases hnan : x = .nan
  · simpa [hnan] using hsum
  · have hnext : NanOr (fun _ => True) (sum.add x) := hsum.add (fun _ _ _ _ => trivial) hx
    simpa [hnan] using hnext

theorem entries_obv (df : List DailyPrice) :
    Entries (fun _ => True) (obv (closes df) (volumes df)) := by
  have hdiff := entries_diff (entries_any df fun p => p.close.toRat)
  have hdirection : Entries (fun _ => True) (List.map sign (fillna 0 (diff (closes df)))) :=
    (hdiff.fillna trivial).map fun x _ => nanOr_sign x trivial trivial trivial
  exact entries_cumsum (hdirection.mul (fun _ _ _ _ => trivial) (entries_any df fun p => p.volume))

theorem entries_sma {a : Series} (period : ℕ) (ha : Entries (fun _ => True) a) :
    Entries (fun _ => True) (sma a period) := ha.rolling fun _ _ _ => trivial

theorem entries_share (df : List DailyPrice) {part : Series} (hpart : Entries (fun _ => True) part) :
    Entries (fun _ => True) (scale 100 (div (rolling 20 total part) (replaceZero (volumeSum df)))) := by
  have hvolume : Entries (fun _ => True) (volumes df) := entries_any df fun p => p.volume
  have hparts : Entries (fun _ => True) (rolling 20 total part) := hpart.rolling fun _ _ _ => trivial
  have hsum : Entries (fun _ => True) (volumeSum df) := hvolume.rolling fun _ _ _ => trivial
  exact proper_scale _ (hparts.div (fun _ _ _ _ _ => trivial) hsum)

theorem entries_moneyFlow (df : List DailyPrice) {f : PyFloat → PyFloat}
    (hf : ∀ q, ∃ r, f (.finite q) = .finite r) :
    Entries (fun _ => True) ((moneyFlowVolume df).map f) := by
  rw [moneyFlowVolume_eq, List.map_map]
  intro x hx
  obtain ⟨p,-,rfl⟩ := List.mem_map.mp hx
  obtain ⟨r,hr⟩ := hf (moneyFlow p)
  rw [Function.comp_apply, hr]
  trivial

theorem entries_accumulationScore (df : List DailyPrice) : Entries (fun q => 0 ≤ q ∧ q ≤ 100)
    (clipped (some 0) (some 100) (accumulationShare df)) :=
  (entries_share df (entries_moneyFlow df fun q => ⟨_,clip_zero q⟩)).clipped (by norm_num)

theorem entries_distributionScore (df : List DailyPrice) : Entries (fun q => 0 ≤ q ∧ q ≤ 100)
    (clipped (some 0) (some 100) (distributionShare df)) := by
  have hpart : Entries (fun _ => True) (clipped (some 0) none (neg (moneyFlowVolume df))) := by
    rw [clipped, neg, List.map_map]
    exact entries_moneyFlow df fun q => ⟨_,clip_zero (-q)⟩
  exact (entries_share df hpart).clipped (by norm_num)

section Frames
variable {df : List DailyPrice}

theorem proper_momentum (h : ∀ p ∈ df, ValidBar p) : ∀ c ∈ momentumFeatures df, Proper c := by
  unfold momentumFeatures
  simp only [List.forall_mem_cons]
  exact ⟨proper_numbers _ (entries_rsi df (by norm_num)),proper_numbers _ (entries_macd_line df),
    proper_numbers _ (entries_macd_signal df),proper_numbers _ (entries_macd_histogram df),
    proper_numbers _ (entries_adx h (by norm_num)),
    proper_numbers _ (entries_plusDi h (by norm_num)),
    proper_numbers _ (entries_minusDi h (by norm_num)),
    proper_numbers _ (entries_momentumScore df),List.forall_mem_nil _⟩

theorem proper_volume : ∀ c ∈ volumeFeatures df, Proper c := by
  have hvolume : Entries (fun _ => True) (volumes df) := entries_any df fun p => p.volume
  have haverage := entries_sma 20 hvolume
  unfold volumeFeatures
  simp only [List.forall_mem_cons]
  exact ⟨proper_numbers _ haverage,
    proper_numbers _ (hvolume.div (R := fun _ => True) (fun _ _ _ _ _ => trivial) haverage),
    proper_numbers _ (entries_obv df),proper_flags _ _,proper_flags _ _,
    proper_numbers _ (entries_accumulationScore df),
    proper_numbers _ (entries_distributionScore df),List.forall_mem_nil _⟩

theorem indicatorRanges (h : ∀ p ∈ df, ValidBar p) :
    IndicatorRanges df ∧ ∀ i, ZeroDivisors df i where
  left := {
    rsi := ⟨_,rfl,entries_rsi df (by norm_num)⟩
    plusDi := ⟨_,rfl,entries_plusDi h (by norm_num)⟩
    minusDi := ⟨_,rfl,entries_minusDi h (by norm_num)⟩
    adx := ⟨_,rfl,entries_adx h (by norm_num)⟩
    momentumScore := ⟨_,rfl,entries_momentumScore df⟩
    accumulation := ⟨_,column_accumulationScore df,entries_accumulationScore df⟩
    distribution := ⟨_,column_distributionScore df,entries_distributionScore df⟩
    accumulationClipped := column_accumulationScore df
    distributionClipped := column_distributionScore df
    unclipped := fun i hi => beside_shares df h hi
    neverInfinite := List.forall_mem_append.mpr ⟨proper_momentum h,proper_volume⟩
  }
  right := zeroDivisors df

end Frames

theorem validBar_barAt (day : ℤ) {units : ℤ} (h : 0 < units) : ValidBar (barAt day units) where
  low_pos := by
    have hunits : (0 : ℚ) < units := by exact_mod_cast h
    exact div_pos hunits (by norm_num)
  low_le_open := le_rfl
  open_le_high := le_rfl
  low_le_close := le_rfl
  close_le_high := le_rfl
  volume_nonneg := by norm_num [barAt]

/-- Forty days on which the price did not move. -/
theorem indicatorRanges_flat :
    IndicatorRanges ((List.range 40).map fun (day : ℕ) => barAt day 1000000) ∧
      ∀ i, ZeroDivisors ((List.range 40).map fun (day : ℕ) => barAt day 1000000) i := by
  apply indicatorRanges
  intro p hp
  obtain ⟨day,-,rfl⟩ := List.mem_map.mp hp
  exact validBar_barAt day (by norm_num)

end MarketScanner.Features
