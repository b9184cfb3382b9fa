import Mathlib.Algebra.Order.Group.Unbundled.Abs
import Mathlib.Algebra.Ring.Int.Parity
import Mathlib.Data.Int.Log
import Mathlib.Algebra.Order.Ring.Rat
import Mathlib.Tactic.Linarith
import Mathlib.Tactic.Ring
import Mathlib.Tactic.NormNum
import Mathlib.Tactic.Positivity
import MarketScanner.Python.Values

/-! Rounding half to even, to whole numbers and to the significant digits of the default decimal
context. -/
namespace MarketScanner.Python
open MarketScanner.Library

namespace PyFloat

theorem floor_le_roundHalfEven (q : ℚ) : q.floor ≤ roundHalfEven q := by
  unfold roundHalfEven
  dsimp only
  split_ifs <;> omega

theorem roundHalfEven_le_floor (q : ℚ) : roundHalfEven q ≤ q.floor+1 := by
  unfold roundHalfEven
  dsimp only
  split_ifs <;> omega

theorem roundHalfEven_mono {x y : ℚ} (hxy : x ≤ y) : roundHalfEven x ≤ roundHalfEven y := by
  rcases (Rat.floor_monotone hxy).lt_or_eq with hlt | heq
  · have hx := roundHalfEven_le_floor x
    have hy := floor_le_roundHalfEven y
    omega
  · unfold roundHalfEven
    dsimp only
    rw [← heq]
    split_ifs <;> first | omega | linarith

theorem roundHalfEven_intCast (n : ℤ) : roundHalfEven (n : ℚ) = n := by
  have hfloor : (n : ℚ).floor = n := Rat.floor_intCast n
  unfold roundHalfEven
  rw [hfloor]
  norm_num

theorem isRounding_roundHalfEven : IsRounding roundHalfEven :=
  ⟨fun _ _ => roundHalfEven_mono,roundHalfEven_intCast⟩

/-- Rounding is symmetric about zero. -/
theorem roundHalfEven_neg (x : ℚ) : roundHalfEven (-x) = -roundHalfEven x := by
  have hlow : (x.floor : ℚ) ≤ x := Rat.floor_le x
  have hhigh : x < (x.floor : ℚ)+1 := by exact_mod_cast Rat.lt_floor_add_one x
  rcases hlow.eq_or_lt with heq | hlt
  · rw [← heq, ← Int.cast_neg, roundHalfEven_intCast, roundHalfEven_intCast]
  · have hfloor : (-x).floor = -x.floor-1 := by
      refine (Int.floor_eq_iff (a := -x)).mpr ⟨?_,?_⟩
      · push_cast
        linarith
      · push_cast
        linarith
    unfold roundHalfEven
    dsimp only
    rw [hfloor]
    push_cast
    split_ifs <;> first | omega | linarith

/-- A tie is rounded to the even neighbour. -/
theorem le_roundHalfEven_iff {n : ℤ} (hn : n % 2 = 0) (x : ℚ) :
    n ≤ roundHalfEven x ↔ (n : ℚ)-1/2 ≤ x := by
  have hlow : (x.floor : ℚ) ≤ x := Rat.floor_le x
  have hhigh : x < (x.floor : ℚ)+1 := by exact_mod_cast Rat.lt_floor_add_one x
  unfold roundHalfEven
  dsimp only
  generalize x.floor = f at hlow hhigh ⊢
  have hcast : ∀ m : ℤ, n ≤ m ↔ (n : ℚ) ≤ m := fun m => Int.cast_le.symm
  have hstrict : ∀ m : ℤ, n ≤ m ↔ (n : ℚ) < m+1 := by
    intro m
    rw [← Int.lt_add_one_iff]
    exact_mod_cast Iff.rfl
  split
  · rename_i hd
    constructor
    · intro h
      have := (hcast f).mp h
      linarith
    · intro h
      exact (hstrict f).mpr (by linarith)
  · rename_i hd
    have hsucc : n ≤ f+1 ↔ (n : ℚ)-1/2 ≤ x := by
      constructor
      · intro h
        have := (hcast (f+1)).mp h
        push_cast at this
        linarith
      · intro h
        apply (hstrict (f+1)).mpr
        push_cast
        linarith
    split
    · exact hsucc
    · rw [← hsucc]
      split <;> omega

theorem roundHalfEven_le_iff {n : ℤ} (hn : n % 2 = 0) (x : ℚ) :
    roundHalfEven x ≤ n ↔ x ≤ (n : ℚ)+1/2 := by
  have hmirror := le_roundHalfEven_iff (n := -n) (by omega) (-x)
  rw [roundHalfEven_neg] at hmirror
  push_cast at hmirror
  constructor
  · intro h
    have := hmirror.mp (by omega)
    linarith
  · intro h
    have := hmirror.mpr (by linarith)
    omega

/-- The result is a nearest whole number, of two the even one. -/
theorem roundHalfEven_nearest (x : ℚ) :
    |x-roundHalfEven x| < 1/2 ∨ |x-roundHalfEven x| = 1/2 ∧ Even (roundHalfEven x) := by
  have hlow : (x.floor : ℚ) ≤ x := Rat.floor_le x
  have hhigh : x < (x.floor : ℚ)+1 := by exact_mod_cast Rat.lt_floor_add_one x
  have hbelow : |x-x.floor| = x-x.floor := abs_of_nonneg (by linarith)
  have habove : |x-(x.floor+1 : ℤ)| = x.floor+1-x := by
    rw [abs_sub_comm, abs_of_nonneg (by push_cast; linarith)]
    push_cast
    ring
  unfold roundHalfEven
  dsimp only
  split_ifs with hlt hgt heven
  · rw [hbelow]
    exact .inl hlt
  · rw [habove]
    exact .inl (by linarith)
  · rw [hbelow]
    exact .inr ⟨by linarith,Int.even_iff.mpr heven⟩
  · rw [habove]
    exact .inr ⟨by linarith,Int.even_iff.mpr (by omega)⟩

theorem roundHalfEven_eq_iff {x : ℚ} {n : ℤ} :
    roundHalfEven x = n ↔ |x-n| < 1/2 ∨ |x-n| = 1/2 ∧ Even n := by
  constructor
  · rintro rfl
    exact roundHalfEven_nearest x
  · intro h
    have hround := roundHalfEven_nearest x
    generalize roundHalfEven x = m at hround ⊢
    by_contra hne
    have hapart : (1 : ℚ) ≤ |(m : ℚ)-n| := by exact_mod_cast Int.one_le_abs (sub_ne_zero.mpr hne)
    have htriangle : |(m : ℚ)-n| ≤ |x-m|+|x-n| := by
      rw [abs_sub_comm x]
      exact abs_sub_le (m : ℚ) x n
    rcases h with h | ⟨h,hn⟩
    · rcases hround with hm | ⟨hm,-⟩ <;> linarith
    · rcases hround with hm | ⟨hm,heven⟩
      · linarith
      · -- both are half away, so they are neighbours, and only one of two neighbours is even
        have hone : |(m : ℚ)-n| = 1 := by linarith
        have hodd : Odd |m-n| := by
          have : |m-n| = 1 := by exact_mod_cast hone
          rw [this]
          exact odd_one
        exact Int.not_even_iff_odd.mpr hodd (even_abs.mpr (heven.sub hn))

theorem roundHalfEven_le_iff_or {x : ℚ} {n : ℤ} :
    roundHalfEven x ≤ n ↔ x < n+1/2 ∨ x = n+1/2 ∧ Even n := by
  have hround := roundHalfEven_nearest x
  generalize roundHalfEven x = m at hround ⊢
  constructor
  · intro hle
    have habs := le_abs_self (x-m)
    rcases hle.eq_or_lt with rfl | hlt
    · rcases hround with h | ⟨h,heven⟩
      · exact .inl (by linarith)
      · rcases (habs.trans h.le).lt_or_eq with hlt | heq
        · exact .inl (by linarith)
        · exact .inr ⟨by linarith,heven⟩
    · have hcast : (m : ℚ)+1 ≤ n := by exact_mod_cast hlt
      left
      rcases hround with h | ⟨h,-⟩ <;> linarith
  · intro h
    by_contra hgt
    have hcast : (n : ℚ)+1 ≤ m := by exact_mod_cast not_le.mp hgt
    have habs := neg_le_abs (x-m)
    rcases h with h | ⟨h,hn⟩
    · rcases hround with hm | ⟨hm,-⟩ <;> linarith
    · rcases hround with hm | ⟨hm,heven⟩
      · linarith
      · have hsucc : m = n+1 := by
          have : (m : ℚ) = n+1 := by linarith
          exact_mod_cast this
        rw [Int.even_iff] at hn heven
        omega

end PyFloat

/-- `round(q, places)`, also `q.quantize(...)` to so many places. -/
def roundTo (places : ℕ) (q : ℚ) : ℚ := PyFloat.roundHalfEven (q*10^places)/10^places

theorem roundTo_mono (places : ℕ) : Monotone (roundTo places) := by
  intro x y hxy
  have hpos : (0 : ℚ) ≤ 10^places := by positivity
  have hround := PyFloat.roundHalfEven_mono (mul_le_mul_of_nonneg_right hxy hpos)
  exact div_le_div_of_nonneg_right (by exact_mod_cast hround) hpos

theorem roundTo_pos_iff {places : ℕ} {q : ℚ} : 0 < roundTo places q ↔ 1/2 < q*10^places := by
  have hpos : (0 : ℚ) < 10^places := by positivity
  have hround := PyFloat.roundHalfEven_le_iff (n := 0) rfl (q*10^places)
  rw [roundTo, div_pos_iff_of_pos_right hpos, Int.cast_pos, ← not_le, hround, not_le]
  norm_num

theorem roundTo_neg_iff {places : ℕ} {q : ℚ} : roundTo places q < 0 ↔ q*10^places < -(1/2) := by
  have hpos : (0 : ℚ) < 10^places := by positivity
  have hround := PyFloat.le_roundHalfEven_iff (n := 0) rfl (q*10^places)
  rw [roundTo, div_lt_iff₀ hpos, zero_mul, Int.cast_lt_zero, ← not_le, hround, not_le]
  norm_num

theorem roundTo_lt_iff {places : ℕ} {q x : ℚ} : roundTo places q < x ↔
    ∃ n : ℤ, (n : ℚ) < x*10^places ∧
      (q*10^places < n+1/2 ∨ q*10^places = n+1/2 ∧ Even n) := by
  have hpos : (0 : ℚ) < 10^places := by positivity
  rw [roundTo, div_lt_iff₀ hpos]
  constructor
  · intro hlt
    exact ⟨_,hlt,PyFloat.roundHalfEven_le_iff_or.mp le_rfl⟩
  · rintro ⟨n,hn,hle⟩
    have hround : PyFloat.roundHalfEven (q*10^places) ≤ n := PyFloat.roundHalfEven_le_iff_or.mpr hle
    exact lt_of_le_of_lt (by exact_mod_cast hround) hn

namespace PyFloat

theorem round2_finite (q : ℚ) : round2 (finite q) = finite (roundTo 2 q) := by
  simp only [round2, roundTo]
  norm_num

theorem round2_mono {x y : PyFloat} (hxy : le x y = true) : le (round2 x) (round2 y) = true := by
  rcases x with _ | (_ | _) | p <;> rcases y with _ | (_ | _) | q <;> try exact hxy
  rw [round2_finite, round2_finite]
  exact decide_eq_true (roundTo_mono 2 (of_decide_eq_true hxy))

/-- A factor that is not negative keeps the order, but for zero times infinity. -/
theorem mul_mono {x y : PyFloat} {w : ℚ} (hw : 0 ≤ w) (hxy : le x y = true) :
    mul x (finite w) = nan ∨ mul y (finite w) = nan ∨ le (mul x (finite w)) (mul y (finite w)) = true := by
  rcases hw.eq_or_lt with rfl | hw
  · have hinf : ∀ s, mul (inf s) (finite 0) = nan := fun s => (inf_mul_finite s 0).trans (if_pos rfl)
    rcases x with _ | s | p
    · exact .inl rfl
    · exact .inl (hinf s)
    · rcases y with _ | t | q
      · exact .inr (.inl rfl)
      · exact .inr (.inl (hinf t))
      · refine .inr (.inr (decide_eq_true ?_))
        rw [mul_zero, mul_zero]
  · have hinf : ∀ s, mul (inf s) (finite w) = inf s := by
      intro s
      rw [inf_mul_finite, if_neg hw.ne', decide_eq_false hw.not_gt, Bool.xor_false]
    refine .inr (.inr ?_)
    rcases x with _ | (_ | _) | p <;> rcases y with _ | (_ | _) | q <;> try simp only [hinf]
    all_goals first
      | exact hxy
      | exact decide_eq_true (mul_le_mul_of_nonneg_right (of_decide_eq_true hxy) hw.le)

theorem add_mono {p q : ℚ} {x y : PyFloat} (hpq : p ≤ q) (hxy : le x y = true) :
    le (add (finite p) x) (add (finite q) y) = true := by
  rcases x with _ | (_ | _) | a <;> rcases y with _ | (_ | _) | b <;> try exact hxy
  exact decide_eq_true (add_le_add hpq (of_decide_eq_true hxy))

end PyFloat

/-! ### Doubles -/

section Doubles
variable {q t u : ℚ}

theorem representable_double {m e : ℤ} (hm : |m| ≤ 2^53) (he : -1074 ≤ e) :
    binary64.Representable (m*2^e) := by
  refine ⟨m,e,hm,?_,rfl⟩
  intro least hleast
  obtain rfl := Option.some.inj hleast
  exact he

theorem roundDouble_le (hu : binary64.Representable u) (h : q ≤ u) : roundDouble q ≤ u :=
  DigitFormat.round_le PyFloat.isRounding_roundHalfEven hu h

theorem le_roundDouble (ht : binary64.Representable t) (h : t ≤ q) : t ≤ roundDouble q :=
  DigitFormat.le_round PyFloat.isRounding_roundHalfEven ht h

/-- Rounding to a double does not carry a number to a double that it stays clear of. -/
theorem le_roundDouble_iff (ht : binary64.Representable t) (hu : binary64.Representable u) (hut : u < t)
    (hclear : q < t → q ≤ u) : t ≤ roundDouble q ↔ t ≤ q := by
  constructor
  · intro h
    by_contra hlt
    exact absurd (roundDouble_le hu (hclear (not_le.mp hlt))) (not_le.mpr (hut.trans_le h))
  · exact le_roundDouble ht

theorem abs_roundDouble_le (hu : binary64.Representable u) (h : |q| ≤ u) : |roundDouble q| ≤ u := by
  obtain ⟨hlow,hhigh⟩ := abs_le.mp h
  exact abs_le.mpr ⟨le_roundDouble hu.neg hlow,roundDouble_le hu hhigh⟩

/-- A number away from zero is not rounded to zero. -/
theorem roundDouble_ne_zero (hu : binary64.Representable u) (hpos : 0 < u) (h : u ≤ |q|) :
    roundDouble q ≠ 0 := by
  rcases le_abs.mp h with h | h
  · exact (hpos.trans_le (le_roundDouble hu h)).ne'
  · have hneg := roundDouble_le hu.neg (show q ≤ -u by linarith)
    exact (hneg.trans_lt (neg_lt_zero.mpr hpos)).ne

theorem rounded_finite (h : |q| ≤ 2^53) : (PyFloat.finite q).rounded = .finite (roundDouble q) := by
  have hlimit : binary64.Representable (((2^53 : ℤ) : ℚ)*2^(0 : ℤ)) :=
    representable_double (by norm_num) (by norm_num)
  rw [zpow_zero, mul_one] at hlimit
  have hround : |roundDouble q| ≤ ((2^53 : ℤ) : ℚ) := abs_roundDouble_le hlimit (by exact_mod_cast h)
  have hrange : ((2^53 : ℤ) : ℚ) < 2^1024 := by
    rw [Int.cast_pow, Int.cast_ofNat]
    exact pow_lt_pow_right₀ one_lt_two (by decide)
  rw [PyFloat.rounded, if_pos (hround.trans_lt hrange)]

@[simp] theorem roundDouble_zero : roundDouble 0 = 0 :=
  DigitFormat.round_zero PyFloat.isRounding_roundHalfEven

end Doubles

/-! ### The decimal context -/

/-- 28 significant digits, of any exponent. -/
def decimalContext : DigitFormat where
  base := 10
  digits := 28
  least := none
  one_lt_base := by decide
  digits_pos := by decide

namespace PyDecimal
open PyFloat

/-- A result of decimal arithmetic. -/
def rounded (q : ℚ) : ℚ := decimalContext.round roundHalfEven q

/-- At most 28 digits. -/
abbrev Representable (q : ℚ) : Prop := decimalContext.Representable q

variable {q c : ℚ}

theorem rounded_neg (q : ℚ) : rounded (-q) = -rounded q := by
  simp only [rounded, DigitFormat.round_neg, roundHalfEven_neg, neg_neg]

theorem rounded_le (hc : Representable c) (h : q ≤ c) : rounded q ≤ c :=
  DigitFormat.round_le isRounding_roundHalfEven hc h

theorem le_rounded (hc : Representable c) (h : c ≤ q) : c ≤ rounded q :=
  DigitFormat.le_round isRounding_roundHalfEven hc h

theorem representable_intCast {n : ℤ} (hn : |n| ≤ 10^28) : Representable n :=
  DigitFormat.representable_intCast (fun _ hx => by cases hx) hn

theorem representable_rounded (q : ℚ) : Representable (rounded q) :=
  DigitFormat.representable_round isRounding_roundHalfEven q

/-- What has 28 digits is not changed. -/
theorem rounded_of_representable (hc : Representable c) : rounded c = c :=
  DigitFormat.round_of_representable isRounding_roundHalfEven hc

theorem Representable.mul_hundred (hc : Representable c) : Representable (c*100) := by
  obtain ⟨m,e,hm,-,rfl⟩ := hc
  refine ⟨m,e+2,hm,(fun _ hx => by cases hx),?_⟩
  show (m : ℚ)*(10 : ℚ)^e*100 = m*(10 : ℚ)^(e+2)
  rw [zpow_add₀ (by norm_num), mul_assoc]
  norm_num

theorem rounded_nonneg_iff : 0 ≤ rounded q ↔ 0 ≤ q := by
  constructor
  · intro h
    by_contra hneg
    have hpos : 0 < rounded (-q) :=
      DigitFormat.round_pos isRounding_roundHalfEven rfl (neg_pos.mpr (not_le.mp hneg))
    rw [rounded_neg] at hpos
    linarith
  · exact le_rounded DigitFormat.representable_zero

/-- Half a unit of the last digit is rounded off one. -/
theorem rounded_le_one_iff : rounded q ≤ 1 ↔ q ≤ 1+1/(2*10^27) := by
  have hone : Representable 1 := by exact_mod_cast representable_intCast (n := 1) (by norm_num)
  by_cases hlow : q < 1
  · exact iff_of_true (rounded_le hone hlow.le) (by linarith [show (0 : ℚ) < 1/(2*10^27) by norm_num])
  rw [not_lt] at hlow
  by_cases hhigh : 10 ≤ q
  · have hten : Representable 10 := by exact_mod_cast representable_intCast (n := 10) (by norm_num)
    have hround := le_rounded hten hhigh
    refine iff_of_false (by linarith) ?_
    have hunit : (1 : ℚ)/(2*10^27) < 1 := by norm_num
    linarith
  · rw [not_le] at hhigh
    have hpos : 0 < q := by linarith
    have hlog : Int.log 10 q = 0 := by
      have hge := (Int.zpow_le_iff_le_log (b := 10) (x := 0) (by norm_num) hpos).mp (by simpa using hlow)
      have hlt := (Int.lt_zpow_iff_log_lt (b := 10) (x := 1) (by norm_num) hpos).mp (by simpa using hhigh)
      omega
    have hunit : decimalContext.unit q = 1/10^27 := by
      have hexponent : decimalContext.exponent q = Int.log 10 |q|-(28-1) := rfl
      rw [DigitFormat.unit, hexponent, abs_of_pos hpos, hlog]
      norm_num [decimalContext]
    have hround : roundHalfEven (q/(1/10^27)) ≤ 10^27 ↔ q/(1/10^27) ≤ 10^27+1/2 := by
      have h := roundHalfEven_le_iff (n := 10^27) (by norm_num) (q/(1/10^27))
      push_cast at h
      exact h
    rw [rounded, DigitFormat.round, hunit, mul_one_div, div_le_one (by norm_num)]
    have hcast : ((roundHalfEven (q/(1/10^27)) : ℤ) : ℚ) ≤ 10^27 ↔
        roundHalfEven (q/(1/10^27)) ≤ 10^27 := by exact_mod_cast Iff.rfl
    rw [hcast, hround, div_div_eq_mul_div, div_one]
    constructor
    · intro h
      linarith
    · intro h
      linarith

end PyDecimal
end MarketScanner.Python
