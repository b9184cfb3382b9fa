import Mathlib.Data.Int.Log
import Mathlib.Data.Rat.Floor
import Mathlib.Algebra.Order.Ring.Rat
import Mathlib.Tactic.Linarith
import Mathlib.Tactic.Ring
import Mathlib.Tactic.NormNum

/-! Numbers with a bounded number of digits, and the rounding to them: to a multiple of the place value of
the last digit, which in some formats has a least value. -/
namespace MarketScanner.Library

/-- A choice of a whole number for each rational: in their order, and itself for a whole number. -/
structure IsRounding (r : ℚ → ℤ) : Prop where
  mono : ∀ ⦃a b : ℚ⦄, a ≤ b → r a ≤ r b
  intCast : ∀ n : ℤ, r n = n

/-- The same choice on the other side of zero. -/
theorem IsRounding.flip {r : ℚ → ℤ} (h : IsRounding r) : IsRounding fun x => -r (-x) where
  mono := fun _ _ hxy => neg_le_neg (h.mono (neg_le_neg hxy))
  intCast := by
    intro n
    rw [← Int.cast_neg, h.intCast, neg_neg]

structure DigitFormat where
  base : ℕ
  digits : ℕ
  /-- The exponent of the least place value, if there is one. -/
  least : Option ℤ
  one_lt_base : 1 < base
  digits_pos : 0 < digits

namespace DigitFormat
variable (F : DigitFormat)

/-- The exponent of the place value of the last digit. -/
def exponent (q : ℚ) : ℤ :=
  let e := Int.log F.base |q|-(F.digits-1)
  F.least.elim e (max e)

def unit (q : ℚ) : ℚ := (F.base : ℚ)^F.exponent q

def round (r : ℚ → ℤ) (q : ℚ) : ℚ := r (q/F.unit q)*F.unit q

def Representable (c : ℚ) : Prop :=
  ∃ m e : ℤ, |m| ≤ F.base^F.digits ∧ (∀ x ∈ F.least, x ≤ e) ∧ c = m*(F.base : ℚ)^e

variable {F} {r : ℚ → ℤ} {q c : ℚ}

theorem base_pos : (0 : ℚ) < F.base := by
  have h := F.one_lt_base
  exact_mod_cast (by omega : 0 < F.base)

theorem one_le_base : (1 : ℚ) ≤ F.base := by exact_mod_cast F.one_lt_base.le

theorem unit_pos (q : ℚ) : 0 < F.unit q := zpow_pos base_pos _

@[simp] theorem exponent_neg (q : ℚ) : F.exponent (-q) = F.exponent q := by
  unfold exponent
  rw [abs_neg]

@[simp] theorem unit_neg (q : ℚ) : F.unit (-q) = F.unit q := by
  unfold unit
  rw [exponent_neg]

theorem log_le_exponent (q : ℚ) : Int.log F.base |q|-(F.digits-1) ≤ F.exponent q := by
  unfold exponent
  cases F.least with
  | none => exact le_rfl
  | some x => exact le_max_left _ _

theorem least_le_exponent (q : ℚ) : ∀ x ∈ F.least, x ≤ F.exponent q := by
  unfold exponent
  cases F.least with
  | none => simp
  | some y =>
    intro x hx
    obtain rfl := Option.some.inj hx
    exact le_max_right _ _

/-- The place value comes from the size of the number or is the least one. -/
theorem exponent_eq_or (q : ℚ) :
    F.exponent q = Int.log F.base |q|-(F.digits-1) ∨ F.exponent q ∈ F.least := by
  unfold exponent
  cases F.least with
  | none => exact Or.inl rfl
  | some x =>
    rcases max_choice (Int.log F.base |q|-(F.digits-1)) x with h | h
    · exact Or.inl h
    · exact Or.inr (congrArg some h.symm)

theorem pow_mul_unit (q : ℚ) (n : ℕ) : (F.base : ℚ)^n*F.unit q = (F.base : ℚ)^(n+F.exponent q) := by
  rw [unit, ← zpow_natCast, ← zpow_add₀ base_pos.ne']

theorem lt_pow_mul_unit (q : ℚ) : |q| < (F.base : ℚ)^F.digits*F.unit q := by
  have hlog := Int.lt_zpow_succ_log_self F.one_lt_base |q|
  have hexponent := F.log_le_exponent q
  rw [pow_mul_unit]
  exact hlog.trans_le (zpow_le_zpow_right₀ one_le_base (by omega))

/-- A number whose place value is not the least one fills its digits. -/
theorem pow_mul_unit_le (hq : q ≠ 0) (h : F.exponent q = Int.log F.base |q|-(F.digits-1)) :
    (F.base : ℚ)^(F.digits-1)*F.unit q ≤ |q| := by
  have hlog := Int.zpow_log_le_self F.one_lt_base (abs_pos.mpr hq)
  have hdigits := F.digits_pos
  rw [pow_mul_unit, h, show ((F.digits-1 : ℕ) : ℤ)+(Int.log F.base |q|-(F.digits-1)) =
    Int.log F.base |q| by omega]
  exact hlog

theorem round_neg (r : ℚ → ℤ) (q : ℚ) : F.round r (-q) = -F.round (fun x => -r (-x)) q := by
  unfold round
  rw [unit_neg, neg_div]
  push_cast
  ring

/-- Rounding does not pass a multiple of the place value. -/
theorem round_le_mul (hr : IsRounding r) {m : ℤ} (h : q ≤ m*F.unit q) : F.round r q ≤ m*F.unit q := by
  have hdiv : q/F.unit q ≤ m := (div_le_iff₀ (unit_pos q)).mpr h
  have hround := hr.mono hdiv
  rw [hr.intCast] at hround
  exact mul_le_mul_of_nonneg_right (by exact_mod_cast hround) (unit_pos q).le

theorem le_round_mul (hr : IsRounding r) {m : ℤ} (h : m*F.unit q ≤ q) : m*F.unit q ≤ F.round r q := by
  have hdiv : (m : ℚ) ≤ q/F.unit q := (le_div_iff₀ (unit_pos q)).mpr h
  have hround := hr.mono hdiv
  rw [hr.intCast] at hround
  exact mul_le_mul_of_nonneg_right (by exact_mod_cast hround) (unit_pos q).le

@[simp] theorem round_zero (hr : IsRounding r) : F.round r 0 = 0 := by
  have hzero := hr.intCast 0
  rw [Int.cast_zero] at hzero
  rw [round, zero_div, hzero, Int.cast_zero, zero_mul]

/-- A representable number of a smaller place value has fewer digits than fill that of `q`. -/
theorem abs_le_of_exponent_lt {m e : ℤ} (hm : |m| ≤ F.base^F.digits) (he : e < F.exponent q) :
    |(m : ℚ)*(F.base : ℚ)^e| ≤ (F.base : ℚ)^(F.digits-1)*F.unit q := by
  have hpos : (0 : ℚ) < (F.base : ℚ)^e := zpow_pos base_pos _
  have hmq : |(m : ℚ)| ≤ (F.base : ℚ)^F.digits := by exact_mod_cast hm
  have hdigits := F.digits_pos
  rw [abs_mul, abs_of_pos hpos, pow_mul_unit]
  calc |(m : ℚ)| * (F.base : ℚ)^e ≤ (F.base : ℚ)^F.digits*(F.base : ℚ)^e :=
        mul_le_mul_of_nonneg_right hmq hpos.le
    _ = (F.base : ℚ)^(F.digits+e) := by rw [← zpow_natCast, ← zpow_add₀ base_pos.ne']
    _ ≤ _ := zpow_le_zpow_right₀ one_le_base (by omega)

/-- Rounding does not pass a representable number. -/
theorem round_le (hr : IsRounding r) (hc : F.Representable c) (h : q ≤ c) : F.round r q ≤ c := by
  obtain ⟨m,e,hm,hleast,rfl⟩ := hc
  by_cases hq : q = 0
  · rwa [hq, round_zero hr, ← hq]
  by_cases he : F.exponent q ≤ e
  · -- the number is a multiple of the place value
    have hmultiple : (m : ℚ)*(F.base : ℚ)^e = ((m*F.base^(e-F.exponent q).toNat : ℤ) : ℚ)*F.unit q := by
      push_cast
      rw [mul_assoc, pow_mul_unit, Int.toNat_of_nonneg (by omega), sub_add_cancel]
    rw [hmultiple] at h ⊢
    exact round_le_mul hr h
  · -- the number is no larger than the least one with the place value of `q`
    have hexponent : F.exponent q = Int.log F.base |q|-(F.digits-1) := by
      rcases F.exponent_eq_or q with heq | hmem
      · exact heq
      · exact absurd (hleast _ hmem) he
    have hsmall := abs_le_of_exponent_lt hm (not_le.mp he)
    have hlarge := pow_mul_unit_le hq hexponent
    rcases lt_or_gt_of_ne hq with hneg | hpos
    · rw [abs_of_neg hneg] at hlarge
      have hround := @round_le_mul F r q hr (-F.base^(F.digits-1)) (by push_cast; linarith)
      have hc := neg_abs_le ((m : ℚ)*(F.base : ℚ)^e)
      push_cast at hround
      linarith
    · rw [abs_of_pos hpos] at hlarge
      have hc := le_abs_self ((m : ℚ)*(F.base : ℚ)^e)
      have hround := @round_le_mul F r q hr (F.base^(F.digits-1)) (by push_cast; linarith)
      push_cast at hround
      linarith

theorem Representable.neg (hc : F.Representable c) : F.Representable (-c) := by
  obtain ⟨m,e,hm,hleast,rfl⟩ := hc
  exact ⟨-m,e,by rwa [abs_neg],hleast,by push_cast; ring⟩

theorem le_round (hr : IsRounding r) (hc : F.Representable c) (h : c ≤ q) : c ≤ F.round r q := by
  have hround := round_le hr.flip hc.neg (neg_le_neg h)
  rw [round_neg] at hround
  simp only [neg_neg] at hround
  exact neg_le_neg_iff.mp hround

/-- What is representable is not changed. -/
theorem round_of_representable (hr : IsRounding r) (hc : F.Representable c) : F.round r c = c :=
  le_antisymm (round_le hr hc le_rfl) (le_round hr hc le_rfl)

theorem representable_intCast (hleast : ∀ x ∈ F.least, x ≤ 0) {n : ℤ} (hn : |n| ≤ F.base^F.digits) :
    F.Representable n :=
  ⟨n,0,hn,hleast,by simp⟩

theorem representable_zero : F.Representable 0 :=
  ⟨0,F.exponent 0,by rw [abs_zero]; exact pow_nonneg (by omega) _,F.least_le_exponent 0,by simp⟩

theorem representable_round (hr : IsRounding r) (q : ℚ) : F.Representable (F.round r q) := by
  refine ⟨r (q/F.unit q),F.exponent q,?_,F.least_le_exponent q,rfl⟩
  have hbound : |q/F.unit q| ≤ (F.base : ℚ)^F.digits := by
    rw [abs_div, abs_of_pos (unit_pos q), div_le_iff₀ (unit_pos q)]
    exact (lt_pow_mul_unit q).le
  obtain ⟨hlow,hhigh⟩ := abs_le.mp hbound
  have hlow' := hr.mono (a := ((-F.base^F.digits : ℤ) : ℚ)) (by push_cast; exact hlow)
  have hhigh' := hr.mono (b := ((F.base^F.digits : ℤ) : ℚ)) (by push_cast; exact hhigh)
  rw [hr.intCast] at hlow' hhigh'
  exact abs_le.mpr ⟨hlow',hhigh'⟩

/-- Without a least place value no number is rounded to zero. -/
theorem round_pos (hr : IsRounding r) (hleast : F.least = none) (hq : 0 < q) : 0 < F.round r q := by
  have hexponent : F.exponent q = Int.log F.base |q|-(F.digits-1) := by
    rcases F.exponent_eq_or q with heq | hmem
    · exact heq
    · rw [hleast] at hmem
      cases hmem
  have hlarge := pow_mul_unit_le hq.ne' hexponent
  rw [abs_of_pos hq] at hlarge
  have hround := le_round_mul hr (m := F.base^(F.digits-1)) (by push_cast; exact hlarge)
  push_cast at hround
  exact (mul_pos (pow_pos base_pos _) (unit_pos q)).trans_le hround

end DigitFormat
end MarketScanner.Library
