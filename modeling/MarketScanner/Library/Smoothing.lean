import Mathlib.Algebra.Order.Field.Basic

/-! Weighted means of two numbers, as exponential smoothing takes them, and the smoothing of a list. -/
namespace MarketScanner.Library

section Field
variable {K : Type*} [Field K]

/-- The mean of `x` with weight `a` and `y` with weight `b`. -/
def blend (a b x y : K) : K := (a*x+b*y)/(a+b)

/-- The exponentially smoothed mean of a list that starts with `first`. -/
def smooth (alpha first : K) (rest : List K) : K :=
  rest.foldl (fun mean x => (1-alpha)*mean+alpha*x) first

@[simp] theorem smooth_nil (alpha first : K) : smooth alpha first [] = first := rfl

@[simp] theorem smooth_concat (alpha first : K) (rest : List K) (x : K) :
    smooth alpha first (rest ++ [x]) = (1-alpha)*smooth alpha first rest+alpha*x := by
  simp [smooth]

end Field

section Ordered
variable {K : Type*} [Field K] [LinearOrder K] [IsStrictOrderedRing K] {a b x y x' y' : K}

theorem blend_mono (ha : 0 ≤ a) (hb : 0 < b) (hx : x ≤ x') (hy : y ≤ y') :
    blend a b x y ≤ blend a b x' y' := by
  have hsum : 0 < a+b := add_pos_of_nonneg_of_pos ha hb
  apply div_le_div_of_nonneg_right _ hsum.le
  exact add_le_add (mul_le_mul_of_nonneg_left hx ha) (mul_le_mul_of_nonneg_left hy hb.le)

@[simp] theorem blend_self (ha : 0 ≤ a) (hb : 0 < b) : blend a b x x = x := by
  have hsum : 0 < a+b := add_pos_of_nonneg_of_pos ha hb
  rw [blend, ← add_mul, mul_div_cancel_left₀ _ hsum.ne']

theorem le_blend {lower : K} (ha : 0 ≤ a) (hb : 0 < b) (hx : lower ≤ x) (hy : lower ≤ y) :
    lower ≤ blend a b x y := by
  have h := blend_mono ha hb hx hy
  rwa [blend_self ha hb] at h

theorem blend_le {upper : K} (ha : 0 ≤ a) (hb : 0 < b) (hx : x ≤ upper) (hy : y ≤ upper) :
    blend a b x y ≤ upper := by
  have h := blend_mono ha hb hx hy
  rwa [blend_self ha hb] at h

end Ordered

end MarketScanner.Library
