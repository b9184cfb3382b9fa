import Mathlib.Algebra.BigOperators.Ring.List
import Mathlib.Algebra.Order.BigOperators.Group.List
import Mathlib.Algebra.Order.Field.Basic
import Mathlib.Algebra.BigOperators.Group.List.Basic
import Mathlib.Tactic.Ring

/-! The mean of a list of values and their deviations from it. Values that do not all agree deviate, and
the mean of the steps between values is the way from the first of them to the last. -/
namespace MarketScanner.Library
variable {K : Type*} [Field K]

def average (l : List K) : K := l.sum/l.length

/-- The sum of the squared deviations from the average. -/
def squaredDeviations (l : List K) : K := (l.map fun x => (x-average l)^2).sum

/-- All values agree. -/
def Flat {α : Type*} (l : List α) : Prop := ∀ x ∈ l, ∀ y ∈ l, x = y

instance {α : Type*} [DecidableEq α] (l : List α) : Decidable (Flat l) :=
  inferInstanceAs (Decidable (∀ x ∈ l, ∀ y ∈ l, x = y))

/-- From `f 0` to `f n` it is the sum of the steps. -/
theorem sum_steps (f : ℕ → K) (n : ℕ) :
    ((List.range n).map fun j => f (j+1)-f j).sum = f n-f 0 := by
  induction n with
  | zero => simp
  | succ n ih =>
    rw [List.range_succ, List.map_append, List.sum_append, ih, List.map_singleton, List.sum_singleton]
    ring

section Ordered
variable [LinearOrder K] [IsStrictOrderedRing K]

theorem average_of_flat {l : List K} (h : Flat l) {x : K} (hx : x ∈ l) : average l = x := by
  have hlength : (l.length : K) ≠ 0 :=
    Nat.cast_ne_zero.mpr (List.length_pos_of_mem hx).ne'
  have hsum : l.sum = l.length*x := by
    rw [List.eq_replicate_of_mem fun y hy => h y hy x hx, List.sum_replicate, List.length_replicate,
      nsmul_eq_mul]
  rw [average, hsum, mul_div_cancel_left₀ _ hlength]

theorem squaredDeviations_nonneg (l : List K) : 0 ≤ squaredDeviations l := by
  apply List.sum_nonneg
  intro d hd
  obtain ⟨x,-,rfl⟩ := List.mem_map.mp hd
  exact sq_nonneg _

theorem squaredDeviations_eq_zero {l : List K} : squaredDeviations l = 0 ↔ Flat l := by
  constructor
  · intro h
    have hzero : ∀ x ∈ l, x = average l := by
      intro x hx
      have hterm := List.all_zero_of_le_zero_le_of_sum_eq_zero
        (fun d hd => by obtain ⟨y,-,rfl⟩ := List.mem_map.mp hd; exact sq_nonneg _) h
        (List.mem_map_of_mem hx)
      exact sub_eq_zero.mp (pow_eq_zero_iff two_ne_zero |>.mp hterm)
    exact fun x hx y hy => (hzero x hx).trans (hzero y hy).symm
  · intro h
    apply List.sum_eq_zero
    intro d hd
    obtain ⟨x,hx,rfl⟩ := List.mem_map.mp hd
    rw [average_of_flat h hx, sub_self, zero_pow two_ne_zero]

end Ordered

end MarketScanner.Library
