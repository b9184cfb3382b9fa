import Mathlib.Data.List.Induction
import MarketScanner.Features.Causality
import MarketScanner.Library.Smoothing

/-! The entries of rolling and smoothed columns, where the column is one of numbers. -/
namespace MarketScanner.Features
open MarketScanner.Library MarketScanner.Python MarketScanner.Market Series

@[simp] theorem lt_finite (a b : ℚ) : PyFloat.lt (.finite a) (.finite b) = decide (a < b) := by
  rw [Bool.eq_iff_iff]
  simpa [PyFloat.lt, PyFloat.le] using le_of_lt

/-- A bar that traded at one price. -/
def barAt (day units : ℤ) : DailyPrice :=
  ⟨1,⟨day⟩,⟨units⟩,⟨units⟩,⟨units⟩,⟨units⟩,1000,none⟩

/-- The last `w` of the entries up to a position, fewer at the start. -/
def lastOf {α : Type*} (w : ℕ) (xs : List α) (i : ℕ) : List α := (xs.take (i+1)).drop (i+1-w)

theorem length_lastOf {α : Type*} {w : ℕ} {xs : List α} {i : ℕ} (hi : i < xs.length) :
    (lastOf w xs i).length = min w (i+1) := by
  rw [lastOf, List.length_drop, List.length_take]
  omega

theorem getElem?_rolling (w : ℕ) (g : List ℚ → PyFloat) (values : List ℚ) {i : ℕ}
    (hi : i < values.length) :
    (rolling w g (values.map PyFloat.finite))[i]? =
      some (if w ≤ i+1 then g (lastOf w values i) else .nan) := by
  rw [rolling, List.getElem?_map, getElem?_windows w _ (by simpa using hi), Option.map_some,
    ← List.map_take, ← List.map_drop, mapM_finite]
  have hlength := length_lastOf (w := w) hi
  rw [lastOf] at hlength
  dsimp only
  rw [hlength, lastOf]
  split <;> split <;> first | rfl | omega

theorem foldl_ewm (alpha : ℚ) (minPeriods : ℕ) (first : ℚ) (rest : List ℚ) :
    ((first::rest).map PyFloat.finite).foldl (fun s x => (Ewm.step alpha minPeriods s x).1)
      ⟨none,1,0⟩ = ⟨some (smooth alpha first rest),1,rest.length+1⟩ := by
  induction rest using List.reverseRecOn with
  | nil => rfl
  | append_singleton rest x ih =>
    rw [← List.cons_append, List.map_append, List.foldl_append, ih, smooth_concat,
      List.length_append]
    simp [Ewm.step, finite?]

theorem getElem?_ewm (alpha : ℚ) (minPeriods : ℕ) (first : ℚ) (rest : List ℚ) {i : ℕ}
    (hi : i ≤ rest.length) :
    (ewm alpha minPeriods ((first::rest).map PyFloat.finite))[i]? =
      some (if minPeriods ≤ i+1 then .finite (smooth alpha first (rest.take i)) else .nan) := by
  have hlt : i < ((first::rest).map PyFloat.finite).length := by simpa using Nat.lt_succ_of_le hi
  rw [ewm, getElem?_accumulate, List.getElem?_eq_getElem hlt, Option.map_some]
  congr 1
  cases i with
  | zero => simp [Ewm.step, finite?]
  | succ i =>
    rw [← List.map_take, List.take_succ_cons, foldl_ewm, List.getElem_map, List.getElem_cons_succ,
      List.take_add_one, List.getElem?_eq_getElem (by omega), Option.toList_some, smooth_concat,
      List.length_take, Nat.min_eq_left (by omega)]
    simp [Ewm.step, finite?]

end MarketScanner.Features
