import Mathlib.Tactic.Common
import Mathlib.Data.List.Basic
import Mathlib.Data.Nat.Notation

/-! A list worked through in consecutive slices of one size. -/
namespace MarketScanner.Library
variable {α σ : Type*}

/-- `[l[i:i+size] for i in range(0, len(l), size)]`. -/
def slices (size : ℕ) (l : List α) : List (List α) :=
  (List.range ((l.length+size-1)/size)).map fun i => (l.drop (i*size)).take size

theorem flatten_map_range_slices (size : ℕ) (l : List α) (n : ℕ) :
    ((List.range n).map fun i => (l.drop (i*size)).take size).flatten = l.take (n*size) := by
  induction n with
  | zero => simp
  | succ n ih =>
    rw [List.range_succ, List.map_append, List.flatten_append, ih, List.map_singleton,
      List.flatten_singleton, Nat.succ_mul, List.take_add]

/-- The slices of a list make up the list. -/
theorem flatten_slices {size : ℕ} (hsize : 0 < size) (l : List α) : (slices size l).flatten = l := by
  rw [slices, flatten_map_range_slices]
  apply List.take_of_length_le
  have hdiv := Nat.div_add_mod (l.length+size-1) size
  have hmod := Nat.mod_lt (l.length+size-1) hsize
  rw [Nat.mul_comm] at hdiv
  omega

/-- A loop over slices is the loop over the list. -/
theorem foldl_slices {size : ℕ} (hsize : 0 < size) (f : σ → α → σ) (s : σ) (l : List α) :
    (slices size l).foldl (fun s slice => slice.foldl f s) s = l.foldl f s := by
  rw [← List.foldl_flatten, flatten_slices hsize]

end MarketScanner.Library
