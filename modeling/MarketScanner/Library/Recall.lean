import MarketScanner.Library.Series

/-! Column functions that look back a bounded way. An entry is then the same whatever stands before the
part of the input that it looks back on, in particular in any longer history. -/
namespace MarketScanner.Library
variable {α β γ : Type*}

/-- An entry with `h` entries before it is what it is without anything before those. -/
def Recalls (h : ℕ) (F : List α → List β) : Prop :=
  ∀ m xs i, h ≤ i → (F (xs.drop m))[i]? = (F xs)[m+i]?

namespace Recalls
variable {h k : ℕ} {F : List α → List β}

theorem mono (hF : Recalls h F) (hk : h ≤ k) : Recalls k F := fun m xs i hi => hF m xs i (by omega)

theorem refl : Recalls 0 fun xs : List α => xs := fun _ _ _ _ => List.getElem?_drop

theorem map (f : α → β) : Recalls 0 (List.map f) := by
  intro m xs i _
  rw [List.getElem?_map, List.getElem?_drop, List.getElem?_map]

/-- Beyond the first entries the output of the shortened input is the shortened output. -/
theorem drop_eq (hF : Recalls h F) (m : ℕ) (xs : List α) :
    (F (xs.drop m)).drop h = (F xs).drop (m+h) := by
  apply List.ext_getElem?
  intro i
  rw [List.getElem?_drop, List.getElem?_drop, hF m xs (h+i) (by omega), Nat.add_assoc]

theorem comp {G : List β → List γ} (hG : Recalls k G) (hF : Recalls h F) :
    Recalls (h+k) fun xs => G (F xs) := by
  intro m xs i hi
  obtain ⟨j,rfl⟩ := Nat.exists_eq_add_of_le (show h ≤ i by omega)
  have hj : k ≤ j := by omega
  calc (G (F (xs.drop m)))[h+j]? = (G ((F (xs.drop m)).drop h))[j]? := (hG h _ j hj).symm
    _ = (G ((F xs).drop (m+h)))[j]? := by rw [hF.drop_eq]
    _ = (G (F xs))[m+(h+j)]? := by rw [hG (m+h) _ j hj, Nat.add_assoc]

theorem zipWith {G : List α → List β} {δ : Type*} (f : β → β → δ) (hF : Recalls h F) (hG : Recalls h G) :
    Recalls h fun xs => List.zipWith f (F xs) (G xs) := by
  intro m xs i hi
  simp only [List.getElem?_zipWith, hF m xs i hi, hG m xs i hi]

theorem shift (k : ℕ) (fill : α) : Recalls k (shift k fill) := by
  intro m xs i hi
  by_cases hlt : m+i < xs.length
  · rw [getElem?_shift k fill _ (by simp; omega), getElem?_shift k fill _ hlt, if_neg (by omega),
      if_neg (by omega), List.getElem?_drop, Nat.add_sub_assoc hi]
  · rw [List.getElem?_eq_none (by simp; omega), List.getElem?_eq_none (by simp; omega)]

theorem windows (w : ℕ) : Recalls (w-1) (windows (α := α) w) := by
  intro m xs i hi
  by_cases hlt : m+i < xs.length
  · rw [getElem?_windows w _ (by simp; omega), getElem?_windows w _ hlt]
    congr 1
    rw [List.take_drop, List.drop_drop]
    congr 1
    omega
  · rw [List.getElem?_eq_none (by simp; omega), List.getElem?_eq_none (by simp; omega)]

/-- Inputs that agree from somewhere on have the same entries, once these look back no further. -/
theorem congr (hF : Recalls h F) {m n i : ℕ} {xs ys : List α} (hdrop : xs.drop m = ys.drop n)
    (hi : h ≤ i) : (F xs)[m+i]? = (F ys)[n+i]? := by
  rw [← hF m xs i hi, hdrop, hF n ys i hi]

end Recalls

end MarketScanner.Library
