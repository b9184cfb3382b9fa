import Mathlib.Algebra.BigOperators.Ring.List
import Mathlib.Algebra.Order.BigOperators.Group.List
import Mathlib.Algebra.Order.Field.Basic
import Mathlib.Data.Finset.Max
import Mathlib.Data.List.Forall2
import Mathlib.Tactic.Ring

/-! Weighted means of values some of which may be missing. The mean is over those that are available,
with the weights they have, and there is none unless these add up to something. -/
namespace MarketScanner.Library

section Available
variable {K : Type*}

/-- The values that are there, with their weights. -/
def available (xs : List (Option K × K)) : List (K × K) :=
  xs.filterMap fun x => x.1.map fun value => (value,x.2)

def valuesOf (xs : List (Option K × K)) : Set K := {value | ∃ w, (some value,w) ∈ xs}

@[simp] theorem available_cons_none (w : K) (xs : List (Option K × K)) :
    available ((none,w)::xs) = available xs := rfl

@[simp] theorem available_cons_some (value w : K) (xs : List (Option K × K)) :
    available ((some value,w)::xs) = (value,w)::available xs := rfl

theorem mem_available {xs : List (Option K × K)} {value w : K} :
    (value,w) ∈ available xs ↔ (some value,w) ∈ xs := by
  constructor
  · intro h
    obtain ⟨⟨v,w'⟩,hx,heq⟩ := List.mem_filterMap.mp h
    obtain ⟨v',rfl,hv⟩ := Option.map_eq_some_iff.mp heq
    obtain ⟨rfl,rfl⟩ := Prod.mk.inj hv
    exact hx
  · exact fun h => List.mem_filterMap.mpr ⟨_,h,rfl⟩

theorem mem_valuesOf {xs : List (Option K × K)} {value : K} :
    value ∈ valuesOf xs ↔ ∃ x ∈ available xs, x.1 = value := by
  constructor
  · exact fun ⟨w,hw⟩ => ⟨(value,w),mem_available.mpr hw,rfl⟩
  · rintro ⟨⟨v,w⟩,hx,rfl⟩
    exact ⟨w,mem_available.mp hx⟩

/-- The same values with the same weights, whatever the weights of the missing ones are. -/
def SameAvailable (xs ys : List (Option K × K)) : Prop :=
  List.Forall₂ (fun x y => x.1 = y.1 ∧ (x.1 ≠ none → x.2 = y.2)) xs ys

theorem SameAvailable.available_eq {xs ys : List (Option K × K)} (h : SameAvailable xs ys) :
    available xs = available ys := by
  induction h with
  | nil => rfl
  | @cons x y xs ys hxy _ ih =>
    obtain ⟨value,w⟩ := x
    obtain ⟨value',w'⟩ := y
    obtain rfl : value = value' := hxy.1
    cases value with
    | none => exact ih
    | some value =>
      obtain rfl : w = w' := hxy.2 (Option.some_ne_none value)
      rw [available_cons_some, available_cons_some, ih]

/-- The same values are there with the same weights, and none is lower than it was. -/
def Raised [LE K] (xs ys : List (Option K × K)) : Prop :=
  List.Forall₂ (fun x y => Option.Rel (· ≤ ·) x.1 y.1 ∧ (x.1 ≠ none → x.2 = y.2)) xs ys

theorem Raised.forall₂_available [LE K] {xs ys : List (Option K × K)} (h : Raised xs ys) :
    List.Forall₂ (fun x y => x.2 = y.2 ∧ x.1 ≤ y.1) (available xs) (available ys) := by
  induction h with
  | nil => exact List.Forall₂.nil
  | @cons x y xs ys hxy _ ih =>
    obtain ⟨value,w⟩ := x
    obtain ⟨value',w'⟩ := y
    obtain ⟨hvalue,hweight⟩ := hxy
    cases hvalue with
    | none => exact ih
    | some hle => exact List.Forall₂.cons ⟨hweight (Option.some_ne_none _),hle⟩ ih

end Available

section Means
variable {K : Type*} [Field K]

def weightedSum (xs : List (K × K)) : K := (xs.map fun x => x.1*x.2).sum
def totalWeight (xs : List (K × K)) : K := (xs.map Prod.snd).sum
def weightedMean (xs : List (K × K)) : K := weightedSum xs/totalWeight xs

@[simp] theorem totalWeight_nil : totalWeight ([] : List (K × K)) = 0 := rfl

theorem totalWeight_concat (xs : List (K × K)) (v w : K) : totalWeight (xs ++ [(v,w)]) = totalWeight xs+w := by
  simp [totalWeight]

theorem weightedSum_concat (xs : List (K × K)) (v w : K) : weightedSum (xs ++ [(v,w)]) = weightedSum xs+v*w := by
  simp [weightedSum]

theorem totalWeight_map {α : Type*} (value weight : α → K) (xs : List α) :
    totalWeight (xs.map fun x => (value x,weight x)) = (xs.map weight).sum := by
  rw [totalWeight, List.map_map]
  rfl

/-- The order of the values does not matter. -/
theorem weightedMean_perm {xs ys : List (K × K)} (h : xs.Perm ys) : weightedMean xs = weightedMean ys := by
  rw [weightedMean, weightedMean, weightedSum, weightedSum, totalWeight, totalWeight, (h.map _).sum_eq,
    (h.map _).sum_eq]

section Known
variable {α : Type*} (value : α → Option K) (weight contribution : α → K) (xs : List α)

theorem totalWeight_available : totalWeight (available (xs.map fun x => (value x,weight x))) =
    ((xs.filter fun x => (value x).isSome).map weight).sum := by
  induction xs with
  | nil => rfl
  | cons x xs ih =>
    rw [List.map_cons, List.filter_cons]
    cases hvalue : value x with
    | none => simpa using ih
    | some v => simpa [totalWeight] using ih

theorem weightedSum_available
    (h : ∀ x ∈ xs, ∀ v, value x = some v → contribution x = v*weight x) :
    weightedSum (available (xs.map fun x => (value x,weight x))) =
      ((xs.filter fun x => (value x).isSome).map contribution).sum := by
  induction xs with
  | nil => rfl
  | cons x xs ih =>
    have hrest := ih fun y hy => h y (List.mem_cons_of_mem x hy)
    rw [List.map_cons, List.filter_cons]
    cases hvalue : value x with
    | none => simpa using hrest
    | some v => simpa [weightedSum, h x List.mem_cons_self v hvalue] using hrest

end Known

theorem totalWeight_eq [LE K] {xs ys : List (K × K)}
    (h : List.Forall₂ (fun x y => x.2 = y.2 ∧ x.1 ≤ y.1) xs ys) :
    totalWeight xs = totalWeight ys := by
  induction h with
  | nil => rfl
  | cons hxy _ ih =>
    simp only [totalWeight, List.map_cons, List.sum_cons] at ih ⊢
    rw [ih, hxy.1]

end Means

section Ordered
variable {K : Type*} [Field K] [LinearOrder K]

/-- The mean of the values that are available, if they have weight. -/
def composite (xs : List (Option K × K)) : Option K :=
  if 0 < totalWeight (available xs) then some (weightedMean (available xs)) else none

/-- Weights are not negative and values are on the scale. -/
def OnScale (lower upper : K) (xs : List (Option K × K)) : Prop :=
  ∀ x ∈ xs, 0 ≤ x.2 ∧ ∀ value, x.1 = some value → lower ≤ value ∧ value ≤ upper

theorem OnScale.weight_nonneg {lower upper : K} {xs : List (Option K × K)}
    (h : OnScale lower upper xs) : ∀ x ∈ available xs, 0 ≤ x.2 :=
  fun _ hx => (h _ (mem_available.mp hx)).1

/-- A score of parts is, where it is `due`, the rounded mean of those that are available: it lies
between them, depends on them alone and rises with them. Where they have no weight, or it is not due,
it is what is reported of nothing. -/
structure ScoresMean {ι ρ : Type*} (lower upper : K) (parts : ι → List (Option K × K))
    (due : ι → Prop) (round : K → K) (report : Option K → ρ) (score : ι → ρ) : Prop where
  between : ∀ i, OnScale lower upper (parts i) → due i → 0 < totalWeight (available (parts i)) →
    ∃ s least greatest, score i = report (some s) ∧ IsLeast (valuesOf (parts i)) least ∧
      IsGreatest (valuesOf (parts i)) greatest ∧ round least ≤ s ∧ s ≤ round greatest
  ignoresMissing : ∀ i j, OnScale lower upper (parts i) → OnScale lower upper (parts j) →
    (due i ↔ due j) → SameAvailable (parts i) (parts j) → score i = score j
  monotone : ∀ i j, OnScale lower upper (parts i) → OnScale lower upper (parts j) →
    due i → due j → 0 < totalWeight (available (parts i)) → Raised (parts i) (parts j) →
      ∃ s t, score i = report (some s) ∧ score j = report (some t) ∧ s ≤ t
  otherwise : ∀ i, OnScale lower upper (parts i) →
    ¬(due i ∧ 0 < totalWeight (available (parts i))) → score i = report none

section Extremes
variable {xs : List (Option K × K)}

omit [Field K] in
theorem coe_values : valuesOf xs = ((available xs).map Prod.fst).toFinset := by
  ext value
  simp [mem_valuesOf]

theorem values_nonempty (h : 0 < totalWeight (available xs)) :
    ((available xs).map Prod.fst).toFinset.Nonempty := by
  cases hxs : available xs with
  | nil => simp [hxs] at h
  | cons x rest => exact ⟨x.1,by simp⟩

theorem exists_isLeast (h : 0 < totalWeight (available xs)) :
    ∃ least, IsLeast (valuesOf xs) least := by
  rw [coe_values]
  exact ⟨_,Finset.isLeast_min' _ (values_nonempty h)⟩

theorem exists_isGreatest (h : 0 < totalWeight (available xs)) :
    ∃ greatest, IsGreatest (valuesOf xs) greatest := by
  rw [coe_values]
  exact ⟨_,Finset.isGreatest_max' _ (values_nonempty h)⟩

end Extremes

variable [IsStrictOrderedRing K]

section Bounds
variable {xs ys : List (K × K)} (hweights : ∀ x ∈ xs, 0 ≤ x.2)
include hweights

theorem totalWeight_nonneg : 0 ≤ totalWeight xs := by
  apply List.sum_nonneg
  intro w hw
  obtain ⟨x,hx,rfl⟩ := List.mem_map.mp hw
  exact hweights x hx

theorem le_weightedMean {m : K} (htotal : 0 < totalWeight xs) (h : ∀ x ∈ xs, m ≤ x.1) :
    m ≤ weightedMean xs := by
  rw [weightedMean, le_div_iff₀ htotal, totalWeight, ← List.sum_map_mul_left]
  exact List.sum_le_sum fun x hx => mul_le_mul_of_nonneg_right (h x hx) (hweights x hx)

theorem weightedMean_le {m : K} (htotal : 0 < totalWeight xs) (h : ∀ x ∈ xs, x.1 ≤ m) :
    weightedMean xs ≤ m := by
  rw [weightedMean, div_le_iff₀ htotal, totalWeight, ← List.sum_map_mul_left]
  exact List.sum_le_sum fun x hx => mul_le_mul_of_nonneg_right (h x hx) (hweights x hx)

theorem weightedSum_mono (h : List.Forall₂ (fun x y => x.2 = y.2 ∧ x.1 ≤ y.1) xs ys) :
    weightedSum xs ≤ weightedSum ys := by
  induction h with
  | nil => exact le_rfl
  | cons hxy _ ih =>
    have hrest := ih fun x hx => hweights x (List.mem_cons_of_mem _ hx)
    simp only [weightedSum, List.map_cons, List.sum_cons] at hrest ⊢
    apply add_le_add _ hrest
    rw [← hxy.1]
    exact mul_le_mul_of_nonneg_right hxy.2 (hweights _ List.mem_cons_self)

/-- Raising values raises the mean. -/
theorem weightedMean_mono (h : List.Forall₂ (fun x y => x.2 = y.2 ∧ x.1 ≤ y.1) xs ys) :
    weightedMean xs ≤ weightedMean ys := by
  rw [weightedMean, weightedMean, ← totalWeight_eq h]
  exact div_le_div_of_nonneg_right (weightedSum_mono hweights h) (totalWeight_nonneg hweights)

/-- A value that none exceeds does not lower the mean, whatever its weight. -/
theorem weightedMean_le_concat {v w : K} (hw : 0 ≤ w) (htotal : 0 < totalWeight xs) (h : ∀ x ∈ xs, x.1 ≤ v) :
    weightedMean xs ≤ weightedMean (xs ++ [(v,w)]) := by
  have hmean := weightedMean_le hweights htotal h
  rw [weightedMean, div_le_iff₀ htotal] at hmean
  rw [weightedMean, weightedMean, weightedSum_concat, totalWeight_concat,
    div_le_div_iff₀ htotal (add_pos_of_pos_of_nonneg htotal hw)]
  have hshare := mul_le_mul_of_nonneg_right hmean hw
  calc weightedSum xs*(totalWeight xs+w) = weightedSum xs*totalWeight xs+weightedSum xs*w := by ring
    _ ≤ weightedSum xs*totalWeight xs+v*totalWeight xs*w := by gcongr
    _ = (weightedSum xs+v*w)*totalWeight xs := by ring

/-- A value that none is below does not raise it. -/
theorem weightedMean_concat_le {v w : K} (hw : 0 ≤ w) (htotal : 0 < totalWeight xs) (h : ∀ x ∈ xs, v ≤ x.1) :
    weightedMean (xs ++ [(v,w)]) ≤ weightedMean xs := by
  have hmean := le_weightedMean hweights htotal h
  rw [weightedMean, le_div_iff₀ htotal] at hmean
  rw [weightedMean, weightedMean, weightedSum_concat, totalWeight_concat,
    div_le_div_iff₀ (add_pos_of_pos_of_nonneg htotal hw) htotal]
  have hshare := mul_le_mul_of_nonneg_right hmean hw
  calc (weightedSum xs+v*w)*totalWeight xs = weightedSum xs*totalWeight xs+v*totalWeight xs*w := by ring
    _ ≤ weightedSum xs*totalWeight xs+weightedSum xs*w := by gcongr
    _ = weightedSum xs*(totalWeight xs+w) := by ring

end Bounds

theorem OnScale.weightedMean_mem {lower upper : K} {xs : List (Option K × K)}
    (h : OnScale lower upper xs) (htotal : 0 < totalWeight (available xs)) :
    lower ≤ weightedMean (available xs) ∧ weightedMean (available xs) ≤ upper := by
  constructor
  · exact le_weightedMean h.weight_nonneg htotal fun x hx =>
      ((h _ (mem_available.mp hx)).2 x.1 rfl).1
  · exact weightedMean_le h.weight_nonneg htotal fun x hx =>
      ((h _ (mem_available.mp hx)).2 x.1 rfl).2

/-- What rounds the composite of its parts scores their mean. -/
theorem scoresMean_of_composite {ι ρ : Type*} {lower upper : K} {parts : ι → List (Option K × K)}
    {due : ι → Prop} [DecidablePred due] {round : K → K} {report : Option K → ρ} {score : ι → ρ}
    (hround : Monotone round)
    (hscore : ∀ i, OnScale lower upper (parts i) →
      score i = report (if due i then (composite (parts i)).map round else none)) :
    ScoresMean lower upper parts due round report score where
  between i hscale hdue htotal := by
    obtain ⟨least,hleast⟩ := exists_isLeast htotal
    obtain ⟨greatest,hgreatest⟩ := exists_isGreatest htotal
    have heq : score i = report (some (round (weightedMean (available (parts i))))) := by
      rw [hscore i hscale, if_pos hdue, composite, if_pos htotal, Option.map_some]
    refine ⟨_,least,greatest,heq,hleast,hgreatest,?_,?_⟩
    · exact hround (le_weightedMean hscale.weight_nonneg htotal fun x hx =>
        hleast.2 (mem_valuesOf.mpr ⟨x,hx,rfl⟩))
    · exact hround (weightedMean_le hscale.weight_nonneg htotal fun x hx =>
        hgreatest.2 (mem_valuesOf.mpr ⟨x,hx,rfl⟩))
  ignoresMissing i j hi hj hdue hsame := by
    rw [hscore i hi, hscore j hj, composite, composite, hsame.available_eq]
    by_cases h : due i
    · rw [if_pos h, if_pos (hdue.mp h)]
    · rw [if_neg h, if_neg fun hj => h (hdue.mpr hj)]
  monotone i j hi hj hduei hduej htotal hraised := by
    have hrel := hraised.forall₂_available
    have htotal' : 0 < totalWeight (available (parts j)) := by rwa [← totalWeight_eq hrel]
    refine ⟨round (weightedMean (available (parts i))),round (weightedMean (available (parts j))),
      ?_,?_,hround (weightedMean_mono hi.weight_nonneg hrel)⟩
    · rw [hscore i hi, if_pos hduei, composite, if_pos htotal, Option.map_some]
    · rw [hscore j hj, if_pos hduej, composite, if_pos htotal', Option.map_some]
  otherwise i hi h := by
    rw [hscore i hi]
    by_cases hdue : due i
    · rw [if_pos hdue, composite, if_neg fun htotal => h ⟨hdue,htotal⟩, Option.map_none]
    · rw [if_neg hdue]

end Ordered

end MarketScanner.Library
