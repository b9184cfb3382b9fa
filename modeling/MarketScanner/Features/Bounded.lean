import MarketScanner.Features.Entries

/-! Columns whose entries are missing or numbers with a property, never infinite, and how the column
operations keep such properties. -/
namespace MarketScanner.Features
open MarketScanner.Library MarketScanner.Python MarketScanner.Market Series

/-- NaN, or a number with the property. -/
def NanOr (P : ℚ → Prop) : PyFloat → Prop
  | .nan => True
  | .inf _ => False
  | .finite q => P q

@[simp] theorem nanOr_nan (P : ℚ → Prop) : NanOr P .nan := trivial
@[simp] theorem nanOr_finite (P : ℚ → Prop) (q : ℚ) : NanOr P (.finite q) ↔ P q := Iff.rfl
@[simp] theorem not_nanOr_inf (P : ℚ → Prop) (s : Bool) : ¬NanOr P (.inf s) := id

def Entries (P : ℚ → Prop) (a : Series) : Prop := ∀ x ∈ a, NanOr P x

section Values
variable {P Q R : ℚ → Prop} {x y : PyFloat}

theorem NanOr.imp (h : ∀ q, P q → Q q) (hx : NanOr P x) : NanOr Q x := by
  cases x with
  | nan => trivial
  | inf s => exact hx
  | finite q => exact h q hx

theorem NanOr.add (h : ∀ p q, P p → Q q → R (p+q)) (hx : NanOr P x) (hy : NanOr Q y) :
    NanOr R (x.add y) := by
  cases x with
  | nan => trivial
  | inf s => exact absurd hx (not_nanOr_inf P s)
  | finite p =>
    cases y with
    | nan => trivial
    | inf s => exact absurd hy (not_nanOr_inf Q s)
    | finite q => exact h p q hx hy

theorem NanOr.neg (h : ∀ q, P q → Q (-q)) (hx : NanOr P x) : NanOr Q x.neg := by
  cases x with
  | nan => trivial
  | inf s => exact absurd hx (not_nanOr_inf P s)
  | finite q => exact h q hx

theorem NanOr.sub (h : ∀ p q, P p → Q q → R (p-q)) (hx : NanOr P x) (hy : NanOr Q y) :
    NanOr R (x.sub y) := by
  apply hx.add (Q := fun q => Q (-q))
  · intro p q hp hq
    simpa [sub_eq_add_neg] using h p (-q) hp hq
  · exact hy.neg fun q hq => by rwa [neg_neg]

theorem NanOr.mul (h : ∀ p q, P p → Q q → R (p*q)) (hx : NanOr P x) (hy : NanOr Q y) :
    NanOr R (x.mul y) := by
  cases x with
  | nan => trivial
  | inf s => exact absurd hx (not_nanOr_inf P s)
  | finite p =>
    cases y with
    | nan => trivial
    | inf s => exact absurd hy (not_nanOr_inf Q s)
    | finite q => exact h p q hx hy

/-- A quotient whose divisor is missing where it is zero. -/
theorem NanOr.divide (h : ∀ p q, P p → Q q → q ≠ 0 → R (p/q)) (hx : NanOr P x) (hy : NanOr Q y) :
    NanOr R (divide x (if y = .finite 0 then .nan else y)) := by
  split
  · cases x <;> trivial
  · rename_i hzero
    cases x with
    | nan => trivial
    | inf s => exact absurd hx (not_nanOr_inf P s)
    | finite p =>
      cases y with
      | nan => trivial
      | inf s => exact absurd hy (not_nanOr_inf Q s)
      | finite q =>
        have hne : q ≠ 0 := fun h => hzero (by rw [h])
        rw [Features.divide, if_neg hne]
        exact h p q hx hy hne

end Values

/-- Every number of a window without gaps is one of its entries. -/
theorem mem_of_mapM_finite {win : Series} {values : List ℚ}
    (h : win.mapM finite? = some values) {q : ℚ} (hq : q ∈ values) :
    ∃ x ∈ win, finite? x = some q := by
  induction win generalizing values with
  | nil =>
    obtain rfl : values = [] := by simpa using h.symm
    cases hq
  | cons x win ih =>
    rw [List.mapM_cons] at h
    cases hx : finite? x with
    | none => simp [hx] at h
    | some p =>
      cases hrest : win.mapM finite? with
      | none => simp [hx, hrest] at h
      | some rest =>
        obtain rfl : p::rest = values := by simpa [hx, hrest] using h
        rcases List.mem_cons.mp hq with rfl | hmem
        · exact ⟨x,List.mem_cons_self,hx⟩
        · obtain ⟨y,hy,hyq⟩ := ih hrest hmem
          exact ⟨y,List.mem_cons_of_mem x hy,hyq⟩

section Columns
variable {P Q R : ℚ → Prop} {a b : Series}

theorem Entries.imp (h : ∀ q, P q → Q q) (ha : Entries P a) : Entries Q a :=
  fun x hx => (ha x hx).imp h

theorem Entries.map {f : PyFloat → PyFloat} (h : ∀ x, NanOr P x → NanOr Q (f x))
    (ha : Entries P a) : Entries Q (a.map f) := by
  intro y hy
  obtain ⟨x,hx,rfl⟩ := List.mem_map.mp hy
  exact h x (ha x hx)

theorem Entries.zipWith {f : PyFloat → PyFloat → PyFloat}
    (h : ∀ x y, NanOr P x → NanOr Q y → NanOr R (f x y)) (ha : Entries P a) (hb : Entries Q b) :
    Entries R (List.zipWith f a b) := by
  intro z hz
  rw [← List.map_uncurry_zip_eq_zipWith] at hz
  obtain ⟨⟨x,y⟩,hxy,rfl⟩ := List.mem_map.mp hz
  exact h x y (ha x (List.of_mem_zip hxy).1) (hb y (List.of_mem_zip hxy).2)

theorem Entries.add (h : ∀ p q, P p → Q q → R (p+q)) (ha : Entries P a) (hb : Entries Q b) :
    Entries R (Series.add a b) := ha.zipWith (fun _ _ => NanOr.add h) hb

theorem Entries.sub (h : ∀ p q, P p → Q q → R (p-q)) (ha : Entries P a) (hb : Entries Q b) :
    Entries R (Series.sub a b) := ha.zipWith (fun _ _ => NanOr.sub h) hb

theorem Entries.mul (h : ∀ p q, P p → Q q → R (p*q)) (ha : Entries P a) (hb : Entries Q b) :
    Entries R (Series.mul a b) := ha.zipWith (fun _ _ => NanOr.mul h) hb

theorem Entries.scale {c : ℚ} (h : ∀ q, P q → Q (q*c)) (ha : Entries P a) :
    Entries Q (Series.scale c a) :=
  ha.map fun _ hx => hx.mul (Q := (· = c)) (fun p q hp hq => by rw [hq]; exact h p hp) rfl

theorem Entries.plus {c : ℚ} (h : ∀ q, P q → Q (q+c)) (ha : Entries P a) :
    Entries Q (Series.plus c a) :=
  ha.map fun _ hx => hx.add (Q := (· = c)) (fun p q hp hq => by rw [hq]; exact h p hp) rfl

/-- A column divided by one whose zeros are missing. -/
theorem Entries.div (h : ∀ p q, P p → Q q → q ≠ 0 → R (p/q)) (ha : Entries P a)
    (hb : Entries Q b) : Entries R (Series.div a (replaceZero b)) := by
  rw [Series.div, replaceZero, List.zipWith_map_right]
  exact ha.zipWith (fun _ _ => NanOr.divide h) hb

theorem Entries.shifted (k : ℕ) (ha : Entries P a) : Entries P (Series.shifted k a) := by
  intro x hx
  rcases List.mem_append.mp (List.mem_of_mem_take hx) with hfill | hold
  · rw [List.eq_of_mem_replicate hfill]
    trivial
  · exact ha x hold

theorem Entries.fillna {c : ℚ} (hc : P c) (ha : Entries P a) : Entries P (Series.fillna c a) := by
  apply ha.map
  intro x hx
  split
  · exact hc
  · exact hx

theorem Entries.whereOr {c : ℚ} (hc : P c) (flags : Flags) (ha : Entries P a) :
    Entries P (Series.whereOr a flags (.finite c)) := by
  intro z hz
  rw [Series.whereOr, ← List.map_uncurry_zip_eq_zipWith] at hz
  obtain ⟨⟨x,flag⟩,hx,rfl⟩ := List.mem_map.mp hz
  cases flag with
  | true => exact ha x (List.of_mem_zip hx).1
  | false => exact hc

theorem Entries.clipped {lower upper : ℚ} (hbounds : lower ≤ upper) (ha : Entries P a) :
    Entries (fun q => lower ≤ q ∧ q ≤ upper) (Series.clipped (some lower) (some upper) a) := by
  apply ha.map
  intro x hx
  cases x with
  | nan => simp [clip, PyFloat.lt, PyFloat.le]
  | inf s => exact absurd hx (not_nanOr_inf P s)
  | finite q =>
    simp only [clip, lt_finite, decide_eq_true_eq]
    by_cases hlow : q < lower
    · simp only [if_pos hlow, lt_finite, decide_eq_true_eq, if_neg (not_lt.mpr hbounds)]
      exact ⟨le_rfl,hbounds⟩
    · simp only [if_neg hlow, lt_finite, decide_eq_true_eq]
      split
      · exact ⟨hbounds,le_rfl⟩
      · rename_i hhigh
        exact ⟨not_lt.mp hlow,not_lt.mp hhigh⟩

theorem Entries.rolling {w : ℕ} {g : List ℚ → PyFloat}
    (hg : ∀ values, values.length = w → (∀ q ∈ values, P q) → NanOr Q (g values))
    (ha : Entries P a) : Entries Q (Series.rolling w g a) := by
  intro y hy
  obtain ⟨win,hwin,rfl⟩ := List.mem_map.mp hy
  obtain ⟨i,-,rfl⟩ := List.mem_map.mp hwin
  split
  · rename_i values hvalues
    split
    · rename_i hlength
      apply hg values hlength
      intro q hq
      obtain ⟨x,hx,hfinite⟩ := mem_of_mapM_finite hvalues hq
      have hP := ha x (List.mem_of_mem_take (List.mem_of_mem_drop hx))
      cases x with
      | finite p =>
        obtain rfl := Option.some.inj hfinite
        exact hP
      | nan => cases hfinite
      | inf s => cases hfinite
    · trivial
  · trivial

/-- What a step of the smoothing gives out is its mean, or nothing yet. -/
theorem nanOr_ewmStep {alpha : ℚ} {minPeriods : ℕ} {s : Ewm} {x : PyFloat}
    (h : ∀ w, (Ewm.step alpha minPeriods s x).1.weighted = some w → P w) :
    NanOr P (Ewm.step alpha minPeriods s x).2 := by
  have hout : (Ewm.step alpha minPeriods s x).2 =
      (Ewm.step alpha minPeriods s x).1.weighted.elim .nan fun w =>
        if minPeriods ≤ (Ewm.step alpha minPeriods s x).1.observed then .finite w else .nan := by
    rcases s with ⟨_ | _,oldWeight,observed⟩ <;> cases x <;> rfl
  rw [hout]
  cases hw : (Ewm.step alpha minPeriods s x).1.weighted with
  | none => trivial
  | some w =>
    rw [Option.elim_some]
    split
    · exact h w hw
    · trivial

/-- Smoothing stays within every property that weighted means stay within. -/
theorem Entries.ewm {alpha : ℚ} (hpos : 0 < alpha) (hle : alpha ≤ 1) (minPeriods : ℕ)
    (hP : ∀ a b x y, 0 ≤ a → 0 < b → P x → P y → P (blend a b x y)) (ha : Entries P a) :
    Entries P (Series.ewm alpha minPeriods a) := by
  have hstart : (0 : ℚ) ≤ 1 ∧ ∀ w, (none : Option ℚ) = some w → P w :=
    ⟨zero_le_one,fun w h => by cases h⟩
  refine forall_mem_accumulate
    (I := fun s : Ewm => 0 ≤ s.oldWeight ∧ ∀ w, s.weighted = some w → P w) ?_ hstart ha
  rintro ⟨weighted,oldWeight,observed⟩ x ⟨hold,hmean⟩ hx
  have hdecay : 0 ≤ oldWeight*(1-alpha) := mul_nonneg hold (by linarith)
  suffices hnext : 0 ≤ (Ewm.step alpha minPeriods ⟨weighted,oldWeight,observed⟩ x).1.oldWeight ∧
      ∀ w, (Ewm.step alpha minPeriods ⟨weighted,oldWeight,observed⟩ x).1.weighted = some w → P w from
    ⟨hnext,nanOr_ewmStep hnext.2⟩
  cases x with
  | inf s => exact absurd hx (not_nanOr_inf P s)
  | nan =>
    cases weighted with
    | none => exact ⟨hold,hmean⟩
    | some mean => exact ⟨hdecay,hmean⟩
  | finite q =>
    cases weighted with
    | none => exact ⟨zero_le_one,fun w hw => by rwa [← Option.some.inj hw]⟩
    | some mean =>
      refine ⟨zero_le_one,fun w hw => ?_⟩
      rw [← Option.some.inj hw]
      exact hP _ _ _ _ hdecay hpos (hmean mean rfl) hx

end Columns

/-! ### Two columns side by side -/

/-- Both missing, or both numbers in the relation. -/
def Beside (R : ℚ → ℚ → Prop) : PyFloat → PyFloat → Prop
  | .nan, .nan => True
  | .finite p, .finite q => R p q
  | _, _ => False

theorem beside_ite {R : ℚ → ℚ → Prop} {p q : ℚ} (c : Prop) [Decidable c] (h : R p q) :
    Beside R (if c then .finite p else .nan) (if c then .finite q else .nan) := by
  by_cases hc : c
  · simpa [hc, Beside] using h
  · simp [hc, Beside]

theorem forall₂_of_getElem? {R : PyFloat → PyFloat → Prop} {a b : Series}
    (hlength : a.length = b.length)
    (h : ∀ i < a.length, ∃ x y, a[i]? = some x ∧ b[i]? = some y ∧ R x y) : List.Forall₂ R a b := by
  rw [List.forall₂_iff_get]
  refine ⟨hlength,fun i ha hb => ?_⟩
  obtain ⟨x,y,hx,hy,hR⟩ := h i ha
  rw [List.getElem?_eq_getElem ha] at hx
  rw [List.getElem?_eq_getElem hb] at hy
  rwa [List.get_eq_getElem, List.get_eq_getElem, Option.some.inj hx, Option.some.inj hy]

/-- Smoothing two columns alike keeps every relation that weighted means keep. -/
theorem forall₂_ewm {R : ℚ → ℚ → Prop} {alpha : ℚ} (hpos : 0 < alpha) (hle : alpha ≤ 1)
    (minPeriods : ℕ)
    (hR : ∀ a b x y x' y', 0 ≤ a → 0 < b → R x x' → R y y' → R (blend a b x y) (blend a b x' y'))
    {a b : Series} (h : List.Forall₂ (Beside R) a b) :
    List.Forall₂ (Beside R) (ewm alpha minPeriods a) (ewm alpha minPeriods b) := by
  refine forall₂_accumulate (S := fun s t : Ewm => 0 ≤ s.oldWeight ∧ s.oldWeight = t.oldWeight ∧
    s.observed = t.observed ∧ (s.weighted = none ∧ t.weighted = none ∨
      ∃ w v, s.weighted = some w ∧ t.weighted = some v ∧ R w v)) ?_
    ⟨zero_le_one,rfl,rfl,Or.inl ⟨rfl,rfl⟩⟩ h
  rintro ⟨weighted,oldWeight,observed⟩ ⟨weighted',oldWeight',observed'⟩ x y ⟨hold,hw,ho,hmean⟩ hxy
  obtain rfl : oldWeight = oldWeight' := hw
  obtain rfl : observed = observed' := ho
  have hdecay : 0 ≤ oldWeight*(1-alpha) := mul_nonneg hold (by linarith)
  cases x <;> cases y <;> first | exact hxy.elim | skip
  case nan.nan =>
    rcases hmean with ⟨hnone,hnone'⟩ | ⟨w,v,hsome,hsome',hwv⟩
    · obtain rfl : weighted = none := hnone
      obtain rfl : weighted' = none := hnone'
      exact ⟨⟨hold,rfl,rfl,Or.inl ⟨rfl,rfl⟩⟩,trivial⟩
    · obtain rfl : weighted = some w := hsome
      obtain rfl : weighted' = some v := hsome'
      refine ⟨⟨hdecay,rfl,rfl,Or.inr ⟨w,v,rfl,rfl,hwv⟩⟩,?_⟩
      exact beside_ite _ hwv
  case finite.finite p q =>
    rcases hmean with ⟨hnone,hnone'⟩ | ⟨w,v,hsome,hsome',hwv⟩
    · obtain rfl : weighted = none := hnone
      obtain rfl : weighted' = none := hnone'
      refine ⟨⟨zero_le_one,rfl,rfl,Or.inr ⟨p,q,rfl,rfl,hxy⟩⟩,?_⟩
      exact beside_ite _ hxy
    · obtain rfl : weighted = some w := hsome
      obtain rfl : weighted' = some v := hsome'
      have hblend := hR _ _ w p v q hdecay hpos hwv hxy
      refine ⟨⟨zero_le_one,rfl,rfl,Or.inr ⟨_,_,rfl,rfl,hblend⟩⟩,?_⟩
      exact beside_ite _ hblend

/-- An entry of a combination of two related columns. -/
theorem entries_zipWith_of_forall₂ {R : ℚ → ℚ → Prop} {P : ℚ → Prop}
    {f : PyFloat → PyFloat → PyFloat} (hf : ∀ x y, Beside R x y → NanOr P (f x y))
    {a b : Series} (h : List.Forall₂ (Beside R) a b) : Entries P (List.zipWith f a b) := by
  induction h with
  | nil => simp [Entries]
  | cons hxy _ ih => exact List.forall_mem_cons.mpr ⟨hf _ _ hxy,ih⟩

end MarketScanner.Features
