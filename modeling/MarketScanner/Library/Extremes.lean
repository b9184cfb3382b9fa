import Mathlib.Order.Bounds.Basic
import Mathlib.Order.Monotone.Basic
import Mathlib.Order.MinMax
import Mathlib.Tactic.Common

/-! The largest and the smallest value of a list, and of a part of it. What holds of the smallest is
what holds of the largest in the reversed order. -/
namespace MarketScanner.Library
variable {α β γ : Type*} [LinearOrder β] [LinearOrder γ] {f : α → β} {xs ys : List α}

theorem max?_map_eq_some_iff {m : β} :
    (xs.map f).max? = some m ↔ (∃ x ∈ xs, f x = m) ∧ ∀ x ∈ xs, f x ≤ m := by
  rw [List.max?_eq_some_iff, List.mem_map, List.forall_mem_map]

theorem min?_map_eq_some_iff {m : β} :
    (xs.map f).min? = some m ↔ (∃ x ∈ xs, f x = m) ∧ ∀ x ∈ xs, m ≤ f x :=
  @max?_map_eq_some_iff α βᵒᵈ _ f xs m

theorem isGreatest_iff_max?_map {m : β} :
    IsGreatest {y | ∃ x ∈ xs, f x = y} m ↔ (xs.map f).max? = some m := by
  rw [max?_map_eq_some_iff]
  refine and_congr Iff.rfl ⟨fun h x hx => h ⟨x,hx,rfl⟩,?_⟩
  rintro h _ ⟨x,hx,rfl⟩
  exact h x hx

theorem isLeast_iff_min?_map {m : β} :
    IsLeast {y | ∃ x ∈ xs, f x = y} m ↔ (xs.map f).min? = some m :=
  @isGreatest_iff_max?_map α βᵒᵈ _ f xs m

theorem exists_max?_map (h : xs ≠ []) : ∃ m, (xs.map f).max? = some m := by
  apply Option.ne_none_iff_exists'.mp
  simpa using h

theorem exists_min?_map (h : xs ≠ []) : ∃ m, (xs.map f).min? = some m :=
  @exists_max?_map α βᵒᵈ _ f xs h

/-- More values have a larger maximum. -/
theorem exists_max?_of_subset (h : ∀ x ∈ xs, x ∈ ys) {m : β} (hm : (xs.map f).max? = some m) :
    ∃ m', (ys.map f).max? = some m' ∧ m ≤ m' := by
  obtain ⟨⟨x,hx,rfl⟩,-⟩ := max?_map_eq_some_iff.mp hm
  obtain ⟨m',hm'⟩ := exists_max?_map (f := f) (List.ne_nil_of_mem (h x hx))
  exact ⟨m',hm',(max?_map_eq_some_iff.mp hm').2 x (h x hx)⟩

theorem exists_min?_of_subset (h : ∀ x ∈ xs, x ∈ ys) {m : β} (hm : (xs.map f).min? = some m) :
    ∃ m', (ys.map f).min? = some m' ∧ m' ≤ m :=
  @exists_max?_of_subset α βᵒᵈ _ f xs ys h m hm

theorem max?_map_map {g : β → γ} (hg : Monotone g) :
    (xs.map fun x => g (f x)).max? = ((xs.map f).max?).map g := by
  cases hm : (xs.map f).max? with
  | none =>
    obtain rfl : xs = [] := by simpa using hm
    rfl
  | some m =>
    obtain ⟨⟨x,hx,rfl⟩,hle⟩ := max?_map_eq_some_iff.mp hm
    exact max?_map_eq_some_iff.mpr ⟨⟨x,hx,rfl⟩,fun y hy => hg (hle y hy)⟩

theorem min?_map_map {g : β → γ} (hg : Monotone g) :
    (xs.map fun x => g (f x)).min? = ((xs.map f).min?).map g :=
  @max?_map_map α βᵒᵈ γᵒᵈ _ _ f xs g hg.dual

/-- Leaving entries out keeps the maximum exactly when one that is as large stays for each of them. -/
theorem max?_map_filter_eq_iff {p : α → Bool} :
    (xs.map f).max? = ((xs.filter p).map f).max? ↔
      ∀ x ∈ xs, p x = false → ∃ y ∈ xs.filter p, f x ≤ f y := by
  constructor
  · intro heq x hx _
    obtain ⟨m,hm⟩ := exists_max?_map (f := f) (List.ne_nil_of_mem hx)
    obtain ⟨⟨y,hy,rfl⟩,-⟩ := max?_map_eq_some_iff.mp (heq.symm.trans hm)
    exact ⟨y,hy,(max?_map_eq_some_iff.mp hm).2 x hx⟩
  · intro h
    by_cases hnil : xs.filter p = []
    · have hxs : xs = [] := by
        apply List.eq_nil_iff_forall_not_mem.mpr
        intro x hx
        cases hp : p x with
        | true => exact List.ne_nil_of_mem (List.mem_filter.mpr ⟨hx,hp⟩) hnil
        | false =>
          obtain ⟨y,hy,-⟩ := h x hx hp
          exact List.ne_nil_of_mem hy hnil
      simp [hxs]
    · obtain ⟨m,hm⟩ := exists_max?_map (f := f) hnil
      obtain ⟨⟨y,hy,rfl⟩,hle⟩ := max?_map_eq_some_iff.mp hm
      rw [hm]
      refine max?_map_eq_some_iff.mpr ⟨⟨y,(List.mem_filter.mp hy).1,rfl⟩,fun x hx => ?_⟩
      cases hp : p x with
      | true => exact hle x (List.mem_filter.mpr ⟨hx,hp⟩)
      | false =>
        obtain ⟨z,hz,hxz⟩ := h x hx hp
        exact hxz.trans (hle z hz)

theorem min?_map_filter_eq_iff {p : α → Bool} :
    (xs.map f).min? = ((xs.filter p).map f).min? ↔
      ∀ x ∈ xs, p x = false → ∃ y ∈ xs.filter p, f y ≤ f x :=
  @max?_map_filter_eq_iff α βᵒᵈ _ f xs p

/-- The first of the entries with the largest key. -/
def firstMax (f : α → β) (first : α) (rest : List α) : α :=
  rest.foldl (fun best x => if f best < f x then x else best) first

theorem firstMax_spec (f : α → β) (first : α) (rest : List α) :
    firstMax f first rest ∈ first::rest ∧ ∀ x ∈ first::rest, f x ≤ f (firstMax f first rest) := by
  induction rest generalizing first with
  | nil => exact ⟨List.mem_singleton_self first,fun x hx => by rw [List.mem_singleton.mp hx]; rfl⟩
  | cons y rest ih =>
    have hstep : firstMax f first (y::rest) = firstMax f (if f first < f y then y else first) rest :=
      rfl
    rw [hstep]
    split
    · rename_i hlt
      obtain ⟨hmem,hle⟩ := ih y
      refine ⟨List.mem_cons_of_mem first hmem,List.forall_mem_cons.mpr ⟨?_,hle⟩⟩
      exact hlt.le.trans (hle y List.mem_cons_self)
    · rename_i hlt
      obtain ⟨hmem,hle⟩ := ih first
      obtain ⟨hfirst,hrest⟩ := List.forall_mem_cons.mp hle
      refine ⟨?_,List.forall_mem_cons.mpr ⟨hfirst,List.forall_mem_cons.mpr ⟨?_,hrest⟩⟩⟩
      · rcases List.mem_cons.mp hmem with heq | hmem
        · rw [heq]
          exact List.mem_cons_self
        · exact List.mem_cons_of_mem first (List.mem_cons_of_mem y hmem)
      · exact (not_lt.mp hlt).trans hfirst

end MarketScanner.Library
