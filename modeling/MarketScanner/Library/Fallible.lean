import Mathlib.Data.List.Forall2

/-! Computations that return or fail, and a list of them run in order up to the first failure. -/
namespace MarketScanner.Library
universe u
variable {α β ε : Type u}

theorem except_bind_eq_ok_iff {x : Except ε α} {f : α → Except ε β} {b : β} :
    (x >>= f) = .ok b ↔ ∃ a, x = .ok a ∧ f a = .ok b := by
  cases x with
  | error e =>
    constructor
    · intro h
      cases h
    · rintro ⟨a,ha,-⟩
      cases ha
  | ok a =>
    constructor
    · exact fun h => ⟨a,rfl,h⟩
    · rintro ⟨a',ha',h⟩
      obtain rfl := Except.ok.inj ha'
      exact h

/-- The results of a list of computations are those of each one. -/
theorem mapM_eq_ok_iff {f : α → Except ε β} {xs : List α} {ys : List β} :
    xs.mapM f = .ok ys ↔ List.Forall₂ (fun x y => f x = .ok y) xs ys := by
  induction xs generalizing ys with
  | nil =>
    rw [List.mapM_nil, List.forall₂_nil_left_iff]
    exact ⟨fun h => (Except.ok.inj h).symm,fun h => h ▸ rfl⟩
  | cons x xs ih =>
    rw [List.mapM_cons, except_bind_eq_ok_iff, List.forall₂_cons_left_iff]
    constructor
    · rintro ⟨y,hy,h⟩
      obtain ⟨rest,hrest,h⟩ := except_bind_eq_ok_iff.mp h
      exact ⟨y,rest,hy,ih.mp hrest,(Except.ok.inj h).symm⟩
    · rintro ⟨y,rest,hy,hrest,rfl⟩
      exact ⟨y,hy,except_bind_eq_ok_iff.mpr ⟨rest,ih.mpr hrest,rfl⟩⟩

/-- They all return just where each one does. -/
theorem exists_mapM_eq_ok_iff {f : α → Except ε β} {xs : List α} :
    (∃ ys, xs.mapM f = .ok ys) ↔ ∀ x ∈ xs, ∃ y, f x = .ok y := by
  simp only [mapM_eq_ok_iff]
  induction xs with
  | nil => simp
  | cons x xs ih =>
    simp only [List.forall₂_cons_left_iff, List.forall_mem_cons, ← ih]
    constructor
    · rintro ⟨-,y,rest,hy,hrest,-⟩
      exact ⟨⟨y,hy⟩,rest,hrest⟩
    · rintro ⟨⟨y,hy⟩,rest,hrest⟩
      exact ⟨y::rest,y,rest,hy,hrest,rfl⟩

/-- A property of some result is one of a computation that returns it. -/
theorem exists_mem_results_iff {f : α → Except ε β} {xs : List α} {ys : List β} {P : β → Prop}
    (h : List.Forall₂ (fun x y => f x = .ok y) xs ys) :
    (∃ y ∈ ys, P y) ↔ ∃ x ∈ xs, ∃ y, f x = .ok y ∧ P y := by
  induction h with
  | nil => simp
  | cons hxy _ ih =>
    rw [List.exists_mem_cons_iff, List.exists_mem_cons_iff, ih]
    refine or_congr_left ⟨fun hP => ⟨_,hxy,hP⟩,?_⟩
    rintro ⟨y,hy,hP⟩
    obtain rfl := Except.ok.inj (hxy.symm.trans hy)
    exact hP

/-- Computations run for their effect alone all return just where each one does. -/
theorem forM_eq_ok_iff {α : Type*} {ε : Type u} {f : α → Except ε PUnit.{u+1}} {xs : List α} :
    xs.forM f = .ok ⟨⟩ ↔ ∀ x ∈ xs, f x = .ok ⟨⟩ := by
  induction xs with
  | nil => exact iff_of_true rfl (by simp)
  | cons x xs ih =>
    have hcons : (x::xs).forM f = f x >>= fun _ => xs.forM f := rfl
    rw [hcons, except_bind_eq_ok_iff, List.forall_mem_cons, ← ih]
    exact ⟨fun ⟨_,hx,hxs⟩ => ⟨hx,hxs⟩,fun ⟨hx,hxs⟩ => ⟨⟨⟩,hx,hxs⟩⟩

end MarketScanner.Library
