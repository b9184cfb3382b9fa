import Mathlib.Tactic.Common
import Mathlib.Data.List.Basic
import Mathlib.Data.List.Nodup
import Mathlib.Data.List.Dedup
import Mathlib.Data.List.Induction

/-! Collecting values in order and keeping the first occurrence of each: a loop over the values with
the collected ones as its state. -/
namespace MarketScanner.Library.KeepFirst
variable {α : Type*} [DecidableEq α]

def add (collected : List α) (x : α) : List α := if x ∈ collected then collected else collected ++ [x]

def addAll (collected xs : List α) : List α := xs.foldl add collected

@[simp] theorem addAll_nil (collected : List α) : addAll collected [] = collected := rfl

theorem addAll_cons (collected : List α) (x : α) (xs : List α) :
    addAll collected (x::xs) = addAll (add collected x) xs := rfl

theorem addAll_append (collected xs ys : List α) :
    addAll collected (xs ++ ys) = addAll (addAll collected xs) ys := by
  simp [addAll]

theorem prefix_add (collected : List α) (x : α) : collected <+: add collected x := by
  unfold add
  split
  · exact List.prefix_rfl
  · exact List.prefix_append _ _

theorem prefix_addAll (collected xs : List α) : collected <+: addAll collected xs := by
  induction xs generalizing collected with
  | nil => exact List.prefix_rfl
  | cons x xs ih => exact (prefix_add collected x).trans (ih _)

theorem nodup_add {collected : List α} (h : collected.Nodup) (x : α) : (add collected x).Nodup := by
  unfold add
  by_cases hx : x ∈ collected
  · rwa [if_pos hx]
  · rw [if_neg hx]
    refine List.nodup_append.mpr ⟨h,List.nodup_singleton x,?_⟩
    intro a ha b hb
    rw [List.mem_singleton.mp hb]
    rintro rfl
    exact hx ha

theorem nodup_addAll {collected : List α} (h : collected.Nodup) (xs : List α) :
    (addAll collected xs).Nodup := by
  induction xs generalizing collected with
  | nil => exact h
  | cons x xs ih => exact ih (nodup_add h x)

theorem mem_add {collected : List α} {x y : α} : y ∈ add collected x ↔ y ∈ collected ∨ y = x := by
  unfold add
  by_cases hx : x ∈ collected
  · rw [if_pos hx]
    constructor
    · exact Or.inl
    · rintro (hy | rfl)
      · exact hy
      · exact hx
  · simp [hx]

theorem mem_addAll {collected xs : List α} {y : α} :
    y ∈ addAll collected xs ↔ y ∈ collected ∨ y ∈ xs := by
  induction xs generalizing collected with
  | nil => simp
  | cons x xs ih => rw [addAll_cons, ih, mem_add, List.mem_cons, or_assoc]

/-- The values come in the order of their first occurrences. -/
theorem pairwise_idxOf_addAll (xs : List α) :
    (addAll [] xs).Pairwise fun a b => xs.idxOf a < xs.idxOf b := by
  induction xs using List.reverseRecOn with
  | nil => exact List.Pairwise.nil
  | append_singleton xs x ih =>
    have hold : ∀ a ∈ addAll [] xs, (xs ++ [x]).idxOf a = xs.idxOf a ∧ xs.idxOf a < xs.length := by
      intro a ha
      have hmem : a ∈ xs := by simpa using mem_addAll.mp ha
      exact ⟨List.idxOf_append_of_mem hmem,List.idxOf_lt_length_of_mem hmem⟩
    have hpairs : (addAll [] xs).Pairwise fun a b => (xs ++ [x]).idxOf a < (xs ++ [x]).idxOf b := by
      refine ih.imp_of_mem fun ha hb hlt => ?_
      rwa [(hold _ ha).1, (hold _ hb).1]
    have hstep : addAll [] (xs ++ [x]) = add (addAll [] xs) x := addAll_append _ _ _
    rw [hstep, add]
    split
    · exact hpairs
    · rename_i hx
      have hnew : x ∉ xs := fun hmem => hx (mem_addAll.mpr (Or.inr hmem))
      refine List.pairwise_append.mpr ⟨hpairs,List.pairwise_singleton _ _,?_⟩
      intro a ha b hb
      obtain ⟨heq,hlt⟩ := hold a ha
      rw [List.mem_singleton.mp hb, heq, List.idxOf_append_of_notMem hnew]
      simpa using hlt

/-- Nothing is added exactly when everything is there already. -/
theorem addAll_eq_self_iff {collected xs : List α} :
    addAll collected xs = collected ↔ ∀ x ∈ xs, x ∈ collected := by
  induction xs generalizing collected with
  | nil => simp
  | cons x xs ih =>
    rw [addAll_cons, List.forall_mem_cons]
    by_cases hx : x ∈ collected
    · rw [add, if_pos hx, ih]
      simp [hx]
    · constructor
      · intro h
        have hlength : (add collected x).length ≤ collected.length := by
          rw [← congrArg List.length h]
          exact (prefix_addAll _ _).length_le
        rw [add, if_neg hx, List.length_append, List.length_singleton] at hlength
        omega
      · rintro ⟨h,-⟩
        exact absurd h hx

/-- Values without repetition are collected as they are. -/
theorem addAll_nodup {collected xs : List α} (h : (collected ++ xs).Nodup) :
    addAll collected xs = collected ++ xs := by
  induction xs generalizing collected with
  | nil => simp
  | cons x xs ih =>
    have hx : x ∉ collected := fun hmem =>
      (List.nodup_append.mp h).2.2 x hmem x (List.mem_cons_self) rfl
    rw [addAll_cons, add, if_neg hx, ih (by simpa using h)]
    simp

/-- The collection of `xs ++ ys` is `xs` exactly when `xs` repeats nothing and contains `ys`. -/
theorem addAll_append_eq_iff {xs ys : List α} :
    addAll [] (xs ++ ys) = xs ↔ xs.Nodup ∧ ∀ y ∈ ys, y ∈ xs := by
  have hkeep : xs.Nodup → addAll [] xs = xs := fun hnodup =>
    @addAll_nodup _ _ [] xs (by simpa using hnodup)
  rw [addAll_append]
  constructor
  · intro h
    have hnodup : xs.Nodup := by
      rw [← h]
      exact nodup_addAll (nodup_addAll List.nodup_nil xs) ys
    rw [hkeep hnodup] at h
    exact ⟨hnodup,addAll_eq_self_iff.mp h⟩
  · rintro ⟨hnodup,hmem⟩
    rw [hkeep hnodup]
    exact addAll_eq_self_iff.mpr hmem

/-- Of two lists of the same values, one without repetition, the other is as long just when it repeats
nothing either. -/
theorem length_eq_iff_nodup {xs ys : List α} (hxs : xs.Nodup) (h : ∀ a, a ∈ xs ↔ a ∈ ys) :
    ys.length = xs.length ↔ ys.Nodup := by
  have hperm : xs.Perm ys.dedup := by
    apply (List.perm_ext_iff_of_nodup hxs (List.nodup_dedup ys)).mpr
    intro a
    rw [h, List.mem_dedup]
  rw [hperm.length_eq]
  constructor
  · intro heq
    rw [← (List.dedup_sublist ys).eq_of_length heq.symm]
    exact List.nodup_dedup ys
  · intro hnodup
    rw [hnodup.dedup]

end MarketScanner.Library.KeepFirst
