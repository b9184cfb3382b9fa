import Mathlib.Tactic.Common
import Mathlib.Data.List.Induction
import Mathlib.Order.Lattice

/-! Rolling a stream of labelled items up into groups: consecutive items with one label form a group,
and an item with another label closes the open group. When the labels never go back, the groups are the
classes of the label. -/
namespace MarketScanner.Library

/-- The closed groups, oldest first, and the open one. -/
structure Rollup (α : Type*) where
  closed : List (List α)
  current : List α

namespace Rollup
variable {α β : Type*}

def empty : Rollup α := ⟨[],[]⟩

def groups (r : Rollup α) : List (List α) := r.closed ++ [r.current]

section Push
variable [DecidableEq β] (label : α → β)

def push (r : Rollup α) (x : α) : Rollup α :=
  if ∀ y ∈ r.current, label y = label x then ⟨r.closed,r.current ++ [x]⟩
  else ⟨r.closed ++ [r.current],[x]⟩

def ofList (xs : List α) : Rollup α := xs.foldl (push label) empty

@[simp] theorem ofList_nil : ofList label ([] : List α) = empty := rfl

theorem ofList_concat (xs : List α) (x : α) :
    ofList label (xs ++ [x]) = push label (ofList label xs) x := by
  rw [ofList, List.foldl_append]
  rfl

theorem flatten_push (r : Rollup α) (x : α) :
    (push label r x).groups.flatten = r.groups.flatten ++ [x] := by
  unfold push groups
  split <;> simp

/-- No item is lost and none is moved. -/
theorem flatten_ofList (xs : List α) : (ofList label xs).groups.flatten = xs := by
  induction xs using List.reverseRecOn with
  | nil => rfl
  | append_singleton xs x ih => rw [ofList_concat, flatten_push, ih]

end Push

/-- Groups of one label each, the labels climbing; only before the first item is a group empty. -/
structure Sorted [Preorder β] (label : α → β) (r : Rollup α) : Prop where
  opened : r.current = [] → r.closed = []
  nonempty : ∀ g ∈ r.closed, g ≠ []
  uniform : ∀ g ∈ r.groups, ∀ x ∈ g, ∀ y ∈ g, label x = label y
  climbing : r.groups.Pairwise fun g h => ∀ x ∈ g, ∀ y ∈ h, label x < label y

variable [LinearOrder β] {label : α → β}

theorem sorted_empty : Sorted label (empty : Rollup α) where
  opened := fun _ => rfl
  nonempty := fun g hg => by cases hg
  uniform := by
    intro g hg x hx
    obtain rfl := List.mem_singleton.mp hg
    cases hx
  climbing := List.pairwise_singleton _ _

theorem Sorted.below_current {r : Rollup α} (h : Sorted label r) {g : List α} (hg : g ∈ r.closed) :
    ∀ y ∈ g, ∀ z ∈ r.current, label y < label z :=
  (List.pairwise_append.mp h.climbing).2.2 g hg r.current (List.mem_singleton_self _)

/-- An item with the open group's label joins it. -/
theorem Sorted.join {r : Rollup α} (h : Sorted label r) {x : α}
    (hsame : ∀ y ∈ r.current, label y = label x) :
    Sorted label ⟨r.closed,r.current ++ [x]⟩ := by
  refine ⟨fun hnil => by simp at hnil,h.nonempty,?_,?_⟩
  · intro g hg
    rcases List.mem_append.mp hg with hold | hnew
    · exact h.uniform g (List.mem_append_left _ hold)
    · obtain rfl := List.mem_singleton.mp hnew
      have hlabel : ∀ y ∈ r.current ++ [x], label y = label x := by
        intro y hy
        rcases List.mem_append.mp hy with hy | hy
        · exact hsame y hy
        · rw [List.mem_singleton.mp hy]
      intro y hy z hz
      rw [hlabel y hy, hlabel z hz]
  · refine List.pairwise_append.mpr
      ⟨(List.pairwise_append.mp h.climbing).1,List.pairwise_singleton _ _,?_⟩
    intro g hg g' hg' y hy z hz
    obtain rfl := List.mem_singleton.mp hg'
    rcases List.mem_append.mp hz with hz | hz
    · exact h.below_current hg y hy z hz
    · obtain rfl := List.mem_singleton.mp hz
      -- with a closed group before it, the open group has an item to compare with
      have hopen : r.current ≠ [] := fun hnil => by
        rw [h.opened hnil] at hg
        cases hg
      obtain ⟨w,hw⟩ := List.exists_mem_of_ne_nil r.current hopen
      rw [← hsame w hw]
      exact h.below_current hg y hy w hw

/-- An item with a later label closes the open group. -/
theorem Sorted.close {r : Rollup α} (h : Sorted label r) (hopen : r.current ≠ []) {x : α}
    (hlt : ∀ y ∈ r.current, label y < label x) :
    Sorted label ⟨r.closed ++ [r.current],[x]⟩ := by
  obtain ⟨w,hw⟩ := List.exists_mem_of_ne_nil r.current hopen
  refine ⟨fun hnil => by simp at hnil,?_,?_,?_⟩
  · intro g hg
    rcases List.mem_append.mp hg with hold | hnew
    · exact h.nonempty g hold
    · rw [List.mem_singleton.mp hnew]
      exact hopen
  · intro g hg
    rcases List.mem_append.mp hg with hold | hnew
    · exact h.uniform g hold
    · obtain rfl := List.mem_singleton.mp hnew
      intro y hy z hz
      rw [List.mem_singleton.mp hy, List.mem_singleton.mp hz]
  · refine List.pairwise_append.mpr ⟨h.climbing,List.pairwise_singleton _ _,?_⟩
    intro g hg g' hg' y hy z hz
    obtain rfl := List.mem_singleton.mp hg'
    obtain rfl := List.mem_singleton.mp hz
    rcases List.mem_append.mp hg with hold | hlast
    · exact (h.below_current hold y hy w hw).trans (hlt w hw)
    · rw [List.mem_singleton.mp hlast] at hy
      exact hlt y hy

theorem Sorted.push {r : Rollup α} (h : Sorted label r) {x : α}
    (hx : ∀ y ∈ r.current, label y ≤ label x) : Sorted label (r.push label x) := by
  unfold Rollup.push
  split
  · rename_i hsame
    exact h.join hsame
  · rename_i hother
    obtain ⟨w,hw,hne⟩ : ∃ w ∈ r.current, label w ≠ label x := by
      simpa using hother
    refine h.close (List.ne_nil_of_mem hw) fun y hy => ?_
    rw [h.uniform r.current (List.mem_append_right _ (List.mem_singleton_self _)) y hy w hw]
    exact lt_of_le_of_ne (hx w hw) hne

/-- A stream whose labels never go back rolls up into sorted groups. -/
theorem sorted_ofList {xs : List α} (h : xs.Pairwise fun x y => label x ≤ label y) :
    Sorted label (ofList label xs) := by
  induction xs using List.reverseRecOn with
  | nil => exact sorted_empty
  | append_singleton xs x ih =>
    obtain ⟨hxs,-,hlast⟩ := List.pairwise_append.mp h
    rw [ofList_concat]
    apply (ih hxs).push
    intro y hy
    have hmem : y ∈ xs := by
      rw [← flatten_ofList label xs]
      exact List.mem_flatten.mpr
        ⟨_,List.mem_append_right _ (List.mem_singleton_self _),hy⟩
    exact hlast y hmem x (List.mem_singleton_self x)

/-- In groups with climbing labels, a group is all that has its label. -/
theorem filter_flatten {groups : List (List α)} {g : List α} {x : α} (hg : g ∈ groups)
    (hx : x ∈ g) (huniform : ∀ g ∈ groups, ∀ x ∈ g, ∀ y ∈ g, label x = label y)
    (hclimbing : groups.Pairwise fun g h => ∀ x ∈ g, ∀ y ∈ h, label x < label y) :
    groups.flatten.filter (fun y => decide (label y = label x)) = g := by
  have hall : g.filter (fun y => decide (label y = label x)) = g := by
    rw [List.filter_eq_self]
    intro y hy
    exact decide_eq_true (huniform g hg y hy x hx)
  induction groups with
  | nil => cases hg
  | cons g' rest ih =>
    obtain ⟨hhead,htail⟩ := List.pairwise_cons.mp hclimbing
    rw [List.flatten_cons, List.filter_append]
    rcases List.mem_cons.mp hg with rfl | hrest
    · have hnone : rest.flatten.filter (fun y => decide (label y = label x)) = [] := by
        rw [List.filter_eq_nil_iff]
        intro y hy
        obtain ⟨h,hh,hyh⟩ := List.mem_flatten.mp hy
        simpa using ((hhead h hh x hx y hyh).ne')
      rw [hall, hnone, List.append_nil]
    · have hnone : g'.filter (fun y => decide (label y = label x)) = [] := by
        rw [List.filter_eq_nil_iff]
        intro y hy
        simpa using (hhead g hrest y hy x hx).ne
      rw [hnone, List.nil_append]
      exact ih hrest (fun h hh => huniform h (List.mem_cons_of_mem g' hh)) htail

end Rollup
end MarketScanner.Library
