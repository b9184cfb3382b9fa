import Mathlib.Tactic.Common
import Mathlib.Data.List.Basic
import Mathlib.Data.List.Chain
import Mathlib.Order.Basic

/-! Trails: append-only lists of vertices of a directed graph, each joined to the one before it by
an edge. When edges climb a rank, a trail meets no vertex twice. -/
namespace MarketScanner.Library

/-- `Trail entry edge l current`: `l` starts at an entry, follows edges, and ends at `current`. -/
inductive Trail {ν : Type*} (entry : ν → Prop) (edge : ν → ν → Prop) : List ν → Option ν → Prop
  | nil : Trail entry edge [] none
  | first {v : ν} (start : entry v) : Trail entry edge [v] (some v)
  | move {l : List ν} {v w : ν} (trail : Trail entry edge l (some v)) (step : edge v w) :
      Trail entry edge (l ++ [w]) (some w)

namespace Trail
variable {ν ρ : Type*} [Preorder ρ] {entry : ν → Prop} {edge : ν → ν → Prop} {l : List ν}
  {current : Option ν}

theorem current_eq (h : Trail entry edge l current) : current = l.getLast? := by
  cases h with
  | nil => rfl
  | first start => rfl
  | move trail step => simp

theorem eq_nil (h : Trail entry edge l none) : l = [] := by
  cases h
  rfl

/-- The vertex before any vertex of a trail is joined to it; only the first one is an entry. -/
theorem pred (h : Trail entry edge l current) {pre post : List ν} {v : ν}
    (hl : l = pre ++ v::post) :
    (pre = [] ∧ entry v) ∨ ∃ front u, pre = front ++ [u] ∧ edge u v := by
  induction h generalizing post with
  | nil => simp at hl
  | first start =>
    left
    cases pre with
    | nil =>
      obtain ⟨rfl,-⟩ := List.cons.inj hl
      exact ⟨rfl,start⟩
    | cons w pre => simp at hl
  | @move l u w trail step ih =>
    rcases List.eq_nil_or_concat post with rfl | ⟨post,x,rfl⟩
    · right
      obtain ⟨rfl,hw⟩ := List.append_inj' hl rfl
      obtain rfl : w = v := by simpa using hw
      have hlast : some u = l.getLast? := trail.current_eq
      obtain ⟨front,rfl⟩ := List.getLast?_eq_some_iff.mp hlast.symm
      exact ⟨front,u,rfl,step⟩
    · rw [List.concat_eq_append, ← List.cons_append, ← List.append_assoc] at hl
      exact ih (List.append_inj' hl rfl).1

/-- Whatever is true of entries and of the end of every edge is true of every vertex met. -/
theorem forall_mem (h : Trail entry edge l current) (p : ν → Prop) (hentry : ∀ v, entry v → p v)
    (hedge : ∀ u v, edge u v → p v) : ∀ v ∈ l, p v := by
  intro v hv
  obtain ⟨pre,post,hl⟩ := List.append_of_mem hv
  rcases h.pred hl with ⟨-,hstart⟩ | ⟨front,u,-,hstep⟩
  · exact hentry v hstart
  · exact hedge u v hstep

theorem isChain (h : Trail entry edge l current) : l.IsChain edge := by
  induction h with
  | nil => exact List.IsChain.nil
  | first start => exact List.IsChain.singleton _
  | @move l v w trail step ih =>
    refine List.isChain_append.mpr ⟨ih,List.IsChain.singleton _,?_⟩
    intro x hx y hy
    rw [← trail.current_eq] at hx
    obtain rfl : v = x := Option.some.inj hx
    obtain rfl : w = y := Option.some.inj hy
    exact step

/-- Nothing follows a vertex without outgoing edges. -/
theorem last_of_terminal (h : Trail entry edge l current) {pre post : List ν} {v : ν}
    (hl : l = pre ++ v::post) (hterminal : ∀ w, ¬ edge v w) : post = [] := by
  cases post with
  | nil => rfl
  | cons w post =>
    have hl' : l = (pre ++ [v]) ++ w::post := by rw [hl, List.append_assoc]; rfl
    rcases h.pred hl' with ⟨hnil,-⟩ | ⟨front,u,hfront,hstep⟩
    · simp at hnil
    · obtain ⟨-,hu⟩ := List.append_inj' hfront rfl
      obtain rfl : v = u := by simpa using hu
      exact absurd hstep (hterminal w)

variable {rank : ν → ρ} (hrank : ∀ u v, edge u v → rank u < rank v)
include hrank

/-- Along edges that climb a rank, the whole trail climbs it. -/
theorem pairwise_rank (h : Trail entry edge l current) :
    l.Pairwise (fun u v => rank u < rank v) ∧
      ∀ v, current = some v → ∀ u ∈ l, rank u ≤ rank v := by
  induction h with
  | nil =>
    refine ⟨List.Pairwise.nil,?_⟩
    intro v hv
    contradiction
  | first start =>
    refine ⟨List.pairwise_singleton _ _,?_⟩
    intro v hv u hu
    obtain rfl := Option.some.inj hv
    rw [List.mem_singleton.mp hu]
  | @move l v w trail step ih =>
    obtain ⟨hpair,hmax⟩ := ih
    have hbelow : ∀ u ∈ l, rank u < rank w := fun u hu =>
      lt_of_le_of_lt (hmax v rfl u hu) (hrank v w step)
    constructor
    · refine List.pairwise_append.mpr ⟨hpair,List.pairwise_singleton _ _,?_⟩
      intro u hu x hx
      rw [List.mem_singleton.mp hx]
      exact hbelow u hu
    · intro x hx u hu
      obtain rfl := Option.some.inj hx
      rcases List.mem_append.mp hu with hold | hlast
      · exact le_of_lt (hbelow u hold)
      · rw [List.mem_singleton.mp hlast]

/-- A property that fixes the rank is met at most once. -/
theorem count_le_one (h : Trail entry edge l current) (p : ν → Bool)
    (hp : ∀ u v, p u = true → p v = true → ¬ rank u < rank v) : l.countP p ≤ 1 := by
  have hpair := (h.pairwise_rank hrank).1.filter p
  rw [List.countP_eq_length_filter]
  match hfilter : l.filter p with
  | [] => simp
  | [_] => simp
  | u::v::rest =>
    rw [hfilter] at hpair
    have hu : u ∈ l.filter p := by rw [hfilter]; simp
    have hv : v ∈ l.filter p := by rw [hfilter]; simp
    have hlt : rank u < rank v := (List.pairwise_cons.mp hpair).1 v (by simp)
    exact absurd hlt (hp u v (List.mem_filter.mp hu).2 (List.mem_filter.mp hv).2)

end Trail
end MarketScanner.Library
