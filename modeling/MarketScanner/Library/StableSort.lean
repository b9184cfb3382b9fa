import Mathlib.Tactic.Common
import Mathlib.Data.List.Sort
import MarketScanner.Library.Fallible

/-! What a stable sort does with each pair of elements. The order only has to be total and transitive on
the elements that are there. -/
namespace MarketScanner.Library.StableSort
variable {α : Type*} {r P : α → α → Prop}

/-- Any two elements compare, and the comparisons chain. -/
structure Orders (r : α → α → Prop) (l : List α) : Prop where
  total : ∀ a ∈ l, ∀ b ∈ l, r a b ∨ r b a
  trans : ∀ a ∈ l, ∀ b ∈ l, ∀ c ∈ l, r a b → r b c → r a c

theorem Orders.tail {a : α} {l : List α} (h : Orders r (a::l)) : Orders r l where
  total := fun x hx y hy => h.total x (List.mem_cons_of_mem a hx) y (List.mem_cons_of_mem a hy)
  trans := fun x hx y hy z hz => h.trans x (List.mem_cons_of_mem a hx) y (List.mem_cons_of_mem a hy)
    z (List.mem_cons_of_mem a hz)

variable [DecidableRel r]

theorem Orders.trans_head {a : α} {l : List α} (h : Orders r (a::l)) :
    ∀ b ∈ l.insertionSort r, ∀ c ∈ l.insertionSort r, r a b → r b c → r a c := by
  intro b hb c hc
  rw [List.mem_insertionSort] at hb hc
  exact h.trans a List.mem_cons_self b (List.mem_cons_of_mem a hb) c (List.mem_cons_of_mem a hc)

variable (r P) in
/-- The pair as the sort leaves it: the first element stays first unless it compares greater. -/
def Arranged (a b : α) : Prop := if r a b then P a b else P b a

/-- An element goes before all that it is not greater than. -/
theorem pairwise_orderedInsert {a : α} {l : List α} (hsorted : l.Pairwise r)
    (htrans : ∀ b ∈ l, ∀ c ∈ l, r a b → r b c → r a c) :
    (l.orderedInsert r a).Pairwise P ↔ l.Pairwise P ∧ ∀ b ∈ l, Arranged r P a b := by
  induction l with
  | nil => simp
  | cons b l ih =>
    obtain ⟨hhead,htail⟩ := List.pairwise_cons.mp hsorted
    by_cases hab : r a b
    · have hall : ∀ c ∈ b::l, r a c := by
        intro c hc
        rcases List.mem_cons.mp hc with rfl | hc
        · exact hab
        · exact htrans b List.mem_cons_self c (List.mem_cons_of_mem b hc) hab (hhead c hc)
      rw [List.orderedInsert_cons_of_le r l hab, List.pairwise_cons, and_comm]
      refine and_congr_right fun _ => forall₂_congr fun c hc => ?_
      rw [Arranged, if_pos (hall c hc)]
    · rw [List.orderedInsert_of_not_le r l hab, List.pairwise_cons, List.pairwise_cons,
        ih htail fun c hc d hd => htrans c (List.mem_cons_of_mem b hc) d (List.mem_cons_of_mem b hd),
        List.forall_mem_cons]
      have hb : Arranged r P a b ↔ P b a := by rw [Arranged, if_neg hab]
      simp only [List.mem_orderedInsert, forall_eq_or_imp, hb]
      tauto

theorem Orders.sorted {l : List α} (h : Orders r l) : (l.insertionSort r).Pairwise r := by
  induction l with
  | nil => exact List.Pairwise.nil
  | cons a l ih =>
    have hsorted := ih h.tail
    rw [List.insertionSort_cons]
    refine (pairwise_orderedInsert hsorted h.trans_head).mpr ⟨hsorted,fun b hb => ?_⟩
    have hb := List.mem_cons_of_mem a ((List.mem_insertionSort r).mp hb)
    unfold Arranged
    split
    · assumption
    · exact (h.total a List.mem_cons_self b hb).resolve_left ‹_›

/-- A relation holds along the sorted list just when it holds of every two elements as the sort arranges
them. -/
theorem Orders.pairwise_iff {l : List α} (h : Orders r l) :
    (l.insertionSort r).Pairwise P ↔ l.Pairwise (Arranged r P) := by
  induction l with
  | nil => simp
  | cons a l ih =>
    rw [List.insertionSort_cons, pairwise_orderedInsert h.tail.sorted h.trans_head, ih h.tail,
      List.pairwise_cons, and_comm]
    simp

/-! ### Sorting by a key that may fail -/

section Key
universe u
variable {β κ ε : Type u} {key : β → Except ε κ} {lt : κ → κ → Bool} {k : β → κ} {l sorted : List β}

/-- All keys first, and then the stable sort. -/
def sortByKey (key : β → Except ε κ) (lt : κ → κ → Bool) (l : List β) : Except ε (List β) := do
  let keyed ← l.mapM fun b => (key b).map fun k => (k,b)
  .ok ((keyed.insertionSort fun x y => lt y.1 x.1 = false).map Prod.snd)

theorem map_eq_ok_iff {b : β} {pair : κ × β} :
    (key b).map (fun k => (k,b)) = .ok pair ↔ key b = .ok pair.1 ∧ pair.2 = b := by
  obtain ⟨k,b'⟩ := pair
  cases hkey : key b with
  | error e => exact iff_of_false (by rintro ⟨⟩) (by rintro ⟨⟨⟩,-⟩)
  | ok k' => simp [Except.map, eq_comm]

/-- A sort that returns leaves the same elements. -/
theorem sortByKey_perm (h : sortByKey key lt l = .ok sorted) : sorted.Perm l := by
  obtain ⟨keyed,hkeyed,hsorted⟩ := except_bind_eq_ok_iff.mp h
  obtain rfl := Except.ok.inj hsorted
  have hback : keyed.map Prod.snd = l := by
    have hall := mapM_eq_ok_iff.mp hkeyed
    clear hkeyed hsorted h
    induction hall with
    | nil => rfl
    | cons hpair _ ih => rw [List.map_cons, ih, (map_eq_ok_iff.mp hpair).2]
  exact ((List.perm_insertionSort _ keyed).map Prod.snd).trans (hback ▸ List.Perm.refl _)

/-- It returns just where every key does. -/
theorem exists_sortByKey_iff :
    (∃ sorted, sortByKey key lt l = .ok sorted) ↔ ∀ b ∈ l, ∃ k, key b = .ok k := by
  have hkeys : (∃ sorted, sortByKey key lt l = .ok sorted) ↔
      ∃ keyed, l.mapM (fun b => (key b).map fun k => (k,b)) = .ok keyed := by
    constructor
    · rintro ⟨sorted,h⟩
      obtain ⟨keyed,hkeyed,-⟩ := except_bind_eq_ok_iff.mp h
      exact ⟨keyed,hkeyed⟩
    · rintro ⟨keyed,hkeyed⟩
      exact ⟨_,except_bind_eq_ok_iff.mpr ⟨keyed,hkeyed,rfl⟩⟩
  rw [hkeys, exists_mapM_eq_ok_iff]
  refine forall₂_congr fun b _ => ?_
  constructor
  · rintro ⟨pair,hpair⟩
    exact ⟨pair.1,(map_eq_ok_iff.mp hpair).1⟩
  · rintro ⟨k,hk⟩
    exact ⟨(k,b),map_eq_ok_iff.mpr ⟨hk,rfl⟩⟩

/-- Where the keys are known it is the stable sort by them. -/
theorem sortByKey_eq (h : ∀ b ∈ l, key b = .ok (k b)) :
    sortByKey key lt l = .ok (l.insertionSort fun a b => lt (k b) (k a) = false) := by
  have hkeyed : l.mapM (fun b => (key b).map fun k => (k,b)) = .ok (l.map fun b => (k b,b)) := by
    rw [mapM_eq_ok_iff, List.forall₂_map_right_iff, List.forall₂_same]
    exact fun b hb => map_eq_ok_iff.mpr ⟨h b hb,rfl⟩
  refine except_bind_eq_ok_iff.mpr ⟨_,hkeyed,congrArg Except.ok ?_⟩
  rw [← List.map_insertionSort (fun a b => lt (k b) (k a) = false) _ (fun b => (k b,b)) l
    fun _ _ _ _ => Iff.rfl, List.map_map]
  exact List.map_id _

end Key

end MarketScanner.Library.StableSort
