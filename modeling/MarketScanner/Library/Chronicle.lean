import Mathlib.Tactic.Common
import Mathlib.Order.MinMax
import Mathlib.Data.List.Basic

/-! Logs whose entries carry a stamp. Entries are recorded in the order of their stamps, and entries
recorded together share one: a query that goes by the stamps cannot tell such entries apart. -/
namespace MarketScanner.Library
variable {α τ : Type*} {p q : α → Bool} {l pre post : List α} {a : α}

/-- The entries after the last that satisfies `p`; all of them where none does. -/
def sinceLast (p : α → Bool) : List α → List α
  | [] => []
  | a::l => if l.any p then sinceLast p l else if p a then l else a::l

theorem sinceLast_of_none (h : ∀ a ∈ l, p a = false) : sinceLast p l = l := by
  cases l with
  | nil => rfl
  | cons a l =>
    have htail : l.any p = false := by
      rw [List.any_eq_false]
      intro b hb
      simp [h b (List.mem_cons_of_mem a hb)]
    rw [sinceLast, htail, h a List.mem_cons_self]
    rfl

theorem sinceLast_append (ha : p a = true) (hpost : ∀ b ∈ post, p b = false) :
    sinceLast p (pre ++ a::post) = post := by
  induction pre with
  | nil =>
    have hnone : post.any p = false := by
      rw [List.any_eq_false]
      intro b hb
      simp [hpost b hb]
    rw [List.nil_append, sinceLast, hnone, ha]
    rfl
  | cons b pre ih =>
    have hany : (pre ++ a::post).any p = true := by simp [ha]
    rw [List.cons_append, sinceLast, hany, if_pos rfl, ih]

variable (p l) in
/-- Either nothing satisfies `p`, or there is a last entry that does. -/
theorem none_or_last : (∀ a ∈ l, p a = false) ∨
    ∃ pre a post, l = pre ++ a::post ∧ p a = true ∧ ∀ b ∈ post, p b = false := by
  induction l with
  | nil => exact Or.inl (by simp)
  | cons a l ih =>
    rcases ih with hnone | ⟨pre,b,post,rfl,hb,hpost⟩
    · cases ha : p a with
      | true => exact Or.inr ⟨[],a,l,rfl,ha,hnone⟩
      | false => exact Or.inl (List.forall_mem_cons.mpr ⟨ha,hnone⟩)
    · exact Or.inr ⟨a::pre,b,post,rfl,hb,hpost⟩

theorem getLast?_filter_append (ha : p a = true) (hpost : ∀ b ∈ post, p b = false) :
    ((pre ++ a::post).filter p).getLast? = some a := by
  have hnil : post.filter p = [] := List.filter_eq_nil_iff.mpr fun b hb => by simp [hpost b hb]
  rw [List.filter_append, List.filter_cons_of_pos ha, hnil]
  simp

variable [LinearOrder τ] {stamp : α → τ}

/-- The stamps of a log do not decrease. -/
def Chronological (stamp : α → τ) (l : List α) : Prop := l.Pairwise fun a b => stamp a ≤ stamp b

namespace Chronological

theorem filter (h : Chronological stamp l) (p : α → Bool) : Chronological stamp (l.filter p) :=
  List.Pairwise.filter p h

theorem concat (h : Chronological stamp l) (ha : ∀ b ∈ l, stamp b ≤ stamp a) :
    Chronological stamp (l ++ [a]) := by
  refine List.pairwise_append.mpr ⟨h,List.pairwise_singleton _ _,?_⟩
  intro b hb c hc
  rw [List.mem_singleton.mp hc]
  exact ha b hb

theorem le_of_append (h : Chronological stamp (pre ++ a::post)) : ∀ b ∈ pre, stamp b ≤ stamp a := by
  intro b hb
  exact (List.pairwise_append.mp h).2.2 b hb a List.mem_cons_self

theorem ge_of_append (h : Chronological stamp (pre ++ a::post)) : ∀ b ∈ post, stamp a ≤ stamp b :=
  (List.pairwise_cons.mp (List.pairwise_append.mp h).2.1).1

/-- The newest stamp is that of the entry recorded last. -/
theorem max?_map (h : Chronological stamp l) : (l.map stamp).max? = l.getLast?.map stamp := by
  rcases List.eq_nil_or_concat l with rfl | ⟨front,a,rfl⟩
  · rfl
  · rw [List.concat_eq_append] at h ⊢
    rw [List.getLast?_append_of_ne_nil _ (List.cons_ne_nil a []), List.getLast?_singleton,
      Option.map_some, List.max?_eq_some_iff]
    refine ⟨by simp,?_⟩
    intro t ht
    obtain ⟨b,hb,rfl⟩ := List.mem_map.mp ht
    rcases List.mem_append.mp hb with hb | hb
    · exact h.le_of_append b hb
    · rw [List.mem_singleton.mp hb]

/-- Counting what is stamped after an entry leaves out what was recorded after it under its stamp. -/
theorem countP_later (h : Chronological stamp (pre ++ a::post)) (q : α → Bool) :
    (pre ++ a::post).countP (fun b => q b && decide (stamp a < stamp b)) +
        post.countP (fun b => q b && decide (stamp a = stamp b)) =
      post.countP q := by
  have hpre : pre.countP (fun b => q b && decide (stamp a < stamp b)) = 0 := by
    rw [List.countP_eq_zero]
    intro b hb
    simp [not_lt.mpr (h.le_of_append b hb)]
  rw [List.countP_append, hpre, List.countP_cons_of_neg (by simp), Nat.zero_add]
  have hge := h.ge_of_append
  clear h hpre
  induction post with
  | nil => rfl
  | cons b post ih =>
    have hrest := ih fun c hc => hge c (List.mem_cons_of_mem b hc)
    have hb := hge b List.mem_cons_self
    rw [List.countP_cons, List.countP_cons, List.countP_cons]
    rcases lt_or_eq_of_le hb with hlt | heq
    · simp only [hlt, hlt.ne, decide_true, decide_false, Bool.and_true, Bool.and_false,
        Bool.false_eq_true, if_false]
      omega
    · simp only [heq, lt_irrefl, decide_true, decide_false, Bool.and_true, Bool.and_false,
        Bool.false_eq_true, if_false] at hrest ⊢
      omega

end Chronological
end MarketScanner.Library
