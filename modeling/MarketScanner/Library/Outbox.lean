import Mathlib.Tactic.Common
import Mathlib.Data.List.Perm.Basic
import Mathlib.Data.List.Nodup

/-! Items that wait to be handed over. A hand-over takes out everything that waits, and delivers as much
of it as it can; nothing is put back. -/
namespace MarketScanner.Library

/-- All items so far, those that wait, and which have been delivered. -/
structure Outbox (α : Type*) where
  produced : List α
  waiting : List α
  delivered : α → Prop

namespace Outbox
variable {α : Type*}

/-- Each item is put in once, and what is delivered no longer waits. -/
structure Accounted (o : Outbox α) : Prop where
  distinct : o.produced.Nodup
  settled : ∃ settled, o.produced.Perm (settled ++ o.waiting) ∧ ∀ x, o.delivered x → x ∈ settled

/-- Each of the items that must arrive is either delivered or still waits, and never both. -/
def NoneLost (due : α → Prop) (o : Outbox α) : Prop :=
  ∀ x ∈ o.produced, due x → Xor (o.delivered x) (x ∈ o.waiting)

variable {o : Outbox α} {due : α → Prop}

theorem Accounted.waiting_subset (h : o.Accounted) {x : α} (hx : x ∈ o.waiting) :
    x ∈ o.produced := by
  obtain ⟨settled,hperm,-⟩ := h.settled
  exact hperm.mem_iff.mpr (List.mem_append_right _ hx)

theorem Accounted.delivered_subset (h : o.Accounted) {x : α} (hx : o.delivered x) :
    x ∈ o.produced := by
  obtain ⟨settled,hperm,hsettled⟩ := h.settled
  exact hperm.mem_iff.mpr (List.mem_append_left _ (hsettled x hx))

theorem Accounted.not_waiting (h : o.Accounted) {x : α} (hx : o.delivered x) : x ∉ o.waiting := by
  obtain ⟨settled,hperm,hsettled⟩ := h.settled
  have hnodup := hperm.nodup_iff.mp h.distinct
  exact fun hwaiting => List.disjoint_of_nodup_append hnodup (hsettled x hx) hwaiting

theorem Accounted.put (h : o.Accounted) {x : α} {waiting : List α} (hx : x ∉ o.produced)
    (hwaiting : waiting.Perm (o.waiting ++ [x])) :
    Accounted ⟨o.produced ++ [x],waiting,o.delivered⟩ := by
  obtain ⟨settled,hperm,hsettled⟩ := h.settled
  constructor
  · exact List.nodup_append.mpr ⟨h.distinct,List.nodup_singleton x,fun a ha b hb => by
      rw [List.mem_singleton.mp hb]
      rintro rfl
      exact hx ha⟩
  · refine ⟨settled,?_,hsettled⟩
    have hafter : (o.produced ++ [x]).Perm (settled ++ (o.waiting ++ [x])) := by
      rw [← List.append_assoc]
      exact hperm.append_right [x]
    exact hafter.trans (hwaiting.symm.append_left settled)

/-- A hand-over, whatever of it is delivered. -/
theorem Accounted.takeOut (h : o.Accounted) {delivered : α → Prop}
    (hnew : ∀ x, delivered x → o.delivered x ∨ x ∈ o.waiting) :
    Accounted ⟨o.produced,[],delivered⟩ := by
  obtain ⟨settled,hperm,hsettled⟩ := h.settled
  refine ⟨h.distinct,settled ++ o.waiting,?_,?_⟩
  · rw [List.append_nil]
    exact hperm
  · intro x hx
    rcases hnew x hx with hold | hwaiting
    · exact List.mem_append_left _ (hsettled x hold)
    · exact List.mem_append_right _ hwaiting

theorem NoneLost.put (h : o.NoneLost due) (haccounted : o.Accounted) {x : α} {waiting : List α}
    {due' : α → Prop} (hx : x ∉ o.produced) (hwaiting : waiting.Perm (o.waiting ++ [x]))
    (hdue : ∀ y ∈ o.produced, due' y → due y) :
    NoneLost due' ⟨o.produced ++ [x],waiting,o.delivered⟩ := by
  intro y hy hduey
  have hmem : y ∈ waiting ↔ y ∈ o.waiting ∨ y = x := by
    rw [hwaiting.mem_iff, List.mem_append, List.mem_singleton]
  rcases List.mem_append.mp hy with hold | hnew
  · have hne : y ≠ x := fun heq => hx (heq ▸ hold)
    have hxor := h y hold (hdue y hold hduey)
    change Xor (o.delivered y) (y ∈ waiting)
    rw [hmem, or_iff_left hne]
    exact hxor
  · obtain rfl := List.mem_singleton.mp hnew
    exact Or.inr ⟨hmem.mpr (Or.inr rfl),fun hdelivered => hx (haccounted.delivered_subset hdelivered)⟩

/-- A hand-over loses nothing exactly when it delivers all that waited and must arrive. -/
theorem NoneLost.takeOut_iff (h : o.NoneLost due) (haccounted : o.Accounted)
    {delivered : α → Prop} (hold : ∀ x, o.delivered x → delivered x) :
    NoneLost due ⟨o.produced,[],delivered⟩ ↔ ∀ x ∈ o.waiting, due x → delivered x := by
  constructor
  · intro hafter x hx hduex
    rcases hafter x (haccounted.waiting_subset hx) hduex with ⟨hdelivered,-⟩ | ⟨hwaiting,-⟩
    · exact hdelivered
    · cases hwaiting
  · intro hall x hx hduex
    refine Or.inl ⟨?_,List.not_mem_nil⟩
    rcases h x hx hduex with ⟨hdelivered,-⟩ | ⟨hwaiting,-⟩
    · exact hold x hdelivered
    · exact hall x hwaiting hduex

end Outbox
end MarketScanner.Library
