import Mathlib.Tactic.Common
import Mathlib.Algebra.Order.Group.Defs
import Mathlib.Algebra.Order.Sub.Basic
import Mathlib.Data.List.Chain
import Mathlib.Tactic.Abel

/-! Departures kept apart by a stamp: whoever is to leave reads the stamp of the last departure, waits
for what is left of the interval, and leaves. A ticket is what one who waits goes by; it says nothing
of those who leave in the meantime. -/
namespace MarketScanner.Library
variable {κ : Type*} [AddCommGroup κ] [LinearOrder κ] [IsOrderedAddMonoid κ]

/-- Each departure is at least `d` after the one before it. -/
def Spaced (d : κ) (departures : List κ) : Prop := departures.IsChain fun a b => a+d ≤ b

omit [IsOrderedAddMonoid κ] in
theorem spaced_concat {d b : κ} {l : List κ} :
    Spaced d (l ++ [b]) ↔ Spaced d l ∧ ∀ a ∈ l.getLast?, a+d ≤ b := by
  unfold Spaced
  rw [List.isChain_append]
  simp

instance (d : κ) (l : List κ) : Decidable (Spaced d l) :=
  inferInstanceAs (Decidable (l.IsChain fun a b => a+d ≤ b))

/-- The stamp, and the departures so far. -/
structure Pacer (κ : Type*) where
  stamp : κ
  departures : List κ

/-- The number of departures when the stamp was read, and the instant to wait for. -/
structure Ticket (κ : Type*) where
  seen : ℕ
  due : κ

namespace Pacer
variable (p : Pacer κ) (d : κ)

def depart (now : κ) : Pacer κ := ⟨now,p.departures ++ [now]⟩

/-- The stamp is read at `now`, and the wait for the rest of the interval begins at `later`. -/
def ticket (now later : κ) : Ticket κ := ⟨p.departures.length,later+(d-(now-p.stamp))⟩

/-- The stamp is that of the last departure. -/
def Stamped : Prop := ∀ a ∈ p.departures.getLast?, a = p.stamp

/-- A ticket is good for as long as nobody has left since it was drawn. -/
structure Honours (t : Ticket κ) : Prop where
  seen : t.seen ≤ p.departures.length
  due : t.seen = p.departures.length → p.stamp+d ≤ t.due

variable {p d} {now later : κ} {t : Ticket κ}

theorem honours_ticket (h : now ≤ later) : p.Honours d (p.ticket d now later) := by
  refine ⟨le_refl _,?_⟩
  rintro -
  calc p.stamp+d = now+(d-(now-p.stamp)) := by abel
    _ ≤ later+(d-(now-p.stamp)) := by gcongr

omit [IsOrderedAddMonoid κ] in
/-- A departure leaves every ticket behind. -/
theorem Honours.depart (h : p.Honours d t) : (p.depart now).Honours d t := by
  have hlength : (p.depart now).departures.length = p.departures.length+1 :=
    List.length_append
  refine ⟨h.seen.trans (by omega),?_⟩
  intro heq
  have hseen := h.seen
  omega

omit [AddCommGroup κ] [LinearOrder κ] [IsOrderedAddMonoid κ] in
theorem stamped_depart : (p.depart now).Stamped := by
  simp [Stamped, depart]

omit [IsOrderedAddMonoid κ] in
theorem spaced_depart (h : p.Stamped) : Spaced d (p.depart now).departures ↔
    Spaced d p.departures ∧ (p.departures = [] ∨ p.stamp+d ≤ now) := by
  unfold depart
  rw [spaced_concat]
  refine and_congr_right fun _ => ?_
  constructor
  · intro hlast
    rcases List.eq_nil_or_concat p.departures with hnil | ⟨l,a,hl⟩
    · exact Or.inl hnil
    · have ha : a ∈ p.departures.getLast? := by simp [hl]
      rw [← h a ha]
      exact Or.inr (hlast a ha)
  · rintro (hnil | hnow) a ha
    · simp [hnil] at ha
    · rwa [h a ha]

/-- Who reads a stamp as old as the interval may leave at once. -/
theorem spaced_depart_of_elapsed (h : p.Stamped) (hspaced : Spaced d p.departures)
    (helapsed : d ≤ now-p.stamp) (hlater : now ≤ later) :
    Spaced d (p.depart later).departures := by
  refine (spaced_depart h).mpr ⟨hspaced,Or.inr ?_⟩
  calc p.stamp+d ≤ p.stamp+(now-p.stamp) := by gcongr
    _ = now := by abel
    _ ≤ later := hlater

omit [IsOrderedAddMonoid κ] in
/-- Who has waited for a ticket keeps the departures spaced unless another left in the meantime, less
than the interval ago. -/
theorem spaced_depart_ticket (h : p.Stamped) (hspaced : Spaced d p.departures)
    (ht : p.Honours d t) (hdue : t.due ≤ now) : Spaced d (p.depart now).departures ↔
      (t.seen < p.departures.length → p.stamp+d ≤ now) := by
  rw [spaced_depart h, and_iff_right hspaced]
  constructor
  · rintro (hnil | hnow) hseen
    · simp [hnil] at hseen
    · exact hnow
  · intro hnow
    rcases ht.seen.lt_or_eq with hseen | hseen
    · exact Or.inr (hnow hseen)
    · exact Or.inr ((ht.due hseen).trans hdue)

end Pacer
end MarketScanner.Library
