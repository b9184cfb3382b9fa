import Mathlib.Tactic.Common
import Mathlib.Data.List.Sort
import Mathlib.Data.List.Perm.Subperm

/-! `ORDER BY` and `LIMIT` over a list of rows. Rows that compare equal come in whatever order the
scan delivered them, so every query takes that order as an argument. -/
namespace MarketScanner.Library

/-- The order in which a scan delivers rows: some permutation of them, chosen by the database. -/
structure ScanOrder (ρ : Type*) where
  arrange : List ρ → List ρ
  perm : ∀ l, (arrange l).Perm l

/-- The scan that delivers rows in insertion order. -/
def ScanOrder.insertion (ρ : Type*) : ScanOrder ρ := ⟨id,fun l => List.Perm.refl l⟩

variable {ρ : Type*}

def orderBy (scan : ScanOrder ρ) (le : ρ → ρ → Prop) [DecidableRel le] (rows : List ρ) : List ρ :=
  (scan.arrange rows).insertionSort le

theorem orderBy_perm (scan : ScanOrder ρ) (le : ρ → ρ → Prop) [DecidableRel le] (rows : List ρ) :
    (orderBy scan le rows).Perm rows :=
  (List.perm_insertionSort le _).trans (scan.perm rows)

@[simp] theorem mem_orderBy {scan : ScanOrder ρ} {le : ρ → ρ → Prop} [DecidableRel le]
    {rows : List ρ} {r : ρ} : r ∈ orderBy scan le rows ↔ r ∈ rows :=
  (orderBy_perm scan le rows).mem_iff

@[simp] theorem length_orderBy (scan : ScanOrder ρ) (le : ρ → ρ → Prop) [DecidableRel le]
    (rows : List ρ) : (orderBy scan le rows).length = rows.length :=
  (orderBy_perm scan le rows).length_eq

/-- A limit drops nothing exactly when the rows fit under it. -/
theorem forall_mem_take_iff {l : List ρ} (hl : l.Nodup) (n : ℕ) :
    (∀ r ∈ l, r ∈ l.take n) ↔ l.length ≤ n := by
  constructor
  · intro h
    have hsub : l.length ≤ (l.take n).length := (hl.subperm h).length_le
    rw [List.length_take] at hsub
    omega
  · intro h r hr
    rwa [List.take_of_length_le h]

/-- The scan that delivers one row last. -/
def ScanOrder.last [DecidableEq ρ] (r : ρ) : ScanOrder ρ where
  arrange l := if r ∈ l then l.erase r ++ [r] else l
  perm l := by
    split
    · rename_i hr
      exact List.perm_append_singleton r _ |>.trans (List.perm_cons_erase hr).symm
    · exact List.Perm.refl l

/-- Whatever the scan, a limit lets the rows of a kind through, just when there are none of the kind or all
the rows fit under it. -/
theorem forall_scan_mem_take_iff [DecidableEq ρ] {l : List ρ} (hl : l.Nodup) (p : ρ → Prop) (n : ℕ) :
    (∀ scan : ScanOrder ρ, ∀ r ∈ l, p r → r ∈ (scan.arrange l).take n) ↔
      ((∃ r ∈ l, p r) → l.length ≤ n) := by
  constructor
  · rintro h ⟨r,hr,hp⟩
    by_contra hlong
    have htaken := h (ScanOrder.last r) r hr hp
    have hlength := List.length_erase_of_mem hr
    rw [show (ScanOrder.last r).arrange l = l.erase r ++ [r] from if_pos hr,
      List.take_append_of_le_length (by omega)] at htaken
    exact hl.not_mem_erase (List.mem_of_mem_take htaken)
  · intro h scan r hr hp
    have hlength : (scan.arrange l).length ≤ n := by
      rw [(scan.perm l).length_eq]
      exact h ⟨r,hr,hp⟩
    rw [List.take_of_length_le hlength]
    exact (scan.perm l).mem_iff.mpr hr

end MarketScanner.Library
