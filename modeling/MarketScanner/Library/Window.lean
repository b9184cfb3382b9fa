import Mathlib.Data.List.Nodup
import MarketScanner.Library.Query

/-! Rows numbered within partitions, and what a limit lets through. Both are about rows that a query has
put in order, whatever it does with those that compare equal. -/
namespace MarketScanner.Library
variable {ρ κ : Type*} {le : ρ → ρ → Prop} {p : ρ → Bool} {l rows : List ρ} {r x : ρ}

section Firsts
variable [DecidableEq κ] (key : ρ → κ)

/-- The rows with `row_number()` 1 over a partition by `key`, of rows in their order. -/
def firsts : List ρ → List ρ
  | [] => []
  | r::rs => r::(firsts rs).filter fun x => decide (key x ≠ key r)

variable {key}

theorem firsts_sublist (l : List ρ) : (firsts key l).Sublist l := by
  induction l with
  | nil => exact List.Sublist.slnil
  | cons r rs ih => exact (List.filter_sublist.trans ih).cons_cons r

/-- One row for each key. -/
theorem nodup_firsts (l : List ρ) : ((firsts key l).map key).Nodup := by
  induction l with
  | nil => exact List.nodup_nil
  | cons r rs ih =>
    rw [firsts, List.map_cons, List.nodup_cons]
    constructor
    · intro h
      obtain ⟨x,hx,hkey⟩ := List.mem_map.mp h
      exact of_decide_eq_true (List.mem_filter.mp hx).2 hkey
    · exact ih.sublist (List.filter_sublist.map key)

/-- The row of a key is the first with that key. -/
theorem mem_firsts_iff : r ∈ firsts key l ↔ l.find? (fun x => decide (key x = key r)) = some r := by
  induction l with
  | nil => simp [firsts]
  | cons x xs ih =>
    rw [firsts, List.mem_cons, List.mem_filter, ih, List.find?_cons]
    by_cases hkey : key x = key r
    · simp only [hkey, ne_eq, not_true_eq_false, decide_false, Bool.false_eq_true, and_false, or_false,
        decide_true]
      rw [Option.some.injEq, eq_comm]
    · have hne : r ≠ x := fun h => hkey (congrArg key h.symm)
      simp [hkey, hne, Ne.symm hkey]

theorem exists_mem_firsts (hx : x ∈ l) : ∃ r ∈ firsts key l, key r = key x := by
  have hfound : (l.find? fun y => decide (key y = key x)).isSome = true :=
    List.find?_isSome.mpr ⟨x,hx,by simp⟩
  obtain ⟨r,hr⟩ := Option.isSome_iff_exists.mp hfound
  have hkey : key r = key x := by simpa using List.find?_some hr
  refine ⟨r,mem_firsts_iff.mpr ?_,hkey⟩
  rw [hkey, hr]

/-- Of ordered rows it is one that no other of its key precedes. -/
theorem le_of_mem_firsts (hrefl : ∀ a, le a a) (hl : l.Pairwise le) (hr : r ∈ firsts key l) (hx : x ∈ l)
    (hkey : key x = key r) : le r x := by
  obtain ⟨-,as,bs,rfl,hbefore⟩ := List.find?_eq_some_iff_append.mp (mem_firsts_iff.mp hr)
  rcases List.mem_append.mp hx with has | hbs
  · simpa [hkey] using hbefore x has
  · rcases List.mem_cons.mp hbs with rfl | hlater
    · exact hrefl x
    · exact List.rel_of_pairwise_cons (List.pairwise_append.mp hl).2.1 hlater

end Firsts

section Limit
variable [DecidableRel le] {n : ℕ}

/-- A row with `n` rows before it does not come through a limit of `n`. -/
theorem not_mem_take_of_length (hl : l.Pairwise le)
    (hn : n ≤ (l.filter fun x => decide (¬le r x)).length) (hrefl : le r r) : r ∉ l.take n := by
  intro htaken
  have hdropped : (l.drop n).filter (fun x => decide (¬le r x)) = [] := by
    rw [List.filter_eq_nil_iff]
    intro x hx
    rw [← List.take_append_drop n l, List.pairwise_append] at hl
    simpa using hl.2.2 r htaken x hx
  have hshort : ((l.take n).filter fun x => decide (¬le r x)).length < (l.take n).length := by
    refine lt_of_le_of_ne (List.length_filter_le _ _) fun heq => ?_
    have hall := List.length_filter_eq_length_iff.mp heq r htaken
    simp [hrefl] at hall
  rw [← List.take_append_drop n l, List.filter_append, hdropped, List.append_nil] at hn
  have htake := List.length_take_le n l
  omega

omit [DecidableRel le] in
/-- A row comes through a limit, or the limit is used up by rows that precede it. -/
theorem mem_take_or (hl : l.Pairwise le) (hr : r ∈ l) :
    r ∈ l.take n ∨ (l.take n).length = n ∧ ∀ x ∈ l.take n, le x r := by
  rw [← List.take_append_drop n l] at hl hr
  rcases List.mem_append.mp hr with htaken | hdropped
  · exact Or.inl htaken
  · refine Or.inr ⟨?_,fun x hx => (List.pairwise_append.mp hl).2.2 x hx r hdropped⟩
    rw [List.length_take, min_eq_left]
    by_contra hshort
    rw [List.drop_eq_nil_of_le (by omega)] at hdropped
    cases hdropped

/-- A row of a kind comes through the limit if fewer than `n` others can precede it. -/
theorem exists_mem_take (hl : l.Pairwise le) (hr : r ∈ l) (hp : p r = true)
    (hn : (l.filter fun x => !p x && decide (le x r)).length < n) : ∃ x ∈ l.take n, p x = true := by
  rcases mem_take_or hl hr with htaken | ⟨hfull,hbefore⟩
  · exact ⟨r,htaken,hp⟩
  · by_contra hsome
    have hall : (l.take n).filter (fun x => !p x && decide (le x r)) = l.take n := by
      rw [List.filter_eq_self]
      intro x hx
      have hother : ¬p x = true := fun hpx => hsome ⟨x,hx,hpx⟩
      simp [hother, hbefore x hx]
    have hlength := ((List.take_sublist n l).filter fun x => !p x && decide (le x r)).length_le
    rw [hall, hfull] at hlength
    omega

end Limit
end MarketScanner.Library
