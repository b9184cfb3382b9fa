import Mathlib.Data.List.Induction
import MarketScanner.Library.Series

/-! Runs of true entries in a column of flags, and the blocks into which a column falls when every
false entry opens a new one. -/
namespace MarketScanner.Library

/-- How many true entries a column ends in. -/
def streak (flags : List Bool) : ℕ := (flags.reverse.takeWhile id).length

@[simp] theorem streak_nil : streak [] = 0 := rfl

@[simp] theorem streak_concat (flags : List Bool) (b : Bool) :
    streak (flags ++ [b]) = if b then streak flags+1 else 0 := by
  cases b <;> simp [streak]

/-- A column that ends in as many true entries as it has starts with a true one. -/
theorem streak_lt_length {flags : List Bool} (h : flags.head? = some false) :
    streak flags < flags.length := by
  induction flags using List.reverseRecOn with
  | nil => cases h
  | append_singleton flags b ih =>
    rw [streak_concat, List.length_append, List.length_singleton]
    cases flags with
    | nil =>
      obtain rfl : b = false := by simpa using h
      exact Nat.one_pos
    | cons first flags =>
      have hrest := ih (by simpa using h)
      split <;> omega

/-- The true entries up to each position. -/
def runningCount : List Bool → List ℕ :=
  accumulate (fun total b => let total := if b then total+1 else total; (total,total)) 0

/-- The entries before each position that are equal to its own. -/
def occurrences (keys : List ℕ) : List ℕ :=
  accumulate (fun seen key => (key::seen,seen.count key)) [] keys

@[simp] theorem length_runningCount (flags : List Bool) :
    (runningCount flags).length = flags.length := length_accumulate _ _ _

theorem foldl_count (flags : List Bool) (n : ℕ) :
    flags.foldl (fun total b => if b then total+1 else total) n = n+flags.count true := by
  induction flags generalizing n with
  | nil => rfl
  | cons b flags ih =>
    rw [List.foldl_cons, ih, List.count_cons]
    cases b
    · rfl
    · exact Nat.add_right_comm n 1 _

theorem runningCount_concat (flags : List Bool) (b : Bool) :
    runningCount (flags ++ [b]) = runningCount flags ++ [(flags ++ [b]).count true] := by
  rw [runningCount, accumulate_concat]
  dsimp only
  rw [foldl_count, List.count_append]
  congr 2
  cases b <;> simp

theorem le_of_mem_runningCount {flags : List Bool} {k : ℕ} (h : k ∈ runningCount flags) :
    k ≤ flags.count true := by
  induction flags using List.reverseRecOn with
  | nil => cases h
  | append_singleton flags b ih =>
    rw [runningCount_concat, List.mem_append, List.mem_singleton] at h
    rcases h with hmem | rfl
    · exact Nat.le_trans (ih hmem) ((List.sublist_append_left flags [b]).count_le true)
    · exact Nat.le_refl _

theorem getElem?_occurrences (keys : List ℕ) (i : ℕ) :
    (occurrences keys)[i]? = keys[i]?.map fun key => (keys.take i).count key := by
  have hseen : ∀ (xs seen : List ℕ), xs.foldl (fun seen key => key::seen) seen = xs.reverse ++ seen := by
    intro xs
    induction xs with
    | nil => exact fun _ => rfl
    | cons x xs ih =>
      intro seen
      rw [List.foldl_cons, ih, List.reverse_cons, List.append_assoc, List.singleton_append]
  rw [occurrences, getElem?_accumulate]
  dsimp only
  rw [hseen, List.append_nil]
  simp only [List.count_reverse]

/-- The blocks that a column falls into, numbered: each false entry opens the next. -/
def blocks (flags : List Bool) : List ℕ := runningCount (flags.map not)

theorem count_true_map_not (flags : List Bool) : (flags.map not).count true = flags.count false := by
  induction flags with
  | nil => rfl
  | cons b flags ih => cases b <;> simp [ih]

theorem blocks_concat (flags : List Bool) (b : Bool) :
    blocks (flags ++ [b]) = blocks flags ++ [(flags ++ [b]).count false] := by
  have hmap : (flags ++ [b]).map not = flags.map not ++ [!b] := by simp
  rw [blocks, hmap, runningCount_concat, ← hmap, count_true_map_not, blocks]

/-- The block a column ends in is the streak and the entry that opened it, where there is one. -/
theorem count_last_block (flags : List Bool) :
    (blocks flags).count (flags.count false) = min (streak flags+1) flags.length := by
  induction flags using List.reverseRecOn with
  | nil => rfl
  | append_singleton flags b ih =>
    rw [blocks_concat, List.count_append, List.count_singleton_self, streak_concat,
      List.length_append, List.length_singleton, List.count_append]
    cases b with
    | true =>
      have hsame : flags.count false+[true].count false = flags.count false := rfl
      rw [hsame, ih, if_pos rfl]
      omega
    | false =>
      have hnew : (blocks flags).count (flags.count false+1) = 0 := by
        apply List.count_eq_zero.mpr
        intro hmem
        have hle := le_of_mem_runningCount hmem
        rw [count_true_map_not] at hle
        omega
      rw [List.count_singleton_self, hnew, if_neg Bool.false_ne_true]
      omega

theorem blocks_take (flags : List Bool) (n : ℕ) : (blocks flags).take n = blocks (flags.take n) := by
  rw [blocks, blocks, List.map_take]
  exact (causal_accumulate _ _ n _).symm

/-- The position of an entry in its block: a streak that an opening entry precedes is counted with
that entry. -/
theorem getElem?_occurrences_blocks (flags : List Bool) (i : ℕ) :
    (occurrences (blocks flags))[i]? =
      flags[i]?.map fun b => if b then min (streak (flags.take i)+1) i else 0 := by
  rw [getElem?_occurrences, blocks_take]
  cases hb : flags[i]? with
  | none =>
    have hlen : flags.length ≤ i := List.getElem?_eq_none_iff.mp hb
    rw [List.getElem?_eq_none (by simpa [blocks] using hlen), Option.map_none, Option.map_none]
  | some b =>
    have hi : i < flags.length := (List.getElem?_eq_some_iff.mp hb).choose
    have htake : flags.take (i+1) = flags.take i ++ [b] := by
      rw [List.take_add_one, hb, Option.toList_some]
    have hkey : (blocks flags)[i]? = some ((flags.take i ++ [b]).count false) := by
      have hsame : (blocks flags)[i]? = ((blocks flags).take (i+1))[i]? := by
        rw [List.getElem?_take_of_lt (Nat.lt_succ_self i)]
      have hlength : (blocks (flags.take i)).length = i := by
        rw [blocks, length_runningCount, List.length_map, List.length_take]
        omega
      rw [hsame, blocks_take, htake, blocks_concat, List.getElem?_append_right (by omega),
        hlength, Nat.sub_self]
      rfl
    rw [hkey, Option.map_some, Option.map_some]
    congr 1
    cases b with
    | true =>
      rw [List.count_append, List.count_singleton, if_neg (by decide), Nat.add_zero,
        count_last_block, if_pos rfl, List.length_take, Nat.min_eq_left (Nat.le_of_lt hi)]
    | false =>
      apply List.count_eq_zero.mpr
      intro hmem
      have hle := le_of_mem_runningCount hmem
      rw [count_true_map_not] at hle
      rw [List.count_append, List.count_singleton_self] at hle
      omega

end MarketScanner.Library
