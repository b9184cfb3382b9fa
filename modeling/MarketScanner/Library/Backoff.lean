import Mathlib.Algebra.Order.Field.Rat
import Mathlib.Algebra.Order.Ring.Rat
import Mathlib.Data.List.Induction
import Mathlib.Logic.Function.Iterate
import Mathlib.Tactic.Linarith
import Mathlib.Tactic.Positivity
import Mathlib.Tactic.Ring

/-! A retry loop that waits after every turn: some turns reset the delay to its base, and every wait
stretches the next one. -/
namespace MarketScanner.Library.Backoff
variable {α δ : Type*} (resets : α → Bool) (stretch : δ → δ) (base : δ)

/-- The waits after the turns, the first of them being `next` unless its turn resets. -/
def delays (next : δ) : List α → List δ
  | [] => []
  | a::as =>
    let delay := if resets a then base else next
    delay::delays (stretch delay) as

/-- The delay that the loop goes on with. -/
def nextDelay (next : δ) : List α → δ
  | [] => next
  | a::as => nextDelay (stretch (if resets a then base else next)) as

/-- How often the delay was stretched before the latest turn, the turns being given latest first: once for
each turn since the last that reset it, or since the first of all. -/
def stretches : List α → ℕ
  | [] => 0
  | [_] => 0
  | a::b::earlier => if resets a then 0 else stretches (b::earlier)+1

variable {resets stretch base} {next : δ} {as bs : List α} {a : α}

theorem delays_append : delays resets stretch base next (as ++ bs) =
    delays resets stretch base next as ++
      delays resets stretch base (nextDelay resets stretch base next as) bs := by
  induction as generalizing next with
  | nil => rfl
  | cons a as ih =>
    rw [List.cons_append, delays, delays, ih]
    rfl

@[simp] theorem length_delays : (delays resets stretch base next as).length = as.length := by
  induction as generalizing next with
  | nil => rfl
  | cons a as ih => rw [delays, List.length_cons, ih, List.length_cons]

theorem nextDelay_append : nextDelay resets stretch base next (as ++ bs) =
    nextDelay resets stretch base (nextDelay resets stretch base next as) bs := by
  induction as generalizing next with
  | nil => rfl
  | cons a as ih => exact ih

/-- After its latest turn the loop has waited the base, stretched so many times. -/
theorem wait_eq (as : List α) (a : α) :
    (if resets a then base else nextDelay resets stretch base base as) =
      stretch^[stretches resets (a::as.reverse)] base := by
  induction as using List.reverseRecOn generalizing a with
  | nil =>
    have hfirst : (if resets a then base else base) = base := ite_self base
    exact hfirst
  | append_singleton as b ih =>
    rw [List.reverse_append, List.reverse_singleton, List.singleton_append, stretches, nextDelay_append]
    split
    · rfl
    · rw [Function.iterate_succ_apply', ← ih]
      rfl

/-- The wait after a turn of a run. -/
theorem getElem?_delays (as : List α) (a : α) (bs : List α) :
    (delays resets stretch base base (as ++ a::bs))[as.length]? =
      some (stretch^[stretches resets (a::as.reverse)] base) := by
  rw [delays_append, List.getElem?_append_right (by rw [length_delays]), length_delays, Nat.sub_self,
    delays, List.getElem?_cons_zero, wait_eq]

/-- Where no turn resets, every one but the first stretches the delay of the next. -/
theorem stretches_of_none (h : ∀ b ∈ a::as, resets b = false) : stretches resets (a::as) = as.length := by
  induction as generalizing a with
  | nil => rfl
  | cons b as ih =>
    obtain ⟨ha,has⟩ := List.forall_mem_cons.mp h
    rw [stretches, ha, if_neg Bool.false_ne_true, ih has, List.length_cons]

/-! ### Doubling up to a cap -/

/-- Twice the delay, but no more than `max`. -/
def double (max delay : ℚ) : ℚ := min (delay*2) max

variable {base max : ℚ}

theorem iterate_double (hbase : 0 < base) (hmax : base ≤ max) (k : ℕ) :
    (double max)^[k] base = min (base*2^k) max := by
  induction k with
  | zero => rw [Function.iterate_zero_apply, pow_zero, mul_one, min_eq_left hmax]
  | succ k ih =>
    have hstep : base*2^k*2 = base*2^(k+1) := by ring
    rw [Function.iterate_succ_apply', ih, double, ← hstep]
    rcases le_total (base*2^k) max with hle | hle
    · rw [min_eq_left hle]
    · have hcap : max ≤ base*2^k*2 := by
        have hpos : 0 < base*2^k := by positivity
        linarith
      rw [min_eq_right hle, min_eq_right hcap, min_eq_right (by linarith)]

/-- Two numbers of doublings give one delay just when they are one number, or both have reached the cap. -/
theorem iterate_double_eq_iff (hbase : 0 < base) (hmax : base ≤ max) (k n : ℕ) :
    (double max)^[k] base = min (base*2^n) max ↔ k = n ∨ max ≤ base*2^k ∧ max ≤ base*2^n := by
  rw [iterate_double hbase hmax]
  constructor
  · intro heq
    by_cases hk : max ≤ base*2^k
    · rw [min_eq_right hk] at heq
      exact .inr ⟨hk,min_eq_right_iff.mp heq.symm⟩
    · rw [not_le] at hk
      rw [min_eq_left hk.le] at heq
      have hn : base*2^n ≤ max := by
        by_contra hn
        rw [min_eq_right (not_le.mp hn).le] at heq
        exact hk.ne heq
      rw [min_eq_left hn] at heq
      have hpow : (2 : ℚ)^k = 2^n := mul_left_cancel₀ hbase.ne' heq
      exact .inl (pow_right_injective₀ (by norm_num) (by norm_num) hpow)
  · rintro (rfl | ⟨hk,hn⟩)
    · rfl
    · rw [min_eq_right hk, min_eq_right hn]

end MarketScanner.Library.Backoff
