import Mathlib.Logic.Function.Iterate
import Mathlib.Tactic.Common

/-! Walks of a bounded number of steps to the first place that passes a test which can raise, and the
way back. -/
namespace MarketScanner.Library
variable {α ε : Type*}

/-- Step and test, up to a number of times: the first place that passes is returned, an error of the
test is raised, and `giveUp` is when no place has passed. -/
def walk (step : α → α) (test : α → Except ε Bool) (giveUp : ε) : ℕ → α → Except ε α
  | 0, _ => .error giveUp
  | n+1, cursor =>
    match test (step cursor) with
    | .ok true => .ok (step cursor)
    | .ok false => walk step test giveUp n (step cursor)
    | .error e => .error e

/-- The first places of the walk have all failed the test. -/
def FailsUpTo (step : α → α) (test : α → Except ε Bool) (k : ℕ) (a : α) : Prop :=
  ∀ j < k, test (step^[j+1] a) = .ok false

section Outcomes
variable {step : α → α} {test : α → Except ε Bool} {giveUp : ε} {n : ℕ} {a : α}

@[simp] theorem failsUpTo_zero : FailsUpTo step test 0 a := fun _ h => absurd h (Nat.not_lt_zero _)

theorem failsUpTo_succ {k : ℕ} : FailsUpTo step test (k+1) a ↔
    test (step a) = .ok false ∧ FailsUpTo step test k (step a) := by
  constructor
  · intro h
    exact ⟨h 0 (Nat.succ_pos k),fun j hj => h (j+1) (Nat.succ_lt_succ hj)⟩
  · rintro ⟨hfirst,hrest⟩ j hj
    cases j with
    | zero => exact hfirst
    | succ j => exact hrest j (Nat.lt_of_succ_lt_succ hj)

/-- The walk ends at its first place where the test does not fail. -/
theorem walk_of_failsUpTo {k : ℕ} (hk : k < n) (h : FailsUpTo step test k a) :
    walk step test giveUp n a = match test (step^[k+1] a) with
      | .ok true => .ok (step^[k+1] a)
      | .ok false => walk step test giveUp (n-(k+1)) (step^[k+1] a)
      | .error e => .error e := by
  induction k generalizing n a with
  | zero =>
    obtain ⟨n,rfl⟩ : ∃ m, n = m+1 := ⟨n-1,by omega⟩
    rfl
  | succ k ih =>
    obtain ⟨n,rfl⟩ : ∃ m, n = m+1 := ⟨n-1,by omega⟩
    obtain ⟨hfirst,hrest⟩ := failsUpTo_succ.mp h
    rw [walk, hfirst]
    dsimp only
    rw [ih (by omega) hrest, Nat.add_sub_add_right]
    rfl

theorem walk_of_failsUpTo_all (h : FailsUpTo step test n a) :
    walk step test giveUp n a = .error giveUp := by
  induction n generalizing a with
  | zero => rfl
  | succ n ih =>
    obtain ⟨hfirst,hrest⟩ := failsUpTo_succ.mp h
    rw [walk, hfirst]
    exact ih hrest

/-- Every walk fails throughout, or has a first place where the test does not fail. -/
theorem failsUpTo_or (step : α → α) (test : α → Except ε Bool) (n : ℕ) (a : α) :
    FailsUpTo step test n a ∨ ∃ k < n, FailsUpTo step test k a ∧ test (step^[k+1] a) ≠ .ok false := by
  induction n with
  | zero => exact Or.inl failsUpTo_zero
  | succ n ih =>
    rcases ih with hall | ⟨k,hk,hfails,hstop⟩
    · by_cases hlast : test (step^[n+1] a) = .ok false
      · refine Or.inl fun j hj => ?_
        rcases Nat.lt_succ_iff_lt_or_eq.mp hj with hlt | rfl
        · exact hall j hlt
        · exact hlast
      · exact Or.inr ⟨n,Nat.lt_succ_self n,hall,hlast⟩
    · exact Or.inr ⟨k,Nat.lt_succ_of_lt hk,hfails,hstop⟩

theorem walk_eq_ok_iff {b : α} : walk step test giveUp n a = .ok b ↔
    ∃ k < n, FailsUpTo step test k a ∧ step^[k+1] a = b ∧ test b = .ok true := by
  constructor
  · intro h
    rcases failsUpTo_or step test n a with hall | ⟨k,hk,hfails,hstop⟩
    · rw [walk_of_failsUpTo_all hall] at h
      cases h
    · rw [walk_of_failsUpTo hk hfails] at h
      split at h
      · rename_i htest
        obtain rfl := Except.ok.inj h
        exact ⟨k,hk,hfails,rfl,htest⟩
      · rename_i htest
        exact absurd htest hstop
      · cases h
  · rintro ⟨k,hk,hfails,rfl,htest⟩
    rw [walk_of_failsUpTo hk hfails, htest]

theorem walk_eq_error_iff {e : ε} : walk step test giveUp n a = .error e ↔
    (∃ k < n, FailsUpTo step test k a ∧ test (step^[k+1] a) = .error e) ∨
      (giveUp = e ∧ FailsUpTo step test n a) := by
  constructor
  · intro h
    rcases failsUpTo_or step test n a with hall | ⟨k,hk,hfails,hstop⟩
    · rw [walk_of_failsUpTo_all hall] at h
      exact Or.inr ⟨Except.error.inj h,hall⟩
    · rw [walk_of_failsUpTo hk hfails] at h
      split at h
      · cases h
      · rename_i htest
        exact absurd htest hstop
      · rename_i htest
        obtain rfl := Except.error.inj h
        exact Or.inl ⟨k,hk,hfails,htest⟩
  · rintro (⟨k,hk,hfails,htest⟩ | ⟨rfl,hall⟩)
    · rw [walk_of_failsUpTo hk hfails, htest]
    · exact walk_of_failsUpTo_all hall

/-- From where a walk ended, the walk back ends where it started, if that place passes the test. -/
theorem walk_back {back : α → α} {giveUp' : ε} (hback : ∀ x, back (step x) = x)
    (ha : test a = .ok true) {b : α} (h : walk step test giveUp n a = .ok b) :
    walk back test giveUp' n b = .ok a := by
  obtain ⟨k,hk,hfails,rfl,-⟩ := walk_eq_ok_iff.mp h
  have hundo : ∀ i j : ℕ, back^[i] (step^[i+j] a) = step^[j] a := by
    intro i j
    rw [Function.iterate_add_apply]
    exact Function.LeftInverse.iterate hback i _
  refine walk_eq_ok_iff.mpr ⟨k,hk,fun j hj => ?_,hundo (k+1) 0,ha⟩
  obtain ⟨m,rfl⟩ : ∃ m, k = j+1+m := ⟨k-(j+1),by omega⟩
  rw [Nat.add_assoc (j+1) m 1, hundo (j+1) (m+1)]
  exact hfails m (by omega)

end Outcomes

end MarketScanner.Library
