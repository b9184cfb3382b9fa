import MarketScanner.Library.Transition

/-! Infinite behaviours of a machine: what holds from some moment on, and when it is lost. -/
namespace MarketScanner.Library

structure Behaviour {σ α : Type*} (M : Machine σ α) where
  state : ℕ → σ
  action : ℕ → α
  step : ∀ n, M.step (state n) (action n) = some (state (n+1))

namespace Behaviour
variable {σ α : Type*} {M : Machine σ α}

/-- What every step preserves holds from any moment it holds at. -/
theorem invariant (b : Behaviour M) {I : σ → Prop}
    (hpres : ∀ s a t, I s → M.step s a = some t → I t) {m n : ℕ} (hmn : m ≤ n)
    (h : I (b.state m)) : I (b.state n) := by
  induction hmn with
  | refl => exact h
  | step _ ih => exact hpres _ _ _ ih (b.step _)

/-- What holds at one moment and no longer at a later one is lost by a step in between. -/
theorem lost (b : Behaviour M) {I : σ → Prop} {m n : ℕ} (hmn : m ≤ n) (h : I (b.state m))
    (hn : ¬ I (b.state n)) : ∃ k, m ≤ k ∧ k < n ∧ I (b.state k) ∧ ¬ I (b.state (k+1)) := by
  induction hmn with
  | refl => exact absurd h hn
  | @step n hmn ih =>
    by_cases hI : I (b.state n)
    · exact ⟨n,hmn,Nat.lt_succ_self n,hI,hn⟩
    · obtain ⟨k,hmk,hkn,hk,hlost⟩ := ih hI
      exact ⟨k,hmk,Nat.lt_succ_of_lt hkn,hk,hlost⟩

/-- A step that changes nothing, forever. -/
def idle (s : σ) (a : α) (h : M.step s a = some s) : Behaviour M where
  state _ := s
  action _ := a
  step _ := h

/-- One step in front of a behaviour. -/
def cons (s : σ) (a : α) (b : Behaviour M) (h : M.step s a = some (b.state 0)) : Behaviour M where
  state
    | 0 => s
    | n+1 => b.state n
  action
    | 0 => a
    | n+1 => b.action n
  step
    | 0 => h
    | n+1 => b.step n

end Behaviour
end MarketScanner.Library
