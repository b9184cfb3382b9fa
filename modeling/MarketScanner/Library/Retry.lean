import Mathlib.Data.List.Basic
import Mathlib.Data.Nat.Basic
import Mathlib.Tactic.Common

/-! A bounded loop of attempts. The reply to an attempt settles the call or is an error to try again
after; once the attempts are used up the last error is what is left to report. -/
namespace MarketScanner.Library

/-- `limit` is the number of attempts; with none of them left the call ends with what `exhausted` makes
of the last error. -/
structure Retry (ρ ε β : Type*) where
  judge : ρ → Except ε β
  exhausted : Option ε → β
  limit : ℕ

namespace Retry
variable {ρ ε β : Type*} (r : Retry ρ ε β)

/-- The loop over the replies it gets, from the attempt after `attempts` others; `none` while the next
reply is still to come. -/
def answer (attempts : ℕ) (last : Option ε) : List ρ → Option β
  | [] => if attempts < r.limit then none else some (r.exhausted last)
  | x::xs =>
    if attempts < r.limit then
      match r.judge x with
      | .ok b => some b
      | .error e => answer (attempts+1) (some e) xs
    else some (r.exhausted last)

/-- None of the replies settles the call. -/
def Failed (xs : List ρ) : Prop := ∀ x ∈ xs, ∃ e, r.judge x = .error e

def lastError (xs : List ρ) : Option ε :=
  xs.getLast?.bind fun x =>
    match r.judge x with
    | .ok _ => none
    | .error e => some e

/-- How a call ends: with its first reply that settles it, or with as many errors as there are attempts. -/
inductive Answered : List ρ → β → Prop
  | settled {xs : List ρ} {x : ρ} {b : β} (failed : r.Failed xs) (left : xs.length < r.limit)
      (settles : r.judge x = .ok b) : Answered (xs ++ [x]) b
  | exhausted {xs : List ρ} (failed : r.Failed xs) (used : xs.length = r.limit) :
      Answered xs (r.exhausted (r.lastError xs))

variable {r} {xs ys : List ρ} {x : ρ} {e : ε} {b : β}

theorem failed_nil : r.Failed [] := fun _ h => by cases h

theorem Failed.concat (h : r.Failed xs) (hx : r.judge x = .error e) : r.Failed (xs ++ [x]) := by
  intro y hy
  rcases List.mem_append.mp hy with hold | hnew
  · exact h y hold
  · obtain rfl := List.mem_singleton.mp hnew
    exact ⟨e,hx⟩

theorem lastError_concat (xs : List ρ) (hx : r.judge x = .error e) : r.lastError (xs ++ [x]) = some e := by
  simp [lastError, hx]

theorem Answered.length_le (h : r.Answered xs b) : xs.length ≤ r.limit := by
  cases h with
  | settled failed left settles =>
    rw [List.length_append]
    exact left
  | exhausted failed used => exact le_of_eq used

/-- Errors are passed over, each of them at the price of an attempt. -/
theorem answer_failed {attempts : ℕ} {last : Option ε} (h : r.Failed xs)
    (hlimit : attempts+xs.length ≤ r.limit) :
    r.answer attempts last (xs ++ ys) = r.answer (attempts+xs.length) ((r.lastError xs).or last) ys := by
  induction xs generalizing attempts last with
  | nil => rfl
  | cons x xs ih =>
    obtain ⟨e,he⟩ := h x List.mem_cons_self
    rw [List.length_cons] at hlimit
    rw [List.cons_append, answer, if_pos (by omega), he]
    dsimp only
    rw [ih (fun y hy => h y (List.mem_cons_of_mem x hy)) (by omega), List.length_cons,
      show attempts+1+xs.length = attempts+(xs.length+1) by omega]
    congr 1
    cases hlast : xs.getLast? with
    | none =>
      obtain rfl := List.getLast?_eq_none_iff.mp hlast
      simp [lastError, he]
    | some y =>
      obtain ⟨e',he'⟩ := h y (List.mem_cons_of_mem x (List.mem_of_getLast? hlast))
      simp [lastError, List.getLast?_cons, hlast, he']

/-- A call that has ended so is one whose loop returns just that. -/
theorem Answered.answer_eq (h : r.Answered xs b) : r.answer 0 none xs = some b := by
  cases h with
  | @settled xs x b failed left settles =>
    rw [answer_failed failed (by omega), answer, if_pos (by omega), settles]
  | @exhausted xs failed used =>
    rw [← List.append_nil xs, answer_failed failed (by omega), answer, if_neg (by omega),
      List.append_nil, Option.or_none]

end Retry
end MarketScanner.Library
