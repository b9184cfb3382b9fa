import Mathlib.Tactic.Common
import Mathlib.Data.List.Basic
import Mathlib.Data.Nat.Notation

/-! A pool of database connections and a lock that belongs to the connection that took it. A
connection may take the lock several times and must then release it as often; a session that works
over the pool holds a connection from its first statement to the end of its transaction. -/
namespace MarketScanner.Library

/-- The connections that hold the lock, each as often as it took it; whether a connection outside the
pool holds it; and the connections that other sessions have checked out. -/
structure ConnectionPool where
  held : List ℕ
  outside : Bool
  busy : ℕ → Bool

/-- The connection that a session has checked out, and whether its transaction is aborted. -/
structure PoolSession where
  connection : Option ℕ := none
  aborted : Bool := false

namespace ConnectionPool
variable (p : ConnectionPool) {c d : ℕ}

/-- `pg_try_advisory_lock` on a connection succeeds unless another connection holds the lock. -/
def grants (c : ℕ) : Bool := !p.outside && p.held.all fun d => d == c

def lock (c : ℕ) : ConnectionPool := { p with held := c::p.held }

/-- `pg_advisory_unlock` on a connection: nothing happens where that connection does not hold it. -/
def unlock (c : ℕ) : ConnectionPool := { p with held := p.held.erase c }

def setBusy (c : ℕ) (b : Bool) : ConnectionPool :=
  { p with busy := fun d => if d = c then b else p.busy d }

/-- No connection of the pool holds the lock. -/
def Free : Prop := p.held = []

variable {p}

@[simp] theorem held_setBusy (b : Bool) : (p.setBusy c b).held = p.held := rfl

/-- Releasing a lock taken once frees it just when the connection is the one that took it. -/
theorem free_unlock_iff (h : p.held = [c]) : (p.unlock d).Free ↔ d = c := by
  unfold unlock Free
  rw [h]
  by_cases hd : d = c
  · simp [hd]
  · simp [hd, beq_eq_false_iff_ne.mpr (Ne.symm hd)]

end ConnectionPool
end MarketScanner.Library
