import MarketScanner.Library.ConnectionPool
import MarketScanner.Library.Transition
import MarketScanner.Fundamentals.Budget

/-! The lock that keeps two runs of the fundamental queue apart. It belongs to the connection that took
it, while the run is written against a session, which gives its connection back at every commit. -/
namespace MarketScanner.Fundamentals
open MarketScanner.Library MarketScanner.Python MarketScanner.Scanner FundamentalQueueService

/-- Where `run_queue` is: taking the lock, in the body of its `try`, in the `finally`, or left. -/
inductive LockPhase
  | acquiring
  | working (rest : List QueueOp)
  | releasing
  | closed
  deriving DecidableEq

/-- The pool, the run's session, where the run is, and the connection on which it took the lock. -/
structure LockState where
  pool : ConnectionPool
  session : PoolSession
  phase : LockPhase
  taken : Option ℕ

/-- Other sessions check connections out and back in; the run's session checks out a free one for
its next statement; the run's next operation succeeds or raises, in the database or elsewhere. -/
inductive LockEvent
  | others (connection : ℕ) (busy : Bool)
  | checkout (connection : ℕ)
  | proceed
  | raised (database : Bool)

/-- Leaving the session rolls back and gives the connection back. -/
def leave (s : LockState) : LockState :=
  { s with
    session := {}
    phase := .closed }

def proceed (ops : List QueueOp) (s : LockState) : Option LockState :=
  match s.phase, s.session.connection with
  | .acquiring, some c =>
    if s.pool.grants c then
      some { s with
        pool := s.pool.lock c
        phase := .working ops
        taken := some c }
    else some (leave s)
  | .working [], _ => some { s with phase := .releasing }
  | .working (.statement::rest), some _ => some { s with phase := .working rest }
  | .working (.fetch _ _::rest), _ => some { s with phase := .working rest }
  | .working (.commit::rest), _ =>
    some { s with
      session := {}
      phase := .working rest }
  | .releasing, some c =>
    -- in an aborted transaction the unlock raises
    if s.session.aborted then none else some (leave { s with pool := s.pool.unlock c })
  | _, _ => none

def raised (database : Bool) (s : LockState) : Option LockState :=
  match s.phase with
  | .acquiring => some (leave s)
  | .working _ =>
    some { s with
      session := { s.session with
        aborted := s.session.aborted || database && s.session.connection.isSome }
      phase := .releasing }
  | .releasing => some (leave s)
  | .closed => none

/-- A run that, once it has the lock, does `ops` unless it raises. -/
def lockMachine (ops : List QueueOp) : Machine LockState LockEvent where
  step s
    | .others c busy =>
      if s.session.connection = some c then none else some { s with pool := s.pool.setBusy c busy }
    | .checkout c =>
      if s.session.connection = none ∧ s.pool.busy c = false ∧ s.phase ≠ .closed then
        some { s with session := { connection := some c } }
      else none
    | .proceed => proceed ops s
    | .raised database => raised database s

/-- What a run does once it has the lock. -/
def queueOps [Builtins] (service : FundamentalQueueService) (env : QueueEnv)
    (tables : QueueTables) : List QueueOp :=
  match runQueue service env tables with
  | .ok run => run.ops
  | .error _ => [.statement]

/-- Before a run: no pooled connection holds the lock. -/
def lockStart (outside : Bool) (busy : ℕ → Bool) : LockState :=
  ⟨⟨[],outside,busy⟩,{},.acquiring,none⟩

/-- Once the run is left, no pooled connection holds the lock. -/
def Released (s : LockState) : Prop :=
  match s.phase with
  | .closed => s.pool.Free
  | _ => True

/-- In the `finally` the unlock is executed, on the connection that took the lock. -/
def UnlocksWhereTaken (s : LockState) (e : LockEvent) (_ : LockState) : Prop :=
  match s.phase, e with
  | .releasing, .proceed => s.session.connection = s.taken
  | .releasing, .raised _ => False
  | _, _ => True

/-- Between the lock and the `finally` the lock is held once, by the connection that took it. -/
def HeldOnce (s : LockState) : Prop :=
  match s.phase with
  | .acquiring => s.pool.Free
  | .working _ => ∃ c, s.taken = some c ∧ s.pool.held = [c]
  | .releasing => ∃ c, s.taken = some c ∧ s.pool.held = [c]
  | .closed => True

section Steps
variable {ops : List QueueOp} {s t : LockState} {e : LockEvent}

/-- A step of the pool's other users or of the pool itself leaves the lock and the run where they
are. -/
theorem pool_step (h : (lockMachine ops).step s e = some t)
    (he : (∃ c b, e = .others c b) ∨ ∃ c, e = .checkout c) :
    t.pool.held = s.pool.held ∧ t.phase = s.phase ∧ t.taken = s.taken := by
  rcases he with ⟨c,b,rfl⟩ | ⟨c,rfl⟩
  · unfold lockMachine at h
    dsimp only at h
    split at h
    · cases h
    · obtain rfl := Option.some.inj h
      exact ⟨rfl,rfl,rfl⟩
  · unfold lockMachine at h
    dsimp only at h
    split at h
    · obtain rfl := Option.some.inj h
      exact ⟨rfl,rfl,rfl⟩
    · cases h

/-- What the run's next operation can do. -/
inductive Proceeds (ops : List QueueOp) (s : LockState) : LockState → Prop
  | locked {c : ℕ} (phase : s.phase = .acquiring) (connection : s.session.connection = some c) :
      Proceeds ops s { s with
        pool := s.pool.lock c
        phase := .working ops
        taken := some c }
  | refused (phase : s.phase = .acquiring) : Proceeds ops s (leave s)
  | ended (phase : s.phase = .working []) : Proceeds ops s { s with phase := .releasing }
  | worked {op : QueueOp} {rest : List QueueOp} (phase : s.phase = .working (op::rest)) :
      Proceeds ops s { s with phase := .working rest }
  | committed {rest : List QueueOp} (phase : s.phase = .working (.commit::rest)) :
      Proceeds ops s { s with
        session := {}
        phase := .working rest }
  | unlocked {c : ℕ} (phase : s.phase = .releasing) (connection : s.session.connection = some c) :
      Proceeds ops s (leave { s with pool := s.pool.unlock c })

theorem proceed_cases (h : proceed ops s = some t) : Proceeds ops s t := by
  unfold proceed at h
  split at h
  · rename_i c hphase hconn
    split at h
    · obtain rfl := Option.some.inj h
      exact Proceeds.locked hphase hconn
    · obtain rfl := Option.some.inj h
      exact Proceeds.refused hphase
  · rename_i hphase
    obtain rfl := Option.some.inj h
    exact Proceeds.ended hphase
  · rename_i hphase hconn
    obtain rfl := Option.some.inj h
    exact Proceeds.worked hphase
  · rename_i hphase
    obtain rfl := Option.some.inj h
    exact Proceeds.worked hphase
  · rename_i hphase
    obtain rfl := Option.some.inj h
    exact Proceeds.committed hphase
  · rename_i c hphase hconn
    split at h
    · cases h
    · obtain rfl := Option.some.inj h
      exact Proceeds.unlocked hphase hconn
  · cases h

/-- What the run's next operation preserves, and when it leaves the lock free. -/
theorem proceed_spec (hs : HeldOnce s) (h : proceed ops s = some t) :
    HeldOnce t ∧ (Released t ↔ UnlocksWhereTaken s .proceed t) := by
  unfold HeldOnce at hs
  unfold UnlocksWhereTaken
  cases proceed_cases h with
  | locked hphase hconn =>
    rw [hphase] at hs ⊢
    exact ⟨⟨_,rfl,congrArg (List.cons _) hs⟩,Iff.rfl⟩
  | refused hphase =>
    rw [hphase] at hs ⊢
    exact ⟨trivial,iff_true_intro hs⟩
  | ended hphase =>
    rw [hphase] at hs ⊢
    exact ⟨hs,Iff.rfl⟩
  | worked hphase =>
    rw [hphase] at hs ⊢
    exact ⟨hs,Iff.rfl⟩
  | committed hphase =>
    rw [hphase] at hs ⊢
    exact ⟨hs,Iff.rfl⟩
  | unlocked hphase hconn =>
    rw [hphase] at hs ⊢
    obtain ⟨c,htaken,hheld⟩ := hs
    rw [hconn, htaken]
    exact ⟨trivial,(ConnectionPool.free_unlock_iff hheld).trans Option.some_inj.symm⟩

theorem raised_spec (hs : HeldOnce s) {database : Bool} (h : raised database s = some t) :
    HeldOnce t ∧ (Released t ↔ UnlocksWhereTaken s (.raised database) t) := by
  unfold raised at h
  unfold HeldOnce at hs
  unfold UnlocksWhereTaken
  split at h
  · rename_i hphase
    rw [hphase] at hs ⊢
    obtain rfl := Option.some.inj h
    exact ⟨trivial,iff_true_intro hs⟩
  · rename_i hphase
    rw [hphase] at hs ⊢
    obtain rfl := Option.some.inj h
    exact ⟨hs,Iff.rfl⟩
  · rename_i hphase
    rw [hphase] at hs ⊢
    obtain ⟨c,-,hheld⟩ := hs
    obtain rfl := Option.some.inj h
    refine ⟨trivial,iff_false_intro fun hfree => ?_⟩
    have hfree : s.pool.held = [] := hfree
    rw [hheld] at hfree
    cases hfree
  · cases h

/-- What a step preserves; from a state in which nothing is left locked it leaves nothing locked just
when it is no failed unlock. -/
theorem lock_step (hs : HeldOnce s) (h : (lockMachine ops).step s e = some t) :
    HeldOnce t ∧ (Released s → (Released t ↔ UnlocksWhereTaken s e t)) := by
  have hpool : (∃ c b, e = .others c b) ∨ (∃ c, e = .checkout c) → HeldOnce t ∧
      (Released s → Released t) := by
    intro he
    obtain ⟨hheld,hphase,htaken⟩ := pool_step h he
    constructor
    · unfold HeldOnce ConnectionPool.Free at hs ⊢
      rwa [hheld, hphase, htaken]
    · intro hreleased
      unfold Released ConnectionPool.Free at hreleased ⊢
      rwa [hheld, hphase]
  cases e with
  | others c b =>
    obtain ⟨hheld,hreleased⟩ := hpool (Or.inl ⟨c,b,rfl⟩)
    refine ⟨hheld,fun hs => ⟨fun _ => ?_,fun _ => hreleased hs⟩⟩
    unfold UnlocksWhereTaken
    split <;> trivial
  | checkout c =>
    obtain ⟨hheld,hreleased⟩ := hpool (Or.inr ⟨c,rfl⟩)
    refine ⟨hheld,fun hs => ⟨fun _ => ?_,fun _ => hreleased hs⟩⟩
    unfold UnlocksWhereTaken
    split <;> trivial
  | proceed =>
    obtain ⟨hheld,hreleased⟩ := proceed_spec hs h
    exact ⟨hheld,fun _ => hreleased⟩
  | raised database =>
    obtain ⟨hheld,hreleased⟩ := raised_spec hs h
    exact ⟨hheld,fun _ => hreleased⟩

end Steps

/-- The lock of a run that does `ops` is free on every path out just when on every path the unlock is
executed on the connection that took it. -/
theorem released_iff_steps (ops : List QueueOp) (outside : Bool) (busy : ℕ → Bool)
    (es : List LockEvent) :
    (lockMachine ops).Throughout Released (lockStart outside busy) es ↔
      (lockMachine ops).Steps UnlocksWhereTaken (lockStart outside busy) es := by
  have hstart : HeldOnce (lockStart outside busy) := rfl
  have hboth : (lockMachine ops).Throughout (fun s => HeldOnce s ∧ Released s)
      (lockStart outside busy) es ↔
        (lockMachine ops).Steps UnlocksWhereTaken (lockStart outside busy) es := by
    refine Machine.throughout_iff_steps ?_ ⟨hstart,trivial⟩
    intro s e t hs h
    obtain ⟨hheld,hreleased⟩ := lock_step hs.1 h
    exact (and_iff_right hheld).trans (hreleased hs.2)
  rw [← hboth]
  constructor
  · intro h pre post t hes hrun
    exact ⟨hrun.stable (fun s e t hs hstep => (lock_step hs hstep).1) hstart,h hes hrun⟩
  · intro h pre post t hes hrun
    exact (h hes hrun).2

section Queue
variable [Builtins]

/-- On every path out of a run, whatever the pool does meanwhile, no pooled connection still holds the
lock, just when the unlock is executed on the connection that took it. -/
theorem runQueue_released_iff (service : FundamentalQueueService) (env : QueueEnv)
    (tables : QueueTables) (outside : Bool) (busy : ℕ → Bool) (es : List LockEvent) :
    (lockMachine (queueOps service env tables)).Throughout Released (lockStart outside busy) es ↔
      (lockMachine (queueOps service env tables)).Steps UnlocksWhereTaken
        (lockStart outside busy) es :=
  released_iff_steps _ outside busy es

end Queue

/-! ### Runs that commit nothing -/

/-- The run still has the connection on which it took the lock, and has no commit before it. -/
def KeepsConnection (s : LockState) : Prop :=
  match s.phase with
  | .acquiring => True
  | .working rest => QueueOp.commit ∉ rest ∧ s.session.connection = s.taken ∧ s.taken.isSome = true
  | .releasing => s.session.connection = s.taken ∧ s.taken.isSome = true
  | .closed => True

theorem keepsConnection_proceed {ops : List QueueOp} (hops : QueueOp.commit ∉ ops)
    {s t : LockState} (hs : KeepsConnection s) (h : proceed ops s = some t) :
    KeepsConnection t := by
  unfold KeepsConnection at hs
  cases proceed_cases h with
  | locked hphase hconn => exact ⟨hops,hconn,rfl⟩
  | refused hphase => trivial
  | ended hphase =>
    rw [hphase] at hs
    exact hs.2
  | worked hphase =>
    rw [hphase] at hs
    exact ⟨fun hmem => hs.1 (List.mem_cons_of_mem _ hmem),hs.2⟩
  | committed hphase =>
    rw [hphase] at hs
    exact absurd List.mem_cons_self hs.1
  | unlocked hphase hconn => trivial

theorem keepsConnection_step {ops : List QueueOp} (hops : QueueOp.commit ∉ ops)
    {s t : LockState} {e : LockEvent} (hs : KeepsConnection s) (he : ∀ database, e ≠ .raised database)
    (h : (lockMachine ops).step s e = some t) : KeepsConnection t := by
  cases e with
  | others c b =>
    unfold lockMachine at h
    dsimp only at h
    split at h
    · cases h
    · obtain rfl := Option.some.inj h
      exact hs
  | checkout c =>
    unfold lockMachine at h
    dsimp only at h
    split at h
    · rename_i hfree
      obtain rfl := Option.some.inj h
      unfold KeepsConnection at hs ⊢
      dsimp only
      split
      · trivial
      · rename_i hphase
        rw [hphase, hfree.1] at hs
        rw [← hs.2.1] at hs
        cases hs.2.2
      · rename_i hphase
        rw [hphase, hfree.1] at hs
        rw [← hs.1] at hs
        cases hs.2
      · trivial
    · cases h
  | proceed => exact keepsConnection_proceed hops hs h
  | raised database => exact absurd rfl (he database)

/-- A run that commits nothing, as during a pause or with the day's budget exhausted, frees the lock
unless it raises. -/
theorem released_of_no_commit {ops : List QueueOp} (hops : QueueOp.commit ∉ ops) (outside : Bool)
    (busy : ℕ → Bool) {es : List LockEvent} (hes : ∀ e ∈ es, ∀ database, e ≠ .raised database) :
    (lockMachine ops).Throughout Released (lockStart outside busy) es := by
  rw [released_iff_steps]
  have hG : (lockMachine ops).Steps (fun _ e _ => ∀ database, e ≠ .raised database)
      (lockStart outside busy) es := by
    rintro pre e post t u rfl - -
    exact hes e (by simp)
  refine hG.imp (I := KeepsConnection)
    (fun s e t hs he h => keepsConnection_step hops hs he h) ?_ trivial
  intro s e t hs he h
  unfold UnlocksWhereTaken
  split
  · rename_i hphase
    unfold KeepsConnection at hs
    rw [hphase] at hs
    exact hs.1
  · exact absurd rfl (he _)
  · trivial

/-! ### A lock left behind -/

/-- One batch is committed; another session then checks out the connection that holds the lock, and
the unlock runs on another one. -/
def lockLeftBehind : List LockEvent :=
  [.checkout 0,.proceed,.proceed,.proceed,.proceed,.proceed,.others 0 true,.proceed,.checkout 1,
    .proceed]

theorem lockLeftBehind_not_released :
    ¬ (lockMachine (@queueOps (Builtins.tabulated [] [] []) sampleService morningEnv
        sampleQueue.tables)).Throughout Released (lockStart false fun _ => false)
      lockLeftBehind := by
  let _ := Builtins.tabulated [] [] []
  intro h
  obtain ⟨s,hrun,hs⟩ := Machine.exists_run_of_exec
    (lockMachine (queueOps sampleService morningEnv sampleQueue.tables))
    (lockStart false fun _ => false) lockLeftBehind
    (fun s => decide (s.phase = .closed) && decide (s.pool.held ≠ [])) (by decide +kernel)
  obtain ⟨hphase,hheld⟩ := Bool.and_eq_true_iff.mp hs
  have hreleased := h (List.append_nil lockLeftBehind).symm hrun
  unfold Released at hreleased
  rw [of_decide_eq_true hphase] at hreleased
  exact of_decide_eq_true hheld hreleased

end MarketScanner.Fundamentals
