import MarketScanner.Pipeline.Backlog

/-! One worker that keeps running: which delivered entries it processes, and whether an entry left
unacknowledged comes back to it. -/
namespace MarketScanner.Pipeline
open MarketScanner.Library MarketScanner.Python MarketScanner.Config

/-- The entry `id` is handed to `_process`. -/
def Handles (s : PipelineWorker) (a : PipelineAction) (id : ℕ) : Prop :=
  (∃ handling, a = .handle handling) ∧ s.entries.head?.map Prod.fst = some id

/-- The entry `id` is handed to `_process`, which raises. -/
def Fails (s : PipelineWorker) (a : PipelineAction) (id : ℕ) : Prop :=
  (∃ handling, a = .handle handling ∧ handling.completes = false) ∧
    s.entries.head?.map Prod.fst = some id

section Running
variable [Builtins]

/-- A worker from its start on that is never stopped: Redis answers it again and again. -/
structure RunningWorker (settings : Settings) extends Behaviour (pipelineMachine settings) where
  redis : ConsumerGroup Fields String
  start : state 0 = PipelineWorker.startup redis
  reading : ∀ n, ∃ m, n ≤ m ∧ (action m).isRead = true

/-- `read` returns the entry `id` next. -/
def Returns (settings : Settings) (s : PipelineWorker) (id : ℕ) : Prop :=
  ∃ events, (s.queue.read settings).1 = .ok events ∧ id ∈ events.map Prod.fst

variable {settings : Settings}

/-- A malformed or failing entry keeps no other well-formed entry of its batch from being
processed. -/
def Isolated (b : RunningWorker settings) : Prop :=
  ∀ n, (b.action n).isRead = true →
    ∀ bad ∈ (b.state n).queue.response settings, ∀ good ∈ (b.state n).queue.response settings,
      good ≠ bad → (¬ WellFormed bad ∨ ∃ k, n < k ∧ Fails (b.state k) (b.action k) bad.1) →
      WellFormed good → ∃ m, n < m ∧ Handles (b.state m) (b.action m) good.1

/-- An entry whose processing failed is returned again by a later read. -/
def Retried (b : RunningWorker settings) : Prop :=
  ∀ n id, Fails (b.state n) (b.action n) id →
    ∃ m, n < m ∧ (b.action m).isRead = true ∧ Returns settings (b.state m) id

/-- No answer of Redis holds both a malformed and a well-formed entry. -/
def NeverMixed (b : RunningWorker settings) : Prop :=
  ∀ n, (b.action n).isRead = true →
    ∀ bad ∈ (b.state n).queue.response settings, ∀ good ∈ (b.state n).queue.response settings,
      WellFormed good → WellFormed bad

/-- Every pass over an event completes. -/
def NeverFails (b : RunningWorker settings) : Prop :=
  ∀ n handling, b.action n = .handle handling → handling.completes = true

variable {s t : PipelineWorker}

/-- The entries of the batch in hand have been delivered, and there are none before the first
answer. -/
def Taken (s : PipelineWorker) : Prop :=
  (s.queue.drainingPending = true → s.entries = []) ∧
    ∀ e ∈ s.entries, e.1 ≤ s.queue.redis.lastDelivered

/-- The ids of a decoded answer are at most the group's position after it. -/
theorem le_of_toEvents {events : List (ℕ × PipelineEvent)}
    (h : toEvents (s.queue.response settings) = .ok events) {e : ℕ × PipelineEvent}
    (he : e ∈ events) : e.1 ≤ (s.queue.read settings).2.redis.lastDelivered := by
  obtain ⟨entry,hentry,hid⟩ := exists_entry_of_toEvents h (List.mem_map_of_mem he)
  rw [← hid]
  exact ConsumerGroup.batch_le_readGroup _ hentry

theorem taken_step {a : PipelineAction} (h : Taken s) (hstep : pipelineStep settings s a = some t) :
    Taken t := by
  cases pipelineStep_effect hstep with
  | batch top decoded queue entries returned =>
    rw [Taken, queue, entries]
    exact ⟨fun hflag => by contradiction,fun e he => le_of_toEvents decoded he⟩
  | refused top raised queue entries returned =>
    rw [Taken, entries]
    exact ⟨fun _ => rfl,by simp⟩
  | handled current entries returned flag position =>
    rw [Taken, entries, flag, position]
    refine ⟨fun hflag => ?_,fun e he => ?_⟩
    · rw [h.1 hflag] at current
      contradiction
    · apply h.2 e
      rw [current]
      exact List.mem_cons_of_mem _ he
  | quiet outer unchanged =>
    rw [Taken, unchanged.entries, unchanged.flag]
    exact ⟨h.1,fun e he => (h.2 e he).trans unchanged.position⟩

/-- Live reads have begun, the group is at `position` or past it, and the batch in hand holds only
entries beyond it. -/
def Beyond (position : ℕ) (s : PipelineWorker) : Prop :=
  (s.queue.drainingPending = false ∧ position ≤ s.queue.redis.lastDelivered) ∧
    ∀ e ∈ s.entries, position < e.1

theorem beyond_step {position : ℕ} {a : PipelineAction} (h : Beyond position s)
    (hstep : pipelineStep settings s a = some t) : Beyond position t := by
  refine ⟨cleared_step h.1 hstep,?_⟩
  cases pipelineStep_effect hstep with
  | batch top decoded queue entries returned =>
    intro e he
    rw [entries] at he
    obtain ⟨entry,hentry,hid⟩ := exists_entry_of_toEvents decoded (List.mem_map_of_mem he)
    rw [← hid]
    exact h.1.2.trans_lt (lastDelivered_lt_response h.1.1 hentry)
  | refused top raised queue entries returned =>
    rw [entries]
    simp
  | handled current entries returned flag position =>
    intro e he
    apply h.2 e
    rw [current]
    exact List.mem_cons_of_mem _ (entries ▸ he)
  | quiet outer unchanged =>
    rw [unchanged.entries]
    exact h.2

theorem taken_state (b : RunningWorker settings) (n : ℕ) : Taken (b.state n) := by
  have hstart : Taken (b.state 0) := by
    rw [b.start]
    exact ⟨fun _ => rfl,by simp [PipelineWorker.startup]⟩
  exact Behaviour.invariant b.toBehaviour (I := Taken) (fun _ _ _ h hstep => taken_step h hstep)
    (Nat.zero_le n) hstart

/-- An answered read happens at the top of the loop. -/
theorem entries_of_isRead {a : PipelineAction} (hread : a.isRead = true)
    (hstep : pipelineStep settings s a = some t) : s.entries = [] := by
  obtain rfl := PipelineAction.eq_read hread
  cases pipelineStep_effect hstep with
  | batch top decoded queue entries returned => exact top
  | refused top raised queue entries returned => exact top
  | quiet outer unchanged => contradiction

/-- A step after which an entry of the batch is gone handles that entry. -/
theorem handles_of_gone {a : PipelineAction} {id : ℕ} (hstep : pipelineStep settings s a = some t)
    (hin : id ∈ s.entries.map Prod.fst) (hgone : id ∉ t.entries.map Prod.fst) :
    Handles s a id := by
  cases pipelineStep_effect hstep with
  | batch top decoded queue entries returned =>
    rw [top] at hin
    contradiction
  | refused top raised queue entries returned =>
    rw [top] at hin
    contradiction
  | @handled messageId event rest handling current entries returned flag position =>
    refine ⟨⟨handling,rfl⟩,?_⟩
    rw [current] at hin ⊢
    rw [entries] at hgone
    rcases List.mem_cons.mp hin with hid | hid
    · exact congrArg some hid.symm
    · exact absurd hid hgone
  | quiet outer unchanged =>
    rw [unchanged.entries] at hgone
    exact absurd hin hgone

/-- Every entry of a batch in hand is processed: the next read waits for the end of the batch. -/
theorem handled_of_mem (b : RunningWorker settings) {n id : ℕ}
    (h : id ∈ (b.state n).entries.map Prod.fst) :
    ∃ m, n ≤ m ∧ Handles (b.state m) (b.action m) id := by
  obtain ⟨m,hnm,hread⟩ := b.reading n
  have hend : ¬ id ∈ (b.state m).entries.map Prod.fst := by
    rw [entries_of_isRead hread (b.step m)]
    exact List.not_mem_nil
  obtain ⟨k,hnk,-,hin,hgone⟩ := Behaviour.lost b.toBehaviour
    (I := fun s => id ∈ s.entries.map Prod.fst) hnm h hend
  exact ⟨k,hnk,handles_of_gone (b.step k) hin hgone⟩

/-- An answer without malformed entries is the next batch. -/
theorem batch_of_wellFormed {a : PipelineAction} (hread : a.isRead = true)
    (hstep : pipelineStep settings s a = some t)
    (hwell : ∀ e ∈ s.queue.response settings, WellFormed e) :
    t.entries.map Prod.fst = (s.queue.response settings).map Prod.fst := by
  obtain rfl := PipelineAction.eq_read hread
  cases pipelineStep_effect hstep with
  | batch top decoded queue entries returned =>
    rw [entries]
    exact (of_toEvents_eq_ok decoded).1
  | refused top raised queue entries returned =>
    obtain ⟨events,hevents⟩ := toEvents_eq_ok hwell
    rw [hevents] at raised
    contradiction
  | quiet outer unchanged => contradiction

/-- A malformed entry in the answer: the whole batch is dropped, and the group is past it. -/
theorem beyond_of_malformed {a : PipelineAction} (hread : a.isRead = true)
    (hstep : pipelineStep settings s a = some t) {bad good : Delivered}
    (hbad : bad ∈ s.queue.response settings) (hmal : ¬ WellFormed bad)
    (hgood : good ∈ s.queue.response settings) : Beyond good.1 t := by
  obtain rfl := PipelineAction.eq_read hread
  cases pipelineStep_effect hstep with
  | batch top decoded queue entries returned =>
    exact absurd ((of_toEvents_eq_ok decoded).2 bad hbad) hmal
  | refused top raised queue entries returned =>
    rw [Beyond, queue, entries]
    exact ⟨⟨rfl,ConsumerGroup.batch_le_readGroup _ hgood⟩,by simp⟩
  | quiet outer unchanged => contradiction

/-- Past its position, the worker never processes an entry again. -/
theorem not_handles_of_beyond (b : RunningWorker settings) {n m id : ℕ} (hnm : n ≤ m)
    (h : Beyond id (b.state n)) : ¬ Handles (b.state m) (b.action m) id := by
  rintro ⟨-,hhead⟩
  have hm : Beyond id (b.state m) := Behaviour.invariant b.toBehaviour (I := Beyond id)
    (fun _ _ _ h hstep => beyond_step h hstep) hnm h
  obtain ⟨e,he,rfl⟩ := Option.map_eq_some_iff.mp hhead
  exact lt_irrefl _ (hm.2 e (List.mem_of_mem_head? he))

/-- Nor does a read return it. -/
theorem not_returns_of_cleared (b : RunningWorker settings) {n m id : ℕ} (hnm : n ≤ m)
    (h : (b.state n).queue.drainingPending = false ∧ id ≤ (b.state n).queue.redis.lastDelivered) :
    ¬ Returns settings (b.state m) id := by
  rintro ⟨events,hread,hmem⟩
  have hm := Behaviour.invariant b.toBehaviour
    (I := fun s => s.queue.drainingPending = false ∧ id ≤ s.queue.redis.lastDelivered)
    (fun _ _ _ h hstep => cleared_step h hstep) hnm h
  obtain ⟨entry,hentry,rfl⟩ := exists_entry_of_toEvents hread hmem
  exact lt_irrefl _ (hm.2.trans_lt (lastDelivered_lt_response hm.1 hentry))

theorem isolated_iff (b : RunningWorker settings) : Isolated b ↔ NeverMixed b := by
  constructor
  · intro h n hread bad hbad good hgood hwell
    by_contra hmal
    have hne : good ≠ bad := by
      rintro rfl
      exact hmal hwell
    obtain ⟨m,hnm,hhandles⟩ := h n hread bad hbad good hgood hne (.inl hmal) hwell
    have hbeyond := beyond_of_malformed hread (b.step n) hbad hmal hgood
    exact not_handles_of_beyond b hnm hbeyond hhandles
  · intro h n hread bad hbad good hgood _ _ hwell
    have hall : ∀ e ∈ (b.state n).queue.response settings, WellFormed e := fun e he =>
      h n hread e he good hgood hwell
    have hmem : good.1 ∈ (b.state (n+1)).entries.map Prod.fst := by
      rw [batch_of_wellFormed hread (b.step n) hall]
      exact List.mem_map_of_mem hgood
    exact handled_of_mem b hmem

theorem retried_iff (b : RunningWorker settings) : Retried b ↔ NeverFails b := by
  constructor
  · intro h n handling haction
    by_contra hfails
    have hstep := b.step n
    rw [haction] at hstep
    cases hentries : (b.state n).entries with
    | nil =>
      have hnone : (b.state n).handleEntry handling = none := by
        simp [PipelineWorker.handleEntry, hentries]
      rw [show (pipelineMachine settings).step (b.state n) (.handle handling) = none from hnone]
        at hstep
      contradiction
    | cons entry rest =>
      have hhead : (b.state n).entries.head?.map Prod.fst = some entry.1 := by rw [hentries]; rfl
      have hfail : Fails (b.state n) (b.action n) entry.1 :=
        ⟨⟨handling,haction,Bool.eq_false_iff.mpr hfails⟩,hhead⟩
      obtain ⟨m,hnm,-,hreturns⟩ := h n entry.1 hfail
      obtain ⟨hflag,hle⟩ := taken_state b n
      have hmem : entry ∈ (b.state n).entries := by rw [hentries]; exact List.mem_cons_self
      have hcleared : (b.state n).queue.drainingPending = false := by
        by_contra hdraining
        rw [hflag (Bool.eq_true_of_not_eq_false hdraining)] at hmem
        contradiction
      exact not_returns_of_cleared b hnm.le ⟨hcleared,hle entry hmem⟩ hreturns
  · rintro h n id ⟨⟨handling,haction,hfails⟩,-⟩
    rw [h n handling haction] at hfails
    contradiction

/-- Isolation and retry together hold of a running worker exactly when no answer mixes malformed and
well-formed entries and no processing fails. -/
theorem isolated_and_retried_iff (settings : Settings) (b : RunningWorker settings) :
    (Isolated b ∧ Retried b) ↔ (NeverMixed b ∧ NeverFails b) := by
  rw [isolated_iff, retried_iff]

end Running

/-- Of 599 events two were left unacknowledged, then one more arrived and Redis trimmed the first
hundred: entry 100 is pending without fields, 101 is pending, 600 is new. -/
def trimmedRedis : ConsumerGroup Fields String where
  entries := (List.range 500).map fun i => ⟨101+i,sampleFields⟩
  lastId := 600
  lastDelivered := 599
  pending := [⟨100,"pipeline_worker_1"⟩,⟨101,"pipeline_worker_1"⟩]
  ordered := List.pairwise_map.mpr (List.pairwise_lt_range.imp fun h => Nat.add_lt_add_left h 101)
  below := by
    intro e he
    obtain ⟨i,hi,rfl⟩ := List.mem_map.mp he
    have hlt : i < 500 := List.mem_range.mp hi
    change 101+i ≤ 600
    omega
  delivered := by decide
  pendingOrdered := by decide
  pendingBelow := by decide

/-- The pass over an event fails in its last engine. -/
def failingPass : Handling := ⟨true,fun call => call == .decisionRunAll,.acked⟩

namespace LossyRun

/-- The worker before, between and after its first two reads and the one entry it handles. -/
def started : PipelineWorker := PipelineWorker.startup trimmedRedis
def drained : PipelineWorker := @PipelineWorker.readBatch pipelineBuiltins {} started
def live : PipelineWorker := @PipelineWorker.readBatch pipelineBuiltins {} drained
def idle : PipelineWorker := { live with entries := [] }

theorem started_eq : started = PipelineWorker.startup trimmedRedis := rfl

theorem step_started : (@pipelineMachine pipelineBuiltins {}).step started .read = some drained :=
  @step_read _ _ pipelineBuiltins (by decide +kernel)

theorem step_drained : (@pipelineMachine pipelineBuiltins {}).step drained .read = some live :=
  @step_read _ _ pipelineBuiltins (by decide +kernel)

theorem live_entries : live.entries.map Prod.fst = [600] := by decide +kernel

theorem step_live :
    (@pipelineMachine pipelineBuiltins {}).step live (.handle failingPass) = some idle := by
  obtain ⟨entry,hentries,-⟩ := List.map_eq_singleton_iff.mp live_entries
  exact @step_handle_fails _ _ pipelineBuiltins _ _ _ hentries (by decide)

theorem step_idle : (@pipelineMachine pipelineBuiltins {}).step idle .read = some idle := by
  have htop : idle.atTop = true := by decide +kernel
  have hflag : idle.queue.drainingPending = false := by decide +kernel
  have hnone : idle.queue.redis.newEntries RedisPipelineEventQueue.readCount = [] := by
    decide +kernel
  rw [@step_read _ _ pipelineBuiltins htop, @readBatch_idle _ _ pipelineBuiltins rfl hflag hnone]

attribute [irreducible] started drained live idle

/-- The draining read, one live read, one entry that fails, then nothing new. -/
def behaviour : Behaviour (@pipelineMachine pipelineBuiltins {}) :=
  .cons started .read (.cons drained .read (.cons live (.handle failingPass)
    (.idle idle .read step_idle) step_live) step_drained) step_started

end LossyRun

def lossyRun : @RunningWorker pipelineBuiltins {} :=
  @RunningWorker.mk pipelineBuiltins {} LossyRun.behaviour trimmedRedis LossyRun.started_eq
    fun n => ⟨n+3,by omega,rfl⟩

/-- The trimmed entry keeps 101 from being processed, and 600 is not returned after its failure. -/
theorem lossyRun_loses :
    ¬ @Isolated pipelineBuiltins {} lossyRun ∧ ¬ @Retried pipelineBuiltins {} lossyRun := by
  constructor
  · intro h
    obtain ⟨m,hm,⟨handling,haction⟩,hhead⟩ := h 0 rfl (100,none) (by decide +kernel)
      (101,some sampleFields) (by decide +kernel) (by decide) (.inl (by decide +kernel))
      (by decide +kernel)
    rcases m with _ | _ | _ | k
    · exact absurd hm (lt_irrefl 0)
    · have hread : PipelineAction.read = .handle handling := haction
      contradiction
    · have hother : ¬ LossyRun.live.entries.head?.map Prod.fst = some 101 := by decide +kernel
      exact hother hhead
    · have hread : PipelineAction.read = .handle handling := haction
      contradiction
  · intro h
    have hhead : LossyRun.live.entries.head?.map Prod.fst = some 600 := by decide +kernel
    obtain ⟨m,hm,-,events,hevents,hmem⟩ := h 2 600 ⟨⟨failingPass,rfl,by decide⟩,hhead⟩
    rcases m with _ | _ | _ | k
    · contradiction
    · contradiction
    · exact absurd hm (lt_irrefl 2)
    · have hids : (@RedisPipelineEventQueue.read pipelineBuiltins {} LossyRun.idle.queue).1.toOption.map
          (List.map Prod.fst) = some [] := by decide +kernel
      have hread : (@RedisPipelineEventQueue.read pipelineBuiltins {} LossyRun.idle.queue).1 =
        .ok events := hevents
      rw [hread] at hids
      rw [Option.some.inj hids] at hmem
      contradiction

end MarketScanner.Pipeline
