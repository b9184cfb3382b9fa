import MarketScanner.Library.Query
import MarketScanner.Pipeline.Worker

/-! What a restarted worker reads first: the entries that its predecessor left unacknowledged, and
when all of them come before the first live read. -/
namespace MarketScanner.Pipeline
open MarketScanner.Library MarketScanner.Python MarketScanner.Config

section Drain
variable [Builtins] (settings : Settings)

/-- Wherever the next read would ask for `">"`, every entry pending at the start was returned. -/
def DrainsFirst (redis : ConsumerGroup Fields String) (as : List PipelineAction) : Prop :=
  (pipelineMachine settings).Throughout
    (fun t => t.queue.startId = .undelivered →
      ∀ id ∈ redis.pendingOf settings.pipelineConsumerName, id ∈ t.returned)
    (PipelineWorker.startup redis) as

/-- The draining read meets a backlog that fits one response and decodes throughout. -/
def BacklogFits (s : PipelineWorker) (a : PipelineAction) (_ : PipelineWorker) : Prop :=
  s.queue.startId = .ownPending → a.isRead = true →
    (s.queue.backlog settings).length ≤ RedisPipelineEventQueue.readCount ∧
      ∀ e ∈ s.queue.backlog settings, WellFormed e

variable {settings} {redis : ConsumerGroup Fields String} {s t : PipelineWorker}

omit [Builtins] in
/-- The two reads ask for different ids. -/
theorem startId_eq_ownPending {queue : RedisPipelineEventQueue} :
    queue.startId = .ownPending ↔ queue.drainingPending = true := by
  unfold RedisPipelineEventQueue.startId
  cases queue.drainingPending <;> simp

omit [Builtins] in
theorem startId_eq_undelivered {queue : RedisPipelineEventQueue} :
    queue.startId = .undelivered ↔ queue.drainingPending = false := by
  unfold RedisPipelineEventQueue.startId
  cases queue.drainingPending <;> simp

omit [Builtins] in
theorem response_draining (settings : Settings) {queue : RedisPipelineEventQueue}
    (h : queue.drainingPending = true) :
    queue.response settings =
      (queue.backlog settings).take RedisPipelineEventQueue.readCount := by
  unfold RedisPipelineEventQueue.response RedisPipelineEventQueue.backlog
  rw [startId_eq_ownPending.mpr h, ← List.map_take]
  rfl

omit [Builtins] in
theorem backlog_ids (settings : Settings) (queue : RedisPipelineEventQueue) :
    (queue.backlog settings).map Prod.fst =
      queue.redis.pendingOf settings.pipelineConsumerName := by
  simp [RedisPipelineEventQueue.backlog, Function.comp_def]

/-- Until the draining read is answered nothing has been returned and the backlog is untouched. -/
def Waiting (settings : Settings) (redis : ConsumerGroup Fields String) (s : PipelineWorker) :
    Prop :=
  s.queue.drainingPending = true →
    s.entries = [] ∧ s.returned = [] ∧
      s.queue.redis.pendingOf settings.pipelineConsumerName =
        redis.pendingOf settings.pipelineConsumerName

theorem waiting_step {a : PipelineAction} (h : Waiting settings redis s)
    (hstep : pipelineStep settings s a = some t) : Waiting settings redis t := by
  intro hflag
  cases pipelineStep_effect hstep with
  | batch top decoded queue entries returned =>
    rw [queue] at hflag
    contradiction
  | refused top raised queue entries returned =>
    rw [queue] at hflag
    contradiction
  | handled current entries returned flag position =>
    rw [flag] at hflag
    rw [(h hflag).1] at current
    contradiction
  | quiet outer unchanged =>
    rw [unchanged.flag] at hflag
    obtain ⟨hentries,hreturned,hpending⟩ := h hflag
    exact ⟨unchanged.entries.trans hentries,unchanged.returned.trans hreturned,
      (unchanged.pending hflag).trans hpending⟩

/-- The draining read returns the whole backlog exactly when that fits. -/
theorem drained_iff {a : PipelineAction} (h : Waiting settings redis s)
    (hflag : s.queue.drainingPending = true) (hread : a.isRead = true)
    (hstep : pipelineStep settings s a = some t) :
    (∀ id ∈ redis.pendingOf settings.pipelineConsumerName, id ∈ t.returned) ↔
      (s.queue.backlog settings).length ≤ RedisPipelineEventQueue.readCount ∧
        ∀ e ∈ s.queue.backlog settings, WellFormed e := by
  obtain ⟨-,hempty,hpending⟩ := h hflag
  have hids := backlog_ids settings s.queue
  have hresponse := response_draining settings hflag
  have hnodup := redis.pendingOf_nodup settings.pipelineConsumerName
  rw [hpending] at hids
  obtain rfl := PipelineAction.eq_read hread
  cases pipelineStep_effect hstep with
  | batch top decoded queue entries returned =>
    obtain ⟨hevents,hwell⟩ := of_toEvents_eq_ok decoded
    have hreturned : t.returned =
        (redis.pendingOf settings.pipelineConsumerName).take
          RedisPipelineEventQueue.readCount := by
      rw [returned, hempty, List.nil_append, hevents, hresponse, List.map_take, hids]
    have hlength : (s.queue.backlog settings).length =
        (redis.pendingOf settings.pipelineConsumerName).length := by
      rw [← hids, List.length_map]
    rw [hreturned, forall_mem_take_iff hnodup, hlength]
    constructor
    · intro hfits
      rw [hresponse, List.take_of_length_le (by rw [hlength]; exact hfits)] at hwell
      exact ⟨hfits,hwell⟩
    · rintro ⟨hfits,-⟩
      exact hfits
  | refused top raised queue entries returned =>
    constructor
    · intro hall
      have hnone : redis.pendingOf settings.pipelineConsumerName = [] := by
        refine List.eq_nil_iff_forall_not_mem.mpr fun id hid => ?_
        have hmem := hall id hid
        rw [returned, hempty] at hmem
        exact List.not_mem_nil hmem
      rw [hnone] at hids
      rw [hresponse, List.map_eq_nil_iff.mp hids] at raised
      contradiction
    · rintro ⟨-,hwell⟩
      have hall : ∀ e ∈ s.queue.response settings, WellFormed e := by
        intro e he
        rw [hresponse] at he
        exact hwell e (List.mem_of_mem_take he)
      obtain ⟨events,hevents⟩ := toEvents_eq_ok hall
      rw [hevents] at raised
      contradiction
  | quiet outer unchanged => contradiction

/-- What `read` has returned stays returned. -/
theorem returned_subset {a : PipelineAction} (hstep : pipelineStep settings s a = some t) :
    s.returned ⊆ t.returned := by
  cases pipelineStep_effect hstep with
  | batch top decoded queue entries returned =>
    rw [returned]
    exact List.subset_append_left _ _
  | refused top raised queue entries returned => rw [returned]; exact List.Subset.refl _
  | handled current entries returned flag position => rw [returned]; exact List.Subset.refl _
  | quiet outer unchanged => rw [unchanged.returned]; exact List.Subset.refl _

/-- Once the flag is cleared, the backlog has been returned. -/
def Drained (settings : Settings) (redis : ConsumerGroup Fields String) (s : PipelineWorker) :
    Prop :=
  s.queue.drainingPending = false →
    ∀ id ∈ redis.pendingOf settings.pipelineConsumerName, id ∈ s.returned

theorem drained_step {a : PipelineAction}
    (h : Waiting settings redis s ∧ Drained settings redis s) (hfits : BacklogFits settings s a t)
    (hstep : pipelineStep settings s a = some t) :
    Waiting settings redis t ∧ Drained settings redis t := by
  refine ⟨waiting_step h.1 hstep,fun hcleared => ?_⟩
  cases hflag : s.queue.drainingPending with
  | false => exact fun id hid => returned_subset hstep (h.2 hflag id hid)
  | true =>
    cases hread : a.isRead with
    | true =>
      exact (drained_iff h.1 hflag hread hstep).mpr (hfits (startId_eq_ownPending.mpr hflag) hread)
    | false =>
      have hkept : t.queue.drainingPending = s.queue.drainingPending := by
        cases pipelineStep_effect hstep with
        | batch top decoded queue entries returned => contradiction
        | refused top raised queue entries returned => contradiction
        | handled current entries returned flag position => exact flag
        | quiet outer unchanged => exact unchanged.flag
      rw [hkept, hflag] at hcleared
      contradiction

/-- Over any run from any backlog: every entry of the backlog is returned before a live read exactly
when the draining read finds at most ten of them, all well-formed. -/
theorem drainsFirst_iff (settings : Settings) (redis : ConsumerGroup Fields String)
    (as : List PipelineAction) :
    DrainsFirst settings redis as ↔
      (pipelineMachine settings).Steps (BacklogFits settings) (PipelineWorker.startup redis) as := by
  have hwaiting : Waiting settings redis (PipelineWorker.startup redis) :=
    fun _ => ⟨rfl,rfl,rfl⟩
  constructor
  · intro h pre a post t u has hrun hstep hown hread
    have hflag : t.queue.drainingPending = true := startId_eq_ownPending.mp hown
    have hwait : Waiting settings redis t :=
      Machine.Run.stable (I := Waiting settings redis)
        (fun _ _ _ hw hstep => waiting_step hw hstep) hrun hwaiting
    have hcleared : u.queue.drainingPending = false := cleared_of_read hread hstep
    have hlast : (pipelineMachine settings).Run (PipelineWorker.startup redis) (pre ++ [a]) u :=
      hrun.append (Machine.Run.single hstep)
    have hsplit : as = (pre ++ [a]) ++ post := by simp [has]
    have hall := h hsplit hlast (startId_eq_undelivered.mpr hcleared)
    exact (drained_iff hwait hflag hread hstep).mp hall
  · intro hfits pre post t has hrun hlive
    have hstart : Drained settings redis (PipelineWorker.startup redis) := fun h => by contradiction
    have hboth := Machine.Steps.throughout
      (I := fun s => Waiting settings redis s ∧ Drained settings redis s)
      (fun _ _ _ hi hg hstep => drained_step hi hg hstep) hfits ⟨hwaiting,hstart⟩ has hrun
    exact hboth.2 (startId_eq_undelivered.mp hlive)

end Drain

/-- An ingestion event as `publish` writes it. -/
def sampleFields : Fields :=
  [("source","intraday"),("symbol_count","50"),("as_of","2026-01-06T04:30:00+00:00")]

/-- The builtins on the texts of `sampleFields`. -/
abbrev pipelineBuiltins : Builtins :=
  { Builtins.tabulated [] [] [] with
    intOfStr := fun text => if text = "50" then some 50 else none
    datetimeFromIso := fun text =>
      if text = "2026-01-06T04:30:00+00:00" then
        some (DateTime.ofUtc (Date.ofCivil 2026 1 6) 270)
      else none }

/-- `n` events were published and delivered to the worker that then crashed. -/
def crashedRedis (n : ℕ) : ConsumerGroup Fields String :=
  ((List.range n).foldl (fun g _ => g.add sampleFields) ConsumerGroup.empty).deliver
    "pipeline_worker_1" n

/-- With eleven entries pending, the eleventh is not returned before live reads begin. -/
theorem crashed_with_eleven_not_drained :
    ¬ @DrainsFirst pipelineBuiltins {} (crashedRedis 11) [.read] := by
  intro h
  obtain ⟨t,hrun,ht⟩ := Machine.exists_run_of_exec (@pipelineMachine pipelineBuiltins {})
    (PipelineWorker.startup (crashedRedis 11)) [.read]
    (fun t => t.queue.startId == .undelivered && !t.returned.contains 11) (by decide +kernel)
  obtain ⟨hlive,hmissing⟩ := Bool.and_eq_true_iff.mp ht
  have hpending : 11 ∈ (crashedRedis 11).pendingOf "pipeline_worker_1" := by decide +kernel
  have hmem := h (List.append_nil _).symm hrun (eq_of_beq hlive) 11 hpending
  simp [hmem] at hmissing

end MarketScanner.Pipeline
