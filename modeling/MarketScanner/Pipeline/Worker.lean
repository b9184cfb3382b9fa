import MarketScanner.Library.Behaviour
import MarketScanner.Pipeline.Queue

/-! `PipelineWorker`: the loop that reads batches and handles their entries one by one, interleaved
with the producers and the other consumers of its stream. -/
namespace MarketScanner.Pipeline
open MarketScanner.Library MarketScanner.Python MarketScanner.Config

inductive EngineCall
  | isMarketOpen | featureRunSession | featureRunDaily | scannerRunAll | decisionRunAll
  deriving DecidableEq, Repr

/-- The calls of one pass, in order. -/
def passCalls (marketOpen : Bool) : List EngineCall :=
  [.isMarketOpen] ++ (if marketOpen then [.featureRunSession] else []) ++
    [.featureRunDaily,.scannerRunAll,.decisionRunAll]

/-- `_process`: whether the pass completes, given the calls that raise. -/
def process (marketOpen : Bool) (raises : EngineCall → Bool) : Bool :=
  (passCalls marketOpen).all fun call => !raises call

inductive AckReply
  | acked
  /-- `XACK` raised; Redis may have applied it. -/
  | raised (applied : Bool)

def AckReply.applied : AckReply → Bool
  | .acked => true
  | .raised applied => applied

/-- What happens while one entry is handled. -/
structure Handling where
  marketOpen : Bool
  raises : EngineCall → Bool
  ackReply : AckReply

def Handling.completes (handling : Handling) : Bool := process handling.marketOpen handling.raises

/-- The worker and its queue. `entries` are those of the current batch not handled yet, `returned`
the ids that `read` has returned since the start. -/
structure PipelineWorker where
  queue : RedisPipelineEventQueue
  entries : List (ℕ × PipelineEvent) := []
  stopping : Bool := false
  returned : List ℕ := []

namespace PipelineWorker

/-- A worker that has just been constructed over what Redis holds. -/
def startup (redis : ConsumerGroup Fields String) : PipelineWorker where
  queue := { redis }

/-- The top of the loop: the batch is done and nobody asked to stop. -/
def atTop (s : PipelineWorker) : Bool := s.entries.isEmpty && !s.stopping

/-- The call of `read` that Redis answers. -/
def readBatch [Builtins] (settings : Settings) (s : PipelineWorker) : PipelineWorker :=
  match s.queue.read settings with
  | (.ok entries,queue) =>
    { s with queue, entries, returned := s.returned ++ entries.map Prod.fst }
  | (.error _,queue) => { s with queue }

/-- One turn of the loop over the batch: process, acknowledge, record the heartbeat. Whatever raises
is logged and the entry stays unacknowledged. -/
def handleEntry (s : PipelineWorker) (handling : Handling) : Option PipelineWorker :=
  match s.entries with
  | [] => none
  | (messageId,_)::rest =>
    if handling.completes && handling.ackReply.applied then
      some { s with queue := s.queue.ack messageId, entries := rest }
    else some { s with entries := rest }

end PipelineWorker

inductive PipelineAction
  | read
  /-- `read` raised before an answer arrived; Redis may have served the command. -/
  | readRaises (served : Bool)
  | handle (handling : Handling)
  | stop
  | publish (event : PipelineEvent) (trimmed : ℕ)
  /-- Another producer adds any fields. -/
  | add (fields : Fields) (trimmed : ℕ)
  | deliverOther (consumer : String) (count : ℕ)
  | ackOther (messageId : ℕ)

/-- A read that Redis answers. -/
def PipelineAction.isRead : PipelineAction → Bool
  | .read => true
  | _ => false

/-- Neither an answered read nor the handling of an entry. -/
def PipelineAction.isOuter : PipelineAction → Bool
  | .read => false
  | .handle _ => false
  | _ => true

theorem PipelineAction.eq_read {a : PipelineAction} (h : a.isRead = true) : a = .read := by
  cases a <;> first | rfl | contradiction

open PipelineWorker in
def pipelineStep [Builtins] (settings : Settings) (s : PipelineWorker) :
    PipelineAction → Option PipelineWorker
  | .read => if s.atTop then some (s.readBatch settings) else none
  | .readRaises served =>
    if s.atTop then
      some (if served then { s with queue := { s.queue with redis := s.queue.xreadgroup settings } }
        else s)
    else none
  | .handle handling => s.handleEntry handling
  | .stop => some { s with stopping := true }
  | .publish event trimmed =>
    (s.queue.publish settings event trimmed).map fun queue => { s with queue }
  | .add fields trimmed =>
    (s.queue.xadd settings fields trimmed).map fun queue => { s with queue }
  | .deliverOther consumer count =>
    if consumer ≠ settings.pipelineConsumerName then
      some { s with queue := { s.queue with redis := s.queue.redis.deliver consumer count } }
    else none
  | .ackOther messageId =>
    if messageId ∉ s.queue.redis.pendingOf settings.pipelineConsumerName then
      some { s with queue := s.queue.ack messageId }
    else none

def pipelineMachine [Builtins] (settings : Settings) : Machine PipelineWorker PipelineAction where
  step := pipelineStep settings

section Spec
variable {settings : Settings} {s t : PipelineWorker}

/-- A step outside the worker's own reads and handling, or a read that raised: the worker is where
it was, the group's position has not gone back, and while the flag stands its own entries are
pending as before. -/
structure Quiet (settings : Settings) (s t : PipelineWorker) : Prop where
  entries : t.entries = s.entries
  returned : t.returned = s.returned
  flag : t.queue.drainingPending = s.queue.drainingPending
  position : s.queue.redis.lastDelivered ≤ t.queue.redis.lastDelivered
  pending : s.queue.drainingPending = true →
    t.queue.redis.pendingOf settings.pipelineConsumerName =
      s.queue.redis.pendingOf settings.pipelineConsumerName

theorem quiet_xadd {queue : RedisPipelineEventQueue} {fields : Fields} {trimmed : ℕ}
    (h : s.queue.xadd settings fields trimmed = some queue) :
    Quiet settings s { s with queue } := by
  obtain ⟨-,h⟩ := Option.ite_none_right_eq_some.mp h
  obtain rfl := Option.some.inj h
  exact ⟨rfl,rfl,rfl,le_refl _,fun _ => rfl⟩

variable [Builtins]

/-- Everything one step can do. -/
inductive Effect (settings : Settings) (s t : PipelineWorker) : PipelineAction → Prop
  | batch {events : List (ℕ × PipelineEvent)} (top : s.entries = [])
      (decoded : toEvents (s.queue.response settings) = .ok events)
      (queue : t.queue = (s.queue.read settings).2) (entries : t.entries = events)
      (returned : t.returned = s.returned ++ events.map Prod.fst) : Effect settings s t .read
  | refused {e : PyException} (top : s.entries = [])
      (raised : toEvents (s.queue.response settings) = .error e)
      (queue : t.queue = (s.queue.read settings).2) (entries : t.entries = [])
      (returned : t.returned = s.returned) : Effect settings s t .read
  | handled {messageId : ℕ} {event : PipelineEvent} {rest : List (ℕ × PipelineEvent)}
      {handling : Handling} (current : s.entries = (messageId,event)::rest)
      (entries : t.entries = rest) (returned : t.returned = s.returned)
      (flag : t.queue.drainingPending = s.queue.drainingPending)
      (position : t.queue.redis.lastDelivered = s.queue.redis.lastDelivered) :
      Effect settings s t (.handle handling)
  | quiet {a : PipelineAction} (outer : a.isOuter = true)
      (unchanged : Quiet settings s t) : Effect settings s t a

theorem readBatch_effect (htop : s.entries = []) :
    Effect settings s (s.readBatch settings) .read := by
  unfold PipelineWorker.readBatch
  have hresult : (s.queue.read settings).1 = toEvents (s.queue.response settings) := rfl
  cases hread : s.queue.read settings with
  | mk result queue =>
    rw [hread] at hresult
    cases result with
    | ok events => exact .batch htop hresult.symm (by rw [hread]) rfl rfl
    | error e => exact .refused htop hresult.symm (by rw [hread]) htop rfl

theorem handleEntry_effect {handling : Handling} (h : s.handleEntry handling = some t) :
    Effect settings s t (.handle handling) := by
  unfold PipelineWorker.handleEntry at h
  cases hentries : s.entries with
  | nil =>
    rw [hentries] at h
    contradiction
  | cons entry rest =>
    rw [hentries] at h
    simp only at h
    split at h
    · obtain rfl := Option.some.inj h
      exact .handled hentries rfl rfl rfl rfl
    · obtain rfl := Option.some.inj h
      exact .handled hentries rfl rfl rfl rfl

theorem pipelineStep_effect {a : PipelineAction} (h : pipelineStep settings s a = some t) :
    Effect settings s t a := by
  cases a with
  | read =>
    obtain ⟨htop,h⟩ := Option.ite_none_right_eq_some.mp h
    obtain rfl := Option.some.inj h
    apply readBatch_effect
    simp only [PipelineWorker.atTop, Bool.and_eq_true, List.isEmpty_iff] at htop
    exact htop.1
  | readRaises served =>
    obtain ⟨-,h⟩ := Option.ite_none_right_eq_some.mp h
    obtain rfl := Option.some.inj h
    refine .quiet rfl ?_
    cases served with
    | false => exact ⟨rfl,rfl,rfl,le_refl _,fun _ => rfl⟩
    | true =>
      refine ⟨rfl,rfl,rfl,ConsumerGroup.lastDelivered_le_readGroup _ _ _ _,fun hflag => ?_⟩
      simp [RedisPipelineEventQueue.xreadgroup, RedisPipelineEventQueue.startId, hflag,
        ConsumerGroup.readGroup]
  | handle handling => exact handleEntry_effect h
  | stop =>
    obtain rfl := Option.some.inj h
    exact .quiet rfl ⟨rfl,rfl,rfl,le_refl _,fun _ => rfl⟩
  | publish event trimmed =>
    obtain ⟨queue,hqueue,rfl⟩ := Option.map_eq_some_iff.mp h
    exact .quiet rfl (quiet_xadd hqueue)
  | add fields trimmed =>
    obtain ⟨queue,hqueue,rfl⟩ := Option.map_eq_some_iff.mp h
    exact .quiet rfl (quiet_xadd hqueue)
  | deliverOther consumer count =>
    obtain ⟨hother,h⟩ := Option.ite_none_right_eq_some.mp h
    obtain rfl := Option.some.inj h
    refine .quiet rfl ⟨rfl,rfl,rfl,ConsumerGroup.lastDelivered_le_advance _ _,fun _ => ?_⟩
    exact ConsumerGroup.pendingOf_deliver_other _ hother count
  | ackOther messageId =>
    obtain ⟨hother,h⟩ := Option.ite_none_right_eq_some.mp h
    obtain rfl := Option.some.inj h
    refine .quiet rfl ⟨rfl,rfl,rfl,le_refl _,fun _ => ?_⟩
    exact ConsumerGroup.pendingOf_ack_other _ hother

theorem step_read (h : s.atTop = true) :
    (pipelineMachine settings).step s .read = some (s.readBatch settings) :=
  if_pos h

/-- An entry whose processing fails is only dropped from the batch. -/
theorem step_handle_fails {entry : ℕ × PipelineEvent} {rest : List (ℕ × PipelineEvent)}
    {handling : Handling} (hentries : s.entries = entry::rest)
    (hfails : handling.completes = false) :
    (pipelineMachine settings).step s (.handle handling) = some { s with entries := rest } := by
  change s.handleEntry handling = some { s with entries := rest }
  simp [PipelineWorker.handleEntry, hentries, hfails]

/-- A live read with nothing to deliver leaves the worker as it is. -/
theorem readBatch_idle (hentries : s.entries = []) (hflag : s.queue.drainingPending = false)
    (hnone : s.queue.redis.newEntries RedisPipelineEventQueue.readCount = []) :
    s.readBatch settings = s := by
  obtain ⟨⟨redis,draining⟩,entries,stopping,returned⟩ := s
  obtain rfl : entries = [] := hentries
  obtain rfl : draining = false := hflag
  have hdeliver := redis.deliver_of_none hnone settings.pipelineConsumerName
  simp only [PipelineWorker.readBatch, RedisPipelineEventQueue.read,
    RedisPipelineEventQueue.response, RedisPipelineEventQueue.xreadgroup,
    RedisPipelineEventQueue.startId, ConsumerGroup.batch, ConsumerGroup.readGroup, hnone, hdeliver,
    Bool.false_eq_true, if_false, List.map_nil, toEvents, List.append_nil]

/-- An answered read clears the flag, whatever the answer was. -/
theorem cleared_of_read {a : PipelineAction} (hread : a.isRead = true)
    (hstep : pipelineStep settings s a = some t) : t.queue.drainingPending = false := by
  obtain rfl := PipelineAction.eq_read hread
  cases pipelineStep_effect hstep with
  | batch top decoded queue entries returned => rw [queue]; rfl
  | refused top raised queue entries returned => rw [queue]; rfl
  | quiet outer unchanged => contradiction

/-- The flag, once cleared, stays cleared, and the position past which entries are new only grows. -/
theorem cleared_step {position : ℕ} {a : PipelineAction}
    (h : s.queue.drainingPending = false ∧ position ≤ s.queue.redis.lastDelivered)
    (hstep : pipelineStep settings s a = some t) :
    t.queue.drainingPending = false ∧ position ≤ t.queue.redis.lastDelivered := by
  obtain ⟨hflag,hposition⟩ := h
  have hread : s.queue.redis.lastDelivered ≤ (s.queue.read settings).2.redis.lastDelivered :=
    ConsumerGroup.lastDelivered_le_readGroup _ _ _ _
  cases pipelineStep_effect hstep with
  | batch top decoded queue entries returned =>
    rw [queue]
    exact ⟨rfl,hposition.trans hread⟩
  | refused top raised queue entries returned =>
    rw [queue]
    exact ⟨rfl,hposition.trans hread⟩
  | handled current entries returned flag position =>
    rw [flag, position]
    exact ⟨hflag,hposition⟩
  | quiet outer unchanged =>
    rw [unchanged.flag]
    exact ⟨hflag,hposition.trans unchanged.position⟩

end Spec
end MarketScanner.Pipeline
