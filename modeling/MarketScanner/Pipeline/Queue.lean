import MarketScanner.Library.ConsumerGroup
import MarketScanner.Config.Settings

/-! `RedisPipelineEventQueue`: pipeline events over one stream and its consumer group. -/
namespace MarketScanner.Pipeline
open MarketScanner.Library MarketScanner.Python MarketScanner.Config

structure PipelineEvent where
  source : String
  symbolCount : ℤ
  asOf : DateTime
  deriving DecidableEq, Repr

/-- The string dictionary of a stream entry. -/
abbrev Fields := List (String × String)

/-- `fields[key]`. -/
def Fields.item (fields : Fields) (key : String) : Except PyException String :=
  match fields.lookup key with
  | some text => .ok text
  | none => .error (.keyError key)

def toEvent [Builtins] (fields : Fields) : Except PyException PipelineEvent := do
  let source ← fields.item "source"
  let count ← fields.item "symbol_count"
  let some symbolCount := Builtins.intOfStr count
    | throw (.valueError s!"invalid literal for int() with base 10: '{count}'")
  let moment ← fields.item "as_of"
  let some asOf := Builtins.datetimeFromIso moment
    | throw (.valueError s!"Invalid isoformat string: '{moment}'")
  return { source, symbolCount, asOf }

/-- One entry of a response; the fields of a trimmed entry read as an empty dictionary. -/
abbrev Delivered := ℕ × Option Fields

/-- The entry decodes to an event. -/
def WellFormed [Builtins] (entry : Delivered) : Prop := (toEvent (entry.2.getD [])).isOk = true

instance [Builtins] (entry : Delivered) : Decidable (WellFormed entry) :=
  inferInstanceAs (Decidable (_ = true))

/-- The list that `read` builds: the first entry that does not decode raises. -/
def toEvents [Builtins] : List Delivered → Except PyException (List (ℕ × PipelineEvent))
  | [] => .ok []
  | (messageId,fields)::rest =>
    match toEvent (fields.getD []) with
    | .error e => .error e
    | .ok event => (toEvents rest).map fun events => (messageId,event)::events

/-- The client with its view of Redis; `drainingPending` until a read was answered. -/
structure RedisPipelineEventQueue where
  redis : ConsumerGroup Fields String
  drainingPending : Bool := true

namespace RedisPipelineEventQueue

/-- The dictionary that `publish` adds. -/
def publishFields (event : PipelineEvent) : Fields :=
  [("source",event.source),("symbol_count",toString event.symbolCount),
    ("as_of",event.asOf.isoformat)]

/-- `XADD` with approximate trimming: Redis removes `trimmed` old entries; `none` when it would
not. -/
def xadd (settings : Settings) (queue : RedisPipelineEventQueue) (fields : Fields) (trimmed : ℕ) :
    Option RedisPipelineEventQueue :=
  let redis := queue.redis.add fields
  if redis.canTrim settings.pipelineStreamMaxlen trimmed then
    some { queue with redis := redis.trim trimmed }
  else none

def publish (settings : Settings) (queue : RedisPipelineEventQueue) (event : PipelineEvent)
    (trimmed : ℕ) : Option RedisPipelineEventQueue :=
  queue.xadd settings (publishFields event) trimmed

/-- The id `read` asks for: `"0"` while draining, `">"` afterwards. -/
def startId (queue : RedisPipelineEventQueue) : ReadFrom :=
  if queue.drainingPending then .ownPending else .undelivered

/-- `COUNT` of every read. -/
def readCount : ℕ := 10

/-- What Redis answers to the next read. -/
def response (settings : Settings) (queue : RedisPipelineEventQueue) : List Delivered :=
  queue.redis.batch settings.pipelineConsumerName readCount queue.startId

/-- Redis after answering the next read. -/
def xreadgroup (settings : Settings) (queue : RedisPipelineEventQueue) :
    ConsumerGroup Fields String :=
  queue.redis.readGroup settings.pipelineConsumerName readCount queue.startId

/-- `read` once Redis answers: the flag is cleared before the entries are decoded. -/
def read [Builtins] (settings : Settings) (queue : RedisPipelineEventQueue) :
    Except PyException (List (ℕ × PipelineEvent)) × RedisPipelineEventQueue :=
  (toEvents (queue.response settings),
    { redis := queue.xreadgroup settings, drainingPending := false })

def ack (queue : RedisPipelineEventQueue) (messageId : ℕ) : RedisPipelineEventQueue :=
  { queue with redis := queue.redis.ack messageId }

/-- This consumer's unacknowledged entries, as a read from `"0"` without a limit would list them. -/
def backlog (settings : Settings) (queue : RedisPipelineEventQueue) : List Delivered :=
  (queue.redis.pendingOf settings.pipelineConsumerName).map fun id => (id,queue.redis.fields id)

end RedisPipelineEventQueue

section Spec

/-- With the flag cleared, Redis answers only entries past the group's position. -/
theorem lastDelivered_lt_response {queue : RedisPipelineEventQueue}
    (hflag : queue.drainingPending = false) {entry : Delivered}
    (h : entry ∈ queue.response settings) : queue.redis.lastDelivered < entry.1 := by
  have hstart : queue.startId = .undelivered := by simp [RedisPipelineEventQueue.startId, hflag]
  unfold RedisPipelineEventQueue.response at h
  rw [hstart] at h
  exact ConsumerGroup.lastDelivered_lt_batch _ h

variable [Builtins]

/-- What `publish` adds decodes to the event again, where numerals and timestamps read back. -/
theorem toEvent_publishFields (event : PipelineEvent)
    (hcount : Builtins.intOfStr (toString event.symbolCount) = some event.symbolCount)
    (hmoment : Builtins.datetimeFromIso event.asOf.isoformat = some event.asOf) :
    toEvent (RedisPipelineEventQueue.publishFields event) = .ok event := by
  have hsource : (RedisPipelineEventQueue.publishFields event).item "source" = .ok event.source :=
    rfl
  have hsymbols : (RedisPipelineEventQueue.publishFields event).item "symbol_count" =
      .ok (toString event.symbolCount) := rfl
  have hasOf : (RedisPipelineEventQueue.publishFields event).item "as_of" =
      .ok event.asOf.isoformat := rfl
  simp only [toEvent, hsource, hsymbols, hasOf, bind, Except.bind, hcount, hmoment]
  rfl

/-- A trimmed entry never decodes. -/
theorem not_wellFormed_trimmed (id : ℕ) : ¬ WellFormed (id,none) := by
  simp [WellFormed, toEvent, Fields.item, Except.isOk, Except.toBool, bind, Except.bind]

theorem toEvents_eq_ok {entries : List Delivered} (h : ∀ e ∈ entries, WellFormed e) :
    ∃ events, toEvents entries = .ok events := by
  induction entries with
  | nil => exact ⟨[],rfl⟩
  | cons entry rest ih =>
    obtain ⟨hentry,hrest⟩ := List.forall_mem_cons.mp h
    obtain ⟨events,hevents⟩ := ih hrest
    unfold WellFormed at hentry
    cases hevent : toEvent (entry.2.getD []) with
    | error e =>
      rw [hevent] at hentry
      contradiction
    | ok event =>
      refine ⟨(entry.1,event)::events,?_⟩
      simp [toEvents, hevent, hevents, Except.map]

/-- A decoded response keeps the ids, in order, and every entry of it is well-formed. -/
theorem of_toEvents_eq_ok {entries : List Delivered} {events : List (ℕ × PipelineEvent)}
    (h : toEvents entries = .ok events) :
    events.map Prod.fst = entries.map Prod.fst ∧ ∀ e ∈ entries, WellFormed e := by
  induction entries generalizing events with
  | nil =>
    obtain rfl : [] = events := Except.ok.inj h
    exact ⟨rfl,by simp⟩
  | cons entry rest ih =>
    rw [toEvents] at h
    cases hevent : toEvent (entry.2.getD []) with
    | error e =>
      rw [hevent] at h
      contradiction
    | ok event =>
      rw [hevent] at h
      cases hrest : toEvents rest with
      | error e =>
        rw [hrest] at h
        contradiction
      | ok tail =>
        rw [hrest] at h
        obtain rfl : (entry.1,event)::tail = events := Except.ok.inj h
        obtain ⟨hids,hwell⟩ := ih hrest
        refine ⟨by simp [hids],List.forall_mem_cons.mpr ⟨?_,hwell⟩⟩
        unfold WellFormed
        rw [hevent]
        rfl

/-- Every decoded event comes from an entry of the response. -/
theorem exists_entry_of_toEvents {entries : List Delivered} {events : List (ℕ × PipelineEvent)}
    (h : toEvents entries = .ok events) {messageId : ℕ} (hid : messageId ∈ events.map Prod.fst) :
    ∃ entry ∈ entries, entry.1 = messageId := by
  rw [(of_toEvents_eq_ok h).1] at hid
  exact List.mem_map.mp hid

end Spec
end MarketScanner.Pipeline
