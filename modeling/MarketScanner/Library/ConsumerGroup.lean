import Mathlib.Tactic.Common
import Mathlib.Data.List.Basic
import Mathlib.Data.Nat.Basic

/-! An append-only stream read through one consumer group: what was delivered and to whom, and what
is still unacknowledged. Entry ids are counted in the order of the additions. -/
namespace MarketScanner.Library

structure StreamEntry (φ : Type*) where
  id : ℕ
  fields : φ
  deriving DecidableEq

/-- An entry delivered to a consumer and not acknowledged. -/
structure PendingEntry (κ : Type*) where
  id : ℕ
  consumer : κ
  deriving DecidableEq

structure ConsumerGroup (φ κ : Type*) where
  entries : List (StreamEntry φ)
  lastId : ℕ
  lastDelivered : ℕ
  pending : List (PendingEntry κ)
  ordered : entries.Pairwise fun a b => a.id < b.id
  below : ∀ e ∈ entries, e.id ≤ lastId
  delivered : lastDelivered ≤ lastId
  pendingOrdered : pending.Pairwise fun a b => a.id < b.id
  pendingBelow : ∀ p ∈ pending, p.id ≤ lastDelivered

/-- Where a group read starts: the consumer's own unacknowledged entries, or the undelivered ones. -/
inductive ReadFrom
  | ownPending | undelivered
  deriving DecidableEq, Repr

namespace ConsumerGroup
variable {φ κ : Type*}

def empty : ConsumerGroup φ κ := ⟨[],0,0,[],List.Pairwise.nil,by simp,le_refl _,List.Pairwise.nil,by simp⟩

/-- `XADD`. -/
def add (g : ConsumerGroup φ κ) (fields : φ) : ConsumerGroup φ κ where
  entries := g.entries ++ [⟨g.lastId+1,fields⟩]
  lastId := g.lastId+1
  lastDelivered := g.lastDelivered
  pending := g.pending
  ordered := by
    refine List.pairwise_append.mpr ⟨g.ordered,List.pairwise_singleton _ _,?_⟩
    intro a ha b hb
    obtain rfl := List.mem_singleton.mp hb
    exact Nat.lt_succ_of_le (g.below a ha)
  below := by
    intro e he
    rcases List.mem_append.mp he with h | h
    · exact Nat.le_succ_of_le (g.below e h)
    · obtain rfl := List.mem_singleton.mp h
      exact le_refl _
  delivered := Nat.le_succ_of_le g.delivered
  pendingOrdered := g.pendingOrdered
  pendingBelow := g.pendingBelow

/-- Remove the oldest entries; what was delivered or is pending stays as it is. -/
def trim (g : ConsumerGroup φ κ) (n : ℕ) : ConsumerGroup φ κ where
  entries := g.entries.drop n
  lastId := g.lastId
  lastDelivered := g.lastDelivered
  pending := g.pending
  ordered := g.ordered.sublist (List.drop_sublist n _)
  below e he := g.below e (List.mem_of_mem_drop he)
  delivered := g.delivered
  pendingOrdered := g.pendingOrdered
  pendingBelow := g.pendingBelow

/-- Approximate trimming to `maxlen`: it may stop early, and never leaves fewer entries. -/
def canTrim (g : ConsumerGroup φ κ) (maxlen n : ℕ) : Bool :=
  n == 0 || decide (maxlen+n ≤ g.entries.length)

/-- The first `count` entries never delivered to the group. -/
def newEntries (g : ConsumerGroup φ κ) (count : ℕ) : List (StreamEntry φ) :=
  (g.entries.filter fun e => g.lastDelivered < e.id).take count

theorem newEntries_sublist (g : ConsumerGroup φ κ) (count : ℕ) :
    (g.newEntries count).Sublist g.entries :=
  (List.take_sublist _ _).trans List.filter_sublist

theorem lastDelivered_lt_newEntries (g : ConsumerGroup φ κ) {count : ℕ} {e : StreamEntry φ}
    (h : e ∈ g.newEntries count) : g.lastDelivered < e.id := by
  have hmem := List.mem_of_mem_take h
  simpa using (List.mem_filter.mp hmem).2

/-- The last delivered id after `batch`. -/
def advance (g : ConsumerGroup φ κ) (batch : List (StreamEntry φ)) : ℕ :=
  (batch.getLast?.map StreamEntry.id).getD g.lastDelivered

theorem newEntries_le_advance (g : ConsumerGroup φ κ) {count : ℕ} {e : StreamEntry φ}
    (h : e ∈ g.newEntries count) : e.id ≤ g.advance (g.newEntries count) := by
  have hordered : (g.newEntries count).Pairwise fun a b => a.id < b.id :=
    g.ordered.sublist (g.newEntries_sublist count)
  unfold advance
  cases hlast : (g.newEntries count).getLast? with
  | none =>
    rw [List.getLast?_eq_none_iff.mp hlast] at h
    contradiction
  | some last =>
    obtain ⟨front,hfront⟩ := List.getLast?_eq_some_iff.mp hlast
    rw [hfront] at h hordered
    simp only [Option.map_some, Option.getD_some]
    rcases List.mem_append.mp h with hmem | hmem
    · have hlt := (List.pairwise_append.mp hordered).2.2 e hmem last (List.mem_singleton_self last)
      exact Nat.le_of_lt hlt
    · rw [List.mem_singleton.mp hmem]

theorem lastDelivered_le_advance (g : ConsumerGroup φ κ) (count : ℕ) :
    g.lastDelivered ≤ g.advance (g.newEntries count) := by
  unfold advance
  cases hlast : (g.newEntries count).getLast? with
  | none => exact le_refl _
  | some last =>
    exact Nat.le_of_lt (g.lastDelivered_lt_newEntries (List.mem_of_getLast? hlast))

theorem advance_le_lastId (g : ConsumerGroup φ κ) (count : ℕ) :
    g.advance (g.newEntries count) ≤ g.lastId := by
  unfold advance
  cases hlast : (g.newEntries count).getLast? with
  | none => exact g.delivered
  | some last =>
    exact g.below last ((g.newEntries_sublist count).subset (List.mem_of_getLast? hlast))

/-- Deliver the next `count` entries to `consumer`; they become pending. -/
def deliver (g : ConsumerGroup φ κ) (consumer : κ) (count : ℕ) : ConsumerGroup φ κ where
  entries := g.entries
  lastId := g.lastId
  lastDelivered := g.advance (g.newEntries count)
  pending := g.pending ++ (g.newEntries count).map fun e => ⟨e.id,consumer⟩
  ordered := g.ordered
  below := g.below
  delivered := g.advance_le_lastId count
  pendingOrdered := by
    refine List.pairwise_append.mpr ⟨g.pendingOrdered,?_,?_⟩
    · exact List.pairwise_map.mpr (g.ordered.sublist (g.newEntries_sublist count))
    · intro p hp q hq
      obtain ⟨e,he,rfl⟩ := List.mem_map.mp hq
      exact Nat.lt_of_le_of_lt (g.pendingBelow p hp) (g.lastDelivered_lt_newEntries he)
  pendingBelow := by
    intro p hp
    rcases List.mem_append.mp hp with h | h
    · exact Nat.le_trans (g.pendingBelow p h) (g.lastDelivered_le_advance count)
    · obtain ⟨e,he,rfl⟩ := List.mem_map.mp h
      exact g.newEntries_le_advance he

/-- With nothing new to deliver, nothing changes. -/
theorem deliver_of_none (g : ConsumerGroup φ κ) {count : ℕ} (h : g.newEntries count = [])
    (consumer : κ) : g.deliver consumer count = g := by
  cases g
  simp [deliver, advance, h]

/-- `XACK`. -/
def ack (g : ConsumerGroup φ κ) (id : ℕ) : ConsumerGroup φ κ where
  entries := g.entries
  lastId := g.lastId
  lastDelivered := g.lastDelivered
  pending := g.pending.filter fun p => p.id != id
  ordered := g.ordered
  below := g.below
  delivered := g.delivered
  pendingOrdered := g.pendingOrdered.sublist List.filter_sublist
  pendingBelow p hp := g.pendingBelow p (List.mem_of_mem_filter hp)

/-- What `XREADGROUP` changes: reading the own pending entries again changes nothing here. -/
def readGroup (g : ConsumerGroup φ κ) (consumer : κ) (count : ℕ) : ReadFrom → ConsumerGroup φ κ
  | .ownPending => g
  | .undelivered => g.deliver consumer count

/-- The group's position never goes back. -/
theorem lastDelivered_le_readGroup (g : ConsumerGroup φ κ) (consumer : κ) (count : ℕ)
    (start : ReadFrom) : g.lastDelivered ≤ (g.readGroup consumer count start).lastDelivered := by
  cases start with
  | ownPending => exact le_refl _
  | undelivered => exact g.lastDelivered_le_advance count

/-- The fields of an entry that is still in the stream. -/
def fields (g : ConsumerGroup φ κ) (id : ℕ) : Option φ :=
  (g.entries.find? fun e => e.id == id).map StreamEntry.fields

section Consumer
variable [DecidableEq κ]

/-- The ids pending for one consumer, in order. -/
def pendingOf (g : ConsumerGroup φ κ) (consumer : κ) : List ℕ :=
  (g.pending.filter fun p => p.consumer == consumer).map PendingEntry.id

/-- What `XREADGROUP` answers: ids with their fields, or without when the entry was trimmed. -/
def batch (g : ConsumerGroup φ κ) (consumer : κ) (count : ℕ) : ReadFrom → List (ℕ × Option φ)
  | .ownPending => ((g.pendingOf consumer).take count).map fun id => (id,g.fields id)
  | .undelivered => (g.newEntries count).map fun e => (e.id,some e.fields)

theorem pendingOf_nodup (g : ConsumerGroup φ κ) (consumer : κ) :
    (g.pendingOf consumer).Nodup := by
  refine List.pairwise_map.mpr (List.Pairwise.imp ?_ (g.pendingOrdered.sublist List.filter_sublist))
  intro a b hab
  exact Nat.ne_of_lt hab

theorem pendingOf_le (g : ConsumerGroup φ κ) {consumer : κ} {id : ℕ}
    (h : id ∈ g.pendingOf consumer) : id ≤ g.lastDelivered := by
  obtain ⟨p,hp,rfl⟩ := List.mem_map.mp h
  exact g.pendingBelow p (List.mem_of_mem_filter hp)

/-- Deliveries to another consumer are not pending for this one. -/
theorem pendingOf_deliver_other (g : ConsumerGroup φ κ) {consumer other : κ}
    (h : other ≠ consumer) (count : ℕ) :
    (g.deliver other count).pendingOf consumer = g.pendingOf consumer := by
  simp [pendingOf, deliver, h, List.filter_map, Function.comp_def]

/-- Acknowledging an id that is not pending for the consumer leaves its pending list alone. -/
theorem pendingOf_ack_other (g : ConsumerGroup φ κ) {consumer : κ} {id : ℕ}
    (h : id ∉ g.pendingOf consumer) : (g.ack id).pendingOf consumer = g.pendingOf consumer := by
  unfold pendingOf ack
  congr 1
  rw [List.filter_filter]
  refine List.filter_congr fun p hp => ?_
  by_cases hc : p.consumer = consumer
  · have hid : p.id ≠ id := by
      rintro rfl
      exact h (List.mem_map.mpr ⟨p,List.mem_filter.mpr ⟨hp,by simp [hc]⟩,rfl⟩)
    simp [hc, hid]
  · simp [hc]

/-- Whatever a read answers has been delivered. -/
theorem batch_le_readGroup (g : ConsumerGroup φ κ) {consumer : κ} {count : ℕ} {start : ReadFrom}
    {e : ℕ × Option φ} (h : e ∈ g.batch consumer count start) :
    e.1 ≤ (g.readGroup consumer count start).lastDelivered := by
  cases start with
  | ownPending =>
    obtain ⟨id,hid,rfl⟩ := List.mem_map.mp h
    exact g.pendingOf_le (List.mem_of_mem_take hid)
  | undelivered =>
    obtain ⟨e',he,rfl⟩ := List.mem_map.mp h
    exact g.newEntries_le_advance he

/-- A live read answers only entries past the group's position. -/
theorem lastDelivered_lt_batch (g : ConsumerGroup φ κ) {consumer : κ} {count : ℕ}
    {e : ℕ × Option φ} (h : e ∈ g.batch consumer count .undelivered) : g.lastDelivered < e.1 := by
  obtain ⟨e',he,rfl⟩ := List.mem_map.mp h
  exact g.lastDelivered_lt_newEntries he

end Consumer
end ConsumerGroup
end MarketScanner.Library
