import MarketScanner.Library.Outbox
import MarketScanner.Providers.MarketFeed

/-! Completed candles between the aggregator and the database: when no run of the feed loses one. The
feed is an outbox of candles; a flush takes all that wait out before it writes. -/
namespace MarketScanner.Providers
open MarketScanner.Library MarketScanner.Python MarketScanner.Market MarketScanner.Universe

theorem toProvider_injective {c d : TickCandle} (h : c.toProvider = d.toProvider) : c = d := by
  cases c
  cases d
  simpa [TickCandle.toProvider] using h

namespace MarketFeed

def pendingEntries (s : MarketFeed) : List (String × TickCandle) :=
  s.pendingCandles.items.flatMap fun item => item.2.map fun c => (item.1,c)

/-- The candle is in a committed write for its instrument. -/
def Written (s : MarketFeed) (e : String × TickCandle) : Prop := (e.1,e.2.toProvider) ∈ s.written

instance (s : MarketFeed) (e : String × TickCandle) : Decidable (s.Written e) :=
  inferInstanceAs (Decidable (_ ∈ _))

def outbox (s : MarketFeed) : Outbox (String × TickCandle) :=
  ⟨s.aggregation.completed,s.pendingEntries,s.Written⟩

def Subscribed (s : MarketFeed) (key : String) : Prop := (s.symbolByKey.get? key).isSome = true

/-- Every candle completed for a subscribed instrument is in a committed write or still pending, and not
in both. -/
def NoneLost (s : MarketFeed) : Prop :=
  ∀ e ∈ s.owed, Xor (s.Written e) (e ∈ s.pendingEntries)

/-- The write commits, and validation keeps every pending candle of a subscribed instrument. -/
def KeepsPending (s : MarketFeed) (outcome : FlushOutcome) : Prop :=
  ∀ item ∈ s.pendingCandles.items, s.Subscribed item.1 → ∀ c ∈ item.2,
    outcome.commits = true ∧
      c.toProvider ∈ DataValidator.validateCandles (item.2.map TickCandle.toProvider)

/-- The flushes of a step keep what is pending. -/
def FlushesKeep (s : MarketFeed) : FeedAction → MarketFeed → Prop
  | .flush outcome, _ | .disconnect outcome, _ => s.KeepsPending outcome
  | _, _ => True

/-- What is true of a feed wherever it stands. -/
structure Sound (s : MarketFeed) : Prop where
  follows : Follows s.ticks s.aggregation
  accounted : s.outbox.Accounted
  owed : ∀ e ∈ s.owed, e ∈ s.aggregation.completed
  subscribed : ∀ e ∈ s.pendingEntries, e ∈ s.owed ↔ s.Subscribed e.1
  settled : s.phase = .idle ∨ s.phase = .connected → s.pendingCandles = Assoc.empty

variable {s : MarketFeed}

end MarketFeed

/-- An aggregator never completes one candle twice. -/
theorem Follows.nodup {ticks : List Tick} {a : Aggregation} (h : Follows ticks a) :
    a.completed.Nodup := by
  rw [List.nodup_iff_count_le_one]
  rintro ⟨key,c⟩
  have hcandles : (a.candles key).Nodup := by
    rw [h.candles]
    refine (candles_increasing ticks key).imp fun hlt => ?_
    rintro rfl
    exact lt_irrefl _ (DateTime.lt_iff.mp hlt)
  have hfiltered := List.Nodup.of_map Prod.snd hcandles
  have hcount : (a.completed.filter fun entry => decide (entry.1 = key)).count (key,c) =
      a.completed.count (key,c) := List.count_filter (by simp)
  rw [← hcount]
  exact List.nodup_iff_count_le_one.mp hfiltered (key,c)

/-- A candle put in waits under its instrument. -/
theorem perm_append (items : List (String × List TickCandle)) (key : String) (c : TickCandle) :
    ((Assoc.setItem key ((items.lookup key).getD [] ++ [c]) items).flatMap fun item =>
        item.2.map fun c => (item.1,c)).Perm
      ((items.flatMap fun item => item.2.map fun c => (item.1,c)) ++ [(key,c)]) := by
  induction items with
  | nil => exact List.Perm.refl _
  | cons item items ih =>
    by_cases hkey : item.1 = key
    · subst hkey
      have hlookup : (item::items).lookup item.1 = some item.2 := by
        rw [List.lookup_cons, beq_self_eq_true]
      rw [hlookup, Assoc.setItem, if_pos rfl, List.flatMap_cons, List.flatMap_cons,
        Option.getD_some, List.map_append, List.append_assoc, List.append_assoc]
      exact List.perm_append_comm.append_left _
    · have hlookup : (item::items).lookup key = items.lookup key := by
        rw [List.lookup_cons, beq_false_of_ne (Ne.symm hkey)]
      rw [hlookup, Assoc.setItem, if_neg hkey, List.flatMap_cons, List.flatMap_cons,
        List.append_assoc]
      exact ih.append_left _

namespace MarketFeed
variable {s : MarketFeed}

theorem sound_start (prices : IntradayPrices) : (feedStart prices).Sound where
  follows := follows_nil
  accounted := ⟨List.nodup_nil,[],List.Perm.refl _,fun _ h => by cases h⟩
  owed := fun _ h => by cases h
  subscribed := fun _ h => by cases h
  settled := fun _ => rfl

/-! One feed of a message. -/

/-- What a feed of a message does to the outbox: nothing, or one new candle goes in. -/
theorem handleEntry_cases (s : MarketFeed) (entry : FeedEntry) :
    (∃ aggregation ticks, aggregation.completed = s.aggregation.completed ∧
        (Follows s.ticks s.aggregation → Follows ticks aggregation) ∧
        (s.handleEntry entry).1 = { s with aggregation, ticks }) ∨
      ∃ aggregation ticks key c, aggregation.completed = s.aggregation.completed ++ [(key,c)] ∧
        (Follows s.ticks s.aggregation → Follows ticks aggregation) ∧
        (s.handleEntry entry).1 = { s with
          aggregation, ticks
          pendingCandles := s.pendingCandles.append key c
          owed := if (s.symbolByKey.get? key).isSome then s.owed ++ [(key,c)] else s.owed } := by
  cases entry with
  | other => exact Or.inl ⟨s.aggregation,s.ticks,rfl,id,rfl⟩
  | ltpc t =>
    have hfollows : Follows s.ticks s.aggregation →
        Follows (s.ticks ++ [t]) (s.aggregation.ingest t) := fun h => h.ingest t
    unfold handleEntry
    cases hresult : s.aggregation.aggregator.ingest t with
    | mk aggregator result =>
      cases result with
      | error text =>
        exact Or.inl ⟨s.aggregation.ingest t,s.ticks ++ [t],by simp only [Aggregation.ingest, hresult],
          hfollows,by simp only [hresult]⟩
      | ok finished =>
        cases finished with
        | none =>
          exact Or.inl ⟨s.aggregation.ingest t,s.ticks ++ [t],
            by simp only [Aggregation.ingest, hresult],hfollows,by simp only [hresult]⟩
        | some candle =>
          exact Or.inr ⟨s.aggregation.ingest t,s.ticks ++ [t],t.instrumentKey,candle,
            by simp only [Aggregation.ingest, hresult],hfollows,by simp only [hresult]⟩

/-- A tick that completes no candle leaves the outbox. -/
theorem Sound.ingested (h : s.Sound) (hphase : s.phase = .streaming) {aggregation : Aggregation}
    {ticks : List Tick} (hcompleted : aggregation.completed = s.aggregation.completed)
    (hfollows : Follows ticks aggregation) : Sound { s with aggregation, ticks } := by
  refine ⟨hfollows,?_,?_,h.subscribed,?_⟩
  · have hbox : outbox { s with aggregation, ticks } = s.outbox := by
      rw [outbox, hcompleted]
      rfl
    rw [hbox]
    exact h.accounted
  · intro e he
    rw [hcompleted]
    exact h.owed e he
  · intro hidle
    rw [hphase] at hidle
    rcases hidle with hidle | hidle <;> cases hidle

section Completed

variable {aggregation : Aggregation} {ticks : List Tick} {key : String} {c : TickCandle}

theorem perm_pending (s : MarketFeed) (key : String) (c : TickCandle) :
    ((s.pendingCandles.append key c).items.flatMap fun item =>
      item.2.map fun c => (item.1,c)).Perm (s.pendingEntries ++ [(key,c)]) :=
  perm_append s.pendingCandles.items key c

theorem mem_owed_iff (s : MarketFeed) (key : String) (c : TickCandle) (e : String × TickCandle) :
    e ∈ (if (s.symbolByKey.get? key).isSome then s.owed ++ [(key,c)] else s.owed) ↔
      e ∈ s.owed ∨ (e = (key,c) ∧ s.Subscribed key) := by
  unfold Subscribed
  cases (s.symbolByKey.get? key).isSome <;> simp

theorem not_mem_completed (h : Follows ticks aggregation)
    (hcompleted : aggregation.completed = s.aggregation.completed ++ [(key,c)]) :
    (key,c) ∉ s.aggregation.completed := by
  have hnodup := h.nodup
  rw [hcompleted] at hnodup
  exact fun hmem => List.disjoint_of_nodup_append hnodup hmem (List.mem_singleton_self _)

/-- A completed candle waits in the outbox, owed where its instrument is subscribed. -/
theorem Sound.pended (h : s.Sound) (hphase : s.phase = .streaming)
    (hcompleted : aggregation.completed = s.aggregation.completed ++ [(key,c)])
    (hfollows : Follows ticks aggregation) :
    Sound { s with
      aggregation, ticks
      pendingCandles := s.pendingCandles.append key c
      owed := if (s.symbolByKey.get? key).isSome then s.owed ++ [(key,c)] else s.owed } := by
  have hnew := not_mem_completed hfollows hcompleted
  have hperm := perm_pending s key c
  refine ⟨hfollows,?_,?_,?_,?_⟩
  · have hput := h.accounted.put hnew hperm
    unfold outbox
    rw [hcompleted]
    exact hput
  · intro e he
    rw [hcompleted]
    rcases (mem_owed_iff s key c e).mp he with hold | ⟨rfl,-⟩
    · exact List.mem_append_left _ (h.owed e hold)
    · exact List.mem_append_right _ (List.mem_singleton_self _)
  · intro e he
    refine (mem_owed_iff s key c e).trans ?_
    rcases List.mem_append.mp (hperm.mem_iff.mp he) with hold | hlast
    · have hne : e ≠ (key,c) := by
        rintro rfl
        exact hnew (h.accounted.waiting_subset hold)
      rw [h.subscribed e hold]
      exact or_iff_left fun hand => hne hand.1
    · obtain rfl := List.mem_singleton.mp hlast
      constructor
      · rintro (hold | ⟨-,hsub⟩)
        · exact absurd (h.owed _ hold) hnew
        · exact hsub
      · intro hsub
        exact Or.inr ⟨rfl,hsub⟩
  · intro hidle
    have hidle : s.phase = .idle ∨ s.phase = .connected := hidle
    rw [hphase] at hidle
    rcases hidle with hidle | hidle <;> cases hidle

/-- A completed candle that goes into the outbox is not lost, nor does it lose another. -/
theorem Sound.noneLost_pended (h : s.Sound)
    (hcompleted : aggregation.completed = s.aggregation.completed ++ [(key,c)])
    (hfollows : Follows ticks aggregation) (hnone : s.NoneLost) :
    NoneLost { s with
      aggregation, ticks
      pendingCandles := s.pendingCandles.append key c
      owed := if (s.symbolByKey.get? key).isSome then s.owed ++ [(key,c)] else s.owed } := by
  have hnew := not_mem_completed hfollows hcompleted
  have hbox : s.outbox.NoneLost (· ∈ s.owed) := fun e _ he => hnone e he
  have hdue : ∀ e ∈ s.aggregation.completed,
      e ∈ s.owed ∨ (e = (key,c) ∧ s.Subscribed key) → e ∈ s.owed := by
    rintro e he (hold | ⟨rfl,-⟩)
    · exact hold
    · exact absurd he hnew
  have hput := hbox.put h.accounted hnew (perm_pending s key c) hdue
  intro e he
  have he := (mem_owed_iff s key c e).mp he
  refine hput e ?_ he
  rcases he with hold | ⟨rfl,-⟩
  · exact List.mem_append_left _ (h.owed e hold)
  · exact List.mem_append_right _ (List.mem_singleton_self _)

end Completed

theorem handleEntry_sound (h : s.Sound) (hphase : s.phase = .streaming) (entry : FeedEntry) :
    (s.handleEntry entry).1.Sound ∧ (s.NoneLost → (s.handleEntry entry).1.NoneLost) ∧
      (s.handleEntry entry).1.phase = .streaming := by
  rcases handleEntry_cases s entry with
    ⟨aggregation,ticks,hcompleted,hfollows,heq⟩ | ⟨aggregation,ticks,key,c,hcompleted,hfollows,heq⟩
  · rw [heq]
    exact ⟨h.ingested hphase hcompleted (hfollows h.follows),id,hphase⟩
  · rw [heq]
    exact ⟨h.pended hphase hcompleted (hfollows h.follows),
      h.noneLost_pended hcompleted (hfollows h.follows),hphase⟩

theorem handleMessage_sound (h : s.Sound) (hphase : s.phase = .streaming)
    (entries : List FeedEntry) :
    (s.handleMessage entries).1.Sound ∧ (s.NoneLost → (s.handleMessage entries).1.NoneLost) := by
  induction entries generalizing s with
  | nil => exact ⟨h,id⟩
  | cons entry entries ih =>
    obtain ⟨hsound,hlost,hstreaming⟩ := handleEntry_sound h hphase entry
    rw [handleMessage]
    split
    · rename_i after heq
      rw [heq] at hsound hlost
      exact ⟨hsound,hlost⟩
    · rename_i after heq
      rw [heq] at hsound hlost hstreaming
      obtain ⟨hrest,hlostRest⟩ := ih hsound hstreaming
      exact ⟨hrest,fun hnone => hlostRest (hlost hnone)⟩

/-! A flush. -/

theorem noneLost_iff (h : s.Sound) : s.NoneLost ↔ s.outbox.NoneLost (· ∈ s.owed) :=
  ⟨fun hnone e _ he => hnone e he,fun hnone e he => hnone e (h.owed e he) he⟩

theorem mem_pendingEntries {e : String × TickCandle} :
    e ∈ s.pendingEntries ↔ ∃ item ∈ s.pendingCandles.items, item.1 = e.1 ∧ e.2 ∈ item.2 := by
  obtain ⟨key,c⟩ := e
  constructor
  · intro he
    obtain ⟨item,hitem,hc⟩ := List.mem_flatMap.mp he
    obtain ⟨c',hc',heq⟩ := List.mem_map.mp hc
    obtain ⟨rfl,rfl⟩ := Prod.mk.inj heq
    exact ⟨item,hitem,rfl,hc'⟩
  · rintro ⟨item,hitem,hkey,hc⟩
    dsimp only at hkey hc
    subst hkey
    exact List.mem_flatMap.mpr ⟨item,hitem,List.mem_map_of_mem hc⟩

theorem mem_writtenBy {e : String × ProviderCandle} :
    e ∈ s.writtenBy ↔ ∃ item ∈ s.pendingCandles.items, item.1 = e.1 ∧ s.Subscribed e.1 ∧
      e.2 ∈ DataValidator.validateCandles (item.2.map TickCandle.toProvider) := by
  obtain ⟨key,c⟩ := e
  unfold writtenBy cleanCandles Subscribed
  constructor
  · intro he
    obtain ⟨item,hitem,hc⟩ := List.mem_flatMap.mp he
    obtain ⟨c',hc',heq⟩ := List.mem_map.mp hc
    obtain ⟨rfl,rfl⟩ := Prod.mk.inj heq
    cases hsymbol : s.symbolByKey.get? item.1 with
    | none =>
      rw [hsymbol] at hc'
      cases hc'
    | some symbol =>
      rw [hsymbol] at hc'
      exact ⟨item,hitem,rfl,rfl,hc'⟩
  · rintro ⟨item,hitem,hkey,hsub,hc⟩
    dsimp only at hkey hsub hc
    subst hkey
    obtain ⟨symbol,hsymbol⟩ := Option.isSome_iff_exists.mp hsub
    refine List.mem_flatMap.mpr ⟨item,hitem,?_⟩
    rw [hsymbol]
    exact List.mem_map_of_mem hc

/-- What a flush writes. -/
def flushed (s : MarketFeed) (outcome : FlushOutcome) : List (String × ProviderCandle) :=
  if outcome.commits then s.writtenBy else []

/-- A flush leaves nothing pending; what it wrote is added to the committed writes. -/
theorem flush_eq (s : MarketFeed) (outcome : FlushOutcome) :
    ∃ prices candlesFlushed events, (s.flush outcome).1 = { s with
      prices, candlesFlushed, events
      pendingCandles := Assoc.empty
      written := s.written ++ s.flushed outcome } := by
  unfold MarketFeed.flush
  by_cases hempty : s.pendingCandles.items.isEmpty = true
  · have hitems : s.pendingCandles.items = [] := List.isEmpty_iff.mp hempty
    have hpending : s.pendingCandles = Assoc.empty := by
      cases hp : s.pendingCandles with
      | mk items distinct =>
        rw [hp] at hitems
        subst hitems
        rfl
    have hnothing : s.flushed outcome = [] := by
      unfold flushed writtenBy
      rw [hitems]
      cases outcome.commits <;> rfl
    rw [if_pos hempty, hnothing, List.append_nil, ← hpending]
    exact ⟨s.prices,s.candlesFlushed,s.events,rfl⟩
  · rw [if_neg hempty]
    cases outcome with
    | raised =>
      refine ⟨s.prices,s.candlesFlushed,s.events,?_⟩
      rw [show s.flushed .raised = [] from rfl, List.append_nil]
    | committed asOf published =>
      dsimp only
      split
      · exact ⟨_,_,_,rfl⟩
      · exact ⟨_,_,_,rfl⟩

theorem keepsPending_iff (h : s.Sound) (outcome : FlushOutcome) :
    s.KeepsPending outcome ↔ ∀ e ∈ s.pendingEntries, e ∈ s.owed →
      (e.1,e.2.toProvider) ∈ s.written ++ s.flushed outcome := by
  constructor
  · intro hkeeps e he howed
    have hsub := (h.subscribed e he).mp howed
    obtain ⟨item,hitem,hkey,hc⟩ := mem_pendingEntries.mp he
    obtain ⟨hcommits,hclean⟩ := hkeeps item hitem (hkey ▸ hsub) e.2 hc
    apply List.mem_append_right
    rw [flushed, hcommits]
    exact mem_writtenBy.mpr ⟨item,hitem,hkey,hsub,hclean⟩
  · intro hall item hitem hsub c hc
    have he : (item.1,c) ∈ s.pendingEntries := mem_pendingEntries.mpr ⟨item,hitem,rfl,hc⟩
    have hwritten := hall _ he ((h.subscribed _ he).mpr hsub)
    rcases List.mem_append.mp hwritten with hold | hnew
    · exact absurd he (h.accounted.not_waiting hold)
    · unfold flushed at hnew
      cases hcommits : outcome.commits with
      | false =>
        rw [hcommits] at hnew
        cases hnew
      | true =>
        rw [hcommits] at hnew
        obtain ⟨item',hitem',hkey,-,hclean⟩ := mem_writtenBy.mp hnew
        have hsame := List.inj_on_of_nodup_map s.pendingCandles.distinct hitem' hitem hkey
        rw [hsame] at hclean
        exact ⟨rfl,hclean⟩

/-- A flush loses nothing exactly when it keeps what is pending. -/
theorem flush_sound (h : s.Sound) (outcome : FlushOutcome) (phase : FeedPhase) :
    Sound { (s.flush outcome).1 with phase } ∧ (s.NoneLost →
      (NoneLost { (s.flush outcome).1 with phase } ↔ s.KeepsPending outcome)) := by
  obtain ⟨prices,candlesFlushed,events,heq⟩ := flush_eq s outcome
  have hold : ∀ e, s.Written e → (e.1,e.2.toProvider) ∈ s.written ++ s.flushed outcome :=
    fun e he => List.mem_append_left _ he
  have hnew : ∀ e, (e.1,e.2.toProvider) ∈ s.written ++ s.flushed outcome →
      s.Written e ∨ e ∈ s.pendingEntries := by
    intro e he
    rcases List.mem_append.mp he with he | he
    · exact Or.inl he
    · right
      unfold flushed at he
      split at he
      · obtain ⟨item,hitem,hkey,-,hclean⟩ := mem_writtenBy.mp he
        obtain ⟨c,hc,hprovider⟩ :=
          List.mem_map.mp (DataValidator.mem_of_mem_validateCandles hclean)
        rw [toProvider_injective hprovider] at hc
        exact mem_pendingEntries.mpr ⟨item,hitem,hkey,hc⟩
      · cases he
  have hsound : Sound { (s.flush outcome).1 with phase } := by
    rw [heq]
    exact ⟨h.follows,h.accounted.takeOut hnew,h.owed,fun _ he => absurd he List.not_mem_nil,
      fun _ => rfl⟩
  refine ⟨hsound,fun hnone => ?_⟩
  rw [keepsPending_iff h, noneLost_iff hsound, heq]
  exact ((noneLost_iff h).mp hnone).takeOut_iff h.accounted hold

/-! Runs. -/

/-- A step keeps the feed sound, and loses nothing exactly when its flushes keep what is pending. -/
theorem step_sound {trades : Trades} {t : MarketFeed} {action : FeedAction} (h : s.Sound)
    (hstep : s.step trades action = some t) :
    t.Sound ∧ (s.NoneLost → (t.NoneLost ↔ s.FlushesKeep action t)) := by
  rcases MarketFeed.step_cases hstep with
    ⟨symbols,accepted,rfl,hphase,rfl | ⟨phase,rfl⟩⟩ |
    ⟨replies,timedOut,asOf,published,rfl,-,phase,events,hphase,rfl⟩ |
    ⟨entries,phase,rfl,hstreaming,hphase,rfl⟩ | ⟨outcome,phase,rfl | rfl,rfl⟩
  · exact ⟨h,fun hnone => iff_of_true hnone trivial⟩
  · have hsettled := h.settled (Or.inl hphase)
    have hnothing : s.pendingEntries = [] := by
      rw [pendingEntries, hsettled]
      rfl
    refine ⟨⟨h.follows,h.accounted,h.owed,fun e he => ?_,fun _ => hsettled⟩,
      fun hnone => iff_of_true hnone trivial⟩
    have he : e ∈ s.pendingEntries := he
    rw [hnothing] at he
    cases he
  · refine ⟨⟨h.follows,h.accounted,h.owed,h.subscribed,?_⟩,
      fun hnone => iff_of_true hnone trivial⟩
    rcases hphase with rfl | rfl <;> rintro (hidle | hidle) <;> cases hidle
  · obtain ⟨hsound,hlost⟩ := handleMessage_sound h hstreaming entries
    refine ⟨⟨hsound.follows,hsound.accounted,hsound.owed,hsound.subscribed,?_⟩,
      fun hnone => iff_of_true (hlost hnone) trivial⟩
    rcases hphase with rfl | rfl <;> rintro (hidle | hidle) <;> cases hidle
  · exact flush_sound h outcome phase
  · exact flush_sound h outcome phase

end MarketFeed

/-- No completed candle is lost in any state of a run exactly when every flush of it keeps what is
pending. -/
theorem noCandleLost_iff (trades : Trades) (prices : IntradayPrices) (actions : List FeedAction) :
    (feedMachine trades).Throughout MarketFeed.NoneLost (feedStart prices) actions ↔
      (feedMachine trades).Steps MarketFeed.FlushesKeep (feedStart prices) actions := by
  have hstart : (feedStart prices).Sound ∧ (feedStart prices).NoneLost :=
    ⟨MarketFeed.sound_start prices,fun _ he => absurd he List.not_mem_nil⟩
  have hsound : ∀ {pre : List FeedAction} {t : MarketFeed},
      (feedMachine trades).Run (feedStart prices) pre t → t.Sound := fun hrun =>
    hrun.stable (I := MarketFeed.Sound)
      (fun _ _ _ hs hstep => (MarketFeed.step_sound hs hstep).1) hstart.1
  have hiff : (feedMachine trades).Throughout (fun s => s.Sound ∧ s.NoneLost) (feedStart prices)
      actions ↔ (feedMachine trades).Steps MarketFeed.FlushesKeep (feedStart prices) actions := by
    refine Machine.throughout_iff_steps (I := fun s : MarketFeed => s.Sound ∧ s.NoneLost) ?_ hstart
    intro s action t hs hstep
    obtain ⟨hafter,hlost⟩ := MarketFeed.step_sound hs.1 hstep
    exact ⟨fun h => (hlost hs.2).mp h.2,fun h => ⟨hafter,(hlost hs.2).mpr h⟩⟩
  rw [← hiff]
  exact ⟨fun h _ _ _ has hrun => ⟨hsound hrun,h has hrun⟩,fun h _ _ _ has hrun => (h has hrun).2⟩

/-- Two ticks complete a candle, and the flush of it raises. -/
def raisedFlush : List FeedAction :=
  [.connect [⟨1,⟨"RELIANCE","NSE","NSE_EQ|INE002A01018",none,none,none,none,true⟩⟩] true,
    .gapFill [] false ⟨0,0⟩ true,
    .message [.ltpc ⟨"NSE_EQ|INE002A01018",1500,1767584700000,10⟩],
    .message [.ltpc ⟨"NSE_EQ|INE002A01018",1501,1767584760000,20⟩],
    .flush .raised]

/-- The candle is neither in a committed write nor pending any more. -/
theorem raisedFlush_loses_candle :
    ¬ ∀ (trades : Trades) (prices : IntradayPrices) (actions : List FeedAction),
      (feedMachine trades).Throughout MarketFeed.NoneLost (feedStart prices) actions := by
  intro h
  obtain ⟨t,hrun,ht⟩ := (feedMachine fun _ _ => []).exists_run_of_exec (feedStart Stamped.empty)
    raisedFlush (fun s => decide (s.owed = [("NSE_EQ|INE002A01018",
      ⟨⟨1767584700000000,0⟩,1500,1500,1500,1500,10⟩)] ∧ s.written = [] ∧ s.pendingEntries = []))
    (by decide +kernel)
  obtain ⟨howed,hwritten,hpending⟩ := of_decide_eq_true ht
  have hnone := h (fun _ _ => []) Stamped.empty raisedFlush (List.append_nil _).symm hrun
  rcases hnone _ (by rw [howed]; exact List.mem_singleton_self _) with ⟨hmem,-⟩ | ⟨hmem,-⟩
  · unfold MarketFeed.Written at hmem
    rw [hwritten] at hmem
    cases hmem
  · rw [hpending] at hmem
    cases hmem

end MarketScanner.Providers
