import MarketScanner.Providers.FeedWrites

/-! The reconnect gap fill against the candles of the feed: when a complete bar that the REST history has
stored stays. The aggregator keeps its open bucket across a disconnect. -/
namespace MarketScanner.Providers
open MarketScanner.Library MarketScanner.Python MarketScanner.Market MarketScanner.Universe

namespace MarketFeed
variable {trades : Trades} {s : MarketFeed}

/-- What a flush commits over a bar of a gap fill is built from all the trades of its minute. -/
def KeepsGapFilled (trades : Trades) (s : MarketFeed) : FeedAction → MarketFeed → Prop
  | .flush outcome, _ | .disconnect outcome, _ => outcome.commits = true →
    ∀ item ∈ s.pendingCandles.items, ∀ write ∈ s.cleanCandles item, ∀ bar ∈ write.2,
      (write.1.id,bar.timestamp) ∈ s.gapFilled →
        tradesIn s.ticks item.1 bar.timestamp = trades item.1 bar.timestamp
  | _, _ => True

instance (trades : Trades) (s : MarketFeed) (action : FeedAction) (t : MarketFeed) :
    Decidable (s.KeepsGapFilled trades action t) := by
  cases action <;> unfold KeepsGapFilled <;> infer_instance

/-- A tick that completes the bucket of a gap-filled minute finds all the trades of that minute in it. -/
def CompletesWhole (trades : Trades) (s : MarketFeed) (t : Tick) : Prop :=
  match t.minute, s.aggregation.bucket t.instrumentKey, s.symbolByKey.get? t.instrumentKey with
  | .ok minute, some bucket, some symbol =>
    s.aggregation.aggregator.isDuplicate t = false → bucket.minute ≠ minute →
      (symbol.id,bucket.minute) ∈ s.gapFilled →
        tradesIn s.ticks t.instrumentKey bucket.minute = trades t.instrumentKey bucket.minute
  | _, _, _ => True

instance (trades : Trades) (s : MarketFeed) (t : Tick) : Decidable (s.CompletesWhole trades t) := by
  unfold CompletesWhole
  split <;> infer_instance

def EntryCompletesWhole (trades : Trades) (s : MarketFeed) : FeedEntry → Prop
  | .ltpc t => s.CompletesWhole trades t
  | .other => True

instance (trades : Trades) (s : MarketFeed) (entry : FeedEntry) :
    Decidable (s.EntryCompletesWhole trades entry) := by
  cases entry <;> unfold EntryCompletesWhole <;> infer_instance

/-- Each feed of a message does, where the feeds before it have left the aggregator. -/
def MessageCompletesWhole (trades : Trades) : MarketFeed → List FeedEntry → Prop
  | _, [] => True
  | s, entry::entries => s.EntryCompletesWhole trades entry ∧
    ((s.handleEntry entry).2 = false → MessageCompletesWhole trades (s.handleEntry entry).1 entries)

instance decidableMessageCompletesWhole (trades : Trades) : (s : MarketFeed) →
    (entries : List FeedEntry) → Decidable (MessageCompletesWhole trades s entries)
  | _, [] => isTrue trivial
  | s, entry::entries =>
    let _ := decidableMessageCompletesWhole trades (s.handleEntry entry).1 entries
    inferInstanceAs (Decidable (_ ∧ (_ → _)))

def StepCompletesWhole (trades : Trades) (s : MarketFeed) : FeedAction → MarketFeed → Prop
  | .message entries, _ => s.MessageCompletesWhole trades entries
  | _, _ => True

instance (trades : Trades) (s : MarketFeed) (action : FeedAction) (t : MarketFeed) :
    Decidable (s.StepCompletesWhole trades action t) := by
  cases action <;> unfold StepCompletesWhole <;> infer_instance

/-- What is pending for a gap-filled minute is built from all its trades. -/
def PendingWhole (trades : Trades) (s : MarketFeed) : Prop :=
  ∀ e ∈ s.pendingEntries, ∀ symbol, s.symbolByKey.get? e.1 = some symbol →
    (symbol.id,e.2.timestamp) ∈ s.gapFilled →
      tradesIn s.ticks e.1 e.2.timestamp = trades e.1 e.2.timestamp

end MarketFeed

/-! A completed candle's trades are settled. -/

theorem tradesIn_concat (ticks : List Tick) (t : Tick) (key : String) {minute : DateTime}
    (h : t.minute ≠ .ok minute) : tradesIn (ticks ++ [t]) key minute = tradesIn ticks key minute := by
  have hother : t.minute.toOption ≠ some minute := by
    cases hminute : t.minute with
    | error e => simp [Except.toOption]
    | ok other =>
      intro heq
      rw [hminute] at h
      exact h (congrArg Except.ok (Option.some.inj heq))
  unfold tradesIn
  rw [acceptedOf_concat, List.filter_append]
  split <;> simp [hother]

theorem closed_rollupOf_concat (ticks : List Tick) (t : Tick) (key : String) :
    (rollupOf ticks key).closed ⊆ (rollupOf (ticks ++ [t]) key).closed := by
  rw [rollupOf_concat]
  split
  · unfold Rollup.push
    split
    · exact List.Subset.refl _
    · exact List.subset_append_left _ _
  · exact List.Subset.refl _

/-- Later ticks add nothing to the minute of a completed candle. -/
theorem tradesIn_of_completed {ticks : List Tick} {a : Aggregation} (h : Follows ticks a)
    {key : String} {c : TickCandle} (hc : (key,c) ∈ a.completed) (t : Tick) :
    tradesIn (ticks ++ [t]) key c.timestamp = tradesIn ticks key c.timestamp := by
  have hcandle : c ∈ a.candles key :=
    List.mem_map.mpr ⟨(key,c),List.mem_filter.mpr ⟨hc,decide_eq_true rfl⟩,rfl⟩
  rw [h.candles] at hcandle
  obtain ⟨group,hgroup,u,hu,-,htimestamp⟩ := exists_group hcandle
  rw [htimestamp, group_eq_tradesIn (List.mem_append_left _ hgroup) hu,
    group_eq_tradesIn (List.mem_append_left _ (closed_rollupOf_concat ticks t key hgroup)) hu]

/-- A candle is returned where an accepted tick finds the bucket of another minute open. -/
theorem ingest_some {aggregator : TickAggregator} {t : Tick} {c : TickCandle}
    (h : (aggregator.ingest t).2 = .ok (some c)) :
    aggregator.isDuplicate t = false ∧ ∃ minute bucket, t.minute = .ok minute ∧
      aggregator.buckets.get? t.instrumentKey = some bucket ∧ bucket.minute ≠ minute ∧
        c = bucket.toCandle := by
  unfold TickAggregator.ingest at h
  split at h
  · cases h
  · rename_i hdup
    dsimp only at h
    refine ⟨Bool.eq_false_of_not_eq_true hdup,?_⟩
    split at h
    · cases h
    · rename_i minute hminute
      split at h
      · cases h
      · rename_i bucket hbucket
        split at h
        · rename_i hne
          exact ⟨minute,bucket,hminute,hbucket,hne,(Option.some.inj (Except.ok.inj h)).symm⟩
        · cases h

namespace MarketFeed
variable {trades : Trades} {s : MarketFeed}

/-- One feed of a message leaves what is pending whole. -/
theorem handleEntry_pendingWhole (h : s.Sound) (hwhole : s.PendingWhole trades)
    (entry : FeedEntry) (hentry : s.EntryCompletesWhole trades entry) :
    (s.handleEntry entry).1.PendingWhole trades := by
  cases entry with
  | other => exact hwhole
  | ltpc t =>
    have hold : ∀ e ∈ s.pendingEntries, ∀ symbol, s.symbolByKey.get? e.1 = some symbol →
        (symbol.id,e.2.timestamp) ∈ s.gapFilled →
          tradesIn (s.ticks ++ [t]) e.1 e.2.timestamp = trades e.1 e.2.timestamp := by
      intro e he symbol hsymbol hfilled
      rw [tradesIn_of_completed h.follows (h.accounted.waiting_subset he)]
      exact hwhole e he symbol hsymbol hfilled
    unfold handleEntry
    dsimp only
    split
    · exact hold
    · exact hold
    · rename_i c hc
      obtain ⟨hdup,minute,bucket,hminute,hbucket,hne,rfl⟩ := ingest_some hc
      intro e he symbol hsymbol hfilled
      have hperm := perm_append s.pendingCandles.items t.instrumentKey bucket.toCandle
      rcases List.mem_append.mp (hperm.mem_iff.mp he) with hpending | hnew
      · exact hold e hpending symbol hsymbol hfilled
      · obtain rfl := List.mem_singleton.mp hnew
        have hother : t.minute ≠ .ok bucket.minute := by
          rw [hminute]
          intro heq
          exact hne (Except.ok.inj heq).symm
        change tradesIn (s.ticks ++ [t]) t.instrumentKey bucket.minute =
          trades t.instrumentKey bucket.minute
        rw [tradesIn_concat s.ticks t t.instrumentKey hother]
        have hcompletes : s.CompletesWhole trades t := hentry
        have hbucket : s.aggregation.bucket t.instrumentKey = some bucket := hbucket
        have hsymbol : s.symbolByKey.get? t.instrumentKey = some symbol := hsymbol
        unfold CompletesWhole at hcompletes
        rw [hminute, hbucket, hsymbol] at hcompletes
        exact hcompletes hdup hne hfilled

theorem handleMessage_pendingWhole (h : s.Sound) (hphase : s.phase = .streaming)
    (hwhole : s.PendingWhole trades) (entries : List FeedEntry)
    (hentries : s.MessageCompletesWhole trades entries) :
    (s.handleMessage entries).1.PendingWhole trades := by
  induction entries generalizing s with
  | nil => exact hwhole
  | cons entry entries ih =>
    obtain ⟨hentry,hrest⟩ := hentries
    obtain ⟨hsound,-,hstreaming⟩ := handleEntry_sound h hphase entry
    have hafter := handleEntry_pendingWhole h hwhole entry hentry
    rw [handleMessage]
    split
    · rename_i after heq
      rw [heq] at hafter
      exact hafter
    · rename_i after heq
      rw [heq] at hafter hsound hstreaming hrest
      exact ih hsound hstreaming hafter (hrest rfl)

/-- What is whole while it is pending keeps the gap-filled bars as it is written. -/
theorem keepsGapFilled_of_pendingWhole (hwhole : s.PendingWhole trades) (action : FeedAction)
    (t : MarketFeed) : s.KeepsGapFilled trades action t := by
  have hflush : ∀ item ∈ s.pendingCandles.items, ∀ write ∈ s.cleanCandles item, ∀ bar ∈ write.2,
      (write.1.id,bar.timestamp) ∈ s.gapFilled →
        tradesIn s.ticks item.1 bar.timestamp = trades item.1 bar.timestamp := by
    intro item hitem write hwrite bar hbar hfilled
    obtain ⟨symbol,hsymbol,rfl⟩ := Option.map_eq_some_iff.mp hwrite
    obtain ⟨c,hc,rfl⟩ := List.mem_map.mp (DataValidator.mem_of_mem_validateCandles hbar)
    have hpending : (item.1,c) ∈ s.pendingEntries := mem_pendingEntries.mpr ⟨item,hitem,rfl,hc⟩
    exact hwhole (item.1,c) hpending symbol hsymbol hfilled
  cases action with
  | flush outcome => exact fun _ => hflush
  | disconnect outcome => exact fun _ => hflush
  | connect symbols accepted => trivial
  | gapFill replies timedOut asOf published => trivial
  | message entries => trivial

theorem step_pendingWhole {t : MarketFeed} {action : FeedAction} (h : s.Sound)
    (hwhole : s.PendingWhole trades) (hmessage : s.StepCompletesWhole trades action t)
    (hstep : s.step trades action = some t) : t.PendingWhole trades := by
  rcases MarketFeed.step_cases hstep with
    ⟨symbols,accepted,rfl,hphase,rfl | ⟨phase,rfl⟩⟩ |
    ⟨replies,timedOut,asOf,published,rfl,hconnected,phase,events,-,rfl⟩ |
    ⟨entries,phase,rfl,hstreaming,-,rfl⟩ | ⟨outcome,phase,-,rfl⟩
  · exact hwhole
  · intro e he
    have he : e ∈ s.pendingEntries := he
    rw [pendingEntries, h.settled (Or.inl hphase)] at he
    cases he
  · intro e he
    have he : e ∈ s.pendingEntries := he
    rw [pendingEntries, h.settled (Or.inr hconnected)] at he
    cases he
  · exact handleMessage_pendingWhole h hstreaming hwhole entries hmessage
  · obtain ⟨prices,candlesFlushed,events,heq⟩ := flush_eq s outcome
    rw [heq]
    intro e he
    exact absurd he List.not_mem_nil

end MarketFeed

/-- In a run in which no tick completes a gap-filled minute's bucket short of a trade, no flush puts
anything less than the whole minute over a gap-filled bar. -/
theorem gapFilled_kept (trades : Trades) (prices : IntradayPrices) (actions : List FeedAction)
    (h : (feedMachine trades).Steps (MarketFeed.StepCompletesWhole trades) (feedStart prices)
      actions) :
    (feedMachine trades).Steps (MarketFeed.KeepsGapFilled trades) (feedStart prices) actions := by
  refine Machine.Steps.imp (I := fun s : MarketFeed => s.Sound ∧ s.PendingWhole trades) ?_ ?_ h
    ⟨MarketFeed.sound_start prices,fun _ he => absurd he List.not_mem_nil⟩
  · intro s action t hs hmessage hstep
    exact ⟨(MarketFeed.step_sound hs.1 hstep).1,
      MarketFeed.step_pendingWhole hs.1 hs.2 hmessage hstep⟩
  · intro s action t hs hmessage hstep
    exact MarketFeed.keepsGapFilled_of_pendingWhole hs.2 action t

/-- One instrument's trades around 09:15 and 09:16 in Mumbai: two in the first minute, one in the
second. -/
def openingTrades : Trades := fun key minute =>
  [⟨key,1500,1767584710000,10⟩,⟨key,1490,1767584740000,5⟩,⟨key,1495,1767584775000,20⟩].filter fun t =>
    decide (t.minute.toOption = some minute)

def listedSymbol : Row SymbolRow :=
  ⟨1,⟨"RELIANCE","NSE","NSE_EQ|INE002A01018",none,none,none,none,true⟩⟩

/-- The bar of both trades of the first minute. -/
def openingBar : ProviderCandle :=
  ⟨⟨1767584700000000,19800000000⟩,some (.finite 1500),some (.finite 1500),some (.finite 1490),
    some (.finite 1490),some (.finite 15),none⟩

/-- The connection drops when the first minute has had all its trades: the gap fill stores its bar, and the
first tick of the second minute completes the bucket that holds them all. -/
def dropAfterMinute : List FeedAction :=
  [.connect [listedSymbol] true,.gapFill [] false ⟨0,0⟩ true,
    .message [.ltpc ⟨"NSE_EQ|INE002A01018",1500,1767584710000,10⟩],
    .message [.ltpc ⟨"NSE_EQ|INE002A01018",1490,1767584740000,5⟩],
    .disconnect (.committed ⟨0,0⟩ true),
    .connect [listedSymbol] true,.gapFill [(listedSymbol,[openingBar])] false ⟨0,0⟩ true,
    .message [.ltpc ⟨"NSE_EQ|INE002A01018",1495,1767584775000,20⟩],
    .flush (.committed ⟨0,0⟩ true)]

theorem gapFilled_kept_dropAfterMinute :
    (∃ t, (feedMachine openingTrades).Run (feedStart Stamped.empty) dropAfterMinute t ∧
      t.gapFilled = [(1,⟨1767584700000000,0⟩)] ∧ t.candlesFlushed = 1) ∧
    (feedMachine openingTrades).Steps (MarketFeed.KeepsGapFilled openingTrades)
      (feedStart Stamped.empty) dropAfterMinute := by
  constructor
  · obtain ⟨t,hrun,ht⟩ := (feedMachine openingTrades).exists_run_of_exec (feedStart Stamped.empty)
      dropAfterMinute (fun s => decide (s.gapFilled = [(1,⟨1767584700000000,0⟩)] ∧ s.candlesFlushed = 1))
      (by decide +kernel)
    exact ⟨t,hrun,of_decide_eq_true ht⟩
  · exact gapFilled_kept openingTrades Stamped.empty dropAfterMinute
      (Machine.steps_of_check (by decide +kernel))

/-- The connection drops after the first trade of a minute and is back in the next: the gap fill stores
the whole bar, then the first tick completes the bucket that was open all along, and the flush writes the
candle of one trade over the bar of two. -/
def dropAmidMinute : List FeedAction :=
  [.connect [listedSymbol] true,.gapFill [] false ⟨0,0⟩ true,
    .message [.ltpc ⟨"NSE_EQ|INE002A01018",1500,1767584710000,10⟩],
    .disconnect (.committed ⟨0,0⟩ true),
    .connect [listedSymbol] true,.gapFill [(listedSymbol,[openingBar])] false ⟨0,0⟩ true,
    .message [.ltpc ⟨"NSE_EQ|INE002A01018",1495,1767584775000,20⟩],
    .flush (.committed ⟨0,0⟩ true)]

theorem dropAmidMinute_degrades :
    ¬ ∀ (trades : Trades) (prices : IntradayPrices) (actions : List FeedAction),
      (feedMachine trades).Steps (MarketFeed.KeepsGapFilled trades) (feedStart prices) actions := by
  intro h
  have hcheck := (h openingTrades Stamped.empty dropAmidMinute).check
  revert hcheck
  decide +kernel

end MarketScanner.Providers
