import MarketScanner.Library.Transition
import MarketScanner.Market.Intraday
import MarketScanner.Pipeline.Queue
import MarketScanner.Providers.TickExactness
import MarketScanner.Universe.SymbolMaster

/-! `UpstoxMarketFeed`: connection cycles over one aggregator. Completed candles wait in memory until a
flush takes them out and writes them; each connection begins with a REST gap fill. -/
namespace MarketScanner.Providers
open MarketScanner.Library MarketScanner.Python MarketScanner.Market MarketScanner.Universe
open MarketScanner.Pipeline

def TickCandle.toProvider (c : TickCandle) : ProviderCandle :=
  ⟨c.timestamp,some (.finite c.openPrice),some (.finite c.high),some (.finite c.low),
    some (.finite c.close),some (.finite c.volume),none⟩

/-- A feed of a response: an LTPC message, or one that is skipped. -/
inductive FeedEntry
  | ltpc (t : Tick)
  | other

/-- Where `_connect_and_stream` stands: not running, before the gap fill, in the receive loop, or on the
way out with an exception. -/
inductive FeedPhase
  | idle | connected | streaming | closing
  deriving DecidableEq

/-- How a flush with something to write ends: the write raises or is cancelled and is rolled back, or it
is committed, and then its event is published unless that raises. -/
inductive FlushOutcome
  | raised
  | committed (asOf : DateTime) (published : Bool)

def FlushOutcome.commits : FlushOutcome → Bool
  | .raised => false
  | .committed _ _ => true

/-- The candles completed for an instrument, under its key. -/
abbrev PendingCandles := Assoc String (List TickCandle)

/-- `self._pending_candles.setdefault(key, []).append(candle)` -/
def PendingCandles.append (pending : PendingCandles) (key : String) (candle : TickCandle) :
    PendingCandles :=
  pending.set key ((pending.get? key).getD [] ++ [candle])

/-- The feed and the table it writes. The last four fields are history: the ticks fed to the aggregator,
the candles it returned for instruments subscribed at the time, those in committed writes, and the
symbols and minutes of the complete bars that gap fills have stored. -/
structure MarketFeed where
  prices : IntradayPrices
  phase : FeedPhase := .idle
  aggregation : Aggregation := {}
  pendingCandles : PendingCandles := Assoc.empty
  currentSymbols : List (Row SymbolRow) := []
  candlesFlushed : ℕ := 0
  events : List PipelineEvent := []
  ticks : List Tick := []
  owed : List (String × TickCandle) := []
  written : List (String × ProviderCandle) := []
  gapFilled : List (ℕ × DateTime) := []

namespace MarketFeed

/-- `{s.instrument_token: s for s in self._current_symbols}` -/
def symbolByKey (s : MarketFeed) : Assoc String (Row SymbolRow) :=
  s.currentSymbols.foldl (fun d symbol => d.set symbol.val.instrumentToken symbol) Assoc.empty

/-- One feed of a response, and whether it raises. -/
def handleEntry (s : MarketFeed) : FeedEntry → MarketFeed × Bool
  | .other => (s,false)
  | .ltpc t =>
    let fed := { s with
      aggregation := s.aggregation.ingest t
      ticks := s.ticks ++ [t] }
    match (s.aggregation.aggregator.ingest t).2 with
    | .error _ => (fed,true)
    | .ok none => (fed,false)
    | .ok (some candle) =>
      ({ fed with
        pendingCandles := s.pendingCandles.append t.instrumentKey candle
        owed := if (s.symbolByKey.get? t.instrumentKey).isSome then
          s.owed ++ [(t.instrumentKey,candle)] else s.owed },false)

/-- `_handle_message`; a frame that does not parse has no feeds. -/
def handleMessage : MarketFeed → List FeedEntry → MarketFeed × Bool
  | s, [] => (s,false)
  | s, entry::entries =>
    match s.handleEntry entry with
    | (s,true) => (s,true)
    | (s,false) => handleMessage s entries

/-- What a flush writes for one instrument; nothing for one that is not subscribed. -/
def cleanCandles (s : MarketFeed) (item : String × List TickCandle) :
    Option (Row SymbolRow × List ProviderCandle) :=
  (s.symbolByKey.get? item.1).map fun symbol =>
    (symbol,DataValidator.validateCandles (item.2.map TickCandle.toProvider))

def cleanWrites (s : MarketFeed) : List (Row SymbolRow × List ProviderCandle) :=
  s.pendingCandles.items.filterMap s.cleanCandles

def writeAll (t : IntradayPrices) (writes : List (Row SymbolRow × List ProviderCandle)) :
    IntradayPrices :=
  writes.foldl (fun t write => PriceRepository.upsertIntradayMany t write.1.id write.2) t

/-- The candles of a flush, under the instruments they are of. -/
def writtenBy (s : MarketFeed) : List (String × ProviderCandle) :=
  s.pendingCandles.items.flatMap fun item =>
    ((s.cleanCandles item).map Prod.snd).getD [] |>.map fun c => (item.1,c)

/-- `_flush`, and whether it raises. The pending candles are taken out before anything is written. -/
def flush (s : MarketFeed) (outcome : FlushOutcome) : MarketFeed × Bool :=
  if s.pendingCandles.items.isEmpty then (s,false)
  else match outcome with
    | .raised => ({ s with pendingCandles := Assoc.empty },true)
    | .committed asOf published =>
      let writes := s.cleanWrites
      let count := (writes.map fun write => write.2.length).sum
      let stored := { s with
        pendingCandles := Assoc.empty
        prices := writeAll s.prices writes
        written := s.written ++ s.writtenBy }
      if count = 0 then (stored,false)
      else ({ stored with
        candlesFlushed := s.candlesFlushed+count
        events := if published then
          s.events ++ [⟨"intraday_ws",s.pendingCandles.items.length,asOf⟩] else s.events },!published)

end MarketFeed

/-- The trades of each instrument in each minute, as the market has them. -/
abbrev Trades := String → DateTime → List Tick

/-- The bar is that of all the trades of its minute. -/
def isWhole (trades : Trades) (key : String) (bar : ProviderCandle) : Bool :=
  match bucketOf (trades key (bar.timestamp.astimezone 0)) with
  | none => false
  | some bucket => decide (bar.openPrice = some (.finite bucket.openPrice) ∧
      bar.high = some (.finite bucket.high) ∧ bar.low = some (.finite bucket.low) ∧
      bar.close = some (.finite bucket.close) ∧ bar.volume = some (.finite bucket.volume))

/-- The symbols whose candles a gap fill got from the provider and stored, and those candles. -/
abbrev GapFill := List (Row SymbolRow × List ProviderCandle)

def GapFill.clean (replies : GapFill) : GapFill :=
  replies.map fun reply => (reply.1,DataValidator.validateCandles reply.2)

/-- The complete bars among what a gap fill stores. -/
def GapFill.whole (trades : Trades) (replies : GapFill) : List (ℕ × DateTime) :=
  replies.clean.flatMap fun reply =>
    (reply.2.filter (isWhole trades reply.1.val.instrumentToken)).map fun bar =>
      (reply.1.id,bar.timestamp.astimezone 0)

inductive FeedAction
  | connect (symbols : List (Row SymbolRow)) (accepted : Bool)
  | gapFill (replies : GapFill) (timedOut : Bool) (asOf : DateTime) (published : Bool)
  | message (entries : List FeedEntry)
  | flush (outcome : FlushOutcome)
  | disconnect (outcome : FlushOutcome)

namespace MarketFeed

/-- `collect_intraday` for the subscribed symbols, and the event about it. Where it times out, what it had
stored by then stays. -/
def fillGap (trades : Trades) (s : MarketFeed) (replies : GapFill) (timedOut : Bool) (asOf : DateTime)
    (published : Bool) : MarketFeed :=
  let filled := { s with
    phase := .streaming
    prices := writeAll s.prices replies.clean
    gapFilled := s.gapFilled ++ replies.whole trades }
  if timedOut ∨ replies.isEmpty then filled
  else if published then { filled with events := s.events ++ [⟨"intraday",replies.length,asOf⟩] }
  else { filled with phase := .closing }

/-- One step of `run_forever`. An exception leaves the receive loop; the way out is a last flush. -/
def step (trades : Trades) (s : MarketFeed) : FeedAction → Option MarketFeed
  | .connect symbols accepted =>
    if s.phase ≠ .idle then none
    else if symbols.isEmpty then some s
    else some { s with
      currentSymbols := symbols
      phase := if accepted then .connected else .idle }
  | .gapFill replies timedOut asOf published =>
    if s.phase ≠ .connected then none
    else some (s.fillGap trades replies timedOut asOf published)
  | .message entries =>
    if s.phase ≠ .streaming then none
    else match s.handleMessage entries with
      | (s,raised) => some { s with phase := if raised then .closing else .streaming }
  | .flush outcome =>
    if s.phase ≠ .streaming then none
    else match s.flush outcome with
      | (s,raised) => some { s with phase := if raised then .closing else .streaming }
  | .disconnect outcome =>
    if s.phase = .idle then none
    else some { (s.flush outcome).1 with phase := .idle }

theorem fillGap_eq (trades : Trades) (s : MarketFeed) (replies : GapFill) (timedOut : Bool)
    (asOf : DateTime) (published : Bool) :
    ∃ phase events, (phase = .streaming ∨ phase = .closing) ∧
      s.fillGap trades replies timedOut asOf published = { s with
        phase, events
        prices := writeAll s.prices replies.clean
        gapFilled := s.gapFilled ++ replies.whole trades } := by
  unfold fillGap
  dsimp only
  split
  · exact ⟨_,_,Or.inl rfl,rfl⟩
  · split
    · exact ⟨_,_,Or.inl rfl,rfl⟩
    · exact ⟨_,_,Or.inr rfl,rfl⟩

/-- What a step does, by its action. -/
theorem step_cases {trades : Trades} {s t : MarketFeed} {action : FeedAction}
    (h : s.step trades action = some t) :
    (∃ symbols accepted, action = .connect symbols accepted ∧ s.phase = .idle ∧
      (t = s ∨ ∃ phase, t = { s with currentSymbols := symbols, phase })) ∨
    (∃ replies timedOut asOf published, action = .gapFill replies timedOut asOf published ∧
      s.phase = .connected ∧ ∃ phase events, (phase = .streaming ∨ phase = .closing) ∧ t = { s with
        phase, events
        prices := writeAll s.prices replies.clean
        gapFilled := s.gapFilled ++ replies.whole trades }) ∨
    (∃ entries phase, action = .message entries ∧ s.phase = .streaming ∧
      (phase = .streaming ∨ phase = .closing) ∧ t = { (s.handleMessage entries).1 with phase }) ∨
    ∃ outcome phase, (action = .flush outcome ∨ action = .disconnect outcome) ∧
      t = { (s.flush outcome).1 with phase } := by
  cases action with
  | connect symbols accepted =>
    left
    simp only [step] at h
    split at h
    · cases h
    · rename_i hphase
      refine ⟨symbols,accepted,rfl,not_not.mp hphase,?_⟩
      split at h
      · exact Or.inl (Option.some.inj h).symm
      · exact Or.inr ⟨_,(Option.some.inj h).symm⟩
  | gapFill replies timedOut asOf published =>
    right; left
    simp only [step] at h
    split at h
    · cases h
    · rename_i hphase
      obtain ⟨phase,events,hphase',heq⟩ := fillGap_eq trades s replies timedOut asOf published
      refine ⟨replies,timedOut,asOf,published,rfl,not_not.mp hphase,phase,events,hphase',?_⟩
      exact (Option.some.inj h).symm.trans heq
  | message entries =>
    right; right; left
    simp only [step] at h
    split at h
    · cases h
    · rename_i hphase
      refine ⟨entries,_,rfl,not_not.mp hphase,?_,(Option.some.inj h).symm⟩
      cases (s.handleMessage entries).2
      · exact Or.inl rfl
      · exact Or.inr rfl
  | flush outcome =>
    right; right; right
    simp only [step] at h
    split at h
    · cases h
    · exact ⟨outcome,_,Or.inl rfl,(Option.some.inj h).symm⟩
  | disconnect outcome =>
    right; right; right
    simp only [step] at h
    split at h
    · cases h
    · exact ⟨outcome,_,Or.inr rfl,(Option.some.inj h).symm⟩

end MarketFeed

def feedMachine (trades : Trades) : Machine MarketFeed FeedAction := ⟨MarketFeed.step trades⟩

/-- A feed as it is constructed, over the prices stored so far. -/
def feedStart (prices : IntradayPrices) : MarketFeed := { prices }

end MarketScanner.Providers
