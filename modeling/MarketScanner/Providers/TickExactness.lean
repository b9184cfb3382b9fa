import Mathlib.Algebra.BigOperators.Group.List.Basic
import Mathlib.Data.Int.ConditionallyCompleteOrder
import MarketScanner.Library.Rollup
import MarketScanner.Providers.TickAggregator

/-! What the candles of a stream of ticks say about its trades: the open bucket and the completed
candles of an instrument are the groups into which its accepted ticks roll up by minute. -/
namespace MarketScanner.Providers
open MarketScanner.Library MarketScanner.Python

/-- Later than every tick of the same instrument before. -/
def isFresh (before : List Tick) (t : Tick) : Bool :=
  before.all fun u => decide (u.instrumentKey ≠ t.instrumentKey) || decide (u.lttMs < t.lttMs)

def acceptedAfter (before : List Tick) : List Tick → List Tick
  | [] => []
  | t::ticks =>
    if isFresh before t then t::acceptedAfter (before ++ [t]) ticks
    else acceptedAfter (before ++ [t]) ticks

def accepted (ticks : List Tick) : List Tick := acceptedAfter [] ticks

/-- The accepted ticks of an instrument. -/
def acceptedOf (ticks : List Tick) (key : String) : List Tick :=
  (accepted ticks).filter fun t => decide (t.instrumentKey = key)

/-- The trade time is one that a `datetime` can hold. -/
def Tick.datable (t : Tick) : Bool :=
  decide (minTimestampMs ≤ t.lttMs ∧ t.lttMs ≤ maxTimestampMs)

/-- The accepted ticks of an instrument in a minute. -/
def tradesIn (ticks : List Tick) (key : String) (minute : DateTime) : List Tick :=
  (acceptedOf ticks key).filter fun t => decide (t.minute.toOption = some minute)

def totalQuantity (ticks : List Tick) : ℤ := (ticks.map Tick.ltq).sum

/-- The candle of the given trades, in the order of trading. -/
structure TickCandle.Of (candle : TickCandle) (trades : List Tick) : Prop where
  opens : trades.head?.map Tick.ltp = some candle.openPrice
  closes : trades.getLast?.map Tick.ltp = some candle.close
  highest : (∃ t ∈ trades, t.ltp = candle.high) ∧ ∀ t ∈ trades, t.ltp ≤ candle.high
  lowest : (∃ t ∈ trades, t.ltp = candle.low) ∧ ∀ t ∈ trades, candle.low ≤ t.ltp
  volume : candle.volume = totalQuantity trades

/-- Tick aggregation is exact over a stream of ticks. -/
structure ExactlyAggregated (ticks : List Tick) : Prop where
  increasing : ∀ key, ((Aggregation.ingestAll ticks).candles key).Pairwise
    fun c d => c.timestamp < d.timestamp
  candles : ∀ key, ∀ c ∈ (Aggregation.ingestAll ticks).candles key,
    c.Of (tradesIn ticks key c.timestamp) ∧
      c.low ≤ c.openPrice ∧ c.low ≤ c.close ∧ c.openPrice ≤ c.high ∧ c.close ≤ c.high
  conserved : ∀ key, (((Aggregation.ingestAll ticks).candles key).map TickCandle.volume).sum +
    (((Aggregation.ingestAll ticks).bucket key).map OpenBucket.volume).getD 0 =
      totalQuantity (acceptedOf ticks key)
  counted : (Aggregation.ingestAll ticks).aggregator.ticksProcessed = (accepted ticks).length ∧
    (Aggregation.ingestAll ticks).aggregator.ticksProcessed +
      (Aggregation.ingestAll ticks).aggregator.duplicatesDropped = ticks.length
  framed : ∀ pre t post, ticks = pre ++ t::post → ∀ key, key ≠ t.instrumentKey →
    (Aggregation.ingestAll (pre ++ [t])).bucket key = (Aggregation.ingestAll pre).bucket key ∧
      (Aggregation.ingestAll (pre ++ [t])).candles key = (Aggregation.ingestAll pre).candles key

/-! What one tick does. -/
section Step

/-- The bucket after a tick of the given minute. -/
def nextBucket (bucket : Option OpenBucket) (minute : DateTime) (t : Tick) : OpenBucket :=
  match bucket with
  | none => OpenBucket.first minute t
  | some bucket => if bucket.minute = minute then bucket.add t else OpenBucket.first minute t

/-- The candle that a tick of the given minute completes. -/
def closedBy (bucket : Option OpenBucket) (minute : DateTime) : List TickCandle :=
  match bucket with
  | none => []
  | some bucket => if bucket.minute = minute then [] else [bucket.toCandle]

variable (s : Aggregation) (t : Tick) (key : String)

theorem ingest_of_duplicate (h : s.aggregator.isDuplicate t = true) :
    s.ingest t = ⟨{ s.aggregator with
      duplicatesDropped := s.aggregator.duplicatesDropped+1 },s.completed⟩ := by
  simp only [Aggregation.ingest, TickAggregator.ingest, if_pos h]

/-- A tick whose time no `datetime` holds is counted and remembered, and then lost. -/
theorem ingest_of_error {e : PyException} (h : s.aggregator.isDuplicate t = false)
    (hminute : t.minute = .error e) :
    s.ingest t = ⟨{ s.aggregator with
      lastLttMs := s.aggregator.lastLttMs.set t.instrumentKey t.lttMs
      ticksProcessed := s.aggregator.ticksProcessed+1 },s.completed⟩ := by
  simp only [Aggregation.ingest, TickAggregator.ingest, h, Bool.false_eq_true, if_false, hminute]

theorem ingest_of_ok {minute : DateTime} (h : s.aggregator.isDuplicate t = false)
    (hminute : t.minute = .ok minute) :
    s.ingest t = ⟨{ s.aggregator with
      buckets := s.aggregator.buckets.set t.instrumentKey
        (nextBucket (s.bucket t.instrumentKey) minute t)
      lastLttMs := s.aggregator.lastLttMs.set t.instrumentKey t.lttMs
      ticksProcessed := s.aggregator.ticksProcessed+1 },
      s.completed ++ (closedBy (s.bucket t.instrumentKey) minute).map fun c =>
        (t.instrumentKey,c)⟩ := by
  simp only [Aggregation.ingest, TickAggregator.ingest, h, Bool.false_eq_true, if_false, hminute,
    Aggregation.bucket]
  cases s.aggregator.buckets.get? t.instrumentKey with
  | none => simp [nextBucket, closedBy]
  | some bucket =>
    by_cases hsame : bucket.minute = minute <;> simp [nextBucket, closedBy, hsame]

/-- Another instrument keeps its bucket and its candles. -/
theorem ingest_frame (h : key ≠ t.instrumentKey) :
    (s.ingest t).bucket key = s.bucket key ∧ (s.ingest t).candles key = s.candles key := by
  cases hdup : s.aggregator.isDuplicate t with
  | true =>
    rw [ingest_of_duplicate s t hdup]
    exact ⟨rfl,rfl⟩
  | false =>
    cases hminute : t.minute with
    | error e =>
      rw [ingest_of_error s t hdup hminute]
      exact ⟨rfl,rfl⟩
    | ok minute =>
      rw [ingest_of_ok s t hdup hminute]
      constructor
      · exact (Assoc.get?_set _ _ _ _).trans (if_neg h)
      · unfold Aggregation.candles
        have hnone : ((closedBy (s.bucket t.instrumentKey) minute).map fun c =>
            (t.instrumentKey,c)).filter (fun entry => decide (entry.1 = key)) = [] := by
          rw [List.filter_eq_nil_iff]
          rintro entry hentry
          obtain ⟨c,-,rfl⟩ := List.mem_map.mp hentry
          simpa using h.symm
        rw [List.filter_append, hnone, List.append_nil]

end Step

/-! Accepted ticks. -/

theorem isFresh_iff {before : List Tick} {t : Tick} :
    isFresh before t = true ↔
      ∀ u ∈ before, u.instrumentKey = t.instrumentKey → u.lttMs < t.lttMs := by
  simp [isFresh, imp_iff_not_or]

theorem acceptedAfter_concat (before ticks : List Tick) (t : Tick) :
    acceptedAfter before (ticks ++ [t]) =
      acceptedAfter before ticks ++ if isFresh (before ++ ticks) t then [t] else [] := by
  induction ticks generalizing before with
  | nil =>
    rw [List.append_nil]
    cases h : isFresh before t <;> simp [acceptedAfter, h]
  | cons u ticks ih =>
    rw [List.cons_append, acceptedAfter, acceptedAfter, ih, List.append_assoc, List.singleton_append]
    split
    · rfl
    · rfl

theorem accepted_concat (ticks : List Tick) (t : Tick) :
    accepted (ticks ++ [t]) = accepted ticks ++ if isFresh ticks t then [t] else [] :=
  acceptedAfter_concat [] ticks t

theorem acceptedOf_concat (ticks : List Tick) (t : Tick) (key : String) :
    acceptedOf (ticks ++ [t]) key =
      acceptedOf ticks key ++ if isFresh ticks t ∧ t.instrumentKey = key then [t] else [] := by
  unfold acceptedOf
  rw [accepted_concat, List.filter_append]
  by_cases hfresh : isFresh ticks t = true <;> by_cases hkey : t.instrumentKey = key <;>
    simp [hfresh, hkey]

theorem mem_of_mem_accepted {ticks : List Tick} {t : Tick} (h : t ∈ accepted ticks) :
    t ∈ ticks := by
  induction ticks using List.reverseRecOn with
  | nil => cases h
  | append_singleton ticks u ih =>
    rw [accepted_concat] at h
    rcases List.mem_append.mp h with hold | hnew
    · exact List.mem_append_left _ (ih hold)
    · split at hnew
      · exact List.mem_append_right _ hnew
      · cases hnew

/-- The trade times of an instrument's accepted ticks increase. -/
theorem acceptedOf_increasing (ticks : List Tick) (key : String) :
    (acceptedOf ticks key).Pairwise fun t u => t.lttMs < u.lttMs := by
  induction ticks using List.reverseRecOn with
  | nil => exact List.Pairwise.nil
  | append_singleton ticks u ih =>
    rw [acceptedOf_concat]
    split
    · rename_i h
      obtain ⟨hfresh,hkey⟩ := h
      refine List.pairwise_append.mpr ⟨ih,List.pairwise_singleton _ _,?_⟩
      intro t ht v hv
      obtain rfl := List.mem_singleton.mp hv
      obtain ⟨hmem,htkey⟩ := List.mem_filter.mp ht
      exact isFresh_iff.mp hfresh t (mem_of_mem_accepted hmem)
        ((of_decide_eq_true htkey).trans hkey.symm)
    · simpa using ih

/-! The groups of an instrument's accepted ticks, by the minute. -/

/-- The start of a tick's minute, in UTC. -/
def Tick.minuteUtc (t : Tick) : ℤ := t.lttMs*1000 / 60000000 * 60000000

theorem Tick.minute_eq (t : Tick) :
    t.minute = if t.datable then .ok ⟨t.minuteUtc,0⟩
      else .error (.valueError s!"year {(DateTime.date ⟨t.lttMs*1000,0⟩).year} is out of range") := by
  unfold Tick.minute fromTimestampMs Tick.datable
  by_cases h : minTimestampMs ≤ t.lttMs ∧ t.lttMs ≤ maxTimestampMs
  · simp only [if_pos h, decide_eq_true h, if_true]
    rfl
  · simp only [if_neg h, decide_eq_false h, Bool.false_eq_true, if_false]

def datedOf (ticks : List Tick) (key : String) : List Tick :=
  (acceptedOf ticks key).filter Tick.datable

def rollupOf (ticks : List Tick) (key : String) : Rollup Tick :=
  Rollup.ofList Tick.minuteUtc (datedOf ticks key)

def bucketOf : List Tick → Option OpenBucket
  | [] => none
  | t::group => some (group.foldl OpenBucket.add (OpenBucket.first ⟨t.minuteUtc,0⟩ t))

def candleOf (group : List Tick) : Option TickCandle := (bucketOf group).map OpenBucket.toCandle

theorem sorted_rollupOf (ticks : List Tick) (key : String) :
    Rollup.Sorted Tick.minuteUtc (rollupOf ticks key) := by
  apply Rollup.sorted_ofList
  refine ((acceptedOf_increasing ticks key).filter _).imp ?_
  intro t u htu
  unfold Tick.minuteUtc
  omega

theorem minute_foldl_add (group : List Tick) (bucket : OpenBucket) :
    (group.foldl OpenBucket.add bucket).minute = bucket.minute := by
  induction group generalizing bucket with
  | nil => rfl
  | cons t group ih => exact ih (bucket.add t)

theorem bucketOf_concat (group : List Tick) (t : Tick) :
    bucketOf (group ++ [t]) =
      some (match bucketOf group with
        | none => OpenBucket.first ⟨t.minuteUtc,0⟩ t
        | some bucket => bucket.add t) := by
  cases group with
  | nil => rfl
  | cons u group =>
    rw [List.cons_append, bucketOf, bucketOf, List.foldl_append]
    rfl

/-- One more dated tick moves the bucket and the candles as it moves the groups. -/
theorem rollup_push {r : Rollup Tick} (h : Rollup.Sorted Tick.minuteUtc r) (t : Tick) :
    bucketOf (r.push Tick.minuteUtc t).current =
        some (nextBucket (bucketOf r.current) ⟨t.minuteUtc,0⟩ t) ∧
      (r.push Tick.minuteUtc t).closed.filterMap candleOf =
        r.closed.filterMap candleOf ++ closedBy (bucketOf r.current) ⟨t.minuteUtc,0⟩ := by
  cases hcurrent : r.current with
  | nil =>
    have hpush : r.push Tick.minuteUtc t = ⟨r.closed,[t]⟩ := by simp [Rollup.push, hcurrent]
    rw [hpush]
    exact ⟨rfl,(List.append_nil _).symm⟩
  | cons u rest =>
    have huniform : ∀ y ∈ u::rest, y.minuteUtc = u.minuteUtc := by
      intro y hy
      rw [← hcurrent] at hy
      refine h.uniform r.current (List.mem_append_right _ (List.mem_singleton_self _)) y hy u ?_
      rw [hcurrent]
      exact List.mem_cons_self
    have hbucket : (bucketOf (u::rest)).map OpenBucket.minute = some ⟨u.minuteUtc,0⟩ :=
      congrArg some (minute_foldl_add rest _)
    by_cases hsame : u.minuteUtc = t.minuteUtc
    · have hpush : r.push Tick.minuteUtc t = ⟨r.closed,(u::rest) ++ [t]⟩ := by
        unfold Rollup.push
        rw [hcurrent, if_pos fun y hy => (huniform y hy).trans hsame]
      rw [hpush, bucketOf_concat]
      cases hb : bucketOf (u::rest) with
      | none => cases hb
      | some bucket =>
        rw [hb] at hbucket
        have hminute : bucket.minute = ⟨t.minuteUtc,0⟩ := by
          rw [← hsame]
          exact Option.some.inj hbucket
        simp [nextBucket, closedBy, hminute]
    · have hpush : r.push Tick.minuteUtc t = ⟨r.closed ++ [u::rest],[t]⟩ := by
        unfold Rollup.push
        rw [hcurrent, if_neg fun hall => hsame (hall u List.mem_cons_self)]
      rw [hpush, List.filterMap_append]
      cases hb : bucketOf (u::rest) with
      | none => cases hb
      | some bucket =>
        rw [hb] at hbucket
        have hminute : bucket.minute ≠ ⟨t.minuteUtc,0⟩ := by
          rw [Option.some.inj hbucket]
          intro heq
          exact hsame (DateTime.mk.inj heq).1
        have hcandle : candleOf (u::rest) = some bucket.toCandle := congrArg (Option.map _) hb
        simp only [List.filterMap_cons, hcandle, List.filterMap_nil]
        simp [nextBucket, closedBy, hminute, bucketOf]

/-- Where an aggregation stands after the given ticks. -/
structure Follows (ticks : List Tick) (s : Aggregation) : Prop where
  last : ∀ t : Tick, s.aggregator.isDuplicate t = !isFresh ticks t
  bucket : ∀ key, s.bucket key = bucketOf (rollupOf ticks key).current
  candles : ∀ key, s.candles key = (rollupOf ticks key).closed.filterMap candleOf
  processed : s.aggregator.ticksProcessed = (accepted ticks).length
  total : s.aggregator.ticksProcessed+s.aggregator.duplicatesDropped = ticks.length

theorem follows_nil : Follows [] {} where
  last := fun _ => rfl
  bucket := fun _ => rfl
  candles := fun _ => rfl
  processed := rfl
  total := rfl

/-- A tick of another instrument, a late one, or one that no `datetime` dates leaves the groups. -/
theorem rollupOf_concat (ticks : List Tick) (t : Tick) (key : String) :
    rollupOf (ticks ++ [t]) key =
      if isFresh ticks t = true ∧ t.instrumentKey = key ∧ t.datable = true then
        (rollupOf ticks key).push Tick.minuteUtc t
      else rollupOf ticks key := by
  unfold rollupOf datedOf
  rw [acceptedOf_concat, List.filter_append]
  by_cases hnew : isFresh ticks t = true ∧ t.instrumentKey = key
  · rw [if_pos hnew]
    cases hdated : t.datable with
    | true => simp [hnew, hdated, Rollup.ofList_concat]
    | false => simp [hdated]
  · rw [if_neg hnew, if_neg fun h => hnew ⟨h.1,h.2.1⟩, List.filter_nil, List.append_nil]

theorem isDuplicate_set (aggregator : TickAggregator) (t u : Tick) :
    TickAggregator.isDuplicate { aggregator with
      lastLttMs := aggregator.lastLttMs.set t.instrumentKey t.lttMs } u =
        if u.instrumentKey = t.instrumentKey then decide (u.lttMs ≤ t.lttMs)
        else aggregator.isDuplicate u := by
  unfold TickAggregator.isDuplicate
  rw [Assoc.get?_set]
  by_cases hkey : u.instrumentKey = t.instrumentKey
  · rw [if_pos hkey, if_pos hkey]
  · rw [if_neg hkey, if_neg hkey]

theorem isFresh_append {ticks : List Tick} {t u : Tick} :
    isFresh (ticks ++ [t]) u = true ↔
      isFresh ticks u = true ∧ (t.instrumentKey = u.instrumentKey → t.lttMs < u.lttMs) := by
  rw [isFresh_iff, isFresh_iff, List.forall_mem_append, List.forall_mem_singleton]

/-- After an accepted tick, a tick is fresh when it is later than that one. -/
theorem isFresh_concat {ticks : List Tick} {t : Tick} (h : isFresh ticks t = true) (u : Tick) :
    isFresh (ticks ++ [t]) u =
      if u.instrumentKey = t.instrumentKey then decide (t.lttMs < u.lttMs) else isFresh ticks u := by
  by_cases hkey : u.instrumentKey = t.instrumentKey
  · rw [if_pos hkey, Bool.eq_iff_iff, isFresh_append, decide_eq_true_iff]
    constructor
    · rintro ⟨-,hlt⟩
      exact hlt hkey.symm
    · intro hlt
      refine ⟨isFresh_iff.mpr fun v hv hvkey => ?_,fun _ => hlt⟩
      exact (isFresh_iff.mp h v hv (hvkey.trans hkey)).trans hlt
  · rw [if_neg hkey, Bool.eq_iff_iff, isFresh_append]
    exact and_iff_left fun htkey => absurd htkey.symm hkey

theorem isFresh_concat_of_late {ticks : List Tick} {t : Tick} (h : isFresh ticks t = false)
    (u : Tick) : isFresh (ticks ++ [t]) u = isFresh ticks u := by
  rw [Bool.eq_iff_iff, isFresh_append]
  refine and_iff_left_of_imp fun hfresh hkey => ?_
  obtain ⟨v,hv,hvkey,hlate⟩ : ∃ v ∈ ticks, v.instrumentKey = t.instrumentKey ∧ t.lttMs ≤ v.lttMs := by
    simpa [isFresh] using h
  exact hlate.trans_lt (isFresh_iff.mp hfresh v hv (hvkey.trans hkey))

/-- An aggregator that remembers an accepted tick calls the late ones duplicates. -/
theorem isDuplicate_accepted {ticks : List Tick} {aggregator after : TickAggregator} {t : Tick}
    (hbefore : ∀ u, aggregator.isDuplicate u = !isFresh ticks u) (hfresh : isFresh ticks t = true)
    (hafter : after.lastLttMs = aggregator.lastLttMs.set t.instrumentKey t.lttMs) (u : Tick) :
    after.isDuplicate u = !isFresh (ticks ++ [t]) u := by
  have heq : after.isDuplicate u = TickAggregator.isDuplicate { aggregator with
      lastLttMs := aggregator.lastLttMs.set t.instrumentKey t.lttMs } u := by
    unfold TickAggregator.isDuplicate
    rw [hafter]
  rw [heq, isDuplicate_set, isFresh_concat hfresh, hbefore u]
  split
  · rw [← decide_not]
    exact decide_eq_decide.mpr not_lt.symm
  · rfl

section Follows

variable {ticks : List Tick} {s : Aggregation}

theorem Follows.processed_accepted (h : Follows ticks s) {t : Tick}
    (hfresh : isFresh ticks t = true) :
    s.aggregator.ticksProcessed+1 = (accepted (ticks ++ [t])).length := by
  rw [accepted_concat, hfresh, List.length_append]
  exact congrArg (·+1) h.processed

theorem Follows.total_accepted (h : Follows ticks s) (t : Tick) :
    s.aggregator.ticksProcessed+1+s.aggregator.duplicatesDropped = (ticks ++ [t]).length := by
  have := h.total
  rw [List.length_append, List.length_singleton]
  omega

/-- A late tick is counted as dropped. -/
theorem Follows.ingest_late (h : Follows ticks s) {t : Tick} (hfresh : isFresh ticks t = false) :
    Follows (ticks ++ [t]) (s.ingest t) := by
  have hlast := h.last t
  rw [hfresh, Bool.not_false] at hlast
  have hgroups : ∀ key, rollupOf (ticks ++ [t]) key = rollupOf ticks key := by
    intro key
    rw [rollupOf_concat, if_neg (by simp [hfresh])]
  rw [ingest_of_duplicate s t hlast]
  refine ⟨?_,?_,?_,?_,?_⟩
  · intro u
    rw [isFresh_concat_of_late hfresh]
    exact h.last u
  · intro key
    rw [hgroups key]
    exact h.bucket key
  · intro key
    rw [hgroups key]
    exact h.candles key
  · rw [accepted_concat, hfresh]
    simpa using h.processed
  · rw [List.length_append]
    exact congrArg (·+1) h.total

/-- An accepted tick that no `datetime` dates is counted as processed, and nothing more. -/
theorem Follows.ingest_undated (h : Follows ticks s) {t : Tick} (hfresh : isFresh ticks t = true)
    (hdated : t.datable = false) : Follows (ticks ++ [t]) (s.ingest t) := by
  have hlast := h.last t
  rw [hfresh, Bool.not_true] at hlast
  have hminute := t.minute_eq
  rw [hdated, if_neg (by decide)] at hminute
  have hgroups : ∀ key, rollupOf (ticks ++ [t]) key = rollupOf ticks key := by
    intro key
    rw [rollupOf_concat, if_neg (by simp [hdated])]
  rw [ingest_of_error s t hlast hminute]
  refine ⟨isDuplicate_accepted h.last hfresh rfl,?_,?_,h.processed_accepted hfresh,
    h.total_accepted t⟩
  · intro key
    rw [hgroups key]
    exact h.bucket key
  · intro key
    rw [hgroups key]
    exact h.candles key

/-- The candle that a dated tick completes goes to the instrument's own. -/
theorem candles_ingest {t : Tick} {minute : DateTime} (hdup : s.aggregator.isDuplicate t = false)
    (hminute : t.minute = .ok minute) :
    (s.ingest t).candles t.instrumentKey =
      s.candles t.instrumentKey ++ closedBy (s.bucket t.instrumentKey) minute := by
  rw [ingest_of_ok s t hdup hminute]
  unfold Aggregation.candles
  rw [List.filter_append, List.map_append]
  congr 1
  rw [List.filter_eq_self.mpr (by simp), List.map_map]
  exact List.map_id _

/-- An accepted tick with a date joins the groups of its instrument. -/
theorem Follows.ingest_dated (h : Follows ticks s) {t : Tick} (hfresh : isFresh ticks t = true)
    (hdated : t.datable = true) : Follows (ticks ++ [t]) (s.ingest t) := by
  have hlast := h.last t
  rw [hfresh, Bool.not_true] at hlast
  have hminute := t.minute_eq
  rw [hdated, if_pos rfl] at hminute
  obtain ⟨hbucket,hcandles⟩ := rollup_push (sorted_rollupOf ticks t.instrumentKey) t
  have hgroups : rollupOf (ticks ++ [t]) t.instrumentKey =
      (rollupOf ticks t.instrumentKey).push Tick.minuteUtc t := by
    rw [rollupOf_concat, if_pos ⟨hfresh,rfl,hdated⟩]
  have hother : ∀ key, key ≠ t.instrumentKey →
      rollupOf (ticks ++ [t]) key = rollupOf ticks key := by
    intro key hkey
    rw [rollupOf_concat, if_neg fun hall => hkey hall.2.1.symm]
  have hingest := ingest_of_ok s t hlast hminute
  refine ⟨?_,?_,?_,?_,?_⟩
  · rw [hingest]
    exact isDuplicate_accepted h.last hfresh rfl
  · intro key
    by_cases hkey : key = t.instrumentKey
    · subst hkey
      rw [hgroups, hbucket, hingest, ← h.bucket]
      exact (Assoc.get?_set _ _ _ _).trans (if_pos rfl)
    · rw [hother key hkey, (ingest_frame s t key hkey).1]
      exact h.bucket key
  · intro key
    by_cases hkey : key = t.instrumentKey
    · subst hkey
      rw [hgroups, hcandles, candles_ingest hlast hminute, h.bucket, h.candles]
    · rw [hother key hkey, (ingest_frame s t key hkey).2]
      exact h.candles key
  · rw [hingest]
    exact h.processed_accepted hfresh
  · rw [hingest]
    exact h.total_accepted t

/-- One tick keeps an aggregation in step with what it has seen. -/
theorem Follows.ingest (h : Follows ticks s) (t : Tick) : Follows (ticks ++ [t]) (s.ingest t) := by
  cases hfresh : isFresh ticks t with
  | false => exact h.ingest_late hfresh
  | true =>
    cases hdated : t.datable with
    | false => exact h.ingest_undated hfresh hdated
    | true => exact h.ingest_dated hfresh hdated

end Follows

theorem follows_ingestAll (ticks : List Tick) : Follows ticks (Aggregation.ingestAll ticks) := by
  induction ticks using List.reverseRecOn with
  | nil => exact follows_nil
  | append_singleton ticks t ih =>
    rw [Aggregation.ingestAll_concat]
    exact ih.ingest t

/-! From the groups to the claims about them. -/

@[simp] theorem totalQuantity_append (trades more : List Tick) :
    totalQuantity (trades ++ more) = totalQuantity trades+totalQuantity more := by
  rw [totalQuantity, List.map_append, List.sum_append]
  rfl

theorem of_first (minute : DateTime) (t : Tick) : (OpenBucket.first minute t).toCandle.Of [t] := by
  have hself := List.mem_singleton_self t
  refine ⟨rfl,rfl,⟨⟨t,hself,rfl⟩,?_⟩,⟨⟨t,hself,rfl⟩,?_⟩,?_⟩
  · intro u hu
    exact le_of_eq (congrArg Tick.ltp (List.mem_singleton.mp hu))
  · intro u hu
    exact ge_of_eq (congrArg Tick.ltp (List.mem_singleton.mp hu))
  · exact (add_zero t.ltq).symm

/-- One more trade makes the bucket that of one more trade. -/
theorem of_add {group : List Tick} {bucket : OpenBucket} (h : bucket.toCandle.Of group) (t : Tick) :
    (bucket.add t).toCandle.Of (group ++ [t]) := by
  obtain ⟨hopens,-,⟨⟨u,hu,hhigh⟩,hbelow⟩,⟨⟨v,hv,hlow⟩,habove⟩,hvolume⟩ := h
  have hself : t ∈ group ++ [t] := List.mem_append_right _ (List.mem_singleton_self t)
  have hhead : (group ++ [t]).head? = group.head? := by
    cases group with
    | nil => cases hu
    | cons w rest => rfl
  refine ⟨?_,?_,⟨?_,?_⟩,⟨?_,?_⟩,?_⟩
  · rw [hhead]
    exact hopens
  · rw [List.getLast?_concat]
    rfl
  · rcases le_total bucket.high t.ltp with hle | hle
    · exact ⟨t,hself,(max_eq_right hle).symm⟩
    · exact ⟨u,List.mem_append_left _ hu,hhigh.trans (max_eq_left hle).symm⟩
  · intro w hw
    rcases List.mem_append.mp hw with hold | hnew
    · exact (hbelow w hold).trans (le_max_left _ _)
    · rw [List.mem_singleton.mp hnew]
      exact le_max_right _ _
  · rcases le_total bucket.low t.ltp with hle | hle
    · exact ⟨v,List.mem_append_left _ hv,hlow.trans (min_eq_left hle).symm⟩
    · exact ⟨t,hself,(min_eq_right hle).symm⟩
  · intro w hw
    rcases List.mem_append.mp hw with hold | hnew
    · exact (min_le_left _ _).trans (habove w hold)
    · rw [List.mem_singleton.mp hnew]
      exact min_le_right _ _
  · rw [totalQuantity_append]
    exact congrArg₂ (·+·) hvolume (add_zero t.ltq).symm

theorem of_bucketOf {group : List Tick} {bucket : OpenBucket} (h : bucketOf group = some bucket) :
    bucket.toCandle.Of group := by
  induction group using List.reverseRecOn generalizing bucket with
  | nil => cases h
  | append_singleton group t ih =>
    rw [bucketOf_concat] at h
    obtain rfl := Option.some.inj h
    cases hb : bucketOf group with
    | none =>
      have hnil : group = [] := by
        cases group with
        | nil => rfl
        | cons u rest => cases hb
      subst hnil
      exact of_first _ t
    | some bucket => exact of_add (ih hb) t

theorem minute_bucketOf {group : List Tick} {bucket : OpenBucket} {t : Tick}
    (h : bucketOf group = some bucket) (ht : t ∈ group)
    (huniform : ∀ x ∈ group, ∀ y ∈ group, x.minuteUtc = y.minuteUtc) :
    bucket.minute = ⟨t.minuteUtc,0⟩ := by
  cases group with
  | nil => cases h
  | cons u rest =>
    obtain rfl := Option.some.inj h
    rw [minute_foldl_add, huniform t ht u List.mem_cons_self]
    rfl

/-- A completed candle is that of a whole group, dated by the minute of its ticks. -/
theorem exists_group {ticks : List Tick} {key : String} {c : TickCandle}
    (h : c ∈ (rollupOf ticks key).closed.filterMap candleOf) :
    ∃ group ∈ (rollupOf ticks key).closed, ∃ t ∈ group, c.Of group ∧
      c.timestamp = ⟨t.minuteUtc,0⟩ := by
  obtain ⟨group,hgroup,hcandle⟩ := List.mem_filterMap.mp h
  obtain ⟨bucket,hbucket,rfl⟩ := Option.map_eq_some_iff.mp hcandle
  have hsorted := sorted_rollupOf ticks key
  obtain ⟨t,ht⟩ := List.exists_mem_of_ne_nil group (hsorted.nonempty group hgroup)
  refine ⟨group,hgroup,t,ht,of_bucketOf hbucket,?_⟩
  exact minute_bucketOf hbucket ht (hsorted.uniform group (List.mem_append_left _ hgroup))

/-- A group is all the accepted trades of its minute. -/
theorem group_eq_tradesIn {ticks : List Tick} {key : String} {group : List Tick} {t : Tick}
    (hgroup : group ∈ (rollupOf ticks key).groups) (ht : t ∈ group) :
    tradesIn ticks key ⟨t.minuteUtc,0⟩ = group := by
  have hsorted := sorted_rollupOf ticks key
  have hall := Rollup.filter_flatten hgroup ht hsorted.uniform hsorted.climbing
  rw [rollupOf, Rollup.flatten_ofList, datedOf, List.filter_filter] at hall
  rw [← hall, tradesIn]
  apply List.filter_congr
  intro u hu
  rw [u.minute_eq]
  cases hdated : u.datable with
  | true => simp [Except.toOption]
  | false => simp [Except.toOption]

theorem candles_increasing (ticks : List Tick) (key : String) :
    ((rollupOf ticks key).closed.filterMap candleOf).Pairwise
      fun c d => c.timestamp < d.timestamp := by
  have hsorted := sorted_rollupOf ticks key
  have hclosed := (List.pairwise_append.mp hsorted.climbing).1
  rw [List.pairwise_filterMap]
  apply hclosed.imp_of_mem
  intro g h hg hh hlt c hc d hd
  obtain ⟨b,hb,rfl⟩ := Option.map_eq_some_iff.mp hc
  obtain ⟨b',hb',rfl⟩ := Option.map_eq_some_iff.mp hd
  obtain ⟨t,ht⟩ := List.exists_mem_of_ne_nil g (hsorted.nonempty g hg)
  obtain ⟨u,hu⟩ := List.exists_mem_of_ne_nil h (hsorted.nonempty h hh)
  change b.minute < b'.minute
  rw [minute_bucketOf hb ht (hsorted.uniform g (List.mem_append_left _ hg)),
    minute_bucketOf hb' hu (hsorted.uniform h (List.mem_append_left _ hh))]
  exact hlt t ht u hu

theorem volume_bucketOf (group : List Tick) :
    ((bucketOf group).map OpenBucket.volume).getD 0 = totalQuantity group := by
  cases hb : bucketOf group with
  | none =>
    cases group with
    | nil => rfl
    | cons t rest => cases hb
  | some bucket => exact (of_bucketOf hb).volume

theorem volume_candles {groups : List (List Tick)} (h : ∀ g ∈ groups, g ≠ []) :
    ((groups.filterMap candleOf).map TickCandle.volume).sum = totalQuantity groups.flatten := by
  induction groups with
  | nil => rfl
  | cons g groups ih =>
    rw [List.flatten_cons, totalQuantity_append, ← ih fun g hg => h g (List.mem_cons_of_mem _ hg)]
    cases hb : bucketOf g with
    | none =>
      cases g with
      | nil => exact absurd rfl (h [] List.mem_cons_self)
      | cons t rest => cases hb
    | some bucket =>
      have hcandle : candleOf g = some bucket.toCandle := congrArg (Option.map _) hb
      simp only [List.filterMap_cons, hcandle, List.map_cons, List.sum_cons]
      rw [(of_bucketOf hb).volume]

/-- What the candles and the open bucket hold is what was traded at times that a `datetime` holds. -/
theorem conserved_dated (ticks : List Tick) (key : String) :
    (((Aggregation.ingestAll ticks).candles key).map TickCandle.volume).sum +
      (((Aggregation.ingestAll ticks).bucket key).map OpenBucket.volume).getD 0 =
        totalQuantity (datedOf ticks key) := by
  have hfollows := follows_ingestAll ticks
  rw [hfollows.candles, hfollows.bucket, volume_bucketOf,
    volume_candles (sorted_rollupOf ticks key).nonempty, ← totalQuantity_append]
  congr 1
  have hflatten := Rollup.flatten_ofList Tick.minuteUtc (datedOf ticks key)
  rw [Rollup.groups, List.flatten_append, List.flatten_singleton] at hflatten
  exact hflatten

theorem totalQuantity_filter (p : Tick → Bool) (trades : List Tick) :
    totalQuantity (trades.filter p) + totalQuantity (trades.filter fun t => !p t) =
      totalQuantity trades := by
  induction trades with
  | nil => rfl
  | cons t trades ih =>
    have hcons : ∀ l : List Tick, totalQuantity (t::l) = t.ltq+totalQuantity l := fun l => rfl
    cases h : p t <;> simp only [List.filter_cons, h, hcons, Bool.not_false, Bool.not_true,
      Bool.false_eq_true, if_true, if_false] <;> omega

/-- Aggregation is exact for exactly the streams in which the accepted ticks of each instrument whose
trade times no `datetime` holds trade nothing in total. -/
theorem exactlyAggregated_iff (ticks : List Tick) :
    ExactlyAggregated ticks ↔
      ∀ key, totalQuantity ((acceptedOf ticks key).filter fun t => !t.datable) = 0 := by
  have hfollows := follows_ingestAll ticks
  have hsplit : ∀ key, totalQuantity (datedOf ticks key) +
      totalQuantity ((acceptedOf ticks key).filter fun t => !t.datable) =
        totalQuantity (acceptedOf ticks key) :=
    fun key => totalQuantity_filter Tick.datable _
  constructor
  · intro h key
    have hconserved := h.conserved key
    rw [conserved_dated, ← hsplit key] at hconserved
    omega
  · intro h
    refine ⟨?_,?_,?_,⟨hfollows.processed,hfollows.total⟩,?_⟩
    · intro key
      rw [hfollows.candles]
      exact candles_increasing ticks key
    · intro key c hc
      rw [hfollows.candles] at hc
      obtain ⟨group,hgroup,t,ht,hof,htimestamp⟩ := exists_group hc
      rw [htimestamp, group_eq_tradesIn (List.mem_append_left _ hgroup) ht]
      obtain ⟨u,hu,hopen⟩ := Option.map_eq_some_iff.mp hof.opens
      obtain ⟨v,hv,hclose⟩ := Option.map_eq_some_iff.mp hof.closes
      have hu := List.mem_of_mem_head? hu
      have hv := List.mem_of_mem_getLast? hv
      rw [← hopen, ← hclose]
      exact ⟨hof,hof.lowest.2 u hu,hof.lowest.2 v hv,hof.highest.2 u hu,hof.highest.2 v hv⟩
    · intro key
      rw [conserved_dated, ← hsplit key, h key, add_zero]
    · rintro pre t post - key hkey
      rw [Aggregation.ingestAll_concat]
      exact ingest_frame _ t key hkey

/-- A tick dated in the year 10000 is counted as processed, and its five shares are in no candle. -/
theorem undatedTick_not_exact :
    ¬ ExactlyAggregated [⟨"NSE_EQ|INE001A01036",100,253402300800000,5⟩] := by
  intro h
  have hconserved := h.conserved "NSE_EQ|INE001A01036"
  rw [conserved_dated] at hconserved
  revert hconserved
  decide +kernel

end MarketScanner.Providers
