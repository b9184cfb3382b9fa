import Mathlib.Data.List.Induction
import MarketScanner.Market.Prices

/-! A batch of daily candles under the production session, which does not flush by itself: a row that was
added stays pending, unseen by the queries, until the batch is flushed. -/
namespace MarketScanner.Market
open MarketScanner.Library MarketScanner.Python MarketScanner.Config

/-- The stored rows, with the changes made to them, and the rows that were added. -/
structure PendingSession where
  stored : DailyPrices
  pending : List DailyPrice := []

namespace PendingSession

/-- `upsert_daily`: the query sees the stored rows only. -/
def upsertDaily (settings : Settings) (symbolId : ℕ) (session : PendingSession) (candle : Candle) :
    PendingSession :=
  let bar := barOf settings symbolId candle
  match session.stored.value? symbolId bar.date.day with
  | some _ => { session with stored := session.stored.put bar }
  | none => { session with pending := session.pending ++ [bar] }

/-- Insert the pending rows; a second row of a symbol and date violates `uq_daily_prices_symbol_date`. -/
def insertAll : DailyPrices → List DailyPrice → Option DailyPrices
  | t, [] => some t
  | t, bar::bars =>
    match t.value? bar.symbolId bar.date.day with
    | some _ => none
    | none => insertAll (t.put bar) bars

def flush (session : PendingSession) : Option DailyPrices := insertAll session.stored session.pending

end PendingSession

namespace PriceRepository

/-- `upsert_daily_many`, with the number it returns. -/
def upsertDailyMany (settings : Settings) (t : DailyPrices) (symbolId : ℕ) (candles : List Candle) :
    Option (DailyPrices × ℕ) :=
  (candles.foldl (PendingSession.upsertDaily settings symbolId) { stored := t }).flush.map fun t =>
    (t,candles.length)

/-- `upsert_daily` and a flush for each candle. -/
def upsertDailyEach (settings : Settings) (t : DailyPrices) (symbolId : ℕ) (candles : List Candle) :
    Option DailyPrices :=
  candles.foldlM (fun t candle =>
    (PendingSession.upsertDaily settings symbolId { stored := t } candle).flush) t

end PriceRepository

/-! ### What a batch leaves -/

section Spec
variable (settings : Settings) (t : DailyPrices) (symbolId : ℕ) (candles : List Candle)

/-- The bar of the last candle of a trading date, for the symbol of the batch. -/
def lastBar (id : ℕ) (date : Date) : Option DailyPrice :=
  ((candles.map (barOf settings symbolId)).filter fun bar =>
    decide (bar.symbolId = id ∧ bar.date.day = date.day)).getLast?

/-- A table, with one row for each symbol and date as its type says, that holds the last candle of every
date and is else as it was. -/
def HoldsLast (t' : DailyPrices) : Prop :=
  ∀ (id : ℕ) (date : Date), t'.value? id date.day =
    (lastBar settings symbolId candles id date).or (t.value? id date.day)

/-- The batch succeeds and leaves what one flushed upsert for each candle leaves. -/
structure LikeOneByOne : Prop where
  batch : ∃ t', PriceRepository.upsertDailyMany settings t symbolId candles =
    some (t',candles.length) ∧ HoldsLast settings t symbolId candles t'
  each : ∃ t', PriceRepository.upsertDailyEach settings t symbolId candles = some t' ∧
    HoldsLast settings t symbolId candles t'

/-- Two candles come for one trading date only where a bar of that date is stored. -/
def RepeatsStored : Prop :=
  candles.Pairwise fun a b =>
    marketDateOf settings a.timestamp = marketDateOf settings b.timestamp →
      (t.value? symbolId (marketDateOf settings a.timestamp).day).isSome = true

end Spec

namespace PendingSession

theorem insertAll_eq_some {t t' : DailyPrices} {bars : List DailyPrice}
    (h : insertAll t bars = some t') : t' = bars.foldl Stamped.put t := by
  induction bars generalizing t with
  | nil => exact (Option.some.inj h).symm
  | cons bar bars ih =>
    rw [insertAll] at h
    split at h
    · cases h
    · exact ih h

/-- The flush goes through just when no pending row meets another one, stored or pending. -/
theorem isSome_insertAll_iff (t : DailyPrices) (bars : List DailyPrice) :
    (insertAll t bars).isSome = true ↔
      (∀ bar ∈ bars, t.value? bar.symbolId bar.date.day = none) ∧
        bars.Pairwise fun a b => ¬ (a.symbolId = b.symbolId ∧ a.date.day = b.date.day) := by
  induction bars generalizing t with
  | nil => simp [insertAll]
  | cons bar bars ih =>
    rw [insertAll, List.forall_mem_cons, List.pairwise_cons]
    cases hfind : t.value? bar.symbolId bar.date.day with
    | some row => simp
    | none =>
      have hput : ∀ later ∈ bars, (t.put bar).value? later.symbolId later.date.day = none ↔
          t.value? later.symbolId later.date.day = none ∧
            ¬ (bar.symbolId = later.symbolId ∧ bar.date.day = later.date.day) := by
        intro later _
        rw [Stamped.value?_put]
        split <;> simp_all
      simp only [ih, forall₂_congr hput, true_and]
      grind

variable (settings : Settings) (t : DailyPrices) (symbolId : ℕ)

/-- A bar whose date is stored already. -/
def isKnown (bar : DailyPrice) : Bool := (t.value? symbolId bar.date.day).isSome

/-- Updates of stored rows store no further date. -/
theorem isSome_value?_known (bars : List DailyPrice) (bar : DailyPrice) :
    (((bars.filter (isKnown t symbolId)).foldl Stamped.put t).value? symbolId bar.date.day).isSome =
      isKnown t symbolId bar := by
  rw [Stamped.value?_foldl_put, isKnown]
  cases hstored : t.value? symbolId bar.date.day with
  | some row => simp
  | none =>
    have hnil : ((bars.filter (isKnown t symbolId)).filter fun v =>
        decide (v.symbolId = symbolId ∧ v.date.day = bar.date.day)) = [] := by
      apply List.filter_eq_nil_iff.mpr
      intro v hv
      have hknown := (List.mem_filter.mp hv).2
      rw [decide_eq_true_eq]
      rintro ⟨-,hdate⟩
      simp [isKnown, hdate, hstored] at hknown
    rw [hnil]
    rfl

/-- The loop updates the stored rows in place and leaves the bars of all other dates pending. -/
theorem foldl_upsertDaily (candles : List Candle) :
    candles.foldl (upsertDaily settings symbolId) { stored := t } =
      { stored := ((candles.map (barOf settings symbolId)).filter (isKnown t symbolId)).foldl
          Stamped.put t
        pending := (candles.map (barOf settings symbolId)).filter fun bar =>
          !isKnown t symbolId bar } := by
  induction candles using List.reverseRecOn with
  | nil => rfl
  | append_singleton candles candle ih =>
    have hquery := isSome_value?_known t symbolId (candles.map (barOf settings symbolId))
      (barOf settings symbolId candle)
    rw [List.foldl_append, ih, List.foldl_cons, List.foldl_nil, upsertDaily]
    dsimp only
    cases hknown : isKnown t symbolId (barOf settings symbolId candle) with
    | true =>
      rw [hknown] at hquery
      obtain ⟨row,hrow⟩ := Option.isSome_iff_exists.mp hquery
      rw [hrow]
      simp [hknown]
    | false =>
      rw [hknown] at hquery
      rw [Option.isSome_eq_false_iff.mp hquery |> Option.isNone_iff_eq_none.mp]
      simp [hknown]

/-- A flushed upsert of one candle. -/
theorem flush_upsertDaily (candle : Candle) :
    (upsertDaily settings symbolId { stored := t } candle).flush =
      some (PriceRepository.upsertDaily settings t symbolId candle) := by
  have hsymbol : (barOf settings symbolId candle).symbolId = symbolId := rfl
  unfold upsertDaily flush PriceRepository.upsertDaily
  cases hfind : t.value? symbolId (barOf settings symbolId candle).date.day with
  | some row => simp [hfind, insertAll]
  | none => simp [hfind, insertAll, hsymbol]

end PendingSession

namespace PriceRepository
variable (settings : Settings) (t : DailyPrices) (symbolId : ℕ) (candles : List Candle)

theorem upsertDailyEach_eq :
    upsertDailyEach settings t symbolId candles =
      some ((candles.map (barOf settings symbolId)).foldl Stamped.put t) := by
  unfold upsertDailyEach
  induction candles generalizing t with
  | nil => rfl
  | cons candle candles ih =>
    rw [List.foldlM_cons, PendingSession.flush_upsertDaily]
    exact ih _

theorem holdsLast_each :
    HoldsLast settings t symbolId candles
      ((candles.map (barOf settings symbolId)).foldl Stamped.put t) := by
  intro id date
  exact Stamped.value?_foldl_put _ t id date.day

/-- Where one choice is made for all values of a key, it keeps them all or none. -/
theorem filter_filter_of_const {α : Type*} {l : List α} {p q : α → Bool} (b : Bool)
    (h : ∀ v ∈ l, q v = true → p v = b) :
    (l.filter p).filter q = if b then l.filter q else [] := by
  rw [List.filter_filter]
  cases b with
  | true =>
    apply List.filter_congr
    intro v hv
    cases hq : q v with
    | true => simp [h v hv hq]
    | false => simp
  | false =>
    apply List.filter_eq_nil_iff.mpr
    intro v hv
    cases hq : q v with
    | true => simp [h v hv hq]
    | false => simp

/-- Pending rows that are all inserted leave, with the updates, the last candle of every date. -/
theorem holdsLast_batch :
    let bars := candles.map (barOf settings symbolId)
    HoldsLast settings t symbolId candles
      ((bars.filter fun bar => !PendingSession.isKnown t symbolId bar).foldl Stamped.put
        ((bars.filter (PendingSession.isKnown t symbolId)).foldl Stamped.put t)) := by
  intro bars id date
  rw [Stamped.value?_foldl_put, Stamped.value?_foldl_put]
  set known := (t.value? symbolId date.day).isSome with hknown
  have hdate : ∀ v ∈ bars, decide (v.symbolId = id ∧ v.date.day = date.day) = true →
      PendingSession.isKnown t symbolId v = known := by
    intro v _ hv
    rw [hknown, PendingSession.isKnown, (of_decide_eq_true hv).2]
  rw [filter_filter_of_const known hdate, filter_filter_of_const (!known) fun v hv hq => by
    rw [hdate v hv hq]]
  unfold lastBar
  cases known <;> simp [bars]

/-- The pending rows are of different dates just when candles of one date come for stored dates only. -/
theorem isSome_upsertDailyMany_iff :
    (upsertDailyMany settings t symbolId candles).isSome = true ↔
      RepeatsStored settings t symbolId candles := by
  have hpending : ∀ bar ∈ (candles.map (barOf settings symbolId)).filter fun bar =>
      !PendingSession.isKnown t symbolId bar, (((candles.map (barOf settings symbolId)).filter
        (PendingSession.isKnown t symbolId)).foldl Stamped.put t).value? bar.symbolId bar.date.day =
          none := by
    intro bar hbar
    obtain ⟨hmem,hfresh⟩ := List.mem_filter.mp hbar
    obtain ⟨candle,-,rfl⟩ := List.mem_map.mp hmem
    have hquery := PendingSession.isSome_value?_known t symbolId
      (candles.map (barOf settings symbolId)) (barOf settings symbolId candle)
    rw [Bool.not_eq_true'] at hfresh
    rw [hfresh, Option.isSome_eq_false_iff, Option.isNone_iff_eq_none] at hquery
    exact hquery
  rw [upsertDailyMany, Option.isSome_map, PendingSession.foldl_upsertDaily, PendingSession.flush,
    PendingSession.isSome_insertAll_iff]
  refine (and_iff_right hpending).trans ?_
  rw [List.pairwise_filter, List.pairwise_map]
  unfold RepeatsStored
  apply List.Pairwise.iff
  intro a b
  simp only [PendingSession.isKnown, barOf, true_and]
  constructor
  · intro h hdate
    by_contra hnone
    rw [Bool.not_eq_true] at hnone
    refine h ?_ ?_ (congrArg Date.day hdate) <;> simp [hnone, ← hdate]
  · intro h hnone _ hday
    have hdate : marketDateOf settings a.timestamp = marketDateOf settings b.timestamp := by
      cases ha : marketDateOf settings a.timestamp
      cases hb : marketDateOf settings b.timestamp
      simp_all
    simp [h hdate] at hnone

/-- A batch does as one-by-one upserts do just when two of its candles come for one trading date only
where a bar of that date is stored. -/
theorem likeOneByOne_iff :
    LikeOneByOne settings t symbolId candles ↔ RepeatsStored settings t symbolId candles := by
  rw [← isSome_upsertDailyMany_iff]
  constructor
  · rintro ⟨⟨t',hbatch,-⟩,-⟩
    rw [hbatch]
    rfl
  · intro h
    obtain ⟨⟨t',n⟩,hbatch⟩ := Option.isSome_iff_exists.mp h
    refine ⟨⟨t',?_,?_⟩,_,upsertDailyEach_eq settings t symbolId candles,
      holdsLast_each settings t symbolId candles⟩
    · rw [hbatch]
      rw [upsertDailyMany, Option.map_eq_some_iff] at hbatch
      obtain ⟨_,-,heq⟩ := hbatch
      rw [(Prod.mk.inj heq).2]
    · rw [upsertDailyMany, Option.map_eq_some_iff] at hbatch
      obtain ⟨t'',hflush,heq⟩ := hbatch
      obtain rfl : t'' = t' := congrArg Prod.fst heq
      rw [PendingSession.foldl_upsertDaily] at hflush
      rw [PendingSession.insertAll_eq_some hflush]
      exact holdsLast_batch settings t symbolId candles

end PriceRepository

/-! ### Two candles of one new date -/

def dayCandle (minutes : ℤ) : Candle :=
  ⟨DateTime.ofUtc ⟨20001⟩ minutes,⟨1000000⟩,⟨1010000⟩,⟨990000⟩,⟨1005000⟩,1000,none⟩

/-- A morning and an evening candle with timestamps of their own, and no bar stored. -/
theorem dayCandles_not_likeOneByOne :
    ([dayCandle 270,dayCandle 600].map fun candle => candle.timestamp.utc).Nodup ∧
      ¬ LikeOneByOne {} Stamped.empty 1 [dayCandle 270,dayCandle 600] := by
  refine ⟨by decide,?_⟩
  rintro ⟨⟨t',hbatch,-⟩,-⟩
  have hnone : (PriceRepository.upsertDailyMany {} Stamped.empty 1
      [dayCandle 270,dayCandle 600]).isNone = true := by decide +kernel
  rw [hbatch] at hnone
  cases hnone

end MarketScanner.Market
