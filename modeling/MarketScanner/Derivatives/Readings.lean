import MarketScanner.Python.Decimals
import MarketScanner.Python.Time

/-! Open-interest readings, from an option chain or from the bars of a futures contract. A reading is
labelled by the signs of its changes in price and in open interest, and by nothing else. -/
namespace MarketScanner.Derivatives
open MarketScanner.Python PyDecimal

inductive InstrumentType
  | futures | call | put
  deriving DecidableEq, Repr

inductive BuildupClassification
  | longBuildup | shortBuildup | shortCovering | longUnwinding | neutral
  deriving DecidableEq, Repr

def BuildupClassification.value : BuildupClassification → String
  | longBuildup => "LONG_BUILDUP"
  | shortBuildup => "SHORT_BUILDUP"
  | shortCovering => "SHORT_COVERING"
  | longUnwinding => "LONG_UNWINDING"
  | neutral => "NEUTRAL"

structure OptionLegSnapshot where
  instrumentKey : String
  ltp : ℚ
  closePrice : ℚ
  volume : ℤ
  oi : ℚ
  prevOi : ℚ
  deriving DecidableEq

structure OptionChainSnapshot where
  underlyingSymbol : String
  expiryDate : Date
  strikePrice : ℚ
  call : Option OptionLegSnapshot
  put : Option OptionLegSnapshot
  deriving DecidableEq

structure FuturesOiBar where
  instrumentKey : String
  expiryDate : Date
  timestamp : DateTime
  close : ℚ
  volume : ℤ
  openInterest : ℤ
  deriving DecidableEq

structure OiReading where
  underlyingSymbol : String
  instrumentKey : String
  instrumentType : InstrumentType
  strikePrice : Option ℚ
  expiryDate : Date
  observedAt : DateTime
  price : ℚ
  prevPrice : Option ℚ
  priceChangePct : Option ℚ
  volume : ℤ
  oi : ℚ
  prevOi : Option ℚ
  oiChange : Option ℚ
  oiChangePct : Option ℚ
  classification : BuildupClassification
  deriving DecidableEq

def percentChange (current : ℚ) : Option ℚ → Option ℚ
  | none => none
  | some previous =>
    if previous = 0 then none else some (rounded (rounded (rounded (current-previous)/previous)*100))

def classify : Option ℚ → Option ℚ → BuildupClassification
  | some priceChange, some oiChange =>
    if priceChange = 0 ∨ oiChange = 0 then .neutral
    else if 0 < priceChange ∧ 0 < oiChange then .longBuildup
    else if priceChange < 0 ∧ 0 < oiChange then .shortBuildup
    else if 0 < priceChange ∧ oiChange < 0 then .shortCovering
    else .longUnwinding
  | _, _ => .neutral

/-- `_reading` -/
def reading (row : OptionChainSnapshot) (instrumentType : InstrumentType) (leg : OptionLegSnapshot)
    (observedAt : DateTime) : OiReading where
  underlyingSymbol := row.underlyingSymbol
  instrumentKey := leg.instrumentKey
  instrumentType := instrumentType
  strikePrice := some row.strikePrice
  expiryDate := row.expiryDate
  observedAt := observedAt
  price := leg.ltp
  prevPrice := some leg.closePrice
  priceChangePct := percentChange leg.ltp (some leg.closePrice)
  volume := leg.volume
  oi := leg.oi
  prevOi := some leg.prevOi
  oiChange := some (rounded (leg.oi-leg.prevOi))
  oiChangePct := percentChange leg.oi (some leg.prevOi)
  classification := classify (some (rounded (leg.ltp-leg.closePrice))) (some (rounded (leg.oi-leg.prevOi)))

/-- Both legs of each strike, as far as they are there; `observedAt` is `utc_now()`. -/
def readingsFromChain (observedAt : DateTime) (snapshotRows : List OptionChainSnapshot) : List OiReading :=
  snapshotRows.flatMap fun row =>
    (row.call.map fun leg => reading row .call leg observedAt).toList ++
      (row.put.map fun leg => reading row .put leg observedAt).toList

/-- The reading of the last bar, against the one before it. -/
def readingFromFuturesBars (underlyingSymbol : String) (bars : List FuturesOiBar) : Option OiReading :=
  bars.getLast?.map fun latest =>
    let previous := bars.dropLast.getLast?
    let prevPrice := previous.map FuturesOiBar.close
    let prevOi := previous.map fun bar => (bar.openInterest : ℚ)
    let oiChange := prevOi.map fun oi => rounded (latest.openInterest-oi)
    { underlyingSymbol
      instrumentKey := latest.instrumentKey
      instrumentType := .futures
      strikePrice := none
      expiryDate := latest.expiryDate
      observedAt := latest.timestamp
      price := latest.close
      prevPrice
      priceChangePct := percentChange latest.close prevPrice
      volume := latest.volume
      oi := latest.openInterest
      prevOi
      oiChange
      oiChangePct := percentChange latest.openInterest prevOi
      classification := classify (prevPrice.map fun close => rounded (latest.close-close)) oiChange }

/-- The label sees two signs. -/
theorem classify_congr {p p' o o' : ℚ} (hpos : 0 < p ↔ 0 < p') (hneg : p < 0 ↔ p' < 0)
    (hpos' : 0 < o ↔ 0 < o') (hneg' : o < 0 ↔ o' < 0) :
    classify (some p) (some o) = classify (some p') (some o') := by
  have hzero : p = 0 ↔ p' = 0 := by
    constructor <;> intro h <;> subst h <;> simp only [lt_self_iff_false, false_iff, iff_false, not_lt] at hpos hneg
    · exact le_antisymm hpos hneg
    · exact le_antisymm hpos hneg
  have hzero' : o = 0 ↔ o' = 0 := by
    constructor <;> intro h <;> subst h <;>
      simp only [lt_self_iff_false, false_iff, iff_false, not_lt] at hpos' hneg'
    · exact le_antisymm hpos' hneg'
    · exact le_antisymm hpos' hneg'
  simp only [classify, hpos, hneg, hpos', hneg', hzero, hzero']

theorem rounded_pos_iff {q : ℚ} : 0 < rounded q ↔ 0 < q := by
  rw [← not_le, ← not_le, ← neg_nonneg, ← rounded_neg, rounded_nonneg_iff, neg_nonneg]

theorem rounded_neg_iff {q : ℚ} : rounded q < 0 ↔ q < 0 := by
  rw [← not_le, rounded_nonneg_iff, not_le]

/-- Rounding a difference to the context's digits does not change what the label says. -/
theorem classify_rounded (p o : ℚ) :
    classify (some (rounded p)) (some (rounded o)) = classify (some p) (some o) :=
  classify_congr rounded_pos_iff rounded_neg_iff rounded_pos_iff rounded_neg_iff

/-- A reading is labelled by its own prices and interests, and is neutral without the previous ones. -/
structure OiReading.Labelled (r : OiReading) : Prop where
  moved : ∀ price oi, r.prevPrice = some price → r.prevOi = some oi →
    r.classification = classify (some (r.price-price)) (some (r.oi-oi))
  first : r.prevPrice = none ∨ r.prevOi = none → r.classification = .neutral

theorem labelled_of_chain {observedAt : DateTime} {rows : List OptionChainSnapshot} {r : OiReading}
    (h : r ∈ readingsFromChain observedAt rows) : r.Labelled := by
  have hlabelled (row : OptionChainSnapshot) (type : InstrumentType) (leg : OptionLegSnapshot) :
      (reading row type leg observedAt).Labelled := by
    constructor
    · intro price oi hprice hoi
      obtain rfl : leg.closePrice = price := Option.some.inj hprice
      obtain rfl : leg.prevOi = oi := Option.some.inj hoi
      exact classify_rounded _ _
    · rintro (h | h) <;> cases h
  obtain ⟨row,-,hr⟩ := List.mem_flatMap.mp h
  simp only [List.mem_append, Option.mem_toList, Option.map_eq_some_iff] at hr
  rcases hr with ⟨leg,-,rfl⟩ | ⟨leg,-,rfl⟩
  · exact hlabelled row .call leg
  · exact hlabelled row .put leg

theorem labelled_of_bars {symbol : String} {bars : List FuturesOiBar} {r : OiReading}
    (h : readingFromFuturesBars symbol bars = some r) : r.Labelled := by
  obtain ⟨latest,-,rfl⟩ := Option.map_eq_some_iff.mp h
  constructor
  · intro price oi hprice hoi
    obtain ⟨previous,hprevious,rfl⟩ := Option.map_eq_some_iff.mp hprice
    obtain ⟨previous',hprevious',rfl⟩ := Option.map_eq_some_iff.mp hoi
    obtain rfl : previous = previous' := Option.some.inj (hprevious.symm.trans hprevious')
    simp only [hprevious, Option.map_some]
    exact classify_rounded _ _
  · rintro (h | h) <;> simp only [Option.map_eq_none_iff] at h <;> simp [h, classify]

end MarketScanner.Derivatives
