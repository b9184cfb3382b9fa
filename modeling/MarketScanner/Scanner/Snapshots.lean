import MarketScanner.Python.Numerals
import MarketScanner.Scanner.Contexts

/-! The snapshot of its inputs that a context stores with a verdict: the price, and every column of the
feature row it was built on, decimals as texts. -/
namespace MarketScanner.Features
open MarketScanner.Python MarketScanner.Market

/-- The SQL types of the computed columns; a `Numeric` by its scale. -/
inductive ColumnType
  | numeric (scale : ℕ)
  | boolean
  | integer
  | string
  deriving DecidableEq

namespace Column

/-- The columns of `daily_features` in order, but for `rs_vs_sector` and `sector_rank`, which nothing
computes. -/
def all : List Column :=
  [.ema20,.ema50,.ema200,.sma20,.trendDirection,.trendStrength,.goldenCross,.deathCross,.rsi14,
    .macdLine,.macdSignal,.macdHistogram,.adx14,.plusDi14,.minusDi14,.momentumScore,.atr14,
    .atrExpansion,.atrContraction,.bbUpper,.bbMiddle,.bbLower,.bbWidth,.kcUpper,.kcMiddle,
    .kcLower,.volatilitySqueeze,.volumeMa20,.relativeVolume,.obv,.volumeSpike,.volumeDryUp,
    .accumulationScore,.distributionScore,.higherHigh,.higherLow,.lowerHigh,.lowerLow,
    .breakOfStructure,.insideBar,.outsideBar,.gapUp,.gapDown,.nr4,.nr7,.swingHigh,.swingLow,
    .trendChannelUpper,.trendChannelLower,.isRange,.isConsolidation,.baseLengthDays,
    .rangeWidthPct,.supportLevel,.resistanceLevel,.pivotPoint,.breakoutLevel,.pullbackZoneLow,
    .pullbackZoneHigh,.patternTriangle,.patternBullFlag,.patternBearFlag,.patternFlatBase,
    .patternIpoBase,.patternRectangle,.patternCupHandle,.patternVcp,.rsVsNifty]

def name : Column → String
  | ema20 => "ema20"
  | ema50 => "ema50"
  | ema200 => "ema200"
  | sma20 => "sma20"
  | trendDirection => "trend_direction"
  | trendStrength => "trend_strength"
  | goldenCross => "golden_cross"
  | deathCross => "death_cross"
  | rsi14 => "rsi14"
  | macdLine => "macd_line"
  | macdSignal => "macd_signal"
  | macdHistogram => "macd_histogram"
  | adx14 => "adx14"
  | plusDi14 => "plus_di14"
  | minusDi14 => "minus_di14"
  | momentumScore => "momentum_score"
  | atr14 => "atr14"
  | atrExpansion => "atr_expansion"
  | atrContraction => "atr_contraction"
  | bbUpper => "bb_upper"
  | bbMiddle => "bb_middle"
  | bbLower => "bb_lower"
  | bbWidth => "bb_width"
  | kcUpper => "kc_upper"
  | kcMiddle => "kc_middle"
  | kcLower => "kc_lower"
  | volatilitySqueeze => "volatility_squeeze"
  | volumeMa20 => "volume_ma20"
  | relativeVolume => "relative_volume"
  | obv => "obv"
  | volumeSpike => "volume_spike"
  | volumeDryUp => "volume_dry_up"
  | accumulationScore => "accumulation_score"
  | distributionScore => "distribution_score"
  | higherHigh => "higher_high"
  | higherLow => "higher_low"
  | lowerHigh => "lower_high"
  | lowerLow => "lower_low"
  | breakOfStructure => "break_of_structure"
  | insideBar => "inside_bar"
  | outsideBar => "outside_bar"
  | gapUp => "gap_up"
  | gapDown => "gap_down"
  | nr4 => "nr4"
  | nr7 => "nr7"
  | swingHigh => "swing_high"
  | swingLow => "swing_low"
  | trendChannelUpper => "trend_channel_upper"
  | trendChannelLower => "trend_channel_lower"
  | isRange => "is_range"
  | isConsolidation => "is_consolidation"
  | baseLengthDays => "base_length_days"
  | rangeWidthPct => "range_width_pct"
  | supportLevel => "support_level"
  | resistanceLevel => "resistance_level"
  | pivotPoint => "pivot_point"
  | breakoutLevel => "breakout_level"
  | pullbackZoneLow => "pullback_zone_low"
  | pullbackZoneHigh => "pullback_zone_high"
  | patternTriangle => "pattern_triangle"
  | patternBullFlag => "pattern_bull_flag"
  | patternBearFlag => "pattern_bear_flag"
  | patternFlatBase => "pattern_flat_base"
  | patternIpoBase => "pattern_ipo_base"
  | patternRectangle => "pattern_rectangle"
  | patternCupHandle => "pattern_cup_handle"
  | patternVcp => "pattern_vcp"
  | rsVsNifty => "rs_vs_nifty"

def type : Column → ColumnType
  | .trendDirection | .breakOfStructure => .string
  | .volumeMa20 | .baseLengthDays => .integer
  | .trendStrength | .rsi14 | .adx14 | .plusDi14 | .minusDi14 | .momentumScore
  | .accumulationScore | .distributionScore => .numeric 2
  | .goldenCross | .deathCross | .atrExpansion | .atrContraction | .volatilitySqueeze
  | .volumeSpike | .volumeDryUp | .higherHigh | .higherLow | .lowerHigh | .lowerLow
  | .insideBar | .outsideBar | .gapUp | .gapDown | .nr4 | .nr7 | .isRange | .isConsolidation
  | .patternTriangle | .patternBullFlag | .patternBearFlag | .patternFlatBase | .patternIpoBase
  | .patternRectangle | .patternCupHandle | .patternVcp => .boolean
  | _ => .numeric 4

theorem mem_all (c : Column) : c ∈ all := by
  cases c <;> decide

/-- Column names identify the columns. -/
theorem nodup_names : (all.map name).Nodup := by decide +kernel

theorem name_injective {a b : Column} (h : a.name = b.name) : a = b :=
  List.inj_on_of_nodup_map nodup_names (mem_all a) (mem_all b) h

end Column

/-- The digits after the point that a column keeps. -/
def Column.scale (c : Column) : ℕ :=
  match c.type with
  | .numeric scale => scale
  | _ => 6

theorem Column.scale_pos (c : Column) : 0 < c.scale := by
  cases c <;> decide

/-- What a column of `scale` holds of a decimal of six places: the database rounds it half away from
zero. -/
def atScale (scale : ℕ) (micros : ℤ) : ℤ :=
  micros.sign*((micros.natAbs+10^(6-scale)/2)/10^(6-scale) : ℕ)

/-- A value of the snapshot, as JSON. -/
def snapshotValue (c : Column) : FieldValue → PyValue
  | .null => .none
  | .bool b => .bool b
  | .int n => .int n
  | .text s => .str s
  | .decimal micros => .str (decimalText c.scale (atScale c.scale micros))

/-- The column holds a value, of its type. -/
def FieldValue.fills : FieldValue → ColumnType → Bool
  | .decimal _, .numeric _ => true
  | .bool _, .boolean => true
  | .int _, .integer => true
  | .text _, .string => true
  | _, _ => false

/-! What the attributes of a row read as. -/
namespace DailyFeature
variable (daily : DailyFeature) (c : Column)

/-- `float(x)` of a decimal column. -/
def number : Option ℚ :=
  match daily.values c with
  | .decimal micros => some (atScale c.scale micros/10^c.scale)
  | _ => none

/-- A decimal column of four places. -/
def level : Option Numeric4 :=
  match daily.values c with
  | .decimal micros => some ⟨atScale 4 micros⟩
  | _ => none

def flag : Bool := daily.values c = .bool true

def text : Option String :=
  match daily.values c with
  | .text s => some s
  | _ => none

/-- `f"{x}"` of a decimal column. -/
def valueText : String :=
  match daily.values c with
  | .decimal micros => decimalText c.scale (atScale c.scale micros)
  | _ => "None"

/-- A number is stored as the text of a decimal. -/
theorem snapshotValue_of_number {q : ℚ} (h : daily.number c = some q) :
    ∃ n : ℤ, snapshotValue c (daily.values c) = .str (decimalText c.scale n) ∧ q = n/10^c.scale := by
  unfold number at h
  split at h
  · rename_i micros hvalue
    exact ⟨atScale c.scale micros,by rw [hvalue, snapshotValue],(Option.some.inj h).symm⟩
  · cases h

end DailyFeature

/-- The columns of a feature row, as both snapshots take them over. -/
def DailyFeature.snapshot (daily : DailyFeature) : Dict :=
  ("date",.str daily.date.isoformat)::Column.all.map fun c => (c.name,snapshotValue c (daily.values c))

def DailyFeature.Populated (daily : DailyFeature) : Prop :=
  ∀ c, (daily.values c).fills c.type = true

theorem DailyFeature.get_snapshot (daily : DailyFeature) (c : Column) :
    Dict.get daily.snapshot c.name = snapshotValue c (daily.values c) := by
  have hdate : c.name ≠ "date" := by cases c <;> decide
  have hcolumns : ∀ columns : List Column, c ∈ columns →
      (columns.map fun c => (c.name,snapshotValue c (daily.values c))).lookup c.name =
        some (snapshotValue c (daily.values c)) := by
    intro columns hmem
    induction columns with
    | nil => cases hmem
    | cons d rest ih =>
      rw [List.map_cons, List.lookup_cons]
      by_cases hd : c = d
      · subst hd
        simp
      · have hname : (c.name == d.name) = false :=
          beq_false_of_ne fun h => hd (Column.name_injective h)
        rw [hname]
        exact ih (List.mem_of_ne_of_mem hd hmem)
  unfold Dict.get DailyFeature.snapshot
  rw [List.lookup_cons, beq_false_of_ne hdate, hcolumns Column.all (Column.mem_all c)]
  rfl

end MarketScanner.Features

namespace MarketScanner.Scanner
open MarketScanner.Python MarketScanner.Market MarketScanner.Features

/-- `str(x) if x is not None else None`, of a decimal of four places. -/
def decimalStr : Option Numeric4 → PyValue
  | some x => .str (decimalText 4 x.units)
  | none => .none

def SessionFeature.columns (f : SessionFeature) : List (String × Option Numeric4) :=
  [("opening_range_high",f.openingRangeHigh),("opening_range_low",f.openingRangeLow),
    ("initial_balance_high",f.initialBalanceHigh),("initial_balance_low",f.initialBalanceLow),
    ("day_high",f.dayHigh),("day_low",f.dayLow),("prev_day_high",f.prevDayHigh),
    ("prev_day_low",f.prevDayLow),("session_vwap",f.sessionVwap)]

def SessionFeature.snapshot (f : SessionFeature) : Dict :=
  ("date",.str f.date.isoformat)::f.columns.map fun column => (column.1,decimalStr column.2)

def SessionFeature.Populated (f : SessionFeature) : Prop :=
  ∀ column ∈ f.columns, column.2.isSome = true

/-- `ScanContext.feature_snapshot`. -/
def ScanContext.featureSnapshot (c : ScanContext) : Dict :=
  ("price",decimalStr c.price)::c.features.snapshot

/-- `OrbScanContext.feature_snapshot`. -/
def OrbScanContext.featureSnapshot (c : OrbScanContext) : Dict :=
  ("price",decimalStr c.price)::("price_date",match c.priceDate with
    | some date => .str date.isoformat
    | none => .none)::c.sessionFeature.snapshot

/-! A context is populated when the price is there and every column of the rows it was built from. -/

def ScanContext.Populated (c : ScanContext) : Prop :=
  c.price.isSome = true ∧ c.features.Populated

def OrbScanContext.Populated (c : OrbScanContext) : Prop :=
  c.price.isSome = true ∧ c.priceDate.isSome = true ∧ c.sessionFeature.Populated ∧
    ∃ daily, c.dailyFeature = some daily ∧ daily.Populated

def CandidateContext.Populated (c : CandidateContext) : Prop :=
  c.daily.Populated ∧ ∃ session, c.session = some session ∧ session.Populated

end MarketScanner.Scanner
