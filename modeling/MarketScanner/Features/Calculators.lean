import MarketScanner.Features.Indicators
import MarketScanner.Market.Prices

/-! The daily feature calculators, one per category, and the frame they add up to. Only the swing
points of two of them look ahead. -/
namespace MarketScanner.Features
open MarketScanner.Library MarketScanner.Python MarketScanner.Market Indicators Series

inductive Column
  | ema20 | ema50 | ema200 | sma20 | trendDirection | trendStrength | goldenCross | deathCross
  | rsi14 | macdLine | macdSignal | macdHistogram | adx14 | plusDi14 | minusDi14 | momentumScore
  | atr14 | atrExpansion | atrContraction | bbUpper | bbMiddle | bbLower | bbWidth
  | kcUpper | kcMiddle | kcLower | volatilitySqueeze
  | volumeMa20 | relativeVolume | obv | volumeSpike | volumeDryUp
  | accumulationScore | distributionScore
  | higherHigh | higherLow | lowerHigh | lowerLow | breakOfStructure | insideBar | outsideBar
  | gapUp | gapDown | nr4 | nr7
  | swingHigh | swingLow | trendChannelUpper | trendChannelLower | isRange | isConsolidation
  | baseLengthDays | rangeWidthPct
  | supportLevel | resistanceLevel | pivotPoint | breakoutLevel | pullbackZoneLow
  | pullbackZoneHigh
  | patternTriangle | patternBullFlag | patternBearFlag | patternFlatBase | patternIpoBase
  | patternRectangle | patternCupHandle | patternVcp
  | rsVsNifty
  deriving DecidableEq, Repr

/-- One entry of a frame. -/
inductive Cell
  | num (x : PyFloat)
  | flag (b : Bool)
  | int (n : ℤ)
  | text (s : String)
  | na
  deriving DecidableEq

/-- The columns of a frame in order. -/
abbrev Frame := List (Column × List Cell)

def Frame.take (n : ℕ) (f : Frame) : Frame := f.map fun c => (c.1,c.2.take n)

/-- `df[c]`. -/
def Frame.column (f : Frame) (c : Column) : List Cell := (f.lookup c).getD []

def numbers (c : Column) (s : Series) : Column × List Cell := (c,s.map Cell.num)
def flags (c : Column) (s : Flags) : Column × List Cell := (c,s.map Cell.flag)

def highs (df : List DailyPrice) : Series := df.map fun p => .finite p.high.toRat
def lows (df : List DailyPrice) : Series := df.map fun p => .finite p.low.toRat
def closes (df : List DailyPrice) : Series := df.map fun p => .finite p.close.toRat
def volumes (df : List DailyPrice) : Series := df.map fun p => .finite p.volume

/-- `TrendFeatureCalculator.calculate`. -/
def trendFeatures (df : List DailyPrice) : Frame :=
  let close := closes df
  let ema20 := ema close 20
  let ema50 := ema close 50
  let ema200 := ema close 200
  let uptrend := Flags.and (Flags.and (gt close ema20) (gt ema20 ema50)) (gt ema50 ema200)
  let downtrend := Flags.and (Flags.and (lt close ema20) (lt ema20 ema50)) (lt ema50 ema200)
  let trendDirection := List.zipWith
    (fun up down => if up then "up" else if down then "down" else "sideways") uptrend downtrend
  let spreadPct := scale 100 (div (abs (sub ema20 ema200)) (replaceZero close))
  let above200 := gt ema50 ema200
  let prevAbove200 := Flags.shifted above200
  [numbers .ema20 ema20,numbers .ema50 ema50,numbers .ema200 ema200,numbers .sma20 (sma close 20),
    (.trendDirection,trendDirection.map Cell.text),
    numbers .trendStrength (clipped none (some 100) (scale 10 spreadPct)),
    flags .goldenCross (Flags.and above200 (Flags.not prevAbove200)),
    flags .deathCross (Flags.and (Flags.not above200) prevAbove200)]

/-- `MomentumFeatureCalculator.calculate`. -/
def momentumFeatures (df : List DailyPrice) : Frame :=
  let close := closes df
  let rsi14 := rsi close 14
  let m := macd close
  let a := adx (highs df) (lows df) close 14
  let macdHistPct := scale 100 (div m.histogram (replaceZero close))
  let fromRsi := scale 2 (scale (1/2) (plus (-50) rsi14))
  let fromMacd := scale (1/2) (clipped (some (-100)) (some 100) (scale 50 macdHistPct))
  [numbers .rsi14 rsi14,numbers .macdLine m.line,numbers .macdSignal m.signal,
    numbers .macdHistogram m.histogram,numbers .adx14 a.adx,numbers .plusDi14 a.plusDi,
    numbers .minusDi14 a.minusDi,
    numbers .momentumScore (clipped (some (-100)) (some 100) (add fromRsi fromMacd))]

/-- `VolatilityFeatureCalculator.calculate`. -/
def volatilityFeatures [FloatMath] (df : List DailyPrice) : Frame :=
  let high := highs df
  let low := lows df
  let close := closes df
  let atr14 := atr high low close 14
  let atrAvg20 := rolling 20 mean atr14
  let bb := bollingerBands close 20 2
  let bbWidth := scale 100 (div (sub bb.upper bb.lower) (replaceZero bb.middle))
  let kc := keltnerChannels high low close 20 10 2
  [numbers .atr14 atr14,flags .atrExpansion (gt atr14 (scale (6/5) atrAvg20)),
    flags .atrContraction (lt atr14 (scale (4/5) atrAvg20)),
    numbers .bbUpper bb.upper,numbers .bbMiddle bb.middle,numbers .bbLower bb.lower,
    numbers .bbWidth bbWidth,
    numbers .kcUpper kc.upper,numbers .kcMiddle kc.middle,numbers .kcLower kc.lower,
    flags .volatilitySqueeze (Flags.and (lt bb.upper kc.upper) (gt bb.lower kc.lower))]

/-- `VolumeFeatureCalculator.calculate`. -/
def volumeFeatures (df : List DailyPrice) : Frame :=
  let high := highs df
  let low := lows df
  let close := closes df
  let volume := volumes df
  let volumeMa20 := sma volume 20
  let relativeVolume := div volume (replaceZero volumeMa20)
  let range := replaceZero (sub high low)
  let moneyFlowMultiplier := div (sub (sub close low) (sub high close)) range
  let moneyFlowVolume := mul (fillna 0 moneyFlowMultiplier) volume
  let rollingVolumeSum := replaceZero (rolling 20 total volume)
  let accumulation := rolling 20 total (clipped (some 0) none moneyFlowVolume)
  let distribution := rolling 20 total (clipped (some 0) none (neg moneyFlowVolume))
  [numbers .volumeMa20 volumeMa20,numbers .relativeVolume relativeVolume,
    numbers .obv (Indicators.obv close volume),flags .volumeSpike (above relativeVolume 2),
    flags .volumeDryUp (below relativeVolume (1/2)),
    numbers .accumulationScore
      (clipped (some 0) (some 100) (scale 100 (div accumulation rollingVolumeSum))),
    numbers .distributionScore
      (clipped (some 0) (some 100) (scale 100 (div distribution rollingVolumeSum)))]

/-- `PriceActionFeatureCalculator.calculate`. -/
def priceActionFeatures (df : List DailyPrice) : Frame :=
  let high := highs df
  let low := lows df
  let close := closes df
  let prevHigh := shifted 1 high
  let prevLow := shifted 1 low
  let bosBullish := gt close (rolling 20 maximum prevHigh)
  let bosBearish := lt close (rolling 20 minimum prevLow)
  let breakOfStructure := List.zipWith
    (fun bullish bearish =>
      if bearish then Cell.text "bearish" else if bullish then Cell.text "bullish" else Cell.na)
    bosBullish bosBearish
  let barRange := sub high low
  [flags .higherHigh (gt high prevHigh),flags .higherLow (gt low prevLow),
    flags .lowerHigh (lt high prevHigh),flags .lowerLow (lt low prevLow),
    (.breakOfStructure,breakOfStructure),
    flags .insideBar (Flags.and (lt high prevHigh) (gt low prevLow)),
    flags .outsideBar (Flags.and (gt high prevHigh) (lt low prevLow)),
    flags .gapUp (gt low prevHigh),flags .gapDown (lt high prevLow),
    flags .nr4 (eq barRange (rolling 4 minimum barRange)),
    flags .nr7 (eq barRange (rolling 7 minimum barRange))]

/-- `_rolling_range_pct`: the width of the last `window` bars in percent of the close, each step of it a
double. -/
def rollingRangePct (high low close : Series) (window : ℕ) : Series :=
  let width := doubles (sub (rolling window maximum (doubles high)) (rolling window minimum (doubles low)))
  doubles (scale 100 (doubles (div width (replaceZero (doubles close)))))

/-- `high.where(is_swing_high).ffill()`. -/
def swingHighs (df : List DailyPrice) : Series :=
  ffill (whereOr (highs df) (swingPoints (highs df) (lows df) 2).1 .nan)

/-- `low.where(is_swing_low).ffill()`. -/
def swingLows (df : List DailyPrice) : Series :=
  ffill (whereOr (lows df) (swingPoints (highs df) (lows df) 2).2 .nan)

/-- The columns of the structure category that are not swing points. -/
def channelFeatures [FloatMath] (df : List DailyPrice) : Frame :=
  let high := highs df
  let low := lows df
  let close := closes df
  let regressionLine := rolling 20 regressionLineValue close
  let channelStd := scale 2 (rolling 20 std close)
  let rangeWidthPct := rollingRangePct high low close 20
  let isConsolidation := below (rollingRangePct high low close 10) 8
  let streakId := Flags.cumsum (Flags.not isConsolidation)
  let baseLengthDays := List.zipWith (fun count inside => if inside then count+1 else 0)
    (cumcount streakId) isConsolidation
  [numbers .trendChannelUpper (add regressionLine channelStd),
    numbers .trendChannelLower (sub regressionLine channelStd),
    flags .isRange (below rangeWidthPct 15),flags .isConsolidation isConsolidation,
    (.baseLengthDays,baseLengthDays.map fun (days : ℕ) => Cell.int days),
    numbers .rangeWidthPct rangeWidthPct]

/-- `StructureFeatureCalculator.calculate`. -/
def structureFeatures [FloatMath] (df : List DailyPrice) : Frame :=
  [numbers .swingHigh (swingHighs df),numbers .swingLow (swingLows df)] ++ channelFeatures df

/-- The levels of the support and resistance category that are not measured from swing points. -/
def levelFeatures (df : List DailyPrice) : Frame :=
  let high := highs df
  let low := lows df
  let close := closes df
  let supportLevel := rolling 20 minimum low
  let resistanceLevel := rolling 20 maximum high
  let pivotPoint := scale (1/3) (add (add (shifted 1 high) (shifted 1 low)) (shifted 1 close))
  [numbers .supportLevel supportLevel,numbers .resistanceLevel resistanceLevel,
    numbers .pivotPoint pivotPoint,numbers .breakoutLevel resistanceLevel]

/-- The swing high less a part of the last move. -/
def pullback (ratio : ℚ) (swingHigh swingLow : Series) : Series :=
  sub swingHigh (scale ratio (sub swingHigh swingLow))

/-- `SupportResistanceFeatureCalculator.calculate`. -/
def supportResistanceFeatures (df : List DailyPrice) : Frame :=
  levelFeatures df ++
    [numbers .pullbackZoneLow (pullback (1/2) (swingHighs df) (swingLows df)),
      numbers .pullbackZoneHigh (pullback (382/1000) (swingHighs df) (swingLows df))]

/-- `PatternFeatureCalculator.calculate`. -/
def patternFeatures (df : List DailyPrice) : Frame :=
  let high := highs df
  let low := lows df
  let close := closes df
  let patternTriangle :=
    Flags.and (below (rolling 15 slope high) 0) (above (rolling 15 slope low) 0)
  let impulseReturn := shifted 5 (pctChange 10 close)
  let tightFlag := below (rollingRangePct high low close 5) 10
  let flagSlope := rolling 5 slope close
  let bullFlag := Flags.and (Flags.and (above impulseReturn (15/100)) tightFlag) (atMost flagSlope 0)
  let bearFlag :=
    Flags.and (Flags.and (below impulseReturn (-15/100)) tightFlag) (atLeast flagSlope 0)
  let baseRangePct := rollingRangePct high low close 15
  let nearBaseHighs := ge close (scale (9/10) (rolling 15 maximum high))
  let flatBase := Flags.and (below baseRangePct 15) nearBaseHighs
  let early := accumulate (fun (bars : ℕ) (_ : PyFloat) => (bars+1,decide (bars < 40))) 0 close
  let cupStartHigh := rolling 40 maximum (shifted 40 high)
  let lowPosition := rolling 40 argminRatio low
  let uShaped := Flags.and (atLeast lowPosition (1/4)) (atMost lowPosition (3/4))
  let recovered := ge close (scale (9/10) cupStartHigh)
  let leg1 := rollingRangePct high low close 10
  let leg2 := shifted 10 leg1
  let leg3 := shifted 20 leg1
  [flags .patternTriangle patternTriangle,flags .patternBullFlag bullFlag,
    flags .patternBearFlag bearFlag,flags .patternFlatBase flatBase,
    flags .patternIpoBase (Flags.and early flatBase),
    flags .patternRectangle (Flags.and (below baseRangePct 12) (Flags.not nearBaseHighs)),
    flags .patternCupHandle
      (Flags.and (Flags.and uShaped recovered) (below (rollingRangePct high low close 8) 8)),
    flags .patternVcp (Flags.and (lt leg1 leg2) (lt leg2 leg3))]

/-- The benchmark's 20-bar return in percent on a date, missing where it has no bar. -/
def benchmarkReturn (benchmark : List DailyPrice) (d : Date) : PyFloat :=
  ((List.zip (benchmark.map DailyPrice.date) (scale 100 (pctChange 20 (closes benchmark)))).lookup
    d).getD .nan

/-- `RelativeStrengthFeatureCalculator.calculate`. -/
def relativeStrengthFeatures (df : List DailyPrice) (benchmark : Option (List DailyPrice)) :
    Frame :=
  match benchmark with
  | none | some [] => [numbers .rsVsNifty (df.map fun _ => .nan)]
  | some benchmark =>
    [numbers .rsVsNifty (sub (scale 100 (pctChange 20 (closes df)))
      (df.map fun p => benchmarkReturn benchmark p.date))]

/-- `_BOUNDED_COLUMNS`. -/
def bounds : Column → Option (ℚ × ℚ)
  | .rsi14 | .adx14 | .plusDi14 | .minusDi14 | .trendStrength | .accumulationScore
  | .distributionScore => some (0,100)
  | .momentumScore => some (-100,100)
  | _ => none

/-- `FeatureValidator.clean` on one entry: infinities are missing, bounded columns are clipped. -/
def cleanCell (c : Column) : Cell → Cell
  | .num x =>
    let x := match x with
      | .inf _ => .nan
      | x => x
    match bounds c with
    | some (lower,upper) => .num (clip (some lower) (some upper) x)
    | none => .num x
  | cell => cell

def clean (f : Frame) : Frame := f.map fun c => (c.1,c.2.map (cleanCell c.1))

/-- `DailyFeatureCalculator.calculate`. -/
def calculate [FloatMath] (df : List DailyPrice) (benchmark : Option (List DailyPrice)) : Frame :=
  clean (trendFeatures df ++ momentumFeatures df ++ volatilityFeatures df ++ volumeFeatures df ++
    priceActionFeatures df ++ structureFeatures df ++ supportResistanceFeatures df ++
    patternFeatures df ++ relativeStrengthFeatures df benchmark)

end MarketScanner.Features
