import MarketScanner.Features.Pandas

/-! The shared indicators. All but the swing points are causal. -/
namespace MarketScanner.Features.Indicators
open MarketScanner.Library MarketScanner.Python MarketScanner.Features Series

def sma (s : Series) (period : ℕ) : Series := rolling period mean s

def ema (s : Series) (span : ℕ) : Series := ewm (2/(span+1)) span s

def wilderSmooth (s : Series) (period : ℕ) : Series := ewm (1/period) period s

/-- The largest of the values that are not missing. -/
def rowMax (xs : List PyFloat) : PyFloat :=
  xs.foldl (fun best x => if best = .nan then x else if best.lt x then x else best) .nan

def trueRange (high low close : Series) : Series :=
  let prevClose := shifted 1 close
  List.zipWith (fun x yz => rowMax [x,yz.1,yz.2]) (sub high low)
    (List.zip (abs (sub high prevClose)) (abs (sub low prevClose)))

def atr (high low close : Series) (period : ℕ) : Series :=
  wilderSmooth (trueRange high low close) period

def rsi (close : Series) (period : ℕ) : Series :=
  let delta := diff close
  let gain := clipped (some 0) none delta
  let loss := neg (clipped none (some 0) delta)
  let avgGain := wilderSmooth gain period
  let avgLoss := wilderSmooth loss period
  let rs := div avgGain (replaceZero avgLoss)
  let result := rs.map fun x =>
    PyFloat.sub (.finite 100) (divide (.finite 100) (PyFloat.add (.finite 1) x))
  whereOr result (differs avgLoss 0) (.finite 100)

structure Macd where
  line : Series
  signal : Series
  histogram : Series

def macd (close : Series) : Macd :=
  let line := sub (ema close 12) (ema close 26)
  let signal := ewm (2/10) 9 line
  ⟨line,signal,sub line signal⟩

structure Adx where
  adx : Series
  plusDi : Series
  minusDi : Series

def adx (high low close : Series) (period : ℕ) : Adx :=
  let upMove := diff high
  let downMove := neg (diff low)
  let plusDm := whereOr upMove (Flags.and (gt upMove downMove) (above upMove 0)) (.finite 0)
  let minusDm := whereOr downMove (Flags.and (gt downMove upMove) (above downMove 0)) (.finite 0)
  let atrValue := replaceZero (atr high low close period)
  let plusDi := div (scale 100 (wilderSmooth plusDm period)) atrValue
  let minusDi := div (scale 100 (wilderSmooth minusDm period)) atrValue
  let diSum := replaceZero (add plusDi minusDi)
  let dx := div (scale 100 (abs (sub plusDi minusDi))) diSum
  ⟨wilderSmooth (fillna 0 dx) period,plusDi,minusDi⟩

/-- Upper, middle and lower of a channel around a middle line. -/
structure Bands where
  upper : Series
  middle : Series
  lower : Series

def bands (middle width : Series) : Bands := ⟨add middle width,middle,sub middle width⟩

def bollingerBands [FloatMath] (close : Series) (period : ℕ) (numStd : ℚ) : Bands :=
  bands (sma close period) (scale numStd (rolling period std close))

def keltnerChannels (high low close : Series) (period atrPeriod : ℕ) (multiplier : ℚ) : Bands :=
  bands (ema close period) (scale multiplier (atr high low close atrPeriod))

def obv (close volume : Series) : Series :=
  cumsum (mul (List.map sign (fillna 0 (diff close))) volume)

/-- A bar is a swing point if it is the extreme within `window` bars on both sides; the bars after
it must be there. -/
def swingPoints (high low : Series) (window : ℕ) : Flags × Flags :=
  (eq high (rollingCentered window maximum high),eq low (rollingCentered window minimum low))

section Causality
variable (n : ℕ)

@[simp] theorem sma_take (s : Series) (period : ℕ) :
    sma (s.take n) period = (sma s period).take n := rolling_take n period mean s

@[simp] theorem ema_take (s : Series) (span : ℕ) :
    ema (s.take n) span = (ema s span).take n := ewm_take n _ span s

@[simp] theorem wilderSmooth_take (s : Series) (period : ℕ) :
    wilderSmooth (s.take n) period = (wilderSmooth s period).take n := ewm_take n _ period s

theorem zip_take {α β : Type*} (xs : List α) (ys : List β) :
    List.zip (xs.take n) (ys.take n) = (List.zip xs ys).take n := List.take_zipWith.symm

@[simp] theorem trueRange_take (high low close : Series) :
    trueRange (high.take n) (low.take n) (close.take n) = (trueRange high low close).take n := by
  simp only [trueRange, shift_take, ← List.take_zipWith, List.map_take, zip_take]

@[simp] theorem atr_take (high low close : Series) (period : ℕ) :
    atr (high.take n) (low.take n) (close.take n) period = (atr high low close period).take n := by
  simp only [atr, trueRange_take, wilderSmooth_take]

@[simp] theorem rsi_take (close : Series) (period : ℕ) :
    rsi (close.take n) period = (rsi close period).take n := by
  simp only [rsi, diff_take, ← List.take_zipWith, List.map_take, wilderSmooth_take]

theorem macd_take (close : Series) :
    macd (close.take n) =
      ⟨(macd close).line.take n,(macd close).signal.take n,(macd close).histogram.take n⟩ := by
  simp only [macd, ema_take, ← List.take_zipWith, ewm_take]

theorem adx_take (high low close : Series) (period : ℕ) :
    adx (high.take n) (low.take n) (close.take n) period =
      ⟨(adx high low close period).adx.take n,(adx high low close period).plusDi.take n,
        (adx high low close period).minusDi.take n⟩ := by
  simp only [adx, diff_take, ← List.take_zipWith, List.map_take, atr_take, wilderSmooth_take]

theorem bands_take (middle width : Series) :
    bands (middle.take n) (width.take n) =
      ⟨(bands middle width).upper.take n,(bands middle width).middle.take n,
        (bands middle width).lower.take n⟩ := by
  simp only [bands, ← List.take_zipWith]

theorem bollingerBands_take [FloatMath] (close : Series) (period : ℕ) (numStd : ℚ) :
    bollingerBands (close.take n) period numStd =
      ⟨(bollingerBands close period numStd).upper.take n,
        (bollingerBands close period numStd).middle.take n,
        (bollingerBands close period numStd).lower.take n⟩ := by
  simp only [bollingerBands, sma_take, rolling_take, List.map_take, bands_take]

theorem keltnerChannels_take (high low close : Series) (period atrPeriod : ℕ) (multiplier : ℚ) :
    keltnerChannels (high.take n) (low.take n) (close.take n) period atrPeriod multiplier =
      ⟨(keltnerChannels high low close period atrPeriod multiplier).upper.take n,
        (keltnerChannels high low close period atrPeriod multiplier).middle.take n,
        (keltnerChannels high low close period atrPeriod multiplier).lower.take n⟩ := by
  simp only [keltnerChannels, ema_take, atr_take, List.map_take, bands_take]

@[simp] theorem obv_take (close volume : Series) :
    obv (close.take n) (volume.take n) = (obv close volume).take n := by
  simp only [obv, diff_take, ← List.take_zipWith, List.map_take, accumulate_take]

end Causality

end MarketScanner.Features.Indicators
