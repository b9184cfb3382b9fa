import MarketScanner.Candidates.Builder
import MarketScanner.Scanner.Strategies

/-! The candidate scanners: the checks that each makes of a built candidate, recorded in it. -/
namespace MarketScanner.Candidates
open MarketScanner.Library MarketScanner.Python MarketScanner.Config MarketScanner.Market
open MarketScanner.Universe MarketScanner.Features MarketScanner.Scanner

/-- `as_float`, which does not catch the `OverflowError` of an int past the floats. -/
def asFloat [Builtins] (value : PyValue) : Except String (Option PyFloat) :=
  match value.toFloat with
  | .ok x => .ok (some x)
  | .error .overflowError => .error "int too large to convert to float"
  | .error _ => .ok none

/-- `x is not None and x >= minimum`. -/
def atLeast (x : Option PyFloat) (minimum : ℚ) : Bool :=
  x.any fun x => PyFloat.le (.finite minimum) x

/-- `x is not None and x > minimum`. -/
def above (x : Option PyFloat) (minimum : ℚ) : Bool :=
  x.any fun x => PyFloat.lt (.finite minimum) x

/-- A technical feature of the candidate, as a number. -/
def StockCandidate.feature [Builtins] (candidate : StockCandidate) (key : String) :
    Except String (Option PyFloat) :=
  asFloat (candidate.technicalFeatureSnapshot.get key)

/-- What `scan` leaves in the candidate. -/
def StockCandidate.record (candidate : StockCandidate) (checks : List (String × Bool))
    (category : AlertCategory) : StockCandidate :=
  { candidate with
    passedRules := labelsWith checks true
    failedRules := labelsWith checks false
    alertCategory := if allPassed checks then some category else none
    reason := checksReason checks }

/-- `CandidateScannerBase.validate`. -/
def validate (candidate : StockCandidate) : ValidationResult :=
  let missing := fun key => match candidate.technicalFeatureSnapshot.get key with
    | .none => true
    | _ => false
  if candidate.«universe» = .ipo then ⟨true,none⟩
  else if candidate.setupState.isNone then ⟨false,some "no identifiable setup state"⟩
  else if missing "adx14" || missing "relative_volume" then
    ⟨false,some "missing adx14/relative_volume"⟩
  else ⟨true,none⟩

/-- The score as the column takes it; `build_candidate` leaves no other than a finite one. -/
def StockCandidate.score (candidate : StockCandidate) : ℚ :=
  match candidate.overallScore with
  | .finite q => q
  | _ => 0

/-- The checks of a candidate, or what they raise. -/
abbrev CandidateChecks := StockCandidate → Except String (List (String × Bool))

/-- A scanner over candidates: how it builds one, what it checks, the category it gives. The snapshot is
taken after the scan. -/
def candidateStrategy (settings : Settings) (u : UniverseView) (scanner : MainScanner)
    (build : CandidateContext → StockCandidate) (checks : CandidateChecks)
    (category : StockCandidate → AlertCategory) : Strategy CandidateContext where
  name := scanner.name
  getCandidateSymbols _ := u.candidates settings scanner
  validate c := .ok (validate (build c))
  scan c := (checks (build c)).map fun results => ⟨allPassed results,checksReason results⟩
  score c := .ok (build c).score
  featureSnapshot c :=
    ((build c).record ((checks (build c)).toOption.getD []) (category (build c))).toFeatureSnapshot

namespace FnoMomentumScanner

def build (settings : Settings) (c : CandidateContext) : StockCandidate :=
  buildCandidate settings MainScanner.fnoMomentum.name .fno c

def checks [Builtins] (settings : Settings) : CandidateChecks := fun candidate => do
  let rvol ← candidate.feature "relative_volume"
  let adx ← candidate.feature "adx14"
  .ok [("setup_state_is_momentum_or_confirmed",
      decide (candidate.setupState ∈ [some SetupState.momentum,some .breakoutConfirmed])),
    ("relative_volume>=threshold",atLeast rvol settings.fnoMomentumMinRvol),
    ("adx>=threshold",atLeast adx settings.fnoMomentumMinAdx),
    ("overall_score>=threshold",
      PyFloat.le (.finite settings.fnoMomentumMinScore) candidate.overallScore)]

def category (candidate : StockCandidate) : AlertCategory :=
  if candidate.setupState = some .momentum then .fnoMomentum else .fnoBreakout

end FnoMomentumScanner

def fnoMomentumScanner [Builtins] (settings : Settings) (u : UniverseView) :
    Strategy CandidateContext :=
  candidateStrategy settings u .fnoMomentum (FnoMomentumScanner.build settings)
    (FnoMomentumScanner.checks settings) FnoMomentumScanner.category

namespace PreBreakoutScanner

/-- `_ipo_symbol_ids`, as `get_candidate_symbols` fills it. -/
def ipoSymbolIds (settings : Settings) (u : UniverseView) : List ℕ :=
  (UniverseProvider.getIpoUniverse settings u.today u.symbols).map Row.id

def build (settings : Settings) (u : UniverseView) (c : CandidateContext) : StockCandidate :=
  buildCandidate settings MainScanner.preBreakout.name
    (if c.symbol.id ∈ ipoSymbolIds settings u then .ipo else .fno) c

def checks (settings : Settings) : CandidateChecks := fun candidate =>
  .ok [("setup_state_is_pre_breakout",decide (candidate.setupState = some .preBreakout)),
    ("overall_score>=threshold",
      PyFloat.le (.finite settings.preBreakoutMinScore) candidate.overallScore)]

def category (candidate : StockCandidate) : AlertCategory :=
  if candidate.«universe» = .ipo then .ipoPreBreakout else .fnoPreBreakout

end PreBreakoutScanner

def preBreakoutScanner (settings : Settings) (u : UniverseView) : Strategy CandidateContext :=
  candidateStrategy settings u .preBreakout (PreBreakoutScanner.build settings u)
    (PreBreakoutScanner.checks settings) PreBreakoutScanner.category

namespace IpoIntradayScanner

/-- `get_52_week_high_low`, over the symbol's bars: the highest high and the lowest low. -/
def get52WeekHighLow (today : Date) (bars : List DailyPrice) : Option (Numeric4 × Numeric4) :=
  match bars.filter fun bar => decide (today.day-365 ≤ bar.date.day) with
  | [] => none
  | bar::rest =>
    some (⟨rest.foldl (fun high p => max high p.high.units) bar.high.units⟩,
      ⟨rest.foldl (fun low p => min low p.low.units) bar.low.units⟩)

/-- The raw values that `build_context` adds: the 52-week high and low, and the latest volume. -/
def ipoEntries (today : Date) (bars : List DailyPrice) : Dict :=
  (match get52WeekHighLow today bars with
    | some highLow => [("ipo_52w_high",.str (decimalText 4 highLow.1.units)),
        ("ipo_52w_low",.str (decimalText 4 highLow.2.units))]
    | none => []) ++
  match bars.getLast? with
  | some latest => [("ipo_latest_volume",.int latest.volume)]
  | none => []

def build (settings : Settings) (u : UniverseView) (c : CandidateContext) : StockCandidate :=
  let candidate := buildCandidate settings MainScanner.ipoIntraday.name .ipo c
  { candidate with
    technicalFeatureSnapshot := Fundamentals.updateSnapshot candidate.technicalFeatureSnapshot
      (ipoEntries u.today c.bars) }

/-- `(high - price) / high * 100`, below a positive high. -/
def pctBelowHigh (high price : Option PyFloat) : Option PyFloat :=
  match high, price with
  | some high, some price =>
    if PyFloat.lt (.finite 0) high then
      some (((high.sub price).div high).mul (.finite 100))
    else none
  | _, _ => none

/-- `(price / low - 1) * 100`, above a positive low. -/
def pctAboveLow (low price : Option PyFloat) : Option PyFloat :=
  match low, price with
  | some low, some price =>
    if PyFloat.lt (.finite 0) low then
      some (((price.div low).sub (.finite 1)).mul (.finite 100))
    else none
  | _, _ => none

def checks [Builtins] (settings : Settings) : CandidateChecks := fun candidate => do
  let price := candidate.price.map fun price => PyFloat.finite price.toRat
  let rvol ← candidate.feature "relative_volume"
  let high ← candidate.feature "ipo_52w_high"
  let low ← candidate.feature "ipo_52w_low"
  let volume ← candidate.feature "ipo_latest_volume"
  let below := pctBelowHigh high price
  let aboveLow := pctAboveLow low price
  .ok [("setup_state_is_pre_breakout_confirmed_or_momentum",decide (candidate.setupState ∈
      [some SetupState.preBreakout,some .breakoutConfirmed,some .momentum])),
    ("relative_volume>=threshold",atLeast rvol settings.ipoIntradayMinRvol),
    ("overall_score>=threshold",
      PyFloat.le (.finite settings.ipoIntradayMinScore) candidate.overallScore),
    ("price_within_pct_below_52w_high",above below 0 &&
      below.any fun pct => pct.lt (.finite settings.ipoIntradayMaxPctBelow52wHigh)),
    ("price_above_52w_low_multiple",above aboveLow settings.ipoIntradayMinPctAbove52wLow),
    ("price>min_price",above price settings.ipoIntradayMinPrice),
    ("volume>min_volume",above volume settings.ipoIntradayMinVolume)]

def category (candidate : StockCandidate) : AlertCategory :=
  if candidate.setupState = some .momentum then .ipoMomentum
  else if candidate.setupState = some .breakoutConfirmed then .ipoBreakout
  else .ipoPreBreakout

end IpoIntradayScanner

def ipoIntradayScanner [Builtins] (settings : Settings) (u : UniverseView) :
    Strategy CandidateContext :=
  candidateStrategy settings u .ipoIntraday (IpoIntradayScanner.build settings u)
    (IpoIntradayScanner.checks settings) IpoIntradayScanner.category

end MarketScanner.Candidates
