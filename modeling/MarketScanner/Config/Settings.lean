import MarketScanner.Python.Values

/-! The settings read by the modelled functions, with their defaults. The market timezone is its
offset from UTC: the zone in use has had one offset throughout the data's range. -/
namespace MarketScanner.Config
open MarketScanner.Python

/-- The values of `active_market_data_provider`. -/
inductive MarketDataProviderName
  | upstox | fivepaisa
  deriving DecidableEq

structure Settings where
  decisionMinAlertScore : PyFloat := .finite 80
  decisionMinRvol : PyFloat := .finite 2
  decisionMinAdx : PyFloat := .finite 25
  decisionResistanceDistancePercent : PyFloat := .finite 3
  decisionMaxDataAgeDays : ℤ := 1
  alertCooldownMinutes : ℤ := 30
  alertHighPriorityScore : PyFloat := .finite 90
  alertExpiryMinutes : ℤ := 240
  alertMaxRetries : ℤ := 3
  pipelineConsumerName : String := "pipeline_worker_1"
  pipelineStreamMaxlen : ℕ := 500
  marketTimezone : TimeDelta := TimeDelta.minutes 330
  marketOpenTime : TimeDelta := TimeDelta.minutes 555
  marketCloseTime : TimeDelta := TimeDelta.minutes 930
  upstoxMaxRetries : ℤ := 3
  upstoxRetryBackoffSeconds : ℚ := 2
  upstoxRateLimitPerSec : ℚ := 50
  telegramMaxRetries : ℤ := 3
  universeReconciliationMinFraction : ℚ := 1/2
  ipoUniverseMaxAgeYears : ℤ := 3
  featureRsBenchmarkSymbol : String := "NIFTY"
  featureDailyLookbackBars : ℕ := 500
  fundamentalCacheTtlMinutes : ℤ := 240
  fundamentalBatchSize : ℤ := 10
  fundamentalRateLimitCooldownSeconds : ℚ := 1800
  fundamentalRateLimitBackoffMultiplier : ℚ := 2
  fundamentalRateLimitMaxCooldownSeconds : ℚ := 21600
  fundamentalMaxRequestsPerRun : ℤ := 5000
  fundamentalMaxRequestsPerDay : ℤ := 20000
  activeMarketDataProvider : MarketDataProviderName := .upstox
  scannerBreakoutAdxThreshold : ℚ := 20
  scannerBreakoutRelativeVolumeThreshold : ℚ := 3/2
  scannerBreakoutVolumeIncreasingMinRelativeVolume : ℚ := 1
  scannerBreakoutResistanceProximityPct : ℚ := 3
  scannerMomentumMinScore : ℚ := 50
  scannerScoreWeightTrend : ℚ := 1/4
  scannerScoreWeightMomentum : ℚ := 1/5
  scannerScoreWeightVolume : ℚ := 1/5
  scannerScoreWeightVolatility : ℚ := 1/10
  scannerScoreWeightRelativeStrength : ℚ := 1/10
  scannerScoreWeightSupportResistance : ℚ := 3/20
  technicalWeightTrend : ℚ := 1/4
  technicalWeightMomentum : ℚ := 1/5
  technicalWeightVolume : ℚ := 1/5
  technicalWeightVolatility : ℚ := 1/10
  technicalWeightVwap : ℚ := 3/20
  technicalWeightStructure : ℚ := 1/10
  fnoMomentumMinRvol : ℚ := 3/2
  fnoMomentumMinAdx : ℚ := 20
  fnoMomentumMinScore : ℚ := 60
  preBreakoutProximityPct : ℚ := 5
  preBreakoutMinScore : ℚ := 55
  ipoIntradayMinRvol : ℚ := 3/2
  ipoIntradayMinScore : ℚ := 55
  ipoIntradayMaxPctBelow52wHigh : ℚ := 10
  ipoIntradayMinPctAbove52wLow : ℚ := 100
  ipoIntradayMinPrice : ℚ := 25
  ipoIntradayMinVolume : ℤ := 250000
  overallFundamentalWeight : PyFloat := .finite (3/10)
  overallTechnicalWeight : PyFloat := .finite (7/10)
  fundamentalWeightGrowth : ℚ := 1/5
  fundamentalWeightProfitability : ℚ := 1/5
  fundamentalWeightFinancialStrength : ℚ := 1/5
  fundamentalWeightCashFlow : ℚ := 3/20
  fundamentalWeightValuation : ℚ := 3/20
  fundamentalWeightOwnership : ℚ := 1/10
  fundamentalMinDataCompletenessPct : ℚ := 50
  signalFusionWeightTechnical : ℚ := 1/4
  signalFusionWeightVolume : ℚ := 3/20
  signalFusionWeightOi : ℚ := 3/20
  signalFusionWeightSectorRrg : ℚ := 3/20
  signalFusionWeightMarketRegime : ℚ := 1/10
  signalFusionWeightNews : ℚ := 1/10
  signalFusionWeightFundamentals : ℚ := 1/10
  marketRegimeWeightAdvanceDecline : ℚ := 142857/1000000
  marketRegimeWeightUpDownVolume : ℚ := 142857/1000000
  marketRegimeWeightPctAboveMa : ℚ := 142857/1000000
  marketRegimeWeightNewHighsLows : ℚ := 142857/1000000
  marketRegimeWeightIndexTrend : ℚ := 142857/1000000
  marketRegimeWeightVolatility : ℚ := 142857/1000000
  marketRegimeWeightSectorParticipation : ℚ := 142858/1000000
  compoundingAtrStopMultiplier : ℚ := 3/2
  compoundingWeightUpside : ℚ := 7/20
  compoundingWeightRiskReward : ℚ := 3/10
  compoundingWeightHigherTimeframe : ℚ := 3/20
  compoundingWeightFundamental : ℚ := 1/5
  compoundingStrongScoreThreshold : ℚ := 75
  compoundingTradeScoreThreshold : ℚ := 55
  sanityWorkerHeartbeatWarningSeconds : ℚ := 21600
  sanityWorkerHeartbeatStaleSeconds : ℚ := 86400
  sanityMomentumPipelineWarningSeconds : ℚ := 300
  sanityMomentumPipelineStaleSeconds : ℚ := 900
  upstoxWsReconnectBackoffSeconds : ℚ := 2
  upstoxWsReconnectMaxBackoffSeconds : ℚ := 60
  pipelineMinConfidencePct : ℚ := 40
  momentumObservationStaleDataThresholdSeconds : ℚ := 300

end MarketScanner.Config

namespace MarketScanner.Core
open MarketScanner.Python

/-- An instant in the market's timezone; a stored instant is always aware here. -/
def toMarketTime (moment : DateTime) (marketTimezone : TimeDelta) : DateTime :=
  moment.astimezone marketTimezone

/-- The instants, in UTC, between which a market day lies: from the first, to before the second. -/
def marketDayBoundsUtc (day : Date) (marketTimezone : TimeDelta) : DateTime × DateTime :=
  (⟨day.day*TimeDelta.day-marketTimezone,0⟩,⟨(day.day+1)*TimeDelta.day-marketTimezone,0⟩)

/-- An instant lies between the bounds of the market day it falls on, and of no other. -/
theorem mem_marketDayBoundsUtc {moment : DateTime} {day : Date} {marketTimezone : TimeDelta} :
    (marketDayBoundsUtc day marketTimezone).1 ≤ moment ∧
      moment < (marketDayBoundsUtc day marketTimezone).2 ↔
        (toMarketTime moment marketTimezone).date = day := by
  have hdate : (toMarketTime moment marketTimezone).date = day ↔
      (moment.utc+marketTimezone) / TimeDelta.day = day.day := by
    cases day
    exact Date.mk.injEq _ _ ▸ Iff.rfl
  rw [hdate, DateTime.le_iff, DateTime.lt_iff]
  unfold marketDayBoundsUtc TimeDelta.day
  dsimp only
  omega

end MarketScanner.Core
