import MarketScanner.Config.Settings
import MarketScanner.Library.Table
import MarketScanner.Fundamentals.Models

/-! `fundamental_fetch_log`: one row for each fetch attempt of the fundamental queue, and what a run
reads off it before it starts. -/
namespace MarketScanner.Fundamentals
open MarketScanner.Library MarketScanner.Python MarketScanner.Config

/-- `requested_at` is the start of the transaction that inserts the row. -/
structure FundamentalFetchLog where
  symbolId : ℕ
  status : FetchStatus
  errorMessage : Option String
  requestedAt : DateTime

namespace FundamentalFetchLogRepository

/-- The rows requested on a market day, of one status or of any. -/
def countOn (settings : Settings) (day : Date) (log : Table FundamentalFetchLog)
    (status : Option FetchStatus) : ℕ :=
  let bounds := Core.marketDayBoundsUtc day settings.marketTimezone
  log.rows.countP fun r =>
    decide (bounds.1 ≤ r.val.requestedAt) && decide (r.val.requestedAt < bounds.2) &&
      match status with
      | none => true
      | some status => decide (r.val.status = status)

/-- `count_today`, at a moment by the clock. -/
def countToday (settings : Settings) (log : Table FundamentalFetchLog) (now : DateTime)
    (status : Option FetchStatus) : ℕ :=
  countOn settings (Core.toMarketTime now settings.marketTimezone).date log status

/-- `SELECT max(requested_at)` over the rows of some statuses. -/
def latestRequest (log : Table FundamentalFetchLog) (statuses : List FetchStatus) :
    Option DateTime :=
  ((log.rows.filter fun r => decide (r.val.status ∈ statuses)).map
    fun r => r.val.requestedAt.utc).max?.map fun utc => ⟨utc,0⟩

def mostRecentRateLimit (log : Table FundamentalFetchLog) : Option DateTime :=
  match latestRequest log [.rateLimited] with
  | none => none
  | some rateLimitedAt =>
    match latestRequest log [.success,.cached] with
    | some okAt => if rateLimitedAt < okAt then none else some rateLimitedAt
    | none => some rateLimitedAt

def countConsecutiveRateLimits (log : Table FundamentalFetchLog) : ℕ :=
  log.rows.countP fun r => decide (r.val.status = .rateLimited) &&
    match latestRequest log [.success,.cached] with
    | some okAt => decide (okAt < r.val.requestedAt)
    | none => true

end FundamentalFetchLogRepository

/-- `x**n` on floats: it raises where the result is beyond the largest float. -/
def floatPow (x : ℚ) (n : ℕ) : Except String ℚ :=
  if 2^1024 ≤ |x^n| then .error "(34, 'Numerical result out of range')" else .ok (x^n)

def escalatedCooldownSeconds (settings : Settings) (consecutiveRateLimits : ℕ) :
    Except String ℚ :=
  match floatPow settings.fundamentalRateLimitBackoffMultiplier (consecutiveRateLimits-1) with
  | .error text => .error text
  | .ok factor =>
    .ok (min (settings.fundamentalRateLimitCooldownSeconds*factor)
      settings.fundamentalRateLimitMaxCooldownSeconds)

/-- `timedelta(seconds=s)`, for the spans that a `timedelta` can hold. -/
def ofSeconds (s : ℚ) : TimeDelta := PyFloat.roundHalfEven (s*1000000)

/-- `_paused_until`. -/
def pausedUntil (settings : Settings) (log : Table FundamentalFetchLog) (now : DateTime) :
    Except String (Option DateTime) :=
  match FundamentalFetchLogRepository.mostRecentRateLimit log with
  | none => .ok none
  | some rateLimitedAt =>
    match escalatedCooldownSeconds settings
        (FundamentalFetchLogRepository.countConsecutiveRateLimits log) with
    | .error text => .error text
    | .ok cooldownSeconds =>
      let resumeAt := rateLimitedAt.add (ofSeconds cooldownSeconds)
      .ok (if now < resumeAt then some resumeAt else none)

end MarketScanner.Fundamentals
