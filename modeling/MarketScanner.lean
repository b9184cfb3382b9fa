import MarketScanner.Admin.LastAdmin
import MarketScanner.Admin.Users
import MarketScanner.Alerts.Cooldown
import MarketScanner.Alerts.Finality
import MarketScanner.Alerts.Fingerprint
import MarketScanner.Alerts.Formatter
import MarketScanner.Alerts.InFlight
import MarketScanner.Alerts.Lifecycle
import MarketScanner.Alerts.Manager
import MarketScanner.Alerts.Models
import MarketScanner.Alerts.Repository
import MarketScanner.Alerts.Suppression
import MarketScanner.Analytics.Breadth
import MarketScanner.Analytics.OneDay
import MarketScanner.Analytics.Regime
import MarketScanner.Analytics.RelativeRotation
import MarketScanner.Analytics.RotationHistory
import MarketScanner.Analytics.Sectors
import MarketScanner.Analytics.Snapshots
import MarketScanner.Auth.Login
import MarketScanner.Auth.PasswordReset
import MarketScanner.Auth.SessionExpiry
import MarketScanner.Auth.SessionRuns
import MarketScanner.Auth.Sessions
import MarketScanner.Candidates.Builder
import MarketScanner.Candidates.Quality
import MarketScanner.Candidates.Scanners
import MarketScanner.Catalyst.News
import MarketScanner.Catalyst.Scoring
import MarketScanner.Compounding.Levels
import MarketScanner.Compounding.Score
import MarketScanner.Config.Settings
import MarketScanner.Decision.Coverage
import MarketScanner.Decision.Engine
import MarketScanner.Decision.Exactness
import MarketScanner.Decision.Models
import MarketScanner.Decision.NewestVerdict
import MarketScanner.Decision.Rules
import MarketScanner.Decision.Signals
import MarketScanner.Derivatives.Buildups
import MarketScanner.Derivatives.Observations
import MarketScanner.Derivatives.OiRuns
import MarketScanner.Derivatives.Readings
import MarketScanner.Features.BaseLength
import MarketScanner.Features.Bounded
import MarketScanner.Features.BulkFilter
import MarketScanner.Features.Calculators
import MarketScanner.Features.Causality
import MarketScanner.Features.Crosses
import MarketScanner.Features.Engine
import MarketScanner.Features.Entries
import MarketScanner.Features.Incremental
import MarketScanner.Features.Indicators
import MarketScanner.Features.Pandas
import MarketScanner.Features.Ranges
import MarketScanner.Features.Repository
import MarketScanner.Features.Session
import MarketScanner.Features.SessionLevels
import MarketScanner.Features.Staleness
import MarketScanner.Features.StoredRow
import MarketScanner.Fundamentals.Agreement
import MarketScanner.Fundamentals.Budget
import MarketScanner.Fundamentals.Cooldown
import MarketScanner.Fundamentals.FetchLog
import MarketScanner.Fundamentals.Freshness
import MarketScanner.Fundamentals.Merging
import MarketScanner.Fundamentals.Models
import MarketScanner.Fundamentals.MultiStock
import MarketScanner.Fundamentals.Orchestrator
import MarketScanner.Fundamentals.Priority
import MarketScanner.Fundamentals.QueueService
import MarketScanner.Fundamentals.ReportedStatus
import MarketScanner.Fundamentals.RunLock
import MarketScanner.Fundamentals.Scorer
import MarketScanner.Fundamentals.SnapshotCache
import MarketScanner.Fundamentals.Trendlyne
import MarketScanner.Fundamentals.TrendlyneProvider
import MarketScanner.Fundamentals.UpstoxProvider
import MarketScanner.Library.Assoc
import MarketScanner.Library.Backoff
import MarketScanner.Library.Behaviour
import MarketScanner.Library.BoundedWalk
import MarketScanner.Library.Chronicle
import MarketScanner.Library.ConnectionPool
import MarketScanner.Library.ConsumerGroup
import MarketScanner.Library.Deviation
import MarketScanner.Library.Extremes
import MarketScanner.Library.Fallible
import MarketScanner.Library.History
import MarketScanner.Library.KeepFirst
import MarketScanner.Library.Lease
import MarketScanner.Library.Loop
import MarketScanner.Library.Outbox
import MarketScanner.Library.Pacing
import MarketScanner.Library.Query
import MarketScanner.Library.ReadThrough
import MarketScanner.Library.Recall
import MarketScanner.Library.Retry
import MarketScanner.Library.Rollup
import MarketScanner.Library.Rounding
import MarketScanner.Library.Series
import MarketScanner.Library.Sieve
import MarketScanner.Library.Slices
import MarketScanner.Library.Smoothing
import MarketScanner.Library.StableSort
import MarketScanner.Library.Stamped
import MarketScanner.Library.Streaks
import MarketScanner.Library.Sweep
import MarketScanner.Library.Table
import MarketScanner.Library.Trail
import MarketScanner.Library.Transition
import MarketScanner.Library.WeightedMean
import MarketScanner.Library.Window
import MarketScanner.Market.Calendar
import MarketScanner.Market.CandleValidation
import MarketScanner.Market.DailyBatch
import MarketScanner.Market.Intraday
import MarketScanner.Market.IntradayDays
import MarketScanner.Market.MarketDays
import MarketScanner.Market.Prices
import MarketScanner.Market.Symbols
import MarketScanner.Market.TradingDays
import MarketScanner.Momentum.AlertLoss
import MarketScanner.Momentum.Coordinator
import MarketScanner.Momentum.Engine
import MarketScanner.Momentum.Followup
import MarketScanner.Momentum.FollowupCompleteness
import MarketScanner.Momentum.Ladder
import MarketScanner.Momentum.Observations
import MarketScanner.Momentum.RunAccounting
import MarketScanner.Momentum.StateMachine
import MarketScanner.Notifications.Digest
import MarketScanner.Notifications.Manager
import MarketScanner.Notifications.Recovery
import MarketScanner.Notifications.Retries
import MarketScanner.Notifications.Telegram
import MarketScanner.Pipeline.Backlog
import MarketScanner.Pipeline.Delivery
import MarketScanner.Pipeline.Queue
import MarketScanner.Pipeline.Worker
import MarketScanner.Providers.Attempts
import MarketScanner.Providers.FeedWrites
import MarketScanner.Providers.GapFill
import MarketScanner.Providers.MarketFeed
import MarketScanner.Providers.RateLimit
import MarketScanner.Providers.Reconnect
import MarketScanner.Providers.TickAggregator
import MarketScanner.Providers.TickExactness
import MarketScanner.Python.Decimals
import MarketScanner.Python.Json
import MarketScanner.Python.Numerals
import MarketScanner.Python.Text
import MarketScanner.Python.Time
import MarketScanner.Python.Values
import MarketScanner.Sanity.Heartbeat
import MarketScanner.Scanner.Bookkeeping
import MarketScanner.Scanner.BulkRun
import MarketScanner.Scanner.Contexts
import MarketScanner.Scanner.Engine
import MarketScanner.Scanner.Isolation
import MarketScanner.Scanner.Manager
import MarketScanner.Scanner.Redundancy
import MarketScanner.Scanner.Repository
import MarketScanner.Scanner.Selection
import MarketScanner.Scanner.Snapshots
import MarketScanner.Scanner.Strategies
import MarketScanner.Scanner.Verdicts
import MarketScanner.Signals.Composites
import MarketScanner.Signals.Engine
import MarketScanner.Signals.Fusion
import MarketScanner.Signals.OpenInterest
import MarketScanner.Technical.Scorer
import MarketScanner.Universe.Backfill
import MarketScanner.Universe.Collector
import MarketScanner.Universe.Enrichment
import MarketScanner.Universe.Matching
import MarketScanner.Universe.Reconciliation
import MarketScanner.Universe.SymbolMaster
