import Mathlib.Data.List.Induction
import MarketScanner.Config.Settings
import MarketScanner.Library.Assoc

/-! The heartbeat of the momentum pipeline job, and the sanity check that reads it. Every cycle pings: a
skip outside market hours moves the last run only, a completed cycle the last success too. -/
namespace MarketScanner.Sanity
open MarketScanner.Library MarketScanner.Python MarketScanner.Config

inductive SanityStatus
  | healthy | warning | stale | blocked | failed | notConfigured | unknown
  deriving DecidableEq

structure ComponentCheck where
  name : String
  status : SanityStatus
  detail : String
  lastSuccessAt : Option DateTime := none
  deriving DecidableEq

structure WorkerHeartbeat where
  lastRunAt : Option DateTime := none
  lastSuccessAt : Option DateTime := none
  detail : Option String := none
  deriving DecidableEq

/-- `worker_heartbeats`, one row per worker name. -/
abbrev HeartbeatTable := Assoc String WorkerHeartbeat

namespace WorkerHeartbeatRepository
variable (t : HeartbeatTable) (workerName : String) (now : DateTime) (detail : Option String)

def getOrCreate : WorkerHeartbeat := (t.get? workerName).getD {}

def pingRun : HeartbeatTable :=
  let row := getOrCreate t workerName
  t.set workerName { row with
    lastRunAt := some now
    detail := detail.or row.detail }

def pingSuccess : HeartbeatTable :=
  let row := getOrCreate t workerName
  t.set workerName { row with
    lastRunAt := some now
    lastSuccessAt := some now
    detail := detail.or row.detail }

end WorkerHeartbeatRepository

/-- `MOMENTUM_PIPELINE_WORKER` -/
def momentumPipelineWorker : String := "momentum_pipeline"

/-- `_BENIGN_SKIP_PREFIX` -/
def benignSkipPrefix : String := "skipped:"

def startsWith (text start : String) : Bool := start.toList.isPrefixOf text.toList

/-- `(later - earlier).total_seconds()`. -/
def secondsSince (later earlier : DateTime) : ℚ := (later.utc-earlier.utc : ℤ)/1000000

/-- `int(seconds)`. -/
def wholeSeconds (seconds : ℚ) : String := toString (seconds.num.tdiv seconds.den)

/-- `_thresholds_for`: the ages from which a warning and staleness are reported. -/
def thresholdsFor (workerName : String) (settings : Settings) : ℚ × ℚ :=
  if workerName = momentumPipelineWorker then
    (settings.sanityMomentumPipelineWarningSeconds,settings.sanityMomentumPipelineStaleSeconds)
  else (settings.sanityWorkerHeartbeatWarningSeconds,settings.sanityWorkerHeartbeatStaleSeconds)

/-- `check_worker_heartbeat`; it reads the clock once for the age of its reference, and once more for the
age of the last run. -/
def checkWorkerHeartbeat (t : HeartbeatTable) (workerName : String) (settings : Settings)
    (now runNow : DateTime) : ComponentCheck :=
  let unknown : ComponentCheck := ⟨workerName,.unknown,"no heartbeat recorded yet",none⟩
  match t.get? workerName with
  | none => unknown
  | some heartbeat =>
    match heartbeat.lastRunAt with
    | none => unknown
    | some lastRunAt =>
      let (warningS,staleS) := thresholdsFor workerName settings
      let reference := heartbeat.lastSuccessAt.getD lastRunAt
      let ageSeconds := secondsSince now reference
      let detail := heartbeat.detail.getD ""
      match heartbeat.lastSuccessAt with
      | none =>
        let runAgeSeconds := secondsSince runNow lastRunAt
        if startsWith detail benignSkipPrefix && decide (runAgeSeconds ≤ warningS) then
          ⟨workerName,.notConfigured,"alive, correctly idle — " ++ detail,none⟩
        else
          ⟨workerName,.warning,"has run but never completed successfully (" ++ detail ++ ")",none⟩
      | some lastSuccessAt =>
        if staleS < ageSeconds then
          ⟨workerName,.stale,"no successful cycle in " ++ wholeSeconds ageSeconds ++ "s (threshold " ++
            wholeSeconds staleS ++ "s) — " ++ detail,some lastSuccessAt⟩
        else if warningS < ageSeconds then
          ⟨workerName,.warning,"last success " ++ wholeSeconds ageSeconds ++ "s ago (threshold " ++
            wholeSeconds warningS ++ "s) — " ++ detail,some lastSuccessAt⟩
        else
          ⟨workerName,.healthy,"last success " ++ wholeSeconds ageSeconds ++ "s ago — " ++ detail,
            some lastSuccessAt⟩

/-! ### The job -/

structure Ping where
  time : DateTime
  success : Bool
  detail : String
  deriving DecidableEq

/-- `_ping_heartbeat`, where the write goes through. -/
def pingHeartbeat (t : HeartbeatTable) (ping : Ping) : HeartbeatTable :=
  if ping.success then
    WorkerHeartbeatRepository.pingSuccess t momentumPipelineWorker ping.time (some ping.detail)
  else WorkerHeartbeatRepository.pingRun t momentumPipelineWorker ping.time (some ping.detail)

/-- A cycle of the job as its surroundings decide it: whether the market is open, how many candidates the
coordinator evaluates unless it raises, what the clock shows at the ping, and whether that is written. -/
structure Cycle where
  isMarketOpen : Bool
  candidatesEvaluated : Except PyException ℕ
  pingTime : DateTime
  written : Bool := true

/-- The ping that a cycle leaves: none where the coordinator raises or the write fails. -/
def Cycle.ping (cycle : Cycle) : Option Ping :=
  if !cycle.written then none
  else if !cycle.isMarketOpen then some ⟨cycle.pingTime,false,"skipped: market_closed"⟩
  else
    match cycle.candidatesEvaluated with
    | .error _ => none
    | .ok n => some ⟨cycle.pingTime,true,toString n ++ " evaluated"⟩

/-- `_run_momentum_pipeline`, as far as the heartbeat goes. -/
def runMomentumPipeline (t : HeartbeatTable) (cycle : Cycle) : HeartbeatTable :=
  cycle.ping.elim t (pingHeartbeat t)

/-! ### The history of the pings -/

def heartbeatAfter (cycles : List Cycle) : HeartbeatTable := cycles.foldl runMomentumPipeline Assoc.empty

/-- The pings that the cycles left, oldest first. -/
def pingsOf (cycles : List Cycle) : List Ping := cycles.filterMap Cycle.ping

/-- When the job last completed a cycle. -/
def lastSuccess (pings : List Ping) : Option DateTime :=
  ((pings.filter Ping.success).getLast?).map Ping.time

/-- The row that a ping leaves behind. -/
theorem get?_pingHeartbeat (t : HeartbeatTable) (ping : Ping) :
    (pingHeartbeat t ping).get? momentumPipelineWorker = some
      { lastRunAt := some ping.time
        lastSuccessAt := if ping.success then some ping.time
          else (WorkerHeartbeatRepository.getOrCreate t momentumPipelineWorker).lastSuccessAt
        detail := some ping.detail } := by
  unfold pingHeartbeat
  split
  · rw [WorkerHeartbeatRepository.pingSuccess, Assoc.get?_set, if_pos rfl]
    rfl
  · rw [WorkerHeartbeatRepository.pingRun, Assoc.get?_set, if_pos rfl]
    rfl

/-- The row is what the latest ping and the latest success among the pings make of it. -/
theorem get?_heartbeatAfter (cycles : List Cycle) :
    (heartbeatAfter cycles).get? momentumPipelineWorker = (pingsOf cycles).getLast?.map fun ping =>
      { lastRunAt := some ping.time
        lastSuccessAt := lastSuccess (pingsOf cycles)
        detail := some ping.detail } := by
  unfold heartbeatAfter pingsOf
  induction cycles using List.reverseRecOn with
  | nil => rfl
  | append_singleton cycles cycle ih =>
    rw [List.foldl_append, List.foldl_cons, List.foldl_nil, List.filterMap_append, List.filterMap_cons,
      List.filterMap_nil, runMomentumPipeline]
    cases hping : cycle.ping with
    | none => simpa using ih
    | some ping =>
      have hold : (WorkerHeartbeatRepository.getOrCreate
          (cycles.foldl runMomentumPipeline Assoc.empty) momentumPipelineWorker).lastSuccessAt =
            lastSuccess (cycles.filterMap Cycle.ping) := by
        rw [WorkerHeartbeatRepository.getOrCreate, ih]
        cases hlast : (cycles.filterMap Cycle.ping).getLast? with
        | none =>
          rw [List.getLast?_eq_none_iff.mp hlast]
          rfl
        | some _ => rfl
      rw [Option.elim_some, get?_pingHeartbeat, hold, List.getLast?_append]
      unfold lastSuccess
      rw [List.filter_append]
      cases hsuccess : ping.success <;> simp [hsuccess]

/-- The latest ping is a skip, and it is no older than the warning threshold. -/
def CorrectlyIdle (settings : Settings) (cycles : List Cycle) (runNow : DateTime) : Prop :=
  ∃ ping, (pingsOf cycles).getLast? = some ping ∧ startsWith ping.detail benignSkipPrefix = true ∧
    secondsSince runNow ping.time ≤ settings.sanityMomentumPipelineWarningSeconds

def statusAfter (settings : Settings) (cycles : List Cycle) (now runNow : DateTime) : SanityStatus :=
  (checkWorkerHeartbeat (heartbeatAfter cycles) momentumPipelineWorker settings now runNow).status

/-- A correctly idle job is not reported unhealthy. -/
def IdleNotFlagged (settings : Settings) (cycles : List Cycle) (now runNow : DateTime) : Prop :=
  CorrectlyIdle settings cycles runNow → statusAfter settings cycles now runNow ≠ .warning ∧
    statusAfter settings cycles now runNow ≠ .stale

/-- It is not so exactly where the job has never succeeded or still has a recent success. -/
theorem idleNotFlagged_iff (settings : Settings) (cycles : List Cycle) (now runNow : DateTime) :
    IdleNotFlagged settings cycles now runNow ↔ (CorrectlyIdle settings cycles runNow →
      ∀ succeededAt, lastSuccess (pingsOf cycles) = some succeededAt →
        secondsSince now succeededAt ≤ settings.sanityMomentumPipelineWarningSeconds ∧
        secondsSince now succeededAt ≤ settings.sanityMomentumPipelineStaleSeconds) := by
  refine imp_congr_right fun ⟨ping,hlast,hskip,hrecent⟩ => ?_
  have hrow := get?_heartbeatAfter cycles
  rw [hlast, Option.map_some] at hrow
  have hthresholds : thresholdsFor momentumPipelineWorker settings =
    (settings.sanityMomentumPipelineWarningSeconds,settings.sanityMomentumPipelineStaleSeconds) :=
      if_pos rfl
  unfold statusAfter checkWorkerHeartbeat
  rw [hrow, hthresholds]
  cases hsuccess : lastSuccess (pingsOf cycles) with
  | none => simp [hskip, hrecent]
  | some succeededAt =>
    by_cases hstale : settings.sanityMomentumPipelineStaleSeconds < secondsSince now succeededAt
    · simp [hstale]
    · by_cases hwarning : settings.sanityMomentumPipelineWarningSeconds < secondsSince now succeededAt
      · simp [hstale, hwarning]
      · simp [hstale, hwarning, not_lt.mp hstale, not_lt.mp hwarning]

/-- A cycle that completes at the close of the market and, an hour later, one that skips. -/
def eveningCycles : List Cycle :=
  [⟨true,.ok 120,.ofUtc ⟨20000⟩ 600,true⟩,⟨false,.ok 0,.ofUtc ⟨20000⟩ 660,true⟩]

/-- Right after the skip the job is reported stale. -/
theorem eveningCycles_flagged :
    ¬ IdleNotFlagged {} eveningCycles (.ofUtc ⟨20000⟩ 660) (.ofUtc ⟨20000⟩ 660) := by
  intro h
  have hidle : CorrectlyIdle {} eveningCycles (.ofUtc ⟨20000⟩ 660) :=
    ⟨⟨.ofUtc ⟨20000⟩ 660,false,"skipped: market_closed"⟩,by decide,by decide,by decide +kernel⟩
  exact (h hidle).2 (by decide +kernel)

end MarketScanner.Sanity
