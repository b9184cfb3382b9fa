import MarketScanner.Library.Assoc
import MarketScanner.Library.Slices
import MarketScanner.Library.StableSort
import MarketScanner.Scanner.Repository
import MarketScanner.Universe.SymbolMaster
import MarketScanner.Fundamentals.FetchLog
import MarketScanner.Fundamentals.Orchestrator

/-! The fundamental queue: pending candidates in paced batches, each fetch recorded, until the backlog
or a budget is exhausted or the provider reports a rate limit. The write to the snapshot cache, which
nothing here reads, is left out. -/
namespace MarketScanner.Fundamentals
open MarketScanner.Library MarketScanner.Python MarketScanner.Config MarketScanner.Scanner
open MarketScanner.Universe FundamentalFetchLogRepository

/-- `CANDIDATE_SCANNER_NAMES` -/
def candidateScannerNames : List String := ["fno_momentum_v1","pre_breakout_v1","ipo_intraday_v1"]

def FetchStatus.text : FetchStatus → String
  | .pending => "PENDING"
  | .processing => "PROCESSING"
  | .success => "SUCCESS"
  | .rateLimited => "RATE_LIMITED"
  | .failed => "FAILED"
  | .cached => "CACHED"

structure QueueRunResult where
  processed : ℕ := 0
  succeeded : ℕ := 0
  cached : ℕ := 0
  failed : ℕ := 0
  rateLimited : Bool := false
  budgetExhausted : Bool := false
  symbols : List String := []

structure FundamentalScoreResult where
  score : Option PyFloat
  dataCompletenessPct : PyFloat
  factors : List PyValue
  positiveReasons : List String
  riskFlags : List String

/-- The service: its settings and its scorer. -/
structure FundamentalQueueService where
  settings : Settings
  scorer : FundamentalData → FundamentalScoreResult

structure QueueTables where
  log : Table FundamentalFetchLog
  results : ScannerResults
  symbols : SymbolTable

/-- What a run does, in order: it talks to the database, calls the provider for a symbol with the
outcome it is told, and commits. -/
inductive QueueOp
  | statement
  | fetch (symbolId : ℕ) (status : FetchStatus)
  | commit
  deriving DecidableEq

/-- How far a run has come. -/
structure QueueRun where
  tables : QueueTables
  result : QueueRunResult := {}
  ops : List QueueOp := []

/-- What a run meets: the lock, the clock where it is read, the order of the scan, the provider at
each call, and the start of each transaction. -/
structure QueueEnv where
  lockFree : Bool
  now : DateTime
  today : DateTime
  selectedAt : DateTime
  scan : ScanOrder (Row ScannerResult)
  provider : ℕ → FundamentalDataProvider
  transactionStart : ℕ → DateTime
  fetchedAt : ℕ → DateTime

/-- The fetches among what a run does. -/
def fetches (ops : List QueueOp) : List (ℕ × FetchStatus) :=
  ops.filterMap fun op =>
    match op with
    | .fetch symbolId status => some (symbolId,status)
    | _ => none

section Snapshot
variable [Builtins]

/-- `_coerce_float`: an int past the floats raises `OverflowError`, which it does not catch. -/
def coerceFloat (value : PyValue) : Except PyException PyFloat :=
  match value.toFloat with
  | .ok x => .ok x
  | .error .overflowError => .error .overflowError
  | .error _ => .ok (.finite 0)

/-- The technical score of a row, where it can be read. -/
def technicalScore (row : ScannerResult) : PyFloat :=
  (coerceFloat (row.featureSnapshot.get "technical_score")).toOption.getD (.finite 0)

/-- Computed in doubles: each product is rounded, and the sum. -/
def combineScores (settings : Settings) (fundamentalScore : Option PyFloat)
    (technicalScore : PyFloat) : PyFloat :=
  match fundamentalScore with
  | none => technicalScore
  | some score => ((score.mul settings.overallFundamentalWeight.rounded).rounded.add
      (technicalScore.mul settings.overallTechnicalWeight.rounded).rounded).rounded

/-- `min(max(x, 0.0), 100.0)`. -/
def clampScore (x : PyFloat) : PyFloat :=
  let low := if x.lt (.finite 0) then .finite 0 else x
  if PyFloat.lt (.finite 100) low then .finite 100 else low

/-- `round(min(max(x, 0.0), 100.0), 2)`: the double nearest to a whole number of cents. -/
def storedScore (x : PyFloat) : PyFloat := (PyFloat.round2 (clampScore x)).rounded

def qualityFromScore (score : PyFloat) : String :=
  if PyFloat.le (.finite 75) score then "HIGH"
  else if PyFloat.le (.finite 55) score then "MEDIUM"
  else "LOW"

def FieldAvailability.text : FieldAvailability → String
  | .available => "AVAILABLE"
  | .limitedHistory => "LIMITED_HISTORY"
  | .insufficientData => "INSUFFICIENT_DATA"
  | .notApplicable => "NOT_APPLICABLE"
  | .unknown => "UNKNOWN"

def optionStr : Option String → PyValue
  | some s => .str s
  | none => .none

/-- `field_snapshot_to_dict`. -/
def fieldSnapshotToDict (snapshot : FieldSnapshot) : PyValue :=
  .dict [("field_name",.str snapshot.fieldName),
    ("value",match snapshot.value with
      | some x => .float x
      | none => .none),
    ("source",optionStr snapshot.source),("period",optionStr snapshot.period),
    ("status",.str snapshot.status.text),("as_of",optionStr (snapshot.asOf.map Date.isoformat)),
    ("alternates",.list (snapshot.alternates.map fun alternate =>
      .list [.str alternate.1,.float alternate.2]))]

/-- `snapshot.update(entries)`. -/
def updateSnapshot (snapshot : Dict) (entries : List (String × PyValue)) : Dict :=
  entries.foldl (fun d entry => Assoc.setItem entry.1 entry.2 d) snapshot

/-- What `_apply_result` leaves in a row. Only rows that `_select_pending` has sorted come here, so their
technical score can be read. The text of a rounded score is that of its cents. -/
def applyResult (service : FundamentalQueueService) (row : ScannerResult) (data : FundamentalData)
    (status : FetchStatus) (now : DateTime) : Dict × Numeric :=
  let fundamentalResult := service.scorer data
  let blend := combineScores service.settings fundamentalResult.score (technicalScore row)
  let overallScore := storedScore blend
  (updateSnapshot row.featureSnapshot
    [("fundamental_score",match fundamentalResult.score with
      | some x => .float x
      | none => .none),
    ("overall_score",.float overallScore),
    ("quality",.str (qualityFromScore overallScore)),
    ("fundamental_reasons",.list (fundamentalResult.positiveReasons.map PyValue.str)),
    ("fundamental_factors",.list fundamentalResult.factors),
    ("fundamental_field_sources",
      .list (data.fieldSnapshots.map fun field => fieldSnapshotToDict field.2)),
    ("risk_flags",.list (fundamentalResult.riskFlags.map PyValue.str)),
    ("data_completeness_pct",.float fundamentalResult.dataCompletenessPct),
    ("fundamental_status",.str status.text),
    ("fundamental_fetched_at",.str now.isoformat)],
    match PyFloat.round2 (clampScore blend) with
    | .finite cents => (cents : ℚ)
    | _ => ⊤)

/-- What a fetch leaves in the row it was made for. -/
def rowAfterFetch (service : FundamentalQueueService) (row : ScannerResult)
    (data : Option FundamentalData) (status : FetchStatus) (now : DateTime) : Dict × Numeric :=
  match data with
  | some data => applyResult service row data status now
  | none =>
    if status = .failed ∨ status = .rateLimited then
      (updateSnapshot row.featureSnapshot [("fundamental_status",.str status.text)],row.score)
    else (row.featureSnapshot,row.score)

/-- Still fresh: fetched with success less than the cache's time to live ago. -/
def freshlyFetched (settings : Settings) (now : DateTime) (row : ScannerResult) : Bool :=
  match row.featureSnapshot.get "fundamental_status", row.featureSnapshot.get "fundamental_fetched_at" with
  | .str status, .str fetchedAtRaw =>
    status == FetchStatus.success.text &&
      match Builtins.datetimeFromIso fetchedAtRaw with
      | some fetchedAt =>
        decide (now.utc-fetchedAt.utc < TimeDelta.minutes settings.fundamentalCacheTtlMinutes)
      | none => false
  | _, _ => false

def setupStateTier (row : ScannerResult) : ℕ :=
  let setupState := (row.featureSnapshot.get "setup_state").toStr
  if setupState = "BREAKOUT_CONFIRMED" then 0
  else if setupState = "MOMENTUM" then 1
  else if setupState = "PRE_BREAKOUT" then 2
  else if row.status ≠ .rejected then 4 else 3

/-- `_priority_key`. -/
def priorityKey (row : ScannerResult) : Except PyException (ℕ × PyFloat) := do
  let score ← coerceFloat (row.featureSnapshot.get "technical_score")
  .ok (setupStateTier row,score.neg)

/-- `key(a) < key(b)`, on pairs. -/
def keyLt (a b : ℕ × PyFloat) : Bool := decide (a.1 < b.1) || (a.1 == b.1 && a.2.lt b.2)

/-- The candidate rows, as the database delivers them. -/
def candidateRows (env : QueueEnv) (results : ScannerResults) : List (Row ScannerResult) :=
  env.scan.arrange (results.table.rows.filter fun r => decide (r.val.scannerName ∈ candidateScannerNames))

/-- The candidate rows that are not still fresh. -/
def pendingRows (settings : Settings) (env : QueueEnv) (results : ScannerResults) :
    List (Row ScannerResult) :=
  (candidateRows env results).filter fun r => !freshlyFetched settings env.selectedAt r.val

/-- `now - fetched_at`: a time without a zone raises `TypeError`. -/
def takeAge (row : ScannerResult) : Except PyException Unit :=
  match row.featureSnapshot.get "fundamental_status", row.featureSnapshot.get "fundamental_fetched_at" with
  | .str status, .str fetchedAtRaw =>
    if status = FetchStatus.success.text ∧ (Builtins.datetimeFromIso fetchedAtRaw).isSome ∧
        Builtins.isNaive fetchedAtRaw then .error .typeError
    else .ok ()
  | _, _ => .ok ()

/-- `_select_pending`. -/
def selectPending (settings : Settings) (env : QueueEnv) (results : ScannerResults) :
    Except PyException (List (Row ScannerResult)) := do
  (candidateRows env results).forM fun r => takeAge r.val
  StableSort.sortByKey (fun r => priorityKey r.val) keyLt (pendingRows settings env results)

theorem selectPending_eq_ok_iff {settings : Settings} {env : QueueEnv} {results : ScannerResults}
    {pending : List (Row ScannerResult)} :
    selectPending settings env results = .ok pending ↔
      (∀ r ∈ candidateRows env results, takeAge r.val = .ok ()) ∧
        StableSort.sortByKey (fun r => priorityKey r.val) keyLt (pendingRows settings env results) =
          .ok pending := by
  unfold selectPending
  rw [except_bind_eq_ok_iff, ← forM_eq_ok_iff]
  exact ⟨fun ⟨_,hages,hsort⟩ => ⟨hages,hsort⟩,fun ⟨hages,hsort⟩ => ⟨(),hages,hsort⟩⟩

end Snapshot

section Update
variable {snapshot entries : Dict} {key : String} {value : PyValue}

theorem get_setItem (snapshot : Dict) (key key' : String) (value : PyValue) :
    Dict.get (Assoc.setItem key value snapshot) key' =
      if key' = key then value else Dict.get snapshot key' := by
  rw [Dict.get, Assoc.lookup_setItem]
  split <;> rfl

theorem get_updateSnapshot_of_not_mem (h : key ∉ entries.map Prod.fst) :
    Dict.get (updateSnapshot snapshot entries) key = Dict.get snapshot key := by
  induction entries generalizing snapshot with
  | nil => rfl
  | cons entry entries ih =>
    rw [List.map_cons, List.mem_cons, not_or] at h
    show Dict.get (updateSnapshot (Assoc.setItem entry.1 entry.2 snapshot) entries) key = _
    rw [ih h.2, get_setItem, if_neg h.1]

/-- What an update writes is read back. -/
theorem get_updateSnapshot_of_mem (hnodup : (entries.map Prod.fst).Nodup)
    (h : (key,value) ∈ entries) : Dict.get (updateSnapshot snapshot entries) key = value := by
  induction entries generalizing snapshot with
  | nil => cases h
  | cons entry entries ih =>
    rw [List.map_cons, List.nodup_cons] at hnodup
    rcases List.mem_cons.mp h with rfl | hmem
    · show Dict.get (updateSnapshot (Assoc.setItem key value snapshot) entries) key = value
      rw [get_updateSnapshot_of_not_mem hnodup.1, get_setItem, if_pos rfl]
    · exact ih hnodup.2 hmem

end Update

/-- `l[:n]`. -/
def sliceTo {α : Type*} (l : List α) (n : ℤ) : List α :=
  if 0 ≤ n then l.take n.toNat else l.take (l.length-n.natAbs)

/-- A write to the snapshot and the score of a row. -/
def reviseResult (results : ScannerResults) (id : ℕ) (value : Dict × Numeric) : ScannerResults where
  table := results.table.modify id fun row =>
    { row with
      featureSnapshot := value.1
      score := value.2 }
  unique := by
    have hkey : ∀ r : Row ScannerResult, (Row.change (· == id) (fun row : ScannerResult =>
        { row with
          featureSnapshot := value.1
          score := value.2 }) r).val.key = r.val.key := by
      intro r
      cases hid : r.id == id with
      | true => rw [Row.change_of_true hid]; rfl
      | false => rw [Row.change_of_false hid]
    intro r hr r' hr' heq
    obtain ⟨r₀,hr₀,rfl⟩ := Table.mem_modifyWhere.mp hr
    obtain ⟨r₁,hr₁,rfl⟩ := Table.mem_modifyWhere.mp hr'
    rw [hkey, hkey] at heq
    rw [Row.change_id, Row.change_id]
    exact results.unique r₀ hr₀ r₁ hr₁ heq

namespace FundamentalQueueService
variable [Builtins] (service : FundamentalQueueService) (env : QueueEnv)

/-- The answer to one call, with what the queue itself makes of an exception and of a provider without
statuses. -/
def askProvider (provider : FundamentalDataProvider) (symbol : String) :
    Option FundamentalData × FetchStatus × Option String :=
  match provider.fetch symbol with
  | .raised error => (none,.failed,some (String.ofList (error.toList.take 500)))
  | .responded data status error =>
    if provider.statusAware then (data,status,error)
    else (data,if data.isSome then .success else .failed,none)

def countOutcome (result : QueueRunResult) : FetchStatus → QueueRunResult
  | .success => { result with succeeded := result.succeeded+1 }
  | .cached => { result with cached := result.cached+1 }
  | .failed => { result with failed := result.failed+1 }
  | _ => result

/-- `_process_one`, in the transaction after the given number of commits. -/
def processOne (commits : ℕ) (run : QueueRun) (row : Row ScannerResult) (symbol : String) :
    QueueRun × FetchStatus :=
  let n := (fetches run.ops).length
  let answer := askProvider (env.provider n) symbol
  ({ tables := { run.tables with
       log := run.tables.log.insert
         ⟨row.val.symbolId,answer.2.1,answer.2.2,env.transactionStart commits⟩
       results := reviseResult run.tables.results row.id
         (rowAfterFetch service row.val answer.1 answer.2.1 (env.fetchedAt n)) }
     result := countOutcome run.result answer.2.1
     ops := run.ops ++ [.fetch row.val.symbolId answer.2.1,.statement] },answer.2.1)

def symbolOf (tables : QueueTables) (symbolId : ℕ) : Option String :=
  (tables.symbols.rows.find? fun r => r.id == symbolId).map fun r => r.val.symbol

def counted (run : QueueRun) (symbol : String) : QueueRun :=
  { run with result := { run.result with
      processed := run.result.processed+1
      symbols := run.result.symbols ++ [symbol] } }

/-- The rows of one batch, until the provider reports a rate limit. -/
def runBatch (symbolById : ℕ → Option String) (commits : ℕ) :
    List (Row ScannerResult) → QueueRun → QueueRun × Bool
  | [], run => (run,false)
  | row::rows, run =>
    match symbolById row.val.symbolId with
    | none => runBatch symbolById commits rows run
    | some symbol =>
      let done := processOne service env commits run row symbol
      let run := counted done.1 symbol
      if done.2 = .rateLimited then
        ({ run with result := { run.result with rateLimited := true } },true)
      else runBatch symbolById commits rows run

def commit (run : QueueRun) : QueueRun := { run with ops := run.ops ++ [.commit] }

/-- The batches; each ends in a commit, and a rate limit ends the run after that. -/
def runBatches (symbolById : ℕ → Option String) :
    ℕ → List (List (Row ScannerResult)) → QueueRun → QueueRun
  | _, [], run => run
  | commits, batch::batches, run =>
    match runBatch service env symbolById commits batch run with
    | (run,true) => commit run
    | (run,false) => runBatches symbolById (commits+1) batches (commit run)

/-- The size of a batch. -/
def batchSize : ℕ := (max 1 service.settings.fundamentalBatchSize).toNat

/-- `str(exc)` of what `_select_pending` raises. -/
def selectError : PyException → String
  | .typeError => "can't subtract offset-naive and offset-aware datetimes"
  | _ => "int too large to convert to float"

/-- `run_queue`, when no database statement raises. -/
def runQueue (tables : QueueTables) : Except String QueueRun :=
  let run : QueueRun := { tables := tables }
  if !env.lockFree then .ok run
  else match pausedUntil service.settings tables.log env.now with
    | .error text => .error text
    | .ok (some _) => .ok { run with ops := [.statement] }
    | .ok none =>
      let remainingToday :=
        service.settings.fundamentalMaxRequestsPerDay-countToday service.settings tables.log env.today none
      if remainingToday ≤ 0 then
        .ok { run with
          result := { budgetExhausted := true }
          ops := [.statement] }
      else
        match selectPending service.settings env tables.results with
        | .error e => .error (selectError e)
        | .ok pending =>
          let runBudget := min service.settings.fundamentalMaxRequestsPerRun remainingToday
          .ok (runBatches service env (symbolOf tables) 0
            (slices service.batchSize (sliceTo pending runBudget)) { run with ops := [.statement] })

end FundamentalQueueService
end MarketScanner.Fundamentals
