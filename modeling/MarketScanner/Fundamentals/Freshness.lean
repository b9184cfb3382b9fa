import MarketScanner.Fundamentals.Budget

/-! Which fetched candidates the queue leaves alone until their data expires: freshness is a status and a
timestamp, written by one function and tested by another. -/
namespace MarketScanner.Fundamentals
open MarketScanner.Library MarketScanner.Python MarketScanner.Config MarketScanner.Scanner
open FundamentalQueueService

/-- What one fetch brought, and when. -/
structure Outcome where
  data : Option FundamentalData
  status : FetchStatus
  fetchedAt : DateTime

/-- A fetch that failed or was rate limited and brought no data. -/
def Outcome.Marks (outcome : Outcome) : Prop :=
  outcome.data = none ∧ (outcome.status = .failed ∨ outcome.status = .rateLimited)

section Rows
variable [Builtins] (service : FundamentalQueueService)

def afterFetch (row : ScannerResult) (outcome : Outcome) : ScannerResult :=
  let value := rowAfterFetch service row outcome.data outcome.status outcome.fetchedAt
  { row with
    featureSnapshot := value.1
    score := value.2 }

/-- A row after a history of fetches. -/
def afterFetches (row : ScannerResult) (history : List Outcome) : ScannerResult :=
  history.foldl (afterFetch service) row

/-- Processing a row writes what `afterFetch` says into the row of its id. -/
theorem processOne_results (env : QueueEnv) (commits : ℕ) (run : QueueRun) (row : Row ScannerResult)
    (symbol : String) :
    let n := (fetches run.ops).length
    let answer := askProvider (env.provider n) symbol
    let revised := afterFetch service row.val ⟨answer.1,answer.2.1,env.fetchedAt n⟩
    (processOne service env commits run row symbol).1.tables.results =
      reviseResult run.tables.results row.id (revised.featureSnapshot,revised.score) := rfl

theorem afterFetches_append (row : ScannerResult) (history later : List Outcome) :
    afterFetches service row (history ++ later) =
      afterFetches service (afterFetches service row history) later := List.foldl_append

@[simp] theorem afterFetches_cons (row : ScannerResult) (outcome : Outcome) (later : List Outcome) :
    afterFetches service row (outcome::later) =
      afterFetches service (afterFetch service row outcome) later := rfl

@[simp] theorem scannerName_afterFetches (row : ScannerResult) (history : List Outcome) :
    (afterFetches service row history).scannerName = row.scannerName := by
  induction history generalizing row with
  | nil => rfl
  | cons outcome history ih => exact ih _

/-- A fetch with data leaves its status and its time. -/
theorem get_afterFetch_of_data (row : ScannerResult) (data : FundamentalData) (status : FetchStatus)
    (fetchedAt : DateTime) :
    let revised := (afterFetch service row ⟨some data,status,fetchedAt⟩).featureSnapshot
    revised.get "fundamental_status" = .str status.text ∧
      revised.get "fundamental_fetched_at" = .str fetchedAt.isoformat := by
  constructor <;> exact get_updateSnapshot_of_mem (by simp) (by simp)

/-- A fetch without data keeps the time, and overwrites the status where it failed or was rate limited. -/
theorem get_afterFetch_of_none (row : ScannerResult) (outcome : Outcome) (h : outcome.data = none) :
    let revised := (afterFetch service row outcome).featureSnapshot
    revised.get "fundamental_fetched_at" = row.featureSnapshot.get "fundamental_fetched_at" ∧
      (revised.get "fundamental_status" = .str FetchStatus.success.text ↔
        row.featureSnapshot.get "fundamental_status" = .str FetchStatus.success.text ∧
          ¬ outcome.Marks) := by
  obtain ⟨data,status,fetchedAt⟩ := outcome
  subst h
  by_cases hmarks : status = .failed ∨ status = .rateLimited
  · have hwritten : (afterFetch service row ⟨none,status,fetchedAt⟩).featureSnapshot =
        updateSnapshot row.featureSnapshot [("fundamental_status",.str status.text)] := by
      simp [afterFetch, rowAfterFetch, hmarks]
    have hnot : status.text ≠ FetchStatus.success.text := by
      rcases hmarks with rfl | rfl <;> decide
    dsimp only
    rw [hwritten, get_updateSnapshot_of_not_mem (by simp),
      get_updateSnapshot_of_mem (by simp) (List.mem_singleton.mpr rfl)]
    simp [Outcome.Marks, hmarks, hnot]
  · have hkept : (afterFetch service row ⟨none,status,fetchedAt⟩).featureSnapshot =
        row.featureSnapshot := by simp [afterFetch, rowAfterFetch, hmarks]
    dsimp only
    rw [hkept]
    simp [Outcome.Marks, hmarks]

/-- After fetches without data the row says SUCCESS just when it did before and none of them failed or was
rate limited. -/
theorem get_afterFetches_of_none (row : ScannerResult) (later : List Outcome)
    (h : ∀ outcome ∈ later, outcome.data = none) :
    let revised := (afterFetches service row later).featureSnapshot
    revised.get "fundamental_fetched_at" = row.featureSnapshot.get "fundamental_fetched_at" ∧
      (revised.get "fundamental_status" = .str FetchStatus.success.text ↔
        row.featureSnapshot.get "fundamental_status" = .str FetchStatus.success.text ∧
          ∀ outcome ∈ later, ¬ outcome.Marks) := by
  induction later generalizing row with
  | nil => simp [afterFetches]
  | cons outcome later ih =>
    obtain ⟨hhead,htail⟩ := List.forall_mem_cons.mp h
    obtain ⟨htime,hstatus⟩ := get_afterFetch_of_none service row outcome hhead
    obtain ⟨htimes,hstatuses⟩ := ih (afterFetch service row outcome) htail
    rw [afterFetches_cons]
    refine ⟨htimes.trans htime,hstatuses.trans ?_⟩
    rw [hstatus, List.forall_mem_cons, and_assoc]

/-- A row that was fetched less than the time to live ago is fresh just when its status says SUCCESS. -/
theorem freshlyFetched_iff {settings : Settings} {now fetchedAt : DateTime} {row : ScannerResult}
    (htime : row.featureSnapshot.get "fundamental_fetched_at" = .str fetchedAt.isoformat)
    (hiso : Builtins.datetimeFromIso fetchedAt.isoformat = some fetchedAt)
    (hage : now.utc-fetchedAt.utc < TimeDelta.minutes settings.fundamentalCacheTtlMinutes) :
    freshlyFetched settings now row = true ↔
      row.featureSnapshot.get "fundamental_status" = .str FetchStatus.success.text := by
  unfold freshlyFetched
  rw [htime]
  cases hstatus : row.featureSnapshot.get "fundamental_status" <;> simp [hiso, hage]

end Rows

theorem sliceTo_sublist {α : Type*} (l : List α) (n : ℤ) : (sliceTo l n).Sublist l := by
  unfold sliceTo
  split <;> exact List.take_sublist _ _

section Selection
variable [Builtins]

theorem mem_pendingRows {settings : Settings} {env : QueueEnv} {results : ScannerResults}
    {row : Row ScannerResult} :
    row ∈ pendingRows settings env results ↔
      (row ∈ results.table.rows ∧ row.val.scannerName ∈ candidateScannerNames) ∧
        freshlyFetched settings env.selectedAt row.val = false := by
  simp [pendingRows, candidateRows, (env.scan.perm _).mem_iff]

variable (service : FundamentalQueueService) (env : QueueEnv)

/-- The fetches of a batch are for some of its rows. -/
theorem fetched_runBatch (symbolById : ℕ → Option String) (commits : ℕ)
    (rows : List (Row ScannerResult)) (run : QueueRun) :
    ∃ done : List (Row ScannerResult), done.Sublist rows ∧
      (fetches (runBatch service env symbolById commits rows run).1.ops).map Prod.fst =
        (fetches run.ops).map Prod.fst ++ done.map fun r => r.val.symbolId := by
  induction rows generalizing run with
  | nil => exact ⟨[],List.Sublist.refl _,by simp [runBatch]⟩
  | cons row rows ih =>
    unfold runBatch
    cases hsymbol : symbolById row.val.symbolId with
    | none =>
      obtain ⟨done,hsub,hdone⟩ := ih run
      exact ⟨done,hsub.cons row,hdone⟩
    | some symbol =>
      have hone := (recorded_processOne service env commits run row symbol).fetched
      dsimp only
      split
      · exact ⟨[row],List.Sublist.cons_cons row (List.nil_sublist rows),by simp [counted, hone]⟩
      · obtain ⟨done,hsub,hdone⟩ := ih
          (counted (processOne service env commits run row symbol).1 symbol)
        refine ⟨row::done,hsub.cons_cons row,?_⟩
        rw [hdone]
        simp [counted, hone]

theorem fetched_runBatches (symbolById : ℕ → Option String) (commits : ℕ)
    (batches : List (List (Row ScannerResult))) (run : QueueRun) :
    ∃ done : List (Row ScannerResult), done.Sublist batches.flatten ∧
      (fetches (runBatches service env symbolById commits batches run).ops).map Prod.fst =
        (fetches run.ops).map Prod.fst ++ done.map fun r => r.val.symbolId := by
  induction batches generalizing commits run with
  | nil => exact ⟨[],List.Sublist.refl _,by simp [runBatches]⟩
  | cons batch batches ih =>
    obtain ⟨done,hsub,hdone⟩ := fetched_runBatch service env symbolById commits batch run
    have hcommit : ∀ run : QueueRun, fetches (commit run).ops = fetches run.ops := by
      intro run
      exact (fetches_append _ _).trans (List.append_nil _)
    unfold runBatches
    split
    · rename_i run' hrun
      rw [hrun] at hdone
      exact ⟨done,hsub.trans (List.sublist_append_left _ _),by rw [hcommit]; exact hdone⟩
    · rename_i run' hrun
      rw [hrun] at hdone
      obtain ⟨done',hsub',hdone'⟩ := ih (commits+1) (commit run')
      refine ⟨done ++ done',hsub.append hsub',?_⟩
      rw [hdone', hcommit, hdone]
      simp

/-- The fetches of a run are for some of the pending rows. -/
theorem fetched_runQueue {tables : QueueTables} {run : QueueRun}
    (hrun : runQueue service env tables = .ok run) :
    ∃ done : List (Row ScannerResult),
      (∀ row ∈ done, row ∈ pendingRows service.settings env tables.results) ∧
        (fetches run.ops).map Prod.fst = done.map fun r => r.val.symbolId := by
  rcases runQueue_cases service env hrun with ⟨-,hops⟩ | ⟨remainingToday,pending,-,-,-,hselect,rfl⟩
  · exact ⟨[],by simp,by simp [hops]⟩
  · obtain ⟨done,hsub,hdone⟩ := fetched_runBatches service env (symbolOf tables) 0
      (slices service.batchSize (sliceTo pending
        (min service.settings.fundamentalMaxRequestsPerRun remainingToday)))
      { tables := tables, ops := [.statement] }
    rw [flatten_slices (batchSize_pos service)] at hsub
    have hpending := (hsub.trans (sliceTo_sublist _ _)).subset
    exact ⟨done,fun row hrow => (StableSort.sortByKey_perm (selectPending_eq_ok_iff.mp hselect).2).mem_iff.mp (hpending hrow),hdone⟩

/-- A row is left alone: it is none of the pending rows, which `_select_pending` sorts and returns, and no
fetch of a run from here is for it. -/
structure LeftAlone (tables : QueueTables) (row : Row ScannerResult) : Prop where
  notPending : row ∉ pendingRows service.settings env tables.results
  notFetched : ∀ run, runQueue service env tables = .ok run →
    ∃ done : List (Row ScannerResult), row ∉ done ∧
      (fetches run.ops).map Prod.fst = done.map fun r => r.val.symbolId

theorem leftAlone_iff_notPending (tables : QueueTables) (row : Row ScannerResult) :
    LeftAlone service env tables row ↔
      row ∉ pendingRows service.settings env tables.results := by
  constructor
  · exact fun h => h.notPending
  · intro h
    refine ⟨h,fun run hrun => ?_⟩
    obtain ⟨done,hpending,hdone⟩ := fetched_runQueue service env hrun
    exact ⟨done,fun hmem => h (hpending row hmem),hdone⟩

/-- A candidate whose last data came less than the time to live ago is left alone just when that data came
with SUCCESS and no fetch has failed or been rate limited since. -/
theorem leftAlone_iff (tables : QueueTables) (id : ℕ) (row : ScannerResult)
    (before after : List Outcome) (data : FundamentalData) (status : FetchStatus) (fetchedAt : DateTime)
    (hrow : ⟨id,afterFetches service row (before ++ ⟨some data,status,fetchedAt⟩::after)⟩ ∈
      tables.results.table.rows)
    (hcandidate : row.scannerName ∈ candidateScannerNames)
    (hlast : ∀ outcome ∈ after, outcome.data = none)
    (hage : env.selectedAt.utc-fetchedAt.utc <
      TimeDelta.minutes service.settings.fundamentalCacheTtlMinutes)
    (hiso : Builtins.datetimeFromIso fetchedAt.isoformat = some fetchedAt) :
    LeftAlone service env tables
        ⟨id,afterFetches service row (before ++ ⟨some data,status,fetchedAt⟩::after)⟩ ↔
      status = .success ∧ ∀ outcome ∈ after, ¬ outcome.Marks := by
  set fetched := afterFetch service (afterFetches service row before) ⟨some data,status,fetchedAt⟩
  have heq : afterFetches service row (before ++ ⟨some data,status,fetchedAt⟩::after) =
      afterFetches service fetched after := afterFetches_append service row before _
  obtain ⟨hstatus,htime⟩ := get_afterFetch_of_data service (afterFetches service row before)
    data status fetchedAt
  obtain ⟨htimes,hstatuses⟩ := get_afterFetches_of_none service fetched after hlast
  have hfresh := freshlyFetched_iff (htimes.trans htime) hiso hage
  have hsuccess : status.text = FetchStatus.success.text ↔ status = .success := by
    cases status <;> decide
  rw [leftAlone_iff_notPending, mem_pendingRows, scannerName_afterFetches]
  simp only [hrow, hcandidate, and_self, true_and, Bool.not_eq_false]
  rw [heq, hfresh, hstatuses, hstatus, PyValue.str.injEq, hsuccess]

end Selection

/-! ### Data from the provider's own cache -/

/-- A momentum candidate before its fundamentals are fetched. -/
def unfetched : ScannerResult :=
  ⟨1,"fno_momentum_v1",⟨20001⟩,(72 : ℚ),.qualified,"all conditions met",
    [("setup_state",.str "MOMENTUM"),("technical_score",.float (.finite 72)),
      ("fundamental_status",.str "PENDING")]⟩

/-- Data at twenty to ten. -/
def fetchedWith (status : FetchStatus) : Outcome :=
  ⟨some { symbol := "RELIANCE" },status,DateTime.ofUtc ⟨20001⟩ 250⟩

/-- The builtins on the one timestamp that is read. -/
abbrev fetchBuiltins : Builtins :=
  { Builtins.tabulated [] [] [] with
    datetimeFromIso := fun text =>
      if text = "2024-10-05T04:10:00+00:00" then some (DateTime.ofUtc ⟨20001⟩ 250) else none }

/-- The queue's tables once the candidate was fetched with a status. -/
def fetchedTables (status : FetchStatus) : QueueTables where
  log := Table.empty
  results := ScannerResultRepository.upsert ScannerResults.empty
    (@afterFetches fetchBuiltins sampleService unfetched [fetchedWith status])
  symbols := sampleQueue.tables.symbols

theorem leftAlone_iff_success :
    @LeftAlone fetchBuiltins sampleService morningEnv (fetchedTables .success)
        ⟨1,@afterFetches fetchBuiltins sampleService unfetched [fetchedWith .success]⟩ ↔
      FetchStatus.success = .success ∧ ∀ outcome ∈ ([] : List Outcome), ¬ outcome.Marks := by
  let _ := fetchBuiltins
  exact leftAlone_iff sampleService morningEnv (fetchedTables .success) 1 unfetched [] [] _ .success _
    (List.mem_singleton.mpr rfl) (by decide) (by simp) (by decide) (by decide +kernel)

/-- Fetched with CACHED twenty minutes ago, the candidate is pending. -/
theorem cached_not_leftAlone :
    morningEnv.selectedAt.utc-(fetchedWith .cached).fetchedAt.utc <
        TimeDelta.minutes sampleService.settings.fundamentalCacheTtlMinutes ∧
      ¬ @LeftAlone fetchBuiltins sampleService morningEnv (fetchedTables .cached)
        ⟨1,@afterFetches fetchBuiltins sampleService unfetched [fetchedWith .cached]⟩ := by
  let _ := fetchBuiltins
  refine ⟨by decide,fun h => h.notPending ?_⟩
  rw [mem_pendingRows]
  exact ⟨⟨List.mem_singleton.mpr rfl,by decide⟩,by decide +kernel⟩

end MarketScanner.Fundamentals
