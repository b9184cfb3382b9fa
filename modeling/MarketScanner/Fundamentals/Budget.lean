import MarketScanner.Library.Transition
import MarketScanner.Fundamentals.QueueService

/-! The request budget of the fundamental queue over the runs of one market day. -/
namespace MarketScanner.Fundamentals
open MarketScanner.Library MarketScanner.Python MarketScanner.Config MarketScanner.Scanner
open MarketScanner.Universe FundamentalFetchLogRepository FundamentalQueueService

/-- The symbol and outcome of a row of the fetch log. -/
def logEntry (r : Row FundamentalFetchLog) : ℕ × FetchStatus := (r.val.symbolId,r.val.status)

/-- What a stretch of a run does: some fetches, each with its row in the log. -/
structure FetchesRecorded (env : QueueEnv) (run run' : QueueRun) (fs : List (ℕ × FetchStatus)) : Prop where
  fetched : fetches run'.ops = fetches run.ops ++ fs
  logged : ∃ new, run'.tables.log.rows = run.tables.log.rows ++ new ∧ new.map logEntry = fs ∧
    ∀ r ∈ new, ∃ n, r.val.requestedAt = env.transactionStart n

/-- A rate-limited fetch is the last. -/
def RateLimitLast (fs : List (ℕ × FetchStatus)) : Prop :=
  ∀ x ∈ fs.dropLast, x.2 ≠ .rateLimited

theorem fetches_append (ops ops' : List QueueOp) :
    fetches (ops ++ ops') = fetches ops ++ fetches ops' := List.filterMap_append

namespace FetchesRecorded
variable {env : QueueEnv} {run run' run'' : QueueRun} {fs fs' : List (ℕ × FetchStatus)}

theorem refl (env : QueueEnv) (run : QueueRun) : FetchesRecorded env run run [] :=
  ⟨(List.append_nil _).symm,[],(List.append_nil _).symm,rfl,by simp⟩

theorem trans (h : FetchesRecorded env run run' fs) (h' : FetchesRecorded env run' run'' fs') :
    FetchesRecorded env run run'' (fs ++ fs') := by
  obtain ⟨new,hrows,hentries,hstamps⟩ := h.logged
  obtain ⟨new',hrows',hentries',hstamps'⟩ := h'.logged
  constructor
  · rw [h'.fetched, h.fetched, List.append_assoc]
  · refine ⟨new ++ new',?_,?_,?_⟩
    · rw [hrows', hrows, List.append_assoc]
    · rw [List.map_append, hentries, hentries']
    · intro r hr
      rcases List.mem_append.mp hr with hr | hr
      · exact hstamps r hr
      · exact hstamps' r hr

/-- Only the tables' log and the fetches matter. -/
theorem congr_right (h : FetchesRecorded env run run' fs) (run'' : QueueRun)
    (hlog : run''.tables.log = run'.tables.log) (hops : fetches run''.ops = fetches run'.ops) :
    FetchesRecorded env run run'' fs := by
  constructor
  · rw [hops, h.fetched]
  · rw [hlog]
    exact h.logged

/-- Every row that is added is of the day on which the run's transactions start. -/
theorem countOn_eq (h : FetchesRecorded env run run' fs) {settings : Settings} {day : Date}
    (hday : ∀ n, (Core.toMarketTime (env.transactionStart n) settings.marketTimezone).date = day) :
    countOn settings day run'.tables.log none =
      countOn settings day run.tables.log none+fs.length := by
  obtain ⟨new,hrows,hentries,hstamps⟩ := h.logged
  unfold countOn
  dsimp only
  rw [hrows, List.countP_append, ← hentries, List.length_map, Nat.add_left_cancel_iff,
    List.countP_eq_length]
  intro r hr
  obtain ⟨n,hn⟩ := hstamps r hr
  obtain ⟨hstart,hend⟩ := Core.mem_marketDayBoundsUtc.mpr (hday n)
  rw [hn]
  simp [hstart, hend]

end FetchesRecorded

theorem rateLimitLast_append {fs fs' : List (ℕ × FetchStatus)}
    (h : ∀ x ∈ fs, x.2 ≠ .rateLimited) (h' : RateLimitLast fs') : RateLimitLast (fs ++ fs') := by
  intro x hx
  by_cases hnil : fs' = []
  · rw [hnil, List.append_nil] at hx
    exact h x (List.mem_of_mem_dropLast hx)
  · rw [List.dropLast_append_of_ne_nil hnil] at hx
    rcases List.mem_append.mp hx with hx | hx
    · exact h x hx
    · exact h' x hx

theorem length_sliceTo {α : Type*} (l : List α) {n : ℤ} (h : 0 ≤ n) :
    ((sliceTo l n).length : ℤ) ≤ n := by
  rw [sliceTo, if_pos h, List.length_take]
  omega

section Run
variable [Builtins] (service : FundamentalQueueService) (env : QueueEnv)

theorem recorded_processOne (commits : ℕ) (run : QueueRun) (row : Row ScannerResult)
    (symbol : String) :
    FetchesRecorded env run (processOne service env commits run row symbol).1
      [(row.val.symbolId,(processOne service env commits run row symbol).2)] := by
  constructor
  · exact fetches_append _ _
  · exact ⟨[_],Table.rows_insert _ _,rfl,by simp⟩

/-- A batch makes at most one fetch for each row, and stops at the first that is rate limited. -/
theorem recorded_runBatch (symbolById : ℕ → Option String) (commits : ℕ)
    (rows : List (Row ScannerResult)) (run : QueueRun) :
    ∃ fs, FetchesRecorded env run (runBatch service env symbolById commits rows run).1 fs ∧
      fs.length ≤ rows.length ∧ RateLimitLast fs ∧
      ((runBatch service env symbolById commits rows run).2 = false →
        ∀ x ∈ fs, x.2 ≠ .rateLimited) := by
  induction rows generalizing run with
  | nil => exact ⟨[],FetchesRecorded.refl env run,le_rfl,by simp [RateLimitLast],by simp⟩
  | cons row rows ih =>
    unfold runBatch
    cases hsymbol : symbolById row.val.symbolId with
    | none =>
      obtain ⟨fs,hrec,hlen,hlast,hnone⟩ := ih run
      exact ⟨fs,hrec,hlen.trans (Nat.le_succ _),hlast,hnone⟩
    | some symbol =>
      have hone := recorded_processOne service env commits run row symbol
      dsimp only
      split
      · exact ⟨_,hone.congr_right _ rfl rfl,by simp,by simp [RateLimitLast],by simp⟩
      · rename_i hstatus
        obtain ⟨fs,hrec,hlen,hlast,hnone⟩ := ih
          (counted (processOne service env commits run row symbol).1 symbol)
        have hhead : ∀ x ∈ [(row.val.symbolId,(processOne service env commits run row symbol).2)],
            x.2 ≠ .rateLimited := by simpa using hstatus
        refine ⟨_,(hone.congr_right (counted _ symbol) rfl rfl).trans hrec,?_,rateLimitLast_append hhead hlast,?_⟩
        · rw [List.length_append, List.length_singleton, List.length_cons]
          omega
        · intro hgoes x hx
          rcases List.mem_append.mp hx with hx | hx
          · exact hhead x hx
          · exact hnone hgoes x hx

/-- The batches together make at most one fetch for each row, and none after one that is rate
limited. -/
theorem recorded_runBatches (symbolById : ℕ → Option String) (commits : ℕ)
    (batches : List (List (Row ScannerResult))) (run : QueueRun) :
    ∃ fs, FetchesRecorded env run (runBatches service env symbolById commits batches run) fs ∧
      fs.length ≤ batches.flatten.length ∧ RateLimitLast fs := by
  induction batches generalizing commits run with
  | nil => exact ⟨[],FetchesRecorded.refl env run,le_rfl,by simp [RateLimitLast]⟩
  | cons batch batches ih =>
    obtain ⟨fs,hrec,hlen,hlast,hnone⟩ := recorded_runBatch service env symbolById commits batch run
    have hcommit : ∀ run : QueueRun, fetches (commit run).ops = fetches run.ops := by
      intro run
      exact (fetches_append _ _).trans (List.append_nil _)
    rw [List.flatten_cons, List.length_append]
    unfold runBatches
    split
    · rename_i run' hrun
      rw [hrun] at hrec
      exact ⟨fs,hrec.congr_right (commit run') rfl (hcommit run'),by omega,hlast⟩
    · rename_i run' hrun
      rw [hrun] at hrec hnone
      obtain ⟨fs',hrec',hlen',hlast'⟩ := ih (commits+1) (commit run')
      refine ⟨fs ++ fs',(hrec.congr_right (commit run') rfl (hcommit run')).trans hrec',?_,
        rateLimitLast_append (hnone rfl) hlast'⟩
      rw [List.length_append]
      omega

/-- What the fetches of a completed run keep to: none after a rate limit, both budgets, and none during
a pause. -/
structure WithinBudget (tables : QueueTables) (fs : List (ℕ × FetchStatus)) : Prop where
  stops : RateLimitLast fs
  perRun : (fs.length : ℤ) ≤ service.settings.fundamentalMaxRequestsPerRun
  perDay : fs ≠ [] → (fs.length : ℤ) ≤ service.settings.fundamentalMaxRequestsPerDay-
    countToday service.settings tables.log env.today none
  paused : ∀ resumeAt, pausedUntil service.settings tables.log env.now = .ok (some resumeAt) →
    fs = []

omit [Builtins] in
theorem withinBudget_nil (tables : QueueTables)
    (hmax : 0 ≤ service.settings.fundamentalMaxRequestsPerRun) :
    WithinBudget service env tables [] where
  stops := by simp [RateLimitLast]
  perRun := by simpa using hmax
  perDay := by simp
  paused _ _ := rfl

/-- A completed run has either fetched nothing, or gone through what the two budgets leave of the pending
rows. -/
theorem runQueue_cases {tables : QueueTables} {run : QueueRun}
    (hrun : runQueue service env tables = .ok run) :
    (run.tables = tables ∧ fetches run.ops = []) ∨
      ∃ (remainingToday : ℤ) (pending : List (Row ScannerResult)),
        remainingToday = service.settings.fundamentalMaxRequestsPerDay-
          countToday service.settings tables.log env.today none ∧
        0 < remainingToday ∧ pausedUntil service.settings tables.log env.now = .ok none ∧
        selectPending service.settings env tables.results = .ok pending ∧
        run = runBatches service env (symbolOf tables) 0
          (slices service.batchSize (sliceTo pending
            (min service.settings.fundamentalMaxRequestsPerRun remainingToday)))
          { tables := tables, ops := [.statement] } := by
  unfold runQueue at hrun
  dsimp only at hrun
  split at hrun
  · obtain rfl := Except.ok.inj hrun
    exact Or.inl ⟨rfl,rfl⟩
  · cases hpause : pausedUntil service.settings tables.log env.now with
    | error text =>
      rw [hpause] at hrun
      cases hrun
    | ok pause =>
      rw [hpause] at hrun
      cases pause with
      | some resumeAt =>
        obtain rfl := Except.ok.inj hrun
        exact Or.inl ⟨rfl,rfl⟩
      | none =>
        dsimp only at hrun
        split at hrun
        · obtain rfl := Except.ok.inj hrun
          exact Or.inl ⟨rfl,rfl⟩
        · rename_i hleft
          cases hselect : selectPending service.settings env tables.results with
          | error e =>
            rw [hselect] at hrun
            cases hrun
          | ok pending =>
            rw [hselect] at hrun
            obtain rfl := Except.ok.inj hrun
            exact Or.inr ⟨_,pending,rfl,by omega,rfl,rfl,rfl⟩

omit [Builtins] in
theorem batchSize_pos : 0 < service.batchSize := by
  unfold batchSize
  omega

/-- A completed run records its fetches and keeps to the budget. -/
theorem runQueue_spec {tables : QueueTables} {run : QueueRun}
    (hrun : runQueue service env tables = .ok run)
    (hmax : 0 ≤ service.settings.fundamentalMaxRequestsPerRun) :
    ∃ fs, FetchesRecorded env { tables := tables } run fs ∧ WithinBudget service env tables fs := by
  rcases runQueue_cases service env hrun with ⟨htables,hops⟩ | ⟨remainingToday,selected,hleft,hpos,hpause,-,rfl⟩
  · have hidle := FetchesRecorded.refl env { tables := tables }
    exact ⟨[],hidle.congr_right run (congrArg QueueTables.log htables) hops,
      withinBudget_nil service env tables hmax⟩
  · set pending := sliceTo selected
      (min service.settings.fundamentalMaxRequestsPerRun remainingToday)
    obtain ⟨fs,hrec,hlen,hlast⟩ := recorded_runBatches service env (symbolOf tables) 0
      (slices service.batchSize pending) { tables := tables, ops := [.statement] }
    rw [flatten_slices (batchSize_pos service)] at hlen
    have hfew : (pending.length : ℤ) ≤ min service.settings.fundamentalMaxRequestsPerRun
        remainingToday := length_sliceTo _ (by omega)
    refine ⟨fs,⟨hrec.fetched,hrec.logged⟩,hlast,by omega,fun _ => by omega,?_⟩
    intro resumeAt hresume
    rw [hpause] at hresume
    cases hresume

end Run

/-! ### Every sequence of runs -/

/-- The tables, and what the last run did. -/
structure QueueState where
  tables : QueueTables
  ops : List QueueOp

/-- The scanners rewrite the pending candidates between runs. -/
inductive QueueAction
  | change (results : ScannerResults) (symbols : SymbolTable)
  | run (env : QueueEnv)

section Machine
variable [Builtins] (service : FundamentalQueueService)

def queueMachine : Machine QueueState QueueAction where
  step s
    | .change results symbols =>
      some ⟨{ s.tables with
        results := results
        symbols := symbols },[]⟩
    | .run env =>
      match runQueue service env s.tables with
      | .ok run => some ⟨run.tables,run.ops⟩
      | .error _ => none

/-- The run falls within a market day: the day it counts is that day, and so is the day of each of its
transactions. -/
def OnDay (day : Date) : QueueAction → Prop
  | .change _ _ => True
  | .run env => (Core.toMarketTime env.today service.settings.marketTimezone).date = day ∧
      ∀ n, (Core.toMarketTime (env.transactionStart n) service.settings.marketTimezone).date = day

/-- A run makes no more fetches than its own limit, records each in one row of the log, makes none
after one that is rate limited, and none while the pause computed at its start is in force. -/
def RunLimits (s : QueueState) : QueueAction → QueueState → Prop
  | .change _ _, _ => True
  | .run env, t =>
    ((fetches t.ops).length : ℤ) ≤ service.settings.fundamentalMaxRequestsPerRun ∧
      t.tables.log.rows.map logEntry = s.tables.log.rows.map logEntry ++ fetches t.ops ∧
      RateLimitLast (fetches t.ops) ∧
      ∀ resumeAt, pausedUntil service.settings s.tables.log env.now = .ok (some resumeAt) →
        fetches t.ops = []

/-- No more rows of the day than its limit. -/
def DayLimit (day : Date) (s : QueueState) : Prop :=
  (countOn service.settings day s.tables.log none : ℤ) ≤
    service.settings.fundamentalMaxRequestsPerDay

variable {service}

theorem run_spec {s t : QueueState} {env : QueueEnv}
    (hmax : 0 ≤ service.settings.fundamentalMaxRequestsPerRun)
    (hstep : (queueMachine service).step s (.run env) = some t) :
    FetchesRecorded env { tables := s.tables } ⟨t.tables,{},t.ops⟩ (fetches t.ops) ∧
      WithinBudget service env s.tables (fetches t.ops) := by
  cases hrun : runQueue service env s.tables with
  | error text => simp [queueMachine, hrun] at hstep
  | ok run =>
    obtain rfl : ⟨run.tables,run.ops⟩ = t := by simpa [queueMachine, hrun] using hstep
    obtain ⟨fs,hrec,hwithin⟩ := runQueue_spec service env hrun hmax
    obtain rfl : fetches run.ops = fs := hrec.fetched
    exact ⟨⟨hrec.fetched,hrec.logged⟩,hwithin⟩

theorem runLimits_step {s t : QueueState} {a : QueueAction}
    (hmax : 0 ≤ service.settings.fundamentalMaxRequestsPerRun)
    (hstep : (queueMachine service).step s a = some t) : RunLimits service s a t := by
  cases a with
  | change results symbols => trivial
  | run env =>
    obtain ⟨hrec,hwithin⟩ := run_spec hmax hstep
    obtain ⟨new,hrows,hentries,-⟩ := hrec.logged
    refine ⟨hwithin.perRun,?_,hwithin.stops,hwithin.paused⟩
    have hrows : t.tables.log.rows = s.tables.log.rows ++ new := hrows
    rw [hrows, List.map_append, hentries]

theorem dayLimit_step {day : Date} {s t : QueueState} {a : QueueAction}
    (hmax : 0 ≤ service.settings.fundamentalMaxRequestsPerRun) (hs : DayLimit service day s)
    (hday : OnDay service day a) (hstep : (queueMachine service).step s a = some t) :
    DayLimit service day t := by
  cases a with
  | change results symbols =>
    obtain rfl := Option.some.inj hstep
    exact hs
  | run env =>
    obtain ⟨hrec,hwithin⟩ := run_spec hmax hstep
    obtain ⟨htoday,hstart⟩ := hday
    have hcount : countOn service.settings day t.tables.log none =
        countOn service.settings day s.tables.log none+(fetches t.ops).length :=
      hrec.countOn_eq hstart
    have hbudget := hwithin.perDay
    unfold countToday at hbudget
    rw [htoday] at hbudget
    unfold DayLimit at hs ⊢
    by_cases hnone : fetches t.ops = []
    · rw [hcount, hnone]
      simpa using hs
    · have := hbudget hnone
      omega

/-- Over every sequence of completed runs within one market day: the rows of the day stay within its
limit, if they were before, and every run keeps to its own limits. -/
theorem budget_kept (service : FundamentalQueueService) (day : Date)
    (hmax : 0 ≤ service.settings.fundamentalMaxRequestsPerRun) (s : QueueState)
    (as : List QueueAction) (hday : ∀ a ∈ as, OnDay service day a) :
    (DayLimit service day s → (queueMachine service).Throughout (DayLimit service day) s as) ∧
      (queueMachine service).Steps (RunLimits service) s as := by
  constructor
  · intro hs
    have hG : (queueMachine service).Steps (fun _ a _ => OnDay service day a) s as := by
      rintro pre a post t u rfl - -
      exact hday a (by simp)
    exact hG.throughout (fun s a t hs ha hstep => dayLimit_step hmax hs ha hstep) hs
  · rintro pre a post t u rfl - hstep
    exact runLimits_step hmax hstep

end Machine

/-- A provider that reports a rate limit at every call. -/
def rateLimitedProvider : FundamentalDataProvider where
  name := "trendlyne"
  statusAware := true
  fetch _ := .responded none .rateLimited (some "Maximum weighted channel limit exceeded")

def sampleService : FundamentalQueueService where
  settings := {}
  scorer _ := ⟨none,.finite 0,[],[],[]⟩

/-- Ten in the morning in Mumbai. -/
def morningEnv : QueueEnv where
  lockFree := true
  now := DateTime.ofUtc ⟨20001⟩ 270
  today := DateTime.ofUtc ⟨20001⟩ 270
  selectedAt := DateTime.ofUtc ⟨20001⟩ 270
  scan := ScanOrder.insertion _
  provider _ := rateLimitedProvider
  transactionStart _ := DateTime.ofUtc ⟨20001⟩ 270
  fetchedAt _ := DateTime.ofUtc ⟨20001⟩ 270

/-- One pending candidate. -/
def sampleQueue : QueueState where
  tables :=
    { log := Table.empty
      results := ScannerResultRepository.upsert ScannerResults.empty
        ⟨1,"fno_momentum_v1",⟨20001⟩,72,.qualified,"all conditions met",
          [("setup_state",.str "MOMENTUM"),("technical_score",.float (.finite 72)),
            ("fundamental_status",.str "PENDING")]⟩
      symbols := ⟨[⟨1,⟨"RELIANCE","NSE","2885",none,none,none,none,true⟩⟩],2,
        List.pairwise_singleton _ _,List.forall_mem_singleton.mpr (Nat.lt_succ_self 1)⟩ }
  ops := []

/-- Two runs on one day, the second during the pause that the first brings about. -/
theorem budget_kept_rate_limited :
    (@queueMachine (Builtins.tabulated [] [] []) sampleService).Throughout
        (DayLimit sampleService ⟨20001⟩) sampleQueue [.run morningEnv,.run morningEnv] ∧
      (@queueMachine (Builtins.tabulated [] [] []) sampleService).Steps (RunLimits sampleService)
        sampleQueue [.run morningEnv,.run morningEnv] := by
  let _ := Builtins.tabulated [] [] []
  have hmorning : (Core.toMarketTime (DateTime.ofUtc ⟨20001⟩ 270)
      sampleService.settings.marketTimezone).date = ⟨20001⟩ := by decide
  have hday : ∀ a ∈ [QueueAction.run morningEnv,.run morningEnv], OnDay sampleService ⟨20001⟩ a := by
    have hone : OnDay sampleService ⟨20001⟩ (.run morningEnv) := ⟨hmorning,fun _ => hmorning⟩
    simp [hone]
  have hempty : DayLimit sampleService ⟨20001⟩ sampleQueue := by
    unfold DayLimit
    decide
  obtain ⟨hthroughout,hsteps⟩ :=
    budget_kept sampleService ⟨20001⟩ (by decide) sampleQueue [.run morningEnv,.run morningEnv] hday
  exact ⟨hthroughout hempty,hsteps⟩

end MarketScanner.Fundamentals
