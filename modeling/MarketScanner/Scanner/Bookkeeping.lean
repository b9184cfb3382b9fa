import MarketScanner.Library.KeepFirst
import MarketScanner.Scanner.Isolation

/-! The counters of a scanner run beside what it leaves in `scanner_results`, whatever raises in the
savepoints. A symbol whose rejection cannot be logged is counted twice, and a symbol that is listed
twice is counted twice for one row. -/
namespace MarketScanner.Scanner
open MarketScanner.Library MarketScanner.Python MarketScanner.Universe
open ScannerResultRepository

def ScannerRunStats.accounted (stats : ScannerRunStats) : ℕ :=
  stats.qualifiedCount+stats.rejectedCount+stats.errorCount

/-- What raises while one symbol is evaluated: a hook of the scanner, or a write. -/
structure CallFaults where
  validate : Option String := none
  scan : Option String := none
  score : Option String := none
  writes : WriteFaults := WriteFaults.none

def raised {α : Type} (fault : Option String) (result : Except String α) : Except String α :=
  match fault with
  | some text => .error text
  | none => result

theorem ok_of_raised {α : Type} {fault : Option String} {result : Except String α} {a : α}
    (h : raised fault result = .ok a) : result = .ok a := by
  unfold raised at h
  split at h
  · cases h
  · exact h

namespace ScannerResultRepository

/-- The qualified rows that have come since: those of a symbol, scanner and date that had none. -/
def newQualified (before after : ScannerResults) : List (Row ScannerResult) :=
  after.table.rows.filter fun r =>
    decide (r.val.status = .qualified) && !existsForDate before r.val.key

end ScannerResultRepository

namespace BaseScanner
variable {ω : Type} (scanner : BaseScanner ω) (faults : WriteFaults) (runId : ℕ)

/-- A qualified row is saved. -/
def qualifies (item : Row SymbolRow × scanner.Context) : Bool :=
  (scanner.saved faults item).any fun row => decide (row.status = .qualified)

/-- What one symbol's evaluation has counted, when it is done and when it raises. -/
theorem evaluateOne_counters (item : Row SymbolRow × scanner.Context) (stats : ScannerRunStats)
    (db : ScannerTables) :
    (scanner.evaluateOne faults runId item.1 item.2 stats db).1.qualifiedCount =
        stats.qualifiedCount+(scanner.qualifies faults item).toNat ∧
      match scanner.evaluateOne faults runId item.1 item.2 stats db with
      | (stats',.ok _) =>
        scanner.undoneRejection faults item = false ∧ stats'.accounted = stats.accounted+1
      | (stats',.error _) =>
        stats'.accounted = stats.accounted+(scanner.undoneRejection faults item).toNat := by
  unfold qualifies undoneRejection
  rcases scanner.evaluateOne_cases faults runId item stats db with
    ⟨hnone,⟨text,hone⟩ | ⟨db',hone,-⟩⟩ | ⟨row,hsaved,⟨hstatus,hone⟩ | ⟨hstatus,message,hone⟩⟩
  · simp [hone, hnone]
  · simp [hone, hnone, ScannerRunStats.accounted]
    omega
  · simp [hone, hsaved, hstatus, ScannerRunStats.accounted]
    omega
  · -- The count comes first: where the log raises it stays.
    cases hlog : faults.log item.1.id "info" with
    | some text =>
      simp [hone, hsaved, hstatus, ScannerTables.log, ScannerRunStats.accounted, hlog]
      omega
    | none =>
      simp [hone, hsaved, hstatus, ScannerTables.log, ScannerRunStats.accounted, hlog]
      omega

/-- A symbol is counted once, and once more when its rejection is undone after it was counted; what
is counted as qualified is what saves a qualified row. -/
theorem evaluateSymbol_counters (state : ScannerTables × ScannerRunStats)
    (item : Row SymbolRow × scanner.Context) :
    (scanner.evaluateSymbol faults runId state item).2.accounted =
        state.2.accounted+1+(scanner.undoneRejection faults item).toNat ∧
      (scanner.evaluateSymbol faults runId state item).2.qualifiedCount =
        state.2.qualifiedCount+(scanner.qualifies faults item).toNat := by
  obtain ⟨hqualified,hone⟩ := scanner.evaluateOne_counters faults runId item state.2 state.1
  unfold evaluateSymbol
  generalize scanner.evaluateOne faults runId item.1 item.2 state.2 state.1 = outcome at *
  rcases outcome with ⟨stats,text | db⟩
  · dsimp only at hone ⊢
    split
    · refine ⟨?_,hqualified⟩
      simp only [ScannerRunStats.accounted] at hone ⊢
      omega
    · refine ⟨?_,hqualified⟩
      simp only [ScannerRunStats.accounted] at hone ⊢
      omega
  · obtain ⟨hkept,hcount⟩ := hone
    rw [hkept]
    exact ⟨hcount,hqualified⟩

theorem logNoContext_counters (state : ScannerTables × ScannerRunStats) (symbol : Row SymbolRow) :
    (scanner.logNoContext faults runId state symbol).2.accounted = state.2.accounted+1 ∧
      (scanner.logNoContext faults runId state symbol).2.qualifiedCount =
        state.2.qualifiedCount := by
  unfold logNoContext
  dsimp only
  split
  · refine ⟨?_,rfl⟩
    simp only [ScannerRunStats.accounted]
    omega
  · refine ⟨?_,rfl⟩
    simp only [ScannerRunStats.accounted]
    omega

/-- The scanner, during a call in which its hooks may raise. -/
abbrev raising (faults : CallFaults) : BaseScanner ω :=
  { scanner with
    validate := fun context => raised faults.validate (scanner.validate context)
    scan := fun context => raised faults.scan (scanner.scan context)
    score := fun context => raised faults.score (scanner.score context) }

/-- A symbol to evaluate, with what raises meanwhile. -/
abbrev Call := (Row SymbolRow × scanner.Context) × CallFaults

def callQualifies (call : scanner.Call) : Bool :=
  (scanner.raising call.2).qualifies call.2.writes call.1

def callUndone (call : scanner.Call) : Bool :=
  (scanner.raising call.2).undoneRejection call.2.writes call.1

def callVerdict (call : scanner.Call) : Option ScannerResult :=
  (scanner.raising call.2).verdict call.2.writes call.1

def evaluateCall (state : ScannerTables × ScannerRunStats) (call : scanner.Call) :
    ScannerTables × ScannerRunStats :=
  (scanner.raising call.2).evaluateSymbol call.2.writes runId state call.1

/-- The symbols of a run that are left to evaluate, with what raises at each. -/
def calls (pattern : ℕ → CallFaults) (contexts : Assoc ℕ (Option scanner.Context))
    (symbols : List (Row SymbolRow)) (results : ScannerResults) : List scanner.Call :=
  (scanner.toEvaluate results (scanner.haveContext contexts symbols)).mapIdx
    fun i item => (item,pattern i)

/-- `run_scanner` where each turn of its loops has exceptions of its own: `unlogged` says what raises
as the symbols without context are logged, `pattern` what raises as the others are evaluated. -/
def runScannerUnder (unlogged : ℕ → WriteFaults) (pattern : ℕ → CallFaults) (w : ω)
    (symbols : List (Row SymbolRow)) (db : ScannerTables) :
    Except String (ScannerTables × ScannerRunStats) :=
  match scanner.buildContextBulk w symbols with
  | .error text => .error text
  | .ok contexts =>
    let logged := (slices batchSize ((scanner.noContext contexts symbols).mapIdx
        fun i symbol => (symbol,unlogged i))).foldl
      (fun state batch => batch.foldl
        (fun state turn => scanner.logNoContext turn.2 runId state turn.1) state)
      (db,{ symbolsScanned := symbols.length })
    .ok ((slices batchSize (scanner.calls pattern contexts symbols db.results)).foldl
      (fun state batch => batch.foldl (scanner.evaluateCall runId) state) logged)

/-- With the same exceptions at every turn it is `run_scanner`. -/
theorem runScannerUnder_const (w : ω) (symbols : List (Row SymbolRow)) (db : ScannerTables) :
    scanner.runScannerUnder runId (fun _ => faults) (fun _ => { writes := faults }) w symbols db =
      scanner.runScanner faults w runId symbols db := by
  unfold runScannerUnder runScanner evaluateBatch logNoContextBatch calls
  cases scanner.buildContextBulk w symbols with
  | error text => rfl
  | ok contexts =>
    have hmark : ∀ {α β : Type} (l : List α) (b : β), (l.mapIdx fun _ a => (a,b)) =
        l.map fun a => (a,b) := by
      intro α β l b
      rw [List.mapIdx_eq_iff]
      simp
    simp only [foldl_slices (show 0 < batchSize by decide), hmark, List.foldl_map]
    rfl

/-- What the loop over the symbols without context counts. -/
theorem foldl_logNoContext_counters (turns : List (Row SymbolRow × WriteFaults))
    (state : ScannerTables × ScannerRunStats) :
    (turns.foldl (fun state turn => scanner.logNoContext turn.2 runId state turn.1)
        state).2.accounted = state.2.accounted+turns.length ∧
      (turns.foldl (fun state turn => scanner.logNoContext turn.2 runId state turn.1)
        state).2.qualifiedCount = state.2.qualifiedCount := by
  induction turns generalizing state with
  | nil => exact ⟨rfl,rfl⟩
  | cons turn turns ih =>
    obtain ⟨hcount,hqualified⟩ := scanner.logNoContext_counters turn.2 runId state turn.1
    obtain ⟨hrest,hrest'⟩ := ih (scanner.logNoContext turn.2 runId state turn.1)
    refine ⟨?_,?_⟩
    · rw [List.foldl_cons, hrest, hcount, List.length_cons]
      omega
    · rw [List.foldl_cons, hrest', hqualified]

/-- What the loop over the symbols to evaluate counts. -/
theorem foldl_evaluateCall_counters (calls : List scanner.Call)
    (state : ScannerTables × ScannerRunStats) :
    (calls.foldl (scanner.evaluateCall runId) state).2.accounted =
        state.2.accounted+calls.length+calls.countP scanner.callUndone ∧
      (calls.foldl (scanner.evaluateCall runId) state).2.qualifiedCount =
        state.2.qualifiedCount+calls.countP scanner.callQualifies := by
  induction calls generalizing state with
  | nil => exact ⟨rfl,rfl⟩
  | cons call calls ih =>
    obtain ⟨hcount,hqualified⟩ :=
      (scanner.raising call.2).evaluateSymbol_counters call.2.writes runId state call.1
    obtain ⟨hrest,hrest'⟩ := ih (scanner.evaluateCall runId state call)
    have htoNat : ∀ b : Bool, (if b = true then 1 else 0) = b.toNat := by decide
    refine ⟨?_,?_⟩
    · rw [List.foldl_cons, hrest, evaluateCall, hcount, List.countP_cons, List.length_cons, htoNat,
        callUndone]
      omega
    · rw [List.foldl_cons, hrest', evaluateCall, hqualified, List.countP_cons, htoNat, callQualifies]
      omega

theorem foldl_evaluateCall_results (calls : List scanner.Call)
    (state : ScannerTables × ScannerRunStats) :
    (calls.foldl (scanner.evaluateCall runId) state).1.results =
      (calls.filterMap scanner.callVerdict).foldl upsert state.1.results := by
  induction calls generalizing state with
  | nil => rfl
  | cons call calls ih =>
    rw [List.foldl_cons, ih, evaluateCall, evaluateSymbol_results, store]
    cases hverdict : scanner.callVerdict call with
    | none =>
      rw [List.filterMap_cons_none hverdict]
      rw [callVerdict] at hverdict
      rw [hverdict]
    | some row =>
      rw [List.filterMap_cons_some hverdict, List.foldl_cons]
      rw [callVerdict] at hverdict
      rw [hverdict]

theorem foldl_turns_results (turns : List (Row SymbolRow × WriteFaults))
    (state : ScannerTables × ScannerRunStats) :
    (turns.foldl (fun state turn => scanner.logNoContext turn.2 runId state turn.1)
      state).1.results = state.1.results := by
  induction turns generalizing state with
  | nil => rfl
  | cons turn turns ih => rw [List.foldl_cons, ih, logNoContext_results]

/-! ### What is counted as qualified, and what is left -/

theorem qualifies_of_verdict {item : Row SymbolRow × scanner.Context} {row : ScannerResult}
    (h : scanner.verdict faults item = some row) :
    scanner.qualifies faults item = decide (row.status = .qualified) := by
  rw [verdict_eq] at h
  split at h
  · cases h
  · rw [qualifies, h, Option.any_some]

/-- A qualified row is not rolled back. -/
theorem exists_verdict_of_qualifies {item : Row SymbolRow × scanner.Context}
    (h : scanner.qualifies faults item = true) :
    ∃ row, scanner.verdict faults item = some row ∧ row.status = .qualified := by
  obtain ⟨row,hsaved,hstatus⟩ := (Option.any_eq_true _ _).mp h
  have hstatus : row.status = .qualified := of_decide_eq_true hstatus
  refine ⟨row,?_,hstatus⟩
  have hkept : scanner.undoneRejection faults item = false := by
    simp [undoneRejection, hsaved, hstatus]
  rw [verdict_eq, hkept, if_neg Bool.false_ne_true, hsaved]

/-- The status of a row is the scanner's own decision on the context. -/
theorem scan_of_verdict {item : Row SymbolRow × scanner.Context} {row : ScannerResult}
    (h : scanner.verdict faults item = some row) :
    ∃ outcome, scanner.scan item.2 = .ok outcome ∧
      row.status = if outcome.qualified then .qualified else .rejected := by
  unfold verdict at h
  repeat' split at h
  all_goals cases h
  exact ⟨_,by assumption,rfl⟩

variable {scanner}

theorem scan_of_callVerdict {call : scanner.Call} {row : ScannerResult}
    (h : scanner.callVerdict call = some row) :
    ∃ outcome, scanner.scan call.1.2 = .ok outcome ∧
      row.status = if outcome.qualified then .qualified else .rejected := by
  obtain ⟨outcome,hscan,hstatus⟩ := (scanner.raising call.2).scan_of_verdict call.2.writes h
  exact ⟨outcome,ok_of_raised hscan,hstatus⟩

theorem key_callVerdict {call : scanner.Call} {row : ScannerResult}
    (h : scanner.callVerdict call = some row) :
    row.key = (scanner.symbolId call.1.2,scanner.name,scanner.scanDate call.1.2) :=
  (scanner.raising call.2).key_verdict call.2.writes h

/-- Verdicts on one context agree. -/
theorem status_callVerdict {call call' : scanner.Call} {row row' : ScannerResult}
    (h : scanner.callVerdict call = some row) (h' : scanner.callVerdict call' = some row')
    (hcontext : call.1.2 = call'.1.2) : row.status = row'.status := by
  obtain ⟨outcome,hscan,hstatus⟩ := scan_of_callVerdict h
  obtain ⟨outcome',hscan',hstatus'⟩ := scan_of_callVerdict h'
  rw [hcontext, hscan'] at hscan
  rw [hstatus, hstatus', Except.ok.inj hscan]

variable {w : ω} {unlogged : ℕ → WriteFaults} {pattern : ℕ → CallFaults} {contexts : Assoc ℕ (Option scanner.Context)}
variable {symbols : List (Row SymbolRow)} {db : ScannerTables}

/-- A call is for a symbol with a context of its own that has no row of its scan date yet. -/
theorem context_of_mem_calls (h : scanner.buildContextBulk w symbols = .ok contexts)
    {call : scanner.Call} (hcall : call ∈ scanner.calls pattern contexts symbols db.results) :
    scanner.symbolId call.1.2 = call.1.1.id ∧ contexts.get? call.1.1.id = some (some call.1.2) ∧
      existsForDate db.results (call.1.1.id,scanner.name,scanner.scanDate call.1.2) = false := by
  obtain ⟨i,hi,heq⟩ := List.exists_of_mem_mapIdx hcall
  have hitem : call.1 ∈ scanner.toEvaluate db.results (scanner.haveContext contexts symbols) := by
    rw [← heq]
    exact List.getElem_mem hi
  rw [toEvaluate_eq, List.mem_filter] at hitem
  obtain ⟨-,hcontext⟩ := scanner.mem_haveContext.mp hitem.1
  exact ⟨scanner.symbolId_of_contexts h hcontext,hcontext,by simpa using hitem.2⟩

/-- A row of a key that had none is some call's verdict. -/
theorem exists_call_of_mem {calls : List scanner.Call} {results : ScannerResults}
    {r : Row ScannerResult}
    (hr : r ∈ ((calls.filterMap scanner.callVerdict).foldl upsert results).table.rows)
    (hnew : existsForDate results r.val.key = false) :
    ∃ call ∈ calls, scanner.callVerdict call = some r.val := by
  rcases val_of_mem_foldl_upsert _ hr with hval | hold
  · exact List.mem_filterMap.mp hval
  · have hexists : existsForDate results r.val.key = true := existsForDate_iff.mpr ⟨r,hold,rfl⟩
    rw [hnew] at hexists
    cases hexists

/-- What a run has left of qualified rows are those of its calls that qualify. -/
theorem mem_keys_newQualified (h : scanner.buildContextBulk w symbols = .ok contexts)
    (key : ℕ × String × Date) :
    key ∈ (newQualified db.results (((scanner.calls pattern contexts symbols db.results).filterMap
          scanner.callVerdict).foldl upsert db.results)).map (fun r => r.val.key) ↔
      key ∈ ((scanner.calls pattern contexts symbols db.results).filter scanner.callQualifies).map
        fun call => (call.1.1.id,scanner.name,scanner.scanDate call.1.2) := by
  have hcalls := fun call hcall => @context_of_mem_calls _ _ _ pattern _ _ db h call hcall
  generalize scanner.calls pattern contexts symbols db.results = calls at hcalls
  simp only [newQualified, List.mem_map, List.mem_filter, Bool.and_eq_true, Bool.not_eq_true',
    decide_eq_true_eq]
  constructor
  · rintro ⟨r,⟨hr,hstatus,hnew⟩,rfl⟩
    obtain ⟨call,hcall,hverdict⟩ := exists_call_of_mem hr hnew
    obtain ⟨hid,-,-⟩ := hcalls call hcall
    have hqualifies := (scanner.raising call.2).qualifies_of_verdict call.2.writes hverdict
    refine ⟨call,⟨hcall,?_⟩,?_⟩
    · rw [callQualifies, hqualifies, hstatus]
      rfl
    · rw [key_callVerdict hverdict, hid]
  · rintro ⟨call,⟨hcall,hqualifies⟩,rfl⟩
    obtain ⟨hid,hcontext,hnew⟩ := hcalls call hcall
    obtain ⟨row,hverdict,hstatus⟩ :=
      (scanner.raising call.2).exists_verdict_of_qualifies call.2.writes hqualifies
    have hkey := key_callVerdict hverdict
    rw [hid] at hkey
    have hrow : row ∈ calls.filterMap scanner.callVerdict :=
      List.mem_filterMap.mpr ⟨call,hcall,hverdict⟩
    obtain ⟨r,hr,hrkey⟩ := existsForDate_iff.mp
      ((@existsForDate_foldl_upsert db.results _ _).mpr (Or.inr ⟨row,hrow,hkey⟩))
    refine ⟨r,⟨hr,?_,?_⟩,hrkey⟩
    · -- The row may be another call's for the same symbol: it has the same context.
      rw [← hrkey] at hnew
      obtain ⟨call',hcall',hverdict'⟩ := exists_call_of_mem hr hnew
      obtain ⟨hid',hcontext',-⟩ := hcalls call' hcall'
      have hsame : call'.1.1.id = call.1.1.id := by
        rw [← hid']
        exact congrArg Prod.fst ((key_callVerdict hverdict').symm.trans hrkey)
      rw [hsame, hcontext] at hcontext'
      rw [← hstatus]
      exact status_callVerdict hverdict' hverdict (by simpa using hcontext'.symm)
    · rw [hrkey, hnew]

/-- The qualifying calls have distinct keys just when they are for distinct symbols. -/
theorem nodup_keys_iff (h : scanner.buildContextBulk w symbols = .ok contexts) :
    (((scanner.calls pattern contexts symbols db.results).filter scanner.callQualifies).map
        fun call => (call.1.1.id,scanner.name,scanner.scanDate call.1.2)).Nodup ↔
      (((scanner.calls pattern contexts symbols db.results).filter scanner.callQualifies).map
        fun call => call.1.1.id).Nodup := by
  unfold List.Nodup
  rw [List.pairwise_map, List.pairwise_map]
  apply List.Pairwise.iff_of_mem
  intro call call' hcall hcall'
  obtain ⟨-,hcontext,-⟩ := context_of_mem_calls h (List.mem_of_mem_filter hcall)
  obtain ⟨-,hcontext',-⟩ := context_of_mem_calls h (List.mem_of_mem_filter hcall')
  refine not_congr ⟨congrArg Prod.fst,?_⟩
  intro hid
  rw [← hid, hcontext] at hcontext'
  have hsame : call.1.2 = call'.1.2 := by simpa using hcontext'
  rw [hid, hsame]

variable (scanner) in
/-- The counters of a run say what it did: every symbol without context and every symbol left to
evaluate is counted once, and as qualified are counted the qualified rows it has left. -/
def Bookkept (contexts : Assoc ℕ (Option scanner.Context)) (symbols : List (Row SymbolRow))
    (db : ScannerTables) (done : ScannerTables × ScannerRunStats) : Prop :=
  done.2.accounted = (scanner.noContext contexts symbols).length +
      (scanner.toEvaluate db.results (scanner.haveContext contexts symbols)).length ∧
    done.2.qualifiedCount = (newQualified db.results done.1.results).length

/-- What a run has counted and stored, whatever raises in its savepoints. -/
theorem runScannerUnder_spec (unlogged : ℕ → WriteFaults) (pattern : ℕ → CallFaults)
    (db : ScannerTables) (h : scanner.buildContextBulk w symbols = .ok contexts) :
    ∃ done, scanner.runScannerUnder runId unlogged pattern w symbols db = .ok done ∧
      done.1.results = ((scanner.calls pattern contexts symbols db.results).filterMap
        scanner.callVerdict).foldl upsert db.results ∧
      done.2.accounted = (scanner.noContext contexts symbols).length +
        (scanner.toEvaluate db.results (scanner.haveContext contexts symbols)).length +
        (scanner.calls pattern contexts symbols db.results).countP scanner.callUndone ∧
      done.2.qualifiedCount =
        (scanner.calls pattern contexts symbols db.results).countP scanner.callQualifies := by
  refine ⟨_,by rw [runScannerUnder, h],?_,?_,?_⟩
  all_goals rw [foldl_slices (by decide), foldl_slices (by decide)]
  · rw [foldl_evaluateCall_results, foldl_turns_results]
  · rw [(scanner.foldl_evaluateCall_counters _ _ _).1, (scanner.foldl_logNoContext_counters _ _ _).1,
      List.length_mapIdx, calls, List.length_mapIdx]
    simp [ScannerRunStats.accounted]
  · rw [(scanner.foldl_evaluateCall_counters _ _ _).2, (scanner.foldl_logNoContext_counters _ _ _).2]
    simp

/-- A run leaves the rows that were there as they are. -/
theorem mem_results_of_runScannerUnder {done : ScannerTables × ScannerRunStats}
    (h : scanner.runScannerUnder runId unlogged pattern w symbols db = .ok done)
    {r : Row ScannerResult} (hr : r ∈ db.results.table.rows) :
    r ∈ done.1.results.table.rows := by
  cases hcontexts : scanner.buildContextBulk w symbols with
  | error text =>
    rw [runScannerUnder, hcontexts] at h
    cases h
  | ok contexts =>
    obtain ⟨done',hdone,hresults,-⟩ :=
      scanner.runScannerUnder_spec runId unlogged pattern db hcontexts
    obtain rfl : done = done' := Except.ok.inj (h.symm.trans hdone)
    rw [hresults]
    apply mem_foldl_upsert _ hr
    intro value hvalue heq
    obtain ⟨call,hcall,hverdict⟩ := List.mem_filterMap.mp hvalue
    obtain ⟨hid,-,hnew⟩ := context_of_mem_calls hcontexts hcall
    have hexists : existsForDate db.results value.key = true :=
      existsForDate_iff.mpr ⟨r,hr,heq⟩
    rw [key_callVerdict hverdict, hid, hnew] at hexists
    cases hexists

/-- The counters of a run are right just when no saved rejection is undone by its own log entry and no
symbol qualifies twice. -/
theorem bookkept_iff (unlogged : ℕ → WriteFaults) (pattern : ℕ → CallFaults)
    (db : ScannerTables) (h : scanner.buildContextBulk w symbols = .ok contexts) :
    ∃ done, scanner.runScannerUnder runId unlogged pattern w symbols db = .ok done ∧
      (scanner.Bookkept contexts symbols db done ↔
        (∀ call ∈ scanner.calls pattern contexts symbols db.results,
          scanner.callUndone call = false) ∧
        (((scanner.calls pattern contexts symbols db.results).filter scanner.callQualifies).map
          fun call => call.1.1.id).Nodup) := by
  obtain ⟨done,hdone,hresults,haccounted,hqualified⟩ :=
    scanner.runScannerUnder_spec runId unlogged pattern db h
  refine ⟨done,hdone,and_congr ?_ ?_⟩
  · rw [haccounted, Nat.add_eq_left, List.countP_eq_zero]
    simp
  · have hrows : ((newQualified db.results done.1.results).map fun r => r.val.key).Nodup :=
      (nodup_keys done.1.results).sublist (List.filter_sublist.map _)
    rw [hresults] at hrows ⊢
    have hlengths := KeepFirst.length_eq_iff_nodup hrows (mem_keys_newQualified h)
    rw [List.length_map, List.length_map, nodup_keys_iff h] at hlengths
    rw [hqualified, List.countP_eq_length_filter]
    exact hlengths

end BaseScanner

/-- The connection is lost for the log entry of the rejection. -/
def unloggedRejection : CallFaults where
  writes := ⟨fun _ => none,fun _ level =>
    if level = "info" then some "connection is closed" else none⟩

theorem bookkept_iff_rejectAll :
    ∃ contexts, (candidateScanner {} rejectAll).buildContextBulk sampleView
        (sampleSymbols.take 1) = .ok contexts ∧
      ∃ done, (candidateScanner {} rejectAll).runScannerUnder 1 (fun _ => WriteFaults.none)
          (fun _ => unloggedRejection) sampleView (sampleSymbols.take 1)
          ⟨ScannerResults.empty,Table.empty⟩ = .ok done ∧
        ((candidateScanner {} rejectAll).Bookkept contexts (sampleSymbols.take 1)
            ⟨ScannerResults.empty,Table.empty⟩ done ↔
          (∀ call ∈ (candidateScanner {} rejectAll).calls (fun _ => unloggedRejection) contexts
            (sampleSymbols.take 1) ScannerResults.empty,
            (candidateScanner {} rejectAll).callUndone call = false) ∧
          ((((candidateScanner {} rejectAll).calls (fun _ => unloggedRejection) contexts
            (sampleSymbols.take 1) ScannerResults.empty).filter
              (candidateScanner {} rejectAll).callQualifies).map fun call => call.1.1.id).Nodup) :=
  ⟨_,rfl,BaseScanner.bookkept_iff 1 (fun _ => WriteFaults.none) (fun _ => unloggedRejection)
    ⟨ScannerResults.empty,Table.empty⟩ rfl⟩

/-- One symbol was evaluated, and two are counted: as rejected, and as an error. -/
theorem unloggedRejection_not_bookkept :
    ∃ contexts done, (candidateScanner {} rejectAll).buildContextBulk sampleView
        (sampleSymbols.take 1) = .ok contexts ∧
      (candidateScanner {} rejectAll).runScannerUnder 1 (fun _ => WriteFaults.none)
        (fun _ => unloggedRejection) sampleView (sampleSymbols.take 1)
        ⟨ScannerResults.empty,Table.empty⟩ = .ok done ∧
      ¬ (candidateScanner {} rejectAll).Bookkept contexts (sampleSymbols.take 1)
        ⟨ScannerResults.empty,Table.empty⟩ done := by
  refine ⟨_,_,rfl,rfl,?_⟩
  rintro ⟨hcount,-⟩
  exact absurd hcount (by decide +kernel)

end MarketScanner.Scanner
