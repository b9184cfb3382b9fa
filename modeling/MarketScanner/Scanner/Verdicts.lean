import MarketScanner.Scanner.Manager

/-! What a scanner run stores: for each symbol left to evaluate the row of its verdict, and nothing for
a symbol that is invalid or raises. -/
namespace MarketScanner.Scanner
open MarketScanner.Library MarketScanner.Python MarketScanner.Universe

namespace ScannerTables
variable {faults : WriteFaults} {db db' : ScannerTables} {entry : ScannerLog}

theorem results_log (h : db.log faults entry = .ok db') : db'.results = db.results := by
  unfold log at h
  split at h
  · cases h
  · cases h
    rfl

end ScannerTables

namespace ScannerResultRepository

/-- `exists_for_date`. -/
def existsForDate (results : ScannerResults) (key : ℕ × String × Date) : Bool :=
  results.table.rows.any fun r => r.val.key == key

theorem existsForDate_iff {results : ScannerResults} {key : ℕ × String × Date} :
    existsForDate results key = true ↔ ∃ r ∈ results.table.rows, r.val.key = key := by
  simp [existsForDate]

theorem existsForDate_upsert {results : ScannerResults} {value : ScannerResult}
    {key : ℕ × String × Date} :
    existsForDate (upsert results value) key = true ↔
      key = value.key ∨ existsForDate results key = true := by
  rw [existsForDate_iff, existsForDate_iff]
  constructor
  · rintro ⟨r,hr,rfl⟩
    rcases val_of_mem_upsert hr with hval | hold
    · exact Or.inl (congrArg ScannerResult.key hval)
    · exact Or.inr ⟨r,hold,rfl⟩
  · rintro (rfl | hold)
    · obtain ⟨r,hr,hval⟩ := exists_upsert results value
      exact ⟨r,hr,congrArg ScannerResult.key hval⟩
    · exact exists_key_upsert value hold

theorem existsForDate_foldl_upsert {results : ScannerResults} (values : List ScannerResult)
    {key : ℕ × String × Date} :
    existsForDate (values.foldl upsert results) key = true ↔
      existsForDate results key = true ∨ ∃ value ∈ values, value.key = key := by
  induction values generalizing results with
  | nil => simp
  | cons value values ih =>
    rw [List.foldl_cons, ih, existsForDate_upsert, List.exists_mem_cons_iff, eq_comm (a := key),
      or_assoc, or_left_comm]

/-- The bulk check is the check of each pair. -/
theorem mem_existsBulk {results : ScannerResults} {pairs : List (ℕ × Date)} {name : String}
    {pair : ℕ × Date} :
    pair ∈ existsBulk results pairs name ↔
      pair ∈ pairs ∧ existsForDate results (pair.1,name,pair.2) = true := by
  rw [existsForDate_iff]
  unfold existsBulk
  split
  case isTrue h => simp [h]
  case isFalse h =>
    simp only [List.mem_filter, List.mem_map, decide_eq_true_eq, Bool.and_eq_true, beq_iff_eq]
    constructor
    · rintro ⟨⟨r,⟨hr,⟨hname,-⟩,-⟩,rfl⟩,hpair⟩
      exact ⟨hpair,r,hr,by rw [ScannerResult.key, hname]⟩
    · rintro ⟨hpair,r,hr,hkey⟩
      obtain ⟨hid,hname,hdate⟩ : r.val.symbolId = pair.1 ∧ r.val.scannerName = name ∧
          r.val.date = pair.2 := by simpa [ScannerResult.key] using hkey
      refine ⟨⟨r,⟨hr,⟨hname,?_⟩,?_⟩,by rw [hid, hdate]⟩,hpair⟩
      · exact ⟨pair,hpair,hid.symm⟩
      · exact ⟨pair,hpair,hdate.symm⟩

end ScannerResultRepository

namespace BaseScanner
open ScannerResultRepository
variable {ω : Type} (scanner : BaseScanner ω) (faults : WriteFaults) {w : ω} (runId : ℕ)
variable {symbols : List (Row SymbolRow)} {contexts : Assoc ℕ (Option scanner.Context)}

/-- The row that evaluating a symbol stores. -/
def verdict (item : Row SymbolRow × scanner.Context) : Option ScannerResult :=
  match scanner.validate item.2 with
  | .error _ => none
  | .ok validation =>
    if !validation.valid then none
    else match scanner.scan item.2 with
      | .error _ => none
      | .ok outcome => match scanner.score item.2 with
        | .error _ => none
        | .ok score =>
          if (faults.save (scanner.symbolId item.2)).isSome then none
          else if !outcome.qualified && (faults.log item.1.id "info").isSome then none
          else some (scanner.resultRow item.2 outcome score)

def store (results : ScannerResults) (item : Row SymbolRow × scanner.Context) : ScannerResults :=
  match scanner.verdict faults item with
  | some row => upsert results row
  | none => results

theorem key_verdict {item : Row SymbolRow × scanner.Context} {row : ScannerResult}
    (h : scanner.verdict faults item = some row) :
    row.key = (scanner.symbolId item.2,scanner.name,scanner.scanDate item.2) := by
  unfold verdict at h
  repeat' split at h
  all_goals cases h
  rfl

theorem store_of_none {item : Row SymbolRow × scanner.Context}
    (h : scanner.verdict faults item = none) (results : ScannerResults) :
    scanner.store faults results item = results := by
  rw [store, h]

theorem store_of_some {item : Row SymbolRow × scanner.Context} {row : ScannerResult}
    (h : scanner.verdict faults item = some row) (results : ScannerResults) :
    scanner.store faults results item = upsert results row := by
  rw [store, h]

/-- The row that evaluating a symbol saves, also where the savepoint is rolled back later. -/
def saved (item : Row SymbolRow × scanner.Context) : Option ScannerResult :=
  match scanner.validate item.2 with
  | .error _ => none
  | .ok validation =>
    if !validation.valid then none
    else match scanner.scan item.2 with
      | .error _ => none
      | .ok outcome => match scanner.score item.2 with
        | .error _ => none
        | .ok score =>
          if (faults.save (scanner.symbolId item.2)).isSome then none
          else some (scanner.resultRow item.2 outcome score)

/-- A rejected row is saved, and logging the rejection raises. -/
def undoneRejection (item : Row SymbolRow × scanner.Context) : Bool :=
  (scanner.saved faults item).any fun row =>
    decide (row.status = .rejected) && (faults.log item.1.id "info").isSome

theorem verdict_eq (item : Row SymbolRow × scanner.Context) :
    scanner.verdict faults item =
      if scanner.undoneRejection faults item then none else scanner.saved faults item := by
  unfold verdict undoneRejection saved
  cases scanner.validate item.2 with
  | error text => simp
  | ok validation =>
    cases hvalid : validation.valid with
    | false => simp [hvalid]
    | true =>
      cases scanner.scan item.2 with
      | error text => simp [hvalid]
      | ok outcome =>
        cases scanner.score item.2 with
        | error text => simp [hvalid]
        | ok score =>
          cases hsave : faults.save (scanner.symbolId item.2) with
          | some text => simp [hvalid]
          | none => cases hqualified : outcome.qualified <;> simp [resultRow, hvalid, hqualified]

/-- What evaluating a symbol comes to: nothing is saved, because it raises or is invalid, or a row is
saved, and after a rejected one the rejection is logged. -/
theorem evaluateOne_cases (item : Row SymbolRow × scanner.Context) (stats : ScannerRunStats)
    (db : ScannerTables) :
    (scanner.saved faults item = none ∧
      ((∃ text, scanner.evaluateOne faults runId item.1 item.2 stats db = (stats,.error text)) ∨
        ∃ db', scanner.evaluateOne faults runId item.1 item.2 stats db =
          ({ stats with rejectedCount := stats.rejectedCount+1 },.ok db') ∧
            db'.results = db.results)) ∨
    ∃ row, scanner.saved faults item = some row ∧
      (row.status = .qualified ∧ scanner.evaluateOne faults runId item.1 item.2 stats db =
          ({ stats with qualifiedCount := stats.qualifiedCount+1 },
            .ok { db with results := upsert db.results row }) ∨
        row.status = .rejected ∧ ∃ message,
          scanner.evaluateOne faults runId item.1 item.2 stats db =
            ({ stats with rejectedCount := stats.rejectedCount+1 },
              ({ db with results := upsert db.results row } : ScannerTables).log faults
                ⟨runId,scanner.name,"info",message,item.1.id⟩)) := by
  unfold evaluateOne saved
  cases scanner.validate item.2 with
  | error text => exact Or.inl ⟨rfl,Or.inl ⟨text,rfl⟩⟩
  | ok validation =>
    cases hvalid : validation.valid with
    | false =>
      refine Or.inl ⟨by simp [hvalid],?_⟩
      cases hlog : db.log faults ⟨runId,scanner.name,"info",
          "validation failed: " ++ validation.reason.getD "None",item.1.id⟩ with
      | error text => exact Or.inl ⟨text,by simp [hvalid, hlog]⟩
      | ok db' => exact Or.inr ⟨db',by simp [hvalid, hlog],ScannerTables.results_log hlog⟩
    | true =>
      cases scanner.scan item.2 with
      | error text => exact Or.inl ⟨by simp [hvalid],Or.inl ⟨text,by simp [hvalid]⟩⟩
      | ok outcome =>
        cases scanner.score item.2 with
        | error text => exact Or.inl ⟨by simp [hvalid],Or.inl ⟨text,by simp [hvalid]⟩⟩
        | ok score =>
          cases hsave : faults.save (scanner.symbolId item.2) with
          | some text =>
            exact Or.inl ⟨by simp [hvalid],Or.inl ⟨text,by simp [hvalid, saveResults, hsave]⟩⟩
          | none =>
            refine Or.inr ⟨scanner.resultRow item.2 outcome score,by simp [hvalid],?_⟩
            cases hqualified : outcome.qualified with
            | true =>
              exact Or.inl ⟨by simp [resultRow, hqualified],
                by simp [hvalid, saveResults, hsave, hqualified]⟩
            | false =>
              exact Or.inr ⟨by simp [resultRow, hqualified],outcome.reason,
                by simp [hvalid, saveResults, hsave, hqualified]⟩

/-- What one symbol's evaluation leaves in the results, when it does not raise. -/
theorem evaluateOne_results (item : Row SymbolRow × scanner.Context) (stats : ScannerRunStats)
    (db : ScannerTables) :
    match (scanner.evaluateOne faults runId item.1 item.2 stats db).2 with
    | .ok db' => db'.results = scanner.store faults db.results item
    | .error _ => scanner.verdict faults item = none := by
  have hverdict := scanner.verdict_eq faults item
  unfold undoneRejection at hverdict
  rcases scanner.evaluateOne_cases faults runId item stats db with
    ⟨hnone,⟨text,hone⟩ | ⟨db',hone,hkept⟩⟩ | ⟨row,hsaved,⟨hstatus,hone⟩ | ⟨hstatus,message,hone⟩⟩
  · simp [hone, hverdict, hnone]
  · simp [hone, store, hverdict, hnone, hkept]
  · simp [hone, store, hverdict, hsaved, hstatus]
  · rw [hone]
    cases hlog : faults.log item.1.id "info" with
    | some text => simp [ScannerTables.log, hverdict, hsaved, hstatus, hlog]
    | none => simp [ScannerTables.log, store, hverdict, hsaved, hlog]

/-- A symbol that raises leaves the results as they were: its savepoint is rolled back. -/
theorem evaluateSymbol_results (state : ScannerTables × ScannerRunStats)
    (item : Row SymbolRow × scanner.Context) :
    (scanner.evaluateSymbol faults runId state item).1.results =
      scanner.store faults state.1.results item := by
  have hone := scanner.evaluateOne_results faults runId item state.2 state.1
  unfold evaluateSymbol
  generalize scanner.evaluateOne faults runId item.1 item.2 state.2 state.1 = outcome at hone
  rcases outcome with ⟨stats,text | db⟩
  · rw [scanner.store_of_none faults hone]
    dsimp only
    split
    · rename_i hlog
      exact ScannerTables.results_log hlog
    · rfl
  · exact hone

theorem logNoContext_results (state : ScannerTables × ScannerRunStats) (symbol : Row SymbolRow) :
    (scanner.logNoContext faults runId state symbol).1.results = state.1.results := by
  unfold logNoContext
  dsimp only
  split
  · rename_i hlog
    exact ScannerTables.results_log hlog
  · rfl

theorem foldl_logNoContext_results (state : ScannerTables × ScannerRunStats) :
    (symbols.foldl (scanner.logNoContext faults runId) state).1.results = state.1.results := by
  induction symbols generalizing state with
  | nil => rfl
  | cons symbol symbols ih =>
    rw [List.foldl_cons, ih, logNoContext_results]

theorem foldl_evaluateSymbol_results (state : ScannerTables × ScannerRunStats)
    (items : List (Row SymbolRow × scanner.Context)) :
    (items.foldl (scanner.evaluateSymbol faults runId) state).1.results =
      items.foldl (scanner.store faults) state.1.results := by
  induction items generalizing state with
  | nil => rfl
  | cons item items ih =>
    rw [List.foldl_cons, List.foldl_cons, ih, evaluateSymbol_results]

theorem foldl_store_eq (items : List (Row SymbolRow × scanner.Context)) (results : ScannerResults) :
    items.foldl (scanner.store faults) results =
      (items.filterMap (scanner.verdict faults)).foldl upsert results := by
  induction items generalizing results with
  | nil => rfl
  | cons item items ih =>
    rw [List.foldl_cons, ih, store]
    cases hverdict : scanner.verdict faults item with
    | none => rw [List.filterMap_cons_none hverdict]
    | some row => rw [List.filterMap_cons_some hverdict, List.foldl_cons]

/-- The keys that have a row after a run: those that had one, and those of the rows stored. -/
theorem existsForDate_foldl_store (items : List (Row SymbolRow × scanner.Context))
    {results : ScannerResults} {key : ℕ × String × Date} :
    existsForDate (items.foldl (scanner.store faults) results) key = true ↔
      existsForDate results key = true ∨
        ∃ item ∈ items, ∃ row, scanner.verdict faults item = some row ∧ row.key = key := by
  rw [foldl_store_eq, existsForDate_foldl_upsert]
  simp only [List.mem_filterMap]
  constructor
  · rintro (hold | ⟨row,⟨item,hitem,hverdict⟩,hkey⟩)
    · exact Or.inl hold
    · exact Or.inr ⟨item,hitem,row,hverdict,hkey⟩
  · rintro (hold | ⟨item,hitem,row,hverdict,hkey⟩)
    · exact Or.inl hold
    · exact Or.inr ⟨row,⟨item,hitem,hverdict⟩,hkey⟩

/-- Once the contexts are built a run returns, and leaves what its evaluated symbols store. -/
theorem runScanner_results (h : scanner.buildContextBulk w symbols = .ok contexts)
    (db : ScannerTables) :
    ∃ done, scanner.runScanner faults w runId symbols db = .ok done ∧
      done.1.results = (scanner.toEvaluate db.results
        (scanner.haveContext contexts symbols)).foldl (scanner.store faults) db.results := by
  refine ⟨_,by rw [runScanner, h],?_⟩
  unfold evaluateBatch logNoContextBatch
  rw [foldl_slices (by decide), foldl_slices (by decide), foldl_evaluateSymbol_results,
    foldl_logNoContext_results]

theorem exists_contexts_of_runScanner {db : ScannerTables} {done : ScannerTables × ScannerRunStats}
    (h : scanner.runScanner faults w runId symbols db = .ok done) :
    ∃ contexts, scanner.buildContextBulk w symbols = .ok contexts := by
  unfold runScanner at h
  split at h
  · cases h
  · exact ⟨_,by assumption⟩

/-- The skip looks at each symbol alone. -/
theorem toEvaluate_eq (results : ScannerResults) (items : List (Row SymbolRow × scanner.Context)) :
    scanner.toEvaluate results items = items.filter fun item =>
      !existsForDate results (item.1.id,scanner.name,scanner.scanDate item.2) := by
  unfold toEvaluate
  apply List.filter_congr
  intro item hitem
  have hpair : (item.1.id,scanner.scanDate item.2) ∈
      items.map fun item => (item.1.id,scanner.scanDate item.2) := List.mem_map_of_mem hitem
  rw [Bool.not_inj_iff, Bool.eq_iff_iff, decide_eq_true_eq, mem_existsBulk]
  exact and_iff_right hpair

theorem mem_haveContext {item : Row SymbolRow × scanner.Context} :
    item ∈ scanner.haveContext contexts symbols ↔
      item.1 ∈ symbols ∧ contexts.get? item.1.id = some (some item.2) := by
  simp only [haveContext, List.mem_filterMap, Option.map_eq_some_iff, Option.join_eq_some_iff]
  constructor
  · rintro ⟨s,hs,c,hc,rfl⟩
    exact ⟨hs,hc⟩
  · rintro ⟨hs,hc⟩
    exact ⟨item.1,hs,item.2,hc,rfl⟩

/-! ### Contexts -/

/-- The context of one symbol, as the run for `symbols` builds it. -/
def contextOf (scanner : BaseScanner ω) (w : ω) (symbols : List (Row SymbolRow))
    (symbol : Row SymbolRow) : Except String (Option scanner.Context) :=
  match scanner.bulk with
  | some read => .ok ((read.build w symbols).get? symbol.id).join
  | none => scanner.buildContext w symbol

/-- Building the context of a symbol does not raise. -/
def Builds (scanner : BaseScanner ω) (w : ω) (symbol : Row SymbolRow) : Prop :=
  scanner.bulk.isSome ∨ ∃ context, scanner.buildContext w symbol = .ok context

section Loop
variable {κ : Type} {f : Row SymbolRow → Except String (Option κ)} {d d' : Assoc ℕ (Option κ)}

theorem loopContexts_ok_iff :
    (∃ d', loopContexts f symbols d = .ok d') ↔ ∀ s ∈ symbols, ∃ context, f s = .ok context := by
  induction symbols generalizing d with
  | nil => simp [loopContexts]
  | cons symbol symbols ih =>
    unfold loopContexts
    cases hf : f symbol with
    | error text => simp [hf]
    | ok context => simp [hf, ih]

theorem loopContexts_eq_foldl (h : loopContexts f symbols d = .ok d') :
    d' = symbols.foldl (fun d s => d.set s.id ((f s).toOption.join)) d := by
  induction symbols generalizing d with
  | nil =>
    cases h
    rfl
  | cons symbol symbols ih =>
    unfold loopContexts at h
    cases hf : f symbol with
    | error text =>
      rw [hf] at h
      cases h
    | ok context =>
      rw [hf] at h
      rw [List.foldl_cons, hf]
      exact ih h

/-- What the loop holds for a symbol comes from the symbols of its id alone. -/
theorem get?_loopContexts (h : loopContexts f symbols Assoc.empty = .ok d) (k : ℕ) :
    d.get? k = ((symbols.filter fun s => decide (s.id = k)).getLast?).map
      fun s => (f s).toOption.join := by
  rw [loopContexts_eq_foldl h, Assoc.get?_foldl_set, Assoc.get?_empty, Option.or_none]

end Loop

theorem buildContextBulk_ok_iff :
    (∃ contexts, scanner.buildContextBulk w symbols = .ok contexts) ↔
      ∀ s ∈ symbols, scanner.Builds w s := by
  unfold buildContextBulk Builds
  cases scanner.bulk with
  | some read => simp
  | none => simpa using loopContexts_ok_iff

/-- A context belongs to the symbol it was built for. -/
theorem symbolId_of_contexts (h : scanner.buildContextBulk w symbols = .ok contexts) {k : ℕ}
    {context : scanner.Context} (hk : contexts.get? k = some (some context)) :
    scanner.symbolId context = k := by
  unfold buildContextBulk at h
  split at h
  · rename_i read hbulk
    cases h
    exact read.own hk
  · rw [get?_loopContexts h] at hk
    obtain ⟨s,hs,hcontext⟩ := Option.map_eq_some_iff.mp hk
    have hid : s.id = k := by simpa using (List.mem_filter.mp (List.mem_of_getLast? hs)).2
    rw [← hid]
    cases hf : scanner.buildContext w s with
    | error text =>
      rw [hf] at hcontext
      cases hcontext
    | ok built =>
      rw [hf] at hcontext
      obtain rfl : built = some context := hcontext
      exact scanner.own hf

/-- The context of a symbol does not depend on the other symbols asked for. -/
theorem contexts_alone (absent : ℕ → Bool) {alone : Assoc ℕ (Option scanner.Context)}
    (h : scanner.buildContextBulk w symbols = .ok contexts)
    (halone : scanner.buildContextBulk w (symbols.filter fun s => !absent s.id) = .ok alone) {k : ℕ}
    (hk : absent k = false) : alone.get? k = contexts.get? k := by
  unfold buildContextBulk at h halone
  split at h
  · rename_i read hbulk
    rw [hbulk] at halone
    cases h
    cases halone
    exact read.alone w symbols absent k hk
  · rename_i hbulk
    rw [hbulk] at halone
    rw [get?_loopContexts h, get?_loopContexts halone, List.filter_filter]
    congr 2
    apply List.filter_congr
    intro s hs
    by_cases hid : s.id = k
    · simp [hid, hk]
    · simp [hid]

end BaseScanner
end MarketScanner.Scanner
