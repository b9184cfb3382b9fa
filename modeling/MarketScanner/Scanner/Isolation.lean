import MarketScanner.Library.Loop
import MarketScanner.Scanner.Contexts
import MarketScanner.Scanner.Engine
import MarketScanner.Scanner.Verdicts

/-! Isolation of the symbols of a scanner run. What is validated, scanned, scored and saved is isolated
symbol by symbol; the contexts are built in one loop outside the savepoints. -/
namespace MarketScanner.Scanner
open MarketScanner.Library MarketScanner.Python MarketScanner.Universe MarketScanner.Features
open ScannerResultRepository

namespace BaseScanner
variable {ω : Type} (scanner : BaseScanner ω) (faults : WriteFaults) (w : ω) (runId : ℕ)
variable (symbols : List (Row SymbolRow)) (db : ScannerTables)

/-- Some stage raises for the symbol. -/
def raises (symbol : Row SymbolRow) : Bool :=
  match scanner.contextOf w symbols symbol with
  | .error _ => true
  | .ok none => false
  | .ok (some context) =>
    !(scanner.validate context).isOk || !(scanner.scan context).isOk ||
      !(scanner.score context).isOk || (faults.save symbol.id).isSome

/-- Symbols that raise change nothing for the others: the run returns, and leaves for every other
symbol what a run without them leaves. -/
def Isolated : Prop :=
  ∀ B : ℕ → Bool, (∀ s ∈ symbols, B s.id = true → scanner.raises faults w symbols s = true) →
    ∃ done alone, scanner.runScanner faults w runId symbols db = .ok done ∧
      scanner.runScanner faults w runId (symbols.filter fun s => !B s.id) db = .ok alone ∧
      ∀ k, B k = false → rowsOf done.1.results k = rowsOf alone.1.results k

variable {scanner faults w runId symbols db}

theorem rowsOf_store (k : ℕ) {results results' : ScannerResults}
    (item : Row SymbolRow × scanner.Context) (h : rowsOf results k = rowsOf results' k) :
    rowsOf (scanner.store faults results item) k = rowsOf (scanner.store faults results' item) k := by
  cases hverdict : scanner.verdict faults item with
  | none => rw [store_of_none _ _ hverdict, store_of_none _ _ hverdict, h]
  | some row =>
    rw [store_of_some _ _ hverdict, store_of_some _ _ hverdict]
    by_cases hid : row.symbolId = k
    · subst hid
      rw [rowsOf_upsert, rowsOf_upsert, h]
    · rw [rowsOf_upsert_of_ne _ hid, rowsOf_upsert_of_ne _ hid, h]

theorem rowsOf_store_of_ne {k : ℕ} (results : ScannerResults)
    {item : Row SymbolRow × scanner.Context} (h : scanner.symbolId item.2 ≠ k) :
    rowsOf (scanner.store faults results item) k = rowsOf results k := by
  cases hverdict : scanner.verdict faults item with
  | none => rw [store_of_none _ _ hverdict]
  | some row =>
    have hid : row.symbolId = scanner.symbolId item.2 :=
      congrArg Prod.fst (scanner.key_verdict faults hverdict)
    rw [store_of_some _ _ hverdict, rowsOf_upsert_of_ne _ (hid ▸ h)]

/-- The symbols that are left to evaluate when some are absent. -/
theorem haveContext_filter (absent : ℕ → Bool)
    {contexts alone : Assoc ℕ (Option scanner.Context)}
    (h : scanner.buildContextBulk w symbols = .ok contexts)
    (halone : scanner.buildContextBulk w (symbols.filter fun s => !absent s.id) = .ok alone) :
    scanner.haveContext alone (symbols.filter fun s => !absent s.id) =
      (scanner.haveContext contexts symbols).filter fun item => !absent item.1.id := by
  unfold haveContext
  rw [List.filterMap_filter, List.filter_filterMap]
  apply List.filterMap_congr
  intro s hs
  cases habsent : absent s.id with
  | true =>
    cases (contexts.get? s.id).join <;> simp [habsent, Option.filter]
  | false =>
    rw [scanner.contexts_alone absent h halone habsent]
    cases (contexts.get? s.id).join <;> simp [habsent, Option.filter]

/-- Once both runs have their contexts, no symbol sees which others were present. -/
theorem rowsOf_runScanner (absent : ℕ → Bool)
    {contexts alone : Assoc ℕ (Option scanner.Context)}
    (h : scanner.buildContextBulk w symbols = .ok contexts)
    (halone : scanner.buildContextBulk w (symbols.filter fun s => !absent s.id) = .ok alone)
    {k : ℕ} (hk : absent k = false) :
    rowsOf ((scanner.toEvaluate db.results (scanner.haveContext alone
        (symbols.filter fun s => !absent s.id))).foldl (scanner.store faults) db.results) k =
      rowsOf ((scanner.toEvaluate db.results
        (scanner.haveContext contexts symbols)).foldl (scanner.store faults) db.results) k := by
  rw [haveContext_filter absent h halone, toEvaluate_eq, toEvaluate_eq, List.filter_comm]
  refine foldl_filter_of_inert (fun results => rowsOf results k) (I := fun _ => True)
    (fun results results' item => rowsOf_store k item) ?_ (fun _ _ _ _ => trivial) rfl trivial
  intro results item hitem habsent _
  apply rowsOf_store_of_ne
  have hcontext := (scanner.mem_haveContext.mp (List.mem_of_mem_filter hitem)).2
  rw [scanner.symbolId_of_contexts h hcontext]
  rintro rfl
  simp [hk] at habsent

/-- A run isolates its symbols just when no symbol raises while its context is built. -/
theorem isolated_iff :
    scanner.Isolated faults w runId symbols db ↔ ∀ s ∈ symbols, scanner.Builds w s := by
  constructor
  · intro h
    obtain ⟨done,-,hdone,-⟩ := h (fun _ => false) (by simp)
    exact scanner.buildContextBulk_ok_iff.mp (scanner.exists_contexts_of_runScanner _ _ hdone)
  · intro h B _
    obtain ⟨contexts,hcontexts⟩ := scanner.buildContextBulk_ok_iff.mpr h
    obtain ⟨alone,halone⟩ := scanner.buildContextBulk_ok_iff.mpr
      fun s (hs : s ∈ symbols.filter fun s => !B s.id) => h s (List.mem_of_mem_filter hs)
    obtain ⟨done,hdone,hresults⟩ := scanner.runScanner_results faults runId hcontexts db
    obtain ⟨rest,hrest,hresults'⟩ := scanner.runScanner_results faults runId halone db
    refine ⟨done,rest,hdone,hrest,?_⟩
    intro k hk
    rw [hresults, hresults', rowsOf_runScanner B hcontexts halone hk]

end BaseScanner

section Cycle
variable {ω : Type} (faults : WriteFaults) (active : List (Row SymbolRow)) (registry : List (Turn ω))

/-- Every registered scanner isolates the symbols it is given, and the cycle goes on to the last
scanner. -/
def IsolatedCycle (db : EngineTables) : Prop :=
  (∀ turn ∈ registry, ∀ runId tables,
    turn.scanner.Isolated faults turn.view runId (turn.candidates active) tables) ∧
  (runAll faults active registry db {}).Complete registry

/-- Failures are isolated in a cycle just when no registered scanner has a symbol that raises while its
context is built. -/
theorem isolatedCycle_iff (db : EngineTables) :
    IsolatedCycle faults active registry db ↔
      ∀ turn ∈ registry, ∀ symbol ∈ turn.candidates active, turn.scanner.Builds turn.view symbol := by
  unfold IsolatedCycle
  constructor
  · rintro ⟨h,-⟩ turn hturn
    exact BaseScanner.isolated_iff.mp (h turn hturn 0 db.scanner)
  · intro h
    have hcomplete : (runAll faults active registry db {}).raised = none :=
      runAll_complete_iff.mpr fun turn hturn =>
        turn.scanner.buildContextBulk_ok_iff.mpr (h turn hturn)
    refine ⟨fun turn hturn runId tables => BaseScanner.isolated_iff.mpr (h turn hturn),
      hcomplete,?_⟩
    rw [scannersRun_runAll hcomplete]
    exact Nat.zero_add _

end Cycle

/-- A strategy that rejects every candidate. -/
def rejectAll : Strategy CandidateContext where
  name := "pre_breakout_v1"
  getCandidateSymbols _ symbols := symbols
  validate _ := .ok { valid := true }
  scan _ := .ok ⟨false,"failed 1/2: setup_state_is_pre_breakout"⟩
  score _ := .ok 40
  featureSnapshot _ := []

def sampleSymbols : List (Row SymbolRow) :=
  [⟨1,⟨"RELIANCE","NSE","2885",none,none,none,none,true⟩⟩,
    ⟨2,⟨"TCS","NSE","11536",none,none,none,none,true⟩⟩]

/-- The first symbol has a price and features; the reads for the second raise. -/
def sampleView : MarketView where
  scans := ViewScans.insertion
  prices := Stamped.empty.put ⟨1,⟨20000⟩,⟨13500000⟩,⟨13800000⟩,⟨13400000⟩,⟨13700000⟩,900000,none⟩
  features := Stamped.empty.put (DailyFeature.new 1 ⟨20000⟩)
  sessionFeatures := Stamped.empty
  now _ := ⟨0,0⟩
  fault k := if k = 2 then some "canceling statement due to statement timeout" else none

theorem not_isolatedCycle_pre_breakout :
    ¬ IsolatedCycle WriteFaults.none sampleSymbols
        [⟨candidateScanner {} rejectAll,sampleView⟩] ⟨⟨ScannerResults.empty,Table.empty⟩,Table.empty⟩ := by
  rintro ⟨-,hraised,-⟩
  cases hraised

end MarketScanner.Scanner
