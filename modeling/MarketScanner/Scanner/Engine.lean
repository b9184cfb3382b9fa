import MarketScanner.Scanner.Manager

/-! The scanner engine: every registered scanner in turn, with a `scanner_runs` row for each. -/
namespace MarketScanner.Scanner
open MarketScanner.Library MarketScanner.Universe

structure ScannerRun where
  scannerName : String
  finished : Bool := false
  symbolsScanned : ℕ := 0
  qualifiedCount : ℕ := 0
  rejectedCount : ℕ := 0
  errorCount : ℕ := 0

namespace ScannerRunRepository

def start (runs : Table ScannerRun) (scannerName : String) : Table ScannerRun :=
  runs.insert { scannerName := scannerName }

def finish (runs : Table ScannerRun) (runId : ℕ) (stats : ScannerRunStats) : Table ScannerRun :=
  runs.modify runId fun run => { run with
    finished := true
    symbolsScanned := stats.symbolsScanned
    qualifiedCount := stats.qualifiedCount
    rejectedCount := stats.rejectedCount
    errorCount := stats.errorCount }

end ScannerRunRepository

structure EngineTables where
  scanner : ScannerTables
  runs : Table ScannerRun

structure ScannerEngineResult where
  scannersRun : ℕ := 0
  symbolsScanned : ℕ := 0
  qualifiedCount : ℕ := 0
  rejectedCount : ℕ := 0
  errorCount : ℕ := 0
  errors : List String := []

def ScannerEngineResult.add (result : ScannerEngineResult) (stats : ScannerRunStats) :
    ScannerEngineResult where
  scannersRun := result.scannersRun+1
  symbolsScanned := result.symbolsScanned+stats.symbolsScanned
  qualifiedCount := result.qualifiedCount+stats.qualifiedCount
  rejectedCount := result.rejectedCount+stats.rejectedCount
  errorCount := result.errorCount+stats.errorCount
  errors := result.errors ++ stats.errors

/-- A registered scanner and what the database shows in its turn. -/
structure Turn (ω : Type) where
  scanner : BaseScanner ω
  view : ω

/-- The symbols that a scanner is given in its turn. -/
def Turn.candidates {ω : Type} (turn : Turn ω) (active : List (Row SymbolRow)) :
    List (Row SymbolRow) :=
  turn.scanner.getCandidateSymbols turn.view active

/-- How far a cycle came, and the text of what ended it early. -/
structure Cycle where
  db : EngineTables
  result : ScannerEngineResult := {}
  raised : Option String := none

/-- The loop of `run_all`. Nothing in it is guarded. -/
def runAll {ω : Type} (faults : WriteFaults) (active : List (Row SymbolRow)) :
    List (Turn ω) → EngineTables → ScannerEngineResult → Cycle
  | [], db, result => ⟨db,result,none⟩
  | turn::turns, db, result =>
    let runId := db.runs.nextId
    let db := { db with runs := ScannerRunRepository.start db.runs turn.scanner.name }
    match turn.scanner.runScanner faults turn.view runId (turn.candidates active) db.scanner with
    | .error text => ⟨db,result,some text⟩
    | .ok (scanner,stats) =>
      runAll faults active turns ⟨scanner,ScannerRunRepository.finish db.runs runId stats⟩
        (result.add stats)

/-- Every registered scanner has had its turn. -/
def Cycle.Complete {ω : Type} (cycle : Cycle) (registry : List (Turn ω)) : Prop :=
  cycle.raised = none ∧ cycle.result.scannersRun = registry.length

theorem runAll_complete_iff {ω : Type} {faults : WriteFaults} {active : List (Row SymbolRow)}
    {turns : List (Turn ω)} {db : EngineTables} {result : ScannerEngineResult} :
    (runAll faults active turns db result).raised = none ↔
      ∀ turn ∈ turns, ∃ contexts,
        turn.scanner.buildContextBulk turn.view (turn.candidates active) = .ok contexts := by
  induction turns generalizing db result with
  | nil => simp [runAll]
  | cons turn turns ih =>
    unfold runAll
    cases hbuild : turn.scanner.buildContextBulk turn.view (turn.candidates active) with
    | error text => simp [BaseScanner.runScanner, hbuild]
    | ok contexts =>
      simp only [BaseScanner.runScanner, hbuild, ih, List.forall_mem_cons]
      simp

theorem scannersRun_runAll {ω : Type} {faults : WriteFaults} {active : List (Row SymbolRow)}
    {turns : List (Turn ω)} {db : EngineTables} {result : ScannerEngineResult}
    (h : (runAll faults active turns db result).raised = none) :
    (runAll faults active turns db result).result.scannersRun =
      result.scannersRun+turns.length := by
  induction turns generalizing db result with
  | nil => rfl
  | cons turn turns ih =>
    unfold runAll at h ⊢
    dsimp only at h ⊢
    cases hrun : turn.scanner.runScanner faults turn.view db.runs.nextId (turn.candidates active)
        db.scanner with
    | error text =>
      rw [hrun] at h
      cases h
    | ok done =>
      rw [hrun] at h
      rw [ih h, List.length_cons]
      simp only [ScannerEngineResult.add]
      omega

end MarketScanner.Scanner
