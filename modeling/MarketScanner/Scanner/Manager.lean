import MarketScanner.Library.Assoc
import MarketScanner.Library.Slices
import MarketScanner.Scanner.Repository
import MarketScanner.Universe.SymbolMaster

/-! One scanner run over a list of symbols: contexts for all of them, the skip of what is already
scanned, and each remaining symbol in a savepoint of its own. -/
namespace MarketScanner.Scanner
open MarketScanner.Library MarketScanner.Python MarketScanner.Universe

structure ValidationResult where
  valid : Bool
  reason : Option String := none

structure ScanOutcome where
  qualified : Bool
  reason : String

/-- An override of `build_context_bulk`: a fixed number of queries for all symbols, in which a symbol's
context does not depend on which others are asked for. -/
structure BulkRead (ω κ : Type) (symbolId : κ → ℕ) where
  build : ω → List (Row SymbolRow) → Assoc ℕ (Option κ)
  own : ∀ {w symbols k c}, (build w symbols).get? k = some (some c) → symbolId c = k
  alone : ∀ w symbols (absent : ℕ → Bool) k, absent k = false →
    (build w (symbols.filter fun s => !absent s.id)).get? k = (build w symbols).get? k

/-- A scanner: a strategy over contexts built from what the database shows, `ω`. The hooks that can
raise do so with a text. The snapshot is that of a context that has been scanned. -/
structure BaseScanner (ω : Type) where
  Context : Type
  name : String
  getCandidateSymbols : ω → List (Row SymbolRow) → List (Row SymbolRow)
  symbolId : Context → ℕ
  scanDate : Context → Date
  buildContext : ω → Row SymbolRow → Except String (Option Context)
  bulk : Option (BulkRead ω Context symbolId)
  validate : Context → Except String ValidationResult
  scan : Context → Except String ScanOutcome
  score : Context → Except String ℚ
  featureSnapshot : Context → Dict
  own : ∀ {w symbol c}, buildContext w symbol = .ok (some c) → symbolId c = symbol.id

structure ScannerLog where
  runId : ℕ
  scannerName : String
  level : String
  message : String
  symbolId : ℕ

/-- The tables that a scanner run writes. -/
structure ScannerTables where
  results : ScannerResults
  logs : Table ScannerLog

structure ScannerRunStats where
  symbolsScanned : ℕ := 0
  qualifiedCount : ℕ := 0
  rejectedCount : ℕ := 0
  errorCount : ℕ := 0
  errors : List String := []

/-- The writes that raise, as the texts of what they raise: of a symbol's result, and of a symbol's log
entry of a level. -/
structure WriteFaults where
  save : ℕ → Option String
  log : ℕ → String → Option String

def WriteFaults.none : WriteFaults := ⟨fun _ => Option.none,fun _ _ => Option.none⟩

/-- `ScannerLogRepository.log`. -/
def ScannerTables.log (faults : WriteFaults) (db : ScannerTables) (entry : ScannerLog) :
    Except String ScannerTables :=
  match faults.log entry.symbolId entry.level with
  | some text => .error text
  | none => .ok { db with logs := db.logs.insert entry }

/-- `exists_bulk`: the pairs of symbol and date that have a row of the scanner. -/
def ScannerResultRepository.existsBulk (results : ScannerResults) (pairs : List (ℕ × Date))
    (scannerName : String) : List (ℕ × Date) :=
  if pairs = [] then []
  else
    ((results.table.rows.filter fun r => r.val.scannerName == scannerName &&
        decide (r.val.symbolId ∈ pairs.map Prod.fst) &&
        decide (r.val.date ∈ pairs.map Prod.snd)).map fun r => (r.val.symbolId,r.val.date)).filter
      fun pair => decide (pair ∈ pairs)

namespace BaseScanner
variable {ω : Type} (scanner : BaseScanner ω) (faults : WriteFaults) (w : ω) (runId : ℕ)

/-- `{symbol.id: await self.build_context(session, symbol) for symbol in symbols}` -/
def loopContexts {κ : Type} (f : Row SymbolRow → Except String (Option κ)) :
    List (Row SymbolRow) → Assoc ℕ (Option κ) → Except String (Assoc ℕ (Option κ))
  | [], d => .ok d
  | symbol::symbols, d =>
    match f symbol with
    | .error text => .error text
    | .ok context => loopContexts f symbols (d.set symbol.id context)

def buildContextBulk (symbols : List (Row SymbolRow)) :
    Except String (Assoc ℕ (Option scanner.Context)) :=
  match scanner.bulk with
  | some read => .ok (read.build w symbols)
  | none => loopContexts (scanner.buildContext w) symbols Assoc.empty

/-- The row that `save_results` writes. -/
def resultRow (context : scanner.Context) (outcome : ScanOutcome) (score : ℚ) : ScannerResult where
  symbolId := scanner.symbolId context
  scannerName := scanner.name
  date := scanner.scanDate context
  score := ((PyFloat.roundHalfEven (score*100)/100 : ℚ) : Numeric)
  status := if outcome.qualified then .qualified else .rejected
  reason := outcome.reason
  featureSnapshot := scanner.featureSnapshot context

def saveResults (results : ScannerResults) (context : scanner.Context) (outcome : ScanOutcome)
    (score : ℚ) : Except String ScannerResults :=
  match faults.save (scanner.symbolId context) with
  | some text => .error text
  | none => .ok (ScannerResultRepository.upsert results (scanner.resultRow context outcome score))

/-- `_evaluate_one`: the counters as they are left, and the tables unless it raises. -/
def evaluateOne (symbol : Row SymbolRow) (context : scanner.Context) (stats : ScannerRunStats)
    (db : ScannerTables) : ScannerRunStats × Except String ScannerTables :=
  match scanner.validate context with
  | .error text => (stats,.error text)
  | .ok validation =>
    if !validation.valid then
      match db.log faults ⟨runId,scanner.name,"info",
          "validation failed: " ++ validation.reason.getD "None",symbol.id⟩ with
      | .error text => (stats,.error text)
      | .ok db => ({ stats with rejectedCount := stats.rejectedCount+1 },.ok db)
    else match scanner.scan context with
      | .error text => (stats,.error text)
      | .ok outcome => match scanner.score context with
        | .error text => (stats,.error text)
        | .ok score => match scanner.saveResults faults db.results context outcome score with
          | .error text => (stats,.error text)
          | .ok results =>
            let db := { db with results := results }
            if outcome.qualified then
              ({ stats with qualifiedCount := stats.qualifiedCount+1 },.ok db)
            else
              ({ stats with rejectedCount := stats.rejectedCount+1 },
                db.log faults ⟨runId,scanner.name,"info",outcome.reason,symbol.id⟩)

/-- One symbol of a batch, in a savepoint: what it wrote before it raises is rolled back. -/
def evaluateSymbol (state : ScannerTables × ScannerRunStats)
    (item : Row SymbolRow × scanner.Context) : ScannerTables × ScannerRunStats :=
  match scanner.evaluateOne faults runId item.1 item.2 state.2 state.1 with
  | (stats,.ok db) => (db,stats)
  | (stats,.error text) =>
    let stats := { stats with
      errorCount := stats.errorCount+1
      errors := stats.errors ++ [item.1.val.symbol ++ ": " ++ text] }
    match state.1.log faults ⟨runId,scanner.name,"error",text,item.1.id⟩ with
    | .ok db => (db,stats)
    | .error _ => (state.1,stats)

def evaluateBatch (state : ScannerTables × ScannerRunStats)
    (batch : List (Row SymbolRow × scanner.Context)) : ScannerTables × ScannerRunStats :=
  batch.foldl (scanner.evaluateSymbol faults runId) state

/-- One symbol of `_log_no_context_batch`. -/
def logNoContext (state : ScannerTables × ScannerRunStats) (symbol : Row SymbolRow) :
    ScannerTables × ScannerRunStats :=
  let stats := { state.2 with rejectedCount := state.2.rejectedCount+1 }
  match state.1.log faults ⟨runId,scanner.name,"info",
      "no context available (e.g. no features computed yet)",symbol.id⟩ with
  | .ok db => (db,stats)
  | .error _ => (state.1,stats)

def logNoContextBatch (state : ScannerTables × ScannerRunStats) (batch : List (Row SymbolRow)) :
    ScannerTables × ScannerRunStats :=
  batch.foldl (scanner.logNoContext faults runId) state

/-- `_BATCH_SIZE` -/
def batchSize : ℕ := 200

def noContext (contexts : Assoc ℕ (Option scanner.Context)) (symbols : List (Row SymbolRow)) :
    List (Row SymbolRow) :=
  symbols.filter fun s => (contexts.get? s.id).join.isNone

def haveContext (contexts : Assoc ℕ (Option scanner.Context)) (symbols : List (Row SymbolRow)) :
    List (Row SymbolRow × scanner.Context) :=
  symbols.filterMap fun s => (contexts.get? s.id).join.map fun context => (s,context)

/-- What is left once the symbols with a row of their scan date are skipped. -/
def toEvaluate (results : ScannerResults) (items : List (Row SymbolRow × scanner.Context)) :
    List (Row SymbolRow × scanner.Context) :=
  let alreadyScanned := ScannerResultRepository.existsBulk results
    (items.map fun item => (item.1.id,scanner.scanDate item.2)) scanner.name
  items.filter fun item => !decide ((item.1.id,scanner.scanDate item.2) ∈ alreadyScanned)

/-- `run_scanner`. Only what runs in the savepoints is guarded. -/
def runScanner (symbols : List (Row SymbolRow)) (db : ScannerTables) :
    Except String (ScannerTables × ScannerRunStats) :=
  match scanner.buildContextBulk w symbols with
  | .error text => .error text
  | .ok contexts =>
    let items := scanner.toEvaluate db.results (scanner.haveContext contexts symbols)
    let logged := (slices batchSize (scanner.noContext contexts symbols)).foldl
      (scanner.logNoContextBatch faults runId) (db,{ symbolsScanned := symbols.length })
    .ok ((slices batchSize items).foldl (scanner.evaluateBatch faults runId) logged)

end BaseScanner
end MarketScanner.Scanner
