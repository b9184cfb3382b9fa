import MarketScanner.Decision.Engine

/-! Which verdict an alert comes from. `run_all` looks at each qualified row alone, so a row that a
later one of its symbol and scanner has replaced is alerted on while it passes the rules. A row that
makes a rule raise is counted as an error and not handed on. -/
namespace MarketScanner.Decisions
open MarketScanner.Library MarketScanner.Python MarketScanner.Config MarketScanner.Market
open MarketScanner.Scanner MarketScanner.Alerts DecisionEngine

/-- No row of the same symbol and scanner has a later date. -/
def Newest (results : ScannerResults) (row : ScannerResult) : Prop :=
  ∀ later ∈ results.table.rows, later.val.symbolId = row.symbolId →
    later.val.scannerName = row.scannerName → ¬ row.date < later.val.date

/-- The calls that the step adds are about newest rows. -/
def NewestHanded (w : EngineWorld) (_ : EngineAction) (w' : EngineWorld) : Prop :=
  ∀ call ∈ w'.calls.drop w.calls.length, Newest w.results call.row

instance (results : ScannerResults) (row : ScannerResult) : Decidable (Newest results row) := by
  unfold Newest
  infer_instance

instance (w : EngineWorld) (a : EngineAction) (w' : EngineWorld) :
    Decidable (NewestHanded w a w') := by
  unfold NewestHanded
  infer_instance

/-- The second signal is not older than the first one of the same symbol and scanner. -/
def NotOlder (earlier later : ProcessCall) : Prop :=
  earlier.row.symbolId = later.row.symbolId → earlier.row.scannerName = later.row.scannerName →
    ¬ later.row.date < earlier.row.date

/-- Alerts of one symbol and scanner were created in the order of their signals. -/
def CreatedInOrder (w : EngineWorld) : Prop :=
  (w.calls.filter ProcessCall.created).Pairwise NotOlder

/-- In a run of the engine, every row within the limit that is not the newest of its symbol and
scanner fails a rule, or makes one raise, or belongs to no known symbol. -/
def SupersededRejected [Builtins] (w : EngineWorld) (a : EngineAction) (_ : EngineWorld) : Prop :=
  ∀ settings scan now environment, a = .runAll settings scan now environment →
    ∀ r ∈ qualified scan w.results, ¬ Newest w.results r.val →
      ∀ symbolName, SymbolRepository.nameOf w.symbols r.val.symbolId = some symbolName →
        ∃ rule ∈ rules, ¬Gives (rule (candidateOf symbolName r.val) settings now) .pass

/-- Every signal handed over so far still has its row, and they came in order. -/
structure CallsKept (w : EngineWorld) : Prop where
  rows : ∀ call ∈ w.calls, ∃ r ∈ w.results.table.rows, r.val.key = call.row.key
  ordered : w.calls.Pairwise NotOlder

def startWorld (symbols : List Symbol) (results : ScannerResults) (system : SystemState) :
    EngineWorld := ⟨symbols,results,system,[]⟩

section Run
variable [Builtins]

theorem newestHanded_iff {w w' : EngineWorld} {a : EngineAction}
    (hstep : engineMachine.step w a = some w') :
    NewestHanded w a w' ↔ SupersededRejected w a w' := by
  cases a with
  | upsert value =>
    obtain rfl := Option.some.inj hstep
    constructor
    · intro _ settings scan now environment ha
      contradiction
    · intro _ call hcall
      simp at hcall
  | system settings router action =>
    obtain ⟨system,-,rfl⟩ := Option.map_eq_some_iff.mp hstep
    constructor
    · intro _ settings scan now environment ha
      contradiction
    · intro _ call hcall
      simp at hcall
  | runAll settings scan now environment =>
    obtain rfl := Option.some.inj hstep
    have hcalls := runAll_calls settings w.symbols now environment scan w.results w.system.world
    have hhanded : ∀ row, (∃ call ∈ (DecisionEngine.runAll settings w.symbols now environment scan
        w.results w.system.world).calls, call.row = row) ↔
        ∃ r ∈ qualified scan w.results, isHanded settings w.symbols now r = true ∧ r.val = row := by
      intro row
      have hmem := congrArg (row ∈ ·) hcalls
      simpa [List.mem_map, and_assoc] using hmem
    unfold NewestHanded
    rw [List.drop_left]
    constructor
    · intro h settings' scan' now' environment' ha r hr hold symbolName hname
      cases ha
      by_contra hall
      push Not at hall
      have hpass : isHanded settings w.symbols now r = true :=
        (isHanded_iff settings w.symbols now).mpr ⟨symbolName,hname,hall⟩
      obtain ⟨call,hcall,hrow⟩ := (hhanded r.val).mpr ⟨r,hr,hpass,rfl⟩
      exact hold (hrow ▸ h call hcall)
    · intro h call hcall
      obtain ⟨r,hr,hpass,hrow⟩ := (hhanded call.row).mp ⟨call,hcall,rfl⟩
      obtain ⟨symbolName,hname,hall⟩ := (isHanded_iff settings w.symbols now).mp hpass
      rw [← hrow]
      by_contra hold
      obtain ⟨rule,hrule,hfail⟩ := h settings scan now environment rfl r hr hold symbolName hname
      exact hfail (hall rule hrule)

omit [Builtins] in
/-- A newest signal comes after every signal whose row is in the table. -/
theorem notOlder_of_newest {results : ScannerResults} {earlier later : ProcessCall}
    (hkept : ∃ r ∈ results.table.rows, r.val.key = earlier.row.key)
    (hnewest : Newest results later.row) : NotOlder earlier later := by
  obtain ⟨r,hr,hkey⟩ := hkept
  simp only [ScannerResult.key, Prod.mk.injEq] at hkey
  obtain ⟨hsymbol,hscanner,hdate⟩ := hkey
  intro hsame hsame'
  have hlater := hnewest r hr (hsymbol.trans hsame) (hscanner.trans hsame')
  rwa [hdate] at hlater

theorem callsKept_step (w : EngineWorld) (a : EngineAction) (w' : EngineWorld)
    (h : CallsKept w) (hnewest : NewestHanded w a w')
    (hstep : engineMachine.step w a = some w') : CallsKept w' := by
  cases a with
  | upsert value =>
    obtain rfl := Option.some.inj hstep
    refine ⟨fun call hcall => ?_,h.ordered⟩
    exact ScannerResultRepository.exists_key_upsert value (h.rows call hcall)
  | system settings router action =>
    obtain ⟨system,-,rfl⟩ := Option.map_eq_some_iff.mp hstep
    exact ⟨h.rows,h.ordered⟩
  | runAll settings scan now environment =>
    obtain rfl := Option.some.inj hstep
    unfold NewestHanded at hnewest
    rw [List.drop_left] at hnewest
    have hcalls := runAll_calls settings w.symbols now environment scan w.results w.system.world
    have hrows : ∀ call ∈ (DecisionEngine.runAll settings w.symbols now environment scan w.results
        w.system.world).calls, ∃ r ∈ w.results.table.rows, r.val.key = call.row.key := by
      intro call hcall
      have hrow : call.row ∈ ((qualified scan w.results).filter
          (isHanded settings w.symbols now)).map Row.val := by
        rw [← hcalls]
        exact List.mem_map_of_mem hcall
      obtain ⟨r,hr,hval⟩ := List.mem_map.mp hrow
      have hr' := ScannerResultRepository.mem_of_mem_listResults (List.mem_of_mem_filter hr)
      exact ⟨r,hr',by rw [hval]⟩
    refine ⟨?_,List.pairwise_append.mpr ⟨h.ordered,?_,?_⟩⟩
    · intro call hcall
      rcases List.mem_append.mp hcall with hold | hnew
      · exact h.rows call hold
      · exact hrows call hnew
    · apply List.pairwise_of_forall_mem_list
      intro earlier hearlier later hlater
      exact notOlder_of_newest (hrows earlier hearlier) (hnewest later hlater)
    · intro earlier hearlier later hlater
      exact notOlder_of_newest (h.rows earlier hearlier) (hnewest later hlater)

/-- From any tables, every alert of a run comes from the newest verdict, and alerts of one symbol
and scanner are created in the order of their signals, exactly when each run of the engine rejects
the superseded rows it looks at. -/
theorem newestVerdict_iff (symbols : List Symbol) (results : ScannerResults) (system : SystemState)
    (as : List EngineAction) :
    (engineMachine.Steps NewestHanded (startWorld symbols results system) as ∧
        engineMachine.Throughout CreatedInOrder (startWorld symbols results system) as) ↔
      engineMachine.Steps SupersededRejected (startWorld symbols results system) as := by
  constructor
  · rintro ⟨hnewest,-⟩ pre a post w w' has hrun hstep
    exact (newestHanded_iff hstep).mp (hnewest has hrun hstep)
  · intro hrejected
    have hnewest : engineMachine.Steps NewestHanded (startWorld symbols results system) as := by
      intro pre a post w w' has hrun hstep
      exact (newestHanded_iff hstep).mpr (hrejected has hrun hstep)
    have hstart : CallsKept (startWorld symbols results system) :=
      ⟨fun call hcall => absurd hcall List.not_mem_nil,List.Pairwise.nil⟩
    refine ⟨hnewest,?_⟩
    intro pre post w has hrun
    have hkept : CallsKept w := hnewest.throughout callsKept_step hstart has hrun
    exact hkept.ordered.filter _

end Run

/-- The features of a breakout, as a scanner stores them. -/
def breakoutSnapshot (date : String) : Dict :=
  [("price",.str "1532.00"),("date",.str date),("ema20",.str "1500.00"),("ema50",.str "1450.00"),
    ("ema200",.str "1300.00"),("adx14",.str "30.00"),("relative_volume",.str "2.50"),
    ("resistance_level",.str "1520.50")]

/-- A breakout of 2026-01-05 that passes every rule on the next day. -/
def olderBreakout : ScannerResult :=
  ⟨1,"breakout_v1",Date.ofCivil 2026 1 5,86,.qualified,"breakout",breakoutSnapshot "2026-01-05"⟩

/-- The scan of the next day rejects the symbol. -/
def newerRejection : ScannerResult :=
  ⟨1,"breakout_v1",Date.ofCivil 2026 1 6,40,.rejected,"no breakout",breakoutSnapshot "2026-01-06"⟩

abbrev engineBuiltins : Builtins :=
  Builtins.tabulated [("RELIANCE|breakout_v1|BREAKOUT|1520.50|2026-01-05",
      "e41d22637dbe0fe2dfcb705909d1fb4c2f3899cce729c660327d9bb61463ae94")]
    [("1532.00",1532),("1500.00",1500),("1450.00",1450),("1300.00",1300),("30.00",30),
      ("2.50",5/2),("1520.50",3041/2)] []

/-- Both scans are written, then the engine runs at 10:00 of the second day. -/
def rescanRun : List EngineAction :=
  [.upsert olderBreakout,.upsert newerRejection,
    .runAll {} (ScanOrder.insertion _) (DateTime.ofUtc sampleDay 270)
      fun _ => ⟨DateTime.ofUtc sampleDay 270,none⟩]

theorem rescanRun_alerts_on_superseded :
    ¬ ((@engineMachine engineBuiltins).Steps NewestHanded
          (startWorld [⟨1,"RELIANCE"⟩] ScannerResults.empty SystemState.empty) rescanRun ∧
        (@engineMachine engineBuiltins).Throughout CreatedInOrder
          (startWorld [⟨1,"RELIANCE"⟩] ScannerResults.empty SystemState.empty) rescanRun) := by
  rintro ⟨hnewest,-⟩
  have hcheck := hnewest.check
  revert hcheck
  decide +kernel

end MarketScanner.Decisions
