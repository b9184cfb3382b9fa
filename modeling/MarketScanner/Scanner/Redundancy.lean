import MarketScanner.Library.Transition
import MarketScanner.Scanner.Contexts
import MarketScanner.Scanner.Verdicts

/-! Writes of prices and features and scanner runs in any order: when a symbol is skipped for a row
that already exists, what that row was computed from. -/
namespace MarketScanner.Scanner
open MarketScanner.Library MarketScanner.Python MarketScanner.Config MarketScanner.Market
open MarketScanner.Universe MarketScanner.Features ScannerResultRepository

inductive RegisteredScanner
  | listed (strategy : Strategy ScanContext)
  | orb (strategy : Strategy OrbScanContext)
  | candidate (strategy : Strategy CandidateContext)

namespace RegisteredScanner
variable (settings : Settings)

def base : RegisteredScanner → BaseScanner MarketView
  | .listed strategy => listedScanner strategy
  | .orb strategy => orbScanner strategy
  | .candidate strategy => candidateScanner settings strategy

/-- The date of the daily features in a context. -/
def featureDate : (scanner : RegisteredScanner) → (scanner.base settings).Context → Option Date
  | .listed _, context => some (ScanContext.features context).date
  | .orb _, context => (OrbScanContext.dailyFeature context).map DailyFeature.date
  | .candidate _, context => some (CandidateContext.daily context).date

end RegisteredScanner

/-- The writes that change what a run sees. -/
inductive ViewUpdate
  | upsertFeatures (symbolId : ℕ) (date : Date) (values : List (Column × FieldValue))
  | upsertDaily (symbolId : ℕ) (candle : Candle)
  | upsertSession (row : SessionFeature)
  | clock (now : ℕ → DateTime)
  | faults (fault : ℕ → Option String)

def MarketView.apply (settings : Settings) (w : MarketView) : ViewUpdate → MarketView
  | .upsertFeatures symbolId date values =>
    { w with features := DailyFeatureRepository.upsert w.features symbolId date values }
  | .upsertDaily symbolId candle =>
    { w with prices := PriceRepository.upsertDaily settings w.prices symbolId candle }
  | .upsertSession row => { w with sessionFeatures := w.sessionFeatures.put row }
  | .clock now => { w with now := now }
  | .faults fault => { w with fault := fault }

/-- The key of a symbol's row: its id, the scanner's name and the scan date. -/
abbrev ResultKey := ℕ × String × Date

/-- The tables, the feature date that each stored row was computed from, and the valid contexts that
runs have built so far, as their keys and feature dates. -/
structure ScanState where
  view : MarketView
  db : ScannerTables
  basis : ResultKey → Option (Option Date)
  built : List (ResultKey × Option Date)

inductive ScanAction
  | update (u : ViewUpdate)
  | run (scanner : RegisteredScanner) (runId : ℕ) (symbols : List (Row SymbolRow))

def scanStart (view : MarketView) : ScanState :=
  ⟨view,⟨ScannerResults.empty,Table.empty⟩,fun _ => none,[]⟩

section Machine
variable (settings : Settings) (scanner : RegisteredScanner)

abbrev Item := Row SymbolRow × (scanner.base settings).Context

def itemKey (item : Item settings scanner) : ResultKey :=
  (item.1.id,(scanner.base settings).name,(scanner.base settings).scanDate item.2)

/-- The context is valid, and neither the scan nor the score raises. -/
def judged (item : Item settings scanner) : Bool :=
  ((scanner.base settings).verdict WriteFaults.none item).isSome

/-- The item a run evaluates that stores the row of a key. -/
def storedItem? (results : ScannerResults) (items : List (Item settings scanner))
    (key : ResultKey) : Option (Item settings scanner) :=
  ((scanner.base settings).toEvaluate results items).find? fun item =>
    judged settings scanner item && decide (itemKey settings scanner item = key)

/-- A run without write failures. A run whose contexts raise writes nothing. -/
def runStep (s : ScanState) (runId : ℕ) (symbols : List (Row SymbolRow)) : ScanState :=
  match (scanner.base settings).buildContextBulk s.view symbols,
      (scanner.base settings).runScanner WriteFaults.none s.view runId symbols s.db with
  | .ok contexts, .ok done =>
    let items := (scanner.base settings).haveContext contexts symbols
    { s with
      db := done.1
      basis := fun key =>
        match storedItem? settings scanner s.db.results items key with
        | some item => some (scanner.featureDate settings item.2)
        | none => s.basis key
      built := s.built ++ (items.filter (judged settings scanner)).map fun item =>
        (itemKey settings scanner item,scanner.featureDate settings item.2) }
  | _, _ => s

def scanMachine : Machine ScanState ScanAction where
  step s
    | .update u => some { s with view := s.view.apply settings u }
    | .run scanner runId symbols => some (runStep settings scanner s runId symbols)

/-- A skipped symbol's row was computed from daily features of the date of those in its context, and
every symbol with a valid context has a row computed from the features in it. -/
def RedundantSkips (s : ScanState) : ScanAction → ScanState → Prop
  | .update _, _ => True
  | .run scanner _ symbols, t => ∀ contexts,
      (scanner.base settings).buildContextBulk s.view symbols = .ok contexts →
        ∀ item ∈ (scanner.base settings).haveContext contexts symbols,
          (existsForDate s.db.results (itemKey settings scanner item) = true →
            s.basis (itemKey settings scanner item) =
              some (scanner.featureDate settings item.2)) ∧
          (judged settings scanner item = true →
            existsForDate t.db.results (itemKey settings scanner item) = true ∧
              t.basis (itemKey settings scanner item) =
                some (scanner.featureDate settings item.2))

/-- No earlier run has built a valid context for the same symbol, scanner and scan date from daily
features of another date. -/
def OneFeatureDate (s : ScanState) : ScanAction → ScanState → Prop
  | .update _, _ => True
  | .run scanner _ symbols, _ => ∀ contexts,
      (scanner.base settings).buildContextBulk s.view symbols = .ok contexts →
        ∀ item ∈ (scanner.base settings).haveContext contexts symbols,
          ∀ entry ∈ s.built, entry.1 = itemKey settings scanner item →
            entry.2 = scanner.featureDate settings item.2

end Machine

/-- A key has a row just when a valid context was built for it, and its row was computed from the
features of each such context. -/
def BasisRecorded (s : ScanState) : Prop :=
  ∀ key, (existsForDate s.db.results key = true ↔ ∃ entry ∈ s.built, entry.1 = key) ∧
    ∀ entry ∈ s.built, entry.1 = key → s.basis key = some entry.2

section Run
variable {settings : Settings} {scanner : RegisteredScanner} {s : ScanState} {runId : ℕ}
variable {symbols : List (Row SymbolRow)} {contexts : Assoc ℕ (Option (scanner.base settings).Context)}

theorem judged_iff {item : Item settings scanner} : judged settings scanner item = true ↔
    ∃ row, (scanner.base settings).verdict WriteFaults.none item = some row :=
  Option.isSome_iff_exists

/-- The row of an item has the item's key. -/
theorem key_of_verdict (h : (scanner.base settings).buildContextBulk s.view symbols = .ok contexts)
    {item : Item settings scanner}
    (hitem : item ∈ (scanner.base settings).haveContext contexts symbols) {row : ScannerResult}
    (hrow : (scanner.base settings).verdict WriteFaults.none item = some row) :
    row.key = itemKey settings scanner item := by
  rw [BaseScanner.key_verdict _ _ hrow, itemKey, BaseScanner.symbolId_of_contexts _ h
    ((scanner.base settings).mem_haveContext.mp hitem).2]

/-- Two items of one key are built from features of one date. -/
theorem featureDate_of_key {item item' : Item settings scanner}
    (hitem : item ∈ (scanner.base settings).haveContext contexts symbols)
    (hitem' : item' ∈ (scanner.base settings).haveContext contexts symbols)
    (hkey : itemKey settings scanner item = itemKey settings scanner item') :
    scanner.featureDate settings item.2 = scanner.featureDate settings item'.2 := by
  have hget := ((scanner.base settings).mem_haveContext.mp hitem).2
  have hget' := ((scanner.base settings).mem_haveContext.mp hitem').2
  have hid : item.1.id = item'.1.id := congrArg Prod.fst hkey
  rw [hid, hget'] at hget
  rw [Option.some.inj (Option.some.inj hget)]

theorem runStep_of_error {text : String}
    (h : (scanner.base settings).buildContextBulk s.view symbols = .error text) :
    runStep settings scanner s runId symbols = s := by
  rw [runStep, h]

theorem runStep_built (h : (scanner.base settings).buildContextBulk s.view symbols = .ok contexts) :
    (runStep settings scanner s runId symbols).built = s.built ++
      (((scanner.base settings).haveContext contexts symbols).filter
        (judged settings scanner)).map fun item =>
          (itemKey settings scanner item,scanner.featureDate settings item.2) := by
  obtain ⟨done,hdone,-⟩ := BaseScanner.runScanner_results _ WriteFaults.none runId h s.db
  rw [runStep, h, hdone]

theorem runStep_basis (h : (scanner.base settings).buildContextBulk s.view symbols = .ok contexts)
    (key : ResultKey) :
    (runStep settings scanner s runId symbols).basis key =
      match storedItem? settings scanner s.db.results
        ((scanner.base settings).haveContext contexts symbols) key with
      | some item => some (scanner.featureDate settings item.2)
      | none => s.basis key := by
  obtain ⟨done,hdone,-⟩ := BaseScanner.runScanner_results _ WriteFaults.none runId h s.db
  rw [runStep, h, hdone]

theorem mem_toEvaluate {results : ScannerResults} {items : List (Item settings scanner)}
    {item : Item settings scanner} :
    item ∈ (scanner.base settings).toEvaluate results items ↔
      item ∈ items ∧ existsForDate results (itemKey settings scanner item) = false := by
  rw [BaseScanner.toEvaluate_eq, List.mem_filter, Bool.not_eq_true']
  rfl

/-- After a run a key has a row just when it had one or a valid context was built for it. -/
theorem runStep_exists (h : (scanner.base settings).buildContextBulk s.view symbols = .ok contexts)
    (key : ResultKey) :
    existsForDate (runStep settings scanner s runId symbols).db.results key = true ↔
      existsForDate s.db.results key = true ∨
        ∃ item ∈ (scanner.base settings).haveContext contexts symbols,
          judged settings scanner item = true ∧ itemKey settings scanner item = key := by
  obtain ⟨done,hdone,hresults⟩ :=
    BaseScanner.runScanner_results _ WriteFaults.none runId h s.db
  have hafter : (runStep settings scanner s runId symbols).db = done.1 := by
    rw [runStep, h, hdone]
  rw [hafter, hresults, BaseScanner.existsForDate_foldl_store]
  constructor
  · rintro (hold | ⟨item,hitem,row,hrow,hkey⟩)
    · exact Or.inl hold
    · have hmem := (mem_toEvaluate.mp hitem).1
      exact Or.inr ⟨item,hmem,judged_iff.mpr ⟨row,hrow⟩,(key_of_verdict h hmem hrow).symm.trans hkey⟩
  · rintro (hold | ⟨item,hitem,hjudged,rfl⟩)
    · exact Or.inl hold
    · cases hexists : existsForDate s.db.results (itemKey settings scanner item) with
      | true => exact Or.inl rfl
      | false =>
        obtain ⟨row,hrow⟩ := judged_iff.mp hjudged
        exact Or.inr ⟨item,mem_toEvaluate.mpr ⟨hitem,hexists⟩,row,hrow,key_of_verdict h hitem hrow⟩

theorem storedItem?_some {results : ScannerResults} {items : List (Item settings scanner)}
    {key : ResultKey} {item : Item settings scanner}
    (h : storedItem? settings scanner results items key = some item) :
    item ∈ items ∧ itemKey settings scanner item = key ∧ existsForDate results key = false := by
  have hfound := List.find?_some h
  simp only [Bool.and_eq_true, decide_eq_true_eq] at hfound
  obtain ⟨hmem,hnew⟩ := mem_toEvaluate.mp (List.mem_of_find?_eq_some h)
  exact ⟨hmem,hfound.2,hfound.2 ▸ hnew⟩

theorem storedItem?_none {results : ScannerResults} {items : List (Item settings scanner)}
    {key : ResultKey} (h : storedItem? settings scanner results items key = none)
    {item : Item settings scanner} (hitem : item ∈ items)
    (hjudged : judged settings scanner item = true) (hkey : itemKey settings scanner item = key) :
    existsForDate results key = true := by
  by_contra hnew
  have hmiss := List.find?_eq_none.mp h item
    (mem_toEvaluate.mpr ⟨hitem,by rw [hkey]; simpa using hnew⟩)
  simp [hjudged, hkey] at hmiss

/-- A run that meets no other feature date keeps the record of what the rows were computed from. -/
theorem basisRecorded_runStep (hs : BasisRecorded s)
    (hsame : OneFeatureDate settings s (.run scanner runId symbols)
      (runStep settings scanner s runId symbols)) :
    BasisRecorded (runStep settings scanner s runId symbols) := by
  cases h : (scanner.base settings).buildContextBulk s.view symbols with
  | error text => rwa [runStep_of_error h]
  | ok contexts =>
    intro key
    obtain ⟨hexists,hbasis⟩ := hs key
    rw [runStep_exists h, runStep_built h, runStep_basis h]
    simp only [List.mem_append, List.mem_map, List.mem_filter]
    constructor
    · rw [hexists]
      constructor
      · rintro (⟨entry,hentry,hkey⟩ | ⟨item,hitem,hjudged,hkey⟩)
        · exact ⟨entry,Or.inl hentry,hkey⟩
        · exact ⟨_,Or.inr ⟨item,⟨hitem,hjudged⟩,rfl⟩,hkey⟩
      · rintro ⟨entry,hold | ⟨item,⟨hitem,hjudged⟩,rfl⟩,hkey⟩
        · exact Or.inl ⟨entry,hold,hkey⟩
        · exact Or.inr ⟨item,hitem,hjudged,hkey⟩
    · cases hstored : storedItem? settings scanner s.db.results
          ((scanner.base settings).haveContext contexts symbols) key with
      | some item =>
        obtain ⟨hitem,hitemkey,hnew⟩ := storedItem?_some hstored
        rintro entry (hold | ⟨item',⟨hitem',-⟩,rfl⟩) hkey
        · have hrow := hexists.mpr ⟨entry,hold,hkey⟩
          rw [hnew] at hrow
          cases hrow
        · exact congrArg some (featureDate_of_key hitem hitem' (hitemkey.trans hkey.symm))
      | none =>
        rintro entry (hold | ⟨item,⟨hitem,hjudged⟩,rfl⟩) hkey
        · exact hbasis entry hold hkey
        · obtain ⟨entry,hentry,hentrykey⟩ :=
            hexists.mp (storedItem?_none hstored hitem hjudged hkey)
          dsimp only at hkey ⊢
          rw [hbasis entry hentry hentrykey,
            hsame contexts h item hitem entry hentry (hentrykey.trans hkey.symm)]

/-- Where the record is right, a run's skips are redundant just when it meets no other feature
date. -/
theorem redundantSkips_iff_of_recorded (hs : BasisRecorded s) {a : ScanAction} {t : ScanState}
    (hstep : (scanMachine settings).step s a = some t) :
    RedundantSkips settings s a t ↔ OneFeatureDate settings s a t := by
  cases a with
  | update u => exact Iff.rfl
  | run scanner runId symbols =>
    obtain rfl := Option.some.inj hstep
    constructor
    · intro h contexts hcontexts item hitem entry hentry hkey
      obtain ⟨hexists,hbasis⟩ := hs (itemKey settings scanner item)
      have hrow := (h contexts hcontexts item hitem).1 (hexists.mpr ⟨entry,hentry,hkey⟩)
      rw [hbasis entry hentry hkey] at hrow
      exact Option.some.inj hrow
    · intro h contexts hcontexts item hitem
      constructor
      · intro hrow
        obtain ⟨hexists,hbasis⟩ := hs (itemKey settings scanner item)
        obtain ⟨entry,hentry,hkey⟩ := hexists.mp hrow
        rw [hbasis entry hentry hkey, h contexts hcontexts item hitem entry hentry hkey]
      · intro hjudged
        obtain ⟨hexists,hbasis⟩ := basisRecorded_runStep hs h (itemKey settings scanner item)
        have hbuilt : (itemKey settings scanner item,scanner.featureDate settings item.2) ∈
            (runStep settings scanner s runId symbols).built := by
          rw [runStep_built hcontexts]
          exact List.mem_append_right _
            (List.mem_map.mpr ⟨item,List.mem_filter.mpr ⟨hitem,hjudged⟩,rfl⟩)
        exact ⟨hexists.mpr ⟨_,hbuilt,rfl⟩,hbasis _ hbuilt rfl⟩

theorem basisRecorded_step (hs : BasisRecorded s) {a : ScanAction} {t : ScanState}
    (hsame : OneFeatureDate settings s a t) (hstep : (scanMachine settings).step s a = some t) :
    BasisRecorded t := by
  cases a with
  | update u =>
    obtain rfl := Option.some.inj hstep
    exact hs
  | run scanner runId symbols =>
    obtain rfl := Option.some.inj hstep
    exact basisRecorded_runStep hs hsame

end Run

theorem basisRecorded_scanStart (view : MarketView) : BasisRecorded (scanStart view) := by
  intro key
  constructor
  · constructor
    · intro h
      cases h
    · rintro ⟨entry,hentry,-⟩
      cases hentry
  · intro entry hentry
    cases hentry

/-- Over every sequence of writes and runs, the skips of all runs are redundant just when no run
meets, for a symbol, scanner and scan date, another feature date than an earlier one. -/
theorem redundantSkips_iff (settings : Settings) (view : MarketView) (as : List ScanAction) :
    (scanMachine settings).Steps (RedundantSkips settings) (scanStart view) as ↔
      (scanMachine settings).Steps (OneFeatureDate settings) (scanStart view) as := by
  constructor
  · intro h
    refine h.imp (I := BasisRecorded) ?_ ?_ (basisRecorded_scanStart view)
    · intro s a t hs hskips hstep
      exact basisRecorded_step hs ((redundantSkips_iff_of_recorded hs hstep).mp hskips) hstep
    · intro s a t hs hskips hstep
      exact (redundantSkips_iff_of_recorded hs hstep).mp hskips
  · intro h
    refine h.imp (I := BasisRecorded) ?_ ?_ (basisRecorded_scanStart view)
    · intro s a t hs hsame hstep
      exact basisRecorded_step hs hsame hstep
    · intro s a t hs hsame hstep
      exact (redundantSkips_iff_of_recorded hs hstep).mpr hsame

/-! ### Scanners keyed by the feature date -/

/-- The action is no run of a scanner whose scan date is another date than the features'. -/
def ScanAction.KeyedByFeatures : ScanAction → Prop
  | .run (.orb _) _ _ => False
  | .run (.candidate _) _ _ => False
  | _ => True

/-- Every valid context so far was keyed by the date of its features. -/
def KeyedByFeatures (s : ScanState) : Prop := ∀ entry ∈ s.built, entry.2 = some entry.1.2.2

theorem keyedByFeatures_step {settings : Settings} {s t : ScanState} {a : ScanAction}
    (hs : KeyedByFeatures s) (ha : a.KeyedByFeatures)
    (hstep : (scanMachine settings).step s a = some t) : KeyedByFeatures t := by
  match a with
  | .update u =>
    obtain rfl := Option.some.inj hstep
    exact hs
  | .run (.listed strategy) runId symbols =>
    obtain rfl := Option.some.inj hstep
    cases h : ((RegisteredScanner.listed strategy).base settings).buildContextBulk s.view
        symbols with
    | error text => rwa [runStep_of_error h]
    | ok contexts =>
      intro entry hentry
      rw [runStep_built h] at hentry
      rcases List.mem_append.mp hentry with hold | hnew
      · exact hs entry hold
      · obtain ⟨item,-,rfl⟩ := List.mem_map.mp hnew
        rfl

/-- The scanners whose scan date is the date of the features never skip on outdated ones. -/
theorem redundantSkips_of_keyedByFeatures (settings : Settings) (view : MarketView)
    {as : List ScanAction} (h : ∀ a ∈ as, a.KeyedByFeatures) :
    (scanMachine settings).Steps (RedundantSkips settings) (scanStart view) as := by
  have hsame : ∀ s a t, KeyedByFeatures s → a.KeyedByFeatures → OneFeatureDate settings s a t := by
    intro s a t hs ha
    match a with
    | .update u => trivial
    | .run (.listed strategy) runId symbols =>
      intro contexts hcontexts item hitem entry hentry hkey
      rw [hs entry hentry, hkey]
      rfl
  have hG : (scanMachine settings).Steps (fun _ a _ => a.KeyedByFeatures) (scanStart view) as := by
    rintro pre a post t u rfl - -
    exact h a (by simp)
  refine hG.imp (I := fun s => BasisRecorded s ∧ KeyedByFeatures s) ?_ ?_
    ⟨basisRecorded_scanStart view,fun entry hentry => by cases hentry⟩
  · rintro s a t ⟨hrecorded,hkeyed⟩ ha hstep
    exact ⟨basisRecorded_step hrecorded (hsame s a t hkeyed ha) hstep,
      keyedByFeatures_step hkeyed ha hstep⟩
  · rintro s a t ⟨hrecorded,hkeyed⟩ ha hstep
    exact (redundantSkips_iff_of_recorded hrecorded hstep).mpr (hsame s a t hkeyed ha)

/-! ### A verdict frozen for the day -/

/-- Whether a run would skip a symbol for a row computed from features of another date. -/
def skipsOutdated (settings : Settings) (s : ScanState) (scanner : RegisteredScanner)
    (symbols : List (Row SymbolRow)) : Bool :=
  match (scanner.base settings).buildContextBulk s.view symbols with
  | .error _ => false
  | .ok contexts => ((scanner.base settings).haveContext contexts symbols).any fun item =>
    existsForDate s.db.results (itemKey settings scanner item) &&
      decide (s.basis (itemKey settings scanner item) ≠
        some (scanner.featureDate settings item.2))

theorem not_redundantSkips_of_skipsOutdated {settings : Settings} {s t : ScanState}
    {scanner : RegisteredScanner} {runId : ℕ} {symbols : List (Row SymbolRow)}
    (h : skipsOutdated settings s scanner symbols = true) :
    ¬ RedundantSkips settings s (.run scanner runId symbols) t := by
  intro hskips
  unfold skipsOutdated at h
  split at h
  · cases h
  · rename_i contexts hcontexts
    obtain ⟨item,hitem,htest⟩ := List.any_eq_true.mp h
    obtain ⟨hexists,hbasis⟩ := Bool.and_eq_true_iff.mp htest
    exact of_decide_eq_true hbasis ((hskips contexts hcontexts item hitem).1 hexists)

def rejectCandidates : Strategy CandidateContext where
  name := "fno_momentum_v1"
  getCandidateSymbols _ symbols := symbols
  validate _ := .ok { valid := true }
  scan _ := .ok ⟨false,"failed 1/4: relative_volume>=threshold"⟩
  score _ := .ok 40
  featureSnapshot _ := []

def reliance : Row SymbolRow := ⟨1,⟨"RELIANCE","NSE","2885",none,none,none,none,true⟩⟩

/-- Ten in the morning of a trading day in Mumbai, with the features of the day before. -/
def morningView : MarketView where
  scans := ViewScans.insertion
  prices := Stamped.empty.put ⟨1,⟨20000⟩,⟨13500000⟩,⟨13800000⟩,⟨13400000⟩,⟨13700000⟩,900000,none⟩
  features := Stamped.empty.put (DailyFeature.new 1 ⟨20000⟩)
  sessionFeatures := Stamped.empty
  now _ := ⟨20001*86400000000+4*3600000000+1800000000,0⟩
  fault _ := none

/-- A scan in the morning, the day's features, and a scan in the evening. -/
def featuresAfterScan : List ScanAction :=
  [.run (.candidate rejectCandidates) 1 [reliance],
    .update (.upsertFeatures 1 ⟨20001⟩ []),
    .update (.clock fun _ => ⟨20001*86400000000+12*3600000000,0⟩),
    .run (.candidate rejectCandidates) 2 [reliance]]

theorem featuresAfterScan_outdated :
    ¬ (scanMachine {}).Steps (RedundantSkips {}) (scanStart morningView) featuresAfterScan := by
  intro h
  obtain ⟨s,hrun,hs⟩ := Machine.exists_run_of_exec (scanMachine {}) (scanStart morningView)
    (featuresAfterScan.take 3)
    (fun s => skipsOutdated {} s (.candidate rejectCandidates) [reliance]) (by decide +kernel)
  exact not_redundantSkips_of_skipsOutdated hs
    (@h (featuresAfterScan.take 3) _ [] s _ rfl hrun rfl)

end MarketScanner.Scanner
