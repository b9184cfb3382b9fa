import MarketScanner.Library.Assoc
import MarketScanner.Library.Transition
import MarketScanner.Universe.Collector
import MarketScanner.Universe.Enrichment

/-! Which symbols a scanner is given. The listed scanners take what `run_all` read at its start, the
candidate scanners query their universe when their turn comes, and the F&O universe is a table that its
own job refills. Symbol refreshes come in between. -/
namespace MarketScanner.Universe
open MarketScanner.Library MarketScanner.Python MarketScanner.Config

def SymbolRepository.listByIds (scan : ScanOrder (Row SymbolRow)) (t : SymbolTable)
    (symbolIds : List ℕ) : List (Row SymbolRow) :=
  if symbolIds = [] then [] else scan.arrange (t.rows.filter fun r => decide (r.id ∈ symbolIds))

/-- `get_fno_universe`, over the ids in the `fno_universe` table. -/
def UniverseProvider.getFnoUniverse (scan : ScanOrder (Row SymbolRow)) (t : SymbolTable)
    (fnoUniverse : List ℕ) : List (Row SymbolRow) :=
  SymbolRepository.listByIds scan t fnoUniverse

/-- The ids that `_refresh_job` stores: those of the active symbols among the roots. -/
def matchedIds (scan : ScanOrder (Row SymbolRow)) (t : SymbolTable) (roots : Finset String) :
    List ℕ :=
  ((SymbolRepository.listActive scan t).filter fun r => decide (r.val.symbol ∈ roots)).map Row.id

/-- The symbol with an id is active. -/
def isActive (t : SymbolTable) (id : ℕ) : Bool := t.rows.any fun r => r.id == id && r.val.isActive

/-- The ids that have lost their activity in an update of the symbols, or earlier, and have not got it
back. -/
def lapse (t t' : SymbolTable) (lapsed : List ℕ) : List ℕ :=
  (lapsed ++ (t.rows.filter fun r => r.val.isActive).map Row.id).filter fun id => !isActive t' id

theorem isActive_iff {t : SymbolTable} {id : ℕ} :
    isActive t id = true ↔ ∃ r ∈ t.rows, r.id = id ∧ r.val.isActive = true := by
  simp [isActive]

theorem isActive_of_mem {t : SymbolTable} {r : Row SymbolRow} (h : r ∈ t.rows) :
    isActive t r.id = r.val.isActive := by
  rw [Bool.eq_iff_iff, isActive_iff]
  constructor
  · rintro ⟨r',hr',hid,hactive⟩
    rwa [← Table.eq_of_id hr' h hid]
  · exact fun hactive => ⟨r,h,rfl,hactive⟩

theorem mem_lapse {t t' : SymbolTable} {lapsed : List ℕ} {id : ℕ} :
    id ∈ lapse t t' lapsed ↔
      (id ∈ lapsed ∨ isActive t id = true) ∧ isActive t' id = false := by
  have hactive : id ∈ (t.rows.filter fun r => r.val.isActive).map Row.id ↔ isActive t id = true := by
    rw [isActive_iff]
    simp only [List.mem_map, List.mem_filter]
    exact exists_congr fun r => by rw [and_assoc, and_comm (a := r.val.isActive = true)]
  rw [lapse, List.mem_filter, List.mem_append, hactive]
  simp

/-- What holds of the ids that have not lapsed goes on to hold. -/
theorem isActive_iff_not_mem_lapse {t t' : SymbolTable} {lapsed : List ℕ} {id : ℕ}
    (h : isActive t id = true ↔ id ∉ lapsed) :
    isActive t' id = true ↔ id ∉ lapse t t' lapsed := by
  have hmem : id ∈ lapsed ∨ isActive t id = true := by
    by_cases hlapsed : id ∈ lapsed
    · exact Or.inl hlapsed
    · exact Or.inr (h.mpr hlapsed)
  rw [mem_lapse, and_iff_right hmem, Bool.not_eq_false]

theorem mem_getFnoUniverse {scan : ScanOrder (Row SymbolRow)} {t : SymbolTable}
    {fnoUniverse : List ℕ} {r : Row SymbolRow} :
    r ∈ UniverseProvider.getFnoUniverse scan t fnoUniverse ↔ r ∈ t.rows ∧ r.id ∈ fnoUniverse := by
  unfold UniverseProvider.getFnoUniverse SymbolRepository.listByIds
  split
  · rename_i hnil
    simp [hnil]
  · rw [(scan.perm _).mem_iff, List.mem_filter, decide_eq_true_eq]

/-- What the refresh job stores is active when it is stored. -/
theorem isActive_of_matched {scan : ScanOrder (Row SymbolRow)} {t : SymbolTable}
    {roots : Finset String} {id : ℕ} (h : id ∈ matchedIds scan t roots) :
    isActive t id = true := by
  obtain ⟨r,hr,rfl⟩ := List.mem_map.mp h
  obtain ⟨hrows,hactive⟩ := SymbolRepository.mem_listActive.mp (List.mem_of_mem_filter hr)
  rwa [isActive_of_mem hrows]

/-! No job deletes a symbol. -/

/-- Every id of the one table is one of the other. -/
def KeepsIds (t t' : SymbolTable) : Prop := ∀ r ∈ t.rows, ∃ r' ∈ t'.rows, r'.id = r.id

namespace KeepsIds
variable {t t' t'' : SymbolTable}

theorem refl (t : SymbolTable) : KeepsIds t t := fun r hr => ⟨r,hr,rfl⟩

theorem trans (h : KeepsIds t t') (h' : KeepsIds t' t'') : KeepsIds t t'' := by
  intro r hr
  obtain ⟨r₁,hr₁,hid₁⟩ := h r hr
  obtain ⟨r₂,hr₂,hid₂⟩ := h' r₁ hr₁
  exact ⟨r₂,hr₂,hid₂.trans hid₁⟩

theorem modifyWhere (t : SymbolTable) (q : ℕ → Bool) (f : SymbolRow → SymbolRow) :
    KeepsIds t (t.modifyWhere q f) :=
  fun r hr => ⟨_,Table.mem_modifyWhere.mpr ⟨r,hr,rfl⟩,Row.change_id q f r⟩

theorem insert (t : SymbolTable) (row : SymbolRow) : KeepsIds t (t.insert row) :=
  fun r hr => ⟨r,Table.mem_insert.mpr (Or.inl hr),rfl⟩

theorem upsert {p : ProviderSymbol} (h : SymbolRepository.upsert t p = .ok t') : KeepsIds t t' := by
  obtain ⟨-,rfl⟩ | ⟨row,-,rfl⟩ := SymbolRepository.upsert_cases h
  · exact insert t _
  · exact modifyWhere t _ _

theorem refreshAll {fetch : List ProviderSymbol} {s s' : Refresh}
    (h : refreshAll s fetch = .ok s') : KeepsIds s.table s'.table := by
  induction fetch generalizing s with
  | nil =>
    obtain rfl := Except.ok.inj h
    exact refl s.table
  | cons p fetch ih =>
    rw [Universe.refreshAll] at h
    obtain ⟨-,result,hone⟩ | ⟨-,e,-,hone⟩ | ⟨-,table,result,hup,hone⟩ := refreshOne_cases s p
    · rw [hone] at h
      exact ih (s := ⟨s.table,result,s.confirmed⟩) h
    · rw [hone] at h
      cases h
    · rw [hone] at h
      exact (upsert hup).trans (ih h)

theorem collectSymbols (settings : Settings) (scan : ScanOrder (Row SymbolRow)) (t : SymbolTable)
    (fetch : Except String (List ProviderSymbol)) :
    KeepsIds t (collectSymbols settings scan t fetch).1 := by
  unfold Universe.collectSymbols
  split
  · exact refl t
  · split
    · exact refl t
    · rename_i s hrefresh
      refine (refreshAll hrefresh).trans ?_
      unfold reconcileUniverse
      dsimp only
      split
      · exact refl s.table
      · split
        · exact refl s.table
        · exact modifyWhere s.table _ _

end KeepsIds
end MarketScanner.Universe

namespace MarketScanner.Scanner
open MarketScanner.Library MarketScanner.Python MarketScanner.Config MarketScanner.Universe

/-- The scanners that `main` registers, in its order. -/
inductive MainScanner
  | breakout | vcp | momentum | orb | fnoMomentum | preBreakout | ipoIntraday
  deriving DecidableEq

namespace MainScanner

def name : MainScanner → String
  | breakout => "breakout_v1"
  | vcp => "vcp_v1"
  | momentum => "momentum_v1"
  | orb => "orb_v1"
  | fnoMomentum => "fno_momentum_v1"
  | preBreakout => "pre_breakout_v1"
  | ipoIntraday => "ipo_intraday_v1"

def registry : List MainScanner := [breakout,vcp,momentum,orb,fnoMomentum,preBreakout,ipoIntraday]

end MainScanner

/-- `merged.setdefault(symbol.id, symbol)` for each IPO symbol, over the F&O symbols by id. -/
def mergeById (fnoSymbols ipoSymbols : List (Row SymbolRow)) : List (Row SymbolRow) :=
  let merged := fnoSymbols.foldl (fun merged s => merged.set s.id s) Assoc.empty
  (ipoSymbols.foldl (fun merged s => if (merged.get? s.id).isSome then merged else merged.set s.id s)
    merged).items.map Prod.snd

/-- `get_candidate_symbols`, of each scanner. -/
def MainScanner.getCandidateSymbols (settings : Settings) (today : Date)
    (scan : ScanOrder (Row SymbolRow)) (t : SymbolTable) (fnoUniverse : List ℕ)
    (allSymbols : List (Row SymbolRow)) : MainScanner → List (Row SymbolRow)
  | breakout | vcp | momentum | orb => allSymbols
  | fnoMomentum => UniverseProvider.getFnoUniverse scan t fnoUniverse
  | preBreakout => mergeById (UniverseProvider.getFnoUniverse scan t fnoUniverse)
      (UniverseProvider.getIpoUniverse settings today t)
  | ipoIntraday => UniverseProvider.getIpoUniverse settings today t

/-- The tables, what the `run_all` in progress has read, and the scanners whose turn is still to come.
The last two fields are history: the ids that have lapsed since the last successful F&O refresh, and
since that `run_all` began. -/
structure SelectionState where
  symbols : SymbolTable
  fnoUniverse : List ℕ := []
  allSymbols : List (Row SymbolRow) := []
  pending : List MainScanner := []
  lapsedFno : List ℕ := []
  lapsedRun : List ℕ := []

/-- A `run_all` begins, gives the next scanner its turn, or ends with an exception; the jobs run at any
time. -/
inductive SelectionAction
  | refreshSymbols (settings : Settings) (scan : ScanOrder (Row SymbolRow))
      (fetch : Except String (List ProviderSymbol))
  | refreshFno (scan : ScanOrder (Row SymbolRow)) (roots : Except String (Finset String))
  | beginRun (scan : ScanOrder (Row SymbolRow))
  | turn (settings : Settings) (scan : ScanOrder (Row SymbolRow)) (today : Date)
  | abort

namespace SelectionState

def step (s : SelectionState) : SelectionAction → Option SelectionState
  | .refreshSymbols settings scan fetch =>
    let symbols := (collectSymbols settings scan s.symbols fetch).1
    some { s with
      symbols
      lapsedFno := lapse s.symbols symbols s.lapsedFno
      lapsedRun := lapse s.symbols symbols s.lapsedRun }
  | .refreshFno _ (.error _) => some s
  | .refreshFno scan (.ok roots) =>
    some { s with
      fnoUniverse := matchedIds scan s.symbols roots
      lapsedFno := [] }
  | .beginRun scan =>
    if s.pending = [] then some { s with
      allSymbols := SymbolRepository.listActive scan s.symbols
      pending := MainScanner.registry
      lapsedRun := [] }
    else none
  | .turn _ _ _ =>
    match s.pending with
    | [] => none
    | _::pending => some { s with pending }
  | .abort => some { s with pending := [] }

/-- Whatever the next scanner is given is active then. -/
def OnlyActive (s : SelectionState) : SelectionAction → SelectionState → Prop
  | .turn settings scan today, _ => ∀ scanner ∈ s.pending.head?,
      ∀ r ∈ scanner.getCandidateSymbols settings today scan s.symbols s.fnoUniverse s.allSymbols,
        isActive s.symbols r.id = true
  | _, _ => True

/-- For a listed scanner, nothing that `run_all` read has lapsed since; for a scanner of the F&O
universe, nothing that the last successful refresh put there has lapsed since. -/
def NoneLapsed (s : SelectionState) : SelectionAction → SelectionState → Prop
  | .turn _ _ _, _ => ∀ scanner ∈ s.pending.head?,
      match scanner with
      | .breakout | .vcp | .momentum | .orb => ∀ r ∈ s.allSymbols, r.id ∉ s.lapsedRun
      | .fnoMomentum | .preBreakout => ∀ id ∈ s.fnoUniverse, id ∉ s.lapsedFno
      | .ipoIntraday => True
  | _, _ => True

instance (s : SelectionState) (action : SelectionAction) (t : SelectionState) :
    Decidable (s.OnlyActive action t) :=
  match action with
  | .turn settings scan today => inferInstanceAs (Decidable (∀ scanner ∈ s.pending.head?, ∀ r ∈
      scanner.getCandidateSymbols settings today scan s.symbols s.fnoUniverse s.allSymbols,
        isActive s.symbols r.id = true))
  | .refreshSymbols _ _ _ | .refreshFno _ _ | .beginRun _ | .abort => inferInstanceAs (Decidable True)

end SelectionState

def selectionMachine : Machine SelectionState SelectionAction := ⟨SelectionState.step⟩

/-! The two universes merged. -/

/-- A dictionary of symbols by id. -/
def ById (p : Row SymbolRow → Prop) (d : Assoc ℕ (Row SymbolRow)) : Prop :=
  ∀ item ∈ d.items, item.2.id = item.1 ∧ p item.2

theorem ById.set {p : Row SymbolRow → Prop} {d : Assoc ℕ (Row SymbolRow)} (h : ById p d)
    {r : Row SymbolRow} (hr : p r) : ById p (d.set r.id r) := by
  intro item hitem
  rcases Assoc.mem_setItem hitem with rfl | hold
  · exact ⟨rfl,hr⟩
  · exact h item hold

section Merge
variable (fnoSymbols ipoSymbols : List (Row SymbolRow))

theorem byId_fnoSymbols : ById (fun r => r ∈ fnoSymbols ∨ r ∈ ipoSymbols)
    (fnoSymbols.foldl (fun merged s => merged.set s.id s) Assoc.empty) := by
  refine List.foldlRecOn fnoSymbols _ (fun item hitem => by cases hitem) ?_
  intro d hd r hr
  exact hd.set (Or.inl hr)

theorem mem_keys_fnoSymbols {r : Row SymbolRow} (d : Assoc ℕ (Row SymbolRow))
    (h : r ∈ fnoSymbols ∨ r.id ∈ d.items.map Prod.fst) :
    r.id ∈ (fnoSymbols.foldl (fun merged s => merged.set s.id s) d).items.map Prod.fst := by
  induction fnoSymbols generalizing d with
  | nil => exact h.resolve_left (List.not_mem_nil)
  | cons s fnoSymbols ih =>
    refine ih (d.set s.id s) ?_
    rcases h with hmem | hkey
    · rcases List.mem_cons.mp hmem with rfl | hrest
      · exact Or.inr (Assoc.mem_keys_setItem.mpr (Or.inl rfl))
      · exact Or.inl hrest
    · exact Or.inr (Assoc.mem_keys_setItem.mpr (Or.inr hkey))

variable {fnoSymbols ipoSymbols} {r : Row SymbolRow}

theorem mem_of_mem_mergeById (h : r ∈ mergeById fnoSymbols ipoSymbols) :
    r ∈ fnoSymbols ∨ r ∈ ipoSymbols := by
  obtain ⟨item,hitem,rfl⟩ := List.mem_map.mp h
  have hmerged : ById (fun r => r ∈ fnoSymbols ∨ r ∈ ipoSymbols)
      (ipoSymbols.foldl (fun merged s => if (merged.get? s.id).isSome then merged else merged.set s.id s)
        (fnoSymbols.foldl (fun merged s => merged.set s.id s) Assoc.empty)) := by
    refine List.foldlRecOn ipoSymbols _ (byId_fnoSymbols fnoSymbols ipoSymbols) ?_
    intro d hd r hr
    split
    · exact hd
    · exact hd.set (Or.inr hr)
  exact (hmerged item hitem).2

variable (ipoSymbols) in
/-- An F&O symbol is in the merge, as it is or as another of its id. -/
theorem exists_mem_mergeById (h : r ∈ fnoSymbols) :
    ∃ r' ∈ mergeById fnoSymbols ipoSymbols, r'.id = r.id := by
  have hboth : ById (fun _ => True)
      (ipoSymbols.foldl (fun merged s => if (merged.get? s.id).isSome then merged else merged.set s.id s)
        (fnoSymbols.foldl (fun merged s => merged.set s.id s) Assoc.empty)) ∧
      r.id ∈ (ipoSymbols.foldl
        (fun merged s => if (merged.get? s.id).isSome then merged else merged.set s.id s)
        (fnoSymbols.foldl (fun merged s => merged.set s.id s) Assoc.empty)).items.map Prod.fst := by
    refine List.foldlRecOn (motive := fun d => ById (fun _ => True) d ∧ r.id ∈ d.items.map Prod.fst)
      ipoSymbols _ ⟨?_,mem_keys_fnoSymbols fnoSymbols Assoc.empty (Or.inl h)⟩ ?_
    · intro item hitem
      exact ⟨(byId_fnoSymbols fnoSymbols [] item hitem).1,trivial⟩
    · rintro d ⟨hd,hkey⟩ s -
      split
      · exact ⟨hd,hkey⟩
      · exact ⟨hd.set trivial,Assoc.mem_keys_setItem.mpr (Or.inr hkey)⟩
  obtain ⟨item,hitem,hkey⟩ := List.mem_map.mp hboth.2
  exact ⟨item.2,List.mem_map_of_mem hitem,(hboth.1 item hitem).1.trans hkey⟩

end Merge

namespace SelectionState
variable {s t : SelectionState}

/-- What holds in every state: an id of the F&O universe, or of what the `run_all` in progress has read,
is active unless it has lapsed since, and the ids of the universe are those of symbols. -/
structure Sound (s : SelectionState) : Prop where
  fno : ∀ id ∈ s.fnoUniverse, isActive s.symbols id = true ↔ id ∉ s.lapsedFno
  run : ∀ r ∈ s.allSymbols, isActive s.symbols r.id = true ↔ r.id ∉ s.lapsedRun
  rows : ∀ id ∈ s.fnoUniverse, ∃ r ∈ s.symbols.rows, r.id = id

theorem sound_start (symbols : SymbolTable) : Sound { symbols } where
  fno := by rintro id ⟨⟩
  run := by rintro r ⟨⟩
  rows := by rintro id ⟨⟩

theorem sound_step {action : SelectionAction} (h : s.Sound) (hstep : s.step action = some t) :
    t.Sound := by
  cases action with
  | refreshSymbols settings scan fetch =>
    obtain rfl := Option.some.inj hstep
    refine ⟨?_,?_,?_⟩
    · intro id hid
      exact isActive_iff_not_mem_lapse (h.fno id hid)
    · intro r hr
      exact isActive_iff_not_mem_lapse (h.run r hr)
    · intro id hid
      obtain ⟨r,hr,rfl⟩ := h.rows id hid
      exact KeepsIds.collectSymbols settings scan s.symbols fetch r hr
  | refreshFno scan roots =>
    cases roots with
    | error text =>
      obtain rfl := Option.some.inj hstep
      exact h
    | ok roots =>
      obtain rfl := Option.some.inj hstep
      refine ⟨?_,h.run,?_⟩
      · intro id hid
        exact iff_of_true (isActive_of_matched hid) List.not_mem_nil
      · intro id hid
        obtain ⟨r,hr,hrid,-⟩ := isActive_iff.mp (isActive_of_matched hid)
        exact ⟨r,hr,hrid⟩
  | beginRun scan =>
    obtain ⟨-,hstep⟩ := Option.ite_none_right_eq_some.mp hstep
    obtain rfl := Option.some.inj hstep
    refine ⟨h.fno,?_,h.rows⟩
    intro r hr
    obtain ⟨hrows,hactive⟩ := SymbolRepository.mem_listActive.mp hr
    exact iff_of_true ((isActive_of_mem hrows).trans hactive) List.not_mem_nil
  | turn settings scan today =>
    simp only [step] at hstep
    split at hstep
    · cases hstep
    · obtain rfl := Option.some.inj hstep
      exact ⟨h.fno,h.run,h.rows⟩
  | abort =>
    obtain rfl := Option.some.inj hstep
    exact ⟨h.fno,h.run,h.rows⟩

theorem active_ipoUniverse {settings : Settings} {today : Date} {r : Row SymbolRow}
    (h : r ∈ UniverseProvider.getIpoUniverse settings today s.symbols) :
    isActive s.symbols r.id = true := by
  obtain ⟨hrows,hactive,-⟩ := UniverseProvider.mem_getIpoUniverse.mp h
  rwa [isActive_of_mem hrows]

/-- The F&O universe is active just when none of it has lapsed. -/
theorem Sound.active_fnoUniverse_iff (h : s.Sound) (scan : ScanOrder (Row SymbolRow)) :
    (∀ r ∈ UniverseProvider.getFnoUniverse scan s.symbols s.fnoUniverse,
        isActive s.symbols r.id = true) ↔ ∀ id ∈ s.fnoUniverse, id ∉ s.lapsedFno := by
  constructor
  · intro hactive id hid
    obtain ⟨r,hr,rfl⟩ := h.rows id hid
    exact (h.fno r.id hid).mp (hactive r (mem_getFnoUniverse.mpr ⟨hr,hid⟩))
  · intro hlapsed r hr
    obtain ⟨-,hid⟩ := mem_getFnoUniverse.mp hr
    exact (h.fno r.id hid).mpr (hlapsed r.id hid)

theorem Sound.active_mergeById_iff (h : s.Sound) (settings : Settings) (today : Date)
    (scan : ScanOrder (Row SymbolRow)) :
    (∀ r ∈ mergeById (UniverseProvider.getFnoUniverse scan s.symbols s.fnoUniverse)
        (UniverseProvider.getIpoUniverse settings today s.symbols), isActive s.symbols r.id = true) ↔
      ∀ id ∈ s.fnoUniverse, id ∉ s.lapsedFno := by
  rw [← h.active_fnoUniverse_iff scan]
  constructor
  · intro hactive r hr
    obtain ⟨r',hr',hid⟩ :=
      exists_mem_mergeById (UniverseProvider.getIpoUniverse settings today s.symbols) hr
    rw [← hid]
    exact hactive r' hr'
  · intro hactive r hr
    rcases mem_of_mem_mergeById hr with hfno | hipo
    · exact hactive r hfno
    · exact active_ipoUniverse hipo

/-- One turn. -/
theorem Sound.onlyActive_iff (h : s.Sound) (action : SelectionAction) :
    s.OnlyActive action t ↔ s.NoneLapsed action t := by
  cases action with
  | turn settings scan today =>
    refine forall₂_congr fun scanner hscanner => ?_
    have hlisted : (∀ r ∈ s.allSymbols, isActive s.symbols r.id = true) ↔
        ∀ r ∈ s.allSymbols, r.id ∉ s.lapsedRun := forall₂_congr fun r hr => h.run r hr
    cases scanner with
    | breakout => exact hlisted
    | vcp => exact hlisted
    | momentum => exact hlisted
    | orb => exact hlisted
    | fnoMomentum => exact h.active_fnoUniverse_iff scan
    | preBreakout => exact h.active_mergeById_iff settings today scan
    | ipoIntraday => exact iff_of_true (fun r hr => active_ipoUniverse hr) trivial
  | _ => exact Iff.rfl

end SelectionState

/-- Over every sequence of jobs and scans, from any symbols and an empty F&O universe: all that the
scanners are given is active at the time, exactly when nothing they go by has lapsed. -/
theorem onlyActiveScanned_iff (symbols : SymbolTable) (actions : List SelectionAction) :
    selectionMachine.Steps SelectionState.OnlyActive { symbols } actions ↔
      selectionMachine.Steps SelectionState.NoneLapsed { symbols } actions := by
  have hstart := SelectionState.sound_start symbols
  constructor
  · intro h
    exact h.imp (fun _ _ _ hs _ hstep => SelectionState.sound_step hs hstep)
      (fun _ action _ hs hactive _ => (hs.onlyActive_iff action).mp hactive) hstart
  · intro h
    exact h.imp (fun _ _ _ hs _ hstep => SelectionState.sound_step hs hstep)
      (fun _ action _ hs hlapsed _ => (hs.onlyActive_iff action).mpr hlapsed) hstart

/-- Two F&O symbols; the next day one of them is gone from the master and the F&O refresh is skipped. -/
def delistedFno : List SelectionAction :=
  let scan := ScanOrder.insertion _
  let reliance : ProviderSymbol := { symbol := "RELIANCE", exchange := "NSE", instrumentToken := "A" }
  let gujgasltd : ProviderSymbol := { symbol := "GUJGASLTD", exchange := "NSE", instrumentToken := "B" }
  [.refreshSymbols {} scan (.ok [reliance,gujgasltd]),
    .refreshFno scan (.ok {"RELIANCE","GUJGASLTD"}),
    .refreshSymbols {} scan (.ok [reliance]),
    .refreshFno scan (.error "Upstox instruments download failed after retries: HTTP 503"),
    .beginRun scan, .turn {} scan ⟨20001⟩, .turn {} scan ⟨20001⟩, .turn {} scan ⟨20001⟩,
    .turn {} scan ⟨20001⟩, .turn {} scan ⟨20001⟩]

/-- The fifth scanner evaluates it all the same. -/
theorem delistedFno_scanned : ¬ ∀ (symbols : SymbolTable) (actions : List SelectionAction),
    selectionMachine.Steps SelectionState.OnlyActive { symbols } actions := by
  intro h
  have hcheck := (h Table.empty delistedFno).check
  revert hcheck
  decide +kernel

end MarketScanner.Scanner
