import MarketScanner.Analytics.Sectors
import MarketScanner.Library.History
import MarketScanner.Library.Window

/-! The analytics snapshots: each scheduled run stores the regime and the evidence on the sectors, and the
dashboard reads the newest row of each sector. A run that raises stores nothing. -/
namespace MarketScanner.Analytics
open MarketScanner.Library MarketScanner.Python MarketScanner.Market MarketScanner.Features
open MarketScanner.Features.Series MarketScanner.Config MarketScanner.Universe

structure MarketRegimeSnapshot where
  computedAt : DateTime
  asOf : Date
  regime : Option MarketRegimeState
  score : Option ℚ
  indexSymbol : String
  indexTrendDirection : Option String
  indexTrendStrength : Option ℚ
  volatilityState : Option String
  sectorLeadingPct : Option ℚ
  evidenceSourcesUsed : List String
  missingEvidence : List String

structure SectorRrgSnapshot where
  computedAt : DateTime
  sectorSymbol : String
  benchmarkSymbol : String
  date : Date
  rsRatio : Option PyFloat
  rsMomentum : Option PyFloat
  rotationState : Option SectorRotationState
  momentumScore : Option ℚ
  trendStrength : Option ℚ
  pricePerformancePct : Option PyFloat
  score : Option ℚ

def MarketRegimeSnapshot.of (evidence : MarketRegimeEvidence) : MarketRegimeSnapshot where
  computedAt := evidence.computedAt
  asOf := evidence.asOf
  regime := evidence.regime
  score := evidence.score
  indexSymbol := evidence.indexSymbol
  indexTrendDirection := evidence.indexTrendDirection
  indexTrendStrength := evidence.indexTrendStrength
  volatilityState := evidence.volatilityState
  sectorLeadingPct := evidence.sectorLeadingPct
  evidenceSourcesUsed := evidence.evidenceSourcesUsed
  missingEvidence := evidence.missingEvidence

def SectorRrgSnapshot.of (computedAt : DateTime) (evidence : SectorEvidence) : SectorRrgSnapshot where
  computedAt := computedAt
  sectorSymbol := evidence.sectorSymbol
  benchmarkSymbol := evidence.benchmarkSymbol
  date := evidence.date
  rsRatio := evidence.rsRatio
  rsMomentum := evidence.rsMomentum
  rotationState := evidence.rotationState
  momentumScore := evidence.momentumScore
  trendStrength := evidence.trendStrength
  pricePerformancePct := evidence.pricePerformancePct
  score := evidence.score

structure SnapshotTables where
  regimes : Table MarketRegimeSnapshot
  sectors : Table SectorRrgSnapshot

def SnapshotTables.empty : SnapshotTables := ⟨Table.empty,Table.empty⟩

namespace SectorRrgSnapshotRepository

def insertMany (t : Table SectorRrgSnapshot) (evidences : List SectorEvidence) (computedAt : DateTime) :
    Table SectorRrgSnapshot :=
  evidences.foldl (fun t evidence => t.insert (.of computedAt evidence)) t

/-- `ORDER BY computed_at DESC` -/
abbrev NewestFirst : Row SectorRrgSnapshot → Row SectorRrgSnapshot → Prop :=
  Stamped.Newer fun snapshot : SectorRrgSnapshot => snapshot.computedAt.utc

/-- `ORDER BY sector_symbol` -/
def BySector (a b : Row SectorRrgSnapshot) : Prop := a.val.sectorSymbol ≤ b.val.sectorSymbol

instance : DecidableRel BySector := fun a b =>
  inferInstanceAs (Decidable (a.val.sectorSymbol ≤ b.val.sectorSymbol))

instance : Std.Total BySector := ⟨fun a b => String.le_total a.val.sectorSymbol b.val.sectorSymbol⟩
instance : IsTrans (Row SectorRrgSnapshot) BySector := ⟨fun _ _ _ h h' => String.le_trans h h'⟩

/-- `get_latest_batch`: the newest row of each sector. `partition` and `scan` are the orders in which the
database meets rows that compare equal. -/
def getLatestBatch (partition scan : ScanOrder (Row SectorRrgSnapshot)) (t : Table SectorRrgSnapshot) :
    List (Row SectorRrgSnapshot) :=
  orderBy scan BySector (firsts (fun r => r.val.sectorSymbol) (orderBy partition NewestFirst t.rows))

end SectorRrgSnapshotRepository

/-- What `compute_market_regime` reads of the index: its trend, and the score of its band width where more
band widths than the window are there. -/
def indexReadings [FloatMath] (w : BreadthView) (indexRow : Option (Row SymbolRow)) (lookbackDays : ℕ) :
    Option String × Option ℚ × Option ℚ :=
  let featureHistory := indexRow.elim [] fun row =>
    (DailyFeatureRepository.getHistory w.scans.features w.features row.id lookbackDays).map Row.val
  let latest := featureHistory.getLast?
  let widths : Series := featureHistory.filterMap fun f => (f.number .bbWidth).map PyFloat.finite
  let volatility :=
    if zscoreWindow < widths.length then
      finite? (lastEntry (plus (-100) (rollingZscore zscoreWindow widths)))
    else none
  (latest.bind fun f => f.text .trendDirection,latest.bind fun f => f.number .trendStrength,volatility)

/-- What `compute_market_regime` reads beside the breadth. Without configured sectors there is no sector
participation. -/
def regimeReadings [FloatMath] (settings : Settings) (weights : SectorSettings) (cdf : ℚ → ℚ)
    (w : BreadthView) (sectorSymbols : List String) (lookbackDays : ℕ) : Except PyException RegimeReadings := do
  let indexSymbol := settings.featureRsBenchmarkSymbol
  let indexRow ← SymbolRepository.getBySymbol w.symbols indexSymbol
  let (direction,strength,volatility) := indexReadings w indexRow lookbackDays
  let leadingPct ← if sectorSymbols = [] then pure none else do
    let summary ← computeSectorRotation settings weights cdf w sectorSymbols none lookbackDays
    pure (pct (summary.leading.length+summary.strengthening.length) summary.sectors.length)
  return { indexSymbol, indexTrendDirection := direction, indexTrendStrength := strength
           volatilityZ := volatility, sectorLeadingPct := leadingPct }

/-- A run of the snapshot job: when it starts, and the tables as it computes the regime and the rotation. -/
structure SnapshotRun where
  moment : DateTime
  regimeView : BreadthView
  rotationView : BreadthView

section Runs
variable [FloatMath] (settings : Settings) (weights : SectorSettings) (cdf : ℚ → ℚ)
  (sectorSymbols : List String)

/-- What a run computes: the regime and the evidence on the sectors. -/
def snapshotEvidence (run : SnapshotRun) : Except PyException (MarketRegimeEvidence × List SectorEvidence) := do
  let readings ← regimeReadings settings weights cdf run.regimeView sectorSymbols 250
  let regime := computeMarketRegime settings cdf (computeMarketBreadth run.regimeView) readings
    run.regimeView.utcNow
  if sectorSymbols = [] then return (regime,[])
  else
    let rotation ← computeSectorRotation settings weights cdf run.rotationView sectorSymbols none 250
    return (regime,rotation.sectors)

/-- `_run_snapshot`: all that a run computes is stored in one transaction. -/
def runSnapshot (run : SnapshotRun) (t : SnapshotTables) : Except PyException SnapshotTables :=
  (snapshotEvidence settings weights cdf sectorSymbols run).map fun computed =>
    ⟨t.regimes.insert (.of computed.1),
      SectorRrgSnapshotRepository.insertMany t.sectors computed.2 run.moment⟩

structure SnapshotState where
  tables : SnapshotTables
  clock : ℤ

/-- Runs start one after the other. -/
def snapshots : Machine SnapshotState SnapshotRun where
  step s run :=
    if s.clock < run.moment.utc then
      match runSnapshot settings weights cdf sectorSymbols run s.tables with
      | .ok tables => some ⟨tables,run.moment.utc⟩
      | .error _ => some { s with clock := run.moment.utc }
    else none

/-- The evidence on a sector that a run stores. -/
def evidenceOn (run : SnapshotRun) (sectorSymbol : String) : Option SectorEvidence :=
  match snapshotEvidence settings weights cdf sectorSymbols run with
  | .ok computed => computed.2.find? fun e => e.sectorSymbol = sectorSymbol
  | .error _ => none

/-- The last evidence on a sector among the runs, and when that run started. -/
def lastEvidence (runs : List SnapshotRun) (sectorSymbol : String) : Option (DateTime × SectorEvidence) :=
  runs.reverse.findSome? fun run =>
    (evidenceOn settings weights cdf sectorSymbols run sectorSymbol).map fun e => (run.moment,e)

end Runs

/-! ### What the dashboard is shown -/

section Shown
variable [FloatMath] {settings : Settings} {weights : SectorSettings} {cdf : ℚ → ℚ}
  {sectorSymbols : List String} {sectorSymbol : String} {run : SnapshotRun} {runs : List SnapshotRun}

omit [FloatMath] in
theorem mem_insertMany {evidences : List SectorEvidence} {computedAt : DateTime}
    {t : Table SectorRrgSnapshot} {snapshot : SectorRrgSnapshot} :
    (∃ r ∈ (SectorRrgSnapshotRepository.insertMany t evidences computedAt).rows, r.val = snapshot) ↔
      (∃ r ∈ t.rows, r.val = snapshot) ∨ ∃ e ∈ evidences, SectorRrgSnapshot.of computedAt e = snapshot := by
  induction evidences generalizing t with
  | nil => simp [SectorRrgSnapshotRepository.insertMany]
  | cons e evidences ih =>
    have hstep : (∃ r ∈ (t.insert (.of computedAt e)).rows, r.val = snapshot) ↔
        (∃ r ∈ t.rows, r.val = snapshot) ∨ SectorRrgSnapshot.of computedAt e = snapshot := by
      simp [or_and_right, exists_or]
    rw [SectorRrgSnapshotRepository.insertMany, List.foldl_cons]
    exact ih.trans (by rw [hstep]; simp [or_assoc])

/-- A run has one evidence on each sector, however often the sector is configured. -/
theorem evidence_unique {computed : MarketRegimeEvidence × List SectorEvidence}
    (h : snapshotEvidence settings weights cdf sectorSymbols run = .ok computed) {e e' : SectorEvidence}
    (he : e ∈ computed.2) (he' : e' ∈ computed.2) (hsame : e.sectorSymbol = e'.sectorSymbol) : e = e' := by
  rw [snapshotEvidence] at h
  cases hreadings : regimeReadings settings weights cdf run.regimeView sectorSymbols 250 with
  | error e =>
    rw [hreadings] at h
    cases h
  | ok readings =>
    rw [hreadings] at h
    by_cases hsectors : sectorSymbols = []
    · change (if _ then _ else _) = _ at h
      rw [if_pos hsectors] at h
      cases h
      cases he
    · change (if _ then _ else _) = _ at h
      rw [if_neg hsectors] at h
      cases hrotation : computeSectorRotation settings weights cdf run.rotationView sectorSymbols none 250 with
      | error e =>
        rw [hrotation] at h
        cases h
      | ok rotation =>
        rw [hrotation] at h
        cases h
        obtain ⟨evidenceOf,hevidence,hgrouped⟩ := computeSectorRotation_grouped hrotation
        have hown : ∀ x ∈ rotation.sectors, evidenceOf x.sectorSymbol = some x := by
          intro x hx
          obtain ⟨s,hs,hx⟩ := List.mem_filterMap.mp (hgrouped.perm.mem_iff.mp hx)
          have hsymbol := computeSectorEvidence_symbol ((hevidence s hs).trans (congrArg Except.ok hx))
          rw [hsymbol, hx]
        have hboth := hown e he
        rw [hsame, hown e' he'] at hboth
        exact (Option.some.inj hboth).symm

theorem lastEvidence_concat (runs : List SnapshotRun) (run : SnapshotRun) (sectorSymbol : String) :
    lastEvidence settings weights cdf sectorSymbols (runs ++ [run]) sectorSymbol =
      ((evidenceOn settings weights cdf sectorSymbols run sectorSymbol).map fun e => (run.moment,e)).or
        (lastEvidence settings weights cdf sectorSymbols runs sectorSymbol) := by
  rw [lastEvidence, List.reverse_concat, List.findSome?_cons]
  cases evidenceOn settings weights cdf sectorSymbols run sectorSymbol <;> rfl

variable (settings weights cdf sectorSymbols) in
/-- The rows of a sector are of its last evidence or older than that; a sector without evidence has none. -/
structure Stored (runs : List SnapshotRun) (s : SnapshotState) : Prop where
  later : ∀ r ∈ s.tables.sectors.rows, r.val.computedAt.utc ≤ s.clock
  missing : ∀ k, lastEvidence settings weights cdf sectorSymbols runs k = none →
    ∀ r ∈ s.tables.sectors.rows, r.val.sectorSymbol ≠ k
  newest : ∀ k x, lastEvidence settings weights cdf sectorSymbols runs k = some x →
    x.2.sectorSymbol = k ∧ (∃ r ∈ s.tables.sectors.rows, r.val = .of x.1 x.2) ∧
      ∀ r ∈ s.tables.sectors.rows, r.val.sectorSymbol = k →
        r.val = .of x.1 x.2 ∨ r.val.computedAt.utc < x.1.utc

/-- A run that raises leaves the older evidence there. -/
theorem Stored.raised {s : SnapshotState} {e : PyException} (h : Stored settings weights cdf sectorSymbols runs s)
    (hclock : s.clock < run.moment.utc)
    (hcomputed : snapshotEvidence settings weights cdf sectorSymbols run = .error e) :
    Stored settings weights cdf sectorSymbols (runs ++ [run]) { s with clock := run.moment.utc } := by
  have hsame : ∀ k, lastEvidence settings weights cdf sectorSymbols (runs ++ [run]) k =
      lastEvidence settings weights cdf sectorSymbols runs k := by
    intro k
    rw [lastEvidence_concat, evidenceOn, hcomputed]
    rfl
  refine ⟨fun r hr => (h.later r hr).trans hclock.le,fun k hk => ?_,fun k x hk => ?_⟩
  · exact h.missing k ((hsame k).symm.trans hk)
  · exact h.newest k x ((hsame k).symm.trans hk)

/-- The rows that a run adds are the newest of their sectors. -/
theorem Stored.inserted {s : SnapshotState} {computed : MarketRegimeEvidence × List SectorEvidence}
    {regimes : Table MarketRegimeSnapshot} (h : Stored settings weights cdf sectorSymbols runs s)
    (hclock : s.clock < run.moment.utc)
    (hcomputed : snapshotEvidence settings weights cdf sectorSymbols run = .ok computed) :
    Stored settings weights cdf sectorSymbols (runs ++ [run])
      ⟨⟨regimes,SectorRrgSnapshotRepository.insertMany s.tables.sectors computed.2 run.moment⟩,
        run.moment.utc⟩ := by
  have hrows : ∀ r ∈ (SectorRrgSnapshotRepository.insertMany s.tables.sectors computed.2 run.moment).rows,
      (∃ r₀ ∈ s.tables.sectors.rows, r₀.val = r.val) ∨
        ∃ e ∈ computed.2, SectorRrgSnapshot.of run.moment e = r.val :=
    fun r hr => mem_insertMany.mp ⟨r,hr,rfl⟩
  have hlast (k : String) : lastEvidence settings weights cdf sectorSymbols (runs ++ [run]) k =
      ((computed.2.find? fun e => e.sectorSymbol = k).map fun e => (run.moment,e)).or
        (lastEvidence settings weights cdf sectorSymbols runs k) := by
    rw [lastEvidence_concat, evidenceOn, hcomputed]
  constructor
  · intro r hr
    rcases hrows r hr with ⟨r₀,hr₀,heq⟩ | ⟨e,-,heq⟩
    · rw [← heq]
      exact (h.later r₀ hr₀).trans hclock.le
    · rw [← heq]
      exact le_rfl
  · intro k hk r hr
    rw [hlast] at hk
    obtain ⟨hfind,hold⟩ := Option.or_eq_none_iff.mp hk
    rcases hrows r hr with ⟨r₀,hr₀,heq⟩ | ⟨e,he,heq⟩
    · rw [← heq]
      exact h.missing k hold r₀ hr₀
    · have hne : e.sectorSymbol ≠ k := by
        simpa using List.find?_eq_none.mp (Option.map_eq_none_iff.mp hfind) e he
      rw [← heq]
      exact hne
  · intro k x hk
    rw [hlast] at hk
    cases hfind : computed.2.find? fun e => e.sectorSymbol = k with
    | none =>
      rw [hfind] at hk
      obtain ⟨hkey,⟨r,hr,hval⟩,hrest⟩ := h.newest k x hk
      refine ⟨hkey,mem_insertMany.mpr (Or.inl ⟨r,hr,hval⟩),fun r hr hsector => ?_⟩
      rcases hrows r hr with ⟨r₀,hr₀,heq⟩ | ⟨e,he,heq⟩
      · rw [← heq] at hsector ⊢
        exact hrest r₀ hr₀ hsector
      · have hne : e.sectorSymbol ≠ k := by simpa using List.find?_eq_none.mp hfind e he
        rw [← heq] at hsector
        exact absurd hsector hne
    | some e =>
      rw [hfind] at hk
      cases hk
      have he := List.mem_of_find?_eq_some hfind
      have hkey : e.sectorSymbol = k := by simpa using List.find?_some hfind
      refine ⟨hkey,mem_insertMany.mpr (Or.inr ⟨e,he,rfl⟩),fun r hr hsector => ?_⟩
      rcases hrows r hr with ⟨r₀,hr₀,heq⟩ | ⟨e',he',heq⟩
      · rw [← heq]
        exact Or.inr ((h.later r₀ hr₀).trans_lt hclock)
      · rw [← heq] at hsector
        have hsame := evidence_unique hcomputed he' he (hsector.trans hkey.symm)
        exact Or.inl (heq.symm.trans (congrArg _ hsame))

theorem Stored.step {s t : SnapshotState} (h : Stored settings weights cdf sectorSymbols runs s)
    (hstep : (snapshots settings weights cdf sectorSymbols).step s run = some t) :
    Stored settings weights cdf sectorSymbols (runs ++ [run]) t := by
  change (if _ then _ else _) = _ at hstep
  split at hstep
  · rename_i hclock
    cases hcomputed : snapshotEvidence settings weights cdf sectorSymbols run with
    | error e =>
      rw [runSnapshot, hcomputed] at hstep
      cases hstep
      exact h.raised hclock hcomputed
    | ok computed =>
      rw [runSnapshot, hcomputed] at hstep
      cases hstep
      exact h.inserted hclock hcomputed
  · cases hstep

theorem stored_of_run {clock : ℤ} {s : SnapshotState}
    (hrun : (snapshots settings weights cdf sectorSymbols).Run ⟨SnapshotTables.empty,clock⟩ runs s) :
    Stored settings weights cdf sectorSymbols runs s :=
  hrun.history ⟨by simp [SnapshotTables.empty],by simp [SnapshotTables.empty],fun k x hk => by cases hk⟩
    fun _ _ _ _ _ hstored hstep => hstored.step hstep

open SectorRrgSnapshotRepository in
/-- The dashboard shows each sector once, by its symbol, and what it shows of a sector is the evidence of the
last run that had any: a run that raised, or had no data on the sector, leaves the older evidence there. -/
theorem latestBatch_exact {clock : ℤ} {s : SnapshotState}
    (hrun : (snapshots settings weights cdf sectorSymbols).Run ⟨SnapshotTables.empty,clock⟩ runs s)
    (partition scan : ScanOrder (Row SectorRrgSnapshot)) :
    let shown := getLatestBatch partition scan s.tables.sectors
    (shown.map fun r => r.val.sectorSymbol).Nodup ∧ shown.Pairwise BySector ∧
      ∀ k, (shown.find? fun r => r.val.sectorSymbol = k).map Row.val =
        (lastEvidence settings weights cdf sectorSymbols runs k).map fun x => .of x.1 x.2 := by
  intro shown
  have hstored := stored_of_run hrun
  have hperm := orderBy_perm scan BySector
    (firsts (fun r : Row SectorRrgSnapshot => r.val.sectorSymbol) (orderBy partition NewestFirst
      s.tables.sectors.rows))
  have hmem (r : Row SectorRrgSnapshot) (hr : r ∈ shown) : r ∈ s.tables.sectors.rows :=
    mem_orderBy.mp ((firsts_sublist _).subset (hperm.mem_iff.mp hr))
  refine ⟨(hperm.map _).nodup_iff.mpr (nodup_firsts _),List.pairwise_insertionSort BySector _,fun k => ?_⟩
  cases hlast : lastEvidence settings weights cdf sectorSymbols runs k with
  | none =>
    have hnone : (shown.find? fun r => r.val.sectorSymbol = k) = none := by
      refine List.find?_eq_none.mpr fun r hr => ?_
      simpa using hstored.missing k hlast r (hmem r hr)
    rw [hnone]
    rfl
  | some x =>
    obtain ⟨hkey,⟨newest,hnewest,hval⟩,hrest⟩ := hstored.newest k x hlast
    have hsector : newest.val.sectorSymbol = k := by
      rw [hval]
      exact hkey
    have hsorted : newest ∈ orderBy partition NewestFirst s.tables.sectors.rows := mem_orderBy.mpr hnewest
    have hvalue : ∀ r ∈ shown, r.val.sectorSymbol = k → r.val = .of x.1 x.2 := by
      intro r hr hrsector
      have hfirst : NewestFirst r newest :=
        le_of_mem_firsts (fun a => le_refl a.val.computedAt.utc) (List.pairwise_insertionSort NewestFirst _)
          (hperm.mem_iff.mp hr) hsorted (hsector.trans hrsector.symm)
      refine (hrest r (hmem r hr) hrsector).resolve_right fun holder => ?_
      have hle : newest.val.computedAt.utc ≤ r.val.computedAt.utc := hfirst
      rw [hval] at hle
      exact absurd hle (not_le.mpr holder)
    obtain ⟨r,hr,hrsector⟩ : ∃ r ∈ firsts (fun r : Row SectorRrgSnapshot => r.val.sectorSymbol)
      (orderBy partition NewestFirst s.tables.sectors.rows), r.val.sectorSymbol = newest.val.sectorSymbol :=
        exists_mem_firsts hsorted
    have hshown : (shown.find? fun r => r.val.sectorSymbol = k).isSome = true :=
      List.find?_isSome.mpr ⟨r,hperm.mem_iff.mpr hr,by simpa using hrsector.trans hsector⟩
    obtain ⟨found,hfound⟩ := Option.isSome_iff_exists.mp hshown
    have hfoundSector : found.val.sectorSymbol = k := by simpa using List.find?_some hfound
    rw [hfound, Option.map_some, Option.map_some,
      hvalue found (List.mem_of_find?_eq_some hfound) hfoundSector]

end Shown

/-- The tables before anything was collected. -/
def nothingCollected : BreadthView :=
  { indicesOnly with symbols := Table.empty, prices := Stamped.empty }

/-- A run with the bars of two indices, and one without. -/
def dataThenNone : List SnapshotRun :=
  [⟨⟨1000000,.minutes 0⟩,indicesOnly,indicesOnly⟩,⟨⟨2000000,.minutes 0⟩,nothingCollected,nothingCollected⟩]

theorem latestBatch_exact_dataThenNone :
    let _ := FloatMath.double
    let machine := snapshots {} {} (fun _ => 1/2) ["NIFTY IT"]
    ∃ s, machine.Run ⟨SnapshotTables.empty,0⟩ dataThenNone s ∧ s.tables.sectors.rows.length = 1 ∧
      let shown := SectorRrgSnapshotRepository.getLatestBatch (ScanOrder.insertion _) (ScanOrder.insertion _)
        s.tables.sectors
      (shown.map fun r => r.val.sectorSymbol).Nodup ∧ shown.Pairwise SectorRrgSnapshotRepository.BySector ∧
        ∀ k, (shown.find? fun r => r.val.sectorSymbol = k).map Row.val =
          (lastEvidence {} {} (fun _ => 1/2) ["NIFTY IT"] dataThenNone k).map fun x => .of x.1 x.2 := by
  intro _ machine
  obtain ⟨s,hrun,hrows⟩ := machine.exists_run_of_exec ⟨SnapshotTables.empty,0⟩ dataThenNone
    (fun s => decide (s.tables.sectors.rows.length = 1)) (by decide +kernel)
  exact ⟨s,hrun,of_decide_eq_true hrows,latestBatch_exact hrun _ _⟩

end MarketScanner.Analytics
