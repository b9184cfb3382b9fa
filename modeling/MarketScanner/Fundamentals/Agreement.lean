import MarketScanner.Fundamentals.Orchestrator

/-! The two answers of `MultiSourceFundamentalProvider` compared: the merged one, and the one that
the fundamental queue stores. -/
namespace MarketScanner.Fundamentals
open MarketScanner.Library MarketScanner.Python

/-- Equality field by field; the snapshot dictionaries are compared key by key. -/
structure SameData (a b : FundamentalData) : Prop where
  symbol : a.symbol = b.symbol
  asOf : a.asOf = b.asOf
  value : ∀ field, a.value field = b.value field
  riskNotes : a.riskNotes = b.riskNotes
  snapshot : ∀ key, a.snapshot key = b.snapshot key

/-- A source's snapshot of a field already says what the merge would record about it. -/
structure Recorded (field : FundamentalField) (reported : PyFloat)
    (rest : List (String × FundamentalData)) (snapshot : FieldSnapshot) : Prop where
  fieldName : snapshot.fieldName = field.name
  value : snapshot.value = some reported
  status : snapshot.status = .available
  alternates : snapshot.alternates = alternatesOf field reported rest

/-- The first source with data leaves nothing for the sources after it to add. -/
structure Suffices (symbol : String) (data : FundamentalData)
    (rest : List (String × FundamentalData)) : Prop where
  symbol : data.symbol = symbol
  values : ∀ field, data.value field = none → ∀ result ∈ rest, result.2.value field = none
  notes : data.riskNotes.Nodup ∧ ∀ result ∈ rest, ∀ note ∈ result.2.riskNotes, note ∈ data.riskNotes
  recorded : ∀ field value, data.value field = some value →
    ∃ snapshot, data.snapshot field.name = some snapshot ∧ Recorded field value rest snapshot
  unreported : ∀ field, data.value field = none → data.snapshot field.name = none
  otherKeys : ∀ key, (∀ field : FundamentalField, key ≠ field.name) → data.snapshot key = none

/-- `Suffices` for the sources that have data, in priority order. -/
def FirstSuffices (symbol : String) : List (String × FundamentalData) → Prop
  | [] => True
  | (_,data)::rest => Suffices symbol data rest

theorem chosenSnapshot_eq_iff (field : FundamentalField) (source : String) (data : FundamentalData)
    (value : PyFloat) (rest : List (String × FundamentalData)) :
    data.snapshot field.name = some (chosenSnapshot field source data value rest) ↔
      ∃ snapshot, data.snapshot field.name = some snapshot ∧ Recorded field value rest snapshot := by
  constructor
  · intro h
    exact ⟨_,h,rfl,rfl,rfl,rfl⟩
  · rintro ⟨snapshot,h,hrec⟩
    obtain ⟨hname,hvalue,hstatus,halternates⟩ := hrec
    rw [h]
    unfold chosenSnapshot
    rw [h, ← hname, ← hvalue, ← hstatus, ← halternates]
    rfl

section Merged
open MultiSourceFundamentalProvider
variable (symbol source : String) (data : FundamentalData) (rest : List (String × FundamentalData))

/-- The merged answer when the first source with data is `source`. -/
def merged : FundamentalData where
  symbol := symbol
  asOf := data.asOf
  value := fun field => (mergeField field ((source,data)::rest)).bind FieldSnapshot.value
  riskNotes := mergeRiskNotes ((source,data)::rest)
  fieldSnapshots := FundamentalField.mergeableFields.filterMap fun field =>
    (mergeField field ((source,data)::rest)).map fun snapshot => (field.name,snapshot)

theorem snapshot_merged (field : FundamentalField) :
    (merged symbol source data rest).snapshot field.name =
      mergeField field ((source,data)::rest) := by
  refine (lookup_fieldName _ field _).trans ?_
  rw [if_pos (FundamentalField.mem_mergeableFields field)]

theorem snapshot_merged_otherKey {key : String}
    (hkey : ∀ field : FundamentalField, key ≠ field.name) :
    (merged symbol source data rest).snapshot key = none :=
  lookup_otherKey _ hkey _

variable {data}

theorem value_merged_of_some {field : FundamentalField} {value : PyFloat}
    (h : data.value field = some value) :
    (merged symbol source data rest).value field = some value := by
  change (mergeField field ((source,data)::rest)).bind FieldSnapshot.value = some value
  rw [mergeField_cons_some field source data rest h]
  rfl

theorem value_merged_of_none {field : FundamentalField} (h : data.value field = none) :
    (merged symbol source data rest).value field = none ↔
      ∀ result ∈ rest, result.2.value field = none := by
  change (mergeField field ((source,data)::rest)).bind FieldSnapshot.value = none ↔ _
  rw [mergeField_cons_none field source data rest h]
  exact mergeField_value_none_iff field rest

/-- The union of the notes is the first source's list exactly when that has no duplicate and the
others add none. -/
theorem riskNotes_merged_iff :
    data.riskNotes = (merged symbol source data rest).riskNotes ↔
      data.riskNotes.Nodup ∧
        ∀ result ∈ rest, ∀ note ∈ result.2.riskNotes, note ∈ data.riskNotes := by
  rw [eq_comm]
  change KeepFirst.addAll [] (data.riskNotes ++ rest.flatMap fun result => result.2.riskNotes) =
    data.riskNotes ↔ _
  rw [KeepFirst.addAll_append_eq_iff]
  simp only [List.mem_flatMap]
  constructor
  · rintro ⟨hnodup,hmem⟩
    exact ⟨hnodup,fun result hresult note hnote => hmem note ⟨result,hresult,hnote⟩⟩
  · rintro ⟨hnodup,hmem⟩
    exact ⟨hnodup,fun note ⟨result,hresult,hnote⟩ => hmem result hresult note hnote⟩

theorem snapshot_merged_of_some {field : FundamentalField} {value : PyFloat}
    (h : data.value field = some value) :
    data.snapshot field.name = (merged symbol source data rest).snapshot field.name ↔
      ∃ snapshot, data.snapshot field.name = some snapshot ∧ Recorded field value rest snapshot := by
  rw [snapshot_merged, mergeField_cons_some field source data rest h]
  exact chosenSnapshot_eq_iff field source data value rest

/-- Where no source reports a field, the merge has no snapshot of it. -/
theorem snapshot_merged_of_none {field : FundamentalField} (h : data.value field = none)
    (hrest : ∀ result ∈ rest, result.2.value field = none) :
    (merged symbol source data rest).snapshot field.name = none := by
  rw [snapshot_merged, mergeField_cons_none field source data rest h]
  exact mergeField_eq_none field rest hrest

theorem sameData_merged_iff :
    SameData data (merged symbol source data rest) ↔ Suffices symbol data rest := by
  constructor
  · intro h
    have hvalues : ∀ field, data.value field = none →
        ∀ result ∈ rest, result.2.value field = none := by
      intro field hnone
      apply (value_merged_of_none symbol source rest hnone).mp
      rw [← h.value field, hnone]
    refine ⟨h.symbol,hvalues,(riskNotes_merged_iff symbol source rest).mp h.riskNotes,?_,?_,?_⟩
    · intro field value hvalue
      exact (snapshot_merged_of_some symbol source rest hvalue).mp (h.snapshot field.name)
    · intro field hnone
      rw [h.snapshot field.name]
      exact snapshot_merged_of_none symbol source rest hnone (hvalues field hnone)
    · intro key hkey
      rw [h.snapshot key]
      exact snapshot_merged_otherKey symbol source data rest hkey
  · intro h
    refine ⟨h.symbol,rfl,?_,(riskNotes_merged_iff symbol source rest).mpr h.notes,?_⟩
    · intro field
      cases hvalue : data.value field with
      | none => exact ((value_merged_of_none symbol source rest hvalue).mpr
          (h.values field hvalue)).symm
      | some value => exact (value_merged_of_some symbol source rest hvalue).symm
    · intro key
      by_cases hkey : ∃ field : FundamentalField, key = field.name
      · obtain ⟨field,rfl⟩ := hkey
        cases hvalue : data.value field with
        | none =>
          rw [h.unreported field hvalue]
          exact (snapshot_merged_of_none symbol source rest hvalue (h.values field hvalue)).symm
        | some value =>
          exact (snapshot_merged_of_some symbol source rest hvalue).mpr
            (h.recorded field value hvalue)
      · have hkey : ∀ field : FundamentalField, key ≠ field.name := fun field hfield =>
          hkey ⟨field,hfield⟩
        rw [h.otherKeys key hkey, snapshot_merged_otherKey symbol source data rest hkey]

end Merged

open MultiSourceFundamentalProvider

/-- The two paths carry the same data exactly when the first source with data suffices. -/
theorem sameAnswer_iff (providers : List FundamentalDataProvider) (symbol : String) :
    Option.Rel SameData (getFundamentalsWithStatus providers symbol).1
        (getFundamentals providers symbol) ↔
      FirstSuffices symbol (responders providers symbol) := by
  rw [getFundamentalsWithStatus_data]
  unfold getFundamentals
  cases responders providers symbol with
  | nil =>
    constructor
    · intro _
      exact trivial
    · intro _
      exact Option.Rel.none
  | cons result rest =>
    obtain ⟨source,data⟩ := result
    exact Option.rel_some_some.trans (sameData_merged_iff symbol source rest)

/-- The sources as `main.py` lists them, with the first one reporting no shareholding. -/
def splitSources : List FundamentalDataProvider :=
  [{ name := "upstox"
     statusAware := true
     fetch := fun symbol => .responded
      (some
        { symbol
          value := fun field => if field = .pe then some (.finite 21) else none })
      .success none },
   { name := "trendlyne_mcp"
     statusAware := true
     fetch := fun symbol => .responded
      (some
        { symbol
          value := fun field =>
            if field = .promoterHoldingPct then some (.finite 50) else none })
      .success none }]

/-- The queue's path drops the shareholding that the merge takes from the second source. -/
theorem splitSources_disagree :
    ¬ Option.Rel SameData (getFundamentalsWithStatus splitSources "RELIANCE").1
        (getFundamentals splitSources "RELIANCE") := by
  intro h
  have hvalue := (Option.rel_some_some.mp h).value .promoterHoldingPct
  revert hvalue
  decide +kernel

end MarketScanner.Fundamentals
