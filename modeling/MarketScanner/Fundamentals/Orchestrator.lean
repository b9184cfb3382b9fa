import MarketScanner.Library.KeepFirst
import MarketScanner.Fundamentals.Models

/-! `MultiSourceFundamentalProvider`: the merged answer of its sources, and the answer with a status
that the fundamental queue reads. -/
namespace MarketScanner.Fundamentals
open MarketScanner.Library MarketScanner.Python

/-- How a source responds to one request: it raises, or it hands back data or none. -/
inductive ProviderResponse
  | raised (error : String)
  | responded (data : Option FundamentalData) (status : FetchStatus) (error : Option String)

/-- A source, with or without the status-aware interface; both interfaces see one response. -/
structure FundamentalDataProvider where
  name : String
  statusAware : Bool
  fetch : String → ProviderResponse

namespace FundamentalDataProvider

/-- `get_fundamentals` of a source. -/
def getFundamentals (provider : FundamentalDataProvider) (symbol : String) :
    Except String (Option FundamentalData) :=
  match provider.fetch symbol with
  | .raised error => .error error
  | .responded data _ _ => .ok data

/-- What the status loop learns from a source: its data, status and error, after its own handling of
exceptions and of sources without statuses. -/
def withStatus (provider : FundamentalDataProvider) (symbol : String) :
    Option FundamentalData × FetchStatus × Option String :=
  if provider.statusAware then
    match provider.fetch symbol with
    | .raised error => (none,.failed,some error)
    | .responded data status error => (data,status,error)
  else
    match provider.getFundamentals symbol with
    | .ok (some data) => (some data,.success,none)
    | .ok none => (none,.failed,none)
    | .error error => (none,.failed,some error)

end FundamentalDataProvider

/-- One source in the loop of `_merge_field`: the first value is chosen, a later one that differs
from it becomes an alternate. -/
def mergeStep (field : FundamentalField)
    (state : Option FieldSnapshot × List (String × PyFloat)) (result : String × FundamentalData) :
    Option FieldSnapshot × List (String × PyFloat) :=
  match result.2.value field with
  | none => state
  | some value =>
    match state.1 with
    | none =>
      let providerSnapshot := result.2.snapshot field.name
      (some
        { fieldName := field.name
          value := some value
          source := match providerSnapshot with
            | some snapshot => snapshot.source
            | none => some result.1
          period := providerSnapshot.bind FieldSnapshot.period
          status := .available
          asOf := providerSnapshot.bind FieldSnapshot.asOf },state.2)
    | some chosen =>
      if (chosen.value.map value.eq).getD false then state
      else (state.1,state.2 ++ [(result.1,value)])

def mergeField (field : FundamentalField) (results : List (String × FundamentalData)) :
    Option FieldSnapshot :=
  let (chosen,alternates) := results.foldl (mergeStep field) (none,[])
  chosen.map fun snapshot => { snapshot with alternates }

/-- The union of the sources' risk notes, in order. -/
def mergeRiskNotes (results : List (String × FundamentalData)) : List String :=
  KeepFirst.addAll [] (results.flatMap fun result => result.2.riskNotes)

namespace MultiSourceFundamentalProvider

/-- The sources that have data, in priority order. -/
def responders (providers : List FundamentalDataProvider) (symbol : String) :
    List (String × FundamentalData) :=
  providers.filterMap fun provider =>
    match provider.getFundamentals symbol with
    | .ok (some data) => some (provider.name,data)
    | _ => none

def getFundamentals (providers : List FundamentalDataProvider) (symbol : String) :
    Option FundamentalData :=
  match responders providers symbol with
  | [] => none
  | results@((_,first)::_) =>
    some
      { symbol := symbol
        asOf := first.asOf
        value := fun field => (mergeField field results).bind FieldSnapshot.value
        riskNotes := mergeRiskNotes results
        fieldSnapshots := FundamentalField.mergeableFields.filterMap fun field =>
          (mergeField field results).map fun snapshot => (field.name,snapshot) }

/-- The loop of `get_fundamentals_with_status`, with the worst status seen so far. -/
def statusLoop (symbol : String) :
    List FundamentalDataProvider → FetchStatus → Option String →
      Option FundamentalData × FetchStatus × Option String
  | [], worstStatus, lastError => (none,worstStatus,lastError)
  | provider::rest, worstStatus, lastError =>
    match provider.withStatus symbol with
    | (some data,status,error) => (some data,status,error)
    | (none,status,error) =>
      if status = .rateLimited ∨ worstStatus ≠ .rateLimited then
        statusLoop symbol rest status error
      else statusLoop symbol rest worstStatus lastError

def getFundamentalsWithStatus (providers : List FundamentalDataProvider) (symbol : String) :
    Option FundamentalData × FetchStatus × Option String :=
  statusLoop symbol providers .failed none

end MultiSourceFundamentalProvider

section Spec
open MultiSourceFundamentalProvider

theorem withStatus_data (provider : FundamentalDataProvider) (symbol : String) :
    (provider.withStatus symbol).1 =
      match provider.getFundamentals symbol with
      | .ok data => data
      | .error _ => none := by
  unfold FundamentalDataProvider.withStatus FundamentalDataProvider.getFundamentals
  cases provider.statusAware with
  | true =>
    cases provider.fetch symbol <;> rfl
  | false =>
    cases provider.fetch symbol with
    | raised error => rfl
    | responded data status error => cases data <;> rfl

/-- The status path carries the data of the first source that has any. -/
theorem statusLoop_data (symbol : String) (providers : List FundamentalDataProvider)
    (worstStatus : FetchStatus) (lastError : Option String) :
    (statusLoop symbol providers worstStatus lastError).1 =
      (responders providers symbol).head?.map Prod.snd := by
  induction providers generalizing worstStatus lastError with
  | nil => rfl
  | cons provider rest ih =>
    have hdata := withStatus_data provider symbol
    unfold statusLoop responders
    rw [List.filterMap_cons]
    cases hstatus : provider.withStatus symbol with
    | mk data answer =>
      rw [hstatus] at hdata
      cases hget : provider.getFundamentals symbol with
      | error e =>
        rw [hget] at hdata
        obtain rfl : data = none := hdata
        simp only
        split <;> exact ih _ _
      | ok data' =>
        rw [hget] at hdata
        obtain rfl : data = data' := hdata
        cases data with
        | none =>
          simp only
          split <;> exact ih _ _
        | some d => rfl

theorem getFundamentalsWithStatus_data (providers : List FundamentalDataProvider) (symbol : String) :
    (getFundamentalsWithStatus providers symbol).1 =
      (responders providers symbol).head?.map Prod.snd :=
  statusLoop_data symbol providers .failed none

/-- Sources whose value differs from the chosen one, in order. -/
def alternatesOf (field : FundamentalField) (chosen : PyFloat)
    (results : List (String × FundamentalData)) : List (String × PyFloat) :=
  results.filterMap fun result =>
    match result.2.value field with
    | none => none
    | some value => if value.eq chosen then none else some (result.1,value)

theorem mergeStep_unreported (field : FundamentalField)
    (state : Option FieldSnapshot × List (String × PyFloat)) (result : String × FundamentalData)
    (h : result.2.value field = none) : mergeStep field state result = state := by
  simp [mergeStep, h]

/-- Once a value is chosen, a source can only add an alternate. -/
theorem mergeStep_chosen (field : FundamentalField) {snapshot : FieldSnapshot} {chosen : PyFloat}
    (hchosen : snapshot.value = some chosen) (alternates : List (String × PyFloat))
    (result : String × FundamentalData) :
    mergeStep field (some snapshot,alternates) result =
      (some snapshot,alternates ++ alternatesOf field chosen [result]) := by
  cases hvalue : result.2.value field with
  | none => simp [mergeStep, alternatesOf, hvalue]
  | some value =>
    by_cases heq : value.eq chosen = true
    · simp [mergeStep, alternatesOf, hvalue, hchosen, heq]
    · simp [mergeStep, alternatesOf, hvalue, hchosen, heq]

theorem alternatesOf_cons (field : FundamentalField) (chosen : PyFloat)
    (result : String × FundamentalData) (rest : List (String × FundamentalData)) :
    alternatesOf field chosen (result::rest) =
      alternatesOf field chosen [result] ++ alternatesOf field chosen rest := by
  rw [← List.singleton_append, alternatesOf, List.filterMap_append]
  rfl

theorem foldl_mergeStep_chosen (field : FundamentalField) {snapshot : FieldSnapshot}
    {chosen : PyFloat} (hchosen : snapshot.value = some chosen)
    (results : List (String × FundamentalData)) (alternates : List (String × PyFloat)) :
    results.foldl (mergeStep field) (some snapshot,alternates) =
      (some snapshot,alternates ++ alternatesOf field chosen results) := by
  induction results generalizing alternates with
  | nil => simp [alternatesOf]
  | cons result rest ih =>
    rw [List.foldl_cons, mergeStep_chosen field hchosen, ih,
      alternatesOf_cons field chosen result rest, List.append_assoc]

/-- The provenance the merge records for a field first reported by `source`, given the sources after
it. -/
def chosenSnapshot (field : FundamentalField) (source : String) (data : FundamentalData)
    (value : PyFloat) (rest : List (String × FundamentalData)) : FieldSnapshot where
  fieldName := field.name
  value := some value
  source := match data.snapshot field.name with
    | some snapshot => snapshot.source
    | none => some source
  period := (data.snapshot field.name).bind FieldSnapshot.period
  status := .available
  asOf := (data.snapshot field.name).bind FieldSnapshot.asOf
  alternates := alternatesOf field value rest

/-- A field is merged from the first source that reports it. -/
theorem mergeField_cons_some (field : FundamentalField) (source : String) (data : FundamentalData)
    (rest : List (String × FundamentalData)) {value : PyFloat} (h : data.value field = some value) :
    mergeField field ((source,data)::rest) =
      some (chosenSnapshot field source data value rest) := by
  have hfirst : mergeStep field (none,[]) (source,data) =
      (some (chosenSnapshot field source data value []),[]) := by
    simp [mergeStep, chosenSnapshot, alternatesOf, h]
  have hvalue : (chosenSnapshot field source data value []).value = some value := rfl
  unfold mergeField
  rw [List.foldl_cons, hfirst, foldl_mergeStep_chosen field hvalue]
  rfl

theorem mergeField_cons_none (field : FundamentalField) (source : String) (data : FundamentalData)
    (rest : List (String × FundamentalData)) (h : data.value field = none) :
    mergeField field ((source,data)::rest) = mergeField field rest := by
  unfold mergeField
  rw [List.foldl_cons, mergeStep_unreported field _ _ h]

/-- A field stays empty exactly when no source reports it. -/
theorem mergeField_value_none_iff (field : FundamentalField)
    (results : List (String × FundamentalData)) :
    (mergeField field results).bind FieldSnapshot.value = none ↔
      ∀ result ∈ results, result.2.value field = none := by
  induction results with
  | nil => simp [mergeField]
  | cons result rest ih =>
    obtain ⟨source,data⟩ := result
    cases h : data.value field with
    | none =>
      rw [mergeField_cons_none field source data rest h, ih]
      simp [h]
    | some value =>
      rw [mergeField_cons_some field source data rest h]
      simp [chosenSnapshot, h]

/-- Such a field has no provenance either. -/
theorem mergeField_eq_none (field : FundamentalField) (results : List (String × FundamentalData))
    (h : ∀ result ∈ results, result.2.value field = none) : mergeField field results = none := by
  induction results with
  | nil => rfl
  | cons result rest ih =>
    obtain ⟨hresult,hrest⟩ := List.forall_mem_cons.mp h
    rw [mergeField_cons_none field result.1 result.2 rest hresult]
    exact ih hrest

end Spec
end MarketScanner.Fundamentals
