import MarketScanner.Fundamentals.Agreement

/-! What the merged answer takes from each source: every field from the first source that reports it, with
its provenance and its alternates, and the risk notes of all of them. -/
namespace MarketScanner.Fundamentals
open MarketScanner.Library MarketScanner.Python MultiSourceFundamentalProvider

/-- The data a source hands back; one that raises hands back none. -/
def answer (provider : FundamentalDataProvider) (symbol : String) : Option FundamentalData :=
  match provider.getFundamentals symbol with
  | .ok data => data
  | .error _ => none

/-- What a source says of a field. -/
def reported (provider : FundamentalDataProvider) (symbol : String) (field : FundamentalField) :
    Option PyFloat :=
  (answer provider symbol).bind fun data => data.value field

/-- A field whose first value comes from `provider`, with the sources `after` it. -/
structure TakenFrom (symbol : String) (field : FundamentalField) (provider : FundamentalDataProvider)
    (own : FundamentalData) (value : PyFloat) (after : List FundamentalDataProvider)
    (data : FundamentalData) : Prop where
  first : data.value field = some value
  provenance : ∃ snapshot, data.snapshot field.name = some snapshot ∧ snapshot.value = some value ∧
    snapshot.source = (match own.snapshot field.name with
      | some ownSnapshot => ownSnapshot.source
      | none => some provider.name) ∧
    snapshot.alternates = after.filterMap fun later =>
      (reported later symbol field).bind fun other =>
        if other.eq value then none else some (later.name,other)

/-- A merged answer, field by field and note by note. -/
structure MergedOf (providers : List FundamentalDataProvider) (symbol : String)
    (data : FundamentalData) : Prop where
  unreported : ∀ field, (∀ provider ∈ providers, reported provider symbol field = none) →
    data.value field = none ∧ data.snapshot field.name = none
  taken : ∀ field before provider own value after, providers = before ++ provider::after →
    (∀ earlier ∈ before, reported earlier symbol field = none) →
    answer provider symbol = some own → own.value field = some value →
    TakenFrom symbol field provider own value after data
  noted : data.riskNotes.Nodup ∧ ∀ note, note ∈ data.riskNotes ↔
    ∃ provider ∈ providers, ∃ own, answer provider symbol = some own ∧ note ∈ own.riskNotes
  ordered : data.riskNotes.Pairwise fun a b =>
    let all := (providers.filterMap fun provider => answer provider symbol).flatMap
      FundamentalData.riskNotes
    all.idxOf a < all.idxOf b

/-- The whole law of the merge. -/
structure MergesByPriority (providers : List FundamentalDataProvider) (symbol : String) : Prop where
  merged : ∀ data, getFundamentals providers symbol = some data → MergedOf providers symbol data
  silent : ∀ before provider after, providers = before ++ provider::after →
    answer provider symbol = none →
    getFundamentals (before ++ after) symbol = getFundamentals providers symbol
  unanswered : getFundamentals providers symbol = none ↔
    ∀ provider ∈ providers, answer provider symbol = none

section Responders
variable (providers : List FundamentalDataProvider) (symbol : String) (field : FundamentalField)

theorem responders_eq :
    responders providers symbol = providers.filterMap fun provider =>
      (answer provider symbol).map fun data => (provider.name,data) := by
  unfold responders
  congr 1
  funext provider
  unfold answer
  rcases provider.getFundamentals symbol with error | (_ | data) <;> rfl

/-- A source without data leaves nothing in the loop. -/
theorem responders_of_silent (before after : List FundamentalDataProvider)
    (provider : FundamentalDataProvider) (h : answer provider symbol = none) :
    responders (before ++ after) symbol = responders (before ++ provider::after) symbol := by
  simp [responders_eq, h]

theorem responders_eq_nil_iff :
    responders providers symbol = [] ↔ ∀ provider ∈ providers, answer provider symbol = none := by
  simp [responders_eq, List.filterMap_eq_nil_iff]

theorem riskNotes_responders :
    ((responders providers symbol).flatMap fun result => result.2.riskNotes) =
      (providers.filterMap fun provider => answer provider symbol).flatMap
        FundamentalData.riskNotes := by
  rw [responders_eq]
  induction providers with
  | nil => rfl
  | cons provider rest ih => cases h : answer provider symbol <;> simp [h, ih]

theorem alternatesOf_responders (value : PyFloat) :
    alternatesOf field value (responders providers symbol) = providers.filterMap fun later =>
      (reported later symbol field).bind fun other =>
        if other.eq value then none else some (later.name,other) := by
  rw [responders_eq, alternatesOf, List.filterMap_filterMap]
  congr 1
  funext later
  unfold reported
  cases answer later symbol with
  | none => rfl
  | some data =>
    cases hvalue : data.value field <;> simp [hvalue]

theorem value_none_of_unreported (h : ∀ provider ∈ providers, reported provider symbol field = none) :
    ∀ result ∈ responders providers symbol, result.2.value field = none := by
  intro result hresult
  rw [responders_eq] at hresult
  obtain ⟨provider,hprovider,hanswer⟩ := List.mem_filterMap.mp hresult
  obtain ⟨data,hdata,rfl⟩ := Option.map_eq_some_iff.mp hanswer
  have hnone := h provider hprovider
  rwa [reported, hdata] at hnone

end Responders

/-- Sources that do not report a field are passed over. -/
theorem mergeField_append_of_none {field : FundamentalField}
    {silent results : List (String × FundamentalData)}
    (h : ∀ result ∈ silent, result.2.value field = none) :
    mergeField field (silent ++ results) = mergeField field results := by
  induction silent with
  | nil => rfl
  | cons result silent ih =>
    obtain ⟨hhead,htail⟩ := List.forall_mem_cons.mp h
    rw [List.cons_append, mergeField_cons_none field result.1 result.2 _ hhead]
    exact ih htail

section Answer
variable {providers : List FundamentalDataProvider} {symbol : String} {data : FundamentalData}

theorem getFundamentals_eq_none_iff :
    getFundamentals providers symbol = none ↔ responders providers symbol = [] := by
  unfold getFundamentals
  split <;> simp_all

/-- The merged answer holds what the loop over the responses gives for each field, and the union of the
notes. -/
theorem getFundamentals_spec (h : getFundamentals providers symbol = some data) :
    (∀ field, data.value field =
        (mergeField field (responders providers symbol)).bind FieldSnapshot.value) ∧
      (∀ field : FundamentalField, data.snapshot field.name =
        mergeField field (responders providers symbol)) ∧
      data.riskNotes = mergeRiskNotes (responders providers symbol) := by
  unfold getFundamentals at h
  split at h
  · cases h
  · rename_i source first rest hresults
    obtain rfl := Option.some.inj h
    rw [hresults]
    exact ⟨fun field => rfl,snapshot_merged symbol source first rest,rfl⟩

theorem takenFrom_of_first (h : getFundamentals providers symbol = some data)
    {field : FundamentalField} {before after : List FundamentalDataProvider}
    {provider : FundamentalDataProvider} {own : FundamentalData} {value : PyFloat}
    (hsplit : providers = before ++ provider::after)
    (hbefore : ∀ earlier ∈ before, reported earlier symbol field = none)
    (hown : answer provider symbol = some own) (hvalue : own.value field = some value) :
    TakenFrom symbol field provider own value after data := by
  obtain ⟨hvalues,hsnapshots,-⟩ := getFundamentals_spec h
  have hresults : responders providers symbol =
      responders before symbol ++ (provider.name,own)::responders after symbol := by
    rw [hsplit]
    simp [responders_eq, hown]
  have hmerged : mergeField field (responders providers symbol) =
      some (chosenSnapshot field provider.name own value (responders after symbol)) := by
    rw [hresults, mergeField_append_of_none (value_none_of_unreported before symbol field hbefore),
      mergeField_cons_some field _ _ _ hvalue]
  constructor
  · rw [hvalues field, hmerged]
    rfl
  · refine ⟨_,(hsnapshots field).trans hmerged,rfl,rfl,?_⟩
    exact alternatesOf_responders after symbol field value

theorem mergedOf_getFundamentals (h : getFundamentals providers symbol = some data) :
    MergedOf providers symbol data := by
  obtain ⟨hvalues,hsnapshots,hnotes⟩ := getFundamentals_spec h
  rw [mergeRiskNotes, riskNotes_responders] at hnotes
  constructor
  · intro field hnone
    have hmerged := mergeField_eq_none field _ (value_none_of_unreported providers symbol field hnone)
    exact ⟨by rw [hvalues field, hmerged]; rfl,by rw [hsnapshots field, hmerged]⟩
  · intro field before provider own value after hsplit hbefore hown hvalue
    exact takenFrom_of_first h hsplit hbefore hown hvalue
  · rw [hnotes]
    refine ⟨KeepFirst.nodup_addAll List.nodup_nil _,fun note => ?_⟩
    simp [KeepFirst.mem_addAll]
    grind
  · rw [hnotes]
    exact KeepFirst.pairwise_idxOf_addAll _

end Answer

/-- For every priority list and every combination of responses. -/
theorem mergesByPriority (providers : List FundamentalDataProvider) (symbol : String) :
    MergesByPriority providers symbol where
  merged data h := mergedOf_getFundamentals h
  silent := by
    rintro before provider after rfl hsilent
    unfold getFundamentals
    rw [responders_of_silent symbol before after provider hsilent]
  unanswered := getFundamentals_eq_none_iff.trans (responders_eq_nil_iff providers symbol)

end MarketScanner.Fundamentals
