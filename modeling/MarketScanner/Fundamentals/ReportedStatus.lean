import MarketScanner.Fundamentals.UpstoxProvider

/-! Whether the status that is reported of a fetch matches what was obtained. Two of the three statements
count as populated by a value, the income statement by a period. -/
namespace MarketScanner.Fundamentals.UpstoxProvider
open MarketScanner.Library MarketScanner.Python MarketScanner.Universe

/-! ### What the statements hold -/

/-- The named first entries of a statement. -/
def entries (payload : Dict) (key : String) : List (PyValue × Dict) :=
  (elements (payload.get key)).filterMap latestOf

/-- An entry of a category that is mapped to a field. -/
def IncomeMapped (entry : PyValue × Dict) : Prop :=
  entry.1.eqStr "revenue" = true ∨ entry.1.eqStr "net_profit" = true

def EntryHasNumber (entry : PyValue × Dict) : Prop := isNumber (Dict.get entry.2 "value") = true

/-- The number of an entry is an int past the floats. -/
def EntryOverflows (entry : PyValue × Dict) : Prop :=
  toFloat (Dict.get entry.2 "value") = .error .overflow

def OperatingNumber (entry : PyValue × Dict) : Bool :=
  entry.1.eqStr "operating" && isNumber (Dict.get entry.2 "value")

def IncomeSets (payload : Dict) : Prop :=
  ∃ entry ∈ entries payload "income_statement", IncomeMapped entry ∧ EntryHasNumber entry

/-- A period of the income statement can be read. -/
def IncomeDated (strptime : String → Option Date) (payload : Dict) : Prop :=
  ∃ entry ∈ entries payload "income_statement",
    parsePeriod strptime (Dict.get entry.2 "period") ≠ none

def IncomeOverflows (payload : Dict) : Prop :=
  ∃ entry ∈ entries payload "income_statement", IncomeMapped entry ∧ EntryOverflows entry

def CashFlowSets (payload : Dict) : Prop :=
  ∃ entry ∈ entries payload "cash_flow", OperatingNumber entry = true

/-- The operating number that would be taken overflows. -/
def CashFlowOverflows (payload : Dict) : Prop :=
  ∃ entry, (entries payload "cash_flow").find? OperatingNumber = some entry ∧ EntryOverflows entry

def KeyRatiosSet [Builtins] (payload : List PyValue) : Prop := ∃ row ∈ payload, ratioOf row ≠ none

/-- Some field of the record is set. -/
def HasValue (data : FundamentalData) : Prop := ∃ field, data.value field ≠ none

/-! ### The parsers -/

theorem hasValue_set (data : FundamentalData) (field : FundamentalField) (x : PyFloat) :
    HasValue (set data field x) := ⟨field,by simp [set]⟩

theorem overflows_isNumber {v : PyValue} (h : toFloat v = .error .overflow) : isNumber v = true := by
  cases v with
  | int n => rfl
  | bool b => rfl
  | float x => rfl
  | none => cases h
  | str s => cases h
  | list xs => cases h
  | dict kvs => cases h

/-- A conversion gives a float or overflows. -/
theorem toFloat_cases (v : PyValue) : toFloat v = .error .overflow ∨ ∃ x, toFloat v = .ok x := by
  cases v with
  | int n =>
    rw [toFloat]
    cases PyFloat.ofInt n with
    | none => exact .inl rfl
    | some x => exact .inr ⟨x,rfl⟩
  | bool b => exact .inr ⟨_,rfl⟩
  | float x => exact .inr ⟨_,rfl⟩
  | none => exact .inr ⟨_,rfl⟩
  | str s => exact .inr ⟨_,rfl⟩
  | list xs => exact .inr ⟨_,rfl⟩
  | dict kvs => exact .inr ⟨_,rfl⟩

theorem isSome_laterPeriod (a b : Option Date) :
    (laterPeriod a b).isSome = true ↔ a.isSome = true ∨ b.isSome = true := by
  unfold laterPeriod
  cases a with
  | none => cases b <;> simp
  | some l =>
    cases b with
    | none => simp
    | some d => by_cases hlt : l < d <;> simp [hlt]

section Income
variable (strptime : String → Option Date)

/-- The turn of a category: it overflows, or it sets a field just where it holds a number that is mapped,
and dates the statement just where its period can be read. -/
theorem incomeCategory_cases (s : FundamentalData × Option Date) {category : PyValue}
    {entry : PyValue × Dict} (hentry : latestOf category = some entry) :
    (IncomeMapped entry ∧ EntryOverflows entry ∧
      incomeCategory strptime s category = .error .overflow) ∨
    ¬(IncomeMapped entry ∧ EntryOverflows entry) ∧
      ∃ t, incomeCategory strptime s category = .ok t ∧
        (HasValue t.1 ↔ HasValue s.1 ∨ IncomeMapped entry ∧ EntryHasNumber entry) ∧
        t.2 = laterPeriod s.2 (parsePeriod strptime (Dict.get entry.2 "period")) := by
  obtain ⟨name,latest⟩ := entry
  unfold incomeCategory IncomeMapped EntryOverflows EntryHasNumber
  rw [hentry]
  dsimp only
  cases hnumber : isNumber (Dict.get latest "value") with
  | false =>
    refine .inr ⟨fun h => ?_,_,rfl,by simp,rfl⟩
    rw [overflows_isNumber h.2] at hnumber
    cases hnumber
  | true =>
    rcases toFloat_cases (Dict.get latest "value") with hover | ⟨x,hx⟩
    · cases hrevenue : name.eqStr "revenue" with
      | true => exact .inl ⟨.inl rfl,hover,by simp [hover, Except.map]⟩
      | false =>
        cases hprofit : name.eqStr "net_profit" with
        | true => exact .inl ⟨.inr rfl,hover,by simp [hover, Except.map]⟩
        | false => exact .inr ⟨by simp,_,rfl,by simp,rfl⟩
    · have hfine : ∀ mapped : Prop, ¬(mapped ∧ toFloat (Dict.get latest "value") = .error .overflow) := by
        rintro mapped ⟨-,hover⟩
        rw [hx] at hover
        cases hover
      refine .inr ⟨hfine _,?_⟩
      cases hrevenue : name.eqStr "revenue" with
      | true => exact ⟨_,by simp [hx, Except.map]; rfl,by simp [hasValue_set],rfl⟩
      | false =>
        cases hprofit : name.eqStr "net_profit" with
        | true => exact ⟨_,by simp [hx, Except.map]; rfl,by simp [hasValue_set],rfl⟩
        | false => exact ⟨_,rfl,by simp,rfl⟩

theorem foldlM_incomeCategory (categories : List PyValue) (s : FundamentalData × Option Date) :
    ((∃ entry ∈ categories.filterMap latestOf, IncomeMapped entry ∧ EntryOverflows entry) ∧
      categories.foldlM (incomeCategory strptime) s = .error .overflow) ∨
    (¬∃ entry ∈ categories.filterMap latestOf, IncomeMapped entry ∧ EntryOverflows entry) ∧
      ∃ t, categories.foldlM (incomeCategory strptime) s = .ok t ∧
        (HasValue t.1 ↔ HasValue s.1 ∨
          ∃ entry ∈ categories.filterMap latestOf, IncomeMapped entry ∧ EntryHasNumber entry) ∧
        (t.2.isSome = true ↔ s.2.isSome = true ∨
          ∃ entry ∈ categories.filterMap latestOf,
            parsePeriod strptime (Dict.get entry.2 "period") ≠ none) := by
  induction categories generalizing s with
  | nil => exact .inr ⟨by simp,s,rfl,by simp,by simp⟩
  | cons category rest ih =>
    rw [List.foldlM_cons, List.filterMap_cons]
    cases hentry : latestOf category with
    | none =>
      have hskip : incomeCategory strptime s category = .ok s := by
        rw [incomeCategory, hentry]
      rw [hskip]
      exact ih s
    | some entry =>
      simp only [List.mem_cons, exists_eq_or_imp]
      rcases incomeCategory_cases strptime s hentry with ⟨hmapped,hover,herror⟩ | ⟨hfine,t,ht,hvalue,hperiod⟩
      · rw [herror]
        exact .inl ⟨.inl ⟨hmapped,hover⟩,rfl⟩
      · rw [ht]
        have hdated : t.2.isSome = true ↔ s.2.isSome = true ∨
            parsePeriod strptime (Dict.get entry.2 "period") ≠ none := by
          rw [hperiod, isSome_laterPeriod, ← Option.isSome_iff_ne_none]
        rcases ih t with ⟨hover,herror⟩ | ⟨hrest,u,hu,huvalue,huperiod⟩
        · exact .inl ⟨.inr hover,herror⟩
        · refine .inr ⟨not_or.mpr ⟨hfine,hrest⟩,u,hu,?_,?_⟩
          · rw [huvalue, hvalue, or_assoc]
          · rw [huperiod, hdated, or_assoc]

end Income

/-- The cash flow: the number that is taken overflows, or a field is set just where there is one. -/
theorem cashFlowCategories_cases (data : FundamentalData) (categories : List PyValue) :
    ((∃ entry, (categories.filterMap latestOf).find? OperatingNumber = some entry ∧ EntryOverflows entry) ∧
      cashFlowCategories data categories = .error .overflow) ∨
    (¬∃ entry, (categories.filterMap latestOf).find? OperatingNumber = some entry ∧ EntryOverflows entry) ∧
      ∃ t, cashFlowCategories data categories = .ok t ∧
        (t.2 = true ↔ ∃ entry ∈ categories.filterMap latestOf, OperatingNumber entry = true) ∧
        (HasValue t.1 ↔ HasValue data ∨ t.2 = true) := by
  induction categories with
  | nil => exact .inr ⟨by simp,_,rfl,by simp,by simp⟩
  | cons category rest ih =>
    rw [cashFlowCategories, List.filterMap_cons]
    cases hentry : latestOf category with
    | none => exact ih
    | some entry =>
      have hcondition : (entry.1.eqStr "operating" && isNumber (Dict.get entry.2 "value")) =
        OperatingNumber entry := rfl
      dsimp only
      rw [hcondition, List.find?_cons]
      simp only [List.mem_cons, exists_eq_or_imp]
      cases hoperating : OperatingNumber entry with
      | false => simpa using ih
      | true =>
        rcases toFloat_cases (Dict.get entry.2 "value") with hover | ⟨x,hx⟩
        · exact .inl ⟨⟨entry,rfl,hover⟩,by simp [hover, Except.map]⟩
        · refine .inr ⟨?_,_,by simp [hx, Except.map]; rfl,by simp,by simp [hasValue_set]⟩
          rintro ⟨_,⟨⟩,hover⟩
          rw [EntryOverflows, hx] at hover
          cases hover

theorem applyKeyRatios_spec [Builtins] (data : FundamentalData) (payload : List PyValue) :
    ((applyKeyRatios data payload).2 = true ↔ KeyRatiosSet payload) ∧
      (HasValue (applyKeyRatios data payload).1 ↔ HasValue data ∨ KeyRatiosSet payload) := by
  unfold applyKeyRatios KeyRatiosSet
  suffices h : ∀ s : FundamentalData × Bool,
      ((payload.foldl (fun s row => (ratioOf row).elim s fun ratio => (set s.1 ratio.1 ratio.2,true))
        s).2 = true ↔ s.2 = true ∨ ∃ row ∈ payload, ratioOf row ≠ none) ∧
      (HasValue (payload.foldl (fun s row => (ratioOf row).elim s fun ratio =>
        (set s.1 ratio.1 ratio.2,true)) s).1 ↔ HasValue s.1 ∨ ∃ row ∈ payload, ratioOf row ≠ none) by
    simpa using h (data,false)
  induction payload with
  | nil => simp
  | cons row rest ih =>
    intro s
    rw [List.foldl_cons]
    obtain ⟨hpopulated,hvalue⟩ := ih ((ratioOf row).elim s fun ratio => (set s.1 ratio.1 ratio.2,true))
    rw [hpopulated, hvalue]
    cases hratio : ratioOf row with
    | none => simp [hratio]
    | some ratio => simp [hratio, hasValue_set]

/-! ### The three calls -/

def dictPayload (outcome : FetchOutcome) : Option Dict :=
  match outcome.payload with
  | some (.dict payload) => some payload
  | _ => none

def listPayload (outcome : FetchOutcome) : Option (List PyValue) :=
  match outcome.payload with
  | some (.list payload) => some payload
  | _ => none

/-- The payload of a call, where it has the shape the statement is read from, has a property. -/
def OfPayload {α : Type*} (payload : Option α) (P : α → Prop) : Prop := ∃ p, payload = some p ∧ P p

theorem get_rateLimited_iff (reply : Except String HttpResponse) :
    (get reply).rateLimited = true ↔ ∃ r, reply = .ok r ∧ r.statusCode = 429 := by
  cases reply with
  | error text => simp [get]
  | ok r =>
    simp only [get, Except.ok.injEq, exists_eq_left']
    by_cases h404 : r.statusCode = 404
    · simp [h404]
    · by_cases h429 : r.statusCode = 429
      · simp [h429]
      · by_cases h200 : r.statusCode = 200
        · rw [if_neg h404, if_neg h429, if_neg (not_not.mpr h200)]
          cases r.json with
          | none => simp [h429]
          | some body =>
            dsimp only
            split
            · simp [h429]
            · split <;> simp [h429]
        · simp [h404, h429, h200]

/-- A call that was rate limited has no payload. -/
theorem payload_of_rateLimited {reply : Except String HttpResponse}
    (h : (get reply).rateLimited = true) : (get reply).payload = none := by
  obtain ⟨r,rfl,h429⟩ := (get_rateLimited_iff reply).mp h
  simp [get, h429]

/-- What a call does to the local variables, besides the errors it notes. -/
structure Gathers (g g' : Gathered) (reply : Except String HttpResponse) (sets populates : Prop) :
    Prop where
  value : HasValue g'.data ↔ HasValue g.data ∨ sets
  populated : g'.populated = true ↔ g.populated = true ∨ populates
  limited : g'.anyRateLimited = true ↔ g.anyRateLimited = true ∨ (get reply).rateLimited = true

theorem gathers_note {g : Gathered} {reply : Except String HttpResponse} {sets populates : Prop}
    (hsets : ¬sets) (hpopulates : ¬populates) :
    Gathers g (g.note (get reply)) reply sets populates := by
  unfold Gathered.note
  cases hlimited : (get reply).rateLimited with
  | true => exact ⟨by simp [hsets],by simp [hpopulates],by simp [hlimited]⟩
  | false => exact ⟨by simp [hsets],by simp [hpopulates],by simp [hlimited]⟩

variable {strptime : String → Option Date}

theorem gatherIncomeStatement_eq (g : Gathered) (outcome : FetchOutcome) :
    gatherIncomeStatement strptime g outcome = (dictPayload outcome).elim (.ok (g.note outcome))
      fun payload => (applyIncomeStatement strptime g.data payload).map fun t =>
        { g with
          data := { t.1 with asOf := t.2.or t.1.asOf }
          populated := g.populated || t.2.isSome } := by
  rcases outcome with ⟨_ | payload,limited,error⟩
  · rfl
  · cases payload <;> rfl

theorem gatherCashFlow_eq (g : Gathered) (outcome : FetchOutcome) :
    gatherCashFlow g outcome = (dictPayload outcome).elim (.ok (g.note outcome))
      fun payload => (applyCashFlow g.data payload).map fun t =>
        { g with
          data := t.1
          populated := g.populated || t.2 } := by
  rcases outcome with ⟨_ | payload,limited,error⟩
  · rfl
  · cases payload <;> rfl

theorem gatherKeyRatios_eq [Builtins] (g : Gathered) (outcome : FetchOutcome) :
    gatherKeyRatios g outcome = (listPayload outcome).elim (g.note outcome) fun payload =>
      { g with
        data := (applyKeyRatios g.data payload).1
        populated := g.populated || (applyKeyRatios g.data payload).2 } := by
  rcases outcome with ⟨_ | payload,limited,error⟩
  · rfl
  · cases payload <;> rfl

/-- A call that brought a payload was not rate limited. -/
theorem not_limited_of_dict {reply : Except String HttpResponse} {payload : Dict}
    (h : dictPayload (get reply) = some payload) : (get reply).rateLimited = false := by
  rw [Bool.eq_false_iff]
  intro hlimited
  rw [dictPayload, payload_of_rateLimited hlimited] at h
  cases h

theorem not_limited_of_list {reply : Except String HttpResponse} {payload : List PyValue}
    (h : listPayload (get reply) = some payload) : (get reply).rateLimited = false := by
  rw [Bool.eq_false_iff]
  intro hlimited
  rw [listPayload, payload_of_rateLimited hlimited] at h
  cases h

theorem gatherIncomeStatement_cases (strptime : String → Option Date) (g : Gathered) (reply : Except String HttpResponse) :
    (OfPayload (dictPayload (get reply)) IncomeOverflows ∧
      gatherIncomeStatement strptime g (get reply) = .error .overflow) ∨
    ¬OfPayload (dictPayload (get reply)) IncomeOverflows ∧
      ∃ g', gatherIncomeStatement strptime g (get reply) = .ok g' ∧
        Gathers g g' reply (OfPayload (dictPayload (get reply)) IncomeSets)
          (OfPayload (dictPayload (get reply)) (IncomeDated strptime)) := by
  rw [gatherIncomeStatement_eq]
  cases hpayload : dictPayload (get reply) with
  | none => exact .inr ⟨by simp [OfPayload],_,rfl,gathers_note (by simp [OfPayload]) (by simp [OfPayload])⟩
  | some payload =>
    simp only [OfPayload, Option.some_inj, exists_eq_left', Option.elim_some]
    rcases foldlM_incomeCategory strptime (elements (Dict.get payload "income_statement")) (g.data,none)
      with ⟨hover,herror⟩ | ⟨hfine,t,ht,hvalue,hperiod⟩
    · exact .inl ⟨hover,by rw [applyIncomeStatement, herror]; rfl⟩
    · refine .inr ⟨hfine,_,by rw [applyIncomeStatement, ht]; rfl,hvalue,?_,?_⟩
      · simpa [IncomeDated, entries] using or_congr_right hperiod
      · simp [not_limited_of_dict hpayload]

theorem gatherCashFlow_cases (g : Gathered) (reply : Except String HttpResponse) :
    (OfPayload (dictPayload (get reply)) CashFlowOverflows ∧
      gatherCashFlow g (get reply) = .error .overflow) ∨
    ¬OfPayload (dictPayload (get reply)) CashFlowOverflows ∧
      ∃ g', gatherCashFlow g (get reply) = .ok g' ∧
        Gathers g g' reply (OfPayload (dictPayload (get reply)) CashFlowSets)
          (OfPayload (dictPayload (get reply)) CashFlowSets) := by
  rw [gatherCashFlow_eq]
  cases hpayload : dictPayload (get reply) with
  | none => exact .inr ⟨by simp [OfPayload],_,rfl,gathers_note (by simp [OfPayload]) (by simp [OfPayload])⟩
  | some payload =>
    simp only [OfPayload, Option.some_inj, exists_eq_left', Option.elim_some]
    rcases cashFlowCategories_cases g.data (elements (Dict.get payload "cash_flow")) with
      ⟨hover,herror⟩ | ⟨hfine,t,ht,hpopulated,hvalue⟩
    · exact .inl ⟨hover,by rw [applyCashFlow, herror]; rfl⟩
    · refine .inr ⟨hfine,_,by rw [applyCashFlow, ht]; rfl,?_,?_,?_⟩
      · rw [hvalue, hpopulated]
        rfl
      · rw [Bool.or_eq_true, hpopulated]
        rfl
      · simp [not_limited_of_dict hpayload]

theorem gathers_keyRatios [Builtins] (g : Gathered) (reply : Except String HttpResponse) :
    Gathers g (gatherKeyRatios g (get reply)) reply (OfPayload (listPayload (get reply)) KeyRatiosSet)
      (OfPayload (listPayload (get reply)) KeyRatiosSet) := by
  rw [gatherKeyRatios_eq]
  cases hpayload : listPayload (get reply) with
  | none => exact gathers_note (by simp [OfPayload]) (by simp [OfPayload])
  | some payload =>
    simp only [OfPayload, Option.some_inj, exists_eq_left', Option.elim_some]
    obtain ⟨hpopulated,hvalue⟩ := applyKeyRatios_spec g.data payload
    refine ⟨hvalue,?_,?_⟩
    · rw [Bool.or_eq_true, hpopulated]
    · simp [not_limited_of_list hpayload]

/-! ### The status -/
section
variable [Builtins] (strptime) (symbol isin : String) (request : String → Except String HttpResponse)

/-- Some call was answered 429. -/
def SomeCallLimited : Prop :=
  ∃ path ∈ [incomeStatementPath isin,cashFlowPath isin,keyRatiosPath isin],
    ∃ r, request path = .ok r ∧ r.statusCode = 429

/-- The status is the one that what was stored in the record calls for. -/
structure StatusFits (data : FundamentalData) (limited : Prop)
    (result : Option FundamentalData × FetchStatus × Option String) : Prop where
  success : result.2.1 = .success ∧ result.1 = some data ↔ HasValue data
  rateLimited : result.2.1 = .rateLimited ↔ ¬HasValue data ∧ limited
  failed : result.2.1 = .failed ↔ ¬HasValue data ∧ ¬limited
  none_of_not_success : result.2.1 ≠ .success → result.1 = none

/-- The fetch returns, with a status that fits. -/
def StatusMatches (t : SymbolTable) : Prop :=
  ∃ g result, gather strptime symbol isin request = .ok g ∧
    getFundamentalsWithStatus strptime t symbol request = .ok result ∧
    StatusFits g.data (SomeCallLimited isin request) result

omit [Builtins] in
theorem statusFits_report_iff (g : Gathered) (limited : Prop)
    (hlimited : g.anyRateLimited = true ↔ limited) :
    StatusFits g.data limited (g.report symbol) ↔ (g.populated = true ↔ HasValue g.data) := by
  constructor
  · intro h
    rw [← h.success]
    unfold Gathered.report
    cases hpopulated : g.populated with
    | true => simp
    | false =>
      cases g.anyRateLimited with
      | true => simp
      | false => by_cases herrors : g.errors = [] <;> simp [herrors]
  · intro h
    unfold Gathered.report
    cases hpopulated : g.populated with
    | true =>
      have hvalue : HasValue g.data := h.mp hpopulated
      exact ⟨by simp [hvalue],by simp [hvalue],by simp [hvalue],by simp⟩
    | false =>
      have hvalue : ¬HasValue g.data := fun hvalue => by simp [h.mpr hvalue] at hpopulated
      cases hany : g.anyRateLimited with
      | true =>
        have hlim := hlimited.mp hany
        exact ⟨by simp [hvalue],by simp [hvalue, hlim],by simp [hlim],by simp⟩
      | false =>
        have hlim : ¬limited := fun hlim => by simp [hlimited.mpr hlim] at hany
        by_cases herrors : g.errors = []
        · exact ⟨by simp [hvalue, herrors],by simp [hlim, herrors],by simp [hvalue, hlim, herrors],
            by simp [herrors]⟩
        · exact ⟨by simp [hvalue, herrors],by simp [hlim, herrors],by simp [hvalue, hlim, herrors],
            by simp [herrors]⟩

/-- Nothing overflows, and either another statement sets a field, or the income statement sets one just
where a period of it can be read. -/
structure ValueAndPeriodTogether : Prop where
  income_fine : ¬OfPayload (dictPayload (get (request (incomeStatementPath isin)))) IncomeOverflows
  cashFlow_fine : ¬OfPayload (dictPayload (get (request (cashFlowPath isin)))) CashFlowOverflows
  agree : OfPayload (dictPayload (get (request (cashFlowPath isin)))) CashFlowSets ∨
    OfPayload (listPayload (get (request (keyRatiosPath isin)))) KeyRatiosSet ∨
    (OfPayload (dictPayload (get (request (incomeStatementPath isin)))) IncomeSets ↔
      OfPayload (dictPayload (get (request (incomeStatementPath isin)))) (IncomeDated strptime))

/-- The fetch raises where an int overflows, and otherwise its local variables are told by the
payloads. -/
theorem gather_cases :
    ((OfPayload (dictPayload (get (request (incomeStatementPath isin)))) IncomeOverflows ∨
        OfPayload (dictPayload (get (request (cashFlowPath isin)))) CashFlowOverflows) ∧
      gather strptime symbol isin request = .error .overflow) ∨
    ¬OfPayload (dictPayload (get (request (incomeStatementPath isin)))) IncomeOverflows ∧
    ¬OfPayload (dictPayload (get (request (cashFlowPath isin)))) CashFlowOverflows ∧
      ∃ g, gather strptime symbol isin request = .ok g ∧
        (HasValue g.data ↔ OfPayload (dictPayload (get (request (incomeStatementPath isin)))) IncomeSets ∨
          OfPayload (dictPayload (get (request (cashFlowPath isin)))) CashFlowSets ∨
          OfPayload (listPayload (get (request (keyRatiosPath isin)))) KeyRatiosSet) ∧
        (g.populated = true ↔
          OfPayload (dictPayload (get (request (incomeStatementPath isin)))) (IncomeDated strptime) ∨
          OfPayload (dictPayload (get (request (cashFlowPath isin)))) CashFlowSets ∨
          OfPayload (listPayload (get (request (keyRatiosPath isin)))) KeyRatiosSet) ∧
        (g.anyRateLimited = true ↔ SomeCallLimited isin request) := by
  have hempty : ¬HasValue { symbol : FundamentalData } := by
    rintro ⟨field,hfield⟩
    exact hfield rfl
  unfold gather
  rcases gatherIncomeStatement_cases strptime { data := { symbol } }
    (request (incomeStatementPath isin)) with ⟨hover,herror⟩ | ⟨hincome,g₁,h₁,hgathers₁⟩
  · rw [herror]
    exact .inl ⟨.inl hover,rfl⟩
  · rw [h₁]
    rcases gatherCashFlow_cases g₁ (request (cashFlowPath isin)) with
      ⟨hover,herror⟩ | ⟨hcash,g₂,h₂,hgathers₂⟩
    · dsimp only
      rw [herror]
      exact .inl ⟨.inr hover,rfl⟩
    · dsimp only
      rw [h₂]
      have hgathers₃ := gathers_keyRatios g₂ (request (keyRatiosPath isin))
      refine .inr ⟨hincome,hcash,_,rfl,?_,?_,?_⟩
      · rw [hgathers₃.value, hgathers₂.value, hgathers₁.value, or_assoc, or_assoc, or_iff_right hempty]
      · rw [hgathers₃.populated, hgathers₂.populated, hgathers₁.populated, or_assoc, or_assoc,
          or_iff_right Bool.false_ne_true]
      · rw [hgathers₃.limited, hgathers₂.limited, hgathers₁.limited, or_assoc, or_assoc,
          or_iff_right Bool.false_ne_true]
        simp only [SomeCallLimited, get_rateLimited_iff, List.mem_cons, List.not_mem_nil, or_false,
          exists_eq_or_imp, exists_eq_left]

omit [Builtins] in
/-- Two things are the same beside others just where one of the others is there or they are the same. -/
theorem same_with_others_iff (dated sets cashFlow keyRatios : Prop) :
    (dated ∨ cashFlow ∨ keyRatios ↔ sets ∨ cashFlow ∨ keyRatios) ↔
      cashFlow ∨ keyRatios ∨ (sets ↔ dated) := by
  tauto

/-- The reported status matches what was obtained just when nothing overflows and the income statement, if
it alone is to decide, has a value and a period or neither. -/
theorem statusMatches_iff (t : SymbolTable) (hisin : resolveIsin t symbol = .ok (some isin)) :
    StatusMatches strptime symbol isin request t ↔ ValueAndPeriodTogether strptime isin request := by
  have hfetch : getFundamentalsWithStatus strptime t symbol request =
      (gather strptime symbol isin request).map fun g => g.report symbol := by
    rw [getFundamentalsWithStatus, hisin]
  unfold StatusMatches
  rw [hfetch]
  rcases gather_cases strptime symbol isin request with
    ⟨hover,herror⟩ | ⟨hincome,hcash,g,hg,hvalue,hpopulated,hlimited⟩
  · rw [herror]
    constructor
    · rintro ⟨g,result,hg,-⟩
      cases hg
    · intro h
      exact absurd hover (not_or.mpr ⟨h.income_fine,h.cashFlow_fine⟩)
  · rw [hg]
    have hiff := statusFits_report_iff symbol g _ hlimited
    rw [hvalue, hpopulated] at hiff
    constructor
    · rintro ⟨g',result,⟨⟩,⟨⟩,hfits⟩
      exact ⟨hincome,hcash,(same_with_others_iff _ _ _ _).mp (hiff.mp hfits)⟩
    · intro h
      exact ⟨g,_,rfl,rfl,hiff.mpr ((same_with_others_iff _ _ _ _).mpr h.agree)⟩

end

/-- A company with an ISIN. -/
def infyTable : SymbolTable :=
  Table.empty.insert ⟨"INFY","NSE","NSE_EQ|INE009A01021",none,none,none,none,true⟩

/-- The income statement holds one entry of revenue, and the other two statements are not there. -/
def incomeOnly (latest : Dict) (path : String) : Except String HttpResponse :=
  if path = incomeStatementPath "INE009A01021" then
    .ok ⟨200,some (.dict [("status",.str "success"),("data",.dict [("income_statement",
      .list [.dict [("category",.str "revenue"),("history",.list [.dict latest])]])])])⟩
  else .ok ⟨404,none⟩

/-- `strptime` for the one text that is used here. -/
def marchOnly (text : String) : Option Date :=
  if text = "Mar 2026" then some (Date.ofCivil 2026 3 1) else none

theorem resolveIsin_infyTable : resolveIsin infyTable "INFY" = .ok (some "INE009A01021") := by
  decide +kernel

theorem dictPayload_income (latest : Dict) :
    dictPayload (get (incomeOnly latest (incomeStatementPath "INE009A01021"))) =
      some [("income_statement",.list [.dict [("category",.str "revenue"),
        ("history",.list [.dict latest])]])] := rfl

theorem get_cashFlow (latest : Dict) : get (incomeOnly latest (cashFlowPath "INE009A01021")) = {} := by
  rw [incomeOnly, if_neg (by decide +kernel)]
  rfl

theorem get_keyRatios (latest : Dict) : get (incomeOnly latest (keyRatiosPath "INE009A01021")) = {} := by
  rw [incomeOnly, if_neg (by decide +kernel)]
  rfl

/-- A value with its period is a success. -/
theorem statusMatches_iff_value_and_period :
    let _ := Builtins.tabulated [] [] []
    StatusMatches marchOnly "INFY" "INE009A01021"
      (incomeOnly [("period",.str "Mar 2026"),("value",.int 5000)]) infyTable := by
  intro _
  refine (statusMatches_iff _ _ _ _ _ resolveIsin_infyTable).mpr ⟨?_,?_,.inr (.inr ?_)⟩
  · rw [dictPayload_income]
    rintro ⟨_,⟨⟩,entry,hentry,-,hover⟩
    obtain rfl := List.mem_singleton.mp hentry
    have hfloat : PyFloat.ofInt 5000 = some (.finite 5000) := by decide +kernel
    have hfine : toFloat (.int 5000) = .ok (.finite 5000) := by
      rw [toFloat, hfloat]
      rfl
    cases hfine.symm.trans hover
  · rw [get_cashFlow]
    rintro ⟨_,⟨⟩,-⟩
  · rw [dictPayload_income]
    exact iff_of_true ⟨_,rfl,_,List.mem_singleton_self _,.inl rfl,rfl⟩
      ⟨_,rfl,_,List.mem_singleton_self _,by decide +kernel⟩

/-- A period without a value is reported as a success too, with an empty record. -/
theorem periodAlone_not_matched :
    let _ := Builtins.tabulated [] [] []
    ¬StatusMatches marchOnly "INFY" "INE009A01021" (incomeOnly [("period",.str "Mar 2026")])
      infyTable := by
  rintro _ ⟨g,result,hg,hresult,hfits⟩
  have hgather : gather marchOnly "INFY" "INE009A01021" (incomeOnly [("period",.str "Mar 2026")]) =
      .ok { data := { symbol := "INFY", asOf := some (Date.ofCivil 2026 3 1) }, populated := true } := by
    rw [gather, get_cashFlow, get_keyRatios]
    rfl
  rw [hgather] at hg
  obtain rfl := Except.ok.inj hg
  rw [getFundamentalsWithStatus, resolveIsin_infyTable] at hresult
  dsimp only at hresult
  rw [hgather] at hresult
  obtain rfl := Except.ok.inj hresult
  obtain ⟨field,hfield⟩ := hfits.success.mp ⟨rfl,rfl⟩
  exact hfield rfl

end MarketScanner.Fundamentals.UpstoxProvider
