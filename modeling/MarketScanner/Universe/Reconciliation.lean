import MarketScanner.Universe.Collector

/-! Which symbols are active after a refresh. The stated purpose compares the fetch with the set
that was active before the run; the code counts the active rows once the fetch has been upserted. -/
namespace MarketScanner.Universe
open MarketScanner.Library MarketScanner.Python MarketScanner.Config

def activeRows (t : SymbolTable) : List (Row SymbolRow) := t.rows.filter fun r => r.val.isActive

def activeSet (t : SymbolTable) : Finset String :=
  ((activeRows t).map fun r => r.val.symbol).toFinset

/-- The active rows whose symbol is not in the given set. -/
def activeOutside (t : SymbolTable) (confirmed : Finset String) : List (Row SymbolRow) :=
  t.rows.filter fun r => r.val.isActive && !decide (r.val.symbol ∈ confirmed)

/-- The purpose of reconciliation: adopt the fetched set, unless it is too small a part of what was
active before. -/
def reconciled (minFraction : ℚ) (previous fetched : Finset String) : Finset String :=
  if minFraction*previous.card ≤ fetched.card then fetched else previous ∪ fetched

/-- A validated symbol of the fetch stands in two rows of the table. -/
def Ambiguous (t : SymbolTable) (fetch : List ProviderSymbol) : Prop :=
  ∃ name ∈ validatedSymbols fetch, 2 ≤ (SymbolTable.named t name).length

instance (t : SymbolTable) (fetch : List ProviderSymbol) : Decidable (Ambiguous t fetch) :=
  inferInstanceAs (Decidable (∃ name ∈ validatedSymbols fetch, _))

theorem mem_activeSet {t : SymbolTable} {name : String} :
    name ∈ activeSet t ↔ ∃ r ∈ SymbolTable.named t name, r.val.isActive = true := by
  simp only [activeSet, activeRows, List.mem_toFinset, List.mem_map, List.mem_filter,
    SymbolRepository.mem_named]
  constructor
  · rintro ⟨r,⟨hr,hactive⟩,hname⟩
    exact ⟨r,⟨hr,hname⟩,hactive⟩
  · rintro ⟨r,⟨hr,hname⟩,hactive⟩
    exact ⟨r,⟨hr,hactive⟩,hname⟩

section Refreshed
variable {fetch : List ProviderSymbol} {s s' : Refresh} (h : Refreshed fetch s s')
include h

theorem Refreshed.named_of_not_mem {name : String} (hname : name ∉ validatedSymbols fetch) :
    SymbolTable.named s'.table name = SymbolTable.named s.table name :=
  h.others _ fun r hr => by simpa using fun heq => hname (by rwa [← heq])

/-- Right after the upserts the active symbols are the old ones and the fetched ones. -/
theorem Refreshed.activeSet : activeSet s'.table = activeSet s.table ∪ validatedSymbols fetch := by
  ext name
  rw [Finset.mem_union, mem_activeSet, mem_activeSet]
  by_cases hname : name ∈ validatedSymbols fetch
  · obtain ⟨p,-,-,id,old,hrow⟩ := h.written name hname
    simp [hrow, hname]
  · simp [h.named_of_not_mem hname, hname]

/-- The count that the safety threshold is multiplied with. -/
theorem Refreshed.length_activeRows :
    (activeRows s'.table).length =
      (activeOutside s.table (validatedSymbols fetch)).length + (validatedSymbols fetch).card := by
  let within := s'.table.rows.filter fun r =>
    decide (r.val.symbol ∈ validatedSymbols fetch) && r.val.isActive
  have hout : (activeRows s'.table).filter (fun r =>
      !decide (r.val.symbol ∈ validatedSymbols fetch)) =
        activeOutside s.table (validatedSymbols fetch) := by
    rw [activeRows, List.filter_filter]
    unfold activeOutside
    rw [← h.others _ fun r hr => by simp [hr]]
    apply List.filter_congr
    intro r hr
    rw [Bool.and_comm]
  have hnodup : (within.map fun r => r.val.symbol).Nodup := by
    rw [List.nodup_iff_count_le_one]
    intro name
    rw [List.count, List.countP_map]
    by_cases hname : name ∈ validatedSymbols fetch
    · obtain ⟨p,-,-,id,old,hrow⟩ := h.written name hname
      calc List.countP _ within ≤ List.countP (fun r => r.val.symbol == name) s'.table.rows :=
            List.Sublist.countP_le List.filter_sublist
        _ = (SymbolTable.named s'.table name).length := List.countP_eq_length_filter
        _ = 1 := by rw [hrow]; rfl
    · refine le_of_eq_of_le (List.countP_eq_zero.mpr ?_) (Nat.zero_le 1)
      intro r hr heq
      obtain ⟨-,hin⟩ := List.mem_filter.mp hr
      have hsymbol : r.val.symbol = name := by simpa using heq
      simp [hsymbol, hname] at hin
  have hset : (within.map fun r => r.val.symbol).toFinset = validatedSymbols fetch := by
    ext name
    rw [List.mem_toFinset, List.mem_map]
    constructor
    · rintro ⟨r,hr,rfl⟩
      exact of_decide_eq_true (Bool.and_eq_true_iff.mp (List.mem_filter.mp hr).2).1
    · intro hname
      obtain ⟨p,-,-,id,old,hrow⟩ := h.written name hname
      have hmem : (⟨id,SymbolRepository.assign p old⟩ : Row SymbolRow) ∈
          SymbolTable.named s'.table name := by rw [hrow]; simp
      obtain ⟨hrows,hsymbol⟩ := SymbolRepository.mem_named.mp hmem
      have hin : decide (old.symbol ∈ validatedSymbols fetch) = true := by
        simpa [← hsymbol] using hname
      exact ⟨_,List.mem_filter.mpr ⟨hrows,Bool.and_eq_true_iff.mpr ⟨hin,rfl⟩⟩,hsymbol⟩
  have hwithin : ((activeRows s'.table).filter fun r =>
      decide (r.val.symbol ∈ validatedSymbols fetch)) = within := by
    rw [activeRows, List.filter_filter]
  rw [List.length_eq_length_filter_add fun r => decide (r.val.symbol ∈ validatedSymbols fetch),
    hout, hwithin, ← hset, List.toFinset_card_of_nodup hnodup, List.length_map, Nat.add_comm]

end Refreshed

theorem length_listActive (scan : ScanOrder (Row SymbolRow)) (t : SymbolTable) :
    (SymbolRepository.listActive scan t).length = (activeRows t).length :=
  length_orderBy scan SymbolRepository.BySymbol _

/-- Deactivation leaves exactly the active symbols of the given set. -/
theorem activeSet_deactivateMissing (scan : ScanOrder (Row SymbolRow)) (t : SymbolTable)
    (confirmed : Finset String) :
    activeSet (SymbolRepository.deactivateMissing scan t confirmed).1 =
      activeSet t ∩ confirmed := by
  let ids := ((SymbolRepository.listActive scan t).filter fun r =>
    !decide (r.val.symbol ∈ confirmed)).map Row.id
  have hids : ∀ r ∈ t.rows, ids.contains r.id = true ↔
      r.val.isActive = true ∧ r.val.symbol ∉ confirmed := by
    intro r hr
    rw [List.contains_iff_mem, List.mem_map]
    constructor
    · rintro ⟨r',hr',hid⟩
      obtain ⟨hactive,hout⟩ := List.mem_filter.mp hr'
      obtain ⟨hrows,hactive⟩ := SymbolRepository.mem_listActive.mp hactive
      obtain rfl := Table.eq_of_id hrows hr hid
      exact ⟨hactive,by simpa using hout⟩
    · rintro ⟨hactive,hout⟩
      exact ⟨r,List.mem_filter.mpr ⟨SymbolRepository.mem_listActive.mpr ⟨hr,hactive⟩,
        by simpa using hout⟩,rfl⟩
  ext name
  rw [Finset.mem_inter, mem_activeSet, mem_activeSet]
  constructor
  · rintro ⟨r',hr',hactive⟩
    obtain ⟨hrows,rfl⟩ := SymbolRepository.mem_named.mp hr'
    obtain ⟨r,hr,rfl⟩ := Table.mem_modifyWhere.mp hrows
    by_cases hid : ids.contains r.id = true
    · rw [Row.change_of_true hid] at hactive
      cases hactive
    · rw [Row.change_of_false (Bool.eq_false_iff.mpr hid)] at hactive ⊢
      refine ⟨⟨r,SymbolRepository.mem_named.mpr ⟨hr,rfl⟩,hactive⟩,?_⟩
      by_contra hout
      exact hid ((hids r hr).mpr ⟨hactive,hout⟩)
  · rintro ⟨⟨r,hr,hactive⟩,hin⟩
    obtain ⟨hrows,rfl⟩ := SymbolRepository.mem_named.mp hr
    have hid : ids.contains r.id = false := by
      rw [← Bool.not_eq_true, hids r hrows]
      exact fun hout => hout.2 hin
    refine ⟨r,SymbolRepository.mem_named.mpr ⟨?_,rfl⟩,hactive⟩
    exact Table.mem_modifyWhere.mpr ⟨r,hrows,Row.change_of_false hid⟩

/-- The threshold that the code measures: of the active rows that the fetch does not name, and those that it
does. -/
def measuredThreshold (minFraction : ℚ) (t : SymbolTable) (confirmed : Finset String) : ℚ :=
  safetyThreshold ((activeOutside t confirmed).length+confirmed.card) (roundDouble minFraction)

/-- The active set after a refresh whose fetch succeeded. -/
theorem activeSet_collectSymbols (settings : Settings) (scan : ScanOrder (Row SymbolRow))
    (t : SymbolTable) (fetch : List ProviderSymbol) :
    activeSet (collectSymbols settings scan t (.ok fetch)).1 =
      if Ambiguous t fetch then activeSet t
      else if measuredThreshold settings.universeReconciliationMinFraction t (validatedSymbols fetch) ≤
          (validatedSymbols fetch).card then validatedSymbols fetch
      else activeSet t ∪ validatedSymbols fetch := by
  rw [collectSymbols]
  cases hall : refreshAll ⟨t,{ symbolsProcessed := fetch.length },∅⟩ fetch with
  | error e =>
    have hambiguous : Ambiguous t fetch := refreshAll_error_iff.mp ⟨e,hall⟩
    rw [if_pos hambiguous]
  | ok s =>
    have hplain : ¬ Ambiguous t fetch := fun hambiguous => by
      obtain ⟨e,he⟩ := (refreshAll_error_iff
        (s := ⟨t,{ symbolsProcessed := fetch.length },∅⟩)).mpr hambiguous
      rw [he] at hall
      cases hall
    have hrefreshed := refreshAll_refreshed hall
    have hconfirmed : s.confirmed = validatedSymbols fetch := by
      simpa using hrefreshed.confirmed
    have hcount := hrefreshed.length_activeRows
    have hactive := hrefreshed.activeSet
    rw [if_neg hplain]
    unfold reconcileUniverse measuredThreshold
    simp only [length_listActive, hcount, hconfirmed]
    by_cases hzero : (activeOutside t (validatedSymbols fetch)).length +
        (validatedSymbols fetch).card = 0
    · have hnone : activeRows s.table = [] := List.length_eq_zero_iff.mp (hcount.trans hzero)
      have hempty : activeSet s.table = ∅ := by rw [activeSet, hnone]; rfl
      have hfetched : validatedSymbols fetch = ∅ :=
        Finset.card_eq_zero.mp (Nat.add_eq_zero_iff.mp hzero).2
      rw [if_pos hzero, ← hactive, hfetched, hempty, ite_self]
    · rw [if_neg hzero]
      by_cases hmet : safetyThreshold ((activeOutside t (validatedSymbols fetch)).length +
          (validatedSymbols fetch).card) (roundDouble settings.universeReconciliationMinFraction) ≤
            (validatedSymbols fetch).card
      · rw [if_pos hmet, if_neg (not_lt.mpr hmet), activeSet_deactivateMissing, hactive]
        exact Finset.inter_eq_right.mpr Finset.subset_union_right
      · rw [if_neg hmet, if_pos (not_le.mp hmet), hactive]

/-- When the threshold, measured as the code measures it, decides as the purpose does, or nothing that was
active is missing from the fetch. A fetch that names a duplicated symbol is rolled back as a whole. -/
def MeasuredAlike (minFraction : ℚ) (t : SymbolTable) (fetch : List ProviderSymbol) : Prop :=
  if Ambiguous t fetch then
    validatedSymbols fetch = activeSet t ∨ validatedSymbols fetch ⊆ activeSet t ∧
      ((validatedSymbols fetch).card : ℚ) < minFraction*(activeSet t).card
  else
    activeSet t ⊆ validatedSymbols fetch ∨
      ((validatedSymbols fetch).card : ℚ) < minFraction*(activeSet t).card ∧
        ((validatedSymbols fetch).card : ℚ) < measuredThreshold minFraction t (validatedSymbols fetch) ∨
      minFraction*(activeSet t).card ≤ (validatedSymbols fetch).card ∧
        measuredThreshold minFraction t (validatedSymbols fetch) ≤ (validatedSymbols fetch).card

/-- A refresh reconciles the universe against the set active before it exactly when the threshold
is measured alike. -/
theorem reconciled_iff (settings : Settings) (scan : ScanOrder (Row SymbolRow)) (t : SymbolTable)
    (fetch : List ProviderSymbol) :
    activeSet (collectSymbols settings scan t (.ok fetch)).1 =
        reconciled settings.universeReconciliationMinFraction (activeSet t)
          (validatedSymbols fetch) ↔
      MeasuredAlike settings.universeReconciliationMinFraction t fetch := by
  rw [activeSet_collectSymbols]
  generalize settings.universeReconciliationMinFraction = f at *
  unfold reconciled MeasuredAlike
  by_cases hambiguous : Ambiguous t fetch
  · rw [if_pos hambiguous, if_pos hambiguous]
    constructor
    · intro heq
      split at heq
      · exact Or.inl heq.symm
      · rename_i hbelow
        exact Or.inr ⟨Finset.union_eq_left.mp heq.symm,not_le.mp hbelow⟩
    · rintro (heq | ⟨hsub,hbelow⟩)
      · rw [heq, Finset.union_idempotent, ite_self]
      · rw [if_neg (not_le.mpr hbelow), Finset.union_eq_left.mpr hsub]
  · rw [if_neg hambiguous, if_neg hambiguous]
    generalize measuredThreshold f t (validatedSymbols fetch) = threshold
    by_cases hpurpose : f*(activeSet t).card ≤ (validatedSymbols fetch).card
    · rw [if_pos hpurpose]
      by_cases hmet : threshold ≤ (validatedSymbols fetch).card
      · rw [if_pos hmet]
        exact iff_of_true rfl (Or.inr (Or.inr ⟨hpurpose,hmet⟩))
      · rw [if_neg hmet, Finset.union_eq_right]
        simp [hmet, not_lt.mpr hpurpose]
    · rw [if_neg hpurpose]
      by_cases hmet : threshold ≤ (validatedSymbols fetch).card
      · rw [if_pos hmet, eq_comm, Finset.union_eq_right]
        simp [hpurpose, not_lt.mpr hmet]
      · rw [if_neg hmet]
        exact iff_of_true rfl (Or.inr (Or.inl ⟨not_le.mp hpurpose,not_le.mp hmet⟩))

/-- Four active symbols, half of which would be two. -/
def fourActive : SymbolTable :=
  ((((Table.empty.insert (listed "A")).insert (listed "B")).insert (listed "C")).insert
    (listed "D"))
where
  listed (symbol : String) : SymbolRow := ⟨symbol,"NSE","NSE_EQ|" ++ symbol,none,none,none,none,true⟩

/-- A fetch that drops three of them and brings a new listing. -/
def twoFetched : List ProviderSymbol := [⟨"A","NSE","NSE_EQ|A",none,none,none,none,none⟩,
  ⟨"E","NSE","NSE_EQ|E",none,none,none,none,none⟩]

/-- Two validated symbols make half of the four active before, yet nothing is deactivated: the
count is taken over the five rows active after the upserts. -/
theorem reconciled_fails_on_new_listing :
    activeSet (collectSymbols {} (ScanOrder.insertion _) fourActive (.ok twoFetched)).1 ≠
      reconciled ({} : Settings).universeReconciliationMinFraction (activeSet fourActive)
        (validatedSymbols twoFetched) := by
  decide +kernel

end MarketScanner.Universe
