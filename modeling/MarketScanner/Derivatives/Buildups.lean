import MarketScanner.Derivatives.OiRuns

/-! The dashboard's list of buildups: one row for each symbol whose newest futures rows have a direction, the
largest moves first. -/
namespace MarketScanner.Derivatives
open MarketScanner.Library OiObservationRepository

/-- A futures row of its symbol that none was observed after. -/
def Newest (t : Table OiObservation) (r : Row OiObservation) : Prop :=
  r ∈ futuresRows t ∧ ∀ x ∈ futuresRows t, x.val.symbolId = r.val.symbolId → x.val.observedAt ≤ r.val.observedAt

/-- What the dashboard is shown, for a limit. -/
structure ShowsBuildups (t : Table OiObservation) (limit : ℕ) (rows : List (Row OiObservation)) : Prop where
  length : rows.length ≤ limit
  once : (rows.map fun r => r.val.symbolId).Nodup
  ordered : rows.Pairwise LargerMove
  newest : ∀ r ∈ rows, Newest t r
  directed : ∀ r ∈ rows, r.val.classification ≠ .neutral ∧
    ∃ price oi, r.val.prevPrice = some price ∧ r.val.prevOi = some oi
  complete : ∀ r, Newest t r →
    (∀ x, Newest t x → x.val.symbolId = r.val.symbolId → x.val.classification ≠ .neutral) →
      ∃ x, Newest t x ∧ x.val.symbolId = r.val.symbolId ∧
        (x ∈ rows ∨ (rows.length = limit ∧ ∀ y ∈ rows, LargerMove y x))

instance : Std.Total LargerMove where
  total a b := by
    unfold LargerMove
    cases a.val.oiChangePct <;> cases b.val.oiChangePct <;> simp [le_total]

instance : IsTrans (Row OiObservation) LargerMove where
  trans a b c := by
    unfold LargerMove
    cases a.val.oiChangePct <;> cases b.val.oiChangePct <;> cases c.val.oiChangePct <;> simp
    exact fun h h' => h'.trans h

variable {partition scan : ScanOrder (Row OiObservation)} {t : Table OiObservation} {limit : ℕ}
  {r : Row OiObservation}

/-- The rows that are ranked first are the newest of their symbols. -/
theorem newest_of_mem_firsts
    (h : r ∈ firsts (fun r => r.val.symbolId) (orderBy partition NewestFirst (futuresRows t))) : Newest t r := by
  have hsorted : (orderBy partition NewestFirst (futuresRows t)).Pairwise NewestFirst :=
    List.pairwise_insertionSort NewestFirst _
  refine ⟨mem_orderBy.mp ((firsts_sublist _).mem h),fun x hx hkey => ?_⟩
  have hrefl (a : Row OiObservation) : NewestFirst a a := le_refl a.val.observedAt.utc
  exact (le_of_mem_firsts hrefl hsorted h (mem_orderBy.mpr hx) hkey : NewestFirst r x)

/-- In every table the engine's runs lead to, and whatever the order in which the database meets rows that
compare equal, the dashboard lists newest futures rows with a direction, one for a symbol, by the size of their
moves. Of a symbol whose newest rows all have a direction, one is kept out by nothing but the limit. -/
theorem listLatestBuildups_shows {runs : List OiRun} (hrun : oiMachine.Run Table.empty runs t)
    (partition scan : ScanOrder (Row OiObservation)) (limit : ℕ) :
    ShowsBuildups t limit (listLatestBuildups partition scan t limit) := by
  have hrank : (orderBy partition NewestFirst (futuresRows t)).Pairwise NewestFirst :=
    List.pairwise_insertionSort NewestFirst _
  unfold listLatestBuildups
  dsimp only
  generalize hkept : ((firsts (fun r => r.val.symbolId)
    (orderBy partition NewestFirst (futuresRows t))).filter fun r => decide (r.val.classification ≠ .neutral)) = kept
  have hmem (r : Row OiObservation) : r ∈ kept ↔
      r ∈ firsts (fun r => r.val.symbolId) (orderBy partition NewestFirst (futuresRows t)) ∧
        r.val.classification ≠ .neutral := by
    rw [← hkept, List.mem_filter, decide_eq_true_eq]
  have hsorted : (orderBy scan LargerMove kept).Pairwise LargerMove :=
    List.pairwise_insertionSort LargerMove _
  have htaken {r : Row OiObservation} (hr : r ∈ (orderBy scan LargerMove kept).take limit) : r ∈ kept :=
    mem_orderBy.mp (List.mem_of_mem_take hr)
  constructor
  · exact List.length_take_le _ _
  · have hnodup : (kept.map fun r => r.val.symbolId).Nodup := by
      rw [← hkept]
      exact (nodup_firsts _).sublist (List.filter_sublist.map _)
    have hperm := (orderBy_perm scan LargerMove kept).map fun r => r.val.symbolId
    exact (hperm.nodup_iff.mpr hnodup).sublist ((List.take_sublist _ _).map _)
  · exact hsorted.sublist (List.take_sublist _ _)
  · intro r hr
    exact newest_of_mem_firsts ((hmem r).mp (htaken hr)).1
  · intro r hr
    obtain ⟨hfirst,hdirected⟩ := (hmem r).mp (htaken hr)
    have hrow : r ∈ t.rows := (List.mem_filter.mp (newest_of_mem_firsts hfirst).1).1
    have hagrees := agrees_of_run hrun r hrow
    refine ⟨hdirected,?_⟩
    cases hprice : r.val.prevPrice with
    | none => exact absurd (hagrees.first (.inl hprice)) hdirected
    | some price =>
      cases hoi : r.val.prevOi with
      | none => exact absurd (hagrees.first (.inr hoi)) hdirected
      | some oi => exact ⟨price,oi,rfl,rfl⟩
  · intro r hnewest hdirected
    have hpresent : r ∈ orderBy partition NewestFirst (futuresRows t) := mem_orderBy.mpr hnewest.1
    obtain ⟨x,hfirst,hsymbol⟩ : ∃ x ∈ firsts (fun r => r.val.symbolId)
        (orderBy partition NewestFirst (futuresRows t)), x.val.symbolId = r.val.symbolId :=
      exists_mem_firsts hpresent
    have hx := newest_of_mem_firsts hfirst
    have hr : x ∈ orderBy scan LargerMove kept :=
      mem_orderBy.mpr ((hmem x).mpr ⟨hfirst,hdirected x hx hsymbol⟩)
    exact ⟨x,hx,hsymbol,mem_take_or hsorted hr⟩

theorem listLatestBuildups_shows_samplePass :
    ∃ t, oiMachine.Run Table.empty [samplePass] t ∧ ShowsBuildups t 20
      (listLatestBuildups (ScanOrder.insertion _) (ScanOrder.insertion _) t 20) :=
  ⟨_,Machine.Run.single rfl,listLatestBuildups_shows (Machine.Run.single rfl) _ _ 20⟩

end MarketScanner.Derivatives
