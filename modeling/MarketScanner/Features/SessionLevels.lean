import MarketScanner.Features.Session
import MarketScanner.Library.WeightedMean

/-! The session levels lie within each other, and the session's average price within the day's
range. -/
namespace MarketScanner.Features.Session
open MarketScanner.Library MarketScanner.Python

structure ValidRow (row : IntradayRow) : Prop where
  low_le_open : row.low ≤ row.openPrice
  open_le_high : row.openPrice ≤ row.high
  low_le_close : row.low ≤ row.close
  close_le_high : row.close ≤ row.high
  volume_nonneg : 0 ≤ row.volume

/-- The range of two levels lies within that of two others. -/
def Within (low high low' high' : Option ℚ) : Prop :=
  ∀ l h, low = some l → high = some h →
    ∃ l' h', low' = some l' ∧ high' = some h' ∧ l' ≤ l ∧ l ≤ h ∧ h ≤ h'

structure LevelsNest (df : IntradayFrame) (f : SessionFeatures) : Prop where
  opening : Within f.openingRangeLow f.openingRangeHigh f.initialBalanceLow f.initialBalanceHigh
  balance : Within f.initialBalanceLow f.initialBalanceHigh f.dayLow f.dayHigh
  average : 0 < (df.rows.map IntradayRow.volume).sum → ∃ l v h, f.dayLow = some l ∧
    f.sessionVwap = some v ∧ f.dayHigh = some h ∧ l ≤ v ∧ v ≤ h

/-! ### Ranges over more and more rows -/
section Ranges
variable {rows rows' : List IntradayRow}

theorem lowOf_le_highOf (hvalid : ∀ row ∈ rows, ValidRow row) {l h : ℚ} (hl : lowOf rows = some l)
    (hh : highOf rows = some h) : l ≤ h := by
  rw [lowOf_eq, min?_map_eq_some_iff] at hl
  rw [highOf_eq, max?_map_eq_some_iff] at hh
  obtain ⟨row,hrow,rfl⟩ := hl.1
  have hrange : row.low ≤ row.high := (hvalid row hrow).low_le_close.trans (hvalid row hrow).close_le_high
  exact (decimal_mono hrange).trans (hh.2 row hrow)

theorem within_of_subset (hvalid : ∀ row ∈ rows, ValidRow row) (h : ∀ row ∈ rows, row ∈ rows') :
    Within (lowOf rows) (highOf rows) (lowOf rows') (highOf rows') := by
  intro l u hl hu
  have hle := lowOf_le_highOf hvalid hl hu
  rw [lowOf_eq] at hl
  rw [highOf_eq] at hu
  obtain ⟨l',hl',hlow⟩ := exists_min?_of_subset h hl
  obtain ⟨u',hu',hhigh⟩ := exists_max?_of_subset h hu
  exact ⟨l',u',(lowOf_eq rows').trans hl',(highOf_eq rows').trans hu',hlow,hle,hhigh⟩

theorem before_subset {bound bound' : ℤ} (h : bound ≤ bound') {row : IntradayRow}
    (hrow : row ∈ before bound rows) : row ∈ before bound' rows := by
  obtain ⟨hmem,hlt⟩ := List.mem_filter.mp hrow
  exact List.mem_filter.mpr ⟨hmem,decide_eq_true ((of_decide_eq_true hlt).trans_le h)⟩

end Ranges

/-! ### The average price -/
section Average
variable {rows : List IntradayRow}

@[simp] theorem length_cumsum (xs : List ℚ) : (cumsum xs).length = xs.length := by simp [cumsum]

theorem cumsum_concat (xs : List ℚ) (x : ℚ) : cumsum (xs ++ [x]) = cumsum xs ++ [(xs ++ [x]).sum] := by
  have hstate : xs.foldl (fun s x => s+x) 0 = xs.sum := List.sum_eq_foldl.symm
  rw [cumsum, accumulate_concat, hstate, List.sum_append, List.sum_singleton, cumsum]

theorem getLast?_vwapSeries (h : (rows.map IntradayRow.volume).sum ≠ 0) :
    (vwapSeries rows).getLast?.bind id =
      some (weightedMean (rows.map fun row => (typicalPrice row,row.volume))) := by
  induction rows using List.reverseRecOn with
  | nil => exact absurd rfl h
  | append_singleton rows row _ =>
    have hlength : (cumsum (rows.map fun row => typicalPrice row*row.volume)).length =
        (cumsum (rows.map IntradayRow.volume)).length := by simp
    rw [List.map_append, List.map_cons, List.map_nil] at h
    simp only [vwapSeries, List.map_append, List.map_cons, List.map_nil, cumsum_concat]
    rw [List.zipWith_append hlength, List.zipWith_cons_cons, if_neg h, List.zipWith_nil_left,
      List.getLast?_concat]
    simp [weightedMean, weightedSum, totalWeight, Function.comp_def]

theorem typicalPrice_mem {row : IntradayRow} (h : ValidRow row) :
    row.low ≤ typicalPrice row ∧ typicalPrice row ≤ row.high := by
  have hlow := h.low_le_close
  have hhigh := h.close_le_high
  unfold typicalPrice
  constructor <;> linarith

/-- The volume-weighted average lies between the lowest low and the highest high. -/
theorem average_mem (hvalid : ∀ row ∈ rows, ValidRow row)
    (hvolume : 0 < (rows.map IntradayRow.volume).sum) :
    ∃ l v h, lowOf rows = some l ∧ ((vwapSeries rows).getLast?.bind id).map decimal = some v ∧
      highOf rows = some h ∧ l ≤ v ∧ v ≤ h := by
  have hne : rows ≠ [] := by
    rintro rfl
    exact lt_irrefl 0 hvolume
  obtain ⟨l,hl⟩ := exists_min?_map (f := IntradayRow.low) hne
  obtain ⟨h,hh⟩ := exists_max?_map (f := IntradayRow.high) hne
  have hweights : ∀ x ∈ rows.map fun row => (typicalPrice row,row.volume), 0 ≤ x.2 := by
    intro x hx
    obtain ⟨row,hrow,rfl⟩ := List.mem_map.mp hx
    exact (hvalid row hrow).volume_nonneg
  have htotal : 0 < totalWeight (rows.map fun row => (typicalPrice row,row.volume)) := by
    rwa [totalWeight_map]
  refine ⟨decimal l,_,decimal h,by rw [lowOf, hl, Option.map_some],
    by rw [getLast?_vwapSeries hvolume.ne', Option.map_some],by rw [highOf, hh, Option.map_some],
    decimal_mono (le_weightedMean hweights htotal ?_),
    decimal_mono (weightedMean_le hweights htotal ?_)⟩
  · intro x hx
    obtain ⟨row,hrow,rfl⟩ := List.mem_map.mp hx
    exact ((min?_map_eq_some_iff.mp hl).2 row hrow).trans (typicalPrice_mem (hvalid row hrow)).1
  · intro x hx
    obtain ⟨row,hrow,rfl⟩ := List.mem_map.mp hx
    exact (typicalPrice_mem (hvalid row hrow)).2.trans ((max?_map_eq_some_iff.mp hh).2 row hrow)

end Average

/-- The opening range lies within the initial balance, that within the day's range, and the average
price within the day's range, on whatever day the rows are. -/
theorem levelsNest {df : IntradayFrame} {marketTimezone : TimeDelta}
    (hvalid : ∀ row ∈ df.rows, ValidRow row) : LevelsNest df (calculate df marketTimezone) := by
  unfold calculate
  cases hrows : df.rows with
  | nil =>
    constructor
    case opening => intro l h hl; cases hl
    case balance => intro l h hl; cases hl
    case average =>
      intro hvolume
      rw [hrows] at hvolume
      exact absurd hvolume (lt_irrefl 0)
  | cons firstBar rest =>
    dsimp only
    rw [← hrows]
    refine ⟨within_of_subset ?_ fun row => before_subset ?_,within_of_subset ?_ ?_,
      average_mem hvalid⟩
    · exact fun row hrow => hvalid row (List.mem_of_mem_filter hrow)
    · unfold openingRangeMinutes initialBalanceMinutes TimeDelta.minutes
      omega
    · exact fun row hrow => hvalid row (List.mem_of_mem_filter hrow)
    · exact fun row hrow => List.mem_of_mem_filter hrow

/-- The bars around the opening, all of them with volume. -/
theorem levelsNest_preOpen :
    (∀ row ∈ preOpenFrame.rows, ValidRow row) ∧
      LevelsNest preOpenFrame (calculate preOpenFrame ist) := by
  have hvalid : ∀ row ∈ preOpenFrame.rows, ValidRow row := by
    unfold preOpenFrame utcBar
    simp only [List.forall_mem_cons]
    exact ⟨⟨le_rfl,by norm_num,le_rfl,by norm_num,by norm_num⟩,
      ⟨le_rfl,by norm_num,le_rfl,by norm_num,by norm_num⟩,List.forall_mem_nil _⟩
  exact ⟨hvalid,levelsNest hvalid⟩

end MarketScanner.Features.Session
