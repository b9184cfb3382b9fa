import MarketScanner.Features.Causality
import MarketScanner.Features.Engine
import MarketScanner.Python.Decimals

/-! A stored row of features as a function of what the calculators read: the bars up to its own, the
last swing points that they see, and the benchmark's return on its date. -/
namespace MarketScanner.Features
open MarketScanner.Library MarketScanner.Python MarketScanner.Market Indicators Series

/-- Row `i` of a frame. -/
def Frame.row (f : Frame) (i : ℕ) : List (Column × Cell) := f.map fun c => (c.1,c.2.getD i .na)

/-- A cell as it is stored. -/
def store (c : Column × Cell) : Column × FieldValue := (c.1,cleanValue c.1 (cleanCell c.1 c.2))

theorem rowToValues_clean (f : Frame) (i : ℕ) : rowToValues (clean f) i = (f.row i).map store := by
  rw [rowToValues, clean, Frame.row, List.map_map, List.map_map]
  apply List.map_congr_left
  intro c hc
  simp only [Function.comp_apply, store, List.getD_eq_getElem?_getD, List.getElem?_map]
  cases c.2[i]? <;> rfl

theorem row_take (f : Frame) {n i : ℕ} (hi : i < n) : (Frame.take n f).row i = f.row i := by
  rw [Frame.row, Frame.take, List.map_map, Frame.row]
  apply List.map_congr_left
  intro c hc
  simp only [Function.comp_apply, List.getD_eq_getElem?_getD, List.getElem?_take_of_lt hi]

theorem row_append (f g : Frame) (i : ℕ) : (f ++ g : Frame).row i = f.row i ++ g.row i :=
  List.map_append

/-- The categories before the structure category. -/
def leadingFeatures [FloatMath] (df : List DailyPrice) : Frame :=
  trendFeatures df ++ momentumFeatures df ++ volatilityFeatures df ++ volumeFeatures df ++
    priceActionFeatures df

theorem leadingFeatures_take [FloatMath] (n : ℕ) (df : List DailyPrice) :
    leadingFeatures (df.take n) = (leadingFeatures df).take n := by
  simp only [leadingFeatures, frame_take_append, trendFeatures_take, momentumFeatures_take,
    volatilityFeatures_take, volumeFeatures_take, priceActionFeatures_take]

/-- The symbol's 20-bar return in percent. -/
def symbolReturn (df : List DailyPrice) (i : ℕ) : PyFloat :=
  (scale 100 (pctChange 20 (closes df))).getD i .nan

/-- The benchmark's return on a date, missing without a benchmark. -/
def returnOn (benchmark : Option (List DailyPrice)) (d : Date) : PyFloat :=
  benchmark.elim .nan fun b => benchmarkReturn b d

def swingValue (x : Option ℚ) : PyFloat := x.elim .nan .finite

def pullbackAt (ratio : ℚ) (high low : PyFloat) : PyFloat :=
  high.sub ((high.sub low).mul (.finite ratio))

/-- Row `i` of the frame, given the last swing points and the return against the benchmark. -/
def cellsAt [FloatMath] (df : List DailyPrice) (i : ℕ) (high low : Option ℚ)
    (relative : PyFloat) : List (Column × Cell) :=
  (leadingFeatures df).row i ++
    ([(.swingHigh,.num (swingValue high)),(.swingLow,.num (swingValue low))] ++
      (channelFeatures df).row i) ++
    ((levelFeatures df).row i ++
      [(.pullbackZoneLow,.num (pullbackAt (1/2) (swingValue high) (swingValue low))),
        (.pullbackZoneHigh,.num (pullbackAt (382/1000) (swingValue high) (swingValue low)))]) ++
    (patternFeatures df).row i ++ [(.rsVsNifty,.num relative)]

theorem cellsAt_take [FloatMath] (df : List DailyPrice) {n i : ℕ} (hi : i < n)
    (high low : Option ℚ) (relative : PyFloat) :
    cellsAt (df.take n) i high low relative = cellsAt df i high low relative := by
  simp only [cellsAt, leadingFeatures_take, channelFeatures_take, levelFeatures_take,
    patternFeatures_take, row_take _ hi]

theorem getD_numbers (c : Column) {s : Series} {i : ℕ} {x : PyFloat} (h : s[i]? = some x) :
    (numbers c s).2.getD i .na = .num x := by
  rw [numbers, List.getD_eq_getElem?_getD, List.getElem?_map, h]
  rfl

theorem getElem?_pullback (ratio : ℚ) {df : List DailyPrice} {i : ℕ} (hi : i < df.length) :
    (pullback ratio (swingHighs df) (swingLows df))[i]? =
      some (pullbackAt ratio (swingValue (lastSwingHigh df i))
        (swingValue (lastSwingLow df i))) := by
  rw [pullback, List.getElem?_zipWith, List.getElem?_map, List.getElem?_zipWith,
    getElem?_swingHighs hi, getElem?_swingLows hi]
  rfl

theorem sub_nan (x : PyFloat) : x.sub .nan = .nan := by
  cases x <;> rfl

theorem length_pctChange (k : ℕ) (s : Series) : (pctChange k s).length = s.length := by
  simp [pctChange]

theorem row_relativeStrengthFeatures (benchmark : Option (List DailyPrice))
    {df : List DailyPrice} {i : ℕ} {p : DailyPrice} (hp : df[i]? = some p) :
    (relativeStrengthFeatures df benchmark).row i =
      [(.rsVsNifty,.num ((symbolReturn df i).sub (returnOn benchmark p.date)))] := by
  have hi : i < df.length := (List.getElem?_eq_some_iff.mp hp).choose
  have hmissing : (numbers .rsVsNifty (df.map fun _ => PyFloat.nan)).2.getD i .na = .num .nan :=
    getD_numbers _ (by rw [List.getElem?_map, hp]; rfl)
  match benchmark with
  | none =>
    rw [returnOn, Option.elim_none, sub_nan, ← hmissing]
    rfl
  | some [] =>
    have hnan : returnOn (some []) p.date = .nan := rfl
    rw [hnan, sub_nan, ← hmissing]
    rfl
  | some (q::b) =>
    have hown : (scale 100 (pctChange 20 (closes df)))[i]? = some (symbolReturn df i) := by
      rw [symbolReturn, List.getD_eq_getElem?_getD]
      have hlt : i < (scale 100 (pctChange 20 (closes df))).length := by
        simpa [length_pctChange, closes] using hi
      rw [List.getElem?_eq_getElem hlt]
      rfl
    have hcell : (sub (scale 100 (pctChange 20 (closes df)))
        (df.map fun p => benchmarkReturn (q::b) p.date))[i]? =
          some ((symbolReturn df i).sub (benchmarkReturn (q::b) p.date)) := by
      rw [List.getElem?_zipWith, hown, List.getElem?_map, hp]
      rfl
    change [(Column.rsVsNifty,(numbers .rsVsNifty _).2.getD i .na)] = _
    rw [getD_numbers _ hcell]
    rfl

theorem row_structureFeatures [FloatMath] {df : List DailyPrice} {i : ℕ} (hi : i < df.length) :
    (structureFeatures df).row i =
      [(.swingHigh,.num (swingValue (lastSwingHigh df i))),
        (.swingLow,.num (swingValue (lastSwingLow df i)))] ++ (channelFeatures df).row i := by
  rw [structureFeatures, row_append]
  congr 1
  change [(Column.swingHigh,(numbers .swingHigh _).2.getD i .na),
    (Column.swingLow,(numbers .swingLow _).2.getD i .na)] = _
  rw [getD_numbers _ (getElem?_swingHighs hi), getD_numbers _ (getElem?_swingLows hi)]
  rfl

theorem row_supportResistanceFeatures {df : List DailyPrice} {i : ℕ} (hi : i < df.length) :
    (supportResistanceFeatures df).row i = (levelFeatures df).row i ++
      [(.pullbackZoneLow,.num (pullbackAt (1/2) (swingValue (lastSwingHigh df i))
          (swingValue (lastSwingLow df i)))),
        (.pullbackZoneHigh,.num (pullbackAt (382/1000) (swingValue (lastSwingHigh df i))
          (swingValue (lastSwingLow df i))))] := by
  rw [supportResistanceFeatures, row_append]
  congr 1
  change [(Column.pullbackZoneLow,(numbers .pullbackZoneLow _).2.getD i .na),
    (Column.pullbackZoneHigh,(numbers .pullbackZoneHigh _).2.getD i .na)] = _
  rw [getD_numbers _ (getElem?_pullback _ hi), getD_numbers _ (getElem?_pullback _ hi)]

/-- What is stored of row `i`. -/
theorem rowToValues_calculate [FloatMath] (benchmark : Option (List DailyPrice))
    {df : List DailyPrice} {i : ℕ} {p : DailyPrice} (hp : df[i]? = some p) :
    rowToValues (calculate df benchmark) i =
      (cellsAt df i (lastSwingHigh df i) (lastSwingLow df i)
        ((symbolReturn df i).sub (returnOn benchmark p.date))).map store := by
  have hi : i < df.length := (List.getElem?_eq_some_iff.mp hp).choose
  rw [calculate, rowToValues_clean]
  congr 1
  rw [row_append, row_append, row_append, row_append, ← leadingFeatures,
    row_structureFeatures hi, row_supportResistanceFeatures hi,
    row_relativeStrengthFeatures benchmark hp]
  rfl

section Columns
variable [FloatMath] (df : List DailyPrice) (i : ℕ) (high low : Option ℚ) (relative : PyFloat)

theorem lookup_swingHigh : ((cellsAt df i high low relative).map store).lookup .swingHigh =
    some (store (.swingHigh,.num (swingValue high))).2 := by
  unfold cellsAt
  rfl

theorem lookup_swingLow : ((cellsAt df i high low relative).map store).lookup .swingLow =
    some (store (.swingLow,.num (swingValue low))).2 := by
  unfold cellsAt
  rfl

theorem lookup_rsVsNifty : ((cellsAt df i high low relative).map store).lookup .rsVsNifty =
    some (store (.rsVsNifty,.num relative)).2 := by
  unfold cellsAt
  rfl

end Columns

/-- Rounding to six places loses nothing of a price. -/
theorem eq_of_roundHalfEven {x y : Numeric4}
    (h : PyFloat.roundHalfEven (x.toRat*1000000) = PyFloat.roundHalfEven (y.toRat*1000000)) :
    x = y := by
  have hscaled : ∀ z : Numeric4, z.toRat*1000000 = ((z.units*100 : ℤ) : ℚ) := by
    intro z
    rw [Numeric4.toRat]
    push_cast
    ring
  rw [hscaled, hscaled, PyFloat.roundHalfEven_intCast, PyFloat.roundHalfEven_intCast] at h
  have hunits : x.units = y.units := by omega
  cases x
  cases y
  exact congrArg Numeric4.mk hunits

/-- A stored swing column tells the swing point. -/
theorem eq_of_store_swing {c : Column} (hc : c = .swingHigh ∨ c = .swingLow) {x y : Option ℚ}
    (hx : ∀ q ∈ x, ∃ price : Numeric4, price.toRat = q)
    (hy : ∀ q ∈ y, ∃ price : Numeric4, price.toRat = q)
    (h : (store (c,.num (swingValue x))).2 = (store (c,.num (swingValue y))).2) : x = y := by
  have hstore : ∀ z : Option ℚ, (store (c,.num (swingValue z))).2 =
      z.elim .null fun q => .decimal (PyFloat.roundHalfEven (q*1000000)) := by
    intro z
    obtain rfl | rfl := hc <;> cases z <;> rfl
  rw [hstore, hstore] at h
  cases x with
  | none =>
    cases y with
    | none => rfl
    | some q' => cases h
  | some q =>
    cases y with
    | none => cases h
    | some q' =>
      obtain ⟨a,rfl⟩ := hx q rfl
      obtain ⟨b,rfl⟩ := hy q' rfl
      obtain rfl := eq_of_roundHalfEven (FieldValue.decimal.inj h)
      rfl

theorem store_rsVsNifty (x : PyFloat) : (store (.rsVsNifty,.num x)).2 =
    (finite? x).elim .null fun q => .decimal (PyFloat.roundHalfEven (q*1000000)) := by
  cases x <;> rfl

theorem finite?_sub (x y : PyFloat) :
    finite? (x.sub y) = (finite? x).bind fun a => (finite? y).map fun b => a-b := by
  match x, y with
  | .nan, _ => rfl
  | .inf s, .nan => rfl
  | .inf s, .inf t =>
    change finite? (if s = !t then .inf s else .nan) = none
    split <;> rfl
  | .inf s, .finite b => rfl
  | .finite a, .nan => rfl
  | .finite a, .inf t => rfl
  | .finite a, .finite b => exact congrArg some (sub_eq_add_neg a b).symm

theorem lastSwingHigh_price {df : List DailyPrice} {i : ℕ} :
    ∀ q ∈ lastSwingHigh df i, ∃ price : Numeric4, price.toRat = q := by
  intro q hq
  obtain ⟨p,-,hp⟩ := List.mem_map.mp (mem_of_lastSwing _ hq)
  exact ⟨p.high,hp⟩

theorem lastSwingLow_price {df : List DailyPrice} {i : ℕ} :
    ∀ q ∈ lastSwingLow df i, ∃ price : Numeric4, price.toRat = q := by
  intro q hq
  obtain ⟨p,-,hp⟩ := List.mem_map.mp (mem_of_lastSwing _ hq)
  exact ⟨p.low,hp⟩

/-- Only the last cell of a row reads the benchmark. -/
theorem map_store_cellsAt [FloatMath] (df : List DailyPrice) (i : ℕ) (high low : Option ℚ)
    {x y : PyFloat} (h : (store (.rsVsNifty,.num x)).2 = (store (.rsVsNifty,.num y)).2) :
    (cellsAt df i high low x).map store = (cellsAt df i high low y).map store := by
  have hcell : store (.rsVsNifty,.num x) = store (.rsVsNifty,.num y) := Prod.ext rfl h
  simp only [cellsAt, List.map_append, List.map_singleton, hcell]

/-- The stored row of a bar. -/
def storedRow [FloatMath] (symbolId : ℕ) (df : List DailyPrice)
    (benchmark : Option (List DailyPrice)) (i : ℕ) (d : Date) : DailyFeature :=
  (DailyFeature.new symbolId d).assign (rowToValues (calculate df benchmark) i)

/-- Two differences from one return are stored alike exactly where that return has no value or the
others have the same one. -/
theorem store_relative_iff (own : PyFloat) {a b : PyFloat}
    (hreturn : ∀ x ∈ finite? a, ∀ y ∈ finite? b, x = y) :
    (store (.rsVsNifty,.num (own.sub a))).2 = (store (.rsVsNifty,.num (own.sub b))).2 ↔
      (finite? own = none ∨ finite? a = finite? b) := by
  rw [store_rsVsNifty, store_rsVsNifty, finite?_sub, finite?_sub]
  cases hown : finite? own with
  | none => simp
  | some own =>
    cases ha : finite? a with
    | none =>
      cases hb : finite? b with
      | none => simp
      | some b => simp
    | some a =>
      cases hb : finite? b with
      | none => simp
      | some b =>
        obtain rfl := hreturn a ha b hb
        simp

/-- Assignments that leave a row the same give each column that both of them name the same value. -/
theorem eq_of_assign_eq {row : DailyFeature} {xs ys : List (Column × FieldValue)}
    (h : row.assign xs = row.assign ys) {c : Column} {x y : FieldValue} (hx : xs.lookup c = some x)
    (hy : ys.lookup c = some y) : x = y := by
  have hc := congrFun (congrArg DailyFeature.values h) c
  simp only [DailyFeature.assign, hx, hy, Option.getD_some] at hc
  exact hc

/-- The row of a bar, computed before and after later bars have come: it is the same exactly where
the swing points before it and its return against the benchmark are. -/
theorem storedRow_eq_iff [FloatMath] (symbolId : ℕ) {now rest : List DailyPrice} {i : ℕ}
    {p : DailyPrice} (hp : now[i]? = some p) (benchmark benchmark' : Option (List DailyPrice))
    (hreturn : ∀ a ∈ finite? (returnOn benchmark p.date),
      ∀ b ∈ finite? (returnOn benchmark' p.date), a = b) :
    storedRow symbolId now benchmark i p.date =
        storedRow symbolId (now ++ rest) benchmark' i p.date ↔
      lastSwingHigh now i = lastSwingHigh (now ++ rest) i ∧
        lastSwingLow now i = lastSwingLow (now ++ rest) i ∧
        (finite? (symbolReturn (now ++ rest) i) = none ∨
          finite? (returnOn benchmark p.date) = finite? (returnOn benchmark' p.date)) := by
  have hi : i < now.length := (List.getElem?_eq_some_iff.mp hp).choose
  have htake : (now ++ rest).take now.length = now := List.take_left
  have hp' : (now ++ rest)[i]? = some p := by rw [List.getElem?_append_left hi, hp]
  have hsymbol : symbolReturn now i = symbolReturn (now ++ rest) i := by
    conv_lhs => rw [← htake]
    simp only [symbolReturn, closes_take, pctChange_take, List.map_take,
      List.getD_eq_getElem?_getD, List.getElem?_take_of_lt hi]
  have hcells : ∀ high low relative, cellsAt now i high low relative =
      cellsAt (now ++ rest) i high low relative := by
    intro high low relative
    conv_lhs => rw [← htake]
    exact cellsAt_take _ hi high low relative
  have hrow : rowToValues (calculate now benchmark) i = (cellsAt (now ++ rest) i
      (lastSwingHigh now i) (lastSwingLow now i)
      ((symbolReturn (now ++ rest) i).sub (returnOn benchmark p.date))).map store := by
    rw [rowToValues_calculate benchmark hp, hcells, hsymbol]
  have hrow' := rowToValues_calculate benchmark' hp'
  have hrelative := store_relative_iff (symbolReturn (now ++ rest) i) hreturn
  rw [← hrelative]
  unfold storedRow
  rw [hrow, hrow']
  constructor
  · intro h
    refine ⟨?_,?_,?_⟩
    · exact eq_of_store_swing (Or.inl rfl) lastSwingHigh_price lastSwingHigh_price
        (eq_of_assign_eq h (lookup_swingHigh _ _ _ _ _) (lookup_swingHigh _ _ _ _ _))
    · exact eq_of_store_swing (Or.inr rfl) lastSwingLow_price lastSwingLow_price
        (eq_of_assign_eq h (lookup_swingLow _ _ _ _ _) (lookup_swingLow _ _ _ _ _))
    · exact eq_of_assign_eq h (lookup_rsVsNifty _ _ _ _ _) (lookup_rsVsNifty _ _ _ _ _)
  · rintro ⟨hhigh,hlow,hsame⟩
    rw [hhigh, hlow, map_store_cellsAt _ _ _ _ hsame]

/-- The columns of a bar that the calculators read. -/
structure ReadColumns where
  high : Numeric4
  low : Numeric4
  close : Numeric4
  volume : ℤ
  deriving DecidableEq

def readColumns (p : DailyPrice) : ReadColumns := ⟨p.high,p.low,p.close,p.volume⟩

section Congruence
variable {df df' : List DailyPrice} (h : df.map readColumns = df'.map readColumns)
include h

theorem map_eq_of_readColumns {β : Type*} (f : ReadColumns → β) :
    df.map (fun p => f (readColumns p)) = df'.map (fun p => f (readColumns p)) := by
  have hmap := congrArg (List.map f) h
  rw [List.map_map, List.map_map] at hmap
  exact hmap

theorem cellsAt_congr [FloatMath] (i : ℕ) (high low : Option ℚ) (relative : PyFloat) :
    cellsAt df i high low relative = cellsAt df' i high low relative := by
  have hhighs : highs df = highs df' :=
    map_eq_of_readColumns h fun c => PyFloat.finite c.high.toRat
  have hlows : lows df = lows df' :=
    map_eq_of_readColumns h fun c => PyFloat.finite c.low.toRat
  have hcloses : closes df = closes df' :=
    map_eq_of_readColumns h fun c => PyFloat.finite c.close.toRat
  have hvolumes : volumes df = volumes df' :=
    map_eq_of_readColumns h fun c => PyFloat.finite c.volume
  simp only [cellsAt, leadingFeatures, trendFeatures, momentumFeatures, volatilityFeatures,
    volumeFeatures, priceActionFeatures, channelFeatures, levelFeatures, patternFeatures, hhighs,
    hlows, hcloses, hvolumes]

/-- Rows computed from bars alike in what is read of them, against the same return, are the same. -/
theorem storedRow_congr [FloatMath] (symbolId : ℕ) {i : ℕ} {p p' : DailyPrice}
    (hp : df[i]? = some p) (hp' : df'[i]? = some p') (hdate : p'.date = p.date)
    {benchmark benchmark' : Option (List DailyPrice)}
    (hreturn : finite? (symbolReturn df' i) = none ∨
      finite? (returnOn benchmark p.date) = finite? (returnOn benchmark' p.date)) :
    storedRow symbolId df benchmark i p.date = storedRow symbolId df' benchmark' i p.date := by
  have hhigh : lastSwingHigh df i = lastSwingHigh df' i :=
    congrArg (fun prices => lastSwing (fun y x => y ≤ x) prices i)
      (map_eq_of_readColumns h fun c => c.high.toRat)
  have hlow : lastSwingLow df i = lastSwingLow df' i :=
    congrArg (fun prices => lastSwing (fun y x => x ≤ y) prices i)
      (map_eq_of_readColumns h fun c => c.low.toRat)
  have hcloses : closes df = closes df' :=
    map_eq_of_readColumns h fun c => PyFloat.finite c.close.toRat
  have hsymbol : symbolReturn df i = symbolReturn df' i := by
    unfold symbolReturn
    rw [hcloses]
  have hrelative : (store (.rsVsNifty,.num ((symbolReturn df' i).sub
      (returnOn benchmark p.date)))).2 = (store (.rsVsNifty,.num ((symbolReturn df' i).sub
        (returnOn benchmark' p.date)))).2 := by
    rw [store_rsVsNifty, store_rsVsNifty, finite?_sub, finite?_sub]
    rcases hreturn with hnone | hsame
    · rw [hnone]
      rfl
    · rw [hsame]
  unfold storedRow
  rw [rowToValues_calculate benchmark hp, rowToValues_calculate benchmark' hp', hdate, hhigh, hlow,
    hsymbol, cellsAt_congr h, map_store_cellsAt _ _ _ _ hrelative]

end Congruence

end MarketScanner.Features
