import Mathlib.Order.Bounds.Basic
import MarketScanner.Library.Extremes
import MarketScanner.Python.Decimals
import MarketScanner.Python.Numerals

/-! The target and the stop that the compounding engine derives from the levels around a price. Both
are rounded after they have been chosen and compared. -/
namespace MarketScanner.Compounding
open MarketScanner.Library MarketScanner.Python

inductive TargetClassification
  | notAttractive | minimumOpportunity | good | strong | veryStrong | exceptional | unknown
  deriving DecidableEq

structure TargetResult where
  targetPrice : Option ℚ
  potentialUpsidePct : Option ℚ
  targetClassification : TargetClassification
  basis : String
  deriving DecidableEq

structure RiskResult where
  stopLoss : Option ℚ
  riskPct : Option ℚ
  rewardRiskRatio : Option ℚ
  basis : String
  deriving DecidableEq

/-- `_BANDS`, highest first. -/
def bands : List (ℚ × TargetClassification) :=
  [(20,.exceptional),(15,.veryStrong),(12,.strong),(8,.good),(5,.minimumOpportunity)]

def classifyUpside : Option ℚ → TargetClassification
  | none => .unknown
  | some potentialUpsidePct =>
    match bands.find? fun band => decide (band.1 ≤ potentialUpsidePct) with
    | some band => band.2
    | none => .notAttractive

/-- The range's height projected above it. -/
def measuredMove : Option ℚ → Option ℚ → Option (ℚ × String)
  | some resistanceLevel, some supportLevel =>
    if supportLevel < resistanceLevel then
      some (resistanceLevel+(resistanceLevel-supportLevel),
        "measured move: resistance + (resistance - support)")
    else none
  | _, _ => none

/-- A level that is above the price. -/
def levelAbove (price : ℚ) (level : Option ℚ) (basis : String) : Option (ℚ × String) :=
  (level.filter fun level => decide (price < level)).map fun level => (level,basis)

/-- `derive_target`. -/
def deriveTarget (price resistanceLevel supportLevel swingHigh : Option ℚ) : TargetResult :=
  match price.filter fun price => decide (0 < price) with
  | none => ⟨none,none,.unknown,"current price unavailable"⟩
  | some price =>
    let level := (measuredMove resistanceLevel supportLevel).or
      ((levelAbove price resistanceLevel "resistance level (not yet cleared)").or
        (levelAbove price swingHigh "most recent swing high"))
    match level with
    | none =>
      ⟨none,none,.unknown,
        "no resistance/support/swing-high level available to project a target from"⟩
    | some (targetPrice,basis) =>
      let potentialUpsidePct := roundTo 2 ((targetPrice/price-1)*100)
      ⟨some (roundTo 2 targetPrice),some potentialUpsidePct,classifyUpside (some potentialUpsidePct),
        basis⟩

/-- A level between zero and the price. -/
def levelBelow (price : ℚ) (level : Option ℚ) (basis : String) : List (ℚ × String) :=
  ((level.filter fun level => decide (0 < level ∧ level < price)).map fun level => (level,basis)).toList

/-- The average range below the price, so many times. -/
def atrBelow (price : ℚ) (atr14 : Option ℚ) (atrMultiplier : ℚ) : List (ℚ × String) :=
  ((atr14.filter fun atr14 => decide (0 < atr14)).map fun atr14 =>
    (price-atr14*atrMultiplier,"ATR(14) x " ++ formatGeneral atrMultiplier)).toList

/-- `candidates`; the swing low is the last resort. -/
def candidates (price : ℚ) (supportLevel swingLow atr14 : Option ℚ) (atrMultiplier : ℚ) :
    List (ℚ × String) :=
  let near := levelBelow price supportLevel "support level" ++ atrBelow price atr14 atrMultiplier
  if near = [] then levelBelow price swingLow "swing low" else near

/-- `derive_risk`. -/
def deriveRisk (price targetPrice supportLevel swingLow atr14 : Option ℚ)
    (atrMultiplier : ℚ := 3/2) : RiskResult :=
  match price.filter fun price => decide (0 < price) with
  | none => ⟨none,none,none,"current price unavailable"⟩
  | some price =>
    match candidates price supportLevel swingLow atr14 atrMultiplier with
    | [] => ⟨none,none,none,"no support/ATR/swing-low level available below current price"⟩
    | first::rest =>
      let (stopLoss,basis) := firstMax Prod.fst first rest
      if stopLoss ≤ 0 then ⟨none,none,none,"derived stop-loss is non-positive"⟩
      else
        let riskPct := roundTo 2 ((price-stopLoss)/price*100)
        let rewardRiskRatio := targetPrice.bind fun targetPrice =>
          let riskAmount := price-stopLoss
          if 0 < riskAmount then some (roundTo 2 ((targetPrice-price)/riskAmount)) else none
        ⟨some (roundTo 2 stopLoss),some riskPct,rewardRiskRatio,basis⟩

/-! ### The levels that are chosen -/

structure LevelInputs where
  price : Option ℚ
  resistanceLevel : Option ℚ
  supportLevel : Option ℚ
  swingHigh : Option ℚ
  swingLow : Option ℚ
  atr14 : Option ℚ

namespace LevelInputs
variable (i : LevelInputs)

/-- The target and the risk as `evaluate_compounding` derives them: the risk from the target that is
reported. -/
def target : TargetResult := deriveTarget i.price i.resistanceLevel i.supportLevel i.swingHigh

def risk (atrMultiplier : ℚ) : RiskResult :=
  deriveRisk i.price i.target.targetPrice i.supportLevel i.swingLow i.atr14 atrMultiplier

def HasPrice (price : ℚ) : Prop := i.price = some price ∧ 0 < price

/-- Support below the price, or the average range below it. -/
def Near (atrMultiplier price level : ℚ) : Prop :=
  i.supportLevel = some level ∧ 0 < level ∧ level < price ∨
    ∃ atr14, i.atr14 = some atr14 ∧ 0 < atr14 ∧ level = price-atr14*atrMultiplier

/-- The stop before it is rounded: the highest of the near levels, or for want of any the swing low. -/
def Stop (atrMultiplier price stop : ℚ) : Prop :=
  0 < stop ∧ (IsGreatest {level | i.Near atrMultiplier price level} stop ∨
    (∀ level, ¬i.Near atrMultiplier price level) ∧ i.swingLow = some stop ∧ stop < price)

/-- There is a range to measure a move by. -/
def Move (target : ℚ) : Prop :=
  ∃ resistance support, i.resistanceLevel = some resistance ∧ i.supportLevel = some support ∧
    support < resistance ∧ target = resistance+(resistance-support)

/-- The target before it is rounded: the measured move, or else the resistance or else the swing high
above the price. -/
def Target (price target : ℚ) : Prop :=
  i.Move target ∨ (∀ move, ¬i.Move move) ∧
    (i.resistanceLevel = some target ∧ price < target ∨
      (∀ level, i.resistanceLevel = some level → level ≤ price) ∧
        i.swingHigh = some target ∧ price < target)

end LevelInputs

/-- Two numbers on the same side of zero. -/
structure SameSign (x y : ℚ) : Prop where
  pos : 0 < x ↔ 0 < y
  neg : x < 0 ↔ y < 0

/-- What is reported of the risk is consistent with the price and the target. -/
structure RiskConsistent (i : LevelInputs) (atrMultiplier : ℚ) : Prop where
  stop : ∀ stopLoss, (i.risk atrMultiplier).stopLoss = some stopLoss → ∃ price riskPct,
    i.price = some price ∧ (i.risk atrMultiplier).riskPct = some riskPct ∧
      0 < stopLoss ∧ stopLoss < price ∧ 0 < riskPct
  ratio : ∀ stopLoss targetPrice, (i.risk atrMultiplier).stopLoss = some stopLoss →
    i.target.targetPrice = some targetPrice → ∃ price ratio, i.price = some price ∧
      (i.risk atrMultiplier).rewardRiskRatio = some ratio ∧ SameSign ratio (targetPrice-price)
  upside : ∀ targetPrice, i.target.targetPrice = some targetPrice → ∃ price upside,
    i.price = some price ∧ i.target.potentialUpsidePct = some upside ∧
      SameSign upside (targetPrice-price)

/-- A whole number of cents that is nearest to a level, of two the even one. -/
def NearestCents (level : ℚ) (cents : ℤ) : Prop :=
  |level*100-cents| < 1/2 ∨ |level*100-cents| = 1/2 ∧ Even cents

/-- The stop is more than half a cent and no more than half a cent above some whole cents below the
price, and the risk is more than half a basis point of the price. -/
structure StopSurvives (price stop : ℚ) : Prop where
  pos : 1/2 < stop*100
  below : ∃ cents : ℤ, (cents : ℚ) < price*100 ∧
    (stop*100 < cents+1/2 ∨ stop*100 = cents+1/2 ∧ Even cents)
  risk : price < 20000*(price-stop)

/-- The rounding moves no level and no ratio across what it is compared with: that of the stop, that of
the ratio where the cents nearest to the target are off the price by more than half a percent of the
risk, and that of the upside where they are off the price just when the target is by more than half a
basis point, to the same side. -/
structure SurvivesRounding (i : LevelInputs) (atrMultiplier : ℚ) : Prop where
  stop : ∀ price stop, i.HasPrice price → i.Stop atrMultiplier price stop → StopSurvives price stop
  ratio : ∀ price stop target cents, i.HasPrice price → i.Stop atrMultiplier price stop →
    i.Target price target → NearestCents target cents → (cents/100 : ℚ) ≠ price →
      price-stop < 200*|(cents/100 : ℚ)-price|
  upside : ∀ price target cents, i.HasPrice price → i.Target price target →
    NearestCents target cents →
      (price < (cents/100 : ℚ) ↔ price < 20000*(target-price)) ∧
        ((cents/100 : ℚ) < price ↔ price < 20000*(price-target))

/-! ### What is reported of them -/
section Chosen
variable {i : LevelInputs} {atrMultiplier price : ℚ}

theorem mem_levelBelow {level : Option ℚ} {basis : String} {x : ℚ} :
    x ∈ (levelBelow price level basis).map Prod.fst ↔ level = some x ∧ 0 < x ∧ x < price := by
  cases level with
  | none => simp [levelBelow]
  | some l =>
    by_cases h : 0 < l ∧ l < price
    · simp only [levelBelow, Option.filter, h, and_self, decide_true, if_true, Option.map_some,
        Option.toList_some, List.map_cons, List.map_nil, List.mem_singleton, Option.some.injEq]
      exact ⟨fun heq => ⟨heq.symm,heq ▸ h⟩,fun hx => hx.1.symm⟩
    · simp only [levelBelow, Option.filter, h, decide_false, Bool.false_eq_true, if_false,
        Option.map_none, Option.toList_none, List.map_nil, List.not_mem_nil, Option.some.injEq,
        false_iff]
      rintro ⟨rfl,hx⟩
      exact h hx

theorem mem_atrBelow {atr14 : Option ℚ} {x : ℚ} :
    x ∈ (atrBelow price atr14 atrMultiplier).map Prod.fst ↔
      ∃ a, atr14 = some a ∧ 0 < a ∧ x = price-a*atrMultiplier := by
  cases atr14 with
  | none => simp [atrBelow]
  | some a =>
    by_cases h : 0 < a
    · simp [atrBelow, Option.filter, h]
    · simp [atrBelow, Option.filter, h]

theorem mem_near {x : ℚ} : x ∈ (levelBelow price i.supportLevel "support level" ++
    atrBelow price i.atr14 atrMultiplier).map Prod.fst ↔ i.Near atrMultiplier price x := by
  rw [List.map_append, List.mem_append, mem_levelBelow, mem_atrBelow, LevelInputs.Near]

theorem LevelInputs.Near.lt (hmultiplier : 0 < atrMultiplier) {level : ℚ}
    (h : i.Near atrMultiplier price level) : level < price := by
  rcases h with ⟨-,-,hlt⟩ | ⟨a,-,ha,rfl⟩
  · exact hlt
  · exact sub_lt_self price (mul_pos ha hmultiplier)

theorem LevelInputs.Stop.lt (hmultiplier : 0 < atrMultiplier) {stop : ℚ}
    (h : i.Stop atrMultiplier price stop) : stop < price := by
  obtain ⟨-,hnear | ⟨-,-,hlt⟩⟩ := h
  · exact LevelInputs.Near.lt hmultiplier hnear.1
  · exact hlt

theorem LevelInputs.Stop.unique {stop stop' : ℚ} (h : i.Stop atrMultiplier price stop)
    (h' : i.Stop atrMultiplier price stop') : stop = stop' := by
  obtain ⟨-,hnear | ⟨hnone,hlow,-⟩⟩ := h
  · obtain ⟨-,hnear' | ⟨hnone',-,-⟩⟩ := h'
    · exact hnear.unique hnear'
    · exact absurd hnear.1 (hnone' stop)
  · obtain ⟨-,hnear' | ⟨-,hlow',-⟩⟩ := h'
    · exact absurd hnear'.1 (hnone stop')
    · exact Option.some.inj (hlow.symm.trans hlow')

theorem LevelInputs.Target.unique {target target' : ℚ} (h : i.Target price target)
    (h' : i.Target price target') : target = target' := by
  have hmove : ∀ {t t'}, i.Move t → i.Move t' → t = t' := by
    rintro t t' ⟨r,s,hr,hs,-,rfl⟩ ⟨r',s',hr',hs',-,rfl⟩
    rw [Option.some.inj (hr.symm.trans hr'), Option.some.inj (hs.symm.trans hs')]
  rcases h with h | ⟨hnone,h⟩
  · rcases h' with h' | ⟨hnone',-⟩
    · exact hmove h h'
    · exact absurd h (hnone' target)
  · rcases h' with h' | ⟨-,h'⟩
    · exact absurd h' (hnone target')
    · rcases h with ⟨hr,hlt⟩ | ⟨hle,hs,-⟩
      · rcases h' with ⟨hr',-⟩ | ⟨hle',-,-⟩
        · exact Option.some.inj (hr.symm.trans hr')
        · exact absurd hlt (not_lt.mpr (hle' target hr))
      · rcases h' with ⟨hr',hlt'⟩ | ⟨-,hs',-⟩
        · exact absurd hlt' (not_lt.mpr (hle target' hr'))
        · exact Option.some.inj (hs.symm.trans hs')

/-- The candidates hold every near level, and the swing low for want of one. -/
theorem mem_candidates {x : ℚ} :
    x ∈ (candidates price i.supportLevel i.swingLow i.atr14 atrMultiplier).map Prod.fst ↔
      i.Near atrMultiplier price x ∨ (∀ level, ¬i.Near atrMultiplier price level) ∧
        i.swingLow = some x ∧ 0 < x ∧ x < price := by
  unfold candidates
  dsimp only
  split
  · rename_i hnil
    have hnone : ∀ level, ¬i.Near atrMultiplier price level := by
      intro level hlevel
      have hmem := mem_near.mpr hlevel
      rw [hnil] at hmem
      exact List.not_mem_nil hmem
    rw [mem_levelBelow]
    constructor
    · exact fun hlow => .inr ⟨hnone,hlow⟩
    · rintro (hnear | ⟨-,hlow⟩)
      · exact absurd hnear (hnone x)
      · exact hlow
  · rename_i hne
    rw [mem_near]
    constructor
    · exact .inl
    · rintro (hnear | ⟨hnone,-⟩)
      · exact hnear
      · obtain ⟨level,hlevel⟩ := List.exists_mem_of_ne_nil _ hne
        exact absurd (mem_near.mp (List.mem_map_of_mem hlevel)) (hnone level.1)

/-- A stop is a candidate above zero that no candidate is above. -/
theorem stop_iff {stop : ℚ} : i.Stop atrMultiplier price stop ↔ 0 < stop ∧ IsGreatest
    {x | x ∈ (candidates price i.supportLevel i.swingLow i.atr14 atrMultiplier).map Prod.fst} stop := by
  refine and_congr_right fun hpos => ?_
  simp only [IsGreatest, upperBounds, Set.mem_ofPred_eq, mem_candidates]
  constructor
  · rintro (⟨hnear,hle⟩ | ⟨hnone,hlow,hlt⟩)
    · refine ⟨.inl hnear,?_⟩
      rintro x (hx | ⟨hnone,-⟩)
      · exact hle hx
      · exact absurd hnear (hnone stop)
    · refine ⟨.inr ⟨hnone,hlow,hpos,hlt⟩,?_⟩
      rintro x (hx | ⟨-,hx,-⟩)
      · exact absurd hx (hnone x)
      · exact (Option.some.inj (hx.symm.trans hlow)).le
  · rintro ⟨hnear | ⟨hnone,hlow,-,hlt⟩,hle⟩
    · exact .inl ⟨hnear,fun x hx => hle (.inl hx)⟩
    · exact .inr ⟨hnone,hlow,hlt⟩

theorem isGreatest_firstMax (first : ℚ × String) (rest : List (ℚ × String)) :
    IsGreatest {x | x ∈ (first::rest).map Prod.fst} (firstMax Prod.fst first rest).1 := by
  obtain ⟨hmem,hle⟩ := firstMax_spec Prod.fst first rest
  exact ⟨List.mem_map_of_mem hmem,List.forall_mem_map.mpr hle⟩

/-- What is reported of the risk where there is a stop, and that nothing is where there is none. -/
theorem risk_cases (i : LevelInputs) (atrMultiplier : ℚ) :
    (∃ price stop, i.HasPrice price ∧ i.Stop atrMultiplier price stop ∧
      (i.risk atrMultiplier).stopLoss = some (roundTo 2 stop) ∧
      (i.risk atrMultiplier).riskPct = some (roundTo 2 ((price-stop)/price*100)) ∧
      (i.risk atrMultiplier).rewardRiskRatio = i.target.targetPrice.bind fun targetPrice =>
        if 0 < price-stop then some (roundTo 2 ((targetPrice-price)/(price-stop))) else none) ∨
    (i.risk atrMultiplier).stopLoss = none ∧
      ∀ price stop, i.HasPrice price → ¬i.Stop atrMultiplier price stop := by
  unfold LevelInputs.risk deriveRisk
  split
  · rename_i hprice
    refine .inr ⟨rfl,fun price stop ⟨hsome,hpos⟩ => ?_⟩
    simp [hsome, Option.filter, hpos] at hprice
  · rename_i price hprice
    obtain ⟨hsome,hpos⟩ := Option.filter_eq_some_iff.mp hprice
    have hprice : i.HasPrice price := ⟨hsome,of_decide_eq_true hpos⟩
    have hunique : ∀ {price'}, i.HasPrice price' → price' = price :=
      fun hprice' => Option.some.inj (hprice'.1.symm.trans hsome)
    split
    · rename_i hnil
      refine .inr ⟨rfl,fun price' stop hprice' hstop => ?_⟩
      obtain rfl := hunique hprice'
      have hmem := (stop_iff.mp hstop).2.1
      rw [hnil] at hmem
      exact List.not_mem_nil hmem
    · rename_i first rest hcons
      have hgreatest := isGreatest_firstMax first rest
      rw [← hcons] at hgreatest
      dsimp only
      split
      · rename_i hle
        refine .inr ⟨rfl,fun price' stop hprice' hstop => ?_⟩
        obtain rfl := hunique hprice'
        obtain ⟨hstop,hgreatest'⟩ := stop_iff.mp hstop
        rw [hgreatest'.unique hgreatest] at hstop
        exact not_lt.mpr hle hstop
      · rename_i hlt
        exact .inl ⟨price,_,hprice,stop_iff.mpr ⟨not_le.mp hlt,hgreatest⟩,rfl,rfl,rfl⟩

theorem levelAbove_eq_some_iff {level : Option ℚ} {basis : String} {x : ℚ × String} :
    levelAbove price level basis = some x ↔ ∃ l, level = some l ∧ price < l ∧ x = (l,basis) := by
  simp only [levelAbove, Option.map_eq_some_iff, Option.filter_eq_some_iff, decide_eq_true_eq]
  constructor
  · rintro ⟨l,⟨hl,hlt⟩,rfl⟩
    exact ⟨l,hl,hlt,rfl⟩
  · rintro ⟨l,hl,hlt,rfl⟩
    exact ⟨l,⟨hl,hlt⟩,rfl⟩

theorem levelAbove_eq_none_iff {level : Option ℚ} {basis : String} :
    levelAbove price level basis = none ↔ ∀ l, level = some l → l ≤ price := by
  simp only [levelAbove, Option.map_eq_none_iff, Option.filter_eq_none_iff, decide_eq_true_eq, not_lt]

theorem measuredMove_eq_some_iff {target : ℚ} :
    (∃ basis, measuredMove i.resistanceLevel i.supportLevel = some (target,basis)) ↔
      i.Move target := by
  unfold measuredMove LevelInputs.Move
  constructor
  · rintro ⟨basis,h⟩
    split at h
    · rename_i r s hr hs
      split at h
      · rename_i hlt
        obtain ⟨rfl,-⟩ := Prod.ext_iff.mp (Option.some.inj h)
        exact ⟨r,s,hr,hs,hlt,rfl⟩
      · cases h
    · cases h
  · rintro ⟨r,s,hr,hs,hlt,rfl⟩
    rw [hr, hs]
    exact ⟨_,if_pos hlt⟩

theorem measuredMove_eq_none_iff :
    measuredMove i.resistanceLevel i.supportLevel = none ↔ ∀ move, ¬i.Move move := by
  constructor
  · intro hnone move hmove
    obtain ⟨basis,hsome⟩ := measuredMove_eq_some_iff.mpr hmove
    rw [hnone] at hsome
    cases hsome
  · intro hnone
    cases hmove : measuredMove i.resistanceLevel i.supportLevel with
    | none => rfl
    | some move => exact absurd (measuredMove_eq_some_iff.mp ⟨move.2,hmove⟩) (hnone move.1)

/-- The level that is chosen is the target. -/
theorem target_iff {target : ℚ} : i.Target price target ↔
    ∃ basis, (measuredMove i.resistanceLevel i.supportLevel).or
      ((levelAbove price i.resistanceLevel "resistance level (not yet cleared)").or
        (levelAbove price i.swingHigh "most recent swing high")) = some (target,basis) := by
  simp only [Option.or_eq_some_iff, exists_or, exists_and_left, measuredMove_eq_some_iff,
    measuredMove_eq_none_iff, levelAbove_eq_some_iff, levelAbove_eq_none_iff, Prod.mk.injEq]
  refine or_congr_right (and_congr_right fun _ => or_congr ?_ (and_congr_right fun _ => ?_))
  · constructor
    · rintro ⟨hr,hlt⟩
      exact ⟨_,target,hr,hlt,rfl,rfl⟩
    · rintro ⟨_,l,hr,hlt,rfl,-⟩
      exact ⟨hr,hlt⟩
  · constructor
    · rintro ⟨hs,hlt⟩
      exact ⟨_,target,hs,hlt,rfl,rfl⟩
    · rintro ⟨_,l,hs,hlt,rfl,-⟩
      exact ⟨hs,hlt⟩

/-- What is reported of the target where there is one, and that nothing is where there is none. -/
theorem target_cases (i : LevelInputs) :
    (∃ price target, i.HasPrice price ∧ i.Target price target ∧
      i.target.targetPrice = some (roundTo 2 target) ∧
      i.target.potentialUpsidePct = some (roundTo 2 ((target/price-1)*100))) ∨
    i.target.targetPrice = none ∧ ∀ price target, i.HasPrice price → ¬i.Target price target := by
  unfold LevelInputs.target deriveTarget
  split
  · rename_i hprice
    refine .inr ⟨rfl,fun price target ⟨hsome,hpos⟩ => ?_⟩
    simp [hsome, Option.filter, hpos] at hprice
  · rename_i price hprice
    obtain ⟨hsome,hpos⟩ := Option.filter_eq_some_iff.mp hprice
    have hprice : i.HasPrice price := ⟨hsome,of_decide_eq_true hpos⟩
    dsimp only
    split
    · rename_i hnone
      refine .inr ⟨rfl,fun price' target hprice' htarget => ?_⟩
      obtain rfl := Option.some.inj (hprice'.1.symm.trans hsome)
      obtain ⟨basis,htarget⟩ := target_iff.mp htarget
      rw [hnone] at htarget
      cases htarget
    · rename_i target basis htarget
      exact .inl ⟨price,target,hprice,target_iff.mpr ⟨basis,htarget⟩,rfl,rfl⟩

end Chosen

/-! ### What the rounding keeps -/
section Rounding
variable {price x y : ℚ}

theorem forall_nearestCents (level : ℚ) (p : ℚ → Prop) :
    (∀ cents, NearestCents level cents → p (cents/100 : ℚ)) ↔ p (roundTo 2 level) := by
  have hround : ∀ cents, NearestCents level cents ↔ PyFloat.roundHalfEven (level*10^2) = cents := by
    intro cents
    rw [PyFloat.roundHalfEven_eq_iff, NearestCents]
    norm_num
  have hcents : roundTo 2 level = (PyFloat.roundHalfEven (level*10^2) : ℚ)/100 := by
    rw [roundTo]
    norm_num
  simp only [hround, forall_eq', hcents]

/-- A percentage is rounded to what is above zero if it is more than half a basis point. -/
theorem roundTo_percent_pos_iff (hprice : 0 < price) :
    0 < roundTo 2 (x/price*100) ↔ price < 20000*x := by
  rw [roundTo_pos_iff, div_mul_eq_mul_div, div_mul_eq_mul_div, lt_div_iff₀ hprice]
  constructor <;> intro h <;> linarith

theorem roundTo_percent_neg_iff (hprice : 0 < price) :
    roundTo 2 (x/price*100) < 0 ↔ price < 20000*-x := by
  rw [roundTo_neg_iff, div_mul_eq_mul_div, div_mul_eq_mul_div, div_lt_iff₀ hprice]
  constructor <;> intro h <;> linarith

theorem sameSign_ratio_iff {risk : ℚ} (hrisk : 0 < risk) :
    SameSign (roundTo 2 (x/risk)) x ↔ (x ≠ 0 → risk < 200*|x|) := by
  have hpos : 0 < roundTo 2 (x/risk) ↔ risk < 200*x := by
    rw [roundTo_pos_iff, div_mul_eq_mul_div, lt_div_iff₀ hrisk]
    constructor <;> intro h <;> linarith
  have hneg : roundTo 2 (x/risk) < 0 ↔ risk < 200*-x := by
    rw [roundTo_neg_iff, div_mul_eq_mul_div, div_lt_iff₀ hrisk]
    constructor <;> intro h <;> linarith
  constructor
  · rintro ⟨hiffpos,hiffneg⟩ hne
    rcases hne.lt_or_gt with hlt | hgt
    · rw [abs_of_neg hlt]
      exact hneg.mp (hiffneg.mpr hlt)
    · rw [abs_of_pos hgt]
      exact hpos.mp (hiffpos.mpr hgt)
  · intro h
    refine ⟨hpos.trans ⟨fun hlt => by linarith,fun hgt => ?_⟩,
      hneg.trans ⟨fun hlt => by linarith,fun hlt => ?_⟩⟩
    · have habs := h hgt.ne'
      rwa [abs_of_pos hgt] at habs
    · have habs := h hlt.ne
      rwa [abs_of_neg hlt] at habs

/-- The stop is reported between zero and the price, with a risk above zero, where it survives. -/
theorem stopSurvives_iff (hprice : 0 < price) {stop : ℚ} : StopSurvives price stop ↔
    0 < roundTo 2 stop ∧ roundTo 2 stop < price ∧ 0 < roundTo 2 ((price-stop)/price*100) := by
  rw [roundTo_pos_iff, roundTo_lt_iff, roundTo_percent_pos_iff hprice]
  norm_num only
  exact ⟨fun h => ⟨h.pos,h.below,h.risk⟩,fun ⟨hpos,hbelow,hrisk⟩ => ⟨hpos,hbelow,hrisk⟩⟩

theorem sameSign_upside_iff (hprice : 0 < price) (target reported : ℚ) :
    SameSign (roundTo 2 ((target/price-1)*100)) (reported-price) ↔
      (price < reported ↔ price < 20000*(target-price)) ∧
        (reported < price ↔ price < 20000*(price-target)) := by
  have hpercent : target/price-1 = (target-price)/price := by
    rw [sub_div, div_self hprice.ne']
  have hpos := roundTo_percent_pos_iff (x := target-price) hprice
  have hneg := roundTo_percent_neg_iff (x := target-price) hprice
  rw [neg_sub] at hneg
  rw [hpercent]
  constructor
  · rintro ⟨hiffpos,hiffneg⟩
    rw [hpos, sub_pos] at hiffpos
    rw [hneg, sub_neg] at hiffneg
    exact ⟨hiffpos.symm,hiffneg.symm⟩
  · rintro ⟨hiffpos,hiffneg⟩
    constructor
    · rw [hpos, sub_pos]
      exact hiffpos.symm
    · rw [hneg, sub_neg]
      exact hiffneg.symm

end Rounding

/-! ### When the report is consistent -/
section Consistent
variable {i : LevelInputs} {atrMultiplier : ℚ}

theorem LevelInputs.HasPrice.unique {price price' : ℚ} (h : i.HasPrice price)
    (h' : i.HasPrice price') : price = price' := Option.some.inj (h.1.symm.trans h'.1)

theorem consistent_stop_iff :
    (∀ stopLoss, (i.risk atrMultiplier).stopLoss = some stopLoss → ∃ price riskPct,
      i.price = some price ∧ (i.risk atrMultiplier).riskPct = some riskPct ∧
        0 < stopLoss ∧ stopLoss < price ∧ 0 < riskPct) ↔
    ∀ price stop, i.HasPrice price → i.Stop atrMultiplier price stop → StopSurvives price stop := by
  rcases risk_cases i atrMultiplier with ⟨price,stop,hprice,hstop,hloss,hpct,-⟩ | ⟨hloss,hnone⟩
  · simp only [hloss, hpct, Option.some.injEq]
    constructor
    · intro h price' stop' hprice' hstop'
      obtain rfl := hprice.unique hprice'
      obtain rfl := hstop.unique hstop'
      obtain ⟨_,_,hsome,rfl,hpos,hlt,hrisk⟩ := h _ rfl
      obtain rfl := Option.some.inj (hprice.1.symm.trans hsome)
      exact (stopSurvives_iff hprice.2).mpr ⟨hpos,hlt,hrisk⟩
    · rintro h _ rfl
      obtain ⟨hpos,hlt,hrisk⟩ := (stopSurvives_iff hprice.2).mp (h price stop hprice hstop)
      exact ⟨price,_,hprice.1,rfl,hpos,hlt,hrisk⟩
  · rw [hloss]
    constructor
    · intro _ price stop hprice hstop
      exact absurd hstop (hnone price stop hprice)
    · intro _ _ hsome
      cases hsome

theorem consistent_ratio_iff (hmultiplier : 0 < atrMultiplier) :
    (∀ stopLoss targetPrice, (i.risk atrMultiplier).stopLoss = some stopLoss →
      i.target.targetPrice = some targetPrice → ∃ price ratio, i.price = some price ∧
        (i.risk atrMultiplier).rewardRiskRatio = some ratio ∧ SameSign ratio (targetPrice-price)) ↔
    ∀ price stop target cents, i.HasPrice price → i.Stop atrMultiplier price stop →
      i.Target price target → NearestCents target cents → (cents/100 : ℚ) ≠ price →
        price-stop < 200*|(cents/100 : ℚ)-price| := by
  rcases risk_cases i atrMultiplier with ⟨price,stop,hprice,hstop,hloss,-,hratio⟩ | ⟨hloss,hnone⟩
  · have hrisk : 0 < price-stop := sub_pos.mpr (hstop.lt hmultiplier)
    rcases target_cases i with ⟨price',target,hprice',htarget,hreported,-⟩ | ⟨hreported,hnone⟩
    · obtain rfl := hprice.unique hprice'
      simp only [hloss, hratio, hreported, Option.bind_some, if_pos hrisk, Option.some.injEq]
      have hsign := sameSign_ratio_iff (x := roundTo 2 target-price) hrisk
      have hcents := forall_nearestCents target fun t => t ≠ price → price-stop < 200*|t-price|
      rw [sub_ne_zero, ← hcents] at hsign
      constructor
      · intro h price' stop' target' cents hprice' hstop' htarget'
        obtain rfl := hprice.unique hprice'
        obtain rfl := hstop.unique hstop'
        obtain rfl := htarget.unique htarget'
        obtain ⟨_,_,hsome,rfl,hsame⟩ := h _ _ rfl rfl
        obtain rfl := Option.some.inj (hprice.1.symm.trans hsome)
        exact hsign.mp hsame cents
      · rintro h _ _ rfl rfl
        refine ⟨price,_,hprice.1,rfl,hsign.mpr fun cents => ?_⟩
        exact h price stop target cents hprice hstop htarget
    · rw [hreported]
      constructor
      · intro _ price _ target _ hprice _ htarget
        exact absurd htarget (hnone price target hprice)
      · intro _ _ _ _ hsome
        cases hsome
  · rw [hloss]
    constructor
    · intro _ price stop _ _ hprice hstop
      exact absurd hstop (hnone price stop hprice)
    · intro _ _ _ hsome
      cases hsome

theorem consistent_upside_iff :
    (∀ targetPrice, i.target.targetPrice = some targetPrice → ∃ price upside,
      i.price = some price ∧ i.target.potentialUpsidePct = some upside ∧
        SameSign upside (targetPrice-price)) ↔
    ∀ price target cents, i.HasPrice price → i.Target price target → NearestCents target cents →
      (price < (cents/100 : ℚ) ↔ price < 20000*(target-price)) ∧
        ((cents/100 : ℚ) < price ↔ price < 20000*(price-target)) := by
  rcases target_cases i with ⟨price,target,hprice,htarget,hreported,hupside⟩ | ⟨hreported,hnone⟩
  · simp only [hreported, hupside, Option.some.injEq]
    have hsign := sameSign_upside_iff hprice.2 target (roundTo 2 target)
    have hcents := forall_nearestCents target fun t =>
      (price < t ↔ price < 20000*(target-price)) ∧ (t < price ↔ price < 20000*(price-target))
    rw [← hcents] at hsign
    constructor
    · intro h price' target' cents hprice' htarget'
      obtain rfl := hprice.unique hprice'
      obtain rfl := htarget.unique htarget'
      obtain ⟨_,_,hsome,rfl,hsame⟩ := h _ rfl
      obtain rfl := Option.some.inj (hprice.1.symm.trans hsome)
      exact hsign.mp hsame cents
    · rintro h _ rfl
      refine ⟨price,_,hprice.1,rfl,hsign.mpr fun cents => ?_⟩
      exact h price target cents hprice htarget
  · rw [hreported]
    constructor
    · intro _ price target _ hprice htarget
      exact absurd htarget (hnone price target hprice)
    · intro _ _ hsome
      cases hsome

/-- What is reported is consistent exactly where the rounding, which comes after the comparisons, does
not undo them. -/
theorem riskConsistent_iff (hmultiplier : 0 < atrMultiplier) :
    RiskConsistent i atrMultiplier ↔ SurvivesRounding i atrMultiplier := by
  constructor
  · intro h
    exact ⟨consistent_stop_iff.mp h.stop,(consistent_ratio_iff hmultiplier).mp h.ratio,
      consistent_upside_iff.mp h.upside⟩
  · intro h
    exact ⟨consistent_stop_iff.mpr h.stop,(consistent_ratio_iff hmultiplier).mpr h.ratio,
      consistent_upside_iff.mpr h.upside⟩

/-- A support one tick of five paise below the price, and a swing high one tick above it. -/
def tickApart : LevelInputs := ⟨some 2500,none,some (249995/100),some (250005/100),none,none⟩

theorem riskConsistent_iff_tickApart : (0 : ℚ) < 3/2 ∧
    (RiskConsistent tickApart (3/2) ↔ SurvivesRounding tickApart (3/2)) :=
  ⟨by norm_num,riskConsistent_iff (by norm_num)⟩

/-- A stop is reported with no risk. -/
theorem tickApart_not_consistent :
    tickApart.risk (3/2) = ⟨some (249995/100),some 0,some 1,"support level"⟩ ∧
      ¬RiskConsistent tickApart (3/2) := by
  have hrisk : tickApart.risk (3/2) = ⟨some (249995/100),some 0,some 1,"support level"⟩ := by
    decide +kernel
  refine ⟨hrisk,fun h => ?_⟩
  obtain ⟨_,riskPct,-,hpct,-,-,hpos⟩ := h.stop (249995/100) (by rw [hrisk])
  rw [hrisk] at hpct
  obtain rfl := Option.some.inj hpct
  exact lt_irrefl 0 hpos

end Consistent

end MarketScanner.Compounding
