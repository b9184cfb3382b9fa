import Mathlib.Data.List.Nodup
import MarketScanner.Python.Values

/-! Fundamental data as one provider reports it: a value or nothing for each field, with its
provenance. -/
namespace MarketScanner.Fundamentals
open MarketScanner.Python

inductive FieldAvailability
  | available | limitedHistory | insufficientData | notApplicable | unknown
  deriving DecidableEq, Repr

inductive FetchStatus
  | pending | processing | success | rateLimited | failed | cached
  deriving DecidableEq, Repr

/-- The fields of `FundamentalData` that are numbers: the ones that can be merged. -/
inductive FundamentalField
  | pe | pb | peg | evEbitda | marketCapCr | dividendYieldPct
  | revenueTtmCr | netProfitTtmCr
  | revenueGrowth3yPct | revenueGrowth5yPct | epsGrowth3yPct | profitGrowth3yPct
  | roePct | rocePct | operatingMarginPct | netMarginPct
  | debtToEquity | interestCoverage | currentRatio
  | operatingCashFlowCr | freeCashFlowCr
  | promoterHoldingPct | promoterHoldingChangePct | promoterPledgePct | fiiHoldingPct
  | diiHoldingPct
  deriving DecidableEq, Repr

namespace FundamentalField

/-- The attribute's name. -/
def name : FundamentalField → String
  | pe => "pe"
  | pb => "pb"
  | peg => "peg"
  | evEbitda => "ev_ebitda"
  | marketCapCr => "market_cap_cr"
  | dividendYieldPct => "dividend_yield_pct"
  | revenueTtmCr => "revenue_ttm_cr"
  | netProfitTtmCr => "net_profit_ttm_cr"
  | revenueGrowth3yPct => "revenue_growth_3y_pct"
  | revenueGrowth5yPct => "revenue_growth_5y_pct"
  | epsGrowth3yPct => "eps_growth_3y_pct"
  | profitGrowth3yPct => "profit_growth_3y_pct"
  | roePct => "roe_pct"
  | rocePct => "roce_pct"
  | operatingMarginPct => "operating_margin_pct"
  | netMarginPct => "net_margin_pct"
  | debtToEquity => "debt_to_equity"
  | interestCoverage => "interest_coverage"
  | currentRatio => "current_ratio"
  | operatingCashFlowCr => "operating_cash_flow_cr"
  | freeCashFlowCr => "free_cash_flow_cr"
  | promoterHoldingPct => "promoter_holding_pct"
  | promoterHoldingChangePct => "promoter_holding_change_pct"
  | promoterPledgePct => "promoter_pledge_pct"
  | fiiHoldingPct => "fii_holding_pct"
  | diiHoldingPct => "dii_holding_pct"

/-- `_MERGEABLE_FIELDS`, in the order of the dataclass. -/
def mergeableFields : List FundamentalField :=
  [pe,pb,peg,evEbitda,marketCapCr,dividendYieldPct,revenueTtmCr,netProfitTtmCr,revenueGrowth3yPct,
    revenueGrowth5yPct,epsGrowth3yPct,profitGrowth3yPct,roePct,rocePct,operatingMarginPct,
    netMarginPct,debtToEquity,interestCoverage,currentRatio,operatingCashFlowCr,freeCashFlowCr,
    promoterHoldingPct,promoterHoldingChangePct,promoterPledgePct,fiiHoldingPct,diiHoldingPct]

theorem mem_mergeableFields (field : FundamentalField) : field ∈ mergeableFields := by
  cases field <;> decide

/-- Attribute names identify the fields. -/
theorem nodup_names : (mergeableFields.map name).Nodup := by decide +kernel

theorem name_injective {a b : FundamentalField} (h : a.name = b.name) : a = b :=
  List.inj_on_of_nodup_map nodup_names (mem_mergeableFields a) (mem_mergeableFields b) h

end FundamentalField

structure FieldSnapshot where
  fieldName : String
  value : Option PyFloat
  source : Option String
  period : Option String
  status : FieldAvailability
  asOf : Option Date := none
  alternates : List (String × PyFloat) := []

structure FundamentalData where
  symbol : String
  asOf : Option Date := none
  value : FundamentalField → Option PyFloat := fun _ => none
  riskNotes : List String := []
  fieldSnapshots : List (String × FieldSnapshot) := []

/-- `data.field_snapshots.get(name)`. -/
def FundamentalData.snapshot (data : FundamentalData) (name : String) : Option FieldSnapshot :=
  data.fieldSnapshots.lookup name

/-- A dictionary filled field by field holds, under a field's name, what that field was given. -/
theorem lookup_fieldName {β : Type*} (g : FundamentalField → Option β) (field : FundamentalField)
    (fields : List FundamentalField) :
    (fields.filterMap fun f => (g f).map fun b => (f.name,b)).lookup field.name =
      if field ∈ fields then g field else none := by
  induction fields with
  | nil => rfl
  | cons f rest ih =>
    rw [List.filterMap_cons]
    by_cases hf : f = field
    · subst hf
      cases hg : g f with
      | none =>
        simp only [Option.map_none, ih, hg]
        simp
      | some b => simp
    · have hname : (field.name == f.name) = false :=
        beq_false_of_ne fun h => hf (FundamentalField.name_injective h).symm
      have hmem : field ∈ f::rest ↔ field ∈ rest := by simp [Ne.symm hf]
      cases g f with
      | none => simp only [Option.map_none, ih, hmem]
      | some b => simp only [Option.map_some, List.lookup_cons, hname, ih, hmem]

/-- It holds nothing under any other key. -/
theorem lookup_otherKey {β : Type*} (g : FundamentalField → Option β) {key : String}
    (hkey : ∀ field : FundamentalField, key ≠ field.name) (fields : List FundamentalField) :
    (fields.filterMap fun f => (g f).map fun b => (f.name,b)).lookup key = none := by
  induction fields with
  | nil => rfl
  | cons f rest ih =>
    have hname : (key == f.name) = false := beq_false_of_ne (hkey f)
    rw [List.filterMap_cons]
    cases g f with
    | none => exact ih
    | some b => simp only [Option.map_some, List.lookup_cons, hname, ih]

end MarketScanner.Fundamentals
