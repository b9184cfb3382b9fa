import Mathlib.Data.List.Basic
import MarketScanner.Fundamentals.Models
import MarketScanner.Library.Assoc
import MarketScanner.Python.Json
import MarketScanner.Python.Text

/-! The answer about several companies of which one is asked for: a free text of blocks and lines. Of the
lines with numbers, only those of the requested code reach the data. -/
namespace MarketScanner.Fundamentals
open MarketScanner.Python MarketScanner.Library

namespace MultiStock

/-- What a subscript past the end raises. -/
inductive IndexError
  | outOfRange
  deriving DecidableEq

/-- `xs[i]` -/
def item {α : Type*} (xs : List α) (i : ℕ) : Except IndexError α :=
  (xs[i]?).elim (.error .outOfRange) .ok

def sourceName : String := "Trendlyne"

/-- `_TARGETED_MULTI_STOCK_FIELDS` -/
def targetedMultiStockFields : List (String × FundamentalField × String) :=
  [("ROCE Ann. %",.rocePct,"Annual"),("Total Debt to Total Equity Ann.",.debtToEquity,"Annual")]

/-- `_set_field` -/
def setField (data : FundamentalData) (attr : FundamentalField) (value : PyFloat)
    (source period : String) : FundamentalData :=
  { data with
    value := fun f => if f = attr then some value else data.value f
    fieldSnapshots := Assoc.setItem attr.name
      { fieldName := attr.name, value := some value, source := some source, period := some period,
        status := .available, asOf := data.asOf } data.fieldSnapshots }

/-- The lines of a block that are not blank. -/
def nonBlankLines (block : String) : List String :=
  ((splitlines (strip block)).filter fun line => decide (strip line ≠ "")).map strip

/-- The rows with a code: five fields, so four bars between them. -/
def headerLines (firstBlockLines : List String) : List String :=
  firstBlockLines.filter fun line => decide (4 ≤ count '|' line)

def resolvedCodes (headerLines : List String) : Except IndexError (List String) :=
  headerLines.mapM fun line => (item (split "|" line) 2).map strip

/-- The first block without its header rows, then the others. -/
def metricBlocks (firstBlockLines : List String) (others : List String) : List (List String) :=
  (firstBlockLines.filter fun line => decide (line ∉ headerLines firstBlockLines))::
    others.map nonBlankLines

/-- The lines of a company. -/
def ownLine (nseCode line : String) : Bool := startswith (nseCode ++ ":") line

section
variable (loads : String → Option PyValue)

/-- The text inside the answer. `loads` is `json.loads`, or `none` where it raises; what is not a text is
left alone just as what raises is. -/
def contentOf (text : String) : Option String :=
  match loads text with
  | none => none
  | some outer =>
    match (outer.get? "markdown_data").getD .none with
    | .str markdownData =>
      match loads markdownData with
      | some (.str content) => some content
      | _ => none
    | _ => none

variable [Builtins]

/-- The turn of the loop for the lines of a block. -/
def applyBlock (nseCode : String) (data : FundamentalData) (lines : List String) :
    Except IndexError FundamentalData :=
  match lines with
  | [] => .ok data
  | label::rest =>
    match targetedMultiStockFields.lookup label with
    | none => .ok data
    | some (attr,period) =>
      match rest.find? (ownLine nseCode) with
      | none => .ok data
      | some targetLine => (item (splitOnce ":" targetLine) 1).map fun rawValue =>
        match Builtins.floatOfStr (strip rawValue) with
        | none => data
        | some value => setField data attr value sourceName period

def applyTargetedMultiStockText (data : FundamentalData) (nseCode text : String) :
    Except IndexError FundamentalData :=
  match contentOf loads text with
  | none => .ok data
  | some content =>
    match split "---" content with
    | [] => .ok data
    | first::others =>
      let firstBlockLines := nonBlankLines first
      match resolvedCodes (headerLines firstBlockLines) with
      | .error e => .error e
      | .ok codes =>
        if nseCode ∉ codes then .ok data
        else (metricBlocks firstBlockLines others).foldlM (applyBlock nseCode) data

end

/-! ### What of an answer is about one company -/

/-- A header row has the code. -/
def resolves (nseCode : String) (firstBlockLines : List String) : Bool :=
  (headerLines firstBlockLines).any fun row => (split "|" row)[2]?.any fun code =>
    decide (strip code = nseCode)

/-- Of a block: the field and period of its label, and the company's own lines. -/
def blockView (nseCode : String) (lines : List String) :
    Option ((FundamentalField × String) × List String) :=
  (lines.head?.bind fun label => targetedMultiStockFields.lookup label).map fun mapped =>
    (mapped,lines.tail.filter (ownLine nseCode))

def setReading (data : FundamentalData) (reading : (FundamentalField × String) × PyFloat) :
    FundamentalData :=
  setField data reading.1.1 reading.2 sourceName reading.1.2

theorem item_eq {α : Type*} {xs : List α} {i : ℕ} {x : α} (h : xs[i]? = some x) :
    item xs i = .ok x := by
  rw [item, h]
  rfl

/-- A header row has enough fields for a code. -/
theorem headerLine_code {row : String} (h : 4 ≤ count '|' row) : ∃ code, (split "|" row)[2]? = some code := by
  have hlength : (split "|" row).length = count '|' row+1 := length_split_single '|' row
  exact ⟨_,List.getElem?_eq_getElem (show 2 < (split "|" row).length by omega)⟩

/-- An own line has a colon. -/
theorem ownLine_colon {nseCode line : String} (h : ownLine nseCode line = true) : ':' ∈ line.toList := by
  obtain ⟨rest,hline⟩ := startswith_append (nseCode ++ ":") line h
  rw [hline, String.toList_append]
  simp

theorem resolvedCodes_eq (rows : List String) (hrows : ∀ row ∈ rows, 4 ≤ count '|' row) :
    resolvedCodes rows = .ok (rows.map fun row => strip ((split "|" row)[2]?.getD "")) := by
  induction rows with
  | nil => rfl
  | cons row rest ih =>
    obtain ⟨code,hcode⟩ := headerLine_code (hrows row List.mem_cons_self)
    have hrest := ih fun r hr => hrows r (List.mem_cons_of_mem row hr)
    rw [resolvedCodes] at hrest ⊢
    rw [List.mapM_cons, item_eq hcode, hrest, List.map_cons, hcode]
    rfl

/-- The set of codes is found, and membership in it is what a header row says. -/
theorem resolvedCodes_headerLines (nseCode : String) (lines : List String) :
    ∃ codes, resolvedCodes (headerLines lines) = .ok codes ∧
      (nseCode ∈ codes ↔ resolves nseCode lines = true) := by
  have hrows : ∀ row ∈ headerLines lines, 4 ≤ count '|' row := fun row hrow =>
    of_decide_eq_true (List.mem_filter.mp hrow).2
  refine ⟨_,resolvedCodes_eq _ hrows,?_⟩
  rw [resolves, List.any_eq_true, List.mem_map]
  refine exists_congr fun row => and_congr_right fun hrow => ?_
  obtain ⟨code,hcode⟩ := headerLine_code (hrows row hrow)
  rw [hcode, Option.getD_some, Option.any_some, decide_eq_true_iff]

section
variable (loads : String → Option PyValue)

/-- The blocks that are read for a company. -/
def readBlocks (nseCode text : String) : List (List String) :=
  match contentOf loads text with
  | none => []
  | some content =>
    match split "---" content with
    | [] => []
    | first::others =>
      if resolves nseCode (nonBlankLines first) then metricBlocks (nonBlankLines first) others else []

/-- Of an answer: nothing but the company's own lines in the blocks with a mapped label. -/
def companyView (nseCode text : String) : List ((FundamentalField × String) × List String) :=
  (readBlocks loads nseCode text).filterMap (blockView nseCode)

variable [Builtins]

/-- The number that the first own line has after its colon. -/
def readingOf (view : (FundamentalField × String) × List String) :
    Option ((FundamentalField × String) × PyFloat) :=
  view.2.head?.bind fun line => (splitOnce ":" line)[1]?.bind fun rawValue =>
    (Builtins.floatOfStr (strip rawValue)).map fun value => (view.1,value)

def readings (nseCode text : String) : List ((FundamentalField × String) × PyFloat) :=
  (companyView loads nseCode text).filterMap readingOf

/-- A block gives the data the reading of its view. -/
theorem applyBlock_eq (nseCode : String) (data : FundamentalData) (lines : List String) :
    applyBlock nseCode data lines =
      .ok (((blockView nseCode lines).bind readingOf).elim data (setReading data)) := by
  cases lines with
  | nil => rfl
  | cons label rest =>
    rw [applyBlock, blockView, List.head?_cons, Option.bind_some, List.tail_cons]
    cases targetedMultiStockFields.lookup label with
    | none => rfl
    | some mapped =>
      rw [Option.map_some, Option.bind_some, readingOf, List.head?_filter]
      dsimp only
      cases htarget : rest.find? (ownLine nseCode) with
      | none => rfl
      | some targetLine =>
        obtain ⟨before,raw,-,-,hsplit⟩ := splitOnce_single (ownLine_colon (List.find?_some htarget))
        have hpieces : splitOnce ":" targetLine = [before,raw] := hsplit
        dsimp only
        rw [Option.bind_some, hpieces]
        cases hfloat : Builtins.floatOfStr (strip raw) with
        | none => simp [item, hfloat, Except.map]
        | some value => simp [item, hfloat, Except.map, setReading]

/-- What is applied of an answer is its readings, in their order, and nothing is raised. -/
theorem applyTargetedMultiStockText_eq (data : FundamentalData) (nseCode text : String) :
    applyTargetedMultiStockText loads data nseCode text =
      .ok ((readings loads nseCode text).foldl setReading data) := by
  have hblocks : ∀ (blocks : List (List String)) (d : FundamentalData),
      blocks.foldlM (applyBlock nseCode) d =
        .ok (((blocks.filterMap (blockView nseCode)).filterMap readingOf).foldl setReading d) := by
    intro blocks
    induction blocks with
    | nil => exact fun d => rfl
    | cons lines rest ih =>
      intro d
      rw [List.foldlM_cons, applyBlock_eq, List.filterMap_cons]
      cases blockView nseCode lines with
      | none => exact ih d
      | some view =>
        rw [Option.bind_some, List.filterMap_cons]
        cases readingOf view with
        | none => exact ih d
        | some reading => exact ih (setReading d reading)
  rw [applyTargetedMultiStockText, readings, companyView, readBlocks]
  cases contentOf loads text with
  | none => rfl
  | some content =>
    dsimp only
    cases split "---" content with
    | nil => rfl
    | cons first others =>
      obtain ⟨codes,hcodes,hmem⟩ := resolvedCodes_headerLines nseCode (nonBlankLines first)
      dsimp only
      rw [hcodes]
      dsimp only
      by_cases hresolves : resolves nseCode (nonBlankLines first) = true
      · rw [if_neg (not_not_intro (hmem.mpr hresolves)), if_pos hresolves, hblocks]
      · rw [if_pos (mt hmem.mp hresolves), if_neg hresolves]
        rfl

/-- A number that a company has in an answer, for a field and a period: a header row has its code, and in
a metric block whose first line is the field's label, the first later line that starts with the code and a
colon has the number after its first colon. -/
def OwnNumber (nseCode text : String) (field : FundamentalField) (period : String) (value : PyFloat) :
    Prop :=
  ∃ content first others, contentOf loads text = some content ∧ split "---" content = first::others ∧
    (∃ row ∈ nonBlankLines first, 4 ≤ count '|' row ∧
      ∃ code, (split "|" row)[2]? = some code ∧ strip code = nseCode) ∧
    ∃ label rest, label::rest ∈ metricBlocks (nonBlankLines first) others ∧
      targetedMultiStockFields.lookup label = some (field,period) ∧
      ∃ line, rest.find? (ownLine nseCode) = some line ∧
        ∃ before raw : String, line.toList = before.toList ++ ':' :: raw.toList ∧
          ':' ∉ before.toList ∧ Builtins.floatOfStr (strip raw) = some value

/-- Two records are the same but for fields that were given one of the numbers, with their snapshots. -/
structure Written (number : FundamentalField → String → PyFloat → Prop) (data data' : FundamentalData) :
    Prop where
  symbol : data'.symbol = data.symbol
  asOf : data'.asOf = data.asOf
  riskNotes : data'.riskNotes = data.riskNotes
  field : ∀ f, data'.value f = data.value f ∧ data'.snapshot f.name = data.snapshot f.name ∨
    ∃ period value, number f period value ∧ data'.value f = some value ∧ data'.snapshot f.name = some
      { fieldName := f.name, value := some value, source := some "Trendlyne", period := some period,
        status := .available, asOf := data.asOf }
  otherName : ∀ name, (∀ f : FundamentalField, name ≠ f.name) → data'.snapshot name = data.snapshot name

omit [Builtins] in
theorem Written.refl (number : FundamentalField → String → PyFloat → Prop) (data : FundamentalData) :
    Written number data data :=
  ⟨rfl,rfl,rfl,fun _ => .inl ⟨rfl,rfl⟩,fun _ _ => rfl⟩

omit [Builtins] in
theorem Written.trans {number : FundamentalField → String → PyFloat → Prop}
    {a b c : FundamentalData} (hab : Written number a b) (hbc : Written number b c) :
    Written number a c where
  symbol := hbc.symbol.trans hab.symbol
  asOf := hbc.asOf.trans hab.asOf
  riskNotes := hbc.riskNotes.trans hab.riskNotes
  field f := by
    rcases hbc.field f with ⟨hvalue,hsnapshot⟩ | hset
    · rw [hvalue, hsnapshot]
      exact hab.field f
    · rw [hab.asOf] at hset
      exact .inr hset
  otherName name hname := (hbc.otherName name hname).trans (hab.otherName name hname)

omit [Builtins] in
/-- A reading writes its own field. -/
theorem written_setReading {number : FundamentalField → String → PyFloat → Prop}
    (data : FundamentalData) {reading : (FundamentalField × String) × PyFloat}
    (h : number reading.1.1 reading.1.2 reading.2) : Written number data (setReading data reading) where
  symbol := rfl
  asOf := rfl
  riskNotes := rfl
  field f := by
    by_cases hf : f = reading.1.1
    · subst hf
      exact .inr ⟨_,_,h,if_pos rfl,(Assoc.lookup_setItem _ _ _ _).trans (if_pos rfl)⟩
    · have hname : f.name ≠ reading.1.1.name := mt FundamentalField.name_injective hf
      exact .inl ⟨if_neg hf,(Assoc.lookup_setItem _ _ _ _).trans (if_neg hname)⟩
  otherName name hname := (Assoc.lookup_setItem _ _ _ _).trans (if_neg (hname reading.1.1))

omit [Builtins] in
theorem written_foldl {number : FundamentalField → String → PyFloat → Prop}
    (given : List ((FundamentalField × String) × PyFloat)) (data : FundamentalData)
    (h : ∀ reading ∈ given, number reading.1.1 reading.1.2 reading.2) :
    Written number data (given.foldl setReading data) := by
  induction given generalizing data with
  | nil => exact .refl number data
  | cons reading rest ih =>
    have hfirst := written_setReading data (h reading List.mem_cons_self)
    exact hfirst.trans (ih _ fun r hr => h r (List.mem_cons_of_mem reading hr))

omit [Builtins] in
/-- A block is read only where a header row has the code. -/
theorem mem_readBlocks {nseCode text : String} {lines : List String}
    (h : lines ∈ readBlocks loads nseCode text) :
    ∃ content first others, contentOf loads text = some content ∧ split "---" content = first::others ∧
      (∃ row ∈ nonBlankLines first, 4 ≤ count '|' row ∧
        ∃ code, (split "|" row)[2]? = some code ∧ strip code = nseCode) ∧
      lines ∈ metricBlocks (nonBlankLines first) others := by
  rw [readBlocks] at h
  cases hcontent : contentOf loads text with
  | none => simp [hcontent] at h
  | some content =>
    simp only [hcontent] at h
    cases hblocks : split "---" content with
    | nil => simp [hblocks] at h
    | cons first others =>
      simp only [hblocks] at h
      split at h
      · rename_i hresolves
        obtain ⟨row,hrow,hcode⟩ := List.any_eq_true.mp hresolves
        obtain ⟨hmem,hbars⟩ := List.mem_filter.mp hrow
        obtain ⟨code,hfield,hstrip⟩ := (Option.any_eq_true _ _).mp hcode
        exact ⟨content,first,others,rfl,hblocks,
          ⟨row,hmem,of_decide_eq_true hbars,code,hfield,of_decide_eq_true hstrip⟩,h⟩
      · cases h

/-- The readings of an answer are the company's own numbers. -/
theorem ownNumber_of_mem_readings {nseCode text : String}
    {reading : (FundamentalField × String) × PyFloat} (h : reading ∈ readings loads nseCode text) :
    OwnNumber loads nseCode text reading.1.1 reading.1.2 reading.2 := by
  obtain ⟨view,hview,hreading⟩ := List.mem_filterMap.mp h
  obtain ⟨lines,hlines,hblock⟩ := List.mem_filterMap.mp hview
  obtain ⟨mapped,hmapped,rfl⟩ := Option.map_eq_some_iff.mp hblock
  obtain ⟨label,hhead,hlabel⟩ := Option.bind_eq_some_iff.mp hmapped
  obtain ⟨rest,rfl⟩ := List.head?_eq_some_iff.mp hhead
  obtain ⟨line,hline,hraw⟩ := Option.bind_eq_some_iff.mp hreading
  obtain ⟨raw,hpiece,hvalue⟩ := Option.bind_eq_some_iff.mp hraw
  obtain ⟨value,hfloat,rfl⟩ := Option.map_eq_some_iff.mp hvalue
  have hfind : rest.find? (ownLine nseCode) = some line := by
    rw [← List.head?_filter]
    exact hline
  obtain ⟨before,after,hcut,hbefore,hsplit⟩ := splitOnce_single (ownLine_colon (List.find?_some hfind))
  have hpieces : splitOnce ":" line = [before,after] := hsplit
  rw [hpieces] at hpiece
  obtain rfl : after = raw := Option.some.inj hpiece
  obtain ⟨content,first,others,hcontent,hblocks,hrow,hmem⟩ := mem_readBlocks loads hlines
  exact ⟨content,first,others,hcontent,hblocks,hrow,label,rest,hmem,hlabel,line,hfind,before,after,hcut,
    hbefore,hfloat⟩

/-- Nothing is raised and nothing but the company's own numbers is written; and answers that have the same
of the company give the same record, whatever else is in them. -/
theorem onlyOwnNumbers_reach (data : FundamentalData) (nseCode text : String) :
    (∃ data', applyTargetedMultiStockText loads data nseCode text = .ok data' ∧
      Written (OwnNumber loads nseCode text) data data') ∧
    ∀ text', companyView loads nseCode text' = companyView loads nseCode text →
      applyTargetedMultiStockText loads data nseCode text' =
        applyTargetedMultiStockText loads data nseCode text := by
  refine ⟨⟨_,applyTargetedMultiStockText_eq loads data nseCode text,?_⟩,fun text' hview => ?_⟩
  · exact written_foldl _ data fun reading hreading => ownNumber_of_mem_readings loads hreading
  · rw [applyTargetedMultiStockText_eq, applyTargetedMultiStockText_eq, readings, readings, hview]

end

/-- An answer about one company, with the header row and the metric in one block. -/
def bundledContent : String := "1|Infosys|INFY|500209|2026\nROCE Ann. %\nINFY: 25"

def bundledMarkdown : String := "\"1|Infosys|INFY|500209|2026\\nROCE Ann. %\\nINFY: 25\""

def bundledText : String :=
  "\x7b\"markdown_data\": \"\\\"1|Infosys|INFY|500209|2026\\\\nROCE Ann. %\\\\nINFY: 25\\\"\"\x7d"

/-- `json.loads` on these two texts. -/
def bundledLoads (text : String) : Option PyValue :=
  if text = bundledText then some (.dict [("markdown_data",.str bundledMarkdown)])
  else if text = bundledMarkdown then some (.str bundledContent) else none

/-- The field is set although its label is the first line of no block: the header row is. -/
theorem bundledMetric_set :
    let _ := Builtins.tabulated [] [("25",25)] []
    contentOf bundledLoads bundledText = some bundledContent ∧
      (∃ data, applyTargetedMultiStockText bundledLoads { symbol := "INFY" } "INFY" bundledText =
        .ok data ∧ data.value .rocePct = some (.finite 25)) ∧
      ¬∃ block ∈ split "---" bundledContent, ∃ label period,
        (nonBlankLines block).head? = some label ∧
          targetedMultiStockFields.lookup label = some (.rocePct,period) := by
  intro _
  have hcontent : contentOf bundledLoads bundledText = some bundledContent := by decide +kernel
  have hreadings : readings bundledLoads "INFY" bundledText =
      [((.rocePct,"Annual"),.finite 25)] := by decide +kernel
  have hblocks : split "---" bundledContent = [bundledContent] := by decide +kernel
  have hlines : nonBlankLines bundledContent =
      ["1|Infosys|INFY|500209|2026","ROCE Ann. %","INFY: 25"] := by decide +kernel
  refine ⟨hcontent,⟨_,applyTargetedMultiStockText_eq _ _ _ _,?_⟩,?_⟩
  · rw [hreadings]
    rfl
  · rintro ⟨block,hblock,label,period,hlabel,hlookup⟩
    rw [hblocks] at hblock
    obtain rfl := List.mem_singleton.mp hblock
    rw [hlines] at hlabel
    obtain rfl := Option.some.inj hlabel
    have hnone : targetedMultiStockFields.lookup "1|Infosys|INFY|500209|2026" = none := by decide +kernel
    rw [hnone] at hlookup
    cases hlookup

end MultiStock
end MarketScanner.Fundamentals
