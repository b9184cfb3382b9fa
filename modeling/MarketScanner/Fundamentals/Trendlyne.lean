import Mathlib.Data.List.TakeWhile
import MarketScanner.Fundamentals.MultiStock

/-! The texts of the three tools that say something about one company. Sections are found by their
headers and their indentation, and every reading enters the data together with its provenance. -/
namespace MarketScanner.Fundamentals.Trendlyne
open MarketScanner.Python MarketScanner.Library MultiStock

/-! ### Sections -/

/-- `[ \t]` -/
def isBlank (c : Char) : Bool := c == ' ' || c == '\t'

structure Header where
  indent : ℕ
  name : String
  deriving DecidableEq

/-- What `_SECTION_HEADER_RE` matches on a line: blanks, a name, a colon, and nothing but blanks. -/
def headerOf (line : String) : Option Header :=
  let indented := line.toList.dropWhile isBlank
  match indented.dropWhile Char.isAlphanum with
  | ':'::trailing =>
    if (indented.takeWhile Char.isAlphanum).head?.any Char.isAlpha && trailing.all isBlank then
      some ⟨(line.toList.takeWhile isBlank).length,String.ofList (indented.takeWhile Char.isAlphanum)⟩
    else none
  | _ => none

example : headerOf "  DII: " = some ⟨2,"DII"⟩ := by decide

/-- A header of this name, at any indentation. -/
def opens (name line : String) : Bool := (headerOf line).any fun h => decide (h.name = name)

/-- A header that is not nested deeper than `indent`. -/
def closes (indent : ℕ) (line : String) : Bool := (headerOf line).any fun h => decide (h.indent ≤ indent)

/-- `_extract_section`. Both patterns match whole lines, so the text of a section starts and, unless it is
the last one, ends with a line break. -/
def extractSection (text name : String) : Option String :=
  match (split "\n" text).dropWhile fun line => !opens name line with
  | [] => none
  | header::rest =>
    let body := rest.takeWhile fun line => !(headerOf header).any fun h => closes h.indent line
    some (String.intercalate "\n" (""::body ++ if body.length < rest.length then [""] else []))

/-! ### Tables and rows -/

/-- What `ast.literal_eval` builds; `other` is an object that is neither a list, a text nor a number. -/
inductive Literal
  | str (s : String)
  | bool (b : Bool)
  | int (n : ℤ)
  | float (x : PyFloat)
  | list (xs : List Literal)
  | other

/-- How a row of literals fails: with a `ValueError` or `SyntaxError` of the evaluation, or otherwise. -/
inductive RowError
  | malformed
  | other
  deriving DecidableEq

/-- `float(v)` where `isinstance(v, int | float)`. -/
def Literal.toFloat : Literal → Option (Except RowError PyFloat)
  | .bool b => some (.ok (.finite (if b then 1 else 0)))
  | .int n => some ((PyFloat.ofInt n).elim (.error .other) .ok)
  | .float x => some (.ok x)
  | _ => none

/-- `s.replace(old, new)` -/
def replace (old new s : String) : String := String.intercalate new (split old s)

/-- `_FUNDAMENTAL_FIELD_MAP` -/
def fundamentalFieldMap : List (String × FundamentalField × String) :=
  [("MCAP_Q",.marketCapCr,"current"),("PE_TTM",.pe,"TTM"),("PBV_A",.pb,"TTM"),("PEG_TTM",.peg,"TTM"),
    ("DIVIDEND_YIELD_1_YR",.dividendYieldPct,"1Y"),("SR_TTM",.revenueTtmCr,"TTM"),
    ("NP_TTM",.netProfitTtmCr,"TTM"),("CFO_A",.operatingCashFlowCr,"Annual"),("ROE_A",.roePct,"Annual")]

/-- `_SUMMARY_FIELD_MAP` -/
def summaryFieldMap : List (String × FundamentalField × String) :=
  [("Promoter",.promoterHoldingPct,"latest quarter"),("FII",.fiiHoldingPct,"latest quarter")]

/-- Set the fields of a map that have a value under their name. -/
def setMapped (fields : List (String × FundamentalField × String)) (values : List (String × PyFloat))
    (data : FundamentalData) : FundamentalData :=
  fields.foldl (fun data field => (values.lookup field.1).elim data fun value =>
    setField data field.2.1 value sourceName field.2.2) data

section
variable [Builtins]

/-- `_parse_fundamental_table` -/
def parseFundamentalTable (body : String) : List (String × PyFloat) :=
  (nonBlankLines body).tail.foldl (fun values line =>
    match (split "|" line).map strip with
    | first::rawValue::rest =>
      match Builtins.floatOfStr rawValue with
      | none => values
      | some value => Assoc.setItem ((rawValue::rest).getLastD first) value values
    | _ => values) []

end

section
variable (literalEval : String → Except RowError (List Literal))

/-- The rows of a line of literals. -/
def rowsOf (body : String) : Except RowError (List Literal) :=
  literalEval ("[" ++ replace "null" "None" (strip body) ++ "]")

def addHolding (holdings : List (String × PyFloat)) : Literal → Except RowError (List (String × PyFloat))
  | .list (.str name::value::_) =>
    match value.toFloat with
    | none => .ok holdings
    | some x => x.map fun holding => Assoc.setItem name holding holdings
  | _ => .ok holdings

/-- `_parse_summary_holdings` -/
def parseSummaryHoldings (body : String) : Except RowError (List (String × PyFloat)) :=
  match rowsOf literalEval body with
  | .error .malformed => .ok []
  | .error .other => .error .other
  | .ok rows => rows.foldlM addHolding []

/-- A row with a text in front and at least `width` elements. -/
def Literal.dataRow (width : ℕ) : Literal → Option (String × List Literal)
  | .list (.str quarter::rest) => if width ≤ rest.length+1 then some (quarter,rest) else none
  | _ => none

/-- The last quarter of a series and the number in its last column but those after `width`. -/
def latestReading (chart name : String) (width : ℕ) : Except RowError (Option (PyFloat × String)) :=
  match extractSection chart name with
  | none => .ok none
  | some body =>
    match rowsOf literalEval body with
    | .error .malformed => .ok none
    | .error .other => .error .other
    | .ok rows =>
      match (rows.filterMap (Literal.dataRow width)).tail.getLast? with
      | none => .ok none
      | some (quarter,rest) =>
        match rest[width-2]?.bind Literal.toFloat with
        | none => .ok none
        | some x => x.map fun value => some (value,quarter)

/-- `_parse_chart_series_latest` -/
def parseChartSeriesLatest (chart name : String) : Except RowError (Option (PyFloat × String)) :=
  latestReading literalEval chart name 2

/-- `_parse_chart_promoter_pledge` -/
def parseChartPromoterPledge (chart : String) : Except RowError (Option (PyFloat × String)) :=
  latestReading literalEval chart "Promoter" 4

/-- The holdings that an answer's summary comes to; nothing where there is none or it raises. -/
def summaryHoldings (text : String) : List (String × PyFloat) :=
  match extractSection text "summaryData" with
  | none => []
  | some body =>
    match parseSummaryHoldings literalEval body with
    | .error _ => []
    | .ok holdings => holdings

/-- The readings of the charts; a failure of either loses both. -/
def chartReadings (text : String) : Option (PyFloat × String) × Option (PyFloat × String) :=
  match extractSection text "chartData" with
  | none => (none,none)
  | some chart =>
    match parseChartSeriesLatest literalEval chart "DII" with
    | .error _ => (none,none)
    | .ok dii =>
      match parseChartPromoterPledge literalEval chart with
      | .error _ => (none,none)
      | .ok pledge => (dii,pledge)

/-- Set a field that has none yet. -/
def setMissing (name : String) (attr : FundamentalField) (holdings : List (String × PyFloat))
    (data : FundamentalData) : FundamentalData :=
  if (data.value attr).isNone then setMapped [(name,attr,"latest quarter")] holdings data else data

/-- Set a field to the last quarter of a chart. -/
def setChart (attr : FundamentalField) (reading : Option (PyFloat × String)) (data : FundamentalData) :
    FundamentalData :=
  reading.elim data fun r => setField data attr r.1 sourceName (if r.2 = "" then "latest quarter" else r.2)

/-- `apply_shareholding_text` -/
def applyShareholdingText (data : FundamentalData) (text : String) : FundamentalData :=
  let holdings := summaryHoldings literalEval text
  let charts := chartReadings literalEval text
  setChart .promoterPledgePct charts.2 (setChart .diiHoldingPct charts.1
    (setMissing "Promoter" .promoterHoldingPct holdings (setMissing "FII" .fiiHoldingPct holdings data)))

variable [Builtins]

/-- The table of an overview. -/
def overviewTable (text : String) : List (String × PyFloat) :=
  (extractSection text "fundamentalData").elim [] parseFundamentalTable

/-- `parse_overview_text` -/
def parseOverviewText (symbol text : String) : FundamentalData :=
  setMapped summaryFieldMap (summaryHoldings literalEval text)
    (setMapped fundamentalFieldMap (overviewTable text) { symbol := symbol })

end

/-! ### A section is found as it was written -/

/-- The lines up to the first that satisfies `p`. -/
theorem takeWhile_not {p : String → Bool} {body after : List String} (hbody : ∀ line ∈ body, p line = false)
    (hafter : after.head?.all p = true) : (body ++ after).takeWhile (fun line => !p line) = body := by
  rw [List.takeWhile_append_of_pos fun line hline => by rw [hbody line hline]; rfl]
  cases after with
  | nil => exact List.append_nil body
  | cons next rest =>
    have hnext : p next = true := hafter
    rw [List.takeWhile_cons_of_neg (by rw [hnext]; simp), List.append_nil]

theorem dropWhile_not {p : String → Bool} {before after : List String} {line : String}
    (hbefore : ∀ l ∈ before, p l = false) (hline : p line = true) :
    (before ++ line::after).dropWhile (fun line => !p line) = line::after := by
  rw [List.dropWhile_append_of_pos fun l hl => by rw [hbefore l hl]; rfl,
    List.dropWhile_cons_of_neg (by rw [hline]; simp)]

/-- A section lies between its header, the first of its name, and the next header that is not nested in
it. -/
structure SectionAt (lines : List String) (name : String) (h : Header) (before : List String) (header : String)
    (body after : List String) : Prop where
  lines_eq : lines = before ++ header::(body ++ after)
  first : ∀ line ∈ before, opens name line = false
  header : headerOf header = some h
  named : h.name = name
  nested : ∀ line ∈ body, closes h.indent line = false
  closed : after.head?.all (closes h.indent) = true

/-- The text of a section is one of lines, too: a section nested in it is found the same way. -/
def sectionText (body after : List String) : String :=
  String.intercalate "\n" (""::body ++ if after = [] then [] else [""])

variable {lines before body after : List String} {header name : String} {h : Header}

theorem SectionAt.opens_header (hsection : SectionAt lines name h before header body after) :
    opens name header = true := by
  rw [opens, hsection.header, Option.any_some, hsection.named]
  exact decide_eq_true rfl

theorem split_lines (hne : lines ≠ []) (hlines : ∀ line ∈ lines, '\n' ∉ line.toList) :
    split "\n" (String.intercalate "\n" lines) = lines := by
  have hbreak : "\n" = String.singleton '\n' := by decide
  rw [hbreak]
  exact split_intercalate hne hlines

theorem extractSection_intercalate (hlines : ∀ line ∈ lines, '\n' ∉ line.toList)
    (hsection : SectionAt lines name h before header body after) :
    extractSection (String.intercalate "\n" lines) name = some (sectionText body after) := by
  have hsplit := split_lines (by simp [hsection.lines_eq]) hlines
  have hcloses : (fun line => !(headerOf header).any fun h => closes h.indent line) =
      fun line => !closes h.indent line := by
    rw [hsection.header]
    rfl
  rw [extractSection, hsplit, hsection.lines_eq, dropWhile_not hsection.first hsection.opens_header]
  dsimp only
  rw [hcloses, takeWhile_not hsection.nested hsection.closed, sectionText]
  cases after with
  | nil => simp
  | cons next rest => simp

/-- Where some header has the name, the section of the first is there. -/
theorem exists_sectionAt (hopens : ∃ line ∈ lines, opens name line = true) :
    ∃ h before header body after, SectionAt lines name h before header body after := by
  obtain ⟨header,hfound⟩ := Option.isSome_iff_exists.mp (List.find?_isSome.mpr hopens)
  obtain ⟨hheader,before,rest,hlines,hbefore⟩ := List.find?_eq_some_iff_append.mp hfound
  obtain ⟨h,hh,hname⟩ := (Option.any_eq_true _ _).mp hheader
  refine ⟨h,before,header,rest.takeWhile fun line => !closes h.indent line,
    rest.dropWhile fun line => !closes h.indent line,?_,?_,hh,of_decide_eq_true hname,?_,?_⟩
  · rw [List.takeWhile_append_dropWhile, hlines]
  · intro line hline
    simpa using hbefore line hline
  · intro line hline
    simpa using List.mem_takeWhile_imp hline
  · have hhead := List.head?_dropWhile_not (fun line => !closes h.indent line) rest
    cases hnext : (rest.dropWhile fun line => !closes h.indent line).head? with
    | none => rfl
    | some line =>
      rw [hnext] at hhead
      simpa using hhead

theorem extractSection_eq_none (hne : lines ≠ []) (hlines : ∀ line ∈ lines, '\n' ∉ line.toList)
    (h : ∀ line ∈ lines, opens name line = false) :
    extractSection (String.intercalate "\n" lines) name = none := by
  have hnone : (lines.dropWhile fun line => !opens name line) = [] :=
    List.dropWhile_eq_nil_iff.mpr fun line hline => by rw [h line hline]; rfl
  rw [extractSection, split_lines hne hlines, hnone]

/-- A section is found as it was written: none where no header has its name, and otherwise the first one. -/
theorem extractSection_exact (hne : lines ≠ []) (hlines : ∀ line ∈ lines, '\n' ∉ line.toList) (name : String) :
    (extractSection (String.intercalate "\n" lines) name = none ↔ ∀ line ∈ lines, opens name line = false) ∧
      ∀ text, extractSection (String.intercalate "\n" lines) name = some text ↔
        ∃ h before header body after, SectionAt lines name h before header body after ∧
          text = sectionText body after := by
  by_cases hopens : ∃ line ∈ lines, opens name line = true
  · obtain ⟨h,before,header,body,after,hsection⟩ := exists_sectionAt hopens
    have hfound := extractSection_intercalate hlines hsection
    rw [hfound]
    constructor
    · obtain ⟨line,hline,hopen⟩ := hopens
      refine iff_of_false (by simp) fun hnone => ?_
      rw [hnone line hline] at hopen
      cases hopen
    · intro text
      constructor
      · intro htext
        exact ⟨h,before,header,body,after,hsection,(Option.some.inj htext).symm⟩
      · rintro ⟨h',before',header',body',after',hsection',rfl⟩
        rw [← hfound]
        exact extractSection_intercalate hlines hsection'
  · have hclosed : ∀ line ∈ lines, opens name line = false := by simpa using hopens
    rw [extractSection_eq_none hne hlines hclosed]
    refine ⟨iff_of_true rfl hclosed,fun text => iff_of_false (by simp) ?_⟩
    rintro ⟨h,before,header,body,after,hsection,-⟩
    have hmem : header ∈ lines := by
      rw [hsection.lines_eq]
      exact List.mem_append_right _ List.mem_cons_self
    have hheader := hclosed header hmem
    rw [hsection.opens_header] at hheader
    cases hheader

/-- A shareholding answer with a summary, its charts and a last section. -/
def shareholdingLines : List String :=
  ["summaryData:","[\"FII\",21.5]","chartData:","  Promoter:","    [\"Jun 2026\",50.1,null,0]","  DII:",
    "    [\"Jun 2026\",17.3]","notes:"]

theorem extractSection_exact_charts :
    extractSection (String.intercalate "\n" shareholdingLines) "fundamentalData" = none ∧
    extractSection (String.intercalate "\n" shareholdingLines) "chartData" =
      some (sectionText ["  Promoter:","    [\"Jun 2026\",50.1,null,0]","  DII:","    [\"Jun 2026\",17.3]"]
        ["notes:"]) := by
  have hlines : ∀ line ∈ shareholdingLines, '\n' ∉ line.toList := by decide +kernel
  constructor
  · exact (extractSection_exact (by decide) hlines "fundamentalData").1.mpr (by decide +kernel)
  · refine ((extractSection_exact (by decide) hlines "chartData").2 _).mpr ⟨⟨0,"chartData"⟩,
      ["summaryData:","[\"FII\",21.5]"],"chartData:",_,_,?_,rfl⟩
    exact ⟨rfl,by decide +kernel,by decide +kernel,rfl,by decide +kernel,by decide +kernel⟩

/-! ### One source for each field -/

/-- The data of a company have the readings of `g`, each under its field with its provenance, and nothing
else. -/
structure Shows (symbol : String) (g : FundamentalField → Option (PyFloat × String))
    (data : FundamentalData) : Prop where
  symbol : data.symbol = symbol
  asOf : data.asOf = none
  value : ∀ f, data.value f = (g f).map Prod.fst
  snapshot : ∀ f, data.snapshot f.name = (g f).map fun r =>
    { fieldName := f.name, value := some r.1, source := some sourceName, period := some r.2,
      status := .available }
  others : ∀ key, (∀ f : FundamentalField, key ≠ f.name) → data.snapshot key = none

variable {symbol : String} {g : FundamentalField → Option (PyFloat × String)} {data : FundamentalData}

theorem Shows.congr {g' : FundamentalField → Option (PyFloat × String)} (h : Shows symbol g data)
    (hg : ∀ f, g f = g' f) : Shows symbol g' data := by
  obtain rfl : g = g' := funext hg
  exact h

theorem shows_new (symbol : String) : Shows symbol (fun _ => none) { symbol := symbol } :=
  ⟨rfl,rfl,fun _ => rfl,fun _ => rfl,fun _ _ => rfl⟩

theorem Shows.setField (h : Shows symbol g data) (f : FundamentalField) (value : PyFloat) (period : String) :
    Shows symbol (Function.update g f (some (value,period))) (setField data f value sourceName period) where
  symbol := h.symbol
  asOf := h.asOf
  value f' := by
    by_cases hf : f' = f
    · subst hf
      rw [Function.update_self]
      exact if_pos rfl
    · rw [Function.update_of_ne hf, ← h.value f']
      exact if_neg hf
  snapshot f' := by
    have hlookup : (MultiStock.setField data f value sourceName period).snapshot f'.name = _ :=
      Assoc.lookup_setItem _ _ _ _
    rw [hlookup, h.asOf]
    by_cases hf : f' = f
    · subst hf
      rw [Function.update_self, if_pos rfl]
      rfl
    · rw [Function.update_of_ne hf, if_neg (mt FundamentalField.name_injective hf), ← h.snapshot f']
      rfl
  others key hkey := (Assoc.lookup_setItem _ _ _ _).trans ((if_neg (hkey f)).trans (h.others key hkey))

/-- What a map of fields takes from the values under its names. -/
def mapped (fields : List (String × FundamentalField × String)) (values : List (String × PyFloat))
    (f : FundamentalField) : Option (PyFloat × String) :=
  (fields.find? fun field => decide (field.2.1 = f)).bind fun field =>
    (values.lookup field.1).map fun value => (value,field.2.2)

theorem mapped_eq_none {fields : List (String × FundamentalField × String)} {f : FundamentalField}
    (h : f ∉ fields.map fun field => field.2.1) (values : List (String × PyFloat)) :
    mapped fields values f = none := by
  have hnone : (fields.find? fun field => decide (field.2.1 = f)) = none :=
    List.find?_eq_none.mpr fun field hfield hf =>
      h (List.mem_map.mpr ⟨field,hfield,of_decide_eq_true hf⟩)
  rw [mapped, hnone, Option.bind_none]

theorem Shows.setMapped {fields : List (String × FundamentalField × String)}
    (hnodup : (fields.map fun field => field.2.1).Nodup) (values : List (String × PyFloat))
    (h : Shows symbol g data) :
    Shows symbol (fun f => (mapped fields values f).or (g f)) (setMapped fields values data) := by
  induction fields generalizing g data with
  | nil => exact h
  | cons field rest ih =>
    obtain ⟨hfield,hrest⟩ := List.nodup_cons.mp hnodup
    have hother {f : FundamentalField} (hf : field.2.1 ≠ f) :
        mapped (field::rest) values f = mapped rest values f := by
      rw [mapped, List.find?_cons_of_neg (by simpa using hf)]
      rfl
    have hown : mapped (field::rest) values field.2.1 =
        (values.lookup field.1).map fun value => (value,field.2.2) := by
      rw [mapped, List.find?_cons_of_pos (by simp)]
      rfl
    cases hvalue : values.lookup field.1 with
    | none =>
      have hdata : Trendlyne.setMapped (field::rest) values data = Trendlyne.setMapped rest values data := by
        rw [Trendlyne.setMapped, List.foldl_cons, hvalue]
        rfl
      have hview : (fun f => (mapped (field::rest) values f).or (g f)) =
          fun f => (mapped rest values f).or (g f) := by
        funext f
        by_cases hf : field.2.1 = f
        · rw [← hf, hown, hvalue, mapped_eq_none hfield]
          rfl
        · rw [hother hf]
      rw [hdata, hview]
      exact ih hrest h
    | some value =>
      have hdata : Trendlyne.setMapped (field::rest) values data =
          Trendlyne.setMapped rest values (MultiStock.setField data field.2.1 value sourceName field.2.2) := by
        rw [Trendlyne.setMapped, List.foldl_cons, hvalue]
        rfl
      have hview : (fun f => (mapped (field::rest) values f).or (g f)) =
          fun f => (mapped rest values f).or (Function.update g field.2.1 (some (value,field.2.2)) f) := by
        funext f
        by_cases hf : field.2.1 = f
        · rw [← hf, hown, hvalue, mapped_eq_none hfield, Function.update_self]
          rfl
        · rw [hother hf, Function.update_of_ne (Ne.symm hf)]
      rw [hdata, hview]
      exact ih hrest (h.setField field.2.1 value field.2.2)

/-- A field of another source is taken only where there is none yet. -/
theorem Shows.setMissing (h : Shows symbol g data) (name : String) (attr : FundamentalField)
    (holdings : List (String × PyFloat)) :
    Shows symbol (fun f => (g f).or (mapped [(name,attr,"latest quarter")] holdings f))
      (setMissing name attr holdings data) := by
  have hattr : [(name,attr,"latest quarter")].map (fun field => field.2.1) = [attr] := rfl
  have hvalue : (data.value attr).isNone = (g attr).isNone := by rw [h.value attr, Option.isNone_map]
  rw [Trendlyne.setMissing, hvalue]
  by_cases hnone : (g attr).isNone = true
  · rw [if_pos hnone]
    have hview : (fun f => (g f).or (mapped [(name,attr,"latest quarter")] holdings f)) =
        fun f => (mapped [(name,attr,"latest quarter")] holdings f).or (g f) := by
      funext f
      by_cases hf : f = attr
      · rw [hf, Option.isNone_iff_eq_none.mp hnone, Option.none_or, Option.or_none]
      · rw [mapped_eq_none (by rw [hattr]; simpa using hf), Option.none_or, Option.or_none]
    rw [hview]
    have hnodup : ([(name,attr,"latest quarter")].map fun field => field.2.1).Nodup :=
      List.nodup_singleton attr
    exact h.setMapped hnodup holdings
  · rw [if_neg hnone]
    have hview : (fun f => (g f).or (mapped [(name,attr,"latest quarter")] holdings f)) = g := by
      funext f
      by_cases hf : f = attr
      · obtain ⟨r,hr⟩ := Option.ne_none_iff_exists'.mp (mt Option.isNone_iff_eq_none.mpr hnone)
        rw [hf, hr, Option.some_or]
      · rw [mapped_eq_none (by rw [hattr]; simpa using hf), Option.or_none]
    rw [hview]
    exact h

/-- A chart's reading with the period it is shown for. -/
def chartPeriod (reading : PyFloat × String) : PyFloat × String :=
  (reading.1,if reading.2 = "" then "latest quarter" else reading.2)

theorem Shows.setChart (h : Shows symbol g data) (attr : FundamentalField)
    (reading : Option (PyFloat × String)) :
    Shows symbol (fun f => if f = attr then (reading.map chartPeriod).or (g f) else g f)
      (setChart attr reading data) := by
  cases reading with
  | none =>
    simp only [Option.map_none, Option.none_or, ite_self]
    exact h
  | some r =>
    have hview : (fun f => if f = attr then ((some r).map chartPeriod).or (g f) else g f) =
        Function.update g attr (some (chartPeriod r)) := by
      funext f
      by_cases hf : f = attr
      · rw [if_pos hf, hf, Function.update_self]
        rfl
      · rw [if_neg hf, Function.update_of_ne hf]
    rw [hview]
    exact h.setField attr r.1 (chartPeriod r).2

/-- What a shareholding answer adds to the readings there are. -/
def withShareholding (literalEval : String → Except RowError (List Literal))
    (g : FundamentalField → Option (PyFloat × String)) (text : String) (f : FundamentalField) :
    Option (PyFloat × String) :=
  let held := ((g f).or (mapped [("FII",.fiiHoldingPct,"latest quarter")] (summaryHoldings literalEval text) f)).or
    (mapped [("Promoter",.promoterHoldingPct,"latest quarter")] (summaryHoldings literalEval text) f)
  let charted := if f = .diiHoldingPct then ((chartReadings literalEval text).1.map chartPeriod).or held else held
  if f = .promoterPledgePct then ((chartReadings literalEval text).2.map chartPeriod).or charted else charted

theorem Shows.shareholding (literalEval : String → Except RowError (List Literal)) (h : Shows symbol g data)
    (text : String) :
    Shows symbol (withShareholding literalEval g text) (applyShareholdingText literalEval data text) :=
  (((h.setMissing "FII" .fiiHoldingPct (summaryHoldings literalEval text)).setMissing "Promoter"
    .promoterHoldingPct (summaryHoldings literalEval text)).setChart .diiHoldingPct
    (chartReadings literalEval text).1).setChart .promoterPledgePct (chartReadings literalEval text).2

/-- The last of the readings for a field. -/
def lastReading (given : List ((FundamentalField × String) × PyFloat)) (f : FundamentalField) :
    Option (PyFloat × String) :=
  ((given.filter fun r => decide (r.1.1 = f)).getLast?).map fun r => (r.2,r.1.2)

theorem Shows.readings (given : List ((FundamentalField × String) × PyFloat)) (h : Shows symbol g data) :
    Shows symbol (fun f => (lastReading given f).or (g f)) (given.foldl setReading data) := by
  induction given generalizing g data with
  | nil => exact h
  | cons r rest ih =>
    rw [List.foldl_cons]
    have hview : (fun f => (lastReading (r::rest) f).or (g f)) =
        fun f => (lastReading rest f).or (Function.update g r.1.1 (some (r.2,r.1.2)) f) := by
      funext f
      by_cases hf : r.1.1 = f
      · subst hf
        rw [lastReading, List.filter_cons_of_pos (by simp), List.getLast?_cons, Function.update_self, lastReading]
        cases (rest.filter fun x => decide (x.1.1 = r.1.1)).getLast? <;> rfl
      · rw [Function.update_of_ne (Ne.symm hf), lastReading, List.filter_cons_of_neg (by simpa using hf),
          lastReading]
    rw [hview]
    exact ih (h.setField r.1.1 r.2 r.1.2)

section
variable [Builtins] (loads : String → Option PyValue) (literalEval : String → Except RowError (List Literal))

/-- Where each field comes from: the table of the overview; for two holdings its summary or, failing that,
the shareholding's; the shareholding's charts; and for two ratios the peer comparison. -/
def sourced (symbol overview shareholding multiStock : String) : FundamentalField → Option (PyFloat × String)
  | .promoterHoldingPct => (((summaryHoldings literalEval overview).lookup "Promoter").or
      ((summaryHoldings literalEval shareholding).lookup "Promoter")).map (·,"latest quarter")
  | .fiiHoldingPct => (((summaryHoldings literalEval overview).lookup "FII").or
      ((summaryHoldings literalEval shareholding).lookup "FII")).map (·,"latest quarter")
  | .diiHoldingPct => (chartReadings literalEval shareholding).1.map chartPeriod
  | .promoterPledgePct => (chartReadings literalEval shareholding).2.map chartPeriod
  | .rocePct => lastReading (readings loads symbol multiStock) .rocePct
  | .debtToEquity => lastReading (readings loads symbol multiStock) .debtToEquity
  | f => mapped fundamentalFieldMap (overviewTable overview) f

omit [Builtins] in
theorem nodup_fundamentalFieldMap : (fundamentalFieldMap.map fun field => field.2.1).Nodup := by decide

omit [Builtins] in
theorem nodup_summaryFieldMap : (summaryFieldMap.map fun field => field.2.1).Nodup := by decide

theorem shows_overview (symbol overview : String) :
    Shows symbol (fun f => (mapped summaryFieldMap (summaryHoldings literalEval overview) f).or
      (mapped fundamentalFieldMap (overviewTable overview) f))
      (parseOverviewText literalEval symbol overview) := by
  have htable := (shows_new symbol).setMapped nodup_fundamentalFieldMap (overviewTable overview)
  simp only [Option.or_none] at htable
  exact htable.setMapped nodup_summaryFieldMap (summaryHoldings literalEval overview)

/-- The peer comparison is read for two fields. -/
theorem lastReading_eq_none (symbol multiStock : String) {f : FundamentalField} (hroce : f ≠ .rocePct)
    (hdebt : f ≠ .debtToEquity) : lastReading (readings loads symbol multiStock) f = none := by
  have hnil : ((readings loads symbol multiStock).filter fun r => decide (r.1.1 = f)) = [] := by
    rw [List.filter_eq_nil_iff]
    intro r hr hf
    obtain ⟨_,_,_,_,_,_,label,_,_,hlabel,-⟩ := ownNumber_of_mem_readings loads hr
    obtain rfl := of_decide_eq_true hf
    rw [targetedMultiStockFields, List.lookup_cons, List.lookup_cons] at hlabel
    split at hlabel
    · exact hroce (Prod.ext_iff.mp (Option.some.inj hlabel)).1.symm
    · split at hlabel
      · exact hdebt (Prod.ext_iff.mp (Option.some.inj hlabel)).1.symm
      · cases hlabel
  rw [lastReading, hnil]
  rfl

/-- The fields that the overview's table has no name for and another text does. -/
def apartFields : List FundamentalField :=
  [.promoterHoldingPct,.fiiHoldingPct,.diiHoldingPct,.promoterPledgePct,.rocePct,.debtToEquity]

theorem sourced_of_notMem (symbol overview shareholding multiStock : String) {f : FundamentalField}
    (hf : f ∉ apartFields) : sourced loads literalEval symbol overview shareholding multiStock f =
      mapped fundamentalFieldMap (overviewTable overview) f := by
  cases f <;> first
    | exact absurd (by decide) hf
    | rfl

/-- Whatever the three texts say, nothing is raised, every field has what its one source says, and under
its name stand the same value and where it is from; nothing else is set. -/
theorem applied_shows (symbol overview shareholding multiStock : String) :
    ∃ data, applyTargetedMultiStockText loads (applyShareholdingText literalEval
        (parseOverviewText literalEval symbol overview) shareholding) symbol multiStock = .ok data ∧
      Shows symbol (sourced loads literalEval symbol overview shareholding multiStock) data := by
  refine ⟨_,applyTargetedMultiStockText_eq loads _ symbol multiStock,?_⟩
  have hshows := ((shows_overview literalEval symbol overview).shareholding literalEval shareholding).readings
    (readings loads symbol multiStock)
  refine hshows.congr fun f => ?_
  by_cases hf : f ∈ apartFields
  · by_cases htargeted : f = .rocePct ∨ f = .debtToEquity
    · rcases htargeted with rfl | rfl <;>
        simp [sourced, withShareholding, mapped, summaryFieldMap, fundamentalFieldMap]
    · obtain ⟨hroce,hdebt⟩ := not_or.mp htargeted
      rw [lastReading_eq_none loads symbol multiStock hroce hdebt, Option.none_or]
      simp only [apartFields, List.mem_cons, List.not_mem_nil, or_false, hroce, hdebt] at hf
      rcases hf with rfl | rfl | rfl | rfl <;>
        simp [sourced, withShareholding, mapped, summaryFieldMap, fundamentalFieldMap, Option.map_or]
  · rw [sourced_of_notMem loads literalEval symbol overview shareholding multiStock hf]
    simp only [apartFields, List.mem_cons, List.not_mem_nil, or_false, not_or] at hf
    obtain ⟨hpromoter,hfii,hdii,hpledge,hroce,hdebt⟩ := hf
    have hsummary : mapped summaryFieldMap (summaryHoldings literalEval overview) f = none :=
      mapped_eq_none (by simp [summaryFieldMap, hpromoter, hfii]) _
    have hfiiOnly : mapped [("FII",.fiiHoldingPct,"latest quarter")] (summaryHoldings literalEval shareholding)
        f = none := mapped_eq_none (by simp [hfii]) _
    have hpromoterOnly : mapped [("Promoter",.promoterHoldingPct,"latest quarter")]
        (summaryHoldings literalEval shareholding) f = none := mapped_eq_none (by simp [hpromoter]) _
    rw [lastReading_eq_none loads symbol multiStock hroce hdebt, withShareholding, if_neg hpledge, if_neg hdii, hsummary,
      hfiiOnly, hpromoterOnly, Option.none_or, Option.none_or, Option.or_none, Option.or_none]

end

end MarketScanner.Fundamentals.Trendlyne
