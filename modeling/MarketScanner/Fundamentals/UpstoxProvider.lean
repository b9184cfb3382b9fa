import MarketScanner.Fundamentals.Models
import MarketScanner.Python.Json
import MarketScanner.Universe.Backfill

/-! Fundamentals from three statements of one company. The bodies are any JSON: what does not have the
expected shape is skipped, while an int past the floats makes `float` raise. -/
namespace MarketScanner.Fundamentals
open MarketScanner.Python MarketScanner.Universe

namespace UpstoxProvider

/-- What ends a fetch with an exception: two rows for one symbol, or the `OverflowError` of `float`. -/
inductive Fault
  | lookup (e : PyException)
  | overflow
  deriving DecidableEq

/-- `_FetchOutcome` -/
structure FetchOutcome where
  payload : Option PyValue := none
  rateLimited : Bool := false
  error : Option String := none

/-- `_get`, from the reply on: a response, or the text of an `HTTPError`. -/
def get (reply : Except String HttpResponse) : FetchOutcome :=
  match reply with
  | .error text => { error := some text }
  | .ok response =>
    if response.statusCode = 404 then {}
    else if response.statusCode = 429 then { rateLimited := true }
    else if response.statusCode ≠ 200 then { error := some ("HTTP " ++ toString response.statusCode) }
    else
      match response.json with
      | none => { error := some "invalid JSON response" }
      | some body =>
        if !body.isDict || !((body.get? "status").getD .none).eqStr "success" then
          { error := some "unexpected response shape" }
        else
          let data := (body.get? "data").getD .none
          if data.isDict || data.isList then { payload := some data } else {}

/-- `isinstance(value, int | float)`; a bool is an int. -/
def isNumber : PyValue → Bool
  | .bool _ => true
  | .int _ => true
  | .float _ => true
  | _ => false

/-- `float(value)` of a number. -/
def toFloat : PyValue → Except Fault PyFloat
  | .bool b => .ok (.finite (if b then 1 else 0))
  | .int n => ((PyFloat.ofInt n).map Except.ok).getD (.error .overflow)
  | .float x => .ok x
  | _ => .ok .nan

/-- `setattr(data, field, x)`. -/
def set (data : FundamentalData) (field : FundamentalField) (x : PyFloat) : FundamentalData :=
  { data with value := fun f => if f = field then some x else data.value f }

/-- The name of a category and the first entry of its history, where these are there. -/
def latestOf (category : PyValue) : Option (PyValue × Dict) :=
  match category with
  | .dict kvs =>
    match Dict.get kvs "history" with
    | .list (.dict latest::_) => some (Dict.get kvs "category",latest)
    | _ => none
  | _ => none

/-- The elements of a list; nothing of any other value. -/
def elements : PyValue → List PyValue
  | .list xs => xs
  | _ => []

section
variable (strptime : String → Option Date)

/-- `_parse_period`: `strptime` reads a text by `"%b %Y"`, or raises `ValueError`. -/
def parsePeriod (period : PyValue) : Option Date :=
  match period with
  | .str text => strptime text
  | _ => none

/-- The later of two dates, the first where they are equal. -/
def laterPeriod (latestPeriod periodDate : Option Date) : Option Date :=
  match latestPeriod, periodDate with
  | latestPeriod, none => latestPeriod
  | none, some d => some d
  | some l, some d => if l < d then some d else some l

/-- The turn of `_apply_income_statement` for a category. -/
def incomeCategory (s : FundamentalData × Option Date) (category : PyValue) :
    Except Fault (FundamentalData × Option Date) :=
  match latestOf category with
  | none => .ok s
  | some (name,latest) =>
    let value := Dict.get latest "value"
    let latestPeriod := laterPeriod s.2 (parsePeriod strptime (Dict.get latest "period"))
    if !isNumber value then .ok (s.1,latestPeriod)
    else if name.eqStr "revenue" then
      (toFloat value).map fun x => (set s.1 .revenueTtmCr x,latestPeriod)
    else if name.eqStr "net_profit" then
      (toFloat value).map fun x => (set s.1 .netProfitTtmCr x,latestPeriod)
    else .ok (s.1,latestPeriod)

/-- `_apply_income_statement`: the record, and the latest period that could be read. -/
def applyIncomeStatement (data : FundamentalData) (payload : Dict) :
    Except Fault (FundamentalData × Option Date) :=
  (elements (payload.get "income_statement")).foldlM (incomeCategory strptime) (data,none)

/-- The loop of `_apply_cash_flow`: the first number of an operating category is taken. -/
def cashFlowCategories (data : FundamentalData) : List PyValue →
    Except Fault (FundamentalData × Bool)
  | [] => .ok (data,false)
  | category::rest =>
    match latestOf category with
    | none => cashFlowCategories data rest
    | some (name,latest) =>
      let value := Dict.get latest "value"
      if name.eqStr "operating" && isNumber value then
        (toFloat value).map fun x => (set data .operatingCashFlowCr x,true)
      else cashFlowCategories data rest

def applyCashFlow (data : FundamentalData) (payload : Dict) : Except Fault (FundamentalData × Bool) :=
  cashFlowCategories data (elements (payload.get "cash_flow"))

/-- `_KEY_RATIO_FIELD_MAP` -/
def keyRatioFieldMap : List (String × FundamentalField) :=
  [("P/E",.pe),("P/B",.pb),("ROE",.roePct),("ROCE",.rocePct),("EV/EBITDA",.evEbitda)]

variable [Builtins]

/-- `_parse_ratio_value`, without the percent signs at the end. -/
def parseRatioValue (raw : String) : Option PyFloat :=
  Builtins.floatOfStr (String.ofList (raw.toList.reverse.dropWhile (· == '%')).reverse)

/-- What a row of the key ratios sets. -/
def ratioOf (row : PyValue) : Option (FundamentalField × PyFloat) :=
  match row with
  | .dict kvs =>
    match keyRatioFieldMap.lookup (Dict.get kvs "name").toStr, Dict.get kvs "company_value" with
    | some field, .str raw => (parseRatioValue raw).map fun x => (field,x)
    | _, _ => none
  | _ => none

def applyKeyRatios (data : FundamentalData) (payload : List PyValue) : FundamentalData × Bool :=
  payload.foldl (fun s row => (ratioOf row).elim s fun ratio => (set s.1 ratio.1 ratio.2,true))
    (data,false)

/-! ### The fetch -/

/-- The local variables of `get_fundamentals_with_status` after the three calls. -/
structure Gathered where
  data : FundamentalData
  populated : Bool := false
  errors : List String := []
  anyRateLimited : Bool := false

/-- The branches after a call that has brought no payload of the wanted shape. -/
def Gathered.note (g : Gathered) (outcome : FetchOutcome) : Gathered :=
  if outcome.rateLimited then { g with anyRateLimited := true }
  else { g with errors := g.errors ++ outcome.error.toList }

def incomeStatementPath (isin : String) : String := "/fundamentals/" ++ isin ++ "/income-statement"
def cashFlowPath (isin : String) : String := "/fundamentals/" ++ isin ++ "/cash-flow"
def keyRatiosPath (isin : String) : String := "/fundamentals/" ++ isin ++ "/key-ratios"

def gatherIncomeStatement (g : Gathered) (outcome : FetchOutcome) : Except Fault Gathered :=
  match outcome.payload with
  | some (.dict payload) => (applyIncomeStatement strptime g.data payload).map fun (data,latestPeriod) =>
    { g with
      data := { data with asOf := latestPeriod.or data.asOf }
      populated := g.populated || latestPeriod.isSome }
  | _ => .ok (g.note outcome)

omit [Builtins] in
def gatherCashFlow (g : Gathered) (outcome : FetchOutcome) : Except Fault Gathered :=
  match outcome.payload with
  | some (.dict payload) => (applyCashFlow g.data payload).map fun (data,populated) =>
    { g with
      data
      populated := g.populated || populated }
  | _ => .ok (g.note outcome)

def gatherKeyRatios (g : Gathered) (outcome : FetchOutcome) : Gathered :=
  match outcome.payload with
  | some (.list payload) =>
    let (data,populated) := applyKeyRatios g.data payload
    { g with
      data
      populated := g.populated || populated }
  | _ => g.note outcome

def gather (symbol isin : String) (request : String → Except String HttpResponse) :
    Except Fault Gathered :=
  match gatherIncomeStatement strptime { data := { symbol } } (get (request (incomeStatementPath isin))) with
  | .error e => .error e
  | .ok g =>
    match gatherCashFlow g (get (request (cashFlowPath isin))) with
    | .error e => .error e
    | .ok g => .ok (gatherKeyRatios g (get (request (keyRatiosPath isin))))

/-- What is returned of the local variables. -/
def Gathered.report (g : Gathered) (symbol : String) :
    Option FundamentalData × FetchStatus × Option String :=
  if g.populated then (some g.data,.success,none)
  else if g.anyRateLimited then (none,.rateLimited,some "Upstox fundamentals API rate limited")
  else if g.errors ≠ [] then
    (none,.failed,some (String.ofList ((String.intercalate "; " g.errors).toList.take 500)))
  else (none,.failed,some ("no fundamental data returned for " ++ symbol))

/-- `_resolve_isin`; `_extract_isin` is the backfill's. -/
def resolveIsin (t : SymbolTable) (symbol : String) : Except PyException (Option String) :=
  (SymbolRepository.getBySymbol t symbol).map fun row =>
    row.bind fun row => extractIsin row.val.instrumentToken

def getFundamentalsWithStatus (t : SymbolTable) (symbol : String)
    (request : String → Except String HttpResponse) :
    Except Fault (Option FundamentalData × FetchStatus × Option String) :=
  match resolveIsin t symbol with
  | .error e => .error (.lookup e)
  | .ok none => .ok (none,.failed,some ("no resolvable ISIN for " ++ symbol))
  | .ok (some isin) => (gather strptime symbol isin request).map fun g => g.report symbol

end

end UpstoxProvider
end MarketScanner.Fundamentals
