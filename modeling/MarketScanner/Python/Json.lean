import MarketScanner.Python.Values

/-! Parsed response bodies: any JSON value, read with the methods of a dict. -/
namespace MarketScanner.Python
namespace PyValue

/-- `v.get(key)`; `none` where the value has no such method and `AttributeError` is raised. -/
def get? (v : PyValue) (key : String) : Option PyValue :=
  match v with
  | dict kvs => .some (Dict.get kvs key)
  | _ => .none

/-- `isinstance(v, dict)` -/
def isDict : PyValue → Bool
  | dict _ => true
  | _ => false

/-- `isinstance(v, list)` -/
def isList : PyValue → Bool
  | list _ => true
  | _ => false

/-- `v == text` for a string on the right. -/
def eqStr (v : PyValue) (text : String) : Bool :=
  match v with
  | str s => s == text
  | _ => false

theorem isSome_get?_iff (v : PyValue) (key : String) : (v.get? key).isSome ↔ v.isDict := by
  cases v <;> simp [get?, isDict]

end PyValue

/-- A response: its status code, and its body where that parses as JSON. -/
structure HttpResponse where
  statusCode : ℕ
  json : Option PyValue

/-- How a request ends: in a response, a time-out, or another `HTTPError` with its text. -/
inductive HttpReply
  | response (r : HttpResponse)
  | timedOut
  | httpError (text : String)

end MarketScanner.Python
