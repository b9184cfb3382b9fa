import MarketScanner.Library.Assoc
import MarketScanner.Python.Json

/-! News of the symbols that are asked for. A response is keyed by instrument tokens, and what a token
means is read off the symbol table, never off the response. -/
namespace MarketScanner.Catalyst
open MarketScanner.Library MarketScanner.Python

structure RawNewsArticle where
  symbol : String
  headline : String
  summary : String
  source : String
  publishedAt : DateTime
  articleUrl : Option String
  deriving DecidableEq

/-- The first and last microsecond that a `datetime` can hold: of the years 1 and 9999. -/
def minTimestampUs : ℤ := -62135596800000000
def maxTimestampUs : ℤ := 253402300799999999

/-- The `ValueError` or `OverflowError` of a time that is no date. -/
structure BadTimestamp where
  value : PyFloat
  deriving DecidableEq

/-- `datetime.fromtimestamp(ms / 1000, tz=UTC)`, which rounds to microseconds. -/
def fromTimestamp (ms : PyFloat) : Except BadTimestamp DateTime :=
  match ms with
  | .finite q =>
    let moment := PyFloat.roundHalfEven (q*1000)
    if minTimestampUs ≤ moment ∧ moment ≤ maxTimestampUs then .ok ⟨moment,0⟩ else .error ⟨ms⟩
  | _ => .error ⟨ms⟩

/-- The number of a value that is an `int | float`. -/
def numberOf : PyValue → Option PyFloat
  | .int n => some (.finite n)
  | .float x => some x
  | .bool b => some (.finite (if b then 1 else 0))
  | _ => none

def textOf : PyValue → Option String
  | .str s => some s
  | _ => none

/-- `_parse_article`; it raises where the time is no date. -/
def parseArticle (symbol : String) : PyValue → Except BadTimestamp (Option RawNewsArticle)
  | .dict item =>
    match Dict.get item "heading", numberOf (Dict.get item "published_time") with
    | .str heading, some published =>
      if heading = "" then .ok none
      else (fromTimestamp published).map fun publishedAt => some
        { symbol
          headline := heading
          summary := (textOf (Dict.get item "summary")).getD ""
          source := "upstox"
          publishedAt
          articleUrl := textOf (Dict.get item "article_link") }
    | _, _ => .ok none
  | _ => .ok none

/-- The articles among the items under one token. -/
def parseAll (symbol : String) : List PyValue → Except BadTimestamp (List RawNewsArticle)
  | [] => .ok []
  | item::items =>
    match parseArticle symbol item with
    | .error e => .error e
    | .ok none => parseAll symbol items
    | .ok (some article) => (parseAll symbol items).map (article::·)

/-- `resolve_tokens` -/
def resolveTokens (symbols : List String) (symbolByName : Assoc String String) : Assoc String String :=
  symbols.foldl (fun d symbol => d.setSome symbol (symbolByName.get? symbol)) Assoc.empty

/-- `match_articles` -/
def matchArticles (tokenToSymbol : Assoc String String) :
    List (String × List PyValue) → Assoc String (List RawNewsArticle) →
      Except BadTimestamp (Assoc String (List RawNewsArticle))
  | [], results => .ok results
  | (token,items)::rest, results =>
    match tokenToSymbol.get? token with
    | none => matchArticles tokenToSymbol rest results
    | some symbol =>
      match parseAll symbol items with
      | .error e => .error e
      | .ok parsed =>
        matchArticles tokenToSymbol rest (if parsed = [] then results else results.set symbol parsed)

namespace UpstoxNewsProvider

/-- The list items of `data`, a later entry of a key in the place of an earlier one. -/
def listItems (data : Dict) : Assoc String (List PyValue) :=
  data.foldl (fun d entry => d.setSome entry.1 (match entry.2 with
    | .list items => some items
    | _ => none)) Assoc.empty

/-- `_fetch`, given how the request ends. -/
def fetch : HttpReply → Assoc String (List PyValue)
  | .response r =>
    if r.statusCode ≠ 200 then Assoc.empty
    else match r.json with
      | some (.dict body) =>
        if !(Dict.get body "status").eqStr "success" then Assoc.empty
        else match Dict.get body "data" with
          | .dict data => listItems data
          | _ => Assoc.empty
      | _ => Assoc.empty
  | _ => Assoc.empty

/-- `{s.symbol: s for s in list_active()}`, with the token of each. -/
def symbolByName (active : List (String × String)) : Assoc String String :=
  active.foldl (fun d row => d.set row.1 row.2) Assoc.empty

/-- `{token: symbol for symbol, token in token_by_symbol.items()}` -/
def tokenToSymbol (tokenBySymbol : Assoc String String) : Assoc String String :=
  tokenBySymbol.items.foldl (fun d entry => d.set entry.2 entry.1) Assoc.empty

/-- `get_news`, with the active symbols and their instrument tokens. -/
def getNews (active : List (String × String)) (reply : HttpReply) (symbols : List String) :
    Except BadTimestamp (Assoc String (List RawNewsArticle)) :=
  let tokenBySymbol := resolveTokens symbols (symbolByName active)
  if tokenBySymbol.items = [] then .ok Assoc.empty
  else matchArticles (tokenToSymbol tokenBySymbol) (fetch reply).items Assoc.empty

end UpstoxNewsProvider

section Filing
variable {symbol token : String} {items : List PyValue} {raw : List (String × List PyValue)}
  {tokenToSymbol : Assoc String String} {acc results : Assoc String (List RawNewsArticle)}
  {articles : List RawNewsArticle}

/-- One item whose time is no date spoils the rest. -/
theorem parseAll_error_iff : (∃ e, parseAll symbol items = .error e) ↔
    ∃ item ∈ items, ∃ e, parseArticle symbol item = .error e := by
  induction items with
  | nil => simp [parseAll]
  | cons item items ih =>
    rw [List.exists_mem_cons_iff, parseAll]
    cases hitem : parseArticle symbol item with
    | error e => simp
    | ok article =>
      cases article with
      | none => simpa using ih
      | some article =>
        dsimp only
        cases hrest : parseAll symbol items with
        | error e => simpa [Except.map, hrest] using ih
        | ok parsed => simpa [Except.map, hrest] using ih

theorem matchArticles_error_iff : (∃ e, matchArticles tokenToSymbol raw acc = .error e) ↔
    ∃ token items symbol, (token,items) ∈ raw ∧ tokenToSymbol.get? token = some symbol ∧
      ∃ item ∈ items, ∃ e, parseArticle symbol item = .error e := by
  induction raw generalizing acc with
  | nil => simp [matchArticles]
  | cons entry rest ih =>
    obtain ⟨token,items⟩ := entry
    have hsplit : (∃ token' items' symbol, (token',items') ∈ (token,items)::rest ∧
        tokenToSymbol.get? token' = some symbol ∧ ∃ item ∈ items', ∃ e, parseArticle symbol item = .error e) ↔
        (∃ symbol, tokenToSymbol.get? token = some symbol ∧ ∃ e, parseAll symbol items = .error e) ∨
        ∃ token items symbol, (token,items) ∈ rest ∧ tokenToSymbol.get? token = some symbol ∧
          ∃ item ∈ items, ∃ e, parseArticle symbol item = .error e := by
      constructor
      · rintro ⟨token',items',symbol,hmem,hsymbol,hbad⟩
        rcases List.mem_cons.mp hmem with heq | hrest
        · obtain ⟨rfl,rfl⟩ := Prod.mk.inj heq
          exact .inl ⟨symbol,hsymbol,parseAll_error_iff.mpr hbad⟩
        · exact .inr ⟨token',items',symbol,hrest,hsymbol,hbad⟩
      · rintro (⟨symbol,hsymbol,hbad⟩ | ⟨token',items',symbol,hmem,hsymbol,hbad⟩)
        · exact ⟨token,items,symbol,List.mem_cons_self,hsymbol,parseAll_error_iff.mp hbad⟩
        · exact ⟨token',items',symbol,List.mem_cons_of_mem _ hmem,hsymbol,hbad⟩
    rw [hsplit, matchArticles]
    cases hsymbol : tokenToSymbol.get? token with
    | none => simpa using ih
    | some symbol =>
      dsimp only
      cases hparsed : parseAll symbol items with
      | error e => simp [hparsed]
      | ok parsed => simpa [hparsed] using ih

/-- One turn of the loop that goes well. -/
theorem matchArticles_cons (h : matchArticles tokenToSymbol ((token,items)::raw) acc = .ok results) :
    (tokenToSymbol.get? token = none ∧ matchArticles tokenToSymbol raw acc = .ok results) ∨
    ∃ symbol parsed, tokenToSymbol.get? token = some symbol ∧ parseAll symbol items = .ok parsed ∧
      matchArticles tokenToSymbol raw (if parsed = [] then acc else acc.set symbol parsed) = .ok results := by
  rw [matchArticles] at h
  cases hsymbol : tokenToSymbol.get? token with
  | none =>
    rw [hsymbol] at h
    exact .inl ⟨rfl,h⟩
  | some symbol =>
    rw [hsymbol] at h
    dsimp only at h
    cases hparsed : parseAll symbol items with
    | error e => rw [hparsed] at h; cases h
    | ok parsed =>
      rw [hparsed] at h
      exact .inr ⟨symbol,parsed,rfl,hparsed,h⟩

theorem get?_matchArticles_of_not_mem (h : matchArticles tokenToSymbol raw acc = .ok results)
    (hnone : ∀ entry ∈ raw, tokenToSymbol.get? entry.1 ≠ some symbol) :
    results.get? symbol = acc.get? symbol := by
  induction raw generalizing acc with
  | nil =>
    obtain rfl := Except.ok.inj h
    rfl
  | cons entry rest ih =>
    obtain ⟨token,items⟩ := entry
    have hhead := hnone (token,items) List.mem_cons_self
    have hrest := fun entry hentry => hnone entry (List.mem_cons_of_mem (token,items) hentry)
    rcases matchArticles_cons h with ⟨-,h⟩ | ⟨symbol',parsed,hsymbol,-,h⟩
    · exact ih h hrest
    · rw [ih h hrest]
      have hne : symbol ≠ symbol' := by
        rintro rfl
        exact hhead hsymbol
      split_ifs
      · rfl
      · rw [Assoc.get?_set, if_neg hne]

/-- What `match_articles` files under a symbol, if no two tokens mean the same symbol. -/
theorem get?_matchArticles_of_mem (hraw : (raw.map Prod.fst).Nodup)
    (hone : ∀ token' , tokenToSymbol.get? token' = some symbol → token' = token)
    (h : matchArticles tokenToSymbol raw acc = .ok results) (hmem : (token,items) ∈ raw)
    (hsymbol : tokenToSymbol.get? token = some symbol) (hparsed : parseAll symbol items = .ok articles) :
    results.get? symbol = if articles = [] then acc.get? symbol else some articles := by
  induction raw generalizing acc with
  | nil => cases hmem
  | cons entry rest ih =>
    obtain ⟨token',items'⟩ := entry
    obtain ⟨hhead,hrest⟩ := List.nodup_cons.mp hraw
    rcases List.mem_cons.mp hmem with heq | hlater
    · obtain ⟨rfl,rfl⟩ := Prod.mk.inj heq
      have hnone : ∀ entry ∈ rest, tokenToSymbol.get? entry.1 ≠ some symbol := by
        intro entry hentry hmeans
        exact hhead (List.mem_map.mpr ⟨entry,hentry,hone entry.1 hmeans⟩)
      rcases matchArticles_cons h with ⟨hunknown,-⟩ | ⟨symbol',parsed,hsymbol',hparsed',h⟩
      · rw [hsymbol] at hunknown
        cases hunknown
      · obtain rfl := Option.some.inj (hsymbol.symm.trans hsymbol')
        obtain rfl := Except.ok.inj (hparsed.symm.trans hparsed')
        rw [get?_matchArticles_of_not_mem h hnone]
        split_ifs
        · rfl
        · rw [Assoc.get?_set, if_pos rfl]
    · have hne : token' ≠ token := by
        rintro rfl
        exact hhead (List.mem_map.mpr ⟨_,hlater,rfl⟩)
      rcases matchArticles_cons h with ⟨-,h⟩ | ⟨symbol',parsed,hsymbol',-,h⟩
      · exact ih hrest h hlater
      · have hne' : symbol ≠ symbol' := by
          rintro rfl
          exact hne (hone token' hsymbol')
        rw [ih hrest h hlater]
        split_ifs <;> first | rfl | rw [Assoc.get?_set, if_neg hne']

end Filing

namespace UpstoxNewsProvider
variable {active : List (String × String)} {reply : HttpReply} {symbols : List String} {symbol token : String}
  {articles : List RawNewsArticle}

/-- The tokens asked for, and the symbols they stand for. -/
def asked (active : List (String × String)) (symbols : List String) : Assoc String String :=
  tokenToSymbol (resolveTokens symbols (symbolByName active))

/-- A token stands for a symbol that was asked for and carries it in the table. -/
theorem asked_spec (h : (asked active symbols).get? token = some symbol) :
    symbol ∈ symbols ∧ (symbol,token) ∈ active ∧
      (resolveTokens symbols (symbolByName active)).get? symbol = some token := by
  obtain ⟨⟨symbol',token'⟩,hmem,rfl,rfl⟩ := Assoc.mem_of_get?_foldl_set h
  have hget := Assoc.get?_eq_some_iff.mpr hmem
  refine ⟨?_,?_,hget⟩ <;> rw [resolveTokens, Assoc.get?_foldl_setSome] at hget <;>
    split_ifs at hget with hsymbol
  · exact hsymbol
  · simp at hget
  · rw [Assoc.get?_empty, Option.or_none] at hget
    obtain ⟨row,hrow,hname,htoken⟩ := Assoc.mem_of_get?_foldl_set hget
    dsimp only at hname htoken ⊢
    rwa [← hname, ← htoken]
  · simp at hget

theorem asked_injective {token' : String} (h : (asked active symbols).get? token = some symbol)
    (h' : (asked active symbols).get? token' = some symbol) : token' = token :=
  Option.some.inj ((asked_spec h').2.2.symm.trans (asked_spec h).2.2)

/-- What the articles of a response are filed as, where none of them is undatable. -/
theorem filed_iff {results : Assoc String (List RawNewsArticle)}
    (h : matchArticles (asked active symbols) (fetch reply).items Assoc.empty = .ok results) :
    results.get? symbol = some articles ↔
      articles ≠ [] ∧ ∃ token items, (asked active symbols).get? token = some symbol ∧
        symbol ∈ symbols ∧ (symbol,token) ∈ active ∧ (fetch reply).get? token = some items ∧
        parseAll symbol items = .ok articles := by
  by_cases hfound : ∃ token items, (asked active symbols).get? token = some symbol ∧
      (fetch reply).get? token = some items
  · obtain ⟨token,items,hsymbol,hitems⟩ := hfound
    have hmem := Assoc.get?_eq_some_iff.mp hitems
    cases hparsed : parseAll symbol items with
    | error e =>
      obtain ⟨e',he'⟩ : ∃ e, matchArticles (asked active symbols) (fetch reply).items Assoc.empty = .error e :=
        matchArticles_error_iff.mpr ⟨token,items,symbol,hmem,hsymbol,parseAll_error_iff.mp ⟨e,hparsed⟩⟩
      cases h.symm.trans he'
    | ok parsed =>
      rw [get?_matchArticles_of_mem (fetch reply).distinct (fun _ => asked_injective hsymbol) h hmem hsymbol
        hparsed]
      constructor
      · intro hresult
        split_ifs at hresult with hempty
        · cases hresult
        · obtain rfl := Option.some.inj hresult
          obtain ⟨hrequested,hactive,-⟩ := asked_spec hsymbol
          exact ⟨hempty,token,items,hsymbol,hrequested,hactive,hitems,hparsed⟩
      · rintro ⟨hne,token',items',hsymbol',-,-,hitems',hparsed'⟩
        obtain rfl := asked_injective hsymbol hsymbol'
        obtain rfl := Option.some.inj (hitems.symm.trans hitems')
        obtain rfl := Except.ok.inj (hparsed.symm.trans hparsed')
        rw [if_neg hne]
  · rw [get?_matchArticles_of_not_mem h fun entry hentry hmeans => hfound
      ⟨entry.1,entry.2,hmeans,Assoc.get?_eq_some_iff.mpr hentry⟩]
    constructor
    · intro hresult
      cases hresult
    · rintro ⟨-,token,items,hsymbol,-,-,hitems,-⟩
      exact absurd ⟨token,items,hsymbol,hitems⟩ hfound

/-- News are filed exactly: the call fails just when an article under a token that was asked for has a time
that is no date; otherwise the articles of a symbol are those under its own token, in their order, whatever
else the response holds. -/
theorem getNews_exact (active : List (String × String)) (reply : HttpReply) (symbols : List String) :
    ((∃ e, getNews active reply symbols = .error e) ↔
      ∃ token symbol items, (asked active symbols).get? token = some symbol ∧
        (fetch reply).get? token = some items ∧ ∃ item ∈ items, ∃ e, parseArticle symbol item = .error e) ∧
    ∀ results, getNews active reply symbols = .ok results → ∀ symbol articles,
      results.get? symbol = some articles ↔
        articles ≠ [] ∧ ∃ token items, (asked active symbols).get? token = some symbol ∧
          symbol ∈ symbols ∧ (symbol,token) ∈ active ∧ (fetch reply).get? token = some items ∧
          parseAll symbol items = .ok articles := by
  unfold getNews
  dsimp only
  by_cases hnone : (resolveTokens symbols (symbolByName active)).items = []
  · rw [if_pos hnone]
    have hasked (token : String) : (asked active symbols).get? token = none := by
      rw [asked, tokenToSymbol, hnone]
      rfl
    constructor
    · simp [hasked]
    · rintro results h symbol articles
      obtain rfl := Except.ok.inj h
      simp [hasked]
  · rw [if_neg hnone]
    constructor
    · rw [matchArticles_error_iff]
      simp only [← Assoc.get?_eq_some_iff]
      constructor
      · rintro ⟨token,items,symbol,hitems,hsymbol,hbad⟩
        exact ⟨token,symbol,items,hsymbol,hitems,hbad⟩
      · rintro ⟨token,symbol,items,hsymbol,hitems,hbad⟩
        exact ⟨token,items,symbol,hitems,hsymbol,hbad⟩
    · intro results h symbol articles
      exact filed_iff h

end UpstoxNewsProvider
end MarketScanner.Catalyst
