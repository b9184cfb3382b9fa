import MarketScanner.Config.Settings
import MarketScanner.Fundamentals.Trendlyne
import MarketScanner.Library.ReadThrough

/-! `TrendlyneFundamentalDataProvider` and its client. The data of a company are fetched by three tool
calls of which only the first is needed; what they came to is cached for a while. -/
namespace MarketScanner.Fundamentals.Trendlyne
open MarketScanner.Python MarketScanner.Config MarketScanner.Library MultiStock

/-! ### Tool calls -/

/-- What ends a tool call without a text: a `TrendlyneMcpError`, or any other exception. -/
inductive ToolError
  | mcp (text : String)
  | escaped
  deriving DecidableEq

structure TextResponse where
  statusCode : ℕ
  text : String

/-- How the await of a tool call's request ends: in a response, a time-out, another `HTTPError`, or in
what is neither, such as the cancellation of the caller. -/
inductive ToolReply
  | response (r : TextResponse)
  | timedOut
  | httpError (className : String)
  | interrupted

section Client
variable (loads : String → Option PyValue)

/-- `_parse_sse_json` -/
def parseSseJson (body : String) : Except ToolError PyValue :=
  match ((splitlines body).filter (startswith "data:")).getLast? with
  | none => .error (.mcp "Trendlyne MCP response had no data: line")
  | some line =>
    match loads (strip (String.ofList (line.toList.drop "data:".length))) with
    | none => .error (.mcp "Trendlyne MCP response was not valid JSON")
    | some payload => .ok payload

variable [Builtins]

/-- The text of a payload, or the error it reports. What is no object has no `get`, and `in` or a
subscript raises before. -/
def textOfPayload (name : String) (payload : PyValue) : Except ToolError String :=
  match payload with
  | .dict kvs =>
    match kvs.lookup "error" with
    | some error => .error (.mcp ("tool '" ++ name ++ "' returned an MCP error: " ++
        ((error.get? "message").getD error).toStr))
    | none =>
      match Dict.get kvs "result" with
      | .dict result =>
        if (Dict.get result "isError").truthy then
          .error (.mcp ("tool '" ++ name ++ "' reported isError"))
        else
          match Dict.get result "content" with
          | .list (first::_) =>
            match first.get? "text" with
            | some (.str text) =>
              match loads text with
              | some (.dict inner) =>
                if (Dict.get inner "status").eqStr "error" then
                  .error (.mcp ("tool '" ++ name ++ "' reported an application error: " ++
                    (Dict.get inner "message").toStr))
                else .ok text
              | _ => .ok text
            | _ => .error (.mcp ("tool '" ++ name ++ "' returned non-text content"))
          | _ => .error (.mcp ("tool '" ++ name ++ "' returned no content"))
      | _ => .error (.mcp ("tool '" ++ name ++ "' returned no result"))
  | _ => .error .escaped

/-- `call_tool`, once the await of its request has ended. -/
def callTool (name : String) : ToolReply → Except ToolError String
  | .timedOut => .error (.mcp ("request to tool '" ++ name ++ "' timed out"))
  | .httpError className => .error (.mcp ("request to tool '" ++ name ++ "' failed: " ++ className))
  | .interrupted => .error .escaped
  | .response r =>
    if r.statusCode ≠ 200 then
      .error (.mcp ("tool '" ++ name ++ "' returned HTTP " ++ toString r.statusCode))
    else
      match parseSseJson loads r.text with
      | .error e => .error e
      | .ok payload => textOfPayload loads name payload

/-- A reply that no handler for `TrendlyneMcpError` stops: an exception of the await itself, or an HTTP 200
whose last payload is no object. -/
def Escapes : ToolReply → Prop
  | .interrupted => True
  | .response r => r.statusCode = 200 ∧ ∃ payload, parseSseJson loads r.text = .ok payload ∧
      payload.isDict = false
  | _ => False

omit [Builtins] in
theorem parseSseJson_ne_escaped (body : String) : parseSseJson loads body ≠ .error .escaped := by
  rw [parseSseJson]
  split
  · rintro ⟨⟩
  · split
    · rintro ⟨⟩
    · rintro ⟨⟩

theorem textOfPayload_escaped_iff (name : String) (payload : PyValue) :
    textOfPayload loads name payload = .error .escaped ↔ payload.isDict = false := by
  cases payload with
  | dict kvs =>
    rw [textOfPayload]
    constructor
    · intro h
      repeat' split at h
      all_goals cases h
    · rintro ⟨⟩
  | _ => exact ⟨fun _ => rfl,fun _ => rfl⟩

theorem callTool_escaped_iff (name : String) (reply : ToolReply) :
    callTool loads name reply = .error .escaped ↔ Escapes loads reply := by
  cases reply with
  | timedOut => exact ⟨(fun h => by cases h),False.elim⟩
  | httpError className => exact ⟨(fun h => by cases h),False.elim⟩
  | interrupted => exact ⟨fun _ => trivial,fun _ => rfl⟩
  | response r =>
    rw [callTool, Escapes]
    by_cases hstatus : r.statusCode = 200
    · rw [if_neg (not_not_intro hstatus)]
      cases hparse : parseSseJson loads r.text with
      | error e =>
        constructor
        · intro h
          have herror : (.error e : Except ToolError String) = .error .escaped := h
          obtain rfl := Except.error.inj herror
          exact absurd hparse (parseSseJson_ne_escaped loads r.text)
        · rintro ⟨-,payload,hpayload,-⟩
          cases hpayload
      | ok payload =>
        dsimp only
        rw [textOfPayload_escaped_iff]
        constructor
        · exact fun h => ⟨hstatus,payload,rfl,h⟩
        · rintro ⟨-,payload',hpayload,h⟩
          cases hpayload
          exact h
    · rw [if_pos hstatus]
      exact ⟨(fun h => by cases h),fun h => absurd h.1 hstatus⟩

end Client

/-! ### The provider -/

/-- `_RATE_LIMIT_MARKERS` -/
def rateLimitMarkers : List String := ["channel limit","rate limit","too many requests"]

/-- What `get_fundamentals_with_status` returns. -/
structure Answer where
  data : Option FundamentalData
  status : FetchStatus
  error : Option String

/-- Where a call that missed the cache awaits, or how it ended. -/
inductive Stage
  | overview
  | shareholding (data : FundamentalData)
  | multiStock (data : FundamentalData)
  | done (answer : Answer)
  | raised

/-- What the provider calls and is configured with: `str.lower`, `json.loads` and `ast.literal_eval`. -/
structure TextFunctions where
  lower : String → String
  loads : String → Option PyValue
  literalEval : String → Except RowError (List Literal)

section Provider
variable [Builtins] (env : TextFunctions)

/-- `_is_rate_limit_error` -/
def isRateLimitError (text : String) : Bool := rateLimitMarkers.any (occurs (env.lower text))

/-- From one await of `get_fundamentals_with_status` to the next, or to its end. -/
def Stage.next (symbol : String) : Stage → ToolReply → Option Stage
  | .overview, reply => some <|
    match callTool env.loads "get_overview_news_corp_events" reply with
    | .ok text => .shareholding (parseOverviewText env.literalEval symbol text)
    | .error (.mcp text) =>
      if isRateLimitError env text then .done ⟨none,.rateLimited,some text⟩
      else .done ⟨none,.failed,some text⟩
    | .error .escaped => .raised
  | .shareholding data, reply => some <|
    match callTool env.loads "get_ownership_deals_insider_sast" reply with
    | .ok text => .multiStock (applyShareholdingText env.literalEval data text)
    | .error (.mcp text) =>
      if isRateLimitError env text then .done ⟨some data,.rateLimited,some text⟩ else .multiStock data
    | .error .escaped => .raised
  | .multiStock data, reply => some <|
    match callTool env.loads "get_parameter_values_multi_stock" reply with
    | .ok text =>
      match applyTargetedMultiStockText env.loads data symbol text with
      | .ok data => .done ⟨some data,.success,none⟩
      | .error _ => .raised
    | .error (.mcp text) =>
      if isRateLimitError env text then .done ⟨some data,.rateLimited,some text⟩
      else .done ⟨some data,.success,none⟩
    | .error .escaped => .raised
  | .done _, _ => none
  | .raised, _ => none

omit [Builtins] in
/-- Every return with data writes `self._cache[symbol]` first. -/
def Stage.kept : Stage → Option FundamentalData
  | .done answer => answer.data
  | _ => none

/-- The provider: `ttl_seconds` on the monotonic clock. -/
def provider (settings : Settings) : ReadThrough String ToolReply FundamentalData Stage ℚ where
  first _ := .overview
  next := Stage.next env
  kept := Stage.kept
  ttl := settings.fundamentalCacheTtlMinutes*60

abbrev Fetch := ReadThrough.Fetch String FundamentalData Stage

omit [Builtins] in
/-- What a call returned, once it has. -/
def answerOf : Fetch → Option Answer
  | .hit _ data => some ⟨some data,.cached,none⟩
  | .miss _ (.done answer) => some answer
  | .miss _ _ => none

/-- No data that a call holds mixes companies or lacks its provenance, and only a hit is called CACHED. -/
def Stage.Sound (symbol : String) : Stage → Prop
  | .shareholding data => ∃ g, Shows symbol g data
  | .multiStock data => ∃ g, Shows symbol g data
  | .done answer => answer.status ≠ .cached ∧ ∀ data ∈ answer.data, ∃ g, Shows symbol g data
  | _ => True

theorem Stage.Sound.next {symbol : String} {stage stage' : Stage} {reply : ToolReply}
    (h : stage.Sound symbol) (hnext : stage.next env symbol reply = some stage') : stage'.Sound symbol := by
  cases stage with
  | overview =>
    obtain rfl := Option.some.inj hnext
    split
    · exact ⟨_,shows_overview env.literalEval symbol _⟩
    · split
      · exact ⟨by simp,fun data hdata => by cases hdata⟩
      · exact ⟨by simp,fun data hdata => by cases hdata⟩
    · trivial
  | shareholding data =>
    obtain rfl := Option.some.inj hnext
    obtain ⟨g,hg⟩ := h
    split
    · exact ⟨_,hg.shareholding env.literalEval _⟩
    · split
      · exact ⟨by simp,fun d hd => ⟨g,Option.some.inj hd ▸ hg⟩⟩
      · exact ⟨g,hg⟩
    · trivial
  | multiStock data =>
    obtain rfl := Option.some.inj hnext
    obtain ⟨g,hg⟩ := h
    split
    · rw [applyTargetedMultiStockText_eq]
      exact ⟨by simp,fun d hd => ⟨_,Option.some.inj hd ▸ hg.readings _⟩⟩
    · split
      · exact ⟨by simp,fun d hd => ⟨g,Option.some.inj hd ▸ hg⟩⟩
      · exact ⟨by simp,fun d hd => ⟨g,Option.some.inj hd ▸ hg⟩⟩
    · trivial
  | done answer => cases hnext
  | raised => cases hnext

/-- A call raises just at a reply that escapes. -/
theorem Stage.next_raised_iff {symbol : String} {stage stage' : Stage} {reply : ToolReply}
    (hnext : stage.next env symbol reply = some stage') : stage' = .raised ↔ Escapes env.loads reply := by
  cases stage with
  | overview =>
    obtain rfl := Option.some.inj hnext
    rw [← callTool_escaped_iff env.loads "get_overview_news_corp_events"]
    split <;> rename_i hcall
    · simp [hcall]
    · split <;> simp [hcall]
    · simp [hcall]
  | shareholding data =>
    obtain rfl := Option.some.inj hnext
    rw [← callTool_escaped_iff env.loads "get_ownership_deals_insider_sast"]
    split <;> rename_i hcall
    · simp [hcall]
    · split <;> simp [hcall]
    · simp [hcall]
  | multiStock data =>
    obtain rfl := Option.some.inj hnext
    rw [← callTool_escaped_iff env.loads "get_parameter_values_multi_stock"]
    split <;> rename_i hcall
    · rw [applyTargetedMultiStockText_eq]
      simp [hcall]
    · split <;> simp [hcall]
    · simp [hcall]
  | done answer => cases hnext
  | raised => cases hnext

end Provider

section Runs
variable [Builtins] {env : TextFunctions} {settings : Settings} {clock : ℚ} {i : ℕ} {symbol : String}
variable {s : ReadThrough.State String FundamentalData Stage ℚ} {stage : Stage}
variable {actions : List (ReadThrough.Action String ToolReply ℚ)}

theorem sound_of_outcome {replies : List ToolReply}
    (h : (provider env settings).outcome symbol replies = some stage) : stage.Sound symbol :=
  ReadThrough.outcome_induction (c := provider env settings) (I := fun _ stage => stage.Sound symbol) trivial
    (fun _ _ _ _ hsound hnext => hsound.next env hnext) replies h

theorem raised_of_outcome {replies : List ToolReply}
    (h : (provider env settings).outcome symbol replies = some stage) :
    stage = .raised ↔ ∃ reply ∈ replies, Escapes env.loads reply := by
  refine ReadThrough.outcome_induction (c := provider env settings)
    (I := fun replies stage => stage = .raised ↔ ∃ reply ∈ replies, Escapes env.loads reply) ?_ ?_ replies h
  · exact ⟨(fun h => by cases h),fun ⟨reply,hreply,_⟩ => by cases hreply⟩
  · intro replies stage reply stage' ih hnext
    -- a call that has raised takes no reply any more
    have hnot : stage ≠ .raised := by
      rintro rfl
      cases hnext
    have hbefore : ¬∃ reply ∈ replies, Escapes env.loads reply := fun h => hnot (ih.mpr h)
    rw [Stage.next_raised_iff env hnext]
    constructor
    · exact fun h => ⟨reply,by simp,h⟩
    · rintro ⟨r,hr,hescapes⟩
      rcases List.mem_append.mp hr with hold | hlast
      · exact absurd ⟨r,hold,hescapes⟩ hbefore
      · rwa [List.mem_singleton.mp hlast] at hescapes

/-- Whatever other calls run beside it, what a call returns is what its own replies come to; or it is
CACHED and was kept for this very company, less than the time to live before the call was made. Either
way every value in it is one that its source says of this company, and has its provenance beside it. -/
theorem answered_traced {f : Fetch} {answer : Answer}
    (hrun : (provider env settings).machine.Run (ReadThrough.start clock) actions s)
    (hi : s.fetches[i]? = some f) (ha : answerOf f = some answer) :
    (answer.status ≠ .cached →
      (provider env settings).outcome f.key (ReadThrough.repliesTo i actions) = some (.done answer)) ∧
    (answer.status = .cached → ∃ data, answer = ⟨some data,.cached,none⟩ ∧ (provider env settings).machine.Happened
      ((provider env settings).Answered clock i f.key data) (ReadThrough.start clock) actions) ∧
    ∀ data ∈ answer.data, ∃ g, Shows f.key g data := by
  have htraced := ReadThrough.traced_of_run hrun
  cases f with
  | hit symbol data =>
    obtain rfl := Option.some.inj ha
    have hhit := htraced.hit i symbol data hi
    refine ⟨fun h => absurd rfl h,fun _ => ⟨data,rfl,hhit⟩,fun d hd => ?_⟩
    obtain rfl := Option.some.inj hd
    obtain ⟨pre,a,post,t,u,-,-,-,-,-,time,hkept,-⟩ := hhit
    obtain ⟨_,_,_,_,_,-,-,-,_,_,_,stage,-,-,-,houtcome,hdata⟩ := hkept
    cases stage with
    | done answer => exact (sound_of_outcome houtcome).2 data hdata
    | _ => cases hdata
  | miss symbol stage =>
    have houtcome := htraced.miss i symbol stage hi
    cases stage with
    | done answer' =>
      obtain rfl := Option.some.inj ha
      have hsound := sound_of_outcome houtcome
      exact ⟨fun _ => houtcome,fun h => absurd h hsound.1,hsound.2⟩
    | _ => cases ha

/-- The overview comes, the other two calls fail; and the company is asked for again. -/
def overviewOnly : List (ReadThrough.Action String ToolReply ℚ) :=
  [.ask "INFY",.reply 0 (.response ⟨200,"event: message\ndata: overview\n\n"⟩),.reply 0 .timedOut,
    .reply 0 (.httpError "ConnectError"),.wait 100,.ask "INFY"]

/-- `json.loads` on the two payloads; none of the tool's texts is JSON. -/
def sampleFunctions : TextFunctions where
  lower := id
  loads text :=
    if text = "overview" then some (.dict [("result",.dict [("content",.list [.dict
      [("text",.str "fundamentalData:\nname|value|unique_name\nP/E|25|PE_TTM\n")]])])])
    else if text = "[]" then some (.list [])
    else none
  literalEval _ := .error .malformed

omit [Builtins] in
theorem answered_traced_overviewOnly :
    let _ := Builtins.tabulated [] [("25",25)] []
    let p := provider sampleFunctions {}
    ∃ s f answer, p.machine.Run (ReadThrough.start 0) overviewOnly s ∧ s.fetches[1]? = some f ∧
      answerOf f = some answer ∧ answer.status = .cached ∧
      (answer.status ≠ .cached →
        p.outcome f.key (ReadThrough.repliesTo 1 overviewOnly) = some (.done answer)) ∧
      (answer.status = .cached → ∃ data, answer = ⟨some data,.cached,none⟩ ∧
        p.machine.Happened (p.Answered 0 1 f.key data) (ReadThrough.start 0) overviewOnly) ∧
      ∀ data ∈ answer.data, ∃ g, Shows f.key g data := by
  intro _ p
  obtain ⟨s,hrun,hp⟩ := p.machine.exists_run_of_exec (ReadThrough.start 0) overviewOnly
    (fun s => (s.fetches[1]?.bind answerOf).any fun answer : Answer =>
      decide (answer.status = .cached)) (by decide +kernel)
  obtain ⟨answer,hanswer,hstatus⟩ := (Option.any_eq_true _ _).mp hp
  obtain ⟨f,hf,ha⟩ := Option.bind_eq_some_iff.mp hanswer
  exact ⟨s,f,answer,hrun,hf,ha,of_decide_eq_true hstatus,answered_traced hrun hf ha⟩

/-- A call is answered from the cache just while data that an earlier call kept for its company are not too
old. -/
theorem cached_iff (hrun : (provider env settings).machine.Run (ReadThrough.start clock) actions s)
    (symbol : String) :
    (∃ data, answerOf ((provider env settings).served s symbol) = some ⟨some data,.cached,none⟩) ↔
      ∃ data time, (provider env settings).machine.Happened ((provider env settings).Kept symbol data time)
        (ReadThrough.start clock) actions ∧ s.clock-time < settings.fundamentalCacheTtlMinutes*60 := by
  have hfresh := ReadThrough.fresh_iff hrun symbol
  refine Iff.trans (exists_congr fun data => ?_) hfresh
  rw [ReadThrough.served]
  constructor
  · intro h
    split at h
    · rename_i data' hdata
      rw [hdata]
      cases h
      rfl
    · cases h
  · intro h
    rw [h]
    rfl

omit [Builtins] in
theorem cached_iff_overviewOnly :
    let _ := Builtins.tabulated [] [("25",25)] []
    let p := provider sampleFunctions {}
    ∃ s, p.machine.Run (ReadThrough.start 0) overviewOnly s ∧
      ((∃ data, answerOf (p.served s "INFY") = some ⟨some data,.cached,none⟩) ↔
        ∃ data time, p.machine.Happened (p.Kept "INFY" data time) (ReadThrough.start 0) overviewOnly ∧
          s.clock-time < ({} : Settings).fundamentalCacheTtlMinutes*60) := by
  intro _ p
  obtain ⟨s,hrun,-⟩ := p.machine.exists_run_of_exec (ReadThrough.start 0) overviewOnly (fun _ => true)
    (by decide +kernel)
  exact ⟨s,hrun,cached_iff hrun "INFY"⟩

/-- A call raises just where a reply of its own escapes: what the server or the network reports as an error
never does. -/
theorem raised_iff (hrun : (provider env settings).machine.Run (ReadThrough.start clock) actions s)
    (hi : s.fetches[i]? = some (.miss symbol stage)) :
    stage = .raised ↔ ∃ reply ∈ ReadThrough.repliesTo i actions, Escapes env.loads reply :=
  raised_of_outcome ((ReadThrough.traced_of_run hrun).miss i symbol stage hi)

omit [Builtins] in
/-- A payload that is an array ends the call in an `AttributeError`. -/
theorem raised_iff_array :
    let _ := Builtins.tabulated [] [] []
    let p := provider sampleFunctions {}
    let actions := [.ask "INFY",.reply 0 (.response ⟨200,"data: []"⟩)]
    ∃ s stage, p.machine.Run (ReadThrough.start 0) actions s ∧ s.fetches[0]? = some (.miss "INFY" stage) ∧
      (stage = .raised ↔ ∃ reply ∈ ReadThrough.repliesTo 0 actions, Escapes sampleFunctions.loads reply) := by
  intro _ p actions
  obtain ⟨s,hrun,hp⟩ := p.machine.exists_run_of_exec (ReadThrough.start 0) actions
    (fun s => s.fetches[0]?.any fun f => decide (f.key = "INFY") && (answerOf f).isNone) (by decide +kernel)
  obtain ⟨f,hf,hpending⟩ := (Option.any_eq_true _ _).mp hp
  obtain ⟨hkey,hnone⟩ := Bool.and_eq_true_iff.mp hpending
  cases f with
  | hit key data => cases hnone
  | miss key stage =>
    obtain rfl : key = "INFY" := of_decide_eq_true hkey
    exact ⟨s,stage,hrun,hf,raised_iff hrun hf⟩

end Runs

end MarketScanner.Fundamentals.Trendlyne
