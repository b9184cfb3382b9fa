import MarketScanner.Config.Settings
import MarketScanner.Library.Pacing
import MarketScanner.Library.Transition
import MarketScanner.Python.Json
import Mathlib.Logic.Function.Basic

/-! `UpstoxProvider._request` and `_request_list`, called by any number of coroutines on one provider.
What a coroutine does between two awaits is one step; the clock moves between steps, and from one
reading to the next within a step. -/
namespace MarketScanner.Providers
open MarketScanner.Library MarketScanner.Python MarketScanner.Config

/-- What a call raises: `ProviderError`, `AttributeError` on a body that is not an object,
`ZeroDivisionError` on a rate of zero, or what interrupted an await. -/
inductive CallError
  | providerError (message : String) (retryable : Bool)
  | attributeError
  | zeroDivisionError
  | interrupted

namespace UpstoxProvider
variable [Builtins]

/-- `_error_message`; `none` where it raises `AttributeError`. -/
def errorMessage (body : PyValue) : Option (Option String) :=
  (body.get? "errors").map fun errors =>
    match errors with
    | .list (.dict first::_) =>
      match Dict.get first "message" with
      | PyValue.none => none
      | message => some message.toStr
    | _ => none

/-- A permanent failure: the body's message, or else the text given. -/
def permanentFailure (label : String) (body : PyValue) (otherwise : String) : CallError :=
  match errorMessage body with
  | none => .attributeError
  | some message =>
    let text := match message with
      | none => otherwise
      | some text => if text = "" then otherwise else text
    .providerError (label ++ text) false

/-- The body shared by the two response handlers: the payload, `none` to retry, or an exception. -/
def handlePayload (isShape : PyValue → Bool) (empty : PyValue) (method path : String)
    (response : HttpResponse) : Except CallError (Option PyValue) :=
  let body := response.json.getD (.dict [])
  let otherwise :=
    if response.statusCode = 429 then .ok none
    else if 500 ≤ response.statusCode ∧ response.statusCode < 600 then .ok none
    else if response.statusCode = 401 then
      .error (permanentFailure "Upstox auth failed: " body "access token rejected")
    else .error (permanentFailure ("Upstox API error on " ++ method ++ " " ++ path ++ ": ") body
      ("HTTP " ++ toString response.statusCode))
  if response.statusCode = 200 then
    match body.get? "status" with
    | none => .error .attributeError
    | some status =>
      if status.eqStr "success" then
        let data := (body.get? "data").getD .none
        .ok (some (if isShape data then data else empty))
      else otherwise
  else otherwise

def handleResponse (method path : String) (response : HttpResponse) :
    Except CallError (Option PyValue) :=
  handlePayload PyValue.isDict (.dict []) method path response

def handleResponseList (method path : String) (response : HttpResponse) :
    Except CallError (Option PyValue) :=
  handlePayload PyValue.isList (.list []) method path response

end UpstoxProvider

/-- A call of `_request`, or of `_request_list`, and where its loop stands. -/
structure UpstoxCall where
  method : String
  path : String
  list : Bool
  attempt : ℤ := 1
  lastError : Option String := none

namespace UpstoxCall
variable [Builtins] (c : UpstoxCall)

def handle (response : HttpResponse) : Except CallError (Option PyValue) :=
  if c.list then UpstoxProvider.handleResponseList c.method c.path response
  else UpstoxProvider.handleResponse c.method c.path response

/-- What a reply makes of an attempt: the end of the call, or the error to go on with. -/
def replied : HttpReply → Except String (Except CallError PyValue)
  | .response r =>
    match c.handle r with
    | .error e => .ok (.error e)
    | .ok (some data) => .ok (.ok data)
    | .ok none => .error ("HTTP " ++ toString r.statusCode)
  | .timedOut => .error "request timed out"
  | .httpError text => .error text

omit [Builtins] in
/-- What is raised once the attempts are used up. -/
def exhausted : CallError :=
  .providerError ("Upstox call " ++ c.method ++ " " ++ c.path ++ " failed after retries: " ++
    c.lastError.getD "None") true

end UpstoxCall

/-- Where a coroutine waits: in the limiter's sleep, for the reply to its request, or in the sleep before
the next attempt. -/
inductive CallPhase
  | idle
  | limited (call : UpstoxCall) (ticket : Ticket ℚ)
  | awaiting (call : UpstoxCall)
  | backoff (call : UpstoxCall) (due : ℚ)
  | done (result : Except CallError PyValue)

def CallPhase.running : CallPhase → Bool
  | .limited _ _ => true
  | .awaiting _ => true
  | .backoff _ _ => true
  | _ => false

/-- A provider shared by the coroutines. `sends` is history: when each request was sent. -/
structure UpstoxProvider where
  clock : ℚ
  lastCallAt : ℚ := 0
  calls : ℕ → CallPhase := fun _ => .idle
  sends : List ℚ := []

/-- What happens to a coroutine, or to the clock. `later` is the clock at the end of the step. -/
inductive CallAction
  | advance (now : ℚ)
  | request (i : ℕ) (method path : String) (list : Bool) (later : ℚ)
  | resume (i : ℕ)
  | reply (i : ℕ) (r : HttpReply)
  | retry (i : ℕ) (later : ℚ)
  | cancel (i : ℕ)

namespace UpstoxProvider
variable (settings : Settings) (p : UpstoxProvider)

def setCall (i : ℕ) (phase : CallPhase) : UpstoxProvider :=
  { p with calls := Function.update p.calls i phase }

/-- The request goes out at the reading that is kept as `_last_call_at`. -/
def send (i : ℕ) (call : UpstoxCall) (now : ℚ) : UpstoxProvider :=
  { p with
    clock := now
    lastCallAt := now
    calls := Function.update p.calls i (.awaiting call)
    sends := p.sends ++ [now] }

def minInterval : ℚ := 1 / settings.upstoxRateLimitPerSec

def pacer : Pacer ℚ := ⟨p.lastCallAt,p.sends⟩

/-- `_respect_rate_limit` up to its sleep, or past it and on to the request. -/
def respectRateLimit (i : ℕ) (call : UpstoxCall) (later : ℚ) : UpstoxProvider :=
  if settings.upstoxRateLimitPerSec = 0 then p.setCall i (.done (.error .zeroDivisionError))
  else
    let elapsed := p.clock-p.lastCallAt
    if elapsed < minInterval settings then
      { p with
        clock := later
        calls := Function.update p.calls i
          (.limited call (p.pacer.ticket (minInterval settings) p.clock later)) }
    else p.send i call later

/-- The end of an attempt. -/
def finishAttempt [Builtins] (settings : Settings) (p : UpstoxProvider) (i : ℕ) (call : UpstoxCall) (r : HttpReply) : UpstoxProvider :=
  match call.replied r with
  | .ok result => p.setCall i (.done result)
  | .error lastError =>
    let call := { call with lastError := some lastError }
    if call.attempt < settings.upstoxMaxRetries then
      p.setCall i (.backoff call (p.clock+settings.upstoxRetryBackoffSeconds*call.attempt))
    else p.setCall i (.done (.error call.exhausted))

def step [Builtins] (settings : Settings) (p : UpstoxProvider) : CallAction → Option UpstoxProvider
  | .advance now => if p.clock ≤ now then some { p with clock := now } else none
  | .request i method path list later =>
    if (p.calls i).running ∨ later < p.clock then none
    else
      let call : UpstoxCall := { method, path, list }
      if settings.upstoxMaxRetries < 1 then some (p.setCall i (.done (.error call.exhausted)))
      else some (p.respectRateLimit settings i call later)
  | .resume i =>
    match p.calls i with
    | .limited call ticket => if ticket.due ≤ p.clock then some (p.send i call p.clock) else none
    | _ => none
  | .reply i r =>
    match p.calls i with
    | .awaiting call => some (p.finishAttempt settings i call r)
    | _ => none
  | .retry i later =>
    match p.calls i with
    | .backoff call due =>
      if p.clock < due ∨ later < p.clock then none
      else some (p.respectRateLimit settings i { call with attempt := call.attempt+1 } later)
    | _ => none
  | .cancel i =>
    if (p.calls i).running then some (p.setCall i (.done (.error .interrupted))) else none

end UpstoxProvider

def upstoxMachine [Builtins] (settings : Settings) : Machine UpstoxProvider CallAction :=
  ⟨UpstoxProvider.step settings⟩

/-- A provider as it is constructed, at some reading of the monotonic clock. -/
def upstoxStart (clock : ℚ) : UpstoxProvider := { clock }

namespace UpstoxProvider
variable {settings : Settings} {p q : UpstoxProvider}

@[simp] theorem pacer_send (i : ℕ) (call : UpstoxCall) (now : ℚ) :
    (p.send i call now).pacer = p.pacer.depart now := rfl

@[simp] theorem calls_send (i : ℕ) (call : UpstoxCall) (now : ℚ) :
    (p.send i call now).calls = Function.update p.calls i (.awaiting call) := rfl

@[simp] theorem calls_setCall (i : ℕ) (phase : CallPhase) :
    (p.setCall i phase).calls = Function.update p.calls i phase := rfl

/-- What a step does to the stamp, the requests sent and the coroutines in the limiter's sleep. -/
inductive Effect (settings : Settings) (p : UpstoxProvider) : CallAction → UpstoxProvider → Prop
  | quiet {action : CallAction} {q : UpstoxProvider} (awake : ∀ i, action ≠ .resume i)
      (pacer : q.pacer = p.pacer)
      (limited : ∀ i call ticket, q.calls i = .limited call ticket →
        p.calls i = .limited call ticket) : Effect settings p action q
  | sleeps {action : CallAction} {i : ℕ} {call : UpstoxCall} {later : ℚ}
      (awake : ∀ i, action ≠ .resume i) (clock : p.clock ≤ later) : Effect settings p action { p with
        clock := later
        calls := Function.update p.calls i
          (.limited call (p.pacer.ticket (minInterval settings) p.clock later)) }
  | sends {action : CallAction} {i : ℕ} {call : UpstoxCall} {later : ℚ}
      (awake : ∀ i, action ≠ .resume i) (clock : p.clock ≤ later)
      (elapsed : minInterval settings ≤ p.clock-p.lastCallAt) :
      Effect settings p action (p.send i call later)
  | resumes {i : ℕ} {call : UpstoxCall} {ticket : Ticket ℚ}
      (limited : p.calls i = .limited call ticket) (due : ticket.due ≤ p.clock) :
      Effect settings p (.resume i) (p.send i call p.clock)

theorem limited_of_setCall {i j : ℕ} {phase : CallPhase} {call : UpstoxCall} {ticket : Ticket ℚ}
    (hphase : ∀ call ticket, phase ≠ .limited call ticket)
    (h : (p.setCall i phase).calls j = .limited call ticket) : p.calls j = .limited call ticket := by
  rw [calls_setCall, Function.update_apply] at h
  split at h
  · exact absurd h (hphase call ticket)
  · exact h

theorem effect_setCall {action : CallAction} (hawake : ∀ i, action ≠ .resume i) {i : ℕ}
    {phase : CallPhase} (hphase : ∀ call ticket, phase ≠ .limited call ticket) :
    Effect settings p action (p.setCall i phase) :=
  .quiet hawake rfl fun _ _ _ => limited_of_setCall hphase

theorem effect_respectRateLimit {action : CallAction} (hawake : ∀ i, action ≠ .resume i) (i : ℕ)
    (call : UpstoxCall) {later : ℚ} (hlater : p.clock ≤ later) :
    Effect settings p action (p.respectRateLimit settings i call later) := by
  unfold respectRateLimit
  dsimp only
  split
  · exact effect_setCall hawake (by rintro _ _ ⟨⟩)
  · split
    · exact .sleeps hawake hlater
    · rename_i helapsed
      exact .sends hawake hlater (not_lt.mp helapsed)

variable [Builtins]

theorem effect_finishAttempt {action : CallAction} (hawake : ∀ i, action ≠ .resume i) (i : ℕ)
    (call : UpstoxCall) (r : HttpReply) :
    Effect settings p action (p.finishAttempt settings i call r) := by
  unfold finishAttempt
  split
  · exact effect_setCall hawake (by rintro _ _ ⟨⟩)
  · dsimp only
    split
    · exact effect_setCall hawake (by rintro _ _ ⟨⟩)
    · exact effect_setCall hawake (by rintro _ _ ⟨⟩)

theorem step_effect {action : CallAction} (h : p.step settings action = some q) :
    Effect settings p action q := by
  cases action with
  | advance now =>
    simp only [step, Option.ite_none_right_eq_some, Option.some.injEq] at h
    obtain ⟨-,rfl⟩ := h
    exact .quiet (by rintro i ⟨⟩) rfl fun _ _ _ => id
  | request i method path list later =>
    simp only [step, Option.ite_none_left_eq_some, not_or, not_lt] at h
    obtain ⟨⟨-,hlater⟩,h⟩ := h
    split at h
    · obtain rfl := Option.some.inj h
      exact effect_setCall (by rintro i ⟨⟩) (by rintro _ _ ⟨⟩)
    · obtain rfl := Option.some.inj h
      exact effect_respectRateLimit (by rintro i ⟨⟩) i _ hlater
  | resume i =>
    simp only [step] at h
    split at h
    · rename_i call ticket hlimited
      obtain ⟨hdue,hq⟩ := Option.ite_none_right_eq_some.mp h
      obtain rfl := Option.some.inj hq
      exact .resumes hlimited hdue
    · cases h
  | reply i r =>
    simp only [step] at h
    split at h
    · obtain rfl := Option.some.inj h
      exact effect_finishAttempt (by rintro i ⟨⟩) i _ r
    · cases h
  | retry i later =>
    simp only [step] at h
    split at h
    · rw [Option.ite_none_left_eq_some, not_or, not_lt, not_lt] at h
      obtain ⟨⟨-,hlater⟩,h⟩ := h
      obtain rfl := Option.some.inj h
      exact effect_respectRateLimit (by rintro i ⟨⟩) i _ hlater
    · cases h
  | cancel i =>
    simp only [step, Option.ite_none_right_eq_some, Option.some.injEq] at h
    obtain ⟨-,rfl⟩ := h
    exact effect_setCall (by rintro i ⟨⟩) (by rintro _ _ ⟨⟩)

/-- What holds in every state, whatever the schedule: the stamp is that of the last request, and a
coroutine in the limiter's sleep waits out the interval from the stamp it has read. -/
structure Timed (settings : Settings) (p : UpstoxProvider) : Prop where
  stamped : p.pacer.Stamped
  honours : ∀ i call ticket, p.calls i = .limited call ticket →
    p.pacer.Honours (minInterval settings) ticket

omit [Builtins] in
theorem timed_start (settings : Settings) (clock : ℚ) : (upstoxStart clock).Timed settings where
  stamped := by rintro a ⟨⟩
  honours := by rintro i call ticket ⟨⟩

omit [Builtins] in
theorem Timed.send (h : p.Timed settings) (i : ℕ) (call : UpstoxCall) (now : ℚ) :
    (p.send i call now).Timed settings where
  stamped := by
    rw [pacer_send]
    exact Pacer.stamped_depart
  honours := by
    intro j call' ticket hlimited
    rw [calls_send, Function.update_apply] at hlimited
    split at hlimited
    · cases hlimited
    · exact (h.honours j call' ticket hlimited).depart

omit [Builtins] in
theorem Timed.effect (h : p.Timed settings) {action : CallAction}
    (heffect : Effect settings p action q) : q.Timed settings := by
  cases heffect with
  | quiet awake pacer limited =>
    refine ⟨pacer ▸ h.stamped,?_⟩
    intro i call ticket hlimited
    rw [pacer]
    exact h.honours i call ticket (limited i call ticket hlimited)
  | @sleeps _ i call later awake clock =>
    refine ⟨h.stamped,?_⟩
    intro j call' ticket hlimited
    dsimp only at hlimited
    rw [Function.update_apply] at hlimited
    split at hlimited
    · obtain ⟨-,rfl⟩ := CallPhase.limited.inj hlimited
      exact Pacer.honours_ticket clock
    · exact h.honours j call' ticket hlimited
  | sends awake clock elapsed => exact h.send _ _ _
  | resumes limited due => exact h.send _ _ _

/-- When a coroutine resumes from the limiter's sleep, either nobody has sent a request since it went
to sleep, or the last one was sent at least the interval ago. -/
def Unovertaken (settings : Settings) (p : UpstoxProvider) : CallAction → UpstoxProvider → Prop
  | .resume i, _ => ∀ call ticket, p.calls i = .limited call ticket →
      ticket.seen < p.sends.length → p.lastCallAt+minInterval settings ≤ p.clock
  | _, _ => True

omit [Builtins] in
theorem unovertaken_of_awake {action : CallAction} (hawake : ∀ i, action ≠ .resume i) :
    p.Unovertaken settings action q := by
  cases action with
  | resume i => exact absurd rfl (hawake i)
  | _ => trivial

omit [Builtins] in
theorem spaced_effect (h : p.Timed settings) (hspaced : Spaced (minInterval settings) p.sends)
    {action : CallAction} (heffect : Effect settings p action q) :
    Spaced (minInterval settings) q.sends ↔ p.Unovertaken settings action q := by
  cases heffect with
  | quiet awake pacer limited =>
    have hsends : q.sends = p.sends := congrArg Pacer.departures pacer
    rw [hsends]
    exact iff_of_true hspaced (unovertaken_of_awake awake)
  | sleeps awake clock => exact iff_of_true hspaced (unovertaken_of_awake awake)
  | sends awake clock elapsed =>
    refine iff_of_true ?_ (unovertaken_of_awake awake)
    exact Pacer.spaced_depart_of_elapsed h.stamped hspaced elapsed clock
  | @resumes i call ticket limited due =>
    refine (Pacer.spaced_depart_ticket h.stamped hspaced (h.honours i call ticket limited) due).trans ?_
    constructor
    · intro hseen call' ticket' hlimited
      obtain ⟨rfl,rfl⟩ := CallPhase.limited.inj (limited.symm.trans hlimited)
      exact hseen
    · intro hseen
      exact hseen call ticket limited

end UpstoxProvider

/-- However the coroutines interleave, the requests of a run are spaced by the interval in all its
states exactly when no coroutine is overtaken in the limiter's sleep. -/
theorem sendsSpaced_iff [Builtins] (settings : Settings) (clock : ℚ) (actions : List CallAction) :
    (upstoxMachine settings).Throughout
        (fun p => Spaced (1 / settings.upstoxRateLimitPerSec) p.sends) (upstoxStart clock) actions ↔
      (upstoxMachine settings).Steps (UpstoxProvider.Unovertaken settings) (upstoxStart clock)
        actions := by
  have hstart := UpstoxProvider.timed_start settings clock
  rw [← Machine.throughout_iff_steps
    (I := fun p : UpstoxProvider => p.Timed settings ∧ Spaced (1 / settings.upstoxRateLimitPerSec) p.sends)
    ?_ ⟨hstart,List.IsChain.nil⟩]
  · constructor
    · intro h pre post p hactions hrun
      refine ⟨?_,h hactions hrun⟩
      exact hrun.stable (fun s a t hs hstep => hs.effect (UpstoxProvider.step_effect hstep)) hstart
    · intro h pre post p hactions hrun
      exact (h hactions hrun).2
  · rintro p action q ⟨htimed,hspaced⟩ hstep
    have heffect := UpstoxProvider.step_effect hstep
    rw [and_iff_right (htimed.effect heffect)]
    exact UpstoxProvider.spaced_effect htimed hspaced heffect

/-- One request is sent; two more coroutines read its stamp and sleep until the same instant. -/
def sharedWait : List CallAction :=
  [.request 0 "GET" "/market-quote/quotes" false 10,
    .request 1 "GET" "/historical-candle/intraday/NSE_EQ|INE002A01018/1minute" false 10,
    .request 2 "GET" "/historical-candle/intraday/NSE_EQ|INE009A01021/1minute" false 10,
    .advance (501/50), .resume 1, .resume 2]

/-- Both requests go out at once. -/
theorem sharedWait_sends_together :
    ¬ ∀ [Builtins] (settings : Settings) (clock : ℚ) (actions : List CallAction),
      (upstoxMachine settings).Throughout
        (fun p => Spaced (1 / settings.upstoxRateLimitPerSec) p.sends) (upstoxStart clock) actions := by
  intro h
  let _ := Builtins.tabulated [] [] []
  obtain ⟨p,hrun,hp⟩ := (upstoxMachine {}).exists_run_of_exec (upstoxStart 10) sharedWait
    (fun p => decide (p.sends = [10,501/50,501/50])) (by decide +kernel)
  have hspaced := h {} 10 sharedWait (List.append_nil _).symm hrun
  dsimp only at hspaced
  rw [of_decide_eq_true hp] at hspaced
  revert hspaced
  decide +kernel

end MarketScanner.Providers
