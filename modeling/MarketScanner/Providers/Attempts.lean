import MarketScanner.Library.History
import MarketScanner.Library.Retry
import MarketScanner.Providers.RateLimit

/-! What a call of `_request` or `_request_list` comes to. The coroutines share the clock, the limiter's
stamp and nothing else: each of them runs its own loop on the replies to its own requests. -/
namespace MarketScanner.Providers
open MarketScanner.Library MarketScanner.Python MarketScanner.Config

/-- What a caller of `_request`, or of `_request_list`, relies on. -/
def UpstoxCall.shaped (c : UpstoxCall) (data : PyValue) : Bool := if c.list then data.isList else data.isDict

section Loop
variable [Builtins] (settings : Settings)

/-- The loop of a call that has the provider to itself. -/
def UpstoxCall.retry (c : UpstoxCall) : Retry HttpReply String (Except CallError PyValue) where
  judge := c.replied
  exhausted := fun lastError => .error { c with lastError := lastError }.exhausted
  limit := settings.upstoxMaxRetries.toNat

/-- The call once it has its replies and counts `attempt`. -/
def UpstoxCall.after (c : UpstoxCall) (replies : List HttpReply) (attempt : ℤ) : UpstoxCall :=
  { c with
    attempt := attempt
    lastError := (c.retry settings).lastError replies }

end Loop

/-- The latest call of a coroutine, and the replies to it so far. -/
abbrev Exchange := Option (UpstoxCall × List HttpReply)

def CallAction.track (i : ℕ) (x : Exchange) : CallAction → Exchange
  | .request j method path list _ => if j = i then some ({ method, path, list },[]) else x
  | .reply j r => if j = i then x.map fun (c,replies) => (c,replies ++ [r]) else x
  | _ => x

def exchange (i : ℕ) (actions : List CallAction) : Exchange := actions.foldl (CallAction.track i) none

@[simp] theorem exchange_concat (i : ℕ) (actions : List CallAction) (a : CallAction) :
    exchange i (actions ++ [a]) = a.track i (exchange i actions) := by
  simp [exchange]

section Tracing
variable [Builtins] (settings : Settings)

/-- The replies so far are failures that leave another attempt. -/
structure Underway (x : Exchange) (call : UpstoxCall) (made : ℤ) : Prop where
  after : ∃ c replies, x = some (c,replies) ∧ (c.retry settings).Failed replies ∧
    replies.length < (c.retry settings).limit ∧ call = c.after settings replies (replies.length+made)

/-- How a coroutine's phase goes back to its own replies. -/
def PhaseTraced (x : Exchange) : CallPhase → Prop
  | .idle => True
  | .limited call _ => Underway settings x call 1
  | .awaiting call => Underway settings x call 1
  | .backoff call _ => Underway settings x call 0
  | .done result =>
    result = .error .interrupted ∨
    (settings.upstoxRateLimitPerSec = 0 ∧ result = .error .zeroDivisionError) ∨
    ∃ c replies, x = some (c,replies) ∧ (c.retry settings).Answered replies result

variable {settings} {p q : UpstoxProvider} {x : Exchange} {i j : ℕ} {call : UpstoxCall}

omit [Builtins] in
/-- The limiter leaves the coroutine asleep or waiting for its reply. -/
theorem calls_respectRateLimit (settings : Settings) (p : UpstoxProvider) (i : ℕ) (call : UpstoxCall)
    (later : ℚ) :
    ∃ phase, (p.respectRateLimit settings i call later).calls = Function.update p.calls i phase ∧
      (phase = .awaiting call ∨ (∃ ticket, phase = .limited call ticket) ∨
        (settings.upstoxRateLimitPerSec = 0 ∧ phase = .done (.error .zeroDivisionError))) := by
  unfold UpstoxProvider.respectRateLimit
  dsimp only
  split_ifs with hrate helapsed
  · exact ⟨_,rfl,.inr (.inr ⟨hrate,rfl⟩)⟩
  · exact ⟨_,rfl,.inr (.inl ⟨_,rfl⟩)⟩
  · exact ⟨_,rfl,.inl rfl⟩

theorem Underway.respectRateLimit (h : Underway settings x call 1) (later : ℚ) :
    PhaseTraced settings x ((p.respectRateLimit settings i call later).calls i) := by
  obtain ⟨phase,hcalls,hphase⟩ := calls_respectRateLimit settings p i call later
  rw [hcalls, Function.update_self]
  rcases hphase with rfl | ⟨ticket,rfl⟩ | ⟨hrate,rfl⟩
  · exact h
  · exact h
  · exact .inr (.inl ⟨hrate,rfl⟩)

/-- The reply to an attempt settles the call, or leaves it another attempt, or was the last. -/
theorem Underway.finishAttempt (h : Underway settings x call 1) (r : HttpReply) :
    PhaseTraced settings (x.map fun (c,replies) => (c,replies ++ [r]))
      ((p.finishAttempt settings i call r).calls i) := by
  obtain ⟨c,replies,rfl,hfailed,hleft,rfl⟩ := h
  unfold UpstoxProvider.finishAttempt
  cases hreply : (c.after settings replies (replies.length+1)).replied r with
  | ok result =>
    dsimp only
    rw [UpstoxProvider.calls_setCall, Function.update_self]
    exact .inr (.inr ⟨c,_,rfl,.settled hfailed hleft hreply⟩)
  | error e =>
    have hjudge : (c.retry settings).judge r = .error e := hreply
    have hfailed' := hfailed.concat hjudge
    have hlast := Retry.lastError_concat replies hjudge
    have hlength : ((replies ++ [r]).length : ℤ) = replies.length+1 := by simp
    have hlimit : (c.retry settings).limit = settings.upstoxMaxRetries.toNat := rfl
    dsimp only
    split_ifs with hmore
    · rw [UpstoxProvider.calls_setCall, Function.update_self]
      have hmore : (replies.length : ℤ)+1 < settings.upstoxMaxRetries := hmore
      refine ⟨c,replies ++ [r],rfl,hfailed',by omega,?_⟩
      rw [hlength, add_zero]
      simp only [UpstoxCall.after, hlast]
    · rw [UpstoxProvider.calls_setCall, Function.update_self]
      have hmore : ¬(replies.length : ℤ)+1 < settings.upstoxMaxRetries := hmore
      refine .inr (.inr ⟨c,replies ++ [r],rfl,?_⟩)
      have hanswered := Retry.Answered.exhausted hfailed' (by omega)
      rw [hlast] at hanswered
      exact hanswered

omit [Builtins] in
theorem calls_respectRateLimit_of_ne (hij : j ≠ i) (later : ℚ) :
    (p.respectRateLimit settings i call later).calls j = p.calls j := by
  obtain ⟨phase,hcalls,-⟩ := calls_respectRateLimit settings p i call later
  rw [hcalls, Function.update_of_ne hij]

theorem calls_finishAttempt_of_ne (hij : j ≠ i) (r : HttpReply) :
    (p.finishAttempt settings i call r).calls j = p.calls j := by
  unfold UpstoxProvider.finishAttempt
  split
  · exact Function.update_of_ne hij _ _
  · dsimp only
    split <;> exact Function.update_of_ne hij _ _

/-- A step moves one coroutine, whose phase still goes back to its own replies, and leaves the others
as they are. -/
theorem phase_step {a : CallAction} (hstep : p.step settings a = some q) :
    ∃ i, (∀ j, j ≠ i → q.calls j = p.calls j ∧ ∀ x, a.track j x = x) ∧
      ∀ x, PhaseTraced settings x (p.calls i) → PhaseTraced settings (a.track i x) (q.calls i) := by
  cases a with
  | advance now =>
    simp only [UpstoxProvider.step, Option.ite_none_right_eq_some, Option.some.injEq] at hstep
    obtain ⟨-,rfl⟩ := hstep
    exact ⟨0,fun j _ => ⟨rfl,fun x => rfl⟩,fun x hx => hx⟩
  | request i method path list later =>
    simp only [UpstoxProvider.step, Option.ite_none_left_eq_some] at hstep
    obtain ⟨-,hstep⟩ := hstep
    refine ⟨i,fun j hij => ⟨?_,fun x => if_neg (Ne.symm hij)⟩,fun x _ => ?_⟩
    · split at hstep <;> obtain rfl := Option.some.inj hstep
      · exact Function.update_of_ne hij _ _
      · exact calls_respectRateLimit_of_ne hij later
    · have htrack : (CallAction.request i method path list later).track i x =
          some ({ method, path, list },[]) := if_pos rfl
      rw [htrack]
      split at hstep <;> obtain rfl := Option.some.inj hstep
      · rename_i hnone
        rw [UpstoxProvider.calls_setCall, Function.update_self]
        have hlimit : ([] : List HttpReply).length =
            (({ method, path, list } : UpstoxCall).retry settings).limit := by
          simp only [UpstoxCall.retry, List.length_nil]
          omega
        exact .inr (.inr ⟨_,_,rfl,Retry.Answered.exhausted Retry.failed_nil hlimit⟩)
      · rename_i hsome
        refine Underway.respectRateLimit ⟨_,[],rfl,Retry.failed_nil,?_,rfl⟩ later
        simp only [UpstoxCall.retry, List.length_nil]
        omega
  | resume i =>
    simp only [UpstoxProvider.step] at hstep
    split at hstep
    · rename_i call ticket hlimited
      obtain ⟨-,hq⟩ := Option.ite_none_right_eq_some.mp hstep
      obtain rfl := Option.some.inj hq
      refine ⟨i,fun j hij => ⟨Function.update_of_ne hij _ _,fun x => rfl⟩,fun x hx => ?_⟩
      rw [hlimited] at hx
      rw [UpstoxProvider.calls_send, Function.update_self]
      exact hx
    · cases hstep
  | reply i r =>
    simp only [UpstoxProvider.step] at hstep
    split at hstep
    · rename_i call hawaiting
      obtain rfl := Option.some.inj hstep
      refine ⟨i,fun j hij => ⟨calls_finishAttempt_of_ne hij r,fun x => if_neg (Ne.symm hij)⟩,fun x hx => ?_⟩
      rw [hawaiting] at hx
      rw [CallAction.track, if_pos rfl]
      exact Underway.finishAttempt hx r
    · cases hstep
  | retry i later =>
    simp only [UpstoxProvider.step] at hstep
    split at hstep
    · rename_i call due hbackoff
      rw [Option.ite_none_left_eq_some] at hstep
      obtain ⟨-,hstep⟩ := hstep
      obtain rfl := Option.some.inj hstep
      refine ⟨i,fun j hij => ⟨calls_respectRateLimit_of_ne hij later,fun x => rfl⟩,fun x hx => ?_⟩
      rw [hbackoff] at hx
      obtain ⟨c,replies,rfl,hfailed,hleft,rfl⟩ := hx
      exact Underway.respectRateLimit ⟨c,replies,rfl,hfailed,hleft,by simp [UpstoxCall.after]⟩ later
    · cases hstep
  | cancel i =>
    simp only [UpstoxProvider.step, Option.ite_none_right_eq_some, Option.some.injEq] at hstep
    obtain ⟨-,rfl⟩ := hstep
    refine ⟨i,fun j hij => ⟨Function.update_of_ne hij _ _,fun x => rfl⟩,fun x _ => ?_⟩
    rw [UpstoxProvider.calls_setCall, Function.update_self]
    exact .inl rfl

theorem phaseTraced_of_run {clock : ℚ} {actions : List CallAction}
    (hrun : (upstoxMachine settings).Run (upstoxStart clock) actions p) (i : ℕ) :
    PhaseTraced settings (exchange i actions) (p.calls i) := by
  refine hrun.history (I := fun actions p => ∀ i, PhaseTraced settings (exchange i actions) (p.calls i))
    ?_ ?_ i
  · intro i
    trivial
  intro actions a p q _ hI hstep j
  obtain ⟨i,hothers,hself⟩ := phase_step hstep
  rw [exchange_concat]
  by_cases hij : j = i
  · subst hij
    exact hself _ (hI j)
  · rw [(hothers j hij).1, (hothers j hij).2]
    exact hI j

theorem shape_of_handlePayload {isShape : PyValue → Bool} {empty data : PyValue} {method path : String}
    {response : HttpResponse} (hempty : isShape empty = true)
    (h : UpstoxProvider.handlePayload isShape empty method path response = .ok (some data)) :
    isShape data = true := by
  unfold UpstoxProvider.handlePayload at h
  dsimp only at h
  by_cases hok : response.statusCode = 200
  · simp only [hok, if_true] at h
    split at h
    · cases h
    · split at h
      · obtain rfl := Option.some.inj (Except.ok.inj h)
        split_ifs with hshape
        · exact hshape
        · exact hempty
      · norm_num at h
        cases h
  · rw [if_neg hok] at h
    split_ifs at h <;> cases h

/-- A payload has the shape its caller relies on. -/
theorem shaped_of_replied {r : HttpReply} {c : UpstoxCall} {data : PyValue}
    (h : c.replied r = .ok (.ok data)) : c.shaped data = true := by
  cases r with
  | timedOut => cases h
  | httpError text => cases h
  | response r =>
    have hhandle : c.handle r = .ok (some data) := by
      simp only [UpstoxCall.replied] at h
      split at h <;> cases h
      assumption
    unfold UpstoxCall.handle at hhandle
    unfold UpstoxCall.shaped
    split_ifs at hhandle ⊢
    · exact shape_of_handlePayload rfl hhandle
    · exact shape_of_handlePayload rfl hhandle

/-- Whatever the other coroutines do, a call that is not interrupted comes to what its own loop makes of
the replies to its own requests: the payload or the permanent failure of the first reply that settles it,
or the last error after as many requests as there are attempts. It never sends more requests than that,
and what it returns is an object, or an array for `_request_list`. -/
theorem call_answered {clock : ℚ} {actions : List CallAction} {result : Except CallError PyValue}
    (hrun : (upstoxMachine settings).Run (upstoxStart clock) actions p)
    (hrate : settings.upstoxRateLimitPerSec ≠ 0) (hdone : p.calls i = .done result)
    (hwhole : result ≠ .error .interrupted) :
    ∃ c replies, exchange i actions = some (c,replies) ∧
      (c.retry settings).answer 0 none replies = some result ∧
      replies.length ≤ settings.upstoxMaxRetries.toNat ∧
      ∀ data, result = .ok data → c.shaped data = true := by
  have htraced := phaseTraced_of_run hrun i
  rw [hdone] at htraced
  rcases htraced with hinterrupted | ⟨hzero,-⟩ | ⟨c,replies,hexchange,hanswered⟩
  · exact absurd hinterrupted hwhole
  · exact absurd hzero hrate
  · refine ⟨c,replies,hexchange,hanswered.answer_eq,hanswered.length_le,?_⟩
    rintro data rfl
    cases hanswered with
    | settled hfailed hleft hsettles => exact shaped_of_replied hsettles

end Tracing

/-- What a call that is done returned. -/
def CallPhase.data? : CallPhase → Option PyValue
  | .done result => result.toOption
  | _ => none

theorem CallPhase.data?_eq_some {phase : CallPhase} {data : PyValue} :
    phase.data? = some data ↔ phase = .done (.ok data) := by
  rcases phase with _ | _ | _ | _ | ⟨_ | _⟩ <;> simp [data?, Except.toOption]

/-- A quote is asked for while another coroutine waits; the first reply is a server error. -/
def retriedQuote : List CallAction :=
  [.request 0 "GET" "/market-quote/quotes" false 10,
    .request 1 "GET" "/historical-candle/intraday/NSE_EQ|INE002A01018/1minute" false 10,
    .reply 0 (.response ⟨503,none⟩),.advance 12,.resume 1,.reply 1 .timedOut,.retry 0 12,.advance 13,.resume 0,
    .reply 0 (.response ⟨200,some (.dict [("status",.str "success"),("data",.dict [])])⟩)]

theorem call_answered_retriedQuote :
    let _ := Builtins.tabulated [] [] []
    ∃ p, (upstoxMachine {}).Run (upstoxStart 10) retriedQuote p ∧
      ∃ result, p.calls 0 = .done result ∧ ∃ c replies, exchange 0 retriedQuote = some (c,replies) ∧
        (c.retry {}).answer 0 none replies = some result ∧ replies.length ≤ 3 ∧
        ∀ data, result = .ok data → c.shaped data = true := by
  intro _
  obtain ⟨p,hrun,hp⟩ := (upstoxMachine {}).exists_run_of_exec (upstoxStart 10) retriedQuote
    (fun p => (p.calls 0).data?.isSome) (by decide +kernel)
  obtain ⟨data,hdata⟩ := Option.isSome_iff_exists.mp hp
  exact ⟨p,hrun,_,CallPhase.data?_eq_some.mp hdata,
    call_answered hrun (by decide +kernel) (CallPhase.data?_eq_some.mp hdata) (by rintro ⟨⟩)⟩

end MarketScanner.Providers
