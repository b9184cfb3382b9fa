import MarketScanner.Config.Settings
import MarketScanner.Library.Backoff
import MarketScanner.Python.Json

/-! The reconnect loop of the Upstox market feed. A cycle of it ends by returning or by raising; what goes
wrong on the connection itself the cycle catches, so that it returns. -/
namespace MarketScanner.Providers.Reconnect
open MarketScanner.Library MarketScanner.Python MarketScanner.Config

/-- `ProviderError`, or any other exception. -/
inductive FeedError
  | provider (text : String) (retryable : Bool)
  | unexpected
  deriving DecidableEq

/-- How the part of a cycle from the connect on ends: by `ConnectionClosed` or an `OSError` with its text,
by silence, because `stop` was called, or by any other exception. -/
inductive StreamEnd
  | closed (text : String)
  | osError (text : String)
  | stale
  | stopped
  | raised
  deriving DecidableEq

/-- What a cycle meets: the active symbols, the reply to the authorize request or the text of its
`HTTPError`, the feed log, the messages until the stream ends, the flush and the close of the log after
that; and whether `stop` has been called by its end. -/
structure Cycle where
  activeSymbols : Except PyException (List String)
  authorizeReply : Except String HttpResponse
  openFeedLog : Except PyException Unit := .ok ()
  messagesReceived : ℕ := 0
  streamEnd : StreamEnd
  cleanup : Except PyException Unit := .ok ()
  stop : Bool := false

/-- `_authorize`. -/
def authorize (reply : Except String HttpResponse) : Except FeedError String :=
  match reply with
  | .error text => .error (.provider ("Upstox market feed authorize failed: " ++ text) true)
  | .ok response =>
    if response.statusCode = 401 then
      .error (.provider "Upstox market feed authorize rejected (expired or invalid token)" false)
    else if response.statusCode ≠ 200 then
      .error (.provider ("Upstox market feed authorize failed: HTTP " ++ toString response.statusCode)
        true)
    else
      match response.json with
      | none => .error (.provider "Upstox market feed authorize returned invalid JSON" true)
      | some body =>
        match ((body.get? "data").getD .none).get? "authorized_redirect_uri" with
        | some (.str url) =>
          if url = "" then
            .error (.provider
              "Upstox market feed authorize response missing authorized_redirect_uri" false)
          else .ok url
        | _ =>
          .error (.provider "Upstox market feed authorize response missing authorized_redirect_uri"
            false)

/-- `disconnect_reason`; the stream ended without one where another exception is on its way. -/
def disconnectReason : StreamEnd → Option String
  | .closed text => some ("connection closed: " ++ text)
  | .osError text => some ("connection error: " ++ text)
  | .stale => some "stale connection (no messages received)"
  | .stopped => some "graceful shutdown"
  | .raised => none

/-- How a cycle ends, and with what its feed log is closed. -/
structure CycleResult where
  outcome : Except FeedError Unit
  feedLog : Option (ℕ × Option String) := none

/-- `_connect_and_stream`; an exception in the `finally` block takes the place of the one on its way. The
sleep of a cycle without symbols is left out. -/
def connectAndStream (cycle : Cycle) : CycleResult :=
  match cycle.activeSymbols with
  | .error _ => ⟨.error .unexpected,none⟩
  | .ok [] => ⟨.ok (),none⟩
  | .ok _ =>
    match authorize cycle.authorizeReply with
    | .error error => ⟨.error error,none⟩
    | .ok _ =>
      match cycle.openFeedLog with
      | .error _ => ⟨.error .unexpected,none⟩
      | .ok _ =>
        match cycle.cleanup with
        | .error _ => ⟨.error .unexpected,none⟩
        | .ok _ =>
          ⟨if cycle.streamEnd = .raised then .error .unexpected else .ok (),
            some (cycle.messagesReceived,disconnectReason cycle.streamEnd)⟩

/-- `run_forever` over the cycles it meets, with the delay it has come to: the sleeps between them. -/
def runForever (settings : Settings) (backoff : ℚ) : List Cycle → List ℚ
  | [] => []
  | cycle::cycles =>
    let backoff :=
      match (connectAndStream cycle).outcome with
      | .ok _ => settings.upstoxWsReconnectBackoffSeconds
      | .error _ => backoff
    if cycle.stop then []
    else
      backoff::runForever settings
        (min (backoff*2) settings.upstoxWsReconnectMaxBackoffSeconds) cycles

def sleeps (settings : Settings) (cycles : List Cycle) : List ℚ :=
  runForever settings settings.upstoxWsReconnectBackoffSeconds cycles

namespace Cycle

def isOk {ε α : Type*} (x : Except ε α) : Bool := x.toOption.isSome

/-- Ends in the connection being closed or an `OSError`. -/
def ConnectionFails (cycle : Cycle) : Prop :=
  (∃ text, cycle.streamEnd = .closed text) ∨ ∃ text, cycle.streamEnd = .osError text

/-- Fails before a message is received: by an authorize error, or on a connection that gets none. -/
structure Fails (cycle : Cycle) : Prop where
  symbols : ∃ symbol symbols, cycle.activeSymbols = .ok (symbol::symbols)
  fails : (∃ error, authorize cycle.authorizeReply = .error error) ∨
    (∃ url, authorize cycle.authorizeReply = .ok url) ∧ isOk cycle.openFeedLog = true ∧
      cycle.messagesReceived = 0 ∧ cycle.ConnectionFails

/-- Gets through to a connection, and receives messages on it. -/
structure Receives (cycle : Cycle) : Prop where
  symbols : ∃ symbol symbols, cycle.activeSymbols = .ok (symbol::symbols)
  authorized : ∃ url, authorize cycle.authorizeReply = .ok url
  logged : isOk cycle.openFeedLog = true
  receives : 0 < cycle.messagesReceived

/-- A cycle returns if there are no symbols or, once it is authorized and logged, if its stream ends in
any way it knows of and is cleaned up after. -/
def returns (cycle : Cycle) : Bool :=
  match cycle.activeSymbols with
  | .error _ => false
  | .ok [] => true
  | .ok _ => isOk (authorize cycle.authorizeReply) && isOk cycle.openFeedLog && isOk cycle.cleanup &&
      cycle.streamEnd != .raised

theorem isOk_connectAndStream (cycle : Cycle) :
    isOk (connectAndStream cycle).outcome = cycle.returns := by
  unfold connectAndStream returns
  cases cycle.activeSymbols with
  | error e => rfl
  | ok symbols =>
    cases symbols with
    | nil => rfl
    | cons symbol symbols =>
      cases authorize cycle.authorizeReply with
      | error e => rfl
      | ok url =>
        cases cycle.openFeedLog with
        | error e => rfl
        | ok _ =>
          cases cycle.cleanup with
          | error e => rfl
          | ok _ => by_cases hraised : cycle.streamEnd = .raised <;> simp [hraised, isOk, Except.toOption]

end Cycle

section
variable {settings : Settings}

/-- Until a stop is requested the loop is a backoff loop that the returning cycles reset. -/
theorem runForever_append {backoff : ℚ} {before : List Cycle} (hstop : ∀ c ∈ before, c.stop = false)
    (after : List Cycle) :
    runForever settings backoff (before ++ after) =
      Backoff.delays Cycle.returns (Backoff.double settings.upstoxWsReconnectMaxBackoffSeconds)
          settings.upstoxWsReconnectBackoffSeconds backoff before ++
        runForever settings (Backoff.nextDelay Cycle.returns
          (Backoff.double settings.upstoxWsReconnectMaxBackoffSeconds)
          settings.upstoxWsReconnectBackoffSeconds backoff before) after := by
  induction before generalizing backoff with
  | nil => rfl
  | cons c before ih =>
    obtain ⟨hc,hbefore⟩ := List.forall_mem_cons.mp hstop
    have hreturns := c.isOk_connectAndStream
    rw [List.cons_append, runForever, hc, if_neg Bool.false_ne_true, ih hbefore, Backoff.delays,
      Backoff.nextDelay, ← hreturns]
    cases (connectAndStream c).outcome <;> rfl

/-- The sleep after a cycle, where no stop was requested. -/
theorem getElem?_sleeps {before : List Cycle} {c : Cycle}
    (hstop : ∀ x ∈ before ++ [c], x.stop = false) (after : List Cycle) :
    (sleeps settings (before ++ c::after))[before.length]? =
      some ((Backoff.double settings.upstoxWsReconnectMaxBackoffSeconds)^[
        Backoff.stretches Cycle.returns (c::before.reverse)] settings.upstoxWsReconnectBackoffSeconds) := by
  have happend : before ++ c::after = (before ++ [c]) ++ after := by simp
  rw [sleeps, happend, runForever_append hstop, List.getElem?_append_left (by simp)]
  exact Backoff.getElem?_delays before c []

end

/-- Cycles that fail one after another, the first of a run or right after one that received messages; no
stop is requested. -/
structure FailuresInARow (cycles before earlier : List Cycle) (c : Cycle) (after : List Cycle) : Prop where
  split : cycles = before ++ earlier ++ c::after
  fresh : before = [] ∨ ∃ last, before.getLast? = some last ∧ last.Receives
  fails : ∀ x ∈ earlier ++ [c], x.Fails
  going : ∀ x ∈ before ++ earlier ++ [c], x.stop = false

/-- After the n-th failure in a row the sleep is the base, doubled n - 1 times up to the maximum. -/
def BackoffGrows (settings : Settings) (cycles : List Cycle) : Prop :=
  ∀ before earlier c after, FailuresInARow cycles before earlier c after →
    (sleeps settings cycles)[(before ++ earlier).length]? =
      some (min (settings.upstoxWsReconnectBackoffSeconds*2^earlier.length)
        settings.upstoxWsReconnectMaxBackoffSeconds)

/-- The cycles since the last one that returned, or since the first of all. -/
def sinceReturned (before earlier : List Cycle) (c : Cycle) : ℕ :=
  Backoff.stretches Cycle.returns (c::(before ++ earlier).reverse)

/-- The backoff grows just when, at every failure, the cycles since the last one that returned make as many
doublings as the failures do; that is as many, or in both cases enough to reach the maximum. -/
theorem backoffGrows_iff (settings : Settings) (cycles : List Cycle) :
    (BackoffGrows settings cycles ↔
      ∀ before earlier c after, FailuresInARow cycles before earlier c after →
        (Backoff.double settings.upstoxWsReconnectMaxBackoffSeconds)^[sinceReturned before earlier c]
            settings.upstoxWsReconnectBackoffSeconds =
          min (settings.upstoxWsReconnectBackoffSeconds*2^earlier.length)
            settings.upstoxWsReconnectMaxBackoffSeconds) ∧
    (0 < settings.upstoxWsReconnectBackoffSeconds →
      settings.upstoxWsReconnectBackoffSeconds ≤ settings.upstoxWsReconnectMaxBackoffSeconds →
      (BackoffGrows settings cycles ↔
        ∀ before earlier c after, FailuresInARow cycles before earlier c after →
          sinceReturned before earlier c = earlier.length ∨
            settings.upstoxWsReconnectMaxBackoffSeconds ≤
                settings.upstoxWsReconnectBackoffSeconds*2^sinceReturned before earlier c ∧
              settings.upstoxWsReconnectMaxBackoffSeconds ≤
                settings.upstoxWsReconnectBackoffSeconds*2^earlier.length)) := by
  have hgrows : BackoffGrows settings cycles ↔
      ∀ before earlier c after, FailuresInARow cycles before earlier c after →
        (Backoff.double settings.upstoxWsReconnectMaxBackoffSeconds)^[sinceReturned before earlier c]
            settings.upstoxWsReconnectBackoffSeconds =
          min (settings.upstoxWsReconnectBackoffSeconds*2^earlier.length)
            settings.upstoxWsReconnectMaxBackoffSeconds := by
    refine forall_congr' fun before => forall_congr' fun earlier => forall_congr' fun c =>
      forall_congr' fun after => imp_congr_right fun h => ?_
    obtain ⟨rfl,-,-,hgoing⟩ := h
    rw [getElem?_sleeps hgoing, Option.some_inj, sinceReturned]
  refine ⟨hgrows,fun hbase hmax => hgrows.trans ?_⟩
  simp only [Backoff.iterate_double_eq_iff hbase hmax]

/-- Where nothing was received and no cycle has returned, the failures since the first of all are the
cycles since. -/
theorem sinceReturned_of_none {cycles before earlier : List Cycle} {c : Cycle} {after : List Cycle}
    (h : FailuresInARow cycles before earlier c after)
    (hnone : ∀ x ∈ cycles, x.returns = false ∧ x.messagesReceived = 0) :
    sinceReturned before earlier c = earlier.length := by
  obtain ⟨rfl,hfresh,-,-⟩ := h
  have hbefore : before = [] := by
    rcases hfresh with hnil | ⟨last,hlast,hreceives⟩
    · exact hnil
    · have hmem : last ∈ before ++ earlier ++ c::after := by
        rw [List.append_assoc]
        exact List.mem_append_left _ (List.mem_of_getLast? hlast)
      exact absurd (hnone last hmem).2 hreceives.receives.ne'
  subst hbefore
  rw [sinceReturned, List.nil_append, Backoff.stretches_of_none, List.length_reverse]
  intro x hx
  refine (hnone x ?_).1
  simp only [List.mem_cons, List.mem_reverse, List.nil_append, List.mem_append] at hx ⊢
  tauto

/-- A cycle whose token is rejected. -/
def rejectedCycle : Cycle where
  activeSymbols := .ok ["NSE_EQ|INE009A01021"]
  authorizeReply := .ok ⟨401,none⟩
  streamEnd := .stale

theorem backoffGrows_iff_rejected : BackoffGrows {} [rejectedCycle,rejectedCycle,rejectedCycle] := by
  refine ((backoffGrows_iff {} _).2 (by norm_num) (by norm_num)).mpr fun _ _ _ _ h => .inl ?_
  exact sinceReturned_of_none h (by simp [show rejectedCycle.returns = false by decide,
    show rejectedCycle.messagesReceived = 0 from rfl])

/-- A cycle whose connection is refused. -/
def refusedCycle : Cycle where
  activeSymbols := .ok ["NSE_EQ|INE009A01021"]
  authorizeReply := .ok ⟨200,some (.dict [("data",
    .dict [("authorized_redirect_uri",.str "wss://feed")])])⟩
  streamEnd := .osError "connection refused"

theorem refusedCycle_fails : refusedCycle.Fails :=
  ⟨⟨_,_,rfl⟩,.inr ⟨⟨"wss://feed",by decide +kernel⟩,rfl,rfl,.inr ⟨_,rfl⟩⟩⟩

/-- Refused twice, the loop sleeps for the base both times. -/
theorem refusedTwice_not_growing : ¬ BackoffGrows {} [refusedCycle,refusedCycle] := by
  intro h
  have hsecond := h [] [refusedCycle] refusedCycle [] ⟨rfl,.inl rfl,
    by simp [refusedCycle_fails],by simp [refusedCycle]⟩
  revert hsecond
  decide +kernel

end MarketScanner.Providers.Reconnect
