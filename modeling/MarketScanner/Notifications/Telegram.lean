import MarketScanner.Notifications.Manager
import MarketScanner.Python.Json

/-! `TelegramProvider`: one message, sent with retries. A response's body is whatever the other side
sends; where it is read as a dict and is none, `AttributeError` leaves the send. -/
namespace MarketScanner.Notifications
open MarketScanner.Python MarketScanner.Config

structure TelegramProvider where
  botToken : String
  chatId : String
  name : String := "telegram"

/-- A `DeliveryResult` as this provider builds it: its error message can be any value of a body. -/
structure TelegramResult where
  success : Bool
  status : String
  providerMessageId : Option String := none
  errorMessage : PyValue := .none
  responseMetadata : Dict := []
  retryable : Bool := true

namespace TelegramProvider

def configured (provider : TelegramProvider) : Bool :=
  provider.botToken != "" && provider.chatId != ""

def permanentErrorCodes : List ℕ := [400,401,403,404]

/-- `response.json()`, or an empty dict where that raises `ValueError`. -/
def body (response : HttpResponse) : PyValue := response.json.getD (.dict [])

/-- The metadata kept of a response. -/
def metadata (response : HttpResponse) : Dict := [("status_code",.int response.statusCode)]

/-- The result for an accepted message; `none` where `AttributeError` is raised. -/
def sentResult [Builtins] (response : HttpResponse) : Option TelegramResult :=
  let result := ((body response).get? "result").getD .none
  ((result.orElse (.dict [])).get? "message_id").map fun messageId =>
    { success := true
      status := "SENT"
      providerMessageId := match messageId with
        | PyValue.none => none
        | messageId => some messageId.toStr
      responseMetadata := metadata response }

/-- `_handle_response`: a final result, or `none` to retry; `none` outside where `AttributeError` is
raised. -/
def handleResponse [Builtins] (response : HttpResponse) : Option (Option TelegramResult) :=
  if response.statusCode = 200 then
    match (body response).get? "ok" with
    | none => none
    | some (.bool true) => (sentResult response).map some
    | some _ => some none
  else if response.statusCode = 429 then
    match (body response).get? "parameters" with
    | none => none
    | some parameters => ((parameters.orElse (.dict [])).get? "retry_after").map fun _ => none
  else if 500 ≤ response.statusCode ∧ response.statusCode < 600 then some none
  else if permanentErrorCodes.contains response.statusCode then
    ((body response).get? "description").map fun description => some
      { success := false
        status := "FAILED"
        errorMessage := description.orElse (.str ("HTTP " ++ toString response.statusCode))
        responseMetadata := metadata response
        retryable := false }
  else some none

/-- The attempts still to be made: the replies they get, and the result, or `none` where
`AttributeError` is raised. -/
def sendAttempts [Builtins] (replies : ℕ → HttpReply) :
    List ℕ → Option String → List HttpReply × Option TelegramResult
  | [], lastError =>
    ([],some { success := false, status := "FAILED"
               errorMessage := NotificationManager.optionalText lastError })
  | attempt::attempts, _ =>
    let reply := replies attempt
    let retry (error : String) :=
      let rest := sendAttempts replies attempts (some error)
      (reply::rest.1,rest.2)
    match reply with
    | .timedOut => retry "request timed out"
    | .httpError text => retry text
    | .response response =>
      match handleResponse response with
      | none => ([reply],none)
      | some (some result) => ([reply],some result)
      | some none => retry ("HTTP " ++ toString response.statusCode)

/-- `_send_with_retry`; attempt `n` gets `replies n`. -/
def sendWithRetry [Builtins] (settings : Settings) (provider : TelegramProvider)
    (replies : ℕ → HttpReply) : List HttpReply × Option TelegramResult :=
  if provider.configured then
    sendAttempts replies (List.range' 1 settings.telegramMaxRetries.toNat) none
  else
    ([],some { success := false, status := "FAILED"
               errorMessage := .str ("Telegram (" ++ provider.name ++ ") is not configured")
               retryable := false })

/-! What a reply is to the sender, by its status and its body alone. -/

/-- A value read as `v or {}` and then as a dict. -/
def dictOrFalsy (v : PyValue) : Bool := !v.truthy || v.isDict

/-- Status 200 with `ok` true. -/
def accepted (response : HttpResponse) : Bool :=
  response.statusCode == 200 &&
    match (body response).get? "ok" with
    | some (.bool true) => true
    | _ => false

def permanent (response : HttpResponse) : Bool := permanentErrorCodes.contains response.statusCode

/-- What the body is read for has the shape it is read with: nothing is read at a server error or an
unexpected status. -/
def legible (response : HttpResponse) : Bool :=
  let field (key : String) := ((body response).get? key).getD .none
  if response.statusCode = 200 then
    (body response).isDict && (!accepted response || dictOrFalsy (field "result"))
  else if response.statusCode = 429 then
    (body response).isDict && dictOrFalsy (field "parameters")
  else !permanent response || (body response).isDict

/-- A property of the response a reply carries. -/
def ofResponse (p : HttpResponse → Bool) : HttpReply → Bool
  | .response response => p response
  | _ => false

/-- The reply ends the send: the message is accepted, or refused for good. -/
def settles : HttpReply → Bool := ofResponse fun response => accepted response || permanent response

/-- Reading the reply raises `AttributeError`. -/
def illegible : HttpReply → Bool := ofResponse fun response => !legible response

theorem get?_orElse (v : PyValue) (key : String) :
    ((v.orElse (.dict [])).get? key).isSome = dictOrFalsy v := by
  rw [Bool.eq_iff_iff, PyValue.isSome_get?_iff]
  unfold PyValue.orElse dictOrFalsy
  cases v.truthy with
  | true => simp
  | false => simp [PyValue.isDict]

/-- What `_handle_response` makes of a response. -/
inductive Handled (response : HttpResponse) : Option (Option TelegramResult) → Prop
  | raises (h : legible response = false) : Handled response none
  | sent {result : TelegramResult} (h : legible response = true) (haccepted : accepted response = true)
      (hpermanent : permanent response = false) (hsuccess : result.success = true)
      (hretryable : result.retryable = true) : Handled response (some (some result))
  | refused {result : TelegramResult} (h : legible response = true)
      (haccepted : accepted response = false) (hpermanent : permanent response = true)
      (hsuccess : result.success = false) (hretryable : result.retryable = false) :
      Handled response (some (some result))
  | retry (h : legible response = true) (haccepted : accepted response = false)
      (hpermanent : permanent response = false) : Handled response (some none)

theorem accepted_eq_false {response : HttpResponse} (h : response.statusCode ≠ 200) :
    accepted response = false := by
  simp [accepted, h]

theorem permanent_eq_false {response : HttpResponse} {code : ℕ} (h : response.statusCode = code)
    (hcode : code ∉ permanentErrorCodes) : permanent response = false := by
  simp [permanent, h, hcode]

theorem handled_200 [Builtins] {response : HttpResponse} (h : response.statusCode = 200) :
    Handled response (handleResponse response) := by
  have hpermanent := permanent_eq_false h (by decide)
  have hlegible : legible response = ((body response).isDict &&
      (!accepted response || dictOrFalsy (((body response).get? "result").getD .none))) := if_pos h
  have hdict := PyValue.isSome_get?_iff (body response) "ok"
  unfold handleResponse
  rw [if_pos h]
  cases hok : (body response).get? "ok" with
  | none =>
    rw [hok] at hdict
    refine .raises ?_
    rw [hlegible, Bool.eq_false_iff.mpr fun hd => Bool.false_ne_true (hdict.mpr hd), Bool.false_and]
  | some ok =>
    rw [hok] at hdict
    rw [hdict.mp rfl, Bool.true_and] at hlegible
    have haccepted : accepted response = match some ok with
        | some (.bool true) => true
        | _ => false := by
      rw [accepted, hok, h]
      rfl
    match ok with
    | .bool true =>
      rw [haccepted, Bool.not_true, Bool.false_or, ← get?_orElse _ "message_id"] at hlegible
      dsimp only [sentResult]
      cases hmessage : ((((body response).get? "result").getD .none).orElse (.dict [])).get?
          "message_id" with
      | none =>
        rw [hmessage] at hlegible
        exact .raises hlegible
      | some messageId =>
        rw [hmessage] at hlegible
        exact .sent hlegible haccepted hpermanent rfl rfl
    | .bool false | .none | .int _ | .float _ | .str _ | .list _ | .dict _ =>
      rw [haccepted] at hlegible
      exact .retry hlegible haccepted hpermanent

theorem handled_429 [Builtins] {response : HttpResponse} (h : response.statusCode = 429) :
    Handled response (handleResponse response) := by
  have hne : response.statusCode ≠ 200 := by omega
  have hpermanent := permanent_eq_false h (by decide)
  have hlegible : legible response = ((body response).isDict &&
      dictOrFalsy (((body response).get? "parameters").getD .none)) := by
    simp only [legible, if_neg hne, if_pos h]
  have hdict := PyValue.isSome_get?_iff (body response) "parameters"
  unfold handleResponse
  rw [if_neg hne, if_pos h]
  cases hparameters : (body response).get? "parameters" with
  | none =>
    rw [hparameters] at hdict
    refine .raises ?_
    rw [hlegible, Bool.eq_false_iff.mpr fun hd => Bool.false_ne_true (hdict.mpr hd), Bool.false_and]
  | some parameters =>
    rw [hparameters] at hdict
    rw [hdict.mp rfl, Bool.true_and, hparameters, Option.getD_some, ← get?_orElse _ "retry_after"]
      at hlegible
    dsimp only
    cases hretry : (parameters.orElse (.dict [])).get? "retry_after" with
    | none =>
      rw [hretry] at hlegible
      exact .raises hlegible
    | some retryAfter =>
      rw [hretry] at hlegible
      exact .retry hlegible (accepted_eq_false hne) hpermanent

theorem handled_other [Builtins] {response : HttpResponse} (h200 : response.statusCode ≠ 200)
    (h429 : response.statusCode ≠ 429) : Handled response (handleResponse response) := by
  have haccepted := accepted_eq_false h200
  have hlegible : legible response = (!permanent response || (body response).isDict) := by
    simp only [legible, if_neg h200, if_neg h429]
  have hdict := PyValue.isSome_get?_iff (body response) "description"
  unfold handleResponse
  rw [if_neg h200, if_neg h429]
  split
  · rename_i hserver
    have hpermanent : permanent response = false := by
      obtain ⟨hlow,-⟩ := hserver
      simp [permanent, permanentErrorCodes]
      omega
    rw [hpermanent] at hlegible
    exact .retry hlegible haccepted hpermanent
  · split
    · rename_i hpermanent
      rw [permanent, hpermanent, Bool.not_true, Bool.false_or] at hlegible
      cases hdescription : (body response).get? "description" with
      | none =>
        rw [hdescription] at hdict
        refine .raises ?_
        rw [hlegible, Bool.eq_false_iff.mpr fun hd => Bool.false_ne_true (hdict.mpr hd)]
      | some description =>
        rw [hdescription] at hdict
        exact .refused (hlegible.trans (hdict.mp rfl)) haccepted hpermanent rfl rfl
    · rename_i hpermanent
      have hpermanent : permanent response = false := Bool.eq_false_iff.mpr hpermanent
      rw [hpermanent] at hlegible
      exact .retry hlegible haccepted hpermanent

theorem handleResponse_handled [Builtins] (response : HttpResponse) :
    Handled response (handleResponse response) := by
  by_cases h200 : response.statusCode = 200
  · exact handled_200 h200
  · by_cases h429 : response.statusCode = 429
    · exact handled_429 h429
    · exact handled_other h200 h429

/-! The attempts, up to the first reply that settles the send or cannot be read. -/

/-- What a result tells of the replies that were got: it is a success just when the last
of them accepts the message, and not to be retried just when the last of them is a permanent failure. -/
structure Reports (posted : List HttpReply) (result : TelegramResult) : Prop where
  success : result.success = true ↔ posted.getLast?.any (ofResponse accepted) = true
  refused : result.retryable = false ↔ posted.getLast?.any (ofResponse permanent) = true

/-- Every attempt that is made gets a reply that can be read. -/
def AllLegible (replies : ℕ → HttpReply) (attempts : List ℕ) : Prop :=
  ∀ pre n post, attempts = pre ++ n::post → (∀ j ∈ pre, settles (replies j) = false) →
    illegible (replies n) = false

theorem allLegible_cons {replies : ℕ → HttpReply} {n : ℕ} {attempts : List ℕ} :
    AllLegible replies (n::attempts) ↔ illegible (replies n) = false ∧
      (settles (replies n) = false → AllLegible replies attempts) := by
  constructor
  · intro h
    refine ⟨h [] n attempts rfl (by simp),?_⟩
    intro hn pre m post hattempts hpre
    refine h (n::pre) m post (by rw [hattempts]; rfl) ?_
    rintro j (_ | ⟨_,hj⟩)
    · exact hn
    · exact hpre j hj
  · rintro ⟨hhead,htail⟩ pre m post hattempts hpre
    cases pre with
    | nil =>
      obtain ⟨rfl,-⟩ := List.cons.inj hattempts
      exact hhead
    | cons k pre =>
      obtain ⟨rfl,hrest⟩ := List.cons.inj hattempts
      exact htail (hpre n List.mem_cons_self) pre m post hrest fun j hj =>
        hpre j (List.mem_cons_of_mem n hj)

/-- What the loop over attempts has to give back: a result that reports the replies got, or an exception,
and the exception just when a reply cannot be read. -/
def Outcome (replies : ℕ → HttpReply) (attempts : List ℕ) :
    List HttpReply × Option TelegramResult → Prop
  | (posted,some result) => Reports posted result ∧ AllLegible replies attempts
  | (_,none) => ¬ AllLegible replies attempts

/-- A reply that neither accepts nor refuses is as if it had not come, once there is another. -/
theorem Reports.cons {reply : HttpReply} {posted : List HttpReply} {result : TelegramResult}
    (haccepted : ofResponse accepted reply = false) (hpermanent : ofResponse permanent reply = false)
    (h : Reports posted result) : Reports (reply::posted) result := by
  cases posted with
  | nil =>
    refine ⟨h.success.trans ?_,h.refused.trans ?_⟩
    · simp [haccepted]
    · simp [hpermanent]
  | cons next posted =>
    refine ⟨?_,?_⟩
    · rw [List.getLast?_cons_cons]
      exact h.success
    · rw [List.getLast?_cons_cons]
      exact h.refused

/-- An attempt to go on from. -/
theorem Outcome.cons {replies : ℕ → HttpReply} {n : ℕ} {attempts : List ℕ}
    {out : List HttpReply × Option TelegramResult} (hlegible : illegible (replies n) = false)
    (haccepted : ofResponse accepted (replies n) = false)
    (hpermanent : ofResponse permanent (replies n) = false) (h : Outcome replies attempts out) :
    Outcome replies (n::attempts) (replies n::out.1,out.2) := by
  have hsettles : settles (replies n) = false := by
    cases hreply : replies n with
    | response response =>
      rw [hreply] at haccepted hpermanent
      exact Bool.or_eq_false_iff.mpr ⟨haccepted,hpermanent⟩
    | _ => rfl
  have hall : AllLegible replies (n::attempts) ↔ AllLegible replies attempts := by
    rw [allLegible_cons, and_iff_right hlegible, imp_iff_right hsettles]
  match out with
  | (posted,some result) => exact ⟨h.1.cons haccepted hpermanent,hall.mpr h.2⟩
  | (posted,none) => exact fun hlegible => h (hall.mp hlegible)

/-- An attempt that ends the loop. -/
theorem Outcome.settled {replies : ℕ → HttpReply} {n : ℕ} {attempts : List ℕ}
    {result : TelegramResult} (hlegible : illegible (replies n) = false)
    (hsettles : settles (replies n) = true) (hreports : Reports [replies n] result) :
    Outcome replies (n::attempts) ([replies n],some result) := by
  refine ⟨hreports,allLegible_cons.mpr ⟨hlegible,fun hgoing => ?_⟩⟩
  rw [hsettles] at hgoing
  cases hgoing

/-- The contract of the loop. -/
theorem sendAttempts_outcome [Builtins] (replies : ℕ → HttpReply) (attempts : List ℕ)
    (lastError : Option String) :
    Outcome replies attempts (sendAttempts replies attempts lastError) := by
  induction attempts generalizing lastError with
  | nil =>
    refine ⟨⟨by simp,by simp⟩,?_⟩
    intro pre n post hattempts
    simp at hattempts
  | cons n attempts ih =>
    have hnext := fun error => ih (some error)
    unfold sendAttempts
    cases hreply : replies n with
    | timedOut =>
      have hcons := (hnext "request timed out").cons (n := n) (by rw [hreply]; rfl)
        (by rw [hreply]; rfl) (by rw [hreply]; rfl)
      rw [hreply] at hcons
      exact hcons
    | httpError text =>
      have hcons := (hnext text).cons (n := n) (by rw [hreply]; rfl) (by rw [hreply]; rfl)
        (by rw [hreply]; rfl)
      rw [hreply] at hcons
      exact hcons
    | response response =>
      have hhandled := handleResponse_handled response
      dsimp only
      generalize handleResponse response = handled at hhandled
      cases hhandled with
      | raises h =>
        intro hall
        have hlegible := (allLegible_cons.mp hall).1
        simp [hreply, illegible, ofResponse, h] at hlegible
      | sent h haccepted hpermanent hsuccess hretryable =>
        rw [← hreply]
        refine Outcome.settled ?_ ?_ ⟨?_,?_⟩
        · simp [hreply, illegible, ofResponse, h]
        · simp [hreply, settles, ofResponse, haccepted]
        · simp [hreply, ofResponse, haccepted, hsuccess]
        · simp [hreply, ofResponse, hpermanent, hretryable]
      | refused h haccepted hpermanent hsuccess hretryable =>
        rw [← hreply]
        refine Outcome.settled ?_ ?_ ⟨?_,?_⟩
        · simp [hreply, illegible, ofResponse, h]
        · simp [hreply, settles, ofResponse, hpermanent]
        · simp [hreply, ofResponse, haccepted, hsuccess]
        · simp [hreply, ofResponse, hpermanent, hretryable]
      | retry h haccepted hpermanent =>
        have hcons := (hnext ("HTTP " ++ toString response.statusCode)).cons (n := n)
          (by simp [hreply, illegible, ofResponse, h]) (by simp [hreply, ofResponse, haccepted])
          (by simp [hreply, ofResponse, hpermanent])
        rw [hreply] at hcons
        exact hcons

theorem allLegible_range' {replies : ℕ → HttpReply} {m : ℕ} :
    AllLegible replies (List.range' 1 m) ↔ ∀ n, 1 ≤ n → n ≤ m →
      (∀ j, 1 ≤ j → j < n → settles (replies j) = false) → illegible (replies n) = false := by
  constructor
  · intro h n hn hm hbefore
    have hsplit : List.range' 1 m = List.range' 1 (n-1) ++ n::List.range' (n+1) (m-n) := by
      rw [List.range'_eq_append_iff]
      refine ⟨n-1,by omega,rfl,?_⟩
      symm
      rw [List.range'_eq_cons_iff]
      refine ⟨by omega,by omega,?_⟩
      congr 1
      omega
    refine h _ n _ hsplit fun j hj => ?_
    obtain ⟨hj,hjn⟩ := List.mem_range'_1.mp hj
    exact hbefore j hj (by omega)
  · intro h pre n post hsplit hpre
    obtain ⟨k,hk,rfl,hpost⟩ := List.range'_eq_append_iff.mp hsplit
    obtain ⟨rfl,hpos,-⟩ := List.range'_eq_cons_iff.mp hpost.symm
    rw [Nat.mul_one]
    refine h (1+k) (by omega) (by omega) fun j hj hjk => ?_
    exact hpre j (List.mem_range'_1.mpr ⟨hj,hjk⟩)

end TelegramProvider

open TelegramProvider in
/-- `_send_with_retry` returns a result that tells what the last reply was exactly when every attempt it
makes, if it makes any, gets a reply that can be read. -/
theorem sendWithRetry_returns_iff [Builtins] (settings : Settings) (provider : TelegramProvider)
    (replies : ℕ → HttpReply) :
    (∃ posted result, sendWithRetry settings provider replies = (posted,some result) ∧
      (result.success = true ↔ posted.getLast?.any (ofResponse accepted) = true) ∧
      (result.retryable = false ↔
        provider.configured = false ∨ posted.getLast?.any (ofResponse permanent) = true)) ↔
      (provider.configured = true → ∀ n : ℕ, 1 ≤ n → (n : ℤ) ≤ settings.telegramMaxRetries →
        (∀ j, 1 ≤ j → j < n → settles (replies j) = false) → illegible (replies n) = false) := by
  unfold sendWithRetry
  cases hconfigured : provider.configured with
  | false =>
    rw [if_neg Bool.false_ne_true]
    exact iff_of_true ⟨_,_,rfl,by simp,by simp⟩ (by simp)
  | true =>
    have hrange : AllLegible replies (List.range' 1 settings.telegramMaxRetries.toNat) ↔
        ∀ n : ℕ, 1 ≤ n → (n : ℤ) ≤ settings.telegramMaxRetries →
          (∀ j, 1 ≤ j → j < n → settles (replies j) = false) → illegible (replies n) = false := by
      rw [allLegible_range']
      refine forall_congr' fun n => imp_congr_right fun hn => imp_congr_left ?_
      omega
    rw [if_pos rfl, imp_iff_right rfl, ← hrange]
    have houtcome := sendAttempts_outcome replies
      (List.range' 1 settings.telegramMaxRetries.toNat) none
    generalize sendAttempts replies (List.range' 1 settings.telegramMaxRetries.toNat) none = out
      at houtcome
    match out with
    | (posted,some result) =>
      obtain ⟨hreports,hall⟩ := houtcome
      refine iff_of_true ⟨posted,result,rfl,hreports.success,?_⟩ hall
      rw [hreports.refused]
      simp
    | (posted,none) =>
      refine iff_of_false ?_ houtcome
      rintro ⟨_,_,heq,-⟩
      cases heq

/-- The bot is configured, and its one reply is status 200 with a list for a body. -/
theorem listBody_raises : ¬ ∀ [Builtins] (settings : Settings) (provider : TelegramProvider)
    (replies : ℕ → HttpReply), ∃ posted result,
      TelegramProvider.sendWithRetry settings provider replies = (posted,some result) ∧
      (result.success = true ↔
        posted.getLast?.any (TelegramProvider.ofResponse TelegramProvider.accepted) = true) ∧
      (result.retryable = false ↔ provider.configured = false ∨
        posted.getLast?.any (TelegramProvider.ofResponse TelegramProvider.permanent) = true) := by
  intro h
  let _ := Builtins.tabulated [] [] []
  obtain ⟨posted,result,heq,-⟩ := h {} ⟨"110:token","-100200300","telegram"⟩
    (fun _ => .response ⟨200,some (.list [])⟩)
  have hnone : (TelegramProvider.sendWithRetry {} ⟨"110:token","-100200300","telegram"⟩
      (fun _ => .response ⟨200,some (.list [])⟩)).2.isNone = true := by decide +kernel
  rw [heq] at hnone
  cases hnone

end MarketScanner.Notifications
