import MarketScanner.Library.Chronicle
import MarketScanner.Fundamentals.QueueService
import MarketScanner.Python.Decimals

/-! The pause after rate limits, told from the attempts in the order they are recorded, and read off
their `requested_at`. A transaction stamps all its attempts with its own start, so a rate limit and the
success before it may carry one stamp. -/
namespace MarketScanner.Fundamentals
open MarketScanner.Library MarketScanner.Python MarketScanner.Config MarketScanner.Scanner
open FundamentalFetchLogRepository FundamentalQueueService

structure FetchAttempt where
  symbolId : ℕ
  status : FetchStatus
  errorMessage : Option String

/-- A committed transaction of the queue: how long after the one before it it starts, in microseconds,
and the attempts it records. -/
structure FetchTransaction where
  wait : ℕ
  attempts : List FetchAttempt

def recordAttempts (start : ℤ) (attempts : List FetchAttempt) (log : Table FundamentalFetchLog) :
    Table FundamentalFetchLog :=
  attempts.foldl (fun log attempt =>
    log.insert ⟨attempt.symbolId,attempt.status,attempt.errorMessage,⟨start,0⟩⟩) log

/-- The start of the last transaction, and the log. -/
def recordAll (history : List FetchTransaction) (s : ℤ × Table FundamentalFetchLog) :
    ℤ × Table FundamentalFetchLog :=
  history.foldl (fun s transaction =>
    (s.1+transaction.wait,recordAttempts (s.1+transaction.wait) transaction.attempts s.2)) s

/-- The log after a history of transactions, from an empty one. -/
def recordedLog (epoch : ℤ) (history : List FetchTransaction) : Table FundamentalFetchLog :=
  (recordAll history (epoch,Table.empty)).2

/-! What the pause should be. -/

def isRateLimited (r : Row FundamentalFetchLog) : Bool := decide (r.val.status = .rateLimited)

def isOk (r : Row FundamentalFetchLog) : Bool := decide (r.val.status ∈ [FetchStatus.success,.cached])

/-- The attempts recorded after the last success. -/
def sinceOk (log : Table FundamentalFetchLog) : List (Row FundamentalFetchLog) :=
  sinceLast isOk log.rows

/-- The cooldown after a number of rate limits in a row. -/
def cooldown (settings : Settings) (k : ℕ) : TimeDelta :=
  ofSeconds (min settings.fundamentalRateLimitMaxCooldownSeconds
    (settings.fundamentalRateLimitCooldownSeconds*settings.fundamentalRateLimitBackoffMultiplier^(k-1)))

/-- The pause that the attempts call for, in the order they are recorded. -/
def expectedPause (settings : Settings) (log : Table FundamentalFetchLog) (now : DateTime) :
    Option DateTime :=
  match ((sinceOk log).filter isRateLimited).getLast? with
  | none => none
  | some limited =>
    let resumeAt := limited.val.requestedAt.add (cooldown settings ((sinceOk log).countP isRateLimited))
    if now < resumeAt then some resumeAt else none

/-! When the stamps tell it. -/

def lastOk (log : Table FundamentalFetchLog) : Option (Row FundamentalFetchLog) :=
  (log.rows.filter isOk).getLast?

/-- The rate limits since the last success that carry its stamp. -/
def tied (log : Table FundamentalFetchLog) : ℕ :=
  (sinceOk log).countP fun r => isRateLimited r &&
    (lastOk log).any fun ok => decide (ok.val.requestedAt.utc = r.val.requestedAt.utc)

/-- Without the tied rate limits the power stays within the floats and the cooldown is the same, or even
the full cooldown is over. Where a success is the last to have come, it has a later stamp than the last
rate limit, or the shortest cooldown is over. -/
def StampsTell (settings : Settings) (log : Table FundamentalFetchLog) (now : DateTime) : Prop :=
  let k := (sinceOk log).countP isRateLimited
  match ((sinceOk log).filter isRateLimited).getLast? with
  | some limited =>
    settings.fundamentalRateLimitBackoffMultiplier^(k-tied log-1) < 2^1024 ∧
      (cooldown settings (k-tied log) = cooldown settings k ∨
        limited.val.requestedAt.add (cooldown settings k) ≤ now)
  | none => ∀ limited ok, (log.rows.filter isRateLimited).getLast? = some limited →
      lastOk log = some ok → limited.val.requestedAt.utc = ok.val.requestedAt.utc →
        limited.val.requestedAt.add (cooldown settings 0) ≤ now

/-! The log of a history is in the order of its stamps. -/

/-- Stamped in UTC, in order, and not after an instant. -/
structure StampedBy (clock : ℤ) (log : Table FundamentalFetchLog) : Prop where
  utc : ∀ r ∈ log.rows, r.val.requestedAt.offset = 0
  chronological : Chronological (fun r : Row FundamentalFetchLog => r.val.requestedAt.utc) log.rows
  before : ∀ r ∈ log.rows, r.val.requestedAt.utc ≤ clock

namespace StampedBy
variable {clock : ℤ} {log : Table FundamentalFetchLog}

theorem empty (clock : ℤ) : StampedBy clock Table.empty :=
  ⟨by simp,List.Pairwise.nil,by simp⟩

theorem later (h : StampedBy clock log) {now : ℤ} (hnow : clock ≤ now) : StampedBy now log :=
  ⟨h.utc,h.chronological,fun r hr => (h.before r hr).trans hnow⟩

theorem insert (h : StampedBy clock log) (attempt : FetchAttempt) : StampedBy clock (log.insert
    ⟨attempt.symbolId,attempt.status,attempt.errorMessage,⟨clock,0⟩⟩) where
  utc := by
    intro r hr
    rcases Table.mem_insert.mp hr with hr | rfl
    · exact h.utc r hr
    · rfl
  chronological := h.chronological.concat h.before
  before := by
    intro r hr
    rcases Table.mem_insert.mp hr with hr | rfl
    · exact h.before r hr
    · exact le_refl clock

theorem recordAttempts (h : StampedBy clock log) (attempts : List FetchAttempt) :
    StampedBy clock (recordAttempts clock attempts log) := by
  induction attempts generalizing log with
  | nil => exact h
  | cons attempt attempts ih => exact ih (h.insert attempt)

theorem recordAll (h : StampedBy clock log) (history : List FetchTransaction) :
    StampedBy (recordAll history (clock,log)).1 (recordAll history (clock,log)).2 := by
  induction history generalizing clock log with
  | nil => exact h
  | cons transaction history ih =>
    exact ih ((h.later (by omega)).recordAttempts transaction.attempts)

end StampedBy

/-! A run of the queue is such a history. -/
section Run
variable [Builtins] (service : FundamentalQueueService) (env : QueueEnv)

/-- A batch records its attempts with the start of its transaction. -/
theorem runBatch_records (symbolById : ℕ → Option String) (commits : ℕ) {start : ℤ}
    (hstart : env.transactionStart commits = ⟨start,0⟩) (rows : List (Row ScannerResult))
    (run : QueueRun) : ∃ attempts,
      (runBatch service env symbolById commits rows run).1.tables.log =
        recordAttempts start attempts run.tables.log := by
  induction rows generalizing run with
  | nil => exact ⟨[],rfl⟩
  | cons row rows ih =>
    unfold runBatch
    cases symbolById row.val.symbolId with
    | none => exact ih run
    | some symbol =>
      obtain ⟨attempt,hone⟩ : ∃ attempt : FetchAttempt,
          (processOne service env commits run row symbol).1.tables.log =
            recordAttempts start [attempt] run.tables.log := by
        refine ⟨⟨row.val.symbolId,
          (askProvider (env.provider (fetches run.ops).length) symbol).2.1,
          (askProvider (env.provider (fetches run.ops).length) symbol).2.2⟩,?_⟩
        unfold processOne recordAttempts
        dsimp only [List.foldl_cons, List.foldl_nil]
        rw [hstart]
      dsimp only
      split
      · exact ⟨[attempt],hone⟩
      · obtain ⟨attempts,hlog⟩ := ih (counted (processOne service env commits run row symbol).1 symbol)
        exact ⟨attempt::attempts,hlog.trans (congrArg (recordAttempts start attempts) hone)⟩

/-- The batches of a run are transactions one after another. -/
theorem runBatches_records (symbolById : ℕ → Option String) {starts : ℕ → ℤ}
    (hstarts : ∀ n, env.transactionStart n = ⟨starts n,0⟩)
    (hmono : ∀ n, starts n ≤ starts (n+1)) (batches : List (List (Row ScannerResult))) {clock : ℤ} {commits : ℕ}
    (hclock : clock ≤ starts commits) (run : QueueRun) : ∃ history clock',
      recordAll history (clock,run.tables.log) =
        (clock',(runBatches service env symbolById commits batches run).tables.log) := by
  induction batches generalizing clock commits run with
  | nil => exact ⟨[],clock,rfl⟩
  | cons batch batches ih =>
    obtain ⟨attempts,hlog⟩ :=
      runBatch_records service env symbolById commits (hstarts commits) batch run
    obtain ⟨wait,hwait⟩ : ∃ wait : ℕ, clock+wait = starts commits :=
      ⟨(starts commits-clock).toNat,by omega⟩
    have hfirst : ∀ history, recordAll (⟨wait,attempts⟩::history) (clock,run.tables.log) =
        recordAll history
          (starts commits,(runBatch service env symbolById commits batch run).1.tables.log) := by
      intro history
      rw [hlog, ← hwait]
      rfl
    unfold runBatches
    split
    · rename_i run' hrun
      rw [hrun] at hfirst
      exact ⟨_,_,hfirst []⟩
    · rename_i run' hrun
      rw [hrun] at hfirst
      obtain ⟨history,clock',hrest⟩ := ih (hmono commits) (commit run')
      exact ⟨_,clock',(hfirst history).trans hrest⟩

/-- What a completed run leaves in the log, when its transactions start in order, none before an instant
that the log has reached. -/
theorem runQueue_records {starts : ℕ → ℤ} (hstarts : ∀ n, env.transactionStart n = ⟨starts n,0⟩)
    (hmono : ∀ n, starts n ≤ starts (n+1)) {clock : ℤ} (hclock : clock ≤ starts 0) {tables : QueueTables}
    {run : QueueRun} (hrun : runQueue service env tables = .ok run) : ∃ history clock',
      recordAll history (clock,tables.log) = (clock',run.tables.log) := by
  have hidle : ∃ history clock', recordAll history (clock,tables.log) = (clock',tables.log) :=
    ⟨[],clock,rfl⟩
  unfold runQueue at hrun
  dsimp only at hrun
  split at hrun
  · obtain rfl := Except.ok.inj hrun
    exact hidle
  · split at hrun
    · cases hrun
    · obtain rfl := Except.ok.inj hrun
      exact hidle
    · split at hrun
      · obtain rfl := Except.ok.inj hrun
        exact hidle
      · split at hrun
        · cases hrun
        · obtain rfl := Except.ok.inj hrun
          exact runBatches_records service env _ hstarts hmono _ hclock
            { tables := tables, ops := [.statement] }

end Run

/-! The cooldown grows with the rate limits up to its cap. -/
section Cooldown
variable {settings : Settings}

theorem ofSeconds_mono {x y : ℚ} (hxy : x ≤ y) : ofSeconds x ≤ ofSeconds y :=
  PyFloat.roundHalfEven_mono (by linarith)

theorem cooldown_mono (hbase : 0 < settings.fundamentalRateLimitCooldownSeconds)
    (hmultiplier : 1 ≤ settings.fundamentalRateLimitBackoffMultiplier)
    {j k : ℕ} (hjk : j ≤ k) : cooldown settings j ≤ cooldown settings k := by
  refine ofSeconds_mono (min_le_min_left _ ?_)
  have hpow := pow_le_pow_right₀ hmultiplier (Nat.sub_le_sub_right hjk 1)
  exact mul_le_mul_of_nonneg_left hpow hbase.le

theorem cooldown_le_cap (k : ℕ) :
    cooldown settings k ≤ ofSeconds settings.fundamentalRateLimitMaxCooldownSeconds :=
  ofSeconds_mono (min_le_left _ _)

/-- The code's cooldown is this one, unless the power is beyond the floats. -/
theorem escalatedCooldownSeconds_eq (hmultiplier : 1 ≤ settings.fundamentalRateLimitBackoffMultiplier)
    {k : ℕ} (hfloat : settings.fundamentalRateLimitBackoffMultiplier^(k-1) < 2^1024) :
    ∃ seconds, escalatedCooldownSeconds settings k = .ok seconds ∧
      ofSeconds seconds = cooldown settings k := by
  have hpos : 0 ≤ settings.fundamentalRateLimitBackoffMultiplier^(k-1) :=
    pow_nonneg (zero_le_one.trans hmultiplier) _
  unfold escalatedCooldownSeconds floatPow
  rw [abs_of_nonneg hpos, if_neg (not_le.mpr hfloat)]
  exact ⟨_,rfl,by rw [min_comm]; rfl⟩

theorem escalatedCooldownSeconds_error
    (hmultiplier : 1 ≤ settings.fundamentalRateLimitBackoffMultiplier) {k : ℕ}
    (hfloat : ¬ settings.fundamentalRateLimitBackoffMultiplier^(k-1) < 2^1024) :
    ∃ text, escalatedCooldownSeconds settings k = .error text := by
  have hpos : 0 ≤ settings.fundamentalRateLimitBackoffMultiplier^(k-1) :=
    pow_nonneg (zero_le_one.trans hmultiplier) _
  unfold escalatedCooldownSeconds floatPow
  rw [abs_of_nonneg hpos, if_pos (not_lt.mp hfloat)]
  exact ⟨_,rfl⟩

end Cooldown

/-! What the two queries make of the log. -/
section Queries
variable {clock : ℤ} {log : Table FundamentalFetchLog} {limited : Row FundamentalFetchLog}

theorem latestRequest_eq (h : StampedBy clock log) (statuses : List FetchStatus) :
    latestRequest log statuses =
      (log.rows.filter fun r => decide (r.val.status ∈ statuses)).getLast?.map
        fun r => r.val.requestedAt := by
  unfold latestRequest
  rw [(h.chronological.filter _).max?_map, Option.map_map]
  cases hlast : (log.rows.filter fun r => decide (r.val.status ∈ statuses)).getLast? with
  | none => rfl
  | some r =>
    have hr := h.utc r (List.mem_of_mem_filter (List.mem_of_getLast? hlast))
    rw [Option.map_some, Option.map_some]
    change some (⟨r.val.requestedAt.utc,0⟩ : DateTime) = some r.val.requestedAt
    rw [← hr]

theorem latestRequest_rateLimited (h : StampedBy clock log) :
    latestRequest log [.rateLimited] =
      (log.rows.filter isRateLimited).getLast?.map fun r => r.val.requestedAt := by
  rw [latestRequest_eq h]
  simp only [List.mem_singleton]
  rfl

theorem latestRequest_ok (h : StampedBy clock log) :
    latestRequest log [.success,.cached] = (lastOk log).map fun r => r.val.requestedAt :=
  latestRequest_eq h _

theorem isRateLimited_of_isOk {r : Row FundamentalFetchLog} (h : isOk r = true) :
    isRateLimited r = false := by
  unfold isOk at h
  unfold isRateLimited
  rw [decide_eq_true_eq] at h
  rw [decide_eq_false_iff_not]
  intro hlimited
  rw [hlimited] at h
  simp at h

/-- Around the last success. -/
structure AroundOk (log : Table FundamentalFetchLog) (pre : List (Row FundamentalFetchLog))
    (ok : Row FundamentalFetchLog) : Prop where
  rows : log.rows = pre ++ ok::sinceOk log
  isOk : isOk ok = true
  lastOk : lastOk log = some ok

variable (log) in
theorem noOk_or_aroundOk :
    (sinceOk log = log.rows ∧ lastOk log = none) ∨ ∃ pre ok, AroundOk log pre ok := by
  rcases none_or_last isOk log.rows with hnone | ⟨pre,ok,post,hrows,hok,hpost⟩
  · left
    refine ⟨sinceLast_of_none hnone,?_⟩
    unfold lastOk
    rw [List.filter_eq_nil_iff.mpr fun r hr => by simp [hnone r hr]]
    rfl
  · right
    have hsince : sinceOk log = post := by
      unfold sinceOk
      rw [hrows, sinceLast_append hok hpost]
    refine ⟨pre,ok,by rw [hsince, hrows],hok,?_⟩
    unfold lastOk
    rw [hrows, getLast?_filter_append hok hpost]

/-- The count leaves out the tied rate limits, and only these. -/
theorem countConsecutiveRateLimits_add_tied (h : StampedBy clock log) :
    countConsecutiveRateLimits log+tied log = (sinceOk log).countP isRateLimited := by
  unfold countConsecutiveRateLimits tied
  rw [latestRequest_ok h]
  rcases noOk_or_aroundOk log with ⟨hsince,hlast⟩ | ⟨pre,ok,haround⟩
  · rw [hlast, hsince]
    simp only [Option.map_none, Option.any_none, Bool.and_true, Bool.and_false, List.countP_false]
    rfl
  · rw [haround.lastOk]
    have hcount := haround.rows ▸ (haround.rows ▸ h.chronological).countP_later isRateLimited
    exact hcount

/-- A rate limit with no success after it is the newest of all, and no success is newer. -/
theorem mostRecentRateLimit_of_since (h : StampedBy clock log)
    (hlimited : ((sinceOk log).filter isRateLimited).getLast? = some limited) :
    mostRecentRateLimit log = some limited.val.requestedAt := by
  unfold mostRecentRateLimit
  rw [latestRequest_rateLimited h, latestRequest_ok h]
  rcases noOk_or_aroundOk log with ⟨hsince,hlast⟩ | ⟨pre,ok,haround⟩
  · rw [hsince] at hlimited
    rw [hlimited, hlast]
    rfl
  · have hnewest : (log.rows.filter isRateLimited).getLast? = some limited := by
      rw [haround.rows, List.filter_append,
        List.filter_cons_of_neg (by simp [isRateLimited_of_isOk haround.isOk]),
        List.getLast?_append, hlimited]
      rfl
    have hmem : limited ∈ sinceOk log := List.mem_of_mem_filter (List.mem_of_getLast? hlimited)
    have hle := (haround.rows ▸ h.chronological).ge_of_append limited hmem
    rw [hnewest, haround.lastOk]
    simp only [Option.map_some]
    rw [if_neg (by rw [DateTime.lt_iff]; exact not_lt.mpr hle)]

/-- Where none has come since the last success, the newest rate limit counts only if it carries the
stamp of that success. -/
theorem mostRecentRateLimit_of_none (h : StampedBy clock log)
    (hnone : ((sinceOk log).filter isRateLimited).getLast? = none) :
    mostRecentRateLimit log = none ∧ (∀ limited ok,
        (log.rows.filter isRateLimited).getLast? = some limited → lastOk log = some ok →
          limited.val.requestedAt.utc ≠ ok.val.requestedAt.utc) ∨
      ∃ limited ok, (log.rows.filter isRateLimited).getLast? = some limited ∧
        lastOk log = some ok ∧ limited.val.requestedAt.utc = ok.val.requestedAt.utc ∧
        mostRecentRateLimit log = some limited.val.requestedAt := by
  unfold mostRecentRateLimit
  rw [latestRequest_rateLimited h, latestRequest_ok h]
  cases hlimited : (log.rows.filter isRateLimited).getLast? with
  | none => exact Or.inl ⟨rfl,by simp⟩
  | some limited =>
    rcases noOk_or_aroundOk log with ⟨hsince,-⟩ | ⟨pre,ok,haround⟩
    · rw [hsince, hlimited] at hnone
      cases hnone
    · have hmem : limited ∈ pre := by
        have hall := List.mem_of_getLast? hlimited
        rw [haround.rows, List.filter_append,
          List.filter_cons_of_neg (by simp [isRateLimited_of_isOk haround.isOk]),
          List.getLast?_eq_none_iff.mp hnone, List.append_nil] at hall
        exact List.mem_of_mem_filter hall
      have hle := (haround.rows ▸ h.chronological).le_of_append limited hmem
      rw [haround.lastOk]
      simp only [Option.map_some]
      by_cases htie : limited.val.requestedAt.utc = ok.val.requestedAt.utc
      · right
        refine ⟨limited,ok,rfl,rfl,htie,?_⟩
        rw [if_neg (by rw [DateTime.lt_iff]; omega)]
      · left
        refine ⟨if_pos (by rw [DateTime.lt_iff]; omega),?_⟩
        rintro _ _ ⟨⟩ ⟨⟩
        exact htie

end Queries

theorem pause_eq_iff {t now : DateTime} {a b : TimeDelta} (hab : a ≤ b) :
    (if now < t.add a then some (t.add a) else none) =
        (if now < t.add b then some (t.add b) else none) ↔ a = b ∨ t.add b ≤ now := by
  have hlt : ∀ c : TimeDelta, now < t.add c ↔ now.utc < t.utc+c := fun c => Iff.rfl
  have hle : t.add b ≤ now ↔ t.utc+b ≤ now.utc := Iff.rfl
  have hsum : t.utc+a ≤ t.utc+b := Int.add_le_add_left hab _
  rw [hle]
  by_cases hb : now.utc < t.utc+b
  · rw [if_pos ((hlt b).mpr hb), or_iff_left (not_le.mpr hb)]
    constructor
    · intro heq
      split at heq
      · have hutc : t.utc+a = t.utc+b := congrArg DateTime.utc (Option.some.inj heq)
        exact Int.add_left_cancel hutc
      · cases heq
    · rintro rfl
      rw [if_pos ((hlt a).mpr hb)]
  · have ha : ¬ now.utc < t.utc+a := fun ha => hb (ha.trans_le hsum)
    rw [if_neg ((hlt b).not.mpr hb), if_neg ((hlt a).not.mpr ha)]
    exact iff_of_true rfl (Or.inr (not_lt.mp hb))

section Pause

variable {settings : Settings} {clock : ℤ} {log : Table FundamentalFetchLog} {now : DateTime}

/-- With a rate limit recorded after the last success. -/
theorem pause_iff_of_since (hbase : 0 < settings.fundamentalRateLimitCooldownSeconds)
    (hmultiplier : 1 ≤ settings.fundamentalRateLimitBackoffMultiplier)
    (h : StampedBy clock log) {limited : Row FundamentalFetchLog}
    (hsince : ((sinceOk log).filter isRateLimited).getLast? = some limited) :
    pausedUntil settings log now = .ok (expectedPause settings log now) ↔
      StampsTell settings log now := by
  have hcount := countConsecutiveRateLimits_add_tied h
  unfold pausedUntil expectedPause StampsTell
  dsimp only
  rw [hsince, mostRecentRateLimit_of_since h hsince]
  have hk : countConsecutiveRateLimits log = (sinceOk log).countP isRateLimited-tied log := by
    omega
  simp only [hk]
  by_cases hfloat : settings.fundamentalRateLimitBackoffMultiplier^
      ((sinceOk log).countP isRateLimited-tied log-1) < 2^1024
  · obtain ⟨seconds,hseconds,hcooldown⟩ := escalatedCooldownSeconds_eq hmultiplier hfloat
    rw [hseconds, and_iff_right hfloat]
    dsimp only
    rw [hcooldown, Except.ok.injEq]
    exact pause_eq_iff (cooldown_mono hbase hmultiplier (Nat.sub_le _ _))
  · obtain ⟨text,herror⟩ := escalatedCooldownSeconds_error hmultiplier hfloat
    rw [herror]
    exact iff_of_false (by rintro ⟨⟩) fun hboth => hfloat hboth.1

/-- With no rate limit recorded after the last success, a pause can only come from one that carries
the success's stamp. -/
theorem pause_iff_of_none (hmultiplier : 1 ≤ settings.fundamentalRateLimitBackoffMultiplier)
    (h : StampedBy clock log) (hsince : ((sinceOk log).filter isRateLimited).getLast? = none) :
    pausedUntil settings log now = .ok (expectedPause settings log now) ↔
      StampsTell settings log now := by
  have hzero : countConsecutiveRateLimits log = 0 := by
    have hcount := countConsecutiveRateLimits_add_tied h
    rw [List.countP_eq_length_filter, List.getLast?_eq_none_iff.mp hsince, List.length_nil] at hcount
    omega
  unfold pausedUntil expectedPause StampsTell
  dsimp only
  rw [hsince]
  rcases mostRecentRateLimit_of_none h hsince with ⟨hrecent,hnone⟩ | ⟨limited,ok,hlimited,hok,htie,hrecent⟩
  · rw [hrecent]
    refine iff_of_true rfl ?_
    intro limited ok hlimited hok htie
    exact absurd htie (hnone limited ok hlimited hok)
  · rw [hrecent, hzero]
    obtain ⟨seconds,hseconds,hcooldown⟩ := escalatedCooldownSeconds_eq (k := 0) hmultiplier
      (by rw [Nat.zero_sub, pow_zero]; exact one_lt_pow₀ (by norm_num) (by norm_num))
    simp only [hseconds, hcooldown, hlimited, hok]
    constructor
    · rintro hpause _ _ ⟨⟩ ⟨⟩ -
      split at hpause
      · cases hpause
      · rename_i hover
        exact Int.not_lt.mp hover
    · intro htell
      have hover : ¬ now < limited.val.requestedAt.add (cooldown settings 0) :=
        Int.not_lt.mpr (htell limited ok rfl rfl htie)
      rw [if_neg hover]

end Pause

/-- Over every history of transactions and at every moment, the pause computed from the stamps is the
one that the recorded attempts call for exactly when the stamps tell it. -/
theorem pausedUntil_eq_iff (settings : Settings)
    (hbase : 0 < settings.fundamentalRateLimitCooldownSeconds)
    (hmultiplier : 1 ≤ settings.fundamentalRateLimitBackoffMultiplier) (epoch : ℤ)
    (history : List FetchTransaction) (now : DateTime) :
    pausedUntil settings (recordedLog epoch history) now =
        .ok (expectedPause settings (recordedLog epoch history) now) ↔
      StampsTell settings (recordedLog epoch history) now := by
  have h : StampedBy _ (recordedLog epoch history) := (StampedBy.empty epoch).recordAll history
  cases hsince : ((sinceOk (recordedLog epoch history)).filter isRateLimited).getLast? with
  | some limited => exact pause_iff_of_since hbase hmultiplier h hsince
  | none => exact pause_iff_of_none hmultiplier h hsince

/-- A batch that ends in a rate limit after a success, and half an hour later a second rate limit. -/
def limitedTwice : List FetchTransaction :=
  [⟨0,[⟨1,.success,none⟩,⟨2,.rateLimited,some "Maximum weighted channel limit exceeded"⟩]⟩,
    ⟨1860000000,[⟨3,.rateLimited,some "Maximum weighted channel limit exceeded"⟩]⟩]

theorem pausedUntil_eq_iff_limitedTwice :
    pausedUntil {} (recordedLog 0 limitedTwice) ⟨4200000000,0⟩ =
        .ok (expectedPause {} (recordedLog 0 limitedTwice) ⟨4200000000,0⟩) ↔
      StampsTell {} (recordedLog 0 limitedTwice) ⟨4200000000,0⟩ :=
  pausedUntil_eq_iff {} (by norm_num) (by norm_num) 0 limitedTwice ⟨4200000000,0⟩

/-- The second rate limit calls for an hour; the first carries the success's stamp, so the queue waits
half an hour. -/
theorem limitedTwice_not_escalated : ¬ ∀ (settings : Settings) (epoch : ℤ)
    (history : List FetchTransaction) (now : DateTime),
    0 < settings.fundamentalRateLimitCooldownSeconds →
    1 ≤ settings.fundamentalRateLimitBackoffMultiplier →
    0 < settings.fundamentalRateLimitMaxCooldownSeconds →
      pausedUntil settings (recordedLog epoch history) now =
        .ok (expectedPause settings (recordedLog epoch history) now) := by
  intro h
  have heq := h {} 0 limitedTwice ⟨4200000000,0⟩ (by norm_num) (by norm_num) (by norm_num)
  have hpaused : pausedUntil {} (recordedLog 0 limitedTwice) ⟨4200000000,0⟩ = .ok none := by
    decide +kernel
  have hexpected : (expectedPause {} (recordedLog 0 limitedTwice) ⟨4200000000,0⟩).isSome = true := by
    decide +kernel
  rw [hpaused] at heq
  rw [← Except.ok.inj heq] at hexpected
  cases hexpected

end MarketScanner.Fundamentals
