import MarketScanner.Library.Transition
import MarketScanner.Notifications.Recovery
import MarketScanner.Python.Numerals

/-! The twice-daily digest of new alerts. A digest lists the alerts stamped within its lookback; the stamp of
an alert is the start of the transaction that creates it, which others see only once it commits. -/
namespace MarketScanner.Notifications
open MarketScanner.Library MarketScanner.Python MarketScanner.Alerts

/-! ### The text -/

structure DigestEntry where
  symbol : String
  alertCategory : Option String
  score : PyFloat

/-- `_IPO_CATEGORIES` and `_FNO_CATEGORIES`. -/
def ipoCategories : List String := ["IPO_PRE_BREAKOUT","IPO_BREAKOUT","IPO_MOMENTUM"]
def fnoCategories : List String := ["FNO_PRE_BREAKOUT","FNO_BREAKOUT","FNO_MOMENTUM"]

/-- `_CATEGORY_LABELS`. -/
def categoryLabels : List (String × String) :=
  [("IPO_PRE_BREAKOUT","IPO PRE-BREAKOUT"),("IPO_BREAKOUT","IPO BREAKOUT"),("IPO_MOMENTUM","IPO MOMENTUM"),
    ("FNO_PRE_BREAKOUT","F&O PRE-BREAKOUT"),("FNO_BREAKOUT","F&O BREAKOUT"),("FNO_MOMENTUM","F&O MOMENTUM")]

/-- `split_by_universe`. -/
def splitByUniverse (entries : List DigestEntry) : List DigestEntry × List DigestEntry :=
  (entries.filter fun e => e.alertCategory.any ipoCategories.contains,
    entries.filter fun e => e.alertCategory.any fnoCategories.contains)

/-- `f"{x:.1f}"`. -/
def format1 : PyFloat → String
  | .nan => "nan"
  | .inf negative => if negative then "-inf" else "inf"
  | .finite q => formatFixed 1 q

def entryLine (e : DigestEntry) : String :=
  let label := match categoryLabels.lookup (e.alertCategory.getD "") with
    | some label => label
    | none => match e.alertCategory with
      | none | some "" => "UNKNOWN"
      | some category => category
  "• " ++ e.symbol ++ " — " ++ label ++ " (score " ++ format1 e.score ++ ")"

/-- `sorted(entries, key=lambda e: e.score, reverse=True)`: equal scores stay in their order. -/
def ScoreOrder (a b : DigestEntry) : Prop := a.score.lt b.score = false

instance : DecidableRel ScoreOrder := fun _ _ => inferInstanceAs (Decidable (_ = false))

/-- `build_digest_text`. -/
def buildDigestText (entries : List DigestEntry) (universeLabel : String) : Option String :=
  if entries = [] then none
  else some (String.intercalate "\n"
    (("📊 " ++ universeLabel ++ " Breakout Digest — " ++ toString entries.length ++ " new signal(s)")::""::
      (entries.insertionSort ScoreOrder).map entryLine))

/-! ### The job -/

inductive DigestJob
  | morning | evening

namespace DigestJob

/-- `_MORNING_LOOKBACK_HOURS` and `_EVENING_LOOKBACK_HOURS`. -/
def lookback : DigestJob → TimeDelta
  | morning => .minutes (15*60)
  | evening => .minutes (9*60)

/-- The hour of the job's trigger. -/
def hour : DigestJob → ℤ
  | morning => 7
  | evening => 16

/-- When the trigger fires on a date, in a zone of fixed offset. -/
def fire (job : DigestJob) (offset : TimeDelta) (date : Date) : DateTime :=
  ⟨date.day*TimeDelta.day+TimeDelta.minutes (60*job.hour)-offset,offset⟩

/-- The job that fires next, and on which date. -/
def next : DigestJob × Date → DigestJob × Date
  | (morning,date) => (evening,date)
  | (evening,date) => (morning,⟨date.day+1⟩)

/-- Each job looks back to when the other one fires before it. -/
theorem fire_next_sub_lookback (offset : TimeDelta) (slot : DigestJob × Date) :
    ((next slot).1.fire offset (next slot).2).sub (next slot).1.lookback = slot.1.fire offset slot.2 := by
  obtain ⟨job,date⟩ := slot
  cases job with
  | morning =>
    simp only [next, fire, lookback, hour, DateTime.sub, TimeDelta.minutes, DateTime.mk.injEq, and_true]
    ring
  | evening =>
    simp only [next, fire, lookback, hour, DateTime.sub, TimeDelta.minutes, TimeDelta.day, DateTime.mk.injEq,
      and_true]
    ring

end DigestJob

/-- A digest that has begun: its own clock, and from when on it lists alerts. -/
structure BegunDigest where
  began : DateTime
  since : DateTime

/-- A digest that has read its alerts. -/
structure Digest extends BegunDigest where
  readAt : DateTime
  alerts : List (Row Alert)

/-- The clock, the committed alerts, the alerts of the transactions that are open, and the digests. -/
structure DigestWorld where
  clock : DateTime
  store : AlertStore
  drafts : List Alert
  begun : Option BegunDigest
  digests : List Digest

def DigestWorld.start (clock : DateTime) (store : AlertStore) : DigestWorld := ⟨clock,store,[],none,[]⟩

/-- Time passes; a transaction that creates an alert starts, commits or rolls back; a delivery writes a
status; a digest begins, and reads. -/
inductive DigestAction
  | tick (now : DateTime)
  | draft (alert : Alert)
  | commit (i : ℕ)
  | rollback (i : ℕ)
  | writeStatus (alertId : ℕ) (status : AlertStatus)
  | start (job : DigestJob)
  | read (scan : ScanOrder (Row Alert))

/-- The row is stamped with `now()`, which stands still during a transaction. -/
def stamped (alert : Alert) (now : DateTime) : Alert := { alert with createdAt := now }

/-- `_run_digest` up to the end of its session. -/
def BegunDigest.read (begun : BegunDigest) (scan : ScanOrder (Row Alert)) (clock : DateTime) (store : AlertStore) :
    Digest :=
  { begun with readAt := clock, alerts := AlertRepository.listCreatedSince scan store begun.since }

def digestRuns : Machine DigestWorld DigestAction where
  step w
    | .tick now => if w.clock ≤ now then some { w with clock := now } else none
    | .draft alert => some { w with drafts := w.drafts ++ [stamped alert w.clock] }
    | .commit i => w.drafts[i]?.map fun alert =>
      { w with drafts := w.drafts.eraseIdx i, store := (AlertRepository.create w.store alert).2 }
    | .rollback i => if i < w.drafts.length then some { w with drafts := w.drafts.eraseIdx i } else none
    | .writeStatus alertId status =>
      some { w with store := AlertRepository.updateStatus w.store alertId status }
    | .start job =>
      match w.begun with
      | some _ => none
      | none => some { w with begun := some ⟨w.clock,w.clock.sub job.lookback⟩ }
    | .read scan => w.begun.map fun begun =>
      { w with begun := none, digests := w.digests ++ [begun.read scan w.clock w.store] }

/-- The entries of a digest, with the symbols that are found. -/
def Digest.entries (symbols : ℕ → Option String) (d : Digest) : List DigestEntry :=
  d.alerts.map fun r =>
    { symbol := (symbols r.val.symbolId).getD (toString r.val.symbolId)
      alertCategory := alertCategory r.val
      score := r.val.score }

/-- `_run_digest` after its read: the messages, each with the provider that it is sent by. The market overview
that follows says nothing of alerts. -/
def Digest.messages (router : NotificationRouter) (symbols : ℕ → Option String) (d : Digest) :
    List (NotificationProvider × String) :=
  let (ipoEntries,fnoEntries) := splitByUniverse (d.entries symbols)
  ((buildDigestText ipoEntries "IPO").map fun text => (router.ipo,text)).toList ++
    ((buildDigestText fnoEntries "F&O").map fun text => (router.fno,text)).toList

/-- Three bots that can be told apart. -/
def threeBots : NotificationRouter := ⟨⟨"default","0"⟩,⟨"ipo","1"⟩,⟨"fno","2"⟩⟩

theorem resolve_ipo_iff (category : Option String) : category.any ipoCategories.contains = true ↔
    ∀ router : NotificationRouter, router.resolve category = router.ipo := by
  constructor
  · intro h router
    cases category with
    | none => cases h
    | some category => exact if_pos h
  · intro h
    have hbots := congrArg NotificationProvider.name (h threeBots)
    cases category with
    | none => exact absurd hbots (by decide)
    | some category =>
      by_contra hother
      change ¬(NotificationRouter.ipoAlertCategories.contains category = true) at hother
      rw [NotificationRouter.resolve, if_neg hother] at hbots
      split at hbots <;> exact absurd hbots (by decide)

theorem resolve_fno_iff (category : Option String) : category.any fnoCategories.contains = true ↔
    ∀ router : NotificationRouter, router.resolve category = router.fno := by
  constructor
  · intro h router
    cases category with
    | none => cases h
    | some category =>
      have hdisjoint : ∀ c ∈ fnoCategories, ¬(NotificationRouter.ipoAlertCategories.contains c = true) := by
        decide
      rw [NotificationRouter.resolve, if_neg (hdisjoint category (List.contains_iff_mem.mp h))]
      exact if_pos h
  · intro h
    have hbots := congrArg NotificationProvider.name (h threeBots)
    cases category with
    | none => exact absurd hbots (by decide)
    | some category =>
      by_contra hother
      change ¬(NotificationRouter.fnoAlertCategories.contains category = true) at hother
      rw [NotificationRouter.resolve, if_neg hother] at hbots
      split at hbots <;> exact absurd hbots (by decide)

/-- A digest writes of an alert to the bot that delivers alerts of its category, and of no other alerts. -/
theorem mem_splitByUniverse {entries : List DigestEntry} {e : DigestEntry} :
    (e ∈ (splitByUniverse entries).1 ↔
      e ∈ entries ∧ ∀ router : NotificationRouter, router.resolve e.alertCategory = router.ipo) ∧
    (e ∈ (splitByUniverse entries).2 ↔
      e ∈ entries ∧ ∀ router : NotificationRouter, router.resolve e.alertCategory = router.fno) := by
  rw [← resolve_ipo_iff, ← resolve_fno_iff]
  exact ⟨List.mem_filter,List.mem_filter⟩

/-! ### Which digests list an alert -/

/-- Each digest begins when the one before has read, and its lookback starts where that one began. -/
def Punctual (l : List Digest) : Prop :=
  l.IsChain fun a b => b.since.utc = a.began.utc ∧ a.readAt.utc < b.began.utc

/-- A digest of a job: it begins as the job fires, looks back as far as that one does, and has read before
the next one fires. -/
structure Digest.OnTime (offset : TimeDelta) (slot : DigestJob × Date) (d : Digest) : Prop where
  began : d.began.utc = (slot.1.fire offset slot.2).utc
  since : d.since = d.began.sub slot.1.lookback
  readAt : d.readAt.utc < ((DigestJob.next slot).1.fire offset (DigestJob.next slot).2).utc

/-- Digests that run as they are scheduled, each job in its turn, are punctual. -/
theorem punctual_of_onTime {offset : TimeDelta} {slot : DigestJob × Date} {l : List Digest}
    (h : ∀ k (hk : k < l.length), (l.get ⟨k,hk⟩).OnTime offset (DigestJob.next^[k] slot)) : Punctual l := by
  refine List.isChain_iff_getElem.mpr fun k hk => ?_
  have hfirst := h k (by omega)
  have hsecond := h (k+1) hk
  rw [Function.iterate_succ_apply'] at hsecond
  rw [List.get_eq_getElem] at hfirst hsecond
  constructor
  · have hback := congrArg DateTime.utc (DigestJob.fire_next_sub_lookback offset (DigestJob.next^[k] slot))
    rw [DateTime.utc_sub, ← hsecond.began, ← hfirst.began] at hback
    rw [hsecond.since, DateTime.utc_sub, hback]
  · rw [hsecond.began]
    exact hfirst.readAt

section Reports
variable {w w' u : DigestWorld} {a : DigestAction} {alert : Alert} {i : ℕ}

/-- Stamps are not ahead of the clock, lookbacks go back, and digests list rows that are there. -/
structure Sound (w : DigestWorld) : Prop where
  drafts : ∀ draft ∈ w.drafts, draft.createdAt.utc ≤ w.clock.utc
  begun : ∀ b ∈ w.begun, b.since.utc ≤ b.began.utc
  digests : ∀ d ∈ w.digests, d.since.utc ≤ d.began.utc ∧ ∀ r ∈ d.alerts, r.id < w.store.alerts.nextId

theorem Sound.step (h : Sound w) (hstep : digestRuns.step w a = some w') : Sound w' := by
  cases a with
  | tick now =>
    change (if _ then _ else _) = _ at hstep
    split at hstep
    · rename_i hle
      cases hstep
      exact ⟨fun draft hdraft => (h.drafts draft hdraft).trans hle,h.begun,h.digests⟩
    · cases hstep
  | draft alert =>
    cases hstep
    refine ⟨fun draft hdraft => ?_,h.begun,h.digests⟩
    rcases List.mem_append.mp hdraft with hold | hnew
    · exact h.drafts draft hold
    · rw [List.mem_singleton.mp hnew]
      exact le_rfl
  | commit i =>
    obtain ⟨alert,-,rfl⟩ := Option.map_eq_some_iff.mp hstep
    refine ⟨fun draft hdraft => h.drafts draft (List.mem_of_mem_eraseIdx hdraft),h.begun,fun d hd => ?_⟩
    exact ⟨(h.digests d hd).1,fun r hr => ((h.digests d hd).2 r hr).trans (Nat.lt_succ_self _)⟩
  | rollback i =>
    change (if _ then _ else _) = _ at hstep
    split at hstep
    · cases hstep
      exact ⟨fun draft hdraft => h.drafts draft (List.mem_of_mem_eraseIdx hdraft),h.begun,h.digests⟩
    · cases hstep
  | writeStatus alertId status =>
    cases hstep
    exact ⟨h.drafts,h.begun,h.digests⟩
  | start job =>
    cases hbegun : w.begun with
    | some b =>
      simp only [digestRuns, hbegun] at hstep
      cases hstep
    | none =>
      simp only [digestRuns, hbegun] at hstep
      cases hstep
      refine ⟨h.drafts,fun b hb => ?_,h.digests⟩
      obtain rfl := Option.some.inj hb
      have hback : 0 ≤ job.lookback := by cases job <;> decide
      exact Int.sub_le_self _ hback
  | read scan =>
    obtain ⟨begun,hbegun,rfl⟩ := Option.map_eq_some_iff.mp hstep
    refine ⟨h.drafts,by simp,fun d hd => ?_⟩
    rcases List.mem_append.mp hd with hold | hnew
    · exact h.digests d hold
    · rw [List.mem_singleton.mp hnew]
      refine ⟨h.begun begun hbegun,fun r hr => ?_⟩
      exact w.store.alerts.below r (List.mem_of_mem_filter (mem_orderBy.mp hr))

/-- The digest lists the alert with the id, with the status that it had when the digest read. -/
def Digest.Lists (d : Digest) (id : ℕ) (alert : Alert) : Prop :=
  ∃ r ∈ d.alerts, r.id = id ∧ ∃ status, r.val = alert.withStatus status

/-- An alert committed as row `id`, when the clock showed `committed` and the digests `before` had read: its
row stays, and later digests list it just when their lookback reaches its stamp. -/
structure Committed (id : ℕ) (alert : Alert) (committed : ℤ) (before : List Digest) (w : DigestWorld) :
    Prop where
  row : ∃ r ∈ w.store.alerts.rows, r.id = id ∧ ∃ status, r.val = alert.withStatus status
  clock : committed ≤ w.clock.utc
  digests : ∃ later, w.digests = before ++ later ∧
    ∀ d ∈ later, committed ≤ d.readAt.utc ∧ (d.Lists id alert ↔ d.since ≤ alert.createdAt)

/-- What a digest reads of a row that is there. -/
theorem lists_iff {id : ℕ} {store : AlertStore} {scan : ScanOrder (Row Alert)} {since : DateTime}
    (hrow : ∃ r ∈ store.alerts.rows, r.id = id ∧ ∃ status, r.val = alert.withStatus status) :
    (∃ r ∈ AlertRepository.listCreatedSince scan store since,
      r.id = id ∧ ∃ status, r.val = alert.withStatus status) ↔ since ≤ alert.createdAt := by
  have hmem (r : Row Alert) : r ∈ AlertRepository.listCreatedSince scan store since ↔
      r ∈ store.alerts.rows ∧ since ≤ r.val.createdAt := by
    rw [AlertRepository.listCreatedSince, mem_orderBy, List.mem_filter, decide_eq_true_eq]
  constructor
  · intro h
    obtain ⟨r,hr,-,status,hval⟩ := h
    have hsince := ((hmem r).mp hr).2
    rwa [hval] at hsince
  · intro hsince
    obtain ⟨r,hr,hid,status,hval⟩ := hrow
    refine ⟨r,(hmem r).mpr ⟨hr,?_⟩,hid,status,hval⟩
    rw [hval]
    exact hsince

theorem Committed.step {id : ℕ} {committed : ℤ} {before : List Digest}
    (h : Committed id alert committed before w) (hstep : digestRuns.step w a = some w') :
    Committed id alert committed before w' := by
  cases a with
  | tick now =>
    change (if _ then _ else _) = _ at hstep
    split at hstep
    · rename_i hle
      cases hstep
      exact ⟨h.row,h.clock.trans hle,h.digests⟩
    · cases hstep
  | draft alert =>
    cases hstep
    exact ⟨h.row,h.clock,h.digests⟩
  | commit i =>
    obtain ⟨other,-,rfl⟩ := Option.map_eq_some_iff.mp hstep
    obtain ⟨r,hr,hid⟩ := h.row
    exact ⟨⟨r,Table.mem_insert.mpr (Or.inl hr),hid⟩,h.clock,h.digests⟩
  | rollback i =>
    change (if _ then _ else _) = _ at hstep
    split at hstep
    · cases hstep
      exact ⟨h.row,h.clock,h.digests⟩
    · cases hstep
  | writeStatus alertId status =>
    cases hstep
    obtain ⟨r,hr,hid,old,hval⟩ := h.row
    refine ⟨⟨_,Table.mem_modifyWhere.mpr ⟨r,hr,rfl⟩,(Row.change_id _ _ _).trans hid,?_⟩,h.clock,h.digests⟩
    by_cases hq : (r.id == alertId) = true
    · rw [Row.change_of_true (q := (· == alertId)) hq, hval]
      exact ⟨status,rfl⟩
    · rw [Row.change_of_false (q := (· == alertId)) (by simpa using hq)]
      exact ⟨old,hval⟩
  | start job =>
    cases hbegun : w.begun with
    | some b =>
      simp only [digestRuns, hbegun] at hstep
      cases hstep
    | none =>
      simp only [digestRuns, hbegun] at hstep
      cases hstep
      exact ⟨h.row,h.clock,h.digests⟩
  | read scan =>
    obtain ⟨begun,-,rfl⟩ := Option.map_eq_some_iff.mp hstep
    obtain ⟨later,hlater,hlists⟩ := h.digests
    refine ⟨h.row,h.clock,later ++ [begun.read scan w.clock w.store],?_,fun d hd => ?_⟩
    · change w.digests ++ _ = _
      rw [hlater, List.append_assoc]
    · rcases List.mem_append.mp hd with hold | hnew
      · exact hlists d hold
      · rw [List.mem_singleton.mp hnew]
        exact ⟨h.clock,lists_iff h.row⟩

/-- Of punctual digests, each has read before the next begins, and a lookback starts where the digest
before began. -/
theorem Punctual.get {l : List Digest} (h : Punctual l) {k : ℕ} {d e : Digest} (hd : l[k]? = some d)
    (he : l[k+1]? = some e) : e.since.utc = d.began.utc ∧ d.readAt.utc < e.began.utc := by
  obtain ⟨hlt,he⟩ := List.getElem?_eq_some_iff.mp he
  obtain ⟨_,hd⟩ := List.getElem?_eq_some_iff.mp hd
  have hlink := List.isChain_iff_getElem.mp h k hlt
  rwa [hd, he] at hlink

theorem start_sound (clock : DateTime) (store : AlertStore) : Sound (.start clock store) := by
  constructor
  · exact fun draft h => absurd h List.not_mem_nil
  · exact fun b h => by cases h
  · exact fun d h => absurd h List.not_mem_nil

/-- A commit is seen by the digests that read after it. -/
theorem committed_of_commit (hsound : Sound w) (hdraft : w.drafts[i]? = some alert)
    (hcommit : digestRuns.step w (.commit i) = some w') :
    Sound w' ∧ alert.createdAt.utc ≤ w.clock.utc ∧
      Committed w.store.alerts.nextId alert w.clock.utc w.digests w' := by
  refine ⟨hsound.step hcommit,hsound.drafts alert (List.mem_of_getElem? hdraft),?_⟩
  obtain ⟨_,hother,rfl⟩ := Option.map_eq_some_iff.mp hcommit
  obtain rfl := Option.some.inj (hdraft.symm.trans hother)
  refine ⟨⟨_,Table.mem_insert.mpr (Or.inr rfl),rfl,alert.status,rfl⟩,le_rfl,[],?_,?_⟩
  · exact (List.append_nil _).symm
  · exact fun d h => absurd h List.not_mem_nil

/-- Whatever happens after a commit, the digests that list the alert are those that read later and whose
lookback reaches its stamp. -/
theorem lists_iff_of_commit {clock : DateTime} {store : AlertStore} {pre post : List DigestAction}
    (hpre : digestRuns.Run (.start clock store) pre w) (hdraft : w.drafts[i]? = some alert)
    (hcommit : digestRuns.step w (.commit i) = some w') (hpost : digestRuns.Run w' post u)
    {k : ℕ} {d : Digest} (hd : u.digests[k]? = some d) :
    (d.Lists w.store.alerts.nextId alert ↔ w.digests.length ≤ k ∧ d.since ≤ alert.createdAt) ∧
      (w.digests.length ≤ k → alert.createdAt.utc ≤ d.readAt.utc) ∧ d.since ≤ d.began := by
  have hsound : Sound w := hpre.stable (fun _ _ _ hs hstep => hs.step hstep) (start_sound clock store)
  obtain ⟨hsound',hstamp,hcommitted⟩ := committed_of_commit hsound hdraft hcommit
  obtain ⟨later,hlater,hlists⟩ :=
    (hpost.stable (fun _ _ _ hs hstep => Committed.step hs hstep) hcommitted).digests
  have hend : Sound u := hpost.stable (fun _ _ _ hs hstep => hs.step hstep) hsound'
  have hback := (hend.digests d (List.mem_of_getElem? hd)).1
  rw [hlater] at hd
  by_cases hk : w.digests.length ≤ k
  · rw [List.getElem?_append_right hk] at hd
    obtain ⟨hread,hlist⟩ := hlists d (List.mem_of_getElem? hd)
    exact ⟨hlist.trans (and_iff_right hk).symm,fun _ => hstamp.trans hread,hback⟩
  · rw [List.getElem?_append_left (by omega)] at hd
    refine ⟨iff_of_false ?_ fun h => hk h.1,fun h => absurd h hk,hback⟩
    -- the digest had read before the id was handed out
    intro h
    obtain ⟨r,hr,hid,-⟩ := h
    have hbelow := (hsound.digests d (List.mem_of_getElem? hd)).2 r hr
    omega

/-- The digests list an alert just when it is committed and their lookback reaches its stamp. Of punctual
digests, the one that is the first to read after the commit lists it, and the next one lists it again when it
was stamped after the first one had begun; an alert that the first one misses is on none. -/
theorem reported_exactly {clock : DateTime} {store : AlertStore} {pre post : List DigestAction}
    (hpre : digestRuns.Run (.start clock store) pre w) (hdraft : w.drafts[i]? = some alert)
    (hcommit : digestRuns.step w (.commit i) = some w') (hpost : digestRuns.Run w' post u) :
    let id := w.store.alerts.nextId
    let n := w.digests.length
    (∀ k d, u.digests[k]? = some d → (d.Lists id alert ↔ n ≤ k ∧ d.since ≤ alert.createdAt)) ∧
      (Punctual u.digests → ∀ k d, u.digests[k]? = some d →
        (d.Lists id alert ↔ (k = n ∧ d.since ≤ alert.createdAt) ∨
          ∃ e, k = n+1 ∧ u.digests[n]? = some e ∧ e.began ≤ alert.createdAt) ∧
        (d.Lists id alert → ∃ e, u.digests[n]? = some e ∧ e.Lists id alert)) := by
  intro id n
  have hall (k : ℕ) (d : Digest) (hd : u.digests[k]? = some d) :=
    lists_iff_of_commit hpre hdraft hcommit hpost hd
  refine ⟨fun k d hd => (hall k d hd).1,fun hpunctual k d hd => ?_⟩
  have hexists (j : ℕ) (hj : j ≤ k) : ∃ e, u.digests[j]? = some e := by
    have hlt := (List.getElem?_eq_some_iff.mp hd).1
    exact ⟨_,List.getElem?_eq_getElem (by omega : j < u.digests.length)⟩
  have htwice : d.Lists id alert ↔ (k = n ∧ d.since ≤ alert.createdAt) ∨
      ∃ e, k = n+1 ∧ u.digests[n]? = some e ∧ e.began ≤ alert.createdAt := by
    rw [(hall k d hd).1]
    constructor
    · intro h
      obtain ⟨hk,hsince⟩ := h
      obtain rfl | hk := hk.eq_or_lt
      · exact Or.inl ⟨rfl,hsince⟩
      obtain ⟨e,he⟩ := hexists (k-1) (by omega)
      have hbegan : d.since.utc = e.began.utc :=
        (hpunctual.get he (by rwa [Nat.sub_add_cancel (by omega)])).1
      obtain rfl | hlate : k = n+1 ∨ n+2 ≤ k := by omega
      · refine Or.inr ⟨e,rfl,he,?_⟩
        rw [DateTime.le_iff, ← hbegan]
        exact hsince
      · -- two digests later, the lookback starts after the commit
        obtain ⟨f,hf⟩ := hexists (k-2) (by omega)
        have hread := (hpunctual.get hf (by rwa [show k-2+1 = k-1 by omega])).2
        have hstamp := (hall (k-2) f hf).2.1 (by omega)
        rw [DateTime.le_iff] at hsince
        omega
    · intro h
      rcases h with ⟨rfl,hsince⟩ | ⟨e,rfl,he,hbegan⟩
      · exact ⟨le_rfl,hsince⟩
      · refine ⟨Nat.le_succ n,?_⟩
        rw [DateTime.le_iff, (hpunctual.get he hd).1]
        exact hbegan
  refine ⟨htwice,fun h => ?_⟩
  rcases htwice.mp h with ⟨rfl,-⟩ | ⟨e,-,he,hbegan⟩
  · exact ⟨d,hd,h⟩
  · obtain ⟨hlist,-,hback⟩ := hall n e he
    exact ⟨e,he,hlist.mpr ⟨le_rfl,Int.le_trans hback hbegan⟩⟩

end Reports

open NotificationManager (pendingAlert pendingStore) in
/-- An alert that is created while the evening digest is about to read, and that the next morning's digest
lists too. -/
theorem reported_exactly_twice :
    ∃ u, digestRuns.Run (.start ⟨0,0⟩ (pendingStore 1))
        ([.start .evening,.tick ⟨1000,0⟩,.draft (pendingAlert 1)] ++ .commit 0::[.read (ScanOrder.insertion _),
          .tick (.add ⟨0,0⟩ DigestJob.morning.lookback),.start .morning,.read (ScanOrder.insertion _)]) u ∧
      u.digests.length = 2 ∧ ∀ d ∈ u.digests, d.Lists 2 (stamped (pendingAlert 1) ⟨1000,0⟩) := by
  let w : DigestWorld := ⟨⟨1000,0⟩,pendingStore 1,[stamped (pendingAlert 1) ⟨1000,0⟩],
    some ⟨⟨0,0⟩,.sub ⟨0,0⟩ DigestJob.evening.lookback⟩,[]⟩
  have hpre : digestRuns.Run (.start ⟨0,0⟩ (pendingStore 1))
      [.start .evening,.tick ⟨1000,0⟩,.draft (pendingAlert 1)] w := Machine.run_iff_exec.mpr rfl
  obtain ⟨w',hcommit⟩ : ∃ w', digestRuns.step w (.commit 0) = some w' := ⟨_,rfl⟩
  obtain ⟨u,hpost,hu⟩ : ∃ u, digestRuns.Run w' [.read (ScanOrder.insertion _),
      .tick (.add ⟨0,0⟩ DigestJob.morning.lookback),.start .morning,.read (ScanOrder.insertion _)] u ∧
      u.digests.map (fun d => (d.began,d.since,d.readAt)) =
        [(⟨0,0⟩,.sub ⟨0,0⟩ DigestJob.evening.lookback,⟨1000,0⟩),
          (.add ⟨0,0⟩ DigestJob.morning.lookback,⟨0,0⟩,.add ⟨0,0⟩ DigestJob.morning.lookback)] := by
    cases hcommit
    exact ⟨_,Machine.run_iff_exec.mpr rfl,by decide +kernel⟩
  have hexact := (reported_exactly hpre rfl hcommit hpost).2
  obtain ⟨evening,_,hdigests,hevening,hrest⟩ := List.map_eq_cons_iff.mp hu
  obtain ⟨morning,_,rfl,hmorning,hnone⟩ := List.map_eq_cons_iff.mp hrest
  obtain rfl := List.map_eq_nil_iff.mp hnone
  simp only [Prod.mk.injEq] at hevening hmorning
  obtain ⟨hbegan,hsince,hread⟩ := hevening
  have hpunctual : Punctual [evening,morning] := by
    refine List.IsChain.cons_cons ⟨?_,?_⟩ (List.IsChain.singleton _)
    · rw [hmorning.2.1, hbegan]
    · rw [hread, hmorning.1]
      decide
  rw [hdigests] at hexact
  refine ⟨u,hpre.append (Machine.Run.cons hcommit hpost),by rw [hdigests]; rfl,fun d hd => ?_⟩
  rw [hdigests] at hd
  rcases List.mem_pair.mp hd with rfl | rfl
  · refine (hexact hpunctual 0 d rfl).1.mpr (Or.inl ⟨rfl,?_⟩)
    rw [hsince]
    decide
  · refine (hexact hpunctual 1 d rfl).1.mpr (Or.inr ⟨evening,rfl,rfl,?_⟩)
    rw [hbegan]
    decide

end MarketScanner.Notifications
