import MarketScanner.Auth.SessionRuns
import Mathlib.Data.Nat.Basic

/-! How long a session lives, and that it is over for good: nobody is authorized with a token that has
expired, was logged out, or was revoked. -/
namespace MarketScanner.Auth
open MarketScanner.Library MarketScanner.Python MarketScanner.Admin

variable {bcrypt : Bcrypt} {sessions : SessionStore} {s t u : DashboardState} {a : DashboardEvent}
  {as bs cs : List DashboardEvent} {token : ℕ} {data : SessionData}

/-- A step that leases the session anew: it is created, or a request of its own renews it. -/
def Leases (s : DashboardState) (data : SessionData) : DashboardEvent → Prop
  | .create j => ∃ user, s.logins[j]? = some (some user) ∧ data = ⟨s.issued,user.id,user.val.role⟩
  | .advance i => (∃ user, s.requests[i]? = some ⟨some data.token,.touching user⟩) ∧
      s.session? data.token = some data
  | _ => False

/-- A step that renews or deletes the session: a request with its token, its logout, or the revocation
of its user. -/
def Writes (data : SessionData) (s : DashboardState) : DashboardEvent → Prop
  | .logout sessionId => sessionId = some data.token
  | .advance i => s.requests[i]? = some ⟨some data.token,.dropping⟩ ∨
      ∃ user, s.requests[i]? = some ⟨some data.token,.touching user⟩
  | .examine j => ∃ r rest, s.revocations[j]? = some r ∧ r.sweep.queue = data.token::rest ∧
      ofUser r.userId data = true
  | _ => False

/-- Tokens are drawn once: a key has one lease at most, and none before it is drawn. -/
structure Drawn (s : DashboardState) : Prop where
  once : ∀ token, (s.store.leasesOf SessionData.token token).length ≤ 1
  before : ∀ data ∈ s.store.live, data.token < s.issued

theorem drawn_start (users : Table Account) (clock : ℤ) : Drawn (dashboardStart users clock) := by
  constructor
  · intro token
    simp [dashboardStart, LeaseStore.leasesOf]
  · intro data hdata
    cases hdata

theorem StoreStep.issued_le {store : LeaseStore SessionData ℤ} {issued : ℕ}
    (h : StoreStep sessions s a store issued) : s.issued ≤ issued := by
  cases h <;> omega

theorem StoreStep.once {store : LeaseStore SessionData ℤ} {issued : ℕ}
    (h : StoreStep sessions s a store issued)
    (hone : (s.store.leasesOf SessionData.token token).length ≤ 1) :
    (store.leasesOf SessionData.token token).length ≤ 1 := by
  cases h with
  | keep a => exact hone
  | wait seconds => exact hone
  | @create j user huser =>
    by_cases htoken : SessionData.token ⟨s.issued,user.id,user.val.role⟩ = token
    · subst htoken
      exact (congrArg List.length LeaseStore.holds_put).le
    · rwa [LeaseStore.leasesOf_put_of_ne htoken]
  | logout k =>
    rw [LeaseStore.leasesOf_drop]
    split_ifs
    · simp
    · exact hone
  | drop hi =>
    rw [LeaseStore.leasesOf_drop]
    split_ifs
    · simp
    · exact hone
  | touch hi =>
    rw [LeaseStore.leasesOf_renew]
    split_ifs
    · simpa using hone
    · exact hone
  | examine hr hqueue =>
    rw [LeaseStore.leasesOf_dropIf]
    split_ifs
    · exact (List.length_filter_le _ _).trans hone
    · exact hone

theorem Drawn.step (h : Drawn s) (hstep : (dashboardMachine bcrypt sessions).step s a = some t) :
    Drawn t := by
  have hstore := store_step hstep
  constructor
  · intro token
    exact hstore.once (h.once token)
  · intro data hdata
    rcases hstore.live hdata with hold | ⟨j,user,-,-,rfl,hissued⟩
    · exact (h.before data hold).trans_le hstore.issued_le
    · rw [hissued]
      exact Nat.lt_succ_self _

theorem drawn_of_run {users : Table Account} {clock : ℤ}
    (h : (dashboardMachine bcrypt sessions).Run (dashboardStart users clock) as s) : Drawn s :=
  h.stable (fun _ _ _ hI hstep => Drawn.step hI hstep) (drawn_start users clock)

/-- What is live was live before or is drawn since. -/
theorem live_of_run (h : (dashboardMachine bcrypt sessions).Run s as t) :
    s.issued ≤ t.issued ∧ ∀ e ∈ t.store.live, e ∈ s.store.live ∨ s.issued ≤ e.token := by
  induction h with
  | nil s => exact ⟨le_refl _,fun e he => .inl he⟩
  | cons step tail ih =>
    have hstore := store_step step
    refine ⟨hstore.issued_le.trans ih.1,fun e he => ?_⟩
    rcases ih.2 e he with hold | hnew
    · rcases hstore.live hold with hfirst | ⟨j,user,-,-,rfl,-⟩
      · exact .inl hfirst
      · exact .inr (le_refl _)
    · exact .inr (hstore.issued_le.trans hnew)

theorem gone_of_run (h : (dashboardMachine bcrypt sessions).Run s as t) (hissued : token < s.issued)
    (hgone : s.session? token = none) : t.session? token = none := by
  refine LeaseStore.get?_eq_none_iff.mpr fun e he htoken => ?_
  rcases (live_of_run h).2 e he with hold | hnew
  · exact LeaseStore.get?_eq_none_iff.mp hgone e hold htoken
  · omega

/-- A request that has not read a dead session is not let in by it, however long it waits. -/
theorem not_authorized_of_gone {i : ℕ} {user : AuthenticatedUser} (hissued : token < s.issued)
    (hgone : s.session? token = none)
    (hi : ∀ stage, s.requests[i]? = some ⟨some token,stage⟩ → stage = .reading)
    (h : (dashboardMachine bcrypt sessions).Run s as t) :
    t.requests[i]? ≠ some ⟨some token,.authorized user⟩ := by
  -- the request stays where it is or is refused, since the token stays dead
  have hinvariant : token < t.issued ∧ t.session? token = none ∧ ∀ stage,
      t.requests[i]? = some ⟨some token,stage⟩ → stage = .reading ∨ ∃ e, stage = .refused e := by
    refine h.stable (I := fun s => token < s.issued ∧ s.session? token = none ∧ ∀ stage,
      s.requests[i]? = some ⟨some token,stage⟩ → stage = .reading ∨ ∃ e, stage = .refused e) ?_
      ⟨hissued,hgone,fun stage hstage => .inl (hi stage hstage)⟩
    rintro s a t ⟨hissued,hgone,hrequests⟩ hstep
    refine ⟨hissued.trans_le (store_step hstep).issued_le,
      gone_of_run (Machine.Run.single hstep) hissued hgone,fun stage hstage => ?_⟩
    rcases request_step hstep hstage with hold | ⟨hreading,-⟩ | ⟨-,before,hbefore,hmove⟩
    · exact hrequests stage hold
    · exact .inl hreading
    · rcases hrequests before hbefore with rfl | ⟨e,rfl⟩
      · cases hmove with
        | noSession hnone => exact .inr ⟨_,rfl⟩
        | session hid hdata =>
          obtain rfl := Option.some.inj hid
          rw [hgone] at hdata
          cases hdata
      · cases hmove
  intro hauthorized
  rcases hinvariant.2.2 _ hauthorized with h | ⟨e,h⟩ <;> cases h

/-- A lease stands until a step writes the session. -/
theorem StoreStep.holds {store : LeaseStore SessionData ℤ} {issued : ℕ} {d : ℤ}
    (h : StoreStep sessions s a store issued) (hissued : data.token < s.issued)
    (hholds : s.store.Holds SessionData.token data.token data d) (hquiet : ¬Writes data s a) :
    store.Holds SessionData.token data.token data d := by
  cases h with
  | keep a => exact hholds
  | wait seconds => exact hholds
  | @create j user huser =>
    have hne : SessionData.token ⟨s.issued,user.id,user.val.role⟩ ≠ data.token := Nat.ne_of_gt hissued
    rwa [LeaseStore.Holds, LeaseStore.leasesOf_put_of_ne hne]
  | logout k =>
    have hne : k ≠ data.token := fun hk => hquiet (congrArg some hk)
    rwa [LeaseStore.Holds, LeaseStore.leasesOf_drop, if_neg hne]
  | @drop i k hi =>
    have hne : k ≠ data.token := by
      rintro rfl
      exact hquiet (.inl hi)
    rwa [LeaseStore.Holds, LeaseStore.leasesOf_drop, if_neg hne]
  | @touch i k user hi =>
    have hne : k ≠ data.token := by
      rintro rfl
      exact hquiet (.inr ⟨user,hi⟩)
    rwa [LeaseStore.Holds, LeaseStore.leasesOf_renew, if_neg hne]
  | @examine j k rest r hr hqueue =>
    rw [LeaseStore.Holds, LeaseStore.leasesOf_dropIf]
    split_ifs with hk
    · subst hk
      have hother : ofUser r.userId data = false := by
        by_contra hown
        exact hquiet ⟨r,rest,hr,hqueue,by simpa using hown⟩
      rw [show s.store.leasesOf SessionData.token data.token = [⟨data,d⟩] from hholds]
      simp [hother]
    · exact hholds

/-- A step that leases the session leaves it with a whole lease. -/
theorem holds_of_leases (hdrawn : Drawn s) (hlease : Leases s data a)
    (hstep : (dashboardMachine bcrypt sessions).step s a = some t) :
    t.store.Holds SessionData.token data.token data (s.store.clock+sessions.ttlSeconds) ∧
      data.token < t.issued := by
  cases a with
  | create j =>
    obtain ⟨user,huser,rfl⟩ := hlease
    obtain ⟨user',huser',rfl⟩ := Option.map_eq_some_iff.mp hstep
    obtain rfl : user = user' := by simpa [huser] using huser'
    exact ⟨LeaseStore.holds_put,Nat.lt_succ_self _⟩
  | advance i =>
    obtain ⟨⟨user,hi⟩,hdata⟩ := hlease
    simp only [dashboardMachine, hi, Option.bind_some, advanceRequest, Option.some.injEq] at hstep
    subst hstep
    obtain ⟨d,hd,hclock⟩ := LeaseStore.exists_holds (hdrawn.once data.token) hdata
    exact ⟨hd.renew hclock,hdrawn.before data (LeaseStore.of_get? hdata).1⟩
  | _ => exact hlease.elim

/-- Sliding expiry, exactly: a session that is created or renewed, and then neither renewed nor deleted,
can be read for as long as its time to live and no longer. Logins, requests and revocations of other
users, and other sessions of the same user, neither shorten nor lengthen it. -/
theorem session_lives_exactly {users : Table Account} {clock : ℤ}
    (hrun : (dashboardMachine bcrypt sessions).Run (dashboardStart users clock) as s)
    (hlease : Leases s data a) (hstep : (dashboardMachine bcrypt sessions).step s a = some t)
    (hlater : (dashboardMachine bcrypt sessions).Run t bs u)
    (hquiet : (dashboardMachine bcrypt sessions).Steps (fun s a _ => ¬Writes data s a) t bs) :
    u.session? data.token =
      if u.store.clock < s.store.clock+sessions.ttlSeconds then some data else none := by
  have hheld := holds_of_leases (drawn_of_run hrun) hlease hstep
  have hlast := hlater.invariant (fun s a t hI hG hst =>
    have hstore := store_step hst
    (⟨hstore.holds hI.2 hI.1 hG,hI.2.trans_le hstore.issued_le⟩ :
      t.store.Holds SessionData.token data.token data _ ∧ data.token < t.issued)) hquiet hheld
  exact hlast.1.get?

def viewerRow : Row Account :=
  ⟨1,{ email := "viewer@test.com"
       passwordHash := "$2a$05$CCCCCCCCCCCCCCCCCCCCC.E5YPO9kmyuRGyh0XouQYb4YMJKvyOeW"
       role := .viewer
       status := .active
       mustChangePassword := false
       lastLoginAt := none }⟩

theorem session_lives_exactly_until_expiry :
    ∃ s t u, (dashboardMachine sampleBcrypt {}).Run (dashboardStart oneUser 0)
        [.login "viewer@test.com" "U*U"] s ∧
      (dashboardMachine sampleBcrypt {}).step s (.create 0) = some t ∧
      (dashboardMachine sampleBcrypt {}).Run t [.wait 28800] u ∧
      u.session? 0 =
        if u.store.clock < s.store.clock+({} : SessionStore).ttlSeconds then some ⟨0,1,.viewer⟩ else none := by
  obtain ⟨s,hrun,hs⟩ := Machine.exists_run_of_exec (dashboardMachine sampleBcrypt {})
    (dashboardStart oneUser 0) [.login "viewer@test.com" "U*U"]
    (fun s => decide (s.logins = [some viewerRow] ∧ s.issued = 0)) (by decide +kernel)
  obtain ⟨hlogins,hissued⟩ := of_decide_eq_true hs
  have hstep : (dashboardMachine sampleBcrypt {}).step s (.create 0) =
      some (createSession {} s 0 viewerRow) := by
    simp [dashboardMachine, hlogins]
  have hlease : Leases s ⟨0,1,.viewer⟩ (.create 0) := ⟨viewerRow,by simp [hlogins],by rw [hissued]; rfl⟩
  have hlater : (dashboardMachine sampleBcrypt {}).Run (createSession {} s 0 viewerRow) [.wait 28800] _ :=
    Machine.Run.single rfl
  exact ⟨s,_,_,hrun,hstep,hlater,
    session_lives_exactly hrun hlease hstep hlater (Machine.Steps.cons rfl id (Machine.steps_nil _))⟩

section Revocations

/-- What a step does to a revocation at work; the store changes with it when it examines a key. -/
inductive SweepStep (s : DashboardState) (r : Revocation) (t : DashboardState) : Sweep ℕ → Prop
  | keep : SweepStep s r t r.sweep
  | reply {keys : List ℕ} {exhausted : Bool} (hqueue : r.sweep.queue = [])
      (hallowed : Sweep.Allowed SessionData.token s.store.live r.sweep keys exhausted)
      (hstore : t.store = s.store) : SweepStep s r t (r.sweep.reply keys exhausted)
  | examine {k : ℕ} {rest : List ℕ} (hqueue : r.sweep.queue = k::rest)
      (hstore : t.store = s.store.dropIf SessionData.token (ofUser r.userId) k) :
      SweepStep s r t { r.sweep with queue := rest }

variable {j : ℕ} {r : Revocation}

/-- Only its own scans and examinations move a revocation. -/
theorem revocation_step (h : (dashboardMachine bcrypt sessions).step s a = some t)
    (hj : s.revocations[j]? = some r) :
    ∃ r', t.revocations[j]? = some r' ∧ r'.userId = r.userId ∧ SweepStep s r t r'.sweep := by
  obtain ⟨hlt,-⟩ := List.getElem?_eq_some_iff.mp hj
  cases a with
  | wait seconds => cases h; exact ⟨r,hj,rfl,.keep⟩
  | change c => cases h; exact ⟨r,hj,rfl,.keep⟩
  | login email password =>
    simp only [dashboardMachine] at h
    split at h <;> (cases h; exact ⟨r,hj,rfl,.keep⟩)
  | create k =>
    obtain ⟨user,-,rfl⟩ := Option.map_eq_some_iff.mp h
    exact ⟨r,hj,rfl,.keep⟩
  | logout sessionId => cases sessionId <;> (cases h; exact ⟨r,hj,rfl,.keep⟩)
  | request sessionId => cases h; exact ⟨r,hj,rfl,.keep⟩
  | advance i =>
    obtain ⟨r₀,hr₀,hstep⟩ := Option.bind_eq_some_iff.mp h
    obtain ⟨stage,-,-,-,-,-,hrevocations⟩ := advanceRequest_cases hr₀ hstep
    exact ⟨r,hrevocations ▸ hj,rfl,.keep⟩
  | revoke userId =>
    cases h
    refine ⟨r,?_,rfl,.keep⟩
    rw [List.getElem?_append_left hlt]
    exact hj
  | scan k keys exhausted =>
    obtain ⟨r₀,hr₀,hscan⟩ := Option.bind_eq_some_iff.mp h
    unfold scanSessions at hscan
    split_ifs at hscan with hallowed
    cases hscan
    by_cases hk : k = j
    · subst hk
      obtain rfl : r = r₀ := by simpa [hj] using hr₀
      exact ⟨_,List.getElem?_set_self hlt,rfl,.reply hallowed.1 hallowed.2.2 rfl⟩
    · exact ⟨r,(List.getElem?_set_ne hk).trans hj,rfl,.keep⟩
  | examine k =>
    obtain ⟨r₀,hr₀,hexamine⟩ := Option.bind_eq_some_iff.mp h
    unfold examineSession at hexamine
    split at hexamine
    · cases hexamine
    · rename_i key rest hqueue
      cases hexamine
      by_cases hk : k = j
      · subst hk
        obtain rfl : r = r₀ := by simpa [hj] using hr₀
        exact ⟨_,List.getElem?_set_self hlt,rfl,.examine hqueue rfl⟩
      · exact ⟨r,(List.getElem?_set_ne hk).trans hj,rfl,.keep⟩

/-- A revocation at work covers its user's sessions, and knows no token that is still to be drawn. -/
structure Sweeping (token : ℕ) (s : DashboardState) (r : Revocation) : Prop where
  known : token ∈ r.sweep.known
  covers : Sweep.Covers SessionData.token (ofUser r.userId) s.store.live r.sweep
  drawn : ∀ k, k ∈ r.sweep.known ∨ k ∈ r.sweep.returned → k < s.issued

theorem Sweeping.step {r' : Revocation} (h : Sweeping token s r) (hdrawn : Drawn s)
    (hstep : (dashboardMachine bcrypt sessions).step s a = some t) (huser : r'.userId = r.userId)
    (hsweep : SweepStep s r t r'.sweep) : Sweeping token t r' := by
  have hstore := store_step hstep
  have hissued := hstore.issued_le
  obtain ⟨userId,sweep⟩ := r'
  obtain rfl : userId = r.userId := huser
  cases hsweep with
  | keep =>
    refine ⟨h.known,?_,fun k hk => (h.drawn k hk).trans_le hissued⟩
    by_cases hnew : ∃ data ∈ t.store.live, data ∉ s.store.live
    · -- a session created meanwhile has a token the sweep has not met
      obtain ⟨data,hdata,hold⟩ := hnew
      rcases hstore.live hdata with hlive | ⟨j,user,rfl,huser,rfl,-⟩
      · exact absurd hlive hold
      · have hfresh (hk : s.issued ∈ r.sweep.known ∨ s.issued ∈ r.sweep.returned) : False :=
          absurd (h.drawn _ hk) (Nat.lt_irrefl _)
        refine (h.covers.insert (e := ⟨s.issued,user.id,user.val.role⟩) (fun hk => hfresh (.inl hk))
          fun hk => hfresh (.inr hk)).subset fun e he => ?_
        rcases hstore.live he with hlive | ⟨j',user',ha,huser',rfl,-⟩
        · exact List.mem_append_left _ hlive
        · obtain rfl : j = j' := by simpa using ha
          obtain rfl : user = user' := by simpa [huser] using huser'
          exact List.mem_append_right _ (List.mem_singleton_self _)
    · exact h.covers.subset fun e he => by_contra fun hold => hnew ⟨e,he,hold⟩
  | reply hqueue hallowed hsame =>
    refine ⟨h.known,?_,?_⟩
    · rw [hsame]
      exact h.covers.reply hqueue hallowed
    · rintro k (hk | hk)
      · exact (h.drawn k (.inl hk)).trans_le hissued
      · rcases List.mem_append.mp hk with hold | hnew
        · exact (h.drawn k (.inr hold)).trans_le hissued
        · obtain ⟨data,hdata,rfl⟩ := List.mem_map.mp (hallowed.1 k hnew)
          exact (hdrawn.before data hdata).trans_le hissued
  | examine hqueue hdrop =>
    refine ⟨h.known,?_,fun k hk => (h.drawn k hk).trans_le hissued⟩
    rw [hdrop]
    exact (h.covers.examine hqueue).subset fun e he => Sweep.mem_examine.mpr (LeaseStore.live_of_dropIf he)

/-- The revocation of a user who holds the token is followed along a run. -/
theorem sweeping_of_run {userId : ℕ} (hdrawn : Drawn s) (hdata : s.session? token = some data)
    (hrevoke : (dashboardMachine bcrypt sessions).step s (.revoke userId) = some t)
    (h : (dashboardMachine bcrypt sessions).Run t as u) :
    ∃ r, u.revocations[s.revocations.length]? = some r ∧ r.userId = userId ∧ Sweeping token u r := by
  have hstart : ∃ r, t.revocations[s.revocations.length]? = some r ∧ r.userId = userId ∧
      Sweeping token t r := by
    cases hrevoke
    refine ⟨_,List.getElem?_concat_length,rfl,?_,Sweep.covers_start _,?_⟩
    · obtain ⟨hlive,rfl⟩ := LeaseStore.of_get? hdata
      exact List.mem_map_of_mem hlive
    · rintro k (hk | hk)
      · obtain ⟨e,he,rfl⟩ := List.mem_map.mp hk
        exact hdrawn.before e he
      · cases hk
  refine (h.stable (I := fun v => Drawn v ∧ ∃ r, v.revocations[s.revocations.length]? = some r ∧
    r.userId = userId ∧ Sweeping token v r) ?_ ⟨hdrawn.step hrevoke,hstart⟩).2
  rintro v a w ⟨hv,r,hr,huser,hsweeping⟩ hstep
  obtain ⟨r',hr',huser',hsweep⟩ := revocation_step hstep hr
  exact ⟨hv.step hstep,r',hr',huser'.trans huser,hsweeping.step hv hstep huser' hsweep⟩

/-- A token of one lease that is live later is live with the session it had. -/
theorem same_session (hissued : token < s.issued) (hdata : ∀ e ∈ s.store.live, e.token = token → e = data)
    (h : (dashboardMachine bcrypt sessions).Run s as t) : ∀ e ∈ t.store.live, e.token = token → e = data := by
  intro e he htoken
  rcases (live_of_run h).2 e he with hold | hnew
  · exact hdata e hold htoken
  · omega

/-- Once the revocation of a user is done, every session the user had as it was taken is over for good,
whatever runs beside it: no request that had not read such a session by then is authorized by it. -/
theorem revoked_never_authorized {users : Table Account} {clock : ℤ} {v : DashboardState} {i : ℕ}
    (hrun : (dashboardMachine bcrypt sessions).Run (dashboardStart users clock) as s)
    (hdata : s.session? token = some data)
    (hrevoke : (dashboardMachine bcrypt sessions).step s (.revoke data.userId) = some t)
    (hwork : (dashboardMachine bcrypt sessions).Run t bs u)
    (hdone : ∀ r, u.revocations[s.revocations.length]? = some r → r.Done)
    (hi : ∀ stage, u.requests[i]? = some ⟨some token,stage⟩ → stage = .reading)
    (hlater : (dashboardMachine bcrypt sessions).Run u cs v) :
    v.session? token = none ∧ ∀ user, v.requests[i]? ≠ some ⟨some token,.authorized user⟩ := by
  have hdrawn := drawn_of_run hrun
  obtain ⟨hlive,htoken⟩ := LeaseStore.of_get? hdata
  have hissued : token < s.issued := htoken ▸ hdrawn.before data hlive
  have hfollowed : (dashboardMachine bcrypt sessions).Run s (.revoke data.userId::bs) u := .cons hrevoke hwork
  have hissued' : token < u.issued := hissued.trans_le (live_of_run hfollowed).1
  obtain ⟨r,hr,huser,hsweeping⟩ := sweeping_of_run hdrawn hdata hrevoke hwork
  obtain ⟨hqueue,hexhausted⟩ := hdone r hr
  have hgone : u.session? token = none := by
    refine LeaseStore.get?_eq_none_iff.mpr fun e he hkey => ?_
    have hsame : e = data := by
      obtain ⟨d,hd,-⟩ := LeaseStore.exists_holds (hdrawn.once token) hdata
      refine same_session hissued (fun e he hkey => ?_) hfollowed e he hkey
      obtain ⟨d',hd',-⟩ := LeaseStore.mem_live.mp he
      have hmem : (⟨e,d'⟩ : Lease SessionData ℤ) ∈ s.store.leasesOf SessionData.token token :=
        List.mem_filter.mpr ⟨hd',by simpa using hkey⟩
      rw [show s.store.leasesOf SessionData.token token = [⟨data,d⟩] from hd] at hmem
      exact congrArg Lease.entry (List.mem_singleton.mp hmem)
    subst hsame
    have hdoomed : ofUser r.userId e = true := by simp [ofUser, huser]
    have hmissed := (hsweeping.covers.of_done hqueue hexhausted he hdoomed).1
    exact hmissed (hkey ▸ hsweeping.known)
  exact ⟨gone_of_run hlater hissued' hgone,fun user => not_authorized_of_gone hissued' hgone hi hlater⟩

/-- The viewer's sessions are revoked, and the cookie is sent again. -/
theorem revoked_never_authorized_viewer :
    ∃ s t u v, (dashboardMachine sampleBcrypt {}).Run (dashboardStart oneUser 0)
        [.login "viewer@test.com" "U*U",.create 0] s ∧
      (dashboardMachine sampleBcrypt {}).step s (.revoke 1) = some t ∧
      (dashboardMachine sampleBcrypt {}).Run t [.scan 0 [0] true,.examine 0] u ∧
      (dashboardMachine sampleBcrypt {}).Run u [.request (some 0),.advance 0] v ∧
      v.session? 0 = none ∧ ∀ user, v.requests[0]? ≠ some ⟨some 0,.authorized user⟩ := by
  obtain ⟨s,hrun,hs⟩ := Machine.exists_run_of_exec (dashboardMachine sampleBcrypt {})
    (dashboardStart oneUser 0) [.login "viewer@test.com" "U*U",.create 0]
    (fun s => decide (s.session? 0 = some ⟨0,1,.viewer⟩ ∧ s.revocations = []) &&
      ((dashboardMachine sampleBcrypt {}).step s (.revoke 1)).any fun (t : DashboardState) =>
        ((dashboardMachine sampleBcrypt {}).exec t [.scan 0 [0] true,.examine 0]).any fun (u : DashboardState) =>
          decide (u.revocations = [(⟨1,⟨[0],[0],[],true⟩⟩ : Revocation)] ∧ u.requests = ([] : List Request)) &&
            ((dashboardMachine sampleBcrypt {}).exec u [.request (some 0),.advance 0]).isSome)
    (by decide +kernel)
  simp only [Bool.and_eq_true, decide_eq_true_eq, Option.any_eq_true, Option.isSome_iff_exists] at hs
  obtain ⟨⟨hdata,hnone⟩,t,hrevoke,u,hwork,⟨hdone,hrequests⟩,v,hlater⟩ := hs
  rw [← Machine.run_iff_exec] at hwork hlater
  refine ⟨s,t,u,v,hrun,hrevoke,hwork,hlater,
    revoked_never_authorized hrun hdata hrevoke hwork (fun r hr => ?_) (by simp [hrequests]) hlater⟩
  rw [hdone, hnone] at hr
  obtain rfl : (⟨1,⟨[0],[0],[],true⟩⟩ : Revocation) = r := by simpa using hr
  exact ⟨rfl,rfl⟩

end Revocations
end MarketScanner.Auth
