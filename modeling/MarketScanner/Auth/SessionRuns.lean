import MarketScanner.Auth.PasswordReset
import MarketScanner.Auth.Sessions
import MarketScanner.Library.History

/-! What stands behind an authorized request, and how long a session lives. A step is inverted twice, for
the session store and for the requests; the runs are argued about through these two alone. -/
namespace MarketScanner.Auth
open MarketScanner.Library MarketScanner.Python MarketScanner.Admin

section Effects
variable (sessions : SessionStore)

/-- What a step does to the session store and to the number of tokens drawn. -/
inductive StoreStep (s : DashboardState) : DashboardEvent → LeaseStore SessionData ℤ → ℕ → Prop
  | keep (a : DashboardEvent) : StoreStep s a s.store s.issued
  | wait (seconds : ℕ) : StoreStep s (.wait seconds) (s.store.wait seconds) s.issued
  | create {j : ℕ} {user : Row Account} (h : s.logins[j]? = some (some user)) :
      StoreStep s (.create j) (s.store.put SessionData.token sessions.ttlSeconds
        ⟨s.issued,user.id,user.val.role⟩) (s.issued+1)
  | logout (token : ℕ) :
      StoreStep s (.logout (some token)) (s.store.drop SessionData.token token) s.issued
  | drop {i token : ℕ} (h : s.requests[i]? = some ⟨some token,.dropping⟩) :
      StoreStep s (.advance i) (s.store.drop SessionData.token token) s.issued
  | touch {i token : ℕ} {user : AuthenticatedUser}
      (h : s.requests[i]? = some ⟨some token,.touching user⟩) :
      StoreStep s (.advance i) (s.store.renew SessionData.token sessions.ttlSeconds token) s.issued
  | examine {j k : ℕ} {rest : List ℕ} {r : Revocation} (h : s.revocations[j]? = some r)
      (hqueue : r.sweep.queue = k::rest) :
      StoreStep s (.examine j) (s.store.dropIf SessionData.token (ofUser r.userId) k) s.issued

/-- What `get_current_user` does next. -/
inductive Move (s : DashboardState) (sessionId : Option ℕ) : RequestStage → RequestStage → Prop
  | noSession (h : sessionId.bind s.session? = none) :
      Move s sessionId .reading (.refused notAuthenticated)
  | session {token : ℕ} {data : SessionData} (hid : sessionId = some token)
      (h : s.session? token = some data) : Move s sessionId .reading (.loading data)
  | noUser (data : SessionData) : Move s sessionId (.loading data) .dropping
  | user {data : SessionData} {row : Row Account} (h : s.users.get? data.userId = some row)
      (hactive : row.val.status = .active) : Move s sessionId (.loading data) (.touching (.ofRow row))
  | dropped : Move s sessionId .dropping (.refused notAuthenticated)
  | touched (user : AuthenticatedUser) : Move s sessionId (.touching user) (.authorized user)

variable {sessions} {bcrypt : Bcrypt} {s t : DashboardState} {a : DashboardEvent}

/-- The step of one request: its own move, and what it does to the store. -/
theorem advanceRequest_cases {i : ℕ} {r : Request} (hi : s.requests[i]? = some r)
    (h : advanceRequest sessions s i r = some t) :
    ∃ stage, Move s r.sessionId r.stage stage ∧ t.requests = s.requests.set i { r with stage := stage } ∧
      StoreStep sessions s (.advance i) t.store t.issued ∧ t.logins = s.logins ∧
      t.users = s.users ∧ t.revocations = s.revocations := by
  obtain ⟨sessionId,stage⟩ := r
  cases stage with
  | reading =>
    cases sessionId with
    | none =>
      cases h
      exact ⟨_,.noSession rfl,rfl,.keep _,rfl,rfl,rfl⟩
    | some token =>
      simp only [advanceRequest] at h
      split at h
      · rename_i hnone
        cases h
        exact ⟨_,.noSession hnone,rfl,.keep _,rfl,rfl,rfl⟩
      · rename_i data hdata
        cases h
        exact ⟨_,.session rfl hdata,rfl,.keep _,rfl,rfl,rfl⟩
  | loading data =>
    simp only [advanceRequest] at h
    split at h
    · cases h
      exact ⟨_,.noUser data,rfl,.keep _,rfl,rfl,rfl⟩
    · rename_i user huser
      split_ifs at h with hactive
      · cases h
        exact ⟨_,.noUser data,rfl,.keep _,rfl,rfl,rfl⟩
      · cases h
        exact ⟨_,.user huser (not_not.mp hactive),rfl,.keep _,rfl,rfl,rfl⟩
  | dropping =>
    cases sessionId with
    | none => cases h
    | some token =>
      cases h
      exact ⟨_,.dropped,rfl,.drop hi,rfl,rfl,rfl⟩
  | touching user =>
    cases sessionId with
    | none => cases h
    | some token =>
      cases h
      exact ⟨_,.touched user,rfl,.touch hi,rfl,rfl,rfl⟩
  | authorized user => cases sessionId <;> cases h
  | refused e => cases sessionId <;> cases h

theorem store_step (h : (dashboardMachine bcrypt sessions).step s a = some t) :
    StoreStep sessions s a t.store t.issued := by
  cases a with
  | wait seconds => cases h; exact .wait seconds
  | change c => cases h; exact .keep _
  | login email password =>
    simp only [dashboardMachine] at h
    split at h <;> (cases h; exact .keep _)
  | create j =>
    obtain ⟨user,huser,rfl⟩ := Option.map_eq_some_iff.mp h
    exact .create (Option.join_eq_some_iff.mp huser)
  | logout sessionId =>
    cases sessionId with
    | none => cases h; exact .keep _
    | some token => cases h; exact .logout token
  | request sessionId => cases h; exact .keep _
  | advance i =>
    obtain ⟨r,hr,hstep⟩ := Option.bind_eq_some_iff.mp h
    obtain ⟨stage,-,-,hstore,-⟩ := advanceRequest_cases hr hstep
    exact hstore
  | revoke userId => cases h; exact .keep _
  | scan j keys exhausted =>
    obtain ⟨r,-,hscan⟩ := Option.bind_eq_some_iff.mp h
    unfold scanSessions at hscan
    split_ifs at hscan
    cases hscan
    exact .keep _
  | examine j =>
    obtain ⟨r,hr,hexamine⟩ := Option.bind_eq_some_iff.mp h
    unfold examineSession at hexamine
    split at hexamine
    · cases hexamine
    · rename_i k rest hqueue
      cases hexamine
      exact .examine hr hqueue

/-- A request was there before, has just come in, or has just moved. -/
theorem request_step (h : (dashboardMachine bcrypt sessions).step s a = some t) {i : ℕ} {r : Request}
    (hi : t.requests[i]? = some r) :
    s.requests[i]? = some r ∨
    (r.stage = .reading ∧ s.requests[i]? = none) ∨
    (a = .advance i ∧ ∃ stage, s.requests[i]? = some ⟨r.sessionId,stage⟩ ∧
      Move s r.sessionId stage r.stage) := by
  cases a with
  | wait seconds => cases h; exact .inl hi
  | change c => cases h; exact .inl hi
  | login email password =>
    simp only [dashboardMachine] at h
    split at h <;> (cases h; exact .inl hi)
  | create j =>
    obtain ⟨user,-,rfl⟩ := Option.map_eq_some_iff.mp h
    exact .inl hi
  | logout sessionId => cases sessionId <;> (cases h; exact .inl hi)
  | request sessionId =>
    cases h
    rcases Nat.lt_or_ge i s.requests.length with hlt | hge
    · rw [List.getElem?_append_left hlt] at hi
      exact .inl hi
    · rw [List.getElem?_append_right hge] at hi
      obtain rfl : (⟨sessionId,.reading⟩ : Request) = r := by
        rw [List.getElem?_singleton] at hi
        split_ifs at hi
        exact Option.some.inj hi
      exact .inr (.inl ⟨rfl,List.getElem?_eq_none hge⟩)
  | advance k =>
    obtain ⟨r₀,hr₀,hstep⟩ := Option.bind_eq_some_iff.mp h
    obtain ⟨stage,hmove,hrequests,-⟩ := advanceRequest_cases hr₀ hstep
    rw [hrequests] at hi
    by_cases hk : k = i
    · subst hk
      obtain ⟨hlt,-⟩ := List.getElem?_eq_some_iff.mp hr₀
      obtain rfl : { r₀ with stage := stage } = r := by simpa [hlt] using hi
      exact .inr (.inr ⟨rfl,r₀.stage,hr₀,hmove⟩)
    · rw [List.getElem?_set_ne hk] at hi
      exact .inl hi
  | revoke userId => cases h; exact .inl hi
  | scan j keys exhausted =>
    obtain ⟨r₀,-,hscan⟩ := Option.bind_eq_some_iff.mp h
    unfold scanSessions at hscan
    split_ifs at hscan
    cases hscan
    exact .inl hi
  | examine j =>
    obtain ⟨r₀,-,hexamine⟩ := Option.bind_eq_some_iff.mp h
    unfold examineSession at hexamine
    split at hexamine
    · cases hexamine
    · cases hexamine
      exact .inl hi

end Effects

section Traces
variable (bcrypt : Bcrypt) (sessions : SessionStore) (start : DashboardState)

/-- A login whose password is that of the row, which is active. -/
def LoggedIn (row : Row Account) (_ : List DashboardEvent) (t : DashboardState) (a : DashboardEvent)
    (_ : DashboardState) : Prop :=
  ∃ email password, a = .login email password ∧ authenticate bcrypt t.users email password = some row

/-- The session is created for a login before. -/
def SignedIn (data : SessionData) (pre : List DashboardEvent) (t : DashboardState) (a : DashboardEvent)
    (_ : DashboardState) : Prop :=
  ∃ j row, a = .create j ∧ t.logins[j]? = some (some row) ∧ data = ⟨t.issued,row.id,row.val.role⟩ ∧
    (dashboardMachine bcrypt sessions).Happened (LoggedIn bcrypt row) start pre

/-- Request `i` finds the session of its cookie, which was created before. -/
def SessionRead (i token : ℕ) (data : SessionData) (pre : List DashboardEvent) (t : DashboardState)
    (a : DashboardEvent) (_ : DashboardState) : Prop :=
  a = .advance i ∧ t.requests[i]? = some ⟨some token,.reading⟩ ∧ t.session? token = some data ∧
    (dashboardMachine bcrypt sessions).Happened (SignedIn bcrypt sessions start data) start pre

/-- Request `i`, which has found its session, finds the session's user, active. -/
def UserRead (i token : ℕ) (user : AuthenticatedUser) (pre : List DashboardEvent) (t : DashboardState)
    (a : DashboardEvent) (_ : DashboardState) : Prop :=
  a = .advance i ∧ ∃ data row, t.requests[i]? = some ⟨some token,.loading data⟩ ∧
    t.users.get? data.userId = some row ∧ row.val.status = .active ∧ user = .ofRow row ∧
    (dashboardMachine bcrypt sessions).Happened (SessionRead bcrypt sessions start i token data) start pre

/-- What has happened before a request is at a stage. -/
def StageTraced (as : List DashboardEvent) (i : ℕ) : Option ℕ → RequestStage → Prop
  | some token, .loading data =>
    (dashboardMachine bcrypt sessions).Happened (SessionRead bcrypt sessions start i token data) start as
  | some token, .touching user =>
    (dashboardMachine bcrypt sessions).Happened (UserRead bcrypt sessions start i token user) start as
  | some token, .authorized user =>
    (dashboardMachine bcrypt sessions).Happened (UserRead bcrypt sessions start i token user) start as
  | none, .loading _ => False
  | none, .touching _ => False
  | none, .authorized _ => False
  | _, _ => True

/-- Everything in the state goes back to a step that was taken. -/
structure Traced (as : List DashboardEvent) (s : DashboardState) : Prop where
  logins : ∀ row, some row ∈ s.logins →
    (dashboardMachine bcrypt sessions).Happened (LoggedIn bcrypt row) start as
  created : ∀ data ∈ s.store.live,
    (dashboardMachine bcrypt sessions).Happened (SignedIn bcrypt sessions start data) start as
  requests : ∀ i sessionId stage, s.requests[i]? = some ⟨sessionId,stage⟩ →
    StageTraced bcrypt sessions start as i sessionId stage

variable {bcrypt sessions start} {as : List DashboardEvent} {a : DashboardEvent} {s t : DashboardState}

theorem StageTraced.append {i : ℕ} {sessionId : Option ℕ} {stage : RequestStage}
    (h : StageTraced bcrypt sessions start as i sessionId stage) (bs : List DashboardEvent) :
    StageTraced bcrypt sessions start (as ++ bs) i sessionId stage := by
  cases sessionId <;> cases stage <;> first | exact h | exact Machine.Happened.append h bs

/-- A session that can be read could be read before, or has just been created. -/
theorem StoreStep.live {store : LeaseStore SessionData ℤ} {issued : ℕ}
    (h : StoreStep sessions s a store issued) {data : SessionData} (hdata : data ∈ store.live) :
    data ∈ s.store.live ∨ ∃ j user, a = .create j ∧ s.logins[j]? = some (some user) ∧
      data = ⟨s.issued,user.id,user.val.role⟩ ∧ issued = s.issued+1 := by
  cases h with
  | keep a => exact .inl hdata
  | wait seconds => exact .inl (LeaseStore.live_of_wait (by omega) hdata)
  | @create j user huser =>
    rcases LeaseStore.live_of_put hdata with rfl | hold
    · exact .inr ⟨j,user,rfl,huser,rfl,rfl⟩
    · exact .inl hold
  | logout token => exact .inl (LeaseStore.live_of_drop hdata).1
  | drop hi => exact .inl (LeaseStore.live_of_drop hdata).1
  | touch hi => exact .inl (LeaseStore.live_of_renew hdata)
  | examine hr hqueue => exact .inl (LeaseStore.live_of_dropIf hdata).1

/-- Only a login adds to the logins under way. -/
theorem login_step (h : (dashboardMachine bcrypt sessions).step s a = some t) {row : Row Account}
    (hrow : some row ∈ t.logins) : some row ∈ s.logins ∨
      ∃ email password, a = .login email password ∧ authenticate bcrypt s.users email password = some row := by
  cases a with
  | wait seconds => cases h; exact .inl hrow
  | change c => cases h; exact .inl hrow
  | login email password =>
    simp only [dashboardMachine] at h
    split at h
    · cases h
      exact .inl hrow
    · rename_i user huser
      cases h
      rcases List.mem_append.mp hrow with hold | hnew
      · exact .inl hold
      · obtain rfl : row = user := by simpa using hnew
        exact .inr ⟨email,password,rfl,huser⟩
  | create j =>
    obtain ⟨user,-,rfl⟩ := Option.map_eq_some_iff.mp h
    rcases List.mem_or_eq_of_mem_set hrow with hold | hnone
    · exact .inl hold
    · cases hnone
  | logout sessionId => cases sessionId <;> (cases h; exact .inl hrow)
  | request sessionId => cases h; exact .inl hrow
  | advance i =>
    obtain ⟨r,hr,hstep⟩ := Option.bind_eq_some_iff.mp h
    obtain ⟨-,-,-,-,hlogins,-⟩ := advanceRequest_cases hr hstep
    exact .inl (hlogins ▸ hrow)
  | revoke userId => cases h; exact .inl hrow
  | scan j keys exhausted =>
    obtain ⟨r,-,hscan⟩ := Option.bind_eq_some_iff.mp h
    unfold scanSessions at hscan
    split_ifs at hscan
    cases hscan
    exact .inl hrow
  | examine j =>
    obtain ⟨r,-,hexamine⟩ := Option.bind_eq_some_iff.mp h
    unfold examineSession at hexamine
    split at hexamine
    · cases hexamine
    · cases hexamine
      exact .inl hrow

theorem traced_start (users : Table Account) (clock : ℤ) :
    Traced bcrypt sessions start [] (dashboardStart users clock) := by
  constructor
  · intro row hrow
    cases hrow
  · intro data hdata
    cases hdata
  · intro i sessionId stage hi
    simp [dashboardStart] at hi

/-- The requests' part of one step: a request that moves has its past from the stage before. -/
theorem StageTraced.step (htraced : Traced bcrypt sessions start as s)
    (hrun : (dashboardMachine bcrypt sessions).Run start as s)
    (hstep : (dashboardMachine bcrypt sessions).step s a = some t) {i : ℕ} {sessionId : Option ℕ}
    {stage : RequestStage} (hi : t.requests[i]? = some ⟨sessionId,stage⟩) :
    StageTraced bcrypt sessions start (as ++ [a]) i sessionId stage := by
  rcases request_step hstep hi with hold | ⟨hreading,-⟩ | ⟨rfl,before,hbefore,hmove⟩
  · exact (htraced.requests i sessionId stage hold).append [a]
  · obtain rfl : stage = .reading := hreading
    cases sessionId <;> trivial
  · have hpast := htraced.requests i sessionId before hbefore
    cases hmove with
    | noSession hnone => cases sessionId <;> trivial
    | @session token data hid hdata =>
      obtain rfl : sessionId = some token := hid
      have hsigned := htraced.created data (LeaseStore.of_get? hdata).1
      exact Machine.happened_last hrun hstep ⟨rfl,hbefore,hdata,hsigned⟩
    | noUser data => cases sessionId <;> trivial
    | @user data row huser hactive =>
      cases sessionId with
      | none => exact hpast.elim
      | some token =>
        exact Machine.happened_last hrun hstep ⟨rfl,data,row,hbefore,huser,hactive,rfl,hpast⟩
    | dropped => cases sessionId <;> trivial
    | touched user =>
      cases sessionId with
      | none => exact hpast.elim
      | some token => exact Machine.Happened.append hpast _

theorem Traced.step (htraced : Traced bcrypt sessions start as s)
    (hrun : (dashboardMachine bcrypt sessions).Run start as s)
    (hstep : (dashboardMachine bcrypt sessions).step s a = some t) :
    Traced bcrypt sessions start (as ++ [a]) t := by
  constructor
  · intro row hrow
    rcases login_step hstep hrow with hold | hnew
    · exact (htraced.logins row hold).append [a]
    · exact Machine.happened_last hrun hstep hnew
  · intro data hdata
    rcases (store_step hstep).live hdata with hold | ⟨j,user,rfl,huser,rfl,-⟩
    · exact (htraced.created data hold).append [a]
    · have hlogin := htraced.logins user (List.mem_of_getElem? huser)
      exact Machine.happened_last hrun hstep ⟨j,user,rfl,huser,rfl,hlogin⟩
  · intro i sessionId stage hi
    exact StageTraced.step htraced hrun hstep hi

end Traces

section Authorized
variable {bcrypt : Bcrypt} {sessions : SessionStore} {users : Table Account} {clock : ℤ}
  {start : DashboardState} {as : List DashboardEvent} {s : DashboardState} {i token : ℕ}
  {sessionId : Option ℕ} {user admin : AuthenticatedUser}

/-- Request `i` finds its user an active administrator. -/
def AdminRead (i token : ℕ) (_ : List DashboardEvent) (t : DashboardState) (a : DashboardEvent)
    (_ : DashboardState) : Prop :=
  a = .advance i ∧ ∃ data row, t.requests[i]? = some ⟨some token,.loading data⟩ ∧
    t.users.get? data.userId = some row ∧ row.val.status = .active ∧ row.val.role = .admin

theorem adminRead_of_userRead
    (h : (dashboardMachine bcrypt sessions).Happened (UserRead bcrypt sessions start i token user) start as)
    (hadmin : requireAdmin user = .ok admin) :
    (dashboardMachine bcrypt sessions).Happened (AdminRead i token) start as := by
  refine h.imp fun pre t a u hpre hP => ?_
  obtain ⟨ha,data,row,hrequest,hget,hactive,rfl,-⟩ := hP
  unfold requireAdmin at hadmin
  split_ifs at hadmin with hrole
  exact ⟨ha,data,row,hrequest,hget,hactive,not_not.mp hrole⟩

/-- In every interleaving, a request is authorized only if it carried a cookie, found the cookie's
session, which was created for a login with the password of an active account, and after that found
the session's account still there and active; it acts under the role the account had at that read,
whatever role the session was created with, and so `require_admin` lets in administrators alone. -/
theorem authorized_traced
    (hrun : (dashboardMachine bcrypt sessions).Run (dashboardStart users clock) as s)
    (hi : s.requests[i]? = some ⟨sessionId,.authorized user⟩) :
    ∃ token, sessionId = some token ∧
      (dashboardMachine bcrypt sessions).Happened
        (UserRead bcrypt sessions (dashboardStart users clock) i token user)
        (dashboardStart users clock) as ∧
      ∀ admin, requireAdmin user = .ok admin → (dashboardMachine bcrypt sessions).Happened
        (AdminRead i token) (dashboardStart users clock) as := by
  have htraced : Traced bcrypt sessions (dashboardStart users clock) as s :=
    hrun.history (traced_start users clock) fun bs b u v hbs htraced hstep => htraced.step hbs hstep
  have hstage := htraced.requests i sessionId _ hi
  cases sessionId with
  | none => exact hstage.elim
  | some token => exact ⟨token,rfl,hstage,fun admin hadmin => adminRead_of_userRead hstage hadmin⟩

/-- A viewer logs in and sends a request with the cookie. -/
def loginThenRequest : List DashboardEvent :=
  [.login "viewer@test.com" "U*U",.create 0,.request (some 0),.advance 0,.advance 0,.advance 0]

def viewer : AuthenticatedUser := ⟨1,"viewer@test.com",.viewer⟩

theorem authorized_traced_loginThenRequest :
    ∃ s, (dashboardMachine sampleBcrypt {}).Run (dashboardStart oneUser 0) loginThenRequest s ∧
      ∃ token, some 0 = some token ∧
        (dashboardMachine sampleBcrypt {}).Happened
          (UserRead sampleBcrypt {} (dashboardStart oneUser 0) 0 token viewer)
          (dashboardStart oneUser 0) loginThenRequest ∧
        ∀ admin, requireAdmin viewer = .ok admin → (dashboardMachine sampleBcrypt {}).Happened
          (AdminRead 0 token) (dashboardStart oneUser 0) loginThenRequest := by
  obtain ⟨s,hrun,hs⟩ := Machine.exists_run_of_exec (dashboardMachine sampleBcrypt {})
    (dashboardStart oneUser 0) loginThenRequest
    (fun s => decide (s.requests[0]? = some (⟨some 0,.authorized viewer⟩ : Request))) (by decide +kernel)
  exact ⟨s,hrun,authorized_traced hrun (of_decide_eq_true hs)⟩

end Authorized
end MarketScanner.Auth
