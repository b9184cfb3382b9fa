import MarketScanner.Auth.Login

/-! Whether a password reset ends every session that the old password has opened. The sessions are
deleted before the new hash is committed, and a login creates its session after its own commit. -/
namespace MarketScanner.Auth
open MarketScanner.Library MarketScanner.Python MarketScanner.Admin

section Steps
variable {bcrypt : Bcrypt} {request : ResetRequest} {s t : AuthState} {e : AuthEvent}

/-- The reset has not begun to delete sessions, or never will. -/
def ResetStage.isBefore : ResetStage → Bool
  | loading => true
  | writing => true
  | flushed => true
  | _ => false

/-- The reset has deleted the sessions it found and has not failed. -/
def ResetStage.hasDeleted : ResetStage → Bool
  | committing => true
  | completed => true
  | _ => false

/-- What a step does to the sessions, the logins and the reset. -/
inductive Effect (request : ResetRequest) (s : AuthState) : AuthEvent → AuthState → Prop
  | arrived (email password : String) (when : DateTime) :
      Effect request s (.login email password when)
        { s with logins := s.logins ++ [⟨email,password,when,.reading,false⟩] }
  | moved {e : AuthEvent} {i : ℕ} {login : Login} (get : s.logins[i]? = some login)
      (going : login.stage.isOver = false) (event : e = .abort i ∨
        e = .advance i ∧ ∀ user, login.stage ≠ .creating user)
      (stage : LoginStage) (early : Bool) (unfinished : ∀ userId, stage ≠ .finished userId)
      (users : Table Account) :
      Effect request s e { s.setLogin i { login with
          stage := stage
          early := early } with users := users }
  | created {i : ℕ} {login : Login} {user : Row Account} (get : s.logins[i]? = some login)
      (stage : login.stage = .creating user) :
      Effect request s (.advance i)
        { s.setLogin i { login with stage := .finished user.id } with
          sessions := s.sessions ++ [⟨i,user.id,user.val.role⟩] }
  | prepared (before : s.reset.isBefore = true) (stage : ResetStage)
      (after : stage.isBefore = true ∨ (∃ e, stage = .refused e) ∨ stage = .failed) :
      Effect request s .reset { s with reset := stage }
  | began (stage : s.reset = .flushed) :
      Effect request s .reset
        { s with reset := .deleting (Sweep.start SessionData.token s.sessions) }
  | replied {sweep : Sweep ℕ} {keys : List ℕ} {exhausted : Bool} (stage : s.reset = .deleting sweep)
      (queue : sweep.queue = [])
      (allowed : Sweep.Allowed SessionData.token s.sessions sweep keys exhausted) :
      Effect request s (.scan keys exhausted)
        { s with reset := .deleting (sweep.reply keys exhausted) }
  | examined {sweep : Sweep ℕ} {k : ℕ} {rest : List ℕ} (stage : s.reset = .deleting sweep)
      (queue : sweep.queue = k::rest) :
      Effect request s .reset { s with
        sessions := Sweep.examine SessionData.token (ofUser request.userId) k s.sessions
        reset := .deleting { sweep with queue := rest } }
  | ended {sweep : Sweep ℕ} (stage : s.reset = .deleting sweep) (queue : sweep.queue = [])
      (exhausted : sweep.exhausted = true) : Effect request s .reset { s with reset := .committing }
  | committed (stage : s.reset = .committing) (users : Table Account) :
      Effect request s .reset { s with
        users := users
        reset := .completed }
  | aborted (stage : s.reset ≠ .completed) :
      Effect request s .abortReset { s with reset := .failed }

theorem advanceLogin_effect {i : ℕ} {login : Login} (hget : s.logins[i]? = some login)
    (h : advanceLogin bcrypt request s i login = some t) : Effect request s (.advance i) t := by
  unfold advanceLogin at h
  split at h
  · rename_i hstage
    obtain rfl := Option.some.inj h
    refine Effect.moved hget (by rw [hstage]; rfl) (Or.inr ⟨rfl,fun user => by rw [hstage]; simp⟩)
      _ _ ?_ s.users
    intro userId
    split <;> simp
  · rename_i user hstage
    have hnot : ∀ user, login.stage ≠ .creating user := fun user => by rw [hstage]; simp
    have hgoing : login.stage.isOver = false := by rw [hstage]; rfl
    split at h
    · cases h
    · split at h
      · obtain rfl := Option.some.inj h
        exact Effect.moved hget hgoing (Or.inr ⟨rfl,hnot⟩) .failed login.early (by simp) s.users
      · obtain rfl := Option.some.inj h
        exact Effect.moved hget hgoing (Or.inr ⟨rfl,hnot⟩) (.committing (some user)) login.early
          (by simp) s.users
  · rename_i hstage
    obtain rfl := Option.some.inj h
    exact Effect.moved hget (by rw [hstage]; rfl) (Or.inr ⟨rfl,fun user => by rw [hstage]; simp⟩)
      (.refused invalidCredentials) login.early (by simp) s.users
  · rename_i user hstage
    obtain rfl := Option.some.inj h
    exact Effect.moved hget (by rw [hstage]; rfl) (Or.inr ⟨rfl,fun user => by rw [hstage]; simp⟩)
      (.creating user) login.early (by simp) _
  · rename_i user hstage
    obtain rfl := Option.some.inj h
    exact Effect.created hget hstage
  · cases h

theorem advanceReset_effect (h : advanceReset request s = some t) :
    Effect request s .reset t := by
  unfold advanceReset at h
  split at h
  · rename_i hstage
    have hbefore : s.reset.isBefore = true := by rw [hstage]; rfl
    split at h
    · obtain rfl := Option.some.inj h
      exact Effect.prepared hbefore _ (Or.inr (Or.inl ⟨_,rfl⟩))
    · obtain rfl := Option.some.inj h
      exact Effect.prepared hbefore _ (Or.inl rfl)
  · rename_i hstage
    have hbefore : s.reset.isBefore = true := by rw [hstage]; rfl
    split at h
    · cases h
    · split at h
      · obtain rfl := Option.some.inj h
        exact Effect.prepared hbefore _ (Or.inr (Or.inr rfl))
      · obtain rfl := Option.some.inj h
        exact Effect.prepared hbefore _ (Or.inl rfl)
  · rename_i hstage
    obtain rfl := Option.some.inj h
    exact Effect.began hstage
  · rename_i sweep hstage
    split at h
    · rename_i k rest hqueue
      obtain rfl := Option.some.inj h
      exact Effect.examined hstage hqueue
    · rename_i hqueue
      split at h
      · rename_i hexhausted
        obtain rfl := Option.some.inj h
        exact Effect.ended hstage hqueue hexhausted
      · cases h
  · rename_i hstage
    obtain rfl := Option.some.inj h
    exact Effect.committed hstage _
  · cases h

theorem auth_effect (h : (authMachine bcrypt request).step s e = some t) :
    Effect request s e t := by
  unfold authMachine at h
  cases e with
  | login email password when =>
    obtain rfl := Option.some.inj h
    exact Effect.arrived email password when
  | advance i =>
    obtain ⟨login,hget,hstep⟩ := Option.bind_eq_some_iff.mp h
    exact advanceLogin_effect hget hstep
  | abort i =>
    obtain ⟨login,hget,hstep⟩ := Option.bind_eq_some_iff.mp h
    split at hstep
    · cases hstep
    · rename_i hgoing
      obtain rfl := Option.some.inj hstep
      exact Effect.moved hget (by simpa using hgoing) (Or.inl rfl) .failed login.early (by simp)
        s.users
  | reset => exact advanceReset_effect h
  | scan keys exhausted =>
    simp only [scanReply] at h
    split at h
    · rename_i sweep hstage
      split at h
      · rename_i hreply
        obtain rfl := Option.some.inj h
        exact Effect.replied hstage hreply.1 hreply.2.2
      · cases h
    · cases h
  | abortReset =>
    dsimp only at h
    split at h
    · cases h
    · cases h
    · cases h
    · rename_i hcompleted _ _
      obtain rfl := Option.some.inj h
      exact Effect.aborted hcompleted

end Steps

/-- No live session of the user comes from a login that read the row before the reset committed. -/
def NoOldSession (request : ResetRequest) (s : AuthState) : Prop :=
  ∀ session ∈ s.sessions, session.userId = request.userId →
    ∀ login, s.logins[session.token]? = some login → login.early = false

/-- A login with the old password creates no session once the reset has gone through the store. -/
def CreatesInTime (request : ResetRequest) (s : AuthState) (e : AuthEvent) : Prop :=
  ∀ i login user, e = .advance i → s.logins[i]? = some login → login.stage = .creating user →
    login.early = true → user.id = request.userId → s.reset.hasDeleted = false

/-- Where the deletion ends, its scan has returned what such logins have created since it began. -/
def ScanCatches (request : ResetRequest) (s : AuthState) (e : AuthEvent) : Prop :=
  ∀ sweep, e = .reset → s.reset = .deleting sweep → sweep.queue = [] →
    ∀ i login, s.logins[i]? = some login → login.early = true →
      login.stage = .finished request.userId → i ∈ sweep.known ∨ i ∈ sweep.returned

def CaughtByReset (request : ResetRequest) (s : AuthState) (e : AuthEvent) (_ : AuthState) : Prop :=
  CreatesInTime request s e ∧ ScanCatches request s e

/-- The scan has returned key `i`, or the deletion is over. -/
def ResetStage.searched (i : ℕ) : ResetStage → Prop
  | deleting sweep => i ∈ sweep.returned
  | stage => stage.isBefore = false

/-- Login `i` has created a session. -/
def AuthState.created (s : AuthState) (i : ℕ) : Prop :=
  ∃ login userId, s.logins[i]? = some login ∧ login.stage = LoginStage.finished userId

/-- Each session is that of a login that is over, and stays until the scan returns it; what the scan
has to do with belongs to such logins. -/
structure Tracked (request : ResetRequest) (s : AuthState) : Prop where
  owner : ∀ session ∈ s.sessions, ∃ login, s.logins[session.token]? = some login ∧
    login.stage = .finished session.userId
  kept : ∀ i login, s.logins[i]? = some login → login.stage = .finished request.userId →
    (∃ session ∈ s.sessions, session.token = i ∧ session.userId = request.userId) ∨
      s.reset.searched i
  sweeping : ∀ sweep, s.reset = .deleting sweep →
    Sweep.Covers SessionData.token (ofUser request.userId) s.sessions sweep ∧
      ∀ k, k ∈ sweep.known ∨ k ∈ sweep.returned → s.created k

section Invariant
variable {request : ResetRequest} {s t : AuthState} {e : AuthEvent}

theorem ResetStage.not_hasDeleted_of_isBefore {stage : ResetStage} (h : stage.isBefore = true) :
    stage.hasDeleted = false := by
  cases stage with
  | committing => cases h
  | completed => cases h
  | _ => rfl

theorem failed_stays (h : Effect request s e t) (hfailed : s.reset = .failed) :
    t.reset = .failed := by
  cases h with
  | prepared before stage after => rw [hfailed] at before; cases before
  | began stage => rw [hfailed] at stage; cases stage
  | replied stage queue allowed => rw [hfailed] at stage; cases stage
  | examined stage queue => rw [hfailed] at stage; cases stage
  | ended stage queue exhausted => rw [hfailed] at stage; cases stage
  | committed stage users => rw [hfailed] at stage; cases stage
  | aborted stage => rfl
  | _ => exact hfailed

/-- A login that is over stays as it is. -/
theorem over_stays (h : Effect request s e t) {i : ℕ} {login : Login}
    (hget : s.logins[i]? = some login) (hover : login.stage.isOver = true) :
    t.logins[i]? = some login := by
  have hset : ∀ {j : ℕ} {other login' : Login}, s.logins[j]? = some other →
      other.stage.isOver = false → (s.logins.set j login')[i]? = some login := by
    intro j other login' hother hgoing
    have hne : j ≠ i := by
      rintro rfl
      obtain rfl := Option.some.inj (hget.symm.trans hother)
      rw [hover] at hgoing
      cases hgoing
    rw [List.getElem?_set_ne hne]
    exact hget
  cases h with
  | arrived email password when =>
    have hlt := (List.getElem?_eq_some_iff.mp hget).choose
    exact (List.getElem?_append_left hlt).trans hget
  | moved get going event stage early unfinished users => exact hset get going
  | created get stage => exact hset get (by rw [stage]; rfl)
  | _ => exact hget

/-- A login that has created a session was over before the step, or creates it by this one. -/
theorem finished_cases (h : Effect request s e t) {i : ℕ} {login : Login} {userId : ℕ}
    (hget : t.logins[i]? = some login) (hstage : login.stage = .finished userId) :
    s.logins[i]? = some login ∨ ∃ session ∈ t.sessions, session.token = i ∧ session.userId = userId
    := by
  cases h with
  | arrived email password when =>
    dsimp only at hget
    rw [List.getElem?_append] at hget
    split at hget
    · exact Or.inl hget
    · obtain rfl := List.mem_singleton.mp (List.mem_of_getElem? hget)
      cases hstage
  | moved get going event stage early unfinished users =>
    dsimp only [AuthState.setLogin] at hget
    rw [List.getElem?_set] at hget
    split at hget
    · split at hget
      · obtain rfl := Option.some.inj hget
        exact absurd hstage (unfinished userId)
      · cases hget
    · exact Or.inl hget
  | created get stage =>
    dsimp only [AuthState.setLogin] at hget
    rw [List.getElem?_set] at hget
    split at hget
    · rename_i hj
      subst hj
      split at hget
      · obtain rfl := Option.some.inj hget
        obtain rfl := LoginStage.finished.inj hstage
        exact Or.inr ⟨_,List.mem_append_right _ List.mem_cons_self,rfl,rfl⟩
      · cases hget
    · exact Or.inl hget
  | _ => exact Or.inl hget

/-- A session that is live after a step was live before it, or is that of a login it ends. -/
theorem session_cases (h : Effect request s e t) {session : SessionData}
    (hmem : session ∈ t.sessions) :
    session ∈ s.sessions ∨ ∃ login, t.logins[session.token]? = some login ∧
      login.stage = .finished session.userId := by
  cases h with
  | @created i login user get stage =>
    rcases List.mem_append.mp hmem with hold | hnew
    · exact Or.inl hold
    · obtain rfl := List.mem_singleton.mp hnew
      have hlt := (List.getElem?_eq_some_iff.mp get).choose
      exact Or.inr ⟨_,List.getElem?_set_self hlt,rfl⟩
  | examined stage queue => exact Or.inl (Sweep.mem_examine.mp hmem).1
  | _ => exact Or.inl hmem

theorem Tracked.owner_step (hs : Tracked request s) (h : Effect request s e t) :
    ∀ session ∈ t.sessions, ∃ login, t.logins[session.token]? = some login ∧
      login.stage = .finished session.userId := by
  intro session hmem
  rcases session_cases h hmem with hold | hnew
  · obtain ⟨login,hget,hstage⟩ := hs.owner session hold
    exact ⟨login,over_stays h hget (by rw [hstage]; rfl),hstage⟩
  · exact hnew

theorem Tracked.kept_step (hs : Tracked request s) (h : Effect request s e t) {i : ℕ}
    {login : Login} (hget : t.logins[i]? = some login)
    (hstage : login.stage = .finished request.userId) :
    (∃ session ∈ t.sessions, session.token = i ∧ session.userId = request.userId) ∨
      t.reset.searched i := by
  rcases finished_cases h hget hstage with hold | hnew
  · have hkept := hs.kept i login hold hstage
    cases h with
    | created get stage =>
      rcases hkept with ⟨session,hsession,htoken⟩ | hsearched
      · exact Or.inl ⟨session,List.mem_append_left _ hsession,htoken⟩
      · exact Or.inr hsearched
    | prepared before stage after =>
      rcases hkept with hlive | hsearched
      · exact Or.inl hlive
      · cases hreset : s.reset with
        | deleting sweep => rw [hreset] at before; cases before
        | _ => rw [hreset] at before hsearched; cases before.symm.trans hsearched
    | began stage =>
      rcases hkept with hlive | hsearched
      · exact Or.inl hlive
      · rw [stage] at hsearched
        cases hsearched
    | replied stage queue allowed =>
      rw [stage] at hkept
      exact hkept.imp_right (List.mem_append_left _)
    | @examined sweep k rest stage queue =>
      rw [stage] at hkept
      rcases hkept with ⟨session,hsession,htoken,huser⟩ | hsearched
      · by_cases hk : session.token = k
        · have hqueued := (hs.sweeping sweep stage).1.queued k (by rw [queue]; exact List.mem_cons_self)
          rw [← hk, htoken] at hqueued
          exact Or.inr hqueued
        · exact Or.inl ⟨session,Sweep.mem_examine.mpr ⟨hsession,fun h => absurd h hk⟩,htoken,huser⟩
      · exact Or.inr hsearched
    | ended stage queue exhausted => exact Or.inr rfl
    | committed stage users => exact Or.inr rfl
    | aborted stage => exact Or.inr rfl
    | _ => exact hkept
  · exact Or.inl hnew

theorem created_stays (h : Effect request s e t) {k : ℕ} (hk : s.created k) : t.created k := by
  obtain ⟨login,userId,hget,hstage⟩ := hk
  exact ⟨login,userId,over_stays h hget (by rw [hstage]; rfl),hstage⟩

theorem Tracked.created_of_live (hs : Tracked request s) {k : ℕ}
    (hk : k ∈ s.sessions.map SessionData.token) : s.created k := by
  obtain ⟨session,hsession,rfl⟩ := List.mem_map.mp hk
  obtain ⟨login,hget,hstage⟩ := hs.owner session hsession
  exact ⟨login,_,hget,hstage⟩

/-- The scan has to do with no login that has yet to create its session. -/
theorem Tracked.not_swept (hs : Tracked request s) {sweep : Sweep ℕ}
    (hsweep : s.reset = .deleting sweep) {i : ℕ} {login : Login} {user : Row Account}
    (hget : s.logins[i]? = some login) (hstage : login.stage = .creating user) :
    i ∉ sweep.known ∧ i ∉ sweep.returned := by
  rw [← not_or]
  intro hi
  obtain ⟨other,userId,hother,hfinished⟩ := (hs.sweeping sweep hsweep).2 i hi
  obtain rfl := Option.some.inj (hget.symm.trans hother)
  rw [hstage] at hfinished
  cases hfinished

theorem Tracked.sweeping_step (hs : Tracked request s) (h : Effect request s e t)
    {sweep : Sweep ℕ} (hsweep : t.reset = .deleting sweep) :
    Sweep.Covers SessionData.token (ofUser request.userId) t.sessions sweep ∧
      ∀ k, k ∈ sweep.known ∨ k ∈ sweep.returned → t.created k := by
  have hstays : ∀ k, s.created k → t.created k := fun k => created_stays h
  cases h with
  | created get stage =>
    obtain ⟨hcovers,hover⟩ := hs.sweeping sweep hsweep
    obtain ⟨hknown,hreturned⟩ := hs.not_swept hsweep get stage
    exact ⟨hcovers.insert hknown hreturned,fun k hk => hstays k (hover k hk)⟩
  | prepared before stage after =>
    rcases after with hbefore | ⟨e,rfl⟩ | rfl
    · obtain rfl : stage = .deleting sweep := hsweep
      cases hbefore
    · cases hsweep
    · cases hsweep
  | began stage =>
    obtain rfl := ResetStage.deleting.inj hsweep
    refine ⟨Sweep.covers_start _,fun k hk => ?_⟩
    rcases hk with hknown | hreturned
    · exact hs.created_of_live hknown
    · cases hreturned
  | replied stage queue allowed =>
    obtain rfl := ResetStage.deleting.inj hsweep
    obtain ⟨hcovers,hover⟩ := hs.sweeping _ stage
    refine ⟨hcovers.reply queue allowed,fun k hk => ?_⟩
    rcases hk with hknown | hreturned
    · exact hover k (Or.inl hknown)
    · rcases List.mem_append.mp hreturned with hold | hnew
      · exact hover k (Or.inr hold)
      · exact hs.created_of_live (allowed.1 k hnew)
  | examined stage queue =>
    obtain rfl := ResetStage.deleting.inj hsweep
    obtain ⟨hcovers,hover⟩ := hs.sweeping _ stage
    exact ⟨hcovers.examine queue,hover⟩
  | ended stage queue exhausted => cases hsweep
  | committed stage users => cases hsweep
  | aborted stage => cases hsweep
  | arrived email password when =>
    obtain ⟨hcovers,hover⟩ := hs.sweeping sweep hsweep
    exact ⟨hcovers,fun k hk => hstays k (hover k hk)⟩
  | moved get going event stage early unfinished users =>
    obtain ⟨hcovers,hover⟩ := hs.sweeping sweep hsweep
    exact ⟨hcovers,fun k hk => hstays k (hover k hk)⟩

theorem Tracked.step (hs : Tracked request s) (h : Effect request s e t) : Tracked request t where
  owner := hs.owner_step h
  kept _ _ hget hstage := hs.kept_step h hget hstage
  sweeping _ hsweep := hs.sweeping_step h hsweep

/-- What is no old session stays none where no session has been added, and the other way round where
none has been deleted. -/
theorem noOldSession_congr (hs : Tracked request s) (h : Effect request s e t) :
    (t.sessions ⊆ s.sessions → NoOldSession request s → NoOldSession request t) ∧
      (s.sessions ⊆ t.sessions → NoOldSession request t → NoOldSession request s) := by
  constructor
  · intro hsub hnone session hmem huser login hget
    obtain ⟨old,hold,hstage⟩ := hs.owner session (hsub hmem)
    have hsame := over_stays h hold (by rw [hstage]; rfl)
    obtain rfl := Option.some.inj (hsame.symm.trans hget)
    exact hnone session (hsub hmem) huser old hold
  · intro hsub hnone session hmem huser login hget
    obtain ⟨old,hold,hstage⟩ := hs.owner session hmem
    obtain rfl := Option.some.inj (hold.symm.trans hget)
    exact hnone session (hsub hmem) huser old (over_stays h hget (by rw [hstage]; rfl))

/-- Once the reset has been through the store, nothing deletes a session. -/
theorem not_clean_stays (hs : Tracked request s) (h : Effect request s e t)
    (hdeleted : s.reset.hasDeleted = true) (hold : ¬ NoOldSession request s) :
    (t.reset.hasDeleted = true ∧ ¬ NoOldSession request t) ∨ t.reset = .failed := by
  have hback := (noOldSession_congr hs h).2
  cases h with
  | created get stage =>
    exact Or.inl ⟨hdeleted,fun hnone => hold (hback (List.subset_append_left _ _) hnone)⟩
  | prepared before stage after =>
    cases hreset : s.reset with
    | committing => rw [hreset] at before; cases before
    | completed => rw [hreset] at before; cases before
    | _ => rw [hreset] at hdeleted; cases hdeleted
  | began stage => rw [stage] at hdeleted; cases hdeleted
  | replied stage queue allowed => rw [stage] at hdeleted; cases hdeleted
  | examined stage queue => rw [stage] at hdeleted; cases hdeleted
  | ended stage queue exhausted => rw [stage] at hdeleted; cases hdeleted
  | committed stage users =>
    exact Or.inl ⟨rfl,fun hnone => hold (hback (List.Subset.refl _) hnone)⟩
  | aborted stage => exact Or.inr rfl
  | arrived email password when =>
    exact Or.inl ⟨hdeleted,fun hnone => hold (hback (List.Subset.refl _) hnone)⟩
  | moved get going event stage early unfinished users =>
    exact Or.inl ⟨hdeleted,fun hnone => hold (hback (List.Subset.refl _) hnone)⟩

/-- Where the reset has been through the store, no old session is left. -/
def Clean (request : ResetRequest) (s : AuthState) : Prop :=
  s.reset.hasDeleted = true → NoOldSession request s

/-- A session created after the reset has been through the store is an old one just when its login
read the row before the reset committed. -/
theorem noOldSession_created_iff (hs : Tracked request s) {i : ℕ} {login : Login}
    {user : Row Account} (hget : s.logins[i]? = some login) (hstage : login.stage = .creating user)
    (hnone : NoOldSession request s) :
    NoOldSession request { s.setLogin i { login with stage := .finished user.id } with
        sessions := s.sessions ++ [⟨i,user.id,user.val.role⟩] } ↔
      (login.early = true → user.id ≠ request.userId) := by
  have heffect : Effect request s (.advance i) _ := Effect.created hget hstage
  have hlt := (List.getElem?_eq_some_iff.mp hget).choose
  constructor
  · intro hnew hearly huser
    have hlate := hnew ⟨i,user.id,user.val.role⟩ (List.mem_append_right _ List.mem_cons_self) huser
      { login with stage := .finished user.id } (List.getElem?_set_self hlt)
    rw [hearly] at hlate
    cases hlate
  · intro hlate session hmem huser other hother
    rcases List.mem_append.mp hmem with hold | hnew
    · obtain ⟨old,hold',hfinished⟩ := hs.owner session hold
      have hsame := over_stays heffect hold' (by rw [hfinished]; rfl)
      obtain rfl := Option.some.inj (hsame.symm.trans hother)
      exact hnone session hold huser old hold'
    · obtain rfl := List.mem_singleton.mp hnew
      obtain rfl := Option.some.inj ((List.getElem?_set_self hlt).symm.trans hother)
      cases hearly : login.early with
      | false => rfl
      | true => exact absurd huser (hlate hearly)

/-- Where the deletion ends, no old session is left just when the scan has caught those created since
it began. -/
theorem noOldSession_ended_iff (hs : Tracked request s) {sweep : Sweep ℕ}
    (hstage : s.reset = .deleting sweep) (hqueue : sweep.queue = [])
    (hexhausted : sweep.exhausted = true) :
    NoOldSession request s ↔
      ∀ i login, s.logins[i]? = some login → login.early = true →
        login.stage = .finished request.userId → i ∈ sweep.known ∨ i ∈ sweep.returned := by
  constructor
  · intro hnone i login hget hearly hfinished
    rcases hs.kept i login hget hfinished with ⟨session,hsession,rfl,huser⟩ | hsearched
    · rw [hnone session hsession huser login hget] at hearly
      cases hearly
    · rw [hstage] at hsearched
      exact Or.inr hsearched
  · intro hcaught session hsession huser login hget
    obtain ⟨hcovers,-⟩ := hs.sweeping sweep hstage
    obtain ⟨hknown,hreturned⟩ := hcovers.of_done hqueue hexhausted hsession
      (by simpa [ofUser] using huser)
    obtain ⟨owner,howner,hfinished⟩ := hs.owner session hsession
    obtain rfl := Option.some.inj (howner.symm.trans hget)
    cases hearly : owner.early with
    | false => rfl
    | true =>
      rw [huser] at hfinished
      exact absurd (hcaught session.token owner hget hearly hfinished) (not_or.mpr ⟨hknown,hreturned⟩)

/-! Which steps the reset has nothing to catch in, and what it has to catch in the others. -/

theorem caught_of_other (hadvance : ∀ i, e ≠ .advance i) (hreset : e ≠ .reset) :
    CaughtByReset request s e t :=
  ⟨fun i _ _ he => absurd he (hadvance i),fun _ he => absurd he hreset⟩

theorem caught_of_not_deleting (hstage : ∀ sweep, s.reset ≠ .deleting sweep) :
    CaughtByReset request s .reset t :=
  ⟨fun _ _ _ he => (by cases he),fun sweep _ h => absurd h (hstage sweep)⟩

theorem caught_of_not_creating {i : ℕ} {login : Login} (hget : s.logins[i]? = some login)
    (hstage : ∀ user, login.stage ≠ .creating user) :
    CaughtByReset request s (.advance i) t := by
  refine ⟨?_,fun _ he => (by cases he)⟩
  rintro i' login' user ⟨rfl⟩ hget' hcreating
  obtain rfl := Option.some.inj (hget.symm.trans hget')
  exact absurd hcreating (hstage user)

theorem caught_created_iff {i : ℕ} {login : Login} {user : Row Account}
    (hget : s.logins[i]? = some login) (hstage : login.stage = .creating user) :
    CaughtByReset request s (.advance i) t ↔
      (login.early = true → user.id = request.userId → s.reset.hasDeleted = false) := by
  constructor
  · exact fun h => h.1 i login user rfl hget hstage
  · refine fun h => ⟨?_,fun _ he => (by cases he)⟩
    rintro i' login' user' ⟨rfl⟩ hget' hcreating
    obtain rfl := Option.some.inj (hget.symm.trans hget')
    obtain rfl := LoginStage.creating.inj (hstage.symm.trans hcreating)
    exact h

theorem caught_ended_iff {sweep : Sweep ℕ} (hstage : s.reset = .deleting sweep)
    (hqueue : sweep.queue = []) :
    CaughtByReset request s .reset t ↔
      ∀ i login, s.logins[i]? = some login → login.early = true →
        login.stage = .finished request.userId → i ∈ sweep.known ∨ i ∈ sweep.returned := by
  constructor
  · exact fun h => h.2 sweep rfl hstage hqueue
  · refine fun h => ⟨fun _ _ _ he => (by cases he),fun sweep' _ hsweep _ => ?_⟩
    obtain rfl := ResetStage.deleting.inj (hstage.symm.trans hsweep)
    exact h

/-- The sessions that a step leaves as they are stay clean where the reset had gone through them. -/
theorem Clean.congr (hclean : Clean request s) (hs : Tracked request s) (h : Effect request s e t)
    (hsub : t.sessions ⊆ s.sessions) (hdeleted : t.reset.hasDeleted = true → s.reset.hasDeleted = true)
    : Clean request t :=
  fun ht => (noOldSession_congr hs h).1 hsub (hclean (hdeleted ht))

/-- A login that creates its session leaves no old one just when the reset still catches it. -/
theorem clean_created_iff (hs : Tracked request s) (hclean : Clean request s) {i : ℕ}
    {login : Login} {user : Row Account} (hget : s.logins[i]? = some login)
    (hstage : login.stage = .creating user) :
    Clean request { s.setLogin i { login with stage := .finished user.id } with
        sessions := s.sessions ++ [⟨i,user.id,user.val.role⟩] } ↔
      (login.early = true → user.id = request.userId → s.reset.hasDeleted = false) := by
  cases hdeleted : s.reset.hasDeleted with
  | false =>
    refine iff_of_true (fun hdeleted' => ?_) (fun _ _ => rfl)
    rw [show s.reset.hasDeleted = true from hdeleted'] at hdeleted
    cases hdeleted
  | true =>
    have hiff := noOldSession_created_iff hs hget hstage (hclean hdeleted)
    simp only [Bool.true_eq_false, imp_false]
    exact ⟨fun h => hiff.mp (h hdeleted),fun h _ => hiff.mpr h⟩

/-- A step leaves no old session behind just when the reset still catches what it creates. -/
theorem clean_step (hs : Tracked request s) (hclean : Clean request s) (h : Effect request s e t) :
    Clean request t ↔ CaughtByReset request s e t := by
  have hcongr := hclean.congr hs h
  cases h with
  | arrived email password when =>
    exact iff_of_true (hcongr (List.Subset.refl _) id) (caught_of_other (fun i => by simp) (by simp))
  | moved get going event stage early unfinished users =>
    refine iff_of_true (hcongr (List.Subset.refl _) id) ?_
    rcases event with rfl | ⟨rfl,hnot⟩
    · exact caught_of_other (fun i => by simp) (by simp)
    · exact caught_of_not_creating get hnot
  | created get stage =>
    exact (clean_created_iff hs hclean get stage).trans (caught_created_iff get stage).symm
  | prepared before stage after =>
    refine iff_of_true (fun hdeleted => ?_) (caught_of_not_deleting fun sweep hsweep => ?_)
    · rcases after with hbefore | ⟨e,rfl⟩ | rfl
      · have hnot := ResetStage.not_hasDeleted_of_isBefore hbefore
        rw [show stage.hasDeleted = true from hdeleted] at hnot
        cases hnot
      · cases hdeleted
      · cases hdeleted
    · rw [hsweep] at before
      cases before
  | began stage =>
    exact iff_of_true (fun hdeleted => by cases hdeleted)
      (caught_of_not_deleting fun sweep hsweep => by rw [stage] at hsweep; cases hsweep)
  | replied stage queue allowed =>
    exact iff_of_true (fun hdeleted => by cases hdeleted)
      (caught_of_other (fun i => by simp) (by simp))
  | examined stage queue =>
    refine iff_of_true (fun hdeleted => by cases hdeleted) ⟨fun _ _ _ he => (by cases he),?_⟩
    intro sweep _ hsweep hqueue
    obtain rfl := ResetStage.deleting.inj (stage.symm.trans hsweep)
    rw [queue] at hqueue
    cases hqueue
  | ended stage queue exhausted =>
    rw [caught_ended_iff stage queue, ← noOldSession_ended_iff hs stage queue exhausted]
    exact ⟨fun h => h rfl,fun h _ => h⟩
  | committed stage users =>
    have hdeleted : s.reset.hasDeleted = true := by rw [stage]; rfl
    exact iff_of_true (hcongr (List.Subset.refl _) fun _ => hdeleted)
      (caught_of_not_deleting fun sweep hsweep => by rw [stage] at hsweep; cases hsweep)
  | aborted stage =>
    exact iff_of_true (fun hdeleted => by cases hdeleted)
      (caught_of_other (fun i => by simp) (by simp))

end Invariant

section Runs
variable {bcrypt : Bcrypt} {request : ResetRequest} {users : Table Account}

theorem tracked_start (users : Table Account) : Tracked request (authStart users) where
  owner session hmem := by cases hmem
  kept i login hget := by cases hget
  sweeping sweep hsweep := by cases hsweep

/-- Once a reset has completed, no session of an old-password login is live, just when along the run
each such login either created its session before the reset went through the store, or while it did
and the scan returned it. -/
theorem noOldSession_iff {es : List AuthEvent} {s : AuthState}
    (hrun : (authMachine bcrypt request).Run (authStart users) es s)
    (hcompleted : s.reset = .completed) :
    NoOldSession request s ↔
      (authMachine bcrypt request).Steps (CaughtByReset request) (authStart users) es := by
  have hthroughout : (authMachine bcrypt request).Throughout
      (fun s => Tracked request s ∧ Clean request s) (authStart users) es ↔
        (authMachine bcrypt request).Steps (CaughtByReset request) (authStart users) es := by
    refine Machine.throughout_iff_steps ?_ ⟨tracked_start users,fun h => by cases h⟩
    intro s e t hs hstep
    have heffect := auth_effect hstep
    exact (and_iff_right (hs.1.step heffect)).trans (clean_step hs.1 hs.2 heffect)
  rw [← hthroughout]
  constructor
  · rintro hnone pre post t rfl hpre
    have htracked : Tracked request t := hpre.stable
      (fun s e t hs hstep => hs.step (auth_effect hstep)) (tracked_start users)
    refine ⟨htracked,fun hdeleted => ?_⟩
    by_contra hold
    obtain ⟨t',hpre',hpost⟩ := hrun.split
    obtain rfl := hpre.functional hpre'
    have hend : Tracked request s ∧
        ((s.reset.hasDeleted = true ∧ ¬ NoOldSession request s) ∨ s.reset = .failed) := by
      refine hpost.stable (I := fun s => Tracked request s ∧
        ((s.reset.hasDeleted = true ∧ ¬ NoOldSession request s) ∨ s.reset = .failed)) ?_
        ⟨htracked,Or.inl ⟨hdeleted,hold⟩⟩
      rintro s e t ⟨hs,hbad⟩ hstep
      have heffect := auth_effect hstep
      refine ⟨hs.step heffect,?_⟩
      rcases hbad with ⟨hdeleted,hold⟩ | hfailed
      · exact not_clean_stays hs heffect hdeleted hold
      · exact Or.inr (failed_stays heffect hfailed)
    rcases hend.2 with ⟨-,hbad⟩ | hfailed
    · exact hbad hnone
    · rw [hcompleted] at hfailed
      cases hfailed
  · intro h
    exact (h (List.append_nil es).symm hrun).2 (by rw [hcompleted]; rfl)

end Runs

/-! ### An old session that outlives the reset -/

/-- Two published bcrypt hashes, with their passwords. -/
def sampleBcrypt : Bcrypt :=
  ⟨fun password passwordHash => some <|
    [("U*U","$2a$05$CCCCCCCCCCCCCCCCCCCCC.E5YPO9kmyuRGyh0XouQYb4YMJKvyOeW"),
      ("U*U*U","$2a$05$XXXXXXXXXXXXXXXXXXXXXOAcXxm9kjPGEMsLznoKqmqw7tc8WCx4a")].contains
        (password,passwordHash)⟩

def sampleReset : ResetRequest :=
  ⟨1,"$2a$05$XXXXXXXXXXXXXXXXXXXXXOAcXxm9kjPGEMsLznoKqmqw7tc8WCx4a"⟩

def oneUser : Table Account := Table.empty.insert
  { email := "viewer@test.com"
    passwordHash := "$2a$05$CCCCCCCCCCCCCCCCCCCCC.E5YPO9kmyuRGyh0XouQYb4YMJKvyOeW"
    role := .viewer
    status := .active
    mustChangePassword := false
    lastLoginAt := none }

def loginAsViewer : AuthEvent := .login "viewer@test.com" "U*U" ⟨0,0⟩

/-- The login creates its session before the reset begins. -/
def loginThenReset : List AuthEvent :=
  [loginAsViewer,.advance 0,.advance 0,.advance 0,.advance 0,
    .reset,.reset,.reset,.scan [0] true,.reset,.reset,.reset]

/-- The login has committed when the reset begins, and creates its session when the reset is done. -/
def resetAmidLogin : List AuthEvent :=
  [loginAsViewer,.advance 0,.advance 0,.advance 0,
    .reset,.reset,.reset,.scan [] true,.reset,.reset,.advance 0]

theorem noOldSession_iff_loginThenReset :
    ∃ s, (authMachine sampleBcrypt sampleReset).Run (authStart oneUser) loginThenReset s ∧
      (NoOldSession sampleReset s ↔ (authMachine sampleBcrypt sampleReset).Steps
        (CaughtByReset sampleReset) (authStart oneUser) loginThenReset) := by
  obtain ⟨s,hrun,hs⟩ := Machine.exists_run_of_exec (authMachine sampleBcrypt sampleReset)
    (authStart oneUser) loginThenReset (fun s => decide (s.reset = .completed)) (by decide +kernel)
  exact ⟨s,hrun,noOldSession_iff hrun (of_decide_eq_true hs)⟩

/-- The reset has completed, the login is over, and its session is live. -/
theorem resetAmidLogin_leaves_session :
    ∃ s, (authMachine sampleBcrypt sampleReset).Run (authStart oneUser) resetAmidLogin s ∧
      s.reset = .completed ∧ (∀ login ∈ s.logins, login.stage.isOver = true) ∧
        ¬ NoOldSession sampleReset s := by
  obtain ⟨s,hrun,hs⟩ := Machine.exists_run_of_exec (authMachine sampleBcrypt sampleReset)
    (authStart oneUser) resetAmidLogin (fun s => decide (s.reset = .completed) &&
      (s.logins.all (fun login => login.stage.isOver) &&
        s.sessions.any fun session => decide (session.userId = 1) &&
          s.logins[session.token]?.any Login.early)) (by decide +kernel)
  simp only [Bool.and_eq_true, decide_eq_true_eq, List.all_eq_true, List.any_eq_true] at hs
  obtain ⟨hcompleted,hover,session,hsession,huser,hearly⟩ := hs
  refine ⟨s,hrun,hcompleted,hover,fun hnone => ?_⟩
  obtain ⟨login,hget,hlogin⟩ := (Option.any_eq_true _ _).mp hearly
  rw [hnone session hsession huser login hget] at hlogin
  cases hlogin

end MarketScanner.Auth
