import MarketScanner.Admin.Users

/-! Whether an active admin always remains. Two requests on different users lock different rows, so
each can pass its guard on account of the admin that the other one takes away. -/
namespace MarketScanner.Admin
open MarketScanner.Library

def HasActiveAdmin (users : Table User) : Prop := ∃ r ∈ users.rows, r.val.activeAdmin = true

/-- There is an active admin besides the given user. -/
def HasOtherAdmin (userId : ℕ) (users : Table User) : Prop :=
  ∃ r ∈ users.rows, r.id ≠ userId ∧ r.val.activeAdmin = true

/-- The statement turns an active admin into none. -/
def AdminRequest.takesAdmin (users : Table User) (request : AdminRequest) : Bool :=
  request.guarded && users.rows.any fun r => r.id == request.target && r.val.activeAdmin

/-- Between the read on which the guard lets a request pass and the end of its commit. For a target that
was no active admin when it was loaded, that read is its load: the guard then looks no further. -/
def Stage.isChecked : Stage → Bool
  | guarding target => !target.activeAdmin
  | writing _ => true
  | committing _ => true
  | _ => false

/-- Another request relies on what its guard has read of the users besides its own target. -/
def Handling.isUndercut (request : AdminRequest) (h : Handling) : Bool :=
  h.request.guarded && h.stage.isChecked && h.request.target != request.target

/-- A commit that takes an admin away comes in no other request's way between that one's guard and its
commit. -/
def CommitsAside (s : AdminState) (e : AdminEvent) (_ : AdminState) : Prop :=
  match e with
  | .advance i => ∀ h ∈ s.requests[i]?, h.stage = .committing true →
      h.request.takesAdmin s.users = true →
      ∀ h' ∈ s.requests.eraseIdx i, h'.isUndercut h.request = false
  | _ => True

instance (s : AdminState) (e : AdminEvent) (t : AdminState) : Decidable (CommitsAside s e t) :=
  match e with
  | .advance i => inferInstanceAs (Decidable (∀ h ∈ s.requests[i]?, h.stage = .committing true →
      h.request.takesAdmin s.users = true →
      ∀ h' ∈ s.requests.eraseIdx i, h'.isUndercut h.request = false))
  | .arrive _ _ => inferInstanceAs (Decidable True)
  | .abort _ => inferInstanceAs (Decidable True)

/-! ### What the guard knows -/

theorem guardNotLastAdmin_eq_ok_iff {target : User} {allUsers : List User} :
    guardNotLastAdmin target allUsers = .ok () ↔
      target.activeAdmin = false ∨ 1 < allUsers.countP User.activeAdmin := by
  unfold guardNotLastAdmin
  dsimp only
  rw [List.countP_eq_length_filter]
  cases hadmin : target.activeAdmin with
  | false =>
    have hskip : target.role ≠ .admin ∨ target.status ≠ .active := by
      simpa [User.activeAdmin, or_iff_not_imp_left] using hadmin
    simp [hskip]
  | true =>
    have hboth : target.role = .admin ∧ target.status = .active := by
      simpa [User.activeAdmin] using hadmin
    rw [if_neg (by simp [hboth.1, hboth.2])]
    split
    · simp
      omega
    · simp
      omega

/-- A count of more than one active admin, the target listed as it was loaded, is a count of another. -/
theorem hasOtherAdmin_of_guard {users : Table User} {userId : ℕ} {target : User}
    (hadmin : target.activeAdmin = true)
    (hpass : guardNotLastAdmin target (listAll users userId target) = .ok ()) :
    HasOtherAdmin userId users := by
  obtain hnot | hmany := guardNotLastAdmin_eq_ok_iff.mp hpass
  · rw [hadmin] at hnot
    cases hnot
  · unfold listAll at hmany
    rw [List.countP_map] at hmany
    obtain ⟨r,hr,hne,hp⟩ := Table.exists_other_of_countP hmany userId
    refine ⟨r,hr,hne,?_⟩
    rwa [Function.comp_apply, if_neg hne] at hp

/-- A loaded target that is no active admin leaves the active admin to be someone else. -/
theorem HasActiveAdmin.other {users : Table User} (h : HasActiveAdmin users) {userId : ℕ}
    {target : Row User} (hget : users.get? userId = some target)
    (hnot : target.val.activeAdmin = false) : HasOtherAdmin userId users := by
  obtain ⟨r,hr,hadmin⟩ := h
  refine ⟨r,hr,?_,hadmin⟩
  rintro rfl
  obtain ⟨hmem,hid⟩ := Table.get?_eq_some_iff.mp hget
  rw [Table.eq_of_id hmem hr hid, hadmin] at hnot
  cases hnot

theorem HasOtherAdmin.hasActiveAdmin {users : Table User} {userId : ℕ}
    (h : HasOtherAdmin userId users) : HasActiveAdmin users := by
  obtain ⟨r,hr,-,hadmin⟩ := h
  exact ⟨r,hr,hadmin⟩

/-! ### What a commit does to the active admins -/

/-- A statement leaves every user but its target as it is. -/
theorem AdminRequest.mem_apply_of_ne {users : Table User} {request : AdminRequest} {r : Row User}
    (hr : r ∈ users.rows) (hne : r.id ≠ request.target) : r ∈ (request.apply users).rows := by
  have hmodify : ∀ f : User → User, r ∈ (users.modify request.target f).rows := fun f =>
    Table.mem_modifyWhere.mpr ⟨r,hr,Row.change_of_false (by simpa using hne)⟩
  cases request with
  | disableUser userId => exact hmodify _
  | changeRole userId role => exact hmodify _
  | deleteUser userId => exact Table.mem_delete.mpr ⟨hr,hne⟩

/-- An active admin whom a statement does not take away is one afterwards. -/
theorem AdminRequest.exists_apply (request : AdminRequest) {users : Table User} {r : Row User}
    (hr : r ∈ users.rows) (hadmin : r.val.activeAdmin = true)
    (hkeep : r.id = request.target → request.takesAdmin users = false) :
    ∃ r' ∈ (request.apply users).rows, r'.id = r.id ∧ r'.val.activeAdmin = true := by
  by_cases hid : r.id = request.target
  · have htakes := hkeep hid
    have hfound : (users.rows.any fun r => r.id == request.target && r.val.activeAdmin) = true :=
      List.any_eq_true.mpr ⟨r,hr,by simp [hid, hadmin]⟩
    rw [AdminRequest.takesAdmin, hfound, Bool.and_true] at htakes
    cases request with
    | changeRole userId role =>
      obtain rfl : role = .admin := by simpa [AdminRequest.guarded] using htakes
      refine ⟨_,Table.mem_modifyWhere.mpr ⟨r,hr,rfl⟩,Row.change_id _ _ _,?_⟩
      rw [Row.change_of_true (by simpa [AdminRequest.target] using hid)]
      simp only [User.activeAdmin, Bool.and_eq_true] at hadmin ⊢
      exact ⟨rfl,hadmin.2⟩
    | _ => cases htakes
  · exact ⟨r,request.mem_apply_of_ne hr hid,rfl,hadmin⟩

theorem HasOtherAdmin.apply {users : Table User} {userId : ℕ} (h : HasOtherAdmin userId users)
    (request : AdminRequest)
    (hkeep : request.takesAdmin users = true → userId = request.target) :
    HasOtherAdmin userId (request.apply users) := by
  obtain ⟨r,hr,hne,hadmin⟩ := h
  obtain ⟨r',hr',hid,hadmin'⟩ := request.exists_apply hr hadmin (by
    intro htarget
    rw [← Bool.not_eq_true]
    intro htakes
    exact hne (htarget.trans (hkeep htakes).symm))
  exact ⟨r',hr',hid ▸ hne,hadmin'⟩

/-! ### Runs -/

section Steps
variable {s t : AdminState} {e : AdminEvent}

/-- What a step can do: take in a request, or move one on; only a commit changes the users. -/
theorem step_cases (h : adminMachine.step s e = some t) :
    (∃ acting request, e = .arrive acting request ∧
      t = { s with requests := s.requests ++ [⟨acting,request,.authenticating⟩] }) ∨
    (∃ i handling, e = .advance i ∧ s.requests[i]? = some handling ∧
      handling.stage.isFinished = false ∧
      t = (s.commit handling).move i handling (handling.next s.users)) ∨
    (∃ i handling, e = .abort i ∧ s.requests[i]? = some handling ∧
      t = s.move i handling (.finished .failed)) := by
  unfold adminMachine at h
  cases e with
  | arrive acting request =>
    exact Or.inl ⟨acting,request,rfl,(Option.some.inj h).symm⟩
  | advance i =>
    dsimp only at h
    split at h
    · cases h
    · rename_i handling hget
      split at h
      · cases h
      · rename_i hgo
        simp only [Bool.or_eq_true, not_or, Bool.not_eq_true] at hgo
        exact Or.inr (Or.inl ⟨i,handling,rfl,hget,hgo.1,(Option.some.inj h).symm⟩)
  | abort i =>
    dsimp only at h
    split at h
    · cases h
    · rename_i handling hget
      split at h
      · cases h
      · exact Or.inr (Or.inr ⟨i,handling,rfl,hget,(Option.some.inj h).symm⟩)

theorem commit_of_committing {h : Handling} (hstage : h.stage = .committing true) :
    s.commit h = { s with users := h.request.apply s.users } := by
  unfold AdminState.commit
  rw [hstage]

theorem commit_of_not_committing {h : Handling} (hstage : h.stage ≠ .committing true) :
    s.commit h = s := by
  unfold AdminState.commit
  split
  · rename_i hcommit
    exact absurd hcommit hstage
  · rfl

/-- A guarded request that has passed its check can go by an active admin besides its target. -/
def Handling.Covered (users : Table User) (h : Handling) : Prop :=
  h.request.guarded = true → h.stage.isChecked = true → HasOtherAdmin h.request.target users

structure Covered (s : AdminState) : Prop where
  admin : HasActiveAdmin s.users
  requests : ∀ (i : ℕ) (h : Handling), s.requests[i]? = some h → h.Covered s.users

theorem covered_of_not_checked {users : Table User} {h : Handling}
    (hstage : h.stage.isChecked = false) : h.Covered users := by
  intro _ hchecked
  rw [hstage] at hchecked
  cases hchecked

/-- On unchanged users with an active admin, a request that moves on stays covered. -/
theorem Handling.Covered.next {users : Table User} {h : Handling} (hcovered : h.Covered users)
    (hadmin : HasActiveAdmin users) : Handling.Covered users { h with stage := h.next users } := by
  obtain ⟨acting,request,stage⟩ := h
  unfold Handling.next
  cases stage with
  | authenticating =>
    dsimp only [answer]
    split <;> exact covered_of_not_checked rfl
  | loading =>
    dsimp only [answer, getUserOr404]
    cases hget : users.get? request.target with
    | none => exact covered_of_not_checked rfl
    | some row =>
      intro hguarded hchecked
      simp only [hguarded, if_true, Stage.isChecked, Bool.not_eq_true'] at hchecked
      exact hadmin.other hget hchecked
  | guarding target =>
    dsimp only [answer]
    split
    · rename_i hpass
      intro hguarded _
      cases htarget : target.activeAdmin with
      | true => exact hasOtherAdmin_of_guard htarget hpass
      | false => exact hcovered hguarded (by simp [Stage.isChecked, htarget])
    · exact covered_of_not_checked rfl
  | writing target =>
    intro hguarded _
    exact hcovered hguarded rfl
  | committing changed => exact covered_of_not_checked rfl
  | finished response => exact covered_of_not_checked rfl

/-- Replacing one request by a covered one. -/
theorem Covered.move {s : AdminState} (hs : Covered s) {i : ℕ} {h : Handling} {stage : Stage}
    (hnew : Handling.Covered s.users { h with stage := stage }) : Covered (s.move i h stage) := by
  refine ⟨hs.admin,?_⟩
  intro j handling hget
  unfold AdminState.move at hget
  dsimp only at hget
  rw [List.getElem?_set] at hget
  split at hget
  · split at hget
    · obtain rfl := Option.some.inj hget
      exact hnew
    · cases hget
  · exact hs.requests j handling hget

/-- A commit aside of the other requests keeps an active admin, and the others covered. -/
theorem Covered.commit {i : ℕ} {h : Handling} (hs : Covered s) (hget : s.requests[i]? = some h)
    (hstage : h.stage = .committing true) (haside : CommitsAside s (.advance i) t) :
    Covered ((s.commit h).move i h (.finished .done)) := by
  rw [commit_of_committing hstage]
  constructor
  · cases hguarded : h.request.guarded with
    | true =>
      have hother := hs.requests i h hget hguarded (by rw [hstage]; rfl)
      exact (hother.apply h.request fun _ => rfl).hasActiveAdmin
    | false =>
      obtain ⟨r,hr,hadmin⟩ := hs.admin
      obtain ⟨r',hr',-,hadmin'⟩ := h.request.exists_apply hr hadmin
        (fun _ => by simp [AdminRequest.takesAdmin, hguarded])
      exact ⟨r',hr',hadmin'⟩
  · intro j other hother
    unfold AdminState.move at hother
    dsimp only at hother
    rw [List.getElem?_set] at hother
    split at hother
    · split at hother
      · obtain rfl := Option.some.inj hother
        exact covered_of_not_checked rfl
      · cases hother
    · rename_i hne
      intro hguarded hchecked
      refine (hs.requests j other hother hguarded hchecked).apply h.request fun htakes => ?_
      have hmem : other ∈ s.requests.eraseIdx i :=
        List.mem_eraseIdx_iff_getElem?.mpr ⟨j,Ne.symm hne,hother⟩
      have hclear := haside h hget hstage htakes other hmem
      simpa [Handling.isUndercut, hguarded, hchecked] using hclear

theorem covered_step (hs : Covered s) (haside : CommitsAside s e t)
    (h : adminMachine.step s e = some t) : Covered t := by
  obtain ⟨acting,request,rfl,rfl⟩ | ⟨i,handling,rfl,hget,-,rfl⟩ | ⟨i,handling,rfl,hget,rfl⟩ :=
    step_cases h
  · refine ⟨hs.admin,?_⟩
    intro j handling hget
    dsimp only at hget
    rw [List.getElem?_append] at hget
    split at hget
    · exact hs.requests j handling hget
    · obtain rfl := List.mem_singleton.mp (List.mem_of_getElem? hget)
      exact covered_of_not_checked rfl
  · by_cases hstage : handling.stage = .committing true
    · have hdone : handling.next s.users = .finished .done := by
        unfold Handling.next
        rw [hstage]
      rw [hdone]
      exact hs.commit hget hstage haside
    · rw [commit_of_not_committing hstage]
      exact hs.move ((hs.requests i handling hget).next hs.admin)
  · exact hs.move (covered_of_not_checked rfl)

end Steps

/-- In every interleaving of admin requests from users with an active admin, one always remains where
no commit takes an admin away between another request's guard and its commit. -/
theorem activeAdmin_remains {users : Table User} (h : HasActiveAdmin users) {es : List AdminEvent}
    (haside : adminMachine.Steps CommitsAside (adminStart users) es) :
    adminMachine.Throughout (fun s => HasActiveAdmin s.users) (adminStart users) es := by
  have hstart : Covered (adminStart users) := ⟨h,fun i handling hget => by cases hget⟩
  have hcovered := haside.throughout (fun s e t hs he hstep => covered_step hs he hstep) hstart
  intro pre post s hes hrun
  exact (hcovered hes hrun).admin

/-! ### Two admins who disable each other -/

def twoAdmins : Table User :=
  (Table.empty.insert { role := .admin, status := .active }).insert
    { role := .admin, status := .active }

theorem hasActiveAdmin_twoAdmins : HasActiveAdmin twoAdmins :=
  ⟨⟨1,{ role := .admin, status := .active }⟩,by simp [twoAdmins, Table.empty],rfl⟩

/-- The second handler has loaded its target before the first commits, and asks the guard after it. -/
def guardAfterCommit : List AdminEvent :=
  [.arrive 1 (.disableUser 2),.arrive 2 (.disableUser 1),
    .advance 0,.advance 0,.advance 0,.advance 0,.advance 1,.advance 1,
    .advance 0,.advance 1]

theorem activeAdmin_remains_guardAfterCommit :
    adminMachine.Throughout (fun s => HasActiveAdmin s.users) (adminStart twoAdmins)
      guardAfterCommit :=
  activeAdmin_remains hasActiveAdmin_twoAdmins (Machine.steps_of_check (by decide +kernel))

/-- Both handlers pass their guard before either commits. -/
def disableEachOther : List AdminEvent :=
  [.arrive 1 (.disableUser 2),.arrive 2 (.disableUser 1),
    .advance 0,.advance 0,.advance 0,.advance 1,.advance 1,.advance 1,
    .advance 0,.advance 0,.advance 1,.advance 1]

theorem disableEachOther_none_left :
    HasActiveAdmin twoAdmins ∧
      ¬ adminMachine.Throughout (fun s => HasActiveAdmin s.users) (adminStart twoAdmins)
        disableEachOther := by
  refine ⟨hasActiveAdmin_twoAdmins,fun h => ?_⟩
  obtain ⟨s,hrun,hs⟩ := Machine.exists_run_of_exec adminMachine (adminStart twoAdmins)
    disableEachOther (fun s => s.users.rows.all fun r => !r.val.activeAdmin) (by decide +kernel)
  obtain ⟨r,hr,hadmin⟩ := h (List.append_nil disableEachOther).symm hrun
  have hnone := List.all_eq_true.mp hs r hr
  rw [hadmin] at hnone
  cases hnone

end MarketScanner.Admin
