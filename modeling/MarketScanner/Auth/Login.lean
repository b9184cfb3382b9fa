import MarketScanner.Library.Sweep
import MarketScanner.Python.Time
import MarketScanner.Admin.Users

/-! Logins beside the reset of one user's password. The users are in the database and the sessions in a
store of their own, so neither request writes both at once. -/
namespace MarketScanner.Auth
open MarketScanner.Library MarketScanner.Python MarketScanner.Admin

/-- The columns of `users` that logins and resets read and write. -/
structure Account where
  email : String
  passwordHash : String
  role : UserRole
  status : UserStatus
  mustChangePassword : Bool
  lastLoginAt : Option DateTime
  deriving DecidableEq, Repr

/-- `bcrypt.checkpw`; `none` where it raises `ValueError` on a malformed hash. -/
structure Bcrypt where
  checkpw : String → String → Option Bool

def verifyPassword (bcrypt : Bcrypt) (plainPassword passwordHash : String) : Bool :=
  (bcrypt.checkpw plainPassword passwordHash).getD false

/-- A key of the session store with its data. -/
structure SessionData where
  token : ℕ
  userId : ℕ
  role : UserRole
  deriving DecidableEq, Repr

def invalidCredentials : Refusal := ⟨401,"Invalid email or password"⟩

def getByEmail (users : Table Account) (email : String) : Option (Row Account) :=
  users.rows.find? fun r => r.val.email == email

/-- `authenticate` up to its write: the account, if it is ACTIVE and the password is right. -/
def authenticate (bcrypt : Bcrypt) (users : Table Account) (email password : String) :
    Option (Row Account) :=
  match getByEmail users email with
  | none => none
  | some user =>
    if user.val.status ≠ .active then none
    else if verifyPassword bcrypt password user.val.passwordHash then some user
    else none

/-- `finished` tells for which user the login created a session. -/
inductive LoginStage
  | reading
  | recording (user : Row Account)
  | committing (user : Option (Row Account))
  | creating (user : Row Account)
  | refused (e : Refusal)
  | failed
  | finished (userId : ℕ)
  deriving DecidableEq, Repr

/-- The email is the payload's, stripped and in lower case; `early` is set where the user is read
before the reset commits. -/
structure Login where
  email : String
  password : String
  when : DateTime
  stage : LoginStage
  early : Bool
  deriving DecidableEq, Repr

/-- `reset_password` for a user, with the hash of the temporary password. -/
structure ResetRequest where
  userId : ℕ
  newHash : String
  deriving DecidableEq, Repr

/-- `deleting` is `delete_all_for_user`. -/
inductive ResetStage
  | loading
  | writing
  | flushed
  | deleting (sweep : Sweep ℕ)
  | committing
  | completed
  | refused (e : Refusal)
  | failed
  deriving DecidableEq, Repr

/-- The committed users, the live sessions, and the requests. -/
structure AuthState where
  users : Table Account
  sessions : List SessionData
  logins : List Login
  reset : ResetStage

/-- `reset` is the next step of the reset, but for the replies of its scan. -/
inductive AuthEvent
  | login (email password : String) (when : DateTime)
  | advance (i : ℕ)
  | abort (i : ℕ)
  | reset
  | scan (keys : List ℕ) (exhausted : Bool)
  | abortReset
  deriving DecidableEq, Repr

def LoginStage.isOver : LoginStage → Bool
  | refused _ => true
  | failed => true
  | finished _ => true
  | _ => false

/-- The row a login has written and not committed. -/
def LoginStage.locks : LoginStage → Option ℕ
  | committing (some user) => some user.id
  | _ => none

/-- Whether the reset has written its row and not committed. -/
def ResetStage.locks : ResetStage → Bool
  | flushed => true
  | deleting _ => true
  | committing => true
  | _ => false

namespace AuthState

/-- The row is written by a login that has not committed. -/
def lockedByLogin (s : AuthState) (userId : ℕ) : Bool :=
  s.logins.any fun login => login.stage.locks == some userId

def setLogin (s : AuthState) (i : ℕ) (login : Login) : AuthState :=
  { s with logins := s.logins.set i login }

end AuthState

section Steps
variable (bcrypt : Bcrypt) (request : ResetRequest)

/-- The next step of login `i`. Its session's token, drawn at random, is written as `i`. -/
def advanceLogin (s : AuthState) (i : ℕ) (login : Login) : Option AuthState :=
  match login.stage with
  | .reading =>
    let stage := match authenticate bcrypt s.users login.email login.password with
      | none => .committing none
      | some user => .recording user
    some (s.setLogin i { login with
      stage := stage
      early := decide (s.reset ≠ .completed) })
  | .recording user =>
    -- the `UPDATE` waits for whoever has written the row
    if s.lockedByLogin user.id || (s.reset.locks && request.userId == user.id) then none
    else
      match s.users.get? user.id with
      | none => some (s.setLogin i { login with stage := .failed })
      | some _ => some (s.setLogin i { login with stage := .committing (some user) })
  | .committing none => some (s.setLogin i { login with stage := .refused invalidCredentials })
  | .committing (some user) =>
    let written := s.users.modify user.id fun u => { u with lastLoginAt := some login.when }
    some { s.setLogin i { login with stage := .creating user } with users := written }
  | .creating user =>
    let session : SessionData := ⟨i,user.id,user.val.role⟩
    some { s.setLogin i { login with stage := .finished user.id } with
      sessions := s.sessions ++ [session] }
  | _ => none

/-- `data.get("user_id") == user_id` -/
def ofUser (userId : ℕ) (session : SessionData) : Bool := session.userId == userId

/-- The next step of the reset. -/
def advanceReset (s : AuthState) : Option AuthState :=
  match s.reset with
  | .loading =>
    match s.users.get? request.userId with
    | none => some { s with reset := .refused (notFound request.userId) }
    | some _ => some { s with reset := .writing }
  | .writing =>
    if s.lockedByLogin request.userId then none
    else
      match s.users.get? request.userId with
      | none => some { s with reset := .failed }
      | some _ => some { s with reset := .flushed }
  | .flushed => some { s with reset := .deleting (Sweep.start SessionData.token s.sessions) }
  | .deleting sweep =>
    match sweep.queue with
    | k::rest =>
      some { s with
        sessions := Sweep.examine SessionData.token (ofUser request.userId) k s.sessions
        reset := .deleting { sweep with queue := rest } }
    | [] => if sweep.exhausted then some { s with reset := .committing } else none
  | .committing =>
    some { s with
      users := s.users.modify request.userId fun u =>
        { u with
          passwordHash := request.newHash
          mustChangePassword := true }
      reset := .completed }
  | _ => none

/-- The reply to a scan call. -/
def scanReply (s : AuthState) (keys : List ℕ) (exhausted : Bool) : Option AuthState :=
  match s.reset with
  | .deleting sweep =>
    if sweep.queue = [] ∧ sweep.exhausted = false ∧
        Sweep.Allowed SessionData.token s.sessions sweep keys exhausted then
      some { s with reset := .deleting (sweep.reply keys exhausted) }
    else none
  | _ => none

def authMachine : Machine AuthState AuthEvent where
  step s
    | .login email password when =>
      some { s with logins := s.logins ++ [⟨email,password,when,.reading,false⟩] }
    | .advance i => s.logins[i]?.bind (advanceLogin bcrypt request s i)
    | .abort i =>
      s.logins[i]?.bind fun login =>
        if login.stage.isOver then none else some (s.setLogin i { login with stage := .failed })
    | .reset => advanceReset request s
    | .scan keys exhausted => scanReply s keys exhausted
    | .abortReset =>
      match s.reset with
      | .completed => none
      | .refused _ => none
      | .failed => none
      | _ => some { s with reset := .failed }

end Steps

/-- Before the reset and the logins. -/
def authStart (users : Table Account) : AuthState := ⟨users,[],[],.loading⟩

end MarketScanner.Auth
