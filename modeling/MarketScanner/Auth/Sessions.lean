import MarketScanner.Auth.Login
import MarketScanner.Library.Lease
import Mathlib.Data.Int.Order.Basic

/-! Requests to the dashboard beside logins, logouts, changes of accounts and revocations. A request reads
its session and its user one after the other, and the session's lease slides with each use. -/
namespace MarketScanner.Auth
open MarketScanner.Library MarketScanner.Python MarketScanner.Admin

/-- The user of a request, with the role the account has when it is read. -/
structure AuthenticatedUser where
  id : ℕ
  email : String
  role : UserRole
  deriving DecidableEq, Repr

def AuthenticatedUser.ofRow (row : Row Account) : AuthenticatedUser := ⟨row.id,row.val.email,row.val.role⟩

/-- `require_admin` on what `get_current_user` returned. -/
def requireAdmin (user : AuthenticatedUser) : Except Refusal AuthenticatedUser :=
  if user.role ≠ .admin then .error adminRequired else .ok user

/-- `get_current_user`: it has the cookie, the session, or the user; a request is answered for its
user only after the lease is renewed. -/
inductive RequestStage
  | reading
  | loading (data : SessionData)
  | dropping
  | touching (user : AuthenticatedUser)
  | authorized (user : AuthenticatedUser)
  | refused (e : Refusal)
  deriving DecidableEq, Repr

structure Request where
  sessionId : Option ℕ
  stage : RequestStage
  deriving DecidableEq, Repr

/-- `delete_all_for_user` -/
structure Revocation where
  userId : ℕ
  sweep : Sweep ℕ
  deriving DecidableEq, Repr

/-- A commit to `users` by one of the other handlers. -/
inductive AccountChange
  | insert (account : Account)
  | write (userId : ℕ) (account : Account)
  | delete (userId : ℕ)
  deriving DecidableEq, Repr

def AccountChange.apply (users : Table Account) : AccountChange → Table Account
  | insert account => users.insert account
  | write userId account => users.modify userId fun _ => account
  | delete userId => users.delete userId

/-- The committed users, the session store, the number of tokens drawn so far, the logins whose password
was right (with the row they read, until their session is created), the requests, the revocations. -/
structure DashboardState where
  users : Table Account
  store : LeaseStore SessionData ℤ
  issued : ℕ
  logins : List (Option (Row Account))
  requests : List Request
  revocations : List Revocation

inductive DashboardEvent
  | wait (seconds : ℕ)
  | change (c : AccountChange)
  | login (email password : String)
  | create (j : ℕ)
  | logout (sessionId : Option ℕ)
  | request (sessionId : Option ℕ)
  | advance (i : ℕ)
  | revoke (userId : ℕ)
  | scan (j : ℕ) (keys : List ℕ) (exhausted : Bool)
  | examine (j : ℕ)
  deriving DecidableEq, Repr

/-- `SessionStore`, by its `session_ttl_minutes`. -/
structure SessionStore where
  ttlMinutes : ℕ := 480

def SessionStore.ttlSeconds (store : SessionStore) : ℤ := store.ttlMinutes*60

namespace DashboardState

def session? (s : DashboardState) (token : ℕ) : Option SessionData := s.store.get? SessionData.token token

/-- `store.delete` -/
def dropSession (s : DashboardState) (token : ℕ) : DashboardState :=
  { s with store := s.store.drop SessionData.token token }

def setRequest (s : DashboardState) (i : ℕ) (r : Request) : DashboardState :=
  { s with requests := s.requests.set i r }

def setRevocation (s : DashboardState) (j : ℕ) (r : Revocation) : DashboardState :=
  { s with revocations := s.revocations.set j r }

end DashboardState

section Steps
variable (bcrypt : Bcrypt) (sessions : SessionStore)

/-- The next step of request `i`. -/
def advanceRequest (s : DashboardState) (i : ℕ) (r : Request) : Option DashboardState :=
  match r.sessionId, r.stage with
  | none, .reading => some (s.setRequest i { r with stage := .refused notAuthenticated })
  | some token, .reading =>
    match s.session? token with
    | none => some (s.setRequest i { r with stage := .refused notAuthenticated })
    | some data => some (s.setRequest i { r with stage := .loading data })
  | _, .loading data =>
    match s.users.get? data.userId with
    | none => some (s.setRequest i { r with stage := .dropping })
    | some user =>
      if user.val.status ≠ .active then some (s.setRequest i { r with stage := .dropping })
      else some (s.setRequest i { r with stage := .touching (.ofRow user) })
  | some token, .dropping =>
    some ((s.dropSession token).setRequest i { r with stage := .refused notAuthenticated })
  | some token, .touching user =>
    some ({ s with store := s.store.renew SessionData.token sessions.ttlSeconds token }.setRequest i
      { r with stage := .authorized user })
  | _, _ => none

/-- A session for the row that the login read; no token is drawn twice. -/
def createSession (s : DashboardState) (j : ℕ) (user : Row Account) : DashboardState :=
  let session : SessionData := ⟨s.issued,user.id,user.val.role⟩
  { s with
    store := s.store.put SessionData.token sessions.ttlSeconds session
    issued := s.issued+1
    logins := s.logins.set j none }

/-- The reply to a scan call, which knows the keys that have not expired. -/
def scanSessions (s : DashboardState) (j : ℕ) (r : Revocation) (keys : List ℕ) (exhausted : Bool) :
    Option DashboardState :=
  if r.sweep.queue = [] ∧ r.sweep.exhausted = false ∧
      Sweep.Allowed SessionData.token s.store.live r.sweep keys exhausted then
    some (s.setRevocation j { r with sweep := r.sweep.reply keys exhausted })
  else none

/-- Read the next key of the last reply, and delete it if it is a session of the user. -/
def examineSession (s : DashboardState) (j : ℕ) (r : Revocation) : Option DashboardState :=
  match r.sweep.queue with
  | [] => none
  | k::rest =>
    some ({ s with store := s.store.dropIf SessionData.token (ofUser r.userId) k }.setRevocation j
      { r with sweep := { r.sweep with queue := rest } })

def dashboardMachine : Machine DashboardState DashboardEvent where
  step s
    | .wait seconds => some { s with store := s.store.wait seconds }
    | .change c => some { s with users := c.apply s.users }
    | .login email password =>
      match authenticate bcrypt s.users email password with
      | none => some s
      | some user => some { s with logins := s.logins ++ [some user] }
    | .create j => s.logins[j]?.join.map (createSession sessions s j)
    | .logout sessionId =>
      match sessionId with
      | none => some s
      | some token => some (s.dropSession token)
    | .request sessionId => some { s with requests := s.requests ++ [⟨sessionId,.reading⟩] }
    | .advance i => s.requests[i]?.bind (advanceRequest sessions s i)
    | .revoke userId =>
      some { s with
        revocations := s.revocations ++ [⟨userId,Sweep.start SessionData.token s.store.live⟩] }
    | .scan j keys exhausted =>
      s.revocations[j]?.bind fun r => scanSessions s j r keys exhausted
    | .examine j => s.revocations[j]?.bind (examineSession s j)

end Steps

/-- Before the first login. -/
def dashboardStart (users : Table Account) (clock : ℤ) : DashboardState :=
  ⟨users,⟨clock,[]⟩,0,[],[],[]⟩

/-- A revocation whose scan is exhausted and whose last reply is examined. -/
def Revocation.Done (r : Revocation) : Prop := r.sweep.queue = [] ∧ r.sweep.exhausted = true

end MarketScanner.Auth
