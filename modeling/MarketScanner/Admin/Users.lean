import MarketScanner.Library.Table
import MarketScanner.Library.Transition

/-! Admin requests on the user table. A handler reads its target and asks the guard in a transaction
that sees what is committed at each of its reads, and its one write locks the target's row only. -/
namespace MarketScanner.Admin
open MarketScanner.Library

inductive UserRole
  | admin
  | viewer
  deriving DecidableEq, Repr

inductive UserStatus
  | active
  | disabled
  deriving DecidableEq, Repr

/-- The columns of `users` that these handlers read and write. -/
structure User where
  role : UserRole
  status : UserStatus
  deriving DecidableEq, Repr

def User.activeAdmin (u : User) : Bool := u.role == .admin && u.status == .active

/-- What a handler raises: its HTTP status and its text. -/
structure Refusal where
  statusCode : ℕ
  detail : String
  deriving DecidableEq, Repr

def notAuthenticated : Refusal := ⟨401,"Not authenticated"⟩
def adminRequired : Refusal := ⟨403,"Admin access required"⟩
def notFound (userId : ℕ) : Refusal := ⟨404,s!"No user with id {userId}"⟩
def lastAdmin : Refusal := ⟨400,"Cannot remove the last remaining active admin account"⟩

/-- The request handlers that can take an admin away. A role text that names no role is refused
before the handler reads anything. -/
inductive AdminRequest
  | disableUser (userId : ℕ)
  | changeRole (userId : ℕ) (role : UserRole)
  | deleteUser (userId : ℕ)
  deriving DecidableEq, Repr

namespace AdminRequest

def target : AdminRequest → ℕ
  | disableUser userId => userId
  | changeRole userId _ => userId
  | deleteUser userId => userId

/-- Whether the handler asks `_guard_not_last_admin`. -/
def guarded : AdminRequest → Bool
  | disableUser _ => true
  | changeRole _ role => role != .admin
  | deleteUser _ => true

/-- Whether the flush sends a statement: an attribute set to the value it was loaded with is no
change. -/
def emits (loaded : User) : AdminRequest → Bool
  | disableUser _ => loaded.status != .disabled
  | changeRole _ role => loaded.role != role
  | deleteUser _ => true

/-- The statement, on the row as it is by then. -/
def apply (users : Table User) : AdminRequest → Table User
  | disableUser userId => users.modify userId fun u => { u with status := .disabled }
  | changeRole userId role => users.modify userId fun u => { u with role := role }
  | deleteUser userId => users.delete userId

end AdminRequest

/-- `get_current_user` and `require_admin`, for a session that belongs to the user `acting`. -/
def requireAdmin (users : Table User) (acting : ℕ) : Except Refusal Unit :=
  match users.get? acting with
  | none => .error notAuthenticated
  | some user =>
    if user.val.status ≠ .active then .error notAuthenticated
    else if user.val.role ≠ .admin then .error adminRequired
    else .ok ()

def getUserOr404 (users : Table User) (userId : ℕ) : Except Refusal User :=
  match users.get? userId with
  | none => .error (notFound userId)
  | some user => .ok user.val

/-- `list_all` in a session that holds the target: its row comes back as the object loaded before. -/
def listAll (users : Table User) (userId : ℕ) (target : User) : List User :=
  users.rows.map fun r => if r.id = userId then target else r.val

def guardNotLastAdmin (target : User) (allUsers : List User) : Except Refusal Unit :=
  if target.role ≠ .admin ∨ target.status ≠ .active then .ok ()
  else
    let activeAdmins := allUsers.filter User.activeAdmin
    if activeAdmins.length ≤ 1 then .error lastAdmin else .ok ()

/-- `failed` is an exception that no handler here raises itself. -/
inductive Response
  | done
  | refused (e : Refusal)
  | failed
  deriving DecidableEq, Repr

/-- What a request does next, with its target as it was loaded; `committing` knows whether a statement
was sent, and with it whether the request holds its target's row locked. -/
inductive Stage
  | authenticating
  | loading
  | guarding (target : User)
  | writing (target : User)
  | committing (changed : Bool)
  | finished (response : Response)
  deriving DecidableEq, Repr

structure Handling where
  acting : ℕ
  request : AdminRequest
  stage : Stage
  deriving DecidableEq, Repr

/-- The committed users and the requests that have come in. -/
structure AdminState where
  users : Table User
  requests : List Handling

inductive AdminEvent
  | arrive (acting : ℕ) (request : AdminRequest)
  | advance (i : ℕ)
  | abort (i : ℕ)
  deriving DecidableEq, Repr

def answer {α : Type*} (next : α → Stage) : Except Refusal α → Stage
  | .ok a => next a
  | .error e => .finished (.refused e)

/-- The flush. An `UPDATE` that finds no row raises; a `DELETE` that finds none only warns. -/
def flush (users : Table User) (request : AdminRequest) (target : User) : Stage :=
  if request.emits target then
    match users.get? request.target, request with
    | some _, _ => .committing true
    | none, .deleteUser _ => .committing false
    | none, _ => .finished .failed
  else .committing false

/-- The stage after the one a request is in, with the users as committed now. -/
def Handling.next (users : Table User) (h : Handling) : Stage :=
  match h.stage with
  | .authenticating => answer (fun _ => .loading) (requireAdmin users h.acting)
  | .loading =>
    answer (fun target => if h.request.guarded then .guarding target else .writing target)
      (getUserOr404 users h.request.target)
  | .guarding target =>
    answer (fun _ => .writing target)
      (guardNotLastAdmin target (listAll users h.request.target target))
  | .writing target => flush users h.request target
  | .committing _ => .finished .done
  | .finished response => .finished response

/-- A statement waits for the transaction that has written its row. -/
def AdminState.waits (s : AdminState) (h : Handling) : Bool :=
  match h.stage with
  | .writing target =>
    h.request.emits target && s.requests.any fun other =>
      other.stage == .committing true && other.request.target == h.request.target
  | _ => false

def AdminState.move (s : AdminState) (i : ℕ) (h : Handling) (stage : Stage) : AdminState :=
  { s with requests := s.requests.set i { h with stage := stage } }

def AdminState.commit (s : AdminState) (h : Handling) : AdminState :=
  match h.stage with
  | .committing true => { s with users := h.request.apply s.users }
  | _ => s

def Stage.isFinished : Stage → Bool
  | finished _ => true
  | _ => false

def adminMachine : Machine AdminState AdminEvent where
  step s
    | .arrive acting request =>
      some { s with requests := s.requests ++ [⟨acting,request,.authenticating⟩] }
    | .advance i =>
      match s.requests[i]? with
      | none => none
      | some h =>
        if h.stage.isFinished || s.waits h then none
        else some ((s.commit h).move i h (h.next s.users))
    | .abort i =>
      match s.requests[i]? with
      | none => none
      | some h => if h.stage.isFinished then none else some (s.move i h (.finished .failed))

def adminStart (users : Table User) : AdminState := ⟨users,[]⟩

end MarketScanner.Admin
