import SpikeBackend.Lib.Machine
import SpikeBackend.Model.AccountClosure

/-!
# Runs over the states of accounts

Deletions of accounts by their owners and suspensions and reactivations by the
administration, each request with a session of its own: it authenticates its user
(`get_current_user`) and then runs its transaction, which holds the row of the account from
its first statement to its commit. Everything else the application does is one action: it
registers accounts and writes any column but the two that say whether an account is active
and deleted.
-/

namespace SpikeBackend

open Relational Text

inductive AccountRequest
  | delete (token : DecodedToken) (currentPassword nonce newHash : Str)
  | changeActiveState (token : DecodedToken) (targetUserId : Uuid) (desiredActive : Bool)

namespace AccountRequest

/-- The access token of the request, decoded. -/
def token : AccountRequest → DecodedToken
  | .delete token .. | .changeActiveState token .. => token

end AccountRequest

/-- A request after its authentication. -/
structure AccountClient where
  request : AccountRequest
  /-- the current user, as the authentication loaded it -/
  user : User
  isEnded : Bool := false

/-- Every account has its flags still, or is a new one. -/
def PlatformDatabase.KeepsFlags (db db' : PlatformDatabase) : Prop :=
  ∀ u' ∈ db'.users,
    (∃ u ∈ db.users, u.id = u'.id ∧ u.isActive = u'.isActive ∧ u.deletedAt = u'.deletedAt) ∨
      ((∀ u ∈ db.users, u.id ≠ u'.id) ∧ u'.deletedAt = none)

instance PlatformDatabase.decidableKeepsFlags (db db' : PlatformDatabase) :
    Decidable (db.KeepsFlags db') :=
  inferInstanceAs (Decidable (∀ u' ∈ db'.users,
    (∃ u ∈ db.users, u.id = u'.id ∧ u.isActive = u'.isActive ∧ u.deletedAt = u'.deletedAt) ∨
      ((∀ u ∈ db.users, u.id ≠ u'.id) ∧ u'.deletedAt = none)))

inductive AccountAction
  | arrive (request : AccountRequest)
  /-- request `i` runs its transaction -/
  | transact (i : Nat)
  /-- the rest of the application -/
  | change (db : PlatformDatabase)

structure TimedAccountAction where
  now : Datetime
  action : AccountAction

structure AccountState where
  db : PlatformDatabase
  clients : List AccountClient := []

namespace AccountState

variable (settings : AuthSettings)

/-- The transaction of a request: the database it leaves. -/
def perform (db : PlatformDatabase) (client : AccountClient) (now : Datetime) : PlatformDatabase :=
  match client.request with
  | .delete token currentPassword nonce newHash =>
    match db.deleteAccount settings (some client.user) token.userId currentPassword nonce newHash
      now with
    | .ok db' => db'
    | .error _ => db
  | .changeActiveState _ targetUserId desiredActive =>
    match db.changeActiveState client.user targetUserId desiredActive now with
    | .ok db' => db'
    | .error _ => db

def step (s : AccountState) (timed : TimedAccountAction) : AccountState :=
  match timed.action with
  | .arrive request =>
    match s.db.signIn.currentUser request.token with
    | none => s
    | some user => { s with clients := s.clients ++ [{ request, user }] }
  | .transact i =>
    match s.clients[i]? with
    | none => s
    | some client =>
      if client.isEnded then s
      else
        { db := perform settings s.db client timed.now
          clients := s.clients.set i { client with isEnded := true } }
  | .change db => if s.db.KeepsFlags db then { s with db } else s

end AccountState

end SpikeBackend
