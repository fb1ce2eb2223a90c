import SpikeBackend.Model.SessionRuns
import SpikeBackend.Model.TwoStepRuns

/-!
# Runs of credential changes

Password changes, confirmed e-mail changes, two-step confirmations and password resets, each
request with a session of its own: it authenticates its user (`get_current_user`), may probe
a challenge and then runs its transaction, which locks the row of the account from its first
statement to its commit.
-/

namespace SpikeBackend

open Relational Text Outcome Session

inductive CredentialRequest
  | changePassword (token : DecodedToken) (currentPassword newPassword newHash : Str)
  | confirmEmailChange (token : DecodedToken) (newEmail rawOtp : Str)
  | confirmTwoStep (token : DecodedToken) (enabled : Bool) (challengeId : Uuid) (rawOtp : Str)
  | resetPassword (email rawOtp newHash : Str)

namespace CredentialRequest

/-- The access token of the request, decoded. -/
def token? : CredentialRequest → Option DecodedToken
  | .changePassword token .. | .confirmEmailChange token .. | .confirmTwoStep token .. => some token
  | .resetPassword .. => none

/-- The challenge that the request probes. -/
def challengeId? : CredentialRequest → Option Uuid
  | .confirmTwoStep _ _ challengeId _ => some challengeId
  | _ => none

/-- The current password that the request supplies. -/
def currentPassword? : CredentialRequest → Option Str
  | .changePassword _ currentPassword .. => some currentPassword
  | _ => none

end CredentialRequest

structure CredentialClient where
  request : CredentialRequest
  session : TwoStepSession := {}
  phase : TwoStepPhase

inductive CredentialAction
  /-- an account gets an access token, by a sign-in or a refresh -/
  | issue (userId tokenId : Uuid)
  | arrive (request : CredentialRequest)
  /-- request `i` reads its challenge, without a lock -/
  | probe (i : Nat)
  /-- request `i` runs its transaction -/
  | transact (i : Nat)
  /-- the other services issue and close codes -/
  | changeCodes (challenges : Table EmailTwoStepChallenge) (emailChangeOtps : Table EmailChangeOtp)
      (passwordResetOtps : Table PasswordResetOtp)

structure TimedCredentialAction where
  now : Datetime
  action : CredentialAction

structure CredentialState where
  db : AccountDatabase
  clients : List CredentialClient := []
  /-- the session versions that were committed, newest first -/
  history : List (Uuid × Int) := []
  /-- of each password change the current password it came with and the hash that was
  committed at that moment -/
  passwordChanges : List (Str × Str) := []
  /-- the access tokens that were issued -/
  issued : List DecodedToken := []
  cutoffs : List Cutoff := []

namespace CredentialState

variable (settings : AuthSettings) (s : CredentialState)

/-- A request after its authentication; without one it goes on at once. -/
def arrive (request : CredentialRequest) : CredentialClient :=
  let next := if request.challengeId?.isSome then TwoStepPhase.probe else .transact
  match request.token? with
  | none => { request, phase := next }
  | some token =>
    match s.db.currentUser token with
    | none => { request, phase := .ended }
    | some user => { request, session := { user := some user }, phase := next }

/-- `session.get(EmailTwoStepChallenge, challenge_id)`. -/
def probe (client : CredentialClient) : CredentialClient :=
  { client with
    session := {
      client.session with
      challenge := client.request.challengeId?.bind s.db.twoStep.challenges.get? }
    phase := .transact }

/-- The transaction of a request: the database it leaves, and the account whose credentials
it changed. -/
def perform (db : AccountDatabase) (session : TwoStepSession) (now : Datetime) :
    CredentialRequest → AccountDatabase × Option Uuid
  | .changePassword token currentPassword newPassword newHash =>
    match db.changePassword settings session.user token.userId currentPassword newPassword newHash
      now with
    | .error _ => (db, none)
    | .ok db' => (db', some token.userId)
  | .confirmEmailChange token newEmail rawOtp =>
    match db.confirmEmailChange settings session.user token.userId newEmail rawOtp now with
    | .error (_, db') => (db', none)
    | .ok db' => (db', some token.userId)
  | .confirmTwoStep token enabled challengeId rawOtp =>
    match db.confirmTwoStep settings session enabled token.userId challengeId rawOtp now with
    | (db', .error _) => (db', none)
    | (db', .ok _) => (db', some token.userId)
  | .resetPassword email rawOtp newHash =>
    match db.resetPassword settings email rawOtp newHash now with
    | .error failed => (failed.left, none)
    | .ok (db', user, _) => (db', some user.id)

/-- The commit of a request, with what it leaves in the records. -/
def transact (now : Datetime) (client : CredentialClient) : CredentialState :=
  match perform settings s.db client.session now client.request with
  | (db, none) => { s with db }
  | (db, some userId) =>
    { s with
      db
      history := ((db.users.get? userId).map fun u => (userId, u.authSessionVersion)).toList ++
        s.history
      passwordChanges := (client.request.currentPassword?.bind fun currentPassword =>
        (s.db.users.get? userId).map fun u => (currentPassword, u.passwordHash)).toList ++
        s.passwordChanges
      cutoffs := ⟨userId, s.issued⟩ :: s.cutoffs }

def step (s : CredentialState) (timed : TimedCredentialAction) : CredentialState :=
  match timed.action with
  | .issue userId tokenId =>
    match s.db.users.get? userId with
    | none => s
    | some user =>
      { s with
        issued := (AccountDatabase.tokenPair settings user timed.now ⟨0, tokenId, 0⟩).1 :: s.issued }
  | .arrive request => { s with clients := s.clients ++ [arrive s request] }
  | .probe i =>
    match s.clients[i]? with
    | none => s
    | some client =>
      if client.phase = .probe then { s with clients := s.clients.set i (probe s client) } else s
  | .transact i =>
    match s.clients[i]? with
    | none => s
    | some client =>
      if client.phase = .transact then
        { s.transact settings timed.now client with
          clients := s.clients.set i { client with phase := .ended } }
      else s
  | .changeCodes challenges emailChangeOtps passwordResetOtps =>
    { s with
      db := { s.db with
        twoStep := { s.db.twoStep with challenges }
        emailChangeOtps
        passwordResetOtps } }

/-- An installation with accounts, each at the version it has. -/
def init (db : AccountDatabase) : CredentialState where
  db
  history := db.users.rows.map fun u => (u.id, u.authSessionVersion)

end CredentialState

end SpikeBackend
