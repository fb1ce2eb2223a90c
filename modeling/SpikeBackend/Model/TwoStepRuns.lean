import SpikeBackend.Lib.Machine
import SpikeBackend.Model.EmailTwoStep

/-!
# Runs of two-step requests

Any number of requests to the two-step service, each with a session of its own, over one
database. A request authenticates its user (`get_current_user`), probes its challenge and
then runs its locked transaction; the other services may change the accounts and close
open challenges in between.
-/

namespace SpikeBackend

open Relational Text Outcome

/-- The access token of a request, decoded. -/
structure AccessToken where
  userId : Uuid
  sessionVersion : Int

/-- A request that submits a code. -/
inductive VerificationRequest
  | confirmEnable (token : AccessToken) (challengeId : Uuid) (rawOtp : Str)
  | confirmDisable (token : AccessToken) (challengeId : Uuid) (rawOtp : Str)
  | consumeLogin (challengeId : Uuid) (rawOtp : Str)

namespace VerificationRequest

def token? : VerificationRequest → Option AccessToken
  | .confirmEnable token .. | .confirmDisable token .. => some token
  | .consumeLogin .. => none

def challengeId : VerificationRequest → Uuid
  | .confirmEnable _ challengeId _ | .confirmDisable _ challengeId _
  | .consumeLogin challengeId _ => challengeId

end VerificationRequest

/-- A request that may issue a code. -/
inductive IssueRequest
  | login (email password : Str) (rememberMe : Bool)
  | requestEnable (token : AccessToken) (email currentPassword : Str)
  | requestDisable (token : AccessToken) (currentPassword : Str)
  | resendLogin (challengeId : Uuid)
  | resendSetting (token : AccessToken) (challengeId : Uuid)

namespace IssueRequest

def token? : IssueRequest → Option AccessToken
  | .requestEnable token .. | .requestDisable token _ | .resendSetting token _ => some token
  | .login .. | .resendLogin _ => none

def challengeId? : IssueRequest → Option Uuid
  | .resendLogin challengeId | .resendSetting _ challengeId => some challengeId
  | .login .. | .requestEnable .. | .requestDisable .. => none

end IssueRequest

inductive TwoStepRequest
  | verification (request : VerificationRequest)
  | issue (request : IssueRequest)

namespace TwoStepRequest

def token? : TwoStepRequest → Option AccessToken
  | .verification request => request.token?
  | .issue request => request.token?

/-- The challenge the request probes. -/
def challengeId? : TwoStepRequest → Option Uuid
  | .verification request => some request.challengeId
  | .issue request => request.challengeId?

end TwoStepRequest

/-- What a request does next. -/
inductive TwoStepPhase
  | probe
  | transact
  | ended
  deriving DecidableEq, Repr

structure TwoStepClient where
  request : TwoStepRequest
  session : TwoStepSession := {}
  phase : TwoStepPhase

inductive TwoStepAction
  /-- a request arrives and authenticates its user -/
  | arrive (request : TwoStepRequest)
  /-- request `i` reads its challenge, without a lock -/
  | probe (i : Nat)
  /-- request `i` runs its transaction -/
  | transact (i : Nat) (draws : TwoStepDatabase.IssueDraws)
  /-- the other services change the accounts -/
  | changeUsers (users : Table User)
  /-- the other services close open challenges -/
  | closeChallenges (p : EmailTwoStepChallenge → Bool)

structure TimedTwoStepAction where
  now : Datetime
  action : TwoStepAction

structure TwoStepState where
  db : TwoStepDatabase := {}
  clients : List TwoStepClient := []
  /-- the challenges that were accepted, newest first -/
  accepted : List Uuid := []
  /-- the challenges whose hash a submitted code was compared with, newest first -/
  compared : List Uuid := []

namespace TwoStepDatabase

variable (db : TwoStepDatabase) (settings : TwoStepSettings) (session : TwoStepSession)

/-- `get_current_user`. -/
def currentUser (token : AccessToken) : Option User :=
  (db.users.get? token.userId).filter fun u =>
    u.isActive && u.authSessionVersion == token.sessionVersion

/-- The transaction of a request that submits a code. -/
def verify (request : VerificationRequest) (now : Datetime) : Verification :=
  match request with
  | .confirmEnable token challengeId rawOtp =>
    db.confirmEnable settings session token.userId challengeId rawOtp now
  | .confirmDisable token challengeId rawOtp =>
    db.confirmDisable settings session token.userId challengeId rawOtp now
  | .consumeLogin challengeId rawOtp => db.consumeLogin settings session challengeId rawOtp now

/-- The transaction of a request that may issue a code. -/
def issue (request : IssueRequest) (now : Datetime) (draws : IssueDraws) : TwoStepDatabase :=
  match request with
  | .login email password rememberMe =>
    commit db (db.login settings session email password rememberMe now draws)
  | .requestEnable token email currentPassword =>
    commit db (db.requestEnable settings session token.userId email currentPassword now draws)
  | .requestDisable token currentPassword =>
    commit db (db.requestDisable settings session token.userId currentPassword now draws)
  | .resendLogin challengeId =>
    (db.resend settings session challengeId [.login] none now draws).1
  | .resendSetting token challengeId =>
    (db.resend settings session challengeId [.enable, .disable] (some token.userId) now draws).1

end TwoStepDatabase

namespace TwoStepState

/-- A request after its authentication; without one it goes on at once. -/
def arrive (db : TwoStepDatabase) (request : TwoStepRequest) : TwoStepClient :=
  let next := if request.challengeId?.isSome then TwoStepPhase.probe else .transact
  match request.token? with
  | none => { request, phase := next }
  | some token =>
    match db.currentUser token with
    | none => { request, phase := .ended }
    | some user => { request, session := { user := some user }, phase := next }

/-- `session.get(EmailTwoStepChallenge, challenge_id)`. -/
def probe (db : TwoStepDatabase) (client : TwoStepClient) : TwoStepClient :=
  { client with
    session := { client.session with challenge := client.request.challengeId?.bind db.challenges.get? }
    phase := .transact }

/-- One action; a step that its request is not about to take changes nothing. -/
def step (settings : TwoStepSettings) (s : TwoStepState) (timed : TimedTwoStepAction) :
    TwoStepState :=
  match timed.action with
  | .arrive request => { s with clients := s.clients ++ [arrive s.db request] }
  | .probe i =>
    match s.clients[i]? with
    | none => s
    | some client =>
      if client.phase = .probe then { s with clients := s.clients.set i (probe s.db client) } else s
  | .transact i draws =>
    match s.clients[i]? with
    | none => s
    | some client =>
      if client.phase = .transact then
        let clients := s.clients.set i { client with phase := .ended }
        match client.request with
        | .verification request =>
          let v := s.db.verify settings client.session request timed.now
          { s with
            db := v.db
            clients
            accepted :=
              match v.result with
              | .ok _ => request.challengeId :: s.accepted
              | .error _ => s.accepted
            compared := if v.compared then request.challengeId :: s.compared else s.compared }
        | .issue request =>
          { s with db := s.db.issue settings client.session request timed.now draws, clients }
      else s
  | .changeUsers users => { s with db := { s.db with users } }
  | .closeChallenges p =>
    { s with
      db := { s.db with challenges := expireChallenges s.db.challenges p timed.now } }

/-- An installation with accounts and without challenges. -/
def init (users : Table User) : TwoStepState := { db := { users } }

end TwoStepState

end SpikeBackend
