import SpikeBackend.Lib.Locks
import SpikeBackend.Lib.Machine
import SpikeBackend.Model.Accounts

/-!
# Runs of session requests

Any number of refreshes, logouts, password resets and changes of the active state of
accounts, each in a transaction of its own, and sign-ins. A transaction advances by one
statement at a time and waits for the rows that another one has locked; an `UPDATE` of many
rows finds them when it starts and waits for those that are locked. Any transaction may be
rolled back before its commit.
-/

namespace SpikeBackend

open Relational Text Outcome Locking

inductive SessionRequest
  | refresh (rawToken : Str)
  | logout (rawToken : Str)
  | resetPassword (email rawOtp newHash : Str)
  | changeActiveState (accessToken : Str) (targetUserId : Uuid) (desiredActive : Bool)

/-- A change of an account whose row is locked. -/
inductive AccountChange
  | reset (user : User) (otp : PasswordResetOtp) (newHash : Str)
  | activeState (target : User) (desiredActive : Bool)

/-- How far a request is. -/
inductive SessionClient
  | refreshing (rawToken : Str) (claims : DecodedToken)
  /-- the token is locked and accepted -/
  | refreshLocked (claims : DecodedToken) (stored : RefreshToken)
  /-- the account is read, without a lock, and accepted -/
  | refreshRead (stored : RefreshToken) (user : User)
  | loggingOut (claims : DecodedToken)
  | logoutLocked (stored : RefreshToken)
  | resetting (email rawOtp newHash : Str)
  | resetLocked (user : User) (rawOtp newHash : Str)
  | changing (actor : User) (targetUserId : Uuid) (desiredActive : Bool)
  | changeLocked (target : User) (desiredActive : Bool)
  /-- the `UPDATE` of the refresh tokens has found its rows -/
  | sweeping (change : AccountChange) (tokens : List Uuid)
  /-- and holds them -/
  | swept (change : AccountChange) (tokens : List Uuid)
  | ended (accepted : Bool)

inductive SessionAction
  | signIn (email password : Str) (rememberMe : Bool) (draws : AccountDatabase.TokenDraws)
  | arrive (request : SessionRequest)
  /-- request `i` runs its next statement; the last one commits -/
  | advance (i : Nat) (draws : AccountDatabase.TokenDraws)
  | rollback (i : Nat)

structure TimedSessionAction where
  now : Datetime
  action : SessionAction

/-- The tokens that were issued before a password reset or a suspension. -/
structure Cutoff where
  userId : Uuid
  tokens : List DecodedToken

structure SessionState where
  db : AccountDatabase
  clients : List SessionClient := []
  userLocks : Locks Uuid := .empty
  tokenLocks : Locks Uuid := .empty
  /-- the tokens that were issued -/
  issued : List DecodedToken := []
  /-- the refresh tokens that were exchanged, newest first -/
  exchanged : List Uuid := []
  /-- the refresh tokens of the logouts that ran -/
  loggedOut : List Uuid := []
  cutoffs : List Cutoff := []

namespace AccountChange

/-- The account as its locked read found it. -/
def user : AccountChange → User
  | .reset user .. => user
  | .activeState target _ => target

/-- The commit of the change, over the committed row of the account. -/
def save (db : AccountDatabase) (change : AccountChange) (swept : List Uuid) (now : Datetime) :
    Option AccountDatabase := do
  let row ← db.users.get? change.user.id
  match change with
  | .reset user otp newHash => db.saveReset user row otp newHash swept now
  | .activeState target desiredActive => db.saveActiveState target row desiredActive swept now

/-- A password reset, or the suspension of an active account. -/
def closesSessions : AccountChange → Bool
  | .reset .. => true
  | .activeState target desiredActive => target.isActive && !desiredActive

end AccountChange

namespace SessionState

variable (settings : AuthSettings) (s : SessionState)

/-- The end of a transaction. -/
def finish (i : Nat) (accepted : Bool) : SessionState :=
  { s with
    clients := s.clients.set i (.ended accepted)
    userLocks := s.userLocks.release i
    tokenLocks := s.tokenLocks.release i }

/-- A statement that locked rows. -/
def proceed (i : Nat) (client : SessionClient) (users tokens : List Uuid) : SessionState :=
  { s with
    clients := s.clients.set i client
    userLocks := s.userLocks.acquire users i
    tokenLocks := s.tokenLocks.acquire tokens i }

/-- A request before its first statement. -/
def arrive (now : Datetime) : SessionRequest → SessionClient
  | .refresh rawToken =>
    match (settings.decodeJwt now rawToken).filter (·.tokenType == .refresh) with
    | none => .ended false
    | some claims => .refreshing rawToken claims
  | .logout rawToken =>
    match (settings.decodeJwt now rawToken).filter (·.tokenType == .refresh) with
    | none => .ended false
    | some claims => .loggingOut claims
  | .resetPassword email rawOtp newHash => .resetting email rawOtp newHash
  | .changeActiveState accessToken targetUserId desiredActive =>
    match ((settings.decodeJwt now accessToken).bind s.db.currentUser).filter
        AccountDatabase.validActor with
    | none => .ended false
    | some actor => .changing actor targetUserId desiredActive

/-- The next statement of request `i`. -/
def advance (now : Datetime) (i : Nat) (draws : AccountDatabase.TokenDraws) :
    SessionClient → SessionState
  | .refreshing rawToken claims =>
    match s.db.storedToken claims with
    | none => s.finish i false
    | some stored =>
      if s.tokenLocks.available stored.id i then
        if AccountDatabase.acceptsToken settings stored rawToken now then
          s.proceed i (.refreshLocked claims stored) [] [stored.id]
        else s.finish i false
      else s
  | .refreshLocked claims stored =>
    match (s.db.users.get? claims.userId).filter (AccountDatabase.acceptsUser claims) with
    | none => s.finish i false
    | some user => s.proceed i (.refreshRead stored user) [] []
  | .refreshRead stored user =>
    match s.db.rotate settings stored user now draws with
    | none => s.finish i false
    | some db =>
      let (access, refresh) := AccountDatabase.tokenPair settings user now draws
      { s.finish i true with
        db
        issued := access :: refresh :: s.issued
        exchanged := stored.tokenId :: s.exchanged }
  | .loggingOut claims =>
    match s.db.storedToken claims with
    | none => s.finish i false
    | some stored =>
      if s.tokenLocks.available stored.id i then
        s.proceed i (.logoutLocked stored) [] [stored.id]
      else s
  | .logoutLocked stored =>
    if stored.revokedAt.isSome then
      { s.finish i true with loggedOut := stored.tokenId :: s.loggedOut }
    else
      match s.db.revoke stored now with
      | none => s.finish i false
      | some db => { s.finish i true with db, loggedOut := stored.tokenId :: s.loggedOut }
  | .resetting email rawOtp newHash =>
    match s.db.resetUser settings email with
    | none => s.finish i false
    | some user =>
      if s.userLocks.available user.id i then
        s.proceed i (.resetLocked user rawOtp newHash) [user.id] []
      else s
  | .resetLocked user rawOtp newHash =>
    match s.db.validateReset settings user.id rawOtp now with
    | .error failed => { s.finish i false with db := failed.left }
    | .ok otp =>
      s.proceed i (.sweeping (.reset user otp newHash) (s.db.openTokens user.id)) [] []
  | .changing actor targetUserId desiredActive =>
    match s.db.activeStateTarget actor targetUserId with
    | .error _ => s.finish i false
    | .ok target =>
      if s.userLocks.available target.id i then
        s.proceed i (.changeLocked target desiredActive) [target.id] []
      else s
  | .changeLocked target desiredActive =>
    s.proceed i
      (.sweeping (.activeState target desiredActive)
        (if desiredActive then [] else s.db.openTokens target.id)) [] []
  | .sweeping change tokens =>
    if tokens.all (s.tokenLocks.available · i) then s.proceed i (.swept change tokens) [] tokens
    else s
  | .swept change tokens =>
    match change.save s.db tokens now with
    | none => s.finish i false
    | some db =>
      { s.finish i true with
        db
        cutoffs :=
          if change.closesSessions then ⟨change.user.id, s.issued⟩ :: s.cutoffs else s.cutoffs }
  | .ended _ => s

def step (s : SessionState) (timed : TimedSessionAction) : SessionState :=
  match timed.action with
  | .signIn email password rememberMe draws =>
    match s.db.login settings email password rememberMe timed.now draws with
    | .error _ => s
    | .ok (db, user) =>
      if (s.userLocks.holder user.id).isNone then
        let (access, refresh) := AccountDatabase.tokenPair settings user timed.now draws
        { s with db, issued := access :: refresh :: s.issued }
      else s
  | .arrive request => { s with clients := s.clients ++ [arrive settings s timed.now request] }
  | .advance i draws =>
    match s.clients[i]? with
    | none => s
    | some client => s.advance settings timed.now i draws client
  | .rollback i =>
    match s.clients[i]? with
    | some (.ended _) | none => s
    | some _ => s.finish i false

/-- An installation with accounts and codes; every token is issued on the run. -/
def init (twoStep : TwoStepDatabase) (passwordResetOtps : Table PasswordResetOtp) :
    SessionState where
  db := { twoStep, passwordResetOtps }

end SessionState

end SpikeBackend
