import SpikeBackend.Model.EmailTwoStep

/-!
# Account security and sessions

The tokens and one-time codes of `app/models/auth.py` and the transactions over them:
sign-in, refresh, logout and password reset (`app/services/auth.py`), self-service changes
of the credentials (`app/services/account_security.py`) and the suspension of an account
(`app/services/admin_accounts.py`). A transaction whose statements wait for locks of other
rows is given in parts, one for each statement that reads.
-/

namespace SpikeBackend

open Relational Text Outcome Session

-- ---------------------------------------------------------------------------
-- Tokens and codes
-- ---------------------------------------------------------------------------

inductive TokenType
  | access
  | refresh
  deriving DecidableEq, Repr

/-- The claims of a JWT. -/
structure DecodedToken where
  userId : Uuid
  tokenId : Uuid
  tokenType : TokenType
  sessionVersion : Int
  expiresAt : Datetime
  deriving DecidableEq

/-- An instant as a JWT keeps it, in whole seconds. -/
def jwtInstant (t : Datetime) : Datetime := seconds (t / 1000000)

structure RefreshToken where
  id : Uuid
  userId : Uuid
  tokenId : Uuid
  tokenHash : Str
  expiresAt : Datetime
  isPersistent : Bool := false
  revokedAt : Option Datetime := none

instance : Schema RefreshToken Uuid where
  key := RefreshToken.id
  clash a b := a.tokenId == b.tokenId
  checks _ := true
  clash_comm _ _ := BEq.comm

/-- What the tables of one-time codes share. -/
structure OneTimeCode where
  id : Uuid
  userId : Uuid
  createdAt : Datetime
  otpHash : Str
  expiresAt : Datetime
  attemptCount : Int := 0
  usedAt : Option Datetime := none

structure PasswordResetOtp extends OneTimeCode where
  verifiedAt : Option Datetime := none

structure EmailChangeOtp extends OneTimeCode where
  newEmail : Str

instance : Schema PasswordResetOtp Uuid where
  key r := r.id
  clash a b := a.otpHash == b.otpHash
  checks _ := true
  clash_comm _ _ := BEq.comm

instance : Schema EmailChangeOtp Uuid where
  key r := r.id
  clash a b := a.otpHash == b.otpHash
  checks _ := true
  clash_comm _ _ := BEq.comm

/-- The settings of the services, and the JWT library and SHA-256 that they call. -/
structure AuthSettings extends TwoStepSettings where
  accessTokenExpireMinutes : Int
  refreshTokenExpireDays : Int
  /-- `jwt.encode` of the claims and `iat` -/
  encodeJwt : DecodedToken → Datetime → Str
  /-- `decode_jwt_token`, at an instant -/
  decodeJwt : Datetime → Str → Option DecodedToken
  hashOpaqueToken : Str → Str

structure AccountDatabase where
  twoStep : TwoStepDatabase := {}
  emailChangeOtps : Table EmailChangeOtp := .empty
  passwordResetOtps : Table PasswordResetOtp := .empty
  refreshTokens : Table RefreshToken := .empty

inductive AccountError
  | notFound
  | passwordInvalid
  | passwordReuse
  | emailConflict
  | otpInvalid
  | tokenInvalid
  | authentication
  | inactiveAccount
  | emailVerificationRequired
  | twoStepRequired
  | actorForbidden
  | targetForbidden
  | database
  | twoStep (error : EmailTwoStepError)
  deriving DecidableEq, Repr

/-- An attempt on a code that fails: what it leaves, and the code that the submitted one was
compared with. -/
structure FailedAttempt (α : Type) where
  left : α
  compared : Option Uuid := none

/-- The same attempt, seen as a part of something else. -/
def FailedAttempt.map {α β : Type} (f : α → β) (a : FailedAttempt α) : FailedAttempt β where
  left := f a.left
  compared := a.compared

/-- The flush of a modified account over its row. -/
def User.flushAccount (modified loaded row : User) : User :=
  { modified.flush loaded row with
    email := column loaded.email modified.email row.email
    passwordHash := column loaded.passwordHash modified.passwordHash row.passwordHash
    isActive := column loaded.isActive modified.isActive row.isActive
    isVerified := column loaded.isVerified modified.isVerified row.isVerified }

namespace OneTimeCode

def markUsed (c : OneTimeCode) (now : Datetime) : OneTimeCode := { c with usedAt := some now }

/-- `_validate_otp` and `_validate_email_change_otp` of a stored code: the error has the code
as the commit before the exception leaves it. -/
def validate (settings : AuthSettings) (c : OneTimeCode) (rawOtp : Str) (now : Datetime) :
    Except (FailedAttempt OneTimeCode) Unit :=
  if c.usedAt.isSome ∨ c.expiresAt ≤ now then
    .error { left := if c.usedAt.isNone then c.markUsed now else c }
  else if settings.otpMaxAttempts ≤ c.attemptCount then .error { left := c.markUsed now }
  else if settings.verifyOtp rawOtp c.otpHash then .ok ()
  else
    let failed := { c with attemptCount := c.attemptCount + 1 }
    .error
      { left :=
          if settings.otpMaxAttempts ≤ failed.attemptCount then failed.markUsed now else failed
        compared := some c.id }

end OneTimeCode

/-- `update(EmailChangeOTP).where(user_id == ..., used_at.is_(None)).values(used_at=now)`. -/
def expireEmailChangeOtps (otps : Table EmailChangeOtp) (userId : Uuid) (now : Datetime) :
    Table EmailChangeOtp :=
  otps.map (fun c =>
      if c.userId == userId && c.usedAt.isNone then { c with usedAt := some now } else c)
    (fun c => by split <;> rfl) (fun a b h => by split <;> split <;> exact h) (fun _ _ => rfl)

/-- The same of `PasswordResetOTP`. -/
def expirePasswordResetOtps (otps : Table PasswordResetOtp) (userId : Uuid) (now : Datetime) :
    Table PasswordResetOtp :=
  otps.map (fun c =>
      if c.userId == userId && c.usedAt.isNone then { c with usedAt := some now } else c)
    (fun c => by split <;> rfl) (fun a b h => by split <;> split <;> exact h) (fun _ _ => rfl)

/-- `update(RefreshToken).where(p, revoked_at.is_(None)).values(revoked_at=now)`. -/
def revokeTokens (tokens : Table RefreshToken) (p : RefreshToken → Bool) (now : Datetime) :
    Table RefreshToken :=
  tokens.map (fun t => if p t && t.revokedAt.isNone then { t with revokedAt := some now } else t)
    (fun t => by split <;> rfl) (fun a b h => by split <;> split <;> exact h) (fun _ _ => rfl)

namespace AccountDatabase

variable (db : AccountDatabase) (settings : AuthSettings)

def users : Table User := db.twoStep.users

/-- The database with other accounts. -/
def withUsers (users : Table User) : AccountDatabase :=
  { db with twoStep := { db.twoStep with users } }

/-- `get_current_user`, once the access token is decoded. -/
def currentUser (token : DecodedToken) : Option User :=
  (db.users.get? token.userId).filter fun u =>
    token.tokenType == .access && u.isActive && u.authSessionVersion == token.sessionVersion

-- ---------------------------------------------------------------------------
-- Token pairs
-- ---------------------------------------------------------------------------

/-- The identifiers that a token pair draws. -/
structure TokenDraws where
  id : Uuid
  accessTokenId : Uuid
  refreshTokenId : Uuid

/-- `expires_at` of a refresh token. -/
def refreshExpiry (now : Datetime) : Datetime :=
  now + minutes (settings.refreshTokenExpireDays * 24 * 60)

/-- The claims of the access and the refresh token of `_create_token_pair`. -/
def tokenPair (user : User) (now : Datetime) (draws : TokenDraws) : DecodedToken × DecodedToken :=
  (⟨user.id, draws.accessTokenId, .access, user.authSessionVersion,
      jwtInstant (now + minutes settings.accessTokenExpireMinutes)⟩,
    ⟨user.id, draws.refreshTokenId, .refresh, user.authSessionVersion,
      jwtInstant (refreshExpiry settings now)⟩)

/-- `_create_token_pair`, up to its commit. -/
def createTokenPair (user : User) (rememberMe : Bool) (now : Datetime) (draws : TokenDraws) :
    Option AccountDatabase := do
  let (_, refresh) := tokenPair settings user now draws
  let refreshTokens ← db.refreshTokens.insert?
    { id := draws.id
      userId := user.id
      tokenId := draws.refreshTokenId
      tokenHash := settings.hashOpaqueToken (settings.encodeJwt refresh now)
      expiresAt := refreshExpiry settings now  -- the row keeps the microseconds
      isPersistent := rememberMe }
  return { db with refreshTokens }

/-- `login` of an account without the second step. -/
def login (email password : Str) (rememberMe : Bool) (now : Datetime) (draws : TokenDraws) :
    Except AccountError (AccountDatabase × User) := do
  let user ← required
    (db.users.find? fun u => u.email == normalizeEmail settings.lower email) .authentication
  ensure (settings.verifyPassword password user.passwordHash) .authentication
  ensure user.isActive .inactiveAccount
  ensure user.isVerified .emailVerificationRequired
  ensure (user.emailTwoStepEnabled = false) .twoStepRequired
  let users ← required
    (db.users.update? (User.flushAccount { user with lastLoginAt := some now } user user)) .database
  let db ← required ((db.withUsers users).createTokenPair settings user rememberMe now draws)
    .database
  return (db, user)

-- ---------------------------------------------------------------------------
-- Refresh and logout
-- ---------------------------------------------------------------------------

/-- `refresh` and `logout`: the row that their first statement locks. -/
def storedToken (claims : DecodedToken) : Option RefreshToken :=
  db.refreshTokens.find? (·.tokenId == claims.tokenId)

/-- `refresh` accepts the stored token. -/
def acceptsToken (stored : RefreshToken) (rawToken : Str) (now : Datetime) : Bool :=
  stored.revokedAt.isNone && decide (now < stored.expiresAt) &&
    stored.tokenHash == settings.hashOpaqueToken rawToken

/-- `refresh` accepts the account. -/
def acceptsUser (claims : DecodedToken) (user : User) : Bool :=
  user.isActive && user.isVerified && claims.sessionVersion == user.authSessionVersion

/-- `stored_token.revoked_at = utc_now()` and the flush of it. -/
def revoke (stored : RefreshToken) (now : Datetime) : Option AccountDatabase := do
  let refreshTokens ← db.refreshTokens.update? { stored with revokedAt := some now }
  return { db with refreshTokens }

/-- What `refresh` writes. -/
def rotate (stored : RefreshToken) (user : User) (now : Datetime) (draws : TokenDraws) :
    Option AccountDatabase := do
  let db ← db.revoke stored now
  db.createTokenPair settings user stored.isPersistent now draws

-- ---------------------------------------------------------------------------
-- Password reset
-- ---------------------------------------------------------------------------

/-- The account that `reset_password` locks. -/
def resetUser (email : Str) : Option User :=
  (db.users.find? fun u => u.email == normalizeEmail settings.lower email).filter fun u =>
    u.isActive && u.isVerified

/-- `_get_active_otp`. -/
def activeResetOtp (userId : Uuid) : Option PasswordResetOtp :=
  db.passwordResetOtps.latest? (fun c => c.userId == userId && c.usedAt.isNone) (·.createdAt)

/-- The code that `reset_password` uses up, or the database that a failed attempt commits. -/
def validateReset (userId : Uuid) (rawOtp : Str) (now : Datetime) :
    Except (FailedAttempt AccountDatabase) PasswordResetOtp :=
  match db.activeResetOtp userId with
  | none => .error { left := db }
  | some otp =>
    match otp.toOneTimeCode.validate settings rawOtp now with
    | .error failed =>
      .error <| failed.map fun failed =>
        match db.passwordResetOtps.update? { otp with toOneTimeCode := failed } with
        | some passwordResetOtps => { db with passwordResetOtps }
        | none => db
    | .ok () => if otp.verifiedAt.isSome then .ok otp else .error { left := db }

/-- The refresh tokens that a sweep of the account finds, when its statement starts. -/
def openTokens (userId : Uuid) : List Uuid :=
  (db.refreshTokens.rows.filter fun t => t.userId == userId && t.revokedAt.isNone).map (·.id)

/-- What `reset_password` writes, over the account and the tokens that it has locked. -/
def saveReset (user row : User) (otp : PasswordResetOtp) (passwordHash : Str) (swept : List Uuid)
    (now : Datetime) : Option AccountDatabase := do
  let users ← db.users.update? (User.flushAccount
    { user with passwordHash, authSessionVersion := user.authSessionVersion + 1 } user row)
  let passwordResetOtps ← db.passwordResetOtps.update? { otp with usedAt := some now }
  return {
    twoStep := {
      users
      challenges := expireChallenges db.twoStep.challenges (fun c => c.userId == user.id) now }
    emailChangeOtps := expireEmailChangeOtps db.emailChangeOtps user.id now
    passwordResetOtps
    refreshTokens := revokeTokens db.refreshTokens (fun t => swept.contains t.id) now }

-- ---------------------------------------------------------------------------
-- Suspension and reactivation
-- ---------------------------------------------------------------------------

/-- `_validate_actor`. -/
def validActor (actor : User) : Bool :=
  actor.role == .superAdmin && actor.isActive && actor.isVerified

/-- The account that `_change_active_state` locks, if the actor may change it. -/
def activeStateTarget (actor : User) (targetUserId : Uuid) : Except AccountError User := do
  let target ← required (db.users.get? targetUserId) .notFound
  ensure (target.id ≠ actor.id ∧ target.role = .user) .targetForbidden
  return target

/-- The account as `_change_active_state` leaves it: a suspension invalidates all access
tokens. -/
def withActiveState (target : User) (desiredActive : Bool) : User :=
  if target.isActive = desiredActive then target
  else
    { target with
      isActive := desiredActive
      authSessionVersion :=
        if desiredActive then target.authSessionVersion else target.authSessionVersion + 1 }

/-- What `_change_active_state` writes, over the account and the tokens that it has
locked. -/
def saveActiveState (target row : User) (desiredActive : Bool) (swept : List Uuid)
    (now : Datetime) : Option AccountDatabase := do
  let users ← db.users.update?
    (User.flushAccount (withActiveState target desiredActive) target row)
  return {
    db.withUsers users with
    refreshTokens :=
      if desiredActive then db.refreshTokens
      else revokeTokens db.refreshTokens (fun t => swept.contains t.id) now }

-- ---------------------------------------------------------------------------
-- Changes of the credentials
-- ---------------------------------------------------------------------------

/-- `_lock_user` of `AccountSecurityService`: the row, and the instance that the locked read
answers with. -/
def lockUser (loaded : Option User) (userId : Uuid) : Except AccountError (User × User) := do
  let row ← required (db.users.get? userId) .notFound
  let user := locked (loaded.filter fun u => u.id == userId) row
  ensure (user.isActive ∧ user.deletedAt = none) .notFound
  return (row, user)

/-- `_revoke_sessions` and `_invalidate_auth_otps`. -/
def closeSessions (userId : Uuid) (now : Datetime) : AccountDatabase where
  twoStep := {
    db.twoStep with
    challenges := expireChallenges db.twoStep.challenges (fun c => c.userId == userId) now }
  emailChangeOtps := expireEmailChangeOtps db.emailChangeOtps userId now
  passwordResetOtps := expirePasswordResetOtps db.passwordResetOtps userId now
  refreshTokens := revokeTokens db.refreshTokens (·.userId == userId) now

/-- `change_password`, with the hash of the new password. -/
def changePassword (loaded : Option User) (userId : Uuid)
    (currentPassword newPassword newHash : Str) (now : Datetime) :
    Except AccountError AccountDatabase := do
  let (row, user) ← db.lockUser loaded userId
  ensure (settings.verifyPassword currentPassword user.passwordHash) .passwordInvalid
  ensure (settings.verifyPassword newPassword user.passwordHash = false) .passwordReuse
  let users ← required (db.users.update? (User.flushAccount
    { user with
      passwordHash := newHash
      authSessionVersion := user.authSessionVersion + 1 } user row)) .database
  return (db.withUsers users).closeSessions userId now

/-- `confirm_email_change`; the error comes with the database that a failed attempt
commits. -/
def confirmEmailChange (loaded : Option User) (userId : Uuid) (newEmail rawOtp : Str)
    (now : Datetime) : Except (AccountError × AccountDatabase) AccountDatabase :=
  match db.lockUser loaded userId with
  | .error error => .error (error, db)
  | .ok (row, user) =>
    let email := normalizeEmail settings.lower newEmail
    match db.emailChangeOtps.latest?
      (fun c => c.userId == user.id && c.newEmail == email && c.usedAt.isNone) (·.createdAt) with
    | none => .error (.otpInvalid, db)
    | some otp =>
      match otp.toOneTimeCode.validate settings rawOtp now with
      | .error failed =>
        .error (.otpInvalid,
          match db.emailChangeOtps.update? { otp with toOneTimeCode := failed.left } with
          | some emailChangeOtps => { db with emailChangeOtps }
          | none => db)
      | .ok () =>
        if (db.users.find? fun u => u.email == email && u.id != user.id).isSome then
          .error (.emailConflict, db)
        else
          let users := db.users.update? (User.flushAccount
            { user with
              email
              isVerified := true
              authSessionVersion := user.authSessionVersion + 1 } user row)
          let otps := db.emailChangeOtps.update? { otp with usedAt := some now }
          match users, otps with
          | some users, some emailChangeOtps =>
            .ok ({ db.withUsers users with emailChangeOtps }.closeSessions userId now)
          | _, _ => .error (.emailConflict, db)

/-- `confirm_enable` and `confirm_disable`, with the sweep of the refresh tokens. -/
def confirmTwoStep (session : TwoStepSession) (enabled : Bool) (userId challengeId : Uuid)
    (rawOtp : Str) (now : Datetime) : AccountDatabase × Except EmailTwoStepError LockedChallenge :=
  let v :=
    if enabled then
      db.twoStep.confirmEnable settings.toTwoStepSettings session userId challengeId rawOtp now
    else db.twoStep.confirmDisable settings.toTwoStepSettings session userId challengeId rawOtp now
  match v.result with
  | .error _ => ({ db with twoStep := v.db }, v.result)
  | .ok _ =>
    ({ db with
        twoStep := v.db
        refreshTokens := revokeTokens db.refreshTokens (·.userId == userId) now }, v.result)

/-- `reset_password`, when no other transaction holds a token of the account: the database,
with the account and the code that it used up. -/
def resetPassword (email rawOtp newHash : Str) (now : Datetime) :
    Except (FailedAttempt AccountDatabase) (AccountDatabase × User × PasswordResetOtp) :=
  match db.resetUser settings email with
  | none => .error { left := db }
  | some user =>
    match db.validateReset settings user.id rawOtp now with
    | .error failed => .error failed
    | .ok otp =>
      match db.saveReset user user otp newHash (db.openTokens user.id) now with
      | some db' => .ok (db', user, otp)
      | none => .error { left := db }

end AccountDatabase

end SpikeBackend
