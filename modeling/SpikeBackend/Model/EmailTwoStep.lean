import SpikeBackend.Lib.Session
import SpikeBackend.Model.Users

/-!
# Email two-step verification

The transactions of `EmailTwoStepService` (`app/services/email_two_step.py`) and of the
sign-in that starts one (`AuthService.login`). Each takes the committed database and the
instances the session of the request holds: the current user, whom the authentication of
the request loaded, and the challenge it probed before it took the user's lock.
-/

namespace SpikeBackend

open Relational Text Outcome Session

inductive EmailTwoStepPurpose
  | enable
  | disable
  | login
  deriving DecidableEq, Repr

structure EmailTwoStepChallenge where
  id : Uuid
  userId : Uuid
  createdAt : Datetime
  purpose : EmailTwoStepPurpose
  otpHash : Str
  expiresAt : Datetime
  attemptCount : Int := 0
  sessionVersion : Int := 0
  rememberMe : Bool := false
  usedAt : Option Datetime := none
  deriving DecidableEq

instance : Schema EmailTwoStepChallenge Uuid where
  key := EmailTwoStepChallenge.id
  clash _ _ := false
  checks r := decide (0 ≤ r.attemptCount) && decide (0 ≤ r.sessionVersion)
  clash_comm _ _ := rfl

inductive EmailTwoStepError
  | notFound
  | passwordInvalid
  | emailMismatch
  | stateConflict
  | challengeInvalid
  | authentication
  | inactiveAccount
  | emailVerificationRequired
  | database
  deriving DecidableEq, Repr

/-- The settings of the service and what it calls outside the repository: the password
hasher and `str.lower`. -/
structure TwoStepSettings where
  otpMaxAttempts : Int
  otpMaxAttempts_pos : 0 < otpMaxAttempts
  otpResendCooldownSeconds : Int
  emailTwoStepExpireMinutes : Int
  verifyOtp : (rawOtp otpHash : Str) → Bool
  verifyPassword : (password passwordHash : Str) → Bool
  lower : Str → Str

theorem TwoStepSettings.default_otpMaxAttempts_pos : (0 : Int) < 5 := by decide

structure TwoStepDatabase where
  users : Table User := .empty
  challenges : Table EmailTwoStepChallenge := .empty

/-- The instances that the session of a request holds. -/
structure TwoStepSession where
  /-- the current user, as the authentication of the request loaded it -/
  user : Option User := none
  /-- the challenge, as the probe loaded it -/
  challenge : Option EmailTwoStepChallenge := none

/-- The flush of a modified instance over the row. -/
def User.flush (modified loaded row : User) : User :=
  { row with
    authSessionVersion :=
      column loaded.authSessionVersion modified.authSessionVersion row.authSessionVersion
    emailTwoStepEnabled :=
      column loaded.emailTwoStepEnabled modified.emailTwoStepEnabled row.emailTwoStepEnabled
    emailTwoStepEnabledAt :=
      column loaded.emailTwoStepEnabledAt modified.emailTwoStepEnabledAt
        row.emailTwoStepEnabledAt
    lastLoginAt := column loaded.lastLoginAt modified.lastLoginAt row.lastLoginAt }

/-- `challenge.used_at = now`. -/
def EmailTwoStepChallenge.markUsed (c : EmailTwoStepChallenge) (now : Datetime) :
    EmailTwoStepChallenge :=
  { c with usedAt := some now }

namespace EmailTwoStepChallenge

@[simp] theorem markUsed_id (c : EmailTwoStepChallenge) (now : Datetime) :
    (c.markUsed now).id = c.id := rfl

@[simp] theorem markUsed_attemptCount (c : EmailTwoStepChallenge) (now : Datetime) :
    (c.markUsed now).attemptCount = c.attemptCount := rfl

@[simp] theorem markUsed_usedAt (c : EmailTwoStepChallenge) (now : Datetime) :
    (c.markUsed now).usedAt = some now := rfl

end EmailTwoStepChallenge

/-- The flush of a modified instance over the row. -/
def EmailTwoStepChallenge.flush (modified loaded row : EmailTwoStepChallenge) :
    EmailTwoStepChallenge :=
  { row with
    attemptCount := column loaded.attemptCount modified.attemptCount row.attemptCount
    usedAt := column loaded.usedAt modified.usedAt row.usedAt }

/-- `update(EmailTwoStepChallenge).where(p, used_at.is_(None)).values(used_at=now)`. -/
def expireChallenges (challenges : Table EmailTwoStepChallenge)
    (p : EmailTwoStepChallenge → Bool) (now : Datetime) : Table EmailTwoStepChallenge :=
  challenges.map (fun c => if p c && c.usedAt.isNone then c.markUsed now else c)
    (fun c => by split <;> rfl) (fun _ _ _ => rfl)
    (fun c h => by split <;> exact h)

/-- What `_lock_challenge_and_user` returns, and the rows it locked. -/
structure LockedChallenge where
  userRow : User
  user : User
  row : EmailTwoStepChallenge
  challenge : EmailTwoStepChallenge

/-- How a verification ended. -/
structure Verification where
  db : TwoStepDatabase
  result : Except EmailTwoStepError LockedChallenge
  /-- the submitted code was compared with the stored hash -/
  compared : Bool

namespace TwoStepDatabase

variable (db : TwoStepDatabase) (settings : TwoStepSettings) (session : TwoStepSession)

/-- `_lock_user`: the row and the instance the locked read answers with. -/
def lockUser (userId : Uuid) : Except EmailTwoStepError (User × User) := do
  let row ← required (db.users.get? userId) .notFound
  let user := locked (session.user.filter fun u => u.id == userId) row
  ensure (user.isActive ∧ user.isVerified ∧ user.deletedAt = none) .notFound
  return (row, user)

/-- `_lock_challenge_and_user`, after the probe. -/
def lockChallengeAndUser (challengeId : Uuid) (purpose : EmailTwoStepPurpose)
    (expectedUserId : Option Uuid) : Except EmailTwoStepError LockedChallenge := do
  let probe ← required session.challenge .challengeInvalid
  ensure (expectedUserId = none ∨ expectedUserId = some probe.userId) .challengeInvalid
  let (userRow, user) ← db.lockUser session probe.userId
  let row ← required
    (db.challenges.find? fun c => c.id == challengeId && c.userId == user.id && c.purpose == purpose)
    .challengeInvalid
  return { userRow, user, row, challenge := locked session.challenge row }

/-- Flush and commit of the challenge alone; a flush that raises is rolled back. -/
def saveChallenge (l : LockedChallenge) (modified : EmailTwoStepChallenge) : TwoStepDatabase :=
  match db.challenges.update? (modified.flush l.challenge l.row) with
  | some challenges => { db with challenges }
  | none => db

/-- `_validate_otp`: the result is an error where it raises. -/
def validateOtp (l : LockedChallenge) (rawOtp : Str) (now : Datetime) : Verification :=
  let challenge := l.challenge
  let used := challenge.markUsed now
  if challenge.usedAt.isSome ∨ challenge.expiresAt ≤ now ∨
      challenge.sessionVersion ≠ l.user.authSessionVersion then
    { db := if challenge.usedAt.isNone then db.saveChallenge l used else db
      result := .error .challengeInvalid
      compared := false }
  else if settings.otpMaxAttempts ≤ challenge.attemptCount then
    { db := db.saveChallenge l used, result := .error .challengeInvalid, compared := false }
  else if settings.verifyOtp rawOtp challenge.otpHash then
    { db, result := .ok l, compared := true }
  else
    let failed := { challenge with attemptCount := challenge.attemptCount + 1 }
    let failed :=
      if settings.otpMaxAttempts ≤ failed.attemptCount then failed.markUsed now
      else failed
    { db := db.saveChallenge l failed, result := .error .challengeInvalid, compared := true }

/-- What follows `_validate_otp` up to the commit: the challenge is used, the user changed
and, for a change of the setting, every open challenge of the user closed. -/
def saveAccepted (l : LockedChallenge) (user : User) (invalidate : Bool) (now : Datetime) :
    Option TwoStepDatabase := do
  let users ← db.users.update? (user.flush l.user l.userRow)
  let challenges ← db.challenges.update?
    ((l.challenge.markUsed now).flush l.challenge l.row)
  return { db with
    users
    challenges :=
      if invalidate then expireChallenges challenges (fun c => c.userId == user.id) now
      else challenges }

/-- `_validate_otp` and what its callers do when it returns. -/
def accept (l : LockedChallenge) (rawOtp : Str) (user : User) (invalidate : Bool)
    (now : Datetime) : Verification :=
  let checked := db.validateOtp settings l rawOtp now
  match checked.result with
  | .error _ => checked
  | .ok _ =>
    match db.saveAccepted l user invalidate now with
    | some db' => { checked with db := db' }
    | none => { checked with result := .error .database }

/-- `confirm_enable` and `confirm_disable`. -/
def confirmSetting (purpose : EmailTwoStepPurpose) (enabled : Bool) (userId challengeId : Uuid)
    (rawOtp : Str) (now : Datetime) : Verification :=
  match db.lockChallengeAndUser session challengeId purpose (some userId) with
  | .error error => { db, result := .error error, compared := false }
  | .ok l =>
    if l.user.emailTwoStepEnabled = enabled then
      { db, result := .error .stateConflict, compared := false }
    else
      db.accept settings l rawOtp
        { l.user with
          emailTwoStepEnabled := enabled
          emailTwoStepEnabledAt := if enabled then some now else none
          authSessionVersion := l.user.authSessionVersion + 1 } true now

/-- `confirm_enable`. -/
def confirmEnable (userId challengeId : Uuid) (rawOtp : Str) (now : Datetime) : Verification :=
  db.confirmSetting settings session .enable true userId challengeId rawOtp now

/-- `confirm_disable`. -/
def confirmDisable (userId challengeId : Uuid) (rawOtp : Str) (now : Datetime) : Verification :=
  db.confirmSetting settings session .disable false userId challengeId rawOtp now

/-- `consume_login`, with the commit of the sign-in it grants
(`AuthService.verify_email_two_step_login`). -/
def consumeLogin (challengeId : Uuid) (rawOtp : Str) (now : Datetime) : Verification :=
  match db.lockChallengeAndUser session challengeId .login none with
  | .error error => { db, result := .error error, compared := false }
  | .ok l =>
    if l.user.emailTwoStepEnabled = false then
      { db := db.saveChallenge l (l.challenge.markUsed now)
        result := .error .challengeInvalid
        compared := false }
    else db.accept settings l rawOtp { l.user with lastLoginAt := some now } false now

-- ---------------------------------------------------------------------------
-- Issuance
-- ---------------------------------------------------------------------------

/-- `_latest_active_challenge`: the newest open challenge, as the session reads it. -/
def latestActiveChallenge (userId : Uuid) (purpose : EmailTwoStepPurpose) :
    Option EmailTwoStepChallenge :=
  let open? := db.challenges.rows.filter fun c =>
    c.userId == userId && c.purpose == purpose && c.usedAt.isNone
  let newest := open?.foldl (fun best c =>
    match best with
    | some b => if b.createdAt < c.createdAt then some c else some b
    | none => some c) none
  newest.map fun row => locked (session.challenge.filter fun c => c.id == row.id) row

/-- What an issuance draws from outside: `uuid4`, the hash of a random code and the time
at which the row is made. -/
structure IssueDraws where
  id : Uuid
  otpHash : Str
  createdAt : Datetime

/-- `_issue_locked`: the database, and the challenge the response shows. -/
def issueLocked (user : User) (purpose : EmailTwoStepPurpose) (rememberMe reuseDuringCooldown : Bool)
    (now : Datetime) (draws : IssueDraws) :
    Except EmailTwoStepError (TwoStepDatabase × EmailTwoStepChallenge) :=
  let current := (db.latestActiveChallenge session user.id purpose).filter fun c =>
    reuseDuringCooldown && decide (now < c.expiresAt) &&
      c.sessionVersion == user.authSessionVersion &&
      decide (now - c.createdAt < seconds settings.otpResendCooldownSeconds)
  match current with
  | some challenge => .ok (db, challenge)
  | none => do
    let challenge : EmailTwoStepChallenge :=
      { id := draws.id, userId := user.id, createdAt := draws.createdAt, purpose,
        otpHash := draws.otpHash,
        expiresAt := now + minutes settings.emailTwoStepExpireMinutes,
        sessionVersion := user.authSessionVersion, rememberMe }
    let expired := expireChallenges db.challenges
      (fun c => c.userId == user.id && c.purpose == purpose) now
    let challenges ← required (expired.insert? challenge) .database
    return ({ db with challenges }, challenge)

/-- `AuthService.login`; a sign-in without a second step answers with no challenge. -/
def login (email password : Str) (rememberMe : Bool) (now : Datetime) (draws : IssueDraws) :
    Except EmailTwoStepError (TwoStepDatabase × Option EmailTwoStepChallenge) := do
  let row ← required
    (db.users.find? fun u => u.email == normalizeEmail settings.lower email) .authentication
  let user := locked (session.user.filter fun u => u.id == row.id) row
  ensure (settings.verifyPassword password user.passwordHash) .authentication
  ensure user.isActive .inactiveAccount
  ensure user.isVerified .emailVerificationRequired
  if user.emailTwoStepEnabled then
    let (db', challenge) ← db.issueLocked settings session user .login rememberMe true now draws
    return (db', some challenge)
  else
    let users ← required
      (db.users.update? (User.flush { user with lastLoginAt := some now } user row)) .database
    return ({ db with users }, none)

/-- `request_enable`. -/
def requestEnable (userId : Uuid) (email currentPassword : Str) (now : Datetime)
    (draws : IssueDraws) : Except EmailTwoStepError (TwoStepDatabase × EmailTwoStepChallenge) := do
  let (_, user) ← db.lockUser session userId
  ensure (settings.verifyPassword currentPassword user.passwordHash) .passwordInvalid
  ensure (normalizeEmail settings.lower email = user.email) .emailMismatch
  ensure (user.emailTwoStepEnabled = false) .stateConflict
  db.issueLocked settings session user .enable false true now draws

/-- `request_disable`. -/
def requestDisable (userId : Uuid) (currentPassword : Str) (now : Datetime) (draws : IssueDraws) :
    Except EmailTwoStepError (TwoStepDatabase × EmailTwoStepChallenge) := do
  let (_, user) ← db.lockUser session userId
  ensure (settings.verifyPassword currentPassword user.passwordHash) .passwordInvalid
  ensure (user.emailTwoStepEnabled = true) .stateConflict
  db.issueLocked settings session user .disable false true now draws

/-- What a challenge of the purpose needs of the setting. -/
def settingAllows (purpose : EmailTwoStepPurpose) (user : User) : Bool :=
  match purpose with
  | .login | .disable => user.emailTwoStepEnabled
  | .enable => !user.emailTwoStepEnabled

/-- `resend`, after the probe: the database and the challenge the response shows, or the
error, with the database a commit before it leaves. -/
def resend (challengeId : Uuid) (allowedPurposes : List EmailTwoStepPurpose)
    (expectedUserId : Option Uuid) (now : Datetime) (draws : IssueDraws) :
    TwoStepDatabase × Except EmailTwoStepError EmailTwoStepChallenge :=
  match session.challenge with
  | none => (db, .error .challengeInvalid)
  | some probe =>
    if probe.purpose ∉ allowedPurposes then (db, .error .challengeInvalid)
    else
      match db.lockChallengeAndUser session challengeId probe.purpose expectedUserId with
      | .error error => (db, .error error)
      | .ok l =>
        if l.challenge.usedAt.isSome ∨ l.challenge.expiresAt ≤ now ∨
            l.challenge.sessionVersion ≠ l.user.authSessionVersion ∨
            settingAllows probe.purpose l.user = false then
          (if l.challenge.usedAt.isNone then
              db.saveChallenge l (l.challenge.markUsed now)
            else db, .error .challengeInvalid)
        else if now - l.challenge.createdAt < seconds settings.otpResendCooldownSeconds then
          (db, .ok l.challenge)
        else
          match db.issueLocked settings session l.user probe.purpose l.challenge.rememberMe false
              now draws with
          | .ok (db', challenge) => (db', .ok challenge)
          | .error error => (db, .error error)

end TwoStepDatabase

end SpikeBackend
