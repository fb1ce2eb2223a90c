import SpikeBackend.Lib.Machine
import SpikeBackend.Model.VerificationCodes

/-!
# Runs over the one-time codes

Registrations and requests that issue, verify and use up the codes of accounts, in any
order and at any times; the other services change accounts and close their codes. A run
keeps a log of what became of the codes, newest event first.
-/

namespace SpikeBackend

open Relational Text

inductive OtpKind
  | emailVerification
  | passwordReset
  deriving DecidableEq, Repr

inductive CodeEvent
  | issued (kind : OtpKind) (userId codeId : Uuid)
  /-- a wrong code was compared with the stored hash -/
  | wrong (kind : OtpKind) (codeId : Uuid)
  /-- a verification accepted the code, as its row was before -/
  | accepted (kind : OtpKind) (code : OneTimeCode) (now : Datetime)
  /-- a password reset accepted the code and committed -/
  | reset (code : OneTimeCode) (now : Datetime)

inductive CodeAction
  | register (email passwordHash : Str) (userId : Uuid) (draws : OtpDraws)
  | resendVerification (email : Str) (draws : OtpDraws)
  | verifyEmail (email rawOtp : Str)
  | requestPasswordReset (email : Str) (draws : OtpDraws)
  | verifyPasswordResetOtp (email rawOtp : Str)
  | resetPassword (email rawOtp newHash : Str)
  /-- `_invalidate_auth_otps` of another service -/
  | invalidate (userId : Uuid)
  /-- the other services change the accounts -/
  | changeUsers (users : Table User)

structure TimedCodeAction where
  now : Datetime
  action : CodeAction

structure CodeState where
  db : CodeDatabase
  log : List CodeEvent := []

namespace CodeState

variable (settings : CodeSettings) (s : CodeState)

/-- A transaction and what it logs. -/
def commit (db : CodeDatabase) (event : Option CodeEvent) : CodeState where
  db := db
  log := event.toList ++ s.log

/-- A failed attempt; what it logs is the comparison that it made. -/
def fail (kind : OtpKind) (failed : FailedAttempt CodeDatabase) : CodeState :=
  s.commit failed.left (failed.compared.map (.wrong kind))

def verifyEmail (user : User) (rawOtp : Str) (now : Datetime) : CodeState :=
  match s.db.verifyEmail settings user rawOtp now with
  | .error failed => s.fail .emailVerification failed
  | .ok (db, otp) => s.commit db (some (.accepted .emailVerification otp.toOneTimeCode now))

def verifyPasswordResetOtp (user : User) (rawOtp : Str) (now : Datetime) : CodeState :=
  match s.db.verifyPasswordResetOtp settings user rawOtp now with
  | .error failed => s.fail .passwordReset failed
  | .ok (db, otp) => s.commit db (some (.accepted .passwordReset otp.toOneTimeCode now))

def resetPassword (email rawOtp newHash : Str) (now : Datetime) : CodeState :=
  match s.db.resetPassword settings email rawOtp newHash now with
  | .error failed => s.fail .passwordReset failed
  | .ok (db, otp) => s.commit db (some (.reset otp.toOneTimeCode now))

def step (s : CodeState) (timed : TimedCodeAction) : CodeState :=
  let now := timed.now
  match timed.action with
  | .register email passwordHash userId draws =>
    match s.db.register settings email passwordHash userId now draws with
    | none => s
    | some db => s.commit db (some (.issued .emailVerification userId draws.id))
  | .resendVerification email draws =>
    match s.db.resendVerification settings email now draws with
    | none => s
    | some (db, user) => s.commit db (some (.issued .emailVerification user.id draws.id))
  | .verifyEmail email rawOtp =>
    match s.db.unverifiedUser settings email with
    | none => s
    | some user => s.verifyEmail settings user rawOtp now
  | .requestPasswordReset email draws =>
    match s.db.requestPasswordReset settings email now draws with
    | none => s
    | some (db, user) => s.commit db (some (.issued .passwordReset user.id draws.id))
  | .verifyPasswordResetOtp email rawOtp =>
    match s.db.resetUser settings.toAuthSettings email with
    | none => s
    | some user => s.verifyPasswordResetOtp settings user rawOtp now
  | .resetPassword email rawOtp newHash => s.resetPassword settings email rawOtp newHash now
  | .invalidate userId =>
    s.commit
      { s.db with
        passwordResetOtps := invalidate s.db.passwordResetOtps userId now
        emailVerificationOtps := invalidate s.db.emailVerificationOtps userId now } none
  | .changeUsers users => s.commit (s.db.setUsers users) none

/-- An installation with accounts, before the first code. -/
def init (users : Table User) : CodeState where
  db := { twoStep := { users } }

end CodeState

end SpikeBackend
