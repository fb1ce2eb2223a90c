import SpikeBackend.Model.Accounts

/-!
# Verification and reset codes

The one-time codes of `AuthService` (`app/services/auth.py`): registration and its resend
issue a code for the verification of an address, `request_password_reset` one for a reset;
`verify_email` uses a code up, `verify_password_reset_otp` marks one as verified, and
`reset_password` (`Model.Accounts`) uses that one up. Each locks the row of the account
with its first statement and is one transaction here. What the source writes once for both
tables is written once over `CodeModel`.
-/

namespace SpikeBackend

open Relational Text Outcome Session

structure EmailVerificationOtp extends OneTimeCode

instance : Schema EmailVerificationOtp Uuid where
  key r := r.id
  clash a b := a.otpHash == b.otpHash
  checks _ := true
  clash_comm _ _ := BEq.comm

/-- A table of one-time codes: `otp_model`. -/
class CodeModel (ρ : Type) [Schema ρ Uuid] where
  code : ρ → OneTimeCode
  withCode : ρ → OneTimeCode → ρ
  ofCode : OneTimeCode → ρ
  key_eq : ∀ r : ρ, Schema.key r = (code r).id
  clash_eq : ∀ a b : ρ, Schema.clash a b = ((code a).otpHash == (code b).otpHash)
  checks_eq : ∀ r : ρ, Schema.checks r = true
  code_withCode : ∀ r c, code (withCode r c) = c
  code_ofCode : ∀ c, code (ofCode c) = c

instance emailVerificationModel : CodeModel EmailVerificationOtp where
  code r := r.toOneTimeCode
  withCode _ c := ⟨c⟩
  ofCode c := ⟨c⟩
  key_eq _ := rfl
  clash_eq _ _ := rfl
  checks_eq _ := rfl
  code_withCode _ _ := rfl
  code_ofCode _ := rfl

instance passwordResetModel : CodeModel PasswordResetOtp where
  code r := r.toOneTimeCode
  withCode r c := { r with toOneTimeCode := c }
  ofCode c := { toOneTimeCode := c }
  key_eq _ := rfl
  clash_eq _ _ := rfl
  checks_eq _ := rfl
  code_withCode _ _ := rfl
  code_ofCode _ := rfl

/-- The settings of the two kinds of code. -/
structure CodeSettings extends AuthSettings where
  emailVerificationExpireMinutes : Int
  passwordResetExpireMinutes : Int

/-- What the issue of a code draws: the row's identifier and creation time, and the salted
hash of the six digits. -/
structure OtpDraws where
  id : Uuid
  createdAt : Datetime
  otpHash : Str

-- ---------------------------------------------------------------------------
-- The tables
-- ---------------------------------------------------------------------------

section Codes

variable {ρ : Type} [Schema ρ Uuid] [CodeModel ρ] (settings : AuthSettings) (codes : Table ρ)

open CodeModel

/-- A code that the issue of the next one ends. -/
def invalidated (userId : Uuid) (now : Datetime) (r : ρ) : ρ :=
  if (code r).userId = userId ∧ (code r).usedAt = none then withCode r ((code r).markUsed now) else r

theorem code_invalidated (userId : Uuid) (now : Datetime) (r : ρ) :
    (code (invalidated userId now r)) =
      if (code r).userId = userId ∧ (code r).usedAt = none then (code r).markUsed now
      else code r := by
  unfold invalidated
  split
  · exact code_withCode _ _
  · rfl

theorem code_invalidated_fixed (userId : Uuid) (now : Datetime) (r : ρ) :
    (code (invalidated userId now r)).id = (code r).id ∧
      (code (invalidated userId now r)).otpHash = (code r).otpHash := by
  rw [code_invalidated]
  split <;> exact ⟨rfl, rfl⟩

/-- `update(otp_model).where(user_id == ..., used_at.is_(None)).values(used_at=now)`. -/
def invalidate (userId : Uuid) (now : Datetime) : Table ρ :=
  codes.map (invalidated userId now)
    (fun r => by rw [key_eq, key_eq, (code_invalidated_fixed userId now r).1])
    (fun a b h => by
      rw [clash_eq] at h ⊢
      rw [(code_invalidated_fixed userId now a).2, (code_invalidated_fixed userId now b).2]
      exact h)
    (fun r _ => checks_eq _)

/-- `_resend_is_allowed`. -/
def resendIsAllowed (userId : Uuid) (now : Datetime) : Bool :=
  match codes.latest? (fun r => (code r).userId == userId) (fun r => (code r).createdAt) with
  | none => true
  | some last => decide (seconds settings.otpResendCooldownSeconds ≤ now - (code last).createdAt)

/-- `_issue_otp`: `none` is a request inside the cooldown, or one whose insert fails. -/
def issueOtp (userId : Uuid) (expiresInMinutes : Int) (enforceResendCooldown : Bool)
    (now : Datetime) (draws : OtpDraws) : Option (Table ρ) :=
  if enforceResendCooldown && !resendIsAllowed settings codes userId now then none
  else
    (invalidate codes userId now).insert? (ofCode
      { id := draws.id
        userId := userId
        createdAt := draws.createdAt
        otpHash := draws.otpHash
        expiresAt := now + minutes expiresInMinutes })

/-- `_get_active_otp`. -/
def activeOtp (userId : Uuid) : Option ρ :=
  codes.latest? (fun r => (code r).userId == userId && (code r).usedAt.isNone)
    (fun r => (code r).createdAt)

/-- `_get_active_otp` and `_validate_otp`: the code, or the table as a failed attempt commits
it. -/
def validateOtp (userId : Uuid) (rawOtp : Str) (now : Datetime) :
    Except (FailedAttempt (Table ρ)) ρ :=
  match activeOtp codes userId with
  | none => .error { left := codes }
  | some otp =>
    match (code otp).validate settings rawOtp now with
    | .error failed =>
      .error (failed.map fun failed => (codes.update? (withCode otp failed)).getD codes)
    | .ok () => .ok otp

end Codes

-- ---------------------------------------------------------------------------
-- The services
-- ---------------------------------------------------------------------------

structure CodeDatabase extends AccountDatabase where
  emailVerificationOtps : Table EmailVerificationOtp := .empty

namespace CodeDatabase

variable (db : CodeDatabase) (settings : CodeSettings)

/-- The database with other accounts. -/
def setUsers (users : Table User) : CodeDatabase :=
  { db with toAccountDatabase := db.withUsers users }

/-- `_get_user_by_email`. -/
def userByEmail (email : Str) : Option User :=
  db.users.find? fun u => u.email == normalizeEmail settings.lower email

/-- `register`, up to the delivery of its code. -/
def register (email passwordHash : Str) (userId : Uuid) (now : Datetime) (draws : OtpDraws) :
    Option CodeDatabase := do
  guard (db.userByEmail settings email).isNone
  let users ← db.users.insert?
    { id := userId, email := normalizeEmail settings.lower email, passwordHash }
  let emailVerificationOtps ← issueOtp settings.toAuthSettings db.emailVerificationOtps userId
    settings.emailVerificationExpireMinutes false now draws
  return { db.setUsers users with emailVerificationOtps }

/-- The account that `resend_verification` and `verify_email` go on with. -/
def unverifiedUser (email : Str) : Option User :=
  (db.userByEmail settings email).filter fun u => u.isActive && !u.isVerified

/-- What `resend_verification` and `request_password_reset` do once they have their account. -/
def requestCode {ρ : Type} [Schema ρ Uuid] [CodeModel ρ] (user : Option User) (codes : Table ρ)
    (expiresInMinutes : Int) (save : Table ρ → CodeDatabase) (now : Datetime) (draws : OtpDraws) :
    Option (CodeDatabase × User) := do
  let user ← user
  let codes ← issueOtp settings.toAuthSettings codes user.id expiresInMinutes true now draws
  return (save codes, user)

/-- `resend_verification`, with the account that gets the code. -/
def resendVerification (email : Str) (now : Datetime) (draws : OtpDraws) :
    Option (CodeDatabase × User) :=
  requestCode settings (db.unverifiedUser settings email) db.emailVerificationOtps
    settings.emailVerificationExpireMinutes
    (fun emailVerificationOtps => { db with emailVerificationOtps }) now draws

/-- What `verify_email` writes over an accepted code. -/
def saveVerification (user : User) (otp : EmailVerificationOtp) (now : Datetime) :
    Option CodeDatabase := do
  let users ← db.users.update? (User.flushAccount { user with isVerified := true } user user)
  let emailVerificationOtps ← db.emailVerificationOtps.update?
    ⟨otp.toOneTimeCode.markUsed now⟩
  return { db.setUsers users with emailVerificationOtps }

/-- `verify_email` of an account: the code it uses up, or the database that a failed attempt
commits. -/
def verifyEmail (user : User) (rawOtp : Str) (now : Datetime) :
    Except (FailedAttempt CodeDatabase) (CodeDatabase × EmailVerificationOtp) :=
  match validateOtp settings.toAuthSettings db.emailVerificationOtps user.id rawOtp now with
  | .error failed =>
    .error (failed.map fun emailVerificationOtps => { db with emailVerificationOtps })
  | .ok otp =>
    match db.saveVerification user otp now with
    | some db' => .ok (db', otp)
    | none => .error { left := db }

/-- `request_password_reset`, with the account that gets the code. -/
def requestPasswordReset (email : Str) (now : Datetime) (draws : OtpDraws) :
    Option (CodeDatabase × User) :=
  requestCode settings (db.resetUser settings.toAuthSettings email) db.passwordResetOtps
    settings.passwordResetExpireMinutes (fun passwordResetOtps => { db with passwordResetOtps })
    now draws

/-- `verify_password_reset_otp` of an account. -/
def verifyPasswordResetOtp (user : User) (rawOtp : Str) (now : Datetime) :
    Except (FailedAttempt CodeDatabase) (CodeDatabase × PasswordResetOtp) :=
  match validateOtp settings.toAuthSettings db.passwordResetOtps user.id rawOtp now with
  | .error failed => .error (failed.map fun passwordResetOtps => { db with passwordResetOtps })
  | .ok otp =>
    match db.passwordResetOtps.update? { otp with verifiedAt := some now } with
    | some passwordResetOtps => .ok ({ db with passwordResetOtps }, otp)
    | none => .error { left := db }

/-- `reset_password`, with the code that it used up. -/
def resetPassword (email rawOtp newHash : Str) (now : Datetime) :
    Except (FailedAttempt CodeDatabase) (CodeDatabase × PasswordResetOtp) :=
  match db.toAccountDatabase.resetPassword settings.toAuthSettings email rawOtp newHash now with
  | .error failed =>
    .error (failed.map fun accounts => { db with toAccountDatabase := accounts })
  | .ok (accounts, _, otp) => .ok ({ db with toAccountDatabase := accounts }, otp)

end CodeDatabase

end SpikeBackend
