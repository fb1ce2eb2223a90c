import SpikeBackend.Codes.Tables

/-!
# One-time codes

The codes for the verification of an address and for the reset of a password, on every run
of the requests that issue, verify and use them up.

* `CodesInvariant`, `step_invariant` — what the tables and the log agree on;
* `one_time_codes` — bounded guesses, no used or expired code, one unused code, and a reset
  only with a code that was verified and not replaced since.
-/

namespace SpikeBackend

open Relational Text Machine CodeModel

namespace CodeEvent

/-- A code that was accepted was neither used nor expired, and had an attempt left. -/
def AcceptsOpen (max : Int) : CodeEvent → Prop
  | .accepted _ code now | .reset code now => code.IsOpen max now
  | _ => True

end CodeEvent

/-- The reset code was verified, and the account has got no other one since. -/
def VerifiedSince (log : List CodeEvent) (codeId userId : Uuid) : Prop :=
  ∃ between code now rest, log = between ++ .accepted .passwordReset code now :: rest ∧
    code.id = codeId ∧ ∀ e ∈ between, ∀ newId, e ≠ .issued .passwordReset userId newId

/-- A verified code stays verified under every event but the issue of another one. -/
theorem VerifiedSince.cons {log : List CodeEvent} {codeId userId : Uuid} {e : CodeEvent}
    (h : VerifiedSince log codeId userId)
    (hOther : ∀ newId, e ≠ .issued .passwordReset userId newId) :
    VerifiedSince (e :: log) codeId userId := by
  obtain ⟨between, code, now, rest, rfl, hId, hNone⟩ := h
  refine ⟨e :: between, code, now, rest, rfl, hId, fun e' he' => ?_⟩
  rcases List.mem_cons.mp he' with rfl | hOld
  · exact hOther
  · exact hNone e' hOld

/-- A use of a code comes after every acceptance of it. -/
def UsedOnce (log : List CodeEvent) : Prop :=
  log.Pairwise fun newer older => ∀ kind, ∀ id ∈ older.consumedOf kind, newer.acceptedOf kind ≠ some id

/-- Every password reset was made with a code that was verified and not replaced since. -/
def ResetsVerified (log : List CodeEvent) : Prop :=
  ∀ newer code now older, log = newer ++ .reset code now :: older →
    VerifiedSince older code.id code.userId

/-- Reset codes that were rewritten: none is verified by it, and none is reopened. -/
def ResetsKept (t t' : Table PasswordResetOtp) : Prop :=
  ∀ r' ∈ t', ∃ r ∈ t, r'.id = r.id ∧ r'.userId = r.userId ∧ r'.verifiedAt = r.verifiedAt ∧
    (r'.usedAt = none → r.usedAt = none)

/-- An update that keeps the owner and the verification of a code. -/
theorem resetsKept_of_update? {t t' : Table PasswordResetOtp} {r r' : PasswordResetOtp}
    (hr : r ∈ t) (hId : r'.id = r.id) (hUser : r'.userId = r.userId)
    (hVerified : r'.verifiedAt = r.verifiedAt) (hBack : r'.usedAt = none → r.usedAt = none)
    (h : t.update? r' = some t') : ResetsKept t t' := by
  intro x hx
  rcases (Table.mem_update? h).mp hx with ⟨rfl, -⟩ | ⟨hOld, -⟩
  · exact ⟨r, hr, hId, hUser, hVerified, hBack⟩
  · exact ⟨x, hOld, rfl, rfl, rfl, fun hUnused => hUnused⟩

/-- Invalidating codes verifies none. -/
theorem resetsKept_invalidate (t : Table PasswordResetOtp) (userId : Uuid) (now : Datetime) :
    ResetsKept t (invalidate t userId now) := by
  intro r' hr'
  obtain ⟨r, hr, rfl⟩ := Table.mem_map.mp hr'
  refine ⟨r, hr, ?_⟩
  unfold invalidated
  split
  · refine ⟨rfl, rfl, rfl, fun hMarked => ?_⟩
    cases hMarked
  · exact ⟨rfl, rfl, rfl, fun hUnused => hUnused⟩

/-- A refused code verifies none. -/
theorem resetsKept_of_validate {settings : AuthSettings} {t : Table PasswordResetOtp}
    {failed : FailedAttempt (Table PasswordResetOtp)} {userId : Uuid} {rawOtp : Str}
    {now : Datetime} (h : validateOtp settings t userId rawOtp now = .error failed) :
    ResetsKept t failed.left := by
  rcases validateOtp_error_cases h with rfl | ⟨otp, attempt, hActive, hAttempt, hSaved, -⟩
  · exact fun r hr => ⟨r, hr, rfl, rfl, rfl, fun hUnused => hUnused⟩
  · obtain ⟨hMem, -, -⟩ := activeOtp_eq_some hActive
    have hFails := OneTimeCode.validate_eq_error hAttempt
    refine resetsKept_of_update? hMem ?_ ?_ ?_ ?_ hSaved
    · exact hFails.id
    · exact hFails.userId
    · rfl
    · exact hFails.unused

-- ---------------------------------------------------------------------------
-- The services
-- ---------------------------------------------------------------------------

namespace CodeDatabase

variable {db db' : CodeDatabase} {settings : CodeSettings} {failed : FailedAttempt CodeDatabase}
  {user : User} {rawOtp : Str} {now : Datetime}

/-- A registration issues a code for the address. -/
theorem register_eq_some {email passwordHash : Str} {userId : Uuid} {draws : OtpDraws}
    (h : db.register settings email passwordHash userId now draws = some db') :
    issueOtp settings.toAuthSettings db.emailVerificationOtps userId
        settings.emailVerificationExpireMinutes false now draws = some db'.emailVerificationOtps ∧
      db'.passwordResetOtps = db.passwordResetOtps := by
  simp only [register, Option.bind_eq_bind, Option.bind_eq_some_iff] at h
  obtain ⟨-, -, users, -, codes, hCodes, hDone⟩ := h
  obtain rfl := Option.some.inj hDone
  exact ⟨hCodes, rfl⟩

/-- A new code goes to the account, and its table is what the request writes. -/
theorem requestCode_eq_some {ρ : Type} [Schema ρ Uuid] [CodeModel ρ] {found : Option User}
    {t : Table ρ} {expiresInMinutes : Int} {save : Table ρ → CodeDatabase} {draws : OtpDraws}
    (h : requestCode settings found t expiresInMinutes save now draws = some (db', user)) :
    ∃ t', issueOtp settings.toAuthSettings t user.id expiresInMinutes true now draws = some t' ∧
      db' = save t' := by
  simp only [requestCode, Option.bind_eq_bind, Option.bind_eq_some_iff] at h
  obtain ⟨user', -, t', hIssue, hDone⟩ := h
  obtain ⟨rfl, rfl⟩ := Prod.mk.inj (Option.some.inj hDone)
  exact ⟨t', hIssue, rfl⟩

/-- A code that is accepted for the address is marked used. -/
theorem verifyEmail_eq_ok {otp : EmailVerificationOtp}
    (h : db.verifyEmail settings user rawOtp now = .ok (db', otp)) :
    validateOtp settings.toAuthSettings db.emailVerificationOtps user.id rawOtp now = .ok otp ∧
      db.emailVerificationOtps.update? ⟨otp.toOneTimeCode.markUsed now⟩ =
        some db'.emailVerificationOtps ∧
      db'.passwordResetOtps = db.passwordResetOtps := by
  unfold verifyEmail at h
  split at h
  · cases h
  · next otp' hValid =>
    split at h
    · next saved hSave =>
      obtain ⟨rfl, rfl⟩ := Prod.mk.inj (Except.ok.inj h)
      simp only [saveVerification, Option.bind_eq_bind, Option.bind_eq_some_iff] at hSave
      obtain ⟨users, -, codes, hCodes, hDone⟩ := hSave
      obtain rfl := Option.some.inj hDone
      exact ⟨hValid, hCodes, rfl⟩
    · cases h

/-- A code that is refused for the address: its comparison is counted, on a code with attempts left.
-/
theorem verifyEmail_eq_error (h : db.verifyEmail settings user rawOtp now = .error failed) :
    CodesAdvance db.emailVerificationOtps failed.left.emailVerificationOtps
        failed.compared.toList ∧
      (∀ id ∈ failed.compared, ∃ r ∈ db.emailVerificationOtps, (code r).id = id ∧
        (code r).attemptCount < settings.otpMaxAttempts) ∧
      failed.left.passwordResetOtps = db.passwordResetOtps := by
  unfold verifyEmail at h
  split at h
  · next attempt hAttempt =>
    obtain rfl := Except.error.inj h
    obtain ⟨hAdvance, hLeft⟩ := validateOtp_eq_error hAttempt
    exact ⟨hAdvance, hLeft, rfl⟩
  · split at h
    · cases h
    · obtain rfl := Except.error.inj h
      exact ⟨.refl _, fun id hId => (by cases hId), rfl⟩

/-- A code that is accepted for a reset is marked verified. -/
theorem verifyPasswordResetOtp_eq_ok {otp : PasswordResetOtp}
    (h : db.verifyPasswordResetOtp settings user rawOtp now = .ok (db', otp)) :
    validateOtp settings.toAuthSettings db.passwordResetOtps user.id rawOtp now = .ok otp ∧
      db.passwordResetOtps.update? { otp with verifiedAt := some now } =
        some db'.passwordResetOtps ∧
      db'.emailVerificationOtps = db.emailVerificationOtps := by
  unfold verifyPasswordResetOtp at h
  split at h
  · cases h
  · next otp' hValid =>
    split at h
    · next codes hCodes =>
      obtain ⟨rfl, rfl⟩ := Prod.mk.inj (Except.ok.inj h)
      exact ⟨hValid, hCodes, rfl⟩
    · cases h

/-- What an attempt on the reset code of an account leaves, when it fails. -/
structure ResetFailed (db : CodeDatabase) (settings : CodeSettings)
    (failed : FailedAttempt CodeDatabase) : Prop where
  advance : CodesAdvance db.passwordResetOtps failed.left.passwordResetOtps failed.compared.toList
  left : ∀ id ∈ failed.compared, ∃ r ∈ db.passwordResetOtps, (code r).id = id ∧
    (code r).attemptCount < settings.otpMaxAttempts
  kept : ResetsKept db.passwordResetOtps failed.left.passwordResetOtps
  emails : failed.left.emailVerificationOtps = db.emailVerificationOtps

theorem ResetFailed.unchanged : db.ResetFailed settings { left := db } :=
  ⟨.refl _, fun id hId => (by cases hId),
    fun r hr => ⟨r, hr, rfl, rfl, rfl, fun hUnused => hUnused⟩, rfl⟩

/-- An attempt that failed on the code. -/
theorem ResetFailed.of_error {attempt : FailedAttempt (Table PasswordResetOtp)} {userId : Uuid}
    (hAttempt : validateOtp settings.toAuthSettings db.passwordResetOtps userId rawOtp now =
      .error attempt) :
    db.ResetFailed settings (attempt.map fun passwordResetOtps => { db with passwordResetOtps }) :=
  ⟨(validateOtp_eq_error hAttempt).1, (validateOtp_eq_error hAttempt).2,
    resetsKept_of_validate hAttempt, rfl⟩

/-- A code that is refused for a reset. -/
theorem verifyPasswordResetOtp_eq_error
    (h : db.verifyPasswordResetOtp settings user rawOtp now = .error failed) :
    db.ResetFailed settings failed := by
  unfold verifyPasswordResetOtp at h
  split at h
  · next attempt hAttempt =>
    obtain rfl := Except.error.inj h
    exact .of_error hAttempt
  · split at h
    · cases h
    · obtain rfl := Except.error.inj h
      exact .unchanged

/-- `reset_password` validates the code as the others do. -/
theorem validateReset_eq (db : AccountDatabase) (settings : AuthSettings) (userId : Uuid)
    (rawOtp : Str) (now : Datetime) :
    db.validateReset settings userId rawOtp now =
      match validateOtp settings db.passwordResetOtps userId rawOtp now with
      | .error attempt =>
        .error (attempt.map fun passwordResetOtps => { db with passwordResetOtps })
      | .ok otp => if otp.verifiedAt.isSome then .ok otp else .error { left := db } := by
  unfold AccountDatabase.validateReset validateOtp
  rw [show db.activeResetOtp userId = activeOtp db.passwordResetOtps userId from rfl]
  cases hActive : activeOtp db.passwordResetOtps userId with
  | none => rfl
  | some otp =>
    dsimp only
    rw [show code otp = otp.toOneTimeCode from rfl]
    cases hValid : otp.toOneTimeCode.validate settings rawOtp now with
    | ok u => rfl
    | error failed =>
      dsimp only [FailedAttempt.map]
      rw [show withCode otp failed.left = { otp with toOneTimeCode := failed.left } from rfl]
      cases db.passwordResetOtps.update? { otp with toOneTimeCode := failed.left } <;> rfl

/-- The code of a reset has been verified before. -/
theorem validateReset_eq_ok {db : AccountDatabase} {settings : AuthSettings} {userId : Uuid}
    {otp : PasswordResetOtp} (h : db.validateReset settings userId rawOtp now = .ok otp) :
    validateOtp settings db.passwordResetOtps userId rawOtp now = .ok otp ∧
      otp.verifiedAt ≠ none := by
  rw [validateReset_eq] at h
  split at h
  · cases h
  · next otp' hValid =>
    split at h
    · next hVerified =>
      obtain rfl := Except.ok.inj h
      exact ⟨hValid, Option.isSome_iff_ne_none.mp hVerified⟩
    · cases h

/-- A reset whose code is refused. -/
theorem validateReset_eq_error {attempt : FailedAttempt AccountDatabase} {userId : Uuid}
    (h : db.validateReset settings.toAuthSettings userId rawOtp now = .error attempt) :
    db.ResetFailed settings (attempt.map fun accounts => { db with toAccountDatabase := accounts }) := by
  rw [validateReset_eq] at h
  split at h
  · next codes hFailed =>
    obtain rfl := Except.error.inj h
    exact .of_error hFailed
  · split at h
    · cases h
    · obtain rfl := Except.error.inj h
      exact .unchanged

/-- A reset marks its code used. -/
theorem saveReset_eq_some {accounts accounts' : AccountDatabase} {row : User}
    {otp : PasswordResetOtp} {passwordHash : Str} {swept : List Uuid}
    (h : accounts.saveReset user row otp passwordHash swept now = some accounts') :
    accounts.passwordResetOtps.update? { otp with usedAt := some now } =
      some accounts'.passwordResetOtps := by
  simp only [AccountDatabase.saveReset, Option.bind_eq_bind, Option.bind_eq_some_iff] at h
  obtain ⟨users, -, codes, hCodes, hDone⟩ := h
  obtain rfl := Option.some.inj hDone
  exact hCodes

/-- A reset that fails is an attempt on the code that fails, or changes nothing. -/
theorem resetPassword_eq_error {email newHash : Str}
    (h : db.resetPassword settings email rawOtp newHash now = .error failed) :
    db.ResetFailed settings failed := by
  unfold resetPassword AccountDatabase.resetPassword at h
  split at h
  · next attempt hAttempt =>
    obtain rfl := Except.error.inj h
    split at hAttempt
    · obtain rfl := Except.error.inj hAttempt
      exact .unchanged
    · split at hAttempt
      · next attempt' hFailed =>
        obtain rfl := Except.error.inj hAttempt
        exact validateReset_eq_error hFailed
      · split at hAttempt
        · cases hAttempt
        · obtain rfl := Except.error.inj hAttempt
          exact .unchanged
  · cases h

/-- A reset that commits has used up a code that is valid and verified. -/
theorem resetPassword_eq_ok {email newHash : Str} {otp : PasswordResetOtp}
    (h : db.resetPassword settings email rawOtp newHash now = .ok (db', otp)) :
    (∃ userId, validateOtp settings.toAuthSettings db.passwordResetOtps userId rawOtp now =
      .ok otp) ∧ otp.verifiedAt ≠ none ∧
      db.passwordResetOtps.update? { otp with usedAt := some now } =
        some db'.passwordResetOtps ∧
      db'.emailVerificationOtps = db.emailVerificationOtps := by
  unfold resetPassword AccountDatabase.resetPassword at h
  split at h
  · cases h
  · next accounts user otp' hReset =>
    obtain ⟨rfl, rfl⟩ := Prod.mk.inj (Except.ok.inj h)
    split at hReset
    · cases hReset
    · next user' hFound =>
      split at hReset
      · cases hReset
      · next otp'' hValidate =>
        obtain ⟨hValid, hVerified⟩ := validateReset_eq_ok hValidate
        split at hReset
        · next saved hSave =>
          cases hReset
          -- the code that was validated is the one that is marked used
          exact ⟨⟨user.id, hValid⟩, hVerified, saveReset_eq_some hSave, rfl⟩
        · cases hReset

end CodeDatabase

-- ---------------------------------------------------------------------------
-- The invariant
-- ---------------------------------------------------------------------------

namespace CodeState

variable {settings : CodeSettings} {s : CodeState} {e : CodeEvent} {db : CodeDatabase}

/-- What the tables and the log agree on. -/
structure CodesInvariant (settings : CodeSettings) (s : CodeState) : Prop where
  emails : Holds settings.otpMaxAttempts .emailVerification s.db.emailVerificationOtps s.log
  resets : Holds settings.otpMaxAttempts .passwordReset s.db.passwordResetOtps s.log
  opens : ∀ e ∈ s.log, e.AcceptsOpen settings.otpMaxAttempts
  once : UsedOnce s.log
  verified : ∀ r ∈ s.db.passwordResetOtps, r.usedAt = none → r.verifiedAt ≠ none →
    VerifiedSince s.log r.id r.userId
  resetsVerified : ResetsVerified s.log

/-- What an event says is true of the tables before it. -/
structure EventAllowed (settings : CodeSettings) (s : CodeState) (e : CodeEvent) : Prop where
  opens : e.AcceptsOpen settings.otpMaxAttempts
  freshEmail : ∀ id ∈ e.acceptedOf .emailVerification, ¬IsUsed s.db.emailVerificationOtps id
  freshReset : ∀ id ∈ e.acceptedOf .passwordReset, ¬IsUsed s.db.passwordResetOtps id
  verified : ∀ code now, e = .reset code now → VerifiedSince s.log code.id code.userId

/-- A code that is not used is not among the used ones. -/
theorem not_isUsed {ρ : Type} [Schema ρ Uuid] [CodeModel ρ] {t : Table ρ} {r : ρ} (hr : r ∈ t)
    (hUnused : (code r).usedAt = none) : ¬IsUsed t (code r).id := by
  rintro ⟨x, hx, hId, hUsed⟩
  have hSame : x = r := eq_of_code_id hx hr hId
  rw [hSame] at hUsed
  exact hUsed hUnused

/-- An event that accepts nothing. -/
theorem EventAllowed.of_refused (hOpens : e.AcceptsOpen settings.otpMaxAttempts)
    (hEmail : e.acceptedOf .emailVerification = none)
    (hReset : e.acceptedOf .passwordReset = none) (hOther : ∀ code now, e ≠ .reset code now) :
    EventAllowed settings s e where
  opens := hOpens
  freshEmail id hId := by
    rw [hEmail] at hId
    cases hId
  freshReset id hId := by
    rw [hReset] at hId
    cases hId
  verified code now hEq := absurd hEq (hOther code now)

/-- A step that logs an event. -/
theorem CodesInvariant.extend (h : CodesInvariant settings s) (hAllowed : EventAllowed settings s e)
    (hEmails : Holds settings.otpMaxAttempts .emailVerification db.emailVerificationOtps
      (e :: s.log))
    (hResets : Holds settings.otpMaxAttempts .passwordReset db.passwordResetOtps (e :: s.log))
    (hVerified : ∀ r ∈ db.passwordResetOtps, r.usedAt = none → r.verifiedAt ≠ none →
      VerifiedSince (e :: s.log) r.id r.userId) :
    CodesInvariant settings (s.commit db (some e)) where
  emails := hEmails
  resets := hResets
  opens e' he' := by
    rcases List.mem_cons.mp he' with rfl | hOld
    · exact hAllowed.opens
    · exact h.opens e' hOld
  once := by
    -- a code that was accepted before is used, so it is not accepted again
    refine List.pairwise_cons.mpr ⟨fun older hOlder kind id hConsumed hAccepted => ?_, h.once⟩
    cases kind with
    | emailVerification =>
      exact hAllowed.freshEmail id hAccepted (h.emails.consumed older hOlder id hConsumed)
    | passwordReset =>
      exact hAllowed.freshReset id hAccepted (h.resets.consumed older hOlder id hConsumed)
  verified := hVerified
  resetsVerified := by
    intro newer code now older hLog
    cases newer with
    | nil =>
      -- the new event itself, or one that was in the log
      obtain ⟨hEvent, hOlder⟩ := List.cons_eq_cons.mp hLog
      rw [← hOlder]
      exact hAllowed.verified code now hEvent
    | cons first newer => exact h.resetsVerified newer code now older (List.cons_eq_cons.mp hLog).2

/-- A step that logs nothing. -/
theorem CodesInvariant.rest (h : CodesInvariant settings s)
    (hEmails : CodesAdvance s.db.emailVerificationOtps db.emailVerificationOtps [])
    (hResets : CodesAdvance s.db.passwordResetOtps db.passwordResetOtps [])
    (hKept : ResetsKept s.db.passwordResetOtps db.passwordResetOtps) :
    CodesInvariant settings (s.commit db none) where
  emails := h.emails.quiet hEmails
  resets := h.resets.quiet hResets
  opens := h.opens
  once := h.once
  verified r' hr' hUnused hVerified := by
    obtain ⟨r, hr, hId, hUser, hSame, hBack⟩ := hKept r' hr'
    rw [hId, hUser]
    exact h.verified r hr (hBack hUnused) (hSame ▸ hVerified)
  resetsVerified := h.resetsVerified

theorem resetsKept_refl (t : Table PasswordResetOtp) : ResetsKept t t :=
  fun r hr => ⟨r, hr, rfl, rfl, rfl, fun hUnused => hUnused⟩

/-- The verified codes after a step that issues no reset code. -/
theorem CodesInvariant.verified_cons (h : CodesInvariant settings s)
    (hKept : ResetsKept s.db.passwordResetOtps db.passwordResetOtps)
    (hOther : ∀ userId newId, e ≠ .issued .passwordReset userId newId) :
    ∀ r ∈ db.passwordResetOtps, r.usedAt = none → r.verifiedAt ≠ none →
      VerifiedSince (e :: s.log) r.id r.userId := by
  intro r' hr' hUnused hVerified
  obtain ⟨r, hr, hId, hUser, hSame, hBack⟩ := hKept r' hr'
  rw [hId, hUser]
  exact (h.verified r hr (hBack hUnused) (hSame ▸ hVerified)).cons (hOther r.userId)

-- ---------------------------------------------------------------------------
-- Steps
-- ---------------------------------------------------------------------------

/-- A code for the verification of an address is issued. -/
theorem emailIssued_invariant {userId : Uuid} {minutes : Int} {enforce : Bool} {now : Datetime}
    {draws : OtpDraws} (h : CodesInvariant settings s)
    (hIssue : issueOtp settings.toAuthSettings s.db.emailVerificationOtps userId minutes enforce now
      draws = some db.emailVerificationOtps)
    (hResets : db.passwordResetOtps = s.db.passwordResetOtps) :
    CodesInvariant settings (s.commit db (some (.issued .emailVerification userId draws.id))) := by
  obtain ⟨fresh, -, hUser, hCount, hInsert⟩ := issueOtp_eq_some hIssue
  refine h.extend (.of_refused trivial rfl rfl fun _ _ hEq => by cases hEq) ?_ ?_ ?_
  · exact (h.emails.issued hCount hInsert).logged rfl fun id hId => by cases hId
  · rw [hResets]
    exact h.resets.logged rfl fun id hId => by cases hId
  · refine h.verified_cons ?_ fun _ _ hEq => by cases hEq
    rw [hResets]
    exact resetsKept_refl _

/-- A reset code is issued: the verified ones of the account are closed. -/
theorem resetIssued_invariant {userId : Uuid} {minutes : Int} {enforce : Bool} {now : Datetime}
    {draws : OtpDraws} (h : CodesInvariant settings s)
    (hIssue : issueOtp settings.toAuthSettings s.db.passwordResetOtps userId minutes enforce now
      draws = some db.passwordResetOtps)
    (hEmails : db.emailVerificationOtps = s.db.emailVerificationOtps) :
    CodesInvariant settings (s.commit db (some (.issued .passwordReset userId draws.id))) := by
  obtain ⟨fresh, -, hUser, hCount, hInsert⟩ := issueOtp_eq_some hIssue
  refine h.extend (.of_refused trivial rfl rfl fun _ _ hEq => by cases hEq) ?_ ?_ ?_
  · rw [hEmails]
    exact h.emails.logged rfl fun id hId => by cases hId
  · exact (h.resets.issued hCount hInsert).logged rfl fun id hId => by cases hId
  · intro r hr hUnused hVerified
    rcases (Table.mem_insert? hInsert).mp hr with rfl | hOld
    · exact absurd rfl hVerified
    · -- a code that is still unused belongs to another account
      have hOther : r.userId ≠ userId := fun hSame =>
        used_of_invalidate hOld (hSame.trans hUser.symm) hUnused
      obtain ⟨x, hx, hId, hOwner, hSame, hBack⟩ := resetsKept_invalidate _ _ _ r hOld
      rw [hId, hOwner]
      refine (h.verified x hx (hBack hUnused) (hSame ▸ hVerified)).cons fun newId hEq => ?_
      injection hEq with _ hUserId _
      exact hOther (hOwner.trans hUserId.symm)

/-- The verification of an address. -/
theorem verifyEmail_invariant {user : User} {rawOtp : Str} {now : Datetime}
    (h : CodesInvariant settings s) :
    CodesInvariant settings (s.verifyEmail settings user rawOtp now) := by
  unfold verifyEmail
  split
  · next failed hFailed =>
    obtain ⟨hAdvance, hLeft, hResets⟩ := CodeDatabase.verifyEmail_eq_error hFailed
    unfold fail
    -- a comparison is logged exactly when the attempt made one
    cases hCompared : failed.compared with
    | none =>
      rw [hCompared] at hAdvance
      refine h.rest hAdvance ?_ ?_ <;> rw [hResets]
      · exact .refl _
      · exact resetsKept_refl _
    | some id =>
      rw [hCompared] at hAdvance hLeft
      refine h.extend (.of_refused trivial rfl rfl fun _ _ hEq => by cases hEq) ?_ ?_ ?_
      · exact h.emails.wrong hAdvance (hLeft id rfl)
      · rw [hResets]
        exact h.resets.logged rfl fun id hId => by cases hId
      · refine h.verified_cons ?_ fun _ _ hEq => by cases hEq
        rw [hResets]
        exact resetsKept_refl _
  · next db otp hAccepted =>
    obtain ⟨hValid, hUpdate, hResets⟩ := CodeDatabase.verifyEmail_eq_ok hAccepted
    obtain ⟨hMem, -, hOpen⟩ := validateOtp_eq_ok hValid
    have hAdvance : CodesAdvance s.db.emailVerificationOtps db.emailVerificationOtps [] := by
      refine advance_of_update? hMem ?_ ?_ ?_ (fun hMarked => ?_) (fun id hId => ?_) hUpdate
      · rfl
      · rfl
      · simp [CodeModel.code, OneTimeCode.markUsed]
      · cases hMarked
      · cases hId
    have hUsed : IsUsed db.emailVerificationOtps otp.id :=
      ⟨_, Table.mem_update?_self hUpdate hMem rfl, rfl, Option.some_ne_none now⟩
    refine h.extend ⟨hOpen, fun id hId => ?_, fun id hId => ?_, fun _ _ hEq => ?_⟩
      ?_ ?_ ?_
    · obtain rfl := Option.some.inj hId
      exact not_isUsed hMem hOpen.unused
    · cases hId
    · cases hEq
    · refine (h.emails.quiet hAdvance).logged rfl fun id hId => ?_
      obtain rfl := Option.some.inj hId
      exact hUsed
    · rw [hResets]
      exact h.resets.logged rfl fun id hId => by cases hId
    · refine h.verified_cons ?_ fun _ _ hEq => by cases hEq
      rw [hResets]
      exact resetsKept_refl _

/-- A failed attempt on a reset code. -/
theorem resetFailed_invariant {failed : FailedAttempt CodeDatabase} (h : CodesInvariant settings s)
    (hFailed : s.db.ResetFailed settings failed) :
    CodesInvariant settings (s.fail .passwordReset failed) := by
  obtain ⟨hAdvance, hLeft, hKept, hEmails⟩ := hFailed
  unfold fail
  cases hCompared : failed.compared with
  | none =>
    rw [hCompared] at hAdvance
    refine h.rest ?_ hAdvance hKept
    rw [hEmails]
    exact .refl _
  | some id =>
    rw [hCompared] at hAdvance hLeft
    refine h.extend (.of_refused trivial rfl rfl fun _ _ hEq => by cases hEq) ?_ ?_ ?_
    · rw [hEmails]
      exact h.emails.logged rfl fun id hId => by cases hId
    · exact h.resets.wrong hAdvance (hLeft id rfl)
    · exact h.verified_cons hKept fun _ _ hEq => by cases hEq

/-- The verification of a code for a reset. -/
theorem verifyPasswordResetOtp_invariant {user : User} {rawOtp : Str} {now : Datetime}
    (h : CodesInvariant settings s) :
    CodesInvariant settings (s.verifyPasswordResetOtp settings user rawOtp now) := by
  unfold verifyPasswordResetOtp
  split
  · next failed hFailed =>
    exact resetFailed_invariant h (CodeDatabase.verifyPasswordResetOtp_eq_error hFailed)
  · next db otp hAccepted =>
    obtain ⟨hValid, hUpdate, hEmails⟩ := CodeDatabase.verifyPasswordResetOtp_eq_ok hAccepted
    obtain ⟨hMem, -, hOpen⟩ := validateOtp_eq_ok hValid
    have hAdvance : CodesAdvance s.db.passwordResetOtps db.passwordResetOtps [] := by
      refine advance_of_update? hMem ?_ ?_ ?_ (fun hSame => ?_) (fun id hId => ?_) hUpdate
      · rfl
      · rfl
      · simp [CodeModel.code]
      · exact hSame
      · cases hId
    refine h.extend ⟨hOpen, fun id hId => ?_, fun id hId => ?_, fun _ _ hEq => ?_⟩
      ?_ ?_ ?_
    · cases hId
    · obtain rfl := Option.some.inj hId
      exact not_isUsed hMem hOpen.unused
    · cases hEq
    · rw [hEmails]
      exact h.emails.logged rfl fun id hId => by cases hId
    · exact (h.resets.quiet hAdvance).logged rfl fun id hId => by cases hId
    · intro r hr hOpen hVerified
      rcases (Table.mem_update? hUpdate).mp hr with ⟨rfl, -⟩ | ⟨hOld, -⟩
      · -- the code is verified by this very event
        exact ⟨[], otp.toOneTimeCode, now, s.log, rfl, rfl, fun e he => by cases he⟩
      · exact (h.verified r hOld hOpen hVerified).cons fun _ hEq => by cases hEq

/-- The reset of a password. -/
theorem resetPassword_invariant {email rawOtp newHash : Str} {now : Datetime}
    (h : CodesInvariant settings s) :
    CodesInvariant settings (s.resetPassword settings email rawOtp newHash now) := by
  unfold resetPassword
  split
  · next failed hFailed =>
    exact resetFailed_invariant h (CodeDatabase.resetPassword_eq_error hFailed)
  · next db otp hReset =>
    obtain ⟨⟨userId, hValid⟩, hVerified, hUpdate, hEmails⟩ := CodeDatabase.resetPassword_eq_ok hReset
    obtain ⟨hMem, -, hOpen⟩ := validateOtp_eq_ok hValid
    have hAdvance : CodesAdvance s.db.passwordResetOtps db.passwordResetOtps [] := by
      refine advance_of_update? hMem ?_ ?_ ?_ (fun hMarked => ?_) (fun id hId => ?_) hUpdate
      · rfl
      · rfl
      · simp [CodeModel.code]
      · cases hMarked
      · cases hId
    have hKept : ResetsKept s.db.passwordResetOtps db.passwordResetOtps := by
      refine resetsKept_of_update? hMem ?_ ?_ ?_ (fun hMarked => ?_) hUpdate
      · rfl
      · rfl
      · rfl
      · cases hMarked
    -- the code is used from now on, so it cannot be accepted again
    have hUsed : IsUsed db.passwordResetOtps otp.id :=
      ⟨_, Table.mem_update?_self hUpdate hMem rfl, rfl, Option.some_ne_none now⟩
    refine h.extend ⟨hOpen, fun id hId => ?_, fun id hId => ?_, fun c t hEq => ?_⟩ ?_ ?_ ?_
    · cases hId
    · obtain rfl := Option.some.inj hId
      exact not_isUsed hMem hOpen.unused
    · injection hEq with hCode
      rw [← hCode]
      exact h.verified otp hMem hOpen.unused hVerified
    · rw [hEmails]
      exact h.emails.logged rfl fun id hId => by cases hId
    · refine (h.resets.quiet hAdvance).logged rfl fun id hId => ?_
      obtain rfl := Option.some.inj hId
      exact hUsed
    · exact h.verified_cons hKept fun _ _ hEq => by cases hEq

/-- One transaction keeps the invariant. -/
theorem step_invariant (s : CodeState) (timed : TimedCodeAction) (h : CodesInvariant settings s) :
    CodesInvariant settings (step settings s timed) := by
  unfold step
  dsimp only
  cases timed.action with
  | register email passwordHash userId draws =>
    dsimp only
    split
    · exact h
    · next db hRegister =>
      obtain ⟨hIssue, hResets⟩ := CodeDatabase.register_eq_some hRegister
      exact emailIssued_invariant h hIssue hResets
  | resendVerification email draws =>
    dsimp only
    split
    · exact h
    · next db user hResend =>
      obtain ⟨codes, hIssue, rfl⟩ := CodeDatabase.requestCode_eq_some hResend
      exact emailIssued_invariant h hIssue rfl
  | verifyEmail email rawOtp =>
    dsimp only
    split
    · exact h
    · exact verifyEmail_invariant h
  | requestPasswordReset email draws =>
    dsimp only
    split
    · exact h
    · next db user hRequest =>
      obtain ⟨codes, hIssue, rfl⟩ := CodeDatabase.requestCode_eq_some hRequest
      exact resetIssued_invariant h hIssue rfl
  | verifyPasswordResetOtp email rawOtp =>
    dsimp only
    split
    · exact h
    · exact verifyPasswordResetOtp_invariant h
  | resetPassword email rawOtp newHash => exact resetPassword_invariant h
  | invalidate userId =>
    exact h.rest (advance_invalidate _ _ _) (advance_invalidate _ _ _)
      (resetsKept_invalidate _ _ _)
  | changeUsers users => exact h.rest (.refl _) (.refl _) (resetsKept_refl _)

/-- The invariant holds before the first code. -/
theorem init_invariant (users : Table User) : CodesInvariant settings (init users) where
  emails := ⟨fun r hr => absurd hr (Table.not_mem_empty r), fun id => settings.otpMaxAttempts_pos.le,
    fun id hId => (by cases hId), fun r hr => absurd hr (Table.not_mem_empty r),
    fun e he => (by cases he)⟩
  resets := ⟨fun r hr => absurd hr (Table.not_mem_empty r), fun id => settings.otpMaxAttempts_pos.le,
    fun id hId => (by cases hId), fun r hr => absurd hr (Table.not_mem_empty r),
    fun e he => (by cases he)⟩
  opens e he := by cases he
  once := List.Pairwise.nil
  verified r hr := absurd hr (Table.not_mem_empty r)
  resetsVerified newer code now older hLog := by
    cases newer <;> cases hLog

/-- **One-time codes.** On every run an issued code is compared with at most
`otp_max_attempts` wrong ones; a code that is accepted is neither used nor expired and has
an attempt left, and a code that was used up is not accepted again; an account has at most one
unused code of each kind; and a password reset uses up a code that was verified before and not
replaced since. -/
theorem one_time_codes (settings : CodeSettings) (users : Table User)
    (actions : List TimedCodeAction) :
    let s := run (step settings) (init users) actions
    (∀ kind codeId, ((wrongCodes kind s.log).count codeId : Int) ≤ settings.otpMaxAttempts) ∧
      (∀ e ∈ s.log, e.AcceptsOpen settings.otpMaxAttempts) ∧ UsedOnce s.log ∧
      (∀ r ∈ s.db.emailVerificationOtps, ∀ r' ∈ s.db.emailVerificationOtps, r.userId = r'.userId →
        r.usedAt = none → r'.usedAt = none → r = r') ∧
      (∀ r ∈ s.db.passwordResetOtps, ∀ r' ∈ s.db.passwordResetOtps, r.userId = r'.userId →
        r.usedAt = none → r'.usedAt = none → r = r') ∧
      ResetsVerified s.log := by
  have hInv : CodesInvariant settings (run (step settings) (init users) actions) :=
    run_invariant step_invariant (init_invariant users) actions
  refine ⟨fun kind codeId => ?_, hInv.opens, hInv.once, hInv.emails.single, hInv.resets.single,
    hInv.resetsVerified⟩
  cases kind with
  | emailVerification => exact hInv.emails.bounded codeId
  | passwordReset => exact hInv.resets.bounded codeId

end CodeState

end SpikeBackend
