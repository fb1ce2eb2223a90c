import SpikeBackend.Model.CredentialRuns
import SpikeBackend.Sessions.Transactions

/-!
# Every change of the credentials raises the session version

A change adds one to the version of the instance that its session holds. That instance was
loaded before the account was locked, and the locked read does not refresh it.

* `perform_changes` — what a transaction does to the accounts;
* `versions_increase` — while no request was overtaken between its authentication and its
  lock, every change raises the version, checks the committed password and closes the
  sessions that were open;
* `version_reused` — two password changes that overlap.
-/

namespace SpikeBackend

open Relational Text Outcome Session Machine

/-- A change of the credentials of an account: one more than the version of the instance. -/
structure Changes (db db' : AccountDatabase) (user row : User) : Prop where
  mem : row ∈ db.users
  written : ∃ row' ∈ db'.users, row'.id = row.id ∧
    row'.authSessionVersion = user.authSessionVersion + 1
  others : ∀ u ∈ db.users, u.id ≠ row.id → u ∈ db'.users
  kept : ∀ u ∈ db'.users, u.id ≠ row.id → u ∈ db.users

namespace AccountDatabase

variable {db db' : AccountDatabase} {settings : AuthSettings} {now : Datetime}

/-- An account is rewritten by a flush of an instance with the next version. -/
theorem changes_of_update? {t : Table User} {user row modified : User} (hRow : row ∈ db.users)
    (hUpdate : db.users.update? modified = some t) (hUsers : db'.users = t)
    (hId : modified.id = row.id)
    (hVersion : modified.authSessionVersion =
      column user.authSessionVersion (user.authSessionVersion + 1) row.authSessionVersion) :
    Changes db db' user row where
  mem := hRow
  written := by
    refine ⟨modified, hUsers ▸ (Table.mem_update?_iff hUpdate hRow hId).mpr (.inl rfl), hId, ?_⟩
    rw [hVersion]
    -- The version differs from the instance's, so the column is written.
    exact column_of_ne (by omega)
  others u hu hne := hUsers ▸ (Table.mem_update?_iff hUpdate hRow hId).mpr (.inr ⟨hu, hne⟩)
  kept u hu hne := by
    rw [hUsers] at hu
    rcases (Table.mem_update?_iff hUpdate hRow hId).mp hu with rfl | ⟨hOld, -⟩
    · exact absurd hId hne
    · exact hOld

/-- The instance of a locked read is the row or what the session held. -/
theorem lockUser_eq_ok {loaded : Option User} {userId : Uuid} {row user : User}
    (h : db.lockUser loaded userId = .ok (row, user)) :
    row ∈ db.users ∧ row.id = userId ∧ (user = row ∨ loaded = some user ∧ user.id = userId) := by
  simp only [lockUser, bind_eq_ok, required_eq_ok, ensure_eq_ok] at h
  obtain ⟨row', hGet, -, -, hDone⟩ := h
  simp only [pure, Except.pure, Except.ok.injEq, Prod.mk.injEq] at hDone
  obtain ⟨rfl, hInstance⟩ := hDone
  obtain ⟨hRow, hId⟩ := Table.get?_eq_some.mp hGet
  exact ⟨hRow, hId, (locked_filter_cases hInstance).imp id fun hCopy =>
    ⟨hCopy.1, beq_iff_eq.mp hCopy.2⟩⟩

/-- A password change that succeeds advances the version, after the current password was verified.
-/
theorem changePassword_changes {loaded : Option User} {userId : Uuid}
    {currentPassword newPassword newHash : Str}
    (h : db.changePassword settings loaded userId currentPassword newPassword newHash now = .ok db') :
    ∃ user row, Changes db db' user row ∧ row.id = userId ∧
      (user = row ∨ loaded = some user ∧ user.id = userId) ∧
      settings.verifyPassword currentPassword user.passwordHash = true := by
  simp only [changePassword, bind_eq_ok, required_eq_ok, ensure_eq_ok] at h
  obtain ⟨⟨row, user⟩, hLock, -, hPassword, -, -, users, hUpdate, hOk⟩ := h
  obtain ⟨hRow, hId, hInstance⟩ := lockUser_eq_ok hLock
  obtain rfl := Except.ok.inj hOk
  exact ⟨user, row, changes_of_update? hRow hUpdate rfl rfl rfl, hId, hInstance, hPassword⟩

/-- A confirmed e-mail change advances the version. -/
theorem confirmEmailChange_changes {loaded : Option User} {userId : Uuid} {newEmail rawOtp : Str}
    (h : db.confirmEmailChange settings loaded userId newEmail rawOtp now = .ok db') :
    ∃ user row, Changes db db' user row ∧ row.id = userId ∧
      (user = row ∨ loaded = some user ∧ user.id = userId) := by
  unfold confirmEmailChange at h
  split at h
  · cases h
  next row user hLock =>
  obtain ⟨hRow, hId, hInstance⟩ := lockUser_eq_ok hLock
  dsimp only at h
  split at h
  · cases h
  next otp hOtp =>
  split at h
  · cases h
  split at h
  · cases h
  split at h
  · next users otps hUpdate hOtps =>
    obtain rfl := Except.ok.inj h
    exact ⟨user, row, changes_of_update? hRow hUpdate rfl rfl rfl, hId, hInstance⟩
  · cases h

/-- A refused e-mail change leaves the users alone. -/
theorem confirmEmailChange_eq_error {loaded : Option User} {userId : Uuid} {newEmail rawOtp : Str}
    {e : AccountError}
    (h : db.confirmEmailChange settings loaded userId newEmail rawOtp now = .error (e, db')) :
    db'.users = db.users := by
  unfold confirmEmailChange at h
  split at h
  · cases h
    rfl
  dsimp only at h
  split at h
  · cases h
    rfl
  next otp hOtp =>
  split at h
  · cases h
    -- A wrong or dead code is counted; no user is.
    split <;> rfl
  split at h
  · cases h
    rfl
  split at h
  · cases h
  · cases h
    rfl

end AccountDatabase

namespace TwoStepDatabase

variable {db : TwoStepDatabase} {settings : TwoStepSettings} {session : TwoStepSession}

theorem saveChallenge_users (l : LockedChallenge) (modified : EmailTwoStepChallenge) :
    (db.saveChallenge l modified).users = db.users := by
  unfold saveChallenge
  split <;> rfl

/-- Checking a code leaves the users alone. -/
theorem validateOtp_users (l : LockedChallenge) (rawOtp : Str) (now : Datetime) :
    (db.validateOtp settings l rawOtp now).db.users = db.users := by
  unfold validateOtp
  dsimp only
  split
  · dsimp only
    split
    · exact saveChallenge_users l _
    · rfl
  · split
    · exact saveChallenge_users l _
    · split
      · rfl
      · exact saveChallenge_users l _

/-- A confirmation that fails leaves the accounts; one that succeeds flushes the account. -/
theorem confirmSetting_users {purpose : EmailTwoStepPurpose} {enabled : Bool}
    {userId challengeId : Uuid} {rawOtp : Str} {now : Datetime} {v : Verification}
    (h : db.confirmSetting settings session purpose enabled userId challengeId rawOtp now = v) :
    (∀ e, v.result = .error e → v.db.users = db.users) ∧
    ∀ l, v.result = .ok l → ∃ row user modified : User,
      db.users.update? modified = some v.db.users ∧ row ∈ db.users ∧ row.id = userId ∧
      (user = row ∨ session.user = some user ∧ user.id = userId) ∧ modified.id = row.id ∧
      modified.authSessionVersion =
        column user.authSessionVersion (user.authSessionVersion + 1) row.authSessionVersion := by
  subst h
  unfold confirmSetting
  split
  · exact ⟨fun _ _ => rfl, fun l hl => by cases hl⟩
  next l hLock =>
  split
  · exact ⟨fun _ _ => rfl, fun l hl => by cases hl⟩
  -- The code is checked first, and the user is written only when it is right.
  have hChecked : (db.validateOtp settings l rawOtp now).db.users = db.users :=
    validateOtp_users l rawOtp now
  simp only [accept]
  split
  · next hError => exact ⟨fun _ _ => hChecked, fun l hl => by rw [hError] at hl; cases hl⟩
  next hOk =>
  split
  · next db' hSaved =>
    refine ⟨fun e he => (by rw [hOk] at he; cases he), fun l' hl' => ?_⟩
    simp only [saveAccepted, Option.bind_eq_bind, Option.bind_eq_some_iff, Option.pure_def,
      Option.some.injEq] at hSaved
    obtain ⟨users, hUpdate, challenges, -, rfl⟩ := hSaved
    simp only [lockChallengeAndUser, bind_eq_ok, required_eq_ok, ensure_eq_ok] at hLock
    obtain ⟨probe, -, -, hExpected, ⟨userRow, user⟩, hUser, row, -, hDone⟩ := hLock
    simp only [pure, Except.pure, Except.ok.injEq] at hDone
    subst hDone
    have hOwner : probe.userId = userId := by simpa [eq_comm] using hExpected
    simp only [lockUser, bind_eq_ok, required_eq_ok, ensure_eq_ok] at hUser
    obtain ⟨row', hGet, -, -, hInstance⟩ := hUser
    simp only [pure, Except.pure, Except.ok.injEq, Prod.mk.injEq] at hInstance
    obtain ⟨rfl, hInstance⟩ := hInstance
    obtain ⟨hRow, hId⟩ := Table.get?_eq_some.mp hGet
    refine ⟨row', user, _, hUpdate, hRow, Eq.trans hId hOwner, ?_, rfl, rfl⟩
    -- The locked user is the row, or the instance the session held.
    rcases locked_filter_cases hInstance with hFresh | hStale
    · exact .inl hFresh
    · exact .inr ⟨hStale.1, (beq_iff_eq.mp hStale.2).trans hOwner⟩
  · exact ⟨fun _ _ => hChecked, fun l hl => by cases hl⟩

end TwoStepDatabase

namespace AccountDatabase

variable {db db' : AccountDatabase} {settings : AuthSettings} {now : Datetime}

/-- A confirmed change of the setting advances the version; a refused one leaves the users alone. -/
theorem confirmTwoStep_changes {session : TwoStepSession} {enabled : Bool}
    {userId challengeId : Uuid} {rawOtp : Str} {r : Except EmailTwoStepError LockedChallenge}
    (h : db.confirmTwoStep settings session enabled userId challengeId rawOtp now = (db', r)) :
    (∀ e, r = .error e → db'.users = db.users) ∧
    ∀ l, r = .ok l → ∃ user row, Changes db db' user row ∧ row.id = userId ∧
      (user = row ∨ session.user = some user ∧ user.id = userId) := by
  -- Both directions of the setting are one function.
  obtain ⟨purpose, v, hv, hEq⟩ : ∃ purpose v,
      db.twoStep.confirmSetting settings.toTwoStepSettings session purpose enabled userId
        challengeId rawOtp now = v ∧ (if enabled then
          db.twoStep.confirmEnable settings.toTwoStepSettings session userId challengeId rawOtp now
        else db.twoStep.confirmDisable settings.toTwoStepSettings session userId challengeId rawOtp
          now) = v := by
    cases enabled with
    | true => exact ⟨.enable, _, rfl, rfl⟩
    | false => exact ⟨.disable, _, rfl, rfl⟩
  obtain ⟨hFails, hSucceeds⟩ := TwoStepDatabase.confirmSetting_users hv
  simp only [confirmTwoStep, hEq] at h
  split at h
  · next e hError =>
    obtain ⟨rfl, rfl⟩ := Prod.mk.inj h
    exact ⟨fun e' he' => hFails e' he', fun l hl => by rw [hError] at hl; cases hl⟩
  · next l hOk =>
    obtain ⟨rfl, rfl⟩ := Prod.mk.inj h
    refine ⟨fun e he => (by rw [hOk] at he; cases he), fun l' hl' => ?_⟩
    obtain ⟨row, user, modified, hUpdate, hRow, hOwner, hInstance, hId, hVersion⟩ :=
      hSucceeds l' hl'
    exact ⟨user, row, changes_of_update? hRow hUpdate rfl hId hVersion, hOwner, hInstance⟩

/-- A password reset that succeeds advances the version. -/
theorem resetPassword_changes {email rawOtp newHash : Str} {user : User} {otp : PasswordResetOtp}
    (h : db.resetPassword settings email rawOtp newHash now = .ok (db', user, otp)) :
    Changes db db' user user := by
  unfold resetPassword at h
  split at h
  · cases h
  next found hFound =>
  split at h
  · cases h
  next otp' hOtp =>
  split at h
  · next db₁ hSave =>
    cases h
    simp only [saveReset, Option.bind_eq_bind, Option.bind_eq_some_iff, Option.pure_def,
      Option.some.injEq] at hSave
    obtain ⟨users, hUpdate, otps, -, rfl⟩ := hSave
    have hRow := Table.mem_of_find? (Option.filter_eq_some_iff.mp hFound).1
    exact changes_of_update? hRow hUpdate rfl rfl rfl
  · cases h

/-- A refused reset leaves the users alone. -/
theorem resetPassword_eq_error {failed : FailedAttempt AccountDatabase} {email rawOtp newHash : Str}
    (h : db.resetPassword settings email rawOtp newHash now = .error failed) :
    failed.left.users = db.users := by
  unfold resetPassword at h
  split at h
  · cases h
    rfl
  next found hFound =>
  split at h
  · next failed' hFailed =>
    cases h
    exact (validateReset_eq_error hFailed).1
  next otp hOtp =>
  split at h
  · cases h
  · cases h
    rfl

end AccountDatabase

namespace CredentialState

variable {settings : AuthSettings} {s : CredentialState}

/-- **Transactions.** A request that changes no credentials leaves the accounts; one that does
adds one to the version of its instance, and a password change has compared the password with
the instance's hash. -/
theorem perform_changes {db db' : AccountDatabase} {session : TwoStepSession} {now : Datetime}
    {request : CredentialRequest} {changed : Option Uuid}
    (h : perform settings db session now request = (db', changed)) :
    (changed = none → db'.users = db.users) ∧
    ∀ userId, changed = some userId → ∃ user row, Changes db db' user row ∧ row.id = userId ∧
      (user = row ∨ session.user = some user ∧ user.id = userId) ∧
      ∀ password, request.currentPassword? = some password →
        settings.verifyPassword password user.passwordHash = true := by
  -- The four kinds of change; only the first asks for the current password.
  cases request with
  | changePassword token currentPassword newPassword newHash =>
    simp only [perform] at h
    split at h
    · obtain ⟨rfl, rfl⟩ := Prod.mk.inj h
      exact ⟨fun _ => rfl, fun _ hNone => by cases hNone⟩
    · next db₁ hOk =>
      obtain ⟨rfl, rfl⟩ := Prod.mk.inj h
      obtain ⟨user, row, hChanges, hId, hInstance, hPassword⟩ :=
        AccountDatabase.changePassword_changes hOk
      refine ⟨fun hNone => (by cases hNone), fun userId hSome => ⟨user, row, hChanges, ?_, ?_, ?_⟩⟩
      all_goals obtain rfl := Option.some.inj hSome
      · exact hId
      · exact hInstance
      · rintro password ⟨⟩
        exact hPassword
  | confirmEmailChange token newEmail rawOtp =>
    simp only [perform] at h
    split at h
    · next e db₁ hError =>
      obtain ⟨rfl, rfl⟩ := Prod.mk.inj h
      exact ⟨fun _ => AccountDatabase.confirmEmailChange_eq_error hError,
        fun _ hNone => by cases hNone⟩
    · next db₁ hOk =>
      obtain ⟨rfl, rfl⟩ := Prod.mk.inj h
      obtain ⟨user, row, hChanges, hId, hInstance⟩ :=
        AccountDatabase.confirmEmailChange_changes hOk
      refine ⟨fun hNone => (by cases hNone), fun userId hSome => ⟨user, row, hChanges, ?_, ?_, ?_⟩⟩
      all_goals obtain rfl := Option.some.inj hSome
      · exact hId
      · exact hInstance
      · rintro password ⟨⟩
  | confirmTwoStep token enabled challengeId rawOtp =>
    simp only [perform] at h
    split at h
    · next db₁ e hError =>
      obtain ⟨rfl, rfl⟩ := Prod.mk.inj h
      exact ⟨fun _ => (AccountDatabase.confirmTwoStep_changes hError).1 e rfl,
        fun _ hNone => by cases hNone⟩
    · next db₁ l hOk =>
      obtain ⟨rfl, rfl⟩ := Prod.mk.inj h
      obtain ⟨user, row, hChanges, hId, hInstance⟩ :=
        (AccountDatabase.confirmTwoStep_changes hOk).2 l rfl
      refine ⟨fun hNone => (by cases hNone), fun userId hSome => ⟨user, row, hChanges, ?_, ?_, ?_⟩⟩
      all_goals obtain rfl := Option.some.inj hSome
      · exact hId
      · exact hInstance
      · rintro password ⟨⟩
  | resetPassword email rawOtp newHash =>
    simp only [perform] at h
    split at h
    · next failed hError =>
      obtain ⟨rfl, rfl⟩ := Prod.mk.inj h
      exact ⟨fun _ => AccountDatabase.resetPassword_eq_error hError, fun _ hNone => by cases hNone⟩
    · next db₁ user otp hOk =>
      obtain ⟨rfl, rfl⟩ := Prod.mk.inj h
      refine ⟨fun hNone => (by cases hNone), fun userId hSome =>
        ⟨user, user, AccountDatabase.resetPassword_changes hOk, Option.some.inj hSome, .inl rfl, ?_⟩⟩
      rintro password ⟨⟩

-- ---------------------------------------------------------------------------
-- The condition and the invariant
-- ---------------------------------------------------------------------------

/-- The instance that the session holds of its account shows the committed version. -/
def freshInstance (db : AccountDatabase) (client : CredentialClient) : Bool :=
  client.session.user.all fun u => (db.users.get? u.id).all fun row =>
    u.authSessionVersion == row.authSessionVersion

/-- A request that locks its account was not overtaken since its authentication. -/
def notOvertaken (s : CredentialState) (timed : TimedCredentialAction) : Bool :=
  match timed.action with
  | .transact i => (s.clients[i]?).all fun client =>
      client.phase != .transact || freshInstance s.db client
  | _ => true

/-- The copy of an account that a session holds is not ahead of the row, and at the version
of the row it has the hash of the row: a changed hash comes with a changed version. -/
def CopyOf (u row : User) : Prop :=
  u.authSessionVersion ≤ row.authSessionVersion ∧
    (u.authSessionVersion = row.authSessionVersion → u.passwordHash = row.passwordHash)

/-- **The invariant of a run.** -/
structure CredentialInvariant (settings : AuthSettings) (s : CredentialState) : Prop where
  history : s.history.Pairwise fun new old => new.1 = old.1 → old.2 < new.2
  bounded : ∀ h ∈ s.history, ∃ row ∈ s.db.users, row.id = h.1 ∧ h.2 ≤ row.authSessionVersion
  issued : ∀ c ∈ s.issued,
    ∃ row ∈ s.db.users, row.id = c.userId ∧ c.sessionVersion ≤ row.authSessionVersion
  cutoffs : ∀ cut ∈ s.cutoffs, ∀ c ∈ cut.tokens, c.userId = cut.userId →
    ∃ row ∈ s.db.users, row.id = c.userId ∧ c.sessionVersion < row.authSessionVersion
  passwords : ∀ p ∈ s.passwordChanges, settings.verifyPassword p.1 p.2 = true
  copies : ∀ client ∈ s.clients, ∀ u ∈ client.session.user, ∀ row ∈ s.db.users, row.id = u.id →
    CopyOf u row

/-- The accounts after a change by an instance at the committed version. -/
theorem changes_grow {db db' : AccountDatabase} {user row : User} (h : Changes db db' user row)
    (hVersion : user.authSessionVersion = row.authSessionVersion) {u : User} (hu : u ∈ db.users) :
    ∃ u' ∈ db'.users, u'.id = u.id ∧ u.authSessionVersion ≤ u'.authSessionVersion := by
  by_cases hSame : u.id = row.id
  · obtain ⟨row', hRow', hId, hNext⟩ := h.written
    have hEq : u = row := Table.eq_of_key_eq hu h.mem hSame
    exact ⟨row', hRow', hId.trans hSame.symm, by rw [hEq, hNext, hVersion]; omega⟩
  · exact ⟨u, h.others u hu hSame, rfl, le_refl _⟩

/-- A request that arrives holds the row of its account. -/
theorem arrive_copies (s : CredentialState) (request : CredentialRequest) :
    ∀ u ∈ (arrive s request).session.user, ∀ row ∈ s.db.users, row.id = u.id → CopyOf u row := by
  intro u hu row hRow hSame
  simp only [arrive] at hu
  -- An instance is loaded by authentication, hence a copy of the row at that time.
  cases hToken : request.token? with
  | none =>
    rw [hToken] at hu
    cases hu
  | some token =>
    rw [hToken] at hu
    dsimp only at hu
    cases hUser : s.db.currentUser token with
    | none =>
      rw [hUser] at hu
      cases hu
    | some user =>
      rw [hUser] at hu
      obtain rfl := Option.some.inj hu
      have hMem := (Table.get?_eq_some.mp (Option.filter_eq_some_iff.mp hUser).1).1
      obtain rfl : row = user := Table.eq_of_key_eq hRow hMem hSame
      exact ⟨le_refl _, fun _ => rfl⟩

/-- What a fresh instance shows of the row that is changed. -/
theorem fresh_of_copy {client : CredentialClient} {user row : User} {userId : Uuid}
    (hCopies : ∀ u ∈ client.session.user, ∀ row ∈ s.db.users, row.id = u.id → CopyOf u row)
    (hFresh : freshInstance s.db client = true) (hRow : row ∈ s.db.users) (hId : row.id = userId)
    (hInstance : user = row ∨ client.session.user = some user ∧ user.id = userId) :
    user.authSessionVersion = row.authSessionVersion ∧ user.passwordHash = row.passwordHash := by
  rcases hInstance with rfl | ⟨hLoaded, hSame⟩
  · exact ⟨rfl, rfl⟩
  · have hOwner : row.id = user.id := hId.trans hSame.symm
    have hGet : s.db.users.get? user.id = some row := Table.get?_eq_some.mpr ⟨hRow, hOwner⟩
    simp only [freshInstance, hLoaded, Option.all_some, hGet, beq_iff_eq] at hFresh
    exact ⟨hFresh, (hCopies user hLoaded row hRow hOwner).2 hFresh⟩

/-- **Commit.** A transaction of a request that was not overtaken keeps the invariant. -/
theorem transact_invariant (hInv : s.CredentialInvariant settings) (now : Datetime)
    {client : CredentialClient} (hClient : client ∈ s.clients)
    (hFresh : freshInstance s.db client = true) :
    (s.transact settings now client).CredentialInvariant settings := by
  obtain ⟨hHistory, hBounded, hIssued, hCutoffs, hPasswords, hCopies⟩ := hInv
  unfold transact
  split
  · next db hPerform =>
    have hUsers := (perform_changes hPerform).1 rfl
    exact ⟨hHistory, by rw [hUsers]; exact hBounded, by rw [hUsers]; exact hIssued,
      by rw [hUsers]; exact hCutoffs, hPasswords, by rw [hUsers]; exact hCopies⟩
  · next db userId hPerform =>
    obtain ⟨user, row, hChanges, hId, hInstance, hPassword⟩ := (perform_changes hPerform).2 userId rfl
    obtain ⟨hVersion, hHash⟩ :=
      fresh_of_copy (hCopies client hClient) hFresh hChanges.mem hId hInstance
    obtain ⟨row', hRow', hId', hNext⟩ := hChanges.written
    have hGet : s.db.users.get? userId = some row := Table.get?_eq_some.mpr ⟨hChanges.mem, hId⟩
    have hGet' : db.users.get? userId = some row' :=
      Table.get?_eq_some.mpr ⟨hRow', hId'.trans hId⟩
    have hLess : row.authSessionVersion < row'.authSessionVersion := by
      rw [hNext, hVersion]
      omega
    have hRowOf : ∀ u ∈ s.db.users, u.id = userId → u = row := fun u hu hSame =>
      Table.eq_of_key_eq hu hChanges.mem (hSame.trans hId.symm)
    simp only [hGet', Option.map_some, Option.toList_some, List.singleton_append]
    refine ⟨List.pairwise_cons.mpr ⟨fun old hOld hSame => ?_, hHistory⟩, fun h hMem => ?_,
      fun c hc => ?_, fun cut hCut c hc hUser => ?_, fun p hp => ?_,
      fun other hOther u hu x hx hSame => ?_⟩
    · obtain ⟨u, hu, hOwner, hLe⟩ := hBounded old hOld
      rw [hRowOf u hu (hOwner.trans hSame.symm)] at hLe
      exact hLe.trans_lt hLess
    · rcases List.mem_cons.mp hMem with rfl | hOld
      · exact ⟨row', hRow', hId'.trans hId, le_refl _⟩
      · obtain ⟨u, hu, hOwner, hLe⟩ := hBounded h hOld
        obtain ⟨u', hu', hOwner', hLe'⟩ := changes_grow hChanges hVersion hu
        exact ⟨u', hu', hOwner'.trans hOwner, hLe.trans hLe'⟩
    · obtain ⟨u, hu, hOwner, hLe⟩ := hIssued c hc
      obtain ⟨u', hu', hOwner', hLe'⟩ := changes_grow hChanges hVersion hu
      exact ⟨u', hu', hOwner'.trans hOwner, hLe.trans hLe'⟩
    · rcases List.mem_cons.mp hCut with rfl | hOld
      · obtain ⟨u, hu, hOwner, hLe⟩ := hIssued c hc
        rw [hRowOf u hu (hOwner.trans hUser)] at hLe
        exact ⟨row', hRow', (hId'.trans hId).trans hUser.symm, hLe.trans_lt hLess⟩
      · obtain ⟨u, hu, hOwner, hLt⟩ := hCutoffs cut hOld c hc hUser
        obtain ⟨u', hu', hOwner', hLe'⟩ := changes_grow hChanges hVersion hu
        exact ⟨u', hu', hOwner'.trans hOwner, hLt.trans_le hLe'⟩
    · rcases List.mem_append.mp hp with hNew | hOld
      · simp only [hGet, Option.map_some, Option.mem_toList, Option.bind_eq_some_iff,
          Option.some.injEq] at hNew
        obtain ⟨password, hCurrent, rfl⟩ := hNew
        rw [← hHash]
        exact hPassword password hCurrent
      · exact hPasswords p hOld
    · by_cases hOwner : x.id = row.id
      · -- the changed row is ahead of every copy
        have hEq : x = row' := Table.eq_of_key_eq hx hRow' (hOwner.trans hId'.symm)
        have hBehind := (hCopies other hOther u hu row hChanges.mem (hOwner.symm.trans hSame)).1
        rw [hEq]
        exact ⟨(hBehind.trans_lt hLess).le, fun hReached => by omega⟩
      · exact hCopies other hOther u hu x (hChanges.kept x hx hOwner) hSame

/-- **Step lemma.** -/
theorem step_invariant (settings : AuthSettings) (s : CredentialState)
    (timed : TimedCredentialAction) (hInv : s.CredentialInvariant settings)
    (hCond : notOvertaken s timed = true) :
    (step settings s timed).CredentialInvariant settings := by
  have hSelf := hInv
  obtain ⟨hHistory, hBounded, hIssued, hCutoffs, hPasswords, hCopies⟩ := hInv
  unfold step
  unfold notOvertaken at hCond
  cases hAction : timed.action with
  | issue userId tokenId =>
    dsimp only
    split
    · exact hSelf
    · next user hUser =>
      obtain ⟨hRow, hId⟩ := Table.get?_eq_some.mp hUser
      refine ⟨hHistory, hBounded, fun c hc => ?_, hCutoffs, hPasswords, hCopies⟩
      rcases List.mem_cons.mp hc with rfl | hc
      · exact ⟨user, hRow, rfl, le_refl _⟩
      · exact hIssued c hc
  | arrive request =>
    refine ⟨hHistory, hBounded, hIssued, hCutoffs, hPasswords, fun client hClient => ?_⟩
    rcases List.mem_append.mp hClient with hOld | hNew
    · exact hCopies client hOld
    · rw [List.mem_singleton.mp hNew]
      exact arrive_copies s request
  | probe i =>
    dsimp only
    split
    · exact hSelf
    · next client hClient =>
      split
      · refine ⟨hHistory, hBounded, hIssued, hCutoffs, hPasswords, fun other hOther => ?_⟩
        rcases List.mem_or_eq_of_mem_set hOther with hOld | rfl
        · exact hCopies other hOld
        · exact hCopies client (List.mem_of_getElem? hClient)
      · exact hSelf
  | transact i =>
    rw [hAction] at hCond
    dsimp only at hCond ⊢
    cases hClient : s.clients[i]? with
    | none => exact hSelf
    | some client =>
      dsimp only
      split
      · next hPhase =>
        -- The condition of the run: the instance is not stale when it is written.
        have hFresh : freshInstance s.db client = true := by
          simpa [hClient, hPhase] using hCond
        have hMem := List.mem_of_getElem? hClient
        have hNext := transact_invariant hSelf timed.now hMem hFresh
        refine ⟨hNext.history, hNext.bounded, hNext.issued, hNext.cutoffs, hNext.passwords,
          fun other hOther => ?_⟩
        have hClients : (s.transact settings timed.now client).clients = s.clients := by
          unfold transact
          split <;> rfl
        -- The transaction of one client leaves the other sessions alone.
        rw [← hClients] at hMem
        rcases List.mem_or_eq_of_mem_set hOther with hOld | rfl
        · exact hNext.copies other (hClients ▸ hOld)
        · exact hNext.copies client hMem
      · exact hSelf
  | changeCodes challenges emailChangeOtps passwordResetOtps =>
    exact ⟨hHistory, hBounded, hIssued, hCutoffs, hPasswords, hCopies⟩

/-- Before any change nothing is recorded. -/
theorem init_invariant (settings : AuthSettings) (db : AccountDatabase) :
    (init db).CredentialInvariant settings where
  history := by
    show (db.users.rows.map fun u => (u.id, u.authSessionVersion)).Pairwise _
    rw [List.pairwise_map]
    exact db.users.apart.imp fun hApart hSame => absurd hSame hApart.1
  bounded h hMem := by
    obtain ⟨u, hu, rfl⟩ := List.mem_map.mp hMem
    exact ⟨u, hu, rfl, le_refl _⟩
  issued c hc := absurd hc List.not_mem_nil
  cutoffs cut hCut := absurd hCut List.not_mem_nil
  passwords p hp := absurd hp List.not_mem_nil
  copies client hClient := absurd hClient List.not_mem_nil

/-- **Session versions.** On every run in which no request is overtaken between its
authentication and its lock: the versions that are committed for an account increase
strictly, every password change came with a password that matched the committed hash, and an
access token that was issued before a change is refused from its commit on. -/
theorem versions_increase (settings : AuthSettings) (db : AccountDatabase)
    (actions : List TimedCredentialAction)
    (hFresh : Meets (step settings) (fun s timed => notOvertaken s timed = true) (init db)
      actions) :
    let s := run (step settings) (init db) actions
    (s.history.Pairwise fun new old => new.1 = old.1 → old.2 < new.2) ∧
    (∀ p ∈ s.passwordChanges, settings.verifyPassword p.1 p.2 = true) ∧
    ∀ cut ∈ s.cutoffs, ∀ c ∈ cut.tokens, c.userId = cut.userId → s.db.currentUser c = none := by
  intro s
  -- The three conclusions are read off the invariant of the run.
  have hInv : s.CredentialInvariant settings :=
    run_invariant_of_meets (step_invariant settings) (init_invariant settings db) hFresh
  refine ⟨hInv.history, hInv.passwords, fun cut hCut c hc hUser => ?_⟩
  obtain ⟨row, hRow, hId, hLess⟩ := hInv.cutoffs cut hCut c hc hUser
  exact AccountDatabase.currentUser_eq_none hRow hId hLess

end CredentialState

-- ---------------------------------------------------------------------------
-- Two password changes
-- ---------------------------------------------------------------------------

namespace CredentialSample

def settings : AuthSettings where
  otpMaxAttempts := 5
  otpMaxAttempts_pos := TwoStepSettings.default_otpMaxAttempts_pos
  otpResendCooldownSeconds := 60
  emailTwoStepExpireMinutes := 10
  verifyOtp rawOtp otpHash := rawOtp == otpHash
  verifyPassword password passwordHash := password == passwordHash
  lower := id
  accessTokenExpireMinutes := 15
  refreshTokenExpireDays := 7
  encodeJwt _ _ := []
  decodeJwt _ _ := none
  hashOpaqueToken := id

/-- One account at version 0. -/
def accounts : AccountDatabase where
  twoStep := {
    users := .single
      { id := 1, email := str "a@b.c", passwordHash := str "old", isVerified := true } (by decide) }

/-- A request with an access token of the version. -/
def change (version : Int) (currentPassword newPassword : Str) : CredentialRequest :=
  .changePassword ⟨1, 1, .access, version, minutes 15⟩ currentPassword newPassword newPassword

def credentialAt (second : Int) (action : CredentialAction) : TimedCredentialAction :=
  ⟨seconds second, action⟩

/-- Both requests authenticate before the first one locks the account; a sign-in with the
first new password comes between the two commits. -/
def overlapping : List TimedCredentialAction :=
  [credentialAt 1 (.arrive (change 0 (str "old") (str "first"))),
    credentialAt 2 (.arrive (change 0 (str "old") (str "second"))),
    credentialAt 3 (.transact 0), credentialAt 4 (.issue 1 2), credentialAt 5 (.transact 1)]

/-- The second request authenticates when the first one has committed, with a token that was
issued since. -/
def oneAfterTheOther : List TimedCredentialAction :=
  [credentialAt 1 (.arrive (change 0 (str "old") (str "first"))), credentialAt 2 (.transact 0),
    credentialAt 3 (.issue 1 2), credentialAt 4 (.arrive (change 1 (str "first") (str "second"))),
    credentialAt 5 (.transact 1)]

end CredentialSample

namespace CredentialState

/-- **A version is committed twice**, by two password changes that overlap: the second one
came with a password that is no longer the committed one, and the token that was issued
between them is still accepted. -/
theorem version_reused :
    let s := run (step CredentialSample.settings) (init CredentialSample.accounts)
      CredentialSample.overlapping
    ¬(s.history.Pairwise fun new old => new.1 = old.1 → old.2 < new.2) ∧
    (∃ p ∈ s.passwordChanges, CredentialSample.settings.verifyPassword p.1 p.2 = false) ∧
    ∃ cut ∈ s.cutoffs, ∃ c ∈ cut.tokens, c.userId = cut.userId ∧
      (s.db.currentUser c).isSome = true := by
  decide

/-- Two changes, one after the other. -/
theorem versions_increase_one_by_one :
    let s := run (step CredentialSample.settings) (init CredentialSample.accounts)
      CredentialSample.oneAfterTheOther
    s.history = [(1, 2), (1, 1), (1, 0)] ∧
      (s.history.Pairwise fun new old => new.1 = old.1 → old.2 < new.2) ∧
      (∀ p ∈ s.passwordChanges, CredentialSample.settings.verifyPassword p.1 p.2 = true) ∧
      ∀ cut ∈ s.cutoffs, ∀ c ∈ cut.tokens, c.userId = cut.userId → s.db.currentUser c = none :=
  ⟨by decide, versions_increase CredentialSample.settings CredentialSample.accounts
    CredentialSample.oneAfterTheOther (by decide)⟩

end CredentialState

end SpikeBackend
