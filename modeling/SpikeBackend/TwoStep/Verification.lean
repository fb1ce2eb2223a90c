import SpikeBackend.Model.TwoStepRuns

/-!
# What a verification does

* `ChallengesAdvance` — how any transaction may change the challenges;
* `verify_outcome` — a verification refuses its code without a comparison, finds it wrong
  and counts the attempt, or accepts it and uses the challenge;
* `issue_advances` — an issuance counts no attempt.
-/

namespace SpikeBackend

open Relational Text Outcome Session

-- ---------------------------------------------------------------------------
-- How challenges change
-- ---------------------------------------------------------------------------

/-- Expiring marks the open challenges of a kind used and leaves the others. -/
theorem mem_expireChallenges {t : Table EmailTwoStepChallenge}
    {p : EmailTwoStepChallenge → Bool} {now : Datetime} {c : EmailTwoStepChallenge} :
    c ∈ expireChallenges t p now ↔
      ∃ x ∈ t, (if p x && x.usedAt.isNone then x.markUsed now else x) = c := by
  unfold expireChallenges
  exact Table.mem_map

/-- Only the attempts of the challenges in `wrong` are counted, a used challenge stays
used, and a new challenge has no attempts. -/
structure ChallengesAdvance (t t' : Table EmailTwoStepChallenge) (wrong : List Uuid) : Prop where
  kept : ∀ c ∈ t, ∃ c' ∈ t', c'.id = c.id
  rows : ∀ c' ∈ t',
    (∃ c ∈ t, c.id = c'.id ∧ c'.attemptCount = c.attemptCount + wrong.count c.id ∧
      (c'.usedAt = none → c.usedAt = none)) ∨
    ((∀ c ∈ t, c.id ≠ c'.id) ∧ c'.attemptCount = 0)

namespace ChallengesAdvance

variable {t t' t'' : Table EmailTwoStepChallenge} {wrong : List Uuid}

theorem refl (t : Table EmailTwoStepChallenge) : ChallengesAdvance t t [] where
  kept c hc := ⟨c, hc, rfl⟩
  rows c hc := .inl ⟨c, hc, rfl, by simp, fun h => h⟩

/-- A change that counts no attempt may follow. -/
theorem trans (h : ChallengesAdvance t t' wrong) (h' : ChallengesAdvance t' t'' []) :
    ChallengesAdvance t t'' wrong where
  kept c hc := by
    obtain ⟨c', hc', hId⟩ := h.kept c hc
    obtain ⟨c'', hc'', hId'⟩ := h'.kept c' hc'
    exact ⟨c'', hc'', hId'.trans hId⟩
  rows c'' hc'' := by
    -- The second step adds no attempt.
    rcases h'.rows c'' hc'' with ⟨c', hc', hId', hCount', hUsed'⟩ | ⟨hNew, hZero⟩
    · rw [List.count_nil, Int.natCast_zero, Int.add_zero] at hCount'
      rcases h.rows c' hc' with ⟨c, hc, hId, hCount, hUsed⟩ | ⟨hNew, hZero⟩
      · exact .inl ⟨c, hc, hId.trans hId', hCount'.trans hCount, fun h => hUsed (hUsed' h)⟩
      · exact .inr ⟨fun c hc => hId' ▸ hNew c hc, hCount'.trans hZero⟩
    · refine .inr ⟨fun c hc hId => ?_, hZero⟩
      obtain ⟨c', hc', hId'⟩ := h.kept c hc
      exact hNew c' hc' (hId'.trans hId)

/-- Expiring advances the table. -/
theorem expire (t : Table EmailTwoStepChallenge) (p : EmailTwoStepChallenge → Bool)
    (now : Datetime) : ChallengesAdvance t (expireChallenges t p now) [] where
  kept c hc := by
    refine ⟨_, mem_expireChallenges.mpr ⟨c, hc, rfl⟩, ?_⟩
    split <;> rfl
  rows c' hc' := by
    obtain ⟨c, hc, rfl⟩ := mem_expireChallenges.mp hc'
    refine .inl ⟨c, hc, ?_, ?_, ?_⟩
    · split <;> rfl
    · split <;> simp
    · split
      · simp
      · exact fun h => h

/-- A challenge without attempts is inserted. -/
theorem insert {c : EmailTwoStepChallenge} (h : t.insert? c = some t')
    (hCount : c.attemptCount = 0) : ChallengesAdvance t t' [] where
  kept x hx := ⟨x, (Table.mem_insert? h).mpr (.inr hx), rfl⟩
  rows c' hc' := by
    rcases (Table.mem_insert? h).mp hc' with rfl | hc'
    · exact .inr ⟨fun x hx => (Table.apart_of_insert? h hx).1, hCount⟩
    · exact .inl ⟨c', hc', rfl, by simp, fun h => h⟩

/-- One row was rewritten. -/
theorem update {row row' : EmailTwoStepChallenge} (h : t.update? row' = some t') (hRow : row ∈ t)
    (hId : row'.id = row.id) (hCount : row'.attemptCount = row.attemptCount + wrong.count row.id)
    (hOther : ∀ id, id ≠ row.id → id ∉ wrong)
    (hUsed : row'.usedAt = none → row.usedAt = none) : ChallengesAdvance t t' wrong where
  kept c hc := by
    by_cases hc' : c.id = row.id
    · exact ⟨row', Table.mem_update?_self h hRow hId.symm, hId.trans hc'.symm⟩
    · exact ⟨c, (Table.mem_update?_iff h hRow hId).mpr (.inr ⟨hc, hc'⟩), rfl⟩
  rows c hc := by
    rcases (Table.mem_update?_iff h hRow hId).mp hc with rfl | ⟨hOld, hne⟩
    · exact .inl ⟨row, hRow, hId.symm, hCount, hUsed⟩
    · refine .inl ⟨c, hOld, rfl, ?_, fun h => h⟩
      -- The wrong guess was at the updated row only.
      rw [List.count_eq_zero.mpr (hOther c.id hne)]
      simp

end ChallengesAdvance

namespace TwoStepDatabase

variable {db : TwoStepDatabase} {settings : TwoStepSettings} {session : TwoStepSession}

-- ---------------------------------------------------------------------------
-- The locks
-- ---------------------------------------------------------------------------

/-- The locked user is the row, or the instance the session held. -/
theorem lockUser_eq_ok {userId : Uuid} {row user : User}
    (h : db.lockUser session userId = .ok (row, user)) :
    row ∈ db.users ∧ (user = row ∨ session.user = some user) := by
  simp only [lockUser, bind_eq_ok, required_eq_ok, ensure_eq_ok] at h
  obtain ⟨row', hRow, -, -, hDone⟩ := h
  simp only [pure, Except.pure, Except.ok.injEq, Prod.mk.injEq] at hDone
  obtain ⟨rfl, rfl⟩ := hDone
  refine ⟨(Table.get?_eq_some.mp hRow).1, ?_⟩
  cases hUser : session.user with
  | none => exact .inl rfl
  | some u =>
    -- The session's instance is kept if it is of this user.
    by_cases hId : u.id = userId
    · refine .inr (congrArg some ?_)
      simp [Option.filter, hId]
    · refine .inl ?_
      simp [Option.filter, hId]

/-- Locking takes the challenge the session has probed and its user. -/
theorem lockChallengeAndUser_eq_ok {challengeId : Uuid} {purpose : EmailTwoStepPurpose}
    {expectedUserId : Option Uuid} {l : LockedChallenge}
    (h : db.lockChallengeAndUser session challengeId purpose expectedUserId = .ok l) :
    session.challenge = some l.challenge ∧ (l.row ∈ db.challenges ∧ l.row.id = challengeId) ∧
      l.userRow ∈ db.users ∧ (l.user = l.userRow ∨ session.user = some l.user) := by
  simp only [lockChallengeAndUser, bind_eq_ok, required_eq_ok, ensure_eq_ok] at h
  obtain ⟨probe, hProbe, -, -, ⟨userRow, user⟩, hUser, row, hRow, hDone⟩ := h
  simp only [pure, Except.pure, Except.ok.injEq] at hDone
  subst hDone
  obtain ⟨hUserRow, hInstance⟩ := lockUser_eq_ok hUser
  have hWhere := Table.prop_of_find? hRow
  simp only [Bool.and_eq_true, beq_iff_eq] at hWhere
  exact ⟨by rw [hProbe]; rfl, ⟨Table.mem_of_find? hRow, hWhere.1.1⟩, hUserRow, hInstance⟩

-- ---------------------------------------------------------------------------
-- Writes of one challenge
-- ---------------------------------------------------------------------------

/-- Closing a challenge counts no attempt. -/
theorem saveChallenge_used (l : LockedChallenge) (hRow : l.row ∈ db.challenges) (now : Datetime) :
    ChallengesAdvance db.challenges
      (db.saveChallenge l (l.challenge.markUsed now)).challenges [] := by
  unfold saveChallenge
  split
  · next challenges h =>
    refine .update h hRow rfl ?_ (by simp) ?_
    · simp [EmailTwoStepChallenge.flush]
    · intro hNone
      rcases column_cases l.challenge.usedAt (some now) l.row.usedAt with hColumn | ⟨-, hColumn⟩
      · simp [EmailTwoStepChallenge.flush, hColumn] at hNone
      · exact hColumn.symm.trans hNone
  · exact .refl _

/-- A wrong code is counted when the instance has the count of the row. -/
theorem saveChallenge_failed {l : LockedChallenge} (hRow : l.row ∈ db.challenges)
    (hUsed : l.row.usedAt = none) (hCount : l.row.attemptCount = l.challenge.attemptCount)
    {failed : EmailTwoStepChallenge} (hFailed : failed.attemptCount = l.challenge.attemptCount + 1) :
    ChallengesAdvance db.challenges (db.saveChallenge l failed).challenges [l.row.id] := by
  -- The instance's count is the row's, so the column written is the row's plus one.
  have hAttempts : (failed.flush l.challenge l.row).attemptCount = l.row.attemptCount + 1 := by
    rw [hCount, ← hFailed]
    exact column_of_ne (by omega)
  have hChecks : Schema.checks (failed.flush l.challenge l.row) = true := by
    have hOld := Table.checks_of_mem hRow
    simp only [Schema.checks, Bool.and_eq_true, decide_eq_true_eq] at hOld
    simp only [Schema.checks, Bool.and_eq_true]
    refine ⟨decide_eq_true ?_, decide_eq_true hOld.2⟩
    rw [hAttempts]
    exact Int.le_trans hOld.1 (Int.le_add_of_nonneg_right (by decide))
  obtain ⟨challenges, hUpdate⟩ := Table.exists_update? (t := db.challenges)
    (fun _ _ _ => rfl) hChecks
  rw [saveChallenge, hUpdate]
  refine .update hUpdate hRow rfl ?_ (by simp) (fun _ => hUsed)
  rw [hAttempts]
  simp

/-- The flush of an accepted challenge and its user goes through, and uses the challenge. -/
theorem saveAccepted_succeeds {l : LockedChallenge} (hRow : l.row ∈ db.challenges)
    (hUserRow : l.userRow ∈ db.users) {user : User}
    (hChecks : Schema.checks (user.flush l.user l.userRow) = true)
    (hUnused : l.challenge.usedAt = none) (invalidate : Bool) (now : Datetime) :
    ∃ db', db.saveAccepted l user invalidate now = some db' ∧
      ChallengesAdvance db.challenges db'.challenges [] ∧
      ∀ c ∈ db'.challenges, c.id = l.row.id → c.usedAt ≠ none := by
  obtain ⟨users, hUsers⟩ : ∃ users, db.users.update? (user.flush l.user l.userRow) =
      some users := by
    refine Table.exists_update? (fun x hx hne => ?_) hChecks
    -- the flush keeps the address, which no other account has
    have hRowClash : Schema.clash x (user.flush l.user l.userRow) = Schema.clash x l.userRow := rfl
    rw [hRowClash]
    exact (Table.apart_of_ne _ hx hUserRow fun h => hne (by rw [h]; rfl)).2
  have hUsed : ((l.challenge.markUsed now).flush l.challenge l.row).usedAt = some now :=
    column_of_ne (by simp [hUnused])
  have hCount : ((l.challenge.markUsed now).flush l.challenge l.row).attemptCount =
      l.row.attemptCount := column_same _ _
  have hChallengeChecks :
      Schema.checks ((l.challenge.markUsed now).flush l.challenge l.row) = true := by
    have hOld := Table.checks_of_mem hRow
    simpa [Schema.checks, EmailTwoStepChallenge.flush] using hOld
  obtain ⟨challenges, hUpdate⟩ := Table.exists_update? (t := db.challenges)
    (fun _ _ _ => rfl) hChallengeChecks
  have hAdvance : ChallengesAdvance db.challenges challenges [] :=
    .update hUpdate hRow rfl (by rw [hCount]; simp) (by simp)
      (fun h => by simp [hUsed] at h)
  have hClosed : ∀ c ∈ challenges, c.id = l.row.id → c.usedAt ≠ none := by
    intro c hc hId
    rw [Table.eq_of_mem_update? hUpdate hc hId, hUsed]
    simp
  refine ⟨{ db with
      users
      challenges :=
        if invalidate then expireChallenges challenges (fun c => c.userId == user.id) now
        else challenges }, by rw [saveAccepted, hUsers, hUpdate]; rfl, ?_⟩
  cases invalidate with
  | false => exact ⟨hAdvance, hClosed⟩
  | true =>
    refine ⟨hAdvance.trans (.expire _ _ _), fun c hc hId => ?_⟩
    obtain ⟨x, hx, rfl⟩ := mem_expireChallenges.mp hc
    revert hId
    split
    · simp
    · exact hClosed x hx

-- ---------------------------------------------------------------------------
-- Verification
-- ---------------------------------------------------------------------------

/-- What a verification of the challenge can come to. -/
inductive Outcome (db : TwoStepDatabase) (settings : TwoStepSettings) (challengeId : Uuid)
    (v : Verification) : Prop
  | refused (hCompared : v.compared = false) (hResult : ∃ error, v.result = .error error)
      (hAdvance : ChallengesAdvance db.challenges v.db.challenges [])
  | wrong (row : EmailTwoStepChallenge) (hRow : row ∈ db.challenges) (hId : row.id = challengeId)
      (hUnused : row.usedAt = none) (hAttempts : row.attemptCount < settings.otpMaxAttempts)
      (hCompared : v.compared = true) (hResult : ∃ error, v.result = .error error)
      (hAdvance : ChallengesAdvance db.challenges v.db.challenges [challengeId])
  | accepted (row : EmailTwoStepChallenge) (hRow : row ∈ db.challenges)
      (hId : row.id = challengeId) (hUnused : row.usedAt = none)
      (hAttempts : row.attemptCount < settings.otpMaxAttempts)
      (hCompared : v.compared = true) (hResult : ∃ l, v.result = .ok l)
      (hAdvance : ChallengesAdvance db.challenges v.db.challenges [])
      (hUsed : ∀ c ∈ v.db.challenges, c.id = challengeId → c.usedAt ≠ none)

/-- The probe of an open challenge still shows its row: unused, with as many attempts. -/
def ProbeCurrent (db : TwoStepDatabase) (session : TwoStepSession) (challengeId : Uuid) : Prop :=
  ∀ c ∈ session.challenge, c.usedAt = none →
    ∀ row ∈ db.challenges, row.id = challengeId →
      row.usedAt = none ∧ row.attemptCount = c.attemptCount

instance (db : TwoStepDatabase) (session : TwoStepSession) (challengeId : Uuid) :
    Decidable (ProbeCurrent db session challengeId) :=
  inferInstanceAs (Decidable (∀ c ∈ session.challenge, c.usedAt = none →
    ∀ row ∈ db.challenges, row.id = challengeId →
      row.usedAt = none ∧ row.attemptCount = c.attemptCount))

/-- `_validate_otp` with what follows it, on a current probe. -/
theorem accept_outcome {challengeId : Uuid} {l : LockedChallenge}
    (hProbe : session.challenge = some l.challenge)
    (hRow : l.row ∈ db.challenges ∧ l.row.id = challengeId) (hUserRow : l.userRow ∈ db.users)
    (hCurrent : ProbeCurrent db session challengeId) {user : User}
    (hChecks : Schema.checks (user.flush l.user l.userRow) = true) (rawOtp : Str)
    (invalidate : Bool) (now : Datetime) :
    Outcome db settings challengeId (db.accept settings l rawOtp user invalidate now) := by
  obtain ⟨hMem, rfl⟩ := hRow
  unfold accept validateOtp
  by_cases hState : l.challenge.usedAt.isSome ∨ l.challenge.expiresAt ≤ now ∨
      l.challenge.sessionVersion ≠ l.user.authSessionVersion
  · simp only [if_pos hState]
    refine .refused rfl ⟨_, rfl⟩ ?_
    dsimp only
    split
    · exact saveChallenge_used l hMem now
    · exact .refl _
  simp only [if_neg hState]
  have hUnused : l.challenge.usedAt = none := by
    simpa using fun h => hState (.inl h)
  -- The condition: the probed instance has the count of the row.
  obtain ⟨hRowUnused, hRowCount⟩ := hCurrent _ hProbe hUnused l.row hMem rfl
  by_cases hMax : settings.otpMaxAttempts ≤ l.challenge.attemptCount
  · simp only [if_pos hMax]
    exact .refused rfl ⟨_, rfl⟩ (saveChallenge_used l hMem now)
  simp only [if_neg hMax]
  have hAttempts : l.row.attemptCount < settings.otpMaxAttempts := by omega
  by_cases hOtp : settings.verifyOtp rawOtp l.challenge.otpHash = true
  · simp only [if_pos hOtp]
    obtain ⟨db', hSaved, hAdvance, hUsed⟩ :=
      saveAccepted_succeeds hMem hUserRow hChecks hUnused invalidate now
    rw [hSaved]
    exact .accepted l.row hMem rfl hRowUnused hAttempts rfl ⟨_, rfl⟩ hAdvance hUsed
  · simp only [if_neg hOtp]
    refine .wrong l.row hMem rfl hRowUnused hAttempts rfl ⟨_, rfl⟩
      (saveChallenge_failed hMem hRowUnused hRowCount ?_)
    split <;> rfl

/-- A change of the setting passes the checks of the account. -/
theorem checks_of_setting {l : LockedChallenge} (hUserRow : l.userRow ∈ db.users)
    (hUser : Schema.checks l.user = true) {enabled : Bool}
    (hEnabled : l.user.emailTwoStepEnabled ≠ enabled) (now : Datetime) :
    Schema.checks (User.flush
      { l.user with
        emailTwoStepEnabled := enabled
        emailTwoStepEnabledAt := if enabled then some now else none
        authSessionVersion := l.user.authSessionVersion + 1 } l.user l.userRow) = true := by
  have hOld := Table.checks_of_mem hUserRow
  simp only [Schema.checks, Bool.and_eq_true, decide_eq_true_eq, beq_iff_eq] at hOld hUser
  have hVersion : column l.user.authSessionVersion (l.user.authSessionVersion + 1)
      l.userRow.authSessionVersion = l.user.authSessionVersion + 1 := column_of_ne (by omega)
  have hSetting : column l.user.emailTwoStepEnabled enabled l.userRow.emailTwoStepEnabled =
      enabled := column_of_ne (Ne.symm hEnabled)
  -- The time of the setting goes with the setting.
  have hSettingAt : column l.user.emailTwoStepEnabledAt (if enabled then some now else none)
      l.userRow.emailTwoStepEnabledAt = if enabled then some now else none := by
    refine column_of_ne fun h => hEnabled ?_
    rw [hUser.2, ← h]
    cases enabled <;> rfl
  simp only [Schema.checks, User.flush, hVersion, hSetting, hSettingAt, Bool.and_eq_true]
  refine ⟨decide_eq_true ?_, ?_⟩
  · omega
  · cases enabled <;> rfl

variable (settings) in
/-- **Verification.** On a current probe, every verification has one of three outcomes. -/
theorem verify_outcome {request : VerificationRequest}
    (hUser : ∀ u, session.user = some u → Schema.checks u = true)
    (hCurrent : ProbeCurrent db session request.challengeId) (now : Datetime) :
    Outcome db settings request.challengeId (db.verify settings session request now) := by
  -- The two confirmations are one function; the sign-in has its own checks.
  have hSetting : ∀ purpose enabled userId challengeId rawOtp,
      ProbeCurrent db session challengeId →
        Outcome db settings challengeId
          (db.confirmSetting settings session purpose enabled userId challengeId rawOtp now) := by
    intro purpose enabled userId challengeId rawOtp hCurrent
    unfold confirmSetting
    split
    · exact .refused rfl ⟨_, rfl⟩ (.refl _)
    · next l h =>
      obtain ⟨hProbe, hRow, hUserRow, hInstance⟩ := lockChallengeAndUser_eq_ok h
      split
      · exact .refused rfl ⟨_, rfl⟩ (.refl _)
      · next hEnabled =>
        have hUserChecks : Schema.checks l.user = true := by
          rcases hInstance with h | h
          · rw [h]
            exact Table.checks_of_mem hUserRow
          · exact hUser _ h
        exact accept_outcome hProbe hRow hUserRow hCurrent
          (checks_of_setting hUserRow hUserChecks hEnabled now) rawOtp true now
  cases request with
  | confirmEnable token challengeId rawOtp => exact hSetting _ _ _ _ _ hCurrent
  | confirmDisable token challengeId rawOtp => exact hSetting _ _ _ _ _ hCurrent
  | consumeLogin challengeId rawOtp =>
    simp only [verify, consumeLogin]
    split
    · exact .refused rfl ⟨_, rfl⟩ (.refl _)
    · next l h =>
      obtain ⟨hProbe, hRow, hUserRow, -⟩ := lockChallengeAndUser_eq_ok h
      split
      · exact .refused rfl ⟨_, rfl⟩ (saveChallenge_used l hRow.1 now)
      · refine accept_outcome hProbe hRow hUserRow hCurrent ?_ rawOtp false now
        have hOld := Table.checks_of_mem hUserRow
        simpa [Schema.checks, User.flush] using hOld

-- ---------------------------------------------------------------------------
-- Issuance
-- ---------------------------------------------------------------------------

/-- An issue expires the open challenges of its kind and inserts one. -/
theorem issueLocked_advances {user : User} {purpose : EmailTwoStepPurpose}
    {rememberMe reuseDuringCooldown : Bool} {now : Datetime} {draws : IssueDraws}
    {db' : TwoStepDatabase} {challenge : EmailTwoStepChallenge}
    (h : db.issueLocked settings session user purpose rememberMe reuseDuringCooldown now draws =
      .ok (db', challenge)) : ChallengesAdvance db.challenges db'.challenges [] := by
  unfold issueLocked at h
  dsimp only at h
  split at h
  · obtain ⟨rfl, -⟩ := Prod.mk.inj (Except.ok.inj h)
    -- During the cooldown the open challenge is given again.
    exact .refl _
  · simp only [bind_eq_ok, required_eq_ok] at h
    obtain ⟨challenges, hInsert, hDone⟩ := h
    simp only [pure, Except.pure, Except.ok.injEq, Prod.mk.injEq] at hDone
    obtain ⟨rfl, -⟩ := hDone
    exact (ChallengesAdvance.expire _ _ now).trans (.insert hInsert rfl)

/-- A resend advances the challenges. -/
theorem resend_advances (challengeId : Uuid) (allowedPurposes : List EmailTwoStepPurpose)
    (expectedUserId : Option Uuid) (now : Datetime) (draws : IssueDraws) :
    ChallengesAdvance db.challenges
      (db.resend settings session challengeId allowedPurposes expectedUserId now
        draws).1.challenges [] := by
  unfold resend
  split
  · exact .refl _
  · split
    · exact .refl _
    · split
      · exact .refl _
      · next l h =>
        obtain ⟨-, hRow, -⟩ := lockChallengeAndUser_eq_ok h
        split
        · dsimp only
          split
          · -- A challenge that no longer fits its user is closed.
            exact saveChallenge_used l hRow.1 now
          · exact .refl _
        · split
          · exact .refl _
          · split
            · next h => exact issueLocked_advances h
            · exact .refl _

/-- What a transaction that raises leaves has not changed. -/
theorem commit_advances {α : Type} {r : Except EmailTwoStepError (TwoStepDatabase × α)}
    (h : ∀ db' a, r = .ok (db', a) → ChallengesAdvance db.challenges db'.challenges []) :
    ChallengesAdvance db.challenges (commit db r).challenges [] :=
  commit_induction (P := fun db' : TwoStepDatabase =>
    ChallengesAdvance db.challenges db'.challenges []) (.refl _) h

/-- **Issuance** counts no attempt and reopens no challenge. -/
theorem issue_advances (request : IssueRequest) (now : Datetime) (draws : IssueDraws) :
    ChallengesAdvance db.challenges (db.issue settings session request now draws).challenges [] := by
  -- A sign-in issues a challenge only when the user has the setting.
  cases request with
  | login email password rememberMe =>
    refine commit_advances fun db' answer h => ?_
    simp only [login, bind_eq_ok, required_eq_ok, ensure_eq_ok] at h
    obtain ⟨row, -, -, -, -, -, -, -, h⟩ := h
    split at h
    · simp only [bind_eq_ok] at h
      obtain ⟨⟨db'', challenge⟩, hIssue, hDone⟩ := h
      simp only [pure, Except.pure, Except.ok.injEq, Prod.mk.injEq] at hDone
      obtain ⟨rfl, -⟩ := hDone
      exact issueLocked_advances hIssue
    · simp only [bind_eq_ok, required_eq_ok] at h
      obtain ⟨users, -, hDone⟩ := h
      simp only [pure, Except.pure, Except.ok.injEq, Prod.mk.injEq] at hDone
      obtain ⟨rfl, -⟩ := hDone
      exact .refl _
  | requestEnable token email currentPassword =>
    refine commit_advances fun db' answer h => ?_
    simp only [requestEnable, bind_eq_ok, ensure_eq_ok] at h
    obtain ⟨_, -, -, -, -, -, -, -, h⟩ := h
    exact issueLocked_advances h
  | requestDisable token currentPassword =>
    refine commit_advances fun db' answer h => ?_
    simp only [requestDisable, bind_eq_ok, ensure_eq_ok] at h
    obtain ⟨_, -, -, -, -, -, h⟩ := h
    exact issueLocked_advances h
  | resendLogin challengeId => exact resend_advances ..
  | resendSetting token challengeId => exact resend_advances ..

end TwoStepDatabase

end SpikeBackend
