import SpikeBackend.TwoStep.Verification

/-!
# What a transaction does to codes

A code is open until it is used. A transaction closes open codes and issues new ones, and it
changes the version of an account only when it accepts a change of the setting.

* `Effect` — which codes a transaction may close and which it may issue;
* `verify_effect` — a verification closes the code that it accepts, one that is expired, bound to
  another version or out of place, and one that runs out of attempts;
* `issue_effect` — an issuance closes the codes that the new one replaces, which are due.
-/

namespace SpikeBackend

open Relational Text Outcome Session

-- ---------------------------------------------------------------------------
-- Codes
-- ---------------------------------------------------------------------------

namespace EmailTwoStepChallenge

/-- The columns that no transaction rewrites. -/
def SameCode (c c' : EmailTwoStepChallenge) : Prop :=
  c'.id = c.id ∧ c'.userId = c.userId ∧ c'.createdAt = c.createdAt ∧ c'.purpose = c.purpose ∧
    c'.expiresAt = c.expiresAt ∧ c'.sessionVersion = c.sessionVersion

theorem SameCode.refl (c : EmailTwoStepChallenge) : c.SameCode c := ⟨rfl, rfl, rfl, rfl, rfl, rfl⟩

/-- Challenges with one code, through a third one. -/
theorem SameCode.trans {a b c : EmailTwoStepChallenge} (h : a.SameCode b) (h' : b.SameCode c) :
    a.SameCode c := by
  obtain ⟨h₁, h₂, h₃, h₄, h₅, h₆⟩ := h
  obtain ⟨h₁', h₂', h₃', h₄', h₅', h₆'⟩ := h'
  exact ⟨h₁'.trans h₁, h₂'.trans h₂, h₃'.trans h₃, h₄'.trans h₄, h₅'.trans h₅, h₆'.trans h₆⟩

theorem SameCode.symm {a b : EmailTwoStepChallenge} (h : a.SameCode b) : b.SameCode a := by
  obtain ⟨h₁, h₂, h₃, h₄, h₅, h₆⟩ := h
  exact ⟨h₁.symm, h₂.symm, h₃.symm, h₄.symm, h₅.symm, h₆.symm⟩

theorem sameCode_markUsed (c : EmailTwoStepChallenge) (now : Datetime) :
    c.SameCode (c.markUsed now) := ⟨rfl, rfl, rfl, rfl, rfl, rfl⟩

/-- A flush writes the counter and the time of use, and not the code. -/
theorem sameCode_flush (modified loaded row : EmailTwoStepChallenge) :
    row.SameCode (modified.flush loaded row) := ⟨rfl, rfl, rfl, rfl, rfl, rfl⟩

/-- Two codes of one account for one purpose. -/
def SameUse (c c' : EmailTwoStepChallenge) : Prop :=
  c'.userId = c.userId ∧ c'.purpose = c.purpose

instance (c c' : EmailTwoStepChallenge) : Decidable (c.SameUse c') :=
  inferInstanceAs (Decidable (_ ∧ _))

end EmailTwoStepChallenge

open EmailTwoStepChallenge

/-- What a purpose needs of the setting. -/
def EmailTwoStepPurpose.allows (purpose : EmailTwoStepPurpose) (enabled : Bool) : Bool :=
  match purpose with
  | .login | .disable => enabled
  | .enable => !enabled

theorem TwoStepDatabase.settingAllows_eq (purpose : EmailTwoStepPurpose) (user : User) :
    settingAllows purpose user = purpose.allows user.emailTwoStepEnabled := by
  cases purpose <;> rfl

/-- Which open codes may be closed, and which codes are new. -/
structure Effect (t t' : Table EmailTwoStepChallenge) (closes new : EmailTwoStepChallenge → Prop) :
    Prop where
  kept : ∀ c ∈ t, ∃ c' ∈ t', c.SameCode c' ∧ (c.usedAt = none → c'.usedAt = none ∨ closes c)
  rows : ∀ c' ∈ t', (∃ c ∈ t, c.SameCode c' ∧ (c'.usedAt = none → c.usedAt = none)) ∨
    ((∀ c ∈ t, c.id ≠ c'.id) ∧ new c')

namespace Effect

variable {t t' t'' : Table EmailTwoStepChallenge} {closes closes' new new' : EmailTwoStepChallenge → Prop}

theorem refl (t : Table EmailTwoStepChallenge) (closes new : EmailTwoStepChallenge → Prop) :
    Effect t t closes new where
  kept c hc := ⟨c, hc, .refl c, .inl⟩
  rows c hc := .inl ⟨c, hc, .refl c, fun h => h⟩

/-- More may be closed, and more may be new. -/
theorem mono (h : Effect t t' closes new)
    (hCloses : ∀ c ∈ t, c.usedAt = none → closes c → closes' c)
    (hNew : ∀ c ∈ t', new c → new' c) : Effect t t' closes' new' where
  kept c hc := by
    obtain ⟨c', hc', hSame, hOpen⟩ := h.kept c hc
    exact ⟨c', hc', hSame, fun hNone => (hOpen hNone).imp_right (hCloses c hc hNone)⟩
  rows c' hc' := (h.rows c' hc').imp_right fun ⟨hFresh, hIs⟩ => ⟨hFresh, hNew c' hc' hIs⟩

/-- Codes are closed after a transaction that issues none. -/
theorem trans (h : Effect t t' closes fun _ => False) (h' : Effect t' t'' closes' new)
    (hCloses : ∀ c ∈ t, ∀ c' ∈ t', c.SameCode c' → closes' c' → closes c) :
    Effect t t'' closes new where
  kept c hc := by
    obtain ⟨c', hc', hSame, hOpen⟩ := h.kept c hc
    obtain ⟨c'', hc'', hSame', hOpen'⟩ := h'.kept c' hc'
    refine ⟨c'', hc'', hSame.trans hSame', fun hNone => ?_⟩
    rcases hOpen hNone with hStill | hClosed
    · exact (hOpen' hStill).imp_right (hCloses c hc c' hc' hSame)
    · exact .inr hClosed
  rows c'' hc'' := by
    rcases h'.rows c'' hc'' with ⟨c', hc', hSame', hOpen'⟩ | ⟨hFresh, hNew⟩
    · rcases h.rows c' hc' with ⟨c, hc, hSame, hOpen⟩ | ⟨-, hNone⟩
      · exact .inl ⟨c, hc, hSame.trans hSame', fun hNone => hOpen (hOpen' hNone)⟩
      · exact hNone.elim
    · refine .inr ⟨fun c hc hId => ?_, hNew⟩
      obtain ⟨c', hc', hSame, -⟩ := h.kept c hc
      exact hFresh c' hc' (hSame.1.trans hId)

/-- Expiring challenges closes those that match, and adds none. -/
theorem expire (t : Table EmailTwoStepChallenge) (p : EmailTwoStepChallenge → Bool)
    (now : Datetime) : Effect t (expireChallenges t p now) (fun c => p c = true) fun _ => False where
  kept c hc := by
    refine ⟨_, mem_expireChallenges.mpr ⟨c, hc, rfl⟩, ?_⟩
    split
    · next h =>
      rw [Bool.and_eq_true] at h
      exact ⟨c.sameCode_markUsed now, fun _ => .inr h.1⟩
    · exact ⟨.refl c, .inl⟩
  rows c' hc' := by
    obtain ⟨c, hc, rfl⟩ := mem_expireChallenges.mp hc'
    refine .inl ⟨c, hc, ?_⟩
    split
    · exact ⟨c.sameCode_markUsed now, fun h => by cases h⟩
    · exact ⟨.refl c, fun h => h⟩

/-- What `expireChallenges` picks is used afterwards. -/
theorem usedAt_of_expire {p : EmailTwoStepChallenge → Bool} {now : Datetime}
    {c : EmailTwoStepChallenge} (hc : c ∈ expireChallenges t p now)
    (hp : ∀ x ∈ t, x.SameCode c → p x = true) : c.usedAt ≠ none := by
  obtain ⟨x, hx, rfl⟩ := mem_expireChallenges.mp hc
  split
  · exact fun h => by cases h
  · next h =>
    rw [if_neg h] at hp
    rw [Bool.and_eq_true, not_and] at h
    have hUsed := h (hp x hx (.refl x))
    intro hNone
    rw [hNone] at hUsed
    exact hUsed rfl

/-- An insert adds one challenge and closes none. -/
theorem insert {c : EmailTwoStepChallenge} (h : t.insert? c = some t') :
    Effect t t' (fun _ => False) (· = c) where
  kept x hx := ⟨x, (Table.mem_insert? h).mpr (.inr hx), .refl x, .inl⟩
  rows c' hc' := by
    rcases (Table.mem_insert? h).mp hc' with rfl | hc'
    · exact .inr ⟨fun x hx => (Table.apart_of_insert? h hx).1, rfl⟩
    · exact .inl ⟨c', hc', .refl c', fun h => h⟩

/-- One row was rewritten. -/
theorem update {row row' : EmailTwoStepChallenge} (h : t.update? row' = some t') (hRow : row ∈ t)
    (hSame : row.SameCode row') (hOpen : row'.usedAt = none → row.usedAt = none) :
    Effect t t' (fun c => c = row ∧ row'.usedAt ≠ none) fun _ => False where
  kept c hc := by
    by_cases hId : c.id = row.id
    · obtain rfl := Table.eq_of_key_eq hc hRow hId
      refine ⟨row', Table.mem_update?_self h hc hSame.1.symm, hSame, fun _ => ?_⟩
      by_cases hUsed : row'.usedAt = none
      · exact .inl hUsed
      · exact .inr ⟨rfl, hUsed⟩
    · exact ⟨c, (Table.mem_update?_iff h hRow hSame.1).mpr (.inr ⟨hc, hId⟩), .refl c, .inl⟩
  rows c hc := by
    rcases (Table.mem_update?_iff h hRow hSame.1).mp hc with rfl | ⟨hOld, -⟩
    · exact .inl ⟨row, hRow, hSame, hOpen⟩
    · exact .inl ⟨c, hOld, .refl c, fun h => h⟩

end Effect

namespace TwoStepDatabase

variable {db : TwoStepDatabase} {settings : TwoStepSettings} {session : TwoStepSession}

-- ---------------------------------------------------------------------------
-- Accounts
-- ---------------------------------------------------------------------------

/-- The session version of an account, and its setting. -/
def account (db : TwoStepDatabase) (userId : Uuid) : Option (Int × Bool) :=
  (db.users.get? userId).map fun u => (u.authSessionVersion, u.emailTwoStepEnabled)

/-- The session version of an account. -/
def versionOf (db : TwoStepDatabase) (userId : Uuid) : Option Int := (db.account userId).map (·.1)

/-- An account is what its row says. -/
theorem account_of_mem {u : User} (h : u ∈ db.users) :
    db.account u.id = some (u.authSessionVersion, u.emailTwoStepEnabled) := by
  have hGet : db.users.get? u.id = some u := Table.get?_eq_some.mpr ⟨h, rfl⟩
  unfold account
  rw [hGet]
  rfl

/-- The account of a row that was rewritten, and the others. -/
theorem account_update {users : Table User} {challenges : Table EmailTwoStepChallenge}
    {row row' : User} (h : db.users.update? row' = some users) (hRow : row ∈ db.users)
    (hId : row'.id = row.id) (userId : Uuid) :
    account { db with users, challenges } userId =
      if userId = row.id then some (row'.authSessionVersion, row'.emailTwoStepEnabled)
      else db.account userId := by
  split
  · next hUser =>
    have hMem : row' ∈ users := (Table.mem_update?_iff h hRow hId).mpr (.inl rfl)
    rw [hUser, ← hId]
    exact @account_of_mem { db with users, challenges } row' hMem
  · next hUser =>
    cases hOld : db.users.get? userId with
    | none =>
      -- an account that was not there is not there after the update of another one
      have hNone : users.get? userId = none := by
        refine Table.get?_eq_none.mpr fun x hx hKey => ?_
        rcases (Table.mem_update?_iff h hRow hId).mp hx with rfl | ⟨hx, -⟩
        · exact hUser (hKey.symm.trans hId)
        · exact Table.get?_eq_none.mp hOld x hx hKey
      unfold account
      rw [hOld, hNone]
    | some u =>
      obtain ⟨hu, hKey⟩ := Table.get?_eq_some.mp hOld
      have hne : u.id ≠ row.id := fun hSame => hUser (hKey.symm.trans hSame)
      have hNew : users.get? userId = some u :=
        Table.get?_eq_some.mpr ⟨(Table.mem_update?_iff h hRow hId).mpr (.inr ⟨hu, hne⟩), hKey⟩
      unfold account
      rw [hOld, hNew]

/-- The user that a session holds has the version and the setting of its row. -/
def UserCurrent (db : TwoStepDatabase) (session : TwoStepSession) : Prop :=
  ∀ u ∈ session.user, ∀ row ∈ db.users, row.id = u.id →
    row.authSessionVersion = u.authSessionVersion ∧ row.emailTwoStepEnabled = u.emailTwoStepEnabled

instance (db : TwoStepDatabase) (session : TwoStepSession) : Decidable (UserCurrent db session) :=
  inferInstanceAs (Decidable (∀ u ∈ session.user, ∀ row ∈ db.users, row.id = u.id →
    row.authSessionVersion = u.authSessionVersion ∧
      row.emailTwoStepEnabled = u.emailTwoStepEnabled))

/-- The challenge that a session holds is the requested one, as it was issued. -/
def ProbeKnown (db : TwoStepDatabase) (session : TwoStepSession) (challengeId? : Option Uuid) :
    Prop :=
  ∀ c, session.challenge = some c →
    challengeId? = some c.id ∧ ∃ row ∈ db.challenges, row.SameCode c

/-- The account that a user instance shows is the account of its row. -/
theorem locked_user_current (hCurrent : UserCurrent db session) {row user : User}
    (hRow : row ∈ db.users) (h : locked (session.user.filter fun u => u.id == row.id) row = user) :
    user.id = row.id ∧ row.authSessionVersion = user.authSessionVersion ∧
      row.emailTwoStepEnabled = user.emailTwoStepEnabled := by
  rcases locked_filter_cases h with rfl | ⟨hHeld, hId⟩
  · exact ⟨rfl, rfl, rfl⟩
  · have hSame : user.id = row.id := by simpa using hId
    exact ⟨hSame, hCurrent user hHeld row hRow hSame.symm⟩

/-- Under the lock the instance of the session shows the committed version and setting. -/
theorem lockUser_current (hCurrent : UserCurrent db session) {userId : Uuid} {row user : User}
    (h : db.lockUser session userId = .ok (row, user)) :
    row ∈ db.users ∧ row.id = userId ∧ user.id = userId ∧
      row.authSessionVersion = user.authSessionVersion ∧
        row.emailTwoStepEnabled = user.emailTwoStepEnabled := by
  simp only [lockUser, bind_eq_ok, required_eq_ok, ensure_eq_ok] at h
  obtain ⟨row', hRow, -, -, hDone⟩ := h
  simp only [pure, Except.pure, Except.ok.injEq, Prod.mk.injEq] at hDone
  obtain ⟨rfl, hUser⟩ := hDone
  obtain ⟨hMem, rfl⟩ := Table.get?_eq_some.mp hRow
  obtain ⟨hId, hVersion, hSetting⟩ := locked_user_current hCurrent hMem hUser
  exact ⟨hMem, rfl, hId, hVersion, hSetting⟩

/-- The rows and the instances of a locked challenge and its user agree. -/
structure LockedCurrent (db : TwoStepDatabase) (session : TwoStepSession) (challengeId : Uuid)
    (purpose : EmailTwoStepPurpose) (l : LockedChallenge) : Prop where
  probe : session.challenge = some l.challenge
  row : l.row ∈ db.challenges
  rowId : l.row.id = challengeId
  same : l.row.SameCode l.challenge
  purpose : l.row.purpose = purpose
  owner : l.row.userId = l.user.id
  userRow : l.userRow ∈ db.users
  userId : l.userRow.id = l.user.id
  version : l.userRow.authSessionVersion = l.user.authSessionVersion
  setting : l.userRow.emailTwoStepEnabled = l.user.emailTwoStepEnabled

/-- Under both locks the session's instances show what is committed, but for the use of the code. -/
theorem lockChallengeAndUser_current (hCurrent : UserCurrent db session) {challengeId : Uuid}
    (hKnown : ProbeKnown db session (some challengeId)) {purpose : EmailTwoStepPurpose}
    {expectedUserId : Option Uuid} {l : LockedChallenge}
    (h : db.lockChallengeAndUser session challengeId purpose expectedUserId = .ok l) :
    LockedCurrent db session challengeId purpose l := by
  simp only [lockChallengeAndUser, bind_eq_ok, required_eq_ok, ensure_eq_ok] at h
  obtain ⟨probe, hProbe, -, -, ⟨userRow, user⟩, hUser, row, hRow, hDone⟩ := h
  simp only [pure, Except.pure, Except.ok.injEq] at hDone
  subst hDone
  obtain ⟨hUserRow, hUserId, hInstance, hVersion, hSetting⟩ := lockUser_current hCurrent hUser
  have hWhere := Table.prop_of_find? hRow
  simp only [Bool.and_eq_true, beq_iff_eq] at hWhere
  have hMem := Table.mem_of_find? hRow
  have hChallenge : locked session.challenge row = probe := by
    rw [hProbe]
    rfl
  obtain ⟨hId, known, hKnownMem, hSame⟩ := hKnown probe hProbe
  -- the probe showed the row that is locked now, as it was then
  have hRowSame : known = row := by
    refine Table.eq_of_key_eq hKnownMem hMem ?_
    exact hSame.1.symm.trans ((Option.some_injective _ hId).symm.trans hWhere.1.1.symm)
  exact
    { probe := by rw [hChallenge, hProbe]
      row := hMem
      rowId := hWhere.1.1
      same := by
        rw [hChallenge, ← hRowSame]
        exact hSame
      purpose := hWhere.2
      owner := hWhere.1.2
      userRow := hUserRow
      userId := hUserId.trans hInstance.symm
      version := hVersion
      setting := hSetting }

/-- The locked instance shows the account. -/
theorem LockedCurrent.account {challengeId : Uuid} {purpose : EmailTwoStepPurpose}
    {l : LockedChallenge} (h : LockedCurrent db session challengeId purpose l) :
    db.account l.row.userId = some (l.user.authSessionVersion, l.user.emailTwoStepEnabled) := by
  rw [h.owner, ← h.userId, ← h.version, ← h.setting]
  exact account_of_mem h.userRow

-- ---------------------------------------------------------------------------
-- Verification
-- ---------------------------------------------------------------------------

/-- The code is bound to the version of its account and fits its setting. -/
def Fits (db : TwoStepDatabase) (c : EmailTwoStepChallenge) : Prop :=
  ∀ version enabled, db.account c.userId = some (version, enabled) →
    c.sessionVersion = version ∧ c.purpose.allows enabled = true

/-- The attempts of the probed challenge run out on the submitted code. -/
def RunsOut (settings : TwoStepSettings) (session : TwoStepSession) (rawOtp : Str)
    (c : EmailTwoStepChallenge) : Prop :=
  ∃ probe, session.challenge = some probe ∧ c.SameCode probe ∧ probe.usedAt = none ∧
    (settings.otpMaxAttempts ≤ probe.attemptCount ∨
      (settings.verifyOtp rawOtp probe.otpHash = false ∧
        settings.otpMaxAttempts ≤ probe.attemptCount + 1))

/-- What closes a code when another one, or itself, is verified. -/
inductive VerificationCloses (db : TwoStepDatabase) (settings : TwoStepSettings)
    (session : TwoStepSession) (challengeId : Uuid) (rawOtp : Str) (now : Datetime)
    (v : Verification) (c : EmailTwoStepChallenge) : Prop
  | accepted (l : LockedChallenge) (hResult : v.result = .ok l) (hId : c.id = challengeId)
  | version (hVersion : v.db.versionOf c.userId ≠ db.versionOf c.userId)
  | expired (hExpired : c.expiresAt ≤ now)
  | misfit (hFits : ¬db.Fits c)
  | runsOut (hRunsOut : RunsOut settings session rawOtp c)

/-- Accounts stay as they are, or get a new version and lose their open codes. -/
def AccountsKept (db db' : TwoStepDatabase) : Prop :=
  ∀ userId, db'.account userId = db.account userId ∨
    (db'.versionOf userId ≠ db.versionOf userId ∧
      ∀ c ∈ db'.challenges, c.userId = userId → c.usedAt ≠ none)

theorem AccountsKept.refl (db : TwoStepDatabase) : db.AccountsKept db := fun _ => .inl rfl

/-- Everything a verification does to codes and accounts. -/
structure VerificationEffect (db : TwoStepDatabase) (settings : TwoStepSettings)
    (session : TwoStepSession) (challengeId : Uuid) (rawOtp : Str) (now : Datetime)
    (v : Verification) : Prop where
  codes : Effect db.challenges v.db.challenges
    (VerificationCloses db settings session challengeId rawOtp now v) fun _ => False
  accounts : db.AccountsKept v.db

/-- A verification that writes nothing. -/
theorem VerificationEffect.of_same {challengeId : Uuid} {rawOtp : Str} {now : Datetime}
    {v : Verification} (h : v.db = db) :
    VerificationEffect db settings session challengeId rawOtp now v where
  codes := h ▸ .refl _ _ _
  accounts := h ▸ .refl _

/-- A write of the locked challenge closes no other one. -/
theorem saveChallenge_effect {l : LockedChallenge} (hRow : l.row ∈ db.challenges)
    {modified : EmailTwoStepChallenge} (hOpen : modified.usedAt = none → l.challenge.usedAt = none) :
    Effect db.challenges (db.saveChallenge l modified).challenges
      (fun c => c = l.row ∧ modified.usedAt ≠ none) (fun _ => False) ∧
      (db.saveChallenge l modified).users = db.users := by
  unfold saveChallenge
  split
  · next challenges h =>
    refine ⟨(Effect.update h hRow (sameCode_flush _ _ _) ?_).mono ?_ (fun _ _ h => h), rfl⟩
    · intro hNone
      rcases column_cases l.challenge.usedAt modified.usedAt l.row.usedAt with hColumn | ⟨-, hColumn⟩
      · have hModified : modified.usedAt = none := hColumn.symm.trans hNone
        have hSame : column l.challenge.usedAt modified.usedAt l.row.usedAt = l.row.usedAt := by
          rw [hModified, hOpen hModified, column_same]
        exact hSame.symm.trans hNone
      · exact hColumn.symm.trans hNone
    · rintro c - hUnused ⟨rfl, hUsed⟩
      refine ⟨rfl, fun hModified => hUsed ?_⟩
      show column l.challenge.usedAt modified.usedAt l.row.usedAt = none
      rw [hModified, hOpen hModified, column_same, hUnused]
  · exact ⟨.refl _ _ _, rfl⟩

theorem account_of_users {db' : TwoStepDatabase} (h : db'.users = db.users) (userId : Uuid) :
    db'.account userId = db.account userId := by
  unfold account
  rw [h]

/-- A verification that only writes its challenge. -/
theorem VerificationEffect.of_save {challengeId : Uuid} {rawOtp : Str} {now : Datetime}
    {v : Verification} {l : LockedChallenge} {modified : EmailTwoStepChallenge}
    (hRow : l.row ∈ db.challenges) (hDb : v.db = db.saveChallenge l modified)
    (hOpen : modified.usedAt = none → l.challenge.usedAt = none)
    (hCloses : modified.usedAt ≠ none →
      VerificationCloses db settings session challengeId rawOtp now v l.row) :
    VerificationEffect db settings session challengeId rawOtp now v := by
  obtain ⟨hCodes, hUsers⟩ := saveChallenge_effect hRow hOpen
  rw [← hDb] at hCodes hUsers
  exact ⟨hCodes.mono (fun c _ _ ⟨hSame, hUsed⟩ => hSame ▸ hCloses hUsed) (fun _ _ h => h),
    fun userId => .inl (account_of_users hUsers userId)⟩

/-- What an accepted code writes: the user's row and its own challenge, and then the others of the
user. -/
theorem saveAccepted_eq_some {l : LockedChallenge} {user : User} {invalidate : Bool} {now : Datetime}
    {db' : TwoStepDatabase} (h : db.saveAccepted l user invalidate now = some db') :
    ∃ users challenges, db.users.update? (user.flush l.user l.userRow) = some users ∧
      db.challenges.update? ((l.challenge.markUsed now).flush l.challenge l.row) = some challenges ∧
      db' = { db with
        users
        challenges :=
          if invalidate then expireChallenges challenges (fun c => c.userId == user.id) now
          else challenges } := by
  unfold saveAccepted at h
  obtain ⟨users, hUsers, hRest⟩ := Option.bind_eq_some_iff.mp h
  obtain ⟨challenges, hChallenges, hDone⟩ := Option.bind_eq_some_iff.mp hRest
  exact ⟨users, challenges, hUsers, hChallenges, (Option.some_injective _ hDone).symm⟩

/-- What the callers of `_validate_otp` write of the account: nothing that counts here, or a new
version. -/
def Writes (l : LockedChallenge) (user : User) (invalidate : Bool) : Prop :=
  user.id = l.user.id ∧
    ((invalidate = false ∧ user.authSessionVersion = l.user.authSessionVersion ∧
        user.emailTwoStepEnabled = l.user.emailTwoStepEnabled) ∨
      (invalidate = true ∧ user.authSessionVersion = l.user.authSessionVersion + 1))

/-- What an accepted code leaves. -/
theorem saveAccepted_effect {challengeId : Uuid} {purpose : EmailTwoStepPurpose}
    {l : LockedChallenge} (hL : LockedCurrent db session challengeId purpose l) {user : User}
    {invalidate : Bool} (hWrites : Writes l user invalidate) {rawOtp : Str} {now : Datetime}
    {db' : TwoStepDatabase} (h : db.saveAccepted l user invalidate now = some db')
    {v : Verification} (hDb : v.db = db') (hResult : v.result = .ok l) :
    VerificationEffect db settings session challengeId rawOtp now v := by
  obtain ⟨users, challenges, hUsers, hChallenges, rfl⟩ := saveAccepted_eq_some h
  obtain ⟨hUserId, hKind⟩ := hWrites
  have hId : (user.flush l.user l.userRow).id = l.userRow.id := rfl
  have hAccount := @account_update db users
    (if invalidate then expireChallenges challenges (fun c => c.userId == user.id) now
      else challenges) _ _ hUsers hL.userRow hId
  have hOld : db.account l.userRow.id =
      some (l.userRow.authSessionVersion, l.userRow.emailTwoStepEnabled) := account_of_mem hL.userRow
  have hWritten : Effect db.challenges challenges
      (VerificationCloses db settings session challengeId rawOtp now v) fun _ => False := by
    refine (Effect.update hChallenges hL.row (sameCode_flush _ _ _) ?_).mono ?_ (fun _ _ h => h)
    · intro hNone
      rcases column_cases l.challenge.usedAt (some now) l.row.usedAt with hColumn | ⟨-, hColumn⟩
      · cases hColumn.symm.trans hNone
      · exact hColumn.symm.trans hNone
    · rintro c - - ⟨rfl, -⟩
      exact .accepted l hResult hL.rowId
  rcases hKind with ⟨rfl, hVersion, hSetting⟩ | ⟨rfl, hVersion⟩
  · -- the account keeps its version and its setting
    have hSameVersion : (user.flush l.user l.userRow).authSessionVersion =
        l.userRow.authSessionVersion := by
      show column l.user.authSessionVersion user.authSessionVersion _ = _
      rw [hVersion, column_same]
    have hSameSetting : (user.flush l.user l.userRow).emailTwoStepEnabled =
        l.userRow.emailTwoStepEnabled := by
      show column l.user.emailTwoStepEnabled user.emailTwoStepEnabled _ = _
      rw [hSetting, column_same]
    refine ⟨by rw [hDb]; exact hWritten, fun userId => .inl ?_⟩
    rw [hDb, hAccount userId]
    split
    · next hUser => rw [hUser, hOld, hSameVersion, hSameSetting]
    · rfl
  · -- the account gets a new version
    have hNewVersion : (user.flush l.user l.userRow).authSessionVersion =
        l.userRow.authSessionVersion + 1 := by
      show column l.user.authSessionVersion user.authSessionVersion _ = _
      rw [hVersion, hL.version]
      exact column_of_ne (by omega)
    have hChanged : v.db.versionOf l.userRow.id ≠ db.versionOf l.userRow.id := by
      unfold versionOf
      rw [hDb, hAccount, if_pos rfl, hOld, hNewVersion]
      intro hSame
      have hEq : l.userRow.authSessionVersion + 1 = l.userRow.authSessionVersion :=
        Option.some_injective _ hSame
      omega
    refine ⟨?_, fun userId => ?_⟩
    · rw [hDb]
      refine hWritten.trans ((Effect.expire challenges (fun c => c.userId == user.id) now)) ?_
      intro c _ c' _ hSame hPicked
      refine .version ?_
      have hOwner : c.userId = l.userRow.id := by
        rw [hL.userId, ← hUserId, ← hSame.2.1]
        exact beq_iff_eq.mp hPicked
      rw [hOwner]
      exact hChanged
    · by_cases hUser : userId = l.userRow.id
      · refine .inr ⟨hUser ▸ hChanged, fun c hc hOwner => ?_⟩
        rw [hDb] at hc
        refine Effect.usedAt_of_expire hc fun x _ hSame => beq_iff_eq.mpr ?_
        rw [← hSame.2.1, hOwner, hUser, hL.userId, hUserId]
      · refine .inl ?_
        rw [hDb, hAccount, if_neg hUser]

/-- `_validate_otp` with what follows it. -/
theorem accept_effect {challengeId : Uuid} {purpose : EmailTwoStepPurpose} {l : LockedChallenge}
    (hL : LockedCurrent db session challengeId purpose l) {user : User} {invalidate : Bool}
    (hWrites : Writes l user invalidate) (rawOtp : Str) (now : Datetime) :
    VerificationEffect db settings session challengeId rawOtp now
      (db.accept settings l rawOtp user invalidate now) := by
  unfold accept validateOtp
  by_cases hState : l.challenge.usedAt.isSome ∨ l.challenge.expiresAt ≤ now ∨
      l.challenge.sessionVersion ≠ l.user.authSessionVersion
  · simp only [if_pos hState]
    by_cases hUnused : l.challenge.usedAt.isNone = true
    · refine .of_save hL.row (if_pos hUnused) (fun h => by cases h) fun _ => ?_
      -- it was used, has expired, or is of another session version
      rcases hState with hUsed | hExpired | hVersion
      · rw [Option.isNone_iff_eq_none] at hUnused
        rw [hUnused] at hUsed
        cases hUsed
      · exact .expired (hL.same.2.2.2.2.1 ▸ hExpired)
      · refine .misfit fun hFits => hVersion ?_
        rw [hL.same.2.2.2.2.2]
        exact (hFits _ _ hL.account).1
    · exact .of_same (if_neg hUnused)
  simp only [if_neg hState]
  have hUnused : l.challenge.usedAt = none := by
    simpa using fun h => hState (.inl h)
  by_cases hMax : settings.otpMaxAttempts ≤ l.challenge.attemptCount
  · simp only [if_pos hMax]
    exact .of_save hL.row rfl (fun h => by cases h) fun _ =>
      -- all attempts are used up
      .runsOut ⟨l.challenge, hL.probe, hL.same, hUnused, .inl hMax⟩
  simp only [if_neg hMax]
  cases hOtp : settings.verifyOtp rawOtp l.challenge.otpHash with
  | true =>
    simp only [if_true]
    cases hSaved : db.saveAccepted l user invalidate now with
    | none => exact .of_same rfl
    | some db' => exact saveAccepted_effect hL hWrites hSaved rfl rfl
  | false =>
    simp only [Bool.false_eq_true, if_false]
    refine .of_save hL.row rfl (fun _ => hUnused) fun hUsed => ?_
    refine .runsOut ⟨l.challenge, hL.probe, hL.same, hUnused, .inr ⟨hOtp, ?_⟩⟩
    by_contra hLeft
    rw [if_neg hLeft] at hUsed
    exact hUsed hUnused

/-- The code that a request submits. -/
def submittedOtp : VerificationRequest → Str
  | .confirmEnable _ _ rawOtp | .confirmDisable _ _ rawOtp | .consumeLogin _ rawOtp => rawOtp

variable (settings) in
/-- **Verification.** The codes it closes and the accounts it changes. -/
theorem verify_effect {request : VerificationRequest} (hCurrent : UserCurrent db session)
    (hKnown : ProbeKnown db session (some request.challengeId)) (now : Datetime) :
    VerificationEffect db settings session request.challengeId (submittedOtp request) now
      (db.verify settings session request now) := by
  have hSetting : ∀ purpose enabled userId challengeId rawOtp,
      ProbeKnown db session (some challengeId) →
        VerificationEffect db settings session challengeId rawOtp now
          (db.confirmSetting settings session purpose enabled userId challengeId rawOtp now) := by
    intro purpose enabled userId challengeId rawOtp hKnown
    unfold confirmSetting
    split
    · exact .of_same rfl
    · next l h =>
      split
      · exact .of_same rfl
      · refine accept_effect (lockChallengeAndUser_current hCurrent hKnown h) ?_ rawOtp now
        exact ⟨rfl, .inr ⟨rfl, rfl⟩⟩
  cases request with
  | confirmEnable token challengeId rawOtp => exact hSetting _ _ _ _ _ hKnown
  | confirmDisable token challengeId rawOtp => exact hSetting _ _ _ _ _ hKnown
  | consumeLogin challengeId rawOtp =>
    simp only [verify, consumeLogin]
    split
    · exact .of_same rfl
    · next l h =>
      have hL := lockChallengeAndUser_current hCurrent hKnown h
      split
      · next hDisabled =>
        -- a sign-in code of an account without the second step is out of place
        refine .of_save hL.row rfl (fun h => by cases h) fun _ => .misfit fun hFits => ?_
        have hAllows := (hFits _ _ hL.account).2
        rw [hL.purpose, hDisabled] at hAllows
        cases hAllows
      · refine accept_effect hL ?_ rawOtp now
        exact ⟨rfl, .inl ⟨rfl, rfl, rfl⟩⟩

-- ---------------------------------------------------------------------------
-- Issuance
-- ---------------------------------------------------------------------------

/-- An account has one open code for each purpose. -/
def OneOpen (t : Table EmailTwoStepChallenge) : Prop :=
  ∀ c ∈ t, ∀ c' ∈ t, c.usedAt = none → c'.usedAt = none → c.SameUse c' → c = c'

/-- The code may be replaced: it is expired, bound to another version or older than the
cooldown. -/
def Due (settings : TwoStepSettings) (now : Datetime) (version : Int) (c : EmailTwoStepChallenge) :
    Prop :=
  c.expiresAt ≤ now ∨ c.sessionVersion ≠ version ∨
    c.createdAt + seconds settings.otpResendCooldownSeconds ≤ now

/-- A code that was issued at `now`, with what was drawn for it. -/
structure NewCode (db db' : TwoStepDatabase) (settings : TwoStepSettings) (now : Datetime)
    (draws : IssueDraws) (d : EmailTwoStepChallenge) : Prop where
  mem : d ∈ db'.challenges
  unused : d.usedAt = none
  createdAt : d.createdAt = draws.createdAt
  expiresAt : d.expiresAt = now + minutes settings.emailTwoStepExpireMinutes
  account : ∃ enabled, db.account d.userId = some (d.sessionVersion, enabled) ∧
    d.purpose.allows enabled = true
  due : ∀ c ∈ db.challenges, c.usedAt = none → d.SameUse c → Due settings now d.sessionVersion c
  only : ∀ c ∈ db'.challenges, c.usedAt = none → d.SameUse c → c = d

/-- What closes a code when another one is issued or asked for again. -/
inductive IssueCloses (db db' : TwoStepDatabase) (settings : TwoStepSettings) (now : Datetime)
    (draws : IssueDraws) (c : EmailTwoStepChallenge) : Prop
  | replaced (d : EmailTwoStepChallenge) (hNew : NewCode db db' settings now draws d)
      (hUse : d.SameUse c) (hFresh : ∀ x ∈ db.challenges, x.id ≠ d.id)
  | expired (hExpired : c.expiresAt ≤ now)
  | misfit (hFits : ¬db.Fits c)

/-- Everything an issuance does to codes and accounts. -/
structure IssueEffect (db db' : TwoStepDatabase) (settings : TwoStepSettings) (now : Datetime)
    (draws : IssueDraws) : Prop where
  codes : Effect db.challenges db'.challenges (IssueCloses db db' settings now draws)
    (NewCode db db' settings now draws)
  accounts : ∀ userId, db'.account userId = db.account userId

theorem IssueEffect.refl (db : TwoStepDatabase) (now : Datetime) (draws : IssueDraws) :
    IssueEffect db db settings now draws where
  codes := .refl _ _ _
  accounts _ := rfl

/-- A search whose hits are all the same finds that one. -/
theorem foldl_all_eq {α : Type} {f : Option α → α → Option α} {c : α} {l : List α}
    (hAll : ∀ x ∈ l, x = c) (hSome : c ∈ l) (hNone : f none c = some c)
    (hStep : f (some c) c = some c) : l.foldl f none = some c := by
  have hRest : ∀ rest : List α, (∀ x ∈ rest, x = c) → rest.foldl f (some c) = some c := by
    intro rest hAll
    induction rest with
    | nil => rfl
    | cons x rest ih =>
      rw [List.foldl_cons, hAll x List.mem_cons_self, hStep]
      exact ih fun y hy => hAll y (List.mem_cons_of_mem x hy)
  cases l with
  | nil => exact absurd hSome List.not_mem_nil
  | cons x rest =>
    rw [List.foldl_cons, hAll x List.mem_cons_self, hNone]
    exact hRest rest fun y hy => hAll y (List.mem_cons_of_mem x hy)

/-- Of rows that are all one, the newest is that one. -/
theorem latestActiveChallenge_eq {userId : Uuid} {purpose : EmailTwoStepPurpose}
    {c : EmailTwoStepChallenge} (hOne : OneOpen db.challenges) (hc : c ∈ db.challenges)
    (hUnused : c.usedAt = none) (hUser : c.userId = userId) (hPurpose : c.purpose = purpose) :
    db.latestActiveChallenge session userId purpose =
      some (locked (session.challenge.filter fun x => x.id == c.id) c) := by
  -- at most one challenge of a user and a purpose is open
  have hAll : ∀ x ∈ db.challenges.rows.filter (fun x => x.userId == userId &&
      x.purpose == purpose && x.usedAt.isNone), x = c := by
    intro x hx
    obtain ⟨hMem, hWhere⟩ := List.mem_filter.mp hx
    simp only [Bool.and_eq_true, beq_iff_eq, Option.isNone_iff_eq_none] at hWhere
    exact hOne x hMem c hc hWhere.2 hUnused ⟨hUser.trans hWhere.1.1.symm,
      hPurpose.trans hWhere.1.2.symm⟩
  have hSome : c ∈ db.challenges.rows.filter (fun x => x.userId == userId &&
      x.purpose == purpose && x.usedAt.isNone) := by
    refine List.mem_filter.mpr ⟨hc, ?_⟩
    rw [hUser, hPurpose, hUnused, beq_self_eq_true, beq_self_eq_true]
    rfl
  unfold latestActiveChallenge
  dsimp only
  generalize db.challenges.rows.filter (fun x => x.userId == userId &&
      x.purpose == purpose && x.usedAt.isNone) = found at hAll hSome
  rw [foldl_all_eq hAll hSome rfl (ite_self _)]
  rfl

/-- The instance of a code that a session reads shows the code as it was issued. -/
theorem locked_sameCode {challengeId? : Option Uuid} (hKnown : ProbeKnown db session challengeId?)
    {c : EmailTwoStepChallenge} (hc : c ∈ db.challenges) :
    c.SameCode (locked (session.challenge.filter fun x => x.id == c.id) c) := by
  rcases locked_filter_cases (x := locked (session.challenge.filter fun x => x.id == c.id) c) rfl with
    hSame | ⟨hHeld, hId⟩
  · rw [hSame]
    exact .refl c
  · obtain ⟨-, row, hRow, hCode⟩ := hKnown _ hHeld
    have hRowId : row.id = c.id := hCode.1.symm.trans (beq_iff_eq.mp hId)
    rw [Table.eq_of_key_eq hRow hc hRowId] at hCode
    exact hCode

/-- `_issue_locked`, for an account that its purpose fits; without reuse what it replaces has to
be due. -/
theorem issueLocked_effect {user : User} {purpose : EmailTwoStepPurpose}
    {rememberMe reuseDuringCooldown : Bool} {now : Datetime} {draws : IssueDraws}
    {db' : TwoStepDatabase} {challenge : EmailTwoStepChallenge} {challengeId? : Option Uuid}
    (hOne : OneOpen db.challenges) (hKnown : ProbeKnown db session challengeId?)
    (hAccount : db.account user.id = some (user.authSessionVersion, user.emailTwoStepEnabled))
    (hAllows : purpose.allows user.emailTwoStepEnabled = true)
    (hDue : reuseDuringCooldown = false → ∀ c ∈ db.challenges, c.usedAt = none →
      c.userId = user.id → c.purpose = purpose → Due settings now user.authSessionVersion c)
    (h : db.issueLocked settings session user purpose rememberMe reuseDuringCooldown now draws =
      .ok (db', challenge)) : IssueEffect db db' settings now draws := by
  unfold issueLocked at h
  dsimp only at h
  split at h
  · obtain ⟨rfl, -⟩ := Prod.mk.inj (Except.ok.inj h)
    exact .refl db now draws
  next hReplace =>
  simp only [bind_eq_ok, required_eq_ok] at h
  obtain ⟨challenges, hInsert, hDone⟩ := h
  simp only [pure, Except.pure, Except.ok.injEq, Prod.mk.injEq] at hDone
  obtain ⟨rfl, hChallenge⟩ := hDone
  rw [hChallenge] at hInsert
  have hUser : challenge.userId = user.id := by rw [← hChallenge]
  have hPurpose : challenge.purpose = purpose := by rw [← hChallenge]
  have hVersion : challenge.sessionVersion = user.authSessionVersion := by rw [← hChallenge]
  have hExpire := Effect.expire db.challenges
    (fun c => c.userId == user.id && c.purpose == purpose) now
  have hNew : NewCode db { db with challenges } settings now draws challenge := by
    refine
      { mem := (Table.mem_insert? hInsert).mpr (.inl rfl)
        unused := by rw [← hChallenge]
        createdAt := by rw [← hChallenge]
        expiresAt := by rw [← hChallenge]
        account := ⟨user.emailTwoStepEnabled, by rw [hUser, hVersion]; exact hAccount,
          by rw [hPurpose]; exact hAllows⟩
        due := fun c hc hUnused hUse => ?_
        only := fun c hc hUnused hUse => ?_ }
    · have hOwner : c.userId = user.id := hUse.1.trans hUser
      have hFor : c.purpose = purpose := hUse.2.trans hPurpose
      rw [hVersion]
      cases hReuse : reuseDuringCooldown with
      | false => exact hDue hReuse c hc hUnused hOwner hFor
      | true =>
        -- the open code was found and not reused
        obtain ⟨-, -, hCreated, -, hExpires, hBound⟩ := locked_sameCode hKnown hc
        rw [latestActiveChallenge_eq hOne hc hUnused hOwner hFor, hReuse,
          Option.filter_eq_none_iff] at hReplace
        have hRefused := hReplace _ rfl
        simp only [Bool.true_and, Bool.and_eq_true, decide_eq_true_iff, beq_iff_eq, not_and,
          hCreated, hExpires, hBound] at hRefused
        unfold Due
        by_cases hExpired : now < c.expiresAt
        · by_cases hSame : c.sessionVersion = user.authSessionVersion
          · have hAge : seconds settings.otpResendCooldownSeconds ≤ now - c.createdAt :=
              Int.not_lt.mp (hRefused ⟨hExpired, hSame⟩)
            exact .inr (.inr (Int.add_le_of_le_sub_left hAge))
          · exact .inr (.inl hSame)
        · exact .inl (Int.not_lt.mp hExpired)
    · rcases (Table.mem_insert? hInsert).mp hc with hSame | hOld
      · exact hSame
      · refine absurd hUnused (Effect.usedAt_of_expire hOld fun x _ hCode => ?_)
        rw [Bool.and_eq_true, beq_iff_eq, beq_iff_eq]
        exact ⟨hCode.2.1.symm.trans (hUse.1.trans hUser),
          hCode.2.2.2.1.symm.trans (hUse.2.trans hPurpose)⟩
  have hFresh : ∀ x ∈ db.challenges, x.id ≠ challenge.id := by
    intro x hx
    obtain ⟨x', hx', hCode, -⟩ := hExpire.kept x hx
    rw [← hCode.1]
    exact (Table.apart_of_insert? hInsert hx').1
  have hCodes := hExpire.trans (Effect.insert hInsert) (fun _ _ _ _ _ hNone => hNone.elim)
  refine ⟨hCodes.mono (fun c _ _ hPicked => ?_) (fun d _ hSame => hSame ▸ hNew), fun _ => rfl⟩
  rw [Bool.and_eq_true, beq_iff_eq, beq_iff_eq] at hPicked
  exact .replaced challenge hNew ⟨hPicked.1.trans hUser.symm, hPicked.2.trans hPurpose.symm⟩ hFresh

/-- An open challenge that the session holds is open in the database. -/
def ProbeOpen (db : TwoStepDatabase) (session : TwoStepSession) : Prop :=
  ∀ c ∈ session.challenge, c.usedAt = none →
    ∀ row ∈ db.challenges, row.id = c.id → row.usedAt = none

instance (db : TwoStepDatabase) (session : TwoStepSession) : Decidable (ProbeOpen db session) :=
  inferInstanceAs (Decidable (∀ c ∈ session.challenge, c.usedAt = none →
    ∀ row ∈ db.challenges, row.id = c.id → row.usedAt = none))

/-- `resend`, on a current session. -/
theorem resend_effect (hOne : OneOpen db.challenges) (hCurrent : UserCurrent db session)
    {challengeId : Uuid} (hKnown : ProbeKnown db session (some challengeId))
    (hOpen : ProbeOpen db session) (allowedPurposes : List EmailTwoStepPurpose)
    (expectedUserId : Option Uuid) (now : Datetime) (draws : IssueDraws) :
    IssueEffect db (db.resend settings session challengeId allowedPurposes expectedUserId now
      draws).1 settings now draws := by
  unfold resend
  split
  · exact .refl db now draws
  next probe hProbe =>
  split
  · exact .refl db now draws
  split
  · exact .refl db now draws
  next l h =>
  have hL := lockChallengeAndUser_current hCurrent hKnown h
  obtain ⟨-, -, hCreated, -, hExpires, hBound⟩ := hL.same
  split
  · next hState =>
    dsimp only
    split
    · next hUnused =>
      obtain ⟨hCodes, hUsers⟩ := saveChallenge_effect hL.row
        (fun h : (l.challenge.markUsed now).usedAt = none => by cases h)
      refine ⟨hCodes.mono (fun c _ _ ⟨hSame, _⟩ => ?_) (fun _ _ hNone => hNone.elim),
        account_of_users hUsers⟩
      rw [hSame]
      rcases hState with hUsed | hExpired | hVersion | hSetting
      · rw [Option.isNone_iff_eq_none] at hUnused
        rw [hUnused] at hUsed
        cases hUsed
      · exact .expired (hExpires ▸ hExpired)
      · refine .misfit fun hFits => hVersion ?_
        rw [hBound]
        exact (hFits _ _ hL.account).1
      · refine .misfit fun hFits => ?_
        have hAllows := (hFits _ _ hL.account).2
        rw [hL.purpose] at hAllows
        rw [settingAllows_eq, hAllows] at hSetting
        cases hSetting
    · exact .refl db now draws
  next hState =>
  split
  · exact .refl db now draws
  next hYoung =>
  split
  · next db' challenge hIssue =>
    obtain ⟨hUsed, hExpired, hVersion, hSetting⟩ :
        ¬l.challenge.usedAt.isSome = true ∧ ¬l.challenge.expiresAt ≤ now ∧
          ¬l.challenge.sessionVersion ≠ l.user.authSessionVersion ∧
            ¬settingAllows probe.purpose l.user = false := by
      simpa only [not_or] using hState
    have hUnused : l.challenge.usedAt = none := by
      simpa using hUsed
    have hRowUnused : l.row.usedAt = none := hOpen _ hL.probe hUnused l.row hL.row hL.same.1.symm
    have hAllows : probe.purpose.allows l.user.emailTwoStepEnabled = true := by
      rw [← settingAllows_eq]
      simpa using hSetting
    have hAccount : db.account l.user.id =
        some (l.user.authSessionVersion, l.user.emailTwoStepEnabled) := hL.owner ▸ hL.account
    refine issueLocked_effect hOne hKnown hAccount hAllows (fun _ c hc hcUnused hOwner hFor => ?_)
      hIssue
    -- the open code for this use is the one that was asked for again
    have hSame : l.row = c := hOne l.row hL.row c hc hRowUnused hcUnused
      ⟨hOwner.trans hL.owner.symm, hFor.trans hL.purpose.symm⟩
    refine .inr (.inr ?_)
    rw [← hSame, ← hCreated]
    exact Int.add_le_of_le_sub_left (Int.not_lt.mp hYoung)
  · exact .refl db now draws

/-- A request that raises leaves nothing. -/
theorem commit_effect {α : Type} {now : Datetime} {draws : IssueDraws}
    {r : Except EmailTwoStepError (TwoStepDatabase × α)}
    (h : ∀ db' a, r = .ok (db', a) → IssueEffect db db' settings now draws) :
    IssueEffect db (commit db r) settings now draws := by
  cases r with
  | error e => exact .refl db now draws
  | ok outcome => exact h outcome.1 outcome.2 rfl

/-- A sign-in without a second step leaves the codes and the accounts. -/
theorem signIn_effect {row user : User} {users : Table User} {now : Datetime} {draws : IssueDraws}
    (hRow : row ∈ db.users)
    (h : db.users.update? (User.flush { user with lastLoginAt := some now } user row) = some users) :
    IssueEffect db { db with users } settings now draws := by
  refine ⟨.refl _ _ _, fun userId => ?_⟩
  have hId : (User.flush { user with lastLoginAt := some now } user row).id = row.id := rfl
  have hAccount := @account_update db users db.challenges _ _ h hRow hId userId
  refine hAccount.trans ?_
  split
  · next hUser =>
    rw [hUser, account_of_mem hRow]
    show some (column user.authSessionVersion user.authSessionVersion row.authSessionVersion,
      column user.emailTwoStepEnabled user.emailTwoStepEnabled row.emailTwoStepEnabled) = _
    rw [column_same, column_same]
  · rfl

variable (settings) in
/-- **Issuance.** The codes it closes and the one it issues. -/
theorem issue_effect {request : IssueRequest} (hOne : OneOpen db.challenges)
    (hCurrent : UserCurrent db session) (hKnown : ProbeKnown db session request.challengeId?)
    (hOpen : ProbeOpen db session) (now : Datetime) (draws : IssueDraws) :
    IssueEffect db (db.issue settings session request now draws) settings now draws := by
  cases request with
  | login email password rememberMe =>
    refine commit_effect fun db' answer h => ?_
    simp only [login, bind_eq_ok, required_eq_ok, ensure_eq_ok] at h
    obtain ⟨row, hFound, -, -, -, -, -, -, h⟩ := h
    have hRow := Table.mem_of_find? hFound
    obtain ⟨hId, hVersion, hSetting⟩ := locked_user_current hCurrent hRow rfl
    split at h
    · next hEnabled =>
      simp only [bind_eq_ok] at h
      obtain ⟨⟨db'', challenge⟩, hIssue, hDone⟩ := h
      simp only [pure, Except.pure, Except.ok.injEq, Prod.mk.injEq] at hDone
      obtain ⟨rfl, -⟩ := hDone
      refine issueLocked_effect hOne hKnown ?_ ?_ (fun hReuse => by cases hReuse) hIssue
      · rw [hId, ← hVersion, ← hSetting]
        exact account_of_mem hRow
      · exact hEnabled
    · simp only [bind_eq_ok, required_eq_ok] at h
      obtain ⟨users, hUsers, hDone⟩ := h
      simp only [pure, Except.pure, Except.ok.injEq, Prod.mk.injEq] at hDone
      obtain ⟨rfl, -⟩ := hDone
      -- without the second step the sign-in is complete
      exact signIn_effect hRow hUsers
  | requestEnable token email currentPassword =>
    refine commit_effect fun db' answer h => ?_
    simp only [requestEnable, bind_eq_ok, ensure_eq_ok] at h
    obtain ⟨⟨row, user⟩, hUser, -, -, -, -, -, hDisabled, hIssue⟩ := h
    obtain ⟨hRow, hRowId, hId, hVersion, hSetting⟩ := lockUser_current hCurrent hUser
    refine issueLocked_effect hOne hKnown ?_ ?_ (fun hReuse => by cases hReuse) hIssue
    · rw [hId, ← hRowId, ← hVersion, ← hSetting]
      exact account_of_mem hRow
    · rw [hDisabled]
      rfl
  | requestDisable token currentPassword =>
    refine commit_effect fun db' answer h => ?_
    simp only [requestDisable, bind_eq_ok, ensure_eq_ok] at h
    obtain ⟨⟨row, user⟩, hUser, -, -, -, hEnabled, hIssue⟩ := h
    obtain ⟨hRow, hRowId, hId, hVersion, hSetting⟩ := lockUser_current hCurrent hUser
    refine issueLocked_effect hOne hKnown ?_ ?_ (fun hReuse => by cases hReuse) hIssue
    · rw [hId, ← hRowId, ← hVersion, ← hSetting]
      exact account_of_mem hRow
    · exact hEnabled
  | resendLogin challengeId => exact resend_effect hOne hCurrent hKnown hOpen _ _ now draws
  | resendSetting token challengeId => exact resend_effect hOne hCurrent hKnown hOpen _ _ now draws

end TwoStepDatabase

end SpikeBackend
