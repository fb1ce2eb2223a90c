import SpikeBackend.TwoStep.Effects
import SpikeBackend.TwoStep.SingleUse

/-!
# The cooldown between codes

A code may be asked for again when the cooldown of the last one is over. The service looks for the
last code among the open ones, so a code that was closed early does not count.

* `CooldownInvariant` — what open codes are like on a run that closes none early;
* `Standing` — a code that was issued is open, accepted or older than the cooldown, until its
  account gets a new version;
* `cooldown_kept` — two codes in a row;
* `guesses_skip_cooldown` — five wrong guesses, and the next code.
-/

namespace SpikeBackend

open Relational Text Outcome Machine Session EmailTwoStepChallenge

namespace TwoStepState

open TwoStepDatabase

-- ---------------------------------------------------------------------------
-- Two codes in a row
-- ---------------------------------------------------------------------------

/-- A step from `s` to `s'` issues the code. -/
def Issues (s s' : TwoStepState) (c : EmailTwoStepChallenge) : Prop :=
  c ∈ s'.db.challenges ∧ ∀ x ∈ s.db.challenges, x.id ≠ c.id

/-- The second code comes after the cooldown of the first, unless that was accepted or the account
had another version in between. -/
def CoolsDown (settings : TwoStepSettings) (s : TwoStepState) (between : List TimedTwoStepAction)
    (c d : EmailTwoStepChallenge) : Prop :=
  c.createdAt + seconds settings.otpResendCooldownSeconds ≤ d.createdAt ∨
    c.id ∈ (run (step settings) s between).accepted ∨
    ∃ n ≤ between.length,
      (run (step settings) s (between.take n)).db.versionOf c.userId ≠ s.db.versionOf c.userId

instance (s s' : TwoStepState) (c : EmailTwoStepChallenge) : Decidable (Issues s s' c) :=
  inferInstanceAs (Decidable (c ∈ s'.db.challenges.rows ∧ ∀ x ∈ s.db.challenges.rows, x.id ≠ c.id))

instance (settings : TwoStepSettings) (s : TwoStepState) (between : List TimedTwoStepAction)
    (c d : EmailTwoStepChallenge) : Decidable (CoolsDown settings s between c d) :=
  inferInstanceAs (Decidable (_ ∨ _ ∨ ∃ n ≤ between.length, _ ≠ _))

/-- **The cooldown is kept** on a run: any two codes for one use, with none for it in between. -/
def CooldownKept (settings : TwoStepSettings) (start : TwoStepState)
    (as : List TimedTwoStepAction) : Prop :=
  ∀ before first between second after, as = before ++ first :: (between ++ second :: after) →
    let s₀ := run (step settings) start before
    let s₁ := step settings s₀ first
    let s₂ := run (step settings) s₁ between
    ∀ c d, Issues s₀ s₁ c → Issues s₂ (step settings s₂ second) d → c.SameUse d →
      (∀ e ∈ s₂.db.challenges, c.SameUse e → ∃ x ∈ s₁.db.challenges, x.id = e.id) →
        CoolsDown settings s₁ between c d

-- ---------------------------------------------------------------------------
-- The condition
-- ---------------------------------------------------------------------------

/-- The attempts of an open code do not run out inside its cooldown. -/
def attemptsLast (settings : TwoStepSettings) (session : TwoStepSession)
    (request : VerificationRequest) (now : Datetime) : Bool :=
  session.challenge.all fun c =>
    c.usedAt.isSome || decide (c.createdAt + seconds settings.otpResendCooldownSeconds ≤ now) ||
      (decide (c.attemptCount < settings.otpMaxAttempts) &&
        (settings.verifyOtp (submittedOtp request) c.otpHash ||
          decide (c.attemptCount + 1 < settings.otpMaxAttempts)))

/-- A request whose transaction closes no code early: its session shows the account and an open
challenge as they are when it has its locks, no attempts run out inside a cooldown, and a new code
does not expire inside its own. -/
def closesNoneEarly (settings : TwoStepSettings) (db : TwoStepDatabase) (client : TwoStepClient)
    (now : Datetime) (draws : IssueDraws) : Bool :=
  decide (UserCurrent db client.session) &&
    match client.request with
    | .verification request => attemptsLast settings client.session request now
    | .issue _ =>
      decide (ProbeOpen db client.session) && decide (now ≤ draws.createdAt) &&
        decide (draws.createdAt + seconds settings.otpResendCooldownSeconds ≤
          now + minutes settings.emailTwoStepExpireMinutes)

/-- Each step closes no code early; the other services change a setting only with the version of
the account, and close only codes that are bound to another version. -/
def keepsCodes (settings : TwoStepSettings) (s : TwoStepState) (timed : TimedTwoStepAction) : Bool :=
  match timed.action with
  | .arrive _ | .probe _ => true
  | .transact i draws =>
    (s.clients[i]?).all fun client =>
      client.phase != .transact || closesNoneEarly settings s.db client timed.now draws
  | .changeUsers users =>
    decide (∀ c ∈ s.db.challenges, c.usedAt = none → ∀ u ∈ users, u.id = c.userId →
      u.authSessionVersion = c.sessionVersion → settingAllows c.purpose u = true)
  | .closeChallenges p =>
    decide (∀ c ∈ s.db.challenges, p c = true → c.usedAt = none → ∀ u ∈ s.db.users,
      u.id = c.userId → u.authSessionVersion ≠ c.sessionVersion)

-- ---------------------------------------------------------------------------
-- The invariant
-- ---------------------------------------------------------------------------

variable {settings : TwoStepSettings} {s s' : TwoStepState}

/-- **The invariant of a run** that closes no code early. -/
structure CooldownInvariant (settings : TwoStepSettings) (s : TwoStepState) : Prop where
  oneOpen : OneOpen s.db.challenges
  /-- no code expires inside its cooldown -/
  outlives : ∀ c ∈ s.db.challenges,
    c.createdAt + seconds settings.otpResendCooldownSeconds ≤ c.expiresAt
  /-- an open code of the current version of its account fits the setting -/
  fits : ∀ c ∈ s.db.challenges, c.usedAt = none → ∀ enabled,
    s.db.account c.userId = some (c.sessionVersion, enabled) → c.purpose.allows enabled = true
  probes : ∀ client ∈ s.clients, ProbeKnown s.db client.session client.request.challengeId?

/-- Without challenges the invariant holds. -/
theorem cooldownInvariant_init (users : Table User) :
    CooldownInvariant settings (init users) where
  oneOpen := fun _ h => absurd h (Table.not_mem_empty _)
  outlives := fun _ h => absurd h (Table.not_mem_empty _)
  fits := fun _ h => absurd h (Table.not_mem_empty _)
  probes := fun _ h => absurd h List.not_mem_nil

/-- Every code is still there, as it was issued. -/
def KeepsCodes (s s' : TwoStepState) : Prop :=
  ∀ c ∈ s.db.challenges, ∃ c' ∈ s'.db.challenges, c.SameCode c'

/-- What a step does to codes and accounts, under the condition. -/
inductive StepCase (settings : TwoStepSettings) (s s' : TwoStepState) (now : Datetime) : Prop
  | idle (hDb : s'.db = s.db) (hAccepted : s'.accepted = s.accepted)
  | verification (session : TwoStepSession) (challengeId : Uuid) (rawOtp : Str) (v : Verification)
      (hEffect : VerificationEffect s.db settings session challengeId rawOtp now v)
      (hLast : ∀ c, RunsOut settings session rawOtp c →
        c.createdAt + seconds settings.otpResendCooldownSeconds ≤ now)
      (hDb : s'.db = v.db) (hResult : ∀ l, v.result = .ok l → challengeId ∈ s'.accepted)
      (hAccepted : ∀ id ∈ s.accepted, id ∈ s'.accepted)
  | issue (draws : IssueDraws) (hEffect : IssueEffect s.db s'.db settings now draws)
      (hCreated : now ≤ draws.createdAt)
      (hLives : draws.createdAt + seconds settings.otpResendCooldownSeconds ≤
        now + minutes settings.emailTwoStepExpireMinutes)
      (hAccepted : s'.accepted = s.accepted)
  | users (hChallenges : s'.db.challenges = s.db.challenges)
      (hFits : ∀ c ∈ s'.db.challenges, c.usedAt = none → ∀ enabled,
        s'.db.account c.userId = some (c.sessionVersion, enabled) → c.purpose.allows enabled = true)
      (hAccepted : s'.accepted = s.accepted)
  | closed
      (hEffect : Effect s.db.challenges s'.db.challenges
        (fun c => ∀ enabled, s.db.account c.userId ≠ some (c.sessionVersion, enabled))
        fun _ => False)
      (hUsers : s'.db.users = s.db.users) (hAccepted : s'.accepted = s.accepted)

/-- A challenge that runs out of attempts is as old as the cooldown, when the condition holds of the
request. -/
theorem runsOut_of_attemptsLast {session : TwoStepSession} {request : VerificationRequest}
    {now : Datetime} (h : attemptsLast settings session request now = true)
    {c : EmailTwoStepChallenge} (hRunsOut : RunsOut settings session (submittedOtp request) c) :
    c.createdAt + seconds settings.otpResendCooldownSeconds ≤ now := by
  obtain ⟨probe, hProbe, hSame, hUnused, hAttempts⟩ := hRunsOut
  simp only [attemptsLast, hProbe, Option.all_some, hUnused, Option.isSome_none, Bool.false_or,
    Bool.or_eq_true, Bool.and_eq_true, decide_eq_true_iff] at h
  rw [hSame.2.2.1] at h
  -- The condition leaves an attempt, unless the challenge is old enough or the guess is right.
  rcases h with hOld | ⟨hLeft, hRight | hMore⟩
  · exact hOld
  · rcases hAttempts with hNone | ⟨hWrong, -⟩
    · omega
    · rw [hRight] at hWrong
      cases hWrong
  · rcases hAttempts with hNone | ⟨-, hNone⟩ <;> omega

/-- The account that is read is a row of the users. -/
theorem account_mem {db : TwoStepDatabase} {userId : Uuid} {account : Int × Bool}
    (h : db.account userId = some account) :
    ∃ u ∈ db.users, u.id = userId ∧ account = (u.authSessionVersion, u.emailTwoStepEnabled) := by
  obtain ⟨u, hGet, rfl⟩ := Option.map_eq_some_iff.mp h
  obtain ⟨hMem, hId⟩ := Table.get?_eq_some.mp hGet
  exact ⟨u, hMem, hId, rfl⟩

/-- **What a step does.** -/
theorem step_case (h : CooldownInvariant settings s) {timed : TimedTwoStepAction}
    (hKeeps : s.keepsCodes settings timed = true) :
    StepCase settings s (step settings s timed) timed.now := by
  obtain ⟨now, action⟩ := timed
  cases action with
  | arrive request => exact .idle rfl rfl
  | probe i =>
    simp only [step]
    split
    · exact .idle rfl rfl
    · split
      · exact .idle rfl rfl
      · exact .idle rfl rfl
  | transact i draws =>
    simp only [step]
    split
    · exact .idle rfl rfl
    next client hGet =>
    split
    · next hPhase =>
      have hKnown := h.probes client (List.mem_of_getElem? hGet)
      have hEarly : closesNoneEarly settings s.db client now draws = true := by
        simpa [keepsCodes, hGet, hPhase] using hKeeps
      unfold closesNoneEarly at hEarly
      rw [Bool.and_eq_true, decide_eq_true_iff] at hEarly
      -- A transaction works on the current user row and closes nothing that is younger than the
      -- cooldown.
      obtain ⟨hCurrent, hRest⟩ := hEarly
      split
      · next request hRequest =>
        rw [hRequest] at hRest hKnown
        refine .verification client.session request.challengeId (submittedOtp request)
          (s.db.verify settings client.session request now)
          (verify_effect settings hCurrent hKnown now) (fun c hc => runsOut_of_attemptsLast hRest hc)
          rfl ?_ ?_
        · intro l hResult
          simp only [hResult]
          exact List.mem_cons_self
        · intro id hMem
          dsimp only
          split
          · exact List.mem_cons_of_mem _ hMem
          · exact hMem
      · next request hRequest =>
        rw [hRequest] at hRest hKnown
        simp only [Bool.and_eq_true, decide_eq_true_iff] at hRest
        obtain ⟨⟨hOpen, hCreated⟩, hLives⟩ := hRest
        exact .issue draws (issue_effect settings h.oneOpen hCurrent hKnown hOpen now draws)
          hCreated hLives rfl
    · exact .idle rfl rfl
  | changeUsers users =>
    have hFits := of_decide_eq_true hKeeps
    -- Open challenges still fit the setting of their user.
    refine .users rfl (fun c hc hUnused enabled hAccount => ?_) rfl
    obtain ⟨u, hu, hId, hEq⟩ := account_mem hAccount
    obtain ⟨hVersion, hSetting⟩ := Prod.mk.inj hEq
    have hAllows := hFits c hc hUnused u hu hId hVersion.symm
    rw [settingAllows_eq, ← hSetting] at hAllows
    exact hAllows
  | closeChallenges p =>
    have hBound := of_decide_eq_true hKeeps
    refine .closed ((Effect.expire s.db.challenges p now).mono ?_ fun _ _ hNone => hNone) rfl rfl
    intro c hc hUnused hPicked enabled hAccount
    obtain ⟨u, hu, hId, hEq⟩ := account_mem hAccount
    exact hBound c hc hPicked hUnused u hu hId (Prod.mk.inj hEq).1.symm

/-- No step drops a challenge or changes what its code is. -/
theorem StepCase.keeps {now : Datetime} (h : StepCase settings s s' now) : KeepsCodes s s' := by
  intro c hc
  cases h with
  | idle hDb hAccepted => exact ⟨c, hDb ▸ hc, .refl c⟩
  | verification session challengeId rawOtp v hEffect hLast hDb hResult hAccepted =>
    obtain ⟨c', hc', hSame, -⟩ := hEffect.codes.kept c hc
    exact ⟨c', hDb ▸ hc', hSame⟩
  | issue draws hEffect hCreated hLives hAccepted =>
    obtain ⟨c', hc', hSame, -⟩ := hEffect.codes.kept c hc
    exact ⟨c', hc', hSame⟩
  | users hChallenges hFits hAccepted => exact ⟨c, hChallenges ▸ hc, .refl c⟩
  | closed hEffect hUsers hAccepted =>
    obtain ⟨c', hc', hSame, -⟩ := hEffect.kept c hc
    exact ⟨c', hc', hSame⟩

/-- A probe stays true of the table while challenges are kept. -/
theorem probeKnown_of_keeps (hKeeps : KeepsCodes s s') {session : TwoStepSession}
    {challengeId? : Option Uuid} (h : ProbeKnown s.db session challengeId?) :
    ProbeKnown s'.db session challengeId? := by
  intro c hc
  obtain ⟨hId, row, hRow, hSame⟩ := h c hc
  obtain ⟨row', hRow', hSame'⟩ := hKeeps row hRow
  exact ⟨hId, row', hRow', hSame'.symm.trans hSame⟩

/-- A session that has just arrived has probed nothing. -/
theorem arrive_probeKnown (db : TwoStepDatabase) (request : TwoStepRequest) :
    ProbeKnown db (arrive db request).session (arrive db request).request.challengeId? := by
  intro c hc
  unfold arrive at hc
  dsimp only at hc
  split at hc
  · cases hc
  · split at hc
    · cases hc
    · cases hc

/-- After a probe the session knows the row it has read. -/
theorem probe_probeKnown (db : TwoStepDatabase) (client : TwoStepClient) :
    ProbeKnown db (probe db client).session (probe db client).request.challengeId? := by
  intro c hc
  obtain ⟨challengeId, hRequest, hGet⟩ := Option.bind_eq_some_iff.mp hc
  obtain ⟨hMem, hId⟩ := Table.get?_eq_some.mp hGet
  refine ⟨?_, c, hMem, .refl c⟩
  rw [show (probe db client).request = client.request from rfl, hRequest, ← hId]
  rfl

/-- A client that is put back after its probe or its transaction. -/
theorem set_probeKnown (h : ∀ client ∈ s.clients, ProbeKnown s.db client.session
    client.request.challengeId?) {i : Nat} {client' : TwoStepClient}
    (hClient : ProbeKnown s.db client'.session client'.request.challengeId?) :
    ∀ client ∈ s.clients.set i client', ProbeKnown s.db client.session
      client.request.challengeId? := by
  intro client hMem
  rcases List.mem_or_eq_of_mem_set hMem with hOld | rfl
  · exact h client hOld
  · exact hClient

/-- Every client's probe stays true through a step. -/
theorem step_probes (h : CooldownInvariant settings s) {timed : TimedTwoStepAction}
    (hKeeps : KeepsCodes s (step settings s timed)) :
    ∀ client ∈ (step settings s timed).clients,
      ProbeKnown (step settings s timed).db client.session client.request.challengeId? := by
  -- Challenges are kept, so it is enough to look at the table before the step.
  suffices hOld : ∀ client ∈ (step settings s timed).clients,
      ProbeKnown s.db client.session client.request.challengeId? from
    fun client hMem => probeKnown_of_keeps hKeeps (hOld client hMem)
  obtain ⟨now, action⟩ := timed
  cases action with
  | arrive request =>
    intro client hMem
    rcases List.mem_append.mp hMem with hMem | hMem
    · exact h.probes client hMem
    · rw [List.mem_singleton.mp hMem]
      exact arrive_probeKnown s.db request
  | probe i =>
    simp only [step]
    split
    · exact h.probes
    · split
      · exact set_probeKnown h.probes (probe_probeKnown s.db _)
      · exact h.probes
  | transact i draws =>
    simp only [step]
    split
    · exact h.probes
    next client hGet =>
    have hClient := h.probes client (List.mem_of_getElem? hGet)
    split
    · split
      · exact set_probeKnown h.probes hClient
      · exact set_probeKnown h.probes hClient
    · exact h.probes
  | changeUsers users => exact h.probes
  | closeChallenges p => exact h.probes

/-- Where nothing is issued, the open codes of a use are those of before. -/
theorem oneOpen_of_effect {closes : EmailTwoStepChallenge → Prop}
    {t t' : Table EmailTwoStepChallenge} (h : OneOpen t) (hEffect : Effect t t' closes fun _ => False) :
    OneOpen t' := by
  intro c' hc' d' hd' hUnused hUnused' hUse
  rcases hEffect.rows c' hc' with ⟨c, hc, hSame, hOpen⟩ | ⟨-, hNone⟩
  · rcases hEffect.rows d' hd' with ⟨d, hd, hSame', hOpen'⟩ | ⟨-, hNone⟩
    · have hOld := h c hc d hd (hOpen hUnused) (hOpen' hUnused')
        ⟨hSame'.2.1.symm.trans (hUse.1.trans hSame.2.1),
          hSame'.2.2.2.1.symm.trans (hUse.2.trans hSame.2.2.2.1)⟩
      refine Table.eq_of_key_eq hc' hd' ?_
      exact hSame.1.trans (hOld ▸ hSame'.1.symm)
    · exact hNone.elim
  · exact hNone.elim

theorem outlives_of_sameCode {c c' : EmailTwoStepChallenge} (hSame : c.SameCode c') {cooldown : Int}
    (h : c.createdAt + cooldown ≤ c.expiresAt) : c'.createdAt + cooldown ≤ c'.expiresAt := by
  rw [hSame.2.2.1, hSame.2.2.2.2.1]
  exact h

/-- An open code of before fits the setting of its account, where that is as before. -/
theorem CooldownInvariant.fits_of_same (h : CooldownInvariant settings s)
    {c c' : EmailTwoStepChallenge} (hc : c ∈ s.db.challenges) (hSame : c.SameCode c')
    (hUnused : c.usedAt = none) {db : TwoStepDatabase}
    (hAccount : db.account c'.userId = s.db.account c'.userId) {enabled : Bool}
    (hShown : db.account c'.userId = some (c'.sessionVersion, enabled)) :
    c'.purpose.allows enabled = true := by
  rw [hAccount, hSame.2.1, hSame.2.2.2.2.2] at hShown
  rw [hSame.2.2.2.1]
  exact h.fits c hc hUnused enabled hShown

/-- **Step lemma.** A step that closes no code early keeps the invariant. -/
theorem step_cooldownInvariant (h : CooldownInvariant settings s) {timed : TimedTwoStepAction}
    (hKeeps : s.keepsCodes settings timed = true) :
    CooldownInvariant settings (step settings s timed) := by
  have hCase := step_case h hKeeps
  have hProbes := step_probes h hCase.keeps
  generalize step settings s timed = s' at hCase hProbes
  cases hCase with
  | idle hDb hAccepted =>
    exact ⟨hDb ▸ h.oneOpen, hDb ▸ h.outlives, hDb ▸ h.fits, hProbes⟩
  | verification session challengeId rawOtp v hEffect hLast hDb hResult hAccepted =>
    have hCodes := hEffect.codes
    have hAccounts := hEffect.accounts
    rw [← hDb] at hCodes hAccounts
    refine ⟨oneOpen_of_effect h.oneOpen hCodes, fun c' hc' => ?_, fun c' hc' hUnused enabled hShown => ?_,
      hProbes⟩
    · rcases hCodes.rows c' hc' with ⟨c, hc, hSame, -⟩ | ⟨-, hNone⟩
      · exact outlives_of_sameCode hSame (h.outlives c hc)
      · exact hNone.elim
    · rcases hCodes.rows c' hc' with ⟨c, hc, hSame, hOpen⟩ | ⟨-, hNone⟩
      · -- A verification that changes the account closes all its challenges.
        rcases hAccounts c'.userId with hAccount | ⟨-, hClosed⟩
        · exact h.fits_of_same hc hSame (hOpen hUnused) hAccount hShown
        · exact absurd hUnused (hClosed c' hc' rfl)
      · exact hNone.elim
  | issue draws hEffect hCreated hLives hAccepted =>
    refine ⟨?_, fun c' hc' => ?_, fun c' hc' hUnused enabled hShown => ?_, hProbes⟩
    · -- Two open challenges of one use: both old, or one of them is new and the others were closed.
      intro c' hc' d' hd' hUnused hUnused' hUse
      rcases hEffect.codes.rows c' hc' with ⟨c, hc, hSame, hOpen⟩ | ⟨-, hNew⟩
      · rcases hEffect.codes.rows d' hd' with ⟨d, hd, hSame', hOpen'⟩ | ⟨-, hNew⟩
        · have hOld := h.oneOpen c hc d hd (hOpen hUnused) (hOpen' hUnused')
            ⟨hSame'.2.1.symm.trans (hUse.1.trans hSame.2.1),
              hSame'.2.2.2.1.symm.trans (hUse.2.trans hSame.2.2.2.1)⟩
          refine Table.eq_of_key_eq hc' hd' ?_
          exact hSame.1.trans (hOld ▸ hSame'.1.symm)
        · exact hNew.only c' hc' hUnused ⟨hUse.1.symm, hUse.2.symm⟩
      · exact (hNew.only d' hd' hUnused' hUse).symm
    · rcases hEffect.codes.rows c' hc' with ⟨c, hc, hSame, -⟩ | ⟨-, hNew⟩
      · exact outlives_of_sameCode hSame (h.outlives c hc)
      · rw [hNew.createdAt, hNew.expiresAt]
        exact hLives
    · rcases hEffect.codes.rows c' hc' with ⟨c, hc, hSame, hOpen⟩ | ⟨-, hNew⟩
      · exact h.fits_of_same hc hSame (hOpen hUnused) (hEffect.accounts c'.userId) hShown
      · obtain ⟨enabled', hAccount, hAllows⟩ := hNew.account
        rw [hEffect.accounts, hAccount] at hShown
        rw [← (Prod.mk.inj (Option.some_injective _ hShown)).2]
        exact hAllows
  | users hChallenges hFits hAccepted =>
    refine ⟨hChallenges ▸ h.oneOpen, fun c hc => h.outlives c (hChallenges ▸ hc), hFits, hProbes⟩
  | closed hEffect hUsers hAccepted =>
    refine ⟨oneOpen_of_effect h.oneOpen hEffect, fun c' hc' => ?_,
      fun c' hc' hUnused enabled hShown => ?_, hProbes⟩
    · rcases hEffect.rows c' hc' with ⟨c, hc, hSame, -⟩ | ⟨-, hNone⟩
      · exact outlives_of_sameCode hSame (h.outlives c hc)
      · exact hNone.elim
    · rcases hEffect.rows c' hc' with ⟨c, hc, hSame, hOpen⟩ | ⟨-, hNone⟩
      · exact h.fits_of_same hc hSame (hOpen hUnused) (account_of_users hUsers c'.userId) hShown
      · exact hNone.elim

-- ---------------------------------------------------------------------------
-- A code that was issued
-- ---------------------------------------------------------------------------

/-- The code is open, accepted, or at the time older than the cooldown. -/
structure Standing (settings : TwoStepSettings) (c : EmailTwoStepChallenge) (time : Datetime)
    (s : TwoStepState) : Prop where
  version : s.db.versionOf c.userId = some c.sessionVersion
  code : ∃ row ∈ s.db.challenges, c.SameCode row ∧
    (row.usedAt = none ∨ c.id ∈ s.accepted ∨
      c.createdAt + seconds settings.otpResendCooldownSeconds ≤ time)

/-- An open code of the version of its account is in place. -/
theorem fits_of_version (h : CooldownInvariant settings s) {c row : EmailTwoStepChallenge}
    (hVersion : s.db.versionOf c.userId = some c.sessionVersion) (hRow : row ∈ s.db.challenges)
    (hSame : c.SameCode row) (hUnused : row.usedAt = none) : s.db.Fits row := by
  intro version enabled hAccount
  have hOwn : s.db.account c.userId = some (version, enabled) := hSame.2.1 ▸ hAccount
  have hBound : row.sessionVersion = version := by
    unfold versionOf at hVersion
    rw [hOwn] at hVersion
    exact hSame.2.2.2.2.2.trans (Option.some_injective _ hVersion).symm
  exact ⟨hBound, h.fits row hRow hUnused enabled (hBound ▸ hAccount)⟩

/-- **Step lemma of a code.** Until its account gets a new version or another code is issued for its
use, it stays open, or it is accepted, or its cooldown is over. -/
theorem Standing.step_case {c : EmailTwoStepChallenge} {now time : Datetime}
    (h : CooldownInvariant settings s) (hStanding : Standing settings c time s)
    (hCase : StepCase settings s s' now) (hTime : now ≤ time)
    (hVersion : s'.db.versionOf c.userId = s.db.versionOf c.userId)
    (hNone : ∀ e ∈ s'.db.challenges, c.SameUse e → ∃ x ∈ s.db.challenges, x.id = e.id) :
    Standing settings c time s' := by
  refine ⟨hVersion.trans hStanding.version, ?_⟩
  obtain ⟨row, hRow, hSame, hState⟩ := hStanding.code
  have hUse : row.userId = c.userId := hSame.2.1
  -- a code that expires is older than its cooldown
  have hExpired : row.expiresAt ≤ now →
      c.createdAt + seconds settings.otpResendCooldownSeconds ≤ time := by
    intro hExpired
    rw [← hSame.2.2.1]
    exact ((h.outlives row hRow).trans hExpired).trans hTime
  cases hCase with
  | idle hDb hAccepted => exact ⟨row, hDb ▸ hRow, hSame, hAccepted ▸ hState⟩
  | verification session challengeId rawOtp v hEffect hLast hDb hResult hAccepted =>
    obtain ⟨row', hRow', hSame', hOpen⟩ := hEffect.codes.kept row hRow
    rw [← hDb] at hRow'
    refine ⟨row', hRow', hSame.trans hSame', ?_⟩
    rcases hState with hUnused | hState
    · rcases hOpen hUnused with hStill | hCloses
      · exact .inl hStill
      · cases hCloses with
        | accepted l hOk hId =>
          refine .inr (.inl ?_)
          rw [← hSame.1, hId]
          exact hResult l hOk
        | version hChanged =>
          rw [hUse, ← hDb] at hChanged
          exact absurd hVersion hChanged
        | expired hAge => exact .inr (.inr (hExpired hAge))
        | misfit hMisfit => exact absurd (fits_of_version h hStanding.version hRow hSame hUnused) hMisfit
        | runsOut hRunsOut =>
          refine .inr (.inr ?_)
          rw [← hSame.2.2.1]
          exact (hLast row hRunsOut).trans hTime
    · exact .inr (hState.imp_left (hAccepted c.id))
  | issue draws hEffect hCreated hLives hAccepted =>
    obtain ⟨row', hRow', hSame', hOpen⟩ := hEffect.codes.kept row hRow
    refine ⟨row', hRow', hSame.trans hSame', ?_⟩
    rw [hAccepted]
    rcases hState with hUnused | hState
    · rcases hOpen hUnused with hStill | hCloses
      · exact .inl hStill
      · cases hCloses with
        | replaced d hNew hFor hFresh =>
          -- a code for the same use was issued
          obtain ⟨x, hx, hId⟩ := hNone d hNew.mem
            ⟨hFor.1.symm.trans hUse, hFor.2.symm.trans hSame.2.2.2.1⟩
          exact absurd hId (hFresh x hx)
        | expired hAge => exact .inr (.inr (hExpired hAge))
        | misfit hMisfit => exact absurd (fits_of_version h hStanding.version hRow hSame hUnused) hMisfit
    · exact .inr hState
  | users hChallenges hFits hAccepted => exact ⟨row, hChallenges ▸ hRow, hSame, hAccepted ▸ hState⟩
  | closed hEffect hUsers hAccepted =>
    obtain ⟨row', hRow', hSame', hOpen⟩ := hEffect.kept row hRow
    refine ⟨row', hRow', hSame.trans hSame', ?_⟩
    rw [hAccepted]
    rcases hState with hUnused | hState
    · rcases hOpen hUnused with hStill | hOther
      · exact .inl hStill
      · obtain ⟨account, hAccount, hEq⟩ := Option.map_eq_some_iff.mp hStanding.version
        refine absurd ?_ (hOther account.2)
        rw [hUse, hSame.2.2.2.2.2, ← hEq]
        exact hAccount
    · exact .inr hState

/-- Keeping the challenges composes. -/
theorem keepsCodes_trans {s₁ s₂ s₃ : TwoStepState} (h : KeepsCodes s₁ s₂) (h' : KeepsCodes s₂ s₃) :
    KeepsCodes s₁ s₃ := by
  intro c hc
  obtain ⟨c', hc', hSame⟩ := h c hc
  obtain ⟨c'', hc'', hSame'⟩ := h' c' hc'
  exact ⟨c'', hc'', hSame.trans hSame'⟩

/-- A run whose steps all meet the condition keeps the invariant. -/
theorem run_cooldownInvariant (h : CooldownInvariant settings s) {as : List TimedTwoStepAction}
    (hMeets : Meets (step settings) (fun s timed => s.keepsCodes settings timed = true) s as) :
    CooldownInvariant settings (run (step settings) s as) :=
  run_invariant_of_meets (I := CooldownInvariant settings)
    (fun _ _ hs hKeeps => step_cooldownInvariant hs hKeeps) h hMeets

/-- Such a run drops no challenge. -/
theorem run_keepsCodes (h : CooldownInvariant settings s) {as : List TimedTwoStepAction}
    (hMeets : Meets (step settings) (fun s timed => s.keepsCodes settings timed = true) s as) :
    KeepsCodes s (run (step settings) s as) := by
  induction as generalizing s with
  | nil => exact fun c hc => ⟨c, hc, .refl c⟩
  | cons a as ih =>
    exact keepsCodes_trans (step_case h hMeets.1).keeps
      (ih (step_cooldownInvariant h hMeets.1) hMeets.2)

/-- **Run lemma of a code.** -/
theorem Standing.run {c : EmailTwoStepChallenge} {time : Datetime}
    (h : CooldownInvariant settings s) (hStanding : Standing settings c time s)
    {as : List TimedTwoStepAction}
    (hMeets : Meets (step settings) (fun s timed => s.keepsCodes settings timed = true) s as)
    (hTime : ∀ a ∈ as, a.now ≤ time)
    (hNone : ∀ e ∈ (run (step settings) s as).db.challenges, c.SameUse e →
      ∃ x ∈ s.db.challenges, x.id = e.id) :
    (∃ n ≤ as.length, (Machine.run (step settings) s (as.take n)).db.versionOf c.userId ≠
      some c.sessionVersion) ∨ Standing settings c time (Machine.run (step settings) s as) := by
  induction as generalizing s with
  | nil => exact .inr hStanding
  | cons a as ih =>
    have hCase := TwoStepState.step_case h hMeets.1
    have hInv := step_cooldownInvariant h hMeets.1
    have hLater := run_keepsCodes hInv hMeets.2
    by_cases hVersion : (step settings s a).db.versionOf c.userId = s.db.versionOf c.userId
    · -- what is issued by a step is there at the end
      have hNow : ∀ e ∈ (step settings s a).db.challenges, c.SameUse e →
          ∃ x ∈ s.db.challenges, x.id = e.id := by
        intro e he hUse
        obtain ⟨e', he', hSame⟩ := hLater e he
        obtain ⟨x, hx, hId⟩ := hNone e' he' ⟨hSame.2.1.trans hUse.1, hSame.2.2.2.1.trans hUse.2⟩
        exact ⟨x, hx, hId.trans hSame.1⟩
      have hRest : ∀ e ∈ (Machine.run (step settings) (step settings s a) as).db.challenges,
          c.SameUse e → ∃ x ∈ (step settings s a).db.challenges, x.id = e.id := by
        intro e he hUse
        obtain ⟨x, hx, hId⟩ := hNone e he hUse
        obtain ⟨x', hx', hSame⟩ := hCase.keeps x hx
        exact ⟨x', hx', hSame.1.trans hId⟩
      have hNext := hStanding.step_case h hCase (hTime a List.mem_cons_self) hVersion hNow
      rcases ih hInv hNext hMeets.2 (fun b hb => hTime b (List.mem_cons_of_mem a hb)) hRest with
        ⟨n, hn, hChanged⟩ | hDone
      · exact .inl ⟨n + 1, Nat.succ_le_succ hn, hChanged⟩
      · exact .inr hDone
    · refine .inl ⟨1, Nat.succ_le_succ (Nat.zero_le _), fun hSame => hVersion ?_⟩
      exact hSame.trans hStanding.version.symm

-- ---------------------------------------------------------------------------
-- The cooldown
-- ---------------------------------------------------------------------------

/-- A code that a step issues comes from an issuance. -/
theorem StepCase.new_code {now : Datetime} {c : EmailTwoStepChallenge}
    (hCase : StepCase settings s s' now) (h : Issues s s' c) :
    ∃ draws, NewCode s.db s'.db settings now draws c ∧ now ≤ draws.createdAt ∧
      ∀ userId, s'.db.account userId = s.db.account userId := by
  obtain ⟨hc, hFresh⟩ := h
  -- a row of before has the identifier of a row of before
  have hOld : ¬∃ x ∈ s.db.challenges, x.SameCode c := by
    rintro ⟨x, hx, hSame⟩
    exact hFresh x hx hSame.1.symm
  cases hCase with
  | idle hDb hAccepted => exact absurd ⟨c, hDb ▸ hc, .refl c⟩ hOld
  | verification session challengeId rawOtp v hEffect hLast hDb hResult hAccepted =>
    rcases hEffect.codes.rows c (hDb ▸ hc) with ⟨x, hx, hSame, -⟩ | ⟨-, hNone⟩
    · exact absurd ⟨x, hx, hSame⟩ hOld
    · exact hNone.elim
  | issue draws hEffect hCreated hLives hAccepted =>
    rcases hEffect.codes.rows c hc with ⟨x, hx, hSame, -⟩ | ⟨-, hNew⟩
    · exact absurd ⟨x, hx, hSame⟩ hOld
    · exact ⟨draws, hNew, hCreated, hEffect.accounts⟩
  | users hChallenges hFits hAccepted => exact absurd ⟨c, hChallenges ▸ hc, .refl c⟩ hOld
  | closed hEffect hUsers hAccepted =>
    rcases hEffect.rows c hc with ⟨x, hx, hSame, -⟩ | ⟨-, hNone⟩
    · exact absurd ⟨x, hx, hSame⟩ hOld
    · exact hNone.elim

/-- **Cooldown.** On every run with a clock that does not go back, whose steps close no code early:
two codes in a row for one account and purpose are the cooldown apart, unless the first one was
accepted or the account got a new version in between. -/
theorem cooldown_kept (settings : TwoStepSettings) (users : Table User)
    (as : List TimedTwoStepAction) (hClock : as.Pairwise fun a b => a.now ≤ b.now)
    (hMeets : Meets (step settings) (fun s timed => s.keepsCodes settings timed = true)
      (init users) as) :
    CooldownKept settings (init users) as := by
  intro before first between second after hAs s₀ s₁ s₂ c d hFirst hSecond hUse hNone
  rw [hAs, meets_append, meets_cons, meets_append, meets_cons] at hMeets
  obtain ⟨hBefore, hStep, hBetween, hLast, -⟩ := hMeets
  have hInv₀ : CooldownInvariant settings s₀ :=
    run_cooldownInvariant (cooldownInvariant_init users) hBefore
  have hInv₁ : CooldownInvariant settings s₁ := step_cooldownInvariant hInv₀ hStep
  have hInv₂ : CooldownInvariant settings s₂ := run_cooldownInvariant hInv₁ hBetween
  have hTime : ∀ a ∈ between, a.now ≤ second.now := by
    intro a ha
    rw [hAs, List.pairwise_append, List.pairwise_cons, List.pairwise_append] at hClock
    exact hClock.2.1.2.2.2 a ha second List.mem_cons_self
  -- the first code
  obtain ⟨draws, hNew, -, hAccounts⟩ := (step_case hInv₀ hStep).new_code hFirst
  have hVersion : s₁.db.versionOf c.userId = some c.sessionVersion := by
    obtain ⟨enabled, hAccount, -⟩ := hNew.account
    unfold versionOf
    rw [hAccounts, hAccount]
    rfl
  have hStanding : Standing settings c second.now s₁ :=
    ⟨hVersion, c, hNew.mem, .refl c, .inl hNew.unused⟩
  rcases hStanding.run hInv₁ hBetween hTime hNone with ⟨n, hn, hChanged⟩ | hStill
  · refine .inr (.inr ⟨n, hn, ?_⟩)
    rw [hVersion]
    exact hChanged
  -- the second code, which the first one did not hold up
  obtain ⟨draws', hNew', hCreated', -⟩ := (step_case hInv₂ hLast).new_code hSecond
  obtain ⟨row, hRow, hSame, hState⟩ := hStill.code
  have hTo : second.now ≤ d.createdAt := hNew'.createdAt ▸ hCreated'
  rcases hState with hUnused | hAccepted | hOld
  · have hRowUse : d.SameUse row :=
      ⟨hSame.2.1.trans hUse.1.symm, hSame.2.2.2.1.trans hUse.2.symm⟩
    rcases hNew'.due row hRow hUnused hRowUse with hExpired | hBound | hOld
    · refine .inl ?_
      rw [← hSame.2.2.1]
      exact ((hInv₂.outlives row hRow).trans hExpired).trans hTo
    · obtain ⟨enabled, hAccount, -⟩ := hNew'.account
      have hShown := hStill.version
      unfold versionOf at hShown
      rw [← hUse.1, hAccount] at hShown
      exact absurd (hSame.2.2.2.2.2.trans (Option.some_injective _ hShown).symm) hBound
    · refine .inl ?_
      rw [← hSame.2.2.1]
      exact hOld.trans hTo
  · exact .inr (.inl hAccepted)
  · exact .inl (hOld.trans hTo)

end TwoStepState

-- ---------------------------------------------------------------------------
-- Wrong guesses
-- ---------------------------------------------------------------------------

namespace Sample

def signsIn (second : Int) : TimedTwoStepAction :=
  twoStepAt second (.arrive (.issue (.login (str "a@b.c") (str "password") false)))

/-- The sign-in that is request `i` draws its code as challenge `id`. -/
def issuesCode (second : Int) (i id : Nat) : TimedTwoStepAction :=
  twoStepAt second (.transact i ⟨id, str "123456", seconds second⟩)

/-- The challenge that is then issued. -/
def codeAt (second : Int) (id : Nat) : EmailTwoStepChallenge :=
  { id, userId := 1, createdAt := seconds second, purpose := .login, otpHash := str "123456",
    expiresAt := seconds (second + 600) }

/-- Wrong guesses of challenge 1 at a second, as the requests from `i` on. -/
def guessesAt (second : Int) (i : Nat) : Nat → List TimedTwoStepAction
  | 0 => []
  | n + 1 => twoStepAt second (.arrive (submitted (str "000000"))) :: twoStepAt second (.probe i) ::
      twoStepAt second (.transact i draws) :: guessesAt second (i + 1) n

end Sample

namespace TwoStepState

/-- **A code nine seconds after the last one**: five wrong guesses close the first code, and the
next sign-in does not see it. -/
theorem guesses_skip_cooldown :
    ¬CooldownKept Sample.twoStepSettings (init Sample.twoStepUsers)
      (Sample.signsIn 1 :: Sample.issuesCode 1 0 1 :: (Sample.guessesAt 2 1 5 ++
        [Sample.signsIn 10, Sample.issuesCode 10 6 2])) := by
  intro h
  have hCode := h [Sample.signsIn 1] (Sample.issuesCode 1 0 1)
    (Sample.guessesAt 2 1 5 ++ [Sample.signsIn 10]) (Sample.issuesCode 10 6 2) [] rfl
    (Sample.codeAt 1 1) (Sample.codeAt 10 2) (by decide +kernel) (by decide +kernel) ⟨rfl, rfl⟩
    (by decide +kernel)
  revert hCode
  decide +kernel

/-- Four wrong guesses, and a sign-in after the cooldown. -/
theorem cooldown_kept_sample :
    CooldownKept Sample.twoStepSettings (init Sample.twoStepUsers)
      (Sample.signsIn 1 :: Sample.issuesCode 1 0 1 :: (Sample.guessesAt 2 1 4 ++
        [Sample.signsIn 70, Sample.issuesCode 70 5 2])) :=
  cooldown_kept Sample.twoStepSettings Sample.twoStepUsers _ (by decide +kernel) (by decide +kernel)

end TwoStepState

end SpikeBackend
