import SpikeBackend.TwoStep.Verification

/-!
# Challenges are single-use and attempt-bounded

A verification reads its challenge before it takes the user's lock and, under the lock,
decides on that same instance. On every run whose probes are still current when the lock
is taken, a challenge is accepted at most once and compared at most `otp_max_attempts`
times.

* `Bounded` — what the counters of a challenge say of its past, and what keeps it;
* `single_use_and_attempt_bounded`;
* `accepted_twice_and_unbounded` — on a run whose probes are stale.
-/

namespace SpikeBackend

open Relational Text Outcome Machine

/-- A challenge counts its wrong codes; while it is unused it has not been accepted. -/
structure Bounded (max : Int) (challenges : Table EmailTwoStepChallenge)
    (accepted compared : List Uuid) : Prop where
  counted : ∀ c ∈ challenges,
    (compared.count c.id : Int) = c.attemptCount + accepted.count c.id
  unused : ∀ c ∈ challenges, c.usedAt = none → accepted.count c.id = 0
  once : ∀ id, accepted.count id ≤ 1
  bounded : ∀ id, (compared.count id : Int) ≤ max
  acceptedKnown : ∀ id ∈ accepted, ∃ c ∈ challenges, c.id = id
  comparedKnown : ∀ id ∈ compared, ∃ c ∈ challenges, c.id = id

namespace Bounded

variable {max : Int} {t t' : Table EmailTwoStepChallenge} {accepted compared : List Uuid}

/-- A challenge that was not there has never been submitted to. -/
theorem count_eq_zero (h : Bounded max t accepted compared) {id : Uuid}
    (hNew : ∀ c ∈ t, c.id ≠ id) : accepted.count id = 0 ∧ compared.count id = 0 := by
  constructor
  · rw [List.count_eq_zero]
    intro hMem
    obtain ⟨c, hc, hId⟩ := h.acceptedKnown id hMem
    exact hNew c hc hId
  · rw [List.count_eq_zero]
    intro hMem
    obtain ⟨c, hc, hId⟩ := h.comparedKnown id hMem
    exact hNew c hc hId

/-- Challenges that are known stay known. -/
theorem known_of_kept {ids : List Uuid} {wrong : List Uuid} (hAdvance : ChallengesAdvance t t' wrong)
    (h : ∀ id ∈ ids, ∃ c ∈ t, c.id = id) : ∀ id ∈ ids, ∃ c ∈ t', c.id = id := by
  intro id hMem
  obtain ⟨c, hc, hId⟩ := h id hMem
  obtain ⟨c', hc', hId'⟩ := hAdvance.kept c hc
  exact ⟨c', hc', hId'.trans hId⟩

/-- The comparisons with one challenge, after another one. -/
theorem comparison_bounded (h : Bounded max t accepted compared) {row : EmailTwoStepChallenge}
    (hRow : row ∈ t) (hUnused : row.usedAt = none) (hAttempts : row.attemptCount < max) (id : Uuid) :
    ((row.id :: compared).count id : Int) ≤ max := by
  by_cases hId : row.id = id
  · subst hId
    have hCounted := h.counted row hRow
    rw [h.unused row hRow hUnused] at hCounted
    rw [List.count_cons_self]
    push_cast
    omega
  · rw [List.count_cons_of_ne hId]
    exact h.bounded id

/-- Nothing was compared. -/
theorem refused (h : Bounded max t accepted compared) (hAdvance : ChallengesAdvance t t' []) :
    Bounded max t' accepted compared where
  counted c' hc' := by
    -- A challenge from before keeps its count, a new one has none.
    rcases hAdvance.rows c' hc' with ⟨c, hc, hId, hCount, -⟩ | ⟨hNew, hZero⟩
    · rw [← hId, hCount, h.counted c hc]
      simp
    · obtain ⟨hAccepted, hCompared⟩ := h.count_eq_zero hNew
      rw [hAccepted, hCompared, hZero]
      rfl
  unused c' hc' hUnused := by
    rcases hAdvance.rows c' hc' with ⟨c, hc, hId, -, hUsed⟩ | ⟨hNew, -⟩
    · rw [← hId]
      exact h.unused c hc (hUsed hUnused)
    · exact (h.count_eq_zero hNew).1
  once := h.once
  bounded := h.bounded
  acceptedKnown := known_of_kept hAdvance h.acceptedKnown
  comparedKnown := known_of_kept hAdvance h.comparedKnown

/-- A wrong code was compared and counted. -/
theorem wrong (h : Bounded max t accepted compared) {row : EmailTwoStepChallenge} (hRow : row ∈ t)
    (hUnused : row.usedAt = none) (hAttempts : row.attemptCount < max)
    (hAdvance : ChallengesAdvance t t' [row.id]) : Bounded max t' accepted (row.id :: compared) where
  counted c' hc' := by
    rcases hAdvance.rows c' hc' with ⟨c, hc, hId, hCount, -⟩ | ⟨hNew, hZero⟩
    · have hCounted := h.counted c hc
      rw [← hId, hCount, List.count_cons, List.count_singleton]
      -- The count of the guessed challenge grows with the log.
      push_cast
      omega
    · obtain ⟨hAccepted, hCompared⟩ := h.count_eq_zero hNew
      rw [hAccepted, List.count_cons_of_ne (hNew row hRow), hCompared, hZero]
      rfl
  unused c' hc' hUnused' := by
    rcases hAdvance.rows c' hc' with ⟨c, hc, hId, -, hUsed⟩ | ⟨hNew, -⟩
    · rw [← hId]
      exact h.unused c hc (hUsed hUnused')
    · exact (h.count_eq_zero hNew).1
  once := h.once
  bounded := h.comparison_bounded hRow hUnused hAttempts
  acceptedKnown := known_of_kept hAdvance h.acceptedKnown
  comparedKnown := known_of_kept hAdvance fun id hMem => by
    rcases List.mem_cons.mp hMem with rfl | hMem
    · exact ⟨row, hRow, rfl⟩
    · exact h.comparedKnown id hMem

/-- The right code was compared, and the challenge used. -/
theorem accept (h : Bounded max t accepted compared) {row : EmailTwoStepChallenge} (hRow : row ∈ t)
    (hUnused : row.usedAt = none) (hAttempts : row.attemptCount < max)
    (hAdvance : ChallengesAdvance t t' [])
    (hUsed : ∀ c ∈ t', c.id = row.id → c.usedAt ≠ none) :
    Bounded max t' (row.id :: accepted) (row.id :: compared) where
  counted c' hc' := by
    have hCounted := (h.refused hAdvance).counted c' hc'
    rw [List.count_cons, List.count_cons]
    push_cast
    omega
  unused c' hc' hUnused' := by
    -- The accepted challenge is used, so an unused one is another.
    have hne : row.id ≠ c'.id := fun hId => hUsed c' hc' hId.symm hUnused'
    rw [List.count_cons_of_ne hne]
    exact (h.refused hAdvance).unused c' hc' hUnused'
  once id := by
    by_cases hId : row.id = id
    · subst hId
      have hNone := h.unused row hRow hUnused
      rw [List.count_cons_self]
      omega
    · rw [List.count_cons_of_ne hId]
      exact h.once id
  bounded := h.comparison_bounded hRow hUnused hAttempts
  acceptedKnown := known_of_kept hAdvance fun id hMem => by
    rcases List.mem_cons.mp hMem with rfl | hMem
    · exact ⟨row, hRow, rfl⟩
    · exact h.acceptedKnown id hMem
  comparedKnown := known_of_kept hAdvance fun id hMem => by
    rcases List.mem_cons.mp hMem with rfl | hMem
    · exact ⟨row, hRow, rfl⟩
    · exact h.comparedKnown id hMem

end Bounded

-- ---------------------------------------------------------------------------
-- Runs
-- ---------------------------------------------------------------------------

namespace TwoStepState

variable {settings : TwoStepSettings} {s : TwoStepState}

/-- **The invariant of a run.** -/
structure Invariant (settings : TwoStepSettings) (s : TwoStepState) : Prop where
  challenges : Bounded settings.otpMaxAttempts s.db.challenges s.accepted s.compared
  /-- the current user of a session was a row of the table -/
  users : ∀ client ∈ s.clients, ∀ u, client.session.user = some u → Schema.checks u = true

/-- Without challenges the invariant holds. -/
theorem invariant_init (users : Table User) : (init users).Invariant settings where
  challenges :=
    { counted := fun _ h => absurd h (Table.not_mem_empty _)
      unused := fun _ h => absurd h (Table.not_mem_empty _)
      once := fun id => by simp [init]
      bounded := fun id => by simpa [init] using Int.le_of_lt settings.otpMaxAttempts_pos
      acceptedKnown := by simp [init]
      comparedKnown := by simp [init] }
  users := by simp [init]

/-- When a code is verified, the probe of an open challenge still shows its row. -/
def probesCurrent (s : TwoStepState) (timed : TimedTwoStepAction) : Bool :=
  match timed.action with
  | .transact i _ =>
    (s.clients[i]?).all fun client =>
      match client.request with
      | .verification request =>
        client.phase != .transact ||
          decide (TwoStepDatabase.ProbeCurrent s.db client.session request.challengeId)
      | .issue _ => true
  | _ => true

/-- The condition of the run, at a transaction that verifies. -/
theorem probeCurrent_of_transact {i : Nat} {draws : TwoStepDatabase.IssueDraws} {now : Datetime}
    (h : s.probesCurrent ⟨now, .transact i draws⟩ = true) {client : TwoStepClient}
    (hGet : s.clients[i]? = some client) (hPhase : client.phase = .transact)
    {request : VerificationRequest} (hRequest : client.request = .verification request) :
    TwoStepDatabase.ProbeCurrent s.db client.session request.challengeId := by
  simpa [probesCurrent, hGet, hRequest, hPhase] using h

/-- The user a request arrives with meets the constraints of its table. -/
theorem arrive_user {db : TwoStepDatabase} {request : TwoStepRequest} {u : User}
    (h : (arrive db request).session.user = some u) : Schema.checks u = true := by
  unfold arrive at h
  dsimp only at h
  split at h
  · simp at h
  · split at h
    · simp at h
    · next user hUser =>
      obtain rfl := Option.some.inj h
      unfold TwoStepDatabase.currentUser at hUser
      rw [Option.filter_eq_some_iff] at hUser
      exact Table.checks_of_mem (Table.get?_eq_some.mp hUser.1).1

/-- **Step lemma.** A step whose probe is current keeps the invariant. -/
theorem step_invariant (h : s.Invariant settings) {timed : TimedTwoStepAction}
    (hCurrent : s.probesCurrent timed = true) : (step settings s timed).Invariant settings := by
  obtain ⟨now, action⟩ := timed
  -- putting one client back with its session keeps the users of the sessions
  have hPut : ∀ (i : Nat) (client client' : TwoStepClient), s.clients[i]? = some client →
      client'.session.user = client.session.user →
        ∀ x ∈ s.clients.set i client', ∀ u, x.session.user = some u → Schema.checks u = true := by
    intro i client client' hGet hSame x hx u hu
    rcases List.mem_or_eq_of_mem_set hx with hx | rfl
    · exact h.users x hx u hu
    · exact h.users client (List.mem_of_getElem? hGet) u (hSame ▸ hu)
  cases action with
  | arrive request =>
    refine ⟨h.challenges, fun x hx u hu => ?_⟩
    rcases List.mem_append.mp hx with hx | hx
    · exact h.users x hx u hu
    · rw [List.mem_singleton.mp hx] at hu
      exact arrive_user hu
  | probe i =>
    simp only [step]
    split
    · exact h
    · next client hGet =>
      split
      · exact ⟨h.challenges, hPut i client _ hGet rfl⟩
      · exact h
  | transact i draws =>
    simp only [step]
    split
    · exact h
    · next client hGet =>
      split
      · next hPhase =>
        split
        · next request hRequest =>
          refine ⟨?_, hPut i client _ hGet rfl⟩
          have hOutcome := TwoStepDatabase.verify_outcome settings
            (h.users client (List.mem_of_getElem? hGet))
            (probeCurrent_of_transact hCurrent hGet hPhase hRequest) now
          cases hOutcome with
          | refused hCompared hResult hAdvance =>
            obtain ⟨error, hError⟩ := hResult
            simp only [hCompared, hError]
            exact h.challenges.refused hAdvance
          | wrong row hRow hId hUnused hAttempts hCompared hResult hAdvance =>
            obtain ⟨error, hError⟩ := hResult
            simp only [hCompared, hError, if_true, ← hId]
            rw [← hId] at hAdvance
            exact h.challenges.wrong hRow hUnused hAttempts hAdvance
          | accepted row hRow hId hUnused hAttempts hCompared hResult hAdvance hUsed =>
            obtain ⟨l, hOk⟩ := hResult
            simp only [hCompared, hOk, if_true, ← hId]
            rw [← hId] at hUsed
            exact h.challenges.accept hRow hUnused hAttempts hAdvance hUsed
        · next request hRequest =>
          exact ⟨h.challenges.refused (TwoStepDatabase.issue_advances request now draws),
            hPut i client _ hGet rfl⟩
      · exact h
  | changeUsers users => exact ⟨h.challenges, h.users⟩
  | closeChallenges p => exact ⟨h.challenges.refused (.expire _ p now), h.users⟩

/-- **Single-use and attempt-bounded.** On every run whose probes are current, a challenge
is accepted at most once, and at most `otp_max_attempts` codes are compared with it. -/
theorem single_use_and_attempt_bounded (settings : TwoStepSettings) (users : Table User)
    (as : List TimedTwoStepAction)
    (hMeets : Meets (step settings) (fun s timed => s.probesCurrent timed = true) (init users) as) :
    let s := run (step settings) (init users) as
    ∀ challengeId, s.accepted.count challengeId ≤ 1 ∧
      (s.compared.count challengeId : Int) ≤ settings.otpMaxAttempts := by
  intro s challengeId
  have hInv : s.Invariant settings :=
    run_invariant_of_meets (I := Invariant settings) (fun _ _ hs ha => step_invariant hs ha)
      (invariant_init users) hMeets
  exact ⟨hInv.challenges.once challengeId, hInv.challenges.bounded challengeId⟩

end TwoStepState

-- ---------------------------------------------------------------------------
-- Stale probes
-- ---------------------------------------------------------------------------

namespace Sample

/-- Codes are stored as they are. -/
def twoStepSettings : TwoStepSettings where
  otpMaxAttempts := 5
  otpMaxAttempts_pos := TwoStepSettings.default_otpMaxAttempts_pos
  otpResendCooldownSeconds := 60
  emailTwoStepExpireMinutes := 10
  verifyOtp rawOtp otpHash := rawOtp == otpHash
  verifyPassword password passwordHash := password == passwordHash
  lower := id

/-- An account with the second step. -/
def twoStepUsers : Table User :=
  .single
    { id := 1, email := str "a@b.c", passwordHash := str "password", isVerified := true,
      emailTwoStepEnabled := true, emailTwoStepEnabledAt := some 0 } (by decide)

def draws : TwoStepDatabase.IssueDraws := ⟨1, str "123456", seconds 1⟩

def twoStepAt (second : Int) (action : TwoStepAction) : TimedTwoStepAction :=
  ⟨seconds second, action⟩

def submitted (code : Str) : TwoStepRequest := .verification (.consumeLogin 1 code)

/-- A sign-in that issues challenge 1. -/
def signIn : List TimedTwoStepAction :=
  [twoStepAt 1 (.arrive (.issue (.login (str "a@b.c") (str "password") false))),
    twoStepAt 1 (.transact 0 draws)]

/-- The requests that submit `codes` all probe the challenge before the first one takes the
user's lock. -/
def concurrently (codes : List Str) : List TimedTwoStepAction :=
  signIn ++ codes.map (fun code => twoStepAt 2 (.arrive (submitted code))) ++
    (List.range codes.length).map (fun i => twoStepAt 3 (.probe (i + 1))) ++
    (List.range codes.length).map (fun i => twoStepAt 4 (.transact (i + 1) draws))

/-- The requests that submit `codes` come one after the other. -/
def oneByOne (codes : List Str) : List TimedTwoStepAction :=
  signIn ++ codes.zipIdx.flatMap fun (code, i) =>
    [twoStepAt 2 (.arrive (submitted code)), twoStepAt 3 (.probe (i + 1)),
      twoStepAt 4 (.transact (i + 1) draws)]

end Sample

namespace TwoStepState

/-- **Accepted twice**, by two requests with the right code; and six wrong codes compared,
where five are allowed. -/
theorem accepted_twice_and_unbounded :
    (run (step Sample.twoStepSettings) (init Sample.twoStepUsers)
      (Sample.concurrently [str "123456", str "123456"])).accepted.count 1 = 2 ∧
    ((run (step Sample.twoStepSettings) (init Sample.twoStepUsers)
      (Sample.concurrently (List.replicate 6 (str "000000")))).compared.count 1 : Int) >
        Sample.twoStepSettings.otpMaxAttempts := by
  decide

/-- Four wrong codes and then the right one, twice. -/
theorem single_use_one_by_one :
    let codes := List.replicate 4 (str "000000") ++ [str "123456", str "123456"]
    let s := run (step Sample.twoStepSettings) (init Sample.twoStepUsers) (Sample.oneByOne codes)
    ∀ challengeId, s.accepted.count challengeId ≤ 1 ∧
      (s.compared.count challengeId : Int) ≤ Sample.twoStepSettings.otpMaxAttempts :=
  single_use_and_attempt_bounded Sample.twoStepSettings Sample.twoStepUsers (Sample.oneByOne _)
    (by decide)

end TwoStepState

end SpikeBackend
