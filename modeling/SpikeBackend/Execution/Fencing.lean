import SpikeBackend.Execution.Leaks

/-!
# Lease fencing

A claim takes the lease of its message, and a later claim replaces its token. Both are
compared on the instance the session holds, which the locked read does not refresh; so a
message is fenced as long as that instance refuses what the committed row refuses.

* `lease_fencing` — on every run whose locked reads are current;
* `fenced_of_populateExisting` — on every run, if the locked reads refresh the instance;
* `fencing_violated` — two executions call the provider under one lease, and the one that
  was replaced completes the message.
-/

namespace SpikeBackend

open Relational Text Outcome Session Machine

/-- The processing token of an execution that has claimed its message. -/
def ExecutionPhase.token? : ExecutionPhase → Option Uuid
  | .claimed _ t .. | .generated _ t _ | .failing _ t _ => some t
  | .submitted | .denied _ | .released | .reserved _ | .unclaimed _ | .ended _ => none

/-- A lease that is active is active at every earlier instant. -/
theorem AIMessage.leaseActive_anti {m : AIMessage} {t t' : Datetime} (hle : t ≤ t')
    (h : m.leaseActive t' = true) : m.leaseActive t = true := by
  simp only [leaseActive, Bool.and_eq_true, Option.any_eq_true, decide_eq_true_eq] at h ⊢
  obtain ⟨hToken, expires, hExpires, hlt⟩ := h
  exact ⟨hToken, expires, hExpires, Int.lt_of_le_of_lt hle hlt⟩

namespace Execution

variable {config : ExecutionConfig} {s : ExecutionState} {e : Execution}

/-- What the session's instance refuses under the lock, where the committed row refuses it:
a claim under a lease, and a write under another token. -/
def lockCurrent (config : ExecutionConfig) (e : Execution) (step : ExecutionStep)
    (row : AIMessage) : Bool :=
  match step, e.phase with
  | .claim _, .reserved _ =>
    !row.leaseActive e.checkedAt || (locked (e.held config) row).leaseActive e.checkedAt
  | .complete _, .generated _ token _ | .fail, .failing _ token _ =>
    (locked (e.held config) row).processingToken != some token ||
      row.processingToken == some token
  | _, _ => true

/-- Under the condition a claim sees the lease of the row itself. -/
theorem lockCurrent_claim {reservation : AICreditLedgerSnapshot} {token : Uuid}
    {row : AIMessage} (hPhase : e.phase = .reserved reservation)
    (h : e.lockCurrent config (.claim token) row = true)
    (hLease : (locked (e.held config) row).leaseActive e.checkedAt = false) :
    row.leaseActive e.checkedAt = false := by
  simpa [lockCurrent, hPhase, hLease] using h

/-- Under the condition a completion compares its token with the row's. -/
theorem lockCurrent_complete {reservation : AICreditLedgerSnapshot} {token assistantId : Uuid}
    {generation : GeminiGeneration} {row : AIMessage}
    (hPhase : e.phase = .generated reservation token generation)
    (h : e.lockCurrent config (.complete assistantId) row = true)
    (hToken : (locked (e.held config) row).processingToken = some token) :
    row.processingToken = some token := by
  simpa [lockCurrent, hPhase, hToken] using h

/-- Under the condition a failure compares its token with the row's. -/
theorem lockCurrent_fail {reservation : AICreditLedgerSnapshot} {token : Uuid}
    {code : AIExecutionErrorCode} {row : AIMessage}
    (hPhase : e.phase = .failing reservation token code)
    (h : e.lockCurrent config .fail row = true)
    (hToken : (locked (e.held config) row).processingToken = some token) :
    row.processingToken = some token := by
  simpa [lockCurrent, hPhase, hToken] using h

/-- A refreshed read answers with the committed row. -/
theorem lockCurrent_of_populateExisting (h : config.populateExisting = true)
    (step : ExecutionStep) (row : AIMessage) : e.lockCurrent config step row = true := by
  have hHeld : e.held config = none := if_pos h
  unfold lockCurrent
  split
  · simp [hHeld]
  · rw [hHeld]
    exact Bool.not_or_self _
  · rw [hHeld]
    exact Bool.not_or_self _
  · rfl

-- ---------------------------------------------------------------------------
-- The steps
-- ---------------------------------------------------------------------------

/-- A token that was replaced is not that of the committed row. -/
theorem token_ne_of_replaced {db : AiDatabase} {claims : List (Uuid × Uuid)}
    (hTokens : TokensKnown db claims) {row : AIMessage}
    (hRow : db.messageById e.request.businessId e.messageId = some row) {token : Uuid}
    (hReplaced : newestClaim claims e.messageId ≠ some token) :
    row.processingToken ≠ some token := by
  obtain ⟨hMem, -, hId⟩ := AiDatabase.messageById_eq_some hRow
  intro hToken
  exact hReplaced (hId ▸ hTokens row hMem token hToken)

/-- A claim that takes the message found no lease that is active at the claim's clock. -/
theorem claimStep_leaseFree {db : AiDatabase} {reservation : AICreditLedgerSnapshot}
    {token : Uuid} (hPhase : e.phase = .reserved reservation) {now : Datetime}
    (hNow : e.checkedAt ≤ now)
    (hCurrent : ∀ row, db.messageById e.request.businessId e.messageId = some row →
      e.lockCurrent config (.claim token) row = true)
    (hClaimed : (e.claimStep config db reservation token).2.phase.token?.isSome) :
    ∀ row, db.messageById e.request.businessId e.messageId = some row →
      row.leaseActive now = false := by
  intro row hRow
  unfold claimStep at hClaimed
  split at hClaimed
  · simp [ExecutionPhase.token?] at hClaimed
  · simp [ExecutionPhase.token?] at hClaimed
  · next db' message claim h =>
    obtain ⟨row', hRow', hClaims⟩ := AiDatabase.claim_eq_ok h
    obtain rfl := Option.some.inj (hRow.symm.trans hRow')
    cases hClaims with
    | completed hStatus hSame hMessage hClaim =>
      simp [hClaim, ExecutionPhase.token?] at hClaimed
    | inProgress hStatus hReserved hLease hSame hMessage hClaim =>
      simp [hClaim.1, hClaim.2, ExecutionPhase.token?] at hClaimed
    | claimed hStatus hReserved hCredit hLease hMessage hMessages hRest hClaim =>
      -- The lease was free at the time the request checks with, and is free later.
      have hRowLease := lockCurrent_claim hPhase (hCurrent row hRow) hLease
      cases hActive : row.leaseActive now with
      | false => rfl
      | true => simp [AIMessage.leaseActive_anti hNow hActive] at hRowLease

/-- A completion after another claim writes nothing. -/
theorem completeStep_replaced {db : AiDatabase} {claims : List (Uuid × Uuid)}
    (hTokens : TokensKnown db claims) {reservation : AICreditLedgerSnapshot} {token : Uuid}
    {generation : GeminiGeneration} (hPhase : e.phase = .generated reservation token generation)
    {assistantId : Uuid} (hCurrent : ∀ row,
      db.messageById e.request.businessId e.messageId = some row →
        e.lockCurrent config (.complete assistantId) row = true)
    (hReplaced : newestClaim claims e.messageId ≠ some token) (now : Datetime) :
    (e.completeStep config db reservation token generation now assistantId).1 = db := by
  unfold completeStep
  split
  · next db' message result h =>
    obtain ⟨row, hRow, ⟨rfl, -⟩ | hCompletes⟩ := AiDatabase.completeClaim_eq_ok h
    · rfl
    · obtain ⟨entry, account, updated, hStatus, hToken, -⟩ := hCompletes
      -- The row carries the newer token.
      exact absurd (lockCurrent_complete hPhase (hCurrent row hRow) hToken)
        (token_ne_of_replaced hTokens hRow hReplaced)
  · rfl
  · rfl

/-- A failure after another claim writes nothing. -/
theorem failStep_replaced {db : AiDatabase} {claims : List (Uuid × Uuid)}
    (hTokens : TokensKnown db claims) {reservation : AICreditLedgerSnapshot} {token : Uuid}
    {code : AIExecutionErrorCode} (hPhase : e.phase = .failing reservation token code)
    (hCurrent : ∀ row, db.messageById e.request.businessId e.messageId = some row →
      e.lockCurrent config .fail row = true)
    (hReplaced : newestClaim claims e.messageId ≠ some token) (now : Datetime) :
    (e.failStep config db reservation token code now).1 = db := by
  unfold failStep
  split
  · next db' message done h =>
    obtain ⟨row, hRow, ⟨rfl, -⟩ | ⟨-, hFails⟩⟩ := AiDatabase.failClaim_eq_ok h
    · rfl
    · obtain ⟨entry, account, hStatus, hToken, -⟩ := hFails
      exact absurd (lockCurrent_fail hPhase (hCurrent row hRow) hToken)
        (token_ne_of_replaced hTokens hRow hReplaced)
  · rfl

/-- **A replaced execution** changes nothing any more. -/
theorem advance_replaced {db db' : AiDatabase} {e' : Execution} {claims : List (Uuid × Uuid)}
    (hTokens : TokensKnown db claims) {step : ExecutionStep} {now : Datetime}
    (hCurrent : ∀ row, db.messageById e.request.businessId e.messageId = some row →
      e.lockCurrent config step row = true)
    {token : Uuid} (hToken : e.phase.token? = some token)
    (hReplaced : newestClaim claims e.messageId ≠ some token)
    (h : e.advance config db step now = some (db', e')) : db' = db := by
  unfold advance at h
  split at h
  case h_3 outcome reservation t conversation prompt hPhase =>
    -- The call of the provider writes nothing in any case.
    exact (congrArg Prod.fst (Option.some.inj h)).symm
  case h_4 assistantId reservation t generation hPhase =>
    rw [hPhase] at hToken
    obtain rfl := Option.some.inj hToken
    have hDb := congrArg Prod.fst (Option.some.inj h)
    exact hDb.symm.trans (completeStep_replaced hTokens hPhase hCurrent hReplaced now)
  case h_5 reservation t code hPhase =>
    rw [hPhase] at hToken
    obtain rfl := Option.some.inj hToken
    have hDb := congrArg Prod.fst (Option.some.inj h)
    exact hDb.symm.trans (failStep_replaced hTokens hPhase hCurrent hReplaced now)
  case h_9 => simp at h
  all_goals
    next hPhase => simp [hPhase, ExecutionPhase.token?] at hToken

end Execution

-- ---------------------------------------------------------------------------
-- Runs
-- ---------------------------------------------------------------------------

namespace ExecutionState

variable {config : ExecutionConfig} {s : ExecutionState}

/-- **Fencing of an action.** A step that claims its message finds no unexpired lease, and
a step of an execution whose token was replaced leaves the database as it was. -/
def Fenced (config : ExecutionConfig) (s : ExecutionState) (timed : TimedAction) : Prop :=
  ∀ i executionStep, timed.action = .advance i executionStep →
    ∀ e, s.executions[i]? = some e →
      ((step config s timed).claims ≠ s.claims →
        ∀ row, s.db.messageById e.request.businessId e.messageId = some row →
          row.leaseActive timed.now = false) ∧
      ∀ token, e.phase.token? = some token →
        Execution.newestClaim s.claims e.messageId ≠ some token →
          (step config s timed).db = s.db

/-- The clock runs forward, and the locked read of the step is current. -/
def locksCurrent (config : ExecutionConfig) (s : ExecutionState) (timed : TimedAction) : Bool :=
  s.clockForward timed &&
    match timed.action with
    | .advance i executionStep =>
      (s.executions[i]?).all fun e =>
        (s.db.messageById e.request.businessId e.messageId).all fun row =>
          e.lockCurrent config executionStep row
    | _ => true

/-- Only a claim that goes through is recorded. -/
theorem recordClaim_ne {executionStep : ExecutionStep} {e : Execution}
    (h : s.recordClaim executionStep e ≠ s.claims) :
    ∃ token, executionStep = .claim token ∧ e.phase.token?.isSome := by
  unfold recordClaim at h
  split at h
  · next hPhase => exact ⟨_, rfl, by rw [hPhase]; rfl⟩
  · exact absurd rfl h

/-- **Step lemma.** A step whose locked read is current is fenced. -/
theorem step_fenced (hInv : s.Invariant config) (hStarted : s.Started) {timed : TimedAction}
    (hCurrent : s.locksCurrent config timed = true) : s.Fenced config timed := by
  rw [locksCurrent, Bool.and_eq_true] at hCurrent
  obtain ⟨hForward, hCurrent⟩ := hCurrent
  have hNow := clockForward_le hForward
  obtain ⟨now, action⟩ := timed
  rintro i executionStep rfl e hGet
  have hMem : e ∈ s.executions := List.mem_of_getElem? hGet
  -- The condition of the run, at the row the step locks.
  have hLock : ∀ row, s.db.messageById e.request.businessId e.messageId = some row →
      e.lockCurrent config executionStep row = true := by
    intro row hRow
    simpa [hGet, hRow] using hCurrent
  simp only [step, hGet]
  split
  · split
    · exact ⟨fun h => absurd rfl h, fun _ _ _ => rfl⟩
    · next db' e' hAdvance =>
      refine ⟨fun hClaims => ?_, fun token hToken hReplaced =>
        Execution.advance_replaced hInv.tokens hLock hToken hReplaced hAdvance⟩
      obtain ⟨token, rfl, hClaimed⟩ := recordClaim_ne hClaims
      unfold Execution.advance at hAdvance
      split at hAdvance
      case h_2 token reservation hStep hPhase =>
        cases hStep
        obtain ⟨rfl, rfl⟩ := Prod.mk.inj (Option.some.inj hAdvance)
        exact Execution.claimStep_leaseFree hPhase (Int.le_trans (hStarted e hMem) hNow) hLock
          hClaimed
      all_goals simp_all
  · exact ⟨fun h => absurd rfl h, fun _ _ _ => rfl⟩

/-- **Run lemma**, for any condition under which the locked reads are current. -/
private theorem meets_fenced {cond : ExecutionState → TimedAction → Prop}
    (hCond : ∀ (s : ExecutionState) timed, cond s timed → s.locksCurrent config timed = true)
    (tables : SubscriptionTables) (businesses : Table Business)
    (conversations : Table AIConversation) (clock : Datetime) {as : List TimedAction}
    (hMeets : Meets (step config) cond (init tables businesses conversations clock) as) :
    Meets (step config) (Fenced config) (init tables businesses conversations clock) as := by
  refine meets_of_meets (I := fun s => s.Invariant config ∧ s.Started) ?_ ?_
    ⟨invariant_init tables businesses conversations clock, by simp [Started, init]⟩ hMeets
  · rintro s a ⟨hInv, hStarted⟩ ha
    have hCurrent := hCond s a ha
    exact ⟨(step_invariant hInv a).1, step_started hStarted (Bool.and_eq_true _ _ ▸ hCurrent).1⟩
  · rintro s a ⟨hInv, hStarted⟩ ha
    exact step_fenced hInv hStarted (hCond s a ha)

/-- **Lease fencing.** On every run whose locked reads are current, no execution claims a
message under an unexpired lease, and an execution whose token was replaced by a later
claim changes nothing any more. -/
theorem lease_fencing (config : ExecutionConfig) (tables : SubscriptionTables)
    (businesses : Table Business) (conversations : Table AIConversation) (clock : Datetime)
    (as : List TimedAction)
    (hMeets : Meets (step config) (fun s timed => s.locksCurrent config timed = true)
      (init tables businesses conversations clock) as) :
    Meets (step config) (Fenced config) (init tables businesses conversations clock) as :=
  meets_fenced (fun _ _ h => h) tables businesses conversations clock hMeets

/-- **Refreshed reads.** If the locked reads refresh the instance, the clock is all that
fencing needs. -/
theorem fenced_of_populateExisting (h : config.populateExisting = true)
    (tables : SubscriptionTables) (businesses : Table Business)
    (conversations : Table AIConversation) (clock : Datetime) (as : List TimedAction)
    (hMeets : Meets (step config) (fun s timed => s.clockForward timed = true)
      (init tables businesses conversations clock) as) :
    Meets (step config) (Fenced config) (init tables businesses conversations clock) as := by
  refine meets_fenced (fun s timed hClock => ?_) tables businesses conversations clock hMeets
  rw [locksCurrent, hClock, Bool.true_and]
  split
  · simp [Execution.lockCurrent_of_populateExisting h]
  · rfl

end ExecutionState

-- ---------------------------------------------------------------------------
-- A message claimed twice
-- ---------------------------------------------------------------------------

namespace Sample

def generation : GeminiGeneration :=
  { text := str "They went well.", providerResponseId := none, modelVersion := str "gemini",
    finishReason := str "STOP", promptTokenCount := none, responseTokenCount := none,
    thoughtsTokenCount := none, totalTokenCount := none }

/-- Two requests with one key: both submit, then the first one claims the message. -/
def contestedRun : List TimedAction :=
  [at' 1 (.submit request (seconds 1) 1),
    at' 2 (.submit request (seconds 2) 2),
    at' 3 (.advance 0 (.reserve 1 1)),
    at' 4 (.advance 0 (.claim 7)),
    at' 5 (.advance 1 (.reserve 2 2))]

/-- The second one claims it too. -/
def secondClaim : TimedAction := at' 6 (.advance 1 (.claim 8))

def firstAnswer : TimedAction := at' 7 (.advance 0 (.provide (.ok generation)))

/-- The first one, replaced by now, completes it. -/
def firstCompletion : TimedAction := at' 8 (.advance 0 (.complete 3))

/-- A request that comes back after the lease of its first attempt takes over and completes;
the first attempt does some `late` steps. -/
def takeoverRun (late : List TimedAction) : List TimedAction :=
  [at' 1 (.submit request (seconds 1) 1),
    at' 2 (.advance 0 (.reserve 1 1)),
    at' 3 (.advance 0 (.claim 7)),
    at' 900 (.submit request (seconds 900) 2),
    at' 901 (.advance 1 (.reserve 2 2)),
    at' 902 (.advance 1 (.claim 8)),
    at' 903 (.advance 0 (.provide (.ok generation)))] ++ late ++
  [at' 905 (.advance 1 (.provide (.ok generation))),
    at' 906 (.advance 1 (.complete 4))]

/-- The first attempt completes, too late. -/
def lateCompletion : TimedAction := at' 904 (.advance 0 (.complete 3))

end Sample

namespace ExecutionState

/-- **Fencing violated**, on a forward clock: the second execution claims under the lease of
the first, and the first one then writes under the token that was replaced. -/
theorem fencing_violated :
    let config := Sample.config false
    let s := run (step config) Sample.start Sample.contestedRun
    let s' := run (step config) s [Sample.secondClaim, Sample.firstAnswer]
    Meets (step config) (fun s timed => s.clockForward timed = true) Sample.start
        (Sample.contestedRun ++ [Sample.secondClaim, Sample.firstAnswer, Sample.firstCompletion]) ∧
      ¬s.Fenced config Sample.secondClaim ∧ ¬s'.Fenced config Sample.firstCompletion := by
  -- The second claim takes a live lease, and the first completion writes after it.
  refine ⟨by decide, fun h => ?_, fun h => ?_⟩
  · have hClaim := (h 1 _ rfl _ rfl).1 (by decide) _ rfl
    revert hClaim
    decide
  · have hWrite := congrArg (·.messages.rows.length) ((h 0 _ rfl _ rfl).2 7 rfl (by decide))
    revert hWrite
    decide

/-- A failed provider call, and a takeover of an attempt of which nothing more is committed; and
a takeover of one that completes too late, where the locked reads refresh the instance. -/
theorem lease_fencing_takeover :
    Meets (step (Sample.config false)) (Fenced (Sample.config false)) Sample.start
        Sample.failingRun ∧
      Meets (step (Sample.config false)) (Fenced (Sample.config false)) Sample.start
        (Sample.takeoverRun []) ∧
      Meets (step (Sample.config true)) (Fenced (Sample.config true)) Sample.start
        (Sample.takeoverRun [Sample.lateCompletion]) :=
  ⟨lease_fencing _ _ _ _ _ Sample.failingRun (by decide),
    lease_fencing _ _ _ _ _ (Sample.takeoverRun []) (by decide),
    lease_fencing _ _ _ _ _ (Sample.takeoverRun [Sample.lateCompletion]) (by decide)⟩

end ExecutionState

end SpikeBackend
