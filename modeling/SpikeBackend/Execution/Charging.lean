import SpikeBackend.Execution.Invariant

/-!
# Charged if and only if answered

The steps of an execution that write its message, and from all the steps together: over
every run, in any interleaving, a user message is charged exactly when it is answered,
and exactly when it is completed.

* `claimStep_sound`, `markFailedStep_sound`, `failStep_sound`, `completeStep_sound`,
  `start_sound` — the step lemmas;
* `ExecutionState.Invariant`, `step_invariant`, `invariant_run` — the run lemma;
* `charged_iff_answered`.
-/

namespace SpikeBackend

open Relational Text Outcome Session Machine

namespace Execution

variable {config : ExecutionConfig} {db : AiDatabase} {claims : List (Uuid × Uuid)}
  {e : Execution}

-- ---------------------------------------------------------------------------
-- Claim
-- ---------------------------------------------------------------------------

/-- The row a claim writes: attached to the reservation, under the new token, and pending,
since no other row passes the checks with a token. -/
theorem claim_row {loaded : Option AIMessage} {row message : AIMessage} {db' : AiDatabase}
    {entryId token : Uuid} {lease now : Datetime}
    (hRow : row ∈ db.messages) (hRole : row.role = .user)
    (hEvolves : (locked loaded row).Evolves row)
    (hCredit : (locked loaded row).creditLedgerEntryId = none ∨
      (locked loaded row).creditLedgerEntryId = some entryId)
    (hToken : (locked loaded row).processingToken ≠ some token)
    (hMessage : message = (locked loaded row).claimFor entryId token lease now)
    (hMessages : db.messages.update? (message.flush (locked loaded row) row) =
      some db'.messages) :
    (message.flush (locked loaded row) row).status = .pending ∧ row.status = .pending ∧
      (message.flush (locked loaded row) row).processingToken = some token ∧
      (message.flush (locked loaded row) row).creditLedgerEntryId = some entryId := by
  generalize hc : locked loaded row = c at *
  subst hMessage
  have hWritten : ((c.claimFor entryId token lease now).flush c row).processingToken =
      some token := column_of_ne (Ne.symm hToken)
  have hSame : ((c.claimFor entryId token lease now).flush c row).status = row.status :=
    column_same _ _
  have hMem := Table.mem_update?_self hMessages hRow rfl
  have hPending := pending_of_token (Table.checks_of_mem hMem) hRole hWritten
  refine ⟨hPending, hSame.symm.trans hPending, hWritten, ?_⟩
  -- the entry is written now, or was the same before
  rcases hCredit with hNone | hSome
  · exact column_of_ne (by rw [hNone]; simp [AIMessage.claimFor])
  · have hColumn := column_cases c.creditLedgerEntryId (some entryId) row.creditLedgerEntryId
    rcases hColumn with h | ⟨-, h⟩
    · exact h
    · exact h.trans (hEvolves.credit entryId hSome)

/-- **A claim keeps the invariants.** -/
theorem claimStep_sound (hInv : e.Invariant config db claims) (hCharge : db.ChargeInvariant)
    (hTokens : TokensKnown db claims) {reservation : AICreditLedgerSnapshot}
    (hPhase : e.phase = .reserved reservation) {token : Uuid}
    (hFresh : ∀ claim ∈ claims, claim.2 ≠ token) {s : ExecutionState} (hs : s.claims = claims) :
    Sound config db claims (e.claimStep config db reservation token).1
      (s.recordClaim (.claim token) (e.claimStep config db reservation token).2)
      (e.claimStep config db reservation token).2 := by
  have hRunning : e.phase.hasEnded = false := by rw [hPhase]; rfl
  have hReservation : e.phase.reservation? = some reservation := by rw [hPhase]; rfl
  unfold claimStep
  split
  · simp only [ExecutionState.recordClaim, hs]
    refine .of_phase hInv hCharge hTokens (.inr rfl) (fun _ => hRunning) ?_ (fun _ => rfl)
    intro r hr
    rw [hReservation]
    exact hr
  · simp only [ExecutionState.recordClaim, hs]
    exact .of_phase hInv hCharge hTokens (.inr rfl) (by simp [ExecutionPhase.hasEnded])
      (by simp [ExecutionPhase.reservation?]) (fun _ => rfl)
  · next db' message claim h =>
    obtain ⟨row, hRow, hClaims⟩ := AiDatabase.claim_eq_ok h
    obtain ⟨hMem, hOwns⟩ := hInv.owns hRunning hRow
    have hEvolves := hInv.evolves hRow
    have hLocked := fun t => hInv.lockedToken hTokens hMem hOwns (t := t)
    -- a claim that writes nothing leaves the locked instance in the session
    have hEnded : ∀ outcome, Sound config db claims db claims
        { e with loaded := some (locked (e.held config) row), phase := .ended outcome } := fun _ =>
      ⟨.refl _, .of_eq rfl, fun _ h => h, hCharge, hTokens, .of_ended hMem hOwns hEvolves hLocked
        (hInv.lockedCredit hMem hOwns)⟩
    cases hClaims with
    | completed hStatus hSame hMessage hClaim =>
      subst hSame hMessage
      simp only [hClaim, ExecutionState.recordClaim, hs]
      exact hEnded _
    | inProgress hStatus hReserved hLease hSame hMessage hClaim =>
      subst hSame hMessage
      simp only [hClaim.1, hClaim.2, ExecutionState.recordClaim, hs]
      exact hEnded _
    | claimed hStatus hReserved hCredit hLease hMessage hMessages hRest hClaim =>
      obtain ⟨prompt, hPrompt⟩ := Option.isSome_iff_exists.mp hClaim.2.2
      simp only [hClaim.1, hClaim.2.1, hPrompt, ExecutionState.recordClaim, hs]
      obtain ⟨hPending', hPending, hToken', hCredit'⟩ := claim_row hMem hOwns.2.2.1 hEvolves
        hCredit (fun h => hFresh _ (hLocked token h) rfl) hMessage hMessages
      have hSame := AIMessage.flush_same message (locked (e.held config) row) row
      have hMessageSame : message.SameMessage row :=
        hMessage ▸ (AIMessage.claimFor_same ..).symm.trans hEvolves.same
      have hRowEvolves : row.Evolves (message.flush (locked (e.held config) row) row) := by
        refine ⟨hSame, fun x hx => ?_, fun h => absurd hPending h⟩
        rw [hCredit', hInv.credit_unique hCharge hMem hOwns hReservation hx]
      have hMessageId : message.id = e.messageId := hMessageSame.id.symm.trans hOwns.1
      obtain ⟨entry, hEntry, hEntryId, hEntryBusiness, hEntryDigest⟩ :=
        hInv.reservation reservation hReservation
      obtain ⟨digest, hDigest, hRowDigest⟩ := hOwns.2.2.2
      refine ⟨?_, messagesAdvance_update hMessages hMem hRowEvolves,
        List.subset_cons_self _ _, ?_, ?_, ?_, ?_, ?_, ?_, ?_, ?_⟩
      · rw [hRest]
        exact .refl _
      · refine hCharge.update hMessages (by rw [hRest]) hMem hSame hOwns.2.2.1 (by simp [hPending])
          (by simp [hPending']) ?_
        intro x hx
        rw [hCredit', Option.some.injEq] at hx
        refine ⟨entry, hEntry, hEntryId.trans hx, hEntryBusiness.trans hOwns.2.1.symm, ?_,
          by simp [hPending']⟩
        rw [hRowDigest]
        rw [hDigest, Except.ok.injEq] at hEntryDigest
        rw [hEntryDigest]
      · refine tokensKnown_update hTokens (fun m hne => ?_) hMessages hMem hSame.id ?_
        · rw [newestClaim_cons, if_neg fun h : e.messageId = m => hne (h.symm.trans hOwns.1.symm)]
        · intro t ht
          rw [hSame.id, hOwns.1, newestClaim_cons, if_pos rfl, ← hToken', ht]
      · intro _
        exact ⟨_, Table.mem_update?_self hMessages hMem rfl, hOwns.mono hSame⟩
      · intro c hc
        obtain rfl := Option.some.inj hc
        refine ⟨hMessageId, _, Table.mem_update?_self hMessages hMem rfl,
          hMessageSame.trans hSame, ?_, ?_⟩
        · intro x hx
          rw [hMessage] at hx
          rw [hCredit']
          exact hx
        · intro h
          rw [hMessage] at h
          exact absurd hStatus h
      · intro c hc t ht
        obtain rfl := Option.some.inj hc
        rw [hMessageId]
        rw [hMessage] at ht
        simp only [AIMessage.claimFor, Option.some.injEq] at ht
        exact ht ▸ List.mem_cons_self
      · intro c hc
        obtain rfl := Option.some.inj hc
        rw [hMessage]
        exact fun _ => rfl
      · intro r hr
        simp only [ExecutionPhase.reservation?, Option.some.injEq] at hr
        obtain ⟨entry', hEntry', hEntryId', hBusiness', hDigest'⟩ :=
          hInv.reservation r (hr ▸ hReservation)
        exact ⟨entry', by rw [hRest]; exact hEntry', hEntryId', hBusiness', hDigest'⟩
      · simp [ExecutionPhase.rolledBack]

-- ---------------------------------------------------------------------------
-- Failure
-- ---------------------------------------------------------------------------

theorem flush_fresh_markFailed (row : AIMessage) (code : AIExecutionErrorCode) (now : Datetime) :
    (row.markFailed code now).flush row row = row.markFailed code now := by
  simp [AIMessage.flush, AIMessage.markFailed]

/-- A message that is marked failed was not charged, and is not charged later. -/
theorem markFailedStep_sound (hInv : e.Invariant config db claims) (hCharge : db.ChargeInvariant)
    (hTokens : TokensKnown db claims)
    (hPhase : e.phase.rolledBack = true ∧ e.phase.hasEnded = false)
    (code : AIExecutionErrorCode) (now : Datetime) :
    Sound config db claims (e.markFailedStep config db code now).1 claims
      (e.markFailedStep config db code now).2 := by
  have hLoaded : e.held config = none := by
    unfold held
    split
    · rfl
    · exact hInv.rolledBack hPhase.1
  unfold markFailedStep
  split
  · next db' message h =>
    obtain ⟨row, hRow, hCase⟩ := AiDatabase.markPreReservationFailure_eq_ok h
    obtain ⟨hMem, hOwns⟩ := hInv.owns hPhase.2 hRow
    have hLocked := fun t => hInv.lockedToken hTokens hMem hOwns (t := t)
    rw [hLoaded, locked_none] at hCase hLocked
    -- the message is kept as it is if it is no longer pending or has its credit
    obtain ⟨rfl, rfl⟩ | ⟨hStatus, hCredit, rfl, hMessages, hRest⟩ := hCase
    · exact ⟨.refl _, .of_eq rfl, fun _ h => h, hCharge, hTokens,
        .of_ended hMem hOwns (.refl _) hLocked
          (creditFirst_of_checks (Table.checks_of_mem hMem) hOwns.2.2.1)⟩
    · rw [flush_fresh_markFailed] at hMessages
      have hSame := row.markFailed_same code now
      have hEvolves : row.Evolves (row.markFailed code now) :=
        ⟨hSame, fun x hx => hx, fun h => absurd hStatus h⟩
      have hNew := Table.mem_update?_self hMessages hMem rfl
      refine ⟨by rw [hRest]; exact .refl _, messagesAdvance_update hMessages hMem hEvolves,
        fun _ h => h, ?_, ?_, ?_⟩
      · refine hCharge.update hMessages (by rw [hRest]) hMem hSame hOwns.2.2.1 (by simp [hStatus])
          (by simp [AIMessage.markFailed]) ?_
        intro x hx
        simp [AIMessage.markFailed, hCredit] at hx
      · exact tokensKnown_update hTokens (fun _ _ => rfl) hMessages hMem hSame.id
          (by simp [AIMessage.markFailed])
      · exact .of_ended hNew (hOwns.mono hSame) (.refl _) (by simp [AIMessage.markFailed])
          (by simp [AIMessage.CreditFirst, AIMessage.markFailed])
  · exact .of_phase hInv hCharge hTokens (.inr rfl) (by simp [ExecutionPhase.hasEnded])
      (by simp [ExecutionPhase.reservation?]) (fun _ => rfl)

/-- The row a failed claim writes. -/
theorem fail_row {c row : AIMessage} {entryId : Uuid} (code : AIExecutionErrorCode)
    (now : Datetime) (hEvolves : c.Evolves row) (hStatus : c.status = .pending)
    (hCredit : c.creditLedgerEntryId = some entryId) {t : Uuid}
    (hToken : c.processingToken = some t) :
    ((c.markFailed code now).flush c row).status = .failed ∧
      ((c.markFailed code now).flush c row).processingToken = none ∧
      ((c.markFailed code now).flush c row).creditLedgerEntryId = some entryId :=
  ⟨column_of_ne (by simp [AIMessage.markFailed, hStatus]),
    column_of_ne (by simp [AIMessage.markFailed, hToken]),
    (column_same _ _).trans (hEvolves.credit entryId hCredit)⟩

/-- **A failure keeps the invariants.** -/
theorem failStep_sound (hInv : e.Invariant config db claims) (hCharge : db.ChargeInvariant)
    (hTokens : TokensKnown db claims) {reservation : AICreditLedgerSnapshot} {token : Uuid}
    {code : AIExecutionErrorCode} (hPhase : e.phase = .failing reservation token code)
    (now : Datetime) :
    Sound config db claims (e.failStep config db reservation token code now).1 claims
      (e.failStep config db reservation token code now).2 := by
  have hRunning : e.phase.hasEnded = false := by rw [hPhase]; rfl
  unfold failStep
  split
  · next db' message done h =>
    obtain ⟨row, hRow, hCase⟩ := AiDatabase.failClaim_eq_ok h
    obtain ⟨hMem, hOwns⟩ := hInv.owns hRunning hRow
    have hEvolves := hInv.evolves hRow
    obtain ⟨rfl, rfl, -⟩ | ⟨-, hFails⟩ := hCase
    · exact ⟨.refl _, .of_eq rfl, fun _ h => h, hCharge, hTokens,
        .of_ended hMem hOwns hEvolves (fun t => hInv.lockedToken hTokens hMem hOwns)
          (hInv.lockedCredit hMem hOwns)⟩
    · have hMove := hFails.move
      obtain ⟨entry, account, hStatus, hToken, hCredit, hEntry, -, hLedgerCase, rfl, hMessages,
        hRest⟩ := hFails
      obtain ⟨hEntryMem, hEntryBusiness, hEntryId⟩ := CreditTables.entryById_eq_some hEntry
      generalize hc : locked (e.held config) row = c at *
      obtain ⟨hFailed, hNoToken, hCredit'⟩ := fail_row code now hEvolves hStatus hCredit
        hToken
      have hRowCredit := hEvolves.credit _ hCredit
      -- a completed message was charged, but its entry is reserved or released
      have hRowStatus : row.status ≠ .completed := by
        intro hCompleted
        obtain ⟨charged, hChargedMem, hChargedId, hConsumed⟩ :=
          hCharge.charged row hMem hOwns.2.2.1 hCompleted
        rw [hRowCredit, Option.some.injEq] at hChargedId
        obtain rfl := Table.eq_of_key_eq hChargedMem hEntryMem
          (hChargedId.symm.trans hEntryId.symm)
        rcases hLedgerCase with ⟨h, -, -⟩ | ⟨h, -, -⟩ <;> simp [hConsumed] at h
      have hSame := AIMessage.flush_same (c.markFailed code now) c row
      have hRowEvolves : row.Evolves ((c.markFailed code now).flush c row) := by
        refine ⟨hSame, fun x hx => ?_, fun hne => ?_⟩
        · rw [hCredit', ← hRowCredit, hx]
        · rw [hFailed]
          cases hs : row.status with
          | pending => exact absurd hs hne
          | completed => exact absurd hs hRowStatus
          | failed => rfl
      -- the entry after the step: released, under the same key
      obtain ⟨entry', hEntry', hOrigin, hReleased⟩ : ∃ entry' ∈ db'.ledger,
          entry.SameOrigin entry' ∧ entry'.status = .released := by
        rcases hLedgerCase with ⟨hReleased, -, hLedgerEq⟩ | ⟨-, -, hUpdate⟩
        · exact ⟨entry, hLedgerEq ▸ hEntryMem, ⟨rfl, rfl, rfl, rfl, rfl, rfl⟩, hReleased⟩
        · exact ⟨_, Table.mem_update?_self hUpdate hEntryMem rfl,
            entry.sameOrigin_markReleased _ _, rfl⟩
      have hNoCharge : AiDatabase.NoCharge db.toCreditTables db'.toCreditTables := by
        rcases hLedgerCase with ⟨-, -, hLedgerEq⟩ | ⟨-, -, hUpdate⟩
        · exact .of_eq hLedgerEq
        · exact .of_update hUpdate (by simp [AICreditLedgerEntry.markReleased])
      obtain ⟨attached, hAttached, hAttachedId, hAttachedBusiness, hAttachedDigest⟩ :=
        hCharge.attached row hMem hOwns.2.2.1 _ hRowCredit
      obtain rfl := Table.eq_of_key_eq hAttached hEntryMem (hAttachedId.trans hEntryId.symm)
      -- first the ledger moves, then the message is rewritten
      have hCharge₁ : AiDatabase.ChargeInvariant { db with toCreditTables := db'.toCreditTables } :=
        hCharge.ledger rfl hMove.advances hNoCharge
      have hNew := Table.mem_update?_self hMessages hMem rfl
      refine ⟨hMove, messagesAdvance_update hMessages hMem hRowEvolves, fun _ h => h, ?_, ?_, ?_⟩
      · refine hCharge₁.update hMessages rfl hMem hSame hOwns.2.2.1 hRowStatus
          (by simp [hFailed]) ?_
        intro x hx
        rw [hCredit', Option.some.injEq] at hx
        exact ⟨entry', hEntry', hOrigin.1.trans (hEntryId.trans hx),
          hOrigin.2.1.trans hAttachedBusiness, by rw [hAttachedDigest, hOrigin.2.2.2.2.1],
          fun _ => hReleased⟩
      · exact tokensKnown_update hTokens (fun _ _ => rfl) hMessages hMem hSame.id
          (by simp [hNoToken])
      · refine .of_ended hNew (hOwns.mono hSame) ⟨?_, ?_, ?_⟩ (by simp [AIMessage.markFailed])
          (by simp [AIMessage.CreditFirst, AIMessage.markFailed])
        · exact (c.markFailed_same code now).symm.trans (hEvolves.same.trans hSame)
        · intro x hx
          rw [hCredit', ← hCredit]
          exact hx
        · exact fun _ => hFailed
  · exact .of_phase hInv hCharge hTokens (.inr rfl) (by simp [ExecutionPhase.hasEnded])
      (by simp [ExecutionPhase.reservation?]) (fun _ => rfl)

-- ---------------------------------------------------------------------------
-- Completion
-- ---------------------------------------------------------------------------

/-- The row a completed claim writes. -/
theorem complete_row {c row : AIMessage} {entryId : Uuid} (now : Datetime)
    (hEvolves : c.Evolves row) (hStatus : c.status = .pending)
    (hCredit : c.creditLedgerEntryId = some entryId) {t : Uuid}
    (hToken : c.processingToken = some t) :
    ((c.markCompleted now).flush c row).status = .completed ∧
      ((c.markCompleted now).flush c row).processingToken = none ∧
      ((c.markCompleted now).flush c row).creditLedgerEntryId = some entryId :=
  ⟨column_of_ne (by simp [AIMessage.markCompleted, hStatus]),
    column_of_ne (by simp [AIMessage.markCompleted, hToken]),
    (column_same _ _).trans (hEvolves.credit entryId hCredit)⟩

/-- **A completion keeps the invariants.** -/
theorem completeStep_sound (hInv : e.Invariant config db claims) (hCharge : db.ChargeInvariant)
    (hTokens : TokensKnown db claims) {reservation : AICreditLedgerSnapshot} {token : Uuid}
    {generation : GeminiGeneration} (hPhase : e.phase = .generated reservation token generation)
    (now : Datetime) (assistantId : Uuid) :
    Sound config db claims (e.completeStep config db reservation token generation now assistantId).1 claims
      (e.completeStep config db reservation token generation now assistantId).2 := by
  have hRunning : e.phase.hasEnded = false := by rw [hPhase]; rfl
  have hReservation : e.phase.reservation? = some reservation := by rw [hPhase]; rfl
  unfold completeStep
  split
  · next db' message result h =>
    obtain ⟨row, hRow, hCase⟩ := AiDatabase.completeClaim_eq_ok h
    obtain ⟨hMem, hOwns⟩ := hInv.owns hRunning hRow
    have hEvolves := hInv.evolves hRow
    obtain ⟨rfl, rfl⟩ | hCompletes := hCase
    · exact ⟨.refl _, .of_eq rfl, fun _ h => h, hCharge, hTokens,
        .of_ended hMem hOwns hEvolves (fun t => hInv.lockedToken hTokens hMem hOwns)
          (hInv.lockedCredit hMem hOwns)⟩
    · have hMove := hCompletes.move
      obtain ⟨entry, account, updated, hStatus, hToken, hCredit, hEntry, -, hReserved, rfl,
        hUpdated, hAssistant, -, hLedgerUpdate, hRest⟩ := hCompletes
      obtain ⟨hEntryMem, hEntryBusiness, hEntryId⟩ := CreditTables.entryById_eq_some hEntry
      generalize hc : locked (e.held config) row = c at *
      obtain ⟨hCompleted, hNoToken, hCredit'⟩ := complete_row now hEvolves hStatus hCredit
        hToken
      have hRowCredit := hEvolves.credit _ hCredit
      -- the entry is reserved, so the message is neither completed nor failed
      have hRowStatus : row.status = .pending := by
        cases hs : row.status with
        | pending => rfl
        | completed =>
          obtain ⟨charged, hChargedMem, hChargedId, hConsumed⟩ :=
            hCharge.charged row hMem hOwns.2.2.1 hs
          rw [hRowCredit, Option.some.injEq] at hChargedId
          obtain rfl := Table.eq_of_key_eq hChargedMem hEntryMem
            (hChargedId.symm.trans hEntryId.symm)
          simp [hConsumed] at hReserved
        | failed =>
          obtain ⟨released, hReleasedMem, hReleasedId, hReleased⟩ :=
            hCharge.failed row hMem hOwns.2.2.1 hs _ hRowCredit
          obtain rfl := Table.eq_of_key_eq hReleasedMem hEntryMem
            (hReleasedId.trans hEntryId.symm)
          simp [hReleased] at hReserved
      have hSame := AIMessage.flush_same (c.markCompleted now) c row
      have hRowEvolves : row.Evolves ((c.markCompleted now).flush c row) :=
        ⟨hSame, fun x hx => by rw [hCredit', ← hRowCredit, hx], fun hne => absurd hRowStatus hne⟩
      have hKept : ∀ x ∈ updated, x ∈ db'.messages := fun x hx =>
        (Table.mem_insert? hAssistant).mpr (.inr hx)
      have hNew := hKept _ (Table.mem_update?_self hUpdated hMem rfl)
      -- the database between the update of the message and the insert of the reply
      have hBetween : db.messages.update? ((c.markCompleted now).flush c row) =
          some ({ db with messages := updated } : AiDatabase).messages := hUpdated
      refine ⟨hMove, ?_, fun _ h => h, ?_, ?_, ?_⟩
      · intro m hm
        obtain ⟨m', hm', hEvolves'⟩ := messagesAdvance_update hBetween hMem hRowEvolves m hm
        exact ⟨m', hKept m' hm', hEvolves'⟩
      · exact hCharge.complete hUpdated hAssistant hLedgerUpdate hMem hSame hOwns.2.2.1
          (by simp [hRowStatus]) hCompleted hEntryMem (entry.sameOrigin_markConsumed now)
          hReserved rfl (hRowCredit.trans (by rw [hEntryId])) (hCredit'.trans (by rw [hEntryId]))
          ⟨rfl, hOwns.2.1.symm, hEvolves.same.conversation.symm, by rw [hEvolves.same.id]; rfl⟩
      · intro m hm t ht
        rcases (Table.mem_insert? hAssistant).mp hm with rfl | hm
        · simp [AiDatabase.assistantMessage] at ht
        · exact tokensKnown_update hTokens (fun _ _ => rfl) hBetween hMem hSame.id
            (by simp [hNoToken]) m hm t ht
      · refine .of_ended hNew (hOwns.mono hSame) ⟨?_, ?_, ?_⟩ (by simp [AIMessage.markCompleted])
          (by simp [AIMessage.CreditFirst, AIMessage.markCompleted])
        · exact (c.markCompleted_same now).symm.trans (hEvolves.same.trans hSame)
        · intro x hx
          rw [hCredit', ← hCredit]
          exact hx
        · exact fun _ => hCompleted
  · refine .of_phase hInv hCharge hTokens (.inr rfl) (fun _ => hRunning) ?_ (fun _ => rfl)
    intro r hr
    rw [hReservation]
    exact hr
  · exact .of_phase hInv hCharge hTokens (.inr rfl) (by simp [ExecutionPhase.hasEnded])
      (by simp [ExecutionPhase.reservation?]) (fun _ => rfl)

-- ---------------------------------------------------------------------------
-- Submission
-- ---------------------------------------------------------------------------

/-- **A submission keeps the invariants.** -/
theorem start_sound (hCharge : db.ChargeInvariant) (hTokens : TokensKnown db claims)
    (request : MessageRequest) (checkedAt : Datetime) (messageId : Uuid) :
    Sound config db claims (start config db request checkedAt messageId).1 claims
      (start config db request checkedAt messageId).2 := by
  unfold start
  split
  · exact ⟨.refl _, .of_eq rfl, fun _ h => h, hCharge, hTokens,
      ⟨by simp [ExecutionPhase.hasEnded], by simp, by simp, by simp,
        by simp [ExecutionPhase.reservation?], by simp⟩⟩
  · next db' submission h =>
    obtain ⟨digest, hDigest, hCase⟩ := AiDatabase.submitUserMessage_eq_ok h
    -- whether it was replayed or inserted, the message is in the database
    have hExecution : ∀ phase : ExecutionPhase, phase.reservation? = none →
        phase.rolledBack = false → submission.userMessage ∈ db'.messages →
        TokensKnown db' claims → submission.userMessage.businessId = request.businessId →
        submission.userMessage.role = .user →
        submission.userMessage.idempotencyKeyDigest = some digest →
        Invariant config db' claims ⟨request, checkedAt, submission.userMessage.id,
          submission.replayed, some submission.userMessage, phase⟩ := by
      intro phase hNone hBack hMem hTokens' hBusiness hRole hKey
      refine ⟨fun _ => ⟨_, hMem, rfl, hBusiness, hRole, digest, hDigest, hKey⟩, ?_, ?_, ?_, ?_, ?_⟩
      · intro c hc
        obtain rfl := Option.some.inj hc
        exact ⟨rfl, _, hMem, .refl _⟩
      · intro c hc t ht
        obtain rfl := Option.some.inj hc
        exact mem_of_newestClaim (hTokens' _ hMem t ht)
      · intro c hc
        obtain rfl := Option.some.inj hc
        exact creditFirst_of_checks (Table.checks_of_mem hMem) hRole
      · simp [hNone]
      · simp [hBack]
    obtain ⟨rfl, hReplayed, hRole, hFound⟩ | ⟨hReplayed, content, conversationId, hMessage,
      hInsert, hRest⟩ := hCase
    · obtain ⟨hMem, hBusiness, hKey⟩ := AiDatabase.messageByDigest_eq_some hFound
      refine ⟨.refl _, .of_eq rfl, fun _ h => h, hCharge, hTokens, hExecution _ ?_ ?_ hMem hTokens
        hBusiness hRole hKey⟩
      all_goals split <;> rfl
    · have hMem := (Table.mem_insert? hInsert).mpr (.inl rfl)
      have hLedger : db'.toCreditTables = db.toCreditTables := by rw [hRest]
      have hTokens' : TokensKnown db' claims := by
        intro m hm t ht
        rcases (Table.mem_insert? hInsert).mp hm with rfl | hm
        · simp [hMessage, AiDatabase.submittedMessage] at ht
        · exact hTokens m hm t ht
      refine ⟨by rw [hLedger]; exact .refl _,
        fun m hm => ⟨m, (Table.mem_insert? hInsert).mpr (.inr hm), .refl m⟩, fun _ h => h,
        hCharge.insert hInsert (by rw [hRest]) (by rw [hMessage]; rfl) (by rw [hMessage]; rfl)
          (by rw [hMessage]; rfl), hTokens', hExecution _ ?_ ?_ hMem hTokens'
        (by rw [hMessage]; rfl) (by rw [hMessage]; rfl) (by rw [hMessage]; rfl)⟩
      all_goals split <;> rfl

-- ---------------------------------------------------------------------------
-- Any step
-- ---------------------------------------------------------------------------

/-- **Step lemma.** Every step of an execution is sound. -/
theorem advance_sound {s : ExecutionState} {step : ExecutionStep} {now : Datetime}
    {db' : AiDatabase} {e' : Execution} (hInv : e.Invariant config s.db s.claims)
    (hCharge : s.db.ChargeInvariant) (hTokens : TokensKnown s.db s.claims)
    (hFresh : s.fresh step = true) (h : e.advance config s.db step now = some (db', e')) :
    Sound config s.db s.claims db' (s.recordClaim step e') e' := by
  unfold advance at h
  split at h
  case h_1 accountId entryId hPhase =>
    obtain ⟨rfl, rfl⟩ := Prod.mk.inj (Option.some.inj h)
    exact reserveStep_sound hInv hCharge hTokens hPhase accountId entryId
  case h_2 token reservation hPhase =>
    obtain ⟨rfl, rfl⟩ := Prod.mk.inj (Option.some.inj h)
    refine claimStep_sound hInv hCharge hTokens hPhase ?_ rfl
    -- the token of a new claim has not been drawn before
    intro claim hClaim
    simpa using List.all_eq_true.mp hFresh claim hClaim
  case h_3 outcome reservation token conversation prompt hPhase =>
    obtain ⟨rfl, rfl⟩ := Prod.mk.inj (Option.some.inj h)
    exact provideStep_sound hInv hCharge hTokens hPhase outcome
  case h_4 assistantId reservation token generation hPhase =>
    obtain ⟨rfl, rfl⟩ := Prod.mk.inj (Option.some.inj h)
    exact completeStep_sound hInv hCharge hTokens hPhase now assistantId
  case h_5 reservation token code hPhase =>
    obtain ⟨rfl, rfl⟩ := Prod.mk.inj (Option.some.inj h)
    exact failStep_sound hInv hCharge hTokens hPhase now
  case h_6 reservation hPhase =>
    obtain ⟨rfl, rfl⟩ := Prod.mk.inj (Option.some.inj h)
    exact releaseStep_sound hInv hCharge hTokens hPhase now
  case h_7 code hPhase =>
    obtain ⟨rfl, rfl⟩ := Prod.mk.inj (Option.some.inj h)
    exact markFailedStep_sound hInv hCharge hTokens (by rw [hPhase]; exact ⟨rfl, rfl⟩) code _
  case h_8 hPhase =>
    obtain ⟨rfl, rfl⟩ := Prod.mk.inj (Option.some.inj h)
    exact markFailedStep_sound hInv hCharge hTokens (by rw [hPhase]; exact ⟨rfl, rfl⟩) _ now
  case h_9 => simp at h

-- ---------------------------------------------------------------------------
-- The start of an execution
-- ---------------------------------------------------------------------------

section

variable (config db e) (reservation : AICreditLedgerSnapshot) (token : Uuid)
  (code : AIExecutionErrorCode) (now : Datetime)

/-- A reservation keeps the time of the check. -/
theorem reserveStep_checkedAt (accountId entryId : Uuid) :
    (e.reserveStep config db accountId entryId).2.checkedAt = e.checkedAt := by
  unfold reserveStep
  split
  · rfl
  · split <;> rfl

theorem claimStep_checkedAt :
    (e.claimStep config db reservation token).2.checkedAt = e.checkedAt := by
  unfold claimStep
  split <;> rfl

/-- The provider keeps the time of the check. -/
theorem provideStep_checkedAt (conversation : AIConversation)
    (outcome : Except GeminiGatewayError GeminiGeneration) :
    (e.provideStep config reservation token conversation outcome).checkedAt = e.checkedAt := by
  unfold provideStep
  split
  · rfl
  · split
    · rfl
    · split <;> rfl

/-- A completion keeps the time of the check. -/
theorem completeStep_checkedAt (generation : GeminiGeneration) (assistantId : Uuid) :
    (e.completeStep config db reservation token generation now assistantId).2.checkedAt =
      e.checkedAt := by
  unfold completeStep
  split <;> rfl

theorem failStep_checkedAt :
    (e.failStep config db reservation token code now).2.checkedAt = e.checkedAt := by
  unfold failStep
  split <;> rfl

theorem releaseStep_checkedAt :
    (e.releaseStep db reservation now).2.checkedAt = e.checkedAt := by
  unfold releaseStep
  split <;> rfl

theorem markFailedStep_checkedAt :
    (e.markFailedStep config db code now).2.checkedAt = e.checkedAt := by
  unfold markFailedStep
  split <;> rfl

end

/-- No step moves the start of its execution. -/
theorem advance_checkedAt {step : ExecutionStep} {now : Datetime} {db' : AiDatabase}
    {e' : Execution} (h : e.advance config db step now = some (db', e')) :
    e'.checkedAt = e.checkedAt := by
  unfold advance at h
  split at h
  case h_9 => simp at h
  all_goals
    have hStep := congrArg Prod.snd (Option.some.inj h)
    subst hStep
  · exact reserveStep_checkedAt ..
  · exact claimStep_checkedAt ..
  · exact provideStep_checkedAt ..
  · exact completeStep_checkedAt ..
  · exact failStep_checkedAt ..
  · exact releaseStep_checkedAt ..
  · exact markFailedStep_checkedAt ..
  · exact markFailedStep_checkedAt ..

end Execution

-- ---------------------------------------------------------------------------
-- Runs
-- ---------------------------------------------------------------------------

namespace ExecutionState

variable {config : ExecutionConfig} {s : ExecutionState}

/-- **The invariant of a run.** -/
structure Invariant (config : ExecutionConfig) (s : ExecutionState) : Prop where
  credit : s.db.CreditInvariant
  charge : s.db.ChargeInvariant
  tokens : Execution.TokensKnown s.db s.claims
  executions : ∀ e ∈ s.executions, e.Invariant config s.db s.claims

/-- What every action does, whether its transaction commits or not. -/
structure Progress (s s' : ExecutionState) : Prop where
  move : s.db.toCreditTables.Move s'.db.toCreditTables
  messages : s.db.MessagesAdvance s'.db
  claims : s.claims ⊆ s'.claims

/-- The invariant holds before the first request. -/
theorem invariant_init (tables : SubscriptionTables) (businesses : Table Business)
    (conversations : Table AIConversation) (clock : Datetime) :
    (init tables businesses conversations clock).Invariant config where
  credit := ⟨fun _ h => absurd h (Table.not_mem_empty _), fun _ h => absurd h (Table.not_mem_empty _)⟩
  charge :=
    ⟨fun _ h => absurd h (Table.not_mem_empty _), fun _ h => absurd h (Table.not_mem_empty _),
      fun _ h => absurd h (Table.not_mem_empty _), fun _ h => absurd h (Table.not_mem_empty _),
      fun _ h => absurd h (Table.not_mem_empty _), fun _ h => absurd h (Table.not_mem_empty _)⟩
  tokens := fun _ h => absurd h (Table.not_mem_empty _)
  executions := by simp [init]

/-- An action that moves the credit tables without a charge, and nothing else. -/
private theorem progress_of_move {s' : ExecutionState} (h : s.Invariant config)
    (hMove : s.db.toCreditTables.Move s'.db.toCreditTables)
    (hNoCharge : AiDatabase.NoCharge s.db.toCreditTables s'.db.toCreditTables)
    (hMessages : s'.db.messages = s.db.messages) (hClaims : s'.claims = s.claims)
    (hExecutions : s'.executions = s.executions) : s'.Invariant config ∧ s.Progress s' := by
  refine ⟨⟨hMove.invariant h.credit, h.charge.ledger hMessages hMove.advances hNoCharge, ?_, ?_⟩,
    hMove, .of_eq hMessages, fun _ hc => hClaims ▸ hc⟩
  · rw [hClaims]
    exact h.tokens.of_eq hMessages
  · intro e he
    rw [hClaims]
    exact (h.executions e (hExecutions ▸ he)).mono hMove.advances (.of_eq hMessages) fun _ hc => hc

/-- A sound step of one execution, put in its place. -/
private theorem progress_of_sound {db' : AiDatabase} {claims' : List (Uuid × Uuid)}
    {e' : Execution} (h : s.Invariant config)
    (hSound : Execution.Sound config s.db s.claims db' claims' e') {executions : List Execution}
    (hExecutions : ∀ e ∈ executions, e = e' ∨ e ∈ s.executions) (clock : Datetime) :
    (ExecutionState.mk db' executions clock claims').Invariant config ∧
      s.Progress ⟨db', executions, clock, claims'⟩ := by
  refine ⟨⟨hSound.move.invariant h.credit, hSound.charge, hSound.tokens, fun e he => ?_⟩,
    hSound.move, hSound.messages, hSound.claims⟩
  rcases hExecutions e he with rfl | he
  · exact hSound.execution
  · exact (h.executions e he).mono hSound.move.advances hSound.messages hSound.claims

/-- **Step lemma.** Every action keeps the invariant and makes progress. -/
theorem step_invariant (h : s.Invariant config) (timed : TimedAction) :
    (step config s timed).Invariant config ∧ s.Progress (step config s timed) := by
  obtain ⟨now, action⟩ := timed
  have hIdle : ({ s with clock := now } : ExecutionState).Invariant config ∧
      s.Progress { s with clock := now } :=
    progress_of_move h (.refl _) (.of_eq rfl) rfl rfl rfl
  cases action with
  | submit request checkedAt messageId =>
    refine progress_of_sound h (Execution.start_sound h.charge h.tokens request checkedAt
      messageId) ?_ now
    intro e he
    rcases List.mem_append.mp he with he | he
    · exact .inr he
    · exact .inl (List.mem_singleton.mp he)
  | subscriptions tables =>
    exact progress_of_move h (.withSubscriptions _ tables) (.of_eq rfl) rfl rfl rfl
  | converse conversation =>
    simp only [step]
    split
    · exact hIdle
    · exact progress_of_move h (.refl _) (.of_eq rfl) rfl rfl rfl
  | adjust request ids =>
    simp only [step]
    split
    · exact hIdle
    · next db result hAdjust =>
      -- an adjustment moves limits, and no entry of the ledger
      obtain ⟨hMove, hLedger⟩ := CreditDatabase.adjust_eq_ok hAdjust
      exact progress_of_move h hMove (.of_eq hLedger) rfl rfl rfl
  | advance i executionStep =>
    simp only [step]
    split
    · exact hIdle
    · next e hGet =>
      split
      · next hFresh =>
        split
        · exact hIdle
        · next db' e' hAdvance =>
          have hMem : e ∈ s.executions := List.mem_of_getElem? hGet
          exact progress_of_sound h
            (Execution.advance_sound (h.executions e hMem) h.charge h.tokens hFresh hAdvance)
            (fun x hx => (List.mem_or_eq_of_mem_set hx).symm) now
      · exact hIdle

/-- **Run lemma.** -/
theorem invariant_run (h : s.Invariant config) (as : List TimedAction) :
    (run (step config) s as).Invariant config :=
  run_invariant (I := Invariant config) (fun _ a hs => (step_invariant hs a).1) h as

/-- The clock has passed the start of every execution. -/
def Started (s : ExecutionState) : Prop := ∀ e ∈ s.executions, e.checkedAt ≤ s.clock

/-- The clock does not run backwards. -/
def clockForward (s : ExecutionState) (timed : TimedAction) : Bool :=
  decide (s.clock ≤ timed.now) &&
    match timed.action with
    | .submit _ checkedAt _ => decide (checkedAt ≤ timed.now)
    | _ => true

theorem clockForward_le {timed : TimedAction} (h : s.clockForward timed = true) :
    s.clock ≤ timed.now := by
  rw [clockForward, Bool.and_eq_true] at h
  exact of_decide_eq_true h.1

/-- The clock after a step. -/
theorem step_clock (timed : TimedAction) : (step config s timed).clock = timed.now := by
  obtain ⟨now, action⟩ := timed
  cases action with
  | submit request checkedAt messageId => rfl
  | subscriptions tables => rfl
  | converse conversation =>
    simp only [step]
    split <;> rfl
  | adjust request ids =>
    simp only [step]
    split <;> rfl
  | advance i executionStep =>
    simp only [step]
    split
    · rfl
    · split
      · split <;> rfl
      · rfl

/-- On a forward clock, an execution stays started. -/
theorem step_started {timed : TimedAction} (h : s.Started) (hClock : s.clockForward timed = true) :
    (step config s timed).Started := by
  have hNow := clockForward_le hClock
  have hOld : ∀ e ∈ s.executions, e.checkedAt ≤ timed.now := fun e he => Int.le_trans (h e he) hNow
  intro e he
  rw [step_clock]
  obtain ⟨now, action⟩ := timed
  cases action with
  | submit request checkedAt messageId =>
    rw [clockForward, Bool.and_eq_true] at hClock
    rcases List.mem_append.mp he with he | he
    · exact hOld e he
    · rw [List.mem_singleton.mp he]
      dsimp only
      split
      · exact of_decide_eq_true hClock.2
      · exact of_decide_eq_true hClock.2
  | subscriptions tables => exact hOld e he
  | converse conversation =>
    simp only [step] at he
    split at he <;> exact hOld e he
  | adjust request ids =>
    simp only [step] at he
    split at he <;> exact hOld e he
  | advance i executionStep =>
    simp only [step] at he
    split at he
    · exact hOld e he
    · next x hGet =>
      split at he
      · split at he
        · exact hOld e he
        · next db' e' hAdvance =>
          rcases List.mem_or_eq_of_mem_set he with he | rfl
          · exact hOld e he
          · -- a step of a run keeps the time at which it was checked
            rw [Execution.advance_checkedAt hAdvance]
            exact hOld x (List.mem_of_getElem? hGet)
      · exact hOld e he

/-- **Charged if and only if answered.** After every run: the entry attached to a user
message is consumed exactly when an assistant message replies to it, and exactly when it
is completed; and no message has two replies. -/
theorem charged_iff_answered (config : ExecutionConfig) (tables : SubscriptionTables)
    (businesses : Table Business) (conversations : Table AIConversation) (clock : Datetime)
    (as : List TimedAction) :
    let db := (run (step config) (init tables businesses conversations clock) as).db
    (∀ m ∈ db.messages, m.role = .user →
      ((∃ e ∈ db.ledger, m.creditLedgerEntryId = some e.id ∧ e.status = .consumed) ↔
          ∃ r ∈ db.messages, r.role = .assistant ∧ r.replyToMessageId = some m.id) ∧
        ((∃ r ∈ db.messages, r.role = .assistant ∧ r.replyToMessageId = some m.id) ↔
          m.status = .completed)) ∧
      (∀ m ∈ db.messages, ∀ r ∈ db.messages, ∀ r' ∈ db.messages,
        r.replyToMessageId = some m.id → r'.replyToMessageId = some m.id → r = r') := by
  intro db
  have hInv : db.ChargeInvariant :=
    (invariant_run (invariant_init tables businesses conversations clock) as).charge
  -- the message a reply names is completed
  have hNamed : ∀ m ∈ db.messages, ∀ r ∈ db.messages, r.role = .assistant →
      r.replyToMessageId = some m.id →
        m.role = .user ∧ m.status = .completed ∧ r.businessId = m.businessId ∧
          r.conversationId = m.conversationId := by
    intro m hm r hr hRole hReply
    obtain ⟨m', hm', hRole', hCompleted, hBusiness, hConversation, hReply'⟩ :=
      hInv.replies r hr hRole
    rw [hReply, Option.some.injEq] at hReply'
    obtain rfl := Table.eq_of_key_eq hm hm' hReply'
    exact ⟨hRole', hCompleted, hBusiness, hConversation⟩
  refine ⟨fun m hm hRole => ?_, ?_⟩
  · have hAnswered : (∃ r ∈ db.messages, r.role = .assistant ∧ r.replyToMessageId = some m.id) ↔
        m.status = .completed := by
      constructor
      · rintro ⟨r, hr, hAssistant, hReply⟩
        exact (hNamed m hm r hr hAssistant hReply).2.1
      · intro hCompleted
        obtain ⟨r, hr, hAssistant, -, -, hReply⟩ := hInv.answered m hm hRole hCompleted
        exact ⟨r, hr, hAssistant, hReply⟩
    refine ⟨?_, hAnswered⟩
    rw [hAnswered]
    constructor
    · rintro ⟨e, he, hCredit, hConsumed⟩
      -- the charge is that of a completed message, and both have the key of the entry
      obtain ⟨m', hm', hRole', hCompleted, hCredit'⟩ := hInv.consumed e he hConsumed
      obtain ⟨e₁, he₁, hId₁, hBusiness₁, hDigest₁⟩ := hInv.attached m hm hRole _ hCredit
      obtain ⟨e₂, he₂, hId₂, hBusiness₂, hDigest₂⟩ := hInv.attached m' hm' hRole' _ hCredit'
      obtain rfl := Table.eq_of_key_eq he₁ he₂ (hId₁.trans hId₂.symm)
      rw [AiDatabase.eq_of_digest hm hm' (hBusiness₁.symm.trans hBusiness₂) hDigest₁ hDigest₂]
      exact hCompleted
    · exact hInv.charged m hm hRole
  · intro m hm r hr r' hr' hReply hReply'
    have hAssistant : ∀ x ∈ db.messages, x.replyToMessageId = some m.id → x.role = .assistant := by
      intro x hx hx'
      cases hRole : x.role with
      | assistant => rfl
      | user =>
        have hChecks := Table.checks_of_mem hx
        simp [Schema.checks, AIMessage.roleFields, hRole, hx'] at hChecks
    obtain ⟨-, -, hBusiness, hConversation⟩ := hNamed m hm r hr (hAssistant r hr hReply) hReply
    obtain ⟨-, -, hBusiness', hConversation'⟩ :=
      hNamed m hm r' hr' (hAssistant r' hr' hReply') hReply'
    refine Table.eq_of_clash hr hr' ?_
    simp [Schema.clash, hBusiness, hBusiness', hConversation, hConversation', hReply, hReply',
      sameKey]

end ExecutionState

end SpikeBackend
