import SpikeBackend.Execution.Charging

/-!
# Reservations of failed messages

A reserved entry is attached to its message or held by an execution that still has to
claim it or give it back (`Accounted`). Every step keeps this except one: a claim that
finds its message failed raises past the recovery that releases the credit. On runs
without such a claim no ended execution leaves a reservation behind.

* `claim_eq_error`, `claim_update_exists`, `release_succeeds` — how a claim and a release
  can raise;
* `step_accounted` — the step lemma;
* `no_leaked_reservation`, and the run that leaks one (`leaked_reservation`).
-/

namespace SpikeBackend

open Relational Text Outcome Session Machine

namespace AiDatabase

variable {db : AiDatabase} {scope : Uuid}

/-- The write of a claim fails on a broken invariant or because the row refuses the claimed columns.
-/
theorem writeClaim_eq_error {row message claimed : AIMessage} {purpose : AIConversationPurpose}
    {groundingContext : Option Str} {error : AIExecutionError}
    (h : db.writeClaim scope row message claimed purpose groundingContext = .error error) :
    error = .integrity ∨ db.messages.update? (claimed.flush message row) = none := by
  -- A prompt that is missing or empty is an integrity error, never a conflict.
  have hPrompt : ∀ history error', claimPrompt history groundingContext = .error error' →
      error' = .integrity := by
    intro history error' hp
    unfold claimPrompt at hp
    cases hb : boundedPrompt history groundingContext with
    | none =>
      simp only [hb, required, bind_error, Except.error.injEq] at hp
      exact hp.symm
    | some prompt =>
      by_cases hne : prompt = []
      · simp [hb, required, bind_ok, ensure, hne] at hp
        exact hp.symm
      · simp [hb, required, bind_ok, ensure, hne, pure, Except.pure] at hp
  cases hUpdate : db.messages.update? (claimed.flush message row) with
  | none => exact .inr rfl
  | some messages =>
    refine .inl ?_
    cases purpose with
    | chat =>
      simp only [writeClaim, hUpdate, required, bind_ok] at h
      cases hp : claimPrompt ({ db with messages }.historyForClaim scope claimed)
          groundingContext with
      | error error' =>
        simp only [hp, bind_error, Except.error.injEq] at h
        exact h ▸ hPrompt _ _ hp
      | ok prompt => simp [hp, bind_ok, pure, Except.pure] at h
    | dashboardAnalysis =>
      simp only [writeClaim, hUpdate, required, bind_ok] at h
      cases hp : claimPrompt [claimed] groundingContext with
      | error error' =>
        simp only [hp, bind_error, Except.error.injEq] at h
        exact h ▸ hPrompt _ _ hp
      | ok prompt => simp [hp, bind_ok, pure, Except.pure] at h

/-- **A claim that raises** raises the integrity error the caller recovers from, or it
found its instance completed or failed, or the database refused its write. -/
theorem claim_eq_error {config : ExecutionConfig} {loaded : Option AIMessage} {messageId : Uuid}
    {reservation : AICreditLedgerSnapshot} {now : Datetime} {token : Uuid}
    {error : AIExecutionError}
    (h : db.claim scope config loaded messageId reservation now token = .error error) :
    error = .integrity ∨ ∃ row, db.messageById scope messageId = some row ∧
      ((locked loaded row).status ≠ .pending ∨
        ((locked loaded row).status = .pending ∧
          ((locked loaded row).creditLedgerEntryId = none ∨
            (locked loaded row).creditLedgerEntryId = some reservation.entryId) ∧
          db.messages.update? (((locked loaded row).claimFor reservation.entryId token
            (now + config.leaseDuration) now).flush (locked loaded row) row) = none)) := by
  unfold AiDatabase.claim at h
  cases hRow : db.messageById scope messageId with
  | none =>
    simp only [hRow, required, bind_error, Except.error.injEq] at h
    exact .inl h.symm
  | some row =>
    simp only [hRow, required, bind_ok] at h
    -- Before this test every failure is an integrity error; after it only the write is left.
    by_cases hPending : (locked loaded row).status = .pending
    · simp only [hPending] at h
      cases hConversation : db.conversationById scope (locked loaded row).conversationId with
      | none =>
        simp only [hConversation, bind_error, Except.error.injEq] at h
        exact .inl h.symm
      | some conversation =>
        simp only [hConversation, bind_ok] at h
        cases hGrounding : config.groundingContext scope conversation with
        | none =>
          simp only [hGrounding, bind_error, Except.error.injEq] at h
          exact .inl h.symm
        | some groundingContext =>
          simp only [hGrounding, bind_ok] at h
          by_cases hReserved : reservation.status = .reserved
          · by_cases hCredit : (locked loaded row).creditLedgerEntryId = none ∨
                (locked loaded row).creditLedgerEntryId = some reservation.entryId
            · simp only [ensure, if_pos hReserved, if_pos hCredit, bind_ok] at h
              split at h
              · simp [pure, Except.pure] at h
              · cases hWrite : db.writeClaim scope row (locked loaded row)
                    ((locked loaded row).claimFor reservation.entryId token
                      (now + config.leaseDuration) now) conversation.purpose groundingContext with
                | ok p => simp [hWrite, bind_ok, pure, Except.pure] at h
                | error error' =>
                  simp only [hWrite, bind_error, Except.error.injEq] at h
                  subst h
                  rcases writeClaim_eq_error hWrite with rfl | hNone
                  · exact .inl rfl
                  · exact .inr ⟨row, rfl, .inr ⟨hPending, hCredit, hNone⟩⟩
            · simp only [ensure, if_pos hReserved, if_neg hCredit, bind_ok, bind_error,
                Except.error.injEq] at h
              exact .inl h.symm
          · simp only [ensure, if_neg hReserved, bind_error, Except.error.injEq] at h
            exact .inl h.symm
    · -- The message is not pending any more: a conflict.
      exact .inr ⟨row, rfl, .inl hPending⟩

/-- A user message clashes with no other over an entry of its own key. -/
theorem no_clash (hCharge : db.ChargeInvariant) {row row' x : AIMessage}
    (hRow : row ∈ db.messages) (hRole : row.role = .user) (hSame : row.SameMessage row')
    (hCredit : ∀ y, row'.creditLedgerEntryId = some y → ∃ e ∈ db.ledger, e.id = y ∧
      e.businessId = row.businessId ∧ row.idempotencyKeyDigest = some e.idempotencyKeyDigest)
    (hx : x ∈ db.messages) (hId : x.id ≠ row.id) : Schema.clash x row' = false := by
  have hApart := (Table.apart_of_ne db.messages hx hRow fun h => hId (by rw [h])).2
  rw [Bool.eq_false_iff]
  intro hClash
  simp only [Schema.clash, Bool.and_eq_true, Bool.or_eq_true, decide_eq_true_eq, hSame.business,
    hSame.digest, hSame.role, hSame.conversation, hSame.reply] at hClash
  simp only [Schema.clash, Bool.and_eq_false_iff, Bool.or_eq_false_iff,
    decide_eq_false_iff_not] at hApart
  obtain ⟨hBusiness, hKeys⟩ := hClash
  rcases hApart with hApart | hApart
  · exact hApart hBusiness
  · rcases hKeys with (hDigest | ⟨hRoles, hEntry⟩) | ⟨hConversation, hReply⟩
    · rw [hDigest] at hApart
      exact absurd hApart.1.1 (by simp)
    · -- the other message has the entry attached, so it has the key too
      obtain ⟨y, hy, hy'⟩ := sameKey_eq_true.mp hEntry
      obtain ⟨e, he, heId, heBusiness, heDigest⟩ := hCredit y hy'
      obtain ⟨e', he', heId', heBusiness', heDigest'⟩ :=
        hCharge.attached x hx (hRoles.trans hRole) y hy
      obtain rfl := Table.eq_of_key_eq he he' (heId.trans heId'.symm)
      exact hId (by rw [eq_of_digest hx hRow hBusiness heDigest' heDigest])
    · obtain ⟨y, -, hy⟩ := sameKey_eq_true.mp hReply
      have hChecks := Table.checks_of_mem hRow
      simp [Schema.checks, AIMessage.roleFields, hRole, hy] at hChecks

end AiDatabase

namespace Execution

variable {config : ExecutionConfig} {db : AiDatabase} {claims : List (Uuid × Uuid)}
  {e : Execution}

/-- **The database takes a claim of a pending message** whose lease ends after its creation. -/
theorem claim_update_exists (hInv : e.Invariant config db claims) (hCharge : db.ChargeInvariant)
    {reservation : AICreditLedgerSnapshot} (hReservation : e.phase.reservation? = some reservation)
    {row : AIMessage} (hMem : row ∈ db.messages) (hOwns : e.Owns config row)
    (hRow : db.messageById e.request.businessId e.messageId = some row)
    (hStatus : row.status = .pending) {token : Uuid} {lease : Datetime} (now : Datetime)
    (hLease : row.createdAt ≤ lease)
    (hCredit : (locked (e.held config) row).creditLedgerEntryId = none ∨
      (locked (e.held config) row).creditLedgerEntryId = some reservation.entryId)
    (hToken : (locked (e.held config) row).processingToken ≠ some token) :
    ∃ messages, db.messages.update?
      (((locked (e.held config) row).claimFor reservation.entryId token lease now).flush
        (locked (e.held config) row) row) = some messages := by
  have hEvolves := hInv.evolves hRow
  have hFirst := hInv.lockedCredit hMem hOwns
  generalize locked (e.held config) row = c at *
  generalize hNew : (c.claimFor reservation.entryId token lease now).flush c row = row'
  have hSame : row.SameMessage row' := hNew ▸ AIMessage.flush_same _ _ _
  have hRowChecks := Table.checks_of_mem hMem
  obtain ⟨hCompletedAt, hErrorCode, hFields⟩ := pending_of_checks hRowChecks hOwns.2.2.1 hStatus
  -- the columns of the new row
  have hStatus' : row'.status = .pending := by
    rw [← hNew, ← hStatus]
    exact column_same _ _
  have hCompletedAt' : row'.completedAt = none := by
    rw [← hNew, ← hCompletedAt]
    exact column_same _ _
  have hErrorCode' : row'.errorCode = none := by
    rw [← hNew, ← hErrorCode]
    exact column_same _ _
  have hToken' : row'.processingToken = some token := by
    rw [← hNew]
    exact column_of_ne (Ne.symm hToken)
  have hCredit' : row'.creditLedgerEntryId = some reservation.entryId := by
    rw [← hNew]
    rcases hCredit with hNone | hSome
    · exact column_of_ne (by rw [hNone]; simp [AIMessage.claimFor])
    · rcases column_cases c.creditLedgerEntryId (some reservation.entryId)
        row.creditLedgerEntryId with h | ⟨-, h⟩
      · exact h
      · exact h.trans (hEvolves.credit _ hSome)
  have hLease' : ∃ l, row'.processingLeaseExpiresAt = some l ∧ row.createdAt ≤ l := by
    rw [← hNew]
    rcases column_cases c.processingLeaseExpiresAt (some lease) row.processingLeaseExpiresAt with
      h | ⟨hSame, h⟩
    · exact ⟨lease, h, hLease⟩
    · -- the lease is not written: the instance had it, so the row has a credit and a lease
      have hSome := hFirst (.inr (by rw [← hSame]; rfl))
      obtain ⟨x, hx⟩ := Option.isSome_iff_exists.mp hSome
      have hRowCredit := hEvolves.credit x hx
      rcases hFields with ⟨hNone, -⟩ | ⟨-, -, hRowLease⟩
      · simp [hRowCredit] at hNone
      · obtain ⟨l, hl⟩ := Option.isSome_iff_exists.mp hRowLease
        refine ⟨l, h.trans hl, ?_⟩
        simp only [Schema.checks, AIMessage.instants, hl, Option.all_some, Bool.and_eq_true,
          decide_eq_true_eq] at hRowChecks
        exact hRowChecks.2.1
  obtain ⟨l, hl, hCreated⟩ := hLease'
  have hProvider : row'.providerFields = row.providerFields := by
    rw [← hNew]
    simp [AIMessage.providerFields, AIMessage.flush, hOwns.2.2.1]
  have hCounts : row'.tokenCounts = row.tokenCounts := by rw [← hNew]; rfl
  have hCreatedBy : row'.createdByUserId = row.createdByUserId := by rw [← hNew]; rfl
  refine Table.exists_update? ?_ ?_
  · intro x hx hne
    refine AiDatabase.no_clash hCharge hMem hOwns.2.2.1 hSame ?_ hx fun h =>
      hne (h.trans hSame.id.symm)
    intro y hy
    rw [hCredit', Option.some.injEq] at hy
    obtain ⟨entry, hEntry, hEntryId, hEntryBusiness, hEntryDigest⟩ :=
      hInv.reservation reservation hReservation
    obtain ⟨-, hBusiness, -, digest, hDigest, hRowDigest⟩ := hOwns
    refine ⟨entry, hEntry, hEntryId.trans hy, hEntryBusiness.trans hBusiness.symm, ?_⟩
    rw [hDigest, Except.ok.injEq] at hEntryDigest
    rw [hRowDigest, hEntryDigest]
  · simp only [Schema.checks, Bool.and_eq_true] at hRowChecks ⊢
    simp only [hSame.content, hSame.digest, hProvider, hCounts, AIMessage.roleFields, hSame.role,
      hSame.reply, hOwns.2.2.1, AIMessage.userStatusFields, hStatus', hCompletedAt', hErrorCode',
      hCredit', hToken', AIMessage.instants, hl, hSame.created, hCreatedBy, reduceCtorEq,
      decide_false, Bool.false_or, Option.isNone_none, Option.isNone_some, Option.isSome_some,
      Option.all_some, Option.all_none, Bool.and_true, Bool.and_self, Bool.or_true,
      decide_eq_true_eq, and_true] at hRowChecks ⊢
    exact ⟨⟨hRowChecks.1.1.1, hRowChecks.1.2⟩, hCreated⟩

end Execution

namespace CreditTables

/-- **A release of a reserved entry goes through**, at any instant not before the
reservation. -/
theorem release_succeeds {db : CreditTables} {scope : Uuid} (hCredit : db.CreditInvariant)
    {entry : AICreditLedgerEntry} (hMem : entry ∈ db.ledger) (hScope : entry.businessId = scope)
    (hReserved : entry.status = .reserved) {releasedAt : Datetime}
    (hInstant : entry.reservedAt ≤ releasedAt) (code : AIExecutionErrorCode) :
    ∃ p, db.release scope entry.id code.value releasedAt = .ok p := by
  obtain ⟨account, hAccount, hId, hBusiness, hSubscription⟩ := hCredit.owned entry hMem
  have hAccountFound := accountForEntry_of_mem hAccount (hBusiness.trans hScope) hId hSubscription
  obtain ⟨hFits, hStrip, hReason⟩ := code.value_fits
  have hNormalized : normalizeAiReleaseReason code.value = .ok code.value := by
    unfold normalizeAiReleaseReason
    simp only [hStrip]
    have hLength : code.value ≠ [] ∧ code.value.length ≤ aiReleaseReasonMaxLength := by
      cases code <;> decide
    simp [ensure, hLength, bind_ok, pure, Except.pure]
  -- the account counts the entry
  have hCounted : 1 ≤ account.reservedCount := by
    rw [(hCredit.counted account hAccount).1]
    have := Table.count_pos (p := AICreditLedgerEntry.isOf account.id .reserved) hMem
      (AICreditLedgerEntry.isOf_eq_true.mpr ⟨hId.symm, hReserved⟩)
    omega
  obtain ⟨accounts, hAccounts⟩ : ∃ accounts,
      db.accounts.update? (account.settle .released) = some accounts := by
    refine Table.exists_update? ?_ ?_
    · intro x hx hne
      exact (Table.apart_of_ne db.accounts hx hAccount fun h => hne (by rw [h]; rfl)).2
    · have hChecks := Table.checks_of_mem hAccount
      simp only [Schema.checks, AICreditAccount.balanced, AICreditAccount.used, Bool.and_eq_true,
        decide_eq_true_eq] at hChecks
      obtain ⟨⟨⟨hKey, hPeriod⟩, hLimit⟩, hCounts, hBalance⟩ := hChecks
      have hUsed : (account.settle .released).balanced = true := by
        unfold AICreditAccount.balanced
        rw [Bool.and_eq_true]
        refine ⟨decide_eq_true ⟨Int.sub_nonneg_of_le hCounted, hCounts.2⟩, ?_⟩
        rw [Option.all_eq_true]
        intro limit hSome
        have hBelow := of_decide_eq_true ((Option.all_eq_true _ _).mp hBalance limit hSome)
        refine decide_eq_true ?_
        simp only [AICreditAccount.used, AICreditAccount.settle]
        omega
      simp only [Schema.checks, hUsed, Bool.and_true, Bool.and_eq_true]
      exact ⟨⟨decide_eq_true hKey, decide_eq_true hPeriod⟩, hLimit⟩
  obtain ⟨ledger, hLedger⟩ : ∃ ledger,
      db.ledger.update? (entry.markReleased code.value releasedAt) = some ledger := by
    refine Table.exists_update? ?_ ?_
    · intro x hx hne
      exact (Table.apart_of_ne db.ledger hx hMem fun h => hne (by rw [h]; rfl)).2
    · have hChecks := Table.checks_of_mem hMem
      simp only [Schema.checks, Bool.and_eq_true] at hChecks ⊢
      refine ⟨⟨hChecks.1.1, ?_⟩, ?_⟩
      · simp [AICreditLedgerEntry.statusFields, AICreditLedgerEntry.markReleased, hReason]
      · simp only [AICreditLedgerEntry.timestamps, AICreditLedgerEntry.markReleased,
          Option.all_none, Option.all_some, Bool.true_and]
        exact decide_eq_true hInstant
  unfold release
  simp [hNormalized, entryById_of_mem hMem hScope, hAccountFound, hReserved, required, ensure,
    hCounted, hAccounts, hLedger, bind_ok, pure, Except.pure]

end CreditTables

-- ---------------------------------------------------------------------------
-- Accounting for reservations
-- ---------------------------------------------------------------------------

namespace ExecutionState

/-- The execution still has to claim the entry or to give it back. -/
def Holds (e : Execution) (entryId : Uuid) : Prop :=
  ∃ r : AICreditLedgerSnapshot, r.entryId = entryId ∧
    (e.phase = .reserved r ∨ e.phase = .unclaimed r)

/-- The entry is attached to a user message. -/
def Attached (db : AiDatabase) (entryId : Uuid) : Prop :=
  ∃ m ∈ db.messages, m.role = .user ∧ m.creditLedgerEntryId = some entryId

/-- **Every reservation is accounted for.** -/
def Accounted (s : ExecutionState) : Prop :=
  ∀ entry ∈ s.db.ledger, entry.status = .reserved →
    Attached s.db entry.id ∨ ∃ e ∈ s.executions, Holds e entry.id

/-- The clock has passed every reservation. -/
def Clocked (s : ExecutionState) : Prop := ∀ entry ∈ s.db.ledger, entry.reservedAt ≤ s.clock

/-- The clock does not run backwards, and a claim finds its message not failed and
created before the lease it takes would end. -/
def claimsUnfailed (config : ExecutionConfig) (s : ExecutionState) (timed : TimedAction) : Bool :=
  s.clockForward timed &&
    match timed.action with
    | .advance i (.claim _) =>
      s.executions[i]?.all fun e =>
        (s.db.messageById e.request.businessId e.messageId).all fun row =>
          row.status != .failed && decide (row.createdAt ≤ e.checkedAt + config.leaseDuration)
    | _ => true

end ExecutionState

namespace Execution

open ExecutionState (Holds Attached)

variable {config : ExecutionConfig} {db db' : AiDatabase} {claims : List (Uuid × Uuid)}
  {e e' : Execution}

/-- The entry was there before, and was reserved if it is. -/
def WasThere (db : AiDatabase) (entry' : AICreditLedgerEntry) : Prop :=
  ∃ entry ∈ db.ledger, entry.id = entry'.id ∧ entry.reservedAt = entry'.reservedAt ∧
    (entry'.status = .reserved → entry.status = .reserved)

theorem wasThere_of_mem {entry : AICreditLedgerEntry} (h : entry ∈ db.ledger) :
    WasThere db entry := ⟨entry, h, rfl, rfl, fun h => h⟩

/-- After an update that settles an entry, each reserved entry was there before. -/
theorem wasThere_of_update {entry updated : AICreditLedgerEntry}
    (h : db.ledger.update? updated = some db'.ledger) (hMem : entry ∈ db.ledger)
    (hOrigin : entry.SameOrigin updated) (hStatus : updated.status ≠ .reserved) :
    ∀ entry' ∈ db'.ledger, WasThere db entry' := by
  intro entry' hEntry'
  rcases (Table.mem_update?_iff h hMem hOrigin.1).mp hEntry' with rfl | ⟨hOld, -⟩
  · exact ⟨entry, hMem, hOrigin.1.symm, hOrigin.2.2.2.2.2.symm, fun h => absurd h hStatus⟩
  · exact wasThere_of_mem hOld

/-- What a step of one execution does to the reservations. -/
structure Accounts (db : AiDatabase) (e : Execution) (db' : AiDatabase) (e' : Execution) :
    Prop where
  /-- an entry is new only as the reservation the execution now holds -/
  entries : ∀ entry' ∈ db'.ledger, WasThere db entry' ∨
    (entry'.reservedAt = e.checkedAt ∧ Holds e' entry'.id)
  /-- a reservation it held is attached, still held, or no longer reserved -/
  held : ∀ entry' ∈ db'.ledger, entry'.status = .reserved → Holds e entry'.id →
    Attached db' entry'.id ∨ Holds e' entry'.id

/-- A step from a phase without a reservation that leaves the ledger alone. -/
theorem Accounts.of_eq (hLedger : db'.ledger = db.ledger) (hHolds : ∀ x, ¬Holds e x) :
    Accounts db e db' e' :=
  ⟨fun _ h => .inl (wasThere_of_mem (hLedger ▸ h)), fun _ _ _ h => absurd h (hHolds _)⟩

/-- Only an execution that has reserved and not yet claimed holds an entry. -/
theorem not_holds (hPhase : ∀ r, e.phase ≠ .reserved r ∧ e.phase ≠ .unclaimed r) (x : Uuid) :
    ¬Holds e x := by
  rintro ⟨r, -, h | h⟩
  · exact (hPhase r).1 h
  · exact (hPhase r).2 h

/-- The reservation step: a new entry is the one the execution now holds. -/
theorem reserveStep_accounts (hPhase : e.phase = .submitted) (accountId entryId : Uuid) :
    Accounts db e (e.reserveStep config db accountId entryId).1
      (e.reserveStep config db accountId entryId).2 := by
  have hHolds := not_holds (e := e) (by simp [hPhase])
  unfold reserveStep
  split
  · next tables reservation h =>
    refine ⟨fun entry' hEntry' => ?_, fun _ _ _ h => absurd h (hHolds _)⟩
    -- ⟨-, hNew⟩⟩ := CreditTables.reserve_eq_ok h | A replay finds its entry; only a first
    -- reservation inserts one.
    obtain ⟨digest, -, ⟨rfl, -⟩ | ⟨-, hNew⟩⟩ := CreditTables.reserve_eq_ok h
    · exact .inl (wasThere_of_mem hEntry')
    · obtain ⟨subscription, startedAt, endsAt, entitlement, accounts, account, limit, -, -, -, -,
        -, -, -, -, -, -, hLedger, -, rfl⟩ := hNew
      rcases (Table.mem_insert? hLedger).mp hEntry' with rfl | hOld
      · exact .inr ⟨rfl, _, rfl, .inl rfl⟩
      · exact .inl (wasThere_of_mem hOld)
  · split
    · exact .of_eq rfl hHolds
    · exact .of_eq rfl hHolds

/-- The claim step: the entry is attached to the message, or the execution goes on holding it. -/
theorem claimStep_accounts (hInv : e.Invariant config db claims) (hCharge : db.ChargeInvariant)
    (hTokens : TokensKnown db claims) {reservation : AICreditLedgerSnapshot}
    (hPhase : e.phase = .reserved reservation) {token : Uuid}
    (hFresh : ∀ claim ∈ claims, claim.2 ≠ token)
    (hRowStatus : ∀ row, db.messageById e.request.businessId e.messageId = some row →
      row.status ≠ .failed ∧ row.createdAt ≤ e.checkedAt + config.leaseDuration) :
    Accounts db e (e.claimStep config db reservation token).1
      (e.claimStep config db reservation token).2 := by
  have hRunning : e.phase.hasEnded = false := by rw [hPhase]; rfl
  have hReservation : e.phase.reservation? = some reservation := by rw [hPhase]; rfl
  have hHolds : ∀ x, Holds e x → x = reservation.entryId := by
    rintro x ⟨r, rfl, h | h⟩
    · rw [hPhase, ExecutionPhase.reserved.injEq] at h
      rw [h]
    · simp [hPhase] at h
  -- a message with a credit has this reservation attached
  have hAttached : ∀ row, db.messageById e.request.businessId e.messageId = some row →
      row.creditLedgerEntryId.isSome → Attached db reservation.entryId := by
    intro row hRow hSome
    obtain ⟨hMem, hOwns⟩ := hInv.owns hRunning hRow
    obtain ⟨x, hx⟩ := Option.isSome_iff_exists.mp hSome
    exact ⟨row, hMem, hOwns.2.2.1, by rw [hx, hInv.credit_unique hCharge hMem hOwns hReservation hx]⟩
  have hCompleted : ∀ row, db.messageById e.request.businessId e.messageId = some row →
      row.status = .completed → Attached db reservation.entryId := by
    intro row hRow hStatus
    obtain ⟨hMem, hOwns⟩ := hInv.owns hRunning hRow
    obtain ⟨entry, -, hCredit, -⟩ := hCharge.charged row hMem hOwns.2.2.1 hStatus
    exact hAttached row hRow (by rw [hCredit]; rfl)
  have hStay : ∀ e'' : Execution, Attached db reservation.entryId → Accounts db e db e'' :=
    fun e'' hAtt =>
      ⟨fun _ h => .inl (wasThere_of_mem h), fun _ _ _ h => .inl (hHolds _ h ▸ hAtt)⟩
  unfold claimStep
  split
  · refine ⟨fun _ h => .inl (wasThere_of_mem h), fun _ _ _ h => .inr ?_⟩
    exact ⟨reservation, (hHolds _ h).symm, .inr rfl⟩
  · next error hIntegrity h =>
    refine hStay _ ?_
    rcases AiDatabase.claim_eq_error h with hError | ⟨row, hRow, hStatus | ⟨-, hCredit, hNone⟩⟩
    · exact absurd hError hIntegrity
    · -- the instance left `pending`, and the message with it: it was completed
      have hEvolves := hInv.evolves hRow
      refine hCompleted row hRow ?_
      have := hEvolves.status hStatus
      cases hs : row.status with
      | completed => rfl
      | failed => exact absurd hs (hRowStatus row hRow).1
      | pending => exact absurd (this.symm.trans hs) hStatus
    · obtain ⟨hMem, hOwns⟩ := hInv.owns hRunning hRow
      cases hs : row.status with
      | completed => exact hCompleted row hRow hs
      | failed => exact absurd hs (hRowStatus row hRow).1
      | pending =>
        -- the database takes the claim of a pending message
        obtain ⟨messages, hSome⟩ := claim_update_exists hInv hCharge hReservation
          hMem hOwns hRow hs e.checkedAt (hRowStatus row hRow).2 hCredit
          (fun ht => hFresh _ (hInv.lockedToken hTokens hMem hOwns ht) rfl)
        rw [hNone] at hSome
        simp at hSome
  · next db' message claim h =>
    obtain ⟨row, hRow, hClaims⟩ := AiDatabase.claim_eq_ok h
    obtain ⟨hMem, hOwns⟩ := hInv.owns hRunning hRow
    have hEvolves := hInv.evolves hRow
    cases hClaims with
    | completed hStatus hSame hMessage hClaim =>
      subst hSame
      refine hStay _ (hCompleted row hRow ?_)
      rw [hEvolves.status (by rw [hStatus]; simp), hStatus]
    | inProgress hStatus hReserved hLease hSame hMessage hClaim =>
      subst hSame
      refine hStay _ (hAttached row hRow ?_)
      simp only [AIMessage.leaseActive, Bool.and_eq_true] at hLease
      obtain ⟨x, hx⟩ := Option.isSome_iff_exists.mp
        (hInv.lockedCredit hMem hOwns (.inl hLease.1))
      rw [hEvolves.credit x hx]
      rfl
    | claimed hStatus hReserved hCredit hLease hMessage hMessages hRest hClaim =>
      have hLedger : db'.ledger = db.ledger := by rw [hRest]
      obtain ⟨-, -, -, hCredit'⟩ := claim_row hMem hOwns.2.2.1 hEvolves hCredit
        (fun ht => hFresh _ (hInv.lockedToken hTokens hMem hOwns ht) rfl) hMessage hMessages
      refine ⟨fun _ h => .inl (wasThere_of_mem (hLedger ▸ h)), fun _ _ _ h => .inl ?_⟩
      rw [hHolds _ h]
      exact ⟨_, Table.mem_update?_self hMessages hMem rfl, hOwns.2.2.1, hCredit'⟩

/-- The release step gives the entry back. -/
theorem releaseStep_accounts (hInv : e.Invariant config db claims)
    (hCredit : db.CreditInvariant) {reservation : AICreditLedgerSnapshot}
    (hPhase : e.phase = .unclaimed reservation) {now : Datetime}
    (hClock : ∀ entry ∈ db.ledger, entry.reservedAt ≤ now) :
    Accounts db e (e.releaseStep db reservation now).1 (e.releaseStep db reservation now).2 := by
  have hHolds : ∀ x, Holds e x → x = reservation.entryId := by
    rintro x ⟨r, rfl, h | h⟩
    · simp [hPhase] at h
    · rw [hPhase, ExecutionPhase.unclaimed.injEq] at h
      rw [h]
  obtain ⟨held, hHeld, hHeldId, hHeldBusiness, -⟩ :=
    hInv.reservation reservation (by rw [hPhase]; rfl)
  unfold releaseStep
  split
  · next tables snapshot h =>
    obtain ⟨entry, account, hEntry, -, hCase⟩ := CreditTables.release_eq_ok h
    obtain ⟨hMem, -, hId⟩ := CreditTables.entryById_eq_some hEntry
    obtain ⟨hReleased, rfl⟩ | ⟨-, reason, -, hLedger, -⟩ := hCase
    · refine ⟨fun _ h => .inl (wasThere_of_mem h), fun entry' hEntry' hReserved h => ?_⟩
      obtain rfl := Table.eq_of_key_eq hEntry' hMem ((hHolds _ h).trans hId.symm)
      simp [hReleased] at hReserved
    · have hReleased : db.ledger.update? (entry.markReleased reason now) =
          some ({ db with toCreditTables := tables } : AiDatabase).ledger := hLedger
      refine ⟨fun entry' hEntry' => .inl (wasThere_of_update hReleased hMem
        (entry.sameOrigin_markReleased _ _) (by simp [AICreditLedgerEntry.markReleased]) entry'
          hEntry'), ?_⟩
      intro entry' hEntry' hReserved h
      obtain rfl := Table.eq_of_mem_update? hLedger hEntry' ((hHolds _ h).trans hId.symm)
      simp [AICreditLedgerEntry.markReleased] at hReserved
  · next error h =>
    refine ⟨fun _ h => .inl (wasThere_of_mem h), fun entry' hEntry' hReserved hHeld' => ?_⟩
    -- the release of a reserved entry does not raise
    obtain rfl := Table.eq_of_key_eq hEntry' hHeld ((hHolds _ hHeld').trans hHeldId.symm)
    obtain ⟨p, hp⟩ := CreditTables.release_succeeds hCredit hHeld hHeldBusiness hReserved
      (hClock _ hHeld) .executionIntegrity
    rw [hHeldId, h] at hp
    simp at hp

/-- The failing step releases the entry of the message, if it still owns the claim. -/
theorem failStep_accounts {reservation : AICreditLedgerSnapshot} {token : Uuid}
    {code : AIExecutionErrorCode} (hPhase : e.phase = .failing reservation token code)
    (now : Datetime) :
    Accounts db e (e.failStep config db reservation token code now).1
      (e.failStep config db reservation token code now).2 := by
  have hHolds := not_holds (e := e) (by simp [hPhase])
  unfold failStep
  split
  · next db' message done h =>
    obtain ⟨row, -, ⟨rfl, -⟩ | ⟨-, hFails⟩⟩ := AiDatabase.failClaim_eq_ok h
    · exact .of_eq rfl hHolds
    · obtain ⟨entry, account, -, -, -, hEntry, -, hCase, -, -, -⟩ := hFails
      obtain ⟨hMem, -, -⟩ := CreditTables.entryById_eq_some hEntry
      -- The entry was released before, or is now.
      rcases hCase with ⟨-, -, hLedger⟩ | ⟨-, -, hLedger⟩
      · exact .of_eq hLedger hHolds
      · exact ⟨fun entry' hEntry' => .inl (wasThere_of_update hLedger hMem
          (entry.sameOrigin_markReleased _ _) (by simp [AICreditLedgerEntry.markReleased]) entry'
          hEntry'), fun _ _ _ h => absurd h (hHolds _)⟩
  · exact .of_eq rfl hHolds

/-- The completing step consumes the entry of the message, if it still owns the claim. -/
theorem completeStep_accounts {reservation : AICreditLedgerSnapshot} {token : Uuid}
    {generation : GeminiGeneration} (hPhase : e.phase = .generated reservation token generation)
    (now : Datetime) (assistantId : Uuid) :
    Accounts db e (e.completeStep config db reservation token generation now assistantId).1
      (e.completeStep config db reservation token generation now assistantId).2 := by
  have hHolds := not_holds (e := e) (by simp [hPhase])
  unfold completeStep
  split
  · next db' message result h =>
    obtain ⟨row, -, ⟨rfl, -⟩ | hCompletes⟩ := AiDatabase.completeClaim_eq_ok h
    · exact .of_eq rfl hHolds
    · obtain ⟨entry, account, updated, -, -, -, hEntry, -, -, -, -, -, -, hLedger, -⟩ := hCompletes
      -- What is consumed is not reserved any more.
      obtain ⟨hMem, -, -⟩ := CreditTables.entryById_eq_some hEntry
      exact ⟨fun entry' hEntry' => .inl (wasThere_of_update hLedger hMem
        (entry.sameOrigin_markConsumed _) (by simp [AICreditLedgerEntry.markConsumed]) entry'
        hEntry'), fun _ _ _ h => absurd h (hHolds _)⟩
  · exact .of_eq rfl hHolds
  · exact .of_eq rfl hHolds

/-- Marking a message failed touches no entry. -/
theorem markFailedStep_accounts (hHolds : ∀ x, ¬Holds e x) (code : AIExecutionErrorCode)
    (now : Datetime) :
    Accounts db e (e.markFailedStep config db code now).1 (e.markFailedStep config db code now).2 := by
  unfold markFailedStep
  split
  · next db' message h =>
    obtain ⟨row, -, ⟨rfl, -⟩ | ⟨-, -, -, -, hRest⟩⟩ :=
      AiDatabase.markPreReservationFailure_eq_ok h
    · exact .of_eq rfl hHolds
    · exact .of_eq (by rw [hRest]) hHolds
  · exact .of_eq rfl hHolds

/-- The call of the provider writes no table. -/
theorem provideStep_accounts {reservation : AICreditLedgerSnapshot} {token : Uuid}
    {conversation : AIConversation} {prompt : Str}
    (hPhase : e.phase = .claimed reservation token conversation prompt)
    (outcome : Except GeminiGatewayError GeminiGeneration) :
    Accounts db e db (e.provideStep config reservation token conversation outcome) :=
  .of_eq rfl (not_holds (by simp [hPhase]))

/-- **Step lemma.** Every step accounts for the reservations, unless it is a claim of a
failed message. -/
theorem advance_accounts {s : ExecutionState} {step : ExecutionStep} {now : Datetime}
    (hInv : e.Invariant config s.db s.claims) (hCharge : s.db.ChargeInvariant)
    (hCredit : s.db.CreditInvariant) (hTokens : TokensKnown s.db s.claims)
    (hFresh : s.fresh step = true) (hClock : ∀ entry ∈ s.db.ledger, entry.reservedAt ≤ now)
    (hUnfailed : ∀ token, step = .claim token →
      ∀ row, s.db.messageById e.request.businessId e.messageId = some row →
        row.status ≠ .failed ∧ row.createdAt ≤ e.checkedAt + config.leaseDuration)
    (h : e.advance config s.db step now = some (db', e')) : Accounts s.db e db' e' := by
  unfold advance at h
  split at h
  case h_1 accountId entryId hPhase =>
    -- One case per step of `execute`.
    obtain ⟨rfl, rfl⟩ := Prod.mk.inj (Option.some.inj h)
    exact reserveStep_accounts hPhase accountId entryId
  case h_2 token reservation hPhase =>
    obtain ⟨rfl, rfl⟩ := Prod.mk.inj (Option.some.inj h)
    refine claimStep_accounts hInv hCharge hTokens hPhase ?_ (hUnfailed token rfl)
    intro claim hClaim
    simpa using List.all_eq_true.mp hFresh claim hClaim
  case h_3 outcome reservation token conversation prompt hPhase =>
    obtain ⟨rfl, rfl⟩ := Prod.mk.inj (Option.some.inj h)
    exact provideStep_accounts hPhase outcome
  case h_4 assistantId reservation token generation hPhase =>
    obtain ⟨rfl, rfl⟩ := Prod.mk.inj (Option.some.inj h)
    exact completeStep_accounts hPhase now assistantId
  case h_5 reservation token code hPhase =>
    obtain ⟨rfl, rfl⟩ := Prod.mk.inj (Option.some.inj h)
    exact failStep_accounts hPhase now
  case h_6 reservation hPhase =>
    obtain ⟨rfl, rfl⟩ := Prod.mk.inj (Option.some.inj h)
    exact releaseStep_accounts hInv hCredit hPhase hClock
  case h_7 code hPhase =>
    obtain ⟨rfl, rfl⟩ := Prod.mk.inj (Option.some.inj h)
    exact markFailedStep_accounts (not_holds (by simp [hPhase])) code _
  case h_8 hPhase =>
    obtain ⟨rfl, rfl⟩ := Prod.mk.inj (Option.some.inj h)
    exact markFailedStep_accounts (not_holds (by simp [hPhase])) _ now
  case h_9 => simp at h

end Execution

-- ---------------------------------------------------------------------------
-- Runs
-- ---------------------------------------------------------------------------

namespace ExecutionState

variable {config : ExecutionConfig} {s : ExecutionState}

/-- An attached entry stays attached. -/
theorem Attached.mono {db db' : AiDatabase} (h : db.MessagesAdvance db') {x : Uuid}
    (hx : Attached db x) : Attached db' x := by
  obtain ⟨m, hm, hRole, hCredit⟩ := hx
  obtain ⟨m', hm', hEvolves⟩ := h m hm
  exact ⟨m', hm', hEvolves.same.role.trans hRole, hEvolves.credit x hCredit⟩

/-- The reservations after the step of one execution that was put in its place. -/
private theorem accounted_set {i : Nat} {e e' : Execution} {db' : AiDatabase}
    (hAccounted : s.Accounted) (hClocked : s.Clocked) (hStarted : s.Started)
    (hGet : s.executions[i]? = some e)
    (hMessages : s.db.MessagesAdvance db') (hAccounts : Execution.Accounts s.db e db' e')
    {now : Datetime} (hNow : s.clock ≤ now) (claims : List (Uuid × Uuid)) :
    (ExecutionState.mk db' (s.executions.set i e') now claims).Accounted ∧
      (ExecutionState.mk db' (s.executions.set i e') now claims).Clocked := by
  have hMem : e ∈ s.executions := List.mem_of_getElem? hGet
  obtain ⟨hLt, -⟩ := List.getElem?_eq_some_iff.mp hGet
  have hPut : e' ∈ s.executions.set i e' := List.mem_set hLt e'
  refine ⟨fun entry' hEntry' hReserved => ?_, fun entry' hEntry' => ?_⟩
  · rcases hAccounts.entries entry' hEntry' with ⟨entry, hEntry, hId, -, hWas⟩ | ⟨-, hHolds⟩
    · rcases hAccounted entry hEntry (hWas hReserved) with hAttached | ⟨x, hx, hHolds⟩
      · exact .inl (hId ▸ hAttached.mono hMessages)
      · obtain ⟨j, hj⟩ := List.mem_iff_getElem?.mp hx
        by_cases hij : i = j
        · -- the holder is the execution that took the step
          subst hij
          obtain rfl := Option.some.inj (hGet.symm.trans hj)
          rcases hAccounts.held entry' hEntry' hReserved (hId ▸ hHolds) with h | h
          · exact .inl h
          · exact .inr ⟨e', hPut, h⟩
        · refine .inr ⟨x, ?_, hId ▸ hHolds⟩
          exact List.mem_of_getElem? (i := j) (by rw [List.getElem?_set_ne hij, hj])
    · exact .inr ⟨e', hPut, hHolds⟩
  · rcases hAccounts.entries entry' hEntry' with ⟨entry, hEntry, -, hAt, -⟩ | ⟨hAt, -⟩
    · exact Int.le_trans (hAt ▸ hClocked entry hEntry) hNow
    · exact Int.le_trans (hAt ▸ hStarted e hMem) hNow

/-- An action that leaves the ledger and the executions alone. -/
private theorem accounted_of_eq {s' : ExecutionState} (hAccounted : s.Accounted)
    (hClocked : s.Clocked) (hLedger : s'.db.ledger = s.db.ledger)
    (hMessages : s.db.MessagesAdvance s'.db) (hExecutions : s.executions ⊆ s'.executions)
    (hNow : s.clock ≤ s'.clock) : s'.Accounted ∧ s'.Clocked := by
  refine ⟨fun entry hEntry hReserved => ?_, fun entry hEntry => ?_⟩
  · rcases hAccounted entry (hLedger ▸ hEntry) hReserved with hAttached | ⟨e, he, hHolds⟩
    · exact .inl (hAttached.mono hMessages)
    · exact .inr ⟨e, hExecutions he, hHolds⟩
  · exact Int.le_trans (hClocked entry (hLedger ▸ hEntry)) hNow

/-- **Step lemma.** A step that claims no failed message accounts for every reservation. -/
theorem step_accounted (hInv : s.Invariant config) (hAccounted : s.Accounted)
    (hClocked : s.Clocked) (hStarted : s.Started) (timed : TimedAction)
    (hCond : s.claimsUnfailed config timed = true) :
    (step config s timed).Accounted ∧ (step config s timed).Clocked := by
  have hProgress := (step_invariant hInv timed).2
  rw [claimsUnfailed, Bool.and_eq_true] at hCond
  obtain ⟨hForward, hCond⟩ := hCond
  have hNow := clockForward_le hForward
  obtain ⟨now, action⟩ := timed
  -- An action that fails moves the clock only.
  have hIdle : ({ s with clock := now } : ExecutionState).Accounted ∧
      ({ s with clock := now } : ExecutionState).Clocked :=
    accounted_of_eq hAccounted hClocked rfl (.of_eq rfl) (fun _ h => h) hNow
  cases action with
  | submit request checkedAt messageId =>
    refine accounted_of_eq hAccounted hClocked ?_ hProgress.messages
      (List.subset_append_left _ _) hNow
    simp only [step, Execution.start]
    split
    · rfl
    · next db' submission h =>
      obtain ⟨digest, -, ⟨rfl, -⟩ | ⟨-, content, conversationId, -, -, hRest⟩⟩ :=
        AiDatabase.submitUserMessage_eq_ok h
      · rfl
      · rw [hRest]
  | subscriptions tables =>
    exact accounted_of_eq hAccounted hClocked rfl (.of_eq rfl) (fun _ h => h) hNow
  | converse conversation =>
    simp only [step] at hProgress ⊢
    split
    · exact hIdle
    · exact accounted_of_eq hAccounted hClocked rfl (.of_eq rfl) (fun _ h => h) hNow
  | adjust request ids =>
    simp only [step]
    split
    · exact hIdle
    · next db result hAdjust =>
      exact accounted_of_eq hAccounted hClocked (CreditDatabase.adjust_eq_ok hAdjust).2
        (.of_eq rfl) (fun _ h => h) hNow
  | advance i executionStep =>
    simp only [step] at hProgress ⊢
    split
    · exact hIdle
    · next e hGet =>
      have hMem : e ∈ s.executions := List.mem_of_getElem? hGet
      split
      · next hFresh =>
        split
        · exact hIdle
        · next db' e' hAdvance =>
          simp only [hGet, hFresh, if_true, hAdvance] at hProgress
          -- A step of one execution accounts for its own entry; the others keep theirs.
          refine accounted_set hAccounted hClocked hStarted hGet hProgress.messages ?_ hNow _
          refine Execution.advance_accounts (hInv.executions e hMem) hInv.charge hInv.credit
            hInv.tokens hFresh
            (fun entry hEntry => Int.le_trans (hClocked entry hEntry) hNow) ?_ hAdvance
          rintro token rfl row hRow
          simp only [hGet, Option.all_some, hRow, Bool.and_eq_true, bne_iff_ne,
            decide_eq_true_eq] at hCond
          exact hCond
      · exact hIdle

/-- **No leaked reservation.** On every run in which no claim finds its message failed:
once every execution has ended, what was reserved for a failed message is released. -/
theorem no_leaked_reservation (config : ExecutionConfig) (tables : SubscriptionTables)
    (businesses : Table Business) (conversations : Table AIConversation) (clock : Datetime)
    (as : List TimedAction)
    (hMeets : Meets (step config) (fun s timed => s.claimsUnfailed config timed = true)
      (init tables businesses conversations clock) as) :
    let s := run (step config) (init tables businesses conversations clock) as
    (∀ e ∈ s.executions, e.phase.hasEnded = true) →
      ∀ m ∈ s.db.messages, m.role = .user → m.status = .failed →
        ∀ entry ∈ s.db.ledger, entry.businessId = m.businessId →
          m.idempotencyKeyDigest = some entry.idempotencyKeyDigest → entry.status = .released := by
  intro s hEnded m hm hRole hFailed entry hEntry hBusiness hDigest
  obtain ⟨hInv, -, hAccounted, -⟩ :
      s.Invariant config ∧ s.Started ∧ s.Accounted ∧ s.Clocked := by
    refine run_invariant_of_meets
      (I := fun s => s.Invariant config ∧ s.Started ∧ s.Accounted ∧ s.Clocked) ?_
      ⟨invariant_init tables businesses conversations clock, by simp [Started, init],
        fun _ h => absurd h (Table.not_mem_empty _),
        fun _ h => absurd h (Table.not_mem_empty _)⟩ hMeets
    rintro s a ⟨hInv, hStarted, hAccounted, hClocked⟩ ha
    exact ⟨(step_invariant hInv a).1, step_started hStarted (Bool.and_eq_true _ _ ▸ ha).1,
      step_accounted hInv hAccounted hClocked hStarted a ha⟩
  -- the message an entry is attached to is the one with its key
  have hAttached : ∀ m' ∈ s.db.messages, m'.role = .user →
      m'.creditLedgerEntryId = some entry.id → m' = m := by
    intro m' hm' hRole' hCredit
    obtain ⟨e, he, hId, hBusiness', hDigest'⟩ := hInv.charge.attached m' hm' hRole' _ hCredit
    obtain rfl := Table.eq_of_key_eq he hEntry hId
    exact AiDatabase.eq_of_digest hm' hm (hBusiness'.symm.trans hBusiness) hDigest' hDigest
  cases hStatus : entry.status with
  | released => rfl
  | consumed =>
    obtain ⟨m', hm', hRole', hCompleted, hCredit⟩ := hInv.charge.consumed entry hEntry hStatus
    rw [hAttached m' hm' hRole' hCredit, hFailed] at hCompleted
    simp at hCompleted
  | reserved =>
    rcases hAccounted entry hEntry hStatus with ⟨m', hm', hRole', hCredit⟩ | ⟨e, he, r, -, hPhase⟩
    · obtain rfl := hAttached m' hm' hRole' hCredit
      obtain ⟨released, hReleasedMem, hId, hReleased⟩ :=
        hInv.charge.failed m' hm hRole hFailed _ hCredit
      obtain rfl := Table.eq_of_key_eq hReleasedMem hEntry hId
      simp [hReleased] at hStatus
    · have := hEnded e he
      rcases hPhase with h | h <;> simp [h, ExecutionPhase.hasEnded] at this

end ExecutionState

-- ---------------------------------------------------------------------------
-- A run that leaks a reservation
-- ---------------------------------------------------------------------------

namespace Sample

/-- SHA-256 on the one idempotency key of the runs below, `key-1`. -/
def sha256 (_ : List UInt8) : Str :=
  str "be2974546978e3739e6d6da85c4be9f334ce32df2b9fd4b6ff1b55c0d57e9d44"

def config (populateExisting : Bool) : ExecutionConfig where
  sha256 := sha256
  casefold := id
  groundingContext _ _ := some none
  geminiRequestTimeoutSeconds := 60
  populateExisting := populateExisting

/-- A business in a trial that ends at second 100. -/
def tables : SubscriptionTables where
  subscriptions := .single
    { id := 1, businessId := 1, createdAt := 0, status := .trialing, trialStartedAt := some 0,
      trialEndsAt := some (seconds 100) } (by decide)
  subscriptionEntitlements := .single
    { id := 1, businessId := 1, subscriptionId := 1, key := .aiFullResponses, source := .trial,
      limitValue := some trialAiFullResponsesPerPeriod } (by decide)

def start : ExecutionState :=
  .init tables .empty
    (.single { id := 1, businessId := 1, createdByUserId := 1, createdAt := 0, updatedAt := 0 }
      (by decide)) 0

def request : MessageRequest :=
  { businessId := 1, userId := 1, conversationId := 1, content := str "How did sales go?",
    idempotencyKey := str "key-1" }

/-- An action at a second of the clock. -/
def at' (second : Int) (action : ExecutionAction) : TimedAction := ⟨seconds second, action⟩

/-- The first request starts inside the trial and the second, with the same key, after it.
The second is denied and marks the message failed between the first one's reservation and
its claim. -/
def leakingRun : List TimedAction :=
  [at' 99 (.submit request (seconds 99) 1),
    at' 101 (.submit request (seconds 101) 2),
    at' 101 (.advance 1 (.reserve 1 1)),
    at' 102 (.advance 0 (.reserve 1 1)),
    at' 103 (.advance 1 .markFailed),
    at' 104 (.advance 0 (.claim 7))]

/-- A request whose provider call fails. -/
def failingRun : List TimedAction :=
  [at' 1 (.submit request (seconds 1) 1),
    at' 2 (.advance 0 (.reserve 1 1)),
    at' 3 (.advance 0 (.claim 7)),
    at' 4 (.advance 0 (.provide (.error .temporary))),
    at' 5 (.advance 0 .fail)]

end Sample

namespace ExecutionState

/-- Every execution has ended, a message is failed, and the entry of its key is reserved. -/
def Leaked (s : ExecutionState) : Prop :=
  (∀ e ∈ s.executions, e.phase.hasEnded = true) ∧
    ∃ m ∈ s.db.messages, (m.role = .user ∧ m.status = .failed) ∧
      ∃ entry ∈ s.db.ledger, entry.businessId = m.businessId ∧
        m.idempotencyKeyDigest = some entry.idempotencyKeyDigest ∧ entry.status = .reserved

instance (s : ExecutionState) : Decidable s.Leaked := by
  unfold Leaked
  infer_instance

/-- **A leak**, with the source's locked reads and with refreshed ones alike. -/
theorem leaked_reservation :
    (run (step (Sample.config false)) Sample.start Sample.leakingRun).Leaked ∧
      (run (step (Sample.config true)) Sample.start Sample.leakingRun).Leaked := by
  decide

/-- A failed provider call, on a run without a claim of a failed message. -/
theorem no_leaked_reservation_failed_call :
    let s := run (step (Sample.config false)) Sample.start Sample.failingRun
    (∀ e ∈ s.executions, e.phase.hasEnded = true) ∧
      ∀ m ∈ s.db.messages, m.role = .user → m.status = .failed →
        ∀ entry ∈ s.db.ledger, entry.businessId = m.businessId →
          m.idempotencyKeyDigest = some entry.idempotencyKeyDigest → entry.status = .released := by
  have hEnded : ∀ e ∈ (run (step (Sample.config false)) Sample.start
      Sample.failingRun).executions, e.phase.hasEnded = true := by decide
  exact ⟨hEnded, no_leaked_reservation _ _ _ _ _ Sample.failingRun (by decide) hEnded⟩

end ExecutionState

end SpikeBackend
