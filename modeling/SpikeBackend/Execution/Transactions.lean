import SpikeBackend.Credits.Moves

/-!
# What the transactions of an execution do

One lemma per transaction of `Model/AiExecution.lean`, read backwards from its success:
which instance it worked on, what it required of it and what it wrote.

* `submitUserMessage_eq_ok`, `claim_eq_ok`, `markPreReservationFailure_eq_ok`;
* `failClaim_eq_ok`, `completeClaim_eq_ok`, with the credit moves they make.
-/

namespace SpikeBackend

open Relational Text Outcome Session

namespace AiDatabase

variable {db db' : AiDatabase} {scope : Uuid}

-- ---------------------------------------------------------------------------
-- Lookups
-- ---------------------------------------------------------------------------

/-- What is found by id is the message of that id, in its business. -/
theorem messageById_eq_some {messageId : Uuid} {m : AIMessage}
    (h : db.messageById scope messageId = some m) :
    m ∈ db.messages ∧ m.businessId = scope ∧ m.id = messageId := by
  have hp := Table.prop_of_find? h
  rw [Bool.and_eq_true, beq_iff_eq, beq_iff_eq] at hp
  exact ⟨Table.mem_of_find? h, hp⟩

/-- What is found by digest is a message with that digest, in its business. -/
theorem messageByDigest_eq_some {digest : Str} {m : AIMessage}
    (h : db.messageByDigest scope digest = some m) :
    m ∈ db.messages ∧ m.businessId = scope ∧ m.idempotencyKeyDigest = some digest := by
  have hp := Table.prop_of_find? h
  rw [Bool.and_eq_true, beq_iff_eq, beq_iff_eq] at hp
  exact ⟨Table.mem_of_find? h, hp⟩

/-- The assistant's message found for a user message replies to it. -/
theorem assistantForUser_eq_some {userMessage m : AIMessage}
    (h : db.assistantForUser scope userMessage = some m) :
    m ∈ db.messages ∧ m.businessId = scope ∧ m.replyToMessageId = some userMessage.id := by
  have hp := Table.prop_of_find? h
  simp only [Bool.and_eq_true, beq_iff_eq] at hp
  exact ⟨Table.mem_of_find? h, hp.1.1.1, hp.1.2⟩

/-- Locking finds the entry and the account it is charged to. -/
theorem lockLedger_eq_ok {entryId : Uuid} {entry : AICreditLedgerEntry}
    {account : AICreditAccount} (h : db.lockLedger scope entryId = .ok (entry, account)) :
    db.entryById scope entryId = some entry ∧ db.accountForEntry scope entry = some account := by
  simp only [lockLedger, bind_eq_ok, required_eq_ok] at h
  obtain ⟨entry', hEntry, account', hAccount, hDone⟩ := h
  simp only [pure, Except.pure, Except.ok.injEq, Prod.mk.injEq] at hDone
  obtain ⟨rfl, rfl⟩ := hDone
  exact ⟨hEntry, hAccount⟩

-- ---------------------------------------------------------------------------
-- Submission
-- ---------------------------------------------------------------------------

/-- The message a submission inserts. -/
def submittedMessage (request : MessageRequest) (content digest : Str) (createdAt : Datetime)
    (messageId conversationId : Uuid) : AIMessage where
  id := messageId
  businessId := request.businessId
  conversationId := conversationId
  role := .user
  content := content
  createdByUserId := some request.userId
  idempotencyKeyDigest := some digest
  createdAt := createdAt
  updatedAt := createdAt

/-- **Submission.** It answers with the message of the key as it stands, or inserts a
pending one that no other message shares its key with. -/
theorem submitUserMessage_eq_ok {sha256 : List UInt8 → Str} {request : MessageRequest}
    {createdAt : Datetime} {messageId : Uuid} {submission : AIMessageSubmission}
    (h : db.submitUserMessage sha256 request createdAt messageId = .ok (db', submission)) :
    ∃ digest, digestAiIdempotencyKey sha256 request.idempotencyKey = .ok digest ∧
      ((db' = db ∧ submission.replayed = true ∧ submission.userMessage.role = .user ∧
          db.messageByDigest request.businessId digest = some submission.userMessage) ∨
        (submission.replayed = false ∧ ∃ content conversationId,
          submission.userMessage = submittedMessage request content digest createdAt messageId
            conversationId ∧
          db.messages.insert? submission.userMessage = some db'.messages ∧
          db' = { db with conversations := db'.conversations, messages := db'.messages })) := by
  -- A message found under the key is returned as it is, marked as a replay.
  have hExisting : ∀ {content : Str} {m : AIMessage} {submission : AIMessageSubmission},
      db.submissionForExisting request content m = .ok submission →
        submission.userMessage = m ∧ submission.replayed = true ∧ m.role = .user := by
    intro content m submission h
    simp only [submissionForExisting, bind_eq_ok, ensure_eq_ok, required_eq_ok] at h
    obtain ⟨-, hValid, conversation, -, hDone⟩ := h
    simp only [pure, Except.pure, Except.ok.injEq] at hDone
    rw [← hDone]
    exact ⟨rfl, rfl, hValid.1⟩
  simp only [submitUserMessage, bind_eq_ok] at h
  obtain ⟨content, -, digest, hDigest, h⟩ := h
  refine ⟨digest, ?_, ?_⟩
  · cases hd : digestAiIdempotencyKey sha256 request.idempotencyKey with
    | error e => simp [hd, Except.mapError] at hDigest
    | ok d => simpa [hd, Except.mapError] using hDigest
  -- A replay writes nothing; a first request inserts the message.
  cases hFound : db.messageByDigest request.businessId digest with
  | some m =>
    simp only [hFound, bind_eq_ok] at h
    obtain ⟨submission', hSubmission, hDone⟩ := h
    simp only [pure, Except.pure, Except.ok.injEq, Prod.mk.injEq] at hDone
    obtain ⟨rfl, rfl⟩ := hDone
    obtain ⟨hMessage, hReplayed, hRole⟩ := hExisting hSubmission
    exact .inl ⟨rfl, hReplayed, by rw [hMessage, hRole], by rw [hMessage]⟩
  | none =>
    simp only [hFound] at h
    split at h
    · simp [throw, throwThe, MonadExceptOf.throw] at h
    · simp only [insertUserMessage, bind_eq_ok, required_eq_ok] at h
      obtain ⟨conversation, -, conversations, -, messages, hMessages, hDone⟩ := h
      simp only [pure, Except.pure, Except.ok.injEq, Prod.mk.injEq] at hDone
      obtain ⟨rfl, rfl⟩ := hDone
      exact .inr ⟨rfl, content, conversation.id, rfl, hMessages, rfl⟩

-- ---------------------------------------------------------------------------
-- Claim
-- ---------------------------------------------------------------------------

/-- The write of a claim updates the message and nothing else. -/
theorem writeClaim_eq_ok {row message claimed : AIMessage} {purpose : AIConversationPurpose}
    {groundingContext : Option Str} {prompt : Str}
    (h : db.writeClaim scope row message claimed purpose groundingContext = .ok (db', prompt)) :
    db.messages.update? (claimed.flush message row) = some db'.messages ∧
      db' = { db with messages := db'.messages } := by
  cases purpose with
  | chat =>
    simp only [writeClaim, bind_eq_ok, required_eq_ok] at h
    obtain ⟨messages, hMessages, prompt', -, hDone⟩ := h
    simp only [pure, Except.pure, Except.ok.injEq, Prod.mk.injEq] at hDone
    obtain ⟨rfl, -⟩ := hDone
    exact ⟨hMessages, rfl⟩
  | dashboardAnalysis =>
    simp only [writeClaim, bind_eq_ok, required_eq_ok] at h
    -- An analysis builds its prompt before it writes.
    obtain ⟨prompt', -, messages, hMessages, hDone⟩ := h
    simp only [pure, Except.pure, Except.ok.injEq, Prod.mk.injEq] at hDone
    obtain ⟨rfl, -⟩ := hDone
    exact ⟨hMessages, rfl⟩

/-- What a successful claim did, by the state of the instance it worked on. -/
inductive Claims (config : ExecutionConfig) (db : AiDatabase) (loaded : Option AIMessage)
    (row : AIMessage) (reservation : AICreditLedgerSnapshot) (now : Datetime) (token : Uuid)
    (db' : AiDatabase) (message : AIMessage) (claim : ExecutionClaim) : Prop
  | completed
      (hStatus : (locked loaded row).status = .completed)
      (hSame : db' = db) (hMessage : message = locked loaded row)
      (hClaim : claim.completed = true)
  | inProgress
      (hStatus : (locked loaded row).status = .pending)
      (hReserved : reservation.status = .reserved)
      (hLease : (locked loaded row).leaseActive now = true)
      (hSame : db' = db) (hMessage : message = locked loaded row)
      (hClaim : claim.completed = false ∧ claim.token = none)
  | claimed
      (hStatus : (locked loaded row).status = .pending)
      (hReserved : reservation.status = .reserved)
      (hCredit : (locked loaded row).creditLedgerEntryId = none ∨
        (locked loaded row).creditLedgerEntryId = some reservation.entryId)
      (hLease : (locked loaded row).leaseActive now = false)
      (hMessage : message = (locked loaded row).claimFor reservation.entryId token
        (now + config.leaseDuration) now)
      (hMessages : db.messages.update? (message.flush (locked loaded row) row) =
        some db'.messages)
      (hRest : db' = { db with messages := db'.messages })
      (hClaim : claim.completed = false ∧ claim.token = some token ∧ claim.prompt.isSome)

/-- **Claim.** Everything a successful claim can do. -/
theorem claim_eq_ok {config : ExecutionConfig} {loaded : Option AIMessage} {messageId : Uuid}
    {reservation : AICreditLedgerSnapshot} {now : Datetime} {token : Uuid} {message : AIMessage}
    {claim : ExecutionClaim}
    (h : db.claim scope config loaded messageId reservation now token =
      .ok (db', message, claim)) :
    ∃ row, db.messageById scope messageId = some row ∧
      Claims config db loaded row reservation now token db' message claim := by
  simp only [AiDatabase.claim, bind_eq_ok, required_eq_ok] at h
  obtain ⟨row, hRow, conversation, -, groundingContext, -, h⟩ := h
  refine ⟨row, hRow, ?_⟩
  -- The status is the instance's, the row was locked but not read again.
  cases hStatus : (locked loaded row).status with
  | completed =>
    simp only [hStatus, bind_eq_ok, required_eq_ok] at h
    obtain ⟨assistant, -, snapshot, -, hDone⟩ := h
    simp only [pure, Except.pure, Except.ok.injEq, Prod.mk.injEq] at hDone
    obtain ⟨rfl, rfl, rfl⟩ := hDone
    exact .completed hStatus rfl rfl rfl
  | failed => simp [hStatus, throw, throwThe, MonadExceptOf.throw] at h
  | pending =>
    simp only [hStatus, bind_eq_ok, ensure_eq_ok] at h
    obtain ⟨-, hReserved, -, hCredit, h⟩ := h
    split at h
    · next hLease =>
      simp only [pure, Except.pure, Except.ok.injEq, Prod.mk.injEq] at h
      obtain ⟨rfl, rfl, rfl⟩ := h
      -- Another worker holds the lease.
      exact .inProgress hStatus hReserved hLease rfl rfl ⟨rfl, rfl⟩
    · next hLease =>
      simp only [bind_eq_ok] at h
      obtain ⟨⟨db'', prompt⟩, hWrite, hDone⟩ := h
      simp only [pure, Except.pure, Except.ok.injEq, Prod.mk.injEq] at hDone
      obtain ⟨rfl, rfl, rfl⟩ := hDone
      obtain ⟨hMessages, hRest⟩ := writeClaim_eq_ok hWrite
      exact .claimed hStatus hReserved hCredit (by simpa using hLease) rfl hMessages hRest
        ⟨rfl, rfl, rfl⟩

-- ---------------------------------------------------------------------------
-- Failure
-- ---------------------------------------------------------------------------

/-- **Failure before a reservation is attached.** -/
theorem markPreReservationFailure_eq_ok {loaded : Option AIMessage} {messageId : Uuid}
    {code : AIExecutionErrorCode} {now : Datetime} {message : AIMessage}
    (h : db.markPreReservationFailure scope loaded messageId code now = .ok (db', message)) :
    ∃ row, db.messageById scope messageId = some row ∧
      ((db' = db ∧ message = locked loaded row) ∨
        ((locked loaded row).status = .pending ∧
          (locked loaded row).creditLedgerEntryId = none ∧
          message = (locked loaded row).markFailed code now ∧
          db.messages.update? (message.flush (locked loaded row) row) = some db'.messages ∧
          db' = { db with messages := db'.messages })) := by
  simp only [markPreReservationFailure, bind_eq_ok, required_eq_ok] at h
  obtain ⟨row, hRow, h⟩ := h
  refine ⟨row, hRow, ?_⟩
  split at h
  · simp only [pure, Except.pure, Except.ok.injEq, Prod.mk.injEq] at h
    -- The message has gone on in the meantime.
    exact .inl ⟨h.1.symm, h.2.symm⟩
  · next hOpen =>
    simp only [not_or, not_not] at hOpen
    simp only [bind_eq_ok, required_eq_ok] at h
    obtain ⟨messages, hMessages, hDone⟩ := h
    simp only [pure, Except.pure, Except.ok.injEq, Prod.mk.injEq] at hDone
    obtain ⟨rfl, rfl⟩ := hDone
    exact .inr ⟨hOpen.1, hOpen.2, rfl, hMessages, rfl⟩

/-- A failure releases a reserved entry and leaves a released one. -/
theorem releaseForFailure_eq_ok {entry : AICreditLedgerEntry} {account : AICreditAccount}
    {code : AIExecutionErrorCode} {now : Datetime}
    (h : db.releaseForFailure entry account code now = .ok db') :
    (entry.status = .released ∧ db' = db) ∨
      (entry.status = .reserved ∧
        db.accounts.update? (account.settle .released) = some db'.accounts ∧
        db.ledger.update? (entry.markReleased code.value now) = some db'.ledger ∧
        db' = { db with accounts := db'.accounts, ledger := db'.ledger }) := by
  cases hStatus : entry.status with
  | reserved =>
    simp only [releaseForFailure, hStatus, bind_eq_ok, required_eq_ok, ensure_eq_ok] at h
    obtain ⟨-, -, accounts, hAccounts, ledger, hLedger, hDone⟩ := h
    simp only [pure, Except.pure, Except.ok.injEq] at hDone
    subst hDone
    exact .inr ⟨rfl, hAccounts, hLedger, rfl⟩
  | released =>
    simp only [releaseForFailure, hStatus, pure, Except.pure, Except.ok.injEq] at h
    -- Given back already, by an earlier attempt.
    exact .inl ⟨rfl, h.symm⟩
  | consumed => simp [releaseForFailure, hStatus, throw, throwThe, MonadExceptOf.throw] at h

/-- What a claim that was failed by its own token did. -/
inductive Fails (db : AiDatabase) (scope : Uuid) (loaded : Option AIMessage) (row : AIMessage)
    (entryId token : Uuid) (code : AIExecutionErrorCode) (now : Datetime) (db' : AiDatabase)
    (message : AIMessage) : Prop
  | intro (entry : AICreditLedgerEntry) (account : AICreditAccount)
      (hStatus : (locked loaded row).status = .pending)
      (hToken : (locked loaded row).processingToken = some token)
      (hCredit : (locked loaded row).creditLedgerEntryId = some entryId)
      (hEntry : db.entryById scope entryId = some entry)
      (hAccount : db.accountForEntry scope entry = some account)
      (hCase : (entry.status = .released ∧ db'.accounts = db.accounts ∧
          db'.ledger = db.ledger) ∨
        (entry.status = .reserved ∧
          db.accounts.update? (account.settle .released) = some db'.accounts ∧
          db.ledger.update? (entry.markReleased code.value now) = some db'.ledger))
      (hMessage : message = (locked loaded row).markFailed code now)
      (hMessages : db.messages.update? (message.flush (locked loaded row) row) =
        some db'.messages)
      (hRest : db' =
        { db with accounts := db'.accounts, ledger := db'.ledger, messages := db'.messages })

/-- **Failure of a claim.** A message that is not pending under the token stays as it is. -/
theorem failClaim_eq_ok {loaded : Option AIMessage} {messageId entryId token : Uuid}
    {code : AIExecutionErrorCode} {now : Datetime} {message : AIMessage} {done : Bool}
    (h : db.failClaim scope loaded messageId entryId token code now = .ok (db', message, done)) :
    ∃ row, db.messageById scope messageId = some row ∧
      ((db' = db ∧ message = locked loaded row ∧ done = false) ∨
        (done = true ∧ Fails db scope loaded row entryId token code now db' message)) := by
  simp only [failClaim, bind_eq_ok, required_eq_ok] at h
  obtain ⟨row, hRow, h⟩ := h
  refine ⟨row, hRow, ?_⟩
  split at h
  · simp only [pure, Except.pure, Except.ok.injEq, Prod.mk.injEq] at h
    -- The claim is no longer this worker's.
    exact .inl ⟨h.1.symm, h.2.1.symm, h.2.2.symm⟩
  · next hOpen =>
    simp only [not_or, not_not] at hOpen
    simp only [bind_eq_ok, required_eq_ok, ensure_eq_ok] at h
    obtain ⟨-, hCredit, ⟨entry, account⟩, hLock, db₁, hRelease, messages, hMessages, hDone⟩ := h
    simp only [pure, Except.pure, Except.ok.injEq, Prod.mk.injEq] at hDone
    obtain ⟨rfl, rfl, rfl⟩ := hDone
    obtain ⟨hEntry, hAccount⟩ := lockLedger_eq_ok hLock
    obtain ⟨hReleased, rfl⟩ | ⟨hReserved, hAccounts, hLedger, hDb₁⟩ :=
      releaseForFailure_eq_ok hRelease
    · exact .inr ⟨rfl, .intro entry account hOpen.1 hOpen.2 hCredit hEntry hAccount
        (.inl ⟨hReleased, rfl, rfl⟩) rfl hMessages rfl⟩
    · -- The messages are written after the ledger, which leaves them alone.
      rw [hDb₁] at hMessages
      exact .inr ⟨rfl, .intro entry account hOpen.1 hOpen.2 hCredit hEntry hAccount
        (.inr ⟨hReserved, hAccounts, hLedger⟩) rfl hMessages (by rw [hDb₁])⟩

/-- Failing a claim is a move of the ledger. -/
theorem Fails.move {loaded : Option AIMessage} {row : AIMessage} {entryId token : Uuid}
    {code : AIExecutionErrorCode} {now : Datetime} {message : AIMessage}
    (h : Fails db scope loaded row entryId token code now db' message) :
    db.toCreditTables.Move db'.toCreditTables := by
  obtain ⟨entry, account, -, -, -, hEntry, hAccount, hCase, -, -, -⟩ := h
  obtain ⟨-, hAccounts, hLedger⟩ | ⟨hReserved, hAccounts, hLedger⟩ := hCase
  · exact .idle hAccounts hLedger
  · obtain ⟨hMem, -, -⟩ := CreditTables.entryById_eq_some hEntry
    obtain ⟨hAcc, -, hId, -⟩ := CreditTables.accountForEntry_eq_some hAccount
    exact .settle account entry (entry.markReleased code.value now) hAcc hMem hId hReserved
      (by simp [AICreditLedgerEntry.markReleased]) (entry.sameOrigin_markReleased _ _) hAccounts
      hLedger

/-- The failing transaction is a move of the ledger. -/
theorem failClaim_move {loaded : Option AIMessage} {messageId entryId token : Uuid}
    {code : AIExecutionErrorCode} {now : Datetime} {message : AIMessage} {done : Bool}
    (h : db.failClaim scope loaded messageId entryId token code now = .ok (db', message, done)) :
    db.toCreditTables.Move db'.toCreditTables := by
  obtain ⟨row, -, ⟨rfl, -⟩ | ⟨-, hFails⟩⟩ := failClaim_eq_ok h
  · exact .refl _
  · exact hFails.move

-- ---------------------------------------------------------------------------
-- Completion
-- ---------------------------------------------------------------------------

/-- What a completion that charged its entry did. -/
inductive Completes (db : AiDatabase) (scope : Uuid) (loaded : Option AIMessage)
    (row : AIMessage) (entryId token : Uuid) (generation : GeminiGeneration) (now : Datetime)
    (assistantId : Uuid) (db' : AiDatabase) (message : AIMessage) : Prop
  | intro (entry : AICreditLedgerEntry) (account : AICreditAccount) (updated : Table AIMessage)
      (hStatus : (locked loaded row).status = .pending)
      (hToken : (locked loaded row).processingToken = some token)
      (hCredit : (locked loaded row).creditLedgerEntryId = some entryId)
      (hEntry : db.entryById scope entryId = some entry)
      (hAccount : db.accountForEntry scope entry = some account)
      (hReserved : entry.status = .reserved)
      (hMessage : message = (locked loaded row).markCompleted now)
      (hUpdated : db.messages.update? (message.flush (locked loaded row) row) = some updated)
      (hAssistant : updated.insert?
        (assistantMessage scope (locked loaded row) assistantId entry.id generation now) =
          some db'.messages)
      (hAccounts : db.accounts.update? (account.settle .consumed) = some db'.accounts)
      (hLedger : db.ledger.update? (entry.markConsumed now) = some db'.ledger)
      (hRest : db' =
        { db with
          accounts := db'.accounts
          ledger := db'.ledger
          messages := db'.messages
          conversations := db'.conversations })

/-- **Completion.** Unless the instance is pending under the token, nothing is written. -/
theorem completeClaim_eq_ok {loaded : Option AIMessage} {messageId entryId token : Uuid}
    {generation : GeminiGeneration} {now : Datetime} {assistantId : Uuid} {message : AIMessage}
    {result : AIExecutionResult}
    (h : db.completeClaim scope loaded messageId entryId token generation now assistantId =
      .ok (db', message, result)) :
    ∃ row, db.messageById scope messageId = some row ∧
      ((db' = db ∧ message = locked loaded row) ∨
        Completes db scope loaded row entryId token generation now assistantId db' message) := by
  simp only [completeClaim, bind_eq_ok, required_eq_ok] at h
  obtain ⟨row, hRow, conversation, -, h⟩ := h
  refine ⟨row, hRow, ?_⟩
  cases hStatus : (locked loaded row).status with
  | completed =>
    simp only [hStatus, bind_eq_ok, required_eq_ok] at h
    obtain ⟨assistant, -, snapshot, -, hDone⟩ := h
    simp only [pure, Except.pure, Except.ok.injEq, Prod.mk.injEq] at hDone
    -- Another worker has completed the message: its reply is returned.
    exact .inl ⟨hDone.1.symm, hDone.2.1.symm⟩
  | failed => simp [hStatus, throw, throwThe, MonadExceptOf.throw] at h
  | pending =>
    simp only [hStatus] at h
    split at h
    · simp only [pure, Except.pure, Except.ok.injEq, Prod.mk.injEq] at h
      exact .inl ⟨h.1.symm, h.2.1.symm⟩
    · next hOpen =>
      simp only [not_or, not_not] at hOpen
      simp only [bind_eq_ok, ensure_eq_ok] at h
      obtain ⟨⟨entry, account⟩, hLock, -, hReserved, -, -, h⟩ := h
      obtain ⟨hEntry, hAccount⟩ := lockLedger_eq_ok hLock
      -- The message, the reply, the account, the entry and the conversation are written together.
      simp only [writeCompletion, bind_eq_ok, required_eq_ok] at h
      obtain ⟨updated, hUpdated, messages, hAssistant, accounts, hAccounts, ledger, hLedger,
        conversations, -, hDone⟩ := h
      simp only [pure, Except.pure, Except.ok.injEq, Prod.mk.injEq] at hDone
      obtain ⟨rfl, rfl, -⟩ := hDone
      exact .inr (.intro entry account updated hStatus hOpen.1 hOpen.2 hEntry hAccount hReserved
        rfl hUpdated hAssistant hAccounts hLedger rfl)

/-- Completing a claim is a move of the ledger. -/
theorem Completes.move {loaded : Option AIMessage} {row : AIMessage} {entryId token : Uuid}
    {generation : GeminiGeneration} {now : Datetime} {assistantId : Uuid} {message : AIMessage}
    (h : Completes db scope loaded row entryId token generation now assistantId db' message) :
    db.toCreditTables.Move db'.toCreditTables := by
  obtain ⟨entry, account, updated, -, -, -, hEntry, hAccount, hReserved, -, -, -, hAccounts,
    hLedger, -⟩ := h
  obtain ⟨hMem, -, -⟩ := CreditTables.entryById_eq_some hEntry
  obtain ⟨hAcc, -, hId, -⟩ := CreditTables.accountForEntry_eq_some hAccount
  exact .settle account entry (entry.markConsumed now) hAcc hMem hId hReserved
    (by simp [AICreditLedgerEntry.markConsumed]) (entry.sameOrigin_markConsumed _) hAccounts
    hLedger

/-- The completing transaction is a move of the ledger. -/
theorem completeClaim_move {loaded : Option AIMessage} {messageId entryId token : Uuid}
    {generation : GeminiGeneration} {now : Datetime} {assistantId : Uuid} {message : AIMessage}
    {result : AIExecutionResult}
    (h : db.completeClaim scope loaded messageId entryId token generation now assistantId =
      .ok (db', message, result)) :
    db.toCreditTables.Move db'.toCreditTables := by
  obtain ⟨row, -, ⟨rfl, -⟩ | hCompletes⟩ := completeClaim_eq_ok h
  · exact .refl _
  · exact hCompletes.move

end AiDatabase

end SpikeBackend
