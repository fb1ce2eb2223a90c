import SpikeBackend.Lib.Session
import SpikeBackend.Model.AiPrompt
import Mathlib.Data.List.Sort

/-!
# AI execution

The transactions of `AIExecutionService` (`app/services/ai_execution.py`). Each takes
the committed database and the instance of the message that the session of the request
still holds: a locked read answers with that instance, and a flush writes the columns
that differ from it. `execute` itself, which runs them one after the other around the
provider call, is the state machine of `Model/AiExecutionRuns.lean`.
-/

namespace SpikeBackend

open Relational Text Outcome Session

inductive AIExecutionErrorCode
  | subscriptionRequired
  | subscriptionInactive
  | entitlementDenied
  | creditLimitReached
  | providerConfiguration
  | providerTemporary
  | providerRejected
  | providerBlocked
  | providerIncomplete
  | providerInvalid
  | responseTooLarge
  | persistenceFailure
  | executionIntegrity
  deriving DecidableEq, Repr

namespace AIExecutionErrorCode

def all : List AIExecutionErrorCode :=
  [.subscriptionRequired, .subscriptionInactive, .entitlementDenied, .creditLimitReached,
    .providerConfiguration, .providerTemporary, .providerRejected, .providerBlocked,
    .providerIncomplete, .providerInvalid, .responseTooLarge, .persistenceFailure,
    .executionIntegrity]

def value : AIExecutionErrorCode → Str
  | .subscriptionRequired => str "subscription_required"
  | .subscriptionInactive => str "subscription_inactive"
  | .entitlementDenied => str "entitlement_denied"
  | .creditLimitReached => str "credit_limit_reached"
  | .providerConfiguration => str "provider_configuration"
  | .providerTemporary => str "provider_temporary"
  | .providerRejected => str "provider_rejected"
  | .providerBlocked => str "provider_blocked"
  | .providerIncomplete => str "provider_incomplete"
  | .providerInvalid => str "provider_invalid"
  | .responseTooLarge => str "response_too_large"
  | .persistenceFailure => str "persistence_failure"
  | .executionIntegrity => str "execution_integrity"

/-- `AIExecutionErrorCode(value)`; `none` is a `ValueError`. -/
def ofValue? (value : Str) : Option AIExecutionErrorCode := all.find? (·.value == value)

/-- Every code fits the column it is stored in and the reason of a released entry. -/
theorem value_fits (code : AIExecutionErrorCode) :
    trimmedBetween 64 code.value = true ∧ strip code.value = code.value ∧
      trimmedBetween 255 code.value = true := by
  cases code <;> decide

theorem ofValue?_value (code : AIExecutionErrorCode) : ofValue? code.value = some code := by
  cases code <;> decide

end AIExecutionErrorCode

inductive AIExecutionError
  | failed (code : AIExecutionErrorCode)
  | integrity
  | conversation (error : AIConversationError)
  | credit (error : AICreditError)
  | database

/-- The failures of the provider gateway. -/
inductive GeminiGatewayError
  | configuration
  | temporary
  | blocked
  | requestRejected
  | incompleteResponse
  | invalidResponse
  | requestValidation
  | other
  deriving DecidableEq, Repr

/-- `_provider_error_code`. -/
def providerErrorCode : GeminiGatewayError → AIExecutionErrorCode
  | .configuration => .providerConfiguration
  | .temporary => .providerTemporary
  | .blocked => .providerBlocked
  | .requestRejected => .providerRejected
  | .incompleteResponse => .providerIncomplete
  | .invalidResponse | .requestValidation => .providerInvalid
  | .other => .providerTemporary

/-- `_reservation_error_code`, for the errors `execute` catches; the others propagate. -/
def reservationErrorCode : AICreditError → Option AIExecutionErrorCode
  | .subscriptionRequired => some .subscriptionRequired
  | .subscriptionInactive _ => some .subscriptionInactive
  | .entitlementDenied => some .entitlementDenied
  | .entitlementLimitReached => some .creditLimitReached
  | .integrity => some .executionIntegrity
  | _ => none

structure GeminiGeneration where
  text : Str
  providerResponseId : Option Str
  modelVersion : Str
  finishReason : Str
  promptTokenCount : Option Int
  responseTokenCount : Option Int
  thoughtsTokenCount : Option Int
  totalTokenCount : Option Int

/-- `_usage_from_snapshot`. -/
def usageFromSnapshot (snapshot : AICreditLedgerSnapshot) : AICreditUsageSummary where
  accountId := some snapshot.accountId
  subscriptionId := snapshot.subscriptionId
  businessId := snapshot.businessId
  limitValue := snapshot.limitValue
  reservedCount := snapshot.reservedCount
  consumedCount := snapshot.consumedCount
  remaining := snapshot.remaining
  periodStartedAt := snapshot.periodStartedAt
  periodEndsAt := snapshot.periodEndsAt

structure AIExecutionResult where
  conversation : AIConversation
  userMessage : AIMessage
  assistantMessage : Option AIMessage
  usage : Option AICreditUsageSummary
  replayed : Bool
  inProgress : Bool

/-- `_ExecutionClaim`. -/
structure ExecutionClaim where
  conversation : AIConversation
  userMessage : AIMessage
  assistantMessage : Option AIMessage
  prompt : Option Str
  token : Option Uuid
  usage : Option AICreditUsageSummary
  inProgress : Bool
  completed : Bool

/-- What the service is built with: the standard library's SHA-256 and `str.casefold`,
the setting, and the text of the immutable dashboard snapshot a conversation is grounded
in: `some none` for a conversation without a snapshot, `none` where reading or rendering
it is an `AIExecutionIntegrityError`. The source's locked reads of a message do not ask
for `populate_existing`; the flag stands for the alternative. -/
structure ExecutionConfig where
  sha256 : List UInt8 → Str
  casefold : Str → Str
  groundingContext : Uuid → AIConversation → Option (Option Str)
  geminiRequestTimeoutSeconds : Int
  populateExisting : Bool := false

/-- `lease_duration`. -/
def ExecutionConfig.leaseDuration (config : ExecutionConfig) : Int :=
  seconds (max (config.geminiRequestTimeoutSeconds + 30) 90)

/-- The flush of a modified instance over the row: the columns the services set after the
insert. -/
def AIMessage.flush (modified loaded row : AIMessage) : AIMessage :=
  { row with
    status := column loaded.status modified.status row.status
    creditLedgerEntryId :=
      column loaded.creditLedgerEntryId modified.creditLedgerEntryId row.creditLedgerEntryId
    processingToken := column loaded.processingToken modified.processingToken row.processingToken
    processingLeaseExpiresAt :=
      column loaded.processingLeaseExpiresAt modified.processingLeaseExpiresAt
        row.processingLeaseExpiresAt
    completedAt := column loaded.completedAt modified.completedAt row.completedAt
    errorCode := column loaded.errorCode modified.errorCode row.errorCode
    updatedAt := column loaded.updatedAt modified.updatedAt row.updatedAt }

/-- The lease of the message as `_claim` tests it. -/
def AIMessage.leaseActive (m : AIMessage) (now : Datetime) : Bool :=
  m.processingToken.isSome && m.processingLeaseExpiresAt.any (now < ·)

/-- The message as `_claim` leaves it. -/
def AIMessage.claimFor (m : AIMessage) (entryId token : Uuid) (leaseExpiresAt now : Datetime) :
    AIMessage :=
  { m with
    creditLedgerEntryId := some entryId
    processingToken := some token
    processingLeaseExpiresAt := some leaseExpiresAt
    updatedAt := now }

/-- The message as `_complete_claim` leaves it. -/
def AIMessage.markCompleted (m : AIMessage) (now : Datetime) : AIMessage :=
  { m with
    status := .completed
    completedAt := some now
    errorCode := none
    processingToken := none
    processingLeaseExpiresAt := none
    updatedAt := now }

/-- The message as `_mark_pre_reservation_failure` and `_fail_claim` leave it. -/
def AIMessage.markFailed (m : AIMessage) (code : AIExecutionErrorCode) (now : Datetime) :
    AIMessage :=
  { m with
    status := .failed
    completedAt := some now
    errorCode := some code.value
    processingToken := none
    processingLeaseExpiresAt := none
    updatedAt := now }

namespace AiDatabase

variable (db : AiDatabase) (scope : Uuid)

/-- `_assistant_for_user`. -/
def assistantForUser (userMessage : AIMessage) : Option AIMessage :=
  db.messages.find? fun m =>
    m.businessId == scope && m.conversationId == userMessage.conversationId &&
      m.replyToMessageId == some userMessage.id && m.role == .assistant

/-- Newest first, by creation and then by identifier. -/
def newerFirst (a b : AIMessage) : Prop :=
  b.createdAt < a.createdAt ∨ (b.createdAt = a.createdAt ∧ b.id ≤ a.id)

instance : DecidableRel newerFirst := fun a b =>
  inferInstanceAs (Decidable (b.createdAt < a.createdAt ∨ (b.createdAt = a.createdAt ∧ b.id ≤ a.id)))

/-- `_history_for_claim`; the session's own instance stands for the current message. -/
def historyForClaim (current : AIMessage) : List AIMessage :=
  let found := db.messages.rows.filter fun m =>
    m.businessId == scope && m.conversationId == current.conversationId &&
      (m.status == .completed || m.id == current.id)
  (((found.insertionSort newerFirst).take aiPromptHistoryMessageLimit).reverse).map fun m =>
    if m.id = current.id then current else m

/-- The error a failed message is answered with. -/
def storedFailure (m : AIMessage) : AIExecutionError :=
  match m.errorCode.bind AIExecutionErrorCode.ofValue? with
  | some code => .failed code
  | none => .integrity

/-- `_lock_ledger`. -/
def lockLedger (entryId : Uuid) :
    Except AIExecutionError (AICreditLedgerEntry × AICreditAccount) := do
  let entry ← required (db.entryById scope entryId) .integrity
  let account ← required (db.accountForEntry scope entry) .integrity
  return (entry, account)

/-- The prompt of a claim; an empty one is refused. -/
def claimPrompt (history : List AIMessage) (groundingContext : Option Str) :
    Except AIExecutionError Str := do
  let prompt ← required (boundedPrompt history groundingContext) .integrity
  ensure (prompt ≠ []) .integrity
  return prompt

/-- The end of `_claim`: write the claim and build the prompt. In a chat the history
query flushes the write before the prompt is built, in an analysis the commit does
after it, so the two raise in a different order. -/
def writeClaim (row message claimed : AIMessage) (purpose : AIConversationPurpose)
    (groundingContext : Option Str) : Except AIExecutionError (AiDatabase × Str) :=
  match purpose with
  | .dashboardAnalysis => do
    let prompt ← claimPrompt [claimed] groundingContext
    let messages ← required (db.messages.update? (claimed.flush message row)) .database
    return ({ db with messages }, prompt)
  | .chat => do
    let messages ← required (db.messages.update? (claimed.flush message row)) .database
    let prompt ← claimPrompt ({ db with messages }.historyForClaim scope claimed) groundingContext
    return ({ db with messages }, prompt)

/-- `_claim`. -/
def claim (config : ExecutionConfig) (loaded : Option AIMessage) (messageId : Uuid)
    (reservation : AICreditLedgerSnapshot) (now : Datetime) (token : Uuid) :
    Except AIExecutionError (AiDatabase × AIMessage × ExecutionClaim) := do
  let row ← required (db.messageById scope messageId) .integrity
  let message := locked loaded row
  let conversation ← required (db.conversationById scope message.conversationId) .integrity
  let groundingContext ← required (config.groundingContext scope conversation) .integrity
  match message.status with
  | .completed =>
    let assistant ← required (db.assistantForUser scope message) .integrity
    let snapshot ← (db.snapshot scope reservation.entryId true).mapError .credit
    return (db, message,
      { conversation, userMessage := message, assistantMessage := some assistant, prompt := none,
        token := none, usage := some (usageFromSnapshot snapshot), inProgress := false,
        completed := true })
  | .failed => throw (storedFailure message)
  | .pending =>
    ensure (reservation.status = .reserved) .integrity
    ensure (message.creditLedgerEntryId = none ∨
      message.creditLedgerEntryId = some reservation.entryId) .integrity
    if message.leaseActive now then
      return (db, message,
        { conversation, userMessage := message, assistantMessage := none, prompt := none,
          token := none, usage := some (usageFromSnapshot reservation), inProgress := true,
          completed := false })
    else
      let claimed :=
        message.claimFor reservation.entryId token (now + config.leaseDuration) now
      let (db', prompt) ← db.writeClaim scope row message claimed conversation.purpose
        groundingContext
      return (db', claimed,
        { conversation, userMessage := claimed, assistantMessage := none, prompt := some prompt,
          token := some token, usage := some (usageFromSnapshot reservation), inProgress := false,
          completed := false })

/-- `_mark_pre_reservation_failure`. -/
def markPreReservationFailure (loaded : Option AIMessage) (messageId : Uuid)
    (code : AIExecutionErrorCode) (now : Datetime) :
    Except AIExecutionError (AiDatabase × AIMessage) := do
  let row ← required (db.messageById scope messageId) .integrity
  let message := locked loaded row
  if message.status ≠ .pending ∨ message.creditLedgerEntryId ≠ none then
    return (db, message)
  else
    let failed := message.markFailed code now
    let messages ← required (db.messages.update? (failed.flush message row)) .database
    return ({ db with messages }, failed)

/-- The part of `_fail_claim` that gives the credit back. -/
def releaseForFailure (entry : AICreditLedgerEntry) (account : AICreditAccount)
    (code : AIExecutionErrorCode) (now : Datetime) : Except AIExecutionError AiDatabase :=
  match entry.status with
  | .reserved => do
    ensure (1 ≤ account.reservedCount) .integrity
    let account' := account.settle .released
    let entry' := entry.markReleased code.value now
    let accounts ← required (db.accounts.update? account') .database
    let ledger ← required (db.ledger.update? entry') .database
    return { db with accounts, ledger }
  | .released => return db
  | .consumed => throw .integrity

/-- `_fail_claim`. -/
def failClaim (loaded : Option AIMessage) (messageId entryId token : Uuid)
    (code : AIExecutionErrorCode) (now : Datetime) :
    Except AIExecutionError (AiDatabase × AIMessage × Bool) := do
  let row ← required (db.messageById scope messageId) .integrity
  let message := locked loaded row
  if message.status ≠ .pending ∨ message.processingToken ≠ some token then
    return (db, message, false)
  else
    ensure (message.creditLedgerEntryId = some entryId) .integrity
    let (entry, account) ← db.lockLedger scope entryId
    let db₁ ← db.releaseForFailure entry account code now
    let failed := message.markFailed code now
    let messages ← required (db₁.messages.update? (failed.flush message row)) .database
    return ({ db₁ with messages }, failed, true)

/-- The assistant message `_complete_claim` inserts. -/
def assistantMessage (message : AIMessage) (assistantId entryId : Uuid)
    (generation : GeminiGeneration) (now : Datetime) : AIMessage where
  id := assistantId
  businessId := scope
  conversationId := message.conversationId
  role := .assistant
  status := .completed
  content := generation.text
  replyToMessageId := some message.id
  creditLedgerEntryId := some entryId
  providerResponseId := generation.providerResponseId
  providerModel := some generation.modelVersion
  providerFinishReason := some generation.finishReason
  promptTokenCount := generation.promptTokenCount
  responseTokenCount := generation.responseTokenCount
  thoughtsTokenCount := generation.thoughtsTokenCount
  totalTokenCount := generation.totalTokenCount
  completedAt := some now
  createdAt := now
  updatedAt := now

/-- The writes of `_complete_claim`, under the locks: the reply, the message, the charge
and the conversation. -/
def writeCompletion (row message : AIMessage) (conversation : AIConversation)
    (entry : AICreditLedgerEntry) (account : AICreditAccount) (assistantId : Uuid)
    (generation : GeminiGeneration) (now : Datetime) :
    Except AIExecutionError (AiDatabase × AIMessage × AIExecutionResult) := do
  let assistant := assistantMessage scope message assistantId entry.id generation now
  let completed := message.markCompleted now
  let account' := account.settle .consumed
  let entry' := entry.markConsumed now
  let conversation' : AIConversation :=
    { conversation with lastMessageAt := some now, updatedAt := now }
  -- an integrity error of this flush is raised again as `AIExecutionIntegrityError`
  let updated ← required (db.messages.update? (completed.flush message row)) .integrity
  let messages ← required (updated.insert? assistant) .integrity
  let accounts ← required (db.accounts.update? account') .integrity
  let ledger ← required (db.ledger.update? entry') .integrity
  let conversations ← required (db.conversations.update? conversation') .integrity
  return ({ db with messages, accounts, ledger, conversations }, completed,
    { conversation := conversation', userMessage := completed,
      assistantMessage := some assistant,
      usage := some (usageFromSnapshot (CreditTables.snapshotOf entry' account' false)),
      replayed := false, inProgress := false })

/-- `_complete_claim`. -/
def completeClaim (loaded : Option AIMessage) (messageId entryId token : Uuid)
    (generation : GeminiGeneration) (now : Datetime) (assistantId : Uuid) :
    Except AIExecutionError (AiDatabase × AIMessage × AIExecutionResult) := do
  let row ← required (db.messageById scope messageId) .integrity
  let message := locked loaded row
  let conversation ← required (db.conversationById scope message.conversationId) .integrity
  match message.status with
  | .completed =>
    let assistant ← required (db.assistantForUser scope message) .integrity
    let snapshot ← (db.snapshot scope entryId true).mapError .credit
    return (db, message,
      { conversation, userMessage := message, assistantMessage := some assistant,
        usage := some (usageFromSnapshot snapshot), replayed := true, inProgress := false })
  | .failed => throw (storedFailure message)
  | .pending =>
    if message.processingToken ≠ some token ∨ message.creditLedgerEntryId ≠ some entryId then
      return (db, message,
        { conversation, userMessage := message, assistantMessage := none, usage := none,
          replayed := true, inProgress := true })
    else
      let (entry, account) ← db.lockLedger scope entryId
      ensure (entry.status = .reserved) .integrity
      ensure (1 ≤ account.reservedCount) .integrity
      db.writeCompletion scope row message conversation entry account assistantId generation now

/-- `_existing_result`, for a submission that was replayed: `none` goes on to reserve. -/
def existingResult (submission : AIMessageSubmission) :
    Option (Except AIExecutionError AIExecutionResult) :=
  let message := submission.userMessage
  match message.status with
  | .pending => none
  | .failed => some (.error (storedFailure message))
  | .completed =>
    some do
      let assistant ← required (db.assistantForUser scope message) .integrity
      let entryId ← required message.creditLedgerEntryId .integrity
      let snapshot ← (db.snapshot scope entryId true).mapError .credit
      return { conversation := submission.conversation, userMessage := message,
               assistantMessage := some assistant, usage := some (usageFromSnapshot snapshot),
               replayed := true, inProgress := false }

end AiDatabase

end SpikeBackend
