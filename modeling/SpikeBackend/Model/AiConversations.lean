import SpikeBackend.Model.AdminAiCredits

/-!
# AI conversations

Conversations and messages (`app/models/ai.py`) with their constraints, and
`submit_user_message` (`app/services/ai_conversations.py`), the first transaction of an
AI execution.
-/

namespace SpikeBackend

open Relational Text Outcome

inductive AIMessageRole
  | user
  | assistant
  deriving DecidableEq, Repr

inductive AIMessageStatus
  | pending
  | completed
  | failed
  deriving DecidableEq, Repr

inductive AIConversationPurpose
  | chat
  | dashboardAnalysis
  deriving DecidableEq, Repr

def aiMessageContentMaxLength : Nat := 12000

structure AIConversation where
  id : Uuid
  businessId : Uuid
  createdByUserId : Uuid
  createdAt : Datetime
  updatedAt : Datetime
  purpose : AIConversationPurpose := .chat
  dashboardSnapshotId : Option Uuid := none
  title : Option Str := none
  lastMessageAt : Option Datetime := none

instance : Schema AIConversation Uuid where
  key := AIConversation.id
  clash a b :=
    decide (a.purpose = .dashboardAnalysis) && decide (b.purpose = .dashboardAnalysis) &&
      decide (a.businessId = b.businessId ∧ a.dashboardSnapshotId = b.dashboardSnapshotId)
  checks c :=
    c.title.all (trimmedBetween 160) && c.lastMessageAt.all (c.createdAt ≤ ·) &&
      (decide (c.purpose ≠ .dashboardAnalysis) || c.dashboardSnapshotId.isSome)
  clash_comm a b := by
    rw [Bool.and_comm (decide (a.purpose = .dashboardAnalysis))]
    congr 1
    exact decide_eq_decide.mpr (by rw [eq_comm, eq_comm (a := a.dashboardSnapshotId)])

structure AIMessage where
  id : Uuid
  businessId : Uuid
  conversationId : Uuid
  role : AIMessageRole
  status : AIMessageStatus := .pending
  content : Str
  createdByUserId : Option Uuid := none
  replyToMessageId : Option Uuid := none
  idempotencyKeyDigest : Option Str := none
  creditLedgerEntryId : Option Uuid := none
  processingToken : Option Uuid := none
  processingLeaseExpiresAt : Option Datetime := none
  providerResponseId : Option Str := none
  providerModel : Option Str := none
  providerFinishReason : Option Str := none
  promptTokenCount : Option Int := none
  responseTokenCount : Option Int := none
  thoughtsTokenCount : Option Int := none
  totalTokenCount : Option Int := none
  completedAt : Option Datetime := none
  errorCode : Option Str := none
  createdAt : Datetime
  updatedAt : Datetime

namespace AIMessage

/-- `ck_ai_messages_role_fields`. -/
def roleFields (m : AIMessage) : Bool :=
  match m.role with
  | .user =>
    m.createdByUserId.isSome && m.replyToMessageId.isNone && m.idempotencyKeyDigest.isSome
  | .assistant =>
    m.createdByUserId.isNone && m.replyToMessageId.isSome && m.idempotencyKeyDigest.isNone &&
      m.processingToken.isNone && m.processingLeaseExpiresAt.isNone

/-- `ck_ai_messages_provider_fields`. -/
def providerFields (m : AIMessage) : Bool :=
  match m.role with
  | .user =>
    m.providerResponseId.isNone && m.providerModel.isNone && m.providerFinishReason.isNone &&
      m.promptTokenCount.isNone && m.responseTokenCount.isNone && m.thoughtsTokenCount.isNone &&
      m.totalTokenCount.isNone
  | .assistant =>
    decide (m.status = .completed) && m.creditLedgerEntryId.isSome && m.providerModel.isSome &&
      m.providerFinishReason.isSome && m.completedAt.isSome && m.errorCode.isNone

/-- The user branch of `ck_ai_messages_status_fields`. -/
def userStatusFields (m : AIMessage) : Bool :=
  match m.status with
  | .pending =>
    m.completedAt.isNone && m.errorCode.isNone &&
      (m.creditLedgerEntryId.isNone && m.processingToken.isNone &&
          m.processingLeaseExpiresAt.isNone ||
        m.creditLedgerEntryId.isSome && m.processingToken.isSome &&
          m.processingLeaseExpiresAt.isSome)
  | .completed =>
    m.creditLedgerEntryId.isSome && m.completedAt.isSome && m.errorCode.isNone &&
      m.processingToken.isNone && m.processingLeaseExpiresAt.isNone
  | .failed =>
    m.completedAt.isSome && m.processingToken.isNone && m.processingLeaseExpiresAt.isNone &&
      m.errorCode.any (trimmedBetween 64)

/-- `ck_ai_messages_token_counts`. -/
def tokenCounts (m : AIMessage) : Bool :=
  m.promptTokenCount.all (0 ≤ ·) && m.responseTokenCount.all (0 ≤ ·) &&
    m.thoughtsTokenCount.all (0 ≤ ·) && m.totalTokenCount.all (0 ≤ ·)

/-- The checks on instants: lease and completion are not before the creation. -/
def instants (m : AIMessage) : Bool :=
  m.processingLeaseExpiresAt.all (m.createdAt ≤ ·) && m.completedAt.all (m.createdAt ≤ ·)

end AIMessage

/-- `a IS NOT NULL AND a = b`: how a nullable column clashes. -/
def sameKey {α : Type} [DecidableEq α] (a b : Option α) : Bool :=
  a.isSome && decide (a = b)

theorem sameKey_comm {α : Type} [DecidableEq α] (a b : Option α) : sameKey a b = sameKey b a := by
  unfold sameKey
  by_cases h : a = b
  · rw [h]
  · simp [h, Ne.symm h]

theorem sameKey_eq_true {α : Type} [DecidableEq α] {a b : Option α} :
    sameKey a b = true ↔ ∃ x, a = some x ∧ b = some x := by
  unfold sameKey
  cases a with
  | none => simp
  | some x => simp [eq_comm]

instance : Schema AIMessage Uuid where
  key := AIMessage.id
  clash a b :=
    decide (a.businessId = b.businessId) &&
      (sameKey a.idempotencyKeyDigest b.idempotencyKeyDigest ||
        decide (a.role = b.role) && sameKey a.creditLedgerEntryId b.creditLedgerEntryId ||
        decide (a.conversationId = b.conversationId) &&
          sameKey a.replyToMessageId b.replyToMessageId)
  checks m :=
    trimmedBetween aiMessageContentMaxLength m.content &&
      m.idempotencyKeyDigest.all (·.length == 64) && m.roleFields && m.providerFields &&
      (decide (m.role = .assistant) || m.userStatusFields) && m.tokenCounts && m.instants
  clash_comm a b := by
    rw [sameKey_comm a.idempotencyKeyDigest, sameKey_comm a.creditLedgerEntryId,
      sameKey_comm a.replyToMessageId]
    simp only [eq_comm]

/-- The tables an AI execution works on. -/
structure AiDatabase extends CreditDatabase where
  conversations : Table AIConversation := .empty
  messages : Table AIMessage := .empty

/-- What the conversation service raises. -/
inductive AIConversationError
  | notFound
  | integrity
  | messageContent
  | idempotencyConflict
  | credit (error : AICreditError)
  | database

/-- `normalize_ai_message_content`. -/
def normalizeAiMessageContent (content : Str) : Except AIConversationError Str := do
  let normalized := strip content
  ensure (normalized ≠ [] ∧ normalized.length ≤ aiMessageContentMaxLength) .messageContent
  return normalized

/-- What one `POST` of a user message carries. -/
structure MessageRequest where
  businessId : Uuid
  userId : Uuid
  conversationId : Uuid
  content : Str
  idempotencyKey : Str

structure AIMessageSubmission where
  conversation : AIConversation
  userMessage : AIMessage
  replayed : Bool

namespace AiDatabase

variable (db : AiDatabase)

def conversationById (scope conversationId : Uuid) : Option AIConversation :=
  db.conversations.find? fun c => c.businessId == scope && c.id == conversationId

def messageById (scope messageId : Uuid) : Option AIMessage :=
  db.messages.find? fun m => m.businessId == scope && m.id == messageId

/-- `_message_by_digest`. -/
def messageByDigest (scope : Uuid) (digest : Str) : Option AIMessage :=
  db.messages.find? fun m => m.businessId == scope && m.idempotencyKeyDigest == some digest

/-- `_submission_for_existing`, with `_validate_replay`. -/
def submissionForExisting (request : MessageRequest) (content : Str) (message : AIMessage) :
    Except AIConversationError AIMessageSubmission := do
  ensure (message.role = .user ∧ message.conversationId = request.conversationId ∧
    message.createdByUserId = some request.userId ∧ message.content = content)
    .idempotencyConflict
  let conversation ← required (db.conversationById request.businessId message.conversationId)
    .integrity
  return ⟨conversation, message, true⟩

/-- The part of `submit_user_message` after the conversation is locked and no message
of the key is found. -/
def insertUserMessage (request : MessageRequest) (content digest : Str) (createdAt : Datetime)
    (messageId : Uuid) : Except AIConversationError (AiDatabase × AIMessageSubmission) := do
  let conversation ← required (db.conversationById request.businessId request.conversationId)
    .notFound
  let message : AIMessage :=
    { id := messageId
      businessId := request.businessId
      conversationId := conversation.id
      role := .user
      content := content
      createdByUserId := some request.userId
      idempotencyKeyDigest := some digest
      createdAt := createdAt
      updatedAt := createdAt }
  let conversation' : AIConversation :=
    { conversation with lastMessageAt := some createdAt, updatedAt := createdAt }
  let conversations ← required (db.conversations.update? conversation') .database
  let messages ← required (db.messages.insert? message) .database
  return ({ db with conversations, messages }, ⟨conversation', message, false⟩)

/-- `submit_user_message`. -/
def submitUserMessage (sha256 : List UInt8 → Str) (request : MessageRequest)
    (createdAt : Datetime) (messageId : Uuid) :
    Except AIConversationError (AiDatabase × AIMessageSubmission) := do
  let content ← normalizeAiMessageContent request.content
  let digest ← (digestAiIdempotencyKey sha256 request.idempotencyKey).mapError .credit
  match db.messageByDigest request.businessId digest with
  | some existing =>
    let submission ← db.submissionForExisting request content existing
    return (db, submission)
  | none =>
    match db.insertUserMessage request content digest createdAt messageId with
    | .error .database =>
      match db.messageByDigest request.businessId digest with
      | some duplicate =>
        let submission ← db.submissionForExisting request content duplicate
        return (db, submission)
      | none => throw .integrity
    | outcome => outcome

end AiDatabase

end SpikeBackend
