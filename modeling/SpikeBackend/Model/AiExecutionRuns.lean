import SpikeBackend.Lib.Machine
import SpikeBackend.Model.AiExecution

/-!
# Runs of AI executions

`AIExecutionService.execute` as a state machine: any number of executions, each with a
session of its own, take their transactions in any order over one database. Between the
transactions the subscription rows change in any way, so a period may end at any time.
A transaction is one step; what an execution may do next is its `ExecutionPhase`.
-/

namespace SpikeBackend

open Relational Text Outcome

/-- Where an execution stands in `execute`: what it does next. -/
inductive ExecutionPhase
  /-- submitted: reserve a credit -/
  | submitted
  /-- the reservation raised: mark the message failed -/
  | denied (code : AIExecutionErrorCode)
  /-- the credit of a failed claim is given back: mark the message failed -/
  | released
  /-- a credit is reserved: claim the message -/
  | reserved (reservation : AICreditLedgerSnapshot)
  /-- the claim raised `AIExecutionIntegrityError`: release the credit -/
  | unclaimed (reservation : AICreditLedgerSnapshot)
  /-- the message is claimed: call the provider -/
  | claimed (reservation : AICreditLedgerSnapshot) (token : Uuid)
    (conversation : AIConversation) (prompt : Str)
  /-- the provider answered: complete the claim -/
  | generated (reservation : AICreditLedgerSnapshot) (token : Uuid)
    (generation : GeminiGeneration)
  /-- the provider or the completion failed: fail the claim -/
  | failing (reservation : AICreditLedgerSnapshot) (token : Uuid) (code : AIExecutionErrorCode)
  /-- returned or raised -/
  | ended (outcome : Except AIExecutionError AIExecutionResult)

structure Execution where
  request : MessageRequest
  checkedAt : Datetime
  messageId : Uuid
  /-- the submission was a replay -/
  replayed : Bool
  /-- the instance of the user message that the session holds -/
  loaded : Option AIMessage
  phase : ExecutionPhase

/-- One transaction or provider call of an execution, with what it draws from outside. -/
inductive ExecutionStep
  | reserve (accountId entryId : Uuid)
  | claim (token : Uuid)
  | provide (outcome : Except GeminiGatewayError GeminiGeneration)
  | complete (assistantId : Uuid)
  | fail
  | release
  | markFailed

/-- What a run may do next. -/
inductive ExecutionAction
  /-- a request arrives and submits its message -/
  | submit (request : MessageRequest) (checkedAt : Datetime) (messageId : Uuid)
  /-- execution `i` takes its next step -/
  | advance (i : Nat) (step : ExecutionStep)
  /-- the subscription rows change -/
  | subscriptions (tables : SubscriptionTables)
  /-- a conversation is opened -/
  | converse (conversation : AIConversation)
  /-- an administrator adjusts a credit limit -/
  | adjust (request : AdjustRequest) (ids : AdjustIds)

/-- An action at an instant of the clock. -/
structure TimedAction where
  now : Datetime
  action : ExecutionAction

structure ExecutionState where
  db : AiDatabase
  executions : List Execution := []
  /-- the instant of the last action -/
  clock : Datetime
  /-- the claims made so far, newest first: message and processing token -/
  claims : List (Uuid × Uuid) := []

namespace Execution

variable (config : ExecutionConfig) (db : AiDatabase) (e : Execution)

/-- The instance a locked read of the message answers with. -/
def held : Option AIMessage := if config.populateExisting then none else e.loaded

/-- The submission: its transaction, and the replay answered from the stored result. -/
def start (request : MessageRequest) (checkedAt : Datetime) (messageId : Uuid) :
    AiDatabase × Execution :=
  match db.submitUserMessage config.sha256 request checkedAt messageId with
  | .error error =>
    (db, ⟨request, checkedAt, messageId, false, none, .ended (.error (.conversation error))⟩)
  | .ok (db', submission) =>
    let phase :=
      match submission.replayed, db'.existingResult request.businessId submission with
      | true, some outcome => ExecutionPhase.ended outcome
      | _, _ => .submitted
    (db', ⟨request, checkedAt, submission.userMessage.id, submission.replayed,
      some submission.userMessage, phase⟩)

/-- A failed reservation rolls the session back, which expires its instances. -/
def reserveStep (accountId entryId : Uuid) : AiDatabase × Execution :=
  match db.reserve e.request.businessId config.sha256 e.request.idempotencyKey e.checkedAt
      accountId entryId with
  | .ok (tables, reservation) =>
    ({ db with toCreditTables := tables }, { e with phase := .reserved reservation })
  | .error error =>
    match reservationErrorCode error with
    | some code => (db, { e with loaded := none, phase := .denied code })
    | none => (db, { e with loaded := none, phase := .ended (.error (.credit error)) })

def claimStep (reservation : AICreditLedgerSnapshot) (token : Uuid) : AiDatabase × Execution :=
  match db.claim e.request.businessId config (e.held config) e.messageId reservation e.checkedAt token with
  | .error .integrity => (db, { e with loaded := none, phase := .unclaimed reservation })
  | .error error => (db, { e with loaded := none, phase := .ended (.error error) })
  | .ok (db', message, claim) =>
    let phase :=
      match claim.completed, claim.token, claim.prompt with
      | true, _, _ =>
        ExecutionPhase.ended (.ok
          { conversation := claim.conversation, userMessage := claim.userMessage,
            assistantMessage := claim.assistantMessage, usage := claim.usage, replayed := true,
            inProgress := false })
      | false, some token, some prompt => .claimed reservation token claim.conversation prompt
      | false, _, _ =>
        .ended (.ok
          { conversation := claim.conversation, userMessage := claim.userMessage,
            assistantMessage := none, usage := claim.usage, replayed := e.replayed,
            inProgress := true })
    (db', { e with loaded := some message, phase })

/-- The provider call and the checks of its answer. -/
def provideStep (reservation : AICreditLedgerSnapshot) (token : Uuid)
    (conversation : AIConversation) (outcome : Except GeminiGatewayError GeminiGeneration) :
    Execution :=
  match outcome with
  | .error error => { e with phase := .failing reservation token (providerErrorCode error) }
  | .ok generation =>
    if aiMessageContentMaxLength < generation.text.length then
      { e with phase := .failing reservation token .responseTooLarge }
    else if conversation.purpose = .dashboardAnalysis ∧
        validDashboardAnalysis config.casefold generation.text = false then
      { e with phase := .failing reservation token .providerInvalid }
    else { e with phase := .generated reservation token generation }

def completeStep (reservation : AICreditLedgerSnapshot) (token : Uuid)
    (generation : GeminiGeneration) (now : Datetime) (assistantId : Uuid) :
    AiDatabase × Execution :=
  match db.completeClaim e.request.businessId (e.held config) e.messageId reservation.entryId
      token generation now assistantId with
  | .ok (db', message, result) =>
    (db', { e with
      loaded := some message
      phase := .ended (.ok { result with replayed := e.replayed || result.replayed }) })
  | .error .integrity =>
    (db, { e with loaded := none, phase := .failing reservation token .persistenceFailure })
  | .error error => (db, { e with loaded := none, phase := .ended (.error error) })

/-- What `execute` raises when `_fail_claim` or `_mark_pre_reservation_failure` raises `error`. The
recoveries of a failed claim and of a failed completion only log it. -/
def recoveryError (code : AIExecutionErrorCode) (error : AIExecutionError) : AIExecutionError :=
  match e.phase with
  | .released | .failing _ _ .persistenceFailure => .failed code
  | _ => error

def failStep (reservation : AICreditLedgerSnapshot) (token : Uuid)
    (code : AIExecutionErrorCode) (now : Datetime) : AiDatabase × Execution :=
  match db.failClaim e.request.businessId (e.held config) e.messageId reservation.entryId token
      code now with
  | .ok (db', message, _) =>
    (db', { e with loaded := some message, phase := .ended (.error (.failed code)) })
  | .error error =>
    (db, { e with loaded := none, phase := .ended (.error (e.recoveryError code error)) })

/-- The recovery of a failed claim: when the release raises, the recovery ends there. -/
def releaseStep (reservation : AICreditLedgerSnapshot) (now : Datetime) :
    AiDatabase × Execution :=
  match db.release e.request.businessId reservation.entryId
      AIExecutionErrorCode.executionIntegrity.value now with
  | .ok (tables, _) =>
    ({ db with toCreditTables := tables }, { e with phase := .released })
  | .error _ =>
    (db, { e with loaded := none, phase := .ended (.error (.failed .executionIntegrity)) })

def markFailedStep (code : AIExecutionErrorCode) (now : Datetime) : AiDatabase × Execution :=
  match db.markPreReservationFailure e.request.businessId (e.held config) e.messageId code now with
  | .ok (db', message) =>
    (db', { e with loaded := some message, phase := .ended (.error (.failed code)) })
  | .error error =>
    (db, { e with loaded := none, phase := .ended (.error (e.recoveryError code error)) })

/-- The next step of an execution, if it is the one its phase calls for. The clock of a
reservation and of a claim is that of the execution's start; a recovery reads it anew. -/
def advance (step : ExecutionStep) (now : Datetime) : Option (AiDatabase × Execution) :=
  match step, e.phase with
  | .reserve accountId entryId, .submitted => some (e.reserveStep config db accountId entryId)
  | .claim token, .reserved reservation => some (e.claimStep config db reservation token)
  | .provide outcome, .claimed reservation token conversation _ =>
    some (db, e.provideStep config reservation token conversation outcome)
  | .complete assistantId, .generated reservation token generation =>
    some (e.completeStep config db reservation token generation now assistantId)
  | .fail, .failing reservation token code => some (e.failStep config db reservation token code now)
  | .release, .unclaimed reservation => some (e.releaseStep db reservation now)
  | .markFailed, .denied code => some (e.markFailedStep config db code e.checkedAt)
  | .markFailed, .released => some (e.markFailedStep config db .executionIntegrity now)
  | _, _ => none

end Execution

namespace ExecutionState

/-- The processing token of a claim is drawn by `uuid4`, so no earlier claim has it. -/
def fresh (s : ExecutionState) : ExecutionStep → Bool
  | .claim token => s.claims.all fun claim => claim.2 != token
  | _ => true

/-- The claims after execution `e` took the step: a claim that reached its `claimed`
phase is recorded. -/
def recordClaim (s : ExecutionState) (step : ExecutionStep) (e : Execution) :
    List (Uuid × Uuid) :=
  match step, e.phase with
  | .claim token, .claimed .. => (e.messageId, token) :: s.claims
  | _, _ => s.claims

/-- One action; a step that its execution is not about to take changes nothing. -/
def step (config : ExecutionConfig) (s : ExecutionState) (timed : TimedAction) : ExecutionState :=
  let s := { s with clock := timed.now }
  match timed.action with
  | .submit request checkedAt messageId =>
    let (db, e) := Execution.start config s.db request checkedAt messageId
    { s with db, executions := s.executions ++ [e] }
  | .subscriptions tables => { s with db := { s.db with toSubscriptionTables := tables } }
  | .converse conversation =>
    match s.db.conversations.insert? conversation with
    | none => s
    | some conversations => { s with db := { s.db with conversations } }
  | .adjust request ids =>
    match s.db.adjust config.sha256 request timed.now ids with
    | .error _ => s
    | .ok (db, _) => { s with db := { s.db with toCreditDatabase := db } }
  | .advance i step =>
    match s.executions[i]? with
    | none => s
    | some e =>
      if s.fresh step then
        match e.advance config s.db step timed.now with
        | none => s
        | some (db, e') =>
          { s with
            db
            executions := s.executions.set i e'
            claims := s.recordClaim step e' }
      else s

/-- The state before any message: the rows of an installation, no credits used. -/
def init (tables : SubscriptionTables) (businesses : Table Business)
    (conversations : Table AIConversation) (clock : Datetime) : ExecutionState where
  db :=
    { toSubscriptionTables := tables
      businesses := businesses
      conversations := conversations }
  clock := clock

end ExecutionState

end SpikeBackend
