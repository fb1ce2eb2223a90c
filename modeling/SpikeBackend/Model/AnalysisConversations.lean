import SpikeBackend.Lib.Locks
import SpikeBackend.Lib.Machine
import SpikeBackend.Model.AiConversations
import SpikeBackend.Model.DashboardSnapshots

/-!
# Conversations of a snapshot

`AIConversationService.create` and `get_or_create_dashboard_analysis`
(`app/services/ai_conversations.py`), any number of calls at once, with the deletions that cascade
to conversations. A row that is inserted is in the way of others at once and is seen by them after
its commit: an insert that clashes with it waits for the transaction that inserted it, and raises
once that one has committed.
-/

namespace SpikeBackend

open Relational Text Outcome Locking

def aiConversationTitleMaxLength : Nat := 160

/-- What the two calls raise. -/
inductive ConversationError
  | sourceNotFound
  | sourceNotReady
  | title
  | integrity
  deriving DecidableEq, Repr

/-- `normalize_ai_conversation_title`. -/
def normalizeAiConversationTitle (title : Option Str) : Except ConversationError (Option Str) :=
  match title with
  | none => pure none
  | some title => do
    let normalized := strip title
    if normalized = [] then pure none
    else
      ensure (normalized.length ≤ aiConversationTitleMaxLength) .title
      pure (some normalized)

/-- The arguments of a call. -/
inductive ConversationCall
  | create (title : Option Str) (purpose : AIConversationPurpose) (dashboardSnapshotId : Option Uuid)
  | getOrCreate (snapshotId : Uuid) (title : Str)

structure ConversationRequest where
  scope : Uuid
  userId : Uuid
  call : ConversationCall

namespace ConversationRequest

variable (request : ConversationRequest)

/-- What the conversation is to be for. -/
def purpose : AIConversationPurpose :=
  match request.call with
  | .create _ purpose _ => purpose
  | .getOrCreate .. => .dashboardAnalysis

def snapshotId : Option Uuid :=
  match request.call with
  | .create _ _ dashboardSnapshotId => dashboardSnapshotId
  | .getOrCreate snapshotId _ => some snapshotId

def title : Option Str :=
  match request.call with
  | .create title _ _ => title
  | .getOrCreate _ title => some title

/-- A call of `get_or_create_dashboard_analysis`. -/
def isGetOrCreate : Bool :=
  match request.call with
  | .create .. => false
  | .getOrCreate .. => true

/-- The row that the call adds. -/
def row (title : Option Str) (conversationId : Uuid) (now : Datetime) : AIConversation :=
  { id := conversationId
    businessId := request.scope
    createdByUserId := request.userId
    createdAt := now
    updatedAt := now
    purpose := request.purpose
    dashboardSnapshotId := request.snapshotId
    title := title }

end ConversationRequest

/-- How far a call is. -/
inductive ConversationClient
  | arrived (request : ConversationRequest)
  /-- the snapshot is there and can be analysed -/
  | sourceRead (request : ConversationRequest)
  /-- the row is to be inserted -/
  | absent (request : ConversationRequest)
  | inserted (request : ConversationRequest) (row : AIConversation)
  /-- the insert has raised, and the transaction is rolled back -/
  | clashed (request : ConversationRequest)
  | answered (request : ConversationRequest) (row : AIConversation)
  | refused (request : ConversationRequest) (error : ConversationError)
  | stopped

/-- The call has not ended. -/
def ConversationClient.isOpen : ConversationClient → Bool
  | .answered .. | .refused .. | .stopped => false
  | _ => true

inductive ConversationAction
  | arrive (request : ConversationRequest)
  /-- call `i` goes on by one statement; a row that it adds gets the identifier -/
  | advance (i : Nat) (conversationId : Uuid)
  /-- the process or its connection is gone -/
  | stop (i : Nat)
  /-- a message is added to a conversation -/
  | write (conversationId : Uuid)
  | addSnapshot (row : DashboardSnapshot)
  | deleteSnapshot (snapshotId : Uuid)
  | addRole (businessId userId : Uuid)
  | deleteRole (businessId userId : Uuid)

structure TimedConversationAction where
  now : Datetime
  action : ConversationAction

structure ConversationState where
  snapshots : Table DashboardSnapshot := .empty
  /-- the role assignments, by business and user -/
  roles : List (Uuid × Uuid) := []
  conversations : Table AIConversation := .empty
  /-- the transaction that has inserted a row, until it commits -/
  inserts : Locks Uuid := .empty
  clients : List ConversationClient := []

namespace ConversationState

-- `_validate_analysis_snapshot`: the payload has the schema of a snapshot, with an insight
variable (analysable : Json → Bool) (s : ConversationState)

def proceed (i : Nat) (client : ConversationClient) : ConversationState :=
  { s with clients := s.clients.set i client }

def snapshot? (scope snapshotId : Uuid) : Option DashboardSnapshot :=
  s.snapshots.find? fun x => x.businessId == scope && x.id == snapshotId

/-- `_dashboard_analysis_conversation`, as call `i` sees the rows. -/
def analysis? (i : Nat) (scope : Uuid) (snapshotId : Option Uuid) : Option AIConversation :=
  s.conversations.find? fun c =>
    s.inserts.available c.id i && c.businessId == scope &&
      decide (c.dashboardSnapshotId = snapshotId) && decide (c.purpose = .dashboardAnalysis)

/-- The checks in front of the insert. -/
def readSource (request : ConversationRequest) : Except ConversationError Unit := do
  ensure (request.purpose = .dashboardAnalysis → request.snapshotId ≠ none) .sourceNotFound
  match request.snapshotId with
  | none => pure ()
  | some snapshotId => do
    let snapshot ← required (s.snapshot? request.scope snapshotId) .sourceNotFound
    ensure (request.purpose = .dashboardAnalysis → analysable snapshot.payload = true)
      .sourceNotReady

/-- A row in the way whose transaction is still open. -/
def waits (i : Nat) (row : AIConversation) : Bool :=
  s.conversations.rows.any fun c => !Table.admits row c && !s.inserts.available c.id i

/-- The foreign keys of the row. -/
def foreignKeys (row : AIConversation) : Bool :=
  decide ((row.businessId, row.createdByUserId) ∈ s.roles) &&
    row.dashboardSnapshotId.all fun snapshotId => (s.snapshot? row.businessId snapshotId).isSome

/-- The insert raised. -/
def raised (i : Nat) (request : ConversationRequest) : ConversationState :=
  s.proceed i (if request.isGetOrCreate = true then .clashed request else .refused request .integrity)

/-- The flush of the row. -/
def insert (i : Nat) (request : ConversationRequest) (row : AIConversation) : ConversationState :=
  if s.waits i row then s
  else
    match s.conversations.insert? row, s.foreignKeys row with
    | some conversations, true =>
      { s.proceed i (.inserted request row) with
        conversations := conversations
        inserts := s.inserts.acquire [row.id] i }
    | _, _ => s.raised i request

/-- Call `i` goes on by one statement. -/
def advance (i : Nat) (conversationId : Uuid) (now : Datetime) : ConversationState :=
  match s.clients[i]? with
  | some (.arrived request) =>
    match s.readSource analysable request with
    | .error e => s.proceed i (.refused request e)
    | .ok _ =>
      s.proceed i (if request.isGetOrCreate = true then .sourceRead request else .absent request)
  | some (.sourceRead request) =>
    match s.analysis? i request.scope request.snapshotId with
    | some c => s.proceed i (.answered request c)
    | none => s.proceed i (.absent request)
  | some (.absent request) =>
    match normalizeAiConversationTitle request.title with
    | .error e => s.proceed i (.refused request e)
    | .ok title => s.insert i request (request.row title conversationId now)
  | some (.inserted request row) =>
    { s.proceed i (.answered request row) with inserts := s.inserts.release i }
  | some (.clashed request) =>
    match s.analysis? i request.scope request.snapshotId with
    | some c => s.proceed i (.answered request c)
    | none => s.proceed i (.refused request .integrity)
  | _ => s

/-- The transaction of the call is rolled back. -/
def stop (i : Nat) : ConversationState :=
  if (s.clients[i]?).any ConversationClient.isOpen then
    { s.proceed i .stopped with
      conversations :=
        s.conversations.deleteWhere (fun c => decide (s.inserts.holder c.id = some i))
      inserts := s.inserts.release i }
  else s

/-- The stamps of a conversation that gets a message. -/
def write (conversationId : Uuid) (now : Datetime) : ConversationState :=
  match s.conversations.get? conversationId, s.inserts.holder conversationId with
  | some c, none =>
    let written : AIConversation := { c with lastMessageAt := some now, updatedAt := now }
    { s with conversations := (s.conversations.update? written).getD s.conversations }
  | _, _ => s

/-- A snapshot goes with its conversations; it is locked by the rows that refer to it and are not
committed. -/
def deleteSnapshot (snapshotId : Uuid) : ConversationState :=
  if s.conversations.rows.any fun c =>
      decide (c.dashboardSnapshotId = some snapshotId) && (s.inserts.holder c.id).isSome then s
  else
    { s with
      snapshots := s.snapshots.deleteWhere (·.id == snapshotId)
      conversations := s.conversations.deleteWhere fun c =>
        decide (c.dashboardSnapshotId = some snapshotId) }

/-- A role assignment goes with the conversations of its user. -/
def deleteRole (businessId userId : Uuid) : ConversationState :=
  if s.conversations.rows.any fun c =>
      decide ((c.businessId, c.createdByUserId) = (businessId, userId)) &&
        (s.inserts.holder c.id).isSome then s
  else
    { s with
      roles := s.roles.filter (· ≠ (businessId, userId))
      conversations := s.conversations.deleteWhere fun c =>
        decide ((c.businessId, c.createdByUserId) = (businessId, userId)) }

def step (timed : TimedConversationAction) : ConversationState :=
  match timed.action with
  | .arrive request => { s with clients := s.clients ++ [.arrived request] }
  | .advance i conversationId => s.advance analysable i conversationId timed.now
  | .stop i => s.stop i
  | .write conversationId => s.write conversationId timed.now
  | .addSnapshot row => { s with snapshots := (s.snapshots.insert? row).getD s.snapshots }
  | .deleteSnapshot snapshotId => s.deleteSnapshot snapshotId
  | .addRole businessId userId => { s with roles := (businessId, userId) :: s.roles }
  | .deleteRole businessId userId => s.deleteRole businessId userId

end ConversationState

end SpikeBackend
