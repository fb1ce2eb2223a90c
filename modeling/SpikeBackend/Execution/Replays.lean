import SpikeBackend.Execution.Fencing

/-!
# Answered requests

An execution that ended with an answer has its reply and its message in the database, and no
later transaction writes either again: whoever rewrites a message finds it uncompleted
(`AiDatabase.Keeps`). So the reply is what every later submission of the request ends with.

* `AiDatabase.Keeps` — what every transaction leaves of the messages and conversations;
* `advance_answers`, `start_answers` — the steps;
* `ExecutionState.AnswerInvariant`, `step_answerInvariant`, `run_answerInvariant` — the runs;
* `start_of_answered` — a later submission of the request;
* `answered_requests_replay`.
-/

namespace SpikeBackend

open Relational Text Outcome Session Machine

/-- A reply, or a message that has one. -/
def AIMessage.IsSettled (m : AIMessage) : Prop := m.role = .assistant ∨ m.status = .completed

/-- A later row of the same message: what nobody rewrites, and all of it once it is settled. -/
structure AIMessage.Kept (m m' : AIMessage) : Prop where
  same : m.SameMessage m'
  author : m'.createdByUserId = m.createdByUserId
  settled : m.IsSettled → m' = m

namespace AIMessage

theorem Kept.refl (m : AIMessage) : m.Kept m := ⟨.refl m, rfl, fun _ => rfl⟩

theorem Kept.trans {m₁ m₂ m₃ : AIMessage} (h : m₁.Kept m₂) (h' : m₂.Kept m₃) : m₁.Kept m₃ := by
  refine ⟨h.same.trans h'.same, h'.author.trans h.author, fun hSettled => ?_⟩
  obtain rfl := h.settled hSettled
  exact h'.settled hSettled

/-- A flush over a message that is not settled. -/
theorem kept_flush {modified loaded row : AIMessage} (hRole : row.role = .user)
    (hStatus : row.status ≠ .completed) : row.Kept (modified.flush loaded row) := by
  refine ⟨flush_same modified loaded row, rfl, ?_⟩
  rintro (hAssistant | hCompleted)
  · rw [hRole] at hAssistant
    cases hAssistant
  · exact absurd hCompleted hStatus

end AIMessage

namespace AiDatabase

variable {db db' db'' : AiDatabase}

/-- What a transaction leaves of the messages and of the conversations. -/
structure Keeps (db db' : AiDatabase) : Prop where
  messages : ∀ m ∈ db.messages, ∃ m' ∈ db'.messages, m.Kept m'
  conversations : ∀ c ∈ db.conversations, ∃ c' ∈ db'.conversations,
    c'.id = c.id ∧ c'.businessId = c.businessId

/-- Every message has its conversation. -/
def Housed (db : AiDatabase) : Prop :=
  ∀ m ∈ db.messages, ∃ c ∈ db.conversations, c.id = m.conversationId ∧ c.businessId = m.businessId

theorem Keeps.of_eq (hMessages : db'.messages = db.messages)
    (hConversations : db'.conversations = db.conversations) : db.Keeps db' :=
  ⟨fun m hm => ⟨m, hMessages ▸ hm, .refl m⟩, fun c hc => ⟨c, hConversations ▸ hc, rfl, rfl⟩⟩

theorem Keeps.refl (db : AiDatabase) : db.Keeps db := .of_eq rfl rfl

/-- What two changes keep one after the other. -/
theorem Keeps.trans (h : db.Keeps db') (h' : db'.Keeps db'') : db.Keeps db'' := by
  refine ⟨fun m hm => ?_, fun c hc => ?_⟩
  · obtain ⟨m', hm', hKept⟩ := h.messages m hm
    obtain ⟨m'', hm'', hKept'⟩ := h'.messages m' hm'
    exact ⟨m'', hm'', hKept.trans hKept'⟩
  · obtain ⟨c', hc', hId, hBusiness⟩ := h.conversations c hc
    obtain ⟨c'', hc'', hId', hBusiness'⟩ := h'.conversations c' hc'
    exact ⟨c'', hc'', hId'.trans hId, hBusiness'.trans hBusiness⟩

theorem Keeps.mem (h : db.Keeps db') {m : AIMessage} (hm : m ∈ db.messages)
    (hSettled : m.IsSettled) : m ∈ db'.messages := by
  obtain ⟨m', hm', hKept⟩ := h.messages m hm
  exact hKept.settled hSettled ▸ hm'

/-- Messages that are all rows of old ones keep their conversations. -/
theorem Housed.mono (hHoused : db.Housed) (hKeeps : db.Keeps db')
    (hOld : ∀ m' ∈ db'.messages, ∃ m ∈ db.messages,
      m'.conversationId = m.conversationId ∧ m'.businessId = m.businessId) : db'.Housed := by
  intro m' hm'
  obtain ⟨m, hm, hConversation, hBusiness⟩ := hOld m' hm'
  obtain ⟨c, hc, hcId, hcBusiness⟩ := hHoused m hm
  obtain ⟨c', hc', hId', hBusiness'⟩ := hKeeps.conversations c hc
  exact ⟨c', hc', by rw [hId', hcId, hConversation], by rw [hBusiness', hcBusiness, hBusiness]⟩

/-- One message is rewritten that is not settled. -/
theorem keeps_update {row row' : AIMessage} (h : db.messages.update? row' = some db'.messages)
    (hRow : row ∈ db.messages) (hKept : row.Kept row')
    (hConversations : db'.conversations = db.conversations) : db.Keeps db' := by
  refine ⟨fun m hm => ?_, fun c hc => ⟨c, hConversations ▸ hc, rfl, rfl⟩⟩
  have hMem := fun x => Table.mem_update?_iff (x := x) h hRow hKept.same.id
  by_cases hId : m.id = row.id
  · obtain rfl := Table.eq_of_key_eq hm hRow hId
    exact ⟨row', (hMem row').mpr (.inl rfl), hKept⟩
  · exact ⟨m, (hMem m).mpr (.inr ⟨hm, hId⟩), .refl m⟩

/-- A rewritten message stays in its conversation. -/
theorem old_of_update {row row' : AIMessage} {messages : Table AIMessage}
    (h : db.messages.update? row' = some messages) (hRow : row ∈ db.messages)
    (hSame : row.SameMessage row') : ∀ m' ∈ messages, ∃ m ∈ db.messages,
      m'.conversationId = m.conversationId ∧ m'.businessId = m.businessId := by
  intro m' hm'
  rcases (Table.mem_update?_iff h hRow hSame.id).mp hm' with rfl | ⟨hm', -⟩
  · exact ⟨row, hRow, hSame.conversation, hSame.business⟩
  · exact ⟨m', hm', rfl, rfl⟩

/-- A conversation is touched. -/
theorem conversations_touched {conversation touched : AIConversation}
    {conversations : Table AIConversation}
    (h : db.conversations.update? touched = some conversations)
    (hMem : conversation ∈ db.conversations) (hId : touched.id = conversation.id)
    (hBusiness : touched.businessId = conversation.businessId) :
    ∀ c ∈ db.conversations, ∃ c' ∈ conversations, c'.id = c.id ∧ c'.businessId = c.businessId := by
  intro c hc
  have hIff := fun x => Table.mem_update?_iff (x := x) h hMem hId
  by_cases hSame : c.id = conversation.id
  · obtain rfl := Table.eq_of_key_eq hc hMem hSame
    exact ⟨touched, (hIff touched).mpr (.inl rfl), hId, hBusiness⟩
  · exact ⟨c, (hIff c).mpr (.inr ⟨hc, hSame⟩), rfl, rfl⟩

/-- What is found is a conversation of the business with that id. -/
theorem conversationById_eq_some {scope conversationId : Uuid} {c : AIConversation}
    (h : db.conversationById scope conversationId = some c) :
    c ∈ db.conversations ∧ c.businessId = scope ∧ c.id = conversationId := by
  have hp := Table.prop_of_find? h
  rw [Bool.and_eq_true, beq_iff_eq, beq_iff_eq] at hp
  exact ⟨Table.mem_of_find? h, hp⟩

/-- A conversation is found by its id. -/
theorem conversationById_of_mem {c : AIConversation} (hc : c ∈ db.conversations) :
    db.conversationById c.businessId c.id = some c := by
  cases h : db.conversationById c.businessId c.id with
  | none =>
    have := Table.find?_eq_none.mp h c hc
    simp at this
  | some c' =>
    obtain ⟨hc', -, hId⟩ := conversationById_eq_some h
    rw [Table.eq_of_key_eq hc' hc hId]

/-- A message whose entry is not charged is not completed. -/
theorem ChargeInvariant.not_completed (hCharge : db.ChargeInvariant) {row : AIMessage}
    (hRow : row ∈ db.messages) (hRole : row.role = .user) {entry : AICreditLedgerEntry}
    (hEntry : entry ∈ db.ledger) (hCredit : row.creditLedgerEntryId = some entry.id)
    (hStatus : entry.status ≠ .consumed) : row.status ≠ .completed := by
  intro hCompleted
  obtain ⟨charged, hCharged, hChargedId, hConsumed⟩ := hCharge.charged row hRow hRole hCompleted
  rw [hCredit, Option.some.injEq] at hChargedId
  obtain rfl := Table.eq_of_key_eq hCharged hEntry hChargedId.symm
  exact hStatus hConsumed

/-- Whatever replies is an assistant message. -/
theorem role_of_reply {r : AIMessage} (hr : r ∈ db.messages) {x : Uuid}
    (hReply : r.replyToMessageId = some x) : r.role = .assistant := by
  cases hRole : r.role with
  | assistant => rfl
  | user =>
    have hChecks := Table.checks_of_mem hr
    simp [Schema.checks, AIMessage.roleFields, hRole, hReply] at hChecks

-- ---------------------------------------------------------------------------
-- What the transactions answer with
-- ---------------------------------------------------------------------------

/-- A claim of a completed message answers with the reply. -/
theorem claim_assistant {scope : Uuid} {config : ExecutionConfig} {loaded : Option AIMessage}
    {messageId : Uuid} {reservation : AICreditLedgerSnapshot} {now : Datetime} {token : Uuid}
    {message : AIMessage} {claim : ExecutionClaim}
    (h : db.claim scope config loaded messageId reservation now token = .ok (db', message, claim))
    {a : AIMessage} (ha : claim.assistantMessage = some a) :
    ∃ row, db.messageById scope messageId = some row ∧
      db.assistantForUser scope (locked loaded row) = some a := by
  simp only [AiDatabase.claim, bind_eq_ok, required_eq_ok] at h
  obtain ⟨row, hRow, conversation, -, groundingContext, -, h⟩ := h
  refine ⟨row, hRow, ?_⟩
  cases hStatus : (locked loaded row).status with
  | completed =>
    -- the message is answered already, and the claim returns that reply
    simp only [hStatus, bind_eq_ok, required_eq_ok] at h
    obtain ⟨assistant, hAssistant, snapshot, -, hDone⟩ := h
    simp only [pure, Except.pure, Except.ok.injEq, Prod.mk.injEq] at hDone
    obtain ⟨-, -, rfl⟩ := hDone
    exact hAssistant.trans ha
  | failed => simp [hStatus, throw, throwThe, MonadExceptOf.throw] at h
  | pending =>
    simp only [hStatus, bind_eq_ok, ensure_eq_ok] at h
    obtain ⟨-, -, -, -, h⟩ := h
    split at h
    · simp only [pure, Except.pure, Except.ok.injEq, Prod.mk.injEq] at h
      obtain ⟨-, -, rfl⟩ := h
      cases ha
    · simp only [bind_eq_ok] at h
      obtain ⟨_, -, hDone⟩ := h
      simp only [pure, Except.pure, Except.ok.injEq, Prod.mk.injEq] at hDone
      obtain ⟨-, -, rfl⟩ := hDone
      cases ha

/-- A completion answers with the reply that it found or inserted, and touches no conversation
but its own. -/
theorem completeClaim_assistant {scope : Uuid} {loaded : Option AIMessage}
    {messageId entryId token : Uuid} {generation : GeminiGeneration} {now : Datetime}
    {assistantId : Uuid} {message : AIMessage} {result : AIExecutionResult}
    (h : db.completeClaim scope loaded messageId entryId token generation now assistantId =
      .ok (db', message, result)) :
    (∀ c ∈ db.conversations, ∃ c' ∈ db'.conversations,
        c'.id = c.id ∧ c'.businessId = c.businessId) ∧
      ∀ a, result.assistantMessage = some a →
        ∃ row, db.messageById scope messageId = some row ∧ a ∈ db'.messages ∧
          a.businessId = scope ∧ a.replyToMessageId = some (locked loaded row).id := by
  -- a conversation stays one of its business, whatever is written to it
  have hSame : ∀ c ∈ db.conversations, ∃ c' ∈ db.conversations,
      c'.id = c.id ∧ c'.businessId = c.businessId := fun c hc => ⟨c, hc, rfl, rfl⟩
  simp only [completeClaim, bind_eq_ok, required_eq_ok] at h
  obtain ⟨row, hRow, conversation, hConversation, h⟩ := h
  cases hStatus : (locked loaded row).status with
  | completed =>
    simp only [hStatus, bind_eq_ok, required_eq_ok] at h
    obtain ⟨assistant, hAssistant, snapshot, -, hDone⟩ := h
    simp only [pure, Except.pure, Except.ok.injEq, Prod.mk.injEq] at hDone
    obtain ⟨rfl, -, rfl⟩ := hDone
    refine ⟨hSame, fun a ha => ⟨row, hRow, ?_⟩⟩
    obtain rfl := Option.some.inj ha
    exact assistantForUser_eq_some hAssistant
  | failed => simp [hStatus, throw, throwThe, MonadExceptOf.throw] at h
  | pending =>
    simp only [hStatus] at h
    split at h
    · simp only [pure, Except.pure, Except.ok.injEq, Prod.mk.injEq] at h
      obtain ⟨rfl, -, rfl⟩ := h
      exact ⟨hSame, fun a ha => absurd ha.symm (Option.some_ne_none a)⟩
    · simp only [bind_eq_ok, writeCompletion, required_eq_ok] at h
      obtain ⟨⟨entry, account⟩, -, -, -, -, -, updated, -, messages, hMessages, accounts, -, ledger,
        -, conversations, hConversations, hDone⟩ := h
      simp only [pure, Except.pure, Except.ok.injEq, Prod.mk.injEq] at hDone
      obtain ⟨rfl, -, rfl⟩ := hDone
      obtain ⟨hMem, -, -⟩ := conversationById_eq_some hConversation
      refine ⟨conversations_touched hConversations hMem rfl rfl, fun a ha => ⟨row, hRow, ?_⟩⟩
      obtain rfl := Option.some.inj ha
      exact ⟨(Table.mem_insert? hMessages).mpr (.inl rfl), rfl, rfl⟩

end AiDatabase

/-- The message of a request, as its submission wrote it. -/
structure AIMessage.IsOf (config : ExecutionConfig) (request : MessageRequest) (m : AIMessage) :
    Prop where
  business : m.businessId = request.businessId
  role : m.role = .user
  conversation : m.conversationId = request.conversationId
  author : m.createdByUserId = some request.userId
  content : normalizeAiMessageContent request.content = .ok m.content
  digest : ∃ digest, digestAiIdempotencyKey config.sha256 request.idempotencyKey = .ok digest ∧
    m.idempotencyKeyDigest = some digest

/-- A message of a request stays one. -/
theorem AIMessage.IsOf.kept {config : ExecutionConfig} {request : MessageRequest}
    {m m' : AIMessage} (h : m.IsOf config request) (hKept : m.Kept m') : m'.IsOf config request := by
  obtain ⟨digest, hDigest, hKey⟩ := h.digest
  exact ⟨hKept.same.business.trans h.business, hKept.same.role.trans h.role,
    hKept.same.conversation.trans h.conversation, hKept.author.trans h.author,
    hKept.same.content ▸ h.content, digest, hDigest, hKept.same.digest.trans hKey⟩

namespace Execution

variable {config : ExecutionConfig} {db db' : AiDatabase} {claims : List (Uuid × Uuid)}
  {e e' : Execution}

/-- The reply is the stored one of the execution's message. -/
structure AnsweredBy (db : AiDatabase) (e : Execution) (a : AIMessage) : Prop where
  mem : a ∈ db.messages
  business : a.businessId = e.request.businessId
  reply : a.replyToMessageId = some e.messageId

/-- What a step of an execution leaves, and what it answers with. -/
structure Answers (db db' : AiDatabase) (e' : Execution) : Prop where
  keeps : db.Keeps db'
  housed : db.Housed → db'.Housed
  answered : ∀ result a, e'.phase = .ended (.ok result) → result.assistantMessage = some a →
    AnsweredBy db' e' a

/-- A step that writes no message and answers nothing. -/
theorem Answers.of_eq (hMessages : db'.messages = db.messages)
    (hConversations : db'.conversations = db.conversations)
    (hAnswered : ∀ result a, e'.phase = .ended (.ok result) → result.assistantMessage = some a →
      AnsweredBy db' e' a) : Answers db db' e' := by
  refine ⟨.of_eq hMessages hConversations, fun h => ?_, hAnswered⟩
  intro m hm
  rw [hConversations]
  exact h m (hMessages ▸ hm)

/-- A step that rewrites one message that is not settled. -/
theorem Answers.of_update {row row' : AIMessage}
    (h : db.messages.update? row' = some db'.messages) (hRow : row ∈ db.messages)
    (hKept : row.Kept row') (hConversations : db'.conversations = db.conversations)
    (hAnswered : ∀ result a, e'.phase = .ended (.ok result) → result.assistantMessage = some a →
      AnsweredBy db' e' a) : Answers db db' e' := by
  have hKeeps := AiDatabase.keeps_update h hRow hKept hConversations
  exact ⟨hKeeps, fun hHoused =>
    hHoused.mono hKeeps (AiDatabase.old_of_update h hRow hKept.same), hAnswered⟩

theorem answeredBy_of_ne (hPhase : ∀ result, e'.phase ≠ .ended (.ok result)) :
    ∀ result a, e'.phase = .ended (.ok result) → result.assistantMessage = some a →
      AnsweredBy db' e' a :=
  fun result _ h _ => absurd h (hPhase result)

-- ---------------------------------------------------------------------------
-- The steps
-- ---------------------------------------------------------------------------

/-- A reservation answers with no reply. -/
theorem reserveStep_answers (accountId entryId : Uuid) :
    Answers db (e.reserveStep config db accountId entryId).1
      (e.reserveStep config db accountId entryId).2 := by
  unfold reserveStep
  split
  · exact .of_eq rfl rfl (answeredBy_of_ne (by simp))
  · split <;> exact .of_eq rfl rfl (answeredBy_of_ne (by simp))

theorem releaseStep_answers (reservation : AICreditLedgerSnapshot) (now : Datetime) :
    Answers db (e.releaseStep db reservation now).1 (e.releaseStep db reservation now).2 := by
  unfold releaseStep
  split <;> exact .of_eq rfl rfl (answeredBy_of_ne (by simp))

/-- The provider's answer is no stored reply yet. -/
theorem provideStep_answers (reservation : AICreditLedgerSnapshot) (token : Uuid)
    (conversation : AIConversation) (outcome : Except GeminiGatewayError GeminiGeneration) :
    Answers db db (e.provideStep config reservation token conversation outcome) := by
  refine .of_eq rfl rfl (answeredBy_of_ne fun result => ?_)
  unfold provideStep
  split
  · simp
  · split
    · simp
    · split <;> simp

/-- A claim answers with the stored reply of its message, if there is one. -/
theorem claimStep_answers (hInv : e.Invariant config db claims) (hCharge : db.ChargeInvariant)
    (hTokens : TokensKnown db claims) {reservation : AICreditLedgerSnapshot}
    (hPhase : e.phase = .reserved reservation) {token : Uuid}
    (hFresh : ∀ claim ∈ claims, claim.2 ≠ token) :
    Answers db (e.claimStep config db reservation token).1
      (e.claimStep config db reservation token).2 := by
  have hRunning : e.phase.hasEnded = false := by rw [hPhase]; rfl
  unfold claimStep
  split
  · exact .of_eq rfl rfl (answeredBy_of_ne (by simp))
  · exact .of_eq rfl rfl (answeredBy_of_ne (by simp))
  · next db' message claim h =>
    obtain ⟨row, hRow, hClaims⟩ := AiDatabase.claim_eq_ok h
    obtain ⟨hMem, hOwns⟩ := hInv.owns hRunning hRow
    have hEvolves := hInv.evolves hRow
    cases hClaims with
    | completed hStatus hSame hMessage hClaim =>
      subst hSame hMessage
      refine .of_eq rfl rfl fun result a hDone ha => ?_
      simp only [hClaim, ExecutionPhase.ended.injEq, Except.ok.injEq] at hDone
      subst hDone
      obtain ⟨row', hRow', hAssistant⟩ := AiDatabase.claim_assistant h ha
      obtain rfl := Option.some.inj (hRow.symm.trans hRow')
      obtain ⟨ha', hBusiness, hReply⟩ := AiDatabase.assistantForUser_eq_some hAssistant
      exact ⟨ha', hBusiness, by rw [hReply, ← hEvolves.same.id, hOwns.1]⟩
    | inProgress hStatus hReserved hLease hSame hMessage hClaim =>
      subst hSame hMessage
      refine .of_eq rfl rfl fun result a hDone ha => ?_
      simp only [hClaim.1, hClaim.2, ExecutionPhase.ended.injEq, Except.ok.injEq] at hDone
      subst hDone
      cases ha
    | claimed hStatus hReserved hCredit hLease hMessage hMessages hRest hClaim =>
      -- a new claim answers nothing: it goes on to the provider
      obtain ⟨prompt, hPrompt⟩ := Option.isSome_iff_exists.mp hClaim.2.2
      have hLocked := fun t => hInv.lockedToken hTokens hMem hOwns (t := t)
      obtain ⟨-, hPending, -, -⟩ := claim_row hMem hOwns.2.2.1 hEvolves hCredit
        (fun hToken => hFresh _ (hLocked token hToken) rfl) hMessage hMessages
      refine .of_update hMessages hMem (AIMessage.kept_flush hOwns.2.2.1 (by simp [hPending]))
        (by rw [hRest]) (answeredBy_of_ne fun result => ?_)
      simp [hClaim.1, hClaim.2.1, hPrompt]

/-- Marking a message failed answers with no reply. -/
theorem markFailedStep_answers (hInv : e.Invariant config db claims)
    (hPhase : e.phase.rolledBack = true ∧ e.phase.hasEnded = false) (code : AIExecutionErrorCode)
    (now : Datetime) :
    Answers db (e.markFailedStep config db code now).1 (e.markFailedStep config db code now).2 := by
  have hLoaded : e.held config = none := by
    unfold held
    split
    · rfl
    · exact hInv.rolledBack hPhase.1
  unfold markFailedStep
  split
  · next db' message h =>
    obtain ⟨row, hRow, hCase⟩ := AiDatabase.markPreReservationFailure_eq_ok h
    obtain ⟨hMem, hOwns⟩ := hInv.owns hPhase.2 hRow
    rw [hLoaded, locked_none] at hCase
    obtain ⟨rfl, rfl⟩ | ⟨hStatus, -, rfl, hMessages, hRest⟩ := hCase
    · exact .of_eq rfl rfl (answeredBy_of_ne (by simp))
    · exact .of_update hMessages hMem (AIMessage.kept_flush hOwns.2.2.1 (by simp [hStatus]))
        (by rw [hRest]) (answeredBy_of_ne (by simp))
  · exact .of_eq rfl rfl (answeredBy_of_ne (by simp))

/-- A failure answers with no reply, or with the one that another run has written. -/
theorem failStep_answers (hInv : e.Invariant config db claims) (hCharge : db.ChargeInvariant)
    {reservation : AICreditLedgerSnapshot} {token : Uuid} {code : AIExecutionErrorCode}
    (hPhase : e.phase = .failing reservation token code) (now : Datetime) :
    Answers db (e.failStep config db reservation token code now).1
      (e.failStep config db reservation token code now).2 := by
  have hRunning : e.phase.hasEnded = false := by rw [hPhase]; rfl
  unfold failStep
  split
  · next db' message done h =>
    obtain ⟨row, hRow, hCase⟩ := AiDatabase.failClaim_eq_ok h
    obtain ⟨hMem, hOwns⟩ := hInv.owns hRunning hRow
    have hEvolves := hInv.evolves hRow
    obtain ⟨rfl, rfl, -⟩ | ⟨-, hFails⟩ := hCase
    · exact .of_eq rfl rfl (answeredBy_of_ne (by simp))
    · obtain ⟨entry, account, -, -, hCredit, hEntry, -, hLedger, -, hMessages, hRest⟩ := hFails
      obtain ⟨hEntryMem, -, hEntryId⟩ := CreditTables.entryById_eq_some hEntry
      -- the entry that is given back was not charged
      have hOpen : row.status ≠ .completed := by
        refine hCharge.not_completed hMem hOwns.2.2.1 hEntryMem
          ((hEvolves.credit _ hCredit).trans (by rw [hEntryId])) ?_
        rcases hLedger with ⟨hReleased, -, -⟩ | ⟨hReserved, -, -⟩
        · simp [hReleased]
        · simp [hReserved]
      exact .of_update hMessages hMem (AIMessage.kept_flush hOwns.2.2.1 hOpen) (by rw [hRest])
        (answeredBy_of_ne (by simp))
  · exact .of_eq rfl rfl (answeredBy_of_ne (by simp))

/-- A completion answers with the reply that it stores, or finds stored. -/
theorem completeStep_answers (hInv : e.Invariant config db claims) (hCharge : db.ChargeInvariant)
    {reservation : AICreditLedgerSnapshot} {token : Uuid} {generation : GeminiGeneration}
    (hPhase : e.phase = .generated reservation token generation) (now : Datetime)
    (assistantId : Uuid) :
    Answers db (e.completeStep config db reservation token generation now assistantId).1
      (e.completeStep config db reservation token generation now assistantId).2 := by
  have hRunning : e.phase.hasEnded = false := by rw [hPhase]; rfl
  unfold completeStep
  split
  · next db' message result h =>
    obtain ⟨hConversations, hAssistant⟩ := AiDatabase.completeClaim_assistant h
    obtain ⟨row, hRow, hCase⟩ := AiDatabase.completeClaim_eq_ok h
    obtain ⟨hMem, hOwns⟩ := hInv.owns hRunning hRow
    have hEvolves := hInv.evolves hRow
    have hAnswered : ∀ phase, phase = ExecutionPhase.ended
        (.ok { result with replayed := e.replayed || result.replayed }) → ∀ r a,
        phase = .ended (.ok r) → r.assistantMessage = some a →
          AnsweredBy db' { e with loaded := some message, phase } a := by
      rintro phase rfl r a hDone ha
      simp only [ExecutionPhase.ended.injEq, Except.ok.injEq] at hDone
      subst hDone
      obtain ⟨row', hRow', ha', hBusiness, hReply⟩ := hAssistant a ha
      obtain rfl := Option.some.inj (hRow.symm.trans hRow')
      exact ⟨ha', hBusiness, by rw [hReply, ← hEvolves.same.id, hOwns.1]⟩
    obtain ⟨rfl, rfl⟩ | hCompletes := hCase
    · exact .of_eq rfl rfl (hAnswered _ rfl)
    · obtain ⟨entry, account, updated, -, -, hCredit, hEntry, -, hReserved, -, hUpdated, hInsert, -,
        -, -⟩ := hCompletes
      obtain ⟨hEntryMem, -, hEntryId⟩ := CreditTables.entryById_eq_some hEntry
      have hOpen : row.status ≠ .completed :=
        hCharge.not_completed hMem hOwns.2.2.1 hEntryMem
          ((hEvolves.credit _ hCredit).trans (by rw [hEntryId])) (by simp [hReserved])
      have hKept : row.Kept (message.flush (locked (e.held config) row) row) :=
        AIMessage.kept_flush hOwns.2.2.1 hOpen
      have hBetween : db.messages.update? (message.flush (locked (e.held config) row) row) =
          some ({ db with messages := updated } : AiDatabase).messages := hUpdated
      have hKeeps : db.Keeps db' := by
        refine ⟨fun m hm => ?_, hConversations⟩
        obtain ⟨m', hm', hKept'⟩ := (AiDatabase.keeps_update hBetween hMem hKept rfl).messages m hm
        exact ⟨m', (Table.mem_insert? hInsert).mpr (.inr hm'), hKept'⟩
      refine ⟨hKeeps, fun hHoused => hHoused.mono hKeeps fun m' hm' => ?_, hAnswered _ rfl⟩
      rcases (Table.mem_insert? hInsert).mp hm' with rfl | hm'
      · -- the reply is in the conversation of the message
        exact ⟨row, hMem, hEvolves.same.conversation.symm, hOwns.2.1.symm⟩
      · exact AiDatabase.old_of_update hUpdated hMem hKept.same m' hm'
  · exact .of_eq rfl rfl (answeredBy_of_ne (by simp))
  · exact .of_eq rfl rfl (answeredBy_of_ne (by simp))

/-- **Step lemma.** -/
theorem advance_answers {s : ExecutionState} {step : ExecutionStep} {now : Datetime}
    (hInv : e.Invariant config s.db s.claims) (hCharge : s.db.ChargeInvariant)
    (hTokens : TokensKnown s.db s.claims) (hFresh : s.fresh step = true)
    (h : e.advance config s.db step now = some (db', e')) : Answers s.db db' e' := by
  unfold advance at h
  split at h
  case h_1 accountId entryId hPhase =>
    obtain ⟨rfl, rfl⟩ := Prod.mk.inj (Option.some.inj h)
    exact reserveStep_answers accountId entryId
  case h_2 token reservation hPhase =>
    obtain ⟨rfl, rfl⟩ := Prod.mk.inj (Option.some.inj h)
    -- the token of a new claim is fresh
    refine claimStep_answers hInv hCharge hTokens hPhase fun claim hClaim => ?_
    simpa using List.all_eq_true.mp hFresh claim hClaim
  case h_3 outcome reservation token conversation prompt hPhase =>
    obtain ⟨rfl, rfl⟩ := Prod.mk.inj (Option.some.inj h)
    exact provideStep_answers reservation token conversation outcome
  case h_4 assistantId reservation token generation hPhase =>
    obtain ⟨rfl, rfl⟩ := Prod.mk.inj (Option.some.inj h)
    exact completeStep_answers hInv hCharge hPhase now assistantId
  case h_5 reservation token code hPhase =>
    obtain ⟨rfl, rfl⟩ := Prod.mk.inj (Option.some.inj h)
    exact failStep_answers hInv hCharge hPhase now
  case h_6 reservation hPhase =>
    obtain ⟨rfl, rfl⟩ := Prod.mk.inj (Option.some.inj h)
    exact releaseStep_answers reservation now
  case h_7 code hPhase =>
    obtain ⟨rfl, rfl⟩ := Prod.mk.inj (Option.some.inj h)
    exact markFailedStep_answers hInv (by rw [hPhase]; exact ⟨rfl, rfl⟩) code _
  case h_8 hPhase =>
    obtain ⟨rfl, rfl⟩ := Prod.mk.inj (Option.some.inj h)
    exact markFailedStep_answers hInv (by rw [hPhase]; exact ⟨rfl, rfl⟩) _ now
  case h_9 => simp at h

/-- A step is taken by an execution that has not ended. -/
theorem running_of_advance {step : ExecutionStep} {now : Datetime}
    (h : e.advance config db step now = some (db', e')) : e.phase.hasEnded = false := by
  unfold advance at h
  split at h
  case h_9 => simp at h
  all_goals
    next hPhase =>
      rw [hPhase]
      rfl

/-- No step moves an execution to another request or message. -/
theorem advance_same {step : ExecutionStep} {now : Datetime}
    (h : e.advance config db step now = some (db', e')) :
    e'.request = e.request ∧ e'.messageId = e.messageId := by
  -- marking the message failed keeps the request as well
  have hFail : ∀ (t : Datetime) code, (e.markFailedStep config db code t).2.request = e.request ∧
      (e.markFailedStep config db code t).2.messageId = e.messageId := fun t code => by
    unfold markFailedStep
    split <;> exact ⟨rfl, rfl⟩
  unfold advance at h
  split at h
  case h_9 => simp at h
  all_goals
    have hStep := congrArg Prod.snd (Option.some.inj h)
    subst hStep
  · unfold reserveStep
    split
    · exact ⟨rfl, rfl⟩
    · split <;> exact ⟨rfl, rfl⟩
  · unfold claimStep
    split <;> exact ⟨rfl, rfl⟩
  · dsimp only
    unfold provideStep
    split
    · exact ⟨rfl, rfl⟩
    · split
      · exact ⟨rfl, rfl⟩
      · split <;> exact ⟨rfl, rfl⟩
  · unfold completeStep
    split <;> exact ⟨rfl, rfl⟩
  · unfold failStep
    split <;> exact ⟨rfl, rfl⟩
  · unfold releaseStep
    split <;> exact ⟨rfl, rfl⟩
  · exact hFail _ _
  · exact hFail _ _

end Execution

-- ---------------------------------------------------------------------------
-- Submissions
-- ---------------------------------------------------------------------------

namespace AiDatabase

variable {db db' : AiDatabase}

/-- A message under the key answers the request only if it is the same message. -/
theorem submissionForExisting_eq_ok {request : MessageRequest} {content : Str}
    {message : AIMessage} {submission : AIMessageSubmission}
    (h : db.submissionForExisting request content message = .ok submission) :
    (message.role = .user ∧ message.conversationId = request.conversationId ∧
        message.createdByUserId = some request.userId ∧ message.content = content) ∧
      submission.userMessage = message ∧ submission.replayed = true := by
  simp only [submissionForExisting, bind_eq_ok, ensure_eq_ok, required_eq_ok] at h
  obtain ⟨-, hValid, conversation, -, hDone⟩ := h
  obtain rfl := Except.ok.inj hDone
  exact ⟨hValid, rfl, rfl⟩

/-- **Submission.** The message is that of the request, found or inserted; every conversation
stays. -/
theorem submitUserMessage_isOf {config : ExecutionConfig} {request : MessageRequest}
    {createdAt : Datetime} {messageId : Uuid} {submission : AIMessageSubmission}
    (h : db.submitUserMessage config.sha256 request createdAt messageId = .ok (db', submission)) :
    submission.userMessage.IsOf config request ∧ submission.userMessage ∈ db'.messages ∧
      db.Keeps db' ∧ (db.Housed → db'.Housed) := by
  simp only [submitUserMessage, bind_eq_ok] at h
  obtain ⟨content, hContent, digest, hDigest, h⟩ := h
  -- the digest is the one of the key, whatever error it would raise
  replace hDigest : digestAiIdempotencyKey config.sha256 request.idempotencyKey = .ok digest := by
    cases hd : digestAiIdempotencyKey config.sha256 request.idempotencyKey with
    | error e => simp [hd, Except.mapError] at hDigest
    | ok d => simpa [hd, Except.mapError] using hDigest
  cases hFound : db.messageByDigest request.businessId digest with
  | some m =>
    simp only [hFound, bind_eq_ok] at h
    obtain ⟨submission', hSubmission, hDone⟩ := h
    obtain ⟨rfl, rfl⟩ := Prod.mk.inj (Except.ok.inj hDone)
    obtain ⟨⟨hRole, hConversation, hAuthor, hSame⟩, rfl, -⟩ :=
      submissionForExisting_eq_ok hSubmission
    obtain ⟨hMem, hBusiness, hKey⟩ := messageByDigest_eq_some hFound
    exact ⟨⟨hBusiness, hRole, hConversation, hAuthor, hSame ▸ hContent, digest, hDigest, hKey⟩,
      hMem, .refl _, id⟩
  | none =>
    simp only [hFound] at h
    split at h
    · simp [throw, throwThe, MonadExceptOf.throw] at h
    · simp only [insertUserMessage, bind_eq_ok, required_eq_ok] at h
      obtain ⟨conversation, hConversation, conversations, hConversations, messages, hMessages,
        hDone⟩ := h
      obtain ⟨rfl, rfl⟩ := Prod.mk.inj (Except.ok.inj hDone)
      obtain ⟨hMem, hBusiness, hId⟩ := conversationById_eq_some hConversation
      have hMessage := fun x => Table.mem_insert? (x := x) hMessages
      -- the conversation's times are written, and nothing else of it
      have hTouched := conversations_touched hConversations hMem rfl rfl
      refine ⟨⟨rfl, rfl, hId, rfl, hContent, digest, hDigest, rfl⟩, (hMessage _).mpr (.inl rfl),
        ⟨fun m hm => ⟨m, (hMessage m).mpr (.inr hm), .refl m⟩, hTouched⟩, fun hHoused m hm => ?_⟩
      rcases (hMessage m).mp hm with rfl | hm
      · obtain ⟨c, hc, hcId, hcBusiness⟩ := hTouched conversation hMem
        exact ⟨c, hc, hcId, hcBusiness.trans hBusiness⟩
      · obtain ⟨c, hc, hcId, hcBusiness⟩ := hHoused m hm
        obtain ⟨c', hc', hId', hBusiness'⟩ := hTouched c hc
        exact ⟨c', hc', hId'.trans hcId, hBusiness'.trans hcBusiness⟩

/-- A stored result is that of the reply. -/
theorem existingResult_assistant {scope : Uuid} {submission : AIMessageSubmission}
    {result : AIExecutionResult} (h : db.existingResult scope submission = some (.ok result))
    {a : AIMessage} (ha : result.assistantMessage = some a) :
    a ∈ db.messages ∧ a.businessId = scope ∧
      a.replyToMessageId = some submission.userMessage.id := by
  unfold existingResult at h
  cases hStatus : submission.userMessage.status with
  | pending => simp [hStatus] at h
  | failed => simp [hStatus] at h
  | completed =>
    simp only [hStatus, Option.some.injEq, bind_eq_ok, required_eq_ok] at h
    obtain ⟨assistant, hAssistant, entryId, -, snapshot, -, hDone⟩ := h
    obtain rfl := Except.ok.inj hDone
    obtain rfl := Option.some.inj ha
    exact assistantForUser_eq_some hAssistant

end AiDatabase

namespace Execution

variable {config : ExecutionConfig} {db db' : AiDatabase} {e e' : Execution}

/-- The submission was refused. -/
def refused (e : Execution) : Bool :=
  match e.phase with
  | .ended (.error (.conversation _)) => true
  | _ => false

/-- The execution's message is that of its request. -/
def Submitted (config : ExecutionConfig) (db : AiDatabase) (e : Execution) : Prop :=
  ∃ row ∈ db.messages, row.id = e.messageId ∧ row.IsOf config e.request

/-- The message of a run stays its message. -/
theorem Submitted.mono (h : e.Submitted config db) (hKeeps : db.Keeps db')
    (hSame : e'.request = e.request ∧ e'.messageId = e.messageId) : e'.Submitted config db' := by
  obtain ⟨row, hRow, hId, hIs⟩ := h
  obtain ⟨row', hRow', hKept⟩ := hKeeps.messages row hRow
  exact ⟨row', hRow', hKept.same.id.trans (hId.trans hSame.2.symm), hSame.1 ▸ hIs.kept hKept⟩

theorem AnsweredBy.mono {a : AIMessage} (h : AnsweredBy db e a) (hKeeps : db.Keeps db') :
    AnsweredBy db' e a :=
  ⟨hKeeps.mem h.mem (.inl (AiDatabase.role_of_reply h.mem h.reply)), h.business, h.reply⟩

/-- **Submission.** -/
theorem start_answers (request : MessageRequest) (checkedAt : Datetime) (messageId : Uuid) :
    Answers db (start config db request checkedAt messageId).1
        (start config db request checkedAt messageId).2 ∧
      ((start config db request checkedAt messageId).2.refused = false →
        (start config db request checkedAt messageId).2.Submitted config
          (start config db request checkedAt messageId).1) := by
  unfold start
  split
  · exact ⟨.of_eq rfl rfl (answeredBy_of_ne (by simp)), by simp [refused]⟩
  · next db' submission h =>
    obtain ⟨hIs, hMem, hKeeps, hHoused⟩ := AiDatabase.submitUserMessage_isOf h
    refine ⟨⟨hKeeps, hHoused, fun result a hDone ha => ?_⟩, fun _ => ⟨_, hMem, rfl, hIs⟩⟩
    dsimp only at hDone
    split at hDone
    · next outcome hReplayed hResult =>
      obtain rfl := ExecutionPhase.ended.inj hDone
      obtain ⟨ha', hBusiness, hReply⟩ := AiDatabase.existingResult_assistant hResult ha
      exact ⟨ha', hBusiness, hReply⟩
    · cases hDone

end Execution

-- ---------------------------------------------------------------------------
-- Runs
-- ---------------------------------------------------------------------------

namespace ExecutionState

variable {config : ExecutionConfig} {s : ExecutionState}

/-- **The invariant of the answers.** -/
structure AnswerInvariant (config : ExecutionConfig) (s : ExecutionState) : Prop where
  housed : s.db.Housed
  submitted : ∀ e ∈ s.executions, e.refused = false → e.Submitted config s.db
  answered : ∀ e ∈ s.executions, ∀ result a, e.phase = .ended (.ok result) →
    result.assistantMessage = some a → Execution.AnsweredBy s.db e a

/-- An action of nobody's execution. -/
private theorem answers_of_keeps (h : s.AnswerInvariant config) {db : AiDatabase}
    (hKeeps : s.db.Keeps db) (hHoused : db.Housed) (clock : Datetime) :
    AnswerInvariant config { s with db, clock } where
  housed := hHoused
  submitted e he hOpen := (h.submitted e he hOpen).mono hKeeps ⟨rfl, rfl⟩
  answered e he result a hPhase ha := (h.answered e he result a hPhase ha).mono hKeeps

/-- A step of one execution, put in its place. -/
private theorem answers_of_step (h : s.AnswerInvariant config) {db : AiDatabase} {e' : Execution}
    (hStep : Execution.Answers s.db db e') (hSubmitted : e'.refused = false → e'.Submitted config db)
    {executions : List Execution} (hExecutions : ∀ e ∈ executions, e = e' ∨ e ∈ s.executions)
    (clock : Datetime) (claims : List (Uuid × Uuid)) :
    AnswerInvariant config ⟨db, executions, clock, claims⟩ where
  housed := hStep.housed h.housed
  submitted e he hOpen := by
    rcases hExecutions e he with rfl | he
    · exact hSubmitted hOpen
    · exact (h.submitted e he hOpen).mono hStep.keeps ⟨rfl, rfl⟩
  answered e he result a hPhase ha := by
    rcases hExecutions e he with rfl | he
    · exact hStep.answered result a hPhase ha
    · exact (h.answered e he result a hPhase ha).mono hStep.keeps

/-- **Step lemma.** -/
theorem step_answerInvariant (hInv : s.Invariant config) (h : s.AnswerInvariant config)
    (timed : TimedAction) :
    (step config s timed).AnswerInvariant config ∧ s.db.Keeps (step config s timed).db := by
  obtain ⟨now, action⟩ := timed
  have hIdle : AnswerInvariant config { s with clock := now } ∧ s.db.Keeps s.db :=
    ⟨answers_of_keeps h (.refl _) h.housed now, .refl _⟩
  cases action with
  | submit request checkedAt messageId =>
    have hStart := @Execution.start_answers config s.db request checkedAt messageId
    obtain ⟨hStep, hSubmitted⟩ := hStart
    refine ⟨answers_of_step h hStep hSubmitted (fun e he => ?_) now s.claims, hStep.keeps⟩
    rcases List.mem_append.mp he with he | he
    · exact .inr he
    · exact .inl (List.mem_singleton.mp he)
  | subscriptions tables =>
    have hKeeps : s.db.Keeps { s.db with toSubscriptionTables := tables } := .of_eq rfl rfl
    exact ⟨answers_of_keeps h hKeeps h.housed now, hKeeps⟩
  | converse conversation =>
    simp only [step]
    split
    · exact hIdle
    · next conversations hInsert =>
      have hMem := fun c => Table.mem_insert? (x := c) hInsert
      have hKeeps : s.db.Keeps { s.db with conversations } :=
        ⟨fun m hm => ⟨m, hm, .refl m⟩, fun c hc => ⟨c, (hMem c).mpr (.inr hc), rfl, rfl⟩⟩
      refine ⟨answers_of_keeps h hKeeps (fun m hm => ?_) now, hKeeps⟩
      obtain ⟨c, hc, hHouse⟩ := h.housed m hm
      exact ⟨c, (hMem c).mpr (.inr hc), hHouse⟩
  | adjust request ids =>
    simp only [step]
    split
    · exact hIdle
    · next db result hAdjust =>
      have hKeeps : s.db.Keeps { s.db with toCreditDatabase := db } := .of_eq rfl rfl
      exact ⟨answers_of_keeps h hKeeps h.housed now, hKeeps⟩
  | advance i executionStep =>
    simp only [step]
    split
    · exact hIdle
    · next e hGet =>
      split
      · next hFresh =>
        split
        · exact hIdle
        · next db' e' hAdvance =>
          have he : e ∈ s.executions := List.mem_of_getElem? hGet
          have hStep := Execution.advance_answers (hInv.executions e he) hInv.charge hInv.tokens
            hFresh hAdvance
          -- a run that still moves was not refused when it submitted its message
          have hOpen : e.refused = false := by
            have hRunning := Execution.running_of_advance hAdvance
            unfold Execution.refused
            split
            · next hPhase =>
              rw [hPhase] at hRunning
              cases hRunning
            · rfl
          refine ⟨answers_of_step h hStep (fun _ => (h.submitted e he hOpen).mono hStep.keeps
            (Execution.advance_same hAdvance)) (fun x hx => ?_) now _, hStep.keeps⟩
          exact (List.mem_or_eq_of_mem_set hx).symm
      · exact hIdle

/-- The invariant holds before the first request. -/
theorem init_answerInvariant (tables : SubscriptionTables) (businesses : Table Business)
    (conversations : Table AIConversation) (clock : Datetime) :
    (init tables businesses conversations clock).AnswerInvariant config where
  housed := fun _ h => absurd h (Table.not_mem_empty _)
  submitted := by simp [init]
  answered := by simp [init]

/-- **Run lemma.** -/
theorem run_answerInvariant (hInv : s.Invariant config) (h : s.AnswerInvariant config)
    (as : List TimedAction) :
    (run (step config) s as).AnswerInvariant config ∧ s.db.Keeps (run (step config) s as).db := by
  have hBoth : ∀ (s : ExecutionState) a, s.Invariant config ∧ s.AnswerInvariant config →
      (step config s a).Invariant config ∧ (step config s a).AnswerInvariant config :=
    fun s a hs => ⟨(step_invariant hs.1 a).1, (step_answerInvariant hs.1 hs.2 a).1⟩
  refine ⟨(run_invariant (I := fun s : ExecutionState =>
    s.Invariant config ∧ s.AnswerInvariant config) hBoth ⟨hInv, h⟩ as).2, ?_⟩
  exact run_related (I := fun s : ExecutionState =>
      s.Invariant config ∧ s.AnswerInvariant config)
    (R := fun s t => s.db.Keeps t.db) (fun s => .refl s.db) (fun _ _ _ h h' => h.trans h') hBoth
    (fun s a hs => (step_answerInvariant hs.1 hs.2 a).2) ⟨hInv, h⟩ as

end ExecutionState

-- ---------------------------------------------------------------------------
-- A later submission
-- ---------------------------------------------------------------------------

namespace AiDatabase

variable {db : AiDatabase}

/-- A message is found by the digest of its key. -/
theorem messageByDigest_of_mem {m : AIMessage} (hm : m ∈ db.messages) {digest : Str}
    (hDigest : m.idempotencyKeyDigest = some digest) :
    db.messageByDigest m.businessId digest = some m := by
  cases h : db.messageByDigest m.businessId digest with
  | none =>
    have := Table.find?_eq_none.mp h m hm
    simp [hDigest] at this
  | some m' =>
    obtain ⟨hm', hBusiness, hDigest'⟩ := messageByDigest_eq_some h
    rw [eq_of_digest hm' hm hBusiness hDigest' hDigest]

/-- A message has one reply. -/
theorem assistantForUser_of_mem {m r : AIMessage} (hr : r ∈ db.messages)
    (hBusiness : r.businessId = m.businessId) (hConversation : r.conversationId = m.conversationId)
    (hReply : r.replyToMessageId = some m.id) : db.assistantForUser m.businessId m = some r := by
  have hRole := role_of_reply hr hReply
  cases h : db.assistantForUser m.businessId m with
  | none =>
    have := Table.find?_eq_none.mp h r hr
    simp [hBusiness, hConversation, hReply, hRole] at this
  | some r' =>
    have hp := Table.prop_of_find? h
    simp only [Bool.and_eq_true, beq_iff_eq] at hp
    obtain ⟨⟨⟨hBusiness', hConversation'⟩, hReply'⟩, -⟩ := hp
    refine congrArg some (Table.eq_of_clash (Table.mem_of_find? h) hr ?_)
    simp [Schema.clash, hBusiness, hBusiness', hConversation, hConversation', hReply, hReply', sameKey]

/-- A submission under a key that is taken. -/
theorem submitUserMessage_of_found {sha256 : List UInt8 → Str} {request : MessageRequest}
    {content digest : Str} {m : AIMessage}
    (hContent : normalizeAiMessageContent request.content = .ok content)
    (hDigest : (digestAiIdempotencyKey sha256 request.idempotencyKey).mapError
      AIConversationError.credit = .ok digest)
    (hFound : db.messageByDigest request.businessId digest = some m) (createdAt : Datetime)
    (messageId : Uuid) :
    db.submitUserMessage sha256 request createdAt messageId =
      db.submissionForExisting request content m >>= fun submission => .ok (db, submission) := by
  simp only [submitUserMessage, hContent, hDigest, ok_bind, hFound]
  rfl

/-- An entry's snapshot can be taken. -/
theorem exists_snapshot (hCredit : db.CreditInvariant) {entry : AICreditLedgerEntry}
    (hEntry : entry ∈ db.ledger) (replayed : Bool) :
    ∃ snapshot, db.snapshot entry.businessId entry.id replayed = .ok snapshot := by
  obtain ⟨account, hAccount, hId, hBusiness, hSubscription⟩ := hCredit.owned entry hEntry
  have hFind : db.accounts.find? (fun a => a.businessId == entry.businessId &&
      a.id == entry.accountId) = some account := by
    cases h : db.accounts.find? fun a => a.businessId == entry.businessId &&
        a.id == entry.accountId with
    | none =>
      have := Table.find?_eq_none.mp h account hAccount
      simp [hId, hBusiness] at this
    | some a =>
      have hp := Table.prop_of_find? h
      rw [Bool.and_eq_true, beq_iff_eq, beq_iff_eq] at hp
      rw [Table.eq_of_key_eq (Table.mem_of_find? h) hAccount (hp.2.trans hId.symm)]
  refine ⟨CreditTables.snapshotOf entry account replayed, ?_⟩
  simp only [CreditTables.snapshot, bind_eq_ok, required_eq_ok, ensure_eq_ok]
  exact ⟨entry, CreditTables.entryById_of_mem hEntry rfl, account, hFind, (), hSubscription, rfl⟩

end AiDatabase

/-- Two requests of one business under one key. -/
def MessageRequest.SameKey (r r' : MessageRequest) : Prop :=
  r.businessId = r'.businessId ∧ r.idempotencyKey = r'.idempotencyKey

/-- Two requests of one user for one message in one conversation. -/
def MessageRequest.SameContent (r r' : MessageRequest) : Prop :=
  r.userId = r'.userId ∧ r.conversationId = r'.conversationId ∧
    normalizeAiMessageContent r.content = normalizeAiMessageContent r'.content

namespace Execution

variable {config : ExecutionConfig} {db : AiDatabase} {e : Execution}

/-- **A later submission** of an answered request ends at once with the reply; under its key no
other request is accepted. Either way the database stays as it is. -/
theorem start_of_answered (hCharge : db.ChargeInvariant) (hCredit : db.CreditInvariant)
    (hHoused : db.Housed) (hSubmitted : e.Submitted config db) {a : AIMessage}
    (ha : AnsweredBy db e a) {request : MessageRequest} (hKey : request.SameKey e.request)
    (checkedAt : Datetime) (messageId : Uuid) :
    (request.SameContent e.request → ∃ again,
        start config db request checkedAt messageId =
          (db, ⟨request, checkedAt, e.messageId, true, some again.userMessage,
            .ended (.ok again)⟩) ∧
        again.assistantMessage = some a ∧ again.replayed = true ∧ again.inProgress = false) ∧
      (¬ request.SameContent e.request → ∃ error,
        start config db request checkedAt messageId =
          (db, ⟨request, checkedAt, messageId, false, none,
            .ended (.error (.conversation error))⟩)) := by
  obtain ⟨row, hRow, hId, hIs⟩ := hSubmitted
  obtain ⟨digest, hDigest, hRowDigest⟩ := hIs.digest
  -- the message that the reply names is completed
  obtain ⟨answered, hAnswered, hRole, hCompleted, hBusiness, hConversation, hReply⟩ :=
    hCharge.replies a ha.mem (AiDatabase.role_of_reply ha.mem ha.reply)
  obtain rfl : answered = row := by
    have hSame : answered.id = row.id :=
      (Option.some.inj (hReply.symm.trans ha.reply)).trans hId.symm
    exact Table.eq_of_key_eq hAnswered hRow hSame
  obtain ⟨c, hc, hcId, hcBusiness⟩ := hHoused answered hRow
  have hFound : db.messageByDigest request.businessId digest = some answered := by
    rw [hKey.1, ← hIs.business]
    exact AiDatabase.messageByDigest_of_mem hRow hRowDigest
  have hDigest' : (digestAiIdempotencyKey config.sha256 request.idempotencyKey).mapError
      AIConversationError.credit = .ok digest := by
    rw [hKey.2, hDigest]
    rfl
  refine ⟨fun hSame => ?_, fun hOther => ?_⟩
  · obtain ⟨hUser, hWhere, hContent⟩ := hSame
    have hHouse : db.conversationById request.businessId answered.conversationId = some c := by
      rw [hKey.1, ← hIs.business, ← hcBusiness, ← hcId]
      exact AiDatabase.conversationById_of_mem hc
    have hSubmit : db.submitUserMessage config.sha256 request checkedAt messageId =
        .ok (db, ⟨c, answered, true⟩) := by
      rw [AiDatabase.submitUserMessage_of_found (hContent.trans hIs.content) hDigest' hFound,
        AiDatabase.submissionForExisting, ensure_pos, hHouse]
      · rfl
      · exact ⟨hIs.role, hIs.conversation.trans hWhere.symm, by rw [hIs.author, hUser], rfl⟩
    -- what is stored of the reply
    obtain ⟨entry, hEntry, hAttached, -⟩ := hCharge.charged answered hRow hRole hCompleted
    obtain ⟨entry', hEntry', hEntryId, hEntryBusiness, -⟩ :=
      hCharge.attached answered hRow hRole _ hAttached
    obtain rfl := Table.eq_of_key_eq hEntry' hEntry hEntryId
    obtain ⟨snapshot, hSnapshot⟩ := AiDatabase.exists_snapshot hCredit hEntry true
    have hAssistant : db.assistantForUser request.businessId answered = some a := by
      rw [hKey.1, ← hIs.business]
      exact AiDatabase.assistantForUser_of_mem ha.mem hBusiness hConversation hReply
    rw [hEntryBusiness, hIs.business, ← hKey.1] at hSnapshot
    obtain ⟨again, hExisting, hMessage, hAgain⟩ : ∃ again,
        db.existingResult request.businessId ⟨c, answered, true⟩ = some (.ok again) ∧
          again.userMessage = answered ∧ again.assistantMessage = some a ∧
          again.replayed = true ∧ again.inProgress = false := by
      refine ⟨{ conversation := c
                userMessage := answered
                assistantMessage := some a
                usage := some (usageFromSnapshot snapshot)
                replayed := true
                inProgress := false }, ?_, rfl, rfl, rfl, rfl⟩
      simp only [AiDatabase.existingResult, hCompleted, hAssistant, hAttached, hSnapshot,
        required_some, ok_bind]
      rfl
    refine ⟨again, ?_, hAgain⟩
    simp only [start, hSubmit, hExisting, hMessage, hId]
  · have hRefused : ∃ error, db.submitUserMessage config.sha256 request checkedAt messageId =
        .error error := by
      cases hContent : normalizeAiMessageContent request.content with
      | error error =>
        refine ⟨error, ?_⟩
        rw [AiDatabase.submitUserMessage, hContent]
        rfl
      | ok content =>
        refine ⟨.idempotencyConflict, ?_⟩
        rw [AiDatabase.submitUserMessage_of_found hContent hDigest' hFound,
          AiDatabase.submissionForExisting, ensure_neg]
        · rfl
        · rintro ⟨-, hWhere, hUser, hSame⟩
          refine hOther ⟨Option.some.inj (hUser.symm.trans hIs.author),
            hWhere.symm.trans hIs.conversation, ?_⟩
          rw [hContent, hIs.content, hSame]
    obtain ⟨error, hError⟩ := hRefused
    exact ⟨error, by simp only [start, hError]⟩

end Execution

namespace ExecutionState

/-- **Answered requests replay.** Once an execution has ended with a reply, in every continuation
of the run: the reply is stored as it was; every later submission of the same request ends at once
with it, and every other request under its key is refused. Neither changes the database, so
nothing is charged again. -/
theorem answered_requests_replay (config : ExecutionConfig) (tables : SubscriptionTables)
    (businesses : Table Business) (conversations : Table AIConversation) (clock : Datetime)
    (as more : List TimedAction) :
    let s : ExecutionState := run (step config) (init tables businesses conversations clock) as
    let s' : ExecutionState := run (step config) s more
    ∀ e ∈ s.executions, ∀ result reply, e.phase = .ended (.ok result) →
      result.assistantMessage = some reply →
        reply ∈ s'.db.messages ∧
          ∀ (request : MessageRequest) checkedAt messageId, request.SameKey e.request →
            (request.SameContent e.request → ∃ again,
                Execution.start config s'.db request checkedAt messageId =
                  (s'.db, ⟨request, checkedAt, e.messageId, true, some again.userMessage,
                    .ended (.ok again)⟩) ∧
                again.assistantMessage = some reply ∧ again.replayed = true ∧
                again.inProgress = false) ∧
              (¬ request.SameContent e.request → ∃ error,
                Execution.start config s'.db request checkedAt messageId =
                  (s'.db, ⟨request, checkedAt, messageId, false, none,
                    .ended (.error (.conversation error))⟩)) := by
  intro s s' e he result reply hPhase hReply
  have hStart := @invariant_init config tables businesses conversations clock
  have hInv : s.Invariant config := invariant_run hStart as
  have hInv' : s'.Invariant config := invariant_run hInv more
  have hAnswers : s.AnswerInvariant config :=
    (run_answerInvariant hStart (init_answerInvariant tables businesses conversations clock) as).1
  obtain ⟨hAnswers', hKeeps⟩ := run_answerInvariant hInv hAnswers more
  have hOpen : e.refused = false := by
    unfold Execution.refused
    rw [hPhase]
  -- what the execution has is still there
  have hSubmitted : e.Submitted config s'.db :=
    (hAnswers.submitted e he hOpen).mono hKeeps ⟨rfl, rfl⟩
  have hAnswered : Execution.AnsweredBy s'.db e reply :=
    (hAnswers.answered e he result reply hPhase hReply).mono hKeeps
  exact ⟨hAnswered.mem, fun request checkedAt messageId hKey =>
    Execution.start_of_answered hInv'.charge hInv'.credit hAnswers'.housed hSubmitted hAnswered hKey
      checkedAt messageId⟩

end ExecutionState

-- ---------------------------------------------------------------------------
-- A sample
-- ---------------------------------------------------------------------------

/-- The reply an execution ended with. -/
def Execution.reply? (e : Execution) : Option AIMessage :=
  match e.phase with
  | .ended (.ok result) => result.assistantMessage
  | _ => none

/-- A reply is that of a run that ended. -/
theorem Execution.reply?_eq_some {e : Execution} {reply : AIMessage} (h : e.reply? = some reply) :
    ∃ result, e.phase = .ended (.ok result) ∧ result.assistantMessage = some reply := by
  unfold reply? at h
  split at h
  · next result hPhase => exact ⟨result, hPhase, h⟩
  · cases h

namespace Sample

/-- A request that is answered. -/
def answeredRun : List TimedAction :=
  [at' 1 (.submit request (seconds 1) 1),
    at' 2 (.advance 0 (.reserve 1 1)),
    at' 3 (.advance 0 (.claim 7)),
    at' 4 (.advance 0 (.provide (.ok generation))),
    at' 5 (.advance 0 (.complete 2))]

/-- The subscription is gone, and a request under another content comes first. -/
def afterwards : List TimedAction :=
  [at' 101 (.subscriptions {}),
    at' 102 (.submit { request with content := str "And costs?" } (seconds 102) 3)]

end Sample

namespace ExecutionState

/-- The reply is there although nothing could be reserved for the request any more. -/
theorem answered_requests_replay_unsubscribed :
    let s : ExecutionState :=
      run (step (Sample.config false)) Sample.start (Sample.answeredRun ++ Sample.afterwards)
    ∃ again reply,
      Execution.start (Sample.config false) s.db Sample.request (seconds 103) 4 =
        (s.db, ⟨Sample.request, seconds 103, 1, true, some again.userMessage,
          .ended (.ok again)⟩) ∧
      again.assistantMessage = some reply ∧ reply.content = str "They went well." := by
  intro s
  -- the run up to the answer, computed
  obtain ⟨e, he, hReply, hId, hBusiness, hKey, hUser, hWhere, hContent⟩ : ∃ e ∈ (run
      (step (Sample.config false)) Sample.start Sample.answeredRun).executions,
      e.reply?.map (·.content) = some (str "They went well.") ∧ e.messageId = 1 ∧
        Sample.request.businessId = e.request.businessId ∧
        Sample.request.idempotencyKey = e.request.idempotencyKey ∧
        Sample.request.userId = e.request.userId ∧
        Sample.request.conversationId = e.request.conversationId ∧
        Sample.request.content = e.request.content := by
    decide +kernel
  obtain ⟨reply, hSome, hText⟩ := Option.map_eq_some_iff.mp hReply
  obtain ⟨result, hPhase, hResult⟩ := Execution.reply?_eq_some hSome
  have hReplay := answered_requests_replay (Sample.config false) Sample.tables .empty _ 0
    Sample.answeredRun Sample.afterwards e he result reply hPhase hResult
  obtain ⟨again, hStart, hMessage, -⟩ := (hReplay.2 Sample.request (seconds 103) 4
    ⟨hBusiness, hKey⟩).1 ⟨hUser, hWhere, by rw [hContent]⟩
  rw [hId, ← run_append] at hStart
  exact ⟨again, reply, hStart, hMessage, hText⟩

end ExecutionState

end SpikeBackend
