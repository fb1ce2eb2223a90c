import SpikeBackend.Credits.Conservation

/-!
# Messages, replies and charges

`ChargeInvariant` ties a user message to the entry attached to it and to its reply. Each
transaction changes the three tables in one of four ways, and each way keeps it:

* `ChargeInvariant.ledger` — the ledger moves without a charge;
* `ChargeInvariant.insert` — a pending message comes in;
* `ChargeInvariant.update` — an uncompleted message is rewritten;
* `ChargeInvariant.complete` — a message is charged, completed and answered.
-/

namespace SpikeBackend

open Relational Text Outcome Session

/-- The columns of a message that no transaction rewrites. -/
structure AIMessage.SameMessage (m m' : AIMessage) : Prop where
  id : m'.id = m.id
  business : m'.businessId = m.businessId
  conversation : m'.conversationId = m.conversationId
  role : m'.role = m.role
  digest : m'.idempotencyKeyDigest = m.idempotencyKeyDigest
  reply : m'.replyToMessageId = m.replyToMessageId
  created : m'.createdAt = m.createdAt
  content : m'.content = m.content

/-- A later row of the same message: what was attached stays attached, and a message that
left `pending` keeps its status. -/
structure AIMessage.Evolves (m m' : AIMessage) : Prop where
  same : m.SameMessage m'
  credit : ∀ x, m.creditLedgerEntryId = some x → m'.creditLedgerEntryId = some x
  status : m.status ≠ .pending → m'.status = m.status

namespace AIMessage

theorem SameMessage.refl (m : AIMessage) : m.SameMessage m :=
  ⟨rfl, rfl, rfl, rfl, rfl, rfl, rfl, rfl⟩

theorem SameMessage.symm {m m' : AIMessage} (h : m.SameMessage m') : m'.SameMessage m :=
  ⟨h.id.symm, h.business.symm, h.conversation.symm, h.role.symm, h.digest.symm, h.reply.symm,
    h.created.symm, h.content.symm⟩

/-- Being the same message is transitive. -/
theorem SameMessage.trans {m₁ m₂ m₃ : AIMessage} (h : m₁.SameMessage m₂)
    (h' : m₂.SameMessage m₃) : m₁.SameMessage m₃ :=
  ⟨h'.id.trans h.id, h'.business.trans h.business, h'.conversation.trans h.conversation,
    h'.role.trans h.role, h'.digest.trans h.digest, h'.reply.trans h.reply,
    h'.created.trans h.created, h'.content.trans h.content⟩

theorem Evolves.refl (m : AIMessage) : m.Evolves m := ⟨.refl m, fun _ h => h, fun _ => rfl⟩

/-- Evolutions compose. -/
theorem Evolves.trans {m₁ m₂ m₃ : AIMessage} (h : m₁.Evolves m₂) (h' : m₂.Evolves m₃) :
    m₁.Evolves m₃ := by
  refine ⟨h.same.trans h'.same, fun x hx => h'.credit x (h.credit x hx), fun hs => ?_⟩
  have h₂ := h.status hs
  rw [h'.status (h₂ ▸ hs), h₂]

theorem claimFor_same (m : AIMessage) (entryId token : Uuid) (leaseExpiresAt now : Datetime) :
    m.SameMessage (m.claimFor entryId token leaseExpiresAt now) :=
  ⟨rfl, rfl, rfl, rfl, rfl, rfl, rfl, rfl⟩

theorem markFailed_same (m : AIMessage) (code : AIExecutionErrorCode) (now : Datetime) :
    m.SameMessage (m.markFailed code now) := ⟨rfl, rfl, rfl, rfl, rfl, rfl, rfl, rfl⟩

theorem markCompleted_same (m : AIMessage) (now : Datetime) :
    m.SameMessage (m.markCompleted now) := ⟨rfl, rfl, rfl, rfl, rfl, rfl, rfl, rfl⟩

theorem flush_same (modified loaded row : AIMessage) : row.SameMessage (modified.flush loaded row) :=
  ⟨rfl, rfl, rfl, rfl, rfl, rfl, rfl, rfl⟩

end AIMessage

namespace AiDatabase

/-- **The charge invariant.** -/
structure ChargeInvariant (db : AiDatabase) : Prop where
  /-- what is attached to a message is an entry of its key -/
  attached : ∀ m ∈ db.messages, m.role = .user → ∀ x, m.creditLedgerEntryId = some x →
    ∃ e ∈ db.ledger, e.id = x ∧ e.businessId = m.businessId ∧
      m.idempotencyKeyDigest = some e.idempotencyKeyDigest
  /-- a completed message was charged -/
  charged : ∀ m ∈ db.messages, m.role = .user → m.status = .completed →
    ∃ e ∈ db.ledger, m.creditLedgerEntryId = some e.id ∧ e.status = .consumed
  /-- a charge is that of a completed message -/
  consumed : ∀ e ∈ db.ledger, e.status = .consumed →
    ∃ m ∈ db.messages, m.role = .user ∧ m.status = .completed ∧ m.creditLedgerEntryId = some e.id
  /-- a completed message was answered -/
  answered : ∀ m ∈ db.messages, m.role = .user → m.status = .completed →
    ∃ r ∈ db.messages, r.role = .assistant ∧ r.businessId = m.businessId ∧
      r.conversationId = m.conversationId ∧ r.replyToMessageId = some m.id
  /-- an answer is that of a completed message of its conversation -/
  replies : ∀ r ∈ db.messages, r.role = .assistant →
    ∃ m ∈ db.messages, m.role = .user ∧ m.status = .completed ∧ r.businessId = m.businessId ∧
      r.conversationId = m.conversationId ∧ r.replyToMessageId = some m.id
  /-- what is attached to a failed message was given back -/
  failed : ∀ m ∈ db.messages, m.role = .user → m.status = .failed →
    ∀ x, m.creditLedgerEntryId = some x → ∃ e ∈ db.ledger, e.id = x ∧ e.status = .released

/-- Every message is still there, as a later row of itself. -/
def MessagesAdvance (db db' : AiDatabase) : Prop :=
  ∀ m ∈ db.messages, ∃ m' ∈ db'.messages, m.Evolves m'

theorem MessagesAdvance.of_eq {db db' : AiDatabase} (h : db'.messages = db.messages) :
    db.MessagesAdvance db' := fun m hm => ⟨m, h ▸ hm, .refl m⟩

/-- No transaction charged an entry between the two databases. -/
def NoCharge (db db' : CreditTables) : Prop :=
  ∀ e' ∈ db'.ledger, e'.status = .consumed → ∃ e ∈ db.ledger, e.id = e'.id ∧ e.status = .consumed

theorem NoCharge.of_eq {db db' : CreditTables} (h : db'.ledger = db.ledger) : NoCharge db db' :=
  fun e he hStatus => ⟨e, h ▸ he, rfl, hStatus⟩

/-- Inserting an entry that is not consumed charges nothing. -/
theorem NoCharge.of_insert {db db' : CreditTables} {entry : AICreditLedgerEntry}
    (h : db.ledger.insert? entry = some db'.ledger) (hStatus : entry.status ≠ .consumed) :
    NoCharge db db' := by
  intro e he hConsumed
  rcases (Table.mem_insert? h).mp he with rfl | he
  · exact absurd hConsumed hStatus
  · exact ⟨e, he, rfl, hConsumed⟩

/-- Updating an entry to a status other than consumed charges nothing. -/
theorem NoCharge.of_update {db db' : CreditTables} {entry : AICreditLedgerEntry}
    (h : db.ledger.update? entry = some db'.ledger) (hStatus : entry.status ≠ .consumed) :
    NoCharge db db' := by
  intro e he hConsumed
  rcases (Table.mem_update? h).mp he with ⟨rfl, -⟩ | ⟨he, -⟩
  · exact absurd hConsumed hStatus
  · exact ⟨e, he, rfl, hConsumed⟩

variable {db db' : AiDatabase}

/-- Two user messages of one business with one key are the same row. -/
theorem eq_of_digest {m m' : AIMessage} (hm : m ∈ db.messages) (hm' : m' ∈ db.messages)
    (hBusiness : m.businessId = m'.businessId) {digest : Str}
    (hDigest : m.idempotencyKeyDigest = some digest)
    (hDigest' : m'.idempotencyKeyDigest = some digest) : m = m' := by
  refine Table.eq_of_clash hm hm' ?_
  simp [Schema.clash, hBusiness, hDigest, hDigest', sameKey]

/-- Two entries of one business with one key are the same row. -/
theorem entry_eq_of_digest {e e' : AICreditLedgerEntry} {ledger : Table AICreditLedgerEntry}
    (he : e ∈ ledger) (he' : e' ∈ ledger) (hBusiness : e.businessId = e'.businessId)
    (hDigest : e.idempotencyKeyDigest = e'.idempotencyKeyDigest) : e = e' :=
  Table.eq_of_clash he he' (decide_eq_true ⟨hBusiness, hDigest⟩)

namespace ChargeInvariant

/-- **The ledger moves without a charge.** -/
theorem ledger (hInv : db.ChargeInvariant) (hMessages : db'.messages = db.messages)
    (hLedger : db.LedgerAdvances db'.toCreditTables)
    (hCharge : NoCharge db.toCreditTables db'.toCreditTables) : db'.ChargeInvariant := by
  -- A settled entry keeps its status, so what was charged or given back stays so.
  have hKeep : ∀ e ∈ db.ledger, ∀ status, status ≠ .reserved → e.status = status →
      ∃ e' ∈ db'.ledger, e'.id = e.id ∧ e'.status = status := by
    intro e he status hne hStatus
    obtain ⟨e', he', hOrigin, hAdvances⟩ := hLedger e he
    exact ⟨e', he', hOrigin.1, (hAdvances.resolve_left (hStatus ▸ hne)).trans hStatus⟩
  constructor <;> rw [hMessages]
  case attached =>
    intro m hm hRole x hx
    obtain ⟨e, he, hId, hBusiness, hDigest⟩ := hInv.attached m hm hRole x hx
    obtain ⟨e', he', hOrigin, -⟩ := hLedger e he
    exact ⟨e', he', hOrigin.1.trans hId, hOrigin.2.1.trans hBusiness,
      by rw [hDigest, hOrigin.2.2.2.2.1]⟩
  case charged =>
    intro m hm hRole hStatus
    obtain ⟨e, he, hCredit, hConsumed⟩ := hInv.charged m hm hRole hStatus
    obtain ⟨e', he', hId, hConsumed'⟩ := hKeep e he .consumed (by simp) hConsumed
    exact ⟨e', he', hId ▸ hCredit, hConsumed'⟩
  case consumed =>
    intro e' he' hStatus
    obtain ⟨e, he, hId, hConsumed⟩ := hCharge e' he' hStatus
    exact hId ▸ hInv.consumed e he hConsumed
  case answered => exact hInv.answered
  case replies => exact hInv.replies
  case failed =>
    intro m hm hRole hStatus x hx
    obtain ⟨e, he, hId, hReleased⟩ := hInv.failed m hm hRole hStatus x hx
    obtain ⟨e', he', hId', hReleased'⟩ := hKeep e he .released (by simp) hReleased
    exact ⟨e', he', hId'.trans hId, hReleased'⟩

/-- **A pending message comes in**, with nothing attached to it. -/
theorem insert (hInv : db.ChargeInvariant) {m : AIMessage}
    (h : db.messages.insert? m = some db'.messages) (hLedger : db'.ledger = db.ledger)
    (hRole : m.role = .user) (hStatus : m.status = .pending)
    (hCredit : m.creditLedgerEntryId = none) : db'.ChargeInvariant := by
  have hMem := fun x => Table.mem_insert? (x := x) h
  -- The new message is pending and has no entry, so it meets each clause vacuously.
  have hNew : ∀ x ∈ db'.messages, x = m ∨ x ∈ db.messages := fun x hx => (hMem x).mp hx
  constructor
  case attached =>
    rw [hLedger]
    intro x hx hRole' y hy
    rcases hNew x hx with rfl | hx
    · simp [hCredit] at hy
    · exact hInv.attached x hx hRole' y hy
  case charged =>
    rw [hLedger]
    intro x hx hRole' hStatus'
    rcases hNew x hx with rfl | hx
    · simp [hStatus] at hStatus'
    · exact hInv.charged x hx hRole' hStatus'
  case consumed =>
    rw [hLedger]
    intro e he hConsumed
    obtain ⟨x, hx, hx'⟩ := hInv.consumed e he hConsumed
    exact ⟨x, (hMem x).mpr (.inr hx), hx'⟩
  case answered =>
    intro x hx hRole' hStatus'
    rcases hNew x hx with rfl | hx
    · simp [hStatus] at hStatus'
    · obtain ⟨r, hr, hr'⟩ := hInv.answered x hx hRole' hStatus'
      exact ⟨r, (hMem r).mpr (.inr hr), hr'⟩
  case replies =>
    intro r hr hRole'
    rcases hNew r hr with rfl | hr
    · simp [hRole] at hRole'
    · obtain ⟨x, hx, hx'⟩ := hInv.replies r hr hRole'
      exact ⟨x, (hMem x).mpr (.inr hx), hx'⟩
  case failed =>
    rw [hLedger]
    intro x hx hRole' hStatus' y hy
    rcases hNew x hx with rfl | hx
    · simp [hStatus] at hStatus'
    · exact hInv.failed x hx hRole' hStatus' y hy

/-- **An uncompleted message is rewritten**; what it has attached is an uncharged entry of
its key, given back if the message failed. -/
theorem update (hInv : db.ChargeInvariant) {row row' : AIMessage}
    (h : db.messages.update? row' = some db'.messages) (hLedger : db'.ledger = db.ledger)
    (hRow : row ∈ db.messages) (hSame : row.SameMessage row') (hRole : row.role = .user)
    (hStatus : row.status ≠ .completed) (hStatus' : row'.status ≠ .completed)
    (hCredit : ∀ x, row'.creditLedgerEntryId = some x →
      ∃ e ∈ db.ledger, e.id = x ∧ e.businessId = row.businessId ∧
        row.idempotencyKeyDigest = some e.idempotencyKeyDigest ∧
        (row'.status = .failed → e.status = .released)) : db'.ChargeInvariant := by
  have hMem := fun x => Table.mem_update?_iff (x := x) h hRow hSame.id
  -- another row that is completed or an answer is not the rewritten one
  have hKeep : ∀ x ∈ db.messages, x.role = .assistant ∨ x.status = .completed →
      x ∈ db'.messages := by
    intro x hx hOther
    refine (hMem x).mpr (.inr ⟨hx, fun hId => ?_⟩)
    obtain rfl := Table.eq_of_key_eq hx hRow hId
    rcases hOther with hOther | hOther
    · simp [hRole] at hOther
    · exact hStatus hOther
  constructor
  case attached =>
    rw [hLedger]
    intro x hx hRole' y hy
    rcases (hMem x).mp hx with rfl | ⟨hx, -⟩
    · obtain ⟨e, he, hId, hBusiness, hDigest, -⟩ := hCredit y hy
      exact ⟨e, he, hId, hBusiness.trans hSame.business.symm, hSame.digest.trans hDigest⟩
    · exact hInv.attached x hx hRole' y hy
  case charged =>
    rw [hLedger]
    intro x hx hRole' hCompleted
    rcases (hMem x).mp hx with rfl | ⟨hx, -⟩
    · exact absurd hCompleted hStatus'
    · exact hInv.charged x hx hRole' hCompleted
  case consumed =>
    rw [hLedger]
    intro e he hConsumed
    obtain ⟨x, hx, hRole', hCompleted, hCredit'⟩ := hInv.consumed e he hConsumed
    exact ⟨x, hKeep x hx (.inr hCompleted), hRole', hCompleted, hCredit'⟩
  case answered =>
    intro x hx hRole' hCompleted
    rcases (hMem x).mp hx with rfl | ⟨hx, -⟩
    · exact absurd hCompleted hStatus'
    · obtain ⟨r, hr, hAssistant, hr'⟩ := hInv.answered x hx hRole' hCompleted
      exact ⟨r, hKeep r hr (.inl hAssistant), hAssistant, hr'⟩
  case replies =>
    intro r hr hAssistant
    rcases (hMem r).mp hr with rfl | ⟨hr, -⟩
    · simp [hSame.role, hRole] at hAssistant
    · obtain ⟨x, hx, hRole', hCompleted, hx'⟩ := hInv.replies r hr hAssistant
      exact ⟨x, hKeep x hx (.inr hCompleted), hRole', hCompleted, hx'⟩
  case failed =>
    rw [hLedger]
    intro x hx hRole' hFailed y hy
    rcases (hMem x).mp hx with rfl | ⟨hx, -⟩
    · obtain ⟨e, he, hId, -, -, hReleased⟩ := hCredit y hy
      exact ⟨e, he, hId, hReleased hFailed⟩
    · exact hInv.failed x hx hRole' hFailed y hy

/-- **A message is charged, completed and answered** in one transaction. -/
theorem complete (hInv : db.ChargeInvariant) {row row' r : AIMessage} {updated : Table AIMessage}
    {entry entry' : AICreditLedgerEntry}
    (hUpdate : db.messages.update? row' = some updated)
    (hInsert : updated.insert? r = some db'.messages)
    (hLedger : db.ledger.update? entry' = some db'.ledger)
    (hRow : row ∈ db.messages) (hSame : row.SameMessage row') (hRole : row.role = .user)
    (hStatus : row.status ≠ .completed) (hStatus' : row'.status = .completed)
    (hEntry : entry ∈ db.ledger) (hOrigin : entry.SameOrigin entry')
    (hReserved : entry.status = .reserved) (hConsumed : entry'.status = .consumed)
    (hCredit : row.creditLedgerEntryId = some entry.id)
    (hCredit' : row'.creditLedgerEntryId = some entry.id)
    (hReply : r.role = .assistant ∧ r.businessId = row.businessId ∧
      r.conversationId = row.conversationId ∧ r.replyToMessageId = some row.id) :
    db'.ChargeInvariant := by
  have hMem : ∀ x, x ∈ db'.messages ↔
      x = r ∨ x = row' ∨ (x ∈ db.messages ∧ x.id ≠ row.id) := fun x => by
    rw [Table.mem_insert? hInsert, Table.mem_update?_iff hUpdate hRow hSame.id]
    rfl
  have hLedgerMem := fun e => Table.mem_update?_iff (x := e) hLedger hEntry hOrigin.1
  -- another row that is completed or an answer is not the rewritten one
  have hKeep : ∀ x ∈ db.messages, x.role = .assistant ∨ x.status = .completed →
      x ∈ db'.messages := by
    intro x hx hOther
    refine (hMem x).mpr (.inr (.inr ⟨hx, fun hId => ?_⟩))
    obtain rfl := Table.eq_of_key_eq hx hRow hId
    rcases hOther with hOther | hOther
    · simp [hRole] at hOther
    · exact hStatus hOther
  -- a settled entry is not the charged one
  have hSettled : ∀ e ∈ db.ledger, e.status ≠ .reserved → e ∈ db'.ledger := by
    intro e he hne
    refine (hLedgerMem e).mpr (.inr ⟨he, fun hId => ?_⟩)
    obtain rfl := Table.eq_of_key_eq he hEntry hId
    exact hne hReserved
  have hUser : ∀ x ∈ db'.messages, x.role = .user →
      x = row' ∨ (x ∈ db.messages ∧ x.id ≠ row.id) := by
    intro x hx hRole'
    rcases (hMem x).mp hx with rfl | hx
    · simp [hReply.1] at hRole'
    · exact hx
  constructor
  case attached =>
    intro x hx hRole' y hy
    have hOld : ∃ e ∈ db.ledger, e.id = y ∧ e.businessId = x.businessId ∧
        x.idempotencyKeyDigest = some e.idempotencyKeyDigest := by
      rcases hUser x hx hRole' with rfl | ⟨hx, -⟩
      · rw [hSame.business, hSame.digest]
        exact hInv.attached row hRow hRole y (by rw [hCredit, ← hCredit', hy])
      · exact hInv.attached x hx hRole' y hy
    obtain ⟨e, he, hId, hBusiness, hDigest⟩ := hOld
    by_cases hSameEntry : e.id = entry.id
    · obtain rfl := Table.eq_of_key_eq he hEntry hSameEntry
      exact ⟨entry', (hLedgerMem entry').mpr (.inl rfl), hOrigin.1.trans hId,
        hOrigin.2.1.trans hBusiness, by rw [hDigest, hOrigin.2.2.2.2.1]⟩
    · exact ⟨e, (hLedgerMem e).mpr (.inr ⟨he, hSameEntry⟩), hId, hBusiness, hDigest⟩
  case charged =>
    intro x hx hRole' hCompleted
    rcases hUser x hx hRole' with rfl | ⟨hx, -⟩
    · exact ⟨entry', (hLedgerMem entry').mpr (.inl rfl), by rw [hCredit', hOrigin.1], hConsumed⟩
    · obtain ⟨e, he, hCredit'', hConsumed'⟩ := hInv.charged x hx hRole' hCompleted
      exact ⟨e, hSettled e he (by simp [hConsumed']), hCredit'', hConsumed'⟩
  case consumed =>
    intro e he hConsumed'
    rcases (hLedgerMem e).mp he with rfl | ⟨he, -⟩
    · exact ⟨row', (hMem row').mpr (.inr (.inl rfl)), hSame.role.trans hRole, hStatus',
        by rw [hCredit', hOrigin.1]⟩
    · obtain ⟨x, hx, hRole', hCompleted, hCredit''⟩ := hInv.consumed e he hConsumed'
      exact ⟨x, hKeep x hx (.inr hCompleted), hRole', hCompleted, hCredit''⟩
  case answered =>
    intro x hx hRole' hCompleted
    rcases hUser x hx hRole' with rfl | ⟨hx, -⟩
    · exact ⟨r, (hMem r).mpr (.inl rfl), hReply.1, hReply.2.1.trans hSame.business.symm,
        hReply.2.2.1.trans hSame.conversation.symm, hSame.id.symm ▸ hReply.2.2.2⟩
    · obtain ⟨r', hr', hAssistant, hr''⟩ := hInv.answered x hx hRole' hCompleted
      exact ⟨r', hKeep r' hr' (.inl hAssistant), hAssistant, hr''⟩
  case replies =>
    intro r' hr' hAssistant
    rcases (hMem r').mp hr' with rfl | rfl | ⟨hr', -⟩
    · exact ⟨row', (hMem row').mpr (.inr (.inl rfl)), hSame.role.trans hRole, hStatus',
        hReply.2.1.trans hSame.business.symm, hReply.2.2.1.trans hSame.conversation.symm,
        hSame.id.symm ▸ hReply.2.2.2⟩
    · simp [hSame.role, hRole] at hAssistant
    · obtain ⟨x, hx, hRole', hCompleted, hx'⟩ := hInv.replies r' hr' hAssistant
      exact ⟨x, hKeep x hx (.inr hCompleted), hRole', hCompleted, hx'⟩
  case failed =>
    intro x hx hRole' hFailed y hy
    rcases hUser x hx hRole' with rfl | ⟨hx, -⟩
    · simp [hStatus'] at hFailed
    · obtain ⟨e, he, hId, hReleased⟩ := hInv.failed x hx hRole' hFailed y hy
      exact ⟨e, hSettled e he (by simp [hReleased]), hId, hReleased⟩

end ChargeInvariant

end AiDatabase

end SpikeBackend
