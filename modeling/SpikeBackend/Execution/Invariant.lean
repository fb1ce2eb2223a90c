import SpikeBackend.Model.AiExecutionRuns
import SpikeBackend.Execution.Messages

/-!
# The invariant of running executions

What holds of a database and of every execution over it, whatever the order of their
steps: the instance a session holds is an earlier row of its message (`Evolves`), and a
reservation is that of an entry of the request's key.

* `Execution.Invariant.mono` — the steps of the others keep it;
* `reserveStep_sound`, `claimStep_sound`, … — a step of its own keeps it, and the charge
  invariant with it.
-/

namespace SpikeBackend

open Relational Text Outcome Session

/-- Neither token nor lease without a credit attached. -/
def AIMessage.CreditFirst (m : AIMessage) : Prop :=
  m.processingToken.isSome ∨ m.processingLeaseExpiresAt.isSome → m.creditLedgerEntryId.isSome

/-- The reservation an execution holds, once it has one. -/
def ExecutionPhase.reservation? : ExecutionPhase → Option AICreditLedgerSnapshot
  | .reserved r | .unclaimed r | .claimed r .. | .generated r .. | .failing r .. => some r
  | .submitted | .denied _ | .released | .ended _ => none

def ExecutionPhase.hasEnded : ExecutionPhase → Bool
  | .ended _ => true
  | _ => false

/-- The phases an execution enters by a rollback of its session. -/
def ExecutionPhase.rolledBack : ExecutionPhase → Bool
  | .denied _ | .unclaimed _ | .released => true
  | _ => false

namespace Execution

/-- The row is the user message of the request. -/
def Owns (config : ExecutionConfig) (e : Execution) (row : AIMessage) : Prop :=
  row.id = e.messageId ∧ row.businessId = e.request.businessId ∧ row.role = .user ∧
    ∃ digest, digestAiIdempotencyKey config.sha256 e.request.idempotencyKey = .ok digest ∧
      row.idempotencyKeyDigest = some digest

/-- **The invariant of one execution.** -/
structure Invariant (config : ExecutionConfig) (db : AiDatabase) (claims : List (Uuid × Uuid))
    (e : Execution) : Prop where
  /-- a running execution has its message -/
  message : e.phase.hasEnded = false → ∃ row ∈ db.messages, e.Owns config row
  /-- the session's instance is an earlier row of the message -/
  copy : ∀ c, e.loaded = some c → c.id = e.messageId ∧ ∃ row ∈ db.messages, c.Evolves row
  /-- a token in the instance was drawn by a claim of the message -/
  token : ∀ c, e.loaded = some c → ∀ t, c.processingToken = some t → (c.id, t) ∈ claims
  /-- a token or a lease in the instance comes with a credit -/
  credit : ∀ c, e.loaded = some c → c.CreditFirst
  /-- the reservation is that of the entry of the key -/
  reservation : ∀ r, e.phase.reservation? = some r →
    ∃ entry ∈ db.ledger, entry.id = r.entryId ∧ entry.businessId = e.request.businessId ∧
      digestAiIdempotencyKey config.sha256 e.request.idempotencyKey =
        .ok entry.idempotencyKeyDigest
  /-- after a rollback the session holds no instance -/
  rolledBack : e.phase.rolledBack = true → e.loaded = none

/-- The token of the last claim of a message. -/
def newestClaim (claims : List (Uuid × Uuid)) (messageId : Uuid) : Option Uuid :=
  (claims.find? fun claim => claim.1 == messageId).map (·.2)

/-- The newest claim of a message is one of the claims. -/
theorem mem_of_newestClaim {claims : List (Uuid × Uuid)} {messageId t : Uuid}
    (h : newestClaim claims messageId = some t) : (messageId, t) ∈ claims := by
  rw [newestClaim, Option.map_eq_some_iff] at h
  obtain ⟨claim, hFind, rfl⟩ := h
  have hId : claim.1 = messageId := by simpa using List.find?_some hFind
  exact hId ▸ List.mem_of_find?_eq_some hFind

/-- A claim is the newest of its message and leaves the others alone. -/
theorem newestClaim_cons (claims : List (Uuid × Uuid)) (messageId t m : Uuid) :
    newestClaim ((messageId, t) :: claims) m =
      if messageId = m then some t else newestClaim claims m := by
  unfold newestClaim
  rw [List.find?_cons]
  by_cases h : messageId = m
  · simp [h]
  · simp [h, beq_eq_false_iff_ne.mpr h]

/-- Every token in a message is that of its last claim. -/
def TokensKnown (db : AiDatabase) (claims : List (Uuid × Uuid)) : Prop :=
  ∀ m ∈ db.messages, ∀ t, m.processingToken = some t → newestClaim claims m.id = some t

/-- What a step of an execution keeps. -/
structure Sound (config : ExecutionConfig) (db : AiDatabase) (claims : List (Uuid × Uuid))
    (db' : AiDatabase) (claims' : List (Uuid × Uuid)) (e' : Execution) : Prop where
  move : db.toCreditTables.Move db'.toCreditTables
  messages : db.MessagesAdvance db'
  claims : claims ⊆ claims'
  charge : db'.ChargeInvariant
  tokens : TokensKnown db' claims'
  execution : e'.Invariant config db' claims'

variable {config : ExecutionConfig} {db db' : AiDatabase} {claims claims' : List (Uuid × Uuid)}
  {e : Execution}

/-- An execution goes on owning its message. -/
theorem Owns.mono {row row' : AIMessage} (h : e.Owns config row) (hSame : row.SameMessage row') :
    e.Owns config row' := by
  obtain ⟨hId, hBusiness, hRole, digest, hDigest, hRow⟩ := h
  exact ⟨hSame.id.trans hId, hSame.business.trans hBusiness, hSame.role.trans hRole, digest,
    hDigest, hSame.digest.trans hRow⟩

/-- **The steps of the others** keep an execution's invariant. -/
theorem Invariant.mono (h : e.Invariant config db claims)
    (hLedger : db.LedgerAdvances db'.toCreditTables) (hMessages : db.MessagesAdvance db')
    (hClaims : claims ⊆ claims') : e.Invariant config db' claims' where
  message hRunning := by
    obtain ⟨row, hRow, hOwns⟩ := h.message hRunning
    -- Rows only advance, so what was known of one is known of its successor.
    obtain ⟨row', hRow', hEvolves⟩ := hMessages row hRow
    exact ⟨row', hRow', hOwns.mono hEvolves.same⟩
  copy c hc := by
    obtain ⟨hId, row, hRow, hEvolves⟩ := h.copy c hc
    obtain ⟨row', hRow', hEvolves'⟩ := hMessages row hRow
    exact ⟨hId, row', hRow', hEvolves.trans hEvolves'⟩
  token c hc t ht := hClaims (h.token c hc t ht)
  credit := h.credit
  reservation r hr := by
    obtain ⟨entry, hEntry, hId, hBusiness, hDigest⟩ := h.reservation r hr
    obtain ⟨entry', hEntry', hOrigin, -⟩ := hLedger entry hEntry
    exact ⟨entry', hEntry', hOrigin.1.trans hId, hOrigin.2.1.trans hBusiness,
      by rw [hDigest, hOrigin.2.2.2.2.1]⟩
  rolledBack := h.rolledBack

-- ---------------------------------------------------------------------------
-- The message and the instance
-- ---------------------------------------------------------------------------

/-- The row a transaction locks is the message of the request. -/
theorem Invariant.owns (h : e.Invariant config db claims) (hRunning : e.phase.hasEnded = false)
    {row : AIMessage} (hRow : db.messageById e.request.businessId e.messageId = some row) :
    row ∈ db.messages ∧ e.Owns config row := by
  obtain ⟨row', hRow', hOwns⟩ := h.message hRunning
  obtain ⟨hMem, -, hId⟩ := AiDatabase.messageById_eq_some hRow
  obtain rfl := Table.eq_of_key_eq hMem hRow' (hId.trans hOwns.1.symm)
  exact ⟨hMem, hOwns⟩

/-- A copy that is held was loaded. -/
theorem loaded_of_held {c : AIMessage} (h : e.held config = some c) : e.loaded = some c := by
  unfold held at h
  split at h
  · simp at h
  · exact h

/-- A locked read answers with an earlier row of the locked one. -/
theorem Invariant.evolves (h : e.Invariant config db claims) {row : AIMessage}
    (hRow : db.messageById e.request.businessId e.messageId = some row) :
    (locked (e.held config) row).Evolves row := by
  cases hc : e.held config with
  | none => exact .refl row
  | some c =>
    obtain ⟨hId, row', hRow', hEvolves⟩ := h.copy c (loaded_of_held hc)
    obtain ⟨hMem, -, hId'⟩ := AiDatabase.messageById_eq_some hRow
    obtain rfl := Table.eq_of_key_eq hMem hRow' (hId'.trans (hId.symm.trans hEvolves.same.id.symm))
    exact hEvolves

/-- What the checks say of a user message that is pending. -/
theorem pending_of_checks {m : AIMessage} (hChecks : Schema.checks m = true)
    (hRole : m.role = .user) (hStatus : m.status = .pending) :
    m.completedAt = none ∧ m.errorCode = none ∧
      ((m.creditLedgerEntryId = none ∧ m.processingToken = none ∧
          m.processingLeaseExpiresAt = none) ∨
        (m.creditLedgerEntryId.isSome ∧ m.processingToken.isSome ∧
          m.processingLeaseExpiresAt.isSome)) := by
  simp only [Schema.checks, Bool.and_eq_true, hRole, reduceCtorEq, decide_false, Bool.false_or]
    at hChecks
  have hFields := hChecks.1.1.2
  simpa [AIMessage.userStatusFields, hStatus, and_assoc] using hFields

/-- What the checks say of a user message that is not pending. -/
theorem settled_of_checks {m : AIMessage} (hChecks : Schema.checks m = true)
    (hRole : m.role = .user) (hStatus : m.status ≠ .pending) :
    m.processingToken = none ∧ m.processingLeaseExpiresAt = none := by
  simp only [Schema.checks, Bool.and_eq_true, hRole, reduceCtorEq, decide_false, Bool.false_or]
    at hChecks
  have hFields := hChecks.1.1.2
  -- The check constraint clears the claim with the status.
  unfold AIMessage.userStatusFields at hFields
  cases h : m.status with
  | pending => exact absurd h hStatus
  | completed =>
    simp only [h, Bool.and_eq_true, Option.isNone_iff_eq_none] at hFields
    exact ⟨hFields.1.2, hFields.2⟩
  | failed =>
    simp only [h, Bool.and_eq_true, Option.isNone_iff_eq_none] at hFields
    exact ⟨hFields.1.1.2, hFields.1.2⟩

theorem pending_of_token {m : AIMessage} (hChecks : Schema.checks m = true)
    (hRole : m.role = .user) {t : Uuid} (ht : m.processingToken = some t) : m.status = .pending := by
  by_contra hStatus
  simp [(settled_of_checks hChecks hRole hStatus).1] at ht

/-- A user message that meets its constraints takes its entry before it is claimed. -/
theorem creditFirst_of_checks {m : AIMessage} (hChecks : Schema.checks m = true)
    (hRole : m.role = .user) : m.CreditFirst := by
  intro h
  by_cases hStatus : m.status = .pending
  · rcases (pending_of_checks hChecks hRole hStatus).2.2 with ⟨-, hToken, hLease⟩ | ⟨hCredit, -⟩
    · simp [hToken, hLease] at h
    · exact hCredit
  · obtain ⟨hToken, hLease⟩ := settled_of_checks hChecks hRole hStatus
    simp [hToken, hLease] at h

/-- A token in the locked instance was drawn by a claim of the message. -/
theorem Invariant.lockedToken (h : e.Invariant config db claims) (hTokens : TokensKnown db claims)
    {row : AIMessage} (hMem : row ∈ db.messages) (hOwns : e.Owns config row) {t : Uuid}
    (ht : (locked (e.held config) row).processingToken = some t) : (e.messageId, t) ∈ claims := by
  cases hc : e.held config with
  | none =>
    rw [hc] at ht
    exact mem_of_newestClaim (hOwns.1 ▸ hTokens row hMem t ht)
  | some c =>
    rw [hc] at ht
    have hLoaded := loaded_of_held hc
    exact (h.copy c hLoaded).1 ▸ h.token c hLoaded t ht

/-- A token or a lease in the locked instance comes with a credit. -/
theorem Invariant.lockedCredit (h : e.Invariant config db claims) {row : AIMessage}
    (hMem : row ∈ db.messages) (hOwns : e.Owns config row) :
    (locked (e.held config) row).CreditFirst := by
  cases hc : e.held config with
  | none => exact creditFirst_of_checks (Table.checks_of_mem hMem) hOwns.2.2.1
  | some c => exact h.credit c (loaded_of_held hc)

/-- An execution that ended still holds an earlier row of its message. -/
theorem Invariant.of_ended {message row : AIMessage}
    {outcome : Except AIExecutionError AIExecutionResult} (hRow : row ∈ db.messages)
    (hOwns : e.Owns config row) (hEvolves : message.Evolves row)
    (hToken : ∀ t, message.processingToken = some t → (e.messageId, t) ∈ claims)
    (hCredit : message.CreditFirst) :
    Invariant config db claims { e with loaded := some message, phase := .ended outcome } where
  message := by simp [ExecutionPhase.hasEnded]
  copy := by
    intro c hc
    -- The only copy left is the message itself.
    obtain rfl := Option.some.inj hc
    exact ⟨hEvolves.same.id.symm.trans hOwns.1, row, hRow, hEvolves⟩
  token := by
    intro c hc t ht
    obtain rfl := Option.some.inj hc
    exact (hEvolves.same.id.symm.trans hOwns.1) ▸ hToken t ht
  credit := by
    intro c hc
    obtain rfl := Option.some.inj hc
    exact hCredit
  reservation := by simp [ExecutionPhase.reservation?]
  rolledBack := by simp [ExecutionPhase.rolledBack]

/-- What is attached to the message is the entry that was reserved for its key. -/
theorem Invariant.credit_unique (h : e.Invariant config db claims) (hCharge : db.ChargeInvariant)
    {row : AIMessage} (hMem : row ∈ db.messages) (hOwns : e.Owns config row)
    {r : AICreditLedgerSnapshot} (hr : e.phase.reservation? = some r) {x : Uuid}
    (hx : row.creditLedgerEntryId = some x) : x = r.entryId := by
  obtain ⟨hId, hBusiness, hRole, digest, hDigest, hRow⟩ := hOwns
  obtain ⟨entry, hEntry, hEntryId, hEntryBusiness, hEntryDigest⟩ := h.reservation r hr
  obtain ⟨attached, hAttached, hAttachedId, hAttachedBusiness, hAttachedDigest⟩ :=
    hCharge.attached row hMem hRole x hx
  -- Both entries are the one of the business and of the key's digest.
  have hSame : attached = entry := by
    refine AiDatabase.entry_eq_of_digest hAttached hEntry ?_ ?_
    · rw [hAttachedBusiness, hEntryBusiness, hBusiness]
    · rw [hRow, Option.some.injEq] at hAttachedDigest
      rw [hDigest, Except.ok.injEq] at hEntryDigest
      rw [← hAttachedDigest, hEntryDigest]
  rw [← hAttachedId, hSame, hEntryId]

/-- After one message was rewritten, the others are as they were. -/
theorem messagesAdvance_update {row row' : AIMessage}
    (h : db.messages.update? row' = some db'.messages) (hRow : row ∈ db.messages)
    (hEvolves : row.Evolves row') : db.MessagesAdvance db' := by
  intro m hm
  have hMem := fun x => Table.mem_update?_iff (x := x) h hRow hEvolves.same.id
  by_cases hId : m.id = row.id
  · obtain rfl := Table.eq_of_key_eq hm hRow hId
    exact ⟨row', (hMem row').mpr (.inl rfl), hEvolves⟩
  · exact ⟨m, (hMem m).mpr (.inr ⟨hm, hId⟩), .refl m⟩

/-- An update whose token is the newest claim keeps every token known. -/
theorem tokensKnown_update {row row' : AIMessage} (hTokens : TokensKnown db claims)
    (hClaims : ∀ m, m ≠ row.id → newestClaim claims' m = newestClaim claims m)
    (h : db.messages.update? row' = some db'.messages)
    (hRow : row ∈ db.messages) (hId : row'.id = row.id)
    (hToken : ∀ t, row'.processingToken = some t → newestClaim claims' row'.id = some t) :
    TokensKnown db' claims' := by
  intro m hm t ht
  rcases (Table.mem_update?_iff h hRow hId).mp hm with rfl | ⟨hm, hne⟩
  · exact hToken t ht
  · rw [hClaims m.id hne]
    exact hTokens m hm t ht

theorem TokensKnown.of_eq (hTokens : TokensKnown db claims) (h : db'.messages = db.messages) :
    TokensKnown db' claims := fun m hm => hTokens m (h ▸ hm)

-- ---------------------------------------------------------------------------
-- Steps that leave the messages alone
-- ---------------------------------------------------------------------------

/-- A change of phase alone. -/
theorem Sound.of_phase (hInv : e.Invariant config db claims) (hCharge : db.ChargeInvariant)
    (hTokens : TokensKnown db claims) {loaded : Option AIMessage} {phase : ExecutionPhase}
    (hLoaded : loaded = e.loaded ∨ loaded = none)
    (hRunning : phase.hasEnded = false → e.phase.hasEnded = false)
    (hReservation : ∀ r, phase.reservation? = some r → e.phase.reservation? = some r)
    (hRolledBack : phase.rolledBack = true → loaded = none) :
    Sound config db claims db claims { e with loaded, phase } where
  move := .refl _
  messages := .of_eq rfl
  claims := fun _ h => h
  charge := hCharge
  tokens := hTokens
  -- Nothing is written, so only what the new phase claims has to be shown.
  execution :=
    { message := fun h => hInv.message (hRunning h)
      copy := fun c hc => by
        rcases hLoaded with rfl | rfl
        · exact hInv.copy c hc
        · simp at hc
      token := fun c hc => by
        rcases hLoaded with rfl | rfl
        · exact hInv.token c hc
        · simp at hc
      credit := fun c hc => by
        rcases hLoaded with rfl | rfl
        · exact hInv.credit c hc
        · simp at hc
      reservation := fun r hr => hInv.reservation r (hReservation r hr)
      rolledBack := hRolledBack }

/-- A move of the ledger that charges nothing. -/
theorem Sound.of_ledger (hInv : e.Invariant config db claims) (hCharge : db.ChargeInvariant)
    (hTokens : TokensKnown db claims) {tables : CreditTables} {phase : ExecutionPhase}
    (hMove : db.toCreditTables.Move tables)
    (hNoCharge : AiDatabase.NoCharge db.toCreditTables tables)
    (hRunning : e.phase.hasEnded = false)
    (hRolledBack : phase.rolledBack = true → e.loaded = none)
    (hReservation : ∀ r, phase.reservation? = some r →
      ∃ entry ∈ tables.ledger, entry.id = r.entryId ∧
        entry.businessId = e.request.businessId ∧
        digestAiIdempotencyKey config.sha256 e.request.idempotencyKey =
          .ok entry.idempotencyKeyDigest) :
    Sound config db claims { db with toCreditTables := tables } claims { e with phase } where
  move := hMove
  messages := .of_eq rfl
  claims := fun _ h => h
  -- A move that charges nothing leaves every charge answered.
  charge := hCharge.ledger rfl hMove.advances hNoCharge
  tokens := hTokens
  execution :=
    { message := fun _ => hInv.message hRunning
      copy := hInv.copy
      token := hInv.token
      credit := hInv.credit
      reservation := hReservation
      rolledBack := hRolledBack }

/-- The entry a reservation answers with is that of the key. -/
theorem reserve_entry {tables : CreditTables} {reservation : AICreditLedgerSnapshot}
    {scope : Uuid} {key : Str} {reservedAt : Datetime} {accountId entryId : Uuid}
    (h : db.reserve scope config.sha256 key reservedAt accountId entryId =
      .ok (tables, reservation)) :
    AiDatabase.NoCharge db.toCreditTables tables ∧
      ∃ entry ∈ tables.ledger, entry.id = reservation.entryId ∧ entry.businessId = scope ∧
        entry.status = reservation.status ∧
        digestAiIdempotencyKey config.sha256 key = .ok entry.idempotencyKeyDigest := by
  obtain ⟨digest, hDigest, ⟨rfl, hExisting⟩ | ⟨-, hNew⟩⟩ := CreditTables.reserve_eq_ok h
  · obtain ⟨entry, account, hEntry, -, rfl⟩ := CreditTables.existingSnapshot_eq_some hExisting
    -- A replay returns the entry of the key, whatever its status.
    obtain ⟨hMem, hScope, hKey⟩ := CreditTables.entryByDigest_eq_some hEntry
    exact ⟨.of_eq rfl, entry, hMem, rfl, hScope, rfl, by rw [hDigest, hKey]⟩
  · obtain ⟨subscription, startedAt, endsAt, entitlement, accounts, account, limit, -, -, -, -, -,
      -, -, -, -, -, hLedger, -, rfl⟩ := hNew
    exact ⟨.of_insert hLedger (by simp [CreditTables.reservedEntry]), _,
      (Table.mem_insert? hLedger).mpr (.inl rfl), rfl, rfl, rfl, hDigest⟩

/-- The reservation step is sound. -/
theorem reserveStep_sound (hInv : e.Invariant config db claims) (hCharge : db.ChargeInvariant)
    (hTokens : TokensKnown db claims) (hPhase : e.phase = .submitted) (accountId entryId : Uuid) :
    Sound config db claims (e.reserveStep config db accountId entryId).1 claims
      (e.reserveStep config db accountId entryId).2 := by
  unfold reserveStep
  split
  · next tables reservation h =>
    obtain ⟨hNoCharge, entry, hMem, hId, hScope, -, hDigest⟩ := reserve_entry h
    refine .of_ledger hInv hCharge hTokens (CreditTables.reserve_move h) hNoCharge
      (by rw [hPhase]; rfl) (by simp [ExecutionPhase.rolledBack]) ?_
    intro r hr
    simp only [ExecutionPhase.reservation?, Option.some.injEq] at hr
    exact ⟨entry, hMem, hr ▸ hId, hScope, hDigest⟩
  · -- A refusal ends the execution or marks the message failed, with no reservation left.
    split
    · exact .of_phase hInv hCharge hTokens (.inr rfl) (by simp [hPhase, ExecutionPhase.hasEnded])
        (by simp [ExecutionPhase.reservation?]) (fun _ => rfl)
    · exact .of_phase hInv hCharge hTokens (.inr rfl) (by simp [ExecutionPhase.hasEnded])
        (by simp [ExecutionPhase.reservation?]) (fun _ => rfl)

/-- The release step is sound. -/
theorem releaseStep_sound (hInv : e.Invariant config db claims) (hCharge : db.ChargeInvariant)
    (hTokens : TokensKnown db claims) {reservation : AICreditLedgerSnapshot}
    (hPhase : e.phase = .unclaimed reservation) (now : Datetime) :
    Sound config db claims (e.releaseStep db reservation now).1 claims
      (e.releaseStep db reservation now).2 := by
  unfold releaseStep
  split
  · next tables snapshot h =>
    refine .of_ledger hInv hCharge hTokens (CreditTables.release_move h) ?_
      (by rw [hPhase]; rfl) (fun _ => hInv.rolledBack (by rw [hPhase]; rfl))
      (by simp [ExecutionPhase.reservation?])
    obtain ⟨entry, account, -, -, ⟨-, rfl⟩ | ⟨-, reason', -, hLedger, -⟩⟩ :=
      CreditTables.release_eq_ok h
    · -- The entry was given back already.
      exact .of_eq rfl
    · exact .of_update hLedger (by simp [AICreditLedgerEntry.markReleased])
  · exact .of_phase hInv hCharge hTokens (.inr rfl) (by simp [ExecutionPhase.hasEnded])
      (by simp [ExecutionPhase.reservation?]) (fun _ => rfl)

/-- The call of the provider is sound, whatever it answers. -/
theorem provideStep_sound (hInv : e.Invariant config db claims) (hCharge : db.ChargeInvariant)
    (hTokens : TokensKnown db claims) {reservation : AICreditLedgerSnapshot} {token : Uuid}
    {conversation : AIConversation} {prompt : Str}
    (hPhase : e.phase = .claimed reservation token conversation prompt)
    (outcome : Except GeminiGatewayError GeminiGeneration) :
    Sound config db claims db claims
      (e.provideStep config reservation token conversation outcome) := by
  -- Every phase that may follow still holds the reservation.
  have hNext : ∀ phase : ExecutionPhase, phase.reservation? = some reservation →
      phase.rolledBack = false → Sound config db claims db claims { e with phase } := by
    intro phase hReservation hBack
    refine .of_phase hInv hCharge hTokens (.inl rfl) (fun _ => by rw [hPhase]; rfl) ?_
      (by simp [hBack])
    intro r hr
    rw [hPhase]
    exact hReservation.symm.trans hr ▸ rfl
  unfold provideStep
  split
  · exact hNext _ rfl rfl
  · split
    · exact hNext _ rfl rfl
    · split
      · exact hNext _ rfl rfl
      · exact hNext _ rfl rfl

end Execution

end SpikeBackend
