import SpikeBackend.Model.AiExecution

/-!
# What a transaction does to the credit ledger

Every transaction that touches accounts and ledger entries makes one of four moves:
none at all, one entry reserved on an open account, one reserved entry settled, or a
limit set. `CreditTables.Move` says so once; the lemmas below read the move off each
transaction of the services.

* `reserve_move`, `consume_move`, `release_move` — the credit service;
* `adjust_eq_ok` — the administration.

The transactions of an AI execution are in `Execution/Transactions.lean`.
-/

namespace SpikeBackend

open Relational Text Outcome Session

/-- The columns of an entry that no transaction rewrites. -/
def AICreditLedgerEntry.SameOrigin (e e' : AICreditLedgerEntry) : Prop :=
  e'.id = e.id ∧ e'.businessId = e.businessId ∧ e'.accountId = e.accountId ∧
    e'.subscriptionId = e.subscriptionId ∧ e'.idempotencyKeyDigest = e.idempotencyKeyDigest ∧
    e'.reservedAt = e.reservedAt

theorem AICreditLedgerEntry.sameOrigin_markConsumed (e : AICreditLedgerEntry)
    (consumedAt : Datetime) : e.SameOrigin (e.markConsumed consumedAt) :=
  ⟨rfl, rfl, rfl, rfl, rfl, rfl⟩

theorem AICreditLedgerEntry.sameOrigin_markReleased (e : AICreditLedgerEntry) (reason : Str)
    (releasedAt : Datetime) : e.SameOrigin (e.markReleased reason releasedAt) :=
  ⟨rfl, rfl, rfl, rfl, rfl, rfl⟩

namespace CreditTables

/-- `accounts` holds `account`: it did before, or it was opened without credits used. -/
def Opened (db : CreditTables) (accounts : Table AICreditAccount) (account : AICreditAccount) :
    Prop :=
  (accounts = db.accounts ∧ account ∈ db.accounts) ∨
    (db.accounts.insert? account = some accounts ∧ account.reservedCount = 0 ∧
      account.consumedCount = 0)

/-- What one transaction may do to the accounts and the ledger. -/
inductive Move (db db' : CreditTables) : Prop
  | idle (hAccounts : db'.accounts = db.accounts) (hLedger : db'.ledger = db.ledger)
  | reserve (accounts : Table AICreditAccount) (account : AICreditAccount) (limit : Option Int)
      (entry : AICreditLedgerEntry)
      (hOpen : db.Opened accounts account)
      (hAccounts : accounts.update?
        { account with limitValue := limit, reservedCount := account.reservedCount + 1 } =
          some db'.accounts)
      (hLedger : db.ledger.insert? entry = some db'.ledger)
      (hStatus : entry.status = .reserved)
      (hOwner : account.id = entry.accountId ∧ account.businessId = entry.businessId ∧
        account.subscriptionId = entry.subscriptionId)
  | settle (account : AICreditAccount) (entry entry' : AICreditLedgerEntry)
      (hAccount : account ∈ db.accounts) (hEntry : entry ∈ db.ledger)
      (hOwner : account.id = entry.accountId)
      (hReserved : entry.status = .reserved) (hSettled : entry'.status ≠ .reserved)
      (hOrigin : entry.SameOrigin entry')
      (hAccounts : db.accounts.update? (account.settle entry'.status) = some db'.accounts)
      (hLedger : db.ledger.update? entry' = some db'.ledger)
  | limit (accounts : Table AICreditAccount) (account : AICreditAccount) (limit : Option Int)
      (hOpen : db.Opened accounts account)
      (hAccounts : accounts.update? { account with limitValue := limit } = some db'.accounts)
      (hLedger : db'.ledger = db.ledger)

theorem Move.refl (db : CreditTables) : db.Move db := .idle rfl rfl

theorem Move.withSubscriptions (db : CreditTables) (tables : SubscriptionTables) :
    db.Move { db with toSubscriptionTables := tables } := .idle rfl rfl

-- ---------------------------------------------------------------------------
-- Lookups
-- ---------------------------------------------------------------------------

variable {db : CreditTables} {scope : Uuid}

/-- What is found under a digest is an entry of the business with it. -/
theorem entryByDigest_eq_some {digest : Str} {e : AICreditLedgerEntry}
    (h : db.entryByDigest scope digest = some e) :
    e ∈ db.ledger ∧ e.businessId = scope ∧ e.idempotencyKeyDigest = digest := by
  have hp := Table.prop_of_find? h
  rw [Bool.and_eq_true, beq_iff_eq, beq_iff_eq] at hp
  exact ⟨Table.mem_of_find? h, hp⟩

/-- What is found under an id is an entry of the business with it. -/
theorem entryById_eq_some {entryId : Uuid} {e : AICreditLedgerEntry}
    (h : db.entryById scope entryId = some e) :
    e ∈ db.ledger ∧ e.businessId = scope ∧ e.id = entryId := by
  have hp := Table.prop_of_find? h
  rw [Bool.and_eq_true, beq_iff_eq, beq_iff_eq] at hp
  exact ⟨Table.mem_of_find? h, hp⟩

/-- An entry is found by its id. -/
theorem entryById_of_mem {e : AICreditLedgerEntry} (he : e ∈ db.ledger)
    (hScope : e.businessId = scope) : db.entryById scope e.id = some e := by
  cases h : db.entryById scope e.id with
  | none =>
    have := Table.find?_eq_none.mp h e he
    simp [hScope] at this
  | some e' =>
    obtain ⟨he', -, hId⟩ := entryById_eq_some h
    rw [Table.eq_of_key_eq he' he hId]

/-- The account of an entry is of its period. -/
theorem accountForEntry_eq_some {e : AICreditLedgerEntry} {a : AICreditAccount}
    (h : db.accountForEntry scope e = some a) :
    a ∈ db.accounts ∧ a.businessId = scope ∧ a.id = e.accountId ∧
      a.subscriptionId = e.subscriptionId := by
  have hp := Table.prop_of_find? h
  simp only [Bool.and_eq_true, beq_iff_eq] at hp
  exact ⟨Table.mem_of_find? h, hp.1.1, hp.1.2, hp.2⟩

/-- The account of an entry is found. -/
theorem accountForEntry_of_mem {e : AICreditLedgerEntry} {a : AICreditAccount}
    (ha : a ∈ db.accounts) (hScope : a.businessId = scope) (hId : a.id = e.accountId)
    (hSub : a.subscriptionId = e.subscriptionId) : db.accountForEntry scope e = some a := by
  cases h : db.accountForEntry scope e with
  | none =>
    have := Table.find?_eq_none.mp h a ha
    simp [hScope, hId, hSub] at this
  | some a' =>
    obtain ⟨ha', -, hId', -⟩ := accountForEntry_eq_some h
    rw [Table.eq_of_key_eq ha' ha (hId'.trans hId.symm)]

/-- The account of a period is found or opened; everything else stays. -/
theorem accountForPeriod_opened {subscription : Subscription} {startedAt endsAt : Datetime}
    {limitValue : Option Int} {accountId : Uuid} {db₁ : CreditTables}
    {account : AICreditAccount}
    (h : db.accountForPeriod scope subscription startedAt endsAt limitValue accountId =
      some (db₁, account)) :
    db.Opened db₁.accounts account ∧ db₁ = { db with accounts := db₁.accounts } ∧
      account.periodKey = (scope, subscription.id, .aiFullResponses, startedAt, endsAt) := by
  unfold accountForPeriod at h
  split at h
  · next found hFound =>
    simp only [Option.some.injEq, Prod.mk.injEq] at h
    obtain ⟨rfl, rfl⟩ := h
    have hKey := Table.prop_of_find? hFound
    exact ⟨.inl ⟨rfl, Table.mem_of_find? hFound⟩, rfl, of_decide_eq_true hKey⟩
  · rw [Option.map_eq_some_iff] at h
    obtain ⟨accounts, hInsert, hEq⟩ := h
    simp only [Prod.mk.injEq] at hEq
    obtain ⟨rfl, rfl⟩ := hEq
    exact ⟨.inr ⟨hInsert, rfl, rfl⟩, rfl, rfl⟩

/-- A key that is known is answered with its entry, as a replay. -/
theorem existingSnapshot_eq_some {digest : Str} {snapshot : AICreditLedgerSnapshot}
    (h : db.existingSnapshot scope digest = .ok (some snapshot)) :
    ∃ entry account, db.entryByDigest scope digest = some entry ∧
      db.accountForEntry scope entry = some account ∧
      snapshot = snapshotOf entry account true := by
  unfold existingSnapshot at h
  cases hEntry : db.entryByDigest scope digest with
  | none =>
    rw [hEntry] at h
    simp at h
  | some entry =>
    rw [hEntry] at h
    simp only [bind_eq_ok, required_eq_ok] at h
    obtain ⟨account, hAccount, hSnapshot⟩ := h
    exact ⟨entry, account, rfl, hAccount, by simpa [pure, Except.pure, eq_comm] using hSnapshot⟩

/-- A key that is not known has no entry. -/
theorem existingSnapshot_eq_none {digest : Str}
    (h : db.existingSnapshot scope digest = .ok none) : db.entryByDigest scope digest = none := by
  unfold existingSnapshot at h
  cases hEntry : db.entryByDigest scope digest with
  | none => rfl
  | some entry =>
    rw [hEntry] at h
    simp only [bind_eq_ok] at h
    obtain ⟨account, -, hSnapshot⟩ := h
    simp [pure, Except.pure] at hSnapshot

-- ---------------------------------------------------------------------------
-- The credit service
-- ---------------------------------------------------------------------------

/-- The entry a reservation inserts. -/
def reservedEntry (scope : Uuid) (digest : Str) (reservedAt : Datetime) (entryId : Uuid)
    (account : AICreditAccount) (subscription : Subscription) : AICreditLedgerEntry where
  id := entryId
  businessId := scope
  accountId := account.id
  subscriptionId := subscription.id
  entitlementKey := .aiFullResponses
  idempotencyKeyDigest := digest
  reservedAt := reservedAt

/-- Everything a new reservation does, guards included. -/
inductive ReservesNew (db : CreditTables) (scope : Uuid) (digest : Str) (reservedAt : Datetime)
    (entryId : Uuid) (db' : CreditTables) (snapshot : AICreditLedgerSnapshot) : Prop
  | intro (subscription : Subscription) (startedAt endsAt : Datetime)
      (entitlement : EffectiveEntitlement) (accounts : Table AICreditAccount)
      (account : AICreditAccount) (limit : Option Int)
      (hSubscription : db.getCurrent scope = some subscription)
      (hActive : (evaluateAccess subscription reservedAt).active = true)
      (hStart : (evaluateAccess subscription reservedAt).periodStartedAt = some startedAt)
      (hEnd : (evaluateAccess subscription reservedAt).periodEndsAt = some endsAt)
      (hEntitlement : db.entitlementFor scope subscription .aiFullResponses = some entitlement)
      (hOpen : db.Opened accounts account)
      (hKey : account.periodKey = (scope, subscription.id, .aiFullResponses, startedAt, endsAt))
      (hLimit : effectiveLimit { db with accounts } scope account entitlement.limitValue =
        .ok limit)
      (hRoom : limit.all (account.used < ·) = true)
      (hAccounts : accounts.update?
        { account with limitValue := limit, reservedCount := account.reservedCount + 1 } =
          some db'.accounts)
      (hLedger : db.ledger.insert?
        (reservedEntry scope digest reservedAt entryId account subscription) = some db'.ledger)
      (hRest : db' = { db with accounts := db'.accounts, ledger := db'.ledger })
      (hSnapshot : snapshot = snapshotOf
        (reservedEntry scope digest reservedAt entryId account subscription)
        { account with limitValue := limit, reservedCount := account.reservedCount + 1 } false)

/-- What a reservation under a new key does. -/
theorem reserveNew_eq_ok {digest : Str} {reservedAt : Datetime} {accountId entryId : Uuid}
    {db' : CreditTables} {snapshot : AICreditLedgerSnapshot}
    (h : db.reserveNew scope digest reservedAt accountId entryId = .ok (db', snapshot)) :
    db.ReservesNew scope digest reservedAt entryId db' snapshot := by
  simp only [reserveNew, bind_eq_ok, required_eq_ok, ensure_eq_ok] at h
  obtain ⟨subscription, hSubscription, -, hActive, startedAt, hStart, endsAt, hEnd, entitlement,
    hEntitlement, -, hEnabled, ⟨db₁, account⟩, hAccount, limit, hLimit, -, hRoom, -, hSame,
    accounts, hAccounts, ledger, hLedger, hDone⟩ := h
  obtain ⟨hOpen, hDb₁, hKey⟩ := accountForPeriod_opened hAccount
  simp only [pure, Except.pure, Except.ok.injEq, Prod.mk.injEq] at hDone
  obtain ⟨rfl, rfl⟩ := hDone
  rw [hDb₁] at hLimit hLedger
  exact .intro subscription startedAt endsAt entitlement db₁.accounts account limit hSubscription
    hActive hStart hEnd hEntitlement hOpen hKey hLimit hRoom hAccounts hLedger
    (by rw [hDb₁]) rfl

/-- A reservation under a new key is a move of its account. -/
theorem ReservesNew.move {digest : Str} {reservedAt : Datetime} {entryId : Uuid}
    {db' : CreditTables} {snapshot : AICreditLedgerSnapshot}
    (h : db.ReservesNew scope digest reservedAt entryId db' snapshot) : db.Move db' := by
  obtain ⟨subscription, startedAt, endsAt, entitlement, accounts, account, limit, -, -, -, -, -,
    hOpen, hKey, -, -, hAccounts, hLedger, -, -⟩ := h
  simp only [AICreditAccount.periodKey, Prod.mk.injEq] at hKey
  exact .reserve accounts account limit _ hOpen hAccounts hLedger rfl ⟨rfl, hKey.1, hKey.2.1⟩

/-- **Reservation.** It answers with the entry of the key, or reserves a new one. -/
theorem reserve_eq_ok {sha256 : List UInt8 → Str} {key : Str} {reservedAt : Datetime}
    {accountId entryId : Uuid} {db' : CreditTables} {snapshot : AICreditLedgerSnapshot}
    (h : db.reserve scope sha256 key reservedAt accountId entryId = .ok (db', snapshot)) :
    ∃ digest, digestAiIdempotencyKey sha256 key = .ok digest ∧
      ((db' = db ∧ db.existingSnapshot scope digest = .ok (some snapshot)) ∨
        (db.entryByDigest scope digest = none ∧
          db.ReservesNew scope digest reservedAt entryId db' snapshot)) := by
  simp only [reserve, bind_eq_ok] at h
  obtain ⟨digest, hDigest, existing, hExisting, h⟩ := h
  refine ⟨digest, hDigest, ?_⟩
  cases existing with
  | some found =>
    simp only [pure, Except.pure, Except.ok.injEq, Prod.mk.injEq] at h
    obtain ⟨rfl, rfl⟩ := h
    exact .inl ⟨rfl, hExisting⟩
  | none =>
    have hNone := existingSnapshot_eq_none hExisting
    dsimp only at h
    split at h
    · -- the insert failed although no entry has the key: nothing to answer with
      simp only [bind_eq_ok, hExisting] at h
      obtain ⟨duplicate, hDuplicate, h⟩ := h
      obtain rfl := Except.ok.inj hDuplicate
      simp [throw, throwThe, MonadExceptOf.throw] at h
    · exact .inr ⟨hNone, reserveNew_eq_ok h⟩

/-- A reservation is a move, or a replay. -/
theorem reserve_move {sha256 : List UInt8 → Str} {key : Str} {reservedAt : Datetime}
    {accountId entryId : Uuid} {db' : CreditTables} {snapshot : AICreditLedgerSnapshot}
    (h : db.reserve scope sha256 key reservedAt accountId entryId = .ok (db', snapshot)) :
    db.Move db' := by
  obtain ⟨digest, -, ⟨rfl, -⟩ | ⟨-, hNew⟩⟩ := reserve_eq_ok h
  · exact .refl _
  · exact hNew.move

/-- A consumption is a move. -/
theorem consume_move {entryId : Uuid} {consumedAt : Datetime} {db' : CreditTables}
    {snapshot : AICreditLedgerSnapshot}
    (h : db.consume scope entryId consumedAt = .ok (db', snapshot)) : db.Move db' := by
  simp only [consume, bind_eq_ok, required_eq_ok] at h
  obtain ⟨entry, hEntry, account, hAccount, h⟩ := h
  obtain ⟨hMem, -, -⟩ := entryById_eq_some hEntry
  obtain ⟨hAcc, -, hId, -⟩ := accountForEntry_eq_some hAccount
  cases hStatus : entry.status with
  | consumed =>
    simp only [hStatus, pure, Except.pure, Except.ok.injEq, Prod.mk.injEq] at h
    exact h.1 ▸ .refl _
  | released => simp [hStatus, throw, throwThe, MonadExceptOf.throw] at h
  | reserved =>
    simp only [hStatus, bind_eq_ok, required_eq_ok, ensure_eq_ok] at h
    obtain ⟨-, -, accounts, hAccounts, ledger, hLedger, hDone⟩ := h
    simp only [pure, Except.pure, Except.ok.injEq, Prod.mk.injEq] at hDone
    obtain ⟨rfl, -⟩ := hDone
    exact .settle account entry (entry.markConsumed consumedAt) hAcc hMem hId hStatus
      (by simp [AICreditLedgerEntry.markConsumed]) (entry.sameOrigin_markConsumed _) hAccounts
      hLedger

/-- A consumption writes accounts and entries only. -/
theorem consume_frame {entryId : Uuid} {consumedAt : Datetime} {db' : CreditTables}
    {snapshot : AICreditLedgerSnapshot}
    (h : db.consume scope entryId consumedAt = .ok (db', snapshot)) :
    db' = { db with accounts := db'.accounts, ledger := db'.ledger } := by
  simp only [consume, bind_eq_ok, required_eq_ok] at h
  obtain ⟨entry, -, account, -, h⟩ := h
  cases hStatus : entry.status with
  | consumed =>
    simp only [hStatus, pure, Except.pure, Except.ok.injEq, Prod.mk.injEq] at h
    rw [← h.1]
  | released => simp [hStatus, throw, throwThe, MonadExceptOf.throw] at h
  | reserved =>
    simp only [hStatus, bind_eq_ok, required_eq_ok, pure, Except.pure, Except.ok.injEq,
      Prod.mk.injEq] at h
    obtain ⟨-, -, accounts, -, ledger, -, rfl, -⟩ := h
    rfl

/-- **Release.** It finds the entry released, or settles a reserved one. -/
theorem release_eq_ok {entryId : Uuid} {reason : Str} {releasedAt : Datetime}
    {db' : CreditTables} {snapshot : AICreditLedgerSnapshot}
    (h : db.release scope entryId reason releasedAt = .ok (db', snapshot)) :
    ∃ entry account, db.entryById scope entryId = some entry ∧
      db.accountForEntry scope entry = some account ∧
      ((entry.status = .released ∧ db' = db) ∨
        (entry.status = .reserved ∧ ∃ reason',
          db.accounts.update? (account.settle .released) = some db'.accounts ∧
          db.ledger.update? (entry.markReleased reason' releasedAt) = some db'.ledger ∧
          db' = { db with accounts := db'.accounts, ledger := db'.ledger })) := by
  simp only [release, bind_eq_ok, required_eq_ok] at h
  obtain ⟨reason', -, entry, hEntry, account, hAccount, h⟩ := h
  refine ⟨entry, account, hEntry, hAccount, ?_⟩
  cases hStatus : entry.status with
  | released =>
    simp only [hStatus, pure, Except.pure, Except.ok.injEq, Prod.mk.injEq] at h
    exact .inl ⟨rfl, h.1.symm⟩
  -- a consumed entry cannot be released
  | consumed => simp [hStatus, throw, throwThe, MonadExceptOf.throw] at h
  | reserved =>
    simp only [hStatus, bind_eq_ok, required_eq_ok, ensure_eq_ok] at h
    obtain ⟨-, -, accounts, hAccounts, ledger, hLedger, hDone⟩ := h
    simp only [pure, Except.pure, Except.ok.injEq, Prod.mk.injEq] at hDone
    obtain ⟨rfl, -⟩ := hDone
    exact .inr ⟨rfl, reason', hAccounts, hLedger, rfl⟩

/-- A release is a move. -/
theorem release_move {entryId : Uuid} {reason : Str} {releasedAt : Datetime}
    {db' : CreditTables} {snapshot : AICreditLedgerSnapshot}
    (h : db.release scope entryId reason releasedAt = .ok (db', snapshot)) : db.Move db' := by
  obtain ⟨entry, account, hEntry, hAccount, ⟨-, rfl⟩ | ⟨hStatus, reason', hAccounts, hLedger, -⟩⟩ :=
    release_eq_ok h
  · exact .refl _
  · obtain ⟨hMem, -, -⟩ := entryById_eq_some hEntry
    obtain ⟨hAcc, -, hId, -⟩ := accountForEntry_eq_some hAccount
    exact .settle account entry (entry.markReleased reason' releasedAt) hAcc hMem hId hStatus
      (by simp [AICreditLedgerEntry.markReleased]) (entry.sameOrigin_markReleased _ _) hAccounts
      hLedger

/-- A release writes accounts and entries only. -/
theorem release_frame {entryId : Uuid} {reason : Str} {releasedAt : Datetime}
    {db' : CreditTables} {snapshot : AICreditLedgerSnapshot}
    (h : db.release scope entryId reason releasedAt = .ok (db', snapshot)) :
    db' = { db with accounts := db'.accounts, ledger := db'.ledger } := by
  obtain ⟨entry, account, -, -, ⟨-, rfl⟩ | ⟨-, reason', -, -, hRest⟩⟩ := release_eq_ok h
  · rfl
  · exact hRest

end CreditTables

-- ---------------------------------------------------------------------------
-- The administration
-- ---------------------------------------------------------------------------

namespace CreditDatabase

variable {db db' : CreditDatabase}

/-- The limit that the plan of the business grants now: `none` is no such grant, or one
without a limit. -/
def baseLimit (db : CreditDatabase) (businessId : Uuid) : Option Int := do
  let subscription ← db.getCurrent businessId
  let entitlement ← db.entitlementFor businessId subscription .aiFullResponses
  entitlement.limitValue

/-- The audit event is the only thing `record` writes. -/
theorem recordAdjustment_eq_ok {request : AdjustRequest}
    {adjustment : AICreditAdjustmentLedgerEntry} {auditId : Uuid}
    (h : db.recordAdjustment request adjustment auditId = .ok db') :
    ∃ event, event.id = auditId ∧ event.targetId = adjustment.accountId ∧
      event.businessId = some request.businessId ∧
      db.auditEvents.insert? event = some db'.auditEvents ∧
      db' = { db with auditEvents := db'.auditEvents } := by
  simp only [recordAdjustment, bind_eq_ok, required_eq_ok, ensure_eq_ok] at h
  obtain ⟨-, -, requestId, -, auditEvents, hInsert, hDone⟩ := h
  simp only [pure, Except.pure, Except.ok.injEq] at hDone
  rw [← hDone]
  exact ⟨_, rfl, rfl, rfl, hInsert, rfl⟩

/-- Everything a new adjustment does, guards included. -/
inductive AdjustsNew (db : CreditDatabase) (request : AdjustRequest) (digest : Str)
    (db' : CreditDatabase) (result : AdminAICreditAdjustmentResult) : Prop
  | intro (adjustment : AICreditAdjustmentLedgerEntry) (accounts : Table AICreditAccount)
      (account : AICreditAccount) (baseLimit : Int) (event : AdminAuditEvent)
      (hBase : db.baseLimit request.businessId = some baseLimit)
      (hOpen : db.toCreditTables.Opened accounts account)
      (hOwner : adjustment.accountId = account.id ∧ adjustment.businessId = request.businessId ∧
        adjustment.businessId = account.businessId ∧
        adjustment.subscriptionId = account.subscriptionId)
      (hDigest : adjustment.idempotencyKeyDigest = digest)
      (hAsked : adjustment.delta = request.delta ∧ adjustment.reasonCode = request.reasonCode)
      (hAfter : adjustment.effectiveLimitAfter =
        baseLimit + db.adjustmentTotal account.businessId account + request.delta)
      (hUsed : adjustment.reservedCount + adjustment.consumedCount = account.used)
      (hRoom : account.used ≤ adjustment.effectiveLimitAfter ∧ 0 ≤ adjustment.effectiveLimitAfter)
      (hAccounts : accounts.update?
        { account with limitValue := some adjustment.effectiveLimitAfter } = some db'.accounts)
      (hAdjustments : db.adjustments.insert? adjustment = some db'.adjustments)
      (hEvent : event.targetId = account.id ∧ event.businessId = some request.businessId)
      (hAudit : db.auditEvents.insert? event = some db'.auditEvents)
      (hRest : db' =
        { db with
          accounts := db'.accounts
          adjustments := db'.adjustments
          auditEvents := db'.auditEvents })
      (hResult : result = ⟨adjustment, adjustment.effectiveLimitAfter - account.used, false⟩)

/-- What an adjustment under a new key does. -/
theorem adjustNew_eq_ok {request : AdjustRequest} {digest : Str} {adjustedAt : Datetime}
    {ids : AdjustIds} {result : AdminAICreditAdjustmentResult}
    (h : db.adjustNew request digest adjustedAt ids = .ok (db', result)) :
    db.AdjustsNew request digest db' result := by
  simp only [adjustNew, bind_eq_ok, required_eq_ok, ensure_eq_ok] at h
  obtain ⟨subscription, hCurrent, -, -, startedAt, -, endsAt, -, entitlement, hEntitlement, -, -,
    limit, hLimit, ⟨tables, account⟩, hAccount, -, -, -, hRoom, accounts, hAccounts, adjustments,
    hAdjustments, db'', hRecord, hDone⟩ := h
  obtain ⟨hOpen, hTables, hKey⟩ := CreditTables.accountForPeriod_opened hAccount
  simp only [AICreditAccount.periodKey, Prod.mk.injEq] at hKey
  simp only [pure, Except.pure, Except.ok.injEq, Prod.mk.injEq] at hDone
  obtain ⟨rfl, rfl⟩ := hDone
  obtain ⟨event, -, hTarget, hBusiness, hAudit, hFrame⟩ := recordAdjustment_eq_ok hRecord
  have hBase : db.baseLimit request.businessId = some limit := by
    simp only [baseLimit, hCurrent, hEntitlement, hLimit, Option.bind_eq_bind, Option.bind_some]
  -- opening the account writes no adjustment
  have hTotal : tables.adjustmentTotal account.businessId account =
      db.adjustmentTotal account.businessId account := by
    rw [hTables]
    rfl
  rw [hTotal] at hRoom hAccounts hAdjustments
  have hSame : tables.adjustments = db.adjustments := by rw [hTables]
  rw [hSame] at hAdjustments
  have hRest : db'' =
      { db with
        accounts := db''.accounts
        adjustments := db''.adjustments
        auditEvents := db''.auditEvents } := by
    rw [hFrame, hTables]
  have hWritten : db''.accounts = accounts ∧ db''.adjustments = adjustments := by
    rw [hFrame]
    exact ⟨rfl, rfl⟩
  -- the row is the one that the tables took
  refine .intro _ tables.accounts account limit event hBase hOpen ?_ ?_ ?_ ?_ ?_ ?_ ?_ ?_
    ⟨hTarget, hBusiness⟩ hAudit hRest (by rw [hTotal])
  · exact ⟨rfl, rfl, hKey.1.symm, hKey.2.1.symm⟩
  · rfl
  · exact ⟨rfl, rfl⟩
  · rfl
  · rfl
  · exact hRoom
  · rw [hWritten.1]
    exact hAccounts
  · rw [hWritten.2]
    exact hAdjustments

/-- **Adjustment.** It answers with the adjustment of the key, or makes a new one. -/
theorem adjust_cases {sha256 : List UInt8 → Str} {request : AdjustRequest}
    {adjustedAt : Datetime} {ids : AdjustIds} {result : AdminAICreditAdjustmentResult}
    (h : db.adjust sha256 request adjustedAt ids = .ok (db', result)) :
    ∃ digest, digestAiIdempotencyKey sha256 request.idempotencyKey = .ok digest ∧
      ((db' = db ∧ ∃ existing ∈ db.adjustments, existing.businessId = request.businessId ∧
          existing.idempotencyKeyDigest = digest ∧ existing.delta = request.delta ∧
          existing.reasonCode = request.reasonCode ∧ result = ⟨existing,
            existing.effectiveLimitAfter - existing.reservedCount - existing.consumedCount, true⟩) ∨
        ((∀ j ∈ db.adjustments, j.businessId = request.businessId →
            j.idempotencyKeyDigest ≠ digest) ∧ db.AdjustsNew request digest db' result)) := by
  simp only [adjust, bind_eq_ok, required_eq_ok, ensure_eq_ok] at h
  obtain ⟨-, -, -, -, digest, hDigest, -, -, h⟩ := h
  refine ⟨digest, ?_, ?_⟩
  · revert hDigest
    cases digestAiIdempotencyKey sha256 request.idempotencyKey <;> intro hDigest <;> cases hDigest
    rfl
  split at h
  · next existing hExisting =>
    simp only [bind_eq_ok, ensure_eq_ok] at h
    obtain ⟨-, ⟨hDelta, hReason⟩, hDone⟩ := h
    simp only [pure, Except.pure, Except.ok.injEq, Prod.mk.injEq] at hDone
    have hKey := Table.prop_of_find? hExisting
    rw [Bool.and_eq_true, beq_iff_eq, beq_iff_eq] at hKey
    -- the same key with the same request is a replay
    exact .inl ⟨hDone.1.symm, existing, Table.mem_of_find? hExisting, hKey.1, hKey.2, hDelta,
      hReason, hDone.2.symm⟩
  · next hNone =>
    refine .inr ⟨fun j hj hBusiness hSame => ?_, adjustNew_eq_ok h⟩
    have hNot := Table.find?_eq_none.mp hNone j hj
    simp [hBusiness, hSame] at hNot

/-- A new adjustment sets a limit and leaves the ledger alone. -/
theorem AdjustsNew.move {request : AdjustRequest} {digest : Str}
    {result : AdminAICreditAdjustmentResult} (h : db.AdjustsNew request digest db' result) :
    db.toCreditTables.Move db'.toCreditTables ∧ db'.ledger = db.ledger := by
  obtain ⟨adjustment, accounts, account, limit, event, -, hOpen, -, -, -, -, -, -, hAccounts, -, -,
    -, hRest, -⟩ := h
  have hLedger : db'.ledger = db.ledger := by rw [hRest]
  exact ⟨.limit accounts account _ hOpen hAccounts hLedger, hLedger⟩

/-- An adjustment that was answered. -/
theorem adjust_eq_ok {sha256 : List UInt8 → Str} {request : AdjustRequest}
    {adjustedAt : Datetime} {ids : AdjustIds} {result : AdminAICreditAdjustmentResult}
    (h : db.adjust sha256 request adjustedAt ids = .ok (db', result)) :
    db.toCreditTables.Move db'.toCreditTables ∧ db'.ledger = db.ledger := by
  obtain ⟨digest, -, ⟨rfl, -⟩ | ⟨-, hNew⟩⟩ := adjust_cases h
  · exact ⟨.refl _, rfl⟩
  · exact hNew.move

end CreditDatabase

end SpikeBackend
