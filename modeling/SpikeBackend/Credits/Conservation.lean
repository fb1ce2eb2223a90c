import SpikeBackend.Lib.Machine
import SpikeBackend.Execution.Transactions

/-!
# Conservation of AI credits

Every transaction over the credit tables makes a `CreditTables.Move`; here is what any
sequence of moves keeps.

* `CreditInvariant` — each account counts its own reserved and consumed entries, and each
  entry belongs to an account; `Move.invariant` is the step lemma;
* `LedgerAdvances` — entries stay, and a settled one keeps its status;
  `Move.advances` is the step lemma;
* `credit_conservation` — both over every run of the transactions.
-/

namespace SpikeBackend

open Relational Text Outcome Machine

/-- The entries of an account in one status. -/
def AICreditLedgerEntry.isOf (accountId : Uuid) (status : AICreditLedgerStatus)
    (e : AICreditLedgerEntry) : Bool :=
  e.accountId == accountId && e.status == status

theorem AICreditLedgerEntry.isOf_eq_true {accountId : Uuid} {status : AICreditLedgerStatus}
    {e : AICreditLedgerEntry} :
    e.isOf accountId status = true ↔ e.accountId = accountId ∧ e.status = status := by
  rw [isOf, Bool.and_eq_true, beq_iff_eq, beq_iff_eq]

theorem AICreditLedgerEntry.isOf_of_ne {accountId : Uuid} {status : AICreditLedgerStatus}
    {e : AICreditLedgerEntry} (h : e.accountId ≠ accountId) : e.isOf accountId status = false := by
  simp [isOf, h]

/-- The status of an entry only moves forward: a settled one stays as it is. -/
def AICreditLedgerStatus.Advances (s s' : AICreditLedgerStatus) : Prop := s = .reserved ∨ s' = s

namespace CreditTables

/-- The account's counters are the counts of its entries. -/
def Counted (ledger : Table AICreditLedgerEntry) (a : AICreditAccount) : Prop :=
  a.reservedCount = ledger.count (AICreditLedgerEntry.isOf a.id .reserved) ∧
    a.consumedCount = ledger.count (AICreditLedgerEntry.isOf a.id .consumed)

/-- **The credit invariant.** -/
structure CreditInvariant (db : CreditTables) : Prop where
  /-- every account counts its own entries -/
  counted : ∀ a ∈ db.accounts, Counted db.ledger a
  /-- every entry belongs to an account of its business and subscription -/
  owned : ∀ e ∈ db.ledger, ∃ a ∈ db.accounts, a.id = e.accountId ∧
    a.businessId = e.businessId ∧ a.subscriptionId = e.subscriptionId

/-- Every entry is still there, under the same account and key, and none went back. -/
def LedgerAdvances (db db' : CreditTables) : Prop :=
  ∀ e ∈ db.ledger, ∃ e' ∈ db'.ledger, e.SameOrigin e' ∧ e.status.Advances e'.status

theorem LedgerAdvances.refl (db : CreditTables) : db.LedgerAdvances db :=
  fun e he => ⟨e, he, ⟨rfl, rfl, rfl, rfl, rfl, rfl⟩, .inr rfl⟩

/-- Advances compose. -/
theorem LedgerAdvances.trans {db db₁ db₂ : CreditTables} (h₁ : db.LedgerAdvances db₁)
    (h₂ : db₁.LedgerAdvances db₂) : db.LedgerAdvances db₂ := by
  intro e he
  obtain ⟨e₁, he₁, ⟨a₁, b₁, c₁, d₁, f₁, g₁⟩, hs₁⟩ := h₁ e he
  obtain ⟨e₂, he₂, ⟨a₂, b₂, c₂, d₂, f₂, g₂⟩, hs₂⟩ := h₂ e₁ he₁
  refine ⟨e₂, he₂, ⟨a₂.trans a₁, b₂.trans b₁, c₂.trans c₁, d₂.trans d₁, f₂.trans f₁,
    g₂.trans g₁⟩, ?_⟩
  rcases hs₁ with hs₁ | hs₁
  · exact .inl hs₁
  · rcases hs₂ with hs₂ | hs₂
    · exact .inl (hs₁ ▸ hs₂)
    · exact .inr (hs₂.trans hs₁)

variable {db db' : CreditTables}

-- ---------------------------------------------------------------------------
-- Opening an account
-- ---------------------------------------------------------------------------

/-- The account that is opened is stored. -/
theorem Opened.mem {accounts : Table AICreditAccount} {account : AICreditAccount}
    (h : db.Opened accounts account) : account ∈ accounts := by
  obtain ⟨rfl, hMem⟩ | ⟨hInsert, -⟩ := h
  · exact hMem
  · exact (Table.mem_insert? hInsert).mpr (.inl rfl)

/-- Opening an account drops none. -/
theorem Opened.mem_of_mem {accounts : Table AICreditAccount} {account a : AICreditAccount}
    (h : db.Opened accounts account) (ha : a ∈ db.accounts) : a ∈ accounts := by
  obtain ⟨rfl, -⟩ | ⟨hInsert, -⟩ := h
  · exact ha
  · exact (Table.mem_insert? hInsert).mpr (.inr ha)

/-- An account that was just opened has no entries yet: they all belong to accounts
that were there before. -/
theorem Opened.counted {accounts : Table AICreditAccount} {account : AICreditAccount}
    (hInv : db.CreditInvariant) (h : db.Opened accounts account) :
    ∀ a ∈ accounts, Counted db.ledger a := by
  intro a ha
  obtain ⟨rfl, -⟩ | ⟨hInsert, hReserved, hConsumed⟩ := h
  · exact hInv.counted a ha
  · rcases (Table.mem_insert? hInsert).mp ha with rfl | ha
    · -- Every entry belongs to a stored account, so a fresh account has none.
      have hNone : ∀ status, ∀ e ∈ db.ledger, e.isOf a.id status = false := by
        intro status e he
        obtain ⟨a', ha', hId, -⟩ := hInv.owned e he
        exact AICreditLedgerEntry.isOf_of_ne
          (hId ▸ (Table.apart_of_insert? hInsert ha').1)
      constructor
      · rw [hReserved, Table.count_eq_zero (hNone .reserved)]
        rfl
      · rw [hConsumed, Table.count_eq_zero (hNone .consumed)]
        rfl
    · exact hInv.counted a ha

-- ---------------------------------------------------------------------------
-- The step lemmas
-- ---------------------------------------------------------------------------

/-- An account with the identity of another owns what that one owned. -/
private theorem owned_of_update {accounts accounts' : Table AICreditAccount}
    {account account' : AICreditAccount} (h : accounts.update? account' = some accounts')
    (hMem : account ∈ accounts) (hId : account'.id = account.id)
    (hBusiness : account'.businessId = account.businessId)
    (hSubscription : account'.subscriptionId = account.subscriptionId) {e : AICreditLedgerEntry}
    (hOwned : ∃ a ∈ accounts, a.id = e.accountId ∧ a.businessId = e.businessId ∧
      a.subscriptionId = e.subscriptionId) :
    ∃ a ∈ accounts', a.id = e.accountId ∧ a.businessId = e.businessId ∧
      a.subscriptionId = e.subscriptionId := by
  obtain ⟨a, ha, hOwner⟩ := hOwned
  -- The updated account keeps the three columns the entry refers to.
  by_cases hSame : a.id = account.id
  · obtain rfl := Table.eq_of_key_eq ha hMem hSame
    exact ⟨account', (Table.mem_update?_iff h hMem hId).mpr (.inl rfl), hId.trans hOwner.1,
      hBusiness.trans hOwner.2.1, hSubscription.trans hOwner.2.2⟩
  · exact ⟨a, (Table.mem_update?_iff h hMem hId).mpr (.inr ⟨ha, hSame⟩), hOwner⟩

/-- A reservation is counted by the account it is charged to, and by no other. -/
theorem counted_insert {ledger ledger' : Table AICreditLedgerEntry} {entry : AICreditLedgerEntry}
    (h : ledger.insert? entry = some ledger') (hStatus : entry.status = .reserved)
    {a : AICreditAccount} (hCounted : Counted ledger a) :
    Counted ledger'
      (if a.id = entry.accountId then { a with reservedCount := a.reservedCount + 1 } else a) := by
  -- The new entry is reserved: it is counted there and nowhere else.
  have hReserved := Table.count_insert? (AICreditLedgerEntry.isOf a.id .reserved) h
  have hConsumed := Table.count_insert? (AICreditLedgerEntry.isOf a.id .consumed) h
  split
  · next hId =>
    rw [if_pos (AICreditLedgerEntry.isOf_eq_true.mpr ⟨hId.symm, hStatus⟩)] at hReserved
    rw [if_neg (by rw [AICreditLedgerEntry.isOf_eq_true, hStatus]; simp)] at hConsumed
    exact ⟨by simp only [hReserved, hCounted.1]; push_cast; rfl, by rw [hConsumed]; exact hCounted.2⟩
  · next hId =>
    rw [if_neg (by rw [AICreditLedgerEntry.isOf_of_ne (Ne.symm hId)]; simp)] at hReserved hConsumed
    exact ⟨by rw [hReserved]; exact hCounted.1, by rw [hConsumed]; exact hCounted.2⟩

/-- Settling an entry moves one unit out of the reserved count of its account. -/
theorem counted_update {ledger ledger' : Table AICreditLedgerEntry}
    {entry entry' : AICreditLedgerEntry} (h : ledger.update? entry' = some ledger')
    (hEntry : entry ∈ ledger) (hOrigin : entry.SameOrigin entry')
    (hReserved : entry.status = .reserved) {a : AICreditAccount} (hCounted : Counted ledger a) :
    Counted ledger' (if a.id = entry.accountId then a.settle entry'.status else a) := by
  obtain ⟨hId, -, hAccountId, -⟩ := hOrigin
  have hCount := fun status =>
    Table.count_update? (AICreditLedgerEntry.isOf a.id status) h hEntry hId.symm
  have hR := hCount .reserved
  have hC := hCount .consumed
  obtain ⟨hr, hc⟩ := hCounted
  split
  · next hOwner =>
    -- The entry stays with its account, so only its status decides where it is counted.
    have hOf : ∀ status, entry'.isOf a.id status = decide (entry'.status = status) := by
      intro status
      rw [Bool.eq_iff_iff, AICreditLedgerEntry.isOf_eq_true, decide_eq_true_iff]
      exact ⟨fun h => h.2, fun h => ⟨hAccountId.trans hOwner.symm, h⟩⟩
    rw [if_pos (AICreditLedgerEntry.isOf_eq_true.mpr ⟨hOwner.symm, hReserved⟩), hOf] at hR
    rw [if_neg (by rw [AICreditLedgerEntry.isOf_eq_true, hReserved]; simp), hOf] at hC
    unfold Counted
    cases hStatus : entry'.status with
    | reserved =>
      simp only [hStatus, decide_true, if_true, reduceCtorEq, decide_false, Bool.false_eq_true,
        if_false] at hR hC
      simp only [AICreditAccount.settle]
      omega
    | consumed =>
      simp only [hStatus, decide_true, if_true, reduceCtorEq, decide_false, Bool.false_eq_true,
        if_false] at hR hC
      simp only [AICreditAccount.settle]
      omega
    | released =>
      simp only [hStatus, reduceCtorEq, decide_false, Bool.false_eq_true, if_false] at hR hC
      simp only [AICreditAccount.settle]
      omega
  · next hOwner =>
    -- Another account counts neither the old entry nor the new one.
    have hOther : ∀ status, entry.isOf a.id status = false ∧ entry'.isOf a.id status = false :=
      fun status => ⟨AICreditLedgerEntry.isOf_of_ne (Ne.symm hOwner),
        AICreditLedgerEntry.isOf_of_ne (hAccountId ▸ Ne.symm hOwner)⟩
    simp only [(hOther _).1, (hOther _).2, Bool.false_eq_true, if_false, Nat.add_zero] at hR hC
    exact ⟨by rw [hR]; exact hr, by rw [hC]; exact hc⟩

@[simp] theorem settle_id (a : AICreditAccount) (status : AICreditLedgerStatus) :
    (a.settle status).id = a.id := by cases status <;> rfl

@[simp] theorem settle_businessId (a : AICreditAccount) (status : AICreditLedgerStatus) :
    (a.settle status).businessId = a.businessId := by cases status <;> rfl

@[simp] theorem settle_subscriptionId (a : AICreditAccount) (status : AICreditLedgerStatus) :
    (a.settle status).subscriptionId = a.subscriptionId := by cases status <;> rfl

/-- **Step lemma.** Every move keeps the credit invariant. -/
theorem Move.invariant (h : db.Move db') (hInv : db.CreditInvariant) : db'.CreditInvariant := by
  cases h with
  | idle hAccounts hLedger =>
    exact ⟨by rw [hAccounts, hLedger]; exact hInv.counted,
      by rw [hAccounts, hLedger]; exact hInv.owned⟩
  | reserve accounts account limit entry hOpen hAccounts hLedger hStatus hOwner =>
    have hMem := fun a => Table.mem_update?_iff (x := a) hAccounts hOpen.mem rfl
    constructor
    · intro a ha
      rcases (hMem a).mp ha with rfl | ⟨ha, hne⟩
      · -- The account that is charged.
        have := counted_insert hLedger hStatus (hOpen.counted hInv account hOpen.mem)
        rw [if_pos hOwner.1] at this
        exact this
      · have := counted_insert hLedger hStatus (hOpen.counted hInv a ha)
        rw [if_neg (hOwner.1 ▸ hne)] at this
        exact this
    · intro e he
      refine owned_of_update hAccounts hOpen.mem rfl rfl rfl ?_
      rcases (Table.mem_insert? hLedger).mp he with rfl | he
      · exact ⟨account, hOpen.mem, hOwner⟩
      · obtain ⟨a, ha, hOwns⟩ := hInv.owned e he
        exact ⟨a, hOpen.mem_of_mem ha, hOwns⟩
  | settle account entry entry' hAccount hEntry hOwner hReserved hSettled hOrigin hAccounts
      hLedger =>
    have hMem := fun a => Table.mem_update?_iff (x := a) hAccounts hAccount (settle_id _ _)
    constructor
    · intro a ha
      rcases (hMem a).mp ha with rfl | ⟨ha, hne⟩
      · -- The account of the entry that is settled.
        have := counted_update hLedger hEntry hOrigin hReserved (hInv.counted account hAccount)
        rw [if_pos hOwner] at this
        exact this
      · have := counted_update hLedger hEntry hOrigin hReserved (hInv.counted a ha)
        rw [if_neg (hOwner ▸ hne)] at this
        exact this
    · intro e he
      refine owned_of_update hAccounts hAccount (settle_id _ _) (settle_businessId _ _)
        (settle_subscriptionId _ _) ?_
      -- The settled entry keeps the owner of the reserved one.
      rcases (Table.mem_update? hLedger).mp he with ⟨rfl, -⟩ | ⟨he, -⟩
      · obtain ⟨a, ha, hOwns⟩ := hInv.owned entry hEntry
        exact ⟨a, ha, hOwns.1.trans hOrigin.2.2.1.symm, hOwns.2.1.trans hOrigin.2.1.symm,
          hOwns.2.2.trans hOrigin.2.2.2.1.symm⟩
      · exact hInv.owned e he
  | limit accounts account limit hOpen hAccounts hLedger =>
    have hMem := fun a => Table.mem_update?_iff (x := a) hAccounts hOpen.mem rfl
    constructor
    · intro a ha
      rw [hLedger]
      rcases (hMem a).mp ha with rfl | ⟨ha, -⟩
      · exact hOpen.counted hInv account hOpen.mem
      · exact hOpen.counted hInv a ha
    · intro e he
      rw [hLedger] at he
      refine owned_of_update hAccounts hOpen.mem rfl rfl rfl ?_
      obtain ⟨a, ha, hOwns⟩ := hInv.owned e he
      exact ⟨a, hOpen.mem_of_mem ha, hOwns⟩

/-- **Step lemma.** Every move keeps the entries and sends none back. -/
theorem Move.advances (h : db.Move db') : db.LedgerAdvances db' := by
  intro e he
  have hSelf : e.SameOrigin e ∧ e.status.Advances e.status :=
    ⟨⟨rfl, rfl, rfl, rfl, rfl, rfl⟩, .inr rfl⟩
  cases h with
  | idle hAccounts hLedger => exact ⟨e, hLedger ▸ he, hSelf⟩
  | reserve accounts account limit entry hOpen hAccounts hLedger hStatus hOwner =>
    exact ⟨e, (Table.mem_insert? hLedger).mpr (.inr he), hSelf⟩
  | settle account entry entry' hAccount hEntry hOwner hReserved hSettled hOrigin hAccounts
      hLedger =>
    -- Only the settled entry changes, and it was reserved.
    by_cases hId : e.id = entry.id
    · obtain rfl := Table.eq_of_key_eq he hEntry hId
      exact ⟨entry', Table.mem_update?_self hLedger hEntry hOrigin.1.symm, hOrigin,
        .inl hReserved⟩
    · refine ⟨e, (Table.mem_update?_of_ne hLedger ?_).mpr he, hSelf⟩
      exact fun h => hId (h.trans hOrigin.1)
  | limit accounts account limit hOpen hAccounts hLedger => exact ⟨e, hLedger ▸ he, hSelf⟩

/-- **Step lemma.** Every move keeps the accounts and their periods. -/
theorem Move.account_kept (h : db.Move db') {a : AICreditAccount} (ha : a ∈ db.accounts) :
    ∃ a' ∈ db'.accounts, a'.id = a.id ∧ a'.periodKey = a.periodKey := by
  -- an account stays, or is rewritten under its own key and period
  have hUpdate : ∀ {accounts : Table AICreditAccount} {account account' : AICreditAccount},
      accounts.update? account' = some db'.accounts → a ∈ accounts → account ∈ accounts →
        account'.id = account.id → account'.periodKey = account.periodKey →
          ∃ a' ∈ db'.accounts, a'.id = a.id ∧ a'.periodKey = a.periodKey := by
    intro accounts account account' hWrite ha hAccount hId hKey
    by_cases hSame : a.id = account.id
    · obtain rfl := Table.eq_of_key_eq ha hAccount hSame
      exact ⟨account', Table.mem_update?_self hWrite ha hId.symm, hId, hKey⟩
    · exact ⟨a, (Table.mem_update?_iff hWrite hAccount hId).mpr (.inr ⟨ha, hSame⟩), rfl, rfl⟩
  cases h with
  | idle hAccounts hLedger => exact ⟨a, hAccounts ▸ ha, rfl, rfl⟩
  | reserve accounts account limit entry hOpen hAccounts =>
    exact hUpdate hAccounts (hOpen.mem_of_mem ha) hOpen.mem rfl rfl
  | settle account entry entry' hAccount hEntry hOwner hReserved hSettled hOrigin hAccounts =>
    exact hUpdate hAccounts ha hAccount (settle_id _ _) (by cases entry'.status <;> rfl)
  | limit accounts account limit hOpen hAccounts =>
    exact hUpdate hAccounts (hOpen.mem_of_mem ha) hOpen.mem rfl rfl

/-- **Step lemma.** After a move every entry was there before, or is new. -/
theorem Move.entry_origin (h : db.Move db') {e' : AICreditLedgerEntry} (he' : e' ∈ db'.ledger) :
    (∃ e ∈ db.ledger, e.SameOrigin e') ∨ ∀ e ∈ db.ledger, e.id ≠ e'.id := by
  have hSelf : ∀ e : AICreditLedgerEntry, e.SameOrigin e := fun e => ⟨rfl, rfl, rfl, rfl, rfl, rfl⟩
  cases h with
  | idle hAccounts hLedger => exact .inl ⟨e', hLedger ▸ he', hSelf e'⟩
  | reserve accounts account limit entry hOpen hAccounts hLedger =>
    -- Only a reservation brings an entry of a new id.
    rcases (Table.mem_insert? hLedger).mp he' with rfl | he
    · exact .inr fun e he => (Table.apart_of_insert? hLedger he).1
    · exact .inl ⟨e', he, hSelf e'⟩
  | settle account entry entry' hAccount hEntry hOwner hReserved hSettled hOrigin hAccounts
      hLedger =>
    rcases (Table.mem_update? hLedger).mp he' with ⟨rfl, -⟩ | ⟨he, -⟩
    · exact .inl ⟨entry, hEntry, hOrigin⟩
    · exact .inl ⟨e', he, hSelf e'⟩
  | limit accounts account limit hOpen hAccounts hLedger =>
    exact .inl ⟨e', hLedger ▸ he', hSelf e'⟩

/-- **Step lemma.** No move adds to a count that knows only entries of before and keeps
none that was settled out of it. -/
theorem Move.count_le {p : AICreditLedgerEntry → Bool} (h : db.Move db')
    (hNew : ∀ e, (∀ x ∈ db.ledger, x.id ≠ e.id) → p e = false)
    (hSettle : ∀ e e' : AICreditLedgerEntry, e.SameOrigin e' → e.status = .reserved →
      p e' = true → p e = true) : db'.ledger.count p ≤ db.ledger.count p := by
  cases h with
  | idle hAccounts hLedger => rw [hLedger]
  | reserve accounts account limit entry hOpen hAccounts hLedger =>
    have hCount := Table.count_insert? p hLedger
    -- A new entry is not counted, by assumption.
    have hFalse := hNew entry fun x hx => (Table.apart_of_insert? hLedger hx).1
    rw [hFalse] at hCount
    simp only [Bool.false_eq_true, if_false] at hCount
    omega
  | settle account entry entry' hAccount hEntry hOwner hReserved hSettled hOrigin hAccounts
      hLedger =>
    have hCount := Table.count_update? p hLedger hEntry hOrigin.1.symm
    have hKept := hSettle entry entry' hOrigin hReserved
    -- A settled one is counted only if it was before.
    cases hp' : p entry' with
    | false =>
      simp only [hp', Bool.false_eq_true, if_false] at hCount
      omega
    | true =>
      simp only [hp', hKept hp', if_true] at hCount
      omega
  | limit accounts account limit hOpen hAccounts hLedger => rw [hLedger]

end CreditTables

-- ---------------------------------------------------------------------------
-- Runs of the transactions
-- ---------------------------------------------------------------------------

/-- One locked transaction over the credit tables, with what it is called with; the
instance of the message that the session of a failure or a completion holds may be any.
`environment` rewrites every row that the transactions only read or that carries no
credit. -/
inductive CreditAction
  | reserve (scope : Uuid) (idempotencyKey : Str) (reservedAt : Datetime)
      (accountId entryId : Uuid)
  | consume (scope entryId : Uuid) (consumedAt : Datetime)
  | release (scope entryId : Uuid) (reason : Str) (releasedAt : Datetime)
  | failClaim (scope : Uuid) (loaded : Option AIMessage) (messageId entryId token : Uuid)
      (code : AIExecutionErrorCode) (now : Datetime)
  | completeClaim (scope : Uuid) (loaded : Option AIMessage) (messageId entryId token : Uuid)
      (generation : GeminiGeneration) (now : Datetime) (assistantId : Uuid)
  | adjust (request : AdjustRequest) (adjustedAt : Datetime) (ids : AdjustIds)
  | environment (tables : SubscriptionTables) (businesses : Table Business)
      (conversations : Table AIConversation) (messages : Table AIMessage)

namespace AiDatabase

/-- The database after a transaction on the credit tables alone. -/
def commitCredits {α : Type} (db : AiDatabase)
    (outcome : Except AICreditError (CreditTables × α)) : AiDatabase :=
  { db with toCreditTables := commit db.toCreditTables outcome }

/-- One atomic step: the transaction commits, or it raises and rolls back. -/
def creditStep (sha256 : List UInt8 → Str) (db : AiDatabase) : CreditAction → AiDatabase
  | .reserve scope key reservedAt accountId entryId =>
    db.commitCredits (db.reserve scope sha256 key reservedAt accountId entryId)
  | .consume scope entryId consumedAt => db.commitCredits (db.consume scope entryId consumedAt)
  | .release scope entryId reason releasedAt =>
    db.commitCredits (db.release scope entryId reason releasedAt)
  | .failClaim scope loaded messageId entryId token code now =>
    commit db (db.failClaim scope loaded messageId entryId token code now)
  | .completeClaim scope loaded messageId entryId token generation now assistantId =>
    commit db (db.completeClaim scope loaded messageId entryId token generation now assistantId)
  | .adjust request adjustedAt ids =>
    { db with
      toCreditDatabase :=
        commit db.toCreditDatabase (db.adjust sha256 request adjustedAt ids) }
  | .environment tables businesses conversations messages =>
    { db with toSubscriptionTables := tables, businesses, conversations, messages }

/-- The database with an empty credit ledger. -/
def withoutCredits (db : AiDatabase) : AiDatabase :=
  { db with accounts := .empty, ledger := .empty, adjustments := .empty }

/-- Each of the transactions makes one move. -/
theorem creditStep_move (sha256 : List UInt8 → Str) (db : AiDatabase) (a : CreditAction) :
    db.toCreditTables.Move (db.creditStep sha256 a).toCreditTables := by
  -- A transaction that rolls back leaves the tables as they are.
  cases a with
  | reserve scope key reservedAt accountId entryId =>
    exact commit_induction (.refl _) fun _ _ h => CreditTables.reserve_move h
  | consume scope entryId consumedAt =>
    exact commit_induction (.refl _) fun _ _ h => CreditTables.consume_move h
  | release scope entryId reason releasedAt =>
    exact commit_induction (.refl _) fun _ _ h => CreditTables.release_move h
  | failClaim scope loaded messageId entryId token code now =>
    exact commit_induction (P := fun db' : AiDatabase =>
      db.toCreditTables.Move db'.toCreditTables) (.refl _) fun _ _ h => failClaim_move h
  | completeClaim scope loaded messageId entryId token generation now assistantId =>
    exact commit_induction (P := fun db' : AiDatabase =>
      db.toCreditTables.Move db'.toCreditTables) (.refl _) fun _ _ h => completeClaim_move h
  | adjust request adjustedAt ids =>
    exact commit_induction (P := fun db' : CreditDatabase =>
      db.toCreditTables.Move db'.toCreditTables) (.refl _) fun _ _ h =>
        (CreditDatabase.adjust_eq_ok h).1
  | environment tables businesses conversations messages =>
    exact .withSubscriptions _ tables

/-- **One transaction.** It keeps the invariant, committed or rolled back. -/
theorem creditStep_invariant {sha256 : List UInt8 → Str} {db : AiDatabase} (a : CreditAction)
    (h : db.CreditInvariant) : (db.creditStep sha256 a).CreditInvariant :=
  (creditStep_move sha256 db a).invariant h

/-- The invariant holds of a database without accounts and entries. -/
theorem withoutCredits_invariant (db : AiDatabase) : db.withoutCredits.CreditInvariant :=
  ⟨fun _ ha => absurd ha (Table.not_mem_empty _), fun _ he => absurd he (Table.not_mem_empty _)⟩

/-- A run sends no entry back, wherever it starts. -/
theorem run_ledgerAdvances (sha256 : List UInt8 → Str) (db : AiDatabase)
    (as : List CreditAction) :
    db.LedgerAdvances (run (creditStep sha256) db as).toCreditTables :=
  run_related (I := fun _ => True)
    (R := fun s t => s.LedgerAdvances t.toCreditTables)
    (fun s => .refl s.toCreditTables) (fun _ _ _ h₁ h₂ => h₁.trans h₂) (fun _ _ _ => trivial)
    (fun s a _ => (creditStep_move sha256 s a).advances) trivial as

/-- **Credit conservation.** After every run from an empty ledger: each account's counters
are the counts of its reserved and consumed entries, a key has at most one entry in its
business, an entry once consumed or released keeps its status in every continuation of
the run, and no account uses more than its limit. -/
theorem credit_conservation (sha256 : List UInt8 → Str) (start : AiDatabase)
    (as : List CreditAction) :
    let db := run (creditStep sha256) start.withoutCredits as
    (∀ a ∈ db.accounts,
      a.reservedCount =
          db.ledger.count (fun e => e.accountId == a.id && e.status == .reserved) ∧
        a.consumedCount =
          db.ledger.count (fun e => e.accountId == a.id && e.status == .consumed)) ∧
      (∀ e ∈ db.ledger, ∀ e' ∈ db.ledger, e.businessId = e'.businessId →
        e.idempotencyKeyDigest = e'.idempotencyKeyDigest → e = e') ∧
      (∀ bs, ∀ e ∈ db.ledger, e.status ≠ .reserved →
        ∃ e' ∈ (run (creditStep sha256) db bs).ledger, e'.id = e.id ∧ e'.status = e.status) ∧
      (∀ a ∈ db.accounts, ∀ limit, a.limitValue = some limit →
        a.reservedCount + a.consumedCount ≤ limit) := by
  intro db
  have hInv : db.CreditInvariant :=
    run_invariant (I := fun s : AiDatabase => s.CreditInvariant)
      (fun _ a h => creditStep_invariant a h) (withoutCredits_invariant start) as
  -- The unique index over business and digest, the order of the states, and the check constraint.
  refine ⟨hInv.counted, ?_, ?_, ?_⟩
  · intro e he e' he' hBusiness hDigest
    exact Table.eq_of_clash he he' (decide_eq_true ⟨hBusiness, hDigest⟩)
  · intro bs e he hSettled
    obtain ⟨e', he', hOrigin, hAdvances⟩ := run_ledgerAdvances sha256 db bs e he
    exact ⟨e', he', hOrigin.1, hAdvances.resolve_left hSettled⟩
  · intro a ha limit hLimit
    have hChecks := Table.checks_of_mem ha
    simp only [Schema.checks, AICreditAccount.balanced, AICreditAccount.used, Bool.and_eq_true,
      hLimit, Option.all_some, decide_eq_true_eq] at hChecks
    exact of_decide_eq_true hChecks.2.2

end AiDatabase

end SpikeBackend
