import SpikeBackend.Credits.Adjustments

/-!
# Usage of AI credits

`usage_history` reads what `reserve` decides by. The two look the account of the period up on
their own and add the adjustments to the limit of the plan on their own; an account that is
opened only now has no adjustments, since each of those is of an account that was there.

* `Opened.agrees` — the reservation sees the counters and the limit of the report;
* `reserve_limit_iff` — it is refused for the limit exactly when nothing remains;
* `Reserved.remaining` — a reservation takes one off what remains;
* `usage_agrees` — both, after every run.
-/

namespace SpikeBackend

open Relational Text Outcome Machine

namespace CreditTables

variable {db : CreditTables} {scope : Uuid} {subscription : Subscription}
  {startedAt endsAt : Datetime} {entitlement : EffectiveEntitlement}

-- ---------------------------------------------------------------------------
-- The report
-- ---------------------------------------------------------------------------

/-- The credits of the period that are counted against its limit. -/
def usedIn (account : Option AICreditAccount) : Int :=
  account.elim 0 (·.reservedCount) + account.elim 0 (·.consumedCount)

/-- The business is let in at an instant, to a period, with an enabled entitlement. -/
structure LetIn (db : CreditTables) (scope : Uuid) (now : Datetime) (subscription : Subscription)
    (startedAt endsAt : Datetime) (entitlement : EffectiveEntitlement) : Prop where
  current : db.getCurrent scope = some subscription
  active : (evaluateAccess subscription now).active = true
  starts : (evaluateAccess subscription now).periodStartedAt = some startedAt
  ends : (evaluateAccess subscription now).periodEndsAt = some endsAt
  entitled : db.entitlementFor scope subscription .aiFullResponses = some entitlement
  enabled : entitlement.isEnabled = true

/-- What is reported to a business that is let in. -/
theorem LetIn.usageHistory {now : Datetime}
    (h : db.LetIn scope now subscription startedAt endsAt entitlement) (limit offset : Nat) :
    (db.usageHistory scope limit offset now).map (·.current.remaining) =
      (db.usageLimit scope (db.periodAccount scope subscription startedAt endsAt)
        entitlement.limitValue).map fun effective =>
          effective.map fun l => max (l - usedIn (db.periodAccount scope subscription startedAt
            endsAt)) 0 := by
  unfold CreditTables.usageHistory
  -- the report passes the gates that the reservation passes, then reads the limit and the account
  simp only [h.current, h.active, h.starts, h.ends, h.entitled, h.enabled, required, ensure, bind,
    Except.bind, if_true]
  cases db.usageLimit scope (db.periodAccount scope subscription startedAt endsAt)
    entitlement.limitValue with
  | error e => rfl
  | ok effective => rfl

/-- A report fails for a business that is let in only over the sum of its limit. -/
theorem usageLimit_error {account : Option AICreditAccount} {base : Option Int}
    {e : AICreditError} (h : db.usageLimit scope account base = .error e) : e = .integrity := by
  cases account with
  | none => cases h
  | some account =>
    cases base with
    | none => cases h
    | some base =>
      simp only [usageLimit, effectiveLimit, bind_eq_error, ensure_eq_error] at h
      rcases h with ⟨-, rfl⟩ | ⟨-, -, hDone⟩
      · rfl
      · cases hDone

-- ---------------------------------------------------------------------------
-- The account of the period
-- ---------------------------------------------------------------------------

/-- A limit that a row of the plan or the subscription sets is not negative. -/
theorem LetIn.nonnegative {now : Datetime}
    (h : db.LetIn scope now subscription startedAt endsAt entitlement) :
    nonnegativeLimit entitlement.limitValue = true := by
  have hEntitled := h.entitled
  rw [SubscriptionTables.entitlementFor_eq] at hEntitled
  unfold SubscriptionTables.effectiveEntitlement at hEntitled
  dsimp only at hEntitled
  -- the limit comes from the subscription's own row or from that of its plan, and both are
  -- constrained
  split at hEntitled
  · rename_i hOwn
    have hMem := Table.mem_of_find? hOwn
    obtain rfl := Option.some_injective _ hEntitled
    exact Table.checks_of_mem hMem
  · rename_i hPlan
    obtain ⟨planId, -, hFound⟩ := Option.bind_eq_some_iff.mp hPlan
    have hMem := Table.mem_of_find? hFound
    obtain rfl := Option.some_injective _ hEntitled
    exact Table.checks_of_mem hMem
  · cases hEntitled

/-- The period of active access is not empty. -/
theorem LetIn.period {now : Datetime}
    (h : db.LetIn scope now subscription startedAt endsAt entitlement) : startedAt < endsAt := by
  obtain ⟨s, e, hStart, hEnd, hs, he, -⟩ := evaluateAccess_active h.active
  obtain rfl := Option.some_injective _ (h.starts.symm.trans hs)
  obtain rfl := Option.some_injective _ (h.ends.symm.trans he)
  exact hStart.trans_lt hEnd

/-- Active access is to one period, whatever the instant. -/
theorem LetIn.same_period {now now' : Datetime}
    (h : db.LetIn scope now subscription startedAt endsAt entitlement)
    (hActive : (evaluateAccess subscription now').active = true) :
    (evaluateAccess subscription now').periodStartedAt = some startedAt ∧
      (evaluateAccess subscription now').periodEndsAt = some endsAt := by
  obtain ⟨s, e, -, -, hs, he, hStatus⟩ := evaluateAccess_active h.active
  obtain ⟨s', e', -, -, hs', he', hStatus'⟩ := evaluateAccess_active hActive
  obtain rfl := Option.some_injective _ (h.starts.symm.trans hs)
  obtain rfl := Option.some_injective _ (h.ends.symm.trans he)
  rw [hs', he']
  -- a trial and a paid subscription have different statuses, so the two evaluations read the same
  -- columns
  rcases hStatus with ⟨hTrial, hStart, hEnd⟩ | ⟨hPaid, hStart, hEnd⟩ <;>
    rcases hStatus' with ⟨hTrial', hStart', hEnd'⟩ | ⟨hPaid', hStart', hEnd'⟩
  · exact ⟨hStart'.symm.trans hStart, hEnd'.symm.trans hEnd⟩
  · rw [hTrial] at hPaid'
    cases hPaid'
  · rw [hPaid] at hTrial'
    cases hTrial'
  · exact ⟨hStart'.symm.trans hStart, hEnd'.symm.trans hEnd⟩

/-- The account of the period is there, or can be opened under a new identifier. -/
theorem LetIn.exists_account {now : Datetime}
    (h : db.LetIn scope now subscription startedAt endsAt entitlement) {accountId : Uuid}
    (hFresh : ∀ a ∈ db.accounts, a.id ≠ accountId) :
    ∃ found, db.accountForPeriod scope subscription startedAt endsAt entitlement.limitValue
      accountId = some found := by
  unfold accountForPeriod
  cases hFound : db.accounts.find? fun a =>
      decide (a.periodKey = (scope, subscription.id, .aiFullResponses, startedAt, endsAt)) with
  | some account => exact ⟨(db, account), rfl⟩
  | none =>
    let account : AICreditAccount :=
      { id := accountId
        businessId := scope
        subscriptionId := subscription.id
        entitlementKey := .aiFullResponses
        periodStartedAt := startedAt
        periodEndsAt := endsAt
        limitValue := entitlement.limitValue }
    -- the id is fresh, and no account has the key of the period
    have hApart : ∀ a ∈ db.accounts, Apart a account := by
      intro a ha
      exact ⟨hFresh a ha, Table.find?_eq_none.mp hFound a ha⟩
    have hBalanced : account.balanced = true := by
      have hLimit := h.nonnegative
      unfold nonnegativeLimit at hLimit
      show (decide ((0 : Int) ≤ 0 ∧ (0 : Int) ≤ 0) && entitlement.limitValue.all (0 + 0 ≤ ·)) = true
      rw [Int.add_zero, hLimit]
      rfl
    have hChecks : Schema.checks account = true := by
      show (decide (EntitlementKey.aiFullResponses = .aiFullResponses) &&
        decide (startedAt < endsAt) && nonnegativeLimit entitlement.limitValue &&
          account.balanced) = true
      rw [hBalanced, h.nonnegative, decide_eq_true h.period]
      rfl
    obtain ⟨accounts, hInsert⟩ := Table.exists_insert? hApart hChecks
    refine ⟨({ db with accounts }, account), ?_⟩
    dsimp only
    rw [hInsert]
    rfl

/-- An account that was just opened was not adjusted. -/
theorem adjustmentTotal_of_insert {account : AICreditAccount} {accounts : Table AICreditAccount}
    (hOwned : db.AdjustmentsOwned) (hInsert : db.accounts.insert? account = some accounts) :
    db.adjustmentTotal scope account = 0 := by
  have hNone : (db.adjustments.rows.filter fun j =>
      j.businessId == scope && j.accountId == account.id &&
        j.subscriptionId == account.subscriptionId) = [] := by
    refine List.filter_eq_nil_iff.mpr fun j hj hMatch => ?_
    simp only [Bool.and_eq_true, beq_iff_eq] at hMatch
    obtain ⟨a, ha, hId, -⟩ := hOwned j hj
    exact (Table.apart_of_insert? hInsert ha).1 (hId.trans hMatch.1.2)
  unfold adjustmentTotal
  rw [hNone]
  rfl

/-- A period has at most one account, the one with its key. -/
theorem periodAccount_eq_some {account : AICreditAccount} :
    db.periodAccount scope subscription startedAt endsAt = some account ↔
      account ∈ db.accounts ∧
        account.periodKey = (scope, subscription.id, .aiFullResponses, startedAt, endsAt) := by
  constructor
  · intro h
    have hSame := Table.prop_of_find? h
    exact ⟨Table.mem_of_find? h, of_decide_eq_true hSame⟩
  · rintro ⟨hMem, hKey⟩
    cases hFound : db.periodAccount scope subscription startedAt endsAt with
    | none => exact absurd hKey (of_decide_eq_false (Table.find?_eq_none.mp hFound account hMem))
    | some found =>
      have hFoundKey := Table.prop_of_find? hFound
      have hSame := (of_decide_eq_true hFoundKey).trans hKey.symm
      rw [Table.eq_of_clash (Table.mem_of_find? hFound) hMem (decide_eq_true hSame)]

/-- **One account, one limit.** The reservation counts what the report counts, against the limit
of the report. -/
theorem Opened.agrees {accounts : Table AICreditAccount} {account : AICreditAccount}
    {base : Option Int} (hOwned : db.AdjustmentsOwned) (hBase : nonnegativeLimit base = true)
    (h : db.Opened accounts account)
    (hKey : account.periodKey = (scope, subscription.id, .aiFullResponses, startedAt, endsAt)) :
    account.used = usedIn (db.periodAccount scope subscription startedAt endsAt) ∧
      effectiveLimit { db with accounts } scope account base =
        db.usageLimit scope (db.periodAccount scope subscription startedAt endsAt) base := by
  obtain ⟨rfl, hMem⟩ | ⟨hInsert, hReserved, hConsumed⟩ := h
  · rw [periodAccount_eq_some.mpr ⟨hMem, hKey⟩]
    exact ⟨rfl, rfl⟩
  · -- the reservation opens the account, so the report has seen none, and counts nothing as used
    have hNone : db.periodAccount scope subscription startedAt endsAt = none := by
      refine Table.find?_eq_none.mpr fun a ha => decide_eq_false fun hSame => ?_
      have hApart : decide (a.periodKey = account.periodKey) = false :=
        (Table.apart_of_insert? hInsert ha).2
      exact of_decide_eq_false hApart (hSame.trans hKey.symm)
    -- an adjustment needs its account, so a new account has none
    have hTotal := @adjustmentTotal_of_insert db scope account accounts hOwned hInsert
    rw [hNone]
    refine ⟨?_, ?_⟩
    · unfold AICreditAccount.used
      rw [hReserved, hConsumed]
      rfl
    · cases base with
      | none => rfl
      | some base =>
        have hLimit : 0 ≤ base := of_decide_eq_true hBase
        show (ensure (0 ≤ base + db.adjustmentTotal scope account) AICreditError.integrity >>=
          fun _ => .ok (some (base + db.adjustmentTotal scope account))) = .ok (some base)
        rw [hTotal, Int.add_zero, ensure_pos hLimit, ok_bind]

-- ---------------------------------------------------------------------------
-- A reservation against the report
-- ---------------------------------------------------------------------------

/-- `reserve` of a key without an entry: the body, where no constraint fails. -/
theorem reserve_of_new {sha256 : List UInt8 → Str} {key digest : Str} {now : Datetime}
    {accountId entryId : Uuid} (hDigest : digestAiIdempotencyKey sha256 key = .ok digest)
    (hNew : db.entryByDigest scope digest = none) :
    db.reserve scope sha256 key now accountId entryId =
      match db.reserveNew scope digest now accountId entryId with
      | .error .database => .error .integrity
      | outcome => outcome := by
  have hNone : db.existingSnapshot scope digest = .ok none := by
    unfold existingSnapshot
    rw [hNew]
  unfold reserve
  simp only [hDigest, hNone, bind, Except.bind]
  rfl

/-- A constraint that fails is no refusal for the limit. -/
theorem reserve_limit_iff {sha256 : List UInt8 → Str} {key digest : Str} {now : Datetime}
    {accountId entryId : Uuid} (hDigest : digestAiIdempotencyKey sha256 key = .ok digest)
    (hNew : db.entryByDigest scope digest = none) :
    db.reserve scope sha256 key now accountId entryId = .error .entitlementLimitReached ↔
      db.reserveNew scope digest now accountId entryId = .error .entitlementLimitReached := by
  rw [reserve_of_new hDigest hNew]
  cases hBody : db.reserveNew scope digest now accountId entryId with
  | ok outcome => exact Iff.rfl
  | error e => cases e <;> simp

/-- What the body of a reservation raises over the limit. -/
theorem LetIn.reserveNew {now : Datetime} {digest : Str} {accountId entryId : Uuid}
    (h : db.LetIn scope now subscription startedAt endsAt entitlement)
    (hOwned : db.AdjustmentsOwned) (hFresh : ∀ a ∈ db.accounts, a.id ≠ accountId) :
    match db.usageLimit scope (db.periodAccount scope subscription startedAt endsAt)
      entitlement.limitValue with
    | .error e => db.reserveNew scope digest now accountId entryId = .error e
    | .ok limit =>
      db.reserveNew scope digest now accountId entryId = .error .entitlementLimitReached ↔
        limit.all (usedIn (db.periodAccount scope subscription startedAt endsAt) < ·) = false := by
  obtain ⟨⟨db₁, account⟩, hAccount⟩ := h.exists_account hFresh
  obtain ⟨hOpen, hDb₁, hKey⟩ := accountForPeriod_opened hAccount
  obtain ⟨hUsed, hLimit⟩ := hOpen.agrees hOwned h.nonnegative hKey
  rw [← hDb₁] at hLimit
  rw [← hUsed, ← hLimit]
  unfold CreditTables.reserveNew
  simp only [h.current, h.active, h.starts, h.ends, h.entitled, h.enabled, hAccount, required_some,
    ok_bind, ensure_pos]
  cases hOutcome : db₁.effectiveLimit scope account entitlement.limitValue with
  | error e => rfl
  | ok limit =>
    simp only [ok_bind]
    cases hRoom : limit.all (account.used < ·) with
    | false =>
      rw [ensure_neg Bool.false_ne_true, bind_error]
      exact ⟨fun _ => rfl, fun _ => rfl⟩
    | true =>
      -- there is room: what can still fail is a constraint
      have hAtMost : limit.all (account.used ≤ ·) = true := by
        cases limit with
        | none => rfl
        | some l =>
          rw [Option.all_some, decide_eq_true_iff] at hRoom ⊢
          exact Int.le_of_lt hRoom
      rw [ensure_pos rfl, ok_bind, ensure_pos (Or.inr hAtMost), ok_bind]
      refine ⟨fun hRefused => ?_, fun hNone => by cases hNone⟩
      simp only [bind_eq_error, required_eq_error, pure, Except.pure, reduceCtorEq, and_false,
        exists_false, or_false] at hRefused

-- ---------------------------------------------------------------------------
-- One reservation after the other
-- ---------------------------------------------------------------------------

/-- A call of `reserve`, with the identifiers that are drawn for its rows. -/
structure ReserveCall where
  idempotencyKey : Str
  reservedAt : Datetime
  accountId : Uuid
  entryId : Uuid

/-- Successful reservations of one business under new keys, with nothing in between. -/
inductive Reserved (sha256 : List UInt8 → Str) (scope : Uuid) :
    CreditTables → List ReserveCall → CreditTables → Prop
  | nil (db : CreditTables) : Reserved sha256 scope db [] db
  | cons {db db₁ db' : CreditTables} {call : ReserveCall} {calls : List ReserveCall}
      {snapshot : AICreditLedgerSnapshot}
      (hReserve : db.reserve scope sha256 call.idempotencyKey call.reservedAt call.accountId
        call.entryId = .ok (db₁, snapshot))
      (hNew : snapshot.replayed = false)
      (hRest : Reserved sha256 scope db₁ calls db') : Reserved sha256 scope db (call :: calls) db'

/-- Everything a new reservation does to what is reported: it is of a business that is let in, and
takes one more credit of its period, for which there was room under the same limit. -/
theorem ReservesNew.usage {digest : Str} {reservedAt now : Datetime} {entryId : Uuid}
    {db' : CreditTables} {snapshot : AICreditLedgerSnapshot} (hOwned : db.AdjustmentsOwned)
    (h : db.ReservesNew scope digest reservedAt entryId db' snapshot)
    (hIn : db.LetIn scope now subscription startedAt endsAt entitlement) :
    db'.LetIn scope now subscription startedAt endsAt entitlement ∧
      usedIn (db'.periodAccount scope subscription startedAt endsAt) =
        usedIn (db.periodAccount scope subscription startedAt endsAt) + 1 ∧
      ∃ limit, db.usageLimit scope (db.periodAccount scope subscription startedAt endsAt)
          entitlement.limitValue = .ok limit ∧
        db'.usageLimit scope (db'.periodAccount scope subscription startedAt endsAt)
          entitlement.limitValue = .ok limit ∧
        limit.all (usedIn (db.periodAccount scope subscription startedAt endsAt) < ·) = true := by
  obtain ⟨subscription', startedAt', endsAt', entitlement', accounts, account, limit, hSubscription,
    hActive, hStart, hEnd, hEntitlement, hOpen, hKey, hLimit, hRoom, hAccounts, -, hRest, -⟩ := h
  -- it reads the subscription, the period and the entitlement of the report
  obtain rfl := Option.some_injective _ (hSubscription.symm.trans hIn.current)
  obtain rfl := Option.some_injective _ (hEntitlement.symm.trans hIn.entitled)
  obtain ⟨hStarts, hEnds⟩ := hIn.same_period hActive
  obtain rfl := Option.some_injective _ (hStart.symm.trans hStarts)
  obtain rfl := Option.some_injective _ (hEnd.symm.trans hEnds)
  obtain ⟨hUsed, hAgrees⟩ := hOpen.agrees hOwned hIn.nonnegative hKey
  -- and leaves the account of the period with one credit more
  have hWritten : db'.periodAccount scope subscription' startedAt' endsAt' = some
      { account with limitValue := limit, reservedCount := account.reservedCount + 1 } :=
    periodAccount_eq_some.mpr ⟨(Table.mem_update?_iff hAccounts hOpen.mem rfl).mpr (.inl rfl), hKey⟩
  have hTables : db'.toSubscriptionTables = db.toSubscriptionTables := by rw [hRest]
  have hAdjustments : db'.adjustments = db.adjustments := by rw [hRest]
  refine ⟨⟨?_, hIn.active, hStarts ▸ hIn.starts, hIn.ends, ?_, hIn.enabled⟩, ?_, limit, ?_, ?_, ?_⟩
  · rw [hTables]
    exact hIn.current
  · rw [hTables]
    exact hIn.entitled
  · rw [hWritten, ← hUsed]
    show account.reservedCount + 1 + account.consumedCount =
      account.reservedCount + account.consumedCount + 1
    omega
  · rw [← hAgrees]
    exact hLimit
  · rw [hWritten, ← hLimit]
    unfold usageLimit effectiveLimit adjustmentTotal
    rw [hAdjustments]
  · rw [← hUsed]
    exact hRoom

/-- A new reservation leaves every adjustment with its account. -/
theorem ReservesNew.owned {digest : Str} {reservedAt : Datetime} {entryId : Uuid}
    {db' : CreditTables} {snapshot : AICreditLedgerSnapshot} (hOwned : db.AdjustmentsOwned)
    (h : db.ReservesNew scope digest reservedAt entryId db' snapshot) : db'.AdjustmentsOwned := by
  have hMove := h.move
  obtain ⟨subscription, startedAt, endsAt, entitlement, accounts, account, limit, -, -, -, -, -, -, -,
    -, -, -, -, hRest, -⟩ := h
  intro j hj
  rw [hRest] at hj
  exact hOwned.of_move hMove hj

/-- **Reservations and the report.** Each reservation takes one off what remains. -/
theorem Reserved.remaining {sha256 : List UInt8 → Str} {calls : List ReserveCall}
    {db' : CreditTables} {now : Datetime} (hOwned : db.AdjustmentsOwned)
    (h : Reserved sha256 scope db calls db')
    (hIn : db.LetIn scope now subscription startedAt endsAt entitlement) {limit : Option Int}
    (hLimit : db.usageLimit scope (db.periodAccount scope subscription startedAt endsAt)
      entitlement.limitValue = .ok limit) :
    db'.LetIn scope now subscription startedAt endsAt entitlement ∧
      db'.usageLimit scope (db'.periodAccount scope subscription startedAt endsAt)
        entitlement.limitValue = .ok limit ∧
      ∀ l, limit = some l →
        max (l - usedIn (db'.periodAccount scope subscription startedAt endsAt)) 0 =
          max (l - usedIn (db.periodAccount scope subscription startedAt endsAt)) 0 -
            calls.length := by
  induction h with
  | nil db => exact ⟨hIn, hLimit, fun l _ => (Int.sub_zero _).symm⟩
  | @cons db db₁ db' call calls snapshot hReserve hNew hRest ih =>
    obtain ⟨digest, -, ⟨-, hReplay⟩ | ⟨-, hBody⟩⟩ := reserve_eq_ok hReserve
    · -- a replay says so
      obtain ⟨entry, account, -, -, rfl⟩ := existingSnapshot_eq_some hReplay
      cases hNew
    obtain ⟨hIn₁, hUsed₁, limit₁, hBefore, hAfter, hRoom⟩ := hBody.usage hOwned hIn
    obtain rfl := Except.ok.inj (hLimit.symm.trans hBefore)
    obtain ⟨hIn', hLimit', hRemaining⟩ := ih (hBody.owned hOwned) hIn₁ hAfter
    refine ⟨hIn', hLimit', fun l hl => ?_⟩
    have hLess : usedIn (db.periodAccount scope subscription startedAt endsAt) < l := by
      rw [hl, Option.all_some, decide_eq_true_iff] at hRoom
      exact hRoom
    rw [hRemaining l hl, hUsed₁, List.length_cons]
    push_cast
    omega

/-- Access without its period. -/
theorem letIn {now : Datetime} (hCurrent : db.getCurrent scope = some subscription)
    (hActive : (evaluateAccess subscription now).active = true)
    (hEntitled : db.entitlementFor scope subscription .aiFullResponses = some entitlement)
    (hEnabled : entitlement.isEnabled = true) :
    ∃ startedAt endsAt, db.LetIn scope now subscription startedAt endsAt entitlement := by
  obtain ⟨s, e, -, -, hStart, hEnd, -⟩ := evaluateAccess_active hActive
  exact ⟨s, e, hCurrent, hActive, hStart, hEnd, hEntitled, hEnabled⟩

/-- The report of a key that is new against the reservation of it. -/
theorem LetIn.report_iff {sha256 : List UInt8 → Str} {now : Datetime} {key digest : Str}
    {accountId : Uuid} (h : db.LetIn scope now subscription startedAt endsAt entitlement)
    (hOwned : db.AdjustmentsOwned) (hDigest : digestAiIdempotencyKey sha256 key = .ok digest)
    (hNew : db.entryByDigest scope digest = none) (hFresh : ∀ a ∈ db.accounts, a.id ≠ accountId)
    (limit offset : Nat) (entryId : Uuid) :
    match db.usageHistory scope limit offset now with
    | .error e => e = .integrity ∧
      db.reserve scope sha256 key now accountId entryId = .error .integrity
    | .ok history => history.current.remaining.all (0 < ·) = true ↔
      db.reserve scope sha256 key now accountId entryId ≠ .error .entitlementLimitReached := by
  have hReport := h.usageHistory limit offset
  have hBody := @LetIn.reserveNew db scope subscription startedAt endsAt entitlement now digest
    accountId entryId h hOwned hFresh
  have hLimitIff := @reserve_limit_iff db scope sha256 key digest now accountId entryId hDigest hNew
  -- the report and the reservation compute the same limit, or fail in the same way
  cases hUsage : db.usageLimit scope (db.periodAccount scope subscription startedAt endsAt)
      entitlement.limitValue with
  | error e =>
    obtain rfl := usageLimit_error hUsage
    rw [hUsage] at hReport hBody
    cases hHistory : db.usageHistory scope limit offset now with
    | ok history =>
      rw [hHistory] at hReport
      cases hReport
    | error e =>
      rw [hHistory] at hReport
      refine ⟨Except.error.inj hReport, ?_⟩
      rw [reserve_of_new hDigest hNew, hBody]
  | ok effective =>
    rw [hUsage] at hReport hBody
    cases hHistory : db.usageHistory scope limit offset now with
    | error e =>
      rw [hHistory] at hReport
      cases hReport
    | ok history =>
      rw [hHistory] at hReport
      have hRemaining : history.current.remaining = effective.map fun l =>
          max (l - usedIn (db.periodAccount scope subscription startedAt endsAt)) 0 :=
        Except.ok.inj hReport
      have hRefused : db.reserveNew scope digest now accountId entryId =
          .error .entitlementLimitReached ↔ effective.all
            (usedIn (db.periodAccount scope subscription startedAt endsAt) < ·) = false := hBody
      show history.current.remaining.all (0 < ·) = true ↔ _
      rw [Ne, hLimitIff, hRefused, hRemaining, Bool.not_eq_false]
      -- without a limit nothing is refused
      cases effective with
      | none => exact ⟨fun _ => rfl, fun _ => rfl⟩
      | some l =>
        rw [Option.map_some, Option.all_some, Option.all_some, decide_eq_true_iff,
          decide_eq_true_iff]
        omega

end CreditTables

namespace AiDatabase

/-- **The report and the reservation.** After every run, for a business with active access and an
enabled entitlement: the report shows no limit or credits left if and only if a reservation under
a new key is not refused for the limit, and where the report fails the reservation fails like it;
and every reservation under a new key takes one off what the report shows. -/
theorem usage_agrees (sha256 : List UInt8 → Str) (start : AiDatabase) (as : List CreditAction)
    (scope : Uuid) (now : Datetime) (subscription : Subscription)
    (entitlement : EffectiveEntitlement) :
    let db := (run (creditStep sha256) start.withoutCredits as).toCreditTables
    db.getCurrent scope = some subscription →
    (evaluateAccess subscription now).active = true →
    db.entitlementFor scope subscription .aiFullResponses = some entitlement →
    entitlement.isEnabled = true →
      (∀ limit offset key digest accountId entryId,
        digestAiIdempotencyKey sha256 key = .ok digest → db.entryByDigest scope digest = none →
        (∀ a ∈ db.accounts, a.id ≠ accountId) →
          match db.usageHistory scope limit offset now with
          | .error e => e = .integrity ∧
            db.reserve scope sha256 key now accountId entryId = .error .integrity
          | .ok history => history.current.remaining.all (0 < ·) = true ↔
            db.reserve scope sha256 key now accountId entryId ≠ .error .entitlementLimitReached) ∧
      ∀ limit offset history remaining calls db',
        db.usageHistory scope limit offset now = .ok history →
        history.current.remaining = some remaining →
        CreditTables.Reserved sha256 scope db calls db' →
          ∀ limit' offset' now', (evaluateAccess subscription now').active = true →
            ∃ history', db'.usageHistory scope limit' offset' now' = .ok history' ∧
              history'.current.remaining = some (remaining - calls.length) := by
  intro db hCurrent hActive hEntitled hEnabled
  have hOwned : db.AdjustmentsOwned := run_owned sha256 start as
  obtain ⟨startedAt, endsAt, hIn⟩ := CreditTables.letIn hCurrent hActive hEntitled hEnabled
  refine ⟨fun limit offset key digest accountId entryId hDigest hNew hFresh =>
    hIn.report_iff hOwned hDigest hNew hFresh limit offset entryId, ?_⟩
  intro limit offset history remaining calls db' hHistory hRemaining hReserved limit' offset' now'
    hActive'
  have hReport := hIn.usageHistory limit offset
  rw [hHistory] at hReport
  cases hUsage : db.usageLimit scope (db.periodAccount scope subscription startedAt endsAt)
      entitlement.limitValue with
  | error e =>
    rw [hUsage] at hReport
    cases hReport
  | ok effective =>
    rw [hUsage] at hReport
    -- each reservation takes one and leaves the limit and the period as they are
    obtain ⟨hIn', hUsage', hTaken⟩ := hReserved.remaining hOwned hIn hUsage
    obtain ⟨hStarts', hEnds'⟩ := hIn'.same_period hActive'
    have hAfter : db'.LetIn scope now' subscription startedAt endsAt entitlement :=
      ⟨hIn'.current, hActive', hStarts', hEnds', hIn'.entitled, hIn'.enabled⟩
    have hReport' := hAfter.usageHistory limit' offset'
    rw [hUsage'] at hReport'
    -- the later report is computed from the same limit
    cases hHistory' : db'.usageHistory scope limit' offset' now' with
    | error e =>
      rw [hHistory'] at hReport'
      cases hReport'
    | ok history' =>
      rw [hHistory'] at hReport'
      refine ⟨history', rfl, ?_⟩
      have hBefore : some remaining = effective.map fun l =>
          max (l - CreditTables.usedIn (db.periodAccount scope subscription startedAt endsAt)) 0 :=
        hRemaining.symm.trans (Except.ok.inj hReport)
      have hNow : history'.current.remaining = effective.map fun l =>
          max (l - CreditTables.usedIn (db'.periodAccount scope subscription startedAt endsAt)) 0 :=
        Except.ok.inj hReport'
      cases effective with
      | none => cases hBefore
      | some l =>
        rw [hNow, Option.map_some, hTaken l rfl, Option.some_injective _ hBefore]

namespace UsageSample

/-- SHA-256 on the keys of the runs, `key-1` to `key-4`. -/
def sha256 (bytes : List UInt8) : Str :=
  match bytes.getLast? with
  | some 0x31 => str "be2974546978e3739e6d6da85c4be9f334ce32df2b9fd4b6ff1b55c0d57e9d44"
  | some 0x32 => str "7c36b0a9dedde119c75165957c6c9c187e65df1ee5db87c4c58ad503ad88cbe3"
  | some 0x33 => str "d9ef8196557c9da69806fb5d777f4e5ad6d5c18593039e0ff62f9fdf003b0198"
  | _ => str "f5404d68a86b01ee138f6d135cb9952fc6f804f5ab4104a8d4a5fb06e4e1b197"

/-- A trial until second 100. -/
def subscription : Subscription where
  id := 1
  businessId := 1
  createdAt := 0
  status := .trialing
  trialStartedAt := some 0
  trialEndsAt := some (seconds 100)

def entitlement (limit : Nat) : EffectiveEntitlement := ⟨.aiFullResponses, true, some limit, .trial⟩

def start (limit : Nat) : AiDatabase where
  subscriptions := .single subscription (by decide)
  subscriptionEntitlements := .single
    { id := 2, businessId := 1, subscriptionId := 1, key := .aiFullResponses, source := .trial,
      limitValue := some limit } (decide_eq_true (Int.natCast_nonneg limit))

/-- One response is consumed, one is released, and one stays reserved. -/
def calls : List CreditAction :=
  [.reserve 1 (str "key-1") (seconds 1) 1 1, .consume 1 1 (seconds 2),
    .reserve 1 (str "key-2") (seconds 3) 2 2, .release 1 2 (str "provider_failed") (seconds 4),
    .reserve 1 (str "key-3") (seconds 5) 3 3]

def db (limit : Nat) : AiDatabase := run (creditStep sha256) (start limit).withoutCredits calls

end UsageSample
open UsageSample in
/-- A trial of 15 responses in a run, before and after one more reservation; and a trial of two
responses, which are used up. -/
theorem usage_agrees_sample :
    (∃ history db' snapshot history', (db 15).usageHistory 1 20 0 (seconds 6) = .ok history ∧
      history.current.remaining = some 13 ∧
      (db 15).reserve 1 sha256 (str "key-4") (seconds 6) 4 4 = .ok (db', snapshot) ∧
      db'.usageHistory 1 20 0 (seconds 7) = .ok history' ∧
      history'.current.remaining = some 12) ∧
    ∃ history, (db 2).usageHistory 1 20 0 (seconds 6) = .ok history ∧
      history.current.remaining = some 0 ∧
      (db 2).reserve 1 sha256 (str "key-4") (seconds 6) 4 4 = .error .entitlementLimitReached := by
  -- two reservations have been made, under a limit of fifteen and under one of two
  have hRuns : ∀ limit ∈ [15, 2],
      ((db limit).entryByDigest 1 (sha256 [0x34])).isNone = true ∧
      (∀ a ∈ (db limit).accounts.rows, a.id ≠ 4) ∧
      ((db limit).usageHistory 1 20 0 (seconds 6)).toOption.map (·.current.remaining) =
        some (some ((limit : Int) - 2)) := by
    decide +kernel
  have hReserves : ((db 15).reserve 1 sha256 (str "key-4") (seconds 6) 4 4).toOption.map
      (·.2.replayed) = some false := by
    decide +kernel
  have hDigest : digestAiIdempotencyKey sha256 (str "key-4") = .ok (sha256 [0x34]) := by
    decide +kernel
  have hHistory : ∀ limit ∈ [15, 2], ∃ history,
      (db limit).usageHistory 1 20 0 (seconds 6) = .ok history ∧
        history.current.remaining = some ((limit : Int) - 2) := by
    intro limit hLimit
    obtain ⟨-, -, hReport⟩ := hRuns limit hLimit
    cases hHistory : (db limit).usageHistory 1 20 0 (seconds 6) with
    | error e =>
      rw [hHistory] at hReport
      cases hReport
    | ok history =>
      rw [hHistory] at hReport
      exact ⟨history, rfl, Option.some_injective _ hReport⟩
  constructor
  · obtain ⟨history, hReport, hRemaining⟩ := hHistory 15 (by simp)
    obtain ⟨-, hTaken⟩ := usage_agrees sha256 (start 15) calls 1 (seconds 6) subscription
      (entitlement 15) rfl (by decide) rfl rfl
    cases hReserve : (db 15).reserve 1 sha256 (str "key-4") (seconds 6) 4 4 with
    | error e =>
      rw [hReserve] at hReserves
      cases hReserves
    | ok done =>
      obtain ⟨db', snapshot⟩ := done
      rw [hReserve] at hReserves
      -- a third reservation takes one of the thirteen that are left
      have hReserved : CreditTables.Reserved sha256 1 (db 15).toCreditTables
          [⟨str "key-4", seconds 6, 4, 4⟩] db' :=
        .cons hReserve (Option.some_injective _ hReserves) (.nil db')
      obtain ⟨history', hReport', hRemaining'⟩ := hTaken 20 0 history 13 _ db' hReport hRemaining
        hReserved 20 0 (seconds 7) (by decide)
      exact ⟨history, db', snapshot, history', hReport, hRemaining, rfl, hReport', hRemaining'⟩
  · obtain ⟨hNew, hFresh, -⟩ := hRuns 2 (by simp)
    obtain ⟨history, hReport, hRemaining⟩ := hHistory 2 (by simp)
    obtain ⟨hIff, -⟩ := usage_agrees sha256 (start 2) calls 1 (seconds 6) subscription
      (entitlement 2) rfl (by decide) rfl rfl
    -- nothing is left, so the third one is refused
    have hRefused := hIff 20 0 (str "key-4") (sha256 [0x34]) 4 4 hDigest
      (Option.isNone_iff_eq_none.mp hNew) hFresh
    have hReport' : (run (creditStep sha256) (start 2).withoutCredits calls).usageHistory 1 20 0
        (seconds 6) = .ok history := hReport
    rw [hReport'] at hRefused
    refine ⟨history, hReport, hRemaining, ?_⟩
    by_contra hReserved
    have hLeft := hRefused.mpr hReserved
    rw [hRemaining] at hLeft
    exact absurd hLeft (by decide)

end AiDatabase

end SpikeBackend
