import Mathlib.Algebra.Ring.Int.Defs
import SpikeBackend.Lib.StableSort
import SpikeBackend.Model.Subscriptions

/-!
# AI credits

Accounts, ledger entries and adjustments (`app/models/ai.py`) with their constraints,
and `AICreditService` (`app/services/ai_credits.py`). Each locked transaction is one
function from the committed database to the next one; an exception leaves the
database as it was, since the service rolls back before it raises. What the code
draws from outside (the clock, `uuid4`, SHA-256) comes in as an argument.
-/

namespace SpikeBackend

open Relational Text Outcome

inductive AICreditLedgerStatus
  | reserved
  | consumed
  | released
  deriving DecidableEq, Repr

inductive AICreditAdjustmentReason
  | supportCredit
  | serviceRecovery
  | billingCorrection
  | administrativeCorrection
  | fraudReversal
  deriving DecidableEq, Repr

def AICreditAdjustmentReason.value : AICreditAdjustmentReason → Str
  | .supportCredit => str "support_credit"
  | .serviceRecovery => str "service_recovery"
  | .billingCorrection => str "billing_correction"
  | .administrativeCorrection => str "administrative_correction"
  | .fraudReversal => str "fraud_reversal"

/-- PostgreSQL `trim`, which drops spaces only. -/
def sqlTrim (s : Str) : Str := trimBy (·.val == 0x20) s

/-- `char_length(trim(s)) BETWEEN 1 AND n`. -/
def trimmedBetween (n : Nat) (s : Str) : Bool :=
  decide (1 ≤ (sqlTrim s).length ∧ (sqlTrim s).length ≤ n)

structure AICreditAccount where
  id : Uuid
  businessId : Uuid
  subscriptionId : Uuid
  entitlementKey : EntitlementKey
  periodStartedAt : Datetime
  periodEndsAt : Datetime
  limitValue : Option Int := none
  reservedCount : Int := 0
  consumedCount : Int := 0

namespace AICreditAccount

/-- The columns of `uq_ai_credit_accounts_subscription_period`. -/
def periodKey (a : AICreditAccount) : Uuid × Uuid × EntitlementKey × Datetime × Datetime :=
  (a.businessId, a.subscriptionId, a.entitlementKey, a.periodStartedAt, a.periodEndsAt)

def used (a : AICreditAccount) : Int := a.reservedCount + a.consumedCount

/-- The account of an entry that leaves `reserved` for `status`. -/
def settle (a : AICreditAccount) : AICreditLedgerStatus → AICreditAccount
  | .reserved => a
  | .consumed =>
    { a with reservedCount := a.reservedCount - 1, consumedCount := a.consumedCount + 1 }
  | .released => { a with reservedCount := a.reservedCount - 1 }

/-- `ck_ai_credit_accounts_balance`. -/
def balanced (a : AICreditAccount) : Bool :=
  decide (0 ≤ a.reservedCount ∧ 0 ≤ a.consumedCount) && a.limitValue.all (a.used ≤ ·)

end AICreditAccount

instance : Schema AICreditAccount Uuid where
  key := AICreditAccount.id
  clash a b := decide (a.periodKey = b.periodKey)
  checks a :=
    decide (a.entitlementKey = .aiFullResponses) && decide (a.periodStartedAt < a.periodEndsAt) &&
      nonnegativeLimit a.limitValue && a.balanced
  clash_comm _ _ := decide_eq_decide.mpr eq_comm

structure AICreditLedgerEntry where
  id : Uuid
  businessId : Uuid
  accountId : Uuid
  subscriptionId : Uuid
  entitlementKey : EntitlementKey
  idempotencyKeyDigest : Str
  status : AICreditLedgerStatus := .reserved
  quantity : Int := 1
  reservedAt : Datetime
  consumedAt : Option Datetime := none
  releasedAt : Option Datetime := none
  releaseReason : Option Str := none

namespace AICreditLedgerEntry

/-- `ck_ai_credit_ledger_entries_status_fields`. -/
def statusFields (e : AICreditLedgerEntry) : Bool :=
  match e.status with
  | .reserved => e.consumedAt.isNone && e.releasedAt.isNone && e.releaseReason.isNone
  | .consumed => e.consumedAt.isSome && e.releasedAt.isNone && e.releaseReason.isNone
  | .released => e.consumedAt.isNone && e.releasedAt.isSome && e.releaseReason.any (trimmedBetween 255)

/-- `ck_ai_credit_ledger_entries_timestamps`. -/
def timestamps (e : AICreditLedgerEntry) : Bool :=
  e.consumedAt.all (e.reservedAt ≤ ·) && e.releasedAt.all (e.reservedAt ≤ ·)

/-- The entry as a consumption leaves it. -/
def markConsumed (e : AICreditLedgerEntry) (consumedAt : Datetime) : AICreditLedgerEntry :=
  { e with
    status := .consumed
    consumedAt := some consumedAt
    releasedAt := none
    releaseReason := none }

/-- The entry as a release leaves it. -/
def markReleased (e : AICreditLedgerEntry) (reason : Str) (releasedAt : Datetime) :
    AICreditLedgerEntry :=
  { e with
    status := .released
    consumedAt := none
    releasedAt := some releasedAt
    releaseReason := some reason }

end AICreditLedgerEntry

instance : Schema AICreditLedgerEntry Uuid where
  key := AICreditLedgerEntry.id
  clash a b :=
    decide (a.businessId = b.businessId ∧ a.idempotencyKeyDigest = b.idempotencyKeyDigest)
  checks e :=
    decide (e.entitlementKey = .aiFullResponses) && decide (e.quantity = 1) &&
      decide (e.idempotencyKeyDigest.length = 64) && e.statusFields && e.timestamps
  clash_comm a b := decide_eq_decide.mpr (by rw [eq_comm, eq_comm (a := a.idempotencyKeyDigest)])

structure AICreditAdjustmentLedgerEntry where
  id : Uuid
  businessId : Uuid
  accountId : Uuid
  subscriptionId : Uuid
  entitlementKey : EntitlementKey
  actorUserId : Uuid
  idempotencyKeyDigest : Str
  delta : Int
  reasonCode : AICreditAdjustmentReason
  requestId : Option Str
  baseLimitValue : Int
  effectiveLimitBefore : Int
  effectiveLimitAfter : Int
  reservedCount : Int
  consumedCount : Int
  adjustedAt : Datetime

instance : Schema AICreditAdjustmentLedgerEntry Uuid where
  key := AICreditAdjustmentLedgerEntry.id
  clash a b :=
    decide (a.businessId = b.businessId ∧ a.idempotencyKeyDigest = b.idempotencyKeyDigest)
  checks a :=
    decide (a.entitlementKey = .aiFullResponses) &&
      decide (a.delta ≠ 0 ∧ -1000 ≤ a.delta ∧ a.delta ≤ 1000) &&
      decide (a.idempotencyKeyDigest.length = 64) &&
      decide (0 ≤ a.baseLimitValue ∧ 0 ≤ a.effectiveLimitBefore ∧ 0 ≤ a.effectiveLimitAfter) &&
      decide (a.effectiveLimitAfter = a.effectiveLimitBefore + a.delta) &&
      decide (0 ≤ a.reservedCount ∧ 0 ≤ a.consumedCount ∧
        a.reservedCount + a.consumedCount ≤ a.effectiveLimitBefore ∧
        a.reservedCount + a.consumedCount ≤ a.effectiveLimitAfter)
  clash_comm a b := decide_eq_decide.mpr (by rw [eq_comm, eq_comm (a := a.idempotencyKeyDigest)])

/-- The tables of AI credits, with the subscription rows they are granted by. -/
structure CreditTables extends SubscriptionTables where
  accounts : Table AICreditAccount := .empty
  ledger : Table AICreditLedgerEntry := .empty
  adjustments : Table AICreditAdjustmentLedgerEntry := .empty

/-- What the credit service raises; `database` is the driver's `IntegrityError`. -/
inductive AICreditError
  | idempotencyKey
  | unicodeEncode
  | releaseReason
  | reservationNotFound
  | stateConflict
  | integrity
  | subscriptionRequired
  | subscriptionInactive (reason : Str)
  | entitlementDenied
  | entitlementLimitReached
  | database
  deriving DecidableEq

structure AICreditLedgerSnapshot where
  entryId : Uuid
  accountId : Uuid
  businessId : Uuid
  subscriptionId : Uuid
  status : AICreditLedgerStatus
  limitValue : Option Int
  reservedCount : Int
  consumedCount : Int
  remaining : Option Int
  periodStartedAt : Datetime
  periodEndsAt : Datetime
  reservedAt : Datetime
  consumedAt : Option Datetime
  releasedAt : Option Datetime
  releaseReason : Option Str
  replayed : Bool

structure AICreditUsageSummary where
  accountId : Option Uuid
  subscriptionId : Uuid
  businessId : Uuid
  limitValue : Option Int
  reservedCount : Int
  consumedCount : Int
  remaining : Option Int
  periodStartedAt : Datetime
  periodEndsAt : Datetime

structure AICreditUsageHistory where
  current : AICreditUsageSummary
  items : List AICreditLedgerEntry
  total : Nat
  limit : Nat
  offset : Nat

-- ---------------------------------------------------------------------------
-- Normalisation
-- ---------------------------------------------------------------------------

def aiIdempotencyKeyMaxLength : Nat := 255

def aiReleaseReasonMaxLength : Nat := 255

/-- `digest_ai_idempotency_key`, over the standard library's SHA-256. -/
def digestAiIdempotencyKey (sha256 : List UInt8 → Str) (idempotencyKey : Str) :
    Except AICreditError Str := do
  let normalized := strip idempotencyKey
  ensure (normalized ≠ [] ∧ normalized.length ≤ aiIdempotencyKeyMaxLength) .idempotencyKey
  let encoded ← required (encode? normalized) .unicodeEncode
  return sha256 encoded

def normalizeAiReleaseReason (reason : Str) : Except AICreditError Str := do
  let normalized := strip reason
  ensure (normalized ≠ [] ∧ normalized.length ≤ aiReleaseReasonMaxLength) .releaseReason
  return normalized

-- ---------------------------------------------------------------------------
-- The service
-- ---------------------------------------------------------------------------

namespace CreditTables

/-- `_snapshot`. -/
def snapshotOf (entry : AICreditLedgerEntry) (account : AICreditAccount) (replayed : Bool) :
    AICreditLedgerSnapshot where
  entryId := entry.id
  accountId := account.id
  businessId := entry.businessId
  subscriptionId := entry.subscriptionId
  status := entry.status
  limitValue := account.limitValue
  reservedCount := account.reservedCount
  consumedCount := account.consumedCount
  remaining := account.limitValue.map (· - account.used)
  periodStartedAt := account.periodStartedAt
  periodEndsAt := account.periodEndsAt
  reservedAt := entry.reservedAt
  consumedAt := entry.consumedAt
  releasedAt := entry.releasedAt
  releaseReason := entry.releaseReason
  replayed := replayed

variable (db : CreditTables) (scope : Uuid)

/-- `coalesce(sum(delta), 0)` over the account's adjustments. -/
def adjustmentTotal (account : AICreditAccount) : Int :=
  ((db.adjustments.rows.filter fun a =>
    a.businessId == scope && a.accountId == account.id &&
      a.subscriptionId == account.subscriptionId).map (·.delta)).sum

/-- `_effective_limit`. -/
def effectiveLimit (account : AICreditAccount) (baseLimit : Option Int) :
    Except AICreditError (Option Int) :=
  match baseLimit with
  | none => .ok none
  | some base => do
    let effective := base + db.adjustmentTotal scope account
    ensure (0 ≤ effective) .integrity
    return some effective

/-- `_entry_by_digest_for_update`. -/
def entryByDigest (digest : Str) : Option AICreditLedgerEntry :=
  db.ledger.find? fun e => e.businessId == scope && e.idempotencyKeyDigest == digest

/-- `_entry_by_id_for_update`. -/
def entryById (entryId : Uuid) : Option AICreditLedgerEntry :=
  db.ledger.find? fun e => e.businessId == scope && e.id == entryId

/-- `_account_for_entry_for_update`: the query, before the check that it found a row. -/
def accountForEntry (entry : AICreditLedgerEntry) : Option AICreditAccount :=
  db.accounts.find? fun a =>
    a.businessId == scope && a.id == entry.accountId && a.subscriptionId == entry.subscriptionId

/-- `_existing_snapshot`. -/
def existingSnapshot (digest : Str) : Except AICreditError (Option AICreditLedgerSnapshot) :=
  match db.entryByDigest scope digest with
  | none => .ok none
  | some entry => do
    let account ← required (db.accountForEntry scope entry) .integrity
    return some (snapshotOf entry account true)

/-- The account of the subscription's period, opened with `limitValue` when there is
none; `none` is an integrity error of the flush. -/
def accountForPeriod (subscription : Subscription) (startedAt endsAt : Datetime)
    (limitValue : Option Int) (accountId : Uuid) : Option (CreditTables × AICreditAccount) :=
  match db.accounts.find? fun a =>
    decide (a.periodKey = (scope, subscription.id, .aiFullResponses, startedAt, endsAt)) with
  | some account => some (db, account)
  | none =>
    let account : AICreditAccount :=
      { id := accountId
        businessId := scope
        subscriptionId := subscription.id
        entitlementKey := .aiFullResponses
        periodStartedAt := startedAt
        periodEndsAt := endsAt
        limitValue := limitValue }
    (db.accounts.insert? account).map fun accounts => ({ db with accounts }, account)

/-- The body of `reserve` once no entry of the key is found. The entry is looked up
again after the subscription lock; in an atomic step that reads the same rows. -/
def reserveNew (digest : Str) (reservedAt : Datetime) (accountId entryId : Uuid) :
    Except AICreditError (CreditTables × AICreditLedgerSnapshot) := do
  let subscription ← required (db.getCurrent scope) .subscriptionRequired
  let access := evaluateAccess subscription reservedAt
  ensure (access.active = true) (.subscriptionInactive access.reason)
  let startedAt ← required access.periodStartedAt .integrity
  let endsAt ← required access.periodEndsAt .integrity
  let entitlement ← required (db.entitlementFor scope subscription .aiFullResponses)
    .entitlementDenied
  ensure (entitlement.isEnabled = true) .entitlementDenied
  let (db₁, account) ← required
    (db.accountForPeriod scope subscription startedAt endsAt entitlement.limitValue accountId)
    .database
  let currentLimit ← db₁.effectiveLimit scope account entitlement.limitValue
  ensure (currentLimit.all (account.used < ·) = true) .entitlementLimitReached
  ensure (account.limitValue = currentLimit ∨ currentLimit.all (account.used ≤ ·) = true)
    .entitlementLimitReached
  let account' : AICreditAccount :=
    { account with limitValue := currentLimit, reservedCount := account.reservedCount + 1 }
  let entry : AICreditLedgerEntry :=
    { id := entryId
      businessId := scope
      accountId := account.id
      subscriptionId := subscription.id
      entitlementKey := .aiFullResponses
      idempotencyKeyDigest := digest
      reservedAt := reservedAt }
  let accounts ← required (db₁.accounts.update? account') .database
  let ledger ← required (db₁.ledger.insert? entry) .database
  return ({ db₁ with accounts, ledger }, snapshotOf entry account' false)

/-- `reserve`: an integrity error of the database is answered with the entry that
caused it, if there is one. -/
def reserve (sha256 : List UInt8 → Str) (idempotencyKey : Str) (reservedAt : Datetime)
    (accountId entryId : Uuid) : Except AICreditError (CreditTables × AICreditLedgerSnapshot) := do
  let digest ← digestAiIdempotencyKey sha256 idempotencyKey
  match ← db.existingSnapshot scope digest with
  | some snapshot => return (db, snapshot)
  | none =>
    match db.reserveNew scope digest reservedAt accountId entryId with
    | .error .database =>
      match ← db.existingSnapshot scope digest with
      | some duplicate => return (db, duplicate)
      | none => throw .integrity
    | outcome => outcome

/-- `consume`. -/
def consume (entryId : Uuid) (consumedAt : Datetime) :
    Except AICreditError (CreditTables × AICreditLedgerSnapshot) := do
  let entry ← required (db.entryById scope entryId) .reservationNotFound
  let account ← required (db.accountForEntry scope entry) .integrity
  match entry.status with
  | .consumed => return (db, snapshotOf entry account true)
  | .released => throw .stateConflict
  | .reserved =>
    ensure (1 ≤ account.reservedCount) .integrity
    let account' := account.settle .consumed
    let entry' := entry.markConsumed consumedAt
    let accounts ← required (db.accounts.update? account') .database
    let ledger ← required (db.ledger.update? entry') .database
    return ({ db with accounts, ledger }, snapshotOf entry' account' false)

/-- `release`. -/
def release (entryId : Uuid) (reason : Str) (releasedAt : Datetime) :
    Except AICreditError (CreditTables × AICreditLedgerSnapshot) := do
  let normalizedReason ← normalizeAiReleaseReason reason
  let entry ← required (db.entryById scope entryId) .reservationNotFound
  let account ← required (db.accountForEntry scope entry) .integrity
  match entry.status with
  | .released => return (db, snapshotOf entry account true)
  | .consumed => throw .stateConflict
  | .reserved =>
    ensure (1 ≤ account.reservedCount) .integrity
    let account' := account.settle .released
    let entry' := entry.markReleased normalizedReason releasedAt
    let accounts ← required (db.accounts.update? account') .database
    let ledger ← required (db.ledger.update? entry') .database
    return ({ db with accounts, ledger }, snapshotOf entry' account' false)

/-- `snapshot`. -/
def snapshot (entryId : Uuid) (replayed : Bool) : Except AICreditError AICreditLedgerSnapshot := do
  let entry ← required (db.entryById scope entryId) .reservationNotFound
  let account ← required
    (db.accounts.find? fun a => a.businessId == scope && a.id == entry.accountId) .integrity
  ensure (account.subscriptionId = entry.subscriptionId) .integrity
  return snapshotOf entry account replayed

/-- The account of the subscription's period, where there is one. -/
def periodAccount (subscription : Subscription) (startedAt endsAt : Datetime) :
    Option AICreditAccount :=
  db.accounts.find? fun a =>
    decide (a.periodKey = (scope, subscription.id, .aiFullResponses, startedAt, endsAt))

/-- The limit that `usage_history` reports: without an account nothing was adjusted. -/
def usageLimit (account : Option AICreditAccount) (baseLimit : Option Int) :
    Except AICreditError (Option Int) :=
  match account with
  | none => .ok baseLimit
  | some account => db.effectiveLimit scope account baseLimit

/-- `usage_history`. -/
def usageHistory (limit offset : Nat) (now : Datetime) :
    Except AICreditError AICreditUsageHistory := do
  let subscription ← required (db.getCurrent scope) .subscriptionRequired
  let access := evaluateAccess subscription now
  ensure (access.active = true) (.subscriptionInactive access.reason)
  let startedAt ← required access.periodStartedAt (.subscriptionInactive access.reason)
  let endsAt ← required access.periodEndsAt (.subscriptionInactive access.reason)
  let entitlement ← required (db.entitlementFor scope subscription .aiFullResponses)
    .entitlementDenied
  ensure (entitlement.isEnabled = true) .entitlementDenied
  let account := db.periodAccount scope subscription startedAt endsAt
  let reservedCount := account.elim 0 (·.reservedCount)
  let consumedCount := account.elim 0 (·.consumedCount)
  let used := reservedCount + consumedCount
  let effectiveLimit ← db.usageLimit scope account entitlement.limitValue
  let current : AICreditUsageSummary :=
    { accountId := account.map (·.id)
      subscriptionId := subscription.id
      businessId := scope
      limitValue := effectiveLimit
      reservedCount := reservedCount
      consumedCount := consumedCount
      remaining := effectiveLimit.map fun effective => max (effective - used) 0
      periodStartedAt := startedAt
      periodEndsAt := endsAt }
  let entries := db.ledger.rows.filter fun e => e.businessId == scope
  let newestFirst := Collections.sortBy
    (fun e : AICreditLedgerEntry => toLex (-e.reservedAt, -(e.id : Int))) entries
  return { current, items := (newestFirst.drop offset).take limit, total := entries.length, limit,
           offset }

end CreditTables

end SpikeBackend
