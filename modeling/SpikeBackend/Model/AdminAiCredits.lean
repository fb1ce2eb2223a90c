import SpikeBackend.Model.AiCredits
import SpikeBackend.Model.Users

/-!
# Admin credit adjustments

`AdminAICreditAdjustmentService.adjust` (`app/services/admin_ai_credits.py`) and the
part of the audit trail it writes (`app/services/admin_audit.py`). The metadata of the
audit event is fixed by `adjust` itself and always passes the metadata check, so only
the request identifier is validated here.
-/

namespace SpikeBackend

open Relational Text Outcome

/-- The columns of the acting user that `adjust` reads. -/
structure AdminActor where
  id : Uuid
  role : UserRole
  isActive : Bool
  isVerified : Bool

/-- A value of the audit metadata that `adjust` records. -/
inductive AuditValue
  | uuid (value : Uuid)
  | int (value : Int)
  | text (value : Str)

structure AdminAuditEvent where
  id : Uuid
  actorUserId : Uuid
  actorRole : UserRole
  action : Str
  targetType : Str
  targetId : Uuid
  businessId : Option Uuid
  requestId : Option Str
  metadataJson : List (Str × AuditValue)

def isAsciiAlnum (c : CodePoint) : Bool :=
  (0x30 ≤ c.val && c.val ≤ 0x39) || (0x41 ≤ c.val && c.val ≤ 0x5A) ||
    (0x61 ≤ c.val && c.val ≤ 0x7A)

/-- `AUDIT_REQUEST_ID_PATTERN.fullmatch`: 1 to 128 characters of `[A-Za-z0-9._:-]`. -/
def isAuditRequestId (s : Str) : Bool :=
  decide (1 ≤ s.length ∧ s.length ≤ 128) &&
    s.all fun c => isAsciiAlnum c || (str "._:-").contains c

instance : Schema AdminAuditEvent Uuid where
  key := AdminAuditEvent.id
  clash _ _ := false
  checks e := decide (e.actorRole ≠ .user) && e.requestId.all isAuditRequestId
  clash_comm _ _ := rfl

/-- The tables of the credit services and of their administration. -/
structure CreditDatabase extends CreditTables where
  businesses : Table Business := .empty
  auditEvents : Table AdminAuditEvent := .empty

inductive AdminAICreditError
  | actorForbidden
  | businessNotFound
  | subscriptionUnavailable
  | entitlementUnavailable
  | unlimitedEntitlement
  | adjustmentConflict
  | idempotencyConflict
  | credit (error : AICreditError)
  | auditActor
  | auditRequestId
  | database

structure AdminAICreditAdjustmentResult where
  adjustment : AICreditAdjustmentLedgerEntry
  remainingAfter : Int
  replayed : Bool

/-- What a request to adjust a business's credits carries. -/
structure AdjustRequest where
  actor : AdminActor
  businessId : Uuid
  delta : Int
  reasonCode : AICreditAdjustmentReason
  idempotencyKey : Str
  requestId : Option Str

/-- The identifiers `uuid4` draws for the rows an adjustment may insert. -/
structure AdjustIds where
  accountId : Uuid
  adjustmentId : Uuid
  auditId : Uuid

/-- `normalize_admin_audit_request_id`. -/
def normalizeAdminAuditRequestId (requestId : Option Str) :
    Except AdminAICreditError (Option Str) :=
  match requestId with
  | none => .ok none
  | some raw => do
    let normalized := strip raw
    ensure (isAuditRequestId normalized = true) .auditRequestId
    return some normalized

namespace CreditDatabase

variable (db : CreditDatabase)

/-- `AdminAuditService.record`, for the event of an adjustment. -/
def recordAdjustment (request : AdjustRequest) (adjustment : AICreditAdjustmentLedgerEntry)
    (auditId : Uuid) : Except AdminAICreditError CreditDatabase := do
  ensure ((request.actor.role = .superAdmin ∨ request.actor.role = .customerService) ∧
    request.actor.isActive = true ∧ request.actor.isVerified = true) .auditActor
  let requestId ← normalizeAdminAuditRequestId request.requestId
  let event : AdminAuditEvent :=
    { id := auditId
      actorUserId := request.actor.id
      actorRole := request.actor.role
      action := str "ai.credit.adjust"
      targetType := str "ai_credit_account"
      targetId := adjustment.accountId
      businessId := some request.businessId
      requestId := requestId
      metadataJson :=
        [(str "adjustment_id", .uuid adjustment.id),
          (str "delta", .int adjustment.delta),
          (str "reason_code", .text adjustment.reasonCode.value),
          (str "base_limit_value", .int adjustment.baseLimitValue),
          (str "effective_limit_before", .int adjustment.effectiveLimitBefore),
          (str "effective_limit_after", .int adjustment.effectiveLimitAfter),
          (str "reserved_count", .int adjustment.reservedCount),
          (str "consumed_count", .int adjustment.consumedCount)] }
  let auditEvents ← required (db.auditEvents.insert? event) .database
  return { db with auditEvents }

/-- The body of `adjust` once the business is locked and no adjustment of the key is
found. -/
def adjustNew (request : AdjustRequest) (digest : Str) (adjustedAt : Datetime)
    (ids : AdjustIds) : Except AdminAICreditError (CreditDatabase × AdminAICreditAdjustmentResult) := do
  let subscription ← required (db.getCurrent request.businessId) .subscriptionUnavailable
  let access := evaluateAccess subscription adjustedAt
  ensure (access.active = true) .subscriptionUnavailable
  let startedAt ← required access.periodStartedAt .subscriptionUnavailable
  let endsAt ← required access.periodEndsAt .subscriptionUnavailable
  let entitlement ← required (db.entitlementFor request.businessId subscription .aiFullResponses)
    .entitlementUnavailable
  ensure (entitlement.isEnabled = true) .entitlementUnavailable
  let baseLimit ← required entitlement.limitValue .unlimitedEntitlement
  let (tables, account) ← required
    (db.toCreditTables.accountForPeriod request.businessId subscription startedAt endsAt
      (some baseLimit) ids.accountId) .database
  let effectiveBefore := baseLimit + tables.adjustmentTotal account.businessId account
  ensure (account.used ≤ effectiveBefore) .adjustmentConflict
  let effectiveAfter := effectiveBefore + request.delta
  -- never revoke consumed credits or credits reserved by an execution in flight
  ensure (account.used ≤ effectiveAfter ∧ 0 ≤ effectiveAfter) .adjustmentConflict
  let account' : AICreditAccount := { account with limitValue := some effectiveAfter }
  let adjustment : AICreditAdjustmentLedgerEntry :=
    { id := ids.adjustmentId
      businessId := request.businessId
      accountId := account.id
      subscriptionId := subscription.id
      entitlementKey := .aiFullResponses
      actorUserId := request.actor.id
      idempotencyKeyDigest := digest
      delta := request.delta
      reasonCode := request.reasonCode
      requestId := request.requestId
      baseLimitValue := baseLimit
      effectiveLimitBefore := effectiveBefore
      effectiveLimitAfter := effectiveAfter
      reservedCount := account.reservedCount
      consumedCount := account.consumedCount
      adjustedAt := adjustedAt }
  let accounts ← required (tables.accounts.update? account') .database
  let adjustments ← required (tables.adjustments.insert? adjustment) .database
  let db' ← recordAdjustment { db with toCreditTables := { tables with accounts, adjustments } }
    request adjustment ids.auditId
  return (db', ⟨adjustment, effectiveAfter - account.used, false⟩)

/-- `adjust`, for an actual integer `delta`. -/
def adjust (sha256 : List UInt8 → Str) (request : AdjustRequest) (adjustedAt : Datetime)
    (ids : AdjustIds) : Except AdminAICreditError (CreditDatabase × AdminAICreditAdjustmentResult) := do
  ensure (request.actor.role = .superAdmin ∧ request.actor.isActive = true ∧
    request.actor.isVerified = true) .actorForbidden
  ensure (request.delta ≠ 0 ∧ -1000 ≤ request.delta ∧ request.delta ≤ 1000) .adjustmentConflict
  let digest ← (digestAiIdempotencyKey sha256 request.idempotencyKey).mapError .credit
  let _ ← required (db.businesses.get? request.businessId) .businessNotFound
  match db.adjustments.find? fun a =>
      a.businessId == request.businessId && a.idempotencyKeyDigest == digest with
  | some existing => do
    ensure (existing.delta = request.delta ∧ existing.reasonCode = request.reasonCode)
      .idempotencyConflict
    return (db, ⟨existing,
      existing.effectiveLimitAfter - existing.reservedCount - existing.consumedCount, true⟩)
  | none => db.adjustNew request digest adjustedAt ids

end CreditDatabase

end SpikeBackend
