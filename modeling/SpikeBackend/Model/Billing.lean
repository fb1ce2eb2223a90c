import SpikeBackend.Lib.Hex
import SpikeBackend.Lib.Json
import SpikeBackend.Model.AiCredits
import SpikeBackend.Model.Users

/-!
# Billing rows and Stripe objects

The rows of `app/models/billing.py` and `app/models/subscription.py` that the billing
services write, and the helpers at the head of `app/services/billing.py` that read the
objects Stripe sends. A Stripe object is a JSON `Dict`; what is wrong with one is raised
with the message the source gives.
-/

namespace SpikeBackend

open Relational Text Outcome

inductive AppEnvironment
  | development
  | test
  | staging
  | production
  deriving DecidableEq, Repr

def AppEnvironment.value : AppEnvironment → Str
  | .development => str "development"
  | .test => str "test"
  | .staging => str "staging"
  | .production => str "production"

inductive SeededPlanCode
  | premium
  | pro
  | enterprise
  deriving DecidableEq, Repr

def SeededPlanCode.value : SeededPlanCode → Str
  | .premium => str "premium"
  | .pro => str "pro"
  | .enterprise => str "enterprise"

/-- `SubscriptionStatus(value)`: `none` is its `ValueError`. -/
def SubscriptionStatus.ofValue? (value : Str) : Option SubscriptionStatus :=
  [.trialing, .active, .pastDue, .unpaid, .paused, .incomplete, .incompleteExpired,
    .canceled].find? fun s => s.value == value

/-- The settings of the billing services and what they call of the standard library:
`str(uuid)`, `UUID(text)`, `str(value)`, `str.upper` and SHA-256. -/
structure BillingSettings where
  stripeEnabled : Bool
  appEnv : AppEnvironment
  stripePremiumMonthlyPriceId : Option Str
  stripeProMonthlyPriceId : Option Str
  stripeCheckoutSuccessUrl : Str
  stripeCheckoutCancelUrl : Str
  stripeCheckoutSessionMinutes : Int
  stripeCheckoutSessionMinutes_range :
    31 ≤ stripeCheckoutSessionMinutes ∧ stripeCheckoutSessionMinutes ≤ 1439
  uuidStr : Uuid → Str
  parseUuid : Str → Option Uuid
  parseUuid_uuidStr : ∀ u, parseUuid (uuidStr u) = some u
  pyStr : Json → Str
  pyStr_str : ∀ s, pyStr (.str s) = s
  upper : Str → Str
  sha256 : List UInt8 → Str

/-- The settings of a development installation, with concrete functions for what they call
of the standard library: `upper` is that of ASCII and `sha256` a checksum of short texts. -/
def BillingSettings.development : BillingSettings where
  stripeEnabled := true
  appEnv := .development
  stripePremiumMonthlyPriceId := some (str "price_premium")
  stripeProMonthlyPriceId := some (str "price_pro")
  stripeCheckoutSuccessUrl := str "https://spike.test/success"
  stripeCheckoutCancelUrl := str "https://spike.test/cancel"
  stripeCheckoutSessionMinutes := 31
  stripeCheckoutSessionMinutes_range := by decide
  uuidStr := uuidText
  parseUuid := parseUuidText
  parseUuid_uuidStr := parseUuidText_uuidText
  pyStr value :=
    match value with
    | .str s => s
    | _ => []
  pyStr_str _ := rfl
  upper s := s.map fun c => if 97 ≤ c.val ∧ c.val ≤ 122 then c - 32 else c
  sha256 bytes := hexText 64 (bytes.foldl (fun n b => n * 256 + b.toNat) 0)

-- ---------------------------------------------------------------------------
-- Rows
-- ---------------------------------------------------------------------------

structure Plan where
  id : Uuid
  code : Str
  monthlyPriceCents : Option Int := none
  currency : Str := str "USD"
  isCustomPricing : Bool := false
  isActive : Bool := true
  isPublic : Bool := true

instance : Schema Plan Uuid where
  key := Plan.id
  clash a b := a.code == b.code
  checks r := nonnegativeLimit r.monthlyPriceCents && decide (r.currency.length = 3)
  clash_comm _ _ := BEq.comm

inductive BillingCheckoutStatus
  | pending
  | open
  | complete
  | expired
  deriving DecidableEq, Repr

/-- `status in (PENDING, OPEN)`. -/
def BillingCheckoutStatus.isUnfinished : BillingCheckoutStatus → Bool
  | .pending | .open => true
  | .complete | .expired => false

structure BillingCheckoutSession where
  id : Uuid
  businessId : Uuid
  createdAt : Datetime
  subscriptionId : Uuid
  planId : Uuid
  status : BillingCheckoutStatus := .pending
  idempotencyKeyDigest : Str
  stripeCheckoutSessionId : Option Str := none
  checkoutUrl : Option Str := none
  expiresAt : Option Datetime := none
  completedAt : Option Datetime := none
  stripeCustomerId : Option Str := none
  stripeSubscriptionId : Option Str := none

/-- One row per idempotency key of a business, one unfinished row per business and one
row per Stripe session. -/
instance : Schema BillingCheckoutSession Uuid where
  key := BillingCheckoutSession.id
  clash a b :=
    (a.businessId == b.businessId && a.idempotencyKeyDigest == b.idempotencyKeyDigest) ||
      (a.businessId == b.businessId && a.status.isUnfinished && b.status.isUnfinished) ||
      (a.stripeCheckoutSessionId.isSome && a.stripeCheckoutSessionId == b.stripeCheckoutSessionId)
  checks _ := true
  clash_comm a b := by
    rw [Bool.eq_iff_iff]
    simp only [Bool.or_eq_true, Bool.and_eq_true, beq_iff_eq]
    constructor
    · rintro ((⟨h₁, h₂⟩ | ⟨⟨h₁, h₂⟩, h₃⟩) | ⟨h₁, h₂⟩)
      · exact .inl (.inl ⟨h₁.symm, h₂.symm⟩)
      · exact .inl (.inr ⟨⟨h₁.symm, h₃⟩, h₂⟩)
      · exact .inr ⟨h₂ ▸ h₁, h₂.symm⟩
    · rintro ((⟨h₁, h₂⟩ | ⟨⟨h₁, h₂⟩, h₃⟩) | ⟨h₁, h₂⟩)
      · exact .inl (.inl ⟨h₁.symm, h₂.symm⟩)
      · exact .inl (.inr ⟨⟨h₁.symm, h₃⟩, h₂⟩)
      · exact .inr ⟨h₂ ▸ h₁, h₂.symm⟩

inductive BillingInvoiceStatus
  | draft
  | open
  | paid
  | uncollectible
  | void
  deriving DecidableEq, Repr

def BillingInvoiceStatus.value : BillingInvoiceStatus → Str
  | .draft => str "draft"
  | .open => str "open"
  | .paid => str "paid"
  | .uncollectible => str "uncollectible"
  | .void => str "void"

/-- `BillingInvoiceStatus(value)`: `none` is its `ValueError`. -/
def BillingInvoiceStatus.ofValue? (value : Str) : Option BillingInvoiceStatus :=
  [.draft, .open, .paid, .uncollectible, .void].find? fun s => s.value == value

/-- `INVOICE_STATUS_RANK`. -/
def BillingInvoiceStatus.rank : BillingInvoiceStatus → Nat
  | .draft => 0
  | .open => 1
  | .paid | .uncollectible | .void => 2

structure BillingInvoice where
  id : Uuid
  businessId : Uuid
  subscriptionId : Uuid
  stripeInvoiceId : Str
  stripeCustomerId : Str
  invoiceNumber : Option Str
  status : BillingInvoiceStatus
  currency : Str
  subtotalCents : Int
  totalCents : Int
  amountDueCents : Int
  amountPaidCents : Int
  amountRemainingCents : Int
  stripeCreatedAt : Datetime
  periodStartedAt : Option Datetime
  periodEndsAt : Option Datetime
  paidAt : Option Datetime
  hostedInvoiceUrl : Option Str
  invoicePdfUrl : Option Str
  lastStripeEventCreatedAt : Datetime
  lastStripeEventId : Str
  deriving DecidableEq

instance : Schema BillingInvoice Uuid where
  key := BillingInvoice.id
  clash a b := a.stripeInvoiceId == b.stripeInvoiceId
  checks r := decide (r.currency.length = 3)
  clash_comm _ _ := BEq.comm

inductive StripeWebhookResult
  | processed
  | ignored
  deriving DecidableEq, Repr

structure StripeWebhookEvent where
  id : Uuid
  stripeEventId : Str
  eventType : Str
  objectId : Option Str
  stripeCreatedAt : Datetime
  livemode : Bool
  result : StripeWebhookResult
  processedAt : Datetime

instance : Schema StripeWebhookEvent Uuid where
  key := StripeWebhookEvent.id
  clash a b := a.stripeEventId == b.stripeEventId
  checks _ := true
  clash_comm _ _ := BEq.comm

/-- The tables of the billing services. -/
structure BillingDatabase extends CreditTables where
  users : Table User := .empty
  businesses : Table Business := .empty
  roleAssignments : Table RoleAssignment := .empty
  plans : Table Plan := .empty
  checkouts : Table BillingCheckoutSession := .empty
  invoices : Table BillingInvoice := .empty
  webhookEvents : Table StripeWebhookEvent := .empty

/-- What the billing services raise; `integrity` is the driver's `IntegrityError`,
`noResult` a `scalar_one` without a row, and `unhashable` the `TypeError` of a membership
test in a set. -/
inductive BillingError
  | notConfigured
  | planNotFound
  | planNotCheckoutEligible
  | priceConfiguration (message : Str)
  | checkoutConflict
  | checkoutInProgress (checkout : BillingCheckoutSession)
  | gateway (message : Str)
  | checkoutRejected (message : Str)
  | webhookData (message : Str)
  | webhookEnvironment (message : Str)
  | unicodeEncode
  | integrity
  | noResult
  | unhashable

-- ---------------------------------------------------------------------------
-- Configuration
-- ---------------------------------------------------------------------------

def configuredPriceId (settings : BillingSettings) : SeededPlanCode → Option Str
  | .premium => settings.stripePremiumMonthlyPriceId
  | .pro => settings.stripeProMonthlyPriceId
  | .enterprise => none

def configuredPlanCodeForPrice (settings : BillingSettings) (stripePriceId : Str) :
    Option SeededPlanCode :=
  [SeededPlanCode.premium, .pro].find? fun planCode =>
    configuredPriceId settings planCode == some stripePriceId

def validateCheckoutPrice (settings : BillingSettings) (remote : Dict) (expectedPriceId : Str)
    (plan : Plan) : Except BillingError Unit :=
  let currency :=
    match remote.get (str "currency") with
    | .str c => settings.upper c == settings.upper plan.currency
    | _ => false
  let amount :=
    match remote.get (str "unit_amount") with
    | .int n => some n == plan.monthlyPriceCents
    | _ => false
  let recurring :=
    match remote.get (str "recurring") with
    | .obj r =>
      (Dict.get r (str "interval")).eqStr (str "month") &&
        (Dict.get r (str "interval_count")).eqInt 1 &&
        (Dict.get r (str "usage_type")).eqStr (str "licensed")
    | _ => false
  ensure
    (((remote.get (str "id")).eqStr expectedPriceId &&
      (remote.get (str "object")).eqStr (str "price") &&
      (remote.get (str "active")).isTrue &&
      (remote.get (str "type")).eqStr (str "recurring") &&
      (remote.get (str "billing_scheme")).eqStr (str "per_unit") &&
      currency && amount && recurring) = true)
    (.priceConfiguration
      (str "The configured Stripe Price does not match the approved local Plan."))

-- ---------------------------------------------------------------------------
-- Stripe objects
-- ---------------------------------------------------------------------------

/-- `_required_string`. -/
def requiredString (data : Dict) (key : Str) : Except BillingError Str :=
  match data.get key with
  | .str (c :: cs) => .ok (c :: cs)
  | _ => .error (.webhookData (str "Stripe object is missing " ++ key ++ str "."))

/-- `_optional_string`: a string, or an object named by its `id`. -/
def optionalString (value : Json) : Except BillingError (Option Str) :=
  match value with
  | .null => .ok none
  | .str (c :: cs) => .ok (some (c :: cs))
  | .obj members =>
    match Dict.get members (str "id") with
    | .str (c :: cs) => .ok (some (c :: cs))
    | _ => .error (.webhookData (str "Stripe returned an invalid object reference."))
  | _ => .error (.webhookData (str "Stripe returned an invalid object reference."))

/-- A `datetime` has an instant of the years 1 to 9999. -/
def isDatetime (instant : Datetime) : Bool :=
  decide (-62135596800000000 ≤ instant) && decide (instant < 253402300800000000)

/-- `datetime.fromtimestamp(value, tz=UTC)`; `none` is its `ValueError` or `OverflowError`. -/
def fromTimestamp (value : Rat) : Option Datetime :=
  let instant := roundHalfEven (value * 1000000)
  if isDatetime instant then some instant else none

/-- `_stripe_datetime`. -/
def stripeDatetime (value : Json) : Except BillingError (Option Datetime) :=
  let invalid := BillingError.webhookData (str "Stripe returned an invalid timestamp.")
  match value with
  | .null => .ok none
  | .int n => (required (fromTimestamp n) invalid).map some
  | .float x => (required (fromTimestamp x) invalid).map some
  | _ => .error invalid

/-- `_stripe_integer`. -/
def stripeInteger (data : Dict) (key : Str) : Except BillingError Int :=
  match data.get key with
  | .int n => .ok n
  | _ => .error (.webhookData (str "Stripe object is missing " ++ key ++ str "."))

/-- A `dict[str, str]`. -/
abbrev Metadata := List (Str × Str)

/-- `_metadata`. -/
def metadataOf (settings : BillingSettings) (data : Dict) : Except BillingError Metadata :=
  match data.get (str "metadata") with
  | .null => .ok []
  | .obj raw =>
    .ok (raw.filterMap fun (key, value) =>
      if value.isNull then none else some (key, settings.pyStr value))
  | _ => .error (.webhookData (str "Stripe metadata is invalid."))

/-- `_metadata_uuid`. -/
def metadataUuid (settings : BillingSettings) (metadata : Metadata) (key : Str) :
    Except BillingError Uuid := do
  let value ← required (metadata.lookup key)
    (.webhookData (str "Stripe metadata " ++ key ++ str " is missing."))
  required (settings.parseUuid value)
    (.webhookData (str "Stripe metadata " ++ key ++ str " is invalid."))

/-- `_subscription_item_details`: the price and the billing period of the only item. -/
def subscriptionItemDetails (snapshot : Dict) :
    Except BillingError (Str × Option Datetime × Option Datetime) := do
  let itemData :=
    match snapshot.get (str "items") with
    | .obj items => Dict.get items (str "data")
    | _ => .null
  match itemData with
  | .arr [.obj item] =>
    let priceId ← optionalString (Dict.get item (str "price"))
    let priceId ← required priceId (.webhookData (str "Stripe subscription item has no Price."))
    let periodStartedAt ← stripeDatetime
      (Dict.getD item (str "current_period_start") (snapshot.get (str "current_period_start")))
    let periodEndsAt ← stripeDatetime
      (Dict.getD item (str "current_period_end") (snapshot.get (str "current_period_end")))
    return (priceId, periodStartedAt, periodEndsAt)
  | .arr [_] => throw (.webhookData (str "Stripe subscription item is invalid."))
  | _ => throw (.webhookData (str "Exactly one Stripe subscription item is required."))

/-- `_invoice_subscription_id`. -/
def invoiceSubscriptionId (invoice : Dict) : Except BillingError (Option Str) := do
  match ← optionalString (invoice.get (str "subscription")) with
  | some legacy => return some legacy
  | none =>
    match invoice.get (str "parent") with
    | .obj parent =>
      match Dict.get parent (str "subscription_details") with
      | .obj details => optionalString (Dict.get details (str "subscription"))
      | _ => return none
    | _ => return none

def stripeMetadataBusinessId : Str := str "spike_business_id"
def stripeMetadataSubscriptionId : Str := str "spike_subscription_id"
def stripeMetadataPlanCode : Str := str "spike_plan_code"
def stripeMetadataCheckoutId : Str := str "spike_checkout_id"
def stripeMetadataEnvironment : Str := str "spike_environment"

def appSubscriptionMetadataKeys : List Str :=
  [stripeMetadataBusinessId, stripeMetadataSubscriptionId, stripeMetadataPlanCode,
    stripeMetadataCheckoutId, stripeMetadataEnvironment]

end SpikeBackend
