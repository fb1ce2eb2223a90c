import SpikeBackend.Model.SubscriptionSync

/-!
# Stripe webhooks

`StripeWebhookService` (`app/services/billing.py`). `process` handles one delivery in one
transaction: it claims the event, handles it and commits, and whatever raises rolls all
of it back. What a handler reads before its locked part comes in as `WebhookReads`: the
subscription that an invoice handler selects without a lock, and the answer of Stripe to
`retrieve_subscription`.
-/

namespace SpikeBackend

open Relational Text Outcome Session

def subscriptionEvents : List Str :=
  [str "customer.subscription.created", str "customer.subscription.updated",
    str "customer.subscription.deleted", str "customer.subscription.paused",
    str "customer.subscription.resumed"]

def checkoutCompleteEvents : List Str :=
  [str "checkout.session.completed", str "checkout.session.async_payment_succeeded"]

def invoiceEvents : List Str :=
  [str "invoice.created", str "invoice.updated", str "invoice.finalized", str "invoice.paid",
    str "invoice.payment_failed", str "invoice.payment_action_required", str "invoice.voided",
    str "invoice.marked_uncollectible"]

/-- The fields of a delivered event that `process` reads. -/
structure StripeEvent where
  eventId : Str
  eventType : Str
  eventCreatedAt : Datetime
  livemode : Bool
  stripeObject : Dict
  objectId : Option Str

def StripeEvent.stamp (event : StripeEvent) : EventStamp :=
  ⟨some event.eventId, some event.eventCreatedAt⟩

structure WebhookProcessResult where
  duplicate : Bool
  result : StripeWebhookResult
  deriving DecidableEq

/-- What a handler read before its locked part. -/
structure WebhookReads where
  existing : Option Subscription
  retrieved : Except BillingError Dict

/-- What a delivery draws from outside. -/
structure WebhookDraws where
  eventRowId : Uuid
  invoiceId : Uuid

/-- The head of `process`: what an event has to carry. -/
def parseStripeEvent (settings : BillingSettings) (event : Dict) :
    Except BillingError StripeEvent := do
  let eventId ← requiredString event (str "id")
  let eventType ← requiredString event (str "type")
  let eventCreatedAt ← required (← stripeDatetime (event.get (str "created")))
    (.webhookData (str "Stripe Event has no creation time."))
  let livemode ←
    match event.get (str "livemode") with
    | .bool b => pure b
    | _ => throw (.webhookData (str "Stripe Event has no livemode flag."))
  ensure (livemode = decide (settings.appEnv = .production))
    (.webhookEnvironment
      (str "Stripe Event livemode does not match the application environment."))
  let stripeObject ←
    match event.get (str "data") with
    | .obj data =>
      match Dict.get data (str "object") with
      | .obj stripeObject => pure stripeObject
      | _ => throw (.webhookData (str "Stripe Event has no data object."))
    | _ => throw (.webhookData (str "Stripe Event has no data object."))
  let objectId ← optionalString (Dict.get stripeObject (str "id"))
  return { eventId, eventType, eventCreatedAt, livemode, stripeObject, objectId }

/-- An event that is older than the one an invoice row was last written from. -/
def BillingInvoice.isNewerThan (row : BillingInvoice) (eventCreatedAt : Datetime)
    (status : BillingInvoiceStatus) : Bool :=
  decide (eventCreatedAt < row.lastStripeEventCreatedAt ∨
    eventCreatedAt = row.lastStripeEventCreatedAt ∧ status.rank < row.status.rank)

/-- The `values` of `_upsert_invoice`, as a row under `invoiceId`. -/
def invoiceValues (invoice : Dict) (invoiceId : Uuid) (subscription : Subscription)
    (stripeInvoiceId customerId : Str) (status : BillingInvoiceStatus) (currency : Str)
    (eventId : Str) (eventCreatedAt : Datetime) : Except BillingError BillingInvoice := do
  let paidAt ←
    match invoice.get (str "status_transitions") with
    | .obj transitions => stripeDatetime (Dict.get transitions (str "paid_at"))
    | _ => pure none
  let invoiceNumber ← optionalString (invoice.get (str "number"))
  let subtotalCents ← stripeInteger invoice (str "subtotal")
  let totalCents ← stripeInteger invoice (str "total")
  let amountDueCents ← stripeInteger invoice (str "amount_due")
  let amountPaidCents ← stripeInteger invoice (str "amount_paid")
  let amountRemainingCents ← stripeInteger invoice (str "amount_remaining")
  let stripeCreatedAt ← stripeDatetime (invoice.get (str "created"))
  let periodStartedAt ← stripeDatetime (invoice.get (str "period_start"))
  let periodEndsAt ← stripeDatetime (invoice.get (str "period_end"))
  let hostedInvoiceUrl ← optionalString (invoice.get (str "hosted_invoice_url"))
  let invoicePdfUrl ← optionalString (invoice.get (str "invoice_pdf"))
  let stripeCreatedAt ← required stripeCreatedAt
    (.webhookData (str "Stripe Invoice has no creation time."))
  return {
    id := invoiceId
    businessId := subscription.businessId
    subscriptionId := subscription.id
    stripeInvoiceId
    stripeCustomerId := customerId
    invoiceNumber
    status
    currency
    subtotalCents
    totalCents
    amountDueCents
    amountPaidCents
    amountRemainingCents
    stripeCreatedAt
    periodStartedAt
    periodEndsAt
    paidAt
    hostedInvoiceUrl
    invoicePdfUrl
    lastStripeEventCreatedAt := eventCreatedAt
    lastStripeEventId := eventId }

namespace BillingDatabase

variable (db : BillingDatabase) (settings : BillingSettings)

/-- `_complete_checkout`. -/
def completeCheckout (snapshot : Dict) (isExpired : Bool) (now : Datetime) :
    Except BillingError (BillingDatabase × StripeWebhookResult) := do
  let metadata ← metadataOf settings snapshot
  if (metadata.lookup stripeMetadataCheckoutId).isNone then return (db, .ignored)
  ensure (metadata.lookup stripeMetadataEnvironment = some settings.appEnv.value)
    (.webhookEnvironment (str "Stripe Checkout belongs to another environment."))
  let checkoutId ← metadataUuid settings metadata stripeMetadataCheckoutId
  let businessId ← metadataUuid settings metadata stripeMetadataBusinessId
  let subscriptionId ← metadataUuid settings metadata stripeMetadataSubscriptionId
  let noMatch := BillingError.webhookData (str "Stripe Checkout metadata does not match.")
  let checkout ← required (db.scopedCheckout businessId checkoutId) noMatch
  ensure (checkout.subscriptionId = subscriptionId ∧
    metadata.lookup stripeMetadataPlanCode ≠ none) noMatch
  let stripeSessionId ← requiredString snapshot (str "id")
  ensure (checkout.stripeCheckoutSessionId.all (· == stripeSessionId) = true)
    (.webhookData (str "Stripe Checkout Session ID does not match."))
  let known := { checkout with stripeCheckoutSessionId := some stripeSessionId }
  if isExpired then
    let checkouts ← required (db.checkouts.update?
      (if checkout.status ≠ .complete then known.markExpired else known)) .integrity
    return ({ db with checkouts }, .processed)
  else
    let customerId ← optionalString (snapshot.get (str "customer"))
    let stripeSubscriptionId ← optionalString (snapshot.get (str "subscription"))
    let incomplete := BillingError.webhookData
      (str "Completed Stripe Checkout has no subscription.")
    let customerId ← required customerId incomplete
    let stripeSubscriptionId ← required stripeSubscriptionId incomplete
    let checkouts ← required (db.checkouts.update?
      { known with
        status := .complete
        completedAt := some (checkout.completedAt.getD now)
        stripeCustomerId := some customerId
        stripeSubscriptionId := some stripeSubscriptionId }) .integrity
    return ({ db with checkouts }, .processed)

/-- `SELECT ... WHERE stripe_invoice_id = ...`. -/
def invoiceByStripeId (stripeInvoiceId : Str) : Option BillingInvoice :=
  db.invoices.find? fun i => i.stripeInvoiceId == stripeInvoiceId

/-- The last lines of `_upsert_invoice`: the row takes over the values. -/
def overwriteInvoice (row values : BillingInvoice) :
    Except BillingError (BillingDatabase × StripeWebhookResult) := do
  ensure (row.subscriptionId = values.subscriptionId ∧ row.businessId = values.businessId)
    (.webhookData (str "Stripe Invoice tenant does not match."))
  let invoices ← required (db.invoices.update? { values with id := row.id }) .integrity
  return ({ db with invoices }, .processed)

/-- `_upsert_invoice`; `local?` is what its first select found. -/
def upsertInvoice (local? : Option BillingInvoice) (invoice : Dict) (subscription : Subscription)
    (eventId : Str) (eventCreatedAt : Datetime) (invoiceId : Uuid) :
    Except BillingError (BillingDatabase × StripeWebhookResult) := do
  let stripeInvoiceId ← requiredString invoice (str "id")
  if local?.any (eventCreatedAt < ·.lastStripeEventCreatedAt) then return (db, .ignored)
  let mismatch := BillingError.webhookData (str "Stripe Invoice Customer does not match.")
  let customerId ← required (← optionalString (invoice.get (str "customer"))) mismatch
  ensure (some customerId = subscription.stripeCustomerId) mismatch
  let status ← required (BillingInvoiceStatus.ofValue? (← requiredString invoice (str "status")))
    (.webhookData (str "Stripe returned an unsupported Invoice status."))
  if local?.any (·.isNewerThan eventCreatedAt status) then return (db, .ignored)
  let currency := settings.upper (← requiredString invoice (str "currency"))
  ensure (currency.length = 3) (.webhookData (str "Stripe Invoice currency is invalid."))
  let values ← invoiceValues invoice invoiceId subscription stripeInvoiceId customerId status
    currency eventId eventCreatedAt
  match local? with
  | some row => db.overwriteInvoice row values
  | none =>
    match db.invoiceByStripeId stripeInvoiceId with
    | none =>
      let invoices ← required (db.invoices.insert? values) .integrity
      return ({ db with invoices }, .processed)
    | some concurrent =>
      -- the insert met a row that another transaction committed meanwhile
      if concurrent.isNewerThan eventCreatedAt status then return (db, .ignored)
      db.overwriteInvoice concurrent values

/-- The snapshot that `_process_invoice` goes on with: without an answer of Stripe, none
for a subscription it knows. -/
def invoiceSnapshot (reads : WebhookReads) : Except BillingError Dict :=
  match reads.retrieved with
  | .ok snapshot => .ok snapshot
  | .error e => if reads.existing.isNone then .error e else .ok []

/-- The subscription that `_process_invoice` goes on with. -/
def invoiceSubscription (reads : WebhookReads) (snapshot : Dict) (event : EventStamp)
    (now : Datetime) : Except BillingError (BillingDatabase × Option Subscription) :=
  if snapshot.isEmpty then .ok (db, reads.existing)
  else db.sync settings reads.existing snapshot event now

/-- `_process_invoice`. -/
def processInvoice (reads : WebhookReads) (event : StripeEvent) (invoiceId : Uuid)
    (now : Datetime) : Except BillingError (BillingDatabase × StripeWebhookResult) := do
  match ← invoiceSubscriptionId event.stripeObject with
  | none => return (db, .ignored)
  | some _ =>
    let snapshot ← invoiceSnapshot reads
    let (db₁, subscription) ← db.invoiceSubscription settings reads snapshot event.stamp now
    match subscription with
    | none => return (db₁, .ignored)
    | some subscription =>
      let local? := (event.stripeObject.lookup (str "id")).bind fun
        | .str id => db₁.invoiceByStripeId id
        | _ => none
      db₁.upsertInvoice settings local? event.stripeObject subscription event.eventId
        event.eventCreatedAt invoiceId

/-- The branches of `process` over the type of the event. -/
def handleEvent (reads : WebhookReads) (event : StripeEvent) (invoiceId : Uuid)
    (now : Datetime) : Except BillingError (BillingDatabase × StripeWebhookResult) := do
  if event.eventType ∈ subscriptionEvents then
    let snapshot ←
      if event.eventType = str "customer.subscription.deleted" then pure event.stripeObject
      else do
        let _ ← requiredString event.stripeObject (str "id")
        reads.retrieved
    let (db₁, subscription) ← db.sync settings none snapshot event.stamp now
    return (db₁, if subscription.isSome then .processed else .ignored)
  else if event.eventType ∈ checkoutCompleteEvents then
    db.completeCheckout settings event.stripeObject false now
  else if event.eventType = str "checkout.session.expired" then
    db.completeCheckout settings event.stripeObject true now
  else if event.eventType ∈ invoiceEvents then
    db.processInvoice settings reads event invoiceId now
  else return (db, .ignored)

/-- `_claim_event`: `none` is an event that was claimed before. -/
def claimEvent (event : StripeEvent) (eventRowId : Uuid) (now : Datetime) :
    Except BillingError (Option (BillingDatabase × StripeWebhookEvent)) :=
  if (db.webhookEvents.find? fun e => e.stripeEventId == event.eventId).isSome then .ok none
  else do
    let row : StripeWebhookEvent :=
      { id := eventRowId
        stripeEventId := event.eventId
        eventType := event.eventType
        objectId := event.objectId
        stripeCreatedAt := event.eventCreatedAt
        livemode := event.livemode
        result := .ignored
        processedAt := now }
    let webhookEvents ← required (db.webhookEvents.insert? row) .integrity
    return some ({ db with webhookEvents }, row)

/-- `process`. -/
def process (reads : WebhookReads) (delivery : Dict) (draws : WebhookDraws) (now : Datetime) :
    Except BillingError (BillingDatabase × WebhookProcessResult) := do
  let event ← parseStripeEvent settings delivery
  match ← db.claimEvent event draws.eventRowId now with
  | none => return (db, ⟨true, .ignored⟩)
  | some (db₁, row) =>
    let (db₂, result) ← db₁.handleEvent settings reads event draws.invoiceId now
    let webhookEvents ← required
      (db₂.webhookEvents.update? { row with result := result, processedAt := now }) .integrity
    return ({ db₂ with webhookEvents }, ⟨false, result⟩)

end BillingDatabase

end SpikeBackend
