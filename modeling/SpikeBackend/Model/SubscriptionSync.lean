import SpikeBackend.Model.Checkout

/-!
# Subscription synchronisation

`SubscriptionSynchronizer` (`app/services/billing.py`): a snapshot of a Stripe
subscription is written into the local row it belongs to. `sync` is one transaction over
the committed database; `loaded` is an instance of a subscription that the session read
earlier, and then a locked read of the same row answers with that instance.
-/

namespace SpikeBackend

open Relational Text Outcome Session

/-- A subscription event, as the synchronisation books it. -/
structure EventStamp where
  eventId : Option Str := none
  eventCreatedAt : Option Datetime := none

namespace Subscription

/-- The row that a flush leaves of an instance that was loaded as `loaded` and is now
`modified`. -/
def flush (loaded modified row : Subscription) : Subscription :=
  { row with
    planId := column loaded.planId modified.planId row.planId
    status := column loaded.status modified.status row.status
    trialStartedAt := column loaded.trialStartedAt modified.trialStartedAt row.trialStartedAt
    trialEndsAt := column loaded.trialEndsAt modified.trialEndsAt row.trialEndsAt
    currentPeriodStartedAt := column loaded.currentPeriodStartedAt
      modified.currentPeriodStartedAt row.currentPeriodStartedAt
    currentPeriodEndsAt := column loaded.currentPeriodEndsAt modified.currentPeriodEndsAt
      row.currentPeriodEndsAt
    cancelAtPeriodEnd := column loaded.cancelAtPeriodEnd modified.cancelAtPeriodEnd
      row.cancelAtPeriodEnd
    canceledAt := column loaded.canceledAt modified.canceledAt row.canceledAt
    endedAt := column loaded.endedAt modified.endedAt row.endedAt
    stripeCustomerId := column loaded.stripeCustomerId modified.stripeCustomerId
      row.stripeCustomerId
    stripeSubscriptionId := column loaded.stripeSubscriptionId modified.stripeSubscriptionId
      row.stripeSubscriptionId
    stripePriceId := column loaded.stripePriceId modified.stripePriceId row.stripePriceId
    lastStripeEventCreatedAt := column loaded.lastStripeEventCreatedAt
      modified.lastStripeEventCreatedAt row.lastStripeEventCreatedAt
    lastStripeEventId := column loaded.lastStripeEventId modified.lastStripeEventId
      row.lastStripeEventId
    lastStripeSyncedAt := column loaded.lastStripeSyncedAt modified.lastStripeSyncedAt
      row.lastStripeSyncedAt }

/-- The last-event fields, which an older event leaves alone. -/
def noteEvent (s : Subscription) (event : EventStamp) : Subscription :=
  match event.eventId, event.eventCreatedAt with
  | some eventId, some createdAt =>
    if s.lastStripeEventCreatedAt.all (· ≤ createdAt) then
      { s with lastStripeEventId := some eventId, lastStripeEventCreatedAt := some createdAt }
    else s
  | _, _ => s

/-- The fields `_fail_closed` sets. -/
def failedClosed (s : Subscription) (stripeSubscriptionId stripeCustomerId stripePriceId : Str)
    (snapshot : Dict) (event : EventStamp) (now : Datetime) :
    Except BillingError Subscription := do
  let canceledAt ← stripeDatetime (snapshot.get (str "canceled_at"))
  let endedAt ← stripeDatetime (snapshot.get (str "ended_at"))
  return noteEvent
    { s with
      planId := none
      status := .incomplete
      stripeCustomerId := some stripeCustomerId
      stripeSubscriptionId := some stripeSubscriptionId
      stripePriceId := some stripePriceId
      trialEndsAt := none
      currentPeriodStartedAt := none
      currentPeriodEndsAt := none
      cancelAtPeriodEnd := (snapshot.get (str "cancel_at_period_end")).truthy
      canceledAt := canceledAt
      endedAt := endedAt
      lastStripeSyncedAt := some now } event

/-- The fields `sync` sets from a snapshot with a configured price and a known status. -/
def synchronized (s : Subscription) (planId : Uuid) (status : SubscriptionStatus)
    (stripeSubscriptionId stripeCustomerId stripePriceId : Str)
    (periodStartedAt periodEndsAt : Option Datetime) (snapshot : Dict) (event : EventStamp)
    (now : Datetime) : Except BillingError Subscription := do
  let remoteTrialStart ← stripeDatetime (snapshot.get (str "trial_start"))
  let trialEndsAt ← stripeDatetime (snapshot.get (str "trial_end"))
  let canceledAt ← stripeDatetime (snapshot.get (str "canceled_at"))
  let endedAt ← stripeDatetime (snapshot.get (str "ended_at"))
  return noteEvent
    { s with
      planId := some planId
      status := status
      stripeCustomerId := some stripeCustomerId
      stripeSubscriptionId := some stripeSubscriptionId
      stripePriceId := some stripePriceId
      trialStartedAt :=
        match remoteTrialStart with
        | some start => if s.trialStartedAt.all (start < ·) then some start else s.trialStartedAt
        | none => s.trialStartedAt
      trialEndsAt := trialEndsAt
      currentPeriodStartedAt := periodStartedAt
      currentPeriodEndsAt := periodEndsAt
      cancelAtPeriodEnd := (snapshot.get (str "cancel_at_period_end")).truthy
      canceledAt := canceledAt
      endedAt := endedAt
      lastStripeSyncedAt := some now } event

end Subscription

/-- `APP_SUBSCRIPTION_METADATA_KEYS.intersection(metadata)` is not empty. -/
def hasAppMetadata (metadata : Metadata) : Bool :=
  appSubscriptionMetadataKeys.any fun key => (metadata.lookup key).isSome

/-- `APP_SUBSCRIPTION_METADATA_KEYS.issubset(metadata)`. -/
def hasAllAppMetadata (metadata : Metadata) : Bool :=
  appSubscriptionMetadataKeys.all fun key => (metadata.lookup key).isSome

/-- `_validate_existing_metadata`. -/
def validateExistingMetadata (settings : BillingSettings) (subscription : Subscription)
    (metadata : Metadata) : Except BillingError Unit := do
  match metadata.lookup stripeMetadataBusinessId with
  | some businessValue =>
    let businessId ← required (settings.parseUuid businessValue)
      (.webhookData (str "Stripe subscription tenant metadata is invalid."))
    ensure (businessId = subscription.businessId)
      (.webhookData (str "Stripe subscription tenant metadata does not match."))
  | none => pure ()
  ensure (((metadata.lookup stripeMetadataEnvironment).all (· == settings.appEnv.value)) = true)
    (.webhookEnvironment (str "Stripe subscription belongs to another environment."))

/-- The check of the metadata that `sync` makes before it looks at the price. -/
def validateExisting (settings : BillingSettings) (existing : Option Subscription)
    (metadata : Metadata) : Except BillingError Unit :=
  match existing with
  | some subscription => validateExistingMetadata settings subscription metadata
  | none => .ok ()

namespace BillingDatabase

variable (db : BillingDatabase) (settings : BillingSettings)

/-- `_plan_for_price`. -/
def planForPrice (priceId : Str) : Except BillingError (Plan × SeededPlanCode) := do
  let planCode ← required (configuredPlanCodeForPrice settings priceId)
    (.webhookData (str "Stripe subscription uses an unknown Price."))
  let plan ← required (db.plans.find? fun p => p.code == planCode.value)
    (.webhookData (str "The Stripe Price has no local Plan."))
  return (plan, planCode)

/-- The flush of a subscription that was loaded as `loaded`. -/
def saveSubscription (loaded modified : Subscription) : Except BillingError BillingDatabase := do
  let row ← required (db.subscriptions.get? loaded.id) .noResult
  let subscriptions ← required (db.subscriptions.update? (loaded.flush modified row)) .integrity
  return { db with subscriptions }

/-- `DELETE` of the trial entitlements of a subscription. -/
def deleteTrialEntitlements (subscription : Subscription) : BillingDatabase :=
  { db with
    subscriptionEntitlements := db.subscriptionEntitlements.deleteWhere fun e =>
      e.subscriptionId == subscription.id && e.businessId == subscription.businessId &&
        e.source == .trial }

/-- `_fail_closed`. -/
def failClosed (subscription : Subscription)
    (stripeSubscriptionId stripeCustomerId stripePriceId : Str) (snapshot : Dict)
    (event : EventStamp) (now : Datetime) :
    Except BillingError (BillingDatabase × Option Subscription) := do
  let modified ← subscription.failedClosed stripeSubscriptionId stripeCustomerId stripePriceId
    snapshot event now
  let db₁ ← db.saveSubscription subscription modified
  return (db₁.deleteTrialEntitlements subscription, some modified)

/-- The instance a query answers with for `row`, when the session holds `loaded`. -/
def instanceOf (loaded : Option Subscription) (row : Subscription) : Subscription :=
  locked (loaded.filter (·.id == row.id)) row

/-- `_find_local_subscription`. -/
def findLocalSubscription (loaded existing : Option Subscription) (metadata : Metadata)
    (plan : Plan) (planCode : SeededPlanCode) : Except BillingError (Option Subscription) := do
  match existing with
  | some subscription =>
    validateExistingMetadata settings subscription metadata
    ensure (((metadata.lookup stripeMetadataPlanCode).all (· == planCode.value)) = true)
      (.webhookData (str "Stripe subscription Plan metadata does not match."))
    return some subscription
  | none =>
    if hasAppMetadata metadata = false then return none
    ensure (hasAllAppMetadata metadata = true)
      (.webhookData (str "Stripe subscription metadata is incomplete."))
    ensure (metadata.lookup stripeMetadataEnvironment = some settings.appEnv.value)
      (.webhookEnvironment (str "Stripe subscription belongs to another environment."))
    ensure (metadata.lookup stripeMetadataPlanCode = some planCode.value)
      (.webhookData (str "Stripe subscription Plan metadata does not match."))
    let businessId ← metadataUuid settings metadata stripeMetadataBusinessId
    let subscriptionId ← metadataUuid settings metadata stripeMetadataSubscriptionId
    let checkoutId ← metadataUuid settings metadata stripeMetadataCheckoutId
    let noMatch := BillingError.webhookData
      (str "Stripe subscription metadata has no matching Checkout.")
    let subscription ← required (db.scopedSubscription businessId subscriptionId) noMatch
    let checkout ← required (db.scopedCheckout businessId checkoutId) noMatch
    ensure (checkout.subscriptionId = subscription.id ∧ checkout.planId = plan.id) noMatch
    return some (instanceOf loaded subscription)

/-- The checkout named by the metadata is complete. -/
def completeCheckoutOf (subscription : Subscription) (metadata : Metadata)
    (stripeCustomerId stripeSubscriptionId : Str) (now : Datetime) :
    Except BillingError BillingDatabase := do
  match metadata.lookup stripeMetadataCheckoutId with
  | none => return db
  | some _ =>
    let checkoutId ← metadataUuid settings metadata stripeMetadataCheckoutId
    let noMatch := BillingError.webhookData (str "Stripe Checkout metadata does not match.")
    let checkout ← required (db.scopedCheckout subscription.businessId checkoutId) noMatch
    ensure (checkout.subscriptionId = subscription.id) noMatch
    let checkouts ← required (db.checkouts.update?
      { checkout with
        status := .complete
        completedAt := some (checkout.completedAt.getD now)
        stripeCustomerId := some stripeCustomerId
        stripeSubscriptionId := some stripeSubscriptionId }) .integrity
    return { db with checkouts }

/-- `sync` on a snapshot with a configured price and a known status. -/
def synchronize (subscription : Subscription) (plan : Plan) (status : SubscriptionStatus)
    (stripeSubscriptionId stripeCustomerId priceId : Str)
    (periodStartedAt periodEndsAt : Option Datetime) (metadata : Metadata) (snapshot : Dict)
    (event : EventStamp) (now : Datetime) :
    Except BillingError (BillingDatabase × Option Subscription) := do
  let modified ← subscription.synchronized plan.id status stripeSubscriptionId stripeCustomerId
    priceId periodStartedAt periodEndsAt snapshot event now
  let db₁ ← db.saveSubscription subscription modified
  let db₂ ← db₁.completeCheckoutOf settings modified metadata stripeCustomerId
    stripeSubscriptionId now
  if status = .trialing then return (db₂, some modified)
  else return (db₂.deleteTrialEntitlements modified, some modified)

/-- `sync` once it knows the price and the local row of the snapshot, if there is one. -/
def syncPrice (loaded existing : Option Subscription) (metadata : Metadata)
    (stripeSubscriptionId stripeCustomerId priceId : Str)
    (periodStartedAt periodEndsAt : Option Datetime) (snapshot : Dict) (event : EventStamp)
    (now : Datetime) : Except BillingError (BillingDatabase × Option Subscription) :=
  if (configuredPlanCodeForPrice settings priceId).isNone then do
    let subscription ← required existing
      (.webhookData (str "Stripe subscription uses an unknown Price."))
    db.failClosed subscription stripeSubscriptionId stripeCustomerId priceId snapshot event now
  else do
    let (plan, planCode) ← db.planForPrice settings priceId
    match ← db.findLocalSubscription settings loaded existing metadata plan planCode with
    | none => return (db, none)
    | some subscription =>
      ensure (subscription.stripeCustomerId.all (· == stripeCustomerId) = true)
        (.webhookData (str "Stripe Customer does not match the local subscription."))
      ensure (subscription.stripeSubscriptionId.all (· == stripeSubscriptionId) = true)
        (.webhookData (str "Stripe subscription ID does not match."))
      match SubscriptionStatus.ofValue? (← requiredString snapshot (str "status")) with
      | some status =>
        db.synchronize settings subscription plan status stripeSubscriptionId stripeCustomerId
          priceId periodStartedAt periodEndsAt metadata snapshot event now
      | none =>
        let subscription ← required existing
          (.webhookData (str "Stripe returned an unsupported subscription status."))
        db.failClosed subscription stripeSubscriptionId stripeCustomerId priceId snapshot event now

/-- `SELECT ... WHERE stripe_subscription_id = ...`. -/
def subscriptionByStripeId (stripeSubscriptionId : Str) : Option Subscription :=
  db.subscriptions.find? fun s => s.stripeSubscriptionId == some stripeSubscriptionId

/-- `sync`: `none` is a subscription that is not the application's. -/
def sync (loaded : Option Subscription) (snapshot : Dict) (event : EventStamp) (now : Datetime) :
    Except BillingError (BillingDatabase × Option Subscription) := do
  let stripeSubscriptionId ← requiredString snapshot (str "id")
  let stripeCustomerId ← required (← optionalString (snapshot.get (str "customer")))
    (.webhookData (str "Stripe subscription has no Customer."))
  let metadata ← metadataOf settings snapshot
  let existing := (db.subscriptionByStripeId stripeSubscriptionId).map (instanceOf loaded)
  if existing.isNone && !hasAppMetadata metadata then return (db, none)
  let (priceId, periodStartedAt, periodEndsAt) ← subscriptionItemDetails snapshot
  validateExisting settings existing metadata
  db.syncPrice settings loaded existing metadata stripeSubscriptionId stripeCustomerId priceId
    periodStartedAt periodEndsAt snapshot event now

end BillingDatabase

end SpikeBackend
