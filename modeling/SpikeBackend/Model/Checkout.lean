import SpikeBackend.Lib.Binary64
import SpikeBackend.Lib.Session
import SpikeBackend.Model.Billing

/-!
# Checkout

`CheckoutService` (`app/services/billing.py`). A creation is three pieces of code around
one call of Stripe: `prepareCheckout`, the transaction that finds or inserts the attempt
and builds the parameters; then, after the call, `recordCheckout` for the session that
Stripe returned or `expireRejectedAttempt` for a request that Stripe refused. The session
of the request keeps the instance of the attempt from the first piece on, so the locked
reads of the others answer with that instance, and their flushes write the columns that
differ from what it was loaded with.
-/

namespace SpikeBackend

open Relational Text Outcome Session

/-- `int(instant.timestamp())`: the float of the seconds, cut towards zero. -/
def timestamp (instant : Datetime) : Int :=
  (totalSeconds instant).num.tdiv (totalSeconds instant).den

/-- `STRIPE_MINIMUM_ABSOLUTE_TRIAL_LEAD`. -/
def stripeMinimumAbsoluteTrialLead : Int := minutes (49 * 60)

/-- `_remaining_trial_end`. -/
def remainingTrialEnd (subscription : Subscription) (now : Datetime) : Option Int :=
  if subscription.status ≠ .trialing ∨ subscription.stripeSubscriptionId ≠ none then none
  else
    match subscription.trialEndsAt with
    | none => none
    | some trialEndsAt =>
      if trialEndsAt < now + stripeMinimumAbsoluteTrialLead then none
      else some (timestamp trialEndsAt)

/-- The metadata of a session and of the subscription it starts. -/
def checkoutMetadata (settings : BillingSettings) (checkout : BillingCheckoutSession)
    (planCode : SeededPlanCode) : Dict :=
  [(stripeMetadataBusinessId, .str (settings.uuidStr checkout.businessId)),
    (stripeMetadataSubscriptionId, .str (settings.uuidStr checkout.subscriptionId)),
    (stripeMetadataPlanCode, .str planCode.value),
    (stripeMetadataCheckoutId, .str (settings.uuidStr checkout.id)),
    (stripeMetadataEnvironment, .str settings.appEnv.value)]

def buildCheckoutParams (settings : BillingSettings) (checkout : BillingCheckoutSession)
    (subscription : Subscription) (planCode : SeededPlanCode) (priceId customerEmail : Str)
    (stripeCustomerId : Option Str) (now : Datetime) : Dict :=
  let metadata := checkoutMetadata settings checkout planCode
  let subscriptionData : Dict :=
    (str "metadata", Json.obj metadata) ::
      match remainingTrialEnd subscription now with
      | some trialEnd =>
        [(str "trial_end", .int trialEnd),
          (str "trial_settings",
            .obj [(str "end_behavior", .obj [(str "missing_payment_method", .str (str "cancel"))])])]
      | none => []
  [(str "mode", .str (str "subscription")),
    (str "line_items", .arr [.obj [(str "price", .str priceId), (str "quantity", .int 1)]]),
    (str "client_reference_id", .str (settings.uuidStr checkout.id)),
    (str "metadata", .obj metadata),
    (str "subscription_data", .obj subscriptionData),
    (str "payment_method_collection", .str (str "always")),
    (str "success_url", .str settings.stripeCheckoutSuccessUrl),
    (str "cancel_url", .str settings.stripeCheckoutCancelUrl),
    (str "expires_at", .int (timestamp (now + minutes settings.stripeCheckoutSessionMinutes))),
    match stripeCustomerId with
    | some customer => (str "customer", .str customer)
    | none => (str "customer_email", .str customerEmail)]

/-- The row that a flush leaves of an instance that was loaded as `loaded` and is now
`modified`. -/
def BillingCheckoutSession.flush (loaded modified row : BillingCheckoutSession) :
    BillingCheckoutSession :=
  { row with
    status := column loaded.status modified.status row.status
    stripeCheckoutSessionId := column loaded.stripeCheckoutSessionId
      modified.stripeCheckoutSessionId row.stripeCheckoutSessionId
    checkoutUrl := column loaded.checkoutUrl modified.checkoutUrl row.checkoutUrl
    expiresAt := column loaded.expiresAt modified.expiresAt row.expiresAt }

/-- An attempt after its `expires_at`. -/
def BillingCheckoutSession.isStale (checkout : BillingCheckoutSession) (scope : Uuid)
    (now : Datetime) : Bool :=
  checkout.businessId == scope && checkout.status.isUnfinished &&
    checkout.expiresAt.any (· ≤ now)

def BillingCheckoutSession.markExpired (checkout : BillingCheckoutSession) :
    BillingCheckoutSession :=
  { checkout with status := .expired }

private theorem clash_expired {now : Datetime} {scope : Uuid} (a b : BillingCheckoutSession)
    (h : Schema.clash a b = false) :
    Schema.clash (if a.isStale scope now then a.markExpired else a)
      (if b.isStale scope now then b.markExpired else b) = false := by
  simp only [Schema.clash, Bool.or_eq_false_iff] at h ⊢
  obtain ⟨⟨hDigest, hUnfinished⟩, hSession⟩ := h
  split <;> split <;>
    simp_all [BillingCheckoutSession.markExpired, BillingCheckoutStatus.isUnfinished]

/-- The checkouts with the stale attempts of the business expired. -/
def expireStale (checkouts : Table BillingCheckoutSession) (scope : Uuid) (now : Datetime) :
    Table BillingCheckoutSession :=
  checkouts.map (fun c => if c.isStale scope now then c.markExpired else c)
    (fun c => by split <;> rfl) clash_expired (fun c h => by split <;> exact h)

/-- What a creation draws from outside: the identifiers of the rows it may insert and
their `created_at`. -/
structure CheckoutDraws where
  subscriptionId : Uuid
  checkoutId : Uuid
  createdAt : Datetime

/-- What `_prepare_attempt` returns. -/
structure PreparedAttempt where
  checkout : BillingCheckoutSession
  subscription : Subscription
  customerId : Option Str

structure CheckoutResult where
  checkout : BillingCheckoutSession
  planCode : SeededPlanCode

/-- Where `create` stands before it calls Stripe. -/
inductive PreparedCheckout
  | finished (result : CheckoutResult)
  | send (attempt : PreparedAttempt) (params : Dict)

namespace BillingDatabase

variable (db : BillingDatabase) (settings : BillingSettings) (scope : Uuid)

/-- `_plan`. -/
def eligiblePlan (planCode : SeededPlanCode) : Except BillingError Plan := do
  let plan ← required
    (db.plans.find? fun p => p.code == planCode.value && p.isActive && p.isPublic) .planNotFound
  ensure (plan.isCustomPricing = false ∧ configuredPriceId settings planCode ≠ none)
    .planNotCheckoutEligible
  return plan

/-- `_lock_active_user`, over the instance of the user that the session holds. -/
def lockActiveUser (loaded : Option User) (userId : Uuid) : Except BillingError User := do
  let row ← required (db.users.get? userId) .checkoutConflict
  let user := locked loaded row
  ensure (user.isActive = true ∧ user.isVerified = true ∧ user.deletedAt = none) .checkoutConflict
  return user

/-- `_expire_stale_attempts`. -/
def expireStaleAttempts (now : Datetime) : BillingDatabase :=
  { db with checkouts := expireStale db.checkouts scope now }

/-- `_latest_customer_id`. -/
def latestCustomerId : Option Str :=
  (db.subscriptions.latest? (fun s => s.businessId == scope && s.stripeCustomerId.isSome)
    (·.createdAt)).bind (·.stripeCustomerId)

/-- `scope.get(session, Subscription, id)`. -/
def scopedSubscription (subscriptionId : Uuid) : Option Subscription :=
  db.subscriptions.find? fun s => s.businessId == scope && s.id == subscriptionId

/-- `scope.get(session, BillingCheckoutSession, id)`. -/
def scopedCheckout (checkoutId : Uuid) : Option BillingCheckoutSession :=
  db.checkouts.find? fun c => c.businessId == scope && c.id == checkoutId

def checkoutByDigest (digest : Str) : Option BillingCheckoutSession :=
  db.checkouts.find? fun c => c.businessId == scope && c.idempotencyKeyDigest == digest

/-- The attempt of the business that is pending or open; the partial unique index leaves
at most one. -/
def unfinishedCheckout : Option BillingCheckoutSession :=
  db.checkouts.find? fun c => c.businessId == scope && c.status.isUnfinished

/-- The subscription that a new attempt is for: the current one, unless it is or is about
to be paid for, or a new incomplete one. -/
def subscriptionForAttempt (draws : CheckoutDraws) :
    Except BillingError (BillingDatabase × Subscription) :=
  match db.getCurrent scope with
  | some subscription => do
    ensure (subscription.stripeSubscriptionId = none) .checkoutConflict
    -- Stripe finished a checkout whose webhook has not attached its subscription yet
    ensure ((db.checkouts.find? fun c => c.businessId == scope &&
      c.subscriptionId == subscription.id && c.status == .complete &&
      c.stripeSubscriptionId.isSome).isNone = true) .checkoutConflict
    return (db, subscription)
  | none => do
    let subscription : Subscription :=
      { id := draws.subscriptionId
        businessId := scope
        createdAt := draws.createdAt
        status := .incomplete }
    let subscriptions ← required (db.subscriptions.insert? subscription) .integrity
    return ({ db with subscriptions }, subscription)

/-- The answer for a key whose attempt another request inserted first. -/
def duplicateAttempt (plan : Plan) (digest : Str) :
    Except BillingError (BillingDatabase × PreparedAttempt) :=
  match (db.checkoutByDigest scope digest).filter (·.planId == plan.id) with
  | some duplicate => do
    let subscription ← required (db.scopedSubscription scope duplicate.subscriptionId)
      .checkoutConflict
    return (db, ⟨duplicate, subscription, db.latestCustomerId scope⟩)
  | none =>
    match db.unfinishedCheckout scope with
    | some openCheckout => throw (.checkoutInProgress openCheckout)
    | none => throw .integrity

/-- The attempt that a creation inserts. -/
def newAttempt (plan : Plan) (digest : Str) (subscriptionId : Uuid) (now : Datetime)
    (draws : CheckoutDraws) : BillingCheckoutSession where
  id := draws.checkoutId
  businessId := scope
  createdAt := draws.createdAt
  subscriptionId := subscriptionId
  planId := plan.id
  idempotencyKeyDigest := digest
  expiresAt := some (now + minutes settings.stripeCheckoutSessionMinutes)

/-- `_prepare_attempt`. An insert that the database refuses rolls the transaction back,
the expiries included. -/
def prepareAttempt (plan : Plan) (digest : Str) (now : Datetime) (draws : CheckoutDraws) :
    Except BillingError (BillingDatabase × PreparedAttempt) :=
  let db₁ := db.expireStaleAttempts scope now
  match db₁.checkoutByDigest scope digest with
  | some existing => do
    ensure (existing.planId = plan.id) .checkoutConflict
    let subscription ← required (db₁.scopedSubscription scope existing.subscriptionId)
      .checkoutConflict
    return (db₁, ⟨existing, subscription, db₁.latestCustomerId scope⟩)
  | none =>
    match db₁.unfinishedCheckout scope with
    | some openCheckout => throw (.checkoutInProgress openCheckout)
    | none => do
      let (db₂, subscription) ← db₁.subscriptionForAttempt scope draws
      let checkout := newAttempt settings scope plan digest subscription.id now draws
      match db₂.checkouts.insert? checkout with
      | some checkouts =>
        return ({ db₂ with checkouts }, ⟨checkout, subscription, db₂.latestCustomerId scope⟩)
      | none => db.duplicateAttempt scope plan digest

/-- `create` up to the call of Stripe; `price` is what `retrieve_price` answered. -/
def prepareCheckout (loadedUser : Option User) (userId : Uuid) (planCode : SeededPlanCode)
    (idempotencyKey : Str) (price : Except BillingError Dict) (now : Datetime)
    (draws : CheckoutDraws) : Except BillingError (BillingDatabase × PreparedCheckout) := do
  ensure (settings.stripeEnabled = true) .notConfigured
  let plan ← db.eligiblePlan settings planCode
  let priceId ← required (configuredPriceId settings planCode) .planNotCheckoutEligible
  let remotePrice ← price
  validateCheckoutPrice settings remotePrice priceId plan
  let lockedUser ← db.lockActiveUser loadedUser userId
  let encoded ← required (encode? idempotencyKey) .unicodeEncode
  let (db', attempt) ← db.prepareAttempt settings scope plan (settings.sha256 encoded) now draws
  if attempt.checkout.status ≠ .pending then
    return (db', .finished ⟨attempt.checkout, planCode⟩)
  else
    return (db', .send attempt
      (buildCheckoutParams settings attempt.checkout attempt.subscription planCode priceId
        lockedUser.email attempt.customerId now))

/-- The outbound idempotency key of an attempt. -/
def outboundKey (checkout : BillingCheckoutSession) : Str :=
  str "spike_checkout_" ++ settings.uuidStr checkout.id

/-- `create` after Stripe returned a session; `checkout` is the instance of the request. -/
def recordCheckout (checkout : BillingCheckoutSession) (planCode : SeededPlanCode)
    (remote : Dict) : Except BillingError (BillingDatabase × CheckoutResult) := do
  let remoteId ← requiredString remote (str "id")
  let checkoutUrl ← requiredString remote (str "url")
  let expiresAt ← required (← stripeDatetime (remote.get (str "expires_at")))
    (.gateway (str "Stripe Checkout did not return an expiry time."))
  match remote.get (str "mode") with
  | .arr _ | .obj _ => throw .unhashable
  | mode =>
    ensure ((mode.isNull || mode.eqStr (str "subscription")) = true)
      (.gateway (str "Stripe Checkout returned the wrong mode."))
  let row ← required (db.scopedCheckout scope checkout.id) .noResult
  let modified : BillingCheckoutSession :=
    { checkout with
      stripeCheckoutSessionId := some remoteId
      checkoutUrl := some checkoutUrl
      expiresAt := some expiresAt
      status := if checkout.status = .pending then .open else checkout.status }
  let checkouts ← required (db.checkouts.update? (checkout.flush modified row)) .integrity
  return ({ db with checkouts }, ⟨modified, planCode⟩)

/-- `_expire_rejected_attempt`, over the instance of the request. -/
def expireRejectedAttempt (checkout : BillingCheckoutSession) (now : Datetime) :
    Except BillingError (BillingDatabase × Unit) := do
  let row ← required (db.scopedCheckout scope checkout.id) .noResult
  if checkout.status = .pending ∧ checkout.stripeCheckoutSessionId = none ∧
      checkout.checkoutUrl = none then
    let modified := { checkout.markExpired with expiresAt := some now }
    let checkouts ← required (db.checkouts.update? (checkout.flush modified row)) .integrity
    return ({ db with checkouts }, ())
  else return (db, ())

end BillingDatabase

end SpikeBackend
