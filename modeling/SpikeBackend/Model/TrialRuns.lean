import SpikeBackend.Lib.Machine
import SpikeBackend.Model.Onboarding
import SpikeBackend.Model.StripeWebhook

/-!
# Runs over the trials of businesses

Businesses are onboarded, reserve and settle AI credits and start checkouts, while Stripe
delivers its webhooks, in any order over one database; each transaction is one step. A
run books beside the database what its claim speaks of: the trial ends that went out to
Stripe and the ledger entries reserved during a trial.
-/

namespace SpikeBackend

open Relational Text Outcome

inductive TrialAction
  | onboard (user : User) (draws : OnboardDraws)
  | reserve (scope : Uuid) (idempotencyKey : Str) (accountId entryId : Uuid)
  | consume (scope entryId : Uuid)
  | release (scope entryId : Uuid) (reason : Str)
  /-- a checkout creation, up to the call of Stripe -/
  | prepareCheckout (scope : Uuid) (loadedUser : Option User) (userId : Uuid)
      (planCode : SeededPlanCode) (idempotencyKey : Str) (price : Except BillingError Dict)
      (draws : CheckoutDraws)
  /-- a checkout creation, after Stripe returned a session -/
  | recordCheckout (scope : Uuid) (checkout : BillingCheckoutSession) (planCode : SeededPlanCode)
      (remote : Dict)
  /-- a checkout creation, after Stripe refused it -/
  | expireRejectedAttempt (scope : Uuid) (checkout : BillingCheckoutSession)
  /-- a delivery, with the answer of Stripe to `retrieve_subscription` -/
  | webhook (retrieved : Except BillingError Dict) (delivery : Dict) (draws : WebhookDraws)
  /-- the account services change the users -/
  | changeUsers (users : Table User)

structure TimedTrialAction where
  now : Datetime
  action : TrialAction

structure TrialState where
  db : BillingDatabase := {}
  /-- the subscriptions that a checkout was created for, with the trial end it was sent -/
  sent : List (Uuid × Option Int) := []
  /-- the ledger entries reserved while their business was trialing -/
  trialEntries : List Uuid := []

/-- An entry of the business that is among `entries` and not released. -/
def AICreditLedgerEntry.isTrialUse (scope : Uuid) (entries : List Uuid)
    (e : AICreditLedgerEntry) : Bool :=
  e.businessId == scope && entries.contains e.id && e.status != .released

/-- `params["subscription_data"].get("trial_end")`. -/
def trialEndOf (params : Dict) : Option Int :=
  match params.get (str "subscription_data") with
  | .obj data =>
    match Dict.get data (str "trial_end") with
    | .int n => some n
    | _ => none
  | _ => none

namespace BillingDatabase

variable (db : BillingDatabase)

/-- The business's current subscription is trialing. -/
def isTrialing (scope : Uuid) : Bool := (db.getCurrent scope).any (·.status == .trialing)

/-- The subscription that an invoice handler selects before it calls Stripe. -/
def invoiceExisting (settings : BillingSettings) (delivery : Dict) : Option Subscription :=
  match parseStripeEvent settings delivery with
  | .error _ => none
  | .ok event =>
    match invoiceSubscriptionId event.stripeObject with
    | .ok (some stripeSubscriptionId) => db.subscriptionByStripeId stripeSubscriptionId
    | _ => none

end BillingDatabase

namespace TrialState

/-- A transaction that leaves the credits and the record of the run alone. -/
def withDb (s : TrialState) (db : BillingDatabase) : TrialState := { s with db }

/-- A transaction on the credit tables. -/
def commitCredits {α : Type} (s : TrialState) (outcome : Except AICreditError (CreditTables × α)) :
    TrialState :=
  s.withDb { s.db with toCreditTables := commit s.db.toCreditTables outcome }

/-- A reservation; a new entry of a trialing business is booked. -/
def reserve (settings : BillingSettings) (s : TrialState) (scope : Uuid) (idempotencyKey : Str)
    (accountId entryId : Uuid) (now : Datetime) : TrialState :=
  let outcome := s.db.toCreditTables.reserve scope settings.sha256 idempotencyKey now accountId
    entryId
  let s' := s.commitCredits outcome
  match outcome with
  | .ok (_, snapshot) =>
    if snapshot.replayed = false ∧ s.db.isTrialing scope = true then
      { s' with trialEntries := snapshot.entryId :: s.trialEntries }
    else s'
  | .error _ => s'

/-- A checkout creation; the trial end it sends is booked. -/
def prepareCheckout (settings : BillingSettings) (s : TrialState) (scope : Uuid)
    (loadedUser : Option User) (userId : Uuid) (planCode : SeededPlanCode) (idempotencyKey : Str)
    (price : Except BillingError Dict) (draws : CheckoutDraws) (now : Datetime) : TrialState :=
  match s.db.prepareCheckout settings scope loadedUser userId planCode idempotencyKey price now
    draws with
  | .ok (db, .send attempt params) =>
    { s with db, sent := (attempt.subscription.id, trialEndOf params) :: s.sent }
  | .ok (db, .finished _) => s.withDb db
  | .error _ => s

def step (settings : BillingSettings) (s : TrialState) (timed : TimedTrialAction) : TrialState :=
  let now := timed.now
  match timed.action with
  | .onboard user draws => s.withDb (commit s.db (s.db.onboard user draws now))
  | .reserve scope key accountId entryId => s.reserve settings scope key accountId entryId now
  | .consume scope entryId => s.commitCredits (s.db.toCreditTables.consume scope entryId now)
  | .release scope entryId reason =>
    s.commitCredits (s.db.toCreditTables.release scope entryId reason now)
  | .prepareCheckout scope loadedUser userId planCode key price draws =>
    s.prepareCheckout settings scope loadedUser userId planCode key price draws now
  | .recordCheckout scope checkout planCode remote =>
    s.withDb (commit s.db (s.db.recordCheckout scope checkout planCode remote))
  | .expireRejectedAttempt scope checkout =>
    s.withDb (commit s.db (s.db.expireRejectedAttempt scope checkout now))
  | .webhook retrieved delivery draws =>
    s.withDb (commit s.db (s.db.process settings
      ⟨s.db.invoiceExisting settings delivery, retrieved⟩ delivery draws now))
  | .changeUsers users => s.withDb { s.db with users }

/-- An installation with its plans and users, before the first business. -/
def init (plans : Table Plan) (planEntitlements : Table PlanEntitlement) (users : Table User) :
    TrialState where
  db := { plans, planEntitlements, users }

/-- The entries of a business that were reserved during its trial and still count. -/
def trialUse (s : TrialState) (scope : Uuid) : Nat :=
  s.db.ledger.count (AICreditLedgerEntry.isTrialUse scope s.trialEntries)

end TrialState

end SpikeBackend
