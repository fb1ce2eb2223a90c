import SpikeBackend.Lib.Session
import SpikeBackend.Model.Billing

/-!
# Onboarding

`BusinessService.onboard` (`app/services/business.py`): the business of a user, with the
trial subscription it starts on and what the trial allows.
-/

namespace SpikeBackend

open Relational Text Outcome Session

def trialDashboardLimit : Int := 1

inductive BusinessError
  | onboardingForbidden
  | alreadyExists

/-- The identifiers that an onboarding draws. -/
structure OnboardDraws where
  businessId : Uuid
  assignmentId : Uuid
  subscriptionId : Uuid
  aiEntitlementId : Uuid
  dashboardEntitlementId : Uuid

/-- The subscription a business starts on. -/
def trialSubscription (draws : OnboardDraws) (now : Datetime) : Subscription where
  id := draws.subscriptionId
  businessId := draws.businessId
  createdAt := now
  status := .trialing
  trialStartedAt := some now
  trialEndsAt := some (now + seconds (trialDays * 86400))
  currentPeriodStartedAt := some now
  currentPeriodEndsAt := some (now + seconds (trialDays * 86400))

def trialAiEntitlement (draws : OnboardDraws) : SubscriptionEntitlement where
  id := draws.aiEntitlementId
  businessId := draws.businessId
  subscriptionId := draws.subscriptionId
  key := .aiFullResponses
  source := .trial
  limitValue := some trialAiFullResponsesPerPeriod

def trialDashboardEntitlement (draws : OnboardDraws) : SubscriptionEntitlement where
  id := draws.dashboardEntitlementId
  businessId := draws.businessId
  subscriptionId := draws.subscriptionId
  key := .dashboards
  source := .trial
  limitValue := some trialDashboardLimit

namespace BillingDatabase

/-- The user may own a business. -/
def mayOnboard (user : User) : Prop :=
  user.role = .user ∧ user.isActive = true ∧ user.isVerified = true

instance (user : User) : Decidable (mayOnboard user) := inferInstanceAs (Decidable (_ ∧ _ ∧ _))

/-- `onboard`; `user` is the instance that the authentication of the request loaded, which
the locked read answers with. -/
def onboard (db : BillingDatabase) (user : User) (draws : OnboardDraws) (now : Datetime) :
    Except BusinessError (BillingDatabase × Subscription) := do
  ensure (mayOnboard user) .onboardingForbidden
  let row ← required (db.users.get? user.id) .onboardingForbidden
  ensure (mayOnboard (locked (some user) row)) .onboardingForbidden
  ensure ((db.roleAssignments.find? fun a => a.userId == user.id).isNone = true ∧
    (db.businesses.find? fun b => b.ownerUserId == user.id).isNone = true) .alreadyExists
  let businesses ← required
    (db.businesses.insert? { id := draws.businessId, ownerUserId := user.id }) .alreadyExists
  let roleAssignments ← required
    (db.roleAssignments.insert?
      { id := draws.assignmentId, businessId := draws.businessId, userId := user.id })
    .alreadyExists
  let subscription := trialSubscription draws now
  let subscriptions ← required (db.subscriptions.insert? subscription) .alreadyExists
  let withAi ← required (db.subscriptionEntitlements.insert? (trialAiEntitlement draws))
    .alreadyExists
  let subscriptionEntitlements ← required (withAi.insert? (trialDashboardEntitlement draws))
    .alreadyExists
  return ({ db with businesses, roleAssignments, subscriptions, subscriptionEntitlements },
    subscription)

end BillingDatabase

end SpikeBackend
