import SpikeBackend.Lib.Outcome
import SpikeBackend.Lib.Table
import SpikeBackend.Lib.Text

/-!
# Subscriptions

The rows that decide what a business may use (`app/models/subscription.py`) and the
two readers of them in `app/services/subscriptions.py`: `evaluateAccess`, which
period a subscription is in at an instant, and `effectiveEntitlements`, what it
allows there.

* `evaluateAccess_active` — active access is a trial or a billing period that holds
  the instant.
-/

namespace SpikeBackend

open Relational Text

/-- A row identifier. -/
abbrev Uuid := Nat

/-- An instant, in microseconds since the epoch: what a `timestamptz` column holds. -/
abbrev Datetime := Int

/-- `timedelta(seconds=n)`. -/
def seconds (n : Int) : Int := n * 1000000

/-- `timedelta(minutes=n)`. -/
def minutes (n : Int) : Int := seconds (n * 60)

inductive SubscriptionStatus
  | trialing
  | active
  | pastDue
  | unpaid
  | paused
  | incomplete
  | incompleteExpired
  | canceled
  deriving DecidableEq, Repr

def SubscriptionStatus.value : SubscriptionStatus → Str
  | .trialing => str "trialing"
  | .active => str "active"
  | .pastDue => str "past_due"
  | .unpaid => str "unpaid"
  | .paused => str "paused"
  | .incomplete => str "incomplete"
  | .incompleteExpired => str "incomplete_expired"
  | .canceled => str "canceled"

/-- `status in CURRENT_SUBSCRIPTION_STATUSES`. -/
def SubscriptionStatus.isCurrent : SubscriptionStatus → Bool
  | .incompleteExpired | .canceled => false
  | _ => true

inductive EntitlementKey
  | aiFullResponses
  | dashboards
  deriving DecidableEq, Repr

inductive EntitlementSource
  | trial
  | plan
  | override
  deriving DecidableEq, Repr

def trialDays : Int := 14

def trialAiFullResponsesPerPeriod : Int := 15

structure Subscription where
  id : Uuid
  businessId : Uuid
  createdAt : Datetime
  planId : Option Uuid := none
  status : SubscriptionStatus
  trialStartedAt : Option Datetime := none
  trialEndsAt : Option Datetime := none
  currentPeriodStartedAt : Option Datetime := none
  currentPeriodEndsAt : Option Datetime := none
  cancelAtPeriodEnd : Bool := false
  canceledAt : Option Datetime := none
  endedAt : Option Datetime := none
  stripeCustomerId : Option Str := none
  stripeSubscriptionId : Option Str := none
  stripePriceId : Option Str := none
  lastStripeEventCreatedAt : Option Datetime := none
  lastStripeEventId : Option Str := none
  lastStripeSyncedAt : Option Datetime := none

/-- One current subscription per business, one row per Stripe subscription. -/
instance : Schema Subscription Uuid where
  key := Subscription.id
  clash a b :=
    (a.businessId == b.businessId && a.status.isCurrent && b.status.isCurrent) ||
      (a.stripeSubscriptionId.isSome && a.stripeSubscriptionId == b.stripeSubscriptionId)
  checks r :=
    (r.trialEndsAt.isNone || r.trialStartedAt.isSome) &&
      (r.currentPeriodEndsAt.isNone || r.currentPeriodStartedAt.isSome)
  clash_comm a b := by
    rw [Bool.eq_iff_iff]
    simp only [Bool.or_eq_true, Bool.and_eq_true, beq_iff_eq]
    constructor
    · rintro (⟨⟨h₁, h₂⟩, h₃⟩ | ⟨h₁, h₂⟩)
      · exact .inl ⟨⟨h₁.symm, h₃⟩, h₂⟩
      · exact .inr ⟨h₂ ▸ h₁, h₂.symm⟩
    · rintro (⟨⟨h₁, h₂⟩, h₃⟩ | ⟨h₁, h₂⟩)
      · exact .inl ⟨⟨h₁.symm, h₃⟩, h₂⟩
      · exact .inr ⟨h₂ ▸ h₁, h₂.symm⟩

structure PlanEntitlement where
  id : Uuid
  planId : Uuid
  key : EntitlementKey
  isEnabled : Bool := true
  limitValue : Option Int := none

/-- `limit_value IS NULL OR limit_value >= 0`. -/
def nonnegativeLimit (limitValue : Option Int) : Bool := limitValue.all (0 ≤ ·)

instance : Schema PlanEntitlement Uuid where
  key := PlanEntitlement.id
  clash a b := decide (a.planId = b.planId ∧ a.key = b.key)
  checks r := nonnegativeLimit r.limitValue
  clash_comm a b := decide_eq_decide.mpr (by rw [eq_comm, eq_comm (a := a.key)])

structure SubscriptionEntitlement where
  id : Uuid
  businessId : Uuid
  subscriptionId : Uuid
  key : EntitlementKey
  source : EntitlementSource
  isEnabled : Bool := true
  limitValue : Option Int := none

instance : Schema SubscriptionEntitlement Uuid where
  key := SubscriptionEntitlement.id
  clash a b := decide (a.subscriptionId = b.subscriptionId ∧ a.key = b.key)
  checks r := nonnegativeLimit r.limitValue
  clash_comm a b := decide_eq_decide.mpr (by rw [eq_comm, eq_comm (a := a.key)])

-- ---------------------------------------------------------------------------
-- Access
-- ---------------------------------------------------------------------------

structure SubscriptionAccess where
  active : Bool
  reason : Str
  periodStartedAt : Option Datetime
  periodEndsAt : Option Datetime

/-- The branch `evaluate_access` takes for a period of its own: the trial of a
trialing subscription, the billing period of an active one. -/
def evaluatePeriod (startedAt endsAt : Option Datetime) (checkedAt : Datetime)
    (notConfigured notStarted expired : Str) : SubscriptionAccess :=
  match startedAt, endsAt with
  | some s, some e =>
    if checkedAt < s then ⟨false, notStarted, startedAt, endsAt⟩
    else if checkedAt < e then ⟨true, str "active", startedAt, endsAt⟩
    else ⟨false, expired, startedAt, endsAt⟩
  | _, _ => ⟨false, notConfigured, none, none⟩

def evaluateAccess (subscription : Subscription) (now : Datetime) : SubscriptionAccess :=
  match subscription.status with
  | .trialing =>
    evaluatePeriod subscription.trialStartedAt subscription.trialEndsAt now
      (str "trial_period_not_configured") (str "trial_not_started") (str "trial_expired")
  | .active =>
    evaluatePeriod subscription.currentPeriodStartedAt subscription.currentPeriodEndsAt now
      (str "billing_period_not_configured") (str "billing_period_not_started")
      (str "period_expired")
  | status =>
    ⟨false, str "subscription_" ++ status.value, subscription.currentPeriodStartedAt,
      subscription.currentPeriodEndsAt⟩

theorem evaluatePeriod_active {startedAt endsAt : Option Datetime} {now : Datetime}
    {notConfigured notStarted expired : Str}
    (h : (evaluatePeriod startedAt endsAt now notConfigured notStarted expired).active = true) :
    ∃ s e, startedAt = some s ∧ endsAt = some e ∧ s ≤ now ∧ now < e ∧
      evaluatePeriod startedAt endsAt now notConfigured notStarted expired =
        ⟨true, str "active", some s, some e⟩ := by
  cases startedAt with
  | none => simp [evaluatePeriod] at h
  | some s =>
    cases endsAt with
    | none => simp [evaluatePeriod] at h
    | some e =>
      simp only [evaluatePeriod] at h ⊢
      by_cases hStart : now < s
      · simp [hStart] at h
      · by_cases hEnd : now < e
        · refine ⟨s, e, rfl, rfl, Int.not_lt.mp hStart, hEnd, ?_⟩
          rw [if_neg hStart, if_pos hEnd]
        · simp [hStart, hEnd] at h

/-- **Active access.** The subscription is trialing inside its trial or active inside
its billing period, and the access carries that period. -/
theorem evaluateAccess_active {subscription : Subscription} {now : Datetime}
    (h : (evaluateAccess subscription now).active = true) :
    ∃ s e, s ≤ now ∧ now < e ∧
      (evaluateAccess subscription now).periodStartedAt = some s ∧
      (evaluateAccess subscription now).periodEndsAt = some e ∧
      (subscription.status = .trialing ∧ subscription.trialStartedAt = some s ∧
          subscription.trialEndsAt = some e ∨
        subscription.status = .active ∧ subscription.currentPeriodStartedAt = some s ∧
          subscription.currentPeriodEndsAt = some e) := by
  unfold evaluateAccess at h ⊢
  cases hStatus : subscription.status <;> simp only [hStatus] at h ⊢
  case trialing =>
    obtain ⟨s, e, hs, he, hle, hlt, hEq⟩ := evaluatePeriod_active h
    exact ⟨s, e, hle, hlt, by rw [hEq], by rw [hEq], .inl ⟨trivial, hs, he⟩⟩
  case active =>
    obtain ⟨s, e, hs, he, hle, hlt, hEq⟩ := evaluatePeriod_active h
    exact ⟨s, e, hle, hlt, by rw [hEq], by rw [hEq], .inr ⟨trivial, hs, he⟩⟩
  all_goals simp at h

-- ---------------------------------------------------------------------------
-- Entitlements
-- ---------------------------------------------------------------------------

structure EffectiveEntitlement where
  key : EntitlementKey
  isEnabled : Bool
  limitValue : Option Int
  source : EntitlementSource

/-- The rows that decide what a business may use. -/
structure SubscriptionTables where
  subscriptions : Table Subscription := .empty
  planEntitlements : Table PlanEntitlement := .empty
  subscriptionEntitlements : Table SubscriptionEntitlement := .empty

namespace SubscriptionTables

variable (db : SubscriptionTables) (scope : Uuid)

/-- The current subscription of the business; the partial unique index leaves at most
one, so the source's `order_by(created_at.desc())` has nothing to choose from. -/
def getCurrent : Option Subscription :=
  db.subscriptions.find? fun s => s.businessId == scope && s.status.isCurrent

/-- The value `effective_entitlements` ends up with under one key: the subscription's
own row overrides the plan's. -/
def effectiveEntitlement (subscription : Subscription) (key : EntitlementKey) :
    Option EffectiveEntitlement :=
  let own := db.subscriptionEntitlements.find? fun e =>
    e.businessId == scope && e.subscriptionId == subscription.id && e.key == key
  let plan := subscription.planId.bind fun planId =>
    db.planEntitlements.find? fun e => e.planId == planId && e.key == key
  match own, plan with
  | some e, _ => some ⟨key, e.isEnabled, e.limitValue, e.source⟩
  | none, some e => some ⟨key, e.isEnabled, e.limitValue, .plan⟩
  | none, none => none

/-- Sorted by key, as the source sorts them. -/
def effectiveEntitlements (subscription : Subscription) : List EffectiveEntitlement :=
  [EntitlementKey.aiFullResponses, .dashboards].filterMap
    (db.effectiveEntitlement scope subscription)

/-- `next((item for item in effective if item.key == key), None)`. -/
def entitlementFor (subscription : Subscription) (key : EntitlementKey) :
    Option EffectiveEntitlement :=
  (db.effectiveEntitlements scope subscription).find? (·.key == key)

variable {db scope}

theorem getCurrent_eq_some {subscription : Subscription}
    (h : db.getCurrent scope = some subscription) :
    subscription ∈ db.subscriptions ∧ subscription.businessId = scope ∧
      subscription.status.isCurrent = true := by
  have hp := Table.prop_of_find? h
  rw [Bool.and_eq_true, beq_iff_eq] at hp
  exact ⟨Table.mem_of_find? h, hp⟩

/-- A business has one current subscription. -/
theorem getCurrent_of_mem {subscription : Subscription} (hMem : subscription ∈ db.subscriptions)
    (hScope : subscription.businessId = scope)
    (hCurrent : subscription.status.isCurrent = true) :
    db.getCurrent scope = some subscription := by
  cases hFound : db.getCurrent scope with
  | none =>
    have := Table.find?_eq_none.mp hFound subscription hMem
    simp [hScope, hCurrent] at this
  | some current =>
    obtain ⟨hMem', hScope', hCurrent'⟩ := getCurrent_eq_some hFound
    have hClash : Schema.clash current subscription = true := by
      simp [Schema.clash, hScope, hScope', hCurrent, hCurrent']
    rw [Table.eq_of_clash hMem' hMem hClash]

theorem effectiveEntitlement_key {subscription : Subscription} {key : EntitlementKey}
    {e : EffectiveEntitlement} (h : db.effectiveEntitlement scope subscription key = some e) :
    e.key = key := by
  unfold effectiveEntitlement at h
  dsimp only at h
  split at h
  · simp only [Option.some.injEq] at h
    rw [← h]
  · simp only [Option.some.injEq] at h
    rw [← h]
  · simp at h

/-- Looking a key up in the sorted list finds what was put under it. -/
theorem entitlementFor_eq (subscription : Subscription) (key : EntitlementKey) :
    db.entitlementFor scope subscription key = db.effectiveEntitlement scope subscription key := by
  unfold entitlementFor effectiveEntitlements
  cases hAi : db.effectiveEntitlement scope subscription .aiFullResponses with
  | none =>
    cases hDash : db.effectiveEntitlement scope subscription .dashboards with
    | none => cases key <;> simp [hAi, hDash]
    | some d =>
      have hd := effectiveEntitlement_key hDash
      cases key <;> simp [hAi, hDash, hd]
  | some a =>
    have ha := effectiveEntitlement_key hAi
    cases hDash : db.effectiveEntitlement scope subscription .dashboards with
    | none => cases key <;> simp [hAi, hDash, ha]
    | some d =>
      have hd := effectiveEntitlement_key hDash
      cases key <;> simp [hAi, hDash, ha, hd]

end SubscriptionTables

end SpikeBackend
