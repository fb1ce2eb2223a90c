import SpikeBackend.Lib.Json
import SpikeBackend.Lib.Session
import SpikeBackend.Model.Subscriptions

/-!
# Dashboards

The rows of `dashboards` (`app/models/dashboard.py`), what `EntitlementService.require`
grants (`app/services/subscriptions.py`) and the statements of `DashboardService`
(`app/services/dashboards.py`).

* `require_eq_ok` — a grant is for fewer than its limit;
* `usage_insert?`, `usage_delete_le` — how a creation and a deletion move the usage.
-/

namespace SpikeBackend

open Relational Text Outcome Session

def dashboardTitleMaxLength : Nat := 160

/-- `normalize_dashboard_title` (`app/schemas/dashboard.py`); `none` is a `ValueError`. -/
def normalizeDashboardTitle (value : Str) : Option Str :=
  let normalized := strip value
  if 1 ≤ normalized.length ∧ normalized.length ≤ dashboardTitleMaxLength then some normalized
  else none

inductive DashboardType
  | executiveSummary
  | financialPerformance
  | operationalKpi
  deriving DecidableEq, Repr

structure Dashboard where
  id : Uuid
  businessId : Uuid
  createdByUserId : Uuid
  dashboardType : DashboardType
  title : Str
  configuration : Json := .obj []
  insightConfiguration : Option Json := none
  createdAt : Datetime
  updatedAt : Datetime

/-- `char_length(trim(title)) BETWEEN 1 AND 160`, and both configurations are objects; the
unique constraint is on the primary key and the business. -/
instance : Schema Dashboard Uuid where
  key := Dashboard.id
  clash _ _ := false
  checks r :=
    let length := (trimBy (·.val == 0x20) r.title).length
    decide (1 ≤ length) && decide (length ≤ dashboardTitleMaxLength) && r.configuration.isObject &&
      r.insightConfiguration.all (·.isObject)
  clash_comm _ _ := rfl

/-- A validated request for a dashboard. -/
structure DashboardCreate where
  dashboardType : DashboardType
  title : Str
  configuration : Json
  insightConfiguration : Option Json

inductive DashboardError
  | subscriptionRequired
  | subscriptionInactive (reason : Str)
  | entitlementDenied
  | entitlementLimitReached
  | conflict
  | notFound
  deriving DecidableEq, Repr

structure EntitlementGrant where
  subscriptionId : Uuid
  businessId : Uuid
  key : EntitlementKey
  limitValue : Option Int
  remaining : Option Int
  periodStartedAt : Option Datetime
  periodEndsAt : Option Datetime
  deriving DecidableEq, Repr

-- ---------------------------------------------------------------------------
-- Entitlements
-- ---------------------------------------------------------------------------

namespace SubscriptionTables

variable (db : SubscriptionTables) (scope : Uuid)

/-- `EntitlementService.require`; `held` is the subscription that the session has loaded. -/
def require (held : Option Subscription) (key : EntitlementKey) (currentUsage : Int)
    (now : Datetime) : Except DashboardError EntitlementGrant := do
  let row ← required (db.getCurrent scope) .subscriptionRequired
  let subscription := locked (held.filter (·.id == row.id)) row
  let access := evaluateAccess subscription now
  ensure (access.active = true) (.subscriptionInactive access.reason)
  let entitlement ← required (db.entitlementFor scope subscription key) .entitlementDenied
  ensure (entitlement.isEnabled = true) .entitlementDenied
  ensure (entitlement.limitValue.all (currentUsage < ·) = true) .entitlementLimitReached
  pure
    { subscriptionId := subscription.id
      businessId := subscription.businessId
      key := key
      limitValue := entitlement.limitValue
      remaining := entitlement.limitValue.map (· - currentUsage)
      periodStartedAt := access.periodStartedAt
      periodEndsAt := access.periodEndsAt }

variable {db scope}

/-- **Grant.** It is for fewer than its limit. -/
theorem require_eq_ok {held : Option Subscription} {key : EntitlementKey} {currentUsage : Int}
    {now : Datetime} {grant : EntitlementGrant}
    (h : db.require scope held key currentUsage now = .ok grant) :
    grant.limitValue.all (currentUsage < ·) = true := by
  simp only [require, bind_eq_ok, required_eq_ok, ensure_eq_ok] at h
  obtain ⟨row, -, -, -, entitlement, -, -, -, -, hLimit, hGrant⟩ := h
  simp only [pure, Except.pure, Except.ok.injEq] at hGrant
  rw [← hGrant]
  exact hLimit

end SubscriptionTables

-- ---------------------------------------------------------------------------
-- Dashboards of a business
-- ---------------------------------------------------------------------------

/-- `_usage`. -/
def usage (dashboards : Table Dashboard) (scope : Uuid) : Nat :=
  dashboards.count fun d => d.businessId == scope

/-- The row that `create` adds. -/
def DashboardCreate.row (payload : DashboardCreate) (scope createdByUserId dashboardId : Uuid)
    (now : Datetime) : Dashboard :=
  { id := dashboardId
    businessId := scope
    createdByUserId := createdByUserId
    dashboardType := payload.dashboardType
    title := payload.title
    configuration := payload.configuration
    insightConfiguration := payload.insightConfiguration
    createdAt := now
    updatedAt := now }

/-- `delete`: the row of the business goes. -/
def deleteDashboard (dashboards : Table Dashboard) (scope dashboardId : Uuid) : Table Dashboard :=
  dashboards.deleteWhere fun d => d.businessId == scope && d.id == dashboardId

theorem usage_insert? {dashboards dashboards' : Table Dashboard} {row : Dashboard}
    (h : dashboards.insert? row = some dashboards') (scope : Uuid) :
    usage dashboards' scope = usage dashboards scope + if row.businessId = scope then 1 else 0 := by
  have hCount := Table.count_insert? (fun d : Dashboard => d.businessId == scope) h
  simpa only [usage, beq_iff_eq] using hCount

theorem usage_delete_le (dashboards : Table Dashboard) (scope owner dashboardId : Uuid) :
    usage (deleteDashboard dashboards owner dashboardId) scope ≤ usage dashboards scope := by
  unfold usage Table.count deleteDashboard Table.deleteWhere
  exact List.Sublist.countP_le List.filter_sublist

end SpikeBackend
