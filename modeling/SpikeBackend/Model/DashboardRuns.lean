import SpikeBackend.Lib.Locks
import SpikeBackend.Lib.Machine
import SpikeBackend.Model.Dashboards

/-!
# Runs of dashboard creations

Any number of requests for dashboards, each in a transaction of its own, deletions, and
transactions that write subscriptions and entitlements. A creation advances by one statement
at a time: it selects the current subscription, locks that row, counts, resolves the
entitlement, and inserts and commits. A transaction that writes a locked row waits.
-/

namespace SpikeBackend

open Relational Text Outcome Locking

/-- A request for a dashboard. -/
structure DashboardCreation where
  scope : Uuid
  createdByUserId : Uuid
  payload : DashboardCreate

/-- How far a creation is. -/
inductive DashboardClient
  | arrived (creation : DashboardCreation)
  /-- the `SELECT ... FOR UPDATE` has found its row and waits for the lock -/
  | selected (creation : DashboardCreation) (subscriptionId : Uuid)
  | locked (creation : DashboardCreation) (subscription : Subscription)
  | counted (creation : DashboardCreation) (subscription : Subscription) (currentUsage : Nat)
  | granted (creation : DashboardCreation) (subscription : Subscription) (currentUsage : Nat)
      (grant : EntitlementGrant)
  | created (dashboardId : Uuid)
  | refused (error : DashboardError)
  | rolledBack

/-- Its transaction has not ended. -/
def DashboardClient.isOpen : DashboardClient → Bool
  | .created _ | .refused _ | .rolledBack => false
  | _ => true

/-- One statement of a transaction that changes subscriptions. -/
inductive SubscriptionWrite
  | insert (row : Subscription)
  | update (row : Subscription)
  | delete (subscriptionId : Uuid)

inductive DashboardAction
  | arrive (creation : DashboardCreation)
  /-- request `i` runs its next statement; a row that it adds gets the identifier -/
  | advance (i : Nat) (dashboardId : Uuid)
  | rollback (i : Nat)
  | delete (scope dashboardId : Uuid)
  /-- a transaction that writes subscriptions, and any change of the entitlements -/
  | changeSubscriptions (writes : List SubscriptionWrite)
      (planEntitlements : Table PlanEntitlement)
      (subscriptionEntitlements : Table SubscriptionEntitlement)

structure TimedDashboardAction where
  now : Datetime
  action : DashboardAction

/-- A creation that committed: the limit that was applied to it and the committed dashboards
of its business before its own insert. -/
structure CommittedCreation where
  dashboardId : Uuid
  limitValue : Option Int
  usageBefore : Nat

structure DashboardState where
  tables : SubscriptionTables := {}
  dashboards : Table Dashboard := .empty
  clients : List DashboardClient := []
  locks : Locks Uuid := .empty
  commits : List CommittedCreation := []

namespace SubscriptionWrite

/-- The primary key of the row that is written. -/
def rowId : SubscriptionWrite → Uuid
  | .insert row => row.id
  | .update row => row.id
  | .delete subscriptionId => subscriptionId

def apply (t : Table Subscription) : SubscriptionWrite → Option (Table Subscription)
  | .insert row => t.insert? row
  | .update row => t.update? row
  | .delete subscriptionId => some (t.deleteWhere fun s => s.id == subscriptionId)

end SubscriptionWrite

namespace DashboardState

variable (s : DashboardState)

/-- A request goes on; it keeps the locks that it holds. -/
def proceed (i : Nat) (client : DashboardClient) : DashboardState :=
  { s with clients := s.clients.set i client }

/-- The end of a transaction. -/
def finish (i : Nat) (client : DashboardClient) : DashboardState :=
  { s with clients := s.clients.set i client, locks := s.locks.release i }

/-- The lock is free: the row is read again, and kept if it is still the current subscription
of the business. -/
def lockCurrentSubscription (i : Nat) (creation : DashboardCreation) (subscriptionId : Uuid) :
    DashboardState :=
  match s.tables.subscriptions.find? fun r =>
    r.id == subscriptionId && r.businessId == creation.scope && r.status.isCurrent with
  | none => s.finish i (.refused .subscriptionRequired)
  | some row =>
    { s.proceed i (.locked creation row) with locks := s.locks.acquire [subscriptionId] i }

/-- The insert and the commit. -/
def commitCreation (i : Nat) (creation : DashboardCreation) (grant : EntitlementGrant)
    (dashboardId : Uuid) (now : Datetime) : DashboardState :=
  match s.dashboards.insert?
    (creation.payload.row creation.scope creation.createdByUserId dashboardId now) with
  | none => s.finish i (.refused .conflict)
  | some dashboards =>
    { s.finish i (.created dashboardId) with
      dashboards := dashboards
      commits := ⟨dashboardId, grant.limitValue, usage s.dashboards creation.scope⟩ :: s.commits }

/-- Request `i` runs its next statement. -/
def advance (i : Nat) (dashboardId : Uuid) (now : Datetime) : DashboardState :=
  match s.clients[i]? with
  | some (.arrived creation) =>
    match s.tables.getCurrent creation.scope with
    | none => s.finish i (.refused .subscriptionRequired)
    | some row => s.proceed i (.selected creation row.id)
  | some (.selected creation subscriptionId) =>
    if s.locks.available subscriptionId i then
      s.lockCurrentSubscription i creation subscriptionId
    else s
  | some (.locked creation subscription) =>
    s.proceed i (.counted creation subscription (usage s.dashboards creation.scope))
  | some (.counted creation subscription currentUsage) =>
    match s.tables.require creation.scope (some subscription) .dashboards currentUsage now with
    | .error e => s.finish i (.refused e)
    | .ok grant => s.proceed i (.granted creation subscription currentUsage grant)
  | some (.granted creation _ _ grant) => s.commitCreation i creation grant dashboardId now
  | _ => s

/-- A transaction that writes subscriptions waits for every row that it writes. -/
def changeSubscriptions (writes : List SubscriptionWrite)
    (planEntitlements : Table PlanEntitlement)
    (subscriptionEntitlements : Table SubscriptionEntitlement) : DashboardState :=
  if writes.all fun w => (s.locks.holder w.rowId).isNone then
    match writes.foldlM SubscriptionWrite.apply s.tables.subscriptions with
    | none => s
    | some subscriptions =>
      { s with tables := { subscriptions, planEntitlements, subscriptionEntitlements } }
  else s

def step (timed : TimedDashboardAction) : DashboardState :=
  match timed.action with
  | .arrive creation => { s with clients := s.clients ++ [.arrived creation] }
  | .advance i dashboardId => s.advance i dashboardId timed.now
  | .rollback i =>
    if (s.clients[i]?).any DashboardClient.isOpen then s.finish i .rolledBack else s
  | .delete scope dashboardId =>
    { s with dashboards := deleteDashboard s.dashboards scope dashboardId }
  | .changeSubscriptions writes planEntitlements subscriptionEntitlements =>
    s.changeSubscriptions writes planEntitlements subscriptionEntitlements

end DashboardState

end SpikeBackend
