import SpikeBackend.Model.Checkout
import SpikeBackend.Model.VerificationCodes

/-!
# Closing accounts

`AccountSecurityService.delete_account` (`app/services/account_security.py`), over the
billing and the sign-in tables together: it ends what the business of the account has and
leaves an anonymous row that nobody can sign in with. Its checks and its writes are apart,
since the hash of the new password is computed between them. The tenant of a request
(`app/services/tenant.py`) and the account states of the administration
(`app/services/admin_accounts.py`) are read from the same tables.
-/

namespace SpikeBackend

open Relational Text Outcome Session

/-- The billing tables with those of the sign-in, over the same accounts. -/
structure PlatformDatabase extends BillingDatabase where
  challenges : Table EmailTwoStepChallenge := .empty
  emailChangeOtps : Table EmailChangeOtp := .empty
  passwordResetOtps : Table PasswordResetOtp := .empty
  emailVerificationOtps : Table EmailVerificationOtp := .empty
  refreshTokens : Table RefreshToken := .empty

inductive ClosureError
  | account (error : AccountError)
  | billingConflict
  | lastSuperAdmin

namespace User

/-- The account without what identifies its owner. The address draws a nonce, the password a
random one whose hash is `passwordHash`. -/
def anonymized (user : User) (nonce passwordHash : Str) (now : Datetime) : User :=
  { user with
    email := str "deleted-" ++ hexText 32 user.id ++ str "-" ++ nonce ++ str "@deleted.invalid"
    passwordHash
    isActive := false
    isVerified := false
    emailTwoStepEnabled := false
    emailTwoStepEnabledAt := none
    lastLoginAt := none
    deletedAt := some now
    authSessionVersion := user.authSessionVersion + 1 }

/-- The flush of a closed account over its row. -/
def flushClosure (modified loaded row : User) : User :=
  { modified.flushAccount loaded row with
    deletedAt := column loaded.deletedAt modified.deletedAt row.deletedAt }

end User

/-- A subscription that ends with the account of its owner. -/
def Subscription.closed (s : Subscription) (now : Datetime) : Subscription :=
  { s with
    status := .canceled
    cancelAtPeriodEnd := false
    canceledAt := some now
    endedAt := some now }

namespace PlatformDatabase

variable (db : PlatformDatabase) (settings : AuthSettings)

/-- The sign-in tables. -/
def signIn : AccountDatabase where
  twoStep := { users := db.users, challenges := db.challenges }
  emailChangeOtps := db.emailChangeOtps
  passwordResetOtps := db.passwordResetOtps
  refreshTokens := db.refreshTokens

/-- The database with other sign-in tables. -/
def withSignIn (signIn : AccountDatabase) : PlatformDatabase :=
  { db with
    users := signIn.users
    challenges := signIn.twoStep.challenges
    emailChangeOtps := signIn.emailChangeOtps
    passwordResetOtps := signIn.passwordResetOtps
    refreshTokens := signIn.refreshTokens }

/-- `load_tenant_context`: the business that the active assignment of a user names. -/
def tenantScope (user : User) : Option Uuid := do
  guard (user.role = .user)
  let assignment ← db.roleAssignments.find? fun a => a.userId == user.id && a.isActive
  let business ← db.businesses.get? assignment.businessId
  guard (business.ownerUserId = user.id)
  return business.id

/-- A super admin that `_guard_last_super_admin` counts. -/
def isLastingSuperAdmin (u : User) : Bool :=
  u.role == .superAdmin && u.isActive && u.deletedAt.isNone

/-- `_guard_last_super_admin`. -/
def guardLastSuperAdmin (user : User) : Except ClosureError Unit :=
  if user.role = .superAdmin then
    ensure (1 < db.users.count isLastingSuperAdmin) .lastSuperAdmin
  else .ok ()

/-- The accounts whose rows the deletion of an account locks. -/
def deletionLocks (user : User) : List Uuid :=
  user.id ::
    if user.role = .superAdmin then (db.users.rows.filter isLastingSuperAdmin).map (·.id) else []

/-- The business has a checkout or a subscription that its owner has to end first. -/
def hasOpenBilling (businessId : Uuid) : Bool :=
  let current := db.getCurrent businessId
  let completed := current.bind fun s => db.checkouts.find? fun c =>
    c.businessId == businessId && c.subscriptionId == s.id && c.status == .complete &&
      c.stripeSubscriptionId.isSome
  (db.unfinishedCheckout businessId).isSome || completed.isSome ||
    current.any (·.stripeSubscriptionId.isSome)

/-- What `delete_account` has read when its checks are done. It holds the rows to its
commit. -/
structure CheckedDeletion where
  /-- the instance of the account -/
  user : User
  currentSubscription : Option Subscription
  roleAssignment : Option RoleAssignment
  now : Datetime

/-- What the deletion of an account reads of the business of its owner. -/
def readBusiness (userId : Uuid) :
    Except ClosureError (Option Subscription × Option RoleAssignment) :=
  match db.businesses.find? (·.ownerUserId == userId) with
  | none => .ok (none, none)
  | some business => do
    ensure (db.hasOpenBilling business.id = false) .billingConflict
    return (db.getCurrent business.id, db.roleAssignments.find? (·.userId == userId))

/-- The subscriptions after the one that the deletion read was canceled. -/
def cancelCurrent (checked : CheckedDeletion) : Option (Table Subscription) :=
  match checked.currentSubscription with
  | none => some db.subscriptions
  | some s => db.subscriptions.update? (s.closed checked.now)

/-- The assignments after the one that the deletion read was deactivated. -/
def deactivateAssignment (checked : CheckedDeletion) : Option (Table RoleAssignment) :=
  match checked.roleAssignment with
  | none => some db.roleAssignments
  | some a => db.roleAssignments.update? { a with isActive := false }

/-- `_revoke_sessions` and `_invalidate_auth_otps`, the verification codes included. -/
def closeSessions (userId : Uuid) (now : Datetime) : PlatformDatabase :=
  { db.withSignIn (db.signIn.closeSessions userId now) with
    emailVerificationOtps := invalidate db.emailVerificationOtps userId now }

/-- `_lock_user` of the account security service. -/
def lockUser (loaded : Option User) (userId : Uuid) : Except ClosureError (User × User) :=
  match db.signIn.lockUser loaded userId with
  | .ok locked => .ok locked
  | .error error => .error (.account error)

/-- `delete_account` up to the hash of the new password; `loaded` is the instance of the
account that the authentication of the request loaded. -/
def checkDeletion (loaded : Option User) (userId : Uuid) (currentPassword : Str) (now : Datetime) :
    Except ClosureError CheckedDeletion := do
  let (_, user) ← db.lockUser loaded userId
  ensure (settings.verifyPassword currentPassword user.passwordHash = true)
    (.account .passwordInvalid)
  db.guardLastSuperAdmin user
  let (currentSubscription, roleAssignment) ← db.readBusiness user.id
  return { user, currentSubscription, roleAssignment, now }

/-- `delete_account` from there to its commit. -/
def commitDeletion (checked : CheckedDeletion) (nonce newHash : Str) :
    Except ClosureError PlatformDatabase := do
  let row ← required (db.users.get? checked.user.id) (.account .database)
  let subscriptions ← required (db.cancelCurrent checked) (.account .database)
  let roleAssignments ← required (db.deactivateAssignment checked) (.account .database)
  let users ← required
    (db.users.update?
      ((checked.user.anonymized nonce newHash checked.now).flushClosure checked.user row))
    (.account .database)
  return { db with users, subscriptions, roleAssignments }.closeSessions checked.user.id checked.now

/-- `delete_account`, when nothing comes between its checks and its commit. -/
def deleteAccount (loaded : Option User) (userId : Uuid) (currentPassword nonce newHash : Str)
    (now : Datetime) : Except ClosureError PlatformDatabase := do
  let checked ← db.checkDeletion settings loaded userId currentPassword now
  db.commitDeletion checked nonce newHash

/-- `_change_active_state` of an account by `actor`. -/
def changeActiveState (actor : User) (targetUserId : Uuid) (desiredActive : Bool)
    (now : Datetime) : Except AccountError PlatformDatabase := do
  ensure (AccountDatabase.validActor actor = true) .actorForbidden
  let target ← db.signIn.activeStateTarget actor targetUserId
  let signIn ← required
    (db.signIn.saveActiveState target target desiredActive (db.signIn.openTokens target.id) now)
    .database
  return db.withSignIn signIn

end PlatformDatabase

end SpikeBackend
