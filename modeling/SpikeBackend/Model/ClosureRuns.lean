import SpikeBackend.Lib.Locks
import SpikeBackend.Lib.Machine
import SpikeBackend.Model.AccountClosure

/-!
# Runs of checkouts and deletions

Owners create checkouts and delete their accounts, each request with a session of its own.
The authentication of a request loads its user, the tenant of a checkout is read after it,
and then, whatever Stripe needed to answer, the transaction locks the row of the user and
goes on with the instance that the session holds. A creation commits before it calls Stripe
again, and has a second transaction for the answer to that call, which locks its attempt
alone. A deletion hashes the new password between its checks and its commit; it holds the
row of the user meanwhile, and other requests that need the row wait.
-/

namespace SpikeBackend

open Relational Text Locking

inductive ClosureRequest
  | delete (token : DecodedToken) (currentPassword nonce newHash : Str)
  | checkout (token : DecodedToken) (planCode : SeededPlanCode) (idempotencyKey : Str)

inductive ClosurePhase
  | deleting (currentPassword nonce newHash : Str)
  /-- the checks of the deletion are done -/
  | deletionChecked (checked : PlatformDatabase.CheckedDeletion) (nonce newHash : Str)
  | creating (scope : Uuid) (planCode : SeededPlanCode) (idempotencyKey : Str)
  /-- Stripe was called for an attempt -/
  | calling (scope : Uuid) (planCode : SeededPlanCode) (attempt : PreparedAttempt)
  | ended

structure ClosureClient where
  /-- the current user, as the authentication loaded it -/
  user : User
  phase : ClosurePhase

inductive ClosureAction
  | arrive (request : ClosureRequest)
  /-- request `i` runs its transaction, a deletion up to its checks and then to its commit;
  `price` is what Stripe answered before -/
  | transact (i : Nat) (price : Except BillingError Dict) (draws : CheckoutDraws)
  /-- the session that Stripe created for request `i` arrives -/
  | answer (i : Nat) (remote : Dict)
  /-- Stripe refused the call of request `i` -/
  | reject (i : Nat)
  /-- request `i` fails or is given up; its transaction is rolled back -/
  | stop (i : Nat)

structure TimedClosureAction where
  now : Datetime
  action : ClosureAction

structure ClosureState where
  db : PlatformDatabase
  clients : List ClosureClient := []
  userLocks : Locks Uuid := .empty

namespace ClosureState

variable (settings : BillingSettings) (auth : AuthSettings) (s : ClosureState)

/-- A request after its dependencies. -/
def arrive : ClosureRequest → Option ClosureClient
  | .delete token currentPassword nonce newHash => do
    let user ← s.db.signIn.currentUser token
    return { user, phase := .deleting currentPassword nonce newHash }
  | .checkout token planCode idempotencyKey => do
    let user ← s.db.signIn.currentUser token
    let scope ← s.db.tenantScope user
    return { user, phase := .creating scope planCode idempotencyKey }

/-- Request `i` goes on to another phase. -/
def proceed (i : Nat) (client : ClosureClient) (phase : ClosurePhase) : ClosureState :=
  { s with clients := s.clients.set i { client with phase } }

/-- The end of request `i`, with its locks. -/
def finish (i : Nat) (client : ClosureClient) : ClosureState :=
  { s.proceed i client .ended with userLocks := s.userLocks.release i }

/-- A transaction on the billing tables. -/
def withBilling (billing : BillingDatabase) : ClosureState :=
  { s with db := { s.db with toBillingDatabase := billing } }

def transact (i : Nat) (client : ClosureClient) (price : Except BillingError Dict)
    (draws : CheckoutDraws) (now : Datetime) : ClosureState :=
  match client.phase with
  | .deleting currentPassword nonce newHash =>
    if (s.db.deletionLocks client.user).all (s.userLocks.available · i) then
      match s.db.checkDeletion auth (some client.user) client.user.id currentPassword now with
      | .ok checked =>
        { s.proceed i client (.deletionChecked checked nonce newHash) with
          userLocks := s.userLocks.acquire (s.db.deletionLocks client.user) i }
      | .error _ => s.proceed i client .ended
    else s
  | .deletionChecked checked nonce newHash =>
    match s.db.commitDeletion checked nonce newHash with
    | .ok db => { s.finish i client with db }
    | .error _ => s.finish i client
  | .creating scope planCode idempotencyKey =>
    if s.userLocks.available client.user.id i then
      match s.db.toBillingDatabase.prepareCheckout settings scope (some client.user) client.user.id
        planCode idempotencyKey price now draws with
      | .ok (billing, .send attempt _) =>
        (s.proceed i client (.calling scope planCode attempt)).withBilling billing
      | .ok (billing, .finished _) => (s.proceed i client .ended).withBilling billing
      | .error _ => s.proceed i client .ended
    else s
  | .calling .. | .ended => s

def answer (i : Nat) (client : ClosureClient) (remote : Dict) : ClosureState :=
  match client.phase with
  | .calling scope planCode attempt =>
    match s.db.toBillingDatabase.recordCheckout scope attempt.checkout planCode remote with
    | .ok (billing, _) => (s.proceed i client .ended).withBilling billing
    | .error _ => s.proceed i client .ended
  | _ => s

def reject (i : Nat) (client : ClosureClient) (now : Datetime) : ClosureState :=
  match client.phase with
  | .calling scope _ attempt =>
    match s.db.toBillingDatabase.expireRejectedAttempt scope attempt.checkout now with
    | .ok (billing, _) => (s.proceed i client .ended).withBilling billing
    | .error _ => s.proceed i client .ended
  | _ => s

def step (s : ClosureState) (timed : TimedClosureAction) : ClosureState :=
  match timed.action with
  | .arrive request => { s with clients := s.clients ++ (s.arrive request).toList }
  | .transact i price draws =>
    match s.clients[i]? with
    | none => s
    | some client => s.transact settings auth i client price draws timed.now
  | .answer i remote =>
    match s.clients[i]? with
    | none => s
    | some client => s.answer i client remote
  | .reject i =>
    match s.clients[i]? with
    | none => s
    | some client => s.reject i client timed.now
  | .stop i =>
    match s.clients[i]? with
    | none => s
    | some client => s.finish i client

end ClosureState

end SpikeBackend
