import SpikeBackend.Lib.Machine
import SpikeBackend.Model.Checkout

/-!
# Runs of checkout creations

Creations of checkouts with the same or with new client keys, in any order over one
database, against a Stripe that may take a call or lose it and may lose its answer. Stripe
answers a call whose outbound key it has seen with the session that it created first for
that key. Everything else the application does is one action, which may write any row but
keeps the attempts: no service moves one to another business or subscription.
-/

namespace SpikeBackend

open Relational Text Outcome

/-- A call of `create_checkout_session`, with what its parameters were built from. -/
structure SentRequest where
  scope : Uuid
  attempt : PreparedAttempt
  planCode : SeededPlanCode
  customerEmail : Str
  now : Datetime
  params : Dict

/-- A Checkout Session that Stripe created. -/
structure StripeSession where
  id : Str
  url : Str
  key : Str
  businessId : Uuid
  expiresAt : Int
  isPaid : Bool := false

namespace StripeSession

/-- The session as Stripe returns it. -/
def object (x : StripeSession) : Dict :=
  [(str "id", .str x.id), (str "url", .str x.url), (str "expires_at", .int x.expiresAt),
    (str "mode", .str (str "subscription"))]

/-- The customer can still pay. -/
def isPayable (now : Datetime) (x : StripeSession) : Bool :=
  !x.isPaid && decide (now < seconds x.expiresAt)

end StripeSession

/-- `params["expires_at"]`. -/
def expiresAtOf (params : Dict) : Int :=
  match params.get (str "expires_at") with
  | .int n => n
  | _ => 0

/-- Two versions of the row of one attempt. -/
def BillingCheckoutSession.SameAttempt (c c' : BillingCheckoutSession) : Prop :=
  c'.id = c.id ∧ c'.businessId = c.businessId ∧ c'.subscriptionId = c.subscriptionId

instance BillingCheckoutSession.decidableSameAttempt (c c' : BillingCheckoutSession) :
    Decidable (c.SameAttempt c') :=
  inferInstanceAs (Decidable (_ ∧ _ ∧ _))

/-- Every attempt is still there. -/
def BillingDatabase.KeepsAttempts (db db' : BillingDatabase) : Prop :=
  ∀ c ∈ db.checkouts, ∃ c' ∈ db'.checkouts, c.SameAttempt c'

instance BillingDatabase.decidableKeepsAttempts (db db' : BillingDatabase) :
    Decidable (db.KeepsAttempts db') :=
  inferInstanceAs (Decidable (∀ c ∈ db.checkouts, ∃ c' ∈ db'.checkouts, c.SameAttempt c'))

inductive CheckoutAction
  /-- a creation, up to its call of Stripe -/
  | prepare (scope : Uuid) (loadedUser : Option User) (userId : Uuid) (planCode : SeededPlanCode)
      (idempotencyKey : Str) (price : Except BillingError Dict) (draws : CheckoutDraws)
  /-- Stripe takes call `i`, and creates a session unless the key has one -/
  | receive (i : Nat) (sessionId url : Str)
  /-- the answer of Stripe to call `i` arrives -/
  | answer (i : Nat)
  /-- Stripe refuses call `i`, whose key it has no session for -/
  | reject (i : Nat)
  | pay (sessionId : Str)
  /-- the rest of the application -/
  | change (db : BillingDatabase)

structure TimedCheckoutAction where
  now : Datetime
  action : CheckoutAction

structure CheckoutState where
  db : BillingDatabase
  now : Datetime := 0
  /-- the calls, oldest first -/
  sent : List SentRequest := []
  sessions : List StripeSession := []

namespace CheckoutState

variable (settings : BillingSettings) (s : CheckoutState)

/-- The session that Stripe has for the key of an attempt. -/
def sessionOf (checkout : BillingCheckoutSession) : Option StripeSession :=
  s.sessions.find? (·.key == BillingDatabase.outboundKey settings checkout)

/-- The committed row of an attempt. -/
def rowOf (checkout : BillingCheckoutSession) : Option BillingCheckoutSession :=
  s.db.checkouts.get? checkout.id

/-- A creation; its call is booked. -/
def prepare (scope : Uuid) (loadedUser : Option User) (userId : Uuid) (planCode : SeededPlanCode)
    (idempotencyKey : Str) (price : Except BillingError Dict) (draws : CheckoutDraws)
    (now : Datetime) : CheckoutState :=
  match s.db.prepareCheckout settings scope loadedUser userId planCode idempotencyKey price now
    draws, s.db.lockActiveUser loadedUser userId with
  | .ok (db, .send attempt params), .ok user =>
    { s with db, sent := s.sent ++ [⟨scope, attempt, planCode, user.email, now, params⟩] }
  | .ok (db, .finished _), _ => { s with db }
  | _, _ => s

/-- Stripe on a call. -/
def receive (call : SentRequest) (sessionId url : Str) : CheckoutState :=
  match s.sessionOf settings call.attempt.checkout with
  | some _ => s
  | none =>
    { s with
      sessions :=
        { id := sessionId
          url := url
          key := BillingDatabase.outboundKey settings call.attempt.checkout
          businessId := call.scope
          expiresAt := expiresAtOf call.params } :: s.sessions }

/-- The answer of Stripe to a call that it has taken. -/
def answer (call : SentRequest) : CheckoutState :=
  match s.sessionOf settings call.attempt.checkout with
  | none => s
  | some x =>
    { s with
      db := commit s.db
        (s.db.recordCheckout call.scope call.attempt.checkout call.planCode x.object) }

def step (s : CheckoutState) (timed : TimedCheckoutAction) : CheckoutState :=
  let now := max s.now timed.now
  let s := { s with now }
  match timed.action with
  | .prepare scope loadedUser userId planCode key price draws =>
    s.prepare settings scope loadedUser userId planCode key price draws now
  | .receive i sessionId url =>
    match s.sent[i]? with
    | none => s
    | some call => s.receive settings call sessionId url
  | .answer i =>
    match s.sent[i]? with
    | none => s
    | some call => s.answer settings call
  | .reject i =>
    match s.sent[i]? with
    | none => s
    | some call =>
      if (s.sessionOf settings call.attempt.checkout).isNone then
        { s with
          db := commit s.db (s.db.expireRejectedAttempt call.scope call.attempt.checkout now) }
      else s
  | .pay sessionId =>
    { s with
      sessions := s.sessions.map fun x => if x.id == sessionId then { x with isPaid := true } else x }
  | .change db => if s.db.KeepsAttempts db then { s with db } else s

end CheckoutState

end SpikeBackend
