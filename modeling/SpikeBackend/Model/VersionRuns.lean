import SpikeBackend.Lib.Machine
import SpikeBackend.Model.TrialRuns

/-!
# Runs over the versions of one subscription

Stripe changes a subscription and delivers events about it. The request of an event reads
without a lock: an invoice handler selects the local row, and every handler but that of a
deletion retrieves the version that Stripe has by then. The rest of `process`, from the
locked select of the synchronisation to the commit, is one step.

The source claims the event before it reads. The claim is not visible before the commit, and
a second request with the same event waits for it, so here the claim is made at the commit.
-/

namespace SpikeBackend

open Relational Text Outcome

/-- A version of a subscription at Stripe. -/
structure RemoteVersion (stripeSubscriptionId : Str) where
  snapshot : Dict
  named : requiredString snapshot (str "id") = .ok stripeSubscriptionId

/-- A version, as a request has read it. -/
structure VersionReading (stripeSubscriptionId : Str) where
  /-- how many readings there were before -/
  turn : Nat
  /-- how many versions there were before -/
  number : Nat
  version : RemoteVersion stripeSubscriptionId

inductive VersionPhase (stripeSubscriptionId : Str)
  | delivered
  /-- the first select of `_process_invoice` is done -/
  | selected (existing : Option Subscription)
  /-- Stripe has answered; a call that fails is no reading -/
  | answered (reads : WebhookReads) (reading : Option (VersionReading stripeSubscriptionId))
  /-- the transaction has ended, with what its commit wrote -/
  | ended (written : Option (VersionReading stripeSubscriptionId))

/-- The request of one event. -/
structure VersionClient (stripeSubscriptionId : Str) where
  delivery : Dict
  /-- the number of the version that Stripe had when it delivered the event -/
  since : Nat
  phase : VersionPhase stripeSubscriptionId

inductive VersionAction (stripeSubscriptionId : Str)
  /-- Stripe has a new version -/
  | change (version : RemoteVersion stripeSubscriptionId)
  /-- Stripe deletes the subscription, and this version is the final one -/
  | remove (version : RemoteVersion stripeSubscriptionId)
  /-- an event of the subscription or of one of its invoices -/
  | deliver (delivery : Dict)
  /-- the event of the deletion, with the final version in it -/
  | deliverDeletion (envelope : Dict)
  | select (i : Nat)
  | retrieve (i : Nat) (failure : Option BillingError)
  | commit (i : Nat) (draws : WebhookDraws) (now : Datetime)
  /-- a transaction that leaves the subscriptions and the plans alone -/
  | other (db : BillingDatabase)

/-- A deletion has the type of its own. -/
def deletionEvent : Str := str "customer.subscription.deleted"

/-- An event that makes its handler retrieve the subscription. -/
def StripeEvent.retrieves (event : StripeEvent) (stripeSubscriptionId : Str) : Bool :=
  if event.eventType ∈ subscriptionEvents then
    event.eventType != deletionEvent &&
      (requiredString event.stripeObject (str "id")).toOption == some stripeSubscriptionId
  else
    decide (event.eventType ∈ invoiceEvents) &&
      (invoiceSubscriptionId event.stripeObject).toOption == some (some stripeSubscriptionId)

/-- The delivery of a deletion: Stripe puts the final version into it. -/
def deletionDelivery (final envelope : Dict) : Dict :=
  (str "data", .obj [(str "object", .obj final)]) :: envelope

/-- What a request selects before it calls Stripe: only an invoice handler does. -/
def BillingDatabase.firstSelect (db : BillingDatabase) (settings : BillingSettings)
    (delivery : Dict) : Option Subscription :=
  if (parseStripeEvent settings delivery).toOption.any
      fun event => decide (event.eventType ∈ invoiceEvents) then
    db.invoiceExisting settings delivery
  else none

structure VersionState (stripeSubscriptionId : Str) where
  db : BillingDatabase
  newest : RemoteVersion stripeSubscriptionId
  /-- how many versions there were before the newest one -/
  number : Nat := 0
  removed : Bool := false
  clients : List (VersionClient stripeSubscriptionId) := []
  /-- what the requests have read, the latest reading first -/
  readings : List (VersionReading stripeSubscriptionId) := []
  /-- what the commits have written into the local row, the latest one first -/
  written : List (VersionReading stripeSubscriptionId) := []

namespace VersionState

variable {stripeSubscriptionId : Str}

/-- The reading that is made now. -/
def read (s : VersionState stripeSubscriptionId) : VersionReading stripeSubscriptionId :=
  ⟨s.readings.length, s.number, s.newest⟩

/-- Request `i` goes on to another phase. -/
def proceed (s : VersionState stripeSubscriptionId) (i : Nat)
    (client : VersionClient stripeSubscriptionId) (phase : VersionPhase stripeSubscriptionId) :
    VersionState stripeSubscriptionId :=
  { s with clients := s.clients.set i { client with phase } }

/-- Stripe replaces the newest version; after a deletion it has no other one. -/
def replaceNewest (s : VersionState stripeSubscriptionId)
    (version : RemoteVersion stripeSubscriptionId) (removed : Bool) :
    VersionState stripeSubscriptionId :=
  if s.removed then s else { s with newest := version, number := s.number + 1, removed }

/-- The locked part of `process` and its commit, or its rollback. -/
def commit (settings : BillingSettings) (s : VersionState stripeSubscriptionId) (i : Nat)
    (client : VersionClient stripeSubscriptionId) (reads : WebhookReads)
    (reading : Option (VersionReading stripeSubscriptionId)) (draws : WebhookDraws)
    (now : Datetime) : VersionState stripeSubscriptionId :=
  match s.db.process settings reads client.delivery draws now with
  | .error _ => s.proceed i client (.ended none)
  | .ok (db, result) =>
    -- a duplicate, and a subscription that is not the application's, write nothing
    let written :=
      if result.duplicate || (db.subscriptionByStripeId stripeSubscriptionId).isNone then none
      else reading
    { s.proceed i client (.ended written) with db, written := written.toList ++ s.written }

def step (settings : BillingSettings) (s : VersionState stripeSubscriptionId) :
    VersionAction stripeSubscriptionId → VersionState stripeSubscriptionId
  | .change version => s.replaceNewest version false
  | .remove version => s.replaceNewest version true
  | .deliver delivery =>
    if (parseStripeEvent settings delivery).toOption.any (·.retrieves stripeSubscriptionId) then
      { s with clients := s.clients ++ [⟨delivery, s.number, .delivered⟩] }
    else s
  | .deliverDeletion envelope =>
    let delivery := deletionDelivery s.newest.snapshot envelope
    if s.removed && (parseStripeEvent settings delivery).toOption.any
        (·.eventType == deletionEvent) then
      { s with
        clients := s.clients ++ [⟨delivery, s.number, .answered ⟨none, .ok []⟩ (some s.read)⟩]
        readings := s.read :: s.readings }
    else s
  | .select i =>
    match s.clients[i]? with
    | some client =>
      match client.phase with
      | .delivered => s.proceed i client (.selected (s.db.firstSelect settings client.delivery))
      | _ => s
    | none => s
  | .retrieve i failure =>
    match s.clients[i]? with
    | some client =>
      match client.phase, failure with
      | .selected existing, none =>
        { s.proceed i client (.answered ⟨existing, .ok s.newest.snapshot⟩ (some s.read)) with
          readings := s.read :: s.readings }
      | .selected existing, some e => s.proceed i client (.answered ⟨existing, .error e⟩ none)
      | _, _ => s
    | none => s
  | .commit i draws now =>
    match s.clients[i]? with
    | some client =>
      match client.phase with
      | .answered reads reading => s.commit settings i client reads reading draws now
      | _ => s
    | none => s
  | .other db =>
    { s with db := { db with subscriptions := s.db.subscriptions, plans := s.db.plans } }

end VersionState

end SpikeBackend
