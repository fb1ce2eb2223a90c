import SpikeBackend.Lib.Machine
import SpikeBackend.Lib.Transaction
import SpikeBackend.Model.StripeWebhook

/-!
# Runs over webhook deliveries

A delivery is one request with a session of its own: `StripeWebhookService.process`,
statement by statement over the transaction of the session, with its commit and its
rollbacks where the source has them, and failures that may come up at any of its statements.
-/

namespace SpikeBackend

open Relational Text Outcome

/-- What goes wrong from outside while a delivery is handled: an exception at one of the
steps of `process`, and the writes of that step up to there. -/
structure WebhookFailures where
  claim : Option BillingError := none
  handling : Option BillingError := none
  marking : Option BillingError := none
  commit : Option BillingError := none

/-- One request of Stripe. -/
structure WebhookDelivery where
  delivery : Dict
  reads : WebhookReads
  draws : WebhookDraws
  now : Datetime
  failures : WebhookFailures := {}
  /-- what a step that raises has written by then -/
  dirty : BillingDatabase := {}

namespace BillingDatabase

variable (db : BillingDatabase)

/-- `event_row.result = result; event_row.processed_at = utc_now()`. -/
def markEvent (row : StripeWebhookEvent) (result : StripeWebhookResult) (now : Datetime) :
    Except BillingError (BillingDatabase × Unit) := do
  let webhookEvents ← required
    (db.webhookEvents.update? { row with result := result, processedAt := now }) .integrity
  return ({ db with webhookEvents }, ())

/-- `_claim_event`, as statements over the database. -/
def claim (event : StripeEvent) (eventRowId : Uuid) (now : Datetime) :
    Except BillingError (BillingDatabase × Option StripeWebhookEvent) :=
  (db.claimEvent event eventRowId now).map fun
    | none => (db, none)
    | some (db₁, row) => (db₁, some row)

end BillingDatabase

/-- `process`: the claim stands before the `try`, the handling, the mark and the commit
inside it. -/
def processIn (settings : BillingSettings) (t : Transaction BillingDatabase)
    (d : WebhookDelivery) : Transaction BillingDatabase × Except BillingError WebhookProcessResult :=
  match parseStripeEvent settings d.delivery with
  | .error e => (t, .error e)
  | .ok event =>
    match t.execute d.dirty
        (interrupted d.failures.claim (t.working.claim event d.draws.eventRowId d.now)) with
    | (t, .error e) => (t, .error e)
    | (t, .ok none) => (t.rollback, .ok ⟨true, .ignored⟩)
    | (t, .ok (some row)) =>
      match t.execute d.dirty (interrupted d.failures.handling
          (t.working.handleEvent settings d.reads event d.draws.invoiceId d.now)) with
      | (t, .error e) => (t.rollback, .error e)
      | (t, .ok result) =>
        match t.execute d.dirty
            (interrupted d.failures.marking (t.working.markEvent row result d.now)) with
        | (t, .error e) => (t.rollback, .error e)
        | (t, .ok ()) =>
          match d.failures.commit with
          | some e => (t.rollback, .error e)
          | none => (t.commit, .ok ⟨false, result⟩)

/-- A request: the session begins, `process` runs, and the session ends. -/
def receive (settings : BillingSettings) (db : BillingDatabase) (d : WebhookDelivery) :
    BillingDatabase × Except BillingError WebhookProcessResult :=
  let (t, outcome) := processIn settings (.begin db) d
  (t.close, outcome)

/-- The identifier of the event that a delivery carries. -/
def WebhookDelivery.eventId (settings : BillingSettings) (d : WebhookDelivery) : Option Str :=
  (parseStripeEvent settings d.delivery).toOption.map (·.eventId)

/-- The deliveries of a list that are the first successful ones of their events, where the
events `seen` were delivered before. -/
def firstSuccesses (settings : BillingSettings) (seen : List Str) (db : BillingDatabase) :
    List WebhookDelivery → List WebhookDelivery
  | [] => []
  | d :: rest =>
    let (db', outcome) := receive settings db d
    match d.eventId settings, outcome with
    | some eventId, .ok _ =>
      if eventId ∈ seen then firstSuccesses settings seen db' rest
      else d :: firstSuccesses settings (eventId :: seen) db' rest
    | _, _ => firstSuccesses settings seen db' rest

/-- The events that the database knows. -/
def BillingDatabase.knownEvents (db : BillingDatabase) : List Str :=
  db.webhookEvents.rows.map (·.stripeEventId)

/-- The effect of an event: what its handling alone does to the database. -/
def applyEvent (settings : BillingSettings) (db : BillingDatabase) (d : WebhookDelivery) :
    BillingDatabase :=
  commit db (db.process settings d.reads d.delivery d.draws d.now)

end SpikeBackend
