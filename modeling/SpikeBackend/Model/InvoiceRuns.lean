import Mathlib.Data.Prod.Lex
import SpikeBackend.Lib.Machine
import SpikeBackend.Model.StripeWebhook

/-!
# Runs over the events of one invoice

Handlers of invoice events upsert one Stripe invoice, in any order, any number of times and
interleaved. A handler whose first select finds the row holds its lock until it commits, so
it is one step; one that finds no row is two, since other handlers may commit before its
insert.
-/

namespace SpikeBackend

open Relational Text Outcome

/-- An invoice event, as `_upsert_invoice` gets it. -/
structure InvoiceEvent where
  eventId : Str
  eventCreatedAt : Datetime
  invoice : Dict

/-- What events are ordered by: their creation time, then the rank of the status. -/
def BillingInvoice.eventKey (row : BillingInvoice) : Int ×ₗ Nat :=
  toLex (row.lastStripeEventCreatedAt, row.status.rank)

namespace InvoiceEvent

/-- The values that an event has for the row of its invoice, under identifier 0: every
check of `_upsert_invoice` that looks at the event alone. -/
def content (settings : BillingSettings) (subscription : Subscription) (event : InvoiceEvent) :
    Except BillingError BillingInvoice := do
  let stripeInvoiceId ← requiredString event.invoice (str "id")
  let mismatch := BillingError.webhookData (str "Stripe Invoice Customer does not match.")
  let customerId ← required (← optionalString (event.invoice.get (str "customer"))) mismatch
  ensure (some customerId = subscription.stripeCustomerId) mismatch
  let status ← required
    (BillingInvoiceStatus.ofValue? (← requiredString event.invoice (str "status")))
    (.webhookData (str "Stripe returned an unsupported Invoice status."))
  let currency := settings.upper (← requiredString event.invoice (str "currency"))
  ensure (currency.length = 3) (.webhookData (str "Stripe Invoice currency is invalid."))
  invoiceValues event.invoice 0 subscription stripeInvoiceId customerId status currency
    event.eventId event.eventCreatedAt

end InvoiceEvent

/-- One handler: the event, the instance of the subscription it goes on with, and the
identifier it draws for a row. -/
structure InvoiceHandler where
  event : InvoiceEvent
  subscription : Subscription
  invoiceId : Uuid

inductive InvoiceAction
  /-- a handler that runs alone, or that finds the row and locks it -/
  | deliver (handler : InvoiceHandler)
  /-- a handler's first select, when it finds no row -/
  | select (handler : InvoiceHandler)
  /-- a handler that found no row goes on -/
  | goOn (waiting : Nat)
  /-- anything that leaves the invoice alone -/
  | other (db : BillingDatabase)

structure InvoiceState where
  db : BillingDatabase
  /-- the handlers that found no row -/
  waiting : List InvoiceHandler := []
  /-- the events that were handled -/
  handled : List InvoiceEvent := []

namespace InvoiceState

/-- `_upsert_invoice` and its commit, after a first select with the given answer. -/
def upsert (settings : BillingSettings) (s : InvoiceState) (local? : Option BillingInvoice)
    (handler : InvoiceHandler) : InvoiceState :=
  match s.db.upsertInvoice settings local? handler.event.invoice handler.subscription
    handler.event.eventId handler.event.eventCreatedAt handler.invoiceId with
  | .ok (db, _) => { s with db, handled := handler.event :: s.handled }
  | .error _ => s

def step (settings : BillingSettings) (stripeInvoiceId : Str) (s : InvoiceState) :
    InvoiceAction → InvoiceState
  | .deliver handler => s.upsert settings (s.db.invoiceByStripeId stripeInvoiceId) handler
  | .select handler =>
    if s.db.invoiceByStripeId stripeInvoiceId = none then
      { s with waiting := s.waiting ++ [handler] }
    else s
  | .goOn n =>
    match s.waiting[n]? with
    | some handler => { s with waiting := s.waiting.eraseIdx n }.upsert settings none handler
    | none => s
  | .other db =>
    if db.invoiceByStripeId stripeInvoiceId = s.db.invoiceByStripeId stripeInvoiceId then
      { s with db }
    else s

end InvoiceState

/-- The handler of an action, if it has one. -/
def InvoiceAction.handler? : InvoiceAction → Option InvoiceHandler
  | .deliver handler | .select handler => some handler
  | .goOn _ | .other _ => none

end SpikeBackend
