import SpikeBackend.Billing.Synchronisation
import SpikeBackend.Lib.Register
import SpikeBackend.Model.InvoiceRuns

/-!
# The order of invoice events does not show

The row of an invoice is a last-writer-wins register over its events, keyed by creation
time and status rank: the update and both ends of the insert race are one write of it.

* `upsertInvoice_of_content` — what a handler of a valid event does;
* `upsert_writes` — it is a write of the register;
* `invoice_events_commute` — over every run.
-/

namespace SpikeBackend

open Relational Text Outcome Machine Register

-- ---------------------------------------------------------------------------
-- The values of an event
-- ---------------------------------------------------------------------------

/-- Two versions of a subscription that an invoice does not tell apart. -/
def Subscription.SameOwner (s s' : Subscription) : Prop :=
  s'.id = s.id ∧ s'.businessId = s.businessId ∧ s'.stripeCustomerId = s.stripeCustomerId

instance (s s' : Subscription) : Decidable (s.SameOwner s') :=
  inferInstanceAs (Decidable (_ ∧ _ ∧ _))

/-- The values of a row, whatever its identifier. -/
def BillingInvoice.values (row : BillingInvoice) : BillingInvoice := { row with id := 0 }

section Values

variable {invoice : Dict} {subscription : Subscription} {stripeInvoiceId customerId currency : Str}
  {status : BillingInvoiceStatus} {eventId : Str} {eventCreatedAt : Datetime}
  {v : BillingInvoice}

/-- The values do not depend on the identifier that they are put under. -/
theorem invoiceValues_eq_ok (invoiceId : Uuid)
    (h : invoiceValues invoice 0 subscription stripeInvoiceId customerId status currency eventId
      eventCreatedAt = .ok v) :
    invoiceValues invoice invoiceId subscription stripeInvoiceId customerId status currency eventId
        eventCreatedAt = .ok { v with id := invoiceId } ∧
      v.values = v ∧ v.businessId = subscription.businessId ∧ v.subscriptionId = subscription.id ∧
      v.stripeInvoiceId = stripeInvoiceId ∧ v.status = status ∧ v.currency = currency ∧
      v.lastStripeEventCreatedAt = eventCreatedAt := by
  unfold invoiceValues at h ⊢
  -- with and without transitions the statements are the same
  split at h
  all_goals
    simp only [bind_eq_ok, required_eq_ok] at h
    obtain ⟨paidAt, hPaid, number, hNumber, subtotal, hSubtotal, total, hTotal, due, hDue, paid,
      hAmountPaid, remaining, hRemaining, created?, hCreated, started, hStarted, ends, hEnds, hosted,
      hHosted, pdf, hPdf, created, rfl, hDone⟩ := h
    simp only [pure, Except.pure, Except.ok.injEq] at hDone
    subst hDone
    refine ⟨?_, rfl, rfl, rfl, rfl, rfl, rfl, rfl⟩
    simp only [hPaid, hNumber, hSubtotal, hTotal, hDue, hAmountPaid, hRemaining, hCreated, hStarted,
      hEnds, hHosted, hPdf, bind_ok, required]
    rfl

/-- An invoice is not told apart by the versions of its subscription. -/
theorem content_congr {settings : BillingSettings} {subscription' : Subscription}
    (hOwner : subscription.SameOwner subscription') (event : InvoiceEvent) :
    event.content settings subscription' = event.content settings subscription := by
  obtain ⟨hId, hBusiness, hCustomer⟩ := hOwner
  unfold InvoiceEvent.content invoiceValues
  rw [hId, hBusiness, hCustomer]

end Values

-- ---------------------------------------------------------------------------
-- One handler
-- ---------------------------------------------------------------------------

/-- A stored row is newer than an event exactly when its key is greater. -/
theorem isNewerThan_iff {row : BillingInvoice} {eventCreatedAt : Datetime}
    {status : BillingInvoiceStatus} :
    row.isNewerThan eventCreatedAt status = true ↔
      toLex (eventCreatedAt, status.rank) < row.eventKey := by
  rw [BillingInvoice.isNewerThan, decide_eq_true_iff, BillingInvoice.eventKey,
    Prod.Lex.toLex_lt_toLex]

namespace BillingDatabase

variable {db : BillingDatabase} {settings : BillingSettings} {subscription : Subscription}
  {event : InvoiceEvent} {v : BillingInvoice} {invoiceId : Uuid}

/-- What a handler does with the row that it locked: a newer one stays. -/
def writeInvoice (db : BillingDatabase) (row v : BillingInvoice) :
    Except BillingError (BillingDatabase × StripeWebhookResult) :=
  if row.isNewerThan v.lastStripeEventCreatedAt v.status then .ok (db, .ignored)
  else db.overwriteInvoice row v

variable (db invoiceId) in
/-- **Handler.** Of a valid event: it locks the row it selected, inserts one, or locks the
one that was inserted meanwhile. -/
theorem upsertInvoice_of_content (local? : Option BillingInvoice)
    (hContent : event.content settings subscription = .ok v) :
    db.upsertInvoice settings local? event.invoice subscription event.eventId event.eventCreatedAt
        invoiceId =
      match local? with
      | some row => db.writeInvoice row { v with id := invoiceId }
      | none =>
        match db.invoiceByStripeId v.stripeInvoiceId with
        | none => do
          let invoices ← required (db.invoices.insert? { v with id := invoiceId }) .integrity
          return ({ db with invoices }, .processed)
        | some concurrent => db.writeInvoice concurrent { v with id := invoiceId } := by
  simp only [InvoiceEvent.content, bind_eq_ok, required_eq_ok, ensure_eq_ok] at hContent
  obtain ⟨stripeInvoiceId, hId, customer?, hCustomer, customerId, rfl, -, hOwner, text, hText, status,
    hStatus, currency, hCurrency, -, hLength, hValues⟩ := hContent
  obtain ⟨hValuesAt, -, -, -, hStripeId, hSame, -, hCreated⟩ := invoiceValues_eq_ok invoiceId hValues
  simp only [upsertInvoice, hId, hCustomer, hText, hStatus, hCurrency, hValuesAt, bind_ok, required,
    ensure, ← hOwner, hLength, if_true, pure, Except.pure]
  cases local? with
  | none =>
    simp only [Option.any_none, Bool.false_eq_true, if_false, ← hStripeId]
    cases db.invoiceByStripeId v.stripeInvoiceId with
    | none => rfl
    | some concurrent => simp only [writeInvoice, hSame, hCreated]
  | some row =>
    simp only [Option.any_some, writeInvoice, hSame, hCreated, decide_eq_true_eq]
    by_cases hOlder : event.eventCreatedAt < row.lastStripeEventCreatedAt
    · -- an older event is left alone before its status is read
      have hNewer : row.isNewerThan event.eventCreatedAt status = true :=
        decide_eq_true (.inl hOlder)
      rw [if_pos hOlder, if_pos hNewer]
    · rw [if_neg hOlder]

-- ---------------------------------------------------------------------------
-- The register
-- ---------------------------------------------------------------------------

/-- What is found is the row of the invoice. -/
theorem invoiceByStripeId_eq_some {stripeInvoiceId : Str} {row : BillingInvoice} :
    db.invoiceByStripeId stripeInvoiceId = some row ↔
      row ∈ db.invoices ∧ row.stripeInvoiceId = stripeInvoiceId := by
  constructor
  · intro h
    exact ⟨Table.mem_of_find? h, by simpa using Table.prop_of_find? h⟩
  · rintro ⟨hRow, rfl⟩
    cases hFound : db.invoiceByStripeId row.stripeInvoiceId with
    | none =>
      have := Table.find?_eq_none.mp hFound row hRow
      simp at this
    | some other =>
      have hSame : other.stripeInvoiceId = row.stripeInvoiceId :=
        by simpa using Table.prop_of_find? hFound
      have hClash : Schema.clash other row = true := beq_iff_eq.mpr hSame
      rw [Table.eq_of_clash (Table.mem_of_find? hFound) hRow hClash]

/-- The values that the row of an invoice has. -/
def invoiceRegister (db : BillingDatabase) (stripeInvoiceId : Str) : Option BillingInvoice :=
  (db.invoiceByStripeId stripeInvoiceId).map BillingInvoice.values

variable (invoiceId) in
/-- A handler that locked the row writes the register. -/
theorem writeInvoice_writes {row : BillingInvoice}
    (hRow : db.invoiceByStripeId v.stripeInvoiceId = some row) (hValues : v.values = v)
    (hOwner : row.subscriptionId = v.subscriptionId ∧ row.businessId = v.businessId)
    (hCurrency : v.currency.length = 3) :
    ∃ db' result, db.writeInvoice row { v with id := invoiceId } = .ok (db', result) ∧
      db'.invoiceRegister v.stripeInvoiceId =
        write BillingInvoice.eventKey (db.invoiceRegister v.stripeInvoiceId) v := by
  obtain ⟨hMem, hStripeId⟩ := invoiceByStripeId_eq_some.mp hRow
  have hBefore : db.invoiceRegister v.stripeInvoiceId = some row.values := by
    unfold invoiceRegister
    rw [hRow]
    rfl
  unfold writeInvoice
  split
  · next hNewer =>
    have hLt : v.eventKey < row.values.eventKey := isNewerThan_iff.mp hNewer
    refine ⟨db, .ignored, rfl, ?_⟩
    rw [hBefore, write, if_pos hLt]
  · next hNewer =>
    have hLt : ¬ v.eventKey < row.values.eventKey := fun hLt => hNewer (isNewerThan_iff.mpr hLt)
    -- no other row has the invoice's Stripe identifier
    obtain ⟨invoices, hUpdate⟩ := Table.exists_update? (t := db.invoices)
      (r := { v with id := row.id })
      (fun x hx hne => by
        refine beq_eq_false_iff_ne.mpr fun hSame => hne ?_
        have hClash : Schema.clash x row = true := beq_iff_eq.mpr (hSame.trans hStripeId.symm)
        rw [Table.eq_of_clash hx hMem hClash]
        rfl)
      (decide_eq_true hCurrency)
    refine ⟨{ db with invoices }, .processed, ?_, ?_⟩
    · simp only [overwriteInvoice, ensure, hOwner.1, hOwner.2, true_and, if_true, bind_ok, hUpdate,
        required, pure, Except.pure]
    · have hNow : BillingDatabase.invoiceByStripeId { db with invoices } v.stripeInvoiceId =
          some { v with id := row.id } :=
        invoiceByStripeId_eq_some.mpr ⟨Table.mem_update?_self hUpdate hMem rfl, rfl⟩
      rw [hBefore, write, if_neg hLt, invoiceRegister, hNow, Option.map_some]
      exact congrArg some hValues

/-- The insert of a row writes the register. -/
theorem insertInvoice_writes {invoices : Table BillingInvoice} (hValues : v.values = v)
    (hNone : db.invoiceByStripeId v.stripeInvoiceId = none)
    (hInsert : db.invoices.insert? { v with id := invoiceId } = some invoices) :
    BillingDatabase.invoiceRegister { db with invoices } v.stripeInvoiceId =
      write BillingInvoice.eventKey (db.invoiceRegister v.stripeInvoiceId) v := by
  have hNow : BillingDatabase.invoiceByStripeId { db with invoices } v.stripeInvoiceId =
      some { v with id := invoiceId } :=
    invoiceByStripeId_eq_some.mpr ⟨(Table.mem_insert? hInsert).mpr (.inl rfl), rfl⟩
  rw [invoiceRegister, hNow, invoiceRegister, hNone]
  exact congrArg some hValues

/-- The first event of an invoice can be stored. -/
theorem exists_insertInvoice (hNone : db.invoiceByStripeId v.stripeInvoiceId = none)
    (hCurrency : v.currency.length = 3) (hFresh : ∀ row ∈ db.invoices, row.id ≠ invoiceId) :
    ∃ invoices, db.invoices.insert? { v with id := invoiceId } = some invoices := by
  refine Table.exists_insert? (fun x hx => ⟨hFresh x hx, ?_⟩) (decide_eq_true hCurrency)
  exact Table.find?_eq_none.mp hNone x hx

end BillingDatabase

-- ---------------------------------------------------------------------------
-- Runs
-- ---------------------------------------------------------------------------

/-- A valid event of an invoice has values for its row. -/
def InvoiceEvent.IsOf (settings : BillingSettings) (subscription : Subscription)
    (stripeInvoiceId : Str) (event : InvoiceEvent) (v : BillingInvoice) : Prop :=
  event.content settings subscription = .ok v ∧ v.stripeInvoiceId = stripeInvoiceId

/-- The values of an event are those of its invoice. -/
theorem InvoiceEvent.IsOf.values {settings : BillingSettings} {subscription : Subscription}
    {stripeInvoiceId : Str} {event : InvoiceEvent} {v : BillingInvoice}
    (h : event.IsOf settings subscription stripeInvoiceId v) :
    v.values = v ∧ v.subscriptionId = subscription.id ∧ v.businessId = subscription.businessId ∧
      v.currency.length = 3 := by
  have hContent := h.1
  simp only [content, bind_eq_ok, required_eq_ok, ensure_eq_ok] at hContent
  obtain ⟨stripeId, -, customer?, -, customerId, -, -, -, text, -, status, -, currency, -, -, hLength,
    hValues⟩ := hContent
  obtain ⟨-, hSame, hBusiness, hSubscription, -, -, hCurrency, -⟩ := invoiceValues_eq_ok 0 hValues
  exact ⟨hSame, hSubscription, hBusiness, by rw [hCurrency, hLength]⟩

namespace InvoiceState

variable {settings : BillingSettings} {subscription : Subscription} {stripeInvoiceId : Str}
  {events : List InvoiceEvent} {s : InvoiceState} {handler : InvoiceHandler} {v : BillingInvoice}

/-- A handler of one of the events, for the subscription. -/
def Handles (subscription : Subscription) (events : List InvoiceEvent)
    (handler : InvoiceHandler) : Prop :=
  handler.event ∈ events ∧ subscription.SameOwner handler.subscription

/-- The values of the events that were handled. -/
def writes (settings : BillingSettings) (subscription : Subscription) (s : InvoiceState) :
    List BillingInvoice :=
  s.handled.filterMap fun event => (event.content settings subscription).toOption

/-- **The invariant of a run.** The row is the register of the events handled. -/
structure InOrder (settings : BillingSettings) (subscription : Subscription)
    (stripeInvoiceId : Str) (events : List InvoiceEvent) (s : InvoiceState) : Prop where
  waiting : ∀ handler ∈ s.waiting, Handles subscription events handler
  handled : ∀ event ∈ s.handled, event ∈ events
  holds : Holds BillingInvoice.eventKey (s.writes settings subscription)
    (s.db.invoiceRegister stripeInvoiceId)

/-- The row of the invoice belongs to the subscription of its events. -/
theorem InOrder.owner (h : InOrder settings subscription stripeInvoiceId events s)
    (hValid : ∀ event ∈ events, ∃ v, event.IsOf settings subscription stripeInvoiceId v)
    {row : BillingInvoice} (hRow : s.db.invoiceByStripeId stripeInvoiceId = some row) :
    row.subscriptionId = subscription.id ∧ row.businessId = subscription.businessId := by
  have hStored : s.db.invoiceRegister stripeInvoiceId = some row.values := by
    unfold BillingDatabase.invoiceRegister
    rw [hRow]
    rfl
  obtain ⟨event, hHandled, hContent⟩ := List.mem_filterMap.mp (h.holds.written _ hStored)
  obtain ⟨v, hEvent⟩ := hValid event (h.handled event hHandled)
  rw [hEvent.1] at hContent
  have hSame : v = row.values := Option.some.inj hContent
  obtain ⟨-, hSubscription, hBusiness, -⟩ := hEvent.values
  rw [hSame] at hSubscription hBusiness
  exact ⟨hSubscription, hBusiness⟩

/-- **Handler.** It is a write of the register, unless the identifier it draws for a new row
is taken. -/
theorem upsert_writes {local? : Option BillingInvoice}
    (hInOrder : InOrder settings subscription stripeInvoiceId events s)
    (hValid : ∀ event ∈ events, ∃ v, event.IsOf settings subscription stripeInvoiceId v)
    (hOwner : subscription.SameOwner handler.subscription)
    (hEvent : handler.event.IsOf settings subscription stripeInvoiceId v)
    (hLocal : local? = none ∨ local? = s.db.invoiceByStripeId stripeInvoiceId) :
    (s.upsert settings local? handler = s ∧
        ∃ row ∈ s.db.invoices, row.id = handler.invoiceId) ∨
      ((s.upsert settings local? handler).handled = handler.event :: s.handled ∧
        (s.upsert settings local? handler).waiting = s.waiting ∧
        (s.upsert settings local? handler).db.invoiceRegister stripeInvoiceId =
          write BillingInvoice.eventKey (s.db.invoiceRegister stripeInvoiceId) v) := by
  obtain ⟨hValues, hSubscription, hBusiness, hCurrency⟩ := hEvent.values
  obtain ⟨hContent, rfl⟩ := hEvent
  have hUpsert := BillingDatabase.upsertInvoice_of_content s.db handler.invoiceId local?
    ((content_congr hOwner handler.event).trans hContent)
  cases hRow : s.db.invoiceByStripeId v.stripeInvoiceId with
  | some row =>
    obtain ⟨hRowSubscription, hRowBusiness⟩ := hInOrder.owner hValid hRow
    obtain ⟨db', result, hWrite, hRegister⟩ := BillingDatabase.writeInvoice_writes
      handler.invoiceId hRow hValues
      ⟨hRowSubscription.trans hSubscription.symm, hRowBusiness.trans hBusiness.symm⟩ hCurrency
    -- locked at the first select or after the insert, it is this row
    have hOk : s.db.upsertInvoice settings local? handler.event.invoice handler.subscription
        handler.event.eventId handler.event.eventCreatedAt handler.invoiceId =
          .ok (db', result) := by
      rw [hUpsert, ← hWrite]
      rcases hLocal with rfl | rfl
      · simp only [hRow]
      · rw [hRow]
    unfold upsert
    rw [hOk]
    exact .inr ⟨rfl, rfl, hRegister⟩
  | none =>
    have hNone : local? = none := by
      rcases hLocal with hNone | hSame
      · exact hNone
      · exact hSame.trans hRow
    subst hNone
    simp only [hRow] at hUpsert
    unfold upsert
    cases hInsert : s.db.invoices.insert? { v with id := handler.invoiceId } with
    | none =>
      rw [hUpsert, hInsert]
      refine .inl ⟨rfl, ?_⟩
      by_contra hFresh
      push Not at hFresh
      obtain ⟨invoices, hInserted⟩ := BillingDatabase.exists_insertInvoice hRow hCurrency hFresh
      cases hInsert.symm.trans hInserted
    | some invoices =>
      rw [hUpsert, hInsert]
      exact .inr ⟨rfl, rfl, BillingDatabase.insertInvoice_writes hValues hRow hInsert⟩

/-- One handler keeps the order, and the stored key does not go down. -/
theorem upsert_inOrder {local? : Option BillingInvoice}
    (hInOrder : InOrder settings subscription stripeInvoiceId events s)
    (hValid : ∀ event ∈ events, ∃ v, event.IsOf settings subscription stripeInvoiceId v)
    (hHandler : Handles subscription events handler)
    (hLocal : local? = none ∨ local? = s.db.invoiceByStripeId stripeInvoiceId) :
    InOrder settings subscription stripeInvoiceId events (s.upsert settings local? handler) ∧
      ∀ a, s.db.invoiceRegister stripeInvoiceId = some a → ∃ b,
        (s.upsert settings local? handler).db.invoiceRegister stripeInvoiceId = some b ∧
          a.eventKey ≤ b.eventKey := by
  obtain ⟨v, hEvent⟩ := hValid handler.event hHandler.1
  rcases upsert_writes hInOrder hValid hHandler.2 hEvent hLocal with
    ⟨hSame, -⟩ | ⟨hHandled, hWaiting, hRegister⟩
  · rw [hSame]
    exact ⟨hInOrder, fun a ha => ⟨a, ha, le_refl _⟩⟩
  · refine ⟨⟨?_, fun event he => ?_, ?_⟩, fun a ha => ?_⟩
    · rw [hWaiting]
      exact hInOrder.waiting
    · rw [hHandled] at he
      rcases List.mem_cons.mp he with rfl | he
      · exact hHandler.1
      · exact hInOrder.handled event he
    · -- the values of the handled event are one more write
      have hWrites : (s.upsert settings local? handler).writes settings subscription =
          v :: s.writes settings subscription := by
        unfold writes
        rw [hHandled, List.filterMap_cons, hEvent.1]
        rfl
      rw [hWrites, hRegister]
      exact hInOrder.holds.write v
    · obtain ⟨b, hb, hLe, -⟩ := @le_write _ _ _ BillingInvoice.eventKey _ _ ha v
      exact ⟨b, hRegister.trans hb, hLe⟩

/-- A handler that waited goes on without the row it had looked for. -/
theorem step_goOn {n : Nat} (hWaiting : s.waiting[n]? = some handler) :
    s.step settings stripeInvoiceId (.goOn n) =
      { s with waiting := s.waiting.eraseIdx n }.upsert settings none handler := by
  unfold step
  simp only [hWaiting]

/-- The actions of a run over the events. -/
def Allowed (subscription : Subscription) (events : List InvoiceEvent) (a : InvoiceAction) : Prop :=
  ∀ handler, a.handler? = some handler → Handles subscription events handler

/-- **Step lemma.** -/
theorem step_inOrder (hInOrder : InOrder settings subscription stripeInvoiceId events s)
    (hValid : ∀ event ∈ events, ∃ v, event.IsOf settings subscription stripeInvoiceId v)
    (a : InvoiceAction) (hAllowed : Allowed subscription events a) :
    InOrder settings subscription stripeInvoiceId events (s.step settings stripeInvoiceId a) ∧
      ∀ row, s.db.invoiceRegister stripeInvoiceId = some row → ∃ row',
        (s.step settings stripeInvoiceId a).db.invoiceRegister stripeInvoiceId = some row' ∧
          row.eventKey ≤ row'.eventKey := by
  cases a with
  | deliver handler => exact upsert_inOrder hInOrder hValid (hAllowed handler rfl) (.inr rfl)
  | select handler =>
    unfold step
    dsimp only
    split
    · refine ⟨⟨fun h hh => ?_, hInOrder.handled, hInOrder.holds⟩, fun row hRow =>
        ⟨row, hRow, le_refl _⟩⟩
      rcases List.mem_append.mp hh with hh | hh
      · exact hInOrder.waiting h hh
      · rw [List.mem_singleton.mp hh]
        exact hAllowed handler rfl
    · exact ⟨hInOrder, fun row hRow => ⟨row, hRow, le_refl _⟩⟩
  | goOn n =>
    unfold step
    dsimp only
    split
    · next handler hWaiting =>
      refine upsert_inOrder (s := { s with waiting := s.waiting.eraseIdx n })
        ⟨fun h hh => hInOrder.waiting h (List.mem_of_mem_eraseIdx hh), hInOrder.handled,
          hInOrder.holds⟩ hValid ?_ (.inl rfl)
      exact hInOrder.waiting handler (List.mem_of_getElem? hWaiting)
    · exact ⟨hInOrder, fun row hRow => ⟨row, hRow, le_refl _⟩⟩
  | other db =>
    unfold step
    dsimp only
    split
    · next hSame =>
      -- the rest of the application leaves the invoices alone
      have hRegister : db.invoiceRegister stripeInvoiceId =
          s.db.invoiceRegister stripeInvoiceId := by
        unfold BillingDatabase.invoiceRegister
        rw [hSame]
      refine ⟨⟨hInOrder.waiting, hInOrder.handled, ?_⟩, fun row hRow =>
        ⟨row, hRegister.trans hRow, le_refl _⟩⟩
      exact hRegister.symm ▸ hInOrder.holds
    · exact ⟨hInOrder, fun row hRow => ⟨row, hRow, le_refl _⟩⟩

/-- **Run lemma.** -/
theorem run_inOrder (hInOrder : InOrder settings subscription stripeInvoiceId events s)
    (hValid : ∀ event ∈ events, ∃ v, event.IsOf settings subscription stripeInvoiceId v)
    {actions : List InvoiceAction} (hAllowed : ∀ a ∈ actions, Allowed subscription events a) :
    InOrder settings subscription stripeInvoiceId events
        (run (step settings stripeInvoiceId) s actions) ∧
      ∀ row, s.db.invoiceRegister stripeInvoiceId = some row → ∃ row',
        (run (step settings stripeInvoiceId) s actions).db.invoiceRegister stripeInvoiceId =
          some row' ∧ row.eventKey ≤ row'.eventKey := by
  have hMeets := meets_of_forall (step settings stripeInvoiceId)
    s (show ∀ a ∈ actions, ∀ _ : InvoiceState, Allowed subscription events a from
      fun a ha _ => hAllowed a ha)
  refine ⟨run_invariant_of_meets (I := InOrder settings subscription stripeInvoiceId events)
    (fun s a hs ha => (step_inOrder hs hValid a ha).1) hInOrder hMeets, ?_⟩
  refine run_related_of_meets (I := InOrder settings subscription stripeInvoiceId events)
    (R := fun s s' => ∀ row, s.db.invoiceRegister stripeInvoiceId = some row → ∃ row',
      s'.db.invoiceRegister stripeInvoiceId = some row' ∧ row.eventKey ≤ row'.eventKey)
    (fun _ row hRow => ⟨row, hRow, le_refl _⟩) (fun s t u hst htu row hRow => ?_)
    (fun s a hs ha => (step_inOrder hs hValid a ha).1)
    (fun s a hs ha => (step_inOrder hs hValid a ha).2) hInOrder hMeets
  obtain ⟨row', hRow', hLe⟩ := hst row hRow
  obtain ⟨row'', hRow'', hLe'⟩ := htu row' hRow'
  exact ⟨row'', hRow'', hLe.trans hLe'⟩

/-- The order holds before the first event. -/
theorem init_inOrder {db : BillingDatabase} (hNew : db.invoiceByStripeId stripeInvoiceId = none) :
    InOrder settings subscription stripeInvoiceId events { db := db } where
  waiting _ h := absurd h (by simp)
  handled _ h := absurd h (by simp)
  holds := by
    have hEmpty : db.invoiceRegister stripeInvoiceId = none := by
      unfold BillingDatabase.invoiceRegister
      rw [hNew]
      rfl
    rw [hEmpty]
    exact .empty

/-- The stored key of the invoice. -/
def storedKey (s : InvoiceState) (stripeInvoiceId : Str) : Option (Int ×ₗ Nat) :=
  (s.db.invoiceByStripeId stripeInvoiceId).map BillingInvoice.eventKey

/-- The stored key is that of the row. -/
theorem storedKey_eq_some {key : Int ×ₗ Nat} :
    s.storedKey stripeInvoiceId = some key ↔
      ∃ v, s.db.invoiceRegister stripeInvoiceId = some v ∧ v.eventKey = key := by
  unfold storedKey BillingDatabase.invoiceRegister
  cases s.db.invoiceByStripeId stripeInvoiceId with
  | none => simp
  | some row => simp [BillingInvoice.values, BillingInvoice.eventKey]

/-- **Invoice events commute.** Over every order of the valid events of a new invoice, with
repetitions, concurrent first inserts and other work in between: once all are handled the
row has the values of the event with the greatest key; the stored key never decreases; and
a handler that draws a fresh identifier never fails. -/
theorem invoice_events_commute (settings : BillingSettings) (stripeInvoiceId : Str)
    (subscription : Subscription) (events : List InvoiceEvent)
    (hValid : ∀ event ∈ events, ∃ v, event.IsOf settings subscription stripeInvoiceId v)
    (hDistinct : ∀ event ∈ events, ∀ event' ∈ events, ∀ v v',
      event.IsOf settings subscription stripeInvoiceId v →
      event'.IsOf settings subscription stripeInvoiceId v' → v.eventKey = v'.eventKey →
      event = event')
    (db : BillingDatabase) (hNew : db.invoiceByStripeId stripeInvoiceId = none)
    (actions : List InvoiceAction) (hAllowed : ∀ a ∈ actions, Allowed subscription events a) :
    let s := run (step settings stripeInvoiceId) { db := db } actions
    (∀ last ∈ events, ∀ v, last.IsOf settings subscription stripeInvoiceId v →
      (∀ event ∈ events, event ∈ s.handled ∧
        ∀ w, event.IsOf settings subscription stripeInvoiceId w → w.eventKey ≤ v.eventKey) →
      ∃ row, s.db.invoiceByStripeId stripeInvoiceId = some row ∧ row = { v with id := row.id }) ∧
    (∀ before after, actions = before ++ after → ∀ key,
      (run (step settings stripeInvoiceId) { db := db } before).storedKey stripeInvoiceId =
        some key →
      ∃ key', s.storedKey stripeInvoiceId = some key' ∧ key ≤ key') ∧
    (∀ handler, Handles subscription events handler →
      (∀ row ∈ s.db.invoices, row.id ≠ handler.invoiceId) →
      (s.step settings stripeInvoiceId (.deliver handler)).handled = handler.event :: s.handled) ∧
    (∀ n handler, s.waiting[n]? = some handler →
      (∀ row ∈ s.db.invoices, row.id ≠ handler.invoiceId) →
      (s.step settings stripeInvoiceId (.goOn n)).handled = handler.event :: s.handled) := by
  have hInit : InOrder settings subscription stripeInvoiceId events { db := db } :=
    init_inOrder hNew
  have hRun := (run_inOrder hInit hValid hAllowed).1
  refine ⟨fun last hLast v hEvent hAll => ?_, fun before after hSplit key hKey => ?_,
    fun handler hHandler hFresh => ?_, fun n handler hWaiting hFresh => ?_⟩
  · -- every value written is that of an event
    have hWritten : ∀ w ∈ writes settings subscription
        (run (step settings stripeInvoiceId) { db := db } actions),
        ∃ event ∈ events, event.IsOf settings subscription stripeInvoiceId w := by
      intro w hw
      obtain ⟨event, hHandled, hContent⟩ := List.mem_filterMap.mp hw
      have hMem := hRun.handled event hHandled
      obtain ⟨w', hEvent'⟩ := hValid event hMem
      rw [hEvent'.1] at hContent
      obtain rfl := Option.some.inj hContent
      exact ⟨event, hMem, hEvent'⟩
    -- the register holds the greatest of the writes, and the last event is the greatest
    have hStored := hRun.holds.eq_of_greatest
      (fun a ha b hb hSame => by
        obtain ⟨event, hMem, hEvent⟩ := hWritten a ha
        obtain ⟨event', hMem', hEvent'⟩ := hWritten b hb
        have hEq := hDistinct event hMem event' hMem' a b hEvent hEvent' hSame
        rw [hEq] at hEvent
        exact Except.ok.inj (hEvent.1.symm.trans hEvent'.1))
      (List.mem_filterMap.mpr ⟨last, (hAll last hLast).1, by rw [hEvent.1]; rfl⟩)
      (fun w hw => by
        obtain ⟨event, hMem, hEvent'⟩ := hWritten w hw
        exact (hAll event hMem).2 w hEvent')
    obtain ⟨row, hRow, hValues⟩ := Option.map_eq_some_iff.mp hStored
    refine ⟨row, hRow, ?_⟩
    rw [← hValues]
    rfl
  · obtain ⟨v, hStored, rfl⟩ := storedKey_eq_some.mp hKey
    have hBefore := (run_inOrder hInit hValid fun a ha =>
      hAllowed a (hSplit ▸ List.mem_append_left after ha)).1
    obtain ⟨v', hStored', hLe⟩ := (run_inOrder hBefore hValid fun a ha =>
      hAllowed a (hSplit ▸ List.mem_append_right before ha)).2 v hStored
    rw [← run_append, ← hSplit] at hStored'
    exact ⟨v'.eventKey, storedKey_eq_some.mpr ⟨v', hStored', rfl⟩, hLe⟩
  · obtain ⟨v, hEvent⟩ := hValid handler.event hHandler.1
    rcases upsert_writes hRun hValid hHandler.2 hEvent (.inr rfl) with
      ⟨-, row, hRow, hTaken⟩ | ⟨hHandled, -, -⟩
    · exact absurd hTaken (hFresh row hRow)
    · exact hHandled
  · have hHandler := hRun.waiting handler (List.mem_of_getElem? hWaiting)
    obtain ⟨v, hEvent⟩ := hValid handler.event hHandler.1
    -- the handler is taken off the list before it goes on
    have hErased : InOrder settings subscription stripeInvoiceId events
        { run (step settings stripeInvoiceId) { db := db } actions with
          waiting := (run (step settings stripeInvoiceId) { db := db }
            actions).waiting.eraseIdx n } :=
      ⟨fun h hh => hRun.waiting h (List.mem_of_mem_eraseIdx hh), hRun.handled, hRun.holds⟩
    rw [step_goOn hWaiting]
    rcases upsert_writes hErased hValid hHandler.2 hEvent (.inl rfl) with
      ⟨-, row, hRow, hTaken⟩ | ⟨hHandled, -, -⟩
    · exact absurd hTaken (hFresh row hRow)
    · exact hHandled

end InvoiceState

-- ---------------------------------------------------------------------------
-- A race of two first inserts
-- ---------------------------------------------------------------------------

namespace InvoiceSample

def settings : BillingSettings := .development

def subscription : Subscription :=
  { id := 1, businessId := 1, createdAt := 0, status := .active, trialStartedAt := some 0,
    stripeCustomerId := some (str "cus_1"), stripeSubscriptionId := some (str "sub_1") }

def invoice (status : Str) (amountPaid : Int) : Dict :=
  [(str "id", .str (str "in_1")), (str "customer", .str (str "cus_1")), (str "status", .str status),
    (str "currency", .str (str "usd")), (str "subtotal", .int 2900), (str "total", .int 2900),
    (str "amount_due", .int 2900), (str "amount_paid", .int amountPaid),
    (str "amount_remaining", .int (2900 - amountPaid)), (str "created", .int 100)]

/-- Two events of one second; the status ranks the payment last. -/
def finalized : InvoiceEvent := ⟨str "evt_1", seconds 101, invoice (str "open") 0⟩

def paid : InvoiceEvent := ⟨str "evt_2", seconds 101, invoice (str "paid") 2900⟩

/-- Both handlers find no row, the payment inserts one, and the older event follows. -/
def race : List InvoiceAction :=
  [.select ⟨finalized, subscription, 1⟩, .select ⟨paid, subscription, 2⟩, .goOn 1, .goOn 0]

/-- A value of an event, computed. -/
theorem of_isOf {α : Type} [DecidableEq α] (f : BillingInvoice → α) {event : InvoiceEvent}
    {v : BillingInvoice} (h : event.IsOf settings subscription (str "in_1") v) {a : α}
    (ha : (event.content settings subscription).toOption.map f = some a) : f v = a := by
  rw [h.1] at ha
  exact Option.some.inj ha

/-- An event that is of the invoice, computed. -/
theorem isOf_of_any {event : InvoiceEvent}
    (h : (event.content settings subscription).toOption.any
      (fun v => v.stripeInvoiceId == str "in_1") = true) :
    ∃ v, event.IsOf settings subscription (str "in_1") v := by
  unfold InvoiceEvent.IsOf
  cases hContent : event.content settings subscription with
  | error e => simp [hContent, Except.toOption] at h
  | ok v => exact ⟨v, rfl, by simpa [hContent, Except.toOption] using h⟩

/-- Both events are of the invoice. -/
theorem valid : ∀ event ∈ [finalized, paid],
    ∃ v, event.IsOf settings subscription (str "in_1") v := by
  intro event hEvent
  simp only [List.mem_cons, List.not_mem_nil, or_false] at hEvent
  rcases hEvent with rfl | rfl
  · exact isOf_of_any (by decide +kernel)
  · exact isOf_of_any (by decide +kernel)

/-- The keys of the two events. -/
theorem eventKey_eq {event : InvoiceEvent} {v : BillingInvoice}
    (h : event.IsOf settings subscription (str "in_1") v) :
    (event = finalized → v.eventKey = toLex (seconds 101, 1)) ∧
      (event = paid → v.eventKey = toLex (seconds 101, 2)) := by
  constructor
  · rintro rfl
    exact of_isOf BillingInvoice.eventKey h (by decide +kernel)
  · rintro rfl
    exact of_isOf BillingInvoice.eventKey h (by decide +kernel)

/-- The two events have different keys. -/
theorem distinct : ∀ event ∈ [finalized, paid], ∀ event' ∈ [finalized, paid], ∀ v v',
    event.IsOf settings subscription (str "in_1") v →
    event'.IsOf settings subscription (str "in_1") v' → v.eventKey = v'.eventKey →
    event = event' := by
  intro event hMem event' hMem' v v' h h' hSame
  simp only [List.mem_cons, List.not_mem_nil, or_false] at hMem hMem'
  rcases hMem with rfl | rfl <;> rcases hMem' with rfl | rfl
  · rfl
  · rw [(eventKey_eq h).1 rfl, (eventKey_eq h').2 rfl] at hSame
    exact absurd hSame (by decide)
  · rw [(eventKey_eq h).2 rfl, (eventKey_eq h').1 rfl] at hSame
    exact absurd hSame (by decide)
  · rfl

/-- The race is made of handlers of the two events. -/
theorem allowed :
    ∀ a ∈ race, InvoiceState.Allowed subscription [finalized, paid] a := by
  intro a ha handler hHandler
  simp only [race, List.mem_cons, List.not_mem_nil, or_false] at ha
  rcases ha with rfl | rfl | rfl | rfl
  · obtain rfl := Option.some.inj hHandler
    exact ⟨List.mem_cons_self, by decide⟩
  · obtain rfl := Option.some.inj hHandler
    exact ⟨List.mem_cons_of_mem _ List.mem_cons_self, by decide⟩
  · cases hHandler
  · cases hHandler

/-- Both events are handled. -/
theorem all_handled : ∀ event ∈ [finalized, paid],
    event ∈ (run (InvoiceState.step settings (str "in_1")) { db := {} } race).handled := by
  have hIds : (run (InvoiceState.step settings (str "in_1")) { db := {} } race).handled.map
      (·.eventId) = [str "evt_1", str "evt_2"] := by decide +kernel
  have hNew : ({} : BillingDatabase).invoiceByStripeId (str "in_1") = none := rfl
  have hOrder := (InvoiceState.run_inOrder (InvoiceState.init_inOrder hNew) valid allowed).1
  intro event hEvent
  have hId : event.eventId ∈ (run (InvoiceState.step settings (str "in_1")) { db := {} }
      race).handled.map (·.eventId) := by
    rw [hIds]
    simp only [List.mem_cons, List.not_mem_nil, or_false] at hEvent
    rcases hEvent with rfl | rfl <;> decide
  obtain ⟨event', hMem', hSame⟩ := List.mem_map.mp hId
  have hEvent' := hOrder.handled event' hMem'
  simp only [List.mem_cons, List.not_mem_nil, or_false] at hEvent hEvent'
  have hne : finalized.eventId ≠ paid.eventId := by decide
  rcases hEvent with rfl | rfl <;> rcases hEvent' with rfl | rfl
  · exact hMem'
  · exact absurd hSame.symm hne
  · exact absurd hSame hne
  · exact hMem'

end InvoiceSample

open InvoiceSample in
/-- The race leaves the payment in the row. -/
theorem InvoiceState.invoice_events_commute_race :
    ∃ row, (run (step settings (str "in_1")) { db := {} } race).db.invoiceByStripeId
      (str "in_1") = some row ∧ row.status = .paid ∧ row.amountPaidCents = 2900 := by
  obtain ⟨v, hPaid⟩ := valid paid (by simp)
  obtain ⟨row, hRow, hValues⟩ := (invoice_events_commute settings (str "in_1") subscription
    [finalized, paid] valid distinct {} rfl race allowed).1 paid (by simp) v hPaid
      fun event hEvent => ⟨all_handled event hEvent, fun w hw => by
        rw [(eventKey_eq hPaid).2 rfl]
        simp only [List.mem_cons, List.not_mem_nil, or_false] at hEvent
        rcases hEvent with hEvent | hEvent
        · rw [(eventKey_eq hw).1 hEvent]
          decide
        · rw [(eventKey_eq hw).2 hEvent]⟩
  refine ⟨row, hRow, ?_, ?_⟩
  · rw [hValues]
    exact of_isOf (·.status) hPaid (by decide +kernel)
  · rw [hValues]
    exact of_isOf (·.amountPaidCents) hPaid (by decide +kernel)

end SpikeBackend
