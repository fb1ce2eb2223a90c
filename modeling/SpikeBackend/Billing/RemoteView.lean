import SpikeBackend.Billing.Synchronisation

/-!
# What the local subscription shows

Status, plan and billing period of a local subscription come from a snapshot of Stripe. After a
synchronisation the row shows the snapshot, if the session that wrote it had read what the row
showed before: a column that is set to the value that was read is not written.

* `Subscription.flush_view` — what a flush leaves;
* `sync_shows` — a synchronisation leaves the view of its snapshot;
* `process_shows` — and so does a request that is no duplicate.
-/

namespace SpikeBackend

open Relational Text Outcome Session

/-- What a subscription shows of a version. -/
structure SubscriptionView where
  status : SubscriptionStatus
  planId : Option Uuid
  periodStartedAt : Option Datetime
  periodEndsAt : Option Datetime
  deriving DecidableEq

namespace Subscription

def view (s : Subscription) : SubscriptionView :=
  ⟨s.status, s.planId, s.currentPeriodStartedAt, s.currentPeriodEndsAt⟩

/-- What a subscription shows that was failed closed. -/
def closedView : SubscriptionView := ⟨.incomplete, none, none, none⟩

variable {s modified : Subscription} {stripeSubscriptionId stripeCustomerId priceId : Str}
  {snapshot : Dict} {event : EventStamp} {now : Datetime}

/-- Failing closed shows nothing of the snapshot. -/
theorem failedClosed_view
    (h : s.failedClosed stripeSubscriptionId stripeCustomerId priceId snapshot event now =
      .ok modified) : modified.view = closedView := by
  simp only [failedClosed, bind_eq_ok] at h
  obtain ⟨canceledAt, -, endedAt, -, hDone⟩ := h
  simp only [pure, Except.pure, Except.ok.injEq] at hDone
  rw [← hDone, noteEvent_field view _ _ fun _ _ => rfl]
  rfl

/-- A flush writes the view that was set, if the session had read the view of the row: a
column that it leaves alone has the value in the row. -/
theorem flush_view {copy row : Subscription} (h : row.view = copy.view) :
    (copy.flush modified row).view = modified.view := by
  have hColumn : ∀ {α : Type} [DecidableEq α] (f : Subscription → α), f row = f copy →
      column (f copy) (f modified) (f row) = f modified := by
    intro α _ f hSame
    rcases column_cases (f copy) (f modified) (f row) with hNew | ⟨hLoaded, hOld⟩
    · exact hNew
    · rw [hOld, hSame, hLoaded]
  simp only [view, SubscriptionView.mk.injEq] at h
  obtain ⟨hStatus, hPlan, hStart, hEnd⟩ := h
  simp only [view, flush, SubscriptionView.mk.injEq]
  exact ⟨hColumn status hStatus, hColumn planId hPlan, hColumn currentPeriodStartedAt hStart,
    hColumn currentPeriodEndsAt hEnd⟩

end Subscription

namespace BillingDatabase

variable {db db' : BillingDatabase} {settings : BillingSettings} {loaded : Option Subscription}
  {snapshot : Dict} {event : EventStamp} {now : Datetime} {stripeSubscriptionId : Str}

/-- What the local row is to show of a version: its status, the plan of its price and its
billing period. A price or a status that the program does not know is failed closed. -/
def viewOf (db : BillingDatabase) (settings : BillingSettings) (snapshot : Dict) :
    Option SubscriptionView :=
  match subscriptionItemDetails snapshot with
  | .error _ => none
  | .ok (priceId, periodStartedAt, periodEndsAt) =>
    if (configuredPlanCodeForPrice settings priceId).isNone then some Subscription.closedView
    else
      match requiredString snapshot (str "status") with
      | .error _ => none
      | .ok text =>
        match SubscriptionStatus.ofValue? text with
        | none => some Subscription.closedView
        | some status => (db.planForPrice settings priceId).toOption.map fun found =>
            ⟨status, some found.1.id, periodStartedAt, periodEndsAt⟩

/-- The local row of the subscription shows a version. -/
def Shows (db : BillingDatabase) (settings : BillingSettings) (stripeSubscriptionId : Str)
    (snapshot : Dict) : Prop :=
  ∃ row, db.subscriptionByStripeId stripeSubscriptionId = some row ∧
    db.viewOf settings snapshot = some row.view

/-- Only the subscriptions and the plans matter to what is shown. -/
theorem Shows.of_eq (h : db.Shows settings stripeSubscriptionId snapshot)
    (hSubscriptions : db'.subscriptions = db.subscriptions) (hPlans : db'.plans = db.plans) :
    db'.Shows settings stripeSubscriptionId snapshot := by
  obtain ⟨row, hRow, hView⟩ := h
  refine ⟨row, ?_, ?_⟩
  · rw [subscriptionByStripeId, hSubscriptions]
    exact hRow
  · simp only [viewOf, planForPrice, hPlans] at hView ⊢
    exact hView

-- ---------------------------------------------------------------------------
-- One synchronisation
-- ---------------------------------------------------------------------------

/-- At most one row has the Stripe subscription, so the lookup finds it. -/
theorem subscriptionByStripeId_of_mem {row : Subscription} (hRow : row ∈ db.subscriptions)
    (hStripe : row.stripeSubscriptionId = some stripeSubscriptionId) :
    db.subscriptionByStripeId stripeSubscriptionId = some row := by
  cases hFound : db.subscriptionByStripeId stripeSubscriptionId with
  | none =>
    have hNot := Table.find?_eq_none.mp hFound row hRow
    rw [hStripe, beq_self_eq_true] at hNot
    cases hNot
  | some found =>
    obtain ⟨hMem, hSame⟩ := subscriptionByStripeId_eq_some hFound
    have hClash : Schema.clash found row = true := by
      show (_ || found.stripeSubscriptionId.isSome &&
        found.stripeSubscriptionId == row.stripeSubscriptionId) = true
      rw [hSame, hStripe, beq_self_eq_true]
      exact Bool.or_true _
    rw [Table.eq_of_clash hMem hRow hClash]

/-- The row that the session has selected before is the one that the subscription has now, and
shows the same. -/
def selectedIsFresh (db : BillingDatabase) (stripeSubscriptionId : Str)
    (loaded : Option Subscription) : Bool :=
  loaded.all fun copy => (db.subscriptionByStripeId stripeSubscriptionId).any fun row =>
    row.id == copy.id && decide (row.view = copy.view)

/-- Then the instance that the session works on shows what the row shows. -/
theorem instanceOf_view (hFresh : db.selectedIsFresh stripeSubscriptionId loaded = true)
    {row : Subscription} (hRow : row ∈ db.subscriptions) :
    row.view = (instanceOf loaded row).view := by
  unfold instanceOf
  cases loaded with
  | none => rfl
  | some copy =>
    rw [Option.filter_some]
    split
    · next hId =>
      rw [selectedIsFresh, Option.all_some, Option.any_eq_true] at hFresh
      obtain ⟨found, hFound, hSame⟩ := hFresh
      simp only [Bool.and_eq_true, beq_iff_eq, decide_eq_true_eq] at hSame hId
      have hMem := (subscriptionByStripeId_eq_some hFound).1
      obtain rfl : found = row := Table.eq_of_key_eq hMem hRow (hSame.1.trans hId)
      exact hSame.2
    · rfl

/-- Without a row of the subscription the session has selected none. -/
theorem loaded_eq_none (hFresh : db.selectedIsFresh stripeSubscriptionId loaded = true)
    (hNone : db.subscriptionByStripeId stripeSubscriptionId = none) : loaded = none := by
  cases loaded with
  | none => rfl
  | some copy => simp [selectedIsFresh, hNone] at hFresh

/-- Saving leaves a row of the Stripe subscription with the view that was set. -/
theorem saveSubscription_shows {row modified : Subscription} (hRow : row ∈ db.subscriptions)
    (hView : row.view = (instanceOf loaded row).view)
    (hStripe : row.stripeSubscriptionId = some stripeSubscriptionId ∨ loaded = none)
    (hModified : modified.stripeSubscriptionId = some stripeSubscriptionId)
    (hSame : (instanceOf loaded row).SameRow modified)
    (hSave : db.saveSubscription (instanceOf loaded row) modified = .ok db') :
    ∃ row', db'.subscriptionByStripeId stripeSubscriptionId = some row' ∧
      row'.view = modified.view ∧ db' = { db with subscriptions := db'.subscriptions } := by
  obtain ⟨row₀, hRow₀, hId, hUpdate, hFrame⟩ := saveSubscription_eq_ok hSave
  obtain rfl : row₀ = row := Table.eq_of_key_eq hRow₀ hRow (hId.trans (instanceOf_id loaded row))
  refine ⟨(instanceOf loaded row₀).flush modified row₀, subscriptionByStripeId_of_mem ?_ ?_,
    Subscription.flush_view hView, hFrame⟩
  · exact (Table.mem_update? hUpdate).mpr (.inl ⟨rfl, row₀, hRow₀, rfl⟩)
  · -- the id was there before, or it is written now
    show column (instanceOf loaded row₀).stripeSubscriptionId modified.stripeSubscriptionId
      row₀.stripeSubscriptionId = some stripeSubscriptionId
    rcases column_cases (instanceOf loaded row₀).stripeSubscriptionId modified.stripeSubscriptionId
      row₀.stripeSubscriptionId with hNew | ⟨hLoaded, hOld⟩
    · exact hNew.trans hModified
    · rw [hOld]
      rcases hStripe with hHere | rfl
      · exact hHere
      · exact hLoaded.symm.trans hModified

/-- A snapshot of a subscription that is linked is never passed over. -/
theorem sync_isSome {result : Option Subscription} {row : Subscription}
    (hId : requiredString snapshot (str "id") = .ok stripeSubscriptionId)
    (hRow : db.subscriptionByStripeId stripeSubscriptionId = some row)
    (h : db.sync settings loaded snapshot event now = .ok (db', result)) :
    result.isSome = true := by
  simp only [sync, bind_eq_ok, required_eq_ok] at h
  obtain ⟨id', hId', customer?, -, stripeCustomerId, -, metadata, -, h⟩ := h
  obtain rfl := Except.ok.inj (hId'.symm.trans hId)
  rw [hRow] at h
  split at h
  · next hNot => simp at hNot
  simp only [bind_eq_ok] at h
  obtain ⟨⟨priceId, periodStartedAt, periodEndsAt⟩, -, -, -, h⟩ := h
  unfold syncPrice at h
  split at h
  · -- a price that is not configured fails the linked row closed
    simp only [bind_eq_ok] at h
    obtain ⟨subscription, -, h⟩ := h
    obtain ⟨modified, db₁, -, -, -, rfl⟩ := failClosed_eq_ok h
    rfl
  · simp only [bind_eq_ok] at h
    obtain ⟨⟨plan, planCode⟩, -, found, hFound, h⟩ := h
    rcases findLocalSubscription_eq_ok hFound with ⟨s, -, rfl⟩ | ⟨hNone, -⟩
    · simp only [bind_eq_ok] at h
      obtain ⟨-, -, -, -, text, -, h⟩ := h
      cases hStatus : SubscriptionStatus.ofValue? text with
      | some status =>
        rw [hStatus] at h
        obtain ⟨modified, db₁, db₂, -, -, -, -, rfl⟩ := synchronize_eq_ok h
        rfl
      | none =>
        simp only [hStatus, bind_eq_ok] at h
        obtain ⟨subscription, -, h⟩ := h
        obtain ⟨modified, db₁, -, -, -, rfl⟩ := failClosed_eq_ok h
        rfl
    · cases hNone

/-- **One synchronisation.** The row of the subscription shows the snapshot afterwards, unless
there is none and nothing is written. -/
theorem sync_shows {result : Option Subscription}
    (hId : requiredString snapshot (str "id") = .ok stripeSubscriptionId)
    (hFresh : db.selectedIsFresh stripeSubscriptionId loaded = true)
    (h : db.sync settings loaded snapshot event now = .ok (db', result)) :
    db'.plans = db.plans ∧ (db'.Shows settings stripeSubscriptionId snapshot ∨
      (db'.subscriptions = db.subscriptions ∧
        db.subscriptionByStripeId stripeSubscriptionId = none)) := by
  have hSome : ∀ row, db.subscriptionByStripeId stripeSubscriptionId = some row →
      result.isSome = true := fun row hRow => sync_isSome hId hRow h
  cases sync_eq_ok h with
  | ignored =>
    refine ⟨rfl, .inr ⟨rfl, ?_⟩⟩
    cases hRow : db.subscriptionByStripeId stripeSubscriptionId with
    | none => rfl
    | some row => exact absurd (hSome row hRow) Bool.false_ne_true
  | failedClosed id' stripeCustomerId priceId start stop row modified db₁ hId' hRow hItem hWhy
      hModified hSave =>
    obtain rfl := Except.ok.inj (hId'.symm.trans hId)
    obtain ⟨hMem, hStripe⟩ := subscriptionByStripeId_eq_some hRow
    obtain ⟨hSame, -, -, -, -, hWritten⟩ := Subscription.failedClosed_eq_ok hModified
    obtain ⟨row', hRow', hView, hFrame⟩ := saveSubscription_shows hMem
      (instanceOf_view hFresh hMem) (.inl hStripe) hWritten hSame hSave
    have hPlans : db₁.plans = db.plans := by rw [hFrame]
    refine ⟨hPlans, .inl ⟨row', hRow', ?_⟩⟩
    rw [hView, Subscription.failedClosed_view hModified]
    unfold viewOf
    rw [hItem]
    rcases hWhy with hPrice | ⟨text, hText, hStatus⟩
    · simp only [hPrice, Option.isNone_none, if_true]
    · simp only [hText, hStatus, ite_self]
  | synchronized id' stripeCustomerId priceId text start stop metadata row modified plan planCode
      status db₁ db₂ hId' hMetadata hRow hItem hPlan hText hStatus hModified hSave hComplete =>
    obtain rfl := Except.ok.inj (hId'.symm.trans hId)
    have hStripe : row.stripeSubscriptionId = some id' ∨ loaded = none := by
      cases hRow with
      | existing hRow => exact .inl (subscriptionByStripeId_eq_some hRow).2
      | named _ _ hNone => exact .inr (loaded_eq_none hFresh hNone)
    obtain ⟨hSame, hNewStatus, hNewPlan, -, -, hStart, hEnd, hWritten⟩ :=
      Subscription.synchronized_eq_ok hModified
    obtain ⟨row', hRow', hView, hFrame⟩ := saveSubscription_shows hRow.mem
      (instanceOf_view hFresh hRow.mem) hStripe hWritten hSame hSave
    have hPlans : db₁.plans = db.plans := by rw [hFrame]
    have hCheckouts := completeCheckoutOf_frame hComplete
    -- the price has a plan, so it is configured
    have hConfigured : (configuredPlanCodeForPrice settings priceId).isNone = false := by
      simp only [planForPrice, bind_eq_ok, required_eq_ok] at hPlan
      obtain ⟨code, hCode, -⟩ := hPlan
      rw [hCode]
      rfl
    have hShows : db₁.Shows settings id' snapshot := by
      refine ⟨row', hRow', ?_⟩
      have hPlan' : db₁.planForPrice settings priceId = .ok (plan, planCode) := by
        simpa only [planForPrice, hPlans] using hPlan
      unfold viewOf
      simp only [hItem, hConfigured, hText, hStatus, hPlan', hView]
      simp only [Subscription.view, hNewStatus, hNewPlan, hStart, hEnd]
      rfl
    split
    · exact ⟨by rw [hCheckouts]; exact hPlans,
        .inl (hShows.of_eq (by rw [hCheckouts]) (by rw [hCheckouts]))⟩
    · exact ⟨by rw [hCheckouts]; exact hPlans,
        .inl (hShows.of_eq (by rw [hCheckouts]; rfl) (by rw [hCheckouts]; rfl))⟩

end BillingDatabase

-- ---------------------------------------------------------------------------
-- One request
-- ---------------------------------------------------------------------------

/-- An event whose handler synchronises the subscription. -/
def StripeEvent.concerns (event : StripeEvent) (stripeSubscriptionId : Str) : Bool :=
  if event.eventType ∈ subscriptionEvents then true
  else
    decide (event.eventType ∈ invoiceEvents) &&
      (invoiceSubscriptionId event.stripeObject).toOption == some (some stripeSubscriptionId)

namespace BillingDatabase

variable {db db' : BillingDatabase} {settings : BillingSettings} {snapshot : Dict}
  {now : Datetime} {stripeSubscriptionId : Str}

/-- An event that brings a snapshot is handled by a synchronisation of that snapshot, which is
followed by the invoice, if there is one. -/
theorem handleEvent_sync {reads : WebhookReads} {stripe : StripeEvent} {invoiceId : Uuid}
    {result : StripeWebhookResult} (hKind : stripe.concerns stripeSubscriptionId = true)
    (hSnapshot : stripe.remoteSnapshot reads.retrieved = some snapshot)
    (hNonempty : snapshot.isEmpty = false)
    (h : db.handleEvent settings reads stripe invoiceId now = .ok (db', result)) :
    ∃ loaded found db₁, (loaded = none ∨ loaded = reads.existing) ∧
      db.sync settings loaded snapshot stripe.stamp now = .ok (db₁, found) ∧
      db' = { db₁ with invoices := db'.invoices } := by
  unfold StripeEvent.concerns at hKind
  unfold StripeEvent.remoteSnapshot at hSnapshot
  unfold handleEvent at h
  by_cases hSubscription : stripe.eventType ∈ subscriptionEvents
  · rw [if_pos hSubscription] at hSnapshot h
    split at h
    · next hDeleted =>
      simp only [bind_eq_ok, pure, Except.pure, Except.ok.injEq, Prod.mk.injEq] at h
      obtain ⟨_, rfl, ⟨db₁, found⟩, hSync, rfl, -⟩ := h
      rw [if_pos hDeleted] at hSnapshot
      rw [Option.some.inj hSnapshot] at hSync
      exact ⟨none, found, db₁, .inl rfl, hSync, rfl⟩
    · next hOther =>
      simp only [bind_eq_ok, pure, Except.pure, Except.ok.injEq, Prod.mk.injEq] at h
      obtain ⟨-, -, retrieved, hRetrieved, ⟨db₁, found⟩, hSync, rfl, -⟩ := h
      rw [if_neg hOther, hRetrieved] at hSnapshot
      obtain rfl := Option.some.inj hSnapshot
      exact ⟨none, found, db₁, .inl rfl, hSync, rfl⟩
  · rw [if_neg hSubscription] at hSnapshot hKind h
    obtain ⟨hType, hInvoice⟩ := Bool.and_eq_true_iff.mp hKind
    have hType := of_decide_eq_true hType
    obtain ⟨hNoCheckout, hNoExpiry⟩ : stripe.eventType ∉ checkoutCompleteEvents ∧
        stripe.eventType ≠ str "checkout.session.expired" :=
      (by decide : ∀ t ∈ invoiceEvents, t ∉ checkoutCompleteEvents ∧
        t ≠ str "checkout.session.expired") _ hType
    rw [if_pos hType] at hSnapshot
    rw [if_neg hNoCheckout, if_neg hNoExpiry, if_pos hType] at h
    simp only [processInvoice, bind_eq_ok] at h
    obtain ⟨found?, hFound, h⟩ := h
    have hSome : found? = some stripeSubscriptionId := by
      rw [hFound, beq_iff_eq] at hInvoice
      exact Option.some.inj hInvoice
    subst hSome
    simp only [bind_eq_ok] at h
    obtain ⟨snapshot', hAnswer, ⟨db₁, found⟩, hSync, h⟩ := h
    -- Stripe has answered, so the snapshot is its answer
    have hSame : snapshot' = snapshot := by
      unfold invoiceSnapshot at hAnswer
      cases hRetrieved : reads.retrieved with
      | error e =>
        rw [hRetrieved] at hSnapshot
        cases hSnapshot
      | ok answer =>
        rw [hRetrieved] at hSnapshot hAnswer
        exact (Except.ok.inj hAnswer).symm.trans (Option.some.inj hSnapshot)
    rw [hSame, invoiceSubscription, hNonempty] at hSync
    refine ⟨reads.existing, found, db₁, .inr rfl, hSync, ?_⟩
    cases found with
    | none =>
      simp only [pure, Except.pure, Except.ok.injEq, Prod.mk.injEq] at h
      rw [← h.1]
    | some subscription => exact upsertInvoice_frame h

variable {reads : WebhookReads} {delivery : Dict} {draws : WebhookDraws}
  {result : WebhookProcessResult} {stripe : StripeEvent}

/-- A request without a snapshot leaves the subscriptions and the plans alone. -/
theorem process_untouched (hEvent : parseStripeEvent settings delivery = .ok stripe)
    (hSnapshot : stripe.remoteSnapshot reads.retrieved = none)
    (h : db.process settings reads delivery draws now = .ok (db', result)) :
    db'.subscriptions = db.subscriptions ∧ db'.plans = db.plans := by
  rcases process_eq_ok h with ⟨rfl, -⟩ | ⟨event, claimed, events, db₁, hParsed, hHandled, rfl⟩
  · exact ⟨rfl, rfl⟩
  · obtain rfl := Except.ok.inj (hParsed.symm.trans hEvent)
    cases hHandled with
    | untouched checkouts invoices => exact ⟨rfl, rfl⟩
    | synced loaded found snapshot db₂ invoices hSome => cases hSnapshot.symm.trans hSome

/-- **One request.** One that has a snapshot and is no duplicate leaves a row that shows it, if
the subscription has a row. -/
theorem process_shows (hEvent : parseStripeEvent settings delivery = .ok stripe)
    (hKind : stripe.concerns stripeSubscriptionId = true)
    (hSnapshot : stripe.remoteSnapshot reads.retrieved = some snapshot)
    (hId : requiredString snapshot (str "id") = .ok stripeSubscriptionId)
    (hFresh : db.selectedIsFresh stripeSubscriptionId reads.existing = true)
    (hNew : result.duplicate = false)
    (h : db.process settings reads delivery draws now = .ok (db', result)) :
    db'.plans = db.plans ∧ (db'.Shows settings stripeSubscriptionId snapshot ∨
      (db'.subscriptions = db.subscriptions ∧
        db.subscriptionByStripeId stripeSubscriptionId = none)) := by
  rcases process_cases h with
    ⟨-, hDuplicate⟩ | ⟨event, claimed, events, db₁, outcome, hParsed, hHandle, rfl, -⟩
  · rw [hNew] at hDuplicate
    cases hDuplicate
  obtain rfl := Except.ok.inj (hParsed.symm.trans hEvent)
  have hNonempty : snapshot.isEmpty = false := by
    cases snapshot with
    | nil => cases hId
    | cons m ms => rfl
  obtain ⟨loaded, found, db₂, hLoaded, hSync, hFrame⟩ :=
    handleEvent_sync hKind hSnapshot hNonempty hHandle
  have hFresh' : BillingDatabase.selectedIsFresh { db with webhookEvents := claimed }
      stripeSubscriptionId loaded = true := by
    rcases hLoaded with rfl | rfl
    · rfl
    · exact hFresh
  obtain ⟨hPlans, hShows⟩ := sync_shows hId hFresh' hSync
  rw [hFrame]
  refine ⟨hPlans, hShows.imp (fun hShown => hShown.of_eq rfl rfl) id⟩

end BillingDatabase

end SpikeBackend
