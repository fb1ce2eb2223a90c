import SpikeBackend.Model.StripeWebhook

/-!
# What a synchronisation does

`sync` leaves the database alone, fails the local subscription closed, or writes the
snapshot into it. `Synced` lists the three outcomes with everything that each of them
checked and wrote.

* `sync_eq_ok` — reads the outcome off a successful call;
* `process_eq_ok` — a delivery touches subscriptions only through `sync`.
-/

namespace SpikeBackend

open Relational Text Outcome Session

-- ---------------------------------------------------------------------------
-- The fields of a modified subscription
-- ---------------------------------------------------------------------------

namespace Subscription

variable {s modified : Subscription} {stripeSubscriptionId stripeCustomerId priceId : Str}
  {snapshot : Dict} {event : EventStamp} {now : Datetime}

/-- The last-event fields are the only ones that `noteEvent` sets. -/
theorem noteEvent_field {α : Type} (f : Subscription → α) (s : Subscription) (event : EventStamp)
    (hf : ∀ eventId createdAt, f { s with
      lastStripeEventId := eventId, lastStripeEventCreatedAt := createdAt } = f s) :
    f (s.noteEvent event) = f s := by
  unfold noteEvent
  split
  · split
    · exact hf _ _
    · rfl
  · rfl

/-- Two versions of one row. -/
def SameRow (s s' : Subscription) : Prop :=
  s'.id = s.id ∧ s'.businessId = s.businessId ∧ s'.createdAt = s.createdAt

/-- A failed-closed subscription grants nothing. -/
theorem failedClosed_eq_ok
    (h : s.failedClosed stripeSubscriptionId stripeCustomerId priceId snapshot event now =
      .ok modified) :
    s.SameRow modified ∧ modified.status = .incomplete ∧ modified.planId = none ∧
      modified.trialStartedAt = s.trialStartedAt ∧ modified.trialEndsAt = none ∧
      modified.stripeSubscriptionId = some stripeSubscriptionId := by
  simp only [failedClosed, bind_eq_ok] at h
  obtain ⟨canceledAt, -, endedAt, -, hDone⟩ := h
  simp only [pure, Except.pure, Except.ok.injEq] at hDone
  rw [← hDone]
  -- Noting the event writes none of the fields below, so each is the one the record sets.
  refine ⟨⟨?_, ?_, ?_⟩, ?_, ?_, ?_, ?_, ?_⟩
  · rw [noteEvent_field (·.id) _ _ fun _ _ => rfl]
  · rw [noteEvent_field (·.businessId) _ _ fun _ _ => rfl]
  · rw [noteEvent_field (·.createdAt) _ _ fun _ _ => rfl]
  · rw [noteEvent_field (·.status) _ _ fun _ _ => rfl]
  · rw [noteEvent_field (·.planId) _ _ fun _ _ => rfl]
  · rw [noteEvent_field (·.trialStartedAt) _ _ fun _ _ => rfl]
  · rw [noteEvent_field (·.trialEndsAt) _ _ fun _ _ => rfl]
  · rw [noteEvent_field (·.stripeSubscriptionId) _ _ fun _ _ => rfl]

/-- A synchronised subscription has the snapshot's plan, status and dates; its trial
starts no later than it did. -/
theorem synchronized_eq_ok {planId : Uuid} {status : SubscriptionStatus}
    {periodStartedAt periodEndsAt : Option Datetime}
    (h : s.synchronized planId status stripeSubscriptionId stripeCustomerId priceId
      periodStartedAt periodEndsAt snapshot event now = .ok modified) :
    s.SameRow modified ∧ modified.status = status ∧ modified.planId = some planId ∧
      stripeDatetime (snapshot.get (str "trial_end")) = .ok modified.trialEndsAt ∧
      (∃ start, stripeDatetime (snapshot.get (str "trial_start")) = .ok start ∧
        modified.trialStartedAt =
          match start with
          | some t => if s.trialStartedAt.all (t < ·) then some t else s.trialStartedAt
          | none => s.trialStartedAt) ∧
      modified.currentPeriodStartedAt = periodStartedAt ∧
      modified.currentPeriodEndsAt = periodEndsAt ∧
      modified.stripeSubscriptionId = some stripeSubscriptionId := by
  simp only [synchronized, bind_eq_ok] at h
  obtain ⟨start, hStart, trialEndsAt, hEnd, canceledAt, -, endedAt, -, hDone⟩ := h
  simp only [pure, Except.pure, Except.ok.injEq] at hDone
  rw [← hDone]
  -- As above; only the trial's start depends on what is stored.
  refine ⟨⟨?_, ?_, ?_⟩, ?_, ?_, ?_, ⟨start, hStart, ?_⟩, ?_, ?_, ?_⟩
  · rw [noteEvent_field (·.id) _ _ fun _ _ => rfl]
  · rw [noteEvent_field (·.businessId) _ _ fun _ _ => rfl]
  · rw [noteEvent_field (·.createdAt) _ _ fun _ _ => rfl]
  · rw [noteEvent_field (·.status) _ _ fun _ _ => rfl]
  · rw [noteEvent_field (·.planId) _ _ fun _ _ => rfl]
  · rw [hEnd, noteEvent_field (·.trialEndsAt) _ _ fun _ _ => rfl]
  · refine (noteEvent_field (·.trialStartedAt) _ _ fun _ _ => rfl).trans ?_
    cases start <;> rfl
  · rw [noteEvent_field (·.currentPeriodStartedAt) _ _ fun _ _ => rfl]
  · rw [noteEvent_field (·.currentPeriodEndsAt) _ _ fun _ _ => rfl]
  · rw [noteEvent_field (·.stripeSubscriptionId) _ _ fun _ _ => rfl]

/-- A session that holds the committed row writes what it set. -/
theorem flush_self {row modified : Subscription} (h : row.SameRow modified) :
    row.flush modified row = modified := by
  obtain ⟨hId, hBusiness, hCreated⟩ := h
  cases row
  cases modified
  simp_all [flush]

end Subscription

/-- The snapshot that the handler of an event synchronises. -/
def StripeEvent.remoteSnapshot (event : StripeEvent) (retrieved : Except BillingError Dict) :
    Option Dict :=
  if event.eventType ∈ subscriptionEvents then
    if event.eventType = str "customer.subscription.deleted" then some event.stripeObject
    else retrieved.toOption
  else if event.eventType ∈ invoiceEvents then retrieved.toOption
  else none

-- ---------------------------------------------------------------------------
-- Saving
-- ---------------------------------------------------------------------------

namespace BillingDatabase

variable {db db' : BillingDatabase} {settings : BillingSettings} {loaded : Option Subscription}
  {snapshot : Dict} {event : EventStamp} {now : Datetime}

/-- A save that succeeds updates the row the copy stands for, and no other table. -/
theorem saveSubscription_eq_ok {copy modified : Subscription}
    (h : db.saveSubscription copy modified = .ok db') :
    ∃ row ∈ db.subscriptions, row.id = copy.id ∧
      db.subscriptions.update? (copy.flush modified row) = some db'.subscriptions ∧
      db' = { db with subscriptions := db'.subscriptions } := by
  simp only [saveSubscription, bind_eq_ok, required_eq_ok] at h
  obtain ⟨row, hRow, subscriptions, hSave, hDone⟩ := h
  simp only [pure, Except.pure, Except.ok.injEq] at hDone
  obtain ⟨hMem, hId⟩ := Table.get?_eq_some.mp hRow
  subst hDone
  exact ⟨row, hMem, hId, hSave, rfl⟩

theorem subscriptionByStripeId_eq_some {stripeSubscriptionId : Str} {row : Subscription}
    (h : db.subscriptionByStripeId stripeSubscriptionId = some row) :
    row ∈ db.subscriptions ∧ row.stripeSubscriptionId = some stripeSubscriptionId :=
  ⟨Table.mem_of_find? h, by simpa using Table.prop_of_find? h⟩

/-- What a scoped lookup finds is the row of that id, owned by the scope. -/
theorem scopedSubscription_eq_some {scope subscriptionId : Uuid} {row : Subscription}
    (h : db.scopedSubscription scope subscriptionId = some row) :
    row ∈ db.subscriptions ∧ row.businessId = scope ∧ row.id = subscriptionId := by
  have hp := Table.prop_of_find? h
  rw [Bool.and_eq_true, beq_iff_eq, beq_iff_eq] at hp
  exact ⟨Table.mem_of_find? h, hp⟩

/-- What a scoped lookup finds is the checkout of that id, owned by the scope. -/
theorem scopedCheckout_eq_some {scope checkoutId : Uuid} {row : BillingCheckoutSession}
    (h : db.scopedCheckout scope checkoutId = some row) :
    row ∈ db.checkouts ∧ row.businessId = scope ∧ row.id = checkoutId := by
  have hp := Table.prop_of_find? h
  rw [Bool.and_eq_true, beq_iff_eq, beq_iff_eq] at hp
  exact ⟨Table.mem_of_find? h, hp⟩

/-- The instance of a row is that row, or a copy of it read earlier. -/
theorem instanceOf_id (loaded : Option Subscription) (row : Subscription) :
    (instanceOf loaded row).id = row.id := by
  unfold instanceOf
  cases loaded with
  | none => rfl
  | some copy =>
    rw [Option.filter_some]
    split
    · next h => exact beq_iff_eq.mp h
    · rfl

/-- A session that holds the committed row works on the committed row. -/
theorem instanceOf_current {copy row : Subscription} (h : copy.id = row.id → copy = row) :
    instanceOf (some copy) row = row := by
  unfold instanceOf
  rw [Option.filter_some]
  split
  · next hId => exact h (beq_iff_eq.mp hId)
  · rfl

-- ---------------------------------------------------------------------------
-- The outcomes of a synchronisation
-- ---------------------------------------------------------------------------

/-- The row a snapshot belongs to: the one with its Stripe subscription, or the one named
by the metadata. -/
inductive LocalRow (db : BillingDatabase) (settings : BillingSettings) (snapshot : Dict)
    (stripeSubscriptionId : Str) (row : Subscription) : Prop
  | existing (hRow : db.subscriptionByStripeId stripeSubscriptionId = some row)
  | named (metadata : Metadata) (scope : Uuid)
      (hNone : db.subscriptionByStripeId stripeSubscriptionId = none)
      (hMetadata : metadataOf settings snapshot = .ok metadata)
      (hId : metadataUuid settings metadata stripeMetadataSubscriptionId = .ok row.id)
      (hRow : db.scopedSubscription scope row.id = some row)

/-- The row a snapshot stands for is stored. -/
theorem LocalRow.mem {stripeSubscriptionId : Str} {row : Subscription}
    (h : LocalRow db settings snapshot stripeSubscriptionId row) : row ∈ db.subscriptions := by
  cases h with
  | existing hRow => exact (subscriptionByStripeId_eq_some hRow).1
  | named _ _ _ _ _ hRow => exact (scopedSubscription_eq_some hRow).1

/-- What a successful synchronisation checked and wrote. -/
inductive Synced (db : BillingDatabase) (settings : BillingSettings)
    (loaded : Option Subscription) (snapshot : Dict) (event : EventStamp) (now : Datetime) :
    BillingDatabase → Option Subscription → Prop
  | ignored : Synced db settings loaded snapshot event now db none
  | failedClosed (stripeSubscriptionId stripeCustomerId priceId : Str)
      (periodStartedAt periodEndsAt : Option Datetime) (row modified : Subscription)
      (db₁ : BillingDatabase)
      (hId : requiredString snapshot (str "id") = .ok stripeSubscriptionId)
      (hRow : db.subscriptionByStripeId stripeSubscriptionId = some row)
      (hItem : subscriptionItemDetails snapshot = .ok (priceId, periodStartedAt, periodEndsAt))
      (hWhy : configuredPlanCodeForPrice settings priceId = none ∨
        ∃ text, requiredString snapshot (str "status") = .ok text ∧
          SubscriptionStatus.ofValue? text = none)
      (hModified : (instanceOf loaded row).failedClosed stripeSubscriptionId stripeCustomerId
        priceId snapshot event now = .ok modified)
      (hSave : db.saveSubscription (instanceOf loaded row) modified = .ok db₁) :
      Synced db settings loaded snapshot event now
        (db₁.deleteTrialEntitlements (instanceOf loaded row)) (some modified)
  | synchronized (stripeSubscriptionId stripeCustomerId priceId text : Str)
      (periodStartedAt periodEndsAt : Option Datetime) (metadata : Metadata)
      (row modified : Subscription) (plan : Plan) (planCode : SeededPlanCode)
      (status : SubscriptionStatus) (db₁ db₂ : BillingDatabase)
      (hId : requiredString snapshot (str "id") = .ok stripeSubscriptionId)
      (hMetadata : metadataOf settings snapshot = .ok metadata)
      (hRow : LocalRow db settings snapshot stripeSubscriptionId row)
      (hItem : subscriptionItemDetails snapshot = .ok (priceId, periodStartedAt, periodEndsAt))
      (hPlan : db.planForPrice settings priceId = .ok (plan, planCode))
      (hText : requiredString snapshot (str "status") = .ok text)
      (hStatus : SubscriptionStatus.ofValue? text = some status)
      (hModified : (instanceOf loaded row).synchronized plan.id status stripeSubscriptionId
        stripeCustomerId priceId periodStartedAt periodEndsAt snapshot event now = .ok modified)
      (hSave : db.saveSubscription (instanceOf loaded row) modified = .ok db₁)
      (hComplete : db₁.completeCheckoutOf settings modified metadata stripeCustomerId
        stripeSubscriptionId now = .ok db₂) :
      Synced db settings loaded snapshot event now
        (if status = .trialing then db₂ else db₂.deleteTrialEntitlements modified) (some modified)

/-- A synchronisation that fails closed saves the closed row and deletes the trial's entitlements.
-/
theorem failClosed_eq_ok {subscription : Subscription}
    {stripeSubscriptionId stripeCustomerId priceId : Str} {result : Option Subscription}
    (h : db.failClosed subscription stripeSubscriptionId stripeCustomerId priceId snapshot event
      now = .ok (db', result)) :
    ∃ modified db₁, subscription.failedClosed stripeSubscriptionId stripeCustomerId priceId
        snapshot event now = .ok modified ∧
      db.saveSubscription subscription modified = .ok db₁ ∧
      db' = db₁.deleteTrialEntitlements subscription ∧ result = some modified := by
  simp only [failClosed, bind_eq_ok] at h
  obtain ⟨modified, hModified, db₁, hSave, hDone⟩ := h
  simp only [pure, Except.pure, Except.ok.injEq, Prod.mk.injEq] at hDone
  -- The trial's entitlements go with the status.
  exact ⟨modified, db₁, hModified, hSave, hDone.1.symm, hDone.2.symm⟩

/-- The local row is the one found by Stripe id, else the one the metadata names in its scope, if
any. -/
theorem findLocalSubscription_eq_ok {metadata : Metadata} {plan : Plan}
    {planCode : SeededPlanCode} {existing : Option Subscription} {result : Option Subscription}
    (h : db.findLocalSubscription settings loaded existing metadata plan planCode = .ok result) :
    (∃ s, existing = some s ∧ result = some s) ∨
      (existing = none ∧ (result = none ∨ ∃ scope row,
        metadataUuid settings metadata stripeMetadataSubscriptionId = .ok row.id ∧
        db.scopedSubscription scope row.id = some row ∧
        result = some (instanceOf loaded row))) := by
  unfold findLocalSubscription at h
  -- A row found by its Stripe id is kept, whatever the metadata name.
  cases existing with
  | some s =>
    simp only [bind_eq_ok, pure, Except.pure, Except.ok.injEq] at h
    obtain ⟨-, -, -, -, hDone⟩ := h
    exact .inl ⟨s, rfl, hDone.symm⟩
  | none =>
    refine .inr ⟨rfl, ?_⟩
    simp only at h
    split at h
    · simp only [pure, Except.pure, Except.ok.injEq] at h
      exact .inl h.symm
    · simp only [bind_eq_ok, required_eq_ok, pure, Except.pure, Except.ok.injEq] at h
      obtain ⟨-, -, -, -, -, -, scope, -, subscriptionId, hId, -, -, row, hRow, -, -, -, -,
        hDone⟩ := h
      -- Without one the metadata have to name the row and its scope.
      obtain ⟨-, -, rfl⟩ := scopedSubscription_eq_some hRow
      exact .inr ⟨scope, row, hId, hRow, hDone.symm⟩

/-- A synchronisation that goes through saves the synchronised row, completes its checkout and
deletes the trial's entitlements unless the new status is a trial. -/
theorem synchronize_eq_ok {subscription : Subscription} {plan : Plan}
    {status : SubscriptionStatus} {stripeSubscriptionId stripeCustomerId priceId : Str}
    {periodStartedAt periodEndsAt : Option Datetime} {metadata : Metadata}
    {result : Option Subscription}
    (h : db.synchronize settings subscription plan status stripeSubscriptionId stripeCustomerId
      priceId periodStartedAt periodEndsAt metadata snapshot event now = .ok (db', result)) :
    ∃ modified db₁ db₂, subscription.synchronized plan.id status stripeSubscriptionId
        stripeCustomerId priceId periodStartedAt periodEndsAt snapshot event now = .ok modified ∧
      db.saveSubscription subscription modified = .ok db₁ ∧
      db₁.completeCheckoutOf settings modified metadata stripeCustomerId stripeSubscriptionId
        now = .ok db₂ ∧
      db' = (if status = .trialing then db₂ else db₂.deleteTrialEntitlements modified) ∧
      result = some modified := by
  simp only [synchronize, bind_eq_ok] at h
  obtain ⟨modified, hModified, db₁, hSave, db₂, hComplete, hDone⟩ := h
  refine ⟨modified, db₁, db₂, hModified, hSave, hComplete, ?_⟩
  -- Only a status other than a trial deletes the entitlements of the trial.
  by_cases hTrialing : status = .trialing
  · rw [if_pos hTrialing] at hDone ⊢
    simp only [pure, Except.pure, Except.ok.injEq, Prod.mk.injEq] at hDone
    exact ⟨hDone.1.symm, hDone.2.symm⟩
  · rw [if_neg hTrialing] at hDone ⊢
    simp only [pure, Except.pure, Except.ok.injEq, Prod.mk.injEq] at hDone
    exact ⟨hDone.1.symm, hDone.2.symm⟩

/-- The row of a snapshot, when the session found it by its Stripe subscription. -/
theorem map_instanceOf_eq_some {stripeSubscriptionId : Str} {s : Subscription}
    (h : (db.subscriptionByStripeId stripeSubscriptionId).map (instanceOf loaded) = some s) :
    ∃ row, db.subscriptionByStripeId stripeSubscriptionId = some row ∧
      s = instanceOf loaded row := by
  obtain ⟨row, hRow, rfl⟩ := Option.map_eq_some_iff.mp h
  exact ⟨row, hRow, rfl⟩

/-- The part after the item is read ends in one of the outcomes of `Synced`. -/
theorem syncPrice_eq_ok {metadata : Metadata} {stripeSubscriptionId stripeCustomerId priceId : Str}
    {periodStartedAt periodEndsAt : Option Datetime} {result : Option Subscription}
    (hId : requiredString snapshot (str "id") = .ok stripeSubscriptionId)
    (hMetadata : metadataOf settings snapshot = .ok metadata)
    (hItem : subscriptionItemDetails snapshot = .ok (priceId, periodStartedAt, periodEndsAt))
    (h : db.syncPrice settings loaded
      ((db.subscriptionByStripeId stripeSubscriptionId).map (instanceOf loaded)) metadata
      stripeSubscriptionId stripeCustomerId priceId periodStartedAt periodEndsAt snapshot event now =
        .ok (db', result)) :
    Synced db settings loaded snapshot event now db' result := by
  unfold syncPrice at h
  split at h
  · next hPrice =>
    simp only [bind_eq_ok, required_eq_ok] at h
    obtain ⟨s, hExisting, h⟩ := h
    obtain ⟨row, hRow, rfl⟩ := map_instanceOf_eq_some hExisting
    obtain ⟨modified, db₁, hModified, hSave, rfl, rfl⟩ := failClosed_eq_ok h
    exact .failedClosed stripeSubscriptionId stripeCustomerId priceId periodStartedAt periodEndsAt
      row modified db₁ hId hRow hItem (.inl (Option.isNone_iff_eq_none.mp hPrice)) hModified hSave
  · simp only [bind_eq_ok] at h
    obtain ⟨⟨plan, planCode⟩, hPlan, found, hFound, h⟩ := h
    cases found with
    | none =>
      simp only [pure, Except.pure, Except.ok.injEq, Prod.mk.injEq] at h
      obtain ⟨rfl, rfl⟩ := h
      exact .ignored
    | some s =>
      -- the instance that the rest of `sync` works on is one of a local row
      have hLocal : ∃ row, LocalRow db settings snapshot stripeSubscriptionId row ∧
          s = instanceOf loaded row := by
        rcases findLocalSubscription_eq_ok hFound with
          ⟨_, hExisting, hSome⟩ | ⟨hNone, hNothing | ⟨scope, row, hRowId, hRow, hSome⟩⟩
        · obtain ⟨row, hRow, hEq⟩ := map_instanceOf_eq_some hExisting
          exact ⟨row, .existing hRow, (Option.some.inj hSome).trans hEq⟩
        · cases hNothing
        · exact ⟨row, .named metadata scope (Option.map_eq_none_iff.mp hNone) hMetadata hRowId hRow,
            Option.some.inj hSome⟩
      obtain ⟨row, hRow, rfl⟩ := hLocal
      simp only [bind_eq_ok] at h
      obtain ⟨-, -, -, -, text, hText, h⟩ := h
      cases hStatus : SubscriptionStatus.ofValue? text with
      | some status =>
        rw [hStatus] at h
        obtain ⟨modified, db₁, db₂, hModified, hSave, hComplete, rfl, rfl⟩ := synchronize_eq_ok h
        exact .synchronized stripeSubscriptionId stripeCustomerId priceId text periodStartedAt
          periodEndsAt metadata row modified plan planCode status db₁ db₂ hId hMetadata hRow hItem
          hPlan hText hStatus hModified hSave hComplete
      | none =>
        simp only [hStatus, bind_eq_ok, required_eq_ok] at h
        obtain ⟨s, hExisting, h⟩ := h
        obtain ⟨row', hRow', rfl⟩ := map_instanceOf_eq_some hExisting
        obtain ⟨modified, db₁, hModified, hSave, rfl, rfl⟩ := failClosed_eq_ok h
        exact .failedClosed stripeSubscriptionId stripeCustomerId priceId periodStartedAt
          periodEndsAt row' modified db₁ hId hRow' hItem (.inr ⟨text, hText, hStatus⟩) hModified
          hSave

/-- **Synchronisation.** A successful call has one of the outcomes of `Synced`. -/
theorem sync_eq_ok {result : Option Subscription}
    (h : db.sync settings loaded snapshot event now = .ok (db', result)) :
    Synced db settings loaded snapshot event now db' result := by
  simp only [sync, bind_eq_ok, required_eq_ok] at h
  obtain ⟨stripeSubscriptionId, hId, customer?, -, stripeCustomerId, -, metadata, hMetadata, h⟩ := h
  split at h
  · simp only [pure, Except.pure, Except.ok.injEq, Prod.mk.injEq] at h
    obtain ⟨rfl, rfl⟩ := h
    -- The event is not about a plan of this program.
    exact .ignored
  · simp only [bind_eq_ok] at h
    obtain ⟨⟨priceId, periodStartedAt, periodEndsAt⟩, hItem, -, -, h⟩ := h
    exact syncPrice_eq_ok hId hMetadata hItem h

-- ---------------------------------------------------------------------------
-- Webhook deliveries
-- ---------------------------------------------------------------------------

/-- A checkout event writes checkouts only. -/
theorem completeCheckout_frame {isExpired : Bool} {result : StripeWebhookResult}
    (h : db.completeCheckout settings snapshot isExpired now = .ok (db', result)) :
    db' = { db with checkouts := db'.checkouts } := by
  simp only [completeCheckout, bind_eq_ok] at h
  obtain ⟨metadata, -, h⟩ := h
  split at h
  · simp only [pure, Except.pure, Except.ok.injEq, Prod.mk.injEq] at h
    rw [← h.1]
  · simp only [bind_eq_ok, required_eq_ok] at h
    obtain ⟨-, -, checkoutId, -, scope, -, subscriptionId, -, checkout, -, -, -, sessionId, -, -, -,
      h⟩ := h
    split at h
    · simp only [bind_eq_ok, required_eq_ok, pure, Except.pure, Except.ok.injEq,
        Prod.mk.injEq] at h
      -- An expired session closes the row.
      obtain ⟨checkouts, -, rfl, -⟩ := h
      rfl
    · simp only [bind_eq_ok, required_eq_ok, pure, Except.pure, Except.ok.injEq,
        Prod.mk.injEq] at h
      -- A completed one writes the ids of Stripe to it.
      obtain ⟨-, -, -, -, -, -, -, -, checkouts, -, rfl, -⟩ := h
      rfl

/-- Completing the checkout of a subscription changes checkouts only. -/
theorem completeCheckoutOf_frame {s : Subscription} {metadata : Metadata}
    {stripeCustomerId stripeSubscriptionId : Str}
    (h : db.completeCheckoutOf settings s metadata stripeCustomerId stripeSubscriptionId now =
      .ok db') : db' = { db with checkouts := db'.checkouts } := by
  unfold completeCheckoutOf at h
  split at h
  · simp only [pure, Except.pure, Except.ok.injEq] at h
    rw [← h]
  · simp only [bind_eq_ok, required_eq_ok, pure, Except.pure, Except.ok.injEq] at h
    obtain ⟨-, -, -, -, -, -, checkouts, -, rfl⟩ := h
    rfl

/-- Overwriting an invoice changes invoices only. -/
theorem overwriteInvoice_frame {row values : BillingInvoice} {result : StripeWebhookResult}
    (h : db.overwriteInvoice row values = .ok (db', result)) :
    db' = { db with invoices := db'.invoices } := by
  simp only [overwriteInvoice, bind_eq_ok, required_eq_ok, pure, Except.pure, Except.ok.injEq,
    Prod.mk.injEq] at h
  obtain ⟨-, -, invoices, -, rfl, -⟩ := h
  rfl

/-- An upsert writes invoices only. -/
theorem upsertInvoice_frame {local? : Option BillingInvoice} {invoice : Dict} {s : Subscription}
    {eventId : Str} {eventCreatedAt : Datetime} {invoiceId : Uuid} {result : StripeWebhookResult}
    (h : db.upsertInvoice settings local? invoice s eventId eventCreatedAt invoiceId =
      .ok (db', result)) : db' = { db with invoices := db'.invoices } := by
  simp only [upsertInvoice, bind_eq_ok] at h
  obtain ⟨stripeInvoiceId, -, h⟩ := h
  split at h
  · simp only [pure, Except.pure, Except.ok.injEq, Prod.mk.injEq] at h
    rw [← h.1]
  · simp only [bind_eq_ok] at h
    obtain ⟨-, -, customerId, -, -, -, text, -, status, -, h⟩ := h
    split at h
    · simp only [pure, Except.pure, Except.ok.injEq, Prod.mk.injEq] at h
      rw [← h.1]
    · simp only [bind_eq_ok] at h
      obtain ⟨currency, -, -, -, values, -, h⟩ := h
      split at h
      · exact overwriteInvoice_frame h
      · split at h
        · simp only [bind_eq_ok, required_eq_ok, pure, Except.pure, Except.ok.injEq,
            Prod.mk.injEq] at h
          obtain ⟨invoices, -, rfl, -⟩ := h
          rfl
        · split at h
          · simp only [pure, Except.pure, Except.ok.injEq, Prod.mk.injEq] at h
            rw [← h.1]
          · exact overwriteInvoice_frame h

/-- What a handled event does: it synchronises the snapshot it brought, or it leaves the
subscriptions alone; outside them it may write checkouts or invoices. -/
inductive Handled (db : BillingDatabase) (settings : BillingSettings) (reads : WebhookReads)
    (event : StripeEvent) (now : Datetime) : BillingDatabase → Prop
  | untouched (checkouts : Table BillingCheckoutSession) (invoices : Table BillingInvoice) :
      Handled db settings reads event now { db with checkouts, invoices }
  | synced (loaded result : Option Subscription) (snapshot : Dict) (db₁ : BillingDatabase)
      (invoices : Table BillingInvoice)
      (hSnapshot : event.remoteSnapshot reads.retrieved = some snapshot)
      (hLoaded : loaded = none ∨ loaded = reads.existing)
      (hSynced : Synced db settings loaded snapshot event.stamp now db₁ result) :
      Handled db settings reads event now { db₁ with invoices }

/-- An invoice event that is handled does one synchronisation at most, of the retrieved snapshot. -/
theorem processInvoice_eq_ok {reads : WebhookReads} {event : StripeEvent} {invoiceId : Uuid}
    {result : StripeWebhookResult}
    (hType : event.remoteSnapshot reads.retrieved = reads.retrieved.toOption)
    (h : db.processInvoice settings reads event invoiceId now = .ok (db', result)) :
    Handled db settings reads event now db' := by
  simp only [processInvoice, bind_eq_ok] at h
  obtain ⟨subscriptionId?, -, h⟩ := h
  split at h
  · simp only [pure, Except.pure, Except.ok.injEq, Prod.mk.injEq] at h
    rw [← h.1]
    exact .untouched db.checkouts db.invoices
  · simp only [bind_eq_ok] at h
    obtain ⟨snapshot, hSnapshot, ⟨db₁, s?⟩, hSync, h⟩ := h
    -- the rest of the handler writes invoices
    have hFrame : db' = { db₁ with invoices := db'.invoices } := by
      cases s? with
      | none =>
        simp only [pure, Except.pure, Except.ok.injEq, Prod.mk.injEq] at h
        rw [← h.1]
      | some s => exact upsertInvoice_frame h
    rw [hFrame]
    unfold invoiceSubscription at hSync
    split at hSync
    · simp only [Except.ok.injEq, Prod.mk.injEq] at hSync
      obtain ⟨rfl, rfl⟩ := hSync
      exact .untouched db.checkouts db'.invoices
    · next hEmpty =>
      refine .synced reads.existing s? snapshot db₁ db'.invoices ?_ (.inr rfl) (sync_eq_ok hSync)
      rw [hType]
      unfold invoiceSnapshot at hSnapshot
      cases hRetrieved : reads.retrieved with
      | ok answer =>
        simp only [hRetrieved, Except.ok.injEq] at hSnapshot
        rw [hSnapshot]
        rfl
      | error e =>
        simp only [hRetrieved] at hSnapshot
        split at hSnapshot
        · cases hSnapshot
        · obtain rfl := Except.ok.inj hSnapshot
          simp at hEmpty

/-- **One event.** Every event that is handled leaves checkouts and invoices aside and does one
synchronisation at most, of the snapshot the event stands for. -/
theorem handleEvent_eq_ok {reads : WebhookReads} {event : StripeEvent} {invoiceId : Uuid}
    {result : StripeWebhookResult}
    (h : db.handleEvent settings reads event invoiceId now = .ok (db', result)) :
    Handled db settings reads event now db' := by
  unfold handleEvent at h
  split at h
  · next hSubscription =>
    split at h
    · next hDeleted =>
      simp only [bind_eq_ok, pure, Except.pure, Except.ok.injEq, Prod.mk.injEq] at h
      obtain ⟨_, rfl, ⟨db₁, s?⟩, hSync, rfl, -⟩ := h
      -- A deletion carries the last state of the subscription itself.
      refine .synced none s? event.stripeObject db₁ db₁.invoices ?_ (.inl rfl) (sync_eq_ok hSync)
      unfold StripeEvent.remoteSnapshot
      rw [if_pos hSubscription, if_pos hDeleted]
    · next hDeleted =>
      simp only [bind_eq_ok, pure, Except.pure, Except.ok.injEq, Prod.mk.injEq] at h
      obtain ⟨-, -, snapshot, hRetrieved, ⟨db₁, s?⟩, hSync, rfl, -⟩ := h
      -- For any other event the current state is retrieved.
      refine .synced none s? snapshot db₁ db₁.invoices ?_ (.inl rfl) (sync_eq_ok hSync)
      unfold StripeEvent.remoteSnapshot
      rw [if_pos hSubscription, if_neg hDeleted, hRetrieved]
      rfl
  · next hSubscription =>
    split at h
    · rw [completeCheckout_frame h]
      exact .untouched db'.checkouts db.invoices
    · split at h
      · rw [completeCheckout_frame h]
        exact .untouched db'.checkouts db.invoices
      · split at h
        · next hInvoice =>
          refine processInvoice_eq_ok ?_ h
          unfold StripeEvent.remoteSnapshot
          rw [if_neg hSubscription, if_pos hInvoice]
        · simp only [pure, Except.pure, Except.ok.injEq, Prod.mk.injEq] at h
          rw [← h.1]
          -- Every other type is acknowledged and ignored.
          exact .untouched db.checkouts db.invoices

/-- A successful delivery was claimed before, or it is claimed and handled. -/
theorem process_cases {reads : WebhookReads} {delivery : Dict} {draws : WebhookDraws}
    {result : WebhookProcessResult}
    (h : db.process settings reads delivery draws now = .ok (db', result)) :
    (db' = db ∧ result.duplicate = true) ∨
      ∃ event claimed events db₁ outcome, parseStripeEvent settings delivery = .ok event ∧
        BillingDatabase.handleEvent { db with webhookEvents := claimed } settings reads event
          draws.invoiceId now = .ok (db₁, outcome) ∧
        db' = { db₁ with webhookEvents := events } ∧ result.duplicate = false := by
  simp only [process, bind_eq_ok] at h
  obtain ⟨event, hEvent, claim, hClaim, h⟩ := h
  -- The event id is claimed first; a second delivery finds it taken.
  cases claim with
  | none =>
    simp only [pure, Except.pure, Except.ok.injEq, Prod.mk.injEq] at h
    obtain ⟨rfl, rfl⟩ := h
    exact .inl ⟨rfl, rfl⟩
  | some claimed =>
    obtain ⟨db₀, row⟩ := claimed
    simp only [bind_eq_ok, required_eq_ok] at h
    obtain ⟨⟨db₁, r⟩, hHandle, events, -, hDone⟩ := h
    simp only [pure, Except.pure, Except.ok.injEq, Prod.mk.injEq] at hDone
    unfold claimEvent at hClaim
    split at hClaim
    · simp at hClaim
    · simp only [bind_eq_ok, required_eq_ok, pure, Except.pure, Except.ok.injEq,
        Option.some.injEq, Prod.mk.injEq] at hClaim
      obtain ⟨claimed, -, rfl, -⟩ := hClaim
      exact .inr ⟨event, claimed, events, db₁, r, hEvent, hHandle, hDone.1.symm,
        congrArg WebhookProcessResult.duplicate hDone.2.symm⟩

/-- **Delivery.** What a successful delivery does is what the handling of its event does. -/
theorem process_eq_ok {reads : WebhookReads} {delivery : Dict} {draws : WebhookDraws}
    {result : WebhookProcessResult}
    (h : db.process settings reads delivery draws now = .ok (db', result)) :
    (db' = db ∧ result.duplicate = true) ∨
      ∃ event claimed events db₁, parseStripeEvent settings delivery = .ok event ∧
        Handled { db with webhookEvents := claimed } settings reads event now db₁ ∧
        db' = { db₁ with webhookEvents := events } := by
  rcases process_cases h with hDuplicate | ⟨event, claimed, events, db₁, r, hEvent, hHandle, hDb, -⟩
  · exact .inl hDuplicate
  · exact .inr ⟨event, claimed, events, db₁, hEvent, handleEvent_eq_ok hHandle, hDb⟩

end BillingDatabase

end SpikeBackend
