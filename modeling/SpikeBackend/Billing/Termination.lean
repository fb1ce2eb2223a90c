import SpikeBackend.Billing.Synchronisation

/-!
# Terminated subscriptions

Stripe ends a subscription with the status `canceled` or `incomplete_expired`, and neither
is a current one. `sync` stores the status of a snapshot whose price is configured, but
`_fail_closed` stores `incomplete` for every other snapshot, the terminated ones included,
and `incomplete` is current: the business keeps a subscription that no checkout may
replace.

* `terminated_not_current_iff` — when a terminated subscription stops being current;
* `terminated_stays_current` — a subscription canceled at a price that is not configured.
-/

namespace SpikeBackend

open Relational Text Outcome Session

/-- The statuses in which Stripe has ended a subscription. -/
def SubscriptionStatus.isTerminated (status : SubscriptionStatus) : Prop :=
  status = .canceled ∨ status = .incompleteExpired

theorem SubscriptionStatus.isTerminated.not_current {status : SubscriptionStatus}
    (h : status.isTerminated) : status.isCurrent = false := by
  rcases h with rfl | rfl <;> rfl

theorem SubscriptionStatus.ofValue?_value (status : SubscriptionStatus) :
    SubscriptionStatus.ofValue? status.value = some status := by
  cases status <;> decide

/-- When the row stops being current: the price is configured and the instance of the
session has another status than Stripe; or the instance has the status that is stored, so
that nothing is written, and the row is not current already. -/
def Subscription.Ends (settings : BillingSettings) (priceId : Str) (remote : SubscriptionStatus)
    (copy row : Subscription) : Prop :=
  let isConfigured := configuredPlanCodeForPrice settings priceId ≠ none
  (isConfigured ∧ copy.status ≠ remote) ∨
    (row.status.isCurrent = false ∧
      ((isConfigured ∧ copy.status = remote) ∨ (¬isConfigured ∧ copy.status = .incomplete)))

namespace Subscription

variable {settings : BillingSettings} {priceId : Str} {remote : SubscriptionStatus}
  {copy modified row : Subscription}

/-- A session that works on the committed row ends it when the price is configured. -/
theorem ends_self_iff (hRemote : remote.isTerminated) :
    row.Ends settings priceId remote row ↔ configuredPlanCodeForPrice settings priceId ≠ none := by
  constructor
  · rintro (⟨hPrice, -⟩ | ⟨hRow, ⟨hPrice, -⟩ | ⟨-, hIncomplete⟩⟩)
    · exact hPrice
    · exact hPrice
    · rw [hIncomplete] at hRow
      cases hRow
  · intro hPrice
    -- A row that is terminated already stays so.
    by_cases hSame : row.status = remote
    · refine .inr ⟨?_, .inl ⟨hPrice, hSame⟩⟩
      rw [hSame]
      exact hRemote.not_current
    · exact .inl ⟨hPrice, hSame⟩

variable (copy modified row) in
/-- The status that a flush leaves. -/
theorem flush_status_cases :
    (copy.status = modified.status ∧ (copy.flush modified row).status = row.status) ∨
      (copy.status ≠ modified.status ∧ (copy.flush modified row).status = modified.status) := by
  show _ ∨ (_ ∧ column copy.status modified.status row.status = modified.status)
  by_cases hSame : copy.status = modified.status
  · refine .inl ⟨hSame, ?_⟩
    show column copy.status modified.status row.status = row.status
    rw [hSame]
    exact column_same _ _
  · exact .inr ⟨hSame, column_of_ne fun h => hSame h.symm⟩

variable (copy row) in
/-- A flush of the snapshot's status. -/
theorem flush_ends_iff_configured (hRemote : remote.isTerminated)
    (hPrice : configuredPlanCodeForPrice settings priceId ≠ none)
    (hStatus : modified.status = remote) :
    (copy.flush modified row).status.isCurrent = false ↔ copy.Ends settings priceId remote row := by
  rcases flush_status_cases copy modified row with
    ⟨hSame, hFlush⟩ | ⟨hOther, hFlush⟩
  · rw [hFlush]
    -- The status is the remote one; it is written when it differs from the copy's.
    rw [hStatus] at hSame
    constructor
    · intro hRow
      exact .inr ⟨hRow, .inl ⟨hPrice, hSame⟩⟩
    · rintro (⟨-, hNe⟩ | ⟨hRow, -⟩)
      · exact absurd hSame hNe
      · exact hRow
  · rw [hFlush, hStatus]
    rw [hStatus] at hOther
    constructor
    · intro _
      exact .inl ⟨hPrice, hOther⟩
    · intro _
      exact hRemote.not_current

variable (remote copy row) in
/-- A flush of `incomplete`. -/
theorem flush_ends_iff_unknown (hPrice : configuredPlanCodeForPrice settings priceId = none)
    (hStatus : modified.status = .incomplete) :
    (copy.flush modified row).status.isCurrent = false ↔ copy.Ends settings priceId remote row := by
  rcases flush_status_cases copy modified row with
    ⟨hSame, hFlush⟩ | ⟨hOther, hFlush⟩
  · rw [hFlush]
    rw [hStatus] at hSame
    constructor
    · intro hRow
      exact .inr ⟨hRow, .inr ⟨not_not.mpr hPrice, hSame⟩⟩
    · rintro (⟨hConfigured, -⟩ | ⟨hRow, -⟩)
      · exact absurd hPrice hConfigured
      · exact hRow
  · rw [hFlush, hStatus]
    -- Written as incomplete, which is a current status.
    rw [hStatus] at hOther
    constructor
    · intro h
      cases h
    · rintro (⟨hConfigured, -⟩ | ⟨-, ⟨hConfigured, -⟩ | ⟨-, hSame⟩⟩)
      · exact absurd hPrice hConfigured
      · exact absurd hPrice hConfigured
      · exact absurd hSame hOther

end Subscription

namespace BillingDatabase

variable {db db' db₁ db₂ : BillingDatabase} {settings : BillingSettings} {snapshot : Dict}
  {now : Datetime}

/-- The row that a flush leaves is in the table. -/
theorem mem_of_saveSubscription {copy modified row : Subscription} (hRow : row ∈ db.subscriptions)
    (hId : copy.id = row.id) (h : db.saveSubscription copy modified = .ok db₁) :
    copy.flush modified row ∈ db₁.subscriptions := by
  obtain ⟨row', hRow', hId', hUpdate, -⟩ := saveSubscription_eq_ok h
  have hSame : row' = row := Table.eq_of_key_eq hRow' hRow (hId'.trans hId)
  rw [hSame] at hUpdate
  exact Table.mem_update?_self hUpdate hRow rfl

/-- A plan is found for configured prices only. -/
theorem planForPrice_configured {priceId : Str} {plan : Plan} {planCode : SeededPlanCode}
    (h : db.planForPrice settings priceId = .ok (plan, planCode)) :
    configuredPlanCodeForPrice settings priceId ≠ none := by
  simp only [planForPrice, bind_eq_ok, required_eq_ok] at h
  obtain ⟨code, hCode, -⟩ := h
  rw [hCode]
  exact Option.some_ne_none code

/-- A subscription that is no longer current does not stand in the way of a checkout. -/
theorem getCurrent_ne_iff {row : Subscription} (hRow : row ∈ db.subscriptions) :
    db.getCurrent row.businessId ≠ some row ↔ row.status.isCurrent = false := by
  constructor
  · intro hNe
    cases hCurrent : row.status.isCurrent with
    | false => rfl
    | true => exact absurd (SubscriptionTables.getCurrent_of_mem hRow rfl hCurrent) hNe
  · intro hNot hSome
    obtain ⟨-, -, hCurrent⟩ := SubscriptionTables.getCurrent_eq_some hSome
    rw [hNot] at hCurrent
    cases hCurrent

/-- **Terminated subscriptions.** A synchronisation with a terminated snapshot leaves the
local row not current, and so out of the way of the next checkout, exactly when the price
is configured, but for a stale instance that hides the change from the flush. -/
theorem terminated_not_current_iff (db db' : BillingDatabase) (settings : BillingSettings)
    (loaded : Option Subscription) (snapshot : Dict) (event : EventStamp) (now : Datetime)
    (modified : Subscription) (remote : SubscriptionStatus) (hRemote : remote.isTerminated)
    (hStatus : requiredString snapshot (str "status") = .ok remote.value)
    (hSync : db.sync settings loaded snapshot event now = .ok (db', some modified)) :
    ∃ row row' stripeSubscriptionId priceId periodStartedAt periodEndsAt,
      LocalRow db settings snapshot stripeSubscriptionId row ∧
      subscriptionItemDetails snapshot = .ok (priceId, periodStartedAt, periodEndsAt) ∧
      row' ∈ db'.subscriptions ∧ row'.id = row.id ∧
      (row'.status.isCurrent = false ↔
        (instanceOf loaded row).Ends settings priceId remote row) ∧
      (db'.getCurrent row'.businessId ≠ some row' ↔
        (instanceOf loaded row).Ends settings priceId remote row) ∧
      (instanceOf loaded row = row →
        ((instanceOf loaded row).Ends settings priceId remote row ↔
          configuredPlanCodeForPrice settings priceId ≠ none)) := by
  have hSelf : ∀ (row : Subscription) (priceId : Str), instanceOf loaded row = row →
      ((instanceOf loaded row).Ends settings priceId remote row ↔
        configuredPlanCodeForPrice settings priceId ≠ none) := by
    intro row priceId hCopy
    rw [hCopy]
    exact Subscription.ends_self_iff hRemote
  cases sync_eq_ok hSync with
  | failedClosed sid _ priceId started ends row _ db₁ _ hRow hItem hWhy hModified hSave =>
    have hMem := (subscriptionByStripeId_eq_some hRow).1
    -- the status is one that the application knows, so it is the price that is unknown
    have hPrice : configuredPlanCodeForPrice settings priceId = none := by
      rcases hWhy with hPrice | ⟨text, hText, hUnknown⟩
      · exact hPrice
      · rw [hStatus] at hText
        rw [← Except.ok.inj hText, SubscriptionStatus.ofValue?_value] at hUnknown
        cases hUnknown
    have hSaved := mem_of_saveSubscription hMem (instanceOf_id loaded row) hSave
    have hEnds := Subscription.flush_ends_iff_unknown remote (instanceOf loaded row) row hPrice
      (Subscription.failedClosed_eq_ok hModified).2.1
    exact ⟨row, _, sid, priceId, started, ends, .existing hRow, hItem, hSaved, rfl, hEnds,
      (getCurrent_ne_iff hSaved).trans hEnds, hSelf row priceId⟩
  | synchronized sid _ priceId text started ends _ row _ plan _ status db₁ db₂ _ _ hRow hItem hPlan
      hText hKnown hModified hSave hComplete =>
    rw [hStatus] at hText
    rw [← Except.ok.inj hText, SubscriptionStatus.ofValue?_value] at hKnown
    obtain rfl := Option.some.inj hKnown
    have hSaved := mem_of_saveSubscription hRow.mem (instanceOf_id loaded row) hSave
    rw [← show db₂.subscriptions = db₁.subscriptions from by
      rw [completeCheckoutOf_frame hComplete]] at hSaved
    have hEnds := Subscription.flush_ends_iff_configured (instanceOf loaded row) row hRemote
      (planForPrice_configured hPlan)
      (Subscription.synchronized_eq_ok hModified).2.1
    have hTrialing : remote ≠ .trialing := by
      rcases hRemote with rfl | rfl <;> decide
    rw [if_neg hTrialing]
    exact ⟨row, _, sid, priceId, started, ends, hRow, hItem, hSaved, rfl, hEnds,
      (getCurrent_ne_iff hSaved).trans hEnds, hSelf row priceId⟩

end BillingDatabase

-- ---------------------------------------------------------------------------
-- A subscription canceled at a retired price
-- ---------------------------------------------------------------------------

namespace TerminationSample

def settings : BillingSettings := .development

/-- A paid subscription of business 1. -/
def paid : Subscription :=
  { id := 1, businessId := 1, createdAt := 0, planId := some 1, status := .active,
    currentPeriodStartedAt := some 0, currentPeriodEndsAt := some (seconds 2592000),
    stripeCustomerId := some (str "cus_1"), stripeSubscriptionId := some (str "sub_1") }

def premium : Plan := { id := 1, code := str "premium", monthlyPriceCents := some 2900 }

theorem premium_checks : Schema.checks premium = true := by decide

def database : BillingDatabase :=
  { subscriptions := .single paid (by decide)
    plans := .single premium premium_checks }

/-- What Stripe has for the subscription after its end. -/
def canceled (priceId : Str) : Dict :=
  [(str "id", .str (str "sub_1")), (str "customer", .str (str "cus_1")),
    (str "status", .str (str "canceled")), (str "canceled_at", .int 86400),
    (str "ended_at", .int 86400),
    (str "items", .obj [(str "data", .arr [.obj [
      (str "price", .obj [(str "id", .str priceId)]),
      (str "current_period_start", .int 0), (str "current_period_end", .int 2592000)]])])]

/-- The synchronisation with what Stripe has. -/
def synced (priceId : Str) : Except BillingError (BillingDatabase × Option Subscription) :=
  database.sync settings none (canceled priceId) {} (seconds 86401)

end TerminationSample

namespace BillingDatabase

open TerminationSample

/-- At a configured price the subscription is gone. -/
theorem terminated_not_current_iff_sample :
    ∃ db' row', (synced (str "price_premium")).toOption.map (·.1) = some db' ∧
      row' ∈ db'.subscriptions ∧ row'.id = 1 ∧ row'.status.isCurrent = false := by
  have hSome : (synced (str "price_premium")).toOption.any (fun r => r.2.isSome) = true := by
    decide +kernel
  obtain ⟨⟨db', result⟩, hOk, hResult⟩ := (Option.any_eq_true _ _).mp hSome
  obtain ⟨modified, rfl⟩ := Option.isSome_iff_exists.mp hResult
  have hSync : synced (str "price_premium") = .ok (db', some modified) := by
    cases h : synced (str "price_premium") with
    | error e => rw [h] at hOk; cases hOk
    | ok r =>
      rw [h] at hOk
      rw [← Option.some.inj hOk]
  obtain ⟨row, row', sid, priceId, started, ends, hRow, hItem, hMem, hId, hEnds, -, hSelf⟩ :=
    terminated_not_current_iff database db' settings none (canceled (str "price_premium")) {}
      (seconds 86401) modified .canceled (.inl rfl) rfl hSync
  -- The one row of the sample.
  have hPaid : row = paid := by
    have hRow := hRow.mem
    exact List.mem_singleton.mp hRow
  have hPrice : priceId = str "price_premium" := by
    have hFirst : (subscriptionItemDetails (canceled (str "price_premium"))).toOption.map (·.1) =
        some (str "price_premium") := by decide +kernel
    rw [hItem] at hFirst
    exact Option.some.inj hFirst
  refine ⟨db', row', by rw [hOk]; rfl, hMem, ?_, ?_⟩
  · rw [hId, hPaid]
    rfl
  · rw [hEnds, hSelf rfl, hPrice]
    decide

/-- **A subscription that never ends.** It is canceled at a price that is not configured,
and no checkout of the business can start any more. -/
theorem terminated_stays_current :
    requiredString (canceled (str "price_retired")) (str "status") =
        .ok SubscriptionStatus.canceled.value ∧
      ∃ db' row', (synced (str "price_retired")).toOption.map (·.1) = some db' ∧
        row' ∈ db'.subscriptions ∧ row'.id = 1 ∧ row'.status.isCurrent = true ∧
        ∀ draws, (db'.subscriptionForAttempt 1 draws).toOption.isNone = true := by
  refine ⟨rfl, ?_⟩
  have hSome : (synced (str "price_retired")).toOption.any (fun r =>
      (r.1.getCurrent 1).any fun s => s.id == 1 && s.stripeSubscriptionId.isSome) = true := by
    decide +kernel
  obtain ⟨⟨db', result⟩, hOk, hCurrent⟩ := (Option.any_eq_true _ _).mp hSome
  obtain ⟨row', hRow, hFields⟩ := (Option.any_eq_true _ _).mp hCurrent
  rw [Bool.and_eq_true, beq_iff_eq] at hFields
  obtain ⟨hMem, -, hIsCurrent⟩ := SubscriptionTables.getCurrent_eq_some hRow
  refine ⟨db', row', by rw [hOk]; rfl, hMem, hFields.1, hIsCurrent, fun draws => ?_⟩
  -- The row counts as sold, so it blocks the next checkout.
  have hSold : row'.stripeSubscriptionId ≠ none := Option.isSome_iff_ne_none.mp hFields.2
  unfold subscriptionForAttempt
  rw [show db'.getCurrent 1 = some row' from hRow]
  simp only [ensure, if_neg hSold]
  rfl

end BillingDatabase

end SpikeBackend
