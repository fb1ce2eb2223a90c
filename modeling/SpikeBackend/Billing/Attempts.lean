import SpikeBackend.Billing.Synchronisation

/-!
# What a checkout creation does

* `prepareAttempt_eq_ok` — it finds the attempt of the key or inserts one;
* `prepareCheckout_eq_ok` — what goes out to Stripe is built for a pending attempt;
* `recordCheckout_eq_ok`, `expireRejectedAttempt_eq_ok` — what is written afterwards.
-/

namespace SpikeBackend

open Relational Text Outcome Session

/-- Expiring the stale attempts of a scope leaves the others. -/
theorem mem_expireStale {t : Table BillingCheckoutSession} {scope : Uuid} {now : Datetime}
    {c : BillingCheckoutSession} :
    c ∈ expireStale t scope now ↔
      ∃ x ∈ t, (if x.isStale scope now then x.markExpired else x) = c := by
  unfold expireStale
  exact Table.mem_map

namespace BillingDatabase

variable {db db' : BillingDatabase} {settings : BillingSettings} {scope : Uuid} {plan : Plan}
  {digest : Str} {now : Datetime} {draws : CheckoutDraws}

/-- What is found by digest is a checkout of the scope. -/
theorem checkoutByDigest_eq_some {c : BillingCheckoutSession}
    (h : db.checkoutByDigest scope digest = some c) :
    c ∈ db.checkouts ∧ c.businessId = scope := by
  have hp := Table.prop_of_find? h
  rw [Bool.and_eq_true, beq_iff_eq, beq_iff_eq] at hp
  exact ⟨Table.mem_of_find? h, hp.1⟩

/-- The subscriptions after an attempt for one of them: it was there, or it is a new
incomplete one. -/
def Subscribed (db : BillingDatabase) (scope : Uuid) (subscriptions : Table Subscription)
    (subscription : Subscription) : Prop :=
  subscription.businessId = scope ∧
    ((subscriptions = db.subscriptions ∧ subscription ∈ db.subscriptions) ∨
      (db.subscriptions.insert? subscription = some subscriptions ∧
        subscription.status = .incomplete))

/-- What a successful preparation found or inserted. -/
inductive Prepares (db : BillingDatabase) (settings : BillingSettings) (scope : Uuid)
    (plan : Plan) (digest : Str) (now : Datetime) (draws : CheckoutDraws) :
    BillingDatabase → PreparedAttempt → Prop
  | found (attempt : PreparedAttempt)
      (hCheckout : attempt.checkout ∈ expireStale db.checkouts scope now)
      (hScope : attempt.checkout.businessId = scope)
      (hSubscription : db.Subscribed scope db.subscriptions attempt.subscription) :
      Prepares db settings scope plan digest now draws (db.expireStaleAttempts scope now) attempt
  | inserted (attempt : PreparedAttempt) (subscriptions : Table Subscription)
      (checkouts : Table BillingCheckoutSession)
      (hSubscription : db.Subscribed scope subscriptions attempt.subscription)
      (hCheckout : attempt.checkout =
        newAttempt settings scope plan digest attempt.subscription.id now draws)
      (hInsert : (expireStale db.checkouts scope now).insert? attempt.checkout =
        some checkouts) :
      Prepares db settings scope plan digest now draws { db with subscriptions, checkouts } attempt
  | duplicate (attempt : PreparedAttempt) (hCheckout : attempt.checkout ∈ db.checkouts)
      (hScope : attempt.checkout.businessId = scope)
      (hSubscription : db.Subscribed scope db.subscriptions attempt.subscription) :
      Prepares db settings scope plan digest now draws db attempt

/-- A prepared attempt belongs to the scope. -/
theorem Prepares.businessId_eq {attempt : PreparedAttempt}
    (h : db.Prepares settings scope plan digest now draws db' attempt) :
    attempt.checkout.businessId = scope := by
  cases h with
  | found _ _ hScope _ => exact hScope
  | inserted _ _ _ _ hCheckout _ =>
    rw [hCheckout]
    rfl
  | duplicate _ _ hScope _ => exact hScope

/-- What a preparation does to the subscriptions. -/
theorem Prepares.subscribed {attempt : PreparedAttempt}
    (h : db.Prepares settings scope plan digest now draws db' attempt) :
    db.Subscribed scope db'.subscriptions attempt.subscription ∧
      db' = { db with subscriptions := db'.subscriptions, checkouts := db'.checkouts } := by
  cases h with
  | found _ _ _ hSubscription => exact ⟨hSubscription, rfl⟩
  | inserted _ _ _ hSubscription _ _ => exact ⟨hSubscription, rfl⟩
  | duplicate _ _ _ hSubscription => exact ⟨hSubscription, rfl⟩

/-- A subscription found in the scope is subscribed. -/
theorem subscribed_of_scoped {subscriptionId : Uuid} {s : Subscription}
    (h : db.scopedSubscription scope subscriptionId = some s) :
    db.Subscribed scope db.subscriptions s := by
  obtain ⟨hMem, hScope, -⟩ := scopedSubscription_eq_some h
  exact ⟨hScope, .inl ⟨rfl, hMem⟩⟩

/-- An attempt takes the current subscription of the scope, or inserts one. -/
theorem subscriptionForAttempt_eq_ok {subscription : Subscription}
    (h : db.subscriptionForAttempt scope draws = .ok (db', subscription)) :
    db.Subscribed scope db'.subscriptions subscription ∧
      db' = { db with subscriptions := db'.subscriptions } := by
  unfold subscriptionForAttempt at h
  split at h
  · next current hCurrent =>
    simp only [bind_eq_ok, pure, Except.pure, Except.ok.injEq, Prod.mk.injEq] at h
    obtain ⟨-, -, -, -, rfl, rfl⟩ := h
    obtain ⟨hMem, hScope, -⟩ := SubscriptionTables.getCurrent_eq_some hCurrent
    exact ⟨⟨hScope, .inl ⟨rfl, hMem⟩⟩, rfl⟩
  · simp only [bind_eq_ok, required_eq_ok, pure, Except.pure, Except.ok.injEq,
      Prod.mk.injEq] at h
    obtain ⟨subscriptions, hInsert, rfl, rfl⟩ := h
    -- None is current: a new one that is incomplete.
    exact ⟨⟨rfl, .inr ⟨hInsert, rfl⟩⟩, rfl⟩

/-- **Preparation.** It finds the attempt of the key, or inserts one next to none that is
unfinished. -/
theorem prepareAttempt_eq_ok {attempt : PreparedAttempt}
    (h : db.prepareAttempt settings scope plan digest now draws = .ok (db', attempt)) :
    db.Prepares settings scope plan digest now draws db' attempt := by
  unfold prepareAttempt at h
  dsimp only at h
  split at h
  · next existing hExisting =>
    simp only [bind_eq_ok, required_eq_ok, pure, Except.pure, Except.ok.injEq,
      Prod.mk.injEq] at h
    obtain ⟨-, -, subscription, hSubscription, rfl, rfl⟩ := h
    obtain ⟨hMem, hScope⟩ := checkoutByDigest_eq_some hExisting
    -- The key was used before.
    exact .found _ hMem hScope (subscribed_of_scoped hSubscription)
  · split at h
    · simp [throw, throwThe, MonadExceptOf.throw] at h
    · simp only [bind_eq_ok] at h
      obtain ⟨⟨db₂, subscription⟩, hSubscription, h⟩ := h
      obtain ⟨hSubscribed, hDb₂⟩ := subscriptionForAttempt_eq_ok hSubscription
      have hCheckouts : db₂.checkouts = expireStale db.checkouts scope now := by
        rw [hDb₂]
        rfl
      dsimp only at h
      split at h
      · next checkouts hInsert =>
        simp only [pure, Except.pure, Except.ok.injEq, Prod.mk.injEq] at h
        obtain ⟨rfl, rfl⟩ := h
        rw [hCheckouts] at hInsert
        rw [hDb₂]
        exact .inserted _ db₂.subscriptions checkouts hSubscribed rfl hInsert
      · -- The insert clashed, so another request has inserted the attempt since.
        unfold duplicateAttempt at h
        split at h
        · next duplicate hDuplicate =>
          simp only [bind_eq_ok, required_eq_ok, pure, Except.pure, Except.ok.injEq,
            Prod.mk.injEq] at h
          obtain ⟨s, hScoped, rfl, rfl⟩ := h
          obtain ⟨hMem, hScope⟩ := checkoutByDigest_eq_some
            (Option.filter_eq_some_iff.mp hDuplicate).1
          exact .duplicate _ hMem hScope (subscribed_of_scoped hScoped)
        · split at h
          · simp [throw, throwThe, MonadExceptOf.throw] at h
          · simp [throw, throwThe, MonadExceptOf.throw] at h

/-- A creation ends for an attempt that was finished before, or sends the parameters of
a pending one. -/
theorem prepareCheckout_eq_ok {loadedUser : Option User} {userId : Uuid}
    {planCode : SeededPlanCode} {key : Str} {price : Except BillingError Dict}
    {prepared : PreparedCheckout}
    (h : db.prepareCheckout settings scope loadedUser userId planCode key price now draws =
      .ok (db', prepared)) :
    ∃ plan digest attempt, db.Prepares settings scope plan digest now draws db' attempt ∧
      (prepared = .finished ⟨attempt.checkout, planCode⟩ ∨
        attempt.checkout.status = .pending ∧ ∃ priceId email,
          prepared = .send attempt (buildCheckoutParams settings attempt.checkout
            attempt.subscription planCode priceId email attempt.customerId now)) := by
  simp only [prepareCheckout, bind_eq_ok] at h
  obtain ⟨-, -, plan, -, priceId, -, remotePrice, -, -, -, user, -, encoded, -, ⟨db₁, attempt⟩,
    hPrepare, h⟩ := h
  refine ⟨plan, settings.sha256 encoded, attempt, ?_⟩
  dsimp only at h
  split at h
  · simp only [pure, Except.pure, Except.ok.injEq, Prod.mk.injEq] at h
    obtain ⟨rfl, rfl⟩ := h
    -- An attempt that is not pending is returned without a call.
    exact ⟨prepareAttempt_eq_ok hPrepare, .inl rfl⟩
  · next hPending =>
    simp only [pure, Except.pure, Except.ok.injEq, Prod.mk.injEq] at h
    obtain ⟨rfl, rfl⟩ := h
    exact ⟨prepareAttempt_eq_ok hPrepare,
      .inr ⟨not_not.mp hPending, priceId, user.email, rfl⟩⟩

/-- The instance of the request with what Stripe returned for it. -/
def recorded (checkout : BillingCheckoutSession) (sessionId url : Str) (expiresAt : Datetime) :
    BillingCheckoutSession :=
  { checkout with
    stripeCheckoutSessionId := some sessionId
    checkoutUrl := some url
    expiresAt := some expiresAt
    status := if checkout.status = .pending then .open else checkout.status }

/-- Recording an answer updates the row of the attempt and nothing else. -/
theorem recordCheckout_eq_ok {checkout : BillingCheckoutSession} {planCode : SeededPlanCode}
    {remote : Dict} {result : CheckoutResult}
    (h : db.recordCheckout scope checkout planCode remote = .ok (db', result)) :
    ∃ sessionId url expiresAt row, requiredString remote (str "id") = .ok sessionId ∧
      stripeDatetime (remote.get (str "expires_at")) = .ok (some expiresAt) ∧
      row ∈ db.checkouts ∧ row.businessId = scope ∧ row.id = checkout.id ∧
      db.checkouts.update? (checkout.flush (recorded checkout sessionId url expiresAt) row) =
        some db'.checkouts ∧
      db' = { db with checkouts := db'.checkouts } := by
  simp only [recordCheckout, bind_eq_ok, required_eq_ok] at h
  obtain ⟨sessionId, hId, url, -, expires?, hExpires, expiresAt, rfl, h⟩ := h
  split at h
  · simp [throw, throwThe, MonadExceptOf.throw, bind, Except.bind] at h
  · simp [throw, throwThe, MonadExceptOf.throw, bind, Except.bind] at h
  · simp only [bind_eq_ok, required_eq_ok, pure, Except.pure, Except.ok.injEq, Prod.mk.injEq] at h
    -- The row is read again under its lock, the instance is the one that was sent.
    obtain ⟨-, -, row, hRow, checkouts, hUpdate, rfl, -⟩ := h
    obtain ⟨hMem, hScope, hRowId⟩ := scopedCheckout_eq_some hRow
    exact ⟨sessionId, url, expiresAt, row, hId, hExpires, hMem, hScope, hRowId, hUpdate, rfl⟩

/-- A rejected attempt is expired if it is still pending. -/
theorem expireRejectedAttempt_eq_ok {checkout : BillingCheckoutSession} {u : Unit}
    (h : db.expireRejectedAttempt scope checkout now = .ok (db', u)) :
    db' = db ∨ ∃ row ∈ db.checkouts, row.businessId = scope ∧ row.id = checkout.id ∧
      db.checkouts.update?
        (checkout.flush { checkout.markExpired with expiresAt := some now } row) =
          some db'.checkouts ∧
      checkout.status = .pending ∧ db' = { db with checkouts := db'.checkouts } := by
  simp only [expireRejectedAttempt, bind_eq_ok, required_eq_ok] at h
  obtain ⟨row, hRow, h⟩ := h
  split at h
  · next hPending =>
    simp only [bind_eq_ok, required_eq_ok, pure, Except.pure, Except.ok.injEq,
      Prod.mk.injEq] at h
    obtain ⟨checkouts, hUpdate, rfl, -⟩ := h
    obtain ⟨hMem, hScope, hRowId⟩ := scopedCheckout_eq_some hRow
    exact .inr ⟨row, hMem, hScope, hRowId, hUpdate, hPending.1, rfl⟩
  · simp only [pure, Except.pure, Except.ok.injEq, Prod.mk.injEq] at h
    -- It is pending no more.
    exact .inl h.1.symm

end BillingDatabase

end SpikeBackend
