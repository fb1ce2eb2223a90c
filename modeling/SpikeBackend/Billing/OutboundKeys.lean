import SpikeBackend.Billing.Attempts
import SpikeBackend.Model.CheckoutRuns

/-!
# Requests under one outbound key

An attempt keeps its outbound key, and Stripe refuses a key that comes back with other
parameters. The parameters of a retry are built anew, though: from the clock, from what is
left of the trial, from the customer of the business and from the address of its owner.

* `run_booked` — each call was built for an attempt that is still there;
* `same_key_same_request_iff` — two calls under one key are the same request exactly when
  those four, and the plan, are the same for both;
* `retry_changes_request` — a retry after a second.
-/

namespace SpikeBackend

open Relational Text Outcome Session Machine

-- ---------------------------------------------------------------------------
-- Attempts keep their identity
-- ---------------------------------------------------------------------------

namespace BillingCheckoutSession

theorem SameAttempt.refl (c : BillingCheckoutSession) : c.SameAttempt c := ⟨rfl, rfl, rfl⟩

theorem SameAttempt.trans {a b c : BillingCheckoutSession} (hab : a.SameAttempt b)
    (hbc : b.SameAttempt c) : a.SameAttempt c :=
  ⟨hbc.1.trans hab.1, hbc.2.1.trans hab.2.1, hbc.2.2.trans hab.2.2⟩

theorem sameAttempt_flush (loaded modified row : BillingCheckoutSession) :
    row.SameAttempt (loaded.flush modified row) := ⟨rfl, rfl, rfl⟩

end BillingCheckoutSession

namespace BillingDatabase

variable {db db' : BillingDatabase} {settings : BillingSettings} {scope : Uuid}

theorem KeepsAttempts.refl (db : BillingDatabase) : db.KeepsAttempts db :=
  fun c hc => ⟨c, hc, .refl c⟩

/-- The rows after one of them was rewritten. -/
theorem keepsAttempts_of_update? {row row' : BillingCheckoutSession} (hRow : row ∈ db.checkouts)
    (hSame : row.SameAttempt row') (h : db.checkouts.update? row' = some db'.checkouts) :
    db.KeepsAttempts db' := by
  intro c hc
  by_cases hKey : c.id = row.id
  · have hEq : c = row := Table.eq_of_key_eq hc hRow hKey
    rw [hEq]
    exact ⟨row', Table.mem_update?_self h hRow hSame.1.symm, hSame⟩
  · refine ⟨c, (Table.mem_update?_of_ne h ?_).mpr hc, .refl c⟩
    show c.id ≠ row'.id
    rw [hSame.1]
    exact hKey

/-- An attempt as the expiry of the stale ones leaves it. -/
theorem exists_mem_expireStale (scope : Uuid) (now : Datetime) {c : BillingCheckoutSession}
    (hc : c ∈ db.checkouts) : ∃ c' ∈ expireStale db.checkouts scope now, c.SameAttempt c' := by
  refine ⟨_, mem_expireStale.mpr ⟨c, hc, rfl⟩, ?_⟩
  split
  · exact ⟨rfl, rfl, rfl⟩
  · exact .refl c

/-- What a preparation does to the attempts. -/
theorem Prepares.keeps {plan : Plan} {digest : Str} {now : Datetime} {draws : CheckoutDraws}
    {attempt : PreparedAttempt}
    (h : db.Prepares settings scope plan digest now draws db' attempt) :
    db.KeepsAttempts db' ∧ attempt.checkout ∈ db'.checkouts := by
  cases h with
  | found _ hCheckout _ _ =>
    exact ⟨fun c hc => exists_mem_expireStale scope now hc, hCheckout⟩
  | inserted _ subscriptions checkouts _ _ hInsert =>
    refine ⟨fun c hc => ?_, (Table.mem_insert? hInsert).mpr (.inl rfl)⟩
    obtain ⟨c', hc', hSame⟩ := exists_mem_expireStale scope now hc
    exact ⟨c', (Table.mem_insert? hInsert).mpr (.inr hc'), hSame⟩
  | duplicate _ hCheckout _ _ => exact ⟨.refl db, hCheckout⟩

/-- Recording the answer keeps every attempt. -/
theorem keepsAttempts_of_record {checkout : BillingCheckoutSession} {planCode : SeededPlanCode}
    {remote : Dict} {result : CheckoutResult}
    (h : db.recordCheckout scope checkout planCode remote = .ok (db', result)) :
    db.KeepsAttempts db' := by
  obtain ⟨_, _, _, row, -, -, hRow, -, -, hUpdate, -⟩ := recordCheckout_eq_ok h
  exact keepsAttempts_of_update? hRow (BillingCheckoutSession.sameAttempt_flush _ _ row) hUpdate

/-- Expiring a rejected attempt keeps every attempt. -/
theorem keepsAttempts_of_expireRejected {checkout : BillingCheckoutSession} {now : Datetime}
    {u : Unit} (h : db.expireRejectedAttempt scope checkout now = .ok (db', u)) :
    db.KeepsAttempts db' := by
  rcases expireRejectedAttempt_eq_ok h with rfl | ⟨row, hRow, -, -, hUpdate, -, -⟩
  · exact .refl db'
  · exact keepsAttempts_of_update? hRow (BillingCheckoutSession.sameAttempt_flush _ _ row) hUpdate

/-- A call that a creation makes: it is for a pending attempt, and what its parameters are
built from. -/
theorem prepareCheckout_sends {loadedUser : Option User} {userId : Uuid}
    {planCode : SeededPlanCode} {key : Str} {price : Except BillingError Dict} {now : Datetime}
    {draws : CheckoutDraws} {attempt : PreparedAttempt} {params : Dict}
    (h : db.prepareCheckout settings scope loadedUser userId planCode key price now draws =
      .ok (db', .send attempt params)) :
    ∃ plan digest priceId user, db.Prepares settings scope plan digest now draws db' attempt ∧
      configuredPriceId settings planCode = some priceId ∧
      db.lockActiveUser loadedUser userId = .ok user ∧ attempt.checkout.status = .pending ∧
      params = buildCheckoutParams settings attempt.checkout attempt.subscription planCode priceId
        user.email attempt.customerId now := by
  simp only [prepareCheckout, bind_eq_ok, required_eq_ok] at h
  obtain ⟨-, -, plan, -, priceId, hPrice, remotePrice, -, -, -, user, hUser, encoded, -,
    ⟨db₁, attempt'⟩, hPrepare, h⟩ := h
  dsimp only at h
  split at h
  · simp [pure, Except.pure] at h
  · next hPending =>
    simp only [pure, Except.pure, Except.ok.injEq, Prod.mk.injEq, PreparedCheckout.send.injEq] at h
    obtain ⟨rfl, rfl, rfl⟩ := h
    exact ⟨plan, settings.sha256 encoded, priceId, user, prepareAttempt_eq_ok hPrepare, hPrice,
      hUser, not_not.mp hPending, rfl⟩

/-- Attempts with one key are one attempt. -/
theorem outboundKey_inj {c c' : BillingCheckoutSession}
    (h : outboundKey settings c = outboundKey settings c') : c.id = c'.id := by
  have hText : settings.uuidStr c.id = settings.uuidStr c'.id := List.append_cancel_left h
  have hParse := settings.parseUuid_uuidStr c.id
  rw [hText, settings.parseUuid_uuidStr] at hParse
  exact (Option.some.inj hParse).symm

end BillingDatabase

-- ---------------------------------------------------------------------------
-- What a request is made of
-- ---------------------------------------------------------------------------

/-- What the parameters of a call are built from, besides the attempt. -/
structure RequestBasis where
  planCode : SeededPlanCode
  trialEnd : Option Int
  expiresAt : Int
  customerId : Option Str
  /-- the address of the owner, which is sent for a business without a customer -/
  customerEmail : Option Str
  deriving DecidableEq

namespace SentRequest

variable (settings : BillingSettings)

def basis (call : SentRequest) : RequestBasis where
  planCode := call.planCode
  trialEnd := remainingTrialEnd call.attempt.subscription call.now
  expiresAt := timestamp (call.now + minutes settings.stripeCheckoutSessionMinutes)
  customerId := call.attempt.customerId
  customerEmail := if call.attempt.customerId = none then some call.customerEmail else none

/-- The outbound key of a call. -/
def key (call : SentRequest) : Str := BillingDatabase.outboundKey settings call.attempt.checkout

/-- The parameters were built for the attempt. -/
def IsBuilt (call : SentRequest) : Prop :=
  ∃ priceId, configuredPriceId settings call.planCode = some priceId ∧
    call.params = buildCheckoutParams settings call.attempt.checkout call.attempt.subscription
      call.planCode priceId call.customerEmail call.attempt.customerId call.now

end SentRequest

theorem SeededPlanCode.value_inj {a b : SeededPlanCode} (h : a.value = b.value) : a = b := by
  cases a <;> cases b <;> first | rfl | exact absurd h (by decide)

/-- The members that move a trial to the subscription that a session starts. -/
def trialMembers (trialEnd : Option Int) : Dict :=
  match trialEnd with
  | some trialEnd =>
    [(str "trial_end", .int trialEnd),
      (str "trial_settings",
        .obj [(str "end_behavior", .obj [(str "missing_payment_method", .str (str "cancel"))])])]
  | none => []

/-- The end of a trial is determined by its members. -/
theorem trialMembers_inj {t t' : Option Int} (h : trialMembers t = trialMembers t') : t = t' := by
  cases t with
  | none =>
    cases t' with
    | none => rfl
    | some n' => cases h
  | some n =>
    cases t' with
    | none => cases h
    | some n' =>
      have hMember := (List.cons_eq_cons.mp h).1
      exact congrArg some (Json.int.inj (Prod.mk.inj hMember).2)

/-- The member that names the customer. -/
def customerMember (customerId : Option Str) (email : Str) : Str × Json :=
  match customerId with
  | some customer => (str "customer", .str customer)
  | none => (str "customer_email", .str email)

/-- The customer is determined by its member, and so is the email where there is none. -/
theorem customerMember_inj {customerId customerId' : Option Str} {email email' : Str}
    (h : customerMember customerId email = customerMember customerId' email') :
    customerId = customerId' ∧ (customerId = none → email = email') := by
  have hKey : str "customer" ≠ str "customer_email" := by decide
  cases customerId <;> cases customerId' <;> simp only [customerMember, Prod.mk.injEq] at h
  · exact ⟨rfl, fun _ => Json.str.inj h.2⟩
  · exact absurd h.1.symm hKey
  · exact absurd h.1 hKey
  · exact ⟨congrArg some (Json.str.inj h.2), fun hNone => by cases hNone⟩

/-- Two calls for one attempt send the same request exactly when they have the same basis. -/
theorem SentRequest.params_eq_iff {settings : BillingSettings} {call call' : SentRequest}
    (hBuilt : call.IsBuilt settings) (hBuilt' : call'.IsBuilt settings)
    (hSame : call.attempt.checkout.SameAttempt call'.attempt.checkout) :
    call.params = call'.params ↔ call.basis settings = call'.basis settings := by
  obtain ⟨priceId, hPrice, hParams⟩ := hBuilt
  obtain ⟨priceId', hPrice', hParams'⟩ := hBuilt'
  obtain ⟨hId, hBusiness, hSubscription⟩ := hSame
  have hMetadata : ∀ planCode, checkoutMetadata settings call'.attempt.checkout planCode =
      checkoutMetadata settings call.attempt.checkout planCode := by
    intro planCode
    unfold checkoutMetadata
    rw [hId, hBusiness, hSubscription]
  rw [hParams, hParams']
  constructor
  · intro h
    simp only [buildCheckoutParams, List.cons.injEq, Prod.mk.injEq, true_and, and_true,
      Json.obj.injEq, Json.int.injEq] at h
    obtain ⟨-, -, hMeta, hData, hExpires, hCustomer⟩ := h
    rw [hMetadata] at hMeta
    -- each member of the parameters gives back one part of the basis
    have hPlan : call.planCode = call'.planCode := by
      simp only [checkoutMetadata, List.cons.injEq, Prod.mk.injEq, Json.str.injEq, true_and,
        and_true] at hMeta
      exact SeededPlanCode.value_inj hMeta
    have hTrial : remainingTrialEnd call.attempt.subscription call.now =
        remainingTrialEnd call'.attempt.subscription call'.now := trialMembers_inj hData.2
    obtain ⟨hCustomerId, hEmail⟩ := customerMember_inj hCustomer
    simp only [basis, RequestBasis.mk.injEq]
    refine ⟨hPlan, hTrial, hExpires, hCustomerId, ?_⟩
    rw [← hCustomerId]
    split
    · next hNone => rw [hEmail hNone]
    · rfl
  · intro h
    simp only [basis, RequestBasis.mk.injEq] at h
    obtain ⟨hPlan, hTrial, hExpires, hCustomerId, hEmail⟩ := h
    rw [← hPlan, hPrice] at hPrice'
    have hEmail' : call.attempt.customerId = none → call.customerEmail = call'.customerEmail := by
      intro hNone
      rw [← hCustomerId, if_pos hNone, if_pos hNone] at hEmail
      exact Option.some.inj hEmail
    unfold buildCheckoutParams
    rw [← hPlan, hMetadata, hTrial, hExpires, hId, ← hCustomerId, Option.some.inj hPrice']
    -- with a customer the email is not sent
    cases hCustomer : call.attempt.customerId with
    | some customer => rfl
    | none => rw [hEmail' hCustomer]

-- ---------------------------------------------------------------------------
-- Runs
-- ---------------------------------------------------------------------------

namespace CheckoutState

variable {settings : BillingSettings} {s : CheckoutState}

/-- Every call was built for an attempt that is still there. -/
def Booked (settings : BillingSettings) (s : CheckoutState) : Prop :=
  ∀ call ∈ s.sent, call.IsBuilt settings ∧ call.attempt.checkout.businessId = call.scope ∧
    call.attempt.checkout.status = .pending ∧
    ∃ row ∈ s.db.checkouts, call.attempt.checkout.SameAttempt row

/-- A step that makes no call. -/
theorem Booked.of_keeps {s' : CheckoutState} (h : Booked settings s) (hSent : s'.sent = s.sent)
    (hKeeps : s.db.KeepsAttempts s'.db) : Booked settings s' := by
  intro call hCall
  rw [hSent] at hCall
  obtain ⟨hBuilt, hScope, hPending, row, hRow, hSame⟩ := h call hCall
  obtain ⟨row', hRow', hSame'⟩ := hKeeps row hRow
  exact ⟨hBuilt, hScope, hPending, row', hRow', hSame.trans hSame'⟩

/-- A preparation books the calls that it makes. -/
theorem prepare_booked (scope userId : Uuid) (loadedUser : Option User)
    (planCode : SeededPlanCode) (idempotencyKey : Str) (price : Except BillingError Dict)
    (draws : CheckoutDraws) (now : Datetime) (h : Booked settings s) :
    Booked settings
      (s.prepare settings scope loadedUser userId planCode idempotencyKey price draws now) := by
  unfold prepare
  split
  · next db attempt params user hPrepared hUser =>
    obtain ⟨plan, digest, priceId, user', hPrepares, hPrice, hUser', hPending, hParams⟩ :=
      BillingDatabase.prepareCheckout_sends hPrepared
    rw [hUser] at hUser'
    obtain rfl := Except.ok.inj hUser'
    have hKeeps := hPrepares.keeps
    intro call hCall
    rcases List.mem_append.mp hCall with hOld | hNew
    · have hMoved : Booked settings { s with db } := h.of_keeps rfl hKeeps.1
      exact hMoved call hOld
    · obtain rfl := List.mem_singleton.mp hNew
      exact ⟨⟨priceId, hPrice, hParams⟩, hPrepares.businessId_eq, hPending, _, hKeeps.2, .refl _⟩
  · next db result hPrepared =>
    obtain ⟨plan, digest, attempt, hPrepares, -⟩ := BillingDatabase.prepareCheckout_eq_ok hPrepared
    exact h.of_keeps rfl hPrepares.keeps.1
  · exact h

/-- One step keeps the book. -/
theorem step_booked (s : CheckoutState) (timed : TimedCheckoutAction) (h : Booked settings s) :
    Booked settings (step settings s timed) := by
  unfold step
  -- the clock is no part of the invariant
  have hNow : Booked settings { s with now := max s.now timed.now } := h
  dsimp only
  cases timed.action with
  | prepare scope loadedUser userId planCode key price draws => exact prepare_booked _ _ _ _ _ _ _ _ hNow
  | receive i sessionId url =>
    dsimp only
    split
    · exact hNow
    · next call hCall =>
      unfold receive
      split <;> exact hNow.of_keeps rfl (.refl _)
  | answer i =>
    dsimp only
    split
    · exact hNow
    · next call hCall =>
      unfold answer
      split
      · exact hNow
      · next x hSession =>
        refine hNow.of_keeps rfl ?_
        cases hRecord : s.db.recordCheckout call.scope call.attempt.checkout call.planCode
            x.object with
        | error e => exact .refl _
        | ok r => exact BillingDatabase.keepsAttempts_of_record hRecord
  | reject i =>
    dsimp only
    split
    · exact hNow
    · next call hCall =>
      split
      swap
      · exact hNow
      refine hNow.of_keeps rfl ?_
      cases hExpire : s.db.expireRejectedAttempt call.scope call.attempt.checkout
          (max s.now timed.now) with
      | error e => exact .refl _
      | ok r => exact BillingDatabase.keepsAttempts_of_expireRejected hExpire
  | pay sessionId => exact hNow.of_keeps rfl (.refl _)
  | change db =>
    dsimp only
    split
    · next hKeeps => exact hNow.of_keeps rfl hKeeps
    · exact hNow

/-- **Calls of a run.** Each was built for an attempt that is still there. -/
theorem run_booked (actions : List TimedCheckoutAction) (h : Booked settings s) :
    Booked settings (run (step settings) s actions) :=
  run_invariant step_booked h actions

theorem init_booked (db : BillingDatabase) (now : Datetime) :
    Booked settings { db, now } := by
  intro call hCall
  cases hCall

/-- **One key, one request.** Two calls of a run under one outbound key carry the same
parameters exactly when the plan, the remaining trial, the second of the expiry and the
customer, or the address of an owner without one, are the same for both. -/
theorem same_key_same_request_iff (settings : BillingSettings) (db : BillingDatabase)
    (now : Datetime) (actions : List TimedCheckoutAction) :
    ∀ call ∈ (run (step settings) { db, now } actions).sent,
      ∀ call' ∈ (run (step settings) { db, now } actions).sent,
        call.key settings = call'.key settings →
          (call.params = call'.params ↔ call.basis settings = call'.basis settings) := by
  intro call hCall call' hCall' hKey
  have hBooked : Booked settings (run (step settings) { db, now } actions) :=
    run_booked actions (init_booked db now)
  obtain ⟨hBuilt, -, -, row, hRow, hSame⟩ := hBooked call hCall
  obtain ⟨hBuilt', -, -, row', hRow', hSame'⟩ := hBooked call' hCall'
  have hId : row.id = row'.id := by
    rw [hSame.1, hSame'.1]
    exact BillingDatabase.outboundKey_inj hKey
  -- both calls are for the row with the identifier in the key
  have hEq : row = row' := Table.eq_of_key_eq hRow hRow' hId
  rw [← hEq] at hSame'
  refine SentRequest.params_eq_iff hBuilt hBuilt' ⟨?_, ?_, ?_⟩
  · exact hSame'.1.symm.trans hSame.1
  · exact hSame'.2.1.symm.trans hSame.2.1
  · exact hSame'.2.2.symm.trans hSame.2.2

end CheckoutState

-- ---------------------------------------------------------------------------
-- A retry after a second
-- ---------------------------------------------------------------------------

namespace CheckoutSample

def settings : BillingSettings := .development

def owner : User :=
  { id := 1, email := str "owner@spike.test", passwordHash := str "hash", isVerified := true }

/-- The price that Stripe has for the premium plan. -/
def price : Dict :=
  [(str "id", .str (str "price_premium")), (str "object", .str (str "price")),
    (str "active", .bool true), (str "type", .str (str "recurring")),
    (str "billing_scheme", .str (str "per_unit")), (str "currency", .str (str "usd")),
    (str "unit_amount", .int 2900),
    (str "recurring", .obj [(str "interval", .str (str "month")), (str "interval_count", .int 1),
      (str "usage_type", .str (str "licensed"))])]

/-- Business 1 of an owner who has not checked out yet. -/
def database : BillingDatabase :=
  { users := .single owner (by decide)
    businesses := .single { id := 1, ownerUserId := 1 } rfl
    plans := .single { id := 1, code := str "premium", monthlyPriceCents := some 2900 }
      (by decide) }

/-- A creation for the premium plan; it would insert the rows with the number `id`. -/
def creation (second : Int) (key : String) (id : Uuid) : TimedCheckoutAction :=
  ⟨seconds second,
    .prepare 1 none 1 .premium (str key) (.ok price) ⟨id, id, seconds second⟩⟩

end CheckoutSample

open CheckoutSample in
/-- A retry within the second repeats the request. -/
theorem CheckoutState.same_key_same_request_iff_sample :
    ∃ call call' rest, (run (step settings) { db := database }
        [creation 0 "key" 1, creation 0 "key" 2]).sent = call :: call' :: rest ∧
      call.params = call'.params := by
  have hSent : ((run (step settings) { db := database }
      [creation 0 "key" 1, creation 0 "key" 2]).sent.map
        fun call => (call.key settings, call.basis settings)) =
      [(str "spike_checkout_" ++ uuidText 1,
          ⟨.premium, none, 1860, none, some (str "owner@spike.test")⟩),
        (str "spike_checkout_" ++ uuidText 1,
          ⟨.premium, none, 1860, none, some (str "owner@spike.test")⟩)] := by
    decide +kernel
  obtain ⟨call, rest, hCalls, hFirst, hRest⟩ := List.map_eq_cons_iff.mp hSent
  obtain ⟨call', rest', rfl, hSecond, -⟩ := List.map_eq_cons_iff.mp hRest
  have hKey := (Prod.mk.inj hFirst).1.trans (Prod.mk.inj hSecond).1.symm
  have hBasis := (Prod.mk.inj hFirst).2.trans (Prod.mk.inj hSecond).2.symm
  have hIff := same_key_same_request_iff settings database 0
    [creation 0 "key" 1, creation 0 "key" 2] call (by rw [hCalls]; exact List.mem_cons_self)
    call' (by rw [hCalls]; exact List.mem_cons_of_mem _ List.mem_cons_self) hKey
  exact ⟨call, call', rest', hCalls, hIff.mpr hBasis⟩

open CheckoutSample in
/-- **A retry that Stripe refuses.** The answer to the first call is lost, and the retry a
second later brings another expiry under the same key. -/
theorem CheckoutState.retry_changes_request :
    ∃ call ∈ (run (step settings) { db := database } [creation 0 "key" 1, creation 1 "key" 2]).sent,
      ∃ call' ∈ (run (step settings) { db := database }
          [creation 0 "key" 1, creation 1 "key" 2]).sent,
        call.key settings = call'.key settings ∧ call.params ≠ call'.params := by
  have hSent : (run (step settings) { db := database }
      [creation 0 "key" 1, creation 1 "key" 2]).sent.map
        (fun call => (call.key settings, expiresAtOf call.params)) =
      [(str "spike_checkout_" ++ uuidText 1, 1860), (str "spike_checkout_" ++ uuidText 1, 1861)] := by
    decide +kernel
  obtain ⟨call, rest, hCalls, hFirst, hRest⟩ := List.map_eq_cons_iff.mp hSent
  obtain ⟨call', rest', rfl, hSecond, -⟩ := List.map_eq_cons_iff.mp hRest
  rw [hCalls]
  refine ⟨call, List.mem_cons_self, call', List.mem_cons_of_mem _ List.mem_cons_self, ?_, ?_⟩
  · exact (Prod.mk.inj hFirst).1.trans (Prod.mk.inj hSecond).1.symm
  · intro hSame
    have hExpires := (Prod.mk.inj hFirst).2
    rw [hSame, (Prod.mk.inj hSecond).2] at hExpires
    exact absurd hExpires (by decide)

end SpikeBackend
