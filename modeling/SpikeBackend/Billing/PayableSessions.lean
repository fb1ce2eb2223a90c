import SpikeBackend.Billing.OutboundKeys

/-!
# Payable sessions

A business has at most one attempt that is pending or open, and Stripe has at most one
session for the key of an attempt; so a business has one payable session as long as every
payable session belongs to an attempt that is still pending or open. The local expiry of an
attempt does not see to that: it is fixed by the first call, and a retry asks Stripe for a
session that expires later.

* `run_tracked` — the invariant, on runs that expire no attempt before its session;
* `one_payable_session` — at most one payable session of each business on such a run;
* `two_payable_sessions` — a retry whose session outlives its attempt.
-/

namespace SpikeBackend

open Relational Text Outcome Session Machine

namespace CheckoutState

variable {settings : BillingSettings} {s : CheckoutState}

/-- Stripe has a payable session for the key of an attempt. -/
def hasPayable (settings : BillingSettings) (s : CheckoutState) (now : Datetime)
    (checkout : BillingCheckoutSession) : Bool :=
  s.sessions.any fun x =>
    x.key == BillingDatabase.outboundKey settings checkout && x.isPayable now

/-- A step ends no attempt whose session can still be paid, and Stripe creates a session
only for an attempt that is pending or open. -/
def EndsNoPayable (settings : BillingSettings) (s : CheckoutState) (timed : TimedCheckoutAction) :
    Prop :=
  let now := max s.now timed.now
  match timed.action with
  | .prepare scope .. =>
    ∀ c ∈ s.db.checkouts, c.isStale scope now = true → s.hasPayable settings now c = false
  | .receive i .. =>
    ∀ call ∈ s.sent[i]?, s.sessionOf settings call.attempt.checkout = none →
      ∀ row ∈ s.rowOf call.attempt.checkout, row.status.isUnfinished = true
  | .change db =>
    ∀ c ∈ s.db.checkouts, c.status.isUnfinished = true → s.hasPayable settings now c = true →
      ∀ c' ∈ db.checkouts, c'.id = c.id → c'.status.isUnfinished = true
  | .answer _ | .reject _ | .pay _ => True

instance decidableEndsNoPayable (settings : BillingSettings) (s : CheckoutState) :
    ∀ timed, Decidable (EndsNoPayable settings s timed)
  | ⟨now, .prepare scope ..⟩ =>
    inferInstanceAs (Decidable (∀ c ∈ s.db.checkouts, c.isStale scope (max s.now now) = true →
      s.hasPayable settings (max s.now now) c = false))
  | ⟨_, .receive i ..⟩ =>
    inferInstanceAs (Decidable (∀ call ∈ s.sent[i]?,
      s.sessionOf settings call.attempt.checkout = none →
        ∀ row ∈ s.rowOf call.attempt.checkout, row.status.isUnfinished = true))
  | ⟨now, .change db⟩ =>
    inferInstanceAs (Decidable (∀ c ∈ s.db.checkouts, c.status.isUnfinished = true →
      s.hasPayable settings (max s.now now) c = true →
        ∀ c' ∈ db.checkouts, c'.id = c.id → c'.status.isUnfinished = true))
  | ⟨_, .answer _⟩ | ⟨_, .reject _⟩ | ⟨_, .pay _⟩ => inferInstanceAs (Decidable True)

/-- Of each business at most one session is unexpired and unpaid. -/
def AtMostOnePayable (s : CheckoutState) : Prop :=
  ∀ businessId, (s.sessions.filter fun x =>
    x.businessId == businessId && x.isPayable s.now).length ≤ 1

/-- The attempt that a session belongs to. -/
def Owns (settings : BillingSettings) (c : BillingCheckoutSession) (x : StripeSession) : Prop :=
  c.businessId = x.businessId ∧ x.key = BillingDatabase.outboundKey settings c ∧
    c.status.isUnfinished = true

/-- Every payable session belongs to an attempt that is pending or open. -/
structure Tracked (settings : BillingSettings) (s : CheckoutState) : Prop where
  booked : Booked settings s
  keys : s.sessions.Pairwise fun x y => x.key ≠ y.key
  owned : ∀ x ∈ s.sessions, x.isPayable s.now = true → ∃ c ∈ s.db.checkouts, Owns settings c x

/-- A payable session of an attempt is found. -/
theorem hasPayable_of_mem {now : Datetime} {c : BillingCheckoutSession} {x : StripeSession}
    (hMem : x ∈ s.sessions) (hKey : x.key = BillingDatabase.outboundKey settings c)
    (hPayable : x.isPayable now = true) : s.hasPayable settings now c = true := by
  refine List.any_eq_true.mpr ⟨x, hMem, ?_⟩
  rw [Bool.and_eq_true, beq_iff_eq]
  exact ⟨hKey, hPayable⟩

theorem isPayable_of_le {now now' : Datetime} {x : StripeSession} (hLe : now ≤ now')
    (h : x.isPayable now' = true) : x.isPayable now = true := by
  simp only [StripeSession.isPayable, Bool.and_eq_true, decide_eq_true_eq] at h ⊢
  exact ⟨h.1, lt_of_le_of_lt hLe h.2⟩

/-- One unfinished attempt, one payable session. -/
theorem Tracked.atMostOnePayable (h : Tracked settings s) : s.AtMostOnePayable := by
  intro businessId
  by_contra hMany
  rw [Nat.not_le] at hMany
  match hFilter : s.sessions.filter fun x =>
    x.businessId == businessId && x.isPayable s.now with
  | [] => simp [hFilter] at hMany
  | [_] => simp [hFilter] at hMany
  | x :: y :: rest =>
    have hMem : ∀ z ∈ x :: y :: rest,
        z ∈ s.sessions ∧ z.businessId = businessId ∧ z.isPayable s.now = true := by
      intro z hz
      rw [← hFilter, List.mem_filter, Bool.and_eq_true, beq_iff_eq] at hz
      exact hz
    obtain ⟨hx, hxBusiness, hxPayable⟩ := hMem x List.mem_cons_self
    obtain ⟨hy, hyBusiness, hyPayable⟩ := hMem y (List.mem_cons_of_mem _ List.mem_cons_self)
    obtain ⟨c, hc, hcBusiness, hcKey, hcUnfinished⟩ := h.owned x hx hxPayable
    obtain ⟨c', hc', hcBusiness', hcKey', hcUnfinished'⟩ := h.owned y hy hyPayable
    -- two unfinished attempts of the business clash, so there is one
    have hSame : c = c' := by
      refine Table.eq_of_clash hc hc' ?_
      simp [Schema.clash, hcBusiness, hcBusiness', hxBusiness, hyBusiness, hcUnfinished,
        hcUnfinished']
    have hDistinct : (x :: y :: rest).Pairwise fun x y => x.key ≠ y.key := by
      rw [← hFilter]
      exact h.keys.filter _
    refine (List.pairwise_cons.mp hDistinct).1 y List.mem_cons_self ?_
    rw [hcKey, hcKey', hSame]

-- ---------------------------------------------------------------------------
-- What the steps do to the attempts
-- ---------------------------------------------------------------------------

/-- A step that keeps the payable sessions of `s` and their attempts unfinished. -/
theorem Tracked.of_kept {s' : CheckoutState} (h : Tracked settings s)
    (hBooked : Booked settings s') (hNow : s.now ≤ s'.now) (hSessions : s'.sessions = s.sessions)
    (hKept : ∀ x ∈ s.sessions, x.isPayable s'.now = true → ∀ c ∈ s.db.checkouts,
      Owns settings c x → ∃ c' ∈ s'.db.checkouts, Owns settings c' x) : Tracked settings s' where
  booked := hBooked
  keys := by
    rw [hSessions]
    exact h.keys
  owned := by
    intro x hx hPayable
    rw [hSessions] at hx
    obtain ⟨c, hc, hOwns⟩ := h.owned x hx (isPayable_of_le hNow hPayable)
    exact hKept x hx hPayable c hc hOwns

/-- An unfinished attempt that an update left unfinished. -/
theorem owns_update? {db db' : BillingDatabase} {row row' c : BillingCheckoutSession}
    {x : StripeSession} (hRow : row ∈ db.checkouts) (hSame : row.SameAttempt row')
    (hStatus : row.status.isUnfinished = true → row'.status.isUnfinished = true)
    (hUpdate : db.checkouts.update? row' = some db'.checkouts) (hc : c ∈ db.checkouts)
    (hOwns : Owns settings c x) : ∃ c' ∈ db'.checkouts, Owns settings c' x := by
  obtain ⟨hBusiness, hKey, hUnfinished⟩ := hOwns
  -- The updated row keeps the id, hence the key, of its attempt.
  by_cases hId : c.id = row.id
  · have hEq : c = row := Table.eq_of_key_eq hc hRow hId
    rw [hEq] at hBusiness hKey hUnfinished
    refine ⟨row', Table.mem_update?_self hUpdate hRow hSame.1.symm, ?_, ?_, hStatus hUnfinished⟩
    · rw [hSame.2.1, hBusiness]
    · rw [hKey]
      unfold BillingDatabase.outboundKey
      rw [hSame.1]
  · refine ⟨c, (Table.mem_update?_of_ne hUpdate ?_).mpr hc, hBusiness, hKey, hUnfinished⟩
    show c.id ≠ row'.id
    rw [hSame.1]
    exact hId

/-- An attempt with a payable session, after a preparation that expires none. -/
theorem owns_prepares {db db' : BillingDatabase} {scope : Uuid} {plan : Plan} {digest : Str}
    {now : Datetime} {draws : CheckoutDraws} {attempt : PreparedAttempt}
    {c : BillingCheckoutSession} {x : StripeSession}
    (h : db.Prepares settings scope plan digest now draws db' attempt)
    (hFresh : c.isStale scope now = false) (hc : c ∈ db.checkouts) (hOwns : Owns settings c x) :
    ∃ c' ∈ db'.checkouts, Owns settings c' x := by
  -- An attempt that is not stale survives the expiry.
  have hKept : c ∈ expireStale db.checkouts scope now := by
    refine mem_expireStale.mpr ⟨c, hc, ?_⟩
    rw [hFresh]
    rfl
  cases h with
  | found => exact ⟨c, hKept, hOwns⟩
  | inserted _ _ _ _ _ hInsert => exact ⟨c, (Table.mem_insert? hInsert).mpr (.inr hKept), hOwns⟩
  | duplicate => exact ⟨c, hc, hOwns⟩

/-- Recording a session leaves its attempt unfinished. -/
theorem owns_record {db db' : BillingDatabase} {scope : Uuid} {checkout c : BillingCheckoutSession}
    {planCode : SeededPlanCode} {remote : Dict} {result : CheckoutResult} {x : StripeSession}
    (hPending : checkout.status = .pending)
    (h : db.recordCheckout scope checkout planCode remote = .ok (db', result))
    (hc : c ∈ db.checkouts) (hOwns : Owns settings c x) :
    ∃ c' ∈ db'.checkouts, Owns settings c' x := by
  obtain ⟨sessionId, url, expiresAt, row, -, -, hRow, -, -, hUpdate, -⟩ :=
    BillingDatabase.recordCheckout_eq_ok h
  refine owns_update? hRow (BillingCheckoutSession.sameAttempt_flush _ _ row) (fun _ => ?_) hUpdate
    hc hOwns
  -- the instance was pending, so the flush writes `open`
  show (column checkout.status (BillingDatabase.recorded checkout sessionId url expiresAt).status
    row.status).isUnfinished = true
  simp only [BillingDatabase.recorded, hPending]
  rfl

/-- An attempt without a session may be expired. -/
theorem owns_expireRejected {db db' : BillingDatabase} {scope : Uuid}
    {checkout c : BillingCheckoutSession} {now : Datetime} {u : Unit} {x : StripeSession}
    (h : db.expireRejectedAttempt scope checkout now = .ok (db', u))
    (hOther : x.key ≠ BillingDatabase.outboundKey settings checkout)
    (hc : c ∈ db.checkouts) (hOwns : Owns settings c x) :
    ∃ c' ∈ db'.checkouts, Owns settings c' x := by
  rcases BillingDatabase.expireRejectedAttempt_eq_ok h with
    rfl | ⟨row, hRow, -, hRowId, hUpdate, -, -⟩
  · exact ⟨c, hc, hOwns⟩
  · -- Another key is another attempt.
    have hId : c.id ≠ row.id := by
      intro hSame
      refine hOther ?_
      rw [hOwns.2.1]
      unfold BillingDatabase.outboundKey
      rw [hSame, hRowId]
    exact ⟨c, (Table.mem_update?_of_ne hUpdate hId).mpr hc, hOwns⟩

-- ---------------------------------------------------------------------------
-- Runs
-- ---------------------------------------------------------------------------

/-- No session has the key of an attempt that has none. -/
theorem sessionOf_eq_none {c : BillingCheckoutSession} (h : s.sessionOf settings c = none) :
    ∀ x ∈ s.sessions, x.key ≠ BillingDatabase.outboundKey settings c := by
  intro x hx hKey
  have hNot := List.find?_eq_none.mp h x hx
  simp [hKey] at hNot

/-- A preparation keeps the sessions tracked when it expires no payable attempt. -/
theorem prepare_tracked {scope userId : Uuid} {loadedUser : Option User}
    {planCode : SeededPlanCode} {idempotencyKey : Str} {price : Except BillingError Dict}
    {draws : CheckoutDraws} (h : Tracked settings s)
    (hCond : ∀ c ∈ s.db.checkouts, c.isStale scope s.now = true →
      s.hasPayable settings s.now c = false) :
    Tracked settings
      (s.prepare settings scope loadedUser userId planCode idempotencyKey price draws s.now) := by
  have hBooked := prepare_booked scope userId loadedUser planCode
    idempotencyKey price draws s.now h.booked
  -- The condition: an attempt with a payable session is not stale.
  have hFresh : ∀ x ∈ s.sessions, x.isPayable s.now = true → ∀ c ∈ s.db.checkouts,
      Owns settings c x → c.isStale scope s.now = false := by
    intro x hx hPayable c hc hOwns
    by_contra hStale
    have hNone := hCond c hc (Bool.not_eq_false _ ▸ hStale)
    rw [hasPayable_of_mem hx hOwns.2.1 hPayable] at hNone
    cases hNone
  unfold prepare at hBooked ⊢
  split at hBooked
  · next db attempt params user hPrepared hUser =>
    obtain ⟨plan, digest, priceId, user', hPrepares, -⟩ :=
      BillingDatabase.prepareCheckout_sends hPrepared
    exact h.of_kept hBooked le_rfl rfl fun x hx hPayable c hc hOwns =>
      owns_prepares hPrepares (hFresh x hx hPayable c hc hOwns) hc hOwns
  · next db result hPrepared =>
    obtain ⟨plan, digest, attempt, hPrepares, -⟩ := BillingDatabase.prepareCheckout_eq_ok hPrepared
    exact h.of_kept hBooked le_rfl rfl fun x hx hPayable c hc hOwns =>
      owns_prepares hPrepares (hFresh x hx hPayable c hc hOwns) hc hOwns
  · exact h

/-- A session that Stripe creates is of an attempt that is unfinished. -/
theorem receive_tracked {call : SentRequest} {sessionId url : Str} (h : Tracked settings s)
    (hCall : call ∈ s.sent)
    (hCond : s.sessionOf settings call.attempt.checkout = none →
      ∀ row ∈ s.rowOf call.attempt.checkout, row.status.isUnfinished = true) :
    Tracked settings (s.receive settings call sessionId url) := by
  unfold receive
  -- A repeated call is answered with the session it has created before.
  cases hSession : s.sessionOf settings call.attempt.checkout with
  | some x => exact h
  | none =>
    obtain ⟨-, hScope, -, row, hRow, hSame⟩ := h.booked call hCall
    have hRowOf : s.rowOf call.attempt.checkout = some row :=
      Table.get?_eq_some.mpr ⟨hRow, hSame.1⟩
    refine ⟨h.booked.of_keeps rfl (.refl _), ?_, ?_⟩
    · exact List.pairwise_cons.mpr ⟨fun y hy => (sessionOf_eq_none hSession y hy).symm, h.keys⟩
    · intro x hx hPayable
      rcases List.mem_cons.mp hx with rfl | hOld
      · refine ⟨row, hRow, ?_, ?_, hCond hSession row hRowOf⟩
        · exact hSame.2.1.trans hScope
        · unfold BillingDatabase.outboundKey
          rw [hSame.1]
      · exact h.owned x hOld hPayable

/-- **One step.** It keeps the sessions tracked when it ends no payable attempt. -/
theorem step_tracked (s : CheckoutState) (timed : TimedCheckoutAction) (h : Tracked settings s)
    (hCond : EndsNoPayable settings s timed) : Tracked settings (step settings s timed) := by
  have hBooked := step_booked s timed h.booked
  -- first the clock moves on
  have hNow : Tracked settings { s with now := max s.now timed.now } :=
    h.of_kept h.booked (le_max_left _ _) rfl fun _ _ _ c hc hOwns => ⟨c, hc, hOwns⟩
  unfold EndsNoPayable at hCond
  unfold step at hBooked ⊢
  dsimp only at hCond hBooked ⊢
  cases hAction : timed.action with
  | prepare scope loadedUser userId planCode key price draws =>
    rw [hAction] at hCond
    exact prepare_tracked hNow hCond
  | receive i sessionId url =>
    rw [hAction] at hCond
    dsimp only at hCond ⊢
    cases hCall : s.sent[i]? with
    | none => exact hNow
    | some call =>
      exact receive_tracked hNow (List.mem_of_getElem? hCall) (hCond call hCall)
  | answer i =>
    simp only [hAction] at hBooked ⊢
    cases hCall : s.sent[i]? with
    | none => exact hNow
    | some call =>
      simp only [hCall] at hBooked
      dsimp only
      unfold answer at hBooked ⊢
      split at hBooked
      · exact hNow
      · next x hSession =>
        have hPending := (h.booked call (List.mem_of_getElem? hCall)).2.2.1
        refine hNow.of_kept hBooked le_rfl rfl fun y hy hPayable c hc hOwns => ?_
        cases hRecord : s.db.recordCheckout call.scope call.attempt.checkout call.planCode
            x.object with
        | error e => exact ⟨c, hc, hOwns⟩
        | ok r => exact owns_record hPending hRecord hc hOwns
  | reject i =>
    simp only [hAction] at hBooked ⊢
    cases hCall : s.sent[i]? with
    | none => exact hNow
    | some call =>
      simp only [hCall] at hBooked
      dsimp only
      split at hBooked
      · next hNone =>
        rw [if_pos hNone]
        refine hNow.of_kept hBooked le_rfl rfl fun y hy hPayable c hc hOwns => ?_
        cases hExpire : s.db.expireRejectedAttempt call.scope call.attempt.checkout
            (max s.now timed.now) with
        | error e => exact ⟨c, hc, hOwns⟩
        | ok r =>
          exact owns_expireRejected hExpire
            (sessionOf_eq_none (Option.isNone_iff_eq_none.mp hNone) y hy) hc hOwns
      · next hSome =>
        rw [if_neg hSome]
        exact hNow
  | pay sessionId =>
    simp only [hAction] at hBooked ⊢
    have hKeys : ∀ x : StripeSession,
        (if x.id == sessionId then { x with isPaid := true } else x).key = x.key ∧
          (if x.id == sessionId then { x with isPaid := true } else x).businessId =
            x.businessId := by
      intro x
      split <;> exact ⟨rfl, rfl⟩
    refine ⟨hBooked, ?_, ?_⟩
    · refine List.pairwise_map.mpr (h.keys.imp fun {x y} hne => ?_)
      rw [(hKeys x).1, (hKeys y).1]
      exact hne
    · intro x hx hPayable
      obtain ⟨y, hy, rfl⟩ := List.mem_map.mp hx
      have hStill : y.isPayable (max s.now timed.now) = true := by
        split at hPayable
        · simp [StripeSession.isPayable] at hPayable
        · exact hPayable
      obtain ⟨c, hc, hBusiness, hKey, hUnfinished⟩ := hNow.owned y hy hStill
      refine ⟨c, hc, ?_, ?_, hUnfinished⟩
      · rw [(hKeys y).2, hBusiness]
      · rw [(hKeys y).1, hKey]
  | change db =>
    simp only [hAction] at hBooked hCond ⊢
    split at hBooked
    · next hKeeps =>
      rw [if_pos hKeeps]
      refine hNow.of_kept hBooked le_rfl rfl fun x hx hPayable c hc hOwns => ?_
      obtain ⟨hBusiness, hKey, hUnfinished⟩ := hOwns
      obtain ⟨c', hc', hSame⟩ := hKeeps c hc
      refine ⟨c', hc', ?_, ?_, ?_⟩
      · rw [hSame.2.1, hBusiness]
      · rw [hKey]
        unfold BillingDatabase.outboundKey
        rw [hSame.1]
      · exact hCond c hc hUnfinished (hasPayable_of_mem hx hKey hPayable) c' hc' hSame.1
    · next hLost =>
      rw [if_neg hLost]
      exact hNow

/-- The invariant, on runs whose steps all meet the condition. -/
theorem run_tracked {actions : List TimedCheckoutAction} (h : Tracked settings s)
    (hMeets : Meets (step settings) (EndsNoPayable settings) s actions) :
    Tracked settings (run (step settings) s actions) :=
  run_invariant_of_meets step_tracked h hMeets

/-- Without sessions everything is tracked. -/
theorem init_tracked (db : BillingDatabase) (now : Datetime) : Tracked settings { db, now } where
  booked := init_booked db now
  keys := List.Pairwise.nil
  owned := by
    intro x hx
    cases hx

/-- **One payable session.** On a run that ends no attempt before its session has expired or
is paid, a business never has two sessions that can be paid. -/
theorem one_payable_session (settings : BillingSettings) (db : BillingDatabase) (now : Datetime)
    (actions : List TimedCheckoutAction)
    (hMeets : Meets (step settings) (EndsNoPayable settings) { db, now } actions) :
    (run (step settings) { db, now } actions).AtMostOnePayable :=
  (run_tracked (init_tracked db now) hMeets).atMostOnePayable

end CheckoutState

-- ---------------------------------------------------------------------------
-- A retry whose session outlives its attempt
-- ---------------------------------------------------------------------------

namespace CheckoutSample

/-- The attempt expires after 31 minutes. Its retry after 30 minutes gets a session for 61
minutes, and the answer is lost; a checkout with another key follows after 32 minutes. -/
def lateRetry : List TimedCheckoutAction :=
  [creation 0 "key" 1, creation 1800 "key" 2, ⟨seconds 1800, .receive 1 (str "cs_1") (str "u_1")⟩,
    creation 1920 "other" 3, ⟨seconds 1920, .receive 2 (str "cs_2") (str "u_2")⟩]

/-- A checkout that is paid before the next one. -/
def paidFirst : List TimedCheckoutAction :=
  [creation 0 "key" 1, ⟨seconds 1, .receive 0 (str "cs_1") (str "u_1")⟩, ⟨seconds 2, .answer 0⟩,
    ⟨seconds 600, .pay (str "cs_1")⟩, creation 1920 "other" 3,
    ⟨seconds 1920, .receive 1 (str "cs_2") (str "u_2")⟩]

end CheckoutSample

namespace CheckoutState

open CheckoutSample

/-- A run in which the first session is paid before the second is created. -/
theorem one_payable_session_sample :
    (run (step settings) { db := database } paidFirst).AtMostOnePayable :=
  one_payable_session settings database 0 paidFirst (by decide +kernel)

/-- **Two payable sessions.** The customer can pay for both checkouts of business 1. -/
theorem two_payable_sessions :
    ¬ (run (step settings) { db := database } lateRetry).AtMostOnePayable := by
  intro hOne
  have hTwo : ((run (step settings) { db := database } lateRetry).sessions.filter fun x =>
      x.businessId == 1 && x.isPayable
        (run (step settings) { db := database } lateRetry).now).length = 2 := by
    decide +kernel
  have hLe := hOne 1
  omega

end CheckoutState

end SpikeBackend
