import SpikeBackend.Billing.TrialAllowance

/-!
# Moving a trial to Stripe

The dates of a trial leave for Stripe as whole seconds and come back in the webhooks of
the subscription.

* `trial_allowance_kept` — on every run in which Stripe echoes what it was sent, trial
  ends are whole seconds when they are sent and a trial is not resumed without its
  entitlement, the reservations of a trial share one account and stay within its limit;
* `trial_allowance_reset` — a run on which the end of a trial loses its microseconds and
  the trial gets a second account.
-/

namespace SpikeBackend

open Relational Text Outcome Session Machine

/-- A `datetime` without microseconds. -/
def wholeSecond (instant : Datetime) : Bool := isDatetime instant && instant % 1000000 == 0

/-- The float of its seconds is exact. -/
theorem seconds_timestamp {instant : Datetime} (h : wholeSecond instant = true) :
    seconds (timestamp instant) = instant := by
  simp only [wholeSecond, isDatetime, Bool.and_eq_true, decide_eq_true_eq, beq_iff_eq] at h
  obtain ⟨⟨hLow, hHigh⟩, hWhole⟩ := h
  obtain ⟨n, rfl⟩ : ∃ n : Int, instant = n * 1000000 :=
    ⟨instant / 1000000, (Int.ediv_mul_cancel (Int.dvd_of_emod_eq_zero hWhole)).symm⟩
  -- A datetime ends with year 9999, far below the precision of a float.
  have hSmall : |n| < 2 ^ 53 := by
    rw [abs_lt]
    constructor <;> linarith
  unfold timestamp seconds
  rw [totalSeconds_whole hSmall, Rat.num_intCast, Rat.den_intCast]
  exact congrArg (· * 1000000) (Int.tdiv_one n)

/-- An integer timestamp is a whole second. -/
theorem stripeDatetime_int {n : Int} {instant : Option Datetime}
    (h : stripeDatetime (.int n) = .ok instant) : instant = some (seconds n) := by
  have hRound : roundHalfEven ((n : Rat) * 1000000) = seconds n := by
    have hCast : ((n : Rat) * 1000000) = ((seconds n : Int) : Rat) := by
      simp [seconds]
    rw [hCast, roundHalfEven_intCast]
  simp only [stripeDatetime, fromTimestamp, hRound] at h
  split at h
  · simp only [required, Except.map, Except.ok.injEq] at h
    exact h.symm
  · simp [required, Except.map] at h

namespace TrialState

-- ---------------------------------------------------------------------------
-- What a run is assumed to do, and when the code keeps its promise
-- ---------------------------------------------------------------------------

/-- The local row that a snapshot belongs to. -/
def localSubscription (db : BillingDatabase) (settings : BillingSettings) (snapshot : Dict) :
    Option Subscription :=
  match requiredString snapshot (str "id") with
  | .error _ => none
  | .ok stripeSubscriptionId =>
    match db.subscriptionByStripeId stripeSubscriptionId with
    | some s => some s
    | none =>
      match metadataOf settings snapshot >>= fun metadata =>
          metadataUuid settings metadata stripeMetadataSubscriptionId with
      | .error _ => none
      | .ok subscriptionId => db.subscriptions.get? subscriptionId

/-- The snapshot that a delivery synchronises. -/
def deliveredSnapshot (settings : BillingSettings) (retrieved : Except BillingError Dict)
    (delivery : Dict) : Option Dict :=
  match parseStripeEvent settings delivery with
  | .error _ => none
  | .ok event => event.remoteSnapshot retrieved

/-- A snapshot of the subscription echoes a trial end that a checkout sent for it, and a
start that is not earlier than the local one. -/
def echoes (sent : List (Uuid × Option Int)) (s : Subscription) (snapshot : Dict) : Bool :=
  (match snapshot.get (str "trial_end") with
    | .null => sent.contains (s.id, none)
    | .int n => sent.contains (s.id, some n)
    | _ => false) &&
  (match stripeDatetime (snapshot.get (str "trial_start")) with
    | .ok (some start) => s.trialStartedAt.all (· ≤ start)
    | _ => true)

/-- A snapshot that resumes a trial finds the entitlement of the trial in place. -/
def keepsGrant (db : BillingDatabase) (s : Subscription) (snapshot : Dict) : Bool :=
  !(snapshot.get (str "status")).eqStr (str "trialing") ||
    (snapshot.get (str "trial_end")).isNull ||
    decide (∃ r ∈ db.subscriptionEntitlements,
      r.subscriptionId = s.id ∧ r.key = .aiFullResponses)

/-- What is assumed of Stripe: every snapshot of a local subscription echoes its trial. -/
def echoed (settings : BillingSettings) (s : TrialState) (timed : TimedTrialAction) : Bool :=
  match timed.action with
  | .webhook retrieved delivery _ =>
    (deliveredSnapshot settings retrieved delivery).all fun snapshot =>
      (localSubscription s.db settings snapshot).all fun row => echoes s.sent row snapshot
  | _ => true

/-- When the code keeps a trial in one account: a trial end that is about to be sent is a
whole second, and no snapshot resumes a trial whose entitlement was deleted. -/
def trialKept (settings : BillingSettings) (s : TrialState) (timed : TimedTrialAction) : Bool :=
  match timed.action with
  | .prepareCheckout scope .. =>
    (s.db.getCurrent scope).all fun row =>
      (remainingTrialEnd row timed.now).isNone || row.trialEndsAt.all wholeSecond
  | .webhook retrieved delivery _ =>
    (deliveredSnapshot settings retrieved delivery).all fun snapshot =>
      (localSubscription s.db settings snapshot).all fun row => keepsGrant s.db row snapshot
  | _ => true

-- ---------------------------------------------------------------------------
-- The steps
-- ---------------------------------------------------------------------------

/-- The invariant, of a state of the run. -/
def KeepsTrials (s : TrialState) : Prop :=
  TrialInvariant s.db.toCreditTables s.db.businesses s.sent s.trialEntries

variable {settings : BillingSettings} {s : TrialState} {scope : Uuid} {now : Datetime}

/-- A commit of a credit operation keeps the trials, since it writes no subscription. -/
theorem commitCredits_keeps {α : Type} {outcome : Except AICreditError (CreditTables × α)}
    (hs : s.KeepsTrials)
    (hMove : ∀ db a, outcome = .ok (db, a) → s.db.toCreditTables.Move db ∧
      db.toSubscriptionTables = s.db.toSubscriptionTables ∧ db.adjustments = s.db.adjustments) :
    (s.commitCredits outcome).KeepsTrials := by
  cases outcome with
  | error e => exact hs
  | ok result =>
    obtain ⟨hMoves, hTables, hAdjustments⟩ := hMove result.1 result.2 rfl
    exact hs.move hMoves hTables hAdjustments

/-- A reservation writes accounts and entries only. -/
theorem reservesNew_frame {db db' : CreditTables} {digest : Str} {entryId : Uuid}
    {snapshot : AICreditLedgerSnapshot}
    (h : db.ReservesNew scope digest now entryId db' snapshot) :
    db'.toSubscriptionTables = db.toSubscriptionTables ∧ db'.adjustments = db.adjustments ∧
      snapshot.entryId = entryId := by
  obtain ⟨_, _, _, _, _, _, _, -, -, -, -, -, -, -, -, -, -, -, hRest, hSnapshot⟩ := h
  rw [hRest, hSnapshot]
  exact ⟨rfl, rfl, rfl⟩

/-- A scope is on trial when its current subscription has that status. -/
theorem isTrialing_eq_true {db : BillingDatabase} (h : db.isTrialing scope = true) :
    ∃ current, db.getCurrent scope = some current ∧ current.status = .trialing := by
  unfold BillingDatabase.isTrialing at h
  cases hCurrent : db.getCurrent scope with
  | none => simp [hCurrent] at h
  | some current => exact ⟨current, rfl, by simpa [hCurrent] using h⟩

/-- A reservation keeps the trials. -/
theorem reserve_keeps {key : Str} {accountId entryId : Uuid} (hs : s.KeepsTrials) :
    (s.reserve settings scope key accountId entryId now).KeepsTrials := by
  unfold reserve
  dsimp only
  cases hReserve : s.db.toCreditTables.reserve scope settings.sha256 key now accountId entryId with
  | error e => exact hs
  | ok result =>
    obtain ⟨db', snapshot⟩ := result
    obtain ⟨digest, -, ⟨rfl, hExisting⟩ | ⟨-, hNew⟩⟩ := CreditTables.reserve_eq_ok hReserve
    · -- the entry of the key was there: nothing is booked
      obtain ⟨entry, account, -, -, hSnapshot⟩ := CreditTables.existingSnapshot_eq_some hExisting
      have hReplayed : snapshot.replayed = true := by
        rw [hSnapshot]
        rfl
      dsimp only
      rw [if_neg (by simp [hReplayed])]
      exact hs
    · obtain ⟨hTables, hAdjustments, hId⟩ := reservesNew_frame hNew
      dsimp only
      split
      · next hBooked =>
        have hKept := hs.reserve_trial hNew (isTrialing_eq_true hBooked.2)
        rw [← hId] at hKept
        exact hKept
      · exact hs.move hNew.move hTables hAdjustments

/-- Onboarding keeps the trials: the new subscription starts its own. -/
theorem onboard_keeps {user : User} {draws : OnboardDraws} (hs : s.KeepsTrials) :
    (s.withDb (commit s.db (s.db.onboard user draws now))).KeepsTrials := by
  cases hOnboard : s.db.onboard user draws now with
  | error e => exact hs
  | ok result =>
    obtain ⟨db', subscription⟩ := result
    simp only [BillingDatabase.onboard, bind_eq_ok, required_eq_ok] at hOnboard
    -- The business, its subscription and the two entitlements are written by one transaction.
    obtain ⟨-, -, row, -, -, -, -, -, businesses, hBusiness, roleAssignments, -, subscriptions,
      hInsert, withAi, hAi, entitlements, hDashboard, hDone⟩ := hOnboard
    simp only [pure, Except.pure, Except.ok.injEq, Prod.mk.injEq] at hDone
    obtain ⟨rfl, -⟩ := hDone
    exact hs.onboard hBusiness hInsert hAi hDashboard

/-- A trial end goes out as the second that the trial ends in. -/
theorem remainingTrialEnd_eq_some {subscription : Subscription} {trialEnd : Int}
    (h : remainingTrialEnd subscription now = some trialEnd) :
    subscription.status = .trialing ∧
      ∃ trialEndsAt, subscription.trialEndsAt = some trialEndsAt ∧
        trialEnd = timestamp trialEndsAt := by
  unfold remainingTrialEnd at h
  split at h
  · cases h
  · next hOpen =>
    rw [not_or, not_not, not_not] at hOpen
    -- The end is sent only while it is far enough ahead.
    split at h
    · cases h
    · next trialEndsAt hEnds =>
      split at h
      · cases h
      · exact ⟨hOpen.1, trialEndsAt, hEnds, (Option.some.inj h).symm⟩

/-- The trial end among the parameters of a checkout is the remaining one. -/
theorem trialEndOf_buildCheckoutParams (checkout : BillingCheckoutSession)
    (subscription : Subscription) (planCode : SeededPlanCode) (priceId email : Str)
    (customerId : Option Str) :
    trialEndOf (buildCheckoutParams settings checkout subscription planCode priceId email
      customerId now) = remainingTrialEnd subscription now := by
  unfold buildCheckoutParams
  cases remainingTrialEnd subscription now <;> rfl

/-- Preparing a checkout keeps the trials when the trial end sent has no part of a second. -/
theorem prepareCheckout_keeps {loadedUser : Option User} {userId : Uuid}
    {planCode : SeededPlanCode} {key : Str} {price : Except BillingError Dict}
    {draws : CheckoutDraws} (hs : s.KeepsTrials)
    (hWhole : (s.db.getCurrent scope).all (fun row =>
      (remainingTrialEnd row now).isNone || row.trialEndsAt.all wholeSecond) = true) :
    (s.prepareCheckout settings scope loadedUser userId planCode key price draws now).KeepsTrials := by
  unfold prepareCheckout
  cases hPrepare : s.db.prepareCheckout settings scope loadedUser userId planCode key price now
      draws with
  | error e => exact hs
  | ok result =>
    obtain ⟨db', prepared⟩ := result
    obtain ⟨plan, digest, attempt, hPrepares, hSent⟩ :=
      BillingDatabase.prepareCheckout_eq_ok hPrepare
    obtain ⟨⟨hScope, hSubscription⟩, hFrame⟩ := hPrepares.subscribed
    -- the subscription of the attempt is known, and its trial end survives the journey
    have hKept : TrialInvariant db'.toCreditTables db'.businesses s.sent s.trialEntries := by
      rw [hFrame]
      rcases hSubscription with ⟨hSame, -⟩ | ⟨hInsert, hStatus⟩
      · rw [hSame]
        exact hs
      · exact hs.add_incomplete hInsert hStatus
    have hMem : attempt.subscription ∈ db'.subscriptions := by
      rcases hSubscription with ⟨hSame, hMem⟩ | ⟨hInsert, -⟩
      · rw [hSame]
        exact hMem
      · exact (Table.mem_insert? hInsert).mpr (.inl rfl)
    have hEnd : ∀ t, remainingTrialEnd attempt.subscription now = some t →
        attempt.subscription.trialEndsAt = some (seconds t) := by
      intro t ht
      obtain ⟨hTrialing, trialEndsAt, hEnds, rfl⟩ := remainingTrialEnd_eq_some ht
      have hCurrent : s.db.getCurrent scope = some attempt.subscription := by
        rcases hSubscription with ⟨-, hMem⟩ | ⟨-, hIncomplete⟩
        · exact SubscriptionTables.getCurrent_of_mem hMem hScope (by rw [hTrialing]; rfl)
        · rw [hTrialing] at hIncomplete
          cases hIncomplete
      rw [hCurrent] at hWhole
      simp only [Option.all_some, ht, Option.isNone_some, Bool.false_or, hEnds] at hWhole
      rw [hEnds, seconds_timestamp hWhole]
    rcases hSent with rfl | ⟨-, priceId, email, rfl⟩
    · exact hKept
    · refine hKept.add_sent hMem fun t ht => hEnd t ?_
      rwa [trialEndOf_buildCheckoutParams] at ht

/-- Recording the answer of Stripe keeps the trials. -/
theorem recordCheckout_keeps {checkout : BillingCheckoutSession} {planCode : SeededPlanCode}
    {remote : Dict} (hs : s.KeepsTrials) :
    (s.withDb (commit s.db (s.db.recordCheckout scope checkout planCode remote))).KeepsTrials := by
  cases hRecord : s.db.recordCheckout scope checkout planCode remote with
  | error e => exact hs
  | ok result =>
    obtain ⟨_, _, _, _, -, -, -, -, -, -, hFrame⟩ := BillingDatabase.recordCheckout_eq_ok hRecord
    rw [commit_ok, hFrame]
    exact hs

/-- Expiring a rejected attempt keeps the trials. -/
theorem expireRejectedAttempt_keeps {checkout : BillingCheckoutSession} (hs : s.KeepsTrials) :
    (s.withDb (commit s.db (s.db.expireRejectedAttempt scope checkout now))).KeepsTrials := by
  cases hExpire : s.db.expireRejectedAttempt scope checkout now with
  | error e => exact hs
  | ok result =>
    rcases BillingDatabase.expireRejectedAttempt_eq_ok hExpire with
      hSame | ⟨_, -, -, -, -, -, hFrame⟩
    · rw [commit_ok, hSame]
      exact hs
    · rw [commit_ok, hFrame]
      exact hs

-- ---------------------------------------------------------------------------
-- Webhooks
-- ---------------------------------------------------------------------------

/-- The copy that an invoice handler read is the committed row. -/
theorem instanceOf_invoiceExisting {db : BillingDatabase} {delivery : Dict} {row : Subscription}
    {loaded : Option Subscription} (hRow : row ∈ db.subscriptions)
    (hLoaded : loaded = none ∨ loaded = db.invoiceExisting settings delivery) :
    BillingDatabase.instanceOf loaded row = row := by
  -- What a delivery has loaded before is at most the row of its own subscription.
  rcases hLoaded with rfl | rfl
  · rfl
  · unfold BillingDatabase.invoiceExisting
    split
    · rfl
    · split
      · next stripeSubscriptionId _ =>
        cases hFound : db.subscriptionByStripeId stripeSubscriptionId with
        | none => rfl
        | some copy =>
          refine BillingDatabase.instanceOf_current fun hId => ?_
          exact Table.eq_of_key_eq (BillingDatabase.subscriptionByStripeId_eq_some hFound).1 hRow hId
      · rfl

/-- The row a synchronisation finds is the one the condition on the run looks at. -/
theorem localSubscription_of_localRow {db : BillingDatabase} {snapshot : Dict}
    {stripeSubscriptionId : Str} {row : Subscription}
    (hId : requiredString snapshot (str "id") = .ok stripeSubscriptionId)
    (hRow : db.LocalRow settings snapshot stripeSubscriptionId row) :
    localSubscription db settings snapshot = some row := by
  unfold localSubscription
  rw [hId]
  -- By Stripe id first, then by the metadata, as the synchronisation itself looks.
  cases hRow with
  | existing hRow => simp only [hRow]
  | named metadata scope hNone hMetadata hRowId hRow =>
    have hGet : db.subscriptions.get? row.id = some row :=
      Table.get?_eq_some.mpr ⟨(BillingDatabase.scopedSubscription_eq_some hRow).1, rfl⟩
    simp only [hNone, hMetadata, bind_ok, hRowId, hGet]

/-- Saving from the row itself stores the modified record as it is. -/
theorem saveSubscription_row {db db' : BillingDatabase} {row modified : Subscription}
    (hRow : row ∈ db.subscriptions) (hSame : row.SameRow modified)
    (hSave : db.saveSubscription row modified = .ok db') :
    db.subscriptions.update? modified = some db'.subscriptions ∧
      db' = { db with subscriptions := db'.subscriptions } := by
  obtain ⟨row', hRow', hId, hUpdate, hFrame⟩ := BillingDatabase.saveSubscription_eq_ok hSave
  have hEq : row' = row := Table.eq_of_key_eq hRow' hRow hId
  rw [hEq, Subscription.flush_self hSame] at hUpdate
  exact ⟨hUpdate, hFrame⟩

/-- A status that is read as a known one is its text. -/
theorem eqStr_of_ofValue? {snapshot : Dict} {key text : Str} {status : SubscriptionStatus}
    (hText : requiredString snapshot key = .ok text)
    (hStatus : SubscriptionStatus.ofValue? text = some status) :
    (snapshot.get key).eqStr status.value = true := by
  have hValue : status.value = text := by
    unfold SubscriptionStatus.ofValue? at hStatus
    exact beq_iff_eq.mp (List.find?_some (p := fun s : SubscriptionStatus => s.value == text) hStatus)
  -- A required string is present and not empty.
  unfold requiredString at hText
  split at hText
  · next c cs hGet =>
    rw [hGet, hValue, ← Except.ok.inj hText]
    exact beq_self_eq_true _
  · cases hText

/-- A trial end that is echoed was sent. -/
theorem echoes_sent {sent : List (Uuid × Option Int)} {row : Subscription} {snapshot : Dict}
    (h : echoes sent row snapshot = true) {trialEndsAt : Option Datetime}
    (hEnd : stripeDatetime (snapshot.get (str "trial_end")) = .ok trialEndsAt) :
    ∀ e, trialEndsAt = some e → ∃ trialEnd, e = seconds trialEnd ∧
      (row.id, some trialEnd) ∈ sent := by
  rintro e rfl
  unfold echoes at h
  -- A snapshot that echoes has no trial end or one that was sent for this row.
  obtain ⟨hSent, -⟩ := Bool.and_eq_true_iff.mp h
  split at hSent
  · next hNull =>
    rw [hNull] at hEnd
    cases hEnd
  · next n hInt =>
    rw [hInt] at hEnd
    exact ⟨n, Option.some.inj (stripeDatetime_int hEnd), List.contains_iff_mem.mp hSent⟩
  · cases hSent

/-- A trial whose start is echoed keeps the local start. -/
theorem echoes_start {sent : List (Uuid × Option Int)} {row : Subscription} {snapshot : Dict}
    {start started : Option Datetime} {startsAt : Datetime}
    (hStarted : started = match start with
      | some t => if row.trialStartedAt.all (t < ·) then some t else row.trialStartedAt
      | none => row.trialStartedAt)
    (h : echoes sent row snapshot = true)
    (hStart : stripeDatetime (snapshot.get (str "trial_start")) = .ok start)
    (hStarts : row.trialStartedAt = some startsAt) : started = row.trialStartedAt := by
  rw [hStarted]
  cases start with
  | none => rfl
  | some t =>
    unfold echoes at h
    -- Its start is not before the stored one, which the code then leaves alone.
    obtain ⟨-, hLater⟩ := Bool.and_eq_true_iff.mp h
    rw [hStart, hStarts] at hLater
    have hLe : startsAt ≤ t := by simpa using hLater
    rw [hStarts]
    exact if_neg (by simpa using hLe)

/-- **One synchronisation.** It keeps the trials when the snapshot echoes what was sent and keeps
what was granted. -/
theorem synced_keeps {db' : BillingDatabase} {loaded result : Option Subscription}
    {snapshot : Dict} {event : EventStamp} (hs : s.KeepsTrials)
    (hCopy : ∀ row ∈ s.db.subscriptions, BillingDatabase.instanceOf loaded row = row)
    (hEchoed : ∀ row, localSubscription s.db settings snapshot = some row →
      echoes s.sent row snapshot = true ∧ keepsGrant s.db row snapshot = true)
    (hSynced : s.db.Synced settings loaded snapshot event now db' result) :
    (s.withDb db').KeepsTrials := by
  cases hSynced with
  | ignored => exact hs
  | failedClosed stripeSubscriptionId stripeCustomerId priceId start stop row modified db₁ hId hRow
      hItem hWhy hModified hSave =>
    have hMem := (BillingDatabase.subscriptionByStripeId_eq_some hRow).1
    rw [hCopy row hMem] at hModified hSave ⊢
    obtain ⟨hSame, hStatus, -, hStarts, hEnds, -⟩ := Subscription.failedClosed_eq_ok hModified
    obtain ⟨hUpdate, hFrame⟩ := saveSubscription_row hMem hSame hSave
    rw [hFrame]
    refine hs.rewrite hMem hSame hUpdate (fun r hr => (Table.mem_deleteWhere.mp hr).1)
      (fun r hr hne => ?_) (fun hTrialing => ?_) fun _ => ⟨hStarts, fun e he => ?_⟩
    · exact Table.mem_deleteWhere.mpr ⟨hr, by simp [hne]⟩
    · rw [hStatus] at hTrialing
      cases hTrialing
    · rw [hEnds] at he
      cases he
  | synchronized stripeSubscriptionId stripeCustomerId priceId text start stop metadata row modified
      plan planCode status db₁ db₂ hId hMetadata hRow hItem hPlan hText hStatus hModified hSave
      hComplete =>
    have hMem := hRow.mem
    rw [hCopy row hMem] at hModified hSave
    obtain ⟨hEchoes, hGrant⟩ := hEchoed row (localSubscription_of_localRow hId hRow)
    obtain ⟨hSame, hModifiedStatus, -, hEnd, ⟨trialStart, hTrialStart, hStarts⟩, -, -, -⟩ :=
      Subscription.synchronized_eq_ok hModified
    obtain ⟨hUpdate, hFrame⟩ := saveSubscription_row hMem hSame hSave
    rw [BillingDatabase.completeCheckoutOf_frame hComplete, hFrame]
    -- a trial keeps its start, and ends when Stripe was told that it does
    have hDates : (∃ r ∈ s.db.subscriptionEntitlements, r.subscriptionId = row.id ∧
        r.key = .aiFullResponses) → modified.trialStartedAt = row.trialStartedAt ∧
          ∀ e, modified.trialEndsAt = some e → ∃ trialEnd, e = seconds trialEnd ∧
            (row.id, some trialEnd) ∈ s.sent := by
      rintro ⟨r, hr, hOwn, hKey⟩
      obtain ⟨startsAt, endsAt, hTrial⟩ := hs.trial row hMem r hr hOwn hKey
      exact ⟨echoes_start hStarts hEchoes hTrialStart hTrial.starts,
        echoes_sent hEchoes hEnd⟩
    split
    · next hTrialing =>
      refine hs.rewrite hMem hSame hUpdate (fun r hr => hr) (fun r hr _ => hr) (fun _ hEnds => ?_)
        hDates
      have hTrialingText := eqStr_of_ofValue? hText hStatus
      rw [hTrialing] at hTrialingText
      simp only [keepsGrant, SubscriptionStatus.value] at hGrant hTrialingText
      rw [hTrialingText, Bool.not_true, Bool.false_or, Bool.or_eq_true] at hGrant
      rcases hGrant with hNull | hKept
      · -- without an end there is no trial to keep
        unfold Json.isNull at hNull
        split at hNull
        · next hGet =>
          rw [hGet] at hEnd
          exact absurd (Except.ok.inj hEnd).symm hEnds
        · cases hNull
      · exact of_decide_eq_true hKept
    · next hOther =>
      refine hs.rewrite hMem hSame hUpdate (fun r hr => (Table.mem_deleteWhere.mp hr).1)
        (fun r hr hne => ?_) (fun hTrialing => ?_) hDates
      · exact Table.mem_deleteWhere.mpr ⟨hr, by simp [hSame.1, hne]⟩
      · exact absurd (hModifiedStatus.symm.trans hTrialing) hOther

/-- A webhook delivery keeps the trials under the same condition. -/
theorem webhook_keeps {retrieved : Except BillingError Dict} {delivery : Dict}
    {draws : WebhookDraws} (hs : s.KeepsTrials)
    (hEchoed : (deliveredSnapshot settings retrieved delivery).all (fun snapshot =>
      (localSubscription s.db settings snapshot).all fun row =>
        echoes s.sent row snapshot) = true)
    (hGrant : (deliveredSnapshot settings retrieved delivery).all (fun snapshot =>
      (localSubscription s.db settings snapshot).all fun row =>
        keepsGrant s.db row snapshot) = true) :
    (s.withDb (commit s.db (s.db.process settings
      ⟨s.db.invoiceExisting settings delivery, retrieved⟩ delivery draws now))).KeepsTrials := by
  cases hProcess : s.db.process settings ⟨s.db.invoiceExisting settings delivery, retrieved⟩
      delivery draws now with
  | error e => exact hs
  | ok result =>
    obtain ⟨db', outcome⟩ := result
    -- A delivery is a duplicate, or its handling is one synchronisation at most.
    rcases BillingDatabase.process_eq_ok hProcess with
      ⟨rfl, -⟩ | ⟨event, claimed, events, db₁, hEvent, hHandled, rfl⟩
    · exact hs
    cases hHandled with
    | untouched checkouts invoices => exact hs
    | synced loaded result snapshot db₂ invoices hSnapshot hLoaded hSynced =>
      -- The snapshot that was synchronised is the one the two conditions speak of.
      have hDelivered : deliveredSnapshot settings retrieved delivery = some snapshot := by
        unfold deliveredSnapshot
        rw [hEvent]
        exact hSnapshot
      rw [hDelivered] at hEchoed hGrant
      have hKeeps := synced_keeps (s := s.withDb { s.db with webhookEvents := claimed }) hs
        (fun row hRow => instanceOf_invoiceExisting hRow hLoaded)
        (fun row hRow => by
          have hRow' : localSubscription s.db settings snapshot = some row := hRow
          simp only [Option.all_some, hRow'] at hEchoed hGrant
          exact ⟨hEchoed, hGrant⟩) hSynced
      exact hKeeps

/-- **Step lemma.** -/
theorem step_keeps (s : TrialState) (timed : TimedTrialAction) (hs : s.KeepsTrials)
    (hMeets : (echoed settings s timed && trialKept settings s timed) = true) :
    (s.step settings timed).KeepsTrials := by
  obtain ⟨now, action⟩ := timed
  obtain ⟨hEchoed, hKept⟩ := Bool.and_eq_true_iff.mp hMeets
  -- The condition on the trial end matters to a preparation, the one on echoes to a webhook.
  cases action with
  | onboard user draws => exact onboard_keeps hs
  | reserve scope key accountId entryId => exact reserve_keeps hs
  | consume scope entryId =>
    refine commitCredits_keeps hs fun db snapshot hOk => ⟨CreditTables.consume_move hOk, ?_⟩
    rw [CreditTables.consume_frame hOk]
    exact ⟨rfl, rfl⟩
  | release scope entryId reason =>
    refine commitCredits_keeps hs fun db snapshot hOk => ⟨CreditTables.release_move hOk, ?_⟩
    rw [CreditTables.release_frame hOk]
    exact ⟨rfl, rfl⟩
  | prepareCheckout scope loadedUser userId planCode key price draws =>
    exact prepareCheckout_keeps hs hKept
  | recordCheckout scope checkout planCode remote => exact recordCheckout_keeps hs
  | expireRejectedAttempt scope checkout => exact expireRejectedAttempt_keeps hs
  | webhook retrieved delivery draws => exact webhook_keeps hs hEchoed hKept
  | changeUsers users => exact hs

theorem init_keeps (plans : Table Plan) (planEntitlements : Table PlanEntitlement)
    (users : Table User) : (init plans planEntitlements users).KeepsTrials :=
  TrialInvariant.init { planEntitlements } rfl rfl

/-- What the claim of the trial says of a state: the entries reserved during the trial of a
business that were not released stay within the limit, and all are in one account. -/
def TrialAllowance (s : TrialState) : Prop :=
  (∀ scope, (s.trialUse scope : Int) ≤ trialAiFullResponsesPerPeriod) ∧
    ∀ e ∈ s.db.ledger, ∀ e' ∈ s.db.ledger, e.id ∈ s.trialEntries → e'.id ∈ s.trialEntries →
      e.businessId = e'.businessId → e.accountId = e'.accountId

/-- **Trial allowance.** On every run in which Stripe echoes the trial ends it was sent, a
trial end is a whole second when it is sent and no snapshot resumes a trial without its
entitlement, moving a trial to Stripe neither resets its allowance nor opens a second
account. -/
theorem trial_allowance_kept (settings : BillingSettings) (plans : Table Plan)
    (planEntitlements : Table PlanEntitlement) (users : Table User)
    (actions : List TimedTrialAction)
    (hMeets : Meets (step settings)
      (fun s timed => (echoed settings s timed && trialKept settings s timed) = true)
      (init plans planEntitlements users) actions) :
    (run (step settings) (init plans planEntitlements users) actions).TrialAllowance := by
  have hKept := run_invariant_of_meets (I := KeepsTrials) step_keeps
    (init_keeps plans planEntitlements users) hMeets
  exact ⟨hKept.bounded, hKept.oneAccount⟩

end TrialState

-- ---------------------------------------------------------------------------
-- A run on which the trial starts again
-- ---------------------------------------------------------------------------

namespace TrialSample

def settings : BillingSettings := .development

def owner : User := 
  { id := 1, email := str "owner@spike.test", passwordHash := str "hash", isVerified := true }

def premium : Plan := { id := 1, code := str "premium", monthlyPriceCents := some 2900 }

def start : TrialState := .init (.single premium (by decide)) .empty (.single owner (by decide))

/-- The price that Stripe has for the premium plan. -/
def price : Dict :=
  [(str "id", .str (str "price_premium")), (str "object", .str (str "price")),
    (str "active", .bool true), (str "type", .str (str "recurring")),
    (str "billing_scheme", .str (str "per_unit")), (str "currency", .str (str "usd")),
    (str "unit_amount", .int 2900),
    (str "recurring", .obj [(str "interval", .str (str "month")), (str "interval_count", .int 1),
      (str "usage_type", .str (str "licensed"))])]

/-- The second in which a trial that starts in the first second ends. -/
def trialEnd : Int := trialDays * 86400

/-- The subscription that Stripe starts from the checkout, a day into the trial. -/
def snapshot : Dict :=
  [(str "id", .str (str "sub_1")), (str "customer", .str (str "cus_1")),
    (str "status", .str (str "trialing")), (str "trial_start", .int 86400),
    (str "trial_end", .int trialEnd), (str "cancel_at_period_end", .bool false),
    (str "items", .obj [(str "data", .arr [.obj [
      (str "price", .obj [(str "id", .str (str "price_premium"))]),
      (str "current_period_start", .int 86400), (str "current_period_end", .int trialEnd)]])]),
    (str "metadata", .obj [
      (stripeMetadataBusinessId, .str (uuidText 1)),
      (stripeMetadataSubscriptionId, .str (uuidText 1)),
      (stripeMetadataPlanCode, .str (str "premium")),
      (stripeMetadataCheckoutId, .str (uuidText 1)),
      (stripeMetadataEnvironment, .str (str "development"))])]

def delivery : Dict :=
  [(str "id", .str (str "evt_1")), (str "type", .str (str "customer.subscription.created")),
    (str "created", .int 86401), (str "livemode", .bool false),
    (str "data", .obj [(str "object", .obj snapshot)])]

/-- The reservations with the numbers from `first` on, one a second. -/
def reservations (second first count : Nat) : List TimedTrialAction :=
  (List.range' first count).map fun (n : Nat) =>
    ⟨seconds (second + n), .reserve 1 (str "key-" ++ hexText 2 n) n n⟩

/-- A trial that starts `offset` microseconds after second 0 and is moved to Stripe a day
later, between `before` reservations and `more`. -/
def movedRun (offset : Int) (before more : Nat) : List TimedTrialAction :=
  [⟨offset, .onboard owner ⟨1, 1, 1, 1, 2⟩⟩] ++ reservations 10 1 before ++
    [⟨seconds 86400, .prepareCheckout 1 none 1 .premium (str "key") (.ok price) ⟨9, 1, 86400⟩⟩,
      ⟨seconds 86401, .webhook (.ok snapshot) delivery ⟨1, 1⟩⟩] ++
    reservations 90000 (before + 1) more

end TrialSample

namespace TrialState

/-- **A trial that starts again.** Its end is not a whole second, and the subscription that
Stripe echoes gets an account of its own. -/
theorem trial_allowance_reset :
    Meets (step TrialSample.settings)
        (fun s timed => echoed TrialSample.settings s timed = true) TrialSample.start
        (TrialSample.movedRun 1 15 1) ∧
      ¬ (run (step TrialSample.settings) TrialSample.start
        (TrialSample.movedRun 1 15 1)).TrialAllowance := by
  refine ⟨by decide +kernel, fun hAllowance => ?_⟩
  have hOver : ¬ ((run (step TrialSample.settings) TrialSample.start
      (TrialSample.movedRun 1 15 1)).trialUse 1 : Int) ≤ trialAiFullResponsesPerPeriod := by
    decide +kernel
  exact hOver (hAllowance.1 1)

/-- A trial that ends on a whole second goes on after the move. -/
theorem trial_allowance_kept_whole_second :
    (run (step TrialSample.settings) TrialSample.start
      (TrialSample.movedRun 0 10 3)).TrialAllowance :=
  trial_allowance_kept _ _ _ _ (TrialSample.movedRun 0 10 3) (by decide +kernel)

end TrialState

end SpikeBackend
