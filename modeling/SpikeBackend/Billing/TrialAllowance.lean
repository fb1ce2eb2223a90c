import SpikeBackend.Billing.Attempts
import SpikeBackend.Credits.Conservation
import SpikeBackend.Model.TrialRuns

/-!
# The allowance of a trial

The account a reservation is charged to is keyed by the dates of the trial, which go to
Stripe as whole seconds and come back in the subscription's webhooks. On every run in
which the dates survive that journey, the reservations of a business's trial share one
account, so they never exceed the limit of the trial.

* `TrialInvariant` — where the entries of a trial are, and what keeps it;
* `trial_allowance_kept` — the bound, and that there is one account;
* `trial_allowance_reset` — a run on which the dates lose their microseconds.
-/

namespace SpikeBackend

open Relational Text Outcome Session Machine

-- ---------------------------------------------------------------------------
-- The invariant
-- ---------------------------------------------------------------------------

/-- The trial of a subscription runs from `startsAt` to `endsAt`: those are its dates, as
far as it has them, the end that any checkout sent, and the period that the entries of the
trial are charged to. -/
structure RunsTrial (db : CreditTables) (sent : List (Uuid × Option Int)) (entries : List Uuid)
    (s : Subscription) (startsAt endsAt : Datetime) : Prop where
  starts : s.trialStartedAt = some startsAt
  ends : ∀ e, s.trialEndsAt = some e → e = endsAt
  sent : ∀ trialEnd, (s.id, some trialEnd) ∈ sent → seconds trialEnd = endsAt
  charged : ∀ e ∈ db.ledger, e.id ∈ entries → e.businessId = s.businessId →
    ∃ a ∈ db.accounts, a.id = e.accountId ∧
      a.periodKey = (s.businessId, s.id, .aiFullResponses, startsAt, endsAt)

/-- **The invariant of a run.** -/
structure TrialInvariant (db : CreditTables) (businesses : Table Business)
    (sent : List (Uuid × Option Int)) (entries : List Uuid) : Prop where
  credits : db.CreditInvariant
  adjustments : ∀ a, a ∉ db.adjustments
  /-- the entries booked are entries of known businesses -/
  booked : ∀ id ∈ entries, ∃ e ∈ db.ledger, e.id = id
  owner : ∀ e ∈ db.ledger, e.id ∈ entries → ∃ b ∈ businesses, b.id = e.businessId
  bounded : ∀ scope, (db.ledger.count (AICreditLedgerEntry.isTrialUse scope entries) : Int) ≤
    trialAiFullResponsesPerPeriod
  oneAccount : ∀ e ∈ db.ledger, ∀ e' ∈ db.ledger, e.id ∈ entries → e'.id ∈ entries →
    e.businessId = e'.businessId → e.accountId = e'.accountId
  /-- a subscription's own entitlement is what a trial grants -/
  grants : ∀ r ∈ db.subscriptionEntitlements,
    (r.key = .aiFullResponses → r.limitValue = some trialAiFullResponsesPerPeriod) ∧
      (∃ s ∈ db.subscriptions, s.id = r.subscriptionId ∧ s.businessId = r.businessId) ∧
      ∃ b ∈ businesses, b.id = r.businessId
  oneTrial : ∀ r ∈ db.subscriptionEntitlements, ∀ r' ∈ db.subscriptionEntitlements,
    r.businessId = r'.businessId → r.subscriptionId = r'.subscriptionId
  sentKnown : ∀ p ∈ sent, ∃ s ∈ db.subscriptions, s.id = p.1
  granted : ∀ s ∈ db.subscriptions, s.status = .trialing → s.trialEndsAt ≠ none →
    ∃ r ∈ db.subscriptionEntitlements, r.subscriptionId = s.id ∧ r.key = .aiFullResponses
  trial : ∀ s ∈ db.subscriptions, ∀ r ∈ db.subscriptionEntitlements, r.subscriptionId = s.id →
    r.key = .aiFullResponses → ∃ startsAt endsAt, RunsTrial db sent entries s startsAt endsAt

namespace AICreditLedgerEntry

/-- A trial use is a booked entry of the scope that was not given back. -/
theorem isTrialUse_eq_true {scope : Uuid} {entries : List Uuid} {e : AICreditLedgerEntry} :
    e.isTrialUse scope entries = true ↔
      e.businessId = scope ∧ e.id ∈ entries ∧ e.status ≠ .released := by
  simp [isTrialUse, and_assoc]

end AICreditLedgerEntry

/-- The account of a trial holds all entries booked for its business. -/
theorem RunsTrial.accountId_eq {db : CreditTables} {sent : List (Uuid × Option Int)}
    {entries : List Uuid} {s : Subscription} {startsAt endsAt : Datetime}
    (h : RunsTrial db sent entries s startsAt endsAt) {accounts : Table AICreditAccount}
    {account : AICreditAccount} (hAccounts : ∀ a ∈ db.accounts, a ∈ accounts)
    (hAccount : account ∈ accounts)
    (hPeriod : account.periodKey = (s.businessId, s.id, .aiFullResponses, startsAt, endsAt))
    {e : AICreditLedgerEntry} (he : e ∈ db.ledger) (hId : e.id ∈ entries)
    (hScope : e.businessId = s.businessId) : e.accountId = account.id := by
  obtain ⟨a, ha, hOwner, hPeriod'⟩ := h.charged e he hId hScope
  have hClash : Schema.clash a account = true := decide_eq_true (hPeriod'.trans hPeriod.symm)
  rw [← hOwner, Table.eq_of_clash (hAccounts a ha) hAccount hClash]

namespace TrialInvariant

variable {db db' : CreditTables} {businesses businesses' : Table Business}
  {sent : List (Uuid × Option Int)} {entries : List Uuid}

/-- Without subscriptions and entitlements the invariant holds. -/
theorem init (tables : SubscriptionTables) (h : tables.subscriptions = .empty)
    (hEntitlements : tables.subscriptionEntitlements = .empty) :
    TrialInvariant { toSubscriptionTables := tables } businesses [] [] where
  credits := ⟨fun _ ha => absurd ha (Table.not_mem_empty _),
    fun _ he => absurd he (Table.not_mem_empty _)⟩
  adjustments a := Table.not_mem_empty a
  booked id hId := absurd hId (by simp)
  owner e _ hId := absurd hId (by simp)
  bounded scope := by
    have hZero : (Table.empty : Table AICreditLedgerEntry).count
        (AICreditLedgerEntry.isTrialUse scope []) = 0 := rfl
    rw [hZero]
    decide
  oneAccount e _ e' _ hId := absurd hId (by simp)
  grants r hr := absurd (hEntitlements ▸ hr) (Table.not_mem_empty _)
  oneTrial r hr := absurd (hEntitlements ▸ hr) (Table.not_mem_empty _)
  sentKnown p hp := absurd hp (by simp)
  granted s hs := absurd (h ▸ hs) (Table.not_mem_empty _)
  trial s hs := absurd (h ▸ hs) (Table.not_mem_empty _)

/-- The entitlement of a subscription belongs to its business, which is known. -/
theorem grant_owner (h : TrialInvariant db businesses sent entries) {s : Subscription}
    {r : SubscriptionEntitlement} (hs : s ∈ db.subscriptions)
    (hr : r ∈ db.subscriptionEntitlements) (hOwn : r.subscriptionId = s.id) :
    r.businessId = s.businessId ∧ ∃ b ∈ businesses, b.id = s.businessId := by
  obtain ⟨-, ⟨t, ht, hId, hBusiness⟩, b, hb, hOwner⟩ := h.grants r hr
  have hSame : t = s := Table.eq_of_key_eq ht hs (hId.trans hOwn)
  rw [hSame] at hBusiness
  exact ⟨hBusiness.symm, b, hb, hOwner.trans hBusiness.symm⟩

/-- Two entitlements for AI of one business belong to one subscription. -/
theorem eq_of_grants (h : TrialInvariant db businesses sent entries) {s s' : Subscription}
    {r r' : SubscriptionEntitlement} (hs : s ∈ db.subscriptions) (hs' : s' ∈ db.subscriptions)
    (hr : r ∈ db.subscriptionEntitlements) (hr' : r' ∈ db.subscriptionEntitlements)
    (hOwn : r.subscriptionId = s.id) (hOwn' : r'.subscriptionId = s'.id)
    (hScope : s.businessId = s'.businessId) : s = s' := by
  have hBusiness := (h.grant_owner hs hr hOwn).1
  have hBusiness' := (h.grant_owner hs' hr' hOwn').1
  have hSame := h.oneTrial r hr r' hr' (hBusiness.trans (hScope.trans hBusiness'.symm))
  exact Table.eq_of_key_eq hs hs' (hOwn.symm.trans (hSame.trans hOwn'))

-- ---------------------------------------------------------------------------
-- Credits
-- ---------------------------------------------------------------------------

/-- A new entry is not one of those booked. -/
theorem not_booked (h : TrialInvariant db businesses sent entries) {id : Uuid}
    (hNew : ∀ e ∈ db.ledger, e.id ≠ id) : id ∉ entries := by
  intro hId
  obtain ⟨e, he, hEq⟩ := h.booked id hId
  exact hNew e he hEq

/-- **Step lemma.** A move of the credits leaves the trials as they are. -/
theorem move (h : TrialInvariant db businesses sent entries) (hMove : db.Move db')
    (hTables : db'.toSubscriptionTables = db.toSubscriptionTables)
    (hAdjustments : db'.adjustments = db.adjustments) :
    TrialInvariant db' businesses sent entries := by
  -- an entry booked was there before, under the same account
  have hBack : ∀ e' ∈ db'.ledger, e'.id ∈ entries → ∃ e ∈ db.ledger, e.SameOrigin e' := by
    intro e' he' hId
    rcases hMove.entry_origin he' with hOld | hNew
    · exact hOld
    · exact absurd hId (h.not_booked hNew)
  refine
    { credits := hMove.invariant h.credits
      adjustments := fun a => hAdjustments ▸ h.adjustments a
      booked := fun id hId => ?_
      owner := fun e' he' hId => ?_
      bounded := fun scope => ?_
      oneAccount := fun e₁' he₁' e₂' he₂' h₁ h₂ hSame => ?_
      grants := fun r hr => ?_
      oneTrial := ?_
      sentKnown := ?_
      granted := ?_
      trial := fun s hs r hr hOwn hKey => ?_ }
  · obtain ⟨e, he, hEq⟩ := h.booked id hId
    obtain ⟨e', he', hOrigin, -⟩ := hMove.advances e he
    exact ⟨e', he', hOrigin.1.trans hEq⟩
  · obtain ⟨e, he, hOrigin⟩ := hBack e' he' hId
    rw [hOrigin.2.1]
    exact h.owner e he (hOrigin.1 ▸ hId)
  · have hCount := hMove.count_le (p := AICreditLedgerEntry.isTrialUse scope entries)
      (fun e hNew => by
        rw [← Bool.not_eq_true, AICreditLedgerEntry.isTrialUse_eq_true]
        exact fun hUse => h.not_booked hNew hUse.2.1)
      (fun e e' hOrigin hReserved hUse => by
        obtain ⟨hScope, hId, -⟩ := AICreditLedgerEntry.isTrialUse_eq_true.mp hUse
        exact AICreditLedgerEntry.isTrialUse_eq_true.mpr
          ⟨hOrigin.2.1.symm.trans hScope, hOrigin.1 ▸ hId, by rw [hReserved]; decide⟩)
    have := h.bounded scope
    omega
  · obtain ⟨e₁, he₁, hOrigin₁⟩ := hBack e₁' he₁' h₁
    obtain ⟨e₂, he₂, hOrigin₂⟩ := hBack e₂' he₂' h₂
    rw [hOrigin₁.2.2.1, hOrigin₂.2.2.1]
    refine h.oneAccount e₁ he₁ e₂ he₂ (hOrigin₁.1 ▸ h₁) (hOrigin₂.1 ▸ h₂) ?_
    rw [← hOrigin₁.2.1, hSame, hOrigin₂.2.1]
  · rw [hTables] at hr ⊢
    exact h.grants r hr
  · rw [hTables]
    exact h.oneTrial
  · rw [hTables]
    exact h.sentKnown
  · rw [hTables]
    exact h.granted
  · rw [hTables] at hs hr
    obtain ⟨startsAt, endsAt, hTrial⟩ := h.trial s hs r hr hOwn hKey
    refine ⟨startsAt, endsAt, hTrial.starts, hTrial.ends, hTrial.sent, fun e' he' hId hScope => ?_⟩
    obtain ⟨e, he, hOrigin⟩ := hBack e' he' hId
    obtain ⟨a, ha, hAccount, hPeriod⟩ :=
      hTrial.charged e he (hOrigin.1 ▸ hId) (hOrigin.2.1 ▸ hScope)
    obtain ⟨a', ha', hAccount', hPeriod'⟩ := hMove.account_kept ha
    exact ⟨a', ha', hAccount'.trans (hAccount.trans hOrigin.2.2.1.symm), hPeriod'.trans hPeriod⟩

/-- What a trialing subscription may use of AI. -/
theorem trial_entitlement (h : TrialInvariant db businesses sent entries) {s : Subscription}
    (hs : s ∈ db.subscriptions) {r : SubscriptionEntitlement}
    (hr : r ∈ db.subscriptionEntitlements) (hOwn : r.subscriptionId = s.id)
    (hKey : r.key = .aiFullResponses) {entitlement : EffectiveEntitlement}
    (hEntitlement : db.entitlementFor s.businessId s .aiFullResponses = some entitlement) :
    entitlement.limitValue = some trialAiFullResponsesPerPeriod := by
  rw [SubscriptionTables.entitlementFor_eq] at hEntitlement
  have hBusiness := (h.grant_owner hs hr hOwn).1
  unfold SubscriptionTables.effectiveEntitlement at hEntitlement
  dsimp only at hEntitlement
  split at hEntitlement
  · next _ own hFound =>
    have hp := Table.prop_of_find? hFound
    simp only [Bool.and_eq_true, beq_iff_eq] at hp
    simp only [Option.some.injEq] at hEntitlement
    rw [← hEntitlement]
    -- A subscription's own entitlement goes before its plan's.
    exact (h.grants own (Table.mem_of_find? hFound)).1 hp.2
  · next hFound _ =>
    have := Table.find?_eq_none.mp hFound r hr
    simp [hBusiness, hOwn, hKey] at this
  · simp at hEntitlement

/-- Without adjustments the effective limit is the base limit. -/
theorem limit_eq (h : TrialInvariant db businesses sent entries)
    {accounts : Table AICreditAccount} {scope : Uuid} {account : AICreditAccount} {base : Int}
    {limit : Option Int}
    (hLimit : CreditTables.effectiveLimit { db with accounts } scope account (some base) =
      .ok limit) : limit = some base := by
  have hRows : db.adjustments.rows = [] := List.eq_nil_iff_forall_not_mem.mpr h.adjustments
  simp only [CreditTables.effectiveLimit, CreditTables.adjustmentTotal, hRows, bind_eq_ok] at hLimit
  obtain ⟨-, -, hDone⟩ := hLimit
  simp only [pure, Except.pure, Except.ok.injEq] at hDone
  simpa using hDone.symm

/-- The entries booked for a business use the account of its trial. -/
theorem trialUse_le_used (h : TrialInvariant db businesses sent entries) {s : Subscription}
    {startsAt endsAt : Datetime} (hTrial : RunsTrial db sent entries s startsAt endsAt)
    {accounts : Table AICreditAccount} {account : AICreditAccount}
    (hOpen : db.Opened accounts account)
    (hPeriod : account.periodKey = (s.businessId, s.id, .aiFullResponses, startsAt, endsAt)) :
    (db.ledger.count (AICreditLedgerEntry.isTrialUse s.businessId entries) : Int) ≤
      account.used := by
  have hLe : db.ledger.count (AICreditLedgerEntry.isTrialUse s.businessId entries) ≤
      db.ledger.count
        fun e => e.isOf account.id .reserved || e.isOf account.id .consumed := by
    refine Table.count_le fun e he hUse => ?_
    obtain ⟨hScope, hId, hHeld⟩ := AICreditLedgerEntry.isTrialUse_eq_true.mp hUse
    -- Every use of the trial was booked on the account of this period.
    have hAccount := hTrial.accountId_eq (fun a ha => hOpen.mem_of_mem ha) hOpen.mem hPeriod he
      hId hScope
    rw [Bool.or_eq_true, AICreditLedgerEntry.isOf_eq_true, AICreditLedgerEntry.isOf_eq_true]
    cases hStatus : e.status with
    | reserved => exact .inl ⟨hAccount, rfl⟩
    | consumed => exact .inr ⟨hAccount, rfl⟩
    | released => exact absurd hStatus hHeld
  have hOr := Table.count_or_le db.ledger (AICreditLedgerEntry.isOf account.id .reserved)
    (AICreditLedgerEntry.isOf account.id .consumed)
  obtain ⟨hReserved, hConsumed⟩ := hOpen.counted h.credits account hOpen.mem
  unfold AICreditAccount.used
  omega

/-- **Step lemma.** An entry in the account of its business's trial may be booked while
there is room. -/
theorem book (h : TrialInvariant db businesses sent entries) {entry : AICreditLedgerEntry}
    (hEntry : entry ∈ db.ledger) (hNew : entry.id ∉ entries) {s : Subscription}
    (hs : s ∈ db.subscriptions) {r : SubscriptionEntitlement}
    (hr : r ∈ db.subscriptionEntitlements) (hOwn : r.subscriptionId = s.id)
    (hScope : entry.businessId = s.businessId) {startsAt endsAt : Datetime}
    (hTrial : RunsTrial db sent entries s startsAt endsAt) {account : AICreditAccount}
    (hAccount : account ∈ db.accounts) (hOwner : account.id = entry.accountId)
    (hPeriod : account.periodKey = (s.businessId, s.id, .aiFullResponses, startsAt, endsAt))
    (hRoom : (db.ledger.count (AICreditLedgerEntry.isTrialUse s.businessId entries) : Int) <
      trialAiFullResponsesPerPeriod) :
    TrialInvariant db businesses sent (entry.id :: entries) := by
  -- booked entries are the new one or one of before
  have hCases : ∀ e ∈ db.ledger, e.id ∈ entry.id :: entries → e = entry ∨ e.id ∈ entries := by
    intro e he hId
    rcases List.mem_cons.mp hId with hId | hId
    · exact .inl (Table.eq_of_key_eq he hEntry hId)
    · exact .inr hId
  have hIn : ∀ e ∈ db.ledger, e.id ∈ entry.id :: entries → e.businessId = s.businessId →
      e.accountId = account.id := by
    intro e he hId hBusiness
    rcases hCases e he hId with rfl | hId
    · exact hOwner.symm
    · exact hTrial.accountId_eq (fun a ha => ha) hAccount hPeriod he hId hBusiness
  obtain ⟨-, b, hb, hOwnerId⟩ := h.grant_owner hs hr hOwn
  refine
    { h with
      booked := fun id hId => ?_
      owner := fun e he hId => ?_
      bounded := fun scope => ?_
      oneAccount := fun e he e' he' hId hId' hSame => ?_
      trial := fun t ht r' hr' hOwn' hAi' => ?_ }
  · rcases List.mem_cons.mp hId with rfl | hId
    · exact ⟨entry, hEntry, rfl⟩
    · exact h.booked id hId
  · rcases hCases e he hId with rfl | hId
    · exact ⟨b, hb, hOwnerId.trans hScope.symm⟩
    · exact h.owner e he hId
  · by_cases hHere : scope = s.businessId
    · subst hHere
      have hLe : db.ledger.count (AICreditLedgerEntry.isTrialUse s.businessId
            (entry.id :: entries)) ≤
          db.ledger.count fun e => e.isTrialUse s.businessId entries ||
            decide (Schema.key e = entry.id) := by
        refine Table.count_le fun e _ hUse => ?_
        obtain ⟨hBusiness, hId, hHeld⟩ := AICreditLedgerEntry.isTrialUse_eq_true.mp hUse
        rw [Bool.or_eq_true, AICreditLedgerEntry.isTrialUse_eq_true]
        rcases List.mem_cons.mp hId with hId | hId
        · exact .inr (decide_eq_true hId)
        · exact .inl ⟨hBusiness, hId, hHeld⟩
      have hOr := Table.count_or_le db.ledger (AICreditLedgerEntry.isTrialUse s.businessId entries)
        fun e => decide (Schema.key e = entry.id)
      have hOne := Table.count_key_le_one db.ledger entry.id
      omega
    · have hLe : db.ledger.count (AICreditLedgerEntry.isTrialUse scope (entry.id :: entries)) ≤
          db.ledger.count (AICreditLedgerEntry.isTrialUse scope entries) := by
        refine Table.count_le fun e he hUse => ?_
        obtain ⟨hBusiness, hId, hHeld⟩ := AICreditLedgerEntry.isTrialUse_eq_true.mp hUse
        rcases hCases e he hId with rfl | hId
        · exact absurd (hBusiness.symm.trans hScope) hHere
        · exact AICreditLedgerEntry.isTrialUse_eq_true.mpr ⟨hBusiness, hId, hHeld⟩
      have := h.bounded scope
      omega
  · by_cases hHere : e.businessId = s.businessId
    · rw [hIn e he hId hHere, hIn e' he' hId' (hSame ▸ hHere)]
    · -- neither entry is the new one
      rcases hCases e he hId with rfl | hId
      · exact absurd hScope hHere
      · rcases hCases e' he' hId' with rfl | hId'
        · exact absurd (hSame.trans hScope) hHere
        · exact h.oneAccount e he e' he' hId hId' hSame
  · by_cases hSame : t = s
    · subst hSame
      refine ⟨startsAt, endsAt, { hTrial with charged := fun e he hId hHere => ?_ }⟩
      rcases hCases e he hId with rfl | hId
      · exact ⟨account, hAccount, hOwner, hPeriod⟩
      · exact hTrial.charged e he hId hHere
    · obtain ⟨t₀, t₁, hTrial'⟩ := h.trial t ht r' hr' hOwn' hAi'
      refine ⟨t₀, t₁, { hTrial' with charged := fun e he hId hHere => ?_ }⟩
      rcases hCases e he hId with rfl | hId
      · -- a business has one trial
        exact absurd (h.eq_of_grants ht hs hr' hr hOwn' hOwn (hHere.symm.trans hScope)) hSame
      · exact hTrial'.charged e he hId hHere

/-- **Step lemma.** A new reservation of a trialing business, booked. -/
theorem reserve_trial (h : TrialInvariant db businesses sent entries) {scope : Uuid}
    {digest : Str} {reservedAt : Datetime} {entryId : Uuid} {snapshot : AICreditLedgerSnapshot}
    (hReserve : db.ReservesNew scope digest reservedAt entryId db' snapshot)
    (hTrialing : ∃ s, db.getCurrent scope = some s ∧ s.status = .trialing) :
    TrialInvariant db' businesses sent (entryId :: entries) := by
  have hMove := hReserve.move
  obtain ⟨s, startedAt, endsAt, entitlement, accounts, account, limit, hCurrent, hActive, hStart,
    hEnd, hEntitlement, hOpen, hKey, hLimit, hRoom, hAccounts, hLedger, hRest, -⟩ := hReserve
  have hStatus : s.status = .trialing := by
    obtain ⟨s', hCurrent', hStatus'⟩ := hTrialing
    rw [Option.some.inj (hCurrent.symm.trans hCurrent')]
    exact hStatus'
  obtain ⟨hs, rfl, -⟩ := SubscriptionTables.getCurrent_eq_some hCurrent
  -- the period of the account is the trial of the subscription
  have hDates : s.trialStartedAt = some startedAt ∧ s.trialEndsAt = some endsAt := by
    obtain ⟨s₀, e₀, -, -, hs₀, he₀, ⟨-, hStarts, hEnds⟩ | ⟨hOther, -⟩⟩ :=
      evaluateAccess_active hActive
    · rw [hStarts, hEnds, ← hs₀, ← he₀]
      exact ⟨hStart, hEnd⟩
    · rw [hStatus] at hOther
      cases hOther
  obtain ⟨r, hr, hOwn, hAi⟩ := h.granted s hs hStatus (by rw [hDates.2]; simp)
  have hTables : db'.toSubscriptionTables = db.toSubscriptionTables := by rw [hRest]
  have hUsed : account.used < trialAiFullResponsesPerPeriod := by
    rw [h.trial_entitlement hs hr hOwn hAi hEntitlement] at hLimit
    rw [h.limit_eq hLimit] at hRoom
    simpa using hRoom
  have hUse : (db.ledger.count (AICreditLedgerEntry.isTrialUse s.businessId entries) : Int) ≤
      account.used := by
    obtain ⟨startsAt, endsAt', hTrial⟩ := h.trial s hs r hr hOwn hAi
    obtain rfl := Option.some.inj (hDates.1.symm.trans hTrial.starts)
    obtain rfl := hTrial.ends endsAt hDates.2
    exact h.trialUse_le_used hTrial hOpen hKey
  have hNew : ∀ e ∈ db.ledger, e.id ≠ entryId := fun e he => (Table.apart_of_insert? hLedger he).1
  have hKept := h.move hMove hTables (by rw [hRest])
  obtain ⟨startsAt, endsAt', hTrial⟩ := hKept.trial s (hTables ▸ hs) r (hTables ▸ hr) hOwn hAi
  obtain rfl := Option.some.inj (hDates.1.symm.trans hTrial.starts)
  obtain rfl := hTrial.ends endsAt hDates.2
  refine hKept.book
    ((Table.mem_insert? hLedger).mpr (.inl rfl)) (h.not_booked hNew) (hTables ▸ hs)
    (hTables ▸ hr) hOwn rfl hTrial ((Table.mem_update?_iff hAccounts hOpen.mem rfl).mpr (.inl rfl))
    rfl hKey ?_
  -- the new entry is not yet booked, so it does not count
  rw [Table.count_insert? _ hLedger]
  have hOut : AICreditLedgerEntry.isTrialUse s.businessId entries
      (CreditTables.reservedEntry s.businessId digest reservedAt entryId account s) = false := by
    rw [← Bool.not_eq_true, AICreditLedgerEntry.isTrialUse_eq_true]
    exact fun hIn => h.not_booked hNew hIn.2.1
  rw [hOut]
  simp only [Bool.false_eq_true, if_false, Nat.add_zero]
  omega

-- ---------------------------------------------------------------------------
-- Subscriptions
-- ---------------------------------------------------------------------------

theorem credits_with (h : TrialInvariant db businesses sent entries) (tables : SubscriptionTables) :
    CreditTables.CreditInvariant { db with toSubscriptionTables := tables } :=
  ⟨h.credits.counted, h.credits.owned⟩

/-- **Step lemma.** A checkout may add an incomplete subscription. -/
theorem add_incomplete (h : TrialInvariant db businesses sent entries) {s : Subscription}
    {subscriptions : Table Subscription}
    (hInsert : db.subscriptions.insert? s = some subscriptions) (hStatus : s.status = .incomplete) :
    TrialInvariant { db with subscriptions } businesses sent entries := by
  have hMem := fun t => Table.mem_insert? (x := t) hInsert
  refine
    { credits := h.credits_with _
      adjustments := h.adjustments
      booked := h.booked
      owner := h.owner
      bounded := h.bounded
      oneAccount := h.oneAccount
      grants := fun r hr => ?_
      oneTrial := h.oneTrial
      sentKnown := fun p hp => ?_
      granted := fun t ht hTrialing hEnds => ?_
      trial := fun t ht r hr hOwn hKey => ?_ }
  · obtain ⟨hLimit, ⟨t, ht, hOwner⟩, hBusiness⟩ := h.grants r hr
    exact ⟨hLimit, ⟨t, (hMem t).mpr (.inr ht), hOwner⟩, hBusiness⟩
  · obtain ⟨t, ht, hId⟩ := h.sentKnown p hp
    exact ⟨t, (hMem t).mpr (.inr ht), hId⟩
  · rcases (hMem t).mp ht with rfl | ht
    · rw [hStatus] at hTrialing
      cases hTrialing
    · exact h.granted t ht hTrialing hEnds
  · rcases (hMem t).mp ht with rfl | ht
    · -- no entitlement was granted to a subscription that was not there
      obtain ⟨-, ⟨t', ht', hId, -⟩, -⟩ := h.grants r hr
      exact absurd (hId.trans hOwn) (Table.apart_of_insert? hInsert ht').1
    · obtain ⟨startsAt, endsAt, hTrial⟩ := h.trial t ht r hr hOwn hKey
      exact ⟨startsAt, endsAt, hTrial.starts, hTrial.ends, hTrial.sent, hTrial.charged⟩

/-- **Step lemma.** A trial end may go out to Stripe while it is a whole second. -/
theorem add_sent (h : TrialInvariant db businesses sent entries) {s : Subscription}
    (hs : s ∈ db.subscriptions) {trialEnd : Option Int}
    (hWhole : ∀ t, trialEnd = some t → s.trialEndsAt = some (seconds t)) :
    TrialInvariant db businesses ((s.id, trialEnd) :: sent) entries := by
  refine { h with sentKnown := fun p hp => ?_, trial := fun t ht r hr hOwn hKey => ?_ }
  · rcases List.mem_cons.mp hp with rfl | hp
    · exact ⟨s, hs, rfl⟩
    · exact h.sentKnown p hp
  · obtain ⟨startsAt, endsAt, hTrial⟩ := h.trial t ht r hr hOwn hKey
    refine ⟨startsAt, endsAt, { hTrial with sent := fun e he => ?_ }⟩
    rcases List.mem_cons.mp he with hEq | he
    · obtain ⟨hId, hEnd⟩ := Prod.mk.inj hEq
      -- The end that is sent is the stored one, as the condition says.
      have hSame : t = s := Table.eq_of_key_eq ht hs hId
      exact hTrial.ends _ (hSame ▸ hWhole e hEnd.symm)
    · exact hTrial.sent e he

/-- **Step lemma.** A subscription may be rewritten, and entitlements of it deleted, if a
trial it is left on keeps its dates and its entitlement. -/
theorem rewrite (h : TrialInvariant db businesses sent entries) {row s : Subscription}
    {subscriptions : Table Subscription} {entitlements : Table SubscriptionEntitlement}
    (hRow : row ∈ db.subscriptions) (hSame : row.SameRow s)
    (hUpdate : db.subscriptions.update? s = some subscriptions)
    (hFewer : ∀ r ∈ entitlements, r ∈ db.subscriptionEntitlements)
    (hOthers : ∀ r ∈ db.subscriptionEntitlements, r.subscriptionId ≠ row.id → r ∈ entitlements)
    (hGranted : s.status = .trialing → s.trialEndsAt ≠ none →
      ∃ r ∈ entitlements, r.subscriptionId = row.id ∧ r.key = .aiFullResponses)
    (hDates : (∃ r ∈ db.subscriptionEntitlements, r.subscriptionId = row.id ∧
        r.key = .aiFullResponses) → s.trialStartedAt = row.trialStartedAt ∧
      ∀ e, s.trialEndsAt = some e → ∃ trialEnd, e = seconds trialEnd ∧
        (row.id, some trialEnd) ∈ sent) :
    TrialInvariant { db with subscriptions, subscriptionEntitlements := entitlements } businesses
      sent entries := by
  have hMem := fun t => Table.mem_update?_iff (x := t) hUpdate hRow hSame.1
  -- The rewritten row keeps its id and its business.
  have hKept : ∀ t ∈ db.subscriptions, ∃ t' ∈ subscriptions, t'.id = t.id ∧
      t'.businessId = t.businessId := by
    intro t ht
    by_cases hId : t.id = row.id
    · have hEq : t = row := Table.eq_of_key_eq ht hRow hId
      exact ⟨s, (hMem s).mpr (.inl rfl), hSame.1.trans hId.symm, hEq ▸ hSame.2.1⟩
    · exact ⟨t, (hMem t).mpr (.inr ⟨ht, hId⟩), rfl, rfl⟩
  refine
    { credits := h.credits_with _
      adjustments := h.adjustments
      booked := h.booked
      owner := h.owner
      bounded := h.bounded
      oneAccount := h.oneAccount
      grants := fun r hr => ?_
      oneTrial := fun r hr r' hr' => h.oneTrial r (hFewer r hr) r' (hFewer r' hr')
      sentKnown := fun p hp => ?_
      granted := fun t ht hTrialing hEnds => ?_
      trial := fun t ht r hr hOwn hKey => ?_ }
  · obtain ⟨hLimit, ⟨t, ht, hId, hBusiness⟩, hOwner⟩ := h.grants r (hFewer r hr)
    obtain ⟨t', ht', hId', hBusiness'⟩ := hKept t ht
    exact ⟨hLimit, ⟨t', ht', hId'.trans hId, hBusiness'.trans hBusiness⟩, hOwner⟩
  · obtain ⟨t, ht, hId⟩ := h.sentKnown p hp
    obtain ⟨t', ht', hId', -⟩ := hKept t ht
    exact ⟨t', ht', hId'.trans hId⟩
  · rcases (hMem t).mp ht with rfl | ⟨ht, hne⟩
    · rw [hSame.1]
      exact hGranted hTrialing hEnds
    · obtain ⟨r, hr, hOwn, hKey⟩ := h.granted t ht hTrialing hEnds
      exact ⟨r, hOthers r hr (hOwn ▸ hne), hOwn, hKey⟩
  · rcases (hMem t).mp ht with rfl | ⟨ht, hne⟩
    · have hOwn' : r.subscriptionId = row.id := hOwn.trans hSame.1
      -- The dates of the rewritten row are still those of its trial.
      obtain ⟨hStarts, hEnds⟩ := hDates ⟨r, hFewer r hr, hOwn', hKey⟩
      obtain ⟨startsAt, endsAt, hTrial⟩ := h.trial row hRow r (hFewer r hr) hOwn' hKey
      refine ⟨startsAt, endsAt, hStarts.trans hTrial.starts, fun e he => ?_, ?_, ?_⟩
      · obtain ⟨trialEnd, rfl, hSent⟩ := hEnds e he
        exact hTrial.sent trialEnd hSent
      · rw [hSame.1]
        exact hTrial.sent
      · rw [hSame.1, hSame.2.1]
        exact hTrial.charged
    · obtain ⟨startsAt, endsAt, hTrial⟩ := h.trial t ht r (hFewer r hr) hOwn hKey
      exact ⟨startsAt, endsAt, hTrial.starts, hTrial.ends, hTrial.sent, hTrial.charged⟩

/-- **Step lemma.** A business may be onboarded on a trial of its own. -/
theorem onboard (h : TrialInvariant db businesses sent entries) {draws : OnboardDraws}
    {now : Datetime} {ownerUserId : Uuid} {subscriptions : Table Subscription}
    {withAi entitlements : Table SubscriptionEntitlement}
    (hBusiness : businesses.insert? ⟨draws.businessId, ownerUserId⟩ = some businesses')
    (hInsert : db.subscriptions.insert? (trialSubscription draws now) = some subscriptions)
    (hAi : db.subscriptionEntitlements.insert? (trialAiEntitlement draws) = some withAi)
    (hDashboard : withAi.insert? (trialDashboardEntitlement draws) = some entitlements) :
    TrialInvariant { db with subscriptions, subscriptionEntitlements := entitlements } businesses'
      sent entries := by
  have hBusinesses := fun b => Table.mem_insert? (x := b) hBusiness
  have hSubscriptions := fun t => Table.mem_insert? (x := t) hInsert
  have hNewBusiness : ∀ b ∈ businesses, b.id ≠ draws.businessId :=
    fun b hb => (Table.apart_of_insert? hBusiness hb).1
  have hNewSubscription : ∀ t ∈ db.subscriptions, t.id ≠ draws.subscriptionId :=
    fun t ht => (Table.apart_of_insert? hInsert ht).1
  -- an entitlement is one of the two new ones or one of before
  have hCases : ∀ r ∈ entitlements, (r.businessId = draws.businessId ∧
      r.subscriptionId = draws.subscriptionId ∧ (r.key = .aiFullResponses →
        r.limitValue = some trialAiFullResponsesPerPeriod)) ∨ r ∈ db.subscriptionEntitlements := by
    intro r hr
    rcases (Table.mem_insert? hDashboard).mp hr with rfl | hr
    · exact .inl ⟨rfl, rfl, fun hKey => nomatch hKey⟩
    · rcases (Table.mem_insert? hAi).mp hr with rfl | hr
      · exact .inl ⟨rfl, rfl, fun _ => rfl⟩
      · exact .inr hr
  have hOldBusiness : ∀ r ∈ db.subscriptionEntitlements, r.businessId ≠ draws.businessId := by
    intro r hr hEq
    obtain ⟨-, -, b, hb, hOwner⟩ := h.grants r hr
    exact hNewBusiness b hb (hOwner.trans hEq)
  have hOldSubscription : ∀ r ∈ db.subscriptionEntitlements,
      r.subscriptionId ≠ draws.subscriptionId := by
    intro r hr hEq
    obtain ⟨-, ⟨t, ht, hId, -⟩, -⟩ := h.grants r hr
    exact hNewSubscription t ht (hId.trans hEq)
  refine
    { credits := h.credits_with _
      adjustments := h.adjustments
      booked := h.booked
      owner := fun e he hId => ?_
      bounded := h.bounded
      oneAccount := h.oneAccount
      grants := fun r hr => ?_
      oneTrial := fun r hr r' hr' hSame => ?_
      sentKnown := fun p hp => ?_
      granted := fun t ht hTrialing hEnds => ?_
      trial := fun t ht r hr hOwn hKey => ?_ }
  · obtain ⟨b, hb, hOwner⟩ := h.owner e he hId
    exact ⟨b, (hBusinesses b).mpr (.inr hb), hOwner⟩
  · rcases hCases r hr with ⟨hNew, hOwn, hLimit⟩ | hr
    · exact ⟨hLimit, ⟨trialSubscription draws now, (hSubscriptions _).mpr (.inl rfl), hOwn.symm,
        hNew.symm⟩, ⟨draws.businessId, ownerUserId⟩, (hBusinesses _).mpr (.inl rfl), hNew.symm⟩
    · obtain ⟨hLimit, ⟨t, ht, hOwner⟩, b, hb, hBusinessId⟩ := h.grants r hr
      exact ⟨hLimit, ⟨t, (hSubscriptions t).mpr (.inr ht), hOwner⟩, b,
        (hBusinesses b).mpr (.inr hb), hBusinessId⟩
  · rcases hCases r hr with ⟨hNew, hOwn, -⟩ | hr
    · rcases hCases r' hr' with ⟨-, hOwn', -⟩ | hr'
      · exact hOwn.trans hOwn'.symm
      · exact absurd (hSame.symm.trans hNew) (hOldBusiness r' hr')
    · rcases hCases r' hr' with ⟨hNew', -, -⟩ | hr'
      · exact absurd (hSame.trans hNew') (hOldBusiness r hr)
      · exact h.oneTrial r hr r' hr' hSame
  · obtain ⟨t, ht, hId⟩ := h.sentKnown p hp
    exact ⟨t, (hSubscriptions t).mpr (.inr ht), hId⟩
  · rcases (hSubscriptions t).mp ht with rfl | ht
    · exact ⟨trialAiEntitlement draws, (Table.mem_insert? hDashboard).mpr
        (.inr ((Table.mem_insert? hAi).mpr (.inl rfl))), rfl, rfl⟩
    · obtain ⟨r, hr, hOwn⟩ := h.granted t ht hTrialing hEnds
      exact ⟨r, (Table.mem_insert? hDashboard).mpr (.inr ((Table.mem_insert? hAi).mpr (.inr hr))),
        hOwn⟩
  · rcases (hSubscriptions t).mp ht with rfl | ht
    · -- nothing was sent for the new subscription or booked for the new business
      refine ⟨now, now + seconds (trialDays * 86400), rfl, fun e he => (Option.some.inj he).symm,
        fun e he => ?_, fun e he hId hScope => ?_⟩
      · obtain ⟨t, ht, hId⟩ := h.sentKnown _ he
        exact absurd hId (hNewSubscription t ht)
      · obtain ⟨b, hb, hOwner⟩ := h.owner e he hId
        exact absurd (hOwner.trans hScope) (hNewBusiness b hb)
    · rcases hCases r hr with ⟨-, hNew, -⟩ | hr
      · exact absurd (hOwn.symm.trans hNew) (hNewSubscription t ht)
      · obtain ⟨startsAt, endsAt, hTrial⟩ := h.trial t ht r hr hOwn hKey
        exact ⟨startsAt, endsAt, hTrial.starts, hTrial.ends, hTrial.sent, hTrial.charged⟩

end TrialInvariant

end SpikeBackend
