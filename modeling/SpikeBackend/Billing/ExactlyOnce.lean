import SpikeBackend.Billing.Synchronisation
import SpikeBackend.Model.WebhookRuns

/-!
# Every event is handled exactly once

A delivery commits everything its event does together with the claim of the event, or
nothing at all.

* `receive_error` — a delivery that raises leaves the database as it was;
* `receive_ok` — one that succeeds is a duplicate or applies its event;
* `webhook_exactly_once` — over every list of deliveries.
-/

namespace SpikeBackend

open Relational Text Outcome Machine

variable {settings : BillingSettings} {db db' : BillingDatabase} {d : WebhookDelivery}

-- ---------------------------------------------------------------------------
-- The events that the database knows
-- ---------------------------------------------------------------------------

namespace BillingDatabase

theorem mem_knownEvents {eventId : Str} :
    eventId ∈ db.knownEvents ↔ ∃ row ∈ db.webhookEvents, row.stripeEventId = eventId :=
  List.mem_map

/-- A handler writes no event. -/
theorem Handled.webhookEvents_eq {reads : WebhookReads} {event : StripeEvent} {now : Datetime}
    (h : db.Handled settings reads event now db') : db'.webhookEvents = db.webhookEvents := by
  cases h with
  | untouched checkouts invoices => rfl
  | synced loaded result snapshot db₁ invoices hSnapshot hLoaded hSynced =>
    -- A synchronisation writes subscriptions, entitlements and checkouts only.
    cases hSynced with
    | ignored => rfl
    | failedClosed _ _ _ _ _ _ _ _ _ _ _ _ _ hSave =>
      obtain ⟨_, -, -, -, hFrame⟩ := saveSubscription_eq_ok hSave
      rw [hFrame]
      rfl
    | synchronized _ _ _ _ _ _ _ _ _ _ _ status _ _ _ _ _ _ _ _ _ _ hSave hComplete =>
      obtain ⟨_, -, -, -, hFrame⟩ := saveSubscription_eq_ok hSave
      rw [completeCheckoutOf_frame hComplete, hFrame]
      split <;> rfl

/-- A claim that finds the event leaves it known. -/
theorem claimEvent_eq_none {event : StripeEvent} {eventRowId : Uuid} {now : Datetime}
    (h : db.claimEvent event eventRowId now = .ok none) : event.eventId ∈ db.knownEvents := by
  unfold claimEvent at h
  split at h
  · next hKnown =>
    obtain ⟨row, hRow⟩ := Option.isSome_iff_exists.mp hKnown
    exact mem_knownEvents.mpr
      ⟨row, Table.mem_of_find? hRow, by simpa using Table.prop_of_find? hRow⟩
  · simp only [bind_eq_ok, pure, Except.pure, Except.ok.injEq] at h
    obtain ⟨_, -, hDone⟩ := h
    cases hDone

/-- A claim that goes through inserts the event, which was unknown. -/
theorem claimEvent_eq_some {event : StripeEvent} {eventRowId : Uuid} {now : Datetime}
    {row : StripeWebhookEvent} (h : db.claimEvent event eventRowId now = .ok (some (db', row))) :
    event.eventId ∉ db.knownEvents ∧ row.stripeEventId = event.eventId ∧
      db.webhookEvents.insert? row = some db'.webhookEvents ∧
      db' = { db with webhookEvents := db'.webhookEvents } := by
  unfold claimEvent at h
  split at h
  · cases h
  · next hUnknown =>
    simp only [bind_eq_ok, required_eq_ok, pure, Except.pure, Except.ok.injEq,
      Option.some.injEq, Prod.mk.injEq] at h
    obtain ⟨webhookEvents, hInsert, rfl, rfl⟩ := h
    -- The lookup came first, and would have found a known event.
    refine ⟨fun hKnown => hUnknown ?_, rfl, hInsert, rfl⟩
    obtain ⟨row, hRow, hId⟩ := mem_knownEvents.mp hKnown
    rw [Option.isSome_iff_ne_none]
    intro hNone
    have := Table.find?_eq_none.mp hNone row hRow
    simp [hId] at this

/-- Marking a claimed event changes no identifier. -/
theorem knownEvents_update {row marked : StripeWebhookEvent}
    {webhookEvents : Table StripeWebhookEvent} (hRow : row ∈ db.webhookEvents)
    (hUpdate : db.webhookEvents.update? marked = some webhookEvents)
    (hId : marked.id = row.id) (hEvent : marked.stripeEventId = row.stripeEventId)
    (eventId : Str) :
    eventId ∈ knownEvents { db with webhookEvents } ↔ eventId ∈ db.knownEvents := by
  rw [mem_knownEvents, mem_knownEvents]
  -- The marked row keeps its event id, so the same events are known.
  have hMem := fun x => Table.mem_update?_iff (x := x) hUpdate hRow hId
  constructor
  · rintro ⟨x, hx, rfl⟩
    rcases (hMem x).mp hx with rfl | ⟨hx, -⟩
    · exact ⟨row, hRow, hEvent.symm⟩
    · exact ⟨x, hx, rfl⟩
  · rintro ⟨x, hx, rfl⟩
    by_cases hKey : x.id = row.id
    · have hSame : x = row := Table.eq_of_key_eq hx hRow hKey
      exact ⟨marked, (hMem marked).mpr (.inl rfl), by rw [hEvent, hSame]⟩
    · exact ⟨x, (hMem x).mpr (.inr ⟨hx, hKey⟩), rfl⟩

/-- **Claims.** A successful delivery is of an event that the database knew, and changes
nothing, or it makes an unknown event known. -/
theorem process_claims {reads : WebhookReads} {delivery : Dict} {draws : WebhookDraws}
    {now : Datetime} {result : WebhookProcessResult} {event : StripeEvent}
    (hEvent : parseStripeEvent settings delivery = .ok event)
    (h : db.process settings reads delivery draws now = .ok (db', result)) :
    (event.eventId ∈ db.knownEvents ∧ result = ⟨true, .ignored⟩ ∧ db' = db) ∨
      (event.eventId ∉ db.knownEvents ∧ result.duplicate = false ∧
        ∀ eventId, eventId ∈ db'.knownEvents ↔
          eventId = event.eventId ∨ eventId ∈ db.knownEvents) := by
  simp only [process, hEvent, bind_ok, bind_eq_ok] at h
  obtain ⟨claim, hClaim, h⟩ := h
  cases claim with
  | none =>
    simp only [pure, Except.pure, Except.ok.injEq, Prod.mk.injEq] at h
    obtain ⟨rfl, rfl⟩ := h
    exact .inl ⟨claimEvent_eq_none hClaim, rfl, rfl⟩
  | some claimed =>
    obtain ⟨db₀, row⟩ := claimed
    simp only [bind_eq_ok, required_eq_ok] at h
    obtain ⟨⟨db₁, r⟩, hHandle, events, hMark, hDone⟩ := h
    simp only [pure, Except.pure, Except.ok.injEq, Prod.mk.injEq] at hDone
    obtain ⟨rfl, rfl⟩ := hDone
    -- A first delivery: its event becomes known and nothing else does.
    obtain ⟨hUnknown, hRowId, hInsert, -⟩ := claimEvent_eq_some hClaim
    have hSame := (handleEvent_eq_ok hHandle).webhookEvents_eq
    refine .inr ⟨hUnknown, rfl, fun eventId => ?_⟩
    have hRow : row ∈ db₁.webhookEvents := by
      rw [hSame]
      exact (Table.mem_insert? hInsert).mpr (.inl rfl)
    have hMarked : db₁.webhookEvents.update? { row with result := r, processedAt := now } =
        some events := hMark
    rw [knownEvents_update hRow hMarked rfl rfl, mem_knownEvents, hSame, mem_knownEvents]
    constructor
    · rintro ⟨x, hx, rfl⟩
      rcases (Table.mem_insert? hInsert).mp hx with rfl | hx
      · exact .inl hRowId
      · exact .inr ⟨x, hx, rfl⟩
    · rintro (rfl | ⟨x, hx, rfl⟩)
      · exact ⟨row, (Table.mem_insert? hInsert).mpr (.inl rfl), hRowId⟩
      · exact ⟨x, (Table.mem_insert? hInsert).mpr (.inr hx), rfl⟩

end BillingDatabase

-- ---------------------------------------------------------------------------
-- One delivery
-- ---------------------------------------------------------------------------

/-- The claim as a transaction. -/
theorem BillingDatabase.claim_eq_ok {event : StripeEvent} {eventRowId : Uuid} {now : Datetime}
    {row? : Option StripeWebhookEvent}
    (h : db.claim event eventRowId now = .ok (db', row?)) :
    (row? = none ∧ db' = db ∧ db.claimEvent event eventRowId now = .ok none) ∨
      ∃ row, row? = some row ∧ db.claimEvent event eventRowId now = .ok (some (db', row)) := by
  unfold claim at h
  cases hClaim : db.claimEvent event eventRowId now with
  | error e => simp [hClaim, Except.map] at h
  | ok claimed =>
    cases claimed with
    | none =>
      simp only [hClaim, Except.map, Except.ok.injEq, Prod.mk.injEq] at h
      exact .inl ⟨h.2.symm, h.1.symm, rfl⟩
    | some claimed =>
      simp only [hClaim, Except.map, Except.ok.injEq, Prod.mk.injEq] at h
      obtain ⟨rfl, rfl⟩ := h
      exact .inr ⟨claimed.2, rfl, rfl⟩

/-- `process` commits nothing or, at its end, everything. -/
theorem receive_cases (settings : BillingSettings) (db : BillingDatabase) (d : WebhookDelivery) :
    (∃ e, receive settings db d = (db, .error e)) ∨
      (∃ db' result, receive settings db d = (db', .ok result) ∧
        db.process settings d.reads d.delivery d.draws d.now = .ok (db', result)) := by
  unfold receive processIn BillingDatabase.process
  cases hEvent : parseStripeEvent settings d.delivery with
  | error e => exact .inl ⟨e, rfl⟩
  | ok event =>
    dsimp only
    cases hClaim : interrupted d.failures.claim
        ((Transaction.begin db).working.claim event d.draws.eventRowId d.now) with
    | error e =>
      -- the claim raises outside the `try`: the end of the session rolls it back
      exact .inl ⟨e, rfl⟩
    | ok claimed =>
      obtain ⟨db₁, row?⟩ := claimed
      rcases BillingDatabase.claim_eq_ok (interrupted_eq_ok.mp hClaim).2 with
        ⟨rfl, -, hKnown⟩ | ⟨row, rfl, hClaimed⟩
      · refine .inr ⟨db, ⟨true, .ignored⟩, rfl, ?_⟩
        have hKnown' : db.claimEvent event d.draws.eventRowId d.now = .ok none := hKnown
        rw [bind_ok, hKnown', bind_ok]
        rfl
      have hClaimed' : db.claimEvent event d.draws.eventRowId d.now = .ok (some (db₁, row)) :=
        hClaimed
      simp only [Transaction.execute_ok]
      cases hHandle : interrupted d.failures.handling
          (db₁.handleEvent settings d.reads event d.draws.invoiceId d.now) with
      | error e => exact .inl ⟨e, rfl⟩
      | ok handled =>
        obtain ⟨db₂, result⟩ := handled
        simp only [Transaction.execute_ok]
        cases hMark : interrupted d.failures.marking (db₂.markEvent row result d.now) with
        | error e => exact .inl ⟨e, rfl⟩
        | ok marked =>
          obtain ⟨db₃, u⟩ := marked
          simp only [Transaction.execute_ok]
          cases d.failures.commit with
          | some e => exact .inl ⟨e, rfl⟩
          | none =>
            refine .inr ⟨db₃, ⟨false, result⟩, rfl, ?_⟩
            have hMarked := (interrupted_eq_ok.mp hMark).2
            simp only [BillingDatabase.markEvent, bind_eq_ok, required_eq_ok, pure, Except.pure,
              Except.ok.injEq, Prod.mk.injEq] at hMarked
            obtain ⟨webhookEvents, hUpdate, rfl, -⟩ := hMarked
            simp only [bind_ok, hClaimed', (interrupted_eq_ok.mp hHandle).2, hUpdate, required,
              pure, Except.pure]

/-- A delivery that raises leaves every row as it was. -/
theorem receive_error {e : BillingError} (h : (receive settings db d).2 = .error e) :
    (receive settings db d).1 = db := by
  rcases receive_cases settings db d with ⟨_, hEq⟩ | ⟨_, _, hEq, -⟩
  · rw [hEq]
  · rw [hEq] at h
    cases h

/-- A delivery that is answered was processed. -/
theorem receive_ok {result : WebhookProcessResult} (h : (receive settings db d).2 = .ok result) :
    db.process settings d.reads d.delivery d.draws d.now =
      .ok ((receive settings db d).1, result) := by
  rcases receive_cases settings db d with ⟨_, hEq⟩ | ⟨_, _, hEq, hProcess⟩
  · rw [hEq] at h
    cases h
  · rw [hEq] at h ⊢
    rw [hProcess, Except.ok.inj h]

/-- A delivery that succeeds carries an event. -/
theorem eventId_of_ok {result : WebhookProcessResult}
    (h : (receive settings db d).2 = .ok result) :
    ∃ event, parseStripeEvent settings d.delivery = .ok event ∧
      d.eventId settings = some event.eventId := by
  have hProcess := receive_ok h
  cases hEvent : parseStripeEvent settings d.delivery with
  | error e => simp [BillingDatabase.process, hEvent, bind_error] at hProcess
  | ok event => exact ⟨event, rfl, by simp [WebhookDelivery.eventId, hEvent, Except.toOption]⟩

-- ---------------------------------------------------------------------------
-- Lists of deliveries
-- ---------------------------------------------------------------------------

/-- The state machine of the deliveries. -/
def receiveStep (settings : BillingSettings) (db : BillingDatabase) (d : WebhookDelivery) :
    BillingDatabase := (receive settings db d).1

/-- A delivery is the first that succeeds for its event: `seen` are the events before it. -/
def IsProcessed (settings : BillingSettings) (db : BillingDatabase) (d : WebhookDelivery) : Prop :=
  ∃ result, db.process settings d.reads d.delivery d.draws d.now =
    .ok (applyEvent settings db d, result) ∧ result.duplicate = false

/-- **Run lemma.** Of a list of deliveries only the first successes are applied. -/
theorem run_receive (settings : BillingSettings) (ds : List WebhookDelivery)
    {db : BillingDatabase} {seen : List Str} (hSeen : ∀ eventId, eventId ∈ seen ↔
      eventId ∈ db.knownEvents) :
    run (receiveStep settings) db ds =
        run (applyEvent settings) db (firstSuccesses settings seen db ds) ∧
      Meets (applyEvent settings) (IsProcessed settings) db
        (firstSuccesses settings seen db ds) := by
  induction ds generalizing db seen with
  | nil => exact ⟨rfl, trivial⟩
  | cons d rest ih =>
    rw [run_cons]
    unfold firstSuccesses
    dsimp only
    cases hOutcome : (receive settings db d).2 with
    | error e =>
      have hSame : receiveStep settings db d = db := receive_error hOutcome
      have hRest := ih hSeen
      rw [hSame, receive_error hOutcome]
      split
      · next heq => cases heq
      · exact hRest
    | ok result =>
      obtain ⟨event, hEvent, hId⟩ := eventId_of_ok hOutcome
      have hProcess := receive_ok hOutcome
      rw [hId]
      dsimp only
      -- A repeat changes nothing, a first success is applied.
      rcases BillingDatabase.process_claims hEvent hProcess with
        ⟨hKnown, -, hSame⟩ | ⟨hUnknown, hFirst, hClaims⟩
      · rw [if_pos ((hSeen _).mpr hKnown), receiveStep, hSame]
        exact ih hSeen
      · rw [if_neg fun hIn => hUnknown ((hSeen _).mp hIn)]
        have hApply : applyEvent settings db d = receiveStep settings db d := by
          unfold applyEvent
          rw [hProcess]
          rfl
        have hRest := @ih (receiveStep settings db d) (event.eventId :: seen)
          fun eventId => by
            rw [List.mem_cons, hSeen]
            exact (hClaims eventId).symm
        rw [run_cons, meets_cons, hApply]
        refine ⟨hRest.1, ⟨result, ?_, hFirst⟩, hRest.2⟩
        rw [hApply]
        exact hProcess

/-- An event is known once a delivery of it succeeds, and not before. -/
theorem mem_knownEvents_run {ds : List WebhookDelivery} {eventId : Str} :
    eventId ∈ (run (receiveStep settings) db ds).knownEvents →
      eventId ∈ db.knownEvents ∨ ∃ before d after, ds = before ++ d :: after ∧
        d.eventId settings = some eventId ∧
        ∃ result, (receive settings (run (receiveStep settings) db before) d).2 = .ok result := by
  induction ds generalizing db with
  | nil => exact fun h => .inl h
  | cons d rest ih =>
    intro h
    rcases ih h with hKnown | ⟨before, d', after, rfl, hId, hOk⟩
    · cases hOutcome : (receive settings db d).2 with
      | error e =>
        rw [receiveStep, receive_error hOutcome] at hKnown
        exact .inl hKnown
      | ok result =>
        obtain ⟨event, hEvent, hId⟩ := eventId_of_ok hOutcome
        have hProcess := receive_ok hOutcome
        rcases BillingDatabase.process_claims hEvent hProcess with
          ⟨-, -, hSame⟩ | ⟨-, -, hClaims⟩
        · rw [receiveStep, hSame] at hKnown
          exact .inl hKnown
        · -- The event of this delivery, or one known before it.
          rcases (hClaims eventId).mp hKnown with rfl | hKnown
          · exact .inr ⟨[], d, rest, rfl, hId, result, hOutcome⟩
          · exact .inl hKnown
    · exact .inr ⟨d :: before, d', after, rfl, hId, hOk⟩

/-- **Exactly once.** For every list of deliveries, with duplicates and failures at any
statement: the database is the one that the first successful delivery of each event gives,
each of which is processed; a delivery that raises leaves every row as it was; and an event
all whose deliveries raised is processed by the next one that does not, and not taken for a
duplicate. -/
theorem webhook_exactly_once (settings : BillingSettings) (db : BillingDatabase)
    (ds : List WebhookDelivery) :
    (run (receiveStep settings) db ds =
        run (applyEvent settings) db (firstSuccesses settings db.knownEvents db ds) ∧
      Meets (applyEvent settings) (IsProcessed settings) db
        (firstSuccesses settings db.knownEvents db ds)) ∧
    (∀ before d after e, ds = before ++ d :: after →
      (receive settings (run (receiveStep settings) db before) d).2 = .error e →
      run (receiveStep settings) db (before ++ [d]) = run (receiveStep settings) db before) ∧
    (∀ d eventId, d.eventId settings = some eventId → eventId ∉ db.knownEvents →
      (∀ before d' after, ds = before ++ d' :: after → d'.eventId settings = some eventId →
        ∃ e, (receive settings (run (receiveStep settings) db before) d').2 = .error e) →
      ∀ result, (receive settings (run (receiveStep settings) db ds) d).2 = .ok result →
        result.duplicate = false ∧ IsProcessed settings (run (receiveStep settings) db ds) d) := by
  refine ⟨run_receive settings ds fun _ => Iff.rfl, fun before d after e hSplit hRaised => ?_,
    fun d eventId hId hUnknown hRaised result hOk => ?_⟩
  · rw [run_append]
    exact receive_error hRaised
  · obtain ⟨event, hEvent, hEventId⟩ := eventId_of_ok hOk
    obtain rfl := Option.some.inj (hId.symm.trans hEventId)
    have hProcess := receive_ok hOk
    rcases BillingDatabase.process_claims hEvent hProcess with ⟨hKnown, -, -⟩ | ⟨-, hFirst, -⟩
    · -- a known event had a delivery that succeeded
      rcases mem_knownEvents_run hKnown with hKnown | ⟨before, d', after, hSplit, hId', _, hOk'⟩
      · exact absurd hKnown hUnknown
      · obtain ⟨e, hError⟩ := hRaised before d' after hSplit hId'
        cases hOk'.symm.trans hError
    · refine ⟨hFirst, result, ?_, hFirst⟩
      unfold applyEvent
      rw [hProcess]
      rfl

end SpikeBackend
