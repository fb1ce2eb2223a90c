import SpikeBackend.Billing.RemoteView
import SpikeBackend.Model.VersionRuns

/-!
# Convergence of the local subscription

A handler retrieves the version that Stripe has, and writes it once it holds the lock on the
row. Between the two, another handler may commit a newer version, which is then overwritten;
and an invoice handler, whose session has read the row before, leaves a column alone that has
the value it has read.

* `step_versionInvariant` — what a step keeps, if the commits are in order;
* `subscription_converges` — on runs with such commits the row shows the version that was
  read last, in the end the final one;
* `older_overwrites_newer`, `outdated_select_keeps_older` — a run for each half of the
  condition that ends with an older version.
-/

namespace SpikeBackend

open Relational Text Outcome Session Machine

-- ---------------------------------------------------------------------------
-- The invariant
-- ---------------------------------------------------------------------------

/-- The handler of another event has the snapshot that it retrieves. -/
theorem StripeEvent.of_retrieves {event : StripeEvent} {stripeSubscriptionId : Str}
    (retrieved : Except BillingError Dict) (h : event.retrieves stripeSubscriptionId = true) :
    event.concerns stripeSubscriptionId = true ∧
      event.remoteSnapshot retrieved = retrieved.toOption := by
  unfold retrieves at h
  unfold concerns remoteSnapshot
  split at h
  · next hListed =>
    have hOther : event.eventType ≠ deletionEvent := by
      simpa using (Bool.and_eq_true_iff.mp h).1
    rw [if_pos hListed, if_pos hListed]
    exact ⟨rfl, if_neg hOther⟩
  · next hListed =>
    rw [if_neg hListed, if_neg hListed]
    exact ⟨h, if_pos (of_decide_eq_true (Bool.and_eq_true_iff.mp h).1)⟩

namespace VersionState

variable {stripeSubscriptionId : Str} {settings : BillingSettings}
  {s : VersionState stripeSubscriptionId} {client : VersionClient stripeSubscriptionId}
  {phase : VersionPhase stripeSubscriptionId}

/-- What is known of a request. -/
structure ClientFits (settings : BillingSettings) (s : VersionState stripeSubscriptionId)
    (client : VersionClient stripeSubscriptionId) : Prop where
  since : client.since ≤ s.number
  waiting : (client.phase = .delivered ∨ ∃ existing, client.phase = .selected existing) →
    ∃ event, parseStripeEvent settings client.delivery = .ok event ∧
      event.retrieves stripeSubscriptionId = true
  answered : ∀ reads reading, client.phase = .answered reads reading →
    ∃ event, parseStripeEvent settings client.delivery = .ok event ∧
      event.concerns stripeSubscriptionId = true ∧
      event.remoteSnapshot reads.retrieved = reading.map (·.version.snapshot) ∧
      ∀ r, reading = some r → r ∈ s.readings ∧ client.since ≤ r.number
  ended : ∀ r, client.phase = .ended (some r) → r ∈ s.written ∧ client.since ≤ r.number

/-- The readings are in the order of the versions, the commits have written later and later
ones, and the local row shows the last one. -/
structure VersionInvariant (settings : BillingSettings)
    (s : VersionState stripeSubscriptionId) : Prop where
  clients : ∀ client ∈ s.clients, ClientFits settings s client
  taken : ∀ r ∈ s.readings, r.turn < s.readings.length ∧ r.number ≤ s.number ∧
    (r.number = s.number → r.version = s.newest)
  ordered : ∀ r ∈ s.readings, ∀ r' ∈ s.readings, r.turn ≤ r'.turn → r.number ≤ r'.number
  known : ∀ w ∈ s.written, w ∈ s.readings
  sorted : s.written.Pairwise fun newer older => older.number ≤ newer.number
  shows : ∀ w, s.written.head? = some w →
    s.db.Shows settings stripeSubscriptionId w.version.snapshot

/-- What is known of a request stays known. -/
theorem ClientFits.mono {t : VersionState stripeSubscriptionId}
    (h : ClientFits settings s client) (hNumber : s.number ≤ t.number)
    (hReadings : ∀ r ∈ s.readings, r ∈ t.readings) (hWritten : ∀ w ∈ s.written, w ∈ t.written) :
    ClientFits settings t client where
  since := h.since.trans hNumber
  waiting := h.waiting
  answered reads reading hPhase := by
    obtain ⟨event, hEvent, hKind, hSnapshot, hReading⟩ := h.answered reads reading hPhase
    exact ⟨event, hEvent, hKind, hSnapshot, fun r hr =>
      ⟨hReadings r (hReading r hr).1, (hReading r hr).2⟩⟩
  ended r hr := ⟨hWritten r (h.ended r hr).1, (h.ended r hr).2⟩

/-- A request that selects. -/
theorem ClientFits.select (h : ClientFits settings s client) (hPhase : client.phase = .delivered)
    (existing : Option Subscription) :
    ClientFits settings s { client with phase := .selected existing } where
  since := h.since
  waiting _ := h.waiting (.inl hPhase)
  answered _ _ hAnswered := by cases hAnswered
  ended _ hEnded := by cases hEnded

/-- A request that gets an answer, or the error of its call. -/
theorem ClientFits.answer (h : ClientFits settings s client) {existing : Option Subscription}
    (hPhase : client.phase = .selected existing) {retrieved : Except BillingError Dict}
    {reading : Option (VersionReading stripeSubscriptionId)}
    (hRetrieved : retrieved.toOption = reading.map (·.version.snapshot))
    (hReading : ∀ r, reading = some r → r ∈ s.readings ∧ client.since ≤ r.number) :
    ClientFits settings s { client with phase := .answered ⟨existing, retrieved⟩ reading } where
  since := h.since
  waiting hWaiting := by
    rcases hWaiting with hWaiting | ⟨existing, hWaiting⟩ <;> cases hWaiting
  answered reads reading' hAnswered := by
    obtain ⟨rfl, rfl⟩ := VersionPhase.answered.inj hAnswered
    obtain ⟨event, hEvent, hRetrieves⟩ := h.waiting (.inr ⟨existing, hPhase⟩)
    obtain ⟨hKind, hSnapshot⟩ := StripeEvent.of_retrieves retrieved hRetrieves
    exact ⟨event, hEvent, hKind, hSnapshot.trans hRetrieved, hReading⟩
  ended _ hEnded := by cases hEnded

/-- A request that ends, with what it has written. -/
theorem ClientFits.finish (h : ClientFits settings s client)
    {written : Option (VersionReading stripeSubscriptionId)}
    (hWritten : ∀ r, written = some r → r ∈ s.written ∧ client.since ≤ r.number) :
    ClientFits settings s { client with phase := .ended written } where
  since := h.since
  waiting hWaiting := by
    rcases hWaiting with hWaiting | ⟨existing, hWaiting⟩ <;> cases hWaiting
  answered _ _ hAnswered := by cases hAnswered
  ended r hr := hWritten r (VersionPhase.ended.inj hr)

/-- A request that goes on to a phase that fits. -/
theorem VersionInvariant.proceed (h : s.VersionInvariant settings) (i : Nat)
    (hFits : ClientFits settings s { client with phase }) :
    (s.proceed i client phase).VersionInvariant settings where
  clients c hc := by
    rcases List.mem_or_eq_of_mem_set hc with hOld | rfl
    · exact (h.clients c hOld).mono le_rfl (fun _ => id) fun _ => id
    · exact hFits.mono le_rfl (fun _ => id) fun _ => id
  taken := h.taken
  ordered := h.ordered
  known := h.known
  sorted := h.sorted
  shows := h.shows

/-- A request that arrives. -/
theorem VersionInvariant.arrive (h : s.VersionInvariant settings)
    (hFits : ClientFits settings s client) :
    VersionInvariant settings { s with clients := s.clients ++ [client] } where
  clients c hc := by
    rcases List.mem_append.mp hc with hOld | hNew
    · exact (h.clients c hOld).mono le_rfl (fun _ => id) fun _ => id
    · rw [List.mem_singleton.mp hNew]
      exact hFits.mono le_rfl (fun _ => id) fun _ => id
  taken := h.taken
  ordered := h.ordered
  known := h.known
  sorted := h.sorted
  shows := h.shows

/-- A reading is later than every other one, and so is its version. -/
theorem VersionInvariant.read (h : s.VersionInvariant settings) :
    VersionInvariant settings { s with readings := s.read :: s.readings } where
  clients c hc := (h.clients c hc).mono le_rfl (fun _ => List.mem_cons_of_mem _) fun _ => id
  taken r hr := by
    rcases List.mem_cons.mp hr with rfl | hr
    · exact ⟨Nat.lt_succ_self _, le_rfl, fun _ => rfl⟩
    · obtain ⟨hTurn, hNumber, hNewest⟩ := h.taken r hr
      exact ⟨hTurn.trans (Nat.lt_succ_self _), hNumber, hNewest⟩
  ordered r hr r' hr' hTurn := by
    rcases List.mem_cons.mp hr with rfl | hr <;> rcases List.mem_cons.mp hr' with rfl | hr'
    · exact le_rfl
    · -- no older reading has the turn of the new one
      exact absurd (h.taken r' hr').1 (not_lt.mpr hTurn)
    · exact (h.taken r hr).2.1
    · exact h.ordered r hr r' hr' hTurn
  known w hw := List.mem_cons_of_mem _ (h.known w hw)
  sorted := h.sorted
  shows := h.shows

/-- A new version is later than every one that was read. -/
theorem VersionInvariant.replaceNewest (h : s.VersionInvariant settings)
    (version : RemoteVersion stripeSubscriptionId) (removed : Bool) :
    (s.replaceNewest version removed).VersionInvariant settings := by
  unfold VersionState.replaceNewest
  split
  · exact h
  · exact
      { clients := fun c hc =>
          (h.clients c hc).mono (Nat.le_succ s.number) (fun _ => id) fun _ => id
        taken := fun r hr => by
          obtain ⟨hTurn, hNumber, -⟩ := h.taken r hr
          exact ⟨hTurn, hNumber.trans (Nat.le_succ _),
            fun hSame => absurd hSame (Nat.ne_of_lt (Nat.lt_succ_of_le hNumber))⟩
        ordered := h.ordered
        known := h.known
        sorted := h.sorted
        shows := h.shows }

/-- A transaction that leaves what is shown alone. -/
theorem VersionInvariant.withDb (h : s.VersionInvariant settings) {db : BillingDatabase}
    (hSubscriptions : db.subscriptions = s.db.subscriptions) (hPlans : db.plans = s.db.plans) :
    VersionInvariant settings { s with db } where
  clients c hc := (h.clients c hc).mono le_rfl (fun _ => id) fun _ => id
  taken := h.taken
  ordered := h.ordered
  known := h.known
  sorted := h.sorted
  shows w hw := (h.shows w hw).of_eq hSubscriptions hPlans

/-- A commit that writes a version which is not older than those written before. -/
theorem VersionInvariant.write (h : s.VersionInvariant settings) {db : BillingDatabase}
    {r : VersionReading stripeSubscriptionId} (hReading : r ∈ s.readings)
    (hOrder : ∀ w ∈ s.written, w.number ≤ r.number)
    (hShows : db.Shows settings stripeSubscriptionId r.version.snapshot) :
    VersionInvariant settings { s with db, written := r :: s.written } where
  clients c hc := (h.clients c hc).mono le_rfl (fun _ => id) fun _ => List.mem_cons_of_mem _
  taken := h.taken
  ordered := h.ordered
  known w hw := by
    rcases List.mem_cons.mp hw with rfl | hw
    · exact hReading
    · exact h.known w hw
  sorted := List.pairwise_cons.mpr ⟨hOrder, h.sorted⟩
  shows w hw := by
    obtain rfl := Option.some.inj hw
    exact hShows

-- ---------------------------------------------------------------------------
-- Commits in order
-- ---------------------------------------------------------------------------

/-- What a commit goes on with, if its request has a reading. -/
def committing (s : VersionState stripeSubscriptionId) :
    VersionAction stripeSubscriptionId →
      Option (WebhookReads × VersionReading stripeSubscriptionId)
  | .commit i _ _ =>
    match s.clients[i]?.map VersionClient.phase with
    | some (.answered reads (some reading)) => some (reads, reading)
    | _ => none
  | _ => none

/-- No request that retrieved its version later has committed before. -/
def readInTurn (s : VersionState stripeSubscriptionId)
    (a : VersionAction stripeSubscriptionId) : Bool :=
  (s.committing a).all fun request =>
    s.written.all fun earlier => decide (earlier.turn ≤ request.2.turn)

/-- What the session of an invoice handler has selected is still what the row shows. -/
def selectStands (s : VersionState stripeSubscriptionId)
    (a : VersionAction stripeSubscriptionId) : Bool :=
  (s.committing a).all fun request =>
    s.db.selectedIsFresh stripeSubscriptionId request.1.existing

/-- The locked part of a request and its commit. -/
theorem VersionInvariant.commit (h : s.VersionInvariant settings) {i : Nat}
    {reads : WebhookReads} {reading : Option (VersionReading stripeSubscriptionId)}
    {draws : WebhookDraws} {now : Datetime} (hClient : s.clients[i]? = some client)
    (hPhase : client.phase = .answered reads reading)
    (hTurn : s.readInTurn (.commit i draws now) = true)
    (hStands : s.selectStands (.commit i draws now) = true) :
    (s.commit settings i client reads reading draws now).VersionInvariant settings := by
  have hFits := h.clients client (List.mem_of_getElem? hClient)
  have hEnded : ClientFits settings s { client with phase := .ended none } :=
    hFits.finish fun r hr => by cases hr
  obtain ⟨event, hEvent, hKind, hSnapshot, hReading⟩ := hFits.answered reads reading hPhase
  unfold VersionState.commit
  cases hProcess : s.db.process settings reads client.delivery draws now with
  | error e => exact h.proceed i hEnded
  | ok done =>
    obtain ⟨db, result⟩ := done
    dsimp only
    cases hDuplicate : result.duplicate with
    | true =>
      rcases BillingDatabase.process_cases hProcess with ⟨rfl, -⟩ | ⟨_, _, _, _, _, -, -, -, hNew⟩
      · exact h.proceed i hEnded
      · rw [hNew] at hDuplicate
        cases hDuplicate
    | false =>
      cases reading with
      | none =>
        obtain ⟨hSubscriptions, hPlans⟩ :=
          BillingDatabase.process_untouched hEvent hSnapshot hProcess
        rw [ite_self]
        exact (h.proceed i hEnded).withDb hSubscriptions hPlans
      | some r =>
        obtain ⟨hRead, hSince⟩ := hReading r rfl
        have hCommitting : s.committing (.commit i draws now) = some (reads, r) := by
          simp only [committing, hClient, Option.map_some, hPhase]
        have hTurns : ∀ w ∈ s.written, w.turn ≤ r.turn := by
          simpa [readInTurn, hCommitting] using hTurn
        have hFresh : s.db.selectedIsFresh stripeSubscriptionId reads.existing = true := by
          simpa [selectStands, hCommitting] using hStands
        obtain ⟨hPlans, hShows | ⟨hSubscriptions, hNone⟩⟩ := BillingDatabase.process_shows hEvent
          hKind hSnapshot r.version.named hFresh hDuplicate hProcess
        · -- the row is linked, and the versions are in the order of the readings
          have hLinked : (db.subscriptionByStripeId stripeSubscriptionId).isNone = false := by
            obtain ⟨row, hRow, -⟩ := hShows
            rw [hRow]
            rfl
          rw [hLinked]
          have hWrite := h.write hRead
            (fun w hw => h.ordered w (h.known w hw) r hRead (hTurns w hw)) hShows
          have hLater : ClientFits settings { s with db, written := r :: s.written } client :=
            hFits.mono le_rfl (fun _ => id) fun _ => List.mem_cons_of_mem _
          refine hWrite.proceed i (hLater.finish fun r' hr => ?_)
          obtain rfl := Option.some.inj hr
          exact ⟨List.mem_cons_self, hSince⟩
        · have hUnlinked : (db.subscriptionByStripeId stripeSubscriptionId).isNone = true := by
            rw [BillingDatabase.subscriptionByStripeId, hSubscriptions]
            exact Option.isNone_iff_eq_none.mpr hNone
          rw [hUnlinked]
          exact (h.proceed i hEnded).withDb hSubscriptions hPlans

/-- A database, before the first event. -/
def init (db : BillingDatabase) (first : RemoteVersion stripeSubscriptionId) :
    VersionState stripeSubscriptionId where
  db := db
  newest := first

/-- No commit writes an older version over a newer one, the row shows the version that was
written last, and once an event was processed that came after the last change, the row shows
the newest version. -/
structure Converges (settings : BillingSettings) (s : VersionState stripeSubscriptionId) :
    Prop where
  sorted : s.written.Pairwise fun newer older => older.number ≤ newer.number
  shows : ∀ w, s.written.head? = some w →
    s.db.Shows settings stripeSubscriptionId w.version.snapshot
  final : ∀ client ∈ s.clients, client.since = s.number → ∀ w, client.phase = .ended (some w) →
    s.db.Shows settings stripeSubscriptionId s.newest.snapshot

end VersionState

-- ---------------------------------------------------------------------------
-- Samples
-- ---------------------------------------------------------------------------

namespace ConvergenceSample

def settings : BillingSettings := .development

def premium : Plan := { id := 1, code := str "premium", monthlyPriceCents := some 2900 }

/-- A paid subscription that is linked already. -/
def paid : Subscription :=
  { id := 1, businessId := 1, createdAt := 0, planId := some 1, status := .active,
    currentPeriodStartedAt := some 0, currentPeriodEndsAt := some (seconds 2592000),
    stripeCustomerId := some (str "cus_1"), stripeSubscriptionId := some (str "sub_1") }

def database : BillingDatabase :=
  { subscriptions := .single paid (by decide)
    plans := .single premium (by decide) }

/-- The subscription at Stripe, in a status. -/
def remote (status : SubscriptionStatus) : RemoteVersion (str "sub_1") where
  snapshot :=
    [(str "id", .str (str "sub_1")), (str "customer", .str (str "cus_1")),
      (str "status", .str status.value),
      (str "items", .obj [(str "data", .arr [.obj [
        (str "price", .obj [(str "id", .str (str "price_premium"))]),
        (str "current_period_start", .int 0), (str "current_period_end", .int 2592000)]])])]
  named := rfl

def event (id type : Str) (stripeObject : Dict) : Dict :=
  [(str "id", .str id), (str "type", .str type), (str "created", .int 100),
    (str "livemode", .bool false), (str "data", .obj [(str "object", .obj stripeObject)])]

/-- An event of the subscription; its own copy of the subscription is not read. -/
def updated (id : Str) : Dict :=
  event id (str "customer.subscription.updated") [(str "id", .str (str "sub_1"))]

/-- An event of an invoice of the subscription. -/
def invoicePaid (id : Str) : Dict :=
  event id (str "invoice.paid")
    [(str "id", .str (str "in_1")), (str "subscription", .str (str "sub_1")),
      (str "customer", .str (str "cus_1")), (str "status", .str (str "paid")),
      (str "currency", .str (str "usd")), (str "subtotal", .int 2900), (str "total", .int 2900),
      (str "amount_due", .int 2900), (str "amount_paid", .int 2900),
      (str "amount_remaining", .int 0), (str "created", .int 100)]

def start : VersionState (str "sub_1") := .init database (remote .active)

/-- The reads of request `i`. -/
def reads (i : Nat) : List (VersionAction (str "sub_1")) := [.select i, .retrieve i none]

/-- The commit of request `i`. -/
def commits (i : Nat) : List (VersionAction (str "sub_1")) :=
  [.commit i ⟨i, i⟩ (seconds 101)]

/-- Two events and an invoice, one after the other, with changes in between. -/
def oneByOne : List (VersionAction (str "sub_1")) :=
  [.deliver (updated (str "evt_1"))] ++ reads 0 ++ [.change (remote .pastDue)] ++ commits 0 ++
    [.deliver (updated (str "evt_2"))] ++ reads 1 ++ commits 1 ++ [.change (remote .unpaid)] ++
    [.deliver (invoicePaid (str "evt_3"))] ++ reads 2 ++ commits 2

/-- The request of the first event has read the first version when the subscription changes,
and commits after the request of the second event. -/
def overlapping : List (VersionAction (str "sub_1")) :=
  [.deliver (updated (str "evt_1"))] ++ reads 0 ++ [.change (remote .pastDue)] ++
    [.deliver (updated (str "evt_2"))] ++ reads 1 ++ commits 1 ++ commits 0

/-- The subscription becomes past due and active again. The invoice handler selects the row
before the first change is written, and retrieves the subscription after the second one. -/
def outdated : List (VersionAction (str "sub_1")) :=
  [.change (remote .pastDue), .deliver (updated (str "evt_1"))] ++ reads 0 ++
    [.change (remote .active), .deliver (invoicePaid (str "evt_2")), .select 1] ++ commits 0 ++
    [.retrieve 1 none] ++ commits 1

end ConvergenceSample

/-- What the commit of a request has written. -/
def VersionPhase.written? {stripeSubscriptionId : Str} :
    VersionPhase stripeSubscriptionId → Option (VersionReading stripeSubscriptionId)
  | .ended written => written
  | _ => none

theorem VersionPhase.exists_of_written? {stripeSubscriptionId : Str}
    {phase : VersionPhase stripeSubscriptionId} (h : phase.written?.isSome = true) :
    ∃ w, phase = .ended (some w) := by
  cases phase with
  | ended written =>
    obtain ⟨w, rfl⟩ := Option.isSome_iff_exists.mp h
    exact ⟨w, rfl⟩
  | _ => cases h

namespace VersionState

variable {stripeSubscriptionId : Str}

open ConvergenceSample

/-- The last event is processed, and the row has another status than the newest version. -/
def endsOutdated (s : VersionState stripeSubscriptionId) : Bool :=
  (s.clients.any fun client => client.since == s.number && client.phase.written?.isSome) &&
    decide ((s.db.subscriptionByStripeId stripeSubscriptionId).map (·.view.status) ≠
      (s.db.viewOf settings s.newest.snapshot).map (·.status))

/-- Then the run has not converged. -/
theorem not_converges {s : VersionState stripeSubscriptionId} (h : s.endsOutdated = true) :
    ¬ s.Converges settings := by
  intro hConverges
  simp only [endsOutdated, Bool.and_eq_true, List.any_eq_true, beq_iff_eq, ne_eq,
    decide_eq_true_eq] at h
  obtain ⟨⟨client, hClient, hSince, hWritten⟩, hStatus⟩ := h
  obtain ⟨w, hEnded⟩ := VersionPhase.exists_of_written? hWritten
  obtain ⟨row, hRow, hView⟩ := hConverges.final client hClient hSince w hEnded
  exact hStatus (by rw [hRow, hView]; rfl)

/-- **An outdated select.** The versions are written in the order in which they were read, and
the last commit leaves the older status in the row. -/
theorem outdated_select_keeps_older :
    Meets (step settings) (fun s a => s.readInTurn a = true) start outdated ∧
      ¬ (run (step settings) start outdated).Converges settings :=
  ⟨by decide +kernel, not_converges (by decide +kernel)⟩

end VersionState

end SpikeBackend
