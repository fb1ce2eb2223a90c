import SpikeBackend.Accounts.Deletion
import SpikeBackend.Billing.OutboundKeys
import SpikeBackend.Model.ClosureRuns

/-!
# Checkouts of deleted owners

The deletion of an account and the creation of a checkout lock the row of the owner first,
and a deletion goes through only when nothing of the business is pending, open or current.
A creation decides on the instance of its session, however, which may be older than the
lock; and the answer of Stripe, which locks its attempt alone, opens the attempt again
whatever became of it meanwhile, also while a deletion hashes a password.

* `Elsewhere` — what the transactions of a creation leave of the other businesses;
* `Scoped` — what holds on every run: deleted owners have nothing open, and a deletion whose
  checks are done still finds what it has read;
* `no_checkout_for_deleted_owner` — deleted owners have nothing open on every run whose
  creations and answers still find their owner;
* `checkout_after_deletion`, `answer_during_deletion` — a creation that was authenticated
  before the deletion, and an answer between its checks and its commit.
-/

namespace SpikeBackend

open Relational Text Outcome Session Machine Locking

namespace PlatformDatabase

/-- Nothing of the business is pending or open, and no subscription of it is current. -/
def NothingOpen (db : BillingDatabase) (businessId : Uuid) : Prop :=
  (∀ c ∈ db.checkouts, c.businessId = businessId → c.status.isUnfinished = false) ∧
    ∀ s ∈ db.subscriptions, s.businessId = businessId → s.status.isCurrent = false

/-- The businesses of deleted owners have nothing open. -/
def DeletedOwnersClosed (db : PlatformDatabase) : Prop :=
  ∀ u ∈ db.users, u.deletedAt ≠ none → ∀ b ∈ db.businesses, b.ownerUserId = u.id →
    NothingOpen db.toBillingDatabase b.id

instance decidableNothingOpen (db : BillingDatabase) (businessId : Uuid) :
    Decidable (NothingOpen db businessId) :=
  inferInstanceAs (Decidable ((∀ c ∈ db.checkouts, c.businessId = businessId →
    c.status.isUnfinished = false) ∧
      ∀ s ∈ db.subscriptions, s.businessId = businessId → s.status.isCurrent = false))

instance decidableDeletedOwnersClosed (db : PlatformDatabase) :
    Decidable db.DeletedOwnersClosed :=
  inferInstanceAs (Decidable (∀ u ∈ db.users, u.deletedAt ≠ none → ∀ b ∈ db.businesses,
    b.ownerUserId = u.id → NothingOpen db.toBillingDatabase b.id))

/-- The owner of the business is not deleted. -/
def OwnerStays (db : PlatformDatabase) (businessId : Uuid) : Prop :=
  ∀ u ∈ db.users, u.deletedAt ≠ none → ∀ b ∈ db.businesses, b.ownerUserId = u.id →
    b.id ≠ businessId

variable {db db' : PlatformDatabase} {billing : BillingDatabase} {scope : Uuid}
  {written : Uuid → Prop}

/-- What a transaction leaves of the businesses that it does not write to: no row of them is
added, opened or becomes current. -/
structure Elsewhere (db db' : BillingDatabase) (written : Uuid → Prop) : Prop where
  users : db'.users = db.users
  businesses : db'.businesses = db.businesses
  checkouts : ∀ c' ∈ db'.checkouts, ¬written c'.businessId → c'.status.isUnfinished = true →
    ∃ c ∈ db.checkouts, c.businessId = c'.businessId ∧ c.status.isUnfinished = true
  subscriptions : ∀ s ∈ db'.subscriptions, ¬written s.businessId → s ∈ db.subscriptions

/-- A transaction for businesses whose owners are not deleted. -/
theorem closed_of_elsewhere (h : db.DeletedOwnersClosed)
    (hStays : ∀ id, written id → db.OwnerStays id)
    (hElse : Elsewhere db.toBillingDatabase billing written) :
    DeletedOwnersClosed { db with toBillingDatabase := billing } := by
  intro u hu hDeleted b hb hOwner
  have hu : u ∈ db.users := hElse.users ▸ hu
  have hb : b ∈ db.businesses := hElse.businesses ▸ hb
  -- Rows are written of businesses whose owner stays, so not of this one.
  have hOther : ¬written b.id := fun hWritten => hStays b.id hWritten u hu hDeleted b hb hOwner rfl
  obtain ⟨hCheckouts, hSubscriptions⟩ := h u hu hDeleted b hb hOwner
  refine ⟨fun c' hc' hBusiness => ?_, fun s hs hBusiness => ?_⟩
  · by_contra hOpen
    obtain ⟨c, hc, hSame, hUnfinished⟩ :=
      hElse.checkouts c' hc' (hBusiness ▸ hOther) (Bool.not_eq_false _ ▸ hOpen)
    rw [hCheckouts c hc (hSame.trans hBusiness)] at hUnfinished
    cases hUnfinished
  · exact hSubscriptions s (hElse.subscriptions s hs (hBusiness ▸ hOther)) hBusiness

/-- The same of an owner who is about to be deleted. -/
theorem ready_of_elsewhere {checked : CheckedDeletion}
    (h : ReadyToClose db.toBillingDatabase checked)
    (hApart : ∀ id, written id → ∀ b ∈ db.businesses, b.ownerUserId = checked.user.id → b.id ≠ id)
    (hElse : Elsewhere db.toBillingDatabase billing written) : ReadyToClose billing checked := by
  intro b hb hOwner
  rw [hElse.businesses] at hb
  -- Nobody writes rows of an owner whose deletion has been checked.
  have hOther : ¬written b.id := fun hWritten => hApart b.id hWritten b hb hOwner rfl
  obtain ⟨hCheckouts, hSubscriptions⟩ := h b hb hOwner
  refine ⟨fun c' hc' hBusiness => ?_, fun s hs hBusiness hCurrent => ?_⟩
  · by_contra hOpen
    obtain ⟨c, hc, hSame, hUnfinished⟩ :=
      hElse.checkouts c' hc' (hBusiness ▸ hOther) (Bool.not_eq_false _ ▸ hOpen)
    rw [hCheckouts c hc (hSame.trans hBusiness)] at hUnfinished
    cases hUnfinished
  · exact hSubscriptions s (hElse.subscriptions s hs (hBusiness ▸ hOther)) hBusiness hCurrent

/-- The owner of a business that still has something open is not deleted. -/
theorem stays_of_open {c : BillingCheckoutSession} (h : db.DeletedOwnersClosed)
    (hc : c ∈ db.checkouts) (hScope : c.businessId = scope)
    (hOpen : c.status.isUnfinished = true) : db.OwnerStays scope := by
  intro u hu hDeleted b hb hOwner hSame
  have hClosed := (h u hu hDeleted b hb hOwner).1 c hc (hScope.trans hSame.symm)
  rw [hOpen] at hClosed
  cases hClosed

/-- The owner of the business, who is not deleted, is its only one. -/
theorem stays_of_owner {b : Business} (hb : b ∈ db.businesses) (hScope : b.id = scope)
    (hOwner : ∀ u ∈ db.users.get? b.ownerUserId, u.deletedAt = none) : db.OwnerStays scope := by
  intro u hu hDeleted b' hb' hOwner' hSame
  have hEq : b' = b := Table.eq_of_key_eq hb' hb (hSame.trans hScope.symm)
  rw [hEq] at hOwner'
  exact hDeleted (hOwner u (Table.get?_eq_some.mpr ⟨hu, hOwner'.symm⟩))

-- ---------------------------------------------------------------------------
-- Creations
-- ---------------------------------------------------------------------------

/-- The expiry of stale attempts opens none. -/
theorem unfinished_of_expireStale {t : Table BillingCheckoutSession} {now : Datetime}
    {c' : BillingCheckoutSession} (hc' : c' ∈ expireStale t scope now)
    (hOpen : c'.status.isUnfinished = true) : c' ∈ t := by
  obtain ⟨c, hc, hEq⟩ := mem_expireStale.mp hc'
  split at hEq
  · rw [← hEq] at hOpen
    cases hOpen
  · rw [← hEq]
    exact hc

/-- A preparation writes rows of its own scope only. -/
theorem elsewhere_of_prepares {db db' : BillingDatabase} {settings : BillingSettings} {plan : Plan}
    {digest : Str} {now : Datetime} {draws : CheckoutDraws} {attempt : PreparedAttempt}
    (h : db.Prepares settings scope plan digest now draws db' attempt) :
    Elsewhere db db' (· = scope) := by
  obtain ⟨⟨hScope, hSubscribed⟩, hFrame⟩ := h.subscribed
  refine ⟨by rw [hFrame], by rw [hFrame], ?_, ?_⟩
  · intro c' hc' hOther hOpen
    cases h with
    | found => exact ⟨c', unfinished_of_expireStale hc' hOpen, rfl, hOpen⟩
    | inserted _ _ _ _ hNew hInsert =>
      rcases (Table.mem_insert? hInsert).mp hc' with rfl | hOld
      · rw [hNew] at hOther
        exact absurd rfl hOther
      · exact ⟨c', unfinished_of_expireStale hOld hOpen, rfl, hOpen⟩
    | duplicate => exact ⟨c', hc', rfl, hOpen⟩
  · intro s hs hOther
    -- The subscription of the scope is there, or it is inserted.
    rcases hSubscribed with ⟨hSame, -⟩ | ⟨hInsert, -⟩
    · rw [hSame] at hs
      exact hs
    · rcases (Table.mem_insert? hInsert).mp hs with rfl | hOld
      · exact absurd hScope hOther
      · exact hOld

/-- One attempt of the business is rewritten. -/
theorem elsewhere_of_update? {db db' : BillingDatabase} {row row' : BillingCheckoutSession}
    (hScope : row.businessId = scope) (hSame : row'.businessId = row.businessId)
    (hUpdate : db.checkouts.update? row' = some db'.checkouts)
    (hFrame : db' = { db with checkouts := db'.checkouts }) : Elsewhere db db' (· = scope) := by
  refine ⟨by rw [hFrame], by rw [hFrame], ?_, ?_⟩
  · intro c' hc' hOther hOpen
    rcases (Table.mem_update? hUpdate).mp hc' with ⟨rfl, -⟩ | ⟨hOld, -⟩
    · exact absurd (hSame.trans hScope) hOther
    · exact ⟨c', hOld, rfl, hOpen⟩
  · intro s hs _
    rw [hFrame] at hs
    exact hs

/-- An attempt that Stripe refused is expired, which opens nothing. -/
theorem elsewhere_of_expireRejected {db db' : BillingDatabase} {checkout : BillingCheckoutSession}
    {now : Datetime} {u : Unit}
    (h : db.expireRejectedAttempt scope checkout now = .ok (db', u)) :
    Elsewhere db db' fun _ => False := by
  rcases BillingDatabase.expireRejectedAttempt_eq_ok h with
    rfl | ⟨row, hRow, hScope, -, hUpdate, hPending, hFrame⟩
  · exact ⟨rfl, rfl, fun c hc _ hOpen => ⟨c, hc, rfl, hOpen⟩, fun s hs _ => hs⟩
  · refine ⟨by rw [hFrame], by rw [hFrame], fun c' hc' _ hOpen => ?_, fun s hs _ => ?_⟩
    · rcases (Table.mem_update? hUpdate).mp hc' with ⟨rfl, -⟩ | ⟨hOld, -⟩
      · -- the instance is pending, so the flush writes the new status
        have hExpired : column checkout.status BillingCheckoutStatus.expired row.status =
            .expired := by
          rw [hPending]
          exact column_of_ne (by decide)
        have hStatus : (column checkout.status BillingCheckoutStatus.expired
            row.status).isUnfinished = true := hOpen
        rw [hExpired] at hStatus
        cases hStatus
      · exact ⟨c', hOld, rfl, hOpen⟩
    · rw [hFrame] at hs
      exact hs

-- ---------------------------------------------------------------------------
-- Deletions
-- ---------------------------------------------------------------------------

/-- **Commit of a deletion.** What it has read of its business is still so. -/
theorem commitDeletion_closed {checked : CheckedDeletion} {nonce newHash : Str}
    (h : db.DeletedOwnersClosed) (hReady : ReadyToClose db.toBillingDatabase checked)
    (hCommit : db.commitDeletion checked nonce newHash = .ok db') : db'.DeletedOwnersClosed := by
  have hWrites := commitDeletion_eq_ok hCommit
  obtain ⟨row, hRow, hRowId, hUpdate⟩ := hWrites.account
  intro u hu hDeleted b hb hOwner
  rw [hWrites.businesses] at hb
  unfold NothingOpen
  rw [hWrites.checkouts]
  rcases (Table.mem_update? hUpdate).mp hu with ⟨rfl, -⟩ | ⟨hOld, -⟩
  · -- the account of the request
    obtain ⟨hCheckouts, hCurrent⟩ := hReady b hb (hOwner.trans hRowId)
    refine ⟨hCheckouts, fun s hs hScope => ?_⟩
    by_contra hOpen
    rw [Bool.not_eq_false] at hOpen
    obtain ⟨hs, hOther⟩ := hWrites.subscriptions s hs hOpen
    exact hOther (hCurrent s hs hScope hOpen)
  · -- an account that was deleted before
    obtain ⟨hCheckouts, hSubscriptions⟩ := h u hOld hDeleted b hb hOwner
    refine ⟨hCheckouts, fun s hs hScope => ?_⟩
    by_contra hOpen
    rw [Bool.not_eq_false] at hOpen
    obtain ⟨hs, -⟩ := hWrites.subscriptions s hs hOpen
    rw [hSubscriptions s hs hScope] at hOpen
    cases hOpen

/-- The commit of one deletion leaves what another one has read. -/
theorem ready_of_commitDeletion {checked other : CheckedDeletion} {nonce newHash : Str}
    (h : ReadyToClose db.toBillingDatabase other)
    (hCommit : db.commitDeletion checked nonce newHash = .ok db') :
    ReadyToClose db'.toBillingDatabase other := by
  have hWrites := commitDeletion_eq_ok hCommit
  intro b hb hOwner
  rw [hWrites.businesses] at hb
  rw [hWrites.checkouts]
  obtain ⟨hCheckouts, hCurrent⟩ := h b hb hOwner
  refine ⟨hCheckouts, fun s hs hScope hOpen => ?_⟩
  exact hCurrent s (hWrites.subscriptions s hs hOpen).1 hScope hOpen

/-- A tenant context is that of the owner. -/
theorem tenantScope_eq_some {user : User} (h : db.tenantScope user = some scope) :
    ∃ b ∈ db.businesses, b.id = scope ∧ b.ownerUserId = user.id := by
  simp only [tenantScope, Option.bind_eq_bind, Option.bind_eq_some_iff, Option.guard_eq_some',
    pure, Option.some.injEq] at h
  obtain ⟨-, -, assignment, -, business, hBusiness, -, hOwner, rfl⟩ := h
  exact ⟨business, (Table.get?_eq_some.mp hBusiness).1, rfl, hOwner⟩

end PlatformDatabase

namespace ClosurePhase

/-- The business that the request is still about to write to. -/
def scope? : ClosurePhase → Option Uuid
  | .creating scope .. | .calling scope .. => some scope
  | .deleting .. | .deletionChecked .. | .ended => none

/-- The request is a creation before its transaction. -/
def creates : ClosurePhase → Bool
  | .creating .. => true
  | .deleting .. | .deletionChecked .. | .calling .. | .ended => false

/-- The attempt that Stripe was called for. -/
def called : ClosurePhase → Option PreparedAttempt
  | .calling _ _ attempt => some attempt
  | .deleting .. | .deletionChecked .. | .creating .. | .ended => none

/-- The deletion between its checks and its commit. -/
def checked? : ClosurePhase → Option PlatformDatabase.CheckedDeletion
  | .deletionChecked checked .. => some checked
  | .deleting .. | .creating .. | .calling .. | .ended => none

end ClosurePhase

namespace ClosureState

variable {settings : BillingSettings} {auth : AuthSettings} {s : ClosureState} {i : Nat}
  {client : ClosureClient} {phase : ClosurePhase}

/-- The row of the user of the request is not that of a deleted account. -/
def UserStays (s : ClosureState) (client : ClosureClient) : Prop :=
  ∀ u ∈ s.db.users.get? client.user.id, u.deletedAt = none

/-- No deletion of the account is between its checks and its commit. -/
def NotClosing (s : ClosureState) (userId : Uuid) : Prop :=
  ∀ client ∈ s.clients, ∀ checked ∈ client.phase.checked?, checked.user.id ≠ userId

/-- What the committed rows say to a request that goes on: a creation finds that its owner
is not deleted; an answer finds that its attempt is not finished, or that its owner is
neither deleted nor past the checks of a deletion. -/
def FindsOwner (s : ClosureState) (timed : TimedClosureAction) : Prop :=
  match timed.action with
  | .transact i .. => ∀ client ∈ s.clients[i]?, client.phase.creates = true → s.UserStays client
  | .answer i _ =>
    ∀ client ∈ s.clients[i]?, ∀ attempt ∈ client.phase.called,
      (∀ row ∈ s.db.checkouts.get? attempt.checkout.id, row.status.isUnfinished = true) ∨
        s.UserStays client ∧ s.NotClosing client.user.id
  | .arrive _ | .reject _ | .stop _ => True

instance decidableUserStays (s : ClosureState) (client : ClosureClient) :
    Decidable (s.UserStays client) :=
  inferInstanceAs (Decidable (∀ u ∈ s.db.users.get? client.user.id, u.deletedAt = none))

instance decidableNotClosing (s : ClosureState) (userId : Uuid) : Decidable (s.NotClosing userId) :=
  inferInstanceAs (Decidable (∀ client ∈ s.clients, ∀ checked ∈ client.phase.checked?,
    checked.user.id ≠ userId))

instance decidableFindsOwner (s : ClosureState) : ∀ timed, Decidable (FindsOwner s timed)
  | ⟨_, .transact i ..⟩ =>
    inferInstanceAs (Decidable (∀ client ∈ s.clients[i]?, client.phase.creates = true →
      s.UserStays client))
  | ⟨_, .answer i _⟩ =>
    inferInstanceAs (Decidable (∀ client ∈ s.clients[i]?, ∀ attempt ∈ client.phase.called,
      (∀ row ∈ s.db.checkouts.get? attempt.checkout.id, row.status.isUnfinished = true) ∨
        s.UserStays client ∧ s.NotClosing client.user.id))
  | ⟨_, .arrive _⟩ | ⟨_, .reject _⟩ | ⟨_, .stop _⟩ => inferInstanceAs (Decidable True)

-- ---------------------------------------------------------------------------
-- The invariant
-- ---------------------------------------------------------------------------

/-- What holds of a deletion between its checks and its commit: request `i` holds the row of
the account, and the business is as the checks have found it. -/
structure Closing (s : ClosureState) (i : Nat) (checked : PlatformDatabase.CheckedDeletion) :
    Prop where
  holds : s.userLocks.holder checked.user.id = some i
  ready : PlatformDatabase.ReadyToClose s.db.toBillingDatabase checked

/-- **The invariant of a run.** Deleted owners have nothing open, a request writes to the
business of its user, and a deletion that has passed its checks can go through. -/
structure Scoped (s : ClosureState) : Prop where
  closed : s.db.DeletedOwnersClosed
  owned : ∀ client ∈ s.clients, ∀ scope ∈ client.phase.scope?,
    ∃ b ∈ s.db.businesses, b.id = scope ∧ b.ownerUserId = client.user.id
  closing : ∀ i client, s.clients[i]? = some client → ∀ checked ∈ client.phase.checked?,
    s.Closing i checked

/-- The owner of the business is not deleted, and no deletion has passed its checks. -/
structure MayWrite (s : ClosureState) (businessId : Uuid) : Prop where
  stays : s.db.OwnerStays businessId
  apart : ∀ client ∈ s.clients, ∀ checked ∈ client.phase.checked?, ∀ b ∈ s.db.businesses,
    b.ownerUserId = checked.user.id → b.id ≠ businessId

/-- The business of a request whose user is neither deleted nor about to be. -/
theorem Scoped.mayWrite_of_owner {scope : Uuid} (h : Scoped s) (hClient : client ∈ s.clients)
    (hScope : scope ∈ client.phase.scope?) (hUser : s.UserStays client)
    (hNot : s.NotClosing client.user.id) : s.MayWrite scope := by
  obtain ⟨b, hb, hId, hOwner⟩ := h.owned client hClient scope hScope
  refine ⟨PlatformDatabase.stays_of_owner hb hId ?_, ?_⟩
  · rw [hOwner]
    exact hUser
  · intro other hOther checked hChecked b' hb' hOwner' hSame
    have hEq : b' = b := Table.eq_of_key_eq hb' hb (hSame.trans hId.symm)
    rw [hEq, hOwner] at hOwner'
    exact hNot other hOther checked hChecked hOwner'.symm

/-- A business that has something open belongs to nobody who is deleted or about to be. -/
theorem Scoped.mayWrite_of_open {c : BillingCheckoutSession} (h : Scoped s)
    (hc : c ∈ s.db.checkouts) (hOpen : c.status.isUnfinished = true) : s.MayWrite c.businessId where
  stays := PlatformDatabase.stays_of_open h.closed hc rfl hOpen
  apart := by
    intro other hOther checked hChecked b hb hOwner hSame
    obtain ⟨j, hj⟩ := List.mem_iff_getElem?.mp hOther
    have hClosed := ((h.closing j other hj checked hChecked).ready b hb hOwner).1 c hc hSame.symm
    rw [hOpen] at hClosed
    cases hClosed

/-- Request `i` moves on; what the others have read stays, and nobody loses a lock. -/
theorem Scoped.move {db : PlatformDatabase} {userLocks : Locks Uuid} (h : Scoped s)
    (hClient : s.clients[i]? = some client) (hClosed : db.DeletedOwnersClosed)
    (hBusinesses : db.businesses = s.db.businesses)
    (hScope : ∀ scope ∈ phase.scope?, scope ∈ client.phase.scope?)
    (hLocks : ∀ id j, j ≠ i → s.userLocks.holder id = some j → userLocks.holder id = some j)
    (hOthers : ∀ other ∈ s.clients, ∀ checked ∈ other.phase.checked?,
      PlatformDatabase.ReadyToClose s.db.toBillingDatabase checked →
        PlatformDatabase.ReadyToClose db.toBillingDatabase checked)
    (hMine : ∀ checked ∈ phase.checked?, userLocks.holder checked.user.id = some i ∧
      PlatformDatabase.ReadyToClose db.toBillingDatabase checked) :
    Scoped { db, clients := s.clients.set i { client with phase }, userLocks } where
  closed := hClosed
  owned := by
    intro other hOther scope hOtherScope
    show ∃ b ∈ db.businesses, b.id = scope ∧ b.ownerUserId = other.user.id
    rw [hBusinesses]
    rcases List.mem_or_eq_of_mem_set hOther with hOld | rfl
    · exact h.owned other hOld scope hOtherScope
    · exact h.owned client (List.mem_of_getElem? hClient) scope (hScope scope hOtherScope)
  closing := by
    intro j other hOther checked hChecked
    -- The client that moves, and the other deletions, whose locks and checks stay.
    rcases getElem?_set_cases hOther with ⟨rfl, rfl⟩ | ⟨hNe, hOld⟩
    · exact ⟨(hMine checked hChecked).1, (hMine checked hChecked).2⟩
    · obtain ⟨hHolds, hReady⟩ := h.closing j other hOld checked hChecked
      exact ⟨hLocks _ j hNe hHolds,
        hOthers other (List.mem_of_getElem? hOld) checked hChecked hReady⟩

/-- A request that ends gives back its own locks. -/
theorem Scoped.finish (h : Scoped s) (hClient : s.clients[i]? = some client) :
    Scoped (s.finish i client) :=
  h.move hClient h.closed rfl (fun _ hNone => by cases hNone)
    (fun _ _ hNe hHolds => Locks.holder_release.mpr ⟨hHolds, hNe⟩)
    (fun _ _ _ _ hReady => hReady) fun _ hNone => by cases hNone

theorem Scoped.refuse (h : Scoped s) (hClient : s.clients[i]? = some client) :
    Scoped (s.proceed i client .ended) :=
  h.move hClient h.closed rfl (fun _ hNone => by cases hNone) (fun _ _ _ hHolds => hHolds)
    (fun _ _ _ _ hReady => hReady) fun _ hNone => by cases hNone

/-- **Writes of a creation.** It writes to businesses that may be written to. -/
theorem Scoped.write {billing : BillingDatabase} {written : Uuid → Prop} (h : Scoped s)
    (hClient : s.clients[i]? = some client)
    (hElse : PlatformDatabase.Elsewhere s.db.toBillingDatabase billing written)
    (hMay : ∀ id, written id → s.MayWrite id)
    (hScope : ∀ scope ∈ phase.scope?, scope ∈ client.phase.scope?)
    (hChecked : phase.checked? = none) :
    Scoped ((s.proceed i client phase).withBilling billing) := by
  refine h.move hClient ?_ hElse.businesses hScope (fun _ _ _ hHolds => hHolds) ?_ ?_
  · exact PlatformDatabase.closed_of_elsewhere h.closed (fun id hId => (hMay id hId).stays) hElse
  · intro other hOther checked hOtherChecked hReady
    exact PlatformDatabase.ready_of_elsewhere hReady
      (fun id hId => (hMay id hId).apart other hOther checked hOtherChecked) hElse
  · intro checked hSome
    -- The client that writes has no deletion under way.
    rw [hChecked] at hSome
    cases hSome

-- ---------------------------------------------------------------------------
-- Steps
-- ---------------------------------------------------------------------------

/-- A request arrives with a business of its user. -/
theorem arrive_scoped {request : ClosureRequest} (h : Scoped s) :
    Scoped { s with clients := s.clients ++ (s.arrive request).toList } := by
  -- what has just arrived has read a tenant at most
  have hNew : ∀ client ∈ s.arrive request, client.phase.checked? = none ∧
      ∀ scope ∈ client.phase.scope?,
        ∃ b ∈ s.db.businesses, b.id = scope ∧ b.ownerUserId = client.user.id := by
    intro client hArrive
    cases request with
    | delete token currentPassword nonce newHash =>
      obtain ⟨user, -, hEq⟩ := Option.bind_eq_some_iff.mp hArrive
      obtain rfl := Option.some.inj hEq
      exact ⟨rfl, fun scope hScope => by cases hScope⟩
    | checkout token planCode idempotencyKey =>
      obtain ⟨user, -, hRest⟩ := Option.bind_eq_some_iff.mp hArrive
      obtain ⟨tenant, hTenant, hEq⟩ := Option.bind_eq_some_iff.mp hRest
      obtain rfl := Option.some.inj hEq
      refine ⟨rfl, fun scope hScope => ?_⟩
      obtain rfl := Option.some.inj hScope
      exact PlatformDatabase.tenantScope_eq_some hTenant
  refine ⟨h.closed, fun client hClient => ?_, fun j client hClient checked hChecked => ?_⟩
  · rcases List.mem_append.mp hClient with hOld | hArrived
    · exact h.owned client hOld
    · exact (hNew client (Option.mem_toList.mp hArrived)).2
  · by_cases hOld : j < s.clients.length
    · rw [List.getElem?_append_left hOld] at hClient
      obtain ⟨hHolds, hReady⟩ := h.closing j client hClient checked hChecked
      exact ⟨hHolds, hReady⟩
    · rw [List.getElem?_append_right (Nat.not_lt.mp hOld)] at hClient
      rw [(hNew client (Option.mem_toList.mp (List.mem_of_getElem? hClient))).1] at hChecked
      cases hChecked

/-- **The checks of a deletion.** They are done under the lock of the account. -/
theorem check_scoped {currentPassword nonce newHash : Str} {now : Datetime} (h : Scoped s)
    (hClient : s.clients[i]? = some client)
    (hPhase : client.phase = .deleting currentPassword nonce newHash)
    {price : Except BillingError Dict} {draws : CheckoutDraws} :
    Scoped (s.transact settings auth i client price draws now) := by
  unfold transact
  rw [hPhase]
  dsimp only
  split
  · next hFree =>
    -- The deletion takes the locks of the user and of the businesses before it checks.
    have hFree := List.all_eq_true.mp hFree
    split
    · next checked hCheck =>
      obtain ⟨hUser, -, -, hReady⟩ := PlatformDatabase.checkDeletion_eq_ok hCheck
      refine h.move hClient h.closed rfl (fun _ hNone => by cases hNone) ?_
        (fun _ _ _ _ hOther => hOther) ?_
      · intro id j hNe hHolds
        exact Locks.holder_acquire_of_holder hFree hHolds
      · intro checked' hSome
        obtain rfl := Option.some.inj hSome
        refine ⟨?_, hReady⟩
        rw [hUser]
        exact Locks.holder_acquire_of_mem List.mem_cons_self
    · exact h.refuse hClient
  · exact h

/-- The commit of a deletion that was checked keeps the invariant. -/
theorem commit_scoped {checked : PlatformDatabase.CheckedDeletion} {nonce newHash : Str}
    {now : Datetime} (h : Scoped s) (hClient : s.clients[i]? = some client)
    (hPhase : client.phase = .deletionChecked checked nonce newHash)
    {price : Except BillingError Dict} {draws : CheckoutDraws} :
    Scoped (s.transact settings auth i client price draws now) := by
  unfold transact
  rw [hPhase]
  dsimp only
  -- Since the check nothing has been opened for this owner.
  have hClosing : s.Closing i checked := by
    refine h.closing i client hClient checked ?_
    rw [hPhase]
    rfl
  split
  · next db hCommit =>
    refine h.move hClient (PlatformDatabase.commitDeletion_closed h.closed hClosing.ready hCommit)
      (PlatformDatabase.commitDeletion_eq_ok hCommit).businesses (fun _ hNone => by cases hNone)
      (fun _ _ hNe hHolds => Locks.holder_release.mpr ⟨hHolds, hNe⟩) ?_ fun _ hNone => by cases hNone
    exact fun _ _ _ _ hOther => PlatformDatabase.ready_of_commitDeletion hOther hCommit
  · exact h.finish hClient

/-- **The transaction of a creation.** It waits for the row of its owner, so no deletion has
passed its checks. -/
theorem create_scoped {scope : Uuid} {planCode : SeededPlanCode} {key : Str} {now : Datetime}
    (h : Scoped s) (hClient : s.clients[i]? = some client)
    (hPhase : client.phase = .creating scope planCode key) (hUser : s.UserStays client)
    {price : Except BillingError Dict} {draws : CheckoutDraws} :
    Scoped (s.transact settings auth i client price draws now) := by
  have hScope : scope ∈ client.phase.scope? := by
    rw [hPhase]
    rfl
  unfold transact
  rw [hPhase]
  dsimp only
  split
  · next hFree =>
    have hNot : s.NotClosing client.user.id := by
      intro other hOther checked hChecked hSame
      obtain ⟨j, hj⟩ := List.mem_iff_getElem?.mp hOther
      have hHolds := (h.closing j other hj checked hChecked).holds
      rw [hSame] at hHolds
      obtain rfl := Locks.available_iff.mp hFree j hHolds
      -- the request would be that deletion
      obtain rfl := Option.some.inj (hj.symm.trans hClient)
      rw [hPhase] at hChecked
      cases hChecked
    have hMay := h.mayWrite_of_owner (List.mem_of_getElem? hClient) hScope hUser hNot
    have hPrepared : ∀ {billing : BillingDatabase} {prepared : PreparedCheckout}
        {phase : ClosurePhase}, s.db.toBillingDatabase.prepareCheckout settings scope
          (some client.user) client.user.id planCode key price now draws =
            .ok (billing, prepared) → (∀ x ∈ phase.scope?, x = scope) → phase.checked? = none →
        Scoped ((s.proceed i client phase).withBilling billing) := by
      intro billing prepared phase hPrepare hPhaseScope hPhaseChecked
      obtain ⟨plan, digest, attempt, hPrepares, -⟩ :=
        BillingDatabase.prepareCheckout_eq_ok hPrepare
      refine h.write hClient (PlatformDatabase.elsewhere_of_prepares hPrepares) ?_ ?_ hPhaseChecked
      · rintro id rfl
        exact hMay
      · intro x hx
        rw [hPhaseScope x hx]
        exact hScope
    split
    · next billing attempt params hPrepare =>
      exact hPrepared hPrepare (fun x hx => (Option.some.inj hx).symm) rfl
    · next billing result hPrepare =>
      exact hPrepared hPrepare (fun _ hNone => by cases hNone) rfl
    · exact h.refuse hClient
  · exact h

/-- A transaction keeps the invariant when the users of creations are not deleted. -/
theorem transact_scoped {price : Except BillingError Dict} {draws : CheckoutDraws}
    {now : Datetime} (h : Scoped s) (hClient : s.clients[i]? = some client)
    (hCond : client.phase.creates = true → s.UserStays client) :
    Scoped (s.transact settings auth i client price draws now) := by
  cases hPhase : client.phase with
  | deleting currentPassword nonce newHash => exact check_scoped h hClient hPhase
  | deletionChecked checked nonce newHash => exact commit_scoped h hClient hPhase
  | creating scope planCode key =>
    refine create_scoped h hClient hPhase (hCond ?_)
    rw [hPhase]
    rfl
  | calling scope planCode attempt =>
    unfold transact
    rw [hPhase]
    exact h
  | ended =>
    unfold transact
    rw [hPhase]
    exact h

/-- Recording an answer of Stripe keeps the invariant under the condition of the run. -/
theorem answer_scoped {remote : Dict} (h : Scoped s) (hClient : s.clients[i]? = some client)
    (hCond : ∀ attempt ∈ client.phase.called,
      (∀ row ∈ s.db.checkouts.get? attempt.checkout.id, row.status.isUnfinished = true) ∨
        s.UserStays client ∧ s.NotClosing client.user.id) :
    Scoped (s.answer i client remote) := by
  unfold answer
  split
  · next scope planCode attempt hPhase =>
    split
    · next billing result hRecord =>
      obtain ⟨sessionId, url, expiresAt, row, -, -, hRow, hScope, hRowId, hUpdate, hFrame⟩ :=
        BillingDatabase.recordCheckout_eq_ok hRecord
      have hElse : PlatformDatabase.Elsewhere s.db.toBillingDatabase billing (· = scope) := by
        refine PlatformDatabase.elsewhere_of_update? hScope ?_ hUpdate hFrame
        rfl
      have hCalled : attempt ∈ client.phase.called := by
        rw [hPhase]
        rfl
      have hMay : s.MayWrite scope := by
        -- An unfinished row is known to the check; else the owner has to be there and not under
        -- deletion.
        rcases hCond attempt hCalled with hUnfinished | ⟨hUser, hNot⟩
        · rw [← hScope]
          exact h.mayWrite_of_open hRow
            (hUnfinished row (Table.get?_eq_some.mpr ⟨hRow, hRowId⟩))
        · refine h.mayWrite_of_owner (List.mem_of_getElem? hClient) ?_ hUser hNot
          rw [hPhase]
          rfl
      refine h.write hClient hElse ?_ (fun _ hNone => by cases hNone) rfl
      rintro id rfl
      exact hMay
    · exact h.refuse hClient
  · exact h

/-- A rejected call keeps the invariant: it closes an attempt. -/
theorem reject_scoped {now : Datetime} (h : Scoped s) (hClient : s.clients[i]? = some client) :
    Scoped (s.reject i client now) := by
  unfold reject
  split
  · next scope planCode attempt hPhase =>
    split
    · next billing u hExpire =>
      exact h.write hClient (PlatformDatabase.elsewhere_of_expireRejected hExpire)
        (fun _ hFalse => hFalse.elim) (fun _ hNone => by cases hNone) rfl
    · exact h.refuse hClient
  · exact h

/-- **One step.** It keeps the invariant when the owner is found as the condition says. -/
theorem step_scoped (s : ClosureState) (timed : TimedClosureAction) (h : Scoped s)
    (hCond : FindsOwner s timed) : Scoped (step settings auth s timed) := by
  unfold FindsOwner at hCond
  unfold step
  cases hAction : timed.action with
  | arrive request => exact arrive_scoped h
  | transact i price draws =>
    rw [hAction] at hCond
    dsimp only at hCond ⊢
    cases hClient : s.clients[i]? with
    | none => exact h
    | some client => exact transact_scoped h hClient (hCond client hClient)
  | answer i remote =>
    rw [hAction] at hCond
    dsimp only at hCond ⊢
    cases hClient : s.clients[i]? with
    | none => exact h
    | some client => exact answer_scoped h hClient (hCond client hClient)
  | reject i =>
    dsimp only
    cases hClient : s.clients[i]? with
    | none => exact h
    | some client => exact reject_scoped h hClient
  | stop i =>
    dsimp only
    cases hClient : s.clients[i]? with
    | none => exact h
    | some client => exact h.finish hClient

/-- **No checkout for a deleted owner.** On a run whose creations find that their owner is not
deleted, and whose answers find an attempt that is not finished or an owner who is neither
deleted nor past the checks of a deletion, the business of a deleted owner has nothing
pending, open or current. -/
theorem no_checkout_for_deleted_owner (settings : BillingSettings) (auth : AuthSettings)
    (db : PlatformDatabase) (actions : List TimedClosureAction)
    (hStart : db.DeletedOwnersClosed)
    (hMeets : Meets (step settings auth) FindsOwner { db } actions) :
    (run (step settings auth) { db } actions).db.DeletedOwnersClosed := by
  have hInit : Scoped { db } :=
    ⟨hStart, fun client hClient => (by cases hClient), fun i client hClient => by cases hClient⟩
  have hRun := run_invariant_of_meets (I := Scoped) step_scoped hInit hMeets
  exact hRun.closed

end ClosureState

-- ---------------------------------------------------------------------------
-- Two checkouts of deleted owners
-- ---------------------------------------------------------------------------

namespace ClosureSample

/-- Business 1 of an owner who has not checked out yet. -/
def database : PlatformDatabase :=
  { CheckoutSample.database with
    roleAssignments := .single { id := 1, businessId := 1, userId := 1 } rfl }

def creation : ClosureRequest := .checkout (AccountSample.token 1) .premium (str "key")

def deletion : ClosureRequest :=
  .delete (AccountSample.token 1) (str "hash") (str "nonce") (str "random")

def actionAt (second : Int) (action : ClosureAction) : TimedClosureAction := ⟨seconds second, action⟩

def transact (i : Nat) : ClosureAction :=
  .transact i (.ok CheckoutSample.price) ⟨1, 1, seconds 0⟩

/-- Both requests are authenticated before the deletion locks the row of the owner; the
creation waits until it has committed. -/
def deletionFirst : List TimedClosureAction :=
  [actionAt 1 (.arrive creation), actionAt 2 (.arrive deletion), actionAt 3 (transact 1),
    actionAt 4 (transact 0), actionAt 5 (transact 1), actionAt 6 (transact 0)]

/-- The session that Stripe created for the attempt. -/
def remote : Dict :=
  [(str "id", .str (str "cs_1")), (str "url", .str (str "u_1")), (str "expires_at", .int 1860)]

/-- Stripe refuses a retry, which expires the attempt, and its answer to the first call is
recorded while the deletion hashes the password. -/
def answerBetween : List TimedClosureAction :=
  [actionAt 1 (.arrive creation), actionAt 2 (transact 0), actionAt 3 (.arrive creation),
    actionAt 4 (transact 1), actionAt 5 (.reject 1), actionAt 6 (.arrive deletion),
    actionAt 7 (transact 2), actionAt 8 (.answer 0 remote), actionAt 9 (transact 2)]

/-- A deletion is refused for the attempt of a creation; the next one comes after Stripe has
refused that, and goes through. -/
def creationFirst : List TimedClosureAction :=
  [actionAt 1 (.arrive creation), actionAt 2 (.arrive deletion), actionAt 3 (transact 0),
    actionAt 4 (transact 1), actionAt 5 (.reject 0), actionAt 6 (.arrive deletion),
    actionAt 7 (transact 2), actionAt 8 (transact 2)]

end ClosureSample

namespace ClosureState

open ClosureSample

/-- A checkout and a deletion that meet the condition, with the deletion last. -/
theorem no_checkout_for_deleted_owner_sample :
    let db := (run (step CheckoutSample.settings AccountSample.settings) { db := database }
      creationFirst).db
    (∃ u ∈ db.users, u.deletedAt = some (seconds 7)) ∧ db.DeletedOwnersClosed :=
  ⟨by decide +kernel,
    no_checkout_for_deleted_owner CheckoutSample.settings AccountSample.settings database
      creationFirst (by decide +kernel) (by decide +kernel)⟩

/-- **A checkout of a deleted owner.** The creation goes on with the account as it was before
the deletion, and leaves a pending attempt and a current subscription. -/
theorem checkout_after_deletion :
    let db := (run (step CheckoutSample.settings AccountSample.settings) { db := database }
      deletionFirst).db
    ∃ u ∈ db.users, u.deletedAt = some (seconds 3) ∧ ∃ b ∈ db.businesses, b.ownerUserId = u.id ∧
      (∃ c ∈ db.checkouts, c.businessId = b.id ∧ c.status = .pending) ∧
        ∃ s ∈ db.subscriptions, s.businessId = b.id ∧ s.status.isCurrent = true := by
  decide +kernel

/-- **Another one**, which the answer of Stripe opens between the checks and the commit of the
deletion. -/
theorem answer_during_deletion :
    let db := (run (step CheckoutSample.settings AccountSample.settings) { db := database }
      answerBetween).db
    ∃ u ∈ db.users, u.deletedAt = some (seconds 7) ∧ ∃ b ∈ db.businesses, b.ownerUserId = u.id ∧
      ∃ c ∈ db.checkouts, c.businessId = b.id ∧ c.status = .open := by
  decide +kernel

end ClosureState

end SpikeBackend
