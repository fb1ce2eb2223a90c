import Mathlib.Algebra.Order.Ring.Int
import SpikeBackend.Model.DashboardRuns

/-!
# The cap on dashboards

A creation holds the lock of the current subscription of its business from before it counts
until it commits. The business has one current subscription, so no other creation of the
business commits in between, and what it counted is no less than what there is.

* `holder_unique` — two creations of one business do not hold their locks together;
* `clientInvariant_of_undisturbed` — what keeps the facts of a client;
* `step_invariant`, `dashboard_cap` — no creation commits at its limit or above.
-/

namespace SpikeBackend

open Relational Text Outcome Machine Locking

namespace DashboardState

variable {s s' : DashboardState} {i j : Nat} {creation : DashboardCreation}
  {subscription : Subscription} {now : Datetime}

-- ---------------------------------------------------------------------------
-- Invariant
-- ---------------------------------------------------------------------------

/-- The client holds the lock of the current subscription of its business. -/
structure HoldsCurrent (s : DashboardState) (i : Nat) (creation : DashboardCreation)
    (subscription : Subscription) : Prop where
  holder : s.locks.holder subscription.id = some i
  mem : subscription ∈ s.tables.subscriptions
  scope : subscription.businessId = creation.scope
  current : subscription.status.isCurrent = true

/-- What a client knows: the subscription that it locked, and a count that has not grown. -/
def ClientInvariant (s : DashboardState) (i : Nat) : DashboardClient → Prop
  | .locked creation subscription => s.HoldsCurrent i creation subscription
  | .counted creation subscription currentUsage =>
    s.HoldsCurrent i creation subscription ∧ usage s.dashboards creation.scope ≤ currentUsage
  | .granted creation subscription currentUsage grant =>
    s.HoldsCurrent i creation subscription ∧ usage s.dashboards creation.scope ≤ currentUsage ∧
      grant.limitValue.all ((currentUsage : Int) < ·) = true
  | _ => True

structure CapInvariant (s : DashboardState) : Prop where
  client : ∀ i c, s.clients[i]? = some c → s.ClientInvariant i c
  commits : ∀ record ∈ s.commits,
    record.limitValue.all ((record.usageBefore : Int) < ·) = true

/-- **Exclusion.** A business has one current subscription, and one client holds its row. -/
theorem holder_unique {other : Subscription} (hHolds : s.HoldsCurrent i creation subscription)
    (hMem : other ∈ s.tables.subscriptions) (hScope : other.businessId = creation.scope)
    (hCurrent : other.status.isCurrent = true) (hHolder : s.locks.holder other.id = some j) :
    j = i := by
  have hClash : Schema.clash subscription other = true := by
    simp [Schema.clash, hHolds.scope, hScope, hHolds.current, hCurrent]
  have hSame : subscription = other := Table.eq_of_clash hHolds.mem hMem hClash
  have hHolder' := hHolds.holder
  rw [hSame, hHolder] at hHolder'
  exact Option.some.inj hHolder'

/-- What a step leaves to a client that holds rows: its locks, these rows, and no more
dashboards of their businesses. -/
structure Undisturbed (s s' : DashboardState) (j : Nat) : Prop where
  holder : ∀ k, s.locks.holder k = some j → s'.locks.holder k = some j
  kept : ∀ r ∈ s.tables.subscriptions, s.locks.holder r.id = some j →
    r ∈ s'.tables.subscriptions
  usage : ∀ r ∈ s.tables.subscriptions, s.locks.holder r.id = some j →
    r.status.isCurrent = true →
      usage s'.dashboards r.businessId ≤ usage s.dashboards r.businessId

/-- A lock on the current subscription is kept by what leaves the client undisturbed. -/
theorem HoldsCurrent.undisturbed (hHolds : s.HoldsCurrent j creation subscription)
    (h : Undisturbed s s' j) : s'.HoldsCurrent j creation subscription :=
  ⟨h.holder _ hHolds.holder, h.kept _ hHolds.mem hHolds.holder, hHolds.scope, hHolds.current⟩

/-- So is all that the client has read under the lock. -/
theorem clientInvariant_of_undisturbed {c : DashboardClient} (hClient : s.ClientInvariant j c)
    (h : Undisturbed s s' j) : s'.ClientInvariant j c := by
  -- Under the lock the usage of the scope can only fall.
  have hUsage : ∀ {creation subscription}, s.HoldsCurrent j creation subscription →
      usage s'.dashboards creation.scope ≤ usage s.dashboards creation.scope := by
    intro creation subscription hHolds
    have hLe := h.usage subscription hHolds.mem hHolds.holder hHolds.current
    rwa [hHolds.scope] at hLe
  cases c with
  | locked creation subscription =>
    have hHolds : s.HoldsCurrent j creation subscription := hClient
    exact hHolds.undisturbed h
  | counted creation subscription currentUsage =>
    obtain ⟨hHolds, hLe⟩ := hClient
    exact ⟨hHolds.undisturbed h, (hUsage hHolds).trans hLe⟩
  | granted creation subscription currentUsage grant =>
    obtain ⟨hHolds, hLe, hLimit⟩ := hClient
    exact ⟨hHolds.undisturbed h, (hUsage hHolds).trans hLe, hLimit⟩
  | _ => trivial

/-- A step keeps the invariant when it leaves every client undisturbed but the one that it
moves. -/
theorem CapInvariant.of_moved (hInv : s.CapInvariant)
    (hClients : ∀ j c, s'.clients[j]? = some c →
      s.clients[j]? = some c ∧ Undisturbed s s' j ∨ s'.ClientInvariant j c)
    (hCommits : ∀ record ∈ s'.commits, record ∈ s.commits ∨
      record.limitValue.all ((record.usageBefore : Int) < ·) = true) : s'.CapInvariant where
  client j c hc := by
    rcases hClients j c hc with ⟨hOld, hRest⟩ | hNew
    · exact clientInvariant_of_undisturbed (hInv.client j c hOld) hRest
    · exact hNew
  commits record hRecord := by
    rcases hCommits record hRecord with hOld | hNew
    · exact hInv.commits record hOld
    · exact hNew

-- ---------------------------------------------------------------------------
-- Statements
-- ---------------------------------------------------------------------------

/-- A client goes on, in a phase whose facts it has. -/
theorem proceed_invariant (hInv : s.CapInvariant) {c : DashboardClient}
    (hClient : (s.proceed i c).ClientInvariant i c) : (s.proceed i c).CapInvariant := by
  refine hInv.of_moved (fun j c' hc' => ?_) fun record hRecord => .inl hRecord
  rcases getElem?_set_cases hc' with ⟨rfl, rfl⟩ | ⟨-, hOld⟩
  · exact .inr hClient
  · exact .inl ⟨hOld, fun _ h => h, fun _ hr _ => hr, fun _ _ _ _ => le_refl _⟩

/-- A transaction that ends gives back its own locks alone. -/
theorem finish_undisturbed (hne : j ≠ i) (c : DashboardClient) :
    Undisturbed s (s.finish i c) j where
  holder _ hk := Locks.holder_release.mpr ⟨hk, hne⟩
  kept _ hr _ := hr
  usage _ _ _ _ := le_refl _

/-- A client that ends keeps the invariant. -/
theorem finish_invariant (hInv : s.CapInvariant) {c : DashboardClient} (hEnded : c.isOpen = false) :
    (s.finish i c).CapInvariant := by
  refine hInv.of_moved (fun j c' hc' => ?_) fun record hRecord => .inl hRecord
  rcases getElem?_set_cases hc' with ⟨rfl, rfl⟩ | ⟨hne, hOld⟩
  · cases c' <;> first | exact .inr trivial | cases hEnded
  · exact .inl ⟨hOld, finish_undisturbed hne c⟩

/-- The lock is taken, of a row that is the current subscription of the business. -/
theorem lockCurrentSubscription_invariant (hInv : s.CapInvariant) {subscriptionId : Uuid}
    (hFree : s.locks.available subscriptionId i = true) :
    (s.lockCurrentSubscription i creation subscriptionId).CapInvariant := by
  unfold lockCurrentSubscription
  split
  · exact finish_invariant hInv rfl
  · next row hRow =>
    have hIs := Table.prop_of_find? hRow
    simp only [Bool.and_eq_true, beq_iff_eq] at hIs
    obtain ⟨⟨hId, hScope⟩, hCurrent⟩ := hIs
    refine hInv.of_moved (fun j c' hc' => ?_) fun record hRecord => .inl hRecord
    -- The client holds the row now; the others could not hold it.
    rcases getElem?_set_cases hc' with ⟨rfl, rfl⟩ | ⟨-, hOld⟩
    · refine .inr ⟨?_, Table.mem_of_find? hRow, hScope, hCurrent⟩
      rw [hId]
      exact Locks.holder_acquire_of_mem (List.mem_singleton_self _)
    · refine .inl ⟨hOld, fun k hk => ?_, fun _ hr _ => hr, fun _ _ _ _ => le_refl _⟩
      refine Locks.holder_acquire_of_holder (fun k' hk' => ?_) hk
      rw [List.mem_singleton.mp hk']
      exact hFree

/-- **Commit.** The limit is above what was counted, and no other creation of the business
holds its lock. -/
theorem commitCreation_invariant (hInv : s.CapInvariant) {currentUsage : Nat}
    {grant : EntitlementGrant} (dashboardId : Uuid)
    (hHolds : s.HoldsCurrent i creation subscription)
    (hLe : usage s.dashboards creation.scope ≤ currentUsage)
    (hLimit : grant.limitValue.all ((currentUsage : Int) < ·) = true) :
    (s.commitCreation i creation grant dashboardId now).CapInvariant := by
  unfold commitCreation
  split
  · exact finish_invariant hInv rfl
  · next dashboards hInsert =>
    refine hInv.of_moved (fun j c' hc' => ?_) fun record hRecord => ?_
    · rcases getElem?_set_cases hc' with ⟨rfl, rfl⟩ | ⟨hne, hOld⟩
      · exact .inr trivial
      · refine .inl ⟨hOld, (finish_undisturbed hne (.created dashboardId)).holder, fun _ hr _ => hr, ?_⟩
        -- the new dashboard is of a business whose lock no other client holds
        intro r hr hHolder hCurrent
        have hOther : creation.scope ≠ r.businessId := fun hScope =>
          hne (holder_unique hHolds hr hScope.symm hCurrent hHolder)
        have hCount := usage_insert? hInsert r.businessId
        simp only [DashboardCreate.row, hOther, if_false, Nat.add_zero] at hCount
        exact hCount.le
    · rcases List.mem_cons.mp hRecord with rfl | hOld
      · refine .inr ?_
        rw [Option.all_eq_true] at hLimit ⊢
        intro limit hSome
        have hCounted := of_decide_eq_true (hLimit limit hSome)
        have hCast : (usage s.dashboards creation.scope : Int) ≤ currentUsage :=
          Int.ofNat_le.mpr hLe
        exact decide_eq_true (lt_of_le_of_lt hCast hCounted)
      · exact .inl hOld

/-- **One statement.** A client's next statement keeps the invariant. -/
theorem advance_invariant (hInv : s.CapInvariant) (i : Nat) (dashboardId : Uuid)
    (now : Datetime) : (s.advance i dashboardId now).CapInvariant := by
  unfold advance
  split
  · split
    · exact finish_invariant hInv rfl
    · exact proceed_invariant hInv trivial
  · split
    · next hFree => exact lockCurrentSubscription_invariant hInv hFree
    · exact hInv
  · next creation subscription hGet =>
    have hHolds : s.HoldsCurrent i creation subscription := hInv.client i _ hGet
    exact proceed_invariant hInv ⟨⟨hHolds.holder, hHolds.mem, hHolds.scope, hHolds.current⟩,
      le_refl _⟩
  · next creation subscription currentUsage hGet =>
    obtain ⟨hHolds, hLe⟩ := hInv.client i _ hGet
    split
    · exact finish_invariant hInv rfl
    · next grant hGrant =>
      exact proceed_invariant hInv ⟨⟨hHolds.holder, hHolds.mem, hHolds.scope, hHolds.current⟩,
        hLe, SubscriptionTables.require_eq_ok hGrant⟩
  · -- The usage was below the limit when it was counted, and has not risen.
    next creation subscription currentUsage grant hGet =>
    obtain ⟨hHolds, hLe, hLimit⟩ := hInv.client i _ hGet
    exact commitCreation_invariant hInv dashboardId hHolds hLe hLimit
  · exact hInv

-- ---------------------------------------------------------------------------
-- Changes of subscriptions
-- ---------------------------------------------------------------------------

/-- A statement leaves the rows under other keys. -/
theorem mem_of_apply {t t' : Table Subscription} {write : SubscriptionWrite} {r : Subscription}
    (hWrite : write.apply t = some t') (hr : r ∈ t) (hOther : r.id ≠ write.rowId) : r ∈ t' := by
  cases write with
  | insert row => exact (Table.mem_insert? hWrite).mpr (.inr hr)
  | update row => exact (Table.mem_update? hWrite).mpr (.inr ⟨hr, hOther⟩)
  | delete subscriptionId =>
    obtain rfl := Option.some.inj hWrite
    rw [Table.mem_deleteWhere, beq_eq_false_iff_ne]
    exact ⟨hr, hOther⟩

/-- So does a list of statements; the induction is on the list. -/
theorem mem_of_foldlM {writes : List SubscriptionWrite} {t t' : Table Subscription}
    {r : Subscription} (hWrites : writes.foldlM SubscriptionWrite.apply t = some t') (hr : r ∈ t)
    (hOther : ∀ w ∈ writes, r.id ≠ w.rowId) : r ∈ t' := by
  induction writes generalizing t with
  | nil =>
    obtain rfl := Option.some.inj hWrites
    exact hr
  | cons write rest ih =>
    rw [List.foldlM_cons, Option.bind_eq_bind, Option.bind_eq_some_iff] at hWrites
    obtain ⟨t₁, hWrite, hRest⟩ := hWrites
    have hKept := mem_of_apply hWrite hr (hOther write List.mem_cons_self)
    exact ih hRest hKept fun w hw => hOther w (List.mem_cons_of_mem _ hw)

/-- The rows that a client holds are not written. -/
theorem changeSubscriptions_invariant (hInv : s.CapInvariant) (writes : List SubscriptionWrite)
    (planEntitlements : Table PlanEntitlement)
    (subscriptionEntitlements : Table SubscriptionEntitlement) :
    (s.changeSubscriptions writes planEntitlements subscriptionEntitlements).CapInvariant := by
  unfold changeSubscriptions
  split
  · next hFree =>
    split
    · exact hInv
    · next subscriptions hWrites =>
      refine hInv.of_moved (fun j c hc => .inl ⟨hc, fun _ h => h, ?_, fun _ _ _ _ => le_refl _⟩)
        fun record hRecord => .inl hRecord
      intro r hr hHolder
      refine mem_of_foldlM hWrites hr fun w hw hSame => ?_
      -- A row that a creation holds is not among the rows written.
      have hNone := List.all_eq_true.mp hFree w hw
      rw [← hSame, hHolder] at hNone
      cases hNone
  · exact hInv

-- ---------------------------------------------------------------------------
-- Runs
-- ---------------------------------------------------------------------------

/-- **Step lemma.** -/
theorem step_invariant (s : DashboardState) (timed : TimedDashboardAction)
    (hInv : s.CapInvariant) : (s.step timed).CapInvariant := by
  unfold step
  split
  · next creation hAction =>
    refine hInv.of_moved (fun j c hc => ?_) fun record hRecord => .inl hRecord
    -- A client that arrives holds nothing.
    rw [List.getElem?_append] at hc
    split at hc
    · exact .inl ⟨hc, fun _ h => h, fun _ hr _ => hr, fun _ _ _ _ => le_refl _⟩
    · have hNew := List.mem_singleton.mp (List.mem_of_getElem? hc)
      rw [hNew]
      exact .inr trivial
  · exact advance_invariant hInv _ _ _
  · split
    · exact finish_invariant hInv rfl
    · exact hInv
  · next scope dashboardId hAction =>
    refine hInv.of_moved (fun j c hc => ?_) fun record hRecord => .inl hRecord
    exact .inl ⟨hc, fun _ h => h, fun _ hr _ => hr, fun r _ _ _ => usage_delete_le _ _ _ _⟩
  · exact changeSubscriptions_invariant hInv _ _ _

theorem init_invariant (tables : SubscriptionTables) (dashboards : Table Dashboard) :
    CapInvariant { tables, dashboards } where
  client _ _ h := absurd h (by simp)
  commits _ h := absurd h (by simp)

/-- The dashboards and the committed creations after a step. -/
structure Records (s s' : DashboardState) : Prop where
  dashboards : ∀ d ∈ s'.dashboards, d ∈ s.dashboards ∨
    ∃ record ∈ s'.commits, record.dashboardId = d.id
  commits : ∀ record ∈ s.commits, record ∈ s'.commits

/-- Records of two steps are records of both. -/
theorem Records.trans {s'' : DashboardState} (h : Records s s') (h' : Records s' s'') :
    Records s s'' where
  dashboards d hd := by
    rcases h'.dashboards d hd with hOld | hNew
    · rcases h.dashboards d hOld with hOlder | ⟨record, hRecord, hId⟩
      · exact .inl hOlder
      · exact .inr ⟨record, h'.commits record hRecord, hId⟩
    · exact .inr hNew
  commits record hRecord := h'.commits record (h.commits record hRecord)

/-- A step that touches neither table nor commits records nothing. -/
theorem Records.of_eq (hDashboards : s'.dashboards = s.dashboards)
    (hCommits : s'.commits = s.commits) : Records s s' where
  dashboards _ hd := .inl (hDashboards ▸ hd)
  commits _ hRecord := hCommits ▸ hRecord

/-- A creation that commits is recorded. -/
theorem commitCreation_records (s : DashboardState) (i : Nat) (creation : DashboardCreation)
    (grant : EntitlementGrant) (dashboardId : Uuid) (now : Datetime) :
    Records s (s.commitCreation i creation grant dashboardId now) := by
  unfold commitCreation
  split
  · exact .of_eq rfl rfl
  · next dashboards hInsert =>
    refine ⟨fun d hd => ?_, fun record hRecord => List.mem_cons_of_mem _ hRecord⟩
    rcases (Table.mem_insert? hInsert).mp hd with rfl | hOld
    · exact .inr ⟨_, List.mem_cons_self, rfl⟩
    · exact .inl hOld

/-- Only a commit adds a dashboard. -/
theorem step_records (s : DashboardState) (timed : TimedDashboardAction) :
    Records s (s.step timed) := by
  unfold step
  split
  · exact .of_eq rfl rfl
  · unfold advance lockCurrentSubscription
    repeat' split
    all_goals first
      | exact .of_eq rfl rfl
      | exact commitCreation_records s _ _ _ _ _
  · split <;> exact .of_eq rfl rfl
  · next scope dashboardId hAction =>
    refine ⟨fun d hd => .inl ?_, fun record hRecord => hRecord⟩
    -- A deletion only takes rows away.
    exact (Table.mem_deleteWhere.mp hd).1
  · unfold changeSubscriptions
    repeat' split
    all_goals exact .of_eq rfl rfl

/-- **Dashboard cap.** In every run of creations, deletions and changes of subscriptions, no
creation commits when the committed dashboards of its business, before its own insert, are as
many as the limit that was applied to it or more; and every dashboard was there at the start
or is of a creation that committed. -/
theorem dashboard_cap (tables : SubscriptionTables) (dashboards : Table Dashboard)
    (actions : List TimedDashboardAction) :
    (∀ record ∈ (run step { tables, dashboards } actions).commits, ∀ limit,
        record.limitValue = some limit → (record.usageBefore : Int) < limit) ∧
      ∀ d ∈ (run step { tables, dashboards } actions).dashboards, d ∈ dashboards ∨
        ∃ record ∈ (run step { tables, dashboards } actions).commits,
          record.dashboardId = d.id := by
  have hInit : CapInvariant { tables, dashboards } := init_invariant tables dashboards
  have hRun := run_invariant step_invariant hInit actions
  -- What the run has added to the table is what it has recorded.
  have hRecords := run_related (I := fun _ => True) (R := Records)
    (fun _ => .of_eq rfl rfl) (fun _ _ _ h h' => h.trans h') (fun _ _ _ => trivial)
    (fun s timed _ => step_records s timed) (s := { tables, dashboards }) trivial actions
  refine ⟨fun record hRecord limit hLimit => ?_, hRecords.dashboards⟩
  have hBelow := hRun.commits record hRecord
  rw [hLimit] at hBelow
  exact of_decide_eq_true hBelow

end DashboardState

end SpikeBackend
