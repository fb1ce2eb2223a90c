import SpikeBackend.Dashboards.SnapshotHistory

/-!
# Where a snapshot comes from

The comparison under the lock is Python's, to which `1` and `True` are equal. What makes the
captured definition the one in the database is the stamp of the row: an edit writes
`updated_at`, so while the stamp is the captured one nothing has been edited.

* `Fresh` — the row still has the captured definition, or a later stamp;
* `Fresh.stamps`, `step_stamps` — every step keeps it, since an edit stamps the row later than it was;
* `snapshot_history` — the history of the snapshots of a dashboard, over every run.
-/

namespace SpikeBackend

open Relational Text Outcome Machine Locking

/-- A row of the dashboard has the captured definition, or a later stamp. -/
def Fresh (dashboards : Table Dashboard) (dashboardId : Uuid) (captured : CapturedDashboard) :
    Prop :=
  ∀ d ∈ dashboards, d.id = dashboardId → captured.updatedAt ≤ d.updatedAt ∧
    (captured.updatedAt = d.updatedAt → d.captured = captured)

/-- Every row was there, or is a row that was there with a later stamp. -/
def Stamps (dashboards dashboards' : Table Dashboard) : Prop :=
  ∀ d' ∈ dashboards', d' ∈ dashboards ∨
    ∃ d ∈ dashboards, d.id = d'.id ∧ d.updatedAt < d'.updatedAt

/-- What was captured fresh stays fresh, since edits stamp the row later. -/
theorem Fresh.stamps {dashboards dashboards' : Table Dashboard} {dashboardId : Uuid}
    {captured : CapturedDashboard} (hFresh : Fresh dashboards dashboardId captured)
    (h : Stamps dashboards dashboards') : Fresh dashboards' dashboardId captured := by
  intro d' hd' hId
  rcases h d' hd' with hOld | ⟨d, hd, hSame, hLater⟩
  · exact hFresh d' hOld hId
  · have hLe := (hFresh d hd (hSame.trans hId)).1
    exact ⟨hLe.trans hLater.le, fun hEq => absurd hEq (lt_of_le_of_lt hLe hLater).ne⟩

/-- What is captured of a row is its definition. -/
theorem fresh_captured {dashboards : Table Dashboard} {row : Dashboard} (hRow : row ∈ dashboards) :
    Fresh dashboards row.id row.captured := by
  intro d hd hId
  have hSame : d = row := Table.eq_of_key_eq hd hRow hId
  rw [hSame]
  exact ⟨le_refl _, fun _ => rfl⟩

namespace SnapshotState

variable {settings : SnapshotSettings} {s s' : SnapshotState} {i j : Nat} {m : Materialization}
  {dashboardId : Uuid} {captured : CapturedDashboard} {c : SnapshotClient}

/-- The definitions that the calls hold, and those of the commits at their time, are fresh. -/
structure Definitions (s : SnapshotState) : Prop where
  client : ∀ (j : Nat) (c : SnapshotClient) dashboardId captured, s.clients[j]? = some c →
    c.captured? = some (dashboardId, captured) → Fresh s.dashboards dashboardId captured
  commits : ∀ c ∈ s.commits, Fresh c.dashboards c.dashboardId c.captured

/-- What a call holds after a step it held before, or has just read. -/
def Captures (s s' : SnapshotState) : Prop :=
  ∀ (j : Nat) (c : SnapshotClient) dashboardId captured, s'.clients[j]? = some c →
    c.captured? = some (dashboardId, captured) →
      (∃ c₀ : SnapshotClient, s.clients[j]? = some c₀ ∧ c₀.captured? = some (dashboardId, captured)) ∨
        ∃ row ∈ s.dashboards, row.id = dashboardId ∧ row.captured = captured

/-- A step that moves one client captures at most what that client has read. -/
theorem captures_set {client : SnapshotClient} (hClients : s'.clients = s.clients.set i client)
    (hClient : ∀ dashboardId captured, client.captured? = some (dashboardId, captured) →
      (∃ c₀ : SnapshotClient, s.clients[i]? = some c₀ ∧ c₀.captured? = some (dashboardId, captured)) ∨
        ∃ row ∈ s.dashboards, row.id = dashboardId ∧ row.captured = captured) :
    Captures s s' := by
  intro j c dashboardId captured hc hCaptured
  rw [hClients] at hc
  rcases getElem?_set_cases hc with ⟨rfl, rfl⟩ | ⟨-, hOld⟩
  · exact hClient dashboardId captured hCaptured
  · exact .inl ⟨c, hOld, hCaptured⟩

theorem captures_of_eq (hClients : s'.clients = s.clients) : Captures s s' := by
  intro j c dashboardId captured hc hCaptured
  rw [hClients] at hc
  exact .inl ⟨c, hc, hCaptured⟩

theorem captures_finish {client : SnapshotClient} (hEnded : client.captured? = none) :
    Captures s (s.finish i client) :=
  captures_set rfl fun _ _ hCaptured => by rw [hEnded] at hCaptured; cases hCaptured

theorem captures_same {old client : SnapshotClient} (hGet : s.clients[i]? = some old)
    (hClients : s'.clients = s.clients.set i client) (hSame : client.captured? = old.captured?) :
    Captures s s' :=
  captures_set hClients fun _ _ hCaptured => .inl ⟨old, hGet, hSame ▸ hCaptured⟩

/-- One step of a materialisation captures the row it reads, and only then. -/
theorem advance_captures (settings : SnapshotSettings) (s : SnapshotState) (i : Nat)
    (draws : SnapshotDraws) (readable : Bool) (now : Datetime) :
    Captures s (s.advance settings i draws readable now) := by
  unfold advance
  split
  · split
    · split
      · exact captures_finish rfl
      · next row hRow =>
        obtain ⟨hMem, -, hId⟩ := dashboard?_eq_some hRow
        -- Only the first step reads the definition; the others carry it on.
        refine captures_set rfl fun dashboardId captured hCaptured => .inr ⟨row, hMem, ?_⟩
        obtain ⟨hSame, hDefinition⟩ := Prod.mk.inj (Option.some.inj hCaptured)
        exact ⟨hId.trans hSame, hDefinition⟩
    · exact captures_finish rfl
  · next hGet =>
    split
    · exact captures_finish rfl
    · exact captures_same hGet rfl rfl
  · next hGet =>
    split
    · split
      · exact captures_finish rfl
      · exact captures_same hGet rfl rfl
    · exact captures_finish rfl
  · next hGet =>
    split
    · unfold lockDashboard
      split
      · exact captures_finish rfl
      · split
        · exact captures_same hGet rfl rfl
        · exact captures_finish rfl
    · exact captures_of_eq rfl
  · next hGet =>
    split
    · unfold lockJobs
      split
      · exact captures_finish rfl
      · split
        · exact captures_same hGet rfl rfl
        · exact captures_finish rfl
    · exact captures_of_eq rfl
  · next hGet =>
    unfold readLatest
    split
    · exact captures_same hGet rfl rfl
    · split
      · exact captures_finish rfl
      · split
        · exact captures_finish rfl
        · split
          · exact captures_finish rfl
          · exact captures_same hGet rfl rfl
  · unfold commitSnapshot
    split
    · exact captures_finish rfl
    · exact captures_set rfl fun _ _ hCaptured => by cases hCaptured
  · exact captures_of_eq rfl

/-- A call changes no dashboard. -/
theorem advance_dashboards (settings : SnapshotSettings) (s : SnapshotState) (i : Nat)
    (draws : SnapshotDraws) (readable : Bool) (now : Datetime) :
    (s.advance settings i draws readable now).dashboards = s.dashboards := by
  unfold advance lockDashboard lockJobs readLatest commitSnapshot
  repeat' split
  all_goals rfl

/-- A commit is of what the call had captured. -/
theorem advance_commits {draws : SnapshotDraws} {readable : Bool} {now : Datetime}
    {c : SnapshotCommit} (hc : c ∈ (s.advance settings i draws readable now).commits) :
    c ∈ s.commits ∨ ∃ client, s.clients[i]? = some client ∧
      client.captured? = some (c.dashboardId, c.captured) ∧ c.dashboards = s.dashboards := by
  unfold advance lockDashboard lockJobs readLatest at hc
  split at hc
  case h_7 m version hGet =>
    -- Only the last step commits.
    unfold commitSnapshot at hc
    split at hc
    · exact .inl hc
    · rcases List.mem_cons.mp hc with rfl | hOld
      · exact .inr ⟨_, hGet, rfl, rfl⟩
      · exact .inl hOld
  all_goals
    left
    repeat' split at hc
    all_goals exact hc

/-- **Step lemma.** Every step stamps, if an edit does. -/
theorem step_stamps (settings : SnapshotSettings) (timed : TimedSnapshotAction)
    (hStamped : s.stamped timed = true) : Stamps s.dashboards (s.step settings timed).dashboards := by
  unfold step
  split
  · exact fun d hd => .inl hd
  · rw [advance_dashboards]
    exact fun d hd => .inl hd
  · split <;> exact fun d hd => .inl hd
  · next dashboardId title configuration insightConfiguration hAction =>
    unfold stamped at hStamped
    rw [hAction] at hStamped
    -- The condition of the run: the edit is later than the row.
    have hLater := of_decide_eq_true hStamped
    unfold edit
    split
    · next row hRow hFree =>
      obtain ⟨hMem, hKey⟩ := Table.get?_eq_some.mp hRow
      dsimp only
      generalize hEdited : Dashboard.mk row.id row.businessId row.createdByUserId row.dashboardType
        (title.getD row.title) (configuration.getD row.configuration)
        (insightConfiguration.or row.insightConfiguration) row.createdAt timed.now = edited
      have hId : edited.id = row.id := by rw [← hEdited]
      have hStamp : edited.updatedAt = timed.now := by rw [← hEdited]
      cases hUpdate : s.dashboards.update? edited with
      | none => exact fun d hd => .inl hd
      | some dashboards =>
        intro d hd
        rcases (Table.mem_update?_iff hUpdate hMem hId).mp hd with rfl | ⟨hd, -⟩
        · refine .inr ⟨row, hMem, hId.symm, ?_⟩
          rw [hStamp]
          exact hLater row hMem hKey
        · exact .inl hd
    · exact fun d hd => .inl hd
  · unfold deleteDashboard
    split
    · exact fun d hd => .inl (Table.mem_deleteWhere.mp hd).1
    · exact fun d hd => .inl hd
  · unfold changeJob
    repeat' split
    all_goals exact fun d hd => .inl hd
  · unfold deleteJob
    split <;> exact fun d hd => .inl hd

/-- Every step captures at most the row it reads. -/
theorem step_captures (settings : SnapshotSettings) (timed : TimedSnapshotAction) :
    Captures s (s.step settings timed) := by
  unfold step
  split
  · intro j c dashboardId captured hc hCaptured
    rw [List.getElem?_append] at hc
    split at hc
    · exact .inl ⟨c, hc, hCaptured⟩
    · -- A request that arrives has captured nothing.
      rw [List.mem_singleton.mp (List.mem_of_getElem? hc)] at hCaptured
      cases hCaptured
  · exact advance_captures settings s _ _ _ _
  · split
    · exact captures_finish rfl
    · exact captures_of_eq rfl
  · unfold edit
    split <;> exact captures_of_eq rfl
  · unfold deleteDashboard
    split <;> exact captures_of_eq rfl
  · unfold changeJob
    repeat' split
    all_goals exact captures_of_eq rfl
  · unfold deleteJob
    split <;> exact captures_of_eq rfl

/-- A new commit is of what its client captured, over the dashboards as they are. -/
theorem step_commits {timed : TimedSnapshotAction} {c : SnapshotCommit}
    (hc : c ∈ (s.step settings timed).commits) :
    c ∈ s.commits ∨ ∃ (i : Nat) (client : SnapshotClient), s.clients[i]? = some client ∧
      client.captured? = some (c.dashboardId, c.captured) ∧ c.dashboards = s.dashboards := by
  unfold step edit deleteDashboard changeJob deleteJob at hc
  split at hc
  case h_2 i draws readable hAction =>
    -- Only a client that advances commits.
    rcases advance_commits hc with hOld | hNew
    · exact .inl hOld
    · exact .inr ⟨i, hNew⟩
  all_goals
    left
    repeat' split at hc
    all_goals exact hc

/-- Every step keeps what was captured, when edits are stamped. -/
theorem step_definitions (settings : SnapshotSettings) (s : SnapshotState)
    (timed : TimedSnapshotAction) (h : s.Definitions) (hStamped : s.stamped timed = true) :
    (s.step settings timed).Definitions where
  client j c dashboardId captured hc hCaptured := by
    have hStamps := step_stamps settings timed hStamped
    rcases step_captures settings timed j c dashboardId captured hc hCaptured with
      ⟨c₀, hOld, hHeld⟩ | ⟨row, hRow, rfl, rfl⟩
    · exact (h.client j c₀ dashboardId captured hOld hHeld).stamps hStamps
    · exact (fresh_captured hRow).stamps hStamps
  commits c hc := by
    rcases step_commits hc with hOld | ⟨i, client, hClient, hCaptured, hSame⟩
    · exact h.commits c hOld
    · rw [hSame]
      exact h.client i client _ _ hClient hCaptured

/-- **Replay.** A call whose content is that of the latest snapshot answers with it. -/
theorem readLatest_replays (hInv : s.HistoryInvariant settings) {latest : DashboardSnapshot}
    (hGet : s.clients[i]? = some (.jobsLocked m))
    (hLatest : s.latest? m.request.scope m.request.dashboardId = some latest)
    (hContent : m.payload = latest.payload) :
    s.readLatest settings i m = s.finish i (.materialized latest.id true) := by
  obtain ⟨hComputed, hHolds, -⟩ := hInv.client i _ hGet
  have hMem := (latest?_eq_some hInv hHolds hLatest).1
  have hStored := hInv.hash latest hMem
  have hOwn := computePayload_hash hComputed
  -- Equal payloads have equal hashes, and the stored hash is the payload's.
  rw [hContent, hStored] at hOwn
  unfold readLatest
  rw [hLatest]
  dsimp only
  rw [hStored]
  dsimp only
  rw [if_neg (by simp), if_pos (Except.ok.inj hOwn)]

/-- The versions of every dashboard are `1..n`, one snapshot each; adjacent ones have
different content hashes; and a call whose content is that of the latest snapshot answers with
it and adds none. -/
structure VersionHistory (settings : SnapshotSettings) (s : SnapshotState) : Prop where
  gapless : ∀ dashboardId, s.Gapless dashboardId
  unique : ∀ x ∈ s.snapshots, ∀ y ∈ s.snapshots, x.dashboardId = y.dashboardId →
    x.version = y.version → x = y
  adjacent : ∀ x ∈ s.snapshots, ∀ y ∈ s.snapshots, x.dashboardId = y.dashboardId →
    x.version + 1 = y.version → x.contentHash ≠ y.contentHash
  replays : ∀ i m latest, s.clients[i]? = some (.jobsLocked m) →
    s.latest? m.request.scope m.request.dashboardId = some latest →
    m.payload = latest.payload → ∀ draws readable now,
      (s.step settings ⟨now, .advance i draws readable⟩).snapshots = s.snapshots ∧
      (s.step settings ⟨now, .advance i draws readable⟩).clients[i]? =
        some (.materialized latest.id true)

/-- The invariant gives the history of versions. -/
theorem HistoryInvariant.versionHistory (hInv : s.HistoryInvariant settings) :
    s.VersionHistory settings where
  gapless := hInv.gapless
  unique x hx y hy hDashboard hVersion :=
    Table.eq_of_clash hx hy (decide_eq_true ⟨hDashboard, hVersion⟩)
  adjacent := hInv.adjacent
  replays i m latest hGet hLatest hContent draws readable now := by
    -- With equal content the step finishes with the latest snapshot.
    have hStep : s.step settings ⟨now, .advance i draws readable⟩ =
        s.finish i (.materialized latest.id true) := by
      rw [← readLatest_replays hInv hGet hLatest hContent]
      simp only [step, advance, hGet]
    rw [hStep]
    refine ⟨rfl, ?_⟩
    show (s.clients.set i (.materialized latest.id true))[i]? = _
    rw [List.getElem?_set_self', hGet]
    rfl

/-- **Snapshot history.** In every state of every run of materialisations, edits and deletions
of dashboards and changes of jobs, the versions of the dashboards are gapless histories; and
each snapshot was computed from its source jobs as they were in the database at its commit and
from a definition that compared equal to the row of its dashboard there, which is that row's
own definition when every edit is stamped later than the one before. -/
theorem snapshot_history (settings : SnapshotSettings) (dashboards : Table Dashboard)
    (jobs : Table ReportProcessingJob) (actions : List TimedSnapshotAction) :
    (run (step settings) { dashboards, jobs } actions).VersionHistory settings ∧
    ∀ x ∈ (run (step settings) { dashboards, jobs } actions).snapshots,
      ∃ c ∈ (run (step settings) { dashboards, jobs } actions).commits, c.snapshotId = x.id ∧
        ComputedFrom settings c.captured c.jobs x ∧
        ∃ d ∈ c.dashboards, d.id = x.dashboardId ∧ d.businessId = x.businessId ∧
          c.captured.matches d = true ∧
          (Meets (step settings) (fun s timed => s.stamped timed = true) { dashboards, jobs }
            actions → ComputedFrom settings d.captured c.jobs x) := by
  have hInv : (run (step settings) { dashboards, jobs } actions).HistoryInvariant settings :=
    run_invariant (step_invariant settings) (init_invariant settings dashboards jobs) actions
  refine ⟨hInv.versionHistory, fun x hx => ?_⟩
  obtain ⟨c, hc, hId, hDashboard, ⟨d, hd, hOwn, hBusiness, hMatches⟩, hComputed⟩ :=
    hInv.commits x hx
  refine ⟨c, hc, hId, hComputed, d, hd, hOwn, hBusiness, hMatches, fun hStamped => ?_⟩
  have hInit : Definitions { dashboards, jobs } :=
    ⟨fun _ _ _ _ h => absurd h (by simp), fun _ h => absurd h (by simp)⟩
  have hDefinitions : (run (step settings) { dashboards, jobs } actions).Definitions :=
    run_invariant_of_meets (step_definitions settings) hInit hStamped
  -- The lock compares the stamps; equal stamps of a fresh capture mean equal definitions.
  have hSame : d.updatedAt = c.captured.updatedAt := by
    unfold CapturedDashboard.matches at hMatches
    simp only [Bool.and_eq_true, decide_eq_true_eq] at hMatches
    exact hMatches.1.1.1.1
  have hFresh := hDefinitions.commits c hc d hd (hOwn.trans hDashboard.symm)
  rw [hFresh.2 hSame.symm]
  exact hComputed

end SnapshotState

end SpikeBackend
