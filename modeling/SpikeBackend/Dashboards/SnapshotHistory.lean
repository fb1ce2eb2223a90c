import Mathlib.Algebra.Order.Ring.Int
import SpikeBackend.Model.SnapshotRuns

/-!
# The snapshots of a dashboard

A call of `materialize` holds the lock of its dashboard from before it compares the captured
definition until it commits, and those of its source jobs from before it compares their
signatures. Whatever changed during the computation is found there; what is found unchanged
stays so until the commit. The version is one above the latest, which no other call of the
dashboard moves meanwhile.

* `sourceJobs_of_kept` — locked source jobs are found again;
* `clientInvariant_of_undisturbed` — what keeps the facts of a call;
* `commitSnapshot_invariant` — a commit adds the next version;
* `step_invariant` — what every step keeps.
-/

namespace SpikeBackend

open Relational Text Outcome Machine Locking

-- ---------------------------------------------------------------------------
-- Source jobs
-- ---------------------------------------------------------------------------

variable {settings : SnapshotSettings} {jobs jobs' : Table ReportProcessingJob} {scope : Uuid}

/-- One source job. -/
def sourceJob? (jobs : Table ReportProcessingJob) (scope sourceId : Uuid) :
    Except DashboardSnapshotError ReportProcessingJob :=
  required (jobs.find? fun job => job.businessId == scope && job.id == sourceId) .sourceNotFound

/-- A source is the job of the business with that id. -/
theorem sourceJob?_eq_ok {sourceId : Uuid} {row : ReportProcessingJob} :
    sourceJob? jobs scope sourceId = .ok row ↔
      row ∈ jobs ∧ row.businessId = scope ∧ row.id = sourceId := by
  unfold sourceJob?
  rw [required_eq_ok]
  constructor
  · intro h
    have hIs := Table.prop_of_find? h
    rw [Bool.and_eq_true, beq_iff_eq, beq_iff_eq] at hIs
    exact ⟨Table.mem_of_find? h, hIs.1, hIs.2⟩
  · rintro ⟨hMem, rfl, rfl⟩
    cases hFound : jobs.find? fun job => job.businessId == row.businessId && job.id == row.id with
    | none =>
      have hNot := Table.find?_eq_none.mp hFound row hMem
      simp at hNot
    | some other =>
      have hIs := Table.prop_of_find? hFound
      rw [Bool.and_eq_true, beq_iff_eq, beq_iff_eq] at hIs
      have hSame : other = row := Table.eq_of_key_eq (Table.mem_of_find? hFound) hMem hIs.2
      rw [hSame]

/-- The sources are the jobs of the request, in its order, and all of them are completed. -/
theorem sourceJobs_eq_ok {sourceIds : List Uuid} {rows : List ReportProcessingJob} :
    sourceJobs jobs scope sourceIds = .ok rows ↔
      List.Forall₂ (fun sourceId row => row ∈ jobs ∧ row.businessId = scope ∧ row.id = sourceId)
        sourceIds rows ∧ rows.forM validateCompletedJob = .ok () := by
  have hRows : sourceIds.mapM (sourceJob? jobs scope) = .ok rows ↔ List.Forall₂
      (fun sourceId row => row ∈ jobs ∧ row.businessId = scope ∧ row.id = sourceId)
        sourceIds rows := by
    rw [mapM_eq_ok]
    simp only [sourceJob?_eq_ok]
  rw [← hRows]
  unfold sourceJobs
  rw [bind_eq_ok]
  constructor
  · rintro ⟨ordered, hOrdered, hRest⟩
    obtain ⟨⟨⟩, hValid, hDone⟩ := bind_eq_ok.mp hRest
    obtain rfl := Except.ok.inj hDone
    exact ⟨hOrdered, hValid⟩
  · rintro ⟨hOrdered, hValid⟩
    refine ⟨rows, hOrdered, ?_⟩
    rw [hValid]
    rfl

/-- The rows of a successful read are of the table. -/
theorem mem_of_sourceJobs {sourceIds : List Uuid} {rows : List ReportProcessingJob}
    (h : sourceJobs jobs scope sourceIds = .ok rows) :
    ∀ row ∈ rows, row ∈ jobs ∧ row.businessId = scope ∧ row.id ∈ sourceIds := by
  intro row hRow
  obtain ⟨n, hn⟩ := List.mem_iff_getElem?.mp hRow
  have hAll := (sourceJobs_eq_ok.mp h).1
  have hLength := hAll.length_eq
  obtain ⟨hBound, rfl⟩ := List.getElem?_eq_some_iff.mp hn
  have hPair := (List.forall₂_iff_get.mp hAll).2 n (hLength ▸ hBound) hBound
  simp only [List.get_eq_getElem] at hPair
  exact ⟨hPair.1, hPair.2.1, hPair.2.2 ▸ List.getElem_mem _⟩

/-- They stand in the order of the identifiers. -/
theorem ids_of_sourceJobs {sourceIds : List Uuid} {rows : List ReportProcessingJob}
    (h : sourceJobs jobs scope sourceIds = .ok rows) :
    rows.map ReportProcessingJob.id = sourceIds := by
  have hAll := (sourceJobs_eq_ok.mp h).1
  clear h
  induction hAll with
  | nil => rfl
  | cons hPair _ ih => rw [List.map_cons, hPair.2.2, ih]

/-- **Locked jobs.** Rows that stay are found again. -/
theorem sourceJobs_of_kept {sourceIds : List Uuid} {rows : List ReportProcessingJob}
    (h : sourceJobs jobs scope sourceIds = .ok rows) (hKept : ∀ row ∈ rows, row ∈ jobs') :
    sourceJobs jobs' scope sourceIds = .ok rows := by
  obtain ⟨hAll, hValid⟩ := sourceJobs_eq_ok.mp h
  refine sourceJobs_eq_ok.mpr ⟨?_, hValid⟩
  clear h hValid
  induction hAll with
  | nil => exact .nil
  | cons hPair _ ih =>
    refine .cons ⟨hKept _ List.mem_cons_self, hPair.2⟩ ?_
    exact ih fun row hRow => hKept row (List.mem_cons_of_mem _ hRow)

/-- The snapshot was computed from the definition and from source jobs of its business as they
are in the table. -/
def ComputedFrom (settings : SnapshotSettings) (captured : CapturedDashboard)
    (jobs : Table ReportProcessingJob) (x : DashboardSnapshot) : Prop :=
  ∃ sourceIds rows, sourceJobs jobs x.businessId sourceIds = .ok rows ∧
    settings.computePayload x.dashboardId captured (rows.map ReportProcessingJob.source) =
      .ok (x.payload, x.contentHash)

namespace SnapshotState

variable {s s' : SnapshotState} {i j : Nat} {m : Materialization} {request : SnapshotRequest}
  {now : Datetime}

/-- What is found is a dashboard of the business with that id. -/
theorem dashboard?_eq_some {dashboardId : Uuid} {row : Dashboard}
    (h : s.dashboard? scope dashboardId = some row) :
    row ∈ s.dashboards ∧ row.businessId = scope ∧ row.id = dashboardId := by
  have hIs := Table.prop_of_find? h
  rw [Bool.and_eq_true, beq_iff_eq, beq_iff_eq] at hIs
  exact ⟨Table.mem_of_find? h, hIs.1, hIs.2⟩

-- ---------------------------------------------------------------------------
-- Invariant
-- ---------------------------------------------------------------------------

/-- The payload and the hash are those of what was captured. -/
def Computed (settings : SnapshotSettings) (m : Materialization) : Prop :=
  settings.computePayload m.request.dashboardId m.captured m.jobs = .ok (m.payload, m.contentHash)

/-- The captured jobs are those of the request; a row of one of them has its report upload. -/
structure SourcesOf (s : SnapshotState) (request : SnapshotRequest) (jobs : List SourceJob) :
    Prop where
  ids : jobs.map SourceJob.id = request.sourceIds
  scope : ∀ job ∈ jobs, job.businessId = request.scope
  uploads : ∀ job ∈ jobs, ∀ row ∈ s.jobs, row.id = job.id →
    row.reportUploadId = job.reportUploadId

/-- The call holds the lock of its dashboard, whose row matches what was captured. -/
structure HoldsDashboard (s : SnapshotState) (i : Nat) (m : Materialization) : Prop where
  holder : s.dashboardLocks.holder m.request.dashboardId = some i
  found : ∃ d ∈ s.dashboards, d.id = m.request.dashboardId ∧ d.businessId = m.request.scope ∧
    m.captured.matches d = true

/-- The call holds the locks of its source jobs, whose rows are the captured ones. -/
structure HoldsJobs (s : SnapshotState) (i : Nat) (m : Materialization) : Prop where
  holder : ∀ sourceId ∈ m.request.sourceIds, s.jobLocks.holder sourceId = some i
  found : ∃ rows, sourceJobs s.jobs m.request.scope m.request.sourceIds = .ok rows ∧
    rows.map ReportProcessingJob.source = m.jobs

/-- The version is one above those of the dashboard, and the latest has another content. -/
structure NextVersion (s : SnapshotState) (m : Materialization) (version : Int) : Prop where
  positive : 1 ≤ version
  below : ∀ x ∈ s.snapshots, x.dashboardId = m.request.dashboardId →
    1 ≤ x.version ∧ x.version < version
  taken : ∀ v, 1 ≤ v → v < version → ∃ x ∈ s.snapshots,
    x.dashboardId = m.request.dashboardId ∧ x.version = v
  differs : ∀ x ∈ s.snapshots, x.dashboardId = m.request.dashboardId →
    x.version + 1 = version → x.contentHash ≠ m.contentHash

/-- What a call knows. -/
def ClientInvariant (settings : SnapshotSettings) (s : SnapshotState) (i : Nat) :
    SnapshotClient → Prop
  | .jobsRead request _ jobs => s.SourcesOf request jobs
  | .computed m => Computed settings m ∧ s.SourcesOf m.request m.jobs
  | .dashboardLocked m =>
    Computed settings m ∧ s.SourcesOf m.request m.jobs ∧ s.HoldsDashboard i m
  | .jobsLocked m => Computed settings m ∧ s.HoldsDashboard i m ∧ s.HoldsJobs i m
  | .numbered m version =>
    Computed settings m ∧ s.HoldsDashboard i m ∧ s.HoldsJobs i m ∧ s.NextVersion m version
  | _ => True

/-- The versions of a dashboard are `1..n`. -/
def Gapless (s : SnapshotState) (dashboardId : Uuid) : Prop :=
  ∃ n, ∀ v, (∃ x ∈ s.snapshots, x.dashboardId = dashboardId ∧ x.version = v) ↔ 1 ≤ v ∧ v ≤ n

structure HistoryInvariant (settings : SnapshotSettings) (s : SnapshotState) : Prop where
  /-- the foreign key of the dashboard -/
  owner : ∀ x ∈ s.snapshots, ∃ d ∈ s.dashboards, d.id = x.dashboardId ∧
    d.businessId = x.businessId
  hash : ∀ x ∈ s.snapshots, settings.contentHash x.payload = .ok x.contentHash
  gapless : ∀ dashboardId, s.Gapless dashboardId
  adjacent : ∀ x ∈ s.snapshots, ∀ y ∈ s.snapshots, x.dashboardId = y.dashboardId →
    x.version + 1 = y.version → x.contentHash ≠ y.contentHash
  commits : ∀ x ∈ s.snapshots, ∃ c ∈ s.commits, c.snapshotId = x.id ∧
    c.dashboardId = x.dashboardId ∧ (∃ d ∈ c.dashboards, d.id = x.dashboardId ∧
      d.businessId = x.businessId ∧ c.captured.matches d = true) ∧
      ComputedFrom settings c.captured c.jobs x
  client : ∀ i c, s.clients[i]? = some c → s.ClientInvariant settings i c

/-- What a step leaves to a call: its locks, the rows under them, and the snapshots of the
dashboard that it holds. -/
structure Undisturbed (s s' : SnapshotState) (j : Nat) : Prop where
  dashboardHolder : ∀ k, s.dashboardLocks.holder k = some j → s'.dashboardLocks.holder k = some j
  jobHolder : ∀ k, s.jobLocks.holder k = some j → s'.jobLocks.holder k = some j
  dashboards : ∀ d ∈ s.dashboards, s.dashboardLocks.holder d.id = some j → d ∈ s'.dashboards
  jobs : ∀ row ∈ s.jobs, s.jobLocks.holder row.id = some j → row ∈ s'.jobs
  uploads : ∀ row' ∈ s'.jobs, ∃ row ∈ s.jobs, row.id = row'.id ∧
    row.reportUploadId = row'.reportUploadId
  snapshots : ∀ x, s.dashboardLocks.holder x.dashboardId = some j →
    (x ∈ s'.snapshots ↔ x ∈ s.snapshots)

/-- Sources that were read stay sources under every change that does not disturb the client. -/
theorem SourcesOf.undisturbed {jobs : List SourceJob} (hSources : s.SourcesOf request jobs)
    (h : Undisturbed s s' j) : s'.SourcesOf request jobs where
  ids := hSources.ids
  scope := hSources.scope
  uploads job hJob row' hRow' hId := by
    obtain ⟨row, hRow, hSame, hUpload⟩ := h.uploads row' hRow'
    rw [← hUpload]
    exact hSources.uploads job hJob row hRow (hSame.trans hId)

/-- A locked dashboard stays as it is. -/
theorem HoldsDashboard.undisturbed (hHolds : s.HoldsDashboard j m) (h : Undisturbed s s' j) :
    s'.HoldsDashboard j m where
  holder := h.dashboardHolder _ hHolds.holder
  found := by
    obtain ⟨d, hd, hId, hScope, hMatches⟩ := hHolds.found
    refine ⟨d, h.dashboards d hd ?_, hId, hScope, hMatches⟩
    rw [hId]
    exact hHolds.holder

/-- Locked jobs stay as they are. -/
theorem HoldsJobs.undisturbed (hHolds : s.HoldsJobs j m) (h : Undisturbed s s' j) :
    s'.HoldsJobs j m where
  holder sourceId hMem := h.jobHolder _ (hHolds.holder sourceId hMem)
  found := by
    obtain ⟨rows, hRows, hSame⟩ := hHolds.found
    refine ⟨rows, sourceJobs_of_kept hRows fun row hRow => ?_, hSame⟩
    obtain ⟨hMem, -, hId⟩ := mem_of_sourceJobs hRows row hRow
    exact h.jobs row hMem (hHolds.holder _ hId)

/-- While the dashboard is locked its next version stays free. -/
theorem NextVersion.undisturbed {version : Int} (hNext : s.NextVersion m version)
    (hHolds : s.HoldsDashboard j m) (h : Undisturbed s s' j) : s'.NextVersion m version := by
  have hSame : ∀ x, x.dashboardId = m.request.dashboardId →
      (x ∈ s'.snapshots ↔ x ∈ s.snapshots) := by
    intro x hx
    refine h.snapshots x ?_
    rw [hx]
    exact hHolds.holder
  refine ⟨hNext.positive, fun x hx hId => hNext.below x ((hSame x hId).mp hx) hId,
    fun v hPos hLess => ?_, fun x hx hId => hNext.differs x ((hSame x hId).mp hx) hId⟩
  obtain ⟨x, hx, hId, hVersion⟩ := hNext.taken v hPos hLess
  exact ⟨x, (hSame x hId).mpr hx, hId, hVersion⟩

/-- What is known of a client stays true under the steps of the others. -/
theorem clientInvariant_of_undisturbed {c : SnapshotClient}
    (hClient : s.ClientInvariant settings j c) (h : Undisturbed s s' j) :
    s'.ClientInvariant settings j c := by
  cases c with
  | jobsRead request captured jobs =>
    have hSources : s.SourcesOf request jobs := hClient
    exact hSources.undisturbed h
  | computed m => exact ⟨hClient.1, hClient.2.undisturbed h⟩
  | dashboardLocked m =>
    obtain ⟨hComputed, hSources, hHolds⟩ := hClient
    exact ⟨hComputed, hSources.undisturbed h, hHolds.undisturbed h⟩
  | jobsLocked m =>
    obtain ⟨hComputed, hHolds, hJobs⟩ := hClient
    exact ⟨hComputed, hHolds.undisturbed h, hJobs.undisturbed h⟩
  | numbered m version =>
    obtain ⟨hComputed, hHolds, hJobs, hNext⟩ := hClient
    exact ⟨hComputed, hHolds.undisturbed h, hJobs.undisturbed h, hNext.undisturbed hHolds h⟩
  | _ => trivial

/-- A step that changes locks alone. -/
theorem Undisturbed.of_locks (hDashboards : s'.dashboards = s.dashboards) (hJobs : s'.jobs = s.jobs)
    (hSnapshots : s'.snapshots = s.snapshots)
    (hDashboard : ∀ k, s.dashboardLocks.holder k = some j → s'.dashboardLocks.holder k = some j)
    (hJob : ∀ k, s.jobLocks.holder k = some j → s'.jobLocks.holder k = some j) :
    Undisturbed s s' j where
  dashboardHolder := hDashboard
  jobHolder := hJob
  dashboards d hd _ := hDashboards ▸ hd
  jobs row hRow _ := hJobs ▸ hRow
  uploads row hRow := ⟨row, hJobs ▸ hRow, rfl, rfl⟩
  snapshots x _ := by rw [hSnapshots]

/-- A step that adds no snapshot keeps the invariant when it leaves every call undisturbed but
the one that it moves. -/
theorem HistoryInvariant.of_moved (hInv : s.HistoryInvariant settings)
    (hSnapshots : s'.snapshots = s.snapshots) (hCommits : s'.commits = s.commits)
    (hOwners : ∀ d ∈ s.dashboards, ∃ d' ∈ s'.dashboards, d'.id = d.id ∧
      d'.businessId = d.businessId)
    (hClients : ∀ j c, s'.clients[j]? = some c →
      s.clients[j]? = some c ∧ Undisturbed s s' j ∨ s'.ClientInvariant settings j c) :
    s'.HistoryInvariant settings where
  owner x hx := by
    rw [hSnapshots] at hx
    obtain ⟨d, hd, hId, hBusiness⟩ := hInv.owner x hx
    obtain ⟨d', hd', hId', hBusiness'⟩ := hOwners d hd
    exact ⟨d', hd', hId'.trans hId, hBusiness'.trans hBusiness⟩
  hash x hx := hInv.hash x (hSnapshots ▸ hx)
  -- no snapshot has changed, so the history of each dashboard is the same
  gapless dashboardId := by
    unfold Gapless
    rw [hSnapshots]
    exact hInv.gapless dashboardId
  adjacent := by
    rw [hSnapshots]
    exact hInv.adjacent
  commits := by
    rw [hSnapshots, hCommits]
    exact hInv.commits
  client j c hc := by
    rcases hClients j c hc with ⟨hOld, hRest⟩ | hNew
    · exact clientInvariant_of_undisturbed (hInv.client j c hOld) hRest
    · exact hNew

-- ---------------------------------------------------------------------------
-- Statements before the commit
-- ---------------------------------------------------------------------------

theorem proceed_undisturbed (s : SnapshotState) (i : Nat) (c : SnapshotClient) (j : Nat) :
    Undisturbed s (s.proceed i c) j :=
  .of_locks rfl rfl rfl (fun _ h => h) fun _ h => h

theorem finish_undisturbed (hne : j ≠ i) (c : SnapshotClient) : Undisturbed s (s.finish i c) j :=
  .of_locks rfl rfl rfl (fun _ h => Locks.holder_release.mpr ⟨h, hne⟩)
    fun _ h => Locks.holder_release.mpr ⟨h, hne⟩

/-- A client that moves on, if what is known of it afterwards holds. -/
theorem proceed_invariant (hInv : s.HistoryInvariant settings) {c : SnapshotClient}
    (hClient : s.ClientInvariant settings i c) :
    (s.proceed i c).HistoryInvariant settings := by
  refine hInv.of_moved rfl rfl (fun d hd => ⟨d, hd, rfl, rfl⟩) fun j c' hc' => ?_
  rcases getElem?_set_cases hc' with ⟨rfl, rfl⟩ | ⟨-, hOld⟩
  · exact .inr (clientInvariant_of_undisturbed hClient (proceed_undisturbed s _ _ _))
  · exact .inl ⟨hOld, proceed_undisturbed s i c j⟩

theorem clientInvariant_of_ended {c : SnapshotClient} (hEnded : c.isOpen = false) :
    s.ClientInvariant settings i c := by
  cases c <;> trivial

/-- A client that ends keeps the invariant. -/
theorem finish_invariant (hInv : s.HistoryInvariant settings) {c : SnapshotClient}
    (hEnded : c.isOpen = false) : (s.finish i c).HistoryInvariant settings := by
  refine hInv.of_moved rfl rfl (fun d hd => ⟨d, hd, rfl, rfl⟩) fun j c' hc' => ?_
  rcases getElem?_set_cases hc' with ⟨rfl, rfl⟩ | ⟨hne, hOld⟩
  · exact .inr (clientInvariant_of_ended hEnded)
  · exact .inl ⟨hOld, finish_undisturbed hne c⟩

/-- What `materialize` reads of its jobs. -/
theorem readJobs_sources {captured : CapturedDashboard} {jobs : List SourceJob}
    (h : s.readJobs settings request captured = .ok jobs) : s.SourcesOf request jobs := by
  unfold readJobs at h
  rw [bind_eq_ok] at h
  obtain ⟨rows, hRows, h⟩ := h
  -- the jobs are read once, and checked against the captured definition
  have hJobs : rows.map ReportProcessingJob.source = jobs := by
    dsimp only at h
    split at h
    · exact Except.ok.inj h
    · obtain ⟨mapped, -, h⟩ := bind_eq_ok.mp h
      obtain ⟨-, -, hDone⟩ := bind_eq_ok.mp h
      exact Except.ok.inj hDone
  rw [← hJobs]
  refine ⟨?_, fun job hJob => ?_, fun job hJob row hRow hId => ?_⟩
  · rw [List.map_map]
    exact ids_of_sourceJobs hRows
  · obtain ⟨row, hMem, rfl⟩ := List.mem_map.mp hJob
    exact (mem_of_sourceJobs hRows row hMem).2.1
  · obtain ⟨row', hMem, rfl⟩ := List.mem_map.mp hJob
    have hSame : row = row' := Table.eq_of_key_eq hRow (mem_of_sourceJobs hRows row' hMem).1 hId
    rw [hSame]
    rfl

/-- The lock of the dashboard, and the comparison with the captured definition under it. -/
theorem lockDashboard_invariant (hInv : s.HistoryInvariant settings)
    (hComputed : Computed settings m) (hSources : s.SourcesOf m.request m.jobs)
    (hFree : s.dashboardLocks.available m.request.dashboardId i = true) :
    (s.lockDashboard i m).HistoryInvariant settings := by
  unfold lockDashboard
  split
  · exact finish_invariant hInv rfl
  · next row hRow =>
    obtain ⟨hMem, hScope, hId⟩ := dashboard?_eq_some hRow
    split
    · next hMatches =>
      refine hInv.of_moved rfl rfl (fun d hd => ⟨d, hd, rfl, rfl⟩) fun j c' hc' => ?_
      rcases getElem?_set_cases hc' with ⟨rfl, rfl⟩ | ⟨-, hOld⟩
      · refine .inr ⟨hComputed, ⟨hSources.ids, hSources.scope, hSources.uploads⟩, ?_, ?_⟩
        · exact Locks.holder_acquire_of_mem (List.mem_singleton_self _)
        · exact ⟨row, hMem, hId, hScope, hMatches⟩
      · -- the other clients hold other rows, so they keep their locks
        refine .inl ⟨hOld, .of_locks rfl rfl rfl (fun k hk => ?_) fun _ h => h⟩
        refine Locks.holder_acquire_of_holder (fun k' hk' => ?_) hk
        rw [List.mem_singleton.mp hk']
        exact hFree
    · exact finish_invariant hInv rfl

/-- Rows of the captured jobs, with the captured signatures, are the captured jobs. -/
theorem SourcesOf.eq_of_signatures {jobs : List SourceJob} {rows : List ReportProcessingJob}
    (hSources : s.SourcesOf request jobs)
    (hRows : sourceJobs s.jobs request.scope request.sourceIds = .ok rows)
    (hSignatures : rows.map ReportProcessingJob.signature = jobs.map SourceJob.signature) :
    rows.map ReportProcessingJob.source = jobs := by
  have hIds : rows.map ReportProcessingJob.id = jobs.map SourceJob.id :=
    (ids_of_sourceJobs hRows).trans hSources.ids.symm
  have hLength : rows.length = jobs.length := by
    simpa only [List.length_map] using congrArg List.length hIds
  -- row by row: the signature says everything that a source has, but for its upload
  refine List.ext_getElem (by rw [List.length_map, hLength]) fun n hn hn' => ?_
  rw [List.length_map] at hn
  rw [List.getElem_map]
  have hRow := List.getElem_mem hn
  have hJob := List.getElem_mem hn'
  obtain ⟨hMem, hScope, -⟩ := mem_of_sourceJobs hRows _ hRow
  have hId : rows[n].id = jobs[n].id := by
    have hAt := congrArg (·[n]?) hIds
    simpa [List.getElem?_eq_getElem hn, List.getElem?_eq_getElem hn'] using hAt
  have hSignature : rows[n].signature = jobs[n].signature := by
    have hAt := congrArg (·[n]?) hSignatures
    simpa [List.getElem?_eq_getElem hn, List.getElem?_eq_getElem hn'] using hAt
  have hBusiness : rows[n].businessId = jobs[n].businessId :=
    hScope.trans (hSources.scope _ hJob).symm
  have hUpload := hSources.uploads _ hJob _ hMem hId
  unfold ReportProcessingJob.source
  rw [hId, hBusiness, hUpload, hSignature]

/-- The locks of the jobs, and the comparison of their signatures under them. -/
theorem lockJobs_invariant (hInv : s.HistoryInvariant settings)
    (hComputed : Computed settings m) (hSources : s.SourcesOf m.request m.jobs)
    (hHolds : s.HoldsDashboard i m)
    (hFree : m.request.sourceIds.all (s.jobLocks.available · i) = true) :
    (s.lockJobs i m).HistoryInvariant settings := by
  unfold lockJobs
  split
  · exact finish_invariant hInv rfl
  · next rows hRows =>
    split
    · next hSignatures =>
      refine hInv.of_moved rfl rfl (fun d hd => ⟨d, hd, rfl, rfl⟩) fun j c' hc' => ?_
      rcases getElem?_set_cases hc' with ⟨rfl, rfl⟩ | ⟨-, hOld⟩
      · refine .inr ⟨hComputed, ⟨hHolds.holder, hHolds.found⟩, fun sourceId hMem => ?_, rows,
          hRows, hSources.eq_of_signatures hRows hSignatures⟩
        exact Locks.holder_acquire_of_mem hMem
      · refine .inl ⟨hOld, .of_locks rfl rfl rfl (fun _ h => h) fun k hk => ?_⟩
        exact Locks.holder_acquire_of_holder (List.all_eq_true.mp hFree) hk
    · exact finish_invariant hInv rfl

-- ---------------------------------------------------------------------------
-- Version and commit
-- ---------------------------------------------------------------------------

/-- The snapshots of the dashboard are those of its business. -/
theorem snapshot_scope (hInv : s.HistoryInvariant settings) (hHolds : s.HoldsDashboard i m)
    {x : DashboardSnapshot} (hx : x ∈ s.snapshots)
    (hDashboard : x.dashboardId = m.request.dashboardId) : x.businessId = m.request.scope := by
  obtain ⟨d, hd, hId, hBusiness⟩ := hInv.owner x hx
  obtain ⟨d', hd', hId', hScope, -⟩ := hHolds.found
  have hSame : d = d' := Table.eq_of_key_eq hd hd' (hId.trans (hDashboard.trans hId'.symm))
  rw [← hBusiness, hSame, hScope]

/-- A dashboard without a latest snapshot has none. -/
theorem latest?_eq_none (hInv : s.HistoryInvariant settings) (hHolds : s.HoldsDashboard i m)
    (h : s.latest? m.request.scope m.request.dashboardId = none) :
    ∀ x ∈ s.snapshots, x.dashboardId ≠ m.request.dashboardId := by
  intro x hx hDashboard
  have hNot := Table.latest?_eq_none h x hx
  rw [snapshot_scope hInv hHolds hx hDashboard, hDashboard] at hNot
  simp at hNot

/-- **Latest.** It has the last of the versions. -/
theorem latest?_eq_some (hInv : s.HistoryInvariant settings) (hHolds : s.HoldsDashboard i m)
    {latest : DashboardSnapshot}
    (h : s.latest? m.request.scope m.request.dashboardId = some latest) :
    latest ∈ s.snapshots ∧ latest.dashboardId = m.request.dashboardId ∧
      ∀ v, (∃ x ∈ s.snapshots, x.dashboardId = m.request.dashboardId ∧ x.version = v) ↔
        1 ≤ v ∧ v ≤ latest.version := by
  obtain ⟨hMem, hIs, hLatest⟩ := Table.latest?_eq_some h
  rw [Bool.and_eq_true, beq_iff_eq, beq_iff_eq] at hIs
  obtain ⟨n, hn⟩ := hInv.gapless m.request.dashboardId
  have hBounds := (hn latest.version).mp ⟨latest, hMem, hIs.2, rfl⟩
  have hLast : n ≤ latest.version := by
    obtain ⟨x, hx, hDashboard, hVersion⟩ := (hn n).mpr ⟨by omega, le_refl n⟩
    have hScope := snapshot_scope hInv hHolds hx hDashboard
    have hLe := hLatest x hx (by rw [hScope, hDashboard]; simp)
    omega
  have hSame : n = latest.version := by omega
  rw [hSame] at hn
  exact ⟨hMem, hIs.2, hn⟩

/-- The latest snapshot under the locks: a replay, or the next version. -/
theorem readLatest_invariant (hInv : s.HistoryInvariant settings)
    (hComputed : Computed settings m) (hHolds : s.HoldsDashboard i m) (hJobs : s.HoldsJobs i m) :
    (s.readLatest settings i m).HistoryInvariant settings := by
  unfold readLatest
  split
  · next hNone =>
    have hOut := latest?_eq_none hInv hHolds hNone
    refine proceed_invariant hInv ⟨hComputed, hHolds, hJobs, le_refl 1, ?_, ?_, ?_⟩
    · exact fun x hx hDashboard => absurd hDashboard (hOut x hx)
    · intro v hPos hLess
      omega
    · exact fun x hx hDashboard => absurd hDashboard (hOut x hx)
  · next latest hSome =>
    obtain ⟨hMem, hDashboard, hVersions⟩ := latest?_eq_some hInv hHolds hSome
    split
    · exact finish_invariant hInv rfl
    · split
      · exact finish_invariant hInv rfl
      · split
        · exact finish_invariant hInv rfl
        · next hDiffers =>
          have hOwn := (hVersions latest.version).mp ⟨latest, hMem, hDashboard, rfl⟩
          refine proceed_invariant hInv ⟨hComputed, hHolds, hJobs, by omega, ?_, ?_, ?_⟩
          · intro x hx hId
            have hBounds := (hVersions x.version).mp ⟨x, hx, hId, rfl⟩
            exact ⟨hBounds.1, by omega⟩
          · intro v hPos hLess
            exact (hVersions v).mpr ⟨hPos, by omega⟩
          · intro x hx hId hNext
            -- the latest snapshot is the only one of its version
            have hClash : Schema.clash x latest = true :=
              decide_eq_true ⟨hId.trans hDashboard.symm, by omega⟩
            rw [Table.eq_of_clash hx hMem hClash]
            exact hDiffers

/-- The hash of a payload is the hash of its content. -/
theorem computePayload_hash {dashboardId : Uuid} {captured : CapturedDashboard}
    {jobs : List SourceJob} {payload : Json} {hash : Str}
    (h : settings.computePayload dashboardId captured jobs = .ok (payload, hash)) :
    settings.contentHash payload = .ok hash := by
  unfold SnapshotSettings.computePayload at h
  obtain ⟨⟨sources, insight⟩, -, h⟩ := bind_eq_ok.mp h
  obtain ⟨payload', -, h⟩ := bind_eq_ok.mp h
  obtain ⟨hash', hHash, hDone⟩ := bind_eq_ok.mp h
  obtain ⟨rfl, rfl⟩ := Prod.mk.inj (Except.ok.inj hDone)
  exact hHash

/-- **Commit.** It adds the next version, with another content than the latest, computed from
the rows under the locks. -/
theorem commitSnapshot_invariant (hInv : s.HistoryInvariant settings) {version : Int}
    (draws : SnapshotDraws) (now : Datetime) (hComputed : Computed settings m)
    (hHolds : s.HoldsDashboard i m) (hJobs : s.HoldsJobs i m) (hNext : s.NextVersion m version) :
    (s.commitSnapshot i m version draws now).HistoryInvariant settings := by
  unfold commitSnapshot
  split
  · exact finish_invariant hInv rfl
  · next snapshots sources hInserted =>
    unfold insertSnapshot at hInserted
    obtain ⟨snapshots', hInsert, hRest⟩ := bind_eq_ok.mp hInserted
    obtain ⟨rows, -, hRest⟩ := bind_eq_ok.mp hRest
    obtain ⟨sources', -, hDone⟩ := bind_eq_ok.mp hRest
    obtain ⟨rfl, rfl⟩ := Prod.mk.inj (Except.ok.inj hDone)
    rw [required_eq_ok] at hInsert
    have hMem := fun x => Table.mem_insert? (x := x) hInsert
    obtain ⟨d, hd, hId, hScope, hMatches⟩ := hHolds.found
    obtain ⟨jobRows, hRows, hSame⟩ := hJobs.found
    refine ⟨fun x hx => ?_, fun x hx => ?_, fun dashboardId => ?_, fun x hx y hy hWith hAdjacent => ?_,
      fun x hx => ?_, fun j c hc => ?_⟩
    · rcases (hMem x).mp hx with rfl | hOld
      · exact ⟨d, hd, hId, hScope⟩
      · exact hInv.owner x hOld
    · rcases (hMem x).mp hx with rfl | hOld
      · exact computePayload_hash hComputed
      · exact hInv.hash x hOld
    · by_cases hOwn : dashboardId = m.request.dashboardId
      · subst hOwn
        refine ⟨version, fun v => ⟨?_, fun hv => ?_⟩⟩
        · rintro ⟨x, hx, hDashboard, rfl⟩
          rcases (hMem x).mp hx with rfl | hOld
          · exact ⟨hNext.positive, le_refl _⟩
          · have hBounds := hNext.below x hOld hDashboard
            exact ⟨hBounds.1, hBounds.2.le⟩
        · rcases lt_or_eq_of_le hv.2 with hLess | rfl
          · obtain ⟨x, hx, hDashboard, hVersion⟩ := hNext.taken v hv.1 hLess
            exact ⟨x, (hMem x).mpr (.inr hx), hDashboard, hVersion⟩
          · exact ⟨_, (hMem _).mpr (.inl rfl), rfl, rfl⟩
      · obtain ⟨n, hn⟩ := hInv.gapless dashboardId
        refine ⟨n, fun v => ?_⟩
        rw [← hn v]
        constructor
        · rintro ⟨x, hx, hDashboard, hVersion⟩
          rcases (hMem x).mp hx with rfl | hOld
          · exact absurd hDashboard.symm hOwn
          · exact ⟨x, hOld, hDashboard, hVersion⟩
        · rintro ⟨x, hx, hRest⟩
          exact ⟨x, (hMem x).mpr (.inr hx), hRest⟩
    · rcases (hMem x).mp hx with rfl | hx
      · rcases (hMem y).mp hy with rfl | hy
        · have hAbove : version + 1 = version := hAdjacent
          omega
        · have hBelow := (hNext.below y hy hWith.symm).2
          have hAbove : version + 1 = y.version := hAdjacent
          omega
      · rcases (hMem y).mp hy with rfl | hy
        · exact hNext.differs x hx hWith hAdjacent
        · exact hInv.adjacent x hx y hy hWith hAdjacent
    · rcases (hMem x).mp hx with rfl | hOld
      · refine ⟨_, List.mem_cons_self, rfl, rfl, ⟨d, hd, hId, hScope, hMatches⟩,
          m.request.sourceIds, jobRows, hRows, ?_⟩
        rw [hSame]
        exact hComputed
      · obtain ⟨c, hc, hRest⟩ := hInv.commits x hOld
        exact ⟨c, List.mem_cons_of_mem _ hc, hRest⟩
    · rcases getElem?_set_cases hc with ⟨rfl, rfl⟩ | ⟨hne, hOld⟩
      · trivial
      · have hEnd := finish_undisturbed (s := s) hne (.materialized draws.snapshotId false)
        refine clientInvariant_of_undisturbed (hInv.client j c hOld) ⟨hEnd.dashboardHolder,
          hEnd.jobHolder, hEnd.dashboards, hEnd.jobs, hEnd.uploads, fun x hHolder => ?_⟩
        -- another call does not hold the lock of this dashboard
        refine (hMem x).trans ⟨?_, .inr⟩
        rintro (rfl | hx)
        · exact absurd (Option.some.inj (hHolder.symm.trans hHolds.holder)) hne
        · exact hx

/-- The next statement of a client, whichever it is. -/
theorem advance_invariant (hInv : s.HistoryInvariant settings) (i : Nat) (draws : SnapshotDraws)
    (readable : Bool) (now : Datetime) :
    (s.advance settings i draws readable now).HistoryInvariant settings := by
  unfold advance
  split
  · split
    · split
      · exact finish_invariant hInv rfl
      · exact proceed_invariant hInv trivial
    · exact finish_invariant hInv rfl
  · split
    · exact finish_invariant hInv rfl
    · next jobs hJobs => exact proceed_invariant hInv (readJobs_sources hJobs)
  · next request captured jobs hGet =>
    split
    · split
      · exact finish_invariant hInv rfl
      · next payload hash hPayload =>
        exact proceed_invariant hInv ⟨hPayload, hInv.client i _ hGet⟩
    · exact finish_invariant hInv rfl
  · -- the row lock of the dashboard
    next m hGet =>
    obtain ⟨hComputed, hSources⟩ := hInv.client i _ hGet
    split
    · next hFree => exact lockDashboard_invariant hInv hComputed hSources hFree
    · exact hInv
  · next m hGet =>
    obtain ⟨hComputed, hSources, hHolds⟩ := hInv.client i _ hGet
    split
    · next hFree => exact lockJobs_invariant hInv hComputed hSources hHolds hFree
    · exact hInv
  · -- the row locks of its source jobs
    next m hGet =>
    obtain ⟨hComputed, hHolds, hJobs⟩ := hInv.client i _ hGet
    exact readLatest_invariant hInv hComputed hHolds hJobs
  · next m version hGet =>
    obtain ⟨hComputed, hHolds, hJobs, hNext⟩ := hInv.client i _ hGet
    exact commitSnapshot_invariant hInv draws now hComputed hHolds hJobs hNext
  · exact hInv

-- ---------------------------------------------------------------------------
-- Edits and changes of jobs
-- ---------------------------------------------------------------------------

/-- An edit of a dashboard that nobody has locked. -/
theorem edit_invariant (hInv : s.HistoryInvariant settings) (dashboardId : Uuid)
    (title : Option Str) (configuration insightConfiguration : Option Json) (now : Datetime) :
    (s.edit dashboardId title configuration insightConfiguration now).HistoryInvariant
      settings := by
  unfold edit
  split
  · next row hRow hFree =>
    dsimp only
    generalize hEdited : Dashboard.mk row.id row.businessId row.createdByUserId row.dashboardType
      (title.getD row.title) (configuration.getD row.configuration)
      (insightConfiguration.or row.insightConfiguration) row.createdAt now = edited
    have hId : edited.id = row.id := by rw [← hEdited]
    have hBusiness : edited.businessId = row.businessId := by rw [← hEdited]
    obtain ⟨hMem, hKey⟩ := Table.get?_eq_some.mp hRow
    cases hUpdate : s.dashboards.update? edited with
    | none => exact hInv
    | some dashboards =>
      have hAfter := fun x => Table.mem_update?_iff (x := x) hUpdate hMem hId
      refine hInv.of_moved rfl rfl (fun d hd => ?_) fun j c hc => .inl ⟨hc, ⟨fun _ h => h,
        fun _ h => h, fun d hd hHolder => ?_, fun _ hr _ => hr, fun r hr => ⟨r, hr, rfl, rfl⟩,
        fun _ _ => Iff.rfl⟩⟩
      · by_cases hSame : d.id = row.id
        · have hEq : d = row := Table.eq_of_key_eq hd hMem hSame
          exact ⟨edited, (hAfter edited).mpr (.inl rfl), hId.trans hSame.symm,
            by rw [hBusiness, hEq]⟩
        · exact ⟨d, (hAfter d).mpr (.inr ⟨hd, hSame⟩), rfl, rfl⟩
      · -- the row that is edited is not locked
        refine (hAfter d).mpr (.inr ⟨hd, fun hSame => ?_⟩)
        have hOwn : d.id = dashboardId := hSame.trans hKey
        rw [hOwn, hFree] at hHolder
        cases hHolder
  · exact hInv

/-- A deletion of a dashboard that nobody has locked takes its snapshots along. -/
theorem deleteDashboard_invariant (hInv : s.HistoryInvariant settings) (dashboardId : Uuid) :
    (s.deleteDashboard dashboardId).HistoryInvariant settings := by
  unfold deleteDashboard
  split
  · next hFree =>
    have hUnlocked : ∀ k j, s.dashboardLocks.holder k = some j → k ≠ dashboardId := by
      rintro k j hk rfl
      rw [hk] at hFree
      cases hFree
    have hLeft : ∀ x, x ∈ s.snapshots.deleteWhere (·.dashboardId == dashboardId) ↔
        x ∈ s.snapshots ∧ x.dashboardId ≠ dashboardId := by
      intro x
      rw [Table.mem_deleteWhere, beq_eq_false_iff_ne]
    refine ⟨fun x hx => ?_, fun x hx => ?_, fun other => ?_, fun x hx y hy => ?_, fun x hx => ?_,
      fun j c hc => ?_⟩
    · obtain ⟨hMem, hOther⟩ := (hLeft x).mp hx
      obtain ⟨d, hd, hId, hBusiness⟩ := hInv.owner x hMem
      refine ⟨d, Table.mem_deleteWhere.mpr ⟨hd, ?_⟩, hId, hBusiness⟩
      rw [beq_eq_false_iff_ne, hId]
      exact hOther
    · exact hInv.hash x ((hLeft x).mp hx).1
    · by_cases hOwn : other = dashboardId
      · -- nothing is left of its own history
        refine ⟨0, fun v => ⟨?_, fun hv => ?_⟩⟩
        · rintro ⟨x, hx, hDashboard, -⟩
          exact absurd (hDashboard.trans hOwn) ((hLeft x).mp hx).2
        · omega
      · obtain ⟨n, hn⟩ := hInv.gapless other
        refine ⟨n, fun v => ?_⟩
        rw [← hn v]
        constructor
        · rintro ⟨x, hx, hRest⟩
          exact ⟨x, ((hLeft x).mp hx).1, hRest⟩
        · rintro ⟨x, hx, hDashboard, hVersion⟩
          refine ⟨x, (hLeft x).mpr ⟨hx, ?_⟩, hDashboard, hVersion⟩
          rw [hDashboard]
          exact hOwn
    · exact hInv.adjacent x ((hLeft x).mp hx).1 y ((hLeft y).mp hy).1
    · exact hInv.commits x ((hLeft x).mp hx).1
    · refine clientInvariant_of_undisturbed (hInv.client j c hc) ⟨fun _ h => h, fun _ h => h,
        fun d hd hHolder => ?_, fun _ hr _ => hr, fun r hr => ⟨r, hr, rfl, rfl⟩,
        fun x hHolder => ?_⟩
      · refine Table.mem_deleteWhere.mpr ⟨hd, ?_⟩
        rw [beq_eq_false_iff_ne]
        exact hUnlocked _ _ hHolder
      · rw [hLeft]
        exact ⟨fun h => h.1, fun h => ⟨h, hUnlocked _ _ hHolder⟩⟩
  · exact hInv

/-- A change of a job that nobody has locked. -/
theorem changeJob_invariant (hInv : s.HistoryInvariant settings) (row : ReportProcessingJob) :
    (s.changeJob row).HistoryInvariant settings := by
  unfold changeJob
  split
  · next old hOld hFree =>
    obtain ⟨hMem, hKey⟩ := Table.get?_eq_some.mp hOld
    split
    · next hKeeps =>
      cases hUpdate : s.jobs.update? row with
      | none => exact hInv
      | some jobs =>
        have hAfter := fun x => Table.mem_update?_iff (x := x) hUpdate hMem hKey.symm
        refine hInv.of_moved rfl rfl (fun d hd => ⟨d, hd, rfl, rfl⟩) fun j c hc => .inl ⟨hc,
          ⟨fun _ h => h, fun _ h => h, fun _ hd _ => hd, fun r hr hHolder => ?_, fun r hr => ?_,
            fun _ _ => Iff.rfl⟩⟩
        · -- the changed job is locked by nobody
          refine (hAfter r).mpr (.inr ⟨hr, fun hSame => ?_⟩)
          have hOwn : r.id = row.id := hSame.trans hKey
          rw [hOwn, hFree] at hHolder
          cases hHolder
        · rcases (hAfter r).mp hr with rfl | ⟨hr, -⟩
          · exact ⟨old, hMem, hKey, hKeeps.2.symm⟩
          · exact ⟨r, hr, rfl, rfl⟩
    · exact hInv
  · exact hInv

/-- A deletion of a job that nobody has locked. -/
theorem deleteJob_invariant (hInv : s.HistoryInvariant settings) (jobId : Uuid) :
    (s.deleteJob jobId).HistoryInvariant settings := by
  unfold deleteJob
  split
  · next hFree =>
    refine hInv.of_moved rfl rfl (fun d hd => ⟨d, hd, rfl, rfl⟩) fun j c hc => .inl ⟨hc,
      ⟨fun _ h => h, fun _ h => h, fun _ hd _ => hd, fun r hr hHolder => ?_, fun r hr => ?_,
        fun _ _ => Iff.rfl⟩⟩
    · refine Table.mem_deleteWhere.mpr ⟨hr, beq_eq_false_iff_ne.mpr fun hSame => ?_⟩
      rw [hSame] at hHolder
      rw [hHolder] at hFree
      cases hFree
    · exact ⟨r, (Table.mem_deleteWhere.mp hr).1, rfl, rfl⟩
  · exact hInv

-- ---------------------------------------------------------------------------
-- Runs
-- ---------------------------------------------------------------------------

/-- **Step lemma.** -/
theorem step_invariant (settings : SnapshotSettings) (s : SnapshotState)
    (timed : TimedSnapshotAction) (hInv : s.HistoryInvariant settings) :
    (s.step settings timed).HistoryInvariant settings := by
  unfold step
  split
  · refine hInv.of_moved rfl rfl (fun d hd => ⟨d, hd, rfl, rfl⟩) fun j c hc => ?_
    rw [List.getElem?_append] at hc
    split at hc
    · exact .inl ⟨hc, .of_locks rfl rfl rfl (fun _ h => h) fun _ h => h⟩
    · -- a call that arrives has read nothing
      have hNew := List.mem_singleton.mp (List.mem_of_getElem? hc)
      rw [hNew]
      exact .inr trivial
  · exact advance_invariant hInv _ _ _ _
  · split
    · exact finish_invariant hInv rfl
    · exact hInv
  · exact edit_invariant hInv _ _ _ _ _
  · exact deleteDashboard_invariant hInv _
  · exact changeJob_invariant hInv _
  · exact deleteJob_invariant hInv _

/-- The invariant holds before the first snapshot. -/
theorem init_invariant (settings : SnapshotSettings) (dashboards : Table Dashboard)
    (jobs : Table ReportProcessingJob) : HistoryInvariant settings { dashboards, jobs } where
  owner x h := absurd h (Table.not_mem_empty x)
  hash x h := absurd h (Table.not_mem_empty x)
  gapless dashboardId := by
    refine ⟨0, fun v => ⟨?_, fun hv => ?_⟩⟩
    · rintro ⟨x, h, -⟩
      exact absurd h (Table.not_mem_empty x)
    · omega
  adjacent x h := absurd h (Table.not_mem_empty x)
  commits x h := absurd h (Table.not_mem_empty x)
  client _ _ h := absurd h (by simp)

end SnapshotState

end SpikeBackend
