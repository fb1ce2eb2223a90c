import SpikeBackend.Lib.Locks
import SpikeBackend.Lib.Machine
import SpikeBackend.Model.DashboardSnapshots

/-!
# Runs of snapshot materialisations

Any number of calls of `materialize`, edits and deletions of dashboards, and changes of
processing jobs. A call reads the dashboard, reads its source jobs, computes the payload
outside of any transaction, locks the dashboard and compares, locks the jobs and compares,
reads the latest snapshot, and inserts and commits. A write of a locked row waits.
-/

namespace SpikeBackend

open Relational Text Outcome Locking

/-- A call of `materialize`. -/
structure SnapshotRequest where
  scope : Uuid
  dashboardId : Uuid
  createdByUserId : Uuid
  sourceProcessingJobIds : List Uuid

/-- `sorted(source_processing_job_ids, key=str)`: the texts of UUIDs sort as their values. -/
def SnapshotRequest.sourceIds (request : SnapshotRequest) : List Uuid :=
  request.sourceProcessingJobIds.mergeSort

/-- The source identifiers that `materialize` accepts. -/
def SnapshotRequest.valid (request : SnapshotRequest) : Bool :=
  !request.sourceProcessingJobIds.isEmpty &&
    decide (request.sourceProcessingJobIds.length ≤ dashboardMaxSnapshotSources) &&
    decide request.sourceProcessingJobIds.Nodup

/-- A call that has computed its payload. -/
structure Materialization where
  request : SnapshotRequest
  captured : CapturedDashboard
  jobs : List SourceJob
  payload : Json
  contentHash : Str

/-- How far a call is. -/
inductive SnapshotClient
  | arrived (request : SnapshotRequest)
  | dashboardRead (request : SnapshotRequest) (captured : CapturedDashboard)
  | jobsRead (request : SnapshotRequest) (captured : CapturedDashboard) (jobs : List SourceJob)
  | computed (m : Materialization)
  | dashboardLocked (m : Materialization)
  | jobsLocked (m : Materialization)
  /-- the latest snapshot is read, and it is another one -/
  | numbered (m : Materialization) (version : Int)
  | materialized (snapshotId : Uuid) (replayed : Bool)
  | refused (error : DashboardSnapshotError)
  | rolledBack

/-- The dashboard of the call, with the definition that it captured. -/
def SnapshotClient.captured? : SnapshotClient → Option (Uuid × CapturedDashboard)
  | .dashboardRead request captured | .jobsRead request captured _ =>
    some (request.dashboardId, captured)
  | .computed m | .dashboardLocked m | .jobsLocked m | .numbered m _ =>
    some (m.request.dashboardId, m.captured)
  | _ => none

/-- Its transaction, or the call, has not ended. -/
def SnapshotClient.isOpen : SnapshotClient → Bool
  | .materialized .. | .refused _ | .rolledBack => false
  | _ => true

/-- The identifiers of the rows that a commit adds. -/
structure SnapshotDraws where
  snapshotId : Uuid
  sourceId : Nat → Uuid

inductive SnapshotAction
  | arrive (request : SnapshotRequest)
  /-- call `i` goes on by one statement; `readable` says that the storage answers -/
  | advance (i : Nat) (draws : SnapshotDraws) (readable : Bool)
  | rollback (i : Nat)
  /-- the flush of an edit, with the columns that it writes -/
  | edit (dashboardId : Uuid) (title : Option Str) (configuration insightConfiguration : Option Json)
  | deleteDashboard (dashboardId : Uuid)
  | changeJob (row : ReportProcessingJob)
  | deleteJob (jobId : Uuid)

structure TimedSnapshotAction where
  now : Datetime
  action : SnapshotAction

/-- The commit of a snapshot: the definition that it was computed from, and the rows of the
database at the commit. -/
structure SnapshotCommit where
  snapshotId : Uuid
  dashboardId : Uuid
  captured : CapturedDashboard
  dashboards : Table Dashboard
  jobs : Table ReportProcessingJob

structure SnapshotState where
  dashboards : Table Dashboard := .empty
  jobs : Table ReportProcessingJob := .empty
  snapshots : Table DashboardSnapshot := .empty
  sources : Table DashboardSnapshotSource := .empty
  clients : List SnapshotClient := []
  dashboardLocks : Locks Uuid := .empty
  jobLocks : Locks Uuid := .empty
  commits : List SnapshotCommit := []

namespace Materialization

variable (m : Materialization)

/-- The row of the snapshot. -/
def row (version : Int) (snapshotId : Uuid) (now : Datetime) : DashboardSnapshot :=
  { id := snapshotId
    businessId := m.request.scope
    dashboardId := m.request.dashboardId
    version := version
    payload := m.payload
    contentHash := m.contentHash
    createdByUserId := m.request.createdByUserId
    createdAt := now }

/-- The row of a source: of a locked job, whose signature is the captured one. -/
def sourceRow (draws : SnapshotDraws) (now : Datetime) (job : SourceJob) (position : Nat) :
    Except DashboardSnapshotError DashboardSnapshotSource := do
  let normalizedStorageVersionId ← requiredJobString job.signature.normalizedStorageVersionId
  let normalizedEtag ← requiredJobString job.signature.normalizedEtag
  let profileStorageVersionId ← requiredJobString job.signature.profileStorageVersionId
  let profileEtag ← requiredJobString job.signature.profileEtag
  pure
    { id := draws.sourceId position
      businessId := m.request.scope
      snapshotId := draws.snapshotId
      processingJobId := job.id
      sourcePosition := position
      normalizedStorageVersionId := normalizedStorageVersionId
      normalizedEtag := normalizedEtag
      profileStorageVersionId := profileStorageVersionId
      profileEtag := profileEtag
      createdAt := now }

end Materialization

namespace SnapshotState

variable (settings : SnapshotSettings) (s : SnapshotState)

/-- A call goes on; it keeps the locks that it holds. -/
def proceed (i : Nat) (client : SnapshotClient) : SnapshotState :=
  { s with clients := s.clients.set i client }

/-- The end of a transaction. -/
def finish (i : Nat) (client : SnapshotClient) : SnapshotState :=
  { s with
    clients := s.clients.set i client
    dashboardLocks := s.dashboardLocks.release i
    jobLocks := s.jobLocks.release i }

def dashboard? (scope dashboardId : Uuid) : Option Dashboard :=
  s.dashboards.find? fun d => d.businessId == scope && d.id == dashboardId

/-- `ORDER BY version DESC LIMIT 1`. -/
def latest? (scope dashboardId : Uuid) : Option DashboardSnapshot :=
  s.snapshots.latest? (fun x => x.businessId == scope && x.dashboardId == dashboardId)
    DashboardSnapshot.version

/-- The source jobs are read; the insight configuration must map exactly these. -/
def readJobs (request : SnapshotRequest) (captured : CapturedDashboard) :
    Except DashboardSnapshotError (List SourceJob) := do
  let jobs ← sourceJobs s.jobs request.scope request.sourceIds
  match captured.insightConfiguration with
  | none => pure ()
  | some configuration =>
    let mapped ← required
      (settings.mappedProcessingJobIds captured.dashboardType configuration) .artifact
    ensure (mapped ⊆ request.sourceIds ∧ request.sourceIds ⊆ mapped) .sourceMismatch
  pure (jobs.map ReportProcessingJob.source)

/-- The dashboard is locked, read again and compared. -/
def lockDashboard (i : Nat) (m : Materialization) : SnapshotState :=
  match s.dashboard? m.request.scope m.request.dashboardId with
  | none => s.finish i (.refused .notFound)
  | some row =>
    if m.captured.matches row then
      { s.proceed i (.dashboardLocked m) with
        dashboardLocks := s.dashboardLocks.acquire [m.request.dashboardId] i }
    else s.finish i (.refused .conflict)

/-- The source jobs are locked, read again and compared, in the order of the identifiers. -/
def lockJobs (i : Nat) (m : Materialization) : SnapshotState :=
  match sourceJobs s.jobs m.request.scope m.request.sourceIds with
  | .error e => s.finish i (.refused e)
  | .ok rows =>
    if rows.map ReportProcessingJob.signature = m.jobs.map SourceJob.signature then
      { s.proceed i (.jobsLocked m) with
        jobLocks := s.jobLocks.acquire m.request.sourceIds i }
    else s.finish i (.refused .conflict)

/-- The latest snapshot is read and checked; one with the same content is the answer. -/
def readLatest (i : Nat) (m : Materialization) : SnapshotState :=
  match s.latest? m.request.scope m.request.dashboardId with
  | none => s.proceed i (.numbered m 1)
  | some latest =>
    match settings.contentHash latest.payload with
    | .error e => s.finish i (.refused e)
    | .ok hash =>
      if hash ≠ latest.contentHash then s.finish i (.refused .artifact)
      else if latest.contentHash = m.contentHash then s.finish i (.materialized latest.id true)
      else s.proceed i (.numbered m (latest.version + 1))

/-- The rows of a snapshot, or the error that its insert raises. -/
def insertSnapshot (m : Materialization) (version : Int) (draws : SnapshotDraws)
    (now : Datetime) : Except DashboardSnapshotError
      (Table DashboardSnapshot × Table DashboardSnapshotSource) := do
  let snapshots ← required (s.snapshots.insert? (m.row version draws.snapshotId now)) .conflict
  let rows ← m.jobs.zipIdx.mapM fun (job, position) => m.sourceRow draws now job position
  let sources ← required (rows.foldlM Table.insert? s.sources) .conflict
  pure (snapshots, sources)

def commitSnapshot (i : Nat) (m : Materialization) (version : Int) (draws : SnapshotDraws)
    (now : Datetime) : SnapshotState :=
  match s.insertSnapshot m version draws now with
  | .error e => s.finish i (.refused e)
  | .ok (snapshots, sources) =>
    { s.finish i (.materialized draws.snapshotId false) with
      snapshots := snapshots
      sources := sources
      commits := ⟨draws.snapshotId, m.request.dashboardId, m.captured, s.dashboards, s.jobs⟩ ::
        s.commits }

/-- Call `i` goes on by one statement. -/
def advance (i : Nat) (draws : SnapshotDraws) (readable : Bool) (now : Datetime) :
    SnapshotState :=
  match s.clients[i]? with
  | some (.arrived request) =>
    if request.valid then
      match s.dashboard? request.scope request.dashboardId with
      | none => s.finish i (.refused .notFound)
      | some row => s.proceed i (.dashboardRead request row.captured)
    else s.finish i (.refused .invalidSources)
  | some (.dashboardRead request captured) =>
    match s.readJobs settings request captured with
    | .error e => s.finish i (.refused e)
    | .ok jobs => s.proceed i (.jobsRead request captured jobs)
  | some (.jobsRead request captured jobs) =>
    if readable then
      match settings.computePayload request.dashboardId captured jobs with
      | .error e => s.finish i (.refused e)
      | .ok (payload, hash) => s.proceed i (.computed ⟨request, captured, jobs, payload, hash⟩)
    else s.finish i (.refused .storage)
  | some (.computed m) =>
    if s.dashboardLocks.available m.request.dashboardId i then s.lockDashboard i m else s
  | some (.dashboardLocked m) =>
    if m.request.sourceIds.all (s.jobLocks.available · i) then s.lockJobs i m else s
  | some (.jobsLocked m) => s.readLatest settings i m
  | some (.numbered m version) => s.commitSnapshot i m version draws now
  | _ => s

/-- An edit waits for the row, and stamps it. -/
def edit (dashboardId : Uuid) (title : Option Str) (configuration insightConfiguration : Option Json)
    (now : Datetime) : SnapshotState :=
  match s.dashboards.get? dashboardId, s.dashboardLocks.holder dashboardId with
  | some row, none =>
    let edited : Dashboard :=
      { row with
        title := title.getD row.title
        configuration := configuration.getD row.configuration
        insightConfiguration := insightConfiguration.or row.insightConfiguration
        updatedAt := now }
    { s with dashboards := (s.dashboards.update? edited).getD s.dashboards }
  | _, _ => s

/-- A dashboard goes with its snapshots and their sources. -/
def deleteDashboard (dashboardId : Uuid) : SnapshotState :=
  if (s.dashboardLocks.holder dashboardId).isNone then
    { s with
      dashboards := s.dashboards.deleteWhere (·.id == dashboardId)
      snapshots := s.snapshots.deleteWhere (·.dashboardId == dashboardId)
      sources := s.sources.deleteWhere fun source =>
        s.snapshots.rows.any fun x => x.id == source.snapshotId && x.dashboardId == dashboardId }
  else s

/-- A change of a job keeps the business and the report upload, which no operation writes. -/
def changeJob (row : ReportProcessingJob) : SnapshotState :=
  match s.jobs.get? row.id, s.jobLocks.holder row.id with
  | some old, none =>
    if row.businessId = old.businessId ∧ row.reportUploadId = old.reportUploadId then
      { s with jobs := (s.jobs.update? row).getD s.jobs }
    else s
  | _, _ => s

/-- A job goes with the source rows that name it. -/
def deleteJob (jobId : Uuid) : SnapshotState :=
  if (s.jobLocks.holder jobId).isNone then
    { s with
      jobs := s.jobs.deleteWhere (·.id == jobId)
      sources := s.sources.deleteWhere (·.processingJobId == jobId) }
  else s

def step (timed : TimedSnapshotAction) : SnapshotState :=
  match timed.action with
  | .arrive request => { s with clients := s.clients ++ [.arrived request] }
  | .advance i draws readable => s.advance settings i draws readable timed.now
  | .rollback i =>
    if (s.clients[i]?).any SnapshotClient.isOpen then s.finish i .rolledBack else s
  | .edit dashboardId title configuration insightConfiguration =>
    s.edit dashboardId title configuration insightConfiguration timed.now
  | .deleteDashboard dashboardId => s.deleteDashboard dashboardId
  | .changeJob row => s.changeJob row
  | .deleteJob jobId => s.deleteJob jobId

/-- The clock has moved on since the dashboard that is edited was last stamped. -/
def stamped (timed : TimedSnapshotAction) : Bool :=
  match timed.action with
  | .edit dashboardId .. => decide (∀ d ∈ s.dashboards, d.id = dashboardId → d.updatedAt < timed.now)
  | _ => true

end SnapshotState

end SpikeBackend
