import Mathlib.Data.List.Sort
import SpikeBackend.Lib.Hex
import SpikeBackend.Model.Dashboards
import SpikeBackend.Model.Processing

/-!
# Dashboard snapshots

The rows of `dashboard_snapshots` and `dashboard_snapshot_sources`
(`app/models/dashboard.py`) and the statements of `DashboardSnapshotService.materialize`
(`app/services/dashboard_snapshots.py`).
-/

namespace SpikeBackend

open Relational Text Outcome

def dashboardSnapshotSchemaVersion : Int := 1

def dashboardSnapshotFormat : Str := str "spike.dashboard-snapshot"

def dashboardMaxSnapshotSources : Nat := 20

def dashboardMaxSnapshotPayloadBytes : Nat := 4 * 1024 * 1024

def reportMaxNormalizedCompressedBytes : Int := 50 * 1024 * 1024

inductive DashboardSnapshotError
  | invalidSources
  | notFound
  | sourceNotFound
  | sourceNotReady
  | sourceMismatch
  | artifact
  | storage
  | conflict
  deriving DecidableEq, Repr

-- ---------------------------------------------------------------------------
-- Rows
-- ---------------------------------------------------------------------------

structure DashboardSnapshot where
  id : Uuid
  businessId : Uuid
  dashboardId : Uuid
  version : Int
  schemaVersion : Int := dashboardSnapshotSchemaVersion
  payload : Json
  contentHash : Str
  createdByUserId : Uuid
  createdAt : Datetime

/-- `content_hash ~ '^[0-9a-f]{64}$'`. -/
def isContentHash (s : Str) : Bool :=
  s.length == 64 && s.all fun c =>
    (0x30 ≤ c.val && c.val ≤ 0x39) || (0x61 ≤ c.val && c.val ≤ 0x66)

/-- One row per version of a dashboard. -/
instance : Schema DashboardSnapshot Uuid where
  key := DashboardSnapshot.id
  clash a b := decide (a.dashboardId = b.dashboardId ∧ a.version = b.version)
  checks r :=
    decide (1 ≤ r.version) && decide (r.schemaVersion = dashboardSnapshotSchemaVersion) &&
      r.payload.isObject && isContentHash r.contentHash
  clash_comm a b := decide_eq_decide.mpr (by rw [eq_comm, eq_comm (a := a.version)])

structure DashboardSnapshotSource where
  id : Uuid
  businessId : Uuid
  snapshotId : Uuid
  processingJobId : Uuid
  sourcePosition : Int
  normalizedStorageVersionId : Str
  normalizedEtag : Str
  profileStorageVersionId : Str
  profileEtag : Str
  createdAt : Datetime

instance : Schema DashboardSnapshotSource Uuid where
  key := DashboardSnapshotSource.id
  clash a b := a.snapshotId == b.snapshotId &&
    (a.sourcePosition == b.sourcePosition || a.processingJobId == b.processingJobId)
  checks r :=
    decide (0 ≤ r.sourcePosition) && !r.normalizedStorageVersionId.isEmpty &&
      !r.normalizedEtag.isEmpty && !r.profileStorageVersionId.isEmpty && !r.profileEtag.isEmpty
  clash_comm a b := by
    rw [Bool.eq_iff_iff]
    simp only [Bool.and_eq_true, Bool.or_eq_true, beq_iff_eq]
    constructor
    · rintro ⟨h, h'⟩
      exact ⟨h.symm, h'.imp Eq.symm Eq.symm⟩
    · rintro ⟨h, h'⟩
      exact ⟨h.symm, h'.imp Eq.symm Eq.symm⟩

-- ---------------------------------------------------------------------------
-- Source jobs
-- ---------------------------------------------------------------------------

/-- `_job_signature`. -/
structure JobSignature where
  status : ReportProcessingStatus
  resultStorageBucket : Option Str
  normalizedStorageKey : Option Str
  normalizedStorageVersionId : Option Str
  normalizedEtag : Option Str
  normalizedSizeBytes : Option Int
  profileStorageKey : Option Str
  profileStorageVersionId : Option Str
  profileEtag : Option Str
  recordCount : Option Int
  sheetCount : Option Int
  deriving DecidableEq

/-- The columns of a job that a snapshot is computed from. -/
structure SourceJob where
  id : Uuid
  businessId : Uuid
  reportUploadId : Uuid
  signature : JobSignature
  deriving DecidableEq

namespace ReportProcessingJob

def signature (job : ReportProcessingJob) : JobSignature :=
  { status := job.status
    resultStorageBucket := job.resultStorageBucket
    normalizedStorageKey := job.normalizedStorageKey
    normalizedStorageVersionId := job.normalizedStorageVersionId
    normalizedEtag := job.normalizedEtag
    normalizedSizeBytes := job.normalizedSizeBytes
    profileStorageKey := job.profileStorageKey
    profileStorageVersionId := job.profileStorageVersionId
    profileEtag := job.profileEtag
    recordCount := job.recordCount
    sheetCount := job.sheetCount }

def source (job : ReportProcessingJob) : SourceJob :=
  ⟨job.id, job.businessId, job.reportUploadId, job.signature⟩

end ReportProcessingJob

/-- `_required_job_string`. -/
def requiredJobString (value : Option Str) : Except DashboardSnapshotError Str := do
  let s ← required value .sourceNotReady
  ensure ((strip s).isEmpty = false) .sourceNotReady
  pure s

/-- `_validate_completed_job`. -/
def validateCompletedJob (job : ReportProcessingJob) : Except DashboardSnapshotError Unit := do
  ensure (job.status = .completed) .sourceNotReady
  let _ ← requiredJobString job.resultStorageBucket
  let _ ← requiredJobString job.normalizedStorageKey
  let _ ← requiredJobString job.normalizedStorageVersionId
  let _ ← requiredJobString job.normalizedEtag
  let _ ← requiredJobString job.profileStorageKey
  let _ ← requiredJobString job.profileStorageVersionId
  let _ ← requiredJobString job.profileEtag
  ensure (job.normalizedSizeBytes.any fun n =>
    decide (0 < n) && decide (n ≤ reportMaxNormalizedCompressedBytes)) .sourceNotReady
  ensure (job.recordCount.any fun n => decide (0 ≤ n)) .sourceNotReady
  ensure (job.sheetCount.any fun n => decide (0 < n)) .sourceNotReady

/-- `_source_jobs`: all of them, in the order of the identifiers. -/
def sourceJobs (jobs : Table ReportProcessingJob) (scope : Uuid) (sourceIds : List Uuid) :
    Except DashboardSnapshotError (List ReportProcessingJob) := do
  let ordered ← sourceIds.mapM fun sourceId =>
    required (jobs.find? fun job => job.businessId == scope && job.id == sourceId) .sourceNotFound
  ordered.forM validateCompletedJob
  pure ordered

-- ---------------------------------------------------------------------------
-- Payload
-- ---------------------------------------------------------------------------

/-- What `materialize` captures of the dashboard. -/
structure CapturedDashboard where
  dashboardType : DashboardType
  title : Str
  configuration : Json
  insightConfiguration : Option Json
  updatedAt : Datetime

def Dashboard.captured (d : Dashboard) : CapturedDashboard :=
  ⟨d.dashboardType, d.title, d.configuration, d.insightConfiguration, d.updatedAt⟩

/-- `!=` of the two insight configurations fails. -/
def insightConfigurationEq : Option Json → Option Json → Bool
  | none, none => true
  | some a, some b => a.pyEq b
  | _, _ => false

/-- The comparison of the locked row with what was captured. -/
def CapturedDashboard.matches (c : CapturedDashboard) (d : Dashboard) : Bool :=
  decide (d.updatedAt = c.updatedAt) && decide (d.dashboardType = c.dashboardType) &&
    d.title == c.title && d.configuration.pyEq c.configuration &&
    insightConfigurationEq d.insightConfiguration c.insightConfiguration

/-- An artifact of a source that was read, validated and aggregated. -/
structure SourceArtifact where
  job : SourceJob
  profile : Dict
  aggregate : Json

/-- What `materialize` calls: the validated insight configuration's jobs, the immutable
artifacts of the storage as the reader and the insight calculation see them, and the standard
library's JSON texts and digests. -/
structure SnapshotSettings where
  mappedProcessingJobIds : DashboardType → Json → Option (List Uuid)
  readArtifacts : DashboardType → Option Json → List SourceJob →
    Except DashboardSnapshotError (List SourceArtifact × Option Json)
  canonicalJsonBytes : Json → Option (List UInt8)
  sha256 : List UInt8 → Str
  uuidStr : Uuid → Str

def DashboardType.value : DashboardType → Str
  | .executiveSummary => str "executive_summary"
  | .financialPerformance => str "financial_performance"
  | .operationalKpi => str "operational_kpi"

namespace SnapshotSettings

variable (settings : SnapshotSettings)

/-- `_source_payload`. -/
def sourcePayload (source : SourceArtifact) : Except DashboardSnapshotError Json := do
  let profileSource : Dict ← match source.profile.get (str "source") with
    | .obj members => pure members
    | _ => throw DashboardSnapshotError.artifact
  let filename := profileSource.get (str "filename")
  ensure ((match filename with | .str s => !s.isEmpty | _ => false) = true) .artifact
  ensure ((profileSource.get (str "report_upload_id")).eqStr
    (settings.uuidStr source.job.reportUploadId) = true) .artifact
  let signature := source.job.signature
  pure (.obj
    [(str "processing_job_id", .str (settings.uuidStr source.job.id)),
      (str "report_upload_id", .str (settings.uuidStr source.job.reportUploadId)),
      (str "filename", filename),
      (str "normalized_storage_version_id", .ofStr? signature.normalizedStorageVersionId),
      (str "normalized_etag", .ofStr? signature.normalizedEtag),
      (str "profile_storage_version_id", .ofStr? signature.profileStorageVersionId),
      (str "profile_etag", .ofStr? signature.profileEtag),
      (str "record_count", .ofInt? signature.recordCount),
      (str "sheet_count", .ofInt? signature.sheetCount),
      (str "aggregate", source.aggregate)])

/-- `build_dashboard_snapshot_payload`. -/
def buildPayload (dashboardId : Uuid) (captured : CapturedDashboard) (insight : Option Json)
    (sources : List SourceArtifact) : Except DashboardSnapshotError Json := do
  let rendered ← sources.mapM settings.sourcePayload
  let dashboardPayload : Dict :=
    [(str "id", .str (settings.uuidStr dashboardId)),
      (str "type", .str captured.dashboardType.value),
      (str "title", .str captured.title),
      (str "configuration", captured.configuration)] ++
    (captured.insightConfiguration.map fun j => (str "insight_configuration", j)).toList
  let payload : Json := .obj
    ([(str "format", .str dashboardSnapshotFormat),
      (str "schema_version", .int dashboardSnapshotSchemaVersion),
      (str "dashboard", .obj dashboardPayload),
      (str "source_count", .int sources.length),
      (str "record_count", .int (sources.map fun a => a.job.signature.recordCount.getD 0).sum),
      (str "sheet_count", .int (sources.map fun a => a.job.signature.sheetCount.getD 0).sum),
      (str "sources", .arr rendered)] ++
    (insight.map fun j => (str "insight", j)).toList)
  let bytes ← required (settings.canonicalJsonBytes payload) .artifact
  ensure (bytes.length ≤ dashboardMaxSnapshotPayloadBytes) .artifact
  pure payload

/-- `dashboard_snapshot_content_hash`. -/
def contentHash (payload : Json) : Except DashboardSnapshotError Str := do
  let bytes ← required (settings.canonicalJsonBytes payload) .artifact
  pure (settings.sha256 bytes)

/-- The payload and its hash: what `materialize` computes outside of any transaction from
what it captured. -/
def computePayload (dashboardId : Uuid) (captured : CapturedDashboard) (jobs : List SourceJob) :
    Except DashboardSnapshotError (Json × Str) := do
  let (sources, insight) ← settings.readArtifacts captured.dashboardType
    captured.insightConfiguration jobs
  let payload ← settings.buildPayload dashboardId captured insight sources
  let hash ← settings.contentHash payload
  pure (payload, hash)

end SnapshotSettings

end SpikeBackend
