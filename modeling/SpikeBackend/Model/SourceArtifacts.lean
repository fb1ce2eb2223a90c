import SpikeBackend.Model.InsightSnapshots
import SpikeBackend.Model.ReportParser

/-!
# Reading the artifacts of a report

`_read_source_artifact` (`app/services/dashboard_snapshots.py`): the profile and the lines of a
processed report are read back, checked against each other and against the job, and aggregated
by column. What `json.loads` answers is JSON again; `none` is an error of its.
-/

namespace SpikeBackend

open Text Outcome Collections

def dashboardMaxNormalizedLineBytes : Nat := 16 * 1024 * 1024

/-- What the reader calls: the storage, `json.loads` of a text and of bytes, `sha256`, and what
the parser calls too. -/
structure ArtifactLibrary where
  report : ReportLibrary
  gzip : GzipLibrary
  loads : Str → Option Json
  loadsBytes : List UInt8 → Option Json
  sha256 : List UInt8 → Str
  readObject : Str → Str → Str → Nat → Except DashboardSnapshotError (List UInt8)

variable (lib : StandardLibrary) (ctx : Context) (art : ArtifactLibrary)

-- ---------------------------------------------------------------------------
-- Profiles
-- ---------------------------------------------------------------------------

/-- The checks of `_profile_sheet_contract` on `type_counts`. -/
def typeCountsValid (recordCount nullCount : Int) (typeCounts : Dict) : Bool :=
  (typeCounts.all fun entry => decide (entry.1 ∈ valueTypeOrder.map ValueType.value)) &&
    (typeCounts.all fun entry => entry.2.int?.any fun n => decide (0 < n)) &&
    decide ((typeCounts.filterMap fun entry => entry.2.int?).sum = recordCount) &&
    (typeCounts.getD (str "null") (.int 0)).eqInt nullCount

/-- The name of a column of a profile, where the column passes the checks. -/
def columnContract (recordCount : Int) (column : Json × Nat) :
    Except DashboardSnapshotError Str := do
  let members ← required column.1.obj? .artifact
  let name ← required (Dict.get members (str "name")).str? .artifact
  ensure (name ≠ []) .artifact
  let index := Dict.get members (str "index")
  ensure ((match index with | .bool _ => false | _ => index.eqInt column.2) = true) .artifact
  let generated ← required (Dict.get members (str "generated")).bool? .artifact
  let sourceName := Dict.get members (str "source_name")
  ensure (generated = true → sourceName.isNull = true) .artifact
  ensure (generated = false → (sourceName.str?.any fun s => !s.isEmpty) = true) .artifact
  let nullCount ← required (Dict.get members (str "null_count")).int? .artifact
  ensure (0 ≤ nullCount) .artifact
  let nonNullCount ← required (Dict.get members (str "non_null_count")).int? .artifact
  ensure (0 ≤ nonNullCount) .artifact
  ensure (nullCount + nonNullCount = recordCount) .artifact
  let typeCounts ← required (Dict.get members (str "type_counts")).obj? .artifact
  ensure (typeCountsValid recordCount nullCount typeCounts = true) .artifact
  pure name

/-- A sheet of a profile as the reader relies on it. -/
structure SheetContract where
  index : Int
  name : Str
  recordCount : Int
  columns : List Str

/-- The key of a sheet. -/
def SheetContract.key (sheet : SheetContract) : Int × Str := (sheet.index, sheet.name)

/-- A sheet of `_profile_sheet_contract`. -/
def sheetContract (sheet : Json) : Except DashboardSnapshotError SheetContract := do
  let members ← required sheet.obj? .artifact
  let index ← required (Dict.get members (str "index")).int? .artifact
  ensure (0 ≤ index) .artifact
  let name ← required (Dict.get members (str "name")).str? .artifact
  ensure (name ≠ []) .artifact
  let recordCount ← required (Dict.get members (str "record_count")).int? .artifact
  ensure (0 ≤ recordCount) .artifact
  let columns ← required (Dict.get members (str "columns")).arr? .artifact
  let names ← columns.zipIdx.mapM (columnContract recordCount)
  ensure ((names.map art.report.casefold).Nodup) .artifact
  pure ⟨index, name, recordCount, names⟩

/-- `_profile_sheet_contract`, the sheets in the order of the profile. -/
def profileSheetContract (profile : Dict) : Except DashboardSnapshotError (List SheetContract) := do
  let sheets ← required (profile.get (str "sheets")).arr? .artifact
  let contracts ← sheets.mapM (sheetContract art)
  ensure ((contracts.map SheetContract.key).Nodup) .artifact
  pure contracts

/-- `_SHA256_HEX` matches. -/
def isSha256Hex (s : Str) : Bool := isContentHash s

/-- `_validate_profile`. -/
def validateSourceProfile (job : SourceJob) (content : List UInt8) :
    Except DashboardSnapshotError Dict := do
  ensure (content.length ≤ reportMaxProfileBytes) .artifact
  let decoded ← required (decode? content) .artifact
  let loaded ← required (art.loads decoded) .artifact
  let profile ← required loaded.obj? .artifact
  let source ← required (profile.get (str "source")).obj? .artifact
  let normalized ← required (profile.get (str "normalized")).obj? .artifact
  ensure ((profile.get (str "format")).eqStr (str "spike.report-profile") = true) .artifact
  ensure ((profile.get (str "version")).eqInt reportArtifactFormatVersion = true) .artifact
  ensure ((profile.get (str "job_id")).eqStr (uuidText job.id) = true) .artifact
  ensure ((profile.get (str "business_id")).eqStr (uuidText job.businessId) = true) .artifact
  ensure ((source.get (str "report_upload_id")).eqStr (uuidText job.reportUploadId) = true) .artifact
  ensure (((source.get (str "filename")).str?.any fun s => !(strip s).isEmpty) = true) .artifact
  ensure (((source.get (str "extension")).str?.any fun s =>
    decide (s ∈ [str "csv", str "xlsx", str "xls"])) = true) .artifact
  ensure (((source.get (str "content_type")).str?.any fun s => !(strip s).isEmpty) = true)
    .artifact
  ensure ((job.signature.recordCount.any (profile.get (str "record_count")).eqInt) = true) .artifact
  ensure ((job.signature.sheetCount.any (profile.get (str "sheet_count")).eqInt) = true) .artifact
  ensure ((normalized.get (str "format")).eqStr (str "jsonl") = true) .artifact
  ensure ((normalized.get (str "compression")).eqStr (str "gzip") = true) .artifact
  ensure (((normalized.get (str "sha256")).str?.any isSha256Hex) = true) .artifact
  let contracts ← profileSheetContract art profile
  ensure (job.signature.sheetCount = some (contracts.length : Int)) .artifact
  ensure (job.signature.recordCount = some (contracts.map SheetContract.recordCount).sum) .artifact
  pure profile

-- ---------------------------------------------------------------------------
-- Columns
-- ---------------------------------------------------------------------------

/-- `_strict_decimal` of the snapshots. -/
def snapshotStrictDecimal : Json → Option ℚ
  | .int n => some n
  | .float x => some (lib.decimalOfFloat x)
  | .str s => if (decimalParts (strip s)).isStrict then some (decimalParts (strip s)).value else none
  | _ => none

/-- `_ColumnAccumulator`. -/
structure ColumnAccumulator where
  nonNullCount : Nat := 0
  nullCount : Nat := 0
  numeric : Option NumericStats := none

def ColumnAccumulator.observe (column : ColumnAccumulator) (value : Json) : ColumnAccumulator :=
  if value.isNull then { column with nullCount := column.nullCount + 1 }
  else
    let column := { column with nonNullCount := column.nonNullCount + 1 }
    match snapshotStrictDecimal lib value with
    | none => column
    | some numeric =>
      { column with numeric := some ((column.numeric.getD {}).observe ctx numeric) }

/-- `_render_numeric`. -/
def renderNumeric (stats : Option NumericStats) : Json :=
  match stats with
  | none => .null
  | some stats =>
    if stats.count = 0 then .null
    else .obj [(str "count", .int stats.count), (str "sum_decimal", .str (decimalText stats.total)),
      (str "min_decimal", .ofStr? (stats.minimum.map decimalText)),
      (str "max_decimal", .ofStr? (stats.maximum.map decimalText)),
      (str "average_decimal", .ofStr? ((stats.average ctx).map decimalText))]

-- ---------------------------------------------------------------------------
-- Lines
-- ---------------------------------------------------------------------------

/-- What the loop of `_aggregate_normalized` holds, with the rows that it has observed. -/
structure Aggregation where
  totalUncompressed : Nat := 0
  rowCounts : Int × Str → Nat := fun _ => 0
  totalRecords : Nat := 0
  columns : Int × Str → Str → ColumnAccumulator := fun _ _ => {}
  rows : List InsightRow := []

/-- A byte in front of the lines of a stream. -/
def consByte (b : UInt8) : List (List UInt8) → List (List UInt8)
  | [] => [[b]]
  | line :: lines => if b = 0x0A then [b] :: line :: lines else (b :: line) :: lines

/-- The lines of a stream, each with the `\n` that ends it. -/
def streamLines (content : List UInt8) : List (List UInt8) := content.foldr consByte []

/-- A line that was read back. -/
structure LoadedRow where
  key : Int × Str
  values : Dict

/-- The row of a line. -/
def loadRow (line : List UInt8) : Except DashboardSnapshotError LoadedRow := do
  let row ← required (art.loadsBytes line) .artifact
  let members ← required row.obj? .artifact
  let index ← required (Dict.get members (str "sheet_index")).int? .artifact
  let name ← required (Dict.get members (str "sheet_name")).str? .artifact
  let values ← required (Dict.get members (str "values")).obj? .artifact
  pure ⟨(index, name), values⟩

/-- `set(values) == set(expected_columns)`. -/
def sameColumns (values : Dict) (expected : List Str) : Bool :=
  (values.all fun entry => decide (entry.1 ∈ expected)) && expected.all values.contains

/-- The accumulators of a sheet after a row. -/
def observeColumns (columns : Str → ColumnAccumulator) (expected : List Str) (values : Dict) :
    Str → ColumnAccumulator :=
  expected.foldl (fun columns name =>
    Function.update columns name ((columns name).observe lib ctx (values.get name))) columns

/-- The body of the loop of `_aggregate_normalized`. -/
def aggregateLine (jobId : Uuid) (contracts : List SheetContract) (s : Aggregation)
    (line : List UInt8) : Except DashboardSnapshotError Aggregation := do
  ensure (line.length ≤ dashboardMaxNormalizedLineBytes) .artifact
  let totalUncompressed := s.totalUncompressed + line.length
  ensure (totalUncompressed ≤ reportMaxNormalizedUncompressedBytes) .artifact
  let row ← loadRow art line
  let sheet ← required (contracts.find? fun sheet => sheet.key = row.key) .artifact
  ensure (sameColumns row.values sheet.columns = true) .artifact
  pure
    { totalUncompressed := totalUncompressed
      rowCounts := Function.update s.rowCounts row.key (s.rowCounts row.key + 1)
      totalRecords := s.totalRecords + 1
      columns := Function.update s.columns row.key
        (observeColumns lib ctx (s.columns row.key) sheet.columns row.values)
      rows := s.rows ++ [⟨⟨jobId, row.key.1, row.key.2⟩, row.values⟩] }

/-- The rendered columns of a sheet. -/
def renderColumn (columns : Str → ColumnAccumulator) (name : Str) : Json :=
  .obj [(str "name", .str name), (str "non_null_count", .int (columns name).nonNullCount),
    (str "null_count", .int (columns name).nullCount),
    (str "numeric", renderNumeric ctx (columns name).numeric)]

/-- A rendered sheet, where as many records were read as its profile says. -/
def renderSheet (s : Aggregation) (sheet : SheetContract) : Except DashboardSnapshotError Json := do
  ensure ((s.rowCounts sheet.key : Int) = sheet.recordCount) .artifact
  pure (.obj [(str "sheet_index", .int sheet.index), (str "sheet_name", .str sheet.name),
    (str "record_count", .int (s.rowCounts sheet.key)),
    (str "columns", .arr (sheet.columns.map (renderColumn ctx (s.columns sheet.key))))])

/-- `_aggregate_normalized`: the aggregate, and the rows that the insight observes. -/
def aggregateNormalized (job : SourceJob) (profile : Dict) (compressedContent : List UInt8) :
    Except DashboardSnapshotError (Json × List InsightRow) := do
  ensure (job.signature.normalizedSizeBytes = some (compressedContent.length : Int)) .artifact
  let normalized ← required (profile.get (str "normalized")).obj? .artifact
  ensure ((normalized.get (str "sha256")).eqStr (art.sha256 compressedContent) = true) .artifact
  let contracts ← profileSheetContract art profile
  let content ← required (art.gzip.read compressedContent) .artifact
  let s ← (streamLines content).foldlM (aggregateLine lib ctx art job.id contracts) {}
  ensure (job.signature.recordCount = some (s.totalRecords : Int)) .artifact
  let sheets ← (sortBy (fun sheet : SheetContract => toLex sheet.key) contracts).mapM
    (renderSheet ctx s)
  pure (.obj [(str "record_count", .int s.totalRecords), (str "sheet_count", .int sheets.length),
    (str "sheets", .arr sheets)], s.rows)

-- ---------------------------------------------------------------------------
-- Sources
-- ---------------------------------------------------------------------------

/-- `_validate_completed_job`, of what a source holds of its job. -/
def validateCompletedSource (signature : JobSignature) : Except DashboardSnapshotError Unit := do
  ensure (signature.status = .completed) .sourceNotReady
  let _ ← requiredJobString signature.resultStorageBucket
  let _ ← requiredJobString signature.normalizedStorageKey
  let _ ← requiredJobString signature.normalizedStorageVersionId
  let _ ← requiredJobString signature.normalizedEtag
  let _ ← requiredJobString signature.profileStorageKey
  let _ ← requiredJobString signature.profileStorageVersionId
  let _ ← requiredJobString signature.profileEtag
  ensure (signature.normalizedSizeBytes.any fun n =>
    decide (0 < n) && decide (n ≤ reportMaxNormalizedCompressedBytes)) .sourceNotReady
  ensure (signature.recordCount.any fun n => decide (0 ≤ n)) .sourceNotReady
  ensure (signature.sheetCount.any fun n => decide (0 < n)) .sourceNotReady

/-- `_read_source_artifact`: the artifact, and the rows for the insight. -/
def readSourceArtifact (job : SourceJob) : Except DashboardSnapshotError InsightSource := do
  let signature := job.signature
  validateCompletedSource signature
  let bucket ← requiredJobString signature.resultStorageBucket
  let profileKey ← requiredJobString signature.profileStorageKey
  let profileVersion ← requiredJobString signature.profileStorageVersionId
  let normalizedKey ← requiredJobString signature.normalizedStorageKey
  let normalizedVersion ← requiredJobString signature.normalizedStorageVersionId
  let profileContent ← art.readObject bucket profileKey profileVersion reportMaxProfileBytes
  let normalizedContent ← art.readObject bucket normalizedKey normalizedVersion
    (signature.normalizedSizeBytes.getD 0).toNat
  let profile ← validateSourceProfile art job profileContent
  let (aggregate, rows) ← aggregateNormalized lib ctx art job profile normalizedContent
  pure ⟨⟨job, profile, aggregate⟩, rows⟩

/-- The reader of the service. -/
def artifactReader (modelValidate : Json → Option DashboardInsightConfiguration) : InsightReader :=
  ⟨modelValidate, readSourceArtifact lib ctx art⟩

end SpikeBackend
