import SpikeBackend.Model.InsightRendering
import SpikeBackend.Model.SnapshotRuns

/-!
# Snapshots with an insight

How `materialize` feeds the insight accumulator (`app/services/dashboard_snapshots.py`): it
validates the profile of each source, in the order of the sorted identifiers, observes the rows
of its normalised artifact, and renders at the end. The iteration orders of its sets are those
of the process that serves the call.
-/

namespace SpikeBackend

open Text Outcome Collections

variable (lib : StandardLibrary) (ctx : Context) (order : SetOrder)

namespace DashboardInsightAccumulator

/-- The columns of one sheet of a profile, by the sheet's index and name. -/
def profileSheet (sheet : Json) :
    Except DashboardInsightError ((Int × Str) × List Str) := do
  let members ← match sheet with
    | .obj members => pure members
    | _ => throw DashboardInsightError.profileInvalid
  match Dict.get members (str "index"), Dict.get members (str "name"),
      Dict.get members (str "columns") with
  | .int index, .str name, .arr columns => do
    let names := columns.filterMap fun column =>
      match column with
      | .obj c =>
        match Dict.get c (str "name") with
        | .str columnName => some columnName
        | _ => none
      | _ => none
    ensure (names.dedup.length = columns.length) .profileInvalid
    pure ((index, name), names)
  | _, _, _ => throw DashboardInsightError.profileInvalid

/-- `validate_profile`. -/
def validateProfile (acc : DashboardInsightAccumulator) (processingJobId : Uuid) (profile : Dict) :
    Except DashboardInsightError DashboardInsightAccumulator := do
  let sheets ← match profile.get (str "sheets") with
    | .arr sheets => pure sheets
    | _ => throw DashboardInsightError.profileInvalid
  let indexed ← sheets.mapM profileSheet
  let available := OrderedDict.ofList indexed
  let mine := acc.mappings.entries.filter fun entry => entry.1.processingJobId = processingJobId
  ensure ((mine.all fun entry =>
    (available.get? (entry.1.sheetIndex, entry.1.sheetName)).any fun names =>
      entry.2.values.all (· ∈ names)) = true) .sourceColumnNotFound
  pure { acc with validatedMappings := acc.validatedMappings ++ mine.map Prod.fst }

end DashboardInsightAccumulator

/-- What `materialize` reads of a source: the artifact, and the rows that it checked against the
profile. -/
structure InsightSource where
  artifact : SourceArtifact
  rows : List InsightRow

/-- What the insight calculation rests on: the validation of a stored configuration by its
schema, and the reading of a source's immutable artifacts. -/
structure InsightReader where
  modelValidate : Json → Option DashboardInsightConfiguration
  readSource : SourceJob → Except DashboardSnapshotError InsightSource

/-- The configuration of a dashboard, validated by its schema and for the type. -/
def InsightReader.configuration (reader : InsightReader) (dashboardType : DashboardType)
    (stored : Json) : Except DashboardSnapshotError DashboardInsightConfiguration := do
  let configuration ← required (reader.modelValidate stored) .artifact
  ensure (validateInsightConfigurationForType dashboardType configuration = true) .artifact
  pure configuration

/-- `except DashboardInsightDataError: raise DashboardSnapshotArtifactError`; the rows of a source
have the columns of its profile, so that no row raises a `KeyError`. -/
def artifactError {α : Type} (outcome : Except DashboardInsightError α) :
    Except DashboardSnapshotError α :=
  outcome.mapError fun _ => .artifact

/-- `_read_source_artifact` with an accumulator. -/
def observeSource (reader : InsightReader)
    (s : List SourceArtifact × DashboardInsightAccumulator) (job : SourceJob) :
    Except DashboardSnapshotError (List SourceArtifact × DashboardInsightAccumulator) := do
  let source ← reader.readSource job
  let acc ← artifactError (s.2.validateProfile job.id source.artifact.profile)
  let acc ← artifactError (acc.observeAll lib ctx order source.rows)
  pure (s.1 ++ [source.artifact], acc)

/-- The artifacts of the sources and the accumulator that has observed them. -/
def observeSources (reader : InsightReader) (dashboardType : DashboardType)
    (configuration : DashboardInsightConfiguration) (jobs : List SourceJob) :
    Except DashboardSnapshotError (List SourceArtifact × DashboardInsightAccumulator) :=
  jobs.foldlM (observeSource lib ctx order reader) ([], .init dashboardType configuration)

/-- The artifacts of the sources, with the rendered insight where one is configured. -/
def readArtifacts (reader : InsightReader) (dashboardType : DashboardType)
    (insightConfiguration : Option Json) (jobs : List SourceJob) :
    Except DashboardSnapshotError (List SourceArtifact × Option Json) :=
  match insightConfiguration with
  | none => do
    let sources ← jobs.mapM reader.readSource
    pure (sources.map InsightSource.artifact, none)
  | some stored => do
    let configuration ← reader.configuration dashboardType stored
    let (artifacts, acc) ← observeSources lib ctx order reader dashboardType configuration jobs
    let insight ← artifactError (acc.render lib ctx order)
    pure (artifacts, some insight)

/-- The settings of a process: `base` gives the JSON texts, the digests and the texts of UUIDs. -/
def insightSettings (base : SnapshotSettings) (reader : InsightReader) : SnapshotSettings :=
  { base with
    mappedProcessingJobIds := fun dashboardType stored =>
      match reader.configuration dashboardType stored with
      | .ok configuration => some (configuration.mappings.keys.map DatasetKey.processingJobId)
      | .error _ => none
    readArtifacts := readArtifacts lib ctx order reader }

end SpikeBackend
