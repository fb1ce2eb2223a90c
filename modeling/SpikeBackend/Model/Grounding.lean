import SpikeBackend.Lib.JsonText
import SpikeBackend.Model.AiExecution
import SpikeBackend.Model.DashboardSnapshots

/-!
# Grounding contexts

What an AI execution sends to the provider of the dashboard snapshot that its conversation is
about (`_dashboard_grounding_context` and the functions it calls in
`app/services/ai_execution.py`).
-/

namespace SpikeBackend

open Relational Text Collections

def aiGroundingMaxCharacters : Nat := 22000

namespace Grounding

/-- `value[:limit]` of a list, and `[]` of anything else (`_bounded_items`). -/
def boundedItems (value : Json) (limit : Nat) : List Json :=
  match value with
  | .arr items => items.take limit
  | _ => []

/-- `items[-count:]`. -/
def lastItems (count : Nat) (items : List Json) : List Json := items.drop (items.length - count)

/-- `d[key] = value`, for a key that is in the dict. -/
def assign (d : Dict) (key : Str) (value : Json) : Dict :=
  d.map fun member => if member.1 = key then (member.1, value) else member

/-- `d[key] = cut(d[key])`, if there is a list under the key. -/
def cutItems (key : Str) (cut : List Json → List Json) (d : Dict) : Dict :=
  match d.get key with
  | .arr items => assign d key (.arr (cut items))
  | _ => d

/-- The dicts among the items of a list, each rewritten. -/
def mapObjects (rewrite : Dict → Dict) (items : List Json) : List Json :=
  items.filterMap fun item => item.obj?.map fun d => .obj (rewrite d)

/-- The members of a dict under some keys: `{key: d.get(key) for key in keys}`. -/
def select (keys : List Str) (d : Dict) : Dict := keys.map fun key => (key, d.get key)

/-- A series of a chart, with at most twelve points and eight series in it. -/
def compactSeries (d : Dict) : Dict :=
  cutItems (str "series") (fun nested =>
      mapObjects (cutItems (str "points") (lastItems 12)) (nested.take 8))
    (cutItems (str "points") (lastItems 12) d)

/-- `value[-5:]` of a list, and `[]` of anything else. -/
def lastUpdates (value : Json) : List Json :=
  match value with
  | .arr items => lastItems 5 items
  | _ => []

/-- `_compact_calculated`. -/
def compactCalculated (value : Json) : Dict :=
  match value with
  | .obj calculated =>
    [(str "kpis", .arr (boundedItems (Dict.get calculated (str "kpis")) 24)),
      (str "status_updates", .arr (lastUpdates (Dict.get calculated (str "status_updates")))),
      (str "series", .arr
        (mapObjects compactSeries (boundedItems (Dict.get calculated (str "series")) 4))),
      (str "breakdowns", .arr
        (mapObjects (cutItems (str "items") (List.take 12))
          (boundedItems (Dict.get calculated (str "breakdowns")) 4))),
      (str "tables", .arr
        (mapObjects (cutItems (str "rows") (List.take 12))
          (boundedItems (Dict.get calculated (str "tables")) 4)))]
  | _ => []

/-- The keys of a source that the provider is shown. -/
def sourceKeys : List Str :=
  [str "processing_job_id", str "report_upload_id", str "filename", str "record_count",
    str "sheet_count"]

/-- The sheets of a legacy source, as long as columns remain to be shown. -/
def legacySheets : List Json → Nat → List Json × Nat
  | [], remaining => ([], remaining)
  | .obj sheet :: sheets, remaining =>
    if remaining = 0 then legacySheets sheets remaining
    else
      let columns := boundedItems (Dict.get sheet (str "columns")) (min 20 remaining)
      let (rest, remaining') := legacySheets sheets (remaining - columns.length)
      (.obj (select [str "sheet_index", str "sheet_name", str "record_count"] sheet ++
        [(str "columns", .arr columns)]) :: rest, remaining')
  | _ :: sheets, remaining => legacySheets sheets remaining

/-- The sources of a snapshot without an insight. -/
def legacySources : List Json → Nat → List Json
  | [], _ => []
  | .obj source :: sources, remaining =>
    let sheets := match Dict.get source (str "aggregate") with
      | .obj aggregate => boundedItems (Dict.get aggregate (str "sheets")) 5
      | _ => []
    let (rendered, remaining') := legacySheets sheets remaining
    .obj (select [str "processing_job_id", str "report_upload_id", str "filename",
        str "normalized_storage_version_id", str "profile_storage_version_id",
        str "record_count", str "sheet_count"] source ++ [(str "sheets", .arr rendered)]) ::
      legacySources sources remaining'
  | _ :: sources, remaining => legacySources sources remaining

/-- `_legacy_source_context`. -/
def legacySourceContext (sources : Json) : List Json := legacySources (boundedItems sources 20) 100

/-- `len(str(value))` of a string, a number or a boolean. -/
def scalarLength (floatRepr : Rat → Str) : Json → Option Nat
  | .str s => some s.length
  | .int n => some (intText n).length
  | .float x => some (floatRepr x).length
  | .bool b => some (if b then 4 else 5)
  | _ => none

/-- The sorted names of the fields that are mapped. -/
def mappedFields (columns : Json) : List Json :=
  match columns with
  | .obj fields => (sortBy (fun name => name) (fields.map Prod.fst)).map Json.str
  | _ => []

/-- One dataset of an insight configuration: what it maps, and not to which columns. -/
def compactDataset (dataset : Dict) : Dict :=
  select [str "processing_job_id", str "sheet_index", str "sheet_name"] dataset ++
    [(str "mapped_fields", .arr (mappedFields (Dict.get dataset (str "columns"))))]

/-- The insight configuration of a dashboard. -/
def compactInsightConfiguration (value : Json) : Json :=
  match value with
  | .obj configuration =>
    .obj [(str "version", Dict.get configuration (str "version")),
      (str "goals", .arr (boundedItems (Dict.get configuration (str "goals")) 3)),
      (str "datasets", .arr
        (mapObjects compactDataset (boundedItems (Dict.get configuration (str "datasets")) 20)))]
  | _ => .null

/-- The currency and the period of a configuration, where they are short scalars. -/
def compactConfiguration (floatRepr : Rat → Str) (value : Json) : Dict :=
  match value with
  | .obj configuration =>
    [str "currency", str "period"].filterMap fun key =>
      if (scalarLength floatRepr (Dict.get configuration key)).any (· ≤ 120) then
        some (key, Dict.get configuration key)
      else none
  | _ => []

/-- `_compact_dashboard_context`. -/
def compactDashboardContext (floatRepr : Rat → Str) (value : Json) : Dict :=
  match value with
  | .obj dashboard =>
    [(str "id", Dict.get dashboard (str "id")),
      (str "type", Dict.get dashboard (str "type")),
      (str "title", Dict.get dashboard (str "title")),
      (str "configuration",
        .obj (compactConfiguration floatRepr (Dict.get dashboard (str "configuration")))),
      (str "insight_configuration",
        compactInsightConfiguration (Dict.get dashboard (str "insight_configuration")))]
  | _ => []

/-- `_render_grounding_context`; `none` is an `AIExecutionIntegrityError`. -/
def renderContext (floatRepr : Rat → Str) (context : Dict) : Option Str :=
  if (Json.obj context).writable = true then some (jsonText floatRepr (Json.obj context).sortKeys)
  else none

/-- `value.get(key) if isinstance(value, dict) else None`. -/
def getOf (value : Json) (key : Str) : Json :=
  match value with
  | .obj d => Dict.get d key
  | _ => .null

def signalKeys : List Str := [str "anomalies", str "risks", str "recommendations"]

/-- The signals of an insight, at most `limit` of each kind. -/
def boundedSignals (signals : Json) (limit : Nat) : Dict :=
  signalKeys.map fun key => (key, .arr (boundedItems (getOf signals key) limit))

/-- The insight of a snapshot in full. -/
def insightContext (insight : Dict) : Dict :=
  [(str "contract_version", Dict.get insight (str "contract_version")),
    (str "calculation_version", Dict.get insight (str "calculation_version")),
    (str "dashboard_type", Dict.get insight (str "dashboard_type")),
    (str "goals", .arr (boundedItems (Dict.get insight (str "goals")) 3)),
    (str "mapped_row_count", Dict.get insight (str "mapped_row_count")),
    (str "calculated", .obj (compactCalculated (Dict.get insight (str "calculated")))),
    (str "signals", .obj (boundedSignals (Dict.get insight (str "signals")) 20)),
    (str "explainability", Dict.get insight (str "explainability"))]

/-- The note that goes with an insight without its charts. -/
def contextNote : Str :=
  str "Chart detail was omitted from the AI prompt to keep context bounded; " ++
    str "the immutable snapshot remains authoritative."

/-- The insight without its charts, with fewer signals. -/
def reducedInsight (insight : Dict) : Dict :=
  let calculated : Dict :=
    [(str "kpis", .arr (boundedItems (getOf (Dict.get insight (str "calculated")) (str "kpis")) 24)),
      (str "series", .arr []), (str "breakdowns", .arr []), (str "tables", .arr []),
      (str "status_updates", .arr [])]
  let signals := boundedSignals (Dict.get insight (str "signals")) 5
  assign (assign insight (str "calculated") (.obj calculated)) (str "signals") (.obj signals) ++
    [(str "context_note", .str contextNote)]

/-- The shorter context that is sent where the full one is too long. -/
def reducedContext (context : Dict) : Dict :=
  match Dict.get context (str "insight") with
  | .obj insight => assign context (str "insight") (.obj (reducedInsight insight))
  | _ => assign context (str "sources")
      (.arr (mapObjects (select sourceKeys) (boundedItems (Dict.get context (str "sources")) 20)))

section

variable (settings : SnapshotSettings) (floatRepr : Rat → Str)

/-- Where the context comes from. -/
def provenance (snapshot : DashboardSnapshot) (payload : Dict) : Dict :=
  [(str "snapshot_id", .str (settings.uuidStr snapshot.id)),
    (str "snapshot_version", .int snapshot.version),
    (str "snapshot_content_hash", .str snapshot.contentHash),
    (str "dashboard_id", .str (settings.uuidStr snapshot.dashboardId)),
    (str "business_id", .str (settings.uuidStr snapshot.businessId)),
    (str "source_count", Dict.get payload (str "source_count")),
    (str "record_count", Dict.get payload (str "record_count")),
    (str "sheet_count", Dict.get payload (str "sheet_count"))]

/-- The insight and the sources of a snapshot. -/
def evidence (insight sources : Json) : Dict :=
  match insight with
  | .obj members =>
    [(str "insight", .obj (insightContext members)),
      (str "sources", .arr (mapObjects (select sourceKeys) (boundedItems sources 20)))]
  | _ => [(str "sources", .arr (legacySourceContext sources))]

/-- The context in full. -/
def fullContext (snapshot : DashboardSnapshot) (payload : Dict) : Dict :=
  (str "provenance", .obj (provenance settings snapshot payload)) ::
    (str "dashboard",
      .obj (compactDashboardContext floatRepr (Dict.get payload (str "dashboard")))) ::
    evidence (Dict.get payload (str "insight")) (Dict.get payload (str "sources"))

/-- `_dashboard_grounding_context`; `none` is an `AIExecutionIntegrityError`. -/
def dashboardGroundingContext (snapshot : DashboardSnapshot) : Option Str := do
  let payload ← snapshot.payload.obj?
  let computedHash ← (settings.contentHash snapshot.payload).toOption
  if computedHash ≠ snapshot.contentHash then none
  else
    let context := fullContext settings floatRepr snapshot payload
    let rendered ← renderContext floatRepr context
    if rendered.length ≤ aiGroundingMaxCharacters then some rendered
    else
      let reduced ← renderContext floatRepr (reducedContext context)
      if aiGroundingMaxCharacters < reduced.length then none else some reduced

/-- The part of `_claim` that reads the snapshot of a conversation: `some none` for one
without a snapshot, `none` for an `AIExecutionIntegrityError`. -/
def ofConversation (snapshots : Table DashboardSnapshot) (scope : Uuid)
    (conversation : AIConversation) : Option (Option Str) :=
  match conversation.dashboardSnapshotId with
  | none => some none
  | some snapshotId => do
    let snapshot ← snapshots.find? fun s => s.businessId == scope && s.id == snapshotId
    if conversation.purpose = .dashboardAnalysis ∧
        (getOf snapshot.payload (str "insight")).isObject = false then none
    else (dashboardGroundingContext settings floatRepr snapshot).map some

/-- The settings of an execution over the stored snapshots. -/
def executionConfig (config : ExecutionConfig) (snapshots : Table DashboardSnapshot) :
    ExecutionConfig :=
  { config with groundingContext := ofConversation settings floatRepr snapshots }

end

end Grounding

end SpikeBackend
