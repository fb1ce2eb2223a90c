import SpikeBackend.Lib.Html
import SpikeBackend.Lib.JsonText
import SpikeBackend.Model.SnapshotRuns

/-!
# Export of a dashboard

`app/services/dashboard_pdf.py`: the page that the latest snapshot of a dashboard is rendered from,
the name of the file, and `DashboardPDFService.export_latest`. What turns the page into a PDF is a
parameter.
-/

namespace SpikeBackend

open Relational Text Outcome Collections

def dashboardPdfMaxMetricRows : Nat := 500

/-- `_DASHBOARD_TYPE_LABELS`. -/
def dashboardTypeLabel : DashboardType → Str
  | .executiveSummary => str "Executive Summary"
  | .financialPerformance => str "Financial Performance"
  | .operationalKpi => str "Operational KPI"

inductive DashboardPdfError
  | dashboardNotFound
  | snapshotNotFound
  | renderer (message : Str)
  | rendererUnavailable (message : Str)
  deriving DecidableEq, Repr

/-- What the export calls of the standard library: `str` of a float and of a container,
`datetime.isoformat` and `str.lower`. -/
structure PdfLibrary where
  floatRepr : Rat → Str
  containerText : Json → Str
  isoformat : Datetime → Str
  lower : Str → Str

/-- `DashboardType(value)`; `none` is a `ValueError`. -/
def DashboardType.ofJson? (value : Json) : Option DashboardType :=
  [.executiveSummary, .financialPerformance, .operationalKpi].find? fun dashboardType =>
    value.eqStr dashboardType.value

-- ---------------------------------------------------------------------------
-- Values
-- ---------------------------------------------------------------------------

/-- `_as_dict`. -/
def asDict (value : Json) : Except DashboardPdfError Dict :=
  required value.obj? (.renderer (str "Dashboard snapshot payload is invalid."))

/-- `_as_list`. -/
def asList (value : Json) : Except DashboardPdfError (List Json) :=
  required value.arr? (.renderer (str "Dashboard snapshot payload is invalid."))

/-- `_industry_text`, of the value of the enumeration. -/
def industryText (businessIndustry : Option Str) : Str :=
  businessIndustry.getD (str "Not specified")

mutual

/-- `json.dumps(value, ensure_ascii=False, separators=(",", ": "))`. -/
def spacedJsonText (floatRepr : Rat → Str) : Json → Str
  | .null => str "null"
  | .bool b => str (if b then "true" else "false")
  | .int n => intText n
  | .float x => floatRepr x
  | .str s => quoted s
  | .arr items => str "[" ++ (str ",").intercalate (spacedItemTexts floatRepr items) ++ str "]"
  | .obj members =>
    str "\x7b" ++ (str ",").intercalate (spacedMemberTexts floatRepr members) ++ str "\x7d"

/-- The texts of the items of an array. -/
def spacedItemTexts (floatRepr : Rat → Str) : List Json → List Str
  | [] => []
  | item :: items => spacedJsonText floatRepr item :: spacedItemTexts floatRepr items

/-- The texts of the members of an object. -/
def spacedMemberTexts (floatRepr : Rat → Str) : List (Str × Json) → List Str
  | [] => []
  | (key, value) :: members =>
    (quoted key ++ str ": " ++ spacedJsonText floatRepr value) :: spacedMemberTexts floatRepr members

end

namespace PdfLibrary

variable (lib : PdfLibrary)

/-- `str(value)`. No integer of a payload has too many digits for it, or `json.loads` would have
refused the payload. -/
def text : Json → Str
  | .null => str "None"
  | .bool b => str (if b then "True" else "False")
  | .int n => intText n
  | .float x => lib.floatRepr x
  | .str s => s
  | value => lib.containerText value

/-- `_escape`. -/
def escape (value : Json) : Str := if value.isNull then str "—" else Html.escape (lib.text value)

/-- `_json_display`. -/
def jsonDisplay (value : Json) : Except DashboardPdfError Str := do
  ensure (value.writable = true) (.renderer (str "Dashboard configuration could not be rendered."))
  pure (Html.escape (spacedJsonText lib.floatRepr value.sortKeys))

-- ---------------------------------------------------------------------------
-- Rows
-- ---------------------------------------------------------------------------

/-- `_configuration_rows`. -/
def configurationRows (configuration : Dict) : Except DashboardPdfError Str :=
  if configuration = [] then
    pure (str "<tr><td colspan=\"2\" class=\"muted\">No dashboard configuration was stored.</td></tr>")
  else do
    let rows ← (sortBy (fun key : Str => key) (configuration.map Prod.fst)).mapM fun key => do
      let display ← lib.jsonDisplay (configuration.get key)
      pure (str "<tr><th>" ++ Html.escape key ++ str "</th><td>" ++ display ++ str "</td></tr>")
    pure rows.flatten

/-- A row of `_source_rows`. -/
def sourceRow (rawSource : Json × Nat) : Except DashboardPdfError Str := do
  let source ← asDict rawSource.1
  pure (str "<tr>" ++
    str "<td>" ++ intText rawSource.2 ++ str "</td>" ++
    str "<td>" ++ lib.escape (source.get (str "filename")) ++ str "</td>" ++
    str "<td>" ++ lib.escape (source.get (str "record_count")) ++ str "</td>" ++
    str "<td>" ++ lib.escape (source.get (str "sheet_count")) ++ str "</td>" ++
    str "</tr>")

/-- `_source_rows`. -/
def sourceRows (sources : List Json) : Except DashboardPdfError Str :=
  if sources = [] then
    pure (str "<tr><td colspan=\"4\" class=\"muted\">No report sources were recorded.</td></tr>")
  else do
    let rows ← (sources.zipIdx 1).mapM lib.sourceRow
    pure rows.flatten

/-- The rows that `_metric_rows` has collected, and how many it has left out. -/
structure MetricRows where
  rows : List Str := []
  omitted : Nat := 0

/-- A row of `_metric_rows`. -/
def metricRow (filename sheetName : Json) (column numeric : Dict) : Str :=
  str "<tr>" ++
    str "<td>" ++ lib.escape filename ++ str "</td>" ++
    str "<td>" ++ lib.escape sheetName ++ str "</td>" ++
    str "<td>" ++ lib.escape (column.get (str "name")) ++ str "</td>" ++
    str "<td>" ++ lib.escape (numeric.get (str "count")) ++ str "</td>" ++
    str "<td>" ++ lib.escape (numeric.get (str "sum_decimal")) ++ str "</td>" ++
    str "<td>" ++ lib.escape (numeric.get (str "average_decimal")) ++ str "</td>" ++
    str "<td>" ++ lib.escape (numeric.get (str "min_decimal")) ++ str "</td>" ++
    str "<td>" ++ lib.escape (numeric.get (str "max_decimal")) ++ str "</td>" ++
    str "</tr>"

/-- A column in the loops of `_metric_rows`. -/
def metricColumn (filename sheetName : Json) (s : MetricRows) (rawColumn : Json) :
    Except DashboardPdfError MetricRows := do
  let column ← asDict rawColumn
  let numeric := column.get (str "numeric")
  if numeric.isNull then pure s
  else
    let numericData ← asDict numeric
    if dashboardPdfMaxMetricRows ≤ s.rows.length then pure { s with omitted := s.omitted + 1 }
    else pure { s with rows := s.rows ++ [lib.metricRow filename sheetName column numericData] }

def metricSheet (filename : Json) (s : MetricRows) (rawSheet : Json) :
    Except DashboardPdfError MetricRows := do
  let sheet ← asDict rawSheet
  let sheetName := sheet.getD (str "sheet_name") (.str (str "Sheet"))
  let columns ← asList (sheet.get (str "columns"))
  columns.foldlM (lib.metricColumn filename sheetName) s

def metricSource (s : MetricRows) (rawSource : Json) : Except DashboardPdfError MetricRows := do
  let source ← asDict rawSource
  let filename := source.getD (str "filename") (.str (str "Report"))
  let aggregate ← asDict (source.get (str "aggregate"))
  let sheets ← asList (aggregate.get (str "sheets"))
  sheets.foldlM (lib.metricSheet filename) s

/-- `_metric_rows`. -/
def metricRows (sources : List Json) : Except DashboardPdfError (Str × Nat) := do
  let s ← sources.foldlM lib.metricSource {}
  if s.rows = [] then
    pure (str "<tr><td colspan=\"8\" class=\"muted\">" ++
      str "No numeric aggregate columns were available " ++ str "in this snapshot." ++
      str "</td></tr>", s.omitted)
  else pure (s.rows.flatten, s.omitted)

end PdfLibrary

-- ---------------------------------------------------------------------------
-- The page
-- ---------------------------------------------------------------------------

/-- The rules of the style sheet. -/
def dashboardPdfStyle : List (Str × List Str) :=
  [(str "@page", [str "size: A4;", str "margin: 16mm 14mm 18mm;"]),
   (str "*", [str "box-sizing: border-box;"]),
   (str "body", [str "margin: 0;", str "font-family: Arial, \"Segoe UI\", sans-serif;",
      str "color: #151513;", str "font-size: 10px;", str "line-height: 1.45;"]),
   (str "h1", [str "margin: 0;", str "font-size: 25px;", str "line-height: 1.15;"]),
   (str "h2", [str "margin: 20px 0 8px;", str "font-size: 15px;", str "color: #0f172a;"]),
   (str ".brand", [str "color: #2563eb;", str "font-size: 11px;", str "font-weight: 700;",
      str "letter-spacing: 0.08em;", str "text-transform: uppercase;"]),
   (str ".subtitle", [str "margin-top: 5px;", str "color: #575855;", str "font-size: 12px;"]),
   (str ".meta", [str "margin-top: 14px;", str "padding: 10px 12px;",
      str "background: #f8fafc;", str "border: 1px solid #e5e7eb;",
      str "border-radius: 6px;"]),
   (str ".meta-grid", [str "width: 100%;", str "border-collapse: collapse;"]),
   (str ".meta-grid td", [str "padding: 3px 8px 3px 0;", str "vertical-align: top;"]),
   (str ".meta-label", [str "color: #575855;", str "font-weight: 700;",
      str "white-space: nowrap;"]),
   (str ".cards", [str "width: 100%;", str "border-collapse: separate;",
      str "border-spacing: 6px;", str "margin-left: -6px;", str "margin-right: -6px;"]),
   (str ".card", [str "width: 33.333%;", str "padding: 11px;",
      str "border: 1px solid #dbe4f4;", str "background: #fafafa;",
      str "vertical-align: top;"]),
   (str ".card-label", [str "color: #575855;", str "font-size: 9px;",
      str "text-transform: uppercase;"]),
   (str ".card-value", [str "margin-top: 3px;", str "font-size: 19px;",
      str "font-weight: 700;", str "color: #0f172a;"]),
   (str "table.data", [str "width: 100%;", str "border-collapse: collapse;",
      str "table-layout: auto;"]),
   (str "table.data th,\ntable.data td", [str "border-bottom: 1px solid #e5e7eb;",
      str "padding: 5px 6px;", str "text-align: left;", str "vertical-align: top;",
      str "overflow-wrap: anywhere;"]),
   (str "table.data thead th", [str "background: #e9effd;", str "color: #102a63;",
      str "font-weight: 700;"]),
   (str "table.configuration th", [str "width: 25%;", str "color: #575855;"]),
   (str ".hash", [str "font-family: monospace;", str "font-size: 8px;",
      str "overflow-wrap: anywhere;"]),
   (str ".muted", [str "color: #858585;"]),
   (str ".notice", [str "margin-top: 8px;", str "padding: 7px 9px;",
      str "background: #fff7ed;", str "border: 1px solid #fed7aa;"]),
   (str ".footer", [str "margin-top: 22px;", str "padding-top: 9px;",
      str "border-top: 1px solid #e5e7eb;", str "color: #858585;", str "font-size: 8px;"]),
   (str ".no-break", [str "break-inside: avoid;"])]

/-- The text of a rule. -/
def styleRule (rule : Str × List Str) : Str :=
  rule.1 ++ str " \x7b\n" ++
    rule.2.flatMap (fun declaration => str "    " ++ declaration ++ str "\n") ++ str "\x7d\n"

/-- The lines of a text. -/
def unlines (lines : List Str) : Str := lines.flatMap fun line => line ++ str "\n"

/-- What the page is filled with, as text of the page. -/
structure PageTexts where
  title : Str
  typeLabel : Str
  businessName : Str
  industry : Str
  version : Str
  createdAt : Str
  dashboardId : Str
  schemaVersion : Str
  contentHash : Str
  sourceCount : Str
  recordCount : Str
  sheetCount : Str
  configurationRows : Str
  sourceRows : Str
  metricRows : Str
  omittedNote : Str

namespace PageTexts

variable (t : PageTexts)

def headLines : List Str :=
  [str "<head>",
    str "<meta charset=\"utf-8\">",
    str "<style>",
    (str "\n").intercalate (dashboardPdfStyle.map styleRule) ++ str "</style>",
    str "</head>"]

def metaLines : List Str :=
  [str "<div class=\"meta\">",
    str "<table class=\"meta-grid\">",
    str "<tr>",
    str "<td class=\"meta-label\">Business</td>",
    str "<td>" ++ t.businessName ++ str "</td>",
    str "<td class=\"meta-label\">Industry</td>",
    str "<td>" ++ t.industry ++ str "</td>",
    str "</tr>",
    [],
    str "<tr>",
    str "<td class=\"meta-label\">Snapshot version</td>",
    str "<td>" ++ t.version ++ str "</td>",
    str "<td class=\"meta-label\">Snapshot created</td>",
    str "<td>" ++ t.createdAt ++ str "</td>",
    str "</tr>",
    [],
    str "<tr>",
    str "<td class=\"meta-label\">Dashboard ID</td>",
    str "<td>" ++ t.dashboardId ++ str "</td>",
    str "<td class=\"meta-label\">Schema version</td>",
    str "<td>" ++ t.schemaVersion ++ str "</td>",
    str "</tr>",
    [],
    str "<tr>",
    str "<td class=\"meta-label\">Content hash</td>",
    str "<td colspan=\"3\" class=\"hash\">" ++ t.contentHash ++ str "</td>",
    str "</tr>",
    str "</table>",
    str "</div>"]

def overviewLines : List Str :=
  [str "<h2>Snapshot overview</h2>",
    [],
    str "<table class=\"cards\">",
    str "<tr>",
    str "<td class=\"card\">",
    str "<div class=\"card-label\">Report sources</div>",
    str "<div class=\"card-value\">" ++ t.sourceCount ++ str "</div>",
    str "</td>",
    [],
    str "<td class=\"card\">",
    str "<div class=\"card-label\">Records</div>",
    str "<div class=\"card-value\">" ++ t.recordCount ++ str "</div>",
    str "</td>",
    [],
    str "<td class=\"card\">",
    str "<div class=\"card-label\">Sheets</div>",
    str "<div class=\"card-value\">" ++ t.sheetCount ++ str "</div>",
    str "</td>",
    str "</tr>",
    str "</table>"]

def tableLines : List Str :=
  [str "<div class=\"no-break\">",
    str "<h2>Dashboard configuration</h2>",
    [],
    str "<table class=\"data configuration\">",
    str "<tbody>",
    t.configurationRows,
    str "</tbody>",
    str "</table>",
    str "</div>",
    [],
    str "<h2>Report sources</h2>",
    [],
    str "<table class=\"data\">",
    str "<thead>",
    str "<tr>",
    str "<th>#</th>",
    str "<th>File</th>",
    str "<th>Records</th>",
    str "<th>Sheets</th>",
    str "</tr>",
    str "</thead>",
    str "<tbody>",
    t.sourceRows,
    str "</tbody>",
    str "</table>",
    [],
    str "<h2>Numeric aggregates</h2>",
    [],
    str "<table class=\"data\">",
    str "<thead>",
    str "<tr>",
    str "<th>Source</th>",
    str "<th>Sheet</th>",
    str "<th>Column</th>",
    str "<th>Count</th>",
    str "<th>Sum</th>",
    str "<th>Average</th>",
    str "<th>Min</th>",
    str "<th>Max</th>",
    str "</tr>",
    str "</thead>",
    str "<tbody>",
    t.metricRows,
    str "</tbody>",
    str "</table>"]

def footerLines : List Str :=
  [str "<div class=\"footer\">",
    str "This report is rendered from immutable dashboard snapshot",
    str "version " ++ t.version ++ str ". It does not re-read or re-parse the",
    str "original uploaded report during export.",
    str "</div>"]

/-- The text that `build_dashboard_pdf_html` returns. -/
def html : Str :=
  unlines ([str "<!doctype html>", str "<html lang=\"en\">"] ++ headLines ++
    [[], str "<body>", [], str "<div class=\"brand\">Spike Technology</div>",
      str "<h1>" ++ t.title ++ str "</h1>",
      str "<div class=\"subtitle\">" ++ t.typeLabel ++ str "</div>", []] ++
    t.metaLines ++ [[]] ++ t.overviewLines ++ [[]] ++ t.tableLines ++
    [[], t.omittedNote, []] ++ t.footerLines ++ [[], str "</body>", str "</html>"])

end PageTexts

/-- The note on the rows that were left out. -/
def omittedNote (omittedMetricRows : Nat) : Str :=
  if omittedMetricRows = 0 then []
  else str "<div class=\"notice\">" ++
    (intText omittedMetricRows ++ str " additional numeric columns ") ++
    str "were omitted from this PDF to keep the export bounded." ++ str "</div>"

/-- `build_dashboard_pdf_html`. -/
def buildDashboardPdfHtml (lib : PdfLibrary) (snapshot : DashboardSnapshot) (businessName : Str)
    (businessIndustry : Option Str) : Except DashboardPdfError Str := do
  let payload ← asDict snapshot.payload
  ensure ((payload.get (str "format")).eqStr (str "spike.dashboard-snapshot") = true)
    (.renderer (str "Unsupported dashboard snapshot format."))
  let dashboard ← asDict (payload.get (str "dashboard"))
  let configuration ← asDict (dashboard.get (str "configuration"))
  let sources ← asList (payload.get (str "sources"))
  let dashboardType ← required
    ((dashboard.lookup (str "type")).bind DashboardType.ofJson?)
    (.renderer (str "Dashboard snapshot type is invalid."))
  let title ← required ((dashboard.get (str "title")).str?.filter fun title => strip title ≠ [])
    (.renderer (str "Dashboard snapshot title is invalid."))
  let (metricRows, omittedMetricRows) ← lib.metricRows sources
  let configurationRows ← lib.configurationRows configuration
  let sourceRows ← lib.sourceRows sources
  pure (PageTexts.html
    { title := Html.escape title
      typeLabel := Html.escape (dashboardTypeLabel dashboardType)
      businessName := Html.escape businessName
      industry := Html.escape (industryText businessIndustry)
      version := intText snapshot.version
      createdAt := Html.escape (lib.isoformat snapshot.createdAt)
      dashboardId := Html.escape (uuidText snapshot.dashboardId)
      schemaVersion := intText snapshot.schemaVersion
      contentHash := Html.escape snapshot.contentHash
      sourceCount := lib.escape (payload.get (str "source_count"))
      recordCount := lib.escape (payload.get (str "record_count"))
      sheetCount := lib.escape (payload.get (str "sheet_count"))
      configurationRows := configurationRows
      sourceRows := sourceRows
      metricRows := metricRows
      omittedNote := omittedNote omittedMetricRows })

-- ---------------------------------------------------------------------------
-- The file
-- ---------------------------------------------------------------------------

/-- `[a-z0-9]`. -/
def isSlugChar (c : CodePoint) : Bool :=
  (0x61 ≤ c.val && c.val ≤ 0x7A) || (0x30 ≤ c.val && c.val ≤ 0x39)

/-- `re.sub(r"[^a-z0-9]+", "-", s)`; the flag says that a run of other characters has begun. -/
def slugify (inRun : Bool) : Str → Str
  | [] => []
  | c :: s =>
    if isSlugChar c then c :: slugify false s
    else if inRun then slugify true s else 0x2D :: slugify true s

/-- `dashboard_pdf_filename`. -/
def dashboardPdfFilename (lib : PdfLibrary) (title : Str) (dashboardId : Uuid) (version : Int) :
    Str :=
  let normalized := lib.lower (strip title)
  let slug := (trimBy (· = 0x2D) (slugify false normalized)).take 80
  let slug := if slug = [] then str "dashboard-" ++ uuidText dashboardId else slug
  slug ++ str "-v" ++ intText version ++ str ".pdf"

structure DashboardPdfExport where
  content : List UInt8
  filename : Str
  snapshotVersion : Int
  snapshotContentHash : Str

/-- `content.startswith(b"%PDF-")`. -/
def isPdf (content : List UInt8) : Bool := [0x25, 0x50, 0x44, 0x46, 0x2D].isPrefixOf content

/-- `WeasyPrintDashboardPDFRenderer.render`, outside of Windows; `weasyprint` is
`HTML(string=document).write_pdf()` with `none` for an error of it, and `none` where the import of
`HTML` raises. -/
def weasyPrintRender (lib : PdfLibrary) (weasyprint : Option (Str → Option (List UInt8)))
    (snapshot : DashboardSnapshot) (businessName : Str) (businessIndustry : Option Str) :
    Except DashboardPdfError (List UInt8) := do
  let writePdf ← required weasyprint (.rendererUnavailable (str "WeasyPrint runtime is unavailable."))
  let document ← buildDashboardPdfHtml lib snapshot businessName businessIndustry
  let content ← required (writePdf document) (.renderer (str "Dashboard PDF rendering failed."))
  ensure (isPdf content = true) (.renderer (str "Dashboard PDF renderer returned invalid output."))
  pure content

/-- `DashboardPDFService.export_latest`. -/
def exportLatest (lib : PdfLibrary)
    (render : DashboardSnapshot → Str → Option Str → Except DashboardPdfError (List UInt8))
    (s : SnapshotState) (scope dashboardId : Uuid) (businessName : Str)
    (businessIndustry : Option Str) : Except DashboardPdfError DashboardPdfExport := do
  let _ ← required (s.dashboard? scope dashboardId) .dashboardNotFound
  let snapshot ← required (s.latest? scope dashboardId) .snapshotNotFound
  let content ← render snapshot businessName businessIndustry
  ensure (isPdf content = true) (.renderer (str "Dashboard PDF renderer returned invalid output."))
  -- the check of the column makes every payload an object
  let payload : Dict := snapshot.payload.obj?.getD []
  let snapshotDashboard ← asDict (payload.get (str "dashboard"))
  let title ← required (snapshotDashboard.get (str "title")).str?
    (.renderer (str "Dashboard snapshot title is invalid."))
  pure
    { content := content
      filename := dashboardPdfFilename lib title dashboardId snapshot.version
      snapshotVersion := snapshot.version
      snapshotContentHash := snapshot.contentHash }

end SpikeBackend
