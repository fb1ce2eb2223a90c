import SpikeBackend.Model.DashboardPdf

/-!
# What an exported page shows

`Page` is what the export of a snapshot shows, in terms of the snapshot: texts, and tables of
texts. Its tree of elements is `Page.nodes`; the page that the code puts together is that tree
written as HTML (`build_eq_ok`), so that a reader of HTML finds exactly the stored texts, each in
its own cell, whatever characters they are made of.

* `Page.html_texts` — the lines of the page are the text of the tree;
* `metricRows_eq_ok` — the loops with their bound keep the first 500 rows;
* `exported_page_reads_back`.
-/

namespace SpikeBackend

open Relational Text Outcome Collections Html

-- ---------------------------------------------------------------------------
-- The tree
-- ---------------------------------------------------------------------------

/-- A node on lines of its own. -/
def line (n : Node) : List Node := [n, .text (str "\n")]

/-- An element with a text, on one line. -/
def leaf (tag s : Str) : List Node := line (.element tag [.text s])

/-- An element whose tags are on lines of their own. -/
def block (tag : Str) (ns : List Node) : List Node :=
  line (.element tag (.text (str "\n") :: ns))

/-- An empty line. -/
def blank : List Node := [.text (str "\n")]

/-- A row of a table, in one line with the next. -/
def rowNode (cells : List Str) : Node :=
  .element (str "tr") (cells.map fun cell => .element (str "td") [.text cell])

/-- The row of an empty table. -/
def mutedRow (tag s : Str) : Node := .element (str "tr") [.element tag [.text s]]

/-- What the page of a snapshot shows. -/
structure Page where
  title : Str
  typeLabel : Str
  businessName : Str
  industry : Str
  version : Int
  createdAt : Str
  dashboardId : Str
  schemaVersion : Int
  contentHash : Str
  sourceCount : Str
  recordCount : Str
  sheetCount : Str
  /-- the keys of the configuration, with the texts of their values -/
  configuration : List (Str × Str)
  /-- file, records and sheets of every source -/
  sources : List (List Str)
  /-- the numeric columns, all of them -/
  metrics : List (List Str)

namespace Page

variable (p : Page)

def configurationNodes : List Node :=
  if p.configuration = [] then
    [mutedRow (str "td colspan=\"2\" class=\"muted\"")
      (str "No dashboard configuration was stored.")]
  else p.configuration.map fun entry =>
    .element (str "tr")
      [.element (str "th") [.text entry.1], .element (str "td") [.text entry.2]]

def sourceNodes : List Node :=
  if p.sources = [] then
    [mutedRow (str "td colspan=\"4\" class=\"muted\"") (str "No report sources were recorded.")]
  else (p.sources.zipIdx 1).map fun source => rowNode (intText source.2 :: source.1)

def metricNodes : List Node :=
  if p.metrics = [] then
    [mutedRow (str "td colspan=\"8\" class=\"muted\"")
      (str "No numeric aggregate columns were available in this snapshot.")]
  else (p.metrics.take dashboardPdfMaxMetricRows).map rowNode

def noteNodes : List Node :=
  if p.metrics.length ≤ dashboardPdfMaxMetricRows then []
  else [.element (str "div class=\"notice\"")
    [.text (intText (p.metrics.length - dashboardPdfMaxMetricRows : Nat) ++
      str " additional numeric columns were omitted from this PDF to keep the export bounded.")]]

def headNodes : List Node :=
  block (str "head")
    (line (.void (str "meta charset=\"utf-8\"")) ++
      line (.raw (str "style")
        (str "\n" ++ (str "\n").intercalate (dashboardPdfStyle.map styleRule))))

def metaNodes : List Node :=
  block (str "div class=\"meta\"") (block (str "table class=\"meta-grid\"")
    (block (str "tr")
        (leaf (str "td class=\"meta-label\"") (str "Business") ++
          leaf (str "td") p.businessName ++
          leaf (str "td class=\"meta-label\"") (str "Industry") ++
          leaf (str "td") p.industry) ++ blank ++
      block (str "tr")
        (leaf (str "td class=\"meta-label\"") (str "Snapshot version") ++
          leaf (str "td") (intText p.version) ++
          leaf (str "td class=\"meta-label\"") (str "Snapshot created") ++
          leaf (str "td") p.createdAt) ++ blank ++
      block (str "tr")
        (leaf (str "td class=\"meta-label\"") (str "Dashboard ID") ++
          leaf (str "td") p.dashboardId ++
          leaf (str "td class=\"meta-label\"") (str "Schema version") ++
          leaf (str "td") (intText p.schemaVersion)) ++ blank ++
      block (str "tr")
        (leaf (str "td class=\"meta-label\"") (str "Content hash") ++
          leaf (str "td colspan=\"3\" class=\"hash\"") p.contentHash)))

/-- A card of the overview. -/
def card (label value : Str) : List Node :=
  block (str "td class=\"card\"")
    (leaf (str "div class=\"card-label\"") label ++ leaf (str "div class=\"card-value\"") value)

def overviewNodes : List Node :=
  leaf (str "h2") (str "Snapshot overview") ++ blank ++
    block (str "table class=\"cards\"") (block (str "tr")
      (card (str "Report sources") p.sourceCount ++ blank ++
        card (str "Records") p.recordCount ++ blank ++ card (str "Sheets") p.sheetCount))

/-- The head of a table. -/
def headings (labels : List Str) : List Node :=
  block (str "thead") (block (str "tr") (labels.flatMap (leaf (str "th"))))

def tableNodes : List Node :=
  block (str "div class=\"no-break\"")
      (leaf (str "h2") (str "Dashboard configuration") ++ blank ++
        block (str "table class=\"data configuration\"")
          (block (str "tbody") (p.configurationNodes ++ blank))) ++ blank ++
    leaf (str "h2") (str "Report sources") ++ blank ++
    block (str "table class=\"data\"")
      (headings [str "#", str "File", str "Records", str "Sheets"] ++
        block (str "tbody") (p.sourceNodes ++ blank)) ++ blank ++
    leaf (str "h2") (str "Numeric aggregates") ++ blank ++
    block (str "table class=\"data\"")
      (headings [str "Source", str "Sheet", str "Column", str "Count", str "Sum", str "Average",
          str "Min", str "Max"] ++
        block (str "tbody") (p.metricNodes ++ blank))

def footerNodes : List Node :=
  block (str "div class=\"footer\"")
    [.text (str "This report is rendered from immutable dashboard snapshot\nversion " ++
      intText p.version ++ str ". It does not re-read or re-parse the\n" ++
      str "original uploaded report during export.\n")]

/-- The tree of the page. -/
def nodes : List Node :=
  line (.void (str "!doctype html")) ++
    block (str "html lang=\"en\"")
      (headNodes ++ blank ++
        block (str "body")
          (blank ++ leaf (str "div class=\"brand\"") (str "Spike Technology") ++
            leaf (str "h1") p.title ++ leaf (str "div class=\"subtitle\"") p.typeLabel ++ blank ++
            p.metaNodes ++ blank ++ p.overviewNodes ++ blank ++ p.tableNodes ++ blank ++
            p.noteNodes ++ blank ++ blank ++ p.footerNodes ++ blank))

/-- The texts that fill the page. -/
def texts : PageTexts where
  title := escape p.title
  typeLabel := escape p.typeLabel
  businessName := escape p.businessName
  industry := escape p.industry
  version := intText p.version
  createdAt := escape p.createdAt
  dashboardId := escape p.dashboardId
  schemaVersion := intText p.schemaVersion
  contentHash := escape p.contentHash
  sourceCount := escape p.sourceCount
  recordCount := escape p.recordCount
  sheetCount := escape p.sheetCount
  configurationRows := renderAll p.configurationNodes
  sourceRows := renderAll p.sourceNodes
  metricRows := renderAll p.metricNodes
  omittedNote := renderAll p.noteNodes

end Page

-- ---------------------------------------------------------------------------
-- The text of the tree
-- ---------------------------------------------------------------------------

/-- The text of a number is escaped as itself. -/
theorem escape_intText (n : Int) : escape (intText n) = intText n := by
  refine escape_eq_self (List.all_eq_true.mpr fun c hc => ?_)
  obtain ⟨hLow, hHigh⟩ := mem_intText hc
  have hNe : ∀ d : CodePoint, d.val < 0x2D ∨ 0x39 < d.val → c ≠ d := by
    rintro d hd rfl
    omega
  simp only [isPlain, Bool.and_eq_true, decide_eq_true_eq]
  exact ⟨⟨⟨⟨hNe _ (by decide), hNe _ (by decide)⟩, hNe _ (by decide)⟩, hNe _ (by decide)⟩,
    hNe _ (by decide)⟩

theorem renderAll_line (n : Node) : renderAll (line n) = render n ++ str "\n" := rfl

theorem renderAll_leaf (tag s : Str) :
    renderAll (leaf tag s) = startTag tag ++ (escape s ++ (endTag tag ++ str "\n")) := by
  rw [leaf, renderAll_line, render, renderAll, renderAll, render, List.append_nil,
    List.append_assoc, List.append_assoc]

/-- An element with its children on the lines between its tags. -/
theorem renderAll_block (tag : Str) (ns : List Node) :
    renderAll (block tag ns) =
      startTag tag ++ (str "\n" ++ (renderAll ns ++ (endTag tag ++ str "\n"))) := by
  rw [block, renderAll_line, render, renderAll, List.append_assoc, List.append_assoc,
    List.append_assoc]
  rfl

theorem renderAll_blank : renderAll blank = str "\n" := rfl

theorem unlines_append (ls ls' : List Str) : unlines (ls ++ ls') = unlines ls ++ unlines ls' :=
  List.flatMap_append

namespace Page

variable (p : Page)

theorem renderAll_headNodes : renderAll headNodes = unlines PageTexts.headLines := by
  simp only [headNodes, PageTexts.headLines, unlines, renderAll_block, renderAll_line,
    renderAll_append, render, List.flatMap_cons, List.flatMap_nil, List.append_assoc]
  rfl

set_option maxRecDepth 8000 in
/-- The lines about the business and the snapshot. -/
theorem renderAll_metaNodes : renderAll p.metaNodes = unlines p.texts.metaLines := by
  simp only [metaNodes, PageTexts.metaLines, texts, unlines, renderAll_block, renderAll_leaf,
    renderAll_blank, renderAll_append, List.flatMap_cons, List.flatMap_nil, List.append_assoc,
    escape_intText]
  rfl

set_option maxRecDepth 8000 in
/-- The overview of the dashboard. -/
theorem renderAll_overviewNodes : renderAll p.overviewNodes = unlines p.texts.overviewLines := by
  simp only [overviewNodes, card, PageTexts.overviewLines, texts, unlines, renderAll_block,
    renderAll_leaf, renderAll_blank, renderAll_append, List.flatMap_cons, List.flatMap_nil,
    List.append_assoc]
  rfl

set_option maxRecDepth 8000 in
/-- The three tables. -/
theorem renderAll_tableNodes : renderAll p.tableNodes = unlines p.texts.tableLines := by
  simp only [tableNodes, headings, PageTexts.tableLines, texts, unlines, renderAll_block,
    renderAll_leaf, renderAll_blank, renderAll_append, List.flatMap_cons, List.flatMap_nil,
    List.append_assoc]
  rfl

/-- The footer, whose sentence runs over three lines of the template. -/
theorem renderAll_footerNodes : renderAll p.footerNodes = unlines p.texts.footerLines := by
  have hFirst : escape (str "This report is rendered from immutable dashboard snapshot\nversion ") =
      str "This report is rendered from immutable dashboard snapshot" ++
        (str "\n" ++ str "version ") := by
    rw [escape_eq_self (by decide)]
    rfl
  have hSecond : escape (str ". It does not re-read or re-parse the\n") =
      str ". It does not re-read or re-parse the" ++ str "\n" := by
    rw [escape_eq_self (by decide)]
    rfl
  have hThird : escape (str "original uploaded report during export.\n") =
      str "original uploaded report during export." ++ str "\n" := by
    rw [escape_eq_self (by decide)]
    rfl
  -- the version is written in between, which needs no escaping
  simp only [footerNodes, PageTexts.footerLines, texts, unlines, renderAll_block, renderAll, render,
    escape_append, hFirst, hSecond, hThird, escape_intText, List.flatMap_cons, List.flatMap_nil,
    List.append_assoc, List.append_nil]
  rfl

/-- **The lines of the page** are the text of its tree. -/
theorem html_texts : p.texts.html = renderAll p.nodes := by
  have hBrand : ∀ rest : Str, startTag (str "div class=\"brand\"") ++
      (escape (str "Spike Technology") ++ (endTag (str "div class=\"brand\"") ++ rest)) =
        str "<div class=\"brand\">Spike Technology</div>" ++ rest := fun _ => rfl
  simp only [PageTexts.html, nodes, unlines_append, renderAll_append, renderAll_block,
    renderAll_line, renderAll_leaf, renderAll_blank, renderAll_headNodes, renderAll_metaNodes,
    renderAll_overviewNodes, renderAll_tableNodes, renderAll_footerNodes, hBrand,
    List.append_assoc]
  generalize unlines PageTexts.headLines = head
  generalize unlines p.texts.metaLines = metaText
  generalize unlines p.texts.overviewLines = overview
  generalize unlines p.texts.tableLines = tables
  generalize unlines p.texts.footerLines = footer
  simp only [unlines, texts, List.flatMap_cons, List.flatMap_nil, List.append_assoc,
    List.nil_append, List.append_nil, render]
  rfl

-- ---------------------------------------------------------------------------
-- The tree is one that a reader gets back
-- ---------------------------------------------------------------------------

end Page

/-- Two lists of siblings are well formed if each of them is. -/
theorem allWellFormed_append (ns ns' : List Node) :
    allWellFormed (ns ++ ns') = (allWellFormed ns && allWellFormed ns') := by
  induction ns with
  | nil => rfl
  | cons n ns ih => rw [List.cons_append, allWellFormed, allWellFormed, ih, Bool.and_assoc]

theorem allWellFormed_line (n : Node) : allWellFormed (line n) = wellFormed n := by
  rw [line, allWellFormed, allWellFormed, wellFormed, allWellFormed, Bool.and_true, Bool.and_true]

/-- The tag of an element with escaped texts. -/
def isElementTag (tag : Str) : Bool :=
  isTag tag && decide (tagName tag ∉ voidNames) && decide (tagName tag ∉ rawNames)

theorem wellFormed_element (tag : Str) (ns : List Node) :
    wellFormed (.element tag ns) = (isElementTag tag && allWellFormed ns) := by
  rw [wellFormed, isElementTag]

theorem allWellFormed_leaf (tag s : Str) : allWellFormed (leaf tag s) = isElementTag tag := by
  rw [leaf, allWellFormed_line, wellFormed_element, allWellFormed, wellFormed, allWellFormed,
    Bool.and_true, Bool.and_true]

theorem allWellFormed_block (tag : Str) (ns : List Node) :
    allWellFormed (block tag ns) = (isElementTag tag && allWellFormed ns) := by
  rw [block, allWellFormed_line, wellFormed_element, allWellFormed, wellFormed, Bool.true_and]

theorem allWellFormed_blank : allWellFormed blank = true := rfl

/-- Rows are well formed when each of them is. -/
theorem allWellFormed_map {α : Type} {f : α → Node} (h : ∀ a, wellFormed (f a) = true)
    (as : List α) : allWellFormed (as.map f) = true := by
  induction as with
  | nil => rfl
  | cons a as ih => rw [List.map_cons, allWellFormed, h, ih, Bool.and_true]

/-- A row of a table is well formed, whatever its cells are. -/
theorem wellFormed_rowNode (cells : List Str) : wellFormed (rowNode cells) = true := by
  have hCells := allWellFormed_map (f := fun cell : Str => Node.element (str "td") [.text cell])
    (fun cell => rfl) cells
  rw [rowNode, wellFormed_element, hCells]
  rfl

namespace Page

variable (p : Page)

/-- The rows of the configuration are well formed. -/
theorem wellFormed_configurationNodes : allWellFormed p.configurationNodes = true := by
  unfold configurationNodes
  split_ifs
  · rfl
  · exact allWellFormed_map (fun entry => rfl) _

/-- The rows of the sources are well formed. -/
theorem wellFormed_sourceNodes : allWellFormed p.sourceNodes = true := by
  unfold sourceNodes
  split_ifs
  · rfl
  · exact allWellFormed_map (fun source => wellFormed_rowNode _) _

/-- The rows of the metrics are well formed. -/
theorem wellFormed_metricNodes : allWellFormed p.metricNodes = true := by
  unfold metricNodes
  split_ifs
  · rfl
  · exact allWellFormed_map wellFormed_rowNode _

/-- The note about omitted rows is well formed. -/
theorem wellFormed_noteNodes : allWellFormed p.noteNodes = true := by
  unfold noteNodes
  split_ifs
  · rfl
  · rfl

/-- **The tree of a page** is well formed, whatever the texts in it. -/
theorem wellFormed_nodes : allWellFormed p.nodes = true := by
  have hHead : allWellFormed headNodes = true := by decide +kernel
  simp only [nodes, metaNodes, overviewNodes, card, tableNodes, headings, footerNodes,
    allWellFormed_append, allWellFormed_line, allWellFormed_leaf, allWellFormed_block,
    allWellFormed_blank, wellFormed_configurationNodes, wellFormed_sourceNodes,
    wellFormed_metricNodes, wellFormed_noteNodes, hHead, List.flatMap_cons, List.flatMap_nil]
  rfl

end Page

-- ---------------------------------------------------------------------------
-- The page of a snapshot
-- ---------------------------------------------------------------------------

/-- The members of an object, none for another value. -/
def membersOf (value : Json) : Dict := value.obj?.getD []

/-- The items of an array, none for another value. -/
def itemsOf (value : Json) : List Json := value.arr?.getD []

namespace PdfLibrary

variable (lib : PdfLibrary)

/-- What the page shows for a value. -/
def shown (value : Json) : Str := if value.isNull then str "—" else lib.text value

/-- The entries of a configuration, by their keys. -/
def configurationEntries (configuration : Dict) : List (Str × Str) :=
  (sortBy (fun key : Str => key) (configuration.map Prod.fst)).map fun key =>
    (key, spacedJsonText lib.floatRepr (configuration.get key).sortKeys)

def sourceCells (source : Json) : List Str :=
  [str "filename", str "record_count", str "sheet_count"].map fun key =>
    lib.shown ((membersOf source).get key)

/-- The cells of a numeric column. -/
def columnCells (filename sheetName column : Json) : Option (List Str) :=
  let numeric := (membersOf column).get (str "numeric")
  if numeric.isNull then none
  else some ([filename, sheetName, (membersOf column).get (str "name"),
    (membersOf numeric).get (str "count"), (membersOf numeric).get (str "sum_decimal"),
    (membersOf numeric).get (str "average_decimal"), (membersOf numeric).get (str "min_decimal"),
    (membersOf numeric).get (str "max_decimal")].map lib.shown)

def sheetCells (filename sheet : Json) : List (List Str) :=
  (itemsOf ((membersOf sheet).get (str "columns"))).filterMap
    (lib.columnCells filename ((membersOf sheet).getD (str "sheet_name") (.str (str "Sheet"))))

def aggregateCells (source : Json) : List (List Str) :=
  (itemsOf ((membersOf ((membersOf source).get (str "aggregate"))).get (str "sheets"))).flatMap
    (lib.sheetCells ((membersOf source).getD (str "filename") (.str (str "Report"))))

/-- What the page of a snapshot shows. -/
def page (snapshot : DashboardSnapshot) (businessName : Str) (businessIndustry : Option Str) :
    Page :=
  let payload := membersOf snapshot.payload
  let dashboard := membersOf (payload.get (str "dashboard"))
  let sources := itemsOf (payload.get (str "sources"))
  { title := (dashboard.get (str "title")).str?.getD []
    typeLabel := (((dashboard.lookup (str "type")).bind DashboardType.ofJson?).map
      dashboardTypeLabel).getD []
    businessName := businessName
    industry := industryText businessIndustry
    version := snapshot.version
    createdAt := lib.isoformat snapshot.createdAt
    dashboardId := uuidText snapshot.dashboardId
    schemaVersion := snapshot.schemaVersion
    contentHash := snapshot.contentHash
    sourceCount := lib.shown (payload.get (str "source_count"))
    recordCount := lib.shown (payload.get (str "record_count"))
    sheetCount := lib.shown (payload.get (str "sheet_count"))
    configuration := lib.configurationEntries (membersOf (dashboard.get (str "configuration")))
    sources := sources.map lib.sourceCells
    metrics := sources.flatMap lib.aggregateCells }

-- ---------------------------------------------------------------------------
-- The rows that the loops build
-- ---------------------------------------------------------------------------

variable {lib}

/-- `_escape` is the escape of what `_display_value` shows. -/
theorem escape_eq (value : Json) : lib.escape value = Html.escape (lib.shown value) := by
  rw [escape, shown]
  split_ifs
  · rfl
  · rfl

/-- An object that passes the check, by its members. -/
theorem asDict_eq_ok {value : Json} {members : Dict} (h : asDict value = .ok members) :
    membersOf value = members := by
  rw [asDict, required_eq_ok] at h
  rw [membersOf, h]
  rfl

/-- An array that passes the check, by its items. -/
theorem asList_eq_ok {value : Json} {items : List Json} (h : asList value = .ok items) :
    itemsOf value = items := by
  rw [asList, required_eq_ok] at h
  rw [itemsOf, h]
  rfl

end PdfLibrary

/-- Siblings that are built one by one. -/
theorem renderAll_map {α : Type} (f : α → Node) (as : List α) :
    renderAll (as.map f) = (as.map fun a => render (f a)).flatten := by
  induction as with
  | nil => rfl
  | cons a as ih => rw [List.map_cons, renderAll, ih, List.map_cons, List.flatten_cons]

/-- The text of a row is that of the template. -/
theorem render_rowNode (cells : List Str) :
    render (rowNode cells) =
      str "<tr>" ++ (cells.map fun cell => str "<td>" ++ escape cell ++ str "</td>").flatten ++
        str "</tr>" := by
  have hCell : ∀ cell : Str, render (.element (str "td") [.text cell]) =
      str "<td>" ++ escape cell ++ str "</td>" := by
    intro cell
    rw [render, renderAll, render, renderAll, List.append_nil]
    rfl
  rw [rowNode, render, renderAll_map]
  simp only [hCell]
  rfl

namespace PdfLibrary

variable {lib : PdfLibrary}

/-- The rows of the configuration are those of the tree. -/
theorem configurationRows_eq_ok {configuration : Dict} {rows : Str}
    (h : lib.configurationRows configuration = .ok rows) {p : Page}
    (hp : p.configuration = lib.configurationEntries configuration) :
    rows = renderAll p.configurationNodes := by
  rw [configurationRows] at h
  split_ifs at h with hEmpty
  · have hNone : p.configuration = [] := by
      rw [hp, hEmpty]
      rfl
    rw [Page.configurationNodes, if_pos hNone]
    exact (Except.ok.inj h).symm
  · obtain ⟨texts, hTexts, hRows⟩ := bind_eq_ok.mp h
    have hNone : p.configuration ≠ [] := by
      intro hNil
      rw [hp, configurationEntries, List.map_eq_nil_iff] at hNil
      have hLength := congrArg List.length hNil
      rw [sortBy, List.length_insertionSort, List.length_map] at hLength
      exact hEmpty (List.length_eq_zero_iff.mp hLength)
    -- each iteration appends the row of one key, in the order of the sorted keys
    have hEach : texts = (sortBy (fun key : Str => key) (configuration.map Prod.fst)).map
        fun key => str "<tr><th>" ++ Html.escape key ++ str "</th><td>" ++
          Html.escape (spacedJsonText lib.floatRepr (configuration.get key).sortKeys) ++
            str "</td></tr>" := by
      refine mapM_eq_map hTexts fun key text hText => ?_
      obtain ⟨display, hDisplay, hDone⟩ := bind_eq_ok.mp hText
      obtain ⟨-, -, hDisplay⟩ := bind_eq_ok.mp hDisplay
      rw [← Except.ok.inj hDone, ← Except.ok.inj hDisplay]
    rw [Page.configurationNodes, if_neg hNone, renderAll_map, hp, configurationEntries,
      List.map_map, ← Except.ok.inj hRows, hEach]
    congr 2
    funext key
    simp only [Function.comp_apply, render, renderAll, List.append_nil, List.append_assoc]
    rfl

/-- The rows of the sources are those of the tree. -/
theorem sourceRows_eq_ok {sources : List Json} {rows : Str}
    (h : lib.sourceRows sources = .ok rows) {p : Page}
    (hp : p.sources = sources.map lib.sourceCells) : rows = renderAll p.sourceNodes := by
  rw [sourceRows] at h
  split_ifs at h with hEmpty
  · have hNone : p.sources = [] := by rw [hp, hEmpty, List.map_nil]
    rw [Page.sourceNodes, if_pos hNone]
    exact (Except.ok.inj h).symm
  · obtain ⟨texts, hTexts, hRows⟩ := bind_eq_ok.mp h
    have hNone : p.sources ≠ [] := by
      rw [hp]
      exact fun hNil => hEmpty (List.map_eq_nil_iff.mp hNil)
    have hEach : texts = (sources.zipIdx 1).map fun source =>
      -- `enumerate(sources, start=1)` numbers the rows
        render (rowNode (intText source.2 :: lib.sourceCells source.1)) := by
      refine mapM_eq_map hTexts fun source text hText => ?_
      obtain ⟨members, hMembers, hDone⟩ := bind_eq_ok.mp hText
      rw [← Except.ok.inj hDone, render_rowNode, sourceCells, asDict_eq_ok hMembers]
      simp only [List.map_cons, List.map_nil, List.flatten_cons, List.flatten_nil, escape_eq,
        escape_intText, List.append_nil, List.append_assoc]
    rw [Page.sourceNodes, if_neg hNone, renderAll_map, hp, List.zipIdx_map, List.map_map,
      ← Except.ok.inj hRows, hEach]
    rfl

/-- The loops have come past the numeric columns with these cells. -/
def MetricRows.Past (s : MetricRows) (cells : List (List Str)) : Prop :=
  s.rows = (cells.take dashboardPdfMaxMetricRows).map (fun row => render (rowNode row)) ∧
    s.omitted = cells.length - dashboardPdfMaxMetricRows

/-- One more numeric column: a row of its own, or one that is left out. -/
theorem MetricRows.Past.add {s s' : MetricRows} {cells : List (List Str)} (hs : s.Past cells)
    {row : List Str}
    (h : s' = if dashboardPdfMaxMetricRows ≤ s.rows.length
      then { s with omitted := s.omitted + 1 }
      else { s with rows := s.rows ++ [render (rowNode row)] }) : s'.Past (cells ++ [row]) := by
  obtain ⟨hRows, hOmitted⟩ := hs
  have hLength : s.rows.length = min dashboardPdfMaxMetricRows cells.length := by
    rw [hRows, List.length_map, List.length_take]
  subst h
  by_cases hFull : dashboardPdfMaxMetricRows ≤ s.rows.length
  · -- the table is full, so the row is only counted
    have hPast : dashboardPdfMaxMetricRows ≤ cells.length := by omega
    rw [if_pos hFull]
    refine ⟨?_, ?_⟩
    · rw [List.take_append_of_le_length hPast]
      exact hRows
    · show s.omitted + 1 = _
      rw [hOmitted, List.length_append, List.length_singleton]
      omega
  · -- there is room, and nothing has been left out so far
    have hRoom : cells.length < dashboardPdfMaxMetricRows := by omega
    have hRoom' : (cells ++ [row]).length ≤ dashboardPdfMaxMetricRows := by
      rw [List.length_append, List.length_singleton]
      omega
    rw [if_neg hFull]
    refine ⟨?_, ?_⟩
    · show s.rows ++ _ = _
      rw [List.take_of_length_le hRoom', List.map_append, hRows,
        List.take_of_length_le (by omega)]
      rfl
    · show s.omitted = _
      rw [hOmitted]
      omega

/-- One column: a row for its numbers, if it has any. -/
theorem metricColumn_past {filename sheetName column : Json} {s s' : MetricRows}
    {cells : List (List Str)} (hs : s.Past cells)
    (h : lib.metricColumn filename sheetName s column = .ok s') :
    s'.Past (cells ++ (lib.columnCells filename sheetName column).toList) := by
  obtain ⟨members, hMembers, h⟩ := bind_eq_ok.mp h
  rw [columnCells, asDict_eq_ok hMembers]
  dsimp only at h ⊢
  by_cases hNull : (members.get (str "numeric")).isNull = true
  · rw [if_pos hNull] at h ⊢
    rw [Option.toList_none, List.append_nil, ← Except.ok.inj h]
    exact hs
  · rw [if_neg hNull] at h ⊢
    obtain ⟨numeric, hNumeric, h⟩ := bind_eq_ok.mp h
    rw [asDict_eq_ok hNumeric]
    -- the row of the loop is the row of the tree
    have hRow : lib.metricRow filename sheetName members numeric =
        render (rowNode ([filename, sheetName, members.get (str "name"),
          numeric.get (str "count"), numeric.get (str "sum_decimal"),
          numeric.get (str "average_decimal"), numeric.get (str "min_decimal"),
          numeric.get (str "max_decimal")].map lib.shown)) := by
      rw [render_rowNode]
      unfold metricRow
      simp only [List.map_cons, List.map_nil, List.flatten_cons, List.flatten_nil]
      simp only [escape_eq, List.append_nil, List.append_assoc]
    refine hs.add ?_
    rw [← hRow]
    split_ifs at h ⊢
    · exact (Except.ok.inj h).symm
    · exact (Except.ok.inj h).symm

/-- One sheet, column by column. -/
theorem metricSheet_past {filename sheet : Json} {s s' : MetricRows} {cells : List (List Str)}
    (hs : s.Past cells) (h : lib.metricSheet filename s sheet = .ok s') :
    s'.Past (cells ++ lib.sheetCells filename sheet) := by
  obtain ⟨members, hMembers, h⟩ := bind_eq_ok.mp h
  obtain ⟨columns, hColumns, h⟩ := bind_eq_ok.mp h
  rw [sheetCells, asDict_eq_ok hMembers, asList_eq_ok hColumns]
  refine foldlM_history (P := fun done s => MetricRows.Past s (cells ++ done.filterMap _)) h ?_ ?_
  · rw [List.filterMap_nil, List.append_nil]
    exact hs
  · intro done x column x' _ hx hColumn
    have hOne : ∀ f : Json → Option (List Str), [column].filterMap f = (f column).toList := by
      intro f
      rw [List.filterMap_cons]
      cases f column with
      | none => rfl
      | some row => rfl
    rw [List.filterMap_append, hOne, ← List.append_assoc]
    exact metricColumn_past hx hColumn

/-- One source, sheet by sheet. -/
theorem metricSource_past {source : Json} {s s' : MetricRows} {cells : List (List Str)}
    (hs : s.Past cells) (h : lib.metricSource s source = .ok s') :
    s'.Past (cells ++ lib.aggregateCells source) := by
  obtain ⟨members, hMembers, h⟩ := bind_eq_ok.mp h
  obtain ⟨aggregate, hAggregate, h⟩ := bind_eq_ok.mp h
  obtain ⟨sheets, hSheets, h⟩ := bind_eq_ok.mp h
  rw [aggregateCells, asDict_eq_ok hMembers, asDict_eq_ok hAggregate, asList_eq_ok hSheets]
  refine foldlM_history (P := fun done s => MetricRows.Past s (cells ++ done.flatMap _)) h ?_ ?_
  · rw [List.flatMap_nil, List.append_nil]
    exact hs
  · intro done x sheet x' _ hx hSheet
    rw [List.flatMap_append, List.flatMap_singleton, ← List.append_assoc]
    exact metricSheet_past hx hSheet

/-- **The loops of `_metric_rows`** keep the first rows, up to their bound, and count the others. -/
theorem metricRows_eq_ok {sources : List Json} {rows : Str} {omitted : Nat}
    (h : lib.metricRows sources = .ok (rows, omitted)) {p : Page}
    (hp : p.metrics = sources.flatMap lib.aggregateCells) :
    rows = renderAll p.metricNodes ∧ omitted = p.metrics.length - dashboardPdfMaxMetricRows := by
  obtain ⟨s, hs, h⟩ := bind_eq_ok.mp h
  have hPast : s.Past p.metrics := by
    rw [hp]
    refine foldlM_history (P := fun done s => MetricRows.Past s (done.flatMap _)) hs ?_ ?_
    · exact ⟨by rw [List.flatMap_nil, List.take_nil, List.map_nil], (Nat.zero_sub _).symm⟩
    intro done x source x' _ hx hSource
    rw [List.flatMap_append, List.flatMap_singleton]
    exact metricSource_past hx hSource
  obtain ⟨hRows, hOmitted⟩ := hPast
  -- the limit is positive, so the table is empty only if there are no rows at all
  have hNil : s.rows = [] ↔ p.metrics = [] := by
    rw [hRows, List.map_eq_nil_iff, List.take_eq_nil_iff]
    exact or_iff_right (by decide)
  rw [Page.metricNodes]
  split_ifs at h ⊢ with hNone hEmpty hEmpty
  · cases h
    exact ⟨rfl, hOmitted⟩
  · exact absurd (hNil.mpr hNone) hEmpty
  · exact absurd (hNil.mp hEmpty) hNone
  · cases h
    rw [renderAll_map, hRows]
    exact ⟨rfl, hOmitted⟩

end PdfLibrary

/-- The note about omitted rows is that of the tree. -/
theorem omittedNote_eq (p : Page) :
    omittedNote (p.metrics.length - dashboardPdfMaxMetricRows) = renderAll p.noteNodes := by
  rw [omittedNote, Page.noteNodes]
  split_ifs with hNone hFits hFits
  · rfl
  · omega
  · omega
  · have hPlain : escape (str
          " additional numeric columns were omitted from this PDF to keep the export bounded.") =
        str " additional numeric columns " ++
          str "were omitted from this PDF to keep the export bounded." := by
      rw [escape_eq_self (by decide)]
      rfl
    simp only [renderAll, render, escape_append, escape_intText, hPlain, List.append_nil,
      List.append_assoc]
    rfl

/-- **The page** that the code puts together is the tree of `PdfLibrary.page`, written. -/
theorem build_eq_ok {lib : PdfLibrary} {snapshot : DashboardSnapshot} {businessName : Str}
    {businessIndustry : Option Str} {html : Str}
    (h : buildDashboardPdfHtml lib snapshot businessName businessIndustry = .ok html) :
    html = renderAll (lib.page snapshot businessName businessIndustry).nodes := by
  obtain ⟨payload, hPayload, h⟩ := bind_eq_ok.mp h
  obtain ⟨-, -, h⟩ := bind_eq_ok.mp h
  obtain ⟨dashboard, hDashboard, h⟩ := bind_eq_ok.mp h
  obtain ⟨configuration, hConfiguration, h⟩ := bind_eq_ok.mp h
  obtain ⟨sources, hSources, h⟩ := bind_eq_ok.mp h
  obtain ⟨dashboardType, hType, h⟩ := bind_eq_ok.mp h
  obtain ⟨title, hTitle, h⟩ := bind_eq_ok.mp h
  obtain ⟨⟨metricRows, omitted⟩, hMetricRows, h⟩ := bind_eq_ok.mp h
  obtain ⟨configurationRows, hConfigurationRows, h⟩ := bind_eq_ok.mp h
  obtain ⟨sourceRows, hSourceRows, h⟩ := bind_eq_ok.mp h
  rw [required_eq_ok] at hType hTitle
  -- the parts that passed the checks are the ones that the tree is built from
  have hPage := PdfLibrary.page.eq_1 lib snapshot businessName businessIndustry
  rw [PdfLibrary.asDict_eq_ok hPayload, PdfLibrary.asDict_eq_ok hDashboard,
    PdfLibrary.asDict_eq_ok hConfiguration, PdfLibrary.asList_eq_ok hSources, hType,
    (Option.filter_eq_some_iff.mp hTitle).1] at hPage
  generalize lib.page snapshot businessName businessIndustry = p at hPage ⊢
  have hConfigurationText := PdfLibrary.configurationRows_eq_ok hConfigurationRows (p := p)
    (by rw [hPage])
  have hSourceText := PdfLibrary.sourceRows_eq_ok hSourceRows (p := p) (by rw [hPage])
  obtain ⟨hMetricText, hOmitted⟩ := PdfLibrary.metricRows_eq_ok hMetricRows (p := p) (by rw [hPage])
  rw [← Page.html_texts, ← Except.ok.inj h]
  congr 1
  rw [hConfigurationText, hSourceText, hMetricText, hOmitted, omittedNote_eq, Page.texts]
  subst hPage
  simp only [PdfLibrary.escape_eq]
  rfl

/-- **An exported page is read back.** Whatever the stored texts are made of, a reader of HTML finds
on the page the elements of `Page.nodes` and in them exactly these texts: title, business, version
and hash, every key of the configuration with its value, every source, and the first 500 numeric
columns with the number of the others. -/
theorem exported_page_reads_back {lib : PdfLibrary} {snapshot : DashboardSnapshot}
    {businessName : Str} {businessIndustry : Option Str} {html : Str}
    (h : buildDashboardPdfHtml lib snapshot businessName businessIndustry = .ok html) :
    Html.read html =
      some (normalAll (lib.page snapshot businessName businessIndustry).nodes) := by
  rw [build_eq_ok h]
  exact read_renderAll (Page.wellFormed_nodes _)

namespace PageSample

/-- No container and no float is shown, and titles are in ASCII. -/
def library : PdfLibrary where
  floatRepr _ := []
  containerText _ := []
  isoformat _ := str "2026-01-01T00:00:00+00:00"
  lower s := s.map fun c => if 0x41 ≤ c.val ∧ c.val ≤ 0x5A then c + 0x20 else c

/-- One source with a numeric column. -/
def source : Json := .obj
  [(str "filename", .str (str "<sales>.csv")), (str "record_count", .int 1),
    (str "sheet_count", .int 1),
    (str "aggregate", .obj [(str "sheets", .arr [.obj
      [(str "sheet_name", .str (str "R&D")),
        (str "columns", .arr [.obj
          [(str "name", .str (str "\"Amount\"")),
            (str "numeric", .obj [(str "count", .int 1), (str "sum_decimal", .str (str "5"))])]])]])])]

/-- A title that closes its heading. -/
def snapshot : DashboardSnapshot where
  id := 1
  businessId := 2
  dashboardId := 3
  version := 1
  payload := .obj
    [(str "format", .str (str "spike.dashboard-snapshot")),
      (str "dashboard", .obj
        [(str "type", .str (str "operational_kpi")), (str "title", .str (str "</h1><b>")),
          (str "configuration", .obj [(str "theme", .str (str "</td>"))])]),
      (str "sources", .arr [source])]
  contentHash := str "0"
  createdByUserId := 4
  createdAt := 0

end PageSample

open PageSample in
/-- A dashboard whose title is made of tags: the page reads back with the title as a text. -/
theorem exported_page_reads_back_tags : ∃ html,
    buildDashboardPdfHtml library snapshot (str "A & B") none = .ok html ∧
      (library.page snapshot (str "A & B") none).title = str "</h1><b>" ∧
      Html.read html = some (normalAll (library.page snapshot (str "A & B") none).nodes) :=
  ⟨_, rfl, rfl, exported_page_reads_back rfl⟩

end SpikeBackend
