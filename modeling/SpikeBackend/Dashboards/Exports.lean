import SpikeBackend.Dashboards.ContentHash
import SpikeBackend.Dashboards.ExportedPage
import SpikeBackend.Model.SourceArtifacts
import SpikeBackend.Reports.RoundTrip

/-!
# Exports of stored snapshots

A snapshot that is stored was put together by the code, from a dashboard whose title was normalised
and from artifacts that were aggregated. Such a payload passes every check of the export, so that in
every run the page of a latest snapshot is built, and an export fails only with the renderer.

* `Exportable` — what the export asks of a snapshot;
* `build_of_exportable` — then the page is built;
* `exportable_of_computed` — what a call has computed is such a payload;
* `latest_snapshot_exports`.
-/

namespace SpikeBackend

open Relational Text Outcome Machine Collections Html

-- ---------------------------------------------------------------------------
-- What the export asks for
-- ---------------------------------------------------------------------------

/-- The columns of a sheet: objects, with an object of figures where they are numeric. -/
def ReadableColumn (column : Json) : Prop :=
  ∃ members : Dict, column = .obj members ∧
    ((members.get (str "numeric")).isNull = true ∨
      ∃ numeric : Dict, members.get (str "numeric") = .obj numeric)

def ReadableSheet (sheet : Json) : Prop :=
  ∃ (members : Dict) (columns : List Json), sheet = .obj members ∧
    members.get (str "columns") = .arr columns ∧ ∀ column ∈ columns, ReadableColumn column

/-- An aggregate with sheets and columns. -/
def ReadableAggregate (aggregate : Json) : Prop :=
  ∃ (members : Dict) (sheets : List Json), aggregate = .obj members ∧
    members.get (str "sheets") = .arr sheets ∧ ∀ sheet ∈ sheets, ReadableSheet sheet

def ReadableSource (source : Json) : Prop :=
  ∃ members : Dict, source = .obj members ∧ ReadableAggregate (members.get (str "aggregate"))

/-- A payload that the export shows. -/
structure Exportable (payload : Json) (dashboardType : DashboardType) (title : Str) where
  members : Dict
  dashboard : Dict
  configuration : Dict
  sources : List Json
  isPayload : payload = .obj members
  format : (members.get (str "format")).eqStr (str "spike.dashboard-snapshot") = true
  hasDashboard : members.get (str "dashboard") = .obj dashboard
  hasConfiguration : dashboard.get (str "configuration") = .obj configuration
  hasSources : members.get (str "sources") = .arr sources
  hasType : dashboard.lookup (str "type") = some (.str dashboardType.value)
  hasTitle : dashboard.get (str "title") = .str title
  nonblank : strip title ≠ []
  writable : ∀ entry ∈ configuration, entry.2.writable = true
  readable : ∀ source ∈ sources, ReadableSource source

namespace PdfLibrary

variable (lib : PdfLibrary)

/-- The metric rows of a readable column can be built. -/
theorem exists_metricColumn_ok {column : Json} (h : ReadableColumn column)
    (filename sheetName : Json) (s : MetricRows) :
    ∃ s', lib.metricColumn filename sheetName s column = .ok s' := by
  obtain ⟨members, rfl, hNumeric⟩ := h
  show ∃ s', (if (members.get (str "numeric")).isNull = true then pure s else _) = Except.ok s'
  -- A column without numbers adds no row.
  by_cases hNull : (members.get (str "numeric")).isNull = true
  · rw [if_pos hNull]
    exact ⟨s, rfl⟩
  · obtain ⟨numeric, hObj⟩ := hNumeric.resolve_left hNull
    rw [if_neg hNull, hObj]
    show ∃ s', (if dashboardPdfMaxMetricRows ≤ s.rows.length then pure _ else pure _) =
      Except.ok s'
    -- Past the limit the row is counted as omitted.
    split_ifs
    · exact ⟨_, rfl⟩
    · exact ⟨_, rfl⟩

/-- The metric rows of a readable sheet can be built. -/
theorem exists_metricSheet_ok {sheet : Json} (h : ReadableSheet sheet) (filename : Json)
    (s : MetricRows) : ∃ s', lib.metricSheet filename s sheet = .ok s' := by
  obtain ⟨members, columns, rfl, hColumns, hAll⟩ := h
  have hItems : asList (members.get (str "columns")) = .ok columns := by
    rw [hColumns]
    rfl
  obtain ⟨s', hs'⟩ := exists_foldlM_ok (f := lib.metricColumn filename
    (members.getD (str "sheet_name") (.str (str "Sheet"))))
    (fun x column hColumn => lib.exists_metricColumn_ok (hAll column hColumn) _ _ x) s
  refine ⟨s', ?_⟩
  show (asList (members.get (str "columns")) >>= _) = _
  rw [hItems]
  exact hs'

/-- The metric rows of a readable source can be built. -/
theorem exists_metricSource_ok {source : Json} (h : ReadableSource source) (s : MetricRows) :
    ∃ s', lib.metricSource s source = .ok s' := by
  obtain ⟨members, rfl, aggregate, sheets, hAggregate, hSheets, hAll⟩ := h
  have hItems : asList (aggregate.get (str "sheets")) = .ok sheets := by
    rw [hSheets]
    rfl
  -- The fold over the sheets goes through from any rows.
  obtain ⟨s', hs'⟩ := exists_foldlM_ok (f := lib.metricSheet
    (members.getD (str "filename") (.str (str "Report"))))
    (fun x sheet hSheet => lib.exists_metricSheet_ok (hAll sheet hSheet) _ x) s
  refine ⟨s', ?_⟩
  show (asDict (members.get (str "aggregate")) >>= _) = _
  rw [hAggregate]
  show (asList (aggregate.get (str "sheets")) >>= _) = _
  rw [hItems]
  exact hs'

/-- The metric table of readable sources can be built. -/
theorem exists_metricRows_ok {sources : List Json} (h : ∀ source ∈ sources, ReadableSource source) :
    ∃ rows, lib.metricRows sources = .ok rows := by
  obtain ⟨s, hs⟩ := exists_foldlM_ok (f := lib.metricSource)
    (fun x source hSource => lib.exists_metricSource_ok (h source hSource) x) {}
  rw [metricRows, hs, ok_bind]
  split_ifs
  · exact ⟨_, rfl⟩
  · exact ⟨_, rfl⟩

/-- The table of readable sources can be built. -/
theorem exists_sourceRows_ok {sources : List Json} (h : ∀ source ∈ sources, ReadableSource source) :
    ∃ rows, lib.sourceRows sources = .ok rows := by
  rw [sourceRows]
  split_ifs
  · exact ⟨_, rfl⟩
  · have hEach : ∀ source ∈ sources.zipIdx 1, ∃ row, lib.sourceRow source = .ok row := by
      intro source hSource
      obtain ⟨members, hMembers, -⟩ := h source.1 (List.fst_mem_of_mem_zipIdx hSource)
      rw [sourceRow, hMembers]
      exact ⟨_, rfl⟩
    obtain ⟨rows, hRows⟩ := exists_mapM_ok hEach
    rw [hRows]
    exact ⟨_, rfl⟩

/-- What a dictionary answers for one of its keys is the value of an entry. -/
theorem exists_entry_of_key {members : Dict} {key : Str} (h : key ∈ members.map Prod.fst) :
    ∃ entry ∈ members, members.get key = entry.2 := by
  cases hLookup : members.lookup key with
  | none =>
    obtain ⟨entry, hEntry, rfl⟩ := List.mem_map.mp h
    have hNot := List.lookup_eq_none_iff.mp hLookup entry hEntry
    rw [bne_self_eq_false] at hNot
    exact absurd hNot Bool.false_ne_true
  | some value =>
    obtain ⟨before, after, hSplit, -⟩ := List.lookup_eq_some_iff.mp hLookup
    refine ⟨(key, value), ?_, ?_⟩
    · rw [hSplit]
      exact List.mem_append_right _ List.mem_cons_self
    · rw [Dict.get, Dict.getD, hLookup]
      rfl

/-- The table of a configuration whose values can be written can be built. -/
theorem exists_configurationRows_ok {configuration : Dict}
    (h : ∀ entry ∈ configuration, entry.2.writable = true) :
    ∃ rows, lib.configurationRows configuration = .ok rows := by
  rw [configurationRows]
  split_ifs
  · exact ⟨_, rfl⟩
  · have hEach : ∀ key ∈ sortBy (fun key : Str => key) (configuration.map Prod.fst),
        ∃ row, (do
          let display ← lib.jsonDisplay (configuration.get key)
          pure (str "<tr><th>" ++ Html.escape key ++ str "</th><td>" ++ display ++
            str "</td></tr>")) = .ok row := by
      intro key hKey
      rw [sortBy, List.mem_insertionSort] at hKey
      -- The keys are sorted, so each is looked up again.
      obtain ⟨entry, hEntry, hValue⟩ := exists_entry_of_key hKey
      rw [hValue, jsonDisplay, ensure_pos (h entry hEntry)]
      exact ⟨_, rfl⟩
    obtain ⟨rows, hRows⟩ := exists_mapM_ok hEach
    rw [hRows]
    exact ⟨_, rfl⟩

end PdfLibrary

/-- The enumeration finds the value that it wrote. -/
theorem DashboardType.ofJson?_value (dashboardType : DashboardType) :
    DashboardType.ofJson? (.str dashboardType.value) = some dashboardType := by
  cases dashboardType
  · rfl
  · rfl
  · rfl

/-- **The page is built**, and it is the page of the snapshot. -/
theorem build_of_exportable (lib : PdfLibrary) {snapshot : DashboardSnapshot}
    {dashboardType : DashboardType} {title : Str}
    (h : Exportable snapshot.payload dashboardType title) (businessName : Str)
    (businessIndustry : Option Str) :
    ∃ html, buildDashboardPdfHtml lib snapshot businessName businessIndustry = .ok html := by
  obtain ⟨⟨metricRows, omitted⟩, hMetricRows⟩ := lib.exists_metricRows_ok h.readable
  obtain ⟨sourceRows, hSourceRows⟩ := lib.exists_sourceRows_ok h.readable
  obtain ⟨configurationRows, hConfigurationRows⟩ := lib.exists_configurationRows_ok h.writable
  have hPayload : asDict snapshot.payload = .ok h.members := congrArg asDict h.isPayload
  have hDashboard : asDict (h.members.get (str "dashboard")) = .ok h.dashboard :=
    congrArg asDict h.hasDashboard
  have hConfiguration : asDict (h.dashboard.get (str "configuration")) = .ok h.configuration :=
    congrArg asDict h.hasConfiguration
  have hSources : asList (h.members.get (str "sources")) = .ok h.sources :=
    congrArg asList h.hasSources
  -- What the template checks of the type and of the title.
  have hType : (h.dashboard.lookup (str "type")).bind DashboardType.ofJson? = some dashboardType := by
    rw [h.hasType]
    exact DashboardType.ofJson?_value dashboardType
  have hTitle : ((h.dashboard.get (str "title")).str?.filter fun title => strip title ≠ []) =
      some title := by
    rw [h.hasTitle]
    exact Option.filter_eq_some_iff.mpr ⟨rfl, decide_eq_true h.nonblank⟩
  rw [buildDashboardPdfHtml, hPayload, ok_bind, ensure_pos h.format, ok_bind, hDashboard, ok_bind,
    hConfiguration, ok_bind, hSources, ok_bind, hType, required_some, ok_bind, hTitle,
    required_some, ok_bind, hMetricRows, ok_bind, hConfigurationRows]
  show ∃ html, (lib.sourceRows h.sources >>= _) = _
  rw [hSourceRows]
  exact ⟨_, rfl⟩

-- ---------------------------------------------------------------------------
-- What materialize stores
-- ---------------------------------------------------------------------------

section Stored

variable {lib : StandardLibrary} {ctx : Context} {order : SetOrder} {art : ArtifactLibrary}

/-- A rendered column is readable. -/
theorem readableColumn_renderColumn (columns : Str → ColumnAccumulator) (name : Str) :
    ReadableColumn (renderColumn ctx columns name) := by
  have hNumeric : (renderNumeric ctx (columns name).numeric).isNull = true ∨
      ∃ numeric : Dict, renderNumeric ctx (columns name).numeric = .obj numeric := by
    unfold renderNumeric
    split
    · exact .inl rfl
    · split
      · exact .inl rfl
      · exact .inr ⟨_, rfl⟩
  exact ⟨_, rfl, hNumeric⟩

/-- A rendered sheet is readable. -/
theorem readableSheet_renderSheet {s : Aggregation} {sheet : SheetContract} {rendered : Json}
    (h : renderSheet ctx s sheet = .ok rendered) : ReadableSheet rendered := by
  obtain ⟨-, -, h⟩ := bind_eq_ok.mp h
  obtain rfl := Except.ok.inj h
  refine ⟨_, _, rfl, rfl, fun column hColumn => ?_⟩
  obtain ⟨name, -, rfl⟩ := List.mem_map.mp hColumn
  exact readableColumn_renderColumn _ name

/-- What the aggregation renders is readable. -/
theorem readableAggregate_aggregateNormalized {job : SourceJob} {profile : Dict}
    {content : List UInt8} {aggregate : Json} {rows : List InsightRow}
    (h : aggregateNormalized lib ctx art job profile content = .ok (aggregate, rows)) :
    ReadableAggregate aggregate := by
  simp only [aggregateNormalized, bind_eq_ok] at h
  obtain ⟨-, -, -, -, -, -, contracts, -, -, -, s, -, -, -, sheets, hSheets, h⟩ := h
  obtain ⟨rfl, -⟩ := Prod.mk.inj (Except.ok.inj h)
  refine ⟨_, sheets, rfl, rfl, fun sheet hSheet => ?_⟩
  obtain ⟨contract, -, hRendered⟩ := exists_of_mem_mapM hSheets hSheet
  exact readableSheet_renderSheet hRendered

/-- Every aggregate that a source is read with. -/
theorem readableAggregate_readSource {job : SourceJob} {source : InsightSource}
    (h : readSourceArtifact lib ctx art job = .ok source) :
    ReadableAggregate source.artifact.aggregate := by
  simp only [readSourceArtifact, bind_eq_ok] at h
  obtain ⟨-, -, -, -, -, -, -, -, -, -, -, -, -, -, content, -, profile, -, ⟨aggregate, rows⟩,
    hAggregate, hDone⟩ := h
  obtain rfl := Except.ok.inj hDone
  exact readableAggregate_aggregateNormalized hAggregate

variable {modelValidate : Json → Option DashboardInsightConfiguration}

/-- The artifacts of a call are those of its sources. -/
theorem readableAggregate_readArtifacts {dashboardType : DashboardType} {stored : Option Json}
    {jobs : List SourceJob} {artifacts : List SourceArtifact} {insight : Option Json}
    (h : readArtifacts lib ctx order (artifactReader lib ctx art modelValidate) dashboardType
      stored jobs = .ok (artifacts, insight)) :
    ∀ artifact ∈ artifacts, ReadableAggregate artifact.aggregate := by
  unfold readArtifacts at h
  -- Without a configuration the sources are read one by one, else they are folded into the
  -- accumulator.
  split at h
  · obtain ⟨sources, hSources, h⟩ := bind_eq_ok.mp h
    obtain ⟨rfl, -⟩ := Prod.mk.inj (Except.ok.inj h)
    intro artifact hArtifact
    obtain ⟨source, hSource, rfl⟩ := List.mem_map.mp hArtifact
    obtain ⟨job, -, hRead⟩ := exists_of_mem_mapM hSources hSource
    exact readableAggregate_readSource hRead
  · obtain ⟨configuration, -, h⟩ := bind_eq_ok.mp h
    obtain ⟨⟨artifacts', acc⟩, hObserved, h⟩ := bind_eq_ok.mp h
    obtain ⟨insight', -, h⟩ := bind_eq_ok.mp h
    obtain ⟨rfl, -⟩ := Prod.mk.inj (Except.ok.inj h)
    refine foldlM_induction
      (P := fun s => ∀ artifact ∈ s.1, ReadableAggregate artifact.aggregate) hObserved ?_ ?_
    · exact fun artifact hArtifact => absurd hArtifact List.not_mem_nil
    · intro s job s' _ hs hStep artifact hArtifact
      obtain ⟨source, hRead, hStep⟩ := bind_eq_ok.mp hStep
      obtain ⟨acc₁, -, hStep⟩ := bind_eq_ok.mp hStep
      obtain ⟨acc₂, -, hStep⟩ := bind_eq_ok.mp hStep
      obtain rfl := Except.ok.inj hStep
      -- The step appends the artifact it has just read.
      rcases List.mem_append.mp hArtifact with hOld | hNew
      · exact hs artifact hOld
      · rw [List.mem_singleton.mp hNew]
        exact readableAggregate_readSource hRead

/-- A source of the payload. -/
theorem readableSource_sourcePayload {settings : SnapshotSettings} {artifact : SourceArtifact}
    {rendered : Json} (h : settings.sourcePayload artifact = .ok rendered)
    (hAggregate : ReadableAggregate artifact.aggregate) : ReadableSource rendered := by
  unfold SnapshotSettings.sourcePayload at h
  split at h
  · obtain ⟨profileSource, -, h⟩ := bind_eq_ok.mp h
    obtain ⟨-, -, h⟩ := bind_eq_ok.mp h
    obtain ⟨-, -, h⟩ := bind_eq_ok.mp h
    obtain rfl := Except.ok.inj h
    exact ⟨_, rfl, hAggregate⟩
  · cases h

/-- The members of a value that can be written can be written. -/
theorem writable_member {members : Dict} (h : (Json.obj members).writable = true) :
    ∀ entry ∈ members, entry.2.writable = true := by
  -- The integers of a member are among those of the object.
  have hInts : ∀ ms : List (Str × Json), ∀ entry ∈ ms, ∀ n ∈ entry.2.ints,
      n ∈ Json.memberInts ms := by
    intro ms
    induction ms with
    | nil => exact fun entry hEntry => absurd hEntry List.not_mem_nil
    | cons first ms ih =>
      intro entry hEntry n hn
      rw [Json.memberInts]
      rcases List.mem_cons.mp hEntry with rfl | hRest
      · exact List.mem_append_left _ hn
      · exact List.mem_append_right _ (ih entry hRest n hn)
  intro entry hEntry
  exact List.all_eq_true.mpr fun n hn =>
    List.all_eq_true.mp h n (hInts members entry hEntry n hn)

/-- A value that has canonical bytes can be written. -/
theorem CanonicalSettings.writable_of_bytes (settings : CanonicalSettings) {value : Json}
    {bytes : List UInt8} (h : settings.canonicalJsonBytes value = some bytes) :
    value.writable = true := by
  rw [settings.canonicalJsonBytes_eq, SpikeBackend.canonicalJsonBytes] at h
  by_contra hNot
  rw [if_neg hNot] at h
  cases h

/-- **What a call has computed** is a payload that the export shows. -/
theorem exportable_of_computed {settings : CanonicalSettings} {dashboardId : Uuid}
    {captured : CapturedDashboard} {jobs : List SourceJob} {payload : Json} {hash : Str}
    (h : (insightSettings lib ctx order settings.toSnapshotSettings
      (artifactReader lib ctx art modelValidate)).computePayload dashboardId captured jobs =
        .ok (payload, hash))
    (hTitle : strip captured.title ≠ []) {configuration : Dict}
    (hConfiguration : captured.configuration = .obj configuration) :
    Nonempty (Exportable payload captured.dashboardType captured.title) := by
  obtain ⟨⟨artifacts, insight⟩, hArtifacts, h⟩ := bind_eq_ok.mp h
  obtain ⟨payload', hPayload, h⟩ := bind_eq_ok.mp h
  obtain ⟨hash', -, h⟩ := bind_eq_ok.mp h
  obtain ⟨rfl, -⟩ := Prod.mk.inj (Except.ok.inj h)
  obtain ⟨rendered, hRendered, hPayload⟩ := bind_eq_ok.mp hPayload
  obtain ⟨bytes, hBytes, hPayload⟩ := bind_eq_ok.mp hPayload
  obtain ⟨-, -, hPayload⟩ := bind_eq_ok.mp hPayload
  obtain rfl := Except.ok.inj hPayload
  -- Each rendered source comes from an artifact that was read.
  have hReadable : ∀ source ∈ rendered, ReadableSource source := by
    intro source hSource
    obtain ⟨artifact, hArtifact, hSourcePayload⟩ := exists_of_mem_mapM hRendered hSource
    exact readableSource_sourcePayload hSourcePayload
      (readableAggregate_readArtifacts hArtifacts artifact hArtifact)
  -- The payload was hashed, so all of it can be written, its configuration too.
  have hMembers := writable_member (settings.writable_of_bytes (required_eq_ok.mp hBytes))
  have hDashboard := hMembers (str "dashboard", _) (List.mem_append_left _
    (List.mem_cons_of_mem _ (List.mem_cons_of_mem _ List.mem_cons_self)))
  have hStored := writable_member hDashboard (str "configuration", captured.configuration)
    (List.mem_append_left _ (List.mem_cons_of_mem _ (List.mem_cons_of_mem _
      (List.mem_cons_of_mem _ List.mem_cons_self))))
  rw [hConfiguration] at hStored
  refine ⟨⟨_, _, configuration, rendered, rfl, rfl, rfl, ?_, rfl, rfl, rfl, hTitle,
    writable_member hStored, hReadable⟩⟩
  exact hConfiguration

end Stored

-- ---------------------------------------------------------------------------
-- Titles
-- ---------------------------------------------------------------------------

/-- The title is one that the schema of a request has normalised. -/
def NormalizedTitle (title : Str) : Prop := ∃ value, normalizeDashboardTitle value = some title

/-- A normalised title is not blank. -/
theorem NormalizedTitle.nonblank {title : Str} (h : NormalizedTitle title) : strip title ≠ [] := by
  obtain ⟨value, h⟩ := h
  rw [normalizeDashboardTitle] at h
  split_ifs at h with hLength
  obtain rfl := Option.some.inj h
  rw [strip_strip]
  intro hNil
  rw [hNil] at hLength
  exact absurd hLength.1 (by decide)

/-- The title of an edit, if it has one, is normalised. -/
def SnapshotAction.Titled : SnapshotAction → Prop
  | .edit _ (some title) _ _ => NormalizedTitle title
  | _ => True

/-- No dashboard has a blank title. -/
def Titled (dashboards : Table Dashboard) : Prop := ∀ d ∈ dashboards, strip d.title ≠ []

namespace SnapshotState

variable {settings : SnapshotSettings} {s : SnapshotState}

/-- Nor had one at a commit. -/
structure TitledHistory (s : SnapshotState) : Prop where
  dashboards : Titled s.dashboards
  commits : ∀ c ∈ s.commits, Titled c.dashboards

/-- An edit keeps every stored title normalised when its own is. -/
theorem edit_titled (h : Titled s.dashboards) (dashboardId : Uuid) {title : Option Str}
    (hTitle : ∀ t, title = some t → NormalizedTitle t) (configuration insight : Option Json)
    (now : Datetime) :
    Titled (s.edit dashboardId title configuration insight now).dashboards := by
  unfold edit
  split
  · next row hRow _ =>
    obtain ⟨hMem, -⟩ := Table.get?_eq_some.mp hRow
    dsimp only
    generalize hEdited : Dashboard.mk row.id row.businessId row.createdByUserId row.dashboardType
      (title.getD row.title) (configuration.getD row.configuration)
      (insight.or row.insightConfiguration) row.createdAt now = edited
    -- An edit without a title keeps the stored one.
    have hOwn : strip edited.title ≠ [] := by
      rw [← hEdited]
      cases title with
      | none => exact h row hMem
      | some t => exact (hTitle t rfl).nonblank
    cases hUpdate : s.dashboards.update? edited with
    | none => exact h
    | some dashboards =>
      intro d hd
      rcases (Table.mem_update? hUpdate).mp hd with ⟨rfl, -⟩ | ⟨hd, -⟩
      · exact hOwn
      · exact h d hd
  · exact h

/-- **Step lemma.** -/
theorem step_titled (settings : SnapshotSettings) (s : SnapshotState)
    (timed : TimedSnapshotAction) (h : s.TitledHistory) (hTitled : timed.action.Titled) :
    (s.step settings timed).TitledHistory where
  commits c hc := by
    -- A new commit records the dashboards as they are.
    rcases step_commits hc with hOld | ⟨-, -, -, -, hNow⟩
    · exact h.commits c hOld
    · rw [hNow]
      exact h.dashboards
  dashboards := by
    have hSub : ∀ dashboards : Table Dashboard, (∀ d ∈ dashboards, d ∈ s.dashboards) →
        Titled dashboards := fun _ hMem d hd => h.dashboards d (hMem d hd)
    unfold step
    split
    · exact h.dashboards
    · rw [advance_dashboards]
      exact h.dashboards
    · split
      · exact h.dashboards
      · exact h.dashboards
    · next dashboardId title configuration insight hAction =>
      rw [hAction] at hTitled
      refine edit_titled h.dashboards _ (fun t hSome => ?_) _ _ _
      rw [hSome] at hTitled
      exact hTitled
    · unfold deleteDashboard
      split
      · exact hSub _ fun d hd => (Table.mem_deleteWhere.mp hd).1
      · exact h.dashboards
    · unfold changeJob
      repeat' split
      all_goals exact h.dashboards
    · unfold deleteJob
      split
      · exact h.dashboards
      · exact h.dashboards

end SnapshotState

-- ---------------------------------------------------------------------------
-- Exports
-- ---------------------------------------------------------------------------

/-- What compares equal to an object is one. -/
theorem obj_of_pyEq {value : Json} {members : Dict}
    (h : (Json.obj members).pyEq value = true) : ∃ members', value = .obj members' := by
  cases value with
  | obj members' => exact ⟨members', rfl⟩
  | _ => simp [Json.pyEq, Json.number?] at h

/-- What the renderer is given, and what becomes of its answer. -/
theorem weasyPrintRender_eq_ok {lib : PdfLibrary}
    {weasyprint : Option (Str → Option (List UInt8))}
    {snapshot : DashboardSnapshot} {businessName : Str} {businessIndustry : Option Str} {html : Str}
    (h : buildDashboardPdfHtml lib snapshot businessName businessIndustry = .ok html)
    (content : List UInt8) :
    weasyPrintRender lib weasyprint snapshot businessName businessIndustry = .ok content ↔
      weasyprint.bind (· html) = some content ∧ isPdf content = true := by
  simp only [weasyPrintRender, h, ok_bind, bind_eq_ok, required_eq_ok, ensure_eq_ok,
    Option.bind_eq_some_iff]
  -- The template is written already, so only the loading and the writing are left.
  constructor
  · rintro ⟨writePdf, hLoaded, written, hWritten, ⟨⟩, hPdf, hDone⟩
    obtain rfl := Except.ok.inj hDone
    exact ⟨⟨writePdf, hLoaded, hWritten⟩, hPdf⟩
  · rintro ⟨⟨writePdf, hLoaded, hWritten⟩, hPdf⟩
    exact ⟨writePdf, hLoaded, content, hWritten, ⟨⟩, hPdf, rfl⟩

/-- The title on the page is the one of the payload. -/
theorem page_title (lib : PdfLibrary) {snapshot : DashboardSnapshot}
    {dashboardType : DashboardType} {title : Str}
    (h : Exportable snapshot.payload dashboardType title) (businessName : Str)
    (businessIndustry : Option Str) :
    (lib.page snapshot businessName businessIndustry).title = title := by
  have hPayload : membersOf snapshot.payload = h.members :=
    PdfLibrary.asDict_eq_ok (congrArg asDict h.isPayload)
  show ((membersOf ((membersOf snapshot.payload).get (str "dashboard"))).get
    (str "title")).str?.getD [] = title
  rw [hPayload, h.hasDashboard]
  show (h.dashboard.get (str "title")).str?.getD [] = title
  rw [h.hasTitle]
  rfl

/-- **An export** fails only with its renderer. -/
theorem exportLatest_eq_ok {lib : PdfLibrary}
    {render : DashboardSnapshot → Str → Option Str → Except DashboardPdfError (List UInt8)}
    {s : SnapshotState} {scope dashboardId : Uuid} {businessName : Str}
    {businessIndustry : Option Str} {row : Dashboard} {snapshot : DashboardSnapshot}
    {dashboardType : DashboardType} {title : Str}
    (hRow : s.dashboard? scope dashboardId = some row)
    (hLatest : s.latest? scope dashboardId = some snapshot)
    (h : Exportable snapshot.payload dashboardType title) (e : DashboardPdfExport) :
    exportLatest lib render s scope dashboardId businessName businessIndustry = .ok e ↔
      render snapshot businessName businessIndustry = .ok e.content ∧ isPdf e.content = true ∧
        e.filename = dashboardPdfFilename lib title dashboardId snapshot.version ∧
        e.snapshotVersion = snapshot.version ∧ e.snapshotContentHash = snapshot.contentHash := by
  have hPayload : (snapshot.payload.obj?.getD []) = h.members :=
    PdfLibrary.asDict_eq_ok (congrArg asDict h.isPayload)
  have hDashboard : asDict (h.members.get (str "dashboard")) = .ok h.dashboard :=
    congrArg asDict h.hasDashboard
  have hTitle : (h.dashboard.get (str "title")).str? = some title := by rw [h.hasTitle]; rfl
  -- The row and the latest snapshot are found; the payload gives the title.
  rw [exportLatest, hRow, required_some, ok_bind, hLatest, required_some, ok_bind, bind_eq_ok]
  constructor
  · rintro ⟨content, hContent, hRest⟩
    obtain ⟨⟨⟩, hPdf, hRest⟩ := bind_eq_ok.mp hRest
    rw [hPayload] at hRest
    dsimp only at hRest
    rw [hDashboard, ok_bind, hTitle, required_some, ok_bind] at hRest
    obtain rfl := Except.ok.inj hRest
    exact ⟨hContent, ensure_eq_ok.mp hPdf, rfl, rfl, rfl⟩
  · rintro ⟨hContent, hPdf, hFilename, hVersion, hHash⟩
    refine ⟨e.content, hContent, ?_⟩
    rw [ensure_pos hPdf, ok_bind, hPayload]
    dsimp only
    rw [hDashboard, ok_bind, hTitle, required_some, ok_bind, ← hFilename, ← hVersion, ← hHash]
    rfl

section Exports

variable (lib : StandardLibrary) (ctx : Context) (order : SetOrder) (art : ArtifactLibrary)
  (modelValidate : Json → Option DashboardInsightConfiguration) (settings : CanonicalSettings)

open SnapshotState

/-- **The latest snapshot exports.** In every run of materialisations, edits, deletions and changes
of jobs, if every title was normalised: the export of a dashboard that has a snapshot builds the
page of the latest one, under the title of the row of its dashboard at the commit, and then
succeeds exactly when the renderer is there and writes a PDF, which it hands out with the version
and the hash of that snapshot. -/
theorem latest_snapshot_exports (pdf : PdfLibrary)
    (weasyprint : Option (Str → Option (List UInt8)))
    (dashboards : Table Dashboard) (jobs : Table ReportProcessingJob)
    (actions : List TimedSnapshotAction) (hTitles : ∀ d ∈ dashboards, NormalizedTitle d.title)
    (hEdits : ∀ timed ∈ actions, timed.action.Titled) (scope dashboardId : Uuid)
    (businessName : Str) (businessIndustry : Option Str) :
    let s : SnapshotState := run (step (insightSettings lib ctx order settings.toSnapshotSettings
      (artifactReader lib ctx art modelValidate))) { dashboards, jobs } actions
    ∀ x, s.latest? scope dashboardId = some x →
      ∃ c ∈ s.commits, c.snapshotId = x.id ∧
        ∃ d ∈ c.dashboards, d.id = dashboardId ∧ d.businessId = scope ∧
        (pdf.page x businessName businessIndustry).title = d.title ∧
        ∃ document, Html.read document =
            some (normalAll (pdf.page x businessName businessIndustry).nodes) ∧
          ∀ e, exportLatest pdf (weasyPrintRender pdf weasyprint) s scope dashboardId businessName
              businessIndustry = .ok e ↔
            weasyprint.bind (· document) = some e.content ∧ isPdf e.content = true ∧
              e.filename = dashboardPdfFilename pdf d.title dashboardId x.version ∧
              e.snapshotVersion = x.version ∧ e.snapshotContentHash = x.contentHash := by
  intro s x hLatest
  have hInv : s.HistoryInvariant (insightSettings lib ctx order settings.toSnapshotSettings
      (artifactReader lib ctx art modelValidate)) :=
    run_invariant (step_invariant _) (init_invariant _ dashboards jobs) actions
  have hTitled : s.TitledHistory := by
    refine run_invariant_of_meets (step_titled _)
      ⟨fun d hd => (hTitles d hd).nonblank, fun c hc => absurd hc List.not_mem_nil⟩ ?_
    exact meets_of_forall _ _ fun timed hMem _ => hEdits timed hMem
  obtain ⟨hx, hIs, -⟩ := Table.latest?_eq_some hLatest
  rw [Bool.and_eq_true, beq_iff_eq, beq_iff_eq] at hIs
  obtain ⟨rfl, rfl⟩ := hIs
  obtain ⟨c, hc, hId, -, ⟨d, hd, hIdent, hScope, hMatches⟩, -, rows, -, hComputed⟩ := hInv.commits x hx
  simp only [CapturedDashboard.matches, Bool.and_eq_true, beq_iff_eq] at hMatches
  obtain ⟨⟨⟨-, hTitle⟩, hConfiguration⟩, -⟩ := hMatches
  have hObject : d.configuration.isObject = true := by
    have hChecks := Table.checks_of_mem hd
    simp only [Schema.checks, Bool.and_eq_true] at hChecks
    exact hChecks.1.2
  obtain ⟨stored, hStored⟩ : ∃ members, d.configuration = .obj members := by
    cases hValue : d.configuration with
    | obj members => exact ⟨members, rfl⟩
    | _ =>
      rw [hValue] at hObject
      cases hObject
  rw [hStored] at hConfiguration
  obtain ⟨configuration, hCaptured⟩ := obj_of_pyEq hConfiguration
  have hNonblank : strip c.captured.title ≠ [] := hTitle ▸ hTitled.commits c hc d hd
  obtain ⟨hExportable⟩ := exportable_of_computed hComputed hNonblank hCaptured
  obtain ⟨document, hBuild⟩ := build_of_exportable pdf hExportable businessName businessIndustry
  -- the foreign key of the snapshot
  obtain ⟨row, hRow, hOwn, hBusiness⟩ := hInv.owner x hx
  have hFound : ∃ row', s.dashboard? x.businessId x.dashboardId = some row' := by
    cases hFind : s.dashboard? x.businessId x.dashboardId with
    | some row' => exact ⟨row', rfl⟩
    | none =>
      have hNot := Table.find?_eq_none.mp hFind row hRow
      rw [hOwn, hBusiness, beq_self_eq_true, beq_self_eq_true] at hNot
      cases hNot
  obtain ⟨row', hRow'⟩ := hFound
  -- the comparison under the lock found the captured title in the row
  have hPageTitle := page_title pdf hExportable businessName businessIndustry
  rw [← hTitle] at hPageTitle
  refine ⟨c, hc, hId, d, hd, hIdent, hScope, hPageTitle, document, ?_, fun e => ?_⟩
  · rw [build_eq_ok hBuild]
    exact read_renderAll (Page.wellFormed_nodes _)
  · rw [hTitle, exportLatest_eq_ok hRow' hLatest hExportable, weasyPrintRender_eq_ok hBuild, and_assoc]
    exact and_congr_right fun _ => ⟨fun h => h.2, fun h => ⟨h.1, h⟩⟩

end Exports

-- ---------------------------------------------------------------------------
-- A sample
-- ---------------------------------------------------------------------------

namespace ExportSample

/-- The profile of a sheet with one column and one record. -/
def profile : Json := .obj
  [(str "format", .str (str "spike.report-profile")), (str "version", .int 1),
    (str "job_id", .str (uuidText 1)), (str "business_id", .str (uuidText 2)),
    (str "source", .obj
      [(str "report_upload_id", .str (uuidText 3)), (str "filename", .str (str "<sales>.csv")),
        (str "extension", .str (str "csv")), (str "content_type", .str (str "text/csv"))]),
    (str "record_count", .int 1), (str "sheet_count", .int 1),
    (str "normalized", .obj
      [(str "format", .str (str "jsonl")), (str "compression", .str (str "gzip")),
        (str "sha256", .str RoundTripSample.digest)]),
    (str "sheets", .arr [.obj
      [(str "index", .int 0), (str "name", .str (str "Sheet1")), (str "record_count", .int 1),
        (str "columns", .arr [.obj
          [(str "index", .int 0), (str "name", .str (str "Amount")),
            (str "generated", .bool false), (str "source_name", .str (str "Amount")),
            (str "null_count", .int 0), (str "non_null_count", .int 1),
            (str "type_counts", .obj [(str "integer", .int 1)])]])]])]

def row : Json := .obj
  [(str "sheet_index", .int 0), (str "sheet_name", .str (str "Sheet1")),
    (str "values", .obj [(str "Amount", .int 5)])]

/-- The text of a value as a line. -/
def lineBytes (value : Json) : List UInt8 := (encode? (jsonText ratioText value ++ [0x0A])).getD []

/-- The two objects of the job. -/
def artifacts : ArtifactLibrary where
  report := RoundTripSample.report
  gzip := RoundTripSample.gzip
  loads s := if s = jsonText ratioText profile ++ [0x0A] then some profile else none
  loadsBytes line := if line = lineBytes row then some row else none
  sha256 _ := RoundTripSample.digest
  readObject _ key _ _ :=
    if key = str "p" then .ok (lineBytes profile)
    else if key = str "n" then .ok (lineBytes row)
    else .error .storage

def settings : CanonicalSettings :=
  { ContentSample.settings with
    readArtifacts := fun _ _ _ => .error .artifact
    sha256 := fun _ => RoundTripSample.digest }

def job : ReportProcessingJob :=
  { ContentSample.job with normalizedSizeBytes := some (lineBytes row).length }

def dashboard : Dashboard :=
  { ContentSample.dashboard with configuration := .obj [(str "theme", .str (str "dark"))] }

def dashboards : Table Dashboard := .single dashboard (by decide)

def jobs : Table ReportProcessingJob := .single job (by decide +kernel)

/-- A new title, and a materialisation. -/
def actions : List TimedSnapshotAction :=
  [⟨5, .edit 1 (some (str "Q1 & <b>Q2</b>")) none none⟩, ⟨6, .arrive ⟨2, 1, 4, [1]⟩⟩] ++
    List.replicate 7 ⟨7, .advance 0 ⟨9, fun _ => 10⟩ true⟩

/-- A renderer that puts the page behind the signature of the format. -/
def writePdf (document : Str) : Option (List UInt8) :=
  some ([0x25, 0x50, 0x44, 0x46, 0x2D] ++ (encode? document).getD [])

def final : SnapshotState :=
  run (SnapshotState.step (insightSettings InsightSample.library InsightSample.context
    InsightSample.order settings.toSnapshotSettings (artifactReader InsightSample.library
      InsightSample.context artifacts fun _ => none))) { dashboards, jobs } actions

/-- What the sample run leaves: the first version, of a dashboard with the edited title. -/
theorem final_stored :
    (final.latest? 2 1).map (fun x => (x.id, x.version)) = some (9, 1) ∧
      (final.commits.flatMap fun c => c.dashboards.rows.map Dashboard.title) =
        [str "Q1 & <b>Q2</b>"] := by
  decide +kernel

end ExportSample

open ExportSample PageSample in
/-- A title with tags in it is exported as it stands. -/
theorem latest_snapshot_exports_tagged : ∃ x document e, final.latest? 2 1 = some x ∧
    (library.page x (str "Shop") none).title = str "Q1 & <b>Q2</b>" ∧
    Html.read document = some (normalAll (library.page x (str "Shop") none).nodes) ∧
    exportLatest library (weasyPrintRender library (some writePdf)) final 2 1 (str "Shop") none = .ok e ∧
    writePdf document = some e.content ∧ e.filename = str "q1-b-q2-b-v1.pdf" := by
  obtain ⟨hLatest, hTitles⟩ := final_stored
  obtain ⟨x, hx, hColumns⟩ := Option.map_eq_some_iff.mp hLatest
  obtain ⟨-, hVersion⟩ := Prod.mk.inj hColumns
  obtain ⟨c, hc, -, d, hd, -, -, hTitle, document, hRead, hExport⟩ :=
    latest_snapshot_exports InsightSample.library InsightSample.context InsightSample.order
      artifacts (fun _ => none) settings library (some writePdf) dashboards jobs actions
      (fun d hd => ⟨str "Margins", by rw [List.mem_singleton.mp hd]; rfl⟩)
      (fun timed hTimed => by
        rcases List.mem_append.mp hTimed with hFirst | hRest
        · rcases List.mem_cons.mp hFirst with rfl | hArrive
          · exact ⟨str "Q1 & <b>Q2</b>", rfl⟩
          · rw [List.mem_singleton.mp hArrive]
            trivial
        · rw [List.eq_of_mem_replicate hRest]
          trivial)
      2 1 (str "Shop") none x hx
  -- The one commit of the run has the edited title.
  have hOwn : d.title = str "Q1 & <b>Q2</b>" := by
    have hMem : d.title ∈ final.commits.flatMap fun c => c.dashboards.rows.map Dashboard.title :=
      List.mem_flatMap.mpr ⟨c, hc, List.mem_map_of_mem hd⟩
    rw [hTitles] at hMem
    exact List.mem_singleton.mp hMem
  have hName : dashboardPdfFilename library (str "Q1 & <b>Q2</b>") 1 1 = str "q1-b-q2-b-v1.pdf" := by
    decide
  rw [hOwn] at hTitle hExport
  rw [hVersion] at hExport
  exact ⟨x, document, ⟨_, str "q1-b-q2-b-v1.pdf", 1, x.contentHash⟩, hx, hTitle, hRead,
    (hExport _).mpr ⟨rfl, rfl, hName.symm, rfl, rfl⟩, rfl, rfl⟩

end SpikeBackend
