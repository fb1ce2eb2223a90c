import Mathlib.Data.List.TakeWhile
import SpikeBackend.Dashboards.ContentHash
import SpikeBackend.Dashboards.CsvSources
import SpikeBackend.Dashboards.Determinism
import SpikeBackend.Uploads.CsvContent

/-!
# Payloads that can be stored

PostgreSQL stores no U+0000 in a JSONB column. The validation of an uploaded CSV file looks for the
byte in the first 64 KiB only, the parser passes it on, and so does `_label`.

* `payload_storable_iff` — a payload of CSV files has no U+0000 exactly when neither the rows of the
  database nor the cells that the insight shows have one;
* `payload_with_nul` — a file that is accepted with one.
-/

namespace SpikeBackend

open Text Outcome Collections

variable {lib : StandardLibrary} {ctx : Context} {order : SetOrder}

-- ---------------------------------------------------------------------------
-- Sources
-- ---------------------------------------------------------------------------

namespace DashboardInsightAccumulator

variable {acc acc' : DashboardInsightAccumulator} {rows : List InsightRow}

/-- The validation of a profile notes the datasets that it has seen. -/
theorem validateProfile_eq_ok {processingJobId : Uuid} {profile : Dict}
    (h : acc.validateProfile processingJobId profile = .ok acc') :
    ∃ keys, acc' = { acc with validatedMappings := keys } := by
  unfold validateProfile at h
  split at h
  · simp only [bind_eq_ok] at h
    obtain ⟨-, -, -, -, -, -, hDone⟩ := h
    exact ⟨_, (Except.ok.inj hDone).symm⟩
  · cases h

/-- Which is up to no row. -/
theorem Reads.validated (h : Reads lib rows acc) (keys : List DatasetKey) :
    Reads lib rows { acc with validatedMappings := keys } :=
  ⟨h.measures, h.updates, h.accepted⟩

/-- A configuration that is valid for the type maps fields of the type. -/
theorem mapsInsightFields_of_valid {dashboardType : DashboardType}
    {configuration : DashboardInsightConfiguration}
    (hValid : validateInsightConfigurationForType dashboardType configuration = true)
    (hType : acc.dashboardType = dashboardType)
    (hMappings : acc.mappings = configuration.mappings) :
    acc.MapsInsightFields := by
  simp only [validateInsightConfigurationForType, Bool.and_eq_true] at hValid
  have hMapped := hValid.1.1.1
  intro key mapping hGet field hField
  rw [hMappings] at hGet
  obtain ⟨dataset, hDataset, hEntry⟩ := List.mem_map.mp (OrderedDict.mem_of_get?_ofList hGet)
  obtain ⟨-, rfl⟩ := Prod.mk.inj hEntry
  rw [hType]
  exact of_decide_eq_true (List.all_eq_true.mp hMapped field
    (List.mem_flatMap.mpr ⟨dataset, hDataset, hField⟩))

/-- **The sources.** The accumulator has read the rows of all of them, one source after the
other. -/
theorem observeSources_reads {reader : InsightReader} {dashboardType : DashboardType}
    {configuration : DashboardInsightConfiguration} {jobs : List SourceJob}
    {artifacts : List SourceArtifact}
    (h : observeSources lib ctx order reader dashboardType configuration jobs =
      .ok (artifacts, acc)) :
    ∃ sources : List InsightSource,
      List.Forall₂ (fun job source => reader.readSource job = .ok source) jobs sources ∧
      artifacts = sources.map InsightSource.artifact ∧
      Reads lib (sources.flatMap InsightSource.rows) acc ∧
      acc.dashboardType = dashboardType ∧ acc.mappings = configuration.mappings := by
  refine foldlM_history (P := fun done (s : List SourceArtifact × DashboardInsightAccumulator) =>
    ∃ sources : List InsightSource,
      List.Forall₂ (fun job source => reader.readSource job = .ok source) done sources ∧
      s.1 = sources.map InsightSource.artifact ∧
      Reads lib (sources.flatMap InsightSource.rows) s.2 ∧
      s.2.dashboardType = dashboardType ∧ s.2.mappings = configuration.mappings) h
    ⟨[], .nil, rfl, reads_init dashboardType configuration, rfl, rfl⟩ ?_
  rintro done ⟨read, acc⟩ job next - ⟨sources, hEach, hRead, hReads, hType, hMappings⟩ hStep
  -- a source is read, its profile is validated, and its rows are observed
  simp only [observeSource, bind_eq_ok] at hStep
  obtain ⟨source, hSource, acc₁, hProfile, acc₂, hRows, hDone⟩ := hStep
  obtain rfl := Except.ok.inj hDone
  obtain ⟨keys, rfl⟩ := validateProfile_eq_ok (artifactError_eq_ok.mp hProfile)
  obtain ⟨hNext, hSame⟩ := (hReads.validated keys).observeAll (artifactError_eq_ok.mp hRows)
  refine ⟨sources ++ [source], List.rel_append hEach (.cons hSource .nil), ?_, ?_,
    hSame.dashboardType.trans hType, hSame.mappings.trans hMappings⟩
  · show read ++ [source.artifact] = _
    rw [List.map_append, List.map_singleton, ← hRead]
  · rw [List.flatMap_append, List.flatMap_singleton]
    exact hNext

end DashboardInsightAccumulator

-- ---------------------------------------------------------------------------
-- Payloads
-- ---------------------------------------------------------------------------

/-- The text of a UUID has digits and hyphens. -/
theorem nulFree_uuidText (id : Uuid) : NulFree (uuidText id) := by
  show nul ∉ uuidText id
  exact not_mem_uuidText (by decide) (by decide) (by decide) id

/-- The names that a job has of its artifacts have no U+0000. -/
def SignatureNulFree (signature : JobSignature) : Prop :=
  ∀ name ∈ [signature.normalizedStorageVersionId, signature.normalizedEtag,
    signature.profileStorageVersionId, signature.profileEtag],
    (Json.ofStr? name).AllStrings NulFree

section payload

variable {settings : SnapshotSettings} {captured : CapturedDashboard} {dashboardId : Uuid}

/-- The payload of a source has the name of the file and the names of the artifacts. -/
theorem sourcePayload_nulFree_iff (hUuid : ∀ id, NulFree (settings.uuidStr id))
    {source : SourceArtifact} {filename : Str} {payload : Json}
    (hAggregate : source.aggregate.AllStrings NulFree)
    (hFilename : ∀ members : Dict, source.profile.get (str "source") = .obj members →
      members.get (str "filename") = .str filename)
    (h : settings.sourcePayload source = .ok payload) :
    payload.AllStrings NulFree ↔ NulFree filename ∧ SignatureNulFree source.job.signature := by
  unfold SnapshotSettings.sourcePayload at h
  split at h
  · rename_i members hMembers
    simp only [bind_eq_ok] at h
    obtain ⟨_, hSame, -, -, -, -, hDone⟩ := h
    obtain rfl := Except.ok.inj hSame
    rw [← Except.ok.inj hDone, hFilename members hMembers]
    simp (disch := exact nulFree_literal rfl) only [Json.allStrings_obj, List.forall_mem_cons,
    Json.allStrings_str, Json.allStrings_ofInt?, nulFree_written, hUuid, hAggregate, true_and,
    List.not_mem_nil, false_implies, implies_true, and_true, SignatureNulFree]
  · cases h

/-- The payload has the texts of the dashboard, of the sources and of the insight. -/
theorem buildPayload_nulFree_iff (hUuid : ∀ id, NulFree (settings.uuidStr id))
    {insight : Option Json} {sources : List SourceArtifact} {payload : Json}
    (h : settings.buildPayload dashboardId captured insight sources = .ok payload) :
    ∃ rendered, sources.mapM settings.sourcePayload = .ok rendered ∧
      (payload.AllStrings NulFree ↔
        (NulFree captured.title ∧ captured.configuration.AllStrings NulFree ∧
          ∀ stored, captured.insightConfiguration = some stored → stored.AllStrings NulFree) ∧
        (∀ source ∈ rendered, source.AllStrings NulFree) ∧
        ∀ shown, insight = some shown → shown.AllStrings NulFree) := by
  unfold SnapshotSettings.buildPayload at h
  simp only [bind_eq_ok, required_eq_ok, ensure_eq_ok] at h
  obtain ⟨rendered, hRendered, -, -, -, -, hDone⟩ := h
  refine ⟨rendered, hRendered, ?_⟩
  rw [← Except.ok.inj hDone]
  -- a configuration of an insight and an insight are members where there is one
  have hFormat : NulFree dashboardSnapshotFormat := nulFree_literal rfl
  have hOptional : ∀ (key : String), NulFree (str key) → ∀ value : Option Json,
      (∀ m ∈ (value.map fun j => (str key, j)).toList, NulFree m.1 ∧ m.2.AllStrings NulFree) ↔
        ∀ j, value = some j → j.AllStrings NulFree := by
    intro key hKey value
    cases value <;> simp [hKey]
  simp (disch := exact nulFree_literal rfl) only [Json.allStrings_obj, Json.allStrings_arr,
    Json.allStrings_int, Json.allStrings_str, List.forall_mem_append, List.forall_mem_cons,
    nulFree_written, nulFree_typeValue, hFormat, hUuid, hOptional, true_and, List.not_mem_nil,
    false_implies, implies_true, and_true, and_assoc]

end payload

-- ---------------------------------------------------------------------------
-- Payloads of CSV files
-- ---------------------------------------------------------------------------

section csv

variable {art : ArtifactLibrary} {books : WorkbookLibrary}
  {modelValidate : Json → Option DashboardInsightConfiguration} {captured : CapturedDashboard}
  {sources : List (StoredCsv art books)}

/-- The texts that come from rows of the database have no U+0000. -/
structure RowsNulFree (captured : CapturedDashboard) (sources : List (StoredCsv art books)) :
    Prop where
  title : NulFree captured.title
  configuration : captured.configuration.AllStrings NulFree
  insightConfiguration : ∀ stored, captured.insightConfiguration = some stored →
    stored.AllStrings NulFree
  filename : ∀ source ∈ sources, NulFree source.context.originalFilename
  signature : ∀ source ∈ sources, SignatureNulFree source.job.signature

/-- Where an insight is configured, the cells of the files that it shows have no U+0000. -/
def CellsNulFree (reader : InsightReader) (captured : CapturedDashboard)
    (sources : List (StoredCsv art books)) : Prop :=
  ∀ stored configuration, captured.insightConfiguration = some stored →
    reader.configuration captured.dashboardType stored = .ok configuration →
    ∀ source ∈ sources, ∀ row ∈ source.rows,
      ShownNulFree captured.dashboardType (rowSemantic configuration.mappings row)

/-- The artifact of a source is that of its file. -/
structure IsArtifact (lib : StandardLibrary) (ctx : Context) (source : StoredCsv art books)
    (artifact : SourceArtifact) : Prop where
  job : artifact.job = source.job
  aggregate : artifact.aggregate = aggregateOf lib ctx source.sheets
  profile : ∃ normalizer digest, artifact.profile = readProfile source.context normalizer digest

/-- Sources that are read one by one. -/
theorem isArtifact_of_reads
    (hGzip : ∀ lines, art.gzip.read (art.gzip.getvalue lines) = some lines.flatten)
    {read : List InsightSource}
    (h : List.Forall₂ (fun job source => readSourceArtifact lib ctx art job = .ok source)
      (sources.map StoredCsv.job) read) :
    List.Forall₂ (IsArtifact lib ctx) sources (read.map InsightSource.artifact) ∧
      read.flatMap InsightSource.rows = sources.flatMap StoredCsv.rows := by
  rw [List.forall₂_map_left_iff] at h
  induction h with
  | nil => exact ⟨.nil, rfl⟩
  | cons hSource _ ih =>
    obtain ⟨normalizer, rfl⟩ := StoredCsv.readSourceArtifact_eq _ hGzip hSource
    rw [List.flatMap_cons, List.flatMap_cons, ih.2]
    exact ⟨.cons ⟨rfl, rfl, normalizer, _, rfl⟩ ih.1, rfl⟩

/-- What `materialize` reads of the files: their artifacts, and an insight without U+0000 exactly
when no cell has one that it shows. -/
theorem readArtifacts_csv
    (hGzip : ∀ lines, art.gzip.read (art.gzip.getvalue lines) = some lines.flatten)
    {artifacts : List SourceArtifact} {insight : Option Json}
    (h : readArtifacts lib ctx order (artifactReader lib ctx art modelValidate)
      captured.dashboardType captured.insightConfiguration (sources.map StoredCsv.job) =
        .ok (artifacts, insight)) :
    List.Forall₂ (IsArtifact lib ctx) sources artifacts ∧
      ((∀ shown, insight = some shown → shown.AllStrings NulFree) ↔
        CellsNulFree (artifactReader lib ctx art modelValidate) captured sources) := by
  cases hConfigured : captured.insightConfiguration with
  | none =>
    rw [hConfigured] at h
    simp only [readArtifacts, bind_eq_ok] at h
    obtain ⟨read, hRead, hDone⟩ := h
    obtain ⟨rfl, rfl⟩ := Prod.mk.inj (Except.ok.inj hDone)
    refine ⟨(isArtifact_of_reads hGzip (mapM_eq_ok.mp hRead)).1, iff_of_true ?_ ?_⟩
    · intro _ hShown
      cases hShown
    · intro stored _ hStored
      rw [hConfigured] at hStored
      cases hStored
  | some stored =>
    rw [hConfigured] at h
    simp only [readArtifacts, bind_eq_ok] at h
    obtain ⟨configuration, hConfiguration, ⟨artifacts', acc⟩, hObserve, shown, hRender, hDone⟩ := h
    obtain ⟨rfl, rfl⟩ := Prod.mk.inj (Except.ok.inj hDone)
    obtain ⟨read, hEach, rfl, hReads, hType, hMappings⟩ :=
      DashboardInsightAccumulator.observeSources_reads hObserve
    obtain ⟨hArtifacts, hRows⟩ := isArtifact_of_reads hGzip hEach
    rw [hRows] at hReads
    have hValid : validateInsightConfigurationForType captured.dashboardType configuration =
        true := by
      simp only [InsightReader.configuration, bind_eq_ok, ensure_eq_ok] at hConfiguration
      obtain ⟨_, -, -, hValid, hSame⟩ := hConfiguration
      exact Except.ok.inj hSame ▸ hValid
    have hTexts : ∀ row ∈ sources.flatMap StoredCsv.rows, TextRow row := by
      intro row hRow
      obtain ⟨source, -, hRow⟩ := List.mem_flatMap.mp hRow
      exact source.textRow hRow
    have hShown := DashboardInsightAccumulator.insight_nulFree_iff hReads hTexts
      (DashboardInsightAccumulator.mapsInsightFields_of_valid hValid hType hMappings)
      (artifactError_eq_ok.mp hRender)
    rw [hType, hMappings] at hShown
    refine ⟨hArtifacts, ?_⟩
    constructor
    · rintro hFree stored' configuration' hStored hConfiguration' source hSource row hRow
      obtain rfl := Option.some.inj (hConfigured.symm.trans hStored)
      obtain rfl := Except.ok.inj (hConfiguration.symm.trans hConfiguration')
      exact hShown.mp (hFree shown rfl) row (List.mem_flatMap.mpr ⟨source, hSource, hRow⟩)
    · rintro hCells shown' hSome
      obtain rfl := Option.some.inj hSome
      refine hShown.mpr fun row hRow => ?_
      obtain ⟨source, hSource, hRow⟩ := List.mem_flatMap.mp hRow
      exact hCells stored configuration hConfigured hConfiguration source hSource row hRow

/-- The payloads of the sources have the names of the files and of their artifacts. -/
theorem rendered_nulFree_iff {settings : SnapshotSettings}
    (hUuid : ∀ id, NulFree (settings.uuidStr id)) {artifacts : List SourceArtifact}
    {rendered : List Json} (hArtifacts : List.Forall₂ (IsArtifact lib ctx) sources artifacts)
    (hRendered : artifacts.mapM settings.sourcePayload = .ok rendered) :
    (∀ payload ∈ rendered, payload.AllStrings NulFree) ↔
      ∀ source ∈ sources, NulFree source.context.originalFilename ∧
        SignatureNulFree source.job.signature := by
  have hEach := mapM_eq_ok.mp hRendered
  clear hRendered
  induction hArtifacts generalizing rendered with
  | nil =>
    rw [List.forall₂_nil_left_iff.mp hEach]
    exact iff_of_true (fun _ h => absurd h List.not_mem_nil) fun _ h => absurd h List.not_mem_nil
  | @cons source artifact _ _ hArtifact _ ih =>
    obtain ⟨payload, rest, hPayload, hRest, rfl⟩ := List.forall₂_cons_left_iff.mp hEach
    obtain ⟨normalizer, digest, hProfile⟩ := hArtifact.profile
    have hAggregate : artifact.aggregate.AllStrings NulFree := by
      rw [hArtifact.aggregate]
      exact source.aggregate_nulFree
    have hFilename : ∀ members : Dict, artifact.profile.get (str "source") = .obj members →
        members.get (str "filename") = .str source.context.originalFilename := by
      intro members hMembers
      rw [hProfile] at hMembers
      exact StoredCsv.get_filename hMembers
    have hSource := sourcePayload_nulFree_iff hUuid hAggregate hFilename hPayload
    rw [hArtifact.job] at hSource
    rw [List.forall_mem_cons, List.forall_mem_cons]
    exact and_congr hSource (ih hRest)

/-- **Payloads that can be stored.** Of CSV files that were accepted, a payload has no U+0000
exactly when the rows of the database have none and, where an insight is configured, no cell of the
files has one that it shows. -/
theorem payload_storable_iff {base : SnapshotSettings} {dashboardId : Uuid} {payload : Json}
    {hash : Str} (hGzip : ∀ lines, art.gzip.read (art.gzip.getvalue lines) = some lines.flatten)
    (hPayload : (insightSettings lib ctx order { base with uuidStr := uuidText }
      (artifactReader lib ctx art modelValidate)).computePayload dashboardId captured
        (sources.map StoredCsv.job) = .ok (payload, hash)) :
    payload.AllStrings NulFree ↔ RowsNulFree captured sources ∧
      CellsNulFree (artifactReader lib ctx art modelValidate) captured sources := by
  simp only [SnapshotSettings.computePayload, bind_eq_ok] at hPayload
  obtain ⟨⟨artifacts, insight⟩, hRead, built, hBuilt, _, -, hDone⟩ := hPayload
  obtain ⟨rfl, -⟩ := Prod.mk.inj (Except.ok.inj hDone)
  obtain ⟨hArtifacts, hInsight⟩ := readArtifacts_csv hGzip hRead
  have hUuid : ∀ id, NulFree ((insightSettings lib ctx order { base with uuidStr := uuidText }
      (artifactReader lib ctx art modelValidate)).uuidStr id) := nulFree_uuidText
  obtain ⟨rendered, hRendered, hParts⟩ := buildPayload_nulFree_iff hUuid hBuilt
  rw [hParts, hInsight, rendered_nulFree_iff hUuid hArtifacts hRendered, ← and_assoc]
  -- what is left are the texts of the database, in another order
  refine and_congr_left fun _ => ?_
  constructor
  · rintro ⟨⟨hTitle, hConfiguration, hStored⟩, hSources⟩
    exact ⟨hTitle, hConfiguration, hStored, fun source h => (hSources source h).1,
      fun source h => (hSources source h).2⟩
  · rintro ⟨hTitle, hConfiguration, hStored, hFilename, hSignature⟩
    exact ⟨⟨hTitle, hConfiguration, hStored⟩,
      fun source h => ⟨hFilename source h, hSignature source h⟩⟩

end csv

-- ---------------------------------------------------------------------------
-- Short files
-- ---------------------------------------------------------------------------

section short

variable {art : ArtifactLibrary} {books : WorkbookLibrary}

/-- The validation looks at the whole of a file of 64 KiB. -/
theorem StoredCsv.decoded_nulFree (source : StoredCsv art books)
    (hShort : source.content.length ≤ 64 * 1024) {decoded : Str}
    (h : decodeSig? source.content = some decoded) : NulFree decoded := by
  have hNoNul := (validateCsvContent_iff.mp source.valid).1.noNul
  rw [csvSample, List.take_of_length_le hShort] at hNoNul
  intro hNul
  -- the character is a byte of its own
  have hByte : (0 : UInt8) ∈ decoded.flatMap encodeChar :=
    List.mem_flatMap.mpr ⟨nul, hNul, by decide⟩
  unfold decodeSig? at h
  split at h
  · rw [← (encode?_eq_some.mp (decode?_eq_some.mp h)).2] at hByte
    exact hNoNul (List.mem_of_mem_drop hByte)
  · rw [← (encode?_eq_some.mp (decode?_eq_some.mp h)).2] at hByte
    exact hNoNul hByte

/-- Files of at most 64 KiB have no cell with a U+0000. -/
theorem cellsNulFree_of_short {reader : InsightReader} {captured : CapturedDashboard}
    {sources : List (StoredCsv art books)}
    (hShort : ∀ source ∈ sources, source.content.length ≤ 64 * 1024) :
    CellsNulFree reader captured sources := by
  intro _ configuration _ _ source hSource row hRow
  -- a field is made of characters of the text
  have hFields : ∀ decoded, decodeSig? source.content = some decoded →
      ∀ fields ∈ (Csv.rows decoded).1, ∀ s ∈ fields, (Json.str s).AllStrings NulFree := by
    intro decoded hDecoded fields hFields s hs
    have hText := source.decoded_nulFree (hShort source hSource) hDecoded
    have hHolds := Csv.holds_rows (p := fun c => c ≠ nul)
      (fun c hc => ne_of_mem_of_not_mem hc hText) fields hFields s hs
    exact (Json.allStrings_str s).mpr fun hNul => hHolds nul hNul rfl
  have hCells := source.cells_of_rows Json.allStrings_null hFields hRow
  have hCell := cell_of_values Json.allStrings_null hCells configuration.mappings
  exact ⟨fun _ _ _ => hCell .period, fun _ d _ => hCell d, fun _ field _ => hCell field⟩

end short

-- ---------------------------------------------------------------------------
-- A file that is accepted
-- ---------------------------------------------------------------------------

namespace StorableSample

open RoundTripSample

/-- A row of 64 KiB of spaces. -/
@[irreducible] def blanks : Str := List.replicate (64 * 1024) 0x20

/-- A column for each field. -/
def header : List Str := [str "period", str "department", str "vendor", str "expenses"]

/-- The vendor is spelled with a U+0000. -/
def vendor : Str := [0x41, 0x00, 0x6D, 0x65]

/-- The only record. -/
def record : List Str := [str "2024-01", str "Sales", vendor, str "300"]

/-- The lines after the spaces. -/
def rowsText : Str :=
  Csv.rowText header ++ Csv.newline :: (Csv.rowText record ++ [Csv.newline])

/-- The file. -/
def content : List UInt8 :=
  (blanks ++ Csv.newline :: rowsText).flatMap encodeChar

/-- It has no other character. -/
theorem eq_of_mem_blanks {c : CodePoint} (hc : c ∈ blanks) : c = 0x20 := by
  rw [blanks] at hc
  exact List.eq_of_mem_replicate hc

/-- And it is not empty. -/
theorem blanks_eq_cons : ∃ rest, blanks = 0x20 :: rest := by
  rw [blanks]
  exact ⟨_, List.replicate_succ⟩

/-- Spaces are their own bytes. -/
theorem encode_blanks : blanks.flatMap encodeChar = List.replicate (64 * 1024) 0x20 := by
  rw [blanks]
  exact flatMap_replicate_ascii (by decide) _

/-- The first 64 KiB of the file are the spaces. -/
theorem csvSample_content :
    csvSample content = List.replicate (64 * 1024) 0x20 := by
  rw [csvSample, content, List.flatMap_append, encode_blanks,
    List.take_left' (List.length_replicate ..)]

/-- **The validation** sees the spaces and nothing else. -/
theorem validateCsvContent_content : validateCsvContent content = .ok () := by
  obtain ⟨rest, hBlanks⟩ := blanks_eq_cons
  have hSample : ∀ b ∈ csvSample content, b = 0x20 := by
    rw [csvSample_content]
    exact fun b hb => List.eq_of_mem_replicate hb
  refine validateCsvContent_iff.mpr ⟨⟨?_, ?_, fun hNul => ?_, fun b hb => ?_⟩, blanks,
    encode?_eq_some.mpr ⟨?_, ?_⟩⟩
  · rw [content, hBlanks]
    exact List.cons_ne_nil _ _
  · rw [content, hBlanks]
    rfl
  · cases hSample 0 hNul
  · rw [hSample b hb]
    rfl
  · refine List.any_eq_false.mpr fun c hc => ?_
    rw [eq_of_mem_blanks hc]
    decide
  · rw [csvSample_content, encode_blanks]

/-- The text is read as a row of spaces, the header and the record. -/
theorem rows_content : Csv.rows (blanks ++ Csv.newline :: rowsText) =
    ([[blanks], header, record], false) := by
  -- the row of spaces is read as it is, the rows after it are computed
  have hPlain : ∀ f ∈ [blanks], Csv.PlainField f := by
    refine List.forall_mem_singleton.mpr ⟨fun c hc => ?_, ?_⟩
    · rw [eq_of_mem_blanks hc]
      rfl
    · rw [blanks, List.length_replicate]
      decide
  have hText : Csv.rowText [blanks] = blanks := List.intercalate_singleton
  have hLine : Csv.rowText [blanks] ≠ [] := by
    obtain ⟨rest, hBlanks⟩ := blanks_eq_cons
    rw [hText, hBlanks]
    exact List.cons_ne_nil _ _
  have hRows : Csv.rows rowsText = ([header, record], false) := by
    decide +kernel
  have hAll := Csv.rows_fields hPlain hLine rowsText
  rw [hText, hRows] at hAll
  exact hAll

/-- The file is the encoding of its text. -/
theorem decodeSig?_content :
    decodeSig? content = some (blanks ++ Csv.newline :: rowsText) := by
  obtain ⟨rest, hBlanks⟩ := blanks_eq_cons
  have hNot : ¬content.take 3 = bomUtf8 := by
    rw [content, hBlanks]
    intro h
    cases (List.cons.inj h).1
  rw [decodeSig?, if_neg hNot]
  refine decode?_eq_some.mpr (encode?_eq_some.mpr ⟨?_, rfl⟩)
  have hRest : (Csv.newline :: rowsText).any isSurrogate = false := by
    decide +kernel
  rw [List.any_append, hRest, Bool.or_false, List.any_eq_false]
  intro c hc
  rw [eq_of_mem_blanks hc]
  decide

-- ---------------------------------------------------------------------------
-- What the parser makes of it
-- ---------------------------------------------------------------------------

/-- What the loop over the rows holds after the row of spaces. -/
def scanned : SheetScan := { normalizer := {}, scannedRows := 1 }

/-- The rows after it. -/
def rowsAfter : List (Nat × List RawValue) :=
  [(2, header.map .str), (3, record.map .str)]

/-- What the parser makes of a sheet whose rows were read. -/
def finishSheet (sheetIndex : Nat) (sheetName : Str) (scan : SheetScan) : ReportNormalizer :=
  scan.header.elim scan.normalizer fun header => { scan.normalizer with
    sheets := scan.normalizer.sheets ++
      [⟨sheetIndex, sheetName, header.rowNumber, scan.sheetRecordCount, header.columns⟩] }

/-- What the parser makes of them. -/
def parse : Except ReportParsingError ReportNormalizer :=
  finishSheet 0 (str "data") <$>
    rowsAfter.foldlM (fun scan row => SheetScan.readRow report gzip scan 0 (str "data") row) scanned

/-- The stream of the file starts with the row of spaces. -/
theorem csvStream_content : csvStream (blanks ++ Csv.newline :: rowsText) =
    ⟨(1, [.str blanks]) :: rowsAfter, none⟩ := by
  rw [csvStream, rows_content]
  rfl

/-- The row of spaces is empty. -/
theorem rowIsEmpty_blanks : rowIsEmpty report [.str blanks] = .ok true := by
  have hDrop : blanks.dropWhile isSpace = [] := by
    refine List.dropWhile_eq_nil_iff.mpr fun c hc => ?_
    rw [eq_of_mem_blanks hc]
    decide
  have hStrip : (strip blanks).isEmpty = true := by
    rw [strip, trimBy, hDrop]
    rfl
  have hCell : normalizeValue report (.str blanks) = .ok (.null, .null) := by
    show normalizeText blanks = _
    rw [normalizeText, if_pos hStrip]
    rfl
  rw [rowIsEmpty, hCell]
  rfl

/-- So the parser goes on to the next one. -/
theorem readRow_blanks :
    SheetScan.readRow report gzip { normalizer := {} } 0 (str "data") (1, [.str blanks]) =
      .ok scanned := by
  rw [SheetScan.readRow, ensure_pos (by decide), ok_bind, ensure_pos (by decide), ok_bind]
  show SheetScan.readHeader report { normalizer := {} } 1 [.str blanks] = _
  rw [SheetScan.readHeader, rowIsEmpty_blanks]
  rfl

/-- A sheet is read row by row. -/
theorem addSheet_cons {lib : ReportLibrary} {gz : GzipLibrary} {normalizer : ReportNormalizer}
    {sheetIndex : Nat} {sheetName : Str} {row : Nat × List RawValue}
    {rows : List (Nat × List RawValue)} {scan : SheetScan}
    (hRoom : normalizer.sheets.length < reportMaxSheets)
    (hRow : SheetScan.readRow lib gz { normalizer := normalizer } sheetIndex sheetName row =
      .ok scan) :
    normalizer.addSheet lib gz sheetIndex sheetName ⟨row :: rows, none⟩ =
      finishSheet sheetIndex sheetName <$>
        rows.foldlM (fun scan row => SheetScan.readRow lib gz scan sheetIndex sheetName row)
          scan := by
  rw [ReportNormalizer.addSheet, ensure_pos hRoom, ok_bind, List.foldlM_cons, hRow, ok_bind,
    map_eq_pure_bind]
  refine bind_congr fun last => ?_
  cases hHeader : last.header with
  | none =>
    rw [finishSheet, hHeader]
    rfl
  | some header =>
    rw [finishSheet, hHeader]
    rfl

/-- **The parser** reads the rows after the spaces. -/
theorem normalizeReport_content :
    normalizeReport report gzip workbooks context content = parse := by
  rw [normalizeReport, if_pos (show context.fileExtension = str "csv" from rfl), parseCsv,
    decodeSig?_content, required_some, ok_bind, csvStream_content, parse]
  exact addSheet_cons (by decide) readRow_blanks

/-- The sheet of the rows. -/
def sheets : List ParsedSheet :=
  (sheetOf report 0 (str "data") rowsAfter).toList

/-- And emits their sheet. -/
theorem reportSheets_content :
    reportSheets report workbooks context content = sheets := by
  rw [reportSheets, if_pos (show context.fileExtension = str "csv" from rfl), decodeSig?_content,
    Option.elim_some, csvStream_content, sheetOf_cons_empty _ rowIsEmpty_blanks]
  rfl

/-- What it holds at the end. -/
def normalizer : ReportNormalizer := parse.toOption.getD {}

/-- None of them is refused. -/
theorem parse_eq : parse = .ok normalizer := by
  obtain ⟨parsed, hParsed⟩ := exists_ok_of_isOk (x := parse) (by decide +kernel)
  rw [normalizer, hParsed]
  rfl

-- ---------------------------------------------------------------------------
-- Its source
-- ---------------------------------------------------------------------------

def profile : Json :=
  (Json.obj (reportProfile context normalizer digest)).sortKeys

def payloads : List Json := sheets.flatMap ParsedSheet.payloads

def artifacts : ParsedReportArtifacts where
  normalizedContent := normalizer.writer.lines.flatten
  normalizedSha256 := digest
  profileContent := (jsonLine report profile).getD []
  profileSha256 := digest
  recordCount := normalizer.recordCount
  sheetCount := normalizer.sheets.length

/-- The file is accepted. -/
theorem parseReportContent_content :
    parseReportContent report gzip workbooks (fun _ => digest) context content =
      .ok artifacts := by
  -- the limits of the two artifacts
  have hFacts : (normalizer.finish gzip).toOption = some normalizer.writer.lines.flatten ∧
      (jsonLine report profile).isSome = true ∧
      ((jsonLine report profile).getD []).length ≤ reportMaxProfileBytes := by decide +kernel
  obtain ⟨hFinish, hLine, hSize⟩ := hFacts
  obtain ⟨line, hLine⟩ := Option.isSome_iff_exists.mp hLine
  rw [hLine, Option.getD_some] at hSize
  rw [parseReportContent, normalizeReport_content, parse_eq, ok_bind, eq_ok_of_toOption hFinish,
    ok_bind]
  show (required (jsonLine report profile) _ >>= _) = _
  rw [hLine, required_some, ok_bind, ensure_pos hSize, artifacts, hLine]
  rfl

/-- The storage answers the artifacts under the names of the job. -/
def art : ArtifactLibrary :=
  { library profile payloads with
    readObject := fun _ key _ _ => .ok (if key = str "profile" then artifacts.profileContent
      else artifacts.normalizedContent) }

/-- A completed job that stores the artifacts. -/
def job : SourceJob where
  id := context.jobId
  businessId := context.businessId
  reportUploadId := context.reportUploadId
  signature :=
    { status := .completed
      resultStorageBucket := some (str "reports")
      normalizedStorageKey := some (str "normalized")
      normalizedStorageVersionId := some (str "v1")
      normalizedEtag := some (str "e1")
      normalizedSizeBytes := some artifacts.normalizedContent.length
      profileStorageKey := some (str "profile")
      profileStorageVersionId := some (str "v2")
      profileEtag := some (str "e2")
      recordCount := some artifacts.recordCount
      sheetCount := some artifacts.sheetCount }

/-- Reading back is not up to the storage. -/
theorem readsBack_congr {lib lib' : ArtifactLibrary} {v : Json} {values : List Json}
    (hReport : lib'.report = lib.report) (hLoads : lib'.loads = lib.loads)
    (hBytes : lib'.loadsBytes = lib.loadsBytes) (h : ReadsBack lib v values) :
    ReadsBack lib' v values :=
  ⟨by rw [hReport, hLoads]; exact h.profile, by rw [hReport, hBytes]; exact h.payload⟩

/-- The source of the file. -/
def source : StoredCsv art workbooks where
  job := job
  context := context
  content := content
  parsed := artifacts
  extension := rfl
  valid := validateCsvContent_content
  accepted := parseReportContent_content
  holds := ⟨rfl, rfl, rfl, rfl, rfl, rfl⟩
  readsBack := by
    intro read hRead
    have hNormalize : normalizeReport report gzip workbooks context content = .ok read := hRead
    rw [normalizeReport_content, parse_eq] at hNormalize
    obtain rfl := Except.ok.inj hNormalize
    have hNodup : (payloads.map (jsonLine report)).Nodup := by decide +kernel
    have hReads := readsBack_of_nodup profile hNodup
    have hSheets : reportSheets art.report workbooks context content =
        sheets := reportSheets_content
    have hDigest : art.sha256 artifacts.normalizedContent = digest := rfl
    rw [hSheets, hDigest, ← profile, ← payloads]
    exact @readsBack_congr (library profile payloads) art _ _ rfl rfl rfl hReads
  profileStored := by
    intro bucket key version bound bytes _ hKey _ hRead
    have hName : key = str "profile" := (Option.some.inj hKey).symm
    have hAnswer := Except.ok.inj hRead
    rw [if_pos hName] at hAnswer
    exact hAnswer.symm
  normalizedStored := by
    intro bucket key version bound bytes _ hKey _ hRead
    have hName : key = str "normalized" := (Option.some.inj hKey).symm
    have hAnswer := Except.ok.inj hRead
    rw [if_neg (by rw [hName]; decide)] at hAnswer
    exact hAnswer.symm

-- ---------------------------------------------------------------------------
-- Its payload
-- ---------------------------------------------------------------------------

/-- An operational dashboard, with an insight or without. -/
def captured (configured : Bool) : CapturedDashboard :=
  ⟨.operationalKpi, str "Costs", .obj [], if configured then some (.obj []) else none, 0⟩

/-- Each field is mapped from the column of its own name. -/
def configuration : DashboardInsightConfiguration where
  goals := [.reduceExpenses]
  datasets := [⟨⟨context.jobId, 0, str "data"⟩,
    InsightSample.columns [.period, .department, .vendor, .expenses]⟩]

def base : SnapshotSettings where
  mappedProcessingJobIds _ _ := none
  readArtifacts _ _ _ := .error .artifact
  canonicalJsonBytes := SpikeBackend.canonicalJsonBytes report.floatRepr
  sha256 _ := digest
  uuidStr := uuidText

def reader : InsightReader :=
  artifactReader InsightSample.library InsightSample.context art fun _ => some configuration

/-- The call that computes the payload. -/
def compute (configured : Bool) : Except DashboardSnapshotError (Json × Str) :=
  (insightSettings InsightSample.library InsightSample.context InsightSample.order
    { base with uuidStr := uuidText } reader).computePayload 7 (captured configured)
      ([source].map StoredCsv.job)

/-- The payload has the U+0000 of the vendor where there is an insight. -/
theorem compute_eq (configured : Bool) : ∃ payload hash,
    compute configured = .ok (payload, hash) ∧
      (payload.AllStrings NulFree ↔ configured = false) := by
  have hRun : ∀ b, (compute b).toOption.map (fun p => decide (p.1.AllStrings NulFree)) =
      some !b := by
    decide +kernel
  obtain ⟨⟨payload, hash⟩, hCompute, hFree⟩ := Option.map_eq_some_iff.mp (hRun configured)
  refine ⟨payload, hash, eq_ok_of_toOption hCompute, ?_⟩
  rw [← @decide_eq_true_iff (payload.AllStrings NulFree), hFree, Bool.not_eq_true']

/-- The rows of the database have no U+0000. -/
theorem rowsNulFree (configured : Bool) : RowsNulFree (captured configured) [source] := by
  refine ⟨nulFree_literal rfl, (Json.allStrings_obj _).mpr nofun, fun stored hStored => ?_,
    List.forall_mem_singleton.mpr (by decide), List.forall_mem_singleton.mpr ?_⟩
  · cases configured with
    | true => exact Option.some.inj hStored ▸ (Json.allStrings_obj _).mpr nofun
    | false => cases hStored
  · have hNames : ∀ name ∈ [some (str "v1"), some (str "e1"), some (str "v2"), some (str "e2")],
        (Json.ofStr? name).AllStrings NulFree := by
      simp (disch := exact nulFree_literal rfl) only [List.forall_mem_cons, Json.ofStr?,
        Json.allStrings_str, nulFree_written, true_and, List.not_mem_nil, false_implies,
        implies_true]
    exact hNames

end StorableSample

open StorableSample in
/-- **A payload with a U+0000.** The file is accepted, since the character comes after 64 KiB of
spaces, and the payload has the spelling of the vendor. -/
theorem payload_with_nul : validateCsvContent source.content = .ok () ∧
    RowsNulFree (captured true) [source] ∧
    ∃ payload hash, compute true = .ok (payload, hash) ∧ ¬payload.AllStrings NulFree := by
  obtain ⟨payload, hash, hCompute, hFree⟩ := compute_eq true
  exact ⟨source.valid, rowsNulFree true, payload, hash, hCompute,
    fun h => Bool.noConfusion (hFree.mp h)⟩

open StorableSample RoundTripSample in
/-- The file of the sample: with an insight a cell is shown that has a U+0000, without one its
payload has none. -/
theorem payload_storable_sample : ¬CellsNulFree reader (captured true) [source] ∧
    CellsNulFree reader (captured false) [source] := by
  obtain ⟨payload, hash, hCompute, hFree⟩ := compute_eq true
  obtain ⟨payload', hash', hCompute', hFree'⟩ := compute_eq false
  have hGzip : ∀ lines, art.gzip.read (art.gzip.getvalue lines) = some lines.flatten := fun _ => rfl
  have hShown := payload_storable_iff hGzip hCompute
  have hPlain := payload_storable_iff hGzip hCompute'
  exact ⟨fun h => Bool.noConfusion (hFree.mp (hShown.mpr ⟨rowsNulFree true, h⟩)),
    (hPlain.mp (hFree'.mpr rfl)).2⟩

end SpikeBackend
