import Mathlib.Algebra.BigOperators.Ring.Finset
import SpikeBackend.Reports.Lines

/-!
# Parser and reader

What the parser writes, the reader of the snapshots accepts: the profile passes every check, each
record is read back once with the values that were written, and what is counted on the way is what
the profile says.

* `artifacts_round_trip` — any report in any of the formats.
-/

namespace SpikeBackend

open Text Outcome Collections

variable {lib : StandardLibrary} {ctx : Context} {art : ArtifactLibrary} {books : WorkbookLibrary}
  {sheets : List ParsedSheet}

-- ---------------------------------------------------------------------------
-- Aggregates
-- ---------------------------------------------------------------------------

/-- A column of the aggregate, with the counts of the profile. -/
def aggregateColumn (lib : StandardLibrary) (ctx : Context) (records : List SheetRecord)
    (column : ColumnProfile × Nat) : Json :=
  .obj [(str "name", .str column.1.name),
    (str "non_null_count", .int (column.1.totalCount - column.1.typeCounts .null)),
    (str "null_count", .int (column.1.typeCounts .null)),
    (str "numeric", renderNumeric ctx
      (accumulated lib ctx ((columnCells records column.2).map Prod.fst)).numeric)]

/-- A sheet of the aggregate, with the counts of the profile. -/
def aggregateSheet (lib : StandardLibrary) (ctx : Context) (sheet : ParsedSheet) : Json :=
  .obj [(str "sheet_index", .int sheet.profile.index), (str "sheet_name", .str sheet.profile.name),
    (str "record_count", .int sheet.profile.recordCount),
    (str "columns", .arr (sheet.profile.columns.zipIdx.map
      (aggregateColumn lib ctx sheet.records)))]

/-- The aggregate of some sheets. -/
def aggregateOf (lib : StandardLibrary) (ctx : Context) (sheets : List ParsedSheet) : Json :=
  .obj [(str "record_count", .int ((sheets.map fun s => s.records.length).sum : Nat)),
    (str "sheet_count", .int sheets.length),
    (str "sheets", .arr (sheets.map (aggregateSheet lib ctx)))]

/-- The values of a column, as the reader finds them by its name. -/
theorem values_of_column {report : ReportLibrary} {sheet : ParsedSheet}
    (hHolds : SheetHolds report sheet) {i : Nat} {column : ColumnProfile}
    (hColumn : sheet.profile.columns[i]? = some column) :
    ((sheet.records.map fun r => (sheet, r)).map fun e : Entry => Dict.get e.values column.name) =
      (columnCells sheet.records i).map Prod.fst := by
  have hName : sheet.names[i]? = some column.name := by
    rw [ParsedSheet.names, List.getElem?_map, hColumn]
    rfl
  have hIndex := (List.getElem?_eq_some_iff.mp hColumn).1
  rw [List.map_map, columnCells, List.map_filterMap]
  rw [← List.filterMap_eq_map]
  refine List.filterMap_congr ?_
  intro r hr
  -- Each record has a cell in this column, under the column's name.
  have hCell := List.getElem?_eq_getElem ((hHolds.width r hr).symm ▸ hIndex : i < r.cells.length)
  have hGet := get_values hHolds.names_nodup (hHolds.width_names hr) hName hCell
  rw [hCell]
  exact congrArg some hGet

/-- A column's accumulator has the counts of the profile. -/
theorem accumulated_column {report : ReportLibrary} {sheet : ParsedSheet}
    (hHolds : SheetHolds report sheet) {i : Nat} {column : ColumnProfile}
    (hColumn : sheet.profile.columns[i]? = some column) :
    ((accumulated lib ctx ((columnCells sheet.records i).map Prod.fst)).nullCount : Int) =
        column.typeCounts .null ∧
      ((accumulated lib ctx ((columnCells sheet.records i).map Prod.fst)).nonNullCount : Int) =
        column.totalCount - column.typeCounts .null := by
  obtain ⟨built, hBuilt, -, hCounting⟩ := hHolds.column i column hColumn
  obtain ⟨hNull, hTotal⟩ := @accumulated_counts lib ctx
    ((columnCells sheet.records i).map Prod.fst)
  -- A cell is counted as null exactly when its JSON is.
  have hTyped : ∀ cell ∈ columnCells sheet.records i, CellTyped cell := by
    intro cell hCell
    obtain ⟨r, hr, hGet⟩ := List.mem_filterMap.mp hCell
    exact hHolds.typed r hr cell (List.mem_of_getElem? hGet)
  have hCount : ((columnCells sheet.records i).map Prod.fst).countP Json.isNull =
      column.typeCounts .null := by
    rw [hCounting, ColumnProfile.counting, hBuilt.typeCounts_zero, List.countP_map]
    show _ = 0 + _
    rw [Nat.zero_add]
    refine List.countP_congr ?_
    intro cell hCell
    rw [decide_eq_true_iff]
    exact hTyped cell hCell
  have hLength : column.totalCount = ((columnCells sheet.records i).map Prod.fst).length := by
    rw [hCounting, totalCount_counting hBuilt.typeCounts_zero, List.length_map]
  rw [hNull, hCount]
  refine ⟨rfl, ?_⟩
  rw [hNull, hCount, ← hLength] at hTotal
  omega

/-- **A sheet of the aggregate.** -/
theorem renderSheet_eq_ok
    (hKeys : ((sheets.map ParsedSheet.contract).map SheetContract.key).Nodup)
    (hHolds : ∀ sheet ∈ sheets, SheetHolds art.report sheet) {jobId : Uuid}
    {lines : List (List UInt8)} {s : Aggregation}
    (hRead : AggregationHolds lib ctx jobId sheets (sheetEntries sheets) lines s)
    {sheet : ParsedSheet} (hSheet : sheet ∈ sheets) :
    renderSheet ctx s sheet.contract = .ok (aggregateSheet lib ctx sheet) := by
  have hRecords := entriesOf_sheetEntries hKeys hSheet
  have hCount : s.rowCounts sheet.contract.key = sheet.profile.recordCount := by
    rw [hRead.rowCounts, hRecords, List.length_map, (hHolds sheet hSheet).recordCount]
  -- Column by column: the accumulator has seen the cells of its column, in order.
  have hColumns : sheet.names.map (renderColumn ctx (s.columns sheet.contract.key)) =
      sheet.profile.columns.zipIdx.map (aggregateColumn lib ctx sheet.records) := by
    refine List.ext_getElem? fun i => ?_
    rw [ParsedSheet.names, List.map_map, List.getElem?_map, List.getElem?_map,
      List.getElem?_zipIdx]
    cases hColumn : sheet.profile.columns[i]? with
    | none => rfl
    | some column =>
      have hName : column.name ∈ sheet.names :=
        List.mem_map.mpr ⟨column, List.mem_of_getElem? hColumn, rfl⟩
      have hAccumulated := hRead.columns sheet hSheet column.name hName
      rw [hRecords, values_of_column (hHolds sheet hSheet) hColumn] at hAccumulated
      obtain ⟨hNull, hNonNull⟩ := @accumulated_column lib ctx _ sheet
        (hHolds sheet hSheet) i column hColumn
      show some (renderColumn ctx (s.columns sheet.contract.key) column.name) =
        some (aggregateColumn lib ctx sheet.records (column, 0 + i))
      rw [renderColumn, hAccumulated, hNull, hNonNull, Nat.zero_add]
      rfl
  simp only [renderSheet, bind_eq_ok, ensure_eq_ok]
  refine ⟨(), by rw [hCount]; rfl, ?_⟩
  rw [hCount]
  show Except.ok (Json.obj [_, _, _, (_, .arr (sheet.names.map _))]) = _
  rw [hColumns]
  rfl

-- ---------------------------------------------------------------------------
-- The profile
-- ---------------------------------------------------------------------------

/-- A job's row that holds the identifiers, the size and the counts of a parse. -/
structure HoldsParse (job : SourceJob) (context : ReportParsingContext)
    (artifacts : ParsedReportArtifacts) : Prop where
  id : job.id = context.jobId
  businessId : job.businessId = context.businessId
  reportUploadId : job.reportUploadId = context.reportUploadId
  normalizedSizeBytes : job.signature.normalizedSizeBytes = some (artifacts.normalizedContent.length : Int)
  recordCount : job.signature.recordCount = some (artifacts.recordCount : Int)
  sheetCount : job.signature.sheetCount = some (artifacts.sheetCount : Int)

/-- `json.loads` reads the profile and the lines of the records back as they were. -/
structure ReadsBack (art : ArtifactLibrary) (profile : Json) (payloads : List Json) : Prop where
  profile : art.loads (jsonText art.report.floatRepr profile ++ [lineFeed]) = some profile
  payload : ∀ v ∈ payloads, ∀ line, jsonLine art.report v = some line → art.loadsBytes line = some v

/-- The text of a line of JSON. -/
theorem decode?_jsonLine {report : ReportLibrary} {payload : Json} {line : List UInt8}
    (h : jsonLine report payload = some line) :
    decode? line = some (jsonText report.floatRepr payload ++ [lineFeed]) := by
  obtain ⟨body, rfl, -, hBody⟩ := jsonLine_body h
  obtain ⟨hSafe, rfl⟩ := encode?_eq_some.mp hBody
  refine decode?_eq_some.mpr (encode?_eq_some.mpr ⟨?_, ?_⟩)
  · rw [List.any_append, hSafe]
    rfl
  · rw [List.flatMap_append]
    rfl

/-- The members of a profile, by their keys. -/
theorem get_reportProfile (context : ReportParsingContext) (normalizer : ReportNormalizer)
    (digest key : Str) :
    Dict.get (Json.sortedMembers (reportProfile context normalizer digest)) key =
      (Dict.get (reportProfile context normalizer digest) key).sortKeys := by
  refine Dict.get_sortedMembers ?_ key
  simp only [reportProfile, List.map_cons, List.map_nil]
  decide

section profile

variable {context : ReportParsingContext} {normalizer : ReportNormalizer} {digest : Str}

/-- The profile of a report, as it is read back. -/
abbrev readProfile (context : ReportParsingContext) (normalizer : ReportNormalizer)
    (digest : Str) : Dict := Json.sortedMembers (reportProfile context normalizer digest)

/-- What the profile says of its source. -/
theorem get_source :
    ∃ source : Dict, (readProfile context normalizer digest).get (str "source") = .obj source ∧
      source.get (str "report_upload_id") = .str (uuidText context.reportUploadId) ∧
      source.get (str "filename") = .str context.originalFilename ∧
      source.get (str "extension") = .str context.fileExtension ∧
      source.get (str "content_type") = .str context.contentType := by
  have hNodup : ([str "report_upload_id", str "filename", str "extension", str "content_type"] :
      List Str).Nodup := by decide
  let members : Dict := [(str "report_upload_id", .str (uuidText context.reportUploadId)),
    (str "filename", .str context.originalFilename), (str "extension", .str context.fileExtension),
    (str "content_type", .str context.contentType)]
  -- Sorting the keys loses no member.
  have hGet := fun key => Dict.get_sortedMembers (d := members) hNodup key
  exact ⟨Json.sortedMembers members, (get_reportProfile _ _ _ _).trans (Json.sortKeys_obj _),
    hGet _, hGet _, hGet _, hGet _⟩

/-- What the profile says of the normalised object. -/
theorem get_normalized :
    ∃ normalized : Dict,
      (readProfile context normalizer digest).get (str "normalized") = .obj normalized ∧
      normalized.get (str "format") = .str (str "jsonl") ∧
      normalized.get (str "compression") = .str (str "gzip") ∧
      normalized.get (str "sha256") = .str digest := by
  have hNodup : ([str "format", str "compression", str "sha256"] : List Str).Nodup := by decide
  let members : Dict := [(str "format", .str (str "jsonl")), (str "compression", .str (str "gzip")),
    (str "sha256", .str digest)]
  have hGet := fun key => Dict.get_sortedMembers (d := members) hNodup key
  exact ⟨Json.sortedMembers members, (get_reportProfile _ _ _ _).trans (Json.sortKeys_obj _),
    hGet _, hGet _, hGet _⟩

/-- What the profile says of the sheets. -/
theorem get_sheets {sheets : List ParsedSheet}
    (hSheets : normalizer.sheets = sheets.map ParsedSheet.profile) :
    (readProfile context normalizer digest).get (str "sheets") =
      .arr (sheets.map fun s => s.profile.render.sortKeys) := by
  refine (get_reportProfile _ _ _ _).trans ((Json.sortKeys_arr _).trans ?_)
  rw [hSheets, List.map_map, List.map_map]
  rfl

theorem eqStr_self (s : Str) : (Json.str s).eqStr s = true := beq_self_eq_true s

theorem eqInt_self (n : Int) : (Json.int n).eqInt n = true := beq_self_eq_true n

/-- A report that is accepted is of one of the formats. -/
theorem extension_of_normalizeReport {gz : GzipLibrary} {content : List UInt8}
    (h : normalizeReport art.report gz books context content = .ok normalizer) :
    context.fileExtension ∈ [str "csv", str "xlsx", str "xls"] := by
  unfold normalizeReport at h
  by_cases hCsv : context.fileExtension = str "csv"
  · exact hCsv ▸ List.mem_cons_self
  · by_cases hXlsx : context.fileExtension = str "xlsx"
    · exact hXlsx ▸ List.mem_cons_of_mem _ List.mem_cons_self
    · by_cases hXls : context.fileExtension = str "xls"
      · exact hXls ▸ List.mem_cons_of_mem _ (List.mem_cons_of_mem _ List.mem_cons_self)
      · rw [if_neg hCsv, if_neg hXlsx, if_neg hXls] at h
        cases h

/-- **The profile is accepted.** -/
theorem validateSourceProfile_eq_ok {bound : Nat} {names : List Str} {job : SourceJob}
    {artifacts : ParsedReportArtifacts} (hJob : HoldsParse job context artifacts)
    (hHolds : ReportHolds art.report normalizer sheets)
    (hOrdered : SheetsOrdered sheets bound names) (hNames : ∀ name ∈ names, name ≠ [])
    (hFilename : strip context.originalFilename ≠ []) (hContentType : strip context.contentType ≠ [])
    (hExtension : context.fileExtension ∈ [str "csv", str "xlsx", str "xls"])
    (hDigest : isSha256Hex digest = true)
    (hLine : jsonLine art.report (Json.obj (reportProfile context normalizer digest)).sortKeys =
      some artifacts.profileContent)
    (hSize : artifacts.profileContent.length ≤ reportMaxProfileBytes)
    (hRecords : artifacts.recordCount = normalizer.recordCount)
    (hSheetCount : artifacts.sheetCount = normalizer.sheets.length)
    (hLoads : art.loads (jsonText art.report.floatRepr
      (Json.obj (reportProfile context normalizer digest)).sortKeys ++ [lineFeed]) =
        some (Json.obj (reportProfile context normalizer digest)).sortKeys) :
    validateSourceProfile art job artifacts.profileContent =
      .ok (readProfile context normalizer digest) := by
  have hGet := get_reportProfile context normalizer digest
  obtain ⟨source, hSource, hUpload, hName, hExt, hType⟩ :=
    @get_source context normalizer digest
  obtain ⟨normalized, hNormalized, hFormat, hCompression, hSha⟩ :=
    @get_normalized context normalizer digest
  have hContracts := profileSheetContract_eq_ok
    (@get_sheets context normalizer digest sheets hHolds.profiles) hHolds.emitted hOrdered hNames
  have hLength : normalizer.sheets.length = sheets.length := by rw [hHolds.profiles, List.length_map]
  -- the counts of the sheets add up to that of the report
  have hSum : ((sheets.map ParsedSheet.contract).map SheetContract.recordCount).sum =
      (normalizer.recordCount : Int) := by
    rw [hHolds.recordCount, Nat.cast_list_sum, List.map_map, List.map_map]
    refine congrArg List.sum (List.map_congr_left ?_)
    intro s hs
    exact congrArg Nat.cast (hHolds.emitted s hs).recordCount
  have hStripped : ∀ {s : Str}, strip s ≠ [] → (!(strip s).isEmpty) = true := by
    intro s hs
    rw [Bool.not_eq_true', List.isEmpty_eq_false_iff]
    exact hs
  simp only [validateSourceProfile, bind_eq_ok, required_eq_ok, ensure_eq_ok]
  refine ⟨(), hSize, _, decode?_jsonLine hLine, _, hLoads, _, by rw [Json.sortKeys_obj]; rfl,
    source, by rw [hSource]; rfl, normalized, by rw [hNormalized]; rfl, (), ?_, (), ?_, (), ?_, (), ?_,
    (), ?_, (), ?_, (), ?_, (), ?_, (), ?_, (), ?_, (), ?_, (), ?_, (), ?_, _, hContracts, (), ?_, (),
    ?_, rfl⟩
  · rw [hGet]
    exact eqStr_self _
  · rw [hGet]
    exact eqInt_self _
  · rw [hGet, hJob.id]
    exact eqStr_self _
  · rw [hGet, hJob.businessId]
    exact eqStr_self _
  · rw [hUpload, hJob.reportUploadId]
    exact eqStr_self _
  · rw [hName]
    exact hStripped hFilename
  · rw [hExt]
    exact decide_eq_true hExtension
  · rw [hType]
    exact hStripped hContentType
  · rw [hJob.recordCount, hGet, hRecords]
    exact eqInt_self _
  · rw [hJob.sheetCount, hGet, hSheetCount]
    exact eqInt_self _
  · rw [hFormat]
    exact eqStr_self _
  · rw [hCompression]
    exact eqStr_self _
  · rw [hSha]
    exact hDigest
  · rw [hJob.sheetCount, hSheetCount, hLength, List.length_map]
  · rw [hJob.recordCount, hRecords, hSum]

end profile

-- ---------------------------------------------------------------------------
-- The round trip
-- ---------------------------------------------------------------------------

/-- **The normalized lines are accepted.** -/
theorem aggregateNormalized_eq_ok {context : ReportParsingContext} {normalizer : ReportNormalizer}
    {bound : Nat} {names : List Str} {job : SourceJob} {artifacts : ParsedReportArtifacts}
    (hJob : HoldsParse job context artifacts) (hHolds : ReportHolds art.report normalizer sheets)
    (hOrdered : SheetsOrdered sheets bound names) (hNames : ∀ name ∈ names, name ≠ [])
    (hContent : artifacts.normalizedContent = art.gzip.getvalue normalizer.writer.lines)
    (hRecords : artifacts.recordCount = normalizer.recordCount)
    (hGzip : ∀ lines, art.gzip.read (art.gzip.getvalue lines) = some lines.flatten)
    (hPayloads : ∀ v ∈ sheets.flatMap ParsedSheet.payloads, ∀ line,
      jsonLine art.report v = some line →
        art.loadsBytes line = some v ∧ line.length ≤ dashboardMaxNormalizedLineBytes) :
    aggregateNormalized lib ctx art job
        (readProfile context normalizer (art.sha256 artifacts.normalizedContent))
        artifacts.normalizedContent =
      .ok (aggregateOf lib ctx sheets, (sheetEntries sheets).map fun e => e.row job.id) := by
  obtain ⟨normalized, hNormalized, -, -, hSha⟩ := @get_normalized context normalizer
    (art.sha256 artifacts.normalizedContent)
  have hContracts := profileSheetContract_eq_ok
    (@get_sheets context normalizer (art.sha256 artifacts.normalizedContent) sheets hHolds.profiles)
    hHolds.emitted hOrdered hNames
  have hKeys := hOrdered.keys_nodup
  have hEach : ∀ line ∈ normalizer.writer.lines, ∃ v ∈ sheets.flatMap ParsedSheet.payloads,
      jsonLine art.report v = some line := by
    intro line hLine
    have hMem : some line ∈ (sheets.flatMap ParsedSheet.payloads).map (jsonLine art.report) :=
      hHolds.writer.lines ▸ List.mem_map.mpr ⟨line, hLine, rfl⟩
    obtain ⟨v, hv, hEq⟩ := List.mem_map.mp hMem
    exact ⟨v, hv, hEq⟩
  have hStream : streamLines normalizer.writer.lines.flatten = normalizer.writer.lines := by
    refine streamLines_flatten ?_
    intro line hLine
    obtain ⟨v, -, hEq⟩ := hEach line hLine
    obtain ⟨body, hBody, hFeed, -⟩ := jsonLine_body hEq
    exact ⟨body, hBody, hFeed⟩
  have hEntries : ∀ e ∈ sheetEntries sheets, e.1 ∈ sheets ∧ e.2 ∈ e.1.records := by
    intro e he
    obtain ⟨s, hs, he⟩ := List.mem_flatMap.mp he
    obtain ⟨r, hr, rfl⟩ := List.mem_map.mp he
    exact ⟨hs, hr⟩
  have hLines : normalizer.writer.lines.map some =
      (sheetEntries sheets).map fun e => jsonLine art.report e.payload := by
    rw [hHolds.writer.lines, ← payloads_sheetEntries, List.map_map]
    rfl
  have hPayload : ∀ e ∈ sheetEntries sheets, e.payload ∈ sheets.flatMap ParsedSheet.payloads := by
    intro e he
    rw [← payloads_sheetEntries]
    exact List.mem_map.mpr ⟨e, he, rfl⟩
  obtain ⟨s, hFold, hRead⟩ := @aggregateLines_eq_ok lib ctx art job.id sheets hKeys
    hHolds.emitted _ _ hEntries hLines (fun e he line hLine => (hPayloads _ (hPayload e he) line hLine).1)
    (by
      intro line hLine
      obtain ⟨v, hv, hEq⟩ := hEach line hLine
      exact (hPayloads v hv line hEq).2)
    (hHolds.writer.bytes ▸ hHolds.writer.bytes_le)
  -- the sheets come in the order of their keys
  have hSorted : sortBy (fun sheet : SheetContract => toLex sheet.key)
      (sheets.map ParsedSheet.contract) = sheets.map ParsedSheet.contract := by
    refine List.Pairwise.insertionSort_eq ?_
    rw [List.pairwise_map]
    have hIndices := List.pairwise_map.mp hOrdered.increasing
    refine hIndices.imp ?_
    intro a b hLt
    refine Prod.Lex.le_iff.mpr (Or.inl ?_)
    exact Int.ofNat_lt.mpr hLt
  have hRendered : (sheets.map ParsedSheet.contract).mapM (renderSheet ctx s) =
      .ok (sheets.map (aggregateSheet lib ctx)) := by
    rw [mapM_eq_ok, List.forall₂_map_left_iff, List.forall₂_map_right_iff, List.forall₂_same]
    intro sheet hSheet
    exact renderSheet_eq_ok hKeys hHolds.emitted hRead hSheet
  have hTotal : s.totalRecords = normalizer.recordCount := by
    rw [hRead.totalRecords, hHolds.recordCount, sheetEntries, List.length_flatMap]
    refine congrArg List.sum (List.map_congr_left ?_)
    intro sheet _
    exact List.length_map _
  simp only [aggregateNormalized, bind_eq_ok, required_eq_ok, ensure_eq_ok]
  refine ⟨(), hJob.normalizedSizeBytes, normalized, by rw [hNormalized]; rfl, (), ?_, _, hContracts,
    normalizer.writer.lines.flatten, by rw [hContent, hGzip], s, by rw [hStream]; exact hFold, (), ?_,
    sheets.map (aggregateSheet lib ctx), by rw [hSorted]; exact hRendered, ?_⟩
  · rw [hSha]
    exact eqStr_self _
  · rw [hJob.recordCount, hRecords, hTotal]
  · rw [hRead.rows, hTotal, hHolds.recordCount, List.length_map]
    rfl

/-- **Round trip.** For the row of a job that holds a parse, the reader accepts the profile and the
normalized content of the parse. It observes every record that was written, once and in order, with
the values that were written, and its aggregate has the counts of the profile. -/
theorem artifacts_round_trip {context : ReportParsingContext} {content : List UInt8}
    {artifacts : ParsedReportArtifacts} {job : SourceJob}
    (hParse : parseReportContent art.report art.gzip books art.sha256 context content = .ok artifacts)
    (hJob : HoldsParse job context artifacts)
    (hTitles : ∀ title ∈ sheetTitles books context content, title ≠ [])
    (hFilename : strip context.originalFilename ≠ []) (hContentType : strip context.contentType ≠ [])
    (hLines : ∀ v ∈ (reportSheets art.report books context content).flatMap ParsedSheet.payloads,
      ∀ line, jsonLine art.report v = some line → line.length ≤ dashboardMaxNormalizedLineBytes)
    (hJson : ∀ normalizer, normalizeReport art.report art.gzip books context content = .ok normalizer →
      ReadsBack art
        (Json.obj (reportProfile context normalizer (art.sha256 artifacts.normalizedContent))).sortKeys
        ((reportSheets art.report books context content).flatMap ParsedSheet.payloads))
    (hGzip : ∀ lines, art.gzip.read (art.gzip.getvalue lines) = some lines.flatten)
    (hSha : ∀ bytes, isSha256Hex (art.sha256 bytes) = true) :
    ∃ profile lines,
      artifacts.normalizedContent = art.gzip.getvalue lines ∧
      lines.map some = ((reportSheets art.report books context content).flatMap
        ParsedSheet.payloads).map (jsonLine art.report) ∧
      validateSourceProfile art job artifacts.profileContent = .ok profile ∧
      profile.get (str "sheets") = .arr ((reportSheets art.report books context content).map
        fun s => s.profile.render.sortKeys) ∧
      aggregateNormalized lib ctx art job profile artifacts.normalizedContent =
        .ok (aggregateOf lib ctx (reportSheets art.report books context content),
          (sheetEntries (reportSheets art.report books context content)).map fun e =>
            e.row job.id) := by
  simp only [parseReportContent, bind_eq_ok, required_eq_ok, ensure_eq_ok] at hParse
  obtain ⟨normalizer, hNormalize, normalizedContent, hFinish, profileContent, hLine, -, hSize, hDone⟩ :=
    hParse
  obtain rfl := Except.ok.inj hDone
  simp only [ReportNormalizer.finish, BoundedJsonlWriter.finish, bind_eq_ok, ensure_eq_ok] at hFinish
  obtain ⟨-, -, -, -, hContent⟩ := hFinish
  obtain rfl := Except.ok.inj hContent
  -- What the parser wrote holds of the sheets; the two readers are then run on it.
  have hHolds := normalizeReport_eq_ok hNormalize
  have hOrdered := @reportSheets_ordered art.report books context content
  have hReads := hJson normalizer hNormalize
  refine ⟨readProfile context normalizer (art.sha256 (art.gzip.getvalue normalizer.writer.lines)),
    normalizer.writer.lines, rfl, hHolds.writer.lines, ?_, get_sheets hHolds.profiles, ?_⟩
  · -- The profile first, then each line of the normalised object.
    exact validateSourceProfile_eq_ok hJob hHolds hOrdered hTitles hFilename hContentType
      (extension_of_normalizeReport hNormalize) (hSha _) hLine hSize rfl rfl hReads.profile
  · exact aggregateNormalized_eq_ok hJob hHolds hOrdered hTitles rfl rfl hGzip fun v hv line hEq =>
      ⟨hReads.payload v hv line hEq, hLines v hv line hEq⟩

-- ---------------------------------------------------------------------------
-- A sample
-- ---------------------------------------------------------------------------

namespace RoundTripSample

/-- Nothing to fold, to normalize or to format in what the sample holds. -/
def report : ReportLibrary where
  floatRepr _ := []
  floatOfDecimal _ := none
  nfc := id
  casefoldChar c := [c]
  casefoldChar_suffix _ _ := rfl
  lineFeed_not_mem_floatRepr _ := List.not_mem_nil

/-- Blocks that are stored as they are. -/
def gzip : GzipLibrary where
  tell lines := lines.flatten.length
  getvalue := List.flatten
  read := some

/-- No workbook is read. -/
def workbooks : WorkbookLibrary where
  infolist _ := none
  loadXlsx _ := none
  loadXls _ := none

def digest : Str := List.replicate 64 0x30

def context : ReportParsingContext where
  jobId := 1
  businessId := 2
  reportUploadId := 3
  originalFilename := str "sales.csv"
  fileExtension := str "csv"
  contentType := str "text/csv"

/-- A header and three records: a month without an amount behind a blank row, and the first month
again. -/
def content : List UInt8 :=
  (encode? (str "Month,Amount\n2024-01,10\n\n2024-02,\n2024-01,10\n")).getD []

/-- What is written of it. -/
def payloads : List Json :=
  (reportSheets report workbooks context content).flatMap ParsedSheet.payloads

/-- A profile and lines that are read back as they were written. -/
def library (profile : Json) (payloads : List Json) : ArtifactLibrary where
  report := report
  gzip := gzip
  loads s := if s = jsonText report.floatRepr profile ++ [lineFeed] then some profile else none
  loadsBytes line := payloads.find? fun v => jsonLine report v = some line
  sha256 _ := digest
  readObject _ _ _ _ := .error .artifact

theorem length_payloads : payloads.length = 3 := by decide +kernel

/-- Each record has a line of its own, with the number of its row. -/
theorem nodup_lines : (payloads.map (jsonLine report)).Nodup := by decide +kernel

/-- Among values with distinct lines a line finds its own value. -/
theorem find?_of_nodup {f : Json → Option (List UInt8)} {values : List Json}
    (h : (values.map f).Nodup) {w : Json} (hw : w ∈ values) :
    values.find? (fun v => f v = f w) = some w := by
  induction values with
  | nil => exact absurd hw List.not_mem_nil
  | cons v values ih =>
    rw [List.map_cons, List.nodup_cons] at h
    rcases List.mem_cons.mp hw with rfl | hw
    · exact List.find?_cons_of_pos (decide_eq_true rfl)
    · rw [List.find?_cons_of_neg]
      · exact ih h.2 hw
      · intro hSame
        exact h.1 (of_decide_eq_true hSame ▸ List.mem_map_of_mem hw)

/-- Payloads with distinct lines read back. -/
theorem readsBack_of_nodup (profile : Json) {values : List Json}
    (h : (values.map (jsonLine report)).Nodup) : ReadsBack (library profile values) profile values := by
  refine ⟨if_pos rfl, fun w hw line hLine => ?_⟩
  have hFound := find?_of_nodup h hw
  have hLine : jsonLine report w = some line := hLine
  rw [hLine] at hFound
  exact hFound

theorem readsBack (profile : Json) : ReadsBack (library profile payloads) profile payloads :=
  readsBack_of_nodup profile nodup_lines

def job (artifacts : ParsedReportArtifacts) : SourceJob where
  id := context.jobId
  businessId := context.businessId
  reportUploadId := context.reportUploadId
  signature :=
    { status := .completed
      resultStorageBucket := none
      normalizedStorageKey := none
      normalizedStorageVersionId := none
      normalizedEtag := none
      normalizedSizeBytes := some artifacts.normalizedContent.length
      profileStorageKey := none
      profileStorageVersionId := none
      profileEtag := none
      recordCount := some artifacts.recordCount
      sheetCount := some artifacts.sheetCount }

theorem holdsParse (artifacts : ParsedReportArtifacts) :
    HoldsParse (job artifacts) context artifacts := ⟨rfl, rfl, rfl, rfl, rfl, rfl⟩

end RoundTripSample

open RoundTripSample in
/-- A file with three records. -/
theorem artifacts_round_trip_sample : ∃ (art : ArtifactLibrary) (artifacts : ParsedReportArtifacts)
    (profile : Dict) (lines : List (List UInt8)),
    parseReportContent report gzip workbooks art.sha256 context content = .ok artifacts ∧
      payloads.length = 3 ∧ lines.map some = payloads.map (jsonLine report) ∧
      validateSourceProfile art (job artifacts) artifacts.profileContent = .ok profile ∧
      aggregateNormalized InsightSample.library InsightSample.context art (job artifacts) profile
          artifacts.normalizedContent =
        .ok (aggregateOf InsightSample.library InsightSample.context
            (reportSheets report workbooks context content),
          (sheetEntries (reportSheets report workbooks context content)).map fun e =>
            e.row context.jobId) := by
  obtain ⟨normalizer, hNormalize⟩ := exists_ok_of_isOk (x := normalizeReport report gzip workbooks
    context content) (by decide +kernel)
  obtain ⟨artifacts, hParse⟩ := exists_ok_of_isOk (x := parseReportContent report gzip workbooks
    (fun _ => digest) context content) (by decide +kernel)
  have hShort : (payloads.all fun v => (jsonLine report v).all fun line =>
    -- The sample's lines are far below the reader's limit.
      decide (line.length ≤ 100)) = true := by
    decide +kernel
  have hTitles : ∀ title ∈ sheetTitles workbooks context content, title ≠ [] := by decide +kernel
  let art := library (Json.obj (reportProfile context normalizer digest)).sortKeys payloads
  have hLines : ∀ w ∈ (reportSheets art.report workbooks context content).flatMap ParsedSheet.payloads,
      ∀ line, jsonLine art.report w = some line → line.length ≤ dashboardMaxNormalizedLineBytes := by
    intro w hw line hLine
    have hEach := List.all_eq_true.mp hShort w hw
    have hLine : jsonLine report w = some line := hLine
    rw [hLine, Option.all_some, decide_eq_true_iff] at hEach
    exact hEach.trans (by decide +kernel)
  have hJson : ∀ read, normalizeReport art.report art.gzip workbooks context content = .ok read →
      ReadsBack art (Json.obj (reportProfile context read (art.sha256 artifacts.normalizedContent))).sortKeys
        ((reportSheets art.report workbooks context content).flatMap ParsedSheet.payloads) := by
    intro read hRead
    -- There is one normaliser, and the sample library knows its profile.
    obtain rfl : normalizer = read := Except.ok.inj (hNormalize.symm.trans hRead)
    exact readsBack _
  have hDigest : isSha256Hex digest = true := by decide +kernel
  obtain ⟨profile, lines, -, hWritten, hProfile, -, hAggregate⟩ :=
    @artifacts_round_trip InsightSample.library InsightSample.context art workbooks context content
      artifacts (job artifacts) hParse (holdsParse artifacts) hTitles (by decide +kernel)
      (by decide +kernel) hLines hJson (fun _ => rfl) (fun _ => hDigest)
  exact ⟨art, artifacts, profile, lines, hParse, length_payloads, hWritten, hProfile, hAggregate⟩

end SpikeBackend
