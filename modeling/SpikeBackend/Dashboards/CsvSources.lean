import SpikeBackend.Dashboards.ShownCells
import SpikeBackend.Reports.LineLimit

/-!
# Sources that are CSV files

A source of a snapshot whose artifacts are those of an uploaded CSV file: what
`_read_source_artifact` answers of it, and which texts it can have.

* `StoredCsv.readSourceArtifact_eq` — the reader answers the parse of the file;
* `StoredCsv.textRow` — the cells of its rows are texts;
* `StoredCsv.aggregate_nulFree` — its aggregate has no U+0000, whatever the cells are.
-/

namespace SpikeBackend

open Text Outcome Collections

/-- A source that was made of a CSV file: the file passed the validation of its content and was
accepted by the parser, and what the storage answers under the names of the job are the artifacts
of that parse. -/
structure StoredCsv (art : ArtifactLibrary) (books : WorkbookLibrary) where
  job : SourceJob
  context : ReportParsingContext
  content : List UInt8
  parsed : ParsedReportArtifacts
  extension : context.fileExtension = str "csv"
  valid : validateCsvContent content = .ok ()
  accepted : parseReportContent art.report art.gzip books art.sha256 context content = .ok parsed
  holds : HoldsParse job context parsed
  readsBack : ∀ normalizer,
    normalizeReport art.report art.gzip books context content = .ok normalizer →
      ReadsBack art
        (Json.obj (reportProfile context normalizer (art.sha256 parsed.normalizedContent))).sortKeys
        ((reportSheets art.report books context content).flatMap ParsedSheet.payloads)
  profileStored : ∀ bucket key version bound bytes,
    job.signature.resultStorageBucket = some bucket →
    job.signature.profileStorageKey = some key →
    job.signature.profileStorageVersionId = some version →
    art.readObject bucket key version bound = .ok bytes → bytes = parsed.profileContent
  normalizedStored : ∀ bucket key version bound bytes,
    job.signature.resultStorageBucket = some bucket →
    job.signature.normalizedStorageKey = some key →
    job.signature.normalizedStorageVersionId = some version →
    art.readObject bucket key version bound = .ok bytes → bytes = parsed.normalizedContent

-- ---------------------------------------------------------------------------
-- Cells of a text
-- ---------------------------------------------------------------------------

section

variable {report : ReportLibrary}

/-- A text is normalised to nothing or to itself. -/
theorem normalizeText_cases {s : Str} {cell : Json × ValueType} (h : normalizeText s = .ok cell) :
    cell.1 = .null ∨ cell.1 = .str s := by
  rw [normalizeText] at h
  split at h
  · obtain rfl := Except.ok.inj h
    exact .inl rfl
  · simp only [bind_eq_ok, ensure_eq_ok] at h
    obtain ⟨-, -, -, -, hDone⟩ := h
    obtain rfl := Except.ok.inj hDone
    exact .inr rfl

/-- So is the cell of a text, and a text that is refused makes an empty one. -/
theorem cellOf_str_cases (s : Str) :
    (cellOf report (.str s)).1 = .null ∨ (cellOf report (.str s)).1 = .str s := by
  show ((normalizeText s).toOption.getD (.null, .null)).1 = .null ∨
    ((normalizeText s).toOption.getD (.null, .null)).1 = .str s
  cases hCell : normalizeText s with
  | error e => exact .inl rfl
  | ok cell => exact normalizeText_cases hCell

/-- What holds of the values of some rows holds of the cells of their records. -/
theorem cells_of_recordsOf {Q : Json → Prop} (hNull : Q .null) {width : Nat}
    {rows : List (Nat × List RawValue)}
    (hRows : ∀ row ∈ rows, ∀ value ∈ row.2, Q (cellOf report value).1) {r : SheetRecord}
    (h : r ∈ recordsOf report width rows) : ∀ cell ∈ r.cells, Q cell.1 := by
  obtain ⟨row, hRow, rfl⟩ := List.mem_map.mp (List.mem_filter.mp h).1
  intro cell hCell
  rcases List.mem_append.mp hCell with hCell | hCell
  · obtain ⟨value, hValue, rfl⟩ := List.mem_map.mp (List.mem_of_mem_take hCell)
    exact hRows row hRow value hValue
  · rw [List.eq_of_mem_replicate hCell]
    exact hNull

/-- And of the cells of their sheet. -/
theorem cells_of_sheetOf {Q : Json → Prop} (hNull : Q .null) {rows : List (Nat × List RawValue)}
    (hRows : ∀ row ∈ rows, ∀ value ∈ row.2, Q (cellOf report value).1) {sheetIndex : Nat}
    {sheetName : Str} {sheet : ParsedSheet}
    (h : sheetOf report sheetIndex sheetName rows = some sheet) :
    ∀ r ∈ sheet.records, ∀ cell ∈ r.cells, Q cell.1 := by
  unfold sheetOf at h
  split at h
  · cases h
  · rename_i headerRow rest hDrop
    split at h
    · obtain rfl := Option.some.inj h
      intro r hr
      refine cells_of_recordsOf hNull (fun row hRow => hRows row ?_) hr
      exact (List.dropWhile_suffix _).subset (hDrop ▸ List.mem_cons_of_mem headerRow hRow)
    · cases h

end

-- ---------------------------------------------------------------------------
-- What is read
-- ---------------------------------------------------------------------------

/-- A column that was required. -/
theorem eq_some_of_requiredJobString {value : Option Str} {s : Str}
    (h : requiredJobString value = .ok s) : value = some s := by
  simp only [requiredJobString, bind_eq_ok, required_eq_ok] at h
  obtain ⟨s', hValue, -, -, hDone⟩ := h
  rw [hValue, Except.ok.inj hDone]

namespace StoredCsv

variable {lib : StandardLibrary} {ctx : Context} {art : ArtifactLibrary} {books : WorkbookLibrary}
  (source : StoredCsv art books)

/-- The sheet of the file, where it has a header. -/
def sheets : List ParsedSheet := reportSheets art.report books source.context source.content

/-- The rows that an insight observes of the file. -/
def rows : List InsightRow := (sheetEntries source.sheets).map fun e => e.row source.job.id

/-- A CSV file is one sheet. -/
theorem titles_eq : sheetTitles books source.context source.content = [str "data"] := by
  rw [sheetTitles, if_pos source.extension]

/-- What the parser holds when it has read the file. -/
theorem exists_normalizer : ∃ normalizer,
    normalizeReport art.report art.gzip books source.context source.content = .ok normalizer ∧
    source.parsed.normalizedContent = art.gzip.getvalue normalizer.writer.lines ∧
    source.parsed.recordCount = normalizer.recordCount ∧
    jsonLine art.report (Json.obj (reportProfile source.context normalizer
      (art.sha256 source.parsed.normalizedContent))).sortKeys =
        some source.parsed.profileContent := by
  have h := source.accepted
  simp only [parseReportContent, bind_eq_ok, required_eq_ok, ensure_eq_ok] at h
  obtain ⟨normalizer, hNormalize, normalizedContent, hFinish, profileContent, hLine, -, -,
    hDone⟩ := h
  simp only [ReportNormalizer.finish, BoundedJsonlWriter.finish, bind_eq_ok, ensure_eq_ok]
    at hFinish
  obtain ⟨-, -, -, -, hContent⟩ := hFinish
  rw [← Except.ok.inj hDone]
  exact ⟨normalizer, hNormalize, (Except.ok.inj hContent).symm, rfl, hLine⟩

/-- The sheets have what the parser promises of them. -/
theorem holds_sheets : ∀ sheet ∈ source.sheets, SheetHolds art.report sheet := by
  obtain ⟨normalizer, hNormalize, -⟩ := source.exists_normalizer
  exact (normalizeReport_eq_ok hNormalize).emitted

/-- The profile of the file is read as it was written. -/
theorem validateSourceProfile_eq {normalizer : ReportNormalizer} {profile : Dict}
    (hNormalize : normalizeReport art.report art.gzip books source.context source.content =
      .ok normalizer)
    (hLine : jsonLine art.report (Json.obj (reportProfile source.context normalizer
      (art.sha256 source.parsed.normalizedContent))).sortKeys = some source.parsed.profileContent)
    (h : validateSourceProfile art source.job source.parsed.profileContent = .ok profile) :
    profile = readProfile source.context normalizer
      (art.sha256 source.parsed.normalizedContent) := by
  simp only [validateSourceProfile, bind_eq_ok, required_eq_ok] at h
  obtain ⟨-, -, decoded, hDecoded, loaded, hLoaded, members, hMembers, h⟩ := h
  -- none of the checks changes the profile
  obtain ⟨-, -, -, -, -, -, -, -, -, -, -, -, -, -, -, -, -, -, -, -, -, -, -, -, -, -, -, -, -, -,
    -, -, -, -, -, -, hDone⟩ := h
  obtain rfl := Option.some.inj ((decode?_jsonLine hLine).symm.trans hDecoded)
  have hBack := (source.readsBack normalizer hNormalize).profile
  obtain rfl := Option.some.inj (hBack.symm.trans hLoaded)
  rw [Json.sortKeys_obj] at hMembers
  rw [← Except.ok.inj hDone, ← Option.some.inj hMembers]

/-- **The reader.** What it answers of the source is the parse of the file. -/
theorem readSourceArtifact_eq
    (hGzip : ∀ lines, art.gzip.read (art.gzip.getvalue lines) = some lines.flatten)
    {read : InsightSource} (h : readSourceArtifact lib ctx art source.job = .ok read) :
    ∃ normalizer, read = ⟨⟨source.job,
      readProfile source.context normalizer (art.sha256 source.parsed.normalizedContent),
      aggregateOf lib ctx source.sheets⟩, source.rows⟩ := by
  obtain ⟨normalizer, hNormalize, hContent, hRecords, hLine⟩ := source.exists_normalizer
  have hHolds := normalizeReport_eq_ok hNormalize
  simp only [readSourceArtifact, bind_eq_ok] at h
  obtain ⟨-, -, bucket, hBucket, profileKey, hProfileKey, profileVersion, hProfileVersion,
    normalizedKey, hNormalizedKey, normalizedVersion, hNormalizedVersion, profileContent,
    hProfileContent, normalizedContent, hNormalizedContent, profile, hProfile,
    ⟨aggregate, rows⟩, hAggregate, hDone⟩ := h
  -- the storage answers the artifacts of the parse
  obtain rfl := source.profileStored _ _ _ _ _ (eq_some_of_requiredJobString hBucket)
    (eq_some_of_requiredJobString hProfileKey) (eq_some_of_requiredJobString hProfileVersion)
    hProfileContent
  obtain rfl := source.normalizedStored _ _ _ _ _ (eq_some_of_requiredJobString hBucket)
    (eq_some_of_requiredJobString hNormalizedKey) (eq_some_of_requiredJobString hNormalizedVersion)
    hNormalizedContent
  obtain rfl := source.validateSourceProfile_eq hNormalize hLine hProfile
  -- what was read has short lines, so the lines of the file are
  obtain ⟨stream, hStream, hShort⟩ := aggregateNormalized_short hAggregate
  rw [hContent, hGzip] at hStream
  obtain rfl := Option.some.inj hStream
  rw [streamLines_written hHolds] at hShort
  have hPayloads : ∀ v ∈ source.sheets.flatMap ParsedSheet.payloads, ∀ line,
      jsonLine art.report v = some line →
        art.loadsBytes line = some v ∧ line.length ≤ dashboardMaxNormalizedLineBytes := by
    intro v hv line hEq
    refine ⟨(source.readsBack normalizer hNormalize).payload v hv line hEq, ?_⟩
    have hWritten : some line ∈ normalizer.writer.lines.map some := by
      rw [hHolds.writer.lines]
      exact List.mem_map.mpr ⟨v, hv, hEq⟩
    obtain ⟨written, hMem, hSame⟩ := List.mem_map.mp hWritten
    exact Option.some.inj hSame ▸ hShort written hMem
  -- so it is read under the conditions of the round trip
  have hNames : ∀ name ∈ sheetTitles books source.context source.content, name ≠ [] := by
    rw [source.titles_eq]
    exact List.forall_mem_singleton.mpr (by decide)
  have hOrdered := @reportSheets_ordered art.report books source.context source.content
  have hParsed := @aggregateNormalized_eq_ok lib ctx art source.sheets source.context normalizer _ _
    source.job source.parsed source.holds hHolds hOrdered hNames hContent hRecords hGzip hPayloads
  obtain ⟨rfl, rfl⟩ := Prod.mk.inj (Except.ok.inj (hAggregate.symm.trans hParsed))
  exact ⟨normalizer, (Except.ok.inj hDone).symm⟩

-- ---------------------------------------------------------------------------
-- Texts of a source
-- ---------------------------------------------------------------------------

/-- The values of a text are its fields. -/
theorem mem_csvStream {decoded : Str} {row : Nat × List RawValue}
    (hRow : row ∈ (csvStream decoded).rows) {value : RawValue} (hValue : value ∈ row.2) :
    ∃ fields ∈ (Csv.rows decoded).1, ∃ s ∈ fields, value = .str s := by
  obtain ⟨i, hi, rfl⟩ := List.mem_mapIdx.mp hRow
  obtain ⟨s, hs, rfl⟩ := List.mem_map.mp hValue
  exact ⟨_, List.getElem_mem hi, s, hs, rfl⟩

/-- A sheet of the file is the sheet of its text. -/
theorem exists_decoded {sheet : ParsedSheet} (h : sheet ∈ source.sheets) :
    ∃ decoded, decodeSig? source.content = some decoded ∧
      sheetOf art.report 0 (str "data") (csvStream decoded).rows = some sheet := by
  unfold sheets reportSheets at h
  rw [if_pos source.extension] at h
  cases hDecoded : decodeSig? source.content with
  | none =>
    rw [hDecoded] at h
    exact absurd h List.not_mem_nil
  | some decoded =>
    rw [hDecoded, Option.elim_some, Option.mem_toList] at h
    exact ⟨decoded, rfl, h⟩

/-- What holds of every field of the file holds of the cells of its rows. -/
theorem cells_of_rows {Q : Json → Prop} (hNull : Q .null)
    (hFields : ∀ decoded, decodeSig? source.content = some decoded →
      ∀ fields ∈ (Csv.rows decoded).1, ∀ s ∈ fields, Q (.str s))
    {row : InsightRow} (h : row ∈ source.rows) : ∀ m ∈ row.values, Q m.2 := by
  obtain ⟨e, he, rfl⟩ := List.mem_map.mp h
  obtain ⟨sheet, hSheet, he⟩ := List.mem_flatMap.mp he
  obtain ⟨r, hr, rfl⟩ := List.mem_map.mp he
  obtain ⟨decoded, hDecoded, hSheetOf⟩ := source.exists_decoded hSheet
  have hCells := cells_of_sheetOf hNull (fun row hRow value hValue => ?_) hSheetOf r hr
  · intro m hm
    obtain ⟨i, hi⟩ := List.mem_iff_getElem?.mp hm
    obtain ⟨name, cell, -, hCell, rfl⟩ := List.getElem?_zipWith_eq_some.mp hi
    exact hCells cell (List.mem_of_getElem? hCell)
  · obtain ⟨fields, hMem, s, hs, rfl⟩ := mem_csvStream hRow hValue
    rcases @cellOf_str_cases art.report s with hCell | hCell
    · rw [hCell]
      exact hNull
    · rw [hCell]
      exact hFields decoded hDecoded fields hMem s hs

/-- **The rows.** Their cells are empty or texts. -/
theorem textRow {row : InsightRow} (h : row ∈ source.rows) : TextRow row :=
  source.cells_of_rows (.inl rfl) (fun _ _ _ _ s _ => .inr ⟨s, rfl⟩) h

/-- What a header can be named has no U+0000, which is a control character. -/
theorem nulFree_of_headerClean {s : Str} (h : HeaderClean s) : NulFree s := by
  intro hNul
  have hInvalid : isHeaderInvalid nul = true := by decide
  exact Bool.noConfusion (hInvalid.symm.trans (h nul hNul))

/-- So the names of the sheet and of its columns have none. -/
theorem name_nulFree {sheet : ParsedSheet} (hSheet : sheet ∈ source.sheets) :
    NulFree sheet.profile.name ∧ ∀ column ∈ sheet.profile.columns, NulFree column.name := by
  obtain ⟨decoded, -, hSheetOf⟩ := source.exists_decoded hSheet
  refine ⟨?_, fun column hColumn => ?_⟩
  · rw [(sheetOf_eq_some hSheetOf).2]
    exact nulFree_literal rfl
  · obtain ⟨i, hi⟩ := List.mem_iff_getElem?.mp hColumn
    obtain ⟨built, hBuilt, -, rfl⟩ := (source.holds_sheets sheet hSheet).column i column hi
    exact nulFree_of_headerClean hBuilt.name_clean

/-- The statistics of a column are numbers. -/
theorem renderNumeric_nulFree (stats : Option NumericStats) :
    (renderNumeric ctx stats).AllStrings NulFree := by
  have hDecimal : ∀ value : Option ℚ, (Json.ofStr? (value.map decimalText)).AllStrings NulFree :=
    nulFree_decimalJson
  unfold renderNumeric
  split
  · exact Json.allStrings_null
  · split
    · exact Json.allStrings_null
    · simp (disch := exact nulFree_literal rfl) [hDecimal, nulFree_decimalText, nulFree_written,
        -Json.allStrings_ofStr?]

/-- **The aggregate.** It has the names of the columns and numbers. -/
theorem aggregate_nulFree : (aggregateOf lib ctx source.sheets).AllStrings NulFree := by
  have hSheets : ∀ sheet ∈ source.sheets, (aggregateSheet lib ctx sheet).AllStrings NulFree := by
    intro sheet hSheet
    obtain ⟨hName, hColumns⟩ := source.name_nulFree hSheet
    have hEach : ∀ entry ∈ sheet.profile.columns.zipIdx,
        (aggregateColumn lib ctx sheet.records entry).AllStrings NulFree := by
      intro entry hEntry
      have hColumn := hColumns entry.1 (List.fst_mem_of_mem_zipIdx hEntry)
      simp (disch := exact nulFree_literal rfl) [aggregateColumn, hColumn, renderNumeric_nulFree,
        nulFree_written]
    simp (disch := exact nulFree_literal rfl) only [aggregateSheet, Json.allStrings_obj,
      Json.allStrings_arr, Json.allStrings_int, Json.allStrings_str, List.forall_mem_cons,
      List.forall_mem_map, hName, nulFree_written, true_and, List.not_mem_nil, false_implies,
      implies_true, and_true]
    exact hEach
  simp (disch := exact nulFree_literal rfl) only [aggregateOf, Json.allStrings_obj,
    Json.allStrings_arr, Json.allStrings_int, List.forall_mem_cons, List.forall_mem_map,
    nulFree_written, true_and, List.not_mem_nil, false_implies, implies_true, and_true]
  exact hSheets

/-- The profile names the file. -/
theorem get_filename {context : ReportParsingContext} {normalizer : ReportNormalizer} {digest : Str}
    {members : Dict}
    (h : (readProfile context normalizer digest).get (str "source") = .obj members) :
    members.get (str "filename") = .str context.originalFilename := by
  obtain ⟨members', hSource, -, hFilename, -⟩ := @get_source context normalizer digest
  obtain rfl := Json.obj.inj (hSource.symm.trans h)
  exact hFilename

end StoredCsv

end SpikeBackend
