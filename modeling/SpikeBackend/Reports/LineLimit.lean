import Mathlib.Algebra.Group.Action.Defs
import SpikeBackend.Lib.JsonSize
import SpikeBackend.Reports.ColumnNames
import SpikeBackend.Reports.RoundTrip

/-!
# Lines that are too long to read

The writer bounds the characters of a cell and the columns of a sheet, the reader the bytes of a
line. A character of a cell can have six bytes in its line, so that the two limits are not one:
the bytes of a line are counted here from the cells of its record, and the reader accepts just
the reports whose records all stay within its limit.

* `length_jsonLine` — the bytes of a line, counted from its record;
* `line_limits_exact` — the lines that the reader accepts, and the reports;
* `wide_row_unreadable` — a report that is processed, and that no dashboard can read.
-/

namespace SpikeBackend

open Text Outcome Collections

-- ---------------------------------------------------------------------------
-- The bytes of a line
-- ---------------------------------------------------------------------------

/-- The bytes of a column in a line: its name, a colon and its cell. -/
def cellBytes (lib : ReportLibrary) (name : Str) (cell : Json × ValueType) : Nat :=
  stringBytes name + 1 + valueBytes lib.floatRepr cell.1

/-- The bytes of the line of a record: 57 of fixed text, the two numbers, the name of the sheet,
and the columns with a comma between any two. -/
def recordBytes (lib : ReportLibrary) (sheet : ParsedSheet) (r : SheetRecord) : Nat :=
  57 + (intText sheet.profile.index).length + stringBytes sheet.profile.name +
    (intText r.rowNumber).length + (sheet.names.zipWith (cellBytes lib) r.cells).sum +
    (sheet.names.length - 1)

/-- Every record has at most as many bytes as a line that the reader accepts. -/
def RecordsShort (lib : ReportLibrary) (sheets : List ParsedSheet) : Prop :=
  ∀ sheet ∈ sheets, ∀ r ∈ sheet.records,
    recordBytes lib sheet r ≤ dashboardMaxNormalizedLineBytes

/-- A line has the bytes that are counted for its value, and a line feed. -/
theorem length_jsonLine_eq {lib : ReportLibrary} {payload : Json} {line : List UInt8}
    (h : jsonLine lib payload = some line) :
    line.length = valueBytes lib.floatRepr payload + 1 := by
  obtain ⟨body, rfl, -, hBody⟩ := jsonLine_body h
  obtain ⟨-, rfl⟩ := encode?_eq_some.mp hBody
  rw [List.length_append, length_flatMap_encodeChar, textBytes_jsonText, List.length_singleton]

theorem memberBytes_values (lib : ReportLibrary) (names : List Str) (r : SheetRecord) :
    memberBytes lib.floatRepr (r.values names) = (names.zipWith (cellBytes lib) r.cells).sum := by
  rw [memberBytes_eq_sum, SheetRecord.values, List.map_zipWith]
  rfl

/-- The bytes of a record: the texts that every record has, and what it holds. -/
theorem valueBytes_recordPayload (floatRepr : Rat → Str) (sheetIndex : Nat) (sheetName : Str)
    (rowNumber : Nat) (values : Dict) :
    valueBytes floatRepr (recordPayload sheetIndex sheetName rowNumber values) =
      56 + (intText sheetIndex).length + stringBytes sheetName + (intText rowNumber).length +
        memberBytes floatRepr values + (values.length - 1) := by
  have hIndex : stringBytes (str "sheet_index") = 13 := by decide
  have hName : stringBytes (str "sheet_name") = 12 := by decide
  have hRow : stringBytes (str "row_number") = 12 := by decide
  have hValues : stringBytes (str "values") = 8 := by decide
  simp only [recordPayload, valueBytes, memberBytes, hIndex, hName, hRow, hValues, List.length_cons,
    List.length_nil]
  omega

/-- **The bytes of a line**, counted from its record. -/
theorem length_jsonLine {lib : ReportLibrary} {sheet : ParsedSheet} {r : SheetRecord}
    {line : List UInt8} (hWidth : r.cells.length = sheet.names.length)
    (h : jsonLine lib (sheet.payload r) = some line) : line.length = recordBytes lib sheet r := by
  have hMembers : (r.values sheet.names).length = sheet.names.length := by
    rw [SheetRecord.values, List.length_zipWith, hWidth, Nat.min_self]
  rw [length_jsonLine_eq h, ParsedSheet.payload, valueBytes_recordPayload, memberBytes_values,
    hMembers, recordBytes]
  omega

-- ---------------------------------------------------------------------------
-- What is written
-- ---------------------------------------------------------------------------

/-- The lines of a report are short just when its records are. -/
theorem lines_short_iff {lib : ReportLibrary} {normalizer : ReportNormalizer}
    {sheets : List ParsedSheet} (hHolds : ReportHolds lib normalizer sheets) :
    (∀ line ∈ normalizer.writer.lines, line.length ≤ dashboardMaxNormalizedLineBytes) ↔
      RecordsShort lib sheets := by
  have hLines := hHolds.writer.lines
  constructor
  · intro hShort sheet hSheet r hr
    have hPayload : sheet.payload r ∈ sheets.flatMap ParsedSheet.payloads :=
      List.mem_flatMap.mpr ⟨sheet, hSheet, List.mem_map.mpr ⟨r, hr, rfl⟩⟩
    -- the writer has a line for each record of a sheet, and no other
    have hWritten : jsonLine lib (sheet.payload r) ∈ normalizer.writer.lines.map some := by
      rw [hLines]
      exact List.mem_map.mpr ⟨_, hPayload, rfl⟩
    obtain ⟨line, hLine, hEq⟩ := List.mem_map.mp hWritten
    rw [← length_jsonLine ((hHolds.emitted sheet hSheet).width_names hr) hEq.symm]
    exact hShort line hLine
  · intro hShort line hLine
    have hWritten : some line ∈ (sheets.flatMap ParsedSheet.payloads).map (jsonLine lib) := by
      rw [← hLines]
      exact List.mem_map.mpr ⟨line, hLine, rfl⟩
    obtain ⟨payload, hPayload, hEq⟩ := List.mem_map.mp hWritten
    obtain ⟨sheet, hSheet, hPayload⟩ := List.mem_flatMap.mp hPayload
    obtain ⟨r, hr, rfl⟩ := List.mem_map.mp hPayload
    rw [length_jsonLine ((hHolds.emitted sheet hSheet).width_names hr) hEq]
    exact hShort sheet hSheet r hr

-- ---------------------------------------------------------------------------
-- What is read
-- ---------------------------------------------------------------------------

section read

variable {lib : StandardLibrary} {ctx : Context} {art : ArtifactLibrary}

/-- Every line that the loop of `_aggregate_normalized` has read is short. -/
theorem aggregateLines_short {jobId : Uuid} {contracts : List SheetContract}
    {lines : List (List UInt8)} {s s' : Aggregation}
    (h : lines.foldlM (aggregateLine lib ctx art jobId contracts) s = .ok s') :
    ∀ line ∈ lines, line.length ≤ dashboardMaxNormalizedLineBytes := by
  refine foldlM_history (P := fun done _ => ∀ line ∈ done,
    line.length ≤ dashboardMaxNormalizedLineBytes) h
    (fun _ hLine => absurd hLine List.not_mem_nil) ?_
  intro done line x x' _ hDone hStep
  simp only [aggregateLine, bind_eq_ok, ensure_eq_ok] at hStep
  obtain ⟨-, hShort, -⟩ := hStep
  intro read hRead
  rcases List.mem_append.mp hRead with hRead | hRead
  · exact hDone read hRead
  · rw [List.mem_singleton.mp hRead]
    exact hShort

/-- What the reader accepts has short lines. -/
theorem aggregateNormalized_short {job : SourceJob} {profile : Dict} {content : List UInt8}
    {result : Json × List InsightRow}
    (h : aggregateNormalized lib ctx art job profile content = .ok result) :
    ∃ stream, art.gzip.read content = some stream ∧
      ∀ line ∈ streamLines stream, line.length ≤ dashboardMaxNormalizedLineBytes := by
  simp only [aggregateNormalized, bind_eq_ok, required_eq_ok, ensure_eq_ok] at h
  obtain ⟨-, -, -, -, -, -, contracts, -, stream, hStream, s, hFold, -⟩ := h
  exact ⟨stream, hStream, aggregateLines_short hFold⟩

end read

/-- The lines that are written are found again in their stream. -/
theorem streamLines_written {lib : ReportLibrary} {normalizer : ReportNormalizer}
    {sheets : List ParsedSheet} (hHolds : ReportHolds lib normalizer sheets) :
    streamLines normalizer.writer.lines.flatten = normalizer.writer.lines := by
  refine streamLines_flatten fun line hLine => ?_
  have hWritten : some line ∈ (sheets.flatMap ParsedSheet.payloads).map (jsonLine lib) := by
    rw [← hHolds.writer.lines]
    exact List.mem_map.mpr ⟨line, hLine, rfl⟩
  obtain ⟨payload, -, hEq⟩ := List.mem_map.mp hWritten
  obtain ⟨body, hBody, hFeed, -⟩ := jsonLine_body hEq
  exact ⟨body, hBody, hFeed⟩

-- ---------------------------------------------------------------------------
-- The two limits
-- ---------------------------------------------------------------------------

/-- A report is stored as it was parsed, under a job that has its counts; the libraries read back
what they have written. -/
structure ReportStored (art : ArtifactLibrary) (books : WorkbookLibrary)
    (context : ReportParsingContext) (content : List UInt8) (artifacts : ParsedReportArtifacts)
    (job : SourceJob) : Prop where
  job : HoldsParse job context artifacts
  titles : ∀ title ∈ sheetTitles books context content, title ≠ []
  filename : strip context.originalFilename ≠ []
  contentType : strip context.contentType ≠ []
  readsBack : ∀ normalizer,
    normalizeReport art.report art.gzip books context content = .ok normalizer →
      ReadsBack art
        (Json.obj (reportProfile context normalizer (art.sha256 artifacts.normalizedContent))).sortKeys
        ((reportSheets art.report books context content).flatMap ParsedSheet.payloads)
  gzip : ∀ lines, art.gzip.read (art.gzip.getvalue lines) = some lines.flatten
  sha256 : ∀ bytes, isSha256Hex (art.sha256 bytes) = true

/-- **The two limits.** Of a report that is parsed, the lines that are written are all within the
limit of the reader exactly when the bytes of every record are; and where the report is stored, its
profile is accepted, and its lines are exactly then. -/
theorem line_limits_exact {art : ArtifactLibrary} {books : WorkbookLibrary}
    {context : ReportParsingContext} {content : List UInt8} {artifacts : ParsedReportArtifacts}
    (hParse : parseReportContent art.report art.gzip books art.sha256 context content =
      .ok artifacts) :
    ∃ lines : List (List UInt8), artifacts.normalizedContent = art.gzip.getvalue lines ∧
      lines.map some = ((reportSheets art.report books context content).flatMap
        ParsedSheet.payloads).map (jsonLine art.report) ∧
      ((∀ line ∈ lines, line.length ≤ dashboardMaxNormalizedLineBytes) ↔
        RecordsShort art.report (reportSheets art.report books context content)) ∧
      ∀ (lib : StandardLibrary) (ctx : Context) (job : SourceJob),
        ReportStored art books context content artifacts job →
          ∃ profile, validateSourceProfile art job artifacts.profileContent = .ok profile ∧
            ((∃ result, aggregateNormalized lib ctx art job profile artifacts.normalizedContent =
                .ok result) ↔
              RecordsShort art.report (reportSheets art.report books context content)) := by
  simp only [parseReportContent, bind_eq_ok, required_eq_ok, ensure_eq_ok] at hParse
  obtain ⟨normalizer, hNormalize, normalizedContent, hFinish, profileContent, hLine, -, hSize, hDone⟩ :=
    hParse
  obtain rfl := Except.ok.inj hDone
  simp only [ReportNormalizer.finish, BoundedJsonlWriter.finish, bind_eq_ok, ensure_eq_ok] at hFinish
  obtain ⟨-, -, -, -, hContent⟩ := hFinish
  obtain rfl := Except.ok.inj hContent
  have hHolds := normalizeReport_eq_ok hNormalize
  have hShort := lines_short_iff hHolds
  have hOrdered := @reportSheets_ordered art.report books context content
  refine ⟨normalizer.writer.lines, rfl, hHolds.writer.lines, hShort, ?_⟩
  intro lib ctx job hStored
  have hReads := hStored.readsBack normalizer hNormalize
  refine ⟨_, validateSourceProfile_eq_ok hStored.job hHolds hOrdered hStored.titles hStored.filename
    hStored.contentType (extension_of_normalizeReport hNormalize) (hStored.sha256 _) hLine hSize rfl
    rfl hReads.profile, ?_⟩
  constructor
  · rintro ⟨result, hResult⟩
    -- what was read was split into the lines that were written
    obtain ⟨stream, hStream, hLines⟩ := aggregateNormalized_short hResult
    obtain rfl := Option.some.inj ((hStored.gzip _).symm.trans hStream)
    rw [streamLines_written hHolds] at hLines
    exact hShort.mp hLines
  · intro hRecords
    refine ⟨_, aggregateNormalized_eq_ok hStored.job hHolds hOrdered hStored.titles rfl rfl
      hStored.gzip ?_⟩
    intro v hv line hEq
    refine ⟨hReads.payload v hv line hEq, ?_⟩
    -- the line of a payload is one of the lines of the writer
    have hWritten : some line ∈ normalizer.writer.lines.map some := by
      rw [hHolds.writer.lines]
      exact List.mem_map.mpr ⟨v, hv, hEq⟩
    obtain ⟨written, hMem, hSame⟩ := List.mem_map.mp hWritten
    rw [← Option.some.inj hSame]
    exact hShort.mpr hRecords written hMem

open RoundTripSample in
/-- The file with three records is read. -/
theorem line_limits_sample : ∃ (art : ArtifactLibrary) (artifacts : ParsedReportArtifacts)
    (profile : Dict) (result : Json × List InsightRow),
    parseReportContent report gzip workbooks art.sha256 context content = .ok artifacts ∧
      payloads.length = 3 ∧
      validateSourceProfile art (job artifacts) artifacts.profileContent = .ok profile ∧
      aggregateNormalized InsightSample.library InsightSample.context art (job artifacts) profile
        artifacts.normalizedContent = .ok result := by
  have hRun : (parseReportContent report gzip workbooks (fun _ => digest) context content).isOk = true ∧
      ((reportSheets report workbooks context content).all fun sheet => sheet.records.all fun r =>
        decide (recordBytes report sheet r ≤ dashboardMaxNormalizedLineBytes)) = true ∧
      (∀ title ∈ sheetTitles workbooks context content, title ≠ []) ∧
      strip context.originalFilename ≠ [] ∧ strip context.contentType ≠ [] ∧
      isSha256Hex digest = true := by
    decide +kernel
  obtain ⟨hOk, hRecords, hTitles, hFilename, hType, hDigest⟩ := hRun
  obtain ⟨artifacts, hParse⟩ := exists_ok_of_isOk hOk
  have hShort : RecordsShort report (reportSheets report workbooks context content) := by
    intro sheet hSheet r hr
    exact of_decide_eq_true (List.all_eq_true.mp (List.all_eq_true.mp hRecords sheet hSheet) r hr)
  have hNormalize := hParse
  simp only [parseReportContent, bind_eq_ok] at hNormalize
  obtain ⟨normalizer, hNormalize, -⟩ := hNormalize
  -- decompression answers the lines of this report, and the profile's text is its profile
  let art := library (Json.obj (reportProfile context normalizer digest)).sortKeys payloads
  have hStored : ReportStored art workbooks context content artifacts (job artifacts) := by
    refine ⟨holdsParse artifacts, hTitles, hFilename, hType, ?_, fun _ => rfl, fun _ => hDigest⟩
    intro read hRead
    obtain rfl : normalizer = read := Except.ok.inj (hNormalize.symm.trans hRead)
    exact readsBack _
  obtain ⟨-, -, -, -, hRead⟩ := @line_limits_exact art workbooks context content artifacts hParse
  obtain ⟨profile, hProfile, hReads⟩ := hRead InsightSample.library InsightSample.context _ hStored
  obtain ⟨result, hResult⟩ := hReads.mpr hShort
  exact ⟨art, artifacts, profile, result, hParse, length_payloads, hProfile, hResult⟩

-- ---------------------------------------------------------------------------
-- A report with a long line
-- ---------------------------------------------------------------------------

/-- Columns can be built as soon as every header text can be read. -/
theorem exists_buildColumns {lib : ReportLibrary} {values : List RawValue}
    (h : ∀ value ∈ values, ∀ firstColumn, ∃ name, headerText lib value firstColumn = .ok name) :
    ∃ columns, buildColumns lib values = .ok columns := by
  suffices hRun : ∀ start, ∃ columns, values.foldlM (buildColumn lib) start = .ok columns from hRun []
  intro start
  induction values generalizing start with
  | nil => exact ⟨start, rfl⟩
  | cons value values ih =>
    obtain ⟨name, hName⟩ := h value List.mem_cons_self (decide (start.length = 0))
    obtain ⟨columns, hColumns⟩ := ih (fun v hv => h v (List.mem_cons_of_mem value hv)) (start ++
      [⟨start.length, uniqueName lib (start.map fun column => lib.casefold column.name)
        (name.getD (str "column_" ++ natText (start.length + 1))) start.length 0, name, name.isNone,
        fun _ => 0⟩])
    refine ⟨columns, ?_⟩
    rw [List.foldlM_cons]
    refine bind_eq_ok.mpr ⟨_, ?_, hColumns⟩
    rw [buildColumn, hName]
    rfl

/-- A value without surrogates has a line. -/
theorem exists_jsonLine {lib : ReportLibrary} {value : Json}
    (hFloat : ∀ x, (lib.floatRepr x).any isSurrogate = false) (h : isWritten value = true) :
    ∃ line, jsonLine lib value = some line := by
  rw [jsonLine, jsonBytes, if_pos (writable_of_isWritten _ h), encode?_jsonText hFloat h]
  exact ⟨_, rfl⟩

namespace LineLimitSample

open RoundTripSample

/-- A text of the length that a cell can have, of a character of three bytes. -/
@[irreducible] def cell : Str := List.replicate reportMaxCellCharacters 0x6587

def width : Nat := 173

def header : List Str := List.replicate width (str "a")

def row : List Str := List.replicate width cell

def text : Str := Csv.rowText header ++ Csv.newline :: (Csv.rowText row ++ [Csv.newline])

def wideContent : List UInt8 := text.flatMap encodeChar

theorem eq_of_mem_cell {c : CodePoint} (hc : c ∈ cell) : c = 0x6587 := by
  rw [cell] at hc
  exact List.eq_of_mem_replicate hc

theorem length_cell : cell.length = reportMaxCellCharacters := by
  rw [cell, List.length_replicate]

/-- The names of the header are plain fields. -/
theorem plainField_header : ∀ f ∈ header, Csv.PlainField f := by
  intro f hf
  rw [List.eq_of_mem_replicate hf]
  refine ⟨fun c hc => ?_, ?_⟩
  · rw [List.mem_singleton.mp hc]
    rfl
  · show 1 ≤ Csv.fieldLimit
    decide

/-- The cells of the row are plain fields. -/
theorem plainField_row : ∀ f ∈ row, Csv.PlainField f := by
  intro f hf
  rw [List.eq_of_mem_replicate hf]
  refine ⟨fun c hc => ?_, ?_⟩
  · rw [eq_of_mem_cell hc]
    rfl
  · rw [length_cell]
    decide

theorem rowText_row : ∃ rest, Csv.rowText row = cell ++ rest := by
  rw [Csv.rowText, row, width, List.replicate_succ, List.replicate_succ, List.intercalate_cons_cons,
    List.append_assoc]
  exact ⟨_, rfl⟩

/-- The text is read as a header and one row. -/
theorem rows_text : Csv.rows text = ([header, row], false) := by
  have hHeader : Csv.rowText header ≠ [] := List.cons_ne_nil _ _
  have hRow : Csv.rowText row ≠ [] := by
    intro hNil
    have hCell : cell ≠ [] := by
      intro h
      have hLength := length_cell
      rw [h] at hLength
      cases hLength
    obtain ⟨rest, hText⟩ := rowText_row
    rw [hText] at hNil
    exact hCell (List.append_eq_nil_iff.mp hNil).1
  rw [text, Csv.rows_fields plainField_header hHeader, Csv.rows_fields plainField_row hRow]
  rfl

/-- The text can be encoded. -/
theorem any_text : text.any isSurrogate = false := by
  have hField : ∀ f, f ∈ header ∨ f ∈ row → f.any isSurrogate = false := by
    rintro f (hf | hf)
    · rw [List.eq_of_mem_replicate hf]
      rfl
    · rw [List.eq_of_mem_replicate hf]
      refine List.any_eq_false.mpr fun c hc => ?_
      rw [eq_of_mem_cell hc]
      decide
  have hHeader : (Csv.rowText header).any isSurrogate = false :=
    any_intercalate fun f hf => hField f (Or.inl hf)
  have hRow : (Csv.rowText row).any isSurrogate = false :=
    any_intercalate fun f hf => hField f (Or.inr hf)
  rw [text, List.any_append, List.any_cons, List.any_append, hHeader, hRow]
  rfl

/-- The content starts with no byte order mark and as no known binary. -/
theorem take_wideContent : wideContent.take 3 = [0x61, 0x2C, 0x61] := by
  rfl

/-- The content is read as the text it was written from. -/
theorem decodeSig?_wideContent : decodeSig? wideContent = some text := by
  have hNot : ¬wideContent.take 3 = bomUtf8 := by
    rw [take_wideContent]
    decide
  rw [decodeSig?, if_neg hNot]
  exact decode?_eq_some.mpr (encode?_eq_some.mpr ⟨any_text, rfl⟩)

/-- What is looked at of the content ends after this many characters of the first cell. -/
def sampleCharacters : Nat := 21730

/-- The text that is looked at. -/
def sampleText : Str := Csv.rowText header ++ Csv.newline :: List.replicate sampleCharacters 0x6587

/-- The text of the sample takes 64 KiB, to the byte. -/
theorem length_sampleText : (sampleText.flatMap encodeChar).length = 64 * 1024 := by
  have hHeader : textBytes (Csv.rowText header) = 345 := by decide +kernel
  have hCharacter : charBytes 0x6587 = 3 := by decide
  have hNewline : charBytes Csv.newline = 1 := by decide
  rw [length_flatMap_encodeChar, sampleText, textBytes_append, textBytes_cons, hHeader, hNewline,
    textBytes_replicate, hCharacter, sampleCharacters]

/-- The sample of the upload's validation ends between two characters. -/
theorem csvSample_wideContent : csvSample wideContent = sampleText.flatMap encodeChar := by
  have hCell : ∃ rest, Csv.rowText row ++ [Csv.newline] =
      List.replicate sampleCharacters 0x6587 ++ rest := by
    obtain ⟨rest, hRow⟩ := rowText_row
    have hSplit : cell = List.replicate sampleCharacters 0x6587 ++
        List.replicate (reportMaxCellCharacters - sampleCharacters) 0x6587 := by
      rw [List.replicate_append_replicate, cell]
      rfl
    rw [hRow, hSplit, List.append_assoc, List.append_assoc]
    exact ⟨_, rfl⟩
  obtain ⟨rest, hRest⟩ := hCell
  have hText : text = sampleText ++ rest := by
    rw [text, hRest, sampleText, List.append_assoc, List.cons_append]
  rw [csvSample, wideContent, hText, List.flatMap_append, List.take_left' length_sampleText]

/-- The sample is made of four characters. -/
theorem mem_sampleText {c : CodePoint} (hc : c ∈ sampleText) :
    c = 0x61 ∨ c = 0x2C ∨ c = 0x0A ∨ c = 0x6587 := by
  rcases List.mem_append.mp hc with hc | hc
  · by_cases hDelimiter : c ∈ [Csv.delimiter]
    · exact Or.inr (Or.inl (List.mem_singleton.mp hDelimiter))
    · obtain ⟨f, hf, hc⟩ := (mem_intercalate hDelimiter).mp hc
      rw [List.eq_of_mem_replicate hf] at hc
      exact Or.inl (List.mem_singleton.mp hc)
  · rcases List.mem_cons.mp hc with hc | hc
    · exact Or.inr (Or.inr (Or.inl hc))
    · exact Or.inr (Or.inr (Or.inr (List.eq_of_mem_replicate hc)))

/-- The file passes the checks of its content. -/
theorem validateCsvContent_wideContent : validateCsvContent wideContent = .ok () := by
  have hStart : wideContent ≠ [] ∧ startsWithKnownBinary wideContent = false := by
    have hParts := List.take_append_drop 3 wideContent
    rw [take_wideContent] at hParts
    rw [← hParts]
    exact ⟨List.cons_ne_nil _ _, rfl⟩
  -- no byte of the sample is zero, and none of its characters is a control
  have hZero : (0 : UInt8) ∉ csvSample wideContent := by
    rw [csvSample_wideContent]
    intro h
    obtain ⟨c, hc, hByte⟩ := List.mem_flatMap.mp h
    have hNull : c.val = 0 := mem_encodeChar hByte (by decide)
    rcases mem_sampleText hc with rfl | rfl | rfl | rfl <;> exact absurd hNull (by decide)
  have hSafe : sampleText.any isSurrogate = false := by
    refine List.any_eq_false.mpr fun c hc => ?_
    rcases mem_sampleText hc with rfl | rfl | rfl | rfl <;> decide
  have hDecoded : decodeSig? (csvSample wideContent) = some sampleText := by
    have hTake : (csvSample wideContent).take 3 = [0x61, 0x2C, 0x61] := by
      rw [csvSample, List.take_take]
      exact take_wideContent
    have hNot : ¬(csvSample wideContent).take 3 = bomUtf8 := by
      rw [hTake]
      decide
    rw [decodeSig?, if_neg hNot, csvSample_wideContent]
    exact decode?_eq_some.mpr (encode?_eq_some.mpr ⟨hSafe, rfl⟩)
  have hControls : sampleText.countP (fun c => isInvalidControl c.val) = 0 := by
    refine List.countP_eq_zero.mpr fun c hc => ?_
    rcases mem_sampleText hc with rfl | rfl | rfl | rfl <;> decide
  rw [validateCsvContent, ensure_pos hStart, ok_bind, ensure_pos hZero, ok_bind, hDecoded,
    required_some, ok_bind, ensure_pos hControls]

/-- The cells of the row. -/
def cells : List (Json × ValueType) := List.replicate width (.str cell, .string)

/-- The cell is stored as the text it is. -/
theorem normalizeText_cell : normalizeText cell = .ok (.str cell, .string) := by
  -- the cell is no white space
  have hNot : (strip cell).isEmpty = false := by
    have hSpace : isSpace 0x6587 = false := by decide
    have hMem : (0x6587 : CodePoint) ∈ strip cell := by
      rw [mem_strip hSpace, cell]
      exact List.mem_replicate.mpr ⟨by decide, rfl⟩
    rw [List.isEmpty_eq_false_iff]
    exact List.ne_nil_of_mem hMem
  have hLength : cell.length ≤ reportMaxCellCharacters := length_cell.le
  have hSafe : cell.any isSurrogate = false := by
    refine List.any_eq_false.mpr fun c hc => ?_
    rw [eq_of_mem_cell hc]
    decide
  have hEncoded : (encode? cell).isSome = true := by
    rw [encode?, hSafe]
    rfl
  rw [normalizeText, hNot]
  show (do
    ensure (cell.length ≤ reportMaxCellCharacters) _
    ensure ((encode? cell).isSome = true) _
    pure _) = _
  rw [ensure_pos hLength, ensure_pos hEncoded]
  rfl

/-- Every cell of the row is stored as a text. -/
theorem mapM_row : (row.map RawValue.str).mapM (normalizeValue report) = .ok cells := by
  rw [mapM_eq_ok, List.forall₂_map_left_iff, row, cells]
  refine List.forall₂_iff_get.mpr ⟨by rw [List.length_replicate, List.length_replicate], ?_⟩
  intro i hi hi'
  simp only [List.get_eq_getElem, List.getElem_replicate]
  exact normalizeText_cell

theorem headerText_a (firstColumn : Bool) :
    headerText report (.str (str "a")) firstColumn = .ok (some (str "a")) := by
  cases firstColumn <;> rfl

/-- The header is read, and its columns have names. -/
theorem readHeader_eq_ok : ∃ columns, buildColumns report (header.map RawValue.str) = .ok columns ∧
    SheetScan.readRow report gzip { normalizer := {} } 0 (str "data")
        (1, header.map RawValue.str) =
      .ok ⟨{}, some ⟨1, columns⟩, 0, 1⟩ := by
  have hTexts : ∀ value ∈ header.map RawValue.str, ∀ firstColumn,
      ∃ name, headerText report value firstColumn = .ok name := by
    intro value hValue firstColumn
    obtain ⟨f, hf, rfl⟩ := List.mem_map.mp hValue
    rw [List.eq_of_mem_replicate hf]
    exact ⟨_, headerText_a firstColumn⟩
  obtain ⟨columns, hColumns⟩ := exists_buildColumns hTexts
  have hEmpty : rowIsEmpty report (header.map RawValue.str) = .ok false := rfl
  -- the last name has no empty cell behind it, so nothing is trimmed
  have hTrim : trimHeader report (header.map RawValue.str) = .ok (header.map RawValue.str) := by
    have hDrop : ∀ rest, dropNulls report (.str (str "a") :: rest) = .ok (.str (str "a") :: rest) :=
      fun _ => rfl
    rw [trimHeader, header, List.map_replicate, List.reverse_replicate, width, List.replicate_succ,
      hDrop]
    show Except.ok (List.replicate 173 _).reverse = _
    rw [List.reverse_replicate]
    rfl
  have hWidth : (header.map RawValue.str).length ≤ reportMaxColumnsPerSheet := by
    rw [List.length_map, header, List.length_replicate]
    decide
  refine ⟨columns, hColumns, ?_⟩
  simp only [SheetScan.readRow, SheetScan.readHeader, bind_eq_ok, ensure_eq_ok]
  refine ⟨(), by decide, (), hWidth, false, hEmpty, ?_⟩
  simp only [Bool.false_eq_true, if_false, bind_eq_ok]
  refine ⟨_, hTrim, ?_⟩
  rw [if_neg (by decide)]
  exact bind_eq_ok.mpr ⟨columns, hColumns, rfl⟩

/-- What is used of the columns of the header. -/
structure HeaderColumn (column : ColumnProfile) : Prop where
  name_le : column.name.length ≤ 300
  name_safe : column.name.any isSurrogate = false
  sourceName : column.sourceName = some (str "a")
  index_lt : column.index < 1000
  typeCounts : column.typeCounts = fun _ => 0

/-- The columns of the header: as many as names, each with a short name. -/
theorem headerColumn {columns : List ColumnProfile}
    (h : buildColumns report (header.map RawValue.str) = .ok columns) :
    columns.length = width ∧ ∀ column ∈ columns, HeaderColumn column := by
  have hLength : columns.length = width := by
    rw [(buildColumns_eq_ok h).2, List.length_map, header, List.length_replicate]
  refine ⟨hLength, fun column hColumn => ?_⟩
  have hBuilt := (buildColumns_eq_ok h).1
  obtain ⟨i, hi⟩ := List.getElem?_of_mem hColumn
  have hLt : i < width := hLength ▸ (List.getElem?_eq_some_iff.mp hi).1
  obtain ⟨value, hValue, hNamed⟩ := (buildColumns_named h).2 i column hi
  have hEach := hBuilt.each column hColumn
  have hTake : (columns.take i).length + 1 ≤ maxsize := by
    have hLe := List.length_take_le i columns
    have hWidth : width = 173 := rfl
    have hMax : 1000 ≤ maxsize := by decide
    omega
  obtain ⟨f, hf, rfl⟩ := List.mem_map.mp (List.mem_of_getElem? hValue)
  obtain rfl := List.eq_of_mem_replicate hf
  refine ⟨(hNamed.mappable hTake).length, ?_, ?_, ?_, hEach.typeCounts_zero⟩
  · refine List.any_eq_false.mpr fun c hc => ?_
    have hClean := hEach.name_clean c hc
    simp only [isHeaderInvalid, Bool.or_eq_false_iff] at hClean
    rw [hClean.1.2]
    exact Bool.false_ne_true
  · exact (Except.ok.inj ((headerText_a _).symm.trans hNamed.header)).symm
  · rw [hBuilt.index i column hi]
    exact hLt.trans (by decide)

/-- The same value is put beside each of the others. -/
theorem zipWith_replicate_right {α β γ : Type} (f : α → β → γ) (b : β) {n : Nat} {as : List α}
    (h : as.length = n) : as.zipWith f (List.replicate n b) = as.map fun a => f a b := by
  subst h
  induction as with
  | nil => rfl
  | cons a as ih => rw [List.length_cons, List.replicate_succ, List.zipWith_cons_cons, ih, List.map_cons]

/-- The record of the row, in some columns. -/
def payload (columns : List ColumnProfile) : Json :=
  recordPayload 0 (str "data") 2 (columns.map fun column => (column.name, .str cell))

/-- The bytes of the cell's literal: three for each character, and two quotes. -/
theorem stringBytes_cell : stringBytes cell = 98303 := by
  have hCharacter : escapedBytes 0x6587 = 3 := by decide
  rw [cell, stringBytes_replicate, hCharacter, reportMaxCellCharacters]

/-- The line of the record is longer than what is read, and much shorter than what is written. -/
theorem exists_line {columns : List ColumnProfile}
    (h : buildColumns report (header.map RawValue.str) = .ok columns) :
    ∃ line, jsonLine report (payload columns) = some line ∧
      dashboardMaxNormalizedLineBytes < line.length ∧ line.length ≤ reportMaxNormalizedBytes := by
  obtain ⟨hLength, hEach⟩ := headerColumn h
  have hWritten : isWritten (payload columns) = true := by
    have hCell : cell.any isSurrogate = false := by
      refine List.any_eq_false.mpr fun c hc => ?_
      rw [eq_of_mem_cell hc]
      decide
    have hValues : membersWritten (columns.map fun column => (column.name, Json.str cell)) = true := by
      rw [membersWritten_eq_all, List.all_map, List.all_eq_true]
      intro column hColumn
      show (!column.name.any isSurrogate && !cell.any isSurrogate) = true
      rw [(hEach column hColumn).name_safe, hCell]
      rfl
    rw [payload, recordPayload]
    simp only [isWritten, membersWritten, hValues]
    decide
  have hFloat : ∀ x, (report.floatRepr x).any isSurrogate = false := fun _ => rfl
  obtain ⟨line, hLine⟩ := @exists_jsonLine report _ hFloat hWritten
  -- each member takes the bytes of its cell and at most 1896 more
  have hBytes : ∀ n ∈ columns.map fun column => stringBytes column.name + 1 + stringBytes cell,
      98304 ≤ n ∧ n ≤ 100200 := by
    intro n hn
    obtain ⟨column, hColumn, rfl⟩ := List.mem_map.mp hn
    have hName := (hEach column hColumn).name_le
    have hBounds := stringBytes_bounds column.name
    rw [stringBytes_cell]
    omega
  have hLow := List.card_nsmul_le_sum _ 98304 fun n hn => (hBytes n hn).1
  have hHigh := List.sum_le_card_nsmul _ 100200 fun n hn => (hBytes n hn).2
  rw [List.length_map, hLength, smul_eq_mul] at hLow hHigh
  have hSize := length_jsonLine_eq hLine
  -- the line is the sum over the columns, and the few bytes around them
  have hMembers : memberBytes report.floatRepr (columns.map fun column => (column.name, Json.str cell)) =
      (columns.map fun column => stringBytes column.name + 1 + stringBytes cell).sum := by
    rw [memberBytes_eq_sum, List.map_map]
    rfl
  rw [payload, valueBytes_recordPayload, hMembers, List.length_map, hLength] at hSize
  have hWidth : width = 173 := rfl
  have hRead : dashboardMaxNormalizedLineBytes = 16777216 := rfl
  have hWrite : reportMaxNormalizedBytes = 52428800 := rfl
  have hIndex : (intText ((0 : Nat) : Int)).length = 1 := by decide
  have hRow : (intText ((2 : Nat) : Int)).length = 1 := by decide
  have hName : stringBytes (str "data") = 6 := by decide
  refine ⟨line, hLine, ?_, ?_⟩
  · omega
  · omega

/-- The columns after the row. -/
def observed (columns : List ColumnProfile) : List ColumnProfile :=
  columns.map fun column => column.observe .string

/-- What is parsed of the file. -/
def parsed (columns : List ColumnProfile) (line : List UInt8) : ReportNormalizer where
  writer := ⟨[line], line.length⟩
  sheets := [⟨0, str "data", 1, 1, observed columns⟩]
  recordCount := 1
  totalCells := width

/-- The row is stored as one record, if its line is short enough for the writer. -/
theorem readRecord_eq_ok {columns : List ColumnProfile}
    (h : buildColumns report (header.map RawValue.str) = .ok columns) {line : List UInt8}
    (hLine : jsonLine report (payload columns) = some line)
    (hLength : line.length ≤ reportMaxNormalizedBytes) :
    SheetScan.readRow report gzip ⟨{}, some ⟨1, columns⟩, 0, 1⟩ 0 (str "data")
        (2, row.map RawValue.str) =
      .ok ⟨⟨⟨[line], line.length⟩, [], 1, width⟩, some ⟨1, observed columns⟩, 1, 2⟩ := by
  have hColumns := (headerColumn h).1
  have hWidth : (row.map RawValue.str).length ≤ reportMaxColumnsPerSheet := by
    rw [List.length_map, row, List.length_replicate]
    decide
  have hCells : cells.length = width := List.length_replicate
  have hExtra : cells.drop width = [] := List.drop_eq_nil_of_le hCells.le
  have hPad : padCells width cells = cells := by
    rw [padCells, List.take_of_length_le hCells.le, hCells, Nat.sub_self]
    exact List.append_nil _
  have hSome : ¬(cells.all fun cell => cell.1.isNull) = true := by
    rw [cells, width, List.replicate_succ, List.all_cons]
    exact Bool.false_ne_true
  have hObserved : columns.zipWith (fun column cell => column.observe cell.2) cells =
      observed columns := zipWith_replicate_right _ _ hColumns
  have hValues : columns.zipWith (fun column cell => (column.name, cell.1)) cells =
      columns.map fun column => (column.name, Json.str cell) := zipWith_replicate_right _ _ hColumns
  have hSize : line.length ≤ reportMaxNormalizedUncompressedBytes := hLength.trans (by decide)
  -- the limit of the writer is on the whole file, and the line is within it
  have hWrite : BoundedJsonlWriter.write report gzip {} (payload columns) =
      .ok ⟨[line], line.length⟩ := by
    simp only [BoundedJsonlWriter.write, bind_eq_ok, required_eq_ok, ensure_eq_ok]
    refine ⟨line, hLine, (), (Nat.zero_add _).le.trans hSize, (), ?_, ?_⟩
    · show ([line].flatten).length ≤ _
      rw [List.flatten_singleton]
      exact hLength
    · rw [Nat.zero_add]
      rfl
  simp only [SheetScan.readRow, SheetScan.readRecord, bind_eq_ok, ensure_eq_ok, hColumns]
  refine ⟨(), by decide, (), hWidth, cells, mapM_row, (), ?_, ?_⟩
  · rw [hExtra]
    rfl
  rw [hPad, if_neg hSome, hObserved, hValues]
  simp only [bind_eq_ok, ensure_eq_ok]
  exact ⟨(), by decide, (), by decide, _, hWrite, rfl⟩

/-- The report is stored, row by row. -/
theorem normalizeReport_wideContent {columns : List ColumnProfile}
    (h : buildColumns report (header.map RawValue.str) = .ok columns)
    (hHeader : SheetScan.readRow report gzip { normalizer := {} } 0 (str "data")
      (1, header.map RawValue.str) = .ok ⟨{}, some ⟨1, columns⟩, 0, 1⟩)
    {line : List UInt8} (hLine : jsonLine report (payload columns) = some line)
    (hLength : line.length ≤ reportMaxNormalizedBytes) :
    normalizeReport report gzip workbooks context wideContent = .ok (parsed columns line) := by
  have hStream : csvStream text =
      { rows := [(1, header.map RawValue.str), (2, row.map RawValue.str)] } := by
    rw [csvStream, rows_text]
    rfl
  have hCsv : context.fileExtension = str "csv" := rfl
  rw [normalizeReport, if_pos hCsv, parseCsv, decodeSig?_wideContent, required_some, ok_bind, hStream]
  rw [ReportNormalizer.addSheet, ensure_pos (by decide), ok_bind, List.foldlM_cons, hHeader, ok_bind,
    List.foldlM_cons, readRecord_eq_ok h hLine hLength, ok_bind]
  rfl

/-- A column of the profile. -/
theorem render_observe {column : ColumnProfile} (h : HeaderColumn column) :
    (column.observe .string).render =
      .obj [(str "index", .int column.index), (str "name", .str column.name),
        (str "source_name", .str (str "a")), (str "generated", .bool column.generated),
        (str "null_count", .int 0), (str "non_null_count", .int 1),
        (str "type_counts", .obj [(str "string", .int 1)])] := by
  obtain ⟨index, name, sourceName, generated, typeCounts⟩ := column
  obtain rfl : typeCounts = fun _ => 0 := h.typeCounts
  obtain rfl : sourceName = some (str "a") := h.sourceName
  rfl

/-- The profile of a column takes at most 2000 bytes. -/
theorem render_bounds {column : ColumnProfile} (h : HeaderColumn column) :
    isWritten (column.observe .string).render = true ∧
      valueBytes report.floatRepr (column.observe .string).render ≤ 2000 := by
  have hIndex : (natText column.index).length ≤ 3 := length_natText_le (by decide) h.index_lt
  have hDigits : (natText column.index).length ≤ maxStrDigits := hIndex.trans (by decide)
  have hText : (intText (column.index : Int)).length ≤ 3 := by
    rw [intText, if_neg (by omega)]
    exact hIndex
  have hName := (stringBytes_bounds column.name).2
  have hLe := h.name_le
  rw [render_observe h]
  constructor
  · simp only [isWritten, membersWritten, h.name_safe, Int.natAbs_natCast, hDigits, decide_true]
    decide
  · have hGenerated : (if column.generated = true then 4 else 5) ≤ 5 := by split <;> omega
    -- the keys of a column's profile, counted
    have hKeys : stringBytes (str "index") = 7 ∧ stringBytes (str "name") = 6 ∧
        stringBytes (str "source_name") = 13 ∧ stringBytes (str "generated") = 11 ∧
        stringBytes (str "null_count") = 12 ∧ stringBytes (str "non_null_count") = 16 ∧
        stringBytes (str "type_counts") = 13 ∧ stringBytes (str "string") = 8 ∧
        stringBytes (str "a") = 3 ∧ (intText 0).length = 1 ∧ (intText 1).length = 1 := by
      decide
    obtain ⟨h1, h2, h3, h4, h5, h6, h7, h8, h9, h10, h11⟩ := hKeys
    simp only [valueBytes, memberBytes, h1, h2, h3, h4, h5, h6, h7, h8, h9, h10, h11,
      List.length_cons, List.length_nil]
    omega

/-- The members of the profile before its sheets. -/
def summary : Dict :=
  [(str "format", .str (str "spike.report-profile")), (str "version", .int reportArtifactFormatVersion),
    (str "job_id", .str (uuidText context.jobId)),
    (str "business_id", .str (uuidText context.businessId)),
    (str "source", .obj [(str "report_upload_id", .str (uuidText context.reportUploadId)),
      (str "filename", .str context.originalFilename),
      (str "extension", .str context.fileExtension),
      (str "content_type", .str context.contentType)]),
    (str "normalized", .obj [(str "format", .str (str "jsonl")),
      (str "compression", .str (str "gzip")), (str "sha256", .str digest)]),
    (str "record_count", .int 1), (str "sheet_count", .int 1)]

/-- The sheet of the profile. -/
def sheet (columns : List ColumnProfile) : Dict :=
  [(str "index", .int 0), (str "name", .str (str "data")), (str "header_row_number", .int 1),
    (str "record_count", .int 1),
    (str "columns", .arr ((observed columns).map ColumnProfile.render))]

theorem reportProfile_parsed (columns : List ColumnProfile) (line : List UInt8) :
    reportProfile context (parsed columns line) digest =
      summary ++ [(str "sheets", .arr [.obj (sheet columns)])] := rfl

/-- The profile is short enough to be stored. -/
theorem exists_profile {columns : List ColumnProfile}
    (h : buildColumns report (header.map RawValue.str) = .ok columns) (line : List UInt8) :
    ∃ profile, jsonLine report
        (Json.obj (reportProfile context (parsed columns line) digest)).sortKeys = some profile ∧
      profile.length ≤ reportMaxProfileBytes := by
  obtain ⟨hLength, hEach⟩ := headerColumn h
  have hRendered : ∀ v ∈ (observed columns).map ColumnProfile.render,
      isWritten v = true ∧ valueBytes report.floatRepr v ≤ 2000 := by
    intro v hv
    obtain ⟨observed, hObserved, rfl⟩ := List.mem_map.mp hv
    obtain ⟨column, hColumn, rfl⟩ := List.mem_map.mp hObserved
    exact render_bounds (hEach column hColumn)
  have hCount : ((observed columns).map ColumnProfile.render).length = width := by
    rw [List.length_map, observed, List.length_map, hLength]
  -- the columns are within a bound of their own, and the rest is fixed
  have hColumns : itemsWritten ((observed columns).map ColumnProfile.render) = true := by
    rw [itemsWritten_eq_all, List.all_eq_true]
    exact fun v hv => (hRendered v hv).1
  have hBytes : itemBytes report.floatRepr ((observed columns).map ColumnProfile.render) ≤
      width * 2000 := by
    have hSum := List.sum_le_card_nsmul
      (((observed columns).map ColumnProfile.render).map (valueBytes report.floatRepr)) 2000 (by
        intro n hn
        obtain ⟨v, hv, rfl⟩ := List.mem_map.mp hn
        exact (hRendered v hv).2)
    rw [List.length_map, hCount, smul_eq_mul, ← itemBytes_eq_sum] at hSum
    exact hSum
  have hSummary : membersWritten summary = true ∧ memberBytes report.floatRepr summary ≤ 1000 ∧
      summary.length = 8 := by
    decide +kernel
  have hFloat : ∀ x, (report.floatRepr x).any isSurrogate = false := fun _ => rfl
  have hWritten : isWritten (Json.obj (reportProfile context (parsed columns line) digest)) = true := by
    rw [reportProfile_parsed, isWritten, membersWritten_eq_all, List.all_append,
      ← membersWritten_eq_all, hSummary.1, ← membersWritten_eq_all]
    simp only [membersWritten, isWritten, itemsWritten, sheet, hColumns]
    decide
  rw [← isWritten_sortKeys] at hWritten
  obtain ⟨profile, hProfile⟩ := @exists_jsonLine report _ hFloat hWritten
  refine ⟨profile, hProfile, ?_⟩
  have hSize := length_jsonLine_eq hProfile
  rw [valueBytes_sortKeys, reportProfile_parsed, valueBytes, memberBytes_eq_sum, List.map_append,
    List.sum_append, ← memberBytes_eq_sum, ← memberBytes_eq_sum, List.length_append, hSummary.2.2] at hSize
  have hKeys : stringBytes (str "sheets") = 8 ∧ stringBytes (str "index") = 7 ∧
      stringBytes (str "name") = 6 ∧ stringBytes (str "header_row_number") = 19 ∧
      stringBytes (str "record_count") = 14 ∧ stringBytes (str "columns") = 9 ∧
      stringBytes (str "data") = 6 ∧ (intText 0).length = 1 ∧ (intText 1).length = 1 := by
    decide
  obtain ⟨h1, h2, h3, h4, h5, h6, h7, h8, h9⟩ := hKeys
  simp only [memberBytes, valueBytes, itemBytes, sheet, h1, h2, h3, h4, h5, h6, h7, h8, h9, hCount,
    List.length_cons, List.length_nil] at hSize
  have hFixed := hSummary.2.1
  have hWidth : width = 173 := rfl
  have hMax : reportMaxProfileBytes = 2097152 := rfl
  omega

/-- The file is processed. -/
theorem parseReportContent_wideContent : ∃ artifacts line,
    parseReportContent report gzip workbooks (fun _ => digest) context wideContent = .ok artifacts ∧
      artifacts.normalizedContent = line ∧ streamLines line = [line] ∧
        dashboardMaxNormalizedLineBytes < line.length := by
  obtain ⟨columns, hColumns, hHeader⟩ := readHeader_eq_ok
  obtain ⟨line, hLine, hLong, hLength⟩ := exists_line hColumns
  obtain ⟨profile, hProfile, hSize⟩ := exists_profile hColumns line
  have hContent : gzip.getvalue (parsed columns line).writer.lines = line := List.flatten_singleton
  have hFinish : (parsed columns line).finish gzip = .ok line := by
    have hSheets : (parsed columns line).sheets ≠ [] := List.cons_ne_nil _ _
    rw [ReportNormalizer.finish, ensure_pos hSheets, ok_bind, BoundedJsonlWriter.finish, hContent,
      ensure_pos hLength]
    rfl
  refine ⟨⟨line, digest, profile, digest, 1, 1⟩, line, ?_, rfl, ?_, hLong⟩
  · rw [parseReportContent, normalizeReport_wideContent hColumns hHeader hLine hLength, ok_bind, hFinish,
      ok_bind]
    show (do
      let profileContent ← required (jsonLine report
        (Json.obj (reportProfile context (parsed columns line) digest)).sortKeys) _
      ensure (profileContent.length ≤ reportMaxProfileBytes) _
      pure _) = _
    rw [hProfile, required_some, ok_bind, ensure_pos hSize]
    rfl
  · -- the one line of the file is the line of the record
    obtain ⟨body, hBody, hFeed, -⟩ := jsonLine_body hLine
    have hLines : ∀ l ∈ [line], ∃ body, l = body ++ [0x0A] ∧ 0x0A ∉ body := by
      intro l hl
      rw [List.mem_singleton.mp hl]
      exact ⟨body, hBody, hFeed⟩
    have hStream := streamLines_flatten hLines
    rw [List.flatten_singleton] at hStream
    exact hStream

end LineLimitSample

open RoundTripSample LineLimitSample in
/-- **A report that cannot be read.** A row of 173 texts of 32,767 characters, of three bytes each,
passes the checks of its content and is processed; its line is too long for every reader. -/
theorem wide_row_unreadable : validateCsvContent wideContent = .ok () ∧ ∃ artifacts line,
    parseReportContent report gzip workbooks (fun _ => digest) context wideContent = .ok artifacts ∧
      line ∈ streamLines artifacts.normalizedContent ∧
      dashboardMaxNormalizedLineBytes < line.length ∧
      ∀ (lib : StandardLibrary) (ctx : Context) (art : ArtifactLibrary) (job : SourceJob)
        (profile : Dict), art.gzip = gzip → ∀ result,
          aggregateNormalized lib ctx art job profile artifacts.normalizedContent ≠ .ok result := by
  refine ⟨validateCsvContent_wideContent, ?_⟩
  obtain ⟨artifacts, line, hParse, rfl, hStream, hLong⟩ := parseReportContent_wideContent
  have hMem : artifacts.normalizedContent ∈ streamLines artifacts.normalizedContent := by
    rw [hStream]
    exact List.mem_singleton.mpr rfl
  refine ⟨artifacts, _, hParse, hMem, hLong, ?_⟩
  intro lib ctx art job profile hGzip result hResult
  obtain ⟨stream, hRead, hShort⟩ := aggregateNormalized_short hResult
  rw [hGzip] at hRead
  obtain rfl := Option.some.inj hRead
  exact absurd (hShort _ hMem) (Nat.not_le.mpr hLong)

end SpikeBackend
