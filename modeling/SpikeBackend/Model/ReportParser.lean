import SpikeBackend.Lib.Csv
import SpikeBackend.Lib.JsonText
import SpikeBackend.Lib.Outcome
import SpikeBackend.Model.Subscriptions
import SpikeBackend.Model.Uploads

/-!
# Parsing reports

`app/services/report_parser.py`: the cells of a sheet, its header, the records that are written
as lines of JSON, and the profile that goes with them. The rows of a sheet are read one by one,
so that what ends them early is raised after the rows that came before.
-/

namespace SpikeBackend

open Text Outcome

def reportArtifactFormatVersion : Int := 1

def reportMaxSheets : Nat := 20

def reportMaxRowsPerSheet : Nat := 100000

def reportMaxColumnsPerSheet : Nat := 256

def reportMaxTotalCells : Nat := 2000000

def reportMaxLeadingEmptyRows : Nat := 100

def reportMaxScannedRowsPerSheet : Nat := reportMaxRowsPerSheet + reportMaxLeadingEmptyRows + 1

def reportMaxCellCharacters : Nat := 32767

def reportMaxHeaderCharacters : Nat := 255

def reportMaxXlsxUncompressedBytes : Nat := 128 * 1024 * 1024

def reportMaxXlsxSharedStringsBytes : Nat := 32 * 1024 * 1024

def reportMaxXlsxStylesBytes : Nat := 8 * 1024 * 1024

def reportMaxNormalizedUncompressedBytes : Nat := 100 * 1024 * 1024

def reportMaxNormalizedBytes : Nat := 50 * 1024 * 1024

def reportMaxProfileBytes : Nat := 2 * 1024 * 1024

/-- A `ReportParsingError`. -/
structure ReportParsingError where
  code : Str
  deriving DecidableEq

-- ---------------------------------------------------------------------------
-- Libraries
-- ---------------------------------------------------------------------------

/-- The characters that casefolding has to leave alone: the digits and the underscore. -/
def isSuffixChar (c : CodePoint) : Bool := (0x30 ≤ c.val && c.val ≤ 0x39) || c.val == 0x5F

/-- What the parser calls of the standard library: `float.__repr__`, `float` of a `Decimal` that
is no integer (`none` where it is not finite), the normal form NFC, and the case folding of a
character. -/
structure ReportLibrary where
  floatRepr : ℚ → Str
  floatOfDecimal : ℚ → Option ℚ
  nfc : Str → Str
  casefoldChar : CodePoint → Str
  casefoldChar_suffix : ∀ c, isSuffixChar c = true → casefoldChar c = [c]
  lineFeed_not_mem_floatRepr : ∀ x, lineFeed ∉ floatRepr x

/-- `str.casefold`. -/
def ReportLibrary.casefold (lib : ReportLibrary) (s : Str) : Str := s.flatMap lib.casefoldChar

/-- `unicodedata.category(c) == "Cc"`. -/
def isControl (c : CodePoint) : Bool := c.val < 0x20 || (0x7F ≤ c.val && c.val < 0xA0)

/-- The ranges of the category `Cf`. -/
def formatRanges : List (Nat × Nat) :=
  [(0xAD, 0xAD), (0x600, 0x605), (0x61C, 0x61C), (0x6DD, 0x6DD), (0x70F, 0x70F), (0x890, 0x891),
    (0x8E2, 0x8E2), (0x180E, 0x180E), (0x200B, 0x200F), (0x202A, 0x202E), (0x2060, 0x2064),
    (0x2066, 0x206F), (0xFEFF, 0xFEFF), (0xFFF9, 0xFFFB), (0x110BD, 0x110BD), (0x110CD, 0x110CD),
    (0x13430, 0x1343F), (0x1BCA0, 0x1BCA3), (0x1D173, 0x1D17A), (0xE0001, 0xE0001),
    (0xE0020, 0xE007F)]

/-- `unicodedata.category(c) in {"Cc", "Cf", "Cs"}`. -/
def isHeaderInvalid (c : CodePoint) : Bool :=
  isControl c || isSurrogate c || formatRanges.any fun r => r.1 ≤ c.val && c.val ≤ r.2

/-- The `gzip.GzipFile` of a buffer: where the buffer stands after some writes, what it holds
after the last one, and what reading it gives. -/
structure GzipLibrary where
  tell : List (List UInt8) → Nat
  getvalue : List (List UInt8) → List UInt8
  read : List UInt8 → Option (List UInt8)

-- ---------------------------------------------------------------------------
-- Cells
-- ---------------------------------------------------------------------------

/-- A cell as the reader of a format gives it: dates and times by their `isoformat()`, what is
none of the known types by its `str()`, and numbers that are not finite as `none`. -/
inductive RawValue
  | none
  | bool (value : Bool)
  | int (value : Int)
  | decimal (value : Option ℚ)
  | float (value : Option ℚ)
  | datetime (isoformat : Str)
  | date (isoformat : Str)
  | time (isoformat : Str)
  | bytes (content : List UInt8)
  | str (value : Str)
  | other (text : Str)

/-- The type names of a profile. -/
inductive ValueType
  | null
  | boolean
  | integer
  | number
  | date
  | datetime
  | time
  | string
  deriving DecidableEq, Repr

def ValueType.value : ValueType → Str
  | null => str "null"
  | boolean => str "boolean"
  | integer => str "integer"
  | number => str "number"
  | date => str "date"
  | datetime => str "datetime"
  | time => str "time"
  | string => str "string"

/-- `_VALUE_TYPE_ORDER`. -/
def valueTypeOrder : List ValueType :=
  [.null, .boolean, .integer, .number, .date, .datetime, .time, .string]

/-- The end of `_normalize_value`, for a text. -/
def normalizeText (s : Str) : Except ReportParsingError (Json × ValueType) := do
  if (strip s).isEmpty then pure (.null, .null)
  else
    ensure (s.length ≤ reportMaxCellCharacters) ⟨str "cell_text_limit_exceeded"⟩
    ensure ((encode? s).isSome = true) ⟨str "cell_text_invalid"⟩
    pure (.str s, .string)

variable (lib : ReportLibrary)

/-- `_normalize_value`. -/
def normalizeValue : RawValue → Except ReportParsingError (Json × ValueType)
  | .none => pure (.null, .null)
  | .bool b => pure (.bool b, .boolean)
  | .int n => pure (.int n, .integer)
  | .decimal value => do
    let value ← required value ⟨str "non_finite_number"⟩
    if value = value.floor then pure (.int value.floor, .integer)
    else
      let normalized ← required (lib.floatOfDecimal value) ⟨str "non_finite_number"⟩
      pure (.float normalized, .number)
  | .float value => do
    let value ← required value ⟨str "non_finite_number"⟩
    if value = value.floor then pure (.int value.floor, .integer)
    else pure (.float value, .number)
  | .datetime isoformat => pure (.str isoformat, .datetime)
  | .date isoformat => pure (.str isoformat, .date)
  | .time isoformat => pure (.str isoformat, .time)
  | .bytes content => do
    let s ← required (decode? content) ⟨str "cell_text_invalid"⟩
    normalizeText s
  | .str s => normalizeText s
  | .other s => normalizeText s

/-- `str(normalized)`. -/
def normalizedText : Json → Str
  | .bool b => str (if b then "True" else "False")
  | .int n => intText n
  | .float x => lib.floatRepr x
  | .str s => s
  | _ => []

/-- `"\ufeff"`. -/
def byteOrderMark : CodePoint := 0xFEFF

/-- `text.removeprefix("\ufeff")`, in the first column. -/
def withoutMark (firstColumn : Bool) (text : Str) : Str :=
  if firstColumn = true ∧ text.head? = some byteOrderMark then text.tail else text

/-- `_header_text`. -/
def headerText (value : RawValue) (firstColumn : Bool) : Except ReportParsingError (Option Str) := do
  let (normalized, _) ← normalizeValue lib value
  if normalized.isNull then pure none
  else
    let text := withoutMark firstColumn (normalizedText lib normalized)
    let text := strip (lib.nfc (joinWords (splitWords [] text)))
    if text.isEmpty then pure none
    else
      ensure (text.length ≤ reportMaxHeaderCharacters) ⟨str "header_text_limit_exceeded"⟩
      ensure (text.any isHeaderInvalid = false) ⟨str "header_text_invalid"⟩
      pure (some text)

-- ---------------------------------------------------------------------------
-- Columns
-- ---------------------------------------------------------------------------

/-- `_ColumnProfile`. -/
structure ColumnProfile where
  index : Nat
  name : Str
  sourceName : Option Str
  generated : Bool
  typeCounts : ValueType → Nat := fun _ => 0

namespace ColumnProfile

variable (column : ColumnProfile)

def observe (valueType : ValueType) : ColumnProfile :=
  { column with
    typeCounts := Function.update column.typeCounts valueType (column.typeCounts valueType + 1) }

/-- `sum(self.type_counts.values())`. -/
def totalCount : Nat := (valueTypeOrder.map column.typeCounts).sum

def render : Json :=
  .obj [(str "index", .int column.index), (str "name", .str column.name),
    (str "source_name", .ofStr? column.sourceName), (str "generated", .bool column.generated),
    (str "null_count", .int (column.typeCounts .null)),
    (str "non_null_count", .int (column.totalCount - column.typeCounts .null)),
    (str "type_counts", .obj ((valueTypeOrder.filter fun t => column.typeCounts t != 0).map
      fun t => (t.value, .int (column.typeCounts t))))]

end ColumnProfile

/-- The candidate that the loop of `_build_columns` tries after `tries` others. -/
def nameCandidate (baseName : Str) (tries : Nat) : Str :=
  if tries = 0 then baseName else baseName ++ str "__" ++ natText (tries + 1)

/-- The loop of `_build_columns`: the first candidate whose folded name is not used, out of
`fuel` more; one of as many candidates as there are names is not, and one more is tried. -/
def uniqueName (usedNames : List Str) (baseName : Str) : Nat → Nat → Str
  | 0, tries => nameCandidate baseName tries
  | fuel + 1, tries =>
    if lib.casefold (nameCandidate baseName tries) ∈ usedNames then
      uniqueName usedNames baseName fuel (tries + 1)
    else nameCandidate baseName tries

/-- A column of `_build_columns`, after the columns before it. -/
def buildColumn (columns : List ColumnProfile) (value : RawValue) :
    Except ReportParsingError (List ColumnProfile) := do
  let index := columns.length
  let sourceName ← headerText lib value (decide (index = 0))
  let baseName := sourceName.getD (str "column_" ++ natText (index + 1))
  let usedNames := columns.map fun column => lib.casefold column.name
  pure (columns ++
    [⟨index, uniqueName lib usedNames baseName index 0, sourceName, sourceName.isNone, fun _ => 0⟩])

/-- `_build_columns`. -/
def buildColumns (headerValues : List RawValue) : Except ReportParsingError (List ColumnProfile) :=
  headerValues.foldlM (buildColumn lib) []

/-- `_row_is_empty`. -/
def rowIsEmpty : List RawValue → Except ReportParsingError Bool
  | [] => pure true
  | value :: values => do
    let (normalized, _) ← normalizeValue lib value
    if normalized.isNull then rowIsEmpty values else pure false

/-- The values from the first on that is not null. -/
def dropNulls : List RawValue → Except ReportParsingError (List RawValue)
  | [] => pure []
  | value :: values => do
    let (normalized, _) ← normalizeValue lib value
    if normalized.isNull then dropNulls values else pure (value :: values)

/-- `trimmed_header`. -/
def trimHeader (values : List RawValue) : Except ReportParsingError (List RawValue) := do
  let reversed ← dropNulls lib values.reverse
  pure reversed.reverse

-- ---------------------------------------------------------------------------
-- Lines
-- ---------------------------------------------------------------------------

/-- `json.dumps(payload, …).encode("utf-8")`; `none` is one of the errors that are caught. -/
def jsonBytes (payload : Json) : Option (List UInt8) :=
  if payload.writable = true then encode? (jsonText lib.floatRepr payload) else none

/-- `_BoundedJsonlWriter`: the lines that are written. -/
structure BoundedJsonlWriter where
  lines : List (List UInt8) := []
  uncompressedBytes : Nat := 0

/-- The line of a payload. -/
def jsonLine (payload : Json) : Option (List UInt8) :=
  (jsonBytes lib payload).map fun encoded => encoded ++ [0x0A]

variable (gz : GzipLibrary)

/-- `_BoundedJsonlWriter.write`. -/
def BoundedJsonlWriter.write (writer : BoundedJsonlWriter) (payload : Json) :
    Except ReportParsingError BoundedJsonlWriter := do
  let encoded ← required (jsonLine lib payload) ⟨str "cell_value_invalid"⟩
  let nextSize := writer.uncompressedBytes + encoded.length
  ensure (nextSize ≤ reportMaxNormalizedUncompressedBytes) ⟨str "normalized_output_limit_exceeded"⟩
  let lines := writer.lines ++ [encoded]
  ensure (gz.tell lines ≤ reportMaxNormalizedBytes) ⟨str "normalized_output_limit_exceeded"⟩
  pure ⟨lines, nextSize⟩

/-- `_BoundedJsonlWriter.finish`. -/
def BoundedJsonlWriter.finish (writer : BoundedJsonlWriter) :
    Except ReportParsingError (List UInt8) := do
  let content := gz.getvalue writer.lines
  ensure (content.length ≤ reportMaxNormalizedBytes) ⟨str "normalized_output_limit_exceeded"⟩
  pure content

-- ---------------------------------------------------------------------------
-- Sheets
-- ---------------------------------------------------------------------------

/-- The rows that a reader yields, with their numbers, and the error that ends them, if any. -/
structure RowStream where
  rows : List (Nat × List RawValue)
  failure : Option ReportParsingError := none

/-- An entry of `sheets`, before its columns are rendered. -/
structure SheetProfile where
  index : Nat
  name : Str
  headerRowNumber : Nat
  recordCount : Nat
  columns : List ColumnProfile

def SheetProfile.render (sheet : SheetProfile) : Json :=
  .obj [(str "index", .int sheet.index), (str "name", .str sheet.name),
    (str "header_row_number", .int sheet.headerRowNumber),
    (str "record_count", .int sheet.recordCount),
    (str "columns", .arr (sheet.columns.map ColumnProfile.render))]

/-- `_ReportNormalizer`. -/
structure ReportNormalizer where
  writer : BoundedJsonlWriter := {}
  sheets : List SheetProfile := []
  recordCount : Nat := 0
  totalCells : Nat := 0

/-- The header of a sheet: its row and its columns. -/
structure SheetHeader where
  rowNumber : Nat
  columns : List ColumnProfile

/-- What the loop of `add_sheet` holds: the normalizer and its own variables. -/
structure SheetScan where
  normalizer : ReportNormalizer
  header : Option SheetHeader := none
  sheetRecordCount : Nat := 0
  scannedRows : Nat := 0

/-- A record, as it is written. -/
def recordPayload (sheetIndex : Nat) (sheetName : Str) (rowNumber : Nat) (values : Dict) : Json :=
  .obj [(str "sheet_index", .int sheetIndex), (str "sheet_name", .str sheetName),
    (str "row_number", .int rowNumber), (str "values", .obj values)]

/-- The normalized cells of a row in `width` columns. -/
def padCells (width : Nat) (cells : List (Json × ValueType)) : List (Json × ValueType) :=
  cells.take width ++ List.replicate (width - cells.length) (.null, .null)

namespace SheetScan

variable (scan : SheetScan)

/-- The body of the loop before the header is found. -/
def readHeader (rowNumber : Nat) (rawValues : List RawValue) :
    Except ReportParsingError SheetScan := do
  let scan := { scan with scannedRows := scan.scannedRows + 1 }
  if ← rowIsEmpty lib rawValues then
    ensure (scan.scannedRows ≤ reportMaxLeadingEmptyRows) ⟨str "header_not_found"⟩
    pure scan
  else
    let trimmedHeader ← trimHeader lib rawValues
    if trimmedHeader.isEmpty then pure scan
    else
      let columns ← buildColumns lib trimmedHeader
      pure { scan with header := some ⟨rowNumber, columns⟩ }

/-- The body of the loop after the header. -/
def readRecord (sheetIndex : Nat) (sheetName : Str) (header : SheetHeader) (rowNumber : Nat)
    (rawValues : List RawValue) : Except ReportParsingError SheetScan := do
  let scan := { scan with scannedRows := scan.scannedRows + 1 }
  let width := header.columns.length
  let normalizedValues ← rawValues.mapM (normalizeValue lib)
  ensure (((normalizedValues.drop width).all fun cell => cell.1.isNull) = true)
    ⟨str "row_width_exceeded"⟩
  let cells := padCells width normalizedValues
  if cells.all fun cell => cell.1.isNull then pure scan
  else
    ensure (scan.sheetRecordCount < reportMaxRowsPerSheet) ⟨str "row_limit_exceeded"⟩
    let nextTotalCells := scan.normalizer.totalCells + width
    ensure (nextTotalCells ≤ reportMaxTotalCells) ⟨str "cell_limit_exceeded"⟩
    let columns := header.columns.zipWith (fun column cell => column.observe cell.2) cells
    let values := header.columns.zipWith (fun column cell => (column.name, cell.1)) cells
    let writer ← scan.normalizer.writer.write lib gz
      (recordPayload sheetIndex sheetName rowNumber values)
    pure { scan with
      normalizer := { scan.normalizer with
        writer := writer
        recordCount := scan.normalizer.recordCount + 1
        totalCells := nextTotalCells }
      header := some { header with columns := columns }
      sheetRecordCount := scan.sheetRecordCount + 1 }

/-- The body of the loop of `add_sheet`. -/
def readRow (sheetIndex : Nat) (sheetName : Str) (row : Nat × List RawValue) :
    Except ReportParsingError SheetScan := do
  ensure (scan.scannedRows + 1 ≤ reportMaxScannedRowsPerSheet) ⟨str "row_limit_exceeded"⟩
  ensure (row.2.length ≤ reportMaxColumnsPerSheet) ⟨str "column_limit_exceeded"⟩
  match scan.header with
  | none => scan.readHeader lib row.1 row.2
  | some header => scan.readRecord lib gz sheetIndex sheetName header row.1 row.2

end SheetScan

namespace ReportNormalizer

variable (normalizer : ReportNormalizer)

/-- `add_sheet`. -/
def addSheet (sheetIndex : Nat) (sheetName : Str) (stream : RowStream) :
    Except ReportParsingError ReportNormalizer := do
  ensure (normalizer.sheets.length < reportMaxSheets) ⟨str "sheet_limit_exceeded"⟩
  let scan ← stream.rows.foldlM
    (fun scan row => SheetScan.readRow lib gz scan sheetIndex sheetName row)
    { normalizer := normalizer }
  match stream.failure with
  | some failure => throw failure
  | none =>
    match scan.header with
    | none => pure scan.normalizer
    | some header => pure { scan.normalizer with
        sheets := scan.normalizer.sheets ++
          [⟨sheetIndex, sheetName, header.rowNumber, scan.sheetRecordCount, header.columns⟩] }

/-- `finish`. -/
def finish : Except ReportParsingError (List UInt8) := do
  ensure (normalizer.sheets ≠ []) ⟨str "workbook_has_no_data_sheets"⟩
  normalizer.writer.finish gz

end ReportNormalizer

-- ---------------------------------------------------------------------------
-- Formats
-- ---------------------------------------------------------------------------

/-- The rows that the reader of a CSV text yields. -/
def csvStream (decoded : Str) : RowStream where
  rows := ((Csv.rows decoded).1.mapIdx fun i row => (i + 1, row.map RawValue.str))
  failure := if (Csv.rows decoded).2 then some ⟨str "csv_malformed"⟩ else none

/-- `_parse_csv`. -/
def parseCsv (content : List UInt8) (normalizer : ReportNormalizer) :
    Except ReportParsingError ReportNormalizer := do
  let decoded ← required (decodeSig? content) ⟨str "csv_malformed"⟩
  normalizer.addSheet lib gz 0 (str "data") (csvStream decoded)

/-- A worksheet as a library gives it: its extent and its rows, whose cells are converted. -/
structure Worksheet where
  title : Str
  maxColumn : Nat
  maxRow : Nat
  stream : RowStream

/-- What the parser calls of the libraries that read workbooks; `none` is an error of theirs. -/
structure WorkbookLibrary where
  infolist : List UInt8 → Option (List (Str × Nat))
  loadXlsx : List UInt8 → Option (List Worksheet)
  loadXls : List UInt8 → Option (List Worksheet)

variable (books : WorkbookLibrary)

/-- `entry_sizes.get(name, 0)`, of the entries by their folded names. -/
def entrySize (entries : List (Str × Nat)) (name : String) : Nat :=
  ((entries.reverse.find? fun entry => lib.casefold entry.1 == str name).map Prod.snd).getD 0

/-- `_xlsx_preflight`. -/
def xlsxPreflight (content : List UInt8) : Except ReportParsingError Unit := do
  let entries ← required (books.infolist content) ⟨str "xlsx_malformed"⟩
  ensure ((entries.map Prod.snd).sum ≤ reportMaxXlsxUncompressedBytes)
    ⟨str "workbook_expansion_limit_exceeded"⟩
  ensure (entrySize lib entries "xl/sharedstrings.xml" ≤ reportMaxXlsxSharedStringsBytes)
    ⟨str "workbook_metadata_limit_exceeded"⟩
  ensure (entrySize lib entries "xl/styles.xml" ≤ reportMaxXlsxStylesBytes)
    ⟨str "workbook_metadata_limit_exceeded"⟩

/-- A sheet of a workbook, with its index. -/
def addWorksheet (normalizer : ReportNormalizer) (sheet : Worksheet × Nat) :
    Except ReportParsingError ReportNormalizer := do
  ensure (sheet.1.maxColumn ≤ reportMaxColumnsPerSheet) ⟨str "column_limit_exceeded"⟩
  ensure (sheet.1.maxRow ≤ reportMaxScannedRowsPerSheet) ⟨str "row_limit_exceeded"⟩
  normalizer.addSheet lib gz sheet.2 sheet.1.title sheet.1.stream

/-- The loop of `_parse_xlsx` and of `_parse_xls` over the sheets. -/
def addWorksheets (worksheets : List Worksheet) (normalizer : ReportNormalizer) :
    Except ReportParsingError ReportNormalizer := do
  ensure (worksheets.length ≤ reportMaxSheets) ⟨str "sheet_limit_exceeded"⟩
  worksheets.zipIdx.foldlM (addWorksheet lib gz) normalizer

/-- `_parse_xlsx`. -/
def parseXlsx (content : List UInt8) (normalizer : ReportNormalizer) :
    Except ReportParsingError ReportNormalizer := do
  xlsxPreflight lib books content
  let worksheets ← required (books.loadXlsx content) ⟨str "xlsx_malformed"⟩
  addWorksheets lib gz worksheets normalizer

/-- `_parse_xls`. -/
def parseXls (content : List UInt8) (normalizer : ReportNormalizer) :
    Except ReportParsingError ReportNormalizer := do
  let worksheets ← required (books.loadXls content) ⟨str "xls_malformed"⟩
  addWorksheets lib gz worksheets normalizer

-- ---------------------------------------------------------------------------
-- Artifacts
-- ---------------------------------------------------------------------------

structure ReportParsingContext where
  jobId : Uuid
  businessId : Uuid
  reportUploadId : Uuid
  originalFilename : Str
  fileExtension : Str
  contentType : Str

structure ParsedReportArtifacts where
  normalizedContent : List UInt8
  normalizedSha256 : Str
  profileContent : List UInt8
  profileSha256 : Str
  recordCount : Nat
  sheetCount : Nat

/-- The sheets and the lines of a report. -/
def normalizeReport (context : ReportParsingContext) (content : List UInt8) :
    Except ReportParsingError ReportNormalizer :=
  if context.fileExtension = str "csv" then parseCsv lib gz content {}
  else if context.fileExtension = str "xlsx" then parseXlsx lib gz books content {}
  else if context.fileExtension = str "xls" then parseXls lib gz books content {}
  else throw ⟨str "unsupported_report_format"⟩

/-- The profile of a report. -/
def reportProfile (context : ReportParsingContext) (normalizer : ReportNormalizer)
    (normalizedDigest : Str) : Dict :=
  [(str "format", .str (str "spike.report-profile")), (str "version", .int reportArtifactFormatVersion),
    (str "job_id", .str (uuidText context.jobId)),
    (str "business_id", .str (uuidText context.businessId)),
    (str "source", .obj [(str "report_upload_id", .str (uuidText context.reportUploadId)),
      (str "filename", .str context.originalFilename),
      (str "extension", .str context.fileExtension),
      (str "content_type", .str context.contentType)]),
    (str "normalized", .obj [(str "format", .str (str "jsonl")),
      (str "compression", .str (str "gzip")), (str "sha256", .str normalizedDigest)]),
    (str "record_count", .int normalizer.recordCount),
    (str "sheet_count", .int normalizer.sheets.length),
    (str "sheets", .arr (normalizer.sheets.map SheetProfile.render))]

/-- `parse_report_content`; `sha256` gives the hexadecimal digest. -/
def parseReportContent (sha256 : List UInt8 → Str) (context : ReportParsingContext)
    (content : List UInt8) : Except ReportParsingError ParsedReportArtifacts := do
  let normalizer ← normalizeReport lib gz books context content
  let normalizedContent ← normalizer.finish gz
  let profile := reportProfile context normalizer (sha256 normalizedContent)
  let profileContent ← required (jsonLine lib (Json.obj profile).sortKeys)
    ⟨str "profile_output_invalid"⟩
  ensure (profileContent.length ≤ reportMaxProfileBytes) ⟨str "profile_output_limit_exceeded"⟩
  pure ⟨normalizedContent, sha256 normalizedContent, profileContent, sha256 profileContent,
    normalizer.recordCount, normalizer.sheets.length⟩

end SpikeBackend
