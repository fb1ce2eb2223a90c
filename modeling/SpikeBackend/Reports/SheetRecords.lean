import Mathlib.Algebra.Group.Action.Defs
import Mathlib.Algebra.Order.BigOperators.Group.List
import Mathlib.Data.List.ReduceOption
import SpikeBackend.Reports.RoundTrip

/-!
# The records of sheets

`add_sheet` loses no row and writes none twice. After the first row with a value, every row with a
value is one record, under its own number and with its own cells; the columns count each of them,
and the two running counts are those of what is written, at every row of every sheet.

* `RowFits.fitted` — nothing but nulls is added to the cells of a row, or cut of them;
* `readRows_exact` — the rows of one sheet, however far they are read;
* `add_sheet_exact` — a run of `add_sheet`, and the sheet that it is in.
-/

namespace SpikeBackend

open Text Outcome

variable {lib : ReportLibrary} {gz : GzipLibrary}

-- ---------------------------------------------------------------------------
-- The cells of a row
-- ---------------------------------------------------------------------------

/-- What a row is padded with. -/
def nullCell : Json × ValueType := (.null, .null)

/-- The cells of a row in `width` columns: padded with nulls, or cut of trailing ones. -/
structure Fitted (width : Nat) (cells fitted : List (Json × ValueType)) : Prop where
  length : fitted.length = width
  nulls : ∃ k, fitted = cells ++ List.replicate k nullCell ∨
    cells = fitted ++ List.replicate k nullCell

/-- The values of a row are accepted, and no value is beyond the columns. -/
def RowFits (lib : ReportLibrary) (width : Nat) (values : List RawValue) : Prop :=
  ∃ cells, values.mapM (normalizeValue lib) = .ok cells ∧
    ∀ cell ∈ cells.drop width, cell.1.isNull = true

/-- A row has a cell that is not null. -/
def hasValue (lib : ReportLibrary) (row : Nat × List RawValue) : Bool :=
  !isBlank (row.2.map (cellOf lib))

/-- A cell without a value is the empty cell: it has no type either. -/
theorem eq_nullCell {cell : Json × ValueType} (hTyped : CellTyped cell)
    (hNull : cell.1.isNull = true) : cell = nullCell := by
  obtain ⟨value, type⟩ := cell
  have hType : type = .null := hTyped.mp hNull
  have hValue : value = .null := by
    cases value with
    | null => rfl
    | bool b => cases hNull
    | int n => cases hNull
    | float x => cases hNull
    | str s => cases hNull
    | arr xs => cases hNull
    | obj members => cases hNull
  rw [hType, hValue]
  rfl

/-- A row that fits is padded to a row of the sheet's width. -/
theorem RowFits.fitted {width : Nat} {values : List RawValue} (h : RowFits lib width values) :
    Fitted width (values.map (cellOf lib)) (padCells width (values.map (cellOf lib))) := by
  obtain ⟨cells, hCells, hExtra⟩ := h
  obtain rfl := mapM_normalizeValue hCells
  refine ⟨length_padCells width _, ?_⟩
  rcases Nat.le_total (values.map (cellOf lib)).length width with hShort | hLong
  · -- a short row is padded
    refine ⟨width - (values.map (cellOf lib)).length, Or.inl ?_⟩
    rw [padCells, List.take_of_length_le hShort]
    rfl
  · -- of a long row there are only nulls to cut
    have hNone : width - (values.map (cellOf lib)).length = 0 := Nat.sub_eq_zero_of_le hLong
    have hNulls : (values.map (cellOf lib)).drop width =
        List.replicate ((values.map (cellOf lib)).drop width).length nullCell := by
      refine List.eq_replicate_length.mpr fun cell hCell => ?_
      obtain ⟨value, -, rfl⟩ := List.mem_map.mp (List.mem_of_mem_drop hCell)
      exact eq_nullCell (cellOf_typed value) (hExtra _ hCell)
    refine ⟨((values.map (cellOf lib)).drop width).length, Or.inr ?_⟩
    rw [← hNulls, padCells, hNone, List.replicate_zero, List.append_nil, List.take_append_drop]

/-- Empty cells behind a row do not count. -/
theorem isBlank_append_nulls (cells : List (Json × ValueType)) (k : Nat) :
    isBlank (cells ++ List.replicate k nullCell) = isBlank cells := by
  have hNulls : (List.replicate k nullCell).all (fun cell => cell.1.isNull) = true := by
    rw [List.all_eq_true]
    intro cell hCell
    rw [List.eq_of_mem_replicate hCell]
    rfl
  rw [isBlank, List.all_append, hNulls, Bool.and_true]
  rfl

/-- A row is blank in the columns exactly when it is blank. -/
theorem Fitted.isBlank {width : Nat} {cells fitted : List (Json × ValueType)}
    (h : Fitted width cells fitted) : isBlank fitted = isBlank cells := by
  obtain ⟨k, rfl | rfl⟩ := h.nulls
  · exact isBlank_append_nulls cells k
  · exact (isBlank_append_nulls fitted k).symm

/-- A record is of a row: its number, and its normalized cells in the columns. -/
structure RecordOf (lib : ReportLibrary) (width : Nat) (row : Nat × List RawValue)
    (r : SheetRecord) : Prop where
  rowNumber : r.rowNumber = row.1
  cells : ∃ cells, row.2.mapM (normalizeValue lib) = .ok cells ∧ Fitted width cells r.cells

/-- A row that fits gives the record that is claimed. -/
theorem RowFits.recordOf {width : Nat} {row : Nat × List RawValue}
    (h : RowFits lib width row.2) : RecordOf lib width row (rowRecord lib width row) := by
  have hFitted := h.fitted
  obtain ⟨cells, hCells, -⟩ := h
  rw [← mapM_normalizeValue hCells] at hFitted
  refine ⟨rfl, cells, hCells, ?_⟩
  rw [rowRecord, ← mapM_normalizeValue hCells]
  exact hFitted

/-- The records are of the rows with a value, each of its own row and in their order. -/
theorem recordsOf_exact {width : Nat} {rows : List (Nat × List RawValue)}
    (hFits : ∀ row ∈ rows, RowFits lib width row.2) :
    List.Forall₂ (RecordOf lib width) (rows.filter (hasValue lib)) (recordsOf lib width rows) := by
  have hRecords : recordsOf lib width rows =
      (rows.filter (hasValue lib)).map (rowRecord lib width) := by
    rw [recordsOf, List.filter_map]
    congr 1
    refine List.filter_congr fun row hRow => ?_
    show (!isBlank (padCells width (row.2.map (cellOf lib)))) = hasValue lib row
    rw [(hFits row hRow).fitted.isBlank]
    rfl
  rw [hRecords, List.forall₂_map_right_iff, List.forall₂_same]
  intro row hRow
  exact (hFits row (List.mem_of_mem_filter hRow)).recordOf

-- ---------------------------------------------------------------------------
-- The rows of a sheet
-- ---------------------------------------------------------------------------

/-- What the loop has checked of the rows after a header. -/
structure RowsAccepted (lib : ReportLibrary) (width : Nat) (rows : List (Nat × List RawValue))
    (scan : SheetScan) : Prop where
  header : ∃ header, scan.header = some header ∧ header.columns.length = width
  fits : ∀ row ∈ rows, RowFits lib width row.2
  count_le : scan.sheetRecordCount ≤ reportMaxRowsPerSheet

/-- One more row behind the header. -/
theorem RowsAccepted.readRow {width sheetIndex : Nat} {sheetName : Str}
    {rows : List (Nat × List RawValue)} {row : Nat × List RawValue} {scan scan' : SheetScan}
    (hAccepted : RowsAccepted lib width rows scan)
    (h : scan.readRow lib gz sheetIndex sheetName row = .ok scan') :
    RowsAccepted lib width (rows ++ [row]) scan' := by
  obtain ⟨header, hHeader, hWidth⟩ := hAccepted.header
  simp only [SheetScan.readRow, bind_eq_ok, ensure_eq_ok] at h
  obtain ⟨-, -, -, -, h⟩ := h
  rw [hHeader] at h
  simp only [SheetScan.readRecord, bind_eq_ok, ensure_eq_ok, hWidth] at h
  obtain ⟨cells, hCells, -, hExtra, h⟩ := h
  have hFits : ∀ r ∈ rows ++ [row], RowFits lib width r.2 := by
    intro r hr
    rcases List.mem_append.mp hr with hr | hr
    · exact hAccepted.fits r hr
    · rw [List.mem_singleton.mp hr]
      exact ⟨cells, hCells, fun cell hCell => List.all_eq_true.mp hExtra cell hCell⟩
  split at h
  · -- a row without values is passed over
    obtain rfl := Except.ok.inj h
    exact ⟨⟨header, hHeader, hWidth⟩, hFits, hAccepted.count_le⟩
  · simp only [bind_eq_ok, ensure_eq_ok] at h
    obtain ⟨-, hCount, -, -, writer, -, h⟩ := h
    obtain rfl := Except.ok.inj h
    refine ⟨⟨_, rfl, ?_⟩, hFits, hCount⟩
    rw [List.length_zipWith, length_padCells, hWidth, Nat.min_self]

/-- A row that is empty has empty cells alone. -/
theorem rowIsEmpty_eq_true {values : List RawValue} (h : rowIsEmpty lib values = .ok true) :
    BlankRow lib values := by
  rw [rowIsEmpty_eq] at h
  cases hDrop : dropNulls lib values with
  | error e =>
    rw [hDrop] at h
    cases h
  | ok rest =>
    rw [hDrop] at h
    obtain rfl := List.isEmpty_iff.mp (Except.ok.inj h)
    exact dropNulls_eq_nil hDrop

/-- A row that is not empty has a value. -/
theorem hasValue_of_rowIsEmpty {row : Nat × List RawValue}
    (h : rowIsEmpty lib row.2 = .ok false) : hasValue lib row = true := by
  obtain ⟨value, hValue, cell, hCell, hNot⟩ := rowIsEmpty_eq_false h
  have hCellOf : cellOf lib value = cell := by
    rw [cellOf, hCell]
    rfl
  rw [hasValue, Bool.not_eq_true', isBlank, List.all_eq_false]
  refine ⟨cell, List.mem_map.mpr ⟨value, hValue, hCellOf⟩, ?_⟩
  rw [hNot]
  exact Bool.false_ne_true

/-- Dropping cells adds none. -/
theorem length_dropNulls_le {values kept : List RawValue} (h : dropNulls lib values = .ok kept) :
    kept.length ≤ values.length := by
  induction values with
  | nil =>
    obtain rfl := Except.ok.inj h
    exact Nat.le_refl _
  | cons value values ih =>
    simp only [dropNulls, bind_eq_ok] at h
    obtain ⟨cell, -, h⟩ := h
    split at h
    · exact (ih h).trans (Nat.le_succ _)
    · obtain rfl := Except.ok.inj h
      exact Nat.le_refl _

/-- Trimming a header adds no column. -/
theorem length_trimHeader_le {values trimmed : List RawValue}
    (h : trimHeader lib values = .ok trimmed) : trimmed.length ≤ values.length := by
  simp only [trimHeader, bind_eq_ok] at h
  obtain ⟨kept, hKept, h⟩ := h
  obtain rfl := Except.ok.inj h
  have hLength := length_dropNulls_le hKept
  rw [List.length_reverse] at hLength ⊢
  exact hLength

/-- What the loop finds: a header after blank rows, and rows that it reads as records. -/
structure HeaderFound (lib : ReportLibrary) (gz : GzipLibrary) (normalizer : ReportNormalizer)
    (sheetIndex : Nat) (sheetName : Str) (rows : List (Nat × List RawValue)) (scan : SheetScan)
    (before : List (Nat × List RawValue)) (headerRow : Nat × List RawValue)
    (rest : List (Nat × List RawValue)) (trimmed : List RawValue)
    (columns : List ColumnProfile) : Prop where
  split : rows = before ++ headerRow :: rest
  blank : ∀ row ∈ before, BlankRow lib row.2
  value : hasValue lib headerRow = true
  header : trimHeader lib headerRow.2 = .ok trimmed
  built : buildColumns lib trimmed = .ok columns
  columns_le : columns.length ≤ reportMaxColumnsPerSheet
  reads : ∃ scannedRows, rest.foldlM
    (fun scan row => SheetScan.readRow lib gz scan sheetIndex sheetName row)
    ⟨normalizer, some ⟨headerRow.1, columns⟩, 0, scannedRows⟩ = .ok scan
  sheet : sheetOf lib sheetIndex sheetName rows =
    some (parsedSheet lib sheetIndex sheetName ⟨headerRow.1, columns⟩ rest)

/-- The rows of a sheet: they are all empty, or the first other one is the header. -/
theorem readRows_header {normalizer : ReportNormalizer} {sheetIndex : Nat} {sheetName : Str}
    {rows : List (Nat × List RawValue)} {scannedRows : Nat} {scan : SheetScan}
    (h : rows.foldlM (fun scan row => SheetScan.readRow lib gz scan sheetIndex sheetName row)
      ⟨normalizer, none, 0, scannedRows⟩ = .ok scan) :
    (scan.header = none ∧ scan.normalizer = normalizer ∧ (∀ row ∈ rows, BlankRow lib row.2) ∧
        sheetOf lib sheetIndex sheetName rows = none) ∨
      ∃ before headerRow rest trimmed columns, HeaderFound lib gz normalizer sheetIndex sheetName
        rows scan before headerRow rest trimmed columns := by
  induction rows generalizing scannedRows with
  | nil =>
    rw [List.foldlM_nil] at h
    obtain rfl := Except.ok.inj h
    exact Or.inl ⟨rfl, rfl, fun _ hRow => absurd hRow List.not_mem_nil, rfl⟩
  | cons row rows ih =>
    rw [List.foldlM_cons] at h
    obtain ⟨next, hNext, hRest⟩ := bind_eq_ok.mp h
    simp only [SheetScan.readRow, bind_eq_ok, ensure_eq_ok] at hNext
    obtain ⟨-, -, -, hLength, hNext⟩ := hNext
    simp only [SheetScan.readHeader, bind_eq_ok] at hNext
    obtain ⟨empty, hEmpty, hNext⟩ := hNext
    cases empty with
    | true =>
      -- one more blank row before the header
      simp only [if_pos, bind_eq_ok, ensure_eq_ok] at hNext
      obtain ⟨-, -, hNext⟩ := hNext
      obtain rfl := Except.ok.inj hNext
      have hBlank := rowIsEmpty_eq_true hEmpty
      have hSheet : sheetOf lib sheetIndex sheetName (row :: rows) =
          sheetOf lib sheetIndex sheetName rows := sheetOf_cons_empty rows hEmpty
      rcases ih hRest with ⟨hHeader, hSame, hAll, hNo⟩ |
        ⟨before, headerRow, rest, trimmed, columns, hFound⟩
      · refine Or.inl ⟨hHeader, hSame, fun r hr => ?_, hSheet.trans hNo⟩
        rcases List.mem_cons.mp hr with rfl | hr
        · exact hBlank
        · exact hAll r hr
      · refine Or.inr ⟨row :: before, headerRow, rest, trimmed, columns, ?_, ?_, hFound.value,
          hFound.header, hFound.built, hFound.columns_le, hFound.reads,
          hSheet.trans hFound.sheet⟩
        · rw [hFound.split, List.cons_append]
        · intro r hr
          rcases List.mem_cons.mp hr with rfl | hr
          · exact hBlank
          · exact hFound.blank r hr
    | false =>
      -- the header
      simp only [Bool.false_eq_true, if_false, bind_eq_ok] at hNext
      obtain ⟨trimmed, hTrimmed, hNext⟩ := hNext
      rw [if_neg (by simpa using trimHeader_ne_nil hEmpty hTrimmed)] at hNext
      simp only [bind_eq_ok] at hNext
      obtain ⟨columns, hColumns, hNext⟩ := hNext
      obtain rfl := Except.ok.inj hNext
      have hCount : columns.length ≤ reportMaxColumnsPerSheet := by
        rw [(buildColumns_eq_ok hColumns).2]
        exact (length_trimHeader_le hTrimmed).trans hLength
      exact Or.inr ⟨[], row, rows, trimmed, columns, rfl,
        fun _ hRow => absurd hRow List.not_mem_nil, hasValue_of_rowIsEmpty hEmpty, hTrimmed,
        hColumns, hCount, ⟨_, hRest⟩, sheetOf_cons_header rows hEmpty hTrimmed hColumns⟩

/-- What is emitted for a header row and the rows after it. -/
structure EmittedSheet (lib : ReportLibrary) (headerRow : Nat × List RawValue)
    (rest : List (Nat × List RawValue)) (sheet : ParsedSheet) : Prop where
  headerRowNumber : sheet.profile.headerRowNumber = headerRow.1
  names : ∃ trimmed columns, trimHeader lib headerRow.2 = .ok trimmed ∧
    buildColumns lib trimmed = .ok columns ∧ sheet.names = columns.map ColumnProfile.name
  accepted : ∀ row ∈ rest, ∃ cells, row.2.mapM (normalizeValue lib) = .ok cells
  records : List.Forall₂ (RecordOf lib sheet.profile.columns.length)
    (rest.filter (hasValue lib)) sheet.records
  recordCount : sheet.profile.recordCount = sheet.records.length
  typeCounts : ∀ (i : Nat) (column : ColumnProfile), sheet.profile.columns[i]? = some column →
    ∀ t, column.typeCounts t = (columnCells sheet.records i).countP fun cell => cell.2 = t
  totalCount : ∀ column ∈ sheet.profile.columns, column.totalCount = sheet.records.length
  records_le : sheet.records.length ≤ reportMaxRowsPerSheet
  columns_le : sheet.profile.columns.length ≤ reportMaxColumnsPerSheet

/-- What is emitted for the rows of a sheet: nothing when they are all blank, and otherwise the
sheet whose header is the first row with a value. -/
def SheetExact (lib : ReportLibrary) (sheetIndex : Nat) (sheetName : Str)
    (rows : List (Nat × List RawValue)) : Option ParsedSheet → Prop
  | none => ∀ row ∈ rows, BlankRow lib row.2
  | some sheet => sheet.profile.index = sheetIndex ∧ sheet.profile.name = sheetName ∧
      ∃ before headerRow rest, rows = before ++ headerRow :: rest ∧
        (∀ row ∈ before, BlankRow lib row.2) ∧ hasValue lib headerRow = true ∧
          EmittedSheet lib headerRow rest sheet

section found

variable {normalizer : ReportNormalizer} {sheetIndex : Nat} {sheetName : Str}
  {rows before rest : List (Nat × List RawValue)} {scan : SheetScan}
  {headerRow : Nat × List RawValue} {trimmed : List RawValue} {columns : List ColumnProfile}

/-- The rows behind the header are accepted. -/
theorem HeaderFound.accepted (hFound : HeaderFound lib gz normalizer sheetIndex sheetName rows scan
    before headerRow rest trimmed columns) : RowsAccepted lib columns.length rest scan := by
  obtain ⟨scannedRows, hReads⟩ := hFound.reads
  refine foldlM_history (P := RowsAccepted lib columns.length) hReads ?_
    fun done r x x' _ hAccepted hStep => hAccepted.readRow hStep
  exact ⟨⟨_, rfl, rfl⟩, fun _ hRow => absurd hRow List.not_mem_nil, Nat.zero_le _⟩

/-- The rows behind the header are read as records. -/
theorem HeaderFound.recordsRead (hFound : HeaderFound lib gz normalizer sheetIndex sheetName rows
      scan before headerRow rest trimmed columns) {payloads : List Json}
    (hCells : normalizer.totalCells ≤ reportMaxTotalCells)
    (hWriter : WriterHolds lib normalizer.writer payloads) :
    RecordsRead lib normalizer payloads sheetIndex sheetName ⟨headerRow.1, columns⟩ rest scan := by
  obtain ⟨scannedRows, hReads⟩ := hFound.reads
  exact readRecords rfl rfl hCells hWriter hReads

/-- **One sheet.** What is emitted of it is what its rows say. -/
theorem HeaderFound.emittedSheet (hFound : HeaderFound lib gz normalizer sheetIndex sheetName rows
      scan before headerRow rest trimmed columns)
    (hCount : (recordsOf lib columns.length rest).length ≤ reportMaxRowsPerSheet) :
    EmittedSheet lib headerRow rest
      (parsedSheet lib sheetIndex sheetName ⟨headerRow.1, columns⟩ rest) := by
  have hHolds : SheetHolds lib (parsedSheet lib sheetIndex sheetName ⟨headerRow.1, columns⟩ rest) :=
    parsedSheet_holds sheetIndex sheetName rest hFound.built
  have hWidth : (parsedSheet lib sheetIndex sheetName ⟨headerRow.1, columns⟩
      rest).profile.columns.length = columns.length :=
    length_observeRecords fun r hr => length_of_mem_recordsOf hr
  have hFits := hFound.accepted.fits
  refine ⟨rfl, ⟨trimmed, columns, hFound.header, hFound.built, names_parsedSheet rest⟩, ?_, ?_, rfl,
    ?_, ?_, hCount, ?_⟩
  · intro row hRow
    obtain ⟨cells, hCells, -⟩ := hFits row hRow
    exact ⟨cells, hCells⟩
  · rw [hWidth]
    exact recordsOf_exact hFits
  · intro i column hi t
    obtain ⟨built, hBuilt, -, rfl⟩ := hHolds.column i column hi
    have hZero := congrFun hBuilt.typeCounts_zero t
    show built.typeCounts t + _ = _
    rw [hZero, Nat.zero_add]
  · intro column hColumn
    obtain ⟨i, hi⟩ := List.getElem?_of_mem hColumn
    have hLt := (List.getElem?_eq_some_iff.mp hi).1
    obtain ⟨built, hBuilt, -, rfl⟩ := hHolds.column i column hi
    -- each record is counted once in each column
    rw [totalCount_counting hBuilt.typeCounts_zero]
    refine length_columnCells fun r hr => ?_
    rw [hHolds.width r hr]
    exact hLt
  · rw [hWidth]
    exact hFound.columns_le

end found

-- ---------------------------------------------------------------------------
-- The running counts
-- ---------------------------------------------------------------------------

/-- **What is emitted.** The lines are those of the records, sheet by sheet; the running counts are
of the records and of their cells, and within the limits. -/
structure Emitted (lib : ReportLibrary) (normalizer : ReportNormalizer)
    (sheets : List ParsedSheet) : Prop where
  lines : normalizer.writer.lines.map some =
    (sheets.flatMap ParsedSheet.payloads).map (jsonLine lib)
  recordCount : normalizer.recordCount = (sheets.map fun s => s.records.length).sum
  totalCells : normalizer.totalCells = (sheets.map ParsedSheet.cellCount).sum
  recordCount_le : normalizer.recordCount ≤ reportMaxSheets * reportMaxRowsPerSheet
  totalCells_le : normalizer.totalCells ≤ reportMaxTotalCells

/-- The records of every sheet are within the limit of a sheet. -/
def RecordsBounded (sheets : List ParsedSheet) : Prop :=
  ∀ s ∈ sheets, s.records.length ≤ reportMaxRowsPerSheet

/-- The records of all sheets are bounded by the limits of a sheet and of their number. -/
theorem RecordsBounded.sum_le {sheets : List ParsedSheet} (hBounded : RecordsBounded sheets)
    (hSheets : sheets.length ≤ reportMaxSheets) :
    (sheets.map fun s => s.records.length).sum ≤ reportMaxSheets * reportMaxRowsPerSheet := by
  have hEach : ∀ n ∈ sheets.map fun s => s.records.length, n ≤ reportMaxRowsPerSheet := by
    intro n hn
    obtain ⟨s, hs, rfl⟩ := List.mem_map.mp hn
    exact hBounded s hs
  have hSum := List.sum_le_card_nsmul _ _ hEach
  rw [List.length_map, smul_eq_mul] at hSum
  exact hSum.trans (Nat.mul_le_mul_right _ hSheets)

/-- **The rows of one sheet**, however far they are read. -/
theorem readRows_exact {normalizer : ReportNormalizer} {sheets : List ParsedSheet}
    {sheetIndex : Nat} {sheetName : Str} {rows : List (Nat × List RawValue)} {scan : SheetScan}
    (hHolds : ReportHolds lib normalizer sheets) (hBounded : RecordsBounded sheets)
    (hSheets : normalizer.sheets.length < reportMaxSheets)
    (h : rows.foldlM (fun scan row => SheetScan.readRow lib gz scan sheetIndex sheetName row)
      { normalizer := normalizer } = .ok scan) :
    SheetExact lib sheetIndex sheetName rows (sheetOf lib sheetIndex sheetName rows) ∧
      RecordsBounded (sheets ++ (sheetOf lib sheetIndex sheetName rows).toList) ∧
        Emitted lib scan.normalizer
          (sheets ++ (sheetOf lib sheetIndex sheetName rows).toList) := by
  have hLength : sheets.length < reportMaxSheets := by
    rw [hHolds.profiles, List.length_map] at hSheets
    exact hSheets
  rcases readRows_header h with ⟨-, hSame, hBlank, hNone⟩ |
    ⟨before, headerRow, rest, trimmed, columns, hFound⟩
  · -- no header yet
    rw [hNone, Option.toList_none, List.append_nil, hSame]
    refine ⟨hBlank, hBounded, hHolds.writer.lines, hHolds.recordCount, hHolds.totalCells, ?_,
      hHolds.totalCells_le⟩
    rw [hHolds.recordCount]
    exact hBounded.sum_le hLength.le
  · have hRead := hFound.recordsRead hHolds.totalCells_le hHolds.writer
    have hCount := hFound.accepted.count_le
    rw [hRead.sheetRecordCount] at hCount
    have hWidth : (parsedSheet lib sheetIndex sheetName ⟨headerRow.1, columns⟩
        rest).profile.columns.length = columns.length :=
      length_observeRecords fun r hr => length_of_mem_recordsOf hr
    rw [hFound.sheet, Option.toList_some]
    have hBounded' : RecordsBounded
        (sheets ++ [parsedSheet lib sheetIndex sheetName ⟨headerRow.1, columns⟩ rest]) := by
      intro s hs
      rcases List.mem_append.mp hs with hs | hs
      · exact hBounded s hs
      · rw [List.mem_singleton.mp hs]
        exact hCount
    have hRecords : scan.normalizer.recordCount = ((sheets ++ [parsedSheet lib sheetIndex sheetName
        ⟨headerRow.1, columns⟩ rest]).map fun s => s.records.length).sum := by
      rw [List.map_append, List.sum_append, List.map_singleton, List.sum_singleton,
        ← hHolds.recordCount]
      exact hRead.recordCount
    refine ⟨⟨rfl, rfl, before, headerRow, rest, hFound.split, hFound.blank, hFound.value,
      hFound.emittedSheet hCount⟩, hBounded', ?_, hRecords, ?_, ?_, hRead.totalCells_le⟩
    · rw [List.flatMap_append, List.flatMap_singleton]
      exact hRead.writer.lines
    · rw [List.map_append, List.sum_append, List.map_singleton, List.sum_singleton,
        ← hHolds.totalCells, ParsedSheet.cellCount, hWidth]
      exact hRead.totalCells
    · rw [hRecords]
      refine hBounded'.sum_le ?_
      rw [List.length_append, List.length_singleton]
      exact hLength

-- ---------------------------------------------------------------------------
-- Sheet after sheet
-- ---------------------------------------------------------------------------

/-- The arguments of a call of `add_sheet`. -/
structure SheetCall where
  index : Nat
  name : Str
  stream : RowStream

/-- A run of calls of `add_sheet`. -/
def addSheets (lib : ReportLibrary) (gz : GzipLibrary) (calls : List SheetCall)
    (normalizer : ReportNormalizer) : Except ReportParsingError ReportNormalizer :=
  calls.foldlM (fun normalizer call =>
    ReportNormalizer.addSheet lib gz normalizer call.index call.name call.stream) normalizer

/-- What is emitted for a call. -/
def SheetCall.sheet (lib : ReportLibrary) (call : SheetCall) : Option ParsedSheet :=
  sheetOf lib call.index call.name call.stream.rows

/-- The calls that have succeeded, each with what it has emitted. -/
structure SheetsAdded (lib : ReportLibrary) (calls : List SheetCall)
    (normalizer : ReportNormalizer) : Prop where
  exact : ∀ call ∈ calls,
    SheetExact lib call.index call.name call.stream.rows (call.sheet lib)
  holds : ReportHolds lib normalizer (calls.map (SheetCall.sheet lib)).reduceOption
  bounded : RecordsBounded (calls.map (SheetCall.sheet lib)).reduceOption
  sheets_le : normalizer.sheets.length ≤ reportMaxSheets

/-- The sheets of one more call. -/
theorem reduceOption_concat_toList (calls : List SheetCall) (call : SheetCall) :
    ((calls ++ [call]).map (SheetCall.sheet lib)).reduceOption =
      (calls.map (SheetCall.sheet lib)).reduceOption ++ (call.sheet lib).toList := by
  rw [List.map_append, List.reduceOption_append]
  cases hSheet : call.sheet lib with
  | none => simp [List.reduceOption, hSheet]
  | some sheet => simp [List.reduceOption, hSheet]

/-- One more call of `add_sheet`. -/
theorem SheetsAdded.addSheet {calls : List SheetCall} {call : SheetCall}
    {normalizer normalizer' : ReportNormalizer} (hAdded : SheetsAdded lib calls normalizer)
    (h : normalizer.addSheet lib gz call.index call.name call.stream = .ok normalizer') :
    SheetsAdded lib (calls ++ [call]) normalizer' := by
  have hHolds := addSheet_eq_ok hAdded.holds h
  have hCall := h
  simp only [ReportNormalizer.addSheet, bind_eq_ok, ensure_eq_ok] at hCall
  obtain ⟨-, hSheets, scan, hScan, -⟩ := hCall
  obtain ⟨hExact, hBounded, -⟩ := readRows_exact hAdded.holds hAdded.bounded hSheets hScan
  refine ⟨?_, ?_, ?_, ?_⟩
  · intro c hc
    rcases List.mem_append.mp hc with hc | hc
    · exact hAdded.exact c hc
    · rw [List.mem_singleton.mp hc]
      exact hExact
  · rw [reduceOption_concat_toList]
    exact hHolds
  · rw [reduceOption_concat_toList]
    exact hBounded
  · rw [hAdded.holds.profiles, List.length_map] at hSheets
    rw [hHolds.profiles, List.length_map, List.length_append]
    -- a call adds one sheet at most
    have hOne : (sheetOf lib call.index call.name call.stream.rows).toList.length ≤ 1 := by
      cases sheetOf lib call.index call.name call.stream.rows <;> simp
    omega

/-- **`add_sheet` is exact.** Of the sheets that a run of calls accepts, what is emitted are the
rows with a value after each header; and in any sheet that comes next, after any of its rows, the
counts are those of what is emitted, within the limits. -/
theorem add_sheet_exact {calls : List SheetCall} {normalizer : ReportNormalizer}
    (h : addSheets lib gz calls {} = .ok normalizer) :
    ∃ emitted : List (Option ParsedSheet),
      List.Forall₂ (fun call sheet => SheetExact lib call.index call.name call.stream.rows sheet)
          calls emitted ∧
        normalizer.sheets = emitted.reduceOption.map ParsedSheet.profile ∧
        normalizer.sheets.length ≤ reportMaxSheets ∧
        Emitted lib normalizer emitted.reduceOption ∧
        ∀ (sheetIndex : Nat) (sheetName : Str) (rows : List (Nat × List RawValue))
          (scan : SheetScan), normalizer.sheets.length < reportMaxSheets →
          rows.foldlM (fun scan row => SheetScan.readRow lib gz scan sheetIndex sheetName row)
              { normalizer := normalizer } = .ok scan →
            ∃ sheet, SheetExact lib sheetIndex sheetName rows sheet ∧
              Emitted lib scan.normalizer (emitted.reduceOption ++ sheet.toList) := by
  -- the calls so far, by induction on their list
  have hAdded : SheetsAdded lib calls normalizer := by
    refine foldlM_history (P := SheetsAdded lib) h ?_
      fun done call start next _ hAdded hNext => hAdded.addSheet hNext
    exact ⟨fun _ hc => absurd hc List.not_mem_nil, reportHolds_empty,
      fun _ hs => absurd hs List.not_mem_nil, Nat.zero_le _⟩
  have hHolds := hAdded.holds
  refine ⟨calls.map (SheetCall.sheet lib), ?_, hHolds.profiles, hAdded.sheets_le, ?_, ?_⟩
  · rw [List.forall₂_map_right_iff, List.forall₂_same]
    exact hAdded.exact
  · have hLength := hAdded.sheets_le
    rw [hHolds.profiles, List.length_map] at hLength
    refine ⟨hHolds.writer.lines, hHolds.recordCount, hHolds.totalCells, ?_, hHolds.totalCells_le⟩
    rw [hHolds.recordCount]
    exact hAdded.bounded.sum_le hLength
  · intro sheetIndex sheetName rows scan hSheets hScan
    obtain ⟨hExact, -, hEmitted⟩ := readRows_exact hHolds hAdded.bounded hSheets hScan
    exact ⟨sheetOf lib sheetIndex sheetName rows, hExact, hEmitted⟩

namespace SheetRecordsSample

/-- A ragged sheet, with blank rows before its header and after it, and an empty one. -/
def calls : List SheetCall :=
  [⟨0, str "data",
    { rows :=
        [(1, [.none, .str (str "  ")]), (2, [.str (str "A"), .str (str "B"), .none]), (3, []),
          (4, [.int 1]), (6, [.none, .str (str "x"), .none])] }⟩,
    ⟨1, str "empty", { rows := [(1, [.none])] }⟩]

end SheetRecordsSample

open RoundTripSample SheetRecordsSample in
/-- Two records of two columns. -/
theorem add_sheet_sample : ∃ normalizer emitted,
    addSheets report gzip calls {} = .ok normalizer ∧ normalizer.recordCount = 2 ∧
      normalizer.totalCells = 4 ∧
      List.Forall₂ (fun call sheet => SheetExact report call.index call.name call.stream.rows sheet)
        calls emitted ∧
      Emitted report normalizer emitted.reduceOption := by
  have hRun : ((addSheets report gzip calls {}).toOption.map fun normalizer =>
      (normalizer.recordCount, normalizer.totalCells)) = some (2, 4) := by
    decide +kernel
  cases hAdd : addSheets report gzip calls {} with
  | error e =>
    rw [hAdd] at hRun
    cases hRun
  | ok normalizer =>
    rw [hAdd] at hRun
    obtain ⟨hCount, hCells⟩ := Prod.mk.inj (Option.some.inj hRun)
    obtain ⟨emitted, hEach, -, -, hEmitted, -⟩ := add_sheet_exact hAdd
    exact ⟨normalizer, emitted, rfl, hCount, hCells, hEach, hEmitted⟩

end SpikeBackend
