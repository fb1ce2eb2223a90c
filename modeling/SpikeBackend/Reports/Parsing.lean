import Mathlib.Data.List.Induction
import SpikeBackend.Reports.Columns

/-!
# What the parser emits

`add_sheet` takes the first row that is not blank as the header of a sheet, and emits every row
after it that is not blank as one record: its cells, padded to the columns of the header. The
profile counts what is emitted.

* `addSheet_eq_ok` — what a sheet adds to a report;
* `ReportHolds` — the invariant of the normalizer, with the sheets that it has emitted.
-/

namespace SpikeBackend

open Text Outcome

variable {lib : ReportLibrary} {gz : GzipLibrary}

-- ---------------------------------------------------------------------------
-- Records
-- ---------------------------------------------------------------------------

/-- A value as a cell; what is not accepted has none. -/
def cellOf (lib : ReportLibrary) (value : RawValue) : Json × ValueType :=
  (normalizeValue lib value).toOption.getD (.null, .null)

/-- All cells of a row are null. -/
def isBlank (cells : List (Json × ValueType)) : Bool := cells.all fun cell => cell.1.isNull

/-- A record that is emitted: the number of its row, and a cell for each column. -/
structure SheetRecord where
  rowNumber : Nat
  cells : List (Json × ValueType)

/-- The values of a record, by the names of the columns. -/
def SheetRecord.values (names : List Str) (r : SheetRecord) : Dict :=
  names.zipWith (fun name cell => (name, cell.1)) r.cells

/-- The record of a row under `width` columns. -/
def rowRecord (lib : ReportLibrary) (width : Nat) (row : Nat × List RawValue) : SheetRecord :=
  ⟨row.1, padCells width (row.2.map (cellOf lib))⟩

/-- The records of the rows after a header: those that are not blank. -/
def recordsOf (lib : ReportLibrary) (width : Nat) (rows : List (Nat × List RawValue)) :
    List SheetRecord :=
  (rows.map (rowRecord lib width)).filter fun r => !isBlank r.cells

/-- A cell is null exactly when its type says so. -/
def CellTyped (cell : Json × ValueType) : Prop := cell.1.isNull = true ↔ cell.2 = .null

/-- A text is either empty and of no type, or a string. -/
theorem normalizeText_typed {s : Str} {cell : Json × ValueType} (h : normalizeText s = .ok cell) :
    CellTyped cell := by
  rw [normalizeText] at h
  split at h
  · obtain rfl := Except.ok.inj h
    exact ⟨fun _ => rfl, fun _ => rfl⟩
  · simp only [bind_eq_ok, ensure_eq_ok] at h
    obtain ⟨-, -, -, -, h⟩ := h
    obtain rfl := Except.ok.inj h
    exact ⟨fun hNull => Bool.noConfusion hNull, fun hType => ValueType.noConfusion hType⟩

theorem cellTyped_of_ne {x : Json} {t : ValueType} (hValue : x.isNull = false) (hType : t ≠ .null) :
    CellTyped (x, t) :=
  ⟨fun hNull => absurd (hValue.symm.trans hNull) (by decide), fun h => absurd h hType⟩

/-- Every value that is normalized has the type that goes with it. -/
theorem normalizeValue_typed {value : RawValue} {cell : Json × ValueType}
    (h : normalizeValue lib value = .ok cell) : CellTyped cell := by
  cases value with
  | none =>
    obtain rfl := Except.ok.inj h
    exact ⟨fun _ => rfl, fun _ => rfl⟩
  | bool b =>
    obtain rfl := Except.ok.inj h
    exact cellTyped_of_ne rfl (by decide)
  | int n =>
    obtain rfl := Except.ok.inj h
    exact cellTyped_of_ne rfl (by decide)
  | decimal x =>
    -- a whole decimal becomes an integer, another one a text
    simp only [normalizeValue, bind_eq_ok, required_eq_ok] at h
    obtain ⟨x, -, h⟩ := h
    split at h
    · obtain rfl := Except.ok.inj h
      exact cellTyped_of_ne rfl (by decide)
    · simp only [bind_eq_ok, required_eq_ok] at h
      obtain ⟨y, -, h⟩ := h
      obtain rfl := Except.ok.inj h
      exact cellTyped_of_ne rfl (by decide)
  | float x =>
    simp only [normalizeValue, bind_eq_ok, required_eq_ok] at h
    obtain ⟨x, -, h⟩ := h
    split at h
    · obtain rfl := Except.ok.inj h
      exact cellTyped_of_ne rfl (by decide)
    · obtain rfl := Except.ok.inj h
      exact cellTyped_of_ne rfl (by decide)
  | datetime s =>
    obtain rfl := Except.ok.inj h
    exact cellTyped_of_ne rfl (by decide)
  | date s =>
    obtain rfl := Except.ok.inj h
    exact cellTyped_of_ne rfl (by decide)
  | time s =>
    obtain rfl := Except.ok.inj h
    exact cellTyped_of_ne rfl (by decide)
  | bytes content =>
    simp only [normalizeValue, bind_eq_ok, required_eq_ok] at h
    obtain ⟨s, -, h⟩ := h
    exact normalizeText_typed h
  | str s => exact normalizeText_typed h
  | other s => exact normalizeText_typed h

/-- A cell has the type that goes with its value, also where the value cannot be normalized. -/
theorem cellOf_typed (value : RawValue) : CellTyped (cellOf lib value) := by
  unfold cellOf
  cases hValue : normalizeValue lib value with
  | error e => exact ⟨fun _ => rfl, fun _ => rfl⟩
  | ok cell => exact normalizeValue_typed hValue

/-- The cells of a row whose values are all accepted. -/
theorem mapM_normalizeValue {values : List RawValue} {cells : List (Json × ValueType)}
    (h : values.mapM (normalizeValue lib) = .ok cells) : cells = values.map (cellOf lib) := by
  have hEach := mapM_eq_ok.mp h
  clear h
  -- every value has a cell, and it is the one that `cellOf` answers
  induction hEach with
  | nil => rfl
  | cons hCell _ ih =>
    rw [List.map_cons, ih, cellOf, hCell]
    rfl

theorem length_padCells (width : Nat) (cells : List (Json × ValueType)) :
    (padCells width cells).length = width := by
  rw [padCells, List.length_append, List.length_take, List.length_replicate]
  omega

/-- The cells that are padded have no value and no type. -/
theorem padCells_typed {width : Nat} {cells : List (Json × ValueType)}
    (h : ∀ cell ∈ cells, CellTyped cell) : ∀ cell ∈ padCells width cells, CellTyped cell := by
  intro cell hCell
  rcases List.mem_append.mp hCell with hCell | hCell
  · exact h cell (List.mem_of_mem_take hCell)
  · -- the padding is made of nulls
    rw [List.eq_of_mem_replicate hCell]
    exact ⟨fun _ => rfl, fun _ => rfl⟩

theorem recordsOf_append (width : Nat) (rows rows' : List (Nat × List RawValue)) :
    recordsOf lib width (rows ++ rows') = recordsOf lib width rows ++ recordsOf lib width rows' := by
  rw [recordsOf, List.map_append, List.filter_append]
  rfl

theorem length_of_mem_recordsOf {width : Nat} {rows : List (Nat × List RawValue)} {r : SheetRecord}
    (h : r ∈ recordsOf lib width rows) : r.cells.length = width := by
  obtain ⟨row, -, rfl⟩ := List.mem_map.mp (List.mem_filter.mp h).1
  exact length_padCells width _

/-- The cells of a record have the types that go with their values. -/
theorem typed_of_mem_recordsOf {width : Nat} {rows : List (Nat × List RawValue)} {r : SheetRecord}
    (h : r ∈ recordsOf lib width rows) : ∀ cell ∈ r.cells, CellTyped cell := by
  obtain ⟨row, -, rfl⟩ := List.mem_map.mp (List.mem_filter.mp h).1
  refine padCells_typed ?_
  intro cell hCell
  obtain ⟨value, -, rfl⟩ := List.mem_map.mp hCell
  exact cellOf_typed value

-- ---------------------------------------------------------------------------
-- Counting
-- ---------------------------------------------------------------------------

/-- The columns after a record. -/
def observeCells (columns : List ColumnProfile) (cells : List (Json × ValueType)) :
    List ColumnProfile :=
  columns.zipWith (fun column cell => column.observe cell.2) cells

/-- The columns after some records. -/
def observeRecords (columns : List ColumnProfile) (records : List SheetRecord) :
    List ColumnProfile :=
  records.foldl (fun columns r => observeCells columns r.cells) columns

/-- One more record is counted after the others. -/
theorem observeRecords_concat (columns : List ColumnProfile) (records : List SheetRecord)
    (r : SheetRecord) : observeRecords columns (records ++ [r]) =
      observeCells (observeRecords columns records) r.cells := by
  rw [observeRecords, List.foldl_append]
  rfl

/-- The cells of one column. -/
def columnCells (records : List SheetRecord) (i : Nat) : List (Json × ValueType) :=
  records.filterMap fun r => r.cells[i]?

/-- What a column counts of some cells. -/
def ColumnProfile.counting (column : ColumnProfile) (cells : List (Json × ValueType)) :
    ColumnProfile :=
  { column with typeCounts := fun t => column.typeCounts t + cells.countP fun cell => cell.2 = t }

theorem ColumnProfile.counting_nil (column : ColumnProfile) : column.counting [] = column := by
  rfl

/-- One more cell is counted after the others. -/
theorem ColumnProfile.counting_concat (column : ColumnProfile) (cells : List (Json × ValueType))
    (cell : Json × ValueType) :
    column.counting (cells ++ [cell]) = (column.counting cells).observe cell.2 := by
  unfold ColumnProfile.counting ColumnProfile.observe
  congr 1
  funext t
  rw [List.countP_append, List.countP_singleton, Function.update_apply]
  -- only the count of the cell's own type grows
  by_cases hType : cell.2 = t
  · rw [if_pos hType.symm, if_pos (decide_eq_true hType), hType, Nat.add_assoc]
  · rw [if_neg (Ne.symm hType), if_neg (by simpa using hType), Nat.add_zero]

/-- **Counts.** Each column counts its own cells. -/
theorem getElem?_observeRecords {columns : List ColumnProfile} {records : List SheetRecord}
    (hWidth : ∀ r ∈ records, r.cells.length = columns.length) (i : Nat) :
    (observeRecords columns records)[i]? =
      columns[i]?.map fun column => column.counting (columnCells records i) := by
  induction records using List.reverseRecOn with
  | nil =>
    show columns[i]? = columns[i]?.map id
    rw [Option.map_id, id]
  | append_singleton records r ih =>
    have hRest := ih fun r' hr' => hWidth r' (List.mem_append_left _ hr')
    have hCells := hWidth r (List.mem_append_right _ (List.mem_singleton.mpr rfl))
    rw [observeRecords_concat, observeCells, List.getElem?_zipWith, hRest]
    -- the last record has one cell in the column
    have hColumn : columnCells (records ++ [r]) i = columnCells records i ++ r.cells[i]?.toList := by
      rw [columnCells, List.filterMap_append]
      cases hCell : r.cells[i]? <;> simp [columnCells, hCell]
    rcases Nat.lt_or_ge i columns.length with hi | hi
    · have hCell := List.getElem?_eq_getElem (hCells ▸ hi : i < r.cells.length)
      rw [hColumn, List.getElem?_eq_getElem hi, hCell]
      exact congrArg some (ColumnProfile.counting_concat _ _ _).symm
    · rw [List.getElem?_eq_none hi]
      rfl

/-- Counting adds no column. -/
theorem length_observeRecords {columns : List ColumnProfile} {records : List SheetRecord}
    (hWidth : ∀ r ∈ records, r.cells.length = columns.length) :
    (observeRecords columns records).length = columns.length := by
  induction records using List.reverseRecOn with
  | nil => rfl
  | append_singleton records r ih =>
    have hRest := ih fun r' hr' => hWidth r' (List.mem_append_left _ hr')
    have hCells := hWidth r (List.mem_append_right _ (List.mem_singleton.mpr rfl))
    rw [observeRecords_concat, observeCells, List.length_zipWith, hRest, hCells, Nat.min_self]

/-- The names stay. -/
theorem names_observeRecords {columns : List ColumnProfile} {records : List SheetRecord}
    (hWidth : ∀ r ∈ records, r.cells.length = columns.length) :
    (observeRecords columns records).map ColumnProfile.name = columns.map ColumnProfile.name := by
  refine List.ext_getElem? fun i => ?_
  rw [List.getElem?_map, getElem?_observeRecords hWidth, List.getElem?_map, Option.map_map]
  rfl

/-- A column has a cell of each record. -/
theorem length_columnCells {records : List SheetRecord} {i : Nat}
    (hWidth : ∀ r ∈ records, i < r.cells.length) : (columnCells records i).length = records.length := by
  induction records with
  | nil => rfl
  | cons r records ih =>
    -- the record has a cell in this column, so the search passes over nothing
    have hCell := List.getElem?_eq_getElem (hWidth r List.mem_cons_self)
    have hRest := ih fun r' hr' => hWidth r' (List.mem_cons_of_mem r hr')
    rw [columnCells, List.filterMap_cons, hCell]
    exact congrArg Nat.succ hRest

/-- The counts of the types add up to the number of the cells. -/
theorem totalCount_counting {column : ColumnProfile} (hZero : column.typeCounts = fun _ => 0)
    (cells : List (Json × ValueType)) : (column.counting cells).totalCount = cells.length := by
  induction cells using List.reverseRecOn with
  | nil =>
    rw [ColumnProfile.counting_nil, ColumnProfile.totalCount, hZero]
    rfl
  | append_singleton cells cell ih =>
    have hObserve : ∀ (c : ColumnProfile) (t : ValueType),
        (c.observe t).totalCount = c.totalCount + 1 := by
      intro c t
      cases t <;>
        simp [ColumnProfile.totalCount, ColumnProfile.observe, valueTypeOrder] <;> omega
    rw [ColumnProfile.counting_concat, hObserve, ih, List.length_append, List.length_singleton]

-- ---------------------------------------------------------------------------
-- The writer
-- ---------------------------------------------------------------------------

/-- What the writer holds: the lines of the payloads, within the limit. -/
structure WriterHolds (lib : ReportLibrary) (writer : BoundedJsonlWriter) (payloads : List Json) :
    Prop where
  lines : writer.lines.map some = payloads.map (jsonLine lib)
  bytes : writer.uncompressedBytes = writer.lines.flatten.length
  bytes_le : writer.uncompressedBytes ≤ reportMaxNormalizedUncompressedBytes

theorem writerHolds_empty : WriterHolds lib {} [] := ⟨rfl, rfl, Nat.zero_le _⟩

/-- A record that is written is one more, within the limit of the file. -/
theorem WriterHolds.write {writer writer' : BoundedJsonlWriter} {payloads : List Json}
    {payload : Json} (hWriter : WriterHolds lib writer payloads)
    (h : writer.write lib gz payload = .ok writer') :
    WriterHolds lib writer' (payloads ++ [payload]) := by
  simp only [BoundedJsonlWriter.write, bind_eq_ok, required_eq_ok, ensure_eq_ok] at h
  obtain ⟨encoded, hEncoded, -, hSize, -, -, h⟩ := h
  obtain rfl := Except.ok.inj h
  -- one more line, its bytes, and the bound that was checked with it
  refine ⟨?_, ?_, hSize⟩
  · rw [List.map_append, List.map_append, hWriter.lines, List.map_singleton, List.map_singleton,
      hEncoded]
  · rw [List.flatten_append, List.length_append, List.flatten_singleton, hWriter.bytes]

-- ---------------------------------------------------------------------------
-- The rows of a sheet
-- ---------------------------------------------------------------------------

/-- A sheet that is emitted: its entry in the profile, and its records. -/
structure ParsedSheet where
  profile : SheetProfile
  records : List SheetRecord

namespace ParsedSheet

variable (sheet : ParsedSheet)

def names : List Str := sheet.profile.columns.map ColumnProfile.name

/-- A record of the sheet, as it is written. -/
def payload (r : SheetRecord) : Json :=
  recordPayload sheet.profile.index sheet.profile.name r.rowNumber (r.values sheet.names)

/-- What is written for the sheet. -/
def payloads : List Json := sheet.records.map sheet.payload

/-- The cells of the sheet. -/
def cellCount : Nat := sheet.records.length * sheet.profile.columns.length

end ParsedSheet

/-- The sheet of a header and the rows after it. -/
def parsedSheet (lib : ReportLibrary) (sheetIndex : Nat) (sheetName : Str) (header : SheetHeader)
    (rows : List (Nat × List RawValue)) : ParsedSheet :=
  let records := recordsOf lib header.columns.length rows
  ⟨⟨sheetIndex, sheetName, header.rowNumber, records.length,
    observeRecords header.columns records⟩, records⟩

section sheet

variable {start : ReportNormalizer} {payloads : List Json} {sheetIndex : Nat} {sheetName : Str}
  {header : SheetHeader}

/-- What the loop holds after the rows that follow a header. -/
structure RecordsRead (lib : ReportLibrary) (start : ReportNormalizer) (payloads : List Json)
    (sheetIndex : Nat) (sheetName : Str) (header : SheetHeader)
    (rows : List (Nat × List RawValue)) (scan : SheetScan) : Prop where
  columns : scan.header = some { header with
    columns := observeRecords header.columns (recordsOf lib header.columns.length rows) }
  sheetRecordCount : scan.sheetRecordCount = (recordsOf lib header.columns.length rows).length
  sheets : scan.normalizer.sheets = start.sheets
  recordCount : scan.normalizer.recordCount =
    start.recordCount + (recordsOf lib header.columns.length rows).length
  totalCells : scan.normalizer.totalCells = start.totalCells +
    (recordsOf lib header.columns.length rows).length * header.columns.length
  totalCells_le : scan.normalizer.totalCells ≤ reportMaxTotalCells
  writer : WriterHolds lib scan.normalizer.writer
    (payloads ++ (parsedSheet lib sheetIndex sheetName header rows).payloads)

theorem names_parsedSheet (rows : List (Nat × List RawValue)) :
    (parsedSheet lib sheetIndex sheetName header rows).names =
      header.columns.map ColumnProfile.name :=
  names_observeRecords fun _ hr => length_of_mem_recordsOf hr

/-- The payloads of the rows after a header. -/
theorem payloads_parsedSheet (rows : List (Nat × List RawValue)) :
    (parsedSheet lib sheetIndex sheetName header rows).payloads =
      (recordsOf lib header.columns.length rows).map fun r =>
        recordPayload sheetIndex sheetName r.rowNumber
          (r.values (header.columns.map ColumnProfile.name)) := by
  have hNames : (parsedSheet lib sheetIndex sheetName header rows).names =
      header.columns.map ColumnProfile.name := names_parsedSheet rows
  unfold ParsedSheet.payloads ParsedSheet.payload
  rw [hNames]
  rfl

/-- One row after the header. -/
theorem RecordsRead.readRow {rows : List (Nat × List RawValue)} {scan scan' : SheetScan}
    {row : Nat × List RawValue}
    (hRead : RecordsRead lib start payloads sheetIndex sheetName header rows scan)
    (h : scan.readRow lib gz sheetIndex sheetName row = .ok scan') :
    RecordsRead lib start payloads sheetIndex sheetName header (rows ++ [row]) scan' := by
  have hCells : ∀ r ∈ recordsOf lib header.columns.length rows,
      r.cells.length = header.columns.length := fun _ hr => length_of_mem_recordsOf hr
  have hWidth := length_observeRecords hCells
  have hNames := names_observeRecords hCells
  simp only [SheetScan.readRow, bind_eq_ok, ensure_eq_ok] at h
  obtain ⟨-, -, -, -, h⟩ := h
  rw [hRead.columns] at h
  simp only [SheetScan.readRecord, bind_eq_ok, ensure_eq_ok, hWidth] at h
  obtain ⟨cells, hCells, -, -, h⟩ := h
  obtain rfl := mapM_normalizeValue hCells
  split at h
  · -- a blank row is no record
    rename_i hBlank
    obtain rfl := Except.ok.inj h
    have hSame : recordsOf lib header.columns.length (rows ++ [row]) =
        recordsOf lib header.columns.length rows := by
      have hNone : recordsOf lib header.columns.length [row] = [] := by
        refine List.filter_eq_nil_iff.mpr ?_
        intro r hr
        obtain rfl := List.mem_singleton.mp hr
        simpa [isBlank, rowRecord] using hBlank
      rw [recordsOf_append, hNone, List.append_nil]
    have hWriter := hRead.writer
    rw [payloads_parsedSheet] at hWriter
    exact ⟨by rw [hSame]; exact hRead.columns, by rw [hSame]; exact hRead.sheetRecordCount,
      hRead.sheets, by rw [hSame]; exact hRead.recordCount, by rw [hSame]; exact hRead.totalCells,
      hRead.totalCells_le, by rw [payloads_parsedSheet, hSame]; exact hWriter⟩
  · rename_i hBlank
    simp only [bind_eq_ok, ensure_eq_ok] at h
    obtain ⟨-, -, -, hTotal, writer, hWrite, h⟩ := h
    obtain rfl := Except.ok.inj h
    have hRecord : recordsOf lib header.columns.length (rows ++ [row]) =
        recordsOf lib header.columns.length rows ++ [rowRecord lib header.columns.length row] := by
      have hOne : recordsOf lib header.columns.length [row] =
          [rowRecord lib header.columns.length row] := by
        refine List.filter_eq_self.mpr ?_
        intro r hr
        obtain rfl := List.mem_singleton.mp hr
        simpa [isBlank, rowRecord] using hBlank
      rw [recordsOf_append, hOne]
    have hValues : (List.zipWith (fun (column : ColumnProfile) (cell : Json × ValueType) =>
        (column.name, cell.1))
        (observeRecords header.columns (recordsOf lib header.columns.length rows))
        (padCells header.columns.length (row.2.map (cellOf lib)))) =
        (rowRecord lib header.columns.length row).values
          (header.columns.map ColumnProfile.name) := by
      rw [SheetRecord.values, ← hNames, List.zipWith_map_left]
      rfl
    have hWriter := hRead.writer
    rw [payloads_parsedSheet] at hWriter
    refine ⟨?_, ?_, hRead.sheets, ?_, ?_, hTotal, ?_⟩
    · rw [hRecord, observeRecords_concat]
      rfl
    · rw [hRecord, List.length_append, List.length_singleton, ← hRead.sheetRecordCount]
    · rw [hRecord, List.length_append, List.length_singleton, ← Nat.add_assoc, ← hRead.recordCount]
    · show scan.normalizer.totalCells + header.columns.length = _
      rw [hRead.totalCells, hRecord, List.length_append, List.length_singleton, Nat.add_mul,
        Nat.one_mul, Nat.add_assoc]
    · rw [payloads_parsedSheet, hRecord, List.map_append, ← List.append_assoc, List.map_singleton]
      rw [hValues] at hWrite
      exact hWriter.write hWrite

/-- The rows after the header. -/
theorem readRecords {rows : List (Nat × List RawValue)} {scan scan' : SheetScan}
    (hHeader : scan.header = some header) (hNone : scan.sheetRecordCount = 0)
    (hCells : scan.normalizer.totalCells ≤ reportMaxTotalCells)
    (hWriter : WriterHolds lib scan.normalizer.writer payloads)
    (h : rows.foldlM (fun scan row => SheetScan.readRow lib gz scan sheetIndex sheetName row) scan =
      .ok scan') :
    RecordsRead lib scan.normalizer payloads sheetIndex sheetName header rows scan' := by
  -- the invariant says what has been read after every row
  refine foldlM_history (P := RecordsRead lib scan.normalizer payloads sheetIndex sheetName header) h
    ?_ fun done row x x' _ hRead hStep => hRead.readRow hStep
  refine ⟨hHeader, hNone, rfl, rfl, (Nat.zero_mul _ ▸ rfl), hCells, ?_⟩
  rw [payloads_parsedSheet]
  exact (List.append_nil payloads).symm ▸ hWriter

end sheet

-- ---------------------------------------------------------------------------
-- The header of a sheet
-- ---------------------------------------------------------------------------

/-- Every value of a row is accepted, and none of them is kept. -/
def BlankRow (lib : ReportLibrary) (values : List RawValue) : Prop :=
  ∀ value ∈ values, ∃ cell, normalizeValue lib value = .ok cell ∧ cell.1.isNull = true

/-- A row that is not empty has a cell with a value. -/
theorem rowIsEmpty_eq_false {values : List RawValue} (h : rowIsEmpty lib values = .ok false) :
    ∃ value ∈ values, ∃ cell, normalizeValue lib value = .ok cell ∧ cell.1.isNull = false := by
  induction values with
  | nil => cases h
  | cons value values ih =>
    simp only [rowIsEmpty, bind_eq_ok] at h
    obtain ⟨cell, hCell, h⟩ := h
    split at h
    · obtain ⟨v, hv, hFound⟩ := ih h
      exact ⟨v, List.mem_cons_of_mem _ hv, hFound⟩
    · rename_i hNull
      exact ⟨value, List.mem_cons_self, cell, hCell, by simpa using hNull⟩

/-- A row is empty exactly when nothing is left of it without its empty cells in front. -/
theorem rowIsEmpty_eq (values : List RawValue) :
    rowIsEmpty lib values = (dropNulls lib values).map List.isEmpty := by
  induction values with
  | nil => rfl
  | cons value values ih =>
    cases hCell : normalizeValue lib value with
    | error e =>
      simp only [rowIsEmpty, dropNulls, hCell]
      rfl
    | ok cell =>
      simp only [rowIsEmpty, dropNulls, hCell, bind_ok]
      split
      · exact ih
      · rfl

/-- Where nothing is left, every cell was empty. -/
theorem dropNulls_eq_nil {values : List RawValue} (h : dropNulls lib values = .ok []) :
    BlankRow lib values := by
  induction values with
  | nil => exact fun _ hv => absurd hv (List.not_mem_nil)
  | cons value values ih =>
    simp only [dropNulls, bind_eq_ok] at h
    obtain ⟨cell, hCell, h⟩ := h
    split at h
    · rename_i hNull
      intro v hv
      rcases List.mem_cons.mp hv with rfl | hv
      · exact ⟨cell, hCell, hNull⟩
      · exact ih h v hv
    · cases h

/-- A header that is not blank has a column. -/
theorem trimHeader_ne_nil {values trimmed : List RawValue}
    (hEmpty : rowIsEmpty lib values = .ok false) (h : trimHeader lib values = .ok trimmed) :
    trimmed ≠ [] := by
  simp only [trimHeader, bind_eq_ok] at h
  obtain ⟨reversed, hDrop, h⟩ := h
  obtain rfl := Except.ok.inj h
  intro hNil
  rw [List.reverse_eq_nil_iff] at hNil
  subst hNil
  -- a header row is not blank, so a cell that is not null is left
  obtain ⟨value, hValue, cell, hCell, hNot⟩ := rowIsEmpty_eq_false hEmpty
  obtain ⟨cell', hCell', hNull⟩ := dropNulls_eq_nil hDrop value (List.mem_reverse.mpr hValue)
  obtain rfl := Except.ok.inj (hCell.symm.trans hCell')
  exact Bool.noConfusion (hNot.symm.trans hNull)

/-- `_row_is_empty` answers `True`. -/
def isEmptyRow (lib : ReportLibrary) (values : List RawValue) : Bool :=
  match rowIsEmpty lib values with
  | .ok empty => empty
  | .error _ => false

/-- The sheet of some rows: its header is the first row that is not empty. -/
def sheetOf (lib : ReportLibrary) (sheetIndex : Nat) (sheetName : Str)
    (rows : List (Nat × List RawValue)) : Option ParsedSheet :=
  match rows.dropWhile fun row => isEmptyRow lib row.2 with
  | [] => none
  | headerRow :: rest =>
    match trimHeader lib headerRow.2 >>= buildColumns lib with
    | .ok columns => some (parsedSheet lib sheetIndex sheetName ⟨headerRow.1, columns⟩ rest)
    | .error _ => none

/-- A sheet keeps its number and its name. -/
theorem sheetOf_eq_some {sheetIndex : Nat} {sheetName : Str} {rows : List (Nat × List RawValue)}
    {sheet : ParsedSheet} (h : sheetOf lib sheetIndex sheetName rows = some sheet) :
    sheet.profile.index = sheetIndex ∧ sheet.profile.name = sheetName := by
  unfold sheetOf at h
  split at h
  · cases h
  · split at h
    · obtain rfl := Option.some.inj h
      exact ⟨rfl, rfl⟩
    · cases h

/-- Empty rows in front of the header are passed over. -/
theorem sheetOf_cons_empty {sheetIndex : Nat} {sheetName : Str} {row : Nat × List RawValue}
    (rows : List (Nat × List RawValue)) (hEmpty : rowIsEmpty lib row.2 = .ok true) :
    sheetOf lib sheetIndex sheetName (row :: rows) = sheetOf lib sheetIndex sheetName rows := by
  have hRow : isEmptyRow lib row.2 = true := by rw [isEmptyRow, hEmpty]
  rw [sheetOf, List.dropWhile_cons, if_pos hRow]
  rfl

/-- The first row that is not empty is the header of the sheet. -/
theorem sheetOf_cons_header {sheetIndex : Nat} {sheetName : Str} {row : Nat × List RawValue}
    {trimmed : List RawValue} {columns : List ColumnProfile} (rows : List (Nat × List RawValue))
    (hEmpty : rowIsEmpty lib row.2 = .ok false) (hTrimmed : trimHeader lib row.2 = .ok trimmed)
    (hColumns : buildColumns lib trimmed = .ok columns) :
    sheetOf lib sheetIndex sheetName (row :: rows) =
      some (parsedSheet lib sheetIndex sheetName ⟨row.1, columns⟩ rows) := by
  have hRow : ¬isEmptyRow lib row.2 = true := by
    rw [isEmptyRow, hEmpty]
    exact Bool.false_ne_true
  -- the two steps on the header are made at once by `sheetOf`
  have hBoth : (trimHeader lib row.2 >>= buildColumns lib) = .ok columns :=
    bind_eq_ok.mpr ⟨trimmed, hTrimmed, hColumns⟩
  rw [sheetOf, List.dropWhile_cons, if_neg hRow]
  show (match trimHeader lib row.2 >>= buildColumns lib with
    | .ok columns => some (parsedSheet lib sheetIndex sheetName ⟨row.1, columns⟩ rows)
    | .error _ => none) = _
  rw [hBoth]

/-- The loop over the rows of a sheet finds no header, or one with the records after it. -/
theorem readRows_eq_ok {sheetIndex : Nat} {sheetName : Str} {payloads : List Json}
    {rows : List (Nat × List RawValue)} {scan scan' : SheetScan}
    (hHeader : scan.header = none) (hNone : scan.sheetRecordCount = 0)
    (hCells : scan.normalizer.totalCells ≤ reportMaxTotalCells)
    (hWriter : WriterHolds lib scan.normalizer.writer payloads)
    (h : rows.foldlM (fun scan row => SheetScan.readRow lib gz scan sheetIndex sheetName row) scan =
      .ok scan') :
    (scan'.header = none ∧ scan'.normalizer = scan.normalizer ∧
        sheetOf lib sheetIndex sheetName rows = none) ∨
      ∃ header rest trimmed, buildColumns lib trimmed = .ok header.columns ∧
        sheetOf lib sheetIndex sheetName rows =
          some (parsedSheet lib sheetIndex sheetName header rest) ∧
        RecordsRead lib scan.normalizer payloads sheetIndex sheetName header rest scan' := by
  induction rows generalizing scan with
  | nil =>
    rw [List.foldlM_nil] at h
    obtain rfl := Except.ok.inj h
    exact Or.inl ⟨hHeader, rfl, rfl⟩
  | cons row rows ih =>
    rw [List.foldlM_cons] at h
    obtain ⟨next, hNext, hRest⟩ := bind_eq_ok.mp h
    simp only [SheetScan.readRow, bind_eq_ok, ensure_eq_ok] at hNext
    obtain ⟨-, -, -, -, hNext⟩ := hNext
    rw [hHeader] at hNext
    simp only [SheetScan.readHeader, bind_eq_ok] at hNext
    obtain ⟨empty, hEmpty, hNext⟩ := hNext
    cases empty with
    | true =>
      -- an empty row is passed over
      simp only [if_pos, bind_eq_ok, ensure_eq_ok] at hNext
      obtain ⟨-, -, hNext⟩ := hNext
      obtain rfl := Except.ok.inj hNext
      rw [sheetOf_cons_empty rows hEmpty]
      exact @ih { scan with scannedRows := scan.scannedRows + 1 } hHeader hNone hCells hWriter hRest
    | false =>
      simp only [Bool.false_eq_true, if_false, bind_eq_ok] at hNext
      obtain ⟨trimmed, hTrimmed, hNext⟩ := hNext
      rw [if_neg (by simpa using trimHeader_ne_nil hEmpty hTrimmed)] at hNext
      simp only [bind_eq_ok] at hNext
      obtain ⟨columns, hColumns, hNext⟩ := hNext
      obtain rfl := Except.ok.inj hNext
      refine Or.inr ⟨⟨row.1, columns⟩, rows, trimmed, hColumns,
        sheetOf_cons_header rows hEmpty hTrimmed hColumns, ?_⟩
      let scanned : SheetScan := ⟨scan.normalizer, some ⟨row.1, columns⟩, scan.sheetRecordCount,
        scan.scannedRows + 1⟩
      have hHeader : scanned.header = some ⟨row.1, columns⟩ := rfl
      have hRead := readRecords hHeader hNone hCells hWriter hRest
      exact hRead

-- ---------------------------------------------------------------------------
-- The sheets of a report
-- ---------------------------------------------------------------------------

/-- What holds of a sheet that is emitted: its columns have names of their own and count their
cells, and its records have a typed cell for each of them. -/
structure SheetHolds (lib : ReportLibrary) (sheet : ParsedSheet) : Prop where
  recordCount : sheet.profile.recordCount = sheet.records.length
  width : ∀ r ∈ sheet.records, r.cells.length = sheet.profile.columns.length
  typed : ∀ r ∈ sheet.records, ∀ cell ∈ r.cells, CellTyped cell
  folded_nodup : (sheet.names.map lib.casefold).Nodup
  column : ∀ (i : Nat) (c : ColumnProfile), sheet.profile.columns[i]? = some c →
    ∃ built, ColumnBuilt built ∧ built.index = i ∧ c = built.counting (columnCells sheet.records i)

/-- A sheet that is written out has what is claimed of one. -/
theorem parsedSheet_holds (sheetIndex : Nat) (sheetName : Str) {header : SheetHeader}
    (rows : List (Nat × List RawValue)) {trimmed : List RawValue}
    (hColumns : buildColumns lib trimmed = .ok header.columns) :
    SheetHolds lib (parsedSheet lib sheetIndex sheetName header rows) := by
  have hBuilt := (buildColumns_eq_ok hColumns).1
  have hWidth : ∀ r ∈ recordsOf lib header.columns.length rows,
      r.cells.length = header.columns.length := fun r hr => length_of_mem_recordsOf hr
  refine ⟨rfl, ?_, fun r hr => typed_of_mem_recordsOf hr, ?_, ?_⟩
  · intro r hr
    exact (hWidth r hr).trans (length_observeRecords hWidth).symm
  · rw [names_parsedSheet, List.map_map]
    exact hBuilt.folded_nodup
  · intro i c hc
    have hColumn := (getElem?_observeRecords hWidth i).symm.trans hc
    obtain ⟨built, hGet, rfl⟩ := Option.map_eq_some_iff.mp hColumn
    exact ⟨built, hBuilt.each built (List.mem_of_getElem? hGet), hBuilt.index i built hGet, rfl⟩

/-- **The normalizer.** What it holds is of the sheets that it has emitted. -/
structure ReportHolds (lib : ReportLibrary) (normalizer : ReportNormalizer)
    (sheets : List ParsedSheet) : Prop where
  profiles : normalizer.sheets = sheets.map ParsedSheet.profile
  writer : WriterHolds lib normalizer.writer (sheets.flatMap ParsedSheet.payloads)
  recordCount : normalizer.recordCount = (sheets.map fun s => s.records.length).sum
  totalCells : normalizer.totalCells = (sheets.map ParsedSheet.cellCount).sum
  totalCells_le : normalizer.totalCells ≤ reportMaxTotalCells
  emitted : ∀ s ∈ sheets, SheetHolds lib s

theorem reportHolds_empty : ReportHolds lib {} [] :=
  ⟨rfl, writerHolds_empty, rfl, rfl, Nat.zero_le _, fun _ hs => absurd hs (List.not_mem_nil)⟩

/-- **One sheet.** `add_sheet` emits nothing for rows that are all blank, and otherwise the sheet
of the first row that is not. -/
theorem addSheet_eq_ok {normalizer normalizer' : ReportNormalizer} {sheets : List ParsedSheet}
    {sheetIndex : Nat} {sheetName : Str} {stream : RowStream}
    (hHolds : ReportHolds lib normalizer sheets)
    (h : normalizer.addSheet lib gz sheetIndex sheetName stream = .ok normalizer') :
    ReportHolds lib normalizer'
      (sheets ++ (sheetOf lib sheetIndex sheetName stream.rows).toList) := by
  simp only [ReportNormalizer.addSheet, bind_eq_ok, ensure_eq_ok] at h
  obtain ⟨-, -, scan, hScan, h⟩ := h
  cases hFailure : stream.failure with
  | some failure =>
    rw [hFailure] at h
    cases h
  | none =>
    rw [hFailure] at h
    -- without a header the sheet leaves no trace
    rcases readRows_eq_ok rfl rfl hHolds.totalCells_le hHolds.writer hScan with
      ⟨hNo, hSame, hSheet⟩ | ⟨header, rest, trimmed, hColumns, hSheet, hRead⟩
    · rw [hNo] at h
      rw [hSheet, Option.toList_none, List.append_nil, ← Except.ok.inj h, hSame]
      exact hHolds
    · rw [hRead.columns] at h
      obtain rfl := Except.ok.inj h
      have hCount : (parsedSheet lib sheetIndex sheetName header rest).profile.columns.length =
          header.columns.length := length_observeRecords fun r hr => length_of_mem_recordsOf hr
      rw [hSheet, Option.toList_some]
      -- profiles, records, their number and the cells are those of the sheets so far and of this
      -- one
      refine ⟨?_, ?_, ?_, ?_, hRead.totalCells_le, ?_⟩
      · rw [List.map_append, List.map_singleton, ← hHolds.profiles, ← hRead.sheets]
        show _ ++ [_] = _ ++ [_]
        rw [hRead.sheetRecordCount]
        rfl
      · rw [List.flatMap_append, List.flatMap_singleton]
        exact hRead.writer
      · rw [List.map_append, List.sum_append, List.map_singleton, List.sum_singleton,
          ← hHolds.recordCount]
        exact hRead.recordCount
      · rw [List.map_append, List.sum_append, List.map_singleton, List.sum_singleton,
          ← hHolds.totalCells, ParsedSheet.cellCount, hCount]
        exact hRead.totalCells
      · intro s hs
        rcases List.mem_append.mp hs with hs | hs
        · exact hHolds.emitted s hs
        · rw [List.mem_singleton.mp hs]
          exact parsedSheet_holds sheetIndex sheetName rest hColumns

/-- The sheets of a report have indices in increasing order, from a bound on, and given names. -/
structure SheetsOrdered (sheets : List ParsedSheet) (bound : Nat) (names : List Str) : Prop where
  increasing : (sheets.map fun s => s.profile.index).Pairwise (· < ·)
  le_index : ∀ s ∈ sheets, bound ≤ s.profile.index
  name_mem : ∀ s ∈ sheets, s.profile.name ∈ names

theorem sheetsOrdered_empty (bound : Nat) (names : List Str) : SheetsOrdered [] bound names :=
  ⟨List.Pairwise.nil, fun _ hs => absurd hs (List.not_mem_nil),
    fun _ hs => absurd hs (List.not_mem_nil)⟩

/-- The order holds from an earlier number on, and among more names. -/
theorem SheetsOrdered.weaken {sheets : List ParsedSheet} {bound bound' : Nat} {names names' : List Str}
    (h : SheetsOrdered sheets bound names) (hBound : bound' ≤ bound) (hNames : names ⊆ names') :
    SheetsOrdered sheets bound' names' :=
  ⟨h.increasing, fun s hs => hBound.trans (h.le_index s hs), fun s hs => hNames (h.name_mem s hs)⟩

/-- A sheet in front of those with greater numbers. -/
theorem SheetsOrdered.cons {sheets : List ParsedSheet} {bound : Nat} {names : List Str}
    (h : SheetsOrdered sheets (bound + 1) names) {sheet : ParsedSheet}
    (hIndex : sheet.profile.index = bound) (hName : sheet.profile.name ∈ names) :
    SheetsOrdered (sheet :: sheets) bound names := by
  refine ⟨?_, ?_, ?_⟩
  · rw [List.map_cons, List.pairwise_cons]
    refine ⟨?_, h.increasing⟩
    intro i hi
    obtain ⟨s, hs, rfl⟩ := List.mem_map.mp hi
    have hLe := h.le_index s hs
    omega
  · intro s hs
    rcases List.mem_cons.mp hs with rfl | hs
    · exact hIndex.ge
    · exact (Nat.le_succ bound).trans (h.le_index s hs)
  · intro s hs
    rcases List.mem_cons.mp hs with rfl | hs
    · exact hName
    · exact h.name_mem s hs

/-- The sheets of a workbook. -/
def worksheetSheets (lib : ReportLibrary) (worksheets : List (Worksheet × Nat)) :
    List ParsedSheet :=
  worksheets.flatMap fun w => (sheetOf lib w.2 w.1.title w.1.stream.rows).toList

/-- A report of several worksheets holds their sheets. -/
theorem addWorksheets_eq_ok {worksheets : List Worksheet} {normalizer : ReportNormalizer}
    (h : addWorksheets lib gz worksheets {} = .ok normalizer) :
    ReportHolds lib normalizer (worksheetSheets lib worksheets.zipIdx) := by
  simp only [addWorksheets, bind_eq_ok, ensure_eq_ok] at h
  obtain ⟨-, -, h⟩ := h
  refine foldlM_history (P := fun done normalizer =>
    ReportHolds lib normalizer (worksheetSheets lib done)) h reportHolds_empty ?_
  intro done w start next _ hHolds hNext
  simp only [addWorksheet, bind_eq_ok, ensure_eq_ok] at hNext
  obtain ⟨-, -, -, -, hNext⟩ := hNext
  have hSheet := addSheet_eq_ok hHolds hNext
  rw [worksheetSheets, List.flatMap_append, List.flatMap_singleton]
  exact hSheet

/-- Worksheets are numbered as they come. -/
theorem worksheetSheets_ordered (worksheets : List Worksheet) (k : Nat) :
    SheetsOrdered (worksheetSheets lib (worksheets.zipIdx k)) k
      (worksheets.map Worksheet.title) := by
  induction worksheets generalizing k with
  | nil => exact sheetsOrdered_empty k _
  | cons w worksheets ih =>
    rw [List.zipIdx_cons, worksheetSheets, List.flatMap_cons, List.map_cons]
    cases hSheet : sheetOf lib k w.title w.stream.rows with
    | none => exact (ih (k + 1)).weaken (Nat.le_succ k) (List.subset_cons_self _ _)
    | some sheet =>
      obtain ⟨hIndex, hName⟩ := sheetOf_eq_some hSheet
      exact ((ih (k + 1)).weaken (Nat.le_refl _) (List.subset_cons_self w.title _)).cons hIndex
        (hName ▸ List.mem_cons_self)

variable {books : WorkbookLibrary}

/-- The names that the sheets of a report can have. -/
def sheetTitles (books : WorkbookLibrary) (context : ReportParsingContext) (content : List UInt8) :
    List Str :=
  if context.fileExtension = str "csv" then [str "data"]
  else if context.fileExtension = str "xlsx" then
    ((books.loadXlsx content).getD []).map Worksheet.title
  else ((books.loadXls content).getD []).map Worksheet.title

/-- The sheets that a report has, by its format. -/
def reportSheets (lib : ReportLibrary) (books : WorkbookLibrary) (context : ReportParsingContext)
    (content : List UInt8) : List ParsedSheet :=
  if context.fileExtension = str "csv" then
    (decodeSig? content).elim [] fun decoded =>
      (sheetOf lib 0 (str "data") (csvStream decoded).rows).toList
  else if context.fileExtension = str "xlsx" then
    worksheetSheets lib ((books.loadXlsx content).getD []).zipIdx
  else worksheetSheets lib ((books.loadXls content).getD []).zipIdx

/-- The sheets of a report come in the order of their numbers. -/
theorem reportSheets_ordered (context : ReportParsingContext) (content : List UInt8) :
    SheetsOrdered (reportSheets lib books context content) 0 (sheetTitles books context content) := by
  unfold reportSheets sheetTitles
  split
  · cases decodeSig? content with
    | none => exact sheetsOrdered_empty _ _
    | some decoded =>
      cases hSheet : sheetOf lib 0 (str "data") (csvStream decoded).rows with
      | none =>
        rw [Option.elim_some, hSheet]
        exact sheetsOrdered_empty _ _
      | some sheet =>
        obtain ⟨hIndex, hName⟩ := sheetOf_eq_some hSheet
        rw [Option.elim_some, hSheet]
        exact (sheetsOrdered_empty 1 _).cons hIndex (List.mem_singleton.mpr hName)
  · split
    · exact worksheetSheets_ordered _ 0
    · exact worksheetSheets_ordered _ 0

/-- **A report.** What the parser has accepted is of the sheets of the report. -/
theorem normalizeReport_eq_ok {context : ReportParsingContext} {content : List UInt8}
    {normalizer : ReportNormalizer}
    (h : normalizeReport lib gz books context content = .ok normalizer) :
    ReportHolds lib normalizer (reportSheets lib books context content) := by
  unfold normalizeReport at h
  unfold reportSheets
  split at h
  · -- a text is one sheet
    rename_i hCsv
    simp only [parseCsv, bind_eq_ok, required_eq_ok] at h
    obtain ⟨decoded, hDecoded, h⟩ := h
    rw [if_pos hCsv, hDecoded]
    exact addSheet_eq_ok reportHolds_empty h
  · rename_i hCsv
    rw [if_neg hCsv]
    split at h
    · -- a workbook is loaded first; the worksheets are then read one after the other
      rename_i hXlsx
      rw [if_pos hXlsx]
      simp only [parseXlsx, bind_eq_ok, required_eq_ok] at h
      obtain ⟨-, -, worksheets, hLoad, h⟩ := h
      rw [hLoad]
      exact addWorksheets_eq_ok h
    · rename_i hXlsx
      rw [if_neg hXlsx]
      split at h
      · simp only [parseXls, bind_eq_ok, required_eq_ok] at h
        obtain ⟨worksheets, hLoad, h⟩ := h
        rw [hLoad]
        exact addWorksheets_eq_ok h
      · cases h

end SpikeBackend
