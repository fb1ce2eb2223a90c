import SpikeBackend.Reports.Contracts

/-!
# Lines that the reader accepts

The reader finds the lines that the parser has written, reads the record of each back under the
columns of its sheet, and counts what the parser has counted.

* `streamLines_flatten` — the lines of a stream are those that were written;
* `aggregateLine_eq_ok` — one line;
* `aggregateLines_eq_ok` — every line.
-/

namespace SpikeBackend

open Text Outcome Collections

-- ---------------------------------------------------------------------------
-- Streams
-- ---------------------------------------------------------------------------

/-- A line and its feed stand before the rest of the stream. -/
theorem streamLines_cons (body : List UInt8) (hBody : 0x0A ∉ body) (rest : List UInt8) :
    streamLines (body ++ 0x0A :: rest) = (body ++ [0x0A]) :: streamLines rest := by
  induction body with
  | nil =>
    show consByte 0x0A (streamLines rest) = _
    cases hRest : streamLines rest with
    | nil => rfl
    | cons line lines =>
      rw [consByte]
      exact if_pos rfl
  | cons b body ih =>
    rw [List.mem_cons, not_or] at hBody
    show consByte b (streamLines (body ++ 0x0A :: rest)) = _
    -- A byte that is no feed joins the line that follows.
    rw [ih hBody.2, consByte]
    exact if_neg fun h => hBody.1 h.symm

/-- Lines that end where they say are found again. -/
theorem streamLines_flatten {lines : List (List UInt8)}
    (hLines : ∀ line ∈ lines, ∃ body, line = body ++ [0x0A] ∧ 0x0A ∉ body) :
    streamLines lines.flatten = lines := by
  induction lines with
  | nil => rfl
  | cons line lines ih =>
    obtain ⟨body, rfl, hBody⟩ := hLines _ List.mem_cons_self
    rw [List.flatten_cons, List.append_assoc, List.singleton_append, streamLines_cons body hBody,
      ih fun line' h => hLines line' (List.mem_cons_of_mem _ h)]

/-- What is written is one line. -/
theorem jsonLine_body {lib : ReportLibrary} {payload : Json} {line : List UInt8}
    (h : jsonLine lib payload = some line) :
    ∃ body, line = body ++ [0x0A] ∧ 0x0A ∉ body ∧
      encode? (jsonText lib.floatRepr payload) = some body := by
  obtain ⟨body, hBody, rfl⟩ := Option.map_eq_some_iff.mp h
  unfold jsonBytes at hBody
  split at hBody
  · refine ⟨body, rfl, ?_, hBody⟩
    -- A feed in the bytes would be a character of the JSON text, which escapes it.
    intro hMem
    rw [(encode?_eq_some.mp hBody).2] at hMem
    obtain ⟨c, hc, hByte⟩ := List.mem_flatMap.mp hMem
    have hFeed : c = lineFeed := Fin.ext (mem_encodeChar hByte (by decide))
    exact lineFeed_not_mem_jsonText lib.lineFeed_not_mem_floatRepr payload (hFeed ▸ hc)
  · cases hBody

-- ---------------------------------------------------------------------------
-- Records
-- ---------------------------------------------------------------------------

/-- A record and the sheet that it is of. -/
abbrev Entry := ParsedSheet × SheetRecord

namespace Entry

variable (e : Entry)

def payload : Json := e.1.payload e.2

def values : Dict := e.2.values e.1.names

/-- The row that the insight observes. -/
def row (jobId : Uuid) : InsightRow := ⟨⟨jobId, e.1.profile.index, e.1.profile.name⟩, e.values⟩

end Entry

/-- The records of some sheets. -/
def sheetEntries (sheets : List ParsedSheet) : List Entry :=
  sheets.flatMap fun sheet => sheet.records.map fun r => (sheet, r)

/-- The payloads of the entries are those of the sheets, in their order. -/
theorem payloads_sheetEntries (sheets : List ParsedSheet) :
    (sheetEntries sheets).map Entry.payload = sheets.flatMap ParsedSheet.payloads := by
  simp only [sheetEntries, List.map_flatMap, List.map_map]
  rfl

/-- The keys of a record's values are the names. -/
theorem keys_values {names : List Str} {r : SheetRecord} (hWidth : r.cells.length = names.length) :
    (r.values names).map Prod.fst = names := by
  rw [SheetRecord.values, List.map_zipWith]
  refine List.ext_getElem (by simp [hWidth]) ?_
  intro i hi hi'
  rw [List.getElem_zipWith]

/-- A value is found under the name of its column. -/
theorem get_values {names : List Str} (hNodup : names.Nodup) {r : SheetRecord}
    (hWidth : r.cells.length = names.length) {i : Nat} {name : Str} {cell : Json × ValueType}
    (hName : names[i]? = some name) (hCell : r.cells[i]? = some cell) :
    Dict.get (r.values names) name = cell.1 := by
  have hMem : (name, cell.1) ∈ r.values names := by
    refine List.mem_of_getElem? (i := i) ?_
    rw [SheetRecord.values, List.getElem?_zipWith, hName, hCell]
  have hLookup := (Dict.lookup_eq_some ((keys_values hWidth).symm ▸ hNodup)).mpr hMem
  rw [Dict.get, Dict.getD, hLookup]
  rfl

theorem SheetHolds.names_nodup {lib : ReportLibrary} {sheet : ParsedSheet}
    (h : SheetHolds lib sheet) : sheet.names.Nodup := List.Nodup.of_map _ h.folded_nodup

theorem SheetHolds.width_names {lib : ReportLibrary} {sheet : ParsedSheet}
    (h : SheetHolds lib sheet) {r : SheetRecord} (hr : r ∈ sheet.records) :
    r.cells.length = sheet.names.length :=
  (h.width r hr).trans (List.length_map _).symm

/-- The values of a record are just the columns that are expected. -/
theorem sameColumns_values {names : List Str} {r : SheetRecord}
    (hWidth : r.cells.length = names.length) : sameColumns (r.values names) names = true := by
  have hKeys := keys_values hWidth
  rw [sameColumns, Bool.and_eq_true, List.all_eq_true, List.all_eq_true]
  constructor
  · intro m hm
    exact decide_eq_true (hKeys ▸ List.mem_map.mpr ⟨m, hm, rfl⟩)
  · intro name hName
    exact Dict.contains_eq_true.mpr (hKeys.symm ▸ hName)

-- ---------------------------------------------------------------------------
-- Accumulators
-- ---------------------------------------------------------------------------

section accumulators

variable (lib : StandardLibrary) (ctx : Context)

/-- The accumulator of a column after some values. -/
def accumulated (values : List Json) : ColumnAccumulator :=
  values.foldl (fun column value => column.observe lib ctx value) {}

variable {lib ctx}

theorem accumulated_concat (values : List Json) (value : Json) :
    accumulated lib ctx (values ++ [value]) = (accumulated lib ctx values).observe lib ctx value := by
  rw [accumulated, List.foldl_append]
  rfl

/-- A value is counted once, as null or as not. -/
theorem observe_counts (column : ColumnAccumulator) (value : Json) :
    (column.observe lib ctx value).nullCount = column.nullCount + (if value.isNull then 1 else 0) ∧
      (column.observe lib ctx value).nonNullCount =
        column.nonNullCount + (if value.isNull then 0 else 1) := by
  unfold ColumnAccumulator.observe
  split
  · exact ⟨rfl, rfl⟩
  · cases snapshotStrictDecimal lib value <;> exact ⟨rfl, rfl⟩

/-- An accumulator counts the values that are null and those that are not. -/
theorem accumulated_counts (values : List Json) :
    (accumulated lib ctx values).nullCount = values.countP Json.isNull ∧
      (accumulated lib ctx values).nullCount + (accumulated lib ctx values).nonNullCount =
        values.length := by
  induction values using List.reverseRecOn with
  | nil => exact ⟨rfl, rfl⟩
  | append_singleton values value ih =>
    obtain ⟨hNull, hNonNull⟩ := @observe_counts lib ctx
      (accumulated lib ctx values) value
    rw [accumulated_concat, hNull, hNonNull, List.countP_append, List.countP_singleton,
      List.length_append, List.length_singleton, ih.1]
    refine ⟨rfl, ?_⟩
    -- Null or not, the value adds one to the sum of both.
    have hTotal := ih.2
    rw [ih.1] at hTotal
    split <;> omega

/-- One row, column by column. -/
theorem observeColumns_eq {names : List Str} (hNodup : names.Nodup)
    (columns : Str → ColumnAccumulator) (values : Dict) {name : Str} (hName : name ∈ names) :
    observeColumns lib ctx columns names values name =
      (columns name).observe lib ctx (values.get name) := by
  -- The columns of other names are left alone, so each is observed once.
  have hOther : ∀ (names : List Str) (columns : Str → ColumnAccumulator), name ∉ names →
      observeColumns lib ctx columns names values name = columns name := by
    intro names
    induction names with
    | nil => exact fun _ _ => rfl
    | cons n names ih =>
      intro columns hNot
      rw [List.mem_cons, not_or] at hNot
      rw [observeColumns, List.foldl_cons]
      refine (ih _ hNot.2).trans ?_
      exact Function.update_of_ne hNot.1 _ _
  induction names generalizing columns with
  | nil => exact absurd hName (List.not_mem_nil)
  | cons n names ih =>
    rw [List.nodup_cons] at hNodup
    rw [observeColumns, List.foldl_cons]
    rcases List.mem_cons.mp hName with rfl | hRest
    · refine (hOther names _ hNodup.1).trans ?_
      exact Function.update_self _ _ _
    · have hNe : name ≠ n := fun h => hNodup.1 (h ▸ hRest)
      refine (ih hNodup.2 _ hRest).trans ?_
      rw [Function.update_of_ne hNe]

end accumulators

-- ---------------------------------------------------------------------------
-- One line
-- ---------------------------------------------------------------------------

section lines

variable {lib : StandardLibrary} {ctx : Context} {art : ArtifactLibrary} {jobId : Uuid}
  {sheets : List ParsedSheet}

/-- The records of the sheet with a key. -/
def entriesOf (key : Int × Str) (entries : List Entry) : List Entry :=
  entries.filter fun e => e.1.contract.key = key

/-- What the reader holds after some lines, and the records that are in them. -/
structure AggregationHolds (lib : StandardLibrary) (ctx : Context) (jobId : Uuid)
    (sheets : List ParsedSheet) (entries : List Entry) (lines : List (List UInt8))
    (s : Aggregation) : Prop where
  totalUncompressed : s.totalUncompressed = lines.flatten.length
  totalRecords : s.totalRecords = entries.length
  rowCounts : ∀ key, s.rowCounts key = (entriesOf key entries).length
  columns : ∀ sheet ∈ sheets, ∀ name ∈ sheet.names, s.columns sheet.contract.key name =
    accumulated lib ctx ((entriesOf sheet.contract.key entries).map fun e => Dict.get e.values name)
  rows : s.rows = entries.map fun e => e.row jobId

theorem aggregationHolds_empty : AggregationHolds lib ctx jobId sheets [] [] {} :=
  ⟨rfl, rfl, fun _ => rfl, fun _ _ _ _ => rfl, rfl⟩

/-- The contract of a sheet is found by its key. -/
theorem find?_contract (hKeys : ((sheets.map ParsedSheet.contract).map SheetContract.key).Nodup)
    {sheet : ParsedSheet} (hSheet : sheet ∈ sheets) :
    (sheets.map ParsedSheet.contract).find? (fun c => c.key = sheet.contract.key) =
      some sheet.contract := by
  induction sheets with
  | nil => exact absurd hSheet (List.not_mem_nil)
  | cons s sheets ih =>
    rw [List.map_cons, List.map_cons, List.nodup_cons] at hKeys
    rw [List.map_cons, List.find?_cons]
    rcases List.mem_cons.mp hSheet with rfl | hSheet
    · rw [decide_eq_true rfl]
    · -- Keys are distinct, so the search passes over the sheets before.
      have hNe : s.contract.key ≠ sheet.contract.key := by
        intro hEq
        exact hKeys.1 (List.mem_map.mpr
          ⟨sheet.contract, List.mem_map.mpr ⟨sheet, hSheet, rfl⟩, hEq.symm⟩)
      rw [decide_eq_false hNe]
      exact ih hKeys.2 hSheet

/-- A line that loads to a payload is its row. -/
theorem loadRow_payload {e : Entry} {line : List UInt8}
    (hLoads : art.loadsBytes line = some e.payload) :
    loadRow art line = .ok ⟨e.1.contract.key, e.values⟩ := by
  simp only [loadRow, bind_eq_ok, required_eq_ok]
  exact ⟨_, hLoads, _, rfl, _, rfl, _, rfl, _, rfl, rfl⟩

/-- One more entry belongs to its own sheet. -/
theorem entriesOf_concat (key : Int × Str) (entries : List Entry) (e : Entry) :
    entriesOf key (entries ++ [e]) =
      entriesOf key entries ++ if e.1.contract.key = key then [e] else [] := by
  rw [entriesOf, List.filter_append, List.filter_singleton]
  congr 1
  by_cases hKey : e.1.contract.key = key
  · rw [if_pos hKey, decide_eq_true hKey]
    rfl
  · rw [if_neg hKey, decide_eq_false hKey]
    rfl

/-- **One line.** The line of a record is accepted and observed. -/
theorem aggregateLine_eq_ok
    (hKeys : ((sheets.map ParsedSheet.contract).map SheetContract.key).Nodup)
    (hHolds : ∀ sheet ∈ sheets, SheetHolds art.report sheet)
    {entries : List Entry} {lines : List (List UInt8)} {s : Aggregation}
    (hRead : AggregationHolds lib ctx jobId sheets entries lines s) {e : Entry} {line : List UInt8}
    (hSheet : e.1 ∈ sheets) (hRecord : e.2 ∈ e.1.records)
    (hLoads : art.loadsBytes line = some e.payload)
    (hLine : line.length ≤ dashboardMaxNormalizedLineBytes)
    (hTotal : (lines ++ [line]).flatten.length ≤ reportMaxNormalizedUncompressedBytes) :
    ∃ s', aggregateLine lib ctx art jobId (sheets.map ParsedSheet.contract) s line = .ok s' ∧
      AggregationHolds lib ctx jobId sheets (entries ++ [e]) (lines ++ [line]) s' := by
  have hSheetHolds := hHolds e.1 hSheet
  have hBytes : s.totalUncompressed + line.length = (lines ++ [line]).flatten.length := by
    rw [hRead.totalUncompressed, List.flatten_append, List.length_append, List.flatten_singleton]
  have hDone : aggregateLine lib ctx art jobId (sheets.map ParsedSheet.contract) s line = .ok
      { totalUncompressed := s.totalUncompressed + line.length
        rowCounts := Function.update s.rowCounts e.1.contract.key (s.rowCounts e.1.contract.key + 1)
        totalRecords := s.totalRecords + 1
        columns := Function.update s.columns e.1.contract.key
          (observeColumns lib ctx (s.columns e.1.contract.key) e.1.names e.values)
        rows := s.rows ++ [e.row jobId] } := by
    simp only [aggregateLine, bind_eq_ok, required_eq_ok, ensure_eq_ok]
    exact ⟨(), hLine, (), hBytes ▸ hTotal, _, loadRow_payload hLoads, _, find?_contract hKeys hSheet,
      (), sameColumns_values (hSheetHolds.width_names hRecord), rfl⟩
  refine ⟨_, hDone, hBytes, ?_, ?_, ?_, ?_⟩
  · show s.totalRecords + 1 = _
    rw [hRead.totalRecords, List.length_append, List.length_singleton]
  · intro key
    show Function.update s.rowCounts _ _ key = _
    rw [entriesOf_concat, List.length_append]
    by_cases hKey : e.1.contract.key = key
    · rw [if_pos hKey, ← hKey, Function.update_self, hRead.rowCounts]
      rfl
    · rw [if_neg hKey, Function.update_of_ne (Ne.symm hKey), hRead.rowCounts]
      rfl
  · intro sheet hMem name hName
    show Function.update s.columns _ _ sheet.contract.key name = _
    rw [entriesOf_concat, List.map_append]
    by_cases hKey : e.1.contract.key = sheet.contract.key
    · -- sheets with one key are one sheet
      have hSame : e.1.names = sheet.names := by
        have hFind := find?_contract hKeys hSheet
        rw [hKey, find?_contract hKeys hMem] at hFind
        exact (congrArg SheetContract.columns (Option.some.inj hFind)).symm
      rw [if_pos hKey, hKey, Function.update_self, List.map_singleton, accumulated_concat,
        ← hRead.columns sheet hMem name hName]
      show observeColumns lib ctx _ e.1.names e.values name = _
      exact observeColumns_eq hSheetHolds.names_nodup _ _ (hSame ▸ hName)
    · rw [if_neg hKey, Function.update_of_ne (Ne.symm hKey), List.map_nil, List.append_nil]
      exact hRead.columns sheet hMem name hName
  · show s.rows ++ [e.row jobId] = _
    rw [hRead.rows, List.map_append, List.map_singleton]

/-- **Every line.** The lines of some records are accepted and observed. -/
theorem aggregateLines_eq_ok
    (hKeys : ((sheets.map ParsedSheet.contract).map SheetContract.key).Nodup)
    (hHolds : ∀ sheet ∈ sheets, SheetHolds art.report sheet)
    {entries : List Entry} {lines : List (List UInt8)}
    (hEntries : ∀ e ∈ entries, e.1 ∈ sheets ∧ e.2 ∈ e.1.records)
    (hLines : lines.map some = entries.map fun e => jsonLine art.report e.payload)
    (hLoads : ∀ e ∈ entries, ∀ line, jsonLine art.report e.payload = some line →
      art.loadsBytes line = some e.payload)
    (hBounds : ∀ line ∈ lines, line.length ≤ dashboardMaxNormalizedLineBytes)
    (hTotal : lines.flatten.length ≤ reportMaxNormalizedUncompressedBytes) :
    ∃ s, lines.foldlM (aggregateLine lib ctx art jobId (sheets.map ParsedSheet.contract)) {} =
        .ok s ∧ AggregationHolds lib ctx jobId sheets entries lines s := by
  induction entries using List.reverseRecOn generalizing lines with
  | nil =>
    obtain rfl := List.map_eq_nil_iff.mp hLines
    exact ⟨{}, rfl, aggregationHolds_empty⟩
  | append_singleton entries e ih =>
    rw [List.map_append, List.map_singleton] at hLines
    obtain ⟨lines, last, rfl, hFirst, hLast⟩ := List.map_eq_append_iff.mp hLines
    obtain ⟨line, rfl, hLine⟩ := List.map_eq_singleton_iff.mp hLast
    -- The bound on the whole stream holds of each part of it.
    have hShorter : lines.flatten.length ≤ (lines ++ [line]).flatten.length := by
      rw [List.flatten_append, List.length_append]
      exact Nat.le_add_right _ _
    obtain ⟨s, hFold, hRead⟩ := ih (fun e' h => hEntries e' (List.mem_append_left _ h)) hFirst
      (fun e' h => hLoads e' (List.mem_append_left _ h))
      (fun line' h => hBounds line' (List.mem_append_left _ h)) (hShorter.trans hTotal)
    have hMem : e ∈ entries ++ [e] := List.mem_append_right _ (List.mem_singleton.mpr rfl)
    -- The last line is read from the state after the others.
    obtain ⟨s', hStep, hNext⟩ := aggregateLine_eq_ok hKeys hHolds hRead (hEntries e hMem).1
      (hEntries e hMem).2 (hLoads e hMem line hLine.symm)
      (hBounds line (List.mem_append_right _ (List.mem_singleton.mpr rfl))) hTotal
    refine ⟨s', ?_, hNext⟩
    rw [List.foldlM_append]
    refine bind_eq_ok.mpr ⟨s, hFold, ?_⟩
    rw [List.foldlM_cons, hStep]
    rfl

/-- The records of one sheet among those of all. -/
theorem entriesOf_sheetEntries
    (hKeys : ((sheets.map ParsedSheet.contract).map SheetContract.key).Nodup)
    {sheet : ParsedSheet} (hSheet : sheet ∈ sheets) :
    entriesOf sheet.contract.key (sheetEntries sheets) = sheet.records.map fun r => (sheet, r) := by
  -- the records of a sheet with another key are left out
  have hOther : ∀ s : ParsedSheet, s.contract.key ≠ sheet.contract.key →
      entriesOf sheet.contract.key (s.records.map fun r => (s, r)) = [] := by
    intro s hNe
    refine List.filter_eq_nil_iff.mpr ?_
    intro e he
    obtain ⟨r, -, rfl⟩ := List.mem_map.mp he
    simpa using hNe
  have hOwn : entriesOf sheet.contract.key (sheet.records.map fun r => (sheet, r)) =
      sheet.records.map fun r => (sheet, r) := by
    refine List.filter_eq_self.mpr ?_
    intro e he
    obtain ⟨r, -, rfl⟩ := List.mem_map.mp he
    exact decide_eq_true rfl
  induction sheets with
  | nil => exact absurd hSheet (List.not_mem_nil)
  | cons s sheets ih =>
    rw [List.map_cons, List.map_cons, List.nodup_cons] at hKeys
    rw [sheetEntries, List.flatMap_cons, entriesOf, List.filter_append]
    have hRest : ∀ s' ∈ sheets, s.contract.key ≠ s'.contract.key := by
      intro s' hs' hEq
      exact hKeys.1 (List.mem_map.mpr ⟨s'.contract, List.mem_map.mpr ⟨s', hs', rfl⟩, hEq.symm⟩)
    rcases List.mem_cons.mp hSheet with rfl | hSheet
    · have hNone : entriesOf sheet.contract.key (sheetEntries sheets) = [] := by
        refine List.filter_eq_nil_iff.mpr ?_
        intro e he
        obtain ⟨s', hs', he⟩ := List.mem_flatMap.mp he
        obtain ⟨r, -, rfl⟩ := List.mem_map.mp he
        simpa using (hRest s' hs').symm
      exact (congrArg₂ (· ++ ·) hOwn hNone).trans (List.append_nil _)
    · exact congrArg₂ (· ++ ·) (hOther s (hRest sheet hSheet)) (ih hKeys.2 hSheet)

end lines

end SpikeBackend
