import SpikeBackend.Model.SourceArtifacts
import SpikeBackend.Reports.Parsing

/-!
# Profiles that the reader accepts

The profile that the parser writes for its sheets passes every check of
`_profile_sheet_contract`, and the reader relies on just these sheets afterwards.

* `columnContract_render`, `sheetContract_render` — one column, one sheet;
* `profileSheetContract_eq_ok` — the sheets of a profile.
-/

namespace SpikeBackend

open Text Outcome Collections

variable {lib : ReportLibrary}

-- ---------------------------------------------------------------------------
-- Type counts
-- ---------------------------------------------------------------------------

/-- The members of `type_counts`. -/
def typeCountMembers (typeCounts : ValueType → Nat) : Dict :=
  (valueTypeOrder.filter fun t => typeCounts t != 0).map fun t => (t.value, .int (typeCounts t))

/-- Each type is counted under a name of its own. -/
theorem keys_typeCountMembers_nodup (typeCounts : ValueType → Nat) :
    ((typeCountMembers typeCounts).map Prod.fst).Nodup := by
  have hAll : (valueTypeOrder.map ValueType.value).Nodup := by decide
  rw [typeCountMembers, List.map_map]
  exact hAll.sublist (List.filter_sublist.map ValueType.value)

/-- Sorting the counts keeps their members. -/
theorem sortedMembers_typeCountMembers_perm (typeCounts : ValueType → Nat) :
    (Json.sortedMembers (typeCountMembers typeCounts)).Perm (typeCountMembers typeCounts) := by
  refine (Json.sortedMembers_perm _).trans (List.Perm.of_eq ?_)
  rw [typeCountMembers, List.map_map]
  exact List.map_congr_left fun t _ => rfl

/-- Leaving out zeros does not change a sum. -/
theorem sum_filter_ne_zero (f : ValueType → Nat) (types : List ValueType) :
    ((types.filter fun t => f t != 0).map fun t => (f t : Int)).sum = ((types.map f).sum : Nat) := by
  induction types with
  | nil => rfl
  | cons t types ih =>
    rw [List.filter_cons, List.map_cons, List.sum_cons, Int.natCast_add, ← ih]
    split
    · rfl
    · rename_i hZero
      have hValue : f t = 0 := by simpa using hZero
      rw [hValue, Int.natCast_zero, zero_add]

theorem null_ne_value {t : ValueType} (hType : t ≠ .null) : (str "null" != t.value) = true := by
  cases t
  case null => exact absurd rfl hType
  all_goals rfl

/-- The count under null, zero when it is left out. -/
theorem getD_typeCountMembers (typeCounts : ValueType → Nat) :
    Dict.getD (Json.sortedMembers (typeCountMembers typeCounts)) (str "null") (.int 0) =
      .int (typeCounts .null) := by
  have hPerm := sortedMembers_typeCountMembers_perm typeCounts
  have hNodup := keys_typeCountMembers_nodup typeCounts
  rw [Dict.getD, ← Dict.lookup_perm hPerm.symm hNodup]
  -- A count of zero is not written, and reading it gives the default.
  by_cases hZero : typeCounts .null = 0
  · have hNone : (typeCountMembers typeCounts).lookup (str "null") = none := by
      refine List.lookup_eq_none_iff.mpr ?_
      intro m hm
      obtain ⟨t, ht, rfl⟩ := List.mem_map.mp hm
      have hType : t ≠ .null := by
        rintro rfl
        simp [hZero] at ht
      exact null_ne_value hType
    rw [hNone, hZero]
    rfl
  · have hSome : (typeCountMembers typeCounts).lookup (str "null") =
        some (.int (typeCounts .null)) := by
      refine (Dict.lookup_eq_some hNodup).mpr (List.mem_map.mpr ⟨.null, ?_, rfl⟩)
      exact List.mem_filter.mpr ⟨List.mem_cons_self, by simpa using hZero⟩
    rw [hSome]
    rfl

/-- The counts of the types that occur pass the checks. -/
theorem typeCountsValid_members {typeCounts : ValueType → Nat} {recordCount : Nat}
    (hTotal : (valueTypeOrder.map typeCounts).sum = recordCount) :
    typeCountsValid recordCount (typeCounts .null)
      (Json.sortedMembers (typeCountMembers typeCounts)) = true := by
  have hPerm := sortedMembers_typeCountMembers_perm typeCounts
  have hKnown : ∀ m ∈ typeCountMembers typeCounts, m.1 ∈ valueTypeOrder.map ValueType.value := by
    intro m hm
    obtain ⟨t, ht, rfl⟩ := List.mem_map.mp hm
    exact List.mem_map.mpr ⟨t, (List.mem_filter.mp ht).1, rfl⟩
  -- Only counts other than zero are written.
  have hPositive : ∀ m ∈ typeCountMembers typeCounts,
      ((m.2.int?).any fun n => decide (0 < n)) = true := by
    intro m hm
    obtain ⟨t, ht, rfl⟩ := List.mem_map.mp hm
    have hCount : typeCounts t ≠ 0 := by simpa using (List.mem_filter.mp ht).2
    show decide (0 < (typeCounts t : Int)) = true
    exact decide_eq_true (Int.natCast_pos.mpr (Nat.pos_of_ne_zero hCount))
  have hSum : ((typeCountMembers typeCounts).filterMap fun m => m.2.int?).sum =
      (recordCount : Int) := by
    rw [typeCountMembers, List.filterMap_map, ← hTotal, ← sum_filter_ne_zero]
    rw [← List.filterMap_eq_map]
    rfl
  rw [typeCountsValid, getD_typeCountMembers]
  simp only [Bool.and_eq_true, List.all_eq_true, decide_eq_true_eq]
  -- Known names, positive counts, their sum, and the nulls.
  refine ⟨⟨⟨?_, ?_⟩, ?_⟩, ?_⟩
  · exact fun m hm => hKnown m (hPerm.mem_iff.mp hm)
  · exact fun m hm => hPositive m (hPerm.mem_iff.mp hm)
  · rw [← hSum]
    exact (hPerm.filterMap _).sum_eq
  · exact beq_self_eq_true _

-- ---------------------------------------------------------------------------
-- Columns
-- ---------------------------------------------------------------------------

/-- What is written of a column after its records. -/
structure ColumnCounted (column : ColumnProfile) (recordCount : Nat) : Prop where
  name_ne_nil : column.name ≠ []
  generated_iff : column.generated = column.sourceName.isNone
  source_ne_nil : ∀ s, column.sourceName = some s → s ≠ []
  total : column.totalCount = recordCount

/-- No type is counted more often than all together. -/
theorem typeCount_le_total (column : ColumnProfile) :
    column.typeCounts .null ≤ column.totalCount := by
  show column.typeCounts .null ≤ ((.null :: valueTypeOrder.tail).map column.typeCounts).sum
  rw [List.map_cons, List.sum_cons]
  exact Nat.le_add_right _ _

/-- **A column.** What the parser writes of a column passes the reader's checks. -/
theorem columnContract_render {column : ColumnProfile} {recordCount i : Nat}
    (hColumn : ColumnCounted column recordCount) (hIndex : column.index = i) :
    columnContract recordCount (column.render.sortKeys, i) = .ok column.name := by
  have hNodup : ([str "index", str "name", str "source_name", str "generated", str "null_count",
      str "non_null_count", str "type_counts"] : List Str).Nodup := by decide
  let members : Dict := [(str "index", .int column.index), (str "name", .str column.name),
    (str "source_name", .ofStr? column.sourceName), (str "generated", .bool column.generated),
    (str "null_count", .int (column.typeCounts .null)),
    (str "non_null_count", .int (column.totalCount - column.typeCounts .null)),
    (str "type_counts", .obj (typeCountMembers column.typeCounts))]
  have hRender : column.render.sortKeys = .obj (Json.sortedMembers members) := Json.sortKeys_obj _
  have hGet := fun key => Dict.get_sortedMembers (d := members) hNodup key
  have hIndexGet : Dict.get (Json.sortedMembers members) (str "index") = .int column.index := hGet _
  have hNameGet : Dict.get (Json.sortedMembers members) (str "name") = .str column.name := hGet _
  have hGeneratedGet : Dict.get (Json.sortedMembers members) (str "generated") =
      .bool column.generated := hGet _
  have hNullGet : Dict.get (Json.sortedMembers members) (str "null_count") =
      .int (column.typeCounts .null) := hGet _
  have hNonNullGet : Dict.get (Json.sortedMembers members) (str "non_null_count") =
      .int (column.totalCount - column.typeCounts .null) := hGet _
  have hTypesGet : Dict.get (Json.sortedMembers members) (str "type_counts") =
      .obj (Json.sortedMembers (typeCountMembers column.typeCounts)) :=
    (hGet _).trans (Json.sortKeys_obj _)
  have hSourceGet : Dict.get (Json.sortedMembers members) (str "source_name") =
      .ofStr? column.sourceName := by
    refine (hGet _).trans ?_
    show (Json.ofStr? column.sourceName).sortKeys = _
    cases column.sourceName <;> rfl
  have hLe := typeCount_le_total column
  have hTypes := typeCountsValid_members hColumn.total
  -- A generated name has no source, a source name is not empty.
  have hSource : (column.generated = true → (Json.ofStr? column.sourceName).isNull = true) ∧
      (column.generated = false →
        ((Json.ofStr? column.sourceName).str?.any fun s => !s.isEmpty) = true) := by
    rw [hColumn.generated_iff]
    cases hName : column.sourceName with
    | none => exact ⟨fun _ => rfl, fun h => Bool.noConfusion h⟩
    | some s =>
      refine ⟨fun h => Bool.noConfusion h, fun _ => ?_⟩
      simpa [Json.ofStr?, Json.str?] using hColumn.source_ne_nil s hName
  rw [hRender]
  simp only [columnContract, bind_eq_ok, required_eq_ok, ensure_eq_ok]
  -- One component for each check of the contract, in its order.
  refine ⟨_, rfl, column.name, by rw [hNameGet]; rfl, (), hColumn.name_ne_nil, (), ?_,
    column.generated, by rw [hGeneratedGet]; rfl, (), by rw [hSourceGet]; exact hSource.1, (),
    by rw [hSourceGet]; exact hSource.2, column.typeCounts .null, by rw [hNullGet]; rfl, (), ?_,
    column.totalCount - column.typeCounts .null, by rw [hNonNullGet]; rfl, (), ?_, (), ?_,
    _, by rw [hTypesGet]; rfl, (), hTypes, rfl⟩
  · rw [hIndexGet, hIndex]
    exact beq_self_eq_true _
  · exact Int.natCast_nonneg _
  · omega
  · rw [← hColumn.total]
    omega

/-- Each column of a sheet is counted and stands at its index. -/
theorem SheetHolds.counted {sheet : ParsedSheet} (h : SheetHolds lib sheet) {i : Nat}
    {column : ColumnProfile} (hColumn : sheet.profile.columns[i]? = some column) :
    ColumnCounted column sheet.profile.recordCount ∧ column.index = i := by
  obtain ⟨built, hBuilt, hIndex, rfl⟩ := h.column i column hColumn
  refine ⟨⟨hBuilt.name_ne_nil, hBuilt.generated_iff, hBuilt.source_ne_nil, ?_⟩, hIndex⟩
  have hWidth : ∀ r ∈ sheet.records, i < r.cells.length := by
    intro r hr
    rw [h.width r hr]
    exact (List.getElem?_eq_some_iff.mp hColumn).1
  rw [totalCount_counting hBuilt.typeCounts_zero, length_columnCells hWidth, h.recordCount]

-- ---------------------------------------------------------------------------
-- Sheets
-- ---------------------------------------------------------------------------

/-- The sheet as the reader relies on it. -/
def ParsedSheet.contract (sheet : ParsedSheet) : SheetContract :=
  ⟨sheet.profile.index, sheet.profile.name, sheet.profile.recordCount, sheet.names⟩

/-- The columns of a sheet. -/
theorem columnContracts_render {sheet : ParsedSheet} (h : SheetHolds lib sheet) :
    (sheet.profile.columns.map fun c => c.render.sortKeys).zipIdx.mapM
      (columnContract sheet.profile.recordCount) = .ok sheet.names := by
  rw [mapM_eq_ok, ParsedSheet.names]
  refine List.forall₂_iff_get.mpr ⟨by simp, ?_⟩
  intro i hi hi'
  have hLength : i < sheet.profile.columns.length := by simpa using hi'
  obtain ⟨hCounted, hIndex⟩ := h.counted (List.getElem?_eq_getElem hLength)
  simpa using columnContract_render hCounted hIndex

/-- **A sheet.** What the parser writes of a sheet passes the reader's checks. -/
theorem sheetContract_render {art : ArtifactLibrary} {sheet : ParsedSheet}
    (h : SheetHolds art.report sheet) (hName : sheet.profile.name ≠ []) :
    sheetContract art sheet.profile.render.sortKeys = .ok sheet.contract := by
  have hNodup : ([str "index", str "name", str "header_row_number", str "record_count",
      str "columns"] : List Str).Nodup := by decide
  let members : Dict := [(str "index", .int sheet.profile.index),
    (str "name", .str sheet.profile.name),
    (str "header_row_number", .int sheet.profile.headerRowNumber),
    (str "record_count", .int sheet.profile.recordCount),
    (str "columns", .arr (sheet.profile.columns.map ColumnProfile.render))]
  have hRender : sheet.profile.render.sortKeys = .obj (Json.sortedMembers members) :=
    Json.sortKeys_obj _
  have hGet := fun key => Dict.get_sortedMembers (d := members) hNodup key
  have hIndexGet : Dict.get (Json.sortedMembers members) (str "index") =
      .int sheet.profile.index := hGet _
  have hNameGet : Dict.get (Json.sortedMembers members) (str "name") =
      .str sheet.profile.name := hGet _
  have hCountGet : Dict.get (Json.sortedMembers members) (str "record_count") =
      .int sheet.profile.recordCount := hGet _
  -- The columns are sorted one level down.
  have hColumnsGet : Dict.get (Json.sortedMembers members) (str "columns") =
      .arr (sheet.profile.columns.map fun c => c.render.sortKeys) := by
    refine (hGet _).trans ((Json.sortKeys_arr _).trans ?_)
    rw [List.map_map]
    rfl
  rw [hRender]
  simp only [sheetContract, bind_eq_ok, required_eq_ok, ensure_eq_ok]
  refine ⟨_, rfl, sheet.profile.index, by rw [hIndexGet]; rfl, (), Int.natCast_nonneg _,
    sheet.profile.name, by rw [hNameGet]; rfl, (), hName,
    sheet.profile.recordCount, by rw [hCountGet]; rfl, (), Int.natCast_nonneg _,
    _, by rw [hColumnsGet]; rfl, sheet.names, columnContracts_render h, (), h.folded_nodup, rfl⟩

/-- Sheets with increasing indices have keys of their own. -/
theorem SheetsOrdered.keys_nodup {sheets : List ParsedSheet} {bound : Nat} {names : List Str}
    (h : SheetsOrdered sheets bound names) :
    ((sheets.map ParsedSheet.contract).map SheetContract.key).Nodup := by
  have hIndices : (sheets.map fun s => s.profile.index).Nodup :=
    h.increasing.imp fun hLt => Nat.ne_of_lt hLt
  rw [List.map_map]
  refine List.Nodup.of_map (fun key : Int × Str => key.1.toNat) ?_
  rw [List.map_map]
  exact hIndices

/-- **The sheets of a profile.** -/
theorem profileSheetContract_eq_ok {art : ArtifactLibrary} {profile : Dict}
    {sheets : List ParsedSheet} {bound : Nat} {names : List Str}
    (hProfile : profile.get (str "sheets") =
      .arr (sheets.map fun s => s.profile.render.sortKeys))
    (hHolds : ∀ s ∈ sheets, SheetHolds art.report s) (hOrdered : SheetsOrdered sheets bound names)
    (hNames : ∀ name ∈ names, name ≠ []) :
    profileSheetContract art profile = .ok (sheets.map ParsedSheet.contract) := by
  have hSheets : (sheets.map fun s => s.profile.render.sortKeys).mapM (sheetContract art) =
      .ok (sheets.map ParsedSheet.contract) := by
    -- Sheet by sheet, each meets its own contract.
    rw [mapM_eq_ok, List.forall₂_map_left_iff, List.forall₂_map_right_iff, List.forall₂_same]
    intro s hs
    exact sheetContract_render (hHolds s hs) (hNames _ (hOrdered.name_mem s hs))
  simp only [profileSheetContract, bind_eq_ok, required_eq_ok, ensure_eq_ok]
  exact ⟨_, by rw [hProfile]; rfl, _, hSheets, (), hOrdered.keys_nodup, rfl⟩

end SpikeBackend
