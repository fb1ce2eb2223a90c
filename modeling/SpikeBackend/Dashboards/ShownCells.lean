import SpikeBackend.Dashboards.RenderedTexts

/-!
# The cells that an insight shows

Which characters of a cell survive in a label, and which cells of a row are labels of an insight:
the period of an amount, the values of the outflow's dimensions, and the texts of a status update.

* `cell_nulFree_iff` — a label has a U+0000 exactly when its cell has one;
* `insight_nulFree_iff` — so an insight has one exactly when a cell has one that it shows.
-/

namespace SpikeBackend

open Text Outcome Collections

variable {lib : StandardLibrary} {ctx : Context} {order : SetOrder}

-- ---------------------------------------------------------------------------
-- Labels
-- ---------------------------------------------------------------------------

/-- A cell that is empty or a text. -/
def IsText (value : Json) : Prop := value = .null ∨ ∃ s, value = .str s

/-- A label has a U+0000 exactly when its cell has one: the character is no white space. -/
theorem label_nulFree_iff {value : Json} (hText : IsText value) {maximum : Nat}
    {rendered : Option Str} (h : label lib value maximum = .ok rendered) :
    (Json.ofStr? rendered).AllStrings NulFree ↔ value.AllStrings NulFree := by
  rcases hText with rfl | ⟨s, rfl⟩
  · obtain rfl := Except.ok.inj h
    exact iff_of_true Json.allStrings_null Json.allStrings_null
  · have hMem : nul ∈ strip (joinWords (splitWords [] s)) ↔ nul ∈ s :=
      (mem_strip rfl _).trans (mem_joinWords_splitWords rfl s)
    rw [Json.allStrings_str, NulFree, ← hMem]
    simp only [label] at h
    split at h
    · rename_i hEmpty
      obtain rfl := Except.ok.inj h
      rw [List.isEmpty_iff.mp hEmpty]
      exact iff_of_true Json.allStrings_null List.not_mem_nil
    · split at h
      · cases h
      · obtain rfl := Except.ok.inj h
        exact Json.allStrings_str _

/-- The text of a cell has no U+0000. -/
def CellNulFree (semantic : DashboardInsightField → Option Json) (field : DashboardInsightField) :
    Prop := ((semantic field).getD .null).AllStrings NulFree

/-- A row whose cells are empty or texts. -/
def TextRow (row : InsightRow) : Prop := ∀ m ∈ row.values, IsText m.2

/-- What holds of the values of a row holds of its cells. -/
theorem cell_of_values {Q : Json → Prop} (hNull : Q .null) {row : InsightRow}
    (h : ∀ m ∈ row.values, Q m.2)
    (mappings : OrderedDict DatasetKey (OrderedDict DashboardInsightField Str))
    (field : DashboardInsightField) : Q ((rowSemantic mappings row field).getD .null) := by
  cases hValue : rowSemantic mappings row field with
  | none => exact hNull
  | some value =>
    obtain ⟨mapping, -, hValue⟩ := Option.bind_eq_some_iff.mp hValue
    obtain ⟨column, -, hLookup⟩ := Option.bind_eq_some_iff.mp hValue
    obtain ⟨before, after, hSplit, -⟩ := List.lookup_eq_some_iff.mp hLookup
    exact h (column, value) (hSplit ▸ List.mem_append_right _ List.mem_cons_self)

theorem TextRow.cell {row : InsightRow} (h : TextRow row)
    (mappings : OrderedDict DatasetKey (OrderedDict DashboardInsightField Str))
    (field : DashboardInsightField) : IsText ((rowSemantic mappings row field).getD .null) :=
  cell_of_values (.inl rfl) h mappings field

/-- The label of a cell of a row. -/
theorem cell_nulFree_iff {row : InsightRow} (hRow : TextRow row)
    {mappings : OrderedDict DatasetKey (OrderedDict DashboardInsightField Str)}
    {field : DashboardInsightField} {text : Str}
    (h : cellLabel lib (rowSemantic mappings row) field = some text) :
    NulFree text ↔ CellNulFree (rowSemantic mappings row) field := by
  unfold cellLabel at h
  split at h
  · rename_i rendered hLabel
    obtain rfl := h
    rw [CellNulFree, ← label_nulFree_iff (hRow.cell mappings field) hLabel]
    exact (Json.allStrings_str _).symm
  · cases h

-- ---------------------------------------------------------------------------
-- Rows
-- ---------------------------------------------------------------------------

/-- The cells of a row that an insight shows have no U+0000. -/
structure ShownNulFree (dashboardType : DashboardType)
    (semantic : DashboardInsightField → Option Json) : Prop where
  period : ∀ field ∈ DashboardInsightField.numericFields, hasCell semantic field = true →
    CellNulFree semantic .period
  dimensions : hasCell semantic dashboardType.outflowField = true →
    ∀ d ∈ dashboardType.outflowDimensions, CellNulFree semantic d
  status : hasStatus semantic = true →
    ∀ field ∈ [DashboardInsightField.period, .statusTitle, .statusDetail, .status],
      CellNulFree semantic field

/-- The texts of a status update have a U+0000 exactly when a cell has one that they are of. -/
theorem StatusOf.nulFree_iff {row : InsightRow} (hRow : TextRow row)
    {mappings : OrderedDict DatasetKey (OrderedDict DashboardInsightField Str)}
    {update : StatusUpdate} (h : StatusOf lib (rowSemantic mappings row) update) :
    (∀ text ∈ DashboardInsightAccumulator.statusTexts update,
      (Json.ofStr? text).AllStrings NulFree) ↔
    ∀ field ∈ [DashboardInsightField.period, .statusTitle, .statusDetail, .status],
      CellNulFree (rowSemantic mappings row) field := by
  obtain ⟨progress, hProgress⟩ := h.progress
  have hDecimal : (Json.ofStr? update.progressDecimal).AllStrings NulFree := by
    rw [hProgress]
    exact nulFree_decimalJson progress
  -- the progress is a number, the other texts are labels of cells
  have hCell := fun field => hRow.cell mappings field
  simp only [DashboardInsightAccumulator.statusTexts, List.forall_mem_cons, CellNulFree,
    label_nulFree_iff (hCell .period) h.period, label_nulFree_iff (hCell .statusTitle) h.title,
    label_nulFree_iff (hCell .statusDetail) h.detail, label_nulFree_iff (hCell .status) h.status,
    hDecimal, true_and, List.not_mem_nil, false_implies, implies_true]

namespace DashboardInsightAccumulator

variable {acc : DashboardInsightAccumulator} {rows : List InsightRow}

/-- The labels of a contribution are those of its cells. -/
theorem contribution_labels
    {mappings : OrderedDict DatasetKey (OrderedDict DashboardInsightField Str)}
    {field : DashboardInsightField} {row : InsightRow} {c : Contribution}
    (h : contribution? lib mappings field row = some c) :
    cellLabel lib (rowSemantic mappings row) .period = some c.period ∧
      ∀ d, c.label d = (cellLabel lib (rowSemantic mappings row) d).getD [] := by
  obtain ⟨amount, -, h⟩ := Option.bind_eq_some_iff.mp h
  obtain ⟨period, hPeriod, rfl⟩ := Option.map_eq_some_iff.mp h
  exact ⟨hPeriod, fun _ => rfl⟩

/-- A contribution has no U+0000 where the cells have none that are shown. -/
theorem contribution_nulFree {row : InsightRow} (hRow : TextRow row)
    (hShown : ShownNulFree acc.dashboardType (rowSemantic acc.mappings row))
    {field : DashboardInsightField} (hField : field ∈ DashboardInsightField.numericFields)
    {c : Contribution} (h : contribution? lib acc.mappings field row = some c) :
    NulFree c.period ∧ (field = acc.dashboardType.outflowField →
      ∀ d ∈ acc.dashboardType.outflowDimensions, NulFree (c.label d)) := by
  have hCell := hasCell_of_contribution h
  obtain ⟨hPeriod, hLabels⟩ := contribution_labels h
  refine ⟨(cell_nulFree_iff hRow hPeriod).mpr (hShown.period field hField hCell), ?_⟩
  rintro rfl d hd
  -- a label that is missing is the empty text
  rw [hLabels]
  cases hLabel : cellLabel lib (rowSemantic acc.mappings row) d with
  | none => exact nulFree_nil
  | some text => exact (cell_nulFree_iff hRow hLabel).mpr (hShown.dimensions hCell d hd)

/-- Each element has a partner on the other side. -/
theorem exists_partner {α β : Type} {R : α → β → Prop} {as : List α} {bs : List β}
    (h : List.Forall₂ R as bs) :
    (∀ a ∈ as, ∃ b ∈ bs, R a b) ∧ ∀ b ∈ bs, ∃ a ∈ as, R a b := by
  induction h with
  | nil => exact ⟨nofun, nofun⟩
  | cons hHead _ ih =>
    refine ⟨List.forall_mem_cons.mpr ⟨⟨_, List.mem_cons_self, hHead⟩, fun a ha => ?_⟩,
      List.forall_mem_cons.mpr ⟨⟨_, List.mem_cons_self, hHead⟩, fun b hb => ?_⟩⟩
    · obtain ⟨b, hb, hR⟩ := ih.1 a ha
      exact ⟨b, List.mem_cons_of_mem _ hb, hR⟩
    · obtain ⟨a, ha, hR⟩ := ih.2 b hb
      exact ⟨a, List.mem_cons_of_mem _ ha, hR⟩

/-- The stored labels have a U+0000 exactly when a cell has one that is shown. -/
theorem labelsNulFree_iff (hReads : Reads lib rows acc) (hRows : ∀ row ∈ rows, TextRow row) :
    acc.LabelsNulFree ↔
      ∀ row ∈ rows, ShownNulFree acc.dashboardType (rowSemantic acc.mappings row) := by
  constructor
  · intro h row hRow
    have hAccepted := hReads.accepted row hRow
    refine ⟨fun field hField hCell => ?_, fun hCell d hd => ?_, fun hStatus => ?_⟩
    · -- the period of an amount is a period of its measure
      obtain ⟨c, hc⟩ := hAccepted.amounts field hField hCell
      have hKey := ((hReads.measures field hField).1.periods c.period).mpr
        ⟨c, List.mem_filterMap.mpr ⟨row, hRow, hc⟩, rfl⟩
      exact (cell_nulFree_iff (hRows row hRow) (contribution_labels hc).1).mp
        (h.periods field hField _ hKey)
    · -- the value of a dimension is a key of the outflow
      obtain ⟨c, hc⟩ := hAccepted.amounts _ (outflow_numeric acc.dashboardType) hCell
      obtain ⟨text, hText⟩ := hAccepted.labels hCell d hd
      have hKey := ((hReads.measures _ (outflow_numeric acc.dashboardType)).1.values rfl d hd
        (c.label d)).mpr ⟨c, List.mem_filterMap.mpr ⟨row, hRow, hc⟩, rfl⟩
      have hFree := (h.dimensions d hd).values _ hKey
      rw [(contribution_labels hc).2, hText] at hFree
      exact (cell_nulFree_iff (hRows row hRow) hText).mp hFree
    · obtain ⟨update, hUpdate, hOf⟩ :=
        (exists_partner hReads.updates).1 row (List.mem_filter.mpr ⟨hRow, hStatus⟩)
      exact (hOf.nulFree_iff (hRows row hRow)).mp (h.updates update hUpdate)
  · intro h
    refine ⟨fun field hField p hp => ?_, fun d hd => ?_, fun update hUpdate => ?_⟩
    · obtain ⟨c, hc, rfl⟩ := ((hReads.measures field hField).1.periods p).mp hp
      obtain ⟨row, hRow, hContribution⟩ := List.mem_filterMap.mp hc
      exact (contribution_nulFree (hRows row hRow) (h row hRow) hField hContribution).1
    · refine dimensionNulFree_of_ledger (hReads.measures _ (outflow_numeric acc.dashboardType)).1
        hd fun c hc => ?_
      obtain ⟨row, hRow, hContribution⟩ := List.mem_filterMap.mp hc
      have hFree := contribution_nulFree (hRows row hRow) (h row hRow)
        (outflow_numeric acc.dashboardType) hContribution
      exact ⟨hFree.1, hFree.2 rfl d hd⟩
    · obtain ⟨row, hMem, hOf⟩ := (exists_partner hReads.updates).2 update hUpdate
      obtain ⟨hRow, hStatus⟩ := List.mem_filter.mp hMem
      exact (hOf.nulFree_iff (hRows row hRow)).mpr ((h row hRow).status hStatus)

/-- **The cells of an insight.** Of rows of texts an insight has no U+0000 exactly when no cell has
one that it shows. -/
theorem insight_nulFree_iff (hReads : Reads lib rows acc) (hRows : ∀ row ∈ rows, TextRow row)
    (hMapped : acc.MapsInsightFields) {insight : Json}
    (hRender : acc.render lib ctx order = .ok insight) :
    insight.AllStrings NulFree ↔
      ∀ row ∈ rows, ShownNulFree acc.dashboardType (rowSemantic acc.mappings row) :=
  ⟨fun h => (labelsNulFree_iff hReads hRows).mp (labels_of_render hReads hMapped hRender h),
    fun h => render_nulFree ((labelsNulFree_iff hReads hRows).mpr h) hRender⟩

end DashboardInsightAccumulator

end SpikeBackend
