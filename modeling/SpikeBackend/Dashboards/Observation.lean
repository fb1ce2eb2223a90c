import SpikeBackend.Model.DashboardInsights

/-!
# What one observation leaves

The successes of `observe`, statement by statement: what the reading of a row says, what a
numeric cell changes, and what an amount changes in its measure.

* `readRow_eq_ok` — a reading is the row's own cells, and only the sets of labels grow;
* `observeNumeric_eq_ok` — a numeric cell is skipped or goes to its measure;
* `tally_eq_ok` — an amount goes to the total, its period and each dimension once;
* `observe_eq_ok`, `observePointInTime_eq_ok` — when a measure tallies an amount.
-/

namespace SpikeBackend

open Text Outcome Collections

variable {lib : StandardLibrary} {ctx : Context} {order : SetOrder}

/-- The label of a row's cell; `none` where the field is not mapped or the cell says nothing. -/
def cellLabel (lib : StandardLibrary) (semantic : DashboardInsightField → Option Json)
    (field : DashboardInsightField) : Option Str :=
  match label lib ((semantic field).getD .null) with
  | .ok rendered => rendered
  | .error _ => none

/-- The label of a cell that has one. -/
theorem cellLabel_of_label {semantic : DashboardInsightField → Option Json}
    {field : DashboardInsightField} {rendered : Option Str}
    (h : label lib ((semantic field).getD .null) = .ok rendered) :
    cellLabel lib semantic field = rendered := by
  unfold cellLabel
  rw [h]

/-- A column that is not mapped has no label. -/
theorem cellLabel_of_none {semantic : DashboardInsightField → Option Json}
    {field : DashboardInsightField} (h : semantic field = none) :
    cellLabel lib semantic field = none := by
  unfold cellLabel
  rw [h]
  rfl

/-- The number of a cell, where it has one. -/
def cellNumber (lib : StandardLibrary) (semantic : DashboardInsightField → Option Json)
    (field : DashboardInsightField) : Option ℚ :=
  ((semantic field).filter (!·.isNull)).bind
    (strictDecimal lib (field ∈ DashboardInsightField.currencyFields)
      (field ∈ DashboardInsightField.percentFields))

namespace DashboardInsightAccumulator

variable {acc acc' : DashboardInsightAccumulator}

-- ---------------------------------------------------------------------------
-- Reading a row
-- ---------------------------------------------------------------------------

/-- The two accumulators differ in their sets of labels at most. -/
def SameButLabels (acc acc' : DashboardInsightAccumulator) : Prop :=
  ∃ values, acc' = { acc with uniqueValues := values }

theorem SameButLabels.refl (acc : DashboardInsightAccumulator) : SameButLabels acc acc :=
  ⟨acc.uniqueValues, rfl⟩

/-- Two changes of labels alone. -/
theorem SameButLabels.trans {acc₁ acc₂ acc₃ : DashboardInsightAccumulator}
    (h : SameButLabels acc₁ acc₂) (h' : SameButLabels acc₂ acc₃) : SameButLabels acc₁ acc₃ := by
  obtain ⟨values, rfl⟩ := h
  obtain ⟨values', rfl⟩ := h'
  exact ⟨values', rfl⟩

/-- Counting a label changes the labels alone. -/
theorem observeUnique_eq_ok {field : DashboardInsightField} {value : Str}
    (h : acc.observeUnique field value = .ok acc') : SameButLabels acc acc' := by
  simp only [observeUnique, bind_eq_ok, ensure_eq_ok] at h
  obtain ⟨-, -, h⟩ := h
  exact ⟨_, (Except.ok.inj h).symm⟩

/-- One dimension of a row: its label is stored, and nothing else. -/
theorem readDimension_eq_ok {semantic : DashboardInsightField → Option Json}
    {s s' : DashboardInsightAccumulator × OrderedDict DashboardInsightField Str}
    {field : DashboardInsightField} (h : readDimension lib semantic s field = .ok s') :
    SameButLabels s.1 s'.1 ∧ ∀ f, s'.2.get? f =
      if f = field then (cellLabel lib semantic field).or (s.2.get? field) else s.2.get? f := by
  unfold readDimension at h
  split at h
  · -- the field is not mapped
    rename_i hNone
    cases h
    rw [cellLabel_of_none hNone]
    refine ⟨.refl _, fun f => ?_⟩
    by_cases hf : f = field
    · rw [if_pos hf, hf, Option.none_or]
    · rw [if_neg hf]
  · rename_i value hSome
    obtain ⟨rendered, hLabel, h⟩ := bind_eq_ok.mp h
    have hCell : cellLabel lib semantic field = rendered :=
      cellLabel_of_label (by rw [hSome]; exact hLabel)
    rw [hCell]
    cases rendered with
    | none =>
      cases h
      refine ⟨.refl _, fun f => ?_⟩
      by_cases hf : f = field
      · rw [if_pos hf, hf, Option.none_or]
      · rw [if_neg hf]
    | some rendered =>
      obtain ⟨next, hNext, h⟩ := bind_eq_ok.mp h
      cases h
      refine ⟨observeUnique_eq_ok hNext, fun f => ?_⟩
      rw [OrderedDict.get?_set, Option.some_or]

/-- The dimensions of a row are the labels of its dimension cells. -/
theorem readDimensions_eq_ok {semantic : DashboardInsightField → Option Json}
    {fields : List DashboardInsightField}
    {s s' : DashboardInsightAccumulator × OrderedDict DashboardInsightField Str}
    (h : fields.foldlM (readDimension lib semantic) s = .ok s') :
    SameButLabels s.1 s'.1 ∧ ∀ f, s'.2.get? f =
      if f ∈ fields then (cellLabel lib semantic f).or (s.2.get? f) else s.2.get? f := by
  induction fields generalizing s with
  | nil =>
    cases h
    exact ⟨.refl _, fun f => (if_neg List.not_mem_nil).symm⟩
  | cons field fields ih =>
    rw [List.foldlM_cons] at h
    obtain ⟨s₁, hHead, hRest⟩ := bind_eq_ok.mp h
    obtain ⟨hSame₁, hGet₁⟩ := readDimension_eq_ok hHead
    obtain ⟨hSame, hGet⟩ := ih hRest
    refine ⟨hSame₁.trans hSame, fun f => ?_⟩
    rw [hGet, hGet₁]
    by_cases hf : f = field
    · -- a label read twice is the same label
      subst hf
      rw [if_pos rfl, if_pos List.mem_cons_self]
      cases cellLabel lib semantic f <;> split <;> rfl
    · rw [if_neg hf]
      have hMem : f ∈ field :: fields ↔ f ∈ fields :=
        List.mem_cons.trans (or_iff_right hf)
      simp only [hMem]

/-- What a row is read as. -/
theorem readRow_eq_ok {mapping : OrderedDict DashboardInsightField Str} {row : InsightRow}
    {reading : RowReading} (h : acc.readRow lib mapping row = .ok (acc', reading)) :
    SameButLabels acc acc' ∧ reading.key = row.key ∧ reading.semantic = row.semantic mapping ∧
      reading.period = cellLabel lib (row.semantic mapping) .period ∧
      ∀ f ∈ DashboardInsightField.dimensionFields,
        reading.dimensions.get? f = cellLabel lib (row.semantic mapping) f := by
  unfold readRow at h
  obtain ⟨-, -, h⟩ := bind_eq_ok.mp h
  obtain ⟨period, hPeriod, h⟩ := bind_eq_ok.mp h
  obtain ⟨⟨acc₁, dimensions⟩, hDimensions, h⟩ := bind_eq_ok.mp h
  cases h
  obtain ⟨hSame, hGet⟩ := readDimensions_eq_ok hDimensions
  refine ⟨hSame, rfl, rfl, (cellLabel_of_label hPeriod).symm, fun f hf => ?_⟩
  show dimensions.get? f = _
  rw [hGet, if_pos hf]
  exact Option.or_none

-- ---------------------------------------------------------------------------
-- Numeric cells
-- ---------------------------------------------------------------------------

/-- A numeric cell is empty and skipped, or a number that goes to its measure. -/
theorem observeNumeric_eq_ok {row : RowReading} {field : DashboardInsightField}
    {s s' : DashboardInsightAccumulator × Bool}
    (h : observeNumeric lib ctx row s field = .ok s') :
    (cellNumber lib row.semantic field = none ∧ s' = s) ∨
    ∃ numeric period m points, cellNumber lib row.semantic field = some numeric ∧
      row.period = some period ∧
      (s.1.measures field).observe ctx s.1.dashboardType field row.key period row.dimensions
        numeric s.1.periodDimensionPointCount = .ok (m, points) ∧
      s' = ({ s.1 with
        measures := Function.update s.1.measures field m
        periodDimensionPointCount := points }, true) := by
  unfold observeNumeric RowReading.filled at h
  unfold cellNumber
  split at h
  · -- a cell without a number is passed over
    rename_i hNone
    rw [hNone]
    exact .inl ⟨rfl, (Except.ok.inj h).symm⟩
  · rename_i value hSome
    rw [hSome]
    obtain ⟨numeric, hNumeric, h⟩ := bind_eq_ok.mp h
    obtain ⟨period, hPeriod, h⟩ := bind_eq_ok.mp h
    obtain ⟨⟨m, points⟩, hMeasure, h⟩ := bind_eq_ok.mp h
    exact .inr ⟨numeric, period, m, points, required_eq_ok.mp hNumeric, required_eq_ok.mp hPeriod,
      hMeasure, (Except.ok.inj h).symm⟩

/-- A status changes the list of updates alone. -/
theorem observeStatus_eq_ok {row : RowReading} (h : acc.observeStatus lib row = .ok acc') :
    ∃ updates, acc' = { acc with statusUpdates := updates } := by
  unfold observeStatus at h
  split at h
  · obtain ⟨-, -, h⟩ := bind_eq_ok.mp h
    obtain ⟨progress, -, h⟩ := bind_eq_ok.mp h
    obtain ⟨title, -, h⟩ := bind_eq_ok.mp h
    obtain ⟨detail, -, h⟩ := bind_eq_ok.mp h
    obtain ⟨status, -, h⟩ := bind_eq_ok.mp h
    exact ⟨_, (Except.ok.inj h).symm⟩
  · exact ⟨acc.statusUpdates, (Except.ok.inj h).symm⟩

end DashboardInsightAccumulator

-- ---------------------------------------------------------------------------
-- Measures
-- ---------------------------------------------------------------------------

namespace Measure

variable {dashboardType : DashboardType} {field : DashboardInsightField} {period : Str}
  {numeric : ℚ}

/-- One dimension of an amount: it is aggregated, or passed over. -/
theorem observeDimension_eq_ok {s s' : Measure × Nat} {entry : DashboardInsightField × Str}
    (h : observeDimension ctx dashboardType field period numeric s entry = .ok s') :
    ((field, entry.1) ∉ dashboardType.dimensionAggregations ∧ s' = s) ∨
    (field, entry.1) ∈ dashboardType.dimensionAggregations ∧
      s'.1 = s.1.addDimension ctx period numeric entry.1 entry.2 ∧
      s'.2 = if ((s.1.byPeriodDimension entry.1).getD period ∅).contains entry.2 then s.2
        else s.2 + 1 := by
  unfold observeDimension at h
  split at h
  · rename_i hAggregated
    simp only [bind_eq_ok, ensure_eq_ok] at h
    obtain ⟨-, -, h⟩ := h
    cases h
    exact .inr ⟨hAggregated, rfl, rfl⟩
  · rename_i hAggregated
    cases h
    exact .inl ⟨hAggregated, rfl⟩

/-- What the loop over the dimensions leaves of the measure: all but the sums of the dimensions
that the row has. -/
structure SameButDimensions (entries : List (DashboardInsightField × Str)) (m m' : Measure) :
    Prop where
  totals : m'.totals = m.totals
  byPeriod : m'.byPeriod = m.byPeriod
  others : ∀ d ∉ entries.map Prod.fst, m'.byDimension d = m.byDimension d ∧
    m'.byPeriodDimension d = m.byPeriodDimension d
  pointInTimeValues : m'.pointInTimeValues = m.pointInTimeValues
  periodDataset : m'.periodDataset = m.periodDataset

/-- The dimensions of an amount change their own aggregates alone. -/
theorem observeDimensions_frame {entries : List (DashboardInsightField × Str)}
    {s s' : Measure × Nat}
    (h : entries.foldlM (observeDimension ctx dashboardType field period numeric) s = .ok s') :
    SameButDimensions entries s.1 s'.1 := by
  refine foldlM_induction (P := fun x : Measure × Nat => SameButDimensions entries s.1 x.1) h
    ⟨rfl, rfl, fun _ _ => ⟨rfl, rfl⟩, rfl, rfl⟩ ?_
  intro x entry x' hEntry hx hStep
  rcases observeDimension_eq_ok hStep with ⟨-, rfl⟩ | ⟨-, hx', -⟩
  · exact hx
  · rw [hx']
    refine ⟨hx.totals, hx.byPeriod, fun d hd => ?_, hx.pointInTimeValues, hx.periodDataset⟩
    have hne : d ≠ entry.1 := by
      rintro rfl
      exact hd (List.mem_map_of_mem hEntry)
    have hKept := hx.others d hd
    exact ⟨(Function.update_of_ne hne _ _).trans hKept.1,
      (Function.update_of_ne hne _ _).trans hKept.2⟩

/-- Each dimension of the row takes the amount in once, under the row's label. -/
theorem observeDimensions_eq_ok {entries : List (DashboardInsightField × Str)}
    (hNodup : (entries.map Prod.fst).Nodup) {s s' : Measure × Nat}
    (h : entries.foldlM (observeDimension ctx dashboardType field period numeric) s = .ok s')
    {d : DashboardInsightField} {value : Str} (hEntry : (d, value) ∈ entries)
    (hAggregated : (field, d) ∈ dashboardType.dimensionAggregations) :
    s'.1.byDimension d = accumulate ctx (s.1.byDimension d) value numeric ∧
      s'.1.byPeriodDimension d = (s.1.byPeriodDimension d).set period
        (accumulate ctx ((s.1.byPeriodDimension d).getD period ∅) value numeric) := by
  induction entries generalizing s with
  | nil => exact absurd hEntry List.not_mem_nil
  | cons entry entries ih =>
    rw [List.map_cons] at hNodup
    obtain ⟨hHead, hTail⟩ := List.nodup_cons.mp hNodup
    rw [List.foldlM_cons] at h
    obtain ⟨s₁, hFirst, hRest⟩ := bind_eq_ok.mp h
    rcases List.mem_cons.mp hEntry with rfl | hEntry'
    · -- this entry is the dimension's, and the others leave it
      obtain ⟨hKept, hKept'⟩ := (observeDimensions_frame hRest).others d hHead
      rcases observeDimension_eq_ok hFirst with ⟨hNot, -⟩ | ⟨-, hs₁, -⟩
      · exact absurd hAggregated hNot
      · rw [hKept, hKept', hs₁]
        exact ⟨Function.update_self _ _ _, Function.update_self _ _ _⟩
    · have hne : d ≠ entry.1 := by
        rintro rfl
        exact hHead (List.mem_map.mpr ⟨_, hEntry', rfl⟩)
      have hSame : s₁.1.byDimension d = s.1.byDimension d ∧
          s₁.1.byPeriodDimension d = s.1.byPeriodDimension d := by
        rcases observeDimension_eq_ok hFirst with ⟨-, rfl⟩ | ⟨-, hs₁, -⟩
        · exact ⟨rfl, rfl⟩
        · rw [hs₁]
          exact ⟨Function.update_of_ne hne _ _, Function.update_of_ne hne _ _⟩
      have hDone := ih hTail hRest hEntry'
      rw [hSame.1, hSame.2] at hDone
      exact hDone

/-- The tally of an amount: the total, the period, and each dimension. -/
structure Tallied (ctx : Context) (dashboardType : DashboardType) (field : DashboardInsightField)
    (period : Str) (dimensions : OrderedDict DashboardInsightField Str) (numeric : ℚ)
    (m m' : Measure) : Prop where
  totals : m'.totals = some ((m.totals.getD {}).observe ctx numeric)
  byPeriod : m'.byPeriod = accumulate ctx m.byPeriod period numeric
  dimension : ∀ d value, dimensions.get? d = some value →
    (field, d) ∈ dashboardType.dimensionAggregations →
    m'.byDimension d = accumulate ctx (m.byDimension d) value numeric ∧
      m'.byPeriodDimension d = (m.byPeriodDimension d).set period
        (accumulate ctx ((m.byPeriodDimension d).getD period ∅) value numeric)
  pointInTimeValues : m'.pointInTimeValues = m.pointInTimeValues
  periodDataset : m'.periodDataset = m.periodDataset

/-- What one amount does to a measure. -/
theorem tally_eq_ok {dimensions : OrderedDict DashboardInsightField Str} {m m' : Measure}
    {points points' : Nat}
    (h : m.tally ctx dashboardType field period dimensions numeric points = .ok (m', points')) :
    Tallied ctx dashboardType field period dimensions numeric m m' ∧
      dimensions.entries.foldlM (observeDimension ctx dashboardType field period numeric)
        (m.addPeriod ctx period numeric, points) = .ok (m', points') := by
  unfold tally at h
  obtain ⟨-, -, h⟩ := bind_eq_ok.mp h
  have hFrame := observeDimensions_frame h
  refine ⟨⟨hFrame.totals, hFrame.byPeriod, fun d value hGet hAggregated => ?_,
    hFrame.pointInTimeValues, hFrame.periodDataset⟩, h⟩
  exact observeDimensions_eq_ok dimensions.nodup h (OrderedDict.mem_of_get? _ hGet) hAggregated

/-- What a measure checks before it takes an amount: one dataset for each period, and all dimensions
of the outflow. -/
theorem observe_eq_ok {key : DatasetKey} {dimensions : OrderedDict DashboardInsightField Str}
    {m m' : Measure} {points points' : Nat}
    (h : m.observe ctx dashboardType field key period dimensions numeric points =
      .ok (m', points')) :
    (m.periodDataset.get? period).all (· = key) = true ∧
    (field = dashboardType.outflowField →
      ∀ d ∈ dashboardType.outflowDimensions, dimensions.contains d = true) ∧
    if field ∈ DashboardInsightField.nonAdditiveFields then
      observePointInTime ctx dashboardType field period dimensions numeric
        { m with periodDataset := m.periodDataset.set period key } points = .ok (m', points')
    else
      tally ctx dashboardType field period dimensions numeric
        { m with periodDataset := m.periodDataset.set period key } points = .ok (m', points') := by
  unfold observe at h
  obtain ⟨_, hDataset, h⟩ := bind_eq_ok.mp h
  obtain ⟨_, hRequired, h⟩ := bind_eq_ok.mp h
  refine ⟨ensure_eq_ok.mp hDataset, ensure_eq_ok.mp hRequired, ?_⟩
  split at h
  · rw [if_pos ‹_›]
    exact h
  · rw [if_neg ‹_›]
    exact h

/-- A value at a point in time is a repeat of the one that is there, or the first one. -/
theorem observePointInTime_eq_ok {dimensions : OrderedDict DashboardInsightField Str}
    {m m' : Measure} {points points' : Nat}
    (h : m.observePointInTime ctx dashboardType field period dimensions numeric points =
      .ok (m', points')) :
    (m.pointInTimeValues.get? period = some numeric ∧ m' = m ∧ points' = points) ∨
    m.pointInTimeValues.get? period = none ∧
      tally ctx dashboardType field period dimensions numeric
        { m with pointInTimeValues := m.pointInTimeValues.set period numeric } points =
          .ok (m', points') := by
  unfold observePointInTime at h
  split at h
  · rename_i prior hPrior
    obtain ⟨_, hEq, h⟩ := bind_eq_ok.mp h
    cases h
    rw [hPrior, ensure_eq_ok.mp hEq]
    exact .inl ⟨rfl, rfl, rfl⟩
  · rename_i hNone
    exact .inr ⟨hNone, h⟩

/-- A success leaves the cross tables, or goes on to the loop over the dimensions with them. -/
theorem observe_cases {key : DatasetKey} {dimensions : OrderedDict DashboardInsightField Str}
    {m m' : Measure} {points points' : Nat}
    (h : m.observe ctx dashboardType field key period dimensions numeric points =
      .ok (m', points')) :
    (m'.byPeriodDimension = m.byPeriodDimension ∧ points' = points) ∨
    ∃ m₁ : Measure, m₁.byPeriodDimension = m.byPeriodDimension ∧
      dimensions.entries.foldlM (observeDimension ctx dashboardType field period numeric)
        (m₁, points) = .ok (m', points') := by
  obtain ⟨-, -, h⟩ := observe_eq_ok h
  split at h
  · rcases observePointInTime_eq_ok h with ⟨-, rfl, rfl⟩ | ⟨-, h⟩
    · exact .inl ⟨rfl, rfl⟩
    · refine .inr ⟨_, ?_, (tally_eq_ok h).2⟩
      rfl
  · refine .inr ⟨_, ?_, (tally_eq_ok h).2⟩
    rfl

end Measure

-- ---------------------------------------------------------------------------
-- Rows
-- ---------------------------------------------------------------------------

/-- What a row says of the fields; of none where its dataset is not mapped. -/
def rowSemantic (mappings : OrderedDict DatasetKey (OrderedDict DashboardInsightField Str))
    (row : InsightRow) (field : DashboardInsightField) : Option Json :=
  (mappings.get? row.key).bind fun mapping => row.semantic mapping field

/-- What a row contributes to a measure; a label that is not there is the empty text, which no
cell is labelled with. -/
structure Contribution where
  dataset : DatasetKey
  period : Str
  label : DashboardInsightField → Str
  amount : ℚ

/-- The contribution of a row with a number for the measure and a period. -/
def contribution? (lib : StandardLibrary)
    (mappings : OrderedDict DatasetKey (OrderedDict DashboardInsightField Str))
    (field : DashboardInsightField) (row : InsightRow) : Option Contribution :=
  let semantic := rowSemantic mappings row
  (cellNumber lib semantic field).bind fun amount =>
    (cellLabel lib semantic .period).map fun period =>
      ⟨row.key, period, fun d => (cellLabel lib semantic d).getD [], amount⟩

/-- What the rows contribute to a measure, in their order. -/
def contributions (lib : StandardLibrary)
    (mappings : OrderedDict DatasetKey (OrderedDict DashboardInsightField Str))
    (field : DashboardInsightField) (rows : List InsightRow) : List Contribution :=
  rows.filterMap (contribution? lib mappings field)

namespace DashboardInsightAccumulator

variable {acc acc' : DashboardInsightAccumulator} {row : InsightRow}

/-- What the loop over the numeric fields leaves of the accumulator. -/
structure SameButMeasures (acc acc' : DashboardInsightAccumulator) : Prop where
  dashboardType : acc'.dashboardType = acc.dashboardType
  configuration : acc'.configuration = acc.configuration
  mappings : acc'.mappings = acc.mappings
  validatedMappings : acc'.validatedMappings = acc.validatedMappings

/-- The numbers of a row change their own measures alone. -/
theorem observeNumerics_frame {reading : RowReading} {fields : List DashboardInsightField}
    {s s' : DashboardInsightAccumulator × Bool}
    (h : fields.foldlM (observeNumeric lib ctx reading) s = .ok s') :
    SameButMeasures s.1 s'.1 ∧ ∀ f ∉ fields, s'.1.measures f = s.1.measures f := by
  refine foldlM_induction (P := fun x : DashboardInsightAccumulator × Bool =>
    SameButMeasures s.1 x.1 ∧ ∀ f ∉ fields, x.1.measures f = s.1.measures f) h
    ⟨⟨rfl, rfl, rfl, rfl⟩, fun _ _ => rfl⟩ ?_
  intro x field x' hField ⟨hSame, hOthers⟩ hStep
  rcases observeNumeric_eq_ok hStep with ⟨-, rfl⟩ | ⟨_, _, m, points, -, -, -, rfl⟩
  · exact ⟨hSame, hOthers⟩
  · refine ⟨⟨hSame.1, hSame.2, hSame.3, hSame.4⟩, fun f hf => ?_⟩
    have hne : f ≠ field := by
      rintro rfl
      exact hf hField
    exact (Function.update_of_ne hne _ _).trans (hOthers f hf)

/-- The measure of a field that comes once in the loop observes the row's number once. -/
theorem observeNumerics_measure {reading : RowReading} {fields : List DashboardInsightField}
    (hNodup : fields.Nodup) {s s' : DashboardInsightAccumulator × Bool}
    (h : fields.foldlM (observeNumeric lib ctx reading) s = .ok s')
    {field : DashboardInsightField} (hField : field ∈ fields) :
    (cellNumber lib reading.semantic field = none ∧ s'.1.measures field = s.1.measures field) ∨
    ∃ numeric period points points', cellNumber lib reading.semantic field = some numeric ∧
      reading.period = some period ∧
      (s.1.measures field).observe ctx s.1.dashboardType field reading.key period
        reading.dimensions numeric points = .ok (s'.1.measures field, points') := by
  induction fields generalizing s with
  | nil => exact absurd hField List.not_mem_nil
  | cons f fields ih =>
    obtain ⟨hHead, hTail⟩ := List.nodup_cons.mp hNodup
    rw [List.foldlM_cons] at h
    obtain ⟨s₁, hFirst, hRest⟩ := bind_eq_ok.mp h
    rcases List.mem_cons.mp hField with rfl | hField'
    · have hKept := (observeNumerics_frame hRest).2 field hHead
      rcases observeNumeric_eq_ok hFirst with ⟨hNone, rfl⟩ |
        ⟨numeric, period, m, points, hNumber, hPeriod, hMeasure, rfl⟩
      · exact .inl ⟨hNone, hKept⟩
      · refine .inr ⟨numeric, period, s.1.periodDimensionPointCount, points, hNumber, hPeriod, ?_⟩
        rw [hKept, hMeasure]
        show _ = Except.ok (Function.update s.1.measures field m field, points)
        rw [Function.update_self]
    · -- the first field's step leaves this measure
      have hne : field ≠ f := by
        rintro rfl
        exact hHead hField'
      have hOne : [f].foldlM (observeNumeric lib ctx reading) s = .ok s₁ := by
        rw [List.foldlM_cons, hFirst]
        rfl
      have hFrame := observeNumerics_frame hOne
      have hSame := hFrame.2 field (by rw [List.mem_singleton]; exact hne)
      have hDone := ih hTail hRest hField'
      rw [hSame, hFrame.1.dashboardType] at hDone
      exact hDone

/-- What a row does to the accumulator. -/
theorem observe_eq_ok (h : acc.observe lib ctx order row = .ok acc') :
    (acc.mappings.get? row.key = none ∧ acc' = acc) ∨
    ∃ mapping acc₁ reading s, acc.mappings.get? row.key = some mapping ∧
      acc.readRow lib mapping row = .ok (acc₁, reading) ∧
      order.numericFields.foldlM (observeNumeric lib ctx reading) (acc₁, false) = .ok s ∧
      SameButMeasures s.1 acc' ∧ acc'.measures = s.1.measures ∧
      acc'.periodDimensionPointCount = s.1.periodDimensionPointCount := by
  unfold observe at h
  split at h
  · rename_i hNone
    exact .inl ⟨hNone, (Except.ok.inj h).symm⟩
  · rename_i mapping hMapping
    obtain ⟨⟨acc₁, reading⟩, hRead, h⟩ := bind_eq_ok.mp h
    obtain ⟨⟨acc₂, observed⟩, hNumerics, h⟩ := bind_eq_ok.mp h
    obtain ⟨updates, rfl⟩ := observeStatus_eq_ok h
    refine .inr ⟨mapping, acc₁, reading, (acc₂, observed), hMapping, hRead, hNumerics, ?_⟩
    cases observed <;> exact ⟨⟨rfl, rfl, rfl, rfl⟩, rfl, rfl⟩

/-- **One row.** A measure observes the row's contribution to it, where there is one, and stays
as it is where there is none. -/
theorem observe_measure (h : acc.observe lib ctx order row = .ok acc')
    {field : DashboardInsightField} (hField : field ∈ DashboardInsightField.numericFields) :
    SameButMeasures acc acc' ∧
    ((contribution? lib acc.mappings field row = none ∧
        acc'.measures field = acc.measures field) ∨
    ∃ c dimensions points points', contribution? lib acc.mappings field row = some c ∧
      (∀ d value, d ∈ DashboardInsightField.dimensionFields →
        dimensions.get? d = some value → value = c.label d) ∧
      (acc.measures field).observe ctx acc.dashboardType field c.dataset c.period dimensions
        c.amount points = .ok (acc'.measures field, points')) := by
  rcases observe_eq_ok h with ⟨hNone, rfl⟩ | ⟨mapping, acc₁, reading, s, hMapping, hRead, hNumerics,
    hSame, hMeasures, -⟩
  · refine ⟨⟨rfl, rfl, rfl, rfl⟩, .inl ⟨?_, rfl⟩⟩
    have hSemantic : rowSemantic acc'.mappings row field = none := by
      unfold rowSemantic
      rw [hNone]
      rfl
    unfold contribution? cellNumber
    simp only [hSemantic, Option.filter_none, Option.bind_none]
  · obtain ⟨⟨values, rfl⟩, hKey, hSemantic, hPeriod, hDimensions⟩ := readRow_eq_ok hRead
    have hFrame := (observeNumerics_frame hNumerics).1
    have hRowSemantic : rowSemantic acc.mappings row = reading.semantic := by
      rw [hSemantic]
      funext f
      unfold rowSemantic
      rw [hMapping]
      rfl
    refine ⟨⟨hSame.1.trans hFrame.1, hSame.2.trans hFrame.2, hSame.3.trans hFrame.3,
      hSame.4.trans hFrame.4⟩, ?_⟩
    have hNodup : order.numericFields.Nodup :=
      order.numericFields_perm.nodup_iff.mpr (by decide)
    have hMem : field ∈ order.numericFields := order.numericFields_perm.mem_iff.mpr hField
    rw [hMeasures]
    -- the fields are read in some order, each of them once
    rcases observeNumerics_measure hNodup hNumerics hMem with ⟨hNone, hKept⟩ |
      ⟨numeric, period, points, points', hNumber, hRowPeriod, hMeasure⟩
    · refine .inl ⟨?_, hKept⟩
      unfold contribution?
      simp only [hRowSemantic, hNone, Option.bind_none]
    · have hCellPeriod : cellLabel lib reading.semantic .period = some period := by
        rw [hSemantic, ← hPeriod, hRowPeriod]
      -- the contribution of the row, with the labels that were read
      refine .inr ⟨⟨row.key, period, fun d => (cellLabel lib reading.semantic d).getD [], numeric⟩,
        reading.dimensions, points, points', ?_, fun d value hd hValue => ?_, ?_⟩
      · unfold contribution?
        simp only [hRowSemantic, hNumber, hCellPeriod, Option.bind_some, Option.map_some]
      · show value = (cellLabel lib reading.semantic d).getD []
        rw [hSemantic, ← hDimensions d hd, hValue]
        rfl
      · rw [← hKey]
        exact hMeasure

/-- **Every row.** What holds of a measure with the contributions so far, and is kept when the
measure observes one more, holds after the rows. -/
theorem observeAll_induction {field : DashboardInsightField}
    (hField : field ∈ DashboardInsightField.numericFields)
    {P : Measure → List Contribution → Prop}
    (hObserve : ∀ m m' ledger c dimensions points points', P m ledger →
      (∀ d value, d ∈ DashboardInsightField.dimensionFields →
        dimensions.get? d = some value → value = c.label d) →
      m.observe ctx acc.dashboardType field c.dataset c.period dimensions c.amount points =
        .ok (m', points') → P m' (ledger ++ [c]))
    {rows : List InsightRow} (h : acc.observeAll lib ctx order rows = .ok acc')
    {ledger : List Contribution} (hStart : P (acc.measures field) ledger) :
    SameButMeasures acc acc' ∧
      P (acc'.measures field) (ledger ++ contributions lib acc.mappings field rows) := by
  unfold observeAll at h
  induction rows generalizing acc ledger with
  | nil =>
    rw [List.foldlM_nil] at h
    rw [← Except.ok.inj h]
    refine ⟨⟨rfl, rfl, rfl, rfl⟩, ?_⟩
    show P (acc.measures field) (ledger ++ [])
    rw [List.append_nil]
    exact hStart
  | cons row rows ih =>
    rw [List.foldlM_cons] at h
    obtain ⟨acc₁, hRow, hRest⟩ := bind_eq_ok.mp h
    obtain ⟨hSame, hCases⟩ := observe_measure hRow hField
    -- the ledger after this row
    have hNext : P (acc₁.measures field)
        (ledger ++ (contribution? lib acc.mappings field row).toList) := by
      rcases hCases with ⟨hNone, hKept⟩ | ⟨c, dimensions, points, points', hSome, hLabels, hMeasure⟩
      · rw [hNone, hKept]
        show P (acc.measures field) (ledger ++ [])
        rw [List.append_nil]
        exact hStart
      · rw [hSome]
        exact hObserve _ _ _ c dimensions points points' hStart hLabels hMeasure
    have hObserve' := hObserve
    rw [← hSame.dashboardType] at hObserve'
    obtain ⟨hSame', hDone⟩ := ih hObserve' hRest hNext
    rw [hSame.mappings] at hDone
    refine ⟨⟨hSame'.1.trans hSame.1, hSame'.2.trans hSame.2, hSame'.3.trans hSame.3,
      hSame'.4.trans hSame.4⟩, ?_⟩
    have hLedger : contributions lib acc.mappings field (row :: rows) =
        (contribution? lib acc.mappings field row).toList ++
          contributions lib acc.mappings field rows := by
      unfold contributions
      rw [List.filterMap_cons]
      cases contribution? lib acc.mappings field row <;> rfl
    rw [hLedger, ← List.append_assoc]
    exact hDone

end DashboardInsightAccumulator

end SpikeBackend
