import SpikeBackend.Dashboards.StoredLabels
import SpikeBackend.Lib.JsonStrings
import SpikeBackend.Model.InsightRendering

/-!
# The texts of an insight

What `render` writes is its own literals, the texts of numbers, and the labels that the accumulator
stores. So an insight has no U+0000 exactly when no stored label that it renders has one.

* `render_nulFree` — labels without U+0000 are rendered without it;
* `labels_of_render` — and every label of an amount or a status is rendered.
-/

namespace SpikeBackend

open Text Outcome Collections

-- ---------------------------------------------------------------------------
-- Literals and numbers
-- ---------------------------------------------------------------------------

/-- A dict literal. -/
@[simp] theorem nulFree_obj (members : List (String × Json)) :
    (obj members).AllStrings NulFree ↔
      ∀ m ∈ members, NulFree (str m.1) ∧ m.2.AllStrings NulFree := by
  rw [obj, Json.allStrings_obj, List.forall_mem_map]

/-- A member of a dict literal, by its place. -/
theorem nulFree_member {members : List (String × Json)} (h : (obj members).AllStrings NulFree)
    (i : Nat) {key : String} {v : Json} (hMember : members[i]? = some (key, v)) :
    v.AllStrings NulFree :=
  ((nulFree_obj members).mp h _ (List.mem_of_getElem? hMember)).2

/-- A string literal. -/
@[simp] theorem nulFree_text (s : String) : (text s).AllStrings NulFree ↔ NulFree (str s) :=
  Json.allStrings_str _

/-- An amount is a text of digits or `null`. -/
@[simp] theorem nulFree_decimalJson (value : Option ℚ) :
    (decimalJson value).AllStrings NulFree := by
  rw [decimalJson, Json.allStrings_ofStr?]
  intro t ht
  obtain ⟨x, -, rfl⟩ := Option.map_eq_some_iff.mp ht
  exact nulFree_decimalText x

@[simp] theorem nulFree_fieldValue (field : DashboardInsightField) : NulFree field.value := by
  cases field <;> decide

@[simp] theorem nulFree_fieldLabel (field : DashboardInsightField) : NulFree field.label := by
  cases field <;> decide

@[simp] theorem nulFree_goalValue (goal : DashboardGoal) : NulFree goal.value := by
  cases goal <;> decide

@[simp] theorem nulFree_typeValue (dashboardType : DashboardType) :
    NulFree dashboardType.value := by
  cases dashboardType <;> decide

/-- The names of some fields. -/
@[simp] theorem nulFree_fieldValues (fields : List DashboardInsightField) :
    (fieldValues fields).AllStrings NulFree := by
  simp only [fieldValues, Json.allStrings_arr, List.forall_mem_map, Json.allStrings_str,
    nulFree_fieldValue, implies_true]

variable {lib : StandardLibrary} {ctx : Context} {order : SetOrder}

/-- Sorting keeps the periods. -/
theorem mem_sortedPeriods {ν : Type} {values : OrderedDict Str ν} {p : Str} :
    p ∈ sortedPeriods lib values ↔ p ∈ values.keys :=
  mem_sortBy _

/-- The points of a measure are labelled with its periods. -/
@[simp] theorem nulFree_periodPoints (values : OrderedDict Str ℚ) :
    (periodPoints lib values).AllStrings NulFree ↔ ∀ p ∈ values.keys, NulFree p := by
  simp (disch := exact nulFree_literal rfl) [periodPoints, mem_sortedPeriods, nulFree_written]

namespace DashboardInsightAccumulator

variable {acc : DashboardInsightAccumulator}

-- ---------------------------------------------------------------------------
-- What is stored
-- ---------------------------------------------------------------------------

/-- The labels of a dimension have no U+0000. -/
structure DimensionNulFree (m : Measure) (dimension : DashboardInsightField) : Prop where
  values : ∀ v ∈ (m.byDimension dimension).keys, NulFree v
  periods : ∀ p ∈ (m.byPeriodDimension dimension).keys, NulFree p
  points : ∀ p, ∀ v ∈ ((m.byPeriodDimension dimension).getD p ∅).keys, NulFree p ∧ NulFree v

/-- The texts of a status update. -/
def statusTexts (update : StatusUpdate) : List (Option Str) :=
  [update.period, update.title, update.detail, update.status, update.progressDecimal]

/-- The labels that the sections are rendered of have no U+0000. -/
structure LabelsNulFree (acc : DashboardInsightAccumulator) : Prop where
  periods : ∀ field ∈ DashboardInsightField.numericFields,
    ∀ p ∈ (acc.byPeriod field).keys, NulFree p
  dimensions : ∀ d ∈ acc.dashboardType.outflowDimensions,
    DimensionNulFree (acc.measures acc.dashboardType.outflowField) d
  updates : ∀ update ∈ acc.statusUpdates, ∀ text ∈ statusTexts update,
    (Json.ofStr? text).AllStrings NulFree

/-- A label that is stored in some period is one of a point. -/
theorem exists_point {field dimension : DashboardInsightField} {v : Str} :
    v ∈ acc.dimensionItems order field dimension ↔
      ∃ p, v ∈ (((acc.measures field).byPeriodDimension dimension).getD p ∅).keys := by
  rw [dimensionItems, (order.strings_perm _).mem_iff, List.mem_dedup, List.mem_flatMap]
  constructor
  · rintro ⟨row, hRow, hv⟩
    obtain ⟨⟨p, _⟩, hEntry, rfl⟩ := List.mem_map.mp hRow
    refine ⟨p, ?_⟩
    rw [OrderedDict.getD, OrderedDict.get?_of_mem _ hEntry]
    exact hv
  · rintro ⟨p, hv⟩
    rw [OrderedDict.getD] at hv
    cases hGet : ((acc.measures field).byPeriodDimension dimension).get? p with
    | none =>
      rw [hGet] at hv
      exact absurd hv List.not_mem_nil
    | some row =>
      rw [hGet] at hv
      exact ⟨row, List.mem_map.mpr ⟨_, OrderedDict.mem_of_get? _ hGet, rfl⟩, hv⟩

-- ---------------------------------------------------------------------------
-- Sections
-- ---------------------------------------------------------------------------

section

variable {key label unit calculation : String} {field dimension : DashboardInsightField}

/-- A metric shows no label of a row. -/
theorem nulFree_metric (fields : List DashboardInsightField) (value : Option ℚ)
    (hKey : NulFree (str key)) (hLabel : NulFree (str label)) (hUnit : NulFree (str unit))
    (hCalculation : NulFree (str calculation)) :
    (metric key label unit calculation fields value).AllStrings NulFree := by
  have hAvailability : NulFree (str (if value.isSome then "available" else "unavailable")) := by
    split <;> exact nulFree_literal rfl
  simp (disch := exact nulFree_literal rfl) [metric, hKey, hLabel, hUnit, hCalculation,
    hAvailability, nulFree_written]

/-- A series shows the periods of its measure. -/
theorem nulFree_singleSeries (hKey : NulFree (str key)) (hLabel : NulFree (str label))
    (hUnit : NulFree (str unit)) (hCalculation : NulFree (str calculation)) :
    (acc.singleSeries lib key label field unit calculation).AllStrings NulFree ↔
      ∀ p ∈ (acc.byPeriod field).keys, NulFree p := by
  simp (disch := exact nulFree_literal rfl) [singleSeries, hKey, hLabel, hUnit, hCalculation,
    nulFree_written]

/-- The forecast starts at the last period. -/
theorem nulFree_forecastPoints {values : OrderedDict Str ℚ} (h : ∀ p ∈ values.keys, NulFree p) :
    ∀ point ∈ forecastPoints lib ctx values, point.AllStrings NulFree := by
  unfold forecastPoints
  cases hLast : (sortedPeriods lib values).getLast? with
  | none => exact nofun
  | some latest =>
    have hLatest := h latest (mem_sortedPeriods.mp (List.mem_of_getLast? hLast))
    simp (disch := exact nulFree_literal rfl) [hLatest, nulFree_natText, nulFree_written]

/-- The forecast shows the periods of the measure twice. -/
theorem nulFree_cashFlowForecastSeries (h : ∀ p ∈ (acc.byPeriod .netCash).keys, NulFree p) :
    (acc.cashFlowForecastSeries lib ctx).AllStrings NulFree := by
  simpa (disch := exact nulFree_literal rfl) [cashFlowForecastSeries, nulFree_str_append,
    nulFree_written, (nulFree_periodPoints _).mpr h, -String.reduceAppend, -nulFree_periodPoints]
    using nulFree_forecastPoints h

/-- A comparison shows the periods of its measures. -/
theorem nulFree_comparisonSeries {fields : List DashboardInsightField} (hKey : NulFree (str key))
    (hLabel : NulFree (str label)) (hUnit : NulFree (str unit)) :
    (acc.comparisonSeries lib key label fields unit).AllStrings NulFree ↔
      ∀ field ∈ fields, ∀ p ∈ (acc.byPeriod field).keys, NulFree p := by
  simp (disch := exact nulFree_literal rfl) [comparisonSeries, hKey, hLabel, hUnit,
    nulFree_written]

/-- The series of a value of a dimension shows the value, and the periods that have it. -/
theorem nulFree_itemSeries {item : Str} :
    (acc.itemSeries lib field dimension item).AllStrings NulFree ↔ NulFree item ∧
      ∀ p, item ∈ (((acc.measures field).byPeriodDimension dimension).getD p ∅).keys →
        NulFree p := by
  let points := (sortedPeriods lib ((acc.measures field).byPeriodDimension dimension)).filterMap
    fun period =>
      ((((acc.measures field).byPeriodDimension dimension).getD period ∅).get? item).map
        fun value => obj [("label", .str period), ("value_decimal", decimalJson (some value))]
  have hPoints : (∀ point ∈ points, point.AllStrings NulFree) ↔
      ∀ p, item ∈ (((acc.measures field).byPeriodDimension dimension).getD p ∅).keys →
        NulFree p := by
    constructor
    · intro h p hItem
      have hPeriod : p ∈ ((acc.measures field).byPeriodDimension dimension).keys := by
        by_contra hNot
        rw [OrderedDict.getD, (OrderedDict.get?_eq_none _).mpr hNot] at hItem
        exact absurd hItem List.not_mem_nil
      obtain ⟨value, hValue⟩ :=
        Option.isSome_iff_exists.mp ((OrderedDict.isSome_get? _).mpr hItem)
      -- the item has a point in each period that has it
      have hPoint := h _ (List.mem_filterMap.mpr ⟨p, mem_sortedPeriods.mpr hPeriod, by
        rw [hValue, Option.map_some]⟩)
      exact (Json.allStrings_str p).mp (nulFree_member hPoint 0 rfl)
    · intro h point hPoint
      obtain ⟨p, -, hSome⟩ := List.mem_filterMap.mp hPoint
      obtain ⟨value, hValue, rfl⟩ := Option.map_eq_some_iff.mp hSome
      have hPeriod := h p ((OrderedDict.isSome_get? _).mp (by rw [hValue]; rfl))
      simp (disch := exact nulFree_literal rfl) [hPeriod, nulFree_written]
  rw [← hPoints, ← Json.allStrings_arr]
  simp (disch := exact nulFree_literal rfl) only [itemSeries, nulFree_obj, List.forall_mem_cons,
    Json.allStrings_str, nulFree_written, true_and, List.not_mem_nil, false_implies, implies_true,
    and_true, and_self_left, points]

/-- The series of a dimension show its points. -/
theorem nulFree_dimensionSeries (hKey : NulFree (str key)) (hLabel : NulFree (str label)) :
    (acc.dimensionSeries lib ctx order key label field dimension).AllStrings NulFree ↔
      ∀ p, ∀ v ∈ (((acc.measures field).byPeriodDimension dimension).getD p ∅).keys,
        NulFree p ∧ NulFree v := by
  -- the items are the values of all points
  have hItems : (∀ item ∈ sortBy (acc.seriesKey lib ctx field dimension)
      (acc.dimensionItems order field dimension),
      (acc.itemSeries lib field dimension item).AllStrings NulFree) ↔
        ∀ p, ∀ v ∈ (((acc.measures field).byPeriodDimension dimension).getD p ∅).keys,
          NulFree p ∧ NulFree v := by
    simp only [mem_sortBy, exists_point, nulFree_itemSeries]
    constructor
    · intro h p v hv
      exact ⟨(h v ⟨p, hv⟩).2 p hv, (h v ⟨p, hv⟩).1⟩
    · rintro h v ⟨p, hv⟩
      exact ⟨(h p v hv).2, fun q hq => (h q v hq).1⟩
  rw [← hItems]
  simp (disch := exact nulFree_literal rfl) [dimensionSeries, hKey, hLabel, nulFree_written]

/-- The items of a breakdown are the values of the dimension. -/
theorem nulFree_breakdownItems :
    (acc.breakdownItems lib ctx field dimension).AllStrings NulFree ↔
      ∀ v ∈ ((acc.measures field).byDimension dimension).keys, NulFree v := by
  simp (disch := exact nulFree_literal rfl) only [breakdownItems, Json.allStrings_arr,
    List.forall_mem_map, mem_sortBy, nulFree_obj, List.forall_mem_cons, Json.allStrings_str,
    nulFree_decimalJson, nulFree_written, OrderedDict.keys, List.not_mem_nil, false_implies,
    implies_true, and_true, true_and]

/-- And so is a breakdown. -/
theorem nulFree_breakdown (hKey : NulFree (str key)) (hLabel : NulFree (str label)) :
    (acc.breakdown lib ctx key label field dimension).AllStrings NulFree ↔
      ∀ v ∈ ((acc.measures field).byDimension dimension).keys, NulFree v := by
  simp (disch := exact nulFree_literal rfl) [breakdown, nulFree_breakdownItems, hKey, hLabel,
    nulFree_written]

/-- The variance table shows the values of a dimension, and its last two periods. -/
theorem nulFree_varianceTable (h : DimensionNulFree (acc.measures field) dimension) :
    (acc.varianceTable lib ctx order field dimension).AllStrings NulFree := by
  have hRows : ∀ row ∈ acc.varianceRows lib ctx order field dimension,
      (row.json ctx).AllStrings NulFree := by
    intro row hRow
    obtain ⟨item, hItem, rfl⟩ := List.mem_map.mp ((mem_sortBy _).mp hRow)
    obtain ⟨p, hPoint⟩ := exists_point.mp ((mem_sortBy _).mp hItem)
    have hLabel := (h.points p item hPoint).2
    simp (disch := exact nulFree_literal rfl) [VarianceRow.json, varianceRow, hLabel,
      nulFree_written]
  have hPeriods : ∀ p ∈
      (sortedPeriods lib ((acc.measures field).byPeriodDimension dimension)).reverse, NulFree p :=
    fun p hp => h.periods p (mem_sortedPeriods.mp (List.mem_reverse.mp hp))
  have hCurrent : (Json.ofStr? (acc.lastPeriods lib field dimension).1).AllStrings NulFree :=
    (Json.allStrings_ofStr? _).mpr fun p hp => hPeriods p (List.mem_of_head? hp)
  have hPrior : (Json.ofStr? (acc.lastPeriods lib field dimension).2).AllStrings NulFree :=
    (Json.allStrings_ofStr? _).mpr fun p hp =>
      hPeriods p (List.mem_of_mem_tail (List.mem_of_head? hp))
  simpa (disch := exact nulFree_literal rfl) [varianceTable, hCurrent, hPrior, nulFree_written,
    -Json.allStrings_ofStr?] using hRows

end

-- ---------------------------------------------------------------------------
-- Signals
-- ---------------------------------------------------------------------------

/-- An anomaly names two periods of its measure. -/
theorem nulFree_anomalies (h : acc.LabelsNulFree) :
    ∀ item ∈ acc.anomalies lib ctx, item.AllStrings NulFree := by
  have hNumeric : ∀ field ∈ primaryFields acc.dashboardType,
      field ∈ DashboardInsightField.numericFields := by
    cases acc.dashboardType <;> decide
  have hPeriods : ∀ field ∈ primaryFields acc.dashboardType,
      ∀ item ∈ acc.fieldAnomalies lib ctx field,
        NulFree item.priorPeriod ∧ NulFree item.currentPeriod := by
    intro field hField item hItem
    obtain ⟨⟨prior, current⟩, hPair, hSome⟩ := List.mem_filterMap.mp hItem
    obtain ⟨change, -, rfl⟩ := Option.map_eq_some_iff.mp hSome
    have hEach : ∀ p ∈ sortedPeriods lib (acc.byPeriod field), NulFree p :=
      fun p hp => h.periods field (hNumeric field hField) p (mem_sortedPeriods.mp hp)
    obtain ⟨hPrior, hCurrent⟩ := List.of_mem_zip hPair
    exact ⟨hEach prior hPrior, hEach current (List.mem_of_mem_tail hCurrent)⟩
  intro json hJson
  obtain ⟨item, hItem, rfl⟩ := List.mem_map.mp hJson
  obtain ⟨field, hField, hItem⟩ :=
    List.mem_flatMap.mp ((mem_sortBy _).mp (List.mem_of_mem_take hItem))
  obtain ⟨hPrior, hCurrent⟩ := hPeriods field hField item hItem
  simp (disch := exact nulFree_literal rfl) [Anomaly.json, Anomaly.message, nulFree_decimalText,
    hPrior, hCurrent, nulFree_written]

/-- The label of the greatest outflow. -/
theorem nulFree_topLabel (h : acc.LabelsNulFree) {top : Str × ℚ}
    (hTop : maxBy? Prod.snd acc.concentrationValues.entries = some top) : NulFree top.1 := by
  have hDimension : concentrationDimension acc.dashboardType ∈
      acc.dashboardType.outflowDimensions := by
    cases acc.dashboardType <;> decide
  exact (h.dimensions _ hDimension).values _ (List.mem_map_of_mem (mem_of_maxBy? hTop))

/-- A risk names the greatest outflow at most. -/
theorem nulFree_risks (h : acc.LabelsNulFree) :
    ∀ risk ∈ acc.risks ctx, risk.AllStrings NulFree := by
  unfold risks
  simp only [List.forall_mem_append]
  -- the margin and the budget have literals only, the concentration has a label
  refine ⟨⟨?_, ?_⟩, ?_⟩
  · split
    · split
      · simp (disch := exact nulFree_literal rfl) [nulFree_written]
      · exact nofun
    · exact nofun
  · split
    · split
      · simp (disch := exact nulFree_literal rfl) [nulFree_written]
      · exact nofun
    · exact nofun
  · split
    · exact nofun
    · rename_i topLabel topValue hTop
      have hLabel : NulFree topLabel := nulFree_topLabel h hTop
      split
      · split
        · exact nofun
        · simp (disch := exact nulFree_literal rfl) [hLabel, nulFree_decimalText, nulFree_written]
      · exact nofun

/-- So does the evidence of it. -/
theorem nulFree_topEvidence (h : acc.LabelsNulFree) :
    ∀ m ∈ acc.topEvidence ctx, NulFree (str m.1) ∧ m.2.AllStrings NulFree := by
  cases hTop : maxBy? Prod.snd acc.concentrationValues.entries with
  | none =>
    simp only [topEvidence, hTop]
    exact nofun
  | some top =>
    have hLabel := nulFree_topLabel h hTop
    simp (disch := exact nulFree_literal rfl) [topEvidence, hTop, hLabel, nulFree_written]

/-- The message and the evidence of a goal name the greatest outflow at most. -/
theorem nulFree_recommendation (h : acc.LabelsNulFree) (goal : DashboardGoal) :
    NulFree (acc.recommendation lib ctx order goal).1 ∧
      ∀ m ∈ (acc.recommendation lib ctx order goal).2,
        NulFree (str m.1) ∧ m.2.AllStrings NulFree := by
  have hEvidence := @nulFree_topEvidence ctx acc h
  have hMessage : ∀ {c : Prop} [Decidable c] {s t : Str},
      NulFree (if c then s else t) ↔ (c → NulFree s) ∧ (¬c → NulFree t) := by
    intro c _ s t
    split <;> simp [*]
  have hAction : NulFree (str (if goal = .improveOperationalEfficiency then "an efficiency action"
      else "a reduction action")) := by
    split <;> exact nulFree_literal rfl
  cases hTop : maxBy? Prod.snd acc.concentrationValues.entries with
  | none =>
    cases goal <;> simp (disch := exact nulFree_literal rfl) [recommendation, hTop, hMessage,
      nulFree_str_append, nulFree_written, -String.reduceAppend]
    exact fun a b hMem => hEvidence (a, b) hMem
  | some top =>
    have hLabel := nulFree_topLabel h hTop
    cases goal <;> simp (disch := exact nulFree_literal rfl) [recommendation, hTop, hLabel,
      hMessage, nulFree_str_append, nulFree_written, -String.reduceAppend] <;>
      exact fun a b hMem => hEvidence (a, b) hMem

/-- The recommendations are those of the goals. -/
theorem nulFree_recommendations (h : acc.LabelsNulFree) :
    ∀ item ∈ acc.recommendations lib ctx order, item.AllStrings NulFree := by
  intro item hItem
  obtain ⟨goal, -, rfl⟩ := List.mem_map.mp hItem
  obtain ⟨hMessage, hEvidence⟩ := @nulFree_recommendation lib ctx order acc h goal
  simpa (disch := exact nulFree_literal rfl) [hMessage, nulFree_written] using hEvidence

-- ---------------------------------------------------------------------------
-- Dashboard types
-- ---------------------------------------------------------------------------

/-- The sections of an executive summary. -/
theorem nulFree_executiveCalculated :
    (acc.executiveCalculated lib ctx).AllStrings NulFree ↔
      (∀ p ∈ (acc.byPeriod .expenses).keys, NulFree p) ∧
      (acc.cashFlowForecastSeries lib ctx).AllStrings NulFree ∧
      ∀ d ∈ DashboardType.executiveSummary.outflowDimensions,
        ∀ v ∈ ((acc.measures .expenses).byDimension d).keys, NulFree v := by
  simp (disch := exact nulFree_literal rfl) only [executiveCalculated, nulFree_obj,
    Json.allStrings_arr, List.forall_mem_cons, nulFree_text, nulFree_fieldValues, nulFree_metric,
    nulFree_singleSeries, nulFree_breakdown, nulFree_breakdownItems, nulFree_written,
    DashboardType.outflowDimensions, List.not_mem_nil, false_implies, implies_true, and_true,
    true_and]
  -- the values of a category are shown in a breakdown and again in a table
  constructor
  · rintro ⟨⟨hPeriods, hForecast⟩, hValues, -⟩
    exact ⟨hPeriods, hForecast, hValues⟩
  · rintro ⟨hPeriods, hForecast, hValues⟩
    exact ⟨⟨hPeriods, hForecast⟩, hValues, hValues.1⟩

/-- The sections of a financial dashboard. -/
theorem nulFree_financialCalculated :
    (acc.financialCalculated lib ctx order).AllStrings NulFree ↔
      (∀ p ∈ (acc.byPeriod .spend).keys, NulFree p) ∧
      (∀ p ∈ (acc.byPeriod .revenue).keys, NulFree p) ∧
      (∀ p, ∀ v ∈ (((acc.measures .spend).byPeriodDimension .category).getD p ∅).keys,
        NulFree p ∧ NulFree v) ∧
      (∀ v ∈ ((acc.measures .spend).byDimension .location).keys, NulFree v) ∧
      (acc.varianceTable lib ctx order .spend .category).AllStrings NulFree := by
  simp (disch := exact nulFree_literal rfl) [financialCalculated, nulFree_metric,
    nulFree_comparisonSeries, nulFree_dimensionSeries, nulFree_breakdown, nulFree_written,
    and_assoc]

/-- Status updates show their texts. -/
theorem nulFree_renderStatusUpdates :
    (acc.renderStatusUpdates lib).AllStrings NulFree ↔
      ∀ update ∈ acc.statusUpdates, ∀ text ∈ statusTexts update,
        (Json.ofStr? text).AllStrings NulFree := by
  simp (disch := exact nulFree_literal rfl) [renderStatusUpdates, mem_sortBy, statusTexts,
    nulFree_written]

/-- The sections of an operational dashboard. -/
theorem nulFree_operationalCalculated :
    (acc.operationalCalculated lib ctx order).AllStrings NulFree ↔
      (∀ d ∈ DashboardType.operationalKpi.outflowDimensions,
        ∀ p, ∀ v ∈ (((acc.measures .expenses).byPeriodDimension d).getD p ∅).keys,
          NulFree p ∧ NulFree v) ∧
      ∀ update ∈ acc.statusUpdates, ∀ text ∈ statusTexts update,
        (Json.ofStr? text).AllStrings NulFree := by
  simp (disch := exact nulFree_literal rfl) [operationalCalculated, nulFree_metric,
    nulFree_dimensionSeries, nulFree_renderStatusUpdates, nulFree_written,
    DashboardType.outflowDimensions, -Json.allStrings_ofStr?]

-- ---------------------------------------------------------------------------
-- Insights
-- ---------------------------------------------------------------------------

/-- The calculated sections have no other texts. -/
theorem nulFree_calculated (h : acc.LabelsNulFree) :
    (acc.calculated lib ctx order).AllStrings NulFree := by
  have hDimensions := h.dimensions
  unfold calculated
  cases hType : acc.dashboardType with
  | executiveSummary =>
    rw [hType] at hDimensions
    exact nulFree_executiveCalculated.mpr ⟨h.periods .expenses (by decide),
      nulFree_cashFlowForecastSeries (h.periods .netCash (by decide)),
      fun d hd => (hDimensions d hd).values⟩
  | financialPerformance =>
    rw [hType] at hDimensions
    have hCategory := hDimensions .category (by decide)
    exact nulFree_financialCalculated.mpr ⟨h.periods .spend (by decide),
      h.periods .revenue (by decide), hCategory.points, (hDimensions .location (by decide)).values,
      nulFree_varianceTable hCategory⟩
  | operationalKpi =>
    rw [hType] at hDimensions
    exact nulFree_operationalCalculated.mpr ⟨fun d hd => (hDimensions d hd).points, h.updates⟩

/-- **Rendering.** Of labels without U+0000 an insight without it is rendered. -/
theorem render_nulFree (h : acc.LabelsNulFree) {insight : Json}
    (hRender : acc.render lib ctx order = .ok insight) : insight.AllStrings NulFree := by
  unfold render at hRender
  simp only [bind_eq_ok, ensure_eq_ok] at hRender
  obtain ⟨-, -, -, -, -, -, hRender⟩ := hRender
  obtain rfl := Except.ok.inj hRender
  -- the other members are literals, counts, goals and fields
  have hCalculated := @nulFree_calculated lib ctx order acc h
  have hAnomalies := @nulFree_anomalies lib ctx acc h
  have hRisks := @nulFree_risks ctx acc h
  have hRecommendations := @nulFree_recommendations lib ctx order acc h
  simp (disch := exact nulFree_literal rfl) only [nulFree_obj, List.forall_mem_cons,
    Json.allStrings_arr, Json.allStrings_int, Json.allStrings_str, nulFree_text, nulFree_written,
    nulFree_str_append, nulFree_goalValue, nulFree_typeValue, List.forall_mem_map, true_and,
    and_true, List.not_mem_nil, false_implies, implies_true]
  exact ⟨hCalculated, hAnomalies, hRisks, hRecommendations⟩

/-- The calculated sections of what is rendered. -/
theorem calculated_of_render {insight : Json} (hRender : acc.render lib ctx order = .ok insight)
    (hFree : insight.AllStrings NulFree) : (acc.calculated lib ctx order).AllStrings NulFree := by
  unfold render at hRender
  simp only [bind_eq_ok, ensure_eq_ok] at hRender
  obtain ⟨-, -, -, -, -, -, hRender⟩ := hRender
  obtain rfl := Except.ok.inj hRender
  exact nulFree_member hFree 5 rfl

-- ---------------------------------------------------------------------------
-- What is stored is rendered
-- ---------------------------------------------------------------------------

/-- The datasets map fields of the type, as its schema asks. -/
def MapsInsightFields (acc : DashboardInsightAccumulator) : Prop :=
  ∀ key mapping, acc.mappings.get? key = some mapping →
    ∀ field ∈ mapping.keys, field ∈ acc.dashboardType.insightFields

/-- A row has cells in fields of the type. -/
theorem MapsInsightFields.mem (h : acc.MapsInsightFields) {row : InsightRow}
    {field : DashboardInsightField} (hCell : rowSemantic acc.mappings row field ≠ none) :
    field ∈ acc.dashboardType.insightFields := by
  obtain ⟨value, hValue⟩ := Option.ne_none_iff_exists'.mp hCell
  obtain ⟨mapping, hMapping, hValue⟩ := Option.bind_eq_some_iff.mp hValue
  obtain ⟨column, hColumn, -⟩ := Option.bind_eq_some_iff.mp hValue
  exact h row.key mapping hMapping field
    ((OrderedDict.isSome_get? mapping).mp (by rw [hColumn]; rfl))

/-- A contribution is that of a cell. -/
theorem hasCell_of_contribution
    {mappings : OrderedDict DatasetKey (OrderedDict DashboardInsightField Str)}
    {field : DashboardInsightField} {row : InsightRow} {c : Contribution}
    (h : contribution? lib mappings field row = some c) :
    hasCell (rowSemantic mappings row) field = true := by
  obtain ⟨amount, hAmount, -⟩ := Option.bind_eq_some_iff.mp h
  obtain ⟨value, hValue, -⟩ := Option.bind_eq_some_iff.mp hAmount
  unfold hasCell
  rw [hValue]
  rfl

/-- A cell that is not empty is there. -/
theorem semantic_ne_none {semantic : DashboardInsightField → Option Json}
    {field : DashboardInsightField} (h : hasCell semantic field = true) :
    semantic field ≠ none := by
  unfold hasCell at h
  intro hNone
  rw [hNone] at h
  cases h

/-- The periods of a required measure are those of the first one. -/
theorem byPeriod_subset_of_coverage (h : acc.validateRequiredPeriodCoverage = .ok ())
    {first field : DashboardInsightField}
    (hFirst : acc.dashboardType.requiredNumericFields.head? = some first)
    (hField : field ∈ acc.dashboardType.requiredNumericFields) :
    (acc.byPeriod field).keys ⊆ (acc.byPeriod first).keys := by
  unfold validateRequiredPeriodCoverage at h
  simp only [bind_eq_ok, ensure_eq_ok] at h
  obtain ⟨-, -, hSame⟩ := h
  rw [hFirst, Option.all_some] at hSame
  exact (of_decide_eq_true (List.all_eq_true.mp hSame field hField)).1

/-- The labels of a measure have no U+0000 where those of its amounts have none. -/
theorem dimensionNulFree_of_ledger {dashboardType : DashboardType} {m : Measure}
    {ledger : List Contribution} {d : DashboardInsightField}
    (hStored : StoresLabels dashboardType dashboardType.outflowField m ledger)
    (hd : d ∈ dashboardType.outflowDimensions)
    (hLedger : ∀ c ∈ ledger, NulFree c.period ∧ NulFree (c.label d)) : DimensionNulFree m d := by
  refine ⟨fun v hv => ?_, fun p hp => ?_, fun p v hv => ?_⟩
  · obtain ⟨c, hc, rfl⟩ := (hStored.values rfl d hd v).mp hv
    exact (hLedger c hc).2
  · obtain ⟨c, hc, rfl⟩ := (hStored.dimensionPeriods rfl d hd p).mp hp
    exact (hLedger c hc).1
  · obtain ⟨c, hc, rfl, rfl⟩ := (hStored.points rfl d hd p v).mp hv
    exact hLedger c hc

/-- The labels of the outflow and the periods of the first measure are shown. -/
theorem ledger_nulFree_of_calculated {rows : List InsightRow} (hReads : Reads lib rows acc)
    (hFree : (acc.calculated lib ctx order).AllStrings NulFree) :
    (∀ c ∈ contributions lib acc.mappings acc.dashboardType.outflowField rows,
      NulFree c.period ∧ ∀ d ∈ acc.dashboardType.outflowDimensions, NulFree (c.label d)) ∧
    ∀ first, acc.dashboardType.requiredNumericFields.head? = some first →
      ∀ p ∈ (acc.byPeriod first).keys, NulFree p := by
  have hStored := (hReads.measures _ (outflow_numeric acc.dashboardType)).1
  unfold calculated at hFree
  cases hType : acc.dashboardType with
  | executiveSummary =>
    rw [hType] at hFree hStored
    -- the periods are in the trend, the values in the breakdowns
    obtain ⟨hPeriods, -, hValues⟩ := nulFree_executiveCalculated.mp hFree
    refine ⟨fun c hc => ⟨hPeriods _ ((hStored.periods _).mpr ⟨c, hc, rfl⟩), fun d hd => ?_⟩,
      fun first hFirst => ?_⟩
    · exact hValues d hd _ ((hStored.values rfl d hd _).mpr ⟨c, hc, rfl⟩)
    · obtain rfl := Option.some.inj hFirst
      exact hPeriods
  | financialPerformance =>
    rw [hType] at hFree hStored
    obtain ⟨hSpend, hRevenue, hPoints, hLocation, -⟩ := nulFree_financialCalculated.mp hFree
    refine ⟨fun c hc => ⟨hSpend _ ((hStored.periods _).mpr ⟨c, hc, rfl⟩), fun d hd => ?_⟩,
      fun first hFirst => ?_⟩
    · -- the categories are in the trend, the locations in the breakdown
      rcases List.mem_cons.mp hd with rfl | hd
      · exact (hPoints c.period _ ((hStored.points rfl .category (by decide) _ _).mpr
          ⟨c, hc, rfl, rfl⟩)).2
      · obtain rfl := List.mem_singleton.mp hd
        exact hLocation _ ((hStored.values rfl .location (by decide) _).mpr ⟨c, hc, rfl⟩)
    · obtain rfl := Option.some.inj hFirst
      exact hRevenue
  | operationalKpi =>
    rw [hType] at hFree hStored
    -- each period is one of a point
    obtain ⟨hPoints, -⟩ := nulFree_operationalCalculated.mp hFree
    have hEach : ∀ c ∈
        contributions lib acc.mappings DashboardType.operationalKpi.outflowField rows,
        ∀ d ∈ DashboardType.operationalKpi.outflowDimensions,
          NulFree c.period ∧ NulFree (c.label d) := fun c hc d hd =>
      hPoints d hd c.period _ ((hStored.points rfl d hd _ _).mpr ⟨c, hc, rfl, rfl⟩)
    refine ⟨fun c hc => ⟨(hEach c hc .department (by decide)).1, fun d hd => (hEach c hc d hd).2⟩,
      fun first hFirst p hp => ?_⟩
    obtain rfl := Option.some.inj hFirst
    obtain ⟨c, hc, rfl⟩ := (hStored.periods p).mp hp
    exact (hEach c hc .department (by decide)).1

/-- Only an operational dashboard has status updates. -/
theorem statusUpdates_eq_nil {rows : List InsightRow} (hReads : Reads lib rows acc)
    (hMapped : acc.MapsInsightFields) (hType : acc.dashboardType ≠ .operationalKpi) :
    acc.statusUpdates = [] := by
  have hNone : (rows.filter fun row => hasStatus (rowSemantic acc.mappings row)) = [] := by
    refine List.filter_eq_nil_iff.mpr fun row _ hStatus => ?_
    -- it would have a cell in a field that its dataset cannot map
    obtain ⟨field, hField, hCell⟩ := List.any_eq_true.mp hStatus
    have hMem := hMapped.mem (semantic_ne_none hCell)
    have hNot : ∀ dashboardType : DashboardType, dashboardType ≠ .operationalKpi →
        ∀ f ∈ [DashboardInsightField.statusTitle, .statusDetail, .status, .progress],
          f ∉ dashboardType.insightFields := by
      intro dashboardType
      cases dashboardType <;> decide
    exact hNot _ hType field hField hMem
  have hUpdates := hReads.updates
  rw [hNone] at hUpdates
  exact List.forall₂_nil_left_iff.mp hUpdates

/-- **What is rendered.** An insight without U+0000 is of labels without it: each label that is
stored is shown in a calculated section. -/
theorem labels_of_render {rows : List InsightRow} (hReads : Reads lib rows acc)
    (hMapped : acc.MapsInsightFields) {insight : Json}
    (hRender : acc.render lib ctx order = .ok insight) (hFree : insight.AllStrings NulFree) :
    acc.LabelsNulFree := by
  have hCalculated := calculated_of_render hRender hFree
  obtain ⟨hLedger, hFirst⟩ := ledger_nulFree_of_calculated hReads hCalculated
  unfold render at hRender
  simp only [bind_eq_ok, ensure_eq_ok] at hRender
  obtain ⟨-, -, -, -, ⟨⟩, hCoverage, -⟩ := hRender
  refine ⟨fun field hField p hp => ?_, fun d hd => ?_, ?_⟩
  · -- a measure with amounts is mapped, so it is required, and its periods are those of the first
    obtain ⟨c, hc, -⟩ := ((hReads.measures field hField).1.periods p).mp hp
    obtain ⟨row, -, hContribution⟩ := List.mem_filterMap.mp hc
    have hMem := hMapped.mem (semantic_ne_none (hasCell_of_contribution hContribution))
    have hRequired : ∀ dashboardType : DashboardType, ∀ f ∈ DashboardInsightField.numericFields,
        f ∈ dashboardType.insightFields → f ∈ dashboardType.requiredNumericFields := by
      intro dashboardType
      cases dashboardType <;> decide
    obtain ⟨first, hHead⟩ :
        ∃ first, acc.dashboardType.requiredNumericFields.head? = some first := by
      cases acc.dashboardType <;> exact ⟨_, rfl⟩
    exact hFirst first hHead p
      (byPeriod_subset_of_coverage hCoverage hHead (hRequired _ field hField hMem) hp)
  · exact dimensionNulFree_of_ledger (hReads.measures _ (outflow_numeric acc.dashboardType)).1 hd
      fun c hc => ⟨(hLedger c hc).1, (hLedger c hc).2 d hd⟩
  · by_cases hType : acc.dashboardType = .operationalKpi
    · unfold calculated at hCalculated
      rw [hType] at hCalculated
      exact (nulFree_operationalCalculated.mp hCalculated).2
    · rw [statusUpdates_eq_nil hReads hMapped hType]
      exact fun _ hUpdate => absurd hUpdate List.not_mem_nil

end DashboardInsightAccumulator

end SpikeBackend
