import SpikeBackend.Dashboards.ObservationOrder
import SpikeBackend.Dashboards.SnapshotHistory
import SpikeBackend.Lib.JsonText

/-!
# The order of the labels

Python iterates a set of strings in an order of its process. Two sections of a dashboard sort the
labels that come out of a set: the series of a dimension by their totals, and the variance table
by the changes. Labels that are equal up to their case tie when their amounts do, and then they
come as the set has them; where no two labels tie, every process renders the same payload, for
any order of the requested sources.

* `render_separated` — no process sees its order where no labels tie;
* `render_order_iff` — and only there all processes render the same;
* `materialization_deterministic_iff` — what processes compute of the same sources.
-/

namespace SpikeBackend

open Text Outcome Collections

variable {lib : StandardLibrary} {ctx : Context} {order order' : SetOrder}

namespace DashboardInsightAccumulator

variable {acc : DashboardInsightAccumulator}

-- ---------------------------------------------------------------------------
-- Labels that tie
-- ---------------------------------------------------------------------------

/-- The labels of a dimension that are stored in any period, in the order of the periods. -/
def storedLabels (acc : DashboardInsightAccumulator) (field dimension : DashboardInsightField) :
    List Str :=
  ((acc.measures field).byPeriodDimension dimension).values.flatMap OrderedDict.keys

/-- No two labels tie in the series of a dimension. -/
def SeriesSeparated (lib : StandardLibrary) (ctx : Context) (acc : DashboardInsightAccumulator)
    (field dimension : DashboardInsightField) : Prop :=
  Separates (acc.seriesKey lib ctx field dimension) (acc.storedLabels field dimension)

/-- The key by which the variance table sorts a label. -/
def varianceKey (lib : StandardLibrary) (ctx : Context) (acc : DashboardInsightAccumulator)
    (field dimension : DashboardInsightField) (label : Str) : ℚ ×ₗ Str :=
  (acc.varianceRow lib field dimension label).sortKey lib ctx

/-- No two labels tie in the variance table. -/
def VarianceSeparated (lib : StandardLibrary) (ctx : Context) (acc : DashboardInsightAccumulator)
    (field dimension : DashboardInsightField) : Prop :=
  Separates (acc.varianceKey lib ctx field dimension) (acc.storedLabels field dimension)

/-- No two labels tie in any section of the type. -/
def LabelsSeparated (lib : StandardLibrary) (ctx : Context) (acc : DashboardInsightAccumulator) :
    Prop :=
  match acc.dashboardType with
  | .executiveSummary => True
  | .financialPerformance =>
    SeriesSeparated lib ctx acc .spend .category ∧ VarianceSeparated lib ctx acc .spend .category
  | .operationalKpi =>
    SeriesSeparated lib ctx acc .expenses .department ∧
      SeriesSeparated lib ctx acc .expenses .vendor

/-- The items of a dimension are its stored labels, as the set gives them. -/
theorem dimensionItems_eq (order : SetOrder) (acc : DashboardInsightAccumulator)
    (field dimension : DashboardInsightField) :
    acc.dimensionItems order field dimension =
      order.strings (acc.storedLabels field dimension) := rfl

theorem mem_dimensionItems {field dimension : DashboardInsightField} {label : Str} :
    label ∈ acc.dimensionItems order field dimension ↔
      label ∈ acc.storedLabels field dimension := by
  rw [dimensionItems_eq, (order.strings_perm _).mem_iff, List.mem_dedup]

theorem dimensionItems_nodup (order : SetOrder) (acc : DashboardInsightAccumulator)
    (field dimension : DashboardInsightField) :
    (acc.dimensionItems order field dimension).Nodup :=
  (order.strings_perm _).nodup_iff.mpr (List.nodup_dedup _)

theorem dimensionItems_swap (order order' : SetOrder) (acc : DashboardInsightAccumulator)
    (field dimension : DashboardInsightField) :
    (acc.dimensionItems order field dimension).Perm (acc.dimensionItems order' field dimension) :=
  (order.strings_perm _).trans (order'.strings_perm _).symm

/-- Keys that tie in the table have labels that are equal up to their case. -/
theorem casefold_eq_of_varianceKey {field dimension : DashboardInsightField} {a b : Str}
    (h : acc.varianceKey lib ctx field dimension a = acc.varianceKey lib ctx field dimension b) :
    lib.casefold a = lib.casefold b :=
  congrArg (fun key => (ofLex key).2) h

-- ---------------------------------------------------------------------------
-- No labels tie
-- ---------------------------------------------------------------------------

variable (order order') in
/-- A series whose labels do not tie is the same in every order. -/
theorem dimensionSeries_separated {field dimension : DashboardInsightField}
    (h : SeriesSeparated lib ctx acc field dimension) (key label : String) :
    acc.dimensionSeries lib ctx order key label field dimension =
      acc.dimensionSeries lib ctx order' key label field dimension := by
  have hKey : Separates (acc.seriesKey lib ctx field dimension)
      (acc.dimensionItems order field dimension) :=
    fun a ha b hb => h a (mem_dimensionItems.mp ha) b (mem_dimensionItems.mp hb)
  have hSorted := sortBy_eq_of_perm (dimensionItems_swap order order' acc field dimension) hKey
  unfold dimensionSeries
  rw [hSorted]

variable (order order') in
/-- A variance table whose rows do not tie is the same in every order. -/
theorem varianceTable_separated {field dimension : DashboardInsightField}
    (h : VarianceSeparated lib ctx acc field dimension) :
    acc.varianceTable lib ctx order field dimension =
      acc.varianceTable lib ctx order' field dimension := by
  have hFolded := (sortBy_perm lib.casefold (acc.dimensionItems order field dimension)).trans
    ((dimensionItems_swap order order' acc field dimension).trans
      (sortBy_perm lib.casefold (acc.dimensionItems order' field dimension)).symm)
  -- Rows with the same key are rows of one label.
  have hKey : Separates (VarianceRow.sortKey lib ctx)
      ((sortBy lib.casefold (acc.dimensionItems order field dimension)).map
        (acc.varianceRow lib field dimension)) := by
    intro r hr r' hr' hEq
    obtain ⟨a, ha, rfl⟩ := List.mem_map.mp hr
    obtain ⟨b, hb, rfl⟩ := List.mem_map.mp hr'
    have hMem : ∀ c ∈ sortBy lib.casefold (acc.dimensionItems order field dimension),
        c ∈ acc.storedLabels field dimension :=
      fun c hc => mem_dimensionItems.mp ((mem_sortBy lib.casefold).mp hc)
    rw [h a (hMem a ha) b (hMem b hb) hEq]
  have hRows : acc.varianceRows lib ctx order field dimension =
      acc.varianceRows lib ctx order' field dimension :=
    sortBy_eq_of_perm (hFolded.map _) hKey
  unfold varianceTable
  rw [hRows]

variable (order order') in
/-- Without ties the calculated part is the same in every order. -/
theorem calculated_separated (h : LabelsSeparated lib ctx acc) :
    acc.calculated lib ctx order = acc.calculated lib ctx order' := by
  unfold LabelsSeparated at h
  unfold calculated
  -- The summary has no dimension, the two others have the sections the condition names.
  cases hType : acc.dashboardType with
  | executiveSummary => rfl
  | financialPerformance =>
    rw [hType] at h
    dsimp only at h ⊢
    unfold financialCalculated
    rw [dimensionSeries_separated order order' h.1, varianceTable_separated order order' h.2]
  | operationalKpi =>
    rw [hType] at h
    dsimp only at h ⊢
    unfold operationalCalculated
    rw [dimensionSeries_separated order order' h.1, dimensionSeries_separated order order' h.2]

/-- The recommendations only count the periods. -/
theorem recommendations_order (order order' : SetOrder) (acc : DashboardInsightAccumulator) :
    acc.recommendations lib ctx order = acc.recommendations lib ctx order' := by
  have hCount : acc.periodCount order = acc.periodCount order' :=
    ((order.strings_perm _).trans (order'.strings_perm _).symm).length_eq
  have hEach : ∀ goal, acc.recommendation lib ctx order goal =
      acc.recommendation lib ctx order' goal := by
    intro goal
    cases goal
    case improveForecasting =>
      -- Only the number of periods is read from a set, and it does not depend on the order.
      unfold recommendation
      rw [hCount]
    all_goals rfl
  unfold recommendations
  simp only [hEach]

/-- **No labels tie.** Every process renders the same. -/
theorem render_separated (h : LabelsSeparated lib ctx acc) :
    acc.render lib ctx order = acc.render lib ctx order' := by
  unfold render
  rw [calculated_separated order order' h, recommendations_order order order' acc]

-- ---------------------------------------------------------------------------
-- Labels that tie are seen
-- ---------------------------------------------------------------------------

/-- A process that has the strings of one list in another order. -/
def reordered (order : SetOrder) (l l' : List Str) (h : l'.Perm l.dedup) : SetOrder where
  numericFields := order.numericFields
  numericFields_perm := order.numericFields_perm
  strings m := if m = l then l' else order.strings m
  strings_perm m := by
    by_cases hm : m = l
    · rw [if_pos hm, hm]
      exact h
    · rw [if_neg hm]
      exact order.strings_perm m

/-- Two labels of a set come in both orders, in two processes. -/
theorem exists_orders (order : SetOrder) {l : List Str} {a b : Str} (ha : a ∈ l) (hb : b ∈ l)
    (hne : a ≠ b) :
    ∃ order₁ order₂ : SetOrder, List.Sublist [a, b] (order₁.strings l) ∧
      List.Sublist [b, a] (order₂.strings l) := by
  obtain ⟨l₁, l₂, hPerm₁, hPerm₂, hSub₁, hSub₂⟩ :=
    exists_perm_swap (List.mem_dedup.mpr ha) (List.mem_dedup.mpr hb) hne
  refine ⟨reordered order l l₁ hPerm₁, reordered order l l₂ hPerm₂, ?_, ?_⟩
  · show List.Sublist [a, b] (if l = l then l₁ else _)
    rw [if_pos rfl]
    exact hSub₁
  · show List.Sublist [b, a] (if l = l then l₂ else _)
    rw [if_pos rfl]
    exact hSub₂

/-- A series names its label. -/
theorem itemSeries_injective (lib : StandardLibrary) (acc : DashboardInsightAccumulator)
    (field dimension : DashboardInsightField) :
    Function.Injective (acc.itemSeries lib field dimension) := by
  intro a b h
  have hKey := (List.cons.inj (Json.obj.inj h)).1
  exact Json.str.inj (Prod.mk.inj hKey).2

theorem varianceRow_label_of_json {r r' : VarianceRow} (h : r.json ctx = r'.json ctx) :
    r.label = r'.label := by
  have hLabel := (List.cons.inj (Json.obj.inj h)).1
  exact Json.str.inj (Prod.mk.inj hLabel).2

/-- The series come in the order of their labels. -/
theorem dimensionSeries_labels {key label : String} {field dimension : DashboardInsightField}
    (h : acc.dimensionSeries lib ctx order key label field dimension =
      acc.dimensionSeries lib ctx order' key label field dimension) :
    sortBy (acc.seriesKey lib ctx field dimension) (acc.dimensionItems order field dimension) =
      sortBy (acc.seriesKey lib ctx field dimension)
        (acc.dimensionItems order' field dimension) := by
  unfold dimensionSeries obj at h
  have hMembers := Json.obj.inj h
  simp only [List.map_cons, List.cons.injEq, Prod.mk.injEq, Json.arr.injEq, true_and,
    and_true] at hMembers
  exact List.map_injective_iff.mpr (itemSeries_injective lib acc field dimension) hMembers

/-- The labels of the variance table, in the order of its rows. -/
theorem varianceTable_labels {field dimension : DashboardInsightField}
    (h : acc.varianceTable lib ctx order field dimension =
      acc.varianceTable lib ctx order' field dimension) :
    (acc.varianceRows lib ctx order field dimension).map VarianceRow.label =
      (acc.varianceRows lib ctx order' field dimension).map VarianceRow.label := by
  unfold varianceTable obj at h
  have hMembers := Json.obj.inj h
  simp only [List.map_cons, List.cons.injEq, Prod.mk.injEq, Json.arr.injEq, true_and,
    and_true] at hMembers
  -- Equal rows as JSON have equal labels, row by row.
  generalize acc.varianceRows lib ctx order field dimension = rows at hMembers ⊢
  generalize acc.varianceRows lib ctx order' field dimension = rows' at hMembers ⊢
  induction rows generalizing rows' with
  | nil => rw [List.map_eq_nil_iff.mp hMembers.symm]
  | cons r rows ih =>
    cases rows' with
    | nil => cases hMembers
    | cons r' rows' =>
      obtain ⟨hHead, hTail⟩ := List.cons.inj hMembers
      rw [List.map_cons, List.map_cons, varianceRow_label_of_json hHead, ih rows' hTail]

/-- If all processes render the same series, no two labels tie in it. -/
theorem separated_of_dimensionSeries {key label : String} {field dimension : DashboardInsightField}
    (h : ∀ order₁ order₂ : SetOrder, acc.dimensionSeries lib ctx order₁ key label field dimension =
      acc.dimensionSeries lib ctx order₂ key label field dimension) (order : SetOrder) :
    SeriesSeparated lib ctx acc field dimension := by
  intro a ha b hb hTie
  by_contra hne
  -- Two orders of the set that differ in the two labels only.
  obtain ⟨order₁, order₂, hSub₁, hSub₂⟩ := exists_orders order ha hb hne
  have hLabels := dimensionSeries_labels (h order₁ order₂)
  have hNodup : (sortBy (acc.seriesKey lib ctx field dimension)
      (acc.dimensionItems order₁ field dimension)).Nodup :=
    (sortBy_perm _ _).nodup_iff.mpr (dimensionItems_nodup order₁ acc field dimension)
  -- The sort is stable, so each order is seen in the series.
  have hFirst := pair_sublist_sortBy hSub₁ hTie
  have hSecond := pair_sublist_sortBy hSub₂ hTie.symm
  exact not_sublist_swap hNodup hFirst (hLabels ▸ hSecond)

/-- The labels of the variance table are those of the set. -/
theorem varianceRows_nodup (lib : StandardLibrary) (ctx : Context) (order : SetOrder)
    (acc : DashboardInsightAccumulator) (field dimension : DashboardInsightField) :
    ((acc.varianceRows lib ctx order field dimension).map VarianceRow.label).Nodup := by
  have hRows := (sortBy_perm (VarianceRow.sortKey lib ctx)
    ((sortBy lib.casefold (acc.dimensionItems order field dimension)).map
      (acc.varianceRow lib field dimension))).map VarianceRow.label
  have hSame : VarianceRow.label ∘ acc.varianceRow lib field dimension = id := rfl
  rw [List.map_map, hSame, List.map_id] at hRows
  have hSorted := sortBy_perm lib.casefold (acc.dimensionItems order field dimension)
  exact (hRows.trans hSorted).nodup_iff.mpr (dimensionItems_nodup order acc field dimension)

/-- Labels that tie stay, in both sorts, as the set has them. -/
theorem pair_sublist_varianceRows {field dimension : DashboardInsightField} {a b : Str}
    (hSub : List.Sublist [a, b] (acc.dimensionItems order field dimension))
    (hTie : acc.varianceKey lib ctx field dimension a = acc.varianceKey lib ctx field dimension b) :
    List.Sublist [a, b]
      ((acc.varianceRows lib ctx order field dimension).map VarianceRow.label) := by
  have hFolded := pair_sublist_sortBy hSub (casefold_eq_of_varianceKey hTie)
  have hRows : List.Sublist
      [acc.varianceRow lib field dimension a, acc.varianceRow lib field dimension b]
      (acc.varianceRows lib ctx order field dimension) :=
    pair_sublist_sortBy (hFolded.map (acc.varianceRow lib field dimension)) hTie
  exact hRows.map VarianceRow.label

/-- If all processes render the same variance table, no two labels tie in it. -/
theorem separated_of_varianceTable {field dimension : DashboardInsightField}
    (h : ∀ order₁ order₂ : SetOrder, acc.varianceTable lib ctx order₁ field dimension =
      acc.varianceTable lib ctx order₂ field dimension) (order : SetOrder) :
    VarianceSeparated lib ctx acc field dimension := by
  intro a ha b hb hTie
  by_contra hne
  obtain ⟨order₁, order₂, hSub₁, hSub₂⟩ := exists_orders order ha hb hne
  have hFirst := pair_sublist_varianceRows hSub₁ hTie
  have hSecond := pair_sublist_varianceRows hSub₂ hTie.symm
  rw [← varianceTable_labels (h order₁ order₂)] at hSecond
  exact not_sublist_swap (varianceRows_nodup lib ctx order₁ acc field dimension) hFirst hSecond

/-- Equal financial parts have equal trends by category and equal variance tables. -/
theorem financialCalculated_sections
    (h : acc.financialCalculated lib ctx order = acc.financialCalculated lib ctx order') :
    acc.dimensionSeries lib ctx order "monthly_trend_by_category" "Monthly Trend by Category"
        .spend .category =
      acc.dimensionSeries lib ctx order' "monthly_trend_by_category" "Monthly Trend by Category"
        .spend .category ∧
    acc.varianceTable lib ctx order .spend .category =
      acc.varianceTable lib ctx order' .spend .category := by
  unfold financialCalculated at h
  obtain ⟨-, hSections⟩ := List.cons.inj (Json.obj.inj h)
  obtain ⟨hSeries, hSections⟩ := List.cons.inj hSections
  obtain ⟨-, hSections⟩ := List.cons.inj hSections
  obtain ⟨hTables, -⟩ := List.cons.inj hSections
  have hSecond := (List.cons.inj (Json.arr.inj (Prod.mk.inj hSeries).2)).2
  exact ⟨(List.cons.inj hSecond).1, (List.cons.inj (Json.arr.inj (Prod.mk.inj hTables).2)).1⟩

/-- Equal operational parts have equal trends by department and by vendor. -/
theorem operationalCalculated_sections
    (h : acc.operationalCalculated lib ctx order = acc.operationalCalculated lib ctx order') :
    acc.dimensionSeries lib ctx order "monthly_trend_by_department" "Monthly Trend by Department"
        .expenses .department =
      acc.dimensionSeries lib ctx order' "monthly_trend_by_department"
        "Monthly Trend by Department" .expenses .department ∧
    acc.dimensionSeries lib ctx order "monthly_trend_by_vendor" "Monthly Trend by Vendor"
        .expenses .vendor =
      acc.dimensionSeries lib ctx order' "monthly_trend_by_vendor" "Monthly Trend by Vendor"
        .expenses .vendor := by
  unfold operationalCalculated at h
  obtain ⟨-, hSections⟩ := List.cons.inj (Json.obj.inj h)
  obtain ⟨hSeries, -⟩ := List.cons.inj hSections
  obtain ⟨hFirst, hSecond⟩ := List.cons.inj (Json.arr.inj (Prod.mk.inj hSeries).2)
  exact ⟨hFirst, (List.cons.inj hSecond).1⟩

/-- A calculated part that is the same in every order has no labels that tie. -/
theorem separated_of_calculated (order : SetOrder)
    (h : ∀ order₁ order₂ : SetOrder,
      acc.calculated lib ctx order₁ = acc.calculated lib ctx order₂) :
    LabelsSeparated lib ctx acc := by
  unfold calculated at h
  unfold LabelsSeparated
  cases hType : acc.dashboardType with
  | executiveSummary => trivial
  | financialPerformance =>
    rw [hType] at h
    dsimp only at h ⊢
    exact ⟨separated_of_dimensionSeries
        (fun order₁ order₂ => (financialCalculated_sections (h order₁ order₂)).1) order,
      separated_of_varianceTable
        (fun order₁ order₂ => (financialCalculated_sections (h order₁ order₂)).2) order⟩
  | operationalKpi =>
    rw [hType] at h
    dsimp only at h ⊢
    exact ⟨separated_of_dimensionSeries
        (fun order₁ order₂ => (operationalCalculated_sections (h order₁ order₂)).1) order,
      separated_of_dimensionSeries
        (fun order₁ order₂ => (operationalCalculated_sections (h order₁ order₂)).2) order⟩

/-- What is rendered has the calculated sections. -/
theorem render_calculated {insight : Json} (h : acc.render lib ctx order = .ok insight)
    (h' : acc.render lib ctx order' = .ok insight) :
    acc.calculated lib ctx order = acc.calculated lib ctx order' := by
  unfold render at h h'
  simp only [bind_eq_ok, ensure_eq_ok] at h h'
  obtain ⟨-, -, -, -, -, -, h⟩ := h
  obtain ⟨-, -, -, -, -, -, h'⟩ := h'
  have hObj := (Except.ok.inj h).trans (Except.ok.inj h').symm
  -- The calculated part is the sixth member of the object.
  obtain ⟨-, hMembers⟩ := List.cons.inj (Json.obj.inj hObj)
  obtain ⟨-, hMembers⟩ := List.cons.inj hMembers
  obtain ⟨-, hMembers⟩ := List.cons.inj hMembers
  obtain ⟨-, hMembers⟩ := List.cons.inj hMembers
  obtain ⟨-, hMembers⟩ := List.cons.inj hMembers
  exact (Prod.mk.inj (List.cons.inj hMembers).1).2

/-- **Labels that tie.** All processes render the same if and only if no labels tie. -/
theorem render_order_iff {insight : Json} (hRender : acc.render lib ctx order = .ok insight) :
    (∀ order' : SetOrder, acc.render lib ctx order' = .ok insight) ↔
      LabelsSeparated lib ctx acc := by
  constructor
  · intro h
    exact separated_of_calculated order fun order₁ order₂ =>
      render_calculated (h order₁) (h order₂)
  · intro h order'
    rw [← hRender]
    exact render_separated h

end DashboardInsightAccumulator

-- ---------------------------------------------------------------------------
-- Materialisations of the same sources
-- ---------------------------------------------------------------------------

/-- The requested sources come in the order of their identifiers. -/
theorem sourceIds_perm {request request' : SnapshotRequest}
    (h : request'.sourceProcessingJobIds.Perm request.sourceProcessingJobIds) :
    request'.sourceIds = request.sourceIds := by
  have hSorted : request'.sourceIds.Perm request.sourceIds :=
    (List.mergeSort_perm _ _).trans (h.trans (List.mergeSort_perm _ _).symm)
  exact hSorted.eq_of_pairwise' (List.pairwise_mergeSort' (· ≤ ·) _)
    (List.pairwise_mergeSort' (· ≤ ·) _)

/-- Wrapping the error of a calculation leaves what succeeds as it is. -/
theorem artifactError_eq_ok {α : Type} {outcome : Except DashboardInsightError α} {a : α} :
    artifactError outcome = .ok a ↔ outcome = .ok a := by
  cases outcome with
  | error e =>
    constructor
    · intro h
      cases h
    · intro h
      cases h
  | ok b =>
    constructor
    · intro h
      rw [Except.ok.inj h]
    · intro h
      rw [Except.ok.inj h]
      rfl

/-- No labels tie in what the sources of a dashboard with an insight accumulate. -/
def SourcesSeparated (lib : StandardLibrary) (ctx : Context) (order : SetOrder)
    (reader : InsightReader) (captured : CapturedDashboard) (jobs : List SourceJob) : Prop :=
  ∀ stored configuration artifacts acc, captured.insightConfiguration = some stored →
    reader.configuration captured.dashboardType stored = .ok configuration →
    observeSources lib ctx order reader captured.dashboardType configuration jobs =
      .ok (artifacts, acc) → acc.LabelsSeparated lib ctx

section Sources

variable {base : SnapshotSettings} {reader : InsightReader} {captured : CapturedDashboard}
  {jobs : List SourceJob} {artifacts : List SourceArtifact} {insight : Option Json}

/-- All processes read and render the same if and only if no labels tie. -/
theorem readArtifacts_order_iff
    (h : readArtifacts lib ctx order reader captured.dashboardType captured.insightConfiguration
      jobs = .ok (artifacts, insight)) :
    (∀ order' : SetOrder, readArtifacts lib ctx order' reader captured.dashboardType
      captured.insightConfiguration jobs = .ok (artifacts, insight)) ↔
      SourcesSeparated lib ctx order reader captured jobs := by
  unfold SourcesSeparated
  cases hStored : captured.insightConfiguration with
  | none =>
    rw [hStored] at h
    exact ⟨fun _ stored _ _ _ hSome => absurd hSome.symm (Option.some_ne_none stored), fun _ _ => h⟩
  | some stored =>
    rw [hStored] at h
    obtain ⟨configuration, hConfiguration, h⟩ := bind_eq_ok.mp h
    obtain ⟨⟨artifacts', acc⟩, hObserve, h⟩ := bind_eq_ok.mp h
    obtain ⟨rendered, hRender, hDone⟩ := bind_eq_ok.mp h
    obtain ⟨rfl, rfl⟩ := Prod.mk.inj (Except.ok.inj hDone)
    have hRendered := artifactError_eq_ok.mp hRender
    -- the sources accumulate the same in every process, so only the rendering is left
    have hRead : ∀ order' : SetOrder, readArtifacts lib ctx order' reader captured.dashboardType
        (some stored) jobs = .ok (artifacts', some rendered) ↔
          acc.render lib ctx order' = .ok rendered := by
      intro order'
      have hObserve' : observeSources lib ctx order' reader captured.dashboardType configuration
          jobs = .ok (artifacts', acc) := (observeSources_order reader _ _ _).trans hObserve
      unfold readArtifacts
      simp only [hConfiguration, hObserve', ok_bind]
      constructor
      · intro h'
        obtain ⟨rendered', hRender', hDone'⟩ := bind_eq_ok.mp h'
        have hSame := Option.some.inj (Prod.mk.inj (Except.ok.inj hDone')).2
        rw [← hSame]
        exact artifactError_eq_ok.mp hRender'
      · intro h'
        rw [artifactError_eq_ok.mpr h']
        rfl
    simp only [hRead]
    rw [DashboardInsightAccumulator.render_order_iff hRendered]
    constructor
    · intro hSeparated stored' configuration' artifacts'' acc' hSome hConfiguration' hObserve'
      cases Option.some.inj hSome
      cases hConfiguration.symm.trans hConfiguration'
      cases hObserve.symm.trans hObserve'
      exact hSeparated
    · intro hSeparated
      exact hSeparated stored configuration artifacts' acc rfl hConfiguration hObserve

/-- What does not depend on the process: the jobs and the rendered artifacts for any order of the
requested sources, the payload with its content hash, and the replay of a snapshot of the same
content. -/
structure Reproduces (lib : StandardLibrary) (ctx : Context) (order : SetOrder)
    (base : SnapshotSettings) (reader : InsightReader) (s : SnapshotState)
    (request : SnapshotRequest) (captured : CapturedDashboard) (jobs : List SourceJob)
    (artifacts : List SourceArtifact) (insight : Option Json) : Prop where
  rendered : ∀ (order' : SetOrder) (request' : SnapshotRequest), request'.scope = request.scope →
    request'.sourceProcessingJobIds.Perm request.sourceProcessingJobIds →
    s.readJobs (insightSettings lib ctx order' base reader) request' captured = .ok jobs ∧
      readArtifacts lib ctx order' reader captured.dashboardType captured.insightConfiguration
        jobs = .ok (artifacts, insight)
  computed : ∀ (order' : SetOrder) (dashboardId : Uuid),
    (insightSettings lib ctx order' base reader).computePayload dashboardId captured jobs =
      (insightSettings lib ctx order base reader).computePayload dashboardId captured jobs
  replays : ∀ (order₁ order₂ : SetOrder) (s' : SnapshotState) (i : Nat) (m : Materialization)
    (latest : DashboardSnapshot),
    (insightSettings lib ctx order₁ base reader).computePayload m.request.dashboardId captured
      jobs = .ok (latest.payload, latest.contentHash) →
    (insightSettings lib ctx order₂ base reader).computePayload m.request.dashboardId captured
      jobs = .ok (m.payload, m.contentHash) →
    s'.latest? m.request.scope m.request.dashboardId = some latest →
    s'.readLatest (insightSettings lib ctx order₂ base reader) i m =
      s'.finish i (.materialized latest.id true)

/-- A process computes the same payload from the same artifacts. -/
theorem computePayload_congr (dashboardId : Uuid)
    (h : readArtifacts lib ctx order' reader captured.dashboardType
        captured.insightConfiguration jobs =
      readArtifacts lib ctx order reader captured.dashboardType captured.insightConfiguration
        jobs) :
    (insightSettings lib ctx order' base reader).computePayload dashboardId captured jobs =
      (insightSettings lib ctx order base reader).computePayload dashboardId captured jobs := by
  unfold SnapshotSettings.computePayload
  show (readArtifacts lib ctx order' reader captured.dashboardType captured.insightConfiguration
    jobs >>= _) = (readArtifacts lib ctx order reader captured.dashboardType
      captured.insightConfiguration jobs >>= _)
  rw [h]
  rfl

/-- The latest snapshot answers a call that computed its payload and hash. -/
theorem readLatest_of_computed {settings settings' : SnapshotSettings} {s : SnapshotState}
    {i : Nat} {m : Materialization} {latest : DashboardSnapshot}
    (hStored : settings.computePayload m.request.dashboardId captured jobs =
      .ok (latest.payload, latest.contentHash))
    (hSame : settings.computePayload m.request.dashboardId captured jobs =
      settings'.computePayload m.request.dashboardId captured jobs)
    (hComputed : settings'.computePayload m.request.dashboardId captured jobs =
      .ok (m.payload, m.contentHash))
    (hLatest : s.latest? m.request.scope m.request.dashboardId = some latest) :
    s.readLatest settings' i m = s.finish i (.materialized latest.id true) := by
  have hHere := hSame.symm.trans hStored
  -- Same payload, hence the same hash: the reader returns the stored row.
  have hHash := SnapshotState.computePayload_hash hHere
  obtain ⟨-, hContent⟩ := Prod.mk.inj (Except.ok.inj (hHere.symm.trans hComputed))
  unfold SnapshotState.readLatest
  rw [hLatest]
  dsimp only
  rw [hHash]
  dsimp only
  rw [if_neg (fun hne => hne rfl), if_pos hContent]

/-- **Determinism.** Of sources whose rows are accepted, every process renders the same for any
order of the requested identifiers, and replays the snapshot that it has of them, if and only if
no two labels tie in a section that takes them from a set. -/
theorem materialization_deterministic_iff {s : SnapshotState} {request : SnapshotRequest}
    (hJobs : s.readJobs (insightSettings lib ctx order base reader) request captured = .ok jobs)
    (hRead : readArtifacts lib ctx order reader captured.dashboardType
      captured.insightConfiguration jobs = .ok (artifacts, insight)) :
    Reproduces lib ctx order base reader s request captured jobs artifacts insight ↔
      SourcesSeparated lib ctx order reader captured jobs := by
  constructor
  · intro h
    exact (readArtifacts_order_iff hRead).mp fun order' =>
      (h.rendered order' request rfl (.refl _)).2
  · intro hSeparated
    -- Separated sources read the same in every order; the payload and its hash follow.
    have hOrders := (readArtifacts_order_iff hRead).mpr hSeparated
    have hComputed : ∀ (order' : SetOrder) (dashboardId : Uuid),
        (insightSettings lib ctx order' base reader).computePayload dashboardId captured jobs =
          (insightSettings lib ctx order base reader).computePayload dashboardId captured jobs :=
      fun order' dashboardId => computePayload_congr dashboardId ((hOrders order').trans hRead.symm)
    refine ⟨?_, hComputed, ?_⟩
    · intro order' request' hScope hPerm
      refine ⟨?_, hOrders order'⟩
      rw [← hJobs]
      unfold SnapshotState.readJobs
      rw [hScope, sourceIds_perm hPerm]
      rfl
    · intro order₁ order₂ s' i m latest hStored hMine hLatest
      exact readLatest_of_computed hStored
        ((hComputed order₁ _).trans (hComputed order₂ _).symm) hMine hLatest

/-- A payload holds the insight that it is built with. -/
theorem insight_of_buildPayload {settings : SnapshotSettings} {dashboardId : Uuid}
    {insight insight' payload : Json}
    (h : settings.buildPayload dashboardId captured (some insight) artifacts = .ok payload)
    (h' : settings.buildPayload dashboardId captured (some insight') artifacts = .ok payload) :
    insight = insight' := by
  unfold SnapshotSettings.buildPayload at h h'
  simp only [bind_eq_ok, required_eq_ok, ensure_eq_ok] at h h'
  obtain ⟨rendered, hRendered, bytes, -, -, -, hPayload⟩ := h
  obtain ⟨rendered', hRendered', bytes', -, -, -, hPayload'⟩ := h'
  cases hRendered.symm.trans hRendered'
  have hMembers := Json.obj.inj ((Except.ok.inj hPayload).trans (Except.ok.inj hPayload').symm)
  have hLast := List.append_cancel_left hMembers
  exact (Prod.mk.inj (List.cons.inj hLast).1).2

end Sources

-- ---------------------------------------------------------------------------
-- A sample
-- ---------------------------------------------------------------------------

namespace DeterminismSample

/-- Expenses of one vendor of two spellings, for two amounts. -/
def rows (amount amount' : Int) : List InsightRow :=
  [InsightSample.row .operationalKpi 0 [(.period, .str (str "2024-01")),
      (.department, .str (str "Sales")), (.vendor, .str (str "Acme")), (.expenses, .int amount)],
    InsightSample.row .operationalKpi 0 [(.period, .str (str "2024-01")),
      (.department, .str (str "Sales")), (.vendor, .str (str "ACME")), (.expenses, .int amount')]]

/-- Both sheets have every column. -/
def profile : Dict :=
  [(str "source", .obj
      [(str "filename", .str (str "expenses.xlsx")),
        (str "report_upload_id", .str (uuidText 1))]),
    (str "sheets", .arr ([0, 1].map fun index : Int => .obj
    [(str "index", .int index), (str "name", .str (str "data")),
      (str "columns", .arr (DashboardType.operationalKpi.insightFields.map fun field =>
        .obj [(str "name", .str field.value)]))]))]

def reader (amount amount' : Int) : InsightReader where
  modelValidate _ := some (InsightSample.configuration .operationalKpi)
  readSource job := .ok ⟨⟨job, profile, .null⟩, rows amount amount'⟩

/-- A process that has its sets of strings the other way round. -/
def otherOrder : SetOrder where
  numericFields := DashboardInsightField.numericFields
  numericFields_perm := .refl _
  strings l := l.dedup.reverse
  strings_perm l := List.reverse_perm l.dedup

def job : ReportProcessingJob :=
  { id := 1
    businessId := 1
    createdAt := 0
    reportUploadId := 1
    sourceStorageVersionId := str "v"
    sourceEtag := str "e"
    status := .completed
    attemptCount := 1
    availableAt := none
    startedAt := some 1
    finishedAt := some 2
    resultStorageBucket := some (str "bucket")
    normalizedStorageKey := some (str "n")
    normalizedStorageVersionId := some (str "v")
    normalizedEtag := some (str "e")
    normalizedSizeBytes := some 10
    profileStorageKey := some (str "p")
    profileStorageVersionId := some (str "v")
    profileEtag := some (str "e")
    recordCount := some 2
    sheetCount := some 2 }

def state : SnapshotState := { jobs := .single job (by decide) }

def request : SnapshotRequest := ⟨1, 1, 1, [1]⟩

def captured : CapturedDashboard := ⟨.operationalKpi, str "Expenses", .obj [], some (.obj []), 0⟩

/-- JSON texts and identifiers; the digests are those of the three payloads that are computed
below, of which two differ first in the second letter of a vendor. -/
def base : SnapshotSettings where
  mappedProcessingJobIds _ _ := none
  readArtifacts _ _ _ := .error .artifact
  canonicalJsonBytes value :=
    if value.writable = true then encode? (jsonText (fun _ => str "0.0") value.sortKeys) else none
  sha256 bytes :=
    if bytes.length = 3404 then
      str "8dd267de242e701dfcb9d69997e80800d484038509f65c9ad9461eaaba2ba2cd"
    else if bytes[1554]? = some 0x63 then
      str "895e696821e0889bb7fdfe16caf66d945e47af2caf4168c090a79e48fae5c6f2"
    else str "5526c9256365bd9ef1ce46f09f24d78783e9a00974f4a2c9af844958c630c78e"
  uuidStr := uuidText

/-- What a process reads and renders of the sample's source. -/
def read (order : SetOrder) (amount amount' : Int) :
    Except DashboardSnapshotError (List SourceArtifact × Option Json) :=
  readArtifacts InsightSample.library InsightSample.context order (reader amount amount')
    captured.dashboardType captured.insightConfiguration [job.source]

/-- What a process stores of the sample's source. -/
def computed (order : SetOrder) (amount amount' : Int) :
    Except DashboardSnapshotError (Json × Str) :=
  (insightSettings InsightSample.library InsightSample.context order base
    (reader amount amount')).computePayload 1 captured [job.source]

/-- What the source accumulates. -/
def observed (amount amount' : Int) :
    Except DashboardSnapshotError (List SourceArtifact × DashboardInsightAccumulator) :=
  observeSources InsightSample.library InsightSample.context InsightSample.order
    (reader amount amount') .operationalKpi (InsightSample.configuration .operationalKpi)
    [job.source]

/-- The labels of the vendors' series, in their order. -/
def vendorLabels (order : SetOrder) (sources : List SourceArtifact × DashboardInsightAccumulator) :
    List Str :=
  sortBy (sources.2.seriesKey InsightSample.library InsightSample.context .expenses .vendor)
    (sources.2.dimensionItems order .expenses .vendor)

/-- The one job of the sample state is read. -/
theorem readJobs_state (order : SetOrder) (base : SnapshotSettings) (amount amount' : Int) :
    state.readJobs (insightSettings InsightSample.library InsightSample.context order base
      (reader amount amount')) request captured = .ok [job.source] := by
  have hIds : request.sourceIds = [1] := List.mergeSort_singleton 1
  unfold SnapshotState.readJobs
  rw [hIds]
  rfl

/-- The sample is read as it accumulates and renders. -/
theorem read_eq_ok {order : SetOrder} {amount amount' : Int} {artifacts : List SourceArtifact}
    {insight : Option Json} (h : read order amount amount' = .ok (artifacts, insight)) :
    ∃ acc rendered, observed amount amount' = .ok (artifacts, acc) ∧ insight = some rendered ∧
      acc.render InsightSample.library InsightSample.context order = .ok rendered := by
  obtain ⟨configuration, hConfiguration, h⟩ := bind_eq_ok.mp h
  obtain ⟨⟨artifacts', acc⟩, hObserve, h⟩ := bind_eq_ok.mp h
  obtain ⟨rendered, hRender, hDone⟩ := bind_eq_ok.mp h
  obtain ⟨rfl, rfl⟩ := Prod.mk.inj (Except.ok.inj hDone)
  have hOwn : (reader amount amount').configuration captured.dashboardType (.obj []) =
      .ok (InsightSample.configuration .operationalKpi) := rfl
  cases hOwn.symm.trans hConfiguration
  -- What is observed does not depend on the order; only rendering does.
  have hObserved : observed amount amount' = .ok (artifacts', acc) :=
    (observeSources_order _ _ _ _).trans hObserve
  exact ⟨acc, rendered, hObserved, rfl, artifactError_eq_ok.mp hRender⟩

end DeterminismSample

open DeterminismSample

/-- Two spellings of one vendor with the same total: two processes that accept the rows render
them in different orders, and store different payloads of them. -/
theorem vendor_spellings_reordered :
    ∃ artifacts insight insight' payload payload' hash hash',
      read InsightSample.order 100 100 = .ok (artifacts, some insight) ∧
      read otherOrder 100 100 = .ok (artifacts, some insight') ∧ insight ≠ insight' ∧
      computed InsightSample.order 100 100 = .ok (payload, hash) ∧
      computed otherOrder 100 100 = .ok (payload', hash') ∧ payload ≠ payload' ∧
      ∀ (base : SnapshotSettings) (dashboardId : Uuid) (payload payload' : Json) (hash hash' : Str),
        (insightSettings InsightSample.library InsightSample.context InsightSample.order base
          (reader 100 100)).computePayload dashboardId captured [job.source] =
            .ok (payload, hash) →
        (insightSettings InsightSample.library InsightSample.context otherOrder base
          (reader 100 100)).computePayload dashboardId captured [job.source] =
            .ok (payload', hash') → payload ≠ payload' := by
  have hOk : (read InsightSample.order 100 100).isOk = true ∧
      (read otherOrder 100 100).isOk = true ∧
      (computed InsightSample.order 100 100).isOk = true ∧
      (computed otherOrder 100 100).isOk = true ∧
      ((observed 100 100).toOption.all fun sources =>
        decide (sources.2.dashboardType = .operationalKpi ∧
          vendorLabels InsightSample.order sources ≠ vendorLabels otherOrder sources)) = true := by
    decide +kernel
  obtain ⟨hFirst, hSecond, hComputed, hComputed', hSources⟩ := hOk
  obtain ⟨⟨artifacts, found⟩, hRead⟩ := exists_ok_of_isOk hFirst
  obtain ⟨⟨artifacts', found'⟩, hRead'⟩ := exists_ok_of_isOk hSecond
  obtain ⟨acc, insight, hObserved, rfl, hRender⟩ := read_eq_ok hRead
  obtain ⟨acc', insight', hObserved', rfl, hRender'⟩ := read_eq_ok hRead'
  cases hObserved.symm.trans hObserved'
  rw [hObserved] at hSources
  obtain ⟨hType, hLabels⟩ := of_decide_eq_true hSources
  have hNe : insight ≠ insight' := by
    intro hSame
    rw [← hSame] at hRender'
    have hCalculated := DashboardInsightAccumulator.render_calculated hRender hRender'
    unfold DashboardInsightAccumulator.calculated at hCalculated
    rw [hType] at hCalculated
    have hVendors := (DashboardInsightAccumulator.operationalCalculated_sections hCalculated).2
    exact hLabels (DashboardInsightAccumulator.dimensionSeries_labels hVendors)
  -- a payload ends with its insight, so different insights make different payloads
  have hDiffer : ∀ (base : SnapshotSettings) (dashboardId : Uuid) (payload payload' : Json)
      (hash hash' : Str),
      (insightSettings InsightSample.library InsightSample.context InsightSample.order base
        (reader 100 100)).computePayload dashboardId captured [job.source] =
          .ok (payload, hash) →
      (insightSettings InsightSample.library InsightSample.context otherOrder base
        (reader 100 100)).computePayload dashboardId captured [job.source] =
          .ok (payload', hash') → payload ≠ payload' := by
    intro base dashboardId payload payload' hash hash' hPayload hPayload' hSame
    obtain ⟨⟨artifacts₁, found₁⟩, hSources₁, hPayload⟩ := bind_eq_ok.mp hPayload
    obtain ⟨⟨artifacts₂, found₂⟩, hSources₂, hPayload'⟩ := bind_eq_ok.mp hPayload'
    cases hRead.symm.trans hSources₁
    cases hRead'.symm.trans hSources₂
    obtain ⟨built, hBuilt, hPayload⟩ := bind_eq_ok.mp hPayload
    obtain ⟨built', hBuilt', hPayload'⟩ := bind_eq_ok.mp hPayload'
    obtain ⟨_, -, hPayload⟩ := bind_eq_ok.mp hPayload
    obtain ⟨_, -, hPayload'⟩ := bind_eq_ok.mp hPayload'
    cases Except.ok.inj hPayload
    cases Except.ok.inj hPayload'
    rw [← hSame] at hBuilt'
    exact hNe (insight_of_buildPayload hBuilt hBuilt')
  obtain ⟨⟨payload, hash⟩, hPayload⟩ := exists_ok_of_isOk hComputed
  obtain ⟨⟨payload', hash'⟩, hPayload'⟩ := exists_ok_of_isOk hComputed'
  exact ⟨artifacts, insight, insight', payload, payload', hash, hash', hRead, hRead', hNe, hPayload,
    hPayload', hDiffer base 1 payload payload' hash hash' hPayload hPayload', hDiffer⟩

/-- Two spellings with different totals come in one order, and every process stores one payload. -/
theorem vendor_spellings_kept :
    ∃ artifacts insight payload hash, read InsightSample.order 100 50 = .ok (artifacts, insight) ∧
      (∀ base : SnapshotSettings,
        Reproduces InsightSample.library InsightSample.context InsightSample.order base
          (reader 100 50) state request captured [job.source] artifacts insight) ∧
      ∀ order : SetOrder, computed order 100 50 = .ok (payload, hash) := by
  have hOk : (read InsightSample.order 100 50).isOk = true ∧
      (computed InsightSample.order 100 50).isOk = true ∧
      ((observed 100 50).toOption.all fun sources =>
        decide (sources.2.dashboardType = .operationalKpi) &&
        [DashboardInsightField.department, .vendor].all fun dimension =>
          (sources.2.storedLabels .expenses dimension).all fun a =>
            (sources.2.storedLabels .expenses dimension).all fun b =>
              decide (sources.2.seriesKey InsightSample.library InsightSample.context .expenses
                dimension a = sources.2.seriesKey InsightSample.library InsightSample.context
                  .expenses dimension b → a = b)) = true := by
    decide +kernel
  obtain ⟨hFirst, hComputed, hSources⟩ := hOk
  obtain ⟨⟨artifacts, insight⟩, hRead⟩ := exists_ok_of_isOk hFirst
  obtain ⟨⟨payload, hash⟩, hPayload⟩ := exists_ok_of_isOk hComputed
  -- The totals of the two spellings differ, so no labels tie.
  have hSeparated : SourcesSeparated InsightSample.library InsightSample.context
      InsightSample.order (reader 100 50) captured [job.source] := by
    intro stored configuration artifacts' acc hStored hConfiguration hObserve
    cases Option.some.inj hStored
    have hOwn : (reader 100 50).configuration captured.dashboardType (.obj []) =
        .ok (InsightSample.configuration .operationalKpi) := rfl
    cases hOwn.symm.trans hConfiguration
    have hObserved : observed 100 50 = .ok (artifacts', acc) := hObserve
    rw [hObserved] at hSources
    simp only [Except.toOption, Option.all_some, Bool.and_eq_true, List.all_cons, List.all_nil,
      Bool.and_true, decide_eq_true_eq, List.all_eq_true] at hSources
    obtain ⟨hType, hDepartments, hVendors⟩ := hSources
    unfold DashboardInsightAccumulator.LabelsSeparated
    rw [hType]
    exact ⟨hDepartments, hVendors⟩
  have hReproduces : ∀ base : SnapshotSettings,
      Reproduces InsightSample.library InsightSample.context InsightSample.order base
        (reader 100 50) state request captured [job.source] artifacts insight := fun base =>
    (materialization_deterministic_iff (readJobs_state InsightSample.order base 100 50) hRead).mpr
      hSeparated
  exact ⟨artifacts, insight, payload, hash, hRead, hReproduces,
    fun order => ((hReproduces base).computed order 1).trans hPayload⟩

end SpikeBackend
