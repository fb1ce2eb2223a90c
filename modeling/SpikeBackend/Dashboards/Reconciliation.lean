import Mathlib.Tactic.Ring
import SpikeBackend.Dashboards.PointInTime
import SpikeBackend.Lib.Tally

/-!
# Financial reconciliation of a dashboard aggregation

In exact arithmetic the outflow's amounts are all there, once and in one place: by dimension,
by period, and by both together. Each dict of the outflow measure is a tally of the ledger of
what the rows contribute, and the tallies of one ledger agree on its sums.

* `tally_keeps` — one amount keeps the tallies;
* `countsPoints_observe` — the point count is of the stored combinations;
* `aggregation_reconciles` — the reconciliation, for every sequence of rows.
-/

namespace SpikeBackend

open Text Outcome Collections

variable {lib : StandardLibrary} {order : SetOrder}

-- ---------------------------------------------------------------------------
-- The ledger of the outflow
-- ---------------------------------------------------------------------------

/-- `_sum`, and 0 where nothing was observed. -/
def Measure.total (m : Measure) : ℚ := (m.totals.getD {}).total

/-- The dicts of the outflow measure tally the ledger: for the total, by period, by each
dimension of the outflow, and by period and dimension. -/
structure TalliesLedger (dashboardType : DashboardType) (m : Measure)
    (ledger : List Contribution) : Prop where
  total : m.total = (ledger.map Contribution.amount).sum
  byPeriod : Tallies m.byPeriod (ledger.map fun c => (c.period, c.amount))
  byDimension : ∀ d ∈ dashboardType.outflowDimensions,
    Tallies (m.byDimension d) (ledger.map fun c => (c.label d, c.amount))
  byPeriodDimension : ∀ d ∈ dashboardType.outflowDimensions,
    CrossTallies (m.byPeriodDimension d) (ledger.map fun c => (c.period, c.label d, c.amount))

/-- The empty measure tallies the empty ledger. -/
theorem TalliesLedger.empty (dashboardType : DashboardType) : TalliesLedger dashboardType {} [] where
  total := rfl
  byPeriod := Tallies.empty
  byDimension _ _ := Tallies.empty
  byPeriodDimension _ _ := CrossTallies.empty

/-- The dimensions that the outflow requires are the ones that are aggregated. -/
theorem outflow_aggregated (dashboardType : DashboardType) :
    ∀ d ∈ dashboardType.outflowDimensions,
      (dashboardType.outflowField, d) ∈ dashboardType.dimensionAggregations := by
  cases dashboardType <;> decide

theorem outflow_numeric (dashboardType : DashboardType) :
    dashboardType.outflowField ∈ DashboardInsightField.numericFields := by
  cases dashboardType <;> decide

theorem outflow_additive (dashboardType : DashboardType) :
    dashboardType.outflowField ∉ DashboardInsightField.nonAdditiveFields := by
  cases dashboardType <;> decide

theorem outflow_dimension (dashboardType : DashboardType) :
    ∀ d ∈ dashboardType.outflowDimensions, d ∈ DashboardInsightField.dimensionFields := by
  cases dashboardType <;> decide

/-- Without rounding, an amount is added to the sum of its key. -/
theorem accumulate_eq_addTo {ctx : Context} {values : OrderedDict Str ℚ} {key : Str} {x : ℚ}
    (h : ctx.round (values.getD key 0 + x) = values.getD key 0 + x) :
    accumulate ctx values key x = values.addTo key x := by
  unfold accumulate OrderedDict.addTo Context.add
  rw [h]

/-- The sum of a group of amounts, and one more amount, are a sum of amounts. -/
theorem ExactOn.groupSum {ctx : Context} {ledger : List Contribution} {c : Contribution}
    (hExact : ExactOn ctx ((ledger ++ [c]).map Contribution.amount)) (p : Contribution → Bool) :
    ctx.round (((ledger.filter p).map Contribution.amount).sum + c.amount) =
      ((ledger.filter p).map Contribution.amount).sum + c.amount := by
  have hPart : (ledger.filter p ++ [c]).Sublist (ledger ++ [c]) :=
    List.filter_sublist.append (List.Sublist.refl _)
  have hRound := hExact _ (hPart.map Contribution.amount).subperm
  rw [List.map_append, List.sum_append, List.map_singleton, List.sum_singleton] at hRound
  exact hRound

/-- The amounts of a period with a label, out of a cross table. -/
theorem groupSum_cell (ledger : List Contribution) (d : DashboardInsightField) (p v : Str) :
    groupSum (rowEntries (ledger.map fun c => (c.period, c.label d, c.amount)) p) v =
      ((ledger.filter fun c => c.period = p ∧ c.label d = v).map Contribution.amount).sum := by
  unfold groupSum rowEntries
  rw [List.filter_map, List.map_map, List.filter_map, List.filter_map, List.filter_filter,
    List.map_map]
  refine congrArg List.sum (congrArg (List.map _) (List.filter_congr fun c _ => ?_))
  show (decide (c.label d = v) && decide (c.period = p)) = decide (c.period = p ∧ c.label d = v)
  rw [Bool.and_comm, Bool.decide_and]

/-- An observed amount keeps the tallies of the outflow, where no sum of the amounts is rounded:
its row has every required dimension, so no sum misses it. -/
theorem tally_keeps {ctx : Context} {dashboardType : DashboardType} {m m' : Measure}
    {ledger : List Contribution} {c : Contribution}
    {dimensions : OrderedDict DashboardInsightField Str} {points points' : Nat}
    (hExact : ExactOn ctx ((ledger ++ [c]).map Contribution.amount))
    (hLedger : TalliesLedger dashboardType m ledger)
    (hLabels : ∀ d value, d ∈ DashboardInsightField.dimensionFields →
      dimensions.get? d = some value → value = c.label d)
    (h : m.observe ctx dashboardType dashboardType.outflowField c.dataset c.period dimensions
      c.amount points = .ok (m', points')) :
    TalliesLedger dashboardType m' (ledger ++ [c]) := by
  obtain ⟨-, hRequired, h⟩ := Measure.observe_eq_ok h
  rw [if_neg (outflow_additive dashboardType)] at h
  obtain ⟨hTallied, -⟩ := Measure.tally_eq_ok h
  -- the row's value of a required dimension
  have hValue : ∀ d ∈ dashboardType.outflowDimensions, dimensions.get? d = some (c.label d) := by
    intro d hd
    obtain ⟨value, hGet⟩ := Option.isSome_iff_exists.mp (hRequired rfl d hd)
    rw [hGet, hLabels d value (outflow_dimension dashboardType d hd) hGet]
  -- the sums that the amount is added to
  have hAdd : ∀ {values : OrderedDict Str ℚ} {entries : List (Str × ℚ)} {key : Str}
      (p : Contribution → Bool), Tallies values entries →
      groupSum entries key = ((ledger.filter p).map Contribution.amount).sum →
      accumulate ctx values key c.amount = values.addTo key c.amount := by
    intro values entries key p hTallies hGroup
    refine accumulate_eq_addTo ?_
    rw [hTallies.sums, hGroup]
    exact hExact.groupSum p
  have hGroup : ∀ (key : Contribution → Str) (k : Str),
      groupSum (ledger.map fun c => (key c, c.amount)) k =
        ((ledger.filter fun c => key c = k).map Contribution.amount).sum := by
    intro key k
    unfold groupSum
    rw [List.filter_map, List.map_map]
    rfl
  refine ⟨?_, ?_, fun d hd => ?_, fun d hd => ?_⟩
  · have hTotal : m'.total = ctx.add m.total c.amount := by
      unfold Measure.total
      rw [hTallied.totals]
      rfl
    have hRound := hExact.groupSum fun _ => true
    rw [List.filter_true] at hRound
    rw [hTotal, hLedger.total, List.map_append, List.sum_append, List.map_singleton,
      List.sum_singleton]
    exact hRound
  · rw [hTallied.byPeriod, List.map_append, hAdd _ hLedger.byPeriod (hGroup _ _)]
    exact hLedger.byPeriod.addTo c.period c.amount
  · have hDimension := (hTallied.dimension d (c.label d) (hValue d hd)
      (outflow_aggregated dashboardType d hd)).1
    rw [hDimension, List.map_append, hAdd _ (hLedger.byDimension d hd) (hGroup _ _)]
    exact (hLedger.byDimension d hd).addTo (c.label d) c.amount
  · have hDimension := (hTallied.dimension d (c.label d) (hValue d hd)
      (outflow_aggregated dashboardType d hd)).2
    have hRow := (hLedger.byPeriodDimension d hd).rows c.period
    rw [hDimension, List.map_append, hAdd _ hRow (groupSum_cell _ _ _ _)]
    exact (hLedger.byPeriodDimension d hd).addAt c.period (c.label d) c.amount

-- ---------------------------------------------------------------------------
-- The point count
-- ---------------------------------------------------------------------------

/-- A list without duplicates of the (measure, dimension, period, value) combinations that are
stored. -/
structure StoresPoints (measures : DashboardInsightField → Measure)
    (points : List (DashboardInsightField × DashboardInsightField × Str × Str)) : Prop where
  nodup : points.Nodup
  mem : ∀ f d p v, (f, d, p, v) ∈ points ↔
    (((measures f).byPeriodDimension d).getD p ∅).contains v = true

/-- The points depend on the cross totals only. -/
theorem StoresPoints.congr {measures measures' : DashboardInsightField → Measure}
    {points : List (DashboardInsightField × DashboardInsightField × Str × Str)}
    (h : StoresPoints measures points)
    (hSame : ∀ f, (measures' f).byPeriodDimension = (measures f).byPeriodDimension) :
    StoresPoints measures' points := by
  refine ⟨h.nodup, fun f d p v => ?_⟩
  rw [hSame]
  exact h.mem f d p v

/-- Accumulating under a key adds that key and drops none. -/
theorem contains_accumulate (ctx : Context) (values : OrderedDict Str ℚ) (key other : Str)
    (value : ℚ) : (accumulate ctx values key value).contains other = true ↔
      other = key ∨ values.contains other = true := by
  unfold accumulate OrderedDict.contains
  rw [OrderedDict.get?_set]
  by_cases h : other = key
  · rw [if_pos h]
    exact ⟨fun _ => .inl h, fun _ => rfl⟩
  · rw [if_neg h]
    exact (or_iff_right h).symm

/-- What an amount of one dimension stores: its own combination, besides what is there. -/
theorem contains_addDimension (ctx : Context) (m : Measure) (period : Str) (numeric : ℚ)
    (dimension : DashboardInsightField) (value : Str) (d : DashboardInsightField) (p v : Str) :
    (((m.addDimension ctx period numeric dimension value).byPeriodDimension d).getD p ∅).contains v
        = true ↔
      (d = dimension ∧ p = period ∧ v = value) ∨
        ((m.byPeriodDimension d).getD p ∅).contains v = true := by
  show ((Function.update m.byPeriodDimension dimension _ d).getD p ∅).contains v = true ↔ _
  -- Only the row of this dimension and this period is written.
  by_cases hd : d = dimension
  · subst hd
    rw [Function.update_self, OrderedDict.getD_set]
    by_cases hp : p = period
    · rw [if_pos hp, contains_accumulate, hp]
      simp
    · rw [if_neg hp]
      simp [hp]
  · rw [Function.update_of_ne hd]
    simp [hd]

/-- One dimension of one row: the point is added, and counted, when it is new. -/
theorem storesPoints_observeDimension {ctx : Context} {dashboardType : DashboardType}
    {field : DashboardInsightField} {period : Str} {numeric : ℚ}
    {measures : DashboardInsightField → Measure} {s s' : Measure × Nat}
    {entry : DashboardInsightField × Str}
    (h : Measure.observeDimension ctx dashboardType field period numeric s entry = .ok s')
    (hPoints : ∃ points, StoresPoints (Function.update measures field s.1) points ∧
      points.length = s.2) :
    ∃ points, StoresPoints (Function.update measures field s'.1) points ∧
      points.length = s'.2 := by
  obtain ⟨points, hStored, hLength⟩ := hPoints
  rcases Measure.observeDimension_eq_ok h with ⟨-, rfl⟩ | ⟨-, hMeasure, hCount⟩
  · exact ⟨points, hStored, hLength⟩
  · -- The stored points are the old ones and the one observed.
    have hMem : ∀ f d p v,
        (((Function.update measures field s'.1 f).byPeriodDimension d).getD p ∅).contains v = true ↔
          ((f, d, p, v) = (field, entry.1, period, entry.2)) ∨ (f, d, p, v) ∈ points := by
      intro f d p v
      rw [hStored.mem]
      by_cases hf : f = field
      · subst hf
        rw [Function.update_self, Function.update_self, hMeasure, contains_addDimension]
        simp
      · rw [Function.update_of_ne hf, Function.update_of_ne hf]
        simp [hf]
    have hKnown : ((s.1.byPeriodDimension entry.1).getD period ∅).contains entry.2 = true ↔
        (field, entry.1, period, entry.2) ∈ points := by
      rw [hStored.mem, Function.update_self]
    -- The counter moves only when the label is new for the period.
    rw [hCount]
    split
    · rename_i hOld
      refine ⟨points, ⟨hStored.nodup, fun f d p v => ?_⟩, hLength⟩
      rw [hMem]
      refine ⟨.inr, ?_⟩
      rintro (hEq | hOld')
      · rw [hEq]
        exact hKnown.mp hOld
      · exact hOld'
    · rename_i hNew
      refine ⟨points ++ [(field, entry.1, period, entry.2)], ⟨?_, fun f d p v => ?_⟩, ?_⟩
      · refine List.nodup_append.mpr ⟨hStored.nodup, List.nodup_singleton _, ?_⟩
        rintro x hx y hy rfl
        exact hNew (hKnown.mpr (List.mem_singleton.mp hy ▸ hx))
      · rw [hMem, List.mem_append, List.mem_singleton, or_comm]
      · rw [List.length_append, List.length_singleton, hLength]

namespace DashboardInsightAccumulator

variable {ctx : Context} {acc acc' : DashboardInsightAccumulator}

/-- The point count is the number of the stored combinations. -/
def CountsPoints (acc : DashboardInsightAccumulator) : Prop :=
  ∃ points, StoresPoints acc.measures points ∧ points.length = acc.periodDimensionPointCount

/-- One field of one row keeps the count of the points. -/
theorem countsPoints_observeNumeric {reading : RowReading} {field : DashboardInsightField}
    {s s' : DashboardInsightAccumulator × Bool}
    (h : observeNumeric lib ctx reading s field = .ok s') (hPoints : s.1.CountsPoints) :
    s'.1.CountsPoints := by
  rcases observeNumeric_eq_ok h with ⟨-, rfl⟩ | ⟨numeric, period, m, points, -, -, hMeasure, rfl⟩
  · exact hPoints
  · have hSelf : Function.update s.1.measures field (s.1.measures field) = s.1.measures :=
      Function.update_eq_self _ _
    -- the loop starts at a measure with the cross tables of the one that is there
    have hStart : ∀ m₁ : Measure, m₁.byPeriodDimension = (s.1.measures field).byPeriodDimension →
        ∃ points, StoresPoints (Function.update s.1.measures field m₁) points ∧
          points.length = s.1.periodDimensionPointCount := by
      intro m₁ hm₁
      obtain ⟨stored, hStored, hLength⟩ := hPoints
      refine ⟨stored, hStored.congr fun f => ?_, hLength⟩
      by_cases hf : f = field
      · rw [hf, Function.update_self, hm₁]
      · rw [Function.update_of_ne hf]
    rcases Measure.observe_cases hMeasure with ⟨hm, rfl⟩ | ⟨m₁, hm₁, hFold⟩
    · exact hStart m hm
    · exact foldlM_induction (P := fun x : Measure × Nat =>
        ∃ points, StoresPoints (Function.update s.1.measures field x.1) points ∧
          points.length = x.2) hFold (hStart m₁ hm₁)
        fun x entry x' _ hx hStep => storesPoints_observeDimension hStep hx

/-- One row keeps the count of the points. -/
theorem countsPoints_observe {row : InsightRow} (h : acc.observe lib ctx order row = .ok acc')
    (hPoints : acc.CountsPoints) : acc'.CountsPoints := by
  rcases observe_eq_ok h with ⟨-, rfl⟩ | ⟨mapping, acc₁, reading, s, -, hRead, hNumerics, -,
    hMeasures, hCount⟩
  · exact hPoints
  · obtain ⟨⟨values, rfl⟩, -⟩ := readRow_eq_ok hRead
    have hDone : s.1.CountsPoints :=
      foldlM_induction (P := fun x : DashboardInsightAccumulator × Bool => x.1.CountsPoints)
        hNumerics hPoints fun x field x' _ hx hStep => countsPoints_observeNumeric hStep hx
    unfold CountsPoints
    rw [hMeasures, hCount]
    exact hDone

theorem countsPoints_observeAll {rows : List InsightRow}
    (h : acc.observeAll lib ctx order rows = .ok acc') (hPoints : acc.CountsPoints) :
    acc'.CountsPoints :=
  foldlM_induction h hPoints fun _ _ _ _ hx hStep => countsPoints_observe hStep hx

/-- At the start there are no points. -/
theorem countsPoints_init (dashboardType : DashboardType)
    (configuration : DashboardInsightConfiguration) :
    (init dashboardType configuration).CountsPoints := by
  refine ⟨[], ⟨List.nodup_nil, fun f d p v => ?_⟩, rfl⟩
  constructor
  · intro h
    exact absurd h List.not_mem_nil
  · intro h
    exact Bool.noConfusion h

end DashboardInsightAccumulator

-- ---------------------------------------------------------------------------
-- The reconciliation
-- ---------------------------------------------------------------------------

/-- The outflow measure reconciles along one of its dimensions with what the rows contribute. -/
structure Reconciles (m : Measure) (d : DashboardInsightField) (ledger : List Contribution) :
    Prop where
  /-- nothing is lost or counted twice -/
  total : m.total = (ledger.map Contribution.amount).sum
  /-- an amount is attributed to the value that its row has -/
  attributed : ∀ v, (m.byDimension d).getD v 0 =
    ((ledger.filter fun c => c.label d = v).map Contribution.amount).sum
  values : Context.exact.sum (m.byDimension d).values = m.total
  periods : Context.exact.sum m.byPeriod.values = m.total
  valuesOfPeriod : ∀ p, Context.exact.sum ((m.byPeriodDimension d).getD p ∅).values =
    m.byPeriod.getD p 0
  periodsOfValue : ∀ v, Context.exact.sum ((m.byPeriodDimension d).values.map (·.getD v 0)) =
    (m.byDimension d).getD v 0

/-- Tallies of one ledger reconcile. -/
theorem TalliesLedger.reconciles {dashboardType : DashboardType} {m : Measure}
    {ledger : List Contribution} (h : TalliesLedger dashboardType m ledger)
    {d : DashboardInsightField} (hd : d ∈ dashboardType.outflowDimensions) :
    Reconciles m d ledger := by
  have hDimension := h.byDimension d hd
  have hCross := h.byPeriodDimension d hd
  -- Each total is a sum of a grouping of the same ledger.
  refine ⟨h.total, fun v => ?_, ?_, ?_, fun p => ?_, fun v => ?_⟩
  · rw [hDimension.sums]
    unfold groupSum
    rw [List.filter_map, List.map_map]
    rfl
  · rw [Context.exact_sum, hDimension.sum_values, h.total, List.map_map]
    rfl
  · rw [Context.exact_sum, h.byPeriod.sum_values, h.total, List.map_map]
    rfl
  · rw [Context.exact_sum, hCross.sum_row, h.byPeriod.sums, List.map_map]
    rfl
  · rw [Context.exact_sum, hCross.sum_column, hDimension.sums, List.map_map]
    rfl

namespace DashboardInsightAccumulator

variable {acc : DashboardInsightAccumulator}

/-- **Financial reconciliation.** After any rows that raise nothing, in exact arithmetic, the
outflow reconciles along each of its required dimensions with what the rows contributed, and the
point count is the number of the stored (measure, dimension, period, value) combinations. -/
theorem aggregation_reconciles (dashboardType : DashboardType)
    (configuration : DashboardInsightConfiguration) (rows : List InsightRow)
    (h : (init dashboardType configuration).observeAll lib .exact order rows = .ok acc) :
    (∀ d ∈ dashboardType.outflowDimensions,
      Reconciles (acc.measures dashboardType.outflowField) d
        (contributions lib configuration.mappings dashboardType.outflowField rows)) ∧
    acc.CountsPoints := by
  obtain ⟨-, hLedger⟩ := observeAll_induction (P := TalliesLedger dashboardType)
    (outflow_numeric dashboardType) (fun m m' ledger c dimensions points points' hm hLabels hObserve =>
      tally_keeps (fun _ _ => rfl) hm hLabels hObserve) h (TalliesLedger.empty dashboardType)
  rw [List.nil_append] at hLedger
  exact ⟨fun d hd => hLedger.reconciles hd,
    countsPoints_observeAll h (countsPoints_init dashboardType configuration)⟩

/-- Two rows of one month that share the department but not the vendor. -/
theorem aggregation_reconciles_sample : ∃ acc : DashboardInsightAccumulator,
    (init .operationalKpi (InsightSample.configuration .operationalKpi)).observeAll InsightSample.library
        .exact InsightSample.order InsightSample.operationalRows = .ok acc ∧
      Reconciles (acc.measures .expenses) .department
        (contributions InsightSample.library (InsightSample.configuration .operationalKpi).mappings
          .expenses InsightSample.operationalRows) := by
  obtain ⟨acc, hRun⟩ := exists_ok_of_isOk (by decide +kernel :
    ((init .operationalKpi (InsightSample.configuration .operationalKpi)).observeAll
      InsightSample.library .exact InsightSample.order InsightSample.operationalRows).isOk = true)
  exact ⟨acc, hRun, (aggregation_reconciles _ _ _ hRun).1 .department (by decide)⟩

end DashboardInsightAccumulator

end SpikeBackend
