import SpikeBackend.Dashboards.NumericCells
import SpikeBackend.Dashboards.Reconciliation

/-!
# Exact totals

The working precision of 80 digits holds every sum of two million text cells: an accepted cell has
at most 20 digits after the point and 40 before it, and two million of them add seven more. So each
stored sum is the sum of the cells that went into it, and the order of the cells does not matter.

* `cellSum_fits` — the sums stay within the precision;
* `Accumulates.exactSums` — what a measure holds after some cells;
* `totals_exact` — the sums of any list of accepted cells;
* `accumulates_observeAll` — the measures of a run are such sums.
-/

namespace SpikeBackend

open Text Outcome Collections

variable {lib : StandardLibrary} {order : SetOrder} {dashboardType : DashboardType}
  {field : DashboardInsightField}

/-- A text cell that `_strict_decimal` accepts under some flags, with what its row says. -/
structure AcceptedCell (lib : StandardLibrary) where
  content : Str
  allowCurrency : Bool
  allowPercent : Bool
  value : ℚ
  accepted : strictDecimal lib allowCurrency allowPercent (.str content) = some value
  period : Str
  dimensions : OrderedDict DashboardInsightField Str

/-- `context.prec = DASHBOARD_INSIGHT_DECIMAL_PRECISION`. -/
def insightContext : Context := .ofPrec dashboardInsightDecimalPrecision

-- ---------------------------------------------------------------------------
-- Sums of cells
-- ---------------------------------------------------------------------------

/-- The sum of the cells with a property. -/
def cellSum (p : AcceptedCell lib → Bool) (cells : List (AcceptedCell lib)) : ℚ :=
  ((cells.filter p).map AcceptedCell.value).sum

/-- One more cell adds its value where it is counted. -/
theorem cellSum_concat (p : AcceptedCell lib → Bool) (cells : List (AcceptedCell lib))
    (c : AcceptedCell lib) :
    cellSum p (cells ++ [c]) = cellSum p cells + if p c then c.value else 0 := by
  unfold cellSum
  rw [List.filter_append, List.map_append, List.sum_append, List.filter_singleton]
  by_cases hp : p c = true
  · rw [hp]
    simp
  · rw [eq_false_of_ne_true hp]
    simp

theorem cellSum_perm {cells cells' : List (AcceptedCell lib)} (h : cells.Perm cells')
    (p : AcceptedCell lib → Bool) : cellSum p cells = cellSum p cells' :=
  ((h.filter p).map AcceptedCell.value).sum_eq

/-- The sum of accepted cells fits their number. -/
theorem cells_fit (cells : List (AcceptedCell lib)) :
    Fits 20 (cells.length * 10 ^ 60) (cells.map AcceptedCell.value).sum := by
  have hSum : Fits 20 ((cells.map AcceptedCell.value).length * 10 ^ 60)
      (cells.map AcceptedCell.value).sum := by
    refine Fits.sum fun x hx => ?_
    obtain ⟨c, -, rfl⟩ := List.mem_map.mp hx
    exact strictDecimal_fits c.accepted
  rw [List.length_map] at hSum
  exact hSum

theorem cellSum_fits (p : AcceptedCell lib → Bool) (cells : List (AcceptedCell lib)) :
    Fits 20 (cells.length * 10 ^ 60) (cellSum p cells) :=
  (cells_fit (cells.filter p)).mono (Nat.mul_le_mul_right _ (List.length_filter_le _ _))

/-- Fewer than 10^20 cells are within the precision. -/
theorem insightContext_round {n : Nat} {x : ℚ} (hn : n ≤ 2000000)
    (h : Fits 20 (n * 10 ^ 60) x) : insightContext.round x = x := by
  refine h.round ?_
  show n * 10 ^ 60 < 10 ^ 80
  omega

/-- One more cell is added without rounding. -/
theorem insightContext_add {cells : List (AcceptedCell lib)} (hLength : cells.length < 2000000)
    (p : AcceptedCell lib → Bool) (c : AcceptedCell lib) :
    insightContext.add (cellSum p cells) c.value = cellSum p cells + c.value := by
  have hFits := (cellSum_fits p cells).add (strictDecimal_fits c.accepted)
  rw [← Nat.succ_mul] at hFits
  exact insightContext_round hLength hFits

-- ---------------------------------------------------------------------------
-- The sums of a measure
-- ---------------------------------------------------------------------------

/-- The two measures hold the same sums. -/
structure SameSums (m m' : Measure) : Prop where
  totals : m'.totals = m.totals
  byPeriod : m'.byPeriod = m.byPeriod
  byDimension : m'.byDimension = m.byDimension
  byPeriodDimension : m'.byPeriodDimension = m.byPeriodDimension

/-- The measure took the cells in one after another, whatever happened to the rest of it. -/
inductive Accumulates (lib : StandardLibrary) (ctx : Context) (dashboardType : DashboardType)
    (field : DashboardInsightField) : List (AcceptedCell lib) → Measure → Prop
  | start : Accumulates lib ctx dashboardType field [] {}
  | same {cells : List (AcceptedCell lib)} {m m' : Measure} :
      Accumulates lib ctx dashboardType field cells m → SameSums m m' →
      Accumulates lib ctx dashboardType field cells m'
  | tally {cells : List (AcceptedCell lib)} {m m' : Measure} {c : AcceptedCell lib}
      {points points' : Nat} :
      Accumulates lib ctx dashboardType field cells m →
      m.tally ctx dashboardType field c.period c.dimensions c.value points = .ok (m', points') →
      Accumulates lib ctx dashboardType field (cells ++ [c]) m'

/-- Every stored sum is the sum of the cells that it stands for. -/
structure ExactSums (dashboardType : DashboardType) (field : DashboardInsightField)
    (cells : List (AcceptedCell lib)) (m : Measure) : Prop where
  total : m.total = (cells.map AcceptedCell.value).sum
  byPeriod : ∀ p, m.byPeriod.getD p 0 = cellSum (fun c => c.period = p) cells
  byDimension : ∀ d, (field, d) ∈ dashboardType.dimensionAggregations → ∀ v,
    (m.byDimension d).getD v 0 = cellSum (fun c => c.dimensions.get? d = some v) cells
  byPeriodDimension : ∀ d, (field, d) ∈ dashboardType.dimensionAggregations → ∀ p v,
    ((m.byPeriodDimension d).getD p ∅).getD v 0 =
      cellSum (fun c => c.period = p ∧ c.dimensions.get? d = some v) cells

/-- The empty measure has the sums of no cell. -/
theorem ExactSums.start : ExactSums dashboardType field ([] : List (AcceptedCell lib)) {} where
  total := rfl
  byPeriod _ := rfl
  byDimension _ _ _ := rfl
  byPeriodDimension _ _ _ _ := rfl

/-- Measures with the same sums are exact together. -/
theorem ExactSums.same {cells : List (AcceptedCell lib)} {m m' : Measure}
    (h : ExactSums dashboardType field cells m) (hSame : SameSums m m') :
    ExactSums dashboardType field cells m' where
  total := by
    unfold Measure.total
    rw [hSame.totals]
    exact h.total
  -- Each of the four sums is read from the measure it equals.
  byPeriod := by
    rw [hSame.byPeriod]
    exact h.byPeriod
  byDimension := by
    rw [hSame.byDimension]
    exact h.byDimension
  byPeriodDimension := by
    rw [hSame.byPeriodDimension]
    exact h.byPeriodDimension

/-- A sum of a dict that takes a cell in. -/
theorem getD_accumulate {cells : List (AcceptedCell lib)} (hLength : cells.length < 2000000)
    {values : OrderedDict Str ℚ} (key : AcceptedCell lib → Str → Bool)
    (hSums : ∀ k, values.getD k 0 = cellSum (key · k) cells) {c : AcceptedCell lib} {k : Str}
    (hKey : ∀ j, key c j = decide (j = k)) (j : Str) :
    (accumulate insightContext values k c.value).getD j 0 = cellSum (key · j) (cells ++ [c]) := by
  unfold accumulate
  rw [OrderedDict.getD_set, cellSum_concat, hKey, hSums]
  by_cases hj : j = k
  · rw [if_pos hj, decide_eq_true hj, if_pos rfl, hj]
    exact insightContext_add hLength _ c
  · rw [if_neg hj, decide_eq_false hj, hSums, if_neg Bool.false_ne_true, add_zero]

/-- **One cell.** Each sum that the cell belongs to takes it in, and no other. -/
theorem ExactSums.tally {cells : List (AcceptedCell lib)} (hLength : cells.length < 2000000)
    {m m' : Measure} {c : AcceptedCell lib} {points points' : Nat}
    (hSums : ExactSums dashboardType field cells m)
    (h : m.tally insightContext dashboardType field c.period c.dimensions c.value points =
      .ok (m', points')) :
    ExactSums dashboardType field (cells ++ [c]) m' := by
  obtain ⟨hTallied, hFold⟩ := Measure.tally_eq_ok h
  have hFrame := Measure.observeDimensions_frame hFold
  -- a dimension that the row does not have is left
  have hOthers : ∀ d, c.dimensions.get? d = none →
      m'.byDimension d = m.byDimension d ∧ m'.byPeriodDimension d = m.byPeriodDimension d :=
    fun d hNone => hFrame.others d ((OrderedDict.get?_eq_none _).mp hNone)
  refine ⟨?_, fun p => ?_, fun d hd v => ?_, fun d hd p v => ?_⟩
  · have hTotal : m'.total = insightContext.add m.total c.value := by
      unfold Measure.total
      rw [hTallied.totals]
      rfl
    have hAll : ∀ cs : List (AcceptedCell lib),
        (cs.map AcceptedCell.value).sum = cellSum (fun _ => true) cs := by
      intro cs
      unfold cellSum
      rw [List.filter_true]
    rw [hTotal, hSums.total, hAll, hAll, insightContext_add hLength, cellSum_concat, if_pos rfl]
  · rw [hTallied.byPeriod]
    refine getD_accumulate hLength (fun x p => x.period = p) hSums.byPeriod (fun j => ?_) p
    exact decide_eq_decide.mpr eq_comm
  · cases hLabel : c.dimensions.get? d with
    | none =>
      rw [(hOthers d hLabel).1, hSums.byDimension d hd, cellSum_concat, if_neg, add_zero]
      rw [hLabel, decide_eq_true_iff]
      exact nofun
    | some label =>
      rw [(hTallied.dimension d label hLabel hd).1]
      refine getD_accumulate hLength (fun x v => x.dimensions.get? d = some v)
        (hSums.byDimension d hd) (fun j => ?_) v
      rw [hLabel, decide_eq_decide, Option.some_inj]
      exact eq_comm
  · cases hLabel : c.dimensions.get? d with
    | none =>
      rw [(hOthers d hLabel).2, hSums.byPeriodDimension d hd, cellSum_concat, if_neg, add_zero]
      rw [hLabel, decide_eq_true_iff]
      exact fun hBoth => nomatch hBoth.2
    | some label =>
      rw [(hTallied.dimension d label hLabel hd).2, OrderedDict.getD_set]
      by_cases hp : p = c.period
      · rw [if_pos hp, hp]
        refine getD_accumulate hLength
          (fun x v => x.period = c.period ∧ x.dimensions.get? d = some v)
          (hSums.byPeriodDimension d hd c.period) (fun j => ?_) v
        rw [hLabel, decide_eq_decide, Option.some_inj, and_iff_right rfl]
        exact eq_comm
      · rw [if_neg hp, hSums.byPeriodDimension d hd, cellSum_concat, if_neg, add_zero]
        rw [decide_eq_true_iff]
        exact fun hBoth => hp hBoth.1.symm

/-- **Every cell.** After at most two million cells each sum is exact. -/
theorem Accumulates.exactSums {cells : List (AcceptedCell lib)} {m : Measure}
    (h : Accumulates lib insightContext dashboardType field cells m)
    (hLength : cells.length ≤ 2000000) : ExactSums dashboardType field cells m := by
  induction h with
  | start => exact ExactSums.start
  | same _ hSame ih => exact (ih hLength).same hSame
  | tally _ hTally ih =>
    rw [List.length_append, List.length_singleton] at hLength
    exact (ih (by omega)).tally (by omega) hTally

/-- **Totals are exact.** After any list of at most two million accepted text cells, the total of a
measure and its sums by period, by dimension and by both are the sums of the cells. No sum of some
of the cells, in whatever order, is rounded; a measure that takes the cells in in another order has
the same sums. -/
theorem totals_exact {cells : List (AcceptedCell lib)} (hLength : cells.length ≤ 2000000)
    {m : Measure} (h : Accumulates lib insightContext dashboardType field cells m) :
    ExactSums dashboardType field cells m ∧
    (∀ part : List (AcceptedCell lib), part.Subperm cells →
      insightContext.round (part.map AcceptedCell.value).sum = (part.map AcceptedCell.value).sum) ∧
    ∀ (cells' : List (AcceptedCell lib)) (m' : Measure), cells'.Perm cells →
      Accumulates lib insightContext dashboardType field cells' m' →
      m'.total = m.total ∧ (∀ p, m'.byPeriod.getD p 0 = m.byPeriod.getD p 0) ∧
      ∀ d, (field, d) ∈ dashboardType.dimensionAggregations →
        (∀ v, (m'.byDimension d).getD v 0 = (m.byDimension d).getD v 0) ∧
        ∀ p v, ((m'.byPeriodDimension d).getD p ∅).getD v 0 =
          ((m.byPeriodDimension d).getD p ∅).getD v 0 := by
  have hSums := h.exactSums hLength
  refine ⟨hSums, fun part hPart => ?_, fun cells' m' hPerm h' => ?_⟩
  · -- A part of the cells needs no more digits than all of them.
    exact insightContext_round (hPart.length_le.trans hLength) (cells_fit part)
  · -- Both orders have the exact sums, which do not depend on the order.
    have hSums' := h'.exactSums (hPerm.length_eq ▸ hLength)
    refine ⟨?_, fun p => ?_, fun d hd => ⟨fun v => ?_, fun p v => ?_⟩⟩
    · rw [hSums'.total, hSums.total]
      exact (hPerm.map AcceptedCell.value).sum_eq
    · rw [hSums'.byPeriod, hSums.byPeriod]
      exact cellSum_perm hPerm _
    · rw [hSums'.byDimension d hd, hSums.byDimension d hd]
      exact cellSum_perm hPerm _
    · rw [hSums'.byPeriodDimension d hd, hSums.byPeriodDimension d hd]
      exact cellSum_perm hPerm _

/-- A price and a refund of one month. -/
def priceCell : AcceptedCell InsightSample.library where
  content := str "$1,200.50"
  allowCurrency := true
  allowPercent := false
  value := 2401 / 2
  accepted := by decide +kernel
  period := str "2024-01"
  dimensions := .ofList [(.department, str "Sales"), (.vendor, str "Acme")]

def refundCell : AcceptedCell InsightSample.library where
  content := str "(200.5)"
  allowCurrency := true
  allowPercent := false
  value := -401 / 2
  accepted := by decide +kernel
  period := str "2024-01"
  dimensions := .ofList [(.department, str "Sales"), (.vendor, str "Acme")]

/-- A price and a refund, added up. -/
theorem totals_exact_sample : ∃ m : Measure,
    Accumulates InsightSample.library insightContext .operationalKpi .expenses
      [priceCell, refundCell] m ∧ m.total = 1000 := by
  let observe (c : AcceptedCell InsightSample.library) (s : Measure × Nat) :=
    s.1.tally insightContext .operationalKpi .expenses c.period c.dimensions c.value s.2
  obtain ⟨s, hBoth⟩ := exists_ok_of_isOk (x := (observe priceCell ({}, 0)).bind (observe refundCell))
    (by decide +kernel)
  obtain ⟨s₁, hFirst, hSecond⟩ := bind_eq_ok.mp hBoth
  have hAccumulates := (Accumulates.start.tally hFirst).tally hSecond
  obtain ⟨hSums, -, -⟩ := totals_exact (by decide) hAccumulates
  refine ⟨s.1, hAccumulates, hSums.total.trans ?_⟩
  decide +kernel

-- ---------------------------------------------------------------------------
-- Runs
-- ---------------------------------------------------------------------------

/-- The number was read from a text. -/
def ReadFromText (lib : StandardLibrary) (x : ℚ) : Prop :=
  ∃ allowCurrency allowPercent content,
    strictDecimal lib allowCurrency allowPercent (.str content) = some x

/-- One observation of a number that was read from a text: a repeat at a point in time is left
out, and every other one is taken in. -/
theorem accumulates_observe {ctx : Context} {m m' : Measure} {cells : List (AcceptedCell lib)}
    (hCells : Accumulates lib ctx dashboardType field cells m) {key : DatasetKey} {period : Str}
    {dimensions : OrderedDict DashboardInsightField Str} {numeric : ℚ}
    (hText : ReadFromText lib numeric) {points points' : Nat}
    (h : m.observe ctx dashboardType field key period dimensions numeric points =
      .ok (m', points')) :
    ∃ cells', Accumulates lib ctx dashboardType field cells' m' ∧
      (cells' = cells ∨ ∃ c, cells' = cells ++ [c] ∧ c.value = numeric) := by
  obtain ⟨allowCurrency, allowPercent, content, hAccepted⟩ := hText
  -- The row's number comes from a text that was accepted.
  let c : AcceptedCell lib :=
    ⟨content, allowCurrency, allowPercent, numeric, hAccepted, period, dimensions⟩
  obtain ⟨-, -, h⟩ := Measure.observe_eq_ok h
  split at h
  · -- A repeat at a point in time adds nothing.
    rcases Measure.observePointInTime_eq_ok h with ⟨-, rfl, -⟩ | ⟨-, h⟩
    · exact ⟨cells, hCells.same ⟨rfl, rfl, rfl, rfl⟩, .inl rfl⟩
    · have hSame : SameSums m { m with
          periodDataset := m.periodDataset.set period key
          pointInTimeValues := m.pointInTimeValues.set period numeric } := ⟨rfl, rfl, rfl, rfl⟩
      exact ⟨cells ++ [c], (hCells.same hSame).tally h, .inr ⟨c, rfl, rfl⟩⟩
  · have hSame : SameSums m { m with periodDataset := m.periodDataset.set period key } :=
      ⟨rfl, rfl, rfl, rfl⟩
    exact ⟨cells ++ [c], (hCells.same hSame).tally h, .inr ⟨c, rfl, rfl⟩⟩

/-- **A run.** Where the rows' numbers were read from texts, each measure took in cells with
numbers of the rows, in the rows' order. -/
theorem accumulates_observeAll {ctx : Context} {configuration : DashboardInsightConfiguration}
    {rows : List InsightRow} {acc : DashboardInsightAccumulator}
    (h : (DashboardInsightAccumulator.init dashboardType configuration).observeAll lib ctx order
      rows = .ok acc) (hField : field ∈ DashboardInsightField.numericFields)
    (hText : ∀ c ∈ contributions lib configuration.mappings field rows, ReadFromText lib c.amount) :
    ∃ cells, Accumulates lib ctx dashboardType field cells (acc.measures field) ∧
      (cells.map AcceptedCell.value).Sublist
        ((contributions lib configuration.mappings field rows).map Contribution.amount) := by
  let Taken (m : Measure) (ledger : List Contribution) : Prop :=
    (∀ c ∈ ledger, ReadFromText lib c.amount) →
      ∃ cells, Accumulates lib ctx dashboardType field cells m ∧
        (cells.map AcceptedCell.value).Sublist (ledger.map Contribution.amount)
  -- The induction is on the rows: each takes its cell or leaves it as a repeat.
  have hStart : Taken {} [] := fun _ => ⟨[], .start, List.Sublist.refl _⟩
  have hStep : ∀ m m' ledger (c : Contribution) dimensions points points', Taken m ledger →
      (∀ d value, d ∈ DashboardInsightField.dimensionFields →
        dimensions.get? d = some value → value = c.label d) →
      m.observe ctx dashboardType field c.dataset c.period dimensions c.amount points =
        .ok (m', points') → Taken m' (ledger ++ [c]) := by
    intro m m' ledger c dimensions points points' ih _ hObserve hAll
    obtain ⟨cells, hCells, hSublist⟩ := ih fun c' hc' => hAll c' (List.mem_append_left _ hc')
    have hLast := hAll c (List.mem_append_right _ List.mem_cons_self)
    obtain ⟨cells', hCells', hNew⟩ := accumulates_observe hCells hLast hObserve
    refine ⟨cells', hCells', ?_⟩
    rw [List.map_append, List.map_singleton]
    rcases hNew with rfl | ⟨d, rfl, hValue⟩
    · exact hSublist.trans (List.sublist_append_left _ _)
    · rw [List.map_append, List.map_singleton, hValue]
      exact hSublist.append (List.Sublist.refl _)
  obtain ⟨-, hDone⟩ := DashboardInsightAccumulator.observeAll_induction hField hStep h hStart
  exact hDone hText

end SpikeBackend
