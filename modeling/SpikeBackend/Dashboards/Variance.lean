import SpikeBackend.Dashboards.ExactTotals
import SpikeBackend.Model.InsightRendering

/-!
# The variance table

The rows of the table take the amounts of the prior period off those of the current one, category
by category. They add up to the difference of the two periods. A percentage of a negative amount
has the other sign: the table divides by the prior amount as it is, the anomalies by its magnitude.

* `varianceRows_labels` — one row for each category of any period;
* `VarianceReconciles` — the rows and the totals of the two periods;
* `sign_ratioPercent`, `sign_changePercent` — the sign of a percentage, and that of an anomaly;
* `variance_reconciles_iff` — when the table reconciles.
-/

namespace SpikeBackend

open Text Outcome Collections

variable {lib : StandardLibrary} {order : SetOrder}

-- ---------------------------------------------------------------------------
-- Signs
-- ---------------------------------------------------------------------------

theorem sign_insightContext (x : ℚ) :
    SignType.sign (insightContext.round x) = SignType.sign x := sign_roundDigits (by decide) x

/-- The sign of a percentage is that of the numerator and of the denominator. -/
theorem sign_ratioPercent (numerator : ℚ) {denominator : ℚ} (h : denominator ≠ 0) :
    ∃ percent, ratioPercent insightContext numerator denominator = some percent ∧
      SignType.sign percent = SignType.sign numerator * SignType.sign denominator := by
  refine ⟨_, if_neg h, ?_⟩
  have hInverse : SignType.sign denominator⁻¹ = SignType.sign denominator := by
    rcases lt_or_gt_of_ne h with hNeg | hPos
    · rw [sign_neg hNeg, sign_neg (inv_lt_zero.mpr hNeg)]
    · rw [sign_pos hPos, sign_pos (inv_pos.mpr hPos)]
  unfold Context.mul Context.div
  rw [sign_insightContext, sign_mul, sign_insightContext, div_eq_mul_inv, sign_mul, hInverse,
    sign_pos (by norm_num : (0 : ℚ) < 100), mul_one]

/-- A percentage of a magnitude has the sign of the change, as in `_anomalies`. -/
theorem sign_anomaly {prior : ℚ} (h : prior ≠ 0) (change : ℚ) :
    ∃ percent, ratioPercent insightContext change (insightContext.abs prior) = some percent ∧
      SignType.sign percent = SignType.sign change := by
  have hPos : SignType.sign (insightContext.abs prior) = 1 := by
    unfold Context.abs
    rw [sign_insightContext, sign_pos (abs_pos.mpr h)]
  have hNonzero : insightContext.abs prior ≠ 0 := by
    rw [← sign_ne_zero, hPos]
    decide
  obtain ⟨percent, hPercent, hSign⟩ := sign_ratioPercent change hNonzero
  refine ⟨percent, hPercent, ?_⟩
  rw [hSign, hPos, mul_one]

-- ---------------------------------------------------------------------------
-- Amounts
-- ---------------------------------------------------------------------------

/-- What the rows contribute to a category in a period. -/
def amountOf (ledger : List Contribution) (dimension : DashboardInsightField) (period label : Str) :
    ℚ :=
  ((ledger.filter fun c => c.period = period ∧ c.label dimension = label).map
    Contribution.amount).sum

/-- No difference of a sum of some of the amounts and a sum of others is rounded. -/
def ExactDifferences (ctx : Context) (amounts : List ℚ) : Prop :=
  ∀ gains losses : List ℚ, (gains ++ losses).Subperm amounts →
    ctx.round (gains.sum - losses.sum) = gains.sum - losses.sum

/-- Exact differences are exact sums in particular. -/
theorem ExactDifferences.exactOn {ctx : Context} {amounts : List ℚ}
    (h : ExactDifferences ctx amounts) : ExactOn ctx amounts := by
  intro part hPart
  have hRound := h part [] (by rw [List.append_nil]; exact hPart)
  rw [List.sum_nil, sub_zero] at hRound
  exact hRound

/-- Two million text cells are within the precision. -/
theorem exactDifferences_of_text {ledger : List Contribution} (hLength : ledger.length ≤ 2000000)
    (hText : ∀ c ∈ ledger, ReadFromText lib c.amount) :
    ExactDifferences insightContext (ledger.map Contribution.amount) := by
  intro gains losses hPart
  have hEach : ∀ x ∈ gains ++ losses, Fits 20 (10 ^ 60) x := by
    intro x hx
    obtain ⟨c, hc, rfl⟩ := List.mem_map.mp (hPart.subset hx)
    obtain ⟨allowCurrency, allowPercent, content, hAccepted⟩ := hText c hc
    exact strictDecimal_fits hAccepted
  have hGains := Fits.sum fun x hx => hEach x (List.mem_append_left _ hx)
  have hLosses := Fits.sum fun x hx => hEach x (List.mem_append_right _ hx)
  have hCount : gains.length + losses.length ≤ 2000000 := by
    have hLe := hPart.length_le
    rw [List.length_append, List.length_map] at hLe
    omega
  -- Gains and losses together are at most as many as the contributions.
  have hDifference := hGains.add hLosses.neg
  rw [← Nat.add_mul, ← sub_eq_add_neg] at hDifference
  exact insightContext_round hCount hDifference

-- ---------------------------------------------------------------------------
-- The outflow of a run
-- ---------------------------------------------------------------------------

namespace DashboardInsightAccumulator

variable {dashboardType : DashboardType} {configuration : DashboardInsightConfiguration}
  {rows : List InsightRow} {acc : DashboardInsightAccumulator}

/-- The outflow measure of a run tallies what the rows contribute, where no sum is rounded. -/
theorem talliesLedger_observeAll {ctx : Context}
    (h : (init dashboardType configuration).observeAll lib ctx order rows = .ok acc)
    (hExact : ExactOn ctx ((contributions lib configuration.mappings dashboardType.outflowField
      rows).map Contribution.amount)) :
    TalliesLedger dashboardType (acc.measures dashboardType.outflowField)
      (contributions lib configuration.mappings dashboardType.outflowField rows) := by
  -- The induction is on the rows; what is exact for all is exact for the first ones.
  let Tallied (m : Measure) (ledger : List Contribution) : Prop :=
    ExactOn ctx (ledger.map Contribution.amount) → TalliesLedger dashboardType m ledger
  have hStart : Tallied {} [] := fun _ => TalliesLedger.empty dashboardType
  have hStep : ∀ m m' ledger (c : Contribution) dimensions points points', Tallied m ledger →
      (∀ d value, d ∈ DashboardInsightField.dimensionFields →
        dimensions.get? d = some value → value = c.label d) →
      m.observe ctx dashboardType dashboardType.outflowField c.dataset c.period dimensions c.amount
        points = .ok (m', points') → Tallied m' (ledger ++ [c]) := by
    intro m m' ledger c dimensions points points' hm hLabels hObserve hAll
    have hBefore : ExactOn ctx (ledger.map Contribution.amount) := by
      intro part hPart
      rw [List.map_append] at hAll
      exact hAll part (hPart.trans (List.sublist_append_left _ _).subperm)
    exact tally_keeps hAll (hm hBefore) hLabels hObserve
  obtain ⟨-, hDone⟩ := observeAll_induction (outflow_numeric dashboardType) hStep h hStart
  exact hDone hExact

section categories

variable (lib order acc) (field dimension : DashboardInsightField) (ctx : Context)

/-- The categories of the stored amounts, in some order and once. -/
theorem dimensionItems_perm :
    (acc.dimensionItems order field dimension).Perm
      (((acc.measures field).byPeriodDimension dimension).values.flatMap OrderedDict.keys).dedup :=
  order.strings_perm _

/-- The rows of the table are those of the categories, in another order. -/
theorem varianceRows_perm :
    (acc.varianceRows lib ctx order field dimension).Perm
      ((acc.dimensionItems order field dimension).map (acc.varianceRow lib field dimension)) := by
  have hItems := sortBy_perm lib.casefold (acc.dimensionItems order field dimension)
  exact (sortBy_perm (VarianceRow.sortKey lib ctx) _).trans (hItems.map _)

/-- The rows of the table are the items of the dimension. -/
theorem varianceRows_labels :
    ((acc.varianceRows lib ctx order field dimension).map VarianceRow.label).Perm
      (acc.dimensionItems order field dimension) := by
  have hRows := (varianceRows_perm lib order acc field dimension ctx).map VarianceRow.label
  rw [List.map_map] at hRows
  exact hRows.trans (List.Perm.of_eq (List.map_id _))

end categories

variable {field dimension : DashboardInsightField}

/-- Each row of the table is that of its category. -/
theorem mem_varianceRows {ctx : Context} {row : VarianceRow} :
    row ∈ acc.varianceRows lib ctx order field dimension ↔
      ∃ label ∈ acc.dimensionItems order field dimension,
        acc.varianceRow lib field dimension label = row := by
  rw [(varianceRows_perm lib order acc field dimension ctx).mem_iff, List.mem_map]

/-- The last two periods are two periods of the table. -/
theorem lastPeriods_eq {current prior : Str}
    (h : acc.lastPeriods lib field dimension = (some current, some prior)) : current ≠ prior := by
  unfold lastPeriods at h
  rw [Prod.mk.injEq] at h
  obtain ⟨hCurrent, hPrior⟩ := h
  -- The periods are distinct keys in another order.
  have hPerm := sortBy_perm (fun period => toLex (periodSortKey lib period, lib.casefold period))
    ((acc.measures field).byPeriodDimension dimension).keys
  have hNodup : (sortedPeriods lib ((acc.measures field).byPeriodDimension dimension)).reverse.Nodup :=
    List.nodup_reverse.mpr (hPerm.nodup_iff.mpr (OrderedDict.keys_nodup _))
  cases hPeriods : (sortedPeriods lib ((acc.measures field).byPeriodDimension dimension)).reverse with
  | nil =>
    rw [hPeriods] at hCurrent
    cases hCurrent
  | cons p ps =>
    rw [hPeriods] at hCurrent hPrior hNodup
    obtain rfl := Option.some.inj hCurrent
    rintro rfl
    exact (List.nodup_cons.mp hNodup).1 (List.mem_of_head? hPrior)

end DashboardInsightAccumulator

-- ---------------------------------------------------------------------------
-- The table of a tallied measure
-- ---------------------------------------------------------------------------

section tallied

variable {acc : DashboardInsightAccumulator} {dashboardType : DashboardType}
  {field d : DashboardInsightField} {ledger : List Contribution}

/-- A stored amount is what the rows contribute to it. -/
theorem TalliesLedger.cell (hTallies : TalliesLedger dashboardType (acc.measures field) ledger)
    (hd : d ∈ dashboardType.outflowDimensions) (p v : Str) :
    (((acc.measures field).byPeriodDimension d).getD p ∅).getD v 0 = amountOf ledger d p v := by
  rw [((hTallies.byPeriodDimension d hd).rows p).sums, groupSum_cell]
  rfl

/-- The total of a period is the sum of its contributions. -/
theorem TalliesLedger.period (hTallies : TalliesLedger dashboardType (acc.measures field) ledger)
    (p : Str) :
    (acc.byPeriod field).getD p 0 =
      ((ledger.filter fun c => c.period = p).map Contribution.amount).sum := by
  show (acc.measures field).byPeriod.getD p 0 = _
  rw [hTallies.byPeriod.sums]
  unfold groupSum
  rw [List.filter_map, List.map_map]
  rfl

/-- The categories of the table are those of the rows. -/
theorem TalliesLedger.mem_items
    (hTallies : TalliesLedger dashboardType (acc.measures field) ledger)
    (hd : d ∈ dashboardType.outflowDimensions) (v : Str) :
    v ∈ acc.dimensionItems order field d ↔ ∃ c ∈ ledger, c.label d = v := by
  have hCross := hTallies.byPeriodDimension d hd
  -- A label is in the row of a period when some contribution has both.
  have hRow : ∀ p, v ∈ (((acc.measures field).byPeriodDimension d).getD p ∅).keys ↔
      ∃ c ∈ ledger, c.period = p ∧ c.label d = v := by
    intro p
    rw [(hCross.rows p).keys]
    unfold rowEntries
    simp only [List.map_map, List.mem_map, List.mem_filter, decide_eq_true_eq]
    constructor
    · rintro ⟨_, ⟨⟨c, hc, rfl⟩, hp⟩, hv⟩
      exact ⟨c, hc, hp, hv⟩
    · rintro ⟨c, hc, hp, hv⟩
      exact ⟨_, ⟨⟨c, hc, rfl⟩, hp⟩, hv⟩
  rw [(acc.dimensionItems_perm order field d).mem_iff, List.mem_dedup, List.mem_flatMap,
    OrderedDict.values_eq_map_keys _ ∅]
  constructor
  · rintro ⟨row, hMem, hv⟩
    obtain ⟨p, -, rfl⟩ := List.mem_map.mp hMem
    obtain ⟨c, hc, -, hLabel⟩ := (hRow p).mp hv
    exact ⟨c, hc, hLabel⟩
  · rintro ⟨c, hc, hLabel⟩
    refine ⟨_, List.mem_map.mpr ⟨c.period, ?_, rfl⟩, (hRow c.period).mpr ⟨c, hc, rfl, hLabel⟩⟩
    rw [hCross.keys, List.map_map]
    exact List.mem_map.mpr ⟨c, hc, rfl⟩

/-- The categories' amounts of a period add up to the period's. -/
theorem sum_amountOf {items : List Str} (hNodup : items.Nodup)
    (hItems : ∀ c ∈ ledger, c.label d ∈ items) (p : Str) :
    (items.map (amountOf ledger d p)).sum =
      ((ledger.filter fun c => c.period = p).map Contribution.amount).sum := by
  -- Every label of the period is among the items.
  have hCover : ∀ e ∈ rowEntries (ledger.map fun c => (c.period, c.label d, c.amount)) p,
      e.1 ∈ items := by
    intro e he
    unfold rowEntries at he
    simp only [List.mem_map, List.mem_filter] at he
    obtain ⟨_, ⟨⟨c, hc, rfl⟩, -⟩, rfl⟩ := he
    exact hItems c hc
  have hCells : items.map (amountOf ledger d p) =
      items.map (groupSum (rowEntries (ledger.map fun c => (c.period, c.label d, c.amount)) p)) :=
    List.map_congr_left fun v _ => (groupSum_cell ledger d p v).symm
  rw [hCells, sum_groupSum hNodup _ hCover]
  unfold rowEntries
  rw [List.filter_map, List.map_map, List.map_map]
  rfl

/-- A sum of differences is the difference of the sums. -/
theorem sum_map_sub (items : List Str) (f g : Str → ℚ) :
    (items.map fun v => f v - g v).sum = (items.map f).sum - (items.map g).sum := by
  induction items with
  | nil => simp
  | cons v items ih =>
    rw [List.map_cons, List.map_cons, List.map_cons, List.sum_cons, List.sum_cons, List.sum_cons, ih]
    ring

/-- The amounts of a category in two periods are different ones of the rows' amounts. -/
theorem amounts_subperm {current prior : Str} (hPeriods : current ≠ prior)
    (ledger : List Contribution) (v : Str) :
    ((ledger.filter fun c => c.period = current ∧ c.label d = v).map Contribution.amount ++
      (ledger.filter fun c => c.period = prior ∧ c.label d = v).map Contribution.amount).Subperm
        (ledger.map Contribution.amount) := by
  -- The two periods differ, so no contribution is in both parts.
  have hSplit := List.filter_append_perm
    (fun c : Contribution => decide (c.period = current ∧ c.label d = v)) ledger
  have hRest : (ledger.filter fun c => c.period = prior ∧ c.label d = v).Sublist
      (ledger.filter fun c => !decide (c.period = current ∧ c.label d = v)) := by
    refine List.monotone_filter_right ledger fun c hc => ?_
    rw [decide_eq_true_iff] at hc
    rw [Bool.not_eq_true', decide_eq_false_iff_not]
    rintro ⟨hCurrent, -⟩
    exact hPeriods (hCurrent.symm.trans hc.1)
  obtain ⟨part, hPerm, hPart⟩ := ((List.Sublist.refl _).append hRest).subperm.trans hSplit.subperm
  rw [← List.map_append]
  exact ⟨part.map Contribution.amount, hPerm.map _, hPart.map _⟩

end tallied

-- ---------------------------------------------------------------------------
-- The reconciliation
-- ---------------------------------------------------------------------------

/-- The table reconciles with the measure and with what the rows contribute to it. -/
structure VarianceReconciles (lib : StandardLibrary) (order : SetOrder)
    (acc : DashboardInsightAccumulator) (field d : DashboardInsightField)
    (ledger : List Contribution) (current prior : Str) : Prop where
  /-- one row for each category of any period -/
  labels_nodup : ((acc.varianceRows lib insightContext order field d).map VarianceRow.label).Nodup
  mem_labels : ∀ v, v ∈ (acc.varianceRows lib insightContext order field d).map VarianceRow.label ↔
    ∃ c ∈ ledger, c.label d = v
  /-- the variances add up to the change of the total -/
  adds_up : ((acc.varianceRows lib insightContext order field d).map
      fun row => (row.variance insightContext).getD 0).sum =
    (acc.byPeriod field).getD current 0 - (acc.byPeriod field).getD prior 0
  /-- a percentage has the sign of its variance -/
  signs : ∀ row ∈ acc.varianceRows lib insightContext order field d, ∀ amount,
    row.prior = some amount → amount ≠ 0 → ∃ percent variance,
      row.percent insightContext = some percent ∧ row.variance insightContext = some variance ∧
        SignType.sign percent = SignType.sign variance
  /-- and that of an anomaly has the sign of the change between its periods -/
  anomaly_signs : ∀ measure, ∀ item ∈ acc.fieldAnomalies lib insightContext measure,
    SignType.sign item.changePercent =
      SignType.sign ((acc.byPeriod measure).getD item.currentPeriod 0 -
        (acc.byPeriod measure).getD item.priorPeriod 0)

/-- No category has a negative amount in the prior period and another one in the current period. -/
def NoNegativeBase (ledger : List Contribution) (d : DashboardInsightField) (current prior : Str) :
    Prop :=
  ∀ v, amountOf ledger d prior v < 0 → amountOf ledger d current v = amountOf ledger d prior v

namespace DashboardInsightAccumulator

variable {dashboardType : DashboardType} {configuration : DashboardInsightConfiguration}
  {rows : List InsightRow} {acc : DashboardInsightAccumulator}

/-- The anomalies divide by a magnitude, so their percentages have the signs of the changes. -/
theorem sign_changePercent {measure : DashboardInsightField} {item : Anomaly}
    (hItem : item ∈ acc.fieldAnomalies lib insightContext measure) :
    SignType.sign item.changePercent =
      SignType.sign ((acc.byPeriod measure).getD item.currentPeriod 0 -
        (acc.byPeriod measure).getD item.priorPeriod 0) := by
  unfold fieldAnomalies at hItem
  obtain ⟨⟨priorPeriod, currentPeriod⟩, -, hPair⟩ := List.mem_filterMap.mp hItem
  obtain ⟨percent, hKept, rfl⟩ := Option.map_eq_some_iff.mp hPair
  obtain ⟨hPercent, -⟩ := Option.filter_eq_some_iff.mp hKept
  dsimp only
  generalize (acc.byPeriod measure).getD priorPeriod 0 = prior at *
  generalize (acc.byPeriod measure).getD currentPeriod 0 = current at *
  by_cases hZero : prior = 0
  · -- a pair whose prior amount is zero has no percentage
    have hAbs : insightContext.abs prior = 0 := by
      rw [← sign_eq_zero_iff]
      unfold Context.abs
      rw [sign_insightContext, hZero, abs_zero, sign_zero]
    unfold ratioPercent at hPercent
    rw [if_pos hAbs] at hPercent
    cases hPercent
  · obtain ⟨percent', hSame, hSign⟩ := sign_anomaly hZero (insightContext.sub current prior)
    obtain rfl : percent' = percent := Option.some.inj (hSame.symm.trans hPercent)
    rw [hSign]
    exact sign_insightContext (current - prior)

/-- **When the variance table reconciles.** After any rows that raise nothing, with at least two
periods and amounts whose sums and differences the working precision holds: there is one row for
each category, the variances add up to the change of the measure and the percentages have their
signs, as those of the anomalies do, if and only if no category's amount changes from a negative
one. -/
theorem variance_reconciles_iff
    (h : (init dashboardType configuration).observeAll lib insightContext order rows = .ok acc)
    {d : DashboardInsightField} (hd : d ∈ dashboardType.outflowDimensions) {current prior : Str}
    (hPeriods : acc.lastPeriods lib dashboardType.outflowField d = (some current, some prior))
    (hExact : ExactDifferences insightContext ((contributions lib configuration.mappings
      dashboardType.outflowField rows).map Contribution.amount)) :
    VarianceReconciles lib order acc dashboardType.outflowField d
        (contributions lib configuration.mappings dashboardType.outflowField rows) current prior ↔
      NoNegativeBase (contributions lib configuration.mappings dashboardType.outflowField rows) d
        current prior := by
  have hTallies := talliesLedger_observeAll h hExact.exactOn
  generalize contributions lib configuration.mappings dashboardType.outflowField rows = ledger at *
  generalize dashboardType.outflowField = field at *
  have hNe := lastPeriods_eq hPeriods
  have hLabels := varianceRows_labels lib order acc field d insightContext
  -- the row of a category
  have hRow : ∀ v, acc.varianceRow lib field d v =
      ⟨v, amountOf ledger d current v, some (amountOf ledger d prior v)⟩ := by
    intro v
    unfold varianceRow
    rw [hPeriods]
    show VarianceRow.mk v (OrderedDict.getD _ v 0) (some (OrderedDict.getD _ v 0)) = _
    rw [hTallies.cell hd, hTallies.cell hd]
  have hSub : ∀ v, insightContext.sub (amountOf ledger d current v) (amountOf ledger d prior v) =
      amountOf ledger d current v - amountOf ledger d prior v :=
    fun v => hExact _ _ (amounts_subperm hNe ledger v)
  have hNodup : (acc.dimensionItems order field d).Nodup :=
    (dimensionItems_perm order acc field d).nodup_iff.mpr (List.nodup_dedup _)
  constructor
  · intro hTable v hNegative
    -- a category with an amount has a row
    have hMem : v ∈ acc.dimensionItems order field d := by
      rw [hTallies.mem_items hd]
      by_contra hNone
      have hEmpty : (ledger.filter fun c => c.period = prior ∧ c.label d = v) = [] := by
        rw [List.filter_eq_nil_iff]
        intro c hc hBoth
        exact hNone ⟨c, hc, (of_decide_eq_true hBoth).2⟩
      unfold amountOf at hNegative
      rw [hEmpty] at hNegative
      exact lt_irrefl _ hNegative
    obtain ⟨percent, variance, hPercent, hVariance, hSigns⟩ := hTable.signs _
      (mem_varianceRows.mpr ⟨v, hMem, hRow v⟩) (amountOf ledger d prior v) rfl hNegative.ne
    obtain ⟨percent', hPercent', hSign⟩ := sign_ratioPercent
      (insightContext.sub (amountOf ledger d current v) (amountOf ledger d prior v)) hNegative.ne
    obtain rfl : percent' = percent := Option.some.inj (hPercent'.symm.trans hPercent)
    obtain rfl : _ = variance := Option.some.inj hVariance
    rw [hSign, sign_neg hNegative, hSub] at hSigns
    have hZero : SignType.sign (amountOf ledger d current v - amountOf ledger d prior v) = 0 := by
      revert hSigns
      generalize SignType.sign (amountOf ledger d current v - amountOf ledger d prior v) = σ
      cases σ <;> decide
    exact sub_eq_zero.mp (sign_eq_zero_iff.mp hZero)
  · intro hBase
    refine ⟨hLabels.nodup_iff.mpr hNodup, fun v => ?_, ?_, ?_, fun _ _ => sign_changePercent⟩
    · rw [hLabels.mem_iff, hTallies.mem_items hd]
    · have hVariances := (varianceRows_perm lib order acc field d insightContext).map
        fun row : VarianceRow => (row.variance insightContext).getD 0
      have hEach : ((acc.dimensionItems order field d).map (acc.varianceRow lib field d)).map
            (fun row => (row.variance insightContext).getD 0) =
          (acc.dimensionItems order field d).map fun v =>
            amountOf ledger d current v - amountOf ledger d prior v := by
        rw [List.map_map]
        refine List.map_congr_left fun v _ => ?_
        show ((acc.varianceRow lib field d v).variance insightContext).getD 0 = _
        rw [hRow]
        exact hSub v
      have hCover : ∀ c ∈ ledger, c.label d ∈ acc.dimensionItems order field d :=
        fun c hc => (hTallies.mem_items hd _).mpr ⟨c, hc, rfl⟩
      rw [hVariances.sum_eq, hEach, sum_map_sub, sum_amountOf hNodup hCover,
        sum_amountOf hNodup hCover, ← hTallies.period, ← hTallies.period]
    · intro row hMem amount hAmount hNonzero
      obtain ⟨v, -, rfl⟩ := mem_varianceRows.mp hMem
      rw [hRow] at hAmount ⊢
      obtain rfl := Option.some.inj hAmount
      obtain ⟨percent, hPercent, hSign⟩ := sign_ratioPercent
        (insightContext.sub (amountOf ledger d current v) (amountOf ledger d prior v)) hNonzero
      refine ⟨percent, _, hPercent, rfl, ?_⟩
      rcases lt_or_gt_of_ne hNonzero with hNegative | hPositive
      · rw [hSign, hSub, hBase v hNegative, sub_self, sign_zero, zero_mul]
      · rw [hSign, sign_pos hPositive, mul_one]

/-- A month of one category, with the other measures of the type. -/
def monthRow (period spend : String) : InsightRow :=
  InsightSample.row .financialPerformance 0
    [(.period, .str (str period)), (.category, .str (str "Travel")),
      (.location, .str (str "Office")), (.spend, .str (str spend)), (.revenue, .str (str "1000")),
      (.cashBalance, .str (str "500")), (.budget, .str (str "300"))]

/-- The run over two months, with what they spent. -/
def twoMonths (first second : String) : Except DashboardInsightError DashboardInsightAccumulator :=
  (init .financialPerformance (InsightSample.configuration .financialPerformance)).observeAll
    InsightSample.library insightContext InsightSample.order
    [monthRow "2024-01" first, monthRow "2024-02" second]

/-- What the months contribute to the spend. -/
def twoMonthsLedger (first second : String) : List Contribution :=
  contributions InsightSample.library
    (InsightSample.configuration .financialPerformance).mappings .spend
    [monthRow "2024-01" first, monthRow "2024-02" second]

/-- A category that spends more in the second month. -/
theorem variance_reconciles_iff_sample : ∃ acc, twoMonths "100" "150" = .ok acc ∧
    VarianceReconciles InsightSample.library InsightSample.order acc .spend .category
      (twoMonthsLedger "100" "150") (str "2024-02") (str "2024-01") := by
  obtain ⟨acc, hRun⟩ := exists_ok_of_isOk (by decide +kernel :
    (twoMonths "100" "150").isOk = true)
  have hPeriods : (twoMonths "100" "150").toOption.map
      (fun acc => acc.lastPeriods InsightSample.library .spend .category) =
        some (some (str "2024-02"), some (str "2024-01")) := by decide +kernel
  rw [hRun] at hPeriods
  have hAmounts : (twoMonthsLedger "100" "150").map Contribution.amount = [100, 150] := by
    decide +kernel
  have hText : ∀ c ∈ twoMonthsLedger "100" "150", ReadFromText InsightSample.library c.amount := by
    intro c hc
    have hMem : c.amount ∈ [(100 : ℚ), 150] := hAmounts ▸ List.mem_map_of_mem hc
    rcases List.mem_cons.mp hMem with h | h
    · exact ⟨false, false, str "100", by rw [h]; decide +kernel⟩
    · exact ⟨false, false, str "150", by rw [List.mem_singleton.mp h]; decide +kernel⟩
  have hLength : (twoMonthsLedger "100" "150").length ≤ 2000000 := by
    rw [← List.length_map, hAmounts]
    decide
  -- All amounts are positive, so no base is negative.
  have hBase : NoNegativeBase (twoMonthsLedger "100" "150") .category (str "2024-02")
      (str "2024-01") := by
    intro v hNegative
    have hPositive : ∀ x ∈ ((twoMonthsLedger "100" "150").filter fun c =>
        c.period = str "2024-01" ∧ c.label .category = v).map Contribution.amount, 0 ≤ x := by
      intro x hx
      have hMem : x ∈ [(100 : ℚ), 150] :=
        hAmounts ▸ (List.filter_sublist.map Contribution.amount).subset hx
      rcases List.mem_cons.mp hMem with rfl | h
      · decide
      · rw [List.mem_singleton.mp h]
        decide
    exact absurd hNegative (not_lt.mpr (List.sum_nonneg hPositive))
  exact ⟨acc, hRun, (variance_reconciles_iff hRun (by decide) (Option.some.inj hPeriods)
    (exactDifferences_of_text hLength hText)).mpr hBase⟩

/-- **A negative base.** A category with refunds of 100, and then of 50: its variance is 50, and its
percentage is -50. -/
theorem negative_base_flips_sign : ∃ acc, twoMonths "(100)" "(50)" = .ok acc ∧
    acc.validateRequiredPeriodCoverage = .ok () ∧
    (∃ row ∈ acc.varianceRows InsightSample.library insightContext InsightSample.order .spend
      .category, row.prior = some (-100) ∧ row.variance insightContext = some 50 ∧
        row.percent insightContext = some (-50)) ∧
    ¬VarianceReconciles InsightSample.library InsightSample.order acc .spend .category
      (twoMonthsLedger "(100)" "(50)") (str "2024-02") (str "2024-01") := by
  obtain ⟨acc, hRun⟩ := exists_ok_of_isOk (by decide +kernel :
    (twoMonths "(100)" "(50)").isOk = true)
  have hCovered : (twoMonths "(100)" "(50)").toOption.map
      (fun acc => acc.validateRequiredPeriodCoverage.isOk) = some true := by decide +kernel
  have hRows : (twoMonths "(100)" "(50)").toOption.map (fun acc =>
      (acc.varianceRows InsightSample.library insightContext InsightSample.order .spend
        .category).map fun row =>
          (row.prior, row.variance insightContext, row.percent insightContext)) =
      some [(some (-100), some 50, some (-50))] := by decide +kernel
  rw [hRun] at hCovered hRows
  obtain ⟨_, hCoverage⟩ := exists_ok_of_isOk (Option.some.inj hCovered)
  have hList : (acc.varianceRows InsightSample.library insightContext InsightSample.order .spend
      .category).map (fun row =>
        (row.prior, row.variance insightContext, row.percent insightContext)) =
      [(some (-100), some 50, some (-50))] := Option.some.inj hRows
  obtain ⟨row, hMem, hRow⟩ := List.mem_map.mp (hList ▸ List.mem_cons_self)
  rw [Prod.mk.injEq, Prod.mk.injEq] at hRow
  obtain ⟨hPrior, hVariance, hPercent⟩ := hRow
  refine ⟨acc, hRun, hCoverage, ⟨row, hMem, hPrior, hVariance, hPercent⟩, fun hTable => ?_⟩
  -- The reconciliation would give equal signs to -50 and 50.
  obtain ⟨percent, variance, hPercent', hVariance', hSigns⟩ :=
    hTable.signs row hMem (-100) hPrior (by decide)
  obtain rfl : -50 = percent := Option.some.inj (hPercent.symm.trans hPercent')
  obtain rfl : 50 = variance := Option.some.inj (hVariance.symm.trans hVariance')
  rw [sign_neg (by decide), sign_pos (by decide)] at hSigns
  exact absurd hSigns (by decide)

end DashboardInsightAccumulator

end SpikeBackend
