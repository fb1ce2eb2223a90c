import Mathlib.Data.List.Induction
import Mathlib.Data.List.Sublists
import Mathlib.Order.Bounds.Basic
import SpikeBackend.Dashboards.Observation

/-!
# Values at points in time

A measure that is not additive has one value for each period: a repeat of it adds nothing, and
another value is refused. Its statistics are those of the periods' values, in the order in which
the periods came first.

* `firstValues` — the value of each period;
* `stats_ofValues` — count, total, minimum and maximum of a list of values;
* `point_in_time` — the statistics of a measure after any rows, and what they depend on.
-/

namespace SpikeBackend

open Text Outcome Collections

variable {lib : StandardLibrary} {ctx : Context} {order : SetOrder}

-- ---------------------------------------------------------------------------
-- The values of the periods
-- ---------------------------------------------------------------------------

/-- A period's value is the one that comes first. -/
def addFirst (values : OrderedDict Str ℚ) (c : Contribution) : OrderedDict Str ℚ :=
  match values.get? c.period with
  | some _ => values
  | none => values.set c.period c.amount

/-- The value of each period, in the order in which the periods come. -/
def firstValues (ledger : List Contribution) : OrderedDict Str ℚ := ledger.foldl addFirst ∅

/-- One more contribution is added unless its period has a value. -/
theorem firstValues_concat (ledger : List Contribution) (c : Contribution) :
    firstValues (ledger ++ [c]) = addFirst (firstValues ledger) c := by
  unfold firstValues
  rw [List.foldl_append]
  rfl

/-- The periods of the values are the periods of the contributions. -/
theorem mem_firstValues {ledger : List Contribution} {p : Str} :
    p ∈ (firstValues ledger).keys ↔ ∃ c ∈ ledger, c.period = p := by
  induction ledger using List.reverseRecOn with
  | nil =>
    constructor
    · intro h
      exact absurd h List.not_mem_nil
    · rintro ⟨c, hc, -⟩
      exact absurd hc List.not_mem_nil
  | append_singleton ledger c ih =>
    have hSplit : (∃ c' ∈ ledger ++ [c], c'.period = p) ↔
        p = c.period ∨ ∃ c' ∈ ledger, c'.period = p := by
      constructor
      · rintro ⟨c', hc', rfl⟩
        rcases List.mem_append.mp hc' with hOld | hNew
        · exact .inr ⟨c', hOld, rfl⟩
        · exact .inl (by rw [List.mem_singleton.mp hNew])
      · rintro (rfl | ⟨c', hc', rfl⟩)
        · exact ⟨c, List.mem_append_right _ List.mem_cons_self, rfl⟩
        · exact ⟨c', List.mem_append_left _ hc', rfl⟩
    rw [firstValues_concat, hSplit, ← ih]
    -- A period that has a value keeps it; else the new one is stored.
    unfold addFirst
    split
    · rename_i value hValue
      constructor
      · exact .inr
      · rintro (rfl | h)
        · exact (OrderedDict.isSome_get? _).mp (by rw [hValue]; rfl)
        · exact h
    · exact OrderedDict.mem_keys_set _

-- ---------------------------------------------------------------------------
-- Statistics of a list of values
-- ---------------------------------------------------------------------------

/-- The statistics after the values. -/
def NumericStats.ofValues (ctx : Context) (values : List ℚ) : NumericStats :=
  values.foldl (NumericStats.observe ctx) {}

/-- One more value is observed. -/
theorem ofValues_concat (values : List ℚ) (x : ℚ) :
    NumericStats.ofValues ctx (values ++ [x]) = (NumericStats.ofValues ctx values).observe ctx x := by
  unfold NumericStats.ofValues
  rw [List.foldl_append]
  rfl

section Bounds

variable {α : Type*} [LinearOrder α] {bound bound' : Option α} {values values' : List α}

/-- A statistic that is the least of the values, and missing where there are none. -/
def IsMinimum (bound : Option α) (values : List α) : Prop :=
  match bound with
  | none => values = []
  | some a => IsLeast {x | x ∈ values} a

/-- A statistic that is the greatest of the values, and missing where there are none. -/
def IsMaximum (bound : Option α) (values : List α) : Prop :=
  match bound with
  | none => values = []
  | some a => IsGreatest {x | x ∈ values} a

theorem isMaximum_iff : IsMaximum bound values ↔ @IsMinimum αᵒᵈ _ bound values := by
  cases bound with
  | none => exact Iff.rfl
  | some a => exact Iff.rfl

/-- The least of the values and one more value. -/
theorem isMinimum_concat (h : IsMinimum bound values) (x : α) :
    IsMinimum (some (bound.elim x (min · x))) (values ++ [x]) := by
  have hSet : {y | y ∈ values ++ [x]} = {y | y ∈ values} ∪ {x} := by
    ext y
    simp [or_comm]
  -- The first value is the minimum, a later one is compared with it.
  cases bound with
  | none =>
    have hEmpty : values = [] := h
    rw [hEmpty]
    show IsLeast {y | y ∈ [x]} x
    simp
  | some a =>
    have hLeast : IsLeast {y | y ∈ values} a := h
    show IsLeast {y | y ∈ values ++ [x]} (min a x)
    rw [hSet]
    exact hLeast.union isLeast_singleton

theorem isMaximum_concat (h : IsMaximum bound values) (x : α) :
    IsMaximum (some (bound.elim x (max · x))) (values ++ [x]) :=
  isMaximum_iff.mpr (isMinimum_concat (isMaximum_iff.mp h) x)

/-- The bounds do not see the order of the values. -/
theorem IsMinimum.eq_of_perm (hPerm : values.Perm values') (h : IsMinimum bound values)
    (h' : IsMinimum bound' values') : bound = bound' := by
  have hSet : {x | x ∈ values} = {x | x ∈ values'} := by
    ext x
    exact hPerm.mem_iff
  -- An empty list has no minimum; a least element is unique.
  cases bound with
  | none =>
    have hEmpty : values = [] := h
    rw [hEmpty] at hPerm
    cases bound' with
    | none => rfl
    | some b =>
      have hLeast : IsLeast {x | x ∈ values'} b := h'
      rw [← hPerm.nil_eq] at hLeast
      exact absurd hLeast.1 List.not_mem_nil
  | some a =>
    have hLeast : IsLeast {x | x ∈ values} a := h
    cases bound' with
    | none =>
      have hEmpty : values' = [] := h'
      rw [hSet, hEmpty] at hLeast
      exact absurd hLeast.1 List.not_mem_nil
    | some b =>
      have hLeast' : IsLeast {x | x ∈ values'} b := h'
      rw [hSet] at hLeast
      rw [hLeast.unique hLeast']

theorem IsMaximum.eq_of_perm (hPerm : values.Perm values') (h : IsMaximum bound values)
    (h' : IsMaximum bound' values') : bound = bound' :=
  @IsMinimum.eq_of_perm αᵒᵈ _ _ _ _ _ hPerm (isMaximum_iff.mp h) (isMaximum_iff.mp h')

end Bounds

/-- The statistics of values: how many there are, their sum as it rounds, and their bounds. -/
structure StatsOf (ctx : Context) (stats : NumericStats) (values : List ℚ) : Prop where
  count : stats.count = values.length
  total : stats.total = ctx.sum values
  minimum : IsMinimum stats.minimum values
  maximum : IsMaximum stats.maximum values

variable (ctx) in
/-- The statistics of a list of values are those of the definition. -/
theorem stats_ofValues (values : List ℚ) :
    StatsOf ctx (NumericStats.ofValues ctx values) values := by
  induction values using List.reverseRecOn with
  | nil => exact ⟨rfl, rfl, rfl, rfl⟩
  | append_singleton values x ih =>
    rw [ofValues_concat]
    refine ⟨?_, ?_, isMinimum_concat ih.minimum x, isMaximum_concat ih.maximum x⟩
    · show (NumericStats.ofValues ctx values).count + 1 = _
      rw [ih.count, List.length_append, List.length_singleton]
    · show ctx.add (NumericStats.ofValues ctx values).total x = _
      unfold Context.sum
      rw [ih.total, List.foldl_append]
      rfl

-- ---------------------------------------------------------------------------
-- The order of the values
-- ---------------------------------------------------------------------------

/-- No sum of some of the values is rounded. -/
def ExactOn (ctx : Context) (values : List ℚ) : Prop :=
  ∀ part : List ℚ, part.Subperm values → ctx.round part.sum = part.sum

/-- Sums that are not rounded are the sums. -/
theorem sum_of_exactOn {values part : List ℚ} (hExact : ExactOn ctx values)
    (hPart : part.Perm values) : ctx.sum part = part.sum := by
  -- Every partial sum is of some of the values, so no rounding changes it.
  have hPrefix : ∀ done, List.Sublist done part → ctx.round done.sum = done.sum :=
    fun done hDone => hExact done (hDone.subperm.trans hPart.subperm)
  clear hPart hExact
  induction part using List.reverseRecOn with
  | nil => rfl
  | append_singleton part x ih =>
    have hStart := ih fun done hDone => hPrefix done (hDone.trans (List.sublist_append_left _ _))
    unfold Context.sum at hStart ⊢
    rw [List.foldl_append, hStart]
    show ctx.round (part.sum + x) = _
    have hLast := hPrefix (part ++ [x]) (List.Sublist.refl _)
    rw [List.sum_append, List.sum_singleton] at hLast ⊢
    exact hLast

-- ---------------------------------------------------------------------------
-- A measure at points in time
-- ---------------------------------------------------------------------------

/-- What a measure that is not additive holds after the contributions. -/
structure HoldsFirstValues (ctx : Context) (m : Measure) (ledger : List Contribution) : Prop where
  values : m.pointInTimeValues = firstValues ledger
  observed : ∀ c ∈ ledger, (firstValues ledger).get? c.period = some c.amount
  byPeriod : ∀ p, m.byPeriod.get? p = ((firstValues ledger).get? p).map ctx.round
  totals : m.totals = if (firstValues ledger).values = [] then none
    else some (NumericStats.ofValues ctx (firstValues ledger).values)

/-- The empty measure holds the first values of no contribution. -/
theorem HoldsFirstValues.empty : HoldsFirstValues ctx {} [] where
  values := rfl
  observed c hc := absurd hc List.not_mem_nil
  byPeriod _ := rfl
  totals := rfl

/-- An observation of a period that is there repeats its value; another period's value comes
last. -/
theorem firstValues_keeps {dashboardType : DashboardType} {field : DashboardInsightField}
    (hField : field ∈ DashboardInsightField.nonAdditiveFields) {m m' : Measure}
    {ledger : List Contribution} {c : Contribution}
    {dimensions : OrderedDict DashboardInsightField Str} {points points' : Nat}
    (hLedger : HoldsFirstValues ctx m ledger)
    (h : m.observe ctx dashboardType field c.dataset c.period dimensions c.amount points =
      .ok (m', points')) :
    HoldsFirstValues ctx m' (ledger ++ [c]) := by
  obtain ⟨-, -, h⟩ := Measure.observe_eq_ok h
  rw [if_pos hField] at h
  rcases Measure.observePointInTime_eq_ok h with ⟨hKnown, rfl, -⟩ | ⟨hNew, h⟩
  · have hPrior : (firstValues ledger).get? c.period = some c.amount := by
      rw [← hLedger.values]
      exact hKnown
    have hSame : firstValues (ledger ++ [c]) = firstValues ledger := by
      rw [firstValues_concat]
      unfold addFirst
      rw [hPrior]
    refine ⟨by rw [hSame]; exact hLedger.values, fun c' hc' => ?_, by rw [hSame]; exact hLedger.byPeriod,
      by rw [hSame]; exact hLedger.totals⟩
    rw [hSame]
    rcases List.mem_append.mp hc' with hOld | hLast
    · exact hLedger.observed c' hOld
    · rw [List.mem_singleton.mp hLast]
      exact hPrior
  · have hAbsent : (firstValues ledger).get? c.period = none := by
      rw [← hLedger.values]
      exact hNew
    have hNext : firstValues (ledger ++ [c]) = (firstValues ledger).set c.period c.amount := by
      rw [firstValues_concat]
      unfold addFirst
      rw [hAbsent]
    have hValues : (firstValues (ledger ++ [c])).values =
        (firstValues ledger).values ++ [c.amount] := by
      rw [hNext]
      exact OrderedDict.values_set_of_get?_eq_none _ hAbsent _
    obtain ⟨hTallied, -⟩ := Measure.tally_eq_ok h
    refine ⟨?_, fun c' hc' => ?_, fun p => ?_, ?_⟩
    · rw [hTallied.pointInTimeValues, hNext, ← hLedger.values]
    · rw [hNext, OrderedDict.get?_set]
      rcases List.mem_append.mp hc' with hOld | hLast
      · have hOther : c'.period ≠ c.period := by
          intro hPeriod
          rw [← hPeriod, hLedger.observed c' hOld] at hAbsent
          cases hAbsent
        rw [if_neg hOther]
        exact hLedger.observed c' hOld
      · rw [List.mem_singleton.mp hLast, if_pos rfl]
    · -- the period's sum begins at 0 and takes this value in
      have hZero : m.byPeriod.getD c.period 0 = 0 := by
        unfold OrderedDict.getD
        rw [hLedger.byPeriod, hAbsent]
        rfl
      rw [hTallied.byPeriod, hNext]
      show (m.byPeriod.set c.period (ctx.add (m.byPeriod.getD c.period 0) c.amount)).get? p = _
      rw [OrderedDict.get?_set, OrderedDict.get?_set, hZero]
      by_cases hp : p = c.period
      · rw [if_pos hp, if_pos hp]
        show some (ctx.round (0 + c.amount)) = _
        rw [zero_add]
        rfl
      · rw [if_neg hp, if_neg hp]
        exact hLedger.byPeriod p
    · rw [hTallied.totals, hValues, if_neg (by simp), ofValues_concat]
      have hStart : m.totals.getD {} = NumericStats.ofValues ctx (firstValues ledger).values := by
        rw [hLedger.totals]
        split
        · rename_i hEmpty
          rw [hEmpty]
          rfl
        · rfl
      show some ((m.totals.getD {}).observe ctx c.amount) = _
      rw [hStart]

/-- The statistics of a measure at points in time are those of the periods' values. -/
structure PointInTime (ctx : Context) (m : Measure) (ledger : List Contribution) : Prop where
  /-- the values are of the periods that have one -/
  periods : ∀ p, p ∈ (firstValues ledger).keys ↔ ∃ c ∈ ledger, c.period = p
  /-- every observed value is its period's -/
  observed : ∀ c ∈ ledger, (firstValues ledger).get? c.period = some c.amount
  byPeriod : ∀ c ∈ ledger, m.byPeriod.get? c.period = some (ctx.round c.amount)
  stats : StatsOf ctx (m.totals.getD {}) (firstValues ledger).values
  average : m.average ctx = if (firstValues ledger).values = [] then none
    else some (ctx.div (ctx.sum (firstValues ledger).values) (firstValues ledger).values.length)

theorem HoldsFirstValues.pointInTime {m : Measure} {ledger : List Contribution}
    (h : HoldsFirstValues ctx m ledger) : PointInTime ctx m ledger := by
  have hStats := stats_ofValues ctx (firstValues ledger).values
  refine ⟨fun p => mem_firstValues, h.observed, fun c hc => ?_, ?_, ?_⟩
  · rw [h.byPeriod, h.observed c hc]
    rfl
  · rw [h.totals]
    split
    · rename_i hEmpty
      rw [hEmpty]
      exact ⟨rfl, rfl, rfl, rfl⟩
    · exact hStats
  · unfold Measure.average
    rw [h.totals]
    split
    · rfl
    · rename_i hNonempty
      show NumericStats.average ctx _ = _
      -- The average divides by the number of periods.
      have hCount : ¬(firstValues ledger).values.length = 0 := by
        rw [List.length_eq_zero_iff]
        exact hNonempty
      unfold NumericStats.average
      rw [hStats.count, hStats.total, if_neg hCount]

/-- The two ledgers have the same values for the same periods, however often and in whatever
order. -/
def SameValues (ledger ledger' : List Contribution) : Prop :=
  ∀ p a, (∃ c ∈ ledger, c.period = p ∧ c.amount = a) ↔
    ∃ c ∈ ledger', c.period = p ∧ c.amount = a

/-- When no two values of a period differ, the entries are the contributions. -/
theorem mem_entries_firstValues {ledger : List Contribution}
    (hObserved : ∀ c ∈ ledger, (firstValues ledger).get? c.period = some c.amount) (p : Str) (a : ℚ) :
    (p, a) ∈ (firstValues ledger).entries ↔ ∃ c ∈ ledger, c.period = p ∧ c.amount = a := by
  constructor
  · intro hEntry
    have hGet := OrderedDict.get?_of_mem _ hEntry
    -- The entry's period was contributed, and each contribution of it has the stored value.
    obtain ⟨c, hc, hPeriod⟩ := mem_firstValues.mp (List.mem_map_of_mem hEntry)
    refine ⟨c, hc, hPeriod, ?_⟩
    have hValue := hObserved c hc
    have hKey : (p, a).1 = p := rfl
    rw [hPeriod, hKey, hGet] at hValue
    exact (Option.some.inj hValue).symm
  · rintro ⟨c, hc, rfl, rfl⟩
    exact OrderedDict.mem_of_get? _ (hObserved c hc)

/-- The values of the periods are the same, up to their order. -/
theorem values_perm {ledger ledger' : List Contribution}
    (hObserved : ∀ c ∈ ledger, (firstValues ledger).get? c.period = some c.amount)
    (hObserved' : ∀ c ∈ ledger', (firstValues ledger').get? c.period = some c.amount)
    (hSame : SameValues ledger ledger') :
    (firstValues ledger).values.Perm (firstValues ledger').values := by
  have hNodup : ∀ d : OrderedDict Str ℚ, d.entries.Nodup := fun d => d.nodup.of_map
  have hEntries : (firstValues ledger).entries.Perm (firstValues ledger').entries := by
    refine (List.perm_ext_iff_of_nodup (hNodup _) (hNodup _)).mpr ?_
    rintro ⟨p, a⟩
    rw [mem_entries_firstValues hObserved, mem_entries_firstValues hObserved']
    exact hSame p a
  exact hEntries.map Prod.snd

namespace DashboardInsightAccumulator

variable {acc : DashboardInsightAccumulator}

/-- The measure after any rows. -/
theorem holdsFirstValues_observeAll {dashboardType : DashboardType}
    {configuration : DashboardInsightConfiguration} {rows : List InsightRow}
    (h : (init dashboardType configuration).observeAll lib ctx order rows = .ok acc)
    {field : DashboardInsightField} (hField : field ∈ DashboardInsightField.nonAdditiveFields) :
    HoldsFirstValues ctx (acc.measures field)
      (contributions lib configuration.mappings field rows) := by
  have hNumeric : field ∈ DashboardInsightField.numericFields := by
    revert field
    decide
  exact (observeAll_induction (P := HoldsFirstValues ctx) hNumeric
    (fun m m' ledger c dimensions points points' hm _ hObserve =>
      firstValues_keeps hField hm hObserve) h HoldsFirstValues.empty).2

/-- **Values at points in time.** After any rows that raise nothing a measure that is not
additive has, for each period, every value observed for it as the context rounds it; its count,
sum, minimum, maximum and average are those of the periods' values. Rows with the same values for
the same periods leave the same count and bounds, and where no sum of the values is rounded the
same sum and average. -/
theorem point_in_time (dashboardType : DashboardType)
    (configuration : DashboardInsightConfiguration) (rows : List InsightRow)
    (h : (init dashboardType configuration).observeAll lib ctx order rows = .ok acc)
    (field : DashboardInsightField) (hField : field ∈ DashboardInsightField.nonAdditiveFields) :
    PointInTime ctx (acc.measures field)
      (contributions lib configuration.mappings field rows) ∧
    ∀ (configuration' : DashboardInsightConfiguration) (rows' : List InsightRow)
      (order' : SetOrder) (acc' : DashboardInsightAccumulator),
      (init dashboardType configuration').observeAll lib ctx order' rows' = .ok acc' →
      SameValues (contributions lib configuration.mappings field rows)
        (contributions lib configuration'.mappings field rows') →
      let stats := ((acc.measures field).totals.getD {})
      let stats' := ((acc'.measures field).totals.getD {})
      stats'.count = stats.count ∧ stats'.minimum = stats.minimum ∧
        stats'.maximum = stats.maximum ∧
        (ExactOn ctx (firstValues (contributions lib configuration.mappings field rows)).values →
          stats'.total = stats.total ∧
            (acc'.measures field).average ctx = (acc.measures field).average ctx) := by
  have hPoint := (holdsFirstValues_observeAll h hField).pointInTime
  refine ⟨hPoint, fun configuration' rows' order' acc' h' hSame => ?_⟩
  have hPoint' := (holdsFirstValues_observeAll h' hField).pointInTime
  -- The two runs hold the same values, up to their order.
  have hPerm := values_perm hPoint.observed hPoint'.observed hSame
  refine ⟨?_, ?_, ?_, fun hExact => ?_⟩
  · rw [hPoint.stats.count, hPoint'.stats.count, hPerm.length_eq]
  · exact (hPoint.stats.minimum.eq_of_perm hPerm hPoint'.stats.minimum).symm
  · exact (hPoint.stats.maximum.eq_of_perm hPerm hPoint'.stats.maximum).symm
  · have hSum : ctx.sum (firstValues (contributions lib configuration'.mappings field rows')).values =
        ctx.sum (firstValues (contributions lib configuration.mappings field rows)).values := by
      rw [sum_of_exactOn hExact hPerm.symm, sum_of_exactOn hExact (.refl _), hPerm.sum_eq]
    refine ⟨?_, ?_⟩
    · rw [hPoint.stats.total, hPoint'.stats.total, hSum]
    · -- Both have an average or neither has.
      have hEmpty : (firstValues (contributions lib configuration'.mappings field rows')).values = [] ↔
          (firstValues (contributions lib configuration.mappings field rows)).values = [] := by
        rw [← List.length_eq_zero_iff, ← List.length_eq_zero_iff, hPerm.length_eq]
      rw [hPoint.average, hPoint'.average, hSum, hPerm.length_eq]
      simp only [hEmpty]

/-- A balance of 81 digits: its period holds it rounded to 80. -/
theorem long_balance_rounded : ∃ acc : DashboardInsightAccumulator,
    (init .financialPerformance (InsightSample.configuration .financialPerformance)).observeAll
        InsightSample.library InsightSample.context InsightSample.order
        InsightSample.balanceRows = .ok acc ∧
      ∃ c ∈ contributions InsightSample.library
        (InsightSample.configuration .financialPerformance).mappings .cashBalance
        InsightSample.balanceRows,
        (acc.measures .cashBalance).byPeriod.get? c.period ≠ some c.amount := by
  obtain ⟨acc, hRun⟩ := exists_ok_of_isOk (by decide +kernel :
    ((init .financialPerformance (InsightSample.configuration .financialPerformance)).observeAll
      InsightSample.library InsightSample.context InsightSample.order
      InsightSample.balanceRows).isOk = true)
  -- The balance has more digits than the context keeps.
  have hContribution : ∃ c ∈ contributions InsightSample.library
      (InsightSample.configuration .financialPerformance).mappings .cashBalance
      InsightSample.balanceRows, InsightSample.context.round c.amount ≠ c.amount := by decide +kernel
  obtain ⟨c, hc, hRound⟩ := hContribution
  have hPoint := (holdsFirstValues_observeAll hRun (by decide :
    DashboardInsightField.cashBalance ∈ DashboardInsightField.nonAdditiveFields)).pointInTime
  refine ⟨acc, hRun, c, hc, fun hStored => ?_⟩
  rw [hPoint.byPeriod c hc] at hStored
  exact hRound (Option.some.inj hStored)

end DashboardInsightAccumulator

namespace InsightSample

/-- The balance of a month. -/
def balance (month : String) (amount : Int) : InsightRow :=
  row .financialPerformance 0 [(.period, .str (str month)), (.cashBalance, .int amount)]

/-- The balances of two months, the first one reported again. -/
def reported : List InsightRow :=
  [balance "2024-01" 100, balance "2024-02" 250, balance "2024-01" 100]

/-- The same balances in another order, the second one reported again. -/
def reordered : List InsightRow :=
  [balance "2024-02" 250, balance "2024-01" 100, balance "2024-02" 250]

/-- The contributions of rows to the cash balance. -/
def balances (rows : List InsightRow) : List Contribution :=
  contributions library (configuration .financialPerformance).mappings .cashBalance rows

/-- The periods and amounts of the two reports. -/
theorem balances_eq :
    (balances reported).map (fun c => (c.period, c.amount)) =
      [(str "2024-01", 100), (str "2024-02", 250), (str "2024-01", 100)] ∧
    (balances reordered).map (fun c => (c.period, c.amount)) =
      [(str "2024-02", 250), (str "2024-01", 100), (str "2024-02", 250)] ∧
    (firstValues (balances reported)).values = [100, 250] := by
  decide +kernel

/-- The two samples have the same values. -/
theorem sameValues : SameValues (balances reported) (balances reordered) := by
  have hPairs : ∀ (ledger : List Contribution) (p : Str) (a : ℚ),
      (∃ c ∈ ledger, c.period = p ∧ c.amount = a) ↔
        (p, a) ∈ ledger.map fun c => (c.period, c.amount) := by
    intro ledger p a
    simp only [List.mem_map, Prod.mk.injEq]
  obtain ⟨hReported, hReordered, -⟩ := balances_eq
  intro p a
  rw [hPairs, hPairs, hReported, hReordered]
  generalize (str "2024-01", (100 : ℚ)) = january
  generalize (str "2024-02", (250 : ℚ)) = february
  simp only [List.mem_cons, List.not_mem_nil, or_false]
  tauto

/-- The sums of the sample are exact in its context. -/
theorem exactOn : ExactOn context (firstValues (balances reported)).values := by
  rw [balances_eq.2.2]
  rintro part ⟨sublist, hPerm, hSublist⟩
  have hEach : ∀ l ∈ ([100, 250] : List ℚ).sublists, context.round l.sum = l.sum := by
    decide +kernel
  rw [← hPerm.sum_eq]
  exact hEach sublist (List.mem_sublists.mpr hSublist)

end InsightSample

namespace DashboardInsightAccumulator

open InsightSample in
/-- Two reports of the same balances, in two orders and with repeats: their statistics are those of
the two months, and the same. -/
theorem point_in_time_sample : ∃ acc acc' : DashboardInsightAccumulator,
    (init .financialPerformance (InsightSample.configuration .financialPerformance)).observeAll
        library context InsightSample.order reported = .ok acc ∧
      (init .financialPerformance (InsightSample.configuration .financialPerformance)).observeAll
        library context InsightSample.order reordered = .ok acc' ∧
      PointInTime context (acc.measures .cashBalance) (balances reported) ∧
      (firstValues (balances reported)).values = [100, 250] ∧
      let stats := ((acc.measures .cashBalance).totals.getD {})
      let stats' := ((acc'.measures .cashBalance).totals.getD {})
      stats'.count = stats.count ∧ stats'.minimum = stats.minimum ∧
        stats'.maximum = stats.maximum ∧ stats'.total = stats.total ∧
        (acc'.measures .cashBalance).average context =
          (acc.measures .cashBalance).average context := by
  have hOk :
      ((init .financialPerformance (InsightSample.configuration .financialPerformance)).observeAll
        library context InsightSample.order reported).isOk = true ∧
      ((init .financialPerformance (InsightSample.configuration .financialPerformance)).observeAll
        library context InsightSample.order reordered).isOk = true := by
    decide +kernel
  -- Both orders are accepted, repeats included.
  obtain ⟨acc, hRun⟩ := exists_ok_of_isOk hOk.1
  obtain ⟨acc', hRun'⟩ := exists_ok_of_isOk hOk.2
  obtain ⟨hPoint, hSame⟩ := point_in_time _ _ _ hRun .cashBalance (by decide)
  obtain ⟨hCount, hMinimum, hMaximum, hSums⟩ := hSame _ _ _ _ hRun' sameValues
  obtain ⟨hTotal, hAverage⟩ := hSums exactOn
  exact ⟨acc, acc', hRun, hRun', hPoint, balances_eq.2.2, hCount, hMinimum, hMaximum, hTotal,
    hAverage⟩

end DashboardInsightAccumulator

end SpikeBackend
