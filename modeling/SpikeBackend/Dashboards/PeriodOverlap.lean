import SpikeBackend.Dashboards.Observation

/-!
# Overlapping periods of a measure

Two datasets do not contribute one measure under one period label: the second is refused. The
check compares labels, while the rendering orders periods by `_period_sort_key`, so two
spellings of one period pass it.

* `oneDatasetPerLabel` — the datasets of a measure do not share a label;
* `periods_disjoint_iff` — they share no point in time exactly when no two of them spell one
  differently.
-/

namespace SpikeBackend

open Text Outcome Collections

variable {lib : StandardLibrary} {ctx : Context} {order : SetOrder}

/-- The contributions under one label come from the dataset that the measure has for it. -/
def DatasetPerLabel (m : Measure) (ledger : List Contribution) : Prop :=
  ∀ c ∈ ledger, m.periodDataset.get? c.period = some c.dataset

/-- An observation keeps the datasets of the labels: a label that has another one is refused. -/
theorem datasetPerLabel_keeps {dashboardType : DashboardType} {field : DashboardInsightField}
    {m m' : Measure} {ledger : List Contribution} {c : Contribution}
    {dimensions : OrderedDict DashboardInsightField Str} {points points' : Nat}
    (hLedger : DatasetPerLabel m ledger)
    (h : m.observe ctx dashboardType field c.dataset c.period dimensions c.amount points =
      .ok (m', points')) :
    DatasetPerLabel m' (ledger ++ [c]) := by
  obtain ⟨hDataset, -, h⟩ := Measure.observe_eq_ok h
  have hMap : m'.periodDataset = m.periodDataset.set c.period c.dataset := by
    split at h
    · rcases Measure.observePointInTime_eq_ok h with ⟨-, rfl, -⟩ | ⟨-, h⟩
      · rfl
      · exact (Measure.tally_eq_ok h).1.periodDataset
    · exact (Measure.tally_eq_ok h).1.periodDataset
  intro c' hc'
  rw [hMap, OrderedDict.get?_set]
  by_cases hPeriod : c'.period = c.period
  · rw [if_pos hPeriod]
    rcases List.mem_append.mp hc' with hOld | hNew
    · -- the label is there, and the check found its dataset to be this one
      have hKnown := hLedger c' hOld
      rw [hPeriod] at hKnown
      rw [hKnown] at hDataset
      have hSame : c'.dataset = c.dataset := by simpa using hDataset
      rw [hSame]
    · rw [List.mem_singleton.mp hNew]
  · rw [if_neg hPeriod]
    rcases List.mem_append.mp hc' with hOld | hNew
    · exact hLedger c' hOld
    · exact absurd (by rw [List.mem_singleton.mp hNew]) hPeriod

namespace DashboardInsightAccumulator

variable {acc : DashboardInsightAccumulator}

/-- Two contributions to a measure under one label are of one dataset. -/
theorem oneDatasetPerLabel {dashboardType : DashboardType}
    {configuration : DashboardInsightConfiguration} {rows : List InsightRow}
    (h : (init dashboardType configuration).observeAll lib ctx order rows = .ok acc)
    {field : DashboardInsightField} (hField : field ∈ DashboardInsightField.numericFields)
    {c c' : Contribution} (hc : c ∈ contributions lib configuration.mappings field rows)
    (hc' : c' ∈ contributions lib configuration.mappings field rows)
    (hPeriod : c.period = c'.period) : c.dataset = c'.dataset := by
  -- every contribution has found its label free or owned by its own dataset, and owners never
  -- change
  obtain ⟨-, hLedger⟩ := observeAll_induction (P := DatasetPerLabel) hField
    (fun m m' ledger c dimensions points points' hm _ hObserve =>
      datasetPerLabel_keeps hm hObserve) h
    (fun c hc => absurd hc List.not_mem_nil : DatasetPerLabel _ [])
  rw [List.nil_append] at hLedger
  -- both contributions own the label, so they are of one dataset
  have hFirst := hLedger c hc
  rw [hPeriod, hLedger c' hc'] at hFirst
  exact (Option.some.inj hFirst).symm

/-- No two datasets contribute a measure at one point in time. -/
def PeriodsDisjoint (lib : StandardLibrary) (configuration : DashboardInsightConfiguration)
    (rows : List InsightRow) : Prop :=
  ∀ field ∈ DashboardInsightField.numericFields,
    ∀ c ∈ contributions lib configuration.mappings field rows,
    ∀ c' ∈ contributions lib configuration.mappings field rows,
      periodSortKey lib c.period = periodSortKey lib c'.period → c.dataset = c'.dataset

/-- The rows of two datasets with one measure spell one point in time alike. -/
def SpelledAlike (lib : StandardLibrary) (configuration : DashboardInsightConfiguration)
    (rows : List InsightRow) : Prop :=
  ∀ field ∈ DashboardInsightField.numericFields,
    ∀ c ∈ contributions lib configuration.mappings field rows,
    ∀ c' ∈ contributions lib configuration.mappings field rows, c.dataset ≠ c'.dataset →
      periodSortKey lib c.period = periodSortKey lib c'.period → c.period = c'.period

/-- **Overlapping periods.** After any rows that raise nothing the datasets of each measure are
disjoint in time exactly when no two of them spell one point in time differently. -/
theorem periods_disjoint_iff (dashboardType : DashboardType)
    (configuration : DashboardInsightConfiguration) (rows : List InsightRow)
    (h : (init dashboardType configuration).observeAll lib ctx order rows = .ok acc) :
    PeriodsDisjoint lib configuration rows ↔ SpelledAlike lib configuration rows := by
  constructor
  · intro hDisjoint field hField c hc c' hc' hne hKey
    exact absurd (hDisjoint field hField c hc c' hc' hKey) hne
  · intro hAlike field hField c hc c' hc' hKey
    -- two datasets in one month spell it alike, so they share a label, which has one owner
    by_contra hne
    have hPeriod : c.period = c'.period := hAlike field hField c hc c' hc' hne hKey
    exact hne (oneDatasetPerLabel h hField hc hc' hPeriod)

/-- Two sheets with the expenses of "2024-01" and of "Jan 2024" are accepted: one month is
counted twice. -/
theorem overlap_accepted : ∃ acc : DashboardInsightAccumulator,
    (init .operationalKpi (InsightSample.configuration .operationalKpi)).observeAll
        InsightSample.library InsightSample.context InsightSample.order
        InsightSample.overlappingRows = .ok acc ∧
      ¬PeriodsDisjoint InsightSample.library (InsightSample.configuration .operationalKpi)
        InsightSample.overlappingRows := by
  obtain ⟨acc, hRun⟩ := exists_ok_of_isOk (by decide +kernel :
    ((init .operationalKpi (InsightSample.configuration .operationalKpi)).observeAll
      InsightSample.library InsightSample.context InsightSample.order
      InsightSample.overlappingRows).isOk = true)
  -- the two spellings of January, each in a dataset of its own
  have hFirst : ∃ c ∈ contributions InsightSample.library
      (InsightSample.configuration .operationalKpi).mappings .expenses
      InsightSample.overlappingRows,
      c.dataset = InsightSample.dataset 0 ∧ c.period = str "2024-01" := by decide +kernel
  have hSecond : ∃ c ∈ contributions InsightSample.library
      (InsightSample.configuration .operationalKpi).mappings .expenses
      InsightSample.overlappingRows,
      c.dataset = InsightSample.dataset 1 ∧ c.period = str "Jan 2024" := by decide +kernel
  have hKey : periodSortKey InsightSample.library (str "2024-01") =
      periodSortKey InsightSample.library (str "Jan 2024") := by decide +kernel
  refine ⟨acc, hRun, fun hDisjoint => ?_⟩
  obtain ⟨c, hc, hDataset, hPeriod⟩ := hFirst
  obtain ⟨c', hc', hDataset', hPeriod'⟩ := hSecond
  have hSame := hDisjoint .expenses (by decide) c hc c' hc' (by rw [hPeriod, hPeriod', hKey])
  rw [hDataset, hDataset'] at hSame
  exact absurd hSame (by decide)

end DashboardInsightAccumulator

namespace InsightSample

/-- Expenses of one month from the first sheet, and of the next one from the second. -/
def successiveRows : List InsightRow :=
  [row .operationalKpi 0 [(.period, .str (str "2024-01")), (.department, .str (str "Sales")),
      (.vendor, .str (str "Acme")), (.expenses, .int 100)],
    row .operationalKpi 1 [(.period, .str (str "2024-02")), (.department, .str (str "Sales")),
      (.vendor, .str (str "Acme")), (.expenses, .int 100)]]

/-- What the rows contribute, without the labels. -/
def points (field : DashboardInsightField) (rows : List InsightRow) : List (DatasetKey × Str) :=
  (contributions library (configuration .operationalKpi).mappings field rows).map fun c =>
    (c.dataset, c.period)

/-- The successive sheets spell their months alike, where they share one at all. -/
theorem spelledAlike : DashboardInsightAccumulator.SpelledAlike library
    (configuration .operationalKpi) successiveRows := by
  have hAll : ∀ field ∈ DashboardInsightField.numericFields,
      ∀ x ∈ points field successiveRows, ∀ y ∈ points field successiveRows, x.1 ≠ y.1 →
        periodSortKey library x.2 ≠ periodSortKey library y.2 := by
    decide +kernel
  intro field hField c hc c' hc' hOther hKey
  exact absurd hKey (hAll field hField (c.dataset, c.period) (List.mem_map_of_mem hc)
    (c'.dataset, c'.period) (List.mem_map_of_mem hc') hOther)

end InsightSample

namespace DashboardInsightAccumulator

open InsightSample in
/-- Two sheets of two months are disjoint in time; two spellings of one month are not. -/
theorem periods_disjoint_iff_sample : ∃ acc acc' : DashboardInsightAccumulator,
    (init .operationalKpi (InsightSample.configuration .operationalKpi)).observeAll library
        context InsightSample.order successiveRows = .ok acc ∧
      PeriodsDisjoint library (InsightSample.configuration .operationalKpi) successiveRows ∧
      (init .operationalKpi (InsightSample.configuration .operationalKpi)).observeAll library
        context InsightSample.order overlappingRows = .ok acc' ∧
      ¬PeriodsDisjoint library (InsightSample.configuration .operationalKpi) overlappingRows := by
  -- the first run has successive months, the second one spells one month in two ways
  have hOk :
      ((init .operationalKpi (InsightSample.configuration .operationalKpi)).observeAll library
        context InsightSample.order successiveRows).isOk = true ∧
      ((init .operationalKpi (InsightSample.configuration .operationalKpi)).observeAll library
        context InsightSample.order overlappingRows).isOk = true := by
    decide +kernel
  have hSpellings : (∃ x ∈ points .expenses overlappingRows, x = (dataset 0, str "2024-01")) ∧
      (∃ x ∈ points .expenses overlappingRows, x = (dataset 1, str "Jan 2024")) ∧
      periodSortKey library (str "2024-01") = periodSortKey library (str "Jan 2024") := by
    decide +kernel
  obtain ⟨acc, hRun⟩ := exists_ok_of_isOk hOk.1
  obtain ⟨acc', hRun'⟩ := exists_ok_of_isOk hOk.2
  refine ⟨acc, acc', hRun, (periods_disjoint_iff _ _ _ hRun).mpr spelledAlike, hRun', ?_⟩
  rw [periods_disjoint_iff _ _ _ hRun']
  intro hAlike
  obtain ⟨⟨_, hFirst, rfl⟩, ⟨_, hSecond, rfl⟩, hKey⟩ := hSpellings
  obtain ⟨c, hc, hPoint⟩ := List.mem_map.mp hFirst
  obtain ⟨c', hc', hPoint'⟩ := List.mem_map.mp hSecond
  obtain ⟨hDataset, hPeriod⟩ := Prod.mk.inj hPoint
  obtain ⟨hDataset', hPeriod'⟩ := Prod.mk.inj hPoint'
  have hSame := hAlike .expenses (by decide) c hc c' hc'
    (by rw [hDataset, hDataset']; decide) (by rw [hPeriod, hPeriod', hKey])
  rw [hPeriod, hPeriod'] at hSame
  exact absurd hSame (by decide)

end DashboardInsightAccumulator

end SpikeBackend
