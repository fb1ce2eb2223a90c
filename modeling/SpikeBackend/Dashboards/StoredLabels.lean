import SpikeBackend.Dashboards.Reconciliation

/-!
# The labels that an accumulator stores

A label gets into the accumulator as the period of an amount, as the value of a dimension of the
outflow, or with a status update. After any rows the labels that are stored are those of the rows
that have an amount or a status, and no others.

* `storesLabels_observe` — one amount adds its own labels;
* `observeAll_reads` — after the rows: the measures, the status updates, and what each row says.
-/

namespace SpikeBackend

open Text Outcome Collections

variable {lib : StandardLibrary} {ctx : Context} {order : SetOrder} {dashboardType : DashboardType}

-- ---------------------------------------------------------------------------
-- Measures
-- ---------------------------------------------------------------------------

/-- The labels that a measure stores are those of the ledger: the periods, and in the outflow the
values of its dimensions, by period and over all periods. -/
structure StoresLabels (dashboardType : DashboardType) (field : DashboardInsightField) (m : Measure)
    (ledger : List Contribution) : Prop where
  periods : ∀ p, p ∈ m.byPeriod.keys ↔ ∃ c ∈ ledger, c.period = p
  values : field = dashboardType.outflowField → ∀ d ∈ dashboardType.outflowDimensions, ∀ v,
    v ∈ (m.byDimension d).keys ↔ ∃ c ∈ ledger, c.label d = v
  dimensionPeriods : field = dashboardType.outflowField → ∀ d ∈ dashboardType.outflowDimensions,
    ∀ p, p ∈ (m.byPeriodDimension d).keys ↔ ∃ c ∈ ledger, c.period = p
  points : field = dashboardType.outflowField → ∀ d ∈ dashboardType.outflowDimensions, ∀ p v,
    v ∈ ((m.byPeriodDimension d).getD p ∅).keys ↔ ∃ c ∈ ledger, c.period = p ∧ c.label d = v

/-- At the start there is none. -/
theorem storesLabels_empty (dashboardType : DashboardType) (field : DashboardInsightField) :
    StoresLabels dashboardType field {} [] :=
  ⟨fun _ => ⟨nofun, nofun⟩, fun _ _ _ _ => ⟨nofun, nofun⟩, fun _ _ _ _ => ⟨nofun, nofun⟩,
    fun _ _ _ _ _ => ⟨nofun, nofun⟩⟩

/-- What one of the contributions has, or the last one. -/
theorem exists_mem_concat (ledger : List Contribution) (c : Contribution)
    (P : Contribution → Prop) : (∃ e ∈ ledger ++ [c], P e) ↔ P c ∨ ∃ e ∈ ledger, P e := by
  simp only [List.mem_append, List.mem_singleton, or_and_right, exists_or, exists_eq_left]
  exact or_comm

/-- An amount adds its own key. -/
theorem mem_keys_accumulate {values : OrderedDict Str ℚ} {key other : Str} {value : ℚ} :
    other ∈ (accumulate ctx values key value).keys ↔ other = key ∨ other ∈ values.keys :=
  values.mem_keys_set

/-- A tally adds the period of its amount and, in the outflow, the values of the dimensions. -/
theorem StoresLabels.tallied {field : DashboardInsightField} {m m' : Measure}
    {ledger : List Contribution} {c : Contribution}
    {dimensions : OrderedDict DashboardInsightField Str}
    (hStored : StoresLabels dashboardType field m ledger)
    (hValue : field = dashboardType.outflowField →
      ∀ d ∈ dashboardType.outflowDimensions, dimensions.get? d = some (c.label d))
    (h : Measure.Tallied ctx dashboardType field c.period dimensions c.amount m m') :
    StoresLabels dashboardType field m' (ledger ++ [c]) := by
  have hDimension : field = dashboardType.outflowField → ∀ d ∈ dashboardType.outflowDimensions,
      m'.byDimension d = accumulate ctx (m.byDimension d) (c.label d) c.amount ∧
        m'.byPeriodDimension d = (m.byPeriodDimension d).set c.period
          (accumulate ctx ((m.byPeriodDimension d).getD c.period ∅) (c.label d) c.amount) := by
    intro hField d hd
    exact h.dimension d _ (hValue hField d hd)
      (hField ▸ outflow_aggregated dashboardType d hd)
  refine ⟨fun p => ?_, fun hField d hd v => ?_, fun hField d hd p => ?_, fun hField d hd p v => ?_⟩
  · rw [exists_mem_concat, h.byPeriod, mem_keys_accumulate, hStored.periods, eq_comm]
  · rw [exists_mem_concat, (hDimension hField d hd).1, mem_keys_accumulate,
      hStored.values hField d hd, eq_comm]
  · rw [exists_mem_concat, (hDimension hField d hd).2, OrderedDict.mem_keys_set,
      hStored.dimensionPeriods hField d hd, eq_comm]
  · rw [exists_mem_concat, (hDimension hField d hd).2, OrderedDict.getD_set]
    by_cases hp : p = c.period
    · rw [if_pos hp, mem_keys_accumulate, hStored.points hField d hd, hp, eq_comm (a := v)]
      simp only [true_and]
    · rw [if_neg hp, hStored.points hField d hd, or_iff_right fun h => hp h.1.symm]

/-- The labels of a measure, and the periods of its values at a point in time, which are among
them. -/
def KeepsLabels (dashboardType : DashboardType) (field : DashboardInsightField) (m : Measure)
    (ledger : List Contribution) : Prop :=
  StoresLabels dashboardType field m ledger ∧ ∀ p ∈ m.pointInTimeValues.keys, p ∈ m.byPeriod.keys

/-- An observed amount adds its own labels; a repeat at a point in time has no others. -/
theorem keepsLabels_observe {field : DashboardInsightField} {m m' : Measure}
    {ledger : List Contribution} {c : Contribution}
    {dimensions : OrderedDict DashboardInsightField Str} {points points' : Nat}
    (hKept : KeepsLabels dashboardType field m ledger)
    (hLabels : ∀ d value, d ∈ DashboardInsightField.dimensionFields →
      dimensions.get? d = some value → value = c.label d)
    (h : m.observe ctx dashboardType field c.dataset c.period dimensions c.amount points =
      .ok (m', points')) :
    KeepsLabels dashboardType field m' (ledger ++ [c]) := by
  obtain ⟨hStored, hOld⟩ := hKept
  obtain ⟨-, hRequired, h⟩ := Measure.observe_eq_ok h
  have hValue : field = dashboardType.outflowField →
      ∀ d ∈ dashboardType.outflowDimensions, dimensions.get? d = some (c.label d) := by
    intro hField d hd
    obtain ⟨value, hGet⟩ := Option.isSome_iff_exists.mp (hRequired hField d hd)
    rw [hGet, hLabels d value (outflow_dimension dashboardType d hd) hGet]
  -- what a measure stores is not up to its other dicts
  have hSame : ∀ pointInTime dataset, StoresLabels dashboardType field
      { m with pointInTimeValues := pointInTime, periodDataset := dataset } ledger :=
    fun _ _ => ⟨hStored.periods, hStored.values, hStored.dimensionPeriods, hStored.points⟩
  have hNew : ∀ {m₁ : Measure}, m₁.byPeriod = accumulate ctx m.byPeriod c.period c.amount →
      ∀ p, p = c.period ∨ p ∈ m.byPeriod.keys → p ∈ m₁.byPeriod.keys := by
    intro m₁ hPeriod p hp
    rw [hPeriod]
    exact mem_keys_accumulate.mpr hp
  split at h
  · rcases Measure.observePointInTime_eq_ok h with ⟨hGet, rfl, -⟩ | ⟨-, h⟩
    · -- a repeat adds nothing, and its period is there
      have hKey : c.period ∈ m.byPeriod.keys :=
        hOld _ (m.pointInTimeValues.isSome_get?.mp (Option.isSome_iff_exists.mpr ⟨_, hGet⟩))
      have hAdditive : field ≠ dashboardType.outflowField := by
        rintro rfl
        exact outflow_additive dashboardType ‹_›
      refine ⟨⟨fun p => ?_, fun hField => absurd hField hAdditive,
        fun hField => absurd hField hAdditive, fun hField => absurd hField hAdditive⟩, hOld⟩
      rw [exists_mem_concat, ← hStored.periods]
      refine (or_iff_right_of_imp ?_).symm
      rintro rfl
      exact hKey
    · obtain ⟨hTallied, -⟩ := Measure.tally_eq_ok h
      refine ⟨(hSame _ _).tallied hValue hTallied, fun p hp => ?_⟩
      rw [hTallied.pointInTimeValues] at hp
      rcases (OrderedDict.mem_keys_set _).mp hp with rfl | hp
      · exact hNew hTallied.byPeriod _ (.inl rfl)
      · exact hNew hTallied.byPeriod p (.inr (hOld p hp))
  · obtain ⟨hTallied, -⟩ := Measure.tally_eq_ok h
    refine ⟨(hSame _ _).tallied hValue hTallied, fun p hp => ?_⟩
    rw [hTallied.pointInTimeValues] at hp
    exact hNew hTallied.byPeriod p (.inr (hOld p hp))

-- ---------------------------------------------------------------------------
-- Rows
-- ---------------------------------------------------------------------------

/-- A row has a value in a field: the field is mapped, and the cell is not `None`. -/
def hasCell (semantic : DashboardInsightField → Option Json) (field : DashboardInsightField) :
    Bool :=
  ((semantic field).filter (!·.isNull)).isSome

/-- A row has a status update. -/
def hasStatus (semantic : DashboardInsightField → Option Json) : Bool :=
  [DashboardInsightField.statusTitle, .statusDetail, .status, .progress].any (hasCell semantic)

/-- The status update of a row: the labels of its cells. -/
structure StatusOf (lib : StandardLibrary) (semantic : DashboardInsightField → Option Json)
    (update : StatusUpdate) : Prop where
  period : label lib ((semantic .period).getD .null) = .ok update.period
  title : label lib ((semantic .statusTitle).getD .null) = .ok update.title
  detail : label lib ((semantic .statusDetail).getD .null) dashboardInsightMaxStatusDetailLength =
    .ok update.detail
  status : label lib ((semantic .status).getD .null) = .ok update.status
  progress : ∃ progress : Option ℚ, update.progressDecimal = progress.map decimalText

/-- What an accepted row has: its amounts are contributions, and an outflow comes with labels. -/
structure RowAccepted (lib : StandardLibrary) (dashboardType : DashboardType)
    (mappings : OrderedDict DatasetKey (OrderedDict DashboardInsightField Str)) (row : InsightRow) :
    Prop where
  amounts : ∀ field ∈ DashboardInsightField.numericFields,
    hasCell (rowSemantic mappings row) field = true →
      ∃ c, contribution? lib mappings field row = some c
  labels : hasCell (rowSemantic mappings row) dashboardType.outflowField = true →
    ∀ d ∈ dashboardType.outflowDimensions, ∃ text,
      cellLabel lib (rowSemantic mappings row) d = some text

namespace DashboardInsightAccumulator

variable {acc acc' : DashboardInsightAccumulator} {row : InsightRow}

/-- The numbers of a row are no status updates. -/
theorem observeNumerics_statusUpdates {reading : RowReading} {fields : List DashboardInsightField}
    {s s' : DashboardInsightAccumulator × Bool}
    (h : fields.foldlM (observeNumeric lib ctx reading) s = .ok s') :
    s'.1.statusUpdates = s.1.statusUpdates := by
  refine foldlM_induction (P := fun x : DashboardInsightAccumulator × Bool =>
    x.1.statusUpdates = s.1.statusUpdates) h rfl ?_
  intro x field x' _ hx hStep
  rcases observeNumeric_eq_ok hStep with ⟨-, rfl⟩ | ⟨_, _, m, points, -, -, -, rfl⟩
  · exact hx
  · exact hx

/-- A numeric cell that is not empty has to be a number. -/
theorem observeNumerics_number {reading : RowReading} {fields : List DashboardInsightField}
    {s s' : DashboardInsightAccumulator × Bool}
    (h : fields.foldlM (observeNumeric lib ctx reading) s = .ok s') :
    ∀ field ∈ fields, hasCell reading.semantic field = true →
      cellNumber lib reading.semantic field ≠ none := by
  refine foldlM_history (P := fun done _ => ∀ field ∈ done, hasCell reading.semantic field = true →
    cellNumber lib reading.semantic field ≠ none) h
    (fun _ hField => absurd hField List.not_mem_nil) ?_
  intro done x field x' _ hDone hStep f hf hCell
  rcases List.mem_append.mp hf with hf | hf
  · exact hDone f hf hCell
  · obtain rfl := List.mem_singleton.mp hf
    obtain ⟨value, hValue⟩ := Option.isSome_iff_exists.mp hCell
    rcases observeNumeric_eq_ok hStep with ⟨-, hSame⟩ | ⟨numeric, _, _, _, hNumber, -⟩
    · -- the loop goes on with the flag only where the cell was read
      unfold observeNumeric RowReading.filled at hStep
      rw [hValue] at hStep
      obtain ⟨numeric, hNumeric, -⟩ := bind_eq_ok.mp hStep
      unfold cellNumber
      rw [hValue, Option.bind_some, required_eq_ok.mp hNumeric]
      exact Option.some_ne_none _
    · rw [hNumber]
      exact Option.some_ne_none _

/-- The status update of a reading is appended, where there is one. -/
theorem observeStatus_cases {reading : RowReading}
    (hPeriod : label lib ((reading.semantic .period).getD .null) = .ok reading.period)
    (h : acc.observeStatus lib reading = .ok acc') :
    (hasStatus reading.semantic = false ∧ acc'.statusUpdates = acc.statusUpdates) ∨
      hasStatus reading.semantic = true ∧ ∃ update, StatusOf lib reading.semantic update ∧
        acc'.statusUpdates = acc.statusUpdates ++ [update] := by
  unfold observeStatus at h
  split at h
  · rename_i hHas
    obtain ⟨-, -, h⟩ := bind_eq_ok.mp h
    obtain ⟨progress, -, h⟩ := bind_eq_ok.mp h
    obtain ⟨title, hTitle, h⟩ := bind_eq_ok.mp h
    obtain ⟨detail, hDetail, h⟩ := bind_eq_ok.mp h
    obtain ⟨status, hStatus, h⟩ := bind_eq_ok.mp h
    obtain rfl := Except.ok.inj h
    exact .inr ⟨hHas, _, ⟨hPeriod, hTitle, hDetail, hStatus, progress, rfl⟩, rfl⟩
  · rename_i hHas
    obtain rfl := Except.ok.inj h
    exact .inl ⟨Bool.eq_false_iff.mpr hHas, rfl⟩

/-- The period of a reading is the label of its cell. -/
theorem readRow_period {mapping : OrderedDict DashboardInsightField Str} {reading : RowReading}
    (h : acc.readRow lib mapping row = .ok (acc', reading)) :
    label lib ((reading.semantic .period).getD .null) = .ok reading.period := by
  unfold readRow at h
  obtain ⟨-, -, h⟩ := bind_eq_ok.mp h
  obtain ⟨period, hPeriod, h⟩ := bind_eq_ok.mp h
  obtain ⟨⟨acc₁, dimensions⟩, -, h⟩ := bind_eq_ok.mp h
  cases h
  exact hPeriod

/-- A row whose dataset is not mapped says nothing. -/
theorem rowSemantic_of_none
    {mappings : OrderedDict DatasetKey (OrderedDict DashboardInsightField Str)}
    (h : mappings.get? row.key = none) : rowSemantic mappings row = fun _ => none := by
  funext field
  unfold rowSemantic
  rw [h]
  rfl

/-- A row of a mapped dataset says what its cells say under the mapping. -/
theorem rowSemantic_of_some
    {mappings : OrderedDict DatasetKey (OrderedDict DashboardInsightField Str)}
    {mapping : OrderedDict DashboardInsightField Str} (h : mappings.get? row.key = some mapping) :
    rowSemantic mappings row = row.semantic mapping := by
  funext field
  unfold rowSemantic
  rw [h]
  rfl

/-- **One row.** Its status update is appended, and its amounts come with the labels they need. -/
theorem observe_row (h : acc.observe lib ctx order row = .ok acc') :
    ((hasStatus (rowSemantic acc.mappings row) = false ∧ acc'.statusUpdates = acc.statusUpdates) ∨
      hasStatus (rowSemantic acc.mappings row) = true ∧
        ∃ update, StatusOf lib (rowSemantic acc.mappings row) update ∧
          acc'.statusUpdates = acc.statusUpdates ++ [update]) ∧
      RowAccepted lib acc.dashboardType acc.mappings row := by
  unfold observe at h
  split at h
  · rename_i hNone
    obtain rfl := Except.ok.inj h
    rw [rowSemantic_of_none hNone]
    refine ⟨.inl ⟨rfl, rfl⟩, fun field _ hCell => ?_, fun hCell => ?_⟩
    · rw [rowSemantic_of_none hNone] at hCell
      cases hCell
    · rw [rowSemantic_of_none hNone] at hCell
      cases hCell
  · rename_i mapping hMapping
    obtain ⟨⟨acc₁, reading⟩, hRead, h⟩ := bind_eq_ok.mp h
    obtain ⟨⟨acc₂, observed⟩, hNumerics, hStatus⟩ := bind_eq_ok.mp h
    obtain ⟨⟨values, rfl⟩, -, hSemantic, -, hDimensions⟩ := readRow_eq_ok hRead
    have hReading : rowSemantic acc.mappings row = reading.semantic :=
      (rowSemantic_of_some hMapping).trans hSemantic.symm
    have hPeriod := readRow_period hRead
    have hUpdates := observeNumerics_statusUpdates hNumerics
    have hNodup : order.numericFields.Nodup :=
      order.numericFields_perm.nodup_iff.mpr (by decide)
    -- a numeric cell that is not empty was observed, with a period
    have hAmount : ∀ field ∈ DashboardInsightField.numericFields,
        hasCell reading.semantic field = true → ∃ numeric period points m,
          cellNumber lib reading.semantic field = some numeric ∧ reading.period = some period ∧
          (acc.measures field).observe ctx acc.dashboardType field reading.key period
            reading.dimensions numeric points = .ok m := by
      intro field hField hCell
      rcases observeNumerics_measure hNodup hNumerics
        (order.numericFields_perm.mem_iff.mpr hField) with ⟨hNone, -⟩ |
        ⟨numeric, period, points, points', hNumber, hRowPeriod, hMeasure⟩
      · exact absurd hNone (observeNumerics_number hNumerics field
          (order.numericFields_perm.mem_iff.mpr hField) hCell)
      · exact ⟨numeric, period, points, _, hNumber, hRowPeriod, hMeasure⟩
    refine ⟨?_, fun field hField hCell => ?_, fun hCell d hd => ?_⟩
    · rw [hReading]
      -- the count of the rows is no status update
      have hSame : (if observed then { acc₂ with mappedRowCount := acc₂.mappedRowCount + 1 }
          else acc₂).statusUpdates = acc.statusUpdates := by
        split
        · exact hUpdates
        · exact hUpdates
      have hCases := observeStatus_cases hPeriod hStatus
      rw [hSame] at hCases
      exact hCases
    · rw [hReading] at hCell
      obtain ⟨numeric, period, -, -, hNumber, hRowPeriod, -⟩ := hAmount field hField hCell
      rw [hRowPeriod] at hPeriod
      refine ⟨⟨row.key, period, fun d => (cellLabel lib reading.semantic d).getD [], numeric⟩, ?_⟩
      simp only [contribution?, hReading, hNumber, cellLabel_of_label hPeriod, Option.bind_some,
        Option.map_some]
    · rw [hReading] at hCell ⊢
      obtain ⟨numeric, period, points, m, -, -, hMeasure⟩ :=
        hAmount _ (outflow_numeric acc.dashboardType) hCell
      obtain ⟨-, hRequired, -⟩ := Measure.observe_eq_ok hMeasure
      obtain ⟨text, hText⟩ := Option.isSome_iff_exists.mp (hRequired rfl d hd)
      refine ⟨text, ?_⟩
      rw [hSemantic, ← hDimensions d (outflow_dimension acc.dashboardType d hd)]
      exact hText

/-- What the accumulator has after some rows. -/
structure Reads (lib : StandardLibrary) (rows : List InsightRow)
    (acc : DashboardInsightAccumulator) : Prop where
  measures : ∀ field ∈ DashboardInsightField.numericFields,
    KeepsLabels acc.dashboardType field (acc.measures field)
      (contributions lib acc.mappings field rows)
  updates : List.Forall₂ (fun row update => StatusOf lib (rowSemantic acc.mappings row) update)
    (rows.filter fun row => hasStatus (rowSemantic acc.mappings row)) acc.statusUpdates
  accepted : ∀ row ∈ rows, RowAccepted lib acc.dashboardType acc.mappings row

/-- Of no rows it has nothing. -/
theorem reads_init (dashboardType : DashboardType) (configuration : DashboardInsightConfiguration) :
    Reads lib [] (init dashboardType configuration) :=
  ⟨fun field _ => ⟨storesLabels_empty dashboardType field, nofun⟩, .nil, nofun⟩

/-- One more row. -/
theorem Reads.observe {rows : List InsightRow} (hReads : Reads lib rows acc)
    (h : acc.observe lib ctx order row = .ok acc') :
    Reads lib (rows ++ [row]) acc' ∧ SameButMeasures acc acc' := by
  have hSame : SameButMeasures acc acc' := (observe_measure h (outflow_numeric .executiveSummary)).1
  obtain ⟨hStatus, hAccepted⟩ := observe_row h
  refine ⟨⟨fun field hField => ?_, ?_, ?_⟩, hSame⟩
  · rw [hSame.dashboardType, hSame.mappings]
    have hKept := hReads.measures field hField
    unfold contributions at hKept ⊢
    rw [List.filterMap_append]
    rcases (observe_measure h hField).2 with ⟨hNone, hSameMeasure⟩ |
      ⟨c, dimensions, points, points', hSome, hLabels, hMeasure⟩
    · rw [hSameMeasure, List.filterMap_cons_none hNone, List.filterMap_nil, List.append_nil]
      exact hKept
    · rw [List.filterMap_cons_some hSome, List.filterMap_nil]
      exact keepsLabels_observe hKept hLabels hMeasure
  · rw [hSame.mappings, List.filter_append]
    rcases hStatus with ⟨hNot, hUpdates⟩ | ⟨hHas, update, hUpdate, hUpdates⟩
    · rw [hUpdates, List.filter_cons, if_neg (Bool.eq_false_iff.mp hNot), List.filter_nil,
        List.append_nil]
      exact hReads.updates
    · rw [hUpdates, List.filter_cons, if_pos hHas, List.filter_nil]
      exact List.rel_append hReads.updates (.cons hUpdate .nil)
  · rw [hSame.dashboardType, hSame.mappings]
    intro r hr
    rcases List.mem_append.mp hr with hr | hr
    · exact hReads.accepted r hr
    · exact List.mem_singleton.mp hr ▸ hAccepted

/-- **The rows of a source.** -/
theorem Reads.observeAll {rows more : List InsightRow} (hReads : Reads lib rows acc)
    (h : acc.observeAll lib ctx order more = .ok acc') :
    Reads lib (rows ++ more) acc' ∧ SameButMeasures acc acc' := by
  refine foldlM_history (P := fun done x => Reads lib (rows ++ done) x ∧ SameButMeasures acc x) h
    ⟨(List.append_nil rows).symm ▸ hReads, ⟨rfl, rfl, rfl, rfl⟩⟩ ?_
  intro done x r x' _ ⟨hDone, hSame⟩ hStep
  obtain ⟨hNext, hSame'⟩ := hDone.observe hStep
  rw [List.append_assoc] at hNext
  exact ⟨hNext, ⟨hSame'.1.trans hSame.1, hSame'.2.trans hSame.2, hSame'.3.trans hSame.3,
    hSame'.4.trans hSame.4⟩⟩

end DashboardInsightAccumulator

end SpikeBackend
