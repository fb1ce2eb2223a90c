import SpikeBackend.Dashboards.Observation
import SpikeBackend.Model.InsightSnapshots

/-!
# The order of the numeric fields

A process iterates the frozenset of the numeric fields in an order of its own. The steps of two
fields commute: each writes its own measure, and only the outflow's step counts points. So all
processes that accept rows accept them with the same accumulator.

* `observeNumeric_comm` — the steps of two fields commute;
* `observeSources_order` — the accumulator of the sources is the same in every order.
-/

namespace SpikeBackend

open Text Outcome Collections

variable {lib : StandardLibrary} {ctx : Context} {order order' : SetOrder}

namespace Measure

variable {dashboardType : DashboardType} {field : DashboardInsightField}

theorem not_aggregated_of_ne {d : DashboardInsightField} (h : field ≠ dashboardType.outflowField) :
    (field, d) ∉ dashboardType.dimensionAggregations := by
  cases dashboardType <;> cases field <;> cases d <;> first | exact absurd rfl h | decide

/-- A field other than the outflow has no dimensions to observe. -/
theorem observeDimensions_of_ne (h : field ≠ dashboardType.outflowField) (period : Str)
    (numeric : ℚ) (entries : List (DashboardInsightField × Str)) (s : Measure × Nat) :
    entries.foldlM (observeDimension ctx dashboardType field period numeric) s = .ok s := by
  induction entries with
  | nil => rfl
  | cons entry entries ih =>
    have hStep : observeDimension ctx dashboardType field period numeric s entry = .ok s := by
      unfold observeDimension
      rw [if_neg (not_aggregated_of_ne h)]
      rfl
    rw [List.foldlM_cons, hStep]
    exact ih

variable (ctx) in
/-- A measure that is not the outflow neither reads nor moves the point count. -/
theorem observe_of_ne (h : field ≠ dashboardType.outflowField) (key : DatasetKey) (period : Str)
    (dimensions : OrderedDict DashboardInsightField Str) (numeric : ℚ) (m : Measure) :
    ∃ outcome : Except DashboardInsightError Measure, ∀ points,
      m.observe ctx dashboardType field key period dimensions numeric points =
        outcome.map (·, points) := by
  -- Neither the tally nor the point in time looks at the point count.
  have hTally : ∀ m : Measure, ∃ outcome : Except DashboardInsightError Measure, ∀ points,
      tally ctx dashboardType field period dimensions numeric m points =
        outcome.map (·, points) := by
    intro m
    by_cases hPeriods : (m.addPeriod ctx period numeric).byPeriod.keys.length ≤
        dashboardInsightMaxPeriods
    · refine ⟨.ok (m.addPeriod ctx period numeric), fun points => ?_⟩
      unfold tally
      simp only [ensure, if_pos hPeriods, bind, Except.bind]
      exact observeDimensions_of_ne h period numeric _ _
    · refine ⟨.error .periodCardinalityExceeded, fun points => ?_⟩
      unfold tally
      simp only [ensure, if_neg hPeriods, bind, Except.bind]
      rfl
  have hPointInTime : ∀ m : Measure, ∃ outcome : Except DashboardInsightError Measure, ∀ points,
      observePointInTime ctx dashboardType field period dimensions numeric m points =
        outcome.map (·, points) := by
    intro m
    unfold observePointInTime
    cases hPrior : m.pointInTimeValues.get? period with
    | none => exact hTally _
    | some prior =>
      by_cases hEq : prior = numeric
      · refine ⟨.ok m, fun points => ?_⟩
        simp only [ensure, if_pos hEq, bind, Except.bind]
        rfl
      · refine ⟨.error .pointInTimeValueAmbiguous, fun points => ?_⟩
        simp only [ensure, if_neg hEq, bind, Except.bind]
        rfl
  have hNotOutflow : field = dashboardType.outflowField →
      ∀ d ∈ dashboardType.outflowDimensions, dimensions.contains d = true := fun hEq => absurd hEq h
  unfold observe
  -- Another dataset in the same period is refused whatever the count.
  by_cases hDataset : (m.periodDataset.get? period).all (· = key) = true
  · simp only [ensure, if_pos hDataset, if_pos hNotOutflow, bind, Except.bind]
    by_cases hAdditive : field ∈ DashboardInsightField.nonAdditiveFields
    · simp only [if_pos hAdditive]
      exact hPointInTime _
    · simp only [if_neg hAdditive]
      exact hTally _
  · refine ⟨.error .measurePeriodOverlap, fun points => ?_⟩
    simp only [ensure, if_neg hDataset, bind, Except.bind]
    rfl

end Measure

namespace DashboardInsightAccumulator

variable {row : RowReading} {field field' : DashboardInsightField}

/-- The accumulator after the step of one field: its measure, and the point count. -/
def withMeasure (s : DashboardInsightAccumulator × Bool) (field : DashboardInsightField)
    (m : Measure) (points : Nat) : DashboardInsightAccumulator × Bool :=
  ({ s.1 with
    measures := Function.update s.1.measures field m
    periodDimensionPointCount := points }, true)

/-- What the step of a field answers: an error, nothing to do, or the field's measure and the
point count. It is a function of the field's measure, the point count and the type. -/
def numericOutcome (lib : StandardLibrary) (ctx : Context) (row : RowReading)
    (dashboardType : DashboardType) (field : DashboardInsightField) (m : Measure) (points : Nat) :
    Except DashboardInsightError (Option (Measure × Nat)) :=
  match row.filled field with
  | none => pure none
  | some value => do
    let numeric ← required (strictDecimal lib (field ∈ DashboardInsightField.currencyFields)
      (field ∈ DashboardInsightField.percentFields) value) .numericValueInvalid
    let period ← required row.period .periodValueMissing
    let outcome ← m.observe ctx dashboardType field row.key period row.dimensions numeric points
    pure (some outcome)

/-- Observing a field in terms of its outcome. -/
theorem observeNumeric_eq (s : DashboardInsightAccumulator × Bool) :
    observeNumeric lib ctx row s field =
      (numericOutcome lib ctx row s.1.dashboardType field (s.1.measures field)
        s.1.periodDimensionPointCount).map fun outcome =>
          outcome.elim s fun r => withMeasure s field r.1 r.2 := by
  unfold observeNumeric numericOutcome
  -- Empty, unreadable, without a period, or observed.
  cases row.filled field with
  | none => rfl
  | some value =>
    simp only [bind, Except.bind]
    cases required (strictDecimal lib (field ∈ DashboardInsightField.currencyFields)
      (field ∈ DashboardInsightField.percentFields) value)
      DashboardInsightError.numericValueInvalid with
    | error e => rfl
    | ok numeric =>
      simp only
      cases required row.period DashboardInsightError.periodValueMissing with
      | error e => rfl
      | ok period =>
        simp only
        cases (s.1.measures field).observe ctx s.1.dashboardType field row.key period
          row.dimensions numeric s.1.periodDimensionPointCount <;> rfl

variable (lib ctx row) in
/-- The step of a measure that is not the outflow does not read the point count. -/
theorem numericOutcome_of_ne {dashboardType : DashboardType}
    (h : field ≠ dashboardType.outflowField) (m : Measure) :
    ∃ outcome : Except DashboardInsightError (Option Measure), ∀ points,
      numericOutcome lib ctx row dashboardType field m points =
        outcome.map fun o => o.map (·, points) := by
  unfold numericOutcome
  cases row.filled field with
  | none => exact ⟨.ok none, fun points => rfl⟩
  | some value =>
    simp only [bind, Except.bind]
    cases required (strictDecimal lib (field ∈ DashboardInsightField.currencyFields)
      (field ∈ DashboardInsightField.percentFields) value)
      DashboardInsightError.numericValueInvalid with
    | error e => exact ⟨.error e, fun points => rfl⟩
    | ok numeric =>
      -- The row alone decides up to here.
      cases required row.period DashboardInsightError.periodValueMissing with
      | error e => exact ⟨.error e, fun points => rfl⟩
      | ok period =>
        obtain ⟨outcome, hOutcome⟩ :=
          Measure.observe_of_ne ctx h row.key period row.dimensions numeric m
        refine ⟨outcome.map some, fun points => ?_⟩
        simp only [hOutcome]
        cases outcome <;> rfl

section Steps

variable {s : DashboardInsightAccumulator × Bool}

/-- A field that is refused refuses the row. -/
theorem observeNumeric_of_error {e : DashboardInsightError}
    (h : numericOutcome lib ctx row s.1.dashboardType field (s.1.measures field)
      s.1.periodDimensionPointCount = .error e) :
    observeNumeric lib ctx row s field = .error e := by
  rw [observeNumeric_eq, h]
  rfl

/-- An empty field changes nothing. -/
theorem observeNumeric_of_none
    (h : numericOutcome lib ctx row s.1.dashboardType field (s.1.measures field)
      s.1.periodDimensionPointCount = .ok none) :
    observeNumeric lib ctx row s field = .ok s := by
  rw [observeNumeric_eq, h]
  rfl

/-- A filled field replaces its measure and the point count. -/
theorem observeNumeric_of_some {r : Measure × Nat}
    (h : numericOutcome lib ctx row s.1.dashboardType field (s.1.measures field)
      s.1.periodDimensionPointCount = .ok (some r)) :
    observeNumeric lib ctx row s field = .ok (withMeasure s field r.1 r.2) := by
  rw [observeNumeric_eq, h]
  rfl

/-- The step of a measure that is not the outflow commutes with any other one: neither reads what
the other writes. -/
theorem observeNumeric_comm_of_ne (hne : field ≠ field')
    (h : field ≠ s.1.dashboardType.outflowField) :
    (observeNumeric lib ctx row s field >>= (observeNumeric lib ctx row · field')).toOption =
      (observeNumeric lib ctx row s field' >>= (observeNumeric lib ctx row · field)).toOption := by
  obtain ⟨outcome, hOutcome⟩ := numericOutcome_of_ne lib ctx row h (s.1.measures field)
  have hHere := hOutcome s.1.periodDimensionPointCount
  -- the other step, from here and after the first one
  have hKept : ∀ m, (withMeasure s field m s.1.periodDimensionPointCount).1.measures field' =
      s.1.measures field' := fun m => Function.update_of_ne (Ne.symm hne) _ _
  -- this step, after the other one
  have hKept' : ∀ m points, (withMeasure s field' m points).1.measures field =
      s.1.measures field := fun m points => Function.update_of_ne hne _ _
  have hAfter : ∀ m points, numericOutcome lib ctx row
      (withMeasure s field' m points).1.dashboardType field
      ((withMeasure s field' m points).1.measures field)
      (withMeasure s field' m points).1.periodDimensionPointCount =
        outcome.map fun o => o.map (·, points) := by
    intro m points
    rw [hKept']
    exact hOutcome points
  cases hOther : numericOutcome lib ctx row s.1.dashboardType field' (s.1.measures field')
    s.1.periodDimensionPointCount with
  | error e' =>
    rw [observeNumeric_of_error hOther]
    cases outcome with
    | error e =>
      rw [observeNumeric_of_error hHere]
      rfl
    | ok o =>
      cases o with
      | none =>
        rw [observeNumeric_of_none hHere]
        show (observeNumeric lib ctx row s field').toOption = none
        rw [observeNumeric_of_error hOther]
        rfl
      | some m =>
        rw [observeNumeric_of_some hHere]
        show (observeNumeric lib ctx row (withMeasure s field m _) field').toOption = none
        rw [observeNumeric_of_error (by rw [hKept]; exact hOther)]
        rfl
  | ok o' =>
    cases o' with
    | none =>
      rw [observeNumeric_of_none hOther]
      cases outcome with
      | error e =>
        show _ = (observeNumeric lib ctx row s field).toOption
        rw [observeNumeric_of_error hHere]
        rfl
      | ok o =>
        cases o with
        | none =>
          show _ = (observeNumeric lib ctx row s field).toOption
          rw [observeNumeric_of_none hHere]
          show (observeNumeric lib ctx row s field').toOption = _
          rw [observeNumeric_of_none hOther]
        | some m =>
          show _ = (observeNumeric lib ctx row s field).toOption
          rw [observeNumeric_of_some hHere]
          show (observeNumeric lib ctx row (withMeasure s field m _) field').toOption = _
          rw [observeNumeric_of_none (by rw [hKept]; exact hOther)]
    | some r =>
      have hAfterOther := hAfter r.1 r.2
      rw [observeNumeric_of_some hOther]
      show _ = (observeNumeric lib ctx row (withMeasure s field' r.1 r.2) field).toOption
      cases outcome with
      | error e =>
        rw [observeNumeric_of_error hHere, observeNumeric_of_error hAfterOther]
        rfl
      | ok o =>
        cases o with
        | none =>
          rw [observeNumeric_of_none hHere, observeNumeric_of_none hAfterOther]
          show (observeNumeric lib ctx row s field').toOption = _
          rw [observeNumeric_of_some hOther]
        | some m =>
          have hComm : Function.update (Function.update s.1.measures field m) field' r.1 =
              Function.update (Function.update s.1.measures field' r.1) field m :=
            Function.update_comm hne _ _ _
          rw [observeNumeric_of_some hHere, observeNumeric_of_some hAfterOther]
          show (observeNumeric lib ctx row (withMeasure s field m _) field').toOption = _
          rw [observeNumeric_of_some (by rw [hKept]; exact hOther)]
          show some (({ s.1 with
            measures := Function.update (Function.update s.1.measures field m) field' r.1
            periodDimensionPointCount := r.2 } : DashboardInsightAccumulator), true) = some _
          rw [hComm]
          rfl

/-- The steps of two fields commute: at most one of them is the outflow's. -/
theorem observeNumeric_comm (s : DashboardInsightAccumulator × Bool)
    (field field' : DashboardInsightField) :
    (observeNumeric lib ctx row s field >>= (observeNumeric lib ctx row · field')).toOption =
      (observeNumeric lib ctx row s field' >>= (observeNumeric lib ctx row · field)).toOption := by
  by_cases hne : field = field'
  · rw [hne]
  · by_cases hOutflow : field = s.1.dashboardType.outflowField
    · have hOther : field' ≠ s.1.dashboardType.outflowField := by
        rw [← hOutflow]
        exact Ne.symm hne
      exact (observeNumeric_comm_of_ne (Ne.symm hne) hOther).symm
    · exact observeNumeric_comm_of_ne hne hOutflow

end Steps

/-- **The order of the numeric fields** is not seen by an observation. -/
theorem observe_order (acc : DashboardInsightAccumulator) (row : InsightRow) :
    (acc.observe lib ctx order row).toOption = (acc.observe lib ctx order' row).toOption := by
  unfold observe
  cases acc.mappings.get? row.key with
  | none => rfl
  | some mapping =>
    show Except.toOption (_ >>= _) = Except.toOption (_ >>= _)
    -- The first part of the row does not depend on the order.
    rw [toOption_bind, toOption_bind]
    congr 1
    funext ⟨acc₁, reading⟩
    show Except.toOption (_ >>= _) = Except.toOption (_ >>= _)
    rw [toOption_bind, toOption_bind]
    congr 1
    -- Two numeric fields commute, so their order does not matter.
    exact foldlM_toOption_perm (order.numericFields_perm.trans order'.numericFields_perm.symm)
      observeNumeric_comm (acc₁, false)

theorem observeAll_order (acc : DashboardInsightAccumulator) (rows : List InsightRow) :
    (acc.observeAll lib ctx order rows).toOption = (acc.observeAll lib ctx order' rows).toOption :=
  foldlM_toOption_congr (fun acc row => observe_order acc row) acc

end DashboardInsightAccumulator

/-- Outcomes that agree up to the error that they raise are one outcome for the service. -/
theorem artifactError_congr {α : Type} {x y : Except DashboardInsightError α}
    (h : x.toOption = y.toOption) : artifactError x = artifactError y := by
  cases x with
  | error e =>
    cases y with
    | error e' => rfl
    | ok b => cases h
  | ok a =>
    cases y with
    | error e' => cases h
    | ok b =>
      cases h
      rfl

/-- The artifacts and the accumulator of the sources are the same in every process. -/
theorem observeSources_order (reader : InsightReader) (dashboardType : DashboardType)
    (configuration : DashboardInsightConfiguration) (jobs : List SourceJob) :
    observeSources lib ctx order reader dashboardType configuration jobs =
      observeSources lib ctx order' reader dashboardType configuration jobs := by
  unfold observeSources
  congr 1
  funext s job
  unfold observeSource
  congr 1
  funext source
  congr 1
  funext acc
  rw [artifactError_congr (DashboardInsightAccumulator.observeAll_order acc source.rows)]

end SpikeBackend
