import Mathlib.Data.List.Dedup
import Mathlib.Data.Prod.Lex
import Mathlib.Logic.Function.Basic
import SpikeBackend.Lib.Decimals
import SpikeBackend.Lib.OrderedDict
import SpikeBackend.Model.Dashboards

/-!
# Dashboard insights: what the accumulators observe

The fields of a dashboard's insight (`app/models/dashboard.py`, `app/schemas/dashboard.py`)
and `DashboardInsightAccumulator` up to its rendering (`app/services/dashboard_insights.py`).

The dicts that are keyed by a field are functions of the field, and what several of them hold
of one measure stands in one `Measure`. Additions round as a context says; the code's context
has 80 digits.
-/

namespace SpikeBackend

open Text Outcome Collections

def dashboardInsightMaxPeriods : Nat := 600

def dashboardInsightMaxDimensionValues : Nat := 1000

def dashboardInsightMaxStatusUpdates : Nat := 200

def dashboardInsightMaxPeriodDimensionPoints : Nat := 20000

def dashboardInsightMaxLabelLength : Nat := 255

def dashboardInsightMaxStatusDetailLength : Nat := 2000

def dashboardInsightDecimalPrecision : Nat := 80

-- ---------------------------------------------------------------------------
-- Fields
-- ---------------------------------------------------------------------------

inductive DashboardInsightField
  | period
  | location
  | expenses
  | revenue
  | netCash
  | category
  | grossMargin
  | spend
  | cashBalance
  | budget
  | department
  | vendor
  | statusTitle
  | statusDetail
  | status
  | progress
  deriving DecidableEq, Repr

namespace DashboardInsightField

def value : DashboardInsightField → Str
  | period => str "period"
  | location => str "location"
  | expenses => str "expenses"
  | revenue => str "revenue"
  | netCash => str "net_cash"
  | category => str "category"
  | grossMargin => str "gross_margin"
  | spend => str "spend"
  | cashBalance => str "cash_balance"
  | budget => str "budget"
  | department => str "department"
  | vendor => str "vendor"
  | statusTitle => str "status_title"
  | statusDetail => str "status_detail"
  | status => str "status"
  | progress => str "progress"

/-- `_NUMERIC_FIELDS`, a frozenset. -/
def numericFields : List DashboardInsightField :=
  [expenses, revenue, netCash, grossMargin, spend, cashBalance, budget]

/-- `_CURRENCY_FIELDS`. -/
def currencyFields : List DashboardInsightField :=
  [expenses, revenue, netCash, spend, cashBalance, budget]

/-- `_PERCENT_FIELDS`. -/
def percentFields : List DashboardInsightField := [grossMargin, progress]

/-- `_NON_ADDITIVE_FIELDS`. -/
def nonAdditiveFields : List DashboardInsightField := [netCash, cashBalance, grossMargin]

/-- `_DIMENSION_FIELDS`. -/
def dimensionFields : List DashboardInsightField := [location, category, department, vendor]

end DashboardInsightField

namespace DashboardType

open DashboardInsightField

/-- `DASHBOARD_INSIGHT_FIELDS`. -/
def insightFields : DashboardType → List DashboardInsightField
  | executiveSummary => [period, location, expenses, revenue, netCash, category, grossMargin]
  | financialPerformance => [period, location, revenue, spend, cashBalance, budget, category]
  | operationalKpi =>
    [period, department, vendor, expenses, statusTitle, statusDetail, status, progress]

/-- `DASHBOARD_REQUIRED_INSIGHT_FIELDS`. -/
def requiredInsightFields : DashboardType → List DashboardInsightField
  | executiveSummary => executiveSummary.insightFields
  | financialPerformance => financialPerformance.insightFields
  | operationalKpi => [period, department, vendor, expenses]

/-- `DASHBOARD_REQUIRED_DATASET_FIELD_GROUPS`. -/
def requiredDatasetFieldGroups : DashboardType → List (List DashboardInsightField)
  | executiveSummary => [[period, expenses, category, location]]
  | financialPerformance => [[period, spend, category, location]]
  | operationalKpi => [[period, expenses, department, vendor]]

/-- The measure of `DASHBOARD_OUTFLOW_DIMENSIONS`. -/
def outflowField : DashboardType → DashboardInsightField
  | executiveSummary => expenses
  | financialPerformance => spend
  | operationalKpi => expenses

/-- The dimensions of `DASHBOARD_OUTFLOW_DIMENSIONS`. -/
def outflowDimensions : DashboardType → List DashboardInsightField
  | executiveSummary => [category, location]
  | financialPerformance => [category, location]
  | operationalKpi => [department, vendor]

/-- `_DIMENSION_AGGREGATIONS`. -/
def dimensionAggregations : DashboardType → List (DashboardInsightField × DashboardInsightField)
  | executiveSummary => [(expenses, category), (expenses, location)]
  | financialPerformance => [(spend, category), (spend, location)]
  | operationalKpi => [(expenses, department), (expenses, vendor)]

/-- `_REQUIRED_NUMERIC_FIELDS`. -/
def requiredNumericFields : DashboardType → List DashboardInsightField
  | executiveSummary => [expenses, revenue, netCash, grossMargin]
  | financialPerformance => [revenue, spend, cashBalance, budget]
  | operationalKpi => [expenses]

end DashboardType

-- ---------------------------------------------------------------------------
-- Configuration
-- ---------------------------------------------------------------------------

inductive DashboardGoal
  | improveCashFlow
  | increaseProfitability
  | reduceExpenses
  | growRevenue
  | improveCollectionsAr
  | stayOnBudget
  | improveForecasting
  | benchmarkAgainstPeers
  | improveOperationalEfficiency
  deriving DecidableEq, Repr

/-- The key of `_mappings`: one sheet of one report. -/
structure DatasetKey where
  processingJobId : Uuid
  sheetIndex : Int
  sheetName : Str
  deriving DecidableEq, Repr

structure DashboardInsightDatasetMapping where
  key : DatasetKey
  columns : OrderedDict DashboardInsightField Str

def maxDashboardSourceColumnLength : Nat := 300

/-- The body of the loop of `normalize_columns`, over the columns that it has normalized and the
folded names that it has used. -/
def normalizeColumn (casefold : Str → Str)
    (state : OrderedDict DashboardInsightField Str × List Str)
    (entry : DashboardInsightField × Str) :
    Except Str (OrderedDict DashboardInsightField Str × List Str) := do
  let cleaned := strip entry.2
  ensure (1 ≤ cleaned.length ∧ cleaned.length ≤ maxDashboardSourceColumnLength)
    (str "Mapped source column name is invalid.")
  let folded := casefold cleaned
  ensure (folded ∉ state.2)
    (str "A source column cannot be mapped to multiple dashboard fields.")
  return (state.1.set entry.1 cleaned, folded :: state.2)

/-- `normalize_columns`; an error is the text of a `ValueError`. -/
def normalizeColumns (casefold : Str → Str) (value : OrderedDict DashboardInsightField Str) :
    Except Str (OrderedDict DashboardInsightField Str) := do
  let (normalized, _) ← value.entries.foldlM (normalizeColumn casefold) (∅, [])
  return normalized

structure DashboardInsightConfiguration where
  goals : List DashboardGoal
  datasets : List DashboardInsightDatasetMapping

/-- `_mappings`. -/
def DashboardInsightConfiguration.mappings (configuration : DashboardInsightConfiguration) :
    OrderedDict DatasetKey (OrderedDict DashboardInsightField Str) :=
  .ofList (configuration.datasets.map fun dataset => (dataset.key, dataset.columns))

/-- `validate_insight_configuration_for_type`; its messages reach no caller of the model. -/
def validateInsightConfigurationForType (dashboardType : DashboardType)
    (configuration : DashboardInsightConfiguration) : Bool :=
  let mapped := configuration.datasets.flatMap fun dataset => dataset.columns.keys
  let outflow := dashboardType.outflowField
  let outflowFields := .period :: outflow :: dashboardType.outflowDimensions
  mapped.all (· ∈ dashboardType.insightFields) &&
    dashboardType.requiredInsightFields.all (· ∈ mapped) &&
    configuration.datasets.all (fun dataset =>
      let fields := dataset.columns.keys
      (!(fields.any fun field =>
          decide (field ∈ DashboardInsightField.progress :: DashboardInsightField.numericFields)) ||
        decide (.period ∈ fields)) &&
      (!(decide (outflow ∈ fields)) || outflowFields.all (· ∈ fields))) &&
    dashboardType.requiredDatasetFieldGroups.all fun group =>
      configuration.datasets.any fun dataset => group.all (· ∈ dataset.columns.keys)

-- ---------------------------------------------------------------------------
-- Cells
-- ---------------------------------------------------------------------------

/-- A `DashboardInsightDataError`, by its code, or the `KeyError` of a row without the column. -/
inductive DashboardInsightError
  | profileInvalid
  | sourceColumnNotFound
  | sourceSheetNotFound
  | dimensionCardinalityExceeded
  | periodCardinalityExceeded
  | numericValueInvalid
  | periodValueMissing
  | measurePeriodOverlap
  | requiredDimensionValueMissing
  | pointInTimeValueAmbiguous
  | seriesCardinalityExceeded
  | statusUpdateLimitExceeded
  | textValueTooLarge
  | requiredNumericValuesMissing
  | periodCoverageMismatch
  | rowsNotFound
  | keyError
  deriving DecidableEq, Repr

/-- What `datetime.fromisoformat` and `datetime.strptime` answer, as far as it is read. -/
structure Moment where
  year : Nat
  month : Nat
  day : Nat
  hour : Nat
  minute : Nat
  deriving DecidableEq, Repr

/-- What the calculation calls of the standard library: the text of a value that is no string,
integer or `bool`, the decimal of a float's text, case folding and the two readers of dates. -/
structure StandardLibrary where
  textOf : Json → Str
  decimalOfFloat : ℚ → ℚ
  casefold : Str → Str
  fromisoformat : Str → Option Moment
  strptime : Str → Str → Option Moment

/-- `_CURRENCY_SYMBOLS`. -/
def currencySymbols : Str := str "$£€¥৳₹"

variable (lib : StandardLibrary)

/-- The text of `_strict_decimal` without its sign and symbols; `none` where the function
answers `None`. -/
def decimalCandidate (allowCurrency allowPercent : Bool) (candidate : Str) : Option Str := do
  let candidate ← if candidate.getLast? = (str "%").head? then
      if allowPercent then some (strip candidate.dropLast) else none
    else some candidate
  let candidate ← if candidate.head?.any (· ∈ currencySymbols) then
      if allowCurrency then some (strip candidate.tail) else none
    else some candidate
  let candidate ← if candidate.getLast?.any (· ∈ currencySymbols) then
      if allowCurrency then some (strip candidate.dropLast) else none
    else some candidate
  some (candidate.filter (·.val != 0x20))

/-- `_strict_decimal`. -/
def strictDecimal (allowCurrency allowPercent : Bool) : Json → Option ℚ
  | .int n => some n
  | .float x => some (lib.decimalOfFloat x)
  | .str s => do
    let candidate := (strip s).map fun c => if c.val = 0x2212 then 0x2D else c
    let negativeParentheses :=
      decide (candidate.head? = (str "(").head?) && decide (candidate.getLast? = (str ")").head?)
    let candidate := if negativeParentheses then strip candidate.tail.dropLast else candidate
    let candidate ← decimalCandidate allowCurrency allowPercent candidate
    let candidate ← if candidate.any (·.val == 0x2C) then
        if (decimalParts candidate).isGrouped then some (candidate.filter (·.val != 0x2C)) else none
      else some candidate
    let candidate ← if negativeParentheses then
        if candidate.head? = (str "+").head? ∨ candidate.head? = (str "-").head? then none
        else some (str "-" ++ candidate)
      else some candidate
    if (decimalParts candidate).isStrict then some (decimalParts candidate).value else none
  | _ => none

/-- `_label`. -/
def label (value : Json) (maximum : Nat := dashboardInsightMaxLabelLength) :
    Except DashboardInsightError (Option Str) :=
  let rendered : Str := match value with
    | .null => []
    | .bool b => str (if b then "true" else "false")
    | .int n => intText n
    | .str s => strip (joinWords (splitWords [] s))
    | v => strip (joinWords (splitWords [] (lib.textOf v)))
  if rendered.isEmpty then pure none
  else if maximum < rendered.length then throw .textValueTooLarge
  else pure (some rendered)

-- ---------------------------------------------------------------------------
-- Periods
-- ---------------------------------------------------------------------------

/-- The patterns that `_period_sort_key` tries. -/
def periodPatterns : List Str :=
  [str "%Y-%m", str "%b-%y", str "%b %Y", str "%B %Y", str "%b", str "%B", str "%Y"]

/-- A tuple of `_period_sort_key`: its kind, a date, a number or a text. -/
abbrev PeriodKey := Nat ×ₗ List Nat ×ₗ ℚ ×ₗ Str

def PeriodKey.mk (kind : Nat) (date : List Nat) (number : ℚ) (text : Str) : PeriodKey :=
  toLex (kind, toLex (date, toLex (number, text)))

/-- `_period_sort_key`. -/
def periodSortKey (value : Str) : PeriodKey :=
  let candidate := strip value
  match lib.fromisoformat (replaceChar 0x5A (str "+00:00") candidate) with
  | some m => .mk 0 [m.year, m.month, m.day, m.hour, m.minute] 0 []
  | none =>
    match periodPatterns.findSome? fun pattern => (lib.strptime candidate pattern).map (pattern, ·) with
    | some (pattern, m) =>
      let hasYear := pattern.any fun c => c.val == 0x59 || c.val == 0x79
      .mk 0 [if hasYear then m.year else 0, m.month, m.day, 0, 0] 0 []
    | none =>
      match strictDecimal lib false false (.str candidate) with
      | some numeric => .mk 1 [] numeric []
      | none => .mk 2 [] 0 (lib.casefold candidate)

-- ---------------------------------------------------------------------------
-- Accumulators
-- ---------------------------------------------------------------------------

/-- `_NumericStats`. -/
structure NumericStats where
  count : Nat := 0
  total : ℚ := 0
  minimum : Option ℚ := none
  maximum : Option ℚ := none

def NumericStats.observe (ctx : Context) (stats : NumericStats) (value : ℚ) : NumericStats where
  count := stats.count + 1
  total := ctx.add stats.total value
  minimum := some (stats.minimum.elim value (min · value))
  maximum := some (stats.maximum.elim value (max · value))

/-- The property `average`. -/
def NumericStats.average (ctx : Context) (stats : NumericStats) : Option ℚ :=
  if stats.count = 0 then none else some (ctx.div stats.total stats.count)

/-- `values[key] = values.get(key, Decimal(0)) + value`. -/
def accumulate (ctx : Context) (values : OrderedDict Str ℚ) (key : Str) (value : ℚ) :
    OrderedDict Str ℚ :=
  values.set key (ctx.add (values.getD key 0) value)

/-- What the accumulator's dicts hold of one measure. -/
structure Measure where
  totals : Option NumericStats := none
  byPeriod : OrderedDict Str ℚ := ∅
  byDimension : DashboardInsightField → OrderedDict Str ℚ := fun _ => ∅
  byPeriodDimension : DashboardInsightField → OrderedDict Str (OrderedDict Str ℚ) := fun _ => ∅
  pointInTimeValues : OrderedDict Str ℚ := ∅
  periodDataset : OrderedDict Str DatasetKey := ∅

namespace Measure

/-- `_average`. -/
def average (ctx : Context) (m : Measure) : Option ℚ := m.totals.bind (·.average ctx)

variable (ctx : Context) (dashboardType : DashboardType) (field : DashboardInsightField)

/-- The amount goes to one value of a dimension. -/
def addDimension (m : Measure) (period : Str) (numeric : ℚ) (dimension : DashboardInsightField)
    (value : Str) : Measure :=
  let periodDimensions := m.byPeriodDimension dimension
  let periodValues := periodDimensions.getD period ∅
  { m with
    byDimension := Function.update m.byDimension dimension
      (accumulate ctx (m.byDimension dimension) value numeric)
    byPeriodDimension := Function.update m.byPeriodDimension dimension
      (periodDimensions.set period (accumulate ctx periodValues value numeric)) }

/-- The body of the loop over the row's dimensions; `points` is
`_period_dimension_point_count`. -/
def observeDimension (period : Str) (numeric : ℚ) (s : Measure × Nat)
    (entry : DashboardInsightField × Str) : Except DashboardInsightError (Measure × Nat) :=
  if (field, entry.1) ∈ dashboardType.dimensionAggregations then do
    let known := ((s.1.byPeriodDimension entry.1).getD period ∅).contains entry.2
    ensure (known = true ∨ s.2 + 1 ≤ dashboardInsightMaxPeriodDimensionPoints)
      .seriesCardinalityExceeded
    pure (s.1.addDimension ctx period numeric entry.1 entry.2, if known then s.2 else s.2 + 1)
  else pure s

/-- The total and `_observe_period_value`. -/
def addPeriod (m : Measure) (period : Str) (numeric : ℚ) : Measure :=
  { m with
    totals := some ((m.totals.getD {}).observe ctx numeric)
    byPeriod := accumulate ctx m.byPeriod period numeric }

/-- The amount goes to the total, to its period and to the row's dimensions. -/
def tally (period : Str) (dimensions : OrderedDict DashboardInsightField Str) (numeric : ℚ)
    (m : Measure) (points : Nat) : Except DashboardInsightError (Measure × Nat) := do
  let m := m.addPeriod ctx period numeric
  ensure (m.byPeriod.keys.length ≤ dashboardInsightMaxPeriods) .periodCardinalityExceeded
  dimensions.entries.foldlM (observeDimension ctx dashboardType field period numeric) (m, points)

/-- The value of a measure at a point in time: a repeat adds nothing. -/
def observePointInTime (period : Str) (dimensions : OrderedDict DashboardInsightField Str)
    (numeric : ℚ) (m : Measure) (points : Nat) :
    Except DashboardInsightError (Measure × Nat) :=
  match m.pointInTimeValues.get? period with
  | some prior => do
    ensure (prior = numeric) .pointInTimeValueAmbiguous
    pure (m, points)
  | none =>
    tally ctx dashboardType field period dimensions numeric
      { m with pointInTimeValues := m.pointInTimeValues.set period numeric } points

/-- The body of the loop over the numeric fields, from the number on. -/
def observe (key : DatasetKey) (period : Str) (dimensions : OrderedDict DashboardInsightField Str)
    (numeric : ℚ) (m : Measure) (points : Nat) :
    Except DashboardInsightError (Measure × Nat) := do
  ensure ((m.periodDataset.get? period).all (· = key) = true) .measurePeriodOverlap
  ensure (field = dashboardType.outflowField →
    ∀ d ∈ dashboardType.outflowDimensions, dimensions.contains d = true)
    .requiredDimensionValueMissing
  if field ∈ DashboardInsightField.nonAdditiveFields then
    observePointInTime ctx dashboardType field period dimensions numeric
      { m with periodDataset := m.periodDataset.set period key } points
  else
    tally ctx dashboardType field period dimensions numeric
      { m with periodDataset := m.periodDataset.set period key } points

end Measure

/-- An entry of `_status_updates`. -/
structure StatusUpdate where
  period : Option Str
  title : Option Str
  detail : Option Str
  status : Option Str
  progressDecimal : Option Str

structure DashboardInsightAccumulator where
  dashboardType : DashboardType
  configuration : DashboardInsightConfiguration
  mappings : OrderedDict DatasetKey (OrderedDict DashboardInsightField Str)
  validatedMappings : List DatasetKey := []
  measures : DashboardInsightField → Measure := fun _ => {}
  uniqueValues : DashboardInsightField → List Str := fun _ => []
  statusUpdates : List StatusUpdate := []
  periodDimensionPointCount : Nat := 0
  mappedRowCount : Nat := 0

/-- A row of the normalised artifact: `values` by its columns' names. -/
structure InsightRow where
  key : DatasetKey
  values : Dict

/-- `semantic`: what the row says of a field, where it is mapped. -/
def InsightRow.semantic (row : InsightRow) (mapping : OrderedDict DashboardInsightField Str)
    (field : DashboardInsightField) : Option Json :=
  (mapping.get? field).bind fun column => row.values.lookup column

/-- The orders in which a process iterates its sets, whose hashes are seeded: the frozenset of
the numeric fields, and a set of strings that is built in some order. -/
structure SetOrder where
  numericFields : List DashboardInsightField
  numericFields_perm : numericFields.Perm DashboardInsightField.numericFields
  strings : List Str → List Str
  strings_perm : ∀ l, (strings l).Perm l.dedup

/-- What a row says of the fields: `semantic`, `period` and `dimensions`. -/
structure RowReading where
  key : DatasetKey
  semantic : DashboardInsightField → Option Json
  period : Option Str
  dimensions : OrderedDict DashboardInsightField Str

/-- The value of a field, if it is mapped and not `None`. -/
def RowReading.filled (row : RowReading) (field : DashboardInsightField) : Option Json :=
  (row.semantic field).filter (!·.isNull)

namespace DashboardInsightAccumulator

/-- `__init__`. -/
def init (dashboardType : DashboardType) (configuration : DashboardInsightConfiguration) :
    DashboardInsightAccumulator where
  dashboardType := dashboardType
  configuration := configuration
  mappings := configuration.mappings

variable (ctx : Context) (order : SetOrder) (acc : DashboardInsightAccumulator)

/-- `_observe_unique`. -/
def observeUnique (field : DashboardInsightField) (value : Str) :
    Except DashboardInsightError DashboardInsightAccumulator := do
  let values := acc.uniqueValues field
  let values := if value ∈ values then values else values ++ [value]
  ensure (values.length ≤ dashboardInsightMaxDimensionValues) .dimensionCardinalityExceeded
  pure { acc with uniqueValues := Function.update acc.uniqueValues field values }

/-- The body of the loop over the dimension fields. -/
def readDimension (semantic : DashboardInsightField → Option Json)
    (s : DashboardInsightAccumulator × OrderedDict DashboardInsightField Str)
    (field : DashboardInsightField) : Except DashboardInsightError
      (DashboardInsightAccumulator × OrderedDict DashboardInsightField Str) :=
  match semantic field with
  | none => pure s
  | some value => do
    match ← label lib value with
    | none => pure s
    | some rendered =>
      let acc ← s.1.observeUnique field rendered
      pure (acc, s.2.set field rendered)

/-- The body of the loop over the numeric fields; the flag is `observed_numeric`. -/
def observeNumeric (row : RowReading) (s : DashboardInsightAccumulator × Bool)
    (field : DashboardInsightField) :
    Except DashboardInsightError (DashboardInsightAccumulator × Bool) :=
  match row.filled field with
  | none => pure s
  | some value => do
    let numeric ← required (strictDecimal lib (field ∈ DashboardInsightField.currencyFields)
      (field ∈ DashboardInsightField.percentFields) value) .numericValueInvalid
    let period ← required row.period .periodValueMissing
    let (m, points) ← (s.1.measures field).observe ctx s.1.dashboardType field row.key period
      row.dimensions numeric s.1.periodDimensionPointCount
    pure ({ s.1 with
      measures := Function.update s.1.measures field m
      periodDimensionPointCount := points }, true)

/-- The progress of a status update. -/
def readProgress (row : RowReading) : Except DashboardInsightError (Option ℚ) :=
  match row.filled .progress with
  | none => pure none
  | some value => do
    let progress ← required (strictDecimal lib false true value) .numericValueInvalid
    pure (some progress)

/-- The status update of a row, where it has one. -/
def observeStatus (row : RowReading) : Except DashboardInsightError DashboardInsightAccumulator :=
  if [DashboardInsightField.statusTitle, .statusDetail, .status, .progress].any
      fun field => (row.filled field).isSome then do
    ensure (acc.statusUpdates.length < dashboardInsightMaxStatusUpdates) .statusUpdateLimitExceeded
    let progress ← readProgress lib row
    let title ← label lib ((row.semantic .statusTitle).getD .null)
    let detail ← label lib ((row.semantic .statusDetail).getD .null)
      dashboardInsightMaxStatusDetailLength
    let status ← label lib ((row.semantic .status).getD .null)
    pure { acc with
      statusUpdates := acc.statusUpdates ++
        [⟨row.period, title, detail, status, progress.map decimalText⟩] }
  else pure acc

/-- What `observe` reads of a row that is mapped, and the accumulator with its dimensions. -/
def readRow (mapping : OrderedDict DashboardInsightField Str) (row : InsightRow) :
    Except DashboardInsightError (DashboardInsightAccumulator × RowReading) := do
  ensure ((mapping.values.all row.values.contains) = true) .keyError
  let period ← label lib ((row.semantic mapping .period).getD .null)
  let (acc, dimensions) ← DashboardInsightField.dimensionFields.foldlM
    (readDimension lib (row.semantic mapping)) (acc, ∅)
  pure (acc, ⟨row.key, row.semantic mapping, period, dimensions⟩)

/-- `observe`. -/
def observe (row : InsightRow) : Except DashboardInsightError DashboardInsightAccumulator :=
  match acc.mappings.get? row.key with
  | none => pure acc
  | some mapping => do
    let (acc, reading) ← acc.readRow lib mapping row
    let (acc, observedNumeric) ← order.numericFields.foldlM (observeNumeric lib ctx reading)
      (acc, false)
    let acc := if observedNumeric then { acc with mappedRowCount := acc.mappedRowCount + 1 } else acc
    acc.observeStatus lib reading

/-- The calls of `observe` for the rows. -/
def observeAll (rows : List InsightRow) : Except DashboardInsightError DashboardInsightAccumulator :=
  rows.foldlM (observe lib ctx order) acc

end DashboardInsightAccumulator

-- ---------------------------------------------------------------------------
-- A sample
-- ---------------------------------------------------------------------------

namespace InsightSample

/-- Case folding and date patterns on what the sample's rows hold. -/
def library : StandardLibrary where
  textOf _ := []
  decimalOfFloat x := x
  casefold s := s.map fun c => if 0x41 ≤ c.val ∧ c.val ≤ 0x5A then c + 0x20 else c
  fromisoformat _ := none
  strptime s pattern :=
    if (s = str "2024-01" ∧ pattern = str "%Y-%m") ∨ (s = str "Jan 2024" ∧ pattern = str "%b %Y") then
      some ⟨2024, 1, 1, 0, 0⟩
    else if s = str "2024-02" ∧ pattern = str "%Y-%m" then some ⟨2024, 2, 1, 0, 0⟩
    else none

def context : Context := .ofPrec dashboardInsightDecimalPrecision

def order : SetOrder where
  numericFields := DashboardInsightField.numericFields
  numericFields_perm := .refl _
  strings := List.dedup
  strings_perm _ := .refl _

/-- The first sheet of a report, and the second one. -/
def dataset (sheetIndex : Nat) : DatasetKey := ⟨1, sheetIndex, str "data"⟩

/-- Each field is mapped from the column of its own name. -/
def columns (fields : List DashboardInsightField) : OrderedDict DashboardInsightField Str :=
  .ofList (fields.map fun field => (field, field.value))

/-- Both sheets map every field of the type. -/
def configuration (dashboardType : DashboardType) : DashboardInsightConfiguration where
  goals := [.reduceExpenses]
  datasets := [⟨dataset 0, columns dashboardType.insightFields⟩,
    ⟨dataset 1, columns dashboardType.insightFields⟩]

/-- A row of a sheet: the cells that are given, and `None` in the other columns. -/
def row (dashboardType : DashboardType) (sheetIndex : Nat)
    (cells : List (DashboardInsightField × Json)) : InsightRow where
  key := dataset sheetIndex
  values := dashboardType.insightFields.map fun field =>
    (field.value, (cells.find? fun cell => cell.1 = field).elim .null Prod.snd)

/-- Expenses of one department with two vendors. -/
def operationalRows : List InsightRow :=
  [row .operationalKpi 0 [(.period, .str (str "2024-01")), (.department, .str (str "Sales")),
      (.vendor, .str (str "Acme")), (.expenses, .str (str "$1,200.50"))],
    row .operationalKpi 0 [(.period, .str (str "2024-01")), (.department, .str (str "Sales")),
      (.vendor, .str (str "Brick")), (.expenses, .int 300)]]

/-- Expenses of one month from two sheets, which spell it differently. -/
def overlappingRows : List InsightRow :=
  [row .operationalKpi 0 [(.period, .str (str "2024-01")), (.department, .str (str "Sales")),
      (.vendor, .str (str "Acme")), (.expenses, .int 100)],
    row .operationalKpi 1 [(.period, .str (str "Jan 2024")), (.department, .str (str "Sales")),
      (.vendor, .str (str "Acme")), (.expenses, .int 100)]]

/-- A cash balance of one unit more than 80 digits hold. -/
def longBalance : Int := 10 ^ 80 + 1

def balanceRows : List InsightRow :=
  [row .financialPerformance 0 [(.period, .str (str "2024-01")), (.cashBalance, .int longBalance)]]

end InsightSample

end SpikeBackend
