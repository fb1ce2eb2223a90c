import SpikeBackend.Lib.StableSort
import SpikeBackend.Model.DashboardInsights
import SpikeBackend.Model.DashboardSnapshots

/-!
# Dashboard insights: what is rendered

`DashboardInsightAccumulator.render` (`app/services/dashboard_insights.py`): the metrics, series,
breakdowns, tables and signals of a dashboard type, as JSON. What iterates a set takes the
process's order of it; everything else follows the accumulator's dicts.
-/

namespace SpikeBackend

open Text Outcome Collections

def dashboardInsightConfigurationVersion : Int := 1

def dashboardInsightCalculationVersion : Int := 1

/-- A dict literal. -/
def obj (members : List (String × Json)) : Json := .obj (members.map fun m => (str m.1, m.2))

/-- A string literal. -/
def text (s : String) : Json := .str (str s)

/-- `_decimal_text`. -/
def decimalJson (value : Option ℚ) : Json := .ofStr? (value.map decimalText)

/-- `_ratio_percent`. -/
def ratioPercent (ctx : Context) (numerator denominator : ℚ) : Option ℚ :=
  if denominator = 0 then none else some (ctx.mul (ctx.div numerator denominator) 100)

/-- The values of fields, as JSON. -/
def fieldValues (fields : List DashboardInsightField) : Json :=
  .arr (fields.map fun field => .str field.value)

/-- `_FIELD_LABELS`, of the fields that a label is rendered of. -/
def DashboardInsightField.label : DashboardInsightField → Str
  | period => str "Period"
  | location => str "Location"
  | expenses => str "Expenses"
  | revenue => str "Revenue"
  | netCash => str "Cash Balance"
  | category => str "Category"
  | grossMargin => str "Gross Margin"
  | spend => str "Spend"
  | cashBalance => str "Cash Balance"
  | budget => str "Budgeted Spend"
  | department => str "Department"
  | vendor => str "Vendor"
  | statusTitle => str "Status Update"
  | statusDetail => str "Status Detail"
  | status => str "Status"
  | progress => str "Progress"

def DashboardGoal.value : DashboardGoal → Str
  | improveCashFlow => str "improve_cash_flow"
  | increaseProfitability => str "increase_profitability"
  | reduceExpenses => str "reduce_expenses"
  | growRevenue => str "grow_revenue"
  | improveCollectionsAr => str "improve_collections_ar"
  | stayOnBudget => str "stay_on_budget"
  | improveForecasting => str "improve_forecasting"
  | benchmarkAgainstPeers => str "benchmark_against_peers"
  | improveOperationalEfficiency => str "improve_operational_efficiency"

variable (lib : StandardLibrary) (ctx : Context) (order : SetOrder)

/-- `_sorted_periods`. -/
def sortedPeriods {ν : Type} (values : OrderedDict Str ν) : List Str :=
  sortBy (fun period => toLex (periodSortKey lib period, lib.casefold period)) values.keys

/-- The points of a measure, by period. -/
def periodPoints (values : OrderedDict Str ℚ) : Json :=
  .arr ((sortedPeriods lib values).map fun period =>
    obj [("label", .str period), ("value_decimal", decimalJson (values.get? period))])

/-- A row of the variance table; there is a prior value where there is a prior period. -/
structure VarianceRow where
  label : Str
  current : ℚ
  prior : Option ℚ

namespace VarianceRow

variable (row : VarianceRow)

def variance : Option ℚ := row.prior.map (ctx.sub row.current)

/-- `variance_percent_decimal`, before it is written. -/
def percent : Option ℚ :=
  row.prior.bind fun prior => ratioPercent ctx (ctx.sub row.current prior) prior

def json : Json :=
  obj [("label", .str row.label),
    ("current_value_decimal", decimalJson (some row.current)),
    ("prior_value_decimal", decimalJson row.prior),
    ("variance_decimal", decimalJson (row.variance ctx)),
    ("variance_percent_decimal", decimalJson (row.percent ctx))]

/-- The key by which the rows are sorted: it reads the text of the variance back. -/
def sortKey : ℚ ×ₗ Str :=
  toLex (ctx.neg (ctx.abs (decimalParts ((row.variance ctx).elim (str "0") decimalText)).value),
    lib.casefold row.label)

end VarianceRow

/-- An item of `_anomalies`. -/
structure Anomaly where
  field : DashboardInsightField
  priorPeriod : Str
  currentPeriod : Str
  changePercent : ℚ

namespace Anomaly

variable (item : Anomaly)

def message : Str :=
  item.field.label ++ str " changed by " ++ decimalText item.changePercent ++ str "% from " ++
    item.priorPeriod ++ str " to " ++ item.currentPeriod ++ str "."

def json : Json :=
  obj [("key", text "period_over_period_change"), ("severity", text "attention"),
    ("field", .str item.field.value), ("prior_period", .str item.priorPeriod),
    ("current_period", .str item.currentPeriod),
    ("change_percent_decimal", decimalJson (some item.changePercent)),
    ("message", .str item.message)]

end Anomaly

namespace DashboardInsightAccumulator

variable (acc : DashboardInsightAccumulator)

-- ---------------------------------------------------------------------------
-- Values of a measure
-- ---------------------------------------------------------------------------

/-- `_by_period.get(field, {})`. -/
def byPeriod (field : DashboardInsightField) : OrderedDict Str ℚ := (acc.measures field).byPeriod

/-- `_sum`. -/
def sum (field : DashboardInsightField) : Option ℚ :=
  (acc.measures field).totals.bind fun stats => if stats.count = 0 then none else some stats.total

/-- `_average`. -/
def average (field : DashboardInsightField) : Option ℚ := (acc.measures field).average ctx

/-- `_latest`. -/
def latest (field : DashboardInsightField) : Option ℚ :=
  (sortedPeriods lib (acc.byPeriod field)).getLast?.bind (acc.byPeriod field).get?

/-- `_validate_required_period_coverage`. -/
def validateRequiredPeriodCoverage : Except DashboardInsightError Unit := do
  let required := acc.dashboardType.requiredNumericFields
  ensure ((required.all fun field => !(acc.byPeriod field).keys.isEmpty) = true)
    .requiredNumericValuesMissing
  ensure ((required.head?.all fun first => required.all fun field =>
    decide ((acc.byPeriod field).keys ⊆ (acc.byPeriod first).keys ∧
      (acc.byPeriod first).keys ⊆ (acc.byPeriod field).keys)) = true) .periodCoverageMismatch

-- ---------------------------------------------------------------------------
-- Sections
-- ---------------------------------------------------------------------------

/-- `_metric`. -/
def metric (key label unit calculation : String) (sourceFields : List DashboardInsightField)
    (value : Option ℚ) : Json :=
  obj [("key", text key), ("label", text label), ("unit", text unit),
    ("value_decimal", decimalJson value),
    ("availability", text (if value.isSome then "available" else "unavailable")),
    ("calculation", text calculation), ("source_fields", fieldValues sourceFields)]

/-- `_single_series`. -/
def singleSeries (key label : String) (field : DashboardInsightField) (unit calculation : String) :
    Json :=
  obj [("key", text key), ("label", text label), ("unit", text unit),
    ("dimension", .str DashboardInsightField.period.value), ("calculation", text calculation),
    ("source_fields", fieldValues [.period, field]),
    ("points", periodPoints lib (acc.byPeriod field))]

/-- The changes from one period to the next. -/
def periodChanges (values : OrderedDict Str ℚ) : List ℚ :=
  let periods := sortedPeriods lib values
  (periods.zip periods.tail).map fun (prior, current) =>
    ctx.sub (values.getD current 0) (values.getD prior 0)

/-- The forecast points: the last observed one, and three more. -/
def forecastPoints (values : OrderedDict Str ℚ) : List Json :=
  match (sortedPeriods lib values).getLast? with
  | none => []
  | some latestPeriod =>
    let latestValue := values.getD latestPeriod 0
    let changes := periodChanges lib ctx values
    let recentChanges := changes.drop (changes.length - 3)
    let trend := if recentChanges.isEmpty then 0
      else ctx.div (ctx.sum recentChanges) recentChanges.length
    obj [("label", .str latestPeriod), ("value_decimal", decimalJson (some latestValue))] ::
      [1, 2, 3].map fun step : Nat =>
        obj [("label", .str (str "Forecast +" ++ natText step)),
          ("value_decimal", decimalJson (some (ctx.add latestValue (ctx.mul trend step))))]

/-- `_cash_flow_forecast_series`. -/
def cashFlowForecastSeries : Json :=
  obj [("key", text "cash_flow_forecast"), ("label", text "Cash Flow Forecast"),
    ("unit", text "currency"), ("dimension", .str DashboardInsightField.period.value),
    ("calculation", text ("three-period linear projection from the average of up to the " ++
      "three latest mapped net_cash period changes; one observed " ++
      "period uses carry-forward")),
    ("source_fields", fieldValues [.period, .netCash]),
    ("series", .arr
      [obj [("key", text "actual"), ("label", text "Actual"),
          ("points", periodPoints lib (acc.byPeriod .netCash))],
        obj [("key", text "forecast"), ("label", text "Forecast"),
          ("points", .arr (forecastPoints lib ctx (acc.byPeriod .netCash)))]])]

/-- `_comparison_series`. -/
def comparisonSeries (key label : String) (fields : List DashboardInsightField) (unit : String) :
    Json :=
  obj [("key", text key), ("label", text label), ("unit", text unit),
    ("dimension", .str DashboardInsightField.period.value),
    ("calculation", text "sum each mapped measure by period"),
    ("source_fields", fieldValues (.period :: fields)),
    ("series", .arr (fields.map fun field =>
      obj [("key", .str field.value), ("label", .str field.label),
        ("points", periodPoints lib (acc.byPeriod field))]))]

/-- The set of the values of a dimension that are stored in any period. -/
def dimensionItems (field dimension : DashboardInsightField) : List Str :=
  order.strings (((acc.measures field).byPeriodDimension dimension).values.flatMap OrderedDict.keys)

/-- The key by which `_dimension_series` sorts the values of a dimension. -/
def seriesKey (field dimension : DashboardInsightField) (item : Str) : ℚ ×ₗ Str :=
  toLex (ctx.neg (ctx.abs (((acc.measures field).byDimension dimension).getD item 0)),
    lib.casefold item)

/-- The series of one value of a dimension. -/
def itemSeries (field dimension : DashboardInsightField) (item : Str) : Json :=
  let periodValues := (acc.measures field).byPeriodDimension dimension
  obj [("key", .str item), ("label", .str item),
    ("points", .arr ((sortedPeriods lib periodValues).filterMap fun period =>
      ((periodValues.getD period ∅).get? item).map fun value =>
        obj [("label", .str period), ("value_decimal", decimalJson (some value))]))]

/-- `_dimension_series`. -/
def dimensionSeries (key label : String) (field dimension : DashboardInsightField) : Json :=
  obj [("key", text key), ("label", text label), ("unit", text "currency"),
    ("dimension", .str DashboardInsightField.period.value),
    ("series_dimension", .str dimension.value),
    ("calculation", .str (str "sum(" ++ field.value ++ str ") by period and " ++ dimension.value)),
    ("source_fields", fieldValues [.period, dimension, field]),
    ("series", .arr ((sortBy (acc.seriesKey lib ctx field dimension)
      (acc.dimensionItems order field dimension)).map (acc.itemSeries lib field dimension)))]

/-- The items of a breakdown. -/
def breakdownItems (field dimension : DashboardInsightField) : Json :=
  let values := (acc.measures field).byDimension dimension
  let total := ctx.sum values.values
  .arr ((sortBy (fun item : Str × ℚ => toLex (ctx.neg item.2, lib.casefold item.1))
    values.entries).map fun item =>
      obj [("label", .str item.1), ("value_decimal", decimalJson (some item.2)),
        ("share_percent_decimal", decimalJson (ratioPercent ctx item.2 total))])

/-- `_breakdown`. -/
def breakdown (key label : String) (field dimension : DashboardInsightField) : Json :=
  obj [("key", text key), ("label", text label), ("unit", text "currency"),
    ("dimension", .str dimension.value),
    ("calculation", .str (str "sum(" ++ field.value ++ str ") by " ++ dimension.value)),
    ("source_fields", fieldValues [dimension, field]),
    ("items", acc.breakdownItems lib ctx field dimension)]

/-- The last period and the one before it. -/
def lastPeriods (field dimension : DashboardInsightField) : Option Str × Option Str :=
  let periods := (sortedPeriods lib ((acc.measures field).byPeriodDimension dimension)).reverse
  (periods.head?, periods.tail.head?)

/-- The row of one value of a dimension. -/
def varianceRow (field dimension : DashboardInsightField) (item : Str) : VarianceRow :=
  let periodValues := (acc.measures field).byPeriodDimension dimension
  let amount period := (periodValues.getD period ∅).getD item 0
  { label := item
    current := (acc.lastPeriods lib field dimension).1.elim 0 amount
    prior := (acc.lastPeriods lib field dimension).2.map amount }

/-- The rows of `_variance_table`. -/
def varianceRows (field dimension : DashboardInsightField) : List VarianceRow :=
  sortBy (VarianceRow.sortKey lib ctx)
    ((sortBy lib.casefold (acc.dimensionItems order field dimension)).map
      (acc.varianceRow lib field dimension))

/-- `_variance_table`. -/
def varianceTable (field dimension : DashboardInsightField) : Json :=
  let periods := acc.lastPeriods lib field dimension
  obj [("key", text "spend_variance_by_category"), ("label", text "Spend Variance by Category"),
    ("unit", text "currency"), ("current_period", .ofStr? periods.1),
    ("prior_period", .ofStr? periods.2),
    ("calculation", text "current period spend minus prior period spend by category"),
    ("source_fields", fieldValues [.period, dimension, field]),
    ("rows", .arr ((acc.varianceRows lib ctx order field dimension).map (VarianceRow.json ctx)))]

-- ---------------------------------------------------------------------------
-- Signals
-- ---------------------------------------------------------------------------

/-- The measures that `_anomalies` looks at. -/
def primaryFields : DashboardType → List DashboardInsightField
  | .executiveSummary => [.revenue, .expenses, .netCash]
  | .financialPerformance => [.revenue, .spend]
  | .operationalKpi => [.expenses]

/-- The anomalies of one measure. -/
def fieldAnomalies (field : DashboardInsightField) : List Anomaly :=
  let values := acc.byPeriod field
  let periods := sortedPeriods lib values
  (periods.zip periods.tail).filterMap fun (priorPeriod, currentPeriod) =>
    let prior := values.getD priorPeriod 0
    let current := values.getD currentPeriod 0
    ((ratioPercent ctx (ctx.sub current prior) (ctx.abs prior)).filter
      fun change => 25 ≤ ctx.abs change).map fun changePercent =>
        { field, priorPeriod, currentPeriod, changePercent }

/-- `_anomalies`: the latest ones first. -/
def anomalies : List Json :=
  let results := (primaryFields acc.dashboardType).flatMap (acc.fieldAnomalies lib ctx)
  ((sortBy (fun item : Anomaly => OrderDual.toDual (periodSortKey lib item.currentPeriod))
    results).take 20).map Anomaly.json

/-- The dimension in which the outflow's concentration is measured. -/
def concentrationDimension : DashboardType → DashboardInsightField
  | .operationalKpi => .vendor
  | _ => .category

/-- The sums of the outflow by that dimension. -/
def concentrationValues : OrderedDict Str ℚ :=
  (acc.measures acc.dashboardType.outflowField).byDimension
    (concentrationDimension acc.dashboardType)

/-- `_risks`. -/
def risks : List Json :=
  let revenue := acc.sum .revenue
  let outflow := acc.sum acc.dashboardType.outflowField
  let budget := acc.sum .budget
  let spend := acc.sum .spend
  let values := acc.concentrationValues
  let total := ctx.sum values.values
  let exceeds := match revenue, outflow with
    | some revenue, some outflow =>
      if revenue < outflow then
        [obj [("key", text "outflow_exceeds_revenue"), ("severity", text "high"),
          ("message", text "Mapped outflow exceeds mapped revenue."),
          ("evidence", obj [("revenue_decimal", decimalJson (some revenue)),
            ("outflow_decimal", decimalJson (some outflow))])]]
      else []
    | _, _ => []
  let overBudget := match budget, spend with
    | some budget, some spend =>
      if budget < spend then
        [obj [("key", text "spend_above_budget"), ("severity", text "high"),
          ("message", text "Mapped spend is above mapped budget."),
          ("evidence", obj [("spend_decimal", decimalJson (some spend)),
            ("budget_decimal", decimalJson (some budget)),
            ("variance_decimal", decimalJson (some (ctx.sub spend budget)))])]]
      else []
    | _, _ => []
  let concentration := match maxBy? Prod.snd values.entries with
    | none => []
    | some (topLabel, topValue) =>
      if 0 < total then
        match (ratioPercent ctx topValue total).filter (50 ≤ ·) with
        | none => []
        | some share =>
          [obj [("key", text "outflow_concentration"), ("severity", text "attention"),
            ("message", .str (topLabel ++ str " represents " ++ decimalText share ++
              str "% of mapped outflow.")),
            ("evidence", obj
              [("dimension", .str (concentrationDimension acc.dashboardType).value),
                ("label", .str topLabel), ("share_percent_decimal", decimalJson (some share))])]]
      else []
  exceeds ++ overBudget ++ concentration

/-- `top_evidence`. -/
def topEvidence : List (String × Json) :=
  let values := acc.concentrationValues
  match maxBy? Prod.snd values.entries with
  | none => []
  | some (topLabel, topValue) =>
    [("dimension", .str (concentrationDimension acc.dashboardType).value),
      ("label", .str topLabel), ("value_decimal", decimalJson (some topValue)),
      ("share_percent_decimal", decimalJson (ratioPercent ctx topValue (ctx.sum values.values)))]

/-- The cash measure of a type. -/
def cashField : DashboardType → Option DashboardInsightField
  | .executiveSummary => some .netCash
  | .financialPerformance => some .cashBalance
  | .operationalKpi => none

/-- The number of distinct periods of all measures. -/
def periodCount : Nat :=
  (order.strings (DashboardInsightField.numericFields.flatMap fun field =>
    (acc.byPeriod field).keys)).length

/-- The message and the evidence of one goal. -/
def recommendation (goal : DashboardGoal) : Str × List (String × Json) :=
  let outflow := acc.sum acc.dashboardType.outflowField
  let top := maxBy? Prod.snd acc.concentrationValues.entries
  match goal with
  | .benchmarkAgainstPeers =>
    (str ("No approved peer benchmark is present in the mapped reports; " ++
      "add a governed benchmark source before making comparisons."), [])
  | .improveCollectionsAr =>
    (str ("Accounts-receivable fields are not part of this dashboard " ++
      "mapping; add an approved AR source before evaluating collections."), [])
  | .improveCashFlow =>
    let field := cashField acc.dashboardType
    let cashValue := field.bind (acc.latest lib)
    (if cashValue.isNone then
        str ("Cash-balance evidence is not available in this dashboard; " ++
          "add an approved cash source before evaluating cash flow.")
      else str ("Review the latest mapped cash evidence and largest outflow " ++
        "concentration before setting a cash-flow action."),
      [("cash_field", .ofStr? (field.map DashboardInsightField.value)),
        ("latest_cash_decimal", decimalJson cashValue),
        ("outflow_decimal", decimalJson outflow)] ++ acc.topEvidence ctx)
  | .reduceExpenses | .improveOperationalEfficiency =>
    match top with
    | some (topLabel, _) =>
      (str "Review " ++ topLabel ++ str ", the largest mapped " ++
          (concentrationDimension acc.dashboardType).value ++ str " outflow, before setting " ++
          str (if goal = .improveOperationalEfficiency then "an efficiency action"
            else "a reduction action") ++ str ".",
        acc.topEvidence ctx)
    | none =>
      (str ("Mapped outflow concentration is not available; add an approved " ++
        "category or vendor source before setting a reduction action."), [])
  | .stayOnBudget =>
    let budget := acc.sum .budget
    let spend := acc.sum .spend
    (if budget.isNone ∨ spend.isNone then
        str ("Budget and spend evidence is not available in this dashboard; " ++
          "add approved budget and spend sources before evaluating variance.")
      else str ("Review mapped budget versus spend variance and assign owners " ++
        "to the largest category differences."),
      [("budget_decimal", decimalJson budget), ("spend_decimal", decimalJson spend)])
  | .growRevenue =>
    let revenue := acc.sum .revenue
    (if revenue.isNone then
        str ("Revenue evidence is not available in this dashboard; add an " ++
          "approved revenue source before setting a growth target.")
      else str ("Review period revenue changes and validate the drivers behind " ++
        "declines before setting a growth target."),
      [("revenue_decimal", decimalJson revenue)])
  | .increaseProfitability =>
    let revenue := acc.sum .revenue
    (if revenue.isNone ∨ outflow.isNone then
        str ("Revenue and outflow evidence is not available in this dashboard; " ++
          "add approved sources before evaluating profitability.")
      else str ("Review the mapped revenue-to-outflow difference and the " ++
        "largest cost concentration before choosing a margin action."),
      [("revenue_decimal", decimalJson revenue), ("outflow_decimal", decimalJson outflow),
        ("difference_decimal", decimalJson (revenue.bind fun revenue =>
          outflow.map (ctx.sub revenue)))])
  | .improveForecasting =>
    let count := acc.periodCount order
    (if count < 2 then
        str ("At least two mapped periods are required before using the " ++
          "dashboard as a forecast baseline.")
      else str ("Review period coverage and investigate flagged changes before " ++
        "using the mapped trend as a forecast baseline."),
      [("mapped_period_count", .int count)])

/-- `_recommendations`. -/
def recommendations : List Json :=
  acc.configuration.goals.map fun goal =>
    let (message, evidence) := acc.recommendation lib ctx order goal
    obj [("key", .str (str "goal_" ++ goal.value)), ("goal", .str goal.value),
      ("message", .str message), ("evidence", obj evidence)]

-- ---------------------------------------------------------------------------
-- Dashboard types
-- ---------------------------------------------------------------------------

/-- The quotient of a sum and a count, where there are both. -/
def perCount (value : Option ℚ) (count : Nat) : Option ℚ :=
  if count = 0 then none else value.map fun value => ctx.div value count

/-- `_executive_calculated`. -/
def executiveCalculated : Json :=
  let revenue := acc.sum .revenue
  let expenses := acc.sum .expenses
  obj
    [("kpis", .arr
      [metric "total_revenue" "Total Revenue" "currency" "sum(revenue)" [.revenue] revenue,
        metric "net_profit" "Net Profit" "currency" "sum(revenue) - sum(expenses)"
          [.revenue, .expenses] (revenue.bind fun revenue => expenses.map (ctx.sub revenue)),
        metric "gross_margin" "Gross Margin" "percent"
          "average(gross_margin) across distinct mapped periods" [.grossMargin]
          (acc.average ctx .grossMargin),
        metric "burn_rate" "Burn Rate" "currency_per_period"
          "sum(expenses) / distinct mapped periods" [.period, .expenses]
          (perCount ctx expenses (acc.byPeriod .expenses).keys.length)]),
      ("series", .arr
        [acc.singleSeries lib "monthly_spend" "Monthly Spend" .expenses "currency"
          "sum(expenses) by period", acc.cashFlowForecastSeries lib ctx]),
      ("breakdowns", .arr
        [acc.breakdown lib ctx "expense_categories" "Expense Categories" .expenses .category,
          acc.breakdown lib ctx "expenses_by_location" "Expenses by Location" .expenses .location]),
      ("tables", .arr
        [obj [("key", text "top_spend_drivers"), ("label", text "Top Spend Drivers by Category"),
          ("unit", text "currency"),
          ("calculation", text "expense categories sorted by mapped spend"),
          ("source_fields", fieldValues [.category, .expenses]),
          ("rows", acc.breakdownItems lib ctx .expenses .category)]])]

/-- `_financial_calculated`. -/
def financialCalculated : Json :=
  let revenue := acc.sum .revenue
  let spend := acc.sum .spend
  let budget := acc.sum .budget
  obj
    [("kpis", .arr
      [metric "total_revenue" "Total Revenue" "currency" "sum(revenue)" [.revenue] revenue,
        metric "total_spend" "Total Spend" "currency" "sum(spend)" [.spend] spend,
        metric "cash_balance" "Cash Balance" "currency" "latest(cash_balance) by mapped period"
          [.period, .cashBalance] (acc.latest lib .cashBalance),
        metric "total_budget" "Total Budget" "currency" "sum(budget)" [.budget] budget,
        metric "spend_to_revenue" "Spend to Revenue" "percent" "sum(spend) / sum(revenue) * 100"
          [.spend, .revenue] (spend.bind fun spend => revenue.bind (ratioPercent ctx spend))]),
      ("series", .arr
        [acc.comparisonSeries lib "monthly_spend_vs_revenue" "Monthly Spend vs Revenue"
          [.spend, .revenue] "currency",
          acc.dimensionSeries lib ctx order "monthly_trend_by_category" "Monthly Trend by Category"
            .spend .category]),
      ("breakdowns", .arr
        [obj [("key", text "financial_health"), ("label", text "Financial Health"),
            ("unit", text "currency"),
            ("calculation", text "mapped revenue compared with mapped spend"),
            ("source_fields", fieldValues [.revenue, .spend]),
            ("items", .arr
              [obj [("label", text "Revenue"), ("value_decimal", decimalJson revenue)],
                obj [("label", text "Spend"), ("value_decimal", decimalJson spend)]])],
          acc.breakdown lib ctx "spend_by_location" "Spend by Location" .spend .location]),
      ("tables", .arr [acc.varianceTable lib ctx order .spend .category])]

/-- The status updates, by period; those without one come last. -/
def renderStatusUpdates : Json :=
  .arr ((sortBy (fun update : StatusUpdate =>
    toLex ((if update.period.isNone then 1 else 0 : Nat),
      periodSortKey lib (update.period.getD []))) acc.statusUpdates).map fun update =>
    obj [("period", .ofStr? update.period), ("title", .ofStr? update.title),
      ("detail", .ofStr? update.detail), ("status", .ofStr? update.status),
      ("progress_decimal", .ofStr? update.progressDecimal)])

/-- `_operational_calculated`. -/
def operationalCalculated : Json :=
  let departments := (acc.uniqueValues .department).length
  let vendors := (acc.uniqueValues .vendor).length
  let expenses := acc.sum .expenses
  let count (n : Nat) : Option ℚ := if n = 0 then none else some n
  obj
    [("kpis", .arr
      [metric "number_of_departments" "Number of Departments" "count" "count(distinct department)"
          [.department] (count departments),
        metric "average_spend_per_department" "Avg Spend Per Department" "currency"
          "sum(expenses) / count(distinct department)" [.expenses, .department]
          (perCount ctx expenses departments),
        metric "number_of_vendors" "Number of Vendors" "count" "count(distinct vendor)" [.vendor]
          (count vendors),
        metric "total_expenses" "Total Expenses" "currency" "sum(expenses)" [.expenses] expenses]),
      ("series", .arr
        [acc.dimensionSeries lib ctx order "monthly_trend_by_department"
            "Monthly Trend by Department" .expenses .department,
          acc.dimensionSeries lib ctx order "monthly_trend_by_vendor" "Monthly Trend by Vendor"
            .expenses .vendor]),
      ("breakdowns", .arr []), ("tables", .arr []),
      ("status_updates", acc.renderStatusUpdates lib)]

/-- The sections that the type calculates. -/
def calculated : Json :=
  match acc.dashboardType with
  | .executiveSummary => acc.executiveCalculated lib ctx
  | .financialPerformance => acc.financialCalculated lib ctx order
  | .operationalKpi => acc.operationalCalculated lib ctx order

/-- `render`. -/
def render : Except DashboardInsightError Json := do
  ensure ((acc.mappings.keys.all fun key => decide (key ∈ acc.validatedMappings)) = true)
    .sourceSheetNotFound
  ensure (acc.mappedRowCount ≠ 0) .rowsNotFound
  acc.validateRequiredPeriodCoverage
  pure (obj
    [("contract_version", .int dashboardInsightConfigurationVersion),
      ("calculation_version", .int dashboardInsightCalculationVersion),
      ("dashboard_type", .str acc.dashboardType.value),
      ("goals", .arr (acc.configuration.goals.map fun goal => .str goal.value)),
      ("mapped_row_count", .int acc.mappedRowCount),
      ("calculated", acc.calculated lib ctx order),
      ("signals", obj [("anomalies", .arr (acc.anomalies lib ctx)),
        ("risks", .arr (acc.risks ctx)),
        ("recommendations", .arr (acc.recommendations lib ctx order))]),
      ("explainability", obj
        [("calculated_sections", .arr [text "kpis", text "series", text "breakdowns",
            text "tables", text "signals"]),
          ("ai_generated_sections", .arr [text "summary", text "opportunity",
            text "recommendation", text "disclaimer"]),
          ("rule", text ("Calculated values come only from explicitly mapped immutable " ++
            "report rows. AI narrative is stored separately and grounded " ++
            "to this snapshot."))])])

end DashboardInsightAccumulator

end SpikeBackend
