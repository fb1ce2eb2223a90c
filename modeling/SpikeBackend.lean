import SpikeBackend.TwoStep.Cooldown
import SpikeBackend.Credits.Usage
import SpikeBackend.Dashboards.DecimalTexts
import SpikeBackend.Dashboards.Determinism
import SpikeBackend.Lib.Machine
import SpikeBackend.Model.AiExecutionRuns
import SpikeBackend.Execution.Fencing
import SpikeBackend.Execution.Replays
import SpikeBackend.Dashboards.Exports
import SpikeBackend.Execution.SharedAnalysis
import SpikeBackend.Execution.Leaks
import SpikeBackend.TwoStep.SingleUse
import SpikeBackend.Model.Onboarding
import SpikeBackend.Billing.ExactlyOnce
import SpikeBackend.Billing.InvoiceOrder
import SpikeBackend.Billing.TrialReset
import SpikeBackend.Dashboards.Cap
import SpikeBackend.Dashboards.SnapshotOrigin
import SpikeBackend.Processing.Fencing
import SpikeBackend.Processing.HandIn
import SpikeBackend.Processing.RetryDelay
import SpikeBackend.Sessions.Revocation
import SpikeBackend.Sessions.Credentials
import SpikeBackend.Dashboards.Reconciliation
import SpikeBackend.Dashboards.PeriodOverlap
import SpikeBackend.Dashboards.PointInTime
import SpikeBackend.Dashboards.ObservationOrder
import SpikeBackend.Billing.Termination
import SpikeBackend.Billing.PayableSessions
import SpikeBackend.Billing.Convergence
import SpikeBackend.Codes.OneTime
import SpikeBackend.Accounts.Checkouts
import SpikeBackend.Audit.Metadata
import SpikeBackend.Credits.Adjustments
import SpikeBackend.Model.SourceArtifacts
import SpikeBackend.Reports.RoundTrip
import SpikeBackend.Reports.ColumnNames
import SpikeBackend.Reports.SheetRecords
import SpikeBackend.Reports.LineLimit
import SpikeBackend.Uploads.CsvContent
import SpikeBackend.Uploads.XlsStream
import SpikeBackend.Uploads.Completion
import SpikeBackend.Dashboards.Variance
import SpikeBackend.Execution.PromptBudget
import SpikeBackend.Execution.AnalysisSections
import SpikeBackend.Execution.Grounding
import SpikeBackend.Dashboards.ContentHash
import SpikeBackend.Dashboards.StorablePayload
import SpikeBackend.Lib.FixedWindow
import SpikeBackend.Model.RateLimit
import SpikeBackend.RateLimits.Counters
import SpikeBackend.RateLimits.Lockout
