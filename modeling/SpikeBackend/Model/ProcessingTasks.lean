import SpikeBackend.Lib.Binary64
import SpikeBackend.Model.Processing

/-!
# The task of a worker

The beginning of `execute_report_processing_job` (`app/workers/tasks.py`): the worker claims the
job, and where it gets no claim it asks when to try again.
-/

namespace SpikeBackend

open Text

/-- `REPORT_PROCESSING_INFRASTRUCTURE_RETRY_DELAY`. -/
def reportProcessingInfrastructureRetryDelay : Int := seconds 30

/-- `_retry_seconds`, of the float that `delay.total_seconds()` is. -/
def retrySeconds (delay : Int) : Int := max 1 ⌈totalSeconds delay⌉

structure ReportProcessingTaskOutcome where
  status : Str
  retryAfterSeconds : Option Int := none
  deriving DecidableEq

/-- What the task does without a claim. -/
def unclaimedOutcome (retryDelay : Option Int) : ReportProcessingTaskOutcome :=
  match retryDelay with
  | none => { status := str "ignored" }
  | some delay => { status := str "deferred", retryAfterSeconds := some (retrySeconds delay) }

/-- `_claim_job`: the tables, and a claim or an outcome. The claim and the delay read the clock
one after the other; the service's `IntegrityError` is caught as an error of the database. -/
def taskClaimJob (db : ProcessingDatabase) (jobId : Uuid) (claimedAt checkedAt : Datetime)
    (token : Uuid) : Except ProcessingError
      (ProcessingDatabase × (ReportProcessingClaim ⊕ ReportProcessingTaskOutcome)) :=
  match db.claimJob jobId claimedAt reportProcessingLeaseDuration token with
  | .ok (db', some claim) => .ok (db', .inl claim)
  | .ok (db', none) => .ok (db', .inr (unclaimedOutcome (db'.claimRetryDelay jobId checkedAt)))
  | .error .integrity => .ok (db, .inr
      { status := str "retrying"
        retryAfterSeconds := some (retrySeconds reportProcessingInfrastructureRetryDelay) })
  | .error e => .error e

end SpikeBackend
