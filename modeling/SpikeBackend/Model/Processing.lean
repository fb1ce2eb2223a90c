import SpikeBackend.Lib.Outcome
import SpikeBackend.Lib.Session
import SpikeBackend.Lib.Table
import SpikeBackend.Model.Subscriptions

/-!
# Report processing

The jobs of `app/models/processing.py` with the constraints of their table, and
`ReportProcessingService` (`app/services/processing.py`). Each operation is one transaction
over the committed tables; `none` of an update is the integrity error of the database.
-/

namespace SpikeBackend

open Relational Text Outcome Session

-- ---------------------------------------------------------------------------
-- Rows
-- ---------------------------------------------------------------------------

inductive ReportUploadStatus
  | pending
  | uploaded
  | rejected
  | expired
  deriving DecidableEq, Repr

structure ReportUpload where
  id : Uuid
  businessId : Uuid
  status : ReportUploadStatus := .pending
  storageBucket : Str
  storageKey : Str
  storageVersionId : Option Str := none
  etag : Option Str := none
  originalFilename : Str
  fileExtension : Str
  contentType : Str
  actualSizeBytes : Option Int := none

instance : Schema ReportUpload Uuid where
  key := ReportUpload.id
  clash _ _ := false
  checks _ := true
  clash_comm _ _ := rfl

inductive ReportProcessingStatus
  | queued
  | processing
  | completed
  | failed
  deriving DecidableEq, Repr

def defaultReportProcessingMaxAttempts : Int := 3

def maxReportProcessingAttempts : Int := 10

/-- What a worker hands over when it is done. -/
structure ReportProcessingOutput where
  storageBucket : Str
  normalizedStorageKey : Str
  normalizedStorageVersionId : Str
  normalizedEtag : Str
  normalizedSizeBytes : Int
  profileStorageKey : Str
  profileStorageVersionId : Str
  profileEtag : Str
  recordCount : Int
  sheetCount : Int
  deriving DecidableEq

structure ReportProcessingJob where
  id : Uuid
  businessId : Uuid
  createdAt : Datetime
  reportUploadId : Uuid
  sourceStorageVersionId : Str
  sourceEtag : Str
  status : ReportProcessingStatus := .queued
  attemptCount : Int := 0
  maxAttempts : Int := defaultReportProcessingMaxAttempts
  dispatchAttemptCount : Int := 0
  availableAt : Option Datetime
  lastDispatchedAt : Option Datetime := none
  startedAt : Option Datetime := none
  leaseToken : Option Uuid := none
  leaseExpiresAt : Option Datetime := none
  finishedAt : Option Datetime := none
  errorCode : Option Str := none
  resultStorageBucket : Option Str := none
  normalizedStorageKey : Option Str := none
  normalizedStorageVersionId : Option Str := none
  normalizedEtag : Option Str := none
  normalizedSizeBytes : Option Int := none
  profileStorageKey : Option Str := none
  profileStorageVersionId : Option Str := none
  profileEtag : Option Str := none
  recordCount : Option Int := none
  sheetCount : Option Int := none
  deriving DecidableEq

namespace ReportProcessingJob

variable (j : ReportProcessingJob)

/-- `ck_report_processing_jobs_attempts`. -/
def attemptsCheck : Bool :=
  decide (1 ≤ j.maxAttempts ∧ j.maxAttempts ≤ maxReportProcessingAttempts ∧
    0 ≤ j.attemptCount ∧ j.attemptCount ≤ j.maxAttempts) &&
  (decide (j.attemptCount = 0) && j.startedAt.isNone && j.errorCode.isNone ||
    decide (0 < j.attemptCount) && j.startedAt.isSome)

/-- `ck_report_processing_jobs_dispatch`. -/
def dispatchCheck : Bool :=
  decide (0 ≤ j.dispatchAttemptCount) &&
  (decide (j.dispatchAttemptCount = 0) && j.lastDispatchedAt.isNone ||
    decide (0 < j.dispatchAttemptCount) && j.lastDispatchedAt.isSome)

/-- `ck_report_processing_jobs_status_fields`. -/
def statusFieldsCheck : Bool :=
  match j.status with
  | .queued =>
    j.availableAt.isSome && j.leaseToken.isNone && j.leaseExpiresAt.isNone && j.finishedAt.isNone
  | .processing =>
    j.availableAt.isNone && decide (0 < j.attemptCount) && j.leaseToken.isSome &&
      j.leaseExpiresAt.isSome && j.errorCode.isNone && j.finishedAt.isNone
  | .completed =>
    j.availableAt.isNone && decide (0 < j.attemptCount) && j.leaseToken.isNone &&
      j.leaseExpiresAt.isNone && j.errorCode.isNone && j.finishedAt.isSome
  | .failed =>
    j.availableAt.isNone && decide (0 < j.attemptCount) && j.leaseToken.isNone &&
      j.leaseExpiresAt.isNone && j.errorCode.isSome && j.finishedAt.isSome

/-- Which of the output columns are filled. -/
def outputColumns : List Bool :=
  [j.resultStorageBucket.isSome, j.normalizedStorageKey.isSome,
    j.normalizedStorageVersionId.isSome, j.normalizedEtag.isSome, j.normalizedSizeBytes.isSome,
    j.profileStorageKey.isSome, j.profileStorageVersionId.isSome, j.profileEtag.isSome,
    j.recordCount.isSome, j.sheetCount.isSome]

/-- `ck_report_processing_jobs_output_fields`. -/
def outputFieldsCheck : Bool :=
  j.outputColumns.all (· == decide (j.status = .completed))

/-- `ck_report_processing_jobs_source`. -/
def sourceCheck : Bool :=
  decide (0 < j.sourceStorageVersionId.length ∧ 0 < j.sourceEtag.length)

/-- `ck_report_processing_jobs_output_values`. -/
def outputValuesCheck : Bool :=
  j.resultStorageBucket.all (fun b => decide (3 ≤ b.length ∧ b.length ≤ 63)) &&
  [j.normalizedStorageKey, j.normalizedStorageVersionId, j.normalizedEtag, j.profileStorageKey,
    j.profileStorageVersionId, j.profileEtag].all (·.all (0 < ·.length)) &&
  j.normalizedSizeBytes.all (0 < ·) && j.recordCount.all (0 ≤ ·) && j.sheetCount.all (0 < ·)

/-- `ck_report_processing_jobs_timestamps`; a comparison with NULL passes. -/
def timestampsCheck : Bool :=
  j.availableAt.all (j.createdAt ≤ ·) && j.lastDispatchedAt.all (j.createdAt ≤ ·) &&
  j.startedAt.all (j.createdAt ≤ ·) &&
  j.finishedAt.all (fun f => j.startedAt.all (· ≤ f)) &&
  j.leaseExpiresAt.all (fun e => j.startedAt.all (· < e))

/-- All CHECK constraints of the table. -/
def checks : Bool :=
  j.attemptsCheck && j.dispatchCheck && j.statusFieldsCheck && j.outputFieldsCheck &&
    j.sourceCheck && j.outputValuesCheck && j.timestampsCheck

end ReportProcessingJob

/-- One job per upload, and no artifact of two jobs. -/
instance : Schema ReportProcessingJob Uuid where
  key := ReportProcessingJob.id
  clash a b :=
    a.reportUploadId == b.reportUploadId ||
      (a.normalizedStorageKey.isSome && a.normalizedStorageKey == b.normalizedStorageKey) ||
      (a.profileStorageKey.isSome && a.profileStorageKey == b.profileStorageKey)
  checks := ReportProcessingJob.checks
  clash_comm a b := by
    rw [Bool.eq_iff_iff]
    simp only [Bool.or_eq_true, Bool.and_eq_true, beq_iff_eq]
    constructor
    · rintro ((h | ⟨h₁, h₂⟩) | ⟨h₁, h₂⟩)
      · exact .inl (.inl h.symm)
      · exact .inl (.inr ⟨h₂ ▸ h₁, h₂.symm⟩)
      · exact .inr ⟨h₂ ▸ h₁, h₂.symm⟩
    · rintro ((h | ⟨h₁, h₂⟩) | ⟨h₁, h₂⟩)
      · exact .inl (.inl h.symm)
      · exact .inl (.inr ⟨h₂ ▸ h₁, h₂.symm⟩)
      · exact .inr ⟨h₂ ▸ h₁, h₂.symm⟩

structure ProcessingDatabase where
  uploads : Table ReportUpload := .empty
  jobs : Table ReportProcessingJob := .empty

/-- What the service raises; `integrity` is the driver's `IntegrityError`. -/
inductive ProcessingError
  | conflict
  | value (message : Str)
  | integrity
  deriving DecidableEq

-- ---------------------------------------------------------------------------
-- Constants and validation
-- ---------------------------------------------------------------------------

def reportProcessingLeaseDuration : Int := minutes 15

def reportProcessingRedispatchInterval : Int := minutes 5

def attemptLimitError : Str := str "attempt_limit_exceeded"

def sourceInvalidError : Str := str "source_state_invalid"

/-- `[a-z]`. -/
def isLower (c : CodePoint) : Bool := 97 ≤ c.val && c.val ≤ 122

/-- `[a-z0-9_]`. -/
def isSafeChar (c : CodePoint) : Bool :=
  isLower c || (48 ≤ c.val && c.val ≤ 57) || c.val == 95

/-- `_SAFE_ERROR_CODE.fullmatch`. -/
def isSafeErrorCode : Str → Bool
  | [] => false
  | c :: rest => isLower c && rest.all isSafeChar && decide (rest.length ≤ 63)

/-- `validate_processing_error_code`. -/
def validateProcessingErrorCode (errorCode : Str) : Except ProcessingError Unit :=
  ensure (isSafeErrorCode errorCode = true)
    (.value (str "Processing error codes must be safe snake_case identifiers."))

/-- `_validate_output`. -/
def validateOutput (output : ReportProcessingOutput) : Except ProcessingError Unit := do
  ensure (([output.storageBucket, output.normalizedStorageKey, output.normalizedStorageVersionId,
      output.normalizedEtag, output.profileStorageKey, output.profileStorageVersionId,
      output.profileEtag].all fun value => !(strip value).isEmpty) = true)
    (.value (str "Completed processing outputs require non-empty storage metadata."))
  ensure (3 ≤ output.storageBucket.length ∧ output.storageBucket.length ≤ 63)
    (.value (str "The processing result bucket length is invalid."))
  ensure (0 < output.normalizedSizeBytes)
    (.value (str "The normalized output must contain at least one byte."))
  ensure (0 ≤ output.recordCount ∧ 0 < output.sheetCount)
    (.value (str "Processing output counts are invalid."))

-- ---------------------------------------------------------------------------
-- Transitions of one row
-- ---------------------------------------------------------------------------

def ReportProcessingStatus.isTerminal : ReportProcessingStatus → Bool
  | .completed | .failed => true
  | .queued | .processing => false

namespace ReportProcessingJob

variable (j : ReportProcessingJob)

/-- `_terminal_failure`. -/
def terminalFailure (errorCode : Str) (now : Datetime) : ReportProcessingJob :=
  { j with
    attemptCount := if j.attemptCount = 0 then 1 else j.attemptCount
    startedAt := some (j.startedAt.getD now)
    status := .failed
    availableAt := none
    leaseToken := none
    leaseExpiresAt := none
    errorCode := some errorCode
    finishedAt := some now }

/-- None of the early returns of `claim_job` before it counts the attempts. -/
def isClaimable (claimedAt : Datetime) : Bool :=
  !j.status.isTerminal &&
    !(j.status == .processing && j.leaseExpiresAt.any (claimedAt < ·)) &&
    !(j.status == .queued && j.availableAt.any (claimedAt < ·))

/-- The delay that `claim_retry_delay` computes of a row. -/
def retryDelay (checkedAt : Datetime) : Option Int :=
  match j.status with
  | .queued => some (max (j.availableAt.getD checkedAt - checkedAt) (seconds 1))
  | .processing => some (max (j.leaseExpiresAt.getD checkedAt - checkedAt) (seconds 1))
  | .completed | .failed => none

/-- The fields a successful claim sets. -/
def claimed (token : Uuid) (claimedAt : Datetime) (leaseDuration : Int) : ReportProcessingJob :=
  { j with
    status := .processing
    attemptCount := j.attemptCount + 1
    availableAt := none
    startedAt := some (j.startedAt.getD claimedAt)
    leaseToken := some token
    leaseExpiresAt := some (claimedAt + leaseDuration)
    finishedAt := none
    errorCode := none }

/-- The fields `retry_job` sets while attempts are left. -/
def requeued (errorCode : Str) (availableAt : Datetime) : ReportProcessingJob :=
  { j with
    status := .queued
    availableAt := some availableAt
    leaseToken := none
    leaseExpiresAt := none
    errorCode := some errorCode }

/-- The fields `complete_job` sets. -/
def completed (output : ReportProcessingOutput) (now : Datetime) : ReportProcessingJob :=
  { j with
    status := .completed
    availableAt := none
    leaseToken := none
    leaseExpiresAt := none
    finishedAt := some now
    errorCode := none
    resultStorageBucket := some output.storageBucket
    normalizedStorageKey := some output.normalizedStorageKey
    normalizedStorageVersionId := some output.normalizedStorageVersionId
    normalizedEtag := some output.normalizedEtag
    normalizedSizeBytes := some output.normalizedSizeBytes
    profileStorageKey := some output.profileStorageKey
    profileStorageVersionId := some output.profileStorageVersionId
    profileEtag := some output.profileEtag
    recordCount := some output.recordCount
    sheetCount := some output.sheetCount }

/-- `is_due` of `dispatch_due_jobs`. -/
def isDue (dispatchTime : Datetime) : Bool :=
  j.status == .queued && j.availableAt.any (· ≤ dispatchTime) &&
    j.lastDispatchedAt.all (· ≤ dispatchTime - reportProcessingRedispatchInterval)

/-- The row that the flush of a dispatch leaves: the session incremented the count of the
instance that it had loaded. -/
def dispatched (loaded row : ReportProcessingJob) (recordedAt : Datetime) : ReportProcessingJob :=
  { row with
    dispatchAttemptCount := column loaded.dispatchAttemptCount (loaded.dispatchAttemptCount + 1)
      row.dispatchAttemptCount
    lastDispatchedAt := column loaded.lastDispatchedAt (some recordedAt) row.lastDispatchedAt }

end ReportProcessingJob

-- ---------------------------------------------------------------------------
-- The service
-- ---------------------------------------------------------------------------

structure ReportProcessingClaim where
  jobId : Uuid
  businessId : Uuid
  reportUploadId : Uuid
  leaseToken : Uuid
  attemptCount : Int
  maxAttempts : Int
  storageBucket : Str
  storageKey : Str
  storageVersionId : Str
  sourceEtag : Str
  originalFilename : Str
  fileExtension : Str
  contentType : Str
  expectedSizeBytes : Int

/-- The identifier and the two readings of the clock that a new job draws, in the order of
its fields. -/
structure JobDraws where
  id : Uuid
  createdAt : Datetime
  availableAt : Datetime

namespace ProcessingDatabase

variable (db : ProcessingDatabase)

/-- Write one row and commit. -/
def saveJob (job : ReportProcessingJob) : Except ProcessingError ProcessingDatabase := do
  let jobs ← required (db.jobs.update? job) .integrity
  return { db with jobs }

/-- The job that an upload gets. -/
def newJob (scope : Uuid) (upload : ReportUpload) (draws : JobDraws) : ReportProcessingJob where
  id := draws.id
  businessId := scope
  createdAt := draws.createdAt
  reportUploadId := upload.id
  sourceStorageVersionId := upload.storageVersionId.getD []
  sourceEtag := upload.etag.getD []
  availableAt := some draws.availableAt

/-- One upload of `ensure_jobs_for_uploads`: its job, or a new one; the flush at the end
turns an integrity error into a conflict. -/
def ensureJob (scope : Uuid) (known : Table ReportProcessingJob) (upload : ReportUpload)
    (draws : JobDraws) : Except ProcessingError (ProcessingDatabase × ReportProcessingJob) :=
  match known.find? fun j => j.businessId == scope && j.reportUploadId == upload.id with
  | some existing => do
    ensure (some existing.sourceStorageVersionId = upload.storageVersionId ∧
      some existing.sourceEtag = upload.etag) .conflict
    return (db, existing)
  | none => do
    let job := newJob scope upload draws
    let jobs ← required (db.jobs.insert? job) .conflict
    return ({ db with jobs }, job)

def ensureJobs (scope : Uuid) (known : Table ReportProcessingJob) (db : ProcessingDatabase) :
    List (ReportUpload × JobDraws) →
      Except ProcessingError (ProcessingDatabase × List ReportProcessingJob)
  | [] => .ok (db, [])
  | (upload, draws) :: rest => do
    let (db₁, job) ← db.ensureJob scope known upload draws
    let (db₂, jobs) ← ensureJobs scope known db₁ rest
    return (db₂, job :: jobs)

/-- An upload that `ensure_jobs_for_uploads` takes: verified, with a version and an etag. -/
def hasSource (upload : ReportUpload) : Bool :=
  upload.storageVersionId.any (!·.isEmpty) && upload.etag.any (!·.isEmpty)

/-- `ensure_jobs_for_uploads`, with the draws of each upload. -/
def ensureJobsForUploads (scope : Uuid) (uploads : List (ReportUpload × JobDraws)) :
    Except ProcessingError (ProcessingDatabase × List ReportProcessingJob) := do
  let verified := uploads.filter (·.1.status == .uploaded)
  ensure ((verified.all (·.1.businessId == scope)) = true) .conflict
  ensure ((verified.all (hasSource ·.1)) = true) .conflict
  ensureJobs scope db.jobs db verified

/-- The locked part of `dispatch_due_jobs`, over the instance the session had loaded. -/
def recordDispatch (loaded : ReportProcessingJob) (recordedAt : Datetime) :
    Except ProcessingError ProcessingDatabase :=
  match db.jobs.get? loaded.id with
  | none => .ok db
  | some row => db.saveJob (loaded.dispatched row recordedAt)

/-- The upload of a job, with its size, while it is what the job was made for. -/
def validSource (job : ReportProcessingJob) : Option (ReportUpload × Int) :=
  match db.uploads.find? fun u => u.id == job.reportUploadId && u.businessId == job.businessId with
  | none => none
  | some upload =>
    if upload.status = .uploaded ∧ upload.storageVersionId = some job.sourceStorageVersionId ∧
        upload.etag = some job.sourceEtag then
      upload.actualSizeBytes.map fun size => (upload, size)
    else none

/-- What a successful claim of the job returns. -/
def claimOf (job : ReportProcessingJob) (upload : ReportUpload) (size : Int) (token : Uuid) :
    ReportProcessingClaim where
  jobId := job.id
  businessId := job.businessId
  reportUploadId := job.reportUploadId
  leaseToken := token
  attemptCount := job.attemptCount + 1
  maxAttempts := job.maxAttempts
  storageBucket := upload.storageBucket
  storageKey := upload.storageKey
  storageVersionId := job.sourceStorageVersionId
  sourceEtag := job.sourceEtag
  originalFilename := upload.originalFilename
  fileExtension := upload.fileExtension
  contentType := upload.contentType
  expectedSizeBytes := size

/-- `claim_job`. -/
def claimJob (jobId : Uuid) (claimedAt : Datetime) (leaseDuration : Int) (token : Uuid) :
    Except ProcessingError (ProcessingDatabase × Option ReportProcessingClaim) := do
  ensure (0 < leaseDuration) (.value (str "The processing lease duration must be positive."))
  match db.jobs.get? jobId with
  | none => return (db, none)
  | some job =>
    if job.isClaimable claimedAt = false then return (db, none)
    if job.maxAttempts ≤ job.attemptCount then
      return (← db.saveJob (job.terminalFailure attemptLimitError claimedAt), none)
    match db.validSource job with
    | none => return (← db.saveJob (job.terminalFailure sourceInvalidError claimedAt), none)
    | some (upload, size) =>
      let db' ← db.saveJob (job.claimed token claimedAt leaseDuration)
      return (db', some (claimOf job upload size token))

/-- `claim_retry_delay`. -/
def claimRetryDelay (jobId : Uuid) (checkedAt : Datetime) : Option Int :=
  (db.jobs.get? jobId).bind fun job => job.retryDelay checkedAt

/-- `_locked_processing_job`. -/
def lockedProcessingJob (jobId leaseToken : Uuid) : Option ReportProcessingJob :=
  (db.jobs.get? jobId).filter fun job =>
    job.status == .processing && job.leaseToken == some leaseToken

/-- `retry_job`. -/
def retryJob (jobId leaseToken : Uuid) (errorCode : Str) (retryDelay : Int)
    (transitionAt : Datetime) : Except ProcessingError (ProcessingDatabase × Bool) := do
  validateProcessingErrorCode errorCode
  ensure (0 ≤ retryDelay) (.value (str "The processing retry delay cannot be negative."))
  match db.lockedProcessingJob jobId leaseToken with
  | none => return (db, false)
  | some job =>
    if job.maxAttempts ≤ job.attemptCount then
      return (← db.saveJob (job.terminalFailure errorCode transitionAt), true)
    else return (← db.saveJob (job.requeued errorCode (transitionAt + retryDelay)), true)

/-- `fail_job`. -/
def failJob (jobId leaseToken : Uuid) (errorCode : Str) (transitionAt : Datetime) :
    Except ProcessingError (ProcessingDatabase × Bool) := do
  validateProcessingErrorCode errorCode
  match db.lockedProcessingJob jobId leaseToken with
  | none => return (db, false)
  | some job => return (← db.saveJob (job.terminalFailure errorCode transitionAt), true)

/-- `complete_job`. -/
def completeJob (jobId leaseToken : Uuid) (output : ReportProcessingOutput)
    (transitionAt : Datetime) : Except ProcessingError (ProcessingDatabase × Bool) := do
  validateOutput output
  match db.lockedProcessingJob jobId leaseToken with
  | none => return (db, false)
  | some job => return (← db.saveJob (job.completed output transitionAt), true)

end ProcessingDatabase

end SpikeBackend
