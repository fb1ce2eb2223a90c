import SpikeBackend.Lib.Hex
import SpikeBackend.Lib.Machine
import SpikeBackend.Model.Processing

/-!
# Runs over report processing jobs

The requests of the API ensure and dispatch jobs, and any number of workers claim them,
process their reports and finish them (`execute_report_processing_job` in
`app/workers/tasks.py`), in any order; each transaction is one step. A worker reads the
clock before it waits for a lock, so the readings of different workers may reach the
database in any order.
-/

namespace SpikeBackend

open Relational Text Outcome

/-- `report_artifact_keys`: the part that both artifacts of a job share. -/
def artifactBase (storagePrefix : Str) (claim : ReportProcessingClaim) : Str :=
  storagePrefix ++ str "/" ++ uuidText claim.businessId ++ str "/processed/" ++
    uuidText claim.jobId

def normalizedKey (storagePrefix : Str) (claim : ReportProcessingClaim) : Str :=
  artifactBase storagePrefix claim ++ str "/normalized.v1.jsonl.gz"

def profileKey (storagePrefix : Str) (claim : ReportProcessingClaim) : Str :=
  artifactBase storagePrefix claim ++ str "/profile.v1.json"

/-- What the storage answers when the two artifacts are written, and the counts of the
parse. -/
structure StoredArtifacts where
  normalizedVersionId : Str
  normalizedEtag : Str
  normalizedSizeBytes : Int
  profileVersionId : Str
  profileEtag : Str
  recordCount : Int
  sheetCount : Int

/-- The output of `ReportArtifactProcessor.process`. -/
def StoredArtifacts.output (artifacts : StoredArtifacts) (storagePrefix : Str)
    (claim : ReportProcessingClaim) : ReportProcessingOutput where
  storageBucket := claim.storageBucket
  normalizedStorageKey := normalizedKey storagePrefix claim
  normalizedStorageVersionId := artifacts.normalizedVersionId
  normalizedEtag := artifacts.normalizedEtag
  normalizedSizeBytes := artifacts.normalizedSizeBytes
  profileStorageKey := profileKey storagePrefix claim
  profileStorageVersionId := artifacts.profileVersionId
  profileEtag := artifacts.profileEtag
  recordCount := artifacts.recordCount
  sheetCount := artifacts.sheetCount

/-- What `ReportArtifactProcessor.process` ends with, and the delay of a retry. -/
inductive ProcessorResult
  | output (output : ReportProcessingOutput)
  | terminal (errorCode : Str)
  | retryable (errorCode : Str) (retryDelay : Int)

/-- How the processing of a report goes. -/
inductive ProcessorOutcome
  | stored (storagePrefix : Str) (artifacts : StoredArtifacts)
  | terminal (errorCode : Str)
  | retryable (errorCode : Str) (retryDelay : Int)

def ProcessorOutcome.result (claim : ReportProcessingClaim) : ProcessorOutcome → ProcessorResult
  | .stored storagePrefix artifacts => .output (artifacts.output storagePrefix claim)
  | .terminal errorCode => .terminal errorCode
  | .retryable errorCode retryDelay => .retryable errorCode retryDelay

/-- A worker that holds a claim. -/
structure Worker where
  claim : ReportProcessingClaim
  claimedAt : Datetime
  result : Option ProcessorResult := none

/-- The worker with the token keeps how its processing went. -/
def Worker.learn (token : Uuid) (outcome : ProcessorOutcome) (w : Worker) : Worker :=
  if w.claim.leaseToken = token ∧ w.result.isNone = true then
    { w with result := some (outcome.result w.claim) }
  else w

/-- A completion: the job, the token it was made under, and the output. -/
structure Completion where
  jobId : Uuid
  token : Uuid
  output : ReportProcessingOutput

structure ProcessingState where
  db : ProcessingDatabase
  /-- the jobs that the sessions of API requests have loaded -/
  loads : List ReportProcessingJob := []
  /-- the workers whose claim succeeded, newest first -/
  workers : List Worker := []
  completions : List Completion := []

inductive ProcessingAction
  | changeUploads (uploads : Table ReportUpload)
  | ensureJobs (scope : Uuid) (uploads : List (ReportUpload × JobDraws))
  /-- a session of the API loads a job -/
  | load (jobId : Uuid)
  /-- a session dispatches the `n`th job loaded, if it is due -/
  | dispatch (n : Nat) (dispatchTime recordedAt : Datetime)
  | claim (jobId : Uuid) (claimedAt : Datetime) (leaseDuration : Int) (token : Uuid)
  /-- the worker with the token processes its report -/
  | process (token : Uuid) (outcome : ProcessorOutcome)
  /-- the worker with the token hands its result in -/
  | finish (token : Uuid) (now : Datetime)

namespace ProcessingState

variable (s : ProcessingState)

def worker (token : Uuid) : Option Worker := s.workers.find? (·.claim.leaseToken == token)

/-- The worker that made the most recent claim of a job. -/
def latestWorker (jobId : Uuid) : Option Worker := s.workers.find? (·.claim.jobId == jobId)

/-- The number of successful claims of a job. -/
def claims (jobId : Uuid) : Nat := s.workers.countP (·.claim.jobId == jobId)

/-- The call that a worker makes with its result. -/
def finishJob (db : ProcessingDatabase) (w : Worker) (now : Datetime) :
    Except ProcessingError (ProcessingDatabase × Bool) :=
  match w.result with
  | none => .ok (db, false)
  | some (.output output) => db.completeJob w.claim.jobId w.claim.leaseToken output now
  | some (.terminal errorCode) => db.failJob w.claim.jobId w.claim.leaseToken errorCode now
  | some (.retryable errorCode retryDelay) =>
    db.retryJob w.claim.jobId w.claim.leaseToken errorCode retryDelay now

/-- The completion that a changed row records. -/
def completionOf (w : Worker) (changed : Bool) : List Completion :=
  match changed, w.result with
  | true, some (.output output) => [⟨w.claim.jobId, w.claim.leaseToken, output⟩]
  | _, _ => []

/-- One transaction: what it leaves, and whether it changed a job. -/
def perform : ProcessingAction → Except ProcessingError (ProcessingState × Bool)
  | .changeUploads uploads => .ok ({ s with db := { s.db with uploads } }, false)
  | .ensureJobs scope uploads => do
    let (db, jobs) ← s.db.ensureJobsForUploads scope uploads
    return ({ s with db, loads := s.loads ++ jobs }, false)
  | .load jobId => .ok ({ s with loads := s.loads ++ (s.db.jobs.get? jobId).toList }, false)
  | .dispatch n dispatchTime recordedAt =>
    match (s.loads[n]?).filter (·.isDue dispatchTime) with
    | none => .ok (s, false)
    | some loaded => do
      let db ← s.db.recordDispatch loaded recordedAt
      return ({ s with db }, true)
  | .claim jobId claimedAt leaseDuration token => do
    let (db, claim?) ← s.db.claimJob jobId claimedAt leaseDuration token
    match claim? with
    | none => return ({ s with db }, false)
    | some claim => return ({ s with db, workers := ⟨claim, claimedAt, none⟩ :: s.workers }, true)
  | .process token outcome =>
    .ok ({ s with workers := s.workers.map (Worker.learn token outcome) }, false)
  | .finish token now =>
    match s.worker token with
    | none => .ok (s, false)
    | some w => do
      let (db, changed) ← finishJob s.db w now
      return ({ s with db, completions := completionOf w changed ++ s.completions }, changed)

/-- What a clock that does not run backwards and identifiers drawn by `uuid4` guarantee: a
new job is available once it is created, nothing is read before the job was created, a
worker finishes after it claimed, and no token is drawn twice. -/
def inOrder : ProcessingAction → Bool
  | .ensureJobs _ uploads => uploads.all fun u => decide (u.2.createdAt ≤ u.2.availableAt)
  | .dispatch n _ recordedAt => (s.loads[n]?).all fun loaded => decide (loaded.createdAt ≤ recordedAt)
  | .claim jobId claimedAt _ token =>
    (s.db.jobs.get? jobId).all (fun job => decide (job.createdAt ≤ claimedAt)) &&
      (s.worker token).isNone
  | .finish token now => (s.worker token).all fun w => decide (w.claimedAt ≤ now)
  | _ => true

def step (a : ProcessingAction) : ProcessingState :=
  if s.inOrder a then commit s (s.perform a) else s

/-- The uploads and the jobs at the start. -/
def init (uploads : Table ReportUpload) (jobs : Table ReportProcessingJob) : ProcessingState where
  db := { uploads, jobs }

end ProcessingState

end SpikeBackend
