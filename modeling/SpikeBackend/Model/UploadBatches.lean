import SpikeBackend.Lib.Decimals
import SpikeBackend.Lib.Hex
import SpikeBackend.Lib.Remote
import SpikeBackend.Lib.StableSort
import SpikeBackend.Model.Processing
import SpikeBackend.Model.Uploads

/-!
# Upload batches

The rows of `app/models/upload.py`, the object storage behind `S3UploadGateway`
(`app/services/s3_storage.py`), and `ReportUploadService.complete_batch`
(`app/services/uploads.py`) up to its commit. The database is rolled back when the function
raises; the object storage is not.
-/

namespace SpikeBackend

open Relational Text Collections Outcome Remote

-- ---------------------------------------------------------------------------
-- Rows
-- ---------------------------------------------------------------------------

def maxReportUploadBytes : Int := 25 * 1024 * 1024

def maxReportUploadFilesPerBatch : Int := 5

inductive ReportUploadBatchStatus
  | pending
  | complete
  | part
  | rejected
  | expired
  deriving DecidableEq, Repr

structure ReportUploadBatch where
  id : Uuid
  businessId : Uuid
  createdAt : Datetime
  createdByUserId : Uuid
  status : ReportUploadBatchStatus := .pending
  fileCount : Int
  expiresAt : Datetime
  completedAt : Option Datetime := none
  deriving DecidableEq

instance : Schema ReportUploadBatch Uuid where
  key := ReportUploadBatch.id
  clash _ _ := false
  checks r :=
    decide (1 ≤ r.fileCount ∧ r.fileCount ≤ maxReportUploadFilesPerBatch) &&
      decide (r.createdAt < r.expiresAt) &&
      (decide (r.status = .pending) == r.completedAt.isNone)
  clash_comm _ _ := rfl

/-- A row of `report_uploads` with the columns that belong to its batch. -/
structure BatchUpload extends ReportUpload where
  batchId : Uuid
  batchPosition : Int
  expectedSizeBytes : Int
  expiresAt : Datetime
  uploadedAt : Option Datetime := none
  rejectedAt : Option Datetime := none
  rejectionCode : Option Str := none

namespace BatchUpload

variable (u : BatchUpload)

/-- `ck_report_uploads_content_type`, which holds of the known extensions only. -/
def contentTypeCheck : Bool :=
  (u.fileExtension == str "csv" && u.contentType == str "text/csv") ||
  (u.fileExtension == str "xls" && u.contentType == str "application/vnd.ms-excel") ||
  (u.fileExtension == str "xlsx" && u.contentType ==
    str "application/vnd.openxmlformats-officedocument.spreadsheetml.sheet")

/-- `ck_report_uploads_status_fields`. -/
def statusFieldsCheck : Bool :=
  match u.status with
  | .pending =>
    u.actualSizeBytes.isNone && u.storageVersionId.isNone && u.etag.isNone &&
      u.uploadedAt.isNone && u.rejectedAt.isNone && u.rejectionCode.isNone
  | .uploaded =>
    u.actualSizeBytes.isSome && u.storageVersionId.isSome && u.etag.isSome &&
      u.uploadedAt.isSome && u.rejectedAt.isNone && u.rejectionCode.isNone
  | .rejected | .expired =>
    u.actualSizeBytes.isNone && u.storageVersionId.isNone && u.etag.isNone &&
      u.uploadedAt.isNone && u.rejectedAt.isSome && u.rejectionCode.isSome

/-- All CHECK constraints of the table. -/
def checks : Bool :=
  decide (0 ≤ u.batchPosition ∧ u.batchPosition ≤ maxReportUploadFilesPerBatch - 1) &&
    decide (1 ≤ u.expectedSizeBytes ∧ u.expectedSizeBytes ≤ maxReportUploadBytes) &&
    u.actualSizeBytes.all (fun n => decide (1 ≤ n ∧ n ≤ maxReportUploadBytes)) &&
    u.contentTypeCheck && !u.storageBucket.isEmpty && !u.storageKey.isEmpty && u.statusFieldsCheck

end BatchUpload

/-- One upload per position of a batch, and one per storage key. -/
instance : Schema BatchUpload Uuid where
  key := fun u => u.id
  clash a b := (a.batchId == b.batchId && a.batchPosition == b.batchPosition) ||
    a.storageKey == b.storageKey
  checks := BatchUpload.checks
  clash_comm a b := by
    rw [Bool.eq_iff_iff]
    simp only [Bool.or_eq_true, Bool.and_eq_true, beq_iff_eq]
    constructor
    · rintro (⟨h, h'⟩ | h)
      · exact .inl ⟨h.symm, h'.symm⟩
      · exact .inr h.symm
    · rintro (⟨h, h'⟩ | h)
      · exact .inl ⟨h.symm, h'.symm⟩
      · exact .inr h.symm

structure UploadDatabase where
  batches : Table ReportUploadBatch := .empty
  uploads : Table BatchUpload := .empty
  jobs : Table ReportProcessingJob := .empty

-- ---------------------------------------------------------------------------
-- The object storage
-- ---------------------------------------------------------------------------

def s3EncryptionAlgorithm : Str := str "AES256"

def s3CacheControl : Str := str "no-store"

/-- A `datetime`, which need not have a time zone. -/
structure LastModified where
  moment : Datetime
  aware : Bool

structure StoredS3Object where
  contentLength : Int
  contentType : Option Str
  cacheControl : Option Str
  serverSideEncryption : Option Str
  metadata : List (Str × Str)
  etag : Option Str
  versionId : Option Str
  lastModified : Option LastModified

/-- A version of an object. -/
structure ObjectVersion extends StoredS3Object where
  content : List UInt8

/-- The versions of the objects by bucket and key, the current one first. -/
@[ext] structure ObjectStore where
  versions : Str → Str → List ObjectVersion

namespace ObjectStore

/-- A store has at most the versions of another one. -/
instance : PartialOrder ObjectStore where
  le s t := ∀ bucket key, (s.versions bucket key).Sublist (t.versions bucket key)
  le_refl s bucket key := List.Sublist.refl _
  le_trans s t u hst htu bucket key := (hst bucket key).trans (htu bucket key)
  le_antisymm s t hst hts := by
    refine ObjectStore.ext (funext fun bucket => funext fun key => ?_)
    exact (hst bucket key).antisymm (hts bucket key)

variable (s : ObjectStore)

def current (bucket key : Str) : Option ObjectVersion := (s.versions bucket key).head?

def version? (bucket key versionId : Str) : Option ObjectVersion :=
  (s.versions bucket key).find? fun v => v.versionId == some versionId

/-- Remove one version of an object. -/
def delete (bucket key versionId : Str) : ObjectStore where
  versions b k :=
    if b = bucket ∧ k = key then (s.versions b k).filter fun v => v.versionId != some versionId
    else s.versions b k

end ObjectStore

inductive S3StorageError
  | unavailable
  | bucketSecurity
  deriving DecidableEq

/-- What `complete_batch` raises; `value` is the `ValueError` of an extension that is not known,
`integrity` the driver's `IntegrityError`. -/
inductive CompleteBatchError
  | disabled
  | conflict
  | storage (error : S3StorageError)
  | value
  | processing (error : ProcessingError)
  | integrity
  deriving DecidableEq

/-- A program over the object storage. -/
abbrev StorageProgram := Program ObjectStore CompleteBatchError

/-- A content that is not longer than what was verified. -/
def boundedContent (maxBytes : Int) (content : Option (List UInt8)) :
    StorageProgram (Option (List UInt8)) :=
  if content.any (fun bytes => decide (maxBytes < bytes.length)) then
    .done (.error (.storage .unavailable))
  else return content

namespace S3UploadGateway

/-- `ensure_bucket_security`: it passes or raises. -/
def ensureBucketSecurity : StorageProgram Unit :=
  .request (.storage .unavailable) (fun _ => ()) id

/-- `head_object`; `none` is an `S3ObjectNotFoundError`. -/
def headObject (bucket key : Str) : StorageProgram (Option StoredS3Object) :=
  .request (.storage .unavailable)
    (fun s => (s.current bucket key).map ObjectVersion.toStoredS3Object) id

/-- `read_object`; `none` is an `S3ObjectNotFoundError`. -/
def readObject (bucket key versionId : Str) (maxBytes : Int) :
    StorageProgram (Option (List UInt8)) := do
  let content ← .request (.storage .unavailable)
    (fun s => (s.version? bucket key versionId).map ObjectVersion.content) id
  boundedContent maxBytes content

/-- `delete_object`. -/
def deleteObject (bucket key versionId : Str) : StorageProgram Unit :=
  .request (.storage .unavailable) (fun _ => ()) fun s => s.delete bucket key versionId

end S3UploadGateway

-- ---------------------------------------------------------------------------
-- Validation
-- ---------------------------------------------------------------------------

/-- The settings of uploads, with the checks of the two formats of workbooks. -/
structure UploadSettings where
  s3UploadsEnabled : Bool
  s3UploadBucket : Option Str
  awsRegion : Option Str
  validateXlsContent : List UInt8 → Except SuspiciousReportContentError Unit
  validateXlsxContent : List UInt8 → Except SuspiciousReportContentError Unit

namespace UploadSettings

variable (settings : UploadSettings)

/-- The bucket of `_storage_configuration`. -/
def storageConfiguration : Except CompleteBatchError Str := do
  ensure (settings.s3UploadsEnabled = true ∧ settings.awsRegion.any (!·.isEmpty)) .disabled
  required (settings.s3UploadBucket.filter (!·.isEmpty)) .disabled

/-- `validate_report_content`: the verdict on the content, or the `ValueError`. -/
def validateReportContent (extension : Str) (content : List UInt8) :
    Except CompleteBatchError (Except SuspiciousReportContentError Unit) :=
  if extension = str "csv" then .ok (validateCsvContent content)
  else if extension = str "xls" then .ok (settings.validateXlsContent content)
  else if extension = str "xlsx" then .ok (settings.validateXlsxContent content)
  else .error .value

end UploadSettings

def uploadExpired : Str := str "upload_expired"

/-- The metadata that the presigned form fixed. -/
def expectedMetadata (upload : BatchUpload) : List (Str × Str) :=
  [(str "business-id", uuidText upload.businessId), (str "batch-id", uuidText upload.batchId),
    (str "upload-id", uuidText upload.id),
    (str "expected-size", intText upload.expectedSizeBytes)]

/-- `_object_rejection_code`. -/
def objectRejectionCode (upload : BatchUpload) (stored : StoredS3Object) : Option Str :=
  if stored.contentLength ≠ upload.expectedSizeBytes then some (str "size_mismatch")
  else if stored.contentType ≠ some upload.contentType then some (str "content_type_mismatch")
  else if stored.cacheControl ≠ some s3CacheControl then some (str "storage_policy_mismatch")
  else if stored.serverSideEncryption ≠ some s3EncryptionAlgorithm then
    some (str "storage_encryption_mismatch")
  else if stored.etag.all (·.isEmpty) then some (str "storage_policy_mismatch")
  else match stored.lastModified with
    | none => some (str "storage_policy_mismatch")
    | some lastModified =>
      if lastModified.aware = false then some (str "storage_policy_mismatch")
      else if upload.expiresAt < lastModified.moment then some uploadExpired
      else if (expectedMetadata upload).any fun field =>
          stored.metadata.lookup field.1 != some field.2 then
        some (str "storage_metadata_mismatch")
      else none

/-- `_batch_status`. -/
def batchStatus (uploads : List BatchUpload) : ReportUploadBatchStatus :=
  if uploads.any (·.status == .pending) then .pending
  else if uploads.all (·.status == .uploaded) then .complete
  else if uploads.any (·.status == .uploaded) then .part
  else if uploads.all (·.status == .expired) then .expired
  else .rejected

-- ---------------------------------------------------------------------------
-- Completion
-- ---------------------------------------------------------------------------

namespace BatchUpload

variable (u : BatchUpload)

/-- An upload that never arrived. -/
def expire (now : Datetime) : BatchUpload :=
  { u with status := .expired, rejectionCode := some uploadExpired, rejectedAt := some now }

/-- An upload that is not there, at a time before or after the batch expires. -/
def absent (batch : ReportUploadBatch) (now : Datetime) : BatchUpload :=
  if batch.expiresAt ≤ now then u.expire now else u

def reject (code : Str) (now : Datetime) : BatchUpload :=
  { u with
    status := if code = uploadExpired then .expired else .rejected
    rejectionCode := some code
    rejectedAt := some now }

/-- An upload whose object has passed. -/
def accept (stored : StoredS3Object) (now : Datetime) : BatchUpload :=
  { u with
    status := .uploaded
    actualSizeBytes := some stored.contentLength
    storageVersionId := stored.versionId
    etag := stored.etag
    uploadedAt := some now
    rejectionCode := none
    rejectedAt := none }

end BatchUpload

/-- The version that a head names, unless it is the null version. -/
def immutableVersion (stored : StoredS3Object) : Option Str :=
  stored.versionId.filter fun v => !v.isEmpty && v != str "null"

/-- `_reject_object`. -/
def rejectObject (upload : BatchUpload) (versionId code : Str) (now : Datetime) :
    StorageProgram BatchUpload := do
  S3UploadGateway.deleteObject upload.storageBucket upload.storageKey versionId
  return upload.reject code now

section

variable (settings : UploadSettings)

/-- The part of `_verify_pending_upload` that looks at the content of the object. -/
def verifyContent (now : Datetime) (upload : BatchUpload) (stored : StoredS3Object)
    (versionId : Str) (content : List UInt8) : StorageProgram BatchUpload :=
  if (content.length : Int) ≠ stored.contentLength then
    rejectObject upload versionId (str "size_mismatch") now
  else
    match settings.validateReportContent upload.fileExtension content with
    | .error e => .done (.error e)
    | .ok (.error e) => rejectObject upload versionId e.code now
    | .ok (.ok ()) => return upload.accept stored now

/-- The part of `_verify_pending_upload` for an object that is there. -/
def verifyStored (batch : ReportUploadBatch) (now : Datetime) (upload : BatchUpload)
    (stored : StoredS3Object) : StorageProgram BatchUpload :=
  match immutableVersion stored with
  | none => .done (.error (.storage .bucketSecurity))
  | some versionId =>
    match objectRejectionCode upload stored with
    | some code => rejectObject upload versionId code now
    | none => do
      match ← S3UploadGateway.readObject upload.storageBucket upload.storageKey versionId
          upload.expectedSizeBytes with
      | none => return upload.absent batch now
      | some content => verifyContent settings now upload stored versionId content

/-- `_verify_pending_upload`. -/
def verifyPendingUpload (batch : ReportUploadBatch) (now : Datetime) (upload : BatchUpload) :
    StorageProgram BatchUpload := do
  match ← S3UploadGateway.headObject upload.storageBucket upload.storageKey with
  | none => return upload.absent batch now
  | some stored => verifyStored settings batch now upload stored

/-- One turn of the loop over the uploads of a batch. -/
def verifyUpload (batch : ReportUploadBatch) (now : Datetime) (upload : BatchUpload) :
    StorageProgram BatchUpload :=
  if upload.status = .pending then verifyPendingUpload settings batch now upload
  else return upload

/-- The loop over the uploads of a batch. -/
def verifyUploads (batch : ReportUploadBatch) (now : Datetime) :
    List BatchUpload → StorageProgram (List BatchUpload)
  | [] => return []
  | upload :: uploads => do
    let verified ← verifyUpload settings batch now upload
    let rest ← verifyUploads batch now uploads
    return verified :: rest

/-- The part of `complete_batch` for a batch that is pending. -/
def verifyPendingBatch (batch : ReportUploadBatch) (uploads : List BatchUpload) (now : Datetime) :
    StorageProgram (ReportUploadBatch × List BatchUpload) := do
  let configuredBucket ← (monadLift settings.storageConfiguration : StorageProgram Str)
  (monadLift (ensure ((uploads.all (·.storageBucket == configuredBucket)) = true)
    CompleteBatchError.conflict) : StorageProgram Unit)
  S3UploadGateway.ensureBucketSecurity
  let verified ← verifyUploads settings batch now uploads
  let status := batchStatus verified
  return ({ batch with
    status := status
    completedAt := if status = .pending then batch.completedAt else some now }, verified)

/-- The part of `complete_batch` that verifies a batch and its uploads. -/
def verifyBatch (batch : ReportUploadBatch) (uploads : List BatchUpload) (now : Datetime) :
    StorageProgram (ReportUploadBatch × List BatchUpload) :=
  if batch.status = .pending then verifyPendingBatch settings batch uploads now
  else return (batch, uploads)

end

structure ReportUploadBatchResult where
  batch : ReportUploadBatch
  uploads : List BatchUpload
  processingJobs : List ReportProcessingJob

namespace UploadDatabase

variable (db : UploadDatabase)

/-- `_locked_batch`. -/
def lockedBatch (scope batchId : Uuid) : Option ReportUploadBatch :=
  db.batches.find? fun b => b.businessId == scope && b.id == batchId

/-- `_batch_uploads`. -/
def batchUploads (scope batchId : Uuid) : List BatchUpload :=
  sortBy BatchUpload.batchPosition
    (db.uploads.rows.filter fun u => u.businessId == scope && u.batchId == batchId)

/-- The rows that the session flushes. -/
def saveBatch (batch : ReportUploadBatch) (uploads : List BatchUpload) :
    Except CompleteBatchError UploadDatabase := do
  let batches ← required (db.batches.update? batch) .integrity
  let uploads ← uploads.foldlM (fun t u => required (t.update? u) .integrity) db.uploads
  return { db with batches, uploads }

/-- The jobs of a batch that is no longer pending; each new one draws by its upload. -/
def ensureBatchJobs (scope : Uuid) (batch : ReportUploadBatch) (uploads : List BatchUpload)
    (draws : Uuid → JobDraws) :
    Except CompleteBatchError (UploadDatabase × List ReportProcessingJob) :=
  if batch.status = .pending then .ok (db, [])
  else
    match ({ jobs := db.jobs } : ProcessingDatabase).ensureJobsForUploads scope
        (uploads.map fun u => (u.toReportUpload, draws u.id)) with
    | .ok (processing, jobs) => .ok ({ db with jobs := processing.jobs }, jobs)
    | .error e => .error (.processing e)

/-- What is committed. -/
def finishBatch (scope : Uuid) (batch : ReportUploadBatch) (uploads : List BatchUpload)
    (draws : Uuid → JobDraws) :
    Except CompleteBatchError (UploadDatabase × Option ReportUploadBatchResult) := do
  let saved ← db.saveBatch batch uploads
  let (done, jobs) ← saved.ensureBatchJobs scope batch uploads draws
  return (done, some { batch, uploads, processingJobs := jobs })

/-- `complete_batch` up to the commit; `none` is a batch that is not there. -/
def completeBatch (settings : UploadSettings) (scope batchId : Uuid) (now : Datetime)
    (draws : Uuid → JobDraws) :
    StorageProgram (UploadDatabase × Option ReportUploadBatchResult) :=
  match db.lockedBatch scope batchId with
  | none => return (db, none)
  | some batch => do
    let uploads := db.batchUploads scope batchId
    (monadLift (ensure ((uploads.length : Int) = batch.fileCount) CompleteBatchError.conflict) :
      StorageProgram Unit)
    let verified ← verifyBatch settings batch uploads now
    monadLift (db.finishBatch scope verified.1 verified.2 draws)

end UploadDatabase

-- ---------------------------------------------------------------------------
-- Calls
-- ---------------------------------------------------------------------------

/-- The committed rows and the stored objects. -/
structure UploadState where
  db : UploadDatabase
  store : ObjectStore

/-- A call of `complete_batch`: its time, what it draws, and the fates of its storage calls. -/
structure CompleteCall where
  now : Datetime
  draws : Uuid → JobDraws
  fates : List Fate

namespace UploadState

variable (settings : UploadSettings) (scope batchId : Uuid) (s : UploadState) (c : CompleteCall)

/-- What a call returns or raises, and the objects that it leaves. -/
def ran : Except CompleteBatchError (UploadDatabase × Option ReportUploadBatchResult) ×
    ObjectStore :=
  (s.db.completeBatch settings scope batchId c.now c.draws).run s.store c.fates

/-- The state after a call: the rows are rolled back if it raises. -/
def complete : UploadState where
  db := commit s.db (s.ran settings scope batchId c).1
  store := (s.ran settings scope batchId c).2

/-- The statuses and the rejection codes of the uploads of a batch. -/
def verdicts : List (Uuid × ReportUploadStatus × Option Str) :=
  (s.db.batchUploads scope batchId).map fun u => (u.id, u.status, u.rejectionCode)

end UploadState

end SpikeBackend
