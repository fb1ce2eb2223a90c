import SpikeBackend.Lib.Concurrent
import SpikeBackend.Model.ProcessingRuns
import SpikeBackend.Model.ProcessingTasks
import SpikeBackend.Model.SourceArtifacts
import SpikeBackend.Model.UploadBatches

/-!
# Processing a report

`ReportArtifactProcessor.process` (`app/services/processing_artifacts.py`) as a program over the
object storage, with the calls of `Boto3S3UploadGateway` (`app/services/s3_storage.py`) that it
makes, and what `execute_report_processing_job` (`app/workers/tasks.py`) hands in afterwards. Other
workers and clients work on the same storage.
-/

namespace SpikeBackend

open Text Outcome Remote

-- ---------------------------------------------------------------------------
-- The storage
-- ---------------------------------------------------------------------------

/-- The version that a bucket without versioning stores. -/
def nullVersion : Str := str "null"

/-- `s.strip('"')`. -/
def stripQuotes (s : Str) : Str :=
  ((s.dropWhile (· == 0x22)).reverse.dropWhile (· == 0x22)).reverse

/-- An object as it is put. -/
structure PutObject where
  content : List UInt8
  contentType : Option Str
  contentEncoding : Option Str
  cacheControl : Option Str
  serverSideEncryption : Option Str
  metadata : List (Str × Str)

/-- What the storage answers to a put, and the time that it notes. -/
structure PutResponse where
  etag : Option Str
  versionId : Option Str
  lastModified : Option LastModified

namespace PutResponse

variable (response : PutResponse)

/-- `str(response["ETag"]).strip('"')`, where there is one. -/
def etag? : Option Str := (response.etag.filter (!·.isEmpty)).map stripQuotes

def versionId? : Option Str := response.versionId.filter (!·.isEmpty)

/-- The version that the put has made. -/
def version (object : PutObject) : ObjectVersion where
  contentLength := object.content.length
  contentType := object.contentType
  cacheControl := object.cacheControl
  serverSideEncryption := object.serverSideEncryption
  metadata := object.metadata
  etag := response.etag?
  versionId := some (response.versionId?.getD nullVersion)
  lastModified := response.lastModified
  content := object.content

end PutResponse

namespace ObjectStore

variable (s : ObjectStore)

/-- A new version of an object, beside the others. -/
def add (bucket key : Str) (version : ObjectVersion) : ObjectStore where
  versions b k :=
    if b = bucket ∧ k = key then version :: s.versions b k else s.versions b k

/-- A new version of an object; it replaces the one with its identifier, as a second null version
does. -/
def put (bucket key : Str) (version : ObjectVersion) : ObjectStore where
  versions b k :=
    if b = bucket ∧ k = key then
      version :: (s.versions b k).filter fun v => v.versionId != version.versionId
    else s.versions b k

end ObjectStore

/-- The buckets: the versions that are there, all that ever were, and what
`_check_bucket_security` finds of a bucket. -/
structure Storage where
  objects : ObjectStore
  past : ObjectStore
  secure : Str → Bool

/-- How the storage answers puts. An identifier that it gives to a version it has not given to a
version of that object before, and no name that it gives is blank. -/
structure ObjectService where
  answer : Storage → Str → Str → PutResponse
  etag_not_blank : ∀ s bucket key etag, (answer s bucket key).etag? = some etag → etag ≠ [] →
    strip etag ≠ []
  versionId_not_blank : ∀ s bucket key id, (answer s bucket key).versionId? = some id →
    strip id ≠ []
  fresh : ∀ s bucket key id, (answer s bucket key).versionId? = some id → id ≠ nullVersion →
    ∀ v ∈ s.past.versions bucket key, v.versionId ≠ some id

namespace Storage

variable (s : Storage)

/-- The storage after a put. -/
def put (service : ObjectService) (bucket key : Str) (object : PutObject) : Storage :=
  { s with
    objects := s.objects.put bucket key ((service.answer s bucket key).version object)
    past := s.past.add bucket key ((service.answer s bucket key).version object) }

/-- The storage after the removal of one version. -/
def delete (bucket key versionId : Str) : Storage :=
  { s with objects := s.objects.delete bucket key versionId }

/-- `_read_object`: `none` is an object or a version that is not there. -/
def readObject (bucket key versionId : Str) (maxBytes : Int) :
    Except S3StorageError (Option (List UInt8)) :=
  match s.objects.version? bucket key versionId with
  | none => .ok none
  | some v => if maxBytes < v.content.length then .error .unavailable else .ok (some v.content)

/-- `read_object`, as `_read_source_artifact` answers its errors. -/
def readArtifact (bucket key versionId : Str) (maxBytes : Nat) :
    Except DashboardSnapshotError (List UInt8) :=
  match s.readObject bucket key versionId maxBytes with
  | .ok (some content) => .ok content
  | .ok none => .error .artifact
  | .error _ => .error .storage

end Storage

/-- What the reader of the snapshots calls, with the storage as it is. -/
def ArtifactLibrary.reading (art : ArtifactLibrary) (s : Storage) : ArtifactLibrary :=
  { art with readObject := s.readArtifact }

-- ---------------------------------------------------------------------------
-- The gateway
-- ---------------------------------------------------------------------------

structure WrittenS3Object where
  contentLength : Int
  etag : Str
  versionId : Str

/-- What `_write_object` makes of the answer; `none` is its `S3BucketSecurityError`. -/
def writtenObject (content : List UInt8) (response : PutResponse) : Option WrittenS3Object :=
  let etag := response.etag?.getD []
  let versionId := response.versionId?.getD []
  if etag.isEmpty || versionId.isEmpty || versionId == nullVersion then none
  else some ⟨content.length, etag, versionId⟩

/-- A program over the storage, with the errors of the gateway. -/
abbrev GatewayProgram := Program Storage S3StorageError

namespace ArtifactGateway

/-- `ensure_bucket_security`; it does not ask again what it has checked just before. -/
def ensureBucketSecurity (recentlyChecked : Bool) (bucket : Str) : GatewayProgram Unit :=
  if recentlyChecked then return ()
  else do
    let secure ← .request .unavailable (fun s => s.secure bucket) id
    (monadLift (ensure (secure = true) S3StorageError.bucketSecurity) : GatewayProgram Unit)

/-- `read_object`; `none` is an `S3ObjectNotFoundError`. -/
def readObject (bucket key versionId : Str) (maxBytes : Int) :
    GatewayProgram (Option (List UInt8)) := do
  let content ← .request .unavailable (fun s => s.readObject bucket key versionId maxBytes) id
  (monadLift content : GatewayProgram (Option (List UInt8)))

/-- `write_object`. -/
def writeObject (service : ObjectService) (bucket key : Str) (content : List UInt8)
    (contentType : Str) (contentEncoding : Option Str) (metadata : List (Str × Str)) :
    GatewayProgram WrittenS3Object := do
  let response ← .request .unavailable (fun s => service.answer s bucket key) fun s =>
    s.put service bucket key
      { content := content
        contentType := some contentType
        contentEncoding := contentEncoding
        cacheControl := some s3CacheControl
        serverSideEncryption := some s3EncryptionAlgorithm
        metadata := metadata }
  (monadLift (required (writtenObject content response) S3StorageError.bucketSecurity) :
    GatewayProgram WrittenS3Object)

end ArtifactGateway

-- ---------------------------------------------------------------------------
-- The processor
-- ---------------------------------------------------------------------------

def normalizedReportContentType : Str := str "application/x-ndjson"

def normalizedReportContentEncoding : Str := str "gzip"

def profileReportContentType : Str := str "application/json"

/-- What `process` raises; `unexpected` is any other exception. -/
inductive ReportProcessingFailure
  | terminal (code : Str)
  | retryable (code : Str)
  | unexpected
  deriving DecidableEq

/-- `TerminalReportProcessingError(code)`: the code is validated. -/
def terminalReportProcessingError (code : Str) : ReportProcessingFailure :=
  if isSafeErrorCode code then .terminal code else .unexpected

/-- `RetryableReportProcessingError(code)`. -/
def retryableReportProcessingError (code : Str) : ReportProcessingFailure :=
  if isSafeErrorCode code then .retryable code else .unexpected

/-- `[a-z0-9]`. -/
def isBucketChar (c : CodePoint) : Bool := isLower c || (48 ≤ c.val && c.val ≤ 57)

/-- `[a-z0-9](?:[a-z0-9-]*[a-z0-9])?`, in full. -/
def isBucketLabel (label : Str) : Bool :=
  label.head?.any isBucketChar && label.getLast?.any isBucketChar &&
    label.all fun c => isBucketChar c || c.val == 0x2D

/-- The form that `validate_production_settings` asks of the name of a bucket; two dots in a row
leave an empty label. -/
def isBucketName (bucket : Str) : Bool :=
  decide (3 ≤ bucket.length ∧ bucket.length ≤ 63) && (bucket.splitOn 0x2E).all isBucketLabel

/-- The settings of a worker, as they are validated when it starts. -/
structure ProcessorSettings extends UploadSettings where
  s3UploadPrefix : Str
  bucket_valid : s3UploadsEnabled = true →
    ∀ bucket, s3UploadBucket = some bucket → isBucketName bucket = true

/-- The context that the parser gets. -/
def ReportProcessingClaim.parsingContext (claim : ReportProcessingClaim) : ReportParsingContext where
  jobId := claim.jobId
  businessId := claim.businessId
  reportUploadId := claim.reportUploadId
  originalFilename := claim.originalFilename
  fileExtension := claim.fileExtension
  contentType := claim.contentType

/-- A program over the storage, with the errors of the processor. -/
abbrev ProcessorProgram := Program Storage ReportProcessingFailure

section

variable (art : ArtifactLibrary) (books : WorkbookLibrary) (service : ObjectService)

/-- `_validate_and_parse`, its exceptions as `process` answers them. -/
def validateAndParse (settings : UploadSettings) (claim : ReportProcessingClaim)
    (content : List UInt8) : Except ReportProcessingFailure ParsedReportArtifacts :=
  match settings.validateReportContent claim.fileExtension content with
  | .error _ => .error (terminalReportProcessingError (str "report_malformed"))
  | .ok (.error _) => .error (terminalReportProcessingError (str "source_content_invalid"))
  | .ok (.ok ()) =>
    match parseReportContent art.report art.gzip books art.sha256 claim.parsingContext content with
    | .error e => .error (terminalReportProcessingError e.code)
    | .ok parsed => .ok parsed

/-- What both artifacts of a claim carry. -/
def baseMetadata (claim : ReportProcessingClaim) : List (Str × Str) :=
  [(str "business-id", uuidText claim.businessId), (str "processing-job-id", uuidText claim.jobId),
    (str "upload-id", uuidText claim.reportUploadId), (str "artifact-version", str "1")]

def artifactMetadata (claim : ReportProcessingClaim) (artifact : String) (sha256 : Str) :
    List (Str × Str) :=
  baseMetadata claim ++ [(str "artifact", str artifact), (str "sha256", sha256)]

/-- How `process` answers an error of `ensure_bucket_security`. -/
def bucketFailure : S3StorageError → ReportProcessingFailure
  | .bucketSecurity => terminalReportProcessingError (str "processing_storage_security_invalid")
  | .unavailable => retryableReportProcessingError (str "processing_storage_unavailable")

/-- How `process` answers an error of `read_object`. -/
def sourceFailure (_ : S3StorageError) : ReportProcessingFailure :=
  retryableReportProcessingError (str "source_storage_unavailable")

/-- How `process` answers an error of `write_object`. -/
def artifactFailure : S3StorageError → ReportProcessingFailure
  | .bucketSecurity => terminalReportProcessingError (str "processing_storage_security_invalid")
  | .unavailable => retryableReportProcessingError (str "artifact_storage_unavailable")

/-- The part of `process` that stores the artifacts of a parse. -/
def storeArtifacts (storagePrefix : Str) (claim : ReportProcessingClaim)
    (parsed : ParsedReportArtifacts) : ProcessorProgram StoredArtifacts := do
  let normalized ← (ArtifactGateway.writeObject service claim.storageBucket
    (normalizedKey storagePrefix claim) parsed.normalizedContent normalizedReportContentType
    (some normalizedReportContentEncoding)
    (artifactMetadata claim "normalized" parsed.normalizedSha256)).mapError artifactFailure
  let profile ← (ArtifactGateway.writeObject service claim.storageBucket
    (profileKey storagePrefix claim) parsed.profileContent profileReportContentType none
    (artifactMetadata claim "profile" parsed.profileSha256)).mapError artifactFailure
  (monadLift (ensure (normalized.contentLength = parsed.normalizedContent.length)
    (retryableReportProcessingError (str "artifact_storage_unavailable"))) : ProcessorProgram Unit)
  (monadLift (ensure (profile.contentLength = parsed.profileContent.length)
    (retryableReportProcessingError (str "artifact_storage_unavailable"))) : ProcessorProgram Unit)
  return {
    normalizedVersionId := normalized.versionId
    normalizedEtag := normalized.etag
    normalizedSizeBytes := normalized.contentLength
    profileVersionId := profile.versionId
    profileEtag := profile.etag
    recordCount := parsed.recordCount
    sheetCount := parsed.sheetCount }

/-- The settings under which `process` goes to work. -/
def storageConfigured (settings : UploadSettings) (claim : ReportProcessingClaim) : Bool :=
  settings.s3UploadsEnabled &&
    settings.s3UploadBucket.any fun bucket => !bucket.isEmpty && bucket == claim.storageBucket

/-- `ReportArtifactProcessor.process`; what it returns is the output of these artifacts. -/
def processReport (settings : ProcessorSettings) (recentlyChecked : Bool)
    (claim : ReportProcessingClaim) : ProcessorProgram StoredArtifacts := do
  (monadLift (ensure (storageConfigured settings.toUploadSettings claim = true)
    (retryableReportProcessingError (str "processing_storage_unavailable"))) :
    ProcessorProgram Unit)
  (ArtifactGateway.ensureBucketSecurity recentlyChecked claim.storageBucket).mapError bucketFailure
  let source ← (ArtifactGateway.readObject claim.storageBucket claim.storageKey
    claim.storageVersionId claim.expectedSizeBytes).mapError sourceFailure
  let content ← (monadLift (required source
    (terminalReportProcessingError (str "source_object_missing"))) : ProcessorProgram (List UInt8))
  (monadLift (ensure ((content.length : Int) = claim.expectedSizeBytes)
    (terminalReportProcessingError (str "source_size_mismatch"))) : ProcessorProgram Unit)
  let parsed ← (monadLift (validateAndParse art books settings.toUploadSettings claim content) :
    ProcessorProgram ParsedReportArtifacts)
  storeArtifacts service settings.s3UploadPrefix claim parsed

end

/-- What `execute_report_processing_job` hands in of what `process` returned or raised. -/
def taskOutcome (storagePrefix : Str) :
    Except ReportProcessingFailure StoredArtifacts → ProcessorOutcome
  | .ok artifacts => .stored storagePrefix artifacts
  | .error (.terminal code) => .terminal code
  | .error (.retryable code) => .retryable code reportProcessingInfrastructureRetryDelay
  | .error .unexpected => .terminal (str "processing_internal_error")

/-- Where the storage keeps the file of an upload (`create_batch`). -/
def uploadKey (storagePrefix : Str) (businessId batchId uploadId : Uuid) (extension : Str) : Str :=
  storagePrefix ++ str "/" ++ uuidText businessId ++ str "/" ++ uuidText batchId ++ str "/" ++
    uuidText uploadId ++ str "." ++ extension

end SpikeBackend
