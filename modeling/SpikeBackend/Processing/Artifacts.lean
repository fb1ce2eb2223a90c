import SpikeBackend.Processing.Invariant
import SpikeBackend.Processing.ObjectHistory

/-!
# What a processed report leaves

Whatever happens between its calls, `process` returns the names of the artifacts of one parse of
the bytes under the source version of its claim, or raises an error with a code that the service
accepts.

* `ReportProcessingOutput.Names` — the storage holds the artifacts of a parse under the names of an
  output;
* `processReport_safe` — what `process` leaves, under any interference.
-/

namespace SpikeBackend

open Text Outcome Remote Program

-- ---------------------------------------------------------------------------
-- What an output stands for
-- ---------------------------------------------------------------------------

/-- The storage holds the artifacts of a parse, under the names of the output. -/
structure ReportProcessingOutput.Names (o : ReportProcessingOutput) (s : Storage)
    (parsed : ParsedReportArtifacts) : Prop where
  normalized : s.past.Has o.storageBucket o.normalizedStorageKey o.normalizedStorageVersionId
    parsed.normalizedContent
  profile : s.past.Has o.storageBucket o.profileStorageKey o.profileStorageVersionId
    parsed.profileContent
  named : o.normalizedStorageVersionId ≠ nullVersion ∧ o.profileStorageVersionId ≠ nullVersion
  visible : ∀ name ∈ [o.normalizedStorageVersionId, o.normalizedEtag, o.profileStorageVersionId,
    o.profileEtag], strip name ≠ []
  normalizedSizeBytes : o.normalizedSizeBytes = parsed.normalizedContent.length
  recordCount : o.recordCount = parsed.recordCount
  sheetCount : o.sheetCount = parsed.sheetCount

section

variable (art : ArtifactLibrary) (books : WorkbookLibrary)

/-- The bytes under the source version of a claim, and the artifacts of one parse of them. -/
structure SourceParsed (claim : ReportProcessingClaim) (s : Storage) (content : List UInt8)
    (parsed : ParsedReportArtifacts) : Prop where
  source : s.past.Has claim.storageBucket claim.storageKey claim.storageVersionId content
  size : (content.length : Int) = claim.expectedSizeBytes
  parse : parseReportContent art.report art.gzip books art.sha256 claim.parsingContext content =
    .ok parsed
  bucket : isBucketName claim.storageBucket = true

/-- An output names the artifacts of one parse of the source of its claim. -/
def Produced (claim : ReportProcessingClaim) (o : ReportProcessingOutput) (s : Storage) : Prop :=
  (o.KeyedBy claim ∧ o.storageBucket = claim.storageBucket) ∧
    ∃ content parsed, SourceParsed art books claim s content parsed ∧ o.Names s parsed

end

/-- The code of an error passes its validation. -/
def ReportProcessingFailure.Coded : ReportProcessingFailure → Prop
  | .terminal code | .retryable code => isSafeErrorCode code = true
  | .unexpected => True

variable {art : ArtifactLibrary} {books : WorkbookLibrary} {service : ObjectService}
  {claim : ReportProcessingClaim} {s t : Storage}

theorem SourceParsed.of_le {content : List UInt8} {parsed : ParsedReportArtifacts}
    (h : SourceParsed art books claim s content parsed) (hLater : s ≤ t) :
    SourceParsed art books claim t content parsed :=
  ⟨Storage.has_of_le hLater h.source, h.size, h.parse, h.bucket⟩

theorem ReportProcessingOutput.Names.of_le {o : ReportProcessingOutput}
    {parsed : ParsedReportArtifacts} (h : o.Names s parsed) (hLater : s ≤ t) : o.Names t parsed :=
  ⟨Storage.has_of_le hLater h.normalized, Storage.has_of_le hLater h.profile, h.named, h.visible,
    h.normalizedSizeBytes, h.recordCount, h.sheetCount⟩

theorem Produced.of_le {o : ReportProcessingOutput} (h : Produced art books claim o s)
    (hLater : s ≤ t) : Produced art books claim o t := by
  obtain ⟨hKeyed, content, parsed, hSource, hNames⟩ := h
  exact ⟨hKeyed, content, parsed, hSource.of_le hLater, hNames.of_le hLater⟩

/-- A terminal failure carries a code. -/
theorem terminal_coded (code : Str) : (terminalReportProcessingError code).Coded := by
  unfold terminalReportProcessingError
  split
  · next hSafe => exact hSafe
  · exact trivial

/-- A retryable failure carries a code. -/
theorem retryable_coded (code : Str) : (retryableReportProcessingError code).Coded := by
  unfold retryableReportProcessingError
  split
  · next hSafe => exact hSafe
  · exact trivial

theorem bucketFailure_coded (e : S3StorageError) : (bucketFailure e).Coded := by
  cases e with
  | unavailable => exact retryable_coded _
  | bucketSecurity => exact terminal_coded _

theorem artifactFailure_coded (e : S3StorageError) : (artifactFailure e).Coded := by
  cases e with
  | unavailable => exact retryable_coded _
  | bucketSecurity => exact terminal_coded _

-- ---------------------------------------------------------------------------
-- The calls of the gateway
-- ---------------------------------------------------------------------------

section

variable {failure : S3StorageError → Prop} {bucket key versionId : Str}

theorem keeps_read (t : Storage) (hInv : t.Kept) : (id t).Kept ∧ t ≤ id t := ⟨hInv, le_rfl⟩

/-- The bucket check writes nothing. -/
theorem ensureBucketSecurity_safe (hFailure : ∀ e, failure e) (recentlyChecked : Bool) :
    (ArtifactGateway.ensureBucketSecurity recentlyChecked bucket).Safe Storage.Kept
      (Ends (fun _ _ => True) failure) s := by
  unfold ArtifactGateway.ensureBucketSecurity
  split
  · exact safe_pure fun _ _ _ => trivial
  · exact safe_call keeps_read (hFailure _) fun t hInv hLater =>
      safe_monadLift (fun _ _ _ _ _ => trivial) fun e _ => hFailure e

/-- What `read_object` returns is a version that was put. -/
theorem readObject_safe (hFailure : ∀ e, failure e) (maxBytes : Int) :
    (ArtifactGateway.readObject bucket key versionId maxBytes).Safe Storage.Kept
      (Ends (fun content s => ∀ bytes, content = some bytes → s.past.Has bucket key versionId bytes)
        failure) s := by
  refine safe_call keeps_read (hFailure _) fun t hInv hLater => ?_
  refine safe_monadLift (fun content hRead u hInv' hLater' bytes hBytes => ?_) fun e _ => hFailure e
  have hRead : t.readObject bucket key versionId maxBytes = .ok content := hRead
  unfold Storage.readObject at hRead
  split at hRead
  · rw [hBytes] at hRead
    exact absurd (Except.ok.inj hRead) (Option.some_ne_none bytes).symm
  · next v hFound =>
    -- The gateway refuses an object that is too large.
    split at hRead
    · cases hRead
    · obtain rfl : v.content = bytes := Option.some.inj ((Except.ok.inj hRead).trans hBytes)
      have hId : v.versionId = some versionId := by simpa using List.find?_some hFound
      exact Storage.has_of_le hLater'
        ⟨v, hInv.known _ _ v (List.mem_of_find?_eq_some hFound), hId, rfl⟩

/-- An object was written, and can be told by its version. -/
structure WrittenAs (bucket key : Str) (content : List UInt8) (w : WrittenS3Object) (s : Storage) :
    Prop where
  has : s.past.Has bucket key w.versionId content
  named : w.versionId ≠ nullVersion
  visible : strip w.versionId ≠ [] ∧ strip w.etag ≠ []
  contentLength : w.contentLength = content.length

/-- A write is accepted when the response names a real version and a tag. -/
theorem writtenObject_eq_some {content : List UInt8} {response : PutResponse} {w : WrittenS3Object}
    (h : writtenObject content response = some w) :
    response.versionId? = some w.versionId ∧ w.versionId ≠ nullVersion ∧
      (response.etag? = some w.etag ∧ w.etag ≠ []) ∧ w.contentLength = content.length := by
  simp only [writtenObject] at h
  split at h
  · cases h
  · next hNamed =>
    obtain rfl := Option.some.inj h
    simp only [Bool.or_eq_true, List.isEmpty_iff, beq_iff_eq, not_or] at hNamed
    refine ⟨?_, hNamed.2, ⟨?_, hNamed.1.1⟩, rfl⟩
    · -- The test above leaves neither the version nor the tag empty.
      cases hGiven : response.versionId? with
      | none =>
        rw [hGiven] at hNamed
        exact absurd rfl hNamed.1.2
      | some id => rfl
    · cases hGiven : response.etag? with
      | none =>
        rw [hGiven] at hNamed
        exact absurd rfl hNamed.1.1
      | some etag => rfl

/-- What `write_object` returns names what it has put. -/
theorem writeObject_safe (hFailure : ∀ e, failure e) (content : List UInt8) (contentType : Str)
    (contentEncoding : Option Str) (metadata : List (Str × Str)) :
    (ArtifactGateway.writeObject service bucket key content contentType contentEncoding
      metadata).Safe Storage.Kept (Ends (WrittenAs bucket key content) failure) s := by
  refine safe_call (fun t hInv => ⟨hInv.put service bucket key _, Storage.le_put service _⟩)
    (hFailure _) fun t hInv hLater => ?_
  refine safe_monadLift (fun w hWritten u hInv' hLater' => ?_) fun e _ => hFailure e
  obtain ⟨hId, hNamed, ⟨hEtag, hGiven⟩, hLength⟩ :=
    writtenObject_eq_some (required_eq_ok.mp hWritten)
  exact ⟨Storage.has_of_le hLater' (Storage.has_put service _ hId), hNamed,
    ⟨service.versionId_not_blank _ _ _ _ hId, service.etag_not_blank _ _ _ _ hEtag hGiven⟩, hLength⟩

end

-- ---------------------------------------------------------------------------
-- The processor
-- ---------------------------------------------------------------------------

/-- What passes the validation is the parse of the content. -/
theorem validateAndParse_eq_ok {settings : UploadSettings} {content : List UInt8}
    {parsed : ParsedReportArtifacts}
    (h : validateAndParse art books settings claim content = .ok parsed) :
    parseReportContent art.report art.gzip books art.sha256 claim.parsingContext content =
      .ok parsed := by
  unfold validateAndParse at h
  split at h
  · cases h
  · cases h
  · split at h
    · cases h
    · next parsed' hParse =>
      obtain rfl := Except.ok.inj h
      exact hParse

/-- Every failure of the validation carries a code. -/
theorem validateAndParse_eq_error {settings : UploadSettings} {content : List UInt8}
    {e : ReportProcessingFailure}
    (h : validateAndParse art books settings claim content = .error e) : e.Coded := by
  unfold validateAndParse at h
  split at h
  · obtain rfl := Except.error.inj h
    exact terminal_coded _
  · obtain rfl := Except.error.inj h
    exact terminal_coded _
  · split at h
    · obtain rfl := Except.error.inj h
      exact terminal_coded _
    · cases h

/-- What the stored artifacts of a parse are known by. -/
def Stored (storagePrefix : Str) (claim : ReportProcessingClaim) (parsed : ParsedReportArtifacts)
    (artifacts : StoredArtifacts) (s : Storage) : Prop :=
  (artifacts.output storagePrefix claim).Names s parsed

/-- Storing the two artifacts ends with both stored under the names of the output, or with a coded
failure. -/
theorem storeArtifacts_safe (storagePrefix : Str) (parsed : ParsedReportArtifacts) :
    (storeArtifacts service storagePrefix claim parsed).Safe Storage.Kept
      (Ends (Stored storagePrefix claim parsed) ReportProcessingFailure.Coded) s := by
  refine (writeObject_safe artifactFailure_coded _ _ _ _).mapError.bind fun normalized t hInv _ hN => ?_
  refine (writeObject_safe artifactFailure_coded _ _ _ _).mapError.bind fun profile u hInv' hTU hP => ?_
  -- Each object is at its place whatever others write in between, since versions are never
  -- overwritten.
  refine safe_ensure_bind (fun _ => safe_ensure_bind (fun _ => ?_) (retryable_coded _))
    (retryable_coded _)
  refine safe_pure fun v _ hLate => ?_
  refine ⟨Storage.has_of_le (hTU.trans hLate) hN.has, Storage.has_of_le hLate hP.has,
    ⟨hN.named, hP.named⟩, ?_, hN.contentLength, rfl, rfl⟩
  intro name hName
  simp only [List.mem_cons, List.not_mem_nil, or_false] at hName
  rcases hName with rfl | rfl | rfl | rfl
  · exact hN.visible.1
  · exact hN.visible.2
  · exact hP.visible.1
  · exact hP.visible.2

/-- The bucket of a claim that the settings of a worker are for. -/
theorem bucket_of_configured {settings : ProcessorSettings}
    (h : storageConfigured settings.toUploadSettings claim = true) :
    isBucketName claim.storageBucket = true := by
  simp only [storageConfigured, Bool.and_eq_true, Option.any_eq_true, beq_iff_eq] at h
  obtain ⟨hEnabled, bucket, hBucket, -, rfl⟩ := h
  exact settings.bucket_valid hEnabled _ hBucket

/-- **Processing a report.** Whatever others do in between, `process` returns the names of the
artifacts of one parse of the source of its claim, or raises an error with a valid code. -/
theorem processReport_safe (settings : ProcessorSettings) (recentlyChecked : Bool) :
    (processReport art books service settings recentlyChecked claim).Safe Storage.Kept
      (Ends (fun artifacts => Produced art books claim (artifacts.output settings.s3UploadPrefix claim))
        ReportProcessingFailure.Coded) s := by
  unfold processReport
  refine safe_ensure_bind (fun hConfigured => ?_) (retryable_coded _)
  refine (ensureBucketSecurity_safe bucketFailure_coded _).mapError.bind fun _ s₁ _ _ _ => ?_
  refine (readObject_safe (fun _ => retryable_coded _) _).mapError.bind fun source s₂ _ _ hSource => ?_
  refine safe_monadLift_bind (fun content hContent => ?_) fun e he => ?_
  · refine safe_ensure_bind (fun hSize => ?_) (terminal_coded _)
    refine safe_monadLift_bind (fun parsed hParsed => ?_) fun e he => validateAndParse_eq_error he
    -- what was read stays in the history, and what is stored comes on top of it
    have hRead : SourceParsed art books claim s₂ content parsed :=
      ⟨hSource content (required_eq_ok.mp hContent), hSize, validateAndParse_eq_ok hParsed,
        bucket_of_configured hConfigured⟩
    exact (storeArtifacts_safe settings.s3UploadPrefix parsed).imp fun artifacts t hLater hNames =>
      ⟨⟨⟨settings.s3UploadPrefix, rfl, rfl⟩, rfl⟩, content, parsed, hRead.of_le hLater, hNames⟩
  · rw [← (required_eq_error.mp he).2]
    exact terminal_coded _

end SpikeBackend
