import SpikeBackend.Processing.Readback

/-!
# Results that workers hand in

Whatever `process` ends with, the service takes it: no call of a worker raises, and the worker that
holds the lease of its job makes of the row exactly what its result says.

* `sound_accepted` — a result of the pipeline passes the checks of the service;
* `hand_in_accepted` — so in every run no result of the holder of a lease is lost.
-/

namespace SpikeBackend

open Relational Text Outcome Remote

-- ---------------------------------------------------------------------------
-- What the service checks
-- ---------------------------------------------------------------------------

/-- What a result makes of the job whose lease its worker holds. -/
def ProcessorResult.applied (job : ReportProcessingJob) (now : Datetime) :
    ProcessorResult → ReportProcessingJob
  | .output o => job.completed o now
  | .terminal errorCode => job.terminalFailure errorCode now
  | .retryable errorCode retryDelay =>
    if job.maxAttempts ≤ job.attemptCount then job.terminalFailure errorCode now
    else job.requeued errorCode (now + retryDelay)

/-- Whatever is handed in, the row keeps its id. -/
theorem ProcessorResult.applied_id (result : ProcessorResult) (job : ReportProcessingJob)
    (now : Datetime) : (result.applied job now).id = job.id := by
  cases result with
  | output o => rfl
  | terminal code => rfl
  | retryable code retryDelay =>
    simp only [applied]
    split <;> rfl

/-- What the service checks of a result passes. -/
def ProcessorResult.Accepted : ProcessorResult → Prop
  | .output o => validateOutput o = .ok ()
  | .terminal errorCode => isSafeErrorCode errorCode = true
  | .retryable errorCode retryDelay => isSafeErrorCode errorCode = true ∧ 0 ≤ retryDelay

/-- A text with a character that is no space is not blank. -/
theorem strip_ne_nil_of_mem {c : CodePoint} {s : Str} (hc : c ∈ s) (hSpace : isSpace c = false) :
    strip s ≠ [] :=
  List.ne_nil_of_mem ((mem_strip hSpace s).mpr hc)

/-- An artifact key has a slash. -/
theorem keys_not_blank (storagePrefix : Str) (claim : ReportProcessingClaim) :
    strip (normalizedKey storagePrefix claim) ≠ [] ∧ strip (profileKey storagePrefix claim) ≠ [] := by
  refine ⟨strip_ne_nil_of_mem (c := 0x2F) ?_ (by decide), strip_ne_nil_of_mem (c := 0x2F) ?_ (by decide)⟩
  · exact List.mem_append_right _ (by decide)
  · exact List.mem_append_right _ (by decide)

/-- The name of a bucket begins with a letter or a digit. -/
theorem bucketName_not_blank {bucket : Str} (h : isBucketName bucket = true) :
    strip bucket ≠ [] := by
  simp only [isBucketName, Bool.and_eq_true, decide_eq_true_eq, List.all_eq_true] at h
  obtain ⟨-, hLabels⟩ := h
  cases hSplit : bucket.splitOn 0x2E with
  | nil => exact absurd hSplit (List.splitOn_ne_nil 0x2E bucket)
  | cons label labels =>
    have hLabel := hLabels label (hSplit ▸ List.mem_cons_self)
    simp only [isBucketLabel, Bool.and_eq_true, Option.any_eq_true] at hLabel
    obtain ⟨⟨⟨c, hHead, hChar⟩, -⟩, -⟩ := hLabel
    have hSpace : isSpace c = false := by
      simp only [isBucketChar, isLower, Bool.or_eq_true, Bool.and_eq_true, decide_eq_true_eq] at hChar
      simp only [isSpace, Bool.or_eq_false_iff, Bool.and_eq_false_iff, decide_eq_false_iff_not,
        beq_eq_false_iff_ne]
      omega
    -- the first label is where the name begins
    have hJoined : List.intercalate [0x2E] (label :: labels) = bucket := by
      rw [← hSplit]
      exact List.intercalate_splitOn 0x2E
    have hMem : c ∈ label := List.mem_of_mem_head? hHead
    refine strip_ne_nil_of_mem (c := c) ?_ hSpace
    rw [← hJoined]
    cases labels with
    | nil =>
      rw [List.intercalate_singleton]
      exact hMem
    | cons label' labels =>
      rw [List.intercalate_cons_cons]
      exact List.mem_append_left _ (List.mem_append_left _ hMem)

variable {art : ArtifactLibrary} {books : WorkbookLibrary} {claim : ReportProcessingClaim}
  {s : Storage}

/-- **What the pipeline produces passes.** -/
theorem sound_accepted (hGzip : ∀ lines, art.gzip.getvalue lines ≠ []) {result : ProcessorResult}
    (h : result.Sound art books claim s) : result.Accepted := by
  cases result with
  | terminal code => exact h
  | retryable code retryDelay => exact h
  | output o =>
    obtain ⟨⟨⟨storagePrefix, hKeyN, hKeyP⟩, hBucket⟩, content, parsed, hSource, hNames⟩ := h
    obtain ⟨-, -, hSheets, lines, hLines⟩ := parse_sizes hSource.parse
    have hName := hSource.bucket
    simp only [isBucketName, Bool.and_eq_true, decide_eq_true_eq] at hName
    -- every name in the output is visible: the bucket is a bucket name, the keys hold a slash, and
    -- the versions and entity tags are those of stored objects
    have hVisible : ∀ value ∈ [o.storageBucket, o.normalizedStorageKey, o.normalizedStorageVersionId,
        o.normalizedEtag, o.profileStorageKey, o.profileStorageVersionId, o.profileEtag],
        strip value ≠ [] := by
      intro value hValue
      simp only [List.mem_cons, List.not_mem_nil, or_false] at hValue
      obtain ⟨hKeyBlank, hKeyBlank'⟩ := keys_not_blank storagePrefix claim
      rcases hValue with rfl | rfl | rfl | rfl | rfl | rfl | rfl
      · exact hBucket ▸ bucketName_not_blank hSource.bucket
      · exact hKeyN ▸ hKeyBlank
      · exact hNames.visible _ (by simp)
      · exact hNames.visible _ (by simp)
      · exact hKeyP ▸ hKeyBlank'
      · exact hNames.visible _ (by simp)
      · exact hNames.visible _ (by simp)
    -- what gzip writes is never empty, so the size of the normalized content is positive
    have hContent : 0 < parsed.normalizedContent.length := by
      rw [hLines]
      exact List.length_pos_iff.mpr (hGzip lines)
    simp only [ProcessorResult.Accepted, validateOutput, bind_eq_ok, ensure_eq_ok]
    -- the checks of `_validate_output`, in its order
    refine ⟨(), List.all_eq_true.mpr fun value hValue => ?_, (), hBucket ▸ hName.1, (), ?_, ?_, ?_⟩
    · rw [Bool.not_eq_true', List.isEmpty_eq_false_iff]
      exact hVisible value hValue
    · rw [hNames.normalizedSizeBytes]
      exact_mod_cast hContent
    · rw [hNames.recordCount]
      exact Int.natCast_nonneg _
    · rw [hNames.sheetCount]
      exact_mod_cast hSheets

-- ---------------------------------------------------------------------------
-- Handing in
-- ---------------------------------------------------------------------------

namespace ProcessingState

variable {db : ProcessingDatabase} {w : Worker} {result : ProcessorResult} {now : Datetime}

/-- A result that passes, of a worker that has lost its lease. -/
theorem finishJob_of_stale (hResult : w.result = some result) (hAccepted : result.Accepted)
    (hLost : db.lockedProcessingJob w.claim.jobId w.claim.leaseToken = none) :
    finishJob db w now = .ok (db, false) := by
  -- each of the three calls validates what it is handed before it looks for the lease
  cases result with
  | output o =>
    have hValid : validateOutput o = .ok () := hAccepted
    simp only [finishJob, hResult, ProcessingDatabase.completeJob, hValid, hLost]
    rfl
  | terminal code =>
    have hValid : isSafeErrorCode code = true := hAccepted
    simp only [finishJob, hResult, ProcessingDatabase.failJob, validateProcessingErrorCode, hValid,
      hLost]
    rfl
  | retryable code retryDelay =>
    obtain ⟨hValid, hDelay⟩ : isSafeErrorCode code = true ∧ 0 ≤ retryDelay := hAccepted
    simp only [finishJob, hResult, ProcessingDatabase.retryJob, validateProcessingErrorCode, hValid,
      hLost, ensure_pos hDelay]
    rfl

/-- A result that passes, of the worker that holds the lease. -/
theorem finishJob_of_holder (hResult : w.result = some result) (hAccepted : result.Accepted)
    {job : ReportProcessingJob}
    (hLocked : db.lockedProcessingJob w.claim.jobId w.claim.leaseToken = some job) :
    finishJob db w now = (db.saveJob (result.applied job now)).map fun db => (db, true) := by
  -- the same three calls, now with the row that the lock has found
  cases result with
  | output o =>
    have hValid : validateOutput o = .ok () := hAccepted
    simp only [finishJob, hResult, ProcessingDatabase.completeJob, hValid, hLocked]
    rfl
  | terminal code =>
    have hValid : isSafeErrorCode code = true := hAccepted
    simp only [finishJob, hResult, ProcessingDatabase.failJob, validateProcessingErrorCode, hValid,
      hLocked]
    rfl
  | retryable code retryDelay =>
    obtain ⟨hValid, hDelay⟩ : isSafeErrorCode code = true ∧ 0 ≤ retryDelay := hAccepted
    simp only [finishJob, hResult, ProcessingDatabase.retryJob, validateProcessingErrorCode, hValid,
      hLocked, ensure_pos hDelay, ProcessorResult.applied]
    split <;> rfl

/-- A worker that holds the lease of its job rewrites the row as its result says. -/
theorem holder_rewrites {s : ProcessingState} (hInv : s.ProcessingInvariant) {token : Uuid}
    (hw : s.worker token = some w) (hResult : w.result = some result) (hAccepted : result.Accepted)
    (hNow : w.claimedAt ≤ now) {job : ReportProcessingJob}
    (hLocked : s.db.lockedProcessingJob w.claim.jobId token = some job) :
    ∃ t, s.perform (.finish token now) = .ok (t, true) ∧ result.applied job now ∈ t.db.jobs := by
  obtain ⟨-, rfl⟩ := worker_eq_some hw
  have hOrder : s.inOrder (.finish w.claim.leaseToken now) = true := by
    simpa [inOrder, hw] using hNow
  have hRewrites := finish_rewrites hInv hOrder
  have hFinish := @finishJob_of_holder s.db w result now hResult hAccepted job hLocked
  simp only [perform, hw, hFinish] at hRewrites ⊢
  -- the row is saved, since a transaction of the service raises no integrity error
  cases hSave : s.db.saveJob (result.applied job now) with
  | error e =>
    obtain ⟨-, rfl⟩ : s.db.jobs.update? (result.applied job now) = none ∧ ProcessingError.integrity = e := by
      simpa [ProcessingDatabase.saveJob, bind_eq_error, pure, Except.pure] using hSave
    rw [hSave] at hRewrites
    cases hRewrites
  | ok db' =>
    refine ⟨_, rfl, ?_⟩
    simp only [ProcessingDatabase.saveJob, bind_eq_ok, required_eq_ok] at hSave
    obtain ⟨jobs, hUpdate, hDone⟩ := hSave
    obtain rfl := Except.ok.inj hDone
    have hRow := (lockedProcessingJob_eq_some.mp hLocked).1
    exact Table.mem_update?_self hUpdate hRow (result.applied_id job now).symm

end ProcessingState

/-- **No result is lost.** In every run of the pipeline the service takes what a worker hands in,
whatever its processing ended with: the call raises no error, it changes nothing if the worker has
lost its lease, and if it holds the lease the row of the job becomes what the result says. -/
theorem hand_in_accepted (art : ArtifactLibrary) (books : WorkbookLibrary) (service : ObjectService)
    (hGzip : ∀ lines, art.gzip.getvalue lines ≠ []) (uploads : Table ReportUpload)
    (jobs : Table ReportProcessingJob)
    (hNew : ∀ j ∈ jobs, j.status = .queued ∧ j.attemptCount = 0) (storage : Storage)
    (hStorage : storage.Kept) (actions : List PipelineAction) :
    let s := (Machine.run (PipelineState.step art books service)
      (.init uploads jobs storage) actions).jobs
    ∀ token w result now, s.worker token = some w → w.result = some result → w.claimedAt ≤ now →
      (s.db.lockedProcessingJob w.claim.jobId token = none →
        s.perform (.finish token now) = .ok (s, false)) ∧
      ∀ job, s.db.lockedProcessingJob w.claim.jobId token = some job →
        ∃ t, s.perform (.finish token now) = .ok (t, true) ∧ result.applied job now ∈ t.db.jobs := by
  intro s token w result now hw hResult hNow
  have hInv : PipelineInvariant art books (Machine.run (PipelineState.step art books service)
      (.init uploads jobs storage) actions) :=
    run_pipelineInvariant service uploads hNew hStorage actions
  obtain ⟨hMem, hToken⟩ := ProcessingState.worker_eq_some hw
  -- what the workers of the run have made was made by the processor, so the service accepts it
  have hAccepted := sound_accepted hGzip (hInv.sound w hMem result hResult)
  refine ⟨fun hLost => ?_, fun job hLocked =>
    ProcessingState.holder_rewrites hInv.jobs hw hResult hAccepted hNow hLocked⟩
  rw [← hToken] at hLost
  simp only [ProcessingState.perform, hw, ProcessingState.finishJob_of_stale hResult hAccepted hLost,
    bind_ok, ProcessingState.completionOf, List.nil_append]
  rfl

namespace PipelineSample

open RoundTripSample

/-- The libraries of the sample, with a byte in front of what is compressed. -/
def framedLibrary : ArtifactLibrary :=
  { library .null [] with
    gzip :=
      { tell := fun lines => lines.flatten.length + 1
        getvalue := fun lines => 0x1F :: lines.flatten
        read := List.tail? } }

/-- The takeover before the second worker hands its result in. -/
def beforeHandIn : ProcessingState :=
  (Machine.run (PipelineState.step framedLibrary workbooks numberedService)
    (.init uploads jobs storage) takeover.dropLast).jobs

theorem beforeHandIn_eq : beforeHandIn = (Machine.run
    (PipelineState.step framedLibrary workbooks numberedService)
    (.init uploads jobs storage) takeover.dropLast).jobs := rfl

/-- The second worker has its result and still holds the lease. -/
theorem beforeHandIn_facts :
    ((beforeHandIn.worker 8).map fun w => (w.claim.jobId, w.claimedAt, w.result.isSome)) =
        some (1, minutes 16, true) ∧
      (beforeHandIn.db.lockedProcessingJob 1 8).isSome = true := by
  decide +kernel

end PipelineSample

open PipelineSample RoundTripSample in
/-- The second worker of the takeover completes the job. -/
theorem hand_in_accepted_takeover : ∃ w result job t, beforeHandIn.worker 8 = some w ∧
    w.result = some result ∧ beforeHandIn.db.lockedProcessingJob 1 8 = some job ∧
    beforeHandIn.perform (.finish 8 (minutes 18)) = .ok (t, true) ∧
    result.applied job (minutes 18) ∈ t.db.jobs := by
  obtain ⟨hWorker, hHolds⟩ := beforeHandIn_facts
  have hRun := hand_in_accepted framedLibrary workbooks numberedService
    (fun lines => List.cons_ne_nil 0x1F lines.flatten) uploads jobs jobs_new storage storage_kept
    takeover.dropLast
  rw [← beforeHandIn_eq] at hRun
  -- from here on only these facts about the state are used, not how it was reached
  generalize beforeHandIn = s at hWorker hHolds hRun ⊢
  obtain ⟨w, hw, hFacts⟩ := Option.map_eq_some_iff.mp hWorker
  simp only [Prod.mk.injEq] at hFacts
  obtain ⟨hJob, hAt, hDone⟩ := hFacts
  obtain ⟨result, hResult⟩ := Option.isSome_iff_exists.mp hDone
  obtain ⟨job, hLocked⟩ := Option.isSome_iff_exists.mp hHolds
  obtain ⟨t, hPerform, hRow⟩ := (hRun 8 w result (minutes 18) hw hResult
    (hAt ▸ (by decide : minutes 16 ≤ minutes 18))).2 job (hJob ▸ hLocked)
  exact ⟨w, result, job, t, hw, hResult, hLocked, hPerform, hRow⟩

end SpikeBackend
