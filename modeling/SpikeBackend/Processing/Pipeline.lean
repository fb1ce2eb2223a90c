import SpikeBackend.Processing.Artifacts
import SpikeBackend.Processing.StateMachine
import SpikeBackend.Reports.RoundTrip

/-!
# The processing pipeline

Jobs, workers and the object storage together, in any order of steps.

* `step_lists` — a transaction of the service adds a worker whose claim fits its job, or a
  completion with an output that was validated;
* `PipelineInvariant` — every worker's result, and what is left of every processing, stands for one
  parse of the source of its own claim;
* `completed_jobs_hold_one_parse` — so does what a completed job names, whichever workers were
  overtaken on the way.
-/

namespace SpikeBackend

open Relational Text Outcome Remote Program

-- ---------------------------------------------------------------------------
-- Claims and their jobs
-- ---------------------------------------------------------------------------

/-- The columns of a job that a claim repeats. -/
def ReportProcessingJob.sourceColumns (j : ReportProcessingJob) :=
  (j.id, j.businessId, j.reportUploadId, j.sourceStorageVersionId, j.sourceEtag)

/-- A claim says of its job what never changes. -/
def ClaimFits (jobs : Table ReportProcessingJob) (claim : ReportProcessingClaim) : Prop :=
  ∃ j ∈ jobs, j.sourceColumns =
    (claim.jobId, claim.businessId, claim.reportUploadId, claim.storageVersionId, claim.sourceEtag)

namespace ProcessingState

variable {s : ProcessingState}

theorem RowStep.sourceColumns {row row' : ReportProcessingJob} {workers : List Worker}
    {completions : List Completion} (h : s.RowStep row row' workers completions) :
    row'.sourceColumns = row.sourceColumns := by
  cases h <;> rfl

/-- No transaction takes a job away or changes its source. -/
theorem step_sources (hInv : s.ProcessingInvariant) (a : ProcessingAction) :
    ∀ j ∈ s.db.jobs, ∃ j' ∈ (s.step a).db.jobs, j'.sourceColumns = j.sourceColumns := by
  intro j hj
  unfold step
  split
  · next hOrder =>
    have hCases := perform_cases hInv a hOrder
    generalize s.perform a = result at hCases ⊢
    rcases hCases with hRewrites | hConflict | ⟨s', hQuiet, -, hKept⟩
    · cases hRewrites with
      | refused message => exact ⟨j, hj, rfl⟩
      | unchanged changed => exact ⟨j, hj, rfl⟩
      | @rewritten row row' workers completions jobs changed hRow hStep hUpdate =>
        have hId := hStep.frame.1
        -- Only the rewritten row changes, and not in these columns.
        by_cases hSame : j.id = row.id
        · have hEq : j = row := Table.eq_of_key_eq hj hRow hSame
          exact ⟨row', Table.mem_update?_self hUpdate hRow hId.symm, hEq ▸ hStep.sourceColumns⟩
        · exact ⟨j, (Table.mem_update?_iff hUpdate hRow hId).mpr (.inr ⟨hj, hSame⟩), rfl⟩
    · rw [hConflict]
      exact ⟨j, hj, rfl⟩
    · rw [hQuiet]
      exact ⟨j, hKept j hj, rfl⟩
  · exact ⟨j, hj, rfl⟩

/-- A claim goes on fitting its job. -/
theorem claimFits_step (hInv : s.ProcessingInvariant) (a : ProcessingAction)
    {claim : ReportProcessingClaim} (h : ClaimFits s.db.jobs claim) :
    ClaimFits (s.step a).db.jobs claim := by
  obtain ⟨j, hj, hFits⟩ := h
  obtain ⟨j', hj', hSame⟩ := step_sources hInv a j hj
  exact ⟨j', hj', hSame.trans hFits⟩

/-- A claim is made of the row of its job. -/
theorem claimJob_fits {db db' : ProcessingDatabase} {jobId token : Uuid} {claimedAt : Datetime}
    {leaseDuration : Int} {claim : ReportProcessingClaim}
    (h : db.claimJob jobId claimedAt leaseDuration token = .ok (db', some claim)) :
    ClaimFits db.jobs claim := by
  simp only [ProcessingDatabase.claimJob, bind_eq_ok, ensure_eq_ok] at h
  obtain ⟨-, -, h⟩ := h
  cases hGet : db.jobs.get? jobId with
  | none =>
    rw [hGet] at h
    cases h
  | some job =>
    simp only [hGet] at h
    split at h
    · cases h
    split at h
    · obtain ⟨_, -, hSaved⟩ := bind_eq_ok.mp h
      cases hSaved
    -- A claim is made only of a job whose source is valid, from its own columns.
    cases hSource : db.validSource job with
    | none =>
      simp only [hSource] at h
      obtain ⟨_, -, hSaved⟩ := bind_eq_ok.mp h
      cases hSaved
    | some source =>
      simp only [hSource] at h
      obtain ⟨db'', -, hSaved⟩ := bind_eq_ok.mp h
      obtain ⟨-, hClaim⟩ := Prod.mk.inj (Except.ok.inj hSaved)
      obtain rfl := Option.some.inj hClaim
      exact ⟨job, (Table.get?_eq_some.mp hGet).1, rfl⟩

/-- What a transaction adds to the workers and completions: nothing, or the worker that has
claimed, or a completion with an output that was validated. -/
def ListsFrom (s t : ProcessingState) : Prop :=
  (t.workers = s.workers ∨ ∃ w : Worker, t.workers = w :: s.workers ∧ w.result = none ∧
    ClaimFits s.db.jobs w.claim) ∧
  ∀ c ∈ t.completions, c ∈ s.completions ∨ validateOutput c.output = .ok ()

/-- Unchanged lists of workers and completions come from the old ones. -/
theorem listsFrom_of_eq {t : ProcessingState} (hWorkers : t.workers = s.workers)
    (hCompletions : t.completions = s.completions) : s.ListsFrom t :=
  ⟨.inl hWorkers, fun _ hc => .inl (hCompletions ▸ hc)⟩

/-- The completions of a worker that hands its result in. -/
theorem finish_completions {db db' : ProcessingDatabase} {w : Worker} {now : Datetime}
    {changed : Bool} (h : finishJob db w now = .ok (db', changed)) :
    ∀ c ∈ completionOf w changed, validateOutput c.output = .ok () := by
  intro c hc
  unfold completionOf at hc
  split at hc
  · next output hResult =>
    obtain rfl := List.mem_singleton.mp hc
    simp only [finishJob, hResult, ProcessingDatabase.completeJob] at h
    obtain ⟨_, hValid, -⟩ := bind_eq_ok.mp h
    exact hValid
  · exact absurd hc List.not_mem_nil

/-- A transaction of the service adds to the lists, if it is not about how a processing went. -/
theorem step_lists {a : ProcessingAction} (hOther : a.isProcess = false) :
    s.ListsFrom (s.step a) := by
  unfold step
  split
  · refine commit_induction (P := s.ListsFrom) (listsFrom_of_eq rfl rfl) fun s' changed hPerform => ?_
    -- Only a claim adds a worker, only a finish adds a completion.
    cases a with
    | process token outcome => cases hOther
    | changeUploads uploads =>
      obtain ⟨rfl, -⟩ := Prod.mk.inj (Except.ok.inj hPerform)
      exact listsFrom_of_eq rfl rfl
    | load jobId =>
      obtain ⟨rfl, -⟩ := Prod.mk.inj (Except.ok.inj hPerform)
      exact listsFrom_of_eq rfl rfl
    | ensureJobs scope uploads =>
      obtain ⟨p, -, hDone⟩ := bind_eq_ok.mp hPerform
      obtain ⟨rfl, -⟩ := Prod.mk.inj (Except.ok.inj hDone)
      exact listsFrom_of_eq rfl rfl
    | dispatch n dispatchTime recordedAt =>
      simp only [perform] at hPerform
      split at hPerform
      · obtain ⟨rfl, -⟩ := Prod.mk.inj (Except.ok.inj hPerform)
        exact listsFrom_of_eq rfl rfl
      · obtain ⟨db, -, hDone⟩ := bind_eq_ok.mp hPerform
        obtain ⟨rfl, -⟩ := Prod.mk.inj (Except.ok.inj hDone)
        exact listsFrom_of_eq rfl rfl
    | finish token now =>
      simp only [perform] at hPerform
      split at hPerform
      · obtain ⟨rfl, -⟩ := Prod.mk.inj (Except.ok.inj hPerform)
        exact listsFrom_of_eq rfl rfl
      · obtain ⟨⟨db, changed'⟩, hFinish, hDone⟩ := bind_eq_ok.mp hPerform
        obtain ⟨rfl, -⟩ := Prod.mk.inj (Except.ok.inj hDone)
        refine ⟨.inl rfl, fun c hc => ?_⟩
        rcases List.mem_append.mp hc with hNew | hOld
        · exact .inr (finish_completions hFinish c hNew)
        · exact .inl hOld
    | claim jobId claimedAt leaseDuration token =>
      obtain ⟨⟨db, claim?⟩, hClaim, hDone⟩ := bind_eq_ok.mp hPerform
      cases claim? with
      | none =>
        obtain ⟨rfl, -⟩ := Prod.mk.inj (Except.ok.inj hDone)
        exact listsFrom_of_eq rfl rfl
      | some claim =>
        obtain ⟨rfl, -⟩ := Prod.mk.inj (Except.ok.inj hDone)
        exact ⟨.inr ⟨⟨claim, claimedAt, none⟩, rfl, rfl, claimJob_fits hClaim⟩, fun c hc => .inl hc⟩
  · exact listsFrom_of_eq rfl rfl

end ProcessingState

-- ---------------------------------------------------------------------------
-- The invariant
-- ---------------------------------------------------------------------------

section

variable (art : ArtifactLibrary) (books : WorkbookLibrary)

/-- What is left of a processing ends with the names of the artifacts of one parse of the source of
the claim, or with an error that has a valid code. -/
def ProcessorRun.IsOf (r : ProcessorRun) (claim : ReportProcessingClaim) (s : Storage) : Prop :=
  r.program.Safe Storage.Kept
    (Ends (fun artifacts => Produced art books claim (artifacts.output r.storagePrefix claim))
      ReportProcessingFailure.Coded) s

/-- What a worker hands in stands for one parse of the source of its claim, or has a valid code. -/
def ProcessorResult.Sound (claim : ReportProcessingClaim) (s : Storage) : ProcessorResult → Prop
  | .output o => Produced art books claim o s
  | .terminal code => isSafeErrorCode code = true
  | .retryable code retryDelay => isSafeErrorCode code = true ∧ 0 ≤ retryDelay

def Worker.Sound (s : Storage) (w : Worker) : Prop :=
  ∀ result, w.result = some result → result.Sound art books w.claim s

/-- **The invariant of the pipeline.** -/
structure PipelineInvariant (s : PipelineState) : Prop where
  jobs : s.jobs.ProcessingInvariant
  storage : s.storage.Kept
  fits : ∀ w ∈ s.jobs.workers, ClaimFits s.jobs.db.jobs w.claim
  running : ∀ token r, s.running token = some r → ∃ w ∈ s.jobs.workers,
    w.claim.leaseToken = token ∧ r.IsOf art books w.claim s.storage
  sound : ∀ w ∈ s.jobs.workers, w.Sound art books s.storage
  valid : ∀ c ∈ s.jobs.completions, validateOutput c.output = .ok ()

end

variable {art : ArtifactLibrary} {books : WorkbookLibrary} {service : ObjectService}
  {s : PipelineState}

theorem ProcessorRun.IsOf.of_le {r : ProcessorRun} {claim : ReportProcessingClaim} {t u : Storage}
    (h : r.IsOf art books claim t) (hLater : t ≤ u) : r.IsOf art books claim u :=
  Safe.stable h hLater

/-- A sound result stays sound while storage grows. -/
theorem ProcessorResult.Sound.of_le {result : ProcessorResult} {claim : ReportProcessingClaim}
    {t u : Storage} (h : result.Sound art books claim t) (hLater : t ≤ u) :
    result.Sound art books claim u := by
  cases result with
  | output o => exact Produced.of_le h hLater
  | terminal code => exact h
  | retryable code retryDelay => exact h

theorem Worker.Sound.of_le {w : Worker} {t u : Storage} (h : w.Sound art books t) (hLater : t ≤ u) :
    w.Sound art books u :=
  fun result hResult => (h result hResult).of_le hLater

/-- A worker without a result is sound. -/
theorem Worker.sound_of_none {w : Worker} {t : Storage} (h : w.result = none) :
    w.Sound art books t := by
  intro result hResult
  rw [h] at hResult
  exact absurd hResult (Option.some_ne_none result).symm

/-- What `execute_report_processing_job` hands in of a processing that has ended. -/
theorem taskOutcome_sound {r : ProcessorRun} {claim : ReportProcessingClaim} {t : Storage}
    (hOf : r.IsOf art books claim t) (hKept : t.Kept)
    {outcome : Except ReportProcessingFailure StoredArtifacts}
    (hDone : r.program.outcome? = some outcome) :
    ((taskOutcome r.storagePrefix outcome).result claim).Sound art books claim t := by
  have hEnds := Safe.of_outcome hOf hKept hDone
  cases outcome with
  | ok artifacts => exact hEnds
  | error e =>
    cases e with
    | terminal code => exact hEnds
    | retryable code => exact ⟨hEnds, by decide⟩
    | unexpected => exact (by decide : isSafeErrorCode (str "processing_internal_error") = true)

/-- A change of the storage by anybody. -/
theorem PipelineInvariant.change (h : PipelineInvariant art books s) {storage : Storage}
    (hKept : storage.Kept) (hLater : s.storage ≤ storage) :
    PipelineInvariant art books { s with storage } where
  jobs := h.jobs
  storage := hKept
  fits := h.fits
  running token r hr := by
    obtain ⟨w, hw, hToken, hOf⟩ := h.running token r hr
    exact ⟨w, hw, hToken, hOf.of_le hLater⟩
  sound w hw := (h.sound w hw).of_le hLater
  valid := h.valid

/-- The processing of a worker goes on. -/
theorem PipelineInvariant.goOn (h : PipelineInvariant art books s) {w : Worker} {token : Uuid}
    (hw : w ∈ s.jobs.workers) (hToken : w.claim.leaseToken = token) {storagePrefix : Str}
    {program : ProcessorProgram StoredArtifacts}
    (hOf : ProcessorRun.IsOf art books ⟨storagePrefix, program⟩ w.claim s.storage) :
    PipelineInvariant art books { s with running := s.goOn token storagePrefix program } where
  jobs := h.jobs
  storage := h.storage
  fits := h.fits
  running token' r hr := by
    -- The one run that goes on, and all the others.
    by_cases hSame : token' = token
    · have hHere : s.goOn token storagePrefix program token' = some ⟨storagePrefix, program⟩ := by
        rw [hSame]
        exact Function.update_self ..
      obtain rfl := Option.some.inj (hHere.symm.trans hr)
      exact ⟨w, hw, hToken.trans hSame.symm, hOf⟩
    · have hThere : s.goOn token storagePrefix program token' = s.running token' :=
        Function.update_of_ne hSame ..
      exact h.running token' r (hThere.symm.trans hr)
  sound := h.sound
  valid := h.valid

/-- A transaction of the service. -/
theorem PipelineInvariant.transact (h : PipelineInvariant art books s) {a : ProcessingAction}
    (hOther : a.isProcess = false) :
    PipelineInvariant art books { s with jobs := s.jobs.step a } := by
  -- A transaction adds at most one worker, which has no result yet.
  obtain ⟨hWorkers, hCompletions⟩ := ProcessingState.step_lists (s := s.jobs) hOther
  have hFits : ∀ claim, ClaimFits s.jobs.db.jobs claim → ClaimFits (s.jobs.step a).db.jobs claim :=
    fun claim hClaim => ProcessingState.claimFits_step h.jobs a hClaim
  refine ⟨ProcessingState.step_invariant s.jobs a h.jobs, h.storage, fun w hw => ?_,
    fun token r hr => ?_, fun w hw => ?_, fun c hc => ?_⟩
  · rcases hWorkers with hSame | ⟨v, hAdded, -, hNew⟩
    · exact hFits w.claim (h.fits w (hSame ▸ hw))
    · rcases List.mem_cons.mp (hAdded ▸ hw) with rfl | hOld
      · exact hFits w.claim hNew
      · exact hFits w.claim (h.fits w hOld)
  · obtain ⟨w, hw, hToken, hOf⟩ := h.running token r hr
    rcases hWorkers with hSame | ⟨v, hAdded, -, -⟩
    · exact ⟨w, hSame.symm ▸ hw, hToken, hOf⟩
    · exact ⟨w, hAdded.symm ▸ List.mem_cons_of_mem v hw, hToken, hOf⟩
  · rcases hWorkers with hSame | ⟨v, hAdded, hNone, -⟩
    · exact h.sound w (hSame ▸ hw)
    · rcases List.mem_cons.mp (hAdded ▸ hw) with rfl | hOld
      · exact Worker.sound_of_none hNone
      · exact h.sound w hOld
  · exact (hCompletions c hc).elim (h.valid c) id

/-- A worker learns how its processing went. -/
theorem PipelineInvariant.conclude (h : PipelineInvariant art books s) {token : Uuid}
    {r : ProcessorRun} (hr : s.running token = some r)
    {outcome : Except ReportProcessingFailure StoredArtifacts}
    (hDone : r.program.outcome? = some outcome) :
    PipelineInvariant art books
      { s with jobs := s.jobs.step (.process token (taskOutcome r.storagePrefix outcome)) } := by
  obtain ⟨holder, hHolder, hToken, hOf⟩ := h.running token r hr
  have hLearn := Worker.learn_cases token (taskOutcome r.storagePrefix outcome)
  refine ⟨ProcessingState.step_invariant s.jobs (.process token _) h.jobs, h.storage,
    fun w hw => ?_, fun token' r' hr' => ?_, fun w hw result hResult => ?_, h.valid⟩
  · obtain ⟨v, hv, rfl⟩ := List.mem_map.mp hw
    rw [(hLearn v).1]
    exact h.fits v hv
  · obtain ⟨v, hv, hToken', hOf'⟩ := h.running token' r' hr'
    refine ⟨v.learn token (taskOutcome r.storagePrefix outcome), List.mem_map_of_mem hv, ?_, ?_⟩
    · rw [(hLearn v).1]
      exact hToken'
    · rw [(hLearn v).1]
      exact hOf'
  · obtain ⟨v, hv, rfl⟩ := List.mem_map.mp hw
    rw [(hLearn v).1]
    by_cases hMine : v.claim.leaseToken = token ∧ v.result.isNone = true
    · -- the only worker with the token is the one that processed
      obtain rfl : v = holder := h.jobs.eq_of_token hv hHolder (hMine.1.trans hToken.symm)
      rw [Worker.learn, if_pos hMine] at hResult
      obtain rfl := Option.some.inj hResult
      exact taskOutcome_sound hOf h.storage hDone
    · rw [Worker.learn, if_neg hMine] at hResult
      exact h.sound v hv result hResult

/-- **Step lemma.** -/
theorem PipelineInvariant.step (h : PipelineInvariant art books s) (a : PipelineAction) :
    PipelineInvariant art books (s.step art books service a) := by
  cases a with
  | transact action =>
    simp only [PipelineState.step]
    split
    · exact h
    · next hOther => exact h.transact (Bool.eq_false_iff.mpr hOther)
  | start token settings recentlyChecked =>
    simp only [PipelineState.step]
    split
    · next w hWorker hNone =>
      obtain ⟨hw, hToken⟩ := ProcessingState.worker_eq_some hWorker
      exact h.goOn hw hToken (processReport_safe settings recentlyChecked)
    · exact h
  | call token fate =>
    simp only [PipelineState.step]
    cases hr : s.running token with
    | none => exact h
    | some r =>
      obtain ⟨w, hw, hToken, hOf⟩ := h.running token r hr
      -- A storage call keeps what is stored and leaves the rest of the program safe.
      obtain ⟨hKept, hLater, hRest⟩ := Safe.advance hOf h.storage fate
      exact (h.change hKept hLater).goOn hw hToken hRest
  | crash token =>
    simp only [PipelineState.step]
    cases hr : s.running token with
    | none => exact h
    | some r =>
      obtain ⟨w, hw, hToken, -⟩ := h.running token r hr
      simp only
      split
      · exact h
      · -- A crashed run makes no call any more.
        exact h.goOn hw hToken fun _ _ _ => trivial
  | conclude token =>
    simp only [PipelineState.step]
    cases hr : s.running token with
    | none => exact h
    | some r =>
      simp only
      cases hDone : r.program.outcome? with
      | none => exact h
      | some outcome => exact h.conclude hr hDone
  | put bucket key object =>
    exact h.change (h.storage.put service bucket key object) (Storage.le_put service object)
  | reject storagePrefix businessId batchId uploadId extension bucket versionId =>
    simp only [PipelineState.step]
    split
    · next hExtension =>
      exact h.change (h.storage.delete ⟨_, _, _, _, _, hExtension, rfl⟩) (le_refl s.storage)
    · exact h
  | configure bucket secure =>
    exact h.change ⟨h.storage.known, h.storage.distinct, h.storage.stays⟩ (le_refl s.storage)

/-- Queued jobs over kept storage meet the invariant. -/
theorem init_pipelineInvariant (uploads : Table ReportUpload) {jobs : Table ReportProcessingJob}
    (hNew : ∀ j ∈ jobs, j.status = .queued ∧ j.attemptCount = 0) {storage : Storage}
    (hStorage : storage.Kept) : PipelineInvariant art books (.init uploads jobs storage) where
  jobs := ProcessingState.init_invariant uploads hNew
  storage := hStorage
  fits _ hw := absurd hw List.not_mem_nil
  running _ r hr := absurd hr (Option.some_ne_none r).symm
  sound _ hw := absurd hw List.not_mem_nil
  valid _ hc := absurd hc List.not_mem_nil

/-- The state after a run. -/
theorem run_pipelineInvariant (service : ObjectService) (uploads : Table ReportUpload)
    {jobs : Table ReportProcessingJob} (hNew : ∀ j ∈ jobs, j.status = .queued ∧ j.attemptCount = 0)
    {storage : Storage} (hStorage : storage.Kept) (actions : List PipelineAction) :
    PipelineInvariant art books (Machine.run (PipelineState.step art books service)
      (.init uploads jobs storage) actions) :=
  Machine.run_invariant (I := PipelineInvariant art books) (fun _ a h => h.step a)
    (init_pipelineInvariant uploads hNew hStorage) actions

-- ---------------------------------------------------------------------------
-- Completed jobs
-- ---------------------------------------------------------------------------

/-- The context in which a job is parsed, with what its claim says of the file. -/
def ReportProcessingJob.parsingContext (j : ReportProcessingJob) (claim : ReportProcessingClaim) :
    ReportParsingContext where
  jobId := j.id
  businessId := j.businessId
  reportUploadId := j.reportUploadId
  originalFilename := claim.originalFilename
  fileExtension := claim.fileExtension
  contentType := claim.contentType

/-- The output columns of a job lead to the artifacts of a parse, and say how large it is. -/
structure ReportProcessingJob.LeadsTo (j : ReportProcessingJob) (s : Storage)
    (parsed : ParsedReportArtifacts) : Prop where
  normalized : ∃ bucket key version, j.resultStorageBucket = some bucket ∧
    j.normalizedStorageKey = some key ∧ j.normalizedStorageVersionId = some version ∧
    (s.objects.version? bucket key version).map ObjectVersion.content = some parsed.normalizedContent
  profile : ∃ bucket key version, j.resultStorageBucket = some bucket ∧
    j.profileStorageKey = some key ∧ j.profileStorageVersionId = some version ∧
    (s.objects.version? bucket key version).map ObjectVersion.content = some parsed.profileContent
  normalizedSizeBytes : j.normalizedSizeBytes = some (parsed.normalizedContent.length : Int)
  recordCount : j.recordCount = some (parsed.recordCount : Int)
  sheetCount : j.sheetCount = some (parsed.sheetCount : Int)

/-- A name that was given under an artifact key leads to what was put. -/
theorem Storage.Kept.content_eq {t : Storage} (h : t.Kept) {bucket key version : Str}
    {content : List UInt8} (hKey : ¬ IsUploadKey key) (hNamed : version ≠ nullVersion)
    (hHas : t.past.Has bucket key version content) :
    (t.objects.version? bucket key version).map ObjectVersion.content = some content := by
  obtain ⟨v, hv, hId, rfl⟩ := hHas
  rw [h.version?_eq hKey hv hId hNamed]
  rfl

/-- What a completed job leads to, and what it was parsed from. -/
theorem PipelineInvariant.completed (h : PipelineInvariant art books s) {j : ReportProcessingJob}
    (hj : j ∈ s.jobs.db.jobs) (hStatus : j.status = .completed) :
    ∃ w content parsed, s.jobs.latestWorker j.id = some w ∧
      s.storage.past.Has w.claim.storageBucket w.claim.storageKey j.sourceStorageVersionId content ∧
      parseReportContent art.report art.gzip books art.sha256 (j.parsingContext w.claim) content =
        .ok parsed ∧ j.LeadsTo s.storage parsed := by
  obtain ⟨w, o, hLatest, hResult, hHas, -⟩ := (h.jobs.job j hj).output hStatus
  obtain ⟨hw, hJobId⟩ := ProcessingState.latestWorker_eq_some hLatest
  obtain ⟨⟨⟨storagePrefix, hKeyN, hKeyP⟩, -⟩, content, parsed, hSource, hNames⟩ :=
    h.sound w hw (.output o) hResult
  -- the claim was made of this row
  obtain ⟨j', hj', hColumns⟩ := h.fits w hw
  simp only [ReportProcessingJob.sourceColumns, Prod.mk.injEq] at hColumns
  obtain ⟨hId, hBusiness, hUpload, hVersion, -⟩ := hColumns
  obtain rfl : j' = j := Table.eq_of_key_eq hj' hj (hId.trans hJobId)
  obtain ⟨hBucket, hN, hNV, -, hSize, hP, hPV, -, hRecords, hSheets⟩ := hHas
  have hContext : j'.parsingContext w.claim = w.claim.parsingContext := by
    simp only [ReportProcessingJob.parsingContext, ReportProcessingClaim.parsingContext, hId,
      hBusiness, hUpload]
  refine ⟨w, content, parsed, hLatest, hVersion ▸ hSource.source, hContext ▸ hSource.parse,
    ⟨⟨_, _, _, hBucket, hN, hNV, ?_⟩, ⟨_, _, _, hBucket, hP, hPV, ?_⟩, ?_, ?_, ?_⟩⟩
  · exact h.storage.content_eq (hKeyN ▸ normalizedKey_not_upload storagePrefix w.claim)
      hNames.named.1 hNames.normalized
  · exact h.storage.content_eq (hKeyP ▸ profileKey_not_upload storagePrefix w.claim)
      hNames.named.2 hNames.profile
  · rw [hSize, hNames.normalizedSizeBytes]
  · rw [hRecords, hNames.recordCount]
  · rw [hSheets, hNames.sheetCount]

/-- **One parse.** In every run of the pipeline, whatever the order of the transactions, of the
storage calls of all workers and of what others do to the buckets, and wherever workers are
overtaken, stop or lose answers: the output columns of a completed job lead to artifacts that are
both there and come from one parse, under the job's own identifiers, of the bytes that were stored
under its source version. -/
theorem completed_jobs_hold_one_parse (art : ArtifactLibrary) (books : WorkbookLibrary)
    (service : ObjectService) (uploads : Table ReportUpload) (jobs : Table ReportProcessingJob)
    (hNew : ∀ j ∈ jobs, j.status = .queued ∧ j.attemptCount = 0) (storage : Storage)
    (hStorage : storage.Kept) (actions : List PipelineAction) :
    let s := Machine.run (PipelineState.step art books service) (.init uploads jobs storage) actions
    ∀ j ∈ s.jobs.db.jobs, j.status = .completed →
      ∃ w content parsed, s.jobs.latestWorker j.id = some w ∧
        s.storage.past.Has w.claim.storageBucket w.claim.storageKey j.sourceStorageVersionId content ∧
        parseReportContent art.report art.gzip books art.sha256 (j.parsingContext w.claim) content =
          .ok parsed ∧ j.LeadsTo s.storage parsed := by
  intro s j hj hStatus
  exact (run_pipelineInvariant service uploads hNew hStorage actions).completed hj hStatus

-- ---------------------------------------------------------------------------
-- A sample
-- ---------------------------------------------------------------------------

namespace PipelineSample

open RoundTripSample

/-- Identifiers that are longer than all before. -/
def numberedService : ObjectService where
  answer s bucket key :=
    { etag := some (str "e")
      versionId := some (List.replicate
        (((s.past.versions bucket key).map fun v => (v.versionId.getD []).length).sum + 1) 0x76)
      lastModified := none }
  etag_not_blank s bucket key etag hEtag _ := by
    rw [← Option.some.inj hEtag]
    decide
  versionId_not_blank s bucket key id hId := by
    rw [← Option.some.inj hId]
    exact List.ne_nil_of_mem ((mem_strip (by decide) _).mpr List.mem_cons_self)
  fresh s bucket key id hId _ v hv hSame := by
    have hGiven : id = List.replicate
        (((s.past.versions bucket key).map fun v => (v.versionId.getD []).length).sum + 1) 0x76 := by
      exact (Option.some.inj hId).symm
    have hBound : (v.versionId.getD []).length ≤
        ((s.past.versions bucket key).map fun v => (v.versionId.getD []).length).sum :=
      List.single_le_sum (fun _ _ => Nat.zero_le _) _ (List.mem_map_of_mem hv)
    have hLength : id.length =
        ((s.past.versions bucket key).map fun v => (v.versionId.getD []).length).sum + 1 := by
      rw [hGiven, List.length_replicate]
    rw [hSame, Option.getD_some, hLength] at hBound
    omega

def upload : ReportUpload where
  id := context.reportUploadId
  businessId := context.businessId
  status := .uploaded
  storageBucket := str "reports"
  storageKey := uploadKey (str "uploads") 2 4 3 (str "csv")
  storageVersionId := some (str "v1")
  etag := some (str "e1")
  originalFilename := context.originalFilename
  fileExtension := context.fileExtension
  contentType := context.contentType
  actualSizeBytes := some content.length

def uploads : Table ReportUpload := .single upload (by decide)

def jobs : Table ReportProcessingJob :=
  .single (ProcessingDatabase.newJob 2 upload ⟨1, 0, 0⟩) (by decide)

theorem jobs_new : ∀ j ∈ jobs, j.status = .queued ∧ j.attemptCount = 0 := by decide

/-- The version that the client has put. -/
def source : ObjectVersion where
  contentLength := content.length
  contentType := some context.contentType
  cacheControl := some s3CacheControl
  serverSideEncryption := some s3EncryptionAlgorithm
  metadata := []
  etag := some (str "e1")
  versionId := some (str "v1")
  lastModified := none
  content := content

def objects : ObjectStore where
  versions bucket key :=
    if bucket = upload.storageBucket ∧ key = upload.storageKey then [source] else []

def storage : Storage := ⟨objects, objects, fun _ => true⟩

/-- The sample storage is kept. -/
theorem storage_kept : storage.Kept := by
  have hOnly : ∀ b k, ∀ v ∈ objects.versions b k, v = source := by
    intro b k v hv
    have hv : v ∈ if b = upload.storageBucket ∧ k = upload.storageKey then [source] else [] := hv
    split at hv
    · exact List.mem_singleton.mp hv
    · exact absurd hv List.not_mem_nil
  refine ⟨fun _ _ _ hv => hv, fun b k v hv v' hv' _ _ => ?_, fun _ _ _ _ hv _ => hv⟩
  rw [hOnly b k v hv, hOnly b k v' hv']

def settings : ProcessorSettings where
  s3UploadsEnabled := true
  s3UploadBucket := some upload.storageBucket
  awsRegion := some (str "eu-west-1")
  validateXlsContent _ := .ok ()
  validateXlsxContent _ := .ok ()
  s3UploadPrefix := str "uploads"
  bucket_valid _ bucket hBucket := by
    rw [← Option.some.inj hBucket]
    decide

/-- The first worker reads the file and writes one artifact. The second one takes the job over when
the lease has expired, and writes both; then the first one writes its other artifact and hands its
result in, and the second one does. -/
def takeover : List PipelineAction :=
  [.transact (.claim 1 0 reportProcessingLeaseDuration 7), .start 7 settings false,
    .call 7 .answered, .call 7 .answered, .call 7 .answered,
    .transact (.claim 1 (minutes 16) reportProcessingLeaseDuration 8), .start 8 settings true,
    .call 8 .answered, .call 8 .answered, .call 8 .answered, .call 7 .answered,
    .conclude 7, .transact (.finish 7 (minutes 17)), .conclude 8,
    .transact (.finish 8 (minutes 18))]

/-- The state after the takeover. -/
def final (art : ArtifactLibrary) : PipelineState :=
  Machine.run (PipelineState.step art workbooks numberedService) (.init uploads jobs storage) takeover

theorem final_eq (art : ArtifactLibrary) : final art = Machine.run
    (PipelineState.step art workbooks numberedService) (.init uploads jobs storage) takeover := rfl

end PipelineSample

open PipelineSample RoundTripSample in
/-- The job that was taken over is completed. -/
theorem completed_jobs_hold_one_parse_takeover :
    ((final (library .null [])).jobs.db.jobs.rows.map fun j => (j.status, j.recordCount)) =
      [(.completed, some 3)] ∧
    ∀ j ∈ (final (library .null [])).jobs.db.jobs, j.status = .completed →
      ∃ w content parsed, (final (library .null [])).jobs.latestWorker j.id = some w ∧
        (final (library .null [])).storage.past.Has w.claim.storageBucket w.claim.storageKey
          j.sourceStorageVersionId content ∧
        parseReportContent report gzip workbooks (fun _ => digest) (j.parsingContext w.claim)
          content = .ok parsed ∧ j.LeadsTo (final (library .null [])).storage parsed := by
  refine ⟨?_, ?_⟩
  · -- Three records, by the second worker.
    decide +kernel
  · rw [final_eq]
    exact completed_jobs_hold_one_parse (library .null []) workbooks numberedService uploads jobs
      jobs_new storage storage_kept takeover

end SpikeBackend
