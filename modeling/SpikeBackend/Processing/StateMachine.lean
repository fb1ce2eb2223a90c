import SpikeBackend.Processing.Invariant

/-!
# The state machine of a processing job

Every transaction over the jobs raises an error of the service, leaves the jobs as they
are, adds new ones or rewrites one row by a `RowStep`; so the invariant holds on every run.

* `RowStep.saved` — a rewritten job meets no constraint of the table;
* `perform_cases` — what a dispatch, a claim or a worker's call does;
* `step_invariant` — one transaction keeps the invariant;
* `job_state_machine` — the CHECK constraints, the bound on the claims and finality.
-/

namespace SpikeBackend

open Relational Text Outcome Session

-- ---------------------------------------------------------------------------
-- Artifact keys
-- ---------------------------------------------------------------------------

/-- What follows the last slash before the identifier decides the identifier. -/
theorem uuidText_of_suffix {front front' : Str} {m n : Uuid}
    (h : front ++ str "/" ++ uuidText m = front' ++ str "/" ++ uuidText n) : m = n := by
  have hSlash : ∀ k, (str "/").head (by decide) ∉ (uuidText k).reverse := fun k hMem =>
    -- An id has no slash, so the last slash splits both texts at the same place.
    not_mem_uuidText (by decide) (by decide) (by decide) k (List.mem_reverse.mp hMem)
  have hReversed := congrArg List.reverse h
  have hSplit : ∀ (front : Str) (k : Uuid), (front ++ str "/" ++ uuidText k).reverse =
      (uuidText k).reverse ++ (str "/").head (by decide) :: front.reverse := by
    intro front k
    simp [str]
  rw [hSplit, hSplit] at hReversed
  rcases List.append_eq_append_iff.mp hReversed with ⟨c, hc, hTail⟩ | ⟨c, hc, hTail⟩
  · cases c with
    | nil => exact uuidText_injective (List.reverse_injective (by simpa using hc.symm))
    | cons d ds =>
      obtain ⟨hHead, -⟩ := List.cons.inj hTail
      exact absurd (hc ▸ (by simp [hHead])) (hSlash n)
  · cases c with
    | nil => exact uuidText_injective (List.reverse_injective (by simpa using hc))
    | cons d ds =>
      obtain ⟨hHead, -⟩ := List.cons.inj hTail
      exact absurd (hc ▸ (by simp [hHead])) (hSlash m)

/-- The base of an artifact key names the job. -/
theorem artifactBase_jobId {storagePrefix storagePrefix' : Str}
    {claim claim' : ReportProcessingClaim}
    (h : artifactBase storagePrefix claim = artifactBase storagePrefix' claim') :
    claim.jobId = claim'.jobId := by
  have hSplit : ∀ (storagePrefix : Str) (claim : ReportProcessingClaim),
      artifactBase storagePrefix claim =
        (storagePrefix ++ str "/" ++ uuidText claim.businessId ++ str "/processed") ++ str "/" ++
          uuidText claim.jobId := by
    intro storagePrefix claim
    have hText : str "/processed/" = str "/processed" ++ str "/" := by decide
    simp only [artifactBase, hText, List.append_assoc]
  rw [hSplit, hSplit] at h
  exact uuidText_of_suffix h

/-- Two claims of one artifact key are claims of one job. -/
theorem normalizedKey_jobId {storagePrefix storagePrefix' : Str}
    {claim claim' : ReportProcessingClaim}
    (h : normalizedKey storagePrefix claim = normalizedKey storagePrefix' claim') :
    claim.jobId = claim'.jobId :=
  artifactBase_jobId (List.append_cancel_right h)

/-- A profile key names the job. -/
theorem profileKey_jobId {storagePrefix storagePrefix' : Str}
    {claim claim' : ReportProcessingClaim}
    (h : profileKey storagePrefix claim = profileKey storagePrefix' claim') :
    claim.jobId = claim'.jobId :=
  artifactBase_jobId (List.append_cancel_right h)

/-- An outcome reaches the worker of its token, once. -/
theorem Worker.learn_cases (token : Uuid) (outcome : ProcessorOutcome) (w : Worker) :
    (w.learn token outcome).claim = w.claim ∧ (w.learn token outcome).claimedAt = w.claimedAt ∧
      ((w.learn token outcome).result = w.result ∨
        w.result = none ∧ (w.learn token outcome).result = some (outcome.result w.claim)) := by
  unfold Worker.learn
  split
  · next h => exact ⟨rfl, rfl, .inr ⟨Option.isNone_iff_eq_none.mp h.2, rfl⟩⟩
  · exact ⟨rfl, rfl, .inl rfl⟩

namespace ProcessingState

variable {s : ProcessingState} {row row' : ReportProcessingJob} {workers : List Worker}
  {completions : List Completion}

-- ---------------------------------------------------------------------------
-- Saving a rewritten job
-- ---------------------------------------------------------------------------

/-- The artifacts of a row are those of a claim of its job. -/
theorem ProcessingInvariant.artifacts (hInv : s.ProcessingInvariant) {j : ReportProcessingJob}
    (hj : j ∈ s.db.jobs) :
    (∀ k, j.normalizedStorageKey = some k →
      ∃ storagePrefix claim, claim.jobId = j.id ∧ k = normalizedKey storagePrefix claim) ∧
    (∀ k, j.profileStorageKey = some k →
      ∃ storagePrefix claim, claim.jobId = j.id ∧ k = profileKey storagePrefix claim) := by
  have hOutput := (ReportProcessingJob.checks_iff.mp (Table.checks_of_mem hj)).2.2.2.1
  simp only [ReportProcessingJob.outputFieldsCheck, ReportProcessingJob.outputColumns,
    List.all_eq_true, beq_iff_eq] at hOutput
  by_cases hStatus : j.status = .completed
  · obtain ⟨w, o, hLatest, hResult, hHas, -⟩ := (hInv.job j hj).output hStatus
    obtain ⟨hw, hJob⟩ := latestWorker_eq_some hLatest
    obtain ⟨storagePrefix, hNormalized, hProfile⟩ := hInv.keyed w hw o hResult
    refine ⟨fun k hk => ⟨storagePrefix, w.claim, hJob, ?_⟩,
      fun k hk => ⟨storagePrefix, w.claim, hJob, ?_⟩⟩
    · exact (Option.some.inj (hHas.2.1.symm.trans hk)).symm.trans hNormalized
    · exact (Option.some.inj (hHas.2.2.2.2.2.1.symm.trans hk)).symm.trans hProfile
  · -- an unfinished row has no artifacts
    have hNone := hOutput j.normalizedStorageKey.isSome (by simp)
    have hNone' := hOutput j.profileStorageKey.isSome (by simp)
    rw [decide_eq_false hStatus] at hNone hNone'
    exact ⟨fun k hk => by simp [hk] at hNone, fun k hk => by simp [hk] at hNone'⟩

/-- **Integrity.** A rewritten job is saved. -/
theorem RowStep.saved (h : s.RowStep row row' workers completions)
    (hInv : s.ProcessingInvariant) (hRow : row ∈ s.db.jobs) :
    ∃ jobs, s.db.jobs.update? row' = some jobs ∧ s.db.saveJob row' = .ok { s.db with jobs } := by
  obtain ⟨hId, -, hUpload, -⟩ := h.frame
  -- The artifact keys are unique: each names its job.
  have hClash : ∀ x ∈ s.db.jobs, Schema.key x ≠ Schema.key row' → Schema.clash x row' = false := by
    intro x hx hne
    have hOther : x.id ≠ row.id := fun hSame => hne (hSame.trans hId.symm)
    have hApart := (s.db.jobs.apart_of_ne hx hRow fun hSame => hOther (congrArg _ hSame)).2
    simp only [Schema.clash, Bool.or_eq_false_iff, Bool.and_eq_false_iff, beq_eq_false_iff_ne]
      at hApart ⊢
    obtain ⟨⟨hUploads, hNormalized⟩, hProfile⟩ := hApart
    rw [hUpload]
    rcases h.keys with ⟨hSameN, hSameP⟩ | ⟨w, output, hLatest, hResult, hNewN, hNewP⟩
    · rw [hSameN, hSameP]
      exact ⟨⟨hUploads, hNormalized⟩, hProfile⟩
    · obtain ⟨hw, hJob⟩ := latestWorker_eq_some hLatest
      -- New keys were built from the claim of this job.
      obtain ⟨storagePrefix, hKeyN, hKeyP⟩ := hInv.keyed w hw output hResult
      obtain ⟨hStoredN, hStoredP⟩ := hInv.artifacts hx
      rw [hNewN, hNewP]
      refine ⟨⟨hUploads, .inr fun hSame => ?_⟩, .inr fun hSame => ?_⟩
      · obtain ⟨_, claim, hClaim, hKey⟩ := hStoredN _ hSame
        exact hOther (hClaim.symm.trans
          ((normalizedKey_jobId (hKeyN.symm.trans hKey)).symm.trans hJob))
      · obtain ⟨_, claim, hClaim, hKey⟩ := hStoredP _ hSame
        exact hOther (hClaim.symm.trans
          ((profileKey_jobId (hKeyP.symm.trans hKey)).symm.trans hJob))
  obtain ⟨jobs, hUpdate⟩ := Table.exists_update? hClash (h.checks hInv hRow)
  exact ⟨jobs, hUpdate, by rw [ProcessingDatabase.saveJob, hUpdate]; rfl⟩

/-- What a transaction that may rewrite a job makes of the state. -/
inductive Rewrites (s : ProcessingState) : Except ProcessingError (ProcessingState × Bool) → Prop
  | refused (message : Str) : Rewrites s (.error (.value message))
  | unchanged (changed : Bool) : Rewrites s (.ok (s, changed))
  | rewritten {row row' : ReportProcessingJob} {workers : List Worker}
      {completions : List Completion} {jobs : Table ReportProcessingJob} (changed : Bool)
      (hRow : row ∈ s.db.jobs) (hStep : s.RowStep row row' workers completions)
      (hUpdate : s.db.jobs.update? row' = some jobs) :
      Rewrites s (.ok ({ s with db := { s.db with jobs }, workers, completions }, changed))

-- ---------------------------------------------------------------------------
-- The transactions that rewrite a job
-- ---------------------------------------------------------------------------

theorem validateOutput_eq_error {output : ReportProcessingOutput} {e : ProcessingError}
    (h : validateOutput output = .error e) : ∃ message, e = .value message := by
  simp only [validateOutput, bind_eq_error, ensure_eq_error] at h
  rcases h with ⟨-, rfl⟩ | ⟨_, -, ⟨-, rfl⟩ | ⟨_, -, ⟨-, rfl⟩ | ⟨_, -, -, rfl⟩⟩⟩ <;> exact ⟨_, rfl⟩

theorem validateProcessingErrorCode_eq_error {errorCode : Str} {e : ProcessingError}
    (h : validateProcessingErrorCode errorCode = .error e) : ∃ message, e = .value message :=
  ⟨_, (ensure_eq_error.mp h).2.symm⟩

/-- A dispatch rewrites the row of the job that its session loaded. -/
theorem dispatch_rewrites (hInv : s.ProcessingInvariant) {n : Nat}
    {dispatchTime recordedAt : Datetime}
    (hOrder : s.inOrder (.dispatch n dispatchTime recordedAt) = true) :
    s.Rewrites (s.perform (.dispatch n dispatchTime recordedAt)) := by
  cases hDue : (s.loads[n]?).filter (·.isDue dispatchTime) with
  | none =>
    simp only [perform, hDue]
    exact .unchanged false
  | some loaded =>
    obtain ⟨hLoad, -⟩ := Option.filter_eq_some_iff.mp hDue
    have hLoaded : loaded ∈ s.loads := List.mem_of_getElem? hLoad
    -- The dispatch was loaded before, so it may be of a row that has changed since.
    have hCreated : loaded.createdAt ≤ recordedAt := by
      simpa [inOrder, hLoad] using hOrder
    simp only [perform, hDue, ProcessingDatabase.recordDispatch]
    cases hGet : s.db.jobs.get? loaded.id with
    | none => exact .unchanged true
    | some row =>
      obtain ⟨hRow, hId⟩ := Table.get?_eq_some.mp hGet
      have hStep := RowStep.dispatched loaded recordedAt hLoaded hId.symm hCreated
      obtain ⟨jobs, hUpdate, hSaved⟩ := hStep.saved hInv hRow
      simp only [hSaved]
      exact .rewritten true hRow hStep hUpdate

/-- A job that may be claimed has started by then, if at all. -/
theorem startedBy_of_claimable {latest : Option Worker} {claims : Nat}
    {job : ReportProcessingJob} {claimedAt : Datetime}
    (hJob : JobInvariant latest claims completions job) (hChecks : job.checks = true)
    (hClaimable : job.isClaimable claimedAt = true) :
    job.status.isTerminal = false ∧ job.StartedBy claimedAt := by
  obtain ⟨-, -, hFields, -, -, -, hTimes⟩ := ReportProcessingJob.checks_iff.mp hChecks
  simp only [ReportProcessingJob.isClaimable, Bool.and_eq_true, Bool.not_eq_true',
    Bool.and_eq_false_iff, beq_eq_false_iff_ne] at hClaimable
  obtain ⟨⟨hOpen, hLease⟩, hAvailable⟩ := hClaimable
  refine ⟨hOpen, fun t ht => ?_⟩
  -- A queued job may have been started by a worker that gave it back.
  cases hStatus : job.status with
  | queued =>
    simp only [ReportProcessingJob.statusFieldsCheck, hStatus, Bool.and_eq_true,
      Option.isSome_iff_exists] at hFields
    obtain ⟨⟨⟨⟨a, ha⟩, -⟩, -⟩, -⟩ := hFields
    have hBy : a ≤ claimedAt := by simpa [hStatus, ha] using hAvailable
    exact (hJob.available a ha t ht).trans hBy
  | processing =>
    obtain ⟨-, -, -, e, he⟩ := ReportProcessingJob.processing_fields hChecks hStatus
    have hExpired : e ≤ claimedAt := by simpa [hStatus, he] using hLease
    exact ((ReportProcessingJob.timestampsCheck_iff.mp hTimes).2.2.2.2 e he t ht).le.trans hExpired
  | completed => simp [hStatus, ReportProcessingStatus.isTerminal] at hOpen
  | failed => simp [hStatus, ReportProcessingStatus.isTerminal] at hOpen

/-- A claim rewrites the row of its job. -/
theorem claim_rewrites (hInv : s.ProcessingInvariant) {jobId token : Uuid} {claimedAt : Datetime}
    {leaseDuration : Int}
    (hOrder : s.inOrder (.claim jobId claimedAt leaseDuration token) = true) :
    s.Rewrites (s.perform (.claim jobId claimedAt leaseDuration token)) := by
  simp only [inOrder, Bool.and_eq_true, Option.isNone_iff_eq_none] at hOrder
  obtain ⟨hAfter, hFresh⟩ := hOrder
  simp only [perform, ProcessingDatabase.claimJob]
  by_cases hLease : 0 < leaseDuration
  · rw [ensure, if_pos hLease]
    cases hGet : s.db.jobs.get? jobId with
    | none => exact .unchanged false
    | some job =>
      obtain ⟨hRow, hId⟩ := Table.get?_eq_some.mp hGet
      have hCreated : job.createdAt ≤ claimedAt := by simpa [hGet] using hAfter
      by_cases hClaimable : job.isClaimable claimedAt = false
      · simp only [hClaimable, if_true]
        exact .unchanged false
      · rw [Bool.not_eq_false] at hClaimable
        obtain ⟨hOpen, hStarted⟩ := startedBy_of_claimable (hInv.job job hRow)
          (Table.checks_of_mem hRow) hClaimable
        have hFailed := fun errorCode =>
          RowStep.failed (s := s) errorCode claimedAt hOpen hCreated hStarted
        simp only [hClaimable, Bool.true_eq_false, if_false]
        -- The attempts are used up, or the source is gone, or the claim is made.
        by_cases hAttempts : job.maxAttempts ≤ job.attemptCount
        · obtain ⟨jobs, hUpdate, hSaved⟩ := (hFailed attemptLimitError).saved hInv hRow
          simp only [hAttempts, if_true, hSaved]
          exact .rewritten false hRow (hFailed attemptLimitError) hUpdate
        · simp only [hAttempts, if_false]
          cases hSource : s.db.validSource job with
          | none =>
            obtain ⟨jobs, hUpdate, hSaved⟩ := (hFailed sourceInvalidError).saved hInv hRow
            simp only [hSaved]
            exact .rewritten false hRow (hFailed sourceInvalidError) hUpdate
          | some source =>
            have hStep := RowStep.claimed (ProcessingDatabase.claimOf job source.1 source.2 token)
              claimedAt leaseDuration hOpen hCreated hStarted (by omega) hLease rfl hFresh
            obtain ⟨jobs, hUpdate, hSaved⟩ := hStep.saved hInv hRow
            simp only [ProcessingDatabase.claimOf] at hSaved
            simp only [hSaved]
            exact .rewritten true hRow hStep hUpdate
  · rw [ensure, if_neg hLease]
    exact .refused _

/-- The locked job is the processing row that carries the token. -/
theorem lockedProcessingJob_eq_some {db : ProcessingDatabase} {jobId token : Uuid}
    {job : ReportProcessingJob} : db.lockedProcessingJob jobId token = some job ↔
      job ∈ db.jobs ∧ job.id = jobId ∧ job.status = .processing ∧ job.leaseToken = some token := by
  simp only [ProcessingDatabase.lockedProcessingJob, Option.filter_eq_some_iff, Table.get?_eq_some,
    Bool.and_eq_true, beq_iff_eq, and_assoc]
  rfl

/-- **Fencing.** The worker that finds its job locked under its token made the most recent
claim of the job. -/
theorem ProcessingInvariant.holder (hInv : s.ProcessingInvariant) {w : Worker} {token : Uuid}
    {job : ReportProcessingJob} (hw : s.worker token = some w)
    (hLocked : s.db.lockedProcessingJob w.claim.jobId w.claim.leaseToken = some job) :
    s.latestWorker job.id = some w ∧ job.StartedBy w.claimedAt := by
  obtain ⟨hRow, -, -, hToken⟩ := lockedProcessingJob_eq_some.mp hLocked
  obtain ⟨w', hLatest, hSame, hStarted⟩ := (hInv.job job hRow).held _ hToken
  have hEq : w' = w := hInv.eq_of_token (latestWorker_eq_some hLatest).1 (worker_eq_some hw).1 hSame
  exact hEq ▸ ⟨hLatest, hStarted⟩

/-- A worker's call rewrites the row of its job. -/
theorem finish_rewrites (hInv : s.ProcessingInvariant) {token : Uuid} {now : Datetime}
    (hOrder : s.inOrder (.finish token now) = true) :
    s.Rewrites (s.perform (.finish token now)) := by
  cases hw : s.worker token with
  | none =>
    simp only [perform, hw]
    exact .unchanged false
  | some w =>
    have hNow : w.claimedAt ≤ now := by simpa [inOrder, hw] using hOrder
    simp only [perform, hw]
    -- the row that a call finds was started before the call, by this worker
    have hFound : ∀ job, s.db.lockedProcessingJob w.claim.jobId w.claim.leaseToken = some job →
        job ∈ s.db.jobs ∧ w.claim.jobId = job.id ∧ job.status = .processing ∧
          s.latestWorker job.id = some w ∧ job.createdAt ≤ now ∧ job.StartedBy now := by
      intro job hLocked
      obtain ⟨hRow, hId, hStatus, -⟩ := lockedProcessingJob_eq_some.mp hLocked
      obtain ⟨hLatest, hStarted⟩ := hInv.holder hw hLocked
      have hChecks : job.checks = true := Table.checks_of_mem hRow
      obtain ⟨-, ⟨t, ht⟩, -⟩ := ReportProcessingJob.processing_fields hChecks hStatus
      have hTimes := ReportProcessingJob.timestampsCheck_iff.mp
        (ReportProcessingJob.checks_iff.mp hChecks).2.2.2.2.2.2
      exact ⟨hRow, hId.symm, hStatus, hLatest,
        ((hTimes.2.2.1 t ht).trans (hStarted t ht)).trans hNow,
        fun u hu => (hStarted u hu).trans hNow⟩
    cases hResult : w.result with
    | none =>
      simp only [finishJob, completionOf, hResult]
      exact .unchanged false
    | some result =>
      cases result with
      | output output =>
        simp only [finishJob, hResult, ProcessingDatabase.completeJob]
        cases hValid : validateOutput output with
        | error e =>
          obtain ⟨message, rfl⟩ := validateOutput_eq_error hValid
          exact .refused message
        | ok u =>
          cases hLocked : s.db.lockedProcessingJob w.claim.jobId w.claim.leaseToken with
          | none => exact .unchanged false
          | some job =>
            obtain ⟨hRow, hJob, hStatus, hLatest, -, hStarted⟩ := hFound job hLocked
            have hStep := RowStep.completed w output now hLatest hResult hValid hStatus hStarted
            obtain ⟨jobs, hUpdate, hSaved⟩ := hStep.saved hInv hRow
            simp only [hSaved, bind_ok, pure, Except.pure, completionOf, hResult, hJob]
            exact .rewritten true hRow hStep hUpdate
      | terminal errorCode =>
        simp only [finishJob, hResult, ProcessingDatabase.failJob]
        cases hValid : validateProcessingErrorCode errorCode with
        | error e =>
          obtain ⟨message, rfl⟩ := validateProcessingErrorCode_eq_error hValid
          exact .refused message
        | ok u =>
          cases hLocked : s.db.lockedProcessingJob w.claim.jobId w.claim.leaseToken with
          | none => exact .unchanged false
          | some job =>
            obtain ⟨hRow, hJob, hStatus, hLatest, hCreated, hStarted⟩ := hFound job hLocked
            have hStep := RowStep.failed (s := s) errorCode now (by rw [hStatus]; rfl) hCreated
              hStarted
            obtain ⟨jobs, hUpdate, hSaved⟩ := hStep.saved hInv hRow
            simp only [hSaved, bind_ok, pure, Except.pure, completionOf, hResult]
            exact .rewritten true hRow hStep hUpdate
      | retryable errorCode retryDelay =>
        simp only [finishJob, hResult, ProcessingDatabase.retryJob]
        cases hValid : validateProcessingErrorCode errorCode with
        | error e =>
          obtain ⟨message, rfl⟩ := validateProcessingErrorCode_eq_error hValid
          exact .refused message
        | ok u =>
          by_cases hDelay : 0 ≤ retryDelay
          · rw [ensure, if_pos hDelay]
            cases hLocked : s.db.lockedProcessingJob w.claim.jobId w.claim.leaseToken with
            | none => exact .unchanged false
            | some job =>
              obtain ⟨hRow, hJob, hStatus, hLatest, hCreated, hStarted⟩ := hFound job hLocked
              by_cases hAttempts : job.maxAttempts ≤ job.attemptCount
              · have hStep := RowStep.failed (s := s) errorCode now (by rw [hStatus]; rfl) hCreated
                  hStarted
                obtain ⟨jobs, hUpdate, hSaved⟩ := hStep.saved hInv hRow
                simp only [bind_ok, hAttempts, if_true, hSaved, pure, Except.pure, completionOf,
                  hResult]
                exact .rewritten true hRow hStep hUpdate
              · have hLater : now ≤ now + retryDelay := Int.le_add_of_nonneg_right hDelay
                have hStep := RowStep.requeued (s := s) errorCode (now + retryDelay) hStatus
                  (hCreated.trans hLater) fun t ht => (hStarted t ht).trans hLater
                obtain ⟨jobs, hUpdate, hSaved⟩ := hStep.saved hInv hRow
                simp only [bind_ok, hAttempts, if_false, hSaved, pure, Except.pure, completionOf,
                  hResult]
                exact .rewritten true hRow hStep hUpdate
          · rw [ensure, if_neg hDelay]
            exact .refused _

-- ---------------------------------------------------------------------------
-- The transactions that add jobs or leave them
-- ---------------------------------------------------------------------------

/-- A job without attempts fits when nothing is known of it. -/
theorem jobInvariant_of_new {j : ReportProcessingJob} (hStarted : j.startedAt = none)
    (hToken : j.leaseToken = none) (hCount : 0 ≤ j.attemptCount) (hStatus : j.status = .queued) :
    JobInvariant none 0 [] j where
  available a _ t ht := by cases hStarted.symm.trans ht
  held t ht := by cases hToken.symm.trans ht
  counted := hCount
  unfinished _ := rfl
  output h := by cases hStatus.symm.trans h

/-- A new job keeps the invariant. -/
theorem insert_invariant (hInv : s.ProcessingInvariant) {scope : Uuid} {upload : ReportUpload}
    {draws : JobDraws} {jobs : Table ReportProcessingJob}
    (hInsert : s.db.jobs.insert? (ProcessingDatabase.newJob scope upload draws) = some jobs) :
    ProcessingInvariant { s with db := { s.db with jobs } } := by
  have hMem := fun j => Table.mem_insert? (x := j) hInsert
  have hFresh : ∀ j ∈ s.db.jobs, j.id ≠ draws.id := fun j hj =>
    (Table.apart_of_insert? hInsert hj).1
  refine ⟨fun l hl => ?_, fun j hj => ?_, fun w hw => ?_, fun c hc => ?_, hInv.keyed, hInv.distinct⟩
  · obtain ⟨hChecks, j, hj, h⟩ := hInv.loaded l hl
    exact ⟨hChecks, j, (hMem j).mpr (.inr hj), h⟩
  · rcases (hMem j).mp hj with rfl | hj
    · -- nobody knows its identifier yet
      have hLatest : s.latestWorker draws.id = none := by
        refine List.find?_eq_none.mpr fun w hw hSame => ?_
        obtain ⟨j, hj, hId⟩ := hInv.known w hw
        exact hFresh j hj (hId.trans (beq_iff_eq.mp hSame))
      have hClaims : s.claims draws.id = 0 :=
        List.countP_eq_zero.mpr (List.find?_eq_none.mp hLatest)
      have hCompletions : s.completionsOf draws.id = [] := by
        refine List.filter_eq_nil_iff.mpr fun c hc hSame => ?_
        obtain ⟨j, hj, hId⟩ := hInv.completionsKnown c hc
        exact hFresh j hj (hId.trans (beq_iff_eq.mp hSame))
      show JobInvariant (s.latestWorker draws.id) (s.claims draws.id) (s.completionsOf draws.id) _
      rw [hLatest, hClaims, hCompletions]
      exact jobInvariant_of_new rfl rfl (le_refl _) rfl
    · exact hInv.job j hj
  · obtain ⟨j, hj, hId⟩ := hInv.known w hw
    exact ⟨j, (hMem j).mpr (.inr hj), hId⟩
  · obtain ⟨j, hj, hId⟩ := hInv.completionsKnown c hc
    exact ⟨j, (hMem j).mpr (.inr hj), hId⟩

/-- A session that loads committed jobs keeps the invariant. -/
theorem load_invariant (hInv : s.ProcessingInvariant) {jobs : List ReportProcessingJob}
    (hJobs : ∀ j ∈ jobs, j ∈ s.db.jobs) :
    ProcessingInvariant { s with loads := s.loads ++ jobs } where
  loaded l hl := by
    rcases List.mem_append.mp hl with hOld | hNew
    · exact hInv.loaded l hOld
    · exact ⟨Table.checks_of_mem (hJobs l hNew), l, hJobs l hNew, rfl, rfl, id⟩
  job := hInv.job
  known := hInv.known
  completionsKnown := hInv.completionsKnown
  keyed := hInv.keyed
  distinct := hInv.distinct

/-- The jobs that the uploads get, one after the other. -/
theorem ensureJobs_invariant {scope : Uuid} {known : Table ReportProcessingJob}
    {uploads : List (ReportUpload × JobDraws)} {db' : ProcessingDatabase}
    {jobs : List ReportProcessingJob} (hInv : s.ProcessingInvariant)
    (hKnown : ∀ j ∈ known, j ∈ s.db.jobs)
    (h : ProcessingDatabase.ensureJobs scope known s.db uploads = .ok (db', jobs)) :
    ProcessingInvariant { s with db := db' } ∧ (∀ j ∈ s.db.jobs, j ∈ db'.jobs) ∧
      ∀ j ∈ jobs, j ∈ db'.jobs := by
  induction uploads generalizing s db' jobs with
  | nil =>
    obtain ⟨rfl, rfl⟩ := Prod.mk.inj (Except.ok.inj h)
    exact ⟨hInv, fun j hj => hj, fun j hj => absurd hj List.not_mem_nil⟩
  | cons head rest ih =>
    obtain ⟨upload, draws⟩ := head
    simp only [ProcessingDatabase.ensureJobs, bind_eq_ok] at h
    obtain ⟨⟨db₁, job⟩, hFirst, ⟨db₂, jobs'⟩, hRest, hOk⟩ := h
    simp only [pure, Except.pure, Except.ok.injEq, Prod.mk.injEq] at hOk
    obtain ⟨rfl, rfl⟩ := hOk
    -- the first upload
    have hStep : ProcessingInvariant { s with db := db₁ } ∧ (∀ j ∈ s.db.jobs, j ∈ db₁.jobs) ∧
        job ∈ db₁.jobs := by
      unfold ProcessingDatabase.ensureJob at hFirst
      split at hFirst
      · next existing hFound =>
        simp only [bind_eq_ok, ensure_eq_ok, pure, Except.pure, Except.ok.injEq,
          Prod.mk.injEq] at hFirst
        obtain ⟨-, -, hDb, hJob⟩ := hFirst
        rw [← hDb, ← hJob]
        exact ⟨hInv, fun j hj => hj, hKnown existing (Table.mem_of_find? hFound)⟩
      · simp only [bind_eq_ok, required_eq_ok, pure, Except.pure, Except.ok.injEq,
          Prod.mk.injEq] at hFirst
        obtain ⟨table, hInsert, hDb, hJob⟩ := hFirst
        rw [← hDb, ← hJob]
        exact ⟨insert_invariant hInv hInsert,
          fun j hj => (Table.mem_insert? hInsert).mpr (.inr hj),
          (Table.mem_insert? hInsert).mpr (.inl rfl)⟩
    obtain ⟨hInv₁, hKept, hJob⟩ := hStep
    obtain ⟨hInv₂, hKept₂, hJobs⟩ := ih (s := { s with db := db₁ }) hInv₁
      (fun j hj => hKept j (hKnown j hj)) hRest
    refine ⟨hInv₂, fun j hj => hKept₂ j (hKept j hj), fun j hj => ?_⟩
    rcases List.mem_cons.mp hj with rfl | hj
    · exact hKept₂ _ hJob
    · exact hJobs j hj

/-- A worker that processes its report keeps the invariant. -/
theorem process_invariant (hInv : s.ProcessingInvariant) (token : Uuid)
    (outcome : ProcessorOutcome) :
    ProcessingInvariant { s with workers := s.workers.map (Worker.learn token outcome) } := by
  have hLearn := Worker.learn_cases token outcome
  have hClaim : ∀ jobId, (fun w : Worker => w.claim.jobId == jobId) ∘ Worker.learn token outcome =
      fun w => w.claim.jobId == jobId := by
    intro jobId
    funext w
    simp only [Function.comp_apply, (hLearn w).1]
  -- What a worker learns changes neither whose worker it is nor how many there are.
  have hLatest : ∀ jobId, (s.workers.map (Worker.learn token outcome)).find?
      (·.claim.jobId == jobId) = (s.latestWorker jobId).map (Worker.learn token outcome) := by
    intro jobId
    rw [List.find?_map, hClaim]
    rfl
  have hClaims : ∀ jobId, (s.workers.map (Worker.learn token outcome)).countP
      (·.claim.jobId == jobId) = s.claims jobId := by
    intro jobId
    rw [List.countP_map, hClaim]
    rfl
  refine ⟨hInv.loaded, fun j hj => ?_, fun w hw => ?_, hInv.completionsKnown, fun w hw o ho => ?_, ?_⟩
  · obtain ⟨hAvailable, hHeld, hCounted, hUnfinished, hOutput⟩ := hInv.job j hj
    show JobInvariant (List.find? (fun w : Worker => w.claim.jobId == j.id) _)
      (List.countP (fun w : Worker => w.claim.jobId == j.id) _) (s.completionsOf j.id) j
    rw [hLatest, hClaims]
    refine ⟨hAvailable, fun t ht => ?_, hCounted, hUnfinished, fun hStatus => ?_⟩
    · obtain ⟨w, hw, hToken, hStarted⟩ := hHeld t ht
      obtain ⟨hSame, hAt, -⟩ := hLearn w
      exact ⟨_, by rw [hw]; rfl, hSame ▸ hToken, hAt ▸ hStarted⟩
    · obtain ⟨w, o, hw, hResult, hHas, hDone⟩ := hOutput hStatus
      obtain ⟨hSame, -, hKept | ⟨hNone, -⟩⟩ := hLearn w
      · exact ⟨_, o, by rw [hw]; rfl, hKept.trans hResult, hHas, by rw [hSame]; exact hDone⟩
      · cases hNone.symm.trans hResult
  · obtain ⟨w', hw', rfl⟩ := List.mem_map.mp hw
    rw [(hLearn w').1]
    exact hInv.known w' hw'
  · obtain ⟨w', hw', rfl⟩ := List.mem_map.mp hw
    obtain ⟨hSame, -, hKept | ⟨-, hNew⟩⟩ := hLearn w'
    · rw [hSame]
      exact hInv.keyed w' hw' o (hKept.symm.trans ho)
    · rw [hSame]
      cases outcome with
      | stored storagePrefix artifacts =>
        obtain rfl : artifacts.output storagePrefix w'.claim = o := by
          simpa [ProcessorOutcome.result] using hNew.symm.trans ho
        exact ⟨storagePrefix, rfl, rfl⟩
      | terminal errorCode => simpa [ProcessorOutcome.result] using hNew.symm.trans ho
      | retryable errorCode retryDelay =>
        simpa [ProcessorOutcome.result] using hNew.symm.trans ho
  · rw [List.pairwise_map]
    refine hInv.distinct.imp fun {a b} hab => ?_
    rw [(hLearn a).1, (hLearn b).1]
    exact hab

-- ---------------------------------------------------------------------------
-- Runs
-- ---------------------------------------------------------------------------

/-- An integrity error of new jobs is answered as a conflict. -/
theorem ensureJobs_eq_error {scope : Uuid} {known : Table ReportProcessingJob}
    {db : ProcessingDatabase} {uploads : List (ReportUpload × JobDraws)} {e : ProcessingError}
    (h : ProcessingDatabase.ensureJobs scope known db uploads = .error e) : e = .conflict := by
  induction uploads generalizing db with
  | nil => cases h
  | cons head rest ih =>
    obtain ⟨upload, draws⟩ := head
    simp only [ProcessingDatabase.ensureJobs, bind_eq_error, pure, Except.pure, reduceCtorEq,
      and_false, exists_false, or_false] at h
    rcases h with hFirst | ⟨p, -, hRest⟩
    · -- The first job conflicts, stored before or inserted now; or one of the rest does.
      unfold ProcessingDatabase.ensureJob at hFirst
      split at hFirst
      · simp only [bind_eq_error, ensure_eq_error, pure, Except.pure, reduceCtorEq, and_false,
          exists_false, or_false] at hFirst
        exact hFirst.2.symm
      · simp only [bind_eq_error, required_eq_error, pure, Except.pure, reduceCtorEq, and_false,
          exists_false, or_false] at hFirst
        exact hFirst.2.symm
    · exact ih hRest

/-- Ensuring jobs fails only with a conflict. -/
theorem ensureJobsForUploads_eq_error {scope : Uuid} {db : ProcessingDatabase}
    {uploads : List (ReportUpload × JobDraws)} {e : ProcessingError}
    (h : db.ensureJobsForUploads scope uploads = .error e) : e = .conflict := by
  simp only [ProcessingDatabase.ensureJobsForUploads, bind_eq_error, ensure_eq_error] at h
  rcases h with ⟨-, rfl⟩ | ⟨_, -, ⟨-, rfl⟩ | ⟨_, -, hJobs⟩⟩
  · rfl
  · rfl
  · exact ensureJobs_eq_error hJobs

/-- The transactions that may rewrite a job; the others add jobs or leave them. -/
theorem perform_cases (hInv : s.ProcessingInvariant) (a : ProcessingAction)
    (hOrder : s.inOrder a = true) :
    s.Rewrites (s.perform a) ∨ s.perform a = .error .conflict ∨
      ∃ s', s.perform a = .ok (s', false) ∧ s'.ProcessingInvariant ∧
        ∀ j ∈ s.db.jobs, j ∈ s'.db.jobs := by
  -- Three transactions rewrite one job; the others add jobs or leave them.
  cases a with
  | dispatch n dispatchTime recordedAt => exact .inl (dispatch_rewrites hInv hOrder)
  | claim jobId claimedAt leaseDuration token => exact .inl (claim_rewrites hInv hOrder)
  | finish token now => exact .inl (finish_rewrites hInv hOrder)
  | changeUploads uploads =>
    exact .inr (.inr ⟨_, rfl, ⟨hInv.loaded, hInv.job, hInv.known, hInv.completionsKnown, hInv.keyed,
      hInv.distinct⟩, fun j hj => hj⟩)
  | load jobId =>
    refine .inr (.inr ⟨_, rfl, load_invariant hInv fun j hj => ?_, fun j hj => hj⟩)
    exact (Table.get?_eq_some.mp (Option.mem_toList.mp hj)).1
  | process token outcome =>
    exact .inr (.inr ⟨_, rfl, process_invariant hInv token outcome, fun j hj => hj⟩)
  | ensureJobs scope uploads =>
    right
    simp only [perform]
    cases hEnsure : s.db.ensureJobsForUploads scope uploads with
    | error e => exact .inl (congrArg Except.error (ensureJobsForUploads_eq_error hEnsure))
    | ok p =>
      obtain ⟨db, jobs⟩ := p
      simp only [ProcessingDatabase.ensureJobsForUploads, bind_eq_ok, ensure_eq_ok] at hEnsure
      obtain ⟨-, -, -, -, hEnsure⟩ := hEnsure
      obtain ⟨hNext, hKept, hJobs⟩ := ensureJobs_invariant hInv (fun j hj => hj) hEnsure
      exact .inr ⟨_, rfl, load_invariant hNext hJobs, hKept⟩

/-- **Step lemma.** -/
theorem step_invariant (s : ProcessingState) (a : ProcessingAction) (hInv : s.ProcessingInvariant) :
    (s.step a).ProcessingInvariant := by
  unfold step
  split
  · next hOrder =>
    -- A step out of order is refused, one in order falls under the cases above.
    have hCases := perform_cases hInv a hOrder
    generalize s.perform a = result at hCases ⊢
    rcases hCases with hRewrites | hConflict | ⟨s', hQuiet, hNext, -⟩
    · cases hRewrites with
      | refused message => exact hInv
      | unchanged changed => exact hInv
      | rewritten changed hRow hStep hUpdate => exact rewrite_invariant hInv hRow hStep hUpdate
    · rw [hConflict]
      exact hInv
    · rw [hQuiet]
      exact hNext
  · exact hInv

/-- Queued jobs that nobody has tried meet the invariant. -/
theorem init_invariant (uploads : Table ReportUpload) {jobs : Table ReportProcessingJob}
    (hNew : ∀ j ∈ jobs, j.status = .queued ∧ j.attemptCount = 0) :
    (init uploads jobs).ProcessingInvariant where
  loaded l hl := absurd hl List.not_mem_nil
  job j hj := by
    obtain ⟨hStatus, hCount⟩ := hNew j hj
    obtain ⟨hAttempts, -, hFields, -⟩ := ReportProcessingJob.checks_iff.mp (Table.checks_of_mem hj)
    simp only [ReportProcessingJob.statusFieldsCheck, hStatus, Bool.and_eq_true,
      Option.isNone_iff_eq_none] at hFields
    -- No attempt, so nothing was started.
    rcases (ReportProcessingJob.attemptsCheck_iff.mp hAttempts).2 with
      ⟨-, hStarted, -⟩ | ⟨hPositive, -⟩
    · exact jobInvariant_of_new hStarted hFields.1.1.2 hCount.ge hStatus
    · omega
  known w hw := absurd hw List.not_mem_nil
  completionsKnown c hc := absurd hc List.not_mem_nil
  keyed w hw := absurd hw List.not_mem_nil
  distinct := List.Pairwise.nil

/-- The jobs that are completed or failed keep what they ended with. -/
def Settled (s t : ProcessingState) : Prop :=
  ∀ j ∈ s.db.jobs, j.status.isTerminal = true →
    ∃ j' ∈ t.db.jobs, j'.id = j.id ∧ j'.finalColumns = j.finalColumns

theorem Settled.refl (s : ProcessingState) : s.Settled s := fun j hj _ => ⟨j, hj, rfl, rfl⟩

/-- Settling composes. -/
theorem Settled.trans {s t u : ProcessingState} (h : s.Settled t) (h' : t.Settled u) :
    s.Settled u := by
  intro j hj hTerminal
  obtain ⟨j', hj', hId, hFinal⟩ := h j hj hTerminal
  have hStatus : j'.status = j.status := congrArg (fun c => c.1.1) hFinal
  obtain ⟨j'', hj'', hId', hFinal'⟩ := h' j' hj' (hStatus ▸ hTerminal)
  exact ⟨j'', hj'', hId'.trans hId, hFinal'.trans hFinal⟩

/-- **Step lemma** of finality. -/
theorem step_settled (s : ProcessingState) (a : ProcessingAction) (hInv : s.ProcessingInvariant) :
    s.Settled (s.step a) := by
  unfold step
  split
  · next hOrder =>
    have hCases := perform_cases hInv a hOrder
    generalize s.perform a = result at hCases ⊢
    rcases hCases with hRewrites | hConflict | ⟨s', hQuiet, -, hKept⟩
    · cases hRewrites with
      | refused message => exact .refl s
      | unchanged changed => exact .refl s
      | @rewritten row row' workers completions jobs changed hRow hStep hUpdate =>
        intro j hj hTerminal
        have hId := hStep.frame.1
        -- A terminal row is not rewritten to another status.
        by_cases hSame : j.id = row.id
        · have hEq : j = row := Table.eq_of_key_eq hj hRow hSame
          exact ⟨row', Table.mem_update?_self hUpdate hRow hId.symm, hId.trans hSame.symm,
            hEq ▸ hStep.final (hEq ▸ hTerminal)⟩
        · exact ⟨j, (Table.mem_update?_iff hUpdate hRow hId).mpr (.inr ⟨hj, hSame⟩), rfl, rfl⟩
    · rw [hConflict]
      exact .refl s
    · rw [hQuiet]
      exact fun j hj _ => ⟨j, hKept j hj, rfl, rfl⟩
  · exact .refl s

/-- **Processing job state machine.** On every run, from uploads and new jobs: every row
passes the CHECK constraints, no transaction raises an integrity error and the job made for
a verified upload passes the constraints too; no job is claimed more than `max_attempts`
times; and a job that is completed or failed keeps status, outputs, error code and finish
time for the rest of the run. -/
theorem job_state_machine (uploads : Table ReportUpload) (jobs : Table ReportProcessingJob)
    (hNew : ∀ j ∈ jobs, j.status = .queued ∧ j.attemptCount = 0)
    (before after : List ProcessingAction) :
    let s := Machine.run step (init uploads jobs) before
    (∀ j ∈ s.db.jobs, j.checks = true) ∧
    (∀ a, s.inOrder a = true → s.perform a ≠ .error .integrity) ∧
    (∀ scope new, s.inOrder (.ensureJobs scope new) = true → ∀ u ∈ new,
      ProcessingDatabase.hasSource u.1 = true →
        (ProcessingDatabase.newJob scope u.1 u.2).checks = true) ∧
    (∀ j ∈ s.db.jobs, s.claims j.id ≤ j.maxAttempts) ∧
    s.Settled (Machine.run step s after) := by
  intro s
  have hInv : s.ProcessingInvariant :=
    Machine.run_invariant step_invariant (init_invariant uploads hNew) before
  refine ⟨fun j hj => Table.checks_of_mem hj, fun a hOrder => ?_, fun scope new hOrder u hu hSource =>
    ?_, fun j hj => ?_, ?_⟩
  · -- An integrity error is none of the outcomes.
    rcases perform_cases hInv a hOrder with hRewrites | hConflict | ⟨s', hQuiet, -⟩
    · intro hIntegrity
      rw [hIntegrity] at hRewrites
      cases hRewrites
    · rw [hConflict]
      exact nofun
    · rw [hQuiet]
      exact nofun
  · have hTimes := List.all_eq_true.mp hOrder u hu
    exact ProcessingDatabase.newJob_checks hSource (of_decide_eq_true hTimes)
  · have hAttempts := (ReportProcessingJob.checks_iff.mp (Table.checks_of_mem hj)).1
    exact (hInv.job j hj).counted.trans
      (ReportProcessingJob.attemptsCheck_iff.mp hAttempts).1.2.2.2
  · exact Machine.run_related Settled.refl (fun _ _ _ => Settled.trans) step_invariant
      step_settled hInv after

end ProcessingState

-- ---------------------------------------------------------------------------
-- One job and two workers
-- ---------------------------------------------------------------------------

namespace ProcessingSample

def upload : ReportUpload where
  id := 1
  businessId := 1
  status := .uploaded
  storageBucket := str "reports"
  storageKey := str "reports/1"
  storageVersionId := some (str "v1")
  etag := some (str "e1")
  originalFilename := str "sales.csv"
  fileExtension := str ".csv"
  contentType := str "text/csv"
  actualSizeBytes := some 10

def uploads : Table ReportUpload := .single upload (by decide)

/-- The job of the upload, created and available at the start of the clock. -/
def jobs : Table ReportProcessingJob :=
  .single (ProcessingDatabase.newJob 1 upload ⟨2, 0, 0⟩) (by decide)

theorem jobs_new : ∀ j ∈ jobs, j.status = .queued ∧ j.attemptCount = 0 := by decide

def artifacts (version : Str) : StoredArtifacts where
  normalizedVersionId := version
  normalizedEtag := str "n"
  normalizedSizeBytes := 20
  profileVersionId := version
  profileEtag := str "p"
  recordCount := 3
  sheetCount := 1

/-- The second worker takes the job over when the lease of the first one has expired; both
process the report, and the second one hands its result in first. -/
def takeover : List ProcessingAction :=
  [.claim 2 (minutes 1) reportProcessingLeaseDuration 7,
    .claim 2 (minutes 17) reportProcessingLeaseDuration 8,
    .process 7 (.stored (str "reports") (artifacts (str "first"))),
    .process 8 (.stored (str "reports") (artifacts (str "second"))), .finish 8 (minutes 18)]

end ProcessingSample

namespace ProcessingState

open ProcessingSample

/-- The job that was taken over, before and after the first worker's call. -/
theorem job_state_machine_takeover :
    let s := Machine.run step (init uploads jobs) takeover
    (∀ j ∈ s.db.jobs, s.claims j.id ≤ j.maxAttempts) ∧
      s.Settled (Machine.run step s [.finish 7 (minutes 19)]) :=
  (job_state_machine uploads jobs jobs_new takeover [.finish 7 (minutes 19)]).2.2.2

end ProcessingState

end SpikeBackend
