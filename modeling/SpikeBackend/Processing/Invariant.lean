import SpikeBackend.Processing.Transitions

/-!
# What holds of the jobs and their workers

`RowStep` lists the ways in which a transaction rewrites a job, with everything that was
checked before; `ProcessingInvariant` is what all of them keep.

* `RowStep.checks` — the new row passes the CHECK constraints;
* `RowStep.jobInvariant` — it fits the workers and completions of its job again;
* `rewrite_invariant` — and so the whole state does.
-/

namespace SpikeBackend

open Relational Text Outcome Session

-- ---------------------------------------------------------------------------
-- The invariant
-- ---------------------------------------------------------------------------

/-- The output columns hold the output. -/
def ReportProcessingJob.HasOutput (j : ReportProcessingJob) (o : ReportProcessingOutput) : Prop :=
  j.resultStorageBucket = some o.storageBucket ∧
    j.normalizedStorageKey = some o.normalizedStorageKey ∧
    j.normalizedStorageVersionId = some o.normalizedStorageVersionId ∧
    j.normalizedEtag = some o.normalizedEtag ∧
    j.normalizedSizeBytes = some o.normalizedSizeBytes ∧
    j.profileStorageKey = some o.profileStorageKey ∧
    j.profileStorageVersionId = some o.profileStorageVersionId ∧
    j.profileEtag = some o.profileEtag ∧
    j.recordCount = some o.recordCount ∧ j.sheetCount = some o.sheetCount

/-- The columns that never change once a job is completed or failed. -/
def ReportProcessingJob.finalColumns (j : ReportProcessingJob) :=
  ((j.status, j.errorCode, j.finishedAt),
    (j.resultStorageBucket, j.normalizedStorageKey, j.normalizedStorageVersionId,
      j.normalizedEtag, j.normalizedSizeBytes),
    (j.profileStorageKey, j.profileStorageVersionId, j.profileEtag, j.recordCount, j.sheetCount))

/-- The output was written under the artifact keys of its claim. -/
def ReportProcessingOutput.KeyedBy (o : ReportProcessingOutput) (claim : ReportProcessingClaim) :
    Prop :=
  ∃ storagePrefix, o.normalizedStorageKey = normalizedKey storagePrefix claim ∧
    o.profileStorageKey = profileKey storagePrefix claim

/-- A job fits its most recent claim, the number of its claims and its completions. -/
structure JobInvariant (latest : Option Worker) (claims : Nat) (completions : List Completion)
    (j : ReportProcessingJob) : Prop where
  available : ∀ a, j.availableAt = some a → j.StartedBy a
  held : ∀ t, j.leaseToken = some t →
    ∃ w, latest = some w ∧ w.claim.leaseToken = t ∧ j.StartedBy w.claimedAt
  counted : (claims : Int) ≤ j.attemptCount
  unfinished : j.status ≠ .completed → completions = []
  output : j.status = .completed → ∃ w o, latest = some w ∧ w.result = some (.output o) ∧
    j.HasOutput o ∧ completions = [⟨j.id, w.claim.leaseToken, o⟩]

namespace ProcessingState

/-- The completions of a job. -/
def completionsOf (s : ProcessingState) (jobId : Uuid) : List Completion :=
  s.completions.filter (·.jobId == jobId)

/-- **The invariant of a run.** -/
structure ProcessingInvariant (s : ProcessingState) : Prop where
  /-- what a session has loaded is an earlier version of a job -/
  loaded : ∀ l ∈ s.loads, l.checks = true ∧ ∃ j ∈ s.db.jobs, j.id = l.id ∧
    j.createdAt = l.createdAt ∧ (l.lastDispatchedAt.isSome = true → j.lastDispatchedAt.isSome = true)
  job : ∀ j ∈ s.db.jobs,
    JobInvariant (s.latestWorker j.id) (s.claims j.id) (s.completionsOf j.id) j
  known : ∀ w ∈ s.workers, ∃ j ∈ s.db.jobs, j.id = w.claim.jobId
  completionsKnown : ∀ c ∈ s.completions, ∃ j ∈ s.db.jobs, j.id = c.jobId
  keyed : ∀ w ∈ s.workers, ∀ o, w.result = some (.output o) → o.KeyedBy w.claim
  /-- no two claims got one token -/
  distinct : s.workers.Pairwise fun w w' => w.claim.leaseToken ≠ w'.claim.leaseToken

variable {s : ProcessingState} {row row' : ReportProcessingJob} {workers : List Worker}
  {completions : List Completion}

/-- A worker is found by its token. -/
theorem worker_eq_some {token : Uuid} {w : Worker} (h : s.worker token = some w) :
    w ∈ s.workers ∧ w.claim.leaseToken = token :=
  ⟨List.mem_of_find?_eq_some h, by simpa using List.find?_some h⟩

/-- The latest worker of a job is a worker of that job. -/
theorem latestWorker_eq_some {jobId : Uuid} {w : Worker} (h : s.latestWorker jobId = some w) :
    w ∈ s.workers ∧ w.claim.jobId = jobId :=
  ⟨List.mem_of_find?_eq_some h, by simpa using List.find?_some h⟩

/-- Two claims with one token are one. -/
theorem ProcessingInvariant.eq_of_token (h : s.ProcessingInvariant) {w w' : Worker}
    (hw : w ∈ s.workers) (hw' : w' ∈ s.workers)
    (hToken : w.claim.leaseToken = w'.claim.leaseToken) : w = w' := by
  by_contra hne
  -- the list is pairwise distinct, and being distinct does not depend on the order of the two
  have : Std.Symm fun w w' : Worker => w.claim.leaseToken ≠ w'.claim.leaseToken :=
    ⟨fun _ _ => Ne.symm⟩
  exact h.distinct.forall hw hw' hne hToken

-- ---------------------------------------------------------------------------
-- Rewriting a job
-- ---------------------------------------------------------------------------

/-- How a transaction rewrites a job, and what it adds to the workers and completions. -/
inductive RowStep (s : ProcessingState) (row : ReportProcessingJob) :
    ReportProcessingJob → List Worker → List Completion → Prop
  | dispatched (loaded : ReportProcessingJob) (recordedAt : Datetime) (hLoaded : loaded ∈ s.loads)
      (hId : loaded.id = row.id) (hCreated : loaded.createdAt ≤ recordedAt) :
      RowStep s row (loaded.dispatched row recordedAt) s.workers s.completions
  | failed (errorCode : Str) (now : Datetime) (hOpen : row.status.isTerminal = false)
      (hCreated : row.createdAt ≤ now) (hStarted : row.StartedBy now) :
      RowStep s row (row.terminalFailure errorCode now) s.workers s.completions
  | claimed (claim : ReportProcessingClaim) (claimedAt : Datetime) (leaseDuration : Int)
      (hOpen : row.status.isTerminal = false) (hCreated : row.createdAt ≤ claimedAt)
      (hStarted : row.StartedBy claimedAt) (hLeft : row.attemptCount < row.maxAttempts)
      (hLease : 0 < leaseDuration) (hJob : claim.jobId = row.id)
      (hFresh : s.worker claim.leaseToken = none) :
      RowStep s row (row.claimed claim.leaseToken claimedAt leaseDuration)
        (⟨claim, claimedAt, none⟩ :: s.workers) s.completions
  | requeued (errorCode : Str) (availableAt : Datetime) (hStatus : row.status = .processing)
      (hCreated : row.createdAt ≤ availableAt) (hStarted : row.StartedBy availableAt) :
      RowStep s row (row.requeued errorCode availableAt) s.workers s.completions
  | completed (w : Worker) (output : ReportProcessingOutput) (now : Datetime)
      (hWorker : s.latestWorker row.id = some w) (hResult : w.result = some (.output output))
      (hValid : validateOutput output = .ok ()) (hStatus : row.status = .processing)
      (hStarted : row.StartedBy now) :
      RowStep s row (row.completed output now) s.workers
        (⟨row.id, w.claim.leaseToken, output⟩ :: s.completions)

theorem RowStep.frame (h : s.RowStep row row' workers completions) :
    row'.id = row.id ∧ row'.createdAt = row.createdAt ∧
      row'.reportUploadId = row.reportUploadId ∧ row'.maxAttempts = row.maxAttempts := by
  cases h <;> exact ⟨rfl, rfl, rfl, rfl⟩

theorem status_ne_completed {status : ReportProcessingStatus} (h : status.isTerminal = false) :
    status ≠ .completed := by
  rintro rfl
  cases h

/-- **CHECK constraints.** The new row passes them. -/
theorem RowStep.checks (h : s.RowStep row row' workers completions)
    (hInv : s.ProcessingInvariant) (hRow : row ∈ s.db.jobs) : row'.checks = true := by
  have hChecks : row.checks = true := Table.checks_of_mem hRow
  cases h with
  | dispatched loaded recordedAt hLoaded hId hCreated =>
    -- the instance that is written back was read from this row, before or after its last change
    obtain ⟨hLoadedChecks, j, hj, hJobId, hJobCreated, hEarlier⟩ := hInv.loaded loaded hLoaded
    have hSame : j = row := Table.eq_of_key_eq hj hRow (hJobId.trans hId)
    rw [hSame] at hJobCreated hEarlier
    exact ReportProcessingJob.dispatched_checks hChecks hLoadedChecks hEarlier
      (hJobCreated.symm ▸ hCreated)
  | failed errorCode now hOpen hCreated hStarted =>
    exact ReportProcessingJob.terminalFailure_checks hChecks errorCode hCreated hStarted
      (status_ne_completed hOpen)
  | claimed claim claimedAt leaseDuration hOpen hCreated hStarted hLeft hLease hJob hFresh =>
    exact ReportProcessingJob.claimed_checks hChecks _ hCreated hStarted
      (status_ne_completed hOpen) hLeft hLease
  | requeued errorCode availableAt hStatus hCreated hStarted =>
    exact ReportProcessingJob.requeued_checks hChecks errorCode hStatus hCreated
  | completed w output now hWorker hResult hValid hStatus hStarted =>
    exact ReportProcessingJob.completed_checks hChecks hValid hStatus hStarted

/-- **Finality.** A job that is completed or failed keeps what it ended with. -/
theorem RowStep.final (h : s.RowStep row row' workers completions)
    (hTerminal : row.status.isTerminal = true) : row'.finalColumns = row.finalColumns := by
  cases h with
  | dispatched => rfl
  | failed errorCode now hOpen => simp [hOpen] at hTerminal
  | claimed claim claimedAt leaseDuration hOpen => simp [hOpen] at hTerminal
  | requeued errorCode availableAt hStatus =>
    simp [hStatus, ReportProcessingStatus.isTerminal] at hTerminal
  | completed w output now hWorker hResult hValid hStatus =>
    simp [hStatus, ReportProcessingStatus.isTerminal] at hTerminal

/-- **Unique constraints.** Only a completion gives a job new artifacts. -/
theorem RowStep.keys (h : s.RowStep row row' workers completions) :
    (row'.normalizedStorageKey = row.normalizedStorageKey ∧
        row'.profileStorageKey = row.profileStorageKey) ∨
      ∃ w output, s.latestWorker row.id = some w ∧ w.result = some (.output output) ∧
        row'.normalizedStorageKey = some output.normalizedStorageKey ∧
        row'.profileStorageKey = some output.profileStorageKey := by
  cases h with
  | completed w output now hWorker hResult => exact .inr ⟨w, output, hWorker, hResult, rfl, rfl⟩
  | _ => exact .inl ⟨rfl, rfl⟩

/-- What the lists of the state say of a job. -/
def JobFits (workers : List Worker) (completions : List Completion) (j : ReportProcessingJob) :
    Prop :=
  JobInvariant (workers.find? (·.claim.jobId == j.id)) (workers.countP (·.claim.jobId == j.id))
    (completions.filter (·.jobId == j.id)) j

/-- The new row fits the new workers and completions. -/
theorem RowStep.jobInvariant (h : s.RowStep row row' workers completions)
    (hInv : s.ProcessingInvariant) (hRow : row ∈ s.db.jobs) : JobFits workers completions row' := by
  have hJob := hInv.job row hRow
  have hChecks : row.checks = true := Table.checks_of_mem hRow
  have hCount := (ReportProcessingJob.attemptsCheck_iff.mp
    (ReportProcessingJob.checks_iff.mp hChecks).1).1.2.2.1
  -- each transition says where the lease, the attempts and the completions of the row are
  -- afterwards
  cases h with
  | dispatched loaded recordedAt hLoaded hId hCreated =>
    exact ⟨hJob.available, hJob.held, hJob.counted, hJob.unfinished, hJob.output⟩
  | failed errorCode now hOpen hCreated hStarted =>
    refine ⟨fun a ha => (by cases ha), fun t ht => (by cases ht), hJob.counted.trans ?_,
      fun _ => hJob.unfinished (status_ne_completed hOpen), fun hStatus => (by cases hStatus)⟩
    dsimp only [ReportProcessingJob.terminalFailure]
    split <;> omega
  | claimed claim claimedAt leaseDuration hOpen hCreated hStarted hLeft hLease hJobId hFresh =>
    have hHere : (claim.jobId == row.id) = true := beq_iff_eq.mpr hJobId
    refine ⟨fun a ha => (by cases ha), fun t ht => ⟨⟨claim, claimedAt, none⟩, ?_, ?_, ?_⟩, ?_,
      fun _ => hJob.unfinished (status_ne_completed hOpen), fun hStatus => (by cases hStatus)⟩
    · -- the new worker stands first, so it is the latest of this job
      exact List.find?_cons_of_pos hHere
    · exact Option.some.inj ht
    · exact fun u hu => (hStarted.getD hCreated
        (ReportProcessingJob.checks_iff.mp hChecks).2.2.2.2.2.2 hu).2
    · -- one more worker and one more attempt
      have hCounted := hJob.counted
      have hNext : (⟨claim, claimedAt, none⟩ :: s.workers).countP
          (fun w => w.claim.jobId == row.id) = s.claims row.id + 1 :=
        List.countP_cons_of_pos hHere
      show ((List.countP (fun w : Worker => w.claim.jobId == row.id)
        (⟨claim, claimedAt, none⟩ :: s.workers) : Nat) : Int) ≤ row.attemptCount + 1
      rw [hNext]
      omega
  | requeued errorCode availableAt hStatus hCreated hStarted =>
    refine ⟨fun a ha => ?_, fun t ht => (by cases ht), hJob.counted,
      fun _ => hJob.unfinished (by rw [hStatus]; decide), fun hStatus => (by cases hStatus)⟩
    obtain rfl := Option.some.inj ha
    exact hStarted
  | completed w output now hWorker hResult hValid hStatus hStarted =>
    refine ⟨fun a ha => (by cases ha), fun t ht => (by cases ht), hJob.counted,
      fun hOpen => absurd rfl hOpen, fun _ => ⟨w, output, hWorker, hResult,
        ⟨rfl, rfl, rfl, rfl, rfl, rfl, rfl, rfl, rfl, rfl⟩, ?_⟩⟩
    -- a row that is processing has no completion yet, so this is its only one
    have hNone : s.completions.filter (·.jobId == row.id) = [] :=
      hJob.unfinished (by rw [hStatus]; decide)
    have hHere := List.filter_cons_of_pos (p := fun c : Completion => c.jobId == row.id)
      (a := ⟨row.id, w.claim.leaseToken, output⟩) (l := s.completions) (beq_self_eq_true row.id)
    exact hHere.trans (congrArg _ hNone)

/-- Another job does not notice. -/
theorem RowStep.others (h : s.RowStep row row' workers completions) {j : ReportProcessingJob}
    (hJob : JobFits s.workers s.completions j) (hne : j.id ≠ row.id) :
    JobFits workers completions j := by
  have hOther : (row.id == j.id) = false := beq_eq_false_iff_ne.mpr hne.symm
  -- only a claim and a completion add to the lists, and what they add is of the row's own job
  cases h with
  | claimed claim claimedAt leaseDuration hOpen hCreated hStarted hLeft hLease hJobId hFresh =>
    unfold JobFits
    rw [List.find?_cons_of_neg (by rw [hJobId, hOther]; decide),
      List.countP_cons_of_neg (by rw [hJobId, hOther]; decide)]
    exact hJob
  | completed w output now hWorker hResult hValid hStatus hStarted =>
    unfold JobFits
    rw [List.filter_cons_of_neg (by rw [hOther]; decide)]
    exact hJob
  | _ => exact hJob

/-- The lists grow by what belongs to the row. -/
theorem RowStep.lists (h : s.RowStep row row' workers completions) :
    (∀ w ∈ workers, w ∈ s.workers ∨ (w.claim.jobId = row.id ∧ w.result = none)) ∧
      (∀ c ∈ completions, c ∈ s.completions ∨ c.jobId = row.id) ∧
      ((s.workers.Pairwise fun w w' => w.claim.leaseToken ≠ w'.claim.leaseToken) →
        workers.Pairwise fun w w' => w.claim.leaseToken ≠ w'.claim.leaseToken) := by
  cases h with
  | claimed claim claimedAt leaseDuration hOpen hCreated hStarted hLeft hLease hJobId hFresh =>
    refine ⟨fun w hw => ?_, fun c hc => .inl hc, fun hDistinct =>
      List.pairwise_cons.mpr ⟨fun w hw hToken => ?_, hDistinct⟩⟩
    · rcases List.mem_cons.mp hw with rfl | hw
      · exact .inr ⟨hJobId, rfl⟩
      · exact .inl hw
    · -- the token of a claim is fresh
      exact List.find?_eq_none.mp hFresh w hw (beq_iff_eq.mpr hToken.symm)
  | completed w output now hWorker hResult hValid hStatus hStarted =>
    refine ⟨fun w hw => .inl hw, fun c hc => ?_, id⟩
    rcases List.mem_cons.mp hc with rfl | hc
    · exact .inr rfl
    · exact .inl hc
  | _ => exact ⟨fun w hw => .inl hw, fun c hc => .inl hc, id⟩

/-- A dispatch is not taken back. -/
theorem RowStep.stays_dispatched (h : s.RowStep row row' workers completions)
    (hDispatched : row.lastDispatchedAt.isSome = true) : row'.lastDispatchedAt.isSome = true := by
  cases h with
  | dispatched loaded recordedAt =>
    rcases column_cases loaded.lastDispatchedAt (some recordedAt) row.lastDispatchedAt with
      hNew | ⟨-, hOld⟩
    · exact congrArg Option.isSome hNew
    · exact (congrArg Option.isSome hOld).trans hDispatched
  | _ => exact hDispatched

/-- **Step lemma.** A rewritten job keeps the invariant. -/
theorem rewrite_invariant (hInv : s.ProcessingInvariant) (hRow : row ∈ s.db.jobs)
    (h : s.RowStep row row' workers completions) {jobs : Table ReportProcessingJob}
    (hUpdate : s.db.jobs.update? row' = some jobs) :
    ProcessingInvariant { s with db := { s.db with jobs }, workers, completions } := by
  obtain ⟨hId, hCreated, -, -⟩ := h.frame
  have hMem := fun j => Table.mem_update?_iff (x := j) hUpdate hRow hId
  -- every job is still there under its identifier
  have hKept : ∀ j ∈ s.db.jobs, ∃ j' ∈ jobs, j'.id = j.id ∧ j'.createdAt = j.createdAt ∧
      (j.lastDispatchedAt.isSome = true → j'.lastDispatchedAt.isSome = true) := by
    intro j hj
    by_cases hSame : j.id = row.id
    · have hEq : j = row := Table.eq_of_key_eq hj hRow hSame
      exact ⟨row', (hMem row').mpr (.inl rfl), hId.trans hSame.symm, hEq ▸ hCreated,
        hEq ▸ h.stays_dispatched⟩
    · exact ⟨j, (hMem j).mpr (.inr ⟨hj, hSame⟩), rfl, rfl, id⟩
  obtain ⟨hWorkers, hCompletions, hDistinct⟩ := h.lists
  refine ⟨fun l hl => ?_, fun j hj => ?_, fun w hw => ?_, fun c hc => ?_, fun w hw o ho => ?_,
    hDistinct hInv.distinct⟩
  · obtain ⟨hChecks, j, hj, hSame, hSameCreated, hEarlier⟩ := hInv.loaded l hl
    obtain ⟨j', hj', hSame', hSameCreated', hEarlier'⟩ := hKept j hj
    exact ⟨hChecks, j', hj', hSame'.trans hSame, hSameCreated'.trans hSameCreated,
      fun hl => hEarlier' (hEarlier hl)⟩
  · rcases (hMem j).mp hj with rfl | ⟨hj, hne⟩
    · exact h.jobInvariant hInv hRow
    · exact h.others (hInv.job j hj) hne
  · rcases hWorkers w hw with hw | ⟨hHere, -⟩
    · obtain ⟨j, hj, hSame⟩ := hInv.known w hw
      obtain ⟨j', hj', hSame', -⟩ := hKept j hj
      exact ⟨j', hj', hSame'.trans hSame⟩
    · exact ⟨row', (hMem row').mpr (.inl rfl), hId.trans hHere.symm⟩
  · rcases hCompletions c hc with hc | hHere
    · obtain ⟨j, hj, hSame⟩ := hInv.completionsKnown c hc
      obtain ⟨j', hj', hSame', -⟩ := hKept j hj
      exact ⟨j', hj', hSame'.trans hSame⟩
    · exact ⟨row', (hMem row').mpr (.inl rfl), hId.trans hHere.symm⟩
  · rcases hWorkers w hw with hw | ⟨-, hNone⟩
    · exact hInv.keyed w hw o ho
    · cases hNone.symm.trans ho

end ProcessingState

end SpikeBackend
