import SpikeBackend.Processing.StateMachine

/-!
# Lease fencing

Only the worker that made the most recent claim of a job changes it.

* `not_locked_of_stale` — no other token finds the job locked;
* `stale_worker_fenced` — so every other call returns false and changes nothing, a job is
  completed at most once, and its artifacts are those of the worker that claimed it last.
-/

namespace SpikeBackend

open Relational Text Outcome

namespace ProcessingState

variable {s : ProcessingState}

/-- The token was not drawn by the most recent claim of the job. -/
def IsStale (s : ProcessingState) (jobId token : Uuid) : Prop :=
  ∀ w, s.latestWorker jobId = some w → w.claim.leaseToken ≠ token

/-- A stale worker finds no row under its token: the row holds that of the latest worker, or none.
-/
theorem ProcessingInvariant.not_locked_of_stale (hInv : s.ProcessingInvariant)
    {jobId token : Uuid} (hStale : s.IsStale jobId token) :
    s.db.lockedProcessingJob jobId token = none := by
  cases hLocked : s.db.lockedProcessingJob jobId token with
  | none => rfl
  | some job =>
    obtain ⟨hRow, hId, -, hToken⟩ := lockedProcessingJob_eq_some.mp hLocked
    obtain ⟨w, hLatest, hSame, -⟩ := (hInv.job job hRow).held token hToken
    exact absurd hSame (hStale w (hId ▸ hLatest))

/-- The three calls of a worker with a stale token. -/
theorem ProcessingInvariant.stale_calls (hInv : s.ProcessingInvariant) {jobId token : Uuid}
    (hStale : s.IsStale jobId token) (now : Datetime) :
    (∀ output, validateOutput output = .ok () →
      s.db.completeJob jobId token output now = .ok (s.db, false)) ∧
    (∀ errorCode, validateProcessingErrorCode errorCode = .ok () →
      s.db.failJob jobId token errorCode now = .ok (s.db, false)) ∧
    ∀ errorCode retryDelay, validateProcessingErrorCode errorCode = .ok () → 0 ≤ retryDelay →
      s.db.retryJob jobId token errorCode retryDelay now = .ok (s.db, false) := by
  have hNone := hInv.not_locked_of_stale hStale
  -- no row is found, so each of the three calls answers `False` and writes nothing
  refine ⟨fun output hValid => ?_, fun errorCode hValid => ?_,
    fun errorCode retryDelay hValid hDelay => ?_⟩
  · simp only [ProcessingDatabase.completeJob, hValid, hNone]
    rfl
  · simp only [ProcessingDatabase.failJob, hValid, hNone]
    rfl
  · simp only [ProcessingDatabase.retryJob, hValid, hNone, ensure, if_pos hDelay]
    rfl

/-- A worker that was overtaken leaves everything as it is. -/
theorem ProcessingInvariant.stale_finish (hInv : s.ProcessingInvariant) {w : Worker}
    {token : Uuid} (hw : s.worker token = some w) (hStale : s.IsStale w.claim.jobId token)
    (now : Datetime) : s.step (.finish token now) = s := by
  have hToken : w.claim.leaseToken = token := (worker_eq_some hw).2
  have hNone : s.db.lockedProcessingJob w.claim.jobId w.claim.leaseToken = none :=
    hToken.symm ▸ hInv.not_locked_of_stale hStale
  unfold step
  split
  · -- a result that the service refuses raises, and the other ones are answered with `False`
    simp only [perform, hw, finishJob]
    cases hResult : w.result with
    | none => simp only [bind_ok, completionOf, hResult]; rfl
    | some result =>
      cases result with
      | output output =>
        simp only [ProcessingDatabase.completeJob, hNone]
        cases validateOutput output with
        | error e => rfl
        | ok u => rfl
      | terminal errorCode =>
        simp only [ProcessingDatabase.failJob, hNone]
        cases validateProcessingErrorCode errorCode with
        | error e => rfl
        | ok u => rfl
      | retryable errorCode retryDelay =>
        simp only [ProcessingDatabase.retryJob, hNone]
        cases validateProcessingErrorCode errorCode with
        | error e => rfl
        | ok u =>
          unfold ensure
          split <;> rfl
  · rfl

/-- A job has one completion when it is completed, and none before. -/
theorem ProcessingInvariant.completed_once (hInv : s.ProcessingInvariant) (jobId : Uuid) :
    (s.completionsOf jobId).length ≤ 1 := by
  -- only jobs that exist are completed
  cases hFound : s.db.jobs.get? jobId with
  | none =>
    have hNone : s.completionsOf jobId = [] := by
      refine List.filter_eq_nil_iff.mpr fun c hc hSame => ?_
      obtain ⟨j, hj, hId⟩ := hInv.completionsKnown c hc
      exact Table.get?_eq_none.mp hFound j hj (hId.trans (beq_iff_eq.mp hSame))
    simp [hNone]
  | some j =>
    obtain ⟨hj, rfl⟩ := Table.get?_eq_some.mp hFound
    by_cases hStatus : j.status = .completed
    · obtain ⟨w, o, -, -, -, hDone⟩ := (hInv.job j hj).output hStatus
      exact (congrArg List.length hDone).le
    · exact (congrArg List.length ((hInv.job j hj).unfinished hStatus)).le.trans (Nat.zero_le 1)

/-- **Lease fencing.** On every run, whatever leases expire between the steps: a call of
`complete_job`, `fail_job` or `retry_job` under a token that is not the one of the most
recent claim returns false and changes nothing, so a worker that was overtaken changes
nothing when it hands its result in; no job is completed twice; and the references stored
on a completed job are those of the output of the worker that made its most recent claim. -/
theorem stale_worker_fenced (uploads : Table ReportUpload) (jobs : Table ReportProcessingJob)
    (hNew : ∀ j ∈ jobs, j.status = .queued ∧ j.attemptCount = 0) (actions : List ProcessingAction) :
    let s := Machine.run step (init uploads jobs) actions
    (∀ jobId token, s.IsStale jobId token → ∀ now,
      (∀ output, validateOutput output = .ok () →
        s.db.completeJob jobId token output now = .ok (s.db, false)) ∧
      (∀ errorCode, validateProcessingErrorCode errorCode = .ok () →
        s.db.failJob jobId token errorCode now = .ok (s.db, false)) ∧
      ∀ errorCode retryDelay, validateProcessingErrorCode errorCode = .ok () → 0 ≤ retryDelay →
        s.db.retryJob jobId token errorCode retryDelay now = .ok (s.db, false)) ∧
    (∀ token w, s.worker token = some w → s.IsStale w.claim.jobId token →
      ∀ now, s.step (.finish token now) = s) ∧
    (∀ jobId, (s.completionsOf jobId).length ≤ 1) ∧
    ∀ j ∈ s.db.jobs, j.status = .completed →
      ∃ w o, s.latestWorker j.id = some w ∧ w.result = some (.output o) ∧ j.HasOutput o := by
  intro s
  have hInv : s.ProcessingInvariant :=
    Machine.run_invariant step_invariant (init_invariant uploads hNew) actions
  refine ⟨fun jobId token hStale now => hInv.stale_calls hStale now,
    fun token w hw hStale now => hInv.stale_finish hw hStale now,
    fun jobId => hInv.completed_once jobId, fun j hj hStatus => ?_⟩
  -- the invariant of a completed row names the worker and the output
  obtain ⟨w, o, hLatest, hResult, hHas, -⟩ := (hInv.job j hj).output hStatus
  exact ⟨w, o, hLatest, hResult, hHas⟩

open ProcessingSample in
/-- The worker that was overtaken, after the second one completed the job. -/
theorem stale_worker_fenced_takeover :
    let s := Machine.run step (init uploads jobs) takeover
    (∀ token w, s.worker token = some w → s.IsStale w.claim.jobId token →
      ∀ now, s.step (.finish token now) = s) ∧ ∀ jobId, (s.completionsOf jobId).length ≤ 1 :=
  have h := stale_worker_fenced uploads jobs jobs_new takeover
  ⟨h.2.1, h.2.2.1⟩

end ProcessingState

end SpikeBackend
