import SpikeBackend.Model.ProcessingTasks

/-!
# When to claim again

`claim_job` and `claim_retry_delay` look at the lease and at the availability of a job separately.
They agree: a job is blocked until an instant, and the delay is the time up to it, or a second. The
worker rounds the delay up through a float, which holds microseconds for some five hundred years.

* `retrySeconds_bounds` — the rounding, while the float holds the microseconds;
* `claimJob_open` — a claim that nothing blocks is the last one that gets none;
* `claim_retry_delay_sufficient` — who is deferred, and until when;
* `task_not_deferred_again` — the same of the tasks of a worker;
* `late_job_deferred_again` — a delay that the float cuts.
-/

namespace SpikeBackend

open Relational Text Outcome

-- ---------------------------------------------------------------------------
-- Rounding up
-- ---------------------------------------------------------------------------

/-- The longest delay whose microseconds a float of seconds holds. -/
def floatDelay : Int := seconds (2 ^ 34)

/-- Below the limit half a unit of the float is less than a microsecond. -/
theorem floatUnit_seconds {delay : Int} (hPos : 0 < delay) (h : delay < floatDelay) :
    Int.log 2 |(delay / 1000000 : ℚ)| ≤ 33 ∧
      floatUnit (delay / 1000000 : ℚ) / 2 < 1 / 1000000 := by
  have hCast : (0 : ℚ) < delay := by exact_mod_cast hPos
  have hx : (0 : ℚ) < delay / 1000000 := by positivity
  have hLt : (delay / 1000000 : ℚ) < ((2 : ℕ) : ℚ) ^ (34 : ℤ) := by
    have hDelay : delay < 2 ^ 34 * 1000000 := h
    have hDelayCast : (delay : ℚ) < 2 ^ 34 * 1000000 := by exact_mod_cast hDelay
    rw [div_lt_iff₀ (by norm_num)]
    exact_mod_cast hDelayCast
  -- Fewer than 2^34 seconds, so the unit is at most 2^-19.
  have hLog : Int.log 2 |(delay / 1000000 : ℚ)| ≤ 33 := by
    rw [abs_of_pos hx]
    have hLess := (Int.lt_zpow_iff_log_lt (by decide) hx).mp hLt
    omega
  refine ⟨hLog, ?_⟩
  have hUnit : floatUnit (delay / 1000000 : ℚ) ≤ 2 ^ (-19 : ℤ) :=
    zpow_le_zpow_right₀ (by norm_num) (by omega)
  have hSmall : (2 : ℚ) ^ (-19 : ℤ) / 2 < 1 / 1000000 := by norm_num
  linarith

/-- A time in seconds is a microsecond or more above the integer below it. -/
theorem lt_sub_ceil {delay : Int} :
    (1 : ℚ) / 1000000 ≤ delay / 1000000 - (⌈(delay / 1000000 : ℚ)⌉ - 1) := by
  have hCeil := Int.ceil_lt_add_one (delay / 1000000 : ℚ)
  have hLess : ((⌈(delay / 1000000 : ℚ)⌉ - 1) * 1000000 : ℚ) < delay := by
    rw [← lt_div_iff₀ (by norm_num)]
    linarith
  have hWhole : (⌈(delay / 1000000 : ℚ)⌉ - 1) * 1000000 < delay := by exact_mod_cast hLess
  have hStep : (⌈(delay / 1000000 : ℚ)⌉ - 1) * 1000000 + 1 ≤ delay := hWhole
  have hStepCast : ((⌈(delay / 1000000 : ℚ)⌉ - 1) * 1000000 + 1 : ℚ) ≤ delay := by
    exact_mod_cast hStep
  linarith

/-- Rounding up the float of a delay is rounding up the delay itself. -/
theorem ceil_totalSeconds {delay : Int} (hPos : 0 < delay) (h : delay ≤ floatDelay) :
    ⌈totalSeconds delay⌉ = ⌈(delay / 1000000 : ℚ)⌉ := by
  rcases h.lt_or_eq with hLt | rfl
  · obtain ⟨hLog, hUnit⟩ := floatUnit_seconds hPos hLt
    have hNe : (delay / 1000000 : ℚ) ≠ 0 := by
      have hCast : (0 : ℚ) < delay := by exact_mod_cast hPos
      positivity
    exact ceil_nearestFloat hNe (by omega) (hUnit.trans_le lt_sub_ceil)
  · -- the bound itself is a float
    have hBound : (floatDelay / 1000000 : ℚ) = ((2 ^ 34 : ℤ) : ℚ) := by
      norm_num [floatDelay, seconds]
    have hLog : Int.log 2 |(((2 ^ 34 : ℤ) : ℚ))| = 34 := by
      have hPower : |(((2 ^ 34 : ℤ) : ℚ))| = ((2 : ℕ) : ℚ) ^ (34 : ℤ) := by norm_num
      rw [hPower, Int.log_zpow (by decide)]
    have hUnit : floatUnit ((2 ^ 34 : ℤ) : ℚ) / 2 < ((2 ^ 34 : ℤ) : ℚ) - (⌈((2 ^ 34 : ℤ) : ℚ)⌉ - 1) := by
      rw [Int.ceil_intCast, floatUnit, hLog]
      norm_num
    rw [totalSeconds, hBound]
    exact ceil_nearestFloat (by norm_num) (by omega) hUnit

/-- **Rounding up.** The seconds of a delay that a float holds are as long as the delay, and by less
than a second longer than the delay and the one second. -/
theorem retrySeconds_bounds {delay : Int} (hPos : seconds 1 ≤ delay) (h : delay ≤ floatDelay) :
    delay ≤ seconds (retrySeconds delay) ∧ seconds (retrySeconds delay) < delay + seconds 1 := by
  have hOne : (1000000 : Int) ≤ delay := hPos
  have hCeil := ceil_totalSeconds (by omega) h
  have hLow : (delay / 1000000 : ℚ) ≤ ⌈(delay / 1000000 : ℚ)⌉ := Int.le_ceil _
  have hHigh := Int.ceil_lt_add_one (delay / 1000000 : ℚ)
  rw [div_le_iff₀ (by norm_num)] at hLow
  -- Rounding up adds less than one second.
  have hHigh' : (⌈(delay / 1000000 : ℚ)⌉ * 1000000 : ℚ) < delay + 1000000 := by
    have hScaled := mul_lt_mul_of_pos_right hHigh (by norm_num : (0 : ℚ) < 1000000)
    rw [add_mul, div_mul_cancel₀ _ (by norm_num), one_mul] at hScaled
    exact hScaled
  have hLowInt : delay ≤ ⌈(delay / 1000000 : ℚ)⌉ * 1000000 := by exact_mod_cast hLow
  have hHighInt : ⌈(delay / 1000000 : ℚ)⌉ * 1000000 < delay + 1000000 := by exact_mod_cast hHigh'
  unfold retrySeconds seconds
  rw [hCeil]
  omega

-- ---------------------------------------------------------------------------
-- One row
-- ---------------------------------------------------------------------------

namespace ReportProcessingJob

variable {j : ReportProcessingJob}

/-- The instant that a claim waits for: the end of the lease, or the availability. -/
def blockedUntil? (j : ReportProcessingJob) : Option Datetime :=
  match j.status with
  | .queued => j.availableAt
  | .processing => j.leaseExpiresAt
  | .completed | .failed => none

/-- A job is claimable when it is not over and what blocks it has passed. -/
theorem isClaimable_iff {t : Datetime} : j.isClaimable t = true ↔
    j.status.isTerminal = false ∧ ∀ w, j.blockedUntil? = some w → w ≤ t := by
  unfold isClaimable blockedUntil?
  -- A queued job waits for its time, a processing one for the lease.
  cases hStatus : j.status with
  | queued =>
    cases j.availableAt with
    | none => simp [ReportProcessingStatus.isTerminal]
    | some w => simp [ReportProcessingStatus.isTerminal]
  | processing =>
    cases j.leaseExpiresAt with
    | none => simp [ReportProcessingStatus.isTerminal]
    | some w => simp [ReportProcessingStatus.isTerminal]
  | completed => simp [ReportProcessingStatus.isTerminal]
  | failed => simp [ReportProcessingStatus.isTerminal]

/-- **The delay of a row**: until it is not blocked any more, and at least a second. -/
theorem retryDelay_eq (checkedAt : Datetime) : j.retryDelay checkedAt =
    if j.status.isTerminal then none
    else some (max (j.blockedUntil?.getD checkedAt - checkedAt) (seconds 1)) := by
  unfold retryDelay blockedUntil?
  cases j.status <;> rfl

/-- There is no delay to wait only when the job is over. -/
theorem retryDelay_eq_none {checkedAt : Datetime} :
    j.retryDelay checkedAt = none ↔ j.status.isTerminal = true := by
  rw [retryDelay_eq]
  split
  · next hTerminal => exact ⟨fun _ => hTerminal, fun _ => rfl⟩
  · next hOpen => exact ⟨fun h => absurd h (Option.some_ne_none _), fun h => absurd h hOpen⟩

theorem terminalFailure_terminal (errorCode : Str) (now : Datetime) :
    (j.terminalFailure errorCode now).status.isTerminal = true := rfl

/-- **Agreement.** The delay ends when the row is not blocked any more, and not before if it is
more than a second. -/
theorem isClaimable_retryDelay {checkedAt : Datetime} {delay : Int}
    (h : j.retryDelay checkedAt = some delay) :
    seconds 1 ≤ delay ∧ (∀ t, checkedAt + delay ≤ t → j.isClaimable t = true) ∧
      (seconds 1 < delay → ∀ t < checkedAt + delay, j.isClaimable t = false) := by
  rw [retryDelay_eq] at h
  split at h
  · cases h
  · next hOpen =>
    obtain rfl := Option.some.inj h
    rw [Bool.not_eq_true] at hOpen
    refine ⟨le_max_right _ _, ?_, ?_⟩
    · intro t ht
      refine isClaimable_iff.mpr ⟨hOpen, fun w hw => ?_⟩
      rw [hw, Option.getD_some] at ht
      have hWait : w - checkedAt ≤ max (w - checkedAt) (seconds 1) := le_max_left _ _
      exact (sub_le_iff_le_add'.mp hWait).trans ht
    · intro hLong t ht
      -- The wait is at least a second; past that it is the time left.
      rcases lt_max_iff.mp hLong with hLong | hLong
      · have hMax := max_eq_left hLong.le
        rw [hMax] at ht
        cases hUntil : j.blockedUntil? with
        | none =>
          rw [hUntil, Option.getD_none, sub_self] at hLong
          exact absurd hLong (by decide)
        | some w =>
          rw [hUntil, Option.getD_some, add_sub_cancel] at ht
          rw [Bool.eq_false_iff]
          intro hClaimable
          exact absurd ((isClaimable_iff.mp hClaimable).2 w hUntil) (not_le.mpr ht)
      · exact absurd hLong (lt_irrefl _)

end ReportProcessingJob

-- ---------------------------------------------------------------------------
-- The claim before, and the claim after
-- ---------------------------------------------------------------------------

section claims

variable {db db' : ProcessingDatabase} {jobId token : Uuid} {claimedAt : Datetime}
  {leaseDuration : Int}

/-- The job is missing or over. -/
def JobOver (db : ProcessingDatabase) (jobId : Uuid) : Prop :=
  ∀ job, db.jobs.get? jobId = some job → job.status.isTerminal = true

/-- There is no retry to plan exactly when the job is missing or over. -/
theorem claimRetryDelay_eq_none {checkedAt : Datetime} :
    db.claimRetryDelay jobId checkedAt = none ↔ JobOver db jobId := by
  unfold ProcessingDatabase.claimRetryDelay JobOver
  cases db.jobs.get? jobId with
  | none => exact ⟨fun _ job h => absurd h (Option.some_ne_none job).symm, fun _ => rfl⟩
  | some job =>
    rw [Option.bind_some, ReportProcessingJob.retryDelay_eq_none]
    constructor
    · intro hTerminal other hOther
      rw [← Option.some.inj hOther]
      exact hTerminal
    · intro hAll
      exact hAll job rfl

/-- A job saved as failed is over. -/
theorem saveJob_over {job : ReportProcessingJob} {errorCode : Str} {now : Datetime}
    (hJob : db.jobs.get? jobId = some job)
    (h : db.saveJob (job.terminalFailure errorCode now) = .ok db') : JobOver db' jobId := by
  obtain ⟨hMem, hKey⟩ := Table.get?_eq_some.mp hJob
  simp only [ProcessingDatabase.saveJob, bind_eq_ok, required_eq_ok] at h
  obtain ⟨jobs, hJobs, h⟩ := h
  obtain rfl := Except.ok.inj h
  intro row hRow
  obtain ⟨hRowMem, hRowKey⟩ := Table.get?_eq_some.mp hRow
  have hSame : Schema.key row = Schema.key (job.terminalFailure errorCode now) :=
    hRowKey.trans hKey.symm
  rw [Table.eq_of_mem_update? hJobs hRowMem hSame]
  exact ReportProcessingJob.terminalFailure_terminal errorCode now

/-- A claim that gets none has found the job over or blocked, and left it as it is, or it has ended
the job. -/
theorem claimJob_none (h : db.claimJob jobId claimedAt leaseDuration token = .ok (db', none)) :
    JobOver db' jobId ∨ db' = db ∧ ∃ job, db.jobs.get? jobId = some job ∧
      job.isClaimable claimedAt = false := by
  simp only [ProcessingDatabase.claimJob, bind_eq_ok, ensure_eq_ok] at h
  obtain ⟨-, -, h⟩ := h
  cases hJob : db.jobs.get? jobId with
  | none =>
    rw [hJob] at h
    obtain ⟨rfl, -⟩ := Prod.mk.inj (Except.ok.inj h)
    refine Or.inl fun job hSome => ?_
    rw [hJob] at hSome
    exact absurd hSome (Option.some_ne_none job).symm
  | some job =>
    simp only [hJob] at h
    split at h
    · next hBlocked =>
      obtain ⟨rfl, -⟩ := Prod.mk.inj (Except.ok.inj h)
      exact Or.inr ⟨rfl, job, rfl, hBlocked⟩
    · split at h
      · simp only [bind_eq_ok] at h
        obtain ⟨saved, hSaved, h⟩ := h
        obtain ⟨rfl, -⟩ := Prod.mk.inj (Except.ok.inj h)
        -- The attempts are used up: the claim ends the job.
        exact Or.inl (saveJob_over hJob hSaved)
      · split at h
        · simp only [bind_eq_ok] at h
          obtain ⟨saved, hSaved, h⟩ := h
          obtain ⟨rfl, -⟩ := Prod.mk.inj (Except.ok.inj h)
          exact Or.inl (saveJob_over hJob hSaved)
        · simp only [bind_eq_ok] at h
          obtain ⟨saved, -, h⟩ := h
          cases (Prod.mk.inj (Except.ok.inj h)).2

/-- The claim of a blocked job changes nothing. -/
theorem claimJob_blocked {job : ReportProcessingJob} (hLease : 0 < leaseDuration)
    (hJob : db.jobs.get? jobId = some job) (hBlocked : job.isClaimable claimedAt = false) :
    db.claimJob jobId claimedAt leaseDuration token = .ok (db, none) := by
  unfold ProcessingDatabase.claimJob
  rw [ensure_pos hLease, ok_bind]
  simp only [hJob, hBlocked, if_pos]
  rfl

/-- **No second deferral.** A claim that nothing blocks gets none only by ending the job. -/
theorem claimJob_open {job : ReportProcessingJob} (hJob : db.jobs.get? jobId = some job)
    (hOpen : job.isClaimable claimedAt = true)
    (h : db.claimJob jobId claimedAt leaseDuration token = .ok (db', none)) :
    JobOver db' jobId := by
  rcases claimJob_none h with hOver | ⟨-, other, hOther, hBlocked⟩
  · exact hOver
  · obtain rfl := Option.some.inj (hJob.symm.trans hOther)
    exact absurd (hOpen.symm.trans hBlocked) (by decide)

end claims

/-- **When to claim again.** After a claim at `claimedAt` that gets none, the delay is none exactly
when the job is missing or over. Otherwise the claim has left the job as it was. It is blocked until
the end of a delay of more than a second; and unless the delay is longer than a float of seconds
holds, it is not blocked after the seconds that the worker waits, less than a second longer: a claim
that gets none then has ended the job. -/
theorem claim_retry_delay_sufficient {db db' : ProcessingDatabase} {jobId token : Uuid}
    {claimedAt : Datetime} {leaseDuration : Int}
    (h : db.claimJob jobId claimedAt leaseDuration token = .ok (db', none))
    (checkedAt : Datetime) :
    (db'.claimRetryDelay jobId checkedAt = none ↔ JobOver db' jobId) ∧
      ∀ delay, db'.claimRetryDelay jobId checkedAt = some delay →
        db' = db ∧ ∃ job, db'.jobs.get? jobId = some job ∧
          (seconds 1 < delay → ∀ t < checkedAt + delay, job.isClaimable t = false) ∧
          (delay ≤ floatDelay → seconds (retrySeconds delay) < delay + seconds 1 ∧
            ∀ t, checkedAt + seconds (retrySeconds delay) ≤ t → job.isClaimable t = true ∧
              ∀ leaseDuration token db'',
                db'.claimJob jobId t leaseDuration token = .ok (db'', none) →
                  JobOver db'' jobId) := by
  refine ⟨claimRetryDelay_eq_none, fun delay hDelay => ?_⟩
  rcases claimJob_none h with hOver | ⟨rfl, -, -, -⟩
  · rw [claimRetryDelay_eq_none.mpr hOver] at hDelay
    cases hDelay
  · refine ⟨rfl, ?_⟩
    obtain ⟨job, hJob, hRetry⟩ := Option.bind_eq_some_iff.mp hDelay
    -- The row did not change, so the delay computed from it is still right.
    obtain ⟨hSecond, hFree, hBlocked⟩ := ReportProcessingJob.isClaimable_retryDelay hRetry
    refine ⟨job, hJob, hBlocked, fun hFloat => ?_⟩
    obtain ⟨hEnough, hLess⟩ := retrySeconds_bounds hSecond hFloat
    refine ⟨hLess, fun t ht => ?_⟩
    -- The rounded delay is no shorter than the delay.
    have hOpen := hFree t ((add_le_add_right hEnough checkedAt).trans ht)
    exact ⟨hOpen, fun leaseDuration token db'' hClaim => claimJob_open hJob hOpen hClaim⟩

/-- **The task is not deferred twice.** A task that is deferred, and runs again after the seconds
that it was told, is not deferred again while nobody else changes the job. -/
theorem task_not_deferred_again {db db' db'' : ProcessingDatabase} {jobId token token' : Uuid}
    {claimedAt checkedAt t checkedAt' : Datetime} {wait : Int}
    {outcome : ReportProcessingTaskOutcome}
    (hDelays : ∀ delay, db'.claimRetryDelay jobId checkedAt = some delay → delay ≤ floatDelay)
    (hFirst : taskClaimJob db jobId claimedAt checkedAt token =
      .ok (db', .inr ⟨str "deferred", some wait⟩))
    (hTime : checkedAt + seconds wait ≤ t)
    (hSecond : taskClaimJob db' jobId t checkedAt' token' = .ok (db'', .inr outcome)) :
    outcome.status ≠ str "deferred" := by
  -- the first task was deferred by the delay
  have hDeferred : ∃ delay job, db'.claimRetryDelay jobId checkedAt = some delay ∧
      db'.jobs.get? jobId = some job ∧ job.retryDelay checkedAt = some delay ∧
        wait = retrySeconds delay := by
    unfold taskClaimJob at hFirst
    split at hFirst
    · cases (Prod.mk.inj (Except.ok.inj hFirst)).2
    · obtain ⟨rfl, hOutcome⟩ := Prod.mk.inj (Except.ok.inj hFirst)
      have hEq := Sum.inr.inj hOutcome
      unfold unclaimedOutcome at hEq
      split at hEq
      · cases congrArg ReportProcessingTaskOutcome.retryAfterSeconds hEq
      · next delay hDelay =>
        obtain ⟨job, hJob, hRetry⟩ := Option.bind_eq_some_iff.mp hDelay
        have hWait := congrArg ReportProcessingTaskOutcome.retryAfterSeconds hEq
        exact ⟨delay, job, hDelay, hJob, hRetry, (Option.some.inj hWait).symm⟩
    · obtain ⟨-, hOutcome⟩ := Prod.mk.inj (Except.ok.inj hFirst)
      have hStatus : str "retrying" = str "deferred" :=
        congrArg ReportProcessingTaskOutcome.status (Sum.inr.inj hOutcome)
      exact absurd hStatus (by decide)
    · cases hFirst
  obtain ⟨delay, job, hDelay, hJob, hRetry, rfl⟩ := hDeferred
  obtain ⟨hLeast, hFree, -⟩ := ReportProcessingJob.isClaimable_retryDelay hRetry
  have hEnough := (retrySeconds_bounds hLeast (hDelays delay hDelay)).1
  have hOpen := hFree t ((add_le_add_right hEnough checkedAt).trans hTime)
  unfold taskClaimJob at hSecond
  split at hSecond
  · cases (Prod.mk.inj (Except.ok.inj hSecond)).2
  · next hClaim =>
    obtain ⟨rfl, hOutcome⟩ := Prod.mk.inj (Except.ok.inj hSecond)
    have hOver := claimJob_open hJob hOpen hClaim
    rw [← Sum.inr.inj hOutcome, claimRetryDelay_eq_none.mpr hOver]
    show str "ignored" ≠ str "deferred"
    decide
  · obtain ⟨-, hOutcome⟩ := Prod.mk.inj (Except.ok.inj hSecond)
    rw [← Sum.inr.inj hOutcome]
    show str "retrying" ≠ str "deferred"
    decide
  · cases hSecond

namespace RetryDelaySample

/-- A queued job. -/
def job (availableAt : Datetime) : ReportProcessingJob where
  id := 1
  businessId := 2
  createdAt := 0
  reportUploadId := 3
  sourceStorageVersionId := str "v"
  sourceEtag := str "e"
  availableAt := some availableAt

/-- The sample job meets the constraints of its table. -/
theorem job_checks {availableAt : Datetime} (h : 0 ≤ availableAt) :
    (job availableAt).checks = true := by
  have hTimes : (job availableAt).timestampsCheck = true := by
    unfold ReportProcessingJob.timestampsCheck
    simp [job, h]
  unfold ReportProcessingJob.checks
  rw [hTimes]
  rfl

def db (availableAt : Datetime) (h : 0 ≤ availableAt) : ProcessingDatabase where
  jobs := Table.single (job availableAt) (job_checks h)

theorem get_job {availableAt : Datetime} (h : 0 ≤ availableAt) :
    (db availableAt h).jobs.get? 1 = some (job availableAt) :=
  Table.get?_eq_some.mpr ⟨List.mem_singleton.mpr rfl, rfl⟩

/-- A minute and a half, and half a second. -/
def soon : Int := seconds 90 + 500000

/-- More than a thousand years. -/
def late : Int := seconds (2 ^ 35) + 3

theorem soon_nonneg : 0 ≤ soon := by decide

theorem late_nonneg : 0 ≤ late := by decide

end RetryDelaySample

open RetryDelaySample in
/-- A job that is available in ninety seconds and a half is free after 91 seconds. -/
theorem claim_retry_delay_sample : (db soon soon_nonneg).claimRetryDelay 1 0 = some soon ∧
    ∃ job, (db soon soon_nonneg).jobs.get? 1 = some job ∧ job.isClaimable (seconds 90) = false ∧
      ∀ t, seconds 91 ≤ t → job.isClaimable t = true := by
  have hDelay : (db soon soon_nonneg).claimRetryDelay 1 0 = some soon := by
    rw [ProcessingDatabase.claimRetryDelay, get_job]
    decide
  have hLease : 0 < reportProcessingLeaseDuration := by decide
  have hClaim : (db soon soon_nonneg).claimJob 1 0 reportProcessingLeaseDuration 4 =
      .ok (db soon soon_nonneg, none) :=
    claimJob_blocked hLease (get_job soon_nonneg) (by decide)
  obtain ⟨-, job, hJob, hBlocked, hFree⟩ := (claim_retry_delay_sufficient hClaim 0).2 soon hDelay
  refine ⟨hDelay, job, hJob, hBlocked (by decide) (seconds 90) (by decide), fun t ht => ?_⟩
  -- Ninety and a half seconds are rounded up to 91.
  have hSeconds : retrySeconds soon = 91 := by
    obtain ⟨hEnough, hLess⟩ := @retrySeconds_bounds soon (by decide) (by decide)
    have hSoon : soon = 90500000 := rfl
    have hWait : seconds (retrySeconds soon) = retrySeconds soon * 1000000 := rfl
    have hSecond : seconds 1 = 1000000 := rfl
    omega
  have hUntil : (0 : Datetime) + seconds (retrySeconds soon) ≤ t := by
    rw [hSeconds, zero_add]
    exact ht
  exact ((hFree (by decide)).2 t hUntil).1

open RetryDelaySample in
/-- A delay of 2 ^ 35 seconds and three microseconds is 2 ^ 35 seconds as a float: a claim that is
made even a microsecond after that is blocked again. From 2 ^ 34 seconds on there are such delays. -/
theorem late_job_deferred_again :
    (db late late_nonneg).claimJob 1 0 reportProcessingLeaseDuration 4 =
        .ok (db late late_nonneg, none) ∧
      (db late late_nonneg).claimRetryDelay 1 0 = some late ∧ ¬JobOver (db late late_nonneg) 1 ∧
      (db late late_nonneg).claimJob 1 (0 + seconds (retrySeconds late) + 1)
          reportProcessingLeaseDuration 4 = .ok (db late late_nonneg, none) ∧
      seconds (retrySeconds (floatDelay + 1)) < floatDelay + 1 := by
  have hLease : 0 < reportProcessingLeaseDuration := by decide
  have hSeconds : retrySeconds late = 2 ^ 35 := by decide +kernel
  have hJob := get_job late_nonneg
  refine ⟨claimJob_blocked hLease hJob (by decide), ?_, ?_, claimJob_blocked hLease hJob ?_,
    by decide +kernel⟩
  · rw [ProcessingDatabase.claimRetryDelay, hJob]
    decide
  · intro hOver
    exact absurd (hOver (job late) hJob) (by decide)
  · rw [hSeconds]
    decide

end SpikeBackend
