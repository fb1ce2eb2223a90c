import Mathlib.Algebra.Order.Ring.Int
import SpikeBackend.Model.ProcessingRuns

/-!
# Every transition passes the CHECK constraints

One lemma for each way in which a row of `report_processing_jobs` is written: from a row
that passes the constraints, at an instant that is not before the row's own, the new row
passes them again.
-/

namespace SpikeBackend

open Relational Text Outcome Session

namespace ReportProcessingJob

variable {j : ReportProcessingJob} {now : Datetime}

theorem checks_iff : j.checks = true ↔ j.attemptsCheck = true ∧ j.dispatchCheck = true ∧
    j.statusFieldsCheck = true ∧ j.outputFieldsCheck = true ∧ j.sourceCheck = true ∧
      j.outputValuesCheck = true ∧ j.timestampsCheck = true := by
  simp only [checks, Bool.and_eq_true, and_assoc]

/-- `ck_report_processing_jobs_attempts`: the count stays within its limit, and a start time stands
exactly in the rows that have been tried. -/
theorem attemptsCheck_iff : j.attemptsCheck = true ↔
    (1 ≤ j.maxAttempts ∧ j.maxAttempts ≤ maxReportProcessingAttempts ∧ 0 ≤ j.attemptCount ∧
      j.attemptCount ≤ j.maxAttempts) ∧
    ((j.attemptCount = 0 ∧ j.startedAt = none ∧ j.errorCode = none) ∨
      (0 < j.attemptCount ∧ ∃ t, j.startedAt = some t)) := by
  simp [attemptsCheck, Option.isSome_iff_exists, and_assoc]

/-- No timestamp lies before the ones it follows. -/
theorem timestampsCheck_iff : j.timestampsCheck = true ↔
    (∀ a, j.availableAt = some a → j.createdAt ≤ a) ∧
    (∀ d, j.lastDispatchedAt = some d → j.createdAt ≤ d) ∧
    (∀ t, j.startedAt = some t → j.createdAt ≤ t) ∧
    (∀ f, j.finishedAt = some f → ∀ t, j.startedAt = some t → t ≤ f) ∧
    (∀ e, j.leaseExpiresAt = some e → ∀ t, j.startedAt = some t → t < e) := by
  simp only [timestampsCheck, Bool.and_eq_true, Option.all_eq_true, decide_eq_true_eq, and_assoc]

/-- The row has started by then, if at all. -/
def StartedBy (j : ReportProcessingJob) (now : Datetime) : Prop :=
  ∀ t, j.startedAt = some t → t ≤ now

/-- The start of a row that starts by then at the latest. -/
theorem StartedBy.getD {t : Datetime} (h : j.StartedBy now) (hCreated : j.createdAt ≤ now)
    (hChecks : j.timestampsCheck = true) (ht : some (j.startedAt.getD now) = some t) :
    j.createdAt ≤ t ∧ t ≤ now := by
  obtain rfl := Option.some.inj ht
  cases hStarted : j.startedAt with
  | none => exact ⟨hCreated, le_refl _⟩
  | some u => exact ⟨(timestampsCheck_iff.mp hChecks).2.2.1 u hStarted, h u hStarted⟩

/-- An unfinished row has no output, before and after a status that is no completion. -/
theorem outputFieldsCheck_of_status {j' : ReportProcessingJob} (h : j.outputFieldsCheck = true)
    (hColumns : j'.outputColumns = j.outputColumns)
    (hStatus : decide (j'.status = .completed) = decide (j.status = .completed)) :
    j'.outputFieldsCheck = true := by
  unfold outputFieldsCheck at h ⊢
  rw [hColumns, hStatus]
  exact h

/-- **A failure for good.** It keeps every constraint, for a row that no worker ever claimed too:
such a row is counted as tried once. -/
theorem terminalFailure_checks (h : j.checks = true) (errorCode : Str)
    (hCreated : j.createdAt ≤ now) (hStarted : j.StartedBy now)
    (hUnfinished : j.status ≠ .completed) : (j.terminalFailure errorCode now).checks = true := by
  obtain ⟨hAttempts, hDispatch, -, hOutput, hSource, hValues, hTimes⟩ := checks_iff.mp h
  obtain ⟨⟨hMax, hMax', hCount, hCount'⟩, -⟩ := attemptsCheck_iff.mp hAttempts
  have hTimes' := timestampsCheck_iff.mp hTimes
  -- a row that fails in the queue has had no attempt, and its count is set to one
  have hPositive : 0 < if j.attemptCount = 0 then 1 else j.attemptCount := by
    split <;> omega
  refine checks_iff.mpr ⟨attemptsCheck_iff.mpr ⟨⟨hMax, hMax', ?_, ?_⟩, .inr ⟨hPositive, _, rfl⟩⟩,
    hDispatch, ?_, ?_, hSource, hValues, timestampsCheck_iff.mpr ⟨?_, hTimes'.2.1, ?_, ?_, ?_⟩⟩
  · exact hPositive.le
  · dsimp only [terminalFailure]
    split <;> omega
  · show (true && decide (0 < if j.attemptCount = 0 then 1 else j.attemptCount) && true && true &&
      true && true) = true
    rw [decide_eq_true hPositive]
    rfl
  · exact outputFieldsCheck_of_status hOutput rfl (by simp [terminalFailure, hUnfinished])
  · intro a ha
    cases ha
  · intro t ht
    exact (hStarted.getD hCreated hTimes ht).1
  · intro f hf t ht
    obtain rfl := Option.some.inj hf
    exact (hStarted.getD hCreated hTimes ht).2
  · intro e he
    cases he

/-- **A claim.** It keeps every constraint, as long as attempts are left and the lease is a real
one. -/
theorem claimed_checks (h : j.checks = true) (token : Uuid) {leaseDuration : Int}
    (hCreated : j.createdAt ≤ now) (hStarted : j.StartedBy now)
    (hUnfinished : j.status ≠ .completed) (hLeft : j.attemptCount < j.maxAttempts)
    (hLease : 0 < leaseDuration) : (j.claimed token now leaseDuration).checks = true := by
  obtain ⟨hAttempts, hDispatch, -, hOutput, hSource, hValues, hTimes⟩ := checks_iff.mp h
  obtain ⟨⟨hMax, hMax', hCount, -⟩, -⟩ := attemptsCheck_iff.mp hAttempts
  have hTimes' := timestampsCheck_iff.mp hTimes
  have hPositive : 0 < j.attemptCount + 1 := by omega
  -- the bound of the attempts is strict before a claim, so it holds after it
  refine checks_iff.mpr ⟨attemptsCheck_iff.mpr
    ⟨⟨hMax, hMax', hPositive.le, hLeft⟩, .inr ⟨hPositive, _, rfl⟩⟩,
    hDispatch, ?_, ?_, hSource, hValues, timestampsCheck_iff.mpr ⟨?_, hTimes'.2.1, ?_, ?_, ?_⟩⟩
  · show (true && decide (0 < j.attemptCount + 1) && true && true && true && true) = true
    rw [decide_eq_true hPositive]
    rfl
  · exact outputFieldsCheck_of_status hOutput rfl (by simp [claimed, hUnfinished])
  · intro a ha
    cases ha
  · intro t ht
    exact (hStarted.getD hCreated hTimes ht).1
  · intro f hf
    cases hf
  · intro e he t ht
    obtain rfl := Option.some.inj he
    exact lt_add_of_le_of_pos (hStarted.getD hCreated hTimes ht).2 hLease

/-- A row that is processed has started and holds a token. -/
theorem processing_fields (h : j.checks = true) (hStatus : j.status = .processing) :
    0 < j.attemptCount ∧ (∃ t, j.startedAt = some t) ∧ (∃ t, j.leaseToken = some t) ∧
      (∃ e, j.leaseExpiresAt = some e) := by
  obtain ⟨hAttempts, -, hFields, -⟩ := checks_iff.mp h
  simp only [statusFieldsCheck, hStatus, Bool.and_eq_true, decide_eq_true_eq,
    Option.isSome_iff_exists] at hFields
  obtain ⟨⟨⟨⟨⟨-, hPositive⟩, hToken⟩, hLease⟩, -⟩, -⟩ := hFields
  refine ⟨hPositive, ?_, hToken, hLease⟩
  rcases (attemptsCheck_iff.mp hAttempts).2 with ⟨hZero, -⟩ | ⟨-, hStarted⟩
  · omega
  · exact hStarted

/-- **A retry.** The row is queued again with the attempt it has had, and with a time that is not
before its creation. -/
theorem requeued_checks (h : j.checks = true) (errorCode : Str) {availableAt : Datetime}
    (hStatus : j.status = .processing) (hCreated : j.createdAt ≤ availableAt) :
    (j.requeued errorCode availableAt).checks = true := by
  obtain ⟨hAttempts, hDispatch, hFields, hOutput, hSource, hValues, hTimes⟩ := checks_iff.mp h
  obtain ⟨hPositive, hStarted, -, -⟩ := processing_fields h hStatus
  have hTimes' := timestampsCheck_iff.mp hTimes
  refine checks_iff.mpr ⟨attemptsCheck_iff.mpr
    ⟨(attemptsCheck_iff.mp hAttempts).1, .inr ⟨hPositive, hStarted⟩⟩, hDispatch, ?_, ?_, hSource,
    hValues, timestampsCheck_iff.mpr ⟨?_, hTimes'.2.1, hTimes'.2.2.1, hTimes'.2.2.2.1, ?_⟩⟩
  · -- the output columns were empty while the row was processing, and stay so
    simp only [statusFieldsCheck, hStatus, Bool.and_eq_true] at hFields
    simp [statusFieldsCheck, requeued, hFields.2]
  · exact outputFieldsCheck_of_status hOutput rfl (by simp [requeued, hStatus])
  · intro a ha
    obtain rfl := Option.some.inj ha
    exact hCreated
  · intro e he
    cases he

/-- What `_validate_output` lets through fills the output columns. -/
theorem validateOutput_eq_ok {output : ReportProcessingOutput} {u : Unit}
    (h : validateOutput output = .ok u) : (j.completed output now).outputValuesCheck = true := by
  simp only [validateOutput, bind_eq_ok, ensure_eq_ok] at h
  obtain ⟨-, hStrings, -, hBucket, -, hSize, hCounts⟩ := h
  -- a value with a visible character is no empty text
  have hNonempty : ∀ value : Str, (!(strip value).isEmpty) = true → 0 < value.length := by
    intro value hValue
    cases value with
    | nil => exact absurd hValue (by decide)
    | cons c cs => simp
  simp only [List.all_cons, List.all_nil, Bool.and_true, Bool.and_eq_true] at hStrings
  obtain ⟨-, hKey, hVersion, hEtag, hProfileKey, hProfileVersion, hProfileEtag⟩ := hStrings
  simp [outputValuesCheck, completed, hBucket, hSize, hCounts, hNonempty _ hKey,
    hNonempty _ hVersion, hNonempty _ hEtag, hNonempty _ hProfileKey, hNonempty _ hProfileVersion,
    hNonempty _ hProfileEtag]

/-- **A completion.** An output that the service has validated meets the constraints on its columns.
-/
theorem completed_checks (h : j.checks = true) {output : ReportProcessingOutput} {u : Unit}
    (hValid : validateOutput output = .ok u) (hStatus : j.status = .processing)
    (hStarted : j.StartedBy now) : (j.completed output now).checks = true := by
  obtain ⟨hAttempts, hDispatch, hFields, -, hSource, -, hTimes⟩ := checks_iff.mp h
  obtain ⟨hPositive, hStart, -, -⟩ := processing_fields h hStatus
  have hTimes' := timestampsCheck_iff.mp hTimes
  refine checks_iff.mpr ⟨attemptsCheck_iff.mpr
    ⟨(attemptsCheck_iff.mp hAttempts).1, .inr ⟨hPositive, hStart⟩⟩, hDispatch, ?_, rfl, hSource,
    validateOutput_eq_ok hValid,
    timestampsCheck_iff.mpr ⟨?_, hTimes'.2.1, hTimes'.2.2.1, ?_, ?_⟩⟩
  · simp [statusFieldsCheck, completed, hPositive]
  · intro a ha
    cases ha
  · intro f hf t ht
    obtain rfl := Option.some.inj hf
    exact hStarted t ht
  · intro e he
    cases he

/-- A dispatch counts on from an earlier version of the row. -/
theorem dispatched_checks {loaded : ReportProcessingJob} (h : j.checks = true)
    (hLoaded : loaded.checks = true)
    (hEarlier : loaded.lastDispatchedAt.isSome = true → j.lastDispatchedAt.isSome = true)
    (hCreated : j.createdAt ≤ now) : (loaded.dispatched j now).checks = true := by
  obtain ⟨hAttempts, -, hFields, hOutput, hSource, hValues, hTimes⟩ := checks_iff.mp h
  have hCount : 0 ≤ loaded.dispatchAttemptCount := by
    have hDispatch := (checks_iff.mp hLoaded).2.1
    simp only [dispatchCheck, Bool.and_eq_true, decide_eq_true_eq] at hDispatch
    exact hDispatch.1
  have hTimes' := timestampsCheck_iff.mp hTimes
  -- the count always changes; the time does unless the instance had this very one
  have hNext : (loaded.dispatched j now).dispatchAttemptCount = loaded.dispatchAttemptCount + 1 :=
    column_of_ne (by omega)
  have hLast : (loaded.dispatched j now).lastDispatchedAt = some now ∨
      (loaded.dispatched j now).lastDispatchedAt = j.lastDispatchedAt ∧
        j.lastDispatchedAt.isSome = true := by
    rcases column_cases loaded.lastDispatchedAt (some now) j.lastDispatchedAt with hNew | ⟨hOld, hRow⟩
    · exact .inl hNew
    · exact .inr ⟨hRow, hEarlier (by rw [← hOld]; rfl)⟩
  refine checks_iff.mpr ⟨hAttempts, ?_, hFields, hOutput, hSource, hValues,
    timestampsCheck_iff.mpr ⟨hTimes'.1, fun d hd => ?_, hTimes'.2.2⟩⟩
  · have hSome : (loaded.dispatched j now).lastDispatchedAt.isSome = true := by
      rcases hLast with hNew | ⟨hRow, hSome⟩
      · rw [hNew]
        rfl
      · rw [hRow]
        exact hSome
    have hPositive : 0 < loaded.dispatchAttemptCount + 1 := by omega
    simp [dispatchCheck, hNext, hSome, hPositive, hPositive.le]
  · rcases hLast with hNew | ⟨hRow, -⟩
    · obtain rfl := Option.some.inj (hNew.symm.trans hd)
      exact hCreated
    · exact hTimes'.2.1 d (hRow.symm.trans hd)

end ReportProcessingJob

/-- The job of a verified upload passes the constraints. -/
theorem ProcessingDatabase.newJob_checks {scope : Uuid} {upload : ReportUpload} {draws : JobDraws}
    (hSource : hasSource upload = true) (hOrder : draws.createdAt ≤ draws.availableAt) :
    (newJob scope upload draws).checks = true := by
  simp only [hasSource, Bool.and_eq_true, Option.any_eq_true] at hSource
  obtain ⟨⟨version, hVersion, hv⟩, etag, hEtag, he⟩ := hSource
  -- the upload was found with a version and an entity tag that are not empty
  have hLength : ∀ value : Str, (!value.isEmpty) = true → 0 < value.length := by
    intro value hValue
    cases value with
    | nil => exact absurd hValue (by decide)
    | cons c cs => simp
  simp [ReportProcessingJob.checks, ReportProcessingJob.attemptsCheck,
    ReportProcessingJob.dispatchCheck, ReportProcessingJob.statusFieldsCheck,
    ReportProcessingJob.outputFieldsCheck, ReportProcessingJob.outputColumns,
    ReportProcessingJob.sourceCheck, ReportProcessingJob.outputValuesCheck,
    ReportProcessingJob.timestampsCheck, newJob, hVersion, hEtag, hLength _ hv, hLength _ he, hOrder,
    defaultReportProcessingMaxAttempts, maxReportProcessingAttempts]

end SpikeBackend
