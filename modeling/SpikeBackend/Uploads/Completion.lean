import SpikeBackend.Model.UploadBatches

/-!
# Completing a batch in spite of storage failures

`complete_batch` deletes rejected objects while it goes through the uploads of a batch, and the
rows say so only at its commit. A storage error in between rolls the rows back and leaves the
objects deleted, so that the next call finds them missing.

* `deletionAt` — how many storage calls come before the first deletion;
* `completeBatch_firstChange` — where a call changes the store first;
* `completion_insensitive_iff` — failed calls leave no trace exactly when none of them got as far.
-/

namespace SpikeBackend

open Relational Text Collections Outcome Remote Remote.Program

-- ---------------------------------------------------------------------------
-- The calls of a program
-- ---------------------------------------------------------------------------

def IsStorageError (e : CompleteBatchError) : Prop := ∃ error, e = .storage error

/-- A program that adds no objects, and whose calls raise storage errors when they fail. -/
structure OnlyDeletes {α : Type} (p : StorageProgram α) : Prop where
  decreasing : p.Decreasing
  errors : p.Errors IsStorageError

namespace OnlyDeletes

variable {α β : Type}

theorem done (outcome : Except CompleteBatchError α) :
    OnlyDeletes (.done outcome : StorageProgram α) := ⟨trivial, trivial⟩

theorem bind {p : StorageProgram α} (h : OnlyDeletes p) {f : α → StorageProgram β}
    (hf : ∀ a, OnlyDeletes (f a)) : OnlyDeletes (p >>= f) :=
  ⟨h.decreasing.bind fun a => (hf a).decreasing, h.errors.bind fun a => (hf a).errors⟩

theorem request {answer : ObjectStore → α} {update : ObjectStore → ObjectStore}
    (h : ∀ s, update s ≤ s) (error : S3StorageError) :
    OnlyDeletes (.request (.storage error) answer update : StorageProgram α) :=
  ⟨⟨h, fun _ => trivial⟩, ⟨⟨error, rfl⟩, fun _ => trivial⟩⟩

end OnlyDeletes

/-- A deletion leaves no version that was not there. -/
theorem ObjectStore.delete_le (s : ObjectStore) (bucket key versionId : Str) :
    s.delete bucket key versionId ≤ s := by
  intro b k
  show List.Sublist (if b = bucket ∧ k = key then _ else _) _
  split
  · exact List.filter_sublist
  · exact List.Sublist.refl _

theorem rejectObject_onlyDeletes (u : BatchUpload) (versionId code : Str) (now : Datetime) :
    OnlyDeletes (rejectObject u versionId code now) :=
  .bind (.request (fun s => s.delete_le _ _ _) _) fun _ => .done _

section

variable {settings : UploadSettings}

/-- Reading an object changes nothing. -/
theorem readObject_onlyDeletes (bucket key versionId : Str) (maxBytes : Int) :
    OnlyDeletes (S3UploadGateway.readObject bucket key versionId maxBytes) := by
  refine .bind (.request (fun s => le_refl s) _) fun content => ?_
  unfold boundedContent
  split
  · exact .done _
  · exact .done _

/-- The check of the content deletes at most a version. -/
theorem verifyContent_onlyDeletes (now : Datetime) (u : BatchUpload) (stored : StoredS3Object)
    (versionId : Str) (content : List UInt8) :
    OnlyDeletes (verifyContent settings now u stored versionId content) := by
  unfold verifyContent
  split
  · exact rejectObject_onlyDeletes _ _ _ _
  · split
    · exact .done _
    · exact rejectObject_onlyDeletes _ _ _ _
    · exact .done _

/-- The check of a stored object deletes at most its version. -/
theorem verifyStored_onlyDeletes (batch : ReportUploadBatch) (now : Datetime) (u : BatchUpload)
    (stored : StoredS3Object) : OnlyDeletes (verifyStored settings batch now u stored) := by
  unfold verifyStored
  split
  · exact .done _
  · split
    · exact rejectObject_onlyDeletes _ _ _ _
    · refine .bind (readObject_onlyDeletes _ _ _ _) fun content => ?_
      cases content with
      | none => exact .done _
      | some content => exact verifyContent_onlyDeletes _ _ _ _ _

/-- The check of an upload deletes at most its version. -/
theorem verifyPendingUpload_onlyDeletes (batch : ReportUploadBatch) (now : Datetime)
    (u : BatchUpload) : OnlyDeletes (verifyPendingUpload settings batch now u) := by
  refine .bind (.request (fun s => le_refl s) _) fun stored => ?_
  cases stored with
  | none => exact .done _
  | some stored => exact verifyStored_onlyDeletes _ _ _ _

/-- The checks of all uploads only delete. -/
theorem verifyUploads_onlyDeletes (batch : ReportUploadBatch) (now : Datetime)
    (uploads : List BatchUpload) : OnlyDeletes (verifyUploads settings batch now uploads) := by
  induction uploads with
  | nil => exact .done _
  | cons u uploads ih =>
    refine .bind ?_ fun verified => .bind ih fun rest => .done _
    unfold verifyUpload
    split
    · exact verifyPendingUpload_onlyDeletes batch now u
    · exact .done _

/-- **A completion only deletes.** -/
theorem completeBatch_onlyDeletes (db : UploadDatabase) (scope batchId : Uuid) (now : Datetime)
    (draws : Uuid → JobDraws) :
    OnlyDeletes (db.completeBatch settings scope batchId now draws) := by
  unfold UploadDatabase.completeBatch
  split
  · exact .done _
  · next batch _ =>
    refine .bind (.done _) fun _ => .bind ?_ fun _ => .done _
    unfold verifyBatch
    split
    · exact .bind (.done _) fun _ => .bind (.done _) fun _ =>
        .bind (.request (fun s => le_refl s) _) fun _ =>
          .bind (verifyUploads_onlyDeletes _ _ _) fun _ => .done _
    · exact .done _

-- ---------------------------------------------------------------------------
-- The first deletion
-- ---------------------------------------------------------------------------

/-- What the inspection of an upload comes to: it is over after some calls, it raises, or it
deletes the object after some calls. -/
inductive Inspection
  | passes (calls : Nat)
  | raises
  | deletes (calls : Nat)

/-- An inspection after one call more. -/
def Inspection.later : Inspection → Inspection
  | .passes calls => .passes (calls + 1)
  | .raises => .raises
  | .deletes calls => .deletes (calls + 1)

/-- The inspection of a content that has been read. -/
def inspectContent (settings : UploadSettings) (u : BatchUpload) (version : ObjectVersion) :
    Inspection :=
  if (version.content.length : Int) ≠ version.contentLength then .deletes 0
  else match settings.validateReportContent u.fileExtension version.content with
    | .error _ => .raises
    | .ok (.error _) => .deletes 0
    | .ok (.ok ()) => .passes 0

/-- The inspection of an object that is there; too long a content is not read to its end. -/
def inspectStored (settings : UploadSettings) (u : BatchUpload) (version : ObjectVersion) :
    Inspection :=
  if immutableVersion version.toStoredS3Object = none then .raises
  else if (objectRejectionCode u version.toStoredS3Object).isSome = true then .deletes 0
  else if u.expectedSizeBytes < version.content.length then .raises
  else (inspectContent settings u version).later

/-- The inspection of a pending upload, by the current version of its object. -/
def inspect (settings : UploadSettings) (store : ObjectStore) (u : BatchUpload) : Inspection :=
  match store.current u.storageBucket u.storageKey with
  | none => .passes 1
  | some version => (inspectStored settings u version).later

/-- The number of storage calls before the first deletion among some uploads. -/
def deletionAt (settings : UploadSettings) (store : ObjectStore) : List BatchUpload → Option Nat
  | [] => none
  | u :: uploads =>
    if u.status = .pending then
      match inspect settings store u with
      | .passes calls => (deletionAt settings store uploads).map (· + calls)
      | .raises => none
      | .deletes calls => some calls
    else deletionAt settings store uploads

/-- The number of storage calls before the first deletion when a batch is completed. -/
def UploadState.deletion (settings : UploadSettings) (scope batchId : Uuid) (s : UploadState) :
    Option Nat :=
  match s.db.lockedBatch scope batchId with
  | none => none
  | some batch =>
    let uploads := s.db.batchUploads scope batchId
    if (uploads.length : Int) = batch.fileCount ∧ batch.status = .pending ∧
        ∃ bucket ∈ settings.storageConfiguration.toOption,
          uploads.all (·.storageBucket == bucket) = true then
      (deletionAt settings s.store uploads).map (· + 1)
    else none

/-- The deletion of a version that is there changes the store. -/
theorem ObjectStore.delete_ne {s : ObjectStore} {bucket key versionId : Str}
    {version : ObjectVersion} (hCurrent : s.current bucket key = some version)
    (hVersion : version.versionId = some versionId) : s.delete bucket key versionId ≠ s := by
  intro hSame
  have hMem : version ∈ s.versions bucket key := List.mem_of_mem_head? hCurrent
  rw [← hSame] at hMem
  have hKept : version ∈ (s.versions bucket key).filter fun v => v.versionId != some versionId := by
    have hList : (s.delete bucket key versionId).versions bucket key =
        (s.versions bucket key).filter fun v => v.versionId != some versionId :=
      if_pos ⟨rfl, rfl⟩
    rwa [hList] at hMem
  have hOther := (List.mem_filter.mp hKept).2
  rw [hVersion, bne_self_eq_false] at hOther
  exact Bool.noConfusion hOther

/-- The current version is read under its number. -/
theorem ObjectStore.version?_current {s : ObjectStore} {bucket key versionId : Str}
    {version : ObjectVersion} (hCurrent : s.current bucket key = some version)
    (hVersion : version.versionId = some versionId) :
    s.version? bucket key versionId = some version := by
  obtain ⟨rest, hList⟩ := List.head?_eq_some_iff.mp hCurrent
  unfold ObjectStore.version?
  rw [hList, List.find?_cons_of_pos]
  rw [hVersion, beq_self_eq_true]

/-- The first call of a rejection is the deletion. -/
theorem rejectObject_firstChange {s : ObjectStore} {u : BatchUpload} {versionId : Str}
    {version : ObjectVersion} (hCurrent : s.current u.storageBucket u.storageKey = some version)
    (hVersion : version.versionId = some versionId) (code : Str) (now : Datetime) :
    (rejectObject u versionId code now).firstChange s = some 0 := by
  show (Program.call _ (fun s => s.delete u.storageBucket u.storageKey versionId) _).firstChange
    s = some 0
  rw [firstChange, if_neg (ObjectStore.delete_ne hCurrent hVersion)]

/-- A program does to a store what an inspection says. -/
def Inspection.Describes {α : Type} (p : StorageProgram α) (s : ObjectStore) : Inspection → Prop
  | .passes calls =>
    p.firstChange s = none ∧ p.calls s = calls ∧ ∃ a, (p.run s []).1 = .ok a
  | .raises => p.firstChange s = none ∧ ∃ e, (p.run s []).1 = .error e
  | .deletes calls => p.firstChange s = some calls

/-- A call that reads moves what follows by one. -/
theorem Inspection.Describes.read {α : Type} {error : CompleteBatchError}
    {next : ObjectStore → StorageProgram α} {s : ObjectStore} {i : Inspection}
    (h : i.Describes (next s) s) : i.later.Describes (.call error id next) s := by
  cases i with
  | passes calls =>
    obtain ⟨hQuiet, hCalls, a, hRun⟩ := h
    refine ⟨?_, congrArg (· + 1) hCalls, a, hRun⟩
    rw [firstChange_read, hQuiet]
    rfl
  | raises =>
    obtain ⟨hQuiet, e, hRun⟩ := h
    refine ⟨?_, e, hRun⟩
    rw [firstChange_read, hQuiet]
    rfl
  | deletes calls =>
    show (Program.call error id next).firstChange s = some (calls + 1)
    rw [firstChange_read, show (next s).firstChange s = some calls from h]
    rfl

variable {s : ObjectStore} {u : BatchUpload} {versionId : Str} {version : ObjectVersion}

/-- The check of the content deletes at once, or not at all. -/
theorem verifyContent_describes
    (hCurrent : s.current u.storageBucket u.storageKey = some version)
    (hVersion : version.versionId = some versionId) (now : Datetime) :
    (inspectContent settings u version).Describes
      (verifyContent settings now u version.toStoredS3Object versionId version.content) s := by
  unfold inspectContent verifyContent
  split
  · exact rejectObject_firstChange hCurrent hVersion _ now
  · cases settings.validateReportContent u.fileExtension version.content with
    | error e => exact ⟨rfl, e, rfl⟩
    | ok verdict =>
      cases verdict with
      | error e => exact rejectObject_firstChange hCurrent hVersion e.code now
      | ok _ => exact ⟨rfl, rfl, _, rfl⟩

theorem immutableVersion_eq_some {stored : StoredS3Object}
    (h : immutableVersion stored = some versionId) : stored.versionId = some versionId :=
  (Option.filter_eq_some_iff.mp h).1

/-- The reading of a current version, and what the program does with its content. -/
theorem readObject_describes {bucket key : Str} {maxBytes : Int} {i : Inspection}
    (hCurrent : s.current bucket key = some version)
    (hVersion : version.versionId = some versionId)
    {f : Option (List UInt8) → StorageProgram BatchUpload}
    (h : i.Describes (f (some version.content)) s) :
    (if maxBytes < version.content.length then Inspection.raises else i.later).Describes
      (S3UploadGateway.readObject bucket key versionId maxBytes >>= f) s := by
  -- the version that is read is the current one
  have hContent : (s.version? bucket key versionId).map ObjectVersion.content =
      some version.content := by
    rw [ObjectStore.version?_current hCurrent hVersion]
    rfl
  have hRead : ∀ i : Inspection,
      i.Describes (boundedContent maxBytes ((s.version? bucket key versionId).map
        ObjectVersion.content) >>= f) s →
      i.later.Describes (S3UploadGateway.readObject bucket key versionId maxBytes >>= f) s :=
    fun i h => .read h
  rw [hContent, boundedContent, Option.any_some] at hRead
  split
  · next hLong =>
    rw [if_pos (decide_eq_true hLong)] at hRead
    -- content beyond the limit raises
    exact hRead .raises ⟨rfl, _, rfl⟩
  · next hLong =>
    rw [if_neg fun hTrue => hLong (of_decide_eq_true hTrue)] at hRead
    exact hRead i h

/-- The check of a stored object, as far as to its deletion. -/
theorem verifyStored_describes (batch : ReportUploadBatch) (now : Datetime)
    (hCurrent : s.current u.storageBucket u.storageKey = some version) :
    (inspectStored settings u version).Describes
      (verifyStored settings batch now u version.toStoredS3Object) s := by
  unfold inspectStored verifyStored
  cases hImmutable : immutableVersion version.toStoredS3Object with
  | none => exact ⟨rfl, _, rfl⟩
  | some versionId =>
    have hVersion : version.versionId = some versionId := immutableVersion_eq_some hImmutable
    rw [if_neg (Option.some_ne_none versionId)]
    cases objectRejectionCode u version.toStoredS3Object with
    | some code => exact rejectObject_firstChange hCurrent hVersion code now
    | none =>
      rw [if_neg (by simp)]
      exact readObject_describes hCurrent hVersion (verifyContent_describes hCurrent hVersion now)

/-- **One upload.** Its verification does what the inspection of its object says. -/
theorem verifyPendingUpload_describes (batch : ReportUploadBatch) (now : Datetime)
    (u : BatchUpload) (s : ObjectStore) :
    (inspect settings s u).Describes (verifyPendingUpload settings batch now u) s := by
  unfold inspect
  -- the head is a call that only reads
  cases hCurrent : s.current u.storageBucket u.storageKey with
  | none =>
    refine @Inspection.Describes.read _ _ _ s (.passes 0) ?_
    simp only [hCurrent]
    exact ⟨rfl, rfl, _, rfl⟩
  | some version =>
    refine .read ?_
    simp only [hCurrent]
    exact verifyStored_describes batch now hCurrent

/-- **The loop.** It deletes an object for the first time where its uploads say so. -/
theorem verifyUploads_firstChange (batch : ReportUploadBatch) (now : Datetime)
    (s : ObjectStore) (uploads : List BatchUpload) :
    (verifyUploads settings batch now uploads).firstChange s = deletionAt settings s uploads := by
  induction uploads with
  | nil => rfl
  | cons u uploads ih =>
    -- what follows the verification of one upload
    have hRest : ∀ v : BatchUpload,
        (verifyUploads settings batch now uploads >>= fun rest =>
          (pure (v :: rest) : StorageProgram (List BatchUpload))).firstChange s =
          deletionAt settings s uploads := by
      intro v
      rw [← ih]
      exact firstChange_bind_done _ s fun rest => .ok (v :: rest)
    unfold verifyUploads deletionAt verifyUpload
    split
    · have hUpload := @verifyPendingUpload_describes settings batch now u s
      cases hInspect : inspect settings s u with
      | passes calls =>
        rw [hInspect] at hUpload
        obtain ⟨hQuiet, hCalls, v, hRun⟩ := hUpload
        rw [firstChange_bind hQuiet hRun, hRest v, hCalls]
      | raises =>
        rw [hInspect] at hUpload
        obtain ⟨hQuiet, e, hRun⟩ := hUpload
        exact firstChange_bind_of_error hQuiet hRun _
      | deletes calls =>
        rw [hInspect] at hUpload
        exact firstChange_bind_of_some hUpload _
    · exact hRest u

/-- The verification of a batch that is pending: one call for the bucket, and the loop. -/
theorem verifyPendingBatch_firstChange (s : ObjectStore) (batch : ReportUploadBatch)
    (uploads : List BatchUpload) (now : Datetime) :
    (verifyPendingBatch settings batch uploads now).firstChange s =
      if ∃ bucket ∈ settings.storageConfiguration.toOption,
          uploads.all (·.storageBucket == bucket) = true then
        (deletionAt settings s uploads).map (· + 1)
      else none := by
  unfold verifyPendingBatch
  cases settings.storageConfiguration with
  | error e =>
    rw [if_neg]
    · rfl
    · rintro ⟨bucket, hBucket, -⟩
      exact Option.not_mem_none bucket hBucket
  | ok bucket =>
    rw [monadLift_eq, done_ok_bind, monadLift_eq]
    by_cases hBuckets : uploads.all (·.storageBucket == bucket) = true
    · rw [ensure_pos hBuckets, done_ok_bind, if_pos ⟨bucket, rfl, hBuckets⟩]
      -- one call before the uploads, which reads whether the bucket keeps versions
      refine (firstChange_read _ _ s).trans (congrArg _ ?_)
      rw [← @verifyUploads_firstChange settings batch now s uploads]
      exact firstChange_bind_done _ s _
    · rw [ensure_neg hBuckets, done_error_bind, if_neg]
      · rfl
      · rintro ⟨other, hOther, hAll⟩
        obtain rfl := Option.some.inj hOther
        exact hBuckets hAll

/-- **A call** deletes an object for the first time where the state says so. -/
theorem completeBatch_firstChange (s : UploadState) (scope batchId : Uuid) (now : Datetime)
    (draws : Uuid → JobDraws) :
    (s.db.completeBatch settings scope batchId now draws).firstChange s.store =
      s.deletion settings scope batchId := by
  unfold UploadDatabase.completeBatch UploadState.deletion
  cases s.db.lockedBatch scope batchId with
  | none => rfl
  | some batch =>
    simp only
    by_cases hCount : ((s.db.batchUploads scope batchId).length : Int) = batch.fileCount
    · rw [monadLift_eq, ensure_pos hCount, done_ok_bind]
      refine (firstChange_bind_done _ _ _).trans ?_
      unfold verifyBatch
      by_cases hPending : batch.status = .pending
      · rw [if_pos hPending, verifyPendingBatch_firstChange]
        simp only [hCount, hPending, true_and]
      · rw [if_neg hPending, if_neg fun h => hPending h.2.1]
        rfl
    · rw [monadLift_eq, ensure_neg hCount, done_error_bind, if_neg fun h => hCount h.1]
      rfl

end

-- ---------------------------------------------------------------------------
-- Failed calls
-- ---------------------------------------------------------------------------

namespace UploadState

variable (settings : UploadSettings) (scope batchId : Uuid)

/-- A call raises a storage error. -/
def Raises (s : UploadState) (c : CompleteCall) : Prop :=
  ∃ error, (s.ran settings scope batchId c).1 = .error (.storage error)

instance (s : UploadState) (c : CompleteCall) : Decidable (s.Raises settings scope batchId c) :=
  match h : (s.ran settings scope batchId c).1 with
  | .error (.storage error) => isTrue ⟨error, h⟩
  | .error .disabled | .error .conflict | .error .value | .error (.processing _)
  | .error .integrity | .ok _ => isFalse (by rintro ⟨error, hError⟩; simp [h] at hError)

/-- Calls that raise storage errors, one after another. -/
def AllRaise : UploadState → List CompleteCall → Prop
  | _, [] => True
  | s, c :: cs => s.Raises settings scope batchId c ∧
      AllRaise (s.complete settings scope batchId c) cs

/-- Every call leaves the rows and the objects as they were before it. -/
def AllLeave : UploadState → List CompleteCall → Prop
  | _, [] => True
  | s, c :: cs => s.complete settings scope batchId c = s ∧
      AllLeave (s.complete settings scope batchId c) cs

/-- The state after some calls. -/
def completeAll (s : UploadState) (cs : List CompleteCall) : UploadState :=
  cs.foldl (complete settings scope batchId) s

/-- Failed calls leave no trace: neither in the rows and the objects, nor in the verdicts of a
call without failures. -/
def Insensitive (s : UploadState) (failed : List CompleteCall) : Prop :=
  AllLeave settings scope batchId s failed ∧
    ∀ last : CompleteCall, (∀ fate ∈ last.fates, fate = .answered) →
      ((s.completeAll settings scope batchId failed).complete settings scope batchId last).verdicts
          scope batchId =
        (s.complete settings scope batchId last).verdicts scope batchId

/-- The error comes before a deletion: no more storage calls are carried out than come before
the first one. -/
def ErrsBeforeDeletion (s : UploadState) (fates : List Fate) : Prop :=
  ∀ k, s.deletion settings scope batchId = some k → ∃ j, carriedOut fates = some j ∧ j ≤ k

/-- A call within the validity of the batch. -/
def InTime (s : UploadState) (c : CompleteCall) : Prop :=
  ∀ batch, s.db.lockedBatch scope batchId = some batch → c.now < batch.expiresAt

variable {settings scope batchId} {s : UploadState}

/-- **One failed call** leaves everything as it was exactly when its error comes early enough. -/
theorem complete_eq_iff {c : CompleteCall} (h : s.Raises settings scope batchId c) :
    s.complete settings scope batchId c = s ↔
      s.ErrsBeforeDeletion settings scope batchId c.fates := by
  obtain ⟨error, hError⟩ := h
  have hOnly := @completeBatch_onlyDeletes settings s.db scope batchId c.now c.draws
  have hStore := store_eq_iff hOnly.decreasing s.store c.fates
  rw [completeBatch_firstChange] at hStore
  unfold ErrsBeforeDeletion
  rw [← hStore]
  have hRows : (s.complete settings scope batchId c).db = s.db := by
    show commit s.db (s.ran settings scope batchId c).1 = s.db
    rw [hError, commit_error]
  constructor
  · intro hSame
    exact congrArg UploadState.store hSame
  · intro hObjects
    show (⟨(s.complete settings scope batchId c).db, _⟩ : UploadState) = ⟨s.db, s.store⟩
    rw [hRows]
    exact congrArg (UploadState.mk s.db) hObjects

/-- Calls that leave everything as it was. -/
theorem completeAll_of_allLeave {cs : List CompleteCall}
    (h : AllLeave settings scope batchId s cs) : s.completeAll settings scope batchId cs = s := by
  induction cs with
  | nil => rfl
  | cons c cs ih =>
    obtain ⟨hSame, hRest⟩ := h
    rw [hSame] at hRest
    show completeAll settings scope batchId (s.complete settings scope batchId c) cs = s
    rw [hSame]
    exact ih hRest

/-- Failed calls, one after another. -/
theorem allLeave_iff {failed : List CompleteCall}
    (h : AllRaise settings scope batchId s failed) :
    AllLeave settings scope batchId s failed ↔
      ∀ c ∈ failed, s.ErrsBeforeDeletion settings scope batchId c.fates := by
  induction failed with
  | nil => exact iff_of_true trivial fun c hc => absurd hc List.not_mem_nil
  | cons c failed ih =>
    obtain ⟨hRaises, hRest⟩ := h
    rw [List.forall_mem_cons, ← complete_eq_iff hRaises]
    refine and_congr_right fun hSame => ?_
    rw [hSame] at hRest ⊢
    exact ih hRest

/-- Failed calls do not matter exactly when each of them fails before the deletion. -/
theorem insensitive_iff {failed : List CompleteCall}
    (h : AllRaise settings scope batchId s failed) :
    s.Insensitive settings scope batchId failed ↔
      ∀ c ∈ failed, s.ErrsBeforeDeletion settings scope batchId c.fates := by
  rw [← allLeave_iff h]
  refine ⟨fun hInsensitive => hInsensitive.1, fun hLeave => ⟨hLeave, fun last _ => ?_⟩⟩
  rw [completeAll_of_allLeave hLeave]

/-- A call within the validity whose first deletion loses its answer. -/
theorem exists_lost_deletion {k : Nat} (h : s.deletion settings scope batchId = some k) :
    ∃ c : CompleteCall, s.InTime scope batchId c ∧ s.Raises settings scope batchId c ∧
      ¬s.ErrsBeforeDeletion settings scope batchId c.fates := by
  obtain ⟨batch, hBatch⟩ : ∃ batch, s.db.lockedBatch scope batchId = some batch := by
    rw [← Option.ne_none_iff_exists']
    intro hNone
    unfold deletion at h
    rw [hNone] at h
    exact absurd h.symm (Option.some_ne_none k)
  -- a call in time that is answered up to the deletion, whose answer is lost
  let c : CompleteCall :=
    { now := batch.expiresAt - 1
      draws := fun _ => ⟨0, 0, 0⟩
      fates := List.replicate k .answered ++ [.lost] }
  have hOnly := @completeBatch_onlyDeletes settings s.db scope batchId c.now c.draws
  have hChange := @completeBatch_firstChange settings s scope batchId c.now c.draws
  obtain ⟨e, ⟨error, rfl⟩, hRun⟩ := run_lost hOnly.errors (hChange.trans h)
  refine ⟨c, fun other hOther => ?_, ⟨error, hRun⟩, fun hEarly => ?_⟩
  · obtain rfl := Option.some.inj (hOther.symm.trans hBatch)
    exact Int.sub_one_lt_of_le (le_refl other.expiresAt)
  · obtain ⟨j, hj, hle⟩ := hEarly k h
    have hLost : j = k + 1 := Option.some.inj (hj.symm.trans (carriedOut_lost k))
    omega

end UploadState

open UploadState in
/-- **Completion and storage failures.** Failed calls leave the rows, the objects and the verdicts
of a later call as if they had not happened exactly when the error of each comes before the first
deletion of a rejected object; and all failed calls within the validity of a batch do so exactly
when no object would be deleted. -/
theorem completion_insensitive_iff (settings : UploadSettings) (scope batchId : Uuid)
    (s : UploadState) :
    (∀ failed, AllRaise settings scope batchId s failed →
      (s.Insensitive settings scope batchId failed ↔
        ∀ c ∈ failed, s.ErrsBeforeDeletion settings scope batchId c.fates)) ∧
    ((∀ failed, AllRaise settings scope batchId s failed →
        (∀ c ∈ failed, s.InTime scope batchId c) → s.Insensitive settings scope batchId failed) ↔
      s.deletion settings scope batchId = none) := by
  refine ⟨fun failed h => insensitive_iff h, fun hAll => ?_, fun hNone failed h _ => ?_⟩
  · by_contra hSome
    obtain ⟨k, hk⟩ := Option.ne_none_iff_exists'.mp hSome
    obtain ⟨c, hTime, hRaises, hLate⟩ := exists_lost_deletion hk
    have hOnly : AllRaise settings scope batchId s [c] := ⟨hRaises, trivial⟩
    have hInsensitive := hAll [c] hOnly (List.forall_mem_singleton.mpr hTime)
    exact hLate ((insensitive_iff hOnly).mp hInsensitive c List.mem_cons_self)
  · refine (insensitive_iff h).mpr fun c _ k hk => ?_
    exact absurd (hk.symm.trans hNone) (Option.some_ne_none k)

-- ---------------------------------------------------------------------------
-- A batch of two uploads
-- ---------------------------------------------------------------------------

namespace CompletionSample

def settings : UploadSettings where
  s3UploadsEnabled := true
  s3UploadBucket := some (str "uploads")
  awsRegion := some (str "us-east-1")
  validateXlsContent _ := .error ⟨str "xls_structure_rejected"⟩
  validateXlsxContent _ := .error ⟨str "xlsx_structure_rejected"⟩

def batch : ReportUploadBatch where
  id := 10
  businessId := 1
  createdAt := 0
  createdByUserId := 1
  fileCount := 2
  expiresAt := minutes 10

/-- The uploads of files of two bytes each. -/
def upload (position : Nat) : BatchUpload where
  id := position
  businessId := 1
  storageBucket := str "uploads"
  storageKey := str "reports/" ++ natText position
  originalFilename := str "sales.csv"
  fileExtension := str "csv"
  contentType := str "text/csv"
  batchId := 10
  batchPosition := position
  expectedSizeBytes := 2
  expiresAt := minutes 10

def version (u : BatchUpload) (content : List UInt8) : ObjectVersion where
  contentLength := content.length
  contentType := some u.contentType
  cacheControl := some s3CacheControl
  serverSideEncryption := some s3EncryptionAlgorithm
  metadata := expectedMetadata u
  etag := some (str "etag")
  versionId := some (str "v1")
  lastModified := some ⟨minutes 1, true⟩
  content := content

/-- Two stored files, of which the first has some content. -/
def stateWith (content : List UInt8) : UploadState where
  db :=
    { batches := .single batch (by decide)
      uploads :=
        { rows := [upload 0, upload 1]
          apart := List.pairwise_pair.mpr ⟨by decide, by decide⟩
          checked := by decide } }
  store :=
    { versions := fun _ key =>
        if key = (upload 0).storageKey then [version (upload 0) content]
        else if key = (upload 1).storageKey then [version (upload 1) (bytes "a\n")]
        else [] }

/-- The first file begins like an executable. -/
def state : UploadState := stateWith (bytes "MZ")

/-- Nothing is wrong with the files. -/
def cleanState : UploadState := stateWith (bytes "b\n")

/-- A call a minute after the uploads. -/
def callWith (fates : List Fate) : CompleteCall where
  now := minutes 2
  draws := fun id => ⟨id, minutes 2, minutes 2⟩
  fates := fates

end CompletionSample

open UploadState CompletionSample

/-- Calls that fail while the file that is rejected is read; and one that fails at the second file
where nothing is rejected. -/
theorem completion_insensitive_sample :
    state.Insensitive settings 1 10
        [callWith [.answered, .answered, .refused], callWith [.answered, .answered, .lost]] ∧
      cleanState.Insensitive settings 1 10
        [callWith [.answered, .answered, .answered, .refused]] := by
  have hDeletion : state.deletion settings 1 10 = some 3 ∧
      cleanState.deletion settings 1 10 = none := by
    decide +kernel
  constructor
  · refine ((completion_insensitive_iff settings 1 10 state).1
      [callWith [.answered, .answered, .refused], callWith [.answered, .answered, .lost]]
      ⟨by decide +kernel, by decide +kernel, trivial⟩).mpr fun c hc k hk => ?_
    obtain rfl := Option.some.inj (hDeletion.1.symm.trans hk)
    -- both calls fail at the third storage call, and the deletion would be the fourth
    rcases List.mem_cons.mp hc with rfl | hc
    · exact ⟨2, rfl, by decide⟩
    · obtain rfl := List.mem_singleton.mp hc
      exact ⟨3, rfl, by decide⟩
  · refine (completion_insensitive_iff settings 1 10 cleanState).2.mpr hDeletion.2
      [callWith [.answered, .answered, .answered, .refused]] ⟨by decide +kernel, trivial⟩
      fun c hc other hOther => ?_
    obtain rfl := List.mem_singleton.mp hc
    obtain rfl := Option.some.inj (show some batch = some other from hOther)
    decide

/-- **A rejected object that is forgotten.** The first object is rejected and deleted, and the
inspection of the second one fails: the next call finds the first object missing, where a call
without the failure rejects it for its content. -/
theorem rejected_object_forgotten :
    let brokenOff := callWith [.answered, .answered, .answered, .answered, .refused]
    AllRaise settings 1 10 state [brokenOff] ∧ state.InTime 1 10 brokenOff ∧
      ((state.completeAll settings 1 10 [brokenOff]).complete settings 1 10 (callWith [])).verdicts
          1 10 = [(0, .pending, none), (1, .uploaded, none)] ∧
      (state.complete settings 1 10 (callWith [])).verdicts 1 10 =
        [(0, .rejected, some (str "content_signature_mismatch")), (1, .uploaded, none)] ∧
      ¬state.Insensitive settings 1 10 [brokenOff] := by
  intro brokenOff
  -- the version is gone, so the later call leaves the file pending
  have hAfter : ((state.completeAll settings 1 10 [brokenOff]).complete settings 1 10
      (callWith [])).verdicts 1 10 = [(0, .pending, none), (1, .uploaded, none)] := by
    decide +kernel
  have hAtOnce : (state.complete settings 1 10 (callWith [])).verdicts 1 10 =
      [(0, .rejected, some (str "content_signature_mismatch")), (1, .uploaded, none)] := by
    decide +kernel
  refine ⟨⟨by decide +kernel, trivial⟩, ?_, hAfter, hAtOnce, fun hInsensitive => ?_⟩
  · intro other hOther
    obtain rfl := Option.some.inj (show some batch = some other from hOther)
    decide
  · have hSame := hInsensitive.2 (callWith []) (fun fate hFate => absurd hFate List.not_mem_nil)
    rw [hAfter, hAtOnce] at hSame
    exact absurd hSame (by decide)

end SpikeBackend
