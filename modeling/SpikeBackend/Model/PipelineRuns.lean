import SpikeBackend.Model.ReportArtifacts

/-!
# Runs of the processing pipeline

Jobs, workers and the object storage together. The transactions of the service, the storage calls
of any number of workers, and the puts and removals of others come in any order; a worker can stop
between two calls and never go on.
-/

namespace SpikeBackend

open Relational Text Outcome Remote

/-- A worker that processes its report: what is left of `process`. -/
structure ProcessorRun where
  storagePrefix : Str
  program : ProcessorProgram StoredArtifacts

structure PipelineState where
  jobs : ProcessingState
  storage : Storage
  /-- by the token of the worker -/
  running : Uuid → Option ProcessorRun := fun _ => none

inductive PipelineAction
  /-- a transaction of the service; how a processing goes is not for it to say -/
  | transact (action : ProcessingAction)
  /-- the worker with the token starts to process its report -/
  | start (token : Uuid) (settings : ProcessorSettings) (recentlyChecked : Bool)
  /-- its next call of the storage -/
  | call (token : Uuid) (fate : Fate)
  /-- an exception that `process` does not expect -/
  | crash (token : Uuid)
  /-- `process` has returned or raised -/
  | conclude (token : Uuid)
  /-- anybody puts an object -/
  | put (bucket key : Str) (object : PutObject)
  /-- `_reject_object` removes a version of the file of an upload -/
  | reject (storagePrefix : Str) (businessId batchId uploadId : Uuid) (extension : Str)
      (bucket versionId : Str)
  | configure (bucket : Str) (secure : Bool)

/-- The extensions of uploads. -/
def reportUploadExtensions : List Str := [str "csv", str "xls", str "xlsx"]

def ProcessingAction.isProcess : ProcessingAction → Bool
  | .process .. => true
  | _ => false

namespace PipelineState

variable (art : ArtifactLibrary) (books : WorkbookLibrary) (service : ObjectService)
  (s : PipelineState)

/-- What is left of the processing of a token. -/
def goOn (token : Uuid) (storagePrefix : Str) (program : ProcessorProgram StoredArtifacts) :
    Uuid → Option ProcessorRun :=
  Function.update s.running token (some ⟨storagePrefix, program⟩)

def step : PipelineAction → PipelineState
  | .transact action => if action.isProcess then s else { s with jobs := s.jobs.step action }
  | .start token settings recentlyChecked =>
    match s.jobs.worker token, s.running token with
    | some w, none =>
      { s with
        running := s.goOn token settings.s3UploadPrefix
          (processReport art books service settings recentlyChecked w.claim) }
    | _, _ => s
  | .call token fate =>
    match s.running token with
    | none => s
    | some r =>
      { s with
        storage := (r.program.advance s.storage fate).2
        running := s.goOn token r.storagePrefix (r.program.advance s.storage fate).1 }
  | .crash token =>
    match s.running token with
    | none => s
    | some r =>
      if r.program.outcome?.isSome then s
      else { s with running := s.goOn token r.storagePrefix (.done (.error .unexpected)) }
  | .conclude token =>
    match s.running token with
    | none => s
    | some r =>
      match r.program.outcome? with
      | none => s
      | some outcome =>
        { s with jobs := s.jobs.step (.process token (taskOutcome r.storagePrefix outcome)) }
  | .put bucket key object => { s with storage := s.storage.put service bucket key object }
  | .reject storagePrefix businessId batchId uploadId extension bucket versionId =>
    if extension ∈ reportUploadExtensions then
      { s with
        storage := s.storage.delete bucket
          (uploadKey storagePrefix businessId batchId uploadId extension) versionId }
    else s
  | .configure bucket secure =>
    { s with
      storage := { s.storage with secure := Function.update s.storage.secure bucket secure } }

/-- The start: uploads, jobs and what the storage holds. -/
def init (uploads : Table ReportUpload) (jobs : Table ReportProcessingJob) (storage : Storage) :
    PipelineState where
  jobs := .init uploads jobs
  storage := storage

end PipelineState

end SpikeBackend
