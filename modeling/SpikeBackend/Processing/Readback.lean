import SpikeBackend.Processing.Pipeline
import SpikeBackend.Reports.LineLimit

/-!
# Completed jobs are read back

`_read_source_artifact` over the storage that the pipeline leaves: what it returns of a completed
job is the parse of the job's own source.

* `readSourceArtifact_eq_ok` — output columns that lead to a parse are read back;
* `completed_jobs_read_back` — so every completed job of every run is.
-/

namespace SpikeBackend

open Relational Text Outcome Remote

/-- A report whose artifacts the reader understands: the sheets, the file and its type have names,
no record is longer than a line may be, and JSON is read back as it was written. -/
structure ReadableReport (art : ArtifactLibrary) (books : WorkbookLibrary)
    (context : ReportParsingContext) (content : List UInt8) (parsed : ParsedReportArtifacts) :
    Prop where
  titles : ∀ title ∈ sheetTitles books context content, title ≠ []
  filename : strip context.originalFilename ≠ []
  contentType : strip context.contentType ≠ []
  short : RecordsShort art.report (reportSheets art.report books context content)
  readsBack : ∀ normalizer,
    normalizeReport art.report art.gzip books context content = .ok normalizer →
      ReadsBack art
        (Json.obj (reportProfile context normalizer (art.sha256 parsed.normalizedContent))).sortKeys
        ((reportSheets art.report books context content).flatMap ParsedSheet.payloads)

section

variable {art : ArtifactLibrary} {books : WorkbookLibrary} {context : ReportParsingContext}
  {content : List UInt8} {parsed : ParsedReportArtifacts} {job : SourceJob}

/-- What the parser writes. -/
theorem parse_sizes
    (h : parseReportContent art.report art.gzip books art.sha256 context content = .ok parsed) :
    parsed.normalizedContent.length ≤ reportMaxNormalizedBytes ∧
      parsed.profileContent.length ≤ reportMaxProfileBytes ∧ 0 < parsed.sheetCount ∧
      ∃ lines, parsed.normalizedContent = art.gzip.getvalue lines := by
  simp only [parseReportContent, bind_eq_ok, required_eq_ok, ensure_eq_ok] at h
  obtain ⟨normalizer, -, normalizedContent, hFinish, profileContent, -, -, hSize, hDone⟩ := h
  obtain rfl := Except.ok.inj hDone
  simp only [ReportNormalizer.finish, BoundedJsonlWriter.finish, bind_eq_ok, ensure_eq_ok] at hFinish
  obtain ⟨-, hSheets, -, hBound, hContent⟩ := hFinish
  obtain rfl := Except.ok.inj hContent
  exact ⟨hBound, hSize, List.length_pos_iff.mpr hSheets, normalizer.writer.lines, rfl⟩

/-- The reader understands the artifacts of a parse. -/
theorem parse_is_read (lib : StandardLibrary) (ctx : Context)
    (hParse : parseReportContent art.report art.gzip books art.sha256 context content = .ok parsed)
    (hReport : ReadableReport art books context content parsed)
    (hGzip : ∀ lines, art.gzip.read (art.gzip.getvalue lines) = some lines.flatten)
    (hSha : ∀ bytes, isSha256Hex (art.sha256 bytes) = true) (hJob : HoldsParse job context parsed) :
    ∃ profile, validateSourceProfile art job parsed.profileContent = .ok profile ∧
      aggregateNormalized lib ctx art job profile parsed.normalizedContent =
        .ok (aggregateOf lib ctx (reportSheets art.report books context content),
          (sheetEntries (reportSheets art.report books context content)).map fun e =>
            e.row job.id) := by
  simp only [parseReportContent, bind_eq_ok, required_eq_ok, ensure_eq_ok] at hParse
  obtain ⟨normalizer, hNormalize, normalizedContent, hFinish, profileContent, hLine, -, hSize, hDone⟩ :=
    hParse
  obtain rfl := Except.ok.inj hDone
  simp only [ReportNormalizer.finish, BoundedJsonlWriter.finish, bind_eq_ok, ensure_eq_ok] at hFinish
  obtain ⟨-, -, -, -, hContent⟩ := hFinish
  obtain rfl := Except.ok.inj hContent
  have hHolds := normalizeReport_eq_ok hNormalize
  have hOrdered := @reportSheets_ordered art.report books context content
  have hReads := hReport.readsBack normalizer hNormalize
  refine ⟨_, validateSourceProfile_eq_ok hJob hHolds hOrdered hReport.titles hReport.filename
    hReport.contentType (extension_of_normalizeReport hNormalize) (hSha _) hLine hSize rfl rfl
    hReads.profile, ?_⟩
  refine aggregateNormalized_eq_ok hJob hHolds hOrdered hReport.titles rfl rfl hGzip ?_
  intro v hv line hEq
  refine ⟨hReads.payload v hv line hEq, ?_⟩
  -- the line of a record is one of those that were written
  have hWritten : some line ∈ normalizer.writer.lines.map some := by
    rw [hHolds.writer.lines]
    exact List.mem_map.mpr ⟨v, hv, hEq⟩
  obtain ⟨written, hMem, hSame⟩ := List.mem_map.mp hWritten
  rw [← Option.some.inj hSame]
  exact (lines_short_iff hHolds).mpr hReport.short written hMem

-- ---------------------------------------------------------------------------
-- The columns of a job
-- ---------------------------------------------------------------------------

/-- A column with a text that is not blank. -/
theorem requiredJobString_eq_ok {value : Option Str} {text : Str} (hColumn : value = some text)
    (hText : (!(strip text).isEmpty) = true) : requiredJobString value = .ok text := by
  rw [Bool.not_eq_true'] at hText
  rw [hColumn, requiredJobString, required_some, ok_bind, ensure_pos hText]
  rfl

/-- The output columns of a job, as they were validated when it was completed. -/
theorem validateCompletedSource_eq_ok {j : ReportProcessingJob} {o : ReportProcessingOutput}
    (hStatus : j.status = .completed) (hHas : j.HasOutput o) (hValid : validateOutput o = .ok ())
    (hSize : o.normalizedSizeBytes ≤ reportMaxNormalizedCompressedBytes) :
    validateCompletedSource j.signature = .ok () := by
  simp only [validateOutput, bind_eq_ok, ensure_eq_ok, List.all_cons, List.all_nil, Bool.and_true,
    Bool.and_eq_true] at hValid
  -- what the service validated when the job was completed is what the reader of the snapshot checks
  -- again
  obtain ⟨-, ⟨hBucket, hKey, hVersion, hEtag, hPKey, hPVersion, hPEtag⟩, -, -, -, hPositive, hCounts⟩ :=
    hValid
  obtain ⟨cBucket, cKey, cVersion, cEtag, cSize, cPKey, cPVersion, cPEtag, cRecords, cSheets⟩ := hHas
  simp only [validateCompletedSource, bind_eq_ok, ensure_eq_ok]
  refine ⟨(), hStatus, _, requiredJobString_eq_ok cBucket hBucket, _,
    requiredJobString_eq_ok cKey hKey, _, requiredJobString_eq_ok cVersion hVersion, _,
    requiredJobString_eq_ok cEtag hEtag, _, requiredJobString_eq_ok cPKey hPKey, _,
    requiredJobString_eq_ok cPVersion hPVersion, _, requiredJobString_eq_ok cPEtag hPEtag, (), ?_,
    (), ?_, ?_⟩
  · show (j.normalizedSizeBytes.any _) = true
    rw [cSize, Option.any_some, decide_eq_true hPositive, decide_eq_true hSize]
    rfl
  · show (j.recordCount.any _) = true
    rw [cRecords, Option.any_some, decide_eq_true hCounts.1]
  · show (j.sheetCount.any _) = true
    rw [cSheets, Option.any_some, decide_eq_true hCounts.2]

/-- What the storage has under a name is read, within the bound. -/
theorem Storage.readArtifact_eq_ok {s : Storage} {bucket key version : Str} {bytes : List UInt8}
    {maxBytes : Nat}
    (hThere : (s.objects.version? bucket key version).map ObjectVersion.content = some bytes)
    (hBound : bytes.length ≤ maxBytes) : s.readArtifact bucket key version maxBytes = .ok bytes := by
  obtain ⟨v, hFound, rfl⟩ := Option.map_eq_some_iff.mp hThere
  have hFits : ¬ (maxBytes : Int) < v.content.length := by omega
  simp only [readArtifact, readObject, hFound, if_neg hFits]

/-- **Output columns that lead to a parse are read back.** -/
theorem readSourceArtifact_eq_ok (lib : StandardLibrary) (ctx : Context) {s : Storage}
    {j : ReportProcessingJob} {o : ReportProcessingOutput} (hStatus : j.status = .completed)
    (hHas : j.HasOutput o) (hValid : validateOutput o = .ok ())
    {claim : ReportProcessingClaim} (hLeads : j.LeadsTo s parsed)
    (hParse : parseReportContent art.report art.gzip books art.sha256 (j.parsingContext claim)
      content = .ok parsed)
    (hReport : ReadableReport art books (j.parsingContext claim) content parsed)
    (hGzip : ∀ lines, art.gzip.read (art.gzip.getvalue lines) = some lines.flatten)
    (hSha : ∀ bytes, isSha256Hex (art.sha256 bytes) = true) :
    ∃ profile, readSourceArtifact lib ctx (art.reading s) j.source = .ok
      ⟨⟨j.source, profile,
          aggregateOf lib ctx (reportSheets art.report books (j.parsingContext claim) content)⟩,
        (sheetEntries (reportSheets art.report books (j.parsingContext claim) content)).map fun e =>
          e.row j.id⟩ := by
  obtain ⟨hNSize, hPSize, -⟩ := parse_sizes hParse
  have hReading : ReadableReport (art.reading s) books (j.parsingContext claim) content parsed :=
    ⟨hReport.titles, hReport.filename, hReport.contentType, hReport.short,
      fun normalizer hNormalize => ⟨(hReport.readsBack normalizer hNormalize).profile,
        (hReport.readsBack normalizer hNormalize).payload⟩⟩
  have hJob : HoldsParse j.source (j.parsingContext claim) parsed :=
    ⟨rfl, rfl, rfl, hLeads.normalizedSizeBytes, hLeads.recordCount, hLeads.sheetCount⟩
  have hParsed : parseReportContent (art.reading s).report (art.reading s).gzip books
      (art.reading s).sha256 (j.parsingContext claim) content = .ok parsed := hParse
  obtain ⟨profile, hProfile, hAggregate⟩ := parse_is_read lib ctx hParsed hReading hGzip hSha hJob
  have hLength : o.normalizedSizeBytes = parsed.normalizedContent.length :=
    Option.some.inj (hHas.2.2.2.2.1.symm.trans hLeads.normalizedSizeBytes)
  have hLimit : (reportMaxNormalizedBytes : Int) = reportMaxNormalizedCompressedBytes := by decide
  have hCompleted := validateCompletedSource_eq_ok hStatus hHas hValid (by
    rw [hLength, ← hLimit]
    exact Int.ofNat_le.mpr hNSize)
  simp only [validateOutput, bind_eq_ok, ensure_eq_ok, List.all_cons, List.all_nil, Bool.and_true,
    Bool.and_eq_true] at hValid
  obtain ⟨-, ⟨hBucket, hKey, hVersion, -, hPKey, hPVersion, -⟩, -⟩ := hValid
  obtain ⟨cBucket, cKey, cVersion, -, cSize, cPKey, cPVersion, -⟩ := hHas
  -- both artifacts are where the columns say
  obtain ⟨bucket, key, version, hB, hK, hV, hThere⟩ := hLeads.normalized
  obtain ⟨bucket', pKey, pVersion, hB', hPK, hPV, hPThere⟩ := hLeads.profile
  obtain rfl := Option.some.inj (cBucket.symm.trans hB)
  obtain rfl := Option.some.inj (cBucket.symm.trans hB')
  obtain rfl := Option.some.inj (cKey.symm.trans hK)
  obtain rfl := Option.some.inj (cVersion.symm.trans hV)
  obtain rfl := Option.some.inj (cPKey.symm.trans hPK)
  obtain rfl := Option.some.inj (cPVersion.symm.trans hPV)
  refine ⟨profile, ?_⟩
  simp only [readSourceArtifact, bind_eq_ok]
  refine ⟨(), hCompleted, _, requiredJobString_eq_ok cBucket hBucket, _,
    requiredJobString_eq_ok cPKey hPKey, _, requiredJobString_eq_ok cPVersion hPVersion, _,
    requiredJobString_eq_ok cKey hKey, _, requiredJobString_eq_ok cVersion hVersion, _,
    Storage.readArtifact_eq_ok hPThere hPSize, _, Storage.readArtifact_eq_ok hThere ?_, profile,
    hProfile, _, hAggregate, rfl⟩
  show parsed.normalizedContent.length ≤ (j.normalizedSizeBytes.getD 0).toNat
  rw [hLeads.normalizedSizeBytes]
  exact le_refl _

end

-- ---------------------------------------------------------------------------
-- Runs
-- ---------------------------------------------------------------------------

/-- **Completed jobs are read back.** In every run of the pipeline and at every time after a job is
completed, the reader of the snapshots returns of the job the records and the aggregate of the
report that was stored under its source version, if that report is readable at all. -/
theorem completed_jobs_read_back (lib : StandardLibrary) (ctx : Context) (art : ArtifactLibrary)
    (books : WorkbookLibrary) (service : ObjectService)
    (hGzip : ∀ lines, art.gzip.read (art.gzip.getvalue lines) = some lines.flatten)
    (hSha : ∀ bytes, isSha256Hex (art.sha256 bytes) = true)
    (uploads : Table ReportUpload) (jobs : Table ReportProcessingJob)
    (hNew : ∀ j ∈ jobs, j.status = .queued ∧ j.attemptCount = 0) (storage : Storage)
    (hStorage : storage.Kept) (actions : List PipelineAction) :
    let s := Machine.run (PipelineState.step art books service) (.init uploads jobs storage) actions
    ∀ j ∈ s.jobs.db.jobs, j.status = .completed →
      ∃ w content parsed, s.jobs.latestWorker j.id = some w ∧
        s.storage.past.Has w.claim.storageBucket w.claim.storageKey j.sourceStorageVersionId content ∧
        parseReportContent art.report art.gzip books art.sha256 (j.parsingContext w.claim) content =
          .ok parsed ∧
        (ReadableReport art books (j.parsingContext w.claim) content parsed →
          ∃ profile, readSourceArtifact lib ctx (art.reading s.storage) j.source = .ok
            ⟨⟨j.source, profile, aggregateOf lib ctx
                (reportSheets art.report books (j.parsingContext w.claim) content)⟩,
              (sheetEntries (reportSheets art.report books (j.parsingContext w.claim) content)).map
                fun e => e.row j.id⟩) := by
  intro s j hj hStatus
  have hInv : PipelineInvariant art books (Machine.run (PipelineState.step art books service)
      (.init uploads jobs storage) actions) :=
    run_pipelineInvariant service uploads hNew hStorage actions
  -- the stored objects hold the parse that the completing worker made
  obtain ⟨w, content, parsed, hLatest, hSource, hParse, hLeads⟩ := hInv.completed hj hStatus
  obtain ⟨holder, o, -, -, hHas, hDone⟩ := (hInv.jobs.job j hj).output hStatus
  refine ⟨w, content, parsed, hLatest, hSource, hParse, fun hReport => ?_⟩
  -- the output of that worker is among the completions, so it was validated
  have hMem : ⟨j.id, holder.claim.leaseToken, o⟩ ∈ s.jobs.completionsOf j.id := by
    rw [hDone]
    exact List.mem_singleton_self _
  have hValid := hInv.valid _ (List.mem_of_mem_filter hMem)
  exact readSourceArtifact_eq_ok lib ctx hStatus hHas hValid hLeads hParse hReport hGzip hSha

-- ---------------------------------------------------------------------------
-- A sample
-- ---------------------------------------------------------------------------

namespace PipelineSample

open RoundTripSample

/-- What a run does is not up to the JSON that is read back. -/
theorem step_library (profile : Json) (payloads : List Json) (service : ObjectService) :
    PipelineState.step (library profile payloads) workbooks service =
      PipelineState.step (library .null []) workbooks service := by
  funext s a
  cases a <;> rfl

/-- The run is the same under every library, since no step looks at the JSON reader. -/
theorem final_library (profile : Json) (payloads : List Json) :
    final (library profile payloads) = final (library .null []) := by
  rw [final, final, step_library]

/-- The job of a state, its last worker, and the versions of its source are those of the sample. -/
structure IsSample (s : PipelineState) : Prop where
  jobs : (s.jobs.db.jobs.rows.map fun j => (j.status, (j.id, j.businessId, j.reportUploadId))) =
    [(.completed, (1, 2, 3))]
  worker : (s.jobs.latestWorker 1).map (fun w =>
    ((w.claim.originalFilename, w.claim.fileExtension, w.claim.contentType),
      (w.claim.storageBucket, w.claim.storageKey))) =
    some ((context.originalFilename, context.fileExtension, context.contentType),
      (upload.storageBucket, upload.storageKey))
  versions : (s.storage.past.versions upload.storageBucket upload.storageKey).map
    (fun v => v.content) = [content]

theorem final_isSample : IsSample (final (library .null [])) := by
  have hAll :
      ((final (library .null [])).jobs.db.jobs.rows.map fun j =>
        (j.status, (j.id, j.businessId, j.reportUploadId))) = [(.completed, (1, 2, 3))] ∧
      ((final (library .null [])).jobs.latestWorker 1).map (fun w =>
        ((w.claim.originalFilename, w.claim.fileExtension, w.claim.contentType),
          (w.claim.storageBucket, w.claim.storageKey))) =
        some ((context.originalFilename, context.fileExtension, context.contentType),
          (upload.storageBucket, upload.storageKey)) ∧
      ((final (library .null [])).storage.past.versions upload.storageBucket upload.storageKey).map
        (fun v => v.content) = [content] := by
    decide +kernel
  exact ⟨hAll.1, hAll.2.1, hAll.2.2⟩

/-- What the worker of the sample was parsing. -/
theorem IsSample.source {s : PipelineState} (h : IsSample s) {j : ReportProcessingJob} {w : Worker}
    {version : Str} {bytes : List UInt8} (hj : j ∈ s.jobs.db.jobs)
    (hLatest : s.jobs.latestWorker j.id = some w)
    (hSource : s.storage.past.Has w.claim.storageBucket w.claim.storageKey version bytes) :
    j.parsingContext w.claim = context ∧ bytes = content := by
  have hColumns := List.mem_map_of_mem (f := fun j : ReportProcessingJob =>
    -- there is one job, and its columns are known
    (j.status, (j.id, j.businessId, j.reportUploadId))) hj
  rw [h.jobs, List.mem_singleton] at hColumns
  simp only [Prod.mk.injEq] at hColumns
  obtain ⟨-, hId, hBusiness, hUpload⟩ := hColumns
  have hWorker := h.worker
  rw [hId] at hLatest
  rw [hLatest, Option.map_some, Option.some.injEq] at hWorker
  simp only [Prod.mk.injEq] at hWorker
  obtain ⟨⟨hName, hExtension, hType⟩, hBucket, hKey⟩ := hWorker
  obtain ⟨v, hv, -, rfl⟩ := hSource
  rw [hBucket, hKey] at hv
  -- there is one version under the key, so it is the one that was parsed
  have hContent := List.mem_map_of_mem (f := fun v : ObjectVersion => v.content) hv
  rw [h.versions, List.mem_singleton] at hContent
  refine ⟨?_, hContent⟩
  rw [ReportProcessingJob.parsingContext, hId, hBusiness, hUpload, hName, hExtension, hType]
  rfl

/-- The sample run completes its job. -/
theorem IsSample.job {s : PipelineState} (h : IsSample s) :
    ∃ j ∈ s.jobs.db.jobs, j.status = .completed := by
  have hMem : (.completed, (1, 2, 3)) ∈ s.jobs.db.jobs.rows.map fun j =>
      (j.status, (j.id, j.businessId, j.reportUploadId)) := by
    rw [h.jobs]
    exact List.mem_singleton_self _
  obtain ⟨j, hj, hColumns⟩ := List.mem_map.mp hMem
  exact ⟨j, hj, congrArg Prod.fst hColumns⟩

end PipelineSample

open PipelineSample RoundTripSample in
/-- The job that was taken over is read back. -/
theorem completed_jobs_read_back_takeover : ∃ (art : ArtifactLibrary) (j : ReportProcessingJob)
    (source : InsightSource), j ∈ (final art).jobs.db.jobs ∧ j.status = .completed ∧
      readSourceArtifact InsightSample.library InsightSample.context
        (art.reading (final art).storage) j.source = .ok source ∧ source.rows.length = 3 := by
  obtain ⟨normalizer, hNormalize⟩ := exists_ok_of_isOk (x := normalizeReport report gzip workbooks
    context content) (by decide +kernel)
  have hFacts : (sheetEntries (reportSheets report workbooks context content)).length = 3 ∧
      ((reportSheets report workbooks context content).all fun sheet => sheet.records.all fun r =>
        decide (recordBytes report sheet r ≤ 100)) = true ∧
      (∀ title ∈ sheetTitles workbooks context content, title ≠ []) ∧
      strip context.originalFilename ≠ [] ∧ strip context.contentType ≠ [] ∧
      isSha256Hex digest = true := by
    decide +kernel
  obtain ⟨hEntries, hShort, hTitles, hFilename, hContentType, hDigest⟩ := hFacts
  let art := library (Json.obj (reportProfile context normalizer digest)).sortKeys payloads
  have hFinal : final art = final (library .null []) := final_library _ _
  have hSample : IsSample (final art) := hFinal ▸ final_isSample
  have hRun := completed_jobs_read_back InsightSample.library InsightSample.context art workbooks
    numberedService (fun _ => rfl) (fun _ => hDigest) uploads jobs jobs_new storage storage_kept takeover
  rw [← final_eq] at hRun
  refine ⟨art, ?_⟩
  generalize final art = s at hSample hRun ⊢
  obtain ⟨j, hj, hStatus⟩ := hSample.job
  obtain ⟨w, bytes, parsed, hLatest, hSource, hParse, hRead⟩ := hRun j hj hStatus
  obtain ⟨hContext, rfl⟩ := hSample.source hj hLatest hSource
  rw [hContext] at hParse hRead
  -- the report is readable
  have hRecords : RecordsShort report (reportSheets report workbooks context content) := by
    intro sheet hSheet r hr
    have hEach := List.all_eq_true.mp (List.all_eq_true.mp hShort sheet hSheet) r hr
    exact (of_decide_eq_true hEach).trans (by decide +kernel)
  have hJson : ∀ read, normalizeReport report gzip workbooks context content = .ok read →
      ReadsBack art
        (Json.obj (reportProfile context read (art.sha256 parsed.normalizedContent))).sortKeys
        ((reportSheets report workbooks context content).flatMap ParsedSheet.payloads) := by
    intro read hAgain
    obtain rfl : normalizer = read := Except.ok.inj (hNormalize.symm.trans hAgain)
    exact readsBack _
  obtain ⟨profile, hDone⟩ := hRead ⟨hTitles, hFilename, hContentType, hRecords, hJson⟩
  refine ⟨j, _, hj, hStatus, hDone, ?_⟩
  rw [List.length_map]
  exact hEntries

end SpikeBackend
