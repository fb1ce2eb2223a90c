import SpikeBackend.Dashboards.SnapshotOrigin
import SpikeBackend.Lib.JsonInjective

/-!
# What a content hash stands for

The content hash of a snapshot is the digest of the canonical text of its payload. Two payloads have
one text exactly when they differ in the order of keys alone, so what a call answers with, a new
snapshot or the latest one, has the content that the call has computed.

* `sameContent_of_bytes` — one canonical text, one content;
* `step_answersOnly` — which statements answer a call;
* `materialized_content` — what a call ends with, in every run;
* `materialized_content_reordered` — a call with the keys in another order.
-/

namespace SpikeBackend

open Relational Text Outcome Machine Locking

/-- `_canonical_json_bytes`. -/
def canonicalJsonBytes (floatRepr : Rat → Str) (value : Json) : Option (List UInt8) :=
  if value.writable = true then encode? (jsonText floatRepr value.sortKeys) else none

/-- Settings whose canonical texts are those of `json.dumps`. -/
structure CanonicalSettings extends SnapshotSettings where
  floatRepr : Rat → Str
  floatTexts : FloatTexts floatRepr
  canonicalJsonBytes_eq : ∀ value, canonicalJsonBytes value =
    SpikeBackend.canonicalJsonBytes floatRepr value

/-- The same value, whatever the order of the keys. -/
def SameContent (v w : Json) : Prop := v.sortKeys = w.sortKeys

/-- Two payloads with different canonical texts have different digests. -/
def NoCollision (settings : SnapshotSettings) (v w : Json) : Prop :=
  ∀ a b, settings.canonicalJsonBytes v = some a → settings.canonicalJsonBytes w = some b →
    settings.sha256 a = settings.sha256 b → a = b

-- ---------------------------------------------------------------------------
-- Texts and digests
-- ---------------------------------------------------------------------------

namespace CanonicalSettings

variable {settings : CanonicalSettings} {v w : Json}

/-- The canonical bytes are the UTF-8 of the text with sorted keys. -/
theorem bytes_eq_some {bytes : List UInt8} (h : settings.canonicalJsonBytes v = some bytes) :
    encode? (jsonText settings.floatRepr v.sortKeys) = some bytes := by
  rw [settings.canonicalJsonBytes_eq, SpikeBackend.canonicalJsonBytes] at h
  split at h
  · exact h
  · cases h

/-- **One text, one content.** -/
theorem sameContent_of_bytes {bytes : List UInt8} (hv : settings.canonicalJsonBytes v = some bytes)
    (hw : settings.canonicalJsonBytes w = some bytes) : SameContent v w :=
  jsonText_injective settings.floatTexts
    (encode?_injective (bytes_eq_some hv) (bytes_eq_some hw))

theorem contentHash_eq_ok {hash : Str} (h : settings.contentHash v = .ok hash) :
    ∃ bytes, settings.canonicalJsonBytes v = some bytes ∧ hash = settings.sha256 bytes := by
  obtain ⟨bytes, hBytes, hDone⟩ := bind_eq_ok.mp h
  exact ⟨bytes, required_eq_ok.mp hBytes, (Except.ok.inj hDone).symm⟩

/-- The order of the keys is not in the digest. -/
theorem contentHash_eq_of_sameContent {hash hash' : Str} (hv : settings.contentHash v = .ok hash)
    (hw : settings.contentHash w = .ok hash') (hSame : SameContent v w) : hash = hash' := by
  obtain ⟨a, ha, rfl⟩ := contentHash_eq_ok hv
  obtain ⟨b, hb, rfl⟩ := contentHash_eq_ok hw
  have hText := bytes_eq_some ha
  rw [hSame, bytes_eq_some hb] at hText
  rw [Option.some.inj hText]

/-- **The content of a digest.** -/
theorem sameContent_of_contentHash {hash : Str} (hv : settings.contentHash v = .ok hash)
    (hw : settings.contentHash w = .ok hash)
    (hCollision : NoCollision settings.toSnapshotSettings v w) : SameContent v w := by
  obtain ⟨a, ha, hDigest⟩ := contentHash_eq_ok hv
  obtain ⟨b, hb, hDigest'⟩ := contentHash_eq_ok hw
  obtain rfl := hCollision a b ha hb (hDigest.symm.trans hDigest')
  exact sameContent_of_bytes ha hb

end CanonicalSettings

-- ---------------------------------------------------------------------------
-- What a call ends with
-- ---------------------------------------------------------------------------

namespace SnapshotState

variable {settings : CanonicalSettings} {s s' : SnapshotState} {i j : Nat} {m : Materialization}
  {snapshotId : Uuid} {replayed : Bool}

/-- The statement that answers call `i`: the latest snapshot is read, or the commit. -/
inductive Answers (settings : SnapshotSettings) (s : SnapshotState) (i : Nat) :
    SnapshotState → Prop
  | read (m : Materialization) (hGet : s.clients[i]? = some (.jobsLocked m)) :
      Answers settings s i (s.readLatest settings i m)
  | commit (m : Materialization) (version : Int) (draws : SnapshotDraws) (now : Datetime)
      (hGet : s.clients[i]? = some (.numbered m version)) :
      Answers settings s i (s.commitSnapshot i m version draws now)

/-- A call that has an answer had it before, or this statement is its answer. -/
def AnswersOnly (settings : SnapshotSettings) (s s' : SnapshotState) : Prop :=
  ∀ i snapshotId replayed, s'.clients[i]? = some (.materialized snapshotId replayed) →
    s.clients[i]? = some (.materialized snapshotId replayed) ∨ Answers settings s i s'

theorem answersOnly_of_eq {settings : SnapshotSettings} (h : s'.clients = s.clients) :
    AnswersOnly settings s s' :=
  fun _ _ _ hGet => .inl (h ▸ hGet)

/-- A call that goes on, or is refused. -/
theorem answersOnly_set {settings : SnapshotSettings} {client : SnapshotClient}
    (hClients : s'.clients = s.clients.set j client)
    (hOpen : ∀ snapshotId replayed, client ≠ .materialized snapshotId replayed) :
    AnswersOnly settings s s' := by
  intro i snapshotId replayed hGet
  rw [hClients] at hGet
  rcases getElem?_set_cases hGet with ⟨-, hNew⟩ | ⟨-, hOld⟩
  · exact absurd hNew.symm (hOpen snapshotId replayed)
  · exact .inl hOld

/-- The statement of another call. -/
theorem answersOnly_of_answers {settings : SnapshotSettings} {client : SnapshotClient}
    (hAnswers : Answers settings s j s') (hClients : s'.clients = s.clients.set j client) :
    AnswersOnly settings s s' := by
  intro i snapshotId replayed hGet
  rw [hClients] at hGet
  rcases getElem?_set_cases hGet with ⟨rfl, -⟩ | ⟨-, hOld⟩
  · exact .inr hAnswers
  · exact .inl hOld

/-- Reading the latest snapshot moves the one client. -/
theorem readLatest_clients (settings : SnapshotSettings) (s : SnapshotState) (i : Nat)
    (m : Materialization) :
    ∃ client, (s.readLatest settings i m).clients = s.clients.set i client := by
  unfold readLatest
  repeat' split
  all_goals exact ⟨_, rfl⟩

/-- Committing moves the one client. -/
theorem commitSnapshot_clients (s : SnapshotState) (i : Nat) (m : Materialization) (version : Int)
    (draws : SnapshotDraws) (now : Datetime) :
    ∃ client, (s.commitSnapshot i m version draws now).clients = s.clients.set i client := by
  unfold commitSnapshot
  split
  all_goals exact ⟨_, rfl⟩

/-- A client is answered by the read of the latest snapshot or by its commit. -/
theorem advance_answersOnly (settings : SnapshotSettings) (s : SnapshotState) (i : Nat)
    (draws : SnapshotDraws) (readable : Bool) (now : Datetime) :
    AnswersOnly settings s (s.advance settings i draws readable now) := by
  unfold advance
  split
  case h_6 m hGet =>
    -- The latest snapshot has the same content.
    obtain ⟨client, hClients⟩ := readLatest_clients settings s i m
    exact answersOnly_of_answers (.read m hGet) hClients
  case h_7 m version hGet =>
    -- It has not, so the new one was stored.
    obtain ⟨client, hClients⟩ := commitSnapshot_clients s i m version draws now
    exact answersOnly_of_answers (.commit m version draws now hGet) hClients
  all_goals
    try unfold lockDashboard
    try unfold lockJobs
    repeat' split
    all_goals
      first
      | exact answersOnly_of_eq rfl
      | exact answersOnly_set rfl fun _ _ => nofun

/-- **One step.** Only these two answers are ever given. -/
theorem step_answersOnly (settings : SnapshotSettings) (s : SnapshotState)
    (timed : TimedSnapshotAction) : AnswersOnly settings s (s.step settings timed) := by
  unfold step
  split
  · intro i snapshotId replayed hGet
    rw [List.getElem?_append] at hGet
    split at hGet
    · exact .inl hGet
    · -- A request that arrives has no answer.
      exact absurd (List.mem_singleton.mp (List.mem_of_getElem? hGet)) nofun
  · exact advance_answersOnly settings s _ _ _ _
  · split
    · exact answersOnly_set rfl fun _ _ => nofun
    · exact answersOnly_of_eq rfl
  · unfold edit
    split <;> exact answersOnly_of_eq rfl
  · unfold deleteDashboard
    split <;> exact answersOnly_of_eq rfl
  · unfold changeJob
    repeat' split
    all_goals exact answersOnly_of_eq rfl
  · unfold deleteJob
    split <;> exact answersOnly_of_eq rfl

-- ---------------------------------------------------------------------------
-- What a call ends with
-- ---------------------------------------------------------------------------

/-- The snapshot is the latest one of the dashboard, with the content of the call. -/
def AnswersWith (s : SnapshotState) (m : Materialization) (snapshotId : Uuid) : Prop :=
  ∃ x ∈ s.snapshots, x.id = snapshotId ∧ x.dashboardId = m.request.dashboardId ∧
    SameContent x.payload m.payload ∧
    ∀ y ∈ s.snapshots, y.dashboardId = m.request.dashboardId → y.version ≤ x.version

/-- The latest snapshot of the dashboard has the content of the call. -/
def LatestSame (s : SnapshotState) (m : Materialization) : Prop :=
  ∃ latest, s.latest? m.request.scope m.request.dashboardId = some latest ∧
    SameContent latest.payload m.payload

/-- **The latest snapshot is read.** -/
theorem readLatest_content (hInv : s.HistoryInvariant settings.toSnapshotSettings)
    (hGet : s.clients[i]? = some (.jobsLocked m))
    (hAnswer : (s.readLatest settings.toSnapshotSettings i m).clients[i]? =
      some (.materialized snapshotId replayed))
    (hCollision : ∀ x ∈ s.snapshots, NoCollision settings.toSnapshotSettings x.payload m.payload) :
    (s.readLatest settings.toSnapshotSettings i m).AnswersWith m snapshotId ∧ replayed = true ∧
      s.LatestSame m := by
  obtain ⟨hComputed, hHolds, -⟩ := hInv.client i _ hGet
  have hSet : ∀ client, (s.clients.set i client)[i]? = some client := by
    intro client
    rw [List.getElem?_set_self', hGet]
    rfl
  unfold readLatest at hAnswer ⊢
  split at hAnswer
  · exact absurd ((hSet _).symm.trans hAnswer) nofun
  · next latest hLatest =>
    obtain ⟨hMem, hDashboard, hVersions⟩ := latest?_eq_some hInv hHolds hLatest
    split at hAnswer
    · exact absurd ((hSet _).symm.trans hAnswer) nofun
    · next hash hHash =>
      split at hAnswer
      · exact absurd ((hSet _).symm.trans hAnswer) nofun
      · next hStored =>
        split at hAnswer
        · next hSame =>
          -- the digest of the latest snapshot is that of the call
          have hContent : SameContent latest.payload m.payload :=
            CanonicalSettings.sameContent_of_contentHash (hSame ▸ hInv.hash latest hMem)
              (computePayload_hash hComputed) (hCollision latest hMem)
          have hClient := Option.some.inj ((hSet _).symm.trans hAnswer)
          obtain ⟨rfl, rfl⟩ : latest.id = snapshotId ∧ true = replayed := by
            injection hClient with hId hReplayed
            exact ⟨hId, hReplayed⟩
          refine ⟨?_, rfl, latest, hLatest, hContent⟩
          rw [if_neg hStored, if_pos hSame]
          refine ⟨latest, hMem, rfl, hDashboard, hContent, fun y hy hOwn => ?_⟩
          exact ((hVersions y.version).mp ⟨y, hy, hOwn, rfl⟩).2
        · exact absurd ((hSet _).symm.trans hAnswer) nofun

/-- **The commit.** -/
theorem commitSnapshot_content (hInv : s.HistoryInvariant settings.toSnapshotSettings)
    {version : Int} {draws : SnapshotDraws} {now : Datetime}
    (hGet : s.clients[i]? = some (.numbered m version))
    (hAnswer : (s.commitSnapshot i m version draws now).clients[i]? =
      some (.materialized snapshotId replayed)) :
    (s.commitSnapshot i m version draws now).AnswersWith m snapshotId ∧ replayed = false ∧
      ¬ s.LatestSame m := by
  obtain ⟨hComputed, hHolds, -, hNext⟩ := hInv.client i _ hGet
  have hSet : ∀ client, (s.clients.set i client)[i]? = some client := by
    intro client
    rw [List.getElem?_set_self', hGet]
    rfl
  have hDiffers : ¬ s.LatestSame m := by
    rintro ⟨latest, hLatest, hContent⟩
    obtain ⟨hMem, hDashboard, hVersions⟩ := latest?_eq_some hInv hHolds hLatest
    have hBelow := hNext.below latest hMem hDashboard
    -- the version before the next one is the latest
    obtain ⟨x, hx, hOwn, hVersion⟩ := hNext.taken (version - 1) (by omega) (by omega)
    have hLast := ((hVersions x.version).mp ⟨x, hx, hOwn, rfl⟩).2
    refine hNext.differs latest hMem hDashboard (by omega) ?_
    exact CanonicalSettings.contentHash_eq_of_sameContent (hInv.hash latest hMem)
      (computePayload_hash hComputed) hContent
  unfold commitSnapshot at hAnswer ⊢
  split at hAnswer
  · exact absurd ((hSet _).symm.trans hAnswer) nofun
  · next snapshots sources hInserted =>
    have hClient := Option.some.inj ((hSet _).symm.trans hAnswer)
    obtain ⟨rfl, rfl⟩ : draws.snapshotId = snapshotId ∧ false = replayed := by
      injection hClient with hId hReplayed
      exact ⟨hId, hReplayed⟩
    refine ⟨?_, rfl, hDiffers⟩
    unfold insertSnapshot at hInserted
    obtain ⟨snapshots', hInsert, hRest⟩ := bind_eq_ok.mp hInserted
    obtain ⟨rows, -, hRest⟩ := bind_eq_ok.mp hRest
    obtain ⟨sources', -, hDone⟩ := bind_eq_ok.mp hRest
    obtain ⟨rfl, rfl⟩ := Prod.mk.inj (Except.ok.inj hDone)
    have hMem := fun x => Table.mem_insert? (x := x) (required_eq_ok.mp hInsert)
    refine ⟨m.row version draws.snapshotId now, (hMem _).mpr (.inl rfl), rfl, rfl, rfl,
      fun y hy hOwn => ?_⟩
    rcases (hMem y).mp hy with rfl | hOld
    · exact le_rfl
    · exact (hNext.below y hOld hOwn).2.le

end SnapshotState

/-- What a call has computed. -/
def SnapshotClient.computed? : SnapshotClient → Option Materialization
  | .computed m | .dashboardLocked m | .jobsLocked m | .numbered m _ => some m
  | _ => none

open SnapshotState in
/-- **What a call ends with.** In every run: the step that answers a call with a snapshot answers
with the latest one of its dashboard, and its content is what the call has computed; the answer is
an old snapshot exactly when that had the content already. Adjacent versions differ in more than the
order of keys. -/
theorem materialized_content (settings : CanonicalSettings) (dashboards : Table Dashboard)
    (jobs : Table ReportProcessingJob) (actions : List TimedSnapshotAction) :
    let s : SnapshotState := run (step settings.toSnapshotSettings) { dashboards, jobs } actions
    (∀ timed (i : Nat) snapshotId replayed,
      (s.step settings.toSnapshotSettings timed).clients[i]? =
        some (.materialized snapshotId replayed) →
      s.clients[i]? ≠ some (.materialized snapshotId replayed) →
      ∃ c m, s.clients[i]? = some c ∧ c.computed? = some m ∧
        ((∀ x ∈ s.snapshots, NoCollision settings.toSnapshotSettings x.payload m.payload) →
          (s.step settings.toSnapshotSettings timed).AnswersWith m snapshotId ∧
            (replayed = true ↔ s.LatestSame m))) ∧
      ∀ x ∈ s.snapshots, ∀ y ∈ s.snapshots, x.dashboardId = y.dashboardId →
        x.version + 1 = y.version → ¬ SameContent x.payload y.payload := by
  intro s
  have hInv : s.HistoryInvariant settings.toSnapshotSettings :=
    run_invariant (step_invariant settings.toSnapshotSettings)
      (init_invariant settings.toSnapshotSettings dashboards jobs) actions
  refine ⟨fun timed i snapshotId replayed hAfter hBefore => ?_, fun x hx y hy hOwn hNext hSame => ?_⟩
  · -- The step that answers is a read or a commit.
    have hAnswers := (step_answersOnly settings.toSnapshotSettings s timed i snapshotId replayed
      hAfter).resolve_left hBefore
    generalize s.step settings.toSnapshotSettings timed = s' at hAfter hAnswers ⊢
    cases hAnswers with
    | read m hGet =>
      refine ⟨_, m, hGet, rfl, fun hCollision => ?_⟩
      obtain ⟨hWith, rfl, hLatest⟩ := readLatest_content hInv hGet hAfter hCollision
      exact ⟨hWith, iff_of_true rfl hLatest⟩
    | commit m version draws now hGet =>
      refine ⟨_, m, hGet, rfl, fun _ => ?_⟩
      obtain ⟨hWith, rfl, hLatest⟩ := commitSnapshot_content hInv hGet hAfter
      exact ⟨hWith, iff_of_false Bool.false_ne_true hLatest⟩
  · exact hInv.adjacent x hx y hy hOwn hNext
      (CanonicalSettings.contentHash_eq_of_sameContent (hInv.hash x hx) (hInv.hash y hy) hSame)

-- ---------------------------------------------------------------------------
-- A sample
-- ---------------------------------------------------------------------------

namespace ContentSample

def job : ReportProcessingJob where
  id := 1
  businessId := 2
  createdAt := 0
  reportUploadId := 3
  sourceStorageVersionId := str "v"
  sourceEtag := str "e"
  status := .completed
  attemptCount := 1
  availableAt := none
  startedAt := some 1
  finishedAt := some 2
  resultStorageBucket := some (str "bucket")
  normalizedStorageKey := some (str "n")
  normalizedStorageVersionId := some (str "v")
  normalizedEtag := some (str "e")
  normalizedSizeBytes := some 10
  profileStorageKey := some (str "p")
  profileStorageVersionId := some (str "v")
  profileEtag := some (str "e")
  recordCount := some 1
  sheetCount := some 1

def dashboard : Dashboard where
  id := 1
  businessId := 2
  createdByUserId := 4
  dashboardType := .operationalKpi
  title := str "Margins"
  configuration := .obj [(str "theme", .str (str "dark")), (str "currency", .str (str "USD"))]
  createdAt := 0
  updatedAt := 0

def dashboards : Table Dashboard := .single dashboard (by decide)

def jobs : Table ReportProcessingJob := .single job (by decide +kernel)

/-- What the profile of the job says of its source. -/
def profile : Dict :=
  [(str "source", .obj
    [(str "filename", .str (str "sales.csv")), (str "report_upload_id", .str (uuidText 3))])]

/-- All payloads of the sample have one content; the digest is that of its text. -/
def settings : CanonicalSettings where
  mappedProcessingJobIds _ _ := none
  readArtifacts _ _ jobs := .ok (jobs.map fun job => ⟨job, profile, .null⟩, none)
  canonicalJsonBytes := canonicalJsonBytes ratioText
  sha256 _ := str "2c3b9b1830bc98705e712cb4d322fb1a713e82c840e295a9e6e25a73950bd31a"
  uuidStr := uuidText
  floatRepr := ratioText
  floatTexts := floatTexts_ratioText
  canonicalJsonBytes_eq _ := rfl

/-- A materialisation, an edit that stores the keys of the configuration in another order, and a
materialisation that is about to read the latest snapshot. -/
def actions : List TimedSnapshotAction :=
  ⟨5, .arrive ⟨2, 1, 4, [1]⟩⟩ :: List.replicate 7 ⟨6, .advance 0 ⟨9, fun _ => 10⟩ true⟩ ++
    ⟨7, .edit 1 none (some (.obj
      [(str "currency", .str (str "USD")), (str "theme", .str (str "dark"))])) none⟩ ::
    ⟨8, .arrive ⟨2, 1, 4, [1]⟩⟩ :: List.replicate 5 ⟨9, .advance 1 ⟨11, fun _ => 12⟩ true⟩

/-- The statement that reads it. -/
def reading : TimedSnapshotAction := ⟨9, .advance 1 ⟨11, fun _ => 12⟩ true⟩

def before : SnapshotState :=
  run (SnapshotState.step settings.toSnapshotSettings) { dashboards, jobs } actions

/-- The snapshot that a call is answered with. -/
def answer? : SnapshotClient → Option (Uuid × Bool)
  | .materialized snapshotId replayed => some (snapshotId, replayed)
  | _ => none

theorem answer?_eq_some {client : SnapshotClient} {snapshotId : Uuid} {replayed : Bool} :
    answer? client = some (snapshotId, replayed) ↔ client = .materialized snapshotId replayed := by
  cases client <;> simp [answer?]

/-- The second call is open before the statement and answered by it, and has the text of the
stored payload. -/
theorem second_call :
    (before.clients[1]?.bind answer?).isNone = true ∧
      (before.step settings.toSnapshotSettings reading).clients[1]?.bind answer? = some (9, true) ∧
      ((before.clients[1]?.bind SnapshotClient.computed?).all fun m => before.snapshots.rows.all
        fun x => settings.canonicalJsonBytes x.payload == settings.canonicalJsonBytes m.payload) =
          true := by
  decide +kernel

end ContentSample

open ContentSample in
/-- A call for a content whose keys have another order is answered with the stored snapshot. -/
theorem materialized_content_reordered :
    ∃ c m, before.clients[1]? = some c ∧ c.computed? = some m ∧
      (before.step settings.toSnapshotSettings reading).AnswersWith m 9 ∧ before.LatestSame m := by
  obtain ⟨hOpen, hAnswer, hTexts⟩ := second_call
  obtain ⟨client, hClient, hAnswer⟩ := Option.bind_eq_some_iff.mp hAnswer
  obtain rfl := answer?_eq_some.mp hAnswer
  obtain ⟨hAnswers, -⟩ := materialized_content settings dashboards jobs actions
  have hBefore : before.clients[1]? ≠ some (.materialized 9 true) := by
    intro hSame
    rw [hSame] at hOpen
    cases hOpen
  obtain ⟨c, m, hGet, hComputed, hWith⟩ := hAnswers reading 1 9 true hClient hBefore
  -- Both payloads have one canonical text, so their bytes do not collide.
  have hCollision : ∀ x ∈ before.snapshots,
      NoCollision settings.toSnapshotSettings x.payload m.payload := by
    intro x hx a b ha hb _
    have hGet : before.clients[1]? = some c := hGet
    rw [hGet, Option.bind_some, hComputed, Option.all_some, List.all_eq_true] at hTexts
    have hText := beq_iff_eq.mp (hTexts x hx)
    exact Option.some.inj (ha.symm.trans (hText.trans hb))
  obtain ⟨hStored, hReplayed⟩ := hWith hCollision
  exact ⟨c, m, hGet, hComputed, hStored, hReplayed.mp rfl⟩

end SpikeBackend
