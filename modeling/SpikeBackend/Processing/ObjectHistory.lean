import SpikeBackend.Model.PipelineRuns

/-!
# What the storage keeps

Under an artifact key no version is ever removed, and no two versions of an object have one
identifier. So whoever knows an identifier finds the content that was put, at any later time.

* `Storage.Kept.put`, `Storage.Kept.delete` — what others do keeps it;
* `Storage.Kept.version?_eq` — a version that was put is found;
* `normalizedKey_not_upload`, `profileKey_not_upload` — no artifact is the file of an upload.
-/

namespace SpikeBackend

open Text Outcome Remote

-- ---------------------------------------------------------------------------
-- Keys
-- ---------------------------------------------------------------------------

/-- The keys under which `_reject_object` removes versions. -/
def IsUploadKey (key : Str) : Prop :=
  ∃ storagePrefix businessId batchId uploadId extension, extension ∈ reportUploadExtensions ∧
    key = uploadKey storagePrefix businessId batchId uploadId extension

/-- The last character of a text is that of what it ends with. -/
theorem getLast?_append_str (front : Str) {text : String} {c : CodePoint}
    (h : (str text).getLast? = some c) : (front ++ str text).getLast? = some c := by
  rw [List.getLast?_append, h]
  rfl

/-- The last characters of the extensions of uploads. -/
theorem IsUploadKey.getLast? {key : Str} (h : IsUploadKey key) :
    key.getLast? ∈ [some 0x76, some 0x73, some 0x78] := by
  obtain ⟨storagePrefix, businessId, batchId, uploadId, extension, hExtension, rfl⟩ := h
  rw [uploadKey]
  simp only [reportUploadExtensions, List.mem_cons, List.not_mem_nil, or_false] at hExtension
  rcases hExtension with rfl | rfl | rfl
  · rw [getLast?_append_str _ (c := 0x76) (by decide)]
    decide
  · rw [getLast?_append_str _ (c := 0x73) (by decide)]
    decide
  · rw [getLast?_append_str _ (c := 0x78) (by decide)]
    decide

/-- The key of a normalised artifact is no upload key. -/
theorem normalizedKey_not_upload (storagePrefix : Str) (claim : ReportProcessingClaim) :
    ¬ IsUploadKey (normalizedKey storagePrefix claim) := by
  intro h
  have hLast := h.getLast?
  rw [normalizedKey, getLast?_append_str _ (c := 0x7A) (by decide)] at hLast
  revert hLast
  decide

/-- The key of a profile is no upload key. -/
theorem profileKey_not_upload (storagePrefix : Str) (claim : ReportProcessingClaim) :
    ¬ IsUploadKey (profileKey storagePrefix claim) := by
  intro h
  have hLast := h.getLast?
  rw [profileKey, getLast?_append_str _ (c := 0x6E) (by decide)] at hLast
  revert hLast
  decide

-- ---------------------------------------------------------------------------
-- The history of the objects
-- ---------------------------------------------------------------------------

namespace ObjectStore

variable {s : ObjectStore} {bucket key b k : Str} {v version : ObjectVersion}

/-- Adding a version adds it at its key and changes nothing else. -/
theorem mem_add : v ∈ (s.add bucket key version).versions b k ↔
    (b = bucket ∧ k = key ∧ v = version) ∨ v ∈ s.versions b k := by
  by_cases hHere : b = bucket ∧ k = key
  · simp [add, hHere]
  · simp only [add, if_neg hHere]
    tauto

/-- A put adds its version and replaces one of the same id. -/
theorem mem_put : v ∈ (s.put bucket key version).versions b k ↔
    (b = bucket ∧ k = key ∧ v = version) ∨
      (v ∈ s.versions b k ∧ (b = bucket ∧ k = key → v.versionId ≠ version.versionId)) := by
  by_cases hHere : b = bucket ∧ k = key
  · simp [put, hHere, List.mem_filter]
  · simp only [put, if_neg hHere]
    tauto

/-- A delete removes the version of the id at its key. -/
theorem mem_delete {versionId : Str} : v ∈ (s.delete bucket key versionId).versions b k ↔
    v ∈ s.versions b k ∧ (b = bucket ∧ k = key → v.versionId ≠ some versionId) := by
  by_cases hHere : b = bucket ∧ k = key
  · simp [delete, hHere, List.mem_filter]
  · simp only [delete, if_neg hHere]
    tauto

/-- A version of an object with a content. -/
def Has (s : ObjectStore) (bucket key versionId : Str) (content : List UInt8) : Prop :=
  ∃ v ∈ s.versions bucket key, v.versionId = some versionId ∧ v.content = content

end ObjectStore

namespace Storage

variable {s t u : Storage} {bucket key versionId : Str}

/-- A version that is not the null version keeps its identifier to itself, and stays where it is
no file of an upload. -/
structure Kept (s : Storage) : Prop where
  known : ∀ b k, ∀ v ∈ s.objects.versions b k, v ∈ s.past.versions b k
  distinct : ∀ b k, ∀ v ∈ s.past.versions b k, ∀ v' ∈ s.past.versions b k,
    v.versionId = v'.versionId → v.versionId ≠ some nullVersion → v = v'
  stays : ∀ b k, ¬ IsUploadKey k → ∀ v ∈ s.past.versions b k, v.versionId ≠ some nullVersion →
    v ∈ s.objects.versions b k

/-- The history goes on. -/
instance : Preorder Storage where
  le s t := ∀ b k, ∀ v ∈ s.past.versions b k, v ∈ t.past.versions b k
  le_refl _ _ _ _ hv := hv
  le_trans _ _ _ h h' b k v hv := h' b k v (h b k v hv)

theorem has_of_le (h : s ≤ t) {content : List UInt8}
    (hHas : s.past.Has bucket key versionId content) : t.past.Has bucket key versionId content := by
  obtain ⟨v, hv, hId, hContent⟩ := hHas
  exact ⟨v, h bucket key v hv, hId, hContent⟩

/-- A version identifier that a put gets is new. -/
theorem fresh_of_put (service : ObjectService) (object : PutObject) {v : ObjectVersion}
    (hv : v ∈ s.past.versions bucket key)
    (hId : v.versionId = ((service.answer s bucket key).version object).versionId)
    (hNamed : v.versionId ≠ some nullVersion) : False := by
  cases hGiven : (service.answer s bucket key).versionId? with
  | none =>
    rw [PutResponse.version, hGiven] at hId
    exact hNamed hId
  | some id =>
    rw [PutResponse.version, hGiven] at hId
    have hNew : id ≠ nullVersion := fun hSame => hNamed (hSame ▸ hId)
    exact service.fresh s bucket key id hGiven hNew v hv hId

/-- A put keeps the history. -/
theorem Kept.put (h : s.Kept) (service : ObjectService) (bucket key : Str) (object : PutObject) :
    (s.put service bucket key object).Kept := by
  -- The service draws a fresh id, so a named version is never replaced.
  refine ⟨fun b k v hv => ?_, fun b k v hv v' hv' hId hNamed => ?_, fun b k hKey v hv hNamed => ?_⟩
  · rcases ObjectStore.mem_put.mp hv with hNew | ⟨hOld, -⟩
    · exact ObjectStore.mem_add.mpr (.inl hNew)
    · exact ObjectStore.mem_add.mpr (.inr (h.known b k v hOld))
  · rcases ObjectStore.mem_add.mp hv with ⟨rfl, rfl, rfl⟩ | hOld
    · rcases ObjectStore.mem_add.mp hv' with ⟨-, -, rfl⟩ | hOld'
      · rfl
      · exact (fresh_of_put service object hOld' hId.symm (hId ▸ hNamed)).elim
    · rcases ObjectStore.mem_add.mp hv' with ⟨rfl, rfl, rfl⟩ | hOld'
      · exact (fresh_of_put service object hOld hId hNamed).elim
      · exact h.distinct b k v hOld v' hOld' hId hNamed
  · rcases ObjectStore.mem_add.mp hv with hNew | hOld
    · exact ObjectStore.mem_put.mpr (.inl hNew)
    · refine ObjectStore.mem_put.mpr (.inr ⟨h.stays b k hKey v hOld hNamed, ?_⟩)
      rintro ⟨rfl, rfl⟩ hId
      exact fresh_of_put service object hOld hId hNamed

theorem le_put (service : ObjectService) (object : PutObject) :
    s ≤ s.put service bucket key object :=
  fun _ _ _ hv => ObjectStore.mem_add.mpr (.inr hv)

/-- Deleting a version under an upload key keeps the history. -/
theorem Kept.delete (h : s.Kept) (hKey : IsUploadKey key) :
    (s.delete bucket key versionId).Kept := by
  refine ⟨fun b k v hv => h.known b k v (ObjectStore.mem_delete.mp hv).1, h.distinct,
    fun b k hOther v hv hNamed => ?_⟩
  refine ObjectStore.mem_delete.mpr ⟨h.stays b k hOther v hv hNamed, ?_⟩
  rintro ⟨-, rfl⟩
  exact absurd hKey hOther

/-- **What was put is found.** -/
theorem Kept.version?_eq (h : s.Kept) (hKey : ¬ IsUploadKey key) {v : ObjectVersion}
    (hv : v ∈ s.past.versions bucket key) (hId : v.versionId = some versionId)
    (hNamed : versionId ≠ nullVersion) : s.objects.version? bucket key versionId = some v := by
  have hNotNull : v.versionId ≠ some nullVersion := fun hNull =>
    hNamed (Option.some.inj (hId.symm.trans hNull))
  have hThere := h.stays bucket key hKey v hv hNotNull
  -- The version is still there, and no other has its id.
  cases hFound : s.objects.version? bucket key versionId with
  | none =>
    have hNone := List.find?_eq_none.mp hFound v hThere
    rw [hId] at hNone
    exact absurd (beq_self_eq_true (some versionId)) hNone
  | some w =>
    have hw : w ∈ s.past.versions bucket key :=
      h.known bucket key w (List.mem_of_find?_eq_some hFound)
    have hSame : w.versionId = some versionId := by simpa using List.find?_some hFound
    rw [h.distinct bucket key v hv w hw (hId.trans hSame.symm) hNotNull]

/-- What a put has made, under the identifier that it got. -/
theorem has_put (service : ObjectService) (object : PutObject) {id : Str}
    (hId : (service.answer s bucket key).versionId? = some id) :
    (s.put service bucket key object).past.Has bucket key id object.content := by
  refine ⟨_, ObjectStore.mem_add.mpr (.inl ⟨rfl, rfl, rfl⟩), ?_, rfl⟩
  rw [PutResponse.version, hId]
  rfl

end Storage

end SpikeBackend
