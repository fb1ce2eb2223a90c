import SpikeBackend.Model.Uploads

/-!
# Samples of CSV files

The validation of a CSV file decodes its first 64 KiB as if the file ended there.

* `validateCsvContent_iff` — what is accepted: the sample is a whole text;
* `csv_validation_iff` — so the verdict is the one on the beginning of the file, unless the
  sample ends inside a character;
* `cut_character_rejected` — a file of 64 KiB and one byte.
-/

namespace SpikeBackend

open Text Outcome

/-- The bytes of the sample are unsuspicious one by one, and those at the start together. -/
structure IsPlain (content : List UInt8) : Prop where
  nonempty : content ≠ []
  signature : startsWithKnownBinary content = false
  noNul : 0 ∉ csvSample content
  noControl : ∀ b ∈ csvSample content, isInvalidControl b.toNat = false

/-- The sample is unsuspicious and the beginning of some text. -/
def IsTextBeginning (content : List UInt8) : Prop :=
  IsPlain content ∧ ∃ rest, IsUtf8 (csvSample content ++ rest)

/-- The sample is unsuspicious and a text, up to a last character that the end of the sample
cuts off from the rest of the file. -/
def IsTextCut (content : List UInt8) : Prop :=
  IsPlain content ∧ (IsUtf8 (csvSample content) ∨
    64 * 1024 < content.length ∧ ∃ rest, IsUtf8 (csvSample content ++ rest))

/-- Nothing is wrong with the sample but that it ends inside a character. -/
def EndsInsideCharacter (content : List UInt8) : Prop :=
  IsPlain content ∧ EndsInside (csvSample content)

-- ---------------------------------------------------------------------------
-- The decoded text and its bytes
-- ---------------------------------------------------------------------------

theorem lt_of_isInvalidControl {n : Nat} (h : isInvalidControl n = true) : n < 32 := by
  simp only [isInvalidControl, Bool.and_eq_true, decide_eq_true_eq] at h
  exact h.1.1.1

/-- The control characters of a text are those of its bytes. -/
theorem noControl_iff {s : Str} :
    (∀ c ∈ s, isInvalidControl c.val = false) ↔
      ∀ b ∈ s.flatMap encodeChar, isInvalidControl b.toNat = false := by
  constructor
  · intro h b hb
    obtain ⟨c, hc, hbc⟩ := List.mem_flatMap.mp hb
    by_contra hControl
    rw [Bool.not_eq_false] at hControl
    -- A byte below 128 is a character of its own.
    have hVal := mem_encodeChar hbc (by have := lt_of_isInvalidControl hControl; omega)
    rw [← hVal, h c hc] at hControl
    cases hControl
  · intro h c hc
    by_contra hControl
    rw [Bool.not_eq_false] at hControl
    have hLt := lt_of_isInvalidControl hControl
    have hMem : c.val.toUInt8 ∈ s.flatMap encodeChar := by
      refine List.mem_flatMap.mpr ⟨c, hc, ?_⟩
      rw [encodeChar_one (by omega)]
      exact List.mem_singleton.mpr rfl
    have hNot := h _ hMem
    rw [toNat_toUInt8 (by omega), hControl] at hNot
    cases hNot

theorem encodeChar_bom : encodeChar 0xFEFF = bomUtf8 := by decide

/-- The mark at the start is a character too, and no control character. -/
theorem decodeSig?_iff {sample : List UInt8} :
    (∃ s, decodeSig? sample = some s ∧ ∀ c ∈ s, isInvalidControl c.val = false) ↔
      IsUtf8 sample ∧ ∀ b ∈ sample, isInvalidControl b.toNat = false := by
  have hText : ∀ {bytes : List UInt8} {s : Str}, decode? bytes = some s →
      ((∀ c ∈ s, isInvalidControl c.val = false) ↔
        ∀ b ∈ bytes, isInvalidControl b.toNat = false) := by
    intro bytes s hDecode
    rw [(encode?_eq_some.mp (decode?_eq_some.mp hDecode)).2]
    exact noControl_iff
  unfold decodeSig?
  split
  · next hMark =>
    -- With the mark, the sample decodes as a whole exactly when the rest does.
    have hSplit : sample = encodeChar 0xFEFF ++ sample.drop 3 := by
      rw [encodeChar_bom, ← hMark, List.take_append_drop]
    constructor
    · rintro ⟨s, hDecode, hControl⟩
      obtain ⟨hSafe, hBytes⟩ := encode?_eq_some.mp (decode?_eq_some.mp hDecode)
      have hWhole : encode? (0xFEFF :: s) = some sample := by
        refine encode?_eq_some.mpr ⟨?_, ?_⟩
        · rw [List.any_cons, hSafe]
          rfl
        · rw [List.flatMap_cons, ← hBytes]
          exact hSplit
      refine ⟨⟨_, hWhole⟩, (hText (decode?_eq_some.mpr hWhole)).mp fun c hc => ?_⟩
      rcases List.mem_cons.mp hc with rfl | hOld
      · rfl
      · exact hControl c hOld
    · rintro ⟨⟨t, hWhole⟩, hControl⟩
      have hChars := (hText (decode?_eq_some.mpr hWhole)).mpr hControl
      obtain ⟨hSafe, hBytes⟩ := encode?_eq_some.mp hWhole
      rw [hSplit] at hBytes
      cases t with
      | nil => exact absurd (List.append_eq_nil_iff.mp hBytes).1 (encodeChar_ne_nil _)
      | cons c t =>
        rw [List.any_cons, Bool.or_eq_false_iff] at hSafe
        rw [List.flatMap_cons] at hBytes
        -- The first character is the mark, since the code is prefix free.
        obtain ⟨-, hRest⟩ := encodeChar_append_inj rfl hSafe.1 hBytes
        refine ⟨t, ?_, fun d hd => hChars d (List.mem_cons_of_mem _ hd)⟩
        rw [hRest]
        exact decode?_eq_some.mpr (encode?_eq_some.mpr ⟨hSafe.2, rfl⟩)
  · constructor
    · rintro ⟨s, hDecode, hControl⟩
      exact ⟨⟨s, decode?_eq_some.mp hDecode⟩, (hText hDecode).mp hControl⟩
    · rintro ⟨⟨s, hWhole⟩, hControl⟩
      have hDecode := decode?_eq_some.mpr hWhole
      exact ⟨s, hDecode, (hText hDecode).mpr hControl⟩

-- ---------------------------------------------------------------------------
-- The validation
-- ---------------------------------------------------------------------------

/-- **Validation.** Accepted are the plain files whose sample is a whole text. -/
theorem validateCsvContent_iff {content : List UInt8} :
    validateCsvContent content = .ok () ↔ IsPlain content ∧ IsUtf8 (csvSample content) := by
  -- The source counts the control characters and wants none.
  have hCount : ∀ s : Str, s.countP (fun c => isInvalidControl c.val) = 0 ↔
      ∀ c ∈ s, isInvalidControl c.val = false := by
    intro s
    rw [List.countP_eq_zero]
    exact forall₂_congr fun c _ => iff_of_eq (Bool.not_eq_true _)
  simp only [validateCsvContent, bind_eq_ok, required_eq_ok, ensure_eq_ok, hCount]
  constructor
  · rintro ⟨-, ⟨hNonempty, hSignature⟩, -, hNul, s, hDecode, hControl⟩
    obtain ⟨hUtf8, hBytes⟩ := decodeSig?_iff.mp ⟨s, hDecode, hControl⟩
    exact ⟨⟨hNonempty, hSignature, hNul, hBytes⟩, hUtf8⟩
  · rintro ⟨hPlain, hUtf8⟩
    obtain ⟨s, hDecode, hControl⟩ := decodeSig?_iff.mpr ⟨hUtf8, hPlain.noControl⟩
    exact ⟨(), ⟨hPlain.nonempty, hPlain.signature⟩, (), hPlain.noNul, s, hDecode, hControl⟩

/-- **CSV validation.** A file is accepted exactly when its sample is plain and the beginning
of some text, except for the files whose sample ends inside a character; and of those only
the ones that go on after the sample are text up to a character that is cut off. -/
theorem csv_validation_iff (content : List UInt8) :
    ((validateCsvContent content = .ok () ↔ IsTextBeginning content) ↔
        ¬EndsInsideCharacter content) ∧
      ((validateCsvContent content = .ok () ↔ IsTextCut content) ↔
        ¬(64 * 1024 < content.length ∧ EndsInsideCharacter content)) := by
  rw [validateCsvContent_iff]
  unfold IsTextBeginning IsTextCut EndsInsideCharacter
  rw [beginsUtf8_iff]
  -- A sample that ends inside a character is no UTF-8, which is the one difference.
  have hCut : EndsInside (csvSample content) → ¬IsUtf8 (csvSample content) :=
    EndsInside.not_isUtf8
  by_cases hPlain : IsPlain content
  · simp only [hPlain, true_and]
    constructor
    · constructor
      · intro h hInside
        exact hCut hInside (h.mpr (.inr hInside))
      · intro hNot
        exact ⟨.inl, fun h => h.resolve_right hNot⟩
    · constructor
      · rintro h ⟨hLong, hInside⟩
        exact hCut hInside (h.mpr (.inr ⟨hLong, .inr hInside⟩))
      · intro hNot
        refine ⟨.inl, ?_⟩
        rintro (hWhole | ⟨hLong, hWhole | hInside⟩)
        · exact hWhole
        · exact hWhole
        · exact absurd ⟨hLong, hInside⟩ hNot
  · simp [hPlain]

-- ---------------------------------------------------------------------------
-- A character on the boundary
-- ---------------------------------------------------------------------------

/-- A text of 64 KiB and one byte: letters, and an `é` in the last two bytes. -/
def cutFile : List UInt8 := List.replicate (64 * 1024 - 1) 0x61 ++ encodeChar 0xE9

/-- The sample of the file ends with half a character. -/
theorem csvSample_cutFile : csvSample cutFile = List.replicate (64 * 1024 - 1) 0x61 ++ [0xC3] := by
  unfold csvSample cutFile
  rw [List.take_append, List.take_of_length_le (by rw [List.length_replicate]; omega),
    List.length_replicate]
  rfl

/-- Characters of ASCII are their own bytes. -/
theorem flatMap_replicate_ascii {c : CodePoint} (h : c.val < 128) (n : Nat) :
    (List.replicate n c).flatMap encodeChar = List.replicate n c.val.toUInt8 := by
  induction n with
  | zero => rfl
  | succ n ih =>
    rw [List.replicate_succ, List.flatMap_cons, ih, encodeChar_one h]
    rfl

theorem flatMap_replicate_letter (n : Nat) :
    (List.replicate n (0x61 : CodePoint)).flatMap encodeChar = List.replicate n 0x61 :=
  flatMap_replicate_ascii (by decide) n

/-- Letters are no surrogates. -/
theorem any_replicate_letter (n : Nat) :
    (List.replicate n (0x61 : CodePoint)).any isSurrogate = false := by
  rw [List.any_eq_false]
  intro c hc
  rw [List.eq_of_mem_replicate hc]
  decide

/-- **A text that is rejected.** Its sample ends between the bytes of its last character. -/
theorem cut_character_rejected :
    IsUtf8 cutFile ∧ IsTextBeginning cutFile ∧ 64 * 1024 < cutFile.length ∧
      validateCsvContent cutFile ≠ .ok () := by
  -- The last character has two bytes, and the sample ends after the first.
  have hInside : EndsInside (csvSample cutFile) := by
    refine ⟨List.replicate (64 * 1024 - 1) 0x61, 0xE9, 1, any_replicate_letter _, rfl, by decide,
      by decide, ?_⟩
    rw [csvSample_cutFile, flatMap_replicate_letter]
    rfl
  have hPlain : IsPlain cutFile := by
    have hMem : ∀ b ∈ csvSample cutFile, b = 0x61 ∨ b = 0xC3 := by
      intro b hb
      rw [csvSample_cutFile, List.mem_append, List.mem_singleton] at hb
      exact hb.imp List.eq_of_mem_replicate id
    refine ⟨?_, by rfl, fun hNul => ?_, fun b hb => ?_⟩
    · exact List.append_ne_nil_of_right_ne_nil _ (encodeChar_ne_nil _)
    · rcases hMem 0 hNul with h | h <;> cases h
    · rcases hMem b hb with rfl | rfl <;> rfl
  refine ⟨⟨List.replicate (64 * 1024 - 1) 0x61 ++ [0xE9], encode?_eq_some.mpr ⟨?_, ?_⟩⟩,
    ⟨hPlain, beginsUtf8_iff.mpr (.inr hInside)⟩, ?_, fun hOk => ?_⟩
  · rw [List.any_append, any_replicate_letter]
    rfl
  · rw [List.flatMap_append, flatMap_replicate_letter]
    rfl
  · unfold cutFile
    rw [List.length_append, List.length_replicate]
    decide
  · exact hInside.not_isUtf8 (validateCsvContent_iff.mp hOk).2

end SpikeBackend
