import SpikeBackend.Model.Uploads

/-!
# Workbook streams

The validation of the workbook stream of an XLS file reads records at declared offsets. It ends on
every byte string, reads nothing beyond its end, and accepts a grammar.

* `checkXlsRecord_record` — one round of the loop, at a record;
* `checkXlsRecords_iff` — the loop from any offset on, with fuel for the bytes that are left;
* `xls_stream_exact` — the whole function.
-/

namespace SpikeBackend

open Text Outcome RecordStream

-- ---------------------------------------------------------------------------
-- The grammar
-- ---------------------------------------------------------------------------

/-- A record that marks the beginning of a substream and says of what kind it is. -/
def IsBof (r : Record) : Prop := r.id ∈ xlsBofRecordIds ∧ 4 ≤ r.body.length

/-- The second word of the body, if there is one. -/
def secondWord? (r : Record) : Option Nat := wordAt? r.body 2

/-- A record that may be in a stream: nothing of encryption, of a VBA project or of a macro sheet. -/
structure AllowedRecord (r : Record) : Prop where
  notEncrypted : r.id ≠ xlsEncryptionRecordId
  notVba : r.id ≠ xlsVbaProjectRecordId
  notMacro : ¬(IsBof r ∧ secondWord? r = some xlsMacroSheetType)

/-- **The grammar.** Allowed records and fewer than four bytes; the first record begins the globals
of a workbook. -/
def IsXlsStream (workbook : List UInt8) : Prop :=
  ∃ (first : Record) (records : List Record), IsStream (first :: records) workbook ∧
    IsBof first ∧ secondWord? first = some 0x0005 ∧ ∀ r ∈ first :: records, AllowedRecord r

-- ---------------------------------------------------------------------------
-- One record
-- ---------------------------------------------------------------------------

/-- What a function answers does not come from a read beyond the end. -/
def ReadsWithin {α : Type} (x : Except XlsStreamError α) : Prop := x ≠ .error .struct

theorem readsWithin_error {α : Type} (code : String) :
    ReadsWithin (Except.error (xlsRejected code) : Except XlsStreamError α) := by
  intro h
  exact XlsStreamError.noConfusion (Except.error.inj h)

theorem readsWithin_ok {α : Type} (a : α) : ReadsWithin (.ok a : Except XlsStreamError α) := by
  intro h
  cases h

/-- An error accepts nothing. -/
theorem rejects {P : Prop} {e : XlsStreamError} (h : ¬P) :
    (Except.error e : Except XlsStreamError Unit) = .ok () ↔ P := by
  constructor
  · intro hOk
    cases hOk
  · intro hP
    exact absurd hP h

theorem unpackWord_drop (workbook : List UInt8) (offset k : Nat) :
    unpackWord workbook (offset + k) = unpackWord (workbook.drop offset) k := by
  rw [unpackWord, wordAt?_add]
  rfl

theorem unpackWord_of_eq {buffer : List UInt8} {offset n : Nat}
    (h : wordAt? buffer offset = some n) : unpackWord buffer offset = .ok n := by
  rw [unpackWord, h]
  rfl

/-- A header is read where there are four bytes. -/
theorem exists_unpackWords {workbook : List UInt8} {offset : Nat}
    (h : offset + 4 ≤ workbook.length) : ∃ id size,
      unpackWords workbook offset = .ok (id, size) ∧
        wordAt? (workbook.drop offset) 0 = some id ∧
        wordAt? (workbook.drop offset) 2 = some size := by
  -- Four bytes are left, so both words are there.
  have hLength : (workbook.drop offset).length = workbook.length - offset := List.length_drop
  obtain ⟨id, hId⟩ := @exists_wordAt? (workbook.drop offset) 0 (by omega)
  obtain ⟨size, hSize⟩ := @exists_wordAt? (workbook.drop offset) 2 (by omega)
  refine ⟨id, size, ?_, hId, hSize⟩
  have hFirst : unpackWord workbook offset = .ok id := by
    rw [← Nat.add_zero offset, unpackWord_drop]
    exact unpackWord_of_eq hId
  have hSecond : unpackWord workbook (offset + 2) = .ok size := by
    rw [unpackWord_drop]
    exact unpackWord_of_eq hSize
  rw [unpackWords, hFirst, ok_bind, hSecond]
  rfl

/-- The macro test reads the second word of a record that begins a sheet. -/
theorem isMacroSheet_record {workbook rest : List UInt8} {offset : Nat} {r : Record}
    (hRecord : workbook.drop offset = r.encode ++ rest) :
    ∃ answer, isMacroSheet workbook offset r.id r.body.length = .ok answer ∧
      (answer = true ↔ IsBof r ∧ secondWord? r = some xlsMacroSheetType) := by
  unfold isMacroSheet
  -- A record of another kind, or too short, is not read.
  by_cases hBof : r.id ∈ xlsBofRecordIds ∧ 4 ≤ r.body.length
  · obtain ⟨n, hWord⟩ := @exists_wordAt? r.body 2 hBof.2
    have hRead : unpackWord workbook (offset + 6) = .ok n := by
      rw [unpackWord_drop, hRecord]
      exact unpackWord_of_eq ((r.wordAt?_body hBof.2 rest).trans hWord)
    refine ⟨n == xlsMacroSheetType, ?_, ?_⟩
    · rw [if_pos hBof, hRead]
      rfl
    · rw [beq_iff_eq, secondWord?, hWord, Option.some.injEq]
      exact ⟨fun h => ⟨hBof, h⟩, fun h => h.2⟩
  · refine ⟨false, if_neg hBof, ?_⟩
    exact ⟨fun h => absurd h Bool.false_ne_true, fun h => absurd h.1 hBof⟩

/-- **One round.** At a record the loop goes on behind it if it is allowed, and rejects it
otherwise. -/
theorem checkXlsRecord_record {workbook rest : List UInt8} {offset : Nat} {r : Record}
    (hRecord : workbook.drop offset = r.encode ++ rest)
    (hEnd : offset + 4 + r.body.length ≤ workbook.length) :
    (checkXlsRecord workbook offset = .ok (offset + 4 + r.body.length) ∧ AllowedRecord r) ∨
      ∃ code, checkXlsRecord workbook offset = .error (xlsRejected code) ∧ ¬AllowedRecord r := by
  obtain ⟨id, size, hWords, hId, hSize⟩ :=
    @exists_unpackWords workbook offset ((Nat.le_add_right _ _).trans hEnd)
  rw [hRecord, r.wordAt?_id] at hId
  rw [hRecord, r.wordAt?_size] at hSize
  obtain rfl := Option.some.inj hId
  obtain rfl := Option.some.inj hSize
  obtain ⟨answer, hAnswer, hMacro⟩ := isMacroSheet_record hRecord
  simp only [checkXlsRecord, hWords, ok_bind, ensure_pos hEnd, hAnswer]
  -- The three tests in the order of the source: encryption, VBA, macro sheet.
  by_cases hEncrypted : r.id ≠ xlsEncryptionRecordId
  · by_cases hVba : r.id ≠ xlsVbaProjectRecordId
    · cases answer with
      | false =>
        left
        refine ⟨?_, hEncrypted, hVba, fun h => Bool.false_ne_true (hMacro.mpr h)⟩
        rw [ensure_pos hEncrypted, ok_bind, ensure_pos hVba, ok_bind, ensure_pos rfl]
        rfl
      | true =>
        right
        refine ⟨"xls_active_content_rejected", ?_, fun h => h.notMacro (hMacro.mp rfl)⟩
        rw [ensure_pos hEncrypted, ok_bind, ensure_pos hVba, ok_bind,
          ensure_neg (fun h => Bool.false_ne_true h.symm)]
        rfl
    · right
      refine ⟨"xls_active_content_rejected", ?_, fun h => hVba h.notVba⟩
      rw [ensure_pos hEncrypted, ok_bind, ensure_neg hVba]
      rfl
  · right
    refine ⟨"xls_encrypted_rejected", ?_, fun h => hEncrypted h.notEncrypted⟩
    rw [ensure_neg hEncrypted]
    rfl

/-- A record that ends beyond the stream. -/
theorem checkXlsRecord_truncated {workbook : List UInt8} {offset size : Nat}
    (hHeader : offset + 4 ≤ workbook.length)
    (hSize : wordAt? (workbook.drop offset) 2 = some size)
    (hEnd : ¬offset + 4 + size ≤ workbook.length) :
    checkXlsRecord workbook offset = .error (xlsRejected "xls_structure_rejected") := by
  obtain ⟨id, size', hWords, -, hSize'⟩ := exists_unpackWords hHeader
  obtain rfl : size = size' := Option.some.inj (hSize.symm.trans hSize')
  simp only [checkXlsRecord, hWords, ok_bind, ensure_neg hEnd]
  rfl

-- ---------------------------------------------------------------------------
-- The loop
-- ---------------------------------------------------------------------------

/-- More fuel changes no verdict. -/
theorem checkXlsRecords_mono {workbook : List UInt8} {fuel fuel' offset : Nat}
    {verdict : Except XlsStreamError Unit} (hFuel : fuel ≤ fuel')
    (h : checkXlsRecords workbook fuel offset = some verdict) :
    checkXlsRecords workbook fuel' offset = some verdict := by
  induction fuel generalizing fuel' offset with
  | zero => cases h
  | succ fuel ih =>
    -- More fuel changes nothing once there is a verdict.
    obtain ⟨more, rfl⟩ : ∃ more, fuel' = more + 1 := ⟨fuel' - 1, by omega⟩
    rw [checkXlsRecords] at h ⊢
    split
    · next hHeader =>
      rw [if_pos hHeader] at h
      cases hRecord : checkXlsRecord workbook offset with
      | error e =>
        rw [hRecord] at h
        exact h
      | ok next =>
        rw [hRecord] at h
        exact ih (by omega) h
    · next hHeader =>
      rw [if_neg hHeader] at h
      exact h

/-- Some records are a stream of which each is allowed. -/
def HasAllowedRecords (buffer : List UInt8) : Prop :=
  ∃ records, IsStream records buffer ∧ ∀ r ∈ records, AllowedRecord r

/-- **The loop.** From any offset it ends, within the bytes that are left, and accepts exactly when
these are a stream of allowed records. -/
theorem checkXlsRecords_iff {workbook : List UInt8} {fuel offset : Nat}
    (hOffset : offset ≤ workbook.length) (hFuel : workbook.length < offset + 4 * fuel) :
    ∃ verdict, checkXlsRecords workbook fuel offset = some verdict ∧ ReadsWithin verdict ∧
      (verdict = .ok () ↔ HasAllowedRecords (workbook.drop offset)) := by
  induction fuel generalizing offset with
  | zero => omega
  | succ fuel ih =>
    have hLength : (workbook.drop offset).length = workbook.length - offset := List.length_drop
    rw [checkXlsRecords]
    by_cases hHeader : offset + 4 ≤ workbook.length
    · rw [if_pos hHeader]
      obtain ⟨id, size, -, hId, hSize⟩ := exists_unpackWords hHeader
      by_cases hEnd : offset + 4 + size ≤ workbook.length
      · obtain ⟨r, rest, hRecord, rfl, rfl⟩ := exists_record hId hSize (by omega)
        have hRest : workbook.drop (offset + 4 + r.body.length) = rest := by
          rw [Nat.add_assoc, ← List.drop_drop, hRecord, r.drop_encode]
        rcases checkXlsRecord_record hRecord hEnd with ⟨hCheck, hAllowed⟩ | ⟨code, hCheck, hNot⟩
        · -- the loop goes on behind the record
          obtain ⟨verdict, hVerdict, hWithin, hIff⟩ := ih hEnd (by omega)
          rw [hCheck]
          refine ⟨verdict, hVerdict, hWithin, hIff.trans ?_⟩
          rw [hRest, hRecord]
          constructor
          · rintro ⟨records, hStream, hEach⟩
            refine ⟨r :: records, isStream_encode_append.mpr ⟨records, rfl, hStream⟩, ?_⟩
            intro x hx
            rcases List.mem_cons.mp hx with rfl | hx
            · exact hAllowed
            · exact hEach x hx
          · rintro ⟨records, hStream, hEach⟩
            obtain ⟨tail, rfl, hTail⟩ := isStream_encode_append.mp hStream
            exact ⟨tail, hTail, fun x hx => hEach x (List.mem_cons_of_mem r hx)⟩
        · rw [hCheck]
          refine ⟨_, rfl, readsWithin_error code, rejects ?_⟩
          rintro ⟨records, hStream, hEach⟩
          rw [hRecord] at hStream
          obtain ⟨tail, rfl, -⟩ := isStream_encode_append.mp hStream
          exact absurd (hEach r List.mem_cons_self) hNot
      · -- the record is cut off
        rw [checkXlsRecord_truncated hHeader hSize hEnd]
        refine ⟨_, rfl, readsWithin_error _, rejects ?_⟩
        rintro ⟨records, hStream, -⟩
        exact absurd hStream (not_isStream_of_truncated (by omega) hSize (by omega))
    · rw [if_neg hHeader]
      refine ⟨_, rfl, readsWithin_ok (), fun _ => ?_, fun _ => rfl⟩
      exact ⟨[], isStream_nil (by omega), fun r hr => absurd hr List.not_mem_nil⟩

-- ---------------------------------------------------------------------------
-- The stream
-- ---------------------------------------------------------------------------

/-- The first record is a header of the globals of a workbook. -/
def StartsGlobals (workbook : List UInt8) : Prop :=
  ∃ (first : Record) (rest : List UInt8), workbook = first.encode ++ rest ∧ IsBof first ∧
    secondWord? first = some 0x0005

/-- The check of the start accepts exactly the streams that begin with the globals. -/
theorem checkXlsStart_iff (workbook : List UInt8) :
    ReadsWithin (checkXlsStart workbook) ∧
      (checkXlsStart workbook = .ok () ↔ StartsGlobals workbook) := by
  unfold checkXlsStart
  by_cases hLength : 8 ≤ workbook.length
  · obtain ⟨id, size, hWords, hId, hSize⟩ := @exists_unpackWords workbook 0 (by omega)
    rw [List.drop_zero] at hId hSize
    obtain ⟨kind, hKind⟩ := @exists_wordAt? workbook 6 hLength
    simp only [ensure_pos hLength, ok_bind, hWords, unpackWord_of_eq hKind]
    -- what is read is of the first record, if there is one
    have hFirst : ∀ (first : Record) (rest : List UInt8), workbook = first.encode ++ rest →
        first.id = id ∧ first.body.length = size ∧
          (4 ≤ size → secondWord? first = some kind) := by
      rintro first rest rfl
      rw [first.wordAt?_id] at hId
      rw [first.wordAt?_size] at hSize
      refine ⟨Option.some.inj hId, Option.some.inj hSize, fun hFour => ?_⟩
      have hBody : 2 + 2 ≤ first.body.length := by
        rw [Option.some.inj hSize]
        exact hFour
      rw [secondWord?, ← first.wordAt?_body hBody rest]
      exact hKind
    by_cases hBof : id ∈ xlsBofRecordIds ∧ 4 ≤ size
    · by_cases hEnd : 4 + size ≤ workbook.length
      · obtain ⟨first, rest, hRecord, hFirstId, hFirstSize⟩ := exists_record hId hSize hEnd
        have hSecond := (hFirst first rest hRecord).2.2 hBof.2
        rw [ensure_pos hBof, ok_bind, ensure_pos hEnd, ok_bind]
        by_cases hGlobals : kind = 0x0005
        · rw [ensure_pos hGlobals]
          refine ⟨readsWithin_ok (), fun _ => ?_, fun _ => rfl⟩
          refine ⟨first, rest, hRecord, ?_, hGlobals ▸ hSecond⟩
          rw [IsBof, hFirstId, hFirstSize]
          exact hBof
        · rw [ensure_neg hGlobals]
          refine ⟨readsWithin_error _, rejects ?_⟩
          rintro ⟨other, rest', hOther, -, hKindOther⟩
          have hSame := (hFirst other rest' hOther).2.2 hBof.2
          exact absurd (Option.some.inj (hSame.symm.trans hKindOther)) hGlobals
      · rw [ensure_pos hBof, ok_bind, ensure_neg hEnd]
        refine ⟨readsWithin_error _, rejects ?_⟩
        rintro ⟨other, rest', hOther, -, -⟩
        have hOtherSize := (hFirst other rest' hOther).2.1
        have hTotal := congrArg List.length hOther
        rw [List.length_append, other.length_encode] at hTotal
        omega
    · rw [ensure_neg hBof]
      refine ⟨readsWithin_error _, rejects ?_⟩
      rintro ⟨other, rest', hOther, hOtherBof, -⟩
      obtain ⟨hOtherId, hOtherSize, -⟩ := hFirst other rest' hOther
      rw [IsBof, hOtherId, hOtherSize] at hOtherBof
      exact absurd hOtherBof hBof
  · rw [ensure_neg hLength]
    refine ⟨readsWithin_error _, rejects ?_⟩
    rintro ⟨first, rest, rfl, hBof, -⟩
    have hFour := hBof.2
    rw [List.length_append, first.length_encode] at hLength
    omega

/-- A stream is accepted when it begins with the globals and all its records are allowed. -/
theorem isXlsStream_iff (workbook : List UInt8) :
    IsXlsStream workbook ↔ StartsGlobals workbook ∧ HasAllowedRecords workbook := by
  constructor
  · rintro ⟨first, records, hStream, hBof, hKind, hEach⟩
    refine ⟨?_, first :: records, hStream, hEach⟩
    obtain ⟨leftover, -, rfl⟩ := hStream
    exact ⟨first, records.flatMap Record.encode ++ leftover,
      by rw [List.flatMap_cons, List.append_assoc], hBof, hKind⟩
  · rintro ⟨⟨first, rest, rfl, hBof, hKind⟩, records, hStream, hEach⟩
    obtain ⟨tail, rfl, -⟩ := isStream_encode_append.mp hStream
    exact ⟨first, tail, hStream, hBof, hKind, hEach⟩

/-- **The validation of a stream.** On every byte string it ends, within a round for every four
bytes and one more; nothing is read beyond the end; and it accepts exactly its grammar. -/
theorem xls_stream_exact (workbook : List UInt8) :
    ∃ verdict : Except XlsStreamError Unit,
      (∀ fuel, workbook.length / 4 + 1 ≤ fuel →
          validateXlsWorkbookStream fuel workbook = some verdict) ∧
        verdict ≠ .error .struct ∧ (verdict = .ok () ↔ IsXlsStream workbook) := by
  obtain ⟨hStart, hGlobals⟩ := checkXlsStart_iff workbook
  rw [isXlsStream_iff]
  unfold validateXlsWorkbookStream
  cases hCheck : checkXlsStart workbook with
  | error e =>
    rw [hCheck] at hStart hGlobals
    have hNe : e ≠ .struct := fun h => hStart (congrArg _ h)
    refine ⟨.error e, fun _ _ => rfl, fun h => hNe (Except.error.inj h), rejects ?_⟩
    intro h
    cases hGlobals.mpr h.1
  | ok _ =>
    rw [hCheck] at hGlobals
    -- Each record has four bytes at least, so this fuel reaches the end.
    obtain ⟨verdict, hVerdict, hWithin, hIff⟩ :=
      @checkXlsRecords_iff workbook (workbook.length / 4 + 1) 0 (Nat.zero_le _) (by omega)
    refine ⟨verdict, fun fuel hFuel => checkXlsRecords_mono hFuel hVerdict, hWithin, ?_⟩
    rw [hIff, List.drop_zero]
    exact ⟨fun h => ⟨hGlobals.mp rfl, h⟩, fun h => h.2⟩

/-- A stream of one record, and the same stream without its last byte. -/
example :
    validateXlsWorkbookStream 3 [0x09, 0x08, 0x04, 0x00, 0x00, 0x06, 0x05, 0x00] = some (.ok ()) ∧
      validateXlsWorkbookStream 2 [0x09, 0x08, 0x04, 0x00, 0x00, 0x06, 0x05] =
        some (.error (xlsRejected "xls_structure_rejected")) := by
  decide

end SpikeBackend
