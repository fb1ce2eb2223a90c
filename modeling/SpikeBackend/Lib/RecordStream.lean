import Mathlib.Data.List.Basic

/-!
# Streams of binary records

A record is a word that identifies it, a word with the size of its body, and the body; words are
little-endian, of two bytes. A stream is one record after another, up to a rest that is too short
for another header.

* `wordAt?_isSome` — a word can be read exactly within the buffer;
* `exists_record` — a header and as many bytes as it declares are a record;
* `isStream_encode_append`, `not_isStream_of_truncated` — a stream, by its first record.
-/

namespace RecordStream

-- ---------------------------------------------------------------------------
-- Words
-- ---------------------------------------------------------------------------

/-- A little-endian word. -/
def word (low high : UInt8) : Nat := low.toNat + 256 * high.toNat

/-- The bytes of a word. -/
def wordBytes (n : Nat) : List UInt8 := [n.toUInt8, (n / 256).toUInt8]

/-- The word at an offset, unless it is beyond the end. -/
def wordAt? (buffer : List UInt8) (offset : Nat) : Option Nat :=
  match buffer.drop offset with
  | low :: high :: _ => some (word low high)
  | _ => none

/-- Two bytes are a number below 65536. -/
theorem word_lt (low high : UInt8) : word low high < 65536 := by
  have hLow := low.toNat_lt
  have hHigh := high.toNat_lt
  unfold word
  omega

/-- A number below 65536 is that of its two bytes. -/
theorem word_of_lt {n : Nat} (h : n < 65536) :
    word n.toUInt8 (n / 256).toUInt8 = n := by
  have hLow : n.toUInt8.toNat = n % 256 := UInt8.toNat_ofNat'
  have hHigh : (n / 256).toUInt8.toNat = n / 256 % 256 := UInt8.toNat_ofNat'
  unfold word
  omega

/-- Two bytes are those of their number. -/
theorem wordBytes_word (low high : UInt8) : wordBytes (word low high) = [low, high] := by
  have hLow := low.toNat_lt
  have hHigh := high.toNat_lt
  have hFirst : (word low high).toUInt8 = low := by
    apply UInt8.toNat_inj.mp
    have hMod : (word low high).toUInt8.toNat = word low high % 256 := UInt8.toNat_ofNat'
    rw [hMod]
    unfold word
    omega
  have hSecond : (word low high / 256).toUInt8 = high := by
    apply UInt8.toNat_inj.mp
    have hMod : (word low high / 256).toUInt8.toNat = word low high / 256 % 256 :=
      UInt8.toNat_ofNat'
    rw [hMod]
    unfold word
    omega
  rw [wordBytes, hFirst, hSecond]

/-- A number is read from its two bytes. -/
theorem wordAt?_wordBytes {n : Nat} (h : n < 65536) (rest : List UInt8) :
    wordAt? (wordBytes n ++ rest) 0 = some n := by
  show some (word n.toUInt8 (n / 256).toUInt8) = some n
  rw [word_of_lt h]

/-- Reading behind an offset is reading in the rest. -/
theorem wordAt?_add (buffer : List UInt8) (offset k : Nat) :
    wordAt? buffer (offset + k) = wordAt? (buffer.drop offset) k := by
  unfold wordAt?
  rw [List.drop_drop]

/-- Reading behind what stands in front. -/
theorem wordAt?_append_add (front rest : List UInt8) (k : Nat) :
    wordAt? (front ++ rest) (front.length + k) = wordAt? rest k := by
  rw [wordAt?_add, List.drop_left]

/-- A word within the front does not see what stands behind it. -/
theorem wordAt?_append_of_le {front : List UInt8} {k : Nat} (h : k + 2 ≤ front.length)
    (rest : List UInt8) : wordAt? (front ++ rest) k = wordAt? front k := by
  unfold wordAt?
  rw [List.drop_append_of_le_length (by omega)]
  have hLength : 2 ≤ (front.drop k).length := by
    rw [List.length_drop]
    omega
  cases hDrop : front.drop k with
  | nil =>
    rw [hDrop, List.length_nil] at hLength
    omega
  | cons low tail =>
    cases tail with
    | nil =>
      rw [hDrop, List.length_singleton] at hLength
      omega
    | cons high tail => rfl

/-- **Reads.** A word can be read exactly within the buffer. -/
theorem wordAt?_isSome {buffer : List UInt8} {offset : Nat} :
    (wordAt? buffer offset).isSome = true ↔ offset + 2 ≤ buffer.length := by
  -- two bytes must be left behind the offset
  have hLength : (buffer.drop offset).length = buffer.length - offset := List.length_drop
  unfold wordAt?
  cases hDrop : buffer.drop offset with
  | nil =>
    rw [hDrop, List.length_nil] at hLength
    refine ⟨fun h => absurd h Bool.false_ne_true, fun h => ?_⟩
    omega
  | cons low tail =>
    cases tail with
    | nil =>
      rw [hDrop, List.length_singleton] at hLength
      refine ⟨fun h => absurd h Bool.false_ne_true, fun h => ?_⟩
      omega
    | cons high tail =>
      rw [hDrop, List.length_cons, List.length_cons] at hLength
      refine ⟨fun _ => ?_, fun _ => rfl⟩
      omega

/-- A word within the buffer can be read. -/
theorem exists_wordAt? {buffer : List UInt8} {offset : Nat} (h : offset + 2 ≤ buffer.length) :
    ∃ n, wordAt? buffer offset = some n :=
  Option.isSome_iff_exists.mp (wordAt?_isSome.mpr h)

-- ---------------------------------------------------------------------------
-- Records
-- ---------------------------------------------------------------------------

/-- A record whose identifier and size are words. -/
@[ext] structure Record where
  id : Nat
  body : List UInt8
  id_lt : id < 65536
  size_lt : body.length < 65536

namespace Record

variable (r : Record)

/-- The header and the body. -/
def encode : List UInt8 := wordBytes r.id ++ (wordBytes r.body.length ++ r.body)

/-- A record takes four bytes more than its body. -/
theorem length_encode : r.encode.length = 4 + r.body.length := by
  rw [encode, List.length_append, List.length_append]
  show 2 + (2 + r.body.length) = _
  omega

/-- The first word of a record is its number. -/
theorem wordAt?_id (rest : List UInt8) : wordAt? (r.encode ++ rest) 0 = some r.id := by
  rw [encode, List.append_assoc]
  exact wordAt?_wordBytes r.id_lt _

/-- The second word of a record is the size of its body. -/
theorem wordAt?_size (rest : List UInt8) :
    wordAt? (r.encode ++ rest) 2 = some r.body.length := by
  have hHeader : (wordBytes r.id).length = 2 := rfl
  rw [encode, List.append_assoc, List.append_assoc, ← hHeader]
  exact (wordAt?_append_add _ _ 0).trans (wordAt?_wordBytes r.size_lt (r.body ++ rest))

/-- The words of the body stand behind the header. -/
theorem wordAt?_body {k : Nat} (h : k + 2 ≤ r.body.length) (rest : List UInt8) :
    wordAt? (r.encode ++ rest) (4 + k) = wordAt? r.body k := by
  have hFront : (wordBytes r.id ++ wordBytes r.body.length).length = 4 := rfl
  rw [encode, ← List.append_assoc, List.append_assoc, ← hFront, wordAt?_append_add,
    wordAt?_append_of_le h]

/-- Behind a record stands what follows it. -/
theorem drop_encode (rest : List UInt8) :
    (r.encode ++ rest).drop (4 + r.body.length) = rest := by
  rw [← length_encode, List.drop_left]

end Record

/-- A header and as many bytes as it declares are a record. -/
theorem exists_record {buffer : List UInt8} {id size : Nat} (hId : wordAt? buffer 0 = some id)
    (hSize : wordAt? buffer 2 = some size) (hLength : 4 + size ≤ buffer.length) :
    ∃ (r : Record) (rest : List UInt8),
      buffer = r.encode ++ rest ∧ r.id = id ∧ r.body.length = size := by
  match buffer, hId, hSize, hLength with
  | a :: b :: c :: d :: tail, hId, hSize, hLength =>
    -- four bytes of header, then as many as the second word says
    obtain rfl : word a b = id := Option.some.inj hId
    obtain rfl : word c d = size := Option.some.inj hSize
    have hTail : word c d ≤ tail.length := by
      have hCons : (a :: b :: c :: d :: tail).length = tail.length + 4 := rfl
      omega
    have hBody : (tail.take (word c d)).length = word c d := List.length_take_of_le hTail
    have hSize : (tail.take (word c d)).length < 65536 := by
      rw [hBody]
      exact word_lt c d
    refine ⟨⟨word a b, tail.take (word c d), word_lt a b, hSize⟩, tail.drop (word c d), ?_, rfl,
      hBody⟩
    rw [Record.encode, hBody, wordBytes_word, wordBytes_word, List.append_assoc, List.append_assoc,
      List.take_append_drop]
    rfl

/-- A record is read off the front of a buffer in one way. -/
theorem encode_append_inj {r r' : Record} {rest rest' : List UInt8}
    (h : r.encode ++ rest = r'.encode ++ rest') : r = r' ∧ rest = rest' := by
  have hId : r.id = r'.id := by
    have hWord := r.wordAt?_id rest
    rw [h, r'.wordAt?_id] at hWord
    exact (Option.some.inj hWord).symm
  have hSize : r.body.length = r'.body.length := by
    have hWord := r.wordAt?_size rest
    rw [h, r'.wordAt?_size] at hWord
    exact (Option.some.inj hWord).symm
  -- the headers say the same length, so the two records end at one place
  have hLength : r.encode.length = r'.encode.length := by
    rw [r.length_encode, r'.length_encode, hSize]
  obtain ⟨hEncode, hRest⟩ := List.append_inj h hLength
  have hHeader : (wordBytes r.id).length = (wordBytes r'.id).length := rfl
  have hSizes : (wordBytes r.body.length).length = (wordBytes r'.body.length).length := rfl
  have hBody := (List.append_inj (List.append_inj hEncode hHeader).2 hSizes).2
  exact ⟨Record.ext hId hBody, hRest⟩

-- ---------------------------------------------------------------------------
-- Streams
-- ---------------------------------------------------------------------------

/-- The records, one after another, and a rest that is shorter than a header. -/
def IsStream (records : List Record) (buffer : List UInt8) : Prop :=
  ∃ leftover : List UInt8, leftover.length < 4 ∧ buffer = records.flatMap Record.encode ++ leftover

theorem isStream_nil {buffer : List UInt8} (h : buffer.length < 4) : IsStream [] buffer :=
  ⟨buffer, h, rfl⟩

/-- **A stream, by its first record.** -/
theorem isStream_encode_append {records : List Record} {r : Record} {rest : List UInt8} :
    IsStream records (r.encode ++ rest) ↔ ∃ tail, records = r :: tail ∧ IsStream tail rest := by
  constructor
  · rintro ⟨leftover, hShort, hBuffer⟩
    cases records with
    | nil =>
      have hLength := congrArg List.length hBuffer
      rw [List.flatMap_nil, List.nil_append, List.length_append, r.length_encode] at hLength
      omega
    | cons first tail =>
      rw [List.flatMap_cons, List.append_assoc] at hBuffer
      -- the first record is determined by the buffer
      obtain ⟨rfl, hRest⟩ := encode_append_inj hBuffer
      exact ⟨tail, rfl, leftover, hShort, hRest⟩
  · rintro ⟨tail, rfl, leftover, hShort, rfl⟩
    exact ⟨leftover, hShort, by rw [List.flatMap_cons, List.append_assoc]⟩

/-- A buffer that ends inside its first record is no stream. -/
theorem not_isStream_of_truncated {records : List Record} {buffer : List UInt8} {size : Nat}
    (hHeader : 4 ≤ buffer.length) (hSize : wordAt? buffer 2 = some size)
    (hLength : buffer.length < 4 + size) : ¬IsStream records buffer := by
  rintro ⟨leftover, hShort, rfl⟩
  cases records with
  | nil =>
    rw [List.flatMap_nil, List.nil_append] at hHeader
    omega
  | cons r records =>
    rw [List.flatMap_cons, List.append_assoc] at hSize hLength
    -- the first record would have the declared size, and would not fit
    rw [r.wordAt?_size] at hSize
    obtain rfl := Option.some.inj hSize
    rw [List.length_append, r.length_encode] at hLength
    omega

end RecordStream
