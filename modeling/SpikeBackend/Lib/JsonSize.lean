import Mathlib.Algebra.Order.BigOperators.Group.List
import Mathlib.Algebra.Ring.Nat
import SpikeBackend.Lib.JsonText
import SpikeBackend.Lib.Utf8

/-!
# The size of JSON texts

How many bytes the UTF-8 encoding of a JSON text has, counted from the value: a character of a
string has one to four bytes, or those of its escape, and what stands between the parts of an
array or an object has bytes of its own.

* `length_flatMap_encodeChar` — the bytes of a text;
* `textBytes_jsonText` — the bytes of a JSON text;
* `valueBytes_sortKeys` — sorting the keys does not change them;
* `encode?_jsonText` — a value without surrogates has an encoding;
* `stringBytes_bounds` — a string has one to six bytes for each character.
-/

namespace Text

-- ---------------------------------------------------------------------------
-- Texts
-- ---------------------------------------------------------------------------

/-- The bytes of a character in UTF-8. -/
def charBytes (c : CodePoint) : Nat :=
  if c.val < 0x80 then 1 else if c.val < 0x800 then 2 else if c.val < 0x10000 then 3 else 4

/-- The bytes of a text. -/
def textBytes (s : Str) : Nat := (s.map charBytes).sum

/-- The characters that have an escape of two characters. -/
def isShortEscape (c : CodePoint) : Bool :=
  c.val == 0x22 || c.val == 0x5C || c.val == 0x0A || c.val == 0x0D || c.val == 0x09 ||
    c.val == 0x0C || c.val == 0x08

/-- The bytes of a character in a JSON string. -/
def escapedBytes (c : CodePoint) : Nat :=
  if isShortEscape c then 2 else if c.val < 0x20 then 6 else charBytes c

/-- The bytes of a JSON string, with its quotes. -/
def stringBytes (s : Str) : Nat := (s.map escapedBytes).sum + 2

/-- A character is encoded in as many bytes as it is counted for. -/
theorem length_encodeChar (c : CodePoint) : (encodeChar c).length = charBytes c := by
  unfold charBytes
  split
  · next hOne => rw [encodeChar_one hOne]; rfl
  split
  · next hTwo => rw [encodeChar_two (by omega) hTwo]; rfl
  split
  · next hThree => rw [encodeChar_three (by omega) hThree]; rfl
  · rw [encodeChar_four (by omega)]
    rfl

/-- **The bytes of a text** are those of its encoding. -/
theorem length_flatMap_encodeChar (s : Str) : (s.flatMap encodeChar).length = textBytes s := by
  rw [List.length_flatMap, textBytes]
  exact congrArg List.sum (List.map_congr_left fun c _ => length_encodeChar c)

/-- The bytes of two texts add up. -/
theorem textBytes_append (s t : Str) : textBytes (s ++ t) = textBytes s + textBytes t := by
  rw [textBytes, List.map_append, List.sum_append]
  rfl

/-- The bytes of a text, by its first character. -/
theorem textBytes_cons (c : CodePoint) (s : Str) : textBytes (c :: s) = charBytes c + textBytes s := by
  rw [textBytes, List.map_cons, List.sum_cons]
  rfl

/-- A text in ASCII has a byte for each character. -/
theorem textBytes_ascii {s : Str} (h : ∀ c ∈ s, c.val < 0x80) : textBytes s = s.length := by
  induction s with
  | nil => rfl
  | cons c s ih =>
    have hHead : charBytes c = 1 := if_pos (h c List.mem_cons_self)
    rw [textBytes_cons, hHead, ih fun d hd => h d (List.mem_cons_of_mem c hd), List.length_cons,
      Nat.add_comm]

/-- The bytes of a character that is repeated. -/
theorem textBytes_replicate (n : Nat) (c : CodePoint) :
    textBytes (List.replicate n c) = n * charBytes c := by
  rw [textBytes, List.map_replicate, List.sum_replicate_nat]

/-- Joining adds a separator between any two texts. -/
theorem textBytes_intercalate (sep : Str) (texts : List Str) :
    textBytes (sep.intercalate texts) =
      (texts.map textBytes).sum + (texts.length - 1) * textBytes sep := by
  induction texts with
  | nil => simp [List.intercalate_nil, textBytes]
  | cons t texts ih =>
    cases texts with
    | nil => simp [List.intercalate_singleton]
    | cons t' texts =>
      rw [List.intercalate_cons_cons, textBytes_append, textBytes_append, ih]
      simp only [List.map_cons, List.sum_cons, List.length_cons, Nat.add_sub_cancel, Nat.add_mul,
        Nat.one_mul]
      omega

-- ---------------------------------------------------------------------------
-- Strings
-- ---------------------------------------------------------------------------

/-- **Escapes.** The bytes of a character in a JSON string. -/
theorem textBytes_escapeChar (c : CodePoint) : textBytes (escapeChar c) = escapedBytes c := by
  unfold escapeChar
  split
  · next h => simp [escapedBytes, isShortEscape, h]; rfl
  split
  · next h => simp [escapedBytes, isShortEscape, h]; rfl
  split
  · next h => simp [escapedBytes, isShortEscape, h]; rfl
  split
  · next h => simp [escapedBytes, isShortEscape, h]; rfl
  split
  · next h => simp [escapedBytes, isShortEscape, h]; rfl
  split
  · next h => simp [escapedBytes, isShortEscape, h]; rfl
  split
  · next h => simp [escapedBytes, isShortEscape, h]; rfl
  have hShort : isShortEscape c = false := by simp_all [isShortEscape]
  have hUnescaped : escapedBytes c = if c.val < 0x20 then 6 else charBytes c := by
    rw [escapedBytes, hShort]
    rfl
  rw [hUnescaped]
  split
  · -- `\u` and four digits
    rw [textBytes_append, textBytes_ascii (s := hexText 4 c.val), length_hexText]
    · rfl
    · intro d hd
      by_contra hHigh
      have hDigit : ∀ k < 16, d ≠ hexDigit k := by
        rintro k hk rfl
        have hLow : ∀ k < 16, (hexDigit k).val < 0x80 := by decide
        exact hHigh (hLow k hk)
      exact not_mem_hexText hDigit _ _ hd
  · rw [textBytes_cons]
    rfl

/-- The bytes of a string literal are those of its escaped characters and of two quotes. -/
theorem textBytes_quoted (s : Str) : textBytes (quoted s) = stringBytes s := by
  have hChars : textBytes (s.flatMap escapeChar) = (s.map escapedBytes).sum := by
    induction s with
    | nil => rfl
    | cons c s ih =>
      rw [List.flatMap_cons, textBytes_append, textBytes_escapeChar, ih, List.map_cons, List.sum_cons]
  rw [quoted, textBytes_append, textBytes_append, hChars, stringBytes, Nat.add_comm (textBytes _)]
  rfl

/-- No character takes more than four bytes. -/
theorem charBytes_le (c : CodePoint) : charBytes c ≤ 4 := by
  unfold charBytes
  split_ifs <;> omega

/-- An escaped character takes at least one byte. -/
theorem le_escapedBytes (c : CodePoint) : 1 ≤ escapedBytes c := by
  unfold escapedBytes charBytes
  split_ifs <;> omega

/-- An escaped character takes at most six bytes, which are those of a `\u` escape. -/
theorem escapedBytes_le (c : CodePoint) : escapedBytes c ≤ 6 := by
  have hChar := charBytes_le c
  unfold escapedBytes
  split_ifs <;> omega

/-- A string has one to six bytes for each of its characters. -/
theorem stringBytes_bounds (s : Str) : s.length + 2 ≤ stringBytes s ∧ stringBytes s ≤ 6 * s.length + 2 := by
  induction s with
  | nil => exact ⟨Nat.le_refl _, Nat.le_refl _⟩
  | cons c s ih =>
    have hLow := le_escapedBytes c
    have hHigh := escapedBytes_le c
    have hCons : stringBytes (c :: s) = escapedBytes c + stringBytes s := by
      rw [stringBytes, List.map_cons, List.sum_cons, Nat.add_assoc]
      rfl
    rw [hCons, List.length_cons]
    omega

/-- The literal of a string that repeats one character. -/
theorem stringBytes_replicate (n : Nat) (c : CodePoint) :
    stringBytes (List.replicate n c) = n * escapedBytes c + 2 := by
  rw [stringBytes, List.map_replicate, List.sum_replicate_nat]

/-- A number is written in ASCII characters, of one byte each. -/
theorem textBytes_intText (n : Int) : textBytes (intText n) = (intText n).length := by
  refine textBytes_ascii fun c hc => ?_
  have hDigit := mem_intText hc
  omega

-- ---------------------------------------------------------------------------
-- Values
-- ---------------------------------------------------------------------------

mutual

/-- The bytes of the JSON text of a value. -/
def valueBytes (floatRepr : Rat → Str) : Json → Nat
  | .null => 4
  | .bool b => if b then 4 else 5
  | .int n => (intText n).length
  | .float x => textBytes (floatRepr x)
  | .str s => stringBytes s
  | .arr items => itemBytes floatRepr items + (items.length - 1) + 2
  | .obj members => memberBytes floatRepr members + (members.length - 1) + 2

/-- The bytes of the items of an array. -/
def itemBytes (floatRepr : Rat → Str) : List Json → Nat
  | [] => 0
  | item :: items => valueBytes floatRepr item + itemBytes floatRepr items

/-- The bytes of the members of an object. -/
def memberBytes (floatRepr : Rat → Str) : List (Str × Json) → Nat
  | [] => 0
  | (key, value) :: members =>
    stringBytes key + 1 + valueBytes floatRepr value + memberBytes floatRepr members

end

/-- The bytes of items, as a sum. -/
theorem itemBytes_eq_sum (floatRepr : Rat → Str) (items : List Json) :
    itemBytes floatRepr items = (items.map (valueBytes floatRepr)).sum := by
  induction items with
  | nil => rfl
  | cons item items ih => rw [itemBytes, ih, List.map_cons, List.sum_cons]

/-- The bytes of members, as a sum: each has its key, a colon and its value. -/
theorem memberBytes_eq_sum (floatRepr : Rat → Str) (members : List (Str × Json)) :
    memberBytes floatRepr members =
      (members.map fun m => stringBytes m.1 + 1 + valueBytes floatRepr m.2).sum := by
  induction members with
  | nil => rfl
  | cons m members ih => rw [memberBytes, ih, List.map_cons, List.sum_cons]

/-- Each member has one text. -/
theorem length_memberTexts (floatRepr : Rat → Str) (members : List (Str × Json)) :
    (memberTexts floatRepr members).length = members.length := by
  rw [memberTexts_eq_map, List.length_map]

/-- Each item has one text. -/
theorem length_itemTexts (floatRepr : Rat → Str) (items : List Json) :
    (itemTexts floatRepr items).length = items.length := by
  rw [itemTexts_eq_map, List.length_map]

/-- Texts joined by commas between brackets. -/
theorem textBytes_joined {first last : Str} (hFirst : textBytes first = 1)
    (hLast : textBytes last = 1) (texts : List Str) :
    textBytes (first ++ (str ",").intercalate texts ++ last) =
      (texts.map textBytes).sum + (texts.length - 1) + 2 := by
  have hComma : textBytes (str ",") = 1 := rfl
  rw [textBytes_append, textBytes_append, hFirst, hLast, textBytes_intercalate, hComma, Nat.mul_one]
  omega

mutual

/-- **The bytes of a JSON text.** -/
theorem textBytes_jsonText (floatRepr : Rat → Str) :
    ∀ value : Json, textBytes (jsonText floatRepr value) = valueBytes floatRepr value
  | .null => rfl
  | .bool true => rfl
  | .bool false => rfl
  | .int n => textBytes_intText n
  | .float _ => rfl
  | .str s => textBytes_quoted s
  | .arr items => by
    rw [jsonText, textBytes_joined rfl rfl, textBytes_itemTexts floatRepr items, length_itemTexts]
    rfl
  | .obj members => by
    rw [jsonText, textBytes_joined rfl rfl, textBytes_memberTexts floatRepr members,
      length_memberTexts]
    rfl

/-- The texts of the items have the bytes that are counted for them. -/
theorem textBytes_itemTexts (floatRepr : Rat → Str) :
    ∀ items : List Json, ((itemTexts floatRepr items).map textBytes).sum = itemBytes floatRepr items
  | [] => rfl
  | item :: items => by
    rw [itemTexts, List.map_cons, List.sum_cons, textBytes_jsonText floatRepr item,
      textBytes_itemTexts floatRepr items]
    rfl

/-- The texts of the members have the bytes that are counted for them. -/
theorem textBytes_memberTexts (floatRepr : Rat → Str) :
    ∀ members : List (Str × Json),
      ((memberTexts floatRepr members).map textBytes).sum = memberBytes floatRepr members
  | [] => rfl
  | (key, value) :: members => by
    rw [memberTexts, List.map_cons, List.sum_cons, textBytes_append, textBytes_append,
      textBytes_quoted, textBytes_jsonText floatRepr value, textBytes_memberTexts floatRepr members]
    rfl

end

-- ---------------------------------------------------------------------------
-- Sorted keys
-- ---------------------------------------------------------------------------

mutual

/-- Sorting the keys changes no size. -/
theorem valueBytes_sortKeys (floatRepr : Rat → Str) :
    ∀ value : Json, valueBytes floatRepr value.sortKeys = valueBytes floatRepr value
  | .null => rfl
  | .bool _ => rfl
  | .int _ => rfl
  | .float _ => rfl
  | .str _ => rfl
  | .arr items => by
    rw [Json.sortKeys_arr, valueBytes, valueBytes, List.length_map,
      itemBytes_sortKeys floatRepr items]
  | .obj members => by
    -- the members only move, and a sum does not see their order
    have hPerm := Json.sortedMembers_perm members
    rw [Json.sortKeys_obj, valueBytes, valueBytes, hPerm.length_eq, List.length_map,
      memberBytes_eq_sum, (hPerm.map _).sum_eq, ← memberBytes_eq_sum,
      memberBytes_sortKeys floatRepr members]

/-- Sorting the keys within items keeps their bytes. -/
theorem itemBytes_sortKeys (floatRepr : Rat → Str) :
    ∀ items : List Json, itemBytes floatRepr (items.map Json.sortKeys) = itemBytes floatRepr items
  | [] => rfl
  | item :: items => by
    rw [List.map_cons, itemBytes, itemBytes, valueBytes_sortKeys floatRepr item,
      itemBytes_sortKeys floatRepr items]

/-- Sorting the keys within the values of members keeps their bytes. -/
theorem memberBytes_sortKeys (floatRepr : Rat → Str) :
    ∀ members : List (Str × Json),
      memberBytes floatRepr (members.map fun m => (m.1, m.2.sortKeys)) =
        memberBytes floatRepr members
  | [] => rfl
  | (key, value) :: members => by
    rw [List.map_cons, memberBytes, memberBytes, valueBytes_sortKeys floatRepr value,
      memberBytes_sortKeys floatRepr members]

end

-- ---------------------------------------------------------------------------
-- Values that are written
-- ---------------------------------------------------------------------------

mutual

/-- No integer of the value has too many digits, and no string a surrogate. -/
def isWritten : Json → Bool
  | .int n => decide ((natText n.natAbs).length ≤ maxStrDigits)
  | .str s => !s.any isSurrogate
  | .arr items => itemsWritten items
  | .obj members => membersWritten members
  | _ => true

def itemsWritten : List Json → Bool
  | [] => true
  | item :: items => isWritten item && itemsWritten items

def membersWritten : List (Str × Json) → Bool
  | [] => true
  | (key, value) :: members => !key.any isSurrogate && isWritten value && membersWritten members

end

/-- Items are written if each of them is. -/
theorem itemsWritten_eq_all (items : List Json) : itemsWritten items = items.all isWritten := by
  induction items with
  | nil => rfl
  | cons item items ih => rw [itemsWritten, ih, List.all_cons]

/-- Members are written if each key is encodable and each value is written. -/
theorem membersWritten_eq_all (members : List (Str × Json)) :
    membersWritten members = members.all fun m => !m.1.any isSurrogate && isWritten m.2 := by
  induction members with
  | nil => rfl
  | cons m members ih => rw [membersWritten, ih, List.all_cons]

mutual

/-- Sorting keys does not change whether a value can be written. -/
theorem isWritten_sortKeys : ∀ value : Json, isWritten value.sortKeys = isWritten value
  | .null => rfl
  | .bool _ => rfl
  | .int _ => rfl
  | .float _ => rfl
  | .str _ => rfl
  | .arr items => by
    rw [Json.sortKeys_arr, isWritten, isWritten, itemsWritten_sortKeys items]
  | .obj members => by
    rw [Json.sortKeys_obj, isWritten, isWritten, membersWritten_eq_all,
      (Json.sortedMembers_perm members).all_eq, ← membersWritten_eq_all,
      membersWritten_sortKeys members]

/-- The same for the items of an array. -/
theorem itemsWritten_sortKeys :
    ∀ items : List Json, itemsWritten (items.map Json.sortKeys) = itemsWritten items
  | [] => rfl
  | item :: items => by
    rw [List.map_cons, itemsWritten, itemsWritten, isWritten_sortKeys item,
      itemsWritten_sortKeys items]

/-- The same for the members of an object. -/
theorem membersWritten_sortKeys :
    ∀ members : List (Str × Json),
      membersWritten (members.map fun m => (m.1, m.2.sortKeys)) = membersWritten members
  | [] => rfl
  | (key, value) :: members => by
    rw [List.map_cons, membersWritten, membersWritten, isWritten_sortKeys value,
      membersWritten_sortKeys members]

end

mutual

/-- A value that is written has no number with too many digits for `json.dumps`. -/
theorem writable_of_isWritten :
    ∀ value : Json, isWritten value = true → value.writable = true
  | .null, _ => rfl
  | .bool _, _ => rfl
  | .int n, h => by
    rw [Json.writable, Json.ints, List.all_cons, List.all_nil, Bool.and_true]
    exact h
  | .float _, _ => rfl
  | .str _, _ => rfl
  | .arr items, h => itemInts_of_itemsWritten items h
  | .obj members, h => memberInts_of_membersWritten members h

/-- The numbers in items that are written have few enough digits. -/
theorem itemInts_of_itemsWritten :
    ∀ items : List Json, itemsWritten items = true →
      ((Json.itemInts items).all fun n => decide ((natText n.natAbs).length ≤ maxStrDigits)) = true
  | [], _ => rfl
  | item :: items, h => by
    rw [itemsWritten, Bool.and_eq_true] at h
    rw [Json.itemInts, List.all_append, Bool.and_eq_true]
    exact ⟨writable_of_isWritten item h.1, itemInts_of_itemsWritten items h.2⟩

/-- The numbers in members that are written have few enough digits. -/
theorem memberInts_of_membersWritten :
    ∀ members : List (Str × Json), membersWritten members = true →
      ((Json.memberInts members).all
        fun n => decide ((natText n.natAbs).length ≤ maxStrDigits)) = true
  | [], _ => rfl
  | (_, value) :: members, h => by
    rw [membersWritten, Bool.and_eq_true, Bool.and_eq_true] at h
    rw [Json.memberInts, List.all_append, Bool.and_eq_true]
    exact ⟨writable_of_isWritten value h.1.2, memberInts_of_membersWritten members h.2⟩

end

/-- Two texts without surrogates are one without surrogates. -/
theorem any_append_eq_false {s t : Str} (hs : s.any isSurrogate = false)
    (ht : t.any isSurrogate = false) : (s ++ t).any isSurrogate = false := by
  rw [List.any_append, hs, ht]
  rfl

/-- Characters below `0x80` are no surrogates. -/
theorem any_isSurrogate_ascii {s : Str} (h : ∀ c ∈ s, c.val < 0x80) : s.any isSurrogate = false := by
  refine List.any_eq_false.mpr fun c hc => ?_
  have hLow := h c hc
  rw [Bool.not_eq_true, isSurrogate_eq_false]
  omega

/-- Escaping brings in no surrogate: an escape is written in ASCII. -/
theorem any_escapeChar {c : CodePoint} (hc : isSurrogate c = false) :
    (escapeChar c).any isSurrogate = false := by
  unfold escapeChar
  split_ifs
  all_goals try rfl
  · refine any_append_eq_false rfl (any_isSurrogate_ascii fun d hd => ?_)
    -- the digits of a `\u` escape are ASCII, whatever the character is
    by_contra hHigh
    have hDigit : ∀ k < 16, d ≠ hexDigit k := by
      rintro k hk rfl
      have hLow : ∀ k < 16, (hexDigit k).val < 0x80 := by decide
      exact hHigh (hLow k hk)
    exact not_mem_hexText hDigit _ _ hd
  · rw [List.any_cons, hc]
    rfl

/-- The literal of a text without surrogates has none. -/
theorem any_quoted {s : Str} (hs : s.any isSurrogate = false) :
    (quoted s).any isSurrogate = false := by
  have hChars : (s.flatMap escapeChar).any isSurrogate = false := by
    refine List.any_eq_false.mpr fun d hd => ?_
    obtain ⟨c, hc, hd⟩ := List.mem_flatMap.mp hd
    have hSafe := any_escapeChar (by simpa using List.any_eq_false.mp hs c hc)
    exact List.any_eq_false.mp hSafe d hd
  exact any_append_eq_false (any_append_eq_false rfl hChars) rfl

/-- Texts without surrogates are joined to one without surrogates. -/
theorem any_intercalate {texts : List Str} (h : ∀ t ∈ texts, t.any isSurrogate = false) :
    ((str ",").intercalate texts).any isSurrogate = false := by
  refine List.any_eq_false.mpr fun c hc => ?_
  by_cases hComma : c ∈ str ","
  · rw [List.mem_singleton.mp hComma]
    decide
  · obtain ⟨t, ht, hc⟩ := (mem_intercalate hComma).mp hc
    exact List.any_eq_false.mp (h t ht) c hc

mutual

/-- **No surrogates.** The text of a value that is written can be encoded. -/
theorem any_jsonText {floatRepr : Rat → Str} (hFloat : ∀ x, (floatRepr x).any isSurrogate = false) :
    ∀ value : Json, isWritten value = true → (jsonText floatRepr value).any isSurrogate = false
  | .null, _ => rfl
  | .bool true, _ => rfl
  | .bool false, _ => rfl
  | .int n, _ => by
    refine any_isSurrogate_ascii fun c hc => ?_
    have hDigit := mem_intText hc
    omega
  | .float x, _ => hFloat x
  | .str s, h => any_quoted (by simpa [isWritten] using h)
  | .arr items, h =>
    any_append_eq_false (any_append_eq_false rfl (any_intercalate (any_itemTexts hFloat items h))) rfl
  | .obj members, h =>
    any_append_eq_false
      (any_append_eq_false rfl (any_intercalate (any_memberTexts hFloat members h))) rfl

/-- The same for the texts of items. -/
theorem any_itemTexts {floatRepr : Rat → Str} (hFloat : ∀ x, (floatRepr x).any isSurrogate = false) :
    ∀ items : List Json, itemsWritten items = true →
      ∀ t ∈ itemTexts floatRepr items, t.any isSurrogate = false
  | [], _, _, ht => absurd ht List.not_mem_nil
  | item :: items, h, t, ht => by
    rw [itemsWritten, Bool.and_eq_true] at h
    rcases List.mem_cons.mp ht with rfl | ht
    · exact any_jsonText hFloat item h.1
    · exact any_itemTexts hFloat items h.2 t ht

/-- The same for the texts of members. -/
theorem any_memberTexts {floatRepr : Rat → Str}
    (hFloat : ∀ x, (floatRepr x).any isSurrogate = false) :
    ∀ members : List (Str × Json), membersWritten members = true →
      ∀ t ∈ memberTexts floatRepr members, t.any isSurrogate = false
  | [], _, _, ht => absurd ht List.not_mem_nil
  | (key, value) :: members, h, t, ht => by
    rw [membersWritten, Bool.and_eq_true, Bool.and_eq_true, Bool.not_eq_true'] at h
    rcases List.mem_cons.mp ht with rfl | ht
    · exact any_append_eq_false (any_append_eq_false (any_quoted h.1.1) rfl)
        (any_jsonText hFloat value h.1.2)
    · exact any_memberTexts hFloat members h.2 t ht

end

/-- **Encoding.** A value without surrogates has an encoding. -/
theorem encode?_jsonText {floatRepr : Rat → Str}
    (hFloat : ∀ x, (floatRepr x).any isSurrogate = false) {value : Json}
    (h : isWritten value = true) :
    encode? (jsonText floatRepr value) = some ((jsonText floatRepr value).flatMap encodeChar) :=
  encode?_eq_some.mpr ⟨any_jsonText hFloat value h, rfl⟩

end Text
