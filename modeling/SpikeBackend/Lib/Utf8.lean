import Mathlib.Data.List.Basic
import SpikeBackend.Lib.Text

/-!
# Reading UTF-8

`bytes.decode("utf-8")` with strict errors: shortest forms only, no surrogates and nothing
above U+10FFFF. A text is read back from its encoding and from nothing else, and no encoding
is cut to another one, so bytes are the beginning of an encoding exactly when they are one,
or end inside a character.

* `decode?_eq_some` — the decoder is the inverse of the encoder;
* `beginsUtf8_iff` — the beginnings of encodings;
* `EndsInside.not_isUtf8` — a character that is cut off cannot be read.
-/

namespace Text

/-- A byte that continues a character. -/
def isContinuation (b : UInt8) : Bool := 0x80 ≤ b.toNat && b.toNat < 0xC0

/-- The code point with a number below `0x110000`. -/
def codePoint (n : Nat) : CodePoint := ⟨n % 0x110000, Nat.mod_lt _ (by decide)⟩

/-- The first character of the bytes, and the bytes after it. -/
def decodeChar? : List UInt8 → Option (CodePoint × List UInt8)
  | [] => none
  | b₀ :: rest =>
    if b₀.toNat < 0x80 then some (codePoint b₀.toNat, rest)
    else if b₀.toNat < 0xC0 then none
    else if b₀.toNat < 0xE0 then
      match rest with
      | b₁ :: rest =>
        let n := (b₀.toNat - 0xC0) * 0x40 + (b₁.toNat - 0x80)
        if isContinuation b₁ = true ∧ 0x80 ≤ n then some (codePoint n, rest) else none
      | [] => none
    else if b₀.toNat < 0xF0 then
      match rest with
      | b₁ :: b₂ :: rest =>
        let n := (b₀.toNat - 0xE0) * 0x1000 + (b₁.toNat - 0x80) * 0x40 + (b₂.toNat - 0x80)
        if isContinuation b₁ = true ∧ isContinuation b₂ = true ∧ 0x800 ≤ n ∧
            (n < 0xD800 ∨ 0xE000 ≤ n) then
          some (codePoint n, rest)
        else none
      | _ => none
    else
      match rest with
      | b₁ :: b₂ :: b₃ :: rest =>
        let n := (b₀.toNat - 0xF0) * 0x40000 + (b₁.toNat - 0x80) * 0x1000 +
          (b₂.toNat - 0x80) * 0x40 + (b₃.toNat - 0x80)
        if isContinuation b₁ = true ∧ isContinuation b₂ = true ∧ isContinuation b₃ = true ∧
            0x10000 ≤ n ∧ n < 0x110000 then
          some (codePoint n, rest)
        else none
      | _ => none

/-- The characters of the bytes, which are at most `fuel` many. -/
def decodeMany : Nat → List UInt8 → Option Str
  | _, [] => some []
  | 0, _ :: _ => none
  | fuel + 1, bytes =>
    (decodeChar? bytes).bind fun (c, rest) => (decodeMany fuel rest).map (c :: ·)

/-- `bytes.decode("utf-8")`; `none` is a `UnicodeDecodeError`. -/
def decode? (bytes : List UInt8) : Option Str := decodeMany bytes.length bytes

/-- The bytes are the encoding of a text. -/
def IsUtf8 (bytes : List UInt8) : Prop := ∃ s, encode? s = some bytes

/-- The bytes end inside a character. -/
def EndsInside (bytes : List UInt8) : Prop :=
  ∃ (s : Str) (c : CodePoint) (k : Nat), s.any isSurrogate = false ∧ isSurrogate c = false ∧
    0 < k ∧ k < (encodeChar c).length ∧ bytes = s.flatMap encodeChar ++ (encodeChar c).take k

-- ---------------------------------------------------------------------------
-- One character
-- ---------------------------------------------------------------------------

theorem toNat_toUInt8 {n : Nat} (h : n < 256) : n.toUInt8.toNat = n :=
  Nat.mod_eq_of_lt h

/-- A byte is known by its number. -/
theorem toUInt8_eq {n : Nat} {b : UInt8} (h : n = b.toNat) : n.toUInt8 = b := by
  have hLt := b.toNat_lt
  refine UInt8.toNat.inj ?_
  rw [toNat_toUInt8 (by omega), h]

/-- A continuation byte, by its number. -/
theorem isContinuation_iff {b : UInt8} :
    isContinuation b = true ↔ 0x80 ≤ b.toNat ∧ b.toNat < 0xC0 := by
  simp [isContinuation]

theorem codePoint_val {n : Nat} (h : n < 0x110000) : (codePoint n).val = n := Nat.mod_eq_of_lt h

theorem codePoint_self (c : CodePoint) : codePoint c.val = c :=
  Fin.ext (codePoint_val c.isLt)

/-- The characters that are no surrogates lie below them or behind them. -/
theorem isSurrogate_eq_false {c : CodePoint} :
    isSurrogate c = false ↔ c.val < 0xD800 ∨ 0xE000 ≤ c.val := by
  simp only [isSurrogate, Bool.and_eq_false_iff, decide_eq_false_iff_not]
  omega

theorem encodeChar_one {c : CodePoint} (h : c.val < 0x80) : encodeChar c = [c.val.toUInt8] := by
  simp only [encodeChar, if_pos h]

/-- Two bytes carry eleven bits. -/
theorem encodeChar_two {c : CodePoint} (h : 0x80 ≤ c.val) (h' : c.val < 0x800) :
    encodeChar c = [(0xC0 + c.val / 0x40).toUInt8, (0x80 + c.val % 0x40).toUInt8] := by
  simp only [encodeChar, if_neg (Nat.not_lt.mpr h), if_pos h']

/-- Three bytes carry sixteen bits. -/
theorem encodeChar_three {c : CodePoint} (h : 0x800 ≤ c.val) (h' : c.val < 0x10000) :
    encodeChar c = [(0xE0 + c.val / 0x1000).toUInt8, (0x80 + c.val / 0x40 % 0x40).toUInt8,
      (0x80 + c.val % 0x40).toUInt8] := by
  have hTwo : ¬c.val < 0x80 := by omega
  simp only [encodeChar, if_neg hTwo, if_neg (Nat.not_lt.mpr h), if_pos h']

/-- Four bytes carry the characters beyond the basic plane. -/
theorem encodeChar_four {c : CodePoint} (h : 0x10000 ≤ c.val) :
    encodeChar c = [(0xF0 + c.val / 0x40000).toUInt8, (0x80 + c.val / 0x1000 % 0x40).toUInt8,
      (0x80 + c.val / 0x40 % 0x40).toUInt8, (0x80 + c.val % 0x40).toUInt8] := by
  have hTwo : ¬c.val < 0x80 := by omega
  have hThree : ¬c.val < 0x800 := by omega
  simp only [encodeChar, if_neg hTwo, if_neg hThree, if_neg (Nat.not_lt.mpr h)]

/-- A byte below `0x80` is a character of its own. -/
theorem mem_encodeChar {b : UInt8} {c : CodePoint} (hb : b ∈ encodeChar c)
    (hAscii : b.toNat < 0x80) : c.val = b.toNat := by
  have hLt := c.isLt
  by_cases hOne : c.val < 0x80
  · rw [encodeChar_one hOne, List.mem_singleton] at hb
    rw [hb, toNat_toUInt8 (by omega)]
  · -- every byte of a longer encoding is above
    have hHigh : ∀ n, 0x80 ≤ n → n < 256 → b = n.toUInt8 → False := by
      intro n hLow hByte hSame
      rw [hSame, toNat_toUInt8 hByte] at hAscii
      omega
    by_cases hTwo : c.val < 0x800
    · rw [encodeChar_two (by omega) hTwo] at hb
      simp only [List.mem_cons, List.not_mem_nil, or_false] at hb
      rcases hb with hb | hb
      · exact (hHigh _ (by omega) (by omega) hb).elim
      · exact (hHigh _ (by omega) (by omega) hb).elim
    by_cases hThree : c.val < 0x10000
    · rw [encodeChar_three (by omega) hThree] at hb
      simp only [List.mem_cons, List.not_mem_nil, or_false] at hb
      rcases hb with hb | hb | hb
      · exact (hHigh _ (by omega) (by omega) hb).elim
      · exact (hHigh _ (by omega) (by omega) hb).elim
      · exact (hHigh _ (by omega) (by omega) hb).elim
    · rw [encodeChar_four (by omega)] at hb
      simp only [List.mem_cons, List.not_mem_nil, or_false] at hb
      rcases hb with hb | hb | hb | hb
      · exact (hHigh _ (by omega) (by omega) hb).elim
      · exact (hHigh _ (by omega) (by omega) hb).elim
      · exact (hHigh _ (by omega) (by omega) hb).elim
      · exact (hHigh _ (by omega) (by omega) hb).elim

/-- A character is read from its encoding. -/
theorem decodeChar?_encodeChar {c : CodePoint} (h : isSurrogate c = false) (rest : List UInt8) :
    decodeChar? (encodeChar c ++ rest) = some (c, rest) := by
  have hLt := c.isLt
  rw [isSurrogate_eq_false] at h
  by_cases hOne : c.val < 0x80
  · rw [encodeChar_one hOne]
    have hByte := toNat_toUInt8 (show c.val < 256 by omega)
    simp only [List.cons_append, List.nil_append, decodeChar?, hByte, if_pos hOne, codePoint_self]
  by_cases hTwo : c.val < 0x800
  · rw [encodeChar_two (by omega) hTwo]
    have hFirst := toNat_toUInt8 (show 0xC0 + c.val / 0x40 < 256 by omega)
    have hSecond := toNat_toUInt8 (show 0x80 + c.val % 0x40 < 256 by omega)
    -- the bits of the bytes put the number together again
    have hValue : (0xC0 + c.val / 0x40 - 0xC0) * 0x40 + (0x80 + c.val % 0x40 - 0x80) = c.val := by
      omega
    simp only [List.cons_append, List.nil_append, decodeChar?, isContinuation_iff, hFirst, hSecond,
      hValue, codePoint_self]
    rw [if_neg (by omega), if_neg (by omega), if_pos (by omega), if_pos (by omega)]
  by_cases hThree : c.val < 0x10000
  · rw [encodeChar_three (by omega) hThree]
    have hFirst := toNat_toUInt8 (show 0xE0 + c.val / 0x1000 < 256 by omega)
    have hSecond := toNat_toUInt8 (show 0x80 + c.val / 0x40 % 0x40 < 256 by omega)
    have hThird := toNat_toUInt8 (show 0x80 + c.val % 0x40 < 256 by omega)
    have hValue : (0xE0 + c.val / 0x1000 - 0xE0) * 0x1000 + (0x80 + c.val / 0x40 % 0x40 - 0x80) * 0x40 +
        (0x80 + c.val % 0x40 - 0x80) = c.val := by
      omega
    simp only [List.cons_append, List.nil_append, decodeChar?, isContinuation_iff, hFirst, hSecond,
      hThird, hValue, codePoint_self]
    rw [if_neg (by omega), if_neg (by omega), if_neg (by omega), if_pos (by omega),
      if_pos (by omega)]
  · rw [encodeChar_four (by omega)]
    have hFirst := toNat_toUInt8 (show 0xF0 + c.val / 0x40000 < 256 by omega)
    have hSecond := toNat_toUInt8 (show 0x80 + c.val / 0x1000 % 0x40 < 256 by omega)
    have hThird := toNat_toUInt8 (show 0x80 + c.val / 0x40 % 0x40 < 256 by omega)
    have hFourth := toNat_toUInt8 (show 0x80 + c.val % 0x40 < 256 by omega)
    have hValue : (0xF0 + c.val / 0x40000 - 0xF0) * 0x40000 +
        (0x80 + c.val / 0x1000 % 0x40 - 0x80) * 0x1000 +
        (0x80 + c.val / 0x40 % 0x40 - 0x80) * 0x40 + (0x80 + c.val % 0x40 - 0x80) = c.val := by
      omega
    simp only [List.cons_append, List.nil_append, decodeChar?, isContinuation_iff, hFirst, hSecond,
      hThird, hFourth, hValue, codePoint_self]
    -- the first byte is none of a shorter encoding, and the number is in the range of a long one
    rw [if_neg (by omega), if_neg (by omega), if_neg (by omega), if_neg (by omega),
      if_pos (by omega)]

/-- What is read as a character is its encoding. -/
theorem decodeChar?_eq_some {bytes rest : List UInt8} {c : CodePoint}
    (h : decodeChar? bytes = some (c, rest)) :
    isSurrogate c = false ∧ bytes = encodeChar c ++ rest := by
  rw [isSurrogate_eq_false]
  unfold decodeChar? at h
  split at h
  · cases h
  · next b₀ tail =>
    have h₀ := b₀.toNat_lt
    split at h
    · -- one byte
      next hOne =>
      obtain ⟨rfl, rfl⟩ := Prod.mk.inj (Option.some.inj h)
      have hVal := codePoint_val (show b₀.toNat < 0x110000 by omega)
      rw [encodeChar_one (by omega), hVal]
      exact ⟨by omega, by rw [toUInt8_eq rfl]; rfl⟩
    split at h
    · cases h
    split at h
    · split at h
      · -- two bytes
        next hLead _ b₁ tail =>
        dsimp only at h
        split at h
        · next hGood =>
          rw [isContinuation_iff] at hGood
          obtain ⟨rfl, rfl⟩ := Prod.mk.inj (Option.some.inj h)
          have hVal := codePoint_val
            (show (b₀.toNat - 0xC0) * 0x40 + (b₁.toNat - 0x80) < 0x110000 by omega)
          rw [encodeChar_two (by omega) (by omega), hVal]
          refine ⟨by omega, ?_⟩
          rw [toUInt8_eq (b := b₀) (by omega), toUInt8_eq (b := b₁) (by omega)]
          rfl
        · cases h
      · cases h
    split at h
    · split at h
      · -- three bytes; surrogates and longer forms of smaller numbers are refused
        next hLead _ b₁ b₂ tail =>
        dsimp only at h
        split at h
        · next hGood =>
          rw [isContinuation_iff, isContinuation_iff] at hGood
          obtain ⟨rfl, rfl⟩ := Prod.mk.inj (Option.some.inj h)
          have hVal := codePoint_val (show (b₀.toNat - 0xE0) * 0x1000 + (b₁.toNat - 0x80) * 0x40 +
            (b₂.toNat - 0x80) < 0x110000 by omega)
          rw [encodeChar_three (by omega) (by omega), hVal]
          refine ⟨by omega, ?_⟩
          rw [toUInt8_eq (b := b₀) (by omega), toUInt8_eq (b := b₁) (by omega),
            toUInt8_eq (b := b₂) (by omega)]
          rfl
        · cases h
      · cases h
    · split at h
      · -- four bytes
        next hLead b₁ b₂ b₃ tail =>
        dsimp only at h
        split at h
        · next hGood =>
          rw [isContinuation_iff, isContinuation_iff, isContinuation_iff] at hGood
          obtain ⟨rfl, rfl⟩ := Prod.mk.inj (Option.some.inj h)
          have hVal := codePoint_val (show (b₀.toNat - 0xF0) * 0x40000 +
            (b₁.toNat - 0x80) * 0x1000 + (b₂.toNat - 0x80) * 0x40 + (b₃.toNat - 0x80) < 0x110000
            by omega)
          rw [encodeChar_four (by omega), hVal]
          refine ⟨by omega, ?_⟩
          rw [toUInt8_eq (b := b₀) (by omega), toUInt8_eq (b := b₁) (by omega),
            toUInt8_eq (b := b₂) (by omega), toUInt8_eq (b := b₃) (by omega)]
          rfl
        · cases h
      · cases h

-- ---------------------------------------------------------------------------
-- Texts
-- ---------------------------------------------------------------------------

/-- Every character is encoded in some bytes. -/
theorem encodeChar_ne_nil (c : CodePoint) : encodeChar c ≠ [] := by
  unfold encodeChar
  dsimp only
  split
  · exact List.cons_ne_nil _ _
  split
  · exact List.cons_ne_nil _ _
  split
  · exact List.cons_ne_nil _ _
  · exact List.cons_ne_nil _ _

theorem length_encodeChar_pos (c : CodePoint) : 0 < (encodeChar c).length :=
  List.length_pos_of_ne_nil (encodeChar_ne_nil c)

/-- No encoding of a character is the beginning of another one. -/
theorem encodeChar_append_inj {c d : CodePoint} {x y : List UInt8} (hc : isSurrogate c = false)
    (hd : isSurrogate d = false) (h : encodeChar c ++ x = encodeChar d ++ y) : c = d ∧ x = y := by
  have hRead := decodeChar?_encodeChar hc x
  rw [h, decodeChar?_encodeChar hd y] at hRead
  obtain ⟨rfl, rfl⟩ := Prod.mk.inj (Option.some.inj hRead)
  exact ⟨rfl, rfl⟩

/-- Only the empty text has no bytes. -/
theorem flatMap_encodeChar_eq_nil {s : Str} : s.flatMap encodeChar = [] ↔ s = [] := by
  cases s with
  | nil => simp
  | cons c s => simp [encodeChar_ne_nil c]

/-- No bytes are the empty text, whatever the fuel is. -/
theorem decodeMany_nil {fuel : Nat} {s : Str} :
    decodeMany fuel [] = some s ↔ s.any isSurrogate = false ∧ [] = s.flatMap encodeChar := by
  have hNil : decodeMany fuel [] = some [] := by cases fuel <;> rfl
  rw [hNil, eq_comm (a := ([] : List UInt8)), flatMap_encodeChar_eq_nil]
  constructor
  · intro h
    obtain rfl := Option.some.inj h
    exact ⟨rfl, rfl⟩
  · rintro ⟨-, rfl⟩
    rfl

/-- With as much fuel as there are bytes the decoder is the inverse of the encoder. -/
theorem decodeMany_eq_some {fuel : Nat} {bytes : List UInt8} {s : Str}
    (hFuel : bytes.length ≤ fuel) :
    decodeMany fuel bytes = some s ↔ s.any isSurrogate = false ∧ bytes = s.flatMap encodeChar := by
  induction fuel generalizing bytes s with
  | zero =>
    obtain rfl := List.length_eq_zero_iff.mp (Nat.le_zero.mp hFuel)
    exact decodeMany_nil
  | succ fuel ih =>
    cases bytes with
    | nil => exact decodeMany_nil
    | cons b bytes =>
      show (decodeChar? (b :: bytes)).bind (fun (c, rest) => (decodeMany fuel rest).map (c :: ·)) =
        some s ↔ _
      constructor
      · intro h
        obtain ⟨⟨c, rest⟩, hChar, hRest⟩ := Option.bind_eq_some_iff.mp h
        obtain ⟨s', hMany, rfl⟩ := Option.map_eq_some_iff.mp hRest
        obtain ⟨hSurrogate, hBytes⟩ := decodeChar?_eq_some hChar
        -- a character takes a byte at least, so the fuel is enough for the rest
        have hLength : rest.length ≤ fuel := by
          have hLen := congrArg List.length hBytes
          have hPos := length_encodeChar_pos c
          rw [List.length_append] at hLen
          omega
        obtain ⟨hSafe, hTail⟩ := (ih hLength).mp hMany
        refine ⟨?_, ?_⟩
        · rw [List.any_cons, hSurrogate, hSafe]
          rfl
        · rw [hBytes, List.flatMap_cons, hTail]
      · rintro ⟨hSafe, hBytes⟩
        cases s with
        | nil => cases hBytes
        | cons c s =>
          rw [List.any_cons, Bool.or_eq_false_iff] at hSafe
          rw [List.flatMap_cons] at hBytes
          have hLength : (s.flatMap encodeChar).length ≤ fuel := by
            have hLen := congrArg List.length hBytes
            have hPos := length_encodeChar_pos c
            rw [List.length_append] at hLen
            omega
          rw [hBytes, decodeChar?_encodeChar hSafe.1]
          simp only [Option.bind_some, (ih hLength).mpr ⟨hSafe.2, rfl⟩, Option.map_some]

/-- **Decoding** is the inverse of encoding. -/
theorem decode?_eq_some {bytes : List UInt8} {s : Str} :
    decode? bytes = some s ↔ encode? s = some bytes := by
  unfold decode? encode?
  rw [decodeMany_eq_some le_rfl]
  cases hSafe : s.any isSurrogate with
  | true => simp
  | false => simp [eq_comm]

/-- A text is encoded when it has no surrogates. -/
theorem encode?_eq_some {s : Str} {bytes : List UInt8} :
    encode? s = some bytes ↔ s.any isSurrogate = false ∧ bytes = s.flatMap encodeChar := by
  rw [← decode?_eq_some]
  exact decodeMany_eq_some le_rfl

-- ---------------------------------------------------------------------------
-- Beginnings
-- ---------------------------------------------------------------------------

/-- A text and a part of a character are no text: both are read character by character. -/
theorem cut_ne_whole {s t : Str} {c : CodePoint} {k : Nat} (hSafe : s.any isSurrogate = false)
    (hText : t.any isSurrogate = false) (hChar : isSurrogate c = false) (hPos : 0 < k)
    (hCut : k < (encodeChar c).length) :
    s.flatMap encodeChar ++ (encodeChar c).take k ≠ t.flatMap encodeChar := by
  intro h
  induction s generalizing t with
  | nil =>
    rw [List.flatMap_nil, List.nil_append] at h
    cases t with
    | nil =>
      have hNone := List.length_eq_zero_iff.mpr h
      rw [List.length_take] at hNone
      omega
    | cons d t =>
      rw [List.any_cons, Bool.or_eq_false_iff] at hText
      rw [List.flatMap_cons] at h
      -- the character that is cut off would be the next one of the text, whole
      have hJoined : encodeChar c ++ [] =
          encodeChar d ++ (t.flatMap encodeChar ++ (encodeChar c).drop k) := by
        rw [List.append_nil, ← List.append_assoc, ← h, List.take_append_drop]
      have hNone := (List.append_eq_nil_iff.mp
        (encodeChar_append_inj hChar hText.1 hJoined).2.symm).2
      have hLength := List.length_eq_zero_iff.mpr hNone
      rw [List.length_drop] at hLength
      omega
  | cons a s ih =>
    rw [List.any_cons, Bool.or_eq_false_iff] at hSafe
    rw [List.flatMap_cons, List.append_assoc] at h
    cases t with
    | nil => exact encodeChar_ne_nil a (List.append_eq_nil_iff.mp h).1
    | cons d t =>
      rw [List.any_cons, Bool.or_eq_false_iff] at hText
      rw [List.flatMap_cons] at h
      exact ih hSafe.2 hText.2 (encodeChar_append_inj hSafe.1 hText.1 h).2

/-- A character that is cut off is no whole one. -/
theorem EndsInside.not_isUtf8 {bytes : List UInt8} (h : EndsInside bytes) : ¬IsUtf8 bytes := by
  obtain ⟨s, c, k, hSafe, hChar, hPos, hCut, hBytes⟩ := h
  rintro ⟨t, hText⟩
  obtain ⟨hText, hWhole⟩ := encode?_eq_some.mp hText
  rw [hBytes] at hWhole
  exact cut_ne_whole hSafe hText hChar hPos hCut hWhole

/-- A character before bytes that are a text, or end inside a character. -/
theorem begins_cons {d : CodePoint} {bytes : List UInt8} (hd : isSurrogate d = false)
    (h : IsUtf8 bytes ∨ EndsInside bytes) :
    IsUtf8 (encodeChar d ++ bytes) ∨ EndsInside (encodeChar d ++ bytes) := by
  rcases h with ⟨s, hText⟩ | ⟨s, c, k, hSafe, hChar, hPos, hCut, hBytes⟩
  · obtain ⟨hSafe, hBytes⟩ := encode?_eq_some.mp hText
    refine .inl ⟨d :: s, encode?_eq_some.mpr ⟨?_, ?_⟩⟩
    · rw [List.any_cons, hd, hSafe]
      rfl
    · rw [List.flatMap_cons, hBytes]
  · -- the character in front does not change where the end is cut
    refine .inr ⟨d :: s, c, k, ?_, hChar, hPos, hCut, ?_⟩
    · rw [List.any_cons, hd, hSafe]
      rfl
    · rw [List.flatMap_cons, hBytes, List.append_assoc]

/-- The beginning of an encoding is an encoding, or ends inside a character. -/
theorem begins_of_append {t : Str} {bytes rest : List UInt8} (hText : t.any isSurrogate = false)
    (h : bytes ++ rest = t.flatMap encodeChar) : IsUtf8 bytes ∨ EndsInside bytes := by
  induction t generalizing bytes with
  | nil =>
    obtain rfl := (List.append_eq_nil_iff.mp h).1
    exact .inl ⟨[], rfl⟩
  | cons d t ih =>
    rw [List.any_cons, Bool.or_eq_false_iff] at hText
    rw [List.flatMap_cons] at h
    rcases List.append_eq_append_iff.mp h with ⟨more, hMore, -⟩ | ⟨more, hMore, hRest⟩
    · -- the bytes end within the first character, or with it
      cases bytes with
      | nil => exact .inl ⟨[], rfl⟩
      | cons b bytes =>
        cases more with
        | nil =>
          rw [List.append_nil] at hMore
          refine .inl ⟨[d], encode?_eq_some.mpr ⟨?_, ?_⟩⟩
          · rw [List.any_cons, hText.1]
            rfl
          · rw [List.flatMap_cons, List.flatMap_nil, List.append_nil, hMore]
        | cons b' more =>
          refine .inr ⟨[], d, (b :: bytes).length, rfl, hText.1, Nat.succ_pos _, ?_, ?_⟩
          · rw [hMore, List.length_append]
            exact Nat.lt_add_of_pos_right (Nat.succ_pos _)
          · rw [List.flatMap_nil, List.nil_append, hMore, List.take_left]
    · -- the first character is there
      rw [hMore]
      exact begins_cons hText.1 (ih hText.2 hRest.symm)

/-- **Beginnings of texts.** -/
theorem beginsUtf8_iff {bytes : List UInt8} :
    (∃ rest, IsUtf8 (bytes ++ rest)) ↔ IsUtf8 bytes ∨ EndsInside bytes := by
  constructor
  · rintro ⟨rest, t, hText⟩
    obtain ⟨hSafe, hBytes⟩ := encode?_eq_some.mp hText
    exact begins_of_append hSafe hBytes
  · rintro (hWhole | ⟨s, c, k, hSafe, hChar, hPos, hCut, hBytes⟩)
    · exact ⟨[], by rw [List.append_nil]; exact hWhole⟩
    · -- the rest of the character that is cut off completes the text
      refine ⟨(encodeChar c).drop k, s ++ [c], encode?_eq_some.mpr ⟨?_, ?_⟩⟩
      · rw [List.any_append, hSafe, List.any_cons, hChar]
        rfl
      · rw [hBytes, List.append_assoc, List.take_append_drop, List.flatMap_append,
          List.flatMap_cons, List.flatMap_nil, List.append_nil]

end Text
