import Mathlib.Data.List.Basic
import Mathlib.Data.List.Lex
import Mathlib.Order.Fin.Basic

/-!
# Python text

A Python `str` is a list of Unicode code points, lone surrogates included. Here are
the operations of it that the services use: `str.strip`, `str.split`, `str.replace` of a
character, `str.encode("utf-8")` and the length of the encoding.
-/

namespace Text

/-- A Unicode code point, surrogates included. -/
abbrev CodePoint := Fin 0x110000

/-- A Python `str`. -/
abbrev Str := List CodePoint

instance codePoint_neZero : @NeZero Nat Zero.ofOfNat0 0x110000 := ⟨by decide⟩

instance str_lawfulBEq : LawfulBEq Str := inferInstance

/-- Texts compare by their code points, the first difference deciding. -/
instance str_linearOrder : LinearOrder Str := @List.instLinearOrder CodePoint Fin.instLinearOrder

/-- A Python string literal. -/
def str (s : String) : Str := s.toList.map fun c => ⟨c.toNat % 0x110000, Nat.mod_lt _ (by decide)⟩

/-- `str.isspace` for one character. -/
def isSpace (c : CodePoint) : Bool :=
  (0x09 ≤ c.val && c.val ≤ 0x0D) || (0x1C ≤ c.val && c.val ≤ 0x20) ||
    c.val == 0x85 || c.val == 0xA0 || c.val == 0x1680 ||
    (0x2000 ≤ c.val && c.val ≤ 0x200A) || c.val == 0x2028 || c.val == 0x2029 ||
    c.val == 0x202F || c.val == 0x205F || c.val == 0x3000

/-- Drop the characters that satisfy `p` from both ends. -/
def trimBy (p : CodePoint → Bool) (s : Str) : Str :=
  ((s.dropWhile p).reverse.dropWhile p).reverse

/-- `str.strip()`. -/
def strip (s : Str) : Str := trimBy isSpace s

/-- `str.split()`: the runs of characters that are no whitespace, after the run `word`. -/
def splitWords (word : Str) : Str → List Str
  | [] => if word.isEmpty then [] else [word]
  | c :: s =>
    if isSpace c then
      if word.isEmpty then splitWords [] s else word :: splitWords [] s
    else splitWords (word ++ [c]) s

/-- `" ".join(words)`. -/
def joinWords (words : List Str) : Str := (str " ").intercalate words

/-- `s.replace(c, t)` for a character `c`. -/
def replaceChar (c : CodePoint) (t s : Str) : Str := s.flatMap fun d => if d = c then t else [d]

/-- A lone surrogate, which has no UTF-8 encoding. -/
def isSurrogate (c : CodePoint) : Bool := 0xD800 ≤ c.val && c.val ≤ 0xDFFF

/-- The UTF-8 bytes of one code point. -/
def encodeChar (c : CodePoint) : List UInt8 :=
  let n := c.val
  if n < 0x80 then [n.toUInt8]
  else if n < 0x800 then [(0xC0 + n / 0x40).toUInt8, (0x80 + n % 0x40).toUInt8]
  else if n < 0x10000 then
    [(0xE0 + n / 0x1000).toUInt8, (0x80 + n / 0x40 % 0x40).toUInt8, (0x80 + n % 0x40).toUInt8]
  else
    [(0xF0 + n / 0x40000).toUInt8, (0x80 + n / 0x1000 % 0x40).toUInt8,
      (0x80 + n / 0x40 % 0x40).toUInt8, (0x80 + n % 0x40).toUInt8]

/-- `str.encode("utf-8")`; `none` is a `UnicodeEncodeError`. -/
def encode? (s : Str) : Option (List UInt8) :=
  if s.any isSurrogate then none else some (s.flatMap encodeChar)

-- ---------------------------------------------------------------------------
-- Characters of a text
-- ---------------------------------------------------------------------------

/-- What no separator has comes from one of the joined texts. -/
theorem mem_intercalate {sep : Str} {c : CodePoint} (hSep : c ∉ sep) {texts : List Str} :
    c ∈ sep.intercalate texts ↔ ∃ t ∈ texts, c ∈ t := by
  induction texts with
  | nil => simp [List.intercalate_nil]
  | cons t texts ih =>
    cases texts with
    | nil => simp [List.intercalate_singleton]
    | cons t' texts =>
      rw [List.intercalate_cons_cons, List.mem_append, List.mem_append, ih,
        List.exists_mem_cons_iff _ t, or_iff_left hSep]

/-- A character that is not dropped is still there. -/
theorem mem_dropWhile_of_not {p : CodePoint → Bool} {c : CodePoint} (hNot : p c = false) (s : Str) :
    c ∈ s.dropWhile p ↔ c ∈ s := by
  induction s with
  | nil => rfl
  | cons d s ih =>
    rw [List.dropWhile_cons]
    split
    · rename_i hDrop
      have hNe : c ≠ d := by
        rintro rfl
        exact Bool.noConfusion (hNot.symm.trans hDrop)
      rw [ih, List.mem_cons, or_iff_right hNe]
    · rfl

/-- Stripping takes only whitespace away. -/
theorem mem_strip {c : CodePoint} (hSpace : isSpace c = false) (s : Str) : c ∈ strip s ↔ c ∈ s := by
  rw [strip, trimBy, List.mem_reverse, mem_dropWhile_of_not hSpace, List.mem_reverse,
    mem_dropWhile_of_not hSpace]

/-- Splitting loses white space only. -/
theorem mem_splitWords {c : CodePoint} (hSpace : isSpace c = false) (word s : Str) :
    (∃ w ∈ splitWords word s, c ∈ w) ↔ c ∈ word ∨ c ∈ s := by
  induction s generalizing word with
  | nil =>
    rw [splitWords]
    split
    · rename_i hEmpty
      rw [List.isEmpty_iff.mp hEmpty]
      simp
    · simp
  | cons d s ih =>
    rw [splitWords]
    split
    · rename_i hDrop
      have hNe : c ≠ d := by
        rintro rfl
        exact Bool.noConfusion (hSpace.symm.trans hDrop)
      rw [List.mem_cons, or_iff_right hNe]
      split
      · rename_i hEmpty
        rw [ih, List.isEmpty_iff.mp hEmpty]
      · rw [List.exists_mem_cons_iff, ih, or_iff_right List.not_mem_nil]
    · rw [ih, List.mem_append, List.mem_singleton, List.mem_cons, or_assoc]

/-- Collapsing white space keeps the other characters. -/
theorem mem_joinWords_splitWords {c : CodePoint} (hSpace : isSpace c = false) (s : Str) :
    c ∈ joinWords (splitWords [] s) ↔ c ∈ s := by
  have hSep : c ∉ str " " := by
    intro h
    have hBlank : (str " ").all isSpace = true := by decide
    exact Bool.noConfusion (hSpace.symm.trans (List.all_eq_true.mp hBlank c h))
  rw [joinWords, mem_intercalate hSep, mem_splitWords hSpace, or_iff_right List.not_mem_nil]

/-- What is left by `dropWhile` does not begin with what it drops. -/
theorem not_of_head?_dropWhile {p : CodePoint → Bool} {s : Str} {c : CodePoint}
    (h : (s.dropWhile p).head? = some c) : p c = false := by
  have hHead := List.head?_dropWhile_not p s
  rw [h] at hHead
  exact hHead

/-- A stripped text does not begin with whitespace. -/
theorem not_isSpace_head?_strip {s : Str} {c : CodePoint} (h : (strip s).head? = some c) :
    isSpace c = false := by
  have hPrefix : strip s <+: s.dropWhile isSpace := by
    have hSuffix := List.dropWhile_suffix isSpace (l := (s.dropWhile isSpace).reverse)
    have hBack := List.reverse_prefix.mpr hSuffix
    rw [List.reverse_reverse] at hBack
    exact hBack
  obtain ⟨rest, hRest⟩ := hPrefix
  refine not_of_head?_dropWhile (s := s) ?_
  rw [← hRest, List.head?_append, h]
  rfl

/-- Nor does it end with whitespace. -/
theorem not_isSpace_getLast?_strip {s : Str} {c : CodePoint} (h : (strip s).getLast? = some c) :
    isSpace c = false := by
  unfold strip trimBy at h
  rw [List.getLast?_reverse] at h
  exact not_of_head?_dropWhile h

/-- A text between characters that are no whitespace has nothing to strip. -/
theorem strip_eq_self {s : Str} (hHead : ∀ c, s.head? = some c → isSpace c = false)
    (hLast : ∀ c, s.getLast? = some c → isSpace c = false) : strip s = s := by
  -- a text that starts with no white space keeps its start
  have hKeep : ∀ t : Str, (∀ c, t.head? = some c → isSpace c = false) →
      t.dropWhile isSpace = t := by
    intro t ht
    cases t with
    | nil => rfl
    | cons c t => rw [List.dropWhile_cons_of_neg (by rw [ht c rfl]; decide)]
  have hReverse : ∀ c, s.reverse.head? = some c → isSpace c = false := by
    intro c hc
    rw [List.head?_reverse] at hc
    exact hLast c hc
  unfold strip trimBy
  rw [hKeep s hHead, hKeep s.reverse hReverse, List.reverse_reverse]

theorem strip_strip (s : Str) : strip (strip s) = strip s :=
  strip_eq_self (fun _ h => not_isSpace_head?_strip h) fun _ h => not_isSpace_getLast?_strip h

end Text
