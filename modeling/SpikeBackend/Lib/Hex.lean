import Mathlib.Data.Nat.Basic
import Mathlib.Tactic.IntervalCases
import SpikeBackend.Lib.Text

/-!
# Hexadecimal text

The digits of a number in base sixteen, at a fixed width, and the text of a UUID that
`str(uuid)` writes and `UUID(text)` reads: 32 digits in groups of 8, 4, 4, 4 and 12.

* `readHex_hexText` — reading the digits of a number gives the number back;
* `parseUuidText_uuidText` — the round trip of an identifier;
* `not_mem_uuidText` — what its text is free of.
-/

namespace Text

/-- One digit, in lower case. -/
def hexDigit (n : Nat) : CodePoint :=
  ⟨(if n < 10 then 48 + n else 87 + n) % 0x110000, Nat.mod_lt _ (by decide)⟩

/-- The value of a digit; `-` and what is no digit have none. -/
def hexValue? (c : CodePoint) : Option Nat :=
  if 48 ≤ c.val ∧ c.val < 58 then some (c.val - 48)
  else if 97 ≤ c.val ∧ c.val < 103 then some (c.val - 87)
  else none

/-- The last `width` digits of a number. -/
def hexText : Nat → Nat → Str
  | 0, _ => []
  | width + 1, n => hexText width (n / 16) ++ [hexDigit (n % 16)]

/-- The number that the digits of a text stand for. -/
def readHex (s : Str) : Nat :=
  (s.filterMap hexValue?).foldl (fun n d => n * 16 + d) 0

theorem hexValue?_hexDigit {n : Nat} (h : n < 16) : hexValue? (hexDigit n) = some n := by
  interval_cases n <;> rfl

/-- As many digits as are asked for. -/
theorem length_hexText (width n : Nat) : (hexText width n).length = width := by
  induction width generalizing n with
  | zero => rfl
  | succ width ih => simp [hexText, ih]

/-- The digits stand for the remainder. -/
theorem filterMap_hexText (width n : Nat) :
    ((hexText width n).filterMap hexValue?).foldl (fun n d => n * 16 + d) 0 = n % 16 ^ width := by
  induction width generalizing n with
  | zero => simp [hexText, Nat.mod_one]
  | succ width ih =>
    have hDigit : hexValue? (hexDigit (n % 16)) = some (n % 16) :=
      hexValue?_hexDigit (Nat.mod_lt _ (by decide))
    rw [hexText, List.filterMap_append, List.foldl_append, ih]
    simp only [List.filterMap_cons, hDigit, List.filterMap_nil, List.foldl_cons, List.foldl_nil]
    rw [pow_succ, Nat.mul_comm (16 ^ width) 16, Nat.mod_mul]
    omega

/-- **Round trip.** -/
theorem readHex_hexText (width n : Nat) : readHex (hexText width n) = n % 16 ^ width :=
  filterMap_hexText width n

/-- Every character of a hexadecimal text is a digit. -/
theorem length_filterMap_hexText (width n : Nat) :
    ((hexText width n).filterMap hexValue?).length = width := by
  induction width generalizing n with
  | zero => rfl
  | succ width ih =>
    have hDigit : hexValue? (hexDigit (n % 16)) = some (n % 16) :=
      hexValue?_hexDigit (Nat.mod_lt _ (by decide))
    simp [hexText, List.filterMap_append, ih, hDigit]

/-- `-`. -/
def hyphen : CodePoint := ⟨45, by decide⟩

/-- A character that is no digit is in no number. -/
theorem not_mem_hexText {c : CodePoint} (hDigit : ∀ d < 16, c ≠ hexDigit d) (width n : Nat) :
    c ∉ hexText width n := by
  induction width generalizing n with
  | zero => simp [hexText]
  | succ width ih =>
    have hLast := hDigit (n % 16) (Nat.mod_lt _ (by decide))
    simp [hexText, ih, hLast]

theorem hyphen_not_mem_hexText (width n : Nat) : hyphen ∉ hexText width n :=
  not_mem_hexText (by decide) width n

/-- A text in groups of the given lengths, with hyphens between them. -/
def grouped : List Nat → Str → Str
  | [], s => s
  | k :: ks, s => s.take k ++ hyphen :: grouped ks (s.drop k)

/-- Groups are made of the text and hyphens. -/
theorem mem_grouped {groups : List Nat} {s : Str} {c : CodePoint} (h : c ∈ grouped groups s) :
    c = hyphen ∨ c ∈ s := by
  induction groups generalizing s with
  | nil => exact .inr h
  | cons k ks ih =>
    rcases List.mem_append.mp h with hHead | hTail
    · exact .inr (List.mem_of_mem_take hHead)
    · rcases List.mem_cons.mp hTail with hHyphen | hRest
      · exact .inl hHyphen
      · exact (ih hRest).imp id List.mem_of_mem_drop

/-- Without the hyphens the text is there again. -/
theorem filter_grouped (groups : List Nat) {s : Str} (h : hyphen ∉ s) :
    (grouped groups s).filter (fun c => decide (c ≠ hyphen)) = s := by
  have hKeep : ∀ t : Str, hyphen ∉ t → t.filter (fun c => decide (c ≠ hyphen)) = t := by
    intro t ht
    refine List.filter_eq_self.mpr fun c hc => decide_eq_true ?_
    rintro rfl
    exact ht hc
  induction groups generalizing s with
  | nil => exact hKeep s h
  | cons k ks ih =>
    have hHead : hyphen ∉ s.take k := fun hc => h (List.mem_of_mem_take hc)
    have hTail : hyphen ∉ s.drop k := fun hc => h (List.mem_of_mem_drop hc)
    rw [grouped, List.filter_append, hKeep _ hHead, List.filter_cons_of_neg (by simp), ih hTail,
      List.take_append_drop]

/-- `str(uuid)`; a number beyond 128 bits, which is no UUID, has a tail of `+` signs. -/
def uuidText (n : Nat) : Str :=
  grouped [8, 4, 4, 4] (hexText 32 n ++ List.replicate (n / 16 ^ 32) ⟨43, by decide⟩)

/-- `UUID(text)`. -/
def parseUuidText (s : Str) : Option Nat :=
  let digits := s.filter fun c => decide (c ≠ hyphen)
  if ((digits.take 32).filterMap hexValue?).length = 32 then
    some (readHex (digits.take 32) + 16 ^ 32 * (digits.drop 32).length)
  else none

/-- **Round trip** of an identifier. -/
theorem parseUuidText_uuidText (n : Nat) : parseUuidText (uuidText n) = some n := by
  have hHyphen : hyphen ∉ hexText 32 n ++ List.replicate (n / 16 ^ 32) ⟨43, by decide⟩ := by
    rw [List.mem_append, not_or]
    exact ⟨hyphen_not_mem_hexText 32 n, fun hc => absurd (List.eq_of_mem_replicate hc) (by decide)⟩
  unfold parseUuidText uuidText
  dsimp only
  rw [filter_grouped _ hHyphen, List.take_left' (length_hexText 32 n),
    List.drop_left' (length_hexText 32 n), List.length_replicate]
  simp only [length_filterMap_hexText, readHex_hexText, if_true]
  rw [Nat.mod_add_div]

/-- A character that is no digit, hyphen or plus sign is in no identifier. -/
theorem not_mem_uuidText {c : CodePoint} (hDigit : ∀ d < 16, c ≠ hexDigit d) (hHyphen : c ≠ hyphen)
    (hPlus : c ≠ ⟨43, by decide⟩) (n : Nat) : c ∉ uuidText n := by
  intro hMem
  rcases mem_grouped hMem with hSame | hMem
  · exact hHyphen hSame
  · rcases List.mem_append.mp hMem with hHex | hTail
    · exact not_mem_hexText hDigit 32 n hHex
    · exact hPlus (List.eq_of_mem_replicate hTail)

/-- **One number for each text of a UUID.** -/
theorem uuidText_injective {m n : Nat} (h : uuidText m = uuidText n) : m = n :=
  Option.some.inj ((parseUuidText_uuidText m).symm.trans ((congrArg _ h).trans
    (parseUuidText_uuidText n)))

end Text
