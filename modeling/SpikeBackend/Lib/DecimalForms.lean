import Mathlib.Data.Nat.Prime.Basic
import SpikeBackend.Lib.Digits

/-!
# Forms of a decimal

A finite Python `Decimal` has a sign, a coefficient and an exponent, so one number has many forms.
`format(value, "f")` writes the digits of the coefficient around a point. Without the zeros that
end the fraction all forms of a number are written alike, and what is written is read back.

* `Decimal.fixed_eq` — the text of a form, by its whole part and its fraction;
* `trimmed_ten_mul` — a zero more at the end of the coefficient is not seen;
* `decimalOf?_trimmed` — the text is read back;
* `Decimal.trim_eq_iff` — forms of one number, and no others, have one text;
* `decimalText_value` — it is the text of the number.
-/

namespace Text

-- ---------------------------------------------------------------------------
-- Forms
-- ---------------------------------------------------------------------------

/-- A finite `Decimal`. -/
structure Decimal where
  negative : Bool
  coefficient : Nat
  exponent : Int
  deriving DecidableEq, Repr

/-- `n` times the digit zero. -/
def zeros (n : Nat) : Str := List.replicate n 0x30

/-- `s.rstrip(c)` for a character `c`. -/
def rstripChar (c : CodePoint) (s : Str) : Str := (s.reverse.dropWhile (· == c)).reverse

namespace Decimal

variable (d : Decimal)

/-- The number that a form stands for. -/
def value : ℚ :=
  (if d.negative then -1 else 1) * d.coefficient * 10 ^ d.exponent

/-- The digits before the point and those after it, where the point stands `exponent` digits from
the end. -/
def fixedParts (exponent : Int) (digits : Str) : Str × Str :=
  let dotplace := exponent + digits.length
  if dotplace < 0 then (str "0", zeros (-dotplace).toNat ++ digits)
  else if (digits.length : Int) < dotplace then
    (digits ++ zeros (dotplace - digits.length).toNat, [])
  else
    (if (digits.take dotplace.toNat).isEmpty then str "0" else digits.take dotplace.toNat,
      digits.drop dotplace.toNat)

/-- `format(value, "f")`: a zero with a positive exponent is rescaled. -/
def fixed : Str :=
  let exponent := if d.coefficient = 0 ∧ 0 < d.exponent then 0 else d.exponent
  let parts := fixedParts exponent (natText d.coefficient)
  (if d.negative then str "-" else []) ++ parts.1 ++
    (if parts.2.isEmpty then [] else str "." ++ parts.2)

/-- The text of a form without the zeros that end its fraction, and without the sign of zero. -/
def trim : Str :=
  if d.value = 0 then str "0"
  else
    let rendered := d.fixed
    let rendered := if rendered.contains 0x2E then rstripChar 0x2E (rstripChar 0x30 rendered)
      else rendered
    if rendered = str "-0" then str "0" else rendered

end Decimal

/-- `Decimal(text)`, of a text of the form `[+-]?\d+(\.\d+)?`. -/
def decimalOf? (s : Str) : Option ℚ :=
  let parts := decimalParts s
  if isDigits 1 s.length parts.whole && parts.fraction.all (isDigits 1 s.length) then
    some parts.value
  else none

-- ---------------------------------------------------------------------------
-- The last digits of a number
-- ---------------------------------------------------------------------------

/-- The last `k` digits of a number, with zeros in front where it has fewer. -/
def lastDigits : Nat → Nat → Str
  | 0, _ => []
  | k + 1, n => lastDigits k (n / 10) ++ natText (n % 10)

/-- A digit is written as one character. -/
theorem length_natText_lt_ten {d : Nat} (h : d < 10) : (natText d).length = 1 := by
  rw [natText_lt_ten h]
  rfl

/-- As many digits as are asked for, zeros in front included. -/
theorem length_lastDigits (k n : Nat) : (lastDigits k n).length = k := by
  induction k generalizing n with
  | zero => rfl
  | succ k ih =>
    rw [lastDigits, List.length_append, ih, length_natText_lt_ten (by omega)]

/-- The text of a number of two or more digits ends with its last digit. -/
theorem natText_split_ten {n : Nat} (h : 10 ≤ n) :
    natText n = natText (n / 10) ++ natText (n % 10) := by
  have hSplit : n = 10 * (n / 10) + n % 10 := by omega
  have hText := @natText_concat (n / 10) (n % 10) (by omega) (by omega)
  rw [← hSplit] at hText
  exact hText

/-- A number with more than `k` digits: the digits before the last `k`, and those. -/
theorem natText_split {k n : Nat} (h : n / 10 ^ k ≠ 0) :
    natText n = natText (n / 10 ^ k) ++ lastDigits k n := by
  induction k generalizing n with
  | zero =>
    rw [pow_zero, Nat.div_one, lastDigits, List.append_nil]
  | succ k ih =>
    have hDiv : n / 10 ^ (k + 1) = n / 10 / 10 ^ k := by
      rw [pow_succ, Nat.mul_comm, Nat.div_div_eq_div_mul]
    -- a number of one digit has nothing in front of its last `k + 1` digits
    have hTen : 10 ≤ n := by
      by_contra hLess
      have hZero : n / 10 = 0 := by omega
      rw [hDiv, hZero, Nat.zero_div] at h
      exact h rfl
    rw [natText_split_ten hTen, hDiv, ih (hDiv ▸ h), lastDigits, List.append_assoc]

/-- The last digits of zero are zeros. -/
theorem lastDigits_zero (k : Nat) : lastDigits k 0 = zeros k := by
  induction k with
  | zero => rfl
  | succ k ih =>
    rw [lastDigits, Nat.zero_div, ih, zeros, zeros, List.replicate_succ']
    rfl

/-- A number with at most `k` digits: zeros, and its digits. -/
theorem lastDigits_small {k n : Nat} (hPos : 0 < n) (h : n < 10 ^ k) :
    lastDigits k n = zeros (k - (natText n).length) ++ natText n := by
  induction k generalizing n with
  | zero => omega
  | succ k ih =>
    by_cases hSmall : n < 10
    · have hDiv : n / 10 = 0 := by omega
      have hMod : n % 10 = n := by omega
      rw [lastDigits, hDiv, hMod, lastDigits_zero, length_natText_lt_ten hSmall,
        Nat.add_sub_cancel]
    · -- a number with a digit in front of the last one: that digit's text is one shorter
      have hLess : n / 10 < 10 ^ k := by
        rw [pow_succ] at h
        omega
      have hSplit : natText n = natText (n / 10) ++ natText (n % 10) := natText_split_ten (by omega)
      have hDigit : (natText (n % 10)).length = 1 := length_natText_lt_ten (by omega)
      have hLength : (natText n).length = (natText (n / 10)).length + 1 := by
        rw [hSplit, List.length_append, hDigit]
      rw [lastDigits, ih (by omega) hLess, List.append_assoc, ← hSplit, hLength,
        Nat.add_sub_add_right]

/-- The last digits stand for the remainder. -/
theorem digitsValue_lastDigits (k n : Nat) : digitsValue (lastDigits k n) = n % 10 ^ k := by
  induction k generalizing n with
  | zero =>
    rw [pow_zero, Nat.mod_one]
    rfl
  | succ k ih =>
    have hDigit : n % 10 < 10 := by omega
    rw [lastDigits, digitsValue_append, ih, digitsValue_natText, length_natText_lt_ten hDigit,
      pow_one, pow_succ, Nat.mul_comm (10 ^ k) 10, Nat.mod_mul]
    ring

/-- Ten times a number has a zero behind its text. -/
theorem natText_ten_mul {n : Nat} (h : 0 < n) : natText (10 * n) = natText n ++ zeros 1 := by
  have hText := @natText_concat n 0 h (by omega)
  exact hText

/-- A zero more at the end. -/
theorem lastDigits_ten_mul (k n : Nat) :
    lastDigits (k + 1) (10 * n) = lastDigits k n ++ zeros 1 := by
  have hDiv : 10 * n / 10 = n := by omega
  have hMod : 10 * n % 10 = 0 := by omega
  rw [lastDigits, hDiv, hMod]
  rfl

/-- A power of ten puts zeros behind the text of a number. -/
theorem natText_mul_pow {n : Nat} (h : 0 < n) (k : Nat) :
    natText (n * 10 ^ k) = natText n ++ zeros k := by
  induction k with
  | zero =>
    rw [pow_zero, Nat.mul_one, zeros, List.replicate_zero, List.append_nil]
  | succ k ih =>
    have hPos : 0 < n * 10 ^ k := Nat.mul_pos h (by positivity)
    rw [pow_succ, ← Nat.mul_assoc, Nat.mul_comm _ 10, natText_ten_mul hPos, ih, List.append_assoc,
      zeros, zeros, zeros, List.replicate_append_replicate]

-- ---------------------------------------------------------------------------
-- Trailing zeros
-- ---------------------------------------------------------------------------

/-- The text without the zeros that end it. -/
abbrev trimZeros (s : Str) : Str := rstripChar 0x30 s

/-- A stripped character at the end does not count. -/
theorem rstripChar_concat_self (c : CodePoint) (s : Str) :
    rstripChar c (s ++ [c]) = rstripChar c s := by
  unfold rstripChar
  rw [List.reverse_append, List.reverse_singleton, List.singleton_append,
    List.dropWhile_cons_of_pos (by rw [beq_iff_eq])]

/-- Another character at the end keeps the text as it is. -/
theorem rstripChar_concat_of_ne {c d : CodePoint} (h : d ≠ c) (s : Str) :
    rstripChar c (s ++ [d]) = s ++ [d] := by
  unfold rstripChar
  rw [List.reverse_append, List.reverse_singleton, List.singleton_append,
    List.dropWhile_cons_of_neg (by rw [beq_iff_eq]; exact h), List.reverse_cons,
    List.reverse_reverse]

/-- What is taken off a text is a run of the character. -/
theorem rstripChar_append (c : CodePoint) (s : Str) :
    ∃ n, s = rstripChar c s ++ List.replicate n c := by
  induction s using List.reverseRecOn with
  | nil => exact ⟨0, rfl⟩
  | append_singleton s d ih =>
    by_cases hd : d = c
    · obtain ⟨n, hn⟩ := ih
      refine ⟨n + 1, ?_⟩
      rw [hd, rstripChar_concat_self, List.replicate_succ', ← List.append_assoc, ← hn]
    · exact ⟨0, by rw [rstripChar_concat_of_ne hd, List.replicate_zero, List.append_nil]⟩

/-- Stripping goes on to the text in front where nothing is left of the one behind. -/
theorem rstripChar_append_eq (c : CodePoint) (s t : Str) :
    rstripChar c (s ++ t) = if rstripChar c t = [] then rstripChar c s else s ++ rstripChar c t := by
  induction t using List.reverseRecOn with
  | nil =>
    rw [List.append_nil]
    exact (if_pos rfl).symm
  | append_singleton t d ih =>
    rw [← List.append_assoc]
    by_cases hd : d = c
    · rw [hd, rstripChar_concat_self, rstripChar_concat_self, ih]
    · rw [rstripChar_concat_of_ne hd, rstripChar_concat_of_ne hd, if_neg (by simp), List.append_assoc]

/-- A text without the character has nothing to strip. -/
theorem rstripChar_of_not_mem {c : CodePoint} {s : Str} (h : c ∉ s) : rstripChar c s = s := by
  obtain ⟨n, hn⟩ := rstripChar_append c s
  cases n with
  | zero =>
    rw [List.replicate_zero, List.append_nil] at hn
    exact hn.symm
  | succ n =>
    refine absurd ?_ h
    rw [hn]
    exact List.mem_append_right _ (List.mem_replicate.mpr ⟨Nat.succ_ne_zero n, rfl⟩)

/-- Stripping brings in no character. -/
theorem mem_rstripChar {c d : CodePoint} {s : Str} (h : d ∈ rstripChar c s) : d ∈ s := by
  obtain ⟨n, hn⟩ := rstripChar_append c s
  rw [hn]
  exact List.mem_append_left _ h

/-- The zeros that end a fraction do not count. -/
theorem digitsValue_trimZeros (s : Str) :
    (digitsValue (trimZeros s) : ℚ) / 10 ^ (trimZeros s).length =
      digitsValue s / 10 ^ s.length := by
  obtain ⟨n, hn⟩ := rstripChar_append 0x30 s
  -- each zero that was stripped was a factor of ten above and below
  have hValue : digitsValue s = digitsValue (trimZeros s) * 10 ^ n := by
    have hAppend := digitsValue_append (trimZeros s) (List.replicate n 0x30)
    rw [← hn, digitsValue_zeros, List.length_replicate, Nat.add_zero] at hAppend
    exact hAppend
  have hLength : s.length = (trimZeros s).length + n := by
    have hAppend := congrArg List.length hn
    rw [List.length_append, List.length_replicate] at hAppend
    exact hAppend
  rw [hValue, hLength, pow_add]
  push_cast
  rw [mul_div_mul_right _ _ (by positivity)]

/-- A zero behind the last digits is trimmed away. -/
theorem trimZeros_lastDigits_ten_mul (k n : Nat) :
    trimZeros (lastDigits (k + 1) (10 * n)) = trimZeros (lastDigits k n) := by
  rw [lastDigits_ten_mul]
  exact rstripChar_concat_self _ _

-- ---------------------------------------------------------------------------
-- The text of a form
-- ---------------------------------------------------------------------------

/-- The text of `n` units of the `k`-th place after the point, with a sign. -/
def trimmed (negative : Bool) (n k : Nat) : Str :=
  (if negative then str "-" else []) ++ natText (n / 10 ^ k) ++
    (if (trimZeros (lastDigits k n)).isEmpty then []
      else str "." ++ trimZeros (lastDigits k n))

/-- A zero more at the end of the units is not seen. -/
theorem trimmed_ten_mul (negative : Bool) (n k : Nat) :
    trimmed negative (10 * n) (k + 1) = trimmed negative n k := by
  unfold trimmed
  rw [trimZeros_lastDigits_ten_mul, pow_succ, Nat.mul_comm (10 ^ k) 10,
    Nat.mul_div_mul_left _ _ (by decide)]

/-- More places with zeros in them give the same trimmed text. -/
theorem trimmed_mul_pow (negative : Bool) (n k m : Nat) :
    trimmed negative (n * 10 ^ m) (k + m) = trimmed negative n k := by
  induction m with
  | zero => rw [pow_zero, Nat.mul_one, Nat.add_zero]
  | succ m ih =>
    rw [pow_succ, ← Nat.mul_assoc, Nat.mul_comm _ 10, ← Nat.add_assoc, trimmed_ten_mul, ih]

/-- The units of a form that is not zero, and their place. -/
def Decimal.units (d : Decimal) : Nat := d.coefficient * 10 ^ d.exponent.toNat

def Decimal.places (d : Decimal) : Nat := (-d.exponent).toNat

/-- A form is so many units of its place. -/
theorem Decimal.value_eq (d : Decimal) :
    d.value = (if d.negative then -1 else 1) * (d.units / 10 ^ d.places) := by
  unfold Decimal.value Decimal.units Decimal.places
  have hTen : (10 : ℚ) ≠ 0 := by norm_num
  have hPower : (10 : ℚ) ^ d.exponent = 10 ^ d.exponent.toNat / 10 ^ (-d.exponent).toNat := by
    rw [← zpow_natCast, ← zpow_natCast, ← zpow_sub₀ hTen]
    congr 1
    omega
  rw [hPower]
  push_cast
  ring

/-- The digits before the point and those after it are those of the units. -/
theorem Decimal.fixedParts_eq {n : Nat} (hPos : 0 < n) (e : Int) :
    fixedParts e (natText n) = (natText (n * 10 ^ e.toNat / 10 ^ (-e).toNat),
      lastDigits (-e).toNat (n * 10 ^ e.toNat)) := by
  unfold fixedParts
  by_cases hExponent : 0 < e
  · -- the coefficient, and zeros
    have hPlaces : (-e).toNat = 0 := by omega
    have hCount : (e + ((natText n).length : Int) - (natText n).length).toNat = e.toNat := by omega
    rw [if_neg (by omega), if_pos (by omega), hPlaces, pow_zero, Nat.div_one, natText_mul_pow hPos,
      hCount]
    rfl
  · have hUnits : n * 10 ^ e.toNat = n := by
      have hZero : e.toNat = 0 := by omega
      rw [hZero, pow_zero, Nat.mul_one]
    obtain ⟨k, hk⟩ : ∃ k : Nat, (-e).toNat = k := ⟨_, rfl⟩
    have he : e = -(k : Int) := by omega
    rw [hUnits, hk, he]
    by_cases hWhole : n / 10 ^ k = 0
    · -- no digit before the point
      have hLess : n < 10 ^ k := by
        rcases Nat.div_eq_zero_iff.mp hWhole with hZero | hLess
        · exact absurd hZero (by positivity)
        · exact hLess
      have hDigits := lastDigits_small hPos hLess
      have hLength : (natText n).length ≤ k := by
        have hAll := congrArg List.length hDigits
        rw [length_lastDigits, List.length_append, zeros, List.length_replicate] at hAll
        omega
      rw [hWhole, hDigits]
      by_cases hFull : (natText n).length = k
      · have hPlace : (-(k : Int) + (natText n).length).toNat = 0 := by omega
        have hNone : k - (natText n).length = 0 := by omega
        rw [if_neg (by omega), if_neg (by omega), hPlace, hNone, List.take_zero, List.drop_zero]
        rfl
      · have hPlace : (-(-(k : Int) + (natText n).length)).toNat = k - (natText n).length := by omega
        rw [if_pos (by omega), hPlace]
        rfl
    · -- the last digits come after the point
      have hDigits := natText_split hWhole
      have hLength : (natText n).length = (natText (n / 10 ^ k)).length + k := by
        have hAll := congrArg List.length hDigits
        rw [List.length_append, length_lastDigits] at hAll
        exact hAll
      have hPlace : (-(k : Int) + (natText n).length).toNat = (natText (n / 10 ^ k)).length := by
        omega
      have hNonempty : ¬(natText (n / 10 ^ k)).isEmpty = true := by
        rw [List.isEmpty_iff]
        exact natText_ne_empty _
      have hTake : (natText n).take (natText (n / 10 ^ k)).length = natText (n / 10 ^ k) :=
        (congrArg (List.take _) hDigits).trans List.take_left
      have hDrop : (natText n).drop (natText (n / 10 ^ k)).length = lastDigits k n :=
        (congrArg (List.drop _) hDigits).trans List.drop_left
      rw [if_neg (by omega), if_neg (by omega), hPlace, hTake, hDrop, if_neg hNonempty]

/-- **The fixed-point text.** The digits before the point and those after it. -/
theorem Decimal.fixed_eq {d : Decimal} (h : d.coefficient ≠ 0) :
    d.fixed = (if d.negative then str "-" else []) ++ natText (d.units / 10 ^ d.places) ++
      (if (lastDigits d.places d.units).isEmpty then []
        else str "." ++ lastDigits d.places d.units) := by
  unfold Decimal.fixed
  simp only
  rw [if_neg (fun hZero : d.coefficient = 0 ∧ 0 < d.exponent => h hZero.1),
    fixedParts_eq (Nat.pos_of_ne_zero h)]
  rfl

-- ---------------------------------------------------------------------------
-- Reading back
-- ---------------------------------------------------------------------------

/-- The ASCII digits are digits. -/
theorem decimalDigit?_of_ascii {c : CodePoint} (h : 0x30 ≤ c.val ∧ c.val ≤ 0x39) :
    (decimalDigit? c).isSome = true := by
  have hZero : (0x30 : Nat) ∈ decimalZeros := List.mem_cons_self
  have hFound : (decimalZeros.find? fun block => block ≤ c.val && c.val < block + 10).isSome = true := by
    refine List.find?_isSome.mpr ⟨0x30, hZero, ?_⟩
    rw [Bool.and_eq_true, decide_eq_true_iff, decide_eq_true_iff]
    omega
  unfold decimalDigit?
  rw [Option.isSome_map]
  exact hFound

/-- The last digits are ASCII digits. -/
theorem mem_lastDigits {k n : Nat} {c : CodePoint} (h : c ∈ lastDigits k n) :
    0x30 ≤ c.val ∧ c.val ≤ 0x39 := by
  induction k generalizing n with
  | zero => exact absurd h List.not_mem_nil
  | succ k ih =>
    rcases List.mem_append.mp h with h | h
    · exact ih h
    · exact mem_natText h

/-- No sign and no point is among ASCII digits. -/
theorem not_mem_of_ascii {s : Str} (h : ∀ c ∈ s, 0x30 ≤ c.val ∧ c.val ≤ 0x39) {d : CodePoint}
    (hd : d.val < 0x30) : d ∉ s := by
  intro hMem
  have hRange := h d hMem
  omega

/-- A number's digits, a point and a fraction, with or without a sign. -/
theorem decimalParts_written {whole fraction : Str} (negative : Bool)
    (hWhole : ∀ c ∈ whole, 0x30 ≤ c.val ∧ c.val ≤ 0x39) (hNonempty : whole ≠ []) :
    decimalParts ((if negative then str "-" else []) ++ whole ++
      (if fraction.isEmpty then [] else str "." ++ fraction)) =
        ⟨negative, whole, if fraction.isEmpty then none else some fraction⟩ := by
  -- the text behind the sign begins with a digit
  let body := whole ++ (if fraction.isEmpty then [] else str "." ++ fraction)
  have hHead : ∀ c : CodePoint, c.val < 0x30 → body.head? ≠ some c := by
    intro c hc hHead
    rw [List.head?_append_of_ne_nil _ hNonempty] at hHead
    exact not_mem_of_ascii hWhole hc (List.mem_of_head? hHead)
  have hUnsigned : unsignedText ((if negative then str "-" else []) ++ body) = body := by
    cases negative with
    | false =>
      refine if_neg ?_
      rintro (hPlus | hMinus)
      · exact hHead 0x2B (by decide) hPlus
      · exact hHead 0x2D (by decide) hMinus
    | true => rfl
  have hSign : decide (((if negative then str "-" else []) ++ body).head? = (str "-").head?) =
      negative := by
    cases negative with
    | false => exact decide_eq_false (hHead 0x2D (by decide))
    | true => rfl
  have hTake : wholeText body = whole := by
    have hPoint : ∀ c ∈ whole, (c.val != 0x2E) = true := by
      intro c hc
      have hRange := hWhole c hc
      rw [bne_iff_ne]
      omega
    show (whole ++ _).takeWhile (fun c : CodePoint => c.val != 0x2E) = whole
    rw [List.takeWhile_append_of_pos hPoint]
    cases fraction with
    | nil => exact List.append_nil _
    | cons c fraction => exact List.append_nil _
  have hDrop : fractionText? body = if fraction.isEmpty then none else some fraction := by
    unfold fractionText?
    rw [hTake]
    cases fraction with
    | nil =>
      refine if_pos ?_
      exact congrArg List.length (List.append_nil whole)
    | cons c fraction =>
      have hLength : body.length = whole.length + (fraction.length + 2) := List.length_append
      rw [if_neg (by omega)]
      have hRest : body.drop (whole.length + 1) = c :: fraction := by
        show (whole ++ (0x2E :: c :: fraction)).drop (whole.length + 1) = c :: fraction
        rw [List.drop_append, List.drop_of_length_le (by omega), List.nil_append,
          Nat.add_sub_cancel_left]
        rfl
      rw [hRest]
      rfl
  rw [List.append_assoc, decimalParts_eq, hUnsigned, hSign, hTake, hDrop]

/-- A nonempty text of ASCII digits is one of digits. -/
theorem isDigits_of_ascii {s : Str} (h : ∀ c ∈ s, 0x30 ≤ c.val ∧ c.val ≤ 0x39) (hNonempty : s ≠ [])
    {most : Nat} (hMost : s.length ≤ most) : isDigits 1 most s = true :=
  isDigits_eq_true.mpr ⟨List.length_pos_iff.mpr hNonempty, hMost,
    fun c hc => decimalDigit?_of_ascii (h c hc)⟩

/-- The whole part and the fraction make up the number. -/
theorem trimmed_number (n k : Nat) :
    (digitsValue (natText (n / 10 ^ k)) : ℚ) +
      digitsValue (trimZeros (lastDigits k n)) / 10 ^ (trimZeros (lastDigits k n)).length =
        n / 10 ^ k := by
  have hSplit : (n : ℚ) = ((10 ^ k * (n / 10 ^ k) + n % 10 ^ k : Nat) : ℚ) := by
    rw [Nat.div_add_mod]
  rw [digitsValue_natText, digitsValue_trimZeros, digitsValue_lastDigits, length_lastDigits, hSplit]
  push_cast
  field_simp

/-- **The text is read back.** -/
theorem decimalOf?_trimmed (negative : Bool) (n k : Nat) :
    decimalOf? (trimmed negative n k) =
      some ((if negative then (-1 : ℚ) else 1) * ((n : ℚ) / 10 ^ k)) := by
  have hNumber := trimmed_number n k
  have hDigits : ∀ c ∈ trimZeros (lastDigits k n), 0x30 ≤ c.val ∧ c.val ≤ 0x39 :=
    fun c hc => mem_lastDigits (mem_rstripChar hc)
  -- the text has the parts that it was written from, and they are digits
  have hParts : decimalParts (trimmed negative n k) = ⟨negative, natText (n / 10 ^ k),
      if (trimZeros (lastDigits k n)).isEmpty then none else some (trimZeros (lastDigits k n))⟩ :=
    decimalParts_written negative (fun c hc => mem_natText hc) (natText_ne_empty _)
  have hLength : (natText (n / 10 ^ k)).length + (trimZeros (lastDigits k n)).length ≤
      (trimmed negative n k).length := by
    unfold trimmed
    rw [List.length_append, List.length_append]
    cases trimZeros (lastDigits k n) with
    | nil =>
      show _ + 0 ≤ _
      omega
    | cons c rest =>
      show _ + (rest.length + 1) ≤ _ + (rest.length + 2)
      omega
  have hWhole : isDigits 1 (trimmed negative n k).length (natText (n / 10 ^ k)) = true :=
    isDigits_of_ascii (fun c hc => mem_natText hc) (natText_ne_empty _) (by omega)
  have hFraction : trimZeros (lastDigits k n) ≠ [] →
      isDigits 1 (trimmed negative n k).length (trimZeros (lastDigits k n)) = true :=
    fun hNonempty => isDigits_of_ascii hDigits hNonempty (by omega)
  have hSigned : ∀ x : ℚ, (if negative then -x else x) = (if negative then (-1 : ℚ) else 1) * x := by
    intro x
    cases negative with
    | false => exact (one_mul x).symm
    | true => exact (neg_one_mul x).symm
  rw [← hNumber, ← hSigned]
  unfold decimalOf?
  simp only [hParts, hWhole, Bool.true_and]
  -- without places after the point there is no fraction to check
  cases hCase : trimZeros (lastDigits k n) with
  | nil => rfl
  | cons c rest =>
    have hRest : isDigits 1 (trimmed negative n k).length (c :: rest) = true := by
      rw [← hCase]
      exact hFraction (by rw [hCase]; exact List.cons_ne_nil c rest)
    exact if_pos hRest

-- ---------------------------------------------------------------------------
-- One text for each number
-- ---------------------------------------------------------------------------

/-- Stripping the zeros and then the point. -/
theorem rstrip_point (s fraction : Str) (hPoint : 0x2E ∉ s)
    (hDigits : ∀ c ∈ fraction, 0x30 ≤ c.val ∧ c.val ≤ 0x39) :
    rstripChar 0x2E (rstripChar 0x30 (s ++ (str "." ++ fraction))) =
      s ++ (if (trimZeros fraction).isEmpty then [] else str "." ++ trimZeros fraction) := by
  have hStrip : rstripChar 0x30 (str "." ++ fraction) = str "." ++ trimZeros fraction := by
    rw [rstripChar_append_eq]
    split
    · rename_i hEmpty
      show str "." = str "." ++ rstripChar 0x30 fraction
      rw [hEmpty, List.append_nil]
    · rfl
  have hNonempty : str "." ++ trimZeros fraction ≠ [] := List.cons_ne_nil _ _
  have hNoPoint : (0x2E : CodePoint) ∉ trimZeros fraction :=
    not_mem_of_ascii (fun c hc => hDigits c (mem_rstripChar hc)) (by decide)
  -- the zeros end at the point, and the point is stripped when nothing is left behind it
  rw [rstripChar_append_eq, hStrip, if_neg hNonempty, ← List.append_assoc, rstripChar_append_eq,
    rstripChar_of_not_mem hNoPoint]
  by_cases hEmpty : trimZeros fraction = []
  · rw [if_pos hEmpty, hEmpty]
    show rstripChar 0x2E (s ++ [0x2E]) = s ++ []
    rw [rstripChar_concat_self, rstripChar_of_not_mem hPoint, List.append_nil]
  · rw [if_neg hEmpty, if_neg (by rw [List.isEmpty_iff]; exact hEmpty), List.append_assoc]

/-- A number other than zero has digits. -/
theorem Decimal.coefficient_ne_zero {d : Decimal} (h : d.value ≠ 0) : d.coefficient ≠ 0 := by
  intro hZero
  refine h ?_
  unfold Decimal.value
  rw [hZero, Nat.cast_zero, mul_zero, zero_mul]

/-- A sign and the digits before the point have no point. -/
theorem sign_not_point (negative : Bool) (n : Nat) :
    (0x2E : CodePoint) ∉ (if negative then str "-" else []) ++ natText n := by
  intro hMem
  rcases List.mem_append.mp hMem with hSign | hDigit
  · cases negative with
    | false => exact absurd hSign List.not_mem_nil
    | true => exact absurd hSign (by decide)
  · exact not_mem_of_ascii (fun c hc => mem_natText hc) (by decide) hDigit

/-- The zeros that end the fraction of a form are taken off, and a point with them. -/
theorem Decimal.strip_fixed {d : Decimal} (h : d.coefficient ≠ 0) :
    (if d.fixed.contains 0x2E then rstripChar 0x2E (rstripChar 0x30 d.fixed)
      else d.fixed) = trimmed d.negative d.units d.places := by
  have hPoint := sign_not_point d.negative (d.units / 10 ^ d.places)
  have hFixed := Decimal.fixed_eq h
  unfold trimmed
  cases hCase : lastDigits d.places d.units with
  | nil =>
    rw [hCase] at hFixed
    have hText : d.fixed = (if d.negative then str "-" else []) ++
        natText (d.units / 10 ^ d.places) := hFixed.trans (List.append_nil _)
    rw [hText, if_neg (fun hContains => hPoint (List.contains_iff_mem.mp hContains))]
    exact (List.append_nil _).symm
  | cons c rest =>
    rw [hCase] at hFixed
    have hText : d.fixed = (if d.negative then str "-" else []) ++
        natText (d.units / 10 ^ d.places) ++ (str "." ++ (c :: rest)) := hFixed
    have hDigits : ∀ b ∈ c :: rest, 0x30 ≤ b.val ∧ b.val ≤ 0x39 := by
      intro b hb
      rw [← hCase] at hb
      exact mem_lastDigits hb
    -- there are places, so the text has a point and is stripped
    have hMem : (0x2E : CodePoint) ∈ d.fixed := by
      rw [hText]
      exact List.mem_append_right _ List.mem_cons_self
    rw [if_pos (List.contains_iff_mem.mpr hMem), hText]
    exact rstrip_point _ _ hPoint hDigits

/-- **The text of a number.** Its digits, without the zeros that end the fraction. -/
theorem Decimal.trim_eq {d : Decimal} (h : d.value ≠ 0) :
    d.trim = trimmed d.negative d.units d.places := by
  -- minus zero is no text of a number other than zero, since both are read back
  have hSigned : trimmed d.negative d.units d.places ≠ str "-0" := by
    intro hText
    have hRead := decimalOf?_trimmed d.negative d.units d.places
    have hZero := decimalOf?_trimmed true 0 0
    have hSame : trimmed true 0 0 = str "-0" := by decide +kernel
    rw [hSame, Nat.cast_zero, zero_div, mul_zero] at hZero
    rw [hText, hZero, ← Decimal.value_eq] at hRead
    exact h (Option.some_injective _ hRead).symm
  unfold Decimal.trim
  simp only
  rw [if_neg h, Decimal.strip_fixed (coefficient_ne_zero h), if_neg hSigned]

/-- **The text of a form is read back.** -/
theorem Decimal.decimalOf?_trim (d : Decimal) : decimalOf? d.trim = some d.value := by
  by_cases h : d.value = 0
  · have hText : d.trim = trimmed false 0 0 := if_pos h
    rw [hText, decimalOf?_trimmed, h, Nat.cast_zero, zero_div, mul_zero]
  · rw [Decimal.trim_eq h, decimalOf?_trimmed, ← Decimal.value_eq]

/-- The sign and the size of a number that is not zero. -/
theorem Decimal.sign_eq {d e : Decimal} (h : d.value = e.value) (hZero : d.value ≠ 0) :
    d.negative = e.negative ∧ (d.units : ℚ) / 10 ^ d.places = e.units / 10 ^ e.places := by
  have hd := d.value_eq
  have he := e.value_eq
  have hUnits : 0 ≤ (d.units : ℚ) / 10 ^ d.places := by positivity
  have hOther : 0 ≤ (e.units : ℚ) / 10 ^ e.places := by positivity
  rw [← h] at he
  -- two signs would put the number on both sides of zero
  cases hNegative : d.negative <;> cases hNegative' : e.negative <;>
    simp only [hNegative, hNegative', if_true, Bool.false_eq_true, if_false, one_mul] at hd he
  · exact ⟨rfl, by rw [← hd, ← he]⟩
  · exact absurd (by linarith : d.value = 0) hZero
  · exact absurd (by linarith : d.value = 0) hZero
  · exact ⟨rfl, by linarith⟩

/-- **Forms of one number have one text.** -/
theorem Decimal.trim_eq_of_value {d e : Decimal} (h : d.value = e.value) : d.trim = e.trim := by
  by_cases hZero : d.value = 0
  · have hOther : e.value = 0 := h ▸ hZero
    have hLeft : d.trim = str "0" := if_pos hZero
    have hRight : e.trim = str "0" := if_pos hOther
    rw [hLeft, hRight]
  · obtain ⟨hSign, hSize⟩ := Decimal.sign_eq h hZero
    have hCross : d.units * 10 ^ e.places = e.units * 10 ^ d.places := by
      rw [div_eq_div_iff (by positivity) (by positivity)] at hSize
      exact_mod_cast hSize
    -- both numbers are written with the places of both together
    calc d.trim
        = trimmed d.negative d.units d.places := Decimal.trim_eq hZero
      _ = trimmed d.negative (d.units * 10 ^ e.places) (d.places + e.places) :=
          (trimmed_mul_pow _ _ _ _).symm
      _ = trimmed e.negative (e.units * 10 ^ d.places) (e.places + d.places) := by
          rw [hSign, hCross, Nat.add_comm]
      _ = trimmed e.negative e.units e.places := trimmed_mul_pow _ _ _ _
      _ = e.trim := (Decimal.trim_eq (h ▸ hZero)).symm

/-- **A canonical text.** Two forms have one text if and only if they stand for one number. -/
theorem Decimal.trim_eq_iff {d e : Decimal} : d.trim = e.trim ↔ d.value = e.value := by
  constructor
  · intro h
    have hRead := d.decimalOf?_trim
    rw [h, e.decimalOf?_trim] at hRead
    exact (Option.some_injective _ hRead).symm
  · exact Decimal.trim_eq_of_value

-- ---------------------------------------------------------------------------
-- The text of the number alone
-- ---------------------------------------------------------------------------

/-- The first of the last digits, and the ones behind it. -/
theorem lastDigits_front (k n : Nat) :
    lastDigits (k + 1) n = natText (n / 10 ^ k % 10) ++ lastDigits k n := by
  induction k generalizing n with
  | zero =>
    rw [pow_zero, Nat.div_one]
    show [] ++ natText (n % 10) = natText (n % 10) ++ []
    rw [List.nil_append, List.append_nil]
  | succ k ih =>
    have hDiv : n / 10 / 10 ^ k = n / 10 ^ (k + 1) := by
      rw [pow_succ, Nat.mul_comm, Nat.div_div_eq_div_mul]
    -- the last digit is split off, and the induction finds the first one in front
    calc lastDigits (k + 2) n
        = lastDigits (k + 1) (n / 10) ++ natText (n % 10) := rfl
      _ = natText (n / 10 ^ (k + 1) % 10) ++ (lastDigits k (n / 10) ++ natText (n % 10)) := by
          rw [ih, hDiv, List.append_assoc]

/-- The digits in front do not matter to the last ones. -/
theorem lastDigits_mod (k n : Nat) : lastDigits k (n % 10 ^ k) = lastDigits k n := by
  induction k generalizing n with
  | zero => rfl
  | succ k ih =>
    have hLast : n % 10 ^ (k + 1) % 10 = n % 10 :=
      Nat.mod_mod_of_dvd n (Dvd.intro_left (10 ^ k) rfl)
    have hFront : n % 10 ^ (k + 1) / 10 = n / 10 % 10 ^ k := by
      rw [pow_succ, Nat.mul_comm, Nat.mod_mul_right_div_self]
    rw [lastDigits, lastDigits, hLast, hFront, ih]

/-- Digits that are all trimmed away stand for zero. -/
theorem trimZeros_eq_nil {s : Str} (h : trimZeros s = []) : digitsValue s = 0 := by
  obtain ⟨n, hn⟩ := rstripChar_append 0x30 s
  rw [show rstripChar 0x30 s = [] from h, List.nil_append] at hn
  rw [hn, digitsValue_zeros]

/-- A digit other than zero is not trimmed away. -/
theorem trimZeros_natText {d : Nat} (hPos : 0 < d) (h : d < 10) :
    trimZeros (natText d) = natText d := by
  interval_cases d <;> rfl

/-- Zeros are trimmed away. -/
theorem trimZeros_zeros (n : Nat) : trimZeros (zeros n) = [] := by
  induction n with
  | zero => rfl
  | succ n ih =>
    have hZeros : zeros (n + 1) = zeros n ++ [0x30] := List.replicate_succ'
    rw [hZeros]
    exact (rstripChar_concat_self _ _).trans ih

/-- The whole part of a quotient of numbers is the quotient in numbers. -/
theorem floor_natCast_div (m n : Nat) : ((m : ℚ) / n).floor = ((m / n : Nat) : ℤ) :=
  Rat.floor_intCast_div_natCast m n

/-- What the whole part leaves of a quotient is the remainder's part. -/
theorem div_sub_floor (m : Nat) {n : Nat} (hn : 0 < n) :
    (m : ℚ) / n - ((m / n : Nat) : ℤ) = ((m % n : Nat) : ℚ) / n := by
  have hSplit : (m : ℚ) = n * (m / n : Nat) + (m % n : Nat) := by
    exact_mod_cast (Nat.div_add_mod m n).symm
  have hNonzero : (n : ℚ) ≠ 0 := Nat.cast_ne_zero.mpr (by omega)
  rw [Int.cast_natCast, eq_div_iff hNonzero, sub_mul, div_mul_cancel₀ _ hNonzero]
  linarith

/-- The digits of a fraction of `k` places, read off from the front. -/
theorem fractionText_eq {fuel k m : Nat} (hLess : m < 10 ^ k) (hFuel : 10 ^ k ∣ m * 10 ^ fuel) :
    fractionText fuel ((m : ℚ) / 10 ^ k) = trimZeros (lastDigits k m) := by
  induction fuel generalizing k m with
  | zero =>
    have hZero : m = 0 := by
      rw [pow_zero, Nat.mul_one] at hFuel
      exact Nat.eq_zero_of_dvd_of_lt hFuel hLess
    rw [hZero, lastDigits_zero, trimZeros_zeros]
    rfl
  | succ fuel ih =>
    by_cases hZero : m = 0
    · rw [hZero, lastDigits_zero, trimZeros_zeros, fractionText, Nat.cast_zero, zero_div,
        if_pos rfl]
    · obtain ⟨k, rfl⟩ : ∃ j, k = j + 1 := by
        cases k with
        | zero => omega
        | succ j => exact ⟨j, rfl⟩
      -- the first digit, and the fraction behind it
      have hTen : (m : ℚ) / 10 ^ (k + 1) * 10 = m / (10 ^ k : Nat) := by
        rw [pow_succ]
        push_cast
        field_simp
      have hDigit : m / 10 ^ k < 10 := by
        rw [pow_succ] at hLess
        exact Nat.div_lt_of_lt_mul hLess
      have hRest : (m : ℚ) / (10 ^ k : Nat) - ((m / 10 ^ k : Nat) : ℤ) =
          ((m % 10 ^ k : Nat) : ℚ) / 10 ^ k := by
        rw [div_sub_floor m (by positivity), Nat.cast_pow]
        rfl
      have hBehind : 10 ^ k ∣ m % 10 ^ k * 10 ^ fuel := by
        have hAll : 10 ^ k ∣ m * 10 ^ fuel := by
          rw [pow_succ, pow_succ, ← Nat.mul_assoc] at hFuel
          exact Nat.dvd_of_mul_dvd_mul_right (by decide) hFuel
        have hFront : 10 ^ k ∣ 10 ^ k * (m / 10 ^ k) * 10 ^ fuel := ⟨m / 10 ^ k * 10 ^ fuel, by ring⟩
        have hSum : m * 10 ^ fuel =
            10 ^ k * (m / 10 ^ k) * 10 ^ fuel + m % 10 ^ k * 10 ^ fuel := by
          rw [← Nat.add_mul, Nat.div_add_mod]
        rw [hSum] at hAll
        exact (Nat.dvd_add_right hFront).mp hAll
      have hNonzero : (m : ℚ) / 10 ^ (k + 1) ≠ 0 :=
        div_ne_zero (Nat.cast_ne_zero.mpr hZero) (by positivity)
      rw [fractionText, if_neg hNonzero, hTen, floor_natCast_div, hRest,
        ih (Nat.mod_lt _ (by positivity)) hBehind, lastDigits_mod, lastDigits_front,
        Nat.mod_eq_of_lt hDigit, Int.toNat_natCast]
      show _ = rstripChar 0x30 (_ ++ _)
      rw [rstripChar_append_eq]
      by_cases hEmpty : trimZeros (lastDigits k m) = []
      · have hNoRest : m % 10 ^ k = 0 := by
          rw [← digitsValue_lastDigits]
          exact trimZeros_eq_nil hEmpty
        have hPos : 0 < m / 10 ^ k := by
          refine Nat.pos_of_ne_zero (fun hNone => hZero ?_)
          rw [← Nat.div_add_mod m (10 ^ k), hNone, hNoRest, Nat.mul_zero]
        rw [if_pos hEmpty, hEmpty, List.append_nil]
        exact (trimZeros_natText hPos hDigit).symm
      · rw [if_neg hEmpty]

/-- A decimal fraction has fewer digits after the point than its denominator has bits. -/
theorem dvd_pow_log2 {n k : Nat} (h : n ∣ 10 ^ k) : n ∣ 10 ^ (n.log2 + 1) := by
  have hTen : (10 : Nat) ^ k = 2 ^ k * 5 ^ k := by
    rw [← Nat.mul_pow]
  rw [hTen] at h
  -- a divisor of a power of ten is a power of two times one of five
  obtain ⟨y, z, hy, hz, rfl⟩ := Nat.dvd_mul.mp h
  obtain ⟨a, -, rfl⟩ := (Nat.dvd_prime_pow Nat.prime_two).mp hy
  obtain ⟨b, -, rfl⟩ := (Nat.dvd_prime_pow Nat.prime_five).mp hz
  have hPos : 2 ^ a * 5 ^ b ≠ 0 := by positivity
  have hTwo : 2 ^ a ≤ 2 ^ a * 5 ^ b := Nat.le_mul_of_pos_right _ (by positivity)
  have hFive : 2 ^ b ≤ 2 ^ a * 5 ^ b :=
    (Nat.pow_le_pow_left (by decide) b).trans (Nat.le_mul_of_pos_left _ (by positivity))
  have ha : a ≤ (2 ^ a * 5 ^ b).log2 := (Nat.le_log2 hPos).mpr hTwo
  have hb : b ≤ (2 ^ a * 5 ^ b).log2 := (Nat.le_log2 hPos).mpr hFive
  have hPower : (10 : Nat) ^ ((2 ^ a * 5 ^ b).log2 + 1) =
      2 ^ ((2 ^ a * 5 ^ b).log2 + 1) * 5 ^ ((2 ^ a * 5 ^ b).log2 + 1) := by
    rw [← Nat.mul_pow]
  rw [hPower]
  exact Nat.mul_dvd_mul (Nat.pow_dvd_pow _ (by omega)) (Nat.pow_dvd_pow _ (by omega))

/-- The digits after the point of `n` units of the `k`-th place, from the front. -/
theorem fractionText_of_abs {x : ℚ} {n k : Nat} (h : |x| = (n : ℚ) / (10 ^ k : Nat)) :
    fractionText (x.den.log2 + 1) (((n % 10 ^ k : Nat) : ℚ) / 10 ^ k) =
      trimZeros (lastDigits k n) := by
  have hAbs : |x| = (x.num.natAbs : ℚ) / x.den := by
    calc |x| = |(x.num : ℚ) / x.den| := by rw [Rat.num_div_den]
      _ = (x.num.natAbs : ℚ) / x.den := by
          rw [abs_div, Nat.abs_cast, ← Int.cast_abs, Int.abs_eq_natAbs, Int.cast_natCast]
  have hCross : n * x.den = x.num.natAbs * 10 ^ k := by
    have hDen : (x.den : ℚ) ≠ 0 := Nat.cast_ne_zero.mpr x.den_nz
    rw [h, div_eq_div_iff (Nat.cast_ne_zero.mpr (by positivity)) hDen] at hAbs
    exact_mod_cast hAbs
  -- the denominator in lowest terms divides the power of ten, so the fuel is enough
  have hDvd : x.den ∣ 10 ^ k :=
    x.reduced.symm.dvd_of_dvd_mul_left (Dvd.intro_left n hCross)
  have hFuel : 10 ^ k ∣ n * 10 ^ (x.den.log2 + 1) :=
    (Dvd.intro_left _ hCross.symm).trans (Nat.mul_dvd_mul_left n (dvd_pow_log2 hDvd))
  have hSplit : n * 10 ^ (x.den.log2 + 1) = 10 ^ k * (n / 10 ^ k) * 10 ^ (x.den.log2 + 1) +
      n % 10 ^ k * 10 ^ (x.den.log2 + 1) := by
    rw [← Nat.add_mul, Nat.div_add_mod]
  have hWhole : 10 ^ k ∣ 10 ^ k * (n / 10 ^ k) * 10 ^ (x.den.log2 + 1) :=
    ⟨n / 10 ^ k * 10 ^ (x.den.log2 + 1), by ring⟩
  rw [hSplit] at hFuel
  rw [fractionText_eq (Nat.mod_lt _ (by positivity)) ((Nat.dvd_add_right hWhole).mp hFuel),
    lastDigits_mod]

/-- **The text of a number and the text of its forms.** -/
theorem decimalText_value (d : Decimal) : decimalText d.value = d.trim := by
  by_cases hZero : d.value = 0
  · have hText : d.trim = str "0" := if_pos hZero
    rw [hText, hZero]
    decide +kernel
  · obtain ⟨n, hn⟩ : ∃ n, d.units = n := ⟨_, rfl⟩
    obtain ⟨k, hk⟩ : ∃ k, d.places = k := ⟨_, rfl⟩
    have hValue := d.value_eq
    rw [hn, hk] at hValue
    rw [Decimal.trim_eq hZero, hn, hk]
    -- the sign, and the size
    have hSize : 0 < (n : ℚ) / 10 ^ k := by
      have hNonneg : 0 ≤ (n : ℚ) / 10 ^ k := by positivity
      refine lt_of_le_of_ne hNonneg (fun hNone => hZero ?_)
      rw [hValue, ← hNone, mul_zero]
    have hNegative : d.value < 0 ↔ d.negative = true := by
      rw [hValue]
      cases d.negative with
      | false =>
        rw [if_neg Bool.false_ne_true, one_mul]
        exact ⟨fun h => absurd h (not_lt_of_gt hSize), fun h => absurd h Bool.false_ne_true⟩
      | true =>
        rw [if_pos rfl, neg_one_mul]
        exact ⟨fun _ => rfl, fun _ => neg_neg_of_pos hSize⟩
    have hAbs : |d.value| = (n : ℚ) / (10 ^ k : Nat) := by
      rw [hValue, abs_mul, abs_of_pos hSize, Nat.cast_pow]
      cases d.negative with
      | false => rw [if_neg Bool.false_ne_true, abs_one, one_mul, Nat.cast_ofNat]
      | true => rw [if_pos rfl, abs_neg, abs_one, one_mul, Nat.cast_ofNat]
    have hRest : |d.value| - (|d.value|.floor : ℤ) = ((n % 10 ^ k : Nat) : ℚ) / 10 ^ k := by
      rw [hAbs, floor_natCast_div, div_sub_floor n (by positivity), Nat.cast_pow, Nat.cast_ofNat]
    have hWhole : |d.value|.floor.toNat = n / 10 ^ k := by
      rw [hAbs, floor_natCast_div, Int.toNat_natCast]
    unfold decimalText trimmed
    simp only
    rw [hRest, hWhole, fractionText_of_abs hAbs]
    simp only [hNegative]

end Text
