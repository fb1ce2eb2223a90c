import Mathlib.Data.List.Induction
import Mathlib.Data.Sign.Basic
import Mathlib.Tactic.FieldSimp
import Mathlib.Tactic.IntervalCases
import Mathlib.Tactic.Positivity
import Mathlib.Tactic.Ring
import SpikeBackend.Lib.Decimals

/-!
# Digits and rounding

A text of digits stands for less than its length allows, and the digits of a number stand for it.
A number of few digits at a fixed place is not rounded, and rounding keeps the sign.

* `digitsValue_append`, `digitsValue_lt`, `digitsValue_natText` — the value of digits;
* `mem_decimalParts` — the parts of a number's text;
* `Fits.round`, `Fits.add` — sums that a context holds exactly;
* `sign_roundDigits` — rounding keeps the sign.
-/

namespace Text

-- ---------------------------------------------------------------------------
-- Digits
-- ---------------------------------------------------------------------------

/-- A decimal digit is one of ten. -/
theorem decimalDigit?_lt {c : CodePoint} {d : Nat} (h : decimalDigit? c = some d) : d < 10 := by
  obtain ⟨block, hBlock, rfl⟩ := Option.map_eq_some_iff.mp h
  have hRange := List.find?_some hBlock
  rw [Bool.and_eq_true, decide_eq_true_iff, decide_eq_true_iff] at hRange
  omega

/-- A digit is less than ten. -/
theorem getD_decimalDigit?_lt (c : CodePoint) : (decimalDigit? c).getD 0 < 10 := by
  cases h : decimalDigit? c with
  | none => decide
  | some d => exact decimalDigit?_lt h

/-- A digit behind the others. -/
theorem digitsValue_concat (s : Str) (c : CodePoint) :
    digitsValue (s ++ [c]) = 10 * digitsValue s + (decimalDigit? c).getD 0 := by
  unfold digitsValue
  rw [List.foldl_append]
  rfl

/-- Digits in front count for a power of ten each. -/
theorem digitsValue_append (s t : Str) :
    digitsValue (s ++ t) = digitsValue s * 10 ^ t.length + digitsValue t := by
  induction t using List.reverseRecOn with
  | nil =>
    rw [List.append_nil, List.length_nil, pow_zero, mul_one]
    rfl
  | append_singleton t c ih =>
    rw [← List.append_assoc, digitsValue_concat, digitsValue_concat, ih, List.length_append,
      List.length_singleton, pow_succ]
    ring

/-- A text of `n` digits stands for less than `10 ^ n`. -/
theorem digitsValue_lt (s : Str) : digitsValue s < 10 ^ s.length := by
  induction s using List.reverseRecOn with
  | nil => decide
  | append_singleton s c ih =>
    have hDigit := getD_decimalDigit?_lt c
    rw [digitsValue_concat, List.length_append, List.length_singleton, pow_succ]
    omega

/-- Zeros stand for zero. -/
theorem digitsValue_zeros (n : Nat) : digitsValue (List.replicate n 0x30) = 0 := by
  induction n with
  | zero => rfl
  | succ n ih =>
    rw [List.replicate_succ', digitsValue_concat, ih]
    rfl

/-- The characters of two lists, one behind the other. -/
theorem str_ofList_append (s t : List Char) :
    str (String.ofList (s ++ t)) = str (String.ofList s) ++ str (String.ofList t) := by
  simp only [str, String.toList_ofList, List.map_append]

theorem natText_lt_ten {d : Nat} (h : d < 10) : natText d = [(0x30 + Fin.ofNat 0x110000 d)] := by
  interval_cases d <;> rfl

/-- The last digit of a number, and the ones before it. -/
theorem natText_concat {n d : Nat} (hn : 0 < n) (hd : d < 10) :
    natText (10 * n + d) = natText n ++ natText d := by
  unfold natText
  rw [← Nat.toDigits_append_toDigits (by decide) hn hd, str_ofList_append]

/-- The ASCII character of a digit is read as that digit. -/
theorem decimalDigit?_natText {d : Nat} (h : d < 10) :
    decimalDigit? (0x30 + Fin.ofNat 0x110000 d) = some d := by
  interval_cases d <;> rfl

/-- The digits of a number stand for it. -/
theorem digitsValue_natText (n : Nat) : digitsValue (natText n) = n := by
  induction n using Nat.strongRecOn with
  | ind n ih =>
    by_cases hSmall : n < 10
    · rw [natText_lt_ten hSmall]
      show 10 * 0 + (decimalDigit? _).getD 0 = n
      rw [decimalDigit?_natText hSmall, Option.getD_some, Nat.mul_zero, Nat.zero_add]
    · -- the last digit is split off
      have hPos : 0 < n / 10 := by omega
      have hDigit : n % 10 < 10 := by omega
      have hSplit : n = 10 * (n / 10) + n % 10 := by omega
      have hLast := natText_lt_ten hDigit
      rw [hSplit, natText_concat hPos hDigit, hLast, digitsValue_concat, ih (n / 10) (by omega),
        decimalDigit?_natText hDigit]
      rfl

theorem natText_injective {m n : Nat} (h : natText m = natText n) : m = n := by
  rw [← digitsValue_natText m, h, digitsValue_natText]

/-- Every number has a digit. -/
theorem natText_ne_empty (n : Nat) : natText n ≠ [] := by
  have hLength : (natText n).length = (Nat.toDigits 10 n).length := by
    unfold natText str
    rw [String.toList_ofList, List.length_map]
  intro h
  rw [h, List.length_nil] at hLength
  have hPos := Nat.length_toDigits_pos (b := 10) (n := n)
  omega

-- ---------------------------------------------------------------------------
-- Parts
-- ---------------------------------------------------------------------------

/-- A text of digits, by its length and its characters. -/
theorem isDigits_eq_true {least most : Nat} {s : Str} :
    isDigits least most s = true ↔ least ≤ s.length ∧ s.length ≤ most ∧
      ∀ c ∈ s, (decimalDigit? c).isSome = true := by
  unfold isDigits
  rw [Bool.and_eq_true, Bool.and_eq_true, decide_eq_true_iff, decide_eq_true_iff, List.all_eq_true,
    and_assoc]

/-- The text without its sign. -/
def unsignedText (s : Str) : Str :=
  if s.head? = (str "+").head? ∨ s.head? = (str "-").head? then s.tail else s

/-- The digits before the point of a text without sign, and those after it. -/
def wholeText (s : Str) : Str := s.takeWhile fun c => c.val != 0x2E

def fractionText? (s : Str) : Option Str :=
  if s.length = (wholeText s).length then none else some (s.drop ((wholeText s).length + 1))

/-- The parts of a text: its sign, what is before the point and what is behind it. -/
theorem decimalParts_eq (s : Str) :
    decimalParts s = ⟨decide (s.head? = (str "-").head?), wholeText (unsignedText s),
      fractionText? (unsignedText s)⟩ := rfl

/-- The parts of a text have its characters. -/
theorem mem_decimalParts {s : Str} {c : CodePoint} (h : c ∈ unsignedText s) :
    c ∈ (decimalParts s).whole ∨ c = 0x2E ∨ c ∈ (decimalParts s).fraction.getD [] := by
  let whole := (unsignedText s).takeWhile fun c => c.val != 0x2E
  have hSplit := List.takeWhile_append_dropWhile (p := fun c : CodePoint => c.val != 0x2E)
    (l := unsignedText s)
  rw [← hSplit, List.mem_append] at h
  rcases h with hWhole | hRest
  · exact .inl hWhole
  · right
    cases hDrop : (unsignedText s).dropWhile fun c => c.val != 0x2E with
    | nil =>
      rw [hDrop] at hRest
      exact absurd hRest List.not_mem_nil
    | cons d rest =>
      have hText : unsignedText s = whole ++ d :: rest := by rw [← hDrop]; exact hSplit.symm
      -- what stops the digits in front is the point itself
      have hPoint : d = 0x2E := by
        have hHead := List.head?_dropWhile_not (fun c : CodePoint => c.val != 0x2E) (unsignedText s)
        rw [hDrop] at hHead
        have hVal : d.val = 0x2E := bne_eq_false_iff_eq.mp hHead
        exact Fin.ext hVal
      have hFraction : (decimalParts s).fraction = some rest := by
        show (if (unsignedText s).length = whole.length then none
          else some ((unsignedText s).drop (whole.length + 1))) = some rest
        rw [if_neg]
        · rw [hText, List.drop_append, List.drop_of_length_le (by omega)]
          simp
        · rw [hText, List.length_append, List.length_cons]
          omega
      rw [hDrop, List.mem_cons] at hRest
      rcases hRest with rfl | hRest
      · exact .inl hPoint
      · rw [hFraction]
        exact .inr hRest

-- ---------------------------------------------------------------------------
-- Rounding
-- ---------------------------------------------------------------------------

/-- At most `places` digits after the point, and at most `bound` units of the last of them. -/
def Fits (places bound : Nat) (x : ℚ) : Prop :=
  ∃ units : ℤ, x = units / 10 ^ places ∧ |units| ≤ bound

theorem Fits.zero (places bound : Nat) : Fits places bound 0 :=
  ⟨0, by rw [Int.cast_zero, zero_div], by rw [abs_zero]; exact Int.natCast_nonneg bound⟩

/-- What fits a bound fits a greater one. -/
theorem Fits.mono {places bound bound' : Nat} {x : ℚ} (h : Fits places bound x)
    (hBound : bound ≤ bound') : Fits places bound' x := by
  obtain ⟨units, hx, hUnits⟩ := h
  exact ⟨units, hx, by omega⟩

/-- A sign does not matter to the bound. -/
theorem Fits.neg {places bound : Nat} {x : ℚ} (h : Fits places bound x) :
    Fits places bound (-x) := by
  obtain ⟨units, rfl, hUnits⟩ := h
  refine ⟨-units, by push_cast; ring, ?_⟩
  rw [abs_neg]
  exact hUnits

/-- Addition adds the bounds. -/
theorem Fits.add {places bound bound' : Nat} {x y : ℚ} (hx : Fits places bound x)
    (hy : Fits places bound' y) : Fits places (bound + bound') (x + y) := by
  obtain ⟨m, rfl, hm⟩ := hx
  obtain ⟨n, rfl, hn⟩ := hy
  refine ⟨m + n, by push_cast; ring, ?_⟩
  have hSum := abs_add_le m n
  push_cast
  omega

/-- A sum of as many numbers as it has. -/
theorem Fits.sum {places bound : Nat} {values : List ℚ} (h : ∀ x ∈ values, Fits places bound x) :
    Fits places (values.length * bound) values.sum := by
  induction values with
  | nil => exact Fits.zero _ _
  | cons x values ih =>
    have hHead := h x List.mem_cons_self
    have hTail := ih fun y hy => h y (List.mem_cons_of_mem x hy)
    rw [List.sum_cons, List.length_cons, Nat.succ_mul, Nat.add_comm]
    exact hHead.add hTail

/-- **No rounding.** A number whose units are fewer than the digits of the context allow is not
rounded. -/
theorem Fits.round {places bound prec : Nat} {x : ℚ} (h : Fits places bound x)
    (hBound : bound < 10 ^ prec) : roundDigits prec x = x := by
  obtain ⟨units, hx, hUnits⟩ := h
  by_cases hZero : x = 0
  · rw [roundDigits, if_pos hZero, hZero]
  · have hPos : 0 < |x| := abs_pos.mpr hZero
    have hTen : (10 : ℚ) ≠ 0 := by norm_num
    -- the last digit kept is at the last place of `x` or after it
    have hLog : Int.log 10 |x| + 1 - (prec : Int) ≤ -(places : Int) := by
      have hLt : |x| < ((10 : Nat) : ℚ) ^ ((prec : Int) - places) := by
        have hLess : |units| < ((10 ^ prec : Nat) : ℤ) := by omega
        have hCast : (|units| : ℚ) < 10 ^ prec := by exact_mod_cast hLess
        rw [hx, abs_div, abs_of_pos (by positivity : (0 : ℚ) < 10 ^ places), Nat.cast_ofNat,
          zpow_sub₀ hTen, zpow_natCast, zpow_natCast, div_lt_div_iff_of_pos_right (by positivity)]
        exact hCast
      have hLess := (Int.lt_zpow_iff_log_lt (by decide) hPos).mp hLt
      omega
    obtain ⟨k, hk⟩ : ∃ k : Nat, (k : Int) = -(Int.log 10 |x| + 1 - (prec : Int)) - places :=
      ⟨(-(Int.log 10 |x| + 1 - (prec : Int)) - places).toNat, Int.toNat_of_nonneg (by omega)⟩
    have hUnit : (10 : ℚ) ^ (Int.log 10 |x| + 1 - (prec : Int)) = 1 / (10 ^ places * 10 ^ k) := by
      have hExponent : Int.log 10 |x| + 1 - (prec : Int) = -((places + k : Nat) : Int) := by
        push_cast
        omega
      rw [hExponent, zpow_neg, zpow_natCast, pow_add, one_div]
    have hWhole : x / 10 ^ (Int.log 10 |x| + 1 - (prec : Int)) = ((units * 10 ^ k : ℤ) : ℚ) := by
      rw [hUnit, hx]
      push_cast
      field_simp
    have hRound : roundHalfEven (x / 10 ^ (Int.log 10 |x| + 1 - (prec : Int))) = units * 10 ^ k := by
      rw [hWhole, roundHalfEven_intCast]
    rw [roundDigits, if_neg hZero]
    show (roundHalfEven (x / 10 ^ (Int.log 10 |x| + 1 - (prec : Int))) : ℚ) *
      10 ^ (Int.log 10 |x| + 1 - (prec : Int)) = x
    rw [hRound, ← hWhole, div_mul_cancel₀]
    exact zpow_ne_zero _ hTen

/-- Rounding stays above an integer below. -/
theorem le_roundHalfEven {n : ℤ} {x : ℚ} (h : n ≤ x) : n ≤ roundHalfEven x := by
  have hFloor : n ≤ x.floor := Rat.le_floor_iff.mpr h
  unfold roundHalfEven
  dsimp only
  split
  · exact hFloor
  · split
    · omega
    · split <;> omega

/-- Rounding stays below an integer above. -/
theorem roundHalfEven_le {n : ℤ} {x : ℚ} (h : x ≤ n) : roundHalfEven x ≤ n := by
  have hFloor : x.floor ≤ n := by
    have hLe : (x.floor : ℚ) ≤ n := (Rat.floor_le x).trans h
    exact_mod_cast hLe
  rcases hFloor.lt_or_eq with hLt | hEq
  · unfold roundHalfEven
    dsimp only
    split
    · omega
    · split
      · omega
      · split <;> omega
  · have hx : x = n := le_antisymm h (hEq ▸ Rat.floor_le x)
    rw [hx, roundHalfEven_intCast]

/-- **Rounding keeps the sign.** -/
theorem sign_roundDigits {prec : Nat} (hPrec : 0 < prec) (x : ℚ) :
    SignType.sign (roundDigits prec x) = SignType.sign x := by
  by_cases hZero : x = 0
  · rw [roundDigits, if_pos hZero, hZero]
  · have hPos : 0 < |x| := abs_pos.mpr hZero
    have hLog : Int.log 10 |x| + 1 - (prec : Int) ≤ Int.log 10 |x| := by omega
    have hUnit : (0 : ℚ) < 10 ^ (Int.log 10 |x| + 1 - (prec : Int)) := zpow_pos (by norm_num) _
    -- the unit of the last digit is at most the number, so rounding cannot reach zero
    have hLe : (10 : ℚ) ^ (Int.log 10 |x| + 1 - (prec : Int)) ≤ |x| := by
      have hSelf := Int.zpow_log_le_self (b := 10) (by decide) hPos
      rw [Nat.cast_ofNat] at hSelf
      exact (zpow_le_zpow_right₀ (by norm_num) hLog).trans hSelf
    rw [roundDigits, if_neg hZero]
    show SignType.sign ((roundHalfEven (x / 10 ^ (Int.log 10 |x| + 1 - (prec : Int))) : ℚ) *
      10 ^ (Int.log 10 |x| + 1 - (prec : Int))) = _
    rw [sign_mul, sign_pos hUnit, mul_one]
    rcases lt_or_gt_of_ne hZero with hNeg | hPositive
    · have hAbs : |x| = -x := abs_of_neg hNeg
      have hRound : roundHalfEven (x / 10 ^ (Int.log 10 |x| + 1 - (prec : Int))) ≤ -1 := by
        refine roundHalfEven_le ?_
        rw [div_le_iff₀ hUnit]
        push_cast
        linarith
      rw [sign_neg hNeg, sign_neg]
      exact_mod_cast (by omega : roundHalfEven _ < 0)
    · have hAbs : |x| = x := abs_of_pos hPositive
      have hRound : 1 ≤ roundHalfEven (x / 10 ^ (Int.log 10 |x| + 1 - (prec : Int))) := by
        refine le_roundHalfEven ?_
        rw [le_div_iff₀ hUnit]
        push_cast
        linarith
      rw [sign_pos hPositive, sign_pos]
      exact_mod_cast (by omega : 0 < roundHalfEven _)

end Text
