import Mathlib.Algebra.Order.Field.Rat
import Mathlib.Algebra.BigOperators.Group.List.Basic
import Mathlib.Data.Int.Log
import Mathlib.Data.List.SplitOn
import SpikeBackend.Lib.Json

/-!
# Decimal numbers

A finite Python `Decimal` is the rational number it stands for. An operation gives the
exact result rounded as the context says: to a number of significant digits, from halfway
to the even one, or not at all. The texts of decimals are read and written here too.

* `Context.exact_add`, `Context.exact_sum` — without rounding a sum is the sum;
* `mem_natText`, `mem_intText` — the characters of a number's text.
-/

namespace Text

-- ---------------------------------------------------------------------------
-- Arithmetic
-- ---------------------------------------------------------------------------

/-- `x` rounded to `prec` significant digits, from halfway to the even one. -/
def roundDigits (prec : Nat) (x : ℚ) : ℚ :=
  if x = 0 then 0
  else
    let unit : ℚ := 10 ^ (Int.log 10 |x| + 1 - (prec : Int))
    roundHalfEven (x / unit) * unit

/-- What a context rounds an exact result to. -/
structure Context where
  round : ℚ → ℚ

namespace Context

/-- Exact arithmetic. -/
def exact : Context := ⟨fun x => x⟩

/-- `context.prec = prec`. -/
def ofPrec (prec : Nat) : Context := ⟨roundDigits prec⟩

variable (ctx : Context)

def add (a b : ℚ) : ℚ := ctx.round (a + b)

def sub (a b : ℚ) : ℚ := ctx.round (a - b)

def mul (a b : ℚ) : ℚ := ctx.round (a * b)

def div (a b : ℚ) : ℚ := ctx.round (a / b)

def abs (a : ℚ) : ℚ := ctx.round |a|

def neg (a : ℚ) : ℚ := ctx.round (-a)

/-- `sum(values, Decimal(0))`. -/
def sum (values : List ℚ) : ℚ := values.foldl ctx.add 0

@[simp] theorem exact_add (a b : ℚ) : exact.add a b = a + b := rfl

/-- Adding one after the other is adding the sum. -/
theorem exact_foldl_add (values : List ℚ) (a : ℚ) :
    values.foldl exact.add a = a + values.sum := by
  induction values generalizing a with
  | nil =>
    rw [List.sum_nil, add_zero]
    rfl
  | cons x values ih =>
    rw [List.foldl_cons, ih, List.sum_cons, exact_add, add_assoc]

/-- Without rounding the sum is the sum. -/
@[simp] theorem exact_sum (values : List ℚ) : exact.sum values = values.sum := by
  unfold sum
  rw [exact_foldl_add, zero_add]

end Context

-- ---------------------------------------------------------------------------
-- Reading
-- ---------------------------------------------------------------------------

/-- The zeros of the blocks of ten decimal digits of Unicode. -/
def decimalZeros : List Nat :=
  [0x0030, 0x0660, 0x06F0, 0x07C0, 0x0966, 0x09E6, 0x0A66, 0x0AE6, 0x0B66, 0x0BE6, 0x0C66,
    0x0CE6, 0x0D66, 0x0DE6, 0x0E50, 0x0ED0, 0x0F20, 0x1040, 0x1090, 0x17E0, 0x1810, 0x1946,
    0x19D0, 0x1A80, 0x1A90, 0x1B50, 0x1BB0, 0x1C40, 0x1C50, 0xA620, 0xA8D0, 0xA900, 0xA9D0,
    0xA9F0, 0xAA50, 0xABF0, 0xFF10, 0x104A0, 0x10D30, 0x11066, 0x110F0, 0x11136, 0x111D0,
    0x112F0, 0x11450, 0x114D0, 0x11650, 0x116C0, 0x11730, 0x118E0, 0x11950, 0x11C50, 0x11D50,
    0x11DA0, 0x11F50, 0x16A60, 0x16AC0, 0x16B50, 0x1D7CE, 0x1D7D8, 0x1D7E2, 0x1D7EC, 0x1D7F6,
    0x1E140, 0x1E2F0, 0x1E4F0, 0x1E950, 0x1FBF0]

/-- The value of a character that `\d` matches. -/
def decimalDigit? (c : CodePoint) : Option Nat :=
  (decimalZeros.find? fun zero => zero ≤ c.val && c.val < zero + 10).map (c.val - ·)

/-- `\d{least,most}` matches the whole text. -/
def isDigits (least most : Nat) (s : Str) : Bool :=
  decide (least ≤ s.length) && decide (s.length ≤ most) && s.all fun c => (decimalDigit? c).isSome

/-- The number that a text of digits stands for. -/
def digitsValue (s : Str) : Nat :=
  s.foldl (fun n c => 10 * n + (decimalDigit? c).getD 0) 0

/-- The sign, the digits before the point and those after it. -/
structure DecimalParts where
  negative : Bool
  whole : Str
  fraction : Option Str

def decimalParts (s : Str) : DecimalParts :=
  let unsigned := if s.head? = (str "+").head? ∨ s.head? = (str "-").head? then s.tail else s
  let whole := unsigned.takeWhile fun c => c.val != 0x2E
  { negative := s.head? = (str "-").head?
    whole := whole
    fraction := if unsigned.length = whole.length then none
      else some (unsigned.drop (whole.length + 1)) }

namespace DecimalParts

variable (parts : DecimalParts)

/-- `^[+-]?(?:\d{1,40})(?:\.\d{1,20})?$`. -/
def isStrict : Bool := isDigits 1 40 parts.whole && parts.fraction.all (isDigits 1 20)

/-- `^[+-]?(?:\d{1,3})(?:,\d{3})+(?:\.\d{1,20})?$`. -/
def isGrouped : Bool :=
  let groups := parts.whole.splitOnP (·.val == 0x2C)
  (groups.head?).any (isDigits 1 3) && !groups.tail.isEmpty && groups.tail.all (isDigits 3 3) &&
    parts.fraction.all (isDigits 1 20)

/-- `Decimal(text)`. -/
def value : ℚ :=
  let fraction := parts.fraction.getD []
  let magnitude : ℚ := digitsValue parts.whole + digitsValue fraction / 10 ^ fraction.length
  if parts.negative then -magnitude else magnitude

end DecimalParts

-- ---------------------------------------------------------------------------
-- Writing
-- ---------------------------------------------------------------------------

/-- `str(n)`. -/
def natText (n : Nat) : Str := str (String.ofList (Nat.toDigits 10 n))

def intText (n : Int) : Str := if n < 0 then str "-" ++ natText n.natAbs else natText n.natAbs

/-- The digits of a fraction after the point, until nothing is left of it. -/
def fractionText : Nat → ℚ → Str
  | 0, _ => []
  | fuel + 1, x =>
    if x = 0 then []
    else natText (x * 10).floor.toNat ++ fractionText fuel (x * 10 - (x * 10).floor)

/-- `format(value, "f")` without the zeros that end it; a decimal fraction has fewer digits
after the point than its denominator has bits. -/
def decimalText (x : ℚ) : Str :=
  let whole := |x|.floor
  let fraction := fractionText (x.den.log2 + 1) (|x| - whole)
  (if x < 0 then str "-" else []) ++ natText whole.toNat ++
    (if fraction.isEmpty then [] else str "." ++ fraction)

/-- A number is written in digits. -/
theorem mem_natText {n : Nat} {c : CodePoint} (h : c ∈ natText n) : 0x30 ≤ c.val ∧ c.val ≤ 0x39 := by
  simp only [natText, str, String.toList_ofList, List.mem_map] at h
  obtain ⟨d, hd, rfl⟩ := h
  have hDigit : d.isDigit = true := Nat.isDigit_of_mem_toDigits (by decide) (by decide) hd
  simp only [Char.isDigit, Bool.and_eq_true, decide_eq_true_eq, UInt32.le_iff_toNat_le] at hDigit
  have hLow : ('0' : Char).val.toNat = 48 := rfl
  have hHigh : ('9' : Char).val.toNat = 57 := rfl
  have hVal : d.toNat = d.val.toNat := rfl
  have hMod : d.toNat % 0x110000 = d.toNat := Nat.mod_eq_of_lt (by omega)
  show 0x30 ≤ d.toNat % 0x110000 ∧ d.toNat % 0x110000 ≤ 0x39
  omega

/-- An integer is written with digits and a sign. -/
theorem mem_intText {n : Int} {c : CodePoint} (h : c ∈ intText n) : 0x2D ≤ c.val ∧ c.val ≤ 0x39 := by
  have hDigits : ∀ m : Nat, c ∈ natText m → 0x2D ≤ c.val ∧ c.val ≤ 0x39 := by
    intro m hm
    have hDigit := mem_natText hm
    omega
  rw [intText] at h
  split at h
  · rcases List.mem_append.mp h with h | h
    · obtain rfl := List.mem_singleton.mp h
      decide
    · exact hDigits _ h
  · exact hDigits _ h

end Text
