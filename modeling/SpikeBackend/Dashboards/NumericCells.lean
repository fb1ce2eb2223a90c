import SpikeBackend.Lib.Digits
import SpikeBackend.Model.SourceArtifacts

/-!
# Numeric cells

The two readings of a text as a number: `_strict_decimal` of the insight takes currency symbols,
percent signs, groups and parentheses off before it reads what `_strict_decimal` of the snapshots
reads as it is. What the strict pattern accepts is left alone by every step.

* `strictDecimal_text` — the steps of the insight's reading;
* `strictDecimal_of_snapshot`, `strictDecimal_mono`, `strictDecimal_parentheses` — how the
  readings agree;
* `one_numeric_reading` — all of it, for every text.
-/

namespace SpikeBackend

open Text Collections

variable {lib : StandardLibrary}

-- ---------------------------------------------------------------------------
-- The steps of a reading
-- ---------------------------------------------------------------------------

/-- The text of a cell without the whitespace around it, the minus sign spelled with a hyphen. -/
def cellText (s : Str) : Str := (strip s).map fun c => if c.val = 0x2212 then 0x2D else c

/-- `negative_parentheses`. -/
def inParentheses (s : Str) : Bool :=
  decide ((cellText s).head? = (str "(").head?) && decide ((cellText s).getLast? = (str ")").head?)

/-- The text between the parentheses, where there are any. -/
def bodyText (s : Str) : Str :=
  if inParentheses s then strip (cellText s).tail.dropLast else cellText s

/-- The text without the commas of its groups. -/
def ungrouped (candidate : Str) : Option Str :=
  if candidate.any (·.val == 0x2C) then
    if (decimalParts candidate).isGrouped then some (candidate.filter (·.val != 0x2C)) else none
  else some candidate

/-- The text with the sign that the parentheses stand for. -/
def withSign (negative : Bool) (candidate : Str) : Option Str :=
  if negative then
    if candidate.head? = (str "+").head? ∨ candidate.head? = (str "-").head? then none
    else some (str "-" ++ candidate)
  else some candidate

/-- The number that a strict text stands for. -/
def strictValue? (candidate : Str) : Option ℚ :=
  if (decimalParts candidate).isStrict then some (decimalParts candidate).value else none

/-- A symbol is taken off where it is found and allowed. -/
def symbolStep (allowed found : Bool) (rest candidate : Str) : Option Str :=
  if found then if allowed then some (strip rest) else none else some candidate

theorem ite_bind {α β : Type} (p : Prop) [Decidable p] (x y : Option α) (f : α → Option β) :
    (if p then x else y).bind f = if p then x.bind f else y.bind f := by
  split <;> rfl

/-- The candidate, symbol by symbol. -/
theorem decimalCandidate_steps (allowCurrency allowPercent : Bool) (s : Str) :
    decimalCandidate allowCurrency allowPercent s =
      (symbolStep allowPercent (decide (s.getLast? = (str "%").head?)) s.dropLast s).bind fun c =>
        (symbolStep allowCurrency (c.head?.any (· ∈ currencySymbols)) c.tail c).bind fun c =>
          (symbolStep allowCurrency (c.getLast?.any (· ∈ currencySymbols)) c.dropLast c).bind
            fun c => some (c.filter (·.val != 0x20)) := by
  unfold symbolStep
  simp only [ite_bind, decide_eq_true_eq]
  rfl

/-- The insight's reading takes one step after the other. -/
theorem strictDecimal_text (allowCurrency allowPercent : Bool) (s : Str) :
    strictDecimal lib allowCurrency allowPercent (.str s) =
      (decimalCandidate allowCurrency allowPercent (bodyText s)).bind fun c =>
        (ungrouped c).bind fun c => (withSign (inParentheses s) c).bind strictValue? := by
  show (decimalCandidate allowCurrency allowPercent (bodyText s)).bind _ = _
  refine congrArg _ (funext fun c => ?_)
  unfold ungrouped withSign strictValue?
  simp only [ite_bind]
  rfl

theorem snapshotStrictDecimal_text (s : Str) :
    snapshotStrictDecimal lib (.str s) = strictValue? (strip s) := rfl

/-- What a text must be for the reading of the parser. -/
theorem strictDecimal_eq_some {allowCurrency allowPercent : Bool} {s : Str} {x : ℚ} :
    strictDecimal lib allowCurrency allowPercent (.str s) = some x ↔
      ∃ c₁ c₂ c₃, decimalCandidate allowCurrency allowPercent (bodyText s) = some c₁ ∧
        ungrouped c₁ = some c₂ ∧ withSign (inParentheses s) c₂ = some c₃ ∧
        strictValue? c₃ = some x := by
  simp only [strictDecimal_text, Option.bind_eq_some_iff]
  constructor
  · rintro ⟨c₁, h₁, c₂, h₂, c₃, h₃, h⟩
    exact ⟨c₁, c₂, c₃, h₁, h₂, h₃, h⟩
  · rintro ⟨c₁, c₂, c₃, h₁, h₂, h₃, h⟩
    exact ⟨c₁, h₁, c₂, h₂, c₃, h₃, h⟩

-- ---------------------------------------------------------------------------
-- Strict texts
-- ---------------------------------------------------------------------------

/-- A strict text has the value of its parts. -/
theorem strictValue?_eq_some {s : Str} {x : ℚ} :
    strictValue? s = some x ↔ (decimalParts s).isStrict = true ∧ (decimalParts s).value = x := by
  unfold strictValue?
  split
  · rename_i hStrict
    rw [Option.some_inj, and_iff_right hStrict]
  · rename_i hStrict
    constructor
    · intro h
      cases h
    · intro h
      exact absurd h.1 hStrict

/-- The characters of a strict text: digits, signs and the point. -/
def IsStrictChar (c : CodePoint) : Prop :=
  (decimalDigit? c).isSome = true ∨ c = 0x2B ∨ c = 0x2D ∨ c = 0x2E

/-- A strict text has only strict characters. -/
theorem isStrictChar_of_isStrict {s : Str} (h : (decimalParts s).isStrict = true) {c : CodePoint}
    (hc : c ∈ s) : IsStrictChar c := by
  unfold DecimalParts.isStrict at h
  rw [Bool.and_eq_true] at h
  have hWhole := (isDigits_eq_true.mp h.1).2.2
  have hFraction : ∀ d ∈ (decimalParts s).fraction.getD [], (decimalDigit? d).isSome = true := by
    intro d hd
    cases hPart : (decimalParts s).fraction with
    | none =>
      rw [hPart] at hd
      exact absurd hd List.not_mem_nil
    | some fraction =>
      rw [hPart] at hd
      have hDigits := h.2
      rw [hPart, Option.all_some] at hDigits
      exact (isDigits_eq_true.mp hDigits).2.2 d hd
  -- digits before the point, the point, digits behind it
  have hUnsigned : ∀ d ∈ unsignedText s, IsStrictChar d := by
    intro d hd
    rcases mem_decimalParts hd with h | h | h
    · exact .inl (hWhole d h)
    · exact .inr (.inr (.inr h))
    · exact .inl (hFraction d h)
  cases s with
  | nil => exact absurd hc List.not_mem_nil
  | cons d rest =>
    unfold unsignedText at hUnsigned
    split at hUnsigned
    · rename_i hSign
      rcases List.mem_cons.mp hc with rfl | hRest
      · rcases hSign with hPlus | hMinus
        · exact .inr (.inl (Option.some.inj hPlus))
        · exact .inr (.inr (.inl (Option.some.inj hMinus)))
      · exact hUnsigned c hRest
    · exact hUnsigned c hc

/-- A strict text stands for a number of at most 40 digits before the point and 20 after it. -/
theorem fits_of_isStrict {s : Str} (h : (decimalParts s).isStrict = true) :
    Fits 20 (10 ^ 60) (decimalParts s).value := by
  unfold DecimalParts.isStrict at h
  rw [Bool.and_eq_true] at h
  have hWhole := (isDigits_eq_true.mp h.1).2.1
  have hFraction : ((decimalParts s).fraction.getD []).length ≤ 20 := by
    cases hPart : (decimalParts s).fraction with
    | none => exact Nat.zero_le _
    | some fraction =>
      have hDigits := h.2
      rw [hPart, Option.all_some] at hDigits
      exact (isDigits_eq_true.mp hDigits).2.1
  -- the units of the twentieth digit after the point
  let places := ((decimalParts s).fraction.getD []).length
  let whole := digitsValue (decimalParts s).whole
  let fraction := digitsValue ((decimalParts s).fraction.getD [])
  have hMagnitude : Fits 20 (10 ^ 60) ((whole : ℚ) + fraction / 10 ^ places) := by
    obtain ⟨rest, hRest⟩ := Nat.exists_eq_add_of_le hFraction
    have hPower : (10 : ℚ) ^ 20 = 10 ^ places * 10 ^ rest := by rw [← pow_add, ← hRest]
    have hWholeLt : whole < 10 ^ 40 :=
      (digitsValue_lt _).trans_le (Nat.pow_le_pow_right (by decide) hWhole)
    have hFractionLt : fraction * 10 ^ rest < 10 ^ 20 := by
      have hLt := Nat.mul_lt_mul_of_pos_right (digitsValue_lt ((decimalParts s).fraction.getD []))
        (show 0 < 10 ^ rest by positivity)
      rw [← pow_add, ← hRest] at hLt
      exact hLt
    refine ⟨((whole * 10 ^ 20 + fraction * 10 ^ rest : ℕ) : ℤ), ?_, ?_⟩
    · have hCast : ((whole * 10 ^ 20 + fraction * 10 ^ rest : ℕ) : ℤ) =
          ((whole : ℚ) * 10 ^ 20 + fraction * 10 ^ rest) := by push_cast; rfl
      rw [hCast, add_div, hPower, mul_div_cancel_right₀ _ (by positivity),
        mul_div_mul_right _ _ (by positivity)]
    · rw [abs_of_nonneg (Int.natCast_nonneg _)]
      refine Int.ofNat_le.mpr ?_
      have hPow : (10 : ℕ) ^ 60 = 10 ^ 40 * 10 ^ 20 := by rw [← pow_add]
      rw [hPow]
      have hStep : (whole + 1) * 10 ^ 20 ≤ 10 ^ 40 * 10 ^ 20 := Nat.mul_le_mul_right _ hWholeLt
      rw [Nat.succ_mul] at hStep
      omega
  show Fits 20 (10 ^ 60) (if (decimalParts s).negative then -((whole : ℚ) + fraction / 10 ^ places)
    else (whole : ℚ) + fraction / 10 ^ places)
  split
  · exact hMagnitude.neg
  · exact hMagnitude

/-- **Accepted cells.** What `_strict_decimal` accepts has 60 digits at most, 20 of them after the
point. -/
theorem strictDecimal_fits {allowCurrency allowPercent : Bool} {s : Str} {x : ℚ}
    (h : strictDecimal lib allowCurrency allowPercent (.str s) = some x) : Fits 20 (10 ^ 60) x := by
  obtain ⟨_, _, c, -, -, -, hValue⟩ := strictDecimal_eq_some.mp h
  obtain ⟨hStrict, rfl⟩ := strictValue?_eq_some.mp hValue
  exact fits_of_isStrict hStrict

-- ---------------------------------------------------------------------------
-- Steps that leave a text alone
-- ---------------------------------------------------------------------------

/-- A character that is no digit, sign or point. -/
theorem not_isStrictChar {c : CodePoint} (hDigit : decimalDigit? c = none) (hPlus : c ≠ 0x2B)
    (hMinus : c ≠ 0x2D) (hPoint : c ≠ 0x2E) : ¬IsStrictChar c := by
  rintro (h | h | h | h)
  · rw [hDigit] at h
    exact Bool.noConfusion h
  · exact hPlus h
  · exact hMinus h
  · exact hPoint h

/-- The currency symbols, the percent sign and the other characters that the steps take off are
no characters of a strict text. -/
theorem not_isStrictChar_of_mem {c : CodePoint} (h : c ∈ currencySymbols ++ str "%(), −") :
    ¬IsStrictChar c := by
  have hAll : (currencySymbols ++ str "%(), −").all (fun c =>
      (decimalDigit? c).isNone && c != 0x2B && c != 0x2D && c != 0x2E) = true := by decide +kernel
  have hEach := List.all_eq_true.mp hAll c h
  simp only [Bool.and_eq_true, bne_iff_ne, Option.isNone_iff_eq_none] at hEach
  obtain ⟨⟨⟨hDigit, hPlus⟩, hMinus⟩, hPoint⟩ := hEach
  exact not_isStrictChar hDigit hPlus hMinus hPoint

/-- A currency symbol that is found is one of the list. -/
theorem currency_of_any {c? : Option CodePoint} (h : c?.any (· ∈ currencySymbols) = true) :
    ∃ c, c? = some c ∧ c ∈ currencySymbols := by
  cases c? with
  | none => exact Bool.noConfusion h
  | some c => exact ⟨c, rfl, of_decide_eq_true h⟩

/-- A strict text is its own candidate, whatever the flags. -/
theorem decimalCandidate_of_strict {s : Str} (h : ∀ c ∈ s, IsStrictChar c)
    (allowCurrency allowPercent : Bool) :
    decimalCandidate allowCurrency allowPercent s = some s := by
  -- none of the characters that the steps look for is strict
  have hNot : ∀ c, c ∈ currencySymbols ++ str "%(), −" → c ∉ s :=
    fun c hc hMem => not_isStrictChar_of_mem hc (h c hMem)
  have hPercent : ¬s.getLast? = (str "%").head? := by
    intro hLast
    exact hNot 0x25 (by decide) (List.mem_of_getLast? hLast)
  have hHead : ¬s.head?.any (· ∈ currencySymbols) = true := by
    intro hAny
    obtain ⟨c, hc, hSymbol⟩ := currency_of_any hAny
    exact hNot c (List.mem_append_left _ hSymbol) (List.mem_of_head? hc)
  have hLast : ¬s.getLast?.any (· ∈ currencySymbols) = true := by
    intro hAny
    obtain ⟨c, hc, hSymbol⟩ := currency_of_any hAny
    exact hNot c (List.mem_append_left _ hSymbol) (List.mem_of_getLast? hc)
  have hFilter : s.filter (·.val != 0x20) = s := by
    rw [List.filter_eq_self]
    intro c hc
    rw [bne_iff_ne]
    intro hSpace
    have hEq : c = 0x20 := Fin.ext hSpace
    exact hNot c (hEq ▸ by decide) hc
  rw [decimalCandidate_steps, decide_eq_false hPercent]
  show (symbolStep allowCurrency (s.head?.any (· ∈ currencySymbols)) s.tail s).bind _ = some s
  rw [eq_false_of_ne_true hHead]
  show (symbolStep allowCurrency (s.getLast?.any (· ∈ currencySymbols)) s.dropLast s).bind _ = some s
  rw [eq_false_of_ne_true hLast]
  show some (s.filter (·.val != 0x20)) = some s
  rw [hFilter]

/-- A text without commas has no groups. -/
theorem ungrouped_of_not_mem {s : Str} (h : (0x2C : CodePoint) ∉ s) : ungrouped s = some s := by
  unfold ungrouped
  rw [if_neg]
  intro hAny
  obtain ⟨c, hc, hComma⟩ := List.any_eq_true.mp hAny
  have hEq : c = 0x2C := Fin.ext (beq_iff_eq.mp hComma)
  exact h (hEq ▸ hc)

/-- A text without the minus sign is only stripped. -/
theorem cellText_of_not_mem {s : Str} (h : (0x2212 : CodePoint) ∉ strip s) :
    cellText s = strip s := by
  unfold cellText
  refine (List.map_congr_left fun c hc => ?_).trans (List.map_id _)
  rw [if_neg]
  · rfl
  · intro hMinus
    have hEq : c = 0x2212 := Fin.ext hMinus
    exact h (hEq ▸ hc)

/-- A text that does not start with a parenthesis is not in parentheses. -/
theorem inParentheses_of_head {s : Str} (h : (cellText s).head? ≠ (str "(").head?) :
    inParentheses s = false := by
  unfold inParentheses
  rw [decide_eq_false h, Bool.false_and]

-- ---------------------------------------------------------------------------
-- How the readings agree
-- ---------------------------------------------------------------------------

/-- What the snapshots read, the insight reads as the same number. -/
theorem strictDecimal_of_snapshot {s : Str} {x : ℚ}
    (h : snapshotStrictDecimal lib (.str s) = some x) (allowCurrency allowPercent : Bool) :
    strictDecimal lib allowCurrency allowPercent (.str s) = some x := by
  rw [snapshotStrictDecimal_text] at h
  have hStrict := (strictValue?_eq_some.mp h).1
  have hChars : ∀ c ∈ strip s, IsStrictChar c := fun c hc => isStrictChar_of_isStrict hStrict hc
  have hNot : ∀ c, c ∈ currencySymbols ++ str "%(), −" → c ∉ strip s :=
    fun c hc hMem => not_isStrictChar_of_mem hc (hChars c hMem)
  have hText : cellText s = strip s := cellText_of_not_mem (hNot 0x2212 (by decide))
  have hOutside : inParentheses s = false := by
    refine inParentheses_of_head fun hHead => ?_
    rw [hText] at hHead
    exact hNot 0x28 (by decide) (List.mem_of_head? hHead)
  have hBody : bodyText s = strip s := by
    unfold bodyText
    rw [hOutside, hText]
    rfl
  refine strictDecimal_eq_some.mpr ⟨strip s, strip s, strip s, ?_, ?_, ?_, h⟩
  · rw [hBody]
    exact decimalCandidate_of_strict hChars allowCurrency allowPercent
  · exact ungrouped_of_not_mem (hNot 0x2C (by decide))
  · rw [hOutside]
    rfl

/-- A step that is taken under a flag is taken under more flags, and leaves the same text. -/
theorem symbolStep_mono {allowed allowed' found : Bool} (hAllowed : allowed = true → allowed' = true)
    {rest s t : Str} (h : symbolStep allowed found rest s = some t) :
    symbolStep allowed' found rest s = some t := by
  cases found with
  | false => exact h
  | true =>
    cases hFlag : allowed with
    | false =>
      rw [hFlag] at h
      cases h
    | true =>
      rw [hFlag] at h
      rw [hAllowed hFlag]
      exact h

/-- A candidate that is found under some flags is found under more. -/
theorem decimalCandidate_mono {allowCurrency allowPercent allowCurrency' allowPercent' : Bool}
    (hCurrency : allowCurrency = true → allowCurrency' = true)
    (hPercent : allowPercent = true → allowPercent' = true) {s c : Str}
    (h : decimalCandidate allowCurrency allowPercent s = some c) :
    decimalCandidate allowCurrency' allowPercent' s = some c := by
  simp only [decimalCandidate_steps, Option.bind_eq_some_iff] at h ⊢
  obtain ⟨c₁, h₁, c₂, h₂, c₃, h₃, hDone⟩ := h
  exact ⟨c₁, symbolStep_mono hPercent h₁, c₂, symbolStep_mono hCurrency h₂, c₃,
    symbolStep_mono hCurrency h₃, hDone⟩

/-- What is read under some flags is read as the same number under more. -/
theorem strictDecimal_mono {allowCurrency allowPercent allowCurrency' allowPercent' : Bool}
    (hCurrency : allowCurrency = true → allowCurrency' = true)
    (hPercent : allowPercent = true → allowPercent' = true) {s : Str} {x : ℚ}
    (h : strictDecimal lib allowCurrency allowPercent (.str s) = some x) :
    strictDecimal lib allowCurrency' allowPercent' (.str s) = some x := by
  obtain ⟨c₁, c₂, c₃, hCandidate, hUngrouped, hSign, hValue⟩ := strictDecimal_eq_some.mp h
  exact strictDecimal_eq_some.mpr ⟨c₁, c₂, c₃, decimalCandidate_mono hCurrency hPercent hCandidate,
    hUngrouped, hSign, hValue⟩

-- ---------------------------------------------------------------------------
-- Parentheses
-- ---------------------------------------------------------------------------

/-- Stripping brings in no character. -/
theorem mem_of_mem_strip {s : Str} {c : CodePoint} (h : c ∈ strip s) : c ∈ s := by
  unfold strip trimBy at h
  rw [List.mem_reverse] at h
  have hInner := List.dropWhile_sublist (l := (s.dropWhile isSpace).reverse) isSpace
  have hOuter := List.dropWhile_sublist (l := s) isSpace
  exact hOuter.subset (List.mem_reverse.mp (hInner.subset h))

/-- A text between two characters that are no whitespace has nothing to strip. -/
theorem strip_enclosed {first last : CodePoint} (hFirst : isSpace first = false)
    (hLast : isSpace last = false) (s : Str) :
    strip (first :: s ++ [last]) = first :: s ++ [last] := by
  unfold strip trimBy
  rw [List.cons_append, List.dropWhile_cons_of_neg (by rw [hFirst]; decide), ← List.cons_append,
    List.reverse_append, List.reverse_singleton, List.singleton_append,
    List.dropWhile_cons_of_neg (by rw [hLast]; decide), List.reverse_cons, List.reverse_reverse]

/-- The steps take characters off, and put none in. -/
theorem symbolStep_subset {allowed found : Bool} {rest s t : Str} (hRest : rest ⊆ s)
    (h : symbolStep allowed found rest s = some t) : t ⊆ s := by
  unfold symbolStep at h
  split at h
  · split at h
    · cases h
      intro c hc
      exact hRest (mem_of_mem_strip hc)
    · cases h
  · cases h
    exact List.Subset.refl s

/-- The candidate is made of characters of the text. -/
theorem decimalCandidate_subset {allowCurrency allowPercent : Bool} {s t : Str}
    (h : decimalCandidate allowCurrency allowPercent s = some t) : t ⊆ s := by
  simp only [decimalCandidate_steps, Option.bind_eq_some_iff] at h
  obtain ⟨c₁, h₁, c₂, h₂, c₃, h₃, hDone⟩ := h
  cases hDone
  have hFirst := symbolStep_subset (List.dropLast_subset s) h₁
  have hSecond := symbolStep_subset (List.tail_subset c₁) h₂
  have hThird := symbolStep_subset (List.dropLast_subset c₂) h₃
  intro c hc
  exact hFirst (hSecond (hThird (List.mem_of_mem_filter hc)))

/-- Taking the commas out brings in no character. -/
theorem ungrouped_subset {s t : Str} (h : ungrouped s = some t) : t ⊆ s := by
  unfold ungrouped at h
  split at h
  · split at h
    · cases h
      intro c hc
      exact List.mem_of_mem_filter hc
    · cases h
  · cases h
    exact List.Subset.refl s

/-- The signs, in any of their spellings. -/
def signs : Str := str "+-−"

/-- A text without signs starts with none. -/
theorem head?_ne_of_signless {s : Str} (h : ∀ c ∈ signs, c ∉ s) :
    ¬(s.head? = (str "+").head? ∨ s.head? = (str "-").head?) := by
  rintro (hPlus | hMinus)
  · exact h 0x2B (by decide) (List.mem_of_head? hPlus)
  · exact h 0x2D (by decide) (List.mem_of_head? hMinus)

/-- A sign in front of a text without one negates its number. -/
theorem strictValue?_neg {s : Str} {x : ℚ} (hSigns : ∀ c ∈ signs, c ∉ s)
    (h : strictValue? s = some x) : strictValue? (str "-" ++ s) = some (-x) := by
  obtain ⟨hStrict, rfl⟩ := strictValue?_eq_some.mp h
  have hUnsigned : unsignedText s = s := if_neg (head?_ne_of_signless hSigns)
  have hPositive : decide (s.head? = (str "-").head?) = false :=
    decide_eq_false fun hMinus => head?_ne_of_signless hSigns (.inr hMinus)
  have hParts : decimalParts s = ⟨false, wholeText s, fractionText? s⟩ := by
    rw [decimalParts_eq, hUnsigned, hPositive]
  have hNegated : decimalParts (str "-" ++ s) = ⟨true, wholeText s, fractionText? s⟩ := rfl
  rw [hParts] at hStrict ⊢
  refine strictValue?_eq_some.mpr ⟨?_, ?_⟩
  · rw [hNegated]
    exact hStrict
  · rw [hNegated]
    rfl

/-- A text in parentheses is its number negated. -/
theorem strictDecimal_parentheses {allowCurrency allowPercent : Bool} {s : Str} {x : ℚ}
    (h : strictDecimal lib allowCurrency allowPercent (.str s) = some x)
    (hHead : (strip s).head? ≠ (str "(").head?) (hSigns : ∀ c ∈ signs, c ∉ s) :
    strictDecimal lib allowCurrency allowPercent (.str (str "(" ++ s ++ str ")")) = some (-x) := by
  obtain ⟨c₁, c₂, c₃, hCandidate, hUngrouped, hSign, hValue⟩ := strictDecimal_eq_some.mp h
  have hMinus : (0x2212 : CodePoint) ∉ s := hSigns 0x2212 (by decide)
  have hText : cellText s = strip s :=
    cellText_of_not_mem fun hMem => hMinus (mem_of_mem_strip hMem)
  have hOutside : inParentheses s = false := inParentheses_of_head (by rw [hText]; exact hHead)
  have hBody : bodyText s = strip s := by
    unfold bodyText
    rw [hOutside, hText]
    rfl
  -- the enclosed text has the same body
  have hStrip : strip (str "(" ++ s ++ str ")") = str "(" ++ s ++ str ")" :=
    @strip_enclosed 0x28 0x29 (by decide) (by decide) s
  have hEnclosed : cellText (str "(" ++ s ++ str ")") = str "(" ++ s ++ str ")" := by
    rw [cellText_of_not_mem, hStrip]
    rw [hStrip, List.mem_append, List.mem_append]
    rintro ((hMem | hMem) | hMem)
    · exact absurd hMem (by decide)
    · exact hMinus hMem
    · exact absurd hMem (by decide)
  have hInside : inParentheses (str "(" ++ s ++ str ")") = true := by
    unfold inParentheses
    rw [hEnclosed, Bool.and_eq_true, decide_eq_true_iff, decide_eq_true_iff]
    exact ⟨rfl, List.getLast?_concat⟩
  have hSame : bodyText (str "(" ++ s ++ str ")") = bodyText s := by
    unfold bodyText
    rw [hInside, hOutside, hEnclosed, hText]
    show strip (s ++ str ")").dropLast = strip s
    rw [show s ++ str ")" = s ++ [0x29] from rfl, List.dropLast_concat]
  have hRest : ∀ c ∈ signs, c ∉ c₂ := by
    intro c hc hMem
    have hBodyMem := decimalCandidate_subset hCandidate (ungrouped_subset hUngrouped hMem)
    rw [hBody] at hBodyMem
    exact hSigns c hc (mem_of_mem_strip hBodyMem)
  rw [hOutside] at hSign
  obtain rfl : c₂ = c₃ := Option.some.inj hSign
  refine strictDecimal_eq_some.mpr ⟨c₁, c₂, str "-" ++ c₂, hSame ▸ hCandidate, hUngrouped, ?_,
    strictValue?_neg hRest hValue⟩
  rw [hInside]
  show (if c₂.head? = _ ∨ c₂.head? = _ then none else some (str "-" ++ c₂)) = _
  rw [if_neg (head?_ne_of_signless hRest)]

theorem not_mem_of_signless {s : Str} (h : s.any (· ∈ signs) = false) : ∀ c ∈ signs, c ∉ s := by
  intro c hc hMem
  exact List.any_eq_false.mp h c hMem (decide_eq_true hc)

/-- **One numeric reading.** What the snapshots read of a text, the insight reads under any flags.
What it reads under some flags, it reads under more of them. A text without signs, whose first
character besides whitespace is no parenthesis, is read as the negated number in parentheses. -/
theorem one_numeric_reading (s : Str) :
    (∀ x, snapshotStrictDecimal lib (.str s) = some x → ∀ allowCurrency allowPercent,
      strictDecimal lib allowCurrency allowPercent (.str s) = some x) ∧
    (∀ allowCurrency allowPercent allowCurrency' allowPercent' x,
      (allowCurrency = true → allowCurrency' = true) → (allowPercent = true → allowPercent' = true) →
      strictDecimal lib allowCurrency allowPercent (.str s) = some x →
      strictDecimal lib allowCurrency' allowPercent' (.str s) = some x) ∧
    ∀ allowCurrency allowPercent x,
      strictDecimal lib allowCurrency allowPercent (.str s) = some x →
      (strip s).head? ≠ (str "(").head? → s.any (· ∈ signs) = false →
      strictDecimal lib allowCurrency allowPercent (.str (str "(" ++ s ++ str ")")) = some (-x) :=
  ⟨fun _ h => strictDecimal_of_snapshot h,
    fun _ _ _ _ _ hCurrency hPercent h => strictDecimal_mono hCurrency hPercent h,
    fun _ _ _ h hHead hSigns => strictDecimal_parentheses h hHead (not_mem_of_signless hSigns)⟩

/-- A price with two decimals, read by both and under all flags, and in parentheses. -/
theorem one_numeric_reading_sample :
    strictDecimal InsightSample.library true true (.str (str "12.50")) = some (25 / 2) ∧
      strictDecimal InsightSample.library false false (.str (str "(12.50)")) = some (-(25 / 2)) := by
  have hRead : snapshotStrictDecimal InsightSample.library (.str (str "12.50")) = some (25 / 2) := by
    decide +kernel
  obtain ⟨hAll, -, hNegated⟩ := @one_numeric_reading InsightSample.library (str "12.50")
  exact ⟨hAll _ hRead true true,
    hNegated false false _ (hAll _ hRead false false) (by decide) (by decide +kernel)⟩

/-- **Two pairs of parentheses.** A text in parentheses after a blank starts with neither a sign
nor a parenthesis and has no sign; it is read as a number, and not so in parentheses. -/
theorem blank_parentheses_not_negated :
    strictDecimal InsightSample.library false false (.str (str " (12)")) = some (-12) ∧
      (str " (12)").head?.any (· ∈ signs ++ str "()") = false ∧
      (str " (12)").any (· ∈ signs) = false ∧
      strictDecimal InsightSample.library false false
        (.str (str "(" ++ str " (12)" ++ str ")")) = none := by
  refine ⟨by decide +kernel, by decide +kernel, by decide +kernel, by decide +kernel⟩

end SpikeBackend
