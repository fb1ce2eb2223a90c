import SpikeBackend.Lib.Digits
import SpikeBackend.Lib.JsonText
import SpikeBackend.Lib.Utf8

/-!
# JSON texts tell values apart

A JSON text can be read: every value ends where its text says so, and a number where what follows
is no part of a number.

* `readEscape_escapeChar` — a character of a string is read back;
* `jsonText_injective` — two values with one text are the same;
* `encode?_injective` — so are two texts with one encoding.
-/

namespace Text

-- ---------------------------------------------------------------------------
-- Strings
-- ---------------------------------------------------------------------------

/-- The first character of the rest of a string, and what follows it. -/
def readEscape : Str → Option (CodePoint × Str)
  | [] => none
  | c :: rest =>
    if c = 0x22 then none
    else if c = 0x5C then
      match rest with
      | [] => none
      | d :: rest =>
        if d = 0x6E then some (0x0A, rest)
        else if d = 0x72 then some (0x0D, rest)
        else if d = 0x74 then some (0x09, rest)
        else if d = 0x66 then some (0x0C, rest)
        else if d = 0x62 then some (0x08, rest)
        else if d = 0x75 then some (codePoint (readHex (rest.take 4)), rest.drop 4)
        else some (d, rest)
    else some (c, rest)

/-- **Round trip** of a character. -/
theorem readEscape_escapeChar (c : CodePoint) (rest : Str) :
    readEscape (escapeChar c ++ rest) = some (c, rest) := by
  have hSame : ∀ {n : Nat} (hn : n < 0x110000), c.val = n → c = ⟨n, hn⟩ := fun _ h => Fin.ext h
  unfold escapeChar
  split_ifs with hQuote hSlash hFeed hReturn hTab hForm hBack hControl
  · obtain rfl := hSame (by decide) hQuote
    rfl
  · obtain rfl := hSame (by decide) hSlash
    rfl
  · obtain rfl := hSame (by decide) hFeed
    rfl
  · obtain rfl := hSame (by decide) hReturn
    rfl
  · obtain rfl := hSame (by decide) hTab
    rfl
  · obtain rfl := hSame (by decide) hForm
    rfl
  · obtain rfl := hSame (by decide) hBack
    rfl
  · -- a control character, which is written as four digits
    have hRead : readEscape (str "\\u" ++ hexText 4 c.val ++ rest) =
        some (codePoint (readHex ((hexText 4 c.val ++ rest).take 4)),
          (hexText 4 c.val ++ rest).drop 4) := rfl
    have hSmall : c.val % 16 ^ 4 = c.val := Nat.mod_eq_of_lt (by omega)
    rw [hRead, List.take_left' (length_hexText 4 c.val), List.drop_left' (length_hexText 4 c.val),
      readHex_hexText, hSmall, codePoint_self]
  · have hQuote' : c ≠ 0x22 := fun h => hQuote (congrArg Fin.val h)
    have hSlash' : c ≠ 0x5C := fun h => hSlash (congrArg Fin.val h)
    rw [List.singleton_append, readEscape.eq_def]
    dsimp only
    rw [if_neg hQuote', if_neg hSlash']

/-- Where a string ends, its text does. -/
theorem escaped_inj {s t r r' : Str}
    (h : s.flatMap escapeChar ++ 0x22 :: r = t.flatMap escapeChar ++ 0x22 :: r') :
    s = t ∧ r = r' := by
  -- the quote at the end starts no escape
  have hEnd : ∀ rest : Str, readEscape (0x22 :: rest) = none := fun _ => rfl
  induction s generalizing t with
  | nil =>
    cases t with
    | nil => exact ⟨rfl, (List.cons.inj h).2⟩
    | cons d t =>
      have hRead := congrArg readEscape h
      rw [List.flatMap_cons, List.append_assoc, readEscape_escapeChar] at hRead
      exact absurd hRead (Option.some_ne_none _).symm
  | cons c s ih =>
    have hRead := congrArg readEscape h
    rw [List.flatMap_cons, List.append_assoc, readEscape_escapeChar] at hRead
    cases t with
    | nil => exact absurd hRead (Option.some_ne_none _)
    | cons d t =>
      rw [List.flatMap_cons, List.append_assoc, readEscape_escapeChar] at hRead
      -- both texts start with the escape that is read, so with the same character
      obtain ⟨rfl, hRest⟩ := Prod.mk.inj (Option.some.inj hRead)
      obtain ⟨rfl, hAfter⟩ := ih hRest
      exact ⟨rfl, hAfter⟩

/-- A string literal says which string it is and where it ends. -/
theorem quoted_inj {s t r r' : Str} (h : quoted s ++ r = quoted t ++ r') : s = t ∧ r = r' := by
  unfold quoted at h
  rw [List.append_assoc, List.append_assoc, List.append_assoc, List.append_assoc] at h
  exact escaped_inj (List.cons.inj h).2

-- ---------------------------------------------------------------------------
-- Numbers
-- ---------------------------------------------------------------------------

/-- The characters that the texts of numbers are made of. -/
def isNumberChar (c : CodePoint) : Bool :=
  (0x30 ≤ c.val && c.val ≤ 0x39) || c.val == 0x2B || c.val == 0x2D || c.val == 0x2E || c.val == 0x65

/-- What `float.__repr__` is relied on for. -/
structure FloatTexts (floatRepr : Rat → Str) : Prop where
  injective : ∀ x y, floatRepr x = floatRepr y → x = y
  chars : ∀ x, ∀ c ∈ floatRepr x, isNumberChar c = true
  ne_nil : ∀ x, floatRepr x ≠ []
  ne_intText : ∀ x n, floatRepr x ≠ intText n

/-- What follows a value: nothing, or what is no part of a number. -/
def Ends (rest : Str) : Prop := ∀ c, rest.head? = some c → isNumberChar c = false

theorem ends_nil : Ends [] := fun _ h => absurd h (Option.some_ne_none _).symm

/-- A number ends before a character that is in no number. -/
theorem ends_cons {c : CodePoint} (h : isNumberChar c = false) (rest : Str) : Ends (c :: rest) := by
  intro d hd
  obtain rfl := Option.some.inj hd
  exact h

/-- Where a number ends, its text does. -/
theorem number_inj {s t r r' : Str} (hs : ∀ c ∈ s, isNumberChar c = true)
    (ht : ∀ c ∈ t, isNumberChar c = true) (hr : Ends r) (hr' : Ends r') (h : s ++ r = t ++ r') :
    s = t ∧ r = r' := by
  induction s generalizing t with
  | nil =>
    cases t with
    | nil => exact ⟨rfl, h⟩
    | cons d t =>
      have hHead : r.head? = some d := congrArg List.head? h
      have hNot := hr d hHead
      rw [ht d List.mem_cons_self] at hNot
      -- the longer number would go on with the character behind the shorter one
      cases hNot
  | cons c s ih =>
    cases t with
    | nil =>
      have hHead : r'.head? = some c := congrArg List.head? h.symm
      have hNot := hr' c hHead
      rw [hs c List.mem_cons_self] at hNot
      cases hNot
    | cons d t =>
      obtain ⟨rfl, hRest⟩ := List.cons.inj h
      obtain ⟨rfl, hAfter⟩ := ih (fun c hc => hs c (List.mem_cons_of_mem _ hc))
        (fun c hc => ht c (List.mem_cons_of_mem _ hc)) hRest
      exact ⟨rfl, hAfter⟩

/-- Digits are characters of numbers. -/
theorem isNumberChar_of_mem_natText {n : Nat} {c : CodePoint} (h : c ∈ natText n) :
    isNumberChar c = true := by
  obtain ⟨hLow, hHigh⟩ := mem_natText h
  simp only [isNumberChar, Bool.or_eq_true, Bool.and_eq_true, decide_eq_true_eq]
  exact .inl (.inl (.inl (.inl ⟨hLow, hHigh⟩)))

/-- Digits and a sign are characters of numbers. -/
theorem isNumberChar_of_mem_intText {n : Int} {c : CodePoint} (h : c ∈ intText n) :
    isNumberChar c = true := by
  unfold intText at h
  split at h
  · rcases List.mem_cons.mp h with rfl | hDigit
    · decide
    · exact isNumberChar_of_mem_natText hDigit
  · exact isNumberChar_of_mem_natText h

/-- A number has a text. -/
theorem intText_ne_nil (n : Int) : intText n ≠ [] := by
  unfold intText
  split
  · exact List.cons_ne_nil _ _
  · exact natText_ne_empty _

/-- A sign is no digit. -/
theorem minus_ne_natText (s : Str) (n : Nat) : (0x2D : CodePoint) :: s ≠ natText n := by
  intro h
  have hDigit := mem_natText (h ▸ List.mem_cons_self : (0x2D : CodePoint) ∈ natText n)
  exact absurd hDigit.1 (by decide)

/-- The text of a number says which number it is. -/
theorem intText_injective {m n : Int} (h : intText m = intText n) : m = n := by
  have hDigits : ∀ {j k : Nat}, natText j = natText k → j = k := by
    intro j k hText
    rw [← digitsValue_natText j, hText, digitsValue_natText]
  unfold intText at h
  split at h
  · split at h
    · have hAbs := hDigits (List.cons.inj h).2
      omega
    · exact absurd h (minus_ne_natText _ _)
  · split at h
    · exact absurd h.symm (minus_ne_natText _ _)
    · have hAbs := hDigits h
      omega

/-- A numerator and a denominator. -/
def ratioText (x : Rat) : Str := intText x.num ++ 0x65 :: natText x.den

/-- There are such texts. -/
theorem floatTexts_ratioText : FloatTexts ratioText := by
  have hNotMem : ∀ n : Int, (0x65 : CodePoint) ∉ intText n := fun n h =>
    absurd (mem_intText h).2 (by decide)
  refine ⟨?_, ?_, ?_, ?_⟩
  · intro x y h
    have hDigits : ∀ n : Nat, (0x65 : CodePoint) ∉ natText n := fun n hn =>
      absurd (mem_natText hn).2 (by decide)
    -- the letter between the two numbers is in neither of them
    obtain ⟨hNum, -, hDen⟩ :=
      (List.append_cons_inj_of_notMem (hNotMem x.num) (hDigits x.den)).mp h
    exact Rat.ext (intText_injective hNum) (natText_injective hDen)
  · intro x c hc
    rcases List.mem_append.mp hc with hNum | hRest
    · exact isNumberChar_of_mem_intText hNum
    · rcases List.mem_cons.mp hRest with rfl | hDen
      · decide
      · exact isNumberChar_of_mem_natText hDen
  · intro x h
    exact absurd (List.append_eq_nil_iff.mp h).2 (List.cons_ne_nil _ _)
  · intro x n h
    refine hNotMem n ?_
    rw [← h]
    exact List.mem_append_right _ List.mem_cons_self

-- ---------------------------------------------------------------------------
-- The kind of a value
-- ---------------------------------------------------------------------------

/-- What the first character of a text tells of the value. -/
def kindOfText : Str → Nat
  | [] => 7
  | c :: _ =>
    if c = 0x6E then 0 else if c = 0x74 then 1 else if c = 0x66 then 2 else if c = 0x22 then 3
    else if c = 0x5B then 4 else if c = 0x7B then 5 else if isNumberChar c then 6 else 7

def Json.kind : Json → Nat
  | .null => 0
  | .bool b => if b then 1 else 2
  | .str _ => 3
  | .arr _ => 4
  | .obj _ => 5
  | .int _ | .float _ => 6

/-- A text of number characters is read as a number. -/
theorem kindOfText_number {s rest : Str} (hNumber : ∀ c ∈ s, isNumberChar c = true) (h : s ≠ []) :
    kindOfText (s ++ rest) = 6 := by
  cases s with
  | nil => exact absurd rfl h
  | cons c s =>
    have hChar := hNumber c List.mem_cons_self
    have hNe : ∀ d : CodePoint, isNumberChar d = false → c ≠ d := by
      rintro d hd rfl
      rw [hd] at hChar
      cases hChar
    rw [List.cons_append, kindOfText.eq_def]
    dsimp only
    rw [if_neg (hNe 0x6E (by decide)), if_neg (hNe 0x74 (by decide)), if_neg (hNe 0x66 (by decide)),
      if_neg (hNe 0x22 (by decide)), if_neg (hNe 0x5B (by decide)), if_neg (hNe 0x7B (by decide)),
      if_pos hChar]

section

variable {floatRepr : Rat → Str} (hFloat : FloatTexts floatRepr)

include hFloat

/-- The first character of a text tells the kind of its value. -/
theorem kindOfText_jsonText (value : Json) (rest : Str) :
    kindOfText (jsonText floatRepr value ++ rest) = value.kind := by
  cases value with
  | null | str | arr | obj => rfl
  | bool b => cases b <;> rfl
  | int n => exact kindOfText_number (fun c hc => isNumberChar_of_mem_intText hc) (intText_ne_nil n)
  | float x => exact kindOfText_number (hFloat.chars x) (hFloat.ne_nil x)

/-- What begins alike is of one kind. -/
theorem kind_eq {v w : Json} {r s : Str}
    (h : jsonText floatRepr v ++ r = jsonText floatRepr w ++ s) : v.kind = w.kind := by
  rw [← kindOfText_jsonText hFloat v r, h, kindOfText_jsonText hFloat]

/-- The text of a number. -/
theorem number_text {v : Json} (h : v.kind = 6) :
    ∀ c ∈ jsonText floatRepr v, isNumberChar c = true := by
  cases v with
  | int n => exact fun c hc => isNumberChar_of_mem_intText hc
  | float x => exact hFloat.chars x
  | null | str | arr | obj => cases h
  | bool b => cases b <;> cases h

/-- Two numbers with one text are the same: no integer is written as a float. -/
theorem eq_of_number_text {v w : Json} (hv : v.kind = 6) (hw : w.kind = 6)
    (h : jsonText floatRepr v = jsonText floatRepr w) : v = w := by
  cases v with
  | null | str | arr | obj => cases hv
  | bool b => cases b <;> cases hv
  | int m =>
    cases w with
    | null | str | arr | obj => cases hw
    | bool b => cases b <;> cases hw
    | int n => exact congrArg Json.int (intText_injective h)
    | float y => exact absurd h.symm (hFloat.ne_intText y m)
  | float x =>
    cases w with
    | null | str | arr | obj => cases hw
    | bool b => cases b <;> cases hw
    | int n => exact absurd h (hFloat.ne_intText x n)
    | float y => exact congrArg Json.float (hFloat.injective x y h)

end

-- ---------------------------------------------------------------------------
-- Values
-- ---------------------------------------------------------------------------

/-- Texts that each stand behind a comma. -/
def behindCommas (texts : List Str) : Str := texts.flatMap (0x2C :: ·)

/-- The first text, and the others behind their commas. -/
theorem intercalate_cons (text : Str) (texts : List Str) :
    (str ",").intercalate (text :: texts) = text ++ behindCommas texts := by
  induction texts generalizing text with
  | nil =>
    rw [List.intercalate_singleton]
    exact (List.append_nil text).symm
  | cons next texts ih =>
    rw [List.intercalate_cons_cons, ih, List.append_assoc]
    rfl

/-- After a value and before the end of an array or an object. -/
theorem ends_behindCommas {close : CodePoint} (hClose : isNumberChar close = false)
    (texts : List Str) (rest : Str) : Ends (behindCommas texts ++ close :: rest) := by
  cases texts with
  | nil => exact ends_cons hClose rest
  | cons text texts => exact ends_cons (by decide) _

variable {floatRepr : Rat → Str}

/-- An array, by its first item. -/
theorem jsonText_arr_cons (item : Json) (items : List Json) (rest : Str) :
    jsonText floatRepr (.arr (item :: items)) ++ rest = 0x5B :: (jsonText floatRepr item ++
      (behindCommas (itemTexts floatRepr items) ++ 0x5D :: rest)) := by
  rw [jsonText, itemTexts, intercalate_cons]
  simp [str]

/-- An object, by its first member. -/
theorem jsonText_obj_cons (key : Str) (value : Json) (members : List (Str × Json)) (rest : Str) :
    jsonText floatRepr (.obj ((key, value) :: members)) ++ rest = 0x7B :: (quoted key ++
      0x3A :: (jsonText floatRepr value ++
        (behindCommas (memberTexts floatRepr members) ++ 0x7D :: rest))) := by
  rw [jsonText, memberTexts, intercalate_cons]
  simp [str]

/-- Items behind commas, by the first of them. -/
theorem behindCommas_items_cons (item : Json) (items : List Json) (rest : Str) :
    behindCommas (itemTexts floatRepr (item :: items)) ++ rest =
      0x2C :: (jsonText floatRepr item ++ (behindCommas (itemTexts floatRepr items) ++ rest)) := by
  rw [itemTexts, behindCommas, List.flatMap_cons]
  simp [behindCommas]

/-- Members behind commas, by the first of them. -/
theorem behindCommas_members_cons (key : Str) (value : Json) (members : List (Str × Json))
    (rest : Str) :
    behindCommas (memberTexts floatRepr ((key, value) :: members)) ++ rest =
      0x2C :: (quoted key ++ 0x3A :: (jsonText floatRepr value ++
        (behindCommas (memberTexts floatRepr members) ++ rest))) := by
  rw [memberTexts, behindCommas, List.flatMap_cons]
  simp [behindCommas, str]

/-- No value begins with what ends an array. -/
theorem closed_ne_jsonText (hFloat : FloatTexts floatRepr) (value : Json) (r s : Str) :
    (0x5D : CodePoint) :: r ≠ jsonText floatRepr value ++ s := by
  intro h
  have hKind := congrArg kindOfText h
  rw [kindOfText_jsonText hFloat] at hKind
  cases value with
  | bool b => cases b <;> cases hKind
  | null | int | float | str | arr | obj => cases hKind

mutual

/-- **Texts tell values apart**, whatever follows them that is no part of a number. -/
theorem jsonText_inj (hFloat : FloatTexts floatRepr) : ∀ (v w : Json) {r s : Str}, Ends r →
    Ends s → jsonText floatRepr v ++ r = jsonText floatRepr w ++ s → v = w ∧ r = s
  | .null, w, r, s, _, _, h => by
    -- the kind is read off the first character, so the other value is of the same one
    have hKind := kind_eq hFloat h
    cases w with
    | null => exact ⟨rfl, List.append_cancel_left h⟩
    | bool b => cases b <;> cases hKind
    | int | float | str | arr | obj => cases hKind
  | .bool b, w, r, s, _, _, h => by
    have hKind := kind_eq hFloat h
    cases w with
    | bool b' =>
      cases b with
      | true =>
        cases b' with
        | true => exact ⟨rfl, List.append_cancel_left h⟩
        | false => cases hKind
      | false =>
        cases b' with
        | true => cases hKind
        | false => exact ⟨rfl, List.append_cancel_left h⟩
    | null | int | float | str | arr | obj => cases b <;> cases hKind
  | .int n, w, r, s, hr, hs, h => by
    have hKind := kind_eq hFloat h
    -- a number ends where its characters do
    obtain ⟨hText, hRest⟩ := number_inj (number_text hFloat (v := .int n) rfl)
      (number_text hFloat hKind.symm) hr hs h
    exact ⟨eq_of_number_text hFloat rfl hKind.symm hText, hRest⟩
  | .float x, w, r, s, hr, hs, h => by
    have hKind := kind_eq hFloat h
    obtain ⟨hText, hRest⟩ := number_inj (number_text hFloat (v := .float x) rfl)
      (number_text hFloat hKind.symm) hr hs h
    exact ⟨eq_of_number_text hFloat rfl hKind.symm hText, hRest⟩
  | .str t, w, r, s, _, _, h => by
    have hKind := kind_eq hFloat h
    cases w with
    | str t' =>
      obtain ⟨rfl, hRest⟩ := quoted_inj h
      exact ⟨rfl, hRest⟩
    | bool b => cases b <;> cases hKind
    | null | int | float | arr | obj => cases hKind
  | .arr items, w, r, s, _, _, h => by
    have hKind := kind_eq hFloat h
    cases w with
    | arr items' =>
      obtain ⟨rfl, hRest⟩ := arrText_inj hFloat items items' h
      exact ⟨rfl, hRest⟩
    | bool b => cases b <;> cases hKind
    | null | int | float | str | obj => cases hKind
  | .obj members, w, r, s, _, _, h => by
    have hKind := kind_eq hFloat h
    cases w with
    | obj members' =>
      obtain ⟨rfl, hRest⟩ := objText_inj hFloat members members' h
      exact ⟨rfl, hRest⟩
    | bool b => cases b <;> cases hKind
    | null | int | float | str | arr => cases hKind

/-- The same for two arrays. -/
theorem arrText_inj (hFloat : FloatTexts floatRepr) : ∀ (xs ys : List Json) {r s : Str},
    jsonText floatRepr (.arr xs) ++ r = jsonText floatRepr (.arr ys) ++ s → xs = ys ∧ r = s
  | [], [], r, s, h => ⟨rfl, List.append_cancel_left h⟩
  | [], y :: ys, r, s, h => by
    rw [jsonText_arr_cons] at h
    exact absurd (List.cons.inj h).2 (closed_ne_jsonText hFloat y _ _)
  | x :: xs, [], r, s, h => by
    rw [jsonText_arr_cons] at h
    exact absurd (List.cons.inj h).2.symm (closed_ne_jsonText hFloat x _ _)
  | x :: xs, y :: ys, r, s, h => by
    rw [jsonText_arr_cons, jsonText_arr_cons] at h
    obtain ⟨rfl, hRest⟩ := jsonText_inj hFloat x y (ends_behindCommas (by decide) _ _)
      (ends_behindCommas (by decide) _ _) (List.cons.inj h).2
    obtain ⟨rfl, hEnd⟩ := restItems_inj hFloat xs ys hRest
    exact ⟨rfl, hEnd⟩

/-- The items behind the first one, up to the closing bracket. -/
theorem restItems_inj (hFloat : FloatTexts floatRepr) : ∀ (xs ys : List Json) {r s : Str},
    behindCommas (itemTexts floatRepr xs) ++ 0x5D :: r =
      behindCommas (itemTexts floatRepr ys) ++ 0x5D :: s → xs = ys ∧ r = s
  | [], [], r, s, h => ⟨rfl, (List.cons.inj h).2⟩
  | [], y :: ys, r, s, h => by
    rw [behindCommas_items_cons] at h
    exact absurd (List.cons.inj h).1 (by decide)
  | x :: xs, [], r, s, h => by
    rw [behindCommas_items_cons] at h
    exact absurd (List.cons.inj h).1 (by decide)
  | x :: xs, y :: ys, r, s, h => by
    rw [behindCommas_items_cons, behindCommas_items_cons] at h
    obtain ⟨rfl, hRest⟩ := jsonText_inj hFloat x y (ends_behindCommas (by decide) _ _)
      (ends_behindCommas (by decide) _ _) (List.cons.inj h).2
    obtain ⟨rfl, hEnd⟩ := restItems_inj hFloat xs ys hRest
    exact ⟨rfl, hEnd⟩

/-- The same for two objects. -/
theorem objText_inj (hFloat : FloatTexts floatRepr) : ∀ (xs ys : List (Str × Json)) {r s : Str},
    jsonText floatRepr (.obj xs) ++ r = jsonText floatRepr (.obj ys) ++ s → xs = ys ∧ r = s
  | [], [], r, s, h => ⟨rfl, List.append_cancel_left h⟩
  | [], (key, y) :: ys, r, s, h => by
    rw [jsonText_obj_cons] at h
    exact absurd (List.cons.inj (List.cons.inj h).2).1 (by decide)
  | (key, x) :: xs, [], r, s, h => by
    rw [jsonText_obj_cons] at h
    exact absurd (List.cons.inj (List.cons.inj h).2).1 (by decide)
  | (key, x) :: xs, (key', y) :: ys, r, s, h => by
    rw [jsonText_obj_cons, jsonText_obj_cons] at h
    obtain ⟨rfl, hColon⟩ := quoted_inj (List.cons.inj h).2
    obtain ⟨rfl, hRest⟩ := jsonText_inj hFloat x y (ends_behindCommas (by decide) _ _)
      (ends_behindCommas (by decide) _ _) (List.cons.inj hColon).2
    obtain ⟨rfl, hEnd⟩ := restMembers_inj hFloat xs ys hRest
    exact ⟨rfl, hEnd⟩

/-- The members behind the first one, up to the closing brace. -/
theorem restMembers_inj (hFloat : FloatTexts floatRepr) :
    ∀ (xs ys : List (Str × Json)) {r s : Str},
      behindCommas (memberTexts floatRepr xs) ++ 0x7D :: r =
        behindCommas (memberTexts floatRepr ys) ++ 0x7D :: s → xs = ys ∧ r = s
  | [], [], r, s, h => ⟨rfl, (List.cons.inj h).2⟩
  | [], (key, y) :: ys, r, s, h => by
    rw [behindCommas_members_cons] at h
    exact absurd (List.cons.inj h).1 (by decide)
  | (key, x) :: xs, [], r, s, h => by
    rw [behindCommas_members_cons] at h
    exact absurd (List.cons.inj h).1 (by decide)
  | (key, x) :: xs, (key', y) :: ys, r, s, h => by
    rw [behindCommas_members_cons, behindCommas_members_cons] at h
    -- the key ends with its quote, then the value with its own end
    obtain ⟨rfl, hColon⟩ := quoted_inj (List.cons.inj h).2
    obtain ⟨rfl, hRest⟩ := jsonText_inj hFloat x y (ends_behindCommas (by decide) _ _)
      (ends_behindCommas (by decide) _ _) (List.cons.inj hColon).2
    obtain ⟨rfl, hEnd⟩ := restMembers_inj hFloat xs ys hRest
    exact ⟨rfl, hEnd⟩

end

/-- **One value for each text.** -/
theorem jsonText_injective (hFloat : FloatTexts floatRepr) {v w : Json}
    (h : jsonText floatRepr v = jsonText floatRepr w) : v = w :=
  (jsonText_inj hFloat v w ends_nil ends_nil (congrArg (· ++ []) h)).1

/-- Texts with one encoding are the same. -/
theorem encode?_injective {s t : Str} {bytes : List UInt8} (hs : encode? s = some bytes)
    (ht : encode? t = some bytes) : s = t :=
  Option.some.inj ((decode?_eq_some.mpr hs).symm.trans (decode?_eq_some.mpr ht))

end Text
