import SpikeBackend.Lib.Decimals
import SpikeBackend.Lib.Json

/-!
# The strings of a JSON value

Every string that a value holds at any depth: the keys of its objects and its strings. A database
that rejects a character in a document rejects it in any of them.

* `allStrings_obj`, `allStrings_arr` — what holds of all strings holds of the parts;
* `nulFree_decimalText` — the texts of numbers have no U+0000.
-/

namespace Text

namespace Json

mutual

/-- The strings of a value, in the order of its text. -/
def strings : Json → List Str
  | .str s => [s]
  | .arr items => itemStrings items
  | .obj members => memberStrings members
  | .null | .bool _ | .int _ | .float _ => []

/-- The strings of the items of a list. -/
def itemStrings : List Json → List Str
  | [] => []
  | v :: items => strings v ++ itemStrings items

/-- The keys and the strings of the members of a dict. -/
def memberStrings : List (Str × Json) → List Str
  | [] => []
  | (key, v) :: members => key :: strings v ++ memberStrings members

end

/-- A property of every string of a value. -/
def AllStrings (p : Str → Prop) (v : Json) : Prop := ∀ s ∈ v.strings, p s

variable {p : Str → Prop}

instance allStrings_decidable [DecidablePred p] (v : Json) : Decidable (AllStrings p v) :=
  inferInstanceAs (Decidable (∀ s ∈ v.strings, p s))

@[simp] theorem allStrings_null : AllStrings p .null := fun _ h => absurd h List.not_mem_nil

@[simp] theorem allStrings_int (n : Int) : AllStrings p (.int n) :=
  fun _ h => absurd h List.not_mem_nil

/-- A string is its only one. -/
@[simp] theorem allStrings_str (s : Str) : AllStrings p (.str s) ↔ p s := by
  simp [AllStrings, strings]

/-- A text or `null`. -/
@[simp] theorem allStrings_ofStr? (s : Option Str) :
    AllStrings p (.ofStr? s) ↔ ∀ t, s = some t → p t := by
  cases s <;> simp [ofStr?]

@[simp] theorem allStrings_ofInt? (n : Option Int) : AllStrings p (.ofInt? n) := by
  cases n <;> simp [ofInt?]

/-- The strings of a list are those of its items. -/
@[simp] theorem allStrings_arr (items : List Json) :
    AllStrings p (.arr items) ↔ ∀ v ∈ items, AllStrings p v := by
  unfold AllStrings
  rw [strings]
  induction items with
  | nil => simp [itemStrings]
  | cons v items ih =>
    rw [itemStrings, List.forall_mem_append, List.forall_mem_cons, ih]

/-- The strings of a dict are its keys and those of its values. -/
@[simp] theorem allStrings_obj (members : List (Str × Json)) :
    AllStrings p (.obj members) ↔ ∀ m ∈ members, p m.1 ∧ AllStrings p m.2 := by
  unfold AllStrings
  rw [strings]
  induction members with
  | nil => simp [memberStrings]
  | cons m members ih =>
    rw [memberStrings, List.cons_append, List.forall_mem_cons, List.forall_mem_append,
      List.forall_mem_cons, ih, and_assoc]

end Json

-- ---------------------------------------------------------------------------
-- U+0000
-- ---------------------------------------------------------------------------

/-- The character U+0000. -/
def nul : CodePoint := 0

/-- A text without U+0000. -/
def NulFree (s : Str) : Prop := nul ∉ s

instance nulFree_decidable (s : Str) : Decidable (NulFree s) :=
  inferInstanceAs (Decidable (nul ∉ s))

@[simp] theorem nulFree_nil : NulFree [] := List.not_mem_nil

/-- A text has the characters of its two parts. -/
@[simp] theorem nulFree_append {s t : Str} : NulFree (s ++ t) ↔ NulFree s ∧ NulFree t := by
  unfold NulFree
  rw [List.mem_append, not_or]

/-- A text whose characters all come after U+0000. -/
theorem nulFree_of_pos {s : Str} (h : ∀ c ∈ s, 0 < c.val) : NulFree s :=
  fun hNul => absurd (h nul hNul) (lt_irrefl 0)

/-- A literal, by its characters. -/
theorem nulFree_literal {l : List Char} (h : (l.all fun c => c.toNat % 0x110000 != 0) = true) :
    NulFree (str (String.ofList l)) := by
  rw [str, String.toList_ofList]
  intro hNul
  obtain ⟨c, hc, hZero⟩ := List.mem_map.mp hNul
  have hNonzero := bne_iff_ne.mp (List.all_eq_true.mp h c hc)
  exact hNonzero (congrArg Fin.val hZero)

/-- For a simplifier that discharges the hypothesis with `nulFree_literal`. -/
theorem nulFree_written {s : String} (h : NulFree (str s)) : NulFree (str s) ↔ True :=
  iff_true_intro h

/-- A literal in two parts. -/
theorem nulFree_str_append {s t : String} :
    NulFree (str (s ++ t)) ↔ NulFree (str s) ∧ NulFree (str t) := by
  rw [← nulFree_append]
  simp only [str, String.toList_append, List.map_append]

/-- Numbers are written with digits. -/
theorem nulFree_natText (n : Nat) : NulFree (natText n) :=
  nulFree_of_pos fun _ hc => lt_of_lt_of_le (by decide) (mem_natText hc).1

/-- The digits of a fraction. -/
theorem nulFree_fractionText (fuel : Nat) (x : ℚ) : NulFree (fractionText fuel x) := by
  induction fuel generalizing x with
  | zero => exact nulFree_nil
  | succ fuel ih =>
    rw [fractionText]
    split
    · exact nulFree_nil
    · exact nulFree_append.mpr ⟨nulFree_natText _, ih _⟩

/-- A decimal: a sign, digits, a point and digits. -/
theorem nulFree_decimalText (x : ℚ) : NulFree (decimalText x) := by
  have hSign : NulFree (str "-") := by decide
  have hPoint : NulFree (str ".") := by decide
  unfold decimalText
  refine nulFree_append.mpr ⟨nulFree_append.mpr ⟨?_, nulFree_natText _⟩, ?_⟩
  · split
    · exact hSign
    · exact nulFree_nil
  · split
    · exact nulFree_nil
    · exact nulFree_append.mpr ⟨hPoint, nulFree_fractionText _ _⟩

end Text
