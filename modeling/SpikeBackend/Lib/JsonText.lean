import SpikeBackend.Lib.Decimals
import SpikeBackend.Lib.Hex
import SpikeBackend.Lib.StableSort

/-!
# JSON texts

What `json.dumps(value, ensure_ascii=False, allow_nan=False, separators=(",", ":"))` writes, and the
order that `sort_keys=True` puts the members of objects into.

* `lineFeed_not_mem_jsonText` — a JSON text is one line;
* `Dict.get_sortedMembers` — sorting the keys of an object moves its members, and changes none.
-/

namespace Text

open Collections

/-- `sys.get_int_max_str_digits()`. -/
def maxStrDigits : Nat := 4300

-- ---------------------------------------------------------------------------
-- Strings
-- ---------------------------------------------------------------------------

/-- A character of a JSON string; what is no control character stands for itself. -/
def escapeChar (c : CodePoint) : Str :=
  if c.val = 0x22 then str "\\\""
  else if c.val = 0x5C then str "\\\\"
  else if c.val = 0x0A then str "\\n"
  else if c.val = 0x0D then str "\\r"
  else if c.val = 0x09 then str "\\t"
  else if c.val = 0x0C then str "\\f"
  else if c.val = 0x08 then str "\\b"
  else if c.val < 0x20 then str "\\u" ++ hexText 4 c.val
  else [c]

/-- A JSON string. -/
def quoted (s : Str) : Str := str "\"" ++ s.flatMap escapeChar ++ str "\""

mutual

/-- `json.dumps`, compact and not only in ASCII; `floatRepr` is `float.__repr__`. -/
def jsonText (floatRepr : Rat → Str) : Json → Str
  | .null => str "null"
  | .bool b => str (if b then "true" else "false")
  | .int n => intText n
  | .float x => floatRepr x
  | .str s => quoted s
  | .arr items => str "[" ++ (str ",").intercalate (itemTexts floatRepr items) ++ str "]"
  | .obj members =>
    str "\x7b" ++ (str ",").intercalate (memberTexts floatRepr members) ++ str "\x7d"

/-- The texts of the items of an array. -/
def itemTexts (floatRepr : Rat → Str) : List Json → List Str
  | [] => []
  | item :: items => jsonText floatRepr item :: itemTexts floatRepr items

/-- The texts of the members of an object. -/
def memberTexts (floatRepr : Rat → Str) : List (Str × Json) → List Str
  | [] => []
  | (key, value) :: members =>
    (quoted key ++ str ":" ++ jsonText floatRepr value) :: memberTexts floatRepr members

end

-- ---------------------------------------------------------------------------
-- Parts of a value
-- ---------------------------------------------------------------------------

namespace Json

mutual

/-- The integers in a value. -/
def ints : Json → List Int
  | .int n => [n]
  | .arr items => itemInts items
  | .obj members => memberInts members
  | _ => []

def itemInts : List Json → List Int
  | [] => []
  | item :: items => ints item ++ itemInts items

def memberInts : List (Str × Json) → List Int
  | [] => []
  | (_, value) :: members => ints value ++ memberInts members

end

mutual

/-- The value with the members of every object in the order of their keys. -/
def sortKeys : Json → Json
  | .arr items => .arr (sortItems items)
  | .obj members => .obj (sortBy Prod.fst (sortMembers members))
  | value => value

def sortItems : List Json → List Json
  | [] => []
  | item :: items => sortKeys item :: sortItems items

def sortMembers : List (Str × Json) → List (Str × Json)
  | [] => []
  | (key, value) :: members => (key, sortKeys value) :: sortMembers members

end

/-- An `int` that is no `bool`. -/
def int? : Json → Option Int
  | .int n => some n
  | _ => none

/-- A `bool`. -/
def bool? : Json → Option Bool
  | .bool b => some b
  | _ => none

/-- A `str`. -/
def str? : Json → Option Str
  | .str s => some s
  | _ => none

/-- A `list`. -/
def arr? : Json → Option (List Json)
  | .arr items => some items
  | _ => none

/-- A `dict`. -/
def obj? : Json → Option Dict
  | .obj members => some members
  | _ => none

/-- `json.dumps` raises no `ValueError`: no integer has too many digits. -/
def writable (value : Json) : Bool := value.ints.all fun n => (natText n.natAbs).length ≤ maxStrDigits

end Json

-- ---------------------------------------------------------------------------
-- A text is one line
-- ---------------------------------------------------------------------------

/-- The texts of items, one by one. -/
theorem itemTexts_eq_map (floatRepr : Rat → Str) (items : List Json) :
    itemTexts floatRepr items = items.map (jsonText floatRepr) := by
  induction items with
  | nil => rfl
  | cons item items ih => rw [itemTexts, ih, List.map_cons]

/-- The texts of members, one by one. -/
theorem memberTexts_eq_map (floatRepr : Rat → Str) (members : List (Str × Json)) :
    memberTexts floatRepr members =
      members.map fun m => quoted m.1 ++ str ":" ++ jsonText floatRepr m.2 := by
  induction members with
  | nil => rfl
  | cons m members ih => rw [memberTexts, ih, List.map_cons]

/-- The end of a line. -/
def lineFeed : CodePoint := 0x0A

/-- A line feed is escaped. -/
theorem lineFeed_not_mem_escapeChar (c : CodePoint) : lineFeed ∉ escapeChar c := by
  have hDigit : ∀ d < 16, lineFeed ≠ hexDigit d := by decide
  unfold escapeChar
  split_ifs with _ _ hFeed
  all_goals try decide
  · intro h
    rcases List.mem_append.mp h with h | h
    · exact absurd h (by decide)
    · exact not_mem_hexText hDigit _ _ h
  · intro h
    exact hFeed (by rw [← List.mem_singleton.mp h]; rfl)

/-- A string literal is one line. -/
theorem lineFeed_not_mem_quoted (s : Str) : lineFeed ∉ quoted s := by
  intro h
  rcases List.mem_append.mp h with h | h
  · rcases List.mem_append.mp h with h | h
    · exact absurd h (by decide)
    · obtain ⟨c, _, hc⟩ := List.mem_flatMap.mp h
      exact lineFeed_not_mem_escapeChar c hc
  · exact absurd h (by decide)

mutual

/-- A JSON text is one line. -/
theorem lineFeed_not_mem_jsonText {floatRepr : Rat → Str} (hFloat : ∀ x, lineFeed ∉ floatRepr x) :
    ∀ value : Json, lineFeed ∉ jsonText floatRepr value
  | .null => (by decide : lineFeed ∉ str "null")
  | .bool true => (by decide : lineFeed ∉ str "true")
  | .bool false => (by decide : lineFeed ∉ str "false")
  | .int n => by
    intro h
    exact absurd (mem_intText h).1 (by decide)
  | .float x => hFloat x
  | .str s => lineFeed_not_mem_quoted s
  | .arr items => by
    -- between the brackets stand commas and the texts of the items
    have hItems := lineFeed_not_mem_itemTexts hFloat items
    rw [jsonText, List.mem_append, List.mem_append, mem_intercalate (by decide)]
    rintro ((h | ⟨t, ht, h⟩) | h)
    · exact absurd h (by decide)
    · exact hItems t ht h
    · exact absurd h (by decide)
  | .obj members => by
    have hMembers := lineFeed_not_mem_memberTexts hFloat members
    rw [jsonText, List.mem_append, List.mem_append, mem_intercalate (by decide)]
    rintro ((h | ⟨t, ht, h⟩) | h)
    · exact absurd h (by decide)
    · exact hMembers t ht h
    · exact absurd h (by decide)

/-- The same for the texts of items. -/
theorem lineFeed_not_mem_itemTexts {floatRepr : Rat → Str} (hFloat : ∀ x, lineFeed ∉ floatRepr x) :
    ∀ items : List Json, ∀ t ∈ itemTexts floatRepr items, lineFeed ∉ t
  | [], _, ht => absurd ht (List.not_mem_nil)
  | item :: items, t, ht => by
    rcases List.mem_cons.mp ht with rfl | ht
    · exact lineFeed_not_mem_jsonText hFloat item
    · exact lineFeed_not_mem_itemTexts hFloat items t ht

/-- The same for the texts of members. -/
theorem lineFeed_not_mem_memberTexts {floatRepr : Rat → Str}
    (hFloat : ∀ x, lineFeed ∉ floatRepr x) :
    ∀ members : List (Str × Json), ∀ t ∈ memberTexts floatRepr members, lineFeed ∉ t
  | [], _, ht => absurd ht (List.not_mem_nil)
  | (key, value) :: members, t, ht => by
    rcases List.mem_cons.mp ht with rfl | ht
    · simp only [List.mem_append, not_or]
      exact ⟨⟨lineFeed_not_mem_quoted key, by decide⟩, lineFeed_not_mem_jsonText hFloat value⟩
    · exact lineFeed_not_mem_memberTexts hFloat members t ht

end

-- ---------------------------------------------------------------------------
-- Sorted keys
-- ---------------------------------------------------------------------------

namespace Json

/-- Items are sorted one by one. -/
theorem sortItems_eq_map (items : List Json) : sortItems items = items.map sortKeys := by
  induction items with
  | nil => rfl
  | cons item items ih => rw [sortItems, ih, List.map_cons]

/-- The values of members are sorted one by one. -/
theorem sortMembers_eq_map (members : List (Str × Json)) :
    sortMembers members = members.map fun m => (m.1, m.2.sortKeys) := by
  induction members with
  | nil => rfl
  | cons m members ih => rw [sortMembers, ih, List.map_cons]

/-- The members of an object with sorted keys. -/
def sortedMembers (members : List (Str × Json)) : Dict :=
  sortBy Prod.fst (members.map fun m => (m.1, m.2.sortKeys))

/-- An object with sorted keys. -/
theorem sortKeys_obj (members : List (Str × Json)) :
    (obj members).sortKeys = obj (sortedMembers members) := by
  rw [sortKeys, sortMembers_eq_map]
  rfl

theorem sortKeys_arr (items : List Json) : (arr items).sortKeys = arr (items.map sortKeys) := by
  rw [sortKeys, sortItems_eq_map]

theorem sortedMembers_perm (members : List (Str × Json)) :
    (sortedMembers members).Perm (members.map fun m => (m.1, m.2.sortKeys)) := sortBy_perm _ _

end Json

namespace Dict

/-- Where no key comes twice, a member is what its key looks up. -/
theorem lookup_eq_some {d : Dict} (hNodup : (d.map Prod.fst).Nodup) {key : Str} {value : Json} :
    d.lookup key = some value ↔ (key, value) ∈ d := by
  induction d with
  | nil => simp
  | cons m d ih =>
    rw [List.map_cons, List.nodup_cons] at hNodup
    rw [List.lookup_cons]
    by_cases hKey : key = m.1
    · rw [beq_iff_eq.mpr hKey]
      constructor
      · intro h
        rw [← Option.some.inj h, hKey]
        exact List.mem_cons_self
      · intro h
        rcases List.mem_cons.mp h with h | h
        · rw [← h]
        · -- a second member with the key of the first one
          exact absurd (List.mem_map.mpr ⟨_, h, hKey⟩) hNodup.1
    · rw [beq_eq_false_iff_ne.mpr hKey]
      show d.lookup key = some value ↔ _
      rw [ih hNodup.2, List.mem_cons]
      refine (or_iff_right ?_).symm
      intro h
      exact hKey (congrArg Prod.fst h)

/-- A key is in an object exactly when a member has it. -/
theorem contains_eq_true {d : Dict} {key : Str} : d.contains key = true ↔ key ∈ d.map Prod.fst := by
  induction d with
  | nil => exact ⟨fun h => Bool.noConfusion h, fun h => absurd h (List.not_mem_nil)⟩
  | cons m d ih =>
    rw [Dict.contains, List.lookup_cons, List.map_cons, List.mem_cons]
    by_cases hKey : key = m.1
    · rw [beq_iff_eq.mpr hKey]
      exact ⟨fun _ => Or.inl hKey, fun _ => rfl⟩
    · rw [beq_eq_false_iff_ne.mpr hKey]
      exact ih.trans (or_iff_right hKey).symm

/-- Looking up does not see the order of the members. -/
theorem lookup_perm {d d' : Dict} (hPerm : d.Perm d') (hNodup : (d.map Prod.fst).Nodup) (key : Str) :
    d.lookup key = d'.lookup key := by
  have hNodup' : (d'.map Prod.fst).Nodup := (hPerm.map Prod.fst).nodup_iff.mp hNodup
  refine Option.ext fun value => ?_
  rw [lookup_eq_some hNodup, lookup_eq_some hNodup', hPerm.mem_iff]

/-- Values that are changed one by one are found under the same keys. -/
theorem lookup_map (d : Dict) (f : Json → Json) (key : Str) :
    (d.map fun m => (m.1, f m.2)).lookup key = (d.lookup key).map f := by
  induction d with
  | nil => rfl
  | cons m d ih =>
    rw [List.map_cons, List.lookup_cons, List.lookup_cons, ih]
    cases key == m.1 <;> rfl

/-- Sorting the keys of an object moves its members, and sorts the keys in them. -/
theorem get_sortedMembers {d : Dict} (hNodup : (d.map Prod.fst).Nodup) (key : Str) :
    Dict.get (Json.sortedMembers d) key = (Dict.get d key).sortKeys := by
  have hKeys : ((d.map fun m => (m.1, m.2.sortKeys)).map Prod.fst) = d.map Prod.fst := by
    rw [List.map_map]
    rfl
  have hLookup := lookup_perm (Json.sortedMembers_perm d).symm (hKeys.symm ▸ hNodup) key
  rw [Dict.get, Dict.getD, ← hLookup, lookup_map, Dict.get, Dict.getD]
  cases d.lookup key <;> rfl

end Dict

end Text
