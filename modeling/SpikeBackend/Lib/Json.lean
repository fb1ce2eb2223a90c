import Mathlib.Data.Rat.Floor
import SpikeBackend.Lib.Text

/-!
# JSON values

What `json.loads` returns and `json.dumps` takes: the Python values `None`, `bool`,
`int`, `float`, `str`, `list` and `dict`. A float is the rational number it stands for;
the infinities and NaN, which JSON has no text for, are not among them.

`Dict.get` and `Dict.getD` are `dict.get` with and without a default; the predicates of
`Json` are Python's comparisons of a value of unknown type with one of a known type.
-/

namespace Text

inductive Json
  | null
  | bool (value : Bool)
  | int (value : Int)
  | float (value : Rat)
  | str (value : Str)
  | arr (items : List Json)
  | obj (members : List (Str × Json))

/-- A Python `dict` with string keys, in insertion order. -/
abbrev Dict := List (Str × Json)

namespace Dict

/-- `d.get(key, default)`. -/
def getD (d : Dict) (key : Str) (default : Json) : Json := (d.lookup key).getD default

/-- `d.get(key)`: `None` where the key is absent. -/
def get (d : Dict) (key : Str) : Json := d.getD key .null

/-- `key in d`. -/
def contains (d : Dict) (key : Str) : Bool := (d.lookup key).isSome

/-- A member with another key is passed over. -/
theorem getD_cons_of_ne (d : Dict) {key k : Str} (v default : Json) (h : key ≠ k) :
    getD ((k, v) :: d) key default = getD d key default := by
  have hBeq : (key == k) = false := beq_eq_false_iff_ne.mpr h
  simp [getD, List.lookup_cons, hBeq]

end Dict

namespace Json

/-- `v == s` for a string `s`. -/
def eqStr (v : Json) (s : Str) : Bool :=
  match v with
  | .str t => t == s
  | _ => false

/-- `v == n` for an integer `n`; a `bool` is 0 or 1, and a float may be integral. -/
def eqInt (v : Json) (n : Int) : Bool :=
  match v with
  | .bool b => (if b then 1 else 0) == n
  | .int m => m == n
  | .float x => x == n
  | _ => false

/-- `v is True`. -/
def isTrue (v : Json) : Bool :=
  match v with
  | .bool b => b
  | _ => false

/-- `bool(v)`. -/
def truthy (v : Json) : Bool :=
  match v with
  | .null => false
  | .bool b => b
  | .int n => n != 0
  | .float x => x != 0
  | .str s => !s.isEmpty
  | .arr items => !items.isEmpty
  | .obj members => !members.isEmpty

/-- `isinstance(v, dict)`. -/
def isObject (v : Json) : Bool :=
  match v with
  | .obj _ => true
  | _ => false

/-- `v is None`. -/
def isNull (v : Json) : Bool :=
  match v with
  | .null => true
  | _ => false

/-- A string or `None`. -/
def ofStr? : Option Str → Json
  | some s => .str s
  | none => .null

/-- An integer or `None`. -/
def ofInt? : Option Int → Json
  | some n => .int n
  | none => .null

/-- The number that a value is, if it is one; a `bool` is 0 or 1. -/
def number? (v : Json) : Option Rat :=
  match v with
  | .bool b => some (if b then 1 else 0)
  | .int n => some n
  | .float x => some x
  | _ => none

mutual

/-- `v == w`: numbers by their value, dicts without their order. -/
def pyEq : Json → Json → Bool
  | .arr xs, .arr ys => pyEqItems xs ys
  | .obj xs, .obj ys => xs.length == ys.length && pyEqMembers xs ys
  | .str a, .str b => a == b
  | .null, .null => true
  | a, b =>
    match a.number?, b.number? with
    | some x, some y => x == y
    | _, _ => false

/-- `v == w` of two lists. -/
def pyEqItems : List Json → List Json → Bool
  | [], [] => true
  | x :: xs, y :: ys => pyEq x y && pyEqItems xs ys
  | _, _ => false

/-- Every member of the first dict is in the second. -/
def pyEqMembers : List (Str × Json) → Dict → Bool
  | [], _ => true
  | (key, x) :: xs, ys => (ys.lookup key).any (pyEq x) && pyEqMembers xs ys

end

end Json

/-- `round(x)`, to the nearest integer and from halfway to the even one. -/
def roundHalfEven (x : Rat) : Int :=
  let lower := x.floor
  let rest := x - lower
  if rest < 1 / 2 then lower
  else if 1 / 2 < rest then lower + 1
  else if lower % 2 = 0 then lower else lower + 1

/-- An integer rounds to itself. -/
theorem roundHalfEven_intCast (n : Int) : roundHalfEven n = n := by
  have hFloor : (n : Rat).floor = n := Rat.floor_intCast n
  simp only [roundHalfEven, hFloor, sub_self]
  rw [if_pos (by norm_num)]

end Text
