import Mathlib.Algebra.BigOperators.Group.List.Basic
import Mathlib.Data.List.Nodup

/-!
# Ordered dicts

A Python `dict`: entries in the order in which their keys came first, no two of them with
one key. An assignment keeps the place of a key that is there and appends one that is not.

* `get?_set`, `mem_keys_set` — reading after an assignment;
* `values_eq_map_keys` — the values, by the keys.
-/

namespace Collections

universe u v

variable {κ : Type u} {ν : Type v}

structure OrderedDict (κ : Type u) (ν : Type v) where
  entries : List (κ × ν)
  nodup : (entries.map Prod.fst).Nodup

variable [DecidableEq κ]

/-- The entries after `d[k] = v`. -/
def setEntries (k : κ) (v : ν) : List (κ × ν) → List (κ × ν)
  | [] => [(k, v)]
  | e :: es => if e.1 = k then (k, v) :: es else e :: setEntries k v es

/-- An assignment keeps the keys in their places and appends a new one. -/
theorem map_fst_setEntries (k : κ) (v : ν) (es : List (κ × ν)) :
    (setEntries k v es).map Prod.fst =
      if k ∈ es.map Prod.fst then es.map Prod.fst else es.map Prod.fst ++ [k] := by
  induction es with
  | nil => rfl
  | cons e es ih =>
    rw [setEntries]
    split
    · rename_i hKey
      rw [List.map_cons, List.map_cons, if_pos (by rw [← hKey]; exact List.mem_cons_self), hKey]
    · rename_i hKey
      rw [List.map_cons, List.map_cons, ih]
      -- the first key is another one, so the new key is looked for in the rest
      have hMem : (k ∈ e.1 :: es.map Prod.fst) ↔ k ∈ es.map Prod.fst := by
        rw [List.mem_cons]
        exact or_iff_right fun h => hKey h.symm
      simp only [hMem]
      split
      · rfl
      · rw [List.cons_append]

namespace OrderedDict

/-- `{}`. -/
def empty : OrderedDict κ ν := ⟨[], List.nodup_nil⟩

instance emptyCollection : EmptyCollection (OrderedDict κ ν) := ⟨empty⟩

variable (d : OrderedDict κ ν)

/-- `list(d)`. -/
def keys : List κ := d.entries.map Prod.fst

/-- `list(d.values())`. -/
def values : List ν := d.entries.map Prod.snd

/-- `d.get(k)`. -/
def get? (k : κ) : Option ν := (d.entries.find? fun e => decide (e.1 = k)).map Prod.snd

/-- `d.get(k, default)`. -/
def getD (k : κ) (default : ν) : ν := (d.get? k).getD default

/-- `k in d`. -/
def contains (k : κ) : Bool := (d.get? k).isSome

/-- `d[k] = v`. -/
def set (k : κ) (v : ν) : OrderedDict κ ν where
  entries := setEntries k v d.entries
  nodup := by
    rw [map_fst_setEntries]
    split
    · exact d.nodup
    · rename_i hKey
      exact List.nodup_append.mpr ⟨d.nodup, List.nodup_singleton k, by
        rintro a ha b hb rfl
        exact hKey (List.mem_singleton.mp hb ▸ ha)⟩

/-- `{k: v for k, v in entries}`: the last value of a key stays. -/
def ofList (entries : List (κ × ν)) : OrderedDict κ ν :=
  entries.foldl (fun d e => d.set e.1 e.2) empty

-- ---------------------------------------------------------------------------
-- Reading
-- ---------------------------------------------------------------------------

@[simp] theorem entries_set (k : κ) (v : ν) : (d.set k v).entries = setEntries k v d.entries := rfl

/-- An assignment is read under its key, and nothing else changes. -/
theorem get?_set (k j : κ) (v : ν) :
    (d.set k v).get? j = if j = k then some v else d.get? j := by
  unfold get?
  rw [entries_set]
  induction d.entries with
  | nil =>
    rw [setEntries, List.find?_cons]
    by_cases hj : j = k
    · rw [if_pos hj, decide_eq_true hj.symm]
      rfl
    · rw [if_neg hj, decide_eq_false (fun h => hj h.symm)]
  | cons e es ih =>
    rw [setEntries]
    by_cases hKey : e.1 = k
    · -- the entry at the front is the one assigned
      rw [if_pos hKey, List.find?_cons, List.find?_cons]
      by_cases hj : j = k
      · rw [if_pos hj, decide_eq_true hj.symm]
        rfl
      · rw [if_neg hj, decide_eq_false (fun h => hj h.symm),
          decide_eq_false (fun h => hj (h.symm.trans hKey))]
    · rw [if_neg hKey, List.find?_cons, List.find?_cons]
      by_cases hj : e.1 = j
      · -- the entry at the front is the one read
        rw [decide_eq_true hj, if_neg (fun h => hKey (hj.trans h))]
      · rw [decide_eq_false hj]
        exact ih

/-- The same with a default value. -/
theorem getD_set (k j : κ) (v default : ν) :
    (d.set k v).getD j default = if j = k then v else d.getD j default := by
  unfold getD
  rw [get?_set]
  split <;> rfl

/-- An assignment adds at most its own key. -/
theorem mem_keys_set {k j : κ} {v : ν} : j ∈ (d.set k v).keys ↔ j = k ∨ j ∈ d.keys := by
  unfold keys
  rw [entries_set, map_fst_setEntries]
  split
  · rename_i hMem
    constructor
    · exact Or.inr
    · rintro (rfl | h)
      · exact hMem
      · exact h
  · rw [List.mem_append, List.mem_singleton, or_comm]

/-- Nothing is read under a key that is not there. -/
theorem get?_eq_none {k : κ} : d.get? k = none ↔ k ∉ d.keys := by
  unfold get? keys
  rw [Option.map_eq_none_iff, List.find?_eq_none, List.mem_map]
  constructor
  · rintro h ⟨e, he, rfl⟩
    exact h e he (decide_eq_true rfl)
  · intro h e he hKey
    exact h ⟨e, he, of_decide_eq_true hKey⟩

theorem isSome_get? {k : κ} : (d.get? k).isSome = true ↔ k ∈ d.keys := by
  rw [Option.isSome_iff_ne_none, ne_eq, get?_eq_none, not_not]

/-- A key that is not there comes last. -/
theorem values_set_of_get?_eq_none {k : κ} (h : d.get? k = none) (v : ν) :
    (d.set k v).values = d.values ++ [v] := by
  have hMem : k ∉ d.entries.map Prod.fst := (d.get?_eq_none).mp h
  unfold values
  rw [entries_set]
  revert hMem
  induction d.entries with
  | nil =>
    intro _
    rfl
  | cons e es ih =>
    intro hMem
    rw [List.map_cons, List.mem_cons, not_or] at hMem
    rw [setEntries, if_neg (Ne.symm hMem.1), List.map_cons, List.map_cons, ih hMem.2,
      List.cons_append]

/-- An entry is read under its key, since no other entry has it. -/
theorem get?_of_mem {k : κ} {v : ν} (h : (k, v) ∈ d.entries) : d.get? k = some v := by
  unfold get?
  have hNodup := d.nodup
  revert h hNodup
  induction d.entries with
  | nil =>
    intro h
    exact absurd h List.not_mem_nil
  | cons e es ih =>
    intro h hNodup
    rw [List.map_cons] at hNodup
    obtain ⟨hHead, hTail⟩ := List.nodup_cons.mp hNodup
    rw [List.find?_cons]
    rcases List.mem_cons.mp h with rfl | h'
    · rw [decide_eq_true rfl]
      rfl
    · -- an entry before it with the same key would be a second one
      have hne : e.1 ≠ k := by
        rintro rfl
        exact hHead (List.mem_map.mpr ⟨(e.1, v), h', rfl⟩)
      rw [decide_eq_false hne]
      exact ih h' hTail

/-- What is read is an entry. -/
theorem mem_of_get? {k : κ} {v : ν} (h : d.get? k = some v) : (k, v) ∈ d.entries := by
  unfold get? at h
  obtain ⟨e, he, rfl⟩ := Option.map_eq_some_iff.mp h
  have hKey : e.1 = k := by simpa using List.find?_some he
  rw [← hKey]
  exact List.mem_of_find?_eq_some he

/-- What a dict of some entries has is one of them. -/
theorem mem_of_get?_ofList {entries : List (κ × ν)} {k : κ} {v : ν}
    (h : (ofList entries).get? k = some v) : (k, v) ∈ entries := by
  -- each entry is set after those before it
  suffices hFold : ∀ d : OrderedDict κ ν,
      (entries.foldl (fun d e => d.set e.1 e.2) d).get? k = some v →
        (k, v) ∈ entries ∨ d.get? k = some v from
    (hFold ∅ h).resolve_right nofun
  clear h
  induction entries with
  | nil => exact fun _ h => .inr h
  | cons e entries ih =>
    intro d h
    rcases ih (d.set e.1 e.2) h with hMem | hGet
    · exact .inl (List.mem_cons_of_mem e hMem)
    · rw [get?_set] at hGet
      split at hGet
      · rename_i hKey
        obtain rfl := Option.some.inj hGet
        exact .inl (hKey ▸ List.mem_cons_self)
      · exact .inr hGet

omit [DecidableEq κ] in
theorem keys_nodup : d.keys.Nodup := d.nodup

/-- The values are what the keys read, in the order of the keys. -/
theorem values_eq_map_keys (default : ν) : d.values = d.keys.map (d.getD · default) := by
  unfold values keys
  rw [List.map_map]
  apply List.map_congr_left
  intro e he
  show e.2 = d.getD e.1 default
  unfold getD
  rw [d.get?_of_mem he]
  rfl

end OrderedDict

end Collections
