import SpikeBackend.Lib.OrderedDict

/-!
# Tallies

A dict of sums over a list of amounts: each key holds the sum of the amounts under it. A cross
table does it for two keys at once. An amount is added with `addTo` and `addAt`.

* `Tallies.addTo`, `CrossTallies.addAt` — an addition keeps the tally;
* `Tallies.sum_values` — the sums add up to the amounts;
* `CrossTallies.sum_row`, `CrossTallies.sum_column` — the two margins of a cross table.
-/

namespace Collections

universe u v w

variable {κ : Type u} {ι : Type v} {M : Type w} [DecidableEq κ] [DecidableEq ι] [AddCommMonoid M]

/-- The sum of the amounts under a key. -/
def groupSum (entries : List (κ × M)) (k : κ) : M :=
  ((entries.filter fun e => e.1 = k).map Prod.snd).sum

@[simp] theorem groupSum_nil (k : κ) : groupSum ([] : List (κ × M)) k = 0 := by
  simp [groupSum]

/-- The sum of a key, by the first entry. -/
theorem groupSum_cons (e : κ × M) (entries : List (κ × M)) (k : κ) :
    groupSum (e :: entries) k = (if e.1 = k then e.2 else 0) + groupSum entries k := by
  unfold groupSum
  rw [List.filter_cons]
  by_cases h : e.1 = k
  · rw [if_pos h, if_pos (decide_eq_true h), List.map_cons, List.sum_cons]
  · rw [if_neg h, if_neg (by simpa using h), zero_add]

/-- The sum of a key after one more entry. -/
theorem groupSum_concat (entries : List (κ × M)) (k j : κ) (x : M) :
    groupSum (entries ++ [(k, x)]) j = groupSum entries j + if k = j then x else 0 := by
  unfold groupSum
  rw [List.filter_append, List.map_append, List.sum_append, List.filter_cons, List.filter_nil]
  by_cases h : k = j
  · rw [if_pos h, if_pos (decide_eq_true h), List.map_cons, List.map_nil, List.sum_singleton]
  · rw [if_neg h, if_neg (by simpa using h), List.map_nil, List.sum_nil]

/-- One amount at one key of a list of keys without duplicates. -/
theorem sum_ite_of_mem {keys : List κ} (hNodup : keys.Nodup) {k : κ} (hk : k ∈ keys) (x : M) :
    (keys.map fun j => if k = j then x else 0).sum = x := by
  induction keys with
  | nil => exact absurd hk List.not_mem_nil
  | cons j keys ih =>
    obtain ⟨hHead, hTail⟩ := List.nodup_cons.mp hNodup
    rw [List.map_cons, List.sum_cons]
    by_cases h : k = j
    · -- the key is not there a second time
      have hRest : (keys.map fun j => if k = j then x else 0).sum = 0 := by
        apply List.sum_eq_zero
        intro y hy
        obtain ⟨i, hi, rfl⟩ := List.mem_map.mp hy
        refine if_neg fun hki => hHead ?_
        rw [← h, hki]
        exact hi
      rw [if_pos h, hRest, add_zero]
    · rw [if_neg h, zero_add]
      exact ih hTail ((List.mem_cons.mp hk).resolve_left h)

/-- The group sums over keys that cover the amounts add up to the amounts. -/
theorem sum_groupSum {keys : List κ} (hNodup : keys.Nodup) (entries : List (κ × M))
    (hCover : ∀ e ∈ entries, e.1 ∈ keys) :
    (keys.map (groupSum entries)).sum = (entries.map Prod.snd).sum := by
  induction entries with
  | nil =>
    apply List.sum_eq_zero
    intro y hy
    obtain ⟨k, -, rfl⟩ := List.mem_map.mp hy
    exact groupSum_nil k
  | cons e entries ih =>
    have hHead : (keys.map fun j => if e.1 = j then e.2 else 0).sum = e.2 :=
      sum_ite_of_mem hNodup (hCover e List.mem_cons_self) e.2
    have hTail := ih fun e' he' => hCover e' (List.mem_cons_of_mem e he')
    -- the first entry counts under its own key, once
    have hSplit : keys.map (groupSum (e :: entries)) =
        keys.map fun k => (if e.1 = k then e.2 else 0) + groupSum entries k :=
      List.map_congr_left fun k _ => groupSum_cons e entries k
    rw [hSplit, List.sum_map_add, hHead, hTail, List.map_cons, List.sum_cons]

-- ---------------------------------------------------------------------------
-- One key
-- ---------------------------------------------------------------------------

/-- `d[k] = d.get(k, 0) + x`. -/
def OrderedDict.addTo (d : OrderedDict κ M) (k : κ) (x : M) : OrderedDict κ M :=
  d.set k (d.getD k 0 + x)

/-- The dict holds the sums of the amounts under their keys, and no other keys. -/
structure Tallies (d : OrderedDict κ M) (entries : List (κ × M)) : Prop where
  keys : ∀ k, k ∈ d.keys ↔ k ∈ entries.map Prod.fst
  sums : ∀ k, d.getD k 0 = groupSum entries k

/-- The empty dict tallies no entries. -/
theorem Tallies.empty : Tallies (∅ : OrderedDict κ M) [] where
  keys _ := Iff.rfl
  sums k := (groupSum_nil k).symm

/-- Adding an amount tallies one more entry. -/
theorem Tallies.addTo {d : OrderedDict κ M} {entries : List (κ × M)} (h : Tallies d entries)
    (k : κ) (x : M) : Tallies (d.addTo k x) (entries ++ [(k, x)]) where
  keys j := by
    unfold OrderedDict.addTo
    rw [OrderedDict.mem_keys_set, h.keys, List.map_append, List.mem_append, or_comm]
    simp
  sums j := by
    unfold OrderedDict.addTo
    rw [OrderedDict.getD_set, groupSum_concat, ← h.sums]
    by_cases hj : j = k
    · rw [if_pos hj, if_pos hj.symm, hj]
    · rw [if_neg hj, if_neg (Ne.symm hj), add_zero]

/-- The sums add up to the amounts. -/
theorem Tallies.sum_values {d : OrderedDict κ M} {entries : List (κ × M)}
    (h : Tallies d entries) : d.values.sum = (entries.map Prod.snd).sum := by
  have hRead : d.keys.map (d.getD · 0) = d.keys.map (groupSum entries) :=
    List.map_congr_left fun k _ => h.sums k
  rw [d.values_eq_map_keys 0, hRead]
  exact sum_groupSum d.keys_nodup entries fun e he => (h.keys e.1).mpr (List.mem_map_of_mem he)

-- ---------------------------------------------------------------------------
-- Two keys
-- ---------------------------------------------------------------------------

/-- The amount goes to the row `k` of the table and there to the column `i`. -/
def OrderedDict.addAt (d : OrderedDict κ (OrderedDict ι M)) (k : κ) (i : ι) (x : M) :
    OrderedDict κ (OrderedDict ι M) :=
  d.set k ((d.getD k ∅).addTo i x)

/-- The amounts of one row of a cross table, under their columns. -/
def rowEntries (entries : List (κ × ι × M)) (k : κ) : List (ι × M) :=
  (entries.filter fun e => e.1 = k).map Prod.snd

omit [DecidableEq ι] [AddCommMonoid M] in
/-- The entries of a row after one more entry. -/
theorem rowEntries_concat (entries : List (κ × ι × M)) (k j : κ) (i : ι) (x : M) :
    rowEntries (entries ++ [(k, i, x)]) j =
      if k = j then rowEntries entries j ++ [(i, x)] else rowEntries entries j := by
  unfold rowEntries
  rw [List.filter_append, List.map_append, List.filter_cons, List.filter_nil]
  by_cases h : k = j
  · rw [if_pos h, if_pos (decide_eq_true h), List.map_cons, List.map_nil]
  · rw [if_neg h, if_neg (by simpa using h), List.map_nil, List.append_nil]

/-- Each row of the table holds the sums of its amounts, and there are no other rows. -/
structure CrossTallies (d : OrderedDict κ (OrderedDict ι M)) (entries : List (κ × ι × M)) :
    Prop where
  keys : ∀ k, k ∈ d.keys ↔ k ∈ entries.map Prod.fst
  rows : ∀ k, Tallies (d.getD k ∅) (rowEntries entries k)

/-- The empty table tallies no entries. -/
theorem CrossTallies.empty : CrossTallies (∅ : OrderedDict κ (OrderedDict ι M)) [] where
  keys _ := Iff.rfl
  rows _ := Tallies.empty

/-- Adding an amount to a cell tallies one more entry. -/
theorem CrossTallies.addAt {d : OrderedDict κ (OrderedDict ι M)} {entries : List (κ × ι × M)}
    (h : CrossTallies d entries) (k : κ) (i : ι) (x : M) :
    CrossTallies (d.addAt k i x) (entries ++ [(k, i, x)]) where
  keys j := by
    unfold OrderedDict.addAt
    rw [OrderedDict.mem_keys_set, h.keys, List.map_append, List.mem_append, or_comm]
    simp
  rows j := by
    unfold OrderedDict.addAt
    rw [OrderedDict.getD_set, rowEntries_concat]
    by_cases hj : j = k
    · rw [if_pos hj, if_pos hj.symm, hj]
      exact (h.rows k).addTo i x
    · rw [if_neg hj, if_neg (Ne.symm hj)]
      exact h.rows j

variable {d : OrderedDict κ (OrderedDict ι M)} {entries : List (κ × ι × M)}

/-- A row adds up to the amounts of its key. -/
theorem CrossTallies.sum_row (h : CrossTallies d entries) (k : κ) :
    (d.getD k ∅).values.sum = groupSum (entries.map fun e => (e.1, e.2.2)) k := by
  rw [(h.rows k).sum_values]
  unfold rowEntries groupSum
  rw [List.filter_map, List.map_map, List.map_map]
  rfl

/-- The group sum of a column within one row. -/
private theorem groupSum_rowEntries (entries : List (κ × ι × M)) (k : κ) (i : ι) :
    groupSum (rowEntries entries k) i =
      groupSum ((entries.filter fun e => e.2.1 = i).map fun e => (e.1, e.2.2)) k := by
  unfold groupSum rowEntries
  rw [List.filter_map, List.filter_map, List.filter_filter, List.filter_filter, List.map_map,
    List.map_map]
  congr 2
  apply List.filter_congr
  intro e _
  exact Bool.and_comm _ _

/-- A column adds up to the amounts of its key. -/
theorem CrossTallies.sum_column (h : CrossTallies d entries) (i : ι) :
    (d.values.map (·.getD i 0)).sum = groupSum (entries.map Prod.snd) i := by
  -- the amounts of the column, under their rows
  let column := (entries.filter fun e => e.2.1 = i).map fun e => (e.1, e.2.2)
  have hCell : ∀ k, (d.getD k ∅).getD i 0 = groupSum column k := by
    intro k
    rw [(h.rows k).sums, groupSum_rowEntries]
  have hCover : ∀ e ∈ column, e.1 ∈ d.keys := by
    intro e he
    obtain ⟨e', he', rfl⟩ := List.mem_map.mp he
    exact (h.keys e'.1).mpr (List.mem_map_of_mem (List.mem_filter.mp he').1)
  have hRead : (d.keys.map fun k => (d.getD k ∅).getD i 0) = d.keys.map (groupSum column) :=
    List.map_congr_left fun k _ => hCell k
  rw [d.values_eq_map_keys ∅, List.map_map]
  show (d.keys.map fun k => (d.getD k ∅).getD i 0).sum = _
  rw [hRead, sum_groupSum d.keys_nodup column hCover]
  unfold groupSum
  rw [List.filter_map, List.map_map, List.map_map]
  rfl

end Collections
