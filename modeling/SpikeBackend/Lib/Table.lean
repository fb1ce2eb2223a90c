import Mathlib.Data.List.Basic
import Mathlib.Data.List.Pairwise
import Mathlib.Data.List.Count

/-!
# Relational tables

A table is a list of rows that carries its schema's constraints as fields: no two
rows share a primary key or clash on a unique constraint, and every row passes the
CHECK constraints. A row gets in by `insert?` and is rewritten by `update?`; each
answers `none` where the database would answer with an integrity error, so a table
that violates its schema cannot be built.

* `mem_insert?`, `mem_update?` — what a write leaves in the table;
* `eq_of_key_eq`, `eq_of_clash` — the constraints, as facts about two rows;
* `latest?_eq_some` — what `ORDER BY ... DESC LIMIT 1` answers;
* `count_insert?`, `count_update?` — how a write moves a `count(*)`.
-/

namespace Relational

/-- The constraints of a table's schema: the primary key, the unique constraints (as
the relation "these two rows clash") and the CHECK constraints. -/
class Schema (ρ : Type*) (κ : outParam Type*) where
  key : ρ → κ
  clash : ρ → ρ → Bool
  checks : ρ → Bool
  clash_comm : ∀ a b, clash a b = clash b a

variable {ρ κ : Type*} [Schema ρ κ]

/-- Two different rows may stand in one table. -/
def Apart (a b : ρ) : Prop :=
  Schema.key a ≠ Schema.key b ∧ Schema.clash a b = false

/-- The constraints do not tell the two rows apart by their order. -/
theorem Apart.symm {a b : ρ} (h : Apart a b) : Apart b a :=
  ⟨h.1.symm, by rw [Schema.clash_comm]; exact h.2⟩

/-- A table: rows that satisfy the constraints of their schema. -/
structure Table (ρ : Type*) {κ : Type*} [Schema ρ κ] where
  rows : List ρ
  apart : rows.Pairwise Apart
  checked : ∀ r ∈ rows, Schema.checks r = true

namespace Table

instance : Membership ρ (Table ρ) := ⟨fun t r => r ∈ t.rows⟩

theorem mem_rows {t : Table ρ} {r : ρ} : r ∈ t.rows ↔ r ∈ t := Iff.rfl

/-- The table without rows. -/
def empty : Table ρ := ⟨[], List.Pairwise.nil, by simp⟩

@[simp] theorem not_mem_empty (r : ρ) : r ∉ (empty : Table ρ) := by
  simp [← mem_rows, empty]

instance decidableBEx (t : Table ρ) (p : ρ → Prop) [DecidablePred p] :
    Decidable (∃ r ∈ t, p r) :=
  inferInstanceAs (Decidable (∃ r ∈ t.rows, p r))

instance decidableBAll (t : Table ρ) (p : ρ → Prop) [DecidablePred p] :
    Decidable (∀ r ∈ t, p r) :=
  inferInstanceAs (Decidable (∀ r ∈ t.rows, p r))

-- ---------------------------------------------------------------------------
-- Reading
-- ---------------------------------------------------------------------------

/-- `SELECT ... WHERE p`, as `scalar_one_or_none` reads it. -/
def find? (t : Table ρ) (p : ρ → Bool) : Option ρ := t.rows.find? p

/-- `SELECT ... WHERE id = k`. -/
def get? [DecidableEq κ] (t : Table ρ) (k : κ) : Option ρ :=
  t.find? fun r => decide (Schema.key r = k)

/-- `SELECT ... WHERE p ORDER BY c DESC LIMIT 1`; of rows that tie the first one. -/
def latest? (t : Table ρ) (p : ρ → Bool) (c : ρ → Int) : Option ρ :=
  (t.rows.filter p).foldl
    (fun best r => if best.all fun b => decide (c b < c r) then some r else best) none

/-- `SELECT count(*) ... WHERE p`. -/
def count (t : Table ρ) (p : ρ → Bool) : Nat := t.rows.countP p

theorem mem_of_find? {t : Table ρ} {p : ρ → Bool} {r : ρ} (h : t.find? p = some r) :
    r ∈ t := List.mem_of_find?_eq_some h

theorem prop_of_find? {t : Table ρ} {p : ρ → Bool} {r : ρ} (h : t.find? p = some r) :
    p r = true := List.find?_some h

/-- A search finds nothing exactly when no row has what is searched for. -/
theorem find?_eq_none {t : Table ρ} {p : ρ → Bool} :
    t.find? p = none ↔ ∀ r ∈ t, p r = false := by
  simp [find?, mem_rows]

/-- Two rows of a table meet no constraint together. -/
theorem apart_of_ne (t : Table ρ) {a b : ρ} (ha : a ∈ t) (hb : b ∈ t) (hne : a ≠ b) :
    Apart a b :=
  have : Std.Symm (Apart (ρ := ρ)) := ⟨fun _ _ => Apart.symm⟩
  t.apart.forall ha hb hne

/-- A table holds at most one row of each primary key. -/
theorem eq_of_key_eq {t : Table ρ} {a b : ρ} (ha : a ∈ t) (hb : b ∈ t)
    (h : Schema.key a = Schema.key b) : a = b := by
  by_contra hne
  exact (t.apart_of_ne ha hb hne).1 h

/-- A table holds at most one of two clashing rows. -/
theorem eq_of_clash {t : Table ρ} {a b : ρ} (ha : a ∈ t) (hb : b ∈ t)
    (h : Schema.clash a b = true) : a = b := by
  by_contra hne
  have hApart := (t.apart_of_ne ha hb hne).2
  rw [h] at hApart
  exact Bool.noConfusion hApart

theorem checks_of_mem {t : Table ρ} {r : ρ} (h : r ∈ t) : Schema.checks r = true :=
  t.checked r h

/-- The row of a key is the row with that key. -/
theorem get?_eq_some [DecidableEq κ] {t : Table ρ} {k : κ} {r : ρ} :
    t.get? k = some r ↔ r ∈ t ∧ Schema.key r = k := by
  constructor
  · intro h
    exact ⟨mem_of_find? h, by simpa using prop_of_find? h⟩
  · rintro ⟨hr, rfl⟩
    cases hg : t.get? (Schema.key r) with
    | none =>
      have := find?_eq_none.mp hg r hr
      simp at this
    | some s =>
      have hs : Schema.key s = Schema.key r := by simpa using prop_of_find? hg
      rw [eq_of_key_eq (mem_of_find? hg) hr hs]

/-- There is no row of a key exactly when no row has it. -/
theorem get?_eq_none [DecidableEq κ] {t : Table ρ} {k : κ} :
    t.get? k = none ↔ ∀ r ∈ t, Schema.key r ≠ k := by
  simp [get?, find?_eq_none]

/-- The fold of `latest?` ends with a row of the list, or the one it began with, and none of
them comes later; the induction is on the list. -/
theorem foldl_latest (c : ρ → Int) (rows : List ρ) (best : Option ρ) :
    match rows.foldl
      (fun best r => if best.all fun b => decide (c b < c r) then some r else best) best with
    | none => rows = [] ∧ best = none
    | some x => (x ∈ rows ∨ best = some x) ∧ (∀ y ∈ rows, c y ≤ c x) ∧
        ∀ b, best = some b → c b ≤ c x := by
  induction rows generalizing best with
  | nil =>
    cases best with
    | none => exact ⟨rfl, rfl⟩
    | some b => exact ⟨.inr rfl, by simp, fun b' hb => Int.le_of_eq (by rw [Option.some.inj hb])⟩
  | cons r rest ih =>
    rw [List.foldl_cons]
    by_cases hLater : (best.all fun b => decide (c b < c r)) = true
    · -- the next row takes the place of the best one so far
      rw [if_pos hLater]
      have hRest := ih (some r)
      split at hRest
      · cases hRest.2
      · next x hFold =>
        obtain ⟨hMem, hAll, hStart⟩ := hRest
        have hHead := hStart r rfl
        refine ⟨?_, ?_, fun b hb => ?_⟩
        · rcases hMem with hMem | hMem
          · exact .inl (List.mem_cons_of_mem r hMem)
          · exact .inl (by rw [Option.some.inj hMem]; exact List.mem_cons_self)
        · intro y hy
          rcases List.mem_cons.mp hy with rfl | hy
          · exact hHead
          · exact hAll y hy
        · have hLess := of_decide_eq_true ((Option.all_eq_true _ _).mp hLater b hb)
          omega
    · -- the best one so far stays, and it is at least as late as the row
      rw [if_neg hLater]
      have hRest := ih best
      split at hRest
      · rw [hRest.2] at hLater
        exact absurd rfl hLater
      · next x hFold =>
        obtain ⟨hMem, hAll, hStart⟩ := hRest
        refine ⟨hMem.imp (List.mem_cons_of_mem r) id, fun y hy => ?_, hStart⟩
        rcases List.mem_cons.mp hy with rfl | hy
        · obtain ⟨b, hb, hNot⟩ : ∃ b, best = some b ∧ ¬c b < c y := by
            simpa [Option.all_eq_true] using hLater
          have hStarted := hStart b hb
          omega
        · exact hAll y hy

/-- The latest row is one of the rows that are asked for, and none of them comes later. -/
theorem latest?_eq_some {t : Table ρ} {p : ρ → Bool} {c : ρ → Int} {x : ρ}
    (h : t.latest? p c = some x) :
    x ∈ t ∧ p x = true ∧ ∀ y ∈ t, p y = true → c y ≤ c x := by
  have hFold := foldl_latest c (t.rows.filter p) none
  unfold latest? at h
  rw [h] at hFold
  obtain ⟨hMem, hAll, -⟩ := hFold
  have hFound := List.mem_filter.mp (hMem.resolve_right (by simp))
  exact ⟨hFound.1, hFound.2, fun y hy hp => hAll y (List.mem_filter.mpr ⟨hy, hp⟩)⟩

/-- No latest row means that no row has what is asked for. -/
theorem latest?_eq_none {t : Table ρ} {p : ρ → Bool} {c : ρ → Int}
    (h : t.latest? p c = none) : ∀ y ∈ t, p y = false := by
  have hFold := foldl_latest c (t.rows.filter p) none
  unfold latest? at h
  rw [h] at hFold
  intro y hy
  have hNot := List.filter_eq_nil_iff.mp hFold.1 y hy
  exact Bool.not_eq_true _ ▸ hNot

/-- A row that is counted makes the count positive. -/
theorem count_pos {t : Table ρ} {p : ρ → Bool} {r : ρ} (hr : r ∈ t) (hp : p r = true) :
    0 < t.count p :=
  List.countP_pos_iff.mpr ⟨r, hr, hp⟩

/-- What no row has is counted zero times. -/
theorem count_eq_zero {t : Table ρ} {p : ρ → Bool} (h : ∀ r ∈ t, p r = false) :
    t.count p = 0 := by
  rw [count, List.countP_eq_zero]
  intro r hr
  simp [h r hr]

theorem count_le {t : Table ρ} {p q : ρ → Bool} (h : ∀ r ∈ t, p r = true → q r = true) :
    t.count p ≤ t.count q := List.countP_mono_left h

/-- Rows with one of two properties are at most as many as both counts together. -/
theorem count_or_le (t : Table ρ) (p q : ρ → Bool) :
    t.count (fun r => p r || q r) ≤ t.count p + t.count q := by
  unfold count
  induction t.rows with
  | nil => simp
  | cons r rest ih =>
    rw [List.countP_cons, List.countP_cons, List.countP_cons]
    cases p r <;> cases q r <;> simp <;> omega

/-- A primary key counts at most one row. -/
theorem count_key_le_one [DecidableEq κ] (t : Table ρ) (k : κ) :
    t.count (fun r => decide (Schema.key r = k)) ≤ 1 := by
  rw [count, List.countP_eq_length_filter]
  have hKey : ∀ r ∈ t.rows.filter fun r => decide (Schema.key r = k), Schema.key r = k :=
    fun r hr => of_decide_eq_true (List.mem_filter.mp hr).2
  have hApart := t.apart.filter fun r => decide (Schema.key r = k)
  generalize t.rows.filter (fun r => decide (Schema.key r = k)) = rows at hKey hApart
  match rows with
  | [] => simp
  | [_] => simp
  | a :: b :: rest =>
    have hne := (List.pairwise_cons.mp hApart).1 b (by simp)
    exact absurd ((hKey a (by simp)).trans (hKey b (by simp)).symm) hne.1

-- ---------------------------------------------------------------------------
-- Writing
-- ---------------------------------------------------------------------------

/-- `UPDATE` of every row by a function that keeps keys and breaks no constraint. -/
def map (t : Table ρ) (f : ρ → ρ) (hKey : ∀ r, Schema.key (f r) = Schema.key r)
    (hClash : ∀ a b, Schema.clash a b = false → Schema.clash (f a) (f b) = false)
    (hChecks : ∀ r : ρ, Schema.checks r = true → Schema.checks (f r) = true) : Table ρ where
  rows := t.rows.map f
  apart := by
    rw [List.pairwise_map]
    refine t.apart.imp fun {a b} hab => ?_
    unfold Apart
    rw [hKey, hKey]
    exact ⟨hab.1, hClash a b hab.2⟩
  checked := by
    intro x hx
    obtain ⟨y, hy, rfl⟩ := List.mem_map.mp hx
    exact hChecks y (t.checked y hy)

/-- The rows after each of them was rewritten. -/
theorem mem_map {t : Table ρ} {f : ρ → ρ} {hKey : ∀ r, Schema.key (f r) = Schema.key r}
    {hClash : ∀ a b, Schema.clash a b = false → Schema.clash (f a) (f b) = false}
    {hChecks : ∀ r : ρ, Schema.checks r = true → Schema.checks (f r) = true} {x : ρ} :
    x ∈ t.map f hKey hClash hChecks ↔ ∃ y ∈ t, f y = x :=
  List.mem_map

/-- `DELETE ... WHERE p`. -/
def deleteWhere (t : Table ρ) (p : ρ → Bool) : Table ρ where
  rows := t.rows.filter fun r => !p r
  apart := t.apart.filter _
  checked r hr := t.checked r (List.mem_filter.mp hr).1

/-- The rows that a deletion leaves. -/
@[simp] theorem mem_deleteWhere {t : Table ρ} {p : ρ → Bool} {x : ρ} :
    x ∈ t.deleteWhere p ↔ x ∈ t ∧ p x = false := by
  simp [← mem_rows, deleteWhere]

variable [DecidableEq κ]

/-- The constraints let the row in next to row `x`. -/
def admits (r x : ρ) : Bool :=
  decide (Schema.key x ≠ Schema.key r) && !Schema.clash x r

theorem apart_of_admits {r x : ρ} (h : admits r x = true) : Apart x r := by
  simpa [admits, Apart] using h

/-- `INSERT`: `none` is an integrity error. -/
def insert? (t : Table ρ) (r : ρ) : Option (Table ρ) :=
  if h : (t.rows.all (admits r) && Schema.checks r) = true then
    some
      { rows := r :: t.rows
        apart := by
          rw [Bool.and_eq_true, List.all_eq_true] at h
          exact List.pairwise_cons.mpr
            ⟨fun x hx => (apart_of_admits (h.1 x hx)).symm, t.apart⟩
        checked := by
          rw [Bool.and_eq_true] at h
          intro x hx
          rcases List.mem_cons.mp hx with rfl | hx
          · exact h.2
          · exact t.checked x hx }
  else none

/-- Put the row in the place of the one with its primary key. -/
def replace (r x : ρ) : ρ := if Schema.key x = Schema.key r then r else x

theorem replace_of_key_eq {r x : ρ} (h : Schema.key x = Schema.key r) : replace r x = r :=
  if_pos h

theorem replace_of_key_ne {r x : ρ} (h : Schema.key x ≠ Schema.key r) : replace r x = x :=
  if_neg h

/-- A table of one row. -/
def single (r : ρ) (h : Schema.checks r = true) : Table ρ :=
  ⟨[r], List.pairwise_singleton _ _, by simpa using h⟩

/-- `UPDATE ... WHERE id = r.id`: `none` is an integrity error. -/
def update? (t : Table ρ) (r : ρ) : Option (Table ρ) :=
  if h : (t.rows.all (fun x => decide (Schema.key x = Schema.key r) || !Schema.clash x r)
      && Schema.checks r) = true then
    some
      { rows := t.rows.map (replace r)
        apart := by
          rw [Bool.and_eq_true, List.all_eq_true] at h
          rw [List.pairwise_map]
          refine t.apart.imp_of_mem ?_
          intro a b ha hb hab
          have hClash : ∀ x ∈ t.rows, Schema.key x ≠ Schema.key r →
              Schema.clash x r = false := by
            intro x hx hne
            have := h.1 x hx
            simpa [hne] using this
          by_cases hka : Schema.key a = Schema.key r
          · have hkb : Schema.key b ≠ Schema.key r := fun hb' => hab.1 (hka.trans hb'.symm)
            rw [replace_of_key_eq hka, replace_of_key_ne hkb]
            exact Apart.symm ⟨hkb, hClash b hb hkb⟩
          · rw [replace_of_key_ne hka]
            by_cases hkb : Schema.key b = Schema.key r
            · rw [replace_of_key_eq hkb]
              exact ⟨hka, hClash a ha hka⟩
            · rw [replace_of_key_ne hkb]
              exact hab
        checked := by
          rw [Bool.and_eq_true] at h
          intro x hx
          obtain ⟨y, hy, rfl⟩ := List.mem_map.mp hx
          unfold replace
          split
          · exact h.2
          · exact t.checked y hy }
  else none

/-- An inserted row comes first. -/
theorem rows_insert? {t t' : Table ρ} {r : ρ} (h : t.insert? r = some t') :
    t'.rows = r :: t.rows := by
  unfold insert? at h
  split at h
  · obtain rfl := Option.some.inj h
    rfl
  · simp at h

/-- An insert adds its row, and nothing else. -/
theorem mem_insert? {t t' : Table ρ} {r x : ρ} (h : t.insert? r = some t') :
    x ∈ t' ↔ x = r ∨ x ∈ t := by
  rw [← mem_rows, rows_insert? h, List.mem_cons, mem_rows]

/-- An inserted row meets no constraint with those that were there. -/
theorem apart_of_insert? {t t' : Table ρ} {r x : ρ} (h : t.insert? r = some t')
    (hx : x ∈ t) : Apart x r := by
  unfold insert? at h
  split at h
  · rename_i hc
    rw [Bool.and_eq_true, List.all_eq_true] at hc
    exact apart_of_admits (hc.1 x hx)
  · simp at h

/-- An insert goes through when the row is apart from every other and passes its checks. -/
theorem exists_insert? {t : Table ρ} {r : ρ} (hApart : ∀ x ∈ t, Apart x r)
    (hChecks : Schema.checks r = true) : ∃ t', t.insert? r = some t' := by
  unfold insert?
  rw [dif_pos]
  · exact ⟨_, rfl⟩
  · rw [Bool.and_eq_true, List.all_eq_true]
    refine ⟨fun x hx => ?_, hChecks⟩
    obtain ⟨hk, hc⟩ := hApart x hx
    simp [admits, hk, hc]

/-- An update replaces the row with its key, if there is one, and leaves the others. -/
theorem mem_update? {t t' : Table ρ} {r x : ρ} (h : t.update? r = some t') :
    x ∈ t' ↔ (x = r ∧ ∃ y ∈ t, Schema.key y = Schema.key r) ∨
      (x ∈ t ∧ Schema.key x ≠ Schema.key r) := by
  unfold update? at h
  split at h
  · obtain rfl := Option.some.inj h
    simp only [← mem_rows, List.mem_map]
    constructor
    · -- a row after the update is the new one, or was there under another key
      rintro ⟨y, hy, rfl⟩
      by_cases hk : Schema.key y = Schema.key r
      · exact .inl ⟨replace_of_key_eq hk, y, hy, hk⟩
      · rw [replace_of_key_ne hk]
        exact .inr ⟨hy, hk⟩
    · rintro (⟨rfl, y, hy, hk⟩ | ⟨hx, hk⟩)
      · exact ⟨y, hy, replace_of_key_eq hk⟩
      · exact ⟨x, hx, replace_of_key_ne hk⟩
  · simp at h

/-- A selection of rows under other keys is the same after an update. -/
theorem filter_update? {t t' : Table ρ} {r : ρ} {p : ρ → Bool} (h : t.update? r = some t')
    (hOther : ∀ x, Schema.key x = Schema.key r → p x = false) :
    t'.rows.filter p = t.rows.filter p := by
  -- the new row has the key of the one it replaces, so neither passes the filter
  have hReplace : p ∘ replace r = p := by
    funext x
    show p (replace r x) = p x
    by_cases hk : Schema.key x = Schema.key r
    · rw [replace_of_key_eq hk, hOther x hk, hOther r rfl]
    · rw [replace_of_key_ne hk]
  have hKept : ∀ x ∈ t.rows.filter p, replace r x = x := by
    intro x hx
    refine replace_of_key_ne fun hk => ?_
    have hFalse := hOther x hk
    rw [(List.mem_filter.mp hx).2] at hFalse
    exact absurd hFalse (by decide)
  unfold update? at h
  split at h
  · obtain rfl := Option.some.inj h
    show (t.rows.map (replace r)).filter p = t.rows.filter p
    rw [List.filter_map, hReplace, List.map_congr_left hKept, List.map_id']
  · simp at h

/-- The table after a row that it holds was rewritten under its own key. -/
theorem mem_update?_iff {t t' : Table ρ} {old r x : ρ} (h : t.update? r = some t')
    (hOld : old ∈ t) (hk : Schema.key r = Schema.key old) :
    x ∈ t' ↔ x = r ∨ (x ∈ t ∧ Schema.key x ≠ Schema.key old) := by
  rw [mem_update? h, ← hk]
  constructor
  · rintro (⟨rfl, -⟩ | hx)
    · exact .inl rfl
    · exact .inr hx
  · rintro (rfl | hx)
    · exact .inl ⟨rfl, old, hOld, hk.symm⟩
    · exact .inr hx

/-- An update goes through when the row clashes with no other and passes its checks. -/
theorem exists_update? {t : Table ρ} {r : ρ}
    (hClash : ∀ x ∈ t, Schema.key x ≠ Schema.key r → Schema.clash x r = false)
    (hChecks : Schema.checks r = true) : ∃ t', t.update? r = some t' := by
  unfold update?
  rw [dif_pos]
  · exact ⟨_, rfl⟩
  · rw [Bool.and_eq_true, List.all_eq_true]
    refine ⟨fun x hx => ?_, hChecks⟩
    by_cases hk : Schema.key x = Schema.key r
    · simp [hk]
    · simp [hClash x hx hk]

/-- A row under another key is there after an update exactly when it was before. -/
theorem mem_update?_of_ne {t t' : Table ρ} {r x : ρ} (h : t.update? r = some t')
    (hk : Schema.key x ≠ Schema.key r) : x ∈ t' ↔ x ∈ t := by
  rw [mem_update? h]
  constructor
  · rintro (⟨rfl, -⟩ | ⟨hx, -⟩)
    · exact absurd rfl hk
    · exact hx
  · exact fun hx => .inr ⟨hx, hk⟩

/-- The written row is the one its key has after the update. -/
theorem mem_update?_self {t t' : Table ρ} {r y : ρ} (h : t.update? r = some t')
    (hy : y ∈ t) (hk : Schema.key y = Schema.key r) : r ∈ t' :=
  (mem_update? h).mpr (.inl ⟨rfl, y, hy, hk⟩)

/-- After an update the row with its key is the new one. -/
theorem eq_of_mem_update? {t t' : Table ρ} {r x : ρ} (h : t.update? r = some t')
    (hx : x ∈ t') (hk : Schema.key x = Schema.key r) : x = r := by
  rcases (mem_update? h).mp hx with ⟨rfl, -⟩ | ⟨-, hne⟩
  · rfl
  · exact absurd hk hne

-- ---------------------------------------------------------------------------
-- Counting
-- ---------------------------------------------------------------------------

/-- An insert counts its row. -/
theorem count_insert? {t t' : Table ρ} {r : ρ} (p : ρ → Bool) (h : t.insert? r = some t') :
    t'.count p = t.count p + if p r then 1 else 0 := by
  unfold count
  rw [rows_insert? h, List.countP_cons]

/-- Rewriting the one row of a list with a given key moves a count by that row alone. -/
theorem countP_map_replace {rows : List ρ} (hApart : rows.Pairwise Apart) {old r : ρ}
    (p : ρ → Bool) (hOld : old ∈ rows) (hk : Schema.key old = Schema.key r) :
    (rows.map (replace r)).countP p + (if p old then 1 else 0) =
      rows.countP p + if p r then 1 else 0 := by
  induction rows with
  | nil => simp at hOld
  | cons x rest ih =>
    rw [List.pairwise_cons] at hApart
    rw [List.map_cons, List.countP_cons, List.countP_cons]
    rcases List.mem_cons.mp hOld with rfl | hMem
    · -- the head is the rewritten row: no later row has its key
      have hRest : rest.map (replace r) = rest := by
        conv_rhs => rw [← List.map_id rest]
        refine List.map_congr_left fun y hy => ?_
        exact replace_of_key_ne fun hy' => (hApart.1 y hy).1 (hk.trans hy'.symm)
      rw [hRest, replace_of_key_eq hk]
      omega
    · have hx : Schema.key x ≠ Schema.key r := by
        rw [← hk]
        exact (hApart.1 old hMem).1
      rw [replace_of_key_ne hx]
      have := ih hApart.2 hMem
      omega

/-- An update counts the new row in place of the old one. -/
theorem count_update? {t t' : Table ρ} {old r : ρ} (p : ρ → Bool)
    (h : t.update? r = some t') (hOld : old ∈ t) (hk : Schema.key old = Schema.key r) :
    t'.count p + (if p old then 1 else 0) = t.count p + if p r then 1 else 0 := by
  unfold update? at h
  split at h
  · obtain rfl := Option.some.inj h
    exact countP_map_replace t.apart p hOld hk
  · simp at h

end Table

end Relational
