import Mathlib.Data.List.Sort
import Mathlib.Data.Prod.Lex

/-!
# Stable sorts

`sorted(l, key=key)`: a stable sort by a key, of elements that come in some order.

* `sortBy_eq_of_perm` — where the key tells the elements apart, the order in which they come
  is not seen;
* `pair_sublist_sortBy`, `exists_perm_swap` — where it does not, it is.
-/

namespace Collections

variable {α κ : Type*} [LinearOrder κ]

/-- `sorted(l, key=key)`. -/
def sortBy (key : α → κ) (l : List α) : List α := l.insertionSort fun a b => key a ≤ key b

/-- `max(l, key=key)`: of elements that tie the first one. -/
def maxBy? (key : α → κ) (l : List α) : Option α :=
  l.foldl (fun best x => if best.all fun b => decide (key b < key x) then some x else best) none

/-- The key tells the elements of the list apart. -/
def Separates (key : α → κ) (l : List α) : Prop := ∀ a ∈ l, ∀ b ∈ l, key a = key b → a = b

variable (key : α → κ)

private instance keyTotal : Std.Total fun a b : α => key a ≤ key b :=
  ⟨fun a b => le_total (key a) (key b)⟩

private instance keyTrans : IsTrans α fun a b : α => key a ≤ key b :=
  ⟨fun _ _ _ => le_trans⟩

theorem sortBy_perm (l : List α) : (sortBy key l).Perm l := List.perm_insertionSort _ l

theorem sortBy_pairwise (l : List α) : (sortBy key l).Pairwise fun a b => key a ≤ key b :=
  List.pairwise_insertionSort _ l

theorem mem_sortBy {l : List α} {a : α} : a ∈ sortBy key l ↔ a ∈ l := (sortBy_perm key l).mem_iff

variable {key}

/-- A sort by a key that tells the elements apart does not see their order. -/
theorem sortBy_eq_of_perm {l l' : List α} (hPerm : l.Perm l') (hKey : Separates key l) :
    sortBy key l = sortBy key l' := by
  have hSorted : (sortBy key l).Perm (sortBy key l') :=
    (sortBy_perm key l).trans (hPerm.trans (sortBy_perm key l').symm)
  have hTies : ∀ a b, a ∈ sortBy key l → b ∈ sortBy key l' → key a ≤ key b → key b ≤ key a →
      a = b := by
    intro a b ha hb hab hba
    have hMem : b ∈ l := hPerm.mem_iff.mpr ((mem_sortBy key).mp hb)
    exact hKey a ((mem_sortBy key).mp ha) b hMem (le_antisymm hab hba)
  exact hSorted.eq_of_pairwise hTies (sortBy_pairwise key l) (sortBy_pairwise key l')

/-- Elements that tie stay in the order in which they came. -/
theorem pair_sublist_sortBy {l : List α} {a b : α} (h : List.Sublist [a, b] l)
    (hKey : key a = key b) : List.Sublist [a, b] (sortBy key l) :=
  List.pair_sublist_insertionSort (le_of_eq hKey) h

/-- A list without duplicates does not have two elements in both orders. -/
theorem not_sublist_swap {l : List α} (hNodup : l.Nodup) {a b : α}
    (h : List.Sublist [a, b] l) : ¬List.Sublist [b, a] l := by
  induction l with
  | nil =>
    exact absurd h (by simp)
  | cons c l ih =>
    intro h'
    obtain ⟨hc, hNodup'⟩ := List.nodup_cons.mp hNodup
    rcases List.sublist_cons_iff.mp h with h₁ | ⟨r, hr, h₁⟩
    · rcases List.sublist_cons_iff.mp h' with h₂ | ⟨r', hr', h₂⟩
      · exact ih hNodup' h₁ h₂
      · -- the list begins with `b`, which comes again after `a`
        obtain ⟨rfl, rfl⟩ := List.cons.inj hr'
        exact hc (h₁.subset (by simp))
    · obtain ⟨rfl, rfl⟩ := List.cons.inj hr
      rcases List.sublist_cons_iff.mp h' with h₂ | ⟨r', hr', h₂⟩
      · exact hc (h₂.subset (by simp))
      · obtain ⟨rfl, rfl⟩ := List.cons.inj hr'
        exact hc (h₁.subset (by simp))

/-- Two elements of a list without duplicates can come in two orders. -/
theorem exists_perm_swap {l : List α} {a b : α} (ha : a ∈ l) (hb : b ∈ l) (hne : a ≠ b) :
    ∃ l₁ l₂ : List α, l₁.Perm l ∧ l₂.Perm l ∧ List.Sublist [a, b] l₁ ∧ List.Sublist [b, a] l₂ := by
  obtain ⟨m, hm⟩ : ∃ m, l.Perm (a :: m) := by
    obtain ⟨s, t, rfl⟩ := List.append_of_mem ha
    exact ⟨s ++ t, List.perm_middle⟩
  have hb' : b ∈ m := (List.mem_cons.mp (hm.mem_iff.mp hb)).resolve_left (Ne.symm hne)
  obtain ⟨n, hn⟩ : ∃ n, m.Perm (b :: n) := by
    obtain ⟨s, t, rfl⟩ := List.append_of_mem hb'
    exact ⟨s ++ t, List.perm_middle⟩
  have hFirst : (a :: b :: n).Perm l := (hm.trans (hn.cons a)).symm
  exact ⟨a :: b :: n, b :: a :: n, hFirst, (List.Perm.swap a b n).trans hFirst, by simp, by simp⟩

/-- The maximum is an element. -/
theorem mem_of_maxBy? {key : α → κ} {l : List α} {a : α} (h : maxBy? key l = some a) : a ∈ l := by
  -- what is the best so far is one of the elements that have been seen
  suffices hFold : ∀ (l seen : List α) (best : Option α), (∀ b, best = some b → b ∈ seen) →
      l.foldl (fun best x => if best.all fun b => decide (key b < key x) then some x else best) best =
        some a → a ∈ seen ++ l from
    hFold l [] none nofun h
  intro l
  induction l with
  | nil =>
    intro seen best hBest hDone
    rw [List.append_nil]
    exact hBest a hDone
  | cons x l ih =>
    intro seen best hBest hDone
    have hNext := ih (seen ++ [x]) _ (fun b hb => ?_) hDone
    · rw [List.append_assoc] at hNext
      exact hNext
    · dsimp only at hb
      split at hb
      · obtain rfl := Option.some.inj hb
        exact List.mem_append_right _ (List.mem_singleton_self x)
      · exact List.mem_append_left _ (hBest b hb)

end Collections
