import Mathlib.Data.Prod.Lex

/-!
# Last-writer-wins registers

A register that takes writes in any order and keeps the one with the greatest key; a write
whose key equals the stored one replaces it.

* `Holds.write` — a register holds one of the newest of its writes;
* `le_write` — the stored key never decreases;
* `Holds.eq_of_greatest` — with one write to each key, the order and the repetitions of the
  writes do not show.
-/

namespace Register

variable {α κ : Type*} [LinearOrder κ] (key : α → κ)

/-- A write: a newer content stays. -/
def write (stored : Option α) (new : α) : Option α :=
  match stored with
  | none => some new
  | some old => if key new < key old then some old else some new

/-- What a register holds that took the given writes. -/
structure Holds (writes : List α) (stored : Option α) : Prop where
  written : ∀ a, stored = some a → a ∈ writes
  newest : ∀ b ∈ writes, ∃ a, stored = some a ∧ key b ≤ key a

variable {key} {writes : List α} {stored : Option α}

/-- Nothing written, nothing stored. -/
theorem Holds.empty : Holds key ([] : List α) none where
  written _ h := nomatch h
  newest b hb := absurd hb (by simp)

/-- The stored key never decreases. -/
theorem le_write {a : α} (hStored : stored = some a) (new : α) :
    ∃ b, write key stored new = some b ∧ key a ≤ key b ∧ key new ≤ key b := by
  subst hStored
  unfold write
  dsimp only
  split
  · next hOlder => exact ⟨a, rfl, le_refl _, le_of_lt hOlder⟩
  · next hNewer => exact ⟨new, rfl, not_lt.mp hNewer, le_refl _⟩

/-- **Step lemma.** -/
theorem Holds.write (h : Holds key writes stored) (new : α) :
    Holds key (new :: writes) (write key stored new) := by
  cases hStored : stored with
  | none =>
    refine ⟨fun a ha => ?_, fun b hb => ⟨new, rfl, ?_⟩⟩
    · obtain rfl := Option.some.inj ha
      exact List.mem_cons_self
    · rcases List.mem_cons.mp hb with rfl | hb
      · exact le_refl _
      · obtain ⟨a, ha, -⟩ := h.newest b hb
        cases hStored.symm.trans ha
  | some old =>
    -- the write keeps the one with the greater key, so it bounds both
    obtain ⟨kept, hKept, hOld, hNew⟩ := @le_write _ _ _ key _ _ (show some old = some old from rfl) new
    refine ⟨fun a ha => ?_, fun b hb => ⟨kept, hKept, ?_⟩⟩
    · unfold Register.write at ha
      dsimp only at ha
      split at ha
      · exact List.mem_cons_of_mem _ (h.written a (hStored.trans ha))
      · obtain rfl := Option.some.inj ha
        exact List.mem_cons_self
    · rcases List.mem_cons.mp hb with rfl | hb
      · exact hNew
      · obtain ⟨a, ha, hLe⟩ := h.newest b hb
        obtain rfl := Option.some.inj (hStored.symm.trans ha)
        exact hLe.trans hOld

/-- **Order does not show.** Of writes with distinct keys the register holds the greatest. -/
theorem Holds.eq_of_greatest (h : Holds key writes stored)
    (hDistinct : ∀ a ∈ writes, ∀ b ∈ writes, key a = key b → a = b) {last : α}
    (hLast : last ∈ writes) (hGreatest : ∀ b ∈ writes, key b ≤ key last) :
    stored = some last := by
  obtain ⟨a, hStored, hLe⟩ := h.newest last hLast
  have hWritten := h.written a hStored
  rw [hStored, hDistinct a hWritten last hLast (le_antisymm (hGreatest a hWritten) hLe)]

end Register
