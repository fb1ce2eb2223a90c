import Mathlib.Logic.Basic
import Mathlib.Data.List.Basic

/-!
# Row locks

Which client holds the lock of each row, until its transaction ends. A client may take the
rows that no other client holds, and gives them all back at once.

* `holder_acquire_of_holder` — taking free rows takes none away from anyone;
* `holder_release` — the end of a transaction gives back its own rows alone;
* `getElem?_set_cases` — of a list of clients, only the one that moved changes.
-/

namespace Locking

variable {κ : Type*}

/-- The client that holds each row. -/
structure Locks (κ : Type*) where
  holder : κ → Option Nat

namespace Locks

/-- Nobody holds a row. -/
def empty : Locks κ := ⟨fun _ => none⟩

/-- No client but this one holds the row. -/
def available (l : Locks κ) (k : κ) (i : Nat) : Bool := (l.holder k).all (· == i)

/-- The locks after a client took rows. -/
def acquire [DecidableEq κ] (l : Locks κ) (ks : List κ) (i : Nat) : Locks κ :=
  ⟨fun k => if k ∈ ks then some i else l.holder k⟩

/-- The locks after the transaction of a client ended. -/
def release (l : Locks κ) (i : Nat) : Locks κ :=
  ⟨fun k => if l.holder k = some i then none else l.holder k⟩

variable {l : Locks κ} {k : κ} {i j : Nat}

@[simp] theorem holder_empty : (empty : Locks κ).holder k = none := rfl

/-- A row is free for a client exactly when no other client holds it. -/
theorem available_iff : l.available k i = true ↔ ∀ j, l.holder k = some j → j = i := by
  simp [available, Option.all_eq_true]

theorem holder_acquire_of_mem [DecidableEq κ] {ks : List κ} (h : k ∈ ks) :
    (l.acquire ks i).holder k = some i := if_pos h

theorem holder_acquire_of_not_mem [DecidableEq κ] {ks : List κ} (h : k ∉ ks) :
    (l.acquire ks i).holder k = l.holder k := if_neg h

/-- **Exclusion.** Whoever held a row still does after a client took rows that were
available to it. -/
theorem holder_acquire_of_holder [DecidableEq κ] {ks : List κ}
    (hFree : ∀ k ∈ ks, l.available k i = true) (h : l.holder k = some j) :
    (l.acquire ks i).holder k = some j := by
  by_cases hMem : k ∈ ks
  · -- the lock was free for the client, so whoever holds it is the client
    rw [holder_acquire_of_mem hMem, available_iff.mp (hFree k hMem) j h]
  · rw [holder_acquire_of_not_mem hMem, h]

/-- The end of a transaction gives back its own rows alone. -/
theorem holder_release : (l.release i).holder k = some j ↔ l.holder k = some j ∧ j ≠ i := by
  unfold release
  by_cases h : l.holder k = some i
  · simp only [h, if_true, reduceCtorEq, Option.some.injEq, false_iff, not_and, not_not]
    exact Eq.symm
  · simp only [h, if_false, iff_self_and]
    rintro hj rfl
    exact h hj

end Locks

/-- The rest of a list of clients after one of them moved. -/
theorem getElem?_set_cases {γ : Type*} {clients : List γ} {i j : Nat} {c c' : γ}
    (h : (clients.set i c')[j]? = some c) : (j = i ∧ c = c') ∨ (j ≠ i ∧ clients[j]? = some c) := by
  by_cases hSame : j = i
  · subst hSame
    rw [List.getElem?_set_self'] at h
    -- the client that was set is there only if there was one
    cases hOld : clients[j]? with
    | none => simp [hOld] at h
    | some old =>
      rw [hOld] at h
      exact .inl ⟨rfl, (Option.some.inj h).symm⟩
  · rw [List.getElem?_set_ne (Ne.symm hSame)] at h
    exact .inr ⟨hSame, h⟩

end Locking
