import Mathlib.Logic.Basic

/-!
# Sessions with an identity map

An ORM session keeps one instance per row. A SELECT of a row whose instance the session
still holds, locking or not, answers with that instance as it is; only a row without an
instance is loaded. A flush writes the columns whose value in the instance differs from
the value it was loaded with and leaves the others as they are in the database.

`loaded` is the instance a session holds: `none` before the first load and after a
rollback, which expires it; a commit keeps it.
-/

namespace Session

variable {ρ α : Type*}

/-- What `SELECT ... FOR UPDATE` answers when the database holds `row`. -/
def locked (loaded : Option ρ) (row : ρ) : ρ := loaded.getD row

@[simp] theorem locked_none (row : ρ) : locked none row = row := rfl

/-- A row that the session has loaded keeps the instance's columns. -/
@[simp] theorem locked_some (copy row : ρ) : locked (some copy) row = copy := rfl

/-- A locked read of a row answers with the row, or with the instance that the session holds
of it. -/
theorem locked_filter_cases {loaded : Option ρ} {p : ρ → Bool} {row x : ρ}
    (h : locked (loaded.filter p) row = x) : x = row ∨ (loaded = some x ∧ p x = true) := by
  cases hHeld : loaded.filter p with
  | none => exact .inl (by rw [hHeld] at h; exact h.symm)
  | some y =>
    rw [hHeld] at h
    subst h
    exact .inr (Option.filter_eq_some_iff.mp hHeld)

/-- One column of the flushed row: the value set, if it is not the value loaded. -/
def column [DecidableEq α] (loaded modified row : α) : α :=
  if modified = loaded then row else modified

@[simp] theorem column_same [DecidableEq α] (loaded row : α) :
    column loaded loaded row = row := if_pos rfl

/-- A fresh instance writes what was set. -/
@[simp] theorem column_fresh [DecidableEq α] (modified row : α) :
    column row modified row = modified := by
  unfold column
  split
  · next h => exact h.symm
  · rfl

theorem column_of_ne [DecidableEq α] {loaded modified row : α} (h : modified ≠ loaded) :
    column loaded modified row = modified := if_neg h

/-- A flushed column holds the value set or, where that is the value loaded, the
database's own. -/
theorem column_cases [DecidableEq α] (loaded modified row : α) :
    column loaded modified row = modified ∨
      (modified = loaded ∧ column loaded modified row = row) := by
  unfold column
  split
  · next h => exact .inr ⟨h, rfl⟩
  · exact .inl rfl

end Session
