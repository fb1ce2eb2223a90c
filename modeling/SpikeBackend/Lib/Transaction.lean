import SpikeBackend.Lib.Outcome

/-!
# Sessions and their transactions

A session works on a transaction of its own: its statements write `working`, and only
`commit` makes that the committed state. A statement that raises leaves whatever it had
written so far, which is `dirty` here; `rollback`, or the end of the session, gives it up.

* `Transaction.close` — what a session that has not committed leaves is what was committed before;
* `interrupted_eq_ok` — an outcome that no failure has taken the place of.
-/

namespace Outcome

universe u v

variable {ε : Type u} {σ α : Type v}

/-- A session over a database. -/
structure Transaction (σ : Type v) where
  committed : σ
  working : σ

namespace Transaction

/-- A session begins with what is committed. -/
def begin (db : σ) : Transaction σ := ⟨db, db⟩

def commit (t : Transaction σ) : Transaction σ := ⟨t.working, t.working⟩

def rollback (t : Transaction σ) : Transaction σ := ⟨t.committed, t.committed⟩

/-- Statements with an outcome over the working state; where they raise, the writes up to
there stay in the transaction. -/
def execute (t : Transaction σ) (dirty : σ) (outcome : Except ε (σ × α)) :
    Transaction σ × Except ε α :=
  match outcome with
  | .ok (working, a) => ({ t with working }, .ok a)
  | .error e => ({ t with working := dirty }, .error e)

@[simp] theorem execute_ok (t : Transaction σ) (dirty working : σ) (a : α) :
    t.execute dirty (.ok (working, a) : Except ε (σ × α)) = ({ t with working }, .ok a) := rfl

/-- What the database holds once the session has ended. -/
def close (t : Transaction σ) : σ := t.rollback.committed

end Transaction

/-- A failure that takes the place of an outcome. -/
def interrupted {β : Type v} (failure : Option ε) (outcome : Except ε β) : Except ε β :=
  match failure with
  | some e => .error e
  | none => outcome

/-- An outcome is seen only if no failure has taken its place. -/
theorem interrupted_eq_ok {β : Type v} {failure : Option ε} {outcome : Except ε β} {b : β} :
    interrupted failure outcome = .ok b ↔ failure = none ∧ outcome = .ok b := by
  cases failure <;> simp [interrupted]

end Outcome
