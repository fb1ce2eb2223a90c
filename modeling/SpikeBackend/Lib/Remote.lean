import SpikeBackend.Lib.Outcome
import Mathlib.Order.Basic

/-!
# Programs over a remote store

A program that works on a store behind a network. What a call does to the store stays done when
a later call fails, or when the answer of the call itself is lost; no rollback reaches it.

* `Program.store_eq_iff` — a run leaves a store that can only decrease as it was exactly when no
  more calls are carried out than come before the first change;
* `Program.firstChange_bind` — where a sequence of two programs changes the store first;
* `Program.run_lost` — a call that changes the store can lose its answer.
-/

namespace Remote

-- ---------------------------------------------------------------------------
-- Programs
-- ---------------------------------------------------------------------------

/-- What becomes of a call: it is answered, it is not carried out, or it is carried out and the
answer does not arrive. -/
inductive Fate
  | answered
  | refused
  | lost
  deriving DecidableEq

/-- A program is done, or calls: with the error that a failure of the call raises, what the call
makes of the store, and what the program does upon the answer, which is read off the store. -/
inductive Program (σ ε α : Type)
  | done (outcome : Except ε α)
  | call (error : ε) (update : σ → σ) (next : σ → Program σ ε α)

namespace Program

variable {σ ε α β : Type}

/-- One program, and another one upon its value. -/
def andThen : Program σ ε α → (α → Program σ ε β) → Program σ ε β
  | .done (.ok a), f => f a
  | .done (.error e), _ => .done (.error e)
  | .call error update next, f => .call error update fun s => (next s).andThen f

instance : Monad (Program σ ε) where
  pure a := .done (.ok a)
  bind := andThen

/-- Statements that do not call. -/
instance : MonadLift (Except ε) (Program σ ε) where
  monadLift := .done

/-- A single call. -/
def request (error : ε) (answer : σ → α) (update : σ → σ) : Program σ ε α :=
  .call error update fun s => .done (.ok (answer s))

/-- The outcome of a program and the store that it leaves, when its calls meet some fates; calls
beyond these are answered. -/
def run : Program σ ε α → σ → List Fate → Except ε α × σ
  | .done outcome, s, _ => (outcome, s)
  | .call _ update next, s, [] => (next s).run (update s) []
  | .call _ update next, s, .answered :: fates => (next s).run (update s) fates
  | .call error _ _, s, .refused :: _ => (.error error, s)
  | .call error update _, s, .lost :: _ => (.error error, update s)

/-- The number of calls when each is answered. -/
def calls : Program σ ε α → σ → Nat
  | .done _, _ => 0
  | .call _ update next, s => (next s).calls (update s) + 1

open Classical in
/-- The number of answered calls before the first one that changes the store. -/
noncomputable def firstChange : Program σ ε α → σ → Option Nat
  | .done _, _ => none
  | .call _ update next, s =>
    if update s = s then ((next s).firstChange s).map (· + 1) else some 0

/-- Every failure of a call raises an error of one kind. -/
def Errors (P : ε → Prop) : Program σ ε α → Prop
  | .done _ => True
  | .call error _ next => P error ∧ ∀ s, (next s).Errors P

/-- No call lets the store grow. -/
def Decreasing [LE σ] : Program σ ε α → Prop
  | .done _ => True
  | .call _ update next => (∀ s, update s ≤ s) ∧ ∀ s, (next s).Decreasing

end Program

/-- The number of calls that are carried out before the first failure, if there is one. -/
def carriedOut : List Fate → Option Nat
  | [] => none
  | .answered :: fates => (carriedOut fates).map (· + 1)
  | .refused :: _ => some 0
  | .lost :: _ => some 1

-- ---------------------------------------------------------------------------
-- Sequences
-- ---------------------------------------------------------------------------

namespace Program

variable {σ ε α β : Type}

theorem monadLift_eq (x : Except ε α) : (monadLift x : Program σ ε α) = .done x := rfl

/-- A program that has ended with a value goes on with the next one. -/
theorem done_ok_bind (a : α) (f : α → Program σ ε β) : (.done (.ok a) >>= f) = f a := rfl

theorem done_error_bind (e : ε) (f : α → Program σ ε β) :
    (.done (.error e) >>= f) = .done (.error e) := rfl

/-- The first call of a sequence is that of its first program. -/
theorem call_bind (error : ε) (update : σ → σ) (next : σ → Program σ ε α)
    (f : α → Program σ ε β) :
    (.call error update next >>= f) = .call error update fun s => next s >>= f := rfl

/-- A call that only reads. -/
theorem firstChange_read (error : ε) (next : σ → Program σ ε α) (s : σ) :
    (call error id next).firstChange s = ((next s).firstChange s).map (· + 1) := by
  rw [firstChange, if_pos (id_eq s)]

/-- The errors of a sequence are those of its parts. -/
theorem Errors.bind {P : ε → Prop} {p : Program σ ε α} (h : p.Errors P) {f : α → Program σ ε β}
    (hf : ∀ a, (f a).Errors P) : (p >>= f).Errors P := by
  induction p with
  | done outcome =>
    cases outcome with
    | ok a => exact hf a
    | error e => exact trivial
  | call error update next ih => exact ⟨h.1, fun s => ih s (h.2 s)⟩

/-- A sequence of programs that only delete only deletes. -/
theorem Decreasing.bind [LE σ] {p : Program σ ε α} (h : p.Decreasing) {f : α → Program σ ε β}
    (hf : ∀ a, (f a).Decreasing) : (p >>= f).Decreasing := by
  induction p with
  | done outcome =>
    cases outcome with
    | ok a => exact hf a
    | error e => exact trivial
  | call error update next ih => exact ⟨h.1, fun s => ih s (h.2 s)⟩

/-- A program that changes nothing does not do so in its first call, nor after it. -/
theorem quiet_call {error : ε} {update : σ → σ} {next : σ → Program σ ε α} {s : σ}
    (h : (call error update next).firstChange s = none) :
    update s = s ∧ (next s).firstChange s = none := by
  rw [firstChange] at h
  split at h
  · next hSame => exact ⟨hSame, Option.map_eq_none_iff.mp h⟩
  · exact absurd h (Option.some_ne_none 0)

/-- A program that changes nothing and yields a value moves the first change of the next one
back by the number of its calls. -/
theorem firstChange_bind {p : Program σ ε α} {s : σ} {a : α} (hQuiet : p.firstChange s = none)
    (hValue : (p.run s []).1 = .ok a) (f : α → Program σ ε β) :
    (p >>= f).firstChange s = ((f a).firstChange s).map (· + p.calls s) := by
  induction p generalizing s with
  | done outcome =>
    obtain rfl : outcome = .ok a := hValue
    show (f a).firstChange s = ((f a).firstChange s).map (· + 0)
    rw [show (fun n : Nat => n + 0) = id from rfl, Option.map_id, id_eq]
  | call error update next ih =>
    -- the first call changes nothing, so the rest starts from the same store
    obtain ⟨hSame, hQuiet⟩ := quiet_call hQuiet
    rw [run, hSame] at hValue
    rw [call_bind, firstChange, if_pos hSame, ih s hQuiet hValue, Option.map_map, calls, hSame]
    congr 1

/-- What follows a change does not move it. -/
theorem firstChange_bind_of_some {p : Program σ ε α} {s : σ} {k : Nat}
    (h : p.firstChange s = some k) (f : α → Program σ ε β) :
    (p >>= f).firstChange s = some k := by
  induction p generalizing s k with
  | done outcome => exact absurd h (by simp [firstChange])
  | call error update next ih =>
    rw [firstChange] at h
    rw [call_bind, firstChange]
    split at h
    · next hSame =>
      obtain ⟨j, hj, rfl⟩ := Option.map_eq_some_iff.mp h
      rw [if_pos hSame, ih s hj]
      rfl
    · -- the change is here, and what follows does not matter
      next hChange =>
      rw [if_neg hChange]
      exact h

/-- Nothing follows a program that raises. -/
theorem firstChange_bind_of_error {p : Program σ ε α} {s : σ} {e : ε}
    (hQuiet : p.firstChange s = none) (hError : (p.run s []).1 = .error e)
    (f : α → Program σ ε β) : (p >>= f).firstChange s = none := by
  induction p generalizing s with
  | done outcome =>
    obtain rfl : outcome = .error e := hError
    rfl
  | call error update next ih =>
    obtain ⟨hSame, hQuiet⟩ := quiet_call hQuiet
    rw [run, hSame] at hError
    rw [call_bind, firstChange, if_pos hSame, ih s hQuiet hError]
    rfl

/-- A last statement that does not call. -/
theorem firstChange_bind_done (p : Program σ ε α) (s : σ) (f : α → Except ε β) :
    (p >>= fun a => .done (f a)).firstChange s = p.firstChange s := by
  induction p generalizing s with
  | done outcome =>
    cases outcome with
    | ok a => rfl
    | error e => rfl
  | call error update next ih =>
    rw [call_bind, firstChange, firstChange, ih]

-- ---------------------------------------------------------------------------
-- What a run leaves
-- ---------------------------------------------------------------------------

/-- A run of a program that only deletes leaves no more than there was. -/
theorem Decreasing.run_le [PartialOrder σ] {p : Program σ ε α} (h : p.Decreasing) (s : σ)
    (fates : List Fate) : (p.run s fates).2 ≤ s := by
  induction p generalizing s fates with
  | done outcome => exact le_refl s
  | call error update next ih =>
    have hRest := fun fates => (ih s (h.2 s) (update s) fates).trans (h.1 s)
    match fates with
    | [] => exact hRest []
    | .answered :: fates => exact hRest fates
    | .refused :: _ => exact le_refl s
    | .lost :: _ => exact h.1 s

/-- **What a run leaves.** A store that can only decrease is as it was exactly when no more calls
are carried out than come before the first change. -/
theorem store_eq_iff [PartialOrder σ] {p : Program σ ε α} (h : p.Decreasing) (s : σ)
    (fates : List Fate) :
    (p.run s fates).2 = s ↔
      ∀ k, p.firstChange s = some k → ∃ j, carriedOut fates = some j ∧ j ≤ k := by
  induction p generalizing s fates with
  | done outcome => simp [run, firstChange]
  | call error update next ih =>
    by_cases hSame : update s = s
    · -- the call changes nothing: one call more on both sides
      rw [firstChange, if_pos hSame]
      have hShift : ∀ c : Option Nat,
          (∀ k, ((next s).firstChange s).map (· + 1) = some k →
            ∃ j, c.map (· + 1) = some j ∧ j ≤ k) ↔
          ∀ k, (next s).firstChange s = some k → ∃ j, c = some j ∧ j ≤ k := by
        intro c
        constructor
        · intro hAll k hk
          obtain ⟨j, hj, hle⟩ := hAll (k + 1) (by rw [hk]; rfl)
          obtain ⟨i, rfl, rfl⟩ := Option.map_eq_some_iff.mp hj
          exact ⟨i, rfl, by omega⟩
        · intro hAll k hk
          obtain ⟨i, hi, rfl⟩ := Option.map_eq_some_iff.mp hk
          obtain ⟨j, rfl, hle⟩ := hAll i hi
          exact ⟨j + 1, rfl, by omega⟩
      match fates with
      | [] =>
        rw [run, hSame]
        exact (ih s (h.2 s) s []).trans (hShift none).symm
      | .answered :: fates =>
        rw [run, hSame]
        exact (ih s (h.2 s) s fates).trans (hShift (carriedOut fates)).symm
      | .refused :: _ => exact iff_of_true rfl fun k _ => ⟨0, rfl, Nat.zero_le k⟩
      | .lost :: _ =>
        refine iff_of_true hSame fun k hk => ?_
        obtain ⟨i, -, rfl⟩ := Option.map_eq_some_iff.mp hk
        exact ⟨1, rfl, by omega⟩
    · -- the call changes the store: nothing brings it back
      rw [firstChange, if_neg hSame]
      have hGone : ∀ fates, ((next s).run (update s) fates).2 ≠ s := by
        intro fates hBack
        have hle : s ≤ update s := by
          have hRun := (h.2 s).run_le (update s) fates
          rwa [hBack] at hRun
        exact hSame (le_antisymm (h.1 s) hle)
      match fates with
      | [] =>
        refine iff_of_false (hGone []) fun hAll => ?_
        obtain ⟨j, hj, -⟩ := hAll 0 rfl
        exact absurd hj (Option.some_ne_none j).symm
      | .answered :: fates =>
        refine iff_of_false (hGone fates) fun hAll => ?_
        obtain ⟨j, hj, hle⟩ := hAll 0 rfl
        obtain ⟨i, -, rfl⟩ := Option.map_eq_some_iff.mp hj
        omega
      | .refused :: _ =>
        refine iff_of_true rfl fun k _ => ⟨0, rfl, Nat.zero_le k⟩
      | .lost :: _ =>
        refine iff_of_false hSame fun hAll => ?_
        obtain ⟨j, hj, hle⟩ := hAll 0 rfl
        obtain rfl := Option.some.inj hj
        omega

/-- **A lost answer.** The call that changes the store first can fail afterwards. -/
theorem run_lost {P : ε → Prop} {p : Program σ ε α} (hErrors : p.Errors P) {s : σ} {k : Nat}
    (h : p.firstChange s = some k) :
    ∃ e, P e ∧ (p.run s (List.replicate k .answered ++ [.lost])).1 = .error e := by
  induction p generalizing s k with
  | done outcome => exact absurd h (by simp [firstChange])
  | call error update next ih =>
    rw [firstChange] at h
    split at h
    · next hSame =>
      obtain ⟨j, hj, rfl⟩ := Option.map_eq_some_iff.mp h
      obtain ⟨e, he, hRun⟩ := ih s (hErrors.2 s) hj
      refine ⟨e, he, ?_⟩
      rw [List.replicate_succ, List.cons_append, run, hSame]
      exact hRun
    · -- this call changes the store, and its answer is lost
      obtain rfl := Option.some.inj h
      exact ⟨error, hErrors.1, rfl⟩

end Program

/-- A lost call is carried out. -/
theorem carriedOut_lost (k : Nat) :
    carriedOut (List.replicate k .answered ++ [.lost]) = some (k + 1) := by
  induction k with
  | zero => rfl
  | succ k ih =>
    rw [List.replicate_succ, List.cons_append, carriedOut, ih]
    rfl

end Remote
