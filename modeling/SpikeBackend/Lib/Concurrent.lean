import SpikeBackend.Lib.Remote

/-!
# Programs that share a remote store

Several programs work on one store, one call at a time, and others change it in between. What a
program may rely on is an invariant of the store, and that the store only goes up in a preorder;
what it guarantees is the same.

* `Program.Safe.advance`, `Program.Safe.stable` — what a call, and a change by another, leaves of
  what is known of a program;
* `Program.safe_call`, `Program.Safe.bind`, `Program.Safe.mapError` — how it is established.
-/

namespace Remote

namespace Program

variable {σ ε δ α β : Type}

/-- The next call of a program under a fate: what is left of the program, and the store. -/
def advance : Program σ ε α → σ → Fate → Program σ ε α × σ
  | .done outcome, s, _ => (.done outcome, s)
  | .call _ update next, s, .answered => (next s, update s)
  | .call error _ _, s, .refused => (.done (.error error), s)
  | .call error update _, s, .lost => (.done (.error error), update s)

/-- What a program ended with. -/
def outcome? : Program σ ε α → Option (Except ε α)
  | .done outcome => some outcome
  | .call .. => none

/-- The program with its errors translated. -/
def mapError (f : ε → δ) : Program σ ε α → Program σ δ α
  | .done (.ok a) => .done (.ok a)
  | .done (.error e) => .done (.error (f e))
  | .call error update next => .call (f error) update fun s => (next s).mapError f

variable [Preorder σ] {I : σ → Prop} {Q : Except ε α → σ → Prop}

-- ---------------------------------------------------------------------------
-- What is known of a program
-- ---------------------------------------------------------------------------

/-- Whatever others do in between: every call of the program keeps the invariant and goes up, and
its outcome meets the postcondition, then and after any further change. -/
def Safe (I : σ → Prop) (Q : Except ε α → σ → Prop) : Program σ ε α → σ → Prop
  | .done outcome, s => ∀ t, I t → s ≤ t → Q outcome t
  | .call error update next, s => ∀ t, I t → s ≤ t →
    (I (update t) ∧ t ≤ update t) ∧ (∀ u, I u → t ≤ u → Q (.error error) u) ∧
      (next t).Safe I Q (update t)

/-- A change by another. -/
theorem Safe.stable {p : Program σ ε α} {s t : σ} (h : p.Safe I Q s) (hChange : s ≤ t) :
    p.Safe I Q t := by
  cases p with
  | done outcome => exact fun u hInv hNext => h u hInv (hChange.trans hNext)
  | call error update next => exact fun u hInv hNext => h u hInv (hChange.trans hNext)

/-- What is known under the invariant at every later time. -/
theorem safe_of_later {p : Program σ ε α} {s : σ} (h : ∀ t, I t → s ≤ t → p.Safe I Q t) :
    p.Safe I Q s := by
  cases p with
  | done outcome => exact fun t hInv hChange => h t hInv hChange t hInv le_rfl
  | call error update next => exact fun t hInv hChange => h t hInv hChange t hInv le_rfl

/-- **A call.** Whatever becomes of it, the invariant holds again, the store has gone up, and as
much is known of what is left of the program. -/
theorem Safe.advance {p : Program σ ε α} {s : σ} (h : p.Safe I Q s) (hInv : I s) (fate : Fate) :
    I (p.advance s fate).2 ∧ s ≤ (p.advance s fate).2 ∧
      (p.advance s fate).1.Safe I Q (p.advance s fate).2 := by
  cases p with
  | done outcome => exact ⟨hInv, le_rfl, h⟩
  | call error update next =>
    obtain ⟨⟨hNext, hChange⟩, hError, hRest⟩ := h s hInv le_rfl
    cases fate with
    | answered => exact ⟨hNext, hChange, hRest⟩
    | refused => exact ⟨hInv, le_rfl, hError⟩
    | lost => exact ⟨hNext, hChange, fun u hu hLater => hError u hu (hChange.trans hLater)⟩

/-- A program that has ended meets the postcondition. -/
theorem Safe.of_outcome {p : Program σ ε α} {s : σ} (h : p.Safe I Q s) (hInv : I s)
    {outcome : Except ε α} (hDone : p.outcome? = some outcome) : Q outcome s := by
  cases p with
  | done o =>
    obtain rfl := Option.some.inj hDone
    exact h s hInv le_rfl
  | call error update next => exact absurd hDone (Option.some_ne_none outcome).symm

-- ---------------------------------------------------------------------------
-- How it is established
-- ---------------------------------------------------------------------------

/-- What a program returns, and the kind of its errors. -/
def Ends (ok : α → σ → Prop) (failure : ε → Prop) : Except ε α → σ → Prop
  | .ok a, s => ok a s
  | .error e, _ => failure e

variable {ok : α → σ → Prop} {ok' : β → σ → Prop} {failure : ε → Prop}

/-- A program that has ended is safe if its result stays right under every later change. -/
theorem safe_pure {s : σ} {a : α} (h : ∀ t, I t → s ≤ t → ok a t) :
    (pure a : Program σ ε α).Safe I (Ends ok failure) s := h

/-- A statement that does not call. -/
theorem safe_monadLift {s : σ} {x : Except ε α} (hOk : ∀ a, x = .ok a → ∀ t, I t → s ≤ t → ok a t)
    (hError : ∀ e, x = .error e → failure e) :
    (monadLift x : Program σ ε α).Safe I (Ends ok failure) s := by
  cases x with
  | ok a => exact hOk a rfl
  | error e => exact fun t hInv hChange => hError e rfl

/-- A statement that does not call, and what follows its value. -/
theorem safe_monadLift_bind {s : σ} {x : Except ε α} {f : α → Program σ ε β}
    (hNext : ∀ a, x = .ok a → (f a).Safe I (Ends ok' failure) s)
    (hError : ∀ e, x = .error e → failure e) :
    ((monadLift x : Program σ ε α) >>= f).Safe I (Ends ok' failure) s := by
  cases x with
  | ok a => exact hNext a rfl
  | error e => exact fun t hInv hChange => hError e rfl

/-- A check, and what follows when it passes. -/
theorem safe_ensure_bind {s : σ} {c : Prop} [Decidable c] {e : ε} {f : Unit → Program σ ε β}
    (hNext : c → (f ()).Safe I (Ends ok' failure) s) (hError : failure e) :
    ((monadLift (Outcome.ensure c e) : Program σ ε Unit) >>= f).Safe I (Ends ok' failure) s := by
  refine safe_monadLift_bind (fun _ hChecked => hNext (Outcome.ensure_eq_ok.mp hChecked)) ?_
  intro e' he
  rw [← (Outcome.ensure_eq_error.mp he).2]
  exact hError

/-- A call and what follows its answer. -/
theorem safe_call {error : ε} {update : σ → σ} {next : σ → Program σ ε α} {s : σ}
    (hKeeps : ∀ t, I t → I (update t) ∧ t ≤ update t) (hError : failure error)
    (hNext : ∀ t, I t → s ≤ t → (next t).Safe I (Ends ok failure) (update t)) :
    (call error update next).Safe I (Ends ok failure) s :=
  fun t hInv hChange => ⟨hKeeps t hInv, fun _ _ _ => hError, hNext t hInv hChange⟩

/-- What follows from the postcondition later on. -/
theorem Safe.imp {p : Program σ ε α} {s : σ} (h : p.Safe I (Ends ok failure) s)
    {ok' : α → σ → Prop} (hOk : ∀ a t, s ≤ t → ok a t → ok' a t) :
    p.Safe I (Ends ok' failure) s := by
  induction p generalizing s with
  | done outcome =>
    cases outcome with
    | ok a => exact fun t hInv hChange => hOk a t hChange (h t hInv hChange)
    | error e => exact h
  | call error update next ih =>
    intro t hInv hChange
    obtain ⟨hKept, hFailed, hRest⟩ := h t hInv hChange
    exact ⟨hKept, hFailed, ih t hRest fun a u hLater => hOk a u ((hChange.trans hKept.2).trans hLater)⟩

/-- **Sequence.** The second program starts where the first one has left something, later on. -/
theorem Safe.bind {p : Program σ ε α} {s : σ} (h : p.Safe I (Ends ok failure) s)
    {f : α → Program σ ε β}
    (hNext : ∀ a t, I t → s ≤ t → ok a t → (f a).Safe I (Ends ok' failure) t) :
    (p >>= f).Safe I (Ends ok' failure) s := by
  induction p generalizing s with
  | done outcome =>
    cases outcome with
    -- the result is used only after other programs have moved on
    | ok a => exact safe_of_later fun t hInv hChange => hNext a t hInv hChange (h t hInv hChange)
    | error e => exact h
  | call error update next ih =>
    intro t hInv hChange
    obtain ⟨hKept, hFailed, hRest⟩ := h t hInv hChange
    exact ⟨hKept, hFailed, ih t hRest fun a u hu hLater =>
      hNext a u hu ((hChange.trans hKept.2).trans hLater)⟩

/-- A program with its errors translated. -/
theorem Safe.mapError {f : ε → δ} {failure : δ → Prop} {p : Program σ ε α} {s : σ}
    (h : p.Safe I (Ends ok fun e => failure (f e)) s) :
    (p.mapError f).Safe I (Ends ok failure) s := by
  induction p generalizing s with
  | done outcome =>
    cases outcome with
    | ok a => exact h
    | error e => exact h
  | call error update next ih =>
    intro t hInv hChange
    obtain ⟨hKept, hFailed, hRest⟩ := h t hInv hChange
    exact ⟨hKept, hFailed, ih t hRest⟩

end Program

end Remote
