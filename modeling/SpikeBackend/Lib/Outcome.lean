import Mathlib.Data.List.Forall2
import Mathlib.Logic.Basic

/-!
# Outcomes of a transaction

A transaction of the modelled services either returns a value or raises. It is
written in `Except`, with two ways of raising: a guard that fails (`ensure`) and a
row that is not there (`required`). The lemmas here read a successful run backwards,
one statement at a time; `commit` is what the caller's `except: rollback; raise`
makes of the outcome.
-/

namespace Outcome

universe u v

variable {ε : Type u} {α β σ : Type v}

/-- `if not c: raise e`. -/
def ensure (c : Prop) [Decidable c] (e : ε) : Except ε Unit :=
  if c then .ok () else .error e

/-- `if x is None: raise e`. -/
def required (o : Option α) (e : ε) : Except ε α :=
  match o with
  | some a => .ok a
  | none => .error e

/-- The state a transaction leaves: its own on success, the old one after a rollback. -/
def commit (s : σ) (r : Except ε (σ × α)) : σ :=
  match r with
  | .ok (s', _) => s'
  | .error _ => s

/-- A check that passes. -/
@[simp] theorem ensure_eq_ok {c : Prop} [Decidable c] {e : ε} {u : Unit} :
    ensure c e = .ok u ↔ c := by
  unfold ensure
  split <;> simp_all

/-- A value that is there. -/
@[simp] theorem required_eq_ok {o : Option α} {e : ε} {a : α} :
    required o e = .ok a ↔ o = some a := by
  unfold required
  split <;> simp_all

theorem ok_bind (a : α) (f : α → Except ε β) : (Except.ok a >>= f) = f a := rfl

theorem required_some (a : α) (e : ε) : required (some a) e = .ok a := rfl

theorem ensure_pos {c : Prop} [Decidable c] (h : c) (e : ε) : ensure c e = .ok () := if_pos h

theorem ensure_neg {c : Prop} [Decidable c] (h : ¬c) (e : ε) : ensure c e = .error e := if_neg h

/-- A computation succeeded exactly when each of its statements did. -/
theorem bind_eq_ok {x : Except ε α} {f : α → Except ε β} {b : β} :
    (x >>= f) = .ok b ↔ ∃ a, x = .ok a ∧ f a = .ok b := by
  cases x with
  | error e => simp [bind, Except.bind]
  | ok a => simp [bind, Except.bind]

/-- A check that raises. -/
@[simp] theorem ensure_eq_error {c : Prop} [Decidable c] {e e' : ε} :
    ensure c e = .error e' ↔ ¬c ∧ e = e' := by
  unfold ensure
  split <;> simp_all

/-- A value that is missing. -/
@[simp] theorem required_eq_error {o : Option α} {e e' : ε} :
    required o e = .error e' ↔ o = none ∧ e = e' := by
  unfold required
  split <;> simp_all

/-- A computation raised exactly when one of its statements did. -/
theorem bind_eq_error {x : Except ε α} {f : α → Except ε β} {e : ε} :
    (x >>= f) = .error e ↔ x = .error e ∨ ∃ a, x = .ok a ∧ f a = .error e := by
  cases x with
  | error e' => simp [bind, Except.bind]
  | ok a => simp [bind, Except.bind]

/-- A computation per element succeeded exactly when each one did. -/
theorem mapM_eq_ok {f : α → Except ε β} {as : List α} {bs : List β} :
    as.mapM f = .ok bs ↔ List.Forall₂ (fun a b => f a = .ok b) as bs := by
  induction as generalizing bs with
  | nil =>
    rw [List.mapM_nil, List.forall₂_nil_left_iff]
    constructor
    · intro h
      exact (Except.ok.inj h).symm
    · rintro rfl
      rfl
  | cons a as ih =>
    rw [List.mapM_cons, bind_eq_ok, List.forall₂_cons_left_iff]
    constructor
    · -- the first outcome, then those of the rest
      rintro ⟨b, hb, hRest⟩
      obtain ⟨bs', hbs, hDone⟩ := bind_eq_ok.mp hRest
      exact ⟨b, bs', hb, ih.mp hbs, (Except.ok.inj hDone).symm⟩
    · rintro ⟨b, bs', hb, hbs, rfl⟩
      refine ⟨b, hb, ?_⟩
      rw [ih.mpr hbs]
      rfl

/-- A computation that can only succeed with a function of its argument, for each argument. -/
theorem mapM_eq_map {f : α → Except ε β} {g : α → β} {as : List α} {bs : List β}
    (h : as.mapM f = .ok bs) (hEach : ∀ a b, f a = .ok b → b = g a) : bs = as.map g := by
  have hAll := (mapM_eq_ok.mp h).imp hEach
  clear h
  induction hAll with
  | nil => rfl
  | cons hb _ ih => rw [List.map_cons, hb, ih]

/-- Each result of a computation per element is that of an element. -/
theorem exists_of_mem_mapM {f : α → Except ε β} {as : List α} {bs : List β}
    (h : as.mapM f = .ok bs) {b : β} (hb : b ∈ bs) : ∃ a ∈ as, f a = .ok b := by
  have hAll := mapM_eq_ok.mp h
  clear h
  induction hAll with
  | nil => exact absurd hb List.not_mem_nil
  | cons hPair _ ih =>
    rcases List.mem_cons.mp hb with rfl | hRest
    · exact ⟨_, List.mem_cons_self, hPair⟩
    · obtain ⟨a, ha, hf⟩ := ih hRest
      exact ⟨a, List.mem_cons_of_mem _ ha, hf⟩

/-- A computation per element succeeds when each one does. -/
theorem exists_mapM_ok {f : α → Except ε β} {as : List α} (hEach : ∀ a ∈ as, ∃ b, f a = .ok b) :
    ∃ bs, as.mapM f = .ok bs := by
  induction as with
  | nil => exact ⟨[], rfl⟩
  | cons a as ih =>
    obtain ⟨b, hb⟩ := hEach a List.mem_cons_self
    obtain ⟨bs, hbs⟩ := ih fun c hc => hEach c (List.mem_cons_of_mem a hc)
    refine ⟨b :: bs, ?_⟩
    rw [List.mapM_cons, hb, hbs]
    rfl

/-- A fold succeeds when every step of it does, whatever the state. -/
theorem exists_foldlM_ok {f : β → α → Except ε β} {as : List α}
    (hStep : ∀ x, ∀ a ∈ as, ∃ x', f x a = .ok x') (b : β) : ∃ b', as.foldlM f b = .ok b' := by
  induction as generalizing b with
  | nil => exact ⟨b, rfl⟩
  | cons a as ih =>
    obtain ⟨x, hx⟩ := hStep b a List.mem_cons_self
    obtain ⟨b', hb'⟩ := ih (fun y c hc => hStep y c (List.mem_cons_of_mem a hc)) x
    refine ⟨b', ?_⟩
    rw [List.foldlM_cons, hx]
    exact hb'

/-- What every step of a successful fold keeps holds of its result. -/
theorem foldlM_induction {P : β → Prop} {f : β → α → Except ε β} {as : List α} {b b' : β}
    (h : as.foldlM f b = .ok b') (hStart : P b)
    (hStep : ∀ x a x', a ∈ as → P x → f x a = .ok x' → P x') : P b' := by
  induction as generalizing b with
  | nil =>
    rw [List.foldlM_nil] at h
    exact Except.ok.inj h ▸ hStart
  | cons a as ih =>
    rw [List.foldlM_cons] at h
    obtain ⟨x, hx, hRest⟩ := bind_eq_ok.mp h
    exact ih hRest (hStep b a x List.mem_cons_self hStart hx)
      fun y c y' hc => hStep y c y' (List.mem_cons_of_mem a hc)

/-- What holds of the elements that a fold has seen and of its state, from the start and after
every step, holds of all of them and of its result. -/
theorem foldlM_history {P : List α → β → Prop} {f : β → α → Except ε β} {as : List α} {b b' : β}
    (h : as.foldlM f b = .ok b') (hStart : P [] b)
    (hStep : ∀ done x a x', a ∈ as → P done x → f x a = .ok x' → P (done ++ [a]) x') : P as b' := by
  -- a fold from the middle, with what is done already as the history
  suffices hRun : ∀ (rest done : List α) (x : β), (∀ a ∈ rest, a ∈ as) → P done x →
      rest.foldlM f x = .ok b' → P (done ++ rest) b' from
    hRun as [] b (fun a ha => ha) hStart h
  intro rest
  induction rest with
  | nil =>
    intro done x _ hP hDone
    rw [List.foldlM_nil] at hDone
    rw [List.append_nil, ← Except.ok.inj hDone]
    exact hP
  | cons a rest ih =>
    intro done x hMem hP hRest
    rw [List.foldlM_cons] at hRest
    obtain ⟨y, hy, hRest⟩ := bind_eq_ok.mp hRest
    have hNext := hStep done x a y (hMem a List.mem_cons_self) hP hy
    have hDone := ih (done ++ [a]) y (fun c hc => hMem c (List.mem_cons_of_mem a hc)) hNext hRest
    rw [List.append_assoc] at hDone
    exact hDone

theorem bind_error {e : ε} {f : α → Except ε β} :
    ((Except.error e : Except ε α) >>= f) = .error e := rfl

theorem bind_ok {a : α} {f : α → Except ε β} :
    ((Except.ok a : Except ε α) >>= f) = f a := rfl

/-- Two computations without their errors. -/
theorem toOption_bind {x : Except ε α} {f : α → Except ε β} :
    (x >>= f).toOption = x.toOption.bind fun a => (f a).toOption := by
  cases x <;> rfl

/-- Up to the error that is raised, a fold whose steps commute does not see their order. -/
theorem foldlM_toOption_perm {f : β → α → Except ε β} {as as' : List α} (hPerm : as.Perm as')
    (hComm : ∀ b x y, (f b x >>= (f · y)).toOption = (f b y >>= (f · x)).toOption) (b : β) :
    (as.foldlM f b).toOption = (as'.foldlM f b).toOption := by
  induction hPerm generalizing b with
  | nil => rfl
  | cons x _ ih =>
    rw [List.foldlM_cons, List.foldlM_cons, toOption_bind, toOption_bind]
    congr 1
    funext y
    exact ih y
  | swap x y as =>
    -- the two steps in front of the rest
    have hSplit : ∀ x y, ((x :: y :: as).foldlM f b).toOption =
        (f b x >>= (f · y)).toOption.bind fun c => (as.foldlM f c).toOption := by
      intro x y
      have hFold : (x :: y :: as).foldlM f b = (f b x >>= (f · y)) >>= as.foldlM f := by
        rw [List.foldlM_cons, bind_assoc]
        congr 1
      rw [hFold, toOption_bind]
    rw [hSplit, hSplit, hComm]
  | trans _ _ ih ih' => exact (ih b).trans (ih' b)

/-- Steps that agree up to the error that they raise make folds that do. -/
theorem foldlM_toOption_congr {f g : β → α → Except ε β} {as : List α}
    (h : ∀ b x, (f b x).toOption = (g b x).toOption) (b : β) :
    (as.foldlM f b).toOption = (as.foldlM g b).toOption := by
  induction as generalizing b with
  | nil => rfl
  | cons x as ih =>
    rw [List.foldlM_cons, List.foldlM_cons, toOption_bind, toOption_bind, h]
    congr 1
    funext y
    exact ih y

/-- An outcome that is no error is a value. -/
theorem exists_ok_of_isOk {x : Except ε α} (h : x.isOk = true) : ∃ a, x = .ok a := by
  cases x with
  | error e => exact Bool.noConfusion h
  | ok a => exact ⟨a, rfl⟩

/-- An outcome whose value is known. -/
theorem eq_ok_of_toOption {x : Except ε α} {a : α} (h : x.toOption = some a) : x = .ok a := by
  cases x with
  | error e => cases h
  | ok b => exact congrArg Except.ok (Option.some.inj h)

@[simp] theorem commit_ok (s s' : σ) (a : α) :
    commit s (.ok (s', a) : Except ε (σ × α)) = s' := rfl

@[simp] theorem commit_error (s : σ) (e : ε) :
    commit s (.error e : Except ε (σ × α)) = s := rfl

/-- What holds of the old state and of every state a success leaves holds after the
transaction, whatever its outcome. -/
theorem commit_induction {P : σ → Prop} {s : σ} {r : Except ε (σ × α)}
    (hError : P s) (hOk : ∀ s' a, r = .ok (s', a) → P s') : P (commit s r) := by
  cases r with
  | error e => exact hError
  | ok p => exact hOk p.1 p.2 rfl

end Outcome
