import Mathlib.Data.List.Basic

/-!
# State machines and their runs

A machine is a total step function `step : σ → α → σ` over actions `α`; an action
that is not enabled leaves the state as it is, so every list of actions is a run and
"for every interleaving" is "for every list". What one step preserves, a whole run
preserves (`run_invariant`); what one step preserves on a condition, every run whose
steps all meet the condition preserves (`run_invariant_of_meets`); what holds of one step under the invariant holds of
every step (`meets_of_meets`); and a preorder that every step respects relates the ends of
a run (`run_related`, `run_related_of_meets`).
-/

namespace Machine

variable {σ α : Type*} (step : σ → α → σ)

/-- The state after a list of actions. -/
def run (s : σ) (as : List α) : σ := as.foldl step s

@[simp] theorem run_nil (s : σ) : run step s [] = s := rfl

@[simp] theorem run_cons (s : σ) (a : α) (as : List α) :
    run step s (a :: as) = run step (step s a) as := rfl

/-- A run of two parts. -/
theorem run_append (s : σ) (as bs : List α) :
    run step s (as ++ bs) = run step (run step s as) bs :=
  List.foldl_append

/-- Every action of the list is taken in a state that meets the condition for it. -/
def Meets (cond : σ → α → Prop) : σ → List α → Prop
  | _, [] => True
  | s, a :: as => cond s a ∧ Meets cond (step s a) as

instance Meets.instDecidable {cond : σ → α → Prop} [∀ s a, Decidable (cond s a)] :
    ∀ (s : σ) (as : List α), Decidable (Meets step cond s as)
  | _, [] => inferInstanceAs (Decidable True)
  | s, a :: as =>
    have : Decidable (Meets step cond (step s a) as) := instDecidable (step s a) as
    inferInstanceAs (Decidable (cond s a ∧ Meets step cond (step s a) as))

@[simp] theorem meets_nil (cond : σ → α → Prop) (s : σ) : Meets step cond s [] := trivial

@[simp] theorem meets_cons (cond : σ → α → Prop) (s : σ) (a : α) (as : List α) :
    Meets step cond s (a :: as) ↔ cond s a ∧ Meets step cond (step s a) as := Iff.rfl

/-- A condition on every step of two parts. -/
theorem meets_append (cond : σ → α → Prop) (s : σ) (as bs : List α) :
    Meets step cond s (as ++ bs) ↔
      Meets step cond s as ∧ Meets step cond (run step s as) bs := by
  induction as generalizing s with
  | nil => simp
  | cons a as ih => simp [ih, and_assoc]

/-- A condition on the actions alone. -/
theorem meets_of_forall {cond : σ → α → Prop} (s : σ) {as : List α}
    (h : ∀ a ∈ as, ∀ s, cond s a) : Meets step cond s as := by
  induction as generalizing s with
  | nil => trivial
  | cons a as ih =>
    exact ⟨h a List.mem_cons_self s, ih _ fun b hb => h b (List.mem_cons_of_mem a hb)⟩

variable {step}

/-- **Invariant rule.** What every step preserves, every run preserves. -/
theorem run_invariant {I : σ → Prop} (hStep : ∀ s a, I s → I (step s a))
    {s : σ} (hs : I s) (as : List α) : I (run step s as) := by
  induction as generalizing s with
  | nil => exact hs
  | cons a as ih => exact ih (hStep s a hs)

/-- **Conditional invariant rule.** What every step that meets the condition
preserves, every run whose steps all meet it preserves. -/
theorem run_invariant_of_meets {I : σ → Prop} {cond : σ → α → Prop}
    (hStep : ∀ s a, I s → cond s a → I (step s a))
    {s : σ} (hs : I s) {as : List α} (hMeets : Meets step cond s as) :
    I (run step s as) := by
  induction as generalizing s with
  | nil => exact hs
  | cons a as ih => exact ih (hStep s a hs hMeets.1) hMeets.2

/-- **Step property rule.** What holds of every step that meets the condition, taken
under an invariant, holds of every step of a run whose steps all meet it. -/
theorem meets_of_meets {I : σ → Prop} {cond prop : σ → α → Prop}
    (hStep : ∀ s a, I s → cond s a → I (step s a)) (hProp : ∀ s a, I s → cond s a → prop s a)
    {s : σ} (hs : I s) {as : List α} (hMeets : Meets step cond s as) :
    Meets step prop s as := by
  -- the invariant is what makes the condition of one step give its property
  induction as generalizing s with
  | nil => trivial
  | cons a as ih => exact ⟨hProp s a hs hMeets.1, ih (hStep s a hs hMeets.1) hMeets.2⟩

/-- **Relational rule.** A preorder that every step respects, under an invariant,
relates the start and the end of a run. -/
theorem run_related {I : σ → Prop} {R : σ → σ → Prop}
    (hRefl : ∀ s, R s s) (hTrans : ∀ s t u, R s t → R t u → R s u)
    (hInv : ∀ s a, I s → I (step s a)) (hStep : ∀ s a, I s → R s (step s a))
    {s : σ} (hs : I s) (as : List α) : R s (run step s as) := by
  -- the first step is related by `hStep`, and the rest from its own start
  induction as generalizing s with
  | nil => exact hRefl s
  | cons a as ih => exact hTrans _ _ _ (hStep s a hs) (ih (hInv s a hs))

/-- **Conditional relational rule.** A preorder that every step that meets the condition
respects relates the start and the end of a run whose steps all meet it. -/
theorem run_related_of_meets {I : σ → Prop} {cond : σ → α → Prop} {R : σ → σ → Prop}
    (hRefl : ∀ s, R s s) (hTrans : ∀ s t u, R s t → R t u → R s u)
    (hInv : ∀ s a, I s → cond s a → I (step s a))
    (hStep : ∀ s a, I s → cond s a → R s (step s a))
    {s : σ} (hs : I s) {as : List α} (hMeets : Meets step cond s as) : R s (run step s as) := by
  induction as generalizing s with
  | nil => exact hRefl s
  | cons a as ih =>
    exact hTrans _ _ _ (hStep s a hs hMeets.1) (ih (hInv s a hs hMeets.1) hMeets.2)

end Machine
