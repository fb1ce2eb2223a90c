import Mathlib.Data.List.Infix

/-!
# Searching in separated texts

A needle that does not contain a separator and occurs in a text occurs on one side of the
separator.

* `prefix_of_prefix_append` — a needle at the front ends before the separator;
* `infix_append_cons_iff` — a needle anywhere.
-/

namespace Search

variable {α : Type*} {needle a b : List α} {c : α}

/-- A needle without the separator that starts before it ends before it. -/
theorem prefix_of_prefix_append (hNeedle : c ∉ needle) (h : needle <+: a ++ c :: b) :
    needle <+: a := by
  rcases List.prefix_or_prefix_of_prefix h (List.prefix_append a (c :: b)) with hIn | ⟨t, rfl⟩
  · exact hIn
  · rw [List.prefix_append_right_inj] at h
    cases t with
    | nil => rw [List.append_nil]
    | cons d t =>
      -- the needle would go on with the separator
      obtain ⟨rfl, -⟩ := List.cons_prefix_cons.mp h
      exact absurd (List.mem_append_right a List.mem_cons_self) hNeedle

/-- **One separator.** -/
theorem infix_append_cons_iff (hNeedle : c ∉ needle) (hNonempty : needle ≠ []) :
    needle <:+: a ++ c :: b ↔ needle <:+: a ∨ needle <:+: b := by
  constructor
  · intro h
    induction a with
    | nil =>
      rcases List.infix_cons_iff.mp h with hPrefix | hIn
      · exact absurd (List.prefix_nil.mp (prefix_of_prefix_append hNeedle hPrefix)) hNonempty
      · exact .inr hIn
    | cons d a ih =>
      rcases List.infix_cons_iff.mp h with hPrefix | hIn
      · have hStart : needle <+: (d :: a) ++ c :: b := hPrefix
        exact .inl (prefix_of_prefix_append hNeedle hStart).isInfix
      · rcases ih hIn with hLeft | hRight
        · exact .inl (hLeft.trans (List.suffix_cons d a).isInfix)
        · exact .inr hRight
  · rintro (hLeft | hRight)
    · exact hLeft.trans (List.prefix_append a (c :: b)).isInfix
    · have hEnd : b <:+: a ++ c :: b := ⟨a ++ [c], [], by simp⟩
      exact hRight.trans hEnd

end Search
