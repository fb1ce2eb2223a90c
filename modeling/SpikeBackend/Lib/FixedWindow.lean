import Mathlib.Algebra.Order.Group.Int
import Mathlib.Data.List.Basic

/-!
# Counters with a fixed window

A counter numbers the requests of a client from one on, and begins again some time after a window
has gone by. A request is admitted when its number is within a limit.

* `Windowed.admittedIn_le` — in any span of time as long as the window, fewer than twice the limit
  are admitted.
-/

namespace FixedWindow

/-- A request that was counted: when, and with which number. -/
structure Numbered where
  time : Int
  number : Nat
  deriving DecidableEq

/-- The requests that were counted, the last one first. The counter goes on, or it begins again when
the window since every other beginning has gone by. -/
inductive Windowed (window : Int) : List Numbered → Prop
  | nil : Windowed window []
  | restart {history : List Numbered} {t : Int} (h : Windowed window history)
      (hLater : ∀ e ∈ history, e.time ≤ t)
      (hApart : ∀ e ∈ history, e.number = 1 → e.time + window ≤ t) :
      Windowed window (⟨t, 1⟩ :: history)
  | next {history : List Numbered} {last : Numbered} {t : Int}
      (h : Windowed window (last :: history)) (hLater : last.time ≤ t) :
      Windowed window (⟨t, last.number + 1⟩ :: last :: history)

/-- Admitted in a span of time that begins at `start`. -/
def Admitted (start window : Int) (limit : Nat) (e : Numbered) : Prop :=
  start ≤ e.time ∧ e.time < start + window ∧ e.number ≤ limit

instance (start window : Int) (limit : Nat) (e : Numbered) :
    Decidable (Admitted start window limit e) := inferInstanceAs (Decidable (_ ∧ _ ∧ _))

variable {window : Int} {history : List Numbered}

/-- The last request that was counted is the latest one. -/
theorem Windowed.time_le {e : Numbered} (h : Windowed window (e :: history)) :
    ∀ e' ∈ history, e'.time ≤ e.time := by
  -- the induction is on the list as a whole
  generalize hAll : e :: history = all at h
  induction h generalizing e history with
  | nil => cases hAll
  | restart h hLater hApart ih =>
    obtain ⟨rfl, rfl⟩ := List.cons.inj hAll
    exact hLater
  | @next rest last t h hLater ih =>
    obtain ⟨rfl, rfl⟩ := List.cons.inj hAll
    intro e' he'
    rcases List.mem_cons.mp he' with rfl | hRest
    · exact hLater
    · exact (ih rfl e' hRest).trans hLater

/-- A beginning lies in the span. -/
def BeginsIn (start window : Int) (history : List Numbered) : Prop :=
  ∃ e ∈ history, e.number = 1 ∧ start ≤ e.time ∧ e.time < start + window

/-- The number of the last request. -/
def lastNumber (history : List Numbered) : Nat := (history.head?.map Numbered.number).getD 0

/-- The number of requests that are admitted in a span. -/
def admittedIn (start window : Int) (limit : Nat) (history : List Numbered) : Nat :=
  history.countP fun e => decide (Admitted start window limit e)

/-- One more that is admitted. -/
theorem admittedIn_cons_of {start : Int} {limit : Nat} {e : Numbered}
    (h : Admitted start window limit e) :
    admittedIn start window limit (e :: history) = admittedIn start window limit history + 1 :=
  List.countP_cons_of_pos (decide_eq_true h)

/-- One more that is not admitted. -/
theorem admittedIn_cons_of_not {start : Int} {limit : Nat} {e : Numbered}
    (h : ¬ Admitted start window limit e) :
    admittedIn start window limit (e :: history) = admittedIn start window limit history :=
  List.countP_cons_of_neg (by rw [decide_eq_true_iff]; exact h)

/-- Numbers begin with one. -/
theorem Windowed.number_pos (h : Windowed window history) : ∀ e ∈ history, 1 ≤ e.number := by
  induction h with
  | nil => exact fun e he => absurd he List.not_mem_nil
  | restart h hLater hApart ih =>
    intro e he
    rcases List.mem_cons.mp he with rfl | hOld
    · exact le_rfl
    · exact ih e hOld
  | next h hLater ih =>
    intro e he
    rcases List.mem_cons.mp he with rfl | hOld
    · exact Nat.le_add_left 1 _
    · exact ih e hOld

open Classical in
/-- What may be admitted in a span that has not gone by: what the counter has numbered since it
began, and as much before if it began in the span. A number one lies in the span only if the
counter began in it. -/
noncomputable def spanBound (start window : Int) (limit : Nat) (history : List Numbered) : Nat :=
  if BeginsIn start window history then limit - 1 + min limit (lastNumber history)
  else min limit (lastNumber history) - 1

/-- The bound within a window is below the one for every span. -/
theorem spanBound_le (start window : Int) (limit : Nat) (history : List Numbered) :
    spanBound start window limit history ≤ 2 * limit - 1 := by
  unfold spanBound
  split <;> omega

/-- A request that is later than the span is not admitted in it. -/
theorem admittedIn_le_of_span {start : Int} {limit : Nat} {e : Numbered}
    (hLatest : ∀ e' ∈ history, e'.time ≤ e.time)
    (hBefore : admittedIn start window limit history ≤ 2 * limit - 1)
    (hSpan : (∀ e' ∈ e :: history, e'.time < start + window) →
      admittedIn start window limit (e :: history) ≤ spanBound start window limit (e :: history)) :
    admittedIn start window limit (e :: history) ≤ 2 * limit - 1 := by
  -- a count after the end of the span is not in it
  by_cases hTime : e.time < start + window
  · refine (hSpan fun e' he' => ?_).trans (spanBound_le start window limit _)
    rcases List.mem_cons.mp he' with rfl | hRest
    · exact hTime
    · exact (hLatest e' hRest).trans_lt hTime
  · rw [admittedIn_cons_of_not fun hAdmitted => hTime hAdmitted.2.1]
    exact hBefore

/-- The counter begins again. -/
theorem restart_le {start t : Int} {limit : Nat} (hLater : ∀ e ∈ history, e.time ≤ t)
    (hApart : ∀ e ∈ history, e.number = 1 → e.time + window ≤ t) (hTime : t < start + window)
    (ih : (∀ e ∈ history, e.time < start + window) →
      admittedIn start window limit history ≤ spanBound start window limit history) :
    admittedIn start window limit (⟨t, 1⟩ :: history) ≤
      spanBound start window limit (⟨t, 1⟩ :: history) := by
  by_cases hStart : start ≤ t
  · -- no other beginning lies in the span
    have hNone : ¬ BeginsIn start window history := by
      rintro ⟨e, he, hOne, hIn, -⟩
      have hGap := hApart e he hOne
      omega
    have hHere : BeginsIn start window (⟨t, 1⟩ :: history) :=
      ⟨⟨t, 1⟩, List.mem_cons_self, rfl, hStart, hTime⟩
    have hOld := ih fun e he => (hLater e he).trans_lt hTime
    rw [spanBound, if_neg hNone] at hOld
    rw [spanBound, if_pos hHere]
    show _ ≤ limit - 1 + min limit 1
    by_cases hAdmitted : Admitted start window limit ⟨t, 1⟩
    · rw [admittedIn_cons_of hAdmitted]
      have hLimit : 1 ≤ limit := hAdmitted.2.2
      omega
    · rw [admittedIn_cons_of_not hAdmitted]
      omega
  · -- everything is earlier than the span
    have hZero : admittedIn start window limit (⟨t, 1⟩ :: history) = 0 := by
      refine List.countP_eq_zero.mpr fun e he => ?_
      rw [decide_eq_true_iff]
      rintro ⟨hIn, -⟩
      rcases List.mem_cons.mp he with rfl | hRest
      · exact hStart hIn
      · exact hStart (hIn.trans (hLater e hRest))
    rw [hZero]
    exact Nat.zero_le _

/-- The counter goes on. -/
theorem next_le {start t : Int} {limit : Nat} {last : Numbered} (hPositive : 1 ≤ last.number)
    (ih : admittedIn start window limit (last :: history) ≤
      spanBound start window limit (last :: history)) :
    admittedIn start window limit (⟨t, last.number + 1⟩ :: last :: history) ≤
      spanBound start window limit (⟨t, last.number + 1⟩ :: last :: history) := by
  -- a count that goes on begins no window of its own
  have hBegins : BeginsIn start window (⟨t, last.number + 1⟩ :: last :: history) ↔
      BeginsIn start window (last :: history) := by
    constructor
    · rintro ⟨e, he, hOne, hIn⟩
      rcases List.mem_cons.mp he with rfl | hOld
      · have hNext : last.number + 1 = 1 := hOne
        omega
      · exact ⟨e, hOld, hOne, hIn⟩
    · rintro ⟨e, he, hIn⟩
      exact ⟨e, List.mem_cons_of_mem _ he, hIn⟩
  have hNumber : lastNumber (last :: history) = last.number := rfl
  have hNumber' : lastNumber (⟨t, last.number + 1⟩ :: last :: history) = last.number + 1 := rfl
  rw [spanBound, hNumber] at ih
  rw [spanBound, hNumber']
  by_cases hAdmitted : Admitted start window limit ⟨t, last.number + 1⟩
  · rw [admittedIn_cons_of hAdmitted]
    have hLimit : last.number + 1 ≤ limit := hAdmitted.2.2
    split at ih
    · next hOld =>
      rw [if_pos (hBegins.mpr hOld)]
      omega
    · next hNone =>
      rw [if_neg fun hNew => hNone (hBegins.mp hNew)]
      omega
  · rw [admittedIn_cons_of_not hAdmitted]
    split at ih
    · next hOld =>
      rw [if_pos (hBegins.mpr hOld)]
      omega
    · next hNone =>
      rw [if_neg fun hNew => hNone (hBegins.mp hNew)]
      omega

/-- Both bounds, by induction on the history: the one for every span needs the one within a window.
-/
theorem Windowed.admittedIn_le_both (h : Windowed window history) (start : Int) (limit : Nat) :
    admittedIn start window limit history ≤ 2 * limit - 1 ∧
      ((∀ e ∈ history, e.time < start + window) →
        admittedIn start window limit history ≤ spanBound start window limit history) := by
  induction h with
  | nil => exact ⟨Nat.zero_le _, fun _ => Nat.zero_le _⟩
  | @restart history t h hLater hApart ih =>
    have hSpan : (∀ e ∈ ⟨t, 1⟩ :: history, e.time < start + window) →
        admittedIn start window limit (⟨t, 1⟩ :: history) ≤
          spanBound start window limit (⟨t, 1⟩ :: history) := fun hAll =>
      restart_le hLater hApart (hAll _ List.mem_cons_self) ih.2
    exact ⟨admittedIn_le_of_span hLater ih.1 hSpan, hSpan⟩
  | @next rest last t h hLater ih =>
    -- the last number is positive, so the next one is not the first of a window
    have hPositive := h.number_pos last List.mem_cons_self
    have hSpan : (∀ e ∈ ⟨t, last.number + 1⟩ :: last :: rest, e.time < start + window) →
        admittedIn start window limit (⟨t, last.number + 1⟩ :: last :: rest) ≤
          spanBound start window limit (⟨t, last.number + 1⟩ :: last :: rest) := fun hAll =>
      next_le hPositive (ih.2 fun e he => hAll e (List.mem_cons_of_mem _ he))
    exact ⟨admittedIn_le_of_span (Windowed.next h hLater).time_le ih.1 hSpan, hSpan⟩

/-- **Fewer than twice the limit.** In a span as long as the window the counter begins again at most
once, and what was numbered before lacks the number one. -/
theorem Windowed.admittedIn_le (h : Windowed window history) (start : Int) (limit : Nat) :
    admittedIn start window limit history ≤ 2 * limit - 1 :=
  (h.admittedIn_le_both start limit).1

end FixedWindow
