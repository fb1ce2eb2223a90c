import SpikeBackend.Lib.DecimalForms
import SpikeBackend.Model.InsightRendering

/-!
# Texts of decimals

`_decimal_text` of the insights and of the snapshots write a finite decimal without the zeros that
end its fraction. The forms of one number are written alike and other numbers are not, so that a
hash over the text changes exactly when the number does.

* `decimalJson_value` — the payload of an insight holds these texts;
* `decimal_text_canonical` — equal texts, equal numbers, for both functions.
-/

namespace SpikeBackend

open Text

-- ---------------------------------------------------------------------------
-- The two functions
-- ---------------------------------------------------------------------------

namespace DashboardInsights

/-- `_decimal_text` of an insight: the text of a value, if there is one. -/
def decimalText (value : Option Decimal) : Option Str := value.map Decimal.trim

end DashboardInsights

namespace DashboardSnapshots

/-- `_decimal_text` of a snapshot. -/
def decimalText (value : Decimal) : Str := value.trim

end DashboardSnapshots

/-- The payload holds the text of a value whatever form the value had. -/
theorem decimalJson_value (value : Option Decimal) :
    decimalJson (value.map Decimal.value) = .ofStr? (DashboardInsights.decimalText value) := by
  cases value with
  | none => rfl
  | some d => exact congrArg (fun s => Json.ofStr? (some s)) (decimalText_value d)

-- ---------------------------------------------------------------------------
-- One text for each number
-- ---------------------------------------------------------------------------

/-- Two values, or none, have one text if and only if they are one number, or none. -/
theorem insightTexts_eq_iff (a b : Option Decimal) :
    DashboardInsights.decimalText a = DashboardInsights.decimalText b ↔
      a.map Decimal.value = b.map Decimal.value := by
  cases a with
  | none =>
    cases b with
    | none => exact ⟨fun _ => rfl, fun _ => rfl⟩
    | some e => exact ⟨nofun, nofun⟩
  | some d =>
    cases b with
    | none => exact ⟨nofun, nofun⟩
    | some e =>
      show some d.trim = some e.trim ↔ some d.value = some e.value
      rw [Option.some_inj, Option.some_inj]
      exact Decimal.trim_eq_iff

/-- **Canonical texts.** In both modules the texts of two finite decimals are equal if and only if
the decimals are, a text is read back as its number, and a hash that tells the texts apart tells
the numbers apart and no more. -/
theorem decimal_text_canonical :
    (∀ a b : Option Decimal, DashboardInsights.decimalText a = DashboardInsights.decimalText b ↔
      a.map Decimal.value = b.map Decimal.value) ∧
    (∀ d e : Decimal, DashboardSnapshots.decimalText d = DashboardSnapshots.decimalText e ↔
      d.value = e.value) ∧
    (∀ d : Decimal, (DashboardInsights.decimalText (some d)).bind decimalOf? = some d.value) ∧
    (∀ d : Decimal, decimalOf? (DashboardSnapshots.decimalText d) = some d.value) ∧
    (∀ (Digest : Type) (hash : Str → Digest) (d e : Decimal),
      (hash d.trim = hash e.trim → d.trim = e.trim) →
        ((DashboardInsights.decimalText (some d)).map hash =
          (DashboardInsights.decimalText (some e)).map hash ↔ d.value = e.value) ∧
        (hash (DashboardSnapshots.decimalText d) = hash (DashboardSnapshots.decimalText e) ↔
          d.value = e.value)) := by
  refine ⟨insightTexts_eq_iff, fun d e => Decimal.trim_eq_iff, Decimal.decimalOf?_trim,
    Decimal.decimalOf?_trim, fun Digest hash d e hApart => ?_⟩
  have hHash : hash d.trim = hash e.trim ↔ d.value = e.value :=
    ⟨fun h => Decimal.trim_eq_iff.mp (hApart h),
      fun h => congrArg hash (Decimal.trim_eq_iff.mpr h)⟩
  refine ⟨?_, hHash⟩
  show some (hash d.trim) = some (hash e.trim) ↔ _
  rw [Option.some_inj]
  exact hHash

/-- The forms 1.50 and 1.5, and -0.00 and 0. -/
theorem decimal_text_canonical_sample :
    (DashboardSnapshots.decimalText ⟨false, 150, -2⟩ = DashboardSnapshots.decimalText ⟨false, 15, -1⟩ ↔
      Decimal.value ⟨false, 150, -2⟩ = Decimal.value ⟨false, 15, -1⟩) ∧
    (DashboardSnapshots.decimalText ⟨true, 0, -2⟩ = DashboardSnapshots.decimalText ⟨false, 0, 0⟩ ↔
      Decimal.value ⟨true, 0, -2⟩ = Decimal.value ⟨false, 0, 0⟩) :=
  have hTexts := decimal_text_canonical.2.2.2.2 Str id
  ⟨(hTexts ⟨false, 150, -2⟩ ⟨false, 15, -1⟩ (fun h => h)).2,
    (hTexts ⟨true, 0, -2⟩ ⟨false, 0, 0⟩ (fun h => h)).2⟩

end SpikeBackend
