import Mathlib.Data.List.Perm.Subperm
import SpikeBackend.Lib.Digits
import SpikeBackend.Model.ReportParser

/-!
# The columns of a report

`_build_columns` gives the columns of a header names of their own: no two of them fold to one
text, and none has a control character.

* `uniqueName_not_mem` — the loop that looks for a free name ends at one;
* `buildColumns_eq_ok` — what the columns of a header are.
-/

namespace SpikeBackend

open Text Outcome

variable {lib : ReportLibrary}

-- ---------------------------------------------------------------------------
-- Candidates
-- ---------------------------------------------------------------------------

theorem casefold_append (s t : Str) :
    lib.casefold (s ++ t) = lib.casefold s ++ lib.casefold t := List.flatMap_append

/-- The characters of a suffix are folded to themselves. -/
theorem casefold_suffix {s : Str} (h : ∀ c ∈ s, isSuffixChar c = true) : lib.casefold s = s := by
  induction s with
  | nil => rfl
  | cons c s ih =>
    have hRest := ih fun d hd => h d (List.mem_cons_of_mem c hd)
    show lib.casefoldChar c ++ lib.casefold s = c :: s
    rw [lib.casefoldChar_suffix c (h c List.mem_cons_self), hRest]
    rfl

/-- The suffix of a candidate. -/
def nameSuffix (tries : Nat) : Str := str "__" ++ natText (tries + 1)

theorem nameCandidate_succ (baseName : Str) (tries : Nat) :
    nameCandidate baseName (tries + 1) = baseName ++ nameSuffix (tries + 1) := by
  rw [nameCandidate, if_neg (Nat.succ_ne_zero tries), List.append_assoc]
  rfl

/-- The characters of a suffix are an underscore and digits. -/
theorem isSuffixChar_nameSuffix {tries : Nat} {c : CodePoint} (h : c ∈ nameSuffix tries) :
    isSuffixChar c = true := by
  rcases List.mem_append.mp h with h | h
  · have hUnderscores : (str "__").all isSuffixChar = true := rfl
    exact List.all_eq_true.mp hUnderscores c h
  · have hDigit := mem_natText h
    simp [isSuffixChar, hDigit.1, hDigit.2]

/-- Folding tells the candidates of a name apart. -/
theorem casefold_nameCandidate_injective (baseName : Str) :
    Function.Injective fun tries => lib.casefold (nameCandidate baseName tries) := by
  have hFold : ∀ tries, lib.casefold (nameCandidate baseName (tries + 1)) =
      lib.casefold baseName ++ nameSuffix (tries + 1) := by
    intro tries
    rw [nameCandidate_succ, casefold_append, casefold_suffix fun c => isSuffixChar_nameSuffix]
  -- a candidate with a suffix is longer than the base name
  have hBase : ∀ tries, lib.casefold baseName ≠ lib.casefold baseName ++ nameSuffix (tries + 1) := by
    intro tries h
    have hNil := List.self_eq_append_right.mp h
    exact natText_ne_empty _ (List.append_eq_nil_iff.mp hNil).2
  intro i j h
  cases i with
  | zero =>
    cases j with
    | zero => rfl
    | succ j => exact absurd (h.trans (hFold j)) (hBase j)
  | succ i =>
    cases j with
    | zero => exact absurd (h.symm.trans (hFold i)) (hBase i)
    | succ j =>
      have hEq : lib.casefold baseName ++ nameSuffix (i + 1) =
          lib.casefold baseName ++ nameSuffix (j + 1) :=
        (hFold i).symm.trans (h.trans (hFold j))
      have hText := List.append_cancel_left (List.append_cancel_left hEq)
      have hNumber := natText_injective hText
      omega

-- ---------------------------------------------------------------------------
-- The loop
-- ---------------------------------------------------------------------------

/-- No more candidates are taken than there are used names. -/
theorem le_length_of_taken {usedNames : List Str} {baseName : Str} {tries : Nat}
    (h : ∀ i < tries, lib.casefold (nameCandidate baseName i) ∈ usedNames) :
    tries ≤ usedNames.length := by
  have hNodup : ((List.range tries).map fun i =>
      lib.casefold (nameCandidate baseName i)).Nodup :=
    List.nodup_range.map (casefold_nameCandidate_injective baseName)
  have hSubset : (List.range tries).map (fun i =>
      lib.casefold (nameCandidate baseName i)) ⊆ usedNames := by
    intro s hs
    obtain ⟨i, hi, rfl⟩ := List.mem_map.mp hs
    exact h i (List.mem_range.mp hi)
  have hLength := (hNodup.subperm hSubset).length_le
  rw [List.length_map, List.length_range] at hLength
  exact hLength

/-- **A free name.** With as much fuel as there are used names the loop ends at a name whose
folded text is not used: the candidates are told apart, and there is one more of them. -/
theorem uniqueName_not_mem (usedNames : List Str) (baseName : Str) {fuel tries : Nat}
    (hFuel : usedNames.length ≤ fuel + tries)
    (hTried : ∀ i < tries, lib.casefold (nameCandidate baseName i) ∈ usedNames) :
    lib.casefold (uniqueName lib usedNames baseName fuel tries) ∉ usedNames := by
  induction fuel generalizing tries with
  | zero =>
    intro hMem
    -- more candidates than used names
    have hAll : ∀ i < tries + 1, lib.casefold (nameCandidate baseName i) ∈ usedNames := by
      intro i hi
      rcases Nat.lt_succ_iff_lt_or_eq.mp hi with hi | rfl
      · exact hTried i hi
      · exact hMem
    have hLength := le_length_of_taken hAll
    omega
  | succ fuel ih =>
    rw [uniqueName]
    split
    · rename_i hUsed
      refine ih (by omega) ?_
      intro i hi
      rcases Nat.lt_succ_iff_lt_or_eq.mp hi with hi | rfl
      · exact hTried i hi
      · exact hUsed
    · rename_i hFree
      exact hFree

/-- The loop ends at a candidate. -/
theorem uniqueName_candidate (usedNames : List Str) (baseName : Str) (fuel tries : Nat) :
    ∃ i, uniqueName lib usedNames baseName fuel tries = nameCandidate baseName i := by
  induction fuel generalizing tries with
  | zero => exact ⟨tries, rfl⟩
  | succ fuel ih =>
    rw [uniqueName]
    split
    · exact ih (tries + 1)
    · exact ⟨tries, rfl⟩

-- ---------------------------------------------------------------------------
-- Header texts
-- ---------------------------------------------------------------------------

/-- No character of a text is one that a header must not have. -/
def HeaderClean (s : Str) : Prop := ∀ c ∈ s, isHeaderInvalid c = false

/-- The text of a header cell is not empty and has no characters that a name may not have. -/
theorem headerText_eq_ok {value : RawValue} {firstColumn : Bool} {s : Str}
    (h : headerText lib value firstColumn = .ok (some s)) : s ≠ [] ∧ HeaderClean s := by
  simp only [headerText, bind_eq_ok] at h
  obtain ⟨cell, -, h⟩ := h
  split at h
  · cases h
  · split at h
    · cases h
    · rename_i hEmpty
      simp only [bind_eq_ok, ensure_eq_ok] at h
      obtain ⟨-, -, -, hClean, hText⟩ := h
      obtain rfl := Option.some.inj (Except.ok.inj hText)
      refine ⟨fun hNil => hEmpty (List.isEmpty_iff.mpr hNil), ?_⟩
      intro c hc
      exact Bool.eq_false_iff.mpr (List.any_eq_false.mp hClean c hc)

/-- Digits may stand in a name. -/
theorem headerClean_natText (n : Nat) : HeaderClean (natText n) := by
  intro c hc
  have hDigit := mem_natText hc
  have hRanges : (formatRanges.all fun r => decide (0x39 < r.1)) = true := by decide
  have hFormat : (formatRanges.any fun r => r.1 ≤ c.val && c.val ≤ r.2) = false := by
    refine List.any_eq_false.mpr ?_
    intro r hr
    have hLow := of_decide_eq_true (List.all_eq_true.mp hRanges r hr)
    have hNot : ¬r.1 ≤ c.val := by omega
    simp [hNot]
  have hControl : isControl c = false := by
    simp only [isControl, Bool.or_eq_false_iff, Bool.and_eq_false_iff, decide_eq_false_iff_not]
    omega
  have hSurrogate : isSurrogate c = false := by
    simp only [isSurrogate, Bool.and_eq_false_iff, decide_eq_false_iff_not]
    omega
  rw [isHeaderInvalid, hFormat, hControl, hSurrogate]
  rfl

/-- Two clean texts are a clean one. -/
theorem HeaderClean.append {s t : Str} (hs : HeaderClean s) (ht : HeaderClean t) :
    HeaderClean (s ++ t) := by
  intro c hc
  rcases List.mem_append.mp hc with hc | hc
  · exact hs c hc
  · exact ht c hc

/-- A text is clean if each of its characters is. -/
theorem headerClean_of_all {s : Str} (h : (s.all fun c => !isHeaderInvalid c) = true) :
    HeaderClean s := by
  intro c hc
  have hNot := List.all_eq_true.mp h c hc
  simpa using hNot

-- ---------------------------------------------------------------------------
-- The columns
-- ---------------------------------------------------------------------------

/-- What `_build_columns` makes of one value of the header. -/
structure ColumnBuilt (column : ColumnProfile) : Prop where
  name_ne_nil : column.name ≠ []
  name_clean : HeaderClean column.name
  generated_iff : column.generated = column.sourceName.isNone
  source_ne_nil : ∀ s, column.sourceName = some s → s ≠ []
  typeCounts_zero : column.typeCounts = fun _ => 0

/-- The columns of a header: each at its own place, and their names told apart by folding. -/
structure ColumnsBuilt (lib : ReportLibrary) (columns : List ColumnProfile) : Prop where
  each : ∀ column ∈ columns, ColumnBuilt column
  index : ∀ (i : Nat) (column : ColumnProfile), columns[i]? = some column → column.index = i
  folded_nodup : (columns.map fun column => lib.casefold column.name).Nodup

/-- One more column. -/
theorem buildColumn_eq_ok {columns columns' : List ColumnProfile} {value : RawValue}
    (h : buildColumn lib columns value = .ok columns') (hBuilt : ColumnsBuilt lib columns) :
    ColumnsBuilt lib columns' ∧ columns'.length = columns.length + 1 := by
  simp only [buildColumn, bind_eq_ok] at h
  obtain ⟨sourceName, hSource, h⟩ := h
  obtain rfl := Except.ok.inj h
  set baseName := sourceName.getD (str "column_" ++ natText (columns.length + 1)) with hBase
  set usedNames := columns.map fun column => lib.casefold column.name with hUsed
  -- a base name is what the header says or a generated one
  have hBaseClean : baseName ≠ [] ∧ HeaderClean baseName := by
    cases sourceName with
    | none =>
      refine ⟨List.append_ne_nil_of_right_ne_nil _ (natText_ne_empty _), ?_⟩
      exact (headerClean_of_all (s := str "column_") (by decide)).append (headerClean_natText _)
    | some s => exact headerText_eq_ok hSource
  obtain ⟨i, hCandidate⟩ := @uniqueName_candidate lib usedNames baseName columns.length 0
  have hName : uniqueName lib usedNames baseName columns.length 0 ≠ [] ∧
      HeaderClean (uniqueName lib usedNames baseName columns.length 0) := by
    rw [hCandidate]
    cases i with
    | zero => exact hBaseClean
    | succ i =>
      rw [nameCandidate_succ]
      refine ⟨List.append_ne_nil_of_left_ne_nil hBaseClean.1 _, hBaseClean.2.append ?_⟩
      exact (headerClean_of_all (s := str "__") (by decide)).append (headerClean_natText _)
  have hFree : lib.casefold (uniqueName lib usedNames baseName columns.length 0) ∉ usedNames := by
    refine uniqueName_not_mem usedNames baseName ?_ fun i hi => absurd hi (Nat.not_lt_zero i)
    rw [hUsed, List.length_map, Nat.add_zero]
  refine ⟨⟨?_, ?_, ?_⟩, List.length_append⟩
  · intro column hColumn
    rcases List.mem_append.mp hColumn with hColumn | hColumn
    · exact hBuilt.each column hColumn
    · obtain rfl := List.mem_singleton.mp hColumn
      refine ⟨hName.1, hName.2, rfl, ?_, rfl⟩
      rintro s rfl
      exact (headerText_eq_ok hSource).1
  · intro j column hColumn
    rcases Nat.lt_or_ge j columns.length with hj | hj
    · rw [List.getElem?_append_left hj] at hColumn
      exact hBuilt.index j column hColumn
    · rw [List.getElem?_append_right hj] at hColumn
      obtain ⟨hLt, hEq⟩ := List.getElem?_eq_some_iff.mp hColumn
      rw [List.length_singleton] at hLt
      rw [← hEq, List.getElem_singleton]
      show columns.length = j
      omega
  · rw [List.map_append, List.nodup_append]
    refine ⟨hBuilt.folded_nodup, List.nodup_singleton _, ?_⟩
    rintro a ha b hb rfl
    rw [List.map_singleton, List.mem_singleton] at hb
    exact hFree (hb ▸ ha)

/-- **The columns of a header.** -/
theorem buildColumns_eq_ok {values : List RawValue} {columns : List ColumnProfile}
    (h : buildColumns lib values = .ok columns) :
    ColumnsBuilt lib columns ∧ columns.length = values.length := by
  -- the columns so far are generalised, since the loop appends to them
  suffices hRun : ∀ (values : List RawValue) (start columns : List ColumnProfile),
      values.foldlM (buildColumn lib) start = .ok columns → ColumnsBuilt lib start →
        ColumnsBuilt lib columns ∧ columns.length = start.length + values.length by
    have hStart : ColumnsBuilt lib [] :=
      ⟨fun _ hc => absurd hc (List.not_mem_nil), fun _ _ hc => absurd hc (by simp), List.nodup_nil⟩
    have hDone := hRun values [] columns h hStart
    rw [List.length_nil, Nat.zero_add] at hDone
    exact hDone
  intro values
  induction values with
  | nil =>
    intro start columns h hStart
    rw [List.foldlM_nil] at h
    obtain rfl := Except.ok.inj h
    exact ⟨hStart, rfl⟩
  | cons value values ih =>
    intro start columns h hStart
    rw [List.foldlM_cons] at h
    obtain ⟨next, hNext, hRest⟩ := bind_eq_ok.mp h
    obtain ⟨hBuilt, hLength⟩ := buildColumn_eq_ok hNext hStart
    obtain ⟨hDone, hTotal⟩ := ih next columns hRest hBuilt
    refine ⟨hDone, ?_⟩
    rw [hTotal, hLength, List.length_cons]
    omega

end SpikeBackend
