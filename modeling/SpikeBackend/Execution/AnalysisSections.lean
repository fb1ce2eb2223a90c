import SpikeBackend.Lib.Search
import SpikeBackend.Model.AiPrompt
import Mathlib.Data.List.TakeWhile

/-!
# The sections of an accepted analysis

The validation of a dashboard analysis finds the headings by their lines and locates them by
the first occurrence of their text. A heading whose text is quoted in an earlier section is
located there, and then the section under its heading line is not looked at.

* `indexOf?_of_unquoted` — a heading that no earlier line quotes is located at its line;
* `nonblank_of_located` — the body checked there is a part of the section;
* `analysis_sound_iff` — an accepted text is as it should be where no heading is quoted, and
  otherwise exactly when each section whose heading is quoted is;
* `quoted_heading_accepted` — an accepted text with an empty section.
-/

namespace SpikeBackend

open Text Search

-- ---------------------------------------------------------------------------
-- Searching
-- ---------------------------------------------------------------------------

/-- A search finds something exactly when the needle stands in the text. -/
theorem indexOf?_isSome_iff {needle s : Str} : (indexOf? needle s).isSome ↔ needle <:+: s := by
  induction s with
  | nil =>
    rw [indexOf?, List.infix_nil]
    split
    · next h => simp [h]
    · next h => simp [h]
  | cons c s ih =>
    rw [indexOf?, List.infix_cons_iff, ← ih]
    split
    · next h => simp [List.isPrefixOf_iff_prefix.mp h]
    · next h =>
      -- The needle starts here or stands in the rest.
      have hNot : ¬needle <+: c :: s := fun hp => h (List.isPrefixOf_iff_prefix.mpr hp)
      simp [hNot]

theorem occursIn_iff {needle s : Str} : occursIn needle s = true ↔ needle <:+: s :=
  indexOf?_isSome_iff

/-- The first occurrence is not after any other. -/
theorem indexOf?_le {needle pre rest : Str} :
    ∃ n ≤ pre.length, indexOf? needle (pre ++ (needle ++ rest)) = some n := by
  induction pre with
  | nil =>
    refine ⟨0, Nat.le_refl _, ?_⟩
    rw [List.nil_append]
    cases needle with
    | nil =>
      cases rest with
      | nil => rfl
      | cons d rest => rfl
    | cons c needle =>
      rw [List.cons_append, indexOf?, if_pos]
      exact List.isPrefixOf_iff_prefix.mpr (List.prefix_append (c :: needle) rest)
  | cons c pre ih =>
    obtain ⟨n, hn, hFound⟩ := ih
    rw [List.cons_append, indexOf?]
    split
    · -- Found earlier than expected, which is all that is claimed.
      exact ⟨0, Nat.zero_le _, rfl⟩
    · exact ⟨n + 1, by rw [List.length_cons]; omega, by rw [hFound, Option.map_some]⟩

/-- A needle that is not in a line is looked for after it. -/
theorem indexOf?_skip {needle line rest : Str} (hNeedle : (0x0A : CodePoint) ∉ needle)
    (hNonempty : needle ≠ []) (hLine : ¬needle <:+: line) :
    indexOf? needle (line ++ 0x0A :: rest) =
      (indexOf? needle rest).map (· + (line.length + 1)) := by
  induction line with
  | nil =>
    have hNot : ¬needle.isPrefixOf (0x0A :: rest) = true := by
      intro h
      have hStart : needle <+: [] ++ 0x0A :: rest := List.isPrefixOf_iff_prefix.mp h
      exact hNonempty (List.prefix_nil.mp (prefix_of_prefix_append hNeedle hStart))
    rw [List.nil_append, indexOf?, if_neg hNot]
    rfl
  | cons c line ih =>
    have hNot : ¬needle.isPrefixOf (c :: (line ++ 0x0A :: rest)) = true := by
      intro h
      have hStart : needle <+: (c :: line) ++ 0x0A :: rest := List.isPrefixOf_iff_prefix.mp h
      exact hLine (prefix_of_prefix_append hNeedle hStart).isInfix
    -- No match can begin in the line: it would have to run across its end.
    have hRest : ¬needle <:+: line := fun h => hLine (h.trans (List.suffix_cons c line).isInfix)
    rw [List.cons_append, indexOf?, if_neg hNot, ih hRest, Option.map_map]
    rfl

-- ---------------------------------------------------------------------------
-- Lines
-- ---------------------------------------------------------------------------

/-- `"\n".join`. -/
def joinLines (lines : List Str) : Str := [(0x0A : CodePoint)].intercalate lines

/-- Lines with their newlines. -/
def endedLines (lines : List Str) : Str := lines.flatMap (· ++ [0x0A])

theorem joinLines_splitLines (s : Str) : joinLines (splitLines s) = s :=
  List.intercalate_splitOn 0x0A

/-- Joined lines: the ended lines before, then the rest. -/
theorem joinLines_append (before : List Str) {after : List Str} (hAfter : after ≠ []) :
    joinLines (before ++ after) = endedLines before ++ joinLines after := by
  induction before with
  | nil => rfl
  | cons line before ih =>
    have hRest : before ++ after ≠ [] := fun h => hAfter (List.append_eq_nil_iff.mp h).2
    unfold joinLines at ih ⊢
    rw [List.cons_append, List.intercalate_cons_of_ne_nil hRest, ih]
    simp [endedLines]

/-- Joined lines begin with the first one. -/
theorem exists_joinLines_cons (line : Str) (lines : List Str) :
    ∃ rest, joinLines (line :: lines) = line ++ rest := by
  unfold joinLines
  cases lines with
  | nil => exact ⟨[], by rw [List.intercalate_singleton, List.append_nil]⟩
  | cons line' lines => exact ⟨_, by rw [List.intercalate_cons_cons, List.append_assoc]⟩

/-- **A heading that no earlier line quotes** is located where its line starts. -/
theorem indexOf?_of_unquoted {needle rest : Str} {before : List Str}
    (hNeedle : (0x0A : CodePoint) ∉ needle) (hNonempty : needle ≠ [])
    (hBefore : ∀ line ∈ before, ¬needle <:+: line) :
    indexOf? needle (endedLines before ++ (needle ++ rest)) = some (endedLines before).length := by
  induction before with
  | nil =>
    obtain ⟨n, hn, hFound⟩ := @indexOf?_le needle [] rest
    obtain rfl := Nat.le_zero.mp hn
    exact hFound
  | cons line before ih =>
    -- The first line is passed over, the others by induction.
    have hSplit : endedLines (line :: before) ++ (needle ++ rest) =
        line ++ 0x0A :: (endedLines before ++ (needle ++ rest)) := by
      simp [endedLines]
    have hLength : (endedLines (line :: before)).length =
        (endedLines before).length + (line.length + 1) := by
      simp only [endedLines, List.flatMap_cons, List.length_append, List.length_singleton,
        Nat.add_comm]
    rw [hSplit, indexOf?_skip hNeedle hNonempty (hBefore line List.mem_cons_self),
      ih fun l hl => hBefore l (List.mem_cons_of_mem _ hl), hLength, Option.map_some]

-- ---------------------------------------------------------------------------
-- Sections
-- ---------------------------------------------------------------------------

/-- The heading lines of a text, each with the lines up to the next one. -/
def sectionsOf : List Str → List (Str × List Str)
  | [] => []
  | line :: rest =>
    if isHeading line then (line, rest.takeWhile fun l => !isHeading l) :: sectionsOf rest
    else sectionsOf rest

/-- The headings of the sections are the heading lines. -/
theorem map_fst_sectionsOf (lines : List Str) :
    (sectionsOf lines).map Prod.fst = lines.filter isHeading := by
  induction lines with
  | nil => rfl
  | cons line rest ih =>
    rw [sectionsOf, List.filter_cons]
    split
    · rw [List.map_cons, ih]
    · exact ih

/-- Where a section stands: its heading line, its lines, and the next heading line. -/
theorem exists_split_of_mem {lines : List Str} {s : Str × List Str} (h : s ∈ sectionsOf lines) :
    ∃ before after, lines = before ++ s.1 :: (s.2 ++ after) ∧ isHeading s.1 = true ∧
      (∀ line ∈ s.2, isHeading line = false) ∧ ∀ line ∈ after.head?, isHeading line = true := by
  induction lines with
  | nil => exact absurd h List.not_mem_nil
  | cons line rest ih =>
    have hRest : s ∈ sectionsOf rest → ∃ before after, line :: rest =
        before ++ s.1 :: (s.2 ++ after) ∧ isHeading s.1 = true ∧
          (∀ line ∈ s.2, isHeading line = false) ∧ ∀ line ∈ after.head?, isHeading line = true := by
      intro hMem
      obtain ⟨before, after, rfl, hSection⟩ := ih hMem
      exact ⟨line :: before, after, rfl, hSection⟩
    -- A heading opens a section that runs to the next heading.
    rw [sectionsOf] at h
    split at h
    · next hHeading =>
      rcases List.mem_cons.mp h with rfl | hMem
      · refine ⟨[], rest.dropWhile fun l => !isHeading l, ?_, hHeading, ?_, ?_⟩
        · rw [List.takeWhile_append_dropWhile, List.nil_append]
        · intro l hl
          simpa using List.mem_takeWhile_imp hl
        · intro l hl
          have hNot := List.head?_dropWhile_not (fun l => !isHeading l) rest
          rw [Option.mem_def.mp hl] at hNot
          simpa using hNot
      · exact hRest hMem
    · exact hRest h

/-- A text that is not blank. -/
theorem strip_ne_nil_iff {s : Str} : strip s ≠ [] ↔ ∃ c ∈ s, isSpace c = false := by
  constructor
  · intro h
    by_contra hNone
    -- All blanks would be stripped away.
    have hAll : ∀ c ∈ s, isSpace c = true := by
      intro c hc
      by_contra hSpace
      exact hNone ⟨c, hc, Bool.eq_false_of_not_eq_true hSpace⟩
    refine h ?_
    unfold strip trimBy
    rw [List.dropWhile_eq_nil_iff.mpr hAll]
    rfl
  · rintro ⟨c, hc, hSpace⟩ h
    have hMem := (mem_strip hSpace s).mpr hc
    rw [h] at hMem
    exact List.not_mem_nil hMem

/-- A character that is no space, in lines with their newlines, is in one of the lines. -/
theorem nonblank_of_mem_endedLines {lines : List Str} {c : CodePoint} (hSpace : isSpace c = false)
    (h : c ∈ endedLines lines) : ∃ line ∈ lines, strip line ≠ [] := by
  obtain ⟨line, hLine, hc⟩ := List.mem_flatMap.mp h
  rcases List.mem_append.mp hc with hc | hc
  · exact ⟨line, hLine, strip_ne_nil_iff.mpr ⟨c, hc, hSpace⟩⟩
  · rw [List.mem_singleton.mp hc] at hSpace
    exact absurd hSpace (by decide)

/-- The lines of a text end in newlines, but for the last one. -/
theorem mem_endedLines_of_mem_joinLines {lines : List Str} {c : CodePoint}
    (h : c ∈ joinLines lines) : c ∈ endedLines lines := by
  -- The last line is not ended when it is joined.
  rcases List.eq_nil_or_concat lines with rfl | ⟨before, last, rfl⟩
  · exact h
  · rw [List.concat_eq_append, joinLines_append before (List.cons_ne_nil _ _)] at h
    have hEnded : endedLines (before ++ [last]) = endedLines before ++ (last ++ [0x0A]) := by
      simp [endedLines]
    rw [List.concat_eq_append, hEnded]
    rcases List.mem_append.mp h with hc | hc
    · exact List.mem_append_left _ hc
    · have hLast : c ∈ last := by
        unfold joinLines at hc
        rwa [List.intercalate_singleton] at hc
      exact List.mem_append_right _ (List.mem_append_left _ hLast)

-- ---------------------------------------------------------------------------
-- Located headings
-- ---------------------------------------------------------------------------

/-- Where the validation locates a heading. -/
def located (heading text : Str) : Nat := (indexOf? heading text).getD 0

section

variable {heading : Str} {before : List Str} (hNeedle : (0x0A : CodePoint) ∉ heading)
  (hNonempty : heading ≠ []) (hBefore : ∀ line ∈ before, ¬heading <:+: line)

include hNeedle hNonempty hBefore

/-- A heading that no earlier line quotes is located at its line. -/
theorem located_eq (after : List Str) :
    located heading (joinLines (before ++ heading :: after)) = (endedLines before).length := by
  obtain ⟨rest, hRest⟩ := exists_joinLines_cons heading after
  unfold located
  rw [joinLines_append before (List.cons_ne_nil _ _), hRest,
    indexOf?_of_unquoted hNeedle hNonempty hBefore, Option.getD_some]

/-- **The body that is checked** is a part of the section under the heading line, if it ends
where the next heading line starts. -/
theorem nonblank_of_located {body after : List Str} {boundary : Nat}
    (hBoundary : after = [] ∨ boundary ≤ (endedLines (before ++ heading :: body)).length)
    (hBody : strip (((joinLines (before ++ heading :: (body ++ after))).take boundary).drop
      (located heading (joinLines (before ++ heading :: (body ++ after))) + heading.length)) ≠ []) :
    ∃ line ∈ body, strip line ≠ [] := by
  obtain ⟨c, hc, hSpace⟩ := strip_ne_nil_iff.mp hBody
  rw [located_eq hNeedle hNonempty hBefore, List.drop_take] at hc
  have hEnded : endedLines (before ++ heading :: body) =
      endedLines before ++ heading ++ (0x0A :: endedLines body) := by
    simp [endedLines]
  refine nonblank_of_mem_endedLines hSpace ?_
  -- The character found is not blank, so it is no line end.
  have hNewline : c ≠ 0x0A := by
    rintro rfl
    exact absurd hSpace (by decide)
  cases after with
  | nil =>
    rw [List.append_nil] at hc
    have hMem := List.mem_of_mem_take hc
    rw [joinLines_append before (List.cons_ne_nil _ _), ← List.drop_drop, List.drop_left] at hMem
    cases body with
    | nil =>
      unfold joinLines at hMem
      rw [List.intercalate_singleton, List.drop_length] at hMem
      exact absurd hMem List.not_mem_nil
    | cons line body =>
      have hAfter : c ∈ 0x0A :: joinLines (line :: body) := by
        unfold joinLines at hMem ⊢
        rwa [List.intercalate_cons_cons, List.append_assoc, List.drop_left] at hMem
      exact mem_endedLines_of_mem_joinLines ((List.mem_cons.mp hAfter).resolve_left hNewline)
  | cons next after =>
    have hEnd := hBoundary.resolve_left (List.cons_ne_nil _ _)
    have hLines : before ++ heading :: (body ++ next :: after) =
        (before ++ heading :: body) ++ next :: after := by simp
    have hDrop : (joinLines (before ++ heading :: (body ++ next :: after))).drop
        ((endedLines before).length + heading.length) =
          (0x0A :: endedLines body) ++ joinLines (next :: after) := by
      rw [hLines, joinLines_append _ (List.cons_ne_nil _ _), hEnded, List.append_assoc,
        ← List.length_append, List.drop_left]
    -- The text up to the boundary ends before the next section.
    have hLength : boundary - ((endedLines before).length + heading.length) ≤
        (0x0A :: endedLines body).length := by
      rw [hEnded] at hEnd
      simp only [List.length_append] at hEnd
      omega
    rw [hDrop, List.take_append_of_le_length hLength] at hc
    exact (List.mem_cons.mp (List.mem_of_mem_take hc)).resolve_left hNewline

/-- What is checked of the last section. -/
theorem drop_located {after : List Str} (hAfter : after ≠ []) :
    (joinLines (before ++ heading :: after)).drop
        (located heading (joinLines (before ++ heading :: after))) =
      heading ++ 0x0A :: joinLines after := by
  rw [located_eq hNeedle hNonempty hBefore, joinLines_append before (List.cons_ne_nil _ _),
    List.drop_left]
  unfold joinLines
  rw [List.intercalate_cons_of_ne_nil hAfter, List.append_assoc, List.singleton_append]

end

/-- A heading is not located after its line. -/
theorem located_le (heading : Str) (before after : List Str) :
    located heading (joinLines (before ++ heading :: after)) ≤ (endedLines before).length := by
  obtain ⟨rest, hRest⟩ := exists_joinLines_cons heading after
  obtain ⟨n, hn, hFound⟩ := @indexOf?_le heading (endedLines before) rest
  unfold located
  rw [joinLines_append before (List.cons_ne_nil _ _), hRest, hFound, Option.getD_some]
  exact hn

-- ---------------------------------------------------------------------------
-- What the validation checks
-- ---------------------------------------------------------------------------

/-- The body of a heading, as the validation takes it. -/
def locatedBody (text heading : Str) (boundary : Nat) : Str :=
  (text.take boundary).drop (located heading text + heading.length)

/-- What an accepted text has passed. -/
structure AnalysisChecked (casefold : Str → Str) (text : Str) : Prop where
  headings : (splitLines text).filter isHeading = aiDashboardAnalysisHeadings
  summary : strip (locatedBody text (str "## Summary")
    (located (str "## Opportunity") text)) ≠ []
  opportunity : strip (locatedBody text (str "## Opportunity")
    (located (str "## Recommendation") text)) ≠ []
  recommendation : strip (locatedBody text (str "## Recommendation")
    (located (str "## Disclaimer") text)) ≠ []
  disclaimer : strip (locatedBody text (str "## Disclaimer") text.length) ≠ []
  audit : occursIn (str "not an audit")
    (casefold (text.drop (located (str "## Disclaimer") text))) = true
  accounting : occursIn (str "professional accounting")
    (casefold (text.drop (located (str "## Disclaimer") text))) = true

/-- The text that is validated. -/
def analysisText (value : Str) : Str := strip (normalizeNewlines false value)

/-- What the validation has checked of an accepted analysis. -/
theorem analysisChecked {casefold : Str → Str} {value : Str}
    (h : validDashboardAnalysis casefold value = true) :
    AnalysisChecked casefold (analysisText value) := by
  unfold validDashboardAnalysis at h
  simp only at h
  split at h
  · -- Each failed test makes the validation answer false.
    exact absurd h (by decide)
  · split at h
    · exact absurd h (by decide)
    · next hHeadings =>
      split at h
      · exact absurd h (by decide)
      · next hBodies =>
        simp only [aiDashboardAnalysisHeadings, List.map_cons, List.map_nil, List.tail_cons,
          List.cons_append, List.nil_append, List.zip_cons_cons, List.zip_nil_right,
          List.any_cons, List.any_nil, Bool.or_false, Bool.or_eq_true,
          decide_eq_true_eq, not_or] at hBodies
        obtain ⟨hSummary, hOpportunity, hRecommendation, hDisclaimer⟩ := hBodies
        rw [Bool.and_eq_true] at h
        exact ⟨not_not.mp hHeadings, hSummary, hOpportunity, hRecommendation, hDisclaimer,
          h.1, h.2⟩

-- ---------------------------------------------------------------------------
-- Sections in order
-- ---------------------------------------------------------------------------

/-- What the disclaimer has to say. -/
def disclaimerPhrases : List Str := [str "not an audit", str "professional accounting"]

/-- A section with a body that is not blank and, if it is the disclaimer, with both phrases. -/
def SectionInOrder (casefold : Str → Str) (s : Str × List Str) : Prop :=
  (∃ line ∈ s.2, strip line ≠ []) ∧
    (s.1 = str "## Disclaimer" →
      ∀ phrase ∈ disclaimerPhrases, occursIn phrase (casefold (joinLines s.2)) = true)

/-- **A sound analysis.** Its heading lines are the required ones in their order, and each
section is in order. -/
structure SoundAnalysis (casefold : Str → Str) (value : Str) : Prop where
  headings : (sectionsOf (splitLines (analysisText value))).map Prod.fst =
    aiDashboardAnalysisHeadings
  sections : ∀ s ∈ sectionsOf (splitLines (analysisText value)), SectionInOrder casefold s

/-- A line before the heading line has the text of the heading in it. -/
def Quoted (lines : List Str) (heading : Str) : Prop :=
  ∃ line ∈ lines.takeWhile fun line => line != heading, heading <:+: line

/-- An ASCII letter in lower case. -/
def asciiLower (c : CodePoint) : CodePoint :=
  if 0x41 ≤ c.val ∧ c.val ≤ 0x5A then c + 0x20 else c

/-- `str.casefold` folds each character by itself, an ASCII letter to lower case. -/
structure CaseFolding (casefold : Str → Str) : Prop where
  append (s t : Str) : casefold (s ++ t) = casefold s ++ casefold t
  ascii (c : CodePoint) (hc : c.val < 0x80) : casefold [c] = [asciiLower c]

/-- ASCII text is folded letter by letter. -/
theorem CaseFolding.ascii_text {casefold : Str → Str} (hFold : CaseFolding casefold) {s : Str}
    (hAscii : (s.all fun c => decide (c.val < 0x80)) = true) :
    casefold s = s.map asciiLower := by
  induction s with
  | nil =>
    have hTwice := congrArg List.length (hFold.append [] [])
    rw [List.append_nil, List.length_append] at hTwice
    exact List.length_eq_zero_iff.mp (by omega)
  | cons c s ih =>
    rw [List.all_cons, Bool.and_eq_true, decide_eq_true_eq] at hAscii
    have hSplit : c :: s = [c] ++ s := rfl
    rw [hSplit, hFold.append, hFold.ascii c hAscii.1, ih hAscii.2]
    rfl

/-- Where the required headings stand among the heading lines. -/
theorem headings_split {before after : List Str} {heading : Str}
    (h : before ++ heading :: after = aiDashboardAnalysisHeadings) :
    (heading = str "## Summary" ∧ after.head? = some (str "## Opportunity")) ∨
      (heading = str "## Opportunity" ∧ after.head? = some (str "## Recommendation")) ∨
      (heading = str "## Recommendation" ∧ after.head? = some (str "## Disclaimer")) ∨
      (heading = str "## Disclaimer" ∧ after = []) := by
  unfold aiDashboardAnalysisHeadings at h
  -- One case for each place a heading may have.
  rcases before with _ | ⟨a, _ | ⟨b, _ | ⟨c, _ | ⟨d, before⟩⟩⟩⟩
  · obtain ⟨rfl, rfl⟩ := List.cons.inj h
    exact .inl ⟨rfl, rfl⟩
  · obtain ⟨-, h⟩ := List.cons.inj h
    obtain ⟨rfl, rfl⟩ := List.cons.inj h
    exact .inr (.inl ⟨rfl, rfl⟩)
  · obtain ⟨-, h⟩ := List.cons.inj h
    obtain ⟨-, h⟩ := List.cons.inj h
    obtain ⟨rfl, rfl⟩ := List.cons.inj h
    exact .inr (.inr (.inl ⟨rfl, rfl⟩))
  · obtain ⟨-, h⟩ := List.cons.inj h
    obtain ⟨-, h⟩ := List.cons.inj h
    obtain ⟨-, h⟩ := List.cons.inj h
    obtain ⟨rfl, rfl⟩ := List.cons.inj h
    exact .inr (.inr (.inr ⟨rfl, rfl⟩))
  · have hLength := congrArg List.length h
    simp only [List.cons_append, List.length_cons, List.length_append, List.length_nil] at hLength
    omega

/-- A required heading has no newline and is not empty. -/
theorem heading_text {heading : Str} (h : heading ∈ aiDashboardAnalysisHeadings) :
    (0x0A : CodePoint) ∉ heading ∧ heading ≠ [] := by
  have hAll : (aiDashboardAnalysisHeadings.all fun heading =>
      !heading.contains 0x0A && !heading.isEmpty) = true := by decide
  have hThis := List.all_eq_true.mp hAll heading h
  simp only [Bool.and_eq_true, Bool.not_eq_true', List.isEmpty_eq_false_iff] at hThis
  refine ⟨fun hMem => ?_, hThis.2⟩
  rw [List.contains_iff_mem.mpr hMem] at hThis
  exact absurd hThis.1 (by decide)

theorem nodup_headings : aiDashboardAnalysisHeadings.Nodup := by decide

/-- **A section whose heading is not quoted** is the one that the validation has checked. -/
theorem section_of_unquoted {casefold : Str → Str} (hFold : CaseFolding casefold) {text : Str}
    (h : AnalysisChecked casefold text) {s : Str × List Str}
    (hs : s ∈ sectionsOf (splitLines text)) (hUnquoted : ¬Quoted (splitLines text) s.1) :
    SectionInOrder casefold s := by
  obtain ⟨before, after, hLines, hHeading, hBody, hAfter⟩ := exists_split_of_mem hs
  have hText : joinLines (before ++ s.1 :: (s.2 ++ after)) = text := by
    rw [← hLines, joinLines_splitLines]
  have hNone : s.2.filter isHeading = [] := by
    refine List.filter_eq_nil_iff.mpr fun l hl => ?_
    rw [hBody l hl]
    decide
  have hFilter : before.filter isHeading ++ s.1 :: after.filter isHeading =
      aiDashboardAnalysisHeadings := by
    rw [← h.headings, hLines, List.filter_append, List.filter_cons_of_pos hHeading,
      List.filter_append, hNone, List.nil_append]
  have hMem : s.1 ∈ aiDashboardAnalysisHeadings :=
    hFilter ▸ List.mem_append_right _ List.mem_cons_self
  obtain ⟨hNeedle, hNonempty⟩ := heading_text hMem
  -- the lines before the heading line are those that are looked at for a quotation
  have hFirst : s.1 ∉ before := by
    intro hIn
    have hNodup := hFilter ▸ nodup_headings
    exact (List.nodup_append.mp hNodup).2.2 s.1 (List.mem_filter.mpr ⟨hIn, hHeading⟩) s.1
      List.mem_cons_self rfl
  have hBefore : ∀ line ∈ before, ¬s.1 <:+: line := by
    intro line hLine hInfix
    refine hUnquoted ⟨line, ?_, hInfix⟩
    have hOther : ∀ l ∈ before, (l != s.1) = true := fun l hl =>
      bne_iff_ne.mpr fun hEq => hFirst (hEq ▸ hl)
    rw [hLines, List.takeWhile_append_of_pos hOther]
    exact List.mem_append_left _ hLine
  have hNext : ∀ next, (after.filter isHeading).head? = some next →
      located next text ≤ (endedLines (before ++ s.1 :: s.2)).length := by
    intro next hHead
    cases after with
    | nil => exact absurd hHead (by simp)
    | cons line after =>
      rw [List.filter_cons_of_pos (hAfter line rfl)] at hHead
      obtain rfl := Option.some.inj hHead
      have hSplit : before ++ s.1 :: (s.2 ++ line :: after) =
          (before ++ s.1 :: s.2) ++ line :: after := by simp
      rw [← hText, hSplit]
      exact located_le line _ after
  have hChecked : ∀ boundary,
      (after = [] ∨ boundary ≤ (endedLines (before ++ s.1 :: s.2)).length) →
        strip (locatedBody text s.1 boundary) ≠ [] → ∃ line ∈ s.2, strip line ≠ [] := by
    intro boundary hBoundary hBlank
    unfold locatedBody at hBlank
    rw [← hText] at hBlank
    exact nonblank_of_located hNeedle hNonempty hBefore hBoundary hBlank
  rcases headings_split hFilter with ⟨hName, hHead⟩ | ⟨hName, hHead⟩ | ⟨hName, hHead⟩ |
    ⟨hName, hLast⟩
  · refine ⟨hChecked _ (.inr (hNext _ hHead)) (hName ▸ h.summary), fun hLast => ?_⟩
    exact absurd (hName.symm.trans hLast) (by decide)
  · refine ⟨hChecked _ (.inr (hNext _ hHead)) (hName ▸ h.opportunity), fun hLast => ?_⟩
    exact absurd (hName.symm.trans hLast) (by decide)
  · refine ⟨hChecked _ (.inr (hNext _ hHead)) (hName ▸ h.recommendation), fun hLast => ?_⟩
    exact absurd (hName.symm.trans hLast) (by decide)
  · obtain rfl : after = [] := by
      cases after with
      | nil => rfl
      | cons line after =>
        rw [List.filter_cons_of_pos (hAfter line rfl)] at hLast
        exact absurd hLast (List.cons_ne_nil _ _)
    have hFilled := hChecked _ (.inl rfl) (hName ▸ h.disclaimer)
    refine ⟨hFilled, fun _ phrase hPhrase => ?_⟩
    have hNotEmpty : s.2 ≠ [] := by
      obtain ⟨line, hLine, -⟩ := hFilled
      exact List.ne_nil_of_mem hLine
    have hDrop := drop_located hNeedle hNonempty hBefore hNotEmpty
    rw [List.append_nil] at hText
    rw [hText, hName] at hDrop
    have hSplit : str "## Disclaimer" ++ 0x0A :: joinLines s.2 =
        str "## Disclaimer\n" ++ joinLines s.2 := rfl
    have hFolded : casefold (text.drop (located (str "## Disclaimer") text)) =
        str "## disclaimer" ++ 0x0A :: casefold (joinLines s.2) := by
      rw [hDrop, hSplit, hFold.append, hFold.ascii_text (by decide)]
      rfl
    have hFound : phrase <:+: str "## disclaimer" ++ 0x0A :: casefold (joinLines s.2) := by
      rw [← hFolded]
      rcases List.mem_cons.mp hPhrase with rfl | hPhrase
      · exact occursIn_iff.mp h.audit
      · rw [List.mem_singleton.mp hPhrase]
        exact occursIn_iff.mp h.accounting
    -- the heading itself has neither phrase
    have hOutside : (0x0A : CodePoint) ∉ phrase ∧ phrase ≠ [] ∧ ¬phrase <:+: str "## disclaimer" := by
      rcases List.mem_cons.mp hPhrase with rfl | hPhrase
      · decide
      · rw [List.mem_singleton.mp hPhrase]
        decide
    rw [infix_append_cons_iff hOutside.1 hOutside.2.1] at hFound
    exact occursIn_iff.mpr (hFound.resolve_left hOutside.2.2)

/-- **Accepted analyses.** An accepted text that quotes no heading before its line is sound. One
that does is sound exactly when each section whose heading is quoted is in order itself; the
validation has looked elsewhere for it. -/
theorem analysis_sound_iff {casefold : Str → Str} (hFold : CaseFolding casefold) {value : Str}
    (h : validDashboardAnalysis casefold value = true) :
    ((∀ s ∈ sectionsOf (splitLines (analysisText value)),
        ¬Quoted (splitLines (analysisText value)) s.1) → SoundAnalysis casefold value) ∧
      (SoundAnalysis casefold value ↔
        ∀ s ∈ sectionsOf (splitLines (analysisText value)),
          Quoted (splitLines (analysisText value)) s.1 → SectionInOrder casefold s) := by
  have hChecked := analysisChecked h
  have hSound : (∀ s ∈ sectionsOf (splitLines (analysisText value)),
      Quoted (splitLines (analysisText value)) s.1 → SectionInOrder casefold s) →
        SoundAnalysis casefold value := by
    intro hQuoted
    refine ⟨(map_fst_sectionsOf _).trans hChecked.headings, fun s hs => ?_⟩
    -- Only a quoted heading needs the condition; any other section is located right.
    by_cases hSection : Quoted (splitLines (analysisText value)) s.1
    · exact hQuoted s hs hSection
    · exact section_of_unquoted hFold hChecked hs hSection
  refine ⟨fun hNone => hSound fun s hs hQuoted => absurd hQuoted (hNone s hs), ?_, hSound⟩
  intro hAll s hs _
  exact hAll.sections s hs

namespace AnalysisSample

/-- `str.casefold` on ASCII texts. -/
def casefold (s : Str) : Str := s.map asciiLower

theorem caseFolding : CaseFolding casefold := ⟨fun _ _ => List.map_append, fun _ _ => rfl⟩

def analysis : Str :=
  str "## Summary\nSales grew.\n## Opportunity\nMargins.\n## Recommendation\nSee the evidence.\n" ++
    str "## Disclaimer\nThis is not an audit or a substitute for professional accounting review."

/-- The summary quotes the heading of the next section, which has a body of its own. -/
def filledAnalysis : Str :=
  str "## Summary\nSee ## Opportunity.\n## Opportunity\nMargins.\n## Recommendation\nWait.\n" ++
    str "## Disclaimer\nThis is not an audit or a substitute for professional accounting review."

/-- The summary quotes the heading of the next section, which is empty. -/
def quotingAnalysis : Str :=
  str "## Summary\nSee ## Opportunity.\n## Opportunity\n## Recommendation\nSee the evidence.\n" ++
    str "## Disclaimer\nThis is not an audit or a substitute for professional accounting review."

end AnalysisSample

/-- **An accepted text with an empty section.** -/
theorem quoted_heading_accepted :
    validDashboardAnalysis AnalysisSample.casefold AnalysisSample.quotingAnalysis = true ∧
      ¬SoundAnalysis AnalysisSample.casefold AnalysisSample.quotingAnalysis := by
  refine ⟨by decide +kernel, fun h => ?_⟩
  have hEmpty : (str "## Opportunity", ([] : List Str)) ∈
      sectionsOf (splitLines (analysisText AnalysisSample.quotingAnalysis)) := by
    decide +kernel
  obtain ⟨⟨line, hLine, -⟩, -⟩ := h.sections _ hEmpty
  exact List.not_mem_nil hLine

open AnalysisSample in
/-- An accepted text in which no heading is quoted, and one in which the heading of a section in
order is. -/
theorem analysis_sound_sample :
    SoundAnalysis casefold analysis ∧ SoundAnalysis casefold filledAnalysis := by
  constructor
  · refine (analysis_sound_iff caseFolding (by decide +kernel)).1 ?_
    intro s hs hQuoted
    have hUnquoted : ((sectionsOf (splitLines (analysisText analysis))).all fun s =>
      -- No heading is quoted in a line before it.
        ((splitLines (analysisText analysis)).takeWhile (· != s.1)).all fun line =>
          !decide (s.1 <:+: line)) = true := by
      decide +kernel
    obtain ⟨line, hLine, hInfix⟩ := hQuoted
    have hThis := List.all_eq_true.mp (List.all_eq_true.mp hUnquoted s hs) line hLine
    rw [decide_eq_true hInfix] at hThis
    exact absurd hThis (by decide)
  · refine (analysis_sound_iff caseFolding (by decide +kernel)).2.mpr ?_
    intro s hs hQuoted
    have hOne : ((sectionsOf (splitLines (analysisText filledAnalysis))).all fun s =>
      -- One heading is quoted, and its section has text.
        s == (str "## Opportunity", [str "Margins."]) ||
          ((splitLines (analysisText filledAnalysis)).takeWhile (· != s.1)).all fun line =>
            !decide (s.1 <:+: line)) = true := by
      decide +kernel
    rcases Bool.or_eq_true_iff.mp (List.all_eq_true.mp hOne s hs) with hThis | hUnquoted
    · rw [beq_iff_eq.mp hThis]
      exact ⟨⟨str "Margins.", List.mem_singleton_self _, by decide⟩,
        fun hLast => absurd hLast (by decide)⟩
    · obtain ⟨line, hLine, hInfix⟩ := hQuoted
      have hThis := List.all_eq_true.mp hUnquoted line hLine
      rw [decide_eq_true hInfix] at hThis
      exact absurd hThis (by decide)

end SpikeBackend
