import SpikeBackend.Execution.PromptContent

/-!
# The budget of a prompt

The loop of `_bounded_prompt` goes from the newest message to older ones and takes from its
budget what it keeps of each, with two characters for the separator. Whatever it selects, all
but the oldest segment is whole, and what it leaves out it leaves out for lack of budget.

* `selectSegments_spec` — the segments selected, newest first;
* `length_joinParagraphs` — what they take from the budget, and the last separator is not there;
* `bounded_prompt_keeps_newest` — the two together, for the prompt.
-/

namespace SpikeBackend

open Text

-- ---------------------------------------------------------------------------
-- The segments selected
-- ---------------------------------------------------------------------------

theorem spent_cons (segment : Str) (segments : List Str) :
    spent (segment :: segments) = segment.length + 2 + spent segments := by
  unfold spent
  rw [List.map_cons, List.sum_cons]

/-- **The segments selected.** All of some newest segments, and of the next one the end that the
budget lets in; it is cut only where the budget ends, and older ones are left out only when
nothing is left after its separator. -/
theorem selectSegments_spec {segments : List Str} (hSome : segments ≠ [])
    (hNonempty : ∀ segment ∈ segments, segment ≠ []) {remaining : Int} (hPos : 0 < remaining) :
    ∃ whole oldest older kept, segments = whole ++ oldest :: older ∧
      selectSegments segments remaining = whole ++ [kept] ∧
      kept <:+ oldest ∧ kept ≠ [] ∧
      (spent whole : Int) + kept.length ≤ remaining ∧
      (kept ≠ oldest → (spent whole : Int) + kept.length = remaining) ∧
      (older ≠ [] → remaining ≤ (spent whole : Int) + kept.length + 2) := by
  induction segments generalizing remaining with
  | nil => exact absurd rfl hSome
  | cons segment older ih =>
    have hHead : 0 < segment.length :=
      List.length_pos_iff.mpr (hNonempty segment List.mem_cons_self)
    have hSelect : selectSegments (segment :: older) remaining =
        segment.drop (segment.length - remaining.toNat) ::
          selectSegments older (remaining -
            ((segment.drop (segment.length - remaining.toNat)).length + 2)) := by
      rw [selectSegments, if_neg (by omega)]
    rcases Int.lt_or_le remaining segment.length with hLong | hFits
    · -- only the end of the segment fits, and nothing is left
      have hLength : (segment.drop (segment.length - remaining.toNat)).length =
          remaining.toNat := by
        rw [List.length_drop]
        omega
      have hEnd : selectSegments older (remaining - (remaining.toNat + 2)) = [] := by
        cases older with
        | nil => rfl
        | cons next older => rw [selectSegments, if_pos (by omega)]
      refine ⟨[], segment, older, segment.drop (segment.length - remaining.toNat), rfl, ?_,
        kept_suffix segment remaining, ?_, ?_, ?_, ?_⟩
      · rw [hSelect, hLength, hEnd]
        rfl
      · apply List.ne_nil_of_length_pos
        omega
      · rw [hLength]
        simp only [spent, List.map_nil, List.sum_nil]
        omega
      · intro _
        rw [hLength]
        simp only [spent, List.map_nil, List.sum_nil]
        omega
      · intro _
        rw [hLength]
        simp only [spent, List.map_nil, List.sum_nil]
        omega
    · -- the whole segment fits
      have hWhole : segment.drop (segment.length - remaining.toNat) = segment := by
        rw [Nat.sub_eq_zero_of_le (by omega), List.drop_zero]
      rw [hWhole] at hSelect
      by_cases hMore : older ≠ [] ∧ 0 < remaining - (segment.length + 2)
      · obtain ⟨whole, oldest, rest, kept, rfl, hRest, hSuffix, hKept, hLe, hCut, hLeft⟩ :=
          ih hMore.1 (fun s hs => hNonempty s (List.mem_cons_of_mem _ hs)) hMore.2
        have hSpent := spent_cons segment whole
        refine ⟨segment :: whole, oldest, rest, kept, rfl, ?_, hSuffix, hKept, by omega,
          fun hNe => ?_, fun hNe => ?_⟩
        · rw [hSelect, hRest]
          rfl
        · have hEq := hCut hNe
          omega
        · have hUsed := hLeft hNe
          omega
      · -- there is no older segment, or nothing is left for it
        have hEnd : selectSegments older (remaining - (segment.length + 2)) = [] := by
          cases older with
          | nil => rfl
          | cons next older =>
            have hNone : ¬0 < remaining - (segment.length + 2) := fun h =>
              hMore ⟨List.cons_ne_nil _ _, h⟩
            rw [selectSegments, if_pos (by omega)]
        refine ⟨[], segment, older, segment, rfl, ?_, List.suffix_rfl,
          List.ne_nil_of_length_pos hHead, ?_, fun hNe => absurd rfl hNe, fun hNe => ?_⟩
        · rw [hSelect, hEnd]
          rfl
        · simp only [spent, List.map_nil, List.sum_nil]
          omega
        · have hNone : ¬0 < remaining - (segment.length + 2) := fun h => hMore ⟨hNe, h⟩
          simp only [spent, List.map_nil, List.sum_nil]
          omega

/-- The joined segments take what they spend, but for the separator of the last one. -/
theorem length_joinParagraphs {texts : List Str} (h : texts ≠ []) :
    (joinParagraphs texts).length + 2 = spent texts := by
  unfold joinParagraphs
  induction texts with
  | nil => exact absurd rfl h
  | cons first texts ih =>
    -- There is one separator less than there are segments.
    cases texts with
    | nil =>
      rw [List.intercalate_singleton]
      rfl
    | cons second texts =>
      have hRest := ih (List.cons_ne_nil second texts)
      have hSeparator : (str "\n\n").length = 2 := rfl
      rw [List.intercalate_cons_cons, List.length_append, List.length_append, hSeparator,
        spent_cons]
      omega

-- ---------------------------------------------------------------------------
-- The prompt
-- ---------------------------------------------------------------------------

/-- No segment is empty: it has its label. -/
theorem promptSegment_ne_nil (message : AIMessage) : promptSegment message ≠ [] := by
  rw [promptSegment_eq]
  unfold promptLabel
  cases message.role with
  | user => exact List.append_ne_nil_of_left_ne_nil (by decide) _
  | assistant => exact List.append_ne_nil_of_left_ne_nil (by decide) _

/-- **The newest history within the budget.** A prompt has at most 30,000 characters. If no
message has content, it is the header without trailing whitespace. Otherwise it is the full
header and the join of some newest segments in order, all of them complete but the oldest one,
of which it has the tail; that is cut only where the limit is reached, and older segments are
left out only if no character fits behind one more separator. -/
theorem bounded_prompt_keeps_newest {messages : List AIMessage} {groundingContext : Option Str}
    {prompt : Str} (h : boundedPrompt messages groundingContext = some prompt) :
    prompt.length ≤ aiPromptMaxCharacters ∧
      (promptSegments messages = [] ∧
          prompt = ((promptHeader groundingContext).reverse.dropWhile isSpace).reverse ∨
        ∃ older oldest newer kept, promptSegments messages = older ++ oldest :: newer ∧
          kept ≠ [] ∧ kept <:+ oldest ∧
          prompt = promptHeader groundingContext ++ joinParagraphs (kept :: newer) ∧
          (kept ≠ oldest → prompt.length = aiPromptMaxCharacters) ∧
          (older ≠ [] → aiPromptMaxCharacters ≤ prompt.length + 2)) := by
  have hHeader := promptHeader_lt h
  have hSelected : promptSelected messages groundingContext =
      selectSegments (promptSegments messages).reverse
        ((aiPromptMaxCharacters : Int) - (promptHeader groundingContext).length) := rfl
  have hPrompt := boundedPrompt_eq_some h
  -- Without segments the header stands alone.
  by_cases hSegments : promptSegments messages = []
  · rw [hSelected, hSegments] at hPrompt
    rcases hPrompt with ⟨hSome, -⟩ | ⟨-, rfl⟩
    · exact absurd rfl hSome
    · refine ⟨?_, .inl ⟨hSegments, rfl⟩⟩
      have hStripped : ((promptHeader groundingContext).reverse.dropWhile isSpace).Sublist
          (promptHeader groundingContext).reverse := List.dropWhile_sublist isSpace
      have hLength := hStripped.length_le
      rw [List.length_reverse] at hLength ⊢
      omega
  · have hNonempty : ∀ segment ∈ (promptSegments messages).reverse, segment ≠ [] := by
      intro segment hMem
      obtain ⟨message, -, rfl⟩ := List.mem_map.mp (List.mem_reverse.mp hMem)
      exact promptSegment_ne_nil message
    -- The selection goes from the newest segment back: some whole, one perhaps cut, the others left
    -- out.
    obtain ⟨whole, oldest, older, kept, hSplit, hSelect, hSuffix, hKept, hLe, hCut, hLeft⟩ :=
      selectSegments_spec (List.reverse_ne_nil_iff.mpr hSegments) hNonempty
        (by omega : (0 : Int) <
          (aiPromptMaxCharacters : Int) - (promptHeader groundingContext).length)
    have hTexts : (promptSelected messages groundingContext).reverse = kept :: whole.reverse := by
      rw [hSelected, hSelect, List.reverse_append]
      rfl
    -- The joined text is as long as what was spent.
    have hLength : (joinParagraphs (kept :: whole.reverse)).length =
        spent whole + kept.length := by
      have hJoin := length_joinParagraphs (List.cons_ne_nil kept whole.reverse)
      rw [spent_cons, spent_reverse] at hJoin
      omega
    have hSome : joinParagraphs (kept :: whole.reverse) ≠ [] := by
      apply List.ne_nil_of_length_pos
      have hPos := List.length_pos_iff.mpr hKept
      omega
    rw [hTexts] at hPrompt
    rcases hPrompt with ⟨-, rfl⟩ | ⟨hNone, -⟩
    · have hTotal : (promptHeader groundingContext ++ joinParagraphs (kept :: whole.reverse)).length =
          (promptHeader groundingContext).length +
            (joinParagraphs (kept :: whole.reverse)).length := List.length_append
      refine ⟨by omega, .inr ⟨older.reverse, oldest, whole.reverse, kept, ?_, hKept, hSuffix, rfl,
        fun hNe => ?_, fun hNe => ?_⟩⟩
      · rw [← List.reverse_reverse (promptSegments messages), hSplit, List.reverse_append,
          List.reverse_cons, List.append_assoc]
        rfl
      · have hEq := hCut hNe
        omega
      · have hUsed := hLeft (by simpa using hNe)
        omega
    · exact absurd hNone hSome

namespace PromptSample

/-- A message of conversation 1. -/
def message (id : Uuid) (role : AIMessageRole) (content : Str) : AIMessage where
  id := id
  businessId := 1
  conversationId := 1
  role := role
  content := content
  createdAt := seconds id
  updatedAt := seconds id

def longAnswer : Str := List.replicate 40000 0x61

/-- A long answer, a blank message and a question. -/
def history : List AIMessage :=
  [message 1 .assistant longAnswer, message 2 .user (str " "), message 3 .user (str " Sales? ")]

/-- The long answer of the sample has no blanks to strip. -/
theorem strip_longAnswer : strip longAnswer = longAnswer := by
  have hLetter : ∀ c ∈ longAnswer, isSpace c = false := by
    intro c hc
    rw [List.eq_of_mem_replicate hc]
    decide
  exact strip_eq_self (fun c hc => hLetter c (List.mem_of_mem_head? hc))
    fun c hc => hLetter c (List.mem_of_getLast? hc)

/-- The segments of the sample's history. -/
theorem promptSegments_history :
    promptSegments history = [str "Assistant: " ++ longAnswer, str "User: Sales?"] := by
  have hFull : strip longAnswer ≠ [] := by
    rw [strip_longAnswer, longAnswer, List.replicate_succ]
    exact List.cons_ne_nil _ _
  have hBlank : strip (str " ") = [] := by decide
  have hQuestion : strip (str " Sales? ") = str "Sales?" := by decide
  unfold promptSegments history
  rw [List.filter_cons_of_pos (by exact decide_eq_true hFull), List.filter_cons_of_neg
    (by simp [message, hBlank]), List.filter_cons_of_pos (by simp [message, hQuestion]; decide)]
  show [str "Assistant: " ++ strip longAnswer, str "User: " ++ strip (str " Sales? ")] = _
  rw [strip_longAnswer, hQuestion]
  rfl

end PromptSample

open PromptSample in
/-- Behind a header, the question is whole, and of the long answer the end is kept that fills the
prompt. -/
theorem bounded_prompt_sample :
    ∃ prompt kept, boundedPrompt history (some (str "\x7b\x7d")) = some prompt ∧
      prompt = promptHeader (some (str "\x7b\x7d")) ++ joinParagraphs [kept, str "User: Sales?"] ∧
      kept <:+ str "Assistant: " ++ longAnswer ∧ prompt.length = aiPromptMaxCharacters := by
  have hHeader : (promptHeader (some (str "\x7b\x7d"))).length ≤ 100 := by decide
  have hMost : aiPromptMaxCharacters = 30000 := rfl
  obtain ⟨prompt, hPrompt⟩ : ∃ prompt,
      boundedPrompt history (some (str "\x7b\x7d")) = some prompt := by
    rw [boundedPrompt_eq, if_neg (by omega)]
    exact ⟨_, rfl⟩
  obtain ⟨hLength, hShape⟩ := bounded_prompt_keeps_newest hPrompt
  have hLong : longAnswer.length = 40000 := List.length_replicate
  rw [promptSegments_history] at hShape
  generalize longAnswer = answer at hShape hLong ⊢
  rcases hShape with ⟨hNone, -⟩ | ⟨older, oldest, newer, kept, hSplit, -, hSuffix, rfl, hCut, hLeft⟩
  · exact absurd hNone (List.cons_ne_nil _ _)
  · cases older with
    | nil =>
      obtain ⟨rfl, rfl⟩ := List.cons.inj hSplit
      refine ⟨_, kept, hPrompt, rfl, hSuffix, hCut fun hWhole => ?_⟩
      -- the whole answer is longer than a prompt
      have hJoined := length_joinParagraphs (List.cons_ne_nil kept [str "User: Sales?"])
      rw [spent_cons, hWhole, List.length_append] at hJoined
      rw [List.length_append, hWhole] at hLength
      omega
    | cons first older =>
      -- the question alone does not fill the prompt
      exfalso
      have hFilled := hLeft (List.cons_ne_nil _ _)
      obtain ⟨-, hSplit⟩ := List.cons.inj hSplit
      cases older with
      | nil =>
        obtain ⟨rfl, rfl⟩ := List.cons.inj hSplit
        have hShort : kept.length ≤ (str "User: Sales?").length := hSuffix.length_le
        have hQuestion : (str "User: Sales?").length = 12 := by decide
        have hJoined := length_joinParagraphs (List.cons_ne_nil kept [])
        rw [spent_cons] at hJoined
        have hNothing : spent [] = 0 := rfl
        rw [List.length_append] at hFilled
        omega
      | cons second older =>
        have hLengths := congrArg List.length hSplit
        simp at hLengths

end SpikeBackend
