import Mathlib.Algebra.Ring.Nat
import Mathlib.Data.List.Infix
import SpikeBackend.Execution.Leaks

/-!
# The question in the prompt

A claim builds its prompt from the twelve newest messages of the conversation that are
completed or the claimed one, and fills the characters that the header leaves from the
newest message backwards. So the question is in the prompt as long as fewer than twelve
completed messages are newer, and these leave room for it; both can fail.

* `infix_boundedPrompt`, `not_infix_boundedPrompt` — the budget of characters;
* `historyForClaim_cases` — the limit on the messages;
* `ExecutionState.claimStep_shows` — in every run, a question that fits is in its prompt;
* `question_in_prompt_iff` — the two together, for every claim that builds a prompt;
* `question_left_out` — a run in which a paid prompt does not contain the question.
-/

namespace SpikeBackend

open Relational Text Outcome Session Machine

-- ---------------------------------------------------------------------------
-- The segments that are kept
-- ---------------------------------------------------------------------------

/-- The characters that segments take from the budget, each with its separator. -/
def spent (segments : List Str) : Nat := (segments.map (·.length + 2)).sum

theorem kept_suffix (segment : Str) (remaining : Int) :
    segment.drop (segment.length - remaining.toNat) <:+ segment := List.drop_suffix _ _

/-- Whatever is selected is the end of a segment. -/
theorem suffix_of_mem_selectSegments {segments : List Str} {remaining : Int} {kept : Str}
    (h : kept ∈ selectSegments segments remaining) : ∃ segment ∈ segments, kept <:+ segment := by
  induction segments generalizing remaining with
  | nil => exact absurd h List.not_mem_nil
  | cons segment older ih =>
    rw [selectSegments] at h
    split at h
    · exact absurd h List.not_mem_nil
    · rcases List.mem_cons.mp h with hKept | hOlder
      · exact ⟨segment, List.mem_cons_self, hKept ▸ kept_suffix segment remaining⟩
      · obtain ⟨segment', hMem, hSuffix⟩ := ih hOlder
        exact ⟨segment', List.mem_cons_of_mem _ hMem, hSuffix⟩

/-- **A segment that the newer ones leave room for.** It is selected with at least as many
of its last characters as the room has. -/
theorem exists_selected {newer older : List Str} {segment text : Str} {remaining : Int}
    (hText : text <:+ segment) (hNonempty : text ≠ [])
    (hRoom : (spent newer : Int) + text.length ≤ remaining) :
    ∃ kept ∈ selectSegments (newer ++ segment :: older) remaining, text <:+ kept := by
  have hPositive : 0 < text.length := List.length_pos_iff.mpr hNonempty
  induction newer generalizing remaining with
  | nil =>
    have hText' : (text.length : Int) ≤ remaining := by
      simpa [spent] using hRoom
    have hLength := hText.length_le
    refine ⟨segment.drop (segment.length - remaining.toNat), ?_, ?_⟩
    · rw [List.nil_append, selectSegments, if_neg (by omega)]
      exact List.mem_cons_self
    · refine List.suffix_of_suffix_length_le hText (kept_suffix segment remaining) ?_
      rw [List.length_drop]
      omega
  | cons first newer ih =>
    have hSpent : spent (first :: newer) = first.length + 2 + spent newer := by
      simp [spent]
    rw [hSpent] at hRoom
    push_cast at hRoom
    -- the newer segment fits, so all of it is kept
    have hWhole : first.drop (first.length - remaining.toNat) = first := by
      have hZero : first.length - remaining.toNat = 0 := by omega
      rw [hZero, List.drop_zero]
    have hRest : (spent newer : Int) + text.length ≤ remaining - (first.length + 2) := by omega
    obtain ⟨kept, hKept, hSuffix⟩ := ih hRest
    refine ⟨kept, ?_, hSuffix⟩
    rw [List.cons_append, selectSegments, if_neg (by omega)]
    simp only [hWhole]
    exact List.mem_cons_of_mem _ hKept

/-- **A segment that the newer ones leave no room for.** A character that only the segment
has, and that its kept end may miss, is selected fewer times than the text has it. -/
theorem count_selected_lt {newer older : List Str} {pre text : Str} {c : CodePoint}
    {remaining : Int} (hFirst : text.head? = some c)
    (hNewer : ∀ segment ∈ newer, c ∉ segment) (hOlder : ∀ segment ∈ older, c ∉ segment)
    (hRoom : remaining < (spent newer : Int) + text.length) :
    ((selectSegments (newer ++ (pre ++ text) :: older) remaining).map (List.count c)).sum <
      text.count c := by
  have hMem : c ∈ text := List.mem_of_mem_head? hFirst
  have hPositive : 0 < text.count c := List.count_pos_iff.mpr hMem
  have hNone : ∀ (segments : List Str) (r : Int), (∀ segment ∈ segments, c ∉ segment) →
      ((selectSegments segments r).map (List.count c)).sum = 0 := by
    intro segments r hSegments
    refine List.sum_eq_zero_iff_forall_eq_nat.mpr fun n hn => ?_
    obtain ⟨kept, hKept, rfl⟩ := List.mem_map.mp hn
    obtain ⟨segment, hSegment, hSuffix⟩ := suffix_of_mem_selectSegments hKept
    exact List.count_eq_zero.mpr fun hc => hSegments segment hSegment (hSuffix.mem hc)
  induction newer generalizing remaining with
  | nil =>
    have hShort : remaining < text.length := by simpa [spent] using hRoom
    rw [List.nil_append, selectSegments]
    split
    · exact hPositive
    · next hLeft =>
      simp only [List.map_cons, List.sum_cons]
      rw [hNone older _ hOlder, Nat.add_zero]
      -- the first character of the text is not kept
      obtain ⟨rest, rfl⟩ : ∃ rest, text = c :: rest := List.head?_eq_some_iff.mp hFirst
      have hKept : (pre ++ c :: rest).drop ((pre ++ c :: rest).length - remaining.toNat) <:+
          rest := by
        refine List.suffix_of_suffix_length_le (List.drop_suffix _ _) ?_ ?_
        · exact ⟨pre ++ [c], by simp⟩
        · rw [List.length_drop]
          simp only [List.length_append, List.length_cons] at hShort ⊢
          omega
      calc ((pre ++ c :: rest).drop ((pre ++ c :: rest).length - remaining.toNat)).count c
          ≤ rest.count c := hKept.sublist.count_le c
        _ < (c :: rest).count c := by
          rw [List.count_cons_self]
          exact Nat.lt_succ_self _
  | cons first newer ih =>
    have hSpent : spent (first :: newer) = first.length + 2 + spent newer := by
      simp [spent]
    rw [hSpent] at hRoom
    push_cast at hRoom
    rw [List.cons_append, selectSegments]
    split
    · exact hPositive
    · next hLeft =>
      simp only [List.map_cons, List.sum_cons]
      have hAbsent : (first.drop (first.length - remaining.toNat)).count c = 0 :=
        List.count_eq_zero.mpr fun hc =>
          hNewer first List.mem_cons_self ((kept_suffix first remaining).mem hc)
      rw [hAbsent, Nat.zero_add]
      refine ih (fun segment hSegment => hNewer segment (List.mem_cons_of_mem _ hSegment)) ?_
      rw [List.length_drop]
      omega

-- ---------------------------------------------------------------------------
-- The joined paragraphs
-- ---------------------------------------------------------------------------

/-- Each paragraph stands in the joined text. -/
theorem infix_joinParagraphs {texts : List Str} {text : Str} (h : text ∈ texts) :
    text <:+: joinParagraphs texts := by
  unfold joinParagraphs
  induction texts with
  | nil => exact absurd h List.not_mem_nil
  | cons first texts ih =>
    cases texts with
    | nil =>
      have hJoined : text = List.intercalate (str "\n\n") [first] := by
        rw [List.intercalate_singleton]
        exact List.mem_singleton.mp h
      exact hJoined ▸ List.infix_rfl
    | cons second texts =>
      rw [List.intercalate_cons_cons]
      -- The first paragraph, or one of the rest after the separator.
      rcases List.mem_cons.mp h with rfl | hRest
      · exact ⟨[], str "\n\n" ++ (str "\n\n").intercalate (second :: texts), by simp⟩
      · exact (ih hRest).trans (List.suffix_append _ _).isInfix

/-- A character that the separators do not have comes from the paragraphs. -/
theorem count_joinParagraphs {c : CodePoint} (hSeparator : c ∉ str "\n\n") (texts : List Str) :
    (joinParagraphs texts).count c = (texts.map (List.count c)).sum := by
  unfold joinParagraphs
  induction texts with
  | nil => rfl
  | cons first texts ih =>
    cases texts with
    | nil => simp
    | cons second texts =>
      rw [List.intercalate_cons_cons, List.count_append, List.count_append, ih,
        List.count_eq_zero.mpr hSeparator, Nat.add_zero]
      simp only [List.map_cons, List.sum_cons]

-- ---------------------------------------------------------------------------
-- The bounded prompt
-- ---------------------------------------------------------------------------

/-- What the prompt says before the conversation. -/
def promptHeader : Option Str → Str
  | none => []
  | some context =>
    str "Immutable dashboard snapshot context (JSON):\n" ++ context ++ str "\n\nConversation:\n"

/-- The name of a role in front of a line. -/
def promptLabel (message : AIMessage) : Str :=
  match message.role with
  | .user => str "User: "
  | .assistant => str "Assistant: "

/-- A segment is the label of its role and the stripped content. -/
theorem promptSegment_eq (message : AIMessage) :
    promptSegment message = promptLabel message ++ strip message.content := rfl

/-- The lines of the messages that are not blank. -/
def promptSegments (messages : List AIMessage) : List Str :=
  (messages.filter fun m => strip m.content ≠ []).map promptSegment

/-- The characters that messages take from the budget. -/
def promptSpent (messages : List AIMessage) : Nat := spent (promptSegments messages)

/-- The segments selected for a prompt, newest first. -/
def promptSelected (messages : List AIMessage) (groundingContext : Option Str) : List Str :=
  selectSegments (promptSegments messages).reverse
    ((aiPromptMaxCharacters : Int) - (promptHeader groundingContext).length)

/-- The bounded prompt in terms of the header and the segments that are kept. -/
theorem boundedPrompt_eq (messages : List AIMessage) (groundingContext : Option Str) :
    boundedPrompt messages groundingContext =
      if (aiPromptMaxCharacters : Int) - (promptHeader groundingContext).length ≤ 0 then none
      else some (if joinParagraphs (promptSelected messages groundingContext).reverse ≠ [] then
          promptHeader groundingContext ++
            joinParagraphs (promptSelected messages groundingContext).reverse
        else ((promptHeader groundingContext).reverse.dropWhile isSpace).reverse) := by
  cases groundingContext with
  | none => rfl
  | some context => rfl

/-- A prompt is built only where the header leaves room. -/
theorem promptHeader_lt {messages : List AIMessage} {groundingContext : Option Str} {prompt : Str}
    (h : boundedPrompt messages groundingContext = some prompt) :
    (promptHeader groundingContext).length < aiPromptMaxCharacters := by
  rw [boundedPrompt_eq] at h
  split at h
  · exact absurd h (by simp)
  · next hRoom => omega

/-- The prompt is the header and the segments selected, or the header alone, stripped. -/
theorem boundedPrompt_eq_some {messages : List AIMessage} {groundingContext : Option Str}
    {prompt : Str} (h : boundedPrompt messages groundingContext = some prompt) :
    (joinParagraphs (promptSelected messages groundingContext).reverse ≠ [] ∧
        prompt = promptHeader groundingContext ++
          joinParagraphs (promptSelected messages groundingContext).reverse) ∨
      (joinParagraphs (promptSelected messages groundingContext).reverse = [] ∧
        prompt = ((promptHeader groundingContext).reverse.dropWhile isSpace).reverse) := by
  -- The header leaves room, and either some segment is kept or the header stands alone.
  rw [boundedPrompt_eq] at h
  split at h
  · exact absurd h (by simp)
  · have hPrompt := Option.some.inj h
    split at hPrompt
    · next hSome => exact .inl ⟨hSome, hPrompt.symm⟩
    · next hNone => exact .inr ⟨not_not.mp hNone, hPrompt.symm⟩

theorem promptSegments_append (messages messages' : List AIMessage) :
    promptSegments (messages ++ messages') = promptSegments messages ++ promptSegments messages' := by
  unfold promptSegments
  rw [List.filter_append, List.map_append]

/-- A message with content contributes its segment. -/
theorem promptSegments_cons {message : AIMessage} (h : strip message.content ≠ [])
    (messages : List AIMessage) :
    promptSegments (message :: messages) = promptSegment message :: promptSegments messages := by
  unfold promptSegments
  rw [List.filter_cons_of_pos (by simpa using h), List.map_cons]

theorem spent_reverse (segments : List Str) : spent segments.reverse = spent segments := by
  unfold spent
  rw [List.map_reverse, List.sum_reverse]

/-- The segments of a conversation with the question in it, newest first. -/
theorem reverse_promptSegments {older newer : List AIMessage} {question : AIMessage}
    (hContent : strip question.content ≠ []) :
    (promptSegments (older ++ question :: newer)).reverse =
      (promptSegments newer).reverse ++ (promptLabel question ++ strip question.content) ::
        (promptSegments older).reverse := by
  rw [promptSegments_append, promptSegments_cons hContent, List.reverse_append,
    List.reverse_cons, List.append_assoc, List.singleton_append, promptSegment_eq]

/-- **A question that fits.** -/
theorem infix_boundedPrompt {older newer : List AIMessage} {question : AIMessage}
    {groundingContext : Option Str} {prompt : Str}
    (h : boundedPrompt (older ++ question :: newer) groundingContext = some prompt)
    (hContent : strip question.content ≠ [])
    (hRoom : (promptHeader groundingContext).length + promptSpent newer +
      (strip question.content).length ≤ aiPromptMaxCharacters) :
    strip question.content <:+: prompt := by
  have hRoom' : (spent (promptSegments newer).reverse : Int) +
      (strip question.content).length ≤
        (aiPromptMaxCharacters : Int) - (promptHeader groundingContext).length := by
    rw [spent_reverse]
    unfold promptSpent at hRoom
    omega
  have hText : strip question.content <:+ promptLabel question ++ strip question.content :=
    List.suffix_append _ _
  obtain ⟨kept, hKept, hSuffix⟩ := exists_selected hText hContent hRoom'
  have hSelected : kept ∈ (promptSelected (older ++ question :: newer) groundingContext).reverse := by
    unfold promptSelected
    rw [reverse_promptSegments hContent]
    exact List.mem_reverse.mpr hKept
  have hInfix := hSuffix.isInfix.trans (infix_joinParagraphs hSelected)
  rcases boundedPrompt_eq_some h with ⟨-, rfl⟩ | ⟨hEmpty, -⟩
  · exact hInfix.trans (List.suffix_append _ _).isInfix
  · -- a selection with the question in it is not empty
    rw [hEmpty] at hInfix
    exact absurd (List.infix_nil.mp hInfix) hContent

/-- A character that the header and the separators do not have comes from the segments. -/
theorem count_boundedPrompt {messages : List AIMessage} {groundingContext : Option Str}
    {prompt : Str} {c : CodePoint} (h : boundedPrompt messages groundingContext = some prompt)
    (hHeader : c ∉ promptHeader groundingContext) (hSeparator : c ∉ str "\n\n") :
    prompt.count c ≤ ((promptSelected messages groundingContext).map (List.count c)).sum := by
  have hNone := List.count_eq_zero.mpr hHeader
  rcases boundedPrompt_eq_some h with ⟨-, rfl⟩ | ⟨-, rfl⟩
  · rw [List.count_append, hNone, Nat.zero_add, count_joinParagraphs hSeparator, List.map_reverse,
      List.sum_reverse]
  · -- The header alone, without its blanks at the end.
    have hStripped : c ∉ ((promptHeader groundingContext).reverse.dropWhile isSpace).reverse := by
      intro hMem
      have hMem' := (List.dropWhile_suffix _).mem (List.mem_reverse.mp hMem)
      exact hHeader (List.mem_reverse.mp hMem')
    rw [List.count_eq_zero.mpr hStripped]
    exact Nat.zero_le _

/-- A stripped text stands in the text. -/
theorem strip_isInfix (s : Str) : strip s <:+: s := by
  unfold strip trimBy
  have hEnd := List.dropWhile_suffix isSpace (l := (s.dropWhile isSpace).reverse)
  have hStart := List.dropWhile_suffix isSpace (l := s)
  have hPrefix : ((s.dropWhile isSpace).reverse.dropWhile isSpace).reverse <+:
      s.dropWhile isSpace := by
    rw [← List.reverse_suffix, List.reverse_reverse]
    exact hEnd
  exact hPrefix.isInfix.trans hStart.isInfix

/-- A character that is only in the contents of other messages is in no segment of these. -/
theorem not_mem_promptSegments {messages : List AIMessage} {c : CodePoint}
    (hUser : c ∉ str "User: ") (hAssistant : c ∉ str "Assistant: ")
    (hOthers : ∀ m ∈ messages, c ∉ m.content) : ∀ segment ∈ promptSegments messages, c ∉ segment := by
  intro segment hSegment hMem
  obtain ⟨m, hm, rfl⟩ := List.mem_map.mp hSegment
  rw [promptSegment_eq] at hMem
  rcases List.mem_append.mp hMem with hLabel | hContent
  · unfold promptLabel at hLabel
    split at hLabel
    · exact hUser hLabel
    · exact hAssistant hLabel
  · exact hOthers m (List.mem_of_mem_filter hm) ((strip_isInfix m.content).mem hContent)

/-- **A question that does not fit**, if its first character is nowhere else. -/
theorem not_infix_boundedPrompt {older newer : List AIMessage} {question : AIMessage}
    {groundingContext : Option Str} {prompt : Str} {c : CodePoint}
    (h : boundedPrompt (older ++ question :: newer) groundingContext = some prompt)
    (hFirst : (strip question.content).head? = some c)
    (hHeader : c ∉ promptHeader groundingContext) (hSeparator : c ∉ str "\n\n")
    (hUser : c ∉ str "User: ") (hAssistant : c ∉ str "Assistant: ")
    (hOthers : ∀ m ∈ older ++ newer, c ∉ m.content)
    (hRoom : aiPromptMaxCharacters < (promptHeader groundingContext).length + promptSpent newer +
      (strip question.content).length) :
    ¬strip question.content <:+: prompt := by
  intro hInfix
  have hContent : strip question.content ≠ [] := by
    intro hEmpty
    rw [hEmpty] at hFirst
    exact absurd hFirst (by simp)
  -- The room left by the newer messages is less than the question needs.
  have hRoom' : (aiPromptMaxCharacters : Int) - (promptHeader groundingContext).length <
      (spent (promptSegments newer).reverse : Int) + (strip question.content).length := by
    rw [spent_reverse]
    unfold promptSpent at hRoom
    omega
  have hNewer : ∀ segment ∈ (promptSegments newer).reverse, c ∉ segment := fun segment hSegment =>
    not_mem_promptSegments hUser hAssistant (fun m hm => hOthers m (List.mem_append_right _ hm))
      segment (List.mem_reverse.mp hSegment)
  have hOlder : ∀ segment ∈ (promptSegments older).reverse, c ∉ segment := fun segment hSegment =>
    not_mem_promptSegments hUser hAssistant (fun m hm => hOthers m (List.mem_append_left _ hm))
      segment (List.mem_reverse.mp hSegment)
  -- Some character of the question is cut, so the prompt has the mark fewer times than the
  -- question.
  have hSelected : ((promptSelected (older ++ question :: newer) groundingContext).map
      (List.count c)).sum < (strip question.content).count c := by
    unfold promptSelected
    rw [reverse_promptSegments hContent]
    exact count_selected_lt hFirst hNewer hOlder hRoom'
  have hPrompt := count_boundedPrompt h hHeader hSeparator
  have hWhole := hInfix.sublist.count_le c
  omega

/-- **A question that is not among the messages.** -/
theorem not_infix_of_absent {messages : List AIMessage} {groundingContext : Option Str}
    {prompt text : Str} {c : CodePoint}
    (h : boundedPrompt messages groundingContext = some prompt) (hFirst : text.head? = some c)
    (hHeader : c ∉ promptHeader groundingContext) (hSeparator : c ∉ str "\n\n")
    (hUser : c ∉ str "User: ") (hAssistant : c ∉ str "Assistant: ")
    (hOthers : ∀ m ∈ messages, c ∉ m.content) : ¬text <:+: prompt := by
  intro hInfix
  -- The mark is in no message, hence in no segment.
  have hNone : ((promptSelected messages groundingContext).map (List.count c)).sum = 0 := by
    refine List.sum_eq_zero_iff_forall_eq_nat.mpr fun n hn => ?_
    obtain ⟨kept, hKept, rfl⟩ := List.mem_map.mp hn
    obtain ⟨segment, hSegment, hSuffix⟩ := suffix_of_mem_selectSegments hKept
    have hAbsent := not_mem_promptSegments hUser hAssistant hOthers segment
      (List.mem_reverse.mp hSegment)
    exact List.count_eq_zero.mpr fun hc => hAbsent (hSuffix.mem hc)
  have hPrompt := count_boundedPrompt h hHeader hSeparator
  have hMem := hInfix.mem (List.mem_of_mem_head? hFirst)
  have hPositive := List.count_pos_iff.mpr hMem
  omega

-- ---------------------------------------------------------------------------
-- The history of a claim
-- ---------------------------------------------------------------------------

namespace AiDatabase

variable {db : AiDatabase} {scope : Uuid}

instance newerFirst_total : Std.Total newerFirst := by
  refine ⟨fun a b => ?_⟩
  unfold newerFirst
  rcases lt_trichotomy a.createdAt b.createdAt with hLt | hEq | hGt
  · exact .inr (.inl hLt)
  · rcases Nat.le_total b.id a.id with hId | hId
    · exact .inl (.inr ⟨hEq.symm, hId⟩)
    · exact .inr (.inr ⟨hEq, hId⟩)
  · exact .inl (.inl hGt)

instance newerFirst_trans : IsTrans AIMessage newerFirst := by
  refine ⟨fun a b c hab hbc => ?_⟩
  unfold newerFirst at *
  rcases hab with hab | ⟨hab, hIds⟩
  · rcases hbc with hbc | ⟨hbc, -⟩
    · exact .inl (hbc.trans hab)
    · exact .inl (hbc ▸ hab)
  · rcases hbc with hbc | ⟨hbc, hIds'⟩
    · exact .inl (hab ▸ hbc)
    · exact .inr ⟨hbc.trans hab, hIds'.trans hIds⟩

/-- Two messages that are each the newer of the two have one id. -/
theorem newerFirst_antisymm {a b : AIMessage} (hab : newerFirst a b) (hba : newerFirst b a) :
    a.id = b.id := by
  unfold newerFirst at hab hba
  rcases hab with hab | ⟨hab, hIds⟩
  · rcases hba with hba | ⟨hba, -⟩
    · exact absurd hba hab.asymm
    · exact absurd hab (by rw [hba]; exact lt_irrefl _)
  · rcases hba with hba | ⟨-, hIds'⟩
    · exact absurd hba (by rw [hab]; exact lt_irrefl _)
    · exact Nat.le_antisymm hIds' hIds

/-- A completed message of the conversation of the question, other than the question. -/
def Answered (scope : Uuid) (question m : AIMessage) : Prop :=
  m.businessId = scope ∧ m.conversationId = question.conversationId ∧ m.status = .completed ∧
    m.id ≠ question.id

/-- The completed messages of its conversation that are newer than a question. -/
def newerThan (db : AiDatabase) (scope : Uuid) (question : AIMessage) : List AIMessage :=
  db.messages.rows.filter fun m =>
    (m.businessId == scope && m.conversationId == question.conversationId &&
      (m.status == .completed && m.id != question.id)) && decide (newerFirst m question)

/-- **The history of a claim.** The question comes between the messages that are newer and
some of the others, or the newer ones are all there is. -/
theorem historyForClaim_cases {row current : AIMessage} (hRow : row ∈ db.messages)
    (hBusiness : row.businessId = scope) (hId : current.id = row.id)
    (hConversation : current.conversationId = row.conversationId) :
    ∃ older newer, newer.Perm (db.newerThan scope row) ∧
      (∀ m ∈ older ++ newer, m ∈ db.messages ∧ Answered scope row m) ∧
      (newer.length < aiPromptHistoryMessageLimit →
        db.historyForClaim scope current = older ++ current :: newer) ∧
      (aiPromptHistoryMessageLimit ≤ newer.length →
        ∀ m ∈ db.historyForClaim scope current, m ∈ newer) := by
  let found := db.messages.rows.filter fun m =>
    m.businessId == scope && m.conversationId == current.conversationId &&
      (m.status == .completed || m.id == current.id)
  have hPerm := List.perm_insertionSort newerFirst found
  have hSorted := List.pairwise_insertionSort newerFirst found
  have hNodup : (found.insertionSort newerFirst).Pairwise fun a b => a.id ≠ b.id := by
    have hRows : db.messages.rows.Pairwise fun a b => a.id ≠ b.id :=
      db.messages.apart.imp fun h => h.1
    exact (hRows.filter _).perm hPerm.symm fun h => h.symm
  have hFound : row ∈ found.insertionSort newerFirst := by
    refine hPerm.mem_iff.mpr (List.mem_filter.mpr ⟨hRow, ?_⟩)
    simp [hBusiness, hConversation, hId]
  obtain ⟨before, after, hSplit⟩ := List.append_of_mem hFound
  rw [hSplit] at hSorted hNodup hPerm
  -- the messages before the question are the newer ones
  have hBefore : ∀ m ∈ before, newerFirst m row ∧ m.id ≠ row.id := by
    intro m hm
    have hLeft := (List.pairwise_append.mp hSorted).2.2 m hm row List.mem_cons_self
    have hNe := (List.pairwise_append.mp hNodup).2.2 m hm row List.mem_cons_self
    exact ⟨hLeft, hNe⟩
  have hAfter : ∀ m ∈ after, ¬newerFirst m row ∧ m.id ≠ row.id := by
    intro m hm
    have hRight := (List.pairwise_cons.mp (List.pairwise_append.mp hSorted).2.1).1 m hm
    have hNe := (List.pairwise_cons.mp (List.pairwise_append.mp hNodup).2.1).1 m hm
    exact ⟨fun h => hNe (newerFirst_antisymm hRight h), hNe.symm⟩
  have hAnswered : ∀ m ∈ before ++ after, m ∈ db.messages ∧ Answered scope row m := by
    intro m hm
    have hNe : m.id ≠ row.id := by
      rcases List.mem_append.mp hm with hm | hm
      · exact (hBefore m hm).2
      · exact (hAfter m hm).2
    have hMem : m ∈ found := by
      refine hPerm.mem_iff.mp ?_
      rcases List.mem_append.mp hm with hm | hm
      · exact List.mem_append_left _ hm
      · exact List.mem_append_right _ (List.mem_cons_of_mem _ hm)
    obtain ⟨hMem, hCond⟩ := List.mem_filter.mp hMem
    simp only [Bool.and_eq_true, Bool.or_eq_true, beq_iff_eq] at hCond
    obtain ⟨⟨hScope, hConv⟩, hStatus⟩ := hCond
    exact ⟨hMem, hScope, hConv.trans hConversation,
      hStatus.resolve_right fun h => hNe (h.trans hId), hNe⟩
  have hNewer : before.Perm (db.newerThan scope row) := by
    let isNewer := fun m : AIMessage => m.id != row.id && decide (newerFirst m row)
    have hFilter : (before ++ row :: after).filter isNewer = before := by
      rw [List.filter_append, List.filter_cons_of_neg (by simp [isNewer]),
        List.filter_eq_self.mpr (fun m hm => by simp [isNewer, hBefore m hm]),
        List.filter_eq_nil_iff.mpr (fun m hm => by simp [isNewer, hAfter m hm]), List.append_nil]
    have hRest : found.filter isNewer = db.newerThan scope row := by
      unfold newerThan
      rw [List.filter_filter]
      refine List.filter_congr fun m _ => ?_
      by_cases hSame : m.id = row.id
      · simp [isNewer, hSame]
      · have hEq : (m.id == row.id) = false := beq_eq_false_iff_ne.mpr hSame
        have hNe : (m.id != row.id) = true := bne_iff_ne.mpr hSame
        simp only [isNewer, hId, hConversation, hEq, hNe, Bool.or_false, Bool.true_and,
          Bool.and_comm]
    have hPermFilter := hPerm.filter isNewer
    rw [hFilter, hRest] at hPermFilter
    exact hPermFilter
  have hOther : ∀ m ∈ before ++ after, (if m.id = current.id then current else m) = m := by
    intro m hm
    exact if_neg fun h => (hAnswered m hm).2.2.2.2 (h.trans hId)
  have hHistory : db.historyForClaim scope current =
      (((before ++ row :: after).take aiPromptHistoryMessageLimit).reverse).map fun m =>
        if m.id = current.id then current else m := by
    rw [← hSplit]
    rfl
  refine ⟨(after.take (aiPromptHistoryMessageLimit - before.length - 1)).reverse, before.reverse,
    (List.reverse_perm before).trans hNewer, ?_, ?_, ?_⟩
  · intro m hm
    refine hAnswered m ?_
    rcases List.mem_append.mp hm with hm | hm
    · exact List.mem_append_right _ (List.mem_of_mem_take (List.mem_reverse.mp hm))
    · exact List.mem_append_left _ (List.mem_reverse.mp hm)
  · intro hRecent
    rw [List.length_reverse] at hRecent
    have hTake : (before ++ row :: after).take aiPromptHistoryMessageLimit =
        before ++ row :: after.take (aiPromptHistoryMessageLimit - before.length - 1) := by
      obtain ⟨k, hk⟩ : ∃ k, aiPromptHistoryMessageLimit - before.length = k + 1 :=
        ⟨aiPromptHistoryMessageLimit - before.length - 1, by omega⟩
      rw [List.take_append, List.take_of_length_le hRecent.le, hk, List.take_succ_cons,
        Nat.add_sub_cancel]
    have hOlder : ∀ m ∈ (after.take (aiPromptHistoryMessageLimit - before.length - 1)).reverse,
        (if m.id = current.id then current else m) = m := fun m hm =>
      hOther m (List.mem_append_right _ (List.mem_of_mem_take (List.mem_reverse.mp hm)))
    have hNewest : ∀ m ∈ before.reverse, (if m.id = current.id then current else m) = m :=
      fun m hm => hOther m (List.mem_append_left _ (List.mem_reverse.mp hm))
    rw [hHistory, hTake, List.reverse_append, List.reverse_cons, List.append_assoc,
      List.singleton_append, List.map_append, List.map_cons, if_pos hId.symm,
      List.map_congr_left hOlder, List.map_congr_left hNewest, List.map_id', List.map_id']
  · intro hOld m hm
    rw [List.length_reverse] at hOld
    rw [hHistory, List.take_append_of_le_length hOld] at hm
    obtain ⟨m', hm', rfl⟩ := List.mem_map.mp hm
    have hMem : m' ∈ before := List.mem_of_mem_take (List.mem_reverse.mp hm')
    rw [hOther m' (List.mem_append_left _ hMem)]
    exact List.mem_reverse.mpr hMem

/-- A flush of the question leaves what is newer than it as it was. -/
theorem newerThan_update {row row' : AIMessage} {messages : Table AIMessage}
    (hSame : row.SameMessage row') (h : db.messages.update? row' = some messages) :
    newerThan { db with messages } scope row' = db.newerThan scope row := by
  unfold newerThan
  have hOther : ∀ m : AIMessage, Schema.key m = Schema.key row' →
      ((m.businessId == scope && m.conversationId == row'.conversationId &&
        (m.status == .completed && m.id != row'.id)) && decide (newerFirst m row')) = false := by
    intro m hKey
    have hId : m.id = row'.id := hKey
    simp [hId]
  -- The claim changes none of the columns the order and the filter look at.
  have hRow : (fun m => (m.businessId == scope && m.conversationId == row'.conversationId &&
        (m.status == .completed && m.id != row'.id)) && decide (newerFirst m row')) =
      fun m => (m.businessId == scope && m.conversationId == row.conversationId &&
        (m.status == .completed && m.id != row.id)) && decide (newerFirst m row) := by
    funext m
    have hNewer : newerFirst m row' ↔ newerFirst m row := by
      unfold newerFirst
      rw [hSame.id, hSame.created]
    rw [hSame.conversation, hSame.id, decide_eq_decide.mpr hNewer]
  rw [Table.filter_update? h hOther, hRow]

-- ---------------------------------------------------------------------------
-- The prompt of a claim
-- ---------------------------------------------------------------------------

/-- The messages that take from the budget of a prompt before the question does. -/
def ahead (db : AiDatabase) (scope : Uuid) (purpose : AIConversationPurpose)
    (question : AIMessage) : List AIMessage :=
  match purpose with
  | .dashboardAnalysis => []
  | .chat => db.newerThan scope question

/-- **The question fits.** Fewer than twelve messages are ahead of it, and these and the
header leave room for its text. -/
structure QuestionFits (db : AiDatabase) (scope : Uuid) (purpose : AIConversationPurpose)
    (groundingContext : Option Str) (question : AIMessage) : Prop where
  recent : (db.ahead scope purpose question).length < aiPromptHistoryMessageLimit
  room : (promptHeader groundingContext).length +
    promptSpent (db.ahead scope purpose question) + (strip question.content).length ≤
      aiPromptMaxCharacters

/-- The question starts with a character that no other text of the prompt has. -/
structure OwnCharacter (db : AiDatabase) (scope : Uuid) (groundingContext : Option Str)
    (question : AIMessage) (c : CodePoint) : Prop where
  first : (strip question.content).head? = some c
  header : c ∉ promptHeader groundingContext
  separator : c ∉ str "\n\n"
  user : c ∉ str "User: "
  assistant : c ∉ str "Assistant: "
  others : ∀ m ∈ db.messages, Answered scope question m → c ∉ m.content

theorem promptSpent_perm {messages messages' : List AIMessage} (h : messages.Perm messages') :
    promptSpent messages = promptSpent messages' := by
  unfold promptSpent promptSegments spent
  exact (((h.filter _).map _).map _).sum_nat

/-- What the prompt of a claim is built from. -/
theorem writeClaim_prompt {row message claimed : AIMessage} {purpose : AIConversationPurpose}
    {groundingContext : Option Str} {db' : AiDatabase} {prompt : Str}
    (h : db.writeClaim scope row message claimed purpose groundingContext = .ok (db', prompt)) :
    db.messages.update? (claimed.flush message row) = some db'.messages ∧
      boundedPrompt (match purpose with
        | .dashboardAnalysis => [claimed]
        | .chat => { db with messages := db'.messages }.historyForClaim scope claimed)
        groundingContext = some prompt := by
  -- An analysis builds its prompt before the write, a chat after it.
  cases purpose with
  | dashboardAnalysis =>
    simp only [writeClaim, claimPrompt, bind_eq_ok, required_eq_ok, ensure_eq_ok] at h
    obtain ⟨prompt', ⟨built, hBuilt, -, -, hSame⟩, messages, hMessages, hDone⟩ := h
    simp only [pure, Except.pure, Except.ok.injEq, Prod.mk.injEq] at hDone hSame
    obtain ⟨rfl, rfl⟩ := hDone
    exact ⟨hMessages, hSame ▸ hBuilt⟩
  | chat =>
    simp only [writeClaim, claimPrompt, bind_eq_ok, required_eq_ok, ensure_eq_ok] at h
    obtain ⟨messages, hMessages, prompt', ⟨built, hBuilt, -, -, hSame⟩, hDone⟩ := h
    simp only [pure, Except.pure, Except.ok.injEq, Prod.mk.injEq] at hDone hSame
    obtain ⟨rfl, rfl⟩ := hDone
    exact ⟨hMessages, hSame ▸ hBuilt⟩

/-- A claim that builds a prompt builds it from the message as it claims it. -/
theorem claim_prompt {config : ExecutionConfig} {loaded : Option AIMessage}
    {messageId : Uuid} {reservation : AICreditLedgerSnapshot} {now : Datetime} {token : Uuid}
    {db' : AiDatabase} {message row : AIMessage} {conversation : AIConversation}
    {groundingContext : Option Str} {claim : ExecutionClaim} {prompt : Str}
    (hRow : db.messageById scope messageId = some row)
    (hConversation : db.conversationById scope row.conversationId = some conversation)
    (hContext : config.groundingContext scope conversation = some groundingContext)
    (hLoaded : ∀ c, loaded = some c → row.SameMessage c)
    (h : db.claim scope config loaded messageId reservation now token =
      .ok (db', message, claim)) (hPrompt : claim.prompt = some prompt) :
    row.SameMessage claim.userMessage ∧
      db.writeClaim scope row (locked loaded row) claim.userMessage conversation.purpose
        groundingContext = .ok (db', prompt) := by
  -- The instance may be stale in its state, never in what it says.
  have hSame : row.SameMessage (locked loaded row) := by
    cases hHeld : loaded with
    | none => exact .refl row
    | some c => exact hLoaded c hHeld
  simp only [AiDatabase.claim, bind_eq_ok, required_eq_ok] at h
  obtain ⟨row', hRow', conversation', hConversation', context', hContext', h⟩ := h
  obtain rfl := Option.some.inj (hRow.symm.trans hRow')
  rw [hSame.conversation, hConversation] at hConversation'
  obtain rfl := Option.some.inj hConversation'
  obtain rfl := Option.some.inj (hContext.symm.trans hContext')
  -- Only a pending message that is not leased gets a prompt.
  cases hStatus : (locked loaded row).status with
  | completed =>
    simp only [hStatus, bind_eq_ok, required_eq_ok] at h
    obtain ⟨assistant, -, snapshot, -, hDone⟩ := h
    simp only [pure, Except.pure, Except.ok.injEq, Prod.mk.injEq] at hDone
    obtain ⟨-, -, rfl⟩ := hDone
    exact absurd hPrompt (by simp)
  | failed => simp [hStatus, throw, throwThe, MonadExceptOf.throw] at h
  | pending =>
    simp only [hStatus, bind_eq_ok, ensure_eq_ok] at h
    obtain ⟨-, -, -, -, h⟩ := h
    split at h
    · simp only [pure, Except.pure, Except.ok.injEq, Prod.mk.injEq] at h
      obtain ⟨-, -, rfl⟩ := h
      exact absurd hPrompt (by simp)
    · simp only [bind_eq_ok] at h
      obtain ⟨⟨db'', built⟩, hWrite, hDone⟩ := h
      simp only [pure, Except.pure, Except.ok.injEq, Prod.mk.injEq] at hDone
      obtain ⟨rfl, rfl, rfl⟩ := hDone
      obtain rfl := Option.some.inj hPrompt
      exact ⟨hSame.trans (AIMessage.claimFor_same _ _ _ _ _), hWrite⟩

/-- The history that the prompt of a claim is built from: the question with the messages
that are ahead of it and some that are not, or twelve and more that are ahead. -/
theorem writeClaim_history {row message claimed : AIMessage} {purpose : AIConversationPurpose}
    {groundingContext : Option Str} {db' : AiDatabase} {prompt : Str}
    (hRow : row ∈ db.messages) (hBusiness : row.businessId = scope)
    (hSame : row.SameMessage claimed)
    (h : db.writeClaim scope row message claimed purpose groundingContext = .ok (db', prompt)) :
    ∃ older newer, newer.Perm (db.ahead scope purpose row) ∧
      (∀ m ∈ older ++ newer, m ∈ db.messages ∧ Answered scope row m) ∧
      (newer.length < aiPromptHistoryMessageLimit →
        boundedPrompt (older ++ claimed :: newer) groundingContext = some prompt) ∧
      (aiPromptHistoryMessageLimit ≤ newer.length →
        ∃ history, (∀ m ∈ history, m ∈ newer) ∧
          boundedPrompt history groundingContext = some prompt) := by
  obtain ⟨hMessages, hBuilt⟩ := writeClaim_prompt h
  cases purpose with
  | dashboardAnalysis =>
    -- An analysis is asked without a history.
    refine ⟨[], [], .refl _, fun m hm => absurd hm List.not_mem_nil, fun _ => hBuilt, ?_⟩
    intro hOld
    exact absurd hOld (by decide)
  | chat =>
    have hFlushed : row.SameMessage (claimed.flush message row) := AIMessage.flush_same _ _ _
    have hMem : claimed.flush message row ∈ db'.messages := Table.mem_update?_self hMessages hRow rfl
    obtain ⟨older, newer, hPerm, hOthers, hRecent, hOld⟩ :=
      @historyForClaim_cases { db with messages := db'.messages } scope (claimed.flush message row)
        claimed hMem hBusiness hSame.id hSame.conversation
    -- The history is read after the claim was flushed, which changes no order.
    rw [newerThan_update hFlushed hMessages] at hPerm
    refine ⟨older, newer, hPerm, fun m hm => ?_, fun hLt => ?_, fun hLe => ?_⟩
    · obtain ⟨hIn, hAnswered⟩ := hOthers m hm
      exact ⟨(Table.mem_update?_of_ne hMessages hAnswered.2.2.2).mp hIn, hAnswered⟩
    · rw [← hRecent hLt]
      exact hBuilt
    · exact ⟨_, hOld hLe, hBuilt⟩

/-- A claim that builds a prompt puts the whole question in it if the question fits. -/
theorem claim_shows {config : ExecutionConfig} {loaded : Option AIMessage}
    {messageId : Uuid} {reservation : AICreditLedgerSnapshot} {now : Datetime} {token : Uuid}
    {db' : AiDatabase} {message row : AIMessage} {conversation : AIConversation}
    {groundingContext : Option Str} {claim : ExecutionClaim} {prompt : Str}
    (hRow : db.messageById scope messageId = some row)
    (hConversation : db.conversationById scope row.conversationId = some conversation)
    (hContext : config.groundingContext scope conversation = some groundingContext)
    (hLoaded : ∀ c, loaded = some c → row.SameMessage c)
    (h : db.claim scope config loaded messageId reservation now token =
      .ok (db', message, claim)) (hPrompt : claim.prompt = some prompt)
    (hFits : db.QuestionFits scope conversation.purpose groundingContext row) :
    strip claim.userMessage.content <:+: prompt := by
  obtain ⟨hMem, hBusiness, -⟩ := messageById_eq_some hRow
  obtain ⟨hSame, hWrite⟩ := claim_prompt hRow hConversation hContext hLoaded h hPrompt
  obtain ⟨older, newer, hPerm, -, hRecent, -⟩ := writeClaim_history hMem hBusiness hSame hWrite
  -- An empty question is in every prompt.
  by_cases hBlank : strip claim.userMessage.content = []
  · rw [hBlank]
    exact List.nil_infix
  · refine infix_boundedPrompt (hRecent (hPerm.length_eq ▸ hFits.recent)) hBlank ?_
    rw [hSame.content, promptSpent_perm hPerm]
    exact hFits.room

/-- A prompt shows a question with a character of its own only if the question fits. -/
theorem fits_of_shows {config : ExecutionConfig} {loaded : Option AIMessage}
    {messageId : Uuid} {reservation : AICreditLedgerSnapshot} {now : Datetime} {token : Uuid}
    {db' : AiDatabase} {message row : AIMessage} {conversation : AIConversation}
    {groundingContext : Option Str} {claim : ExecutionClaim} {prompt : Str}
    (hRow : db.messageById scope messageId = some row)
    (hConversation : db.conversationById scope row.conversationId = some conversation)
    (hContext : config.groundingContext scope conversation = some groundingContext)
    (hLoaded : ∀ c, loaded = some c → row.SameMessage c)
    (h : db.claim scope config loaded messageId reservation now token =
      .ok (db', message, claim)) (hPrompt : claim.prompt = some prompt)
    {c : CodePoint} (hOwn : db.OwnCharacter scope groundingContext row c)
    (hInfix : strip claim.userMessage.content <:+: prompt) :
    db.QuestionFits scope conversation.purpose groundingContext row := by
  obtain ⟨hMem, hBusiness, -⟩ := messageById_eq_some hRow
  obtain ⟨hSame, hWrite⟩ := claim_prompt hRow hConversation hContext hLoaded h hPrompt
  obtain ⟨older, newer, hPerm, hOthers, hRecent, hOld⟩ :=
    writeClaim_history hMem hBusiness hSame hWrite
  have hFirst : (strip claim.userMessage.content).head? = some c := by
    rw [hSame.content]
    exact hOwn.first
  have hAbsent : ∀ m ∈ older ++ newer, c ∉ m.content := fun m hm =>
    hOwn.others m (hOthers m hm).1 (hOthers m hm).2
  -- Too many newer messages, or too much text in them, would leave the mark out.
  rcases Nat.lt_or_ge newer.length aiPromptHistoryMessageLimit with hLt | hGe
  · refine ⟨hPerm.length_eq ▸ hLt, ?_⟩
    rcases Nat.lt_or_ge aiPromptMaxCharacters ((promptHeader groundingContext).length +
      promptSpent newer + (strip claim.userMessage.content).length) with hLong | hFits
    · exact absurd hInfix (not_infix_boundedPrompt (hRecent hLt) hFirst hOwn.header hOwn.separator
        hOwn.user hOwn.assistant hAbsent hLong)
    · rw [← promptSpent_perm hPerm, ← hSame.content]
      exact hFits
  · obtain ⟨history, hHistory, hBuilt⟩ := hOld hGe
    exact absurd hInfix (not_infix_of_absent hBuilt hFirst hOwn.header hOwn.separator hOwn.user
      hOwn.assistant fun m hm => hAbsent m (List.mem_append_right _ (hHistory m hm)))

end AiDatabase

-- ---------------------------------------------------------------------------
-- Runs
-- ---------------------------------------------------------------------------

namespace ExecutionState

variable (config : ExecutionConfig) (tables : SubscriptionTables) (businesses : Table Business)
  (conversations : Table AIConversation) (clock : Datetime) (as : List TimedAction)

/-- In every run, the instance a session holds is one of its message. -/
theorem held_same {e : Execution}
    (he : e ∈ (run (step config) (init tables businesses conversations clock) as).executions)
    {row : AIMessage}
    (hRow : (run (step config) (init tables businesses conversations clock) as).db.messageById
      e.request.businessId e.messageId = some row) :
    ∀ c, e.held config = some c → row.SameMessage c := by
  intro c hc
  have hInv := invariant_run (@invariant_init config tables businesses conversations clock) as
  have hEvolves := (hInv.executions e he).evolves hRow
  rw [hc, locked_some] at hEvolves
  exact hEvolves.same.symm

/-- **In every run**, an execution that claims a question that fits calls the provider with
a prompt that has the whole question in it. -/
theorem claimStep_shows {e : Execution}
    (he : e ∈ (run (step config) (init tables businesses conversations clock) as).executions)
    {row : AIMessage} {conversation : AIConversation} {groundingContext : Option Str}
    {db : AiDatabase}
    (hDb : db = (run (step config) (init tables businesses conversations clock) as).db)
    (hRow : db.messageById e.request.businessId e.messageId = some row)
    (hConversation : db.conversationById e.request.businessId row.conversationId =
      some conversation)
    (hContext : config.groundingContext e.request.businessId conversation = some groundingContext)
    (hFits : db.QuestionFits e.request.businessId conversation.purpose groundingContext row)
    {reservation reservation' : AICreditLedgerSnapshot} {token token' : Uuid}
    {conversation' : AIConversation} {prompt : Str}
    (hPhase : (e.claimStep config db reservation token).2.phase =
      .claimed reservation' token' conversation' prompt) :
    strip row.content <:+: prompt := by
  -- In a run the held instance says what the row says.
  have hLoaded := held_same config tables businesses conversations clock as he (hDb ▸ hRow)
  unfold Execution.claimStep at hPhase
  split at hPhase
  · exact absurd hPhase (by simp)
  · exact absurd hPhase (by simp)
  · next db' message claim h =>
    simp only at hPhase
    split at hPhase
    · exact absurd hPhase (by simp)
    · next hCompleted hToken hPrompt =>
      obtain ⟨hSame, -⟩ := AiDatabase.claim_prompt hRow hConversation hContext hLoaded h hPrompt
      cases hPhase
      rw [← hSame.content]
      exact AiDatabase.claim_shows hRow hConversation hContext hLoaded h hPrompt hFits
    · exact absurd hPhase (by simp)

end ExecutionState

-- ---------------------------------------------------------------------------
-- The question in the prompt
-- ---------------------------------------------------------------------------

namespace AiDatabase

variable {db : AiDatabase} {scope : Uuid}

/-- **The question in the prompt.** Over any database, a claim that builds a prompt puts the
whole question in it if the question fits; and only if it does, unless the text of the
question may come from elsewhere. The instance the session holds is one of the row, as it is
in every run (`ExecutionState.held_same`). -/
theorem question_in_prompt_iff {config : ExecutionConfig} {loaded : Option AIMessage}
    {messageId : Uuid} {reservation : AICreditLedgerSnapshot} {now : Datetime} {token : Uuid}
    {db' : AiDatabase} {message row : AIMessage} {conversation : AIConversation}
    {groundingContext : Option Str} {claim : ExecutionClaim} {prompt : Str}
    (hRow : db.messageById scope messageId = some row)
    (hConversation : db.conversationById scope row.conversationId = some conversation)
    (hContext : config.groundingContext scope conversation = some groundingContext)
    (hLoaded : ∀ c, loaded = some c → row.SameMessage c)
    (h : db.claim scope config loaded messageId reservation now token =
      .ok (db', message, claim)) (hPrompt : claim.prompt = some prompt) :
    (db.QuestionFits scope conversation.purpose groundingContext row →
        strip claim.userMessage.content <:+: prompt) ∧
      ∀ c, db.OwnCharacter scope groundingContext row c →
        (strip claim.userMessage.content <:+: prompt ↔
          db.QuestionFits scope conversation.purpose groundingContext row) := by
  -- The condition is enough for every question; a mark of its own makes it necessary.
  have hIn := claim_shows hRow hConversation hContext hLoaded h hPrompt
  exact ⟨hIn, fun c hOwn =>
    ⟨fits_of_shows hRow hConversation hContext hLoaded h hPrompt hOwn, hIn⟩⟩

end AiDatabase

-- ---------------------------------------------------------------------------
-- A question that is left out
-- ---------------------------------------------------------------------------

/-- The prompt of the execution does not contain the question it claimed. -/
def Execution.LeavesOut (e : Execution) : Prop :=
  match e.loaded, e.phase with
  | some question, .claimed _ _ _ prompt => ¬strip question.content <:+: prompt
  | _, _ => False

instance decidableLeavesOut (e : Execution) : Decidable e.LeavesOut := by
  unfold Execution.LeavesOut
  split <;> infer_instance

namespace PromptSample

/-- SHA-256 on the keys of the run, `key-1` to `key-7`. -/
def sha256 (bytes : List UInt8) : Str :=
  match bytes.getLast? with
  | some 0x31 => str "be2974546978e3739e6d6da85c4be9f334ce32df2b9fd4b6ff1b55c0d57e9d44"
  | some 0x32 => str "7c36b0a9dedde119c75165957c6c9c187e65df1ee5db87c4c58ad503ad88cbe3"
  | some 0x33 => str "d9ef8196557c9da69806fb5d777f4e5ad6d5c18593039e0ff62f9fdf003b0198"
  | some 0x34 => str "f5404d68a86b01ee138f6d135cb9952fc6f804f5ab4104a8d4a5fb06e4e1b197"
  | some 0x35 => str "043e30951bc4eac6c587191be09ec64110933b6c5e633e695462333318561e55"
  | some 0x36 => str "f3166bdf439d0b1da048ef0d3ad2459c77c99ba779b9f5e32cf2bc42559b58c6"
  | _ => str "78ed7d2bf2a8c4af4a3d3652a89fe8b9f46addb8bc8e7cb69106a6467900f5e6"

def config : ExecutionConfig := { Sample.config false with sha256 := sha256 }

def ask (key : String) (content : String) : MessageRequest :=
  { Sample.request with content := str content, idempotencyKey := str key }

/-- Execution `i` submits a question at second `10 i` and answers it. -/
def exchange (i : Nat) (key : String) : List TimedAction :=
  let second : Int := 10 * i
  [Sample.at' second (.submit (ask key "And then?") (seconds second) (10 * i)),
    Sample.at' (second + 1) (.advance i (.reserve (10 * i) (10 * i))),
    Sample.at' (second + 2) (.advance i (.claim (10 * i))),
    Sample.at' (second + 3) (.advance i (.provide (.ok
      { text := str "Growth.", providerResponseId := none, modelVersion := str "gemini",
        finishReason := str "STOP", promptTokenCount := none, responseTokenCount := none,
        thoughtsTokenCount := none, totalTokenCount := none }))),
    Sample.at' (second + 4) (.advance i (.complete (10 * i + 1)))]

/-- Six questions that are asked and answered. -/
def sixExchanges : List TimedAction :=
  exchange 1 "key-2" ++ exchange 2 "key-3" ++ exchange 3 "key-4" ++ exchange 4 "key-5" ++
    exchange 5 "key-6" ++ exchange 6 "key-7"

/-- A question is submitted and its execution goes no further. Six others are asked and
answered in the conversation, and then the first one is sent again. -/
def retryRun : List TimedAction :=
  Sample.at' 1 (.submit (ask "key-1" "How did sales go?") (seconds 1) 1) :: sixExchanges ++
    [Sample.at' 70 (.submit (ask "key-1" "How did sales go?") (seconds 70) 2),
      Sample.at' 71 (.advance 7 (.reserve 70 70)),
      Sample.at' 72 (.advance 7 (.claim 70))]

/-- The prompts of a conversation about a snapshot have a header. -/
def groundedConfig : ExecutionConfig :=
  { config with
    groundingContext := fun _ conversation =>
      some (conversation.dashboardSnapshotId.map fun _ => str "\x7b\x7d") }

def groundedStart : ExecutionState :=
  .init Sample.tables .empty
    (.single { id := 1, businessId := 1, createdByUserId := 1, createdAt := 0, updatedAt := 0,
               dashboardSnapshotId := some 1 } (by decide)) 0

/-- A question was submitted, and some `later` steps were taken. -/
def asked (later : List TimedAction) : AiDatabase :=
  (run (ExecutionState.step groundedConfig) groundedStart
    (Sample.at' 1 (.submit (ask "key-1" "Zinc sales?") (seconds 1) 1) :: later)).db

def reservation : AICreditLedgerSnapshot where
  entryId := 1
  accountId := 1
  businessId := 1
  subscriptionId := 1
  status := .reserved
  limitValue := some 15
  reservedCount := 1
  consumedCount := 0
  remaining := some 14
  periodStartedAt := 0
  periodEndsAt := seconds 100
  reservedAt := seconds 1
  consumedAt := none
  releasedAt := none
  releaseReason := none
  replayed := false

/-- The question is sent again, and claimed. -/
def claimed (later : List TimedAction) :
    Except AIExecutionError (AiDatabase × AIMessage × ExecutionClaim) :=
  (asked later).claim 1 groundedConfig none 1 reservation (seconds 100) 7

/-- A claim that builds a prompt for the question, which alone has its first letter, behind some
messages. -/
structure ClaimedQuestion (later : List TimedAction) (ahead : Nat) (row : AIMessage)
    (conversation : AIConversation) (claim : ExecutionClaim) (prompt : Str) : Prop where
  claimed : ∃ db' message, claimed later = .ok (db', message, claim)
  prompted : claim.prompt = some prompt
  found : (asked later).messageById 1 1 = some row
  conversed : (asked later).conversationById 1 row.conversationId = some conversation
  purpose : conversation.purpose = .chat
  context : groundedConfig.groundingContext 1 conversation = some (some (str "\x7b\x7d"))
  length : ((asked later).newerThan 1 row).length = ahead
  spent : promptSpent ((asked later).newerThan 1 row) ≤ 1000
  content : strip row.content = str "Zinc sales?"
  others : ∀ m ∈ (asked later).messages, m.id ≠ row.id → (0x5A : CodePoint) ∉ m.content

/-- The same, evaluated. -/
def claimsQuestion (later : List TimedAction) (ahead : Nat) : Bool :=
  (claimed later).toOption.any (fun done => done.2.2.prompt.isSome) &&
    ((asked later).messageById 1 1).any fun row =>
      (((asked later).conversationById 1 row.conversationId).any fun conversation =>
        decide (conversation.purpose = .chat ∧
          groundedConfig.groundingContext 1 conversation = some (some (str "\x7b\x7d")))) &&
      decide (((asked later).newerThan 1 row).length = ahead) &&
      decide (promptSpent ((asked later).newerThan 1 row) ≤ 1000) &&
      decide (strip row.content = str "Zinc sales?") &&
      (asked later).messages.rows.all fun m =>
        decide (m.id = row.id) || m.content.all fun c => decide (c ≠ 0x5A)

/-- A run that passes the test gives the claim with its prompt. -/
theorem exists_claimedQuestion {later : List TimedAction} {ahead : Nat}
    (h : claimsQuestion later ahead = true) :
    ∃ row conversation claim prompt, ClaimedQuestion later ahead row conversation claim prompt := by
  simp only [claimsQuestion, Bool.and_eq_true, Option.any_eq_true, decide_eq_true_eq,
    List.all_eq_true, Bool.or_eq_true] at h
  obtain ⟨⟨⟨db', message, claim⟩, hDone, hPrompt⟩, row, hRow,
    ⟨⟨⟨⟨conversation, hConversation, hPurpose, hContext⟩, hLength⟩, hSpent⟩, hContent⟩,
    hOthers⟩ := h
  -- The test evaluates the claim; here its parts are named.
  obtain ⟨prompt, hPrompt⟩ := Option.isSome_iff_exists.mp hPrompt
  refine ⟨row, conversation, claim, prompt, ⟨db', message, ?_⟩, hPrompt, hRow, hConversation,
    hPurpose, hContext, hLength, hSpent, hContent, fun m hm hOther => ?_⟩
  · cases hClaimed : claimed later with
    | ok done =>
      rw [hClaimed] at hDone
      rw [Option.some.inj hDone]
    | error e =>
      rw [hClaimed] at hDone
      cases hDone
  · exact fun hZ => (hOthers m hm).resolve_left hOther _ hZ rfl

/-- In a chat the messages ahead of the question are the newer ones. -/
theorem ClaimedQuestion.ahead_eq {later : List TimedAction} {ahead : Nat} {row : AIMessage}
    {conversation : AIConversation} {claim : ExecutionClaim} {prompt : Str}
    (h : ClaimedQuestion later ahead row conversation claim prompt) :
    (asked later).ahead 1 conversation.purpose row = (asked later).newerThan 1 row := by
  rw [h.purpose]
  rfl

end PromptSample

/-- **A question that is left out.** The retry is charged for the answer to a prompt that
shows the twelve later messages and not the question. -/
theorem question_left_out :
    ∃ e ∈ (run (ExecutionState.step PromptSample.config) Sample.start
      PromptSample.retryRun).executions, e.LeavesOut := by
  decide +kernel

open PromptSample in
/-- A question behind a header and two newer messages is in its prompt, and behind twelve it is
not. -/
theorem question_in_prompt_sample :
    (∃ row conversation claim prompt,
      ClaimedQuestion (exchange 1 "key-2") 2 row conversation claim prompt ∧
        strip claim.userMessage.content <:+: prompt) ∧
      ∃ row conversation claim prompt,
        ClaimedQuestion sixExchanges 12 row conversation claim prompt ∧
          ¬strip claim.userMessage.content <:+: prompt := by
  constructor
  · -- One exchange after the question: it fits.
    obtain ⟨row, conversation, claim, prompt, h⟩ :=
      exists_claimedQuestion (by decide +kernel : claimsQuestion (exchange 1 "key-2") 2 = true)
    obtain ⟨db', message, hClaimed⟩ := h.claimed
    have hIn := (AiDatabase.question_in_prompt_iff h.found h.conversed h.context
      (fun c hc => absurd hc (by simp)) hClaimed h.prompted).1
    refine ⟨row, conversation, claim, prompt, h, hIn ⟨?_, ?_⟩⟩
    · rw [h.ahead_eq, h.length]
      decide
    · rw [h.ahead_eq, h.content]
      have hSpent := h.spent
      have hHeader : (promptHeader (some (str "\x7b\x7d"))).length ≤ 100 := by decide
      have hContent : (str "Zinc sales?").length = 11 := by decide
      have hMost : aiPromptMaxCharacters = 30000 := rfl
      omega
  · -- Six exchanges after it: they fill the history.
    obtain ⟨row, conversation, claim, prompt, h⟩ :=
      exists_claimedQuestion (by decide +kernel : claimsQuestion sixExchanges 12 = true)
    obtain ⟨db', message, hClaimed⟩ := h.claimed
    have hOwn : (asked sixExchanges).OwnCharacter 1 (some (str "\x7b\x7d")) row 0x5A :=
      { first := by rw [h.content]; decide
        header := by decide
        separator := by decide
        user := by decide
        assistant := by decide
        others := fun m hm hAnswered => h.others m hm hAnswered.2.2.2 }
    have hIff := (AiDatabase.question_in_prompt_iff h.found h.conversed h.context
      (fun c hc => absurd hc (by simp)) hClaimed h.prompted).2 _ hOwn
    refine ⟨row, conversation, claim, prompt, h, fun hIn => ?_⟩
    have hRecent := (hIff.mp hIn).recent
    rw [h.ahead_eq, h.length] at hRecent
    exact absurd hRecent (by decide)

end SpikeBackend
