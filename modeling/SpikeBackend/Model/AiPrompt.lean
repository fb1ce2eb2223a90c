import SpikeBackend.Model.AiConversations

/-!
# Prompts and analyses

What an AI execution sends to the provider and which answers it takes
(`_bounded_prompt` and `_valid_dashboard_analysis` of `app/services/ai_execution.py`).
-/

namespace SpikeBackend

open Text

def aiPromptHistoryMessageLimit : Nat := 12

def aiPromptMaxCharacters : Nat := 30000

/-- A line of the conversation, as the prompt shows it. -/
def promptSegment (message : AIMessage) : Str :=
  (match message.role with
    | .user => str "User: "
    | .assistant => str "Assistant: ") ++ strip message.content

/-- The loop of `_bounded_prompt` over the segments, newest first: each takes what is
left of the budget and two characters for the separator. -/
def selectSegments : List Str → Int → List Str
  | [], _ => []
  | segment :: older, remaining =>
    if remaining ≤ 0 then []
    else
      let kept := segment.drop (segment.length - remaining.toNat)
      kept :: selectSegments older (remaining - (kept.length + 2))

/-- `"\n\n".join`. -/
def joinParagraphs (segments : List Str) : Str := (str "\n\n").intercalate segments

/-- `_bounded_prompt`; `none` is an `AIExecutionIntegrityError`. -/
def boundedPrompt (messages : List AIMessage) (groundingContext : Option Str) : Option Str :=
  let segments := (messages.filter fun m => strip m.content ≠ []).map promptSegment
  let header :=
    match groundingContext with
    | none => []
    | some context =>
      str "Immutable dashboard snapshot context (JSON):\n" ++ context ++ str "\n\nConversation:\n"
  let remaining : Int := (aiPromptMaxCharacters : Int) - header.length
  if remaining ≤ 0 then none
  else
    let conversation := joinParagraphs (selectSegments segments.reverse remaining).reverse
    some (if conversation ≠ [] then header ++ conversation
      else (header.reverse.dropWhile isSpace).reverse)

def aiDashboardAnalysisHeadings : List Str :=
  [str "## Summary", str "## Opportunity", str "## Recommendation", str "## Disclaimer"]

/-- `value.replace("\r\n", "\n").replace("\r", "\n")`; the flag says that the last
character read was a carriage return. -/
def normalizeNewlines : Bool → Str → Str
  | _, [] => []
  | afterReturn, c :: rest =>
    if c.val = 0x0D then 0x0A :: normalizeNewlines true rest
    else if afterReturn && c.val == 0x0A then normalizeNewlines false rest
    else c :: normalizeNewlines false rest

/-- The lines of a text, without their newlines. -/
def splitLines (s : Str) : List Str := s.splitOn 0x0A

/-- A line that `(?m)^#{1,6} [^\n]+$` matches. -/
def isHeading (line : Str) : Bool :=
  let hashes := (line.takeWhile (·.val == 0x23)).length
  match line.drop hashes with
  | space :: _ :: _ => decide (1 ≤ hashes ∧ hashes ≤ 6) && space.val == 0x20
  | _ => false

/-- `str.index`: where the first occurrence starts. -/
def indexOf? (needle : Str) : Str → Option Nat
  | [] => if needle = [] then some 0 else none
  | c :: rest =>
    if needle.isPrefixOf (c :: rest) then some 0 else (indexOf? needle rest).map (· + 1)

/-- `needle in s`. -/
def occursIn (needle s : Str) : Bool := (indexOf? needle s).isSome

/-- `_valid_dashboard_analysis`, over the standard library's `str.casefold`. -/
def validDashboardAnalysis (casefold : Str → Str) (value : Str) : Bool :=
  let normalized := strip (normalizeNewlines false value)
  let headings := aiDashboardAnalysisHeadings
  if !(str "## Summary\n").isPrefixOf normalized then false
  else if (splitLines normalized).filter isHeading ≠ headings then false
  else
    let positions := headings.map fun heading => (indexOf? heading normalized).getD 0
    let boundaries := positions.tail ++ [normalized.length]
    let bodies := (headings.zip (positions.zip boundaries)).map fun (heading, position, boundary) =>
      (normalized.take boundary).drop (position + heading.length)
    if bodies.any fun body => strip body = [] then false
    else
      let disclaimer := casefold (normalized.drop (positions.getLastD 0))
      occursIn (str "not an audit") disclaimer && occursIn (str "professional accounting") disclaimer

end SpikeBackend
