import SpikeBackend.Lib.Text

/-!
# HTML texts

Trees of elements, the texts they are written as, and a strict reader of such texts. A start tag
is kept as it stands between its brackets, attributes included; the reader follows the tags as they
are written and supplies none. What it reads of a tree is the tree in the normal form of the DOM:
no empty text, and no two texts side by side.

* `feed_escape` — an escaped text is read as that text, whatever its characters;
* `read_renderAll` — a written tree is read back;
* `escape_eq_self` — a text without special characters is escaped as itself.
-/

namespace Html

open Text

-- ---------------------------------------------------------------------------
-- Writing
-- ---------------------------------------------------------------------------

def escapeChar (c : CodePoint) : Str :=
  if c = 0x26 then str "&amp;"
  else if c = 0x3C then str "&lt;"
  else if c = 0x3E then str "&gt;"
  else if c = 0x22 then str "&quot;"
  else if c = 0x27 then str "&#x27;"
  else [c]

/-- `html.escape(s, quote=True)`. -/
def escape (s : Str) : Str := s.flatMap escapeChar

/-- A node of a document. -/
inductive Node
  | text (s : Str)
  | element (tag : Str) (children : List Node)
  /-- an element without children and without an end tag -/
  | void (tag : Str)
  /-- an element whose text is not escaped -/
  | raw (tag content : Str)

/-- The name of the element that a tag opens. -/
def tagName (tag : Str) : Str := tag.takeWhile (· ≠ 0x20)

def voidNames : List Str :=
  [str "!doctype", str "area", str "base", str "br", str "col", str "embed", str "hr", str "img",
    str "input", str "link", str "meta", str "source", str "track", str "wbr"]

def rawNames : List Str := [str "script", str "style"]

def startTag (tag : Str) : Str := 0x3C :: (tag ++ [0x3E])

def endTag (tag : Str) : Str := 0x3C :: 0x2F :: (tagName tag ++ [0x3E])

mutual

/-- The text of a node. -/
def render : Node → Str
  | .text s => escape s
  | .element tag children => startTag tag ++ renderAll children ++ endTag tag
  | .void tag => startTag tag
  | .raw tag content => startTag tag ++ content ++ endTag tag

/-- The text of some nodes. -/
def renderAll : List Node → Str
  | [] => []
  | n :: ns => render n ++ renderAll ns

end

/-- Siblings are written one behind the other. -/
theorem renderAll_append (ns ns' : List Node) :
    renderAll (ns ++ ns') = renderAll ns ++ renderAll ns' := by
  induction ns with
  | nil => rfl
  | cons n ns ih => rw [List.cons_append, renderAll, renderAll, ih, List.append_assoc]

-- ---------------------------------------------------------------------------
-- Normal form
-- ---------------------------------------------------------------------------

/-- Some nodes and a text after them. -/
def close (done : List Node) (text : Str) : List Node :=
  if text = [] then done else done ++ [.text text]

mutual

/-- A node in normal form. -/
def normal : Node → Node
  | .element tag children => .element tag (close (absorb [] [] children).1 (absorb [] [] children).2)
  | n => n

/-- Nodes in normal form and the text after them, with more nodes behind. -/
def absorb (done : List Node) (text : Str) : List Node → List Node × Str
  | [] => (done, text)
  | .text s :: ns => absorb done (text ++ s) ns
  | n :: ns => absorb (close done text ++ [normal n]) [] ns

end

/-- The nodes in normal form. -/
def normalAll (ns : List Node) : List Node := close (absorb [] [] ns).1 (absorb [] [] ns).2

-- ---------------------------------------------------------------------------
-- Reading
-- ---------------------------------------------------------------------------

/-- The character that a reference stands for. -/
def reference? (name : Str) : Option CodePoint :=
  if name = str "amp" then some 0x26
  else if name = str "lt" then some 0x3C
  else if name = str "gt" then some 0x3E
  else if name = str "quot" then some 0x22
  else if name = str "#x27" then some 0x27
  else none

inductive Mode
  | data
  | raw
  | reference (name : Str)
  /-- in a tag, and there in a quoted value -/
  | tag (content : Str) (quote : Option CodePoint)
  deriving DecidableEq

/-- A reader inside of some open elements: what it has read of the innermost one, and for each of
them its tag and what came before it. -/
structure Reader where
  mode : Mode := .data
  done : List Node := []
  text : Str := []
  outer : List (Str × List Node) := []

namespace Reader

/-- A start tag. -/
def openTag (r : Reader) (tag : Str) : Reader :=
  if tagName tag ∈ voidNames then
    { r with mode := .data, done := close r.done r.text ++ [.void tag], text := [] }
  else
    { mode := if tagName tag ∈ rawNames then .raw else .data
      outer := (tag, close r.done r.text) :: r.outer }

/-- An end tag, which has to be that of the innermost element. -/
def closeTag (r : Reader) (name : Str) : Option Reader :=
  match r.outer with
  | [] => none
  | (tag, before) :: outer =>
    if tagName tag = name then
      let node := if name ∈ rawNames then Node.raw tag r.text
        else Node.element tag (close r.done r.text)
      some { done := before ++ [node], outer := outer }
    else none

/-- The end of a tag. -/
def finishTag (r : Reader) (content : Str) : Option Reader :=
  match content with
  | [] => none
  | c :: name => if c = 0x2F then r.closeTag name else some (r.openTag content)

/-- One character; `none` where the reader does not go on. -/
def step (r : Reader) (c : CodePoint) : Option Reader :=
  match r.mode with
  | .data =>
    if c = 0x3C then some { r with mode := .tag [] none }
    else if c = 0x26 then some { r with mode := .reference [] }
    else some { r with text := r.text ++ [c] }
  | .raw =>
    if c = 0x3C then some { r with mode := .tag [] none } else some { r with text := r.text ++ [c] }
  | .reference name =>
    if c = 0x3B then (reference? name).map fun d => { r with mode := .data, text := r.text ++ [d] }
    else some { r with mode := .reference (name ++ [c]) }
  | .tag content (some quote) =>
    some { r with mode := .tag (content ++ [c]) (if c = quote then none else some quote) }
  | .tag content none =>
    if c = 0x3E then r.finishTag content
    else some { r with
      mode := .tag (content ++ [c]) (if c = 0x22 ∨ c = 0x27 then some c else none) }

/-- A text, one character after the other. -/
def feed (r : Reader) (s : Str) : Option Reader := s.foldlM step r

end Reader

/-- The nodes of a text, where every element that it opens is closed. -/
def read (s : Str) : Option (List Node) :=
  (Reader.feed {} s).bind fun r =>
    if r.mode = .data ∧ r.outer.isEmpty = true then some (close r.done r.text) else none

-- ---------------------------------------------------------------------------
-- Well-formed trees
-- ---------------------------------------------------------------------------

/-- Whether a tag goes on after these characters, and then in which quotes. -/
def tagQuote : Option CodePoint → Str → Option (Option CodePoint)
  | quote, [] => some quote
  | some quote, c :: s => tagQuote (if c = quote then none else some quote) s
  | none, c :: s =>
    if c = 0x3E then none else tagQuote (if c = 0x22 ∨ c = 0x27 then some c else none) s

/-- What may stand between the brackets of a start tag. -/
def isTag (tag : Str) : Bool :=
  decide (tagQuote none tag = some none) && decide (tag ≠ []) && decide (tag.head? ≠ some 0x2F) &&
    (tagName tag).all fun c => decide (c ≠ 0x3E) && decide (c ≠ 0x22) && decide (c ≠ 0x27)

mutual

/-- Every tag is one, and the kind of every element is that of its name. -/
def wellFormed : Node → Bool
  | .text _ => true
  | .element tag children =>
    isTag tag && decide (tagName tag ∉ voidNames) && decide (tagName tag ∉ rawNames) &&
      allWellFormed children
  | .void tag => isTag tag && decide (tagName tag ∈ voidNames)
  | .raw tag content =>
    isTag tag && decide (tagName tag ∉ voidNames) && decide (tagName tag ∈ rawNames) &&
      content.all fun c => decide (c ≠ 0x3C)

def allWellFormed : List Node → Bool
  | [] => true
  | n :: ns => wellFormed n && allWellFormed ns

end

-- ---------------------------------------------------------------------------
-- Reading what was written
-- ---------------------------------------------------------------------------

namespace Reader

theorem feed_cons (r : Reader) (c : CodePoint) (s : Str) :
    feed r (c :: s) = (step r c).bind fun r' => feed r' s := rfl

theorem feed_append (r : Reader) (s t : Str) :
    feed r (s ++ t) = (feed r s).bind fun r' => feed r' t := List.foldlM_append

/-- A text that is read whole, with another behind it. -/
theorem feed_append_of_eq {r r' : Reader} {s : Str} (h : feed r s = some r') (t : Str) :
    feed r (s ++ t) = feed r' t := by
  rw [feed_append, h]
  rfl

/-- **An escaped text** is read as the text. -/
theorem feed_escape {r : Reader} (hMode : r.mode = .data) (s : Str) :
    feed r (escape s) = some { r with text := r.text ++ s } := by
  induction s generalizing r with
  | nil =>
    rw [List.append_nil]
    rfl
  | cons c s ih =>
    -- each entity is read as the character that it stands for
    have hChar : feed r (escapeChar c) = some { r with text := r.text ++ [c] } := by
      obtain ⟨mode, done, text, outer⟩ := r
      obtain rfl : mode = .data := hMode
      unfold escapeChar
      split_ifs with hAmp hLt hGt hQuot hApos
      · rw [hAmp]
        rfl
      · rw [hLt]
        rfl
      · rw [hGt]
        rfl
      · rw [hQuot]
        rfl
      · rw [hApos]
        rfl
      · rw [feed_cons, step, if_neg hLt, if_neg hAmp]
        rfl
    show feed r (escapeChar c ++ escape s) = _
    rw [feed_append_of_eq hChar]
    refine (ih (r := { r with text := r.text ++ [c] }) hMode).trans ?_
    rw [List.append_assoc]
    rfl

/-- A raw text is read as it stands. -/
theorem feed_raw {r : Reader} (hMode : r.mode = .raw) {s : Str} (hs : (0x3C : CodePoint) ∉ s) :
    feed r s = some { r with text := r.text ++ s } := by
  induction s generalizing r with
  | nil =>
    rw [List.append_nil]
    rfl
  | cons c s ih =>
    obtain ⟨hNe, hRest⟩ := not_or.mp (List.mem_cons.not.mp hs)
    have hStep : step r c = some { r with text := r.text ++ [c] } := by
      rw [step, hMode]
      exact if_neg (Ne.symm hNe)
    rw [feed_cons, hStep]
    refine (ih (r := { r with text := r.text ++ [c] }) hMode hRest).trans ?_
    rw [List.append_assoc]
    rfl

/-- The characters of a tag. -/
theorem feed_tag {r : Reader} {content : Str} {quote quote' : Option CodePoint} {s : Str}
    (hMode : r.mode = .tag content quote) (h : tagQuote quote s = some quote') :
    feed r s = some { r with mode := .tag (content ++ s) quote' } := by
  induction s generalizing r content quote with
  | nil =>
    obtain rfl := Option.some.inj h
    rw [List.append_nil, ← hMode]
    rfl
  | cons c s ih =>
    -- a character inside a tag is taken into its content, unless it closes the tag
    have hNext : ∀ quote'', step r c = some { r with mode := .tag (content ++ [c]) quote'' } →
        tagQuote quote'' s = some quote' →
          feed r (c :: s) = some { r with mode := .tag (content ++ c :: s) quote' } := by
      intro quote'' hStep hRest
      rw [feed_cons, hStep]
      refine (ih (r := { r with mode := .tag (content ++ [c]) quote'' }) rfl hRest).trans ?_
      rw [List.append_assoc]
      rfl
    cases quote with
    | some q =>
      refine hNext _ ?_ h
      rw [step, hMode]
    | none =>
      rw [tagQuote] at h
      split at h
      · cases h
      · next hClose =>
        refine hNext _ ?_ h
        rw [step, hMode]
        exact if_neg hClose

/-- What stands between two brackets. -/
theorem feed_brackets {r : Reader} (hMode : r.mode = .data ∨ r.mode = .raw) {content : Str}
    (h : tagQuote none content = some none) :
    feed r (0x3C :: (content ++ [0x3E])) =
      { r with mode := .tag content none }.finishTag content := by
  have hOpen : step r 0x3C = some { r with mode := .tag [] none } := by
    rcases hMode with hMode | hMode
    · rw [step, hMode]
      rfl
    · rw [step, hMode]
      rfl
  have hContent := feed_tag (r := { r with mode := .tag [] none }) rfl h
  rw [feed_cons, hOpen]
  refine (feed_append_of_eq hContent [0x3E]).trans ?_
  show (finishTag { r with mode := .tag content none } content).bind some = _
  exact Option.bind_fun_some _

/-- A start tag is read as a tag that is opened. -/
theorem feed_startTag {r : Reader} (hMode : r.mode = .data) {tag : Str} (hTag : isTag tag = true) :
    feed r (startTag tag) = some (r.openTag tag) := by
  simp only [isTag, Bool.and_eq_true, decide_eq_true_eq] at hTag
  obtain ⟨⟨⟨hQuote, hNe⟩, hHead⟩, -⟩ := hTag
  rw [startTag, feed_brackets (.inl hMode) hQuote]
  cases tag with
  | nil => exact absurd rfl hNe
  | cons c tag =>
    have hSlash : c ≠ 0x2F := fun h => hHead (by rw [h]; rfl)
    rw [finishTag, if_neg hSlash]
    rfl

/-- The end tag of the innermost element. -/
theorem feed_endTag {r : Reader} (hMode : r.mode = .data ∨ r.mode = .raw) {tag : Str}
    (hTag : isTag tag = true) {before : List Node} {outer : List (Str × List Node)}
    (hOuter : r.outer = (tag, before) :: outer) :
    feed r (endTag tag) = some
      { done := before ++ [if tagName tag ∈ rawNames then Node.raw tag r.text
          else Node.element tag (close r.done r.text)]
        outer := outer } := by
  have hPlain : ∀ name : Str, (name.all fun c =>
    -- a name has no quotes, so its tag ends at the first closing bracket
      decide (c ≠ 0x3E) && decide (c ≠ 0x22) && decide (c ≠ 0x27)) = true →
        tagQuote none name = some none := by
    intro name
    induction name with
    | nil => exact fun _ => rfl
    | cons c name ih =>
      intro h
      rw [List.all_cons, Bool.and_eq_true] at h
      obtain ⟨hc, hName⟩ := h
      simp only [Bool.and_eq_true, decide_eq_true_eq] at hc
      rw [tagQuote, if_neg hc.1.1, if_neg (not_or.mpr ⟨hc.1.2, hc.2⟩)]
      exact ih hName
  simp only [isTag, Bool.and_eq_true] at hTag
  have hName : tagQuote none (0x2F :: tagName tag) = some none := hPlain (tagName tag) hTag.2
  have hRead := feed_brackets hMode hName
  refine hRead.trans ?_
  show closeTag { r with mode := .tag (0x2F :: tagName tag) none } (tagName tag) = _
  rw [closeTag, hOuter]
  exact if_pos rfl

mutual

/-- **A node is read back**, after what was read before it. -/
theorem feed_render : ∀ (n : Node) {r : Reader}, wellFormed n = true → r.mode = .data →
    feed r (render n) = some
      { r with
        done := (absorb r.done r.text [n]).1
        text := (absorb r.done r.text [n]).2 }
  | .text s, r, _, hMode => feed_escape hMode s
  | .void tag, r, h, hMode => by
    rw [wellFormed, Bool.and_eq_true, decide_eq_true_eq] at h
    rw [render, feed_startTag hMode h.1, openTag, if_pos h.2, hMode]
    rfl
  | .raw tag content, r, h, hMode => by
    simp only [wellFormed, Bool.and_eq_true, decide_eq_true_eq, List.all_eq_true] at h
    obtain ⟨⟨⟨hTag, hVoid⟩, hRaw⟩, hEach⟩ := h
    -- a raw text ends at the first bracket, which is that of its end tag
    have hContent : (0x3C : CodePoint) ∉ content := fun hMem => hEach 0x3C hMem rfl
    have hOpen : feed r (startTag tag) =
        some { mode := .raw, outer := (tag, close r.done r.text) :: r.outer } := by
      rw [feed_startTag hMode hTag, openTag, if_neg hVoid, if_pos hRaw]
    rw [render, List.append_assoc, feed_append_of_eq hOpen, feed_append_of_eq (feed_raw rfl hContent),
      feed_endTag (.inr rfl) hTag rfl, if_pos hRaw, ← hMode]
    rfl
  | .element tag children, r, h, hMode => by
    simp only [wellFormed, Bool.and_eq_true, decide_eq_true_eq] at h
    obtain ⟨⟨⟨hTag, hVoid⟩, hRaw⟩, hChildren⟩ := h
    have hOpen : feed r (startTag tag) =
        some { mode := .data, outer := (tag, close r.done r.text) :: r.outer } := by
      rw [feed_startTag hMode hTag, openTag, if_neg hVoid, if_neg hRaw]
    rw [render, List.append_assoc, feed_append_of_eq hOpen,
      feed_append_of_eq (feed_renderAll children hChildren rfl), feed_endTag (.inl rfl) hTag rfl,
      if_neg hRaw, ← hMode]
    rfl

/-- **Nodes are read back**, after what was read before them. -/
theorem feed_renderAll : ∀ (ns : List Node) {r : Reader}, allWellFormed ns = true →
    r.mode = .data → feed r (renderAll ns) = some
      { r with done := (absorb r.done r.text ns).1, text := (absorb r.done r.text ns).2 }
  | [], r, _, _ => rfl
  | n :: ns, r, h, hMode => by
    rw [allWellFormed, Bool.and_eq_true] at h
    rw [renderAll, feed_append_of_eq (feed_render n h.1 hMode)]
    refine (feed_renderAll ns (r := { r with
      done := (absorb r.done r.text [n]).1
      text := (absorb r.done r.text [n]).2 }) h.2 hMode).trans ?_
    cases n with
    | text s => rfl
    | element tag children => rfl
    | void tag => rfl
    | raw tag content => rfl

end

end Reader

/-- **Round trip.** A tree that was written is read back, in normal form. -/
theorem read_renderAll {ns : List Node} (h : allWellFormed ns = true) :
    read (renderAll ns) = some (normalAll ns) := by
  rw [read, Reader.feed_renderAll ns h rfl]
  rfl

-- ---------------------------------------------------------------------------
-- Plain texts
-- ---------------------------------------------------------------------------

theorem escape_append (s t : Str) : escape (s ++ t) = escape s ++ escape t := List.flatMap_append

/-- A character that is escaped as itself. -/
def isPlain (c : CodePoint) : Bool :=
  decide (c ≠ 0x26) && decide (c ≠ 0x3C) && decide (c ≠ 0x3E) && decide (c ≠ 0x22) &&
    decide (c ≠ 0x27)

/-- A text without special characters is escaped as it is. -/
theorem escape_eq_self {s : Str} (h : s.all isPlain = true) : escape s = s := by
  induction s with
  | nil => rfl
  | cons c s ih =>
    rw [List.all_cons, Bool.and_eq_true] at h
    obtain ⟨hc, hs⟩ := h
    simp only [isPlain, Bool.and_eq_true, decide_eq_true_eq] at hc
    have hChar : escapeChar c = [c] := by
      rw [escapeChar, if_neg hc.1.1.1.1, if_neg hc.1.1.1.2, if_neg hc.1.1.2, if_neg hc.1.2,
        if_neg hc.2]
    show escapeChar c ++ escape s = c :: s
    rw [hChar, ih hs]
    rfl

end Html
